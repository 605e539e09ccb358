import IwlwifiStack.DefragmentModel
import IwlwifiStack.ReplayProtection
import IwlwifiStack.SlotRing

/-!
# Reassembly of fragments

Runs of decryption followed by defragmentation over one cache.  Every fragment
in the cache is tagged with the frame it was received as, the key it was
decrypted with and its arrival index.

What an entry has collected is always the beginning of one frame: fragments 0,
1, 2, … of one sequence number, queue, type and pair of addresses.  The last
packet number of the entry is that of its last fragment as long as mac80211
has checked the packet number of the first; a first fragment with
`RX_FLAG_PN_VALIDATED` leaves the number of an earlier frame there.
-/

namespace IwlwifiStack

open ConditionedRun

/-- How a fragment was received. -/
structure Received where
  frame : RxFrame
  key : Option RxKey
  arrival : ℕ

/-- A fragment with the way it was received. -/
abbrev Fragment :=
  FragmentSkb Received

namespace Received

def usesSequentialPn (received : Received) : Bool :=
  requiresSequentialPn received.key received.frame.hdr

/-- mac80211 decrypted the frame, or took it decrypted, and checked its packet
number itself. -/
def pnChecked (received : Received) : Bool :=
  received.usesSequentialPn && received.frame.isCovered &&
    !received.frame.pnValidated &&
    !(received.frame.decrypted && received.frame.ivStripped)

def keyColor (received : Received) : Option ℕ :=
  received.key.map RxKey.color

def isProtected (received : Received) : Bool :=
  received.key.isSome &&
    (received.frame.hdr.hasProtected || received.frame.decrypted)

def NextPn (received later : Received) : Prop :=
  later.pnChecked = true ∧ later.keyColor = received.keyColor ∧
    later.frame.pn = received.frame.pn + 1

/-- Protected under the key of the first fragment, and under a CCMP or GCMP
key if that is one. -/
def SameKey (first later : Received) : Prop :=
  later.isProtected = true ∧ later.keyColor = first.keyColor ∧
    (first.usesSequentialPn = true → later.usesSequentialPn = true)

end Received

/-! ## Runs -/

def DefragOutcome.frames : DefragOutcome Received → List Fragment
  | .completed skb => [skb]
  | _ => []

/-- A cache with the fragments that passed decryption, and the completed
frames. -/
structure FragmentRun where
  cache : FragmentCache Received
  decrypted : List Fragment
  completed : List Fragment

namespace FragmentRun

def initial (cache : FragmentCache Received) : FragmentRun where
  cache := cache
  decrypted := []
  completed := []

/-- A frame and the time it arrives at. -/
structure Arrival where
  event : RxEvent Unit
  jiffies : ℕ

def tagged (r : FragmentRun) (event : RxEvent Unit) : RxEvent Received :=
  { event with
    tag :=
      { frame := event.frame
        key := event.key
        arrival := r.decrypted.length } }

def defragment (hz : ℕ) (r : FragmentRun) (rx : RxData Received)
    (jiffies : ℕ) : FragmentRun :=
  let result := ieee80211RxHDefragment hz r.cache rx jiffies
  { cache := result.2
    decrypted := r.decrypted ++ [rx.skb]
    completed := r.completed ++ result.1.frames }

def receive (hz : ℕ) (r : FragmentRun) (arrival : Arrival) : FragmentRun :=
  match ieee80211RxHDecrypt (r.tagged arrival.event) with
  | none => r
  | some rx => r.defragment hz rx arrival.jiffies

def step (hz : ℕ) (r : FragmentRun) (arrival : Arrival) :
    Option (FragmentRun × List Fragment) :=
  some (r.receive hz arrival, [])

end FragmentRun

/-! ## What an entry collects -/

def NotExhausted (parts : List Fragment) : Prop :=
  ∀ part ∈ parts, part.tag.frame.pn ≠ 2 ^ 48 - 1

def SameFrame (part other : Fragment) : Prop :=
  part.hdr.seq = other.hdr.seq ∧ part.hdr.seqnoIdx = other.hdr.seqnoIdx ∧
    part.hdr.ftype = other.hdr.ftype ∧ part.hdr.addr1 = other.hdr.addr1 ∧
    part.hdr.addr2 = other.hdr.addr2

theorem SameFrame.symm {part other : Fragment} (hsame : SameFrame part other) :
    SameFrame other part := by
  obtain ⟨hseq, hqueue, htype, haddr1, haddr2⟩ := hsame
  exact ⟨hseq.symm, hqueue.symm, htype.symm, haddr1.symm, haddr2.symm⟩

theorem SameFrame.trans {part other last : Fragment}
    (hsame : SameFrame part other) (hlast : SameFrame other last) :
    SameFrame part last := by
  obtain ⟨hseq, hqueue, htype, haddr1, haddr2⟩ := hsame
  obtain ⟨hseq', hqueue', htype', haddr1', haddr2'⟩ := hlast
  exact ⟨hseq.trans hseq', hqueue.trans hqueue', htype.trans htype',
    haddr1.trans haddr1', haddr2.trans haddr2'⟩

/-- The beginning of one frame. -/
structure Collected (parts : List Fragment) : Prop where
  frags : parts.map (fun part => part.hdr.frag) = List.range parts.length
  one_frame : ∀ part ∈ parts, ∀ other ∈ parts, SameFrame part other
  in_turn : parts.Pairwise fun part later =>
    part.tag.arrival < later.tag.arrival
  sequential : ∀ first ∈ parts.head?, first.tag.pnChecked = true →
    NotExhausted parts.dropLast →
    List.IsChain (fun part later => part.tag.NextPn later.tag) parts
  same_key : ∀ first ∈ parts.head?, first.tag.isProtected = true →
    ∀ part ∈ parts, first.tag.SameKey part.tag

/-- A complete frame: only its last fragment announces no other. -/
structure Assembled (parts : List Fragment) : Prop where
  collected : Collected parts
  more : ∀ part ∈ parts.dropLast, part.hdr.hasMorefrags = true
  last : ∀ part ∈ parts.getLast?, part.hdr.hasMorefrags = false

/-! ## Decrypted fragments -/

/-- What defragmentation may rely on after decryption. -/
structure DecryptedFrom (frame : RxFrame) (key : Option RxKey) (arrival : ℕ)
    (rx : RxData Received) : Prop where
  hdr : rx.skb.hdr = frame.hdr
  tag : rx.skb.tag = ⟨frame, key, arrival⟩
  color : rx.key.map RxKey.color = key.map RxKey.color
  uses : requiresSequentialPn rx.key rx.skb.hdr =
    rx.skb.tag.usesSequentialPn
  protection : (rx.key.isSome && (rx.skb.hdr.hasProtected || rx.decrypted)) =
    rx.skb.tag.isProtected
  pn : rx.pn = PacketNumber.zero ∨
    rx.skb.tag.pnChecked = true ∧ rx.pn = ccmpHdr2pn frame.body
  counter : rx.skb.tag.pnChecked = true → ∀ rxKey ∈ rx.key,
    rxKey.counters.rxPn frame.hdr.securityIdx = ccmpHdr2pn frame.body

theorem decryptedFrom_skipped {event : RxEvent Received} {arrival : ℕ}
    (htag : event.tag = ⟨event.frame, event.key, arrival⟩)
    (hskip : ((event.frame.decrypted && event.frame.ivStripped) ||
      !event.frame.hdr.hasProtected) = true) :
    DecryptedFrom event.frame event.key arrival
      (event.rxData event.key event.frame.decrypted PacketNumber.zero
        event.frame.body) := by
  refine ⟨rfl, htag, rfl, ?_, ?_, Or.inl rfl, ?_⟩
  · simp [RxEvent.rxData, htag, Received.usesSequentialPn]
  · simp [RxEvent.rxData, htag, Received.isProtected]
  · intro hchecked
    simp only [RxEvent.rxData, htag, Received.pnChecked, Bool.and_eq_true,
      Bool.not_eq_true'] at hchecked
    obtain ⟨⟨⟨huses, -⟩, -⟩, hstripped⟩ := hchecked
    obtain ⟨_, _, _, hprotected⟩ := requiresSequentialPn_iff.mp huses
    simp [hstripped, hprotected] at hskip

theorem decryptedFrom_aead {event : RxEvent Received} {arrival : ℕ}
    (htag : event.tag = ⟨event.frame, event.key, arrival⟩) {key : RxKey}
    (hkey : event.key = some key)
    (hprotected : event.frame.hdr.hasProtected = true)
    (hstripped : (event.frame.decrypted && event.frame.ivStripped) = false)
    {out : AeadOutcome} (hcipher : ∃ cipher, key.cipher = .aead cipher)
    (hcases : AeadCase key.counters event.frame out)
    (hcontinue : out.result = .rxContinue) :
    DecryptedFrom event.frame event.key arrival
      (event.rxData (some { key with counters := out.key }) true
        (out.fragPn.getD PacketNumber.zero) out.body) := by
  have huses : (⟨event.frame, event.key, arrival⟩ : Received).usesSequentialPn =
      true :=
    requiresSequentialPn_iff.mpr ⟨key, hkey, hcipher, hprotected⟩
  have hcolor : (some { key with counters := out.key }).map RxKey.color =
      event.key.map RxKey.color := by
    rw [hkey]
    rfl
  have hsame : requiresSequentialPn (some { key with counters := out.key })
      event.frame.hdr = event.tag.usesSequentialPn := by
    rw [requiresSequentialPn_counters, htag, Received.usesSequentialPn, hkey]
  have hprotection : ((some { key with counters := out.key }).isSome &&
      (event.frame.hdr.hasProtected || true)) = event.tag.isProtected := by
    simp [htag, Received.isProtected, hkey, hprotected]
  cases hcases with
  | notCovered hcovered =>
      refine ⟨rfl, htag, hcolor, hsame, hprotection, Or.inl rfl, ?_⟩
      intro hchecked
      simp [RxEvent.rxData, htag, Received.pnChecked, hcovered] at hchecked
  | rejected hdrop _ =>
      obtain ⟨reason, hresult⟩ := hdrop
      rw [hcontinue] at hresult
      cases hresult
  | prevalidated _ hvalidated _ hnone =>
      refine ⟨rfl, htag, hcolor, hsame, hprotection, ?_, ?_⟩
      · exact Or.inl (by simp [RxEvent.rxData, hnone])
      · intro hchecked
        simp [RxEvent.rxData, htag, Received.pnChecked, hvalidated] at hchecked
  | accepted payload hcovered hnotValidated _ =>
      have hchecked : event.tag.pnChecked = true := by
        simp only [htag, Received.pnChecked, huses, hcovered, hnotValidated,
          hstripped]
        rfl
      refine ⟨rfl, htag, hcolor, hsame, hprotection, ?_, ?_⟩
      · by_cases hfrag : event.frame.hdr.isFrag = true
        · exact Or.inr ⟨hchecked, by simp [RxEvent.rxData, hfrag]⟩
        · exact Or.inl (by simp [RxEvent.rxData, hfrag])
      · rintro _ rxKey hrxKey
        cases hrxKey
        simp [AeadKey.advanced]
  | trimFailed _ _ hdrop _ _ =>
      obtain ⟨reason, hresult⟩ := hdrop
      rw [hcontinue] at hresult
      cases hresult

theorem decryptedFrom_other {event : RxEvent Received} {arrival : ℕ}
    (htag : event.tag = ⟨event.frame, event.key, arrival⟩) {key : RxKey}
    (hkey : event.key = some key)
    (hprotected : event.frame.hdr.hasProtected = true)
    (hcipher : key.cipher = .other) (body : List UInt8) :
    DecryptedFrom event.frame event.key arrival
      (event.rxData (some key) true PacketNumber.zero body) := by
  have hnot : event.tag.usesSequentialPn = false := by
    rw [htag, Received.usesSequentialPn, hkey]
    exact requiresSequentialPn_other hcipher _
  refine ⟨rfl, htag, by rw [hkey]; rfl, ?_, ?_, Or.inl rfl, ?_⟩
  · exact (requiresSequentialPn_other hcipher _).trans hnot.symm
  · simp [RxEvent.rxData, htag, Received.isProtected, hkey, hprotected]
  · intro hchecked
    have huses : event.tag.pnChecked = true := hchecked
    simp [Received.pnChecked, hnot] at huses

theorem decryptedFrom {event : RxEvent Received} {arrival : ℕ}
    (htag : event.tag = ⟨event.frame, event.key, arrival⟩)
    {rx : RxData Received} (hrx : ieee80211RxHDecrypt event = some rx) :
    DecryptedFrom event.frame event.key arrival rx := by
  unfold ieee80211RxHDecrypt at hrx
  simp only at hrx
  by_cases hskip : ((event.frame.decrypted && event.frame.ivStripped) ||
      !event.frame.hdr.hasProtected) = true
  · rw [if_pos hskip] at hrx
    cases hrx
    exact decryptedFrom_skipped htag hskip
  · rw [if_neg hskip] at hrx
    simp only [Bool.or_eq_true, Bool.not_eq_true', not_or,
      Bool.not_eq_false, Bool.not_eq_true] at hskip
    obtain ⟨hstripped, hprotected⟩ := hskip
    cases hkey : event.key with
    | none => simp [hkey] at hrx
    | some key =>
        rw [← hkey]
        simp only [hkey] at hrx
        by_cases htainted : key.tainted = true
        · simp [htainted] at hrx
        · rw [if_neg htainted] at hrx
          cases hcipher : key.cipher with
          | aead cipher =>
              simp only [hcipher] at hrx
              split_ifs at hrx with hcontinue
              cases hrx
              rw [← hcipher]
              exact decryptedFrom_aead htag hkey hprotected hstripped
                ⟨cipher, hcipher⟩ (cipher.decrypt_cases _ _ _ _) hcontinue
          | other =>
              simp only [hcipher, Option.map_eq_some_iff] at hrx
              obtain ⟨body, -, rfl⟩ := hrx
              exact decryptedFrom_other htag hkey hprotected hcipher body

/-! ## One entry -/

theorem Received.isProtected_of_usesSequentialPn {received : Received}
    (huses : received.usesSequentialPn = true) :
    received.isProtected = true := by
  obtain ⟨key, hkey, -, hprotected⟩ := requiresSequentialPn_iff.mp huses
  rw [Option.mem_def] at hkey
  simp [Received.isProtected, hkey, hprotected]

theorem Received.usesSequentialPn_of_pnChecked {received : Received}
    (hchecked : received.pnChecked = true) :
    received.usesSequentialPn = true := by
  simp only [Received.pnChecked, Bool.and_eq_true] at hchecked
  exact hchecked.1.1.1

/-- An entry and the fragments `first :: rest` it holds. -/
structure EntryTracks (entry : FragmentEntry Received) (first : Fragment)
    (rest : List Fragment) : Prop where
  collected : Collected (first :: rest)
  more : ∀ part ∈ first :: rest, part.hdr.hasMorefrags = true
  seq : first.hdr.seq = entry.seq
  queue : first.hdr.seqnoIdx = entry.rxQueue
  last : entry.lastFrag = rest.length
  check : entry.checkSequentialPn = first.tag.usesSequentialPn
  color : first.tag.isProtected = true →
    first.tag.keyColor = some entry.keyColor
  marked : first.tag.isProtected = true → entry.isProtected = true
  pn : first.tag.pnChecked = true → NotExhausted (first :: rest).dropLast →
    ∀ part ∈ (first :: rest).getLast?,
      entry.lastPn.value = part.tag.frame.pn ∧
        part.tag.keyColor = some entry.keyColor

theorem EntryTracks.ofFirst {frame : RxFrame} {key : Option RxKey}
    {arrival : ℕ} {rx : RxData Received}
    (hrx : DecryptedFrom frame key arrival rx)
    (entry : FragmentEntry Received) (jiffies : ℕ)
    (hfrag : rx.skb.hdr.frag = 0) (hmore : rx.skb.hdr.hasMorefrags = true) :
    EntryTracks ((entry.restart rx.skb.hdr.frag rx.skb.hdr.seq
      rx.skb.hdr.seqnoIdx rx.skb jiffies).protectFirst rx) rx.skb [] := by
  have hcollected : Collected [rx.skb] := by
    refine ⟨by simp [hfrag], ?_, List.pairwise_singleton _ _, ?_, ?_⟩
    · intro part hpart other hother
      rw [List.mem_singleton.mp hpart, List.mem_singleton.mp hother]
      exact ⟨rfl, rfl, rfl, rfl, rfl⟩
    · exact fun _ _ _ _ => List.isChain_singleton _
    · intro first hfirst hprotected part hpart
      rw [List.mem_singleton.mp hpart]
      cases hfirst
      exact ⟨hprotected, rfl, id⟩
  have hmore' : ∀ part ∈ [rx.skb], part.hdr.hasMorefrags = true := by
    intro part hpart
    rw [List.mem_singleton.mp hpart]
    exact hmore
  have hcolor : rx.skb.tag.keyColor = rx.key.map RxKey.color := by
    rw [hrx.tag, Received.keyColor, hrx.color]
  unfold FragmentEntry.protectFirst
  cases hkey : rx.key with
  | none =>
      have huses : rx.skb.tag.usesSequentialPn = false := by
        rw [← hrx.uses, hkey]
        rfl
      have hplain : rx.skb.tag.isProtected = false := by
        rw [← hrx.protection, hkey]
        rfl
      refine ⟨hcollected, hmore', rfl, rfl, hfrag, huses.symm, ?_, ?_, ?_⟩
      · exact fun h => absurd (hplain.symm.trans h) (by decide)
      · exact fun h => absurd (hplain.symm.trans h) (by decide)
      · intro hchecked
        have hbad := Received.usesSequentialPn_of_pnChecked hchecked
        exact absurd (huses.symm.trans hbad) (by decide)
  | some rxKey =>
      have hcolor' : rx.skb.tag.keyColor = some rxKey.color := by
        rw [hcolor, hkey]
        rfl
      simp only
      rw [← hkey, hrx.uses]
      by_cases huses : rx.skb.tag.usesSequentialPn = true
      · rw [if_pos huses]
        refine ⟨hcollected, hmore', rfl, rfl, hfrag, huses.symm,
          fun _ => hcolor', fun _ => rfl, ?_⟩
        intro hchecked _ part hpart
        have hsame : rx.skb = part := by simpa using hpart
        rw [← hsame]
        refine ⟨?_, hcolor'⟩
        simp only
        rw [hrx.hdr, hrx.counter hchecked rxKey hkey, hrx.tag,
          RxFrame.pn_eq]
      · rw [if_neg huses]
        have hprotection := hrx.protection
        rw [hkey, Option.isSome_some, Bool.true_and] at hprotection
        have hpn : rx.skb.tag.pnChecked = true → False := fun hchecked =>
          huses (Received.usesSequentialPn_of_pnChecked hchecked)
        have hnot : false = rx.skb.tag.usesSequentialPn :=
          (Bool.eq_false_iff.mpr huses).symm
        rw [hprotection]
        by_cases hmarked : rx.skb.tag.isProtected = true
        · rw [if_pos hmarked]
          exact ⟨hcollected, hmore', rfl, rfl, hfrag, hnot,
            fun _ => hcolor', fun _ => rfl, fun h => absurd h hpn⟩
        · rw [if_neg hmarked]
          exact ⟨hcollected, hmore', rfl, rfl, hfrag, hnot,
            fun h => absurd h hmarked, fun h => absurd h hmarked,
            fun h => absurd h hpn⟩

/-- A fragment that the entry accepts. -/
structure Continues (entry : FragmentEntry Received) (first : Fragment)
    (rx : RxData Received) (pn : PacketNumber) : Prop where
  sequential : first.tag.pnChecked = true →
    entry.lastPn.value ≠ 2 ^ 48 - 1 →
    rx.skb.tag.pnChecked = true ∧
      rx.skb.tag.frame.pn = entry.lastPn.value + 1 ∧
      pn.value = rx.skb.tag.frame.pn
  same_key : first.tag.isProtected = true →
    rx.skb.tag.isProtected = true ∧
      rx.skb.tag.keyColor = some entry.keyColor ∧
      (first.tag.usesSequentialPn = true →
        rx.skb.tag.usesSequentialPn = true)

theorem EntryTracks.continues {entry : FragmentEntry Received}
    {first : Fragment} {rest : List Fragment}
    (htracks : EntryTracks entry first rest) {frame : RxFrame}
    {key : Option RxKey} {arrival : ℕ} {rx : RxData Received}
    (hrx : DecryptedFrom frame key arrival rx) {pn : PacketNumber}
    (hcheck : entry.checkLater rx = .ok pn) :
    Continues entry first rx pn := by
  have hcolor : rx.skb.tag.keyColor = rx.key.map RxKey.color := by
    rw [hrx.tag, Received.keyColor, hrx.color]
  unfold FragmentEntry.checkLater at hcheck
  rw [htracks.check] at hcheck
  by_cases huses : first.tag.usesSequentialPn = true
  · rw [if_pos huses] at hcheck
    cases hkey : rx.key with
    | none => simp [hkey] at hcheck
    | some rxKey =>
        simp only [hkey] at hcheck
        split_ifs at hcheck with hrequires hsame hpn
        cases hcheck
        rw [ne_eq, not_not] at hsame hpn
        rw [PacketNumber.memcmp_eq_zero_iff] at hpn
        have hrxUses : rx.skb.tag.usesSequentialPn = true := by
          rw [← hrx.uses, hkey]
          simpa using hrequires
        refine ⟨fun hchecked hlast => ?_, fun _ =>
          ⟨Received.isProtected_of_usesSequentialPn hrxUses,
            by rw [hcolor, hkey, hsame]; rfl, fun _ => hrxUses⟩⟩
        have hlt : entry.lastPn.value < 2 ^ 48 := by
          have hbytes := ByteOrder.bigEndian_lt entry.lastPn.bytes
          rwa [entry.lastPn.length_eq] at hbytes
        have hvalue := entry.lastPn.value_increment
        rw [Nat.mod_eq_of_lt (by omega)] at hvalue
        -- the number before was not the last one, so `ccm_gcm.pn` was written
        rcases hrx.pn with hzero | ⟨hrxChecked, hrxPn⟩
        · rw [hpn, hzero] at hvalue
          have hzeroValue : PacketNumber.zero.value = 0 := by decide
          omega
        · have hframePn : rx.skb.tag.frame.pn = rx.pn.value := by
            rw [hrx.tag, hrxPn, RxFrame.pn_eq]
          refine ⟨hrxChecked, ?_, ?_⟩
          · rw [hframePn, ← hpn, hvalue]
          · rw [hframePn, hpn]
  · rw [if_neg huses] at hcheck
    refine ⟨fun hchecked => absurd
      (Received.usesSequentialPn_of_pnChecked hchecked) huses,
      fun hmarked => ?_⟩
    rw [if_pos (htracks.marked hmarked)] at hcheck
    cases hkey : rx.key with
    | none => simp [hkey] at hcheck
    | some rxKey =>
        simp only [hkey] at hcheck
        split_ifs at hcheck with hbad hcolorBad
        simp only [Bool.or_eq_true, Bool.and_eq_true, Bool.not_eq_true',
          decide_eq_true_eq, not_or, not_and, Bool.not_eq_false,
          not_not] at hbad
        have hprotection := hrx.protection
        rw [hkey] at hprotection
        refine ⟨?_, by rw [hcolor, hkey, ← hbad.2]; rfl,
          fun h => absurd h huses⟩
        rw [← hprotection, Option.isSome_some, Bool.true_and,
          Bool.or_eq_true]
        by_cases hprotected : rx.skb.hdr.hasProtected = true
        · exact Or.inl hprotected
        · exact Or.inr (hbad.1 (by simpa using hprotected))

theorem NotExhausted.dropLast {parts : List Fragment}
    (hexhausted : NotExhausted parts) : NotExhausted parts.dropLast :=
  fun part hpart => hexhausted part (List.mem_of_mem_dropLast hpart)

theorem Collected.append {first skb : Fragment} {rest : List Fragment}
    (hcollected : Collected (first :: rest))
    (hfrag : skb.hdr.frag = rest.length + 1) (hsame : SameFrame skb first)
    (harrival : ∀ part ∈ first :: rest, part.tag.arrival < skb.tag.arrival)
    (hnext : first.tag.pnChecked = true → NotExhausted (first :: rest) →
      ∀ part ∈ (first :: rest).getLast?, part.tag.NextPn skb.tag)
    (hkey : first.tag.isProtected = true → first.tag.SameKey skb.tag) :
    Collected (first :: rest ++ [skb]) := by
  have hfirst : first ∈ first :: rest := List.mem_cons_self
  refine ⟨?_, ?_, ?_, ?_, ?_⟩
  · rw [List.map_append, hcollected.frags, List.length_append,
      List.length_singleton, List.range_succ, List.map_singleton, hfrag,
      List.length_cons]
  · have hall : ∀ part ∈ first :: rest ++ [skb], SameFrame part first := by
      intro part hpart
      rcases List.mem_append.mp hpart with hold | hnew
      · exact hcollected.one_frame part hold first hfirst
      · rw [List.mem_singleton.mp hnew]
        exact hsame
    intro part hpart other hother
    exact (hall part hpart).trans (hall other hother).symm
  · refine List.pairwise_append.mpr
      ⟨hcollected.in_turn, List.pairwise_singleton _ _, ?_⟩
    intro part hpart later hlater
    rw [List.mem_singleton.mp hlater]
    exact harrival part hpart
  · intro head hhead hchecked hexhausted
    cases hhead
    rw [List.dropLast_concat] at hexhausted
    refine List.isChain_append.mpr
      ⟨hcollected.sequential first rfl hchecked hexhausted.dropLast,
        List.isChain_singleton _, ?_⟩
    intro part hpart later hlater
    cases hlater
    exact hnext hchecked hexhausted part hpart
  · intro head hhead hmarked part hpart
    cases hhead
    rcases List.mem_append.mp hpart with hold | hnew
    · exact hcollected.same_key first rfl hmarked part hold
    · rw [List.mem_singleton.mp hnew]
      exact hkey hmarked

theorem EntryTracks.collects {entry : FragmentEntry Received}
    {first : Fragment} {rest : List Fragment}
    (htracks : EntryTracks entry first rest) {rx : RxData Received}
    {pn : PacketNumber} (hcontinues : Continues entry first rx pn)
    (hfound : entry.continuedBy rx.skb.hdr.frag rx.skb.hdr.seq
      rx.skb.hdr.seqnoIdx rx.skb.hdr = true)
    (hlist : entry.skbList = first :: rest)
    (harrival : ∀ part ∈ first :: rest,
      part.tag.arrival < rx.skb.tag.arrival) :
    Collected (first :: rest ++ [rx.skb]) ∧
      rx.skb.hdr.frag = rest.length + 1 := by
  obtain ⟨head, tail, hlist', hseq, hqueue, hfrag, htype, haddr1, haddr2⟩ :=
    FragmentEntry.continuedBy_iff.mp hfound
  rw [hlist] at hlist'
  cases hlist'
  have hfrag' : rx.skb.hdr.frag = rest.length + 1 := by
    rw [← hfrag, htracks.last]
  refine ⟨htracks.collected.append hfrag'
    ⟨hseq.symm.trans htracks.seq.symm, hqueue.symm.trans htracks.queue.symm,
      htype, haddr1, haddr2⟩ harrival ?_ ?_, hfrag'⟩
  · intro hchecked hexhausted part hpart
    obtain ⟨hpn, hcolor⟩ :=
      htracks.pn hchecked hexhausted.dropLast part hpart
    obtain ⟨hrx, hrxPn, -⟩ := hcontinues.sequential hchecked (by
      rw [hpn]
      exact hexhausted part (List.mem_of_mem_getLast? hpart))
    obtain ⟨-, hrxColor, -⟩ := hcontinues.same_key
      (Received.isProtected_of_usesSequentialPn
        (Received.usesSequentialPn_of_pnChecked hchecked))
    exact ⟨hrx, hrxColor.trans hcolor.symm, by rw [hrxPn, hpn]⟩
  · intro hmarked
    obtain ⟨hrx, hrxColor, hrxUses⟩ := hcontinues.same_key hmarked
    exact ⟨hrx, hrxColor.trans (htracks.color hmarked).symm, hrxUses⟩

theorem EntryTracks.assembled {entry : FragmentEntry Received}
    {first skb : Fragment} {rest : List Fragment}
    (htracks : EntryTracks entry first rest)
    (hcollected : Collected (first :: rest ++ [skb]))
    (hlast : skb.hdr.hasMorefrags = false) :
    Assembled (first :: (rest ++ [skb])) := by
  refine ⟨hcollected, ?_, ?_⟩
  · rw [← List.cons_append, List.dropLast_concat]
    exact htracks.more
  · rw [← List.cons_append, List.getLast?_append]
    intro part hpart
    have hsame : skb = part := by simpa using hpart
    rw [← hsame]
    exact hlast

theorem EntryTracks.append {entry : FragmentEntry Received}
    {first : Fragment} {rest : List Fragment}
    (htracks : EntryTracks entry first rest) {rx : RxData Received}
    {pn : PacketNumber} (hcontinues : Continues entry first rx pn)
    (hcollected : Collected (first :: rest ++ [rx.skb]))
    (hfrag : rx.skb.hdr.frag = rest.length + 1)
    (hmore : rx.skb.hdr.hasMorefrags = true) :
    EntryTracks (entry.append rx pn) first (rest ++ [rx.skb]) := by
  refine ⟨hcollected, ?_, htracks.seq, htracks.queue, ?_, htracks.check,
    htracks.color, htracks.marked, ?_⟩
  · intro part hpart
    rw [← List.cons_append] at hpart
    rcases List.mem_append.mp hpart with hold | hnew
    · exact htracks.more part hold
    · rw [List.mem_singleton.mp hnew]
      exact hmore
  · simp [FragmentEntry.append, hfrag]
  · intro hchecked hexhausted part hpart
    rw [← List.cons_append, List.dropLast_concat] at hexhausted
    have hsame : rx.skb = part := by
      rw [← List.cons_append, List.getLast?_append] at hpart
      simpa using hpart
    have hlast := List.getLast?_eq_some_getLast (List.cons_ne_nil first rest)
    have hold := (htracks.pn hchecked hexhausted.dropLast _ hlast).1
    obtain ⟨-, -, hpn⟩ := hcontinues.sequential hchecked (by
      rw [hold]
      exact hexhausted _ (List.getLast_mem (List.cons_ne_nil first rest)))
    obtain ⟨-, hcolor, -⟩ := hcontinues.same_key
      (Received.isProtected_of_usesSequentialPn
        (Received.usesSequentialPn_of_pnChecked hchecked))
    rw [← hsame]
    exact ⟨hpn, hcolor⟩

/-! ## The cache -/

def FragmentEntry.arrivals (entry : FragmentEntry Received) : Multiset ℕ :=
  ↑(entry.skbList.map fun part => part.tag.arrival)

def assembledArrivals (assembly : List (Fragment × List Fragment)) :
    Multiset ℕ :=
  ↑(assembly.flatMap fun parts =>
    (parts.1 :: parts.2).map fun part => part.tag.arrival)

def IsPart (decrypted : List Fragment) (part : Fragment) : Prop :=
  decrypted[part.tag.arrival]? = some part

theorem FragmentEntry.arrivals_append (entry : FragmentEntry Received)
    (rx : RxData Received) (pn : PacketNumber) :
    (entry.append rx pn).arrivals =
      entry.arrivals + {rx.skb.tag.arrival} := by
  rw [FragmentEntry.arrivals, FragmentEntry.append, List.map_append,
    ← Multiset.coe_add]
  rfl

/-- The entries of a cache and the frames it completed: `assembly` lists the
parts of every completed frame. -/
structure CacheSound (entries : ℕ → FragmentEntry Received)
    (decrypted completed : List Fragment)
    (assembly : List (Fragment × List Fragment)) : Prop where
  tracks : ∀ i < 4, ∀ first rest, (entries i).skbList = first :: rest →
    EntryTracks (entries i) first rest
  held : ∀ i < 4, ∀ part ∈ (entries i).skbList, IsPart decrypted part
  completed : completed = assembly.map fun parts => parts.1.merge parts.2
  assembled : ∀ parts ∈ assembly, Assembled (parts.1 :: parts.2) ∧
    ∀ part ∈ parts.1 :: parts.2, IsPart decrypted part
  once : assembledArrivals assembly +
    SlotRing.total 4 FragmentEntry.arrivals entries ≤
      Multiset.range decrypted.length

theorem IsPart.append {decrypted : List Fragment} {part : Fragment}
    (hpart : IsPart decrypted part) (skb : Fragment) :
    IsPart (decrypted ++ [skb]) part := by
  unfold IsPart at hpart ⊢
  rw [List.getElem?_append_left (List.getElem?_eq_some_iff.mp hpart).1]
  exact hpart

theorem IsPart.arrival_lt {decrypted : List Fragment} {part : Fragment}
    (hpart : IsPart decrypted part) : part.tag.arrival < decrypted.length :=
  (List.getElem?_eq_some_iff.mp hpart).1

theorem IsPart.last {decrypted : List Fragment} {skb : Fragment}
    (harrival : skb.tag.arrival = decrypted.length) :
    IsPart (decrypted ++ [skb]) skb := by
  simp [IsPart, harrival]

namespace CacheSound

variable {entries : ℕ → FragmentEntry Received}
  {decrypted completed : List Fragment}
  {assembly : List (Fragment × List Fragment)}

theorem pass (hsound : CacheSound entries decrypted completed assembly)
    (skb : Fragment) :
    CacheSound entries (decrypted ++ [skb]) completed assembly := by
  refine ⟨hsound.tracks, fun i hi part hpart =>
      (hsound.held i hi part hpart).append skb, hsound.completed,
    fun parts hparts => ⟨(hsound.assembled parts hparts).1,
      fun part hpart => ((hsound.assembled parts hparts).2 part hpart).append
        skb⟩, ?_⟩
  · refine hsound.once.trans ?_
    rw [List.length_append, List.length_singleton, Multiset.range_succ]
    exact Multiset.le_cons_self _ _

theorem purged (hsound : CacheSound entries decrypted completed assembly)
    {after : ℕ → FragmentEntry Received}
    (hafter : ∀ i, after i = entries i ∨ after i = (entries i).purge) :
    CacheSound after decrypted completed assembly := by
  refine ⟨fun i hi first rest hlist => ?_, fun i hi part hpart => ?_,
    hsound.completed, hsound.assembled, ?_⟩
  · rcases hafter i with hkept | hpurged
    · rw [hkept] at hlist ⊢
      exact hsound.tracks i hi first rest hlist
    · rw [hpurged] at hlist
      cases hlist
  · rcases hafter i with hkept | hpurged
    · rw [hkept] at hpart
      exact hsound.held i hi part hpart
    · rw [hpurged] at hpart
      cases hpart
  · refine le_trans (add_le_add le_rfl (Finset.sum_le_sum fun i _ => ?_))
      hsound.once
    rcases hafter i with hkept | hpurged
    · rw [hkept]
    · rw [hpurged]
      exact Multiset.zero_le _

/-- One entry is replaced; the arriving fragment may be in it, and the parts
it held may have become a frame. -/
theorem replaced (hsound : CacheSound entries decrypted completed assembly)
    {skb : Fragment} (harrival : skb.tag.arrival = decrypted.length)
    {i : ℕ} (hi : i < 4) (entry : FragmentEntry Received)
    (finished : List (Fragment × List Fragment))
    (htracks : ∀ first rest, entry.skbList = first :: rest →
      EntryTracks entry first rest)
    (hheld : ∀ part ∈ entry.skbList, part ∈ (entries i).skbList ∨ part = skb)
    (hfinished : ∀ parts ∈ finished, Assembled (parts.1 :: parts.2) ∧
      ∀ part ∈ parts.1 :: parts.2,
        part ∈ (entries i).skbList ∨ part = skb)
    (honce : assembledArrivals finished + entry.arrivals ≤
      (entries i).arrivals + {skb.tag.arrival}) :
    CacheSound (Function.update entries i entry) (decrypted ++ [skb])
      (completed ++ finished.map fun parts => parts.1.merge parts.2)
      (assembly ++ finished) := by
  have hpassed := hsound.pass skb
  have hpart : ∀ part, part ∈ (entries i).skbList ∨ part = skb →
      IsPart (decrypted ++ [skb]) part := by
    rintro part (hold | rfl)
    · exact hpassed.held i hi part hold
    · exact IsPart.last harrival
  refine ⟨fun j hj first rest hlist => ?_, fun j hj part hmem => ?_, ?_,
    fun parts hparts => ?_, ?_⟩
  · by_cases heq : j = i
    · subst heq
      rw [Function.update_self] at hlist ⊢
      exact htracks first rest hlist
    · rw [Function.update_of_ne heq] at hlist ⊢
      exact hsound.tracks j hj first rest hlist
  · by_cases heq : j = i
    · subst heq
      rw [Function.update_self] at hmem
      exact hpart part (hheld part hmem)
    · rw [Function.update_of_ne heq] at hmem
      exact hpassed.held j hj part hmem
  · rw [List.map_append, hsound.completed]
  · rcases List.mem_append.mp hparts with hold | hnew
    · exact hpassed.assembled parts hold
    · exact ⟨(hfinished parts hnew).1, fun part hmem =>
        hpart part ((hfinished parts hnew).2 part hmem)⟩
  · have htotal := SlotRing.total_update FragmentEntry.arrivals entries entry hi
    have hsum : assembledArrivals (assembly ++ finished) =
        assembledArrivals assembly + assembledArrivals finished := by
      simp [assembledArrivals]
    rw [harrival] at honce
    rw [hsum, List.length_append, List.length_singleton, Multiset.range_succ,
      ← Multiset.singleton_add]
    refine le_of_add_le_add_right (a := (entries i).arrivals) ?_
    calc
      assembledArrivals assembly + assembledArrivals finished +
            SlotRing.total 4 FragmentEntry.arrivals
              (Function.update entries i entry) + (entries i).arrivals
          = assembledArrivals assembly +
              SlotRing.total 4 FragmentEntry.arrivals entries +
                (assembledArrivals finished + entry.arrivals) := by
            rw [add_assoc _ _ (entries i).arrivals, htotal]
            abel
      _ ≤ Multiset.range decrypted.length +
            ((entries i).arrivals + {decrypted.length}) :=
          add_le_add hsound.once honce
      _ = {decrypted.length} + Multiset.range decrypted.length +
            (entries i).arrivals := by abel

end CacheSound

/-! ## Steps -/

theorem FragmentEntry.protectFirst_skbList {τ : Type*}
    (entry : FragmentEntry τ) (rx : RxData τ) :
    (entry.protectFirst rx).skbList = entry.skbList := by
  unfold FragmentEntry.protectFirst
  cases rx.key with
  | none => rfl
  | some key =>
      simp only
      split_ifs <;> rfl

theorem FragmentEntry.complete_frames {entry : FragmentEntry Received}
    {first : Fragment} {rest : List Fragment}
    (hlist : entry.skbList = first :: rest) (expands : Bool) :
    (entry.complete expands).frames = [] ∨
      (entry.complete expands).frames = [first.merge rest] := by
  unfold FragmentEntry.complete
  simp only [hlist]
  split_ifs
  · exact Or.inl rfl
  · exact Or.inl rfl
  · exact Or.inr rfl
  · exact Or.inl rfl
  · exact Or.inr rfl

section Steps

variable {hz : ℕ} {cache : FragmentCache Received}
  {decrypted completed : List Fragment}
  {assembly : List (Fragment × List Fragment)} {rx : RxData Received}

def StepSound (decrypted completed : List Fragment) (skb : Fragment)
    (result : DefragOutcome Received × FragmentCache Received) : Prop :=
  ∃ assembly, CacheSound result.2.entries (decrypted ++ [skb])
    (completed ++ result.1.frames) assembly

theorem defragmentFirst_sound {frame : RxFrame} {key : Option RxKey}
    (hsound : CacheSound cache.entries decrypted completed assembly)
    (hrx : DecryptedFrom frame key decrypted.length rx)
    (hfrag : rx.skb.hdr.frag = 0) (hmore : rx.skb.hdr.hasMorefrags = true)
    (jiffies : ℕ) :
    StepSound decrypted completed rx.skb
      (.queued, defragmentFirst cache rx jiffies) := by
  have htracks := EntryTracks.ofFirst hrx (cache.entries cache.next) jiffies
    hfrag hmore
  have harrival : rx.skb.tag.arrival = decrypted.length := by rw [hrx.tag]
  have hlist : (((cache.entries cache.next).restart rx.skb.hdr.frag
      rx.skb.hdr.seq rx.skb.hdr.seqnoIdx rx.skb jiffies).protectFirst
        rx).skbList = [rx.skb] :=
    FragmentEntry.protectFirst_skbList _ _
  have hreplaced := hsound.replaced harrival cache.next_lt
    (((cache.entries cache.next).restart rx.skb.hdr.frag
      rx.skb.hdr.seq rx.skb.hdr.seqnoIdx rx.skb jiffies).protectFirst rx) []
    (fun first rest h => by
      rw [hlist] at h
      cases h
      exact htracks)
    (fun part hpart => Or.inr (by
      rw [hlist] at hpart
      exact List.mem_singleton.mp hpart))
    (fun _ hparts => nomatch hparts)
    (by
      simp [assembledArrivals, FragmentEntry.arrivals, hlist])
  refine ⟨assembly ++ [], ?_⟩
  simpa [defragmentFirst, ieee80211ReassembleAdd, DefragOutcome.frames] using
    hreplaced

theorem CacheSound.appended {found : FragmentCache Received}
    (hsound : CacheSound found.entries decrypted completed assembly)
    (harrival : rx.skb.tag.arrival = decrypted.length)
    {idx : ℕ} (hidx : idx < 4)
    {first : Fragment} {rest : List Fragment}
    (hlist : (found.entries idx).skbList = first :: rest) {pn : PacketNumber}
    (htracks : EntryTracks ((found.entries idx).append rx pn) first
      (rest ++ [rx.skb])) :
    StepSound decrypted completed rx.skb
      (.queued, { found with
        entries := Function.update found.entries idx
          ((found.entries idx).append rx pn) }) := by
  have hlist' : ((found.entries idx).append rx pn).skbList =
      first :: (rest ++ [rx.skb]) := by
    simp [FragmentEntry.append, hlist]
  have hreplaced := hsound.replaced harrival hidx
    ((found.entries idx).append rx pn) []
    (fun head tail h => by
      rw [hlist'] at h
      cases h
      exact htracks)
    (fun part hpart => by
      simpa [FragmentEntry.append] using hpart)
    (fun _ hparts => nomatch hparts)
    (by
      rw [FragmentEntry.arrivals_append]
      simp [assembledArrivals])
  refine ⟨assembly ++ [], ?_⟩
  simpa [DefragOutcome.frames] using hreplaced

/-- The last fragment of a frame empties the entry; the frame comes out unless
there is no memory for it. -/
theorem CacheSound.finished {found : FragmentCache Received}
    (hsound : CacheSound found.entries decrypted completed assembly)
    (harrival : rx.skb.tag.arrival = decrypted.length)
    {idx : ℕ} (hidx : idx < 4)
    {first : Fragment} {rest : List Fragment}
    (hlist : (found.entries idx).skbList = first :: rest) {pn : PacketNumber}
    (hassembled : Assembled (first :: (rest ++ [rx.skb]))) :
    StepSound decrypted completed rx.skb
      (((found.entries idx).append rx pn).complete rx.expands, { found with
        entries := Function.update found.entries idx
          ((found.entries idx).append rx pn).purge }) := by
  have hlist' : ((found.entries idx).append rx pn).skbList =
      first :: (rest ++ [rx.skb]) := by
    simp [FragmentEntry.append, hlist]
  have hreplaced : ∀ finished : List (Fragment × List Fragment),
      finished = [] ∨ finished = [(first, rest ++ [rx.skb])] →
      CacheSound (Function.update found.entries idx
          ((found.entries idx).append rx pn).purge) (decrypted ++ [rx.skb])
        (completed ++ finished.map fun parts => parts.1.merge parts.2)
        (assembly ++ finished) := by
    intro finished hfinished
    refine hsound.replaced harrival hidx
      ((found.entries idx).append rx pn).purge finished
      (fun head tail h => by simp [FragmentEntry.purge] at h)
      (fun part hpart => by simp [FragmentEntry.purge] at hpart)
      (fun parts hparts => ?_) ?_
    · rcases hfinished with rfl | rfl
      · cases hparts
      · rw [List.mem_singleton.mp hparts]
        refine ⟨hassembled, fun part hpart => ?_⟩
        rw [hlist]
        simpa [or_assoc] using hpart
    · rcases hfinished with rfl | rfl
      · simp [assembledArrivals, FragmentEntry.arrivals, FragmentEntry.purge]
      · rw [← FragmentEntry.arrivals_append _ rx pn]
        simp [assembledArrivals, FragmentEntry.arrivals, FragmentEntry.purge,
          hlist']
  rcases FragmentEntry.complete_frames hlist' rx.expands with hnone | hone
  · refine ⟨assembly ++ [], ?_⟩
    rw [hnone]
    simpa using hreplaced [] (Or.inl rfl)
  · refine ⟨assembly ++ [(first, rest ++ [rx.skb])], ?_⟩
    rw [hone]
    simpa using hreplaced [(first, rest ++ [rx.skb])] (Or.inr rfl)

theorem defragmentLater_sound {frame : RxFrame} {key : Option RxKey}
    (hsound : CacheSound cache.entries decrypted completed assembly)
    (hrx : DecryptedFrom frame key decrypted.length rx)
    (jiffies : ℕ) :
    StepSound decrypted completed rx.skb
      (defragmentLater hz cache rx jiffies) := by
  have hlooked := reassembleFind_spec hz rx.skb.hdr.frag rx.skb.hdr.seq
    rx.skb.hdr.seqnoIdx cache rx.skb.hdr jiffies
  have harrival : rx.skb.tag.arrival = decrypted.length := by rw [hrx.tag]
  unfold defragmentLater
  simp only
  generalize ieee80211ReassembleFind hz cache rx.skb.hdr.frag rx.skb.hdr.seq
    rx.skb.hdr.seqnoIdx rx.skb.hdr jiffies = found at hlooked ⊢
  have hpurged : CacheSound found.1.entries decrypted completed assembly :=
    hsound.purged fun i => (hlooked.kept i).imp_right And.left
  have hunchanged : ∀ reason, StepSound decrypted completed rx.skb
      (.dropped reason, found.1) := fun _ =>
    ⟨assembly, by simpa [DefragOutcome.frames] using hpurged.pass rx.skb⟩
  cases hidx : found.2 with
  | none => exact hunchanged _
  | some idx =>
      simp only
      have hlt := hlooked.found_lt idx hidx
      have hkept := hlooked.found_kept idx hidx
      have hcontinued := hlooked.found_continued idx hidx
      rw [← hkept] at hcontinued
      obtain ⟨first, rest, hlist, -⟩ :=
        FragmentEntry.continuedBy_iff.mp hcontinued
      have htracks := hpurged.tracks idx hlt first rest hlist
      have hparts : ∀ part ∈ first :: rest, IsPart decrypted part :=
        fun part hpart => hpurged.held idx hlt part (by rwa [hlist])
      cases hcheck : (found.1.entries idx).checkLater rx with
      | error reason => exact hunchanged _
      | ok pn =>
          simp only
          have hcontinues := htracks.continues hrx hcheck
          obtain ⟨hcollected, hfrag⟩ := htracks.collects hcontinues hcontinued
            hlist fun part hpart => by
              rw [harrival]
              exact (hparts part hpart).arrival_lt
          by_cases hmore : rx.skb.hdr.hasMorefrags = true
          · rw [if_pos hmore]
            exact hpurged.appended harrival hlt hlist
              (htracks.append hcontinues hcollected hfrag hmore)
          · rw [if_neg hmore]
            exact hpurged.finished harrival hlt hlist
              (htracks.assembled hcollected (by simpa using hmore))

end Steps

theorem defragment_sound {hz : ℕ} {cache : FragmentCache Received}
    {decrypted completed : List Fragment}
    {assembly : List (Fragment × List Fragment)} {rx : RxData Received}
    {frame : RxFrame} {key : Option RxKey}
    (hsound : CacheSound cache.entries decrypted completed assembly)
    (hrx : DecryptedFrom frame key decrypted.length rx)
    (jiffies : ℕ) :
    StepSound decrypted completed rx.skb
      (ieee80211RxHDefragment hz cache rx jiffies) := by
  have hunchanged : ∀ outcome : DefragOutcome Received, outcome.frames = [] →
      StepSound decrypted completed rx.skb (outcome, cache) := by
    intro outcome hnone
    refine ⟨assembly, ?_⟩
    simp only [hnone, List.append_nil]
    exact hsound.pass rx.skb
  unfold ieee80211RxHDefragment
  simp only
  split_ifs with hctl hwhole hmulticast hmemory hfrag
  · exact hunchanged _ rfl
  · exact hunchanged _ rfl
  · exact hunchanged _ rfl
  · exact hunchanged _ rfl
  · refine defragmentFirst_sound hsound hrx hfrag ?_ jiffies
    simpa [hfrag] using hwhole
  · exact defragmentLater_sound hsound hrx jiffies

/-! ## Reassembly -/

/-- Every completed frame is put together from fragments 0 to n of one frame,
and no fragment is used twice. -/
def FragmentRun.Reassembles (r : FragmentRun) : Prop :=
  ∃ assembly : List (Fragment × List Fragment),
    r.completed = assembly.map (fun parts => parts.1.merge parts.2) ∧
      (∀ parts ∈ assembly, Assembled (parts.1 :: parts.2) ∧
        ∀ part ∈ parts.1 :: parts.2, IsPart r.decrypted part) ∧
      (assembledArrivals assembly).Nodup

theorem FragmentRun.sound_afterReceive {hz : ℕ} {r : FragmentRun}
    {arrival : Arrival} {assembly : List (Fragment × List Fragment)}
    (hsound : CacheSound r.cache.entries r.decrypted r.completed assembly) :
    ∃ assembly, CacheSound (r.receive hz arrival).cache.entries
      (r.receive hz arrival).decrypted (r.receive hz arrival).completed
      assembly := by
  unfold FragmentRun.receive
  cases hdecrypt : ieee80211RxHDecrypt (r.tagged arrival.event) with
  | none => exact ⟨assembly, hsound⟩
  | some rx =>
      have hrx := @decryptedFrom (r.tagged arrival.event)
        r.decrypted.length rfl _ hdecrypt
      exact defragment_sound hsound hrx arrival.jiffies

theorem reassembly_sound {hz : ℕ} {cache : FragmentCache Received}
    (hempty : ∀ i < 4, (cache.entries i).skbList = []) {r : FragmentRun}
    (hreach : Reachable (FragmentRun.step hz) (fun _ _ => True)
      (FragmentRun.initial cache) r) :
    r.Reassembles := by
  have hinitial : CacheSound cache.entries [] [] [] := by
    refine ⟨fun i hi first rest hlist => ?_, fun i hi part hpart => ?_,
      rfl, fun _ hparts => (List.not_mem_nil hparts).elim, ?_⟩
    · rw [hempty i hi] at hlist
      cases hlist
    · rw [hempty i hi] at hpart
      cases hpart
    · have hzero : SlotRing.total 4 FragmentEntry.arrivals cache.entries = 0 :=
        Finset.sum_eq_zero fun i hi => by
          simp [FragmentEntry.arrivals, hempty i (Finset.mem_range.mp hi)]
      simp [hzero, assembledArrivals]
  obtain ⟨assembly, hsound⟩ : ∃ assembly,
      CacheSound r.cache.entries r.decrypted r.completed assembly :=
    @Reachable.invariant _ _ _ _ _ _ (fun r => ∃ assembly,
        CacheSound r.cache.entries r.decrypted r.completed assembly)
      ⟨[], hinitial⟩ (fun _ _ _ _ hgood _ hstep => by
        obtain ⟨assembly, hsound⟩ := hgood
        cases hstep
        exact FragmentRun.sound_afterReceive hsound) _ hreach
  refine ⟨assembly, hsound.completed, hsound.assembled, ?_⟩
  exact Multiset.nodup_of_le ((Multiset.le_add_right _ _).trans hsound.once)
    (Multiset.nodup_range _)

/-! ## Two fragments -/

section Samples

/-- A fragment of sequence number 1 that the hardware has decrypted. -/
def decryptedFragment (frag : ℕ) (more validated : Bool)
    (header payload : List UInt8) : RxFrame where
  hdr :=
    { frameControl := if more then 0x4488 else 0x4088
      hdrlen := 26
      addr1 := [2, 0, 0, 0, 0, 1]
      addr2 := [2, 0, 0, 0, 0, 2]
      seqCtrl := 16 + frag
      qosCtl := 0 }
  body := header ++ payload
  category := 0
  decrypted := true
  ivStripped := false
  micStripped := true
  pnValidated := validated
  allowSamePn := false
  pulls := true
  linearizes := true
  trims := true

def ccmpKeyAt4 : RxKey where
  color := 1
  tainted := false
  cipher := .aead .ccmp
  aead := fun _ _ => none
  counters := ⟨fun _ => ⟨[0, 0, 0, 0, 0, 4], rfl⟩, 0⟩

def fragmentArrival (frame : RxFrame) : FragmentRun.Arrival where
  event :=
    { frame := frame
      key := some ccmpKeyAt4
      hasSta := true
      plain := none
      tailroom := 100
      expands := true
      tag := () }
  jiffies := 0

def twoFragments (first second : RxFrame) : FragmentRun :=
  ((FragmentRun.initial (ieee80211InitFragCache Received)).receive 100
    (fragmentArrival first)).receive 100 (fragmentArrival second)

theorem reassembly_sound_two :
    (twoFragments
        (decryptedFragment 0 true false [5, 0, 0, 0x20, 0, 0, 0, 0] [1, 2])
        (decryptedFragment 1 false false [6, 0, 0, 0x20, 0, 0, 0, 0]
          [3])).Reassembles ∧
      (twoFragments
        (decryptedFragment 0 true false [5, 0, 0, 0x20, 0, 0, 0, 0] [1, 2])
        (decryptedFragment 1 false false [6, 0, 0, 0x20, 0, 0, 0, 0]
          [3])).completed.map FragmentSkb.body = [[1, 2, 3]] := by
  refine ⟨@reassembly_sound 100 (ieee80211InitFragCache Received) (fun _ _ => rfl) _
    (.after (.after .start (fragmentArrival (decryptedFragment 0 true false
      [5, 0, 0, 0x20, 0, 0, 0, 0] [1, 2])) [] trivial rfl)
      (fragmentArrival (decryptedFragment 1 false false
        [6, 0, 0, 0x20, 0, 0, 0, 0] [3])) [] trivial rfl),
    by decide +kernel⟩

/-- A first fragment with packet number 100 that the driver has validated, and
a second one with number 5; then packet number `2 ^ 48 - 1` followed by a
validated 7. -/
theorem reassembly_mixes_packet_numbers :
    let validatedFirst := twoFragments
      (decryptedFragment 0 true true [100, 0, 0, 0x20, 0, 0, 0, 0] [1, 2])
      (decryptedFragment 1 false false [5, 0, 0, 0x20, 0, 0, 0, 0] [3])
    let lastNumberFirst := twoFragments
      (decryptedFragment 0 true false
        [255, 255, 0, 0x20, 255, 255, 255, 255] [1, 2])
      (decryptedFragment 1 false true [7, 0, 0, 0x20, 0, 0, 0, 0] [3])
    (validatedFirst.completed.map FragmentSkb.body = [[1, 2, 3]] ∧
      validatedFirst.decrypted.map (fun part =>
        (part.tag.usesSequentialPn, part.tag.frame.isCovered,
          part.tag.frame.pn)) = [(true, true, 100), (true, true, 5)]) ∧
    lastNumberFirst.completed.map FragmentSkb.body = [[1, 2, 3]] ∧
      lastNumberFirst.decrypted.map (fun part =>
        (part.tag.usesSequentialPn, part.tag.frame.isCovered,
          part.tag.frame.pn)) =
        [(true, true, 2 ^ 48 - 1), (true, true, 7)] := by
  decide +kernel

end Samples

end IwlwifiStack
