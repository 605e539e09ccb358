import IwlwifiStack.AeadRoundTrip
import IwlwifiStack.FragmentCacheReuse
import IwlwifiStack.ReplayProtection
import IwlwifiStack.TxFragmentModel

/-!
# Fragments put together again

The fragments that `ieee80211_tx_h_fragment` makes of a frame, in order through
`ieee80211_rx_h_defragment`.  The entry of the first fragment is the youngest
of the cache, so it is the one the lookup comes to first.

What comes out has the header of the first fragment: it still announces more
fragments, and it carries the Protected bit of an encrypted frame.
-/

namespace IwlwifiStack

open AeadCipher

/-! ## Protection on the air -/

/-- How the fragments of a frame are encrypted, if they are: with CCMP or GCMP
from a state of the sender's key on, or with WEP or TKIP. -/
inductive FragmentProtection
  | plain
  | sequenced (txKey : TxKey) (color : ℕ)
  | other (color : ℕ)

/-- The sender's key once `i` frames are encrypted. -/
def TxKey.advanced (key : TxKey) (i : ℕ) : TxKey :=
  { key with txPn := (key.txPn + i) % 2 ^ 64 }

/-- The number of fragment `i`. -/
def TxKey.fragmentPn (key : TxKey) (i : ℕ) : PacketNumber :=
  sentPn (key.advanced i)

theorem TxKey.fragmentPn_succ (key : TxKey) (i : ℕ) :
    (key.fragmentPn i).increment = key.fragmentPn (i + 1) := by
  apply PacketNumber.value_inj.mp
  rw [PacketNumber.value_increment]
  simp only [fragmentPn, sentPn, advanced, packetNumberOf_value]
  omega

namespace FragmentProtection

variable {τ : Type*}

def onAir (protection : FragmentProtection) (hdr : Ieee80211Hdr) :
    Ieee80211Hdr :=
  match protection with
  | .plain => hdr
  | .sequenced _ _ => hdr.withProtected
  | .other _ => hdr.withProtected

/-- Fragment `i` as decryption leaves it. -/
def Checked (protection : FragmentProtection) (i : ℕ) (rx : RxData τ) : Prop :=
  match protection with
  | .plain => rx.skb.hdr.hasProtected = false ∧ rx.decrypted = false
  | .sequenced txKey color => rx.skb.hdr.hasProtected = true ∧
      rx.pn = txKey.fragmentPn i ∧
      ∃ key ∈ rx.key, (∃ cipher, key.cipher = .aead cipher) ∧
        key.color = color ∧
        key.counters.rxPn rx.skb.hdr.securityIdx = txKey.fragmentPn i
  | .other color => rx.skb.hdr.hasProtected = true ∧
      ∃ key ∈ rx.key, key.cipher = .other ∧ key.color = color

def KeptBy (protection : FragmentProtection) (i : ℕ) (entry : FragmentEntry τ) :
    Prop :=
  match protection with
  | .plain => entry.checkSequentialPn = false ∧ entry.isProtected = false
  | .sequenced txKey color => entry.checkSequentialPn = true ∧
      entry.keyColor = color ∧ entry.lastPn = txKey.fragmentPn i
  | .other color => entry.checkSequentialPn = false ∧
      entry.isProtected = true ∧ entry.keyColor = color

/-- A reused entry may still be marked as protected, which an unencrypted
fragment does not undo. -/
theorem protectFirst_kept {protection : FragmentProtection}
    {entry : FragmentEntry τ} {rx : RxData τ}
    (hrestarted : entry.checkSequentialPn = false)
    (hunmarked : protection = .plain → entry.isProtected = false)
    (hrx : protection.Checked 0 rx) :
    protection.KeptBy 0 (entry.protectFirst rx) := by
  unfold FragmentEntry.protectFirst
  cases protection with
  | plain =>
      obtain ⟨hprotected, hdecrypted⟩ := hrx
      have huses : requiresSequentialPn rx.key rx.skb.hdr = false := by
        by_contra huses
        obtain ⟨_, _, _, hset⟩ := requiresSequentialPn_iff.mp
          (Bool.eq_true_of_not_eq_false huses)
        simp [hprotected] at hset
      cases hkey : rx.key with
      | none => exact ⟨hrestarted, hunmarked rfl⟩
      | some key =>
          rw [hkey] at huses
          simp only [huses, hprotected, hdecrypted, Bool.or_self,
            Bool.false_eq_true, if_false]
          exact ⟨hrestarted, hunmarked rfl⟩
  | sequenced txKey color =>
      obtain ⟨hprotected, -, key, hkey, hcipher, hcolor, hpn⟩ := hrx
      have huses : requiresSequentialPn rx.key rx.skb.hdr = true :=
        requiresSequentialPn_iff.mpr ⟨key, hkey, hcipher, hprotected⟩
      rw [Option.mem_def] at hkey
      simp only [hkey] at huses ⊢
      rw [if_pos huses]
      exact ⟨rfl, hcolor, hpn⟩
  | other color =>
      obtain ⟨hprotected, key, hkey, hcipher, hcolor⟩ := hrx
      have huses := requiresSequentialPn_other hcipher rx.skb.hdr
      rw [Option.mem_def] at hkey
      simp only [hkey, huses, hprotected, Bool.true_or, Bool.false_eq_true,
        if_false, if_true]
      exact ⟨hrestarted, rfl, hcolor⟩

theorem checkLater_kept {protection : FragmentProtection} {i : ℕ}
    {entry : FragmentEntry τ} {rx : RxData τ}
    (hentry : protection.KeptBy i entry)
    (hrx : protection.Checked (i + 1) rx) :
    ∃ pn, entry.checkLater rx = .ok pn ∧
      protection.KeptBy (i + 1) (entry.append rx pn) := by
  unfold FragmentEntry.checkLater
  cases protection with
  | plain =>
      obtain ⟨hcheck, hmarked⟩ := hentry
      simp only [hcheck, hmarked, Bool.false_eq_true, if_false]
      exact ⟨_, rfl, hcheck, hmarked⟩
  | sequenced txKey color =>
      obtain ⟨hcheck, hcolor, hlast⟩ := hentry
      obtain ⟨hprotected, hpn, key, hkey, hcipher, hsame, -⟩ := hrx
      have huses : requiresSequentialPn rx.key rx.skb.hdr = true :=
        requiresSequentialPn_iff.mpr ⟨key, hkey, hcipher, hprotected⟩
      have hnext : entry.lastPn.increment = rx.pn := by
        rw [hlast, hpn]
        exact txKey.fragmentPn_succ i
      rw [Option.mem_def] at hkey
      simp only [hkey] at huses ⊢
      simp only [hcheck, huses, hcolor, hsame, Bool.not_true,
        Bool.false_eq_true, if_false, if_true, ne_eq, not_true_eq_false]
      rw [if_neg (not_not.mpr ((PacketNumber.memcmp_eq_zero_iff _ _).mpr hnext))]
      exact ⟨_, rfl, hcheck, hcolor, hnext.trans hpn⟩
  | other color =>
      obtain ⟨hcheck, hmarked, hcolor⟩ := hentry
      obtain ⟨hprotected, key, hkey, hcipher, hsame⟩ := hrx
      rw [Option.mem_def] at hkey
      simp only [hcheck, hmarked, hkey, hprotected, hcolor, hsame, Bool.not_true,
        Bool.false_and, ne_eq, not_true_eq_false, decide_false, Bool.or_self,
        Bool.false_eq_true, if_false, if_true]
      exact ⟨_, rfl, hcheck, hmarked, hcolor⟩

end FragmentProtection

/-! ## The run of the receiver -/

section Train

variable {τ : Type*} {hz : ℕ} {protection : FragmentProtection}
  {rx : ℕ → RxData τ} {arrival : ℕ → ℕ} {n : ℕ}

/-- What has come in before fragment `k`. -/
def collected (rx : ℕ → RxData τ) (k : ℕ) : List (FragmentSkb τ) :=
  (List.range k).map fun i => (rx i).skb

theorem collected_succ (rx : ℕ → RxData τ) (k : ℕ) :
    collected rx (k + 1) = collected rx k ++ [(rx k).skb] := by
  simp [collected, List.range_succ]

theorem collected_body_mono (rx : ℕ → RxData τ) :
    Monotone fun k => ((collected rx k).flatMap FragmentSkb.body).length := by
  apply monotone_nat_of_le_succ
  intro k
  simp only [collected_succ, List.flatMap_append, List.length_append]
  omega

theorem collected_cons (rx : ℕ → RxData τ) {k : ℕ} (hk : 0 < k) :
    ∃ rest, collected rx k = (rx 0).skb :: rest := by
  obtain ⟨k, rfl⟩ : ∃ m, k = m + 1 := ⟨k - 1, by omega⟩
  simp [collected, List.range_succ_eq_map]

/-- The `n` fragments of one frame: they come in order and in time, nothing
lacks memory, and together they are shorter than `extra_len` can say. -/
structure FragmentTrain (hz : ℕ) (protection : FragmentProtection)
    (rx : ℕ → RxData τ) (arrival : ℕ → ℕ) (n : ℕ) : Prop where
  several : 2 ≤ n
  frag : ∀ i < n, (rx i).skb.hdr.frag = i
  morefrags : ∀ i < n, (rx i).skb.hdr.hasMorefrags = decide (i + 1 < n)
  kind : ∀ i < n, (rx i).skb.hdr.isCtl = false ∧ (rx i).skb.hdr.isExt = false
  ftype : ∀ i < n, (rx i).skb.hdr.ftype = (rx 0).skb.hdr.ftype
  addr1 : ∀ i < n, (rx i).skb.hdr.addr1 = (rx 0).skb.hdr.addr1
  addr2 : ∀ i < n, (rx i).skb.hdr.addr2 = (rx 0).skb.hdr.addr2
  unicast : ∀ i < n, (rx i).skb.hdr.isMulticast = false
  seq : ∀ i < n, (rx i).skb.hdr.seq = (rx 0).skb.hdr.seq
  queue : ∀ i < n, (rx i).skb.hdr.seqnoIdx = (rx 0).skb.hdr.seqnoIdx
  memory : ∀ i < n, (rx i).linearizes = true ∧ (rx i).expands = true
  inTime : ∀ i < n, arrival i ≤ arrival 0 + 2 * hz
  short : ((collected rx n).flatMap FragmentSkb.body).length < 65536
  checked : ∀ i < n, protection.Checked i (rx i)

def FragmentCache.youngest (cache : FragmentCache τ) : ℕ :=
  if cache.next = 0 then 3 else cache.next - 1

/-- The entry of the frame after `k` of its fragments. -/
structure PendingEntry (protection : FragmentProtection) (rx : ℕ → RxData τ)
    (arrival : ℕ → ℕ) (k : ℕ) (entry : FragmentEntry τ) : Prop where
  pos : 0 < k
  skbList : entry.skbList = collected rx k
  firstFragTime : entry.firstFragTime = arrival 0
  seq : entry.seq = (rx 0).skb.hdr.seq
  rxQueue : entry.rxQueue = (rx 0).skb.hdr.seqnoIdx
  lastFrag : entry.lastFrag + 1 = k
  extraLen : entry.extraLen =
    (entry.skbList.tail.flatMap FragmentSkb.body).length
  kept : protection.KeptBy (k - 1) entry

theorem FragmentEntry.protectFirst_unchanged (entry : FragmentEntry τ)
    (rx : RxData τ) :
    (entry.protectFirst rx).skbList = entry.skbList ∧
      (entry.protectFirst rx).firstFragTime = entry.firstFragTime ∧
      (entry.protectFirst rx).seq = entry.seq ∧
      (entry.protectFirst rx).rxQueue = entry.rxQueue ∧
      (entry.protectFirst rx).lastFrag = entry.lastFrag ∧
      (entry.protectFirst rx).extraLen = entry.extraLen := by
  unfold FragmentEntry.protectFirst
  cases rx.key with
  | none => exact ⟨rfl, rfl, rfl, rfl, rfl, rfl⟩
  | some key =>
      simp only
      split_ifs <;> exact ⟨rfl, rfl, rfl, rfl, rfl, rfl⟩

theorem FragmentTrain.first_queued
    (htrain : FragmentTrain hz protection rx arrival n)
    {cache : FragmentCache τ}
    (hunmarked : protection = .plain →
      (cache.entries cache.next).isProtected = false) :
    ∃ later, ieee80211RxHDefragment hz cache (rx 0) (arrival 0) =
        (.queued, later) ∧
      PendingEntry protection rx arrival 1 (later.entries later.youngest) := by
  have hpos : 0 < n := by
    have hseveral := htrain.several
    omega
  have hmore : (rx 0).skb.hdr.hasMorefrags = true := by
    rw [htrain.morefrags 0 hpos, decide_eq_true_eq]
    exact htrain.several
  obtain ⟨hctl, hext⟩ := htrain.kind 0 hpos
  refine ⟨defragmentFirst cache (rx 0) (arrival 0), ?_, ?_⟩
  · unfold ieee80211RxHDefragment
    simp only [hctl, hext, hmore, htrain.frag 0 hpos, htrain.unicast 0 hpos,
      (htrain.memory 0 hpos).1, Bool.or_self, Bool.not_true, Bool.false_and,
      Bool.false_eq_true, if_false, if_true]
  · have hslot : (defragmentFirst cache (rx 0) (arrival 0)).youngest =
        cache.next := by
      have hlt := cache.next_lt
      have hnext : (defragmentFirst cache (rx 0) (arrival 0)).next =
          if cache.next + 1 ≥ 4 then 0 else cache.next + 1 := rfl
      unfold FragmentCache.youngest
      generalize (defragmentFirst cache (rx 0) (arrival 0)).next = next
        at hnext ⊢
      split_ifs at hnext ⊢ <;> omega
    have hentry : (defragmentFirst cache (rx 0) (arrival 0)).entries cache.next =
        ((cache.entries cache.next).restart (rx 0).skb.hdr.frag
          (rx 0).skb.hdr.seq (rx 0).skb.hdr.seqnoIdx (rx 0).skb
          (arrival 0)).protectFirst (rx 0) := by
      simp only [defragmentFirst, ieee80211ReassembleAdd, Function.update_self]
    rw [hslot, hentry]
    obtain ⟨hlist, htime, hseq, hqueue, hlast, hextra⟩ :=
      ((cache.entries cache.next).restart (rx 0).skb.hdr.frag
        (rx 0).skb.hdr.seq (rx 0).skb.hdr.seqnoIdx (rx 0).skb
        (arrival 0)).protectFirst_unchanged (rx 0)
    refine ⟨Nat.one_pos, hlist, htime, hseq, hqueue, ?_, ?_, ?_⟩
    · rw [hlast]
      exact congrArg (· + 1) (htrain.frag 0 hpos)
    · rw [hextra, hlist]
      rfl
    · exact FragmentProtection.protectFirst_kept rfl hunmarked
        (htrain.checked 0 hpos)

theorem FragmentTrain.found
    (htrain : FragmentTrain hz protection rx arrival n) {k : ℕ} (hk : k < n)
    {cache : FragmentCache τ}
    (hpending : PendingEntry protection rx arrival k
      (cache.entries cache.youngest)) :
    ieee80211ReassembleFind hz cache (rx k).skb.hdr.frag (rx k).skb.hdr.seq
        (rx k).skb.hdr.seqnoIdx (rx k).skb.hdr (arrival k) =
      (cache, some cache.youngest) := by
  unfold ieee80211ReassembleFind
  have hyoungest : cache.youngest =
    if cache.next = 0 then 3 else cache.next - 1 := rfl
  rw [reassembleFindLoop_hit hyoungest]
  · obtain ⟨rest, hrest⟩ := collected_cons rx hpending.pos
    apply FragmentEntry.continuedBy_iff.mpr
    refine ⟨(rx 0).skb, rest, hpending.skbList.trans hrest, ?_, ?_, ?_,
      htrain.ftype k hk, htrain.addr1 k hk, htrain.addr2 k hk⟩
    · rw [hpending.seq, htrain.seq k hk]
    · rw [hpending.rxQueue, htrain.queue k hk]
    · rw [hpending.lastFrag, htrain.frag k hk]
  · have htime := htrain.inTime k hk
    unfold FragmentEntry.expired
    rw [hpending.firstFragTime]
    exact decide_eq_false (by omega)

theorem FragmentTrain.appended
    (htrain : FragmentTrain hz protection rx arrival n) {k : ℕ} (hk : k < n)
    {entry : FragmentEntry τ}
    (hpending : PendingEntry protection rx arrival k entry) :
    ∃ pn, entry.checkLater (rx k) = .ok pn ∧
      PendingEntry protection rx arrival (k + 1) (entry.append (rx k) pn) := by
  have hpos := hpending.pos
  have hsucc : k - 1 + 1 = k := by omega
  obtain ⟨pn, hpn, hkept⟩ := FragmentProtection.checkLater_kept
    hpending.kept (by rw [hsucc]; exact htrain.checked k hk)
  rw [hsucc] at hkept
  obtain ⟨rest, hrest⟩ := collected_cons rx hpos
  have hlist := hpending.skbList.trans hrest
  have hshort := collected_body_mono rx (show k + 1 ≤ n by omega)
  have htotal := htrain.short
  simp only [collected_succ, hrest, List.flatMap_append, List.flatMap_cons,
    List.flatMap_nil, List.length_append, List.append_nil] at hshort
  refine ⟨pn, hpn, Nat.succ_pos k, ?_, hpending.firstFragTime, hpending.seq,
    hpending.rxQueue, ?_, ?_, hkept⟩
  · rw [collected_succ, ← hpending.skbList]
    rfl
  · exact congrArg (· + 1) (htrain.frag k hk)
  · have hextra := hpending.extraLen
    simp only [FragmentEntry.append, hextra, hlist, List.cons_append,
      List.tail_cons, List.flatMap_append, List.flatMap_cons, List.flatMap_nil,
      List.append_nil, List.length_append]
    exact Nat.mod_eq_of_lt (by omega)

theorem PendingEntry.complete {k : ℕ} {entry : FragmentEntry τ}
    (hpending : PendingEntry protection rx arrival k entry) :
    entry.complete true = .completed { (rx 0).skb with
      body := (collected rx k).flatMap FragmentSkb.body } := by
  obtain ⟨rest, hrest⟩ := collected_cons rx hpending.pos
  have hlist := hpending.skbList.trans hrest
  have hextra := hpending.extraLen
  simp only [hlist, List.tail_cons] at hextra
  unfold FragmentEntry.complete
  simp only [hlist, hextra, Bool.not_true, Bool.and_false, Bool.false_eq_true,
    if_false, decide_eq_true_eq]
  rw [if_neg (by split_ifs <;> omega), hrest, List.flatMap_cons]
  rfl

theorem FragmentTrain.later_step
    (htrain : FragmentTrain hz protection rx arrival n) {k : ℕ} (hk : k < n)
    {cache : FragmentCache τ}
    (hpending : PendingEntry protection rx arrival k
      (cache.entries cache.youngest)) :
    ∃ pn, PendingEntry protection rx arrival (k + 1)
        ((cache.entries cache.youngest).append (rx k) pn) ∧
      ieee80211RxHDefragment hz cache (rx k) (arrival k) =
        let entry := (cache.entries cache.youngest).append (rx k) pn
        if k + 1 < n then
          (.queued, { cache with
            entries := Function.update cache.entries cache.youngest entry })
        else
          (entry.complete true, { cache with
            entries := Function.update cache.entries cache.youngest
              entry.purge }) := by
  obtain ⟨pn, hpn, hnext⟩ := htrain.appended hk hpending
  refine ⟨pn, hnext, ?_⟩
  have hpos := hpending.pos
  have hlater : (rx k).skb.hdr.frag ≠ 0 := by
    rw [htrain.frag k hk]
    omega
  obtain ⟨hctl, hext⟩ := htrain.kind k hk
  unfold ieee80211RxHDefragment
  simp only [hctl, hext, htrain.unicast k hk, (htrain.memory k hk).1, hlater,
    Bool.or_self, Bool.not_true, decide_false, Bool.and_false,
    Bool.false_eq_true, if_false]
  unfold defragmentLater
  simp only [htrain.found hk hpending, hpn, htrain.morefrags k hk,
    (htrain.memory k hk).2, decide_eq_true_eq]

/-- Fragments `k` to `k + m - 1`, with the times they arrive at. -/
def trainFrom (rx : ℕ → RxData τ) (arrival : ℕ → ℕ) (k m : ℕ) :
    List (RxData τ × ℕ) :=
  (List.range' k m).map fun i => (rx i, arrival i)

theorem FragmentTrain.rest_completed
    (htrain : FragmentTrain hz protection rx arrival n) (m k : ℕ)
    (hn : k + (m + 1) = n) {cache : FragmentCache τ}
    (hpending : PendingEntry protection rx arrival k
      (cache.entries cache.youngest)) :
    defragOutcomes hz cache (trainFrom rx arrival k (m + 1)) =
      List.replicate m .queued ++ [.completed { (rx 0).skb with
        body := (collected rx n).flatMap FragmentSkb.body }] := by
  induction m generalizing k cache with
  | zero =>
      obtain ⟨pn, hnext, hstep⟩ := htrain.later_step (by omega) hpending
      simp only [trainFrom, List.range'_succ, List.range'_zero, List.map_cons,
        List.map_nil, defragOutcomes, hstep]
      rw [if_neg (by omega), hnext.complete]
      subst hn
      rfl
  | succ m ih =>
      obtain ⟨pn, hnext, hstep⟩ := htrain.later_step (by omega) hpending
      rw [if_pos (by omega)] at hstep
      obtain ⟨later, hlater⟩ : ∃ later : FragmentCache τ, later = { cache with
        entries := Function.update cache.entries cache.youngest
          ((cache.entries cache.youngest).append (rx k) pn) } := ⟨_, rfl⟩
      have hentry : later.entries later.youngest =
          (cache.entries cache.youngest).append (rx k) pn := by
        subst hlater
        exact Function.update_self _ _ _
      have hrest := ih (k + 1) (by omega) (hentry ▸ hnext)
      rw [← hlater] at hstep
      rw [trainFrom, List.range'_succ, List.map_cons, defragOutcomes]
      simp only [hstep]
      rw [List.replicate_succ, List.cons_append]
      exact congrArg _ hrest

theorem FragmentTrain.completed
    (htrain : FragmentTrain hz protection rx arrival n)
    {cache : FragmentCache τ}
    (hunmarked : protection = .plain →
      (cache.entries cache.next).isProtected = false) :
    defragOutcomes hz cache (trainFrom rx arrival 0 n) =
      List.replicate (n - 1) .queued ++ [.completed { (rx 0).skb with
        body := (collected rx n).flatMap FragmentSkb.body }] := by
  have hseveral := htrain.several
  obtain ⟨m, rfl⟩ : ∃ m, n = m + 2 := ⟨n - 2, by omega⟩
  obtain ⟨later, hfirst, hpending⟩ := htrain.first_queued hunmarked
  have hrest := htrain.rest_completed m 1 (by omega) hpending
  rw [trainFrom, List.range'_succ, List.map_cons, defragOutcomes]
  simp only [hfirst]
  have hcount : m + 2 - 1 = m + 1 := by omega
  rw [hcount, List.replicate_succ, List.cons_append]
  exact congrArg _ hrest

/-! ## Both ends -/

/-- The fragments of a frame on the receiver's side. -/
structure FragmentsArrive (hz : ℕ) (protection : FragmentProtection)
    (fragments : List TxFragment) (rx : ℕ → RxData τ) (arrival : ℕ → ℕ) :
    Prop where
  hdr : ∀ (i : ℕ) (fragment : TxFragment), fragments[i]? = some fragment →
    (rx i).skb.hdr = protection.onAir fragment.hdr
  body : ∀ (i : ℕ) (fragment : TxFragment), fragments[i]? = some fragment →
    (rx i).skb.body = fragment.body
  memory : ∀ i < fragments.length,
    (rx i).linearizes = true ∧ (rx i).expands = true
  inTime : ∀ i < fragments.length, arrival i ≤ arrival 0 + 2 * hz
  checked : ∀ i < fragments.length, protection.Checked i (rx i)

theorem FragmentsArrive.collected_body {fragments : List TxFragment}
    (harrive : FragmentsArrive hz protection fragments rx arrival) :
    (collected rx fragments.length).flatMap FragmentSkb.body =
      fragments.flatMap TxFragment.body := by
  have hbodies : (collected rx fragments.length).map FragmentSkb.body =
      fragments.map TxFragment.body := by
    apply List.ext_getElem?
    intro i
    simp only [collected, List.map_map, List.getElem?_map]
    by_cases hi : i < fragments.length
    · obtain ⟨fragment, hget⟩ : ∃ fragment, fragments[i]? = some fragment :=
        ⟨_, List.getElem?_eq_getElem hi⟩
      rw [List.getElem?_range hi, hget]
      exact congrArg some (harrive.body i fragment hget)
    · rw [List.getElem?_eq_none (by simpa using hi),
        List.getElem?_eq_none (by simpa using hi)]
      rfl
  rw [List.flatMap_def, hbodies, List.flatMap_def]

theorem FragmentProtection.onAir_bits (protection : FragmentProtection)
    (hdr : Ieee80211Hdr) :
    (protection.onAir hdr).ftype = hdr.ftype ∧
      (protection.onAir hdr).stype = hdr.stype ∧
      (protection.onAir hdr).hasMorefrags = hdr.hasMorefrags ∧
      (protection.onAir hdr).addr1 = hdr.addr1 ∧
      (protection.onAir hdr).addr2 = hdr.addr2 ∧
      (protection.onAir hdr).seqCtrl = hdr.seqCtrl ∧
      (protection.onAir hdr).qosCtl = hdr.qosCtl := by
  obtain ⟨htype, hsub, hmore⟩ := hdr.withProtected_bits
  cases protection with
  | plain => exact ⟨rfl, rfl, rfl, rfl, rfl, rfl, rfl⟩
  | sequenced txKey color => exact ⟨htype, hsub, hmore, rfl, rfl, rfl, rfl⟩
  | other color => exact ⟨htype, hsub, hmore, rfl, rfl, rfl, rfl⟩

theorem Ieee80211Hdr.seqnoIdx_congr {hdr other : Ieee80211Hdr}
    (htype : hdr.ftype = other.ftype) (hsub : hdr.stype = other.stype)
    (hqos : hdr.qosCtl = other.qosCtl) : hdr.seqnoIdx = other.seqnoIdx := by
  have hdata : hdr.isDataQos = other.isDataQos := by
    simp only [isDataQos, isData, htype, hsub]
  rw [seqnoIdx, seqnoIdx, hdata, hqos]

theorem FragmentsArrive.hdr_fields {threshold : ℕ} {skb : TxFragment}
    {fragments : List TxFragment}
    (hfragmented : Fragmented threshold skb fragments)
    (harrive : FragmentsArrive hz protection fragments rx arrival) {i : ℕ}
    (hi : i < fragments.length) :
    (rx i).skb.hdr.frag = i ∧
      (rx i).skb.hdr.hasMorefrags = decide (i + 1 < fragments.length) ∧
      (rx i).skb.hdr.ftype = skb.hdr.ftype ∧
      (rx i).skb.hdr.addr1 = skb.hdr.addr1 ∧
      (rx i).skb.hdr.addr2 = skb.hdr.addr2 ∧
      (rx i).skb.hdr.seq = skb.hdr.seq ∧
      (rx i).skb.hdr.seqnoIdx = skb.hdr.seqnoIdx := by
  obtain ⟨fragment, hget⟩ : ∃ fragment, fragments[i]? = some fragment :=
    ⟨_, List.getElem?_eq_getElem hi⟩
  obtain ⟨htype, hsub, hmore, haddr1, haddr2, hctrl, hqos⟩ :=
    protection.onAir_bits fragment.hdr
  have hhdr := hfragmented.hdr i fragment hget
  have hfrag := hfragmented.frag i fragment hget
  have hseq := hfragmented.seq fragment (List.mem_of_getElem? hget)
  obtain ⟨htype', hsub', -⟩ := skb.hdr.withMorefrags_bits
    (decide (i + 1 < fragments.length))
  have hftype : fragment.hdr.ftype = skb.hdr.ftype := by
    rw [hhdr]
    exact htype'
  have hstype : fragment.hdr.stype = skb.hdr.stype := by
    rw [hhdr]
    exact hsub'
  have hfields : fragment.hdr.addr1 = skb.hdr.addr1 ∧
      fragment.hdr.addr2 = skb.hdr.addr2 ∧
      fragment.hdr.qosCtl = skb.hdr.qosCtl := by
    rw [hhdr]
    exact ⟨rfl, rfl, rfl⟩
  rw [harrive.hdr i fragment hget]
  refine ⟨?_, hmore.trans (hfragmented.morefrags i fragment hget),
    htype.trans hftype, haddr1.trans hfields.1, haddr2.trans hfields.2.1, ?_,
    Ieee80211Hdr.seqnoIdx_congr (htype.trans hftype) (hsub.trans hstype)
      (hqos.trans hfields.2.2)⟩
  · rw [Ieee80211Hdr.frag, hctrl]
    exact hfrag
  · rw [Ieee80211Hdr.seq, hctrl]
    exact hseq

theorem FragmentsArrive.train {threshold : ℕ} {skb : TxFragment}
    {fragments : List TxFragment}
    (hfragmented : Fragmented threshold skb fragments)
    (hkind : skb.hdr.isData = true ∨ skb.hdr.isMgmt = true)
    (hunicast : skb.hdr.isMulticast = false)
    (hshort : skb.body.length < 65536)
    (harrive : FragmentsArrive hz protection fragments rx arrival) :
    FragmentTrain hz protection rx arrival fragments.length := by
  have hfields := fun i hi => harrive.hdr_fields hfragmented (i := i) hi
  have hpos : 0 < fragments.length := by
    have hseveral := hfragmented.several
    omega
  obtain ⟨-, -, htype, haddr1, haddr2, hseq, hqueue⟩ := hfields 0 hpos
  have hnotCtl : skb.hdr.ftype ≠ 1 ∧ skb.hdr.ftype ≠ 3 := by
    simp only [Ieee80211Hdr.isData, Ieee80211Hdr.isMgmt,
      decide_eq_true_eq] at hkind
    omega
  refine ⟨hfragmented.several, fun i hi => (hfields i hi).1,
    fun i hi => (hfields i hi).2.1, ?_, ?_, ?_, ?_, ?_, ?_, ?_, harrive.memory,
    harrive.inTime, ?_, harrive.checked⟩
  · intro i hi
    obtain ⟨-, -, htype', -⟩ := hfields i hi
    simp only [Ieee80211Hdr.isCtl, Ieee80211Hdr.isExt, htype',
      decide_eq_false_iff_not]
    exact hnotCtl
  · intro i hi
    exact (hfields i hi).2.2.1.trans htype.symm
  · intro i hi
    exact (hfields i hi).2.2.2.1.trans haddr1.symm
  · intro i hi
    exact (hfields i hi).2.2.2.2.1.trans haddr2.symm
  · intro i hi
    rw [Ieee80211Hdr.isMulticast, (hfields i hi).2.2.2.1]
    exact hunicast
  · intro i hi
    exact (hfields i hi).2.2.2.2.2.1.trans hseq.symm
  · intro i hi
    exact (hfields i hi).2.2.2.2.2.2.trans hqueue.symm
  · rw [harrive.collected_body, hfragmented.joined]
    exact hshort

/-- A unicast frame comes out of its fragments as it went in, with the header
of the first one. -/
theorem fragments_reassembled {config : FragmentConfig} {skb : TxFragment}
    (hskb : Fragmentable config skb)
    (hkind : skb.hdr.isData = true ∨ skb.hdr.isMgmt = true)
    (hunicast : skb.hdr.isMulticast = false)
    (hshort : skb.body.length < 65536) {allocates : ℕ → Bool}
    (hmemory : ∀ round, allocates round = true) {cache : FragmentCache τ}
    (hunmarked : protection = .plain →
      (cache.entries cache.next).isProtected = false)
    (harrive : FragmentsArrive hz protection
      (ieee80211TxHFragment config skb allocates).2 rx arrival) :
    (ieee80211TxHFragment config skb allocates).1 = .txContinue ∧
      Fragmented config.fragThreshold skb
        (ieee80211TxHFragment config skb allocates).2 ∧
      defragOutcomes hz cache (trainFrom rx arrival 0
          (ieee80211TxHFragment config skb allocates).2.length) =
        List.replicate
            ((ieee80211TxHFragment config skb allocates).2.length - 1) .queued ++
          [.completed
            { hdr := protection.onAir (skb.hdr.withMorefrags true)
              body := skb.body
              tailroom := (rx 0).skb.tailroom
              tag := (rx 0).skb.tag }] := by
  obtain ⟨fragments, hresult, hfragmented⟩ :=
    ieee80211TxHFragment_fragmented hskb hmemory
  rw [hresult] at harrive ⊢
  refine ⟨rfl, hfragmented, ?_⟩
  dsimp only at harrive ⊢
  have htrain := harrive.train hfragmented hkind hunicast hshort
  have hseveral := hfragmented.several
  have hhdr : (rx 0).skb.hdr = protection.onAir (skb.hdr.withMorefrags true) := by
    obtain ⟨first, hget⟩ : ∃ first, fragments[0]? = some first :=
      ⟨_, List.getElem?_eq_getElem (by omega)⟩
    rw [harrive.hdr 0 first hget, hfragmented.hdr 0 first hget]
    have hmore : decide (0 + 1 < fragments.length) = true :=
      decide_eq_true (by omega)
    rw [hmore]
    rfl
  rw [htrain.completed hunmarked, harrive.collected_body, hfragmented.joined,
    ← hhdr]

end Train

/-! ## A frame of two fragments -/

section Samples

/-- A frame of 300 bytes behind its header. -/
def longSkb (addr : UInt8) (seqCtrl : ℕ) (dontFrag : Bool) : TxFragment where
  hdr :=
    { frameControl := 0x0008
      hdrlen := 24
      addr1 := [addr, 0, 0, 0, 0, 1]
      addr2 := [2, 0, 0, 0, 0, 2]
      seqCtrl := seqCtrl
      qosCtl := 0 }
  body := List.replicate 300 7
  info :=
    { dontFrag := dontFrag
      ampdu := false
      clearPsFilt := false
      firstFragment := true
      moreFrames := false
      rateCtrlProbe := false
      rateIdx := fun _ => 0 }
  queueMapping := 0
  priority := 0
  dev := 0

def smallThreshold : FragmentConfig where
  fragThreshold := 256
  supportsTxFrag := false

def longSkbFragments (addr : UInt8) (seqCtrl : ℕ) (dontFrag : Bool) :
    List TxFragment :=
  (ieee80211TxHFragment smallThreshold (longSkb addr seqCtrl dontFrag)
    fun _ => true).2

/-- Fragment `i`, received without a key. -/
def receivedPlain (fragments : List TxFragment) (i : ℕ) : RxData Unit where
  skb :=
    { hdr := ((fragments[i]?).map TxFragment.hdr).getD (fragmentHdr 0 0)
      body := ((fragments[i]?).map TxFragment.body).getD []
      tailroom := 0
      tag := () }
  key := none
  decrypted := false
  pn := PacketNumber.zero
  linearizes := true
  expands := true

theorem receivedPlain_arrive {fragments : List TxFragment}
    (hplain : ∀ fragment ∈ fragments, fragment.hdr.hasProtected = false) :
    FragmentsArrive 100 .plain fragments (receivedPlain fragments)
      fun _ => 0 := by
  refine ⟨?_, ?_, fun _ _ => ⟨rfl, rfl⟩, fun _ _ => Nat.zero_le _, ?_⟩
  · intro i fragment hget
    simp [receivedPlain, hget, FragmentProtection.onAir]
  · intro i fragment hget
    simp [receivedPlain, hget]
  · intro i hi
    have hget := List.getElem?_eq_getElem hi
    have hhdr := hplain _ (List.getElem_mem hi)
    refine ⟨?_, rfl⟩
    simpa only [receivedPlain, hget, Option.map_some, Option.getD_some] using hhdr

/-- The fragments of a frame of 300 bytes through a new station's cache. -/
theorem fragments_reassembled_long :
    defragOutcomes 100 (ieee80211InitFragCache Unit)
        (trainFrom (receivedPlain (longSkbFragments 2 0x120 false)) (fun _ => 0) 0
          (longSkbFragments 2 0x120 false).length) =
      List.replicate ((longSkbFragments 2 0x120 false).length - 1) .queued ++
        [.completed
          { hdr := FragmentProtection.plain.onAir
              ((longSkb 2 0x120 false).hdr.withMorefrags true)
            body := (longSkb 2 0x120 false).body
            tailroom := 0
            tag := () }] := by
  have hskb : Fragmentable smallThreshold (longSkb 2 0x120 false) :=
    ⟨by decide, rfl, rfl, rfl, by decide, by decide +kernel, by decide +kernel,
      by decide⟩
  have hshort : (longSkb 2 0x120 false).body.length < 65536 := by
    decide +kernel
  have harrive := receivedPlain_arrive
    (show ∀ fragment ∈ longSkbFragments 2 0x120 false,
      fragment.hdr.hasProtected = false by decide +kernel)
  have hmemory : ∀ round : ℕ, (fun _ => true) round = true := fun _ => rfl
  have hunmarked : FragmentProtection.plain = .plain →
      ((ieee80211InitFragCache Unit).entries
        (ieee80211InitFragCache Unit).next).isProtected = false := fun _ => rfl
  unfold longSkbFragments at harrive ⊢
  exact (fragments_reassembled hskb (Or.inl (by decide)) (by decide) hshort
    hmemory hunmarked harrive).2.2

/-- The frame put together announces more fragments, a group-addressed frame is
dropped, a frame that has a fragment number is not put together again, and one
marked so is not split. -/
theorem fragments_not_reassembled :
    defragOutcomes 100 (ieee80211InitFragCache Unit)
        (trainFrom (receivedPlain (longSkbFragments 2 0x120 false)) (fun _ => 0)
          0 2) =
      [.queued, .completed
        { hdr := { (longSkb 2 0x120 false).hdr with frameControl := 0x0408 }
          body := List.replicate 300 7
          tailroom := 0
          tag := () }] ∧
    defragOutcomes 100 (ieee80211InitFragCache Unit)
        (trainFrom (receivedPlain (longSkbFragments 3 0x120 false)) (fun _ => 0)
          0 2) =
      [.dropped .unspecified, .dropped .unspecified] ∧
    defragOutcomes 100 (ieee80211InitFragCache Unit)
        (trainFrom (receivedPlain (longSkbFragments 2 0x121 false)) (fun _ => 0)
          0 2) =
      [.dropped .unspecified, .dropped .unspecified] ∧
    longSkbFragments 2 0x120 true = [longSkb 2 0x120 true] := by
  refine ⟨?_, ?_, ?_, ?_⟩ <;> decide +kernel

end Samples

end IwlwifiStack
