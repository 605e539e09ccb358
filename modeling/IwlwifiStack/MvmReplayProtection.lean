import IwlwifiStack.MvmReceiveModel
import IwlwifiStack.ReplayProtection

/-!
# Replay protection in iwlmvm

Numbers are compared when a frame leaves the reorder buffer, but whether an
equal number may pass was decided when the frame arrived.  The frames of one
MPDU leave in the order they came in, so what is handed on is in order as long
as no later subframe comes with the number of another MPDU that waits in the
buffer or was handed on last.  The driver does not check that: it stores numbers
without their owner.
-/

namespace IwlwifiStack

open ConditionedRun

/-! ## Order -/

namespace MvmFrame

def idx (frame : MvmFrame) : ℕ :=
  frame.desc.subframeIdx

def Earlier (frame later : MvmFrame) : Prop :=
  frame.mpdu = later.mpdu → frame.idx < later.idx

def MayFollow (later frame : MvmFrame) : Prop :=
  frame.pn.value ≤ later.pn.value ∧
    (frame.pn.value = later.pn.value →
      frame.mpdu = later.mpdu ∧ frame.idx < later.idx)

/-- A frame of the stream: unicast QoS data of one TID, decrypted by the
hardware with one key. -/
structure OfStream (tid keyIdx : ℕ) (frame : MvmFrame) : Prop where
  dataQos : frame.hdr.isDataQos = true
  unicast : frame.hdr.isMulticast = false
  decrypted : frame.decrypted = true
  tid : frame.hdr.tid = tid
  keyIdx : frame.keyIdx = keyIdx

/-- The hardware copies the header and the packet number of an MPDU to its
subframes, which all name the number and the session of that MPDU. -/
structure SameMpdu (frame other : MvmFrame) : Prop where
  hdr : frame.hdr = other.hdr
  pn : frame.pn = other.pn
  sn : frame.desc.sn = other.desc.sn
  baid : frame.desc.baid = other.desc.baid

end MvmFrame

/-! ## Conditions on a step -/

namespace MvmRun

def Contract (tid keyIdx : ℕ) (r : MvmRun) : MvmEvent → Prop
  | .mpdu frame =>
      frame.OfStream tid keyIdx ∧
        ∀ earlier ∈ r.arrived, earlier.mpdu = frame.mpdu →
          earlier.SameMpdu frame ∧ earlier.idx < frame.idx
  | .start _ _ _ bufSize _ => 0 < bufSize
  | _ => True

def CounterHolds (cfg : MvmConfig) (r : MvmRun) : MvmEvent → Prop
  | .mpdu frame =>
      ∀ ba ∈ r.lookup frame.desc,
        JoinsBuffer (ba.queues cfg.queue) frame.desc →
          Multiset.card (storedIn ba.bufSize
            (ba.queues cfg.queue).entries) < 65535
  | _ => True

end MvmRun

def MvmStaQueue.storedPn (sta : MvmStaQueue) (frame : MvmFrame) :
    Option PacketNumber :=
  (sta.ptkPn frame.keyIdx).map fun pns => pns frame.hdr.tid

def MvmRun.Waits (cfg : MvmConfig) (r : MvmRun) (frame : MvmFrame) : Prop :=
  ∃ ba ∈ r.session, ∃ slot, ∃ skb ∈ (ba.queues cfg.queue).entries slot, skb.frame = frame

/-- A frame comes with the number of another MPDU, of which a frame waits or was handed on last,
only where a later number is stored, or where it is a first subframe and the other one is a first
subframe too or the number itself is stored. -/
def MvmRun.OwnPn (cfg : MvmConfig) (r : MvmRun) : MvmEvent → Prop
  | .mpdu frame =>
      ∀ other, r.Waits cfg other ∨ (∃ last ∈ r.frames.handed.getLast?, last.frame = other) →
        other.mpdu ≠ frame.mpdu → other.pn = frame.pn →
          (other.idx = 0 ∧ frame.idx = 0) ∨
          ∃ pn ∈ r.frames.sta.storedPn frame,
            frame.pn.value < pn.value ∨ frame.pn = pn ∧ frame.idx = 0
  | _ => True

def MvmSkb.Later (skb : MvmSkb) : Prop :=
  skb.allowSamePn = true → skb.frame.idx ≠ 0

/-! ## The check -/

section Check

variable {queue tid keyIdx : ℕ}

/-- What is handed on is in order, and the number of the last one is stored. -/
structure HandedInOrder (tid keyIdx : ℕ) (h : HandedFrames) : Prop where
  ordered : h.handed.Pairwise fun skb later => later.frame.MayFollow skb.frame
  stored : ∀ last ∈ h.handed.getLast?,
    (h.sta.ptkPn keyIdx).map (fun pns => pns tid) = some last.frame.pn

theorem HandedInOrder.le_last {h : HandedFrames} (hgood : HandedInOrder tid keyIdx h)
    {last d : MvmSkb} (hlast : h.handed.getLast? = some last) (hd : d ∈ h.handed) :
    d.frame.pn.value ≤ last.frame.pn.value ∧
      (d.frame.pn.value = last.frame.pn.value → d.frame.mpdu = last.frame.mpdu) := by
  obtain ⟨before, hsplit⟩ := List.getLast?_eq_some_iff.mp hlast
  have hordered := hgood.ordered
  rw [hsplit, List.pairwise_append] at hordered
  rw [hsplit, List.mem_append, List.mem_singleton] at hd
  rcases hd with hd | rfl
  · have hfollow := hordered.2.2 d hd last (List.mem_singleton_self _)
    exact ⟨hfollow.1, fun h => (hfollow.2 h).1⟩
  · exact ⟨le_rfl, fun _ => rfl⟩

inductive Checked (tid keyIdx : ℕ) (h : HandedFrames) (skb : MvmSkb) :
    HandedFrames → Prop
  | rejected : Checked tid keyIdx h skb h
  | accepted (pns : ℕ → PacketNumber) (after : HandedFrames) :
      h.sta.ptkPn keyIdx = some pns →
      (pns tid).value < skb.frame.pn.value ∨
        pns tid = skb.frame.pn ∧ skb.allowSamePn = true →
      after.handed = h.handed ++ [{ skb with pnValidated := true }] →
      after.sta.ptkPn keyIdx = some (Function.update pns tid skb.frame.pn) →
      Checked tid keyIdx h skb after

theorem pass_cases (hqueue : queue ≠ 0) (h : HandedFrames) {skb : MvmSkb}
    (hstream : skb.frame.OfStream tid keyIdx) :
    Checked tid keyIdx h skb (h.pass queue skb) := by
  have hdata : skb.frame.hdr.isData = true := by
    have hqos := hstream.dataQos
    simp only [Ieee80211Hdr.isDataQos, Bool.and_eq_true] at hqos
    exact hqos.1
  unfold HandedFrames.pass iwlMvmCheckPn
  simp only [hdata, hstream.unicast, hstream.decrypted, hstream.dataQos,
    hstream.tid, hstream.keyIdx, Bool.not_true, Bool.or_self,
    Bool.false_eq_true, if_false, if_neg hqueue, if_true]
  cases hkey : h.sta.ptkPn keyIdx with
  | none => exact .rejected
  | some pns =>
      simp only
      by_cases htid : tid ≥ 8
      · simp only [if_pos htid]
        exact .rejected
      · simp only [if_neg htid]
        by_cases hless : skb.frame.pn.memcmp (pns tid) < 0
        · simp only [if_pos hless]
          exact .rejected
        · simp only [if_neg hless]
          split_ifs with hsame
          · exact .rejected
          · refine .accepted pns _ hkey ?_ rfl ?_
            · rw [PacketNumber.memcmp_neg_iff, not_lt] at hless
              rcases hless.lt_or_eq with hlt | heq
              · exact Or.inl hlt
              · have hpn := PacketNumber.value_inj.mp heq
                refine Or.inr ⟨hpn, ?_⟩
                simpa [(PacketNumber.memcmp_eq_zero_iff _ _).mpr hpn.symm]
                  using hsame
            · simp only [Option.getD_some, Function.update_self]

theorem pass_handed (hqueue : queue ≠ 0) (h : HandedFrames) {skb : MvmSkb}
    (hstream : skb.frame.OfStream tid keyIdx) :
    (h.pass queue skb).handed = h.handed ∨
      ∃ last, last.frame = skb.frame ∧
        (h.pass queue skb).handed = h.handed ++ [last] := by
  have hcases := pass_cases hqueue h hstream
  generalize h.pass queue skb = after at hcases ⊢
  cases hcases with
  | rejected => exact Or.inl rfl
  | accepted _ _ _ _ hhanded _ =>
      exact Or.inr ⟨{ skb with pnValidated := true }, rfl, hhanded⟩

/-- Another MPDU with the number of a later subframe: a later number is stored, or this one is, for
the MPDU of the subframe. -/
def Owned (tid keyIdx : ℕ) (h : HandedFrames) (other frame : MvmFrame) : Prop :=
  other.mpdu ≠ frame.mpdu → other.pn = frame.pn → frame.idx ≠ 0 →
    ∃ pns ∈ h.sta.ptkPn keyIdx, frame.pn.value < (pns tid).value ∨
      frame.pn = pns tid ∧ other.idx = 0 ∧
        ∀ d ∈ h.handed, d.frame.pn = frame.pn → d.frame.mpdu = frame.mpdu

/-- The numbers of the frames to come are owned, against each other and against those handed
on. -/
def PnOwned (tid keyIdx : ℕ) (h : HandedFrames) (toCome : MvmFrame → Prop) : Prop :=
  ∀ other frame, toCome other ∨ (∃ d ∈ h.handed, d.frame = other) → toCome frame →
    Owned tid keyIdx h other frame

theorem PnOwned.own {h : HandedFrames} {toCome : MvmFrame → Prop} {skb : MvmSkb}
    (howned : PnOwned tid keyIdx h toCome) (hgood : HandedInOrder tid keyIdx h)
    (hskb : toCome skb.frame) (hlater : skb.Later) (hallow : skb.allowSamePn = true)
    {pns : ℕ → PacketNumber} (hkey : h.sta.ptkPn keyIdx = some pns)
    (hpn : pns tid = skb.frame.pn) :
    ∀ last ∈ h.handed.getLast?, last.frame.mpdu = skb.frame.mpdu := by
  intro last hlast
  by_contra hother
  have hstored := hgood.stored last hlast
  rw [hkey, Option.map_some, Option.some.injEq, hpn] at hstored
  have hmem := List.mem_of_getLast? hlast
  obtain ⟨stored, hsame, hless | ⟨-, -, hhanded⟩⟩ := howned last.frame skb.frame
    (Or.inr ⟨last, hmem, rfl⟩) hskb hother hstored.symm (hlater hallow)
  · rw [hkey, Option.mem_def, Option.some.injEq] at hsame
    rw [← hsame, hpn] at hless
    exact absurd hless (Nat.lt_irrefl _)
  · exact hother (hhanded last hmem hstored.symm)

theorem PnOwned.pass {h : HandedFrames} {toCome : MvmFrame → Prop} {skb : MvmSkb}
    (howned : PnOwned tid keyIdx h toCome) (hqueue : queue ≠ 0)
    (hstream : skb.frame.OfStream tid keyIdx) (hskb : toCome skb.frame)
    (hlater : skb.Later) : PnOwned tid keyIdx (h.pass queue skb) toCome := by
  have hcases := pass_cases hqueue h hstream
  generalize h.pass queue skb = after at hcases ⊢
  cases hcases with
  | rejected => exact howned
  | accepted pns _ hkey hnumber hhanded hstored =>
      intro other frame hother hframe hmpdu hpn hidx
      have hbefore : toCome other ∨ ∃ d ∈ h.handed, d.frame = other := by
        rcases hother with hother | ⟨d, hd, rfl⟩
        · exact Or.inl hother
        · rw [hhanded, List.mem_append, List.mem_singleton] at hd
          rcases hd with hd | rfl
          · exact Or.inr ⟨d, hd, rfl⟩
          · exact Or.inl hskb
      have hold : ∀ {one : MvmFrame}, toCome one ∨ (∃ d ∈ h.handed, d.frame = one) →
          one.mpdu ≠ frame.mpdu → one.pn = frame.pn →
          frame.pn.value < (pns tid).value ∨ frame.pn = pns tid ∧ one.idx = 0 ∧
            ∀ d ∈ h.handed, d.frame.pn = frame.pn → d.frame.mpdu = frame.mpdu := by
        intro one hone hdiffers hequal
        obtain ⟨stored, hsame, hnumbers⟩ := howned one frame hone hframe hdiffers hequal hidx
        rw [hkey, Option.mem_def, Option.some.injEq] at hsame
        rw [hsame]
        exact hnumbers
      refine ⟨_, hstored, ?_⟩
      rw [Function.update_self]
      have hle : (pns tid).value ≤ skb.frame.pn.value := by
        rcases hnumber with hlt | ⟨heq, -⟩
        · exact hlt.le
        · rw [heq]
      rcases hold hbefore hmpdu hpn with hless | ⟨heq, hfirst, hhandedOf⟩
      · exact Or.inl (hless.trans_le hle)
      rcases hnumber with hlt | ⟨hrepeats, hallow⟩
      · rw [heq]
        exact Or.inl hlt
      -- the frame repeats the number that the others of its MPDU own
      have hskbMpdu : skb.frame.mpdu = frame.mpdu := by
        by_contra hdiffers
        rcases hold (Or.inl hskb) hdiffers (hrepeats.symm.trans heq.symm) with
          hless | ⟨-, hzero, -⟩
        · rw [heq] at hless
          exact absurd hless (Nat.lt_irrefl _)
        · exact hlater hallow hzero
      refine Or.inr ⟨heq.trans hrepeats, hfirst, fun d hd hsame => ?_⟩
      rw [hhanded, List.mem_append, List.mem_singleton] at hd
      rcases hd with hd | rfl
      · exact hhandedOf d hd hsame
      · exact hskbMpdu

theorem PnOwned.mono {h : HandedFrames} {toCome toCome' : MvmFrame → Prop}
    (howned : PnOwned tid keyIdx h toCome) (hless : ∀ frame, toCome' frame → toCome frame) :
    PnOwned tid keyIdx h toCome' :=
  fun other frame hother hframe =>
    howned other frame (hother.imp (hless other) id) (hless frame hframe)

theorem HandedInOrder.pass {h : HandedFrames} {skb : MvmSkb}
    (hgood : HandedInOrder tid keyIdx h) (hqueue : queue ≠ 0)
    (hstream : skb.frame.OfStream tid keyIdx)
    (hbehind : ∀ d ∈ h.handed, d.frame.Earlier skb.frame)
    {toCome : MvmFrame → Prop} (howned : PnOwned tid keyIdx h toCome)
    (hskb : toCome skb.frame) (hlater : skb.Later) :
    HandedInOrder tid keyIdx (h.pass queue skb) := by
  have hcases := pass_cases hqueue h hstream
  generalize h.pass queue skb = after at hcases ⊢
  cases hcases with
  | rejected => exact hgood
  | accepted pns _ hkey hnumber hhanded hstored =>
      refine ⟨?_, fun last hlast => ?_⟩
      · rw [hhanded, List.pairwise_append]
        refine ⟨hgood.ordered, List.pairwise_singleton _ _, fun d hd e he => ?_⟩
        rw [List.mem_singleton.mp he]
        simp only
        obtain ⟨last, hlast⟩ : ∃ last, h.handed.getLast? = some last := by
          rw [← Option.isSome_iff_exists, List.getLast?_isSome]
          exact List.ne_nil_of_mem hd
        have hlastPn : pns tid = last.frame.pn := by
          have hpn := hgood.stored last hlast
          rwa [hkey, Option.map_some, Option.some.injEq] at hpn
        have hle := hgood.le_last hlast hd
        rw [← hlastPn] at hle
        rcases hnumber with hlt | ⟨heq, hallow⟩
        · exact ⟨by omega, fun h => by omega⟩
        · rw [heq] at hle
          refine ⟨hle.1, fun h => ?_⟩
          have howner := howned.own hgood hskb hlater hallow hkey heq last hlast
          have hsame := (hle.2 h).trans howner
          exact ⟨hsame, hbehind d hd hsame⟩
      · rw [hhanded, List.getLast?_append_of_ne_nil _ (List.cons_ne_nil _ _)]
          at hlast
        cases hlast
        rw [hstored, Option.map_some, Function.update_self]
        rfl

theorem HandedInOrder.passAll {h : HandedFrames} {skbs : List MvmSkb}
    (hgood : HandedInOrder tid keyIdx h) (hqueue : queue ≠ 0)
    (hstream : ∀ skb ∈ skbs, skb.frame.OfStream tid keyIdx)
    (hsorted : skbs.Pairwise fun skb later => skb.frame.Earlier later.frame)
    (hbehind : ∀ skb ∈ skbs, ∀ d ∈ h.handed, d.frame.Earlier skb.frame)
    {toCome : MvmFrame → Prop} (howned : PnOwned tid keyIdx h toCome)
    (hskbs : ∀ skb ∈ skbs, toCome skb.frame) (hlater : ∀ skb ∈ skbs, skb.Later) :
    HandedInOrder tid keyIdx (h.passAll queue skbs) ∧
      PnOwned tid keyIdx (h.passAll queue skbs) toCome ∧
      ∀ d ∈ (h.passAll queue skbs).handed,
        (∃ old ∈ h.handed, old.frame = d.frame) ∨
          ∃ skb ∈ skbs, skb.frame = d.frame := by
  induction skbs generalizing h with
  | nil => exact ⟨hgood, howned, fun d hd => Or.inl ⟨d, hd, rfl⟩⟩
  | cons skb rest ih =>
      rw [List.pairwise_cons] at hsorted
      have hafter := hgood.pass hqueue (hstream skb List.mem_cons_self)
        (hbehind skb List.mem_cons_self) howned (hskbs skb List.mem_cons_self)
        (hlater skb List.mem_cons_self)
      have hhanded := pass_handed hqueue h (hstream skb List.mem_cons_self)
      have hmem : ∀ d ∈ (h.pass queue skb).handed,
          d ∈ h.handed ∨ d.frame = skb.frame := by
        intro d hd
        rcases hhanded with hsame | ⟨last, hlast, happend⟩
        · exact Or.inl (hsame ▸ hd)
        · rw [happend, List.mem_append, List.mem_singleton] at hd
          rcases hd with hd | rfl
          · exact Or.inl hd
          · exact Or.inr hlast
      obtain ⟨hordered, hownedAfter, hfrom⟩ := ih hafter
        (fun next hnext => hstream next (List.mem_cons_of_mem _ hnext))
        hsorted.2
        (fun next hnext d hd => by
          rcases hmem d hd with hd | heq
          · exact hbehind next (List.mem_cons_of_mem _ hnext) d hd
          · rw [heq]
            exact hsorted.1 next hnext)
        (howned.pass hqueue (hstream skb List.mem_cons_self) (hskbs skb List.mem_cons_self)
          (hlater skb List.mem_cons_self))
        (fun next hnext => hskbs next (List.mem_cons_of_mem _ hnext))
        (fun next hnext => hlater next (List.mem_cons_of_mem _ hnext))
      refine ⟨hordered, hownedAfter, fun d hd => ?_⟩
      rcases hfrom d hd with ⟨old, hold, heq⟩ | ⟨later, hlater, heq⟩
      · rcases hmem old hold with hold | hskb
        · exact Or.inl ⟨old, hold, heq⟩
        · exact Or.inr ⟨skb, List.mem_cons_self, hskb.symm.trans heq⟩
      · exact Or.inr ⟨later, List.mem_cons_of_mem _ hlater, heq⟩

end Check

/-! ## The reorder buffer -/

section Buffer

/-- What the entries of a buffer hold: every frame in the entry of its number,
and the frames of an entry in the order of their subframes. -/
structure EntriesSorted (bufSize : ℕ) (arrived : List MvmFrame)
    (entries : ℕ → List MvmSkb) : Prop where
  arrived : ∀ slot, ∀ skb ∈ entries slot, skb.frame ∈ arrived
  slot : ∀ slot, ∀ skb ∈ entries slot, skb.frame.desc.sn % bufSize = slot
  sorted : ∀ slot, (entries slot).Pairwise fun skb later =>
    skb.frame.Earlier later.frame
  later : ∀ slot, ∀ skb ∈ entries slot, skb.Later

def SameSn (arrived : List MvmFrame) : Prop :=
  ∀ frame ∈ arrived, ∀ other ∈ arrived, frame.mpdu = other.mpdu →
    frame.SameMpdu other

variable {bufSize : ℕ} {arrived : List MvmFrame} {entries : ℕ → List MvmSkb}

theorem EntriesSorted.earlier_of_slots
    (hsorted : EntriesSorted bufSize arrived entries) (hsame : SameSn arrived)
    {slot other : ℕ} (hne : slot ≠ other) {skb later : MvmSkb}
    (hskb : skb ∈ entries slot) (hlater : later ∈ entries other) :
    skb.frame.Earlier later.frame := by
  intro hmpdu
  have hsn := (hsame _ (hsorted.arrived slot skb hskb) _
    (hsorted.arrived other later hlater) hmpdu).sn
  have hslot := hsorted.slot slot skb hskb
  rw [hsn, hsorted.slot other later hlater] at hslot
  exact absurd hslot.symm hne

theorem mem_update_nil {slot index : ℕ} {skb : MvmSkb}
    (hskb : skb ∈ Function.update entries index [] slot) :
    slot ≠ index ∧ skb ∈ entries slot := by
  by_cases heq : slot = index
  · subst heq
    rw [Function.update_self] at hskb
    cases hskb
  · rw [Function.update_of_ne heq] at hskb
    exact ⟨heq, hskb⟩

theorem EntriesSorted.clear (hsorted : EntriesSorted bufSize arrived entries)
    (index : ℕ) :
    EntriesSorted bufSize arrived (Function.update entries index []) := by
  refine ⟨fun slot skb hskb => ?_, fun slot skb hskb => ?_, fun slot => ?_,
    fun slot skb hskb => ?_⟩
  · exact hsorted.arrived slot skb (mem_update_nil hskb).2
  · exact hsorted.slot slot skb (mem_update_nil hskb).2
  · by_cases heq : slot = index
    · rw [heq, Function.update_self]
      exact List.Pairwise.nil
    · rw [Function.update_of_ne heq]
      exact hsorted.sorted slot
  · exact hsorted.later slot skb (mem_update_nil hskb).2

/-- The frames that come out are sorted and in front of those that stay. -/
structure SortedRelease (bufSize : ℕ) (arrived : List MvmFrame)
    (entries after : ℕ → List MvmSkb) (out : List MvmSkb) : Prop where
  keeps : EntriesSorted bufSize arrived after
  kept : ∀ slot, ∀ skb ∈ after slot, skb ∈ entries slot
  out_mem : ∀ skb ∈ out, ∃ slot, skb ∈ entries slot
  out_sorted : out.Pairwise fun skb later => skb.frame.Earlier later.frame
  out_first : ∀ skb ∈ out, ∀ slot, ∀ later ∈ after slot,
    skb.frame.Earlier later.frame

theorem EntriesSorted.walk (hsorted : EntriesSorted bufSize arrived entries)
    (hsame : SameSn arrived) (n ssn : ℕ) :
    SortedRelease bufSize arrived entries
      (walkEntries bufSize n ssn entries).1
      (walkEntries bufSize n ssn entries).2 := by
  induction n generalizing ssn entries with
  | zero =>
      exact ⟨hsorted, fun _ _ h => h, fun _ h => (List.not_mem_nil h).elim,
        List.Pairwise.nil, fun _ h => (List.not_mem_nil h).elim⟩
  | succ n ih =>
      have hrest := ih (hsorted.clear (ssn % bufSize)) (ieee80211SnInc ssn)
      simp only [walkEntries]
      refine ⟨hrest.keeps, fun slot skb hskb => ?_, fun skb hskb => ?_, ?_,
        fun skb hskb slot later hlater => ?_⟩
      · exact (mem_update_nil (hrest.kept slot skb hskb)).2
      · rcases List.mem_append.mp hskb with hskb | hskb
        · exact ⟨_, hskb⟩
        · obtain ⟨slot, hslot⟩ := hrest.out_mem skb hskb
          exact ⟨slot, (mem_update_nil hslot).2⟩
      · rw [List.pairwise_append]
        refine ⟨hsorted.sorted _, hrest.out_sorted, fun skb hskb later hlater => ?_⟩
        obtain ⟨slot, hslot⟩ := hrest.out_mem later hlater
        obtain ⟨hne, hmem⟩ := mem_update_nil hslot
        exact hsorted.earlier_of_slots hsame (Ne.symm hne) hskb hmem
      · rcases List.mem_append.mp hskb with hskb | hskb
        · obtain ⟨hne, hmem⟩ := mem_update_nil (hrest.kept slot later hlater)
          exact hsorted.earlier_of_slots hsame (Ne.symm hne) hskb hmem
        · exact hrest.out_first skb hskb slot later hlater

theorem EntriesSorted.store (hsorted : EntriesSorted bufSize arrived entries)
    {skb : MvmSkb} (hskb : skb.frame ∈ arrived) (hlater : skb.Later)
    (hlast : ∀ slot, ∀ old ∈ entries slot, old.frame.Earlier skb.frame) :
    EntriesSorted bufSize arrived
      (Function.update entries (skb.frame.desc.sn % bufSize)
        (entries (skb.frame.desc.sn % bufSize) ++ [skb])) := by
  refine ⟨fun slot other hother => ?_, fun slot other hother => ?_,
    fun slot => ?_, fun slot other hother => ?_⟩
  · by_cases heq : slot = skb.frame.desc.sn % bufSize
    · rw [heq, Function.update_self, List.mem_append, List.mem_singleton]
        at hother
      rcases hother with hother | rfl
      · exact hsorted.arrived _ other hother
      · exact hskb
    · rw [Function.update_of_ne heq] at hother
      exact hsorted.arrived slot other hother
  · by_cases heq : slot = skb.frame.desc.sn % bufSize
    · rw [heq, Function.update_self, List.mem_append, List.mem_singleton]
        at hother
      rcases hother with hother | rfl
      · rw [heq]
        exact hsorted.slot _ other hother
      · exact heq.symm
    · rw [Function.update_of_ne heq] at hother
      exact hsorted.slot slot other hother
  · by_cases heq : slot = skb.frame.desc.sn % bufSize
    · rw [heq, Function.update_self, List.pairwise_append]
      refine ⟨hsorted.sorted _, List.pairwise_singleton _ _,
        fun old hold next hnext => ?_⟩
      rw [List.mem_singleton.mp hnext]
      exact hlast _ old hold
    · rw [Function.update_of_ne heq]
      exact hsorted.sorted slot
  · by_cases heq : slot = skb.frame.desc.sn % bufSize
    · rw [heq, Function.update_self, List.mem_append, List.mem_singleton]
        at hother
      rcases hother with hother | rfl
      · exact hsorted.later _ other hother
      · exact hlater
    · rw [Function.update_of_ne heq] at hother
      exact hsorted.later slot other hother

theorem EntriesSorted.empty (hsorted : EntriesSorted bufSize arrived entries)
    (hpos : 0 < bufSize) {buffer : DriverQueue MvmSkb}
    (hentries : buffer.entries = entries) {buffered handed : List MvmSkb}
    (hexact : QueueExact bufSize buffer buffered handed)
    (hzero : buffer.numStored = 0) (slot : ℕ) : entries slot = [] := by
  have hcard := hexact.counted
  rw [hzero, eq_comm, Multiset.card_eq_zero, storedIn_eq_zero_iff, hentries]
    at hcard
  by_cases hslot : slot < bufSize
  · exact hcard slot hslot
  · by_contra hne
    obtain ⟨skb, hskb⟩ := List.exists_mem_of_ne_nil _ hne
    have hmod := hsorted.slot slot skb hskb
    have hlt := Nat.mod_lt skb.frame.desc.sn hpos
    omega

end Buffer

/-! ## One event -/

section Event

variable {cfg : MvmConfig}

/-- The checks of `iwl_mvm_reorder` ahead of the buffer. -/
def BaidData.passesChecks (cfg : MvmConfig) (ba : BaidData MvmSkb)
    (frame : MvmFrame) : Bool :=
  !cfg.family9000 && decide (frame.desc.baid ≠ 0x7f) &&
    (frame.hdr.isBackReq || (frame.hdr.isDataQos && !frame.hdr.isMulticast)) &&
    frame.hdr.isDataPresent && decide (frame.hdr.tid = ba.tid) &&
    decide (cfg.staMask &&& ba.staMask ≠ 0)

/-- The session lets the frame in; subframes of one MPDU are all let in or all
turned away. -/
def BaidData.admits (cfg : MvmConfig) (ba : BaidData MvmSkb)
    (frame : MvmFrame) : Bool :=
  decide (ba.baid = frame.desc.baid) && ba.passesChecks cfg frame

theorem BaidData.admits_sameMpdu {ba : BaidData MvmSkb}
    {frame other : MvmFrame} (hsame : frame.SameMpdu other) :
    ba.admits cfg frame = ba.admits cfg other := by
  simp only [BaidData.admits, BaidData.passesChecks, hsame.hdr, hsame.baid]

theorem iwlMvmReorder_checks (ba : BaidData MvmSkb) (frame : MvmFrame)
    (skb : MvmSkb) :
    iwlMvmReorder cfg.family9000 (some ba) cfg.queue (some cfg.staMask)
        frame.hdr frame.desc skb =
      if ba.passesChecks cfg frame then
        let result := reorderInSession ba.bufSize (ba.queues cfg.queue)
          frame.desc skb
        (result.1, some (ba.setQueue cfg.queue result.2.1), result.2.2)
      else
        (.passSkb, some ba, []) := by
  unfold iwlMvmReorder BaidData.passesChecks
  cases cfg.family9000 with
  | true => rfl
  | false =>
      by_cases hbaid : frame.desc.baid = 0x7f
      · simp [hbaid]
      · rw [if_neg Bool.false_ne_true, if_neg hbaid]
        simp only
        by_cases hkind : (!frame.hdr.isBackReq &&
            (!frame.hdr.isDataQos || frame.hdr.isMulticast)) = true
        · rw [if_pos hkind, if_neg]
          simp only [Bool.and_eq_true, Bool.not_eq_true', Bool.or_eq_true]
            at hkind ⊢
          rcases hkind with ⟨hback, hqos | hmulti⟩ <;> simp [*]
        · rw [if_neg hkind]
          have hkind' : (frame.hdr.isBackReq || (frame.hdr.isDataQos &&
              !frame.hdr.isMulticast)) = true := by
            revert hkind
            cases frame.hdr.isBackReq <;> cases frame.hdr.isDataQos <;>
              cases frame.hdr.isMulticast <;> decide
          cases frame.hdr.isDataPresent with
          | false => simp
          | true =>
              rw [if_neg (by decide)]
              by_cases hsta : (decide (frame.hdr.tid ≠ ba.tid) ||
                  decide (cfg.staMask &&& ba.staMask = 0)) = true
              · rw [if_pos hsta, if_neg]
                simp only [Bool.or_eq_true, decide_eq_true_eq] at hsta
                rcases hsta with hsta | hsta <;> simp [hsta]
              · rw [if_neg hsta, if_pos]
                simp only [Bool.or_eq_true, decide_eq_true_eq, not_or,
                  not_not] at hsta
                simp [hkind', hbaid, hsta.1, hsta.2]

theorem MvmRun.lookup_eq {r : MvmRun} {ba : BaidData MvmSkb}
    (hsession : r.session = some ba) (desc : RxMpduDesc) :
    r.lookup desc = if ba.baid = desc.baid then some ba else none := by
  simp [MvmRun.lookup, hsession, Option.filter]

theorem iwlMvmReorder_none (frame : MvmFrame) (skb : MvmSkb) :
    iwlMvmReorder cfg.family9000 none cfg.queue (some cfg.staMask) frame.hdr
      frame.desc skb = (.passSkb, none, []) := by
  unfold iwlMvmReorder
  split_ifs <;> rfl

theorem MvmRun.reorder_none {r : MvmRun} (skb : MvmSkb)
    (hnone : r.session = none) : r.reorder cfg skb = (none, [skb]) := by
  have hlookup : r.lookup skb.frame.desc = none := by
    rw [MvmRun.lookup, hnone, Option.filter_none]
  simp only [MvmRun.reorder, hlookup, iwlMvmReorder_none, hnone,
    Option.isSome_none, Bool.false_eq_true, if_false, if_true, List.nil_append]

theorem MvmRun.reorder_turnedAway {r : MvmRun} {ba : BaidData MvmSkb}
    {skb : MvmSkb} (hsession : r.session = some ba)
    (haway : ba.admits cfg skb.frame = false) :
    r.reorder cfg skb = (some ba, [skb]) := by
  have hlookup := r.lookup_eq hsession skb.frame.desc
  by_cases hbaid : ba.baid = skb.frame.desc.baid
  · rw [if_pos hbaid] at hlookup
    rw [BaidData.admits, decide_eq_true hbaid, Bool.true_and] at haway
    simp only [MvmRun.reorder, hlookup, iwlMvmReorder_checks, haway,
      Bool.false_eq_true, if_false, Option.isSome_some, if_true,
      List.nil_append]
  · rw [if_neg hbaid] at hlookup
    simp only [MvmRun.reorder, hlookup, iwlMvmReorder_none, hsession,
      Option.isSome_none, Bool.false_eq_true, if_false, if_true,
      List.nil_append]

theorem MvmRun.reorder_admitted {r : MvmRun} {ba : BaidData MvmSkb}
    {skb : MvmSkb} (hsession : r.session = some ba)
    (hlets : ba.admits cfg skb.frame = true) :
    r.lookup skb.frame.desc = some ba ∧
    r.reorder cfg skb =
      let result := reorderInSession ba.bufSize (ba.queues cfg.queue)
        skb.frame.desc skb
      (some (ba.setQueue cfg.queue result.2.1),
        if result.1 = .passSkb then result.2.2 ++ [skb] else result.2.2) := by
  simp only [BaidData.admits, Bool.and_eq_true, decide_eq_true_eq] at hlets
  have hlookup := r.lookup_eq hsession skb.frame.desc
  rw [if_pos hlets.1] at hlookup
  refine ⟨hlookup, ?_⟩
  simp only [MvmRun.reorder, hlookup, iwlMvmReorder_checks, hlets.2, if_true,
    Option.isSome_some]

/-- A buffer in order, behind the frames handed on. -/
structure BufferBehind (bufSize : ℕ) (arrived : List MvmFrame)
    (handed : List MvmSkb) (buffer : DriverQueue MvmSkb) : Prop where
  exact : ∃ buffered released, QueueExact bufSize buffer buffered released
  unused : buffer.valid = false → ∀ slot, buffer.entries slot = []
  entries : EntriesSorted bufSize arrived buffer.entries
  behind : ∀ slot, ∀ skb ∈ buffer.entries slot, ∀ d ∈ handed,
    d.frame.Earlier skb.frame

/-- Frames on their way to mac80211. -/
structure InFront (arrived : List MvmFrame) (handed out : List MvmSkb) :
    Prop where
  arrived : ∀ skb ∈ out, skb.frame ∈ arrived
  sorted : out.Pairwise fun skb later => skb.frame.Earlier later.frame
  after_handed : ∀ skb ∈ out, ∀ d ∈ handed, d.frame.Earlier skb.frame
  later : ∀ skb ∈ out, skb.Later

variable {bufSize : ℕ} {arrived : List MvmFrame} {handed : List MvmSkb}
  {buffer : DriverQueue MvmSkb}

theorem InFront.nil : InFront arrived handed [] :=
  ⟨fun _ h => (List.not_mem_nil h).elim, List.Pairwise.nil,
    fun _ h => (List.not_mem_nil h).elim, fun _ h => (List.not_mem_nil h).elim⟩

theorem InFront.single {skb : MvmSkb} (hskb : skb.frame ∈ arrived) (hlater : skb.Later)
    (hlast : ∀ d ∈ handed, d.frame.Earlier skb.frame) :
    InFront arrived handed [skb] := by
  refine ⟨fun other hother => ?_, List.pairwise_singleton _ _,
    fun other hother => ?_, fun other hother => ?_⟩
  · rwa [List.mem_singleton.mp hother]
  · rw [List.mem_singleton.mp hother]
    exact hlast
  · rwa [List.mem_singleton.mp hother]

namespace BufferBehind

theorem release (hbehind : BufferBehind bufSize arrived handed buffer)
    (hpos : 0 < bufSize) (hsame : SameSn arrived) (nssn : ℕ) :
    BufferBehind bufSize arrived
        (handed ++ (reorderReleaseFrames bufSize buffer nssn).2)
        (reorderReleaseFrames bufSize buffer nssn).1 ∧
      InFront arrived handed (reorderReleaseFrames bufSize buffer nssn).2 := by
  obtain ⟨buffered, released, hexact⟩ := hbehind.exact
  have hwalk := hbehind.entries.walk hsame (moveDistance buffer.headSn nssn)
    buffer.headSn
  have hafter := hexact.release hpos nssn
  simp only [reorderReleaseFrames, releaseWalk_eq] at hafter ⊢
  refine ⟨⟨⟨_, _, hafter⟩, fun hvalid slot => ?_, hwalk.keeps,
    fun slot skb hskb d hd => ?_⟩, fun skb hskb => ?_, hwalk.out_sorted,
    fun skb hskb d hd => ?_, fun skb hskb => ?_⟩
  · by_contra hne
    obtain ⟨skb, hskb⟩ := List.exists_mem_of_ne_nil _ hne
    have hold := hwalk.kept slot skb hskb
    rw [hbehind.unused hvalid slot] at hold
    exact List.not_mem_nil hold
  · rcases List.mem_append.mp hd with hd | hd
    · exact hbehind.behind slot skb (hwalk.kept slot skb hskb) d hd
    · exact hwalk.out_first d hd slot skb hskb
  · obtain ⟨slot, hslot⟩ := hwalk.out_mem skb hskb
    exact hbehind.entries.arrived slot skb hslot
  · obtain ⟨slot, hslot⟩ := hwalk.out_mem skb hskb
    exact hbehind.behind slot skb hslot d hd
  · obtain ⟨slot, hslot⟩ := hwalk.out_mem skb hskb
    exact hbehind.entries.later slot skb hslot

theorem moveHead (hbehind : BufferBehind bufSize arrived handed buffer)
    (headSn : ℕ) (valid : Bool) (hvalid : buffer.valid = true → valid = true) :
    BufferBehind bufSize arrived handed
      { buffer with headSn := headSn, valid := valid } := by
  obtain ⟨buffered, released, hexact⟩ := hbehind.exact
  refine ⟨⟨buffered, released, hexact.congr rfl rfl⟩, fun hunused => ?_,
    hbehind.entries, hbehind.behind⟩
  refine hbehind.unused ?_
  cases hold : buffer.valid with
  | false => rfl
  | true =>
      have hnow := hvalid hold
      rw [show valid = false from hunused] at hnow
      cases hnow

theorem congr_empty (hbehind : BufferBehind bufSize arrived handed buffer)
    (hempty : ∀ slot, buffer.entries slot = []) (out : List MvmSkb) :
    BufferBehind bufSize arrived out buffer := by
  refine ⟨hbehind.exact, hbehind.unused, hbehind.entries, fun slot skb hskb => ?_⟩
  rw [hempty slot] at hskb
  exact (List.not_mem_nil hskb).elim

theorem store (hbehind : BufferBehind bufSize arrived handed buffer)
    (hpos : 0 < bufSize)
    (hroom : Multiset.card (storedIn bufSize buffer.entries) < 65535)
    (hvalid : buffer.valid = true) {skb : MvmSkb}
    (hskb : skb.frame ∈ arrived) (hlater : skb.Later)
    (hstored : ∀ slot, ∀ old ∈ buffer.entries slot,
      old.frame.Earlier skb.frame)
    (hhanded : ∀ d ∈ handed, d.frame.Earlier skb.frame) :
    BufferBehind bufSize arrived handed
      (storeSkb bufSize buffer skb.frame.desc.sn skb) := by
  obtain ⟨buffered, released, hexact⟩ := hbehind.exact
  refine ⟨⟨_, _, hexact.store hpos hroom skb.frame.desc.sn skb⟩,
    fun hunused => ?_, hbehind.entries.store hskb hlater hstored,
    fun slot other hother d hd => ?_⟩
  · rw [show (storeSkb bufSize buffer skb.frame.desc.sn skb).valid =
      buffer.valid from rfl, hvalid] at hunused
    cases hunused
  · by_cases heq : slot = skb.frame.desc.sn % bufSize
    · rw [heq, storeSkb_entries_self, List.mem_append, List.mem_singleton]
        at hother
      rcases hother with hother | rfl
      · exact hbehind.behind _ other hother d hd
      · exact hhanded d hd
    · rw [storeSkb_entries_of_ne _ _ heq] at hother
      exact hbehind.behind slot other hother d hd

theorem join (hbehind : BufferBehind bufSize arrived handed buffer)
    (hpos : 0 < bufSize) (hsame : SameSn arrived)
    (hroom : Multiset.card (storedIn bufSize buffer.entries) < 65535)
    (hvalid : buffer.valid = true) {skb : MvmSkb}
    (hskb : skb.frame ∈ arrived) (hlater : skb.Later)
    (hstored : ∀ slot, ∀ old ∈ buffer.entries slot,
      old.frame.Earlier skb.frame)
    (hhanded : ∀ d ∈ handed, d.frame.Earlier skb.frame) :
    BufferBehind bufSize arrived
        (handed ++ (bufferSkb bufSize buffer skb.frame.desc skb).2)
        (bufferSkb bufSize buffer skb.frame.desc skb).1 ∧
      InFront arrived handed
        (bufferSkb bufSize buffer skb.frame.desc skb).2 := by
  have hafter := hbehind.store hpos hroom hvalid hskb hlater hstored hhanded
  simp only [bufferSkb]
  split_ifs
  · exact hafter.release hpos hsame _
  · rw [List.append_nil]
    exact ⟨hafter.moveHead _ _ id, InFront.nil⟩
  · rw [List.append_nil]
    exact ⟨hafter, InFront.nil⟩

/-- A frame of the session, which comes after all earlier subframes of its
MPDU. -/
theorem reorder (hbehind : BufferBehind bufSize arrived handed buffer)
    (hpos : 0 < bufSize) (hsame : SameSn arrived) {skb : MvmSkb}
    (hroom : JoinsBuffer buffer skb.frame.desc →
      Multiset.card (storedIn bufSize buffer.entries) < 65535)
    (hskb : skb.frame ∈ arrived) (hlater : skb.Later)
    (hstored : ∀ slot, ∀ old ∈ buffer.entries slot,
      old.frame.Earlier skb.frame)
    (hhanded : ∀ d ∈ handed, d.frame.Earlier skb.frame) :
    let result := reorderInSession bufSize buffer skb.frame.desc skb
    let out := if result.1 = .passSkb then result.2.2 ++ [skb] else result.2.2
    BufferBehind bufSize arrived (handed ++ out) result.2.1 ∧
      InFront arrived handed out := by
  have hcases := reorderInSession_cases bufSize buffer skb.frame.desc skb
  obtain ⟨buffered, released, hexact⟩ := hbehind.exact
  have hfront := InFront.single hskb hlater hhanded
  have hempty := hbehind.entries.empty hpos rfl hexact
  generalize reorderInSession bufSize buffer skb.frame.desc skb = result
    at hcases ⊢
  cases hcases with
  | early hvalid _ =>
      exact ⟨hbehind.congr_empty (hbehind.unused hvalid) _, hfront⟩
  | dropped _ =>
      simp only [reduceCtorEq, if_false, List.append_nil]
      exact ⟨hbehind.moveHead _ true fun _ => rfl, InFront.nil⟩
  | ahead _ hzero _ =>
      have hclear := hbehind.congr_empty (hempty hzero) (handed ++ [skb])
      refine ⟨?_, hfront⟩
      simp only [if_true, List.nil_append]
      split_ifs <;> exact hclear.moveHead _ true fun _ => rfl
  | inOrder _ hzero _ =>
      have hclear := hbehind.congr_empty (hempty hzero) (handed ++ [skb])
      refine ⟨?_, hfront⟩
      simp only [if_true, List.nil_append]
      split_ifs <;> exact hclear.moveHead _ true fun _ => rfl
  | joined hjoins =>
      simp only [reduceCtorEq, if_false]
      exact (hbehind.moveHead _ true fun _ => rfl).join hpos hsame
        (hroom hjoins) rfl hskb hlater hstored hhanded

end BufferBehind

theorem BufferBehind.mono {arrived' : List MvmFrame} {handed' : List MvmSkb}
    (hbehind : BufferBehind bufSize arrived handed buffer)
    (harrived : ∀ frame ∈ arrived, frame ∈ arrived')
    (hhanded : ∀ d ∈ handed', ∃ old ∈ handed, old.frame = d.frame) :
    BufferBehind bufSize arrived' handed' buffer := by
  refine ⟨hbehind.exact, hbehind.unused, ⟨fun slot skb hskb => ?_,
    hbehind.entries.slot, hbehind.entries.sorted, hbehind.entries.later⟩,
    fun slot skb hskb d hd => ?_⟩
  · exact harrived _ (hbehind.entries.arrived slot skb hskb)
  · obtain ⟨old, hold, heq⟩ := hhanded d hd
    rw [← heq]
    exact hbehind.behind slot skb hskb old hold

end Event

/-! ## A run -/

section Run

variable {cfg : MvmConfig} {tid keyIdx : ℕ}

/-- A session that stores frames it lets in, behind those handed on. -/
structure SessionBehind (cfg : MvmConfig) (arrived : List MvmFrame)
    (handed : List MvmSkb) (ba : BaidData MvmSkb) : Prop where
  pos : 0 < ba.bufSize
  buffer : BufferBehind ba.bufSize (arrived.filter (ba.admits cfg)) handed
    (ba.queues cfg.queue)

structure StreamInOrder (cfg : MvmConfig) (tid keyIdx : ℕ) (r : MvmRun) :
    Prop where
  handed : HandedInOrder tid keyIdx r.frames
  handed_arrived : ∀ d ∈ r.frames.handed, d.frame ∈ r.arrived
  stream : ∀ frame ∈ r.arrived, frame.OfStream tid keyIdx
  sameSn : SameSn r.arrived
  session : ∀ ba ∈ r.session,
    SessionBehind cfg r.arrived r.frames.handed ba
  owned : PnOwned tid keyIdx r.frames (r.Waits cfg)

/-- What an event takes out of the buffer, and what it leaves. -/
structure ReleasesInFront (cfg : MvmConfig) (r : MvmRun)
    (arrived : List MvmFrame)
    (released : MvmStaQueue × Option (BaidData MvmSkb) × List MvmSkb) :
    Prop where
  ptkPn : released.1.ptkPn = r.frames.sta.ptkPn
  front : InFront arrived r.frames.handed released.2.2
  session : ∀ ba ∈ released.2.1,
    SessionBehind cfg arrived (r.frames.handed ++ released.2.2) ba

theorem SessionBehind.restrict {arrived live : List MvmFrame} {handed : List MvmSkb}
    {ba : BaidData MvmSkb} (hsession : SessionBehind cfg arrived handed ba)
    (hlive : ∀ slot, ∀ skb ∈ (ba.queues cfg.queue).entries slot, skb.frame ∈ live) :
    SessionBehind cfg live handed ba where
  pos := hsession.pos
  buffer :=
    { exact := hsession.buffer.exact
      unused := hsession.buffer.unused
      entries :=
        { arrived := fun slot skb hskb => List.mem_filter.mpr ⟨hlive slot skb hskb,
            (List.mem_filter.mp (hsession.buffer.entries.arrived slot skb hskb)).2⟩
          slot := hsession.buffer.entries.slot
          sorted := hsession.buffer.entries.sorted
          later := hsession.buffer.entries.later }
      behind := hsession.buffer.behind }

theorem StreamInOrder.afterRelease {r : MvmRun}
    (hinv : StreamInOrder cfg tid keyIdx r) (hqueue : cfg.queue ≠ 0)
    {arrived live : List MvmFrame}
    {released : MvmStaQueue × Option (BaidData MvmSkb) × List MvmSkb}
    (hreleases : ReleasesInFront cfg r arrived released)
    (hlive : ReleasesInFront cfg r live released)
    (harrived : ∀ frame ∈ r.arrived, frame ∈ arrived)
    (hstream : ∀ frame ∈ arrived, frame.OfStream tid keyIdx)
    (hsame : SameSn arrived)
    (howned : PnOwned tid keyIdx r.frames fun frame => frame ∈ live) :
    StreamInOrder cfg tid keyIdx
      ⟨HandedFrames.passAll cfg.queue { r.frames with sta := released.1 }
        released.2.2, released.2.1, arrived⟩ := by
  have hfront := hreleases.front
  have hgood : HandedInOrder tid keyIdx
      { r.frames with sta := released.1 } := by
    refine ⟨hinv.handed.ordered, fun last hlast => ?_⟩
    simp only [hreleases.ptkPn]
    exact hinv.handed.stored last hlast
  have hownedNow : PnOwned tid keyIdx { r.frames with sta := released.1 }
      fun frame => frame ∈ live := by
    intro other frame hother hframe hmpdu hpn hidx
    simp only [hreleases.ptkPn]
    exact howned other frame hother hframe hmpdu hpn hidx
  obtain ⟨hordered, hownedAfter, hfrom⟩ := hgood.passAll hqueue
    (fun skb hskb => hstream _ (hfront.arrived skb hskb)) hfront.sorted
    hfront.after_handed hownedNow hlive.front.arrived hfront.later
  refine ⟨hordered, fun d hd => ?_, hstream, hsame, fun ba hba => ?_, hownedAfter.mono ?_⟩
  · rcases hfrom d hd with ⟨old, hold, heq⟩ | ⟨skb, hskb, heq⟩
    · rw [← heq]
      exact harrived _ (hinv.handed_arrived old hold)
    · rw [← heq]
      exact hfront.arrived skb hskb
  · have hsession := hreleases.session ba hba
    refine ⟨hsession.pos, hsession.buffer.mono (fun _ h => h) fun d hd => ?_⟩
    rcases hfrom d hd with ⟨old, hold, heq⟩ | ⟨skb, hskb, heq⟩
    · exact ⟨old, List.mem_append_left _ hold, heq⟩
    · exact ⟨skb, List.mem_append_right _ hskb, heq⟩
  · rintro frame ⟨ba, hba, slot, skb, hskb, rfl⟩
    exact (List.mem_filter.mp ((hlive.session ba hba).buffer.entries.arrived slot skb hskb)).1

theorem iwlMvmIsDup_some {sta after : MvmStaQueue} {frame : MvmFrame}
    {skb : MvmSkb} (hpass : iwlMvmIsDup sta frame = some (after, skb)) :
    after.ptkPn = sta.ptkPn ∧ skb.frame = frame ∧ skb.Later := by
  have hnever : (⟨frame, false, false, false⟩ : MvmSkb).Later := fun hallow => by cases hallow
  unfold iwlMvmIsDup at hpass
  cases hdup : sta.dupData with
  | none =>
      rw [hdup] at hpass
      cases hpass
      exact ⟨rfl, rfl, hnever⟩
  | some dup =>
      rw [hdup] at hpass
      simp only at hpass
      split_ifs at hpass <;> cases hpass
      · exact ⟨rfl, rfl, hnever⟩
      all_goals
        refine ⟨rfl, rfl, fun hallow => ?_⟩
        simp only [Bool.and_eq_true, decide_eq_true_eq] at hallow
        exact Nat.ne_zero_of_lt hallow.1.2

theorem SessionBehind.later {arrived arrived' : List MvmFrame}
    {handed : List MvmSkb} {ba : BaidData MvmSkb}
    (hsession : SessionBehind cfg arrived handed ba)
    (harrived : ∀ frame ∈ arrived, frame ∈ arrived') :
    SessionBehind cfg arrived' handed ba := by
  refine ⟨hsession.pos, hsession.buffer.mono (fun frame hframe => ?_)
    fun d hd => ⟨d, hd, rfl⟩⟩
  rw [List.mem_filter] at hframe ⊢
  exact ⟨harrived frame hframe.1, hframe.2⟩

theorem InFront.of_filter {arrived : List MvmFrame} {handed out : List MvmSkb}
    {p : MvmFrame → Bool} (hfront : InFront (arrived.filter p) handed out) :
    InFront arrived handed out :=
  ⟨fun skb hskb => (List.mem_filter.mp (hfront.arrived skb hskb)).1,
    hfront.sorted, hfront.after_handed, hfront.later⟩

theorem SameSn.filter {arrived : List MvmFrame} (hsame : SameSn arrived)
    (p : MvmFrame → Bool) : SameSn (arrived.filter p) :=
  fun frame hframe other hother =>
    hsame frame (List.mem_filter.mp hframe).1 other (List.mem_filter.mp hother).1

theorem BaidData.setQueue_queue {α : Type*} (ba : BaidData α) (queue : ℕ)
    (buffer : DriverQueue α) :
    (ba.setQueue queue buffer).queues queue = buffer := by
  simp [BaidData.setQueue]

theorem SessionBehind.setQueue {arrived : List MvmFrame} {handed : List MvmSkb}
    {ba : BaidData MvmSkb} {buffer : DriverQueue MvmSkb} (hpos : 0 < ba.bufSize)
    (hbuffer : BufferBehind ba.bufSize (arrived.filter (ba.admits cfg)) handed
      buffer) :
    SessionBehind cfg arrived handed (ba.setQueue cfg.queue buffer) :=
  ⟨hpos, by rw [BaidData.setQueue_queue]; exact hbuffer⟩

theorem SessionBehind.release {arrived : List MvmFrame} {handed : List MvmSkb}
    {ba : BaidData MvmSkb} (hsession : SessionBehind cfg arrived handed ba)
    (hsame : SameSn arrived) (nssn : ℕ) :
    InFront arrived handed
        (iwlMvmReleaseFramesFromNotif ba cfg.queue nssn).2 ∧
      SessionBehind cfg arrived
        (handed ++ (iwlMvmReleaseFramesFromNotif ba cfg.queue nssn).2)
        (iwlMvmReleaseFramesFromNotif ba cfg.queue nssn).1 := by
  obtain ⟨hbuffer, hfront⟩ := hsession.buffer.release hsession.pos
    (hsame.filter _) nssn
  exact ⟨hfront.of_filter, SessionBehind.setQueue hsession.pos hbuffer⟩

section Arrival

variable {r : MvmRun} {arrived : List MvmFrame} {skb : MvmSkb}
  {ba : BaidData MvmSkb}

theorem SessionBehind.turnedAway {handed : List MvmSkb}
    (hsession : SessionBehind cfg arrived handed ba) (hsame : SameSn arrived)
    (hskb : skb.frame ∈ arrived) (haway : ba.admits cfg skb.frame = false) :
    SessionBehind cfg arrived (handed ++ [skb]) ba := by
  refine ⟨hsession.pos, hsession.buffer.exact, hsession.buffer.unused,
    hsession.buffer.entries, fun slot other hother d hd => ?_⟩
  rcases List.mem_append.mp hd with hd | hd
  · exact hsession.buffer.behind slot other hother d hd
  · rw [List.mem_singleton.mp hd]
    intro hmpdu
    have hstored := List.mem_filter.mp
      (hsession.buffer.entries.arrived slot other hother)
    have hlets := @BaidData.admits_sameMpdu cfg ba _ _
      (hsame _ hskb _ hstored.1 hmpdu)
    rw [haway, hstored.2] at hlets
    cases hlets

theorem MvmRun.reorder_inFront
    (hsession : ∀ ba ∈ r.session,
      SessionBehind cfg arrived r.frames.handed ba)
    (hsame : SameSn arrived) (hskb : skb.frame ∈ arrived) (hlater : skb.Later)
    (hlast : ∀ ba ∈ r.session, ∀ slot,
      ∀ old ∈ (ba.queues cfg.queue).entries slot,
        old.frame.Earlier skb.frame)
    (hhanded : ∀ d ∈ r.frames.handed, d.frame.Earlier skb.frame)
    (hroom : r.CounterHolds cfg (.mpdu skb.frame)) :
    InFront arrived r.frames.handed (r.reorder cfg skb).2 ∧
      ∀ ba ∈ (r.reorder cfg skb).1,
        SessionBehind cfg arrived (r.frames.handed ++ (r.reorder cfg skb).2)
          ba := by
  cases hba : r.session with
  | none =>
      rw [r.reorder_none skb hba]
      exact ⟨InFront.single hskb hlater hhanded, fun ba h => by cases h⟩
  | some ba =>
      have hbehind := hsession ba hba
      by_cases hlets : ba.admits cfg skb.frame = true
      · obtain ⟨hlookup, hreorder⟩ := r.reorder_admitted hba hlets
        rw [hreorder]
        obtain ⟨hbuffer, hfront⟩ := hbehind.buffer.reorder hbehind.pos
          (hsame.filter _) (hroom ba hlookup)
          (List.mem_filter.mpr ⟨hskb, hlets⟩) hlater (hlast ba hba) hhanded
        refine ⟨hfront.of_filter, fun after hafter => ?_⟩
        cases hafter
        exact SessionBehind.setQueue hbehind.pos hbuffer
      · rw [Bool.not_eq_true] at hlets
        rw [r.reorder_turnedAway hba hlets]
        refine ⟨InFront.single hskb hlater hhanded, fun after hafter => ?_⟩
        cases hafter
        exact hbehind.turnedAway hsame hskb hlets

end Arrival

/-- The conditions on a step: the contract of the stream, room in the counter,
and no later subframe with the number of another MPDU. -/
def MvmRun.Sound (cfg : MvmConfig) (tid keyIdx : ℕ) (r : MvmRun)
    (event : MvmEvent) : Prop :=
  r.Contract tid keyIdx event ∧ r.CounterHolds cfg event ∧
    r.OwnPn cfg event

theorem MvmFrame.SameMpdu.symm {frame other : MvmFrame}
    (hsame : frame.SameMpdu other) : other.SameMpdu frame :=
  ⟨hsame.hdr.symm, hsame.pn.symm, hsame.sn.symm, hsame.baid.symm⟩

theorem SameSn.append {arrived : List MvmFrame} {frame : MvmFrame}
    (hsame : SameSn arrived)
    (hframe : ∀ earlier ∈ arrived, earlier.mpdu = frame.mpdu →
      earlier.SameMpdu frame) : SameSn (arrived ++ [frame]) := by
  intro one hone other hother hmpdu
  rw [List.mem_append, List.mem_singleton] at hone hother
  rcases hone with hone | rfl <;> rcases hother with hother | rfl
  · exact hsame one hone other hother hmpdu
  · exact hframe one hone hmpdu
  · exact (hframe other hother hmpdu.symm).symm
  · exact ⟨rfl, rfl, rfl, rfl⟩

theorem MvmRun.releases_inFront {r : MvmRun} {event : MvmEvent} {live : List MvmFrame}
    (hsession : ∀ ba ∈ r.session, SessionBehind cfg live r.frames.handed ba)
    (hsame : SameSn live) (hcontract : r.Contract tid keyIdx event)
    (hroom : r.CounterHolds cfg event)
    (hframe : ∀ frame, event = .mpdu frame → frame ∈ live ∧
      (∀ ba ∈ r.session, ∀ slot, ∀ old ∈ (ba.queues cfg.queue).entries slot,
        old.frame.Earlier frame) ∧ ∀ d ∈ r.frames.handed, d.frame.Earlier frame) :
    ReleasesInFront cfg r live (r.releases cfg event) := by
  cases event with
  | mpdu frame =>
      obtain ⟨hmem, hstored, hhanded⟩ := hframe frame rfl
      simp only [MvmRun.releases]
      cases hdup : iwlMvmIsDup r.frames.sta frame with
      | none =>
          refine ⟨rfl, InFront.nil, fun ba hba => ?_⟩
          rw [List.append_nil]
          exact hsession ba hba
      | some result =>
          obtain ⟨sta, skb⟩ := result
          obtain ⟨hptk, rfl, hlater⟩ := iwlMvmIsDup_some hdup
          obtain ⟨hfront, hafter⟩ := MvmRun.reorder_inFront hsession hsame hmem hlater
            hstored hhanded hroom
          exact ⟨hptk, hfront, hafter⟩
  | start baid sessionTid staMask bufSize ssn =>
      refine ⟨rfl, InFront.nil, fun ba hba => ?_⟩
      simp only [MvmRun.releases, List.append_nil] at hba ⊢
      cases hba
      cases hold : r.session with
      | some old => exact hsession old hold
      | none =>
          refine ⟨hcontract, ⟨[], [], ⟨?_, ?_, ?_⟩⟩, fun _ _ => rfl,
            ⟨fun _ _ h => ?_, fun _ _ h => ?_, fun _ => List.Pairwise.nil, fun _ _ h => ?_⟩,
            fun _ _ h => ?_⟩
          · simp [storedIn, SlotRing.total, iwlMvmInitReorderBuffer]
          · simp [storedIn, SlotRing.total, iwlMvmInitReorderBuffer]
          · simp [storedIn, SlotRing.total, iwlMvmInitReorderBuffer]
          · cases h
          · cases h
          · cases h
          · cases h
  | frameRelease nssn =>
      simp only [MvmRun.releases]
      cases hold : r.session with
      | none => exact ⟨rfl, InFront.nil, fun ba hba => by cases hba⟩
      | some ba =>
          obtain ⟨hfront, hafter⟩ := (hsession ba hold).release hsame nssn
          refine ⟨rfl, hfront, fun next hnext => ?_⟩
          cases hnext
          exact hafter
  | delBa =>
      simp only [MvmRun.releases]
      cases hold : r.session with
      | none => exact ⟨rfl, InFront.nil, fun ba hba => by cases hba⟩
      | some ba =>
          obtain ⟨hfront, -⟩ := (hsession ba hold).release hsame
            (ieee80211SnAdd (ba.queues cfg.queue).headSn ba.bufSize)
          exact ⟨rfl, hfront, fun next hnext => by cases hnext⟩

theorem MvmFrame.OfStream.storedPn {frame : MvmFrame} (hstream : frame.OfStream tid keyIdx)
    {sta : MvmStaQueue} {holds : PacketNumber → Prop}
    (hstored : ∃ pn ∈ sta.storedPn frame, holds pn) :
    ∃ pns ∈ sta.ptkPn keyIdx, holds (pns tid) := by
  obtain ⟨pn, hpn, hholds⟩ := hstored
  rw [MvmStaQueue.storedPn, hstream.keyIdx, hstream.tid, Option.mem_def,
    Option.map_eq_some_iff] at hpn
  obtain ⟨pns, hpns, rfl⟩ := hpn
  exact ⟨pns, hpns, hholds⟩

/-- The number of a frame that waits is owned against the one that comes in. -/
theorem StreamInOrder.owned_waiting {r : MvmRun} {frame one : MvmFrame}
    (hinv : StreamInOrder cfg tid keyIdx r) (hstream : frame.OfStream tid keyIdx)
    (hone : r.Waits cfg one) (hown : r.OwnPn cfg (.mpdu frame)) :
    Owned tid keyIdx r.frames frame one := by
  intro hmpdu hpn hidx
  rcases hown one (Or.inl hone) hmpdu.symm hpn.symm with ⟨hzero, -⟩ | hnumber
  · exact absurd hzero hidx
  obtain ⟨pns, hpns, hless | ⟨heq, hzero⟩⟩ := hstream.storedPn hnumber
  · rw [hpn] at hless
    exact ⟨pns, hpns, Or.inl hless⟩
  · refine ⟨pns, hpns, Or.inr ⟨hpn.symm.trans heq, hzero, fun d hd hsame => ?_⟩⟩
    by_contra hdiffers
    obtain ⟨stored, hequal, hless | ⟨-, -, hall⟩⟩ := hinv.owned d.frame one
      (Or.inr ⟨d, hd, rfl⟩) hone hdiffers hsame hidx
    · rw [Option.mem_def.mp hpns, Option.mem_def, Option.some.injEq] at hequal
      rw [← hequal, ← hpn, heq] at hless
      exact absurd hless (Nat.lt_irrefl _)
    · exact hdiffers (hall d hd hsame)

/-- A later number is stored where the frame that comes in has that of another MPDU. -/
theorem StreamInOrder.owned_incoming {r : MvmRun} {other frame : MvmFrame}
    (hinv : StreamInOrder cfg tid keyIdx r) (hstream : frame.OfStream tid keyIdx)
    (hother : r.Waits cfg other ∨ ∃ d ∈ r.frames.handed, d.frame = other)
    (hown : r.OwnPn cfg (.mpdu frame)) : Owned tid keyIdx r.frames other frame := by
  intro hmpdu hpn hidx
  have hlater : ∀ {first : MvmFrame}, r.Waits cfg first ∨
      (∃ last ∈ r.frames.handed.getLast?, last.frame = first) → first.mpdu ≠ frame.mpdu →
      first.pn = frame.pn →
      ∃ pns ∈ r.frames.sta.ptkPn keyIdx, frame.pn.value < (pns tid).value := by
    intro first hfirst hdiffers hsame
    rcases hown first hfirst hdiffers hsame with ⟨-, hzero⟩ | hnumber
    · exact absurd hzero hidx
    obtain ⟨pns, hpns, hless | ⟨-, hzero⟩⟩ := hstream.storedPn hnumber
    · exact ⟨pns, hpns, hless⟩
    · exact absurd hzero hidx
  have hfound : ∃ pns ∈ r.frames.sta.ptkPn keyIdx, frame.pn.value < (pns tid).value := by
    rcases hother with hwaits | ⟨d, hd, rfl⟩
    · exact hlater (Or.inl hwaits) hmpdu hpn
    · -- the last one handed on has this number too, or a later one
      obtain ⟨last, hlast⟩ : ∃ last, r.frames.handed.getLast? = some last := by
        rw [← Option.isSome_iff_exists, List.getLast?_isSome]
        exact List.ne_nil_of_mem hd
      have hlastPn := hinv.handed.stored last hlast
      rw [Option.map_eq_some_iff] at hlastPn
      obtain ⟨pns, hpns, hsame⟩ := hlastPn
      have hfollow := hinv.handed.le_last hlast hd
      rw [hpn] at hfollow
      rcases Nat.lt_or_eq_of_le hfollow.1 with hless | hequal
      · rw [← hsame] at hless
        exact ⟨pns, hpns, hless⟩
      · refine hlater (Or.inr ⟨last, hlast, rfl⟩) ?_
          (PacketNumber.value_inj.mp hequal.symm)
        rw [← hfollow.2 hequal]
        exact hmpdu
  obtain ⟨pns, hpns, hless⟩ := hfound
  exact ⟨pns, hpns, Or.inl hless⟩

theorem StreamInOrder.owned_arrival {r : MvmRun} {frame : MvmFrame} {live : List MvmFrame}
    (hinv : StreamInOrder cfg tid keyIdx r) (hstream : frame.OfStream tid keyIdx)
    (hlive : ∀ other ∈ live, r.Waits cfg other) (hown : r.OwnPn cfg (.mpdu frame)) :
    PnOwned tid keyIdx r.frames fun other => other ∈ live ++ [frame] := by
  intro other one hother hone
  simp only [List.mem_append, List.mem_singleton] at hother hone
  rcases hone with hone | rfl
  · rcases hother with (hother | rfl) | hhanded
    · exact hinv.owned other one (Or.inl (hlive other hother)) (hlive one hone)
    · exact hinv.owned_waiting hstream (hlive one hone) hown
    · exact hinv.owned other one (Or.inr hhanded) (hlive one hone)
  · rcases hother with (hother | rfl) | hhanded
    · exact hinv.owned_incoming hstream (Or.inl (hlive other hother)) hown
    · exact fun hmpdu => absurd rfl hmpdu
    · exact hinv.owned_incoming hstream (Or.inr hhanded) hown

theorem StreamInOrder.afterStep {r after : MvmRun} {event : MvmEvent}
    {output : List MvmSkb} (hinv : StreamInOrder cfg tid keyIdx r)
    (hqueue : cfg.queue ≠ 0) (hsound : r.Sound cfg tid keyIdx event)
    (hstep : r.step cfg event = some (after, output)) :
    StreamInOrder cfg tid keyIdx after := by
  classical
  obtain ⟨hcontract, hroom, hown⟩ := hsound
  cases hstep
  generalize hlive : (r.arrived.filter fun frame => decide (r.Waits cfg frame)) = live
  have hwaits : ∀ frame ∈ live, r.Waits cfg frame := by
    intro frame hframe
    rw [← hlive, List.mem_filter, decide_eq_true_eq] at hframe
    exact hframe.2
  have harrived : ∀ frame ∈ live, frame ∈ r.arrived := by
    intro frame hframe
    rw [← hlive, List.mem_filter] at hframe
    exact hframe.1
  have hsession : ∀ ba ∈ r.session, SessionBehind cfg live r.frames.handed ba := by
    intro ba hba
    refine (hinv.session ba hba).restrict fun slot skb hskb => ?_
    rw [← hlive, List.mem_filter, decide_eq_true_eq]
    exact ⟨(List.mem_filter.mp ((hinv.session ba hba).buffer.entries.arrived slot skb hskb)).1,
      ba, hba, slot, skb, hskb, rfl⟩
  have hsameLive : SameSn live := fun frame hframe other hother =>
    hinv.sameSn frame (harrived frame hframe) other (harrived other hother)
  by_cases hmpdu : ∃ frame, event = .mpdu frame
  · obtain ⟨frame, rfl⟩ := hmpdu
    have hearlier : ∀ old ∈ r.arrived, old.Earlier frame :=
      fun old hold hsame => (hcontract.2 old hold hsame).2
    have hframe : ∀ {frames : List MvmFrame} other, MvmEvent.mpdu frame = .mpdu other →
        other ∈ frames ++ [frame] ∧
        (∀ ba ∈ r.session, ∀ slot, ∀ old ∈ (ba.queues cfg.queue).entries slot,
          old.frame.Earlier other) ∧ ∀ d ∈ r.frames.handed, d.frame.Earlier other := by
      intro frames other hother
      cases hother
      refine ⟨List.mem_append_right _ (List.mem_singleton_self _), ?_, ?_⟩
      · exact fun ba hba slot old hold => hearlier _ (List.mem_filter.mp
          ((hinv.session ba hba).buffer.entries.arrived slot old hold)).1
      · exact fun d hd => hearlier _ (hinv.handed_arrived d hd)
    have hgrown : SameSn (r.arrived ++ [frame]) :=
      hinv.sameSn.append fun old hold hsame => (hcontract.2 old hold hsame).1
    refine hinv.afterRelease hqueue
      (MvmRun.releases_inFront (fun ba hba => (hinv.session ba hba).later
        fun old hold => List.mem_append_left _ hold) hgrown hcontract hroom hframe)
      (MvmRun.releases_inFront (fun ba hba => (hsession ba hba).later
        fun old hold => List.mem_append_left _ hold)
        (hsameLive.append fun old hold hsame =>
          (hcontract.2 old (harrived old hold) hsame).1) hcontract hroom hframe)
      (fun old hold => List.mem_append_left _ hold) (fun old hold => ?_) hgrown
      (hinv.owned_arrival hcontract.1 hwaits hown)
    rw [List.mem_append, List.mem_singleton] at hold
    rcases hold with hold | rfl
    · exact hinv.stream old hold
    · exact hcontract.1
  · have hframe : ∀ {frames : List MvmFrame} other, event = .mpdu other →
        other ∈ frames ∧
        (∀ ba ∈ r.session, ∀ slot, ∀ old ∈ (ba.queues cfg.queue).entries slot,
          old.frame.Earlier other) ∧ ∀ d ∈ r.frames.handed, d.frame.Earlier other :=
      fun other hother => absurd ⟨other, hother⟩ hmpdu
    have hafter := hinv.afterRelease hqueue
      (MvmRun.releases_inFront hinv.session hinv.sameSn hcontract hroom hframe)
      (MvmRun.releases_inFront hsession hsameLive hcontract hroom hframe)
      (fun _ h => h) hinv.stream hinv.sameSn (hinv.owned.mono hwaits)
    cases event with
    | mpdu frame => exact absurd ⟨frame, rfl⟩ hmpdu
    | start | frameRelease | delBa => exact hafter

/-- What was handed on has numbers that do not decrease, equal ones only for
ascending subframes of one MPDU, and so nothing twice. -/
structure MvmRun.ReplayProtected (r : MvmRun) : Prop where
  ordered : r.frames.handed.Pairwise fun skb later =>
    later.frame.MayFollow skb.frame
  once : (r.frames.handed.map fun skb =>
    (skb.frame.pn.value, skb.frame.idx)).Nodup

theorem mvmReplayProtection (hqueue : cfg.queue ≠ 0) (sta : MvmStaQueue)
    {r : MvmRun}
    (hreach : Reachable (MvmRun.step cfg)
      (fun r event => r.Sound cfg tid keyIdx event) (MvmRun.initial sta) r) :
    r.ReplayProtected := by
  have hinitial : StreamInOrder cfg tid keyIdx (MvmRun.initial sta) :=
    ⟨⟨List.Pairwise.nil, fun _ h => by cases h⟩,
      fun _ h => (List.not_mem_nil h).elim,
      fun _ h => (List.not_mem_nil h).elim,
      fun _ h => (List.not_mem_nil h).elim, fun _ h => (by cases h),
      fun _ _ _ hwaits => by
        obtain ⟨ba, hba, -⟩ := hwaits
        cases hba⟩
  have hinv := hreach.invariant hinitial
    fun _ _ _ _ hinv hsound hstep => hinv.afterStep hqueue hsound hstep
  refine ⟨hinv.handed.ordered, ?_⟩
  rw [List.Nodup, List.pairwise_map]
  refine hinv.handed.ordered.imp fun hfollow heq => ?_
  rw [Prod.mk.injEq] at heq
  exact absurd heq.2 (hfollow.2 heq.1).2.ne

end Run

/-! ## An A-MSDU of two subframes -/

section Samples

def queueOne : MvmConfig where
  queue := 1
  family9000 := false
  staMask := 1

def newStaQueue : MvmStaQueue where
  dupData := some ⟨fun _ => 65535, fun _ => 255⟩
  ptkPn := fun _ => some fun _ => PacketNumber.zero

/-- Subframes with packet number 5 and sequence number 1, outside of a
block-ack session, without the retry bit. -/
def amsduSubframe (mpdu amsduInfo : ℕ) : MvmFrame where
  hdr :=
    { frameControl := 0x4088
      hdrlen := 26
      addr1 := [2, 0, 0, 0, 0, 1]
      addr2 := [2, 0, 0, 0, 0, 2]
      seqCtrl := 16
      qosCtl := 0x80 }
  extiv := [5, 0, 0, 0x20, 0, 0, 0, 0]
  decrypted := true
  desc :=
    { reorderData := 0x7f * 2 ^ 24
      duplicate := false
      amsdu := true
      amsduInfo := amsduInfo }
  mpdu := mpdu

def MvmRun.take (r : MvmRun) (frame : MvmFrame) : MvmRun :=
  ((r.step queueOne (.mpdu frame)).map Prod.fst).getD r

theorem amsduSubframe_ofStream (mpdu amsduInfo : ℕ) :
    (amsduSubframe mpdu amsduInfo).OfStream 0 0 := by
  constructor <;> simp +decide [amsduSubframe, Ieee80211Hdr.isDataQos,
    Ieee80211Hdr.isData, Ieee80211Hdr.ftype, Ieee80211Hdr.stype,
    Ieee80211Hdr.isMulticast, Ieee80211Hdr.tid, MvmFrame.keyIdx]

theorem amsduSubframe_sameMpdu (mpdu first second : ℕ) :
    (amsduSubframe mpdu first).SameMpdu (amsduSubframe mpdu second) :=
  ⟨rfl, rfl, rfl, rfl⟩

theorem ownPn_noSession {r : MvmRun} {frame : MvmFrame} (hnone : r.session = none)
    (hlast : ∀ last ∈ r.frames.handed.getLast?, last.frame.mpdu ≠ frame.mpdu →
      ∃ pn ∈ r.frames.sta.storedPn frame, frame.pn = pn ∧ frame.idx = 0) :
    r.OwnPn queueOne (.mpdu frame) := by
  rintro other (⟨ba, hba, -⟩ | ⟨last, hmem, rfl⟩) hmpdu -
  · rw [hnone] at hba
    cases hba
  · obtain ⟨pn, hpn, hnumber⟩ := hlast last hmem hmpdu
    exact Or.inr ⟨pn, hpn, Or.inr hnumber⟩

/-- Both subframes of an A-MSDU are handed on, and its first one is not when it is replayed. -/
theorem mvmReplayProtection_amsdu :
    let after := (((MvmRun.initial newStaQueue).take (amsduSubframe 0 0)).take
      (amsduSubframe 0 129)).take (amsduSubframe 1 0)
    after.ReplayProtected ∧
      after.frames.handed.map (fun skb => (skb.frame.mpdu, skb.frame.idx)) =
        [(0, 0), (0, 1)] := by
  refine ⟨@mvmReplayProtection queueOne 0 0 (by decide) newStaQueue _
    (.after (.after (.after .start
      (.mpdu (amsduSubframe 0 0)) [] ⟨⟨?_, ?_⟩, ?_, ?_⟩ rfl)
      (.mpdu (amsduSubframe 0 129)) [] ⟨⟨?_, ?_⟩, ?_, ?_⟩ rfl)
      (.mpdu (amsduSubframe 1 0)) [] ⟨⟨?_, ?_⟩, ?_, ?_⟩ rfl), by decide +kernel⟩
  · exact amsduSubframe_ofStream 0 0
  · exact fun _ h => (List.not_mem_nil h).elim
  · exact fun ba hba => by cases hba
  · exact ownPn_noSession rfl fun last hlast => by cases hlast
  · exact amsduSubframe_ofStream 0 129
  · intro earlier hearlier _
    rw [List.mem_singleton.mp hearlier]
    exact ⟨amsduSubframe_sameMpdu 0 0 129, by decide⟩
  · exact fun ba hba => by cases hba
  · refine ownPn_noSession rfl fun last hlast hmpdu => ?_
    cases hlast
    exact absurd rfl hmpdu
  · exact amsduSubframe_ofStream 1 0
  · intro earlier hearlier hmpdu
    rcases List.mem_pair.mp hearlier with rfl | rfl <;> cases hmpdu
  · exact fun ba hba => by cases hba
  · exact ownPn_noSession rfl fun last _ _ => ⟨_, rfl, rfl, rfl⟩

/-- The A-MSDU is replayed as it was.  Its first subframe is rejected, but the
second one may then repeat the number of the first, and is handed on again. -/
theorem mvmReplayProtection_fails_replay :
    let after := ((((MvmRun.initial newStaQueue).take (amsduSubframe 0 0)).take
      (amsduSubframe 0 129)).take (amsduSubframe 1 0)).take
      (amsduSubframe 1 129)
    Reachable (MvmRun.step queueOne)
        (fun r event => r.Contract 0 0 event ∧ r.CounterHolds queueOne event)
        (MvmRun.initial newStaQueue) after ∧
      after.frames.handed.map (fun skb =>
        (skb.frame.mpdu, skb.frame.pn.value, skb.frame.idx)) =
        [(0, 5, 0), (0, 5, 1), (1, 5, 1)] ∧
      ¬ after.ReplayProtected := by
  have hpairs : ((((((MvmRun.initial newStaQueue).take (amsduSubframe 0 0)).take
      (amsduSubframe 0 129)).take (amsduSubframe 1 0)).take
      (amsduSubframe 1 129)).frames.handed.map fun skb =>
        (skb.frame.pn.value, skb.frame.idx)) = [(5, 0), (5, 1), (5, 1)] := by
    decide +kernel
  refine ⟨.after (.after (.after (.after .start
      (.mpdu (amsduSubframe 0 0)) [] ⟨⟨?_, ?_⟩, ?_⟩ rfl)
      (.mpdu (amsduSubframe 0 129)) [] ⟨⟨?_, ?_⟩, ?_⟩ rfl)
      (.mpdu (amsduSubframe 1 0)) [] ⟨⟨?_, ?_⟩, ?_⟩ rfl)
      (.mpdu (amsduSubframe 1 129)) [] ⟨⟨?_, ?_⟩, ?_⟩ rfl,
    by decide +kernel, fun hprotected => ?_⟩
  · exact amsduSubframe_ofStream 0 0
  · exact fun _ h => (List.not_mem_nil h).elim
  · exact fun ba hba => by cases hba
  · exact amsduSubframe_ofStream 0 129
  · intro earlier hearlier _
    rw [List.mem_singleton.mp hearlier]
    exact ⟨amsduSubframe_sameMpdu 0 0 129, by decide⟩
  · exact fun ba hba => by cases hba
  · exact amsduSubframe_ofStream 1 0
  · intro earlier hearlier hmpdu
    rcases List.mem_pair.mp hearlier with rfl | rfl <;> cases hmpdu
  · exact fun ba hba => by cases hba
  · exact amsduSubframe_ofStream 1 129
  · intro earlier hearlier hmpdu
    have hcases : earlier ∈ [amsduSubframe 0 0, amsduSubframe 0 129,
      amsduSubframe 1 0] := hearlier
    simp only [List.mem_cons, List.not_mem_nil, or_false] at hcases
    rcases hcases with rfl | rfl | rfl
    · cases hmpdu
    · cases hmpdu
    · exact ⟨amsduSubframe_sameMpdu 1 0 129, by decide⟩
  · exact fun ba hba => by cases hba
  · have honce := hprotected.once
    rw [hpairs] at honce
    revert honce
    decide

end Samples

end IwlwifiStack
