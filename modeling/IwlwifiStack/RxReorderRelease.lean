import IwlwifiStack.RxReorderModel
import IwlwifiStack.SlotRing

/-!
# What a release does to the reorder buffer

Every path that moves the head forward (window move, in-order run, timeout)
amounts to releasing the slot at the head a number of times.  The one
exception is the slot at the head when a timeout skips it: it is passed over
without being purged.  `releaseHeads` is the repeated release, and
`staReorderRelease_cases` says once how the release function of the source
relates to it; all invariants are derived from these two.
-/

namespace IwlwifiStack

variable {α : Type*}

theorem and_twoPow_ne_zero_iff (bitmap : BitVec 64) (index : ℕ) :
    bitmap &&& BitVec.twoPow 64 index ≠ 0 ↔ bitmap.getLsbD index = true := by
  rw [BitVec.and_twoPow]
  constructor
  · intro hne
    by_contra hbit
    simp [hbit] at hne
  · intro hbit hzero
    have hindex : index < 64 := BitVec.lt_of_getLsbD hbit
    rw [if_pos hbit] at hzero
    have hself := congrArg (fun v => v.getLsbD index) hzero
    simp [hindex] at hself

theorem ready_eq (rx : TidAmpduRx α) (index : ℕ) :
    ieee80211RxReorderReady rx index =
      (rx.reorderBufFiltered.getLsbD index ||
        tailComplete (rx.reorderBuf index)) := by
  unfold ieee80211RxReorderReady
  by_cases hbit : rx.reorderBufFiltered.getLsbD index = true
  · have hand := (and_twoPow_ne_zero_iff _ _).mpr hbit
    have hne : rx.reorderBufFiltered ≠ 0 := by
      intro hzero
      simp [hzero] at hbit
    rw [hbit, if_pos (by rw [Bool.and_eq_true]; exact
      ⟨decide_eq_true hne, decide_eq_true hand⟩), Bool.true_or]
  · have hand := mt (and_twoPow_ne_zero_iff _ _).mp hbit
    simp only [Bool.not_eq_true] at hbit
    simp [hbit, not_not.mp hand]

@[simp] theorem tailComplete_nil :
    tailComplete ([] : List (RxSkb α)) = false := rfl

@[simp] theorem tailComplete_append (queue : List (RxSkb α)) (skb : RxSkb α) :
    tailComplete (queue ++ [skb]) = !skb.amsduMore := by
  simp [tailComplete]

theorem tailComplete_ne_nil {queue : List (RxSkb α)}
    (hcomplete : tailComplete queue = true) : queue ≠ [] := by
  rintro rfl
  simp at hcomplete

def TidAmpduRx.SameFrame (after before : TidAmpduRx α) : Prop :=
  after =
    { before with
      reorderBufFiltered := after.reorderBufFiltered
      reorderBuf := after.reorderBuf
      headSeqNum := after.headSeqNum
      storedMpduNum := after.storedMpduNum }

namespace TidAmpduRx.SameFrame

variable {a b c : TidAmpduRx α}

theorem refl (a : TidAmpduRx α) : a.SameFrame a := rfl

theorem trans (hab : a.SameFrame b) (hbc : b.SameFrame c) :
    a.SameFrame c := by
  unfold SameFrame at *
  rw [hab, hbc]

theorem bufSize_eq (hab : a.SameFrame b) : a.bufSize = b.bufSize := by
  rw [hab]

theorem autoSeq_eq (hab : a.SameFrame b) : a.autoSeq = b.autoSeq := by
  rw [hab]

theorem started_eq (hab : a.SameFrame b) : a.started = b.started := by
  rw [hab]

theorem reorderTime_eq (hab : a.SameFrame b) :
    a.reorderTime = b.reorderTime := by
  rw [hab]

theorem eq_of_fields (hac : a.SameFrame c) (hbc : b.SameFrame c)
    (hfiltered : a.reorderBufFiltered = b.reorderBufFiltered)
    (hbuf : a.reorderBuf = b.reorderBuf)
    (hhead : a.headSeqNum = b.headSeqNum)
    (hstored : a.storedMpduNum = b.storedMpduNum) : a = b := by
  rw [hac, hbc, hfiltered, hbuf, hhead, hstored]

end TidAmpduRx.SameFrame

/-! ## One slot -/

section ReleaseFrame

variable (rx : TidAmpduRx α) (index : ℕ)

theorem releaseReorderFrame_sameFrame :
    (ieee80211ReleaseReorderFrame rx index).1.SameFrame rx := by
  unfold TidAmpduRx.SameFrame
  simp only [ieee80211ReleaseReorderFrame, releaseSlot]
  split_ifs <;> rfl

@[simp] theorem releaseReorderFrame_bufSize :
    (ieee80211ReleaseReorderFrame rx index).1.bufSize = rx.bufSize :=
  (releaseReorderFrame_sameFrame rx index).bufSize_eq

theorem releaseSlot_headSeqNum :
    (releaseSlot rx index).1.headSeqNum = rx.headSeqNum := by
  simp only [releaseSlot]
  split_ifs <;> rfl

theorem releaseSlot_reorderBufFiltered :
    (releaseSlot rx index).1.reorderBufFiltered = rx.reorderBufFiltered := by
  simp only [releaseSlot]
  split_ifs <;> rfl

@[simp] theorem releaseReorderFrame_headSeqNum :
    (ieee80211ReleaseReorderFrame rx index).1.headSeqNum =
      ieee80211SnInc rx.headSeqNum := by
  simp only [ieee80211ReleaseReorderFrame, releaseSlot_headSeqNum]

@[simp] theorem releaseReorderFrame_reorderBuf :
    (ieee80211ReleaseReorderFrame rx index).1.reorderBuf =
      Function.update rx.reorderBuf index [] := by
  simp only [ieee80211ReleaseReorderFrame, releaseSlot]
  by_cases hempty : (rx.reorderBuf index).isEmpty = true
  · have hnil : rx.reorderBuf index = [] := List.isEmpty_iff.mp hempty
    rw [if_pos hempty, ← hnil, Function.update_eq_self]
  · rw [if_neg hempty]
    split_ifs <;> rfl

theorem releaseReorderFrame_storedMpduNum :
    (ieee80211ReleaseReorderFrame rx index).1.storedMpduNum =
      if rx.reorderBuf index ≠ [] ∧ ieee80211RxReorderReady rx index = true then
        (rx.storedMpduNum + 65535) % 65536
      else
        rx.storedMpduNum := by
  by_cases hempty : rx.reorderBuf index = [] <;>
    by_cases hready : ieee80211RxReorderReady rx index = true <;>
      simp [ieee80211ReleaseReorderFrame, releaseSlot, hempty, hready]

theorem releaseReorderFrame_frames :
    (ieee80211ReleaseReorderFrame rx index).2 =
      if ieee80211RxReorderReady rx index then
        (rx.reorderBuf index).map RxSkb.deferRelease
      else
        [] := by
  by_cases hempty : rx.reorderBuf index = [] <;>
    by_cases hready : ieee80211RxReorderReady rx index = true <;>
      simp [ieee80211ReleaseReorderFrame, releaseSlot, hempty, hready]

theorem getLsbD_clear (bitmap : BitVec 64) (slot : ℕ) :
    (bitmap &&& ~~~(BitVec.twoPow 64 index)).getLsbD slot =
      (bitmap.getLsbD slot && decide (slot ≠ index)) := by
  by_cases hslot : slot < 64
  · by_cases heq : slot = index
    · subst heq
      simp [hslot]
    · simp [hslot, heq]
  · have hbit : bitmap.getLsbD slot = false :=
      BitVec.getLsbD_of_ge _ _ (by omega)
    simp [hbit]

theorem releaseReorderFrame_filtered (slot : ℕ) :
    (ieee80211ReleaseReorderFrame rx index).1.reorderBufFiltered.getLsbD slot =
      (rx.reorderBufFiltered.getLsbD slot && decide (slot ≠ index)) := by
  simp only [ieee80211ReleaseReorderFrame, releaseSlot_reorderBufFiltered]
  by_cases hzero : rx.reorderBufFiltered = 0
  · simp [hzero]
  · rw [if_pos hzero, getLsbD_clear]

theorem releaseReorderFrame_ready_of_ne {slot : ℕ} (hne : slot ≠ index) :
    ieee80211RxReorderReady (ieee80211ReleaseReorderFrame rx index).1 slot =
      ieee80211RxReorderReady rx slot := by
  simp [ready_eq, releaseReorderFrame_filtered, hne]

end ReleaseFrame

/-! ## Repeated release at the head -/

def TidAmpduRx.headSlot (rx : TidAmpduRx α) : ℕ :=
  rx.headSeqNum % rx.bufSize

/-- Slot of the position `i` places ahead of the head. -/
def TidAmpduRx.slotAt (rx : TidAmpduRx α) (i : ℕ) : ℕ :=
  (rx.headSeqNum + i) % rx.bufSize

def releaseHeads : ℕ → TidAmpduRx α → TidAmpduRx α × List (RxSkb α)
  | 0, rx => (rx, [])
  | n + 1, rx =>
      let first := ieee80211ReleaseReorderFrame rx rx.headSlot
      let rest := releaseHeads n first.1
      (rest.1, first.2 ++ rest.2)

@[simp] theorem releaseHeads_zero (rx : TidAmpduRx α) :
    releaseHeads 0 rx = (rx, []) := rfl

theorem releaseHeads_invariant
    {Good : TidAmpduRx α → List (RxSkb α) → Prop}
    (hstep : ∀ rx frames, Good rx frames →
      Good (ieee80211ReleaseReorderFrame rx rx.headSlot).1
        (frames ++ (ieee80211ReleaseReorderFrame rx rx.headSlot).2))
    (n : ℕ) {rx : TidAmpduRx α} {frames : List (RxSkb α)}
    (hgood : Good rx frames) :
    Good (releaseHeads n rx).1 (frames ++ (releaseHeads n rx).2) := by
  induction n generalizing rx frames with
  | zero => simpa using hgood
  | succ n ih =>
      have hnext := ih (hstep rx frames hgood)
      simpa [releaseHeads, List.append_assoc] using hnext

theorem releaseHeads_add (m n : ℕ) (rx : TidAmpduRx α) :
    releaseHeads (m + n) rx =
      ((releaseHeads n (releaseHeads m rx).1).1,
        (releaseHeads m rx).2 ++ (releaseHeads n (releaseHeads m rx).1).2) := by
  induction m generalizing rx with
  | zero => simp
  | succ m ih =>
      rw [show m + 1 + n = m + n + 1 by omega]
      simp [releaseHeads, ih]

theorem releaseHeads_succ (n : ℕ) (rx : TidAmpduRx α) :
    releaseHeads (n + 1) rx =
      ((ieee80211ReleaseReorderFrame (releaseHeads n rx).1
          (releaseHeads n rx).1.headSlot).1,
        (releaseHeads n rx).2 ++
          (ieee80211ReleaseReorderFrame (releaseHeads n rx).1
            (releaseHeads n rx).1.headSlot).2) := by
  rw [releaseHeads_add]
  simp [releaseHeads]

section ReleaseHeads

variable (n : ℕ) (rx : TidAmpduRx α)

theorem releaseHeads_sameFrame : (releaseHeads n rx).1.SameFrame rx := by
  induction n generalizing rx with
  | zero => exact .refl rx
  | succ n ih =>
      exact (ih _).trans (releaseReorderFrame_sameFrame rx rx.headSlot)

@[simp] theorem releaseHeads_bufSize :
    (releaseHeads n rx).1.bufSize = rx.bufSize :=
  (releaseHeads_sameFrame n rx).bufSize_eq

@[simp] theorem releaseHeads_autoSeq :
    (releaseHeads n rx).1.autoSeq = rx.autoSeq :=
  (releaseHeads_sameFrame n rx).autoSeq_eq

@[simp] theorem releaseHeads_started :
    (releaseHeads n rx).1.started = rx.started :=
  (releaseHeads_sameFrame n rx).started_eq

@[simp] theorem releaseHeads_reorderTime :
    (releaseHeads n rx).1.reorderTime = rx.reorderTime :=
  (releaseHeads_sameFrame n rx).reorderTime_eq

theorem releaseHeads_headSeqNum_mod :
    (releaseHeads n rx).1.headSeqNum % 4096 =
      (rx.headSeqNum + n) % 4096 := by
  induction n generalizing rx with
  | zero => rfl
  | succ n ih =>
      rw [releaseHeads, ih, releaseReorderFrame_headSeqNum, ieee80211SnInc,
        ieee80211SnAdd]
      omega

theorem releaseHeads_headSeqNum_lt (hpos : 0 < n) :
    (releaseHeads n rx).1.headSeqNum < 4096 := by
  obtain ⟨m, rfl⟩ := Nat.exists_eq_succ_of_ne_zero hpos.ne'
  rw [Nat.succ_eq_add_one, releaseHeads_succ, releaseReorderFrame_headSeqNum]
  exact snInc_lt _

end ReleaseHeads

theorem releaseHeads_unmarked (n : ℕ) {rx : TidAmpduRx α}
    (hfiltered : rx.reorderBufFiltered = 0) :
    (releaseHeads n rx).1.reorderBufFiltered = 0 := by
  apply @releaseHeads_invariant _ (fun rx _ => rx.reorderBufFiltered = 0)
    _ n _ [] hfiltered
  intro rx _ hzero
  simp [ieee80211ReleaseReorderFrame, releaseSlot_reorderBufFiltered, hzero]

section Window

variable {rx : TidAmpduRx α}

theorem slot_congr (hdvd : rx.bufSize ∣ 4096) {p q : ℕ}
    (hmod : p % 4096 = q % 4096) : p % rx.bufSize = q % rx.bufSize := by
  rw [← Nat.mod_mod_of_dvd p hdvd, hmod, Nat.mod_mod_of_dvd q hdvd]

theorem releaseHeads_slotAt (hdvd : rx.bufSize ∣ 4096) (n i : ℕ) :
    (releaseHeads n rx).1.slotAt i = rx.slotAt (n + i) := by
  unfold TidAmpduRx.slotAt
  rw [releaseHeads_bufSize]
  apply slot_congr hdvd
  have hhead := releaseHeads_headSeqNum_mod n rx
  omega

theorem headSlot_eq_slotAt (rx : TidAmpduRx α) :
    rx.headSlot = rx.slotAt 0 := rfl

theorem slotAt_lt (hpos : 0 < rx.bufSize) (i : ℕ) :
    rx.slotAt i < rx.bufSize :=
  Nat.mod_lt _ hpos

theorem headSlot_lt (hpos : 0 < rx.bufSize) : rx.headSlot < rx.bufSize :=
  Nat.mod_lt _ hpos

theorem slotAt_ne {i j : ℕ} (hi : i < rx.bufSize) (hj : j < rx.bufSize)
    (hne : i ≠ j) : rx.slotAt i ≠ rx.slotAt j :=
  SlotRing.offset_ne hi hj hne

/-- The slot belongs to one of the first `n` positions from the head. -/
def TidAmpduRx.Passes (rx : TidAmpduRx α) (n slot : ℕ) : Prop :=
  ∃ i < n, slot = rx.slotAt i

instance (rx : TidAmpduRx α) (n slot : ℕ) : Decidable (rx.Passes n slot) := by
  unfold TidAmpduRx.Passes
  infer_instance

theorem not_passes_zero (rx : TidAmpduRx α) (slot : ℕ) :
    ¬ rx.Passes 0 slot := by
  rintro ⟨i, hi, _⟩
  omega

theorem passes_succ (rx : TidAmpduRx α) (n slot : ℕ) :
    rx.Passes (n + 1) slot ↔ rx.Passes n slot ∨ slot = rx.slotAt n :=
  Nat.exists_lt_succ_right

theorem passes_bufSize (rx : TidAmpduRx α) {n slot : ℕ}
    (hn : rx.bufSize ≤ n) (hslot : slot < rx.bufSize) :
    rx.Passes n slot := by
  obtain ⟨i, hi, heq⟩ := SlotRing.exists_offset rx.headSeqNum hslot
  exact ⟨i, by omega, heq.symm⟩

theorem passes_slotAt_iff {n i : ℕ} (hn : n ≤ rx.bufSize)
    (hi : i < rx.bufSize) : rx.Passes n (rx.slotAt i) ↔ i < n := by
  constructor
  · rintro ⟨j, hj, heq⟩
    have hij : i = j := SlotRing.offset_unique hi (by omega) heq
    omega
  · intro hlt
    exact ⟨i, hlt, rfl⟩

theorem releaseHeads_reorderBuf (hdvd : rx.bufSize ∣ 4096) (n slot : ℕ) :
    (releaseHeads n rx).1.reorderBuf slot =
      if rx.Passes n slot then [] else rx.reorderBuf slot := by
  induction n with
  | zero => rw [if_neg (not_passes_zero rx slot), releaseHeads_zero]
  | succ n ih =>
      rw [releaseHeads_succ, releaseReorderFrame_reorderBuf,
        headSlot_eq_slotAt, releaseHeads_slotAt hdvd n 0, Nat.add_zero,
        Function.update_apply, ih]
      by_cases hslot : slot = rx.slotAt n <;>
        simp [passes_succ, hslot]

theorem releaseHeads_filtered (hdvd : rx.bufSize ∣ 4096) (n slot : ℕ) :
    (releaseHeads n rx).1.reorderBufFiltered.getLsbD slot =
      (rx.reorderBufFiltered.getLsbD slot && decide (¬ rx.Passes n slot)) := by
  induction n with
  | zero => simp [not_passes_zero]
  | succ n ih =>
      rw [releaseHeads_succ, releaseReorderFrame_filtered, ih,
        headSlot_eq_slotAt, releaseHeads_slotAt hdvd n 0, Nat.add_zero,
        Bool.and_assoc]
      by_cases hslot : slot = rx.slotAt n <;>
        simp [passes_succ, hslot]

theorem releaseHeads_ready (hdvd : rx.bufSize ∣ 4096) (n slot : ℕ) :
    ieee80211RxReorderReady (releaseHeads n rx).1 slot =
      (ieee80211RxReorderReady rx slot && decide (¬ rx.Passes n slot)) := by
  rw [ready_eq, ready_eq, releaseHeads_filtered hdvd,
    releaseHeads_reorderBuf hdvd]
  by_cases hslot : rx.Passes n slot <;> simp [hslot]

theorem releaseHeads_of_not_ready (hdvd : rx.bufSize ∣ 4096) {n : ℕ}
    (hn : n ≤ rx.bufSize)
    (hready : ∀ i < n, ieee80211RxReorderReady rx (rx.slotAt i) = false) :
    (releaseHeads n rx).2 = [] ∧
      (releaseHeads n rx).1.storedMpduNum = rx.storedMpduNum := by
  induction n with
  | zero => exact ⟨rfl, rfl⟩
  | succ n ih =>
      obtain ⟨hframes, hstored⟩ := ih (by omega) fun i hi => hready i (by omega)
      have hhead : (releaseHeads n rx).1.headSlot = rx.slotAt n := by
        rw [headSlot_eq_slotAt, releaseHeads_slotAt hdvd, Nat.add_zero]
      have hnot : ieee80211RxReorderReady (releaseHeads n rx).1
          (rx.slotAt n) = false := by
        rw [releaseHeads_ready hdvd, hready n (by omega), Bool.false_and]
      rw [releaseHeads_succ, hhead, hframes, releaseReorderFrame_frames,
        releaseReorderFrame_storedMpduNum, hnot, hstored]
      simp

end Window

/-! ## The loops of the source -/

theorem releaseReorderFramesLoop_eq {target : ℕ} (n : ℕ) {fuel : ℕ}
    {rx : TidAmpduRx α} (hfuel : n ≤ fuel) (hn : n < 2048)
    (htarget : (rx.headSeqNum + n) % 4096 = target % 4096) :
    releaseReorderFramesLoop target fuel rx = releaseHeads n rx := by
  induction n generalizing fuel rx with
  | zero =>
      have hless : ieee80211SnLess rx.headSeqNum target = false := by
        rw [snLess_eq_false_iff]
        unfold ieee80211SnSub
        omega
      cases fuel <;> simp [releaseReorderFramesLoop, hless]
  | succ n ih =>
      obtain ⟨fuel, rfl⟩ : ∃ m, fuel = m + 1 := ⟨fuel - 1, by omega⟩
      have hless : ieee80211SnLess rx.headSeqNum target = true := by
        simp only [ieee80211SnLess, decide_eq_true_eq]
        omega
      have hnext := @ih fuel
        (ieee80211ReleaseReorderFrame rx rx.headSlot).1
        (by omega) (by omega) (by
          rw [releaseReorderFrame_headSeqNum, ieee80211SnInc, ieee80211SnAdd]
          omega)
      simp only [TidAmpduRx.headSlot] at hnext
      simp [releaseReorderFramesLoop, releaseHeads, TidAmpduRx.headSlot,
        hless, hnext]

theorem releaseReorderFrames_eq (rx : TidAmpduRx α) (target : ℕ) :
    ieee80211ReleaseReorderFrames rx target =
      releaseHeads (moveDistance rx.headSeqNum target) rx := by
  unfold ieee80211ReleaseReorderFrames
  have hlt := moveDistance_lt rx.headSeqNum target
  by_cases hless : ieee80211SnLess rx.headSeqNum target = true
  · apply releaseReorderFramesLoop_eq _ hlt.le hlt
    rw [moveDistance, if_pos hless, add_snSub_mod]
  · simp [moveDistance, hless, releaseReorderFramesLoop]

/-- How far the window moves for a frame `offset` places ahead of the head.
At exactly half the sequence space the comparison no longer sees the target
ahead and nothing moves. -/
def windowShift (bufSize offset : ℕ) : ℕ :=
  if offset + 1 - bufSize = 2048 then 0 else offset + 1 - bufSize

theorem moveWindow_eq {rx : TidAmpduRx α} {sn : ℕ}
    (hpos : 0 < rx.bufSize) (hsize : rx.bufSize ≤ 1024)
    (hless : ieee80211SnLess sn rx.headSeqNum = false) :
    moveWindow rx sn =
      releaseHeads
        (windowShift rx.bufSize (ieee80211SnSub sn rx.headSeqNum)) rx := by
  rw [snLess_eq_false_iff] at hless
  have hinside : ieee80211SnLess sn ((rx.headSeqNum + rx.bufSize) % 65536) =
      decide (ieee80211SnSub sn rx.headSeqNum < rx.bufSize) := by
    rw [ieee80211SnLess, decide_eq_decide]
    unfold ieee80211SnSub at hless ⊢
    omega
  unfold moveWindow
  rw [hinside]
  by_cases hwindow : ieee80211SnSub sn rx.headSeqNum < rx.bufSize
  · simp [hwindow, windowShift, show
      ieee80211SnSub sn rx.headSeqNum + 1 - rx.bufSize = 0 by omega]
  · have hdistance : moveDistance rx.headSeqNum
        (ieee80211SnInc (ieee80211SnSub sn rx.bufSize)) =
        windowShift rx.bufSize (ieee80211SnSub sn rx.headSeqNum) := by
      apply moveDistance_of_offset
      · unfold ieee80211SnInc ieee80211SnAdd ieee80211SnSub at *
        omega
      · omega
    simp [hwindow, releaseReorderFrames_eq, hdistance]

end IwlwifiStack
