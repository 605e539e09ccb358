import IwlwifiStack.RxReorderRelease

/-!
# The release function as repeated release at the head

`ieee80211_sta_reorder_release` either runs in order from the head, or, when
the slot at the head is not ready, scans the rest of the window for frames
that have timed out.  In both cases it ends in the state that a number of
releases at the head would produce, except that the scan never looks at the
slot it started from: whatever that slot held, it still holds.
-/

namespace IwlwifiStack

variable {α : Type*}

/-! ## The in-order run -/

theorem releaseReadyFrames_cases (fuel : ℕ) {rx : TidAmpduRx α}
    (hdvd : rx.bufSize ∣ 4096) (hfuel : fuel ≤ rx.bufSize) :
    ∃ n, n ≤ fuel ∧ releaseReadyFrames fuel rx = releaseHeads n rx ∧
      (∀ i < n, ieee80211RxReorderReady rx (rx.slotAt i) = true) ∧
      (n < fuel →
        ieee80211RxReorderReady rx (rx.slotAt n) = false) := by
  induction fuel generalizing rx with
  | zero => exact ⟨0, le_rfl, rfl, by simp, by simp⟩
  | succ fuel ih =>
      by_cases hready : ieee80211RxReorderReady rx rx.headSlot = true
      · have hone := releaseHeads_slotAt hdvd 1
        have hfirst : (releaseHeads 1 rx).1 =
            (ieee80211ReleaseReorderFrame rx rx.headSlot).1 := rfl
        rw [hfirst] at hone
        obtain ⟨n, hn, heq, hrun, hstop⟩ := @ih
          (ieee80211ReleaseReorderFrame rx rx.headSlot).1
          (by simpa using hdvd) (by rw [releaseReorderFrame_bufSize]; omega)
        have hlater : ∀ i ≤ n, n < fuel ∨ i < n →
            ieee80211RxReorderReady
              (ieee80211ReleaseReorderFrame rx rx.headSlot).1
              (rx.slotAt (1 + i)) =
            ieee80211RxReorderReady rx (rx.slotAt (1 + i)) := by
          intro i hi hlt
          apply releaseReorderFrame_ready_of_ne
          rw [headSlot_eq_slotAt]
          exact slotAt_ne (by omega) (by omega) (by omega)
        refine ⟨n + 1, by omega, ?_, ?_, ?_⟩
        · simp only [TidAmpduRx.headSlot] at hready heq
          simp [releaseReadyFrames, releaseHeads, TidAmpduRx.headSlot, hready,
            heq]
        · intro i hi
          rcases Nat.eq_zero_or_pos i with rfl | hpos
          · exact hready
          · obtain ⟨i, rfl⟩ : ∃ j, i = 1 + j := ⟨i - 1, by omega⟩
            rw [← hlater i (by omega) (Or.inr (by omega)), ← hone i]
            exact hrun i (by omega)
        · intro hlt
          rw [Nat.add_comm n 1, ← hlater n le_rfl (Or.inl (by omega)),
            ← hone n]
          exact hstop (by omega)
      · refine ⟨0, by omega, ?_, by simp,
          fun _ => Bool.eq_false_of_not_eq_true hready⟩
        simp only [TidAmpduRx.headSlot] at hready
        simp [releaseReadyFrames, hready]

/-! ## The timeout scan -/

/-- The slot belongs to one of the positions from `i` up to, not including,
`k` places ahead of the head. -/
def TidAmpduRx.Between (rx : TidAmpduRx α) (i k slot : ℕ) : Prop :=
  ∃ m < k, i ≤ m ∧ slot = rx.slotAt m

instance (rx : TidAmpduRx α) (i k slot : ℕ) :
    Decidable (rx.Between i k slot) := by
  unfold TidAmpduRx.Between
  infer_instance

section Between

variable {rx : TidAmpduRx α}

theorem not_between_of_le {i k slot : ℕ} (hle : k ≤ i) :
    ¬ rx.Between i k slot := by
  rintro ⟨m, hmk, him, _⟩
  omega

theorem between_succ_right {i k slot : ℕ} (hik : i ≤ k) :
    rx.Between i (k + 1) slot ↔ rx.Between i k slot ∨ slot = rx.slotAt k := by
  unfold TidAmpduRx.Between
  rw [Nat.exists_lt_succ_right]
  simp [hik]

theorem between_succ_left {i k slot : ℕ} (hik : i < k) :
    rx.Between i k slot ↔ slot = rx.slotAt i ∨ rx.Between (i + 1) k slot := by
  constructor
  · rintro ⟨m, hmk, him, heq⟩
    rcases Nat.eq_or_lt_of_le him with rfl | hlt
    · exact Or.inl heq
    · exact Or.inr ⟨m, hmk, hlt, heq⟩
  · rintro (heq | ⟨m, hmk, him, heq⟩)
    · exact ⟨i, hik, le_rfl, heq⟩
    · exact ⟨m, hmk, by omega, heq⟩

theorem between_slotAt_iff {i k m : ℕ} (hk : k ≤ rx.bufSize)
    (hm : m < rx.bufSize) :
    rx.Between i k (rx.slotAt m) ↔ i ≤ m ∧ m < k := by
  constructor
  · rintro ⟨m', hmk, him, heq⟩
    have hmm : m = m' := SlotRing.offset_unique hm (by omega) heq
    omega
  · rintro ⟨him, hmk⟩
    exact ⟨m, hmk, him, rfl⟩

theorem passes_iff_between (n slot : ℕ) :
    rx.Passes n slot ↔ rx.Between 0 n slot := by
  simp [TidAmpduRx.Passes, TidAmpduRx.Between]

end Between

theorem purgeSlots_apply {rx : TidAmpduRx α} {k : ℕ} (fuel : ℕ) {i : ℕ}
    (buf : ℕ → List (RxSkb α)) (hk : k < rx.bufSize) (hi : i ≤ k)
    (hfuel : k - i ≤ fuel) (slot : ℕ) :
    purgeSlots rx.bufSize (rx.slotAt k) fuel (rx.slotAt i) buf slot =
      if rx.Between i k slot then [] else buf slot := by
  induction fuel generalizing i buf with
  | zero =>
      rw [if_neg (not_between_of_le (by omega)), purgeSlots]
  | succ fuel ih =>
      rcases Nat.eq_or_lt_of_le hi with rfl | hlt
      · rw [if_neg (not_between_of_le le_rfl), purgeSlots, if_pos rfl]
      · have hne : rx.slotAt i ≠ rx.slotAt k :=
          slotAt_ne (by omega) hk (by omega)
        have hnext : (rx.slotAt i + 1) % rx.bufSize = rx.slotAt (i + 1) := by
          simp [TidAmpduRx.slotAt, Nat.add_assoc]
        rw [purgeSlots, if_neg hne, hnext, ih _ (by omega) (by omega)]
        by_cases hslot : slot = rx.slotAt i <;>
          simp [between_succ_left hlt, hslot]

def keepSlot (rx old : TidAmpduRx α) : TidAmpduRx α :=
  { rx with
    reorderBuf :=
      Function.update rx.reorderBuf old.headSlot
        (old.reorderBuf old.headSlot) }

@[simp] theorem keepSlot_self (rx : TidAmpduRx α) : keepSlot rx rx = rx := by
  simp [keepSlot]

section Scan

variable {rx : TidAmpduRx α}

theorem keepSlot_ready_of_ne (old : TidAmpduRx α) {slot : ℕ}
    (hne : slot ≠ old.headSlot) :
    ieee80211RxReorderReady (keepSlot rx old) slot =
      ieee80211RxReorderReady rx slot := by
  simp [ready_eq, keepSlot, hne]

theorem keepSlot_releaseHeads_sameFrame (n : ℕ) :
    (keepSlot (releaseHeads n rx).1 rx).SameFrame rx :=
  TidAmpduRx.SameFrame.trans (b := (releaseHeads n rx).1) rfl
    (releaseHeads_sameFrame n rx)

theorem keepSlot_of_empty (hdvd : rx.bufSize ∣ 4096) (n : ℕ)
    (hempty : rx.reorderBuf rx.headSlot = []) :
    keepSlot (releaseHeads n rx).1 rx = (releaseHeads n rx).1 := by
  have hreleased : (releaseHeads n rx).1.reorderBuf rx.headSlot = [] := by
    rw [releaseHeads_reorderBuf hdvd, hempty, ite_self]
  rw [keepSlot, hempty, ← hreleased, Function.update_eq_self]

theorem keepSlot_releaseHeads_reorderBuf (hdvd : rx.bufSize ∣ 4096) {n : ℕ}
    (hpos : 0 < rx.bufSize) (hn : n ≤ rx.bufSize) (slot : ℕ) :
    (keepSlot (releaseHeads n rx).1 rx).reorderBuf slot =
      if rx.Between 1 n slot then [] else rx.reorderBuf slot := by
  simp only [keepSlot, Function.update_apply, releaseHeads_reorderBuf hdvd,
    passes_iff_between]
  by_cases hhead : slot = rx.headSlot
  · have hnot : ¬ rx.Between 1 n rx.headSlot := by
      rw [headSlot_eq_slotAt, between_slotAt_iff hn hpos]
      omega
    rw [hhead, if_pos rfl, if_neg hnot]
  · rw [if_neg hhead]
    rcases Nat.eq_zero_or_pos n with rfl | hn0
    · simp [not_between_of_le]
    · rw [headSlot_eq_slotAt] at hhead
      simp [between_succ_left hn0, hhead]

theorem purgeSkipped_reorderBuf (hdvd : rx.bufSize ∣ 4096) {n k : ℕ}
    (hk : k < rx.bufSize) (hpos : 1 ≤ k) (hn : n ≤ k) (slot : ℕ) :
    (purgeSkipped rx.headSlot (rx.slotAt k)
        (keepSlot (releaseHeads n rx).1 rx)).reorderBuf slot =
      if rx.Between 1 k slot then [] else rx.reorderBuf slot := by
  have hsize : (keepSlot (releaseHeads n rx).1 rx).bufSize = rx.bufSize :=
    (keepSlot_releaseHeads_sameFrame n).bufSize_eq
  have hfirst : (rx.headSlot + 1) % rx.bufSize = rx.slotAt 1 := by
    simp [TidAmpduRx.headSlot, TidAmpduRx.slotAt]
  simp only [purgeSkipped]
  rw [hsize, hfirst, purgeSlots_apply _ _ hk hpos (by omega),
    keepSlot_releaseHeads_reorderBuf hdvd (by omega) (by omega)]
  by_cases hbetween : rx.Between 1 k slot
  · rw [if_pos hbetween, if_pos hbetween]
  · have hnot : ¬ rx.Between 1 n slot := by
      rintro ⟨m, hm, him, heq⟩
      exact hbetween ⟨m, by omega, him, heq⟩
    rw [if_neg hbetween, if_neg hbetween, if_neg hnot]

theorem releaseHeads_filtered_of_not_ready (hdvd : rx.bufSize ∣ 4096)
    {n k : ℕ} (hnk : n ≤ k)
    (hready : ∀ i, n ≤ i → i < k →
      ieee80211RxReorderReady rx (rx.slotAt i) = false) :
    (releaseHeads k rx).1.reorderBufFiltered =
      (releaseHeads n rx).1.reorderBufFiltered := by
  apply BitVec.eq_of_getLsbD_eq
  intro slot _
  rw [releaseHeads_filtered hdvd, releaseHeads_filtered hdvd]
  by_cases hslot : ∃ i, n ≤ i ∧ i < k ∧ slot = rx.slotAt i
  · obtain ⟨i, hni, hik, rfl⟩ := hslot
    have hnot := hready i hni hik
    rw [ready_eq, Bool.or_eq_false_iff] at hnot
    rw [hnot.1, Bool.false_and, Bool.false_and]
  · congr 2
    apply propext
    rw [not_iff_not]
    constructor
    · rintro ⟨i, hik, heq⟩
      refine ⟨i, ?_, heq⟩
      by_contra hge
      exact hslot ⟨i, by omega, hik, heq⟩
    · rintro ⟨i, hin, heq⟩
      exact ⟨i, by omega, heq⟩

theorem releaseHeads_of_gap (hdvd : rx.bufSize ∣ 4096) {n k : ℕ}
    (hnk : n ≤ k) (hk : k ≤ rx.bufSize)
    (hready : ∀ i, n ≤ i → i < k →
      ieee80211RxReorderReady rx (rx.slotAt i) = false) :
    (releaseHeads k rx).2 = (releaseHeads n rx).2 ∧
      (releaseHeads k rx).1.storedMpduNum =
        (releaseHeads n rx).1.storedMpduNum := by
  obtain ⟨m, rfl⟩ := Nat.exists_eq_add_of_le hnk
  have hbase : (releaseHeads n rx).1.bufSize ∣ 4096 := by simpa using hdvd
  obtain ⟨hframes, hstored⟩ := releaseHeads_of_not_ready hbase (n := m)
    (by rw [releaseHeads_bufSize]; omega) (by
      intro i hi
      rw [releaseHeads_slotAt hdvd, releaseHeads_ready hdvd,
        hready (n + i) (by omega) (by omega), Bool.false_and])
  rw [releaseHeads_add]
  exact ⟨by rw [hframes, List.append_nil], hstored⟩

/-- Skipping the slots from `n` up to `k` places ahead, none of them ready,
and releasing the slot at `k` the way the scan does it leaves the state and
the frames of `k + 1` releases at the head. -/
theorem scan_release (hdvd : rx.bufSize ∣ 4096) {n k : ℕ}
    (hk : k < rx.bufSize) (hpos : 1 ≤ k) (hnk : n ≤ k)
    (hready : ∀ i, n ≤ i → i < k →
      ieee80211RxReorderReady rx (rx.slotAt i) = false) :
    (timeoutRelease rx.headSlot (rx.slotAt k) (k - n)
        (keepSlot (releaseHeads n rx).1 rx)).1 =
      keepSlot (releaseHeads (k + 1) rx).1 rx ∧
    (releaseHeads n rx).2 ++
        (timeoutRelease rx.headSlot (rx.slotAt k) (k - n)
          (keepSlot (releaseHeads n rx).1 rx)).2 =
      (releaseHeads (k + 1) rx).2 := by
  simp only [timeoutRelease]
  set before := keepSlot (releaseHeads n rx).1 rx with hbefore
  set purged := purgeSkipped rx.headSlot (rx.slotAt k) before with hpurged
  obtain ⟨hframes, hstored⟩ := releaseHeads_of_gap hdvd hnk hk.le hready
  have hfiltered := releaseHeads_filtered_of_not_ready hdvd hnk hready
  have hlast : (releaseHeads k rx).1.headSlot = rx.slotAt k := by
    rw [headSlot_eq_slotAt, releaseHeads_slotAt hdvd, Nat.add_zero]
  have hqueue : purged.reorderBuf (rx.slotAt k) =
      (releaseHeads k rx).1.reorderBuf (rx.slotAt k) := by
    have hnotBetween : ¬ rx.Between 1 k (rx.slotAt k) := by
      rw [between_slotAt_iff hk.le hk]
      omega
    have hnotPassed : ¬ rx.Passes k (rx.slotAt k) := by
      rw [passes_slotAt_iff hk.le hk]
      omega
    rw [hpurged, purgeSkipped_reorderBuf hdvd hk hpos hnk, if_neg hnotBetween,
      releaseHeads_reorderBuf hdvd, if_neg hnotPassed]
  have hbits : purged.reorderBufFiltered =
      (releaseHeads k rx).1.reorderBufFiltered := by
    rw [hfiltered]
    rfl
  have hready' : ieee80211RxReorderReady purged (rx.slotAt k) =
      ieee80211RxReorderReady (releaseHeads k rx).1 (rx.slotAt k) := by
    rw [ready_eq, ready_eq, hqueue, hbits]
  have hframe : purged.SameFrame rx :=
    TidAmpduRx.SameFrame.trans (b := before) rfl
      (keepSlot_releaseHeads_sameFrame n)
  constructor
  · apply TidAmpduRx.SameFrame.eq_of_fields (c := rx)
    · exact TidAmpduRx.SameFrame.trans
        (b := (ieee80211ReleaseReorderFrame purged (rx.slotAt k)).1) rfl
        ((releaseReorderFrame_sameFrame purged _).trans hframe)
    · exact keepSlot_releaseHeads_sameFrame (k + 1)
    · apply BitVec.eq_of_getLsbD_eq
      intro slot _
      simp only [keepSlot]
      rw [releaseReorderFrame_filtered, releaseHeads_succ,
        releaseReorderFrame_filtered, hlast, hbits]
    · funext slot
      rw [keepSlot_releaseHeads_reorderBuf hdvd (by omega) hk]
      simp only [releaseReorderFrame_reorderBuf, Function.update_apply]
      rw [hpurged, purgeSkipped_reorderBuf hdvd hk hpos hnk]
      by_cases hslot : slot = rx.slotAt k <;>
        simp [between_succ_right hpos, hslot]
    · have hhead := releaseHeads_headSeqNum_mod n rx
      have hhead' := releaseHeads_headSeqNum_mod (k + 1) rx
      have hlt := releaseHeads_headSeqNum_lt (k + 1) rx (by omega)
      have hold : purged.headSeqNum = (releaseHeads n rx).1.headSeqNum := rfl
      simp only [releaseReorderFrame_headSeqNum, keepSlot, hold,
        ieee80211SnInc, ieee80211SnAdd]
      omega
    · have hold : purged.storedMpduNum =
          (releaseHeads n rx).1.storedMpduNum := rfl
      simp only [keepSlot]
      rw [releaseReorderFrame_storedMpduNum, releaseHeads_succ,
        releaseReorderFrame_storedMpduNum, hlast, hready', hqueue, hstored,
        hold]
  · rw [releaseHeads_succ, hframes, hlast, releaseReorderFrame_frames,
      releaseReorderFrame_frames, hready', hqueue]

def timedOut (hz jiffies : ℕ) (rx : TidAmpduRx α) (slot : ℕ) : Bool :=
  timeAfter jiffies (rx.reorderTime slot + htRxReorderBufTimeout hz)

/-- The scan gives up on the slot at the head: the first ready slot behind it
has timed out. -/
def timeoutSkipsHead (hz jiffies : ℕ) (rx : TidAmpduRx α) : Prop :=
  ieee80211RxReorderReady rx rx.headSlot = false ∧
    rx.storedMpduNum ≠ 0 ∧
    ∃ k < rx.bufSize,
      (∀ i < k, ieee80211RxReorderReady rx (rx.slotAt i) = false) ∧
        ieee80211RxReorderReady rx (rx.slotAt k) = true ∧
        timedOut hz jiffies rx (rx.slotAt k) = true

instance (hz jiffies : ℕ) (rx : TidAmpduRx α) :
    Decidable (timeoutSkipsHead hz jiffies rx) := by
  unfold timeoutSkipsHead
  infer_instance

/-- The last of `n` released slots was ready, and every ready slot among them
was the head, or the slot before it was ready as well, or it had timed out. -/
def ReleasesJustified (hz jiffies : ℕ) (rx : TidAmpduRx α) (n : ℕ) : Prop :=
  (n ≠ 0 → ieee80211RxReorderReady rx (rx.slotAt (n - 1)) = true) ∧
    ∀ i < n, ieee80211RxReorderReady rx (rx.slotAt i) = true →
      i = 0 ∨ ieee80211RxReorderReady rx (rx.slotAt (i - 1)) = true ∨
        timedOut hz jiffies rx (rx.slotAt i) = true

theorem releasesJustified_zero (hz jiffies : ℕ) (rx : TidAmpduRx α) :
    ReleasesJustified hz jiffies rx 0 :=
  ⟨fun hne => absurd rfl hne, fun i hi => absurd hi (Nat.not_lt_zero i)⟩

/-- The scan, entered at the slot `k` places ahead after releases that have
passed `n` positions. -/
theorem timeoutScan_cases (hz jiffies : ℕ) (hdvd : rx.bufSize ∣ 4096)
    (fuel : ℕ) {n k : ℕ} (hfuel : rx.bufSize ≤ k + fuel)
    (hk : k ≤ rx.bufSize) (hpos : 1 ≤ k) (hnk : n ≤ k)
    (hready : ∀ i, n ≤ i → i < k →
      ieee80211RxReorderReady rx (rx.slotAt i) = false)
    (hbefore : n = k → ieee80211RxReorderReady rx (rx.slotAt (k - 1)) = true)
    (hlast : ReleasesJustified hz jiffies rx n)
    (hstored : rx.storedMpduNum ≠ 0)
    (hskips : n ≠ 0 → timeoutSkipsHead hz jiffies rx) :
    let result := timeoutScan hz jiffies rx.headSlot fuel (rx.slotAt k) (k - n)
      (keepSlot (releaseHeads n rx).1 rx)
    ∃ n', n' ≤ rx.bufSize ∧
      result.1 = keepSlot (releaseHeads n' rx).1 rx ∧
      (releaseHeads n rx).2 ++ result.2.1 = (releaseHeads n' rx).2 ∧
      ReleasesJustified hz jiffies rx n' ∧
      (n' ≠ 0 → timeoutSkipsHead hz jiffies rx) := by
  induction fuel generalizing n k with
  | zero =>
      exact ⟨n, by omega, rfl, by simp [timeoutScan], hlast, hskips⟩
  | succ fuel ih =>
      rcases Nat.eq_or_lt_of_le hk with hturn | hk
      · have hback : rx.slotAt k = rx.headSlot := by
          simp [TidAmpduRx.slotAt, TidAmpduRx.headSlot, hturn]
        rw [timeoutScan, if_pos hback]
        exact ⟨n, by omega, rfl, by simp, hlast, hskips⟩
      have hhead : rx.slotAt k ≠ rx.headSlot := by
        rw [headSlot_eq_slotAt]
        exact slotAt_ne hk (by omega) (by omega)
      have hsize : (keepSlot (releaseHeads n rx).1 rx).bufSize = rx.bufSize :=
        (keepSlot_releaseHeads_sameFrame n).bufSize_eq
      have htime : (keepSlot (releaseHeads n rx).1 rx).reorderTime =
          rx.reorderTime :=
        (keepSlot_releaseHeads_sameFrame n).reorderTime_eq
      have hnext : (rx.slotAt k + 1) % rx.bufSize = rx.slotAt (k + 1) := by
        simp [TidAmpduRx.slotAt, Nat.add_assoc]
      have hsame : ieee80211RxReorderReady
          (keepSlot (releaseHeads n rx).1 rx) (rx.slotAt k) =
          ieee80211RxReorderReady rx (rx.slotAt k) := by
        have hnotPassed : ¬ rx.Passes n (rx.slotAt k) := by
          rw [passes_slotAt_iff (by omega) hk]
          omega
        rw [keepSlot_ready_of_ne rx hhead, releaseHeads_ready hdvd]
        simp [hnotPassed]
      rw [timeoutScan, if_neg hhead, hsame, hsize, htime, hnext]
      by_cases hslot : ieee80211RxReorderReady rx (rx.slotAt k) = true
      · rw [hslot, if_neg (by simp)]
        by_cases hwait : (decide (k - n ≠ 0) &&
            !timeAfter jiffies (rx.reorderTime (rx.slotAt k) +
              htRxReorderBufTimeout hz)) = true
        · rw [if_pos hwait]
          exact ⟨n, by omega, rfl, by simp, hlast, hskips⟩
        · rw [if_neg hwait]
          have hexpired : k - n = 0 ∨
              timedOut hz jiffies rx (rx.slotAt k) = true := by
            simpa [timedOut, Decidable.or_iff_not_imp_left] using hwait
          obtain ⟨hstate, hframes⟩ := scan_release hdvd hk hpos hnk hready
          have hskips' : timeoutSkipsHead hz jiffies rx := by
            by_cases hn0 : n = 0
            · subst n
              refine ⟨hready 0 le_rfl (by omega), hstored, k, hk,
                fun i hi => hready i (Nat.zero_le i) hi, hslot, ?_⟩
              exact hexpired.resolve_left (by omega)
            · exact hskips hn0
          have hlast' : ReleasesJustified hz jiffies rx (k + 1) := by
            refine ⟨fun _ => hslot, fun i hi hread => ?_⟩
            by_cases hin : i < n
            · exact hlast.2 i hin hread
            · by_cases hik : i < k
              · rw [hready i (by omega) hik] at hread
                cases hread
              · obtain rfl : i = k := by omega
                rcases hexpired with hzero | hout
                · exact Or.inr (Or.inl (hbefore (by omega)))
                · exact Or.inr (Or.inr hout)
          have hrest := ih (n := k + 1) (k := k + 1) (by omega) (by omega)
            (by omega) le_rfl (by intro i hi hik; omega) (fun _ => hslot) hlast'
            (fun _ => hskips')
          rw [Nat.sub_self] at hrest
          obtain ⟨n', hn', hstate', hframes', hjust, hskip'⟩ := hrest
          refine ⟨n', hn', ?_, ?_, hjust, hskip'⟩
          · simp only [hstate]
            exact hstate'
          · simp only [hstate]
            rw [← List.append_assoc, hframes]
            exact hframes'
      · simp only [Bool.not_eq_true] at hslot
        rw [hslot, if_pos (by simp), show k - n + 1 = k + 1 - n by omega]
        apply ih (by omega) (by omega) (by omega) (by omega)
        · intro i hni hik
          rcases Nat.lt_or_eq_of_le (Nat.lt_succ_iff.mp hik) with hlt | rfl
          · exact hready i hni hlt
          · exact hslot
        · intro heq
          omega
        · exact hlast
        · exact hskips

end Scan

/-! ## The whole release function -/

theorem setReleaseTimer_eq (hz : ℕ) (rx : TidAmpduRx α) (j : ℕ) :
    ∃ timer, setReleaseTimer hz rx j = { rx with reorderTimer := timer } := by
  unfold setReleaseTimer
  split_ifs
  · exact ⟨rx.reorderTimer, rfl⟩
  · exact ⟨_, rfl⟩

theorem rearmReorderTimer_eq {hz : ℕ} {rx after : TidAmpduRx α}
    (hrearm : rearmReorderTimer hz rx = some after) :
    ∃ timer, after = { rx with reorderTimer := timer } := by
  unfold rearmReorderTimer at hrearm
  split_ifs at hrearm with hstored
  · obtain ⟨j, _, rfl⟩ := Option.map_eq_some_iff.mp hrearm
    exact setReleaseTimer_eq hz rx j
  · exact ⟨none, (Option.some.inj hrearm).symm⟩

/-- The buffer after `n` releases at the head, seen by the release function:
either the run was in order, or the head was skipped and its slot kept. -/
def ReleasedState (hz jiffies : ℕ) (rx : TidAmpduRx α) (n : ℕ)
    (after : TidAmpduRx α) : Prop :=
  ((∀ i < n, ieee80211RxReorderReady rx (rx.slotAt i) = true) ∧
      after = (releaseHeads n rx).1) ∨
    ((n ≠ 0 → timeoutSkipsHead hz jiffies rx) ∧
      after = keepSlot (releaseHeads n rx).1 rx)

theorem releaseScan_cases (hz jiffies : ℕ) {rx : TidAmpduRx α}
    (hdvd : rx.bufSize ∣ 4096) (hpos : 0 < rx.bufSize) :
    ∃ n, n ≤ rx.bufSize ∧
      ReleasedState hz jiffies rx n (releaseScan hz jiffies rx).1 ∧
      (releaseScan hz jiffies rx).2.1 = (releaseHeads n rx).2 ∧
      ReleasesJustified hz jiffies rx n := by
  simp only [releaseScan]
  split_ifs with hscan
  · rw [Bool.and_eq_true, Bool.not_eq_true', decide_eq_true_eq] at hscan
    have hfirst : (rx.headSeqNum % rx.bufSize + 1) % rx.bufSize =
        rx.slotAt 1 := by
      simp [TidAmpduRx.slotAt]
    have hrun := timeoutScan_cases hz jiffies hdvd rx.bufSize (n := 0) (k := 1)
      (by omega) hpos le_rfl (Nat.zero_le 1)
      (by
        intro i _ hi
        rw [Nat.lt_one_iff.mp hi]
        exact hscan.1)
      (by omega) (releasesJustified_zero hz jiffies rx) hscan.2 (fun hne => absurd rfl hne)
    obtain ⟨n, hn, hstate, hframes, hlast, hskips⟩ := hrun
    rw [releaseHeads_zero, keepSlot_self, Nat.sub_zero] at hstate hframes
    rw [hfirst]
    exact ⟨n, hn, Or.inr ⟨hskips, hstate⟩, hframes, hlast⟩
  · obtain ⟨n, hn, heq, hready, _⟩ :=
      releaseReadyFrames_cases rx.bufSize hdvd le_rfl
    refine ⟨n, hn, Or.inl ⟨hready, congrArg Prod.fst heq⟩,
      congrArg Prod.snd heq, ?_⟩
    refine ⟨fun hne => hready (n - 1) (by omega), fun i hi _ => ?_⟩
    by_cases hzero : i = 0
    · exact Or.inl hzero
    · exact Or.inr (Or.inl (hready (i - 1) (by omega)))

theorem staReorderRelease_cases {hz jiffies : ℕ} {rx after : TidAmpduRx α}
    {frames : List (RxSkb α)} (hdvd : rx.bufSize ∣ 4096)
    (hpos : 0 < rx.bufSize)
    (hrelease : ieee80211StaReorderRelease hz jiffies rx =
      some (after, frames)) :
    ∃ n released timer, n ≤ rx.bufSize ∧
      ReleasedState hz jiffies rx n released ∧
      after = { released with reorderTimer := timer } ∧
      frames = (releaseHeads n rx).2 ∧
      ReleasesJustified hz jiffies rx n := by
  obtain ⟨n, hn, hstate, hframes, hlast⟩ :=
    releaseScan_cases hz jiffies hdvd hpos
  obtain ⟨timer, hafter, rfl⟩ : ∃ timer,
      after = { (releaseScan hz jiffies rx).1 with reorderTimer := timer } ∧
        frames = (releaseScan hz jiffies rx).2.1 := by
    unfold ieee80211StaReorderRelease at hrelease
    generalize releaseScan hz jiffies rx = scan at hrelease
    obtain ⟨released, out, _ | j⟩ := scan
    · obtain ⟨_, hrearm, heq⟩ := Option.map_eq_some_iff.mp hrelease
      obtain ⟨timer, rfl⟩ := rearmReorderTimer_eq hrearm
      cases heq
      exact ⟨timer, rfl, rfl⟩
    · obtain ⟨timer, htimer⟩ := setReleaseTimer_eq hz released j
      cases hrelease
      exact ⟨timer, htimer, rfl⟩
  exact ⟨n, _, timer, hn, hstate, hafter, hframes, hlast⟩

theorem staReorderRelease_frame {hz jiffies : ℕ} {rx after : TidAmpduRx α}
    {frames : List (RxSkb α)} (hdvd : rx.bufSize ∣ 4096)
    (hpos : 0 < rx.bufSize)
    (hrelease : ieee80211StaReorderRelease hz jiffies rx =
      some (after, frames)) :
    after.bufSize = rx.bufSize ∧ after.autoSeq = rx.autoSeq := by
  obtain ⟨n, released, timer, _, hstate, rfl, _, _⟩ :=
    staReorderRelease_cases hdvd hpos hrelease
  rcases hstate with ⟨_, rfl⟩ | ⟨_, rfl⟩
  · simp
  · simp [keepSlot]

end IwlwifiStack
