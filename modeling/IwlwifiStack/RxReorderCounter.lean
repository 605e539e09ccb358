import IwlwifiStack.RxReorderStep
import IwlwifiStack.BlockAckSession

/-!
# The counter of stored MPDUs

`stored_mpdu_num` is incremented when a frame completes its MPDU and
decremented for every non-empty slot that is released as ready.  The two agree
as long as no slot is released that is marked as filtered while its queue
still waits for the last subframe of an A-MSDU: such a slot counts as ready
although nothing was counted for it.
-/

namespace IwlwifiStack

open ConditionedRun

variable {α : Type*}

/-- The number of slots whose queue ends with a frame that completes its
MPDU. -/
def TidAmpduRx.completeSlots (rx : TidAmpduRx α) : ℕ :=
  ((Finset.range rx.bufSize).filter fun slot =>
    tailComplete (rx.reorderBuf slot) = true).card

def FilteredUnfinished (rx : TidAmpduRx α) (slot : ℕ) : Prop :=
  rx.reorderBufFiltered.getLsbD slot = true ∧ rx.reorderBuf slot ≠ [] ∧
    tailComplete (rx.reorderBuf slot) = false

theorem not_filteredUnfinished_of_unmarked {rx : TidAmpduRx α} {slot : ℕ}
    (hfiltered : rx.reorderBufFiltered = 0) : ¬ FilteredUnfinished rx slot := by
  rintro ⟨hbit, _⟩
  simp [hfiltered] at hbit

def completeWeight (queue : List (RxSkb α)) : ℕ :=
  if tailComplete queue then 1 else 0

theorem completeSlots_eq_total (rx : TidAmpduRx α) :
    rx.completeSlots =
      SlotRing.total rx.bufSize completeWeight rx.reorderBuf :=
  Finset.card_filter _ _

theorem completeSlots_update {rx after : TidAmpduRx α} {slot : ℕ}
    {queue : List (RxSkb α)} (hsize : after.bufSize = rx.bufSize)
    (hbuf : after.reorderBuf = Function.update rx.reorderBuf slot queue)
    (hslot : slot < rx.bufSize) :
    after.completeSlots + completeWeight (rx.reorderBuf slot) =
      rx.completeSlots + completeWeight queue := by
  rw [completeSlots_eq_total, completeSlots_eq_total, hsize, hbuf]
  exact SlotRing.total_update completeWeight rx.reorderBuf queue hslot

theorem completeSlots_le (rx : TidAmpduRx α) :
    rx.completeSlots ≤ rx.bufSize := by
  unfold TidAmpduRx.completeSlots
  calc
    _ ≤ (Finset.range rx.bufSize).card := Finset.card_filter_le _ _
    _ = rx.bufSize := Finset.card_range _

/-- The counter is exact, in a session of admissible size. -/
structure CounterExact (rx : TidAmpduRx α) : Prop where
  dvd : rx.bufSize ∣ 4096
  bufSize_le : rx.bufSize ≤ 1024
  count_eq : rx.storedMpduNum = rx.completeSlots

namespace CounterExact

variable {rx : TidAmpduRx α}

theorem bufSize_pos (hexact : CounterExact rx) : 0 < rx.bufSize :=
  Nat.pos_of_dvd_of_pos hexact.dvd (by norm_num)

theorem congr {after : TidAmpduRx α} (hexact : CounterExact rx)
    (hsize : after.bufSize = rx.bufSize)
    (hbuf : after.reorderBuf = rx.reorderBuf)
    (hstored : after.storedMpduNum = rx.storedMpduNum) :
    CounterExact after := by
  refine ⟨by rw [hsize]; exact hexact.dvd,
    by rw [hsize]; exact hexact.bufSize_le, ?_⟩
  rw [hstored, hexact.count_eq]
  simp only [TidAmpduRx.completeSlots, hsize, hbuf]

theorem update {after : TidAmpduRx α} {slot : ℕ} {queue : List (RxSkb α)}
    (hexact : CounterExact rx) (hsize : after.bufSize = rx.bufSize)
    (hbuf : after.reorderBuf = Function.update rx.reorderBuf slot queue)
    (hslot : slot < rx.bufSize)
    (hstored : after.storedMpduNum + completeWeight (rx.reorderBuf slot) =
      rx.storedMpduNum + completeWeight queue) :
    CounterExact after := by
  refine ⟨by rw [hsize]; exact hexact.dvd,
    by rw [hsize]; exact hexact.bufSize_le, ?_⟩
  have hcount := completeSlots_update hsize hbuf hslot
  have hold := hexact.count_eq
  omega

theorem afterReleaseReorderFrame {slot : ℕ} (hexact : CounterExact rx)
    (hslot : slot < rx.bufSize) (hsafe : ¬ FilteredUnfinished rx slot) :
    CounterExact (ieee80211ReleaseReorderFrame rx slot).1 := by
  apply hexact.update (releaseReorderFrame_bufSize rx slot)
    (releaseReorderFrame_reorderBuf rx slot) hslot
  have hweight : completeWeight (rx.reorderBuf slot) ≤ rx.storedMpduNum := by
    rw [hexact.count_eq, completeSlots_eq_total]
    exact SlotRing.weight_le_total completeWeight rx.reorderBuf hslot
  have hbound := completeSlots_le rx
  have hsmall := hexact.bufSize_le
  have hcount := hexact.count_eq
  rw [releaseReorderFrame_storedMpduNum, ready_eq]
  by_cases hempty : rx.reorderBuf slot = []
  · simp [hempty, completeWeight]
  · by_cases htail : tailComplete (rx.reorderBuf slot) = true
    · simp only [completeWeight, htail, if_true] at hweight ⊢
      simp only [hempty, ne_eq, not_false_eq_true, Bool.or_true, and_self,
        if_true, tailComplete_nil, Bool.false_eq_true, if_false]
      omega
    · have hbit : rx.reorderBufFiltered.getLsbD slot = false := by
        by_contra hbit
        exact hsafe ⟨Bool.eq_true_of_not_eq_false hbit, hempty,
          Bool.eq_false_of_not_eq_true htail⟩
      simp [completeWeight, htail, hbit]

theorem afterReleaseHeads (hexact : CounterExact rx) (n : ℕ)
    (hsafe : ∀ i < n, ¬ FilteredUnfinished rx (rx.slotAt i)) :
    CounterExact (releaseHeads n rx).1 := by
  induction n with
  | zero => exact hexact
  | succ n ih =>
      have hprev := ih fun i hi => hsafe i (by omega)
      rw [releaseHeads_succ]
      apply hprev.afterReleaseReorderFrame
      · exact slotAt_lt hprev.bufSize_pos 0
      · rw [headSlot_eq_slotAt, releaseHeads_slotAt hexact.dvd, Nat.add_zero]
        rintro ⟨hbit, hqueue, htail⟩
        -- a slot the earlier releases passed is empty by now
        rw [releaseHeads_reorderBuf hexact.dvd] at hqueue htail
        rw [releaseHeads_filtered hexact.dvd, Bool.and_eq_true] at hbit
        split_ifs at hqueue htail with hpass
        · exact hqueue rfl
        · exact hsafe n (by omega) ⟨hbit.1, hqueue, htail⟩

theorem afterKeepSlot {old : TidAmpduRx α} (hexact : CounterExact rx)
    (hsize : old.bufSize = rx.bufSize)
    (hnow : tailComplete (rx.reorderBuf old.headSlot) = false)
    (hold : tailComplete (old.reorderBuf old.headSlot) = false) :
    CounterExact (keepSlot rx old) := by
  apply @CounterExact.update _ _ (keepSlot rx old) old.headSlot
    (old.reorderBuf old.headSlot) hexact rfl rfl
  · rw [← hsize]
    exact slotAt_lt (by rw [hsize]; exact hexact.bufSize_pos) 0
  · simp [completeWeight, hnow, hold, keepSlot]

end CounterExact

/-- The release function can get to the slot `k` places ahead: every slot up
to it is ready, or the head is skipped and every ready slot up to it has
timed out or follows a ready one. -/
def ReleaseReaches (hz jiffies : ℕ) (rx : TidAmpduRx α) (k : ℕ) : Prop :=
  (∀ i ≤ k, ieee80211RxReorderReady rx (rx.slotAt i) = true) ∨
    (timeoutSkipsHead hz jiffies rx ∧
      ∀ i ≤ k, ieee80211RxReorderReady rx (rx.slotAt i) = true →
        ieee80211RxReorderReady rx (rx.slotAt (i - 1)) = true ∨
          timedOut hz jiffies rx (rx.slotAt i) = true)

/-- The release function gets to no slot that is marked as filtered and holds
an unfinished A-MSDU. -/
def ReleaseSafe (hz jiffies : ℕ) (rx : TidAmpduRx α) : Prop :=
  ∀ k < rx.bufSize, ReleaseReaches hz jiffies rx k →
    ¬ FilteredUnfinished rx (rx.slotAt k)

theorem releaseSafe_of_unmarked {rx : TidAmpduRx α} (hz jiffies : ℕ)
    (hfiltered : rx.reorderBufFiltered = 0) : ReleaseSafe hz jiffies rx :=
  fun _ _ _ => not_filteredUnfinished_of_unmarked hfiltered

section Release

variable {hz jiffies : ℕ} {rx : TidAmpduRx α}

theorem releaseReaches_of_lt {n k : ℕ} {released : TidAmpduRx α}
    (hstate : ReleasedState hz jiffies rx n released)
    (hjust : ReleasesJustified hz jiffies rx n) (hk : k < n) :
    ReleaseReaches hz jiffies rx k := by
  rcases hstate with ⟨hready, _⟩ | ⟨hskips, _⟩
  · exact Or.inl fun i hi => hready i (by omega)
  · have hskip := hskips (by omega)
    refine Or.inr ⟨hskip, fun i hi hready => ?_⟩
    rcases hjust.2 i (by omega) hready with rfl | hcause
    · have hhead := hskip.1
      rw [headSlot_eq_slotAt, hready] at hhead
      cases hhead
    · exact hcause

theorem CounterExact.afterRelease {n : ℕ} {released : TidAmpduRx α}
    (hexact : CounterExact rx) (hsafe : ReleaseSafe hz jiffies rx)
    (hn : n ≤ rx.bufSize) (hstate : ReleasedState hz jiffies rx n released)
    (hjust : ReleasesJustified hz jiffies rx n) :
    CounterExact released := by
  have hheads : CounterExact (releaseHeads n rx).1 :=
    hexact.afterReleaseHeads n fun i hi =>
      hsafe i (by omega) (releaseReaches_of_lt hstate hjust hi)
  rcases hstate with ⟨_, rfl⟩ | ⟨hskips, rfl⟩
  · exact hheads
  · rcases Nat.eq_zero_or_pos n with rfl | hpos
    · simpa using hexact
    · have hhead := (hskips (by omega)).1
      rw [ready_eq, Bool.or_eq_false_iff] at hhead
      apply hheads.afterKeepSlot (releaseHeads_bufSize n rx).symm _ hhead.2
      rw [releaseHeads_reorderBuf hexact.dvd,
        if_pos ⟨0, hpos, headSlot_eq_slotAt rx⟩, tailComplete_nil]

theorem CounterExact.exists_ready (hexact : CounterExact rx)
    (hstored : rx.storedMpduNum ≠ 0) :
    ∃ slot, slot < rx.bufSize ∧ ieee80211RxReorderReady rx slot = true := by
  rw [hexact.count_eq, completeSlots_eq_total] at hstored
  obtain ⟨slot, hslot, hweight⟩ := SlotRing.exists_of_total_ne_zero hstored
  refine ⟨slot, hslot, ?_⟩
  have htail : tailComplete (rx.reorderBuf slot) = true := by
    by_contra hnot
    simp [completeWeight, hnot] at hweight
  rw [ready_eq, htail, Bool.or_true]

theorem nextTimerSlot_isSome {stop : ℤ} {i : ℕ} (fuel : ℕ) {j : ℕ}
    (hi : i < fuel) (hj : j < rx.bufSize)
    (hready : ieee80211RxReorderReady rx ((j + i) % rx.bufSize) = true) :
    (nextTimerSlot rx stop fuel j).isSome := by
  induction fuel generalizing i j with
  | zero => omega
  | succ fuel ih =>
      rw [nextTimerSlot]
      split_ifs with hstop hhere
      · rfl
      · rfl
      · rcases Nat.eq_zero_or_pos i with rfl | hpos
        · rw [Nat.add_zero, Nat.mod_eq_of_lt hj] at hready
          exact absurd hready hhere
        · apply ih (i := i - 1) (by omega) (Nat.mod_lt _ (by omega))
          rw [Nat.mod_add_mod, show j + 1 + (i - 1) = j + i by omega]
          exact hready

/-- The search of `ieee80211_sta_reorder_release` for the timer's slot. -/
def timerSearch (rx : TidAmpduRx α) : Option ℕ :=
  nextTimerSlot rx (((rx.headSlot : ℤ) - 1).tmod rx.bufSize) rx.bufSize
    rx.headSlot

theorem CounterExact.timerSearch_isSome (hexact : CounterExact rx)
    (hstored : rx.storedMpduNum ≠ 0) : (timerSearch rx).isSome := by
  obtain ⟨slot, hslot, hready⟩ := hexact.exists_ready hstored
  obtain ⟨i, hi, rfl⟩ := SlotRing.exists_offset rx.headSlot hslot
  exact nextTimerSlot_isSome rx.bufSize hi (slotAt_lt (by omega) 0) hready

theorem CounterExact.rearm_isSome (hexact : CounterExact rx) :
    (rearmReorderTimer hz rx).isSome := by
  simp only [rearmReorderTimer]
  split_ifs with hstored
  · rw [Option.isSome_map]
    exact hexact.timerSearch_isSome hstored
  · rfl

theorem CounterExact.staReorderRelease_isSome (hexact : CounterExact rx)
    (hsafe : ReleaseSafe hz jiffies rx) :
    (ieee80211StaReorderRelease hz jiffies rx).isSome := by
  obtain ⟨n, hn, hstate, _, hjust⟩ :=
    releaseScan_cases hz jiffies hexact.dvd hexact.bufSize_pos
  have hscan := hexact.afterRelease hsafe hn hstate hjust
  unfold ieee80211StaReorderRelease
  generalize releaseScan hz jiffies rx = scan at hscan
  obtain ⟨released, frames, _ | j⟩ := scan
  · simpa using hscan.rearm_isSome
  · rfl

theorem CounterExact.afterStaReorderRelease {after : TidAmpduRx α}
    {frames : List (RxSkb α)} (hexact : CounterExact rx)
    (hsafe : ReleaseSafe hz jiffies rx)
    (hrelease :
      ieee80211StaReorderRelease hz jiffies rx = some (after, frames)) :
    CounterExact after := by
  obtain ⟨n, released, timer, hn, hstate, rfl, _, hjust⟩ :=
    staReorderRelease_cases hexact.dvd hexact.bufSize_pos hrelease
  exact (hexact.afterRelease hsafe hn hstate hjust).congr rfl rfl rfl

end Release

/-! ## Frames and filter marks -/

section Events

variable {hz jiffies : ℕ} {rx : TidAmpduRx α}

theorem CounterExact.afterStartedBy (hexact : CounterExact rx)
    (skb : RxSkb α) : CounterExact (startedBy rx skb) :=
  hexact.congr (pickAutoSeq_bufSize rx _) (pickAutoSeq_reorderBuf rx _)
    (pickAutoSeq_storedMpduNum rx _)

theorem Buffers.tail_eq {skb : RxSkb α} (hbuffers : Buffers rx skb) :
    tailComplete (rx.reorderBuf (skb.slot rx)) = false := by
  have hready := hbuffers.1
  rw [ready_eq, Bool.or_eq_false_iff] at hready
  exact hready.2

theorem CounterExact.afterWaiting {skb : RxSkb α}
    (hexact : CounterExact rx) (hbuffers : Buffers rx skb)
    (hmore : skb.amsduMore = true) :
    CounterExact (storeFrame rx (skb.slot rx) skb) := by
  apply @CounterExact.update _ _ (storeFrame rx (skb.slot rx) skb) _ _ hexact
    rfl rfl (Nat.mod_lt _ hexact.bufSize_pos)
  simp [completeWeight, hbuffers.tail_eq, hmore, storeFrame]

theorem CounterExact.afterCompleted {skb : RxSkb α}
    (hexact : CounterExact rx) (hbuffers : Buffers rx skb)
    (hmore : skb.amsduMore = false) :
    CounterExact (completedBuffer jiffies rx skb) := by
  apply @CounterExact.update _ _ (completedBuffer jiffies rx skb) (skb.slot rx)
    _ hexact rfl rfl (Nat.mod_lt _ hexact.bufSize_pos)
  have hbound := completeSlots_le rx
  have hsmall := hexact.bufSize_le
  have hcount := hexact.count_eq
  have hstored : (completedBuffer jiffies rx skb).storedMpduNum =
      (rx.storedMpduNum + 1) % 65536 := rfl
  have hold : completeWeight (rx.reorderBuf (skb.slot rx)) = 0 := by
    simp [completeWeight, hbuffers.tail_eq]
  have hnew : completeWeight (rx.reorderBuf (skb.slot rx) ++ [skb]) = 1 := by
    simp [completeWeight, hmore]
  rw [hstored, hold, hnew]
  omega

/-- No release in the step takes out a slot that is marked as filtered and
holds an unfinished A-MSDU: neither the head moves at the start of the step,
nor the release function at its end. -/
def NoUnfinishedRelease (hz : ℕ) (rx : TidAmpduRx α) :
    ReorderEvent α → Prop
  | .mpdu skb jiffies =>
      ieee80211SnLess skb.sn (startedBy rx skb).headSeqNum = false →
        (∀ i < frameShift rx skb,
          ¬ FilteredUnfinished rx ((startedBy rx skb).slotAt i)) ∧
        (Buffers (movedFor rx skb) skb → skb.amsduMore = false →
          ReleaseSafe hz jiffies
            (completedBuffer jiffies (movedFor rx skb) skb))
  | .reorderTimer jiffies => ReleaseSafe hz jiffies rx
  | .markFiltered ssn filtered receivedMpdus jiffies =>
      (∀ i < markShift rx ssn receivedMpdus,
        ¬ FilteredUnfinished rx (rx.slotAt i)) ∧
      (ieee80211SnSub (markMoveHead rx ssn receivedMpdus).1.headSeqNum ssn <
          (markMoveHead rx ssn receivedMpdus).1.bufSize →
        ReleaseSafe hz jiffies
          (updateFiltered (markMoveHead rx ssn receivedMpdus).1 ssn filtered))

theorem filteredUnfinished_startedBy (skb : RxSkb α) (slot : ℕ) :
    FilteredUnfinished (startedBy rx skb) slot ↔
      FilteredUnfinished rx slot := by
  simp [FilteredUnfinished, startedBy]

theorem CounterExact.afterMove {skb : RxSkb α} (hexact : CounterExact rx)
    (hsafe : ∀ i < frameShift rx skb,
      ¬ FilteredUnfinished rx ((startedBy rx skb).slotAt i)) :
    CounterExact (movedFor rx skb) := by
  apply (hexact.afterStartedBy skb).afterReleaseHeads
  intro i hi
  rw [filteredUnfinished_startedBy]
  exact hsafe i hi

theorem CounterExact.afterMpdu {skb : RxSkb α} {after : TidAmpduRx α}
    {verdict : ReorderVerdict} {frames : List (RxSkb α)}
    (hexact : CounterExact rx)
    (hsafe : NoUnfinishedRelease hz rx (.mpdu skb jiffies))
    (hmanage : ieee80211StaManageReorderBuf hz jiffies rx skb =
      some (after, verdict, frames)) :
    CounterExact after := by
  have hcases := manageReorderBuf_managed hexact.bufSize_pos hexact.bufSize_le
    hmanage
  cases hcases with
  | early _ _ => exact hexact.afterStartedBy skb |>.congr rfl rfl rfl
  | late _ _ => exact hexact.afterStartedBy skb
  | inWindow hless hplaced =>
      obtain ⟨hmove, hrun⟩ := hsafe hless
      have hmoved := hexact.afterMove hmove
      cases hplaced with
      | duplicate _ => exact hmoved
      | direct _ _ _ => exact hmoved.congr rfl rfl rfl
      | waiting hbuffers hmore => exact hmoved.afterWaiting hbuffers hmore
      | completed hbuffers hmore hrelease =>
          exact (hmoved.afterCompleted hbuffers hmore).afterStaReorderRelease
            (hrun hbuffers hmore) hrelease

theorem CounterExact.afterMarkMoveHead (hexact : CounterExact rx)
    (ssn receivedMpdus : ℕ)
    (hsafe : ∀ i < markShift rx ssn receivedMpdus,
      ¬ FilteredUnfinished rx (rx.slotAt i)) :
    CounterExact (markMoveHead rx ssn receivedMpdus).1 := by
  obtain ⟨head, hmove⟩ :=
    markMoveHead_eq hexact.bufSize_le ssn receivedMpdus
  rw [hmove]
  exact (hexact.afterReleaseHeads _ hsafe).congr rfl rfl rfl

theorem CounterExact.afterStep {event : ReorderEvent α}
    {after : TidAmpduRx α} {frames : List (RxSkb α)}
    (hexact : CounterExact rx) (hsafe : NoUnfinishedRelease hz rx event)
    (hstep : reorderStep hz rx event = some (after, frames)) :
    CounterExact after := by
  cases event with
  | mpdu skb jiffies =>
      obtain ⟨⟨last, verdict, out⟩, hmanage, heq⟩ :=
        Option.map_eq_some_iff.mp hstep
      cases heq
      exact hexact.afterMpdu hsafe hmanage
  | reorderTimer jiffies =>
      exact hexact.afterStaReorderRelease hsafe hstep
  | markFiltered ssn filtered receivedMpdus jiffies =>
      obtain ⟨hmove, hrun⟩ := hsafe
      have hmoved := hexact.afterMarkMoveHead ssn receivedMpdus hmove
      simp only [reorderStep, ieee80211MarkRxBaFilteredFrames] at hstep
      split_ifs at hstep with hdiff
      · cases hstep
        exact hmoved.congr rfl rfl rfl
      · obtain ⟨next, hrelease, heq⟩ := Option.map_eq_some_iff.mp hstep
        cases heq
        have hmarked : CounterExact (updateFiltered
            (markMoveHead rx ssn receivedMpdus).1 ssn filtered) :=
          hmoved.congr rfl rfl rfl
        exact hmarked.afterStaReorderRelease (hrun (not_le.mp hdiff)) hrelease

theorem CounterExact.step_isSome {event : ReorderEvent α}
    (hexact : CounterExact rx) (hsafe : NoUnfinishedRelease hz rx event) :
    (reorderStep hz rx event).isSome := by
  cases event with
  | mpdu skb jiffies =>
      simp only [reorderStep, Option.isSome_map]
      apply manageReorderBuf_isSome hexact.bufSize_pos hexact.bufSize_le
      intro hless hbuffers hmore
      obtain ⟨hmove, hrun⟩ := hsafe hless
      exact ((hexact.afterMove hmove).afterCompleted hbuffers hmore
        ).staReorderRelease_isSome (hrun hbuffers hmore)
  | reorderTimer jiffies => exact hexact.staReorderRelease_isSome hsafe
  | markFiltered ssn filtered receivedMpdus jiffies =>
      obtain ⟨hmove, hrun⟩ := hsafe
      have hmoved := hexact.afterMarkMoveHead ssn receivedMpdus hmove
      simp only [reorderStep, ieee80211MarkRxBaFilteredFrames]
      split_ifs with hdiff
      · rfl
      · rw [Option.isSome_map]
        have hmarked : CounterExact (updateFiltered
            (markMoveHead rx ssn receivedMpdus).1 ssn filtered) :=
          hmoved.congr rfl rfl rfl
        exact hmarked.staReorderRelease_isSome (hrun (not_le.mp hdiff))

theorem FreshSession.counterExact (hfresh : FreshSession rx)
    (hdvd : rx.bufSize ∣ 4096) : CounterExact rx := by
  refine ⟨hdvd, hfresh.bufSize_le, ?_⟩
  rw [hfresh.stored, eq_comm, completeSlots_eq_total,
    SlotRing.total_eq_zero_iff]
  intro slot _
  simp [hfresh.empty, completeWeight]

end Events

/-- In every run that never releases an unfinished A-MSDU out of a filtered
slot the counter is the number of complete slots, a counter that is not zero
leads the search for the timer's slot to an end within `buf_size` rounds, and
every further such step returns. -/
theorem storedMpduNum_eq_completeSlots (hz : ℕ) {rx₀ rx : TidAmpduRx α}
    (hgranted : AdmittedSession rx₀) (hdvd : rx₀.bufSize ∣ 4096)
    (_hsize : rx₀.bufSize ≤ 64)
    (hreach : Reachable (reorderStep hz) (NoUnfinishedRelease hz) rx₀ rx) :
    rx.storedMpduNum = rx.completeSlots ∧
      (rx.storedMpduNum ≠ 0 →
        (∃ slot, slot < rx.bufSize ∧
          ieee80211RxReorderReady rx slot = true) ∧
        (timerSearch rx).isSome) ∧
      ∀ event, NoUnfinishedRelease hz rx event →
        (reorderStep hz rx event).isSome := by
  have hexact : CounterExact rx :=
    hreach.invariant (hgranted.fresh.counterExact hdvd)
      fun _ _ _ _ hgood hsafe hstep => hgood.afterStep hsafe hstep
  exact ⟨hexact.count_eq,
    fun hstored => ⟨hexact.exists_ready hstored,
      hexact.timerSearch_isSome hstored⟩,
    fun _ hsafe => hexact.step_isSome hsafe⟩

theorem noUnfinishedRelease_mpdu {hz jiffies : ℕ} {rx : TidAmpduRx α}
    (hfiltered : rx.reorderBufFiltered = 0) (skb : RxSkb α) :
    NoUnfinishedRelease hz rx (.mpdu skb jiffies) := by
  intro _
  refine ⟨fun _ _ => not_filteredUnfinished_of_unmarked hfiltered,
    fun _ _ => releaseSafe_of_unmarked hz jiffies ?_⟩
  apply BitVec.eq_of_getLsbD_eq
  intro slot _
  have hbits := @releaseHeads_unmarked _ (frameShift rx skb)
    (startedBy rx skb) (by simpa [startedBy] using hfiltered)
  simp [completedBuffer, countFrame, storeFrame, movedFor, hbits]

def oneAheadOfHead : ReorderEvent Unit :=
  .mpdu (unfragmented 1 false ()) 0

theorem storedMpduNum_eq_completeSlots_oneAhead :
    ∃ rx, reorderStep 100 (newTidAmpduRx (heRequest 0 2) 2) oneAheadOfHead =
        some (rx, []) ∧
      rx.storedMpduNum = rx.completeSlots ∧ rx.storedMpduNum = 1 := by
  obtain ⟨⟨rx, frames⟩, hstep⟩ := Option.isSome_iff_exists.mp
    (show (reorderStep 100 (newTidAmpduRx (heRequest 0 2) 2)
      oneAheadOfHead).isSome by decide)
  have hframes : frames = [] := by
    have hout : (reorderStep 100 (newTidAmpduRx (heRequest 0 2) 2)
        oneAheadOfHead).map (fun next => next.2) = some [] := by decide
    simpa [hstep] using hout
  have hstored : rx.storedMpduNum = 1 := by
    have hout : (reorderStep 100 (newTidAmpduRx (heRequest 0 2) 2)
        oneAheadOfHead).map (fun next => next.1.storedMpduNum) = some 1 := by
      decide
    simpa [hstep] using hout
  subst hframes
  have hcount := storedMpduNum_eq_completeSlots 100
    (admitted_heRequest (by decide) (by decide) (by decide)) (by decide)
    (by decide)
    (.next .start (noUnfinishedRelease_mpdu rfl _) hstep)
  exact ⟨rx, hstep, hcount.1, hstored⟩

/-- A subframe of SN 2 waits in slot 0 when the firmware marks both slots as
filtered: its release takes the counter from 0 to 65535, and the search of the
next frame's step goes round an empty buffer for ever. -/
theorem storedMpduNum_underflows :
    ∃ rx : TidAmpduRx Unit,
      AdmittedSession
        (newTidAmpduRx (heRequest 0 2) 2 : TidAmpduRx Unit) ∧
      Reachable (reorderStep 100) (fun _ _ => True)
        (newTidAmpduRx (heRequest 0 2) 2) rx ∧
      rx.storedMpduNum = 65535 ∧ rx.completeSlots = 0 ∧
      reorderStep 100 rx (.mpdu (unfragmented 3 false ()) 0) = none := by
  let events : List (ReorderEvent Unit) :=
    [.mpdu (unfragmented 0 false ()) 0, .mpdu (unfragmented 2 true ()) 0,
      .markFiltered 1 3 0 0]
  have hstored : (run (reorderStep 100) (newTidAmpduRx (heRequest 0 2) 2)
      events).map (fun last => (last.1.storedMpduNum, last.1.completeSlots,
        (reorderStep 100 last.1
          (.mpdu (unfragmented 3 false ()) 0)).isSome)) =
      some (65535, 0, false) := by
    decide +kernel
  obtain ⟨⟨rx, frames⟩, hrun, hlast⟩ := Option.map_eq_some_iff.mp hstored
  simp only [Prod.mk.injEq, Option.isSome_eq_false_iff,
    Option.isNone_iff_eq_none] at hlast
  exact ⟨rx, admitted_heRequest (by decide) (by decide) (by decide),
    reachable_of_run .start hrun, hlast.1, hlast.2.1, hlast.2.2⟩

end IwlwifiStack
