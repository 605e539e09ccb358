import IwlwifiStack.RxReorderScan

/-!
# What one frame does to the reorder buffer

The branches of `ieee80211_sta_manage_reorder_buf`, said once: `Placed` for a
frame in the window, `Managed` for any frame.  Invariants are proved by cases
on these relations, never by unfolding the function again.
-/

namespace IwlwifiStack

variable {α : Type*}

def RxSkb.slot (skb : RxSkb α) (rx : TidAmpduRx α) : ℕ :=
  skb.sn % rx.bufSize

def RxSkb.offset (f : RxSkb α) (head : ℕ) : ℕ :=
  ieee80211SnSub f.sn head

theorem RxSkb.sn_lt (f : RxSkb α) : f.sn < 4096 :=
  getSn_lt _

theorem RxSkb.offset_mod (f : RxSkb α) (head : ℕ) :
    (head + f.offset head) % 4096 = f.sn % 4096 :=
  add_snSub_mod f.sn head

theorem RxSkb.slot_lt (skb : RxSkb α) {rx : TidAmpduRx α}
    (hpos : 0 < rx.bufSize) : skb.slot rx < rx.bufSize :=
  Nat.mod_lt _ hpos

/-- The frame goes into the buffer: its slot is not ready, and it is not the
next one of an empty buffer. -/
def Buffers (rx : TidAmpduRx α) (skb : RxSkb α) : Prop :=
  ieee80211RxReorderReady rx (skb.slot rx) = false ∧
    ¬ (skb.sn = rx.headSeqNum ∧ rx.storedMpduNum = 0)

instance (rx : TidAmpduRx α) (skb : RxSkb α) : Decidable (Buffers rx skb) := by
  unfold Buffers
  infer_instance

/-- The buffer that already holds the completing frame, as the release
function finds it. -/
def completedBuffer (jiffies : ℕ) (rx : TidAmpduRx α) (skb : RxSkb α) :
    TidAmpduRx α :=
  countFrame (storeFrame rx (skb.slot rx) skb) (skb.slot rx) jiffies

inductive Placed (hz jiffies : ℕ) (rx : TidAmpduRx α) (skb : RxSkb α) :
    TidAmpduRx α → ReorderVerdict → List (RxSkb α) → Prop
  | duplicate :
      ieee80211RxReorderReady rx (skb.slot rx) = true →
      Placed hz jiffies rx skb rx .alreadyStored []
  | direct :
      ieee80211RxReorderReady rx (skb.slot rx) = false →
      skb.sn = rx.headSeqNum → rx.storedMpduNum = 0 →
      Placed hz jiffies rx skb (passDirectly rx skb) .handOn []
  | waiting :
      Buffers rx skb → skb.amsduMore = true →
      Placed hz jiffies rx skb (storeFrame rx (skb.slot rx) skb) .stored []
  | completed {after : TidAmpduRx α} {frames : List (RxSkb α)} :
      Buffers rx skb → skb.amsduMore = false →
      ieee80211StaReorderRelease hz jiffies (completedBuffer jiffies rx skb) =
        some (after, frames) →
      Placed hz jiffies rx skb after .stored frames

theorem placeFrame_placed {hz jiffies : ℕ} {rx after : TidAmpduRx α}
    {skb : RxSkb α} {verdict : ReorderVerdict} {frames : List (RxSkb α)}
    (hplace : placeFrame hz jiffies rx skb = some (after, verdict, frames)) :
    Placed hz jiffies rx skb after verdict frames := by
  simp only [placeFrame] at hplace
  split_ifs at hplace with hready hhead hmore
  · cases hplace
    exact .duplicate hready
  · cases hplace
    rw [Bool.and_eq_true, decide_eq_true_eq, decide_eq_true_eq] at hhead
    exact .direct (Bool.eq_false_of_not_eq_true hready) hhead.1 hhead.2
  · cases hplace
    rw [Bool.and_eq_true, decide_eq_true_eq, decide_eq_true_eq] at hhead
    exact .waiting ⟨Bool.eq_false_of_not_eq_true hready, hhead⟩ hmore
  · obtain ⟨released, hrelease, heq⟩ := Option.map_eq_some_iff.mp hplace
    cases heq
    rw [Bool.and_eq_true, decide_eq_true_eq, decide_eq_true_eq] at hhead
    exact .completed ⟨Bool.eq_false_of_not_eq_true hready, hhead⟩
      (Bool.eq_false_of_not_eq_true hmore) hrelease

theorem placeFrame_isSome {hz jiffies : ℕ} {rx : TidAmpduRx α}
    {skb : RxSkb α}
    (hrelease : Buffers rx skb → skb.amsduMore = false →
      (ieee80211StaReorderRelease hz jiffies
        (completedBuffer jiffies rx skb)).isSome) :
    (placeFrame hz jiffies rx skb).isSome := by
  simp only [placeFrame]
  split_ifs with hready hhead hmore
  · rfl
  · rfl
  · rfl
  · rw [Bool.and_eq_true, decide_eq_true_eq, decide_eq_true_eq] at hhead
    rw [Option.isSome_map]
    exact hrelease ⟨Bool.eq_false_of_not_eq_true hready, hhead⟩
      (Bool.eq_false_of_not_eq_true hmore)

/-- The session once a frame has set `started`. -/
def startedBy (rx : TidAmpduRx α) (skb : RxSkb α) : TidAmpduRx α :=
  { pickAutoSeq rx skb.sn with started := true }

@[simp] theorem pickAutoSeq_bufSize (rx : TidAmpduRx α) (sn : ℕ) :
    (pickAutoSeq rx sn).bufSize = rx.bufSize := by
  unfold pickAutoSeq
  split_ifs <;> rfl

@[simp] theorem pickAutoSeq_reorderBuf (rx : TidAmpduRx α) (sn : ℕ) :
    (pickAutoSeq rx sn).reorderBuf = rx.reorderBuf := by
  unfold pickAutoSeq
  split_ifs <;> rfl

@[simp] theorem pickAutoSeq_reorderBufFiltered (rx : TidAmpduRx α) (sn : ℕ) :
    (pickAutoSeq rx sn).reorderBufFiltered = rx.reorderBufFiltered := by
  unfold pickAutoSeq
  split_ifs <;> rfl

@[simp] theorem pickAutoSeq_storedMpduNum (rx : TidAmpduRx α) (sn : ℕ) :
    (pickAutoSeq rx sn).storedMpduNum = rx.storedMpduNum := by
  unfold pickAutoSeq
  split_ifs <;> rfl

@[simp] theorem pickAutoSeq_started (rx : TidAmpduRx α) (sn : ℕ) :
    (pickAutoSeq rx sn).started = rx.started := by
  unfold pickAutoSeq
  split_ifs <;> rfl

@[simp] theorem pickAutoSeq_autoSeq (rx : TidAmpduRx α) (sn : ℕ) :
    (pickAutoSeq rx sn).autoSeq = false := by
  unfold pickAutoSeq
  split_ifs with hauto
  · rfl
  · exact Bool.eq_false_of_not_eq_true hauto

theorem pickAutoSeq_of_not_auto {rx : TidAmpduRx α} (sn : ℕ)
    (hauto : rx.autoSeq = false) : pickAutoSeq rx sn = rx := by
  simp [pickAutoSeq, hauto]

def frameShift (rx : TidAmpduRx α) (skb : RxSkb α) : ℕ :=
  windowShift rx.bufSize
    (ieee80211SnSub skb.sn (startedBy rx skb).headSeqNum)

def movedFor (rx : TidAmpduRx α) (skb : RxSkb α) : TidAmpduRx α :=
  (releaseHeads (frameShift rx skb) (startedBy rx skb)).1

inductive Managed (hz jiffies : ℕ) (rx : TidAmpduRx α) (skb : RxSkb α) :
    TidAmpduRx α → ReorderVerdict → List (RxSkb α) → Prop
  | early :
      rx.started = false →
      ieee80211SnLess skb.sn (pickAutoSeq rx skb.sn).headSeqNum = true →
      Managed hz jiffies rx skb (pickAutoSeq rx skb.sn) .handOn []
  | late :
      rx.started = true →
      ieee80211SnLess skb.sn (startedBy rx skb).headSeqNum = true →
      Managed hz jiffies rx skb (startedBy rx skb) .outOfDate []
  | inWindow {after : TidAmpduRx α} {verdict : ReorderVerdict}
      {frames : List (RxSkb α)} :
      ieee80211SnLess skb.sn (startedBy rx skb).headSeqNum = false →
      Placed hz jiffies (movedFor rx skb) skb after verdict frames →
      Managed hz jiffies rx skb after verdict
        ((releaseHeads (frameShift rx skb) (startedBy rx skb)).2 ++ frames)

section Manage

variable {hz jiffies : ℕ} {rx : TidAmpduRx α} {skb : RxSkb α}

theorem moveWindow_startedBy (hpos : 0 < rx.bufSize)
    (hsize : rx.bufSize ≤ 1024)
    (hless : ieee80211SnLess skb.sn (startedBy rx skb).headSeqNum = false) :
    moveWindow (startedBy rx skb) skb.sn =
      releaseHeads (frameShift rx skb) (startedBy rx skb) := by
  have hbuf : (startedBy rx skb).bufSize = rx.bufSize := by
    simp [startedBy]
  rw [moveWindow_eq (by omega) (by omega) hless, hbuf]
  rfl

theorem manageReorderBuf_inWindow
    (hless : ieee80211SnLess skb.sn (startedBy rx skb).headSeqNum = false) :
    ieee80211StaManageReorderBuf hz jiffies rx skb =
      (placeFrame hz jiffies (moveWindow (startedBy rx skb) skb.sn).1 skb).map
        fun placed =>
          (placed.1, placed.2.1,
            (moveWindow (startedBy rx skb) skb.sn).2 ++ placed.2.2) := by
  have hpick : ieee80211SnLess skb.sn (pickAutoSeq rx skb.sn).headSeqNum =
      false := hless
  simp only [ieee80211StaManageReorderBuf]
  rw [hpick, Bool.and_false, if_neg (by simp), if_neg (by simp)]
  rfl

theorem manageReorderBuf_managed {after : TidAmpduRx α}
    {verdict : ReorderVerdict} {frames : List (RxSkb α)}
    (hpos : 0 < rx.bufSize) (hsize : rx.bufSize ≤ 1024)
    (hmanage : ieee80211StaManageReorderBuf hz jiffies rx skb =
      some (after, verdict, frames)) :
    Managed hz jiffies rx skb after verdict frames := by
  simp only [ieee80211StaManageReorderBuf] at hmanage
  split_ifs at hmanage with hearly hlate
  · cases hmanage
    simp only [pickAutoSeq_started, Bool.and_eq_true, Bool.not_eq_true']
      at hearly
    exact .early hearly.1 hearly.2
  · cases hmanage
    refine .late ?_ hlate
    by_contra hnot
    simp only [Bool.not_eq_true] at hnot
    simp only [pickAutoSeq_started, hnot] at hearly
    exact hearly hlate
  · have hless : ieee80211SnLess skb.sn (startedBy rx skb).headSeqNum =
        false := Bool.eq_false_of_not_eq_true hlate
    obtain ⟨⟨last, verdict', out⟩, hplace, heq⟩ :=
      Option.map_eq_some_iff.mp hmanage
    cases heq
    have hmove := moveWindow_startedBy hpos hsize hless
    simp only [startedBy] at hmove
    rw [hmove] at hplace ⊢
    exact .inWindow hless (placeFrame_placed hplace)

theorem manageReorderBuf_isSome
    (hpos : 0 < rx.bufSize) (hsize : rx.bufSize ≤ 1024)
    (hrelease :
      ieee80211SnLess skb.sn (startedBy rx skb).headSeqNum = false →
      Buffers (movedFor rx skb) skb → skb.amsduMore = false →
      (ieee80211StaReorderRelease hz jiffies
        (completedBuffer jiffies (movedFor rx skb) skb)).isSome) :
    (ieee80211StaManageReorderBuf hz jiffies rx skb).isSome := by
  simp only [ieee80211StaManageReorderBuf]
  split_ifs with hearly hlate
  · rfl
  · rfl
  · have hless : ieee80211SnLess skb.sn (startedBy rx skb).headSeqNum =
        false := Bool.eq_false_of_not_eq_true hlate
    have hmove := moveWindow_startedBy hpos hsize hless
    simp only [startedBy] at hmove
    rw [Option.isSome_map, hmove]
    exact placeFrame_isSome (hrelease hless)

@[simp] theorem startedBy_bufSize (rx : TidAmpduRx α) (skb : RxSkb α) :
    (startedBy rx skb).bufSize = rx.bufSize := by
  simp [startedBy]

@[simp] theorem movedFor_bufSize (rx : TidAmpduRx α) (skb : RxSkb α) :
    (movedFor rx skb).bufSize = rx.bufSize := by
  simp [movedFor]

@[simp] theorem movedFor_autoSeq (rx : TidAmpduRx α) (skb : RxSkb α) :
    (movedFor rx skb).autoSeq = false := by
  simp [movedFor, startedBy]

theorem Placed.frame {after : TidAmpduRx α} {verdict : ReorderVerdict}
    {frames : List (RxSkb α)} (hdvd : rx.bufSize ∣ 4096)
    (hplaced : Placed hz jiffies rx skb after verdict frames) :
    after.bufSize = rx.bufSize ∧ after.autoSeq = rx.autoSeq := by
  cases hplaced with
  | duplicate _ => exact ⟨rfl, rfl⟩
  | direct _ _ _ => exact ⟨rfl, rfl⟩
  | waiting _ _ => exact ⟨rfl, rfl⟩
  | completed _ _ hrelease =>
      exact @staReorderRelease_frame _ _ _ (completedBuffer jiffies rx skb) _ _
        hdvd (Nat.pos_of_dvd_of_pos hdvd (by norm_num)) hrelease

theorem Managed.frame {after : TidAmpduRx α} {verdict : ReorderVerdict}
    {frames : List (RxSkb α)} (hdvd : rx.bufSize ∣ 4096)
    (hmanaged : Managed hz jiffies rx skb after verdict frames) :
    after.bufSize = rx.bufSize ∧ after.autoSeq = false := by
  cases hmanaged with
  | early _ _ => simp
  | late _ _ => simp [startedBy]
  | inWindow _ hplaced =>
      have hsame := hplaced.frame (by simpa using hdvd)
      simpa using hsame

end Manage

/-! ## The frame and the moved window -/

/-- The window move leaves the frame in the window, having passed fewer than
half the sequence space. -/
structure FrameInWindow (rx : TidAmpduRx α) (skb : RxSkb α) : Prop where
  lower : frameShift rx skb ≤ skb.offset (startedBy rx skb).headSeqNum
  upper : skb.offset (startedBy rx skb).headSeqNum <
    frameShift rx skb + rx.bufSize
  shift_le : frameShift rx skb ≤ 2047
  moved : skb.offset (movedFor rx skb).headSeqNum < rx.bufSize

theorem frameInWindow {rx : TidAmpduRx α} {skb : RxSkb α}
    (hpos : 0 < rx.bufSize) (hle : rx.bufSize ≤ 1024)
    (hless : ieee80211SnLess skb.sn (startedBy rx skb).headSeqNum = false)
    (hmoves : ¬ (rx.bufSize = 1 ∧
      skb.offset (startedBy rx skb).headSeqNum = 2048)) :
    FrameInWindow rx skb := by
  have hbound : skb.offset (startedBy rx skb).headSeqNum ≤ 2048 :=
    snLess_eq_false_iff.mp hless
  have hshift : frameShift rx skb =
      skb.offset (startedBy rx skb).headSeqNum + 1 - rx.bufSize := by
    have hdef : frameShift rx skb = windowShift rx.bufSize
        (skb.offset (startedBy rx skb).headSeqNum) := rfl
    rw [hdef, windowShift, if_neg (by omega)]
  have hmoved := releaseHeads_headSeqNum_mod (frameShift rx skb)
    (startedBy rx skb)
  have hmod := skb.offset_mod (startedBy rx skb).headSeqNum
  have hsub : skb.offset (movedFor rx skb).headSeqNum =
      skb.offset (startedBy rx skb).headSeqNum - frameShift rx skb := by
    refine snSub_eq_of_offset ?_ (by omega)
    simp only [movedFor]
    omega
  exact ⟨by omega, by omega, by omega, by omega⟩

/-! ## Filtered frames -/

/-- How many slots the head moves of `ieee80211_mark_rx_ba_filtered_frames`
pass. -/
def markShift (rx : TidAmpduRx α) (ssn receivedMpdus : ℕ) : ℕ :=
  if receivedMpdus ≥ 2048 then rx.bufSize else moveDistance rx.headSeqNum ssn

theorem markMoveHead_eq {rx : TidAmpduRx α} (hsize : rx.bufSize ≤ 1024)
    (ssn receivedMpdus : ℕ) :
    ∃ head,
      markMoveHead rx ssn receivedMpdus =
        ({ (releaseHeads (markShift rx ssn receivedMpdus) rx).1 with
            headSeqNum := head },
          (releaseHeads (markShift rx ssn receivedMpdus) rx).2) := by
  unfold markMoveHead markShift
  split_ifs with hall
  · have hdistance : moveDistance rx.headSeqNum
        ((rx.headSeqNum + rx.bufSize) % 4096) = rx.bufSize := by
      rw [@moveDistance_of_offset _ _ rx.bufSize (by simp) (by omega),
        if_neg (by omega)]
    rw [releaseReorderFrames_eq, hdistance]
    exact ⟨ssn, rfl⟩
  · rw [releaseReorderFrames_eq]
    exact ⟨_, rfl⟩

end IwlwifiStack
