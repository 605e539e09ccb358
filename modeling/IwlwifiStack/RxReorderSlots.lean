import IwlwifiStack.RxReorderStep
import IwlwifiStack.BlockAckSession

/-!
# Which slot a sequence number gets

A frame is stored in slot `SN % buf_size`, while sequence numbers wrap at
4096.  The two agree exactly for the buffer sizes that divide 4096; and for a
buffer of one frame the window move fails for a frame half the sequence space
ahead.  `SlotAssignment` collects what the rest of the code relies on, for
every reachable state of a session.

A stored MPDU is one whose last frame has arrived.  The earlier subframes of
an A-MSDU wait with it in its slot, and a timeout gives up on an A-MSDU that
is still unfinished, so those are not stored MPDUs.
-/

namespace IwlwifiStack

open ConditionedRun

variable {α : Type*}

def completingFrames (queue : List (RxSkb α)) : List (RxSkb α) :=
  queue.filter fun f => !f.amsduMore

/-- MPDUs leave in the order of their distance from the head of before, and
before every MPDU that stays. -/
structure OrderedRelease (head : ℕ) (frames : List (RxSkb α))
    (after : TidAmpduRx α) : Prop where
  increasing : (completingFrames frames).Pairwise fun f g =>
    f.offset head < g.offset head
  stored_later : ∀ f ∈ completingFrames frames, ∀ slot < after.bufSize,
    ∀ g ∈ completingFrames (after.reorderBuf slot),
      f.offset head < g.offset head

/-- Filter marks come only to a session whose slots all have a bit in
`reorder_buf_filtered`: the driver call is documented to work with at most 64
subframes, and warns about a device with more. -/
def MarksFit (rx : TidAmpduRx α) : ReorderEvent α → Prop
  | .mpdu _ _ => True
  | .reorderTimer _ => True
  | .markFiltered _ _ _ _ => rx.bufSize ≤ 64

def SessionReaches (hz : ℕ) (rx₀ rx : TidAmpduRx α) : Prop :=
  Reachable (reorderStep hz) MarksFit rx₀ rx

theorem SessionReaches.afterMpdu {hz jiffies : ℕ} {rx₀ rx after : TidAmpduRx α}
    {skb : RxSkb α} {frames : List (RxSkb α)} (hreach : SessionReaches hz rx₀ rx)
    (hstep : reorderStep hz rx (.mpdu skb jiffies) = some (after, frames)) :
    SessionReaches hz rx₀ after :=
  Reachable.after hreach (.mpdu skb jiffies) frames trivial hstep

/-- The window-move step for the frame, once `started` is set. -/
def windowMoved (rx : TidAmpduRx α) (skb : RxSkb α) : TidAmpduRx α :=
  (moveWindow (startedBy rx skb) skb.sn).1

structure SlotAssignment (hz : ℕ) (rx₀ : TidAmpduRx α) : Prop where
  in_window : ∀ rx skb, SessionReaches hz rx₀ rx →
    ieee80211SnLess skb.sn (startedBy rx skb).headSeqNum = false →
    skb.offset (windowMoved rx skb).headSeqNum < rx₀.bufSize
  slots_distinct : ∀ rx skb, SessionReaches hz rx₀ rx →
    ieee80211SnLess skb.sn (startedBy rx skb).headSeqNum = false →
    ∀ sn < 4096, ∀ sn' < 4096,
      ieee80211SnSub sn (windowMoved rx skb).headSeqNum < rx₀.bufSize →
      ieee80211SnSub sn' (windowMoved rx skb).headSeqNum < rx₀.bufSize →
      sn % rx₀.bufSize = sn' % rx₀.bufSize → sn = sn'
  duplicate_stored : ∀ rx skb jiffies after frames, SessionReaches hz rx₀ rx →
    ieee80211StaManageReorderBuf hz jiffies rx skb =
      some (after, .alreadyStored, frames) →
    after.reorderBufFiltered.getLsbD (skb.slot after) = true ∨
      ∃ g ∈ after.reorderBuf (skb.slot after), g.sn = skb.sn
  mpdu_order : ∀ rx skb jiffies after verdict frames,
    SessionReaches hz rx₀ rx →
    ieee80211StaManageReorderBuf hz jiffies rx skb =
      some (after, verdict, frames) →
    OrderedRelease (pickAutoSeq rx skb.sn).headSeqNum frames after
  timer_order : ∀ rx jiffies after frames, SessionReaches hz rx₀ rx →
    ieee80211StaReorderRelease hz jiffies rx = some (after, frames) →
    OrderedRelease rx.headSeqNum frames after
  mark_order : ∀ rx ssn filtered receivedMpdus jiffies after frames,
    SessionReaches hz rx₀ rx → rx.bufSize ≤ 64 →
    ieee80211MarkRxBaFilteredFrames hz jiffies rx ssn filtered receivedMpdus =
      some (after, frames) →
    OrderedRelease rx.headSeqNum frames after

/-! ## Sizes that divide the sequence space -/

theorem tailComplete_completing {queue : List (RxSkb α)}
    (htail : tailComplete queue = true) : completingFrames queue ≠ [] := by
  obtain ⟨init, tail, rfl⟩ : ∃ init tail, queue = init ++ [tail] :=
    (List.eq_nil_or_concat' queue).resolve_left (tailComplete_ne_nil htail)
  rw [tailComplete_append] at htail
  simp [completingFrames, htail]

/-- A slot completes at most one MPDU, with its last frame, and that MPDU lies
between `low` and `low + bufSize` places ahead of `head`. -/
def CompletesOwn (bufSize head low slot : ℕ)
    (queue : List (RxSkb α)) : Prop :=
  completingFrames queue = [] ∨
    ∃ g, completingFrames queue = [g] ∧ tailComplete queue = true ∧
      g.sn % bufSize = slot ∧ low ≤ g.offset head ∧
      g.offset head < low + bufSize

/-- The buffer after `low` slots have been passed since the head was at
`head`, and what was released on the way. -/
structure ReleasedInOrder (head low : ℕ) (rx : TidAmpduRx α)
    (frames : List (RxSkb α)) : Prop where
  dvd : rx.bufSize ∣ 4096
  room : low + rx.bufSize ≤ 4096
  head_eq : rx.headSeqNum % 4096 = (head + low) % 4096
  slots : ∀ slot < rx.bufSize,
    CompletesOwn rx.bufSize head low slot (rx.reorderBuf slot)
  increasing : (completingFrames frames).Pairwise fun f g =>
    f.offset head < g.offset head
  below : ∀ f ∈ completingFrames frames, f.offset head < low

namespace ReleasedInOrder

variable {head low : ℕ} {rx : TidAmpduRx α} {frames : List (RxSkb α)}

theorem orderedRelease (hin : ReleasedInOrder head low rx frames) :
    OrderedRelease head frames rx := by
  refine ⟨hin.increasing, fun f hf slot hslot g hg => ?_⟩
  rcases hin.slots slot hslot with hnil | ⟨g', hqueue, _, _, hle, _⟩
  · rw [hnil] at hg
    cases hg
  · rw [hqueue] at hg
    rw [List.mem_singleton.mp hg]
    exact lt_of_lt_of_le (hin.below f hf) hle

theorem bufSize_pos (hin : ReleasedInOrder head low rx frames) :
    0 < rx.bufSize :=
  Nat.pos_of_dvd_of_pos hin.dvd (by norm_num)

theorem headSlot_eq (hin : ReleasedInOrder head low rx frames) :
    rx.headSlot = (head + low) % rx.bufSize :=
  slot_congr hin.dvd hin.head_eq

theorem completing_of_not_ready (hin : ReleasedInOrder head low rx frames)
    {slot : ℕ} (hslot : slot < rx.bufSize)
    (hready : ieee80211RxReorderReady rx slot = false) :
    completingFrames (rx.reorderBuf slot) = [] := by
  rw [ready_eq, Bool.or_eq_false_iff] at hready
  rcases hin.slots slot hslot with hnil | ⟨g, _, htail, _⟩
  · exact hnil
  · rw [hready.2] at htail
    cases htail

theorem at_head (hin : ReleasedInOrder head low rx frames)
    {g : RxSkb α} (hg : completingFrames (rx.reorderBuf rx.headSlot) = [g]) :
    g.offset head = low := by
  rcases hin.slots rx.headSlot (headSlot_lt hin.bufSize_pos) with
    hnil | ⟨g', hqueue, _, hslot, hle, hlt⟩
  · rw [hg] at hnil
    cases hnil
  · rw [hg] at hqueue
    obtain rfl : g = g' := by simpa using hqueue
    have hroom := hin.room
    have hmod : (head + g.offset head) % rx.bufSize =
        (head + low) % rx.bufSize := by
      rw [← hin.headSlot_eq, ← hslot]
      exact slot_congr hin.dvd (g.offset_mod head)
    have hposition := @SlotRing.position_unique rx.bufSize
      (head + low) _ _ (by omega) (by omega) le_rfl (by omega) hmod
    omega

theorem slot_later (hin : ReleasedInOrder head low rx frames) {slot : ℕ}
    (hslot : slot < rx.bufSize) (hne : slot ≠ rx.headSlot) :
    CompletesOwn rx.bufSize head (low + 1) slot (rx.reorderBuf slot) := by
  rcases hin.slots slot hslot with hnil | ⟨g, hqueue, htail, hown, hle, hlt⟩
  · exact Or.inl hnil
  · refine Or.inr ⟨g, hqueue, htail, hown, ?_, by omega⟩
    have hother : g.offset head ≠ low := by
      intro heq
      apply hne
      rw [← hown, hin.headSlot_eq, ← heq]
      exact slot_congr hin.dvd (g.offset_mod head).symm
    omega

theorem afterReleaseFrame (hin : ReleasedInOrder head low rx frames)
    (hroom : low + 1 + rx.bufSize ≤ 4096) :
    ReleasedInOrder head (low + 1)
      (ieee80211ReleaseReorderFrame rx rx.headSlot).1
      (frames ++ (ieee80211ReleaseReorderFrame rx rx.headSlot).2) := by
  have hslot := headSlot_lt hin.bufSize_pos
  have hout : completingFrames
      (ieee80211ReleaseReorderFrame rx rx.headSlot).2 =
      (completingFrames (rx.reorderBuf rx.headSlot)).map
        RxSkb.deferRelease := by
    rw [releaseReorderFrame_frames]
    cases hready : ieee80211RxReorderReady rx rx.headSlot with
    | true =>
        simp only [completingFrames, if_true, List.filter_map]
        rfl
    | false =>
        rw [hin.completing_of_not_ready hslot hready]
        rfl
  have hmem : ∀ f ∈ completingFrames
      (ieee80211ReleaseReorderFrame rx rx.headSlot).2,
      f.offset head = low := by
    intro f hf
    rw [hout] at hf
    rcases hin.slots rx.headSlot hslot with hnil | ⟨g, hqueue, _⟩
    · simp [hnil] at hf
    · rw [hqueue, List.map_singleton, List.mem_singleton] at hf
      rw [hf]
      change g.offset head = low
      exact hin.at_head hqueue
  have hone : (completingFrames
      (ieee80211ReleaseReorderFrame rx rx.headSlot).2).Pairwise
        fun f g => f.offset head < g.offset head := by
    rw [hout]
    rcases hin.slots rx.headSlot hslot with hnil | ⟨g, hqueue, _⟩
    · simp [hnil]
    · simp [hqueue]
  have happend : completingFrames
      (frames ++ (ieee80211ReleaseReorderFrame rx rx.headSlot).2) =
      completingFrames frames ++ completingFrames
        (ieee80211ReleaseReorderFrame rx rx.headSlot).2 :=
    List.filter_append _ _
  refine ⟨by simpa using hin.dvd, by simpa using hroom, ?_, ?_, ?_, ?_⟩
  · have hhead := hin.head_eq
    rw [releaseReorderFrame_headSeqNum, snInc_mod]
    omega
  · intro slot hlt
    rw [releaseReorderFrame_bufSize] at hlt ⊢
    rw [releaseReorderFrame_reorderBuf, Function.update_apply]
    split_ifs with heq
    · exact Or.inl rfl
    · exact hin.slot_later hlt heq
  · rw [happend, List.pairwise_append]
    refine ⟨hin.increasing, hone, fun f hf g hg => ?_⟩
    rw [hmem g hg]
    exact hin.below f hf
  · intro f hf
    rw [happend] at hf
    rcases List.mem_append.mp hf with hold | hnew
    · exact Nat.lt_succ_of_lt (hin.below f hold)
    · rw [hmem f hnew]
      exact Nat.lt_succ_self _

theorem afterReleaseHeads (hin : ReleasedInOrder head low rx frames) (n : ℕ)
    (hroom : low + n + rx.bufSize ≤ 4096) :
    ReleasedInOrder head (low + n) (releaseHeads n rx).1
      (frames ++ (releaseHeads n rx).2) := by
  induction n with
  | zero => simpa using hin
  | succ n ih =>
      have hprev := ih (by omega)
      rw [releaseHeads_succ, ← List.append_assoc]
      apply hprev.afterReleaseFrame
      rw [releaseHeads_bufSize]
      omega

theorem congr {after : TidAmpduRx α}
    (hin : ReleasedInOrder head low rx frames)
    (hsize : after.bufSize = rx.bufSize)
    (hhead : after.headSeqNum = rx.headSeqNum)
    (hbuf : after.reorderBuf = rx.reorderBuf) :
    ReleasedInOrder head low after frames :=
  ⟨hsize ▸ hin.dvd, hsize ▸ hin.room, hhead ▸ hin.head_eq,
    by rw [hsize, hbuf]; exact hin.slots, hin.increasing, hin.below⟩

theorem update {after : TidAmpduRx α} {slot : ℕ} {queue : List (RxSkb α)}
    (hin : ReleasedInOrder head low rx frames)
    (hsize : after.bufSize = rx.bufSize)
    (hhead : after.headSeqNum = rx.headSeqNum)
    (hbuf : after.reorderBuf = Function.update rx.reorderBuf slot queue)
    (hqueue : CompletesOwn rx.bufSize head low slot queue) :
    ReleasedInOrder head low after frames := by
  refine ⟨hsize ▸ hin.dvd, hsize ▸ hin.room, hhead ▸ hin.head_eq, ?_,
    hin.increasing, hin.below⟩
  intro slot' hlt
  rw [hsize] at hlt ⊢
  rw [hbuf, Function.update_apply]
  split_ifs with heq
  · rw [heq]
    exact hqueue
  · exact hin.slots slot' hlt

theorem afterStaReorderRelease {hz jiffies : ℕ} {after : TidAmpduRx α}
    {out : List (RxSkb α)} (hin : ReleasedInOrder head low rx frames)
    (hroom : low + 2 * rx.bufSize ≤ 4096)
    (hrelease :
      ieee80211StaReorderRelease hz jiffies rx = some (after, out)) :
    ∃ low', ReleasedInOrder head low' after (frames ++ out) := by
  obtain ⟨n, released, timer, hn, hstate, rfl, rfl, _⟩ :=
    staReorderRelease_cases hin.dvd hin.bufSize_pos hrelease
  have hheads := hin.afterReleaseHeads n (by omega)
  refine ⟨low + n, @ReleasedInOrder.congr _ _ _ released _ _ ?_ rfl rfl rfl⟩
  rcases hstate with ⟨_, rfl⟩ | ⟨hskips, rfl⟩
  · exact hheads
  · rcases Nat.eq_zero_or_pos n with rfl | hpos
    · simpa using hin
    · apply @ReleasedInOrder.update _ _ _ _ _
        (keepSlot (releaseHeads n rx).1 rx) _ _ hheads rfl rfl rfl
      exact Or.inl (hin.completing_of_not_ready (headSlot_lt hin.bufSize_pos)
        (hskips (by omega)).1)

end ReleasedInOrder

/-! ## Whole steps -/

/-- The invariant of every reachable state. -/
structure Aligned (rx : TidAmpduRx α) : Prop where
  order : ReleasedInOrder rx.headSeqNum 0 rx []
  bufSize_ge : 2 ≤ rx.bufSize
  bufSize_le : rx.bufSize ≤ 1024
  auto_empty : rx.autoSeq = true →
    ∀ slot < rx.bufSize, rx.reorderBuf slot = []

theorem releasedInOrder_of_empty {rx : TidAmpduRx α}
    (hdvd : rx.bufSize ∣ 4096) (hsize : rx.bufSize ≤ 1024)
    (hempty : ∀ slot < rx.bufSize, completingFrames (rx.reorderBuf slot) = []) :
    ReleasedInOrder rx.headSeqNum 0 rx [] :=
  ⟨hdvd, by omega, by simp, fun slot hslot => Or.inl (hempty slot hslot),
    List.Pairwise.nil, by simp [completingFrames]⟩

namespace ReleasedInOrder

variable {head low : ℕ} {rx : TidAmpduRx α} {frames : List (RxSkb α)}

theorem rebase (hin : ReleasedInOrder head low rx frames) :
    ReleasedInOrder rx.headSeqNum 0 rx [] := by
  have hroom := hin.room
  refine ⟨hin.dvd, by omega, by simp, fun slot hslot => ?_,
    List.Pairwise.nil, by simp [completingFrames]⟩
  rcases hin.slots slot hslot with hnil | ⟨g, hqueue, htail, hown, hle, hlt⟩
  · exact Or.inl hnil
  · have hmod := g.offset_mod head
    have hhead := hin.head_eq
    have hsub : g.offset rx.headSeqNum = g.offset head - low :=
      snSub_eq_of_offset (by omega) (by omega)
    exact Or.inr ⟨g, hqueue, htail, hown, by omega, by omega⟩

theorem aligned (hin : ReleasedInOrder head low rx frames)
    (hge : 2 ≤ rx.bufSize) (hle : rx.bufSize ≤ 1024)
    (hauto : rx.autoSeq = true →
      ∀ slot < rx.bufSize, rx.reorderBuf slot = []) :
    Aligned rx :=
  ⟨hin.rebase, hge, hle, hauto⟩

theorem afterDirect (hin : ReleasedInOrder head low rx frames)
    (hroom : low + 1 + rx.bufSize ≤ 4096)
    (hready : ieee80211RxReorderReady rx rx.headSlot = false)
    (skb : RxSkb α) :
    ∃ low', ReleasedInOrder head low' (passDirectly rx skb) frames := by
  unfold passDirectly
  split_ifs with hmore
  · exact ⟨low, hin.congr rfl rfl rfl⟩
  · refine ⟨low + 1, hin.dvd, hroom, ?_, fun slot hslot => ?_,
      hin.increasing, fun f hf => Nat.lt_succ_of_lt (hin.below f hf)⟩
    · have hhead := hin.head_eq
      simp only [snInc_mod]
      omega
    · by_cases heq : slot = rx.headSlot
      · exact Or.inl (heq ▸ hin.completing_of_not_ready
          (headSlot_lt hin.bufSize_pos) hready)
      · exact hin.slot_later hslot heq

theorem stored_own (hin : ReleasedInOrder head low rx frames) {skb : RxSkb α}
    (hbuffers : Buffers rx skb) (hle : low ≤ skb.offset head)
    (hlt : skb.offset head < low + rx.bufSize) :
    CompletesOwn rx.bufSize head low (skb.slot rx)
      (rx.reorderBuf (skb.slot rx) ++ [skb]) := by
  have hold := hin.completing_of_not_ready
    (skb.slot_lt hin.bufSize_pos) hbuffers.1
  have happend : completingFrames (rx.reorderBuf (skb.slot rx) ++ [skb]) =
      completingFrames (rx.reorderBuf (skb.slot rx)) ++
        completingFrames [skb] := List.filter_append _ _
  rw [CompletesOwn, happend, hold, List.nil_append, tailComplete_append]
  by_cases hmore : skb.amsduMore = true
  · exact Or.inl (by simp [completingFrames, hmore])
  · simp only [Bool.not_eq_true] at hmore
    exact Or.inr ⟨skb, by simp [completingFrames, hmore], by simp [hmore],
      rfl, hle, hlt⟩

theorem afterPlaced {hz jiffies : ℕ} {skb : RxSkb α} {after : TidAmpduRx α}
    {verdict : ReorderVerdict} {out : List (RxSkb α)}
    (hin : ReleasedInOrder head low rx frames)
    (hroom : low + 2 * rx.bufSize ≤ 4096) (hle : low ≤ skb.offset head)
    (hlt : skb.offset head < low + rx.bufSize)
    (hplaced : Placed hz jiffies rx skb after verdict out) :
    ∃ low', ReleasedInOrder head low' after (frames ++ out) := by
  have hpos := hin.bufSize_pos
  cases hplaced with
  | duplicate _ => exact ⟨low, by simpa using hin⟩
  | direct hready hnext _ =>
      rw [List.append_nil]
      apply hin.afterDirect (by omega)
      rw [TidAmpduRx.headSlot, ← hnext]
      exact hready
  | waiting hbuffers _ =>
      rw [List.append_nil]
      exact ⟨low, hin.update rfl rfl rfl (hin.stored_own hbuffers hle hlt)⟩
  | completed hbuffers _ hrelease =>
      have hstored : ReleasedInOrder head low
          (completedBuffer jiffies rx skb) frames :=
        hin.update rfl rfl rfl (hin.stored_own hbuffers hle hlt)
      exact hstored.afterStaReorderRelease hroom hrelease

end ReleasedInOrder

section Steps

variable {hz jiffies : ℕ} {rx : TidAmpduRx α} {skb : RxSkb α}

theorem Aligned.afterStartedBy (hal : Aligned rx) (skb : RxSkb α) :
    ReleasedInOrder (startedBy rx skb).headSeqNum 0
      (startedBy rx skb) [] := by
  by_cases hauto : rx.autoSeq = true
  · apply releasedInOrder_of_empty
    · simpa using hal.order.dvd
    · simpa using hal.bufSize_le
    · intro slot hslot
      rw [startedBy_bufSize] at hslot
      simp [startedBy, hal.auto_empty hauto slot hslot, completingFrames]
  · simp only [Bool.not_eq_true] at hauto
    have hpick := pickAutoSeq_of_not_auto skb.sn hauto
    simp only [startedBy, hpick]
    exact hal.order.congr rfl rfl rfl

theorem Aligned.frame_in_window (hal : Aligned rx)
    (hless :
      ieee80211SnLess skb.sn (startedBy rx skb).headSeqNum = false) :
    FrameInWindow rx skb := by
  have hge := hal.bufSize_ge
  exact frameInWindow hal.order.bufSize_pos hal.bufSize_le hless (by omega)

theorem Aligned.afterMove (hal : Aligned rx)
    (hless :
      ieee80211SnLess skb.sn (startedBy rx skb).headSeqNum =
        false) :
    ReleasedInOrder (startedBy rx skb).headSeqNum
      (frameShift rx skb) (movedFor rx skb)
      (releaseHeads (frameShift rx skb)
        (startedBy rx skb)).2 := by
  have hshift := (hal.frame_in_window hless).shift_le
  have hle := hal.bufSize_le
  have hmoved := (hal.afterStartedBy skb).afterReleaseHeads (frameShift rx skb)
    (by rw [startedBy_bufSize]; omega)
  simpa [movedFor] using hmoved

theorem Aligned.manage (hal : Aligned rx) {after : TidAmpduRx α}
    {verdict : ReorderVerdict} {frames : List (RxSkb α)}
    (hmanage : ieee80211StaManageReorderBuf hz jiffies rx skb =
      some (after, verdict, frames)) :
    ∃ low, ReleasedInOrder (pickAutoSeq rx skb.sn).headSeqNum low after
      frames := by
  have hle := hal.bufSize_le
  cases manageReorderBuf_managed hal.order.bufSize_pos hle hmanage with
  | early _ _ => exact ⟨0, (hal.afterStartedBy skb).congr rfl rfl rfl⟩
  | late _ _ => exact ⟨0, hal.afterStartedBy skb⟩
  | inWindow hless hplaced =>
      have hwindow := hal.frame_in_window hless
      have hshift := hwindow.shift_le
      apply (hal.afterMove hless).afterPlaced (by
        rw [movedFor_bufSize]
        omega) hwindow.lower (by
        rw [movedFor_bufSize]
        exact hwindow.upper) hplaced

theorem Aligned.afterManage (hal : Aligned rx) {after : TidAmpduRx α}
    {verdict : ReorderVerdict} {frames : List (RxSkb α)}
    (hmanage : ieee80211StaManageReorderBuf hz jiffies rx skb =
      some (after, verdict, frames)) :
    Aligned after ∧ after.bufSize = rx.bufSize := by
  obtain ⟨low, hin⟩ := hal.manage hmanage
  have hframe := (manageReorderBuf_managed hal.order.bufSize_pos
    hal.bufSize_le hmanage).frame hal.order.dvd
  refine ⟨hin.aligned ?_ ?_ ?_, hframe.1⟩
  · rw [hframe.1]
    exact hal.bufSize_ge
  · rw [hframe.1]
    exact hal.bufSize_le
  · rw [hframe.2]
    exact fun hauto => absurd hauto (by decide)

theorem Aligned.release (hal : Aligned rx) {after : TidAmpduRx α}
    {frames : List (RxSkb α)}
    (hrelease : ieee80211StaReorderRelease hz jiffies rx =
      some (after, frames)) :
    ∃ low, ReleasedInOrder rx.headSeqNum low after frames := by
  have hle := hal.bufSize_le
  simpa using hal.order.afterStaReorderRelease (by omega) hrelease

theorem releaseReorderFrame_empty {slot : ℕ}
    (hempty : rx.reorderBuf slot = []) :
    (ieee80211ReleaseReorderFrame rx slot).2 = [] := by
  rw [releaseReorderFrame_frames, hempty]
  split_ifs <;> rfl

theorem releaseHeads_of_empty (n : ℕ) (hpos : 0 < rx.bufSize)
    (hempty : ∀ slot < rx.bufSize, rx.reorderBuf slot = []) :
    (releaseHeads n rx).2 = [] ∧
      ∀ slot < rx.bufSize, (releaseHeads n rx).1.reorderBuf slot = [] := by
  induction n with
  | zero => exact ⟨rfl, hempty⟩
  | succ n ih =>
      have hhead : (releaseHeads n rx).1.headSlot < rx.bufSize := by
        simpa using @headSlot_lt _ (releaseHeads n rx).1
          (by simpa using hpos)
      rw [releaseHeads_succ]
      refine ⟨?_, fun slot hslot => ?_⟩
      · rw [ih.1, releaseReorderFrame_empty (ih.2 _ hhead)]
        rfl
      · rw [releaseReorderFrame_reorderBuf, Function.update_apply]
        split_ifs
        · rfl
        · exact ih.2 slot hslot

theorem staReorderRelease_of_empty {after : TidAmpduRx α}
    {frames : List (RxSkb α)} (hdvd : rx.bufSize ∣ 4096)
    (hpos : 0 < rx.bufSize)
    (hempty : ∀ slot < rx.bufSize, rx.reorderBuf slot = [])
    (hrelease : ieee80211StaReorderRelease hz jiffies rx =
      some (after, frames)) :
    frames = [] ∧ ∀ slot < rx.bufSize, after.reorderBuf slot = [] := by
  obtain ⟨n, released, timer, _, hstate, rfl, rfl, _⟩ :=
    staReorderRelease_cases hdvd hpos hrelease
  have hheads := releaseHeads_of_empty n hpos hempty
  refine ⟨hheads.1, ?_⟩
  rcases hstate with ⟨_, rfl⟩ | ⟨_, rfl⟩
  · exact hheads.2
  · intro slot hslot
    simp only [keepSlot, Function.update_apply]
    split_ifs with heq
    · exact hempty _ (headSlot_lt hpos)
    · exact hheads.2 slot hslot

/-- The head moves of a mark call release in order; a call that jumps to
another head leaves the buffer empty. -/
theorem Aligned.afterMarkMoveHead (hal : Aligned rx) (ssn receivedMpdus : ℕ) :
    (∃ low, low ≤ 2047 ∧
      ReleasedInOrder rx.headSeqNum low (markMoveHead rx ssn receivedMpdus).1
        (markMoveHead rx ssn receivedMpdus).2) ∨
    (OrderedRelease rx.headSeqNum
        (markMoveHead rx ssn receivedMpdus).2
        (markMoveHead rx ssn receivedMpdus).1 ∧
      ∀ slot < rx.bufSize,
        (markMoveHead rx ssn receivedMpdus).1.reorderBuf slot =
          []) := by
  have hle := hal.bufSize_le
  by_cases hall : receivedMpdus ≥ 2048
  · right
    obtain ⟨head, hmove⟩ := markMoveHead_eq hle ssn receivedMpdus
    have hshift : markShift rx ssn receivedMpdus = rx.bufSize := by
      rw [markShift, if_pos hall]
    rw [hmove, hshift]
    have hin := hal.order.afterReleaseHeads rx.bufSize (by omega)
    refine ⟨⟨by simpa using hin.orderedRelease.increasing, ?_⟩, ?_⟩
    · simpa using hin.orderedRelease.stored_later
    · intro slot hslot
      simp only [releaseHeads_reorderBuf hal.order.dvd]
      rw [if_pos (passes_bufSize rx le_rfl hslot)]
  · left
    have hlt := moveDistance_lt rx.headSeqNum ssn
    refine ⟨moveDistance rx.headSeqNum ssn, by omega, ?_⟩
    rw [markMoveHead, if_neg hall, releaseReorderFrames_eq]
    simpa using hal.order.afterReleaseHeads (moveDistance rx.headSeqNum ssn)
      (by omega)

theorem markMoveHead_frame (hsize : rx.bufSize ≤ 1024)
    (ssn receivedMpdus : ℕ) :
    (markMoveHead rx ssn receivedMpdus).1.bufSize = rx.bufSize ∧
      (markMoveHead rx ssn receivedMpdus).1.autoSeq = rx.autoSeq := by
  obtain ⟨head, hmove⟩ := markMoveHead_eq hsize ssn receivedMpdus
  simp [hmove]

theorem markMoveHead_of_empty (hpos : 0 < rx.bufSize)
    (hsize : rx.bufSize ≤ 1024) (ssn receivedMpdus : ℕ)
    (hempty : ∀ slot < rx.bufSize, rx.reorderBuf slot = []) :
    ∀ slot < rx.bufSize,
      (markMoveHead rx ssn receivedMpdus).1.reorderBuf slot = [] := by
  obtain ⟨head, hmove⟩ := markMoveHead_eq hsize ssn receivedMpdus
  rw [hmove]
  exact (releaseHeads_of_empty _ hpos hempty).2

theorem markRxBaFilteredFrames_cases {ssn receivedMpdus : ℕ}
    {filtered : BitVec 64} {after : TidAmpduRx α} {frames : List (RxSkb α)}
    (hmark : ieee80211MarkRxBaFilteredFrames hz jiffies rx ssn filtered
      receivedMpdus = some (after, frames)) :
    (after = { (markMoveHead rx ssn receivedMpdus).1 with
        reorderBufFiltered := 0 } ∧
      frames = (markMoveHead rx ssn receivedMpdus).2) ∨
    ∃ out, frames = (markMoveHead rx ssn receivedMpdus).2 ++ out ∧
      ieee80211StaReorderRelease hz jiffies
        (updateFiltered (markMoveHead rx ssn receivedMpdus).1 ssn filtered) =
          some (after, out) := by
  simp only [ieee80211MarkRxBaFilteredFrames] at hmark
  split_ifs at hmark with hdiff
  · cases hmark
    exact Or.inl ⟨rfl, rfl⟩
  · obtain ⟨next, hrelease, heq⟩ := Option.map_eq_some_iff.mp hmark
    cases heq
    exact Or.inr ⟨next.2, rfl, hrelease⟩

theorem orderedRelease_of_empty {head : ℕ} {frames : List (RxSkb α)}
    {moved after : TidAmpduRx α} (hordered : OrderedRelease head frames moved)
    (hempty : ∀ slot < after.bufSize, after.reorderBuf slot = []) :
    OrderedRelease head frames after := by
  refine ⟨hordered.increasing, fun f _ slot hslot g hg => ?_⟩
  rw [hempty slot hslot] at hg
  cases hg

theorem Aligned.mark (hal : Aligned rx) {ssn receivedMpdus : ℕ}
    {filtered : BitVec 64} {after : TidAmpduRx α} {frames : List (RxSkb α)}
    (hmark : ieee80211MarkRxBaFilteredFrames hz jiffies rx ssn filtered
      receivedMpdus = some (after, frames)) :
    OrderedRelease rx.headSeqNum frames after ∧ Aligned after ∧
      after.bufSize = rx.bufSize := by
  have hpos := hal.order.bufSize_pos
  have hge := hal.bufSize_ge
  have hle := hal.bufSize_le
  have hdvd := hal.order.dvd
  obtain ⟨hsize, hauto⟩ := markMoveHead_frame hle ssn receivedMpdus
  have hcases := markRxBaFilteredFrames_cases hmark
  have hframe : after.bufSize = rx.bufSize ∧ after.autoSeq = rx.autoSeq := by
    rcases hcases with ⟨rfl, _⟩ | ⟨out, _, hrelease⟩
    · exact ⟨hsize, hauto⟩
    · have hsame := @staReorderRelease_frame _ _ _
        (updateFiltered (markMoveHead rx ssn receivedMpdus).1 ssn
          filtered) _ _ (hsize ▸ hdvd) (hsize ▸ hpos) hrelease
      exact ⟨hsame.1.trans hsize, hsame.2.trans hauto⟩
  have hstaysEmpty : (∀ slot < rx.bufSize,
      (markMoveHead rx ssn receivedMpdus).1.reorderBuf slot = []) →
      frames = (markMoveHead rx ssn receivedMpdus).2 ∧
        ∀ slot < after.bufSize, after.reorderBuf slot = [] := by
    intro hempty
    rw [hframe.1]
    rcases hcases with ⟨rfl, rfl⟩ | ⟨out, rfl, hrelease⟩
    · exact ⟨rfl, hempty⟩
    · have hnothing := @staReorderRelease_of_empty _ _ _
        (updateFiltered (markMoveHead rx ssn receivedMpdus).1 ssn
          filtered) _ _ (hsize ▸ hdvd) (hsize ▸ hpos)
        (by intro slot hslot; exact hempty slot (hsize ▸ hslot)) hrelease
      refine ⟨by rw [hnothing.1, List.append_nil], fun slot hslot => ?_⟩
      exact hnothing.2 slot (hsize.symm ▸ hslot)
  have hautoEmpty : after.autoSeq = true →
      ∀ slot < after.bufSize, after.reorderBuf slot = [] := by
    intro hset
    rw [hframe.2] at hset
    exact (hstaysEmpty (markMoveHead_of_empty hpos hle ssn receivedMpdus
      (hal.auto_empty hset))).2
  rcases hal.afterMarkMoveHead ssn receivedMpdus with
    ⟨low, hlow, hin⟩ | ⟨hordered, hempty⟩
  · obtain ⟨low', hin'⟩ : ∃ low',
        ReleasedInOrder rx.headSeqNum low' after frames := by
      rcases hcases with ⟨rfl, rfl⟩ | ⟨out, rfl, hrelease⟩
      · exact ⟨low, hin.congr rfl rfl rfl⟩
      · exact @ReleasedInOrder.afterStaReorderRelease _ _ _
          (updateFiltered (markMoveHead rx ssn receivedMpdus).1 ssn
            filtered) _ _ _ _ _ (hin.congr rfl rfl rfl)
          (by simp only [updateFiltered, hsize]; omega) hrelease
    exact ⟨hin'.orderedRelease,
      hin'.aligned (by omega) (by omega) hautoEmpty, hframe.1⟩
  · obtain ⟨rfl, hempty'⟩ := hstaysEmpty hempty
    refine ⟨orderedRelease_of_empty hordered hempty',
      ⟨?_, by omega, by omega, hautoEmpty⟩, hframe.1⟩
    apply releasedInOrder_of_empty (hframe.1 ▸ hdvd) (by omega)
    intro slot hslot
    rw [hempty' slot hslot]
    rfl

theorem Aligned.afterStep (hal : Aligned rx) {event : ReorderEvent α}
    {after : TidAmpduRx α} {frames : List (RxSkb α)}
    (hstep : reorderStep hz rx event = some (after, frames)) :
    Aligned after ∧ after.bufSize = rx.bufSize := by
  cases event with
  | mpdu skb jiffies =>
      obtain ⟨⟨last, verdict, out⟩, hmanage, heq⟩ :=
        Option.map_eq_some_iff.mp hstep
      cases heq
      exact hal.afterManage hmanage
  | reorderTimer jiffies =>
      obtain ⟨low, hin⟩ := hal.release hstep
      have hframe := staReorderRelease_frame hal.order.dvd
        hal.order.bufSize_pos hstep
      refine ⟨hin.aligned ?_ ?_ ?_, hframe.1⟩
      · rw [hframe.1]
        exact hal.bufSize_ge
      · rw [hframe.1]
        exact hal.bufSize_le
      · intro hauto
        rw [hframe.1]
        rw [hframe.2] at hauto
        exact (staReorderRelease_of_empty hal.order.dvd hal.order.bufSize_pos
          (hal.auto_empty hauto) hstep).2
  | markFiltered ssn filtered receivedMpdus jiffies =>
      exact (hal.mark hstep).2

end Steps

theorem FreshSession.aligned {rx : TidAmpduRx α} (hfresh : FreshSession rx)
    (hge : 2 ≤ rx.bufSize) (hdvd : rx.bufSize ∣ 4096) : Aligned rx := by
  refine ⟨?_, hge, hfresh.bufSize_le, fun _ slot _ => by rw [hfresh.empty]⟩
  apply releasedInOrder_of_empty hdvd hfresh.bufSize_le
  intro slot _
  rw [hfresh.empty]
  rfl

theorem Aligned.duplicate_stored {hz jiffies : ℕ} {rx after : TidAmpduRx α}
    {skb : RxSkb α} {frames : List (RxSkb α)} (hal : Aligned rx)
    (hmanage : ieee80211StaManageReorderBuf hz jiffies rx skb =
      some (after, .alreadyStored, frames)) :
    after.reorderBufFiltered.getLsbD (skb.slot after) = true ∨
      ∃ g ∈ after.reorderBuf (skb.slot after), g.sn = skb.sn := by
  have hle := hal.bufSize_le
  cases manageReorderBuf_managed hal.order.bufSize_pos hle hmanage with
  | inWindow hless hplaced =>
      cases hplaced with
      | duplicate hready =>
          rw [ready_eq, Bool.or_eq_true] at hready
          refine hready.imp_right fun htail => ?_
          obtain ⟨hlower, hupper, _, _⟩ := hal.frame_in_window hless
          have hin := hal.afterMove hless
          rcases hin.slots _ (skb.slot_lt hin.bufSize_pos) with
            hnil | ⟨g, hqueue, _, hown, hfrom, hto⟩
          · exact absurd hnil (tailComplete_completing htail)
          · refine ⟨g, ?_, ?_⟩
            · have hmem : g ∈ completingFrames
                  ((movedFor rx skb).reorderBuf
                    (skb.slot (movedFor rx skb))) := by
                simp [hqueue]
              exact List.mem_of_mem_filter hmem
            · have hg := g.offset_mod (startedBy rx skb).headSeqNum
              have hskb := skb.offset_mod (startedBy rx skb).headSeqNum
              have hslot : ((startedBy rx skb).headSeqNum +
                  g.offset (startedBy rx skb).headSeqNum) %
                    (movedFor rx skb).bufSize =
                  ((startedBy rx skb).headSeqNum +
                    skb.offset (startedBy rx skb).headSeqNum) %
                    (movedFor rx skb).bufSize := by
                rw [slot_congr hin.dvd hg, slot_congr hin.dvd hskb]
                exact hown
              have hsize := movedFor_bufSize rx skb
              have hposition := @SlotRing.position_unique
                (movedFor rx skb).bufSize
                ((startedBy rx skb).headSeqNum + frameShift rx skb) _ _
                (by omega) (by omega) (by omega) (by omega) hslot
              have hlt := g.sn_lt
              have hlt' := skb.sn_lt
              omega

theorem windowMoved_eq {rx : TidAmpduRx α} {skb : RxSkb α}
    (hpos : 0 < rx.bufSize) (hsize : rx.bufSize ≤ 1024)
    (hless :
      ieee80211SnLess skb.sn (startedBy rx skb).headSeqNum = false) :
    windowMoved rx skb = movedFor rx skb := by
  rw [windowMoved, moveWindow_startedBy hpos hsize hless, movedFor]

theorem slots_distinct_of_dvd {bufSize head sn sn' : ℕ}
    (hdvd : bufSize ∣ 4096) (hsn : sn < 4096) (hsn' : sn' < 4096)
    (hwindow : ieee80211SnSub sn head < bufSize)
    (hwindow' : ieee80211SnSub sn' head < bufSize)
    (hslot : sn % bufSize = sn' % bufSize) : sn = sn' := by
  have hmod := add_snSub_mod sn head
  have hmod' := add_snSub_mod sn' head
  have hoffset := @SlotRing.offset_unique _ head _ _ hwindow hwindow' (by
    rw [← Nat.mod_mod_of_dvd _ hdvd, hmod, Nat.mod_mod_of_dvd _ hdvd, hslot,
      ← Nat.mod_mod_of_dvd (head + _) hdvd, hmod',
      Nat.mod_mod_of_dvd _ hdvd])
  omega

theorem slotAssignment_of_dvd (hz : ℕ) {rx₀ : TidAmpduRx α}
    (hfresh : FreshSession rx₀) (hge : 2 ≤ rx₀.bufSize)
    (hdvd : rx₀.bufSize ∣ 4096) : SlotAssignment hz rx₀ := by
  have hreaches : ∀ rx, SessionReaches hz rx₀ rx →
      Aligned rx ∧ rx.bufSize = rx₀.bufSize := by
    intro rx hreach
    refine @Reachable.invariant _ _ _ _ _ _
      (fun rx => Aligned rx ∧ rx.bufSize = rx₀.bufSize)
      ⟨hfresh.aligned hge hdvd, rfl⟩ ?_ _ hreach
    intro state event after output hgood _ hstep
    have hnext := hgood.1.afterStep hstep
    exact ⟨hnext.1, hnext.2.trans hgood.2⟩
  constructor
  · intro rx skb hreach hless
    obtain ⟨hal, hsize⟩ := hreaches rx hreach
    rw [windowMoved_eq hal.order.bufSize_pos hal.bufSize_le hless, ← hsize]
    exact (hal.frame_in_window hless).moved
  · intro rx skb _ _ sn hsn sn' hsn' hwindow hwindow' hslot
    exact slots_distinct_of_dvd hdvd hsn hsn' hwindow hwindow' hslot
  · intro rx skb jiffies after frames hreach hmanage
    exact (hreaches rx hreach).1.duplicate_stored hmanage
  · intro rx skb jiffies after verdict frames hreach hmanage
    obtain ⟨low, hin⟩ := (hreaches rx hreach).1.manage hmanage
    exact hin.orderedRelease
  · intro rx jiffies after frames hreach hrelease
    obtain ⟨low, hin⟩ := (hreaches rx hreach).1.release hrelease
    exact hin.orderedRelease
  · intro rx ssn filtered receivedMpdus jiffies after frames hreach _ hmark
    exact ((hreaches rx hreach).1.mark hmark).1

/-! ## Other sizes -/

/-- A started session with an empty buffer and its head at `head`. -/
structure EmptyAt (rx₀ : TidAmpduRx α) (head : ℕ) (rx : TidAmpduRx α) :
    Prop where
  bufSize_eq : rx.bufSize = rx₀.bufSize
  started : rx.started = true
  autoSeq : rx.autoSeq = false
  unmarked : rx.reorderBufFiltered = 0
  empty : rx.reorderBuf = fun _ => []
  stored : rx.storedMpduNum = 0
  head_eq : rx.headSeqNum = head

section Reach

variable {hz : ℕ} {rx₀ rx : TidAmpduRx α}

theorem reorderStep_next (hpos : 0 < rx.bufSize) (hsize : rx.bufSize ≤ 1024)
    (hunmarked : rx.reorderBufFiltered = 0)
    (hempty : rx.reorderBuf = fun _ => []) (hstored : rx.storedMpduNum = 0)
    (skb : RxSkb α) (hmore : skb.amsduMore = false)
    (hnext : skb.sn = (pickAutoSeq rx skb.sn).headSeqNum) :
    ∃ after, reorderStep hz rx (.mpdu skb 0) = some (after, [skb]) ∧
      EmptyAt rx (ieee80211SnInc skb.sn) after := by
  have hhead : (startedBy rx skb).headSeqNum = skb.sn := hnext.symm
  have hless :
      ieee80211SnLess skb.sn (startedBy rx skb).headSeqNum = false := by
    simp [hhead, ieee80211SnLess]
  have hsub : ieee80211SnSub skb.sn (startedBy rx skb).headSeqNum = 0 := by
    simp [hhead, ieee80211SnSub]
  have hmove : moveWindow (startedBy rx skb) skb.sn =
      (startedBy rx skb, []) := by
    rw [moveWindow_startedBy hpos hsize hless]
    have hshift : frameShift rx skb = 0 := by
      rw [frameShift, windowShift, hsub, if_neg (by omega)]
      omega
    rw [hshift, releaseHeads_zero]
  have hready : ieee80211RxReorderReady (startedBy rx skb)
      (skb.sn % (startedBy rx skb).bufSize) = false := by
    simp [ready_eq, startedBy, hunmarked, hempty]
  have hplace : placeFrame hz 0 (startedBy rx skb) skb =
      some (passDirectly (startedBy rx skb) skb, .handOn, []) := by
    rw [placeFrame, hready]
    simp [startedBy, ← hnext, hstored]
  refine ⟨passDirectly (startedBy rx skb) skb, ?_, ?_⟩
  · rw [reorderStep, manageReorderBuf_inWindow hless, hmove, hplace]
    rfl
  · refine ⟨?_, rfl, ?_, ?_, ?_, ?_, ?_⟩ <;>
      simp [passDirectly, startedBy, hunmarked, hempty, hstored, hmore,
        ← hnext]

theorem exists_emptyAt [Inhabited α] (hgranted : FreshSession rx₀) {head : ℕ}
    (hhead : head < 4096) :
    ∃ rx, SessionReaches hz rx₀ rx ∧ EmptyAt rx₀ head rx := by
  have hframe : ∀ sn < 4096,
      (unfragmented sn false (default : α)).sn = sn :=
    fun sn hsn => unfragmented_sn hsn _ _
  -- the first frame: with auto_seq the head is picked from it
  obtain ⟨first, hfirst, hstart⟩ : ∃ sn, sn < 4096 ∧
      sn = (pickAutoSeq rx₀ sn).headSeqNum := by
    by_cases hauto : rx₀.autoSeq = true
    · exact ⟨0, by norm_num, by simp [pickAutoSeq, hauto]⟩
    · exact ⟨rx₀.headSeqNum, hgranted.head_lt, by simp [pickAutoSeq, hauto]⟩
  have hall : ∀ n, ∃ rx, SessionReaches hz rx₀ rx ∧
      EmptyAt rx₀ ((first + 1 + n) % 4096) rx := by
    intro n
    induction n with
    | zero =>
        obtain ⟨after, hstep, hat⟩ := @reorderStep_next α hz rx₀
          hgranted.bufSize_pos hgranted.bufSize_le hgranted.filtered hgranted.empty
          hgranted.stored (unfragmented first false default) rfl
          (by rw [hframe first hfirst]; exact hstart)
        refine ⟨after, SessionReaches.afterMpdu .start hstep, ?_⟩
        rw [hframe first hfirst] at hat
        exact hat
    | succ n ih =>
        obtain ⟨rx, hreach, hat⟩ := ih
        have hlt : (first + 1 + n) % 4096 < 4096 := Nat.mod_lt _ (by norm_num)
        obtain ⟨after, hstep, hat'⟩ := @reorderStep_next α hz rx
          (by rw [hat.bufSize_eq]; exact hgranted.bufSize_pos)
          (by rw [hat.bufSize_eq]; exact hgranted.bufSize_le)
          hat.unmarked hat.empty hat.stored
          (unfragmented ((first + 1 + n) % 4096) false default) rfl
          (by
            rw [hframe _ hlt, pickAutoSeq_of_not_auto _ hat.autoSeq,
              hat.head_eq])
        refine ⟨after, hreach.afterMpdu hstep, ?_⟩
        rw [hframe _ hlt] at hat'
        have hinc : ieee80211SnInc ((first + 1 + n) % 4096) =
            (first + 1 + (n + 1)) % 4096 := by
          rw [ieee80211SnInc, ieee80211SnAdd]
          omega
        rw [hinc] at hat'
        exact ⟨hat'.bufSize_eq.trans hat.bufSize_eq, hat'.started,
          hat'.autoSeq, hat'.unmarked, hat'.empty, hat'.stored, hat'.head_eq⟩
  obtain ⟨rx, hreach, hat⟩ := hall (head + 4096 - (first + 1))
  have heq : (first + 1 + (head + 4096 - (first + 1))) % 4096 = head := by
    omega
  rw [heq] at hat
  exact ⟨rx, hreach, hat⟩

theorem EmptyAt.windowMoved_headSeqNum {head : ℕ}
    (hat : EmptyAt rx₀ head rx) (hpos : 0 < rx₀.bufSize)
    (hsize : rx₀.bufSize ≤ 1024) (skb : RxSkb α)
    (hless : ieee80211SnLess skb.sn head = false)
    (hshift : windowShift rx₀.bufSize (ieee80211SnSub skb.sn head) = 0) :
    ieee80211SnLess skb.sn (startedBy rx skb).headSeqNum = false ∧
      (windowMoved rx skb).headSeqNum = head := by
  have hhead : (startedBy rx skb).headSeqNum = head := by
    rw [startedBy, pickAutoSeq_of_not_auto _ hat.autoSeq]
    exact hat.head_eq
  have hbufSize := hat.bufSize_eq
  have hless' :
      ieee80211SnLess skb.sn (startedBy rx skb).headSeqNum = false := by
    rw [hhead]
    exact hless
  refine ⟨hless', ?_⟩
  rw [windowMoved_eq (by omega) (by omega) hless', movedFor, frameShift,
    hbufSize, hhead, hshift, releaseHeads_zero, hhead]

end Reach

end IwlwifiStack
