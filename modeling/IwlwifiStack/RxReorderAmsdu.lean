import IwlwifiStack.RxReorderStep
import IwlwifiStack.BlockAckSession

/-!
# A-MSDU subframes in the reorder buffer

The subframes of an A-MSDU wait in one slot for the last of them.  As long as
every slot that the head passes is emptied, a slot holds subframes of one
sequence number only.  Two paths pass the head slot without emptying it: the
timeout scan, which purges the slots after the head but not the head itself,
and the fast path, which hands on the next expected frame of an empty buffer.
Sessions without filter marks are considered.
-/

namespace IwlwifiStack

open ConditionedRun

variable {α : Type*}

/-- Every slot holds only subframes of the one sequence number of the current
window that belongs there. -/
def OwnSubframes (rx : TidAmpduRx α) : Prop :=
  ∀ slot < rx.bufSize, ∀ f ∈ rx.reorderBuf slot,
    f.sn % rx.bufSize = slot ∧ f.offset rx.headSeqNum < rx.bufSize

/-- Frames that belong to one A-MSDU have one sequence number: after a frame
with `RX_FLAG_AMSDU_MORE` comes one with the same number. -/
def OneSnPerAmsdu (frames : List (RxSkb α)) : Prop :=
  frames.IsChain fun f g => f.amsduMore = true → f.sn = g.sn

/-- The step passes no slot that still holds subframes: the timeout scan does
not skip the head slot with subframes in it, the fast path does not hand on a
last subframe while others wait in its slot, and the window does move for the
frame. -/
def PassesNoSubframes (hz : ℕ) (rx : TidAmpduRx α) : ReorderEvent α → Prop
  | .mpdu skb jiffies =>
      ieee80211SnLess skb.sn (startedBy rx skb).headSeqNum = false →
        ¬ (rx.bufSize = 1 ∧
          skb.offset (startedBy rx skb).headSeqNum = 2048) ∧
        (skb.sn = (movedFor rx skb).headSeqNum →
          (movedFor rx skb).storedMpduNum = 0 → skb.amsduMore = false →
          (movedFor rx skb).reorderBuf (movedFor rx skb).headSlot = []) ∧
        (Buffers (movedFor rx skb) skb → skb.amsduMore = false →
          timeoutSkipsHead hz jiffies
            (completedBuffer jiffies (movedFor rx skb) skb) →
          (movedFor rx skb).reorderBuf (movedFor rx skb).headSlot = [])
  | .reorderTimer jiffies =>
      timeoutSkipsHead hz jiffies rx → rx.reorderBuf rx.headSlot = []
  | .markFiltered _ _ _ _ => False

structure AmsduSound (rx : TidAmpduRx α) : Prop where
  dvd : rx.bufSize ∣ 4096
  bufSize_le : rx.bufSize ≤ 1024
  unmarked : rx.reorderBufFiltered = 0
  auto_empty : rx.autoSeq = true →
    ∀ slot < rx.bufSize, rx.reorderBuf slot = []
  own : OwnSubframes rx

namespace AmsduSound

variable {rx : TidAmpduRx α} {hz jiffies : ℕ}

theorem bufSize_pos (hsound : AmsduSound rx) : 0 < rx.bufSize :=
  Nat.pos_of_dvd_of_pos hsound.dvd (by norm_num)

theorem slot_eq (hsound : AmsduSound rx) {slot : ℕ} (hslot : slot < rx.bufSize)
    {f : RxSkb α} (hf : f ∈ rx.reorderBuf slot) :
    slot = rx.slotAt (f.offset rx.headSeqNum) := by
  rw [← (hsound.own slot hslot f hf).1, TidAmpduRx.slotAt]
  exact slot_congr hsound.dvd (f.offset_mod _).symm

theorem afterReleaseHeads (hsound : AmsduSound rx) (n : ℕ) :
    AmsduSound (releaseHeads n rx).1 := by
  have hpass : ∀ slot, rx.reorderBuf slot = [] →
      (releaseHeads n rx).1.reorderBuf slot = [] := by
    intro slot hempty
    rw [releaseHeads_reorderBuf hsound.dvd, hempty, ite_self]
  refine ⟨by simpa using hsound.dvd, by simpa using hsound.bufSize_le,
    releaseHeads_unmarked n hsound.unmarked, ?_, ?_⟩
  · intro hauto slot hslot
    rw [releaseHeads_autoSeq] at hauto
    rw [releaseHeads_bufSize] at hslot
    exact hpass slot (hsound.auto_empty hauto slot hslot)
  · intro slot hslot f hf
    rw [releaseHeads_bufSize] at hslot ⊢
    rw [releaseHeads_reorderBuf hsound.dvd] at hf
    split_ifs at hf with hpassed
    · cases hf
    · obtain ⟨hown, hlt⟩ := hsound.own slot hslot f hf
      have hslotAt := hsound.slot_eq hslot hf
      have hahead : n ≤ f.offset rx.headSeqNum := by
        by_contra hbehind
        exact hpassed ⟨_, not_le.mp hbehind, hslotAt⟩
      have hmod := f.offset_mod rx.headSeqNum
      have hhead := releaseHeads_headSeqNum_mod n rx
      have hle := hsound.bufSize_le
      have hoffset : f.offset (releaseHeads n rx).1.headSeqNum =
          f.offset rx.headSeqNum - n :=
        snSub_eq_of_offset (by omega) (by omega)
      exact ⟨hown, by omega⟩

theorem congr {after : TidAmpduRx α} (hsound : AmsduSound rx)
    (hsize : after.bufSize = rx.bufSize)
    (hfiltered : after.reorderBufFiltered = rx.reorderBufFiltered)
    (hauto : after.autoSeq = rx.autoSeq)
    (hhead : after.headSeqNum = rx.headSeqNum)
    (hbuf : after.reorderBuf = rx.reorderBuf) : AmsduSound after := by
  refine ⟨hsize ▸ hsound.dvd, hsize ▸ hsound.bufSize_le,
    hfiltered ▸ hsound.unmarked, ?_, ?_⟩
  · rw [hauto, hsize, hbuf]
    exact hsound.auto_empty
  · rw [OwnSubframes, hsize, hbuf, hhead]
    exact hsound.own

theorem release (hsound : AmsduSound rx) {after : TidAmpduRx α}
    {frames : List (RxSkb α)}
    (hskips : timeoutSkipsHead hz jiffies rx →
      rx.reorderBuf rx.headSlot = [])
    (hrelease : ieee80211StaReorderRelease hz jiffies rx =
      some (after, frames)) :
    AmsduSound after ∧ ∃ n, frames = (releaseHeads n rx).2 := by
  obtain ⟨n, released, timer, _, hstate, rfl, rfl, _⟩ :=
    staReorderRelease_cases hsound.dvd hsound.bufSize_pos hrelease
  refine ⟨?_, n, rfl⟩
  have hreleased : released = (releaseHeads n rx).1 := by
    rcases hstate with ⟨_, rfl⟩ | ⟨hskip, rfl⟩
    · rfl
    · rcases Nat.eq_zero_or_pos n with rfl | hpos
      · simp
      · exact keepSlot_of_empty hsound.dvd n (hskips (hskip (by omega)))
  rw [hreleased]
  exact (hsound.afterReleaseHeads n).congr rfl rfl rfl rfl rfl

theorem same_sn (hsound : AmsduSound rx) {slot : ℕ}
    (hslot : slot < rx.bufSize) {f g : RxSkb α}
    (hf : f ∈ rx.reorderBuf slot) (hg : g ∈ rx.reorderBuf slot) :
    f.sn = g.sn := by
  have hf' := (hsound.own slot hslot f hf).2
  have hg' := (hsound.own slot hslot g hg).2
  have hoffset : f.offset rx.headSeqNum = g.offset rx.headSeqNum :=
    @SlotRing.offset_unique _ rx.headSeqNum _ _ hf' hg'
      ((hsound.slot_eq hslot hf).symm.trans (hsound.slot_eq hslot hg))
  have hmod := f.offset_mod rx.headSeqNum
  have hmod' := g.offset_mod rx.headSeqNum
  have hlt := f.sn_lt
  have hlt' := g.sn_lt
  omega

theorem releaseHeads_oneSn (hsound : AmsduSound rx) (n : ℕ) :
    OneSnPerAmsdu (releaseHeads n rx).2 ∧
      ∀ f ∈ (releaseHeads n rx).2.getLast?, f.amsduMore = false := by
  induction n with
  | zero => exact ⟨List.IsChain.nil, by simp⟩
  | succ n ih =>
      have hhere := hsound.afterReleaseHeads n
      have hslot : (releaseHeads n rx).1.headSlot <
          (releaseHeads n rx).1.bufSize := headSlot_lt hhere.bufSize_pos
      rw [releaseHeads_succ, releaseReorderFrame_frames]
      split_ifs with hready
      · have htail : tailComplete ((releaseHeads n rx).1.reorderBuf
            (releaseHeads n rx).1.headSlot) = true := by
          simpa [ready_eq, hhere.unmarked] using hready
        have hsame : OneSnPerAmsdu (((releaseHeads n rx).1.reorderBuf
            (releaseHeads n rx).1.headSlot).map RxSkb.deferRelease) := by
          rw [OneSnPerAmsdu, List.isChain_map]
          apply List.Pairwise.isChain
          rw [List.pairwise_iff_forall_sublist]
          intro f g hsub _
          change f.sn = g.sn
          exact hhere.same_sn hslot (hsub.subset (by simp))
            (hsub.subset (by simp))
        refine ⟨List.isChain_append.mpr ⟨ih.1, hsame, ?_⟩, ?_⟩
        · intro f hf g _ hmore
          rw [ih.2 f hf] at hmore
          cases hmore
        · obtain ⟨init, tail, hqueue⟩ :=
            (List.eq_nil_or_concat' _).resolve_left (tailComplete_ne_nil htail)
          rw [hqueue, tailComplete_append, Bool.not_eq_true'] at htail
          intro f hf
          rw [hqueue, List.map_append, List.map_singleton, ← List.append_assoc,
            List.getLast?_concat, Option.mem_some_iff] at hf
          rw [← hf]
          exact htail
      · simpa using ih

theorem afterStartedBy (hsound : AmsduSound rx) (skb : RxSkb α) :
    AmsduSound (startedBy rx skb) := by
  by_cases hauto : rx.autoSeq = true
  · have hempty : ∀ slot < rx.bufSize, (startedBy rx skb).reorderBuf slot = [] := by
      intro slot hslot
      simpa [startedBy] using hsound.auto_empty hauto slot hslot
    refine ⟨by simpa using hsound.dvd, by simpa using hsound.bufSize_le,
      by simpa [startedBy] using hsound.unmarked, ?_, ?_⟩
    · simpa using fun _ => hempty
    · intro slot hslot f hf
      rw [startedBy_bufSize] at hslot
      rw [hempty slot hslot] at hf
      cases hf
  · simp only [Bool.not_eq_true] at hauto
    simp only [startedBy, pickAutoSeq_of_not_auto _ hauto]
    exact hsound.congr rfl rfl rfl rfl rfl

theorem store (hsound : AmsduSound rx) {after : TidAmpduRx α} {skb : RxSkb α}
    (hauto : rx.autoSeq = false)
    (hwindow : skb.offset rx.headSeqNum < rx.bufSize)
    (hsize : after.bufSize = rx.bufSize)
    (hfiltered : after.reorderBufFiltered = rx.reorderBufFiltered)
    (hauto' : after.autoSeq = rx.autoSeq)
    (hhead : after.headSeqNum = rx.headSeqNum)
    (hbuf : after.reorderBuf = Function.update rx.reorderBuf (skb.slot rx)
      (rx.reorderBuf (skb.slot rx) ++ [skb])) : AmsduSound after := by
  refine ⟨hsize ▸ hsound.dvd, hsize ▸ hsound.bufSize_le,
    hfiltered ▸ hsound.unmarked, ?_, ?_⟩
  · rw [hauto', hauto]
    exact fun hfalse => absurd hfalse (by decide)
  · intro slot hslot f hf
    rw [hsize] at hslot ⊢
    rw [hbuf, Function.update_apply] at hf
    rw [hhead]
    split_ifs at hf with heq
    · rcases List.mem_append.mp hf with hold | hnew
      · rw [heq]
        exact hsound.own _ (skb.slot_lt hsound.bufSize_pos) f hold
      · rw [List.mem_singleton.mp hnew, heq]
        exact ⟨rfl, hwindow⟩
    · exact hsound.own slot hslot f hf

theorem passHead (hsound : AmsduSound rx)
    (hempty : rx.reorderBuf rx.headSlot = []) {after : TidAmpduRx α}
    (hsize : after.bufSize = rx.bufSize)
    (hfiltered : after.reorderBufFiltered = rx.reorderBufFiltered)
    (hauto : after.autoSeq = rx.autoSeq)
    (hhead : after.headSeqNum = ieee80211SnInc rx.headSeqNum)
    (hbuf : after.reorderBuf = rx.reorderBuf) : AmsduSound after := by
  apply (hsound.afterReleaseHeads 1).congr
  · simpa using hsize
  · have hunmarked := releaseHeads_unmarked 1 hsound.unmarked
    rw [hfiltered, hunmarked, hsound.unmarked]
  · simpa using hauto
  · rw [hhead, releaseHeads_succ, releaseReorderFrame_headSeqNum]
    rfl
  · rw [hbuf, releaseHeads_succ, releaseReorderFrame_reorderBuf,
      releaseHeads_zero, ← hempty, Function.update_eq_self]

theorem afterPlaced (hsound : AmsduSound rx) {skb : RxSkb α}
    {after : TidAmpduRx α} {verdict : ReorderVerdict}
    {frames : List (RxSkb α)} (hauto : rx.autoSeq = false)
    (hwindow : skb.offset rx.headSeqNum < rx.bufSize)
    (hdirect : skb.sn = rx.headSeqNum → rx.storedMpduNum = 0 →
      skb.amsduMore = false → rx.reorderBuf rx.headSlot = [])
    (hskips : Buffers rx skb → skb.amsduMore = false →
      timeoutSkipsHead hz jiffies (completedBuffer jiffies rx skb) →
      rx.reorderBuf rx.headSlot = [])
    (hplaced : Placed hz jiffies rx skb after verdict frames) :
    AmsduSound after ∧ OneSnPerAmsdu frames := by
  cases hplaced with
  | duplicate _ => exact ⟨hsound, List.IsChain.nil⟩
  | direct _ hnext hstored =>
      refine ⟨?_, List.IsChain.nil⟩
      cases hmore : skb.amsduMore with
      | true =>
          exact hsound.congr rfl rfl rfl (by simp [passDirectly, hmore]) rfl
      | false =>
          exact hsound.passHead (hdirect hnext hstored hmore) rfl rfl rfl
            (by simp [passDirectly, hmore]) rfl
  | waiting _ _ =>
      exact ⟨hsound.store hauto hwindow rfl rfl rfl rfl rfl, List.IsChain.nil⟩
  | completed hbuffers hmore hrelease =>
      have hstored : AmsduSound (completedBuffer jiffies rx skb) :=
        hsound.store hauto hwindow rfl rfl rfl rfl rfl
      have hheadSlot : timeoutSkipsHead hz jiffies
          (completedBuffer jiffies rx skb) →
          (completedBuffer jiffies rx skb).reorderBuf
            (completedBuffer jiffies rx skb).headSlot = [] := by
        intro hskip
        have hempty := hskips hbuffers hmore hskip
        have hready := hskip.1
        rw [ready_eq, Bool.or_eq_false_iff] at hready
        -- the head slot is not ready, so it is not the completed one
        have hne : rx.headSlot ≠ skb.slot rx := by
          intro heq
          have htail := hready.2
          change tailComplete (Function.update rx.reorderBuf (skb.slot rx)
            (rx.reorderBuf (skb.slot rx) ++ [skb]) rx.headSlot) = false at htail
          rw [heq, Function.update_self, tailComplete_append, hmore] at htail
          cases htail
        change Function.update rx.reorderBuf (skb.slot rx)
          (rx.reorderBuf (skb.slot rx) ++ [skb]) rx.headSlot = []
        rw [Function.update_of_ne hne]
        exact hempty
      obtain ⟨hafter, n, rfl⟩ := hstored.release hheadSlot hrelease
      exact ⟨hafter, (hstored.releaseHeads_oneSn n).1⟩

theorem afterManage (hsound : AmsduSound rx) {skb : RxSkb α}
    {after : TidAmpduRx α} {verdict : ReorderVerdict}
    {frames : List (RxSkb α)}
    (hpasses : PassesNoSubframes hz rx (.mpdu skb jiffies))
    (hmanage : ieee80211StaManageReorderBuf hz jiffies rx skb =
      some (after, verdict, frames)) :
    AmsduSound after ∧ OneSnPerAmsdu frames := by
  cases manageReorderBuf_managed hsound.bufSize_pos hsound.bufSize_le
      hmanage with
  | early _ _ =>
      exact ⟨(hsound.afterStartedBy skb).congr rfl rfl rfl rfl rfl,
        List.IsChain.nil⟩
  | late _ _ => exact ⟨hsound.afterStartedBy skb, List.IsChain.nil⟩
  | inWindow hless hplaced =>
      obtain ⟨hmoves, hdirect, hskips⟩ := hpasses hless
      have hstart := hsound.afterStartedBy skb
      have hmoved : AmsduSound (movedFor rx skb) :=
        hstart.afterReleaseHeads (frameShift rx skb)
      have hwindow := frameInWindow hsound.bufSize_pos hsound.bufSize_le hless
        hmoves
      obtain ⟨hafter, hchain⟩ := hmoved.afterPlaced (movedFor_autoSeq rx skb)
        (by rw [movedFor_bufSize]; exact hwindow.moved) hdirect hskips hplaced
      obtain ⟨hchain', hlast⟩ :=
        hstart.releaseHeads_oneSn (frameShift rx skb)
      refine ⟨hafter, List.isChain_append.mpr ⟨hchain', hchain, ?_⟩⟩
      intro f hf g _ hmore
      rw [hlast f hf] at hmore
      cases hmore

end AmsduSound

def reorderReleased (hz : ℕ) (rx : TidAmpduRx α) :
    ReorderEvent α → Option (TidAmpduRx α × List (RxSkb α))
  | .mpdu skb jiffies =>
      (ieee80211StaManageReorderBuf hz jiffies rx skb).map fun result =>
        (result.1, result.2.2)
  | event => reorderStep hz rx event

theorem AmsduSound.afterStep {hz : ℕ} {rx after : TidAmpduRx α}
    {event : ReorderEvent α} {frames : List (RxSkb α)}
    (hsound : AmsduSound rx) (hpasses : PassesNoSubframes hz rx event)
    (hstep : reorderReleased hz rx event = some (after, frames)) :
    AmsduSound after ∧ OneSnPerAmsdu frames := by
  cases event with
  | mpdu skb jiffies =>
      obtain ⟨⟨last, verdict, out⟩, hmanage, heq⟩ :=
        Option.map_eq_some_iff.mp hstep
      cases heq
      exact hsound.afterManage hpasses hmanage
  | reorderTimer jiffies =>
      obtain ⟨hafter, n, rfl⟩ := hsound.release hpasses hstep
      exact ⟨hafter, (hsound.releaseHeads_oneSn n).1⟩
  | markFiltered _ _ _ _ => exact hpasses.elim

theorem FreshSession.amsduSound {rx : TidAmpduRx α}
    (hfresh : FreshSession rx) (hdvd : rx.bufSize ∣ 4096) :
    AmsduSound rx := by
  refine ⟨hdvd, hfresh.bufSize_le, hfresh.filtered,
    fun _ slot _ => by rw [hfresh.empty], fun slot _ f hf => ?_⟩
  rw [hfresh.empty] at hf
  cases hf

/-- In every run whose steps pass no slot with subframes in it, every slot of
every state reached holds subframes of its own sequence number only, and what
such a step releases never mixes two sequence numbers in one A-MSDU. -/
theorem subframes_of_one_sn (hz : ℕ) {rx₀ rx : TidAmpduRx α}
    (hgranted : AdmittedSession rx₀) (hdvd : rx₀.bufSize ∣ 4096)
    (hreach : Reachable (reorderStep hz) (PassesNoSubframes hz) rx₀ rx) :
    OwnSubframes rx ∧
      ∀ event after frames, PassesNoSubframes hz rx event →
        reorderReleased hz rx event = some (after, frames) →
        OneSnPerAmsdu frames := by
  have hsound : AmsduSound rx := by
    refine hreach.invariant (hgranted.fresh.amsduSound hdvd) ?_
    intro state event after output hgood hpasses hstep
    have hreleased : ∃ frames,
        reorderReleased hz state event = some (after, frames) := by
      cases event with
      | mpdu skb jiffies =>
          obtain ⟨result, hmanage, heq⟩ := Option.map_eq_some_iff.mp hstep
          cases heq
          exact ⟨result.2.2, by rw [reorderReleased, hmanage]; rfl⟩
      | reorderTimer jiffies => exact ⟨output, hstep⟩
      | markFiltered _ _ _ _ => exact hpasses.elim
    obtain ⟨frames, hstep'⟩ := hreleased
    exact (hgood.afterStep hpasses hstep').1
  exact ⟨hsound.own, fun event after frames hpasses hstep =>
    (hsound.afterStep hpasses hstep).2⟩

instance decidablePassesNoSubframes [DecidableEq α] (hz : ℕ) (rx : TidAmpduRx α) :
    ∀ event, Decidable (PassesNoSubframes hz rx event)
  | .mpdu _ _ => by
      unfold PassesNoSubframes
      infer_instance
  | .reorderTimer _ => by
      unfold PassesNoSubframes
      infer_instance
  | .markFiltered _ _ _ _ => .isFalse id

/-- Both subframes of SN 1 wait for SN 0 and are released behind it. -/
theorem subframes_of_one_sn_pair :
    ∃ (rx after : TidAmpduRx Unit) (frames : List (RxSkb Unit)),
      OwnSubframes rx ∧ (rx.reorderBuf 1).length = 2 ∧
      reorderReleased 100 rx (.mpdu (unfragmented 0 false ()) 0) = some (after, frames) ∧
      frames.map RxSkb.sn = [0, 1, 1] ∧ OneSnPerAmsdu frames := by
  have hresult : (run (guarded (reorderStep 100) (PassesNoSubframes 100))
      (newTidAmpduRx (heRequest 0 2) 2 : TidAmpduRx Unit)
      [.mpdu (unfragmented 1 true ()) 0, .mpdu (unfragmented 1 false ()) 0]).map (fun last =>
        ((last.1.reorderBuf 1).length,
          decide (PassesNoSubframes 100 last.1 (.mpdu (unfragmented 0 false ()) 0)),
          (reorderReleased 100 last.1 (.mpdu (unfragmented 0 false ()) 0)).map fun next =>
            next.2.map RxSkb.sn)) = some (2, true, some [0, 1, 1]) := by
    decide +kernel
  obtain ⟨last, hrun, heq⟩ := Option.map_eq_some_iff.mp hresult
  simp only [Prod.mk.injEq] at heq
  obtain ⟨hlength, hpasses, hreleased⟩ := heq
  obtain ⟨⟨after, frames⟩, hstep, hsns⟩ := Option.map_eq_some_iff.mp hreleased
  have hown := subframes_of_one_sn 100
    (admitted_heRequest (by decide) (by decide) (by decide)) (by decide)
    (reachable_of_guarded .start hrun)
  exact ⟨last.1, after, frames, hown.1, hlength, hstep, hsns,
    hown.2 _ after frames (of_decide_eq_true hpasses) hstep⟩

/-- The first subframe of SN 1 waits in slot 1 when the last one is handed on
past it; SN 3 joins it there, and both are released as one A-MSDU. -/
theorem subframes_of_two_sns :
    ∃ rx out, AdmittedSession
        (newTidAmpduRx (heRequest 0 2) 2 : TidAmpduRx Unit) ∧
      run (reorderStep 100)
        (newTidAmpduRx (heRequest 0 2) 2 : TidAmpduRx Unit)
        [.mpdu (unfragmented 1 true ()) 0, .mpdu (unfragmented 0 false ()) 0,
          .mpdu (unfragmented 1 false ()) 0,
          .mpdu (unfragmented 3 false ()) 0] = some (rx, out) ∧
      ¬ OwnSubframes rx ∧
      ∃ after frames,
        reorderReleased 100 rx (.mpdu (unfragmented 2 false ()) 0) =
          some (after, frames) ∧
        frames.map RxSkb.sn = [2, 1, 3] ∧ ¬ OneSnPerAmsdu frames := by
  have hresult : (run (reorderStep 100)
      (newTidAmpduRx (heRequest 0 2) 2 : TidAmpduRx Unit)
      [.mpdu (unfragmented 1 true ()) 0, .mpdu (unfragmented 0 false ()) 0,
        .mpdu (unfragmented 1 false ()) 0,
        .mpdu (unfragmented 3 false ()) 0]).map (fun last =>
      (last.1.reorderBuf 1, last.1.headSeqNum, last.1.bufSize,
        (reorderReleased 100 last.1
          (.mpdu (unfragmented 2 false ()) 0)).map fun next => next.2)) =
      some ([unfragmented 1 true (), unfragmented 3 false ()], 2, 2,
        some ([unfragmented 2 false (), unfragmented 1 true (),
          unfragmented 3 false ()].map RxSkb.deferRelease)) := by
    decide +kernel
  obtain ⟨⟨rx, out⟩, hrun, heq⟩ := Option.map_eq_some_iff.mp hresult
  simp only [Prod.mk.injEq] at heq
  obtain ⟨hqueue, hhead, hsize, hnext⟩ := heq
  obtain ⟨⟨after, frames⟩, hreleased, rfl⟩ := Option.map_eq_some_iff.mp hnext
  refine ⟨rx, out, admitted_heRequest (by decide) (by decide) (by decide),
    hrun, ?_, after, _, hreleased, by decide, ?_⟩
  · intro hown
    have hstale := (hown 1 (by rw [hsize]; decide) (unfragmented 1 true ())
      (by rw [hqueue]; simp)).2
    rw [hhead, hsize] at hstale
    exact absurd hstale (by decide)
  · intro hone
    simp only [OneSnPerAmsdu, List.map_cons, List.isChain_cons_cons] at hone
    exact absurd (hone.2.1 rfl) (by decide)

end IwlwifiStack
