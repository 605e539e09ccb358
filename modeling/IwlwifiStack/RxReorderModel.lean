import IwlwifiStack.SequenceNumber
import IwlwifiStack.ConditionedRun
import Mathlib.Data.BitVec

/-!
# The RX reorder buffer of mac80211

The block-ack reorder buffer of `mac80211/rx.c`, function by function.  A
queue is the list of its frames, oldest first; `reorder_buf` and
`reorder_time` are functions of the slot index, which the code only ever
reduces modulo `buf_size`.  `u16` fields are natural numbers that wrap where
the code writes them.  `jiffies` is a natural number, so `time_after` is the
strict order.

`reorder_buf_filtered` has 64 bits.  The shift of `BIT_ULL` is undefined in C
for a slot from 64 on, where `BitVec.twoPow` is zero; while no bit is set no
function below reads the shift, so a session with more slots is modelled as
long as the driver marks no frames in it.

A frame carries a payload of arbitrary type: no function below looks at it.
Functions that append to the `frames` queue return what they append.
-/

namespace IwlwifiStack

/-- The parts of an `sk_buff` the reorder code reads: the sequence control
field of the header, `RX_FLAG_AMSDU_MORE` and `IEEE80211_RX_DEFERRED_RELEASE`
of its receive status. -/
structure RxSkb (α : Type*) where
  seqCtrl : ℕ
  amsduMore : Bool
  deferredRelease : Bool := false
  data : α
  deriving DecidableEq, Repr

def RxSkb.sn {α : Type*} (skb : RxSkb α) : ℕ :=
  ieee80211GetSn skb.seqCtrl

/-- Release out of the buffer sets `IEEE80211_RX_DEFERRED_RELEASE`. -/
def RxSkb.deferRelease {α : Type*} (skb : RxSkb α) : RxSkb α :=
  { skb with deferredRelease := true }

/-- An unfragmented MPDU, or A-MSDU subframe, with sequence number `sn`. -/
def unfragmented {α : Type*} (sn : ℕ) (amsduMore : Bool) (data : α) :
    RxSkb α where
  seqCtrl := 16 * sn
  amsduMore := amsduMore
  data := data

theorem unfragmented_sn {α : Type*} {sn : ℕ} (hsn : sn < 4096)
    (amsduMore : Bool) (data : α) :
    (unfragmented sn amsduMore data).sn = sn := by
  simp only [RxSkb.sn, ieee80211GetSn, unfragmented]
  omega

/-- `struct tid_ampdu_rx`; `reorderTimer` holds the expiry of an armed timer. -/
structure TidAmpduRx (α : Type*) where
  reorderBufFiltered : BitVec 64
  reorderBuf : ℕ → List (RxSkb α)
  reorderTime : ℕ → ℕ
  reorderTimer : Option ℕ
  headSeqNum : ℕ
  storedMpduNum : ℕ
  ssn : ℕ
  bufSize : ℕ
  timeout : ℕ
  tid : ℕ
  autoSeq : Bool
  removed : Bool
  started : Bool

section Model

variable {α : Type*}

/-- The last frame of the queue is there and no further A-MSDU subframe is
announced after it. -/
def tailComplete (queue : List (RxSkb α)) : Bool :=
  match queue.getLast? with
  | none => false
  | some tail => !tail.amsduMore

def ieee80211RxReorderReady (rx : TidAmpduRx α) (index : ℕ) : Bool :=
  if rx.reorderBufFiltered ≠ 0 &&
      rx.reorderBufFiltered &&& BitVec.twoPow 64 index ≠ 0 then
    true
  else
    tailComplete (rx.reorderBuf index)

/-- Empty one slot: its frames are released if it is ready, else purged. -/
def releaseSlot (rx : TidAmpduRx α) (index : ℕ) :
    TidAmpduRx α × List (RxSkb α) :=
  let skbList := rx.reorderBuf index
  if skbList.isEmpty then
    (rx, [])
  else if !ieee80211RxReorderReady rx index then
    ({ rx with reorderBuf := Function.update rx.reorderBuf index [] }, [])
  else
    ({ rx with
        storedMpduNum := (rx.storedMpduNum + 65535) % 65536
        reorderBuf := Function.update rx.reorderBuf index [] },
      skbList.map RxSkb.deferRelease)

def ieee80211ReleaseReorderFrame (rx : TidAmpduRx α) (index : ℕ) :
    TidAmpduRx α × List (RxSkb α) :=
  let released := releaseSlot rx index
  -- no_frame:
  ({ released.1 with
      reorderBufFiltered :=
        if released.1.reorderBufFiltered ≠ 0 then
          released.1.reorderBufFiltered &&& ~~~(BitVec.twoPow 64 index)
        else
          released.1.reorderBufFiltered
      headSeqNum := ieee80211SnInc released.1.headSeqNum },
    released.2)

def releaseReorderFramesLoop (headSeqNum : ℕ) :
    ℕ → TidAmpduRx α → TidAmpduRx α × List (RxSkb α)
  | 0, rx => (rx, [])
  | fuel + 1, rx =>
      if ieee80211SnLess rx.headSeqNum headSeqNum then
        let index := rx.headSeqNum % rx.bufSize
        let first := ieee80211ReleaseReorderFrame rx index
        let rest := releaseReorderFramesLoop headSeqNum fuel first.1
        (rest.1, first.2 ++ rest.2)
      else
        (rx, [])

/-- The head is behind its target by less than half the sequence space when
the loop runs, so 2048 rounds always suffice. -/
def ieee80211ReleaseReorderFrames (rx : TidAmpduRx α) (headSeqNum : ℕ) :
    TidAmpduRx α × List (RxSkb α) :=
  releaseReorderFramesLoop headSeqNum 2048 rx

/-- `HT_RX_REORDER_BUF_TIMEOUT`. -/
def htRxReorderBufTimeout (hz : ℕ) : ℕ :=
  hz / 10

def timeAfter (a b : ℕ) : Bool :=
  decide (b < a)

/-- The inner loop of the timeout scan: purge the slots from `i` up to, not
including, `j`. -/
def purgeSlots (bufSize j : ℕ) :
    ℕ → ℕ → (ℕ → List (RxSkb α)) → (ℕ → List (RxSkb α))
  | 0, _, buf => buf
  | fuel + 1, i, buf =>
      if i = j then
        buf
      else
        purgeSlots bufSize j fuel ((i + 1) % bufSize)
          (Function.update buf i [])

-- don't leave incomplete A-MSDUs around
def purgeSkipped (index j : ℕ) (rx : TidAmpduRx α) : TidAmpduRx α :=
  { rx with
    reorderBuf := purgeSlots rx.bufSize j rx.bufSize
      ((index + 1) % rx.bufSize) rx.reorderBuf }

/-- The body of the timeout scan for a slot it releases: purge the slots after
`index`, release `j`, move the head over the skipped slots too. -/
def timeoutRelease (index j skipped : ℕ) (rx : TidAmpduRx α) :
    TidAmpduRx α × List (RxSkb α) :=
  let purged := purgeSkipped index j rx
  let released := ieee80211ReleaseReorderFrame purged j
  ({ released.1 with
      headSeqNum := (released.1.headSeqNum + skipped) % 4096 },
    released.2)

/-- The timeout scan of `ieee80211_sta_reorder_release`.  The last component
is the slot with which the code jumps to `set_release_timer`, if it does. -/
def timeoutScan (hz jiffies index : ℕ) :
    ℕ → ℕ → ℕ → TidAmpduRx α →
      TidAmpduRx α × List (RxSkb α) × Option ℕ
  | 0, _, _, rx => (rx, [], none)
  | fuel + 1, j, skipped, rx =>
      if j = index then
        (rx, [], none)
      else if !ieee80211RxReorderReady rx j then
        timeoutScan hz jiffies index fuel ((j + 1) % rx.bufSize)
          (skipped + 1) rx
      else if skipped ≠ 0 &&
          !timeAfter jiffies (rx.reorderTime j + htRxReorderBufTimeout hz) then
        (rx, [], some j)
      else
        let first := timeoutRelease index j skipped rx
        let rest := timeoutScan hz jiffies index fuel
          ((j + 1) % rx.bufSize) 0 first.1
        (rest.1, first.2 ++ rest.2.1, rest.2.2)

/-- The in-order loop of `ieee80211_sta_reorder_release`.  Each round empties
a ready slot, so `buf_size` rounds always suffice. -/
def releaseReadyFrames :
    ℕ → TidAmpduRx α → TidAmpduRx α × List (RxSkb α)
  | 0, rx => (rx, [])
  | fuel + 1, rx =>
      let index := rx.headSeqNum % rx.bufSize
      if ieee80211RxReorderReady rx index then
        let first := ieee80211ReleaseReorderFrame rx index
        let rest := releaseReadyFrames fuel first.1
        (rest.1, first.2 ++ rest.2)
      else
        (rx, [])

/-- The search for the slot of the next release timer.  `buf_size` rounds look
at every slot, so running out of fuel means that the loop goes round for
ever. -/
def nextTimerSlot (rx : TidAmpduRx α) (stop : ℤ) : ℕ → ℕ → Option ℕ
  | 0, _ => none
  | fuel + 1, j =>
      if (j : ℤ) = stop then
        some j
      else if ieee80211RxReorderReady rx j then
        some j
      else
        nextTimerSlot rx stop fuel ((j + 1) % rx.bufSize)

def setReleaseTimer (hz : ℕ) (rx : TidAmpduRx α) (j : ℕ) : TidAmpduRx α :=
  if rx.removed then
    rx
  else
    { rx with
      reorderTimer :=
        some (rx.reorderTime j + 1 + htRxReorderBufTimeout hz) }

/-- `ieee80211_sta_reorder_release` up to the timer: the timeout scan or the
in-order run. -/
def releaseScan (hz jiffies : ℕ) (rx : TidAmpduRx α) :
    TidAmpduRx α × List (RxSkb α) × Option ℕ :=
  let index := rx.headSeqNum % rx.bufSize
  if !ieee80211RxReorderReady rx index && rx.storedMpduNum ≠ 0 then
    timeoutScan hz jiffies index rx.bufSize ((index + 1) % rx.bufSize) 1 rx
  else
    let released := releaseReadyFrames rx.bufSize rx
    (released.1, released.2, none)

/-- The end of `ieee80211_sta_reorder_release`, where the scan did not choose
the timer's slot; `none` when the search for a slot never ends. -/
def rearmReorderTimer (hz : ℕ) (rx : TidAmpduRx α) : Option (TidAmpduRx α) :=
  if rx.storedMpduNum ≠ 0 then
    let index := rx.headSeqNum % rx.bufSize
    -- `%` of the C `int` index - 1: negative for index 0
    let stop := ((index : ℤ) - 1).tmod rx.bufSize
    (nextTimerSlot rx stop rx.bufSize index).map (setReleaseTimer hz rx)
  else
    some { rx with reorderTimer := none }

def ieee80211StaReorderRelease (hz jiffies : ℕ) (rx : TidAmpduRx α) :
    Option (TidAmpduRx α × List (RxSkb α)) :=
  match releaseScan hz jiffies rx with
  | (rx, frames, some j) => some (setReleaseTimer hz rx j, frames)
  | (rx, frames, none) =>
      (rearmReorderTimer hz rx).map fun rx => (rx, frames)

/-- What became of the frame given to `ieee80211_sta_manage_reorder_buf`:
`handOn` is the return value `false`, the others are `true`. -/
inductive ReorderVerdict
  | handOn
  | outOfDate
  | alreadyStored
  | stored
  deriving DecidableEq, Repr

/-- Offloaded BA sessions pick the first received frame's number as start. -/
def pickAutoSeq (rx : TidAmpduRx α) (mpduSeqNum : ℕ) : TidAmpduRx α :=
  if rx.autoSeq then
    { rx with autoSeq := false, ssn := mpduSeqNum, headSeqNum := mpduSeqNum }
  else
    rx

/-- The window move: a frame beyond the window releases the frames in front
of the window that has it as its last position. -/
def moveWindow (rx : TidAmpduRx α) (mpduSeqNum : ℕ) :
    TidAmpduRx α × List (RxSkb α) :=
  if !ieee80211SnLess mpduSeqNum ((rx.headSeqNum + rx.bufSize) % 65536) then
    ieee80211ReleaseReorderFrames rx
      (ieee80211SnInc (ieee80211SnSub mpduSeqNum rx.bufSize))
  else
    (rx, [])

def storeFrame (rx : TidAmpduRx α) (index : ℕ) (skb : RxSkb α) :
    TidAmpduRx α :=
  { rx with
    reorderBuf := Function.update rx.reorderBuf index
      (rx.reorderBuf index ++ [skb]) }

/-- The bookkeeping for a frame that completes its MPDU. -/
def countFrame (rx : TidAmpduRx α) (index jiffies : ℕ) : TidAmpduRx α :=
  { rx with
    reorderTime := Function.update rx.reorderTime index jiffies
    storedMpduNum := (rx.storedMpduNum + 1) % 65536 }

/-- The next expected frame meets an empty buffer and is not buffered; an
A-MSDU subframe moves the head only when it is the last one. -/
def passDirectly (rx : TidAmpduRx α) (skb : RxSkb α) : TidAmpduRx α :=
  { rx with
    headSeqNum :=
      if skb.amsduMore then rx.headSeqNum
      else ieee80211SnInc rx.headSeqNum }

/-- The frame is in the window: drop it, pass it on, or store it. -/
def placeFrame (hz jiffies : ℕ) (rx : TidAmpduRx α) (skb : RxSkb α) :
    Option (TidAmpduRx α × ReorderVerdict × List (RxSkb α)) :=
  let index := skb.sn % rx.bufSize
  if ieee80211RxReorderReady rx index then
    some (rx, .alreadyStored, [])
  else if skb.sn = rx.headSeqNum && rx.storedMpduNum = 0 then
    some (passDirectly rx skb, .handOn, [])
  else if skb.amsduMore then
    some (storeFrame rx index skb, .stored, [])
  else
    (ieee80211StaReorderRelease hz jiffies
      (countFrame (storeFrame rx index skb) index jiffies)).map fun next =>
        (next.1, .stored, next.2)

def ieee80211StaManageReorderBuf (hz jiffies : ℕ) (rx : TidAmpduRx α)
    (skb : RxSkb α) :
    Option (TidAmpduRx α × ReorderVerdict × List (RxSkb α)) :=
  let picked := pickAutoSeq rx skb.sn
  if !picked.started && ieee80211SnLess skb.sn picked.headSeqNum then
    some (picked, .handOn, [])
  else
    let rx := { picked with started := true }
    if ieee80211SnLess skb.sn rx.headSeqNum then
      some (rx, .outOfDate, [])
    else
      let moved := moveWindow rx skb.sn
      (placeFrame hz jiffies moved.1 skb).map fun placed =>
        (placed.1, placed.2.1, moved.2 ++ placed.2.2)

/-- The bitmap loop of `ieee80211_mark_rx_ba_filtered_frames`, which is
documented to work for at most 64 slots. -/
def markFiltered (bufSize ssn : ℕ) (filtered : BitVec 64)
    (bitmap : BitVec 64) : BitVec 64 :=
  (List.range bufSize).foldl
    (fun bitmap i =>
      let index := (ssn + i) % bufSize
      let cleared := bitmap &&& ~~~(BitVec.twoPow 64 index)
      if filtered &&& BitVec.twoPow 64 i ≠ 0 then
        cleared ||| BitVec.twoPow 64 index
      else
        cleared)
    bitmap

/-- The head moves of `ieee80211_mark_rx_ba_filtered_frames`, before it looks
at the bitmap. -/
def markMoveHead (rx : TidAmpduRx α) (ssn receivedMpdus : ℕ) :
    TidAmpduRx α × List (RxSkb α) :=
  if receivedMpdus ≥ 2048 then
    let released := ieee80211ReleaseReorderFrames rx
      ((rx.headSeqNum + rx.bufSize) % 4096)
    ({ released.1 with headSeqNum := ssn }, released.2)
  else
    ieee80211ReleaseReorderFrames rx ssn

/-- The bitmap update of `ieee80211_mark_rx_ba_filtered_frames`: a received
`ssn` behind the head gives up the bits before the head. -/
def updateFiltered (rx : TidAmpduRx α) (ssn : ℕ) (filtered : BitVec 64) :
    TidAmpduRx α :=
  let diff := ieee80211SnSub rx.headSeqNum ssn
  { rx with
    reorderBufFiltered :=
      markFiltered rx.bufSize ((ssn + diff) % 65536) (filtered >>> diff)
        rx.reorderBufFiltered }

def ieee80211MarkRxBaFilteredFrames (hz jiffies : ℕ) (rx : TidAmpduRx α)
    (ssn : ℕ) (filtered : BitVec 64) (receivedMpdus : ℕ) :
    Option (TidAmpduRx α × List (RxSkb α)) :=
  let moved := markMoveHead rx ssn receivedMpdus
  if ieee80211SnSub moved.1.headSeqNum ssn ≥ moved.1.bufSize then
    some ({ moved.1 with reorderBufFiltered := 0 }, moved.2)
  else
    (ieee80211StaReorderRelease hz jiffies
      (updateFiltered moved.1 ssn filtered)).map fun next =>
        (next.1, moved.2 ++ next.2)

/-- Everything that reaches the reorder buffer of one session. -/
inductive ReorderEvent (α : Type*)
  | mpdu (skb : RxSkb α) (jiffies : ℕ)
  | reorderTimer (jiffies : ℕ)
  | markFiltered (ssn : ℕ) (filtered : BitVec 64) (receivedMpdus jiffies : ℕ)

/-- One event; the outputs are the frames handed on, in order: what the
release functions put on `frames`, then the frame itself when it is not
consumed. -/
def reorderStep (hz : ℕ) (rx : TidAmpduRx α) :
    ReorderEvent α → Option (TidAmpduRx α × List (RxSkb α))
  | .mpdu skb jiffies =>
      (ieee80211StaManageReorderBuf hz jiffies rx skb).map fun result =>
        (result.1,
          result.2.2 ++ if result.2.1 = .handOn then [skb] else [])
  | .reorderTimer jiffies => ieee80211StaReorderRelease hz jiffies rx
  | .markFiltered ssn filtered receivedMpdus jiffies =>
      ieee80211MarkRxBaFilteredFrames hz jiffies rx ssn filtered receivedMpdus

end Model

end IwlwifiStack
