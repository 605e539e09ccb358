import IwlwifiStack.PsBufferModel

/-!
# Service periods

`ieee80211_sta_ps_deliver_response` with the functions that it calls (`sta_info.c`): the frames
that are taken from the queues of a station, what is set in them, and what the driver is told.
The frames are those of `PsBufferModel` with their contents.
-/

namespace IwlwifiStack

/-- `enum ieee80211_frame_release_type` -/
inductive FrameReleaseType
  | pspoll
  | uapsd
  deriving DecidableEq, Repr

/-- What a service period sets in a frame: More Data and, if there is a QoS header, its EOSP bit,
and flags of the control block. -/
structure SpMarks where
  moreData : Bool
  qosEosp : Option Bool
  txStatusEosp : Bool
  reqTxStatus : Bool
  noPsBuffer : Bool
  psResponse : Bool
  deriving DecidableEq, Repr

/-- A frame of a queue of a station. -/
structure SpFrame (α : Type*) where
  body : α
  priority : ℕ
  marks : SpMarks
  deriving DecidableEq, Repr

/-- A station as its service periods see it. -/
structure SpSta (α : Type*) where
  wme : Bool
  sp : Bool
  driverBufferedTids : ℕ
  txqBufferedTids : ℕ
  txFiltered : PsAc → List (SpFrame α)
  psTxBuf : PsAc → List (SpFrame α)

/-- What one call meets: whether the response without data can be allocated and has a channel
context to be sent on, and the TXQs that exist and are empty after the driver was asked. -/
structure SpEnv where
  allocates : Bool
  hasChanctx : Bool
  txqDrained : ℕ → Bool

/-- What is handed on, in this order. -/
inductive SpAction (α : Type*)
  | allowBufferedFrames (tids numFrames : ℕ) (reason : FrameReleaseType) (moreData : Bool)
  | addPending (frames : List (SpFrame α))
  | xmitNull (tid : ℤ) (marks : SpMarks)
  | releaseBufferedFrames (tids numFrames : ℕ) (reason : FrameReleaseType) (moreData : Bool)
  | recalcTim

variable {α : Type*}

namespace SpSta

def setTxFiltered (sta : SpSta α) (ac : PsAc) (frames : List (SpFrame α)) : SpSta α :=
  { sta with txFiltered := Function.update sta.txFiltered ac frames }

def setPsTxBuf (sta : SpSta α) (ac : PsAc) (frames : List (SpFrame α)) : SpSta α :=
  { sta with psTxBuf := Function.update sta.psTxBuf ac frames }

end SpSta

/-! ## The frames of a period -/

/-- The variables of `ieee80211_sta_ps_get_frames`. -/
structure SpGet (α : Type*) where
  sta : SpSta α
  total : ℤ
  frames : List (SpFrame α)
  driverReleaseTids : ℕ

namespace SpGet

/-- The loop over one access category, with the frames still wanted. -/
def fromAc (ac : PsAc) : ℕ → SpGet α → SpGet α × ℕ
  | 0, get => (get, 0)
  | nFrames + 1, get =>
      match get.sta.txFiltered ac with
      | skb :: rest =>
          fromAc ac nFrames
            { get with
              sta := get.sta.setTxFiltered ac rest
              frames := get.frames ++ [skb] }
      | [] =>
          match get.sta.psTxBuf ac with
          | skb :: rest =>
              fromAc ac nFrames
                { get with
                  sta := get.sta.setPsTxBuf ac rest
                  total := get.total - 1
                  frames := get.frames ++ [skb] }
          | [] => (get, nFrames + 1)

/-- The TIDs of an access category are collected while no frame comes from software. -/
def collectTids (get : SpGet α) (ac : PsAc) : SpGet α :=
  if get.frames.isEmpty then
    { get with
      driverReleaseTids := get.driverReleaseTids |||
        get.sta.driverBufferedTids &&& tidsForAc ac |||
        get.sta.txqBufferedTids &&& tidsForAc ac }
  else get

/-- `ieee80211_sta_ps_get_frames` over the access categories left. -/
def fromAcs (ignoredAcs : ℕ) : List PsAc → ℕ → SpGet α → SpGet α
  | [], _, get => get
  | ac :: acs, nFrames, get =>
      if ignoredAcs &&& acToQosMask ac ≠ 0 then
        fromAcs ignoredAcs acs nFrames get
      else
        let get := get.collectTids ac
        let got :=
          if get.driverReleaseTids = 0 then fromAc ac nFrames get
          else (get, nFrames)
        if got.1.sta.txFiltered ac ≠ [] ∨ got.1.sta.psTxBuf ac ≠ [] then got.1
        else fromAcs ignoredAcs acs got.2 got.1

end SpGet

/-- `hweight16` of a bitmap of TIDs -/
def hweight16Tids (word : ℕ) : ℕ :=
  (List.range 16).countP fun bit => word.testBit bit

/-- `ieee80211_sta_ps_more_data` -/
def SpSta.moreData (sta : SpSta α) (ignoredAcs : ℕ) (reason : FrameReleaseType)
    (driverReleaseTids : ℕ) : Bool :=
  (reason = .pspoll && hweight16Tids driverReleaseTids > 1) ||
    (List.finRange 4).any fun ac =>
      ignoredAcs &&& acToQosMask ac = 0 &&
        (!(sta.txFiltered ac).isEmpty || !(sta.psTxBuf ac).isEmpty)

/-- `find_highest_prio_tid`, of a bitmap that is not empty. -/
def findHighestPrioTid (tids : ℕ) : ℕ :=
  if tids &&& 0xf8 ≠ 0 then Nat.log2 tids
  else if tids &&& 1 ≠ 0 then 0
  else Nat.log2 tids

/-! ## What is set in them -/

/-- `ieee80211_send_null_response` -/
def SpSta.sendNullResponse (sta : SpSta α) (env : SpEnv) (tid : ℤ) (reason : FrameReleaseType)
    (callDriver moreData : Bool) : List (SpAction α) :=
  if !env.allocates then []
  else
    (if callDriver then [.allowBufferedFrames (2 ^ tid.toNat) 1 reason false] else []) ++
      (if env.hasChanctx then
        [.xmitNull tid
          { moreData := sta.wme && reason = .uapsd && moreData
            qosEosp := if sta.wme then some (reason = .uapsd) else none
            txStatusEosp := true
            reqTxStatus := true
            noPsBuffer := true
            psResponse := true }]
      else [])

/-- The local variables of the loop over the frames that come from software. -/
structure SpDelivery (α : Type*) where
  pending : List (SpFrame α) := []
  num : ℕ := 0
  tids : ℕ := 0
  needNull : Bool := false

/-- That loop. -/
def deliverFrames (reason : FrameReleaseType) (moreData : Bool) :
    List (SpFrame α) → SpDelivery α → SpDelivery α
  | [], delivery => delivery
  | skb :: frames, delivery =>
      let marks :=
        { skb.marks with
          noPsBuffer := true
          psResponse := true
          moreData := moreData || !frames.isEmpty }
      let num := delivery.num + 1
      let tids := (delivery.tids ||| 2 ^ skb.priority) % 2 ^ 16
      if !frames.isEmpty then
        deliverFrames reason moreData frames
          { delivery with
            pending := delivery.pending ++ [{ skb with marks := marks }]
            num := num
            tids := tids }
      else if reason ≠ .uapsd then
        { pending := delivery.pending ++
            [{ skb with marks := { marks with txStatusEosp := true, reqTxStatus := true } }]
          num := num
          tids := tids }
      else
        match marks.qosEosp with
        | some _ =>
            { pending := delivery.pending ++
                [{ skb with
                  marks :=
                    { marks with qosEosp := some true, txStatusEosp := true, reqTxStatus := true } }]
              num := num
              tids := tids }
        | none =>
            -- the frame that ends the period is yet to come
            { pending := delivery.pending ++ [{ skb with marks := { marks with moreData := true } }]
              num := num + 1
              tids := tids
              needNull := true }

/-- The TID of the first access category that is not ignored; this is -1 if all are. -/
def nullTid (ignoredAcs : ℕ) : ℤ :=
  7 - 2 * ((List.finRange 4).takeWhile fun ac => ignoredAcs &&& acToQosMask ac ≠ 0).length

/-- `ieee80211_sta_ps_deliver_response`, with `total_ps_buffered`. -/
def SpSta.deliverResponse (sta : SpSta α) (total : ℤ) (nFrames ignoredAcs : ℕ)
    (reason : FrameReleaseType) (env : SpEnv) : SpGet α × List (SpAction α) :=
  let got := SpGet.fromAcs ignoredAcs (List.finRange 4) nFrames ⟨{ sta with sp := true }, total, [], 0⟩
  let moreData := got.sta.moreData ignoredAcs reason got.driverReleaseTids
  let driverReleaseTids :=
    if got.driverReleaseTids ≠ 0 ∧ reason = .pspoll then 2 ^ findHighestPrioTid got.driverReleaseTids
    else got.driverReleaseTids
  if got.frames.isEmpty ∧ driverReleaseTids = 0 then
    (got, got.sta.sendNullResponse env (nullTid ignoredAcs) reason true false)
  else if driverReleaseTids = 0 then
    let delivery := deliverFrames reason moreData got.frames {}
    (got,
      [.allowBufferedFrames delivery.tids delivery.num reason moreData,
        .addPending delivery.pending] ++
      (if delivery.needNull then
        got.sta.sendNullResponse env (findHighestPrioTid delivery.tids) reason false false
      else []) ++
      [.recalcTim])
  else
    (got,
      .releaseBufferedFrames driverReleaseTids nFrames reason moreData ::
        if (List.range 17).any fun tid => driverReleaseTids.testBit tid && env.txqDrained tid then
          [.recalcTim]
        else [])

end IwlwifiStack
