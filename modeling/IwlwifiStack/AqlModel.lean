import Mathlib
import IwlwifiStack.ConditionedRun

/-!
# Airtime queue limits

`ieee80211_tx_dequeue` charges the estimated airtime of a frame to the station
and the access category of its TXQ.  A status report or a drop credits it to the
access category of the queue mapping, and to the station that the driver names
or that the addresses in the frame lead to.

Airtime is in microseconds, and every call is one step.  The counters of the code
are of type `int`; below they are integers, and the results are about runs in
which the total stays below 2^31.
-/

namespace IwlwifiStack

abbrev AqlAc := Fin 4

structure AqlStation where
  addr : List UInt8
  vifAddr : List UInt8
  deriving DecidableEq

/-- The stations, in the order of their hash chains; a station is its place. -/
structure AqlHw where
  stas : List AqlStation
  reportsTxAckStatus : Bool

/-- `sta_info_get_by_addrs` -/
def AqlHw.staInfoGetByAddrs (hw : AqlHw) (staAddr vifAddr : List UInt8) :
    Option ℕ :=
  hw.stas.findIdx? fun sta => decide (sta.addr = staAddr ∧ sta.vifAddr = vifAddr)

/-- A frame with the fields of its `ieee80211_tx_info` in use. -/
structure AqlSkb where
  data : List UInt8
  queueMapping : AqlAc
  /-- In units of 4 µs. -/
  txTimeEst : ℕ
  noPsBuffer : Bool
  ampdu : Bool
  hw80211Encap : Bool
  retried : Bool
  deriving DecidableEq

namespace AqlSkb

/-- `addr1` and `addr2` of an 802.11 header. -/
def addr1 (skb : AqlSkb) : List UInt8 := (skb.data.drop 4).take 6

def addr2 (skb : AqlSkb) : List UInt8 := (skb.data.drop 10).take 6

/-- `ieee80211_info_set_tx_time_est`, whose argument is an u16. -/
def setTxTimeEst (skb : AqlSkb) (txTimeEst : ℕ) : AqlSkb :=
  { skb with txTimeEst := min (txTimeEst % 2 ^ 16) 4095 / 4 }

def getTxTimeEst (skb : AqlSkb) : ℕ :=
  skb.txTimeEst * 4

end AqlSkb

/-- A frame that a driver or a retry queue has; `sta` and `ac` are those of the
TXQ it came from. -/
structure AqlFrame where
  id : ℕ
  skb : AqlSkb
  sta : Option ℕ
  ac : AqlAc

def AqlFrame.est (frame : AqlFrame) : ℕ :=
  frame.skb.getTxTimeEst

structure AqlLocal where
  aqlTxPending : ℕ → AqlAc → ℤ
  aqlTotalPendingAirtime : ℤ
  aqlAcPendingAirtime : AqlAc → ℤ
  psSta : ℕ → Bool
  frames : List AqlFrame
  nextId : ℕ
  /-- The frames charged and credited, and whether a counter was set to 0. -/
  charged : List ℕ
  credited : List ℕ
  clamped : Bool

namespace AqlLocal

def initial : AqlLocal where
  aqlTxPending _ _ := 0
  aqlTotalPendingAirtime := 0
  aqlAcPendingAirtime _ := 0
  psSta _ := false
  frames := []
  nextId := 0
  charged := []
  credited := []
  clamped := false

def setStaPending (loc : AqlLocal) (sta : ℕ) (ac : AqlAc) (pending : ℤ) : AqlLocal :=
  { loc with
    aqlTxPending := Function.update loc.aqlTxPending sta
      (Function.update (loc.aqlTxPending sta) ac pending) }

def setAcPending (loc : AqlLocal) (ac : AqlAc) (pending : ℤ) : AqlLocal :=
  { loc with
    aqlAcPendingAirtime := Function.update loc.aqlAcPendingAirtime ac pending }

/-- `ieee80211_sta_update_pending_airtime` for a frame that is sent. -/
def chargeAirtime (loc : AqlLocal) (sta : Option ℕ) (ac : AqlAc) (txAirtime : ℕ) :
    AqlLocal :=
  let charged : AqlLocal := match sta with
    | some sta => loc.setStaPending sta ac (loc.aqlTxPending sta ac + txAirtime)
    | none => loc
  { charged.setAcPending ac (charged.aqlAcPendingAirtime ac + txAirtime) with
    aqlTotalPendingAirtime := charged.aqlTotalPendingAirtime + txAirtime }

/-- The station part of `ieee80211_sta_update_pending_airtime` with
`tx_completed`. -/
def creditSta (loc : AqlLocal) (sta : ℕ) (ac : AqlAc) (txAirtime : ℕ) : AqlLocal :=
  let txPending := loc.aqlTxPending sta ac - txAirtime
  if txPending < 0 then { loc.setStaPending sta ac 0 with clamped := true }
  else loc.setStaPending sta ac txPending

/-- The part of the device. -/
def creditDevice (loc : AqlLocal) (ac : AqlAc) (txAirtime : ℕ) : AqlLocal :=
  let txPending := loc.aqlAcPendingAirtime ac - txAirtime
  if txPending < 0 then
    { loc.setAcPending ac 0 with
      aqlTotalPendingAirtime := loc.aqlTotalPendingAirtime - txAirtime - txPending
      clamped := true }
  else
    { loc.setAcPending ac txPending with
      aqlTotalPendingAirtime := loc.aqlTotalPendingAirtime - txAirtime }

def creditAirtime (loc : AqlLocal) (sta : Option ℕ) (ac : AqlAc) (txAirtime : ℕ) :
    AqlLocal :=
  match sta with
  | some sta => (loc.creditSta sta ac txAirtime).creditDevice ac txAirtime
  | none => loc.creditDevice ac txAirtime

/-- `ieee80211_tx_dequeue` when it returns a frame: its `ieee80211_tx_info` was
cleared when it was prepared, and only the frame of a station is charged. -/
def txDequeue (loc : AqlLocal) (skb : AqlSkb) (txqSta : Option ℕ) (txqAc : AqlAc)
    (airtime : ℕ) : AqlLocal :=
  let prepared := { skb with txTimeEst := 0 }
  let sent := if txqSta.isSome ∧ airtime ≠ 0 then prepared.setTxTimeEst airtime
    else prepared
  let after := if txqSta.isSome ∧ airtime ≠ 0 then
      loc.chargeAirtime txqSta txqAc sent.getTxTimeEst
    else loc
  { after with
    frames := loc.frames ++ [⟨loc.nextId, sent, txqSta, txqAc⟩]
    nextId := loc.nextId + 1
    charged := if sent.getTxTimeEst = 0 then loc.charged
      else loc.charged ++ [loc.nextId] }

/-- A credit for a frame. -/
def creditFrame (loc : AqlLocal) (frame : AqlFrame) (sta : Option ℕ) : AqlLocal :=
  { loc.creditAirtime sta frame.skb.queueMapping frame.est with
    credited := loc.credited ++ [frame.id] }

variable (hw : AqlHw)

/-- `ieee80211_report_used_skb` -/
def reportUsedSkb (loc : AqlLocal) (frame : AqlFrame) : AqlLocal :=
  if frame.est ≠ 0 then
    loc.creditFrame frame (hw.staInfoGetByAddrs frame.skb.addr1 frame.skb.addr2)
  else loc

/-- `ieee80211_free_txskb` -/
def freeTxskb (loc : AqlLocal) (index : ℕ) (frame : AqlFrame) : AqlLocal :=
  { loc.reportUsedSkb hw frame with frames := loc.frames.eraseIdx index }

end AqlLocal

/-- A `struct ieee80211_tx_status` with a frame; `staFull` is whether the
filtered frames of the station are at their limit. -/
structure AqlStatus where
  sta : Option ℕ
  hasInfo : Bool
  acked : Bool
  txFiltered : Bool
  staFull : Bool

namespace AqlLocal

variable (hw : AqlHw)

/-- `ieee80211_handle_filtered_frame` -/
def handleFilteredFrame (loc : AqlLocal) (index : ℕ) (frame : AqlFrame) (sta : ℕ)
    (staFull : Bool) : AqlLocal :=
  if frame.skb.noPsBuffer ∨ frame.skb.ampdu ∨ frame.skb.hw80211Encap then
    loc.freeTxskb hw index frame
  else if loc.psSta sta ∧ !staFull then
    { loc with frames := loc.frames.set index frame }
  else if !loc.psSta sta ∧ !frame.skb.retried then
    { loc with
      frames := loc.frames.set index
        { frame with skb := { frame.skb with retried := true } } }
  else loc.freeTxskb hw index frame

/-- What `ieee80211_tx_status_ext` does behind its credit. -/
def txStatusRest (loc : AqlLocal) (index : ℕ) (frame : AqlFrame)
    (status : AqlStatus) : AqlLocal :=
  match status.sta with
  | none => loc.freeTxskb hw index frame
  | some sta =>
    if !status.hasInfo then loc.freeTxskb hw index frame
    else if hw.reportsTxAckStatus ∧ !status.acked ∧ loc.psSta sta then
      loc.handleFilteredFrame hw index frame sta status.staFull
    else if !frame.skb.hw80211Encap ∧ status.txFiltered then
      loc.handleFilteredFrame hw index frame sta status.staFull
    else loc.freeTxskb hw index frame

/-- `ieee80211_tx_status_ext` -/
def txStatusExt (loc : AqlLocal) (index : ℕ) (frame : AqlFrame)
    (status : AqlStatus) : AqlLocal :=
  if frame.est ≠ 0 then
    (loc.creditFrame frame status.sta).txStatusRest hw index
      { frame with skb := frame.skb.setTxTimeEst 0 } status
  else loc.txStatusRest hw index frame status

/-- `ieee80211_tx_status_skb` -/
def txStatusSkb (loc : AqlLocal) (index : ℕ) (frame : AqlFrame)
    (status : AqlStatus) : AqlLocal :=
  loc.txStatusExt hw index frame
    { status with
      sta := hw.staInfoGetByAddrs frame.skb.addr1 frame.skb.addr2
      hasInfo := true }

end AqlLocal

inductive AqlEvent
  | txDequeue (skb : AqlSkb) (txqSta : Option ℕ) (txqAc : AqlAc) (airtime : ℕ)
  | txStatusSkb (index : ℕ) (status : AqlStatus)
  | txStatusExt (index : ℕ) (status : AqlStatus)
  | freeTxskb (index : ℕ)
  | setPs (sta : ℕ) (ps : Bool)

/-- A step; a report is about a frame that is there. -/
def AqlLocal.step (hw : AqlHw) (loc : AqlLocal) :
    AqlEvent → Option (AqlLocal × List Unit)
  | .txDequeue skb txqSta txqAc airtime =>
    some (loc.txDequeue skb txqSta txqAc airtime, [])
  | .txStatusSkb index status =>
    loc.frames[index]?.map fun frame => (loc.txStatusSkb hw index frame status, [])
  | .txStatusExt index status =>
    loc.frames[index]?.map fun frame => (loc.txStatusExt hw index frame status, [])
  | .freeTxskb index =>
    loc.frames[index]?.map fun frame => (loc.freeTxskb hw index frame, [])
  | .setPs sta ps => some ({ loc with psSta := Function.update loc.psSta sta ps }, [])

end IwlwifiStack
