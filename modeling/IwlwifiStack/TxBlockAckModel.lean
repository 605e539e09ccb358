import Mathlib.Tactic

/-!
# TX Block Ack sessions of a station

A session that is asked for waits in `tid_start_tx` until the work puts it into
`tid_tx`, where the driver and the peer have to agree to it.  Meanwhile the TXQ
of the TID is stopped.
-/

namespace IwlwifiStack

/-- `enum ieee80211_agg_stop_reason` -/
inductive AggStopReason
  | declined | localRequest | peerRequest | destroySta
  deriving DecidableEq, Repr

/-- `struct tid_ampdu_tx`, with the bits of `state`; the timers are armed or not. -/
structure TidAmpduTx where
  dialogToken : ℕ
  timeout : ℕ
  bufSize : ℕ
  amsdu : Bool
  drvReady : Bool
  responseReceived : Bool
  operational : Bool
  stopping : Bool
  wantStart : Bool
  wantStop : Bool
  startCb : Bool
  stopCb : Bool
  sentAddba : Bool
  stopByPeer : Bool
  txStop : Bool
  addbaRespTimer : Bool
  sessionTimer : Bool
  deriving DecidableEq, Repr

/-- What `ieee80211_start_tx_ba_session` prepares. -/
def TidAmpduTx.prepared (dialogToken timeout : ℕ) : TidAmpduTx where
  dialogToken := dialogToken
  timeout := timeout
  bufSize := 0
  amsdu := false
  drvReady := false
  responseReceived := false
  operational := false
  stopping := false
  wantStart := true
  wantStop := false
  startCb := false
  stopCb := false
  sentAddba := false
  stopByPeer := false
  txStop := false
  addbaRespTimer := false
  sessionTimer := false

/-- The actions of `enum ieee80211_ampdu_mlme_action` for TX. -/
inductive AmpduAction
  | start | stopCont | stopFlush | stopFlushCont
  | operational (bufSize : ℕ) (amsdu : Bool)
  deriving DecidableEq, Repr

/-- What the driver answers to `IEEE80211_AMPDU_TX_START`. -/
inductive StartAnswer
  | accept | immediate | delayAddba | refuse
  deriving DecidableEq, Repr

inductive BaOutput
  | driver (action : AmpduAction)
  | addbaRequest (dialogToken bufSize timeout : ℕ)
  | delba
  deriving DecidableEq, Repr

/-- What decides about the buffer size. -/
structure AggHw where
  maxTxAggregationSubframes : ℕ
  validLinks : Bool
  hasEht : Bool
  strict : Bool
  hasHe : Bool

/-- The TID of a station and its TXQ. -/
structure AmpduTid where
  tidTx : Option TidAmpduTx
  tidStartTx : Option TidAmpduTx
  addbaReqNum : ℕ
  txqStop : Bool
  txqAmpdu : Bool
  txqNoAmsdu : Bool

namespace AmpduTid

variable (hw : AggHw)

/-- `ieee80211_agg_start_txq` -/
def startTxq (t : AmpduTid) (enable : Bool) : AmpduTid :=
  { t with txqAmpdu := enable, txqStop := false }

/-- `__ieee80211_stop_tx_ba_session` -/
def stopTxBaSession (t : AmpduTid) (reason : AggStopReason) : AmpduTid × List BaOutput :=
  let t := { t with tidStartTx := none }
  match t.tidTx with
  | none => (t, [])
  | some tx =>
    if tx.stopping then
      (t, if reason = .destroySta then [.driver .stopFlushCont] else [])
    else if tx.wantStart then ({ t with tidTx := none }, [])
    else
      ({ t with
          txqStop := true
          tidTx := some { tx with
            stopping := true
            addbaRespTimer := false
            sessionTimer := false
            operational := false
            stopByPeer := decide (reason = .peerRequest)
            txStop := decide (reason = .localRequest) } },
        [.driver (if reason = .destroySta then .stopFlush else .stopCont)])

/-- The buffer size of an ADDBA request. -/
def requestBufSize : ℕ :=
  if hw.validLinks || hw.hasEht || hw.strict then hw.maxTxAggregationSubframes
  else if hw.hasHe then min hw.maxTxAggregationSubframes 256
  else 64

/-- `ieee80211_send_addba_with_timeout` -/
def sendAddbaWithTimeout (t : AmpduTid) (tx : TidAmpduTx) : AmpduTid × List BaOutput :=
  if tx.stopping || tx.wantStop then ({ t with tidTx := some tx }, [])
  else
    ({ t with
        addbaReqNum := (t.addbaReqNum + 1) % 256
        tidTx := some { tx with addbaRespTimer := true, sentAddba := true } },
      [.addbaRequest tx.dialogToken (requestBufSize hw) tx.timeout])

/-- `ieee80211_tx_ba_session_handle_start` -/
def handleStart (t : AmpduTid) (answer : StartAnswer) : AmpduTid × List BaOutput :=
  match t.tidTx with
  | none => (t, [])
  | some tx =>
    let tx := { tx with wantStart := false }
    match answer with
    | .delayAddba => ({ t with tidTx := some tx }, [.driver .start])
    | .immediate =>
      let (t, sent) := t.sendAddbaWithTimeout hw { tx with drvReady := true }
      (t, .driver .start :: sent)
    | .accept =>
      let (t, sent) := t.sendAddbaWithTimeout hw tx
      (t, .driver .start :: sent)
    | .refuse => (({ t with tidTx := none }).startTxq false, [.driver .start])

/-- `ieee80211_agg_tx_operational` -/
def aggTxOperational (t : AmpduTid) (tx : TidAmpduTx) : AmpduTid × List BaOutput :=
  (({ t with tidTx := some { tx with operational := true } }).startTxq true,
    [.driver (.operational tx.bufSize tx.amsdu)])

/-- `ieee80211_start_tx_ba_cb` -/
def startTxBaCb (t : AmpduTid) (tx : TidAmpduTx) : AmpduTid × List BaOutput :=
  let ready := { tx with drvReady := true }
  if tx.drvReady || tx.stopping || tx.wantStop then ({ t with tidTx := some ready }, [])
  else if !tx.sentAddba then t.sendAddbaWithTimeout hw ready
  else if tx.responseReceived then t.aggTxOperational ready
  else ({ t with tidTx := some ready }, [])

/-- `ieee80211_stop_tx_ba_cb` -/
def stopTxBaCb (t : AmpduTid) (tx : TidAmpduTx) : AmpduTid × List BaOutput :=
  if tx.stopping then
    (({ t with tidTx := none }).startTxq false,
      if !tx.stopByPeer && tx.txStop then [.delba] else [])
  else ({ t with tidTx := some tx }, [])

/-- The session in `tid_tx` in a round of `ieee80211_ba_session_work`. -/
def workTidTx (t : AmpduTid) (blocked : Bool) (tx : TidAmpduTx) :
    AmpduTid × List BaOutput :=
  let (t, started) := if !blocked && tx.startCb then
    t.startTxBaCb hw { tx with startCb := false } else (t, [])
  let (t, stopped) := match t.tidTx with
    | some tx =>
      if tx.wantStop then
        ({ t with tidTx := some { tx with wantStop := false } }).stopTxBaSession .localRequest
      else (t, [])
    | none => (t, [])
  let (t, done) := match t.tidTx with
    | some tx => if tx.stopCb then t.stopTxBaCb { tx with stopCb := false } else (t, [])
    | none => (t, [])
  (t, started ++ stopped ++ done)

/-- A round of `ieee80211_ba_session_work`; `frags` are fragments in the TXQ.  The
last value says that the work ends here to be run again. -/
def sessionWork (t : AmpduTid) (blocked frags : Bool) (answer : StartAnswer) :
    AmpduTid × List BaOutput × Bool :=
  match t.tidStartTx with
  | some start =>
    if blocked then
      match t.tidTx with
      | some tx => let (t, out) := t.workTidTx hw blocked tx; (t, out, false)
      | none => (t, [], false)
    else if frags then ({ t with txqStop := true }, [], true)
    else
      let moved := { t with
        txqStop := true
        tidStartTx := none
        tidTx := if t.tidTx.isSome then t.tidTx else some start }
      let (t, out) := moved.handleStart hw answer
      (t, out, false)
  | none =>
    match t.tidTx with
    | some tx => let (t, out) := t.workTidTx hw blocked tx; (t, out, false)
    | none => (t, [], false)

/-- `ieee80211_stop_tx_ba_session`; whether the work is queued. -/
def stopSession (t : AmpduTid) : AmpduTid × Bool :=
  match t.tidTx with
  | none => (t, false)
  | some tx =>
    if tx.stopping then (t, false)
    else ({ t with tidTx := some { tx with wantStop := true } }, true)

/-- `sta_addba_resp_timer_expired`, for a timer that is armed. -/
def addbaRespTimerExpired (t : AmpduTid) : AmpduTid × Bool :=
  match t.tidTx with
  | none => (t, false)
  | some tx =>
    let t := { t with tidTx := some { tx with addbaRespTimer := false } }
    if tx.responseReceived then (t, false) else t.stopSession

/-- `sta_tx_agg_session_timer_expired`; `idle` says that there was no frame for the
time of the session. -/
def sessionTimerExpired (t : AmpduTid) (idle : Bool) : AmpduTid × Bool :=
  match t.tidTx with
  | none => (t, false)
  | some tx =>
    if tx.stopping then
      ({ t with tidTx := some { tx with sessionTimer := false } }, false)
    else if !idle then (t, false)
    else ({ t with tidTx := some { tx with sessionTimer := false } }).stopSession

/-- `ieee80211_process_addba_resp` -/
def processAddbaResp (t : AmpduTid) (dialogToken bufSize : ℕ) (amsdu success : Bool)
    (timeout : ℕ) : AmpduTid × List BaOutput :=
  let bufSize := min bufSize hw.maxTxAggregationSubframes
  let t := if !amsdu then { t with txqNoAmsdu := true } else t
  match t.tidTx with
  | none => (t, [])
  | some tx =>
    if dialogToken ≠ tx.dialogToken then (t, [])
    else
      let tx := { tx with addbaRespTimer := false }
      let t := { t with tidTx := some tx }
      if tx.wantStop || tx.stopping then (t, [])
      else if success ∧ bufSize ≠ 0 then
        if tx.responseReceived then (t, [])
        else
          let tx := { tx with responseReceived := true, bufSize := bufSize, amsdu := amsdu }
          let (t, out) := if tx.drvReady then t.aggTxOperational tx
            else ({ t with tidTx := some tx }, [])
          ({ t with
              addbaReqNum := 0
              tidTx := t.tidTx.map fun tx =>
                { tx with timeout := timeout, sessionTimer := tx.sessionTimer || timeout ≠ 0 } },
            out)
      else t.stopTxBaSession .declined

end AmpduTid

end IwlwifiStack
