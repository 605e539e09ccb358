import IwlwifiStack.ConditionedRun
import IwlwifiStack.TxBlockAckModel

/-!
# TX Block Ack sessions with the driver and the peer

Sessions are asked for and given up, the work runs, the driver calls back, the
peer answers or takes a session down, timers expire, and the station is blocked
and torn down, in any order.  The driver and the peer keep their own record of
each session.
-/

namespace IwlwifiStack

/-- What the driver knows about a TID. -/
inductive DriverPhase
  | idle | starting | ready | operational | stopping | stopped
  deriving DecidableEq, Repr

def StartAnswer.phase : StartAnswer → DriverPhase
  | .accept => .starting
  | .delayAddba => .starting
  | .immediate => .ready
  | .refuse => .idle

def DriverPhase.next (answer : StartAnswer) : DriverPhase → AmpduAction → Option DriverPhase
  | .idle, .start | .stopped, .start => some answer.phase
  | .ready, .operational _ _ => some .operational
  | .starting, .stopCont | .ready, .stopCont | .operational, .stopCont => some .stopping
  | .starting, .stopFlush | .ready, .stopFlush | .operational, .stopFlush => some .stopping
  | .stopping, .stopFlushCont => some .stopping
  | .stopped, .stopFlushCont => some .stopped
  | _, _ => none

/-- A TID with the driver's and the peer's view of it. -/
structure BaTid where
  t : AmpduTid
  driver : DriverPhase
  /-- The peer accepted the session that is set up. -/
  accepted : Bool
  /-- The driver was told something that it does not expect. -/
  confused : Bool

namespace BaTid

/-- The driver is told something. -/
def tell (answer : StartAnswer) (p : BaTid) : BaOutput → BaTid
  | .driver action =>
    match p.driver.next answer action with
    | none => { p with confused := true }
    | some phase =>
      { p with
        driver := phase
        accepted := if action = .start then false else p.accepted
        confused := p.confused ||
          (match action with
          | .operational _ _ => !p.accepted
          | _ => false) }
  | .addbaRequest _ _ _ => p
  | .delba => p

def after (answer : StartAnswer) (p : BaTid) (result : AmpduTid × List BaOutput) : BaTid :=
  result.2.foldl (tell answer) { p with t := result.1 }

def hear (p : BaTid) (dialogToken bufSize : ℕ) (success : Bool) : BaTid :=
  match p.t.tidTx with
  | some tx =>
    if dialogToken = tx.dialogToken ∧ success ∧ bufSize ≠ 0 then { p with accepted := true }
    else p
  | none => p

def stop (p : BaTid) (reason : AggStopReason) : BaTid :=
  p.after .refuse (p.t.stopTxBaSession reason)

def finish (p : BaTid) : BaTid :=
  match p.t.tidTx with
  | some tx =>
    if tx.stopCb then p.after .refuse (p.t.stopTxBaCb { tx with stopCb := false }) else p
  | none => p

end BaTid

/-- A station. -/
structure TxBaStation where
  tid : Fin 16 → BaTid
  dialogTokenAllocator : ℕ
  workQueued : Bool
  blockBa : Bool
  /-- The sessions were stopped with `AGG_STOP_DESTROY_STA`; after `STOP_FLUSH` the
  driver need not call back. -/
  destroyed : Bool

inductive BaEvent
  | startSession (tid : Fin 16) (timeout : ℕ) (refused soon noMem : Bool)
  | stopSession (tid : Fin 16)
  | work (answers : Fin 16 → StartAnswer) (frags : Fin 16 → Bool)
  | startCb (tid : Fin 16)
  | stopCb (tid : Fin 16)
  | addbaResp (tid : Fin 16) (dialogToken bufSize : ℕ) (amsdu success : Bool) (timeout : ℕ)
  | addbaRespTimer (tid : Fin 16)
  | sessionTimer (tid : Fin 16) (idle : Bool)
  | delba (tid : Fin 16)
  | reserve (tid : Fin 16)
  | tearDown (reason : AggStopReason)
  | block (reason : AggStopReason)
  | unblock

namespace TxBaStation

variable (hw : AggHw)

def setTid (sta : TxBaStation) (tid : Fin 16) (p : BaTid) : TxBaStation :=
  { sta with tid := Function.update sta.tid tid p }

def queueWork (sta : TxBaStation) (queue : Bool) : TxBaStation :=
  { sta with workQueued := sta.workQueued || queue }

/-- `ieee80211_start_tx_ba_session`; `refused` are the checks of the station and of the
interface, `soon` says that the last request was not long ago. -/
def startSession (sta : TxBaStation) (tid : Fin 16) (timeout : ℕ)
    (refused soon noMem : Bool) : TxBaStation :=
  let p := sta.tid tid
  if refused ∨ 8 ≤ tid.val ∨ sta.blockBa then sta
  else if 15 < p.t.addbaReqNum then sta
  else if 3 < p.t.addbaReqNum ∧ soon then sta
  else if p.t.tidTx.isSome ∨ p.t.tidStartTx.isSome then sta
  else if noMem then sta
  else
    let dialogToken := (sta.dialogTokenAllocator + 1) % 256
    { sta.setTid tid
        { p with t := { p.t with tidStartTx := some (.prepared dialogToken timeout) } } with
      dialogTokenAllocator := dialogToken
      workQueued := true }

/-- The rounds of `ieee80211_ba_session_work`. -/
def sessionWork (answers : Fin 16 → StartAnswer) (frags : Fin 16 → Bool) :
    List (Fin 16) → TxBaStation → TxBaStation
  | [], sta => sta
  | tid :: tids, sta =>
    let p := sta.tid tid
    let (t, out, again) := p.t.sessionWork hw sta.blockBa (frags tid) (answers tid)
    let sta := sta.setTid tid (p.after (answers tid) (t, out))
    if again then sta.queueWork true else sessionWork answers frags tids sta

/-- `ieee80211_sta_tear_down_BA_sessions` for TX. -/
def tearDown (sta : TxBaStation) (reason : AggStopReason) : TxBaStation :=
  if reason = .destroySta then
    { sta with
      workQueued := false
      destroyed := true
      tid := fun tid => ((sta.tid tid).stop reason).finish }
  else { sta with tid := fun tid => (sta.tid tid).stop reason }

/-- One thing happens; none for a callback or a timer that is not due. -/
def step (sta : TxBaStation) : BaEvent → Option (TxBaStation × List Unit)
  | .startSession tid timeout refused soon noMem =>
    some (sta.startSession tid timeout refused soon noMem, [])
  | .stopSession tid =>
    let p := sta.tid tid
    let (t, queue) := p.t.stopSession
    some ((sta.setTid tid { p with t := t }).queueWork queue, [])
  | .work answers frags =>
    if sta.workQueued then
      some (sessionWork hw answers frags (List.finRange 16) { sta with workQueued := false },
        [])
    else none
  | .startCb tid =>
    let p := sta.tid tid
    if p.driver = .starting then
      let t := { p.t with tidTx := p.t.tidTx.map fun tx => { tx with startCb := true } }
      some ((sta.setTid tid { p with t := t, driver := .ready }).queueWork p.t.tidTx.isSome,
        [])
    else none
  | .stopCb tid =>
    let p := sta.tid tid
    if p.driver = .stopping then
      let t := { p.t with tidTx := p.t.tidTx.map fun tx => { tx with stopCb := true } }
      some ((sta.setTid tid { p with t := t, driver := .stopped }).queueWork
        p.t.tidTx.isSome, [])
    else none
  | .addbaResp tid dialogToken bufSize amsdu success timeout =>
    let p := sta.tid tid
    some (sta.setTid tid
      ((p.hear dialogToken (min bufSize hw.maxTxAggregationSubframes) success).after .refuse
        (p.t.processAddbaResp hw dialogToken bufSize amsdu success timeout)), [])
  | .addbaRespTimer tid =>
    let p := sta.tid tid
    if ∃ tx ∈ p.t.tidTx, tx.addbaRespTimer = true then
      let (t, queue) := p.t.addbaRespTimerExpired
      some ((sta.setTid tid { p with t := t }).queueWork queue, [])
    else none
  | .sessionTimer tid idle =>
    let p := sta.tid tid
    if ∃ tx ∈ p.t.tidTx, tx.sessionTimer = true then
      let (t, queue) := p.t.sessionTimerExpired idle
      some ((sta.setTid tid { p with t := t }).queueWork queue, [])
    else none
  | .delba tid => some (sta.setTid tid ((sta.tid tid).stop .peerRequest), [])
  | .reserve tid => some (sta.setTid tid ((sta.tid tid).stop .localRequest), [])
  | .tearDown reason => some (sta.tearDown reason, [])
  | .block reason => some ({ sta with blockBa := true }.tearDown reason, [])
  | .unblock => some ({ sta with blockBa := false }, [])

def initial : TxBaStation where
  tid _ := ⟨⟨none, none, 0, false, false, false⟩, .idle, false, false⟩
  dialogTokenAllocator := 0
  workQueued := false
  blockBa := false
  destroyed := false

end TxBaStation

end IwlwifiStack
