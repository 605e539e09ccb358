import IwlwifiStack.ConditionedRun
import IwlwifiStack.TaskPool

/-!
# Stopping and waking TXQs

The stop reasons of the hardware queues, the mark that `ieee80211_tx_dequeue`
leaves on a TXQ it refuses, and the loop of `_ieee80211_wake_txqs`.  The loop
drops its locks around the driver's callback, so it is a list of tasks here and
anything may happen between two of them.
-/

namespace IwlwifiStack

/-- `enum queue_stop_reason` -/
inductive StopReason where
  | driver
  | ps
  | csa
  | aggregation
  | suspend
  | skbAdd
  | offchannel
  | flush
  | tdlsTeardown
  | reserveTid
  | iftypeChange
  deriving DecidableEq, Repr

def StopReason.all : List StopReason :=
  [.driver, .ps, .csa, .aggregation, .suspend, .skbAdd, .offchannel, .flush,
    .tdlsTeardown, .reserveTid, .iftypeChange]

/-- A TXQ of a station, an interface's `txq` or its `txq_mgmt`. -/
inductive TxqId where
  | sta (station tid : ℕ)
  | vif (sdata : ℕ)
  | mgmt (sdata : ℕ)
  deriving DecidableEq, Repr

/-- `IEEE80211_AC_VO` and `IEEE80211_AC_BE` -/
def acVo : ℕ := 0

def acBe : ℕ := 2

/-- `ieee802_1d_to_ac`, and the voice category for the MMPDU TXQ. -/
def staTxqAc (tid : ℕ) : ℕ :=
  if tid = 16 then acVo else [2, 3, 3, 2, 1, 1, 0, 0].getD (tid % 8) 0

def TxqId.ac : TxqId → ℕ
  | .sta _ tid => staTxqAc tid
  | .vif _ => acBe
  | .mgmt _ => acVo

structure WakeInterface where
  ap : Bool
  running : Bool
  inDriver : Bool
  hwQueue : ℕ → ℕ
  cabQueue : ℕ
  txq : Bool
  txqMgmt : Bool

structure WakeStation where
  sdata : ℕ
  mmpduTxq : Bool

/-- The hardware queues, interfaces and stations; `ieee80211_check_queues` has
checked the mappings. -/
structure WakeConfig where
  queues : ℕ
  interfaces : List WakeInterface
  stations : List WakeStation
  checked : ∀ interface ∈ interfaces, ∀ ac < 4, interface.hwQueue ac < queues

def WakeStation.tids (station : WakeStation) : List ℕ :=
  List.range (if station.mmpduTxq then 17 else 16)

namespace WakeConfig

/-- The access categories that the loop goes over. -/
def nAcs (config : WakeConfig) : ℕ :=
  if config.queues < 4 then 1 else 4

/-- The interface of a TXQ that exists. -/
def txqSdata (config : WakeConfig) : TxqId → Option ℕ
  | .sta station tid => (config.stations[station]?).bind fun found =>
      if tid ∈ found.tids then some found.sdata else none
  | .vif sdata => (config.interfaces[sdata]?).bind fun interface =>
      if interface.txq then some sdata else none
  | .mgmt sdata => (config.interfaces[sdata]?).bind fun interface =>
      if interface.txqMgmt then some sdata else none

def txqInterface (config : WakeConfig) (txq : TxqId) : Option WakeInterface :=
  (config.txqSdata txq).bind fun sdata => config.interfaces[sdata]?

/-- `vif->hw_queue[txq->ac]` -/
def queueOf (config : WakeConfig) (txq : TxqId) : ℕ :=
  ((config.txqInterface txq).map fun interface =>
    interface.hwQueue txq.ac).getD 0

end WakeConfig

/-- What is left to do in a wake loop. -/
inductive WakeItem where
  | queue (index : ℕ)
  | interface (sdata ac : ℕ)
  | staTxq (station tid : ℕ)
  | vifTxqs (sdata ac : ℕ)
  | wake (txq : Option TxqId)
  deriving DecidableEq, Repr

inductive WakeOutput where
  | cleared (txq : TxqId)
  | wakeTxQueue (txq : TxqId)
  | markedAgain (txq : TxqId)
  deriving DecidableEq, Repr

/-- `refused` are the dequeue attempts between their check and the mark. -/
structure WakeLocal where
  queueStopReasons : ℕ → StopReason → Bool
  qStopReasons : ℕ → StopReason → ℤ
  dirty : TxqId → Bool
  numStaPs : ℕ → ℕ
  inReconfig : Bool
  wakeTxqsTasklet : Bool
  wakers : List (List WakeItem)
  refused : List TxqId
  log : List WakeOutput

namespace WakeLocal

def initial : WakeLocal where
  queueStopReasons := fun _ _ => false
  qStopReasons := fun _ _ => 0
  dirty := fun _ => false
  numStaPs := fun _ => 0
  inReconfig := false
  wakeTxqsTasklet := false
  wakers := []
  refused := []
  log := []

def stopped (loc : WakeLocal) (queue : ℕ) : Bool :=
  StopReason.all.any (loc.queueStopReasons queue)

/-- A count and the bit that goes with it. -/
def setReason (loc : WakeLocal) (queue : ℕ) (reason : StopReason) (count : ℤ)
    (bit : Bool) : WakeLocal :=
  { loc with
    qStopReasons := Function.update loc.qStopReasons queue
      (Function.update (loc.qStopReasons queue) reason count)
    queueStopReasons := Function.update loc.queueStopReasons queue
      (Function.update (loc.queueStopReasons queue) reason bit) }

def setDirty (loc : WakeLocal) (txq : TxqId) (dirty : Bool) : WakeLocal :=
  { loc with dirty := Function.update loc.dirty txq dirty }

/-- `__ieee80211_stop_queue` -/
def stopQueue (config : WakeConfig) (loc : WakeLocal) (queue : ℕ)
    (reason : StopReason) (refcounted : Bool) : WakeLocal :=
  if config.queues ≤ queue then loc
  else
    loc.setReason queue reason
      (if refcounted then loc.qStopReasons queue reason + 1 else 1) true

/-- `_ieee80211_wake_txqs`, about to be run. -/
def wakeLoop (config : WakeConfig) : List WakeItem :=
  (List.range config.queues).map WakeItem.queue

/-- The count of a reason after a wake. -/
def wakeCount (count : ℤ) (refcounted : Bool) : ℤ :=
  if refcounted then (if count - 1 < 0 then 0 else count - 1) else 0

/-- `__ieee80211_wake_queue` -/
def wakeQueue (config : WakeConfig) (loc : WakeLocal) (queue : ℕ)
    (reason : StopReason) (refcounted : Bool) : WakeLocal :=
  if config.queues ≤ queue then loc
  else if !loc.queueStopReasons queue reason then loc
  else
    let count := wakeCount (loc.qStopReasons queue reason) refcounted
    let after := loc.setReason queue reason count (count ≠ 0)
    if after.stopped queue then after
    else if reason = .driver then { after with wakeTxqsTasklet := true }
    else { after with wakers := after.wakers ++ [wakeLoop config] }

/-! ## The wake loop -/

/-- The calls of `__ieee80211_wake_txqs` for one hardware queue. -/
def queueItems (config : WakeConfig) (index : ℕ) : List WakeItem :=
  config.interfaces.zipIdx.flatMap fun interface =>
    ((List.range config.nAcs).filter fun ac =>
      interface.1.hwQueue ac = index || interface.1.cabQueue = index).map
        (WakeItem.interface interface.2)

/-- The TXQs of stations that `__ieee80211_wake_txqs` tests. -/
def stationItems (config : WakeConfig) (sdata ac : ℕ) : List WakeItem :=
  config.stations.zipIdx.flatMap fun station =>
    if station.1.sdata = sdata then
      (station.1.tids.filter fun tid => staTxqAc tid = ac).map
        (WakeItem.staTxq station.2)
    else []

/-- `__ieee80211_wake_txqs` -/
def interfaceItems (config : WakeConfig) (sdata ac : ℕ) : List WakeItem :=
  match config.interfaces[sdata]? with
  | none => []
  | some interface =>
      if !interface.running then []
      else stationItems config sdata ac ++ [.vifTxqs sdata ac]

/-- `test_and_clear_bit(IEEE80211_TXQ_DIRTY, &txqi->flags)` -/
def testAndClear (loc : WakeLocal) (txq : TxqId) : WakeLocal × Bool :=
  if loc.dirty txq then
    ({ loc.setDirty txq false with log := loc.log ++ [.cleared txq] }, true)
  else (loc, false)

/-- `ps && atomic_read(&ps->num_sta_ps)` -/
def asleep (config : WakeConfig) (loc : WakeLocal) (sdata : ℕ) : Bool :=
  match config.interfaces[sdata]? with
  | none => false
  | some interface => interface.ap && loc.numStaPs sdata ≠ 0

/-- The two TXQs of the interface, and the calls after the lock is dropped.  No
result means that `vif->txq` is needed and missing. -/
def testVifTxqs (config : WakeConfig) (loc : WakeLocal) (sdata ac : ℕ) :
    Option (WakeLocal × List WakeItem) :=
  match config.interfaces[sdata]? with
  | none => some (loc, [])
  | some interface =>
      let first :=
        if interface.txq then loc.testAndClear (.vif sdata) else (loc, false)
      let toWake : Option TxqId :=
        if first.2 && !loc.asleep config sdata && ac = acBe then
          some (.vif sdata)
        else none
      let second :=
        if interface.txqMgmt then first.1.testAndClear (.mgmt sdata)
        else (first.1, false)
      if second.2 && !interface.txq then none
      else
        let toWakeMgmt := second.2 && ac = acBe
        some (second.1,
          (if toWake.isSome then [.wake toWake] else []) ++
            -- the first TXQ is woken here as well
            (if toWakeMgmt then [.wake toWake] else []))

/-- `drv_wake_tx_queue`; no result stands for a null pointer. -/
def drvWakeTxQueue (config : WakeConfig) (loc : WakeLocal) :
    Option TxqId → Option WakeLocal
  | none => none
  | some txq =>
      if loc.inReconfig then
        some { loc.setDirty txq true with log := loc.log ++ [.markedAgain txq] }
      else
        match config.txqInterface txq with
        | none => none
        | some interface =>
            some (if interface.inDriver then
              { loc with log := loc.log ++ [.wakeTxQueue txq] } else loc)

/-- One task of a wake loop, with the tasks it leaves. -/
def runItem (config : WakeConfig) (loc : WakeLocal) :
    WakeItem → Option (WakeLocal × List WakeItem)
  | .queue index =>
      some (loc, if loc.stopped index then [] else queueItems config index)
  | .interface sdata ac => some (loc, interfaceItems config sdata ac)
  | .staTxq station tid =>
      let tested := loc.testAndClear (.sta station tid)
      some (tested.1, if tested.2 then [.wake (some (.sta station tid))] else [])
  | .vifTxqs sdata ac => loc.testVifTxqs config sdata ac
  | .wake txq => (loc.drvWakeTxQueue config txq).map fun after => (after, [])

end WakeLocal

/-! ## Runs -/

inductive WakeEvent where
  | stop (queue : ℕ) (reason : StopReason) (refcounted : Bool)
  | wake (queue : ℕ) (reason : StopReason) (refcounted : Bool)
  | tasklet
  | walk (waker : ℕ)
  | dequeue (txq : TxqId)
  | mark (txq : TxqId)
  | setNumStaPs (sdata count : ℕ)
  | setReconfig (inReconfig : Bool)
  deriving DecidableEq, Repr

namespace WakeLocal

/-- The check of `ieee80211_tx_dequeue`, for a TXQ that the driver has. -/
def dequeue (config : WakeConfig) (loc : WakeLocal) (txq : TxqId) :
    Option WakeLocal :=
  match config.txqInterface txq with
  | none => none
  | some interface =>
      if !interface.running || !interface.inDriver then none
      else if loc.stopped (interface.hwQueue txq.ac) then
        some { loc with refused := txq :: loc.refused }
      else some loc

def perform (config : WakeConfig) (loc : WakeLocal) :
    WakeEvent → Option WakeLocal
  | .stop queue reason refcounted =>
      some (loc.stopQueue config queue reason refcounted)
  | .wake queue reason refcounted =>
      some (loc.wakeQueue config queue reason refcounted)
  | .tasklet =>
      if loc.wakeTxqsTasklet then
        some { loc with
          wakeTxqsTasklet := false
          wakers := loc.wakers ++ [wakeLoop config] }
      else none
  | .walk waker =>
      (TaskPool.next loc.wakers waker).bind fun item =>
        (loc.runItem config item).map fun ran =>
          { ran.1 with wakers := TaskPool.done loc.wakers waker ran.2 }
  | .dequeue txq => loc.dequeue config txq
  | .mark txq =>
      if txq ∈ loc.refused then
        some { loc.setDirty txq true with refused := loc.refused.erase txq }
      else none
  | .setNumStaPs sdata count =>
      some { loc with numStaPs := Function.update loc.numStaPs sdata count }
  | .setReconfig inReconfig => some { loc with inReconfig := inReconfig }

def step (config : WakeConfig) (loc : WakeLocal) (event : WakeEvent) :
    Option (WakeLocal × List WakeOutput) :=
  (loc.perform config event).map fun after =>
    (after, after.log.drop loc.log.length)

end WakeLocal

end IwlwifiStack
