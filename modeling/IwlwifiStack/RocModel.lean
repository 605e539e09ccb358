import IwlwifiStack.ConditionedRun

/-!
# Remain-on-channel requests

`roc_list` and the functions of `offchannel.c` that work on it.  With hardware
remain-on-channel the driver is asked for the channel and tells when it has
begun and ended; without it `roc_work` does both.  The 64-bit counter of the
cookies does not wrap.
-/

namespace IwlwifiStack

/-- `struct ieee80211_roc_work`, with a number for each accepted request. -/
structure RocWork where
  id : ℕ
  sdata : ℕ
  chan : ℕ
  started : Bool
  abort : Bool
  hwBegun : Bool
  notified : Bool
  onChannel : Bool
  startTime : BitVec 64
  duration : ℕ
  reqDuration : ℕ
  frame : Bool
  cookie : ℕ
  mgmtTxCookie : ℕ
  type : ℕ
  deriving DecidableEq, Repr

/-- The hardware, and the conversions between milliseconds and jiffies. -/
structure RocConfig where
  hwRemainOnChannel : Bool
  emulateChanctx : Bool
  maxRemainOnChannelDuration : ℕ
  msecsToJiffies : ℕ → BitVec 64
  jiffiesToMsecs : BitVec 64 → ℕ

/-- What cfg80211 and the TX path are told, with the request as it was. -/
inductive RocOutput where
  | ready (roc : RocWork)
  | transmit (roc : RocWork)
  | txStatus (roc : RocWork)
  | expired (roc : RocWork)
  | warnFound
  deriving DecidableEq, Repr

/-- `hwRocStart`, `hwRocDone` and `rocWork` tell which works are queued. -/
structure RocLocal where
  rocList : List RocWork
  hwRocStartTime : BitVec 64
  hwRocStart : Bool
  hwRocDone : Bool
  rocWork : Bool
  operatingChan : ℕ
  narrow : Bool
  tmpChannel : Option ℕ
  inReconfig : Bool
  rocCookieCounter : ℕ
  nextId : ℕ
  log : List RocOutput
  deriving DecidableEq, Repr

def longMax : ℤ := 2 ^ 63 - 1

namespace RocWork

def on (roc : RocWork) (sdata chan : ℕ) : Bool :=
  roc.sdata = sdata && roc.chan = chan

/-- `ieee80211_roc_notify_destroy` -/
def notifyDestroy (roc : RocWork) : List RocOutput :=
  (if roc.frame then [.txStatus roc] else []) ++ [.expired roc]

/-- `ieee80211_handle_roc_started` -/
def handleRocStarted (roc : RocWork) (startTime : BitVec 64) :
    RocWork × List RocOutput :=
  if roc.notified then (roc, [])
  else
    let started := { roc with startTime := startTime, started := true }
    if roc.mgmtTxCookie ≠ 0 then
      if roc.frame then
        ({ started with frame := false, notified := true },
          [.transmit started])
      else ({ started with notified := true }, [])
    else ({ started with notified := true }, [.ready started])

/-- The jiffies left to a request. -/
def remaining (config : RocConfig) (now : BitVec 64) (roc : RocWork) : ℤ :=
  (roc.startTime + config.msecsToJiffies roc.duration - now).toInt

end RocWork

/-! ## Walks over the list -/

/-- `ieee80211_end_finished_rocs`: the requests left, the shortest time that
remains and the notifications. -/
def endFinishedRocs (config : RocConfig) (now : BitVec 64) :
    List RocWork → List RocWork × ℤ × List RocOutput
  | [] => ([], longMax, [])
  | roc :: rocs =>
      if !roc.started then (roc :: rocs, longMax, [])
      else
        let remaining := roc.remaining config now
        let rest := endFinishedRocs config now rocs
        if roc.abort || roc.hwBegun || remaining ≤ 0 then
          (rest.1, rest.2.1, roc.notifyDestroy ++ rest.2.2)
        else (roc :: rest.1, min remaining rest.2.1, rest.2.2)

/-- `ieee80211_hw_roc_start` -/
def hwRocStartList (startTime : BitVec 64) :
    List RocWork → List RocWork × List RocOutput
  | [] => ([], [])
  | roc :: rocs =>
      if !roc.started then (roc :: rocs, [])
      else
        let begun := { roc with hwBegun := true }.handleRocStarted startTime
        let rest := hwRocStartList startTime rocs
        (begun.1 :: rest.1, begun.2 ++ rest.2)

/-- `ieee80211_handle_roc_started` for each of the requests. -/
def handleAllStarted (startTime : BitVec 64) :
    List RocWork → List RocWork × List RocOutput
  | [] => ([], [])
  | roc :: rocs =>
      let begun := roc.handleRocStarted startTime
      let rest := handleAllStarted startTime rocs
      (begun.1 :: rest.1, begun.2 ++ rest.2)

/-- `ieee80211_coalesce_hw_started_roc` up to the insertion: it is refused, or
the new request as it goes on the list. -/
def coalesceHwStartedRoc (config : RocConfig) (now : BitVec 64)
    (new cur : RocWork) : Option (RocWork × List RocOutput) :=
  if !cur.started then none
  else if !cur.hwBegun ∧ cur.duration < new.duration then none
  else
    let remaining := cur.startTime + config.msecsToJiffies cur.duration - now
    if config.jiffiesToMsecs remaining < new.duration then none
    else if cur.hwBegun then
      some ({ new with hwBegun := true }.handleRocStarted now)
    else some (new, [])

/-- Where a request goes in `ieee80211_start_roc_work`: the new list, what is
told, and whether it was combined with a started one without hardware. -/
def queueRoc (config : RocConfig) (now : BitVec 64) (new : RocWork) :
    Bool → List RocWork → Option (List RocWork × List RocOutput × Bool)
  | _, [] => none
  | combineStarted, tmp :: rocs =>
      let later := fun combineStarted =>
        (queueRoc config now new combineStarted rocs).map fun queued =>
          (tmp :: queued.1, queued.2)
      if !tmp.on new.sdata new.chan then later combineStarted
      else if !tmp.started then some (tmp :: new :: rocs, [], false)
      else if !combineStarted then later combineStarted
      else if !config.hwRemainOnChannel then
        let elapsed := config.jiffiesToMsecs (now - tmp.startTime)
        if config.maxRemainOnChannelDuration <
            (elapsed + new.duration) % 2 ^ 32 then
          later false
        else
          let begun :=
            { new with onChannel := tmp.onChannel }.handleRocStarted now
          some (tmp :: begun.1 :: rocs, begun.2, true)
      else
        match coalesceHwStartedRoc config now new tmp with
        | some coalesced => some (tmp :: coalesced.1 :: rocs, coalesced.2, false)
        | none => later false

namespace RocLocal

def tell (loc : RocLocal) (rocs : List RocWork) (outputs : List RocOutput) :
    RocLocal :=
  { loc with rocList := rocs, log := loc.log ++ outputs }

/-- `_ieee80211_start_next_roc`; `driverFails` is the answer of
`drv_remain_on_channel`. -/
def startFirstRoc (config : RocConfig) (now : BitVec 64) (driverFails : Bool)
    (loc : RocLocal) : RocLocal :=
  match loc.rocList with
  | [] => loc
  | roc :: _ =>
      if roc.started then loc
      else
        let combined := loc.rocList.takeWhile fun tmp => tmp.on roc.sdata roc.chan
        let others := loc.rocList.dropWhile fun tmp => tmp.on roc.sdata roc.chan
        if config.hwRemainOnChannel then
          if driverFails then
            { loc with
              rocList := (combined.map fun tmp =>
                { tmp with started := true, abort := true }) ++ others
              hwRocDone := true }
          else
            { loc with
              rocList := (combined.map fun tmp =>
                { tmp with started := true }) ++ others }
        else
          let onChannel := roc.chan = loc.operatingChan && !loc.narrow
          let begun := handleAllStarted now
            (combined.map fun tmp => { tmp with onChannel := onChannel })
          { loc.tell (begun.1 ++ others) begun.2 with
            tmpChannel := if onChannel then loc.tmpChannel else some roc.chan
            rocWork := true }

/-- `ieee80211_start_next_roc` -/
def startNextRoc (config : RocConfig) (now : BitVec 64) (driverFails : Bool)
    (loc : RocLocal) : RocLocal :=
  match loc.rocList with
  | [] => loc
  | roc :: _ =>
      if loc.inReconfig then loc
      else if roc.started then loc
      else if config.hwRemainOnChannel then
        loc.startFirstRoc config now driverFails
      else { loc with rocWork := true }

/-- `ieee80211_recalc_sw_work`, with its result. -/
def recalcSwWork (config : RocConfig) (now : BitVec 64) (loc : RocLocal) :
    RocLocal × Bool :=
  let ended := endFinishedRocs config now loc.rocList
  let after := loc.tell ended.1 ended.2.2
  if ended.2.1 = longMax then (after, false)
  else ({ after with rocWork := true }, true)

/-- `__ieee80211_roc_work` -/
def runRocWork (config : RocConfig) (now : BitVec 64) (driverFails : Bool)
    (loc : RocLocal) : RocLocal :=
  if config.hwRemainOnChannel then loc
  else
    match loc.rocList with
    | [] => loc
    | roc :: _ =>
        if !roc.started then loc.startFirstRoc config now driverFails
        else
          let recalc := loc.recalcSwWork config now
          if recalc.2 then recalc.1
          else
            let back :=
              if roc.onChannel then recalc.1
              else { recalc.1 with tmpChannel := none }
            back.startNextRoc config now driverFails

/-- `ieee80211_hw_roc_start` -/
def runHwRocStart (loc : RocLocal) : RocLocal :=
  let begun := hwRocStartList loc.hwRocStartTime loc.rocList
  { loc.tell begun.1 begun.2 with hwRocStart := false }

/-- `wiphy_work_flush` of that work. -/
def flushHwRocStart (loc : RocLocal) : RocLocal :=
  if loc.hwRocStart then loc.runHwRocStart else loc

/-- `ieee80211_hw_roc_done` -/
def runHwRocDone (config : RocConfig) (now : BitVec 64) (driverFails : Bool)
    (loc : RocLocal) : RocLocal :=
  let ended := endFinishedRocs config now loc.rocList
  ({ loc.tell ended.1 ended.2.2 with hwRocDone := false }).startNextRoc config
    now driverFails

end RocLocal

/-! ## Requests -/

/-- A call of `ieee80211_start_roc_work`; `mgmt` is a management frame, and
whether its ACK is waited for. -/
structure RocRequest where
  sdata : ℕ
  chan : ℕ
  freqOffset : Bool
  duration : ℕ
  mgmt : Option Bool
  type : ℕ
  deriving DecidableEq, Repr

/-- The cookie of `ieee80211_mgmt_tx` for a frame whose ACK is not waited for,
which is not sent to user space. -/
def dummyCookie : ℕ := 0xffffffff

namespace RocLocal

def newRoc (loc : RocLocal) (request : RocRequest) : RocWork where
  id := loc.nextId
  sdata := request.sdata
  chan := request.chan
  started := false
  abort := false
  hwBegun := false
  notified := false
  onChannel := false
  startTime := 0
  duration := if request.duration = 0 then 10 else request.duration
  reqDuration := if request.duration = 0 then 10 else request.duration
  frame := request.mgmt.isSome
  cookie := if request.mgmt.isSome then 0 else loc.rocCookieCounter + 1
  mgmtTxCookie :=
    match request.mgmt with
    | none => 0
    | some true => loc.rocCookieCounter + 1
    | some false => dummyCookie
  type := request.type

/-- The request is counted, and a cookie is used unless the ACK of a frame is not
waited for. -/
def accept (loc : RocLocal) (request : RocRequest) : RocLocal :=
  { loc with
    nextId := loc.nextId + 1
    rocCookieCounter :=
      if request.mgmt = some false then loc.rocCookieCounter
      else loc.rocCookieCounter + 1 }

/-- `ieee80211_start_roc_work`; `busy` is a scan or a radar requirement.  No
result means that the request is refused. -/
def startRocWork (config : RocConfig) (now : BitVec 64)
    (driverFails busy : Bool) (loc : RocLocal) (request : RocRequest) :
    Option RocLocal :=
  if request.freqOffset then none
  else if !config.emulateChanctx ∧ !config.hwRemainOnChannel then none
  else
    let roc := loc.newRoc request
    let accepted := loc.accept request
    if loc.rocList = [] ∧ !busy then
      if !config.hwRemainOnChannel then
        some { accepted with rocList := [roc], rocWork := true }
      else if driverFails then none
      else some { accepted with rocList := [{ roc with started := true }] }
    else
      match queueRoc config now roc true loc.rocList with
      | none => some { accepted with rocList := loc.rocList ++ [roc] }
      | some (rocs, outputs, combined) =>
          let queued := accepted.tell rocs outputs
          some (if combined then (queued.recalcSwWork config now).1 else queued)

/-- Whether a cancellation means this request. -/
def cancels (cookie : ℕ) (mgmtTx : Bool) (roc : RocWork) : Bool :=
  if mgmtTx then roc.mgmtTxCookie = cookie else roc.cookie = cookie

def found (loc : RocLocal) (cookie : ℕ) (mgmtTx : Bool) : Option RocWork :=
  loc.rocList.find? (cancels cookie mgmtTx)

/-- `ieee80211_cancel_roc`; `cancelFails` is the answer of
`drv_cancel_remain_on_channel`.  No result stands for an error. -/
def cancelRoc (config : RocConfig) (now : BitVec 64)
    (driverFails cancelFails : Bool) (loc : RocLocal) (cookie : ℕ)
    (mgmtTx : Bool) : RocLocal × Bool :=
  if cookie = 0 then (loc, false)
  else
    let loc := loc.flushHwRocStart
    match loc.found cookie mgmtTx with
    | none => (loc, false)
    | some roc =>
        if !roc.started then
          (loc.tell (loc.rocList.filter fun tmp => tmp.id ≠ roc.id)
            roc.notifyDestroy, true)
        else if config.hwRemainOnChannel then
          if cancelFails then (loc, false)
          else
            let ended := loc.rocList.takeWhile RocWork.started
            let left := loc.rocList.dropWhile RocWork.started
            let warn := if roc ∈ ended then [] else [.warnFound]
            let told := loc.tell left
              (ended.flatMap RocWork.notifyDestroy ++ warn)
            ({ told with hwRocDone := false }.startNextRoc config now driverFails,
              true)
        else
          ({ loc with
              rocList := loc.rocList.map fun tmp =>
                if tmp.id = roc.id then { tmp with abort := true } else tmp
              rocWork := true },
            true)

/-! ## Interface removal and reconfiguration -/

/-- The walk of `ieee80211_roc_purge`, with its `work_to_do`. -/
def purgeList (config : RocConfig) (sdata : Option ℕ) :
    List RocWork → List RocWork × List RocOutput × Bool
  | [] => ([], [], false)
  | roc :: rocs =>
      let rest := purgeList config sdata rocs
      if sdata.isSome ∧ some roc.sdata ≠ sdata then (roc :: rest.1, rest.2)
      else if roc.started ∧ !config.hwRemainOnChannel then
        ({ roc with abort := true } :: rest.1, rest.2.1, true)
      else (rest.1, roc.notifyDestroy ++ rest.2.1, rest.2.2)

/-- `ieee80211_roc_purge`, for one interface or for all. -/
def rocPurge (config : RocConfig) (now : BitVec 64) (driverFails : Bool)
    (loc : RocLocal) (sdata : Option ℕ) : RocLocal :=
  let walked := purgeList config sdata loc.rocList
  let purged := loc.tell walked.1 walked.2.1
  if walked.2.2 then purged.runRocWork config now driverFails else purged

/-- The walk of `ieee80211_reconfig_roc`. -/
def reconfigList : List RocWork → List RocWork × List RocOutput
  | [] => ([], [])
  | roc :: rocs =>
      if !roc.started then (roc :: rocs, [])
      else
        let rest := reconfigList rocs
        if !roc.hwBegun then ({ roc with started := false } :: rest.1, rest.2)
        else (rest.1, roc.notifyDestroy ++ rest.2)

/-- `ieee80211_reconfig_roc` -/
def reconfigRoc (config : RocConfig) (now : BitVec 64)
    (doneFails driverFails : Bool) (loc : RocLocal) : RocLocal :=
  if !config.hwRemainOnChannel then loc
  else
    let loc := loc.flushHwRocStart
    let loc := if loc.hwRocDone then loc.runHwRocDone config now doneFails else loc
    let walked := reconfigList loc.rocList
    (loc.tell walked.1 walked.2).startNextRoc config now driverFails

end RocLocal

/-! ## Runs -/

/-- Each call comes with the jiffies it sees and the answers of the driver.
`mgmtTxCookie` is a cookie used elsewhere, also by a request that is refused. -/
inductive RocEvent where
  | request (request : RocRequest) (now : BitVec 64)
      (driverFails busy : Bool)
  | cancel (cookie : ℕ) (mgmtTx : Bool) (now : BitVec 64)
      (driverFails cancelFails : Bool)
  | readyOnChannel (now : BitVec 64)
  | remainOnChannelExpired
  | hwRocStart
  | hwRocDone (now : BitVec 64) (driverFails : Bool)
  | rocWork (now : BitVec 64) (driverFails : Bool)
  | startNextRoc (now : BitVec 64) (driverFails : Bool)
  | setOperating (chan : ℕ) (narrow : Bool)
  | setReconfig (inReconfig : Bool)
  | reconfig (now : BitVec 64) (doneFails driverFails : Bool)
  | purge (sdata : Option ℕ) (now : BitVec 64) (driverFails : Bool)
  | mgmtTxCookie
  deriving DecidableEq, Repr

namespace RocLocal

def initial (operatingChan : ℕ) (hwRocStartTime : BitVec 64) : RocLocal where
  rocList := []
  hwRocStartTime := hwRocStartTime
  hwRocStart := false
  hwRocDone := false
  rocWork := false
  operatingChan := operatingChan
  narrow := false
  tmpChannel := none
  inReconfig := false
  rocCookieCounter := 0
  nextId := 0
  log := []

/-- One event; a work runs only when it is queued. -/
def perform (config : RocConfig) (loc : RocLocal) : RocEvent → Option RocLocal
  | .request request now driverFails busy =>
      some ((loc.startRocWork config now driverFails busy request).getD loc)
  | .cancel cookie mgmtTx now driverFails cancelFails =>
      some (loc.cancelRoc config now driverFails cancelFails cookie mgmtTx).1
  | .readyOnChannel now =>
      some { loc with hwRocStartTime := now, hwRocStart := true }
  | .remainOnChannelExpired => some { loc with hwRocDone := true }
  | .hwRocStart => if loc.hwRocStart then some loc.runHwRocStart else none
  | .hwRocDone now driverFails =>
      if loc.hwRocDone then some (loc.runHwRocDone config now driverFails)
      else none
  | .rocWork now driverFails =>
      if loc.rocWork then
        some ({ loc with rocWork := false }.runRocWork config now driverFails)
      else none
  | .startNextRoc now driverFails =>
      some (loc.startNextRoc config now driverFails)
  | .setOperating chan narrow =>
      some { loc with operatingChan := chan, narrow := narrow }
  | .setReconfig inReconfig => some { loc with inReconfig := inReconfig }
  | .reconfig now doneFails driverFails =>
      some (loc.reconfigRoc config now doneFails driverFails)
  | .purge sdata now driverFails =>
      some (loc.rocPurge config now driverFails sdata)
  | .mgmtTxCookie =>
      some { loc with rocCookieCounter := loc.rocCookieCounter + 1 }

def step (config : RocConfig) (loc : RocLocal) (event : RocEvent) :
    Option (RocLocal × List RocOutput) :=
  (loc.perform config event).map fun after =>
    (after, after.log.drop loc.log.length)

end RocLocal

end IwlwifiStack
