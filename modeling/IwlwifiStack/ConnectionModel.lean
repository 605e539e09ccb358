import IwlwifiStack.ObservedRun

/-!
# The connection of a station interface

The interface authenticates with an access point, associates with it, and notices when the
access point is gone.  `jiffies` is an integer here and does not wrap.
-/

namespace IwlwifiStack

/-- `enum nl80211_auth_type` -/
inductive Nl80211AuthType
  | openSystem | sharedKey | ft | networkEap | sae | filsSk | filsSkPfs | filsPk | other
  deriving DecidableEq, Repr

inductive WlanAuth
  | openSystem | sharedKey | ft | sae | filsSk | filsSkPfs | filsPk | leap
  deriving DecidableEq, Repr

/-- The number of an algorithm in an authentication frame. -/
def WlanAuth.code : WlanAuth → ℕ
  | .openSystem => 0
  | .sharedKey => 1
  | .ft => 2
  | .sae => 3
  | .filsSk => 4
  | .filsSkPfs => 5
  | .filsPk => 6
  | .leap => 128

inductive MgdErrno
  | opNotSupp | busy | inval | noMem | noLink | exist | timedOut | notConn | other
  deriving DecidableEq, Repr

structure MgdBss where
  id : ℕ
  bssid : ℕ
  deriving DecidableEq, Repr

/-- `struct ieee80211_mgd_auth_data` -/
structure MgdAuthData where
  bss : MgdBss
  apAddr : ℕ
  linkId : ℤ
  algorithm : WlanAuth
  expectedTransaction : ℕ
  saeTrans : ℕ
  saeStatus : ℕ
  tries : ℕ
  timeout : ℤ
  timeoutStarted : Bool
  done : Bool
  waiting : Bool
  peerConfirmed : Bool
  deriving DecidableEq, Repr

/-- `struct ieee80211_mgd_assoc_data` -/
structure MgdAssocData where
  apAddr : ℕ
  tries : ℕ
  timeout : ℤ
  timeoutStarted : Bool
  comeback : Bool
  needBeacon : Bool
  fils : Bool
  deriving DecidableEq, Repr

/-- What kind of frame a status is for. -/
inductive ConnFrame
  | auth | assocReq | reassocReq | other
  deriving DecidableEq, Repr

/-- The device, the driver and the parameters of the module. -/
structure ManagedHw where
  hz : ℤ
  reportsTxAckStatus : Bool
  needDtimBeforeAssoc : Bool
  fipsEnabled : Bool
  maxNullfuncTries : ℕ
  maxProbeTries : ℕ
  probeWait : ℤ
  roundJiffiesUp : ℤ → ℤ

/-- What `struct ieee80211_if_managed` and the interface know of the connection.  `stas` are
the stations of the interface that are access points. -/
structure ManagedSdata where
  jiffies : ℤ
  authData : Option MgdAuthData
  assocData : Option MgdAssocData
  associated : Bool
  apAddr : ℕ
  stas : List ℕ
  haveBeacon : Bool
  timer : Option ℤ
  workQueued : Bool
  statusReceived : Bool
  statusFc : ConnFrame
  statusAcked : Bool
  connectionPoll : Bool
  probeSendCount : ℕ
  nullfuncFailed : Bool
  probeTimeout : ℤ
  connectionLoss : Bool
  driverDisconnect : Bool
  reconnect : Bool
  /-- `SCAN_SW_SCANNING` of the device, for a scan of whatever interface. -/
  swScanning : Bool
  inReconfig : Bool
  deriving DecidableEq, Repr

/-- What is told to cfg80211, what is sent, and the warnings. -/
inductive ManagedOutput
  /-- A request to authenticate or to associate returns zero. -/
  | authAccepted (apAddr : ℕ)
  | assocAccepted (apAddr : ℕ)
  | refused (err : MgdErrno)
  | authFrame (apAddr trans : ℕ)
  | assocFrame (apAddr : ℕ)
  | nullfunc
  | probeReq (unicast : Bool)
  | rxAuth (apAddr trans status : ℕ)
  | authTimeout (apAddr : ℕ)
  | assocResp (apAddr : ℕ) (success : Bool)
  | assocFailure (apAddr : ℕ) (timeout : Bool)
  | assocComeback (apAddr : ℕ)
  | disconnected (apAddr : ℕ) (reconnect : Bool)
  /-- A frame is passed on that does not end a connection. -/
  | rxMgmt (apAddr : ℕ)
  | txMgmt (apAddr : ℕ)
  /-- A station, an attempt or the connection is missing. -/
  | warn
  deriving DecidableEq, Repr

/-- `enum assoc_status` -/
inductive AssocStatus
  | success | rejected | timeout | abandon
  deriving DecidableEq, Repr

structure AuthRequest where
  authType : Nl80211AuthType
  bss : MgdBss
  linkId : ℤ
  apMldAddr : Option ℕ
  authData : List UInt8
  deriving Repr

structure AssocRequest where
  bss : MgdBss
  linkId : ℤ
  apMldAddr : Option ℕ
  beaconInterval : ℕ
  beaconIes : Bool
  fils : Bool
  deriving DecidableEq, Repr

/-- What `ieee80211_prep_connection` meets. -/
structure PrepView where
  validLinks : Bool
  setLinks : Option MgdErrno
  linkFound : Bool
  staAlloc : Bool
  setupLinkSta : Option MgdErrno
  prepChannel : Option MgdErrno
  insert : Option MgdErrno

structure AuthView where
  csaInProcess : Bool
  noMem : Bool
  moved : Bool
  prep : PrepView

structure AssocView where
  use4addr : Bool
  noMem : Bool
  csaInProcess : Bool
  ssidOk : Bool
  /-- The checks of the access point's elements. -/
  capabilities : Option MgdErrno
  kekTooLong : Bool
  setLinks : Option MgdErrno
  linkFound : Bool
  /-- The link is `deflink`, whose `have_beacon` is the one that is read. -/
  deflink : Bool
  otherChannels : Option MgdErrno
  override : Bool
  prep : PrepView

structure AuthFrame where
  lenOk : Bool
  bssid : ℕ
  authAlg : ℕ
  transaction : ℕ
  status : ℕ
  challenge : Bool
  deriving DecidableEq, Repr

structure DeauthFrame where
  lenOk : Bool
  bssid : ℕ
  sa : ℕ
  deriving DecidableEq, Repr

structure AssocRespFrame where
  lenOk : Bool
  bssid : ℕ
  sa : ℕ
  status : ℕ
  /-- The value of the timeout interval element with an association comeback time. -/
  comeback : Option ℕ
  deriving DecidableEq, Repr

/-- What becomes of the parts of an association response. -/
structure AssocRespView where
  decrypted : Bool
  parsed : Bool
  mld : Bool
  mlBasicOk : Bool
  linksOk : Bool
  beaconIes : Bool
  /-- No link fails once its beacon was looked for. -/
  configured : Bool
  moved : Bool

structure BeaconView where
  /-- It is long enough and comes from the channel in use. -/
  valid : Bool
  mld : Bool
  fromAssocBss : Bool
  fromBss : Bool
  parsed : Bool
  ssidMismatch : Bool
  changed : Bool
  bwFails : Bool

structure ProbeView where
  running : Bool
  busy : Bool
  suspending : Bool

namespace ManagedSdata

variable (hw : ManagedHw)

def initial : ManagedSdata where
  jiffies := 0
  authData := none
  assocData := none
  associated := false
  apAddr := 0
  stas := []
  haveBeacon := false
  timer := none
  workQueued := false
  statusReceived := false
  statusFc := .other
  statusAcked := false
  connectionPoll := false
  probeSendCount := 0
  nullfuncFailed := false
  probeTimeout := 0
  connectionLoss := false
  driverDisconnect := false
  reconnect := false
  swScanning := false
  inReconfig := false

def runAgain (s : ManagedSdata) (timeout : ℤ) : ManagedSdata :=
  if s.timer.all fun expires => decide (timeout < expires) then { s with timer := some timeout }
  else s

/-- `ieee80211_set_disassoc`, with the address in the frame that it writes. -/
def setDisassoc (s : ManagedSdata) : ManagedSdata × ℕ × List ManagedOutput :=
  if s.apAddr ∉ s.stas then (s, 0, [.warn])
  else if !s.associated then (s, 0, [.warn])
  else
    ({ s with
      associated := false
      connectionPoll := false
      apAddr := 0
      stas := []
      timer := none
      haveBeacon := false }, s.apAddr, [])

/-- `ieee80211_set_disassoc` and `ieee80211_report_disconnect` of the frame written. -/
def disassocReport (s : ManagedSdata) (reconnect : Bool) : ManagedSdata × List ManagedOutput :=
  let gone := s.setDisassoc
  (gone.1, gone.2.2 ++ [.disconnected gone.2.1 reconnect])

/-- `__ieee80211_disconnect` -/
def disconnect (s : ManagedSdata) : ManagedSdata × List ManagedOutput :=
  if !s.associated then (s, [])
  else
    let gone := s.disassocReport s.reconnect
    ({ gone.1 with reconnect := false }, gone.2)

def destroyAuthData (s : ManagedSdata) (assoc : Bool) : ManagedSdata :=
  match s.authData with
  | none => s
  | some data =>
    if assoc then { s with authData := none }
    else
      { s with
        authData := none
        timer := none
        stas := s.stas.erase data.apAddr
        connectionPoll := false }

def destroyAssocData (s : ManagedSdata) (status : AssocStatus) :
    ManagedSdata × List ManagedOutput :=
  match s.assocData with
  | none => (s, [])
  | some data =>
    if status = .success then ({ s with assocData := none }, [])
    else
      ({ s with
        assocData := none
        timer := none
        stas := s.stas.erase data.apAddr
        connectionPoll := false },
        if status = .rejected then []
        else [.assocFailure data.apAddr (decide (status = .timeout))])

def authChallenge (s : ManagedSdata) (data : MgdAuthData) (frame : AuthFrame) :
    ManagedSdata × List ManagedOutput :=
  if !frame.challenge then (s, [])
  else
    ({ s with authData := some { data with expectedTransaction := 4 } },
      [.authFrame data.apAddr 3])

def markStaAuth (s : ManagedSdata) (data : MgdAuthData) (moved : Bool) :
    ManagedSdata × List ManagedOutput × Bool :=
  let timeout := s.jiffies + hw.hz * 5
  let marked := { s with authData := some { data with
    done := true, timeout := timeout, timeoutStarted := true } }.runAgain timeout
  if data.apAddr ∉ marked.stas then (marked, [.warn], false)
  else (marked, [], moved)

/-- The frame is not the one that comes next. -/
def unexpected (data : MgdAuthData) (frame : AuthFrame) : Bool :=
  decide (frame.authAlg ≠ data.algorithm.code) ||
    (decide (frame.authAlg ≠ WlanAuth.sae.code) &&
      decide (frame.transaction ≠ data.expectedTransaction)) ||
    (decide (frame.authAlg = WlanAuth.sae.code) &&
      (decide (frame.transaction < data.expectedTransaction) || decide (2 < frame.transaction)))

/-- The access point wants the exchange to go on: `WLAN_STATUS_ANTI_CLOG_REQUIRED`,
`WLAN_STATUS_SAE_HASH_TO_ELEMENT` or `WLAN_STATUS_SAE_PK`. -/
def saeContinues (frame : AuthFrame) : Bool :=
  decide (frame.authAlg = WlanAuth.sae.code) &&
    (decide (frame.status = 76) || (decide (frame.transaction = 1) &&
      (decide (frame.status = 126) || decide (frame.status = 127))))

/-- `ieee80211_rx_mgmt_auth`; `moved` says that the station went to the state
`IEEE80211_STA_AUTH`. -/
def rxMgmtAuth (s : ManagedSdata) (frame : AuthFrame) (moved : Bool) :
    ManagedSdata × List ManagedOutput :=
  if !frame.lenOk then (s, [])
  else match s.authData with
    | none => (s, [])
    | some data =>
      let report := ManagedOutput.rxAuth frame.bssid frame.transaction frame.status
      if data.done || decide (data.apAddr ≠ frame.bssid) then (s, [])
      else if unexpected data frame then (s, [])
      else if frame.status ≠ 0 then
        if saeContinues frame then
          let timeout := s.jiffies + hw.hz * 2
          ({ s with authData := some { data with
            waiting := true, timeout := timeout, timeoutStarted := true } }.runAgain timeout,
            [report])
        else (s.destroyAuthData false, [report])
      else if data.algorithm = .sharedKey ∧ data.expectedTransaction ≠ 4 then
        s.authChallenge data frame
      else if data.algorithm ≠ .sae ∨
          (frame.transaction = 2 ∧ data.expectedTransaction = 2) then
        let marked := s.markStaAuth hw data moved
        -- Without the station the frame is ignored, but the attempt stays marked.
        (marked.1, marked.2.1 ++ if marked.2.2 then [report] else [])
      else if frame.transaction = 2 then
        ({ s with authData := some { data with peerConfirmed := true } }, [report])
      else (s, [report])

def rxMgmtDeauth (s : ManagedSdata) (frame : DeauthFrame) : ManagedSdata × List ManagedOutput :=
  if !frame.lenOk then (s, [])
  else if frame.bssid ≠ frame.sa then (s, [])
  else if s.associated ∧ frame.bssid = s.apAddr then
    let gone := s.setDisassoc
    (gone.1, gone.2.2 ++ [.disconnected frame.bssid false])
  else if s.assocData.any fun data => decide (frame.bssid = data.apAddr) then
    let gone := s.destroyAssocData .abandon
    (gone.1, gone.2 ++ [.rxMgmt frame.bssid])
  else (s, [])

def rxMgmtDisassoc (s : ManagedSdata) (frame : DeauthFrame) :
    ManagedSdata × List ManagedOutput :=
  if !frame.lenOk then (s, [])
  else if !s.associated ∨ frame.bssid ≠ s.apAddr then (s, [])
  else if frame.bssid ≠ frame.sa then (s, [])
  else
    let gone := s.setDisassoc
    (gone.1, gone.2.2 ++ [.disconnected frame.bssid false])

/-- `ieee80211_assoc_success` and `ieee80211_set_associated` -/
def assocSuccess (s : ManagedSdata) (data : MgdAssocData) (view : AssocRespView) :
    ManagedSdata × List ManagedOutput × Bool :=
  if data.apAddr ∉ s.stas then ({ s with apAddr := 0 }, [.warn], false)
  else if !view.linksOk then ({ s with apAddr := 0 }, [], false)
  else
    let known := { s with haveBeacon := s.haveBeacon || (!view.mld && view.beaconIes) }
    if !view.configured then ({ known with apAddr := 0 }, [], false)
    else if !view.moved then
      ({ known with stas := s.stas.erase data.apAddr, apAddr := 0 }, [], false)
    else ({ known with associated := true, connectionPoll := false }, [], true)

/-- `tu * 1024 / 1000` in 32 bits. -/
def comebackMs (tu : ℕ) : ℕ :=
  tu * 1024 % 2 ^ 32 / 1000

def msecsToJiffies (ms : ℕ) : ℤ :=
  (ms * hw.hz + 999) / 1000

def usecsToJiffies (us : ℕ) : ℤ :=
  (us * hw.hz + 999999) / 1000000

/-- `ieee80211_rx_mgmt_assoc_resp`; 30 is `WLAN_STATUS_ASSOC_REJECTED_TEMPORARILY`. -/
def rxMgmtAssocResp (s : ManagedSdata) (frame : AssocRespFrame) (view : AssocRespView) :
    ManagedSdata × List ManagedOutput :=
  match s.assocData with
  | none => (s, [])
  | some data =>
    if data.apAddr ≠ frame.bssid ∨ data.apAddr ≠ frame.sa then (s, [])
    else if !frame.lenOk then (s, [])
    else if data.fils && !view.decrypted then (s, [])
    else if !view.parsed then (s, [])
    else if frame.status = 30 ∧ frame.comeback.isSome then
      let ms := comebackMs (frame.comeback.getD 0)
      let timeout := s.jiffies + msecsToJiffies hw ms
      let later := { s with assocData := some { data with
        timeout := timeout, timeoutStarted := true, comeback := true } }
      -- The milliseconds are compared with a number of jiffies.
      (if hw.hz / 5 < ms then later.runAgain timeout else later, [.assocComeback data.apAddr])
    else if frame.status ≠ 0 then
      let gone := s.destroyAssocData .rejected
      (gone.1, gone.2 ++ [.assocResp data.apAddr false])
    else if view.mld && !view.mlBasicOk then s.destroyAssocData .abandon
    else
      let joined := s.assocSuccess data view
      if !joined.2.2 then
        let gone := joined.1.destroyAssocData .timeout
        (gone.1, joined.2.1 ++ gone.2)
      else
        let gone := joined.1.destroyAssocData .success
        (gone.1, joined.2.1 ++ gone.2 ++ [.assocResp data.apAddr true])

def resetApProbe (s : ManagedSdata) : ManagedSdata :=
  if !s.connectionPoll then s else { s with connectionPoll := false }

/-- `ieee80211_rx_mgmt_beacon` -/
def rxMgmtBeacon (s : ManagedSdata) (view : BeaconView) : ManagedSdata × List ManagedOutput :=
  if !view.valid then (s, [])
  else if (s.assocData.any fun data => data.needBeacon) && !view.mld && view.fromAssocBss then
    if !view.parsed then (s, [])
    else match s.assocData with
      | none => (s, [])
      | some data =>
        ({ s with
          haveBeacon := true
          assocData := some { data with
            needBeacon := false, timeout := s.jiffies, timeoutStarted := true } }.runAgain
          s.jiffies, [])
  else if !s.associated || !view.fromBss then (s, [])
  else
    let heard := s.resetApProbe
    if !view.parsed then (heard, [])
    else if view.ssidMismatch then heard.disconnect
    else if !view.changed then (heard, [])
    else
      let known := { heard with haveBeacon := heard.haveBeacon || !view.mld }
      if view.bwFails then known.disassocReport false else (known, [])

def rxMgmtProbeResp (s : ManagedSdata) (fromBss : Bool) : ManagedSdata :=
  if s.associated && fromBss then s.resetApProbe else s

def mgdProbeApSend (s : ManagedSdata) : ManagedSdata × List ManagedOutput :=
  let unicast := decide (s.probeSendCount < max 1 (hw.maxProbeTries - 3) % 256)
  let timeout := s.jiffies + hw.probeWait
  let sent := { s with
    probeSendCount := s.probeSendCount + 1
    nullfuncFailed := if hw.reportsTxAckStatus then false else s.nullfuncFailed
    probeTimeout := timeout }
  (sent.runAgain timeout,
    (if unicast && decide (s.apAddr ∉ s.stas) then [.warn] else []) ++
      [if hw.reportsTxAckStatus then .nullfunc else .probeReq unicast])

/-- `ieee80211_mgd_probe_ap` -/
def mgdProbeAp (s : ManagedSdata) (view : ProbeView) : ManagedSdata × List ManagedOutput :=
  if !view.running then (s, [])
  else if !s.associated then (s, [])
  else if view.busy || s.swScanning then (s, [])
  else if view.suspending then (s.resetApProbe, [])
  else if s.connectionPoll then (s, [])
  else { s with connectionPoll := true, probeSendCount := 0 }.mgdProbeApSend hw

def beaconConnectionLossWork (s : ManagedSdata) (view : ProbeView) :
    ManagedSdata × List ManagedOutput :=
  if s.connectionLoss then
    ({ s.disconnect.1 with connectionLoss := false }, s.disconnect.2)
  else if s.driverDisconnect then
    ({ s.disconnect.1 with driverDisconnect := false }, s.disconnect.2)
  else s.mgdProbeAp hw view

/-- `ieee80211_sta_tx_notify` of a null frame. -/
def staTxNotify (s : ManagedSdata) (ack : Bool) : ManagedSdata :=
  if s.probeSendCount = 0 then s
  else if ack then { s with probeSendCount := 0, workQueued := true }
  else { s with nullfuncFailed := true, workQueued := true }

/-- `ieee80211_auth` -/
def auth (s : ManagedSdata) : ManagedSdata × List ManagedOutput × Option MgdErrno :=
  match s.authData with
  | none => (s, [.warn], some .inval)
  | some data =>
    if 3 < data.tries + 1 then
      ({ s with authData := some { data with tries := data.tries + 1 } }, [], some .timedOut)
    else
      let trans := if data.algorithm = .sae then data.saeTrans else 1
      let timeout := if hw.reportsTxAckStatus then hw.roundJiffiesUp (s.jiffies + hw.hz / 2)
        else if data.algorithm = .sae then s.jiffies + hw.hz * 2
        else s.jiffies + hw.hz / 5
      ({ s with authData := some { data with
        tries := data.tries + 1
        expectedTransaction := if data.algorithm = WlanAuth.sae then trans else 2
        timeout := timeout
        timeoutStarted := true } }.runAgain timeout, [.authFrame data.apAddr trans], none)

/-- `ieee80211_do_assoc` -/
def doAssoc (s : ManagedSdata) (data : MgdAssocData) (sendErr : Option MgdErrno) :
    ManagedSdata × List ManagedOutput × Option MgdErrno :=
  let tried := { data with tries := data.tries + 1, comeback := false }
  if 3 < tried.tries then ({ s with assocData := some tried }, [], some .timedOut)
  else if sendErr.isSome then ({ s with assocData := some tried }, [], sendErr)
  else
    let timeout := if hw.reportsTxAckStatus then hw.roundJiffiesUp (s.jiffies + hw.hz / 2)
      else s.jiffies + hw.hz / 5
    ({ s with assocData := some { tried with
      timeout := timeout, timeoutStarted := true } }.runAgain timeout,
      [.assocFrame data.apAddr], none)

/-- `ieee80211_mgd_conn_tx_status` -/
def mgdConnTxStatus (s : ManagedSdata) (fc : ConnFrame) (acked : Bool) : ManagedSdata :=
  { s with statusFc := fc, statusAcked := acked, statusReceived := true, workQueued := true }

/-- The authentication frame was acknowledged or not. -/
def authStatus (s : ManagedSdata) : ManagedSdata :=
  match s.authData with
  | none => s
  | some data =>
    let timeout := if !s.statusAcked then s.jiffies - 1
      else if data.algorithm = .sae then s.jiffies + hw.hz * 2
      else s.jiffies + hw.hz / 10
    let later := { s with authData := some { data with
      timeout := timeout, timeoutStarted := true } }
    if s.statusAcked then later.runAgain timeout else later

/-- The same for an association request, unless the access point asked to come back later. -/
def assocStatus (s : ManagedSdata) : ManagedSdata :=
  match s.assocData with
  | none => s
  | some data =>
    if !data.comeback ∧ (s.statusFc = .assocReq ∨ s.statusFc = .reassocReq) then
      let timeout := if !s.statusAcked then s.jiffies - 1 else s.jiffies + hw.hz / 10
      let later := { s with assocData := some { data with
        timeout := timeout, timeoutStarted := true } }
      if s.statusAcked then later.runAgain timeout else later
    else s

/-- The first part of `ieee80211_sta_work`. -/
def statusWork (s : ManagedSdata) : ManagedSdata :=
  if !s.statusReceived then s
  else
    let taken := { s with statusReceived := false }
    if taken.authData.isSome ∧ taken.statusFc = .auth then taken.authStatus hw
    else taken.assocStatus hw

/-- The part about the attempt to authenticate. -/
def authWork (s : ManagedSdata) : ManagedSdata × List ManagedOutput :=
  match s.authData with
  | none => (s, [])
  | some data =>
    if !data.timeoutStarted then (s, [])
    else if data.timeout < s.jiffies then
      if data.done ∨ data.waiting then (s.destroyAuthData false, [])
      else
        let tried := s.auth hw
        if tried.2.2.isSome then
          (tried.1.destroyAuthData false, tried.2.1 ++ [.authTimeout data.apAddr])
        else (tried.1, tried.2.1)
    else (s.runAgain data.timeout, [])

/-- The part about the attempt to associate. -/
def assocWork (s : ManagedSdata) (sendErr : Option MgdErrno) :
    ManagedSdata × List ManagedOutput :=
  match s.assocData with
  | none => (s, [])
  | some data =>
    if !data.timeoutStarted then (s, [])
    else if data.timeout < s.jiffies then
      if data.needBeacon ∧ !s.haveBeacon then s.destroyAssocData .timeout
      else
        let tried := s.doAssoc hw data sendErr
        if tried.2.2.isSome then
          ((tried.1.destroyAssocData .timeout).1,
            tried.2.1 ++ (tried.1.destroyAssocData .timeout).2)
        else (tried.1, tried.2.1)
    else (s.runAgain data.timeout, [])

/-- The part about the probes to an access point that is not heard of. -/
def pollWork (s : ManagedSdata) : ManagedSdata × List ManagedOutput :=
  let maxTries := if hw.reportsTxAckStatus then hw.maxNullfuncTries else hw.maxProbeTries
  if !s.connectionPoll || !s.associated then (s, [])
  else if s.probeSendCount = 0 then (s.resetApProbe, [])
  else if s.nullfuncFailed then
    if s.probeSendCount < maxTries then s.mgdProbeApSend hw else s.disassocReport false
  else if s.jiffies < s.probeTimeout then (s.runAgain s.probeTimeout, [])
  else if hw.reportsTxAckStatus then s.disassocReport false
  else if s.probeSendCount < maxTries then s.mgdProbeApSend hw
  else s.disassocReport false

/-- `ieee80211_sta_work`; `sendErr` is what `ieee80211_send_assoc` would return. -/
def staWork (s : ManagedSdata) (sendErr : Option MgdErrno) :
    ManagedSdata × List ManagedOutput :=
  let authed := (s.statusWork hw).authWork hw
  let assoced := authed.1.assocWork hw sendErr
  let polled := assoced.1.pollWork hw
  (polled.1, authed.2 ++ assoced.2 ++ polled.2)

/-- The works of the interface are ignored. -/
def ignoresWork (s : ManagedSdata) : Bool := s.swScanning || s.inReconfig

/-- `ieee80211_iface_work` without the frames in its queues, which are events of their own. -/
def ifaceWork (s : ManagedSdata) (sendErr : Option MgdErrno) :
    ManagedSdata × List ManagedOutput :=
  if s.ignoresWork then (s, []) else s.staWork hw sendErr

/-- The end of `__ieee80211_scan_completed` for the interface. -/
def scanCompleted (s : ManagedSdata) : ManagedSdata :=
  { s with connectionPoll := false, swScanning := false, workQueued := true }

/-- `ieee80211_prep_connection`, as far as the stations go. -/
def prepConnection (s : ManagedSdata) (bss : MgdBss) (linkId : ℤ) (apMldAddr : Option ℕ)
    (assoc override : Bool) (view : PrepView) :
    ManagedSdata × List ManagedOutput × Option MgdErrno :=
  if decide (0 ≤ linkId) ≠ apMldAddr.isSome then (s, [], some .inval)
  else
    let addr := apMldAddr.getD bss.bssid
    let haveSta := assoc && decide (addr ∈ s.stas)
    if decide (0 ≤ linkId) && !haveSta && view.validLinks then (s, [], some .inval)
    else if view.setLinks.isSome then (s, [], view.setLinks)
    else if !view.linkFound then (s, [], some .noLink)
    else if s.authData.isNone ∧ s.assocData.isNone then (s, [.warn], some .inval)
    else if s.inReconfig then (s, [], some .busy)
    else if !haveSta && !view.staAlloc then (s, [], some .noMem)
    else if !haveSta && view.setupLinkSta.isSome then (s, [], view.setupLinkSta)
    else if (!haveSta || override) && view.prepChannel.isSome then (s, [], view.prepChannel)
    else if haveSta then (s, [], none)
    else if addr ∈ s.stas then (s, [], some .exist)
    else if view.insert.isSome then (s, [], view.insert)
    else ({ s with stas := addr :: s.stas }, [], none)

/-- The algorithm for the type in the request, as the start of `ieee80211_mgd_auth` has it. -/
def authAlg : Nl80211AuthType → Option WlanAuth
  | .openSystem => some .openSystem
  | .sharedKey => if hw.fipsEnabled then none else some .sharedKey
  | .ft => some .ft
  | .networkEap => some .leap
  | .sae => some .sae
  | .filsSk => some .filsSk
  | .filsSkPfs => some .filsSkPfs
  | .filsPk => some .filsPk
  | .other => none

/-- The request goes on with the attempt under way. -/
def contAuth (s : ManagedSdata) (req : AuthRequest) : Bool :=
  s.authData.any fun data => decide (req.bss = data.bss) && decide (data.linkId = req.linkId)

def le16 (bytes : List UInt8) (pos : ℕ) : ℕ :=
  (bytes.getD pos 0).toNat + 256 * (bytes.getD (pos + 1) 0).toNat

/-- The data of a new attempt. -/
def newAuthData (s : ManagedSdata) (req : AuthRequest) (alg : WlanAuth) : MgdAuthData where
  bss := req.bss
  apAddr := req.apMldAddr.getD req.bss.bssid
  linkId := req.linkId
  algorithm := alg
  expectedTransaction := 0
  saeTrans := if 4 ≤ req.authData.length ∧ req.authType = .sae then le16 req.authData 0 else 0
  saeStatus := if 4 ≤ req.authData.length ∧ req.authType = .sae then le16 req.authData 2 else 0
  tries := 0
  timeout := 0
  timeoutStarted := false
  done := false
  waiting := false
  peerConfirmed := s.contAuth req && decide (req.authType = .sae) &&
    s.authData.any MgdAuthData.peerConfirmed

/-- The old attempt and the old connection are given up for a new attempt. -/
def mgdAuthReplace (s : ManagedSdata) (req : AuthRequest) (data : MgdAuthData) (moved : Bool) :
    ManagedSdata × List ManagedOutput :=
  let dropped := { s.destroyAuthData (s.contAuth req) with authData := some data }
  let marked :=
    if s.contAuth req ∧ req.authType = .sae ∧ data.peerConfirmed ∧ data.saeTrans = 2 then
      ((dropped.markStaAuth hw data moved).1, (dropped.markStaAuth hw data moved).2.1)
    else (dropped, [])
  let left := if marked.1.associated then marked.1.disassocReport false else (marked.1, [])
  ({ left.1 with apAddr := data.apAddr }, marked.2 ++ left.2)

/-- `ieee80211_mgd_auth` -/
def mgdAuth (s : ManagedSdata) (req : AuthRequest) (view : AuthView) :
    ManagedSdata × List ManagedOutput :=
  match authAlg hw req.authType with
  | none => (s, [.refused .opNotSupp])
  | some alg =>
    if s.assocData.isSome then (s, [.refused .busy])
    else if view.csaInProcess then (s, [.refused .inval])
    else if view.noMem then (s, [.refused .noMem])
    else
      let data := s.newAuthData req alg
      let ready := s.mgdAuthReplace hw req data view.moved
      let prep := ready.1.prepConnection req.bss req.linkId req.apMldAddr (s.contAuth req) false
        view.prep
      if prep.2.2.isSome then
        ({ prep.1 with authData := none },
          ready.2 ++ prep.2.1 ++ [.refused (prep.2.2.getD .other)])
      else
        let sent := prep.1.auth hw
        if sent.2.2.isSome then
          ({ sent.1 with authData := none, stas := sent.1.stas.erase data.apAddr },
            ready.2 ++ prep.2.1 ++ sent.2.1 ++ [.refused (sent.2.2.getD .other)])
        else (sent.1, ready.2 ++ prep.2.1 ++ sent.2.1 ++ [.authAccepted data.apAddr])

/-- The attempt to associate that a request asks for; with `waits` it needs a beacon first. -/
def newAssocData (s : ManagedSdata) (req : AssocRequest) (waits : Bool) : MgdAssocData where
  apAddr := req.apMldAddr.getD req.bss.bssid
  tries := 0
  timeout := if waits then s.jiffies + usecsToJiffies hw (req.beaconInterval * 1024)
    else s.jiffies
  timeoutStarted := true
  comeback := false
  needBeacon := waits
  fils := req.fils

/-- The attempt to authenticate is for the same access point and link. -/
def matchAuth (s : ManagedSdata) (req : AssocRequest) : Bool :=
  s.authData.any fun data =>
    decide (data.apAddr = req.apMldAddr.getD req.bss.bssid) && decide (data.linkId = req.linkId)

/-- `ieee80211_mgd_assoc` once the old connection is gone. -/
def mgdAssocStart (s : ManagedSdata) (req : AssocRequest) (view : AssocView) :
    ManagedSdata × List ManagedOutput :=
  if view.capabilities.isSome then (s, [.refused (view.capabilities.getD .other)])
  else if s.authData.any fun data => !data.done then (s, [.refused .busy])
  else if s.assocData.isSome then (s, [.refused .busy])
  else
    let kept := if s.matchAuth req then s else s.destroyAuthData false
    if req.fils ∧ view.kekTooLong then (kept, [.refused .inval])
    else if req.apMldAddr.isSome ∧ view.setLinks.isSome then
      (kept, [.refused (view.setLinks.getD .other)])
    else if !view.linkFound then (kept, [.refused .inval])
    else
      -- `ieee80211_setup_assoc_link`
      let known :=
        if view.deflink then { kept with haveBeacon := req.beaconIes } else kept
      if view.otherChannels.isSome then
        (known, [.refused (view.otherChannels.getD .other)])
      else
        let data := s.newAssocData hw req false
        let prep := { known with
          assocData := some data, apAddr := data.apAddr }.prepConnection req.bss req.linkId
            req.apMldAddr true view.override view.prep
        if prep.2.2.isSome then
          ({ prep.1 with assocData := none }, prep.2.1 ++ [.refused (prep.2.2.getD .other)])
        else
          let waits := hw.needDtimBeforeAssoc && !req.beaconIes
          let started := { prep.1 with
            assocData := some (s.newAssocData hw req waits) }.runAgain
              (s.newAssocData hw req waits).timeout
          (started.destroyAuthData true, prep.2.1 ++ [.assocAccepted data.apAddr])

/-- `ieee80211_mgd_assoc` -/
def mgdAssoc (s : ManagedSdata) (req : AssocRequest) (view : AssocView) :
    ManagedSdata × List ManagedOutput :=
  if view.use4addr ∧ 0 ≤ req.linkId then (s, [.refused .opNotSupp])
  else if view.noMem then (s, [.refused .noMem])
  else if view.csaInProcess then (s, [.refused .inval])
  else if !view.ssidOk then (s, [.refused .inval])
  else
    let left := if s.associated then s.disassocReport false else (s, [])
    let started := left.1.mgdAssocStart hw req view
    (started.1, left.2 ++ started.2)

/-- `ieee80211_mgd_deauth` -/
def mgdDeauth (s : ManagedSdata) (bssid : ℕ) : ManagedSdata × List ManagedOutput :=
  if s.authData.any fun data => decide (data.apAddr = bssid) then
    (s.destroyAuthData false, [.disconnected bssid false])
  else if s.assocData.any fun data => decide (data.apAddr = bssid) then
    let gone := s.destroyAssocData .abandon
    (gone.1, gone.2 ++ [.disconnected bssid false])
  else if s.associated ∧ s.apAddr = bssid then s.disassocReport false
  else (s, [.refused .notConn])

/-- `ieee80211_mgd_disassoc` -/
def mgdDisassoc (s : ManagedSdata) (apAddr : ℕ) : ManagedSdata × List ManagedOutput :=
  if !s.associated ∨ s.apAddr ≠ apAddr then (s, [.refused .notConn])
  else s.disassocReport false

/-- The attempts that `ieee80211_mgd_quiesce` gives up. -/
def quiesceAttempts (s : ManagedSdata) : ManagedSdata × List ManagedOutput :=
  if s.authData.isNone ∧ s.assocData.isNone then (s, [])
  else
    let addr := (s.authData.map MgdAuthData.apAddr).getD
      ((s.assocData.map MgdAssocData.apAddr).getD 0)
    let gone := s.destroyAssocData .abandon
    (gone.1.destroyAuthData false, gone.2 ++ [.txMgmt addr])

/-- `ieee80211_mgd_quiesce` -/
def mgdQuiesce (s : ManagedSdata) (wowlan : Bool) : ManagedSdata × List ManagedOutput :=
  let gone := s.quiesceAttempts
  if gone.1.associated ∧ !wowlan then
    ((gone.1.mgdDeauth gone.1.apAddr).1, gone.2 ++ (gone.1.mgdDeauth gone.1.apAddr).2)
  else gone

/-- `ieee80211_sta_restart`; `asked` says that the driver wants to disconnect. -/
def staRestart (s : ManagedSdata) (asked : Bool) : ManagedSdata × List ManagedOutput :=
  if !s.associated then (s, [])
  else if asked then s.disassocReport false
  else (s, [.nullfunc])

/-- The end of `ieee80211_reconfig` for the interface, also when the device resumes. -/
def reconfigDone (s : ManagedSdata) (asked : Bool) : ManagedSdata × List ManagedOutput :=
  { s with inReconfig := false, workQueued := s.workQueued || s.inReconfig }.staRestart asked

/-- `ieee80211_mgd_stop` -/
def mgdStop (s : ManagedSdata) : ManagedSdata × List ManagedOutput :=
  let gone := s.destroyAssocData .timeout
  ({ gone.1.destroyAuthData false with timer := none }, gone.2)

end ManagedSdata

/-- What happens to an interface; `disconnectWork` stands for the works that call
`__ieee80211_disconnect`. -/
inductive ManagedEvent
  | auth (req : AuthRequest) (view : AuthView)
  | assoc (req : AssocRequest) (view : AssocView)
  | deauth (bssid : ℕ)
  | disassoc (apAddr : ℕ)
  | rxAuth (frame : AuthFrame) (moved : Bool)
  | rxDeauth (frame : DeauthFrame)
  | rxDisassoc (frame : DeauthFrame)
  | rxAssocResp (frame : AssocRespFrame) (view : AssocRespView)
  | rxBeacon (view : BeaconView)
  | rxProbeResp (fromBss : Bool)
  | connTxStatus (fc : ConnFrame) (acked : Bool)
  | txNotify (ack : Bool)
  | timer
  | work (sendErr : Option MgdErrno)
  | beaconLoss
  | connectionLoss
  | driverDisconnect (reconnect : Bool)
  | lossWork (view : ProbeView)
  | monitorWork (view : ProbeView)
  | disconnectWork
  /-- A software scan starts. -/
  | scanStart
  | scanCompleted
  | quiesce (wowlan : Bool)
  | restartHw
  | restart (asked : Bool)
  /-- `ieee80211_handle_reconfig_failure`, upon which all interfaces are stopped. -/
  | restartFailed
  | stop
  | tick (n : ℕ)

namespace ManagedSdata

variable (hw : ManagedHw)

/-- One event; the timer fires when its time has come and the work runs when it is queued. -/
def step (s : ManagedSdata) : ManagedEvent → Option (ManagedSdata × List ManagedOutput)
  | .auth req view => some (s.mgdAuth hw req view)
  | .assoc req view => some (s.mgdAssoc hw req view)
  | .deauth bssid => some (s.mgdDeauth bssid)
  | .disassoc apAddr => some (s.mgdDisassoc apAddr)
  | .rxAuth frame moved => some (s.rxMgmtAuth hw frame moved)
  | .rxDeauth frame => some (s.rxMgmtDeauth frame)
  | .rxDisassoc frame => some (s.rxMgmtDisassoc frame)
  | .rxAssocResp frame view => some (s.rxMgmtAssocResp hw frame view)
  | .rxBeacon view => some (s.rxMgmtBeacon view)
  | .rxProbeResp fromBss => some (s.rxMgmtProbeResp fromBss, [])
  | .connTxStatus fc acked => some (s.mgdConnTxStatus fc acked, [])
  | .txNotify ack => some (s.staTxNotify ack, [])
  | .timer =>
    if s.timer.any fun expires => decide (expires ≤ s.jiffies) then
      some ({ s with timer := none, workQueued := true }, [])
    else none
  | .work sendErr =>
    if s.workQueued then some ({ s with workQueued := false }.ifaceWork hw sendErr) else none
  | .beaconLoss => some ({ s with connectionLoss := false }, [])
  | .connectionLoss => some ({ s with connectionLoss := true }, [])
  | .driverDisconnect reconnect =>
    some ({ s with driverDisconnect := true, reconnect := reconnect }, [])
  | .lossWork view => some (s.beaconConnectionLossWork hw view)
  | .monitorWork view => some (s.mgdProbeAp hw view)
  | .disconnectWork => some s.disconnect
  | .scanStart => some ({ s with swScanning := true }, [])
  | .scanCompleted => some (s.scanCompleted, [])
  | .quiesce wowlan => some (s.mgdQuiesce wowlan)
  | .restartHw => some ({ s with inReconfig := true }, [])
  | .restart asked => some (s.reconfigDone asked)
  | .restartFailed => some ({ s with inReconfig := false } : ManagedSdata).mgdStop
  | .stop => some s.mgdStop
  | .tick n => some ({ s with jiffies := s.jiffies + n }, [])

end ManagedSdata

end IwlwifiStack
