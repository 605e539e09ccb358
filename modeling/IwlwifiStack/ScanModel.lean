import IwlwifiStack.FuelLoop

/-!
# Scanning

A scan is done by the driver, band by band or all at once, or by the software, which
tunes to one channel after another.  It is put off while the device must stay on
its channel.
-/

namespace IwlwifiStack

structure ScanChannel where
  centerFreq : ℕ
  band : Fin 6
  noIr : Bool
  radar : Bool
  disabled : Bool
  deriving DecidableEq, Repr

/-- `struct cfg80211_scan_request`; `internal` is said of `int_scan_req`, and the
duration is in jiffies. -/
structure ScanRequest where
  cookie : ℕ
  internal : Bool
  channels : List ScanChannel
  nSsids : ℕ
  lowPriority : Bool
  duration : ℕ
  deriving DecidableEq, Repr

/-- `enum mac80211_scan_state` -/
inductive ScanState
  | decision | setChannel | sendProbe | suspend | resume | abort
  deriving DecidableEq, Repr

/-- The bits of `local->scanning`. -/
structure ScanBits where
  swScanning : Bool
  hwScanning : Bool
  onchannelScanning : Bool
  completed : Bool
  aborted : Bool
  hwCancelled : Bool
  beaconWait : Bool
  beaconDone : Bool
  deriving DecidableEq, Repr

def ScanBits.clear : ScanBits := ⟨false, false, false, false, false, false, false, false⟩

/-- The device and its driver. -/
structure ScanHw where
  hwScan : Bool
  singleScanOnAllBands : Bool
  emulateChanctx : Bool
  cancelHwScan : Bool
  flush : Bool
  hz : ℕ
  hz_ge : 33 ≤ hz

/-- What `struct ieee80211_local` knows about scanning; of `hw_scan_req` only the
channels are kept. -/
structure ScanLocal where
  scanReq : Option ScanRequest
  scanSdata : Option ℕ
  scanning : ScanBits
  hwScanReq : Option (List ScanChannel)
  hwScanBand : ℕ
  nextScanState : ScanState
  scanChannelIdx : ℕ
  workQueued : Bool
  deriving DecidableEq, Repr

/-- What the driver answers to `hw_scan`. -/
inductive HwScanAnswer
  | started | software | failed
  deriving DecidableEq, Repr

inductive ScanErrno
  | busy | inval | noMem | opNotSupp | driver
  deriving DecidableEq, Repr

inductive ScanOutput
  | hwScan (channels : List ScanChannel) (started : Bool)
  | cancelHwScan
  | swScanStart
  | swScanComplete
  | tune (channel : ScanChannel) (tuned : Bool)
  /-- The scan stays on the operating channel. -/
  | stay (channel : ScanChannel)
  | probes (n : ℕ)
  /-- The driver is not given the channels that are left. -/
  | givenUp
  | scanDone (req : ScanRequest) (aborted : Bool)
  /-- A channel is read outside of the request. -/
  | outside
  | warn
  deriving DecidableEq, Repr

/-- What the checks at the start of a scan see. -/
structure ScanStart where
  linkOk : Bool
  canLeave : Bool
  canScan : Bool
  noMem : Bool
  iesFit : Bool
  answer : HwScanAnswer
  onOper : Bool
  p2pGo : Bool

/-- What the work sees; the traffic is looked at before each channel. -/
structure ScanView where
  canRunWorker : Bool
  running : Bool
  associated : ℕ → Bool
  txEmpty : ℕ → Bool
  badLatency : ℕ → Bool
  tuned : ℕ → Bool
  iesFit : Bool
  answer : HwScanAnswer
  start : ScanStart

namespace ScanLocal

variable (hw : ScanHw)

/-- The next band with a channel in the request, with the channels in it; `left` bands are
to be looked at. -/
def nextBand (channels : List ScanChannel) : ℕ → ℕ → List ScanChannel →
    ℕ × List ScanChannel × Bool
  | 0, band, held => (band, held, false)
  | left + 1, band, _ =>
    let inBand := channels.filter fun channel => channel.band.val = band
    if inBand = [] then nextBand channels left (band + 1) []
    else (band + 1, inBand, true)

/-- `ieee80211_prep_hw_scan` -/
def prepHwScan (l : ScanLocal) (req : ScanRequest) (iesFit : Bool) :
    ScanLocal × List ScanOutput × Bool :=
  if l.scanning.hwCancelled then (l, [.givenUp], false)
  else if hw.singleScanOnAllBands then
    ({ l with hwScanReq := some req.channels }, if iesFit then [] else [.givenUp], iesFit)
  else
    let (band, channels, more) :=
      nextBand req.channels (6 - l.hwScanBand) l.hwScanBand (l.hwScanReq.getD [])
    let l := { l with hwScanBand := band, hwScanReq := some channels }
    if more then (l, if iesFit then [] else [.givenUp], iesFit) else (l, [], false)

/-- The end of `__ieee80211_scan_completed`. -/
def finish (l : ScanLocal) (req : ScanRequest) (hwScan wasScanning aborted : Bool) :
    ScanLocal × List ScanOutput :=
  ({ l with hwScanReq := none, scanReq := none, scanSdata := none, scanning := .clear },
    (if req.internal then [] else [.scanDone req aborted]) ++
      if !hwScan && wasScanning then [.swScanComplete] else [])

/-- `__ieee80211_scan_completed` -/
def scanCompleted (l : ScanLocal) (aborted iesFit : Bool) (answer : HwScanAnswer) :
    ScanLocal × List ScanOutput :=
  let hwScan := l.scanning.hwScanning
  let wasScanning : Bool := l.scanning ≠ .clear
  let aborted := aborted || !wasScanning
  match l.scanReq with
  | none => (l, [.warn])
  | some req =>
    if hwScan && !aborted && !hw.singleScanOnAllBands then
      let (l, out, more) := l.prepHwScan hw req iesFit
      if more then
        let channels := l.hwScanReq.getD []
        if answer = .started then (l, out ++ [.hwScan channels true])
        else
          let (l, done) := l.finish req hwScan wasScanning true
          (l, out ++ .hwScan channels false :: done)
      else
        let (l, done) := l.finish req hwScan wasScanning aborted
        (l, out ++ done)
    else l.finish req hwScan wasScanning aborted

/-- What is undone when a scan does not start. -/
def unstart (l : ScanLocal) : ScanLocal :=
  { l with hwScanReq := none, scanning := .clear, scanReq := none, scanSdata := none }

def passiveChannelTime : ℕ := hw.hz / 9
def probeDelay : ℕ := hw.hz / 33
def channelTime : ℕ := hw.hz / 33

/-- `ieee80211_scan_state_send_probe`; the state and the delay after it. -/
def scanStateSendProbe (l : ScanLocal) (req : ScanRequest) : ScanLocal × List ScanOutput × ℕ :=
  ({ l with nextScanState := .decision }, [.probes req.nSsids],
    if req.duration > probeDelay hw + channelTime hw then req.duration - probeDelay hw
    else channelTime hw)

def passive (req : ScanRequest) (channel : ScanChannel) : Bool :=
  channel.noIr || channel.radar || req.nSsids = 0

/-- A scan without the driver's help, in `__ieee80211_start_scan`. -/
def startSoftware (l : ScanLocal) (o : ScanStart) (sdata : ℕ) (req : ScanRequest) :
    ScanLocal × List ScanOutput × Option ScanErrno :=
  let l := { l with scanReq := some req, scanSdata := some sdata }
  match req.channels, o.onOper with
  | [channel], true =>
    let l := { l with scanning := { l.scanning with onchannelScanning := true } }
    if passive req channel then
      ({ l with
          workQueued := true
          scanning := { l.scanning with
            beaconWait := l.scanning.beaconWait || req.nSsids ≠ 0 } },
        [.swScanStart, .stay channel], none)
    else
      let (l, out, _) := l.scanStateSendProbe hw req
      ({ l with workQueued := true }, .swScanStart :: .stay channel :: out, none)
  | _, _ =>
    let l := { l with scanning := { l.scanning with swScanning := true } }
    -- `ieee80211_start_sw_scan`
    if !hw.emulateChanctx then (l.unstart, [], some .opNotSupp)
    else
      ({ l with nextScanState := .decision, scanChannelIdx := 0, workQueued := true },
        [.swScanStart], none)

/-- `__ieee80211_start_scan` -/
def startScan (l : ScanLocal) (o : ScanStart) (sdata : ℕ) (req : ScanRequest) :
    ScanLocal × List ScanOutput × Option ScanErrno :=
  if l.scanReq.isSome then (l, [], some .busy)
  else if !o.linkOk then (l, [], some .inval)
  else if !o.canLeave then (l, [], some .busy)
  else if !o.canScan then ({ l with scanReq := some req, scanSdata := some sdata }, [], none)
  else if hw.hwScan then
    if o.noMem then (l, [], some .noMem)
    else
      let l := { l with
        hwScanReq := some []
        hwScanBand := 0
        scanReq := some req
        scanSdata := some sdata
        scanning := { l.scanning with hwScanning := true } }
      let (l, out, _) := l.prepHwScan hw req o.iesFit
      let channels := l.hwScanReq.getD []
      match o.answer with
      | .started => (l, out ++ [.hwScan channels true], none)
      | .failed => (l.unstart, out ++ [.hwScan channels false], some .driver)
      | .software =>
        let l := l.unstart
        let out := out ++ [.hwScan channels false]
        if o.p2pGo then (l, out, some .opNotSupp)
        else
          let (l, more, error) := l.startSoftware hw o sdata req
          (l, out ++ more, error)
  else l.startSoftware hw o sdata req

/-! ## The work -/

/-- How a round of `ieee80211_scan_work` goes on. -/
inductive Round
  | delayed (delay : ℕ)
  | complete (aborted : Bool)

/-- `ieee80211_scan_state_decision` -/
def scanStateDecision (l : ScanLocal) (o : ScanView) (req : ScanRequest) : ScanLocal × List ScanOutput :=
  let associated := o.associated l.scanChannelIdx
  let next :=
    if associated && !o.txEmpty l.scanChannelIdx then
      if req.lowPriority then .abort else .suspend
    else if associated && o.badLatency l.scanChannelIdx then .suspend
    else .setChannel
  ({ l with nextScanState := next },
    if (req.channels[l.scanChannelIdx]?).isSome then [] else [.outside])

/-- `ieee80211_scan_state_set_channel` -/
def scanStateSetChannel (l : ScanLocal) (o : ScanView) (req : ScanRequest) :
    ScanLocal × List ScanOutput × ℕ :=
  match req.channels[l.scanChannelIdx]? with
  | none => (l, [.outside], 1)
  | some channel =>
    let tuned := o.tuned l.scanChannelIdx
    let l := { l with scanChannelIdx := l.scanChannelIdx + 1 }
    if !tuned then ({ l with nextScanState := .decision }, [.tune channel false], 0)
    else if passive req channel then
      ({ l with
          nextScanState := .decision
          scanning := { l.scanning with
            beaconWait := l.scanning.beaconWait || req.nSsids ≠ 0 } },
        [.tune channel true], max req.duration (passiveChannelTime hw))
    else ({ l with nextScanState := .sendProbe }, [.tune channel true], probeDelay hw)

/-- `ieee80211_scan_state_suspend` -/
def scanStateSuspend (l : ScanLocal) : ScanLocal × ℕ :=
  ({ l with nextScanState := .resume }, hw.hz / 5)

/-- `ieee80211_scan_state_resume` -/
def scanStateResume (l : ScanLocal) : ScanLocal × ℕ :=
  ({ l with nextScanState := .setChannel }, if hw.flush then 0 else hw.hz / 10)

/-- The `switch` in `ieee80211_scan_work`. -/
def scanSwitch (o : ScanView) (req : ScanRequest) (l : ScanLocal) :
    ScanLocal × List ScanOutput × Round :=
  match l.nextScanState with
  | .decision =>
    if req.channels.length ≤ l.scanChannelIdx then (l, [], .complete false)
    else
      let (l, out) := l.scanStateDecision o req
      (l, out, .delayed 0)
  | .setChannel =>
    let (l, out, delay) := l.scanStateSetChannel hw o req
    (l, out, .delayed delay)
  | .sendProbe =>
    let (l, out, delay) := l.scanStateSendProbe hw req
    (l, out, .delayed delay)
  | .suspend =>
    let (l, delay) := l.scanStateSuspend hw
    (l, [], .delayed delay)
  | .resume =>
    let (l, delay) := l.scanStateResume hw
    (l, [], .delayed delay)
  | .abort => (l, [], .complete true)

/-- A round of the loop in `ieee80211_scan_work`. -/
def scanRound (o : ScanView) (req : ScanRequest) (l : ScanLocal) :
    ScanLocal × List ScanOutput × Round :=
  if !o.running then (l, [], .complete true)
  else
    let beacon := l.scanning.beaconDone
    let l := { l with scanning := { l.scanning with beaconDone := false } }
    if beacon ∧ l.nextScanState = .decision then
      scanSwitch hw o req { l with nextScanState := .sendProbe }
    else scanSwitch hw o req l

/-- The loop goes on as long as no delay is required. -/
def scanBody (o : ScanView) (req : ScanRequest) (st : ScanLocal × List ScanOutput) :
    (ScanLocal × List ScanOutput × Option Bool) ⊕ (ScanLocal × List ScanOutput) :=
  let (l, out, round) := st.1.scanRound hw o req
  match round with
  | .complete aborted => .inl (l, st.2 ++ out, some aborted)
  | .delayed delay =>
    if delay = 0 then .inr (l, st.2 ++ out) else .inl (l, st.2 ++ out, none)

/-- Rounds that are enough for the channels that are left. -/
def scanFuel (l : ScanLocal) (req : ScanRequest) : ℕ :=
  2 * (req.channels.length - l.scanChannelIdx) + 3

/-- `ieee80211_scan_work` -/
def scanWork (l : ScanLocal) (o : ScanView) : ScanLocal × List ScanOutput :=
  if !o.canRunWorker then l.scanCompleted hw true o.iesFit o.answer
  else if l.scanning.onchannelScanning then
    { l with scanning := { l.scanning with aborted := false } }.scanCompleted hw
      l.scanning.aborted o.iesFit o.answer
  else if l.scanning.completed then
    { l with scanning := { l.scanning with completed := false, aborted := false } }.scanCompleted hw
      l.scanning.aborted o.iesFit o.answer
  else
    match l.scanSdata, l.scanReq with
    | some sdata, some req =>
      if l.scanning = .clear then
        let (l, out, error) :=
          { l with scanReq := none, scanSdata := none }.startScan hw o.start sdata req
        match error with
        | none => (l, out)
        | some _ =>
          let (l, done) := { l with scanReq := some req }.scanCompleted hw true o.iesFit o.answer
          (l, out ++ done)
      else
        let l := { l with scanning := { l.scanning with beaconWait := false } }
        match FuelLoop.run (scanBody hw o req) (l.scanFuel req) (l, []) with
        | none => (l, [.warn])
        | some (l, out, none) => ({ l with workQueued := true }, out)
        | some (l, out, some aborted) =>
          let (l, done) := l.scanCompleted hw aborted o.iesFit o.answer
          (l, out ++ done)
    | _, _ => (l, [])

/-! ## Everything else -/

/-- `ieee80211_scan_completed` -/
def driverCompleted (l : ScanLocal) (aborted : Bool) : ScanLocal :=
  { l with
    scanning := { l.scanning with
      completed := true
      aborted := l.scanning.aborted || aborted }
    workQueued := true }

/-- A beacon or a probe response, in `ieee80211_scan_rx`. -/
def scanRx (l : ScanLocal) : ScanLocal :=
  if l.scanning.beaconWait then
    { l with
      scanning := { l.scanning with beaconWait := false, beaconDone := true }
      workQueued := true }
  else l

/-- `ieee80211_run_deferred_scan` -/
def runDeferredScan (l : ScanLocal) (canScan : Bool) : ScanLocal :=
  if l.scanReq = none ∨ l.scanning ≠ .clear then l
  else if canScan then { l with workQueued := true } else l

/-- `ieee80211_scan_cancel` -/
def scanCancel (l : ScanLocal) : ScanLocal × List ScanOutput :=
  if l.scanReq = none then (l, [])
  else if l.scanning.hwScanning then
    ({ l with scanning := { l.scanning with hwCancelled := true } },
      if !l.scanning.completed && hw.cancelHwScan then [.cancelHwScan] else [])
  else { l with workQueued := false }.scanCompleted hw true true .failed

/-- The internal request of `ieee80211_request_ibss_scan`; without `channels` those of the
bands of the device are taken. -/
def ibssRequest (channels : Option (List ScanChannel)) (bands : List ScanChannel) :
    Option ScanRequest :=
  let wanted := match channels with
    | none => bands.filter fun channel =>
      channel.band ≠ 3 ∧ channel.band ≠ 4 ∧ !(channel.noIr || channel.disabled)
    | some channels => channels.filter fun channel => !(channel.noIr || channel.disabled)
  if wanted = [] then none else some ⟨0, true, wanted, 1, false, 0⟩

/-- `ieee80211_request_ibss_scan` -/
def requestIbssScan (l : ScanLocal) (o : ScanStart) (sdata : ℕ)
    (channels : Option (List ScanChannel)) (bands : List ScanChannel) :
    ScanLocal × List ScanOutput × Option ScanErrno :=
  if l.scanReq.isSome then (l, [], some .busy)
  else match ibssRequest channels bands with
    | none => (l, [], some .inval)
    | some req => l.startScan hw o sdata req

end ScanLocal

end IwlwifiStack
