import IwlwifiStack.ConditionedRun
import IwlwifiStack.ScanModel

/-!
# Scanning with cfg80211 and the driver

Scans are asked for and cancelled, the work runs, the driver finishes a scan, frames
are received and what kept the device on its channel ends, in any order.  The driver
keeps its own record, cfg80211 has the requests that were taken and the reports, and
for each scan there are the channels that it covered.
-/

namespace IwlwifiStack

/-- What the driver is doing. -/
inductive ScanDriver
  | idle | hardware | software
  deriving DecidableEq, Repr

/-- What cfg80211 is told at the end of a scan, with the channels that the scan covered;
`cut` says that channels were given up, or that tuning to one failed. -/
structure ScanReport where
  cookie : ℕ
  channels : List ScanChannel
  covered : List ScanChannel
  aborted : Bool
  cut : Bool

structure ScanSystem where
  scan : ScanLocal
  driver : ScanDriver
  nextCookie : ℕ
  accepted : List ℕ
  reports : List ScanReport
  covered : List ScanChannel
  cut : Bool
  /-- Something happened that must not. -/
  confused : Bool

inductive ScanEvent
  | request (o : ScanStart) (sdata : ℕ) (channels : List ScanChannel) (nSsids : ℕ)
      (lowPriority : Bool) (duration : ℕ)
  | ibssRequest (o : ScanStart) (sdata : ℕ) (channels : Option (List ScanChannel))
      (bands : List ScanChannel)
  | work (o : ScanView)
  | driverCompleted (aborted : Bool)
  | rx
  | runDeferred (canScan : Bool)
  | cancel

namespace ScanSystem

def watch (s : ScanSystem) : ScanOutput → ScanSystem
  | .hwScan channels started =>
    if s.driver = .idle then
      if started then { s with driver := .hardware, covered := s.covered ++ channels } else s
    else { s with confused := true }
  | .cancelHwScan => if s.driver = .hardware then s else { s with confused := true }
  | .swScanStart =>
    if s.driver = .idle then { s with driver := .software } else { s with confused := true }
  | .swScanComplete =>
    if s.driver = .software then { s with driver := .idle } else { s with confused := true }
  | .tune channel tuned =>
    if s.driver = .software then
      if tuned then { s with covered := s.covered ++ [channel] } else { s with cut := true }
    else { s with confused := true }
  | .stay channel =>
    if s.driver = .software then { s with covered := s.covered ++ [channel] }
    else { s with confused := true }
  | .probes _ => if s.driver = .software then s else { s with confused := true }
  | .givenUp => { s with cut := true }
  | .scanDone req aborted =>
    { s with reports := s.reports ++ [⟨req.cookie, req.channels, s.covered, aborted, s.cut⟩] }
  | .outside => { s with confused := true }
  | .warn => { s with confused := true }

def put (s : ScanSystem) (l : ScanLocal) (out : List ScanOutput) : ScanSystem :=
  out.foldl watch { s with scan := l }

def settle (s : ScanSystem) : ScanSystem :=
  if s.scan.scanning = .clear then { s with covered := [], cut := false } else s

variable (hw : ScanHw)

/-- One thing happens; none for work that is not queued and a scan that the driver does not
do. -/
def step (s : ScanSystem) : ScanEvent → Option (ScanSystem × List Unit)
  | .request o sdata channels nSsids lowPriority duration =>
    let req : ScanRequest := ⟨s.nextCookie, false, channels, nSsids, lowPriority, duration⟩
    let (l, out, error) := s.scan.startScan hw o sdata req
    let s := { s with
      nextCookie := s.nextCookie + 1
      accepted := if error = none then s.accepted ++ [s.nextCookie] else s.accepted }
    some ((s.put l out).settle, [])
  | .ibssRequest o sdata channels bands =>
    let (l, out, _) := s.scan.requestIbssScan hw o sdata channels bands
    some ((s.put l out).settle, [])
  | .work o =>
    if s.scan.workQueued then
      let (l, out) := { s.scan with workQueued := false }.scanWork hw o
      some ((s.put l out).settle, [])
    else none
  | .driverCompleted aborted =>
    if s.driver = .hardware then
      some ({ s with driver := .idle, scan := s.scan.driverCompleted aborted }, [])
    else none
  | .rx => some ({ s with scan := s.scan.scanRx }, [])
  | .runDeferred canScan => some ({ s with scan := s.scan.runDeferredScan canScan }, [])
  | .cancel =>
    let (l, out) := s.scan.scanCancel hw
    some ((s.put l out).settle, [])

def initial : ScanSystem where
  scan := ⟨none, none, .clear, none, 0, .decision, 0, false⟩
  driver := .idle
  nextCookie := 0
  accepted := []
  reports := []
  covered := []
  cut := false
  confused := false

end ScanSystem

end IwlwifiStack
