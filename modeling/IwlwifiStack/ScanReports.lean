import IwlwifiStack.ListClasses
import IwlwifiStack.ScanSteps

/-!
# What a scan covers and how it ends

A scan that is reported as finished, and for which no channel was given up or could not be
tuned to, has covered every channel of its request once.  Each request that was taken is reported once.
-/

namespace IwlwifiStack

namespace ScanLocal

variable {hw : ScanHw} {l : ScanLocal} {req : ScanRequest}

/-- The channels in the bands before `band`. -/
def handed (channels : List ScanChannel) (band : ℕ) : List ScanChannel :=
  ListClasses.below (fun channel => channel.band.val) channels band

theorem handed_perm (channels : List ScanChannel) : (handed channels 6).Perm channels :=
  ListClasses.below_perm fun channel _ => channel.band.isLt

theorem nextBand_spec (channels : List ScanChannel) {left band : ℕ} (held : List ScanChannel) :
    ∃ next inBand more, nextBand channels left band held = (next, inBand, more) ∧
      next ≤ band + left ∧
      (more = true → handed channels next = handed channels band ++ inBand) ∧
      (more = false → next = band + left ∧ (0 < left → inBand = []) ∧
        handed channels next = handed channels band) := by
  induction left generalizing band held with
  | zero =>
      refine ⟨band, held, false, rfl, le_rfl, ?_, fun _ => ⟨rfl, fun hpos => ?_, rfl⟩⟩
      · rintro ⟨⟩
      · exact absurd hpos (Nat.lt_irrefl 0)
  | succ left ih =>
      have hsucc : handed channels (band + 1) = handed channels band ++
          channels.filter fun channel => channel.band.val = band := ListClasses.below_succ
      unfold nextBand
      dsimp only
      split_ifs with hempty
      · rw [hempty, List.append_nil] at hsucc
        rcases @ih (band + 1) [] with ⟨next, inBand, more, heq, hle, hmore, hdone⟩
        rw [hsucc] at hmore hdone
        refine ⟨next, inBand, more, heq, by omega, hmore, fun hnot => ?_⟩
        rcases hdone hnot with ⟨hnext, hlast, hsame⟩
        refine ⟨by omega, fun _ => ?_, hsame⟩
        cases left with
        | zero =>
            have hpair : (band + 1, ([] : List ScanChannel), false) = (next, inBand, more) := heq
            simp only [Prod.mk.injEq] at hpair
            exact hpair.2.1.symm
        | succ left => exact hlast (Nat.succ_pos left)
      · refine ⟨band + 1, _, true, rfl, by omega, fun _ => hsucc, ?_⟩
        rintro ⟨⟩

def Handed (hw : ScanHw) (req : ScanRequest) (band : ℕ) (covered : List ScanChannel) : Prop :=
  if hw.singleScanOnAllBands then covered = req.channels
  else covered = handed req.channels band

theorem prepHwScan_spec (hw : ScanHw) (l : ScanLocal) (req : ScanRequest) (iesFit : Bool)
    (hband : l.hwScanBand ≤ 6) :
    ∃ band channels out more,
      l.prepHwScan hw req iesFit =
        ({ l with hwScanBand := band, hwScanReq := channels }, out, more) ∧
      band ≤ 6 ∧
      (out = [.givenUp] ∧ more = false ∨ out = [] ∧
        if hw.singleScanOnAllBands then more = true ∧ channels = some req.channels
        else if more then
          handed req.channels band = handed req.channels l.hwScanBand ++ channels.getD []
        else band = 6 ∧ (l.hwScanBand < 6 → channels.getD [] = []) ∧
          handed req.channels 6 = handed req.channels l.hwScanBand) := by
  unfold prepHwScan
  by_cases hcancelled : l.scanning.hwCancelled = true
  · rw [if_pos hcancelled]
    exact ⟨l.hwScanBand, l.hwScanReq, _, _, rfl, hband, .inl ⟨rfl, rfl⟩⟩
  rw [if_neg hcancelled]
  by_cases hsingle : hw.singleScanOnAllBands = true
  · rw [if_pos hsingle]
    simp only [if_pos hsingle]
    cases iesFit with
    | false => exact ⟨l.hwScanBand, _, _, _, rfl, hband, .inl ⟨rfl, rfl⟩⟩
    | true => exact ⟨l.hwScanBand, _, _, _, rfl, hband, .inr ⟨rfl, rfl, rfl⟩⟩
  rw [if_neg hsingle]
  simp only [if_neg hsingle]
  rcases @nextBand_spec req.channels (6 - l.hwScanBand) l.hwScanBand (l.hwScanReq.getD []) with
    ⟨next, inBand, more, heq, hle, hmore, hdone⟩
  rw [show l.hwScanBand + (6 - l.hwScanBand) = 6 by omega] at hle hdone
  rw [heq]
  dsimp only
  cases more with
  | false =>
      rcases hdone rfl with ⟨hnext, hlast, hsame⟩
      rw [hnext] at hsame
      exact ⟨next, _, _, _, rfl, hle, .inr ⟨rfl, hnext, fun hlt => hlast (by omega), hsame⟩⟩
  | true =>
      cases iesFit with
      | false => exact ⟨next, _, _, _, rfl, hle, .inl ⟨rfl, rfl⟩⟩
      | true => exact ⟨next, _, _, _, rfl, hle, .inr ⟨rfl, hmore rfl⟩⟩

end ScanLocal

namespace ScanSystem

def pending (l : ScanLocal) : List ℕ :=
  (l.scanReq.toList.filter fun req => !req.internal).map ScanRequest.cookie

/-- The requests that were taken are reported in their order, the last one is under way. -/
structure Ledger (s : ScanSystem) : Prop where
  once : s.accepted = s.reports.map ScanReport.cookie ++ pending s.scan
  sorted : s.accepted.Pairwise (· < ·)
  fresh : ∀ cookie ∈ s.accepted, cookie < s.nextCookie
  covers : ∀ report ∈ s.reports, report.aborted = false → report.cut = false →
    report.covered.Perm report.channels
  calm : s.confused = false

def Placed (l : ScanLocal) (req : ScanRequest) : Prop :=
  l.scanChannelIdx ≤ req.channels.length ∧
    (l.nextScanState = .setChannel ∨ l.nextScanState = .suspend ∨ l.nextScanState = .resume →
      l.scanChannelIdx < req.channels.length)

/-- What is going on. -/
inductive Mode (hw : ScanHw) (s : ScanSystem) : Prop
  | idle : s.scan.scanReq = none → s.scan.scanning = .clear → s.scan.workQueued = false →
      s.driver = .idle → s.covered = [] → s.cut = false → Mode hw s
  | deferred (req : ScanRequest) : s.scan.scanReq = some req → s.scan.scanSdata.isSome = true →
      s.scan.scanning = .clear → s.driver = .idle → s.covered = [] → s.cut = false → Mode hw s
  | hardware (req : ScanRequest) (cancelled : Bool) : s.scan.scanReq = some req →
      s.scan.scanSdata.isSome = true →
      s.scan.scanning = { ScanBits.clear with hwScanning := true, hwCancelled := cancelled } →
      s.scan.workQueued = false → s.driver = .hardware → s.scan.hwScanBand ≤ 6 →
      (s.cut = false → ScanLocal.Handed hw req s.scan.hwScanBand s.covered) → Mode hw s
  | reported (req : ScanRequest) (cancelled aborted : Bool) : s.scan.scanReq = some req →
      s.scan.scanSdata.isSome = true →
      s.scan.scanning = { ScanBits.clear with
        hwScanning := true, hwCancelled := cancelled, completed := true, aborted := aborted } →
      s.scan.workQueued = true → s.driver = .idle → s.scan.hwScanBand ≤ 6 →
      (s.cut = false → ScanLocal.Handed hw req s.scan.hwScanBand s.covered) → Mode hw s
  | software (req : ScanRequest) (wait done : Bool) : s.scan.scanReq = some req →
      s.scan.scanSdata.isSome = true →
      s.scan.scanning = { ScanBits.clear with
        swScanning := true, beaconWait := wait, beaconDone := done } →
      s.scan.workQueued = true → s.driver = .software →
      (s.cut = false → s.covered = req.channels.take s.scan.scanChannelIdx) →
      Placed s.scan req → Mode hw s
  | onchannel (req : ScanRequest) (wait done : Bool) : s.scan.scanReq = some req →
      s.scan.scanSdata.isSome = true →
      s.scan.scanning = { ScanBits.clear with
        onchannelScanning := true, beaconWait := wait, beaconDone := done } →
      s.scan.workQueued = true → s.driver = .software → s.covered = req.channels → Mode hw s

structure Good (hw : ScanHw) (s : ScanSystem) : Prop where
  ledger : s.Ledger
  mode : s.Mode hw

variable {hw : ScanHw} {s : ScanSystem} {l : ScanLocal} {req : ScanRequest}

theorem watch_scan (s : ScanSystem) (l : ScanLocal) (output : ScanOutput) :
    ({ s with scan := l }).watch output = { s.watch output with scan := l } := by
  cases output with
  | hwScan channels started =>
      unfold watch
      dsimp only
      split_ifs <;> rfl
  | cancelHwScan =>
      unfold watch
      dsimp only
      split_ifs <;> rfl
  | swScanStart =>
      unfold watch
      dsimp only
      split_ifs <;> rfl
  | swScanComplete =>
      unfold watch
      dsimp only
      split_ifs <;> rfl
  | tune channel tuned =>
      unfold watch
      dsimp only
      split_ifs <;> rfl
  | stay channel =>
      unfold watch
      dsimp only
      split_ifs <;> rfl
  | probes n =>
      unfold watch
      dsimp only
      split_ifs <;> rfl
  | givenUp => rfl
  | scanDone req aborted => rfl
  | outside => rfl
  | warn => rfl

theorem foldl_watch_scan (s : ScanSystem) (l : ScanLocal) (out : List ScanOutput) :
    out.foldl watch { s with scan := l } = { out.foldl watch s with scan := l } := by
  induction out generalizing s with
  | nil => rfl
  | cons output out ih =>
      rw [List.foldl_cons, List.foldl_cons, watch_scan]
      exact ih _

theorem put_append (s : ScanSystem) (between last : ScanLocal) (out others : List ScanOutput) :
    s.put last (out ++ others) = (s.put between out).put last others := by
  unfold put
  rw [List.foldl_append]
  exact congrArg (fun now : ScanSystem => others.foldl watch now)
    (foldl_watch_scan { s with scan := between } last out)

@[simp] theorem put_nil (s : ScanSystem) (l : ScanLocal) : s.put l [] = { s with scan := l } := rfl

@[simp] theorem put_scan (s : ScanSystem) (l : ScanLocal) (out : List ScanOutput) :
    (s.put l out).scan = l := by
  unfold put
  rw [foldl_watch_scan]

theorem Ledger.congr (hledger : s.Ledger) {now : ScanSystem}
    (hreq : now.scan.scanReq = s.scan.scanReq) (haccepted : now.accepted = s.accepted)
    (hreports : now.reports = s.reports) (hcookie : now.nextCookie = s.nextCookie)
    (hcalm : now.confused = s.confused) : now.Ledger := by
  constructor
  · unfold pending
    rw [hreq, haccepted, hreports]
    exact hledger.once
  · rw [haccepted]
    exact hledger.sorted
  · rw [haccepted, hcookie]
    exact hledger.fresh
  · rw [hreports]
    exact hledger.covers
  · rw [hcalm]
    exact hledger.calm

theorem Ledger.report (hledger : s.Ledger) (hreq : s.scan.scanReq = some req)
    (hexternal : req.internal = false) (aborted : Bool)
    (hcovers : aborted = false → s.cut = false → s.covered.Perm req.channels)
    {now : ScanSystem} (hnone : now.scan.scanReq = none) (haccepted : now.accepted = s.accepted)
    (hreports : now.reports =
      s.reports ++ [⟨req.cookie, req.channels, s.covered, aborted, s.cut⟩])
    (hcookie : now.nextCookie = s.nextCookie) (hcalm : now.confused = s.confused) :
    now.Ledger := by
  have honce := hledger.once
  unfold pending at honce
  rw [hreq] at honce
  constructor
  · unfold pending
    rw [haccepted, honce, hreports, hnone]
    simp [hexternal]
  · rw [haccepted]
    exact hledger.sorted
  · rw [haccepted, hcookie]
    exact hledger.fresh
  · rw [hreports]
    intro report hreport
    rcases List.mem_append.mp hreport with hbefore | hlast
    · exact hledger.covers report hbefore
    · rw [List.mem_singleton.mp hlast]
      exact hcovers
  · rw [hcalm]
    exact hledger.calm

theorem Ledger.drop (hledger : s.Ledger) (hreq : s.scan.scanReq = some req)
    (hinternal : req.internal = true) {now : ScanSystem} (hnone : now.scan.scanReq = none)
    (haccepted : now.accepted = s.accepted) (hreports : now.reports = s.reports)
    (hcookie : now.nextCookie = s.nextCookie) (hcalm : now.confused = s.confused) :
    now.Ledger := by
  have honce := hledger.once
  unfold pending at honce
  rw [hreq] at honce
  constructor
  · unfold pending
    rw [haccepted, honce, hreports, hnone]
    simp [hinternal]
  · rw [haccepted]
    exact hledger.sorted
  · rw [haccepted, hcookie]
    exact hledger.fresh
  · rw [hreports]
    exact hledger.covers
  · rw [hcalm]
    exact hledger.calm

theorem Good.finish (hledger : s.Ledger) (hreq : s.scan.scanReq = some req)
    (l : ScanLocal) (hqueued : l.workQueued = false) (hwScan wasScanning aborted : Bool)
    (hdriver : s.driver = if !hwScan && wasScanning then .software else .idle)
    (hcovers : aborted = false → s.cut = false → s.covered.Perm req.channels) :
    (s.put (l.finish req hwScan wasScanning aborted).1
      (l.finish req hwScan wasScanning aborted).2).settle.Good hw := by
  unfold ScanLocal.finish settle put
  dsimp only
  by_cases hinternal : req.internal = true
  · rw [if_pos hinternal, List.nil_append]
    by_cases hsw : (!hwScan && wasScanning) = true
    · rw [if_pos hsw] at hdriver ⊢
      simp only [List.foldl_cons, List.foldl_nil, watch, hdriver, if_true]
      exact ⟨hledger.drop hreq hinternal rfl rfl rfl rfl rfl, .idle rfl rfl hqueued rfl rfl rfl⟩
    · rw [if_neg hsw] at hdriver ⊢
      simp only [List.foldl_nil, if_true]
      exact ⟨hledger.drop hreq hinternal rfl rfl rfl rfl rfl,
        .idle rfl rfl hqueued hdriver rfl rfl⟩
  · rw [if_neg hinternal]
    rw [Bool.not_eq_true] at hinternal
    by_cases hsw : (!hwScan && wasScanning) = true
    · rw [if_pos hsw] at hdriver ⊢
      simp only [List.foldl_append, List.foldl_cons, List.foldl_nil, watch, hdriver, if_true]
      exact ⟨hledger.report hreq hinternal aborted hcovers rfl rfl rfl rfl rfl,
        .idle rfl rfl hqueued rfl rfl rfl⟩
    · rw [if_neg hsw] at hdriver ⊢
      simp only [List.append_nil, List.foldl_cons, List.foldl_nil, watch, if_true]
      exact ⟨hledger.report hreq hinternal aborted hcovers rfl rfl rfl rfl rfl,
        .idle rfl rfl hqueued hdriver rfl rfl⟩

theorem Good.ends (hledger : s.Ledger) (hreq : s.scan.scanReq = some req)
    (hlreq : l.scanReq = some req) (hqueued : l.workQueued = false) {aborted : Bool}
    (hends : l.scanning.hwScanning = false ∨ aborted = true)
    (hclear : l.scanning = .clear → aborted = true)
    (hdriver : s.driver = if !l.scanning.hwScanning && decide (l.scanning ≠ .clear) then
      .software else .idle)
    (hcovers : aborted = false → s.cut = false → s.covered.Perm req.channels)
    (iesFit : Bool) (answer : HwScanAnswer) :
    (s.put (l.scanCompleted hw aborted iesFit answer).1
      (l.scanCompleted hw aborted iesFit answer).2).settle.Good hw := by
  have hsame : (aborted || !decide (l.scanning ≠ .clear)) = aborted := by
    by_cases hscanning : l.scanning = .clear
    · rw [hclear hscanning]
      rfl
    · simp [hscanning]
  have hnot : ¬(l.scanning.hwScanning && !aborted && !hw.singleScanOnAllBands) = true := by
    rcases hends with hsoftware | haborted
    · simp [hsoftware]
    · simp [haborted]
  unfold ScanLocal.scanCompleted
  dsimp only
  rw [hlreq, hsame]
  dsimp only
  rw [if_neg hnot]
  exact Good.finish hledger hreq l hqueued _ _ aborted hdriver hcovers

theorem handed_covers (hw : ScanHw) (req : ScanRequest) {band : ℕ} {covered : List ScanChannel}
    (hhanded : ScanLocal.Handed hw req band covered)
    (hdone : hw.singleScanOnAllBands = false →
      ScanLocal.handed req.channels 6 = ScanLocal.handed req.channels band) :
    covered.Perm req.channels := by
  unfold ScanLocal.Handed at hhanded
  split_ifs at hhanded with hsingle
  · rw [hhanded]
  · rw [hhanded, ← hdone (Bool.not_eq_true _ ▸ hsingle)]
    exact ScanLocal.handed_perm req.channels

theorem Good.bandDone (hledger : s.Ledger) (hreq : s.scan.scanReq = some req)
    (hlreq : l.scanReq = some req) (hqueued : l.workQueued = false)
    (hsdata : l.scanSdata.isSome = true) {cancelled : Bool}
    (hscanning : l.scanning = { ScanBits.clear with
      hwScanning := true, hwCancelled := cancelled })
    (hdriver : s.driver = .idle) (hband : l.hwScanBand ≤ 6)
    (hhanded : s.cut = false → ScanLocal.Handed hw req l.hwScanBand s.covered)
    (aborted iesFit : Bool) (answer : HwScanAnswer) :
    (s.put (l.scanCompleted hw aborted iesFit answer).1
      (l.scanCompleted hw aborted iesFit answer).2).settle.Good hw := by
  have hhw : l.scanning.hwScanning = true := by rw [hscanning]
  have hnotClear : l.scanning ≠ .clear := by
    rw [hscanning]
    rintro ⟨⟩
  by_cases haborted : aborted = true
  · apply Good.ends hledger hreq hlreq hqueued (.inr haborted)
    · exact fun hclear => absurd hclear hnotClear
    · rw [hhw]
      exact hdriver
    · rw [haborted]
      rintro ⟨⟩
  rw [Bool.not_eq_true] at haborted
  have hend : ∀ (now : ScanSystem) (last : ScanLocal) (gone : Bool), now.Ledger →
      now.scan.scanReq = some req → last.workQueued = false → now.driver = .idle →
      (gone = false → now.cut = false → now.covered.Perm req.channels) →
      (now.put (last.finish req true true gone).1 (last.finish req true true gone).2).settle.Good
        hw :=
    fun now last gone h1 h2 h3 h4 h5 => Good.finish h1 h2 last h3 true true gone h4 h5
  unfold ScanLocal.scanCompleted
  dsimp only
  rw [hlreq, hhw, haborted, decide_eq_true hnotClear]
  dsimp only
  rw [Bool.not_true, Bool.or_false, Bool.not_false, Bool.true_and, Bool.true_and]
  by_cases hsingle : hw.singleScanOnAllBands = true
  · rw [hsingle, Bool.not_true, if_neg Bool.false_ne_true]
    refine hend s l false hledger hreq hqueued hdriver fun _ hcut => ?_
    exact handed_covers hw req (hhanded hcut) fun hmulti => absurd (hsingle.symm.trans hmulti)
      (by decide)
  rw [Bool.not_eq_true] at hsingle
  rw [hsingle, Bool.not_false, if_pos rfl]
  rcases l.prepHwScan_spec hw req iesFit hband with
    ⟨band, channels, out, more, hprep, hbandLe, hspec⟩
  rw [hprep]
  dsimp only
  simp only [hsingle, Bool.false_eq_true, if_false] at hspec
  have hcutOff : ({ s with cut := true } : ScanSystem).Ledger :=
    hledger.congr rfl rfl rfl rfl rfl
  rcases hspec with ⟨hout, hmore⟩ | ⟨hout, hnext⟩
  · -- the rest is given up
    rw [hmore, hout, if_neg Bool.false_ne_true]
    refine @hend { s with cut := true } _ false hcutOff hreq hqueued hdriver fun _ hcut => ?_
    cases hcut
  rw [hout]
  by_cases hmore : more = true
  · rw [if_pos hmore] at hnext ⊢
    by_cases hanswer : answer = .started
    · rw [if_pos hanswer]
      have hput : s.put { l with hwScanBand := band, hwScanReq := channels }
          ([] ++ [.hwScan (channels.getD []) true]) = { s with
            scan := { l with hwScanBand := band, hwScanReq := channels }
            driver := .hardware
            covered := s.covered ++ channels.getD [] } := by
        unfold put
        simp only [List.nil_append, List.foldl_cons, List.foldl_nil, watch, hdriver, if_true]
      rw [hput]
      unfold settle
      rw [if_neg hnotClear]
      refine ⟨hledger.congr (hlreq.trans hreq.symm) rfl rfl rfl rfl, .hardware req cancelled hlreq
        hsdata hscanning hqueued rfl hbandLe fun hcut => ?_⟩
      have hbefore := hhanded hcut
      unfold ScanLocal.Handed at hbefore ⊢
      rw [if_neg (Bool.not_eq_true _ ▸ hsingle)] at hbefore ⊢
      rw [hbefore, hnext]
    · rw [if_neg hanswer]
      rw [List.nil_append, ← List.singleton_append, put_append s l]
      refine hend (s.put l [.hwScan (channels.getD []) false]) _ true ?_ ?_ hqueued ?_ ?_
      · unfold put
        simp only [List.foldl_cons, List.foldl_nil, watch, hdriver, if_true]
        exact hledger.congr (hlreq.trans hreq.symm) rfl rfl rfl rfl
      · rw [put_scan]
        exact hlreq
      · unfold put
        simp only [List.foldl_cons, List.foldl_nil, watch, hdriver, if_true]
        rfl
      · rintro ⟨⟩
  · rw [if_neg hmore] at hnext ⊢
    refine hend s _ false hledger hreq hqueued hdriver fun _ hcut => ?_
    exact handed_covers hw req (hhanded hcut) fun _ => hnext.2.2

/-! ## The start of a scan -/

/-- cfg80211 hears nothing. -/
structure Kept (s now : ScanSystem) : Prop where
  accepted : now.accepted = s.accepted
  reports : now.reports = s.reports
  nextCookie : now.nextCookie = s.nextCookie
  confused : now.confused = s.confused

def Starts (hw : ScanHw) (s : ScanSystem) (req : ScanRequest)
    (result : ScanLocal × List ScanOutput × Option ScanErrno) : Prop :=
  Kept s (s.put result.1 result.2.1) ∧
  (result.2.2 = none ∧ result.1.scanReq = some req ∧ (s.put result.1 result.2.1).settle.Mode hw ∨
    result.2.2 ≠ none ∧ result.1.scanReq = none ∧ result.1.scanning = .clear ∧
      result.1.workQueued = false ∧ (s.put result.1 result.2.1).driver = .idle)

theorem Placed.of_other (hidx : l.scanChannelIdx ≤ req.channels.length)
    (hstate : l.nextScanState = .decision ∨ l.nextScanState = .sendProbe ∨
      l.nextScanState = .abort) : Placed l req := by
  refine ⟨hidx, fun hbusy => ?_⟩
  rcases hstate with hstate | hstate | hstate
  · rw [hstate] at hbusy
    rcases hbusy with hbusy | hbusy | hbusy <;> cases hbusy
  · rw [hstate] at hbusy
    rcases hbusy with hbusy | hbusy | hbusy <;> cases hbusy
  · rw [hstate] at hbusy
    rcases hbusy with hbusy | hbusy | hbusy <;> cases hbusy

theorem startSoftware_starts (hscanning : l.scanning = .clear) (hqueued : l.workQueued = false)
    (hdriver : s.driver = .idle) (hcovered : s.covered = []) (o : ScanStart) (sdata : ℕ)
    (req : ScanRequest) : Starts hw s req (l.startSoftware hw o sdata req) := by
  unfold ScanLocal.startSoftware
  dsimp only
  split
  · rename_i channel honly _
    split_ifs
    · refine ⟨?_, .inl ⟨rfl, rfl, ?_⟩⟩
      · unfold put
        simp only [List.foldl_cons, List.foldl_nil, watch, hdriver, if_true]
        exact ⟨rfl, rfl, rfl, rfl⟩
      · unfold put settle
        simp only [List.foldl_cons, List.foldl_nil, watch, hdriver, if_true, hscanning]
        rw [if_neg (by rintro ⟨⟩)]
        refine .onchannel req (false || decide (req.nSsids ≠ 0)) false rfl rfl rfl rfl rfl ?_
        rw [hcovered, honly]
        rfl
    · refine ⟨?_, .inl ⟨rfl, rfl, ?_⟩⟩
      · unfold put ScanLocal.scanStateSendProbe
        simp only [List.foldl_cons, List.foldl_nil, watch, hdriver, if_true]
        exact ⟨rfl, rfl, rfl, rfl⟩
      · unfold put settle ScanLocal.scanStateSendProbe
        simp only [List.foldl_cons, List.foldl_nil, watch, hdriver, if_true, hscanning]
        rw [if_neg (by rintro ⟨⟩)]
        refine .onchannel req false false rfl rfl rfl rfl rfl ?_
        rw [hcovered, honly]
        rfl
  · split_ifs
    · refine ⟨⟨rfl, rfl, rfl, rfl⟩, .inr ⟨by rintro ⟨⟩, rfl, rfl, hqueued, hdriver⟩⟩
    · refine ⟨?_, .inl ⟨rfl, rfl, ?_⟩⟩
      · unfold put
        simp only [List.foldl_cons, List.foldl_nil, watch, hdriver, if_true]
        exact ⟨rfl, rfl, rfl, rfl⟩
      · unfold put settle
        simp only [List.foldl_cons, List.foldl_nil, watch, hdriver, if_true, hscanning]
        rw [if_neg (by rintro ⟨⟩)]
        exact .software req false false rfl rfl rfl rfl rfl (fun _ => hcovered)
          (.of_other (Nat.zero_le _) (.inl rfl))

theorem Starts.refused (hnone : l.scanReq = none) (hscanning : l.scanning = .clear)
    (hqueued : l.workQueued = false) (hdriver : s.driver = .idle) (errno : ScanErrno) :
    Starts hw s req (l, [], some errno) :=
  ⟨⟨rfl, rfl, rfl, rfl⟩, .inr ⟨by rintro ⟨⟩, hnone, hscanning, hqueued, hdriver⟩⟩

theorem Starts.after {middle : ScanLocal} {out more : List ScanOutput}
    {errno : Option ScanErrno} (hkept : Kept s (s.put middle out))
    (hstarts : Starts hw (s.put middle out) req (l, more, errno)) :
    Starts hw s req (l, out ++ more, errno) := by
  unfold Starts at hstarts ⊢
  dsimp only at hstarts ⊢
  rw [put_append s middle]
  rcases hstarts with ⟨hlater, hresult⟩
  exact ⟨⟨hlater.accepted.trans hkept.accepted, hlater.reports.trans hkept.reports,
    hlater.nextCookie.trans hkept.nextCookie, hlater.confused.trans hkept.confused⟩, hresult⟩

theorem startScan_starts (hnone : l.scanReq = none) (hscanning : l.scanning = .clear)
    (hqueued : l.workQueued = false) (hdriver : s.driver = .idle) (hcovered : s.covered = [])
    (hcut : s.cut = false) (o : ScanStart) (sdata : ℕ) (req : ScanRequest) :
    Starts hw s req (l.startScan hw o sdata req) := by
  unfold ScanLocal.startScan
  rw [hnone, Option.isSome_none, if_neg Bool.false_ne_true]
  by_cases hlink : (!o.linkOk) = true
  · rw [if_pos hlink]
    exact .refused hnone hscanning hqueued hdriver _
  rw [if_neg hlink]
  by_cases hleave : (!o.canLeave) = true
  · rw [if_pos hleave]
    exact .refused hnone hscanning hqueued hdriver _
  rw [if_neg hleave]
  by_cases hscan : (!o.canScan) = true
  · rw [if_pos hscan]
    refine ⟨⟨rfl, rfl, rfl, rfl⟩, .inl ⟨rfl, rfl, ?_⟩⟩
    rw [put_nil]
    unfold settle
    rw [if_pos hscanning]
    exact .deferred req rfl rfl hscanning hdriver rfl rfl
  rw [if_neg hscan]
  by_cases hhw : hw.hwScan = true
  · rw [if_pos hhw]
    by_cases hmem : o.noMem = true
    · rw [if_pos hmem]
      exact .refused hnone hscanning hqueued hdriver _
    rw [if_neg hmem]
    dsimp only
    generalize hstarted : ({ l with
      hwScanReq := some []
      hwScanBand := 0
      scanReq := some req
      scanSdata := some sdata
      scanning := { l.scanning with hwScanning := true } } : ScanLocal) = started
    rcases started.prepHwScan_spec hw req o.iesFit
      (by rw [← hstarted]; exact Nat.zero_le 6) with
      ⟨band, channels, out, more, hprep, hband, hspec⟩
    rw [hprep]
    dsimp only
    -- what was put together does not change the driver
    have hcutOff : ∃ cut, (∀ now : ScanLocal, s.put now out = { s with scan := now, cut := cut }) ∧
        (cut = false → out = []) := by
      rcases hspec with ⟨hout, _⟩ | ⟨hout, _⟩
      · refine ⟨true, fun now => ?_, ?_⟩
        · rw [hout]
          rfl
        · rintro ⟨⟩
      · refine ⟨false, fun now => ?_, fun _ => hout⟩
        rw [hout, put_nil, ← hcut]
    rcases hcutOff with ⟨cut, hput, hclean⟩
    have hrefused : ∀ now : ScanLocal, s.put now (out ++ [.hwScan (channels.getD []) false]) =
        { s with scan := now, cut := cut } := by
      intro now
      rw [put_append s now, hput]
      unfold put
      simp only [List.foldl_cons, List.foldl_nil, watch, hdriver, if_true]
      rfl
    cases o.answer with
    | started =>
        have hgiven : ∀ now : ScanLocal, s.put now (out ++ [.hwScan (channels.getD []) true]) =
            { s with
              scan := now, cut := cut, driver := .hardware, covered := channels.getD [] } := by
          intro now
          rw [put_append s now, hput]
          unfold put
          simp only [List.foldl_cons, List.foldl_nil, watch, hdriver, if_true, hcovered,
            List.nil_append]
        refine ⟨?_, .inl ⟨rfl, by rw [← hstarted], ?_⟩⟩
        · rw [hgiven]
          exact ⟨rfl, rfl, rfl, rfl⟩
        · rw [hgiven]
          unfold settle
          rw [← hstarted, hscanning]
          dsimp only
          rw [if_neg (by rintro ⟨⟩)]
          refine .hardware req false rfl rfl rfl hqueued rfl hband fun hwhole => ?_
          have hout := hclean hwhole
          rcases hspec with ⟨hgone, _⟩ | ⟨_, hnext⟩
          · rw [hout] at hgone
            cases hgone
          · change ScanLocal.Handed hw req band (channels.getD [])
            unfold ScanLocal.Handed
            split_ifs at hnext ⊢ with hsingle hmore
            · rw [hnext.2]
              rfl
            · rw [hnext, ← hstarted]
              rfl
            · rcases hnext with ⟨hsix, hlast, hsame⟩
              rw [hlast (by rw [← hstarted]; exact Nat.zero_lt_succ 5), hsix, hsame, ← hstarted]
              rfl
    | failed =>
        refine ⟨?_, .inr ⟨by rintro ⟨⟩, rfl, rfl, ?_, ?_⟩⟩
        · rw [hrefused]
          exact ⟨rfl, rfl, rfl, rfl⟩
        · rw [← hstarted]
          exact hqueued
        · rw [hrefused]
          exact hdriver
    | software =>
        dsimp only
        by_cases hgo : o.p2pGo = true
        · rw [if_pos hgo]
          refine ⟨?_, .inr ⟨by rintro ⟨⟩, rfl, rfl, ?_, ?_⟩⟩
          · rw [hrefused]
            exact ⟨rfl, rfl, rfl, rfl⟩
          · rw [← hstarted]
            exact hqueued
          · rw [hrefused]
            exact hdriver
        · rw [if_neg hgo]
          generalize hmiddle : ({ started with
            hwScanReq := channels, hwScanBand := band } : ScanLocal).unstart = middle
          have hsecond := @startSoftware_starts hw { s with scan := middle, cut := cut } middle
            (by rw [← hmiddle]; rfl) (by rw [← hmiddle, ← hstarted]; exact hqueued) hdriver
            hcovered o sdata req
          rw [← hrefused] at hsecond
          refine Starts.after ?_ hsecond
          rw [hrefused]
          exact ⟨rfl, rfl, rfl, rfl⟩
  · rw [if_neg hhw]
    exact startSoftware_starts hscanning hqueued hdriver hcovered o sdata req

end ScanSystem

end IwlwifiStack
