import IwlwifiStack.ScanLoop

/-!
# Every scan is reported once

In every run the requests that were taken are reported in their order, each once, a scan
that is under way is never forgotten, and the driver is asked only for what it can do.
-/

namespace IwlwifiStack

namespace ScanSystem

variable {hw : ScanHw} {s after : ScanSystem} {req : ScanRequest}

theorem Mode.counted (hmode : s.Mode hw) (nextCookie : ℕ) (accepted : List ℕ) :
    Mode hw { s with nextCookie := nextCookie, accepted := accepted } := by
  cases hmode with
  | idle h1 h2 h3 h4 h5 h6 => exact .idle h1 h2 h3 h4 h5 h6
  | deferred req h1 h2 h3 h4 h5 h6 => exact .deferred req h1 h2 h3 h4 h5 h6
  | hardware req cancelled h1 h2 h3 h4 h5 h6 h7 =>
      exact .hardware req cancelled h1 h2 h3 h4 h5 h6 h7
  | reported req cancelled aborted h1 h2 h3 h4 h5 h6 h7 =>
      exact .reported req cancelled aborted h1 h2 h3 h4 h5 h6 h7
  | software req wait done h1 h2 h3 h4 h5 h6 h7 =>
      exact .software req wait done h1 h2 h3 h4 h5 h6 h7
  | onchannel req wait done h1 h2 h3 h4 h5 h6 =>
      exact .onchannel req wait done h1 h2 h3 h4 h5 h6

theorem Mode.settle_eq (hmode : s.Mode hw) : s.settle = s := by
  have hclean : s.covered = [] → s.cut = false → s.settle = s := by
    intro hcovered hcut
    unfold settle
    split_ifs
    · rw [← hcovered, ← hcut]
    · rfl
  have hbusy : s.scan.scanning ≠ .clear → s.settle = s := by
    intro hscanning
    unfold settle
    rw [if_neg hscanning]
  cases hmode with
  | idle _ _ _ _ hcovered hcut => exact hclean hcovered hcut
  | deferred _ _ _ _ _ hcovered hcut => exact hclean hcovered hcut
  | hardware _ _ _ _ hscanning =>
      refine hbusy ?_
      rw [hscanning]
      rintro ⟨⟩
  | reported _ _ _ _ _ hscanning =>
      refine hbusy ?_
      rw [hscanning]
      rintro ⟨⟩
  | software _ _ _ _ _ hscanning =>
      refine hbusy ?_
      rw [hscanning]
      rintro ⟨⟩
  | onchannel _ _ _ _ _ hscanning =>
      refine hbusy ?_
      rw [hscanning]
      rintro ⟨⟩

theorem Ledger.settle (hledger : s.Ledger) : s.settle.Ledger := by
  unfold ScanSystem.settle
  split_ifs
  · exact hledger.congr rfl rfl rfl rfl rfl
  · exact hledger

theorem Mode.idle_of_none (hmode : s.Mode hw) (hnone : s.scan.scanReq = none) :
    s.scan.scanning = .clear ∧ s.scan.workQueued = false ∧ s.driver = .idle ∧
      s.covered = [] ∧ s.cut = false := by
  cases hmode with
  | idle _ h2 h3 h4 h5 h6 => exact ⟨h2, h3, h4, h5, h6⟩
  | deferred _ hsome => exact absurd (hsome.symm.trans hnone) (by rintro ⟨⟩)
  | hardware _ _ hsome => exact absurd (hsome.symm.trans hnone) (by rintro ⟨⟩)
  | reported _ _ _ hsome => exact absurd (hsome.symm.trans hnone) (by rintro ⟨⟩)
  | software _ _ _ hsome => exact absurd (hsome.symm.trans hnone) (by rintro ⟨⟩)
  | onchannel _ _ _ hsome => exact absurd (hsome.symm.trans hnone) (by rintro ⟨⟩)

theorem Good.refused {l : ScanLocal} {out : List ScanOutput} (hledger : s.Ledger)
    (hnone : s.scan.scanReq = none) (hkept : Kept s (s.put l out)) (hlnone : l.scanReq = none)
    (hscanning : l.scanning = .clear) (hqueued : l.workQueued = false)
    (hdriver : (s.put l out).driver = .idle) : (s.put l out).settle.Good hw := by
  constructor
  · apply Ledger.settle
    refine hledger.congr ?_ hkept.accepted hkept.reports hkept.nextCookie hkept.confused
    rw [put_scan, hlnone, hnone]
  · have hscan := put_scan s l out
    unfold settle
    rw [hscan, if_pos hscanning]
    exact .idle hlnone hscanning hqueued hdriver rfl rfl

theorem Good.request (hgood : s.Good hw) (o : ScanStart) (sdata : ℕ)
    (hreq : req.cookie = s.nextCookie) (hexternal : req.internal = false)
    {result : ScanLocal × List ScanOutput × Option ScanErrno}
    (hresult : s.scan.startScan hw o sdata req = result) :
    (({ s with
      nextCookie := s.nextCookie + 1
      accepted := if result.2.2 = none then s.accepted ++ [s.nextCookie] else s.accepted } :
      ScanSystem).put result.1 result.2.1).settle.Good hw := by
  have hlater : ∀ cookie ∈ s.accepted, cookie < s.nextCookie + 1 :=
    fun cookie hcookie => (hgood.ledger.fresh cookie hcookie).trans (Nat.lt_succ_self _)
  have hcounted : ({ s with nextCookie := s.nextCookie + 1 } : ScanSystem).Ledger :=
    ⟨hgood.ledger.once, hgood.ledger.sorted, hlater, hgood.ledger.covers, hgood.ledger.calm⟩
  by_cases hnone : s.scan.scanReq = none
  · rcases hgood.mode.idle_of_none hnone with ⟨hscanning, hqueued, hdriver, hcovered, hcut⟩
    have hstarts := @startScan_starts hw { s with
      nextCookie := s.nextCookie + 1
      accepted := if result.2.2 = none then s.accepted ++ [s.nextCookie] else s.accepted } s.scan
      hnone hscanning hqueued hdriver hcovered hcut o sdata req
    rw [hresult] at hstarts
    rcases hstarts with ⟨hkept, ⟨hok, hsome, hmode⟩ | ⟨herror, hlnone, hlclear, hlqueued, hldriver⟩⟩
    · refine ⟨Ledger.settle ?_, hmode⟩
      have honce := hgood.ledger.once
      unfold pending at honce
      rw [hnone] at honce
      simp only [hok, if_true] at hkept ⊢
      constructor
      · unfold pending
        rw [put_scan, hsome, hkept.accepted, hkept.reports]
        simp [hexternal, hreq, honce]
      · rw [hkept.accepted]
        refine List.pairwise_append.mpr ⟨hgood.ledger.sorted, List.pairwise_singleton _ _, ?_⟩
        intro cookie hcookie last hlast
        rw [List.mem_singleton.mp hlast]
        exact hgood.ledger.fresh cookie hcookie
      · rw [hkept.accepted, hkept.nextCookie]
        intro cookie hcookie
        rcases List.mem_append.mp hcookie with hbefore | hlast
        · exact hlater cookie hbefore
        · rw [List.mem_singleton.mp hlast]
          exact Nat.lt_succ_self _
      · rw [hkept.reports]
        exact hgood.ledger.covers
      · rw [hkept.confused]
        exact hgood.ledger.calm
    · rw [if_neg herror] at hkept hldriver ⊢
      exact Good.refused hcounted hnone hkept hlnone hlclear hlqueued hldriver
  · have hbusy : s.scan.startScan hw o sdata req = (s.scan, [], some .busy) := by
      unfold ScanLocal.startScan
      rw [if_pos (Option.isSome_iff_ne_none.mpr hnone)]
    rw [← hresult, hbusy]
    dsimp only
    rw [if_neg (by rintro ⟨⟩), put_nil]
    have hmode := hgood.mode.counted (s.nextCookie + 1) s.accepted
    rw [hmode.settle_eq]
    exact ⟨hcounted, hmode⟩

theorem Good.ibssRequest (hgood : s.Good hw) (o : ScanStart) (sdata : ℕ)
    (channels : Option (List ScanChannel)) (bands : List ScanChannel)
    {result : ScanLocal × List ScanOutput × Option ScanErrno}
    (hresult : s.scan.requestIbssScan hw o sdata channels bands = result) :
    (s.put result.1 result.2.1).settle.Good hw := by
  have hsame : (s.put s.scan []).settle.Good hw := by
    rw [put_nil, hgood.mode.settle_eq]
    exact hgood
  unfold ScanLocal.requestIbssScan at hresult
  by_cases hnone : s.scan.scanReq = none
  · rw [hnone, Option.isSome_none, if_neg Bool.false_ne_true] at hresult
    cases hreq : ScanLocal.ibssRequest channels bands with
    | none =>
        rw [hreq] at hresult
        rw [← hresult]
        exact hsame
    | some req =>
        rw [hreq] at hresult
        dsimp only at hresult
        rcases hgood.mode.idle_of_none hnone with ⟨hscanning, hqueued, hdriver, hcovered, hcut⟩
        have hstarts := @startScan_starts hw s s.scan hnone hscanning hqueued hdriver hcovered hcut
          o sdata req
        rw [hresult] at hstarts
        rcases hstarts with ⟨hkept, ⟨_, hsome, hmode⟩ | ⟨_, hlnone, hlclear, hlqueued, hldriver⟩⟩
        · refine ⟨Ledger.settle ?_, hmode⟩
          have honce := hgood.ledger.once
          unfold pending at honce
          rw [hnone] at honce
          have hinternal : req.internal = true := by
            unfold ScanLocal.ibssRequest at hreq
            dsimp only at hreq
            split_ifs at hreq
            rw [← Option.some.inj hreq]
          constructor
          · unfold pending
            rw [put_scan, hsome, hkept.accepted, hkept.reports, honce]
            simp [hinternal]
          · rw [hkept.accepted]
            exact hgood.ledger.sorted
          · rw [hkept.accepted, hkept.nextCookie]
            exact hgood.ledger.fresh
          · rw [hkept.reports]
            exact hgood.ledger.covers
          · rw [hkept.confused]
            exact hgood.ledger.calm
        · exact Good.refused hgood.ledger hnone hkept hlnone hlclear hlqueued hldriver
  · rw [if_pos (Option.isSome_iff_ne_none.mpr hnone)] at hresult
    rw [← hresult]
    exact hsame

/-! ## The work -/

theorem Good.giveUp (hgood : s.Good hw) (hdriver : s.driver ≠ .hardware)
    (hreq : s.scan.scanReq = some req) {l : ScanLocal} (hlreq : l.scanReq = some req)
    (hqueued : l.workQueued = false) (hlscanning : l.scanning = s.scan.scanning) (iesFit : Bool)
    (answer : HwScanAnswer) :
    (s.put (l.scanCompleted hw true iesFit answer).1
      (l.scanCompleted hw true iesFit answer).2).settle.Good hw := by
  have hends : ∀ driver : ScanDriver, s.driver = driver →
      driver = (if !s.scan.scanning.hwScanning && decide (s.scan.scanning ≠ .clear) then
        .software else .idle) →
      (s.put (l.scanCompleted hw true iesFit answer).1
        (l.scanCompleted hw true iesFit answer).2).settle.Good hw := by
    intro driver hnow hdue
    refine Good.ends hgood.ledger hreq hlreq hqueued (.inr rfl) (fun _ => rfl) ?_ ?_ _ _
    · rw [hlscanning]
      exact hnow.trans hdue
    · rintro ⟨⟩
  cases hgood.mode with
  | idle hnone => exact absurd (hnone.symm.trans hreq) (by rintro ⟨⟩)
  | deferred _ _ _ hscanning hidle =>
      refine hends _ hidle ?_
      rw [hscanning]
      rfl
  | hardware _ _ _ _ _ _ hbusy => exact absurd hbusy hdriver
  | reported _ _ _ _ _ hscanning _ hidle =>
      refine hends _ hidle ?_
      rw [hscanning]
      rfl
  | software _ _ _ _ _ hscanning _ hbusy =>
      refine hends _ hbusy ?_
      rw [hscanning]
      rfl
  | onchannel _ _ _ _ _ hscanning _ hbusy =>
      refine hends _ hbusy ?_
      rw [hscanning]
      rfl

theorem Good.startDeferred (hledger : s.Ledger) {l : ScanLocal} (hreq : s.scan.scanReq = some req)
    {result : ScanLocal × List ScanOutput × Option ScanErrno}
    (hstarts : Starts hw s req result) (iesFit : Bool) (answer : HwScanAnswer)
    (hl : l = { result.1 with scanReq := some req }) :
    (result.2.2 = none → (s.put result.1 result.2.1).settle.Good hw) ∧
    (result.2.2 ≠ none →
      (s.put (l.scanCompleted hw true iesFit answer).1
        (result.2.1 ++ (l.scanCompleted hw true iesFit answer).2)).settle.Good hw) := by
  rcases hstarts with ⟨hkept, ⟨hok, hsome, hmode⟩ | ⟨herror, _, hclear, hqueued, hdriver⟩⟩
  · refine ⟨fun _ => ⟨Ledger.settle ?_, hmode⟩, fun hnot => absurd hok hnot⟩
    refine hledger.congr ?_ hkept.accepted hkept.reports hkept.nextCookie hkept.confused
    rw [put_scan, hsome, hreq]
  · refine ⟨fun hnot => absurd hnot herror, fun _ => ?_⟩
    rw [put_append s l]
    have hput : s.put l result.2.1 = { s.put result.1 result.2.1 with scan := l } :=
      foldl_watch_scan { s with scan := result.1 } l result.2.1
    have hlclear : l.scanning = .clear := by rw [hl]; exact hclear
    rw [hput]
    refine Good.ends ?_ (by rw [hl]) (by rw [hl]) (by rw [hl]; exact hqueued) (.inr rfl)
      (fun _ => rfl) ?_ ?_ _ _
    · refine hledger.congr ?_ hkept.accepted hkept.reports hkept.nextCookie hkept.confused
      rw [hreq, hl]
    · rw [hlclear]
      exact hdriver
    · rintro ⟨⟩

theorem Soft.work (hledger : s.Ledger) (hsoft : Soft s req) (o : ScanView)
    {last : ScanLocal} {out : List ScanOutput} {finished : Option Bool}
    (hlast : Soft (s.put last out) req) (hkept : Kept s (s.put last out))
    (hends : finished = some false → req.channels.length ≤ last.scanChannelIdx) :
    (finished = none → (s.put { last with workQueued := true } out).settle.Good hw) ∧
    ∀ aborted, finished = some aborted →
      (s.put (last.scanCompleted hw aborted o.iesFit o.answer).1
        (out ++ (last.scanCompleted hw aborted o.iesFit o.answer).2)).settle.Good hw := by
  have hcovered := hlast.covered
  have hreq := hlast.scanReq
  have hqueued := hlast.queued
  have hsdata := hlast.scanSdata
  have hplaced := hlast.placed
  rcases hlast.scanning with ⟨wait, done, hscanning⟩
  rw [put_scan] at hcovered hreq hqueued hsdata hplaced hscanning
  have hnow : (s.put last out).Ledger := by
    refine hledger.congr ?_ hkept.accepted hkept.reports hkept.nextCookie hkept.confused
    rw [put_scan, hreq, hsoft.scanReq]
  constructor
  · intro _
    have hput : s.put { last with workQueued := true } out =
        { s.put last out with scan := { last with workQueued := true } } :=
      foldl_watch_scan { s with scan := last } _ out
    have hmode : Mode hw (s.put { last with workQueued := true } out) := by
      rw [hput]
      exact .software req wait done hreq hsdata hscanning rfl hlast.driver hcovered hplaced
    rw [hmode.settle_eq]
    refine ⟨?_, hmode⟩
    rw [hput]
    refine hnow.congr ?_ rfl rfl rfl rfl
    rw [put_scan]
  · intro aborted hfinished
    rw [put_append s last]
    refine Good.ends hnow (by rw [put_scan]; exact hreq) hreq hqueued (.inl ?_) ?_ ?_ ?_ _ _
    · rw [hscanning]
      rfl
    · rw [hscanning]
      rintro ⟨⟩
    · rw [hscanning]
      exact hlast.driver
    · intro haborted hcut
      rw [haborted] at hfinished
      rw [hcovered hcut, List.take_of_length_le (hends hfinished)]

theorem Mode.of_hardware (hmode : s.Mode hw) (hhardware : s.driver = .hardware) :
    s.scan.scanning.hwScanning = true ∧ s.scan.workQueued = false := by
  cases hmode with
  | idle _ _ _ hidle => exact absurd (hidle.symm.trans hhardware) (by rintro ⟨⟩)
  | deferred _ _ _ _ hidle => exact absurd (hidle.symm.trans hhardware) (by rintro ⟨⟩)
  | hardware _ _ _ _ hscanning hqueued =>
      rw [hscanning]
      exact ⟨rfl, hqueued⟩
  | reported _ _ _ _ _ _ _ hidle => exact absurd (hidle.symm.trans hhardware) (by rintro ⟨⟩)
  | software _ _ _ _ _ _ _ hsw => exact absurd (hsw.symm.trans hhardware) (by rintro ⟨⟩)
  | onchannel _ _ _ _ _ _ _ hsw => exact absurd (hsw.symm.trans hhardware) (by rintro ⟨⟩)

theorem Good.work (hgood : s.Good hw) (hqueued : s.scan.workQueued = true) (o : ScanView) :
    (s.put ({ s.scan with workQueued := false }.scanWork hw o).1
      ({ s.scan with workQueued := false }.scanWork hw o).2).settle.Good hw := by
  have hledger := hgood.ledger
  generalize hl : ({ s.scan with workQueued := false } : ScanLocal) = l
  have hlreq : l.scanReq = s.scan.scanReq := by rw [← hl]
  have hlsdata : l.scanSdata = s.scan.scanSdata := by rw [← hl]
  have hlscanning : l.scanning = s.scan.scanning := by rw [← hl]
  have hlqueued : l.workQueued = false := by rw [← hl]
  unfold ScanLocal.scanWork
  dsimp only
  by_cases hrun : (!o.canRunWorker) = true
  · rw [if_pos hrun]
    cases hreq : s.scan.scanReq with
    | none =>
        rw [(hgood.mode.idle_of_none hreq).2.1] at hqueued
        cases hqueued
    | some req =>
        refine hgood.giveUp (fun hhardware => ?_) hreq (hlreq.trans hreq) hlqueued hlscanning _ _
        rw [(hgood.mode.of_hardware hhardware).2] at hqueued
        cases hqueued
  rw [if_neg hrun, hlscanning]
  cases hgood.mode with
  | idle _ _ hnot => exact absurd (hnot.symm.trans hqueued) (by rintro ⟨⟩)
  | hardware _ _ _ _ _ hnot => exact absurd (hnot.symm.trans hqueued) (by rintro ⟨⟩)
  | onchannel req wait done hreq hsdata hscanning _ hdriver hall =>
      rw [hscanning]
      dsimp only
      rw [if_pos rfl]
      refine @Good.ends hw s { l with scanning := { ScanBits.clear with
        onchannelScanning := true, beaconWait := wait, beaconDone := done } } req hledger hreq
        (hlreq.trans hreq) hlqueued false (.inl rfl) ?_ hdriver (fun _ _ => ?_) o.iesFit o.answer
      · rintro ⟨⟩
      · rw [hall]
  | reported req cancelled aborted hreq hsdata hscanning _ hdriver hband hhanded =>
      rw [hscanning]
      dsimp only
      rw [if_neg (show ¬ScanBits.clear.onchannelScanning = true by rintro ⟨⟩), if_pos rfl]
      have hlband : l.hwScanBand = s.scan.hwScanBand := by rw [← hl]
      rw [← hlband] at hband hhanded
      exact @Good.bandDone hw s { l with scanning := { ScanBits.clear with
        hwScanning := true, hwCancelled := cancelled } } req hledger hreq (hlreq.trans hreq)
        hlqueued (hlsdata ▸ hsdata) cancelled rfl hdriver hband hhanded aborted o.iesFit o.answer
  | deferred req hreq hsdata hscanning hdriver hcovered hcut =>
      rcases Option.isSome_iff_exists.mp hsdata with ⟨sdata, hsome⟩
      rw [hscanning, if_neg (show ¬ScanBits.clear.onchannelScanning = true by rintro ⟨⟩),
        if_neg (show ¬ScanBits.clear.completed = true by rintro ⟨⟩), hlsdata, hlreq, hsome, hreq]
      dsimp only
      rw [if_pos rfl]
      have hstarts := @startScan_starts hw s { l with scanReq := none, scanSdata := none } rfl
        (hlscanning.trans hscanning) hlqueued hdriver hcovered hcut o.start sdata req
      rw [hlscanning, hscanning] at hstarts
      have hdone := Good.startDeferred hledger hreq hstarts o.iesFit o.answer rfl
      generalize ScanLocal.startScan hw _ o.start sdata req = started at hdone ⊢
      rcases started with ⟨now, out, errno⟩
      cases errno with
      | none => exact hdone.1 rfl
      | some errno => exact hdone.2 (by rintro ⟨⟩)
  | software req wait done hreq hsdata hscanning _ hdriver hcovered hplaced =>
      rcases Option.isSome_iff_exists.mp hsdata with ⟨sdata, hsome⟩
      rw [hscanning]
      dsimp only
      rw [if_neg (show ¬ScanBits.clear.onchannelScanning = true by rintro ⟨⟩),
        if_neg (show ¬ScanBits.clear.completed = true by rintro ⟨⟩), hlsdata, hlreq, hsome, hreq]
      dsimp only
      rw [if_neg (by rintro ⟨⟩)]
      have hsoft : Soft { s with scan := { l with
          scanReq := some req
          scanSdata := some sdata
          scanning := { ScanBits.clear with swScanning := true, beaconDone := done } } } req := by
        rw [← hl]
        exact ⟨rfl, rfl, rfl, ⟨false, done, rfl⟩, hdriver, hcovered, hplaced⟩
      rcases @Soft.loop hw _ _ hsoft o with ⟨last, out, finished, hloop, hlast, hkept, hends⟩
      dsimp only at hloop
      simp only [ScanBits.clear] at hloop ⊢
      rw [hloop]
      have hnow := @Ledger.congr s hledger { s with scan := { l with
        scanReq := some req
        scanSdata := some sdata
        scanning := { ScanBits.clear with swScanning := true, beaconDone := done } } } hreq.symm
        rfl rfl rfl rfl
      have hdone := @Soft.work hw _ _ hnow hsoft o last out finished hlast hkept hends
      cases finished with
      | none => exact hdone.1 rfl
      | some aborted => exact hdone.2 aborted rfl

/-! ## Everything else -/

theorem Good.driverCompleted (hgood : s.Good hw) (hdriver : s.driver = .hardware)
    (aborted : Bool) :
    Good hw { s with driver := .idle, scan := s.scan.driverCompleted aborted } := by
  refine ⟨hgood.ledger.congr rfl rfl rfl rfl rfl, ?_⟩
  cases hgood.mode with
  | idle _ _ _ hidle => exact absurd (hidle.symm.trans hdriver) (by rintro ⟨⟩)
  | deferred _ _ _ _ hidle => exact absurd (hidle.symm.trans hdriver) (by rintro ⟨⟩)
  | reported _ _ _ _ _ _ _ hidle => exact absurd (hidle.symm.trans hdriver) (by rintro ⟨⟩)
  | software _ _ _ _ _ _ _ hsw => exact absurd (hsw.symm.trans hdriver) (by rintro ⟨⟩)
  | onchannel _ _ _ _ _ _ _ hsw => exact absurd (hsw.symm.trans hdriver) (by rintro ⟨⟩)
  | hardware req cancelled hreq hsdata hscanning _ _ hband hhanded =>
      refine .reported req cancelled aborted hreq hsdata ?_ rfl rfl hband hhanded
      unfold ScanLocal.driverCompleted
      dsimp only
      rw [hscanning]
      rfl

theorem Good.rx (hgood : s.Good hw) : Good hw { s with scan := s.scan.scanRx } := by
  unfold ScanLocal.scanRx
  split_ifs with hwait
  · refine ⟨hgood.ledger.congr rfl rfl rfl rfl rfl, ?_⟩
    have hnone : ∀ bits : ScanBits, s.scan.scanning = bits → bits.beaconWait = false → False := by
      intro bits hbits hnot
      rw [hbits, hnot] at hwait
      cases hwait
    cases hgood.mode with
    | idle _ hscanning => exact (hnone _ hscanning rfl).elim
    | deferred _ _ _ hscanning => exact (hnone _ hscanning rfl).elim
    | hardware _ _ _ _ hscanning => exact (hnone _ hscanning rfl).elim
    | reported _ _ _ _ _ hscanning => exact (hnone _ hscanning rfl).elim
    | software req wait done hreq hsdata hscanning _ hdriver hcovered hplaced =>
        refine .software req false true hreq hsdata ?_ rfl hdriver hcovered hplaced
        dsimp only
        rw [hscanning]
    | onchannel req wait done hreq hsdata hscanning _ hdriver hcovered =>
        refine .onchannel req false true hreq hsdata ?_ rfl hdriver hcovered
        dsimp only
        rw [hscanning]
  · exact hgood

theorem Good.runDeferred (hgood : s.Good hw) (canScan : Bool) :
    Good hw { s with scan := s.scan.runDeferredScan canScan } := by
  unfold ScanLocal.runDeferredScan
  split_ifs with hbusy hcan
  · exact hgood
  · refine ⟨hgood.ledger.congr rfl rfl rfl rfl rfl, ?_⟩
    rw [not_or, not_not] at hbusy
    rcases hbusy with ⟨hsome, hclear⟩
    have hother : ∀ bits : ScanBits, s.scan.scanning = bits → bits ≠ .clear → False :=
      fun bits hbits hnot => hnot (hbits.symm.trans hclear)
    cases hgood.mode with
    | idle hnone => exact absurd hnone hsome
    | deferred req hreq hsdata hscanning hdriver hcovered hcut =>
        exact .deferred req hreq hsdata hscanning hdriver hcovered hcut
    | hardware _ _ _ _ hscanning => exact (hother _ hscanning (by rintro ⟨⟩)).elim
    | reported _ _ _ _ _ hscanning => exact (hother _ hscanning (by rintro ⟨⟩)).elim
    | software _ _ _ _ _ hscanning => exact (hother _ hscanning (by rintro ⟨⟩)).elim
    | onchannel _ _ _ _ _ hscanning => exact (hother _ hscanning (by rintro ⟨⟩)).elim
  · exact hgood

theorem Good.cancel (hgood : s.Good hw) :
    (s.put (s.scan.scanCancel hw).1 (s.scan.scanCancel hw).2).settle.Good hw := by
  unfold ScanLocal.scanCancel
  by_cases hnone : s.scan.scanReq = none
  · rw [if_pos hnone, put_nil, hgood.mode.settle_eq]
    exact hgood
  rw [if_neg hnone]
  by_cases hhw : s.scan.scanning.hwScanning = false
  · rcases Option.ne_none_iff_exists'.mp hnone with ⟨req, hreq⟩
    rw [hhw, if_neg Bool.false_ne_true]
    refine @Good.giveUp hw s req hgood (fun hhardware => ?_) hreq
      { s.scan with workQueued := false } hreq rfl rfl true .failed
    rw [(hgood.mode.of_hardware hhardware).1] at hhw
    cases hhw
  cases hgood.mode with
  | idle hgone => exact absurd hgone hnone
  | deferred _ _ _ hscanning => exact absurd (hscanning ▸ rfl) hhw
  | software _ _ _ _ _ hscanning => exact absurd (hscanning ▸ rfl) hhw
  | onchannel _ _ _ _ _ hscanning => exact absurd (hscanning ▸ rfl) hhw
  | hardware req cancelled hreq hsdata hscanning hqueued hdriver hband hhanded =>
      rw [hscanning]
      dsimp only
      rw [if_pos rfl]
      have hput : ∀ (out : List ScanOutput) (l : ScanLocal), out = [] ∨ out = [.cancelHwScan] →
          s.put l out = { s with scan := l } := by
        intro out l hout
        rcases hout with hout | hout
        · rw [hout, put_nil]
        · rw [hout]
          unfold put
          simp only [List.foldl_cons, List.foldl_nil, watch, hdriver, if_true]
      rw [hput _ _ (by split_ifs; exacts [.inr rfl, .inl rfl])]
      have hmode : Mode hw { s with scan := { s.scan with
          scanning := { ScanBits.clear with hwScanning := true, hwCancelled := true } } } :=
        .hardware req true hreq hsdata rfl hqueued hdriver hband hhanded
      have hsettled := hmode.settle_eq
      dsimp only at hsettled
      rw [hsettled]
      exact ⟨hgood.ledger.congr rfl rfl rfl rfl rfl, hmode⟩
  | reported req cancelled aborted hreq hsdata hscanning hqueued hdriver hband hhanded =>
      rw [hscanning]
      dsimp only
      rw [if_pos rfl, Bool.not_true, Bool.false_and, if_neg Bool.false_ne_true, put_nil]
      have hmode : Mode hw { s with scan := { s.scan with scanning := { ScanBits.clear with
          hwScanning := true, hwCancelled := true, completed := true, aborted := aborted } } } :=
        .reported req true aborted hreq hsdata rfl hqueued hdriver hband hhanded
      have hsettled := hmode.settle_eq
      dsimp only at hsettled
      rw [hsettled]
      exact ⟨hgood.ledger.congr rfl rfl rfl rfl rfl, hmode⟩

theorem Good.step (hgood : s.Good hw) {event : ScanEvent} {output : List Unit}
    (hstep : s.step hw event = some (after, output)) : after.Good hw := by
  cases event with
  | request o sdata channels nSsids lowPriority duration =>
      rw [← show _ = after from congrArg Prod.fst (Option.some.inj hstep)]
      exact hgood.request o sdata rfl rfl rfl
  | ibssRequest o sdata channels bands =>
      rw [← show _ = after from congrArg Prod.fst (Option.some.inj hstep)]
      exact hgood.ibssRequest o sdata channels bands rfl
  | work o =>
      simp only [ScanSystem.step] at hstep
      split_ifs at hstep with hqueued
      rw [← show _ = after from congrArg Prod.fst (Option.some.inj hstep)]
      exact hgood.work hqueued o
  | driverCompleted aborted =>
      simp only [ScanSystem.step] at hstep
      split_ifs at hstep with hdriver
      rw [← show _ = after from congrArg Prod.fst (Option.some.inj hstep)]
      exact hgood.driverCompleted hdriver aborted
  | rx =>
      rw [← show _ = after from congrArg Prod.fst (Option.some.inj hstep)]
      exact hgood.rx
  | runDeferred canScan =>
      rw [← show _ = after from congrArg Prod.fst (Option.some.inj hstep)]
      exact hgood.runDeferred canScan
  | cancel =>
      rw [← show _ = after from congrArg Prod.fst (Option.some.inj hstep)]
      exact hgood.cancel

theorem initial_good (hw : ScanHw) : initial.Good hw := by
  refine ⟨⟨rfl, List.Pairwise.nil, ?_, ?_, rfl⟩, .idle rfl rfl rfl rfl rfl rfl⟩
  · rintro _ ⟨⟩
  · rintro _ ⟨⟩

theorem good_of_reachable
    (hreach : ConditionedRun.Reachable (ScanSystem.step hw) (fun _ _ => True) .initial s) :
    s.Good hw :=
  @ConditionedRun.Reachable.invariant ScanSystem ScanEvent Unit (ScanSystem.step hw)
    (fun _ _ => True) .initial (Good hw) (initial_good hw)
    (fun _ _ _ _ hgood _ hstep => hgood.step hstep) s hreach

def bandHw : ScanHw := ⟨true, false, false, true, true, 100, by decide⟩

def bandStart : ScanStart := ⟨true, true, true, false, true, .started, false, false⟩

def bandView : ScanView where
  canRunWorker := true
  running := true
  associated _ := false
  txEmpty _ := true
  badLatency _ := false
  tuned _ := true
  iesFit := true
  answer := .started
  start := bandStart

def bandEvents : List ScanEvent :=
  [.request bandStart 0
    [⟨5180, ⟨1, by decide⟩, false, false, false⟩, ⟨2412, ⟨0, by decide⟩, false, false, false⟩]
      1 false 0,
    .driverCompleted false, .work bandView, .driverCompleted false, .work bandView]

def bandsDone : ScanSystem :=
  ((ConditionedRun.run (ScanSystem.step bandHw) .initial bandEvents).map Prod.fst).getD .initial

theorem bandsDone_reachable :
    ConditionedRun.Reachable (ScanSystem.step bandHw) (fun _ _ => True) .initial bandsDone :=
  ConditionedRun.reachable_of_run .start
    (show ConditionedRun.run (ScanSystem.step bandHw) .initial bandEvents =
      some (bandsDone, []) from rfl)

example : bandsDone.reports.map (fun report => (report.cookie, report.aborted, report.cut)) =
    [(0, false, false)] := rfl

end ScanSystem

end IwlwifiStack
