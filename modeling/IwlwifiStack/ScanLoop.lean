import IwlwifiStack.ScanReports

/-!
# The loop of the software scan

Each round of the work either waits or comes closer to the end of the channels.  Unless
tuning to one fails, the channels that were tuned to are the first ones of the request.
-/

namespace IwlwifiStack

namespace ScanSystem

variable {hw : ScanHw} {s : ScanSystem} {req : ScanRequest}


/-- The software scans, and the work runs. -/
structure Soft (s : ScanSystem) (req : ScanRequest) : Prop where
  scanReq : s.scan.scanReq = some req
  scanSdata : s.scan.scanSdata.isSome = true
  queued : s.scan.workQueued = false
  scanning : ∃ wait done, s.scan.scanning = { ScanBits.clear with
    swScanning := true, beaconWait := wait, beaconDone := done }
  driver : s.driver = .software
  covered : s.cut = false → s.covered = req.channels.take s.scan.scanChannelIdx
  placed : Placed s.scan req

theorem Kept.refl (s : ScanSystem) : Kept s s := ⟨rfl, rfl, rfl, rfl⟩

theorem Kept.trans {middle last : ScanSystem} (hfirst : Kept s middle) (hlast : Kept middle last) :
    Kept s last :=
  ⟨hlast.accepted.trans hfirst.accepted, hlast.reports.trans hfirst.reports,
    hlast.nextCookie.trans hfirst.nextCookie, hlast.confused.trans hfirst.confused⟩

def roundsLeft (req : ScanRequest) (l : ScanLocal) : ℕ :=
  2 * (req.channels.length - l.scanChannelIdx) +
    if l.nextScanState = .decision ∨ l.nextScanState = .resume then 1 else 0

/-- A round leaves the scan in order; it does not end too early, and without a delay it comes
closer to the end. -/
def RoundOk (s : ScanSystem) (req : ScanRequest)
    (result : ScanLocal × List ScanOutput × ScanLocal.Round) : Prop :=
  Soft (s.put result.1 result.2.1) req ∧ Kept s (s.put result.1 result.2.1) ∧
  (result.2.2 = .complete false → req.channels.length ≤ result.1.scanChannelIdx) ∧
  (result.2.2 = .delayed 0 → roundsLeft req result.1 < roundsLeft req s.scan)

theorem Soft.turn (hsoft : Soft s req) {next : ScanState}
    (hplaced : Placed { s.scan with nextScanState := next } req) :
    Soft { s with scan := { s.scan with nextScanState := next } } req :=
  ⟨hsoft.scanReq, hsoft.scanSdata, hsoft.queued, hsoft.scanning, hsoft.driver, hsoft.covered, hplaced⟩

theorem Soft.decision (hsoft : Soft s req) (hstate : s.scan.nextScanState = .decision)
    (hidx : s.scan.scanChannelIdx < req.channels.length) (o : ScanView) :
    RoundOk s req ((s.scan.scanStateDecision o req).1, (s.scan.scanStateDecision o req).2, .delayed 0) := by
  unfold ScanLocal.scanStateDecision
  dsimp only
  rw [List.getElem?_eq_getElem hidx, Option.isSome_some, if_pos rfl]
  generalize hnext : (if (o.associated s.scan.scanChannelIdx &&
      !o.txEmpty s.scan.scanChannelIdx) = true then
      if req.lowPriority = true then ScanState.abort else ScanState.suspend
    else if (o.associated s.scan.scanChannelIdx && o.badLatency s.scan.scanChannelIdx) = true then
      ScanState.suspend
    else ScanState.setChannel) = next
  have hother : next ≠ .decision ∧ next ≠ .resume := by
    rw [← hnext]
    split_ifs <;> exact ⟨by rintro ⟨⟩, by rintro ⟨⟩⟩
  refine ⟨hsoft.turn ⟨hidx.le, fun _ => hidx⟩, ⟨rfl, rfl, rfl, rfl⟩, by rintro ⟨⟩, fun _ => ?_⟩
  unfold roundsLeft
  dsimp only
  rw [if_neg (not_or.mpr hother), if_pos (.inl hstate)]
  omega

theorem Soft.setChannel (hsoft : Soft s req)
    (hidx : s.scan.scanChannelIdx < req.channels.length) (o : ScanView) :
    RoundOk s req ((s.scan.scanStateSetChannel hw o req).1, (s.scan.scanStateSetChannel hw o req).2.1,
      .delayed (s.scan.scanStateSetChannel hw o req).2.2) := by
  have hmisses : ∀ l : ScanLocal,
      s.put l [.tune req.channels[s.scan.scanChannelIdx] false] =
        { s with scan := l, cut := true } := by
    intro l
    unfold put
    simp only [List.foldl_cons, List.foldl_nil, watch, hsoft.driver, if_true, Bool.false_eq_true,
      if_false]
  have hcovers : ∀ l : ScanLocal,
      s.put l [.tune req.channels[s.scan.scanChannelIdx] true] =
        { s with scan := l, covered := s.covered ++ [req.channels[s.scan.scanChannelIdx]] } := by
    intro l
    unfold put
    simp only [List.foldl_cons, List.foldl_nil, watch, hsoft.driver, if_true]
  have hnext : s.cut = false → s.covered ++ [req.channels[s.scan.scanChannelIdx]] =
      req.channels.take (s.scan.scanChannelIdx + 1) := by
    intro hcut
    rw [hsoft.covered hcut, List.take_concat_get' _ _ hidx]
  have hless : ∀ l : ScanLocal, l.scanChannelIdx = s.scan.scanChannelIdx + 1 →
      roundsLeft req l < roundsLeft req s.scan := by
    intro l hnext
    unfold roundsLeft
    rw [hnext]
    split_ifs <;> omega
  rcases hsoft.scanning with ⟨wait, done, hscanning⟩
  unfold ScanLocal.scanStateSetChannel
  rw [List.getElem?_eq_getElem hidx]
  dsimp only
  by_cases htuned : (!o.tuned s.scan.scanChannelIdx) = true
  · rw [if_pos htuned]
    unfold RoundOk
    dsimp only
    rw [hmisses]
    exact ⟨⟨hsoft.scanReq, hsoft.scanSdata, hsoft.queued, hsoft.scanning, hsoft.driver,
      by rintro ⟨⟩, .of_other hidx (.inl rfl)⟩, ⟨rfl, rfl, rfl, rfl⟩, by rintro ⟨⟩,
      fun _ => hless _ rfl⟩
  rw [if_neg htuned]
  by_cases hpassive : ScanLocal.passive req req.channels[s.scan.scanChannelIdx] = true
  · rw [if_pos hpassive]
    unfold RoundOk
    dsimp only
    rw [hcovers]
    refine ⟨⟨hsoft.scanReq, hsoft.scanSdata, hsoft.queued, ⟨wait || decide (req.nSsids ≠ 0), done, ?_⟩,
      hsoft.driver, hnext, .of_other hidx (.inl rfl)⟩, ⟨rfl, rfl, rfl, rfl⟩, by rintro ⟨⟩,
      fun _ => hless _ rfl⟩
    dsimp only
    rw [hscanning]
  · rw [if_neg hpassive]
    unfold RoundOk
    dsimp only
    rw [hcovers]
    exact ⟨⟨hsoft.scanReq, hsoft.scanSdata, hsoft.queued, hsoft.scanning, hsoft.driver, hnext,
      .of_other hidx (.inr (.inl rfl))⟩, ⟨rfl, rfl, rfl, rfl⟩, by rintro ⟨⟩,
      fun _ => hless _ rfl⟩

theorem Soft.sendProbe (hsoft : Soft s req) :
    RoundOk s req ((s.scan.scanStateSendProbe hw req).1, (s.scan.scanStateSendProbe hw req).2.1,
      .delayed (s.scan.scanStateSendProbe hw req).2.2) := by
  have hpos : 0 < ScanLocal.channelTime hw := Nat.div_pos hw.hz_ge (by decide)
  have hput : ∀ l : ScanLocal, s.put l [.probes req.nSsids] = { s with scan := l } := by
    intro l
    unfold put
    simp only [List.foldl_cons, List.foldl_nil, watch, hsoft.driver, if_true]
  unfold ScanLocal.scanStateSendProbe RoundOk
  dsimp only
  rw [hput]
  refine ⟨hsoft.turn (.of_other hsoft.placed.1 (.inl rfl)), ⟨rfl, rfl, rfl, rfl⟩, by rintro ⟨⟩,
    fun hzero => ?_⟩
  injection hzero with hzero
  split_ifs at hzero with hlong
  · omega
  · omega

theorem RoundOk.later {now : ScanLocal} {result : ScanLocal × List ScanOutput × ScanLocal.Round}
    (hround : RoundOk { s with scan := now } req result)
    (hless : roundsLeft req now ≤ roundsLeft req s.scan) : RoundOk s req result := by
  rcases hround with ⟨hsoft, hkept, hends, hcloser⟩
  exact ⟨hsoft, ⟨hkept.accepted, hkept.reports, hkept.nextCookie, hkept.confused⟩, hends,
    fun hzero => (hcloser hzero).trans_le hless⟩

theorem Soft.switch (hsoft : Soft s req) (o : ScanView) :
    RoundOk s req (s.scan.scanSwitch hw o req) := by
  have hplaced := hsoft.placed.2
  unfold ScanLocal.scanSwitch
  cases hstate : s.scan.nextScanState with
  | decision =>
      dsimp only
      split_ifs with hidx
      · exact ⟨hsoft, .refl s, fun _ => hidx, by rintro ⟨⟩⟩
      · exact hsoft.decision hstate (not_le.mp hidx) o
  | setChannel => exact hsoft.setChannel (hplaced (.inl hstate)) o
  | sendProbe => exact hsoft.sendProbe
  | suspend =>
      have hidx := hplaced (.inr (.inl hstate))
      refine ⟨hsoft.turn ⟨hidx.le, fun _ => hidx⟩, ⟨rfl, rfl, rfl, rfl⟩, by rintro ⟨⟩, fun hzero => ?_⟩
      injection hzero with hzero
      have hpos : 0 < hw.hz / 5 := Nat.div_pos (le_trans (by decide) hw.hz_ge) (by decide)
      exact absurd hzero hpos.ne'
  | resume =>
      have hidx := hplaced (.inr (.inr hstate))
      refine ⟨hsoft.turn ⟨hidx.le, fun _ => hidx⟩, ⟨rfl, rfl, rfl, rfl⟩, by rintro ⟨⟩, fun _ => ?_⟩
      unfold roundsLeft ScanLocal.scanStateResume
      dsimp only
      rw [if_neg (by rintro (hnot | hnot) <;> cases hnot), if_pos (.inr hstate)]
      omega
  | abort => exact ⟨hsoft, .refl s, by rintro ⟨⟩, by rintro ⟨⟩⟩

theorem Soft.round (hsoft : Soft s req) (o : ScanView) :
    RoundOk s req (s.scan.scanRound hw o req) := by
  have hclear : Soft { s with
      scan := { s.scan with scanning := { s.scan.scanning with beaconDone := false } } } req := by
    rcases hsoft.scanning with ⟨wait, done, hscanning⟩
    refine ⟨hsoft.scanReq, hsoft.scanSdata, hsoft.queued, ⟨wait, false, ?_⟩, hsoft.driver, hsoft.covered,
      hsoft.placed⟩
    dsimp only
    rw [hscanning]
  unfold ScanLocal.scanRound
  dsimp only
  split_ifs with hrunning hbeacon
  · exact ⟨hsoft, .refl s, by rintro ⟨⟩, by rintro ⟨⟩⟩
  · refine RoundOk.later ((hclear.turn (.of_other hsoft.placed.1 (.inr (.inl rfl)))).switch o) ?_
    unfold roundsLeft
    dsimp only
    rw [if_neg (by rintro (hnot | hnot) <;> cases hnot), if_pos (.inl hbeacon.2)]
    omega
  · exact RoundOk.later (hclear.switch o) le_rfl

theorem Soft.loop (hsoft : Soft s req) (o : ScanView) :
    ∃ last out finished,
      FuelLoop.run (ScanLocal.scanBody hw o req) (s.scan.scanFuel req) (s.scan, []) =
        some (last, out, finished) ∧
      Soft (s.put last out) req ∧ Kept s (s.put last out) ∧
      (finished = some false → req.channels.length ≤ last.scanChannelIdx) := by
  have hround : ∀ st : ScanLocal × List ScanOutput,
      Soft (s.put st.1 st.2) req → Kept s (s.put st.1 st.2) →
      ∀ result, st.1.scanRound hw o req = result →
      Soft (s.put result.1 (st.2 ++ result.2.1)) req ∧
        Kept s (s.put result.1 (st.2 ++ result.2.1)) ∧
        (result.2.2 = .complete false → req.channels.length ≤ result.1.scanChannelIdx) ∧
        (result.2.2 = .delayed 0 → roundsLeft req result.1 < roundsLeft req st.1) := by
    intro st hst hkept result hresult
    have hok := @Soft.round hw _ _ hst o
    rw [put_scan, hresult] at hok
    rcases hok with ⟨hnext, hlater, hends, hcloser⟩
    rw [put_scan] at hcloser
    rw [put_append s st.1]
    exact ⟨hnext, hkept.trans hlater, hends, hcloser⟩
  have hreached : ∀ st, FuelLoop.Reached (ScanLocal.scanBody hw o req) (s.scan, []) st →
      Soft (s.put st.1 st.2) req ∧ Kept s (s.put st.1 st.2) := by
    intro st hst
    refine hst.invariant (fun st => Soft (s.put st.1 st.2) req ∧ Kept s (s.put st.1 st.2))
      ⟨hsoft, .refl s⟩ fun st next _ hholds hnext => ?_
    have hok := hround st hholds.1 hholds.2 _ rfl
    unfold ScanLocal.scanBody at hnext
    dsimp only at hnext
    generalize st.1.scanRound hw o req = result at hok hnext
    rcases result with ⟨l, out, round⟩
    cases round with
    | complete aborted => cases hnext
    | delayed delay =>
        dsimp only at hnext
        split_ifs at hnext
        rw [← Sum.inr.inj hnext]
        exact ⟨hok.1, hok.2.1⟩
  have hcloser : ∀ st next, FuelLoop.Reached (ScanLocal.scanBody hw o req) (s.scan, []) st →
      ScanLocal.scanBody hw o req st = .inr next → roundsLeft req next.1 < roundsLeft req st.1 := by
    intro st next hst hnext
    have hholds := hreached st hst
    have hok := hround st hholds.1 hholds.2 _ rfl
    unfold ScanLocal.scanBody at hnext
    dsimp only at hnext
    generalize st.1.scanRound hw o req = result at hok hnext
    rcases result with ⟨l, out, round⟩
    cases round with
    | complete aborted => cases hnext
    | delayed delay =>
        dsimp only at hnext
        split_ifs at hnext with hzero
        rw [← Sum.inr.inj hnext]
        exact hok.2.2.2 (congrArg ScanLocal.Round.delayed hzero)
  have hfuel : roundsLeft req s.scan < s.scan.scanFuel req := by
    unfold roundsLeft ScanLocal.scanFuel
    split_ifs <;> omega
  rcases FuelLoop.run_of_measure (fun st : ScanLocal × List ScanOutput => roundsLeft req st.1) hcloser
      hfuel with
    ⟨⟨last, out, finished⟩, hrun⟩
  refine ⟨last, out, finished, hrun, ?_⟩
  rcases FuelLoop.reached_of_run hrun with ⟨st, hst, hlast⟩
  have hholds := hreached st hst
  have hok := hround st hholds.1 hholds.2 _ rfl
  unfold ScanLocal.scanBody at hlast
  dsimp only at hlast
  generalize st.1.scanRound hw o req = result at hok hlast
  rcases result with ⟨l, more, round⟩
  cases round with
  | complete aborted =>
      have heq := Sum.inl.inj hlast
      simp only [Prod.mk.injEq] at heq
      rcases heq with ⟨hl, hout, hfinished⟩
      rw [← hl, ← hout, ← hfinished]
      refine ⟨hok.1, hok.2.1, fun hfalse => hok.2.2.1 ?_⟩
      rw [Option.some.inj hfalse]
  | delayed delay =>
      dsimp only at hlast
      split_ifs at hlast
      have heq := Sum.inl.inj hlast
      simp only [Prod.mk.injEq] at heq
      rcases heq with ⟨hl, hout, hfinished⟩
      rw [← hl, ← hout, ← hfinished]
      refine ⟨hok.1, hok.2.1, ?_⟩
      rintro ⟨⟩

end ScanSystem

end IwlwifiStack
