import IwlwifiStack.PtpModel

/-!
# The time of the PTP clock

The wrap counter counts from the last change of the frequency, and the register
value of that moment is kept.  While no read is from before a wrap that another
read has passed, the two give the distance in microseconds from that moment,
and the time returned is that of the clock the settings define.
-/

namespace IwlwifiStack

open WrapDetection

/-! ## The clock of the settings -/

theorem clockTime_eq (settings : List PtpSetting) (count : ℕ) :
    clockTime settings count = clockTime settings (currentFreq settings).1 +
      (((count : ℤ) - (currentFreq settings).1) * 1000 *
        (ptpScaleFactor + (currentFreq settings).2)).tdiv ptpScaleFactor := by
  induction settings with
  | nil =>
      have hscale : (ptpScaleFactor : ℤ) ≠ 0 := by decide
      simp only [clockTime, currentFreq, Nat.cast_zero, mul_zero, zero_add,
        sub_zero, add_zero]
      rw [Int.mul_tdiv_cancel _ hscale]
      ring
  | cons setting settings ih =>
      cases setting with
      | delta ns =>
          simp only [clockTime, currentFreq]
          rw [ih]
          ring
      | freq base scaledPpm =>
          simp only [clockTime, currentFreq, sub_self, zero_mul, Int.zero_tdiv,
            add_zero]

def deltaSum : List PtpSetting → ℤ
  | [] => 0
  | .delta ns :: settings => deltaSum settings + ns
  | .freq _ _ :: settings => deltaSum settings

def Nominal (settings : List PtpSetting) : Prop :=
  ∀ base scaledPpm, .freq base scaledPpm ∈ settings → scaledPpm = 0

theorem clockTime_nominal {settings : List PtpSetting}
    (hnominal : Nominal settings) (count : ℕ) :
    clockTime settings count = 1000 * count + deltaSum settings := by
  induction settings generalizing count with
  | nil => rw [clockTime, deltaSum, add_zero]
  | cons setting settings ih =>
      have hrest : Nominal settings := fun base scaledPpm hmem =>
        hnominal base scaledPpm (List.mem_cons_of_mem _ hmem)
      cases setting with
      | delta ns =>
          rw [clockTime, ih hrest, deltaSum]
          ring
      | freq base scaledPpm =>
          have hzero := hnominal base scaledPpm List.mem_cons_self
          have hscale : (ptpScaleFactor : ℤ) ≠ 0 := by decide
          rw [clockTime, ih hrest, deltaSum, hzero, add_zero,
            Int.mul_tdiv_cancel _ hscale]
          ring

/-! ## What is promised and what is needed -/

def PtpEvent.count : PtpEvent → Option ℕ
  | .gettime count => some count
  | .crosstimestamp count _ => some count
  | .adjtime _ => none
  | .adjfine count _ => some count
  | .work count => some count

/-- A read is at most one hour after the newest one, and late by less than the
threshold; the first one comes before the first wrap. -/
def PtpRun.InStep (run : PtpRun) (event : PtpEvent) : Prop :=
  ∀ count, event.count = some count →
    match run.newest with
    | none => count < iwlPtpGp2Wrap
    | some newest => newest < count + iwlPtpWrapThresholdUsec ∧
        count ≤ newest + 3600000000

/-- The time since the current frequency, counted from the wrap before it, and
the same time scaled, have 64 bits in nanoseconds. -/
structure PtpRun.InRange (run : PtpRun) (count : ℕ) : Prop where
  base : count * 1000 < (currentFreq run.settings).1 / iwlPtpGp2Wrap *
    iwlPtpGp2Wrap * 1000 + 2 ^ 64
  scaled : (((count : ℤ) - (currentFreq run.settings).1) * 1000).natAbs *
    (ptpScaleFactor + (currentFreq run.settings).2).toNat / ptpScaleFactor <
      2 ^ 64

/-- No read is from before a wrap that the newest one has passed, the times are
in range and the frequency is not negative. -/
structure PtpRun.Meets (run : PtpRun) (event : PtpEvent) : Prop where
  samePeriod : ∀ count newest, event.count = some count →
    run.newest = some newest → count < newest →
      count / iwlPtpGp2Wrap = newest / iwlPtpGp2Wrap
  inRange : ∀ count, event.count = some count → run.InRange count
  positive : ∀ count scaledPpm, event = .adjfine count scaledPpm →
    0 ≤ ptpScaleFactor + scaledPpm.toInt

def PtpData.tracker (data : PtpData) : Tracker := ⟨data.lastGp2, data.wrapCounter⟩

/-- The clock is at the settings. -/
structure PtpRun.Good (run : PtpRun) : Prop where
  tracks : Tracks iwlPtpGp2Wrap
    ((currentFreq run.settings).1 / iwlPtpGp2Wrap) run.data.tracker
    (run.newest.getD 0)
  scaleUpdateGp2 : run.data.scaleUpdateGp2 =
    (currentFreq run.settings).1 % iwlPtpGp2Wrap
  scaledFreq : (run.data.scaledFreq.toNat : ℤ) =
    ptpScaleFactor + (currentFreq run.settings).2
  baseTime : run.data.scaleUpdateAdjTimeNs + run.data.delta =
    BitVec.ofInt 64 (clockTime run.settings (currentFreq run.settings).1)

theorem PtpRun.initial_good : PtpRun.initial.Good := by
  constructor
  · constructor <;> rfl
  · rfl
  · rfl
  · rfl

/-! ## One read -/

theorem PtpData.updateNewRead_eq {data : PtpData} {gp2 : ℕ}
    (hlt : (data.tracker.observe iwlPtpWrapThresholdUsec gp2).wraps < 2 ^ 32) :
    data.updateNewRead gp2 =
      { data with
        lastGp2 := (data.tracker.observe iwlPtpWrapThresholdUsec gp2).last
        wrapCounter :=
          (data.tracker.observe iwlPtpWrapThresholdUsec gp2).wraps } := by
  unfold updateNewRead
  unfold Tracker.observe tracker at hlt ⊢
  dsimp only at hlt ⊢
  split_ifs at hlt ⊢
  · rfl
  · rw [Nat.mod_eq_of_lt hlt]
  · rfl

/-- The tracker after a read is at the newest count, and its wraps are those of
the count that was read. -/
theorem PtpRun.Good.observed {run : PtpRun} {event : PtpEvent} {count : ℕ}
    (hgood : run.Good) (hstep : run.InStep event) (hmeets : run.Meets event)
    (hcount : event.count = some count) :
    Tracks iwlPtpGp2Wrap ((currentFreq run.settings).1 / iwlPtpGp2Wrap)
        (run.data.tracker.observe iwlPtpWrapThresholdUsec
          (count % iwlPtpGp2Wrap)) (max (run.newest.getD 0) count) ∧
      (currentFreq run.settings).1 / iwlPtpGp2Wrap +
        (run.data.tracker.observe iwlPtpWrapThresholdUsec
          (count % iwlPtpGp2Wrap)).wraps = count / iwlPtpGp2Wrap := by
  have htracks := hgood.tracks
  have hdomain := hstep count hcount
  cases hnewest : run.newest with
  | none =>
      rw [hnewest] at htracks hdomain
      have hobserved : Tracks iwlPtpGp2Wrap
          ((currentFreq run.settings).1 / iwlPtpGp2Wrap)
          (run.data.tracker.observe iwlPtpWrapThresholdUsec count) count :=
        htracks.observe_first hdomain
      rw [Nat.mod_eq_of_lt hdomain, Option.getD_none, Nat.zero_max]
      exact ⟨hobserved, hobserved.wraps_eq⟩
  | some newest =>
      rw [hnewest] at htracks hdomain
      obtain ⟨hlate, hhour⟩ := hdomain
      rw [Option.getD_some] at htracks ⊢
      rcases Nat.lt_or_ge count newest with hold | hnew
      · have hsame := hmeets.samePeriod count newest hcount hnewest hold
        rw [htracks.observe_older hold.le hlate hsame, max_eq_left hold.le]
        exact ⟨htracks, htracks.wraps_eq.trans hsame.symm⟩
      · have hahead :
            count + iwlPtpWrapThresholdUsec ≤ newest + iwlPtpGp2Wrap := by
          rw [iwlPtpWrapThresholdUsec, iwlPtpGp2Wrap]
          omega
        have hobserved := htracks.observe_newer (by decide) hnew hahead
          (by decide)
        rw [max_eq_right hnew]
        exact ⟨hobserved, hobserved.wraps_eq⟩

theorem scaledDiff_eq {mulDiv : MulU64U64DivU64}
    (hdocumented : MulDivDocumented mulDiv) {time scale origin count base : ℕ}
    {freq : ℕ} (htime : time + origin = count * 1000)
    (hscale : scale + origin = base * 1000)
    (hscaled : (((count : ℤ) - base) * 1000).natAbs * freq / ptpScaleFactor <
      2 ^ 64) :
    (if time < scale then -mulDiv (scale - time) freq ptpScaleFactor
      else mulDiv (time - scale) freq ptpScaleFactor) =
    BitVec.ofInt 64 ((((count : ℤ) - base) * 1000 * freq).tdiv
      ptpScaleFactor) := by
  have hpositive : 0 < ptpScaleFactor := by decide
  split_ifs with hless
  · have hneg : ((count : ℤ) - base) * 1000 = -((scale - time : ℕ) : ℤ) := by
      omega
    rw [hneg, Int.natAbs_neg, Int.natAbs_natCast] at hscaled
    rw [hdocumented.exact _ _ _ hpositive hscaled, hneg, Int.neg_mul,
      Int.neg_tdiv, BitVec.ofInt_neg, ← Nat.cast_mul, ← Int.ofNat_tdiv,
      BitVec.ofInt_natCast]
  · have hpos : ((count : ℤ) - base) * 1000 = ((time - scale : ℕ) : ℤ) := by
      omega
    rw [hpos, Int.natAbs_natCast] at hscaled
    rw [hdocumented.exact _ _ _ hpositive hscaled, hpos, ← Nat.cast_mul,
      ← Int.ofNat_tdiv, BitVec.ofInt_natCast]

section Read

variable {run : PtpRun} {event : PtpEvent} {count : ℕ} (hgood : run.Good)
  (hstep : run.InStep event) (hmeets : run.Meets event)
  (hcount : event.count = some count)

include hgood hstep hmeets hcount

theorem PtpRun.Good.updateNewRead_eq :
    run.data.updateNewRead (count % iwlPtpGp2Wrap) =
      { run.data with
        lastGp2 := (run.data.tracker.observe iwlPtpWrapThresholdUsec
          (count % iwlPtpGp2Wrap)).last
        wrapCounter := (run.data.tracker.observe iwlPtpWrapThresholdUsec
          (count % iwlPtpGp2Wrap)).wraps } := by
  obtain ⟨-, hwraps⟩ := hgood.observed hstep hmeets hcount
  have hbase := (hmeets.inRange count hcount).base
  apply PtpData.updateNewRead_eq
  have hcountEq := Nat.div_add_mod count iwlPtpGp2Wrap
  rw [← hwraps] at hcountEq
  simp only [iwlPtpGp2Wrap] at hbase hcountEq ⊢
  omega

theorem PtpRun.Good.updateNewRead_tracker :
    (run.data.updateNewRead (count % iwlPtpGp2Wrap)).tracker =
      run.data.tracker.observe iwlPtpWrapThresholdUsec
        (count % iwlPtpGp2Wrap) := by
  rw [hgood.updateNewRead_eq hstep hmeets hcount]
  rfl

theorem PtpRun.Good.processed :
    (run.processed count
      (run.data.updateNewRead (count % iwlPtpGp2Wrap))).Good := by
  obtain ⟨htracks, -⟩ := hgood.observed hstep hmeets hcount
  have htracker := hgood.updateNewRead_tracker hstep hmeets hcount
  have heq := hgood.updateNewRead_eq hstep hmeets hcount
  constructor
  · show Tracks _ _ (run.data.updateNewRead _).tracker _
    rw [htracker]
    exact htracks
  · rw [PtpRun.processed, heq]
    exact hgood.scaleUpdateGp2
  · rw [PtpRun.processed, heq]
    exact hgood.scaledFreq
  · rw [PtpRun.processed, heq]
    exact hgood.baseTime

theorem PtpRun.Good.getAdjTime_eq {mulDiv : MulU64U64DivU64}
    (hdocumented : MulDivDocumented mulDiv) :
    run.data.getAdjTime mulDiv (count % iwlPtpGp2Wrap * 1000) =
      (BitVec.ofInt 64 (clockTime run.settings count),
        run.data.updateNewRead (count % iwlPtpGp2Wrap)) := by
  obtain ⟨-, hwraps⟩ := hgood.observed hstep hmeets hcount
  have heq := hgood.updateNewRead_eq hstep hmeets hcount
  obtain ⟨hbase, hscaled⟩ := hmeets.inRange count hcount
  have hgp2 : count % iwlPtpGp2Wrap * 1000 / 1000 % 2 ^ 32 =
      count % iwlPtpGp2Wrap := by
    rw [Nat.mul_div_cancel _ (by decide)]
    exact Nat.mod_mod _ _
  obtain ⟨wraps, hwrapsDef⟩ : ∃ wraps, (run.data.tracker.observe
      iwlPtpWrapThresholdUsec (count % iwlPtpGp2Wrap)).wraps = wraps := ⟨_, rfl⟩
  obtain ⟨base, hbaseDef⟩ : ∃ base, (currentFreq run.settings).1 = base :=
    ⟨_, rfl⟩
  rw [hwrapsDef, hbaseDef] at hwraps
  rw [hbaseDef] at hbase hscaled
  have hcountEq := Nat.div_add_mod count iwlPtpGp2Wrap
  have hbaseEq := Nat.div_add_mod base iwlPtpGp2Wrap
  have hscale := hgood.scaleUpdateGp2
  rw [hbaseDef] at hscale
  -- both times are taken from the wrap before the last change of frequency
  have htime : (count % iwlPtpGp2Wrap * 1000 + wraps * iwlPtpGp2Wrap * 1000) %
      2 ^ 64 + base / iwlPtpGp2Wrap * iwlPtpGp2Wrap * 1000 = count * 1000 := by
    rw [← hwraps] at hcountEq
    simp only [iwlPtpGp2Wrap] at hbase hcountEq ⊢
    omega
  have hscaleTime : base % iwlPtpGp2Wrap * 1000 +
      base / iwlPtpGp2Wrap * iwlPtpGp2Wrap * 1000 = base * 1000 := by
    simp only [iwlPtpGp2Wrap] at hbaseEq ⊢
    omega
  have hfreq : (ptpScaleFactor + (currentFreq run.settings).2).toNat =
      run.data.scaledFreq.toNat := by
    rw [← hgood.scaledFreq, Int.toNat_natCast]
  rw [hfreq] at hscaled
  rw [clockTime_eq, hbaseDef, ← hgood.scaledFreq, BitVec.ofInt_add, ← hbaseDef,
    ← hgood.baseTime, hbaseDef]
  simp only [PtpData.getAdjTime, hgp2, heq, hwrapsDef, hscale]
  congr 1
  congr 1
  exact scaledDiff_eq hdocumented htime hscaleTime hscaled

end Read

/-! ## Runs -/

theorem scaledFreq_toNat {scaledPpm : BitVec 64}
    (hpositive : 0 ≤ ptpScaleFactor + scaledPpm.toInt) :
    ((BitVec.ofNat 64 ptpScaleFactor + scaledPpm).toNat : ℤ) =
      ptpScaleFactor + scaledPpm.toInt := by
  have hcases := BitVec.toInt_eq_toNat_cond scaledPpm
  have hlt := scaledPpm.isLt
  rw [BitVec.toNat_add, BitVec.toNat_ofNat]
  simp only [ptpScaleFactor] at hpositive ⊢
  split_ifs at hcases <;> omega

theorem iwlMldGetSystime_eq {count gp2 : ℕ}
    (hread : iwlMldGetSystime count = some gp2) : gp2 = count % iwlPtpGp2Wrap := by
  unfold iwlMldGetSystime at hread
  split_ifs at hread
  exact (Option.some.inj hread).symm

namespace PtpRun.Good

variable {mulDiv : MulU64U64DivU64} {run after : PtpRun} {event : PtpEvent}
  {output : List PtpReading}

theorem adjtime (hgood : run.Good) (delta : BitVec 64) :
    Good { run with
      data := run.data.adjtime delta
      settings := .delta delta.toInt :: run.settings } := by
  constructor
  · exact hgood.tracks
  · exact hgood.scaleUpdateGp2
  · exact hgood.scaledFreq
  · have hbase := hgood.baseTime
    show run.data.scaleUpdateAdjTimeNs + (run.data.delta + delta) = _
    rw [← BitVec.add_assoc, hbase, currentFreq, clockTime, BitVec.ofInt_add,
      BitVec.ofInt_toInt]

theorem adjfine (hdocumented : MulDivDocumented mulDiv) (hgood : run.Good)
    {count : ℕ} {scaledPpm : BitVec 64}
    (hstep : run.InStep (.adjfine count scaledPpm))
    (hmeets : run.Meets (.adjfine count scaledPpm)) :
    Good { run.processed count
        (run.data.adjfine mulDiv scaledPpm (count % iwlPtpGp2Wrap)) with
      settings := .freq count scaledPpm.toInt :: run.settings } := by
  have hcount : (PtpEvent.adjfine count scaledPpm).count = some count := rfl
  obtain ⟨htracks, hwraps⟩ := hgood.observed hstep hmeets hcount
  have htracker := hgood.updateNewRead_tracker hstep hmeets hcount
  have hadjusted := hgood.getAdjTime_eq hstep hmeets hcount hdocumented
  have hlast : (run.data.updateNewRead (count % iwlPtpGp2Wrap)).lastGp2 =
      (run.data.tracker.observe iwlPtpWrapThresholdUsec
        (count % iwlPtpGp2Wrap)).last := congrArg Tracker.last htracker
  constructor
  · constructor
    · simp only [PtpRun.processed, PtpData.adjfine, hadjusted, PtpData.tracker,
        hlast]
      exact htracks.last_eq
    · have hperiod := htracks.wraps_eq
      rw [hwraps] at hperiod
      exact hperiod
  · rfl
  · exact scaledFreq_toNat (hmeets.positive count scaledPpm rfl)
  · have hunchanged : ∀ time : BitVec 64, time + 0 = time :=
      BitVec.add_zero
    simp only [PtpRun.processed, PtpData.adjfine, hadjusted, currentFreq,
      clockTime, sub_self, zero_mul, Int.zero_tdiv, add_zero, hunchanged]

theorem read (hdocumented : MulDivDocumented mulDiv) (hgood : run.Good)
    {count : ℕ} (hstep : run.InStep event) (hmeets : run.Meets event)
    (hcount : event.count = some count) :
    run.read mulDiv count (count % iwlPtpGp2Wrap) =
      (run.processed count (run.data.updateNewRead (count % iwlPtpGp2Wrap)),
        [⟨count, BitVec.ofInt 64 (clockTime run.settings count)⟩]) := by
  rw [PtpRun.read, hgood.getAdjTime_eq hstep hmeets hcount hdocumented]

theorem afterStep (hdocumented : MulDivDocumented mulDiv) (hgood : run.Good)
    (hstep : run.InStep event) (hmeets : run.Meets event)
    (hnext : run.step mulDiv event = some (after, output)) :
    after.Good ∧ ∀ reading ∈ output,
      reading.time =
        BitVec.ofInt 64 (clockTime run.settings reading.count) := by
  have hread : ∀ count, event.count = some count →
      some (run.read mulDiv count (count % iwlPtpGp2Wrap)) =
        some (after, output) →
      after.Good ∧ ∀ reading ∈ output, reading.time =
        BitVec.ofInt 64 (clockTime run.settings reading.count) := by
    intro count hcount heq
    rw [read hdocumented hgood hstep hmeets hcount, Option.some.injEq,
      Prod.mk.injEq] at heq
    obtain ⟨rfl, rfl⟩ := heq
    refine ⟨hgood.processed hstep hmeets hcount, ?_⟩
    intro reading hmem
    rw [List.mem_singleton.mp hmem]
  have hsilent : ∀ next : PtpRun, next.Good →
      some (next, ([] : List PtpReading)) = some (after, output) →
      after.Good ∧ ∀ reading ∈ output, reading.time =
        BitVec.ofInt 64 (clockTime run.settings reading.count) := by
    intro next hgoodNext heq
    rw [Option.some.injEq, Prod.mk.injEq] at heq
    obtain ⟨rfl, rfl⟩ := heq
    exact ⟨hgoodNext, fun reading hmem => absurd hmem List.not_mem_nil⟩
  cases event with
  | gettime count =>
      cases hsystime : iwlMldGetSystime count with
      | none =>
          simp only [step, hsystime] at hnext
          exact hsilent _ hgood hnext
      | some gp2 =>
          simp only [step, hsystime, iwlMldGetSystime_eq hsystime] at hnext
          exact hread count rfl hnext
  | crosstimestamp count gp2In10ns =>
      simp only [step] at hnext
      split_ifs at hnext with hgp2
      rw [hgp2] at hnext
      exact hread count rfl hnext
  | adjtime delta =>
      simp only [step] at hnext
      exact hsilent _ (hgood.adjtime delta) hnext
  | adjfine count scaledPpm =>
      cases hsystime : iwlMldGetSystime count with
      | none =>
          simp only [step, hsystime] at hnext
          exact hsilent _ hgood hnext
      | some gp2 =>
          simp only [step, hsystime, iwlMldGetSystime_eq hsystime] at hnext
          exact hsilent _ (hgood.adjfine hdocumented hstep hmeets) hnext
  | work count =>
      cases hsystime : iwlMldGetSystime count with
      | none =>
          simp only [step, hsystime] at hnext
          exact hsilent _ hgood hnext
      | some gp2 =>
          simp only [step, hsystime, iwlMldGetSystime_eq hsystime] at hnext
          exact hsilent _ (hgood.processed hstep hmeets rfl) hnext

end PtpRun.Good

def PtpRun.Allowed (run : PtpRun) (event : PtpEvent) : Prop :=
  run.InStep event ∧ run.Meets event

/-- Every time returned is that of the clock of the settings, and with nominal
frequency the count in nanoseconds and the deltas. -/
theorem ptp_time_exact {mulDiv : MulU64U64DivU64}
    (hdocumented : MulDivDocumented mulDiv) {run after : PtpRun}
    {event : PtpEvent} {output : List PtpReading}
    (hreach : ConditionedRun.Reachable (PtpRun.step mulDiv) PtpRun.Allowed
      PtpRun.initial run)
    (hallowed : run.Allowed event)
    (hnext : run.step mulDiv event = some (after, output)) :
    ∀ reading ∈ output,
      reading.time =
          BitVec.ofInt 64 (clockTime run.settings reading.count) ∧
        (Nominal run.settings → reading.time = BitVec.ofInt 64
          (1000 * reading.count + deltaSum run.settings)) := by
  have hgood : run.Good := hreach.invariant PtpRun.initial_good
    fun _ _ _ _ hgood hallowed hnext =>
      (hgood.afterStep hdocumented hallowed.1 hallowed.2 hnext).1
  intro reading hmem
  have htime := (hgood.afterStep hdocumented hallowed.1 hallowed.2 hnext).2
    reading hmem
  refine ⟨htime, ?_⟩
  intro hnominal
  rw [htime, clockTime_nominal hnominal]

def exactMulDiv : MulU64U64DivU64 := fun a b c => BitVec.ofNat 64 (a * b / c)

theorem exactMulDiv_documented : MulDivDocumented exactMulDiv :=
  ⟨fun _ _ _ _ _ => rfl⟩

def beforeWrap : PtpRun :=
  { PtpRun.initial with
    data := { PtpData.init with lastGp2 := 4294967000 }
    newest := some 4294967000 }

def afterWrap : PtpRun :=
  { beforeWrap with
    data := { PtpData.init with lastGp2 := 4, wrapCounter := 1 }
    newest := some 4294967300 }

/-- A read on each side of a wrap of the register. -/
theorem ptp_time_exact_wrapped :
    ∃ after, beforeWrap.step exactMulDiv (.gettime 4294967300) =
        some (after, [⟨4294967300, 4294967300000⟩]) ∧
      (4294967300000 : BitVec 64) =
        BitVec.ofInt 64 (clockTime [] 4294967300) := by
  have hfirst : PtpRun.initial.step exactMulDiv (.gettime 4294967000) =
      some (beforeWrap, [⟨4294967000, 4294967000000⟩]) := by
    decide +kernel
  have hallowedFirst : PtpRun.initial.Allowed (.gettime 4294967000) := by
    refine ⟨?_, ?_, ?_, ?_⟩
    · rintro count heq
      cases heq
      show 4294967000 < iwlPtpGp2Wrap
      decide
    · rintro count newest - hnewest
      cases hnewest
    · rintro count heq
      cases heq
      exact ⟨by decide +kernel, by decide +kernel⟩
    · rintro count scaledPpm heq
      cases heq
  have hallowed : beforeWrap.Allowed (.gettime 4294967300) := by
    refine ⟨?_, ?_, ?_, ?_⟩
    · rintro count heq
      cases heq
      exact ⟨by decide, by decide⟩
    · rintro count newest heq hnewest hlt
      cases heq
      cases hnewest
      omega
    · rintro count heq
      cases heq
      exact ⟨by decide +kernel, by decide +kernel⟩
    · rintro count scaledPpm heq
      cases heq
  have hnext : beforeWrap.step exactMulDiv (.gettime 4294967300) =
      some (afterWrap, [⟨4294967300, 4294967300000⟩]) := by
    decide +kernel
  have hreach := ConditionedRun.Reachable.start.after _ _ hallowedFirst hfirst
  exact ⟨_, hnext, (ptp_time_exact exactMulDiv_documented hreach hallowed
    hnext _ (List.mem_singleton_self _)).1⟩

/-- A read from just before the wrap that is processed after one from behind it
is shifted by a whole period. -/
theorem ptp_time_shifted :
    ∃ run after : PtpRun,
      ConditionedRun.Reachable (PtpRun.step exactMulDiv) PtpRun.InStep
        PtpRun.initial run ∧
      run.InStep (.gettime 4294967290) ∧ run.settings = [] ∧
      run.step exactMulDiv (.gettime 4294967290) = some (after,
        [⟨4294967290, BitVec.ofInt 64 (clockTime run.settings 4294967290 +
          2 ^ 32 * 1000)⟩]) := by
  have hfirst : PtpRun.initial.step exactMulDiv (.gettime 4294967000) =
      some (beforeWrap, [⟨4294967000, 4294967000000⟩]) := by
    decide +kernel
  have hsecond : beforeWrap.step exactMulDiv (.gettime 4294967300) =
      some (afterWrap, [⟨4294967300, 4294967300000⟩]) := by
    decide +kernel
  have hstepFirst : PtpRun.initial.InStep (.gettime 4294967000) := by
    rintro count heq
    cases heq
    show 4294967000 < iwlPtpGp2Wrap
    decide
  have hstepSecond : beforeWrap.InStep (.gettime 4294967300) := by
    rintro count heq
    cases heq
    exact ⟨by decide, by decide⟩
  have hreach := (ConditionedRun.Reachable.start.after _ _ hstepFirst
    hfirst).after _ _ hstepSecond hsecond
  have hstepThird : afterWrap.InStep (.gettime 4294967290) := by
    rintro count heq
    cases heq
    exact ⟨by decide, by decide⟩
  exact ⟨afterWrap, { afterWrap with
    data := { afterWrap.data with lastGp2 := 4294967290 } }, hreach,
    hstepThird, rfl, by decide +kernel⟩

end IwlwifiStack
