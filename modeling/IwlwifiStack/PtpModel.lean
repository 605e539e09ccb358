import IwlwifiStack.ConditionedRun
import IwlwifiStack.WrapDetection

/-!
# The PTP hardware clock of iwlmld

`struct ptp_data` with the functions of `ptp.c`.  The device counts
microseconds; the GP2 register shows the count modulo `2 ^ 32`, and a read that
gives `0x5a5a5a5a` has failed.
-/

namespace IwlwifiStack

def ptpScaleFactor : ℕ := 65536000000

def iwlPtpGp2Wrap : ℕ := 2 ^ 32

def iwlPtpWrapThresholdUsec : ℕ := 5000

/-- `mul_u64_u64_div_u64` of the kernel. -/
abbrev MulU64U64DivU64 := ℕ → ℕ → ℕ → BitVec 64

/-- The product has 128 bits, and a quotient of 64 bits is exact. -/
structure MulDivDocumented (mulDiv : MulU64U64DivU64) : Prop where
  exact : ∀ a b c, 0 < c → a * b / c < 2 ^ 64 →
    mulDiv a b c = BitVec.ofNat 64 (a * b / c)

structure PtpData where
  delta : BitVec 64
  scaleUpdateGp2 : ℕ
  scaleUpdateAdjTimeNs : BitVec 64
  scaledFreq : BitVec 64
  lastGp2 : ℕ
  wrapCounter : ℕ
  deriving DecidableEq, Repr

namespace PtpData

/-- `iwl_mld_ptp_init` on zeroed data. -/
def init : PtpData where
  delta := 0
  scaleUpdateGp2 := 0
  scaleUpdateAdjTimeNs := 0
  scaledFreq := BitVec.ofNat 64 ptpScaleFactor
  lastGp2 := 0
  wrapCounter := 0

/-- `iwl_mld_ptp_update_new_read` -/
def updateNewRead (data : PtpData) (gp2 : ℕ) : PtpData :=
  if gp2 < data.lastGp2 then
    if data.lastGp2 - gp2 < iwlPtpWrapThresholdUsec then data
    else
      { data with
        wrapCounter := (data.wrapCounter + 1) % 2 ^ 32
        lastGp2 := gp2 }
  else { data with lastGp2 := gp2 }

/-- `iwl_mld_ptp_get_adj_time` -/
def getAdjTime (mulDiv : MulU64U64DivU64) (data : PtpData) (baseTimeNs : ℕ) :
    BitVec 64 × PtpData :=
  let scaleTimeGp2Ns := data.scaleUpdateGp2 * 1000
  let data := data.updateNewRead (baseTimeNs / 1000 % 2 ^ 32)
  let baseTimeNs :=
    (baseTimeNs + data.wrapCounter * iwlPtpGp2Wrap * 1000) % 2 ^ 64
  let scaledDiff :=
    if baseTimeNs < scaleTimeGp2Ns then
      -mulDiv (scaleTimeGp2Ns - baseTimeNs) data.scaledFreq.toNat
        ptpScaleFactor
    else
      mulDiv (baseTimeNs - scaleTimeGp2Ns) data.scaledFreq.toNat
        ptpScaleFactor
  (data.scaleUpdateAdjTimeNs + data.delta + scaledDiff, data)

/-- `iwl_mld_ptp_adjtime` -/
def adjtime (data : PtpData) (delta : BitVec 64) : PtpData :=
  { data with delta := data.delta + delta }

/-- `iwl_mld_ptp_adjfine` after the read. -/
def adjfine (mulDiv : MulU64U64DivU64) (data : PtpData)
    (scaledPpm : BitVec 64) (gp2 : ℕ) : PtpData :=
  let adjusted := data.getAdjTime mulDiv (gp2 * 1000)
  { adjusted.2 with
    scaleUpdateAdjTimeNs := adjusted.1
    scaleUpdateGp2 := gp2
    delta := 0
    wrapCounter := 0
    scaledFreq := BitVec.ofNat 64 ptpScaleFactor + scaledPpm }

end PtpData

/-- `iwl_mld_get_systime` when the device counter is `count`. -/
def iwlMldGetSystime (count : ℕ) : Option ℕ :=
  if count % iwlPtpGp2Wrap = 0x5a5a5a5a then none
  else some (count % iwlPtpGp2Wrap)

/-! ## Settings -/

/-- A change of the clock: a delta, or a frequency from this count on. -/
inductive PtpSetting where
  | delta (ns : ℤ)
  | freq (count : ℕ) (scaledPpm : ℤ)
  deriving DecidableEq, Repr

/-- The clock that settings define, the latest one first: linear in the count
between them, cut to nanoseconds at each change of frequency. -/
def clockTime : List PtpSetting → ℕ → ℤ
  | [], count => 1000 * count
  | .delta ns :: settings, count => clockTime settings count + ns
  | .freq base scaledPpm :: settings, count =>
      clockTime settings base +
        (((count : ℤ) - base) * 1000 * (ptpScaleFactor + scaledPpm)).tdiv
          ptpScaleFactor

/-- Where the current frequency started, and what it is. -/
def currentFreq : List PtpSetting → ℕ × ℤ
  | [] => (0, 0)
  | .delta _ :: settings => currentFreq settings
  | .freq base scaledPpm :: _ => (base, scaledPpm)

/-! ## Runs -/

/-- The count at which the register or the firmware was read comes with each
call that reads it. -/
inductive PtpEvent where
  | gettime (count : ℕ)
  | crosstimestamp (count : ℕ) (gp2In10ns : BitVec 64)
  | adjtime (delta : BitVec 64)
  | adjfine (count : ℕ) (scaledPpm : BitVec 64)
  | work (count : ℕ)
  deriving DecidableEq, Repr

/-- A time that was returned, with the count it is for. -/
structure PtpReading where
  count : ℕ
  time : BitVec 64
  deriving DecidableEq, Repr

/-- The clock with the settings made so far and the newest count processed. -/
structure PtpRun where
  data : PtpData
  settings : List PtpSetting
  newest : Option ℕ
  deriving DecidableEq, Repr

namespace PtpRun

def initial : PtpRun := ⟨PtpData.init, [], none⟩

/-- The run after a read was processed. -/
def processed (run : PtpRun) (count : ℕ) (data : PtpData) : PtpRun :=
  { run with
    data := data
    newest := some (max (run.newest.getD 0) count) }

/-- The time for a count whose register value is `gp2`. -/
def read (mulDiv : MulU64U64DivU64) (run : PtpRun) (count gp2 : ℕ) :
    PtpRun × List PtpReading :=
  let adjusted := run.data.getAdjTime mulDiv (gp2 * 1000)
  (run.processed count adjusted.2, [⟨count, adjusted.1⟩])

/-- One call.  The timestamp of the firmware is of the same counter. -/
def step (mulDiv : MulU64U64DivU64) (run : PtpRun) :
    PtpEvent → Option (PtpRun × List PtpReading)
  | .gettime count =>
      match iwlMldGetSystime count with
      | none => some (run, [])
      | some gp2 => some (run.read mulDiv count gp2)
  | .crosstimestamp count gp2In10ns =>
      let gp2 := gp2In10ns.toNat / 100 % 2 ^ 32
      if gp2 = count % iwlPtpGp2Wrap then some (run.read mulDiv count gp2) else none
  | .adjtime delta =>
      some
        ({ run with
            data := run.data.adjtime delta
            settings := .delta delta.toInt :: run.settings },
          [])
  | .adjfine count scaledPpm =>
      match iwlMldGetSystime count with
      | none => some (run, [])
      | some gp2 =>
          some
            ({ run.processed count
                  (run.data.adjfine mulDiv scaledPpm gp2) with
                settings := .freq count scaledPpm.toInt :: run.settings },
              [])
  | .work count =>
      match iwlMldGetSystime count with
      | none => some (run, [])
      | some gp2 => some (run.processed count (run.data.updateNewRead gp2), [])

end PtpRun

end IwlwifiStack
