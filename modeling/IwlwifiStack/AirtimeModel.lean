import Mathlib.Tactic

/-!
# Airtime of a frame

`ieee80211_calc_rx_airtime` with its table of durations (`airtime.c`).  The arithmetic is in
words of a given kind, so that the 32-bit computation and the one over all numbers are the same
definition.
-/

namespace IwlwifiStack

/-! ## Durations of an average packet -/

/-- Bits of an average packet, of `AVG_PKT_SIZE` bytes. -/
def mcsNbits : ℕ := 1024 * 8

/-- Symbols times 1024 for a packet with `bps` bits per symbol. -/
def mcsNKsyms (bps : ℕ) : ℕ := (mcsNbits * 1024 + bps - 1) / bps

/-- In 1024 us: 3.6 us or 4.0 us per symbol. -/
def mcsSymbolTime (sgi : Bool) (ksyms : ℕ) : ℕ :=
  if sgi then ksyms * 4 * 18 / 20 else ksyms * 4

def mcsDuration (streams : ℕ) (sgi : Bool) (bps : ℕ) : ℕ :=
  mcsSymbolTime sgi (mcsNKsyms (streams * bps))

/-- 13.6 us, 14.4 us or 16.0 us per symbol. -/
def heSymbolTime (gi ksyms : ℕ) : ℕ :=
  if gi = 0 then ksyms * 16 * 17 / 20
  else if gi = 1 then ksyms * 16 * 18 / 20
  else ksyms * 16

def heDuration (streams gi bps : ℕ) : ℕ :=
  heSymbolTime gi (mcsNKsyms (streams * bps))

/-- `16 - __builtin_clz(duration)`, at least 0. -/
def groupShift (duration : ℕ) : ℕ := 16 - (31 - Nat.log2 duration)

/-- `struct mcs_group`; rates that are not listed have the duration 0. -/
structure McsGroup where
  shift : ℕ
  duration : List ℕ
  deriving DecidableEq, Repr

/-- A group of rates, whose durations are stored as `u16`. -/
def mcsGroupOf (time : ℕ → ℕ) (shiftBps : ℕ) (bps : List ℕ) : McsGroup where
  shift := groupShift (time shiftBps)
  duration := bps.map fun rate => (time rate >>> groupShift (time shiftBps)) % 65536

/-- `MCS_GROUP` -/
def mcsGroup (streams : ℕ) (sgi : Bool) (ht40 : Bool) : McsGroup :=
  let bps := if ht40 then [54, 108, 162, 216, 324, 432, 486, 540]
    else [26, 52, 78, 104, 156, 208, 234, 260]
  mcsGroupOf (mcsDuration streams sgi) (if ht40 then 54 else 26) bps

/-- `BW2VBPS` -/
def bw2Vbps {α : Type} (bw : ℕ) (r4 r3 r2 r1 : α) : α :=
  if bw = 3 then r4 else if bw = 2 then r3 else if bw = 1 then r2 else r1

/-- `VHT_GROUP`; the shift of the 160 MHz groups is that of 243 bits. -/
def vhtGroup (streams : ℕ) (sgi : Bool) (bw : ℕ) : McsGroup :=
  mcsGroupOf (mcsDuration streams sgi) (bw2Vbps bw 243 117 54 26)
    (bw2Vbps bw
      [234, 468, 702, 936, 1404, 1872, 2106, 2340, 2808, 3120]
      [117, 234, 351, 468, 702, 936, 1053, 1170, 1404, 1560]
      [54, 108, 162, 216, 324, 432, 486, 540, 648, 720]
      [26, 52, 78, 104, 156, 208, 234, 260, 312, 346])

/-- `HE_GROUP` -/
def heGroup (streams gi bw : ℕ) : McsGroup :=
  mcsGroupOf (heDuration streams gi) (bw2Vbps bw 979 489 230 115)
    (bw2Vbps bw
      [979, 1958, 2937, 3916, 5875, 7833, 8827, 9806, 11764, 13060, 14702, 16329]
      [489, 979, 1468, 1958, 2937, 3916, 4406, 4896, 5875, 6523, 7344, 8164]
      [230, 475, 705, 936, 1411, 1872, 2102, 2347, 2808, 3124, 3513, 3902]
      [115, 230, 345, 475, 705, 936, 1051, 1166, 1411, 1555, 1756, 1944])

/-- `EHT_BW2VBPS` -/
def ehtBw2Vbps {α : Type} (bw : ℕ) (r5 r4 r3 r2 r1 : α) : α :=
  if bw = 4 then r5 else bw2Vbps bw r4 r3 r2 r1

/-- `EHT_GROUP` -/
def ehtGroup (streams gi bw : ℕ) : McsGroup :=
  mcsGroupOf (heDuration streams gi) (ehtBw2Vbps bw 1960 980 490 234 117)
    (ehtBw2Vbps bw
      [1960, 3920, 5880, 7840, 11760, 15680, 17640, 19600, 23520, 26133, 29400, 32666, 35280,
        39200]
      [980, 1960, 2937, 3920, 5880, 7840, 8820, 9800, 11760, 13066, 14700, 16333, 17640, 19600]
      [490, 980, 1470, 1960, 2940, 3920, 4410, 4900, 5880, 6533, 7350, 8166, 8820, 9800]
      [234, 468, 702, 936, 1404, 1872, 2106, 2340, 2808, 3120, 3510, 3900, 4212, 4680]
      [117, 234, 351, 468, 702, 936, 1053, 1170, 1404, 1560, 1755, 1950, 2106, 2340])

/-- The table in the order of its groups: bandwidth, guard interval, streams. -/
def airtimeMcsGroups : List McsGroup :=
  ([false, true].flatMap fun ht40 => [false, true].flatMap fun sgi =>
    (List.range' 1 4).map fun streams => mcsGroup streams sgi ht40) ++
  ((List.range 4).flatMap fun bw => [false, true].flatMap fun sgi =>
    (List.range' 1 4).map fun streams => vhtGroup streams sgi bw) ++
  ((List.range 4).flatMap fun bw => (List.range 3).flatMap fun gi =>
    (List.range' 1 8).map fun streams => heGroup streams gi bw) ++
  ((List.range 5).flatMap fun bw => (List.range 3).flatMap fun gi =>
    (List.range' 1 8).map fun streams => ehtGroup streams gi bw)

/-! ## Rates -/

/-- `enum mac80211_rx_encoding` -/
inductive RxEncoding where
  | legacy | ht | vht | he | eht | uhr
  deriving DecidableEq, Repr

/-- The bandwidths of `enum rate_info_bw` that have groups, and the others. -/
inductive RateInfoBw where
  | bw20 | bw40 | bw80 | bw160 | bw320 | other
  deriving DecidableEq, Repr

/-- `enum nl80211_band` -/
inductive Nl80211Band where
  | band2Ghz | band5Ghz | band60Ghz | band6Ghz | bandS1Ghz
  deriving DecidableEq, Repr

/-- The rate in `struct ieee80211_rx_status`. -/
structure RxRate where
  encoding : RxEncoding
  bw : RateInfoBw
  shortGi : Bool
  shortPre : Bool
  heGi : ℕ
  ehtGi : ℕ
  rateIdx : ℕ
  nss : ℕ
  band : Nl80211Band
  deriving DecidableEq, Repr

/-- `struct ieee80211_rate`; `mandatoryB` is `IEEE80211_RATE_MANDATORY_B`. -/
structure LegacyRate where
  bitrate : ℕ
  mandatoryB : Bool

def RateInfoBw.index : RateInfoBw → Option ℕ
  | .bw20 => some 0
  | .bw40 => some 1
  | .bw80 => some 2
  | .bw160 => some 3
  | .bw320 => some 4
  | .other => none

/-- The group of the table, the number of streams and the index of the rate. -/
structure RateGroup where
  group : ℕ
  streams : ℕ
  idx : ℕ

/-- `HT_GROUP_IDX` and its siblings. -/
def RxRate.encodingGroup (status : RxRate) (bw : ℕ) : Option RateGroup :=
  let sgi := if status.shortGi then 1 else 0
  match status.encoding with
  | .vht => some ⟨16 + 8 * bw + 4 * sgi + status.nss - 1, status.nss, status.rateIdx⟩
  | .ht =>
      let streams := status.rateIdx / 8 % 4 + 1
      some ⟨8 * bw + 4 * sgi + streams - 1, streams, status.rateIdx % 8⟩
  | .he => some ⟨48 + 24 * bw + 8 * status.heGi + status.nss - 1, status.nss, status.rateIdx⟩
  | .eht => some ⟨144 + 24 * bw + 8 * status.ehtGi + status.nss - 1, status.nss, status.rateIdx⟩
  | .legacy | .uhr => none

/-- The checks of `ieee80211_get_rate_duration`. -/
def RxRate.rateGroup (status : RxRate) : Option RateGroup :=
  status.bw.index.bind fun bw => (status.encodingGroup bw).bind fun rate =>
    let maxStreams := if status.encoding = .eht ∨ status.encoding = .he then 8 else 4
    if maxStreams < rate.streams then none
    else if 14 ≤ rate.idx then none
    else some rate

section Words

/- `word` cuts a number off to a word of the computation. -/
variable (word : ℕ → ℕ)

def calcLegacyRateDurationWith (rate : LegacyRate) (shortPre : Bool) (len : ℕ) : ℕ :=
  let duration :=
    if rate.mandatoryB then (if shortPre then (144 + 48) >>> 1 else 144 + 48) + 10
    else 20 + 16
  word (duration + len * 8 * 10 / rate.bitrate)

/-- The duration and `overhead`. -/
def getRateDurationWith (rate : RateGroup) : ℕ × ℕ :=
  let entry := airtimeMcsGroups.getD rate.group ⟨0, []⟩
  (word (entry.duration.getD rate.idx 0 <<< entry.shift), 36 + rate.streams * 4)

/-- `bands` are the rates of the supported bands; on 60 GHz and below 1 GHz there are no legacy
rates. -/
def calcRxAirtimeWith (bands : Nl80211Band → Option (List LegacyRate)) (status : RxRate)
    (len : ℕ) : ℕ :=
  if status.encoding = .legacy then
    if status.band = .band60Ghz ∨ status.band = .bandS1Ghz then 0
    else
    match (bands status.band).bind fun bitrates => bitrates[status.rateIdx]? with
    | none => 0
    | some rate => calcLegacyRateDurationWith word rate status.shortPre len
  else
    match status.rateGroup with
    | none => 0
    | some rate =>
        let (duration, overhead) := getRateDurationWith word rate
        if duration = 0 then 0
        else word (word (duration * len) / 1024 / 1024 + overhead)

end Words

/-- `ieee80211_calc_rx_airtime` -/
def ieee80211CalcRxAirtime (bands : Nl80211Band → Option (List LegacyRate)) (status : RxRate)
    (len : ℕ) : ℕ :=
  calcRxAirtimeWith (fun n => n % 2 ^ 32) bands status len

/-- The same formula over all numbers. -/
def rxAirtime (bands : Nl80211Band → Option (List LegacyRate)) (status : RxRate) (len : ℕ) : ℕ :=
  calcRxAirtimeWith id bands status len

end IwlwifiStack
