import Mathlib.Data.List.GetD
import IwlwifiStack.AirtimeModel

/-!
# When the airtime fits 32 bits

The duration of an average packet and the length are multiplied in 32 bits.  At the slowest rates
the product of a long frame does not fit; the airtime is then too short by multiples of 4096 us.
-/

namespace IwlwifiStack

/-! ## The table -/

theorem airtimeMcsGroups_le :
    ∀ entry ∈ airtimeMcsGroups, ∀ duration ∈ entry.duration,
      duration <<< entry.shift ≤ 1290556 := by
  decide +kernel

def RxRate.Checked (status : RxRate) : Prop :=
  match status.encoding with
  | .vht | .he => 1 ≤ status.nss ∧ status.nss ≤ 8 ∧ status.heGi ≤ 3
  | .eht => 1 ≤ status.nss ∧ status.nss ≤ 8 ∧ status.ehtGi ≤ 2
  | .legacy | .ht | .uhr => True

theorem rateGroup_lt {status : RxRate} {rate : RateGroup} (hchecked : status.Checked)
    (hrate : status.rateGroup = some rate) : rate.group < airtimeMcsGroups.length := by
  have hlength : airtimeMcsGroups.length = 264 := by decide +kernel
  rw [hlength]
  unfold RxRate.rateGroup at hrate
  rcases Option.bind_eq_some_iff.mp hrate with ⟨bw, hbw, hgroup⟩
  rcases Option.bind_eq_some_iff.mp hgroup with ⟨found, hfound, hlimits⟩
  have hbwLt : bw ≤ 4 := by
    unfold RateInfoBw.index at hbw
    split at hbw
    all_goals cases hbw
    all_goals decide
  have hsgi : (if status.shortGi then 1 else 0) ≤ 1 := by
    split
    all_goals decide
  dsimp only at hlimits
  generalize hmax : (if status.encoding = .eht ∨ status.encoding = .he then 8 else 4) =
    maxStreams at hlimits
  split at hlimits
  · cases hlimits
  next hstreams =>
  split at hlimits
  · cases hlimits
  rw [← Option.some.inj hlimits]
  unfold RxRate.encodingGroup at hfound
  unfold RxRate.Checked at hchecked
  dsimp only at hfound
  cases hencoding : status.encoding with
  | legacy =>
      simp only [hencoding] at hfound
      cases hfound
  | uhr =>
      simp only [hencoding] at hfound
      cases hfound
  | ht =>
      simp only [hencoding, Option.some.injEq] at hfound
      rw [← hfound]
      dsimp only
      omega
  | vht =>
      simp only [hencoding, Option.some.injEq] at hfound hchecked
      simp only [hencoding, reduceCtorEq, or_self, if_false] at hmax
      rw [← hfound] at hstreams ⊢
      dsimp only
      omega
  | he =>
      simp only [hencoding, Option.some.injEq] at hfound hchecked
      rw [← hfound]
      dsimp only
      omega
  | eht =>
      simp only [hencoding, Option.some.injEq] at hfound hchecked
      rw [← hfound]
      dsimp only
      omega

def RateGroup.duration (rate : RateGroup) : ℕ :=
  let entry := airtimeMcsGroups.getD rate.group ⟨0, []⟩
  entry.duration.getD rate.idx 0 <<< entry.shift

theorem RateGroup.duration_le (rate : RateGroup) : rate.duration ≤ 1290556 := by
  unfold RateGroup.duration
  dsimp only
  by_cases hgroup : rate.group < airtimeMcsGroups.length
  · rw [List.getD_eq_getElem _ _ hgroup]
    by_cases hidx : rate.idx < (airtimeMcsGroups[rate.group]).duration.length
    · rw [List.getD_eq_getElem _ _ hidx]
      exact airtimeMcsGroups_le _ (List.getElem_mem hgroup) _ (List.getElem_mem hidx)
    · rw [List.getD_eq_default _ _ (Nat.not_lt.mp hidx), Nat.zero_shiftLeft]
      exact Nat.zero_le _
  · rw [List.getD_eq_default _ _ (Nat.not_lt.mp hgroup)]
    exact Nat.zero_le _

def RateGroup.maxLen (rate : RateGroup) : ℕ := (2 ^ 32 - 1) / rate.duration

def RxRate.LenFits (status : RxRate) (len : ℕ) : Prop :=
  status.encoding ≠ .legacy → ∀ rate, status.rateGroup = some rate →
    rate.duration ≠ 0 → len ≤ rate.maxLen

/-! ## The product -/

theorem RateGroup.le_maxLen_iff {rate : RateGroup} (hduration : rate.duration ≠ 0) (len : ℕ) :
    len ≤ rate.maxLen ↔ rate.duration * len < 2 ^ 32 := by
  unfold RateGroup.maxLen
  rw [Nat.le_div_iff_mul_le (Nat.pos_of_ne_zero hduration), Nat.mul_comm]
  omega

theorem wrappedAirtime_eq_iff {product overhead : ℕ} (hproduct : product < 2 ^ 34)
    (hoverhead : overhead ≤ 2 ^ 20) :
    (product % 2 ^ 32 / 1024 / 1024 + overhead) % 2 ^ 32 =
        product / 1024 / 1024 + overhead ↔ product < 2 ^ 32 := by
  omega

theorem rateGroup_streams_le {status : RxRate} {rate : RateGroup}
    (hrate : status.rateGroup = some rate) : rate.streams ≤ 8 := by
  unfold RxRate.rateGroup at hrate
  rcases Option.bind_eq_some_iff.mp hrate with ⟨bw, _, hgroup⟩
  rcases Option.bind_eq_some_iff.mp hgroup with ⟨found, _, hlimits⟩
  dsimp only at hlimits
  have hmax : (if status.encoding = .eht ∨ status.encoding = .he then 8 else 4) ≤ 8 := by
    split
    all_goals decide
  generalize (if status.encoding = .eht ∨ status.encoding = .he then 8 else 4) =
    maxStreams at hmax hlimits
  split at hlimits
  · cases hlimits
  next hstreams =>
  split at hlimits
  · cases hlimits
  · rw [← Option.some.inj hlimits]
    omega

section Airtime

variable {bands : Nl80211Band → Option (List LegacyRate)} {status : RxRate} {rate : RateGroup}

theorem calcRxAirtimeWith_rate {word : ℕ → ℕ} (hencoding : status.encoding ≠ .legacy)
    (hrate : status.rateGroup = some rate) (hword : word rate.duration = rate.duration)
    (len : ℕ) :
    calcRxAirtimeWith word bands status len =
      if rate.duration = 0 then 0
      else word (word (rate.duration * len) / 1024 / 1024 + (36 + rate.streams * 4)) := by
  have hduration : (getRateDurationWith word rate).1 = rate.duration := hword
  simp only [calcRxAirtimeWith, if_neg hencoding, hrate, hduration]
  rfl

theorem calcRxAirtimeWith_other {word : ℕ → ℕ} (hencoding : status.encoding ≠ .legacy)
    (hrate : status.rateGroup = none) (len : ℕ) :
    calcRxAirtimeWith word bands status len = 0 := by
  simp only [calcRxAirtimeWith, if_neg hencoding, hrate]

theorem legacyAirtime_fits (hencoding : status.encoding = .legacy) {len : ℕ}
    (hlen : len ≤ 11454) :
    ieee80211CalcRxAirtime bands status len = rxAirtime bands status len := by
  unfold ieee80211CalcRxAirtime rxAirtime
  simp only [calcRxAirtimeWith, if_pos hencoding]
  split
  · rfl
  · split
    · rfl
    · next legacyRate _ =>
      unfold calcLegacyRateDurationWith
      have hquotient : len * 8 * 10 / legacyRate.bitrate ≤ len * 8 * 10 := Nat.div_le_self _ _
      have hbase : (if legacyRate.mandatoryB then
          (if status.shortPre then (144 + 48) >>> 1 else 144 + 48) + 10 else 20 + 16) ≤ 202 := by
        split
        · split
          all_goals decide
        · decide
      dsimp only
      rw [Nat.mod_eq_of_lt]
      · rfl
      · omega

theorem rxAirtime_mono {shorter len : ℕ} (hle : shorter ≤ len) :
    rxAirtime bands status shorter ≤ rxAirtime bands status len := by
  unfold rxAirtime calcRxAirtimeWith
  split
  · split
    · exact le_rfl
    · split
      · exact le_rfl
      · unfold calcLegacyRateDurationWith
        apply Nat.add_le_add_left
        apply Nat.div_le_div_right
        omega
  · split
    · exact le_rfl
    · dsimp only [id]
      split
      · exact le_rfl
      · apply Nat.add_le_add_right
        apply Nat.div_le_div_right
        apply Nat.div_le_div_right
        exact Nat.mul_le_mul_left _ hle

theorem rateAirtime_eq_iff (hencoding : status.encoding ≠ .legacy)
    (hrate : status.rateGroup = some rate) {len : ℕ} (hlen : len ≤ 11454) :
    ieee80211CalcRxAirtime bands status len = rxAirtime bands status len ↔
      (rate.duration ≠ 0 → len ≤ rate.maxLen) := by
  have hle := rate.duration_le
  have hstreams := rateGroup_streams_le hrate
  have hword : rate.duration % 2 ^ 32 = rate.duration := Nat.mod_eq_of_lt (by omega)
  unfold ieee80211CalcRxAirtime rxAirtime
  rw [calcRxAirtimeWith_rate hencoding hrate hword, calcRxAirtimeWith_rate hencoding hrate rfl]
  by_cases hduration : rate.duration = 0
  · rw [if_pos hduration, if_pos hduration]
    exact ⟨fun _ hne => absurd hduration hne, fun _ => rfl⟩
  · have hproduct : rate.duration * len < 2 ^ 34 := by
      have hbound := Nat.mul_le_mul hle hlen
      omega
    rw [if_neg hduration, if_neg hduration]
    dsimp only [id]
    rw [wrappedAirtime_eq_iff hproduct (by omega), ← RateGroup.le_maxLen_iff hduration]
    exact ⟨fun hfits _ => hfits, fun hfits => hfits hduration⟩

theorem airtime_eq_iff {len : ℕ} (hlen : len ≤ 11454) :
    ieee80211CalcRxAirtime bands status len = rxAirtime bands status len ↔
      status.LenFits len := by
  by_cases hencoding : status.encoding = .legacy
  · have hfits : status.LenFits len := fun hne => absurd hencoding hne
    exact ⟨fun _ => hfits, fun _ => legacyAirtime_fits hencoding hlen⟩
  · cases hrate : status.rateGroup with
    | none =>
        have hfits : status.LenFits len := by
          intro _ rate hsome
          rw [hrate] at hsome
          cases hsome
        unfold ieee80211CalcRxAirtime rxAirtime
        rw [calcRxAirtimeWith_other hencoding hrate, calcRxAirtimeWith_other hencoding hrate]
        exact ⟨fun _ => hfits, fun _ => rfl⟩
    | some rate =>
        rw [rateAirtime_eq_iff hencoding hrate hlen]
        constructor
        · intro hfits _ other hother
          rw [hrate] at hother
          rw [← Option.some.inj hother]
          exact hfits
        · intro hfits
          exact hfits hencoding rate hrate

theorem RxRate.LenFits.mono {shorter len : ℕ} (hfits : status.LenFits len)
    (hle : shorter ≤ len) : status.LenFits shorter :=
  fun hencoding rate hrate hduration => hle.trans (hfits hencoding rate hrate hduration)

/-- The airtime is that of the formula over all numbers and does not shrink with the length
exactly for the frames that are short enough for their rate; the table has the group of every rate
that is checked. -/
theorem airtime_right_iff (bands : Nl80211Band → Option (List LegacyRate)) (status : RxRate)
    {len : ℕ} (hlen : len ≤ 11454) :
    (status.Checked → ∀ rate, status.rateGroup = some rate →
        rate.group < airtimeMcsGroups.length) ∧
      ((ieee80211CalcRxAirtime bands status len = rxAirtime bands status len ∧
          ∀ shorter ≤ len, ieee80211CalcRxAirtime bands status shorter ≤
            ieee80211CalcRxAirtime bands status len) ↔
        status.LenFits len) := by
  apply And.intro fun hchecked _ => rateGroup_lt hchecked
  constructor
  · intro hright
    exact (airtime_eq_iff hlen).mp hright.1
  · intro hfits
    have hwhole := (@airtime_eq_iff bands _ _ hlen).mpr hfits
    apply And.intro hwhole
    intro shorter hle
    have hpart := (@airtime_eq_iff bands _ _ (hle.trans hlen)).mpr (hfits.mono hle)
    rw [hwhole, hpart]
    exact rxAirtime_mono hle

end Airtime

/-- MCS 0 of HT at 20 MHz with a long guard interval. -/
def slowHtRate : RxRate where
  encoding := .ht
  bw := .bw20
  shortGi := false
  shortPre := false
  heGi := 0
  ehtGi := 0
  rateIdx := 0
  nss := 0
  band := .band2Ghz

theorem airtime_right_iff_slow :
    ieee80211CalcRxAirtime (fun _ => none) slowHtRate 3328 =
      rxAirtime (fun _ => none) slowHtRate 3328 := by
  have hfits : slowHtRate.LenFits 3328 := by
    intro _ rate hrate _
    have hgroup : slowHtRate.rateGroup = some ⟨0, 1, 0⟩ := rfl
    rw [hgroup] at hrate
    rw [← Option.some.inj hrate]
    decide +kernel
  exact ((airtime_right_iff (fun _ => none) slowHtRate (by decide)).2.mpr hfits).1

/-- One octet more and the airtime is that of a frame of no length; that of the longest HT A-MSDU
lacks 4096 us. -/
theorem airtime_wraps :
    ieee80211CalcRxAirtime (fun _ => none) slowHtRate 3329 = 41 ∧
      ieee80211CalcRxAirtime (fun _ => none) slowHtRate 3328 = 4135 ∧
      ieee80211CalcRxAirtime (fun _ => none) slowHtRate 3839 = 668 ∧
      rxAirtime (fun _ => none) slowHtRate 3839 = 4764 := by
  decide +kernel

end IwlwifiStack
