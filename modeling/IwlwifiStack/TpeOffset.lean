import IwlwifiStack.TpeRearrangeModel

/-!
# The offset of a part of a channel

A downgrade halves the channel and keeps the half with the primary, so that the
part of `n` subchannels around the primary starts at a multiple of `n`.  Where
the puncturing of the half is not valid the downgrade is repeated: the loop then
takes two halvings for one, which is right only for the lowest subchannels.
-/

namespace IwlwifiStack

/-- The 20 MHz subchannels of a width, of one segment for 80+80; widths below
20 MHz have none. -/
def ChanWidth.segment : ChanWidth → ℕ
  | .w20NoHt | .w20 => 1
  | .w40 => 2
  | .w80 | .w80p80 => 4
  | .w160 => 8
  | .w320 => 16
  | _ => 0

namespace TpeChandef

def numSubchans (c : TpeChandef) : ℕ :=
  if c.width = .w80p80 then 8 else c.width.segment

/-- The primary is the subchannel `p` of the segment around `center_freq1`. -/
structure Placed (c : TpeChandef) (p : ℕ) : Prop where
  lt : p < c.width.segment
  primary : c.chan + 10 * c.width.segment = c.centerFreq1 + 10 + 20 * p
  low : 10 * c.width.segment ≤ c.centerFreq1
  second : c.width = .w80p80 → 40 ≤ c.centerFreq2 ∧
    (c.centerFreq2 + 80 ≤ c.centerFreq1 ∨ c.centerFreq1 + 80 ≤ c.centerFreq2)

end TpeChandef

/-- Half of a width, for the widths that `cfg80211_chandef_primary` halves. -/
def ChanWidth.half : ChanWidth → ChanWidth
  | .w320 => .w160
  | .w160 => .w80
  | .w80 => .w40
  | width => width

/-- What cfg80211 promises: the widths, the half with the primary, and where
the primary of a valid channel is. -/
structure TpeCfg80211.Documented (env : TpeCfg80211) : Prop where
  mhz : ∀ width, 0 < width.segment → width ≠ .w80p80 →
    env.chanWidthToMhz width = 20 * width.segment
  primary : ∀ c p, c.Placed p → c.width = .w80 ∨ c.width = .w160 ∨ c.width = .w320 →
    (env.chandefPrimary c c.width.half).1 + 5 * c.width.segment =
      if p < c.width.half.segment then c.centerFreq1
      else c.centerFreq1 + 10 * c.width.segment
  valid : ∀ c, 0 < c.width.segment → env.chandefValid c = true → ∃ p, c.Placed p

section Widths

variable {env : TpeCfg80211} {c : TpeChandef}

theorem numSubchans_eq (henv : env.Documented) (hwide : 0 < c.width.segment) :
    ieee80211ChandefNumSubchans env c = c.numSubchans := by
  unfold ieee80211ChandefNumSubchans TpeChandef.numSubchans
  by_cases htwo : c.width = .w80p80
  · rw [if_pos htwo, if_pos htwo]
  · rw [if_neg htwo, if_neg htwo, henv.mhz c.width hwide htwo]
    omega

theorem numSubchans_pow (hwide : 0 < c.width.segment) :
    ∃ k ≤ 4, c.numSubchans = 2 ^ k := by
  unfold TpeChandef.numSubchans
  cases hwidth : c.width with
  | w20NoHt => exact ⟨0, by omega, rfl⟩
  | w20 => exact ⟨0, by omega, rfl⟩
  | w40 => exact ⟨1, by omega, rfl⟩
  | w80 => exact ⟨2, by omega, rfl⟩
  | w80p80 => exact ⟨3, by omega, rfl⟩
  | w160 => exact ⟨3, by omega, rfl⟩
  | w320 => exact ⟨4, by omega, rfl⟩
  | w5 | w10 | w1 | w2 | w4 | w8 | w16 =>
      rw [hwidth] at hwide
      exact absurd hwide (Nat.lt_irrefl 0)

theorem downgradeOnce_width (env : TpeCfg80211) (hwide : 0 < c.width.segment) :
    0 < (downgradeOnce env c).width.segment ∧
      (downgradeOnce env c).width ≠ .w80p80 ∧
      (2 ≤ c.numSubchans →
        2 * (downgradeOnce env c).numSubchans = c.numSubchans) ∧
      (c.numSubchans = 1 → (downgradeOnce env c).numSubchans = 1) ∧
      ((downgradeOnce env c).punctured = 0 ∨
        (downgradeOnce env c).width.repeats < c.width.repeats) := by
  rcases c with ⟨chan, width, first, second, punctured⟩
  cases width <;>
    simp_all [downgradeOnce, toPrimary, ChanWidth.segment, ChanWidth.repeats,
      TpeChandef.numSubchans]

theorem downgradeAgain_stop {repeats : ℕ} (hstop : ¬Repeats env c) :
    downgradeAgain env repeats c = downgradeOnce env c := by
  cases repeats with
  | zero => rfl
  | succ repeats => rw [downgradeAgain, if_neg hstop]

theorem downgradeOnce_repeats (hwide : 0 < c.width.segment)
    (hagain : Repeats env c) :
    (downgradeOnce env c).width.repeats < c.width.repeats := by
  rcases downgradeOnce_width env hwide with ⟨_, _, _, _, hzero | hless⟩
  · exact absurd hzero hagain.2
  · exact hless

theorem downgradeAgain_eq {repeats other : ℕ} (hwide : 0 < c.width.segment)
    (hrepeats : c.width.repeats ≤ repeats) (hother : c.width.repeats ≤ other) :
    downgradeAgain env repeats c = downgradeAgain env other c := by
  induction repeats generalizing c other with
  | zero =>
      have hstop : ¬Repeats env c := by
        intro hagain
        have hless := downgradeOnce_repeats hwide hagain
        omega
      rw [downgradeAgain_stop hstop, downgradeAgain_stop hstop]
  | succ repeats ih =>
      by_cases hagain : Repeats env c
      · have hless := downgradeOnce_repeats hwide hagain
        cases other with
        | zero => omega
        | succ other =>
            rw [downgradeAgain, downgradeAgain, if_pos hagain, if_pos hagain]
            exact ih (downgradeOnce_width env hwide).1 (by omega) (by omega)
      · rw [downgradeAgain_stop hagain, downgradeAgain_stop hagain]

theorem chandefDowngrade_eq (hwide : 0 < c.width.segment) :
    ieee80211ChandefDowngrade env c =
      if Repeats env c then ieee80211ChandefDowngrade env (downgradeOnce env c)
      else downgradeOnce env c := by
  rw [ieee80211ChandefDowngrade,
    downgradeAgain_eq hwide le_rfl (Nat.le_succ c.width.repeats), downgradeAgain]
  by_cases hagain : Repeats env c
  · have hless := downgradeOnce_repeats hwide hagain
    rw [if_pos hagain, if_pos hagain, ieee80211ChandefDowngrade]
    exact downgradeAgain_eq (downgradeOnce_width env hwide).1 (by omega) le_rfl
  · rw [if_neg hagain, if_neg hagain]

theorem chandefDowngrade_width (env : TpeCfg80211) (hwide : 0 < c.width.segment) :
    0 < (ieee80211ChandefDowngrade env c).width.segment ∧
      (ieee80211ChandefDowngrade env c).width ≠ .w80p80 ∧
      (2 ≤ c.numSubchans →
        2 * (ieee80211ChandefDowngrade env c).numSubchans ≤ c.numSubchans) ∧
      (ieee80211ChandefDowngrade env c).numSubchans ≤ c.numSubchans := by
  induction hrank : c.width.repeats using Nat.strong_induction_on
    generalizing c with
  | _ rank ih =>
      rcases downgradeOnce_width env hwide with
        ⟨hnextWide, hnextSegments, hhalf, hone, _⟩
      have hpositive : 0 < c.numSubchans := by
        rcases numSubchans_pow hwide with ⟨k, _, hpow⟩
        rw [hpow]
        exact Nat.two_pow_pos k
      rw [chandefDowngrade_eq hwide]
      by_cases hagain : Repeats env c
      · rw [if_pos hagain]
        have hless := downgradeOnce_repeats hwide hagain
        rcases ih _ (by omega) hnextWide rfl with ⟨hwideLater, hsegments, _, hle⟩
        refine ⟨hwideLater, hsegments, fun htwo => ?_, ?_⟩
        · have := hhalf htwo
          omega
        · by_cases htwo : 2 ≤ c.numSubchans
          · have := hhalf htwo
            omega
          · have := hone (by omega)
            omega
      · rw [if_neg hagain]
        refine ⟨hnextWide, hnextSegments, fun htwo => (hhalf htwo).le, ?_⟩
        by_cases htwo : 2 ≤ c.numSubchans
        · have := hhalf htwo
          omega
        · have := hone (by omega)
          omega

end Widths

/-! ## The loop stays in the channel -/

section Loop

variable {env : TpeCfg80211} {c : TpeChandef}

theorem two_mul_le_numSubchans (hwide : 0 < c.width.segment) {k : ℕ}
    (hmore : 2 ^ k < c.numSubchans) : 2 * 2 ^ k ≤ c.numSubchans := by
  rcases numSubchans_pow hwide with ⟨j, _, hpow⟩
  rw [hpow] at hmore ⊢
  have hlt : k < j := (Nat.pow_lt_pow_iff_right (by omega)).mp hmore
  calc
    2 * 2 ^ k = 2 ^ (k + 1) := by rw [Nat.pow_succ, Nat.mul_comm]
    _ ≤ 2 ^ j := Nat.pow_le_pow_right (by omega) hlt

theorem subchanOffsetLoop_stop (henv : env.Documented) {n fuel offset : ℕ}
    (hwide : 0 < c.width.segment) (hle : c.numSubchans ≤ n) :
    subchanOffsetLoop env n fuel c offset = offset := by
  cases fuel with
  | zero => rfl
  | succ fuel =>
      rw [subchanOffsetLoop, numSubchans_eq henv hwide, if_neg (by omega)]

theorem subchanOffsetLoop_le (henv : env.Documented) (fuel offset : ℕ) {k : ℕ}
    (hwide : 0 < c.width.segment) (hle : 2 ^ k ≤ c.numSubchans) :
    subchanOffsetLoop env (2 ^ k) fuel c offset + 2 ^ k ≤
      offset + c.numSubchans := by
  induction fuel generalizing c offset with
  | zero =>
      rw [subchanOffsetLoop]
      omega
  | succ fuel ih =>
      rw [subchanOffsetLoop, numSubchans_eq henv hwide]
      by_cases hmore : c.numSubchans > 2 ^ k
      · rw [if_pos hmore]
        dsimp only
        rcases chandefDowngrade_width env hwide with ⟨hnextWide, _, hhalf, _⟩
        rw [numSubchans_eq henv hnextWide]
        generalize ieee80211ChandefDowngrade env c = next at hnextWide hhalf ⊢
        have hroom := two_mul_le_numSubchans hwide hmore
        have hhalf := hhalf (by have := Nat.two_pow_pos k; omega)
        by_cases hkeeps : 2 ^ k ≤ next.numSubchans
        · by_cases hup : c.centerFreq1 < next.centerFreq1
          · rw [if_pos hup]
            exact (ih _ hnextWide hkeeps).trans (by omega)
          · rw [if_neg hup]
            exact (ih _ hnextWide hkeeps).trans (by omega)
        · rw [subchanOffsetLoop_stop henv hnextWide (by omega)]
          split_ifs <;> omega
      · rw [if_neg hmore]
        omega

def Downgraded (env : TpeCfg80211) : TpeChandef → TpeChandef → Prop :=
  Relation.ReflTransGen fun c next => next = ieee80211ChandefDowngrade env c

theorem Downgraded.width {used : TpeChandef} (hused : Downgraded env c used)
    (hwide : 0 < c.width.segment) :
    0 < used.width.segment ∧ used.numSubchans ≤ c.numSubchans := by
  induction hused with
  | refl => exact ⟨hwide, le_rfl⟩
  | tail _ hstep ih =>
      rw [hstep]
      rcases chandefDowngrade_width env ih.1 with ⟨hnextWide, _, _, hle⟩
      exact ⟨hnextWide, hle.trans ih.2⟩

theorem subchanOffset_of_le (henv : env.Documented) (hwide : 0 < c.width.segment)
    {n : ℕ} (hle : c.numSubchans ≤ n) :
    ieee80211CalcChandefSubchanOffset env c n = 0 := by
  rw [ieee80211CalcChandefSubchanOffset, numSubchans_eq henv hwide]
  dsimp only
  by_cases heq : c.numSubchans = n
  · rw [if_pos heq]
  · rw [if_neg heq, if_pos (by omega)]

theorem subchanOffset_of_lt (henv : env.Documented) (hwide : 0 < c.width.segment)
    {n : ℕ} (hlt : n < c.numSubchans) :
    ieee80211CalcChandefSubchanOffset env c n =
      subchanOffsetLoop env n c.numSubchans c 0 +
        (if c.width = .w80p80 ∧ c.centerFreq2 < c.centerFreq1 then 4 else 0) := by
  rw [ieee80211CalcChandefSubchanOffset, numSubchans_eq henv hwide]
  dsimp only
  rw [if_neg (by omega), if_neg (by omega)]
  split_ifs <;> rfl

theorem subchanOffset_le (henv : env.Documented) (hwide : 0 < c.width.segment)
    {k : ℕ} (hle : 2 ^ k ≤ c.numSubchans) :
    ieee80211CalcChandefSubchanOffset env c (2 ^ k) + 2 ^ k ≤ 16 := by
  rcases numSubchans_pow hwide with ⟨j, hj, hpow⟩
  have hmax : c.numSubchans ≤ 16 := by
    rw [hpow]
    exact Nat.pow_le_pow_right (by omega) hj
  rcases Nat.lt_or_eq_of_le hle with hlt | heq
  · have hloop : subchanOffsetLoop env (2 ^ k) c.numSubchans c 0 + 2 ^ k ≤
        0 + c.numSubchans := subchanOffsetLoop_le henv _ _ hwide hle
    have hhalf := two_mul_le_numSubchans hwide hlt
    rw [subchanOffset_of_lt henv hwide hlt]
    split_ifs with htwo
    · have height : c.numSubchans = 8 := by
        rw [TpeChandef.numSubchans, if_pos htwo.1]
      omega
    · omega
  · rw [subchanOffset_of_le henv hwide heq.ge]
    omega

theorem twoSegments_room (env : TpeCfg80211) (hseg : c.width = .w80p80) :
    (if c.centerFreq1 < (ieee80211ChandefDowngrade env c).centerFreq1 then
        0 + (ieee80211ChandefDowngrade env c).numSubchans
      else 0) + (ieee80211ChandefDowngrade env c).numSubchans ≤ 4 := by
  have hwide : 0 < c.width.segment := by
    rw [hseg]
    decide
  have honce : downgradeOnce env c =
      { c with width := .w80, centerFreq2 := 0 } := by
    rw [downgradeOnce, hseg]
  have hfour : (downgradeOnce env c).numSubchans = 4 := by
    rw [honce]
    rfl
  rw [chandefDowngrade_eq hwide]
  by_cases hagain : Repeats env c
  · rw [if_pos hagain]
    have hhalf := (chandefDowngrade_width env
      (downgradeOnce_width env hwide).1).2.2.1 (by omega)
    split_ifs <;> omega
  · rw [if_neg hagain, hfour, honce, if_neg (lt_irrefl _)]

theorem subchanOffset_used (henv : env.Documented) (hwide : 0 < c.width.segment)
    {used : TpeChandef} (hused : Downgraded env c used) :
    ieee80211CalcChandefSubchanOffset env c used.numSubchans +
      used.numSubchans ≤ c.numSubchans := by
  rcases hused.width hwide with ⟨husedWide, hle⟩
  rcases numSubchans_pow husedWide with ⟨k, _, hpow⟩
  rcases Nat.lt_or_eq_of_le hle with hlt | heq
  · rw [subchanOffset_of_lt henv hwide hlt]
    by_cases hseg : c.width = .w80p80
    · have height : c.numSubchans = 8 := if_pos hseg
      rcases Relation.ReflTransGen.cases_head hused with heq | ⟨next, hnext, hrest⟩
      · rw [heq] at hlt
        exact absurd hlt (lt_irrefl _)
      · have hnextWide := (chandefDowngrade_width env hwide).1
        rw [← hnext] at hnextWide
        have hle := (Downgraded.width hrest hnextWide).2
        have hroom := twoSegments_room env hseg
        rw [← hnext] at hroom
        have hstep : subchanOffsetLoop env used.numSubchans 8 c 0 =
            subchanOffsetLoop env used.numSubchans 7 next
              (if c.centerFreq1 < next.centerFreq1 then 0 + next.numSubchans
              else 0) := by
          rw [subchanOffsetLoop, numSubchans_eq henv hwide, if_pos hlt]
          dsimp only
          rw [← hnext, numSubchans_eq henv hnextWide]
        rw [height, hstep, hpow]
        rw [hpow] at hle
        have hloop := (subchanOffsetLoop_le henv 7 _ hnextWide hle).trans hroom
        split_ifs at hloop ⊢ <;> omega
    · have hsecond : ¬(c.width = .w80p80 ∧ c.centerFreq2 < c.centerFreq1) :=
        fun hboth => hseg hboth.1
      rw [if_neg hsecond, hpow]
      rw [hpow] at hle
      have hloop : subchanOffsetLoop env (2 ^ k) c.numSubchans c 0 + 2 ^ k ≤
          0 + c.numSubchans := subchanOffsetLoop_le henv _ _ hwide hle
      omega
  · rw [subchanOffset_of_le henv hwide heq.ge]
    omega

end Loop

/-! ## Where a part is -/

namespace TpeChandef

def subchan (c : TpeChandef) (i : ℕ) : ℕ :=
  if c.width = .w80p80 then
    if i < 4 then min c.centerFreq1 c.centerFreq2 - 30 + 20 * i
    else max c.centerFreq1 c.centerFreq2 - 30 + 20 * (i - 4)
  else c.centerFreq1 + 10 + 20 * i - 10 * c.width.segment

def primaryIndex (c : TpeChandef) (p : ℕ) : ℕ :=
  if c.width = .w80p80 ∧ c.centerFreq2 < c.centerFreq1 then p + 4 else p

variable {env : TpeCfg80211} {c : TpeChandef} {p : ℕ}

theorem Placed.wide (hplaced : c.Placed p) : 0 < c.width.segment :=
  Nat.zero_lt_of_lt hplaced.lt

theorem Placed.primaryIndex_lt (hplaced : c.Placed p) :
    c.primaryIndex p < c.numSubchans := by
  have hlt := hplaced.lt
  unfold primaryIndex numSubchans
  by_cases htwo : c.width = .w80p80
  · rw [htwo] at hlt
    simp only [ChanWidth.segment] at hlt
    rw [if_pos htwo]
    split_ifs <;> omega
  · rw [if_neg htwo, if_neg (fun hboth => htwo hboth.1)]
    exact hlt

theorem half_segment {width : ChanWidth}
    (hwidth : width = .w80 ∨ width = .w160 ∨ width = .w320) :
    width.segment = 2 * width.half.segment ∧ width.half ≠ .w80p80 := by
  rcases hwidth with heq | heq | heq <;> rw [heq] <;> decide

theorem Placed.primaryHalf (henv : env.Documented) (hplaced : c.Placed p)
    (hwidth : c.width = .w80 ∨ c.width = .w160 ∨ c.width = .w320) :
    (toPrimary env c c.width.half).Placed (p % c.width.half.segment) ∧
      (c.centerFreq1 < (toPrimary env c c.width.half).centerFreq1 ↔
        c.width.half.segment ≤ p) := by
  have hlt := hplaced.lt
  have hprimary := hplaced.primary
  have hlow := hplaced.low
  have hcenter := henv.primary c p hplaced hwidth
  rcases half_segment hwidth with ⟨hsegment, hone⟩
  have hsecond : (toPrimary env c c.width.half).width = .w80p80 →
      40 ≤ c.centerFreq2 ∧ (c.centerFreq2 + 80 ≤
        (toPrimary env c c.width.half).centerFreq1 ∨
        (toPrimary env c c.width.half).centerFreq1 + 80 ≤
          c.centerFreq2) := fun htwo => absurd htwo hone
  by_cases hlower : p < c.width.half.segment
  · rw [if_pos hlower] at hcenter
    have hmod : p % c.width.half.segment = p := Nat.mod_eq_of_lt hlower
    rw [hmod]
    refine ⟨⟨hlower, ?_, ?_, hsecond⟩, ?_⟩
    · simp only [toPrimary]
      omega
    · simp only [toPrimary]
      omega
    · simp only [toPrimary]
      omega
  · rw [if_neg hlower] at hcenter
    have hmod : p % c.width.half.segment = p - c.width.half.segment := by
      rw [Nat.mod_eq_sub_mod (by omega), Nat.mod_eq_of_lt (by omega)]
    rw [hmod]
    refine ⟨⟨?_, ?_, ?_, hsecond⟩, ?_⟩
    · simp only [toPrimary]
      omega
    · simp only [toPrimary]
      omega
    · simp only [toPrimary]
      omega
    · simp only [toPrimary]
      omega

theorem downgradeOnce_half
    (hwidth : c.width = .w80 ∨ c.width = .w160 ∨ c.width = .w320) :
    downgradeOnce env c = toPrimary env c c.width.half := by
  rcases c with ⟨chan, width, first, second, punctured⟩
  simp only at hwidth
  rcases hwidth with heq | heq | heq <;> rw [heq] <;> rfl

theorem Placed.once (henv : env.Documented) (hplaced : c.Placed p) :
    (downgradeOnce env c).Placed (p % (downgradeOnce env c).width.segment) ∧
      (c.centerFreq1 < (downgradeOnce env c).centerFreq1 ↔
        (downgradeOnce env c).width.segment ≤ p) := by
  have hlt := hplaced.lt
  have hprimary := hplaced.primary
  have hlow := hplaced.low
  cases hwidth : c.width with
  | w80 =>
      rw [downgradeOnce_half (Or.inl hwidth)]
      exact hplaced.primaryHalf henv (Or.inl hwidth)
  | w160 =>
      rw [downgradeOnce_half (Or.inr (Or.inl hwidth))]
      exact hplaced.primaryHalf henv (Or.inr (Or.inl hwidth))
  | w320 =>
      rw [downgradeOnce_half (Or.inr (Or.inr hwidth))]
      exact hplaced.primaryHalf henv (Or.inr (Or.inr hwidth))
  | w20NoHt | w20 | w40 | w80p80 =>
      rcases c with ⟨chan, width, first, second, punctured⟩
      simp only at hwidth
      rw [hwidth] at hlt hprimary hlow ⊢
      simp only [ChanWidth.segment, downgradeOnce] at hlt hprimary hlow ⊢
      refine ⟨⟨?_, ?_, ?_, by simp⟩, ?_⟩
      · simp only [ChanWidth.segment]
        omega
      · simp only [ChanWidth.segment]
        omega
      · simp only [ChanWidth.segment]
        omega
      · omega
  | w5 | w10 | w1 | w2 | w4 | w8 | w16 =>
      rw [hwidth] at hlt
      exact absurd hlt (Nat.not_lt_zero p)

theorem downgradeOnce_chan (env : TpeCfg80211) (c : TpeChandef) :
    (downgradeOnce env c).chan = c.chan := by
  rcases c with ⟨chan, width, first, second, punctured⟩
  cases width <;> rfl

theorem downgradeOnce_segment_dvd (env : TpeCfg80211) (c : TpeChandef) :
    (downgradeOnce env c).width.segment ∣ c.width.segment := by
  rcases c with ⟨chan, width, first, second, punctured⟩
  cases width <;> norm_num [downgradeOnce, toPrimary, ChanWidth.segment]

theorem numSubchans_of_ne (htwo : c.width ≠ .w80p80) :
    c.numSubchans = c.width.segment :=
  if_neg htwo

theorem pow_dvd_segment (hwide : 0 < c.width.segment) (htwo : c.width ≠ .w80p80)
    {k : ℕ} (hle : 2 ^ k ≤ c.width.segment) : 2 ^ k ∣ c.width.segment := by
  rcases numSubchans_pow hwide with ⟨j, _, hpow⟩
  rw [numSubchans_of_ne htwo] at hpow
  rw [hpow] at hle ⊢
  exact Nat.pow_dvd_pow 2 ((Nat.pow_le_pow_iff_right (by omega)).mp hle)

/-- A channel that downgrades lead to is the part with the primary. -/
structure PartOf (c used : TpeChandef) (p : ℕ) : Prop where
  chan : used.chan = c.chan
  placed : used.Placed (p % used.width.segment)
  part : used = c ∨ used.width ≠ .w80p80 ∧
    used.width.segment ∣ c.width.segment

theorem PartOf.trans {middle used : TpeChandef} (hpart : PartOf c middle p)
    (hrest : PartOf middle used (p % middle.width.segment)) : PartOf c used p := by
  have hchan := hrest.chan.trans hpart.chan
  have hplaced := hrest.placed
  rcases hrest.part with heq | ⟨hone, hdvd⟩
  · rw [heq, Nat.mod_mod, ← heq] at hplaced
    refine ⟨hchan, hplaced, ?_⟩
    rw [heq]
    exact hpart.part
  · rw [Nat.mod_mod_of_dvd p hdvd] at hplaced
    refine ⟨hchan, hplaced, Or.inr ⟨hone, ?_⟩⟩
    rcases hpart.part with heq | ⟨_, hmiddle⟩
    · rw [← heq]
      exact hdvd
    · exact hdvd.trans hmiddle

theorem Placed.partOf_once (henv : env.Documented) (hplaced : c.Placed p) :
    PartOf c (downgradeOnce env c) p where
  chan := downgradeOnce_chan env c
  placed := (hplaced.once henv).1
  part := Or.inr ⟨(downgradeOnce_width env hplaced.wide).2.1, downgradeOnce_segment_dvd env c⟩

theorem Placed.partOf_downgrade (henv : env.Documented) (hplaced : c.Placed p) :
    PartOf c (ieee80211ChandefDowngrade env c) p := by
  induction hrank : c.width.repeats using Nat.strong_induction_on generalizing c p with
  | _ rank ih =>
      have honce := hplaced.partOf_once henv
      rw [chandefDowngrade_eq hplaced.wide]
      by_cases hagain : Repeats env c
      · have hless := downgradeOnce_repeats hplaced.wide hagain
        rw [if_pos hagain]
        exact honce.trans (ih _ (by omega) honce.placed rfl)
      · rw [if_neg hagain]
        exact honce

theorem Placed.downgraded (henv : env.Documented) (hplaced : c.Placed p)
    {used : TpeChandef} (hused : Downgraded env c used) : PartOf c used p := by
  induction hused with
  | refl =>
      have hmod : p % c.width.segment = p := Nat.mod_eq_of_lt hplaced.lt
      exact ⟨rfl, by rw [hmod]; exact hplaced, Or.inl rfl⟩
  | tail _ hstep ih =>
      rw [hstep]
      exact ih.trans (ih.placed.partOf_downgrade henv)

/-! ## The loop and the primary -/

/-- The lowest frequency of the segment around `center_freq1`. -/
def lowest (c : TpeChandef) : ℕ :=
  c.centerFreq1 - 10 * c.width.segment

/-- On the way to `n` subchannels no downgrade is repeated for its puncturing, but for those that
keep the lowest subchannels. -/
def RepeatsLow (env : TpeCfg80211) (ap : TpeChandef) (n : ℕ) : Prop :=
  ∀ c, Downgraded env ap c → n < c.numSubchans → Repeats env c →
    (ieee80211ChandefDowngrade env c).lowest = c.lowest

theorem RepeatsLow.next {n : ℕ} (hlow : RepeatsLow env c n) :
    RepeatsLow env (ieee80211ChandefDowngrade env c) n :=
  fun later hlater => hlow later (Relation.ReflTransGen.head rfl hlater)

theorem RepeatsLow.mono {n m : ℕ} (hlow : RepeatsLow env c n) (hle : n ≤ m) :
    RepeatsLow env c m :=
  fun later hlater hmore => hlow later hlater (by omega)

theorem Placed.lowest_kept (hplaced : c.Placed p) {next : TpeChandef} (hpart : PartOf c next p)
    (hlowest : next.lowest = c.lowest) :
    p < next.width.segment ∧ ¬c.centerFreq1 < next.centerFreq1 := by
  have hle : next.width.segment ≤ c.width.segment := by
    rcases hpart.part with heq | ⟨_, hdvd⟩
    · rw [heq]
    · exact Nat.le_of_dvd hplaced.wide hdvd
  have hprimary := hplaced.primary
  have hlow := hplaced.low
  have hnextPrimary := hpart.placed.primary
  have hnextLow := hpart.placed.low
  have hnextLt := hpart.placed.lt
  rw [hpart.chan] at hnextPrimary
  unfold lowest at hlowest
  constructor <;> omega

theorem downgradeOnce_segment_le (env : TpeCfg80211) (c : TpeChandef) :
    c.width.segment ≤ 2 * (downgradeOnce env c).width.segment := by
  rcases c with ⟨chan, width, first, second, punctured⟩
  cases width <;> simp [downgradeOnce, toPrimary, ChanWidth.segment]

theorem Placed.subchanOffsetLoop_eq (henv : env.Documented)
    (hplaced : c.Placed p) {k fuel : ℕ} (hlow : RepeatsLow env c (2 ^ k)) (offset : ℕ)
    (hle : 2 ^ k ≤ c.numSubchans) (htwo : c.width = .w80p80 → 2 ^ k ≤ 4)
    (hfuel : c.numSubchans ≤ fuel) :
    subchanOffsetLoop env (2 ^ k) fuel c offset = offset + (p - p % 2 ^ k) := by
  induction fuel generalizing c p offset with
  | zero =>
      have hpositive := Nat.two_pow_pos k
      omega
  | succ fuel ih =>
      have hwide := hplaced.wide
      have hlt := hplaced.lt
      rw [subchanOffsetLoop, numSubchans_eq henv hwide]
      by_cases hmore : c.numSubchans > 2 ^ k
      · have hpositive := Nat.two_pow_pos k
        have hpart := hplaced.partOf_downgrade henv
        rcases chandefDowngrade_width env hwide with ⟨hnextWide, hone, hhalf, _⟩
        have hnumber := hhalf (by omega)
        have hsegment := numSubchans_of_ne hone
        rw [if_pos hmore]
        dsimp only
        rw [numSubchans_eq henv hnextWide]
        by_cases hagain : Repeats env c
        · -- The lowest subchannels are kept, so no offset is missed.
          rcases hplaced.lowest_kept hpart (hlow c .refl hmore hagain) with ⟨hfirst, hup⟩
          rw [if_neg hup]
          by_cases hkeeps : 2 ^ k ≤ (ieee80211ChandefDowngrade env c).numSubchans
          · have hmod := Nat.mod_eq_of_lt hfirst
            rw [ih hpart.placed hlow.next _ hkeeps (fun hboth => absurd hboth hone) (by omega),
              hmod]
          · have hmod : p % 2 ^ k = p := Nat.mod_eq_of_lt (by omega)
            rw [subchanOffsetLoop_stop henv hnextWide (by omega), hmod, Nat.sub_self,
              Nat.add_zero]
        · have hnext : ieee80211ChandefDowngrade env c = downgradeOnce env c := by
            rw [chandefDowngrade_eq hwide, if_neg hagain]
          have hexact := (downgradeOnce_width env hwide).2.2.1 (by omega)
          have hroom := two_mul_le_numSubchans hwide hmore
          have hdouble := downgradeOnce_segment_le env c
          have hup := (hplaced.once henv).2
          rw [← hnext] at hexact hdouble hup
          rw [ih hpart.placed hlow.next _ (by omega) (fun hboth => absurd hboth hone) (by omega)]
          have hdvd : 2 ^ k ∣ (ieee80211ChandefDowngrade env c).width.segment :=
            pow_dvd_segment hnextWide hone (by omega)
          have hmod := Nat.mod_mod_of_dvd p hdvd
          have hmodLe := Nat.mod_le (p % (ieee80211ChandefDowngrade env c).width.segment) (2 ^ k)
          rw [hsegment, hmod]
          rw [hmod] at hmodLe
          by_cases hupper : (ieee80211ChandefDowngrade env c).width.segment ≤ p
          · have hrest : p % (ieee80211ChandefDowngrade env c).width.segment =
                p - (ieee80211ChandefDowngrade env c).width.segment := by
              rw [Nat.mod_eq_sub_mod hupper, Nat.mod_eq_of_lt (by omega)]
            rw [if_pos (hup.mpr hupper), hrest]
            omega
          · have hrest : p % (ieee80211ChandefDowngrade env c).width.segment = p :=
              Nat.mod_eq_of_lt (by omega)
            rw [if_neg (fun hboth => hupper (hup.mp hboth)), hrest]
      · have hone : c.width ≠ .w80p80 := by
          intro hboth
          have hfour := htwo hboth
          rw [numSubchans, if_pos hboth] at hmore
          omega
        have hsegment := numSubchans_of_ne hone
        have hmod : p % 2 ^ k = p := Nat.mod_eq_of_lt (by omega)
        rw [if_neg hmore, hmod, Nat.sub_self, Nat.add_zero]

theorem Placed.subchanOffset_eq (henv : env.Documented) (hplaced : c.Placed p)
    {k : ℕ} (hlow : RepeatsLow env c (2 ^ k)) (hle : 2 ^ k ≤ c.numSubchans) :
    ieee80211CalcChandefSubchanOffset env c (2 ^ k) =
      c.primaryIndex p - c.primaryIndex p % 2 ^ k := by
  have hwide := hplaced.wide
  have hindex := hplaced.primaryIndex_lt
  rcases Nat.lt_or_eq_of_le hle with hlt | heq
  · rw [subchanOffset_of_lt henv hwide hlt]
    by_cases htwo : c.width = .w80p80
    · have hroom := two_mul_le_numSubchans hwide hlt
      have height : c.numSubchans = 8 := if_pos htwo
      have hfour : 2 ^ k ≤ 4 := by omega
      rw [hplaced.subchanOffsetLoop_eq henv hlow 0 hle (fun _ => hfour) le_rfl,
        primaryIndex]
      by_cases hbelow : c.width = .w80p80 ∧ c.centerFreq2 < c.centerFreq1
      · have hdvd : 2 ^ k ∣ 4 := by
          have hk : k ≤ 2 := by
            rw [show 4 = 2 ^ 2 from rfl] at hfour
            exact (Nat.pow_le_pow_iff_right (by omega)).mp hfour
          exact Nat.pow_dvd_pow 2 hk
        have hmod : (p + 4) % 2 ^ k = p % 2 ^ k := by
          rw [Nat.add_mod, Nat.mod_eq_zero_of_dvd hdvd, Nat.add_zero, Nat.mod_mod]
        have hmodLe := Nat.mod_le p (2 ^ k)
        rw [if_pos hbelow, if_pos hbelow, hmod]
        omega
      · rw [if_neg hbelow, if_neg hbelow]
        omega
    · have hbelow : ¬(c.width = .w80p80 ∧ c.centerFreq2 < c.centerFreq1) :=
        fun hboth => htwo hboth.1
      rw [hplaced.subchanOffsetLoop_eq henv hlow 0 hle
        (fun hboth => absurd hboth htwo) le_rfl, primaryIndex, if_neg hbelow,
        if_neg hbelow]
      omega
  · rw [subchanOffset_of_le henv hwide heq.ge, heq, Nat.mod_eq_of_lt hindex,
      Nat.sub_self]

theorem part_end_lt {s m i : ℕ} (hp : p < s) (hdvd : m ∣ s) (hi : i < m) :
    p - p % m + i < s := by
  rcases hdvd with ⟨q, hq⟩
  have hdiv := Nat.div_add_mod p m
  have hquotient : p / m < q := Nat.div_lt_of_lt_mul (by omega)
  have hparts : m * (p / m) + m ≤ m * q := by
    rw [← Nat.mul_succ]
    exact Nat.mul_le_mul_left m hquotient
  omega

theorem Placed.subchan_used (hplaced : c.Placed p) {used : TpeChandef}
    (hpart : PartOf c used p) {i : ℕ} (hi : i < used.numSubchans) :
    used.subchan i = c.subchan (c.primaryIndex p -
      c.primaryIndex p % used.numSubchans + i) := by
  rcases hpart.part with heq | ⟨hone, hdvd⟩
  · rw [heq, Nat.mod_eq_of_lt hplaced.primaryIndex_lt, Nat.sub_self, Nat.zero_add]
  · have hsegment := numSubchans_of_ne hone
    have hchan := hpart.chan
    have hplace := hpart.placed.primary
    have hlow := hpart.placed.low
    have hprimary := hplaced.primary
    have hsegmentLow := hplaced.low
    have hlt := hplaced.lt
    have hmodLe := Nat.mod_le p used.width.segment
    have hsub : used.subchan i =
        used.centerFreq1 + 10 + 20 * i - 10 * used.width.segment := if_neg hone
    rw [hsegment] at hi
    have hend := part_end_lt hlt hdvd hi
    rw [hsub, hsegment]
    by_cases htwo : c.width = .w80p80
    · have hsecond := hplaced.second htwo
      have hfour : c.width.segment = 4 := by
        rw [htwo]
        rfl
      rw [hfour] at hdvd hprimary hsegmentLow hlt hend
      have hmod : (p + 4) % used.width.segment = p % used.width.segment := by
        rw [Nat.add_mod, Nat.mod_eq_zero_of_dvd hdvd, Nat.add_zero, Nat.mod_mod]
      by_cases hbelow : c.centerFreq2 < c.centerFreq1
      · have hindex : c.primaryIndex p = p + 4 := if_pos ⟨htwo, hbelow⟩
        rw [hindex, hmod, subchan, if_pos htwo, if_neg (by omega),
          max_eq_left hbelow.le]
        omega
      · have hindex : c.primaryIndex p = p := if_neg (fun hboth => hbelow hboth.2)
        rw [hindex, subchan, if_pos htwo, if_pos hend, min_eq_left (by omega)]
        omega
    · have hindex : c.primaryIndex p = p := if_neg (fun hboth => htwo hboth.1)
      rw [hindex, subchan, if_neg htwo]
      omega

end TpeChandef

end IwlwifiStack
