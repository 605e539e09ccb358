import IwlwifiStack.TpeOffset

/-!
# The limit of every subchannel in use

The first `n` values of an envelope are for the `n` subchannels around the
primary, the others for the other subchannels in order.  With the offset of the
part around the primary the values are put in the order of the channel, and with
the offset of the channel in use that part is taken.
-/

namespace IwlwifiStack

/-! ## What an envelope gives -/

/-- The value for a subchannel: its place in the part of `n` subchannels with
the primary, or behind them its place among the others. -/
def elementIndex (n primary j : ℕ) : ℕ :=
  if j / n = primary / n then j % n
  else n + (List.range j).countP fun i => decide (i / n ≠ primary / n)

namespace TpeContent

def index (content : TpeContent) (primary j : ℕ) : ℕ :=
  match content.n with
  | none => j
  | some n => elementIndex n primary j

def limit (content : TpeContent) (primary j : ℕ) : UInt8 :=
  content.powers.getD (content.index primary j) tpePsdNoLimit

def unused (content : TpeContent) : UInt8 :=
  match content.n with
  | none => content.powers.getD 0 tpePsdNoLimit
  | some _ => tpePsdNoLimit

end TpeContent

theorem tpeContent_psd {data : List UInt8} {content : TpeContent}
    (hcontent : tpeContent data = some content)
    (hpsd : content.intrpt.isPsd = true) :
    (content.n = none ∧ ∃ value, content.powers = List.replicate 16 value) ∨
      ∃ k, content.n = some (2 ^ k) ∧ content.powers.length ≤ 16 := by
  cases data with
  | nil => cases hcontent
  | cons info octets =>
      simp only [tpeContent] at hcontent
      split at hcontent
      case isFalse => cases hcontent
      case isTrue hvalid =>
        rcases Option.map_eq_some_iff.mp hcontent with ⟨intrpt, hintrpt, hrecord⟩
        have hkind : intrpt.isPsd = true := by
          rw [← hrecord] at hpsd
          exact hpsd
        rw [← hrecord]
        simp only [hkind, true_and, tpePowers, if_true]
        by_cases hzero : tpeCount info = 0
        · left
          rw [if_neg (not_not.mpr hzero), if_pos hzero]
          exact ⟨rfl, _, rfl⟩
        · right
          rw [if_pos hzero, if_neg hzero]
          refine ⟨tpeCount info - 1, rfl, ?_⟩
          have hcount : tpeCount info ≤ 4 := by
            by_contra hmany
            have hrefused : ieee80211ValidTpeElement (info :: octets) = false := by
              simp only [ieee80211ValidTpeElement, hintrpt, validTpeVariable, hkind]
              split_ifs <;> first | rfl | omega
            rw [hrefused] at hvalid
            cases hvalid
          have hpow : 2 ^ (tpeCount info - 1) ≤ 2 ^ 3 :=
            Nat.pow_le_pow_right (by omega) (by omega)
          rw [List.length_append, List.length_take]
          split_ifs
          · rw [List.length_take]
            omega
          · rw [List.length_nil]
            omega

/-- The entry of `power` for a subchannel, by the offset of the part. -/
def apOrderIndex (offset n j : ℕ) : ℕ :=
  if j < offset then j + n
  else if j < offset + n then j - offset
  else j

theorem div_eq_iff_inPart {n : ℕ} (hn : 0 < n) (primary j : ℕ) :
    j / n = primary / n ↔ primary - primary % n ≤ j ∧
      j < primary - primary % n + n := by
  have hj := Nat.div_add_mod j n
  have hprimary := Nat.div_add_mod primary n
  have hjlt := Nat.mod_lt j hn
  have hplt := Nat.mod_lt primary hn
  constructor
  · intro heq
    rw [heq] at hj
    omega
  · rintro ⟨hle, hlt⟩
    apply Nat.div_eq_of_lt_le
    · rw [Nat.mul_comm]
      omega
    · rw [Nat.succ_mul, Nat.mul_comm]
      omega

theorem countP_outside (start n j : ℕ) :
    (List.range j).countP (fun i => decide ¬(start ≤ i ∧ i < start + n)) =
      min j start + (j - (start + n)) := by
  induction j with
  | zero => simp
  | succ j ih =>
      rw [List.range_succ, List.countP_append, ih, List.countP_singleton]
      by_cases hinside : start ≤ j ∧ j < start + n
      · rw [if_neg (by simp [hinside])]
        omega
      · rw [if_pos (decide_eq_true hinside)]
        omega

theorem elementIndex_eq {n : ℕ} (hn : 0 < n) (primary j : ℕ) :
    elementIndex n primary j = apOrderIndex (primary - primary % n) n j := by
  have hpart := div_eq_iff_inPart hn primary
  generalize hstart : primary - primary % n = start at hpart
  have hothers : (List.range j).countP (fun i => decide (i / n ≠ primary / n)) =
      min j start + (j - (start + n)) := by
    rw [← countP_outside]
    apply List.countP_congr
    intro i _
    simp only [decide_eq_true_eq]
    exact not_congr (hpart i)
  rw [elementIndex, apOrderIndex, hothers]
  by_cases hsame : j / n = primary / n
  · rcases (hpart j).mp hsame with ⟨hle, hlt⟩
    have hmod : j % n = j - start := by
      have hj := Nat.div_add_mod j n
      have hprimary := Nat.div_add_mod primary n
      rw [hsame] at hj
      omega
    rw [if_pos hsame, if_neg (by omega), if_pos hlt, hmod]
  · have houtside := fun hinside => hsame ((hpart j).mpr hinside)
    rw [if_neg hsame]
    by_cases hbefore : j < start
    · rw [if_pos hbefore]
      omega
    · have hafter : ¬j < start + n := fun hlt => houtside ⟨by omega, hlt⟩
      rw [if_neg hbefore, if_neg hafter]
      omega

/-! ## The two steps -/

theorem mapM_range {α : Type*} {get : ℕ → Option α} {value : ℕ → α} {m : ℕ}
    (hget : ∀ i < m, get i = some (value i)) :
    (List.range m).mapM get = some ((List.range m).map value) := by
  induction m with
  | zero => rfl
  | succ m ih =>
      rw [List.range_succ, List.mapM_append, ih (fun i hi => hget i (by omega))]
      simp [hget m (Nat.lt_succ_self m)]

theorem filled_getElem (values : List UInt8) (filler : UInt8)
    (hlength : values.length ≤ 16) {j : ℕ} (hj : j < 16) :
    (copyAt (List.replicate 16 filler) 0 values)[j]? =
      some (values.getD j filler) := by
  rw [copyAt, List.take_zero, List.nil_append, Nat.zero_add, List.drop_replicate]
  by_cases hinside : j < values.length
  · rw [List.getElem?_append_left hinside, List.getD_eq_getElem _ _ hinside,
      List.getElem?_eq_getElem hinside]
  · rw [List.getElem?_append_right (by omega), List.getElem?_replicate,
      if_pos (by omega), List.getD_eq_default _ _ (by omega)]

def tpePsdTable (content : TpeContent) : TpeTable where
  valid := true
  power := copyAt (List.replicate 16 tpePsdNoLimit) 0 content.powers
  count := content.powers.length
  n := content.n.getD 0

theorem parseTpe_table {data : List UInt8} {content : TpeContent}
    (hcontent : tpeContent data = some content)
    (hpsd : content.intrpt.isPsd = true) :
    ieee80211ParseTpe ieee80211ClearTpe data content.intrpt content.category =
      tpePsdTable content := by
  rw [ieee80211ParseTpe_eq_write, hcontent]
  dsimp only
  rw [ParsedTpe.write, ParsedTpe.set_self]
  simp [TpeTable.write, ieee80211ClearTpe, tpePsdTable, TpeIntrpt.entries, hpsd,
    tpePsdNoLimit]

def TpeContent.apOrder (content : TpeContent) (offset n j : ℕ) : UInt8 :=
  content.powers.getD (apOrderIndex offset n j) tpePsdNoLimit

theorem apOrderEntry_eq {content : TpeContent} {n offset j : ℕ}
    (hn : content.n = some n) (hlength : content.powers.length ≤ 16)
    (hoffset : offset + n ≤ 16) (hj : j < 16) :
    apOrderEntry (tpePsdTable content) offset j =
      some (content.apOrder offset n j) := by
  have htable : (tpePsdTable content).n = n := by
    simp [tpePsdTable, hn]
  rw [apOrderEntry, TpeContent.apOrder, apOrderIndex, htable]
  unfold tpePsdTable
  split_ifs <;> exact filled_getElem _ _ hlength (by omega)

theorem limitCount_power (psd : TpeTable) (needed : ℕ) :
    (psd.limitCount needed).power = psd.power := by
  unfold TpeTable.limitCount
  split_ifs <;> rfl

theorem limitCount_count (psd : TpeTable) (needed : ℕ) :
    (psd.limitCount needed).count = min needed psd.count := by
  unfold TpeTable.limitCount
  split_ifs with hless
  · exact (min_eq_left hless.le).symm
  · exact (min_eq_right (not_lt.mp hless)).symm

section Rearranged

variable {env : TpeCfg80211} {ap used : TpeChandef} {content : TpeContent}

/-- The limits of the channel in use, in the order of the frequencies, and
whether no sub-channel with a limit is behind the count. -/
structure TpeRearranged (ap used : TpeChandef) (primary : ℕ)
    (content : TpeContent) (table : TpeTable) : Prop where
  limits : ∀ i < used.numSubchans, ∃ j < ap.numSubchans,
    ap.subchan j = used.subchan i ∧
      table.power[i]? = some (content.limit primary j)
  unused : ∀ i, used.numSubchans ≤ i → i < 16 →
    table.power[i]? = some tpePsdNoLimit
  count : ∀ i < used.numSubchans, ∀ j < ap.numSubchans,
    ap.subchan j = used.subchan i →
      content.index primary j < content.powers.length → i < table.count

theorem numSubchans_le_16 {c : TpeChandef} (hwide : 0 < c.width.segment) :
    c.numSubchans ≤ 16 := by
  rcases numSubchans_pow hwide with ⟨k, hk, hpow⟩
  rw [hpow]
  exact Nat.pow_le_pow_right (by omega) hk

theorem rearrangeTpePsd_eq (henv : env.Documented) (hwide : 0 < ap.width.segment)
    (hused : Downgraded env ap used) {k : ℕ} (hn : content.n = some (2 ^ k))
    (hlength : content.powers.length ≤ 16) (hle : 2 ^ k ≤ ap.numSubchans) :
    ieee80211RearrangeTpePsd env (tpePsdTable content) ap used =
      some (TpeTable.limitCount { tpePsdTable content with
        power := copyAt (List.replicate 16 tpePsdNoLimit) 0
          ((List.range used.numSubchans).map fun i => content.apOrder
            (ieee80211CalcChandefSubchanOffset env ap (2 ^ k)) (2 ^ k)
            (ieee80211CalcChandefSubchanOffset env ap used.numSubchans + i)) }
        used.numSubchans) := by
  have husedWide := (hused.width hwide).1
  have hap := numSubchans_le_16 hwide
  have hneeded := numSubchans_le_16 husedWide
  have hoffset := subchanOffset_le henv hwide hle
  have hpart := subchanOffset_used henv hwide hused
  have htable : (tpePsdTable content).n = 2 ^ k := by
    simp [tpePsdTable, hn]
  have hpositive := Nat.two_pow_pos k
  rw [ieee80211RearrangeTpePsd, numSubchans_eq henv hwide,
    numSubchans_eq henv husedWide]
  dsimp only
  rw [if_neg (by simp [tpePsdTable]), if_neg (by omega),
    if_neg (by simp only [tpePsdEntries320]; omega), htable]
  generalize ieee80211CalcChandefSubchanOffset env ap (2 ^ k) = nOffset at hoffset ⊢
  generalize ieee80211CalcChandefSubchanOffset env ap used.numSubchans = offset
    at hpart ⊢
  have htmp : (List.range ap.numSubchans).mapM
      (apOrderEntry (tpePsdTable content) nOffset) =
        some ((List.range ap.numSubchans).map
          (content.apOrder nOffset (2 ^ k))) := by
    apply mapM_range
    intro j hj
    exact apOrderEntry_eq hn hlength hoffset (by omega)
  have hpower : (List.range used.numSubchans).mapM (fun i =>
      ((List.range ap.numSubchans).map
        (content.apOrder nOffset (2 ^ k)))[offset + i]?) =
        some ((List.range used.numSubchans).map fun i =>
          content.apOrder nOffset (2 ^ k) (offset + i)) := by
    apply mapM_range
    intro i hi
    rw [List.getElem?_map, List.getElem?_range (by omega)]
    rfl
  rw [htmp]
  dsimp only [Option.bind_eq_bind, Option.bind_some]
  rw [hpower]
  rfl

theorem TpeChandef.Placed.subchan_inside (henv : env.Documented) {p : ℕ}
    (hplaced : ap.Placed p) (hused : Downgraded env ap used) {i : ℕ}
    (hi : i < used.numSubchans) :
    ap.primaryIndex p - ap.primaryIndex p % used.numSubchans + i < ap.numSubchans ∧
      ap.subchan (ap.primaryIndex p - ap.primaryIndex p % used.numSubchans + i) =
        used.subchan i := by
  have hpart := hplaced.downgraded henv hused
  refine ⟨part_end_lt hplaced.primaryIndex_lt ?_ hi, (hplaced.subchan_used hpart hi).symm⟩
  rcases hused.width hplaced.wide with ⟨husedWide, hle⟩
  rcases numSubchans_pow husedWide with ⟨l, _, hpow⟩
  rcases numSubchans_pow hplaced.wide with ⟨m, _, hall⟩
  rw [hpow, hall] at hle ⊢
  exact Nat.pow_dvd_pow 2 ((Nat.pow_le_pow_iff_right (by omega)).mp hle)

theorem rearranged_limits (henv : env.Documented) {p : ℕ} (hplaced : ap.Placed p)
    (hused : Downgraded env ap used) {k : ℕ}
    (hlow : TpeChandef.RepeatsLow env ap (min (2 ^ k) used.numSubchans))
    (hn : content.n = some (2 ^ k)) (hle : 2 ^ k ≤ ap.numSubchans) {i : ℕ}
    (hi : i < used.numSubchans) :
    ∃ j < ap.numSubchans, ap.subchan j = used.subchan i ∧
      content.apOrder (ieee80211CalcChandefSubchanOffset env ap (2 ^ k)) (2 ^ k)
          (ieee80211CalcChandefSubchanOffset env ap used.numSubchans + i) =
        content.limit (ap.primaryIndex p) j := by
  have hinside := hplaced.subchan_inside henv hused hi
  rcases hused.width hplaced.wide with ⟨husedWide, husedLe⟩
  rcases numSubchans_pow husedWide with ⟨l, _, hpow⟩
  have hfirst := hplaced.subchanOffset_eq henv (hlow.mono (min_le_left _ _)) hle
  have hsecond : ieee80211CalcChandefSubchanOffset env ap used.numSubchans =
      ap.primaryIndex p - ap.primaryIndex p % used.numSubchans := by
    rw [hpow] at hlow husedLe ⊢
    exact hplaced.subchanOffset_eq henv (hlow.mono (min_le_right _ _)) husedLe
  refine ⟨_, hinside.1, hinside.2, ?_⟩
  rw [hfirst, hsecond, TpeContent.apOrder, TpeContent.limit, TpeContent.index, hn]
  dsimp only
  rw [elementIndex_eq (Nat.two_pow_pos k)]

theorem rearranged_power {values : ℕ → UInt8} {needed : ℕ} (hneeded : needed ≤ 16)
    {i : ℕ} (hi : i < 16) :
    (copyAt (List.replicate 16 tpePsdNoLimit) 0
        ((List.range needed).map values))[i]? =
      some (if i < needed then values i else tpePsdNoLimit) := by
  rw [filled_getElem _ _ (by simpa using hneeded) hi]
  by_cases hinside : i < needed
  · rw [if_pos hinside, List.getD_eq_getElem _ _ (by simpa using hinside)]
    simp
  · rw [if_neg hinside, List.getD_eq_default _ _ (by simpa using hinside)]

theorem rearrangeTpePsd_single (henv : env.Documented)
    (husedWide : 0 < used.width.segment) (hn : content.n = none) :
    ieee80211RearrangeTpePsd env (tpePsdTable content) ap used =
      some ((tpePsdTable content).limitCount used.numSubchans) := by
  have htable : (tpePsdTable content).n = 0 := by
    simp [tpePsdTable, hn]
  rw [ieee80211RearrangeTpePsd, numSubchans_eq henv husedWide]
  dsimp only
  rw [if_neg (by simp [tpePsdTable]), if_pos htable]

theorem tpePsdTable_single {value : UInt8}
    (hvalue : content.powers = List.replicate 16 value) {i : ℕ} (hi : i < 16) :
    (tpePsdTable content).power[i]? = some value := by
  rw [tpePsdTable, filled_getElem _ _ (by simp [hvalue]) hi, hvalue,
    List.getD_eq_getElem _ _ (by simpa using hi), List.getElem_replicate]

/-- What the rearrangement of the table of one envelope does: no access is
outside of an array; where the downgrades to the parts in question are repeated
at most for the lowest subchannels, the limits in use are those of the envelope;
the other entries are without a limit, apart from an envelope with one value for
all; and the count has all of the channel in use for which there are values. -/
theorem rearrangeTpePsd_follows (henv : env.Documented)
    (hwide : 0 < ap.width.segment) (hvalid : env.chandefValid ap = true)
    {data : List UInt8} (hcontent : tpeContent data = some content)
    (hpsd : content.intrpt.isPsd = true)
    (hle : ∀ n ∈ content.n, n ≤ ap.numSubchans)
    (hused : Downgraded env ap used) :
    ∃ p, ap.Placed p ∧ ∃ table,
      ieee80211RearrangeTpePsd env (ieee80211ParseTpe ieee80211ClearTpe data
        content.intrpt content.category) ap used = some table ∧
      ((∀ n ∈ content.n, TpeChandef.RepeatsLow env ap (min n used.numSubchans)) →
        ∀ i < used.numSubchans, ∃ j < ap.numSubchans, ap.subchan j = used.subchan i ∧
          table.power[i]? = some (content.limit (ap.primaryIndex p) j)) ∧
      (∀ i, used.numSubchans ≤ i → i < 16 →
        table.power[i]? = some content.unused) ∧
      (∀ i < used.numSubchans, i < content.powers.length → i < table.count) := by
  rcases henv.valid ap hwide hvalid with ⟨p, hplaced⟩
  refine ⟨p, hplaced, ?_⟩
  rw [parseTpe_table hcontent hpsd]
  rcases hused.width hwide with ⟨husedWide, hneeded⟩
  have hmax := numSubchans_le_16 hwide
  rcases tpeContent_psd hcontent hpsd with ⟨hnone, value, hvalue⟩ | ⟨k, hn, hlength⟩
  · have hunused : content.unused = value := by
      rw [TpeContent.unused, hnone, hvalue]
      rfl
    refine ⟨_, rearrangeTpePsd_single henv husedWide hnone, ?_, ?_, ?_⟩
    · intro _ i hi
      rcases hplaced.subchan_inside henv hused hi with ⟨hj, hsame⟩
      refine ⟨_, hj, hsame, ?_⟩
      rw [limitCount_power, tpePsdTable_single hvalue (by omega),
        TpeContent.limit, TpeContent.index, hnone, hvalue]
      dsimp only
      rw [List.getD_eq_getElem _ _ (by simp; omega), List.getElem_replicate]
    · intro i _ hi
      rw [limitCount_power, tpePsdTable_single hvalue hi, hunused]
    · intro i hi hvalues
      rw [limitCount_count]
      exact lt_min hi hvalues
  · have hpart := hle (2 ^ k) (by rw [hn]; rfl)
    refine ⟨_, rearrangeTpePsd_eq henv hwide hused hn hlength hpart, ?_, ?_, ?_⟩
    · intro hlow i hi
      rcases rearranged_limits henv hplaced hused (hlow _ (by rw [hn]; rfl)) hn hpart hi with
        ⟨j, hj, hsame, hlimit⟩
      refine ⟨j, hj, hsame, ?_⟩
      rw [limitCount_power, ← hlimit, rearranged_power (by omega) (by omega),
        if_pos hi]
    · intro i hi hlt
      rw [limitCount_power, rearranged_power (by omega) hlt, if_neg (by omega),
        TpeContent.unused, hn]
    · intro i hi hvalues
      rw [limitCount_count]
      exact lt_min hi hvalues

end Rearranged

/-! ## Samples -/

def TpeChandef.place (c : TpeChandef) : ℕ :=
  (c.chan + 10 * c.width.segment - c.centerFreq1 - 10) / 20

/-- The functions of cfg80211, with the puncturing of an 80 MHz channel. -/
def sampleTpeCfg80211 : TpeCfg80211 where
  chanWidthToMhz width := if width = .w80p80 then 80 else 20 * width.segment
  chandefPrimary c _ :=
    if c.chan < c.centerFreq1 then
      (c.centerFreq1 - 5 * c.width.segment,
        c.punctured % 2 ^ (c.width.segment / 2))
    else
      (c.centerFreq1 + 5 * c.width.segment,
        c.punctured / 2 ^ (c.width.segment / 2))
  chandefValid c :=
    decide (c.place < c.width.segment ∧
      c.chan + 10 * c.width.segment = c.centerFreq1 + 10 + 20 * c.place ∧
      10 * c.width.segment ≤ c.centerFreq1 ∧
      (c.width = .w80p80 → 40 ≤ c.centerFreq2 ∧
        (c.centerFreq2 + 80 ≤ c.centerFreq1 ∨ c.centerFreq1 + 80 ≤ c.centerFreq2)) ∧
      if c.width = .w80 then c.punctured ∈ [0, 1, 2, 4, 8] else c.punctured = 0)

theorem sampleTpeCfg80211_documented : sampleTpeCfg80211.Documented where
  mhz width _ htwo := by
    simp [sampleTpeCfg80211, htwo]
  primary c p hplaced hwidth := by
    have hprimary := hplaced.primary
    have hlow := hplaced.low
    have hhalf := TpeChandef.half_segment hwidth
    dsimp only [sampleTpeCfg80211]
    by_cases hlower : c.chan < c.centerFreq1
    · rw [if_pos hlower, if_pos (by omega)]
      dsimp only
      omega
    · rw [if_neg hlower, if_neg (by omega)]
      dsimp only
      omega
  valid c _ hvalid := by
    rcases of_decide_eq_true hvalid with ⟨hlt, hprimary, hlow, hsecond, _⟩
    exact ⟨c.place, hlt, hprimary, hlow, hsecond⟩

def sampleAp80 (punctured : ℕ) : TpeChandef where
  chan := 5995
  width := .w80
  centerFreq1 := 5985
  centerFreq2 := 0
  punctured := punctured

def sampleAp40 : TpeChandef where
  chan := 5975
  width := .w40
  centerFreq1 := 5965
  centerFreq2 := 0
  punctured := 0

def sampleAp20 : TpeChandef where
  chan := 5955
  width := .w20
  centerFreq1 := 5955
  centerFreq2 := 0
  punctured := 0

def sampleTpeContent : TpeContent where
  intrpt := .localEirpPsd
  category := 0
  powers := [10, 20, 30, 40]
  n := some 1

theorem downgradeOnce_unpunctured {c : TpeChandef} (hall : c.punctured = 0) :
    (downgradeOnce sampleTpeCfg80211 c).punctured = 0 := by
  rcases c with ⟨chan, width, first, second, punctured⟩
  dsimp only at hall
  subst hall
  cases width <;> simp only [downgradeOnce, toPrimary, sampleTpeCfg80211] <;> split_ifs <;> simp

theorem sampleAp80_repeatsLow (n : ℕ) :
    TpeChandef.RepeatsLow sampleTpeCfg80211 (sampleAp80 0) n := by
  intro c hc hmore hagain
  have hall : c.punctured = 0 := by
    clear hmore hagain
    induction hc with
    | refl => rfl
    | tail hbefore hstep ih =>
        have hwide := (Downgraded.width hbefore (by decide)).1
        have honce := downgradeOnce_unpunctured ih
        rw [hstep, chandefDowngrade_eq hwide, if_neg fun hagain => hagain.2 honce]
        exact honce
  exact absurd (downgradeOnce_unpunctured hall) hagain.2

/-- The half with the primary of an 80 MHz channel: its limits are the first value and the last
one. -/
theorem rearrangeTpePsd_follows_sample :
    ∃ p, (sampleAp80 0).Placed p ∧ ∃ used table,
      used = ieee80211ChandefDowngrade sampleTpeCfg80211 (sampleAp80 0) ∧
      used.numSubchans = 2 ∧
      ieee80211RearrangeTpePsd sampleTpeCfg80211
        (ieee80211ParseTpe ieee80211ClearTpe [9, 10, 3, 20, 30, 40] .localEirpPsd 0)
        (sampleAp80 0) used = some table ∧
      (∀ i < used.numSubchans, ∃ j < (sampleAp80 0).numSubchans,
          (sampleAp80 0).subchan j = used.subchan i ∧
          table.power[i]? =
            some (sampleTpeContent.limit ((sampleAp80 0).primaryIndex p) j)) ∧
      (∀ i, used.numSubchans ≤ i → i < 16 →
        table.power[i]? = some sampleTpeContent.unused) ∧
      ∀ i < used.numSubchans, i < sampleTpeContent.powers.length → i < table.count := by
  have hwide : 0 < (sampleAp80 0).width.segment := by decide
  have hvalid : sampleTpeCfg80211.chandefValid (sampleAp80 0) = true := by decide
  have hcontent : tpeContent [9, 10, 3, 20, 30, 40] = some sampleTpeContent := by
    decide
  have hle : ∀ n ∈ sampleTpeContent.n, n ≤ (sampleAp80 0).numSubchans := by decide
  have hused : Downgraded sampleTpeCfg80211 (sampleAp80 0)
      (ieee80211ChandefDowngrade sampleTpeCfg80211 (sampleAp80 0)) := .single rfl
  rcases rearrangeTpePsd_follows sampleTpeCfg80211_documented hwide hvalid hcontent rfl hle
    hused with ⟨p, hplaced, table, htable, hlimits, hothers⟩
  exact ⟨p, hplaced, _, table, rfl, by decide, htable,
    hlimits fun n _ => sampleAp80_repeatsLow _, hothers⟩

/-- The rearrangement as the layout of the envelope has it. -/
def RearrangesTpe (env : TpeCfg80211) (data : List UInt8) (ap used : TpeChandef) :
    Prop :=
  0 < ap.width.segment → env.chandefValid ap = true →
    ∀ content, tpeContent data = some content → content.intrpt.isPsd = true →
      (∀ n ∈ content.n, n ≤ ap.numSubchans) → Downgraded env ap used →
        ∃ p, ap.Placed p ∧ ∃ table,
          ieee80211RearrangeTpePsd env (ieee80211ParseTpe ieee80211ClearTpe data
            content.intrpt content.category) ap used = some table ∧
          TpeRearranged ap used (ap.primaryIndex p) content table

/-- One value for all is also behind the channel in use; a value can be moved
behind the count; and the offset of one subchannel is short where the downgrade
to 40 MHz is repeated for its puncturing. -/
theorem rearrangesTpe_refuted :
    sampleTpeCfg80211.Documented ∧
      ¬RearrangesTpe sampleTpeCfg80211 [8, 40] sampleAp20 sampleAp20 ∧
      ¬RearrangesTpe sampleTpeCfg80211 [9, 40] sampleAp40 sampleAp40 ∧
      ¬RearrangesTpe sampleTpeCfg80211 [9, 10, 3, 20, 30, 40] (sampleAp80 8)
        (sampleAp80 8) := by
  refine ⟨sampleTpeCfg80211_documented, ?_, ?_, ?_⟩
  · intro hclaim
    rcases hclaim (by decide) (by decide)
      { intrpt := .localEirpPsd, category := 0, powers := List.replicate 16 40, n := none }
      (by decide) rfl (by decide) .refl with ⟨p, _, table, htable, hright⟩
    have hpower : (ieee80211RearrangeTpePsd sampleTpeCfg80211
        (ieee80211ParseTpe ieee80211ClearTpe [8, 40] .localEirpPsd 0)
        sampleAp20 sampleAp20).bind (fun table => table.power[1]?) = some 40 := by
      decide +kernel
    have hunused := hright.unused 1 (by decide) (by decide)
    rw [htable] at hpower
    exact absurd (hunused.symm.trans hpower) (by decide)
  · intro hclaim
    rcases hclaim (by decide) (by decide)
      { intrpt := .localEirpPsd, category := 0, powers := [40], n := some 1 }
      (by decide) rfl (by decide) .refl with ⟨p, hplaced, table, htable, hright⟩
    have hp : p = 1 := by
      have hprimary := hplaced.primary
      simp only [sampleAp40, ChanWidth.segment] at hprimary
      omega
    have hcount : (ieee80211RearrangeTpePsd sampleTpeCfg80211
        (ieee80211ParseTpe ieee80211ClearTpe [9, 40] .localEirpPsd 0)
        sampleAp40 sampleAp40).map TpeTable.count = some 1 := by
      decide +kernel
    subst hp
    have hbelow := hright.count 1 (by decide) 1 (by decide) rfl (by decide)
    rw [htable] at hcount
    have hone : table.count = 1 := Option.some.inj hcount
    omega
  · intro hclaim
    rcases hclaim (by decide) (by decide) sampleTpeContent (by decide) rfl
      (by decide) .refl with ⟨p, hplaced, table, htable, hright⟩
    have hp : p = 2 := by
      have hprimary := hplaced.primary
      simp only [sampleAp80, ChanWidth.segment] at hprimary
      omega
    have hpower : (ieee80211RearrangeTpePsd sampleTpeCfg80211
        (ieee80211ParseTpe ieee80211ClearTpe [9, 10, 3, 20, 30, 40] .localEirpPsd 0)
        (sampleAp80 8) (sampleAp80 8)).bind (fun table => table.power[1]?) =
          some 10 := by
      decide +kernel
    subst hp
    rcases hright.limits 1 (by decide) with ⟨j, hj, hsame, hlimit⟩
    have hj1 : j = 1 := by
      have hcentre : ∀ i, (sampleAp80 8).subchan i = 5955 + 20 * i := by
        intro i
        simp [sampleAp80, TpeChandef.subchan, ChanWidth.segment]
        omega
      rw [hcentre, hcentre] at hsame
      omega
    subst hj1
    dsimp only [sampleTpeContent] at htable
    rw [htable] at hpower
    exact absurd (hlimit.symm.trans hpower) (by decide)

end IwlwifiStack
