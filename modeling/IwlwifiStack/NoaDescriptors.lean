import IwlwifiStack.NoaModel
import IwlwifiStack.WindowSchedule

/-!
# A descriptor of a Notice of Absence and its schedule

`ieee80211_extend_noa_desc` moves a descriptor along the windows of its schedule as long as the
differences that it forms fit in 32 bits.
-/

namespace IwlwifiStack

/-- A time or a length as the `u32` that holds it. -/
def u32 (a : ℤ) : BitVec 32 := BitVec.ofInt 32 a

theorem u32_add (a b : ℤ) : u32 (a + b) = u32 a + u32 b := BitVec.ofInt_add a b

theorem u32_mul (a b : ℤ) : u32 (a * b) = u32 a * u32 b := BitVec.ofInt_mul a b

theorem u32_sub (a b : ℤ) : u32 (a - b) = u32 a - u32 b := by
  unfold u32
  rw [sub_eq_add_neg, BitVec.ofInt_add, BitVec.ofInt_neg, BitVec.sub_eq_add_neg]

theorem u32_neg (a : ℤ) : u32 (-a) = -u32 a := BitVec.ofInt_neg

@[simp] theorem u32_one : u32 1 = 1 := rfl

@[simp] theorem u32_toInt (x : BitVec 32) : u32 x.toInt = x := BitVec.ofInt_toInt

@[simp] theorem u32_toNat (x : BitVec 32) : u32 x.toNat = x := by
  unfold u32
  rw [BitVec.ofInt_natCast, BitVec.ofNat_toNat, BitVec.setWidth_eq]

theorem toInt_u32 {a : ℤ} (hlow : -2 ^ 31 ≤ a) (hhigh : a < 2 ^ 31) : (u32 a).toInt = a :=
  BitVec.toInt_ofInt_eq_self (by decide) hlow hhigh

theorem toInt_u32_of_lt {a b : ℤ} (hpos : 0 < a) (hhigh : a < b + 2 ^ 32)
    (hlater : b < (u32 a).toInt) : (u32 a).toInt = a := by
  have hlt : (u32 a).toInt < 2 ^ 31 := BitVec.toInt_lt
  unfold u32 at hlater hlt ⊢
  rw [BitVec.toInt_ofInt, Int.bmod_def] at hlater hlt ⊢
  omega

theorem toNat_u32 {a : ℤ} (hlow : 0 ≤ a) (hhigh : a < 2 ^ 32) : ((u32 a).toNat : ℤ) = a := by
  unfold u32
  rw [BitVec.toNat_ofInt]
  omega

namespace NoaDesc

def schedule (desc : NoaDesc) (origin : ℤ) : WindowSchedule where
  first := origin + (desc.start - u32 origin).toInt
  duration := desc.duration.toNat
  interval := desc.interval.toNat
  windows := if desc.count < 255 then some desc.count else none

/-- The descriptor is at window `k`. -/
structure On (desc : NoaDesc) (s : WindowSchedule) (k : ℕ) : Prop where
  start : desc.start = u32 (s.windowStart k)
  duration : desc.duration = u32 s.duration
  interval : desc.interval = u32 s.interval
  finite : ∀ n ∈ s.windows, desc.count = n - k
  endless : s.windows = none → 255 ≤ desc.count
  has : s.Has k

end NoaDesc

/-- A schedule that fits in 32 bits. -/
structure NoaSchedule (s : WindowSchedule) : Prop where
  duration_pos : 0 < s.duration
  duration_lt : s.duration < 2 ^ 32
  interval_nonneg : 0 ≤ s.interval
  interval_lt : s.interval < 2 ^ 32
  windows : ∀ n ∈ s.windows, 0 < n ∧ n < 255
  separate : s.Separate
  near : s.windows ≠ some 1 → s.interval ≤ 2 ^ 31

theorem NoaSchedule.interval_pos {s : WindowSchedule} (hs : NoaSchedule s)
    (hmore : s.windows ≠ some 1) : 0 < s.interval :=
  lt_of_lt_of_le hs.duration_pos (hs.separate.resolve_left hmore)

namespace NoaDesc.On

variable {desc : NoaDesc} {s : WindowSchedule} {k : ℕ} {t : ℤ}

theorem count_pos (hon : desc.On s k) : 0 < desc.count := by
  cases hwindows : s.windows with
  | none =>
      have hcount := hon.endless hwindows
      omega
  | some n =>
      have hcount := hon.finite n hwindows
      have hlt := hon.has n hwindows
      omega

theorem count_eq_one (hon : desc.On s k) (hone : desc.count = 1) : s.windows = some (k + 1) := by
  cases hwindows : s.windows with
  | none =>
      have hcount := hon.endless hwindows
      omega
  | some n =>
      have hcount := hon.finite n hwindows
      have hlt := hon.has n hwindows
      congr 1
      omega

theorem has_succ (hon : desc.On s k) (hmore : desc.count ≠ 1) : s.Has (k + 1) := by
  intro n hn
  have hcount := hon.finite n hn
  have hlt := hon.has n hn
  omega

theorem repeats (hon : desc.On s k) (hmore : desc.count ≠ 1) : s.windows ≠ some 1 := by
  intro hsingle
  have hzero := (WindowSchedule.has_of_single hsingle).mp hon.has
  have hcount := hon.finite 1 hsingle
  omega

theorem ends (hon : desc.On s k) (t : ℤ) :
    desc.start + desc.duration - (u32 t + 1) = u32 (s.windowEnd k - (t + 1)) := by
  rw [hon.start, hon.duration, WindowSchedule.windowEnd, u32_sub, u32_add, u32_add, u32_one]

/-! ## One move -/

theorem interval_ne_zero (hon : desc.On s k) (hs : NoaSchedule s) (hmore : s.windows ≠ some 1) :
    desc.interval ≠ 0 := by
  intro hzero
  have hpos := hs.interval_pos hmore
  have hnat := toNat_u32 hs.interval_nonneg hs.interval_lt
  rw [← hon.interval, hzero] at hnat
  exact hpos.ne hnat

theorem divRoundUp_toNat (hs : NoaSchedule s) (hmore : s.windows ≠ some 1) {passed : ℤ}
    (hlow : 0 ≤ passed) (hhigh : passed ≤ 2 ^ 31) :
    ((divRoundUp (u32 passed) (u32 s.interval)).toNat : ℤ) =
      (passed + s.interval - 1) / s.interval := by
  have hpos := hs.interval_pos hmore
  have hnear := hs.near hmore
  have hsum : u32 passed + u32 s.interval - 1 = u32 (passed + s.interval - 1) := by
    rw [u32_sub, u32_add, u32_one]
  have hnat : ((u32 (passed + s.interval - 1)).toNat : ℤ) = passed + s.interval - 1 :=
    toNat_u32 (by omega) (by omega)
  have hinterval : ((u32 s.interval).toNat : ℤ) = s.interval :=
    toNat_u32 hs.interval_nonneg hs.interval_lt
  unfold divRoundUp
  rw [hsum, BitVec.toNat_udiv, Int.natCast_ediv, hnat, hinterval]

theorem extend_open (hon : desc.On s k) (hs : NoaSchedule s) (hopen : t < s.windowEnd k)
    (hnear : desc.count ≠ 1 → s.windowEnd k - (t + 1) < 2 ^ 31) :
    (desc.extend (u32 t)).1 = desc := by
  unfold NoaDesc.extend
  dsimp only
  rw [hon.ends t]
  by_cases hlast : desc.count = 1
  · rw [if_pos hlast]
    split <;> rfl
  · have hfits := hnear hlast
    have hmore := hon.repeats hlast
    rw [toInt_u32 (by omega) hfits, if_neg hlast, if_neg (hon.interval_ne_zero hs hmore)]
    by_cases hlater : s.windowEnd k - (t + 1) > 0
    · rw [if_pos hlater]
    · have hzero : s.windowEnd k - (t + 1) = 0 := by omega
      have hnone := divRoundUp_toNat hs hmore (le_refl 0) (by decide)
      have hquotient : (0 + s.interval - 1) / s.interval = 0 :=
        Int.ediv_eq_zero_of_lt (by have := hs.interval_pos hmore; omega) (by omega)
      have hskip : divRoundUp (-u32 (s.windowEnd k - (t + 1))) desc.interval = 0 := by
        rw [hzero, ← u32_neg, neg_zero, hon.interval]
        apply BitVec.eq_of_toNat_eq
        rw [hquotient] at hnone
        exact_mod_cast hnone
      have hpos := hon.count_pos
      have hstart : desc.start + 0 * desc.interval = desc.start := by simp
      have hzeroInt : (0 : BitVec 32).toInt = 0 := rfl
      rw [if_neg hlater, hskip, hstart, hzeroInt]
      split
      case isTrue hfinite =>
        have hcount : ((desc.count - 0 : ℤ) % 256).toNat = desc.count := by omega
        rw [if_neg (by omega), hcount]
      case isFalse => rfl

theorem skipped_lt {passed : ℤ} (hs : NoaSchedule s) (hmore : s.windows ≠ some 1)
    (hover : s.windowEnd k ≤ t) (hnear : t + 1 - s.windowEnd k < passed) :
    (s.skipped k t : ℤ) < passed := by
  have hpos := hs.interval_pos hmore
  have hspec := WindowSchedule.skipped_spec hpos hover
  have hbefore := hspec.2.2
  rw [WindowSchedule.windowEnd_add, Nat.cast_sub hspec.1] at hbefore
  have hproduct : (s.skipped k t : ℤ) - 1 ≤ ((s.skipped k t : ℤ) - 1) * s.interval :=
    le_mul_of_one_le_right (by omega) hpos
  push_cast at hbefore
  omega

theorem extend_over (hon : desc.On s k) (hs : NoaSchedule s) (hmore : desc.count ≠ 1)
    (hover : s.windowEnd k ≤ t) (hnear : t + 1 - s.windowEnd k < 2 ^ 31) :
    (s.Has (k + s.skipped k t) → (desc.extend (u32 t)).1.On s (k + s.skipped k t)) ∧
      (¬s.Has (k + s.skipped k t) → (desc.extend (u32 t)).1 = { desc with count := 0 }) := by
  have hrepeats := hon.repeats hmore
  have hpos := hs.interval_pos hrepeats
  have hpassed := divRoundUp_toNat hs hrepeats (show 0 ≤ t + 1 - s.windowEnd k by omega)
    (by omega)
  have hfew := skipped_lt hs hrepeats hover hnear
  have hskipped : (t + 1 - s.windowEnd k + s.interval - 1) / s.interval = s.skipped k t := by
    rw [WindowSchedule.skipped, Int.toNat_of_nonneg]
    exact Int.ediv_nonneg (by omega) hpos.le
  have hskip : divRoundUp (-u32 (s.windowEnd k - (t + 1))) desc.interval =
      u32 (s.skipped k t) := by
    have hnat := toNat_u32 (Int.natCast_nonneg (s.skipped k t)) (by omega)
    rw [← u32_neg, neg_sub, hon.interval]
    apply BitVec.eq_of_toNat_eq
    rw [hskipped] at hpassed
    omega
  have hstart : desc.start + u32 (s.skipped k t) * desc.interval =
      u32 (s.windowStart (k + s.skipped k t)) := by
    rw [WindowSchedule.windowStart_add, u32_add, u32_mul, hon.start, hon.interval]
  unfold NoaDesc.extend
  dsimp only
  rw [hon.ends t, toInt_u32 (by omega) (by omega), if_neg (by omega), if_neg hmore,
    if_neg (hon.interval_ne_zero hs hrepeats), hskip, hstart, toInt_u32 (by omega) hfew]
  cases hwindows : s.windows with
  | none =>
      have hmany := hon.endless hwindows
      rw [if_neg (by omega)]
      constructor
      · intro hhas
        exact ⟨rfl, hon.duration, hon.interval, by simp [hwindows], fun _ => hmany, hhas⟩
      · intro hnone
        exact absurd (fun n hn => by simp [hwindows] at hn) hnone
  | some n =>
      have hcount := hon.finite n hwindows
      have hlimit := hs.windows n hwindows
      have hhas : s.Has (k + s.skipped k t) ↔ k + s.skipped k t < n := by
        simp [WindowSchedule.Has, hwindows]
      rw [if_pos (by omega), hhas]
      constructor
      · intro hleft
        rw [if_neg (by omega)]
        refine ⟨rfl, hon.duration, hon.interval, ?_, by simp [hwindows], hhas.mpr hleft⟩
        intro m hm
        rw [hwindows, Option.mem_some_iff] at hm
        dsimp only
        omega
      · intro hnone
        rw [if_pos (by omega)]

end NoaDesc.On

/-! ## Looking ahead -/

/-- The descriptor after a look ahead from `t` over `ahead`: a window that was not over at `t` and
is the first one not over somewhere on the way, or none; the last window is only left behind from
an earlier one. -/
def NoaDesc.Tracks (desc : NoaDesc) (s : WindowSchedule) (t ahead : ℤ) : Prop :=
  (desc.count = 0 ∧ s.OverAt (t + ahead) ∧
      (s.OverAt t ∨ ∃ k, s.Has (k + 1) ∧ t < s.windowEnd k)) ∨
    ∃ k, desc.On s k ∧ t < s.windowEnd k ∧ (k = 0 ∨ s.windowEnd (k - 1) ≤ t + ahead)

namespace NoaDesc.Tracks

variable {desc : NoaDesc} {s : WindowSchedule} {t ahead : ℤ}

theorem mono (htracks : desc.Tracks s t ahead) {further : ℤ} (hle : ahead ≤ further) :
    desc.Tracks s t further := by
  rcases htracks with ⟨hcount, hover, hspent⟩ | ⟨k, hon, hopen, hbefore⟩
  · exact Or.inl ⟨hcount, hover.mono (by omega), hspent⟩
  · exact Or.inr ⟨k, hon, hopen, hbefore.imp id fun hover => by omega⟩

/-- The descriptor is moved to a window that is not over, or dropped at one that ends in time. -/
theorem extend_cases (htracks : desc.Tracks s t ahead) (hs : NoaSchedule s)
    (hcount : desc.count ≠ 0) (hlow : 0 ≤ ahead) (hhigh : ahead < 2 ^ 31)
    (hfirst : s.windows ≠ some 1 → s.windowEnd 0 - t ≤ 2 ^ 31) :
    (∃ k, (desc.extend (u32 (t + ahead))).1.On s k ∧ t < s.windowEnd k ∧
        (k = 0 ∨ s.windowEnd (k - 1) ≤ t + ahead)) ∨
      ∃ k, (desc.extend (u32 (t + ahead))).1 = { desc with count := 0 } ∧ desc.On s k ∧
        s.Has (k + 1) ∧ s.OverAt (t + ahead) ∧ t < s.windowEnd k := by
  rcases htracks with ⟨hnone, _⟩ | ⟨k, hon, hopen, hbefore⟩
  · exact absurd hnone hcount
  · by_cases hlater : t + ahead < s.windowEnd k
    · have hsame : (desc.extend (u32 (t + ahead))).1 = desc := by
        apply hon.extend_open hs hlater
        intro hmore
        have hrepeats := hon.repeats hmore
        rcases hbefore with hzero | hover
        · have hends := hfirst hrepeats
          rw [hzero]
          omega
        · have hnear := hs.near hrepeats
          by_cases hzero : k = 0
          · have hends := hfirst hrepeats
            rw [hzero]
            omega
          · have hstep := s.windowEnd_add (k - 1) 1
            rw [Nat.sub_add_cancel (by omega), Nat.cast_one, one_mul] at hstep
            omega
      rw [hsame]
      exact Or.inl ⟨k, hon, hopen, hbefore⟩
    · by_cases hlast : desc.count = 1
      · have hsame : (desc.extend (u32 (t + ahead))).1 = desc := by
          unfold NoaDesc.extend
          dsimp only
          rw [if_pos hlast]
          split <;> rfl
        rw [hsame]
        exact Or.inl ⟨k, hon, hopen, hbefore⟩
      · have hover := not_lt.mp hlater
        have hpos := hs.interval_pos (hon.repeats hlast)
        have hmoves := hon.extend_over hs hlast hover (by omega)
        by_cases hhas : s.Has (k + s.skipped k (t + ahead))
        · have hfirstOpen := WindowSchedule.firstOpen_skipped hpos hover hhas
          have hskip := (WindowSchedule.skipped_spec hpos hover).1
          left
          refine ⟨_, hmoves.1 hhas, ?_, Or.inr (hfirstOpen.before _ (by omega))⟩
          have hend := hfirstOpen.open_
          omega
        · right
          exact ⟨k, hmoves.2 hhas, hon, hon.has_succ hlast,
            WindowSchedule.overAt_skipped hpos hover hhas, hopen⟩

theorem extend (htracks : desc.Tracks s t ahead) (hs : NoaSchedule s) (hcount : desc.count ≠ 0)
    (hlow : 0 ≤ ahead) (hhigh : ahead < 2 ^ 31)
    (hfirst : s.windows ≠ some 1 → s.windowEnd 0 - t ≤ 2 ^ 31) :
    (desc.extend (u32 (t + ahead))).1.Tracks s t ahead := by
  rcases htracks.extend_cases hs hcount hlow hhigh hfirst with htracked | ⟨k, hdropped, hcase⟩
  · exact Or.inr htracked
  · left
    rw [hdropped]
    exact ⟨rfl, hcase.2.2.1, Or.inr ⟨k, hcase.2.1, hcase.2.2.2⟩⟩

end NoaDesc.Tracks

/-! ## Moving to a time -/

def NoaDesc.Prepared (desc : NoaDesc) (s : WindowSchedule) (t : ℤ) : Prop :=
  (desc.count = 0 ∧ s.OverAt t) ∨
    (desc.count ≠ 0 ∧ ∃ k, (desc.extend (u32 t)).1.On s k ∧ s.FirstOpen t k)

theorem NoaDesc.On.moves {desc : NoaDesc} {s : WindowSchedule} {k : ℕ} {t : ℤ}
    (hon : desc.On s k) (hs : NoaSchedule s) (hbefore : k = 0 ∨ s.windowEnd (k - 1) ≤ t)
    (hnear : t + 1 - s.windowEnd k < 2 ^ 31)
    (hfirst : s.windows ≠ some 1 → s.windowEnd 0 - t ≤ 2 ^ 31) :
    (s.OverAt t ∧ (desc.count = 1 ∨ (desc.extend (u32 t)).1.count = 0)) ∨
      ∃ j, (desc.extend (u32 t)).1.On s j ∧ s.FirstOpen t j := by
  have hinterval : s.windows = some 1 ∨ 0 ≤ s.interval := Or.inr hs.interval_nonneg
  by_cases hopen : t < s.windowEnd k
  · right
    have hsame : (desc.extend (u32 t)).1 = desc := by
      apply hon.extend_open hs hopen
      intro hmore
      have hrepeats := hon.repeats hmore
      by_cases hzero : k = 0
      · have hends := hfirst hrepeats
        rw [hzero]
        omega
      · have hover := hbefore.resolve_left hzero
        have hstep := s.windowEnd_add (k - 1) 1
        rw [Nat.sub_add_cancel (by omega), Nat.cast_one, one_mul] at hstep
        have hsmall := hs.near hrepeats
        omega
    rw [hsame]
    exact ⟨k, hon, WindowSchedule.firstOpen_of_open hon.has hinterval hopen hbefore⟩
  · have hover := not_lt.mp hopen
    by_cases hlast : desc.count = 1
    · left
      have hwindows := hon.count_eq_one hlast
      refine ⟨?_, Or.inl hlast⟩
      intro j hj
      have hle : j ≤ k := Nat.lt_succ_iff.mp (hj (k + 1) hwindows)
      exact (WindowSchedule.windowEnd_mono hs.interval_nonneg hle).trans hover
    · have hpos := hs.interval_pos (hon.repeats hlast)
      have hmoves := hon.extend_over hs hlast hover hnear
      by_cases hhas : s.Has (k + s.skipped k t)
      · exact Or.inr ⟨_, hmoves.1 hhas, WindowSchedule.firstOpen_skipped hpos hover hhas⟩
      · exact Or.inl
          ⟨WindowSchedule.overAt_skipped hpos hover hhas, Or.inr (by rw [hmoves.2 hhas])⟩

namespace NoaDesc

def Counts (desc : NoaDesc) : Prop := desc.count ≠ 0 ∧ desc.duration ≠ 0

def Valid (desc : NoaDesc) : Prop := desc.count = 1 ∨ desc.duration ≤ desc.interval

def AbsentAt (desc : NoaDesc) (origin t : ℤ) : Prop :=
  desc.Valid ∧ (desc.schedule origin).ActiveAt t

variable {desc attr : NoaDesc} {origin : ℤ}

theorem schedule_single (hrepeats : (desc.schedule origin).windows ≠ some 1) : desc.count ≠ 1 := by
  intro hone
  apply hrepeats
  rw [schedule, hone]
  rfl

theorem schedule_spec (hcounts : desc.Counts) (hvalid : desc.Valid)
    (hnear : desc.count ≠ 1 → desc.interval.toNat ≤ 2 ^ 31) :
    NoaSchedule (desc.schedule origin) := by
  have hduration : desc.duration.toNat ≠ 0 :=
    fun hzero => hcounts.2 (BitVec.eq_of_toNat_eq hzero)
  have hlt := desc.duration.isLt
  have hintervalLt := desc.interval.isLt
  constructor
  · change (0 : ℤ) < (desc.duration.toNat : ℤ)
    omega
  · change (desc.duration.toNat : ℤ) < 2 ^ 32
    omega
  · exact Int.natCast_nonneg _
  · change (desc.interval.toNat : ℤ) < 2 ^ 32
    omega
  · intro n hn
    unfold schedule at hn
    dsimp only at hn
    split at hn
    case isTrue hfinite =>
      rw [Option.mem_some_iff] at hn
      rw [← hn]
      exact ⟨Nat.pos_of_ne_zero hcounts.1, hfinite⟩
    case isFalse => cases hn
  · rcases hvalid with hone | hle
    · left
      rw [schedule, hone]
      rfl
    · right
      change (desc.duration.toNat : ℤ) ≤ (desc.interval.toNat : ℤ)
      exact_mod_cast BitVec.le_def.mp hle
  · intro hrepeats
    change (desc.interval.toNat : ℤ) ≤ 2 ^ 31
    exact_mod_cast hnear (schedule_single hrepeats)

theorem on_schedule (hcounts : desc.Counts) : desc.On (desc.schedule origin) 0 := by
  constructor
  · rw [WindowSchedule.windowStart, schedule]
    dsimp only
    rw [Nat.cast_zero, zero_mul, add_zero, u32_add, u32_toInt,
      BitVec.add_comm, BitVec.sub_add_cancel]
  · exact (u32_toNat desc.duration).symm
  · exact (u32_toNat desc.interval).symm
  · intro n hn
    unfold schedule at hn
    dsimp only at hn
    split at hn
    case isTrue => exact Option.mem_some_iff.mp hn
    case isFalse => cases hn
  · intro hnone
    unfold schedule at hnone
    dsimp only at hnone
    split at hnone
    case isTrue => cases hnone
    case isFalse hmany => exact not_lt.mp hmany
  · intro n hn
    unfold schedule at hn
    dsimp only at hn
    split at hn
    case isTrue =>
      rw [← Option.mem_some_iff.mp hn]
      exact Nat.pos_of_ne_zero hcounts.1
    case isFalse => cases hn

end NoaDesc

end IwlwifiStack
