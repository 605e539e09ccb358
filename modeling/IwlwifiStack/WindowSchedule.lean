import Mathlib.Tactic

/-!
# Schedules of windows

Windows of one length that repeat at one interval, a number of times or without end.  At a time a
schedule is described by the first window that is not over: it alone decides whether the schedule
is active, and nothing is active from then until it starts.
-/

/-- `windows` is the number of windows, if there is an end. -/
structure WindowSchedule where
  first : ℤ
  duration : ℤ
  interval : ℤ
  windows : Option ℕ
  deriving DecidableEq, Repr

namespace WindowSchedule

variable {s : WindowSchedule} {k : ℕ} {t : ℤ}

def windowStart (s : WindowSchedule) (k : ℕ) : ℤ := s.first + k * s.interval

def windowEnd (s : WindowSchedule) (k : ℕ) : ℤ := s.windowStart k + s.duration

def Has (s : WindowSchedule) (k : ℕ) : Prop := ∀ n ∈ s.windows, k < n

instance (s : WindowSchedule) (k : ℕ) : Decidable (s.Has k) := by
  unfold Has
  infer_instance

def Separate (s : WindowSchedule) : Prop := s.windows = some 1 ∨ s.duration ≤ s.interval

def ActiveAt (s : WindowSchedule) (t : ℤ) : Prop :=
  ∃ k, s.Has k ∧ s.windowStart k ≤ t ∧ t < s.windowEnd k

def OverAt (s : WindowSchedule) (t : ℤ) : Prop := ∀ k, s.Has k → s.windowEnd k ≤ t

/-- Window `k` is the first one that is not over. -/
structure FirstOpen (s : WindowSchedule) (t : ℤ) (k : ℕ) : Prop where
  has : s.Has k
  open_ : t < s.windowEnd k
  before : ∀ j < k, s.windowEnd j ≤ t

theorem windowStart_succ (s : WindowSchedule) (k : ℕ) :
    s.windowStart (k + 1) = s.windowStart k + s.interval := by
  unfold windowStart
  push_cast
  ring

theorem windowStart_add (s : WindowSchedule) (k m : ℕ) :
    s.windowStart (k + m) = s.windowStart k + m * s.interval := by
  unfold windowStart
  push_cast
  ring

theorem windowEnd_add (s : WindowSchedule) (k m : ℕ) :
    s.windowEnd (k + m) = s.windowEnd k + m * s.interval := by
  rw [windowEnd, windowStart_add, windowEnd]
  ring

theorem windowEnd_mono (hinterval : 0 ≤ s.interval) {j : ℕ} (hle : j ≤ k) :
    s.windowEnd j ≤ s.windowEnd k := by
  obtain ⟨m, rfl⟩ := Nat.exists_eq_add_of_le hle
  rw [windowEnd_add]
  have hgrow : 0 ≤ (m : ℤ) * s.interval := mul_nonneg (Int.natCast_nonneg m) hinterval
  omega

theorem Has.mono (hhas : s.Has k) {j : ℕ} (hle : j ≤ k) : s.Has j :=
  fun n hn => lt_of_le_of_lt hle (hhas n hn)

theorem has_of_single (hsingle : s.windows = some 1) : s.Has k ↔ k = 0 := by
  simp [Has, hsingle]

theorem OverAt.mono (hover : s.OverAt t) {u : ℤ} (hle : t ≤ u) : s.OverAt u :=
  fun k hk => (hover k hk).trans hle

theorem OverAt.not_active (hover : s.OverAt t) {u : ℤ} (hle : t ≤ u) : ¬s.ActiveAt u := by
  rintro ⟨k, hhas, _, hlt⟩
  have hend := hover k hhas
  omega

theorem windowStart_le_of_has (hseparate : s.Separate) (hduration : 0 ≤ s.duration)
    (hhas : s.Has k) {j : ℕ} (hle : j ≤ k) : s.windowStart j ≤ s.windowStart k := by
  rcases hseparate with hsingle | hinterval
  · have hzero := (has_of_single hsingle).mp hhas
    have hj : j = k := by omega
    rw [hj]
  · have hmono := windowEnd_mono (hduration.trans hinterval) hle
    unfold windowEnd at hmono
    omega

namespace FirstOpen

variable (hopen : s.FirstOpen t k)

include hopen

theorem not_over : ¬s.OverAt t := by
  intro hover
  have hends := hover k hopen.has
  have hlater := hopen.open_
  omega

theorem activeAt_iff (hseparate : s.Separate) (hduration : 0 ≤ s.duration) :
    s.ActiveAt t ↔ s.windowStart k ≤ t := by
  constructor
  · rintro ⟨j, hhas, hstart, hend⟩
    have hle : k ≤ j := by
      by_contra hlt
      have hover := hopen.before j (not_le.mp hlt)
      omega
    exact (windowStart_le_of_has hseparate hduration hhas hle).trans hstart
  · exact fun hstart => ⟨k, hopen.has, hstart, hopen.open_⟩

theorem not_active (hseparate : s.Separate) (hduration : 0 ≤ s.duration) {u : ℤ} (hle : t ≤ u)
    (hlt : u < s.windowStart k) : ¬s.ActiveAt u := by
  rintro ⟨j, hhas, hstart, hend⟩
  by_cases hj : j < k
  · have hover := hopen.before j hj
    omega
  · have hlater := windowStart_le_of_has hseparate hduration hhas (not_lt.mp hj)
    omega

end FirstOpen

def skipped (s : WindowSchedule) (k : ℕ) (t : ℤ) : ℕ :=
  ((t + 1 - s.windowEnd k + s.interval - 1) / s.interval).toNat

theorem skipped_spec (hinterval : 0 < s.interval) (hover : s.windowEnd k ≤ t) :
    0 < s.skipped k t ∧ t < s.windowEnd (k + s.skipped k t) ∧
      s.windowEnd (k + (s.skipped k t - 1)) ≤ t := by
  have hdistance : 0 < t + 1 - s.windowEnd k := by omega
  generalize hquotient : (t + 1 - s.windowEnd k + s.interval - 1) / s.interval = quotient
  have hlow : quotient * s.interval ≤ t + 1 - s.windowEnd k + s.interval - 1 := by
    rw [← hquotient]
    exact Int.ediv_mul_le _ hinterval.ne'
  have hhigh : t + 1 - s.windowEnd k + s.interval - 1 < quotient * s.interval + s.interval := by
    rw [← hquotient]
    have hdecompose := Int.mul_ediv_add_emod (t + 1 - s.windowEnd k + s.interval - 1) s.interval
    have hrest := Int.emod_lt_of_pos (t + 1 - s.windowEnd k + s.interval - 1) hinterval
    rw [mul_comm] at hdecompose
    omega
  have hpos : 0 < quotient := by
    by_contra hneg
    have hproduct : quotient * s.interval ≤ 0 :=
      mul_nonpos_of_nonpos_of_nonneg (not_lt.mp hneg) hinterval.le
    omega
  have hskipped : (s.skipped k t : ℤ) = quotient := by
    rw [skipped, hquotient, Int.toNat_of_nonneg hpos.le]
  have hnat : 0 < s.skipped k t := by omega
  refine ⟨hnat, ?_, ?_⟩
  · rw [windowEnd_add, hskipped]
    omega
  · rw [windowEnd_add, Nat.cast_sub hnat, hskipped, Nat.cast_one, sub_mul, one_mul]
    omega

theorem firstOpen_skipped (hinterval : 0 < s.interval) (hover : s.windowEnd k ≤ t)
    (hhas : s.Has (k + s.skipped k t)) : s.FirstOpen t (k + s.skipped k t) := by
  have hspec := skipped_spec hinterval hover
  constructor
  · exact hhas
  · exact hspec.2.1
  · intro j hj
    have hle : j ≤ k + (s.skipped k t - 1) := by omega
    exact (windowEnd_mono hinterval.le hle).trans hspec.2.2

theorem overAt_skipped (hinterval : 0 < s.interval) (hover : s.windowEnd k ≤ t)
    (hnone : ¬s.Has (k + s.skipped k t)) : s.OverAt t := by
  have hspec := skipped_spec hinterval hover
  intro j hj
  have hle : j ≤ k + (s.skipped k t - 1) := by
    by_contra hlater
    apply hnone
    exact hj.mono (by omega)
  exact (windowEnd_mono hinterval.le hle).trans hspec.2.2

theorem firstOpen_of_open (hhas : s.Has k) (hinterval : s.windows = some 1 ∨ 0 ≤ s.interval)
    (hopen : t < s.windowEnd k) (hbefore : k = 0 ∨ s.windowEnd (k - 1) ≤ t) :
    s.FirstOpen t k := by
  constructor
  · exact hhas
  · exact hopen
  · intro j hj
    rcases hbefore with hzero | hover
    · omega
    · rcases hinterval with hsingle | hnonneg
      · have hzero := (has_of_single hsingle).mp hhas
        omega
      · have hle : j ≤ k - 1 := by omega
        exact (windowEnd_mono hnonneg hle).trans hover

end WindowSchedule
