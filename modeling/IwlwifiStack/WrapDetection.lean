import Mathlib.Tactic

/-!
# Wraps of a counter

A register shows an unbounded counter modulo `period`.  A reader that keeps the
last value it saw and the number of wraps takes a smaller value for a wrap,
unless it is smaller by less than `tolerance`: then it is an old value that
arrives late.
-/

namespace WrapDetection

structure Tracker where
  last : ℕ
  wraps : ℕ
  deriving DecidableEq, Repr

def Tracker.observe (tolerance : ℕ) (tracker : Tracker) (value : ℕ) : Tracker :=
  if value < tracker.last then
    if tracker.last - value < tolerance then tracker
    else ⟨value, tracker.wraps + 1⟩
  else ⟨value, tracker.wraps⟩

/-- The tracker knows the counter, up to the periods before it was started. -/
structure Tracks (period past : ℕ) (tracker : Tracker) (counter : ℕ) : Prop where
  last_eq : tracker.last = counter % period
  wraps_eq : past + tracker.wraps = counter / period

variable {period past tolerance counter value : ℕ} {tracker : Tracker}

theorem div_eq_or (hperiod : 0 < period) (hle : counter ≤ value)
    (hlt : value < counter + period) :
    value / period = counter / period ∧
        value % period = counter % period + (value - counter) ∨
      value / period = counter / period + 1 ∧
        value % period + period = counter % period + (value - counter) := by
  have hcounter := Nat.div_add_mod counter period
  have hvalue := Nat.div_add_mod value period
  have hmodCounter := Nat.mod_lt counter hperiod
  have hmodValue := Nat.mod_lt value hperiod
  have hmono : counter / period ≤ value / period := Nat.div_le_div_right hle
  have hmono' : value / period ≤ counter / period + 1 := by
    rw [← Nat.add_div_right counter hperiod]
    exact Nat.div_le_div_right hlt.le
  rcases Nat.lt_or_ge (counter / period) (value / period) with hwrap | hsame
  · have heq : value / period = counter / period + 1 := by omega
    right
    refine ⟨heq, ?_⟩
    rw [heq, Nat.mul_succ] at hvalue
    omega
  · have heq : value / period = counter / period := by omega
    left
    refine ⟨heq, ?_⟩
    rw [heq] at hvalue
    omega

theorem Tracks.observe_newer (hperiod : 0 < period)
    (htracks : Tracks period past tracker counter) (hle : counter ≤ value)
    (hlt : value + tolerance ≤ counter + period) (hpos : 0 < tolerance) :
    Tracks period past (tracker.observe tolerance (value % period)) value := by
  unfold Tracker.observe
  rcases div_eq_or hperiod hle (by omega) with ⟨hdiv, hmod⟩ | ⟨hdiv, hmod⟩
  · rw [if_neg (by rw [htracks.last_eq]; omega)]
    exact ⟨rfl, htracks.wraps_eq.trans hdiv.symm⟩
  · have hbelow := Nat.mod_lt counter hperiod
    rw [if_pos (by rw [htracks.last_eq]; omega),
      if_neg (by rw [htracks.last_eq]; omega)]
    refine ⟨rfl, ?_⟩
    rw [hdiv, ← htracks.wraps_eq]
    exact (Nat.add_assoc _ _ _).symm

theorem Tracks.observe_first (hlt : value < period)
    (htracks : Tracks period past tracker 0) :
    Tracks period past (tracker.observe tolerance value) value := by
  have hlast : tracker.last = 0 := by
    rw [htracks.last_eq, Nat.zero_mod]
  unfold Tracker.observe
  rw [if_neg (by omega)]
  refine ⟨(Nat.mod_eq_of_lt hlt).symm, ?_⟩
  rw [htracks.wraps_eq, Nat.zero_div, Nat.div_eq_of_lt hlt]

theorem Tracks.observe_older (htracks : Tracks period past tracker counter)
    (hle : value ≤ counter) (hlt : counter < value + tolerance)
    (hsame : value / period = counter / period) :
    tracker.observe tolerance (value % period) = tracker := by
  have hcounter := Nat.div_add_mod counter period
  have hvalue := Nat.div_add_mod value period
  rw [hsame] at hvalue
  unfold Tracker.observe
  rcases Nat.lt_or_ge (value % period) (counter % period) with hless | hge
  · rw [if_pos (by rw [htracks.last_eq]; exact hless),
      if_pos (by rw [htracks.last_eq]; omega)]
  · have heq : value % period = tracker.last := by
      rw [htracks.last_eq]
      omega
    rw [heq, if_neg (lt_irrefl _)]

end WrapDetection
