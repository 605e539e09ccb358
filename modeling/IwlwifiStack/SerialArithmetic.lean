import Mathlib.Tactic

/-!
# Serial-number arithmetic

A serial number is a counter known only modulo `2 * half`.  One number counts
as behind another when the wrapped difference exceeds `half`.  As long as two
unbounded positions are less than `half` apart, this comparison of their
residues is the comparison of the positions themselves; at a distance of
exactly `half` neither residue is behind the other.
-/

namespace SerialArithmetic

def Behind (half : ℕ) (a b : ℤ) : Prop :=
  (half : ℤ) < (a - b) % (2 * half)

instance (half : ℕ) (a b : ℤ) : Decidable (Behind half a b) := by
  unfold Behind
  infer_instance

theorem behind_congr {half : ℕ} {a a' b b' : ℤ}
    (ha : a % (2 * half) = a' % (2 * half))
    (hb : b % (2 * half) = b' % (2 * half)) :
    Behind half a b ↔ Behind half a' b' := by
  unfold Behind
  rw [Int.sub_emod a b, Int.sub_emod a' b', ha, hb]

theorem not_behind_of_ahead {half : ℕ} {p q : ℤ}
    (hle : q ≤ p) (hlt : p - q ≤ half) :
    ¬ Behind half p q := by
  unfold Behind
  by_cases hhalf : half = 0
  · subst half
    have hpq : p - q = 0 := by
      have : (p - q : ℤ) ≤ 0 := by simpa using hlt
      omega
    simp [hpq]
  · have hmod : (p - q) % (2 * (half : ℤ)) = p - q := by
      apply Int.emod_eq_of_lt <;> omega
    rw [hmod]
    omega

theorem behind_of_lt {half : ℕ} {p q : ℤ}
    (hlt : p < q) (hnear : q - p < half) :
    Behind half p q := by
  unfold Behind
  have hmod : (p - q) % (2 * (half : ℤ)) = p - q + 2 * half := by
    rw [← Int.add_emod_right]
    apply Int.emod_eq_of_lt <;> omega
  rw [hmod]
  omega

theorem behind_iff_lt {half : ℕ} {p q : ℤ}
    (hahead : p - q ≤ half) (hnear : q - p < half) :
    Behind half p q ↔ p < q := by
  constructor
  · intro hbehind
    by_contra hge
    exact not_behind_of_ahead (not_lt.mp hge) hahead hbehind
  · intro hlt
    exact behind_of_lt hlt hnear

end SerialArithmetic
