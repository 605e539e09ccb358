import Mathlib.Tactic

/-!
# Byte strings as big-endian numbers

On byte strings of one length the comparison of C's `memcmp` is the comparison
of the numbers they spell with the most significant byte first, and adding one
from the last byte on, with the carry going forward, is adding one to the
number.
-/

namespace ByteOrder

def memcmp : List UInt8 → List UInt8 → ℤ
  | x :: xs, y :: ys => if x = y then memcmp xs ys else (x.toNat : ℤ) - y.toNat
  | _, _ => 0

def bigEndian : List UInt8 → ℕ
  | [] => 0
  | x :: xs => x.toNat * 256 ^ xs.length + bigEndian xs

theorem bigEndian_lt (bytes : List UInt8) :
    bigEndian bytes < 256 ^ bytes.length := by
  induction bytes with
  | nil => simp [bigEndian]
  | cons x xs ih =>
      have hx : x.toNat + 1 ≤ 256 := x.toNat_lt
      calc
        bigEndian (x :: xs) < x.toNat * 256 ^ xs.length + 256 ^ xs.length :=
          Nat.add_lt_add_left ih _
        _ = (x.toNat + 1) * 256 ^ xs.length := by ring
        _ ≤ 256 * 256 ^ xs.length := Nat.mul_le_mul_right _ hx
        _ = 256 ^ (x :: xs).length := by rw [List.length_cons, pow_succ']

theorem bigEndian_cons_lt {x y : UInt8} {xs ys : List UInt8}
    (hlength : xs.length = ys.length) (hlt : x.toNat < y.toNat) :
    bigEndian (x :: xs) < bigEndian (y :: ys) := by
  have hxs := bigEndian_lt xs
  calc
    bigEndian (x :: xs) < (x.toNat + 1) * 256 ^ xs.length := by
      rw [bigEndian, add_mul, one_mul]
      exact Nat.add_lt_add_left hxs _
    _ ≤ y.toNat * 256 ^ ys.length := by
      rw [hlength]
      exact Nat.mul_le_mul_right _ hlt
    _ ≤ bigEndian (y :: ys) := Nat.le_add_right _ _

theorem memcmp_neg_iff {a b : List UInt8} (hlength : a.length = b.length) :
    memcmp a b < 0 ↔ bigEndian a < bigEndian b := by
  induction a generalizing b with
  | nil =>
      cases b with
      | nil => simp [memcmp, bigEndian]
      | cons y ys => simp at hlength
  | cons x xs ih =>
      cases b with
      | nil => simp at hlength
      | cons y ys =>
          have htail : xs.length = ys.length := Nat.succ.inj hlength
          by_cases heq : x = y
          · subst heq
            rw [memcmp, if_pos rfl, ih htail, bigEndian, bigEndian, htail]
            omega
          · rw [memcmp, if_neg heq]
            have hne : x.toNat ≠ y.toNat := fun h => heq (UInt8.toNat_inj.mp h)
            rcases lt_or_gt_of_ne hne with hlt | hgt
            · have hcons := bigEndian_cons_lt htail hlt
              exact ⟨fun _ => hcons, fun _ => by omega⟩
            · have hcons := bigEndian_cons_lt htail.symm hgt
              exact ⟨fun h => by omega, fun h => by omega⟩

theorem memcmp_eq_zero_iff {a b : List UInt8} (hlength : a.length = b.length) :
    memcmp a b = 0 ↔ a = b := by
  induction a generalizing b with
  | nil =>
      cases b with
      | nil => simp [memcmp]
      | cons y ys => simp at hlength
  | cons x xs ih =>
      cases b with
      | nil => simp at hlength
      | cons y ys =>
          by_cases heq : x = y
          · subst heq
            simp [memcmp, ih (Nat.succ.inj hlength)]
          · rw [memcmp, if_neg heq]
            have hne : x.toNat ≠ y.toNat := fun h => heq (UInt8.toNat_inj.mp h)
            exact ⟨fun h => by omega, fun h => absurd (List.cons.inj h).1 heq⟩

theorem memcmp_swap (a b : List UInt8) : memcmp b a = -memcmp a b := by
  induction a generalizing b with
  | nil => cases b <;> simp [memcmp]
  | cons x xs ih =>
      cases b with
      | nil => simp [memcmp]
      | cons y ys =>
          by_cases heq : x = y
          · subst heq
            simp [memcmp, ih]
          · rw [memcmp, memcmp, if_neg heq, if_neg (Ne.symm heq)]
            ring

theorem bigEndian_inj {a b : List UInt8} (hlength : a.length = b.length) :
    bigEndian a = bigEndian b ↔ a = b := by
  constructor
  · intro hsame
    rw [← memcmp_eq_zero_iff hlength]
    have hneg := memcmp_neg_iff hlength
    have hpos := memcmp_neg_iff hlength.symm
    rw [memcmp_swap a b] at hpos
    omega
  · exact congrArg bigEndian

def addCarry : List UInt8 → Bool × List UInt8
  | [] => (true, [])
  | x :: xs =>
      let rest := addCarry xs
      if rest.1 then (decide (x + 1 = 0), (x + 1) :: rest.2)
      else (false, x :: rest.2)

def increment (bytes : List UInt8) : List UInt8 :=
  (addCarry bytes).2

theorem addCarry_length (bytes : List UInt8) :
    (addCarry bytes).2.length = bytes.length := by
  induction bytes with
  | nil => rfl
  | cons x xs ih =>
      simp only [addCarry]
      split_ifs <;> simp [ih]

theorem addCarry_value (bytes : List UInt8) :
    bigEndian (addCarry bytes).2 +
        (if (addCarry bytes).1 then 256 ^ bytes.length else 0) =
      bigEndian bytes + 1 := by
  induction bytes with
  | nil => simp [addCarry, bigEndian]
  | cons x xs ih =>
      have hlength := addCarry_length xs
      by_cases hcarry : (addCarry xs).1 = true
      · rw [if_pos hcarry] at ih
        have hnext : (x + 1).toNat = (x.toNat + 1) % 256 := by
          simp [UInt8.toNat_add]
        have hx := x.toNat_lt
        simp only [addCarry, hcarry, if_true, bigEndian, hlength,
          decide_eq_true_eq, List.length_cons, pow_succ']
        by_cases hzero : x + 1 = 0
        · have hlast : x.toNat = 255 := by
            rw [hzero] at hnext
            simp only [UInt8.toNat_zero] at hnext
            omega
          rw [if_pos hzero, hzero, hlast]
          simp only [UInt8.toNat_zero, zero_mul, zero_add]
          linarith
        · have hne : x.toNat + 1 ≠ 256 := by
            intro hwrap
            exact hzero (UInt8.toNat_inj.mp (by rw [hnext, hwrap]; rfl))
          rw [if_neg hzero, hnext, Nat.mod_eq_of_lt (by omega)]
          linarith
      · simp only [hcarry, Bool.false_eq_true, if_false, add_zero] at ih
        simp only [addCarry, hcarry, Bool.false_eq_true, if_false, bigEndian,
          hlength, add_zero]
        omega

theorem increment_length (bytes : List UInt8) :
    (increment bytes).length = bytes.length :=
  addCarry_length bytes

theorem bigEndian_increment (bytes : List UInt8) :
    bigEndian (increment bytes) =
      (bigEndian bytes + 1) % 256 ^ bytes.length := by
  have hvalue := addCarry_value bytes
  have hlt := bigEndian_lt (increment bytes)
  rw [increment_length] at hlt
  by_cases hcarry : (addCarry bytes).1 = true
  · rw [if_pos hcarry] at hvalue
    rw [← hvalue, Nat.add_mod_right]
    exact (Nat.mod_eq_of_lt hlt).symm
  · rw [if_neg hcarry, add_zero] at hvalue
    rw [← hvalue]
    exact (Nat.mod_eq_of_lt hlt).symm

end ByteOrder
