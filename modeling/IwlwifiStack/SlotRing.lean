import Mathlib.Tactic
import Mathlib.Algebra.BigOperators.Group.Finset.Basic

/-!
# Rings of slots

An array of `width` slots holds the `width` consecutive positions of a moving
window; position `p` lives in slot `p % width`.  Two positions of one window
never share a slot, every slot belongs to exactly one of them, and a weight
summed over the slots changes with one update by the weight of that slot.
-/

namespace SlotRing

theorem offset_unique {width base i j : ℕ}
    (hi : i < width) (hj : j < width)
    (hslot : (base + i) % width = (base + j) % width) :
    i = j := by
  have hcancel : i % width = j % width :=
    Nat.ModEq.add_left_cancel' base hslot
  rwa [Nat.mod_eq_of_lt hi, Nat.mod_eq_of_lt hj] at hcancel

theorem position_unique {width base p q : ℕ}
    (hp : base ≤ p) (hp' : p < base + width)
    (hq : base ≤ q) (hq' : q < base + width)
    (hslot : p % width = q % width) :
    p = q := by
  have hoffset : p - base = q - base := by
    apply @offset_unique width base _ _ (by omega) (by omega)
    simpa [Nat.add_sub_cancel' hp, Nat.add_sub_cancel' hq] using hslot
  omega

theorem exists_offset {width slot : ℕ} (base : ℕ) (hslot : slot < width) :
    ∃ i, i < width ∧ (base + i) % width = slot := by
  have hwidth : 0 < width := by omega
  have hbase : base % width < width := Nat.mod_lt _ hwidth
  by_cases hle : base % width ≤ slot
  · refine ⟨slot - base % width, by omega, ?_⟩
    rw [Nat.add_mod, Nat.mod_eq_of_lt (a := slot - base % width) (by omega),
      Nat.add_sub_cancel' hle, Nat.mod_eq_of_lt hslot]
  · refine ⟨slot + width - base % width, by omega, ?_⟩
    rw [Nat.add_mod, Nat.mod_eq_of_lt (a := slot + width - base % width)
      (by omega), Nat.add_sub_cancel' (by omega), Nat.add_mod_right,
      Nat.mod_eq_of_lt hslot]

theorem add_mod_of_lt {width i : ℕ} (base : ℕ) (hi : i < width) :
    (base + i) % width =
      if base % width + i < width then base % width + i
      else base % width + i - width := by
  have hbase : base % width < width := Nat.mod_lt _ (by omega)
  rw [← Nat.mod_add_mod]
  split
  case isTrue hlt => exact Nat.mod_eq_of_lt hlt
  case isFalse hge =>
      rw [Nat.mod_eq_sub_mod (by omega), Nat.mod_eq_of_lt (by omega)]

theorem offset_ne {width base i j : ℕ}
    (hi : i < width) (hj : j < width) (hne : i ≠ j) :
    (base + i) % width ≠ (base + j) % width := by
  intro hslot
  exact hne (offset_unique hi hj hslot)

section Total

variable {α : Type*}

/-- The total weight of the slots: a number, or the multiset of all that is
stored. -/
def total {M : Type*} [AddCommMonoid M] (width : ℕ) (weight : α → M)
    (slots : ℕ → α) : M :=
  ∑ slot ∈ Finset.range width, weight (slots slot)

theorem sum_update {ι M : Type*} [DecidableEq ι] [AddCommMonoid M]
    {indices : Finset ι} {index : ι} (weight : α → M) (table : ι → α)
    (content : α) (hmem : index ∈ indices) :
    (∑ i ∈ indices, weight (Function.update table index content i)) +
        weight (table index) =
      (∑ i ∈ indices, weight (table i)) + weight content := by
  have hrest :
      (∑ i ∈ indices.erase index,
          weight (Function.update table index content i)) =
        ∑ i ∈ indices.erase index, weight (table i) := by
    apply Finset.sum_congr rfl
    intro i hi
    rw [Function.update_of_ne (Finset.ne_of_mem_erase hi)]
  rw [← Finset.sum_erase_add indices _ hmem,
    ← Finset.sum_erase_add indices (fun i => weight (table i)) hmem,
    hrest, Function.update_self, add_right_comm]

theorem total_update {M : Type*} [AddCommMonoid M] {width slot : ℕ}
    (weight : α → M) (slots : ℕ → α) (content : α) (hslot : slot < width) :
    total width weight (Function.update slots slot content) +
        weight (slots slot) =
      total width weight slots + weight content :=
  sum_update weight slots content (Finset.mem_range.mpr hslot)

theorem total_add {M : Type*} [AddCommMonoid M] (width : ℕ)
    (left right : α → M) (slots : ℕ → α) :
    total width (fun content => left content + right content) slots =
      total width left slots + total width right slots := by
  exact Finset.sum_add_distrib

theorem total_mul (width factor : ℕ) (weight : α → ℕ) (slots : ℕ → α) :
    total width (fun content => factor * weight content) slots =
      factor * total width weight slots := by
  exact (Finset.mul_sum _ _ _).symm

theorem total_const (width value : ℕ) (slots : ℕ → α) :
    total width (fun _ => value) slots = width * value := by
  simp [total]

theorem total_le_total {width : ℕ} {left right : α → ℕ}
    (hle : ∀ content, left content ≤ right content) (slots : ℕ → α) :
    total width left slots ≤ total width right slots := by
  exact Finset.sum_le_sum fun slot _ => hle (slots slot)

theorem total_congr {M : Type*} [AddCommMonoid M] {width : ℕ}
    {weight : α → M} {slots slots' : ℕ → α}
    (heq : ∀ slot < width, weight (slots slot) = weight (slots' slot)) :
    total width weight slots = total width weight slots' := by
  exact Finset.sum_congr rfl fun slot hslot =>
    heq slot (Finset.mem_range.mp hslot)

theorem weight_le_total {width slot : ℕ} (weight : α → ℕ) (slots : ℕ → α)
    (hslot : slot < width) :
    weight (slots slot) ≤ total width weight slots := by
  exact Finset.single_le_sum (f := fun i => weight (slots i))
    (fun _ _ => Nat.zero_le _) (Finset.mem_range.mpr hslot)

theorem total_eq_zero_iff {width : ℕ} {weight : α → ℕ} {slots : ℕ → α} :
    total width weight slots = 0 ↔
      ∀ slot < width, weight (slots slot) = 0 := by
  simp [total, Finset.sum_eq_zero_iff]

theorem exists_of_total_ne_zero {width : ℕ} {weight : α → ℕ}
    {slots : ℕ → α} (htotal : total width weight slots ≠ 0) :
    ∃ slot, slot < width ∧ weight (slots slot) ≠ 0 := by
  by_contra hnone
  push Not at hnone
  exact htotal (total_eq_zero_iff.mpr hnone)

theorem countP_eq_total (width : ℕ) (holds : α → Bool) (slots : ℕ → α) :
    (List.range width).countP (fun slot => holds (slots slot)) =
      total width (fun content => if holds content then 1 else 0) slots := by
  induction width with
  | zero => rfl
  | succ width ih =>
      rw [List.range_succ, List.countP_append, ih, total, total,
        Finset.sum_range_succ, List.countP_singleton]

end Total

end SlotRing
