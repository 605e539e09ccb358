import Mathlib.Algebra.Order.BigOperators.Group.List
import Mathlib.Tactic

/-!
# Sums over a list

The sum of a function over a list with one entry changed or taken out, and sums
of terms that are in order.
-/

namespace ListSums

variable {α : Type*} (f : α → ℤ)

theorem sum_map_set {entries : List α} {index : ℕ} {old : α} (new : α)
    (hget : entries[index]? = some old) :
    ((entries.set index new).map f).sum =
      (entries.map f).sum - f old + f new := by
  induction entries generalizing index with
  | nil => simp at hget
  | cons entry entries ih =>
      cases index with
      | zero =>
          simp only [List.getElem?_cons_zero, Option.some.injEq] at hget
          subst hget
          simp only [List.set_cons_zero, List.map_cons, List.sum_cons]
          ring
      | succ index =>
          rw [List.getElem?_cons_succ] at hget
          simp only [List.set_cons_succ, List.map_cons, List.sum_cons, ih hget]
          ring

theorem sum_map_eraseIdx {entries : List α} {index : ℕ} {old : α}
    (hget : entries[index]? = some old) :
    ((entries.eraseIdx index).map f).sum = (entries.map f).sum - f old := by
  induction entries generalizing index with
  | nil => simp at hget
  | cons entry entries ih =>
      cases index with
      | zero =>
          simp only [List.getElem?_cons_zero, Option.some.injEq] at hget
          subst hget
          simp only [List.eraseIdx_cons_zero, List.map_cons, List.sum_cons]
          ring
      | succ index =>
          rw [List.getElem?_cons_succ] at hget
          simp only [List.eraseIdx_cons_succ, List.map_cons, List.sum_cons,
            ih hget]
          ring

variable {f} {g : α → ℤ}

theorem sum_map_lt {entries : List α} (hle : ∀ entry ∈ entries, g entry ≤ f entry)
    (hlt : ∀ entry ∈ entries, 0 < f entry → g entry < f entry)
    (hpositive : 0 < (entries.map f).sum) :
    (entries.map g).sum < (entries.map f).sum := by
  induction entries with
  | nil => exact absurd hpositive (lt_irrefl _)
  | cons entry entries ih =>
      rw [List.forall_mem_cons] at hle hlt
      simp only [List.map_cons, List.sum_cons] at hpositive ⊢
      have htail := List.sum_le_sum hle.2
      by_cases hhead : 0 < f entry
      · have hless := hlt.1 hhead
        omega
      · have hless := ih hle.2 hlt.2 (by omega)
        have hentry := hle.1
        omega

theorem sum_map_eq_iff {entries : List α}
    (hle : ∀ entry ∈ entries, g entry ≤ f entry) :
    (entries.map g).sum = (entries.map f).sum ↔
      ∀ entry ∈ entries, g entry = f entry := by
  induction entries with
  | nil => simp
  | cons entry entries ih =>
      rw [List.forall_mem_cons] at hle ⊢
      simp only [List.map_cons, List.sum_cons]
      have htail := List.sum_le_sum hle.2
      rw [← ih hle.2]
      have hentry := hle.1
      constructor
      · intro heq
        constructor <;> omega
      · rintro ⟨hhead, hrest⟩
        omega

end ListSums
