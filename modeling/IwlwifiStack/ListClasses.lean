import Mathlib.Data.List.Perm.Basic
import Mathlib.Tactic

/-!
# The classes of a list

A list taken apart by a number of each element, class after class, has the same
elements as before.
-/

namespace ListClasses

variable {α : Type*}

/-- The classes below `bound`, one after another. -/
def below (key : α → ℕ) (l : List α) (bound : ℕ) : List α :=
  (List.range bound).flatMap fun number => l.filter fun a => key a = number

variable {key : α → ℕ} {l : List α} {bound : ℕ}

@[simp] theorem below_zero : below key l 0 = [] := rfl

theorem below_succ :
    below key l (bound + 1) = below key l bound ++ l.filter fun a => key a = bound := by
  unfold below
  rw [List.range_succ, List.flatMap_append, List.flatMap_singleton]

theorem below_perm_filter : (below key l bound).Perm (l.filter fun a => key a < bound) := by
  induction bound with
  | zero =>
      have hnone : (l.filter fun a => key a < 0) = [] := by simp
      rw [hnone, below_zero]
  | succ bound ih =>
      rw [below_succ]
      have hsplit := List.filter_append_perm (fun a => decide (key a < bound))
        (l.filter fun a => key a < bound + 1)
      have hfirst : (l.filter fun a => key a < bound + 1).filter (fun a => decide (key a < bound)) =
          l.filter fun a => key a < bound := by
        rw [List.filter_filter]
        apply List.filter_congr
        intro a _
        rw [Bool.eq_iff_iff]
        simp
        omega
      have hlast : (l.filter fun a => key a < bound + 1).filter
          (fun a => !decide (key a < bound)) = l.filter fun a => key a = bound := by
        rw [List.filter_filter]
        apply List.filter_congr
        intro a _
        rw [Bool.eq_iff_iff]
        simp
        omega
      rw [hfirst, hlast] at hsplit
      exact (ih.append_right _).trans hsplit

theorem below_perm (hbound : ∀ a ∈ l, key a < bound) : (below key l bound).Perm l := by
  have hall : (l.filter fun a => key a < bound) = l := by
    rw [List.filter_eq_self]
    intro a ha
    rw [decide_eq_true_eq]
    exact hbound a ha
  have hperm := @below_perm_filter α key l bound
  rw [hall] at hperm
  exact hperm

end ListClasses
