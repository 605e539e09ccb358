import Mathlib.Data.List.Basic
import Mathlib.Tactic

/-!
# Lists cut into chunks

A list cut every `n` elements; the last chunk may be shorter.
-/

namespace ListChunks

variable {α : Type*}

/-- At most `bound` chunks. -/
def cut (n : ℕ) : ℕ → List α → List (List α)
  | 0, _ => []
  | bound + 1, l =>
      if l.isEmpty then [] else l.take n :: cut n bound (l.drop n)

def chunks (n : ℕ) (l : List α) : List (List α) :=
  cut n l.length l

variable {n : ℕ} {l : List α}

theorem cut_eq (hn : 0 < n) {bound other : ℕ} (hbound : l.length ≤ bound)
    (hother : l.length ≤ other) : cut n bound l = cut n other l := by
  induction bound generalizing l other with
  | zero =>
      have hnil : l = [] := List.eq_nil_of_length_eq_zero (by omega)
      subst hnil
      cases other <;> rfl
  | succ bound ih =>
      cases l with
      | nil => cases other <;> rfl
      | cons a l =>
          rw [List.length_cons] at hbound hother
          obtain ⟨other, rfl⟩ : ∃ m, other = m + 1 := ⟨other - 1, by omega⟩
          have hrest : ((a :: l).drop n).length ≤ l.length := by
            rw [List.length_drop, List.length_cons]
            omega
          simp only [cut, List.isEmpty_cons, Bool.false_eq_true, if_false]
          rw [ih (hrest.trans (Nat.le_of_succ_le_succ hbound))
            (hrest.trans (Nat.le_of_succ_le_succ hother))]

@[simp] theorem chunks_nil (n : ℕ) : chunks n ([] : List α) = [] := rfl

theorem chunks_of_ne_nil (hn : 0 < n) (hl : l ≠ []) :
    chunks n l = l.take n :: chunks n (l.drop n) := by
  obtain ⟨a, rest, rfl⟩ := List.exists_cons_of_ne_nil hl
  have hrest : ((a :: rest).drop n).length ≤ rest.length := by
    rw [List.length_drop, List.length_cons]
    omega
  rw [chunks, List.length_cons, cut, List.isEmpty_cons, if_neg (by simp),
    chunks, cut_eq hn hrest le_rfl]

theorem chunks_induction {P : List α → Prop} (hn : 0 < n) (hnil : P [])
    (hcons : ∀ l, l ≠ [] → P (l.drop n) → P l) (l : List α) : P l := by
  induction hlength : l.length using Nat.strong_induction_on generalizing l with
  | _ k ih =>
      by_cases hl : l = []
      · exact hl ▸ hnil
      · have hpos := List.length_pos_of_ne_nil hl
        exact hcons l hl (ih (l.drop n).length (by
          rw [List.length_drop]
          omega) (l.drop n) rfl)

theorem chunks_flatten (hn : 0 < n) (l : List α) : (chunks n l).flatten = l := by
  induction l using chunks_induction hn with
  | hnil => rfl
  | hcons l hl ih =>
      rw [chunks_of_ne_nil hn hl, List.flatten_cons, ih, List.take_append_drop]

theorem length_of_mem_chunks (hn : 0 < n) (l : List α) :
    ∀ chunk ∈ chunks n l, chunk.length ≤ n := by
  induction l using chunks_induction hn with
  | hnil => simp
  | hcons l hl ih =>
      rw [chunks_of_ne_nil hn hl]
      rintro chunk hchunk
      rcases List.mem_cons.mp hchunk with rfl | hchunk
      · exact List.length_take_le n l
      · exact ih chunk hchunk

theorem ne_nil_of_mem_chunks (hn : 0 < n) (l : List α) :
    ∀ chunk ∈ chunks n l, chunk ≠ [] := by
  induction l using chunks_induction hn with
  | hnil => simp
  | hcons l hl ih =>
      rw [chunks_of_ne_nil hn hl]
      rintro chunk hchunk
      rcases List.mem_cons.mp hchunk with rfl | hchunk
      · exact List.ne_nil_of_length_pos (by
          rw [List.length_take]
          have hpos := List.length_pos_of_ne_nil hl
          omega)
      · exact ih chunk hchunk

theorem chunks_length_le_iff (hn : 0 < n) (l : List α) (k : ℕ) :
    (chunks n l).length ≤ k ↔ l.length ≤ k * n := by
  induction l using chunks_induction hn generalizing k with
  | hnil => simp
  | hcons l hl ih =>
      have hpos := List.length_pos_of_ne_nil hl
      rw [chunks_of_ne_nil hn hl, List.length_cons]
      cases k with
      | zero =>
          simp only [Nat.zero_mul]
          omega
      | succ k =>
          rw [Nat.add_le_add_iff_right, ih k, List.length_drop, Nat.succ_mul]
          omega

theorem chunks_eq_singleton (hn : 0 < n) (hl : l ≠ []) (hle : l.length ≤ n) :
    chunks n l = [l] := by
  rw [chunks_of_ne_nil hn hl, List.take_of_length_le hle,
    List.drop_eq_nil_of_le hle]
  rfl

theorem chunks_chunks (hn : 0 < n) {k : ℕ} (hk : 0 < k) (l : List α) :
    (chunks (k * n) l).flatMap (chunks n) = chunks n l := by
  have hkn : 0 < k * n := Nat.mul_pos hk hn
  have hpieces : ∀ k l, chunks n (l.take (k * n)) ++ chunks n (l.drop (k * n)) =
      chunks n (l : List α) := by
    intro k
    induction k with
    | zero => intro l; simp
    | succ k ih =>
        intro l
        by_cases hl : l = []
        · simp [hl]
        · have hne : l.take ((k + 1) * n) ≠ [] := by
            apply List.ne_nil_of_length_pos
            have hpos := List.length_pos_of_ne_nil hl
            have hmul : 0 < (k + 1) * n := Nat.mul_pos k.succ_pos hn
            rw [List.length_take]
            omega
          have hadd : (k + 1) * n = n + k * n := by ring
          rw [chunks_of_ne_nil hn hne, chunks_of_ne_nil hn hl, List.take_take,
            Nat.min_eq_left (by omega), List.drop_take, hadd,
            Nat.add_sub_cancel_left, ← List.drop_drop, List.cons_append, ih]
  induction l using chunks_induction hkn with
  | hnil => rfl
  | hcons l hl ih =>
      rw [chunks_of_ne_nil hkn hl, List.flatMap_cons, ih, hpieces k l]

end ListChunks
