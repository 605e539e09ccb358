import Mathlib.Data.List.Basic
import Mathlib.Logic.Relation
import Mathlib.Order.Nat
import Mathlib.Tactic.Common

/-!
# Merging items into runs

The items are the numbers below a bound, some of them valid.  A pass over them
keeps a list of runs, newest first, each as its first and last valid item, and
extends the newest run by a valid item that joins its last one.  Items that are
not valid do not end a run.

The invariant says where every valid item is, how the valid items of a run hang
together, and which items that are not valid lie inside of a run.
-/

namespace RunMerging

def addItem (valid : ℕ → Bool) (joins : ℕ → ℕ → Prop) [DecidableRel joins]
    (runs : List (ℕ × ℕ)) (item : ℕ) : List (ℕ × ℕ) :=
  if !valid item then runs
  else
    match runs with
    | [] => [(item, item)]
    | run :: rest =>
      if joins run.2 item then (run.1, item) :: rest
      else (item, item) :: run :: rest

def mergedRuns (valid : ℕ → Bool) (joins : ℕ → ℕ → Prop) [DecidableRel joins]
    (bound : ℕ) : List (ℕ × ℕ) :=
  (List.range bound).foldl (addItem valid joins) []

/-- No valid item lies between the two, and the later joins the earlier. -/
structure Neighbours (valid : ℕ → Bool) (joins : ℕ → ℕ → Prop)
    (first second : ℕ) : Prop where
  lt : first < second
  first_valid : valid first = true
  second_valid : valid second = true
  between : ∀ item, first < item → item < second → valid item = false
  joins : joins first second

structure IsRun (valid : ℕ → Bool) (joins : ℕ → ℕ → Prop) (bound : ℕ)
    (run : ℕ × ℕ) : Prop where
  le : run.1 ≤ run.2
  lt : run.2 < bound
  first_valid : valid run.1 = true
  last_valid : valid run.2 = true
  chained : ∀ item, run.1 ≤ item → item ≤ run.2 → valid item = true →
    Relation.ReflTransGen (Neighbours valid joins) item run.2
  gap : ∀ item, run.1 ≤ item → item ≤ run.2 → valid item = false →
    ∃ first second, Neighbours valid joins first second ∧
      first < item ∧ item < second ∧ second ≤ run.2

structure Merged (valid : ℕ → Bool) (joins : ℕ → ℕ → Prop) (bound : ℕ)
    (runs : List (ℕ × ℕ)) : Prop where
  isRun : ∀ run ∈ runs, IsRun valid joins bound run
  covered : ∀ item, item < bound → valid item = true →
    ∃ run ∈ runs, run.1 ≤ item ∧ item ≤ run.2
  linked : ∀ first second, second < bound → Neighbours valid joins first second →
    ∃ run ∈ runs, run.1 ≤ first ∧ second ≤ run.2
  last : ∀ run ∈ runs.head?, ∀ item, run.2 < item → item < bound →
    valid item = false
  length_le : runs.length ≤ bound

variable {valid : ℕ → Bool} {joins : ℕ → ℕ → Prop}

theorem le_of_chained {first last : ℕ}
    (hchained : Relation.ReflTransGen (Neighbours valid joins) first last) :
    first ≤ last := by
  induction hchained with
  | refl => exact le_rfl
  | tail _ hstep ih => exact ih.trans hstep.lt.le

namespace IsRun

variable {bound : ℕ} {run : ℕ × ℕ}

theorem later (hrun : IsRun valid joins bound run) :
    IsRun valid joins (bound + 1) run where
  le := hrun.le
  lt := Nat.lt_succ_of_lt hrun.lt
  first_valid := hrun.first_valid
  last_valid := hrun.last_valid
  chained := hrun.chained
  gap := hrun.gap

theorem single {item : ℕ} (hvalid : valid item = true) :
    IsRun valid joins (item + 1) (item, item) where
  le := le_rfl
  lt := Nat.lt_succ_self item
  first_valid := hvalid
  last_valid := hvalid
  chained := by
    intro other hfirst hlast _
    have hother : other = item := le_antisymm hlast hfirst
    rw [hother]
  gap := by
    intro other hfirst hlast hinvalid
    have hother : other = item := le_antisymm hlast hfirst
    rw [hother, hvalid] at hinvalid
    contradiction

theorem extend (hrun : IsRun valid joins bound run)
    (hlast : ∀ item, run.2 < item → item < bound → valid item = false)
    (hvalid : valid bound = true) (hjoins : joins run.2 bound) :
    IsRun valid joins (bound + 1) (run.1, bound) where
  le := le_of_lt (lt_of_le_of_lt hrun.le hrun.lt)
  lt := Nat.lt_succ_self bound
  first_valid := hrun.first_valid
  last_valid := hvalid
  chained := by
    intro item hfirst hle hitem
    have hneighbours : Neighbours valid joins run.2 bound :=
      ⟨hrun.lt, hrun.last_valid, hvalid, hlast, hjoins⟩
    rcases Nat.lt_or_eq_of_le hle with hlt | heq
    · by_cases hold : item ≤ run.2
      · exact (hrun.chained item hfirst hold hitem).tail hneighbours
      · have hinvalid := hlast item (not_le.mp hold) hlt
        rw [hitem] at hinvalid
        contradiction
    · have hbound : item = bound := heq
      rw [hbound]
  gap := by
    intro item hfirst hle hinvalid
    by_cases hold : item ≤ run.2
    · rcases hrun.gap item hfirst hold hinvalid with
        ⟨first, second, hneighbours, hafter, hbefore, hinside⟩
      have hlt := hrun.lt
      exact ⟨first, second, hneighbours, hafter, hbefore, by omega⟩
    · have hne : item ≠ bound := by
        intro heq
        rw [heq, hvalid] at hinvalid
        contradiction
      have hneighbours : Neighbours valid joins run.2 bound :=
        ⟨hrun.lt, hrun.last_valid, hvalid, hlast, hjoins⟩
      exact ⟨run.2, bound, hneighbours, not_le.mp hold,
        lt_of_le_of_ne hle hne, le_rfl⟩

theorem uniform {κ : Type*} {key : ℕ → κ} (hrun : IsRun valid joins bound run)
    (hkey : ∀ first second, second < bound →
      Neighbours valid joins first second → key first = key second)
    {item : ℕ} (hfirst : run.1 ≤ item) (hlast : item ≤ run.2)
    (hvalid : valid item = true) : key item = key run.2 := by
  have hchained := hrun.chained item hfirst hlast hvalid
  clear hfirst hlast hvalid
  induction hchained using Relation.ReflTransGen.head_induction_on with
  | refl => rfl
  | head hstep hrest ih =>
      have hle := le_of_chained hrest
      have hlt := hrun.lt
      exact (hkey _ _ (by omega) hstep).trans ih

end IsRun

theorem addItem_invalid [DecidableRel joins] {runs : List (ℕ × ℕ)} {item : ℕ}
    (hinvalid : valid item = false) : addItem valid joins runs item = runs := by
  simp [addItem, hinvalid]

theorem addItem_first [DecidableRel joins] {item : ℕ}
    (hvalid : valid item = true) :
    addItem valid joins [] item = [(item, item)] := by
  simp [addItem, hvalid]

theorem addItem_joins [DecidableRel joins] {run : ℕ × ℕ}
    {rest : List (ℕ × ℕ)} {item : ℕ} (hvalid : valid item = true)
    (hjoins : joins run.2 item) :
    addItem valid joins (run :: rest) item = (run.1, item) :: rest := by
  simp [addItem, hvalid, hjoins]

theorem addItem_starts [DecidableRel joins] {run : ℕ × ℕ}
    {rest : List (ℕ × ℕ)} {item : ℕ} (hvalid : valid item = true)
    (hjoins : ¬joins run.2 item) :
    addItem valid joins (run :: rest) item = (item, item) :: run :: rest := by
  simp [addItem, hvalid, hjoins]

namespace Merged

variable {bound : ℕ} {runs : List (ℕ × ℕ)}

theorem empty : Merged valid joins 0 [] where
  isRun := by simp
  covered := by simp
  linked := by simp
  last := by simp
  length_le := le_rfl

theorem newest {run : ℕ × ℕ} {rest : List (ℕ × ℕ)}
    (hmerged : Merged valid joins bound (run :: rest)) {item : ℕ}
    (hitem : item < bound) (hvalid : valid item = true)
    (hlast : ∀ later, item < later → later < bound → valid later = false) :
    item = run.2 := by
  have hrun := hmerged.isRun run List.mem_cons_self
  rcases Nat.lt_trichotomy item run.2 with hlt | heq | hgt
  · have hinvalid := hlast run.2 hlt hrun.lt
    rw [hrun.last_valid] at hinvalid
    contradiction
  · exact heq
  · have hinvalid := hmerged.last run (by simp) item hgt hitem
    rw [hvalid] at hinvalid
    contradiction

theorem skip (hmerged : Merged valid joins bound runs)
    (hinvalid : valid bound = false) : Merged valid joins (bound + 1) runs where
  isRun := fun run hrun => (hmerged.isRun run hrun).later
  covered := by
    intro item hitem hvalid
    have hne : item ≠ bound := by
      intro heq
      rw [heq, hinvalid] at hvalid
      contradiction
    exact hmerged.covered item (by omega) hvalid
  linked := by
    intro first second hsecond hneighbours
    have hne : second ≠ bound := by
      intro heq
      have hvalid := hneighbours.second_valid
      rw [heq, hinvalid] at hvalid
      contradiction
    exact hmerged.linked first second (by omega) hneighbours
  last := by
    intro run hrun item hlast hitem
    rcases Nat.lt_succ_iff_lt_or_eq.mp hitem with hlt | heq
    · exact hmerged.last run hrun item hlast hlt
    · rw [heq, hinvalid]
  length_le := Nat.le_succ_of_le hmerged.length_le

theorem first (hmerged : Merged valid joins bound [])
    (hvalid : valid bound = true) :
    Merged valid joins (bound + 1) [(bound, bound)] := by
  have hnone : ∀ item, item < bound → valid item = false := by
    intro item hitem
    by_contra hitemValid
    rcases hmerged.covered item hitem (by simpa using hitemValid) with
      ⟨run, hrun, _⟩
    simp at hrun
  constructor
  · intro run hrun
    have heq : run = (bound, bound) := by simpa using hrun
    rw [heq]
    exact IsRun.single hvalid
  · intro item hitem hitemValid
    rcases Nat.lt_succ_iff_lt_or_eq.mp hitem with hlt | heq
    · rw [hnone item hlt] at hitemValid
      contradiction
    · exact ⟨(bound, bound), List.mem_cons_self, heq.ge, heq.le⟩
  · intro first second hsecond hneighbours
    have hinvalid := hnone first (by have := hneighbours.lt; omega)
    rw [hneighbours.first_valid] at hinvalid
    contradiction
  · intro run hrun item hlast hitem
    have heq : run = (bound, bound) := by simpa using hrun.symm
    rw [heq] at hlast
    omega
  · simp

theorem join {run : ℕ × ℕ} {rest : List (ℕ × ℕ)}
    (hmerged : Merged valid joins bound (run :: rest))
    (hvalid : valid bound = true) (hjoins : joins run.2 bound) :
    Merged valid joins (bound + 1) ((run.1, bound) :: rest) := by
  have hrun := hmerged.isRun run List.mem_cons_self
  have hlast := hmerged.last run (by simp)
  -- the extended run holds what the run held
  have hkeeps : ∀ first second, second < bound + 1 →
      (∃ other ∈ run :: rest, other.1 ≤ first ∧ second ≤ other.2) →
      ∃ other ∈ (run.1, bound) :: rest, other.1 ≤ first ∧ second ≤ other.2 := by
    intro first second hsecond hheld
    rcases hheld with ⟨other, hother, hfirst, hle⟩
    rcases List.mem_cons.mp hother with heq | hrest
    · rw [heq] at hfirst
      exact ⟨(run.1, bound), List.mem_cons_self, hfirst,
        Nat.le_of_lt_succ hsecond⟩
    · exact ⟨other, List.mem_cons_of_mem _ hrest, hfirst, hle⟩
  constructor
  · intro other hother
    rcases List.mem_cons.mp hother with heq | hrest
    · rw [heq]
      exact hrun.extend hlast hvalid hjoins
    · exact (hmerged.isRun other (List.mem_cons_of_mem _ hrest)).later
  · intro item hitem hitemValid
    rcases Nat.lt_succ_iff_lt_or_eq.mp hitem with hlt | heq
    · exact hkeeps item item hitem (hmerged.covered item hlt hitemValid)
    · have hfirst : run.1 ≤ item := by
        have := hrun.le
        have := hrun.lt
        omega
      exact ⟨(run.1, bound), List.mem_cons_self, hfirst, heq.le⟩
  · intro first second hsecond hneighbours
    rcases Nat.lt_succ_iff_lt_or_eq.mp hsecond with hlt | heq
    · exact hkeeps first second hsecond (hmerged.linked first second hlt hneighbours)
    · have hfirst : first = run.2 :=
        hmerged.newest (by rw [← heq]; exact hneighbours.lt)
          hneighbours.first_valid (by rw [← heq]; exact hneighbours.between)
      exact ⟨(run.1, bound), List.mem_cons_self, by rw [hfirst]; exact hrun.le,
        heq.le⟩
  · intro other hother item hitem hlt
    have heq : other = (run.1, bound) := by simpa using hother.symm
    rw [heq] at hitem
    dsimp only at hitem
    omega
  · have hlength := hmerged.length_le
    simp only [List.length_cons] at hlength ⊢
    omega

theorem start {run : ℕ × ℕ} {rest : List (ℕ × ℕ)}
    (hmerged : Merged valid joins bound (run :: rest))
    (hvalid : valid bound = true) (hjoins : ¬joins run.2 bound) :
    Merged valid joins (bound + 1) ((bound, bound) :: run :: rest) := by
  constructor
  · intro other hother
    rcases List.mem_cons.mp hother with heq | hrest
    · rw [heq]
      exact IsRun.single hvalid
    · exact (hmerged.isRun other hrest).later
  · intro item hitem hitemValid
    rcases Nat.lt_succ_iff_lt_or_eq.mp hitem with hlt | heq
    · rcases hmerged.covered item hlt hitemValid with ⟨other, hother, hheld⟩
      exact ⟨other, List.mem_cons_of_mem _ hother, hheld⟩
    · exact ⟨(bound, bound), List.mem_cons_self, heq.ge, heq.le⟩
  · intro first second hsecond hneighbours
    rcases Nat.lt_succ_iff_lt_or_eq.mp hsecond with hlt | heq
    · rcases hmerged.linked first second hlt hneighbours with
        ⟨other, hother, hheld⟩
      exact ⟨other, List.mem_cons_of_mem _ hother, hheld⟩
    · have hfirst : first = run.2 :=
        hmerged.newest (by rw [← heq]; exact hneighbours.lt)
          hneighbours.first_valid (by rw [← heq]; exact hneighbours.between)
      have hjoined := hneighbours.joins
      rw [hfirst, heq] at hjoined
      exact absurd hjoined hjoins
  · intro other hother item hitem hlt
    have heq : other = (bound, bound) := by simpa using hother.symm
    rw [heq] at hitem
    dsimp only at hitem
    omega
  · have hlength := hmerged.length_le
    simp only [List.length_cons] at hlength ⊢
    omega

theorem addItem [DecidableRel joins] (hmerged : Merged valid joins bound runs) :
    Merged valid joins (bound + 1) (addItem valid joins runs bound) := by
  by_cases hvalid : valid bound = true
  · cases runs with
    | nil =>
        rw [addItem_first hvalid]
        exact hmerged.first hvalid
    | cons run rest =>
        by_cases hjoins : joins run.2 bound
        · rw [addItem_joins hvalid hjoins]
          exact hmerged.join hvalid hjoins
        · rw [addItem_starts hvalid hjoins]
          exact hmerged.start hvalid hjoins
  · have hinvalid : valid bound = false := by simpa using hvalid
    rw [addItem_invalid hinvalid]
    exact hmerged.skip hinvalid

end Merged

theorem mergedRuns_succ (valid : ℕ → Bool) (joins : ℕ → ℕ → Prop)
    [DecidableRel joins] (bound : ℕ) :
    mergedRuns valid joins (bound + 1) =
      addItem valid joins (mergedRuns valid joins bound) bound := by
  simp [mergedRuns, List.range_succ]

theorem mergedRuns_merged (valid : ℕ → Bool) (joins : ℕ → ℕ → Prop)
    [DecidableRel joins] (bound : ℕ) :
    Merged valid joins bound (mergedRuns valid joins bound) := by
  induction bound with
  | zero => exact Merged.empty
  | succ bound ih =>
      rw [mergedRuns_succ]
      exact ih.addItem

end RunMerging
