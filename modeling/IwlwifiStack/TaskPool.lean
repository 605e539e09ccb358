import Mathlib.Algebra.BigOperators.Group.List.Basic
import Mathlib.Tactic

/-!
# Threads that work on lists of tasks

Every thread has a list of tasks; working on the first one puts others in its
place.  All that is said about the pool is said about the tasks of all threads
together, up to their order.
-/

namespace TaskPool

variable {Task : Type*}

def next (threads : List (List Task)) (index : ℕ) : Option Task :=
  threads[index]?.bind List.head?

def done (threads : List (List Task)) (index : ℕ) (tasks : List Task) :
    List (List Task) :=
  threads.modify index fun thread => tasks ++ thread.tail

theorem done_perm {threads : List (List Task)} {index : ℕ} {task : Task}
    (hnext : next threads index = some task) :
    ∃ others : List Task, threads.flatten.Perm (task :: others) ∧
      ∀ tasks, (done threads index tasks).flatten.Perm (tasks ++ others) := by
  induction threads generalizing index with
  | nil => simp [next] at hnext
  | cons thread threads ih =>
      cases index with
      | zero =>
          rw [next, List.getElem?_cons_zero, Option.bind_some] at hnext
          obtain ⟨rest, rfl⟩ := List.head?_eq_some_iff.mp hnext
          refine ⟨rest ++ threads.flatten, ?_, ?_⟩
          · rw [List.flatten_cons, List.cons_append]
          · intro tasks
            rw [done, List.modify_zero_cons, List.flatten_cons, List.tail_cons,
              List.append_assoc]
      | succ index =>
          rw [next, List.getElem?_cons_succ] at hnext
          obtain ⟨others, hbefore, hafter⟩ := ih hnext
          refine ⟨thread ++ others, ?_, ?_⟩
          · rw [List.flatten_cons]
            exact (hbefore.append_left thread).trans List.perm_middle
          · intro tasks
            rw [done, List.modify_succ_cons, List.flatten_cons]
            exact ((hafter tasks).append_left thread).trans
              (by simpa only [List.append_assoc] using
                List.perm_append_comm.append_right others)

def weight (cost : Task → ℕ) (threads : List (List Task)) : ℕ :=
  (threads.flatten.map cost).sum

theorem weight_done_lt {cost : Task → ℕ} {threads : List (List Task)}
    {index : ℕ} {task : Task} {tasks : List Task}
    (hnext : next threads index = some task)
    (hless : (tasks.map cost).sum < cost task) :
    weight cost (done threads index tasks) < weight cost threads := by
  obtain ⟨others, hbefore, hafter⟩ := done_perm hnext
  rw [weight, weight, (hbefore.map cost).sum_eq, ((hafter tasks).map cost).sum_eq,
    List.map_cons, List.sum_cons, List.map_append, List.sum_append]
  omega

end TaskPool
