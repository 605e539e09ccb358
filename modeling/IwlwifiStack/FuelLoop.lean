import Mathlib.Logic.Relation
import Mathlib.Tactic

/-!
# Loops run with fuel

A loop whose body gives either a result or the next state, run for at most a
number of rounds.  What stops the loop is the body in a state that the loop
reaches, and a measure that every round lowers is enough fuel.
-/

namespace FuelLoop

variable {σ ρ : Type*}

def run (body : σ → ρ ⊕ σ) : ℕ → σ → Option ρ
  | 0, _ => none
  | fuel + 1, st =>
      match body st with
      | .inl result => some result
      | .inr next => run body fuel next

def Reached (body : σ → ρ ⊕ σ) : σ → σ → Prop :=
  Relation.ReflTransGen fun st next => body st = .inr next

variable {body : σ → ρ ⊕ σ} {start st head : σ} {result : ρ}

theorem Reached.after (hreached : Reached body start st)
    (hafter : body st = .inr head) : Reached body start head :=
  Relation.ReflTransGen.tail hreached hafter

theorem Reached.invariant (hreached : Reached body start st) (Holds : σ → Prop)
    (hstart : Holds start)
    (hround : ∀ st next, Reached body start st → Holds st →
      body st = .inr next → Holds next) : Holds st := by
  induction hreached with
  | refl => exact hstart
  | tail hbefore hnext ih => exact hround _ _ hbefore ih hnext

theorem Reached.behind (hafter : body start = .inr head)
    (hreached : Reached body head st) : Reached body start st :=
  Relation.ReflTransGen.head hafter hreached

theorem reached_of_run {fuel : ℕ} (hrun : run body fuel start = some result) :
    ∃ st, Reached body start st ∧ body st = .inl result := by
  induction fuel generalizing start with
  | zero => cases hrun
  | succ fuel ih =>
      rw [run] at hrun
      cases hbody : body start with
      | inl stopped =>
          rw [hbody] at hrun
          cases hrun
          exact ⟨start, Relation.ReflTransGen.refl, hbody⟩
      | inr next =>
          rw [hbody] at hrun
          obtain ⟨st, hreached, hstop⟩ := ih hrun
          exact ⟨st, hreached.behind hbody, hstop⟩

theorem run_mono {fuel more : ℕ} (hrun : run body fuel start = some result)
    (hle : fuel ≤ more) : run body more start = some result := by
  induction fuel generalizing start more with
  | zero => cases hrun
  | succ fuel ih =>
      obtain ⟨rest, rfl⟩ : ∃ rest, more = rest + 1 := ⟨more - 1, by omega⟩
      rw [run] at hrun ⊢
      cases hbody : body start with
      | inl stopped =>
          rw [hbody] at hrun
          exact hrun
      | inr next =>
          rw [hbody] at hrun
          exact ih hrun (by omega)

theorem run_of_measure (measure : σ → ℕ) {fuel : ℕ}
    (hround : ∀ st next, Reached body start st → body st = .inr next →
      measure next < measure st) (hfuel : measure start < fuel) :
    ∃ result, run body fuel start = some result := by
  induction fuel generalizing start with
  | zero => omega
  | succ fuel ih =>
      rw [run]
      cases hbody : body start with
      | inl result => exact ⟨result, rfl⟩
      | inr next =>
          have hless := hround start next Relation.ReflTransGen.refl hbody
          apply ih
          · intro st after hreached hafter
            exact hround st after (hreached.behind hbody) hafter
          · omega

end FuelLoop
