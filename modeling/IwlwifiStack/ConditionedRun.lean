import Mathlib.Tactic

/-!
# Runs of a partial step function

A step consumes one event and either returns a new state with the outputs it
produced, or does not return at all.  `run` folds a step over a list of
events; `Reachable` collects the states of the runs all of whose steps meet a
condition on the state before the step and the event.
-/

namespace ConditionedRun

variable {State Event Output : Type*}

/-- Execute the events in order; `none` when one of the steps never returns. -/
def run (step : State → Event → Option (State × List Output)) :
    State → List Event → Option (State × List Output)
  | state, [] => some (state, [])
  | state, event :: events =>
      (step state event).bind fun next =>
        (run step next.1 events).map fun last =>
          (last.1, next.2 ++ last.2)

/-- The states reached by runs whose every step meets `Allowed`. -/
inductive Reachable
    (step : State → Event → Option (State × List Output))
    (Allowed : State → Event → Prop) (initial : State) : State → Prop
  | start : Reachable step Allowed initial initial
  | next {state after : State} {event : Event} {output : List Output} :
      Reachable step Allowed initial state →
      Allowed state event →
      step state event = some (after, output) →
      Reachable step Allowed initial after

variable {step : State → Event → Option (State × List Output)}
  {Allowed : State → Event → Prop} {initial : State}

theorem Reachable.after {state next : State}
    (hreach : Reachable step Allowed initial state)
    (event : Event) (output : List Output) (hallowed : Allowed state event)
    (hnext : step state event = some (next, output)) :
    Reachable step Allowed initial next :=
  .next hreach hallowed hnext

theorem Reachable.invariant {Good : State → Prop}
    (hinitial : Good initial)
    (hstep : ∀ state event after output, Good state →
      Allowed state event → step state event = some (after, output) →
      Good after)
    {state : State} (hreach : Reachable step Allowed initial state) :
    Good state := by
  induction hreach with
  | start => exact hinitial
  | next _ hallowed hnext ih => exact hstep _ _ _ _ ih hallowed hnext

theorem Reachable.mono {Stronger : State → Event → Prop}
    (himp : ∀ state event, Stronger state event → Allowed state event)
    {state : State} (hreach : Reachable step Stronger initial state) :
    Reachable step Allowed initial state := by
  induction hreach with
  | start => exact .start
  | next _ hallowed hnext ih => exact .next ih (himp _ _ hallowed) hnext

def guarded (step : State → Event → Option (State × List Output))
    (Allowed : State → Event → Prop)
    [∀ state event, Decidable (Allowed state event)] (state : State)
    (event : Event) : Option (State × List Output) :=
  if Allowed state event then step state event else none

theorem reachable_of_guarded [∀ state event, Decidable (Allowed state event)]
    {events : List Event} {state last : State} {output : List Output}
    (hreach : Reachable step Allowed initial state)
    (hrun : run (guarded step Allowed) state events = some (last, output)) :
    Reachable step Allowed initial last := by
  induction events generalizing state output with
  | nil =>
      simp only [run, Option.some.injEq, Prod.mk.injEq] at hrun
      rw [← hrun.1]
      exact hreach
  | cons event events ih =>
      simp only [run, Option.bind_eq_some_iff, Option.map_eq_some_iff] at hrun
      obtain ⟨next, hnext, rest, hrest, heq⟩ := hrun
      have hlast : rest.1 = last := congrArg Prod.fst heq
      subst hlast
      unfold guarded at hnext
      split at hnext
      · next hallowed => exact ih (.next hreach hallowed hnext) hrest
      · cases hnext

theorem reachable_of_run {events : List Event} {state last : State}
    {output : List Output}
    (hreach : Reachable step (fun _ _ => True) initial state)
    (hrun : run step state events = some (last, output)) :
    Reachable step (fun _ _ => True) initial last := by
  have hguarded : guarded step (fun _ _ => True) = step := by
    funext state event
    exact if_pos trivial
  rw [← hguarded] at hrun
  exact reachable_of_guarded hreach hrun

end ConditionedRun
