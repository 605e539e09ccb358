import IwlwifiStack.ConditionedRun

/-!
# What an observer makes of a run

A run leaves a trace: the state before each step, the event and what was put out.  An
observer that reads the output knows a part of the state if each step keeps it informed.
-/

namespace ObservedRun

variable {State Event Output Seen : Type*}

/-- The runs whose every step meets `Allowed`, with the trace they leave. -/
inductive Traced
    (step : State → Event → Option (State × List Output))
    (Allowed : State → Event → Prop) (initial : State) :
    List (State × Event × List Output) → State → Prop
  | start : Traced step Allowed initial [] initial
  | next {past : List (State × Event × List Output)} {state after : State} {event : Event}
      {output : List Output} :
      Traced step Allowed initial past state →
      Allowed state event →
      step state event = some (after, output) →
      Traced step Allowed initial (past ++ [(state, event, output)]) after

def outputs (past : List (State × Event × List Output)) : List Output :=
  past.flatMap fun entry => entry.2.2

theorem outputs_snoc (past : List (State × Event × List Output)) (state : State) (event : Event)
    (output : List Output) :
    outputs (past ++ [(state, event, output)]) = outputs past ++ output := by
  simp [outputs]

variable {step : State → Event → Option (State × List Output)}
  {Allowed : State → Event → Prop} {initial : State}

theorem Traced.run {events : List Event} {past : List (State × Event × List Output)}
    {state last : State} {output : List Output}
    (hpast : Traced step (fun _ _ => True) initial past state)
    (hrun : ConditionedRun.run step state events = some (last, output)) :
    ∃ whole, Traced step (fun _ _ => True) initial whole last ∧
      outputs whole = outputs past ++ output := by
  induction events generalizing past state output with
  | nil =>
      simp only [ConditionedRun.run, Option.some.injEq, Prod.mk.injEq] at hrun
      rw [← hrun.1, ← hrun.2]
      exact ⟨past, hpast, (List.append_nil _).symm⟩
  | cons event events ih =>
      simp only [ConditionedRun.run, Option.bind_eq_some_iff, Option.map_eq_some_iff] at hrun
      rcases hrun with ⟨next, hnext, rest, hrest, heq⟩
      have hlast : rest.1 = last := congrArg Prod.fst heq
      have hout : next.2 ++ rest.2 = output := congrArg Prod.snd heq
      subst hlast
      rcases ih (.next hpast trivial hnext) hrest with ⟨whole, hwhole, houtputs⟩
      refine ⟨whole, hwhole, ?_⟩
      rw [houtputs, outputs_snoc, List.append_assoc, hout]

theorem Traced.invariant {Good : List (State × Event × List Output) → State → Prop}
    (hinitial : Good [] initial)
    (hstep : ∀ past state event after output, Good past state → Allowed state event →
      step state event = some (after, output) → Good (past ++ [(state, event, output)]) after)
    {past : List (State × Event × List Output)} {state : State}
    (hrun : Traced step Allowed initial past state) : Good past state := by
  induction hrun with
  | start => exact hinitial
  | next _ hallowed hnext ih => exact hstep _ _ _ _ _ ih hallowed hnext

theorem Traced.informed {read : Seen → Output → Option Seen} {seen : State → Seen}
    {Good : State → Prop} (hinitial : Good initial)
    (hgood : ∀ state event after output, Good state → Allowed state event →
      step state event = some (after, output) → Good after)
    (hread : ∀ state event after output, Good state → Allowed state event →
      step state event = some (after, output) →
        output.foldlM read (seen state) = some (seen after))
    {past : List (State × Event × List Output)} {state : State}
    (hrun : Traced step Allowed initial past state) :
    (outputs past).foldlM read (seen initial) = some (seen state) := by
  have hstart : Good initial ∧
      (outputs ([] : List (State × Event × List Output))).foldlM read (seen initial) =
        some (seen initial) := ⟨hinitial, rfl⟩
  refine (@Traced.invariant State Event Output step Allowed initial
    (fun past state => Good state ∧ (outputs past).foldlM read (seen initial) = some (seen state))
    hstart ?_ past state hrun).2
  rintro past state event after output ⟨hstate, hseen⟩ hallowed hnext
  refine ⟨hgood _ _ _ _ hstate hallowed hnext, ?_⟩
  rw [outputs_snoc, List.foldlM_append, hseen]
  exact hread _ _ _ _ hstate hallowed hnext

end ObservedRun
