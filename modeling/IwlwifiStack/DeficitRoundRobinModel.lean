import IwlwifiStack.CodelQueue

/-!
# Dequeueing by deficit round robin

`fq_tin_dequeue` with `fq_tin_dequeue_func`, that is with CoDel on every flow.
One round of its `begin` loop either returns or moves the first flow of the
tin; the rounds are also the steps of a run, between all other calls.
-/

namespace IwlwifiStack

variable {α : Type*}

/-- The queues, their log, and CoDel's variables for each flow (`cvars` and
`def_cvars`) and its statistics for each tin. -/
structure FairState (α : Type*) where
  run : FqRun α
  vars : FqFlowId → CodelVars
  stats : ℕ → CodelStats

/-- What `fq_tin_dequeue` leaves, and the packet it returns with a mark set by
CoDel. -/
structure Dequeued (α : Type*) where
  state : FairState α
  packet : Option (FlowPacket α)
  marked : Bool

namespace FairState

def setFq (st : FairState α) (fq : Fq α) : FairState α :=
  { st with run := { st.run with fq := fq } }

/-- The variables that `codel_dequeue` leaves. -/
def setCodel (st : FairState α) (t : ℕ) (id : FqFlowId)
    (head : CodelHead α) : FairState α :=
  { st with
    vars := Function.update st.vars id head.vars
    stats := Function.update st.stats t head.stats }

/-- The deficit is used up. -/
def refilled (st : FairState α) (t : ℕ) (id : FqFlowId) : FairState α :=
  st.setFq (st.run.fq.refillFlow t id)

/-- `dequeue_func` found no packet. -/
def passed (st : FairState α) (t : ℕ) (id : FqFlowId)
    (head : CodelHead α) : FairState α :=
  let released : Fq.Released α :=
    ⟨[], head.freed, head.fq.passFlow t id⟩
  { st.setCodel t id head with run := (st.run.record released).1 }

/-- `dequeue_func` found this packet. -/
def sent (st : FairState α) (t : ℕ) (id : FqFlowId) (head : CodelHead α)
    (skb : FqSkb α) : FairState α :=
  let released : Fq.Released α :=
    ⟨[(id, skb)], head.freed, head.fq.countSent t id skb⟩
  { st.setCodel t id head with run := (st.run.record released).1 }

/-- One round of the loop of `fq_tin_dequeue`; `none` in place of a result
when CoDel does not return. -/
def round (env : CodelEnv α) (t : ℕ) (st : FairState α) :
    Option (Dequeued α) ⊕ FairState α :=
  match (st.run.fq.tins t).firstFlow with
  | none => .inl (some ⟨st, none, false⟩)
  | some id =>
      if (st.run.fq.flows id).deficit ≤ 0 then .inr (st.refilled t id)
      else
        match env.codelDequeue st.run.fq id (st.vars id) (st.stats t) with
        | none => .inl none
        | some head =>
            match head.skb with
            | none => .inr (st.passed t id head)
            | some skb =>
                .inl (some ⟨st.sent t id head skb, some (id, skb),
                  head.marked⟩)

/-- `fq_tin_dequeue`; `none` when it has not returned after `rounds`. -/
def fqTinDequeue (env : CodelEnv α) (t rounds : ℕ) (st : FairState α) :
    Option (Dequeued α) :=
  (FuelLoop.run (round env t) rounds st).join

/-- The state after `fq_init`. -/
def initial (flowsCnt : BitVec 32) : FairState α where
  run := .initial flowsCnt
  vars := fun _ => .init
  stats := fun _ => .init

end FairState

/-- A round of `fq_tin_dequeue` on a tin, at this time, or another call. -/
inductive FairEvent (α : Type*)
  | round (tin : ℕ) (now : BitVec 32)
  | enqueue (tin : ℕ) (hash : BitVec 32) (skb : FqSkb α)
      (next : List (FqSkb α)) (rounds : ℕ)
  | filter (tin : ℕ) (chosen : FqFlowId → FqSkb α → Bool)
  | reset (tin : ℕ)
  | setParams (limit memoryLimit quantum : BitVec 32)

/-- The call on the queues alone. -/
def FairEvent.call : FairEvent α → Option (FqCall α)
  | .round _ _ => none
  | .enqueue t hash skb next rounds =>
      some (.enqueue t hash skb next rounds)
  | .filter t chosen => some (.filter t chosen)
  | .reset t => some (.reset t)
  | .setParams limit memoryLimit quantum =>
      some (.setParams limit memoryLimit quantum)

namespace FairState

/-- One event, with the packets it returns. -/
def step (numTins : ℕ) (env : CodelEnv α) (st : FairState α) :
    FairEvent α → Option (FairState α × List (FlowPacket α))
  | .round t now =>
      if t < numTins then
        match st.round { env with now := now } t with
        | .inl none => none
        | .inl (some result) => some (result.state, result.packet.toList)
        | .inr next => some (next, [])
      else none
  | event =>
      event.call.bind fun call =>
        (st.run.step numTins call).map fun next =>
          ({ st with run := next.1 }, next.2)

/-- The packets of an enqueue are not empty, and the counters have room. -/
def Admitted (numTins : ℕ) (st : FairState α) (event : FairEvent α) : Prop :=
  ∀ call, event.call = some call → st.run.Admitted numTins call

/-- The states of all runs with admitted events, also inside of
`fq_tin_dequeue`. -/
def Reaches (numTins : ℕ) (env : CodelEnv α) (flowsCnt : BitVec 32)
    (st : FairState α) : Prop :=
  ConditionedRun.Reachable (step numTins env) (Admitted numTins)
    (initial flowsCnt) st

end FairState

end IwlwifiStack
