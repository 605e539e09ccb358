import IwlwifiStack.DeficitRoundRobinModel

/-!
# A call of `fq_tin_dequeue`

Every round that does not return moves a flow towards the old list, raises a
deficit that is not positive, or takes an empty flow off the lists.  Hence the
call returns, with nothing only if no flow of the tin holds a packet.
-/

namespace IwlwifiStack

variable {α : Type*} {numTins t : ℕ} {fq : Fq α} {id : FqFlowId}

/-! ## Deficits and the books -/

def Fq.withDeficits (fq : Fq α) (quantum : ℕ) (deficits : FqFlowId → ℤ) :
    Fq α :=
  { fq with
    quantum := quantum
    flows := fun id => { fq.flows id with deficit := deficits id } }

theorem FqGood.withDeficits (hgood : FqGood numTins fq) (quantum : ℕ)
    (deficits : FqFlowId → ℤ) :
    FqGood numTins (fq.withDeficits quantum deficits) := by
  constructor
  · exact hgood.flowsCnt_pos
  · exact hgood.backlog_eq
  · exact hgood.len_pos
  · exact hgood.queue_owned
  · exact hgood.linked_eq
  · exact hgood.owner
  · exact hgood.listed_nodup
  · exact hgood.mem_listed
  · exact hgood.tin_bytes
  · exact hgood.tin_packets
  · exact hgood.backlog_total
  · exact hgood.memoryUsage_total
  · exact hgood.marked_iff
  · exact hgood.tinBacklog_nodup
  · exact hgood.tinBacklog_lt
  · exact hgood.bytes_lt
  · exact hgood.packets_lt
  · exact hgood.truesize_lt

/-- The packet that CoDel returns leaves the head of the queue, behind those
it freed. -/
theorem CodelHead.Holds.releases {head : CodelHead α} {skb : FqSkb α}
    {rest : List (FqSkb α)} (hholds : head.Holds numTins fq id skb rest) :
    Releases numTins fq ⟨[(id, skb)], head.freed, head.fq⟩ := by
  obtain ⟨dropped, hqueue, hfreed⟩ := hholds.queue_eq
  have hself := hholds.removes.queue_self
  refine ⟨hholds.removes.good, ⟨?_, ?_⟩, hholds.removes.links⟩
  · intro other
    by_cases hother : other = id
    · subst other
      rw [hself, hqueue]
      have hsent : ofFlow id [(id, skb)] = [skb] := by
        simp [ofFlow]
      rw [hsent]
      exact List.sublist_append_right dropped (skb :: rest)
    · rw [hholds.removes.queue_other hother]
      simp [ofFlow, Ne.symm hother]
  · intro other
    rw [hfreed]
    by_cases hother : other = id
    · subst other
      have hsent : ofFlow id [(id, skb)] = [skb] := by
        simp [ofFlow]
      rw [hself, hqueue, ofFlow_map_self, hsent, ← List.singleton_append,
        ← Multiset.coe_add, ← Multiset.coe_add]
      abel
    · rw [hholds.removes.queue_other hother, ofFlow_map_other hother]
      simp [ofFlow, Ne.symm hother]

theorem firstFlow_listed (hgood : FqGood numTins fq) (ht : t < numTins)
    (hfirst : (fq.tins t).firstFlow = some id) :
    id ∈ fq.flowIds numTins ∧ (fq.flows id).tin = some t := by
  apply (hgood.mem_listed t ht id).mp
  rw [FqTin.listed_firstFlow hfirst]
  exact List.mem_cons_self

theorem queue_refillFlow (fq : Fq α) (t : ℕ) (id other : FqFlowId) :
    ((fq.refillFlow t id).flows other).queue =
      (fq.flows other).queue := by
  unfold Fq.refillFlow
  apply queue_setFlow
  rfl

theorem queue_countSent (fq : Fq α) (t : ℕ) (id other : FqFlowId)
    (skb : FqSkb α) :
    ((fq.countSent t id skb).flows other).queue =
      (fq.flows other).queue := by
  unfold Fq.countSent
  apply queue_setFlow
  rfl

/-! ## One round -/

namespace FairState

variable {env : CodelEnv α} {st next : FairState α}

/-- What one round can do. -/
inductive Round (numTins : ℕ) (t : ℕ) (st : FairState α) :
    Option (Dequeued α) ⊕ FairState α → Prop
  | empty (hfirst : (st.run.fq.tins t).firstFlow = none) :
      Round numTins t st (.inl (some ⟨st, none, false⟩))
  | refill (id : FqFlowId)
      (hfirst : (st.run.fq.tins t).firstFlow = some id)
      (hdeficit : (st.run.fq.flows id).deficit ≤ 0) :
      Round numTins t st (.inr (st.refilled t id))
  | pass (id : FqFlowId) (head : CodelHead α)
      (hfirst : (st.run.fq.tins t).firstFlow = some id)
      (hdeficit : 0 < (st.run.fq.flows id).deficit)
      (hqueue : (st.run.fq.flows id).queue = [])
      (hfq : head.fq = st.run.fq) (hfreed : head.freed = []) :
      Round numTins t st (.inr (st.passed t id head))
  | send (id : FqFlowId) (head : CodelHead α) (skb : FqSkb α)
      (rest : List (FqSkb α))
      (hfirst : (st.run.fq.tins t).firstFlow = some id)
      (hdeficit : 0 < (st.run.fq.flows id).deficit)
      (hholds : head.Holds numTins st.run.fq id skb rest) :
      Round numTins t st (.inl (some
        ⟨st.sent t id head skb, some (id, skb), head.marked⟩))

theorem round_spec (env : CodelEnv α) (hgood : FqGood numTins st.run.fq)
    (ht : t < numTins) : Round numTins t st (st.round env t) := by
  unfold round
  cases hfirst : (st.run.fq.tins t).firstFlow with
  | none => exact .empty hfirst
  | some id =>
      obtain ⟨hid, htin⟩ := firstFlow_listed hgood ht hfirst
      dsimp only
      by_cases hdeficit : (st.run.fq.flows id).deficit ≤ 0
      · rw [if_pos hdeficit]
        exact .refill id hfirst hdeficit
      · rw [if_neg hdeficit]
        by_cases hqueue : (st.run.fq.flows id).queue = []
        · rw [codelDequeue_nil env _ _ hqueue]
          exact .pass id _ hfirst (by omega) hqueue rfl rfl
        · obtain ⟨head, skb, rest, hhead, hholds⟩ :=
            hgood.codelDequeue_some env (st.vars id) (st.stats t) hid htin
              hqueue
          rw [hhead]
          dsimp only
          rw [hholds.skb_eq]
          exact .send id head skb rest hfirst (by omega) hholds

theorem refilled_good (hrun : st.run.Good numTins) (ht : t < numTins)
    (hfirst : (st.run.fq.tins t).firstFlow = some id) :
    (st.refilled t id).run.Good numTins := by
  obtain ⟨hid, htin⟩ := firstFlow_listed hrun.good ht hfirst
  have hqueue : ∀ other, ((st.refilled t id).run.fq.flows other).queue =
      (st.run.fq.flows other).queue :=
    queue_refillFlow st.run.fq t id
  refine ⟨hrun.good.refillFlow hid htin hfirst, ?_, ?_⟩
  · intro other
    rw [hqueue]
    exact hrun.fifo other
  · intro other
    rw [hqueue]
    exact hrun.conserved other

theorem passed_good {head : CodelHead α} (hrun : st.run.Good numTins)
    (ht : t < numTins) (hfirst : (st.run.fq.tins t).firstFlow = some id)
    (hqueue : (st.run.fq.flows id).queue = []) (hfq : head.fq = st.run.fq)
    (hfreed : head.freed = []) :
    (st.passed t id head).run.Good numTins := by
  obtain ⟨hid, htin⟩ := firstFlow_listed hrun.good ht hfirst
  rw [passed, hfq, hfreed]
  apply hrun.record (hrun.good.passFlow hid htin hfirst hqueue)
  exact (Moves.none st.run.fq).congr fun other => queue_passFlow other

theorem sent_good {head : CodelHead α} {skb : FqSkb α}
    {rest : List (FqSkb α)} (hrun : st.run.Good numTins) (ht : t < numTins)
    (hfirst : (st.run.fq.tins t).firstFlow = some id)
    (hholds : head.Holds numTins st.run.fq id skb rest) :
    (st.sent t id head skb).run.Good numTins := by
  obtain ⟨hid, htin⟩ := firstFlow_listed hrun.good ht hfirst
  have hreleases := hholds.releases
  apply hrun.record
  · refine hreleases.good.reorder ?_ ((hreleases.links.tin_eq id).trans htin)
      (List.Perm.refl _) ⟨rfl, rfl⟩ rfl rfl rfl rfl
    rw [hreleases.links.flowIds_eq]
    exact hid
  · exact hreleases.moves.congr (queue_setFlow rfl)

theorem step_good {event : FairEvent α} {output : List (FlowPacket α)}
    (hrun : st.run.Good numTins) (hadmitted : st.Admitted numTins event)
    (hstep : st.step numTins env event = some (next, output)) :
    next.run.Good numTins := by
  have hcall : ∀ call, event.call = some call →
      st.step numTins env event = (st.run.step numTins call).map
        (fun next => ({ st with run := next.1 }, next.2)) →
      next.run.Good numTins := by
    intro call hevent heq
    rw [heq, Option.map_eq_some_iff] at hstep
    obtain ⟨after, hafter, hnext⟩ := hstep
    have hgood := hrun.afterStep (hadmitted call hevent) hafter
    rw [← (Prod.mk.inj hnext).1]
    exact hgood
  cases event with
  | round t now =>
      simp only [step, Option.ite_none_right_eq_some] at hstep
      obtain ⟨ht, hround⟩ := hstep
      have hspec := round_spec { env with now := now } hrun.good ht
      generalize hresult : st.round { env with now := now } t = result
        at hspec hround
      cases hspec with
      | empty hfirst =>
          simp only [Option.some.injEq, Prod.mk.injEq] at hround
          rw [← hround.1]
          exact hrun
      | refill id hfirst hdeficit =>
          simp only [Option.some.injEq, Prod.mk.injEq] at hround
          rw [← hround.1]
          exact refilled_good hrun ht hfirst
      | pass id head hfirst hdeficit hqueue hfq hfreed =>
          simp only [Option.some.injEq, Prod.mk.injEq] at hround
          rw [← hround.1]
          exact passed_good hrun ht hfirst hqueue hfq hfreed
      | send id head skb rest hfirst hdeficit hholds =>
          simp only [Option.some.injEq, Prod.mk.injEq] at hround
          rw [← hround.1]
          exact sent_good hrun ht hfirst hholds
  | enqueue t hash skb more rounds => exact hcall _ rfl rfl
  | filter t chosen => exact hcall _ rfl rfl
  | reset t => exact hcall _ rfl rfl
  | setParams limit memoryLimit quantum => exact hcall _ rfl rfl

theorem Reaches.good {flowsCnt : BitVec 32}
    (hreach : Reaches numTins env flowsCnt st) : st.run.Good numTins := by
  apply @ConditionedRun.Reachable.invariant _ _ _ _ _ _
    (fun st : FairState α => st.run.Good numTins) _ _ _ hreach
  · exact FqRun.initial_good numTins flowsCnt
  · intro _ _ _ _ hrun hadmitted hstep
    exact step_good hrun hadmitted hstep

end FairState

/-! ## The loop -/

/-- The value of an `int`. -/
def IsInt32 (x : ℤ) : Prop := -2 ^ 31 ≤ x ∧ x < 2 ^ 31

theorem toInt32_eq {x : ℤ} (hx : IsInt32 x) : toInt32 x = x := by
  unfold IsInt32 at hx
  apply Int.bmod_eq_of_le_mul_two
  · omega
  · omega

/-- A deficit that is not positive has to be raised to one; every flow may
leave the lists, and every new flow may become an old one. -/
def Fq.deficitWork (fq : Fq α) (t : ℕ) : ℕ :=
  ((fq.tins t).listed.map fun id => (1 - (fq.flows id).deficit).toNat).sum +
    (fq.tins t).listed.length + (fq.tins t).newFlows.length

theorem FqTin.delFirst_newFlows (tin : FqTin) :
    tin.delFirst.newFlows.length ≤ tin.newFlows.length ∧
      (tin.newFlows ≠ [] →
        tin.delFirst.newFlows.length < tin.newFlows.length) := by
  unfold delFirst
  cases hnew : tin.newFlows with
  | nil =>
      exact ⟨le_refl 0, fun hne => absurd rfl hne⟩
  | cons id rest =>
      simp only [List.length_cons]
      exact ⟨by omega, fun _ => by omega⟩

theorem deficitWork_refill (hgood : FqGood numTins fq) (ht : t < numTins)
    (hfirst : (fq.tins t).firstFlow = some id) (hquantum : 1 ≤ fq.quantum)
    (hlt : fq.quantum < 2 ^ 31) (hdeficit : (fq.flows id).deficit ≤ 0)
    (hrange : IsInt32 (fq.flows id).deficit) :
    (fq.refillFlow t id).deficitWork t < fq.deficitWork t := by
  have hperm := FqTin.moveFirst_perm hfirst
  have hlisted := FqTin.listed_firstFlow hfirst
  have hnodup := hgood.listed_nodup t ht
  rw [hlisted, List.nodup_cons] at hnodup
  have hraised : toInt32 ((fq.flows id).deficit + fq.quantum) =
      (fq.flows id).deficit + fq.quantum := by
    unfold IsInt32 at hrange
    apply toInt32_eq
    constructor <;> omega
  have hrest : (fq.tins t).delFirst.listed.map
        (fun other =>
          (1 - ((fq.refillFlow t id).flows other).deficit).toNat) =
      (fq.tins t).delFirst.listed.map
        fun other => (1 - (fq.flows other).deficit).toNat := by
    apply List.map_congr_left
    intro other hother
    have hne : other ≠ id := fun heq => hnodup.1 (heq ▸ hother)
    simp only [Fq.refillFlow, Fq.setFlow, Fq.setTin,
      Function.update_of_ne hne]
  have hself : ((fq.refillFlow t id).flows id).deficit =
      (fq.flows id).deficit + fq.quantum := by
    rw [← hraised]
    simp only [Fq.refillFlow, Fq.setFlow, Function.update_self]
  have htin : (fq.refillFlow t id).tins t = (fq.tins t).moveFirst id := by
    simp only [Fq.refillFlow, Fq.setFlow, Fq.setTin, Function.update_self]
  have hnew : ((fq.tins t).moveFirst id).newFlows =
      (fq.tins t).delFirst.newFlows := rfl
  have hle := (fq.tins t).delFirst_newFlows.1
  unfold Fq.deficitWork
  rw [htin, (hperm.map _).sum_eq, hperm.length_eq, hlisted, List.map_cons,
    List.map_cons, List.sum_cons, List.sum_cons, hrest, hself, hnew]
  omega

theorem deficitWork_pass (hfirst : (fq.tins t).firstFlow = some id) :
    (fq.passFlow t id).deficitWork t < fq.deficitWork t := by
  have hperm := FqTin.moveFirst_perm hfirst
  have hlisted := FqTin.listed_firstFlow hfirst
  have hdel := (fq.tins t).delFirst_newFlows
  unfold Fq.deficitWork Fq.passFlow
  dsimp only
  by_cases hmove : (fq.tins t).newFlows ≠ [] ∧ (fq.tins t).oldFlows ≠ []
  · rw [if_pos hmove]
    simp only [Fq.setTin, Function.update_self]
    rw [(hperm.map _).sum_eq, hperm.length_eq]
    have hnew : ((fq.tins t).moveFirst id).newFlows =
        (fq.tins t).delFirst.newFlows := rfl
    have hlt := hdel.2 hmove.1
    rw [hnew]
    omega
  · rw [if_neg hmove]
    have hdeficit : ∀ other,
        (Function.update fq.flows id
          { fq.flows id with linked := false, tin := none } other).deficit =
          (fq.flows other).deficit := by
      intro other
      by_cases hother : other = id
      · subst other
        rw [Function.update_self]
      · rw [Function.update_of_ne hother]
    have hle := hdel.1
    simp only [Fq.setFlow, Fq.setTin, Function.update_self, hdeficit]
    rw [hlisted, List.map_cons, List.sum_cons, List.length_cons]
    omega

namespace FairState

variable {env : CodelEnv α} {quantum : ℕ} {start st next : FairState α}

/-- At the head of the loop of `fq_tin_dequeue` nothing has left the queues
since the call began. -/
structure Ready (numTins t quantum : ℕ) (start st : FairState α) :
    Prop where
  good : FqGood numTins st.run.fq
  quantum_eq : st.run.fq.quantum = quantum
  range : ∀ id, IsInt32 (st.run.fq.flows id).deficit
  flowsCnt_eq : st.run.fq.flowsCnt = start.run.fq.flowsCnt
  queue_eq : ∀ id,
    (st.run.fq.flows id).queue = (start.run.fq.flows id).queue
  tin_eq : ∀ id, (st.run.fq.flows id).queue ≠ [] →
    (st.run.fq.flows id).tin = (start.run.fq.flows id).tin
  owned : ∀ id, (st.run.fq.flows id).tin = some t →
    (start.run.fq.flows id).tin = some t
  freed_eq : st.run.freed = start.run.freed

theorem Ready.refill (hready : Ready numTins t quantum start st)
    (ht : t < numTins) (hfirst : (st.run.fq.tins t).firstFlow = some id)
    (hlt : quantum < 2 ^ 31) (hdeficit : (st.run.fq.flows id).deficit ≤ 0) :
    Ready numTins t quantum start (st.refilled t id) := by
  obtain ⟨hid, htin⟩ := firstFlow_listed hready.good ht hfirst
  have hqueue := queue_refillFlow st.run.fq t id
  have hflow : ∀ other,
      ((st.refilled t id).run.fq.flows other).tin =
          (st.run.fq.flows other).tin ∧
        IsInt32 ((st.refilled t id).run.fq.flows other).deficit := by
    intro other
    by_cases hother : other = id
    · subst other
      have hrange := hready.range id
      have hquantum := hready.quantum_eq
      unfold IsInt32 at hrange
      simp only [refilled, setFq, Fq.refillFlow, Fq.setFlow,
        Function.update_self, true_and]
      rw [toInt32_eq]
      · constructor <;> omega
      · constructor <;> omega
    · simp only [refilled, setFq, Fq.refillFlow, Fq.setFlow, Fq.setTin,
        Function.update_of_ne hother, true_and]
      exact hready.range other
  constructor
  · exact hready.good.refillFlow hid htin hfirst
  · exact hready.quantum_eq
  · exact fun other => (hflow other).2
  · exact hready.flowsCnt_eq
  · exact fun other => (hqueue other).trans (hready.queue_eq other)
  · intro other hne
    rw [(hflow other).1]
    exact hready.tin_eq other ((hqueue other) ▸ hne)
  · intro other hother
    rw [(hflow other).1] at hother
    exact hready.owned other hother
  · exact hready.freed_eq

theorem Ready.pass {head : CodelHead α}
    (hready : Ready numTins t quantum start st) (ht : t < numTins)
    (hfirst : (st.run.fq.tins t).firstFlow = some id)
    (hempty : (st.run.fq.flows id).queue = [])
    (hfq : head.fq = st.run.fq) (hfreed : head.freed = []) :
    Ready numTins t quantum start (st.passed t id head) := by
  obtain ⟨hid, htin⟩ := firstFlow_listed hready.good ht hfirst
  have hfq' : (st.passed t id head).run.fq = st.run.fq.passFlow t id := by
    rw [← hfq]
    rfl
  have hqueue := @queue_passFlow α t st.run.fq id
  have hother : ∀ other,
      ((st.run.fq.passFlow t id).flows other).deficit =
          (st.run.fq.flows other).deficit ∧
        (((st.run.fq.passFlow t id).flows other).tin =
            (st.run.fq.flows other).tin ∨
          other = id ∧
            ((st.run.fq.passFlow t id).flows other).tin = none) := by
    intro other
    simp only [Fq.passFlow]
    split
    · exact ⟨rfl, Or.inl rfl⟩
    · by_cases heq : other = id
      · subst other
        simp only [Fq.setFlow, Fq.setTin, Function.update_self]
        exact ⟨trivial, Or.inr ⟨trivial, trivial⟩⟩
      · simp only [Fq.setFlow, Fq.setTin, Function.update_of_ne heq]
        exact ⟨trivial, Or.inl trivial⟩
  have hparams : (st.run.fq.passFlow t id).quantum = st.run.fq.quantum ∧
      (st.run.fq.passFlow t id).flowsCnt = st.run.fq.flowsCnt := by
    simp only [Fq.passFlow]
    split <;> exact ⟨rfl, rfl⟩
  constructor
  · rw [hfq']
    exact hready.good.passFlow hid htin hfirst hempty
  · rw [hfq', hparams.1]
    exact hready.quantum_eq
  · intro other
    rw [hfq', (hother other).1]
    exact hready.range other
  · rw [hfq', hparams.2]
    exact hready.flowsCnt_eq
  · intro other
    rw [hfq', hqueue]
    exact hready.queue_eq other
  · intro other hne
    rw [hfq', hqueue] at hne
    rw [hfq']
    rcases (hother other).2 with heq | ⟨rfl, -⟩
    · rw [heq]
      exact hready.tin_eq other hne
    · exact absurd hempty hne
  · intro other howner
    rw [hfq'] at howner
    rcases (hother other).2 with heq | ⟨-, hnone⟩
    · rw [heq] at howner
      exact hready.owned other howner
    · rw [hnone] at howner
      cases howner
  · have hlog : (st.passed t id head).run.freed =
        st.run.freed ++ head.freed := rfl
    rw [hlog, hfreed, List.append_nil]
    exact hready.freed_eq

theorem Ready.round (hready : Ready numTins t quantum start st)
    (ht : t < numTins) (hquantum : 1 ≤ quantum) (hlt : quantum < 2 ^ 31)
    (hround : st.round env t = .inr next) :
    Ready numTins t quantum start next ∧
      next.run.fq.deficitWork t < st.run.fq.deficitWork t := by
  have hspec := round_spec env hready.good ht
  rw [hround] at hspec
  generalize hresult : (Sum.inr next : Option (Dequeued α) ⊕ FairState α) =
    result at hspec
  have heq := hready.quantum_eq
  cases hspec with
  | empty hfirst => cases hresult
  | send id head skb rest hfirst hdeficit hholds => cases hresult
  | refill id hfirst hdeficit =>
      cases hresult
      refine ⟨hready.refill ht hfirst hlt hdeficit, ?_⟩
      exact deficitWork_refill hready.good ht hfirst (by omega) (by omega)
        hdeficit (hready.range id)
  | pass id head hfirst hdeficit hqueue hfq hfreed =>
      cases hresult
      refine ⟨hready.pass ht hfirst hqueue hfq hfreed, ?_⟩
      have hwork := deficitWork_pass hfirst
      rw [← hfq] at hwork ⊢
      exact hwork

theorem Ready.reached (hready : Ready numTins t quantum start start)
    (ht : t < numTins) (hquantum : 1 ≤ quantum) (hlt : quantum < 2 ^ 31)
    (hreached : FuelLoop.Reached (FairState.round env t) start st) :
    Ready numTins t quantum start st := by
  apply hreached.invariant (Ready numTins t quantum start) hready
  intro head next _ hhead hround
  exact (hhead.round ht hquantum hlt hround).1

end FairState

theorem FqTin.firstFlow_none {tin : FqTin} (hfirst : tin.firstFlow = none) :
    tin.listed = [] := by
  unfold firstFlow at hfirst
  cases hnew : tin.newFlows with
  | nil =>
      simp only [hnew] at hfirst
      rw [listed, hnew, List.head?_eq_none_iff.mp hfirst]
      rfl
  | cons id rest =>
      simp only [hnew] at hfirst
      cases hfirst

namespace FairState

variable {env : CodelEnv α} {quantum : ℕ} {start : FairState α}

/-- What `fq_tin_dequeue` returns: nothing when the tin holds nothing, and
otherwise the oldest packet of a flow of the tin that CoDel did not free. -/
structure Returns (numTins t : ℕ) (start : FairState α)
    (result : Dequeued α) : Prop where
  none_iff : result.packet = none ↔ ∀ id ∈ start.run.fq.flowIds numTins,
    (start.run.fq.flows id).tin = some t → (start.run.fq.flows id).queue = []
  oldest : ∀ id skb, result.packet = some (id, skb) →
    id ∈ start.run.fq.flowIds numTins ∧
    (start.run.fq.flows id).tin = some t ∧
    ∃ dropped, (start.run.fq.flows id).queue =
        dropped ++ skb :: (result.state.run.fq.flows id).queue ∧
      result.state.run.freed =
        start.run.freed ++ dropped.map fun skb => (id, skb)

theorem Ready.returns {st : FairState α} {result : Option (Dequeued α)}
    (hready : Ready numTins t quantum start st) (ht : t < numTins)
    (hdone : st.round env t = .inl result) :
    ∃ dequeued, result = some dequeued ∧
      Returns numTins t start dequeued := by
  have hspec := round_spec env hready.good ht
  rw [hdone] at hspec
  have hids : st.run.fq.flowIds numTins = start.run.fq.flowIds numTins := by
    rw [Fq.flowIds, hready.flowsCnt_eq, ← Fq.flowIds]
  cases hspec with
  | empty hfirst =>
      refine ⟨_, rfl, ⟨fun _ => ?_, fun _ => rfl⟩, ?_⟩
      · intro id hid htin
        by_contra hqueue
        rw [← hids] at hid
        rw [← hready.queue_eq id] at hqueue
        rw [← hready.tin_eq id hqueue] at htin
        have hlisted := (hready.good.mem_listed t ht id).mpr ⟨hid, htin⟩
        rw [FqTin.firstFlow_none hfirst] at hlisted
        cases hlisted
      · intro id skb hpacket
        cases hpacket
  | send id head skb rest hfirst hdeficit hholds =>
      obtain ⟨hid, htin⟩ := firstFlow_listed hready.good ht hfirst
      obtain ⟨dropped, hqueue, hfreed⟩ := hholds.queue_eq
      have howner := hready.owned id htin
      rw [hids] at hid
      refine ⟨_, rfl, ⟨?_, ?_⟩, ?_⟩
      · intro hnone
        cases hnone
      · intro hempty
        have hnil := hempty id hid howner
        rw [← hready.queue_eq id, hqueue] at hnil
        exact absurd hnil (List.append_ne_nil_of_right_ne_nil _
          (List.cons_ne_nil _ _))
      · intro other packet hpacket
        cases hpacket
        refine ⟨hid, howner, dropped, ?_, ?_⟩
        · rw [← hready.queue_eq id, hqueue]
          have hrest : ((st.sent t id head skb).run.fq.flows id).queue =
              rest :=
            (queue_countSent head.fq t id id skb).trans
              hholds.removes.queue_self
          rw [hrest]
        · rw [← hready.freed_eq, ← hfreed]
          rfl

theorem Ready.call (env : CodelEnv α)
    (hready : Ready numTins t quantum start start) (ht : t < numTins)
    (hquantum : 1 ≤ quantum) (hlt : quantum < 2 ^ 31) :
    ∃ result, (∀ rounds, start.run.fq.deficitWork t < rounds →
        start.fqTinDequeue env t rounds = some result) ∧
      Returns numTins t start result := by
  obtain ⟨last, hlast⟩ : ∃ last, FuelLoop.run (FairState.round env t)
      (start.run.fq.deficitWork t + 1) start = some last := by
    apply FuelLoop.run_of_measure
      (fun st : FairState α => st.run.fq.deficitWork t) _ (Nat.lt_succ_self _)
    intro st next hreached hround
    have hst := hready.reached ht hquantum hlt hreached
    exact (hst.round ht hquantum hlt hround).2
  obtain ⟨st, hreached, hdone⟩ := FuelLoop.reached_of_run hlast
  have hst := hready.reached ht hquantum hlt hreached
  obtain ⟨result, rfl, hreturns⟩ := hst.returns ht hdone
  refine ⟨result, ?_, hreturns⟩
  intro rounds hrounds
  rw [fqTinDequeue, FuelLoop.run_mono hlast hrounds]
  rfl

end FairState

end IwlwifiStack
