import IwlwifiStack.DeficitRotation

/-!
# The fairness of `fq_tin_dequeue`

For every reachable state, any deficits and any quantum that an `int` can
keep, a call returns, with a packet whenever the tin holds one, and between
two services of a flow no flow of the tin sends more than its grant.
-/

namespace IwlwifiStack

variable {α : Type*}

namespace FairState

section Fairness

variable {numTins t quantum : ℕ} {env : CodelEnv α} {f g : FqFlowId}
  {st last : FairState α} {packets : List (FqSkb α)}

theorem Rotation.serviced {limit : ℤ} (hrun : st.run.Good numTins)
    (ht : t < numTins) (hquantum : st.run.fq.quantum = quantum)
    (hfirst : (st.run.fq.tins t).firstFlow = some f)
    (hlimit : (((st.refilled t f).run.fq.flows g).deficit : ℤ) ≤ limit) :
    Rotation numTins t quantum f g limit [] (st.refilled t f) := by
  refine ⟨refilled_good hrun ht hfirst, hquantum,
    ⟨(st.run.fq.tins t).delFirst.oldFlows, [], ?_, ?_⟩, fun _ => rfl,
    Or.inl rfl⟩
  · simp only [refilled, setFq, Fq.refillFlow, Fq.setFlow, Fq.setTin,
      Function.update_self]
    rfl
  · intro _
    simpa [bytesOf] using hlimit

theorem BetweenServices.rotation {start : FairState α} {limit : ℤ}
    (hbetween : BetweenServices numTins t env f g start packets last)
    (hstart : Rotation numTins t quantum f g limit [] start)
    (ht : t < numTins) (hlt : quantum < 2 ^ 31)
    (hgrant : (quantum : ℤ) ≤ limit) (hlimit : limit < 2 ^ 31) :
    Rotation numTins t quantum f g limit packets last := by
  induction hbetween with
  | serviced => exact hstart
  | event _ hadmitted hstep hservice hquantum hlen hf hg ih =>
      exact ih.event ht hlt hgrant hlimit hadmitted hstep hservice hquantum
        hlen hf hg

/-- Between two services of the old flows each flow of the tin sends one
packet more than its grant at most: the quantum, or a larger deficit that it
had before. -/
theorem BetweenServices.within (hrun : st.run.Good numTins)
    (ht : t < numTins) (hquantum : st.run.fq.quantum = quantum)
    (hlt : quantum < 2 ^ 31)
    (hrange : ∀ id, IsInt32 (st.run.fq.flows id).deficit)
    (hfirst : (st.run.fq.tins t).firstFlow = some f)
    (hdeficit : (st.run.fq.flows f).deficit ≤ 0)
    (hbetween : BetweenServices numTins t env f g (st.refilled t f) packets
      last) :
    WithinGrant (max quantum (st.run.fq.flows g).deficit) packets := by
  have hrangeF := hrange f
  have hrangeG := hrange g
  unfold IsInt32 at hrangeF hrangeG
  have hlimit : ((st.refilled t f).run.fq.flows g).deficit ≤
      max (quantum : ℤ) (st.run.fq.flows g).deficit := by
    by_cases hg : g = f
    · subst g
      have hraised : ((st.refilled t f).run.fq.flows f).deficit =
          toInt32 ((st.run.fq.flows f).deficit + st.run.fq.quantum) := by
        simp only [refilled, setFq, Fq.refillFlow, Fq.setFlow,
          Function.update_self]
      rw [hraised, toInt32_eq (by constructor <;> omega)]
      omega
    · have hsame : ((st.refilled t f).run.fq.flows g).deficit =
          (st.run.fq.flows g).deficit := by
        simp only [refilled, setFq, Fq.refillFlow, Fq.setFlow, Fq.setTin,
          Function.update_of_ne hg]
      rw [hsame]
      exact le_max_right _ _
  exact (hbetween.rotation (Rotation.serviced hrun ht hquantum hfirst hlimit)
    ht hlt (le_max_left _ _) (by omega)).within

/-- A call of `fq_tin_dequeue` returns a packet of the tin as long as it
holds one, and the flows of the tin are served by deficit round robin. -/
theorem fq_dequeue_fair {flowsCnt : BitVec 32}
    (hreach : Reaches numTins env flowsCnt st) (ht : t < numTins)
    (hquantum : 1 ≤ quantum) (hlt : quantum < 2 ^ 31)
    {deficits : FqFlowId → ℤ} (hdeficits : ∀ id, IsInt32 (deficits id))
    (now : BitVec 32) :
    let start := st.setFq (st.run.fq.withDeficits quantum deficits)
    (∃ result, (∀ rounds, start.run.fq.deficitWork t < rounds →
        start.fqTinDequeue { env with now := now } t rounds = some result) ∧
      Returns numTins t start result) ∧
    ∀ f g packets last, (start.run.fq.tins t).firstFlow = some f →
      deficits f ≤ 0 →
      BetweenServices numTins t env f g (start.refilled t f) packets last →
      WithinGrant (max quantum (deficits g)) packets := by
  intro start
  have hrun := hreach.good
  have hgood : start.run.Good numTins :=
    ⟨hrun.good.withDeficits quantum deficits, hrun.fifo, hrun.conserved⟩
  have hready : Ready numTins t quantum start start :=
    ⟨hgood.good, rfl, hdeficits, rfl, fun _ => rfl, fun _ _ => rfl,
      fun _ htin => htin, rfl⟩
  refine ⟨hready.call _ ht hquantum hlt, ?_⟩
  intro f g packets last hfirst hdeficit hbetween
  exact hbetween.within hgood ht rfl hlt hdeficits hfirst hdeficit

end Fairness

/-! ## A quantum that an `int` cannot keep -/

section Samples

/-- One flow alternates between the deficits zero and `-2 ^ 31`. -/
structure Stuck (id : FqFlowId) (st : FairState α) : Prop where
  listed_eq : (st.run.fq.tins 0).listed = [id]
  quantum_eq : st.run.fq.quantum = 2 ^ 31
  deficit_eq : (st.run.fq.flows id).deficit = 0 ∨
    (st.run.fq.flows id).deficit = -2 ^ 31

theorem Stuck.round {id : FqFlowId} {st : FairState α}
    (hstuck : Stuck id st) (env : CodelEnv α) :
    st.round env 0 = .inr (st.refilled 0 id) ∧ Stuck id (st.refilled 0 id) := by
  have hfirst : (st.run.fq.tins 0).firstFlow = some id := by
    cases hfirst : (st.run.fq.tins 0).firstFlow with
    | none =>
        have hnil := FqTin.firstFlow_none hfirst
        rw [hstuck.listed_eq] at hnil
        cases hnil
    | some other =>
        have hcons := FqTin.listed_firstFlow hfirst
        rw [hstuck.listed_eq] at hcons
        rw [(List.cons.inj hcons).1]
  have hdeficit : (st.run.fq.flows id).deficit ≤ 0 := by
    rcases hstuck.deficit_eq with hzero | hlow
    · omega
    · omega
  refine ⟨?_, ?_, hstuck.quantum_eq, ?_⟩
  · simp only [FairState.round, hfirst, if_pos hdeficit]
  · have hperm := FqTin.moveFirst_perm hfirst
    rw [hstuck.listed_eq, List.perm_singleton] at hperm
    rw [← hperm]
    simp only [refilled, setFq, Fq.refillFlow, Fq.setFlow, Fq.setTin,
      Function.update_self]
  · simp only [refilled, setFq, Fq.refillFlow, Fq.setFlow,
      Function.update_self, hstuck.quantum_eq]
    rcases hstuck.deficit_eq with hzero | hlow
    · right
      rw [hzero]
      decide
    · left
      rw [hlow]
      decide

theorem Stuck.never {id : FqFlowId} {st : FairState α}
    (hstuck : Stuck id st) (env : CodelEnv α) (rounds : ℕ) :
    st.fqTinDequeue env 0 rounds = none := by
  unfold fqTinDequeue
  induction rounds generalizing st with
  | zero => rfl
  | succ rounds ih =>
      obtain ⟨hround, hnext⟩ := hstuck.round env
      rw [FuelLoop.run, hround]
      exact ih hnext

def sampleEnv : CodelEnv ℕ where
  params := .init
  now := 0
  enqueueTime := fun _ => 0
  setCe := fun _ => false

def sampleSkb (frame len : ℕ) : FqSkb ℕ := ⟨frame, len, 1000⟩

instance (fq : Fq ℕ) (skbs : List (FqSkb ℕ)) : Decidable (Fits 1 fq skbs) :=
  decidable_of_iff (_ ∧ _ ∧ _)
    ⟨fun h => ⟨h.1, h.2.1, h.2.2⟩, fun h => ⟨h.bytes, h.packets, h.truesize⟩⟩

instance (run : FqRun ℕ) (call : FqCall ℕ) :
    Decidable (run.Admitted 1 call) := by
  unfold FqRun.Admitted
  split <;> infer_instance

instance (st : FairState ℕ) (event : FairEvent ℕ) :
    Decidable (st.Admitted 1 event) :=
  inferInstanceAs (Decidable (∀ call ∈ event.call, st.run.Admitted 1 call))

/-- Rounds of tin 0 that do not serve flow `f`. -/
def QuietRound (f g : FqFlowId) (st next : FairState ℕ)
    (output : List (FlowPacket ℕ)) : Prop :=
  ((st.run.fq.tins 0).firstFlow = some f → 0 < (st.run.fq.flows f).deficit) ∧
    next.run.fq.quantum = st.run.fq.quantum ∧
    (∀ packet ∈ output, packet.2.len < 2 ^ 31) ∧
    f ∈ (next.run.fq.tins 0).listed ∧
    (g ∈ (st.run.fq.tins 0).listed → g ∈ (next.run.fq.tins 0).listed)

instance (f g : FqFlowId) (st next : FairState ℕ)
    (output : List (FlowPacket ℕ)) : Decidable (QuietRound f g st next output) := by
  unfold QuietRound
  infer_instance

def quietRound (f g : FqFlowId) (st : FairState ℕ) (now : BitVec 32) :
    Option (FairState ℕ × List (FlowPacket ℕ)) :=
  (st.step 1 sampleEnv (.round 0 now)).filter fun next =>
    decide (QuietRound f g st next.1 next.2)

theorem BetweenServices.rounds {f g : FqFlowId} {start st last : FairState ℕ}
    {packets : List (FqSkb ℕ)} {times : List (BitVec 32)}
    {output : List (FlowPacket ℕ)}
    (hbetween : BetweenServices 1 0 sampleEnv f g start packets st)
    (hrun : ConditionedRun.run (quietRound f g) st times = some (last, output)) :
    BetweenServices 1 0 sampleEnv f g start (packets ++ ofFlow g output)
      last := by
  induction times generalizing st packets output with
  | nil =>
      simp only [ConditionedRun.run, Option.some.injEq, Prod.mk.injEq] at hrun
      rw [← hrun.1, ← hrun.2]
      simpa [ofFlow] using hbetween
  | cons now times ih =>
      simp only [ConditionedRun.run, Option.bind_eq_some_iff,
        Option.map_eq_some_iff, Prod.mk.injEq] at hrun
      obtain ⟨next, hnext, rest, hrest, hlast, houtput⟩ := hrun
      subst hlast houtput
      rw [quietRound, Option.filter_eq_some_iff, decide_eq_true_eq] at hnext
      obtain ⟨hstep, hquiet, hquantum, hlen, hf, hg⟩ := hnext
      rw [ofFlow_append, ← List.append_assoc]
      have hadmitted : st.Admitted 1 (.round 0 now) := by
        intro call hcall
        cases hcall
      have hservice : ¬st.Services 0 f (.round 0 now) := by
        intro hserviced
        have hpositive := hquiet hserviced.2.1
        exact absurd hserviced.2.2 (by omega)
      exact ih (hbetween.event hadmitted hstep hservice hquantum hlen hf hg)
        hrest

/-- Two flows of which the first has used its deficit up: a call returns a
packet, and until the first one is served again the second sends 800 bytes,
but only 200 before its last packet. -/
theorem fq_dequeue_fair_two :
    ∃ (start last : FairState ℕ) (result : Dequeued ℕ)
        (output : List (FlowPacket ℕ)),
      start.fqTinDequeue sampleEnv 0 (start.run.fq.deficitWork 0 + 1) =
        some result ∧
      result.packet ≠ none ∧
      ConditionedRun.run (quietRound (.hashed 0) (.hashed 2))
        (start.refilled 0 (.hashed 0)) (List.replicate 6 0) =
          some (last, output) ∧
      output = [(.hashed 2, sampleSkb 4 200), (.hashed 2, sampleSkb 5 600),
        (.hashed 0, sampleSkb 0 100), (.hashed 0, sampleSkb 1 100),
        (.hashed 0, sampleSkb 2 100)] ∧
      WithinGrant 300 (ofFlow (.hashed 2) output) := by
  let deficits : FqFlowId → ℤ := fun id => if id = .hashed 0 then 0 else 300
  have hfields : (ConditionedRun.run
      (ConditionedRun.guarded (step 1 sampleEnv) (Admitted 1))
      (initial 4#32 : FairState ℕ)
      [.enqueue 0 0#32 (sampleSkb 0 100)
          [sampleSkb 1 100, sampleSkb 2 100, sampleSkb 3 100] 1,
        .enqueue 0 0x80000000#32 (sampleSkb 4 200)
          [sampleSkb 5 600, sampleSkb 6 100] 1]).map (fun last =>
        let start := last.1.setFq (last.1.run.fq.withDeficits 300 deficits)
        decide ((start.run.fq.flows (.hashed 0)).queue ≠ [] ∧
          (start.run.fq.flows (.hashed 0)).tin = some 0 ∧
          start.run.fq.flowsCnt = 4 ∧
          (start.run.fq.tins 0).firstFlow = some (.hashed 0) ∧
          (ConditionedRun.run (quietRound (.hashed 0) (.hashed 2))
            (start.refilled 0 (.hashed 0)) (List.replicate 6 0)).map Prod.snd =
            some [(.hashed 2, sampleSkb 4 200), (.hashed 2, sampleSkb 5 600),
              (.hashed 0, sampleSkb 0 100), (.hashed 0, sampleSkb 1 100),
              (.hashed 0, sampleSkb 2 100)])) = some true := by
    decide +kernel
  obtain ⟨⟨st, sent⟩, hrun, hlast⟩ := Option.map_eq_some_iff.mp hfields
  obtain ⟨hqueue, htin, hcnt, hfirst, hrounds⟩ := of_decide_eq_true hlast
  obtain ⟨⟨last, output⟩, hquiet, houtput⟩ := Option.map_eq_some_iff.mp hrounds
  have hreach : Reaches 1 sampleEnv 4#32 st :=
    ConditionedRun.reachable_of_guarded .start hrun
  have hdeficits : ∀ id, IsInt32 (deficits id) := by
    intro id
    unfold deficits
    split <;> constructor <;> decide
  obtain ⟨⟨result, hcall, hreturns⟩, hfair⟩ :=
    @fq_dequeue_fair ℕ 1 0 300 sampleEnv st 4#32 hreach (by decide)
      (by decide) (by decide) deficits hdeficits 0
  refine ⟨_, last, result, output, hcall _ (Nat.lt_succ_self _), ?_, hquiet,
    houtput, ?_⟩
  · intro hnone
    exact hqueue (hreturns.none_iff.mp hnone (.hashed 0)
      (Fq.hashed_mem_flowIds.mpr (by rw [hcnt]; decide)) htin)
  · exact hfair _ (.hashed 2) _ last hfirst (by decide)
      (BetweenServices.rounds .serviced hquiet)

/-- With a quantum of `2 ^ 31` the call never returns, CoDel frees the oldest
packet, and a flow linked under a larger quantum sends more than the present
one allows. -/
theorem fq_dequeue_unfair :
    (∃ st : FairState ℕ,
      ConditionedRun.Reachable (step 1 sampleEnv) (fun _ _ => True)
        (initial 4#32) st ∧
      st.run.fq.quantum = 2 ^ 31 ∧
      (st.run.fq.flows (.hashed 0)).queue = [sampleSkb 0 100] ∧
      ∀ rounds, st.fqTinDequeue sampleEnv 0 rounds = none) ∧
    (∃ (st : FairState ℕ) (result : Dequeued ℕ),
      ConditionedRun.Reachable (step 1 sampleEnv) (fun _ _ => True)
        (initial 4#32) st ∧
      (st.run.fq.flows (.hashed 0)).queue =
        [sampleSkb 1 100, sampleSkb 2 100] ∧
      st.fqTinDequeue { sampleEnv with now := 0x30000#32 } 0 1 =
        some result ∧
      result.packet = some (.hashed 0, sampleSkb 2 100)) ∧
    ∃ (st last : FairState ℕ) (output : List (FlowPacket ℕ)),
      ConditionedRun.Reachable (step 1 sampleEnv) (fun _ _ => True)
        (initial 4#32) st ∧
      st.run.fq.quantum = 300 ∧
      (st.run.fq.tins 0).firstFlow = some (.hashed 0) ∧
      (st.run.fq.flows (.hashed 0)).deficit = 0 ∧
      ConditionedRun.run (step 1 sampleEnv) (st.refilled 0 (.hashed 0))
        [.round 0 0#32, .round 0 0#32] = some (last, output) ∧
      output = [(.hashed 2, sampleSkb 2 600), (.hashed 2, sampleSkb 3 600)]
      := by
  refine ⟨?_, ?_, ?_⟩
  · have hrun : (ConditionedRun.run (step 1 sampleEnv) (initial 4#32)
        [.setParams 0#32 0#32 0x80000000#32,
          .enqueue 0 0#32 (sampleSkb 0 100) [] 1]).map (fun last =>
        decide ((last.1.run.fq.tins 0).listed = [.hashed 0] ∧
          last.1.run.fq.quantum = 2 ^ 31 ∧
          (last.1.run.fq.flows (.hashed 0)).deficit = -2 ^ 31 ∧
          (last.1.run.fq.flows (.hashed 0)).queue =
            [sampleSkb 0 100])) = some true := by
      decide +kernel
    obtain ⟨⟨st, output⟩, hrun, hlast⟩ := Option.map_eq_some_iff.mp hrun
    obtain ⟨hlisted, hquantum, hdeficit, hqueue⟩ := of_decide_eq_true hlast
    have hstuck : Stuck (.hashed 0) st :=
      ⟨hlisted, hquantum, Or.inr hdeficit⟩
    exact ⟨st, ConditionedRun.reachable_of_run .start hrun, hquantum, hqueue,
      hstuck.never sampleEnv⟩
  · have hrun : (ConditionedRun.run (step 1 sampleEnv) (initial 4#32)
        [.enqueue 0 0#32 (sampleSkb 0 100)
            [sampleSkb 1 100, sampleSkb 2 100] 1,
          .round 0 0x10000#32]).map (fun last =>
        decide ((last.1.run.fq.flows (.hashed 0)).queue =
            [sampleSkb 1 100, sampleSkb 2 100] ∧
          (last.1.fqTinDequeue { sampleEnv with now := 0x30000#32 } 0 1).map
              Dequeued.packet =
            some (some (.hashed 0, sampleSkb 2 100)))) = some true := by
      decide +kernel
    obtain ⟨⟨st, output⟩, hrun, hlast⟩ := Option.map_eq_some_iff.mp hrun
    obtain ⟨hqueue, hcall⟩ := of_decide_eq_true hlast
    obtain ⟨result, hresult, hpacket⟩ := Option.map_eq_some_iff.mp hcall
    exact ⟨st, result, ConditionedRun.reachable_of_run .start hrun, hqueue,
      hresult, hpacket⟩
  · have hrun : (ConditionedRun.run (step 1 sampleEnv) (initial 4#32)
        [.setParams 0#32 0#32 1000#32,
          .enqueue 0 0#32 (sampleSkb 0 1000) [sampleSkb 1 100] 1,
          .enqueue 0 0x80000000#32 (sampleSkb 2 600) [sampleSkb 3 600] 1,
          .round 0 0#32, .setParams 0#32 0#32 300#32]).map (fun last =>
        decide (last.1.run.fq.quantum = 300 ∧
          (last.1.run.fq.tins 0).firstFlow = some (.hashed 0) ∧
          (last.1.run.fq.flows (.hashed 0)).deficit = 0 ∧
          (ConditionedRun.run (step 1 sampleEnv)
            (last.1.refilled 0 (.hashed 0))
            [.round 0 0#32, .round 0 0#32]).map Prod.snd =
            some [(.hashed 2, sampleSkb 2 600),
              (.hashed 2, sampleSkb 3 600)])) = some true := by
      decide +kernel
    obtain ⟨⟨st, output⟩, hrun, hlast⟩ := Option.map_eq_some_iff.mp hrun
    obtain ⟨hquantum, hfirst, hdeficit, hrounds⟩ := of_decide_eq_true hlast
    obtain ⟨⟨last, sent⟩, hsent, houtput⟩ :=
      Option.map_eq_some_iff.mp hrounds
    exact ⟨st, last, sent, ConditionedRun.reachable_of_run .start hrun,
      hquantum, hfirst, hdeficit, hsent, houtput⟩

end Samples

end FairState

end IwlwifiStack
