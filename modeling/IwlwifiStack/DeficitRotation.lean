import IwlwifiStack.DeficitRoundRobin

/-!
# The rotation of the old flows

A flow whose deficit is used up is replenished and goes behind all old flows.
Until it is replenished again every other flow of the tin is served in one
stretch: before its own replenishment puts it behind the first flow.
-/

namespace IwlwifiStack

variable {α : Type*} {numTins t : ℕ} {fq mid fq' : Fq α} {id : FqFlowId}

/-! ## What other calls change -/

/-- The lists, the links and the deficits are the same. -/
structure SameRotation (fq fq' : Fq α) : Prop where
  lists_eq : ∀ t, (fq'.tins t).newFlows = (fq.tins t).newFlows ∧
    (fq'.tins t).oldFlows = (fq.tins t).oldFlows
  linked_eq : ∀ id, (fq'.flows id).linked = (fq.flows id).linked
  deficit_eq : ∀ id, (fq'.flows id).deficit = (fq.flows id).deficit
  quantum_eq : fq'.quantum = fq.quantum

namespace SameRotation

theorem refl (fq : Fq α) : SameRotation fq fq :=
  ⟨fun _ => ⟨rfl, rfl⟩, fun _ => rfl, fun _ => rfl, rfl⟩

theorem trans (hfirst : SameRotation fq mid)
    (hlast : SameRotation mid fq') : SameRotation fq fq' :=
  ⟨fun t => ⟨(hlast.lists_eq t).1.trans (hfirst.lists_eq t).1,
      (hlast.lists_eq t).2.trans (hfirst.lists_eq t).2⟩,
    fun id => (hlast.linked_eq id).trans (hfirst.linked_eq id),
    fun id => (hlast.deficit_eq id).trans (hfirst.deficit_eq id),
    hlast.quantum_eq.trans hfirst.quantum_eq⟩

theorem setFlow {flow : FqFlow α}
    (hlinked : flow.linked = (fq.flows id).linked)
    (hdeficit : flow.deficit = (fq.flows id).deficit) :
    SameRotation fq (fq.setFlow id flow) := by
  refine ⟨fun _ => ⟨rfl, rfl⟩, ?_, ?_, rfl⟩
  · intro other
    by_cases hother : other = id
    · subst other
      simpa only [Fq.setFlow, Function.update_self] using hlinked
    · simp only [Fq.setFlow, Function.update_of_ne hother]
  · intro other
    by_cases hother : other = id
    · subst other
      simpa only [Fq.setFlow, Function.update_self] using hdeficit
    · simp only [Fq.setFlow, Function.update_of_ne hother]

theorem setTin {tin : FqTin} (hnew : tin.newFlows = (fq.tins t).newFlows)
    (hold : tin.oldFlows = (fq.tins t).oldFlows) :
    SameRotation fq (fq.setTin t tin) := by
  refine ⟨?_, fun _ => rfl, fun _ => rfl, rfl⟩
  intro s
  by_cases hs : s = t
  · subst s
    simp only [Fq.setTin, Function.update_self]
    exact ⟨hnew, hold⟩
  · simp only [Fq.setTin, Function.update_of_ne hs, and_self]

theorem classify (fq : Fq α) (t idx : ℕ) :
    SameRotation fq (fq.fqFlowClassify t idx).2 := by
  obtain ⟨hflows, -⟩ := fqFlowClassify_frame fq t idx
  refine ⟨?_, ?_, ?_, ?_⟩
  · intro s
    have htins := fqFlowClassify_tins fq t idx s
    exact ⟨htins.1, htins.2.1⟩
  · intro id
    rw [hflows]
  · intro id
    rw [hflows]
  · simp only [Fq.fqFlowClassify]
    split <;> split <;> rfl

theorem mark (fq : Fq α) (t : ℕ) (id : FqFlowId) :
    SameRotation fq (fq.markBacklogged t id) := by
  obtain ⟨hflows, htins, -⟩ := markBacklogged_frame fq t id
  refine ⟨?_, ?_, ?_, ?_⟩
  · intro s
    rw [htins]
    exact ⟨rfl, rfl⟩
  · intro other
    rw [hflows]
  · intro other
    rw [hflows]
  · cases id with
    | hashed idx => rfl
    | defaultFlow s =>
        simp only [Fq.markBacklogged]
        split <;> rfl

theorem queueSkb (fq : Fq α) (t : ℕ) (id : FqFlowId) (skb : FqSkb α) :
    SameRotation fq (Fq.queueSkb t id fq skb) := by
  have hset : SameRotation fq ((fq.setTin t { fq.tins t with
      backlogBytes := u32Add (fq.tins t).backlogBytes skb.len
      backlogPackets := u32Add (fq.tins t).backlogPackets 1 }).setFlow id
        { fq.flows id with
          backlog := u32Add (fq.flows id).backlog skb.len
          queue := (fq.flows id).queue ++ [skb] }) := by
    apply trans _ (setFlow _ _)
    · apply setTin
      · rfl
      · rfl
    · rfl
    · rfl
  exact ⟨hset.lists_eq, hset.linked_eq, hset.deficit_eq, rfl⟩

theorem foldl_queueSkb (t : ℕ) (id : FqFlowId) (skbs : List (FqSkb α))
    (fq : Fq α) : SameRotation fq (skbs.foldl (Fq.queueSkb t id) fq) := by
  induction skbs generalizing fq with
  | nil => exact refl fq
  | cons skb rest ih => exact (queueSkb fq t id skb).trans (ih _)

end SameRotation

/-- `fq'` has the lists of `fq`, with newly linked flows at the end of the new
list of tin `t`, and the listed flows keep their deficits. -/
structure Feeds (t : ℕ) (fq fq' : Fq α) : Prop where
  old_eq : (fq'.tins t).oldFlows = (fq.tins t).oldFlows
  new_eq : ∃ linked, (fq'.tins t).newFlows =
      (fq.tins t).newFlows ++ linked ∧
    ∀ id ∈ linked, id ∉ (fq.tins t).listed ∧
      (fq'.flows id).deficit = toInt32 fq.quantum
  deficit_eq : ∀ id ∈ (fq.tins t).listed,
    (fq'.flows id).deficit = (fq.flows id).deficit

theorem Feeds.of_same (hlists : (fq'.tins t).newFlows =
      (fq.tins t).newFlows ∧ (fq'.tins t).oldFlows = (fq.tins t).oldFlows)
    (hdeficit : ∀ id, (fq'.flows id).deficit = (fq.flows id).deficit) :
    Feeds t fq fq' :=
  ⟨hlists.2, ⟨[], by rw [hlists.1, List.append_nil],
      fun id hid => (List.not_mem_nil hid).elim⟩,
    fun id _ => hdeficit id⟩

theorem SameRotation.linkFlow (hsame : SameRotation fq mid) (s : ℕ)
    (hunlisted : (fq.flows id).linked = false → id ∉ (fq.tins t).listed) :
    Feeds t fq (mid.linkFlow s id) := by
  simp only [Fq.linkFlow]
  by_cases hlinked : (mid.flows id).linked = true
  · rw [if_pos hlinked]
    exact .of_same (hsame.lists_eq t) hsame.deficit_eq
  · rw [if_neg hlinked]
    rw [hsame.linked_eq, Bool.not_eq_true] at hlinked
    have hnot := hunlisted hlinked
    have hdeficit : ∀ other, other ≠ id →
        (Function.update mid.flows id
          { mid.flows id with
            deficit := toInt32 mid.quantum
            linked := true } other).deficit = (fq.flows other).deficit := by
      intro other hother
      rw [Function.update_of_ne hother, hsame.deficit_eq]
    by_cases hs : t = s
    · subst s
      constructor
      · simp only [Fq.setFlow, Fq.setTin, Function.update_self]
        exact (hsame.lists_eq t).2
      · refine ⟨[id], ?_, ?_⟩
        · simp only [Fq.setFlow, Fq.setTin, Function.update_self,
            (hsame.lists_eq t).1]
        · intro other hother
          rw [List.mem_singleton.mp hother]
          refine ⟨hnot, ?_⟩
          simp only [Fq.setFlow, Function.update_self, Fq.setTin,
            hsame.quantum_eq]
      · intro other hother
        exact hdeficit other fun heq => hnot (heq ▸ hother)
    · constructor
      · simp only [Fq.setFlow, Fq.setTin, Function.update_of_ne hs]
        exact (hsame.lists_eq t).2
      · refine ⟨[], ?_, fun other hother => (List.not_mem_nil hother).elim⟩
        simp only [Fq.setFlow, Fq.setTin, Function.update_of_ne hs,
          (hsame.lists_eq t).1, List.append_nil]
      · intro other hother
        exact hdeficit other fun heq => hnot (heq ▸ hother)

theorem FqGood.enqueueSkbs_feeds (hgood : FqGood numTins fq)
    (ht : t < numTins) (s idx : ℕ) (skbs : List (FqSkb α))
    (hid : (fq.fqFlowClassify s idx).1 ∈ fq.flowIds numTins) :
    Feeds t fq (fq.enqueueSkbs s idx skbs).2 := by
  have hclassify := SameRotation.classify fq s idx
  unfold Fq.enqueueSkbs
  apply SameRotation.linkFlow
  · refine .trans ?_ (.foldl_queueSkb _ _ _ _)
    refine .trans ?_ (.setFlow rfl rfl)
    split
    · exact hclassify.trans (.mark _ _ _)
    · exact hclassify
  · intro hlinked hlisted
    have htin := ((hgood.mem_listed t ht _).mp hlisted).2
    rw [hgood.linked_eq _ hid, htin] at hlinked
    cases hlinked

theorem Feeds.links (hfeeds : Feeds t fq mid) (hlinks : SameLinks mid fq') :
    Feeds t fq fq' := by
  obtain ⟨linked, hnew, hdeficit⟩ := hfeeds.new_eq
  refine ⟨(hlinks.lists_eq t).2.trans hfeeds.old_eq,
    ⟨linked, (hlinks.lists_eq t).1.trans hnew, ?_⟩, ?_⟩
  · intro id hid
    rw [hlinks.deficit_eq]
    exact hdeficit id hid
  · intro id hid
    rw [hlinks.deficit_eq]
    exact hfeeds.deficit_eq id hid

namespace FairState

variable {env : CodelEnv α} {st next : FairState α} {event : FairEvent α}
  {output : List (FlowPacket α)}

/-- An event that is no round returns no packet and feeds the tin, or it
leaves the tin without flows. -/
theorem step_feeds (hrun : st.run.Good numTins) (ht : t < numTins)
    (hadmitted : st.Admitted numTins event)
    (hevent : ∀ s now, event ≠ .round s now)
    (hstep : st.step numTins env event = some (next, output)) :
    output = [] ∧ (Feeds t st.run.fq next.run.fq ∨
      (next.run.fq.tins t).listed = []) := by
  cases event with
  | round s now => exact absurd rfl (hevent s now)
  | enqueue s hash skb more rounds =>
      obtain ⟨hpos, hfits⟩ := hadmitted _ rfl
      simp only [step, FairEvent.call, Option.bind_some, FqRun.step,
        Option.map_eq_some_iff, Option.ite_none_right_eq_some,
        Prod.mk.injEq] at hstep
      obtain ⟨⟨run, packets⟩, ⟨hs, released, henqueue, hrecord⟩, rfl, rfl⟩ :=
        hstep
      have hidx := Fq.fqFlowIdx_lt hrun.good.flowsCnt_pos hash
      have hid := (hrun.good.classified hs hidx).1
      have hfeeds := hrun.good.enqueueSkbs_feeds ht s
        (st.run.fq.fqFlowIdx hash) (skb :: more) hid
      obtain ⟨hgood, -⟩ := hrun.good.enqueueSkbs (List.cons_ne_nil skb more)
        hpos hfits hs hidx
      obtain ⟨hreleases, hsent⟩ := hgood.dropOverlimit henqueue
      simp only [FqRun.record, Prod.mk.injEq] at hrecord
      obtain ⟨rfl, rfl⟩ := hrecord
      exact ⟨hsent, Or.inl (hfeeds.links hreleases.links)⟩
  | filter s chosen =>
      simp only [step, FairEvent.call, Option.bind_some, FqRun.step,
        Option.map_eq_some_iff, Option.ite_none_right_eq_some,
        Prod.mk.injEq] at hstep
      obtain ⟨⟨run, packets⟩, ⟨hs, released, hfilter, hrecord⟩, rfl, rfl⟩ :=
        hstep
      obtain ⟨released', hfilter', hreleases, hsent⟩ :=
        hrun.good.fqTinFilter chosen hs
      have hsame : released' = released :=
        Option.some.inj (hfilter'.symm.trans hfilter)
      subst released'
      simp only [FqRun.record, Prod.mk.injEq] at hrecord
      obtain ⟨rfl, rfl⟩ := hrecord
      exact ⟨hsent, Or.inl (.of_same (hreleases.links.lists_eq t)
        hreleases.links.deficit_eq)⟩
  | reset s =>
      simp only [step, FairEvent.call, Option.bind_some, FqRun.step,
        Option.map_eq_some_iff, Option.ite_none_right_eq_some,
        Prod.mk.injEq] at hstep
      obtain ⟨⟨run, packets⟩, ⟨hs, released, hreset, hrecord⟩, rfl, rfl⟩ :=
        hstep
      obtain ⟨released', hreset', -, -, hsent, -, helsewhere, hnone⟩ :=
        hrun.good.fqTinReset hs
      have hsame : released' = released :=
        Option.some.inj (hreset'.symm.trans hreset)
      subst released'
      simp only [FqRun.record, Prod.mk.injEq] at hrecord
      obtain ⟨rfl, rfl⟩ := hrecord
      refine ⟨hsent, ?_⟩
      by_cases hts : t = s
      · subst s
        exact Or.inr (FqTin.firstFlow_none hnone)
      · exact Or.inl (.of_same (helsewhere.lists_eq t hts)
          helsewhere.deficit_eq)
  | setParams limit memoryLimit quantum =>
      simp only [step, FairEvent.call, Option.bind_some, FqRun.step,
        Option.map_some, Option.some.injEq, Prod.mk.injEq] at hstep
      obtain ⟨rfl, rfl⟩ := hstep
      exact ⟨rfl, Or.inl (.of_same ⟨rfl, rfl⟩ fun _ => rfl)⟩

end FairState

/-! ## Moving the first flow -/

section Lists

variable {tin : FqTin} {f : FqFlowId} {before behind : List FqFlowId}

theorem FqTin.moveFirst_split (hnodup : tin.listed.Nodup)
    (hold : tin.oldFlows = before ++ f :: behind)
    (hfirst : tin.firstFlow = some id) (hne : id ≠ f) :
    ∃ ahead, (tin.moveFirst id).oldFlows = ahead ++ f :: (behind ++ [id]) ∧
      ∀ g, g ∈ (tin.moveFirst id).newFlows ∨ g ∈ ahead →
        g ≠ id ∧ (g ∈ tin.newFlows ∨ g ∈ before) := by
  have hlisted := FqTin.listed_firstFlow hfirst
  rw [hlisted, List.nodup_cons] at hnodup
  have hnotin := hnodup.1
  unfold firstFlow at hfirst
  unfold FqTin.listed delFirst at hnotin
  unfold moveFirst delFirst
  cases hnew : tin.newFlows with
  | nil =>
      simp only [hnew] at hfirst hnotin ⊢
      cases before with
      | nil =>
          rw [hold] at hfirst
          exact absurd (Option.some.inj hfirst).symm hne
      | cons head ahead =>
          rw [hold] at hfirst hnotin
          cases hfirst
          refine ⟨ahead, ?_, ?_⟩
          · rw [hold]
            simp
          · intro g hg
            rcases hg with hg | hg
            · exact (List.not_mem_nil hg).elim
            · refine ⟨fun heq => hnotin ?_,
                Or.inr (List.mem_cons_of_mem _ hg)⟩
              subst g
              simp [hg]
  | cons head rest =>
      simp only [hnew] at hfirst hnotin ⊢
      cases hfirst
      refine ⟨before, ?_, ?_⟩
      · rw [hold]
        simp
      · intro g hg
        refine ⟨fun heq => hnotin ?_, ?_⟩
        · subst g
          rcases hg with hg | hg
          · exact List.mem_append_left _ hg
          · rw [hold]
            simp [hg]
        · rcases hg with hg | hg
          · exact Or.inl (List.mem_cons_of_mem _ hg)
          · exact Or.inr hg

theorem FqTin.delFirst_split (hold : tin.oldFlows = before ++ f :: behind)
    (hfirst : tin.firstFlow = some id) (hne : id ≠ f)
    (hdel : ¬(tin.newFlows ≠ [] ∧ tin.oldFlows ≠ [])) :
    ∃ ahead, tin.delFirst.oldFlows = ahead ++ f :: behind ∧
      before = id :: ahead ∧ tin.delFirst.newFlows = tin.newFlows := by
  have hnew : tin.newFlows = [] := by
    by_contra hnew
    apply hdel
    refine ⟨hnew, ?_⟩
    rw [hold]
    simp
  unfold firstFlow at hfirst
  unfold delFirst
  rw [hnew] at hfirst ⊢
  dsimp only at hfirst ⊢
  cases before with
  | nil =>
      rw [hold] at hfirst
      exact absurd (Option.some.inj hfirst).symm hne
  | cons head ahead =>
      rw [hold] at hfirst ⊢
      cases hfirst
      exact ⟨ahead, rfl, rfl, rfl⟩

theorem FqTin.firstFlow_ahead (hold : tin.oldFlows = before ++ f :: behind)
    (hfirst : tin.firstFlow = some id) :
    id = f ∨ id ∈ tin.newFlows ∨ id ∈ before := by
  unfold firstFlow at hfirst
  cases hnew : tin.newFlows with
  | nil =>
      simp only [hnew] at hfirst
      cases before with
      | nil =>
          rw [hold] at hfirst
          exact Or.inl (Option.some.inj hfirst).symm
      | cons head ahead =>
          rw [hold] at hfirst
          cases hfirst
          exact Or.inr (Or.inr List.mem_cons_self)
  | cons head rest =>
      simp only [hnew] at hfirst
      cases hfirst
      exact Or.inr (Or.inl List.mem_cons_self)

end Lists

/-! ## Between two services -/

/-- The packets and then a last one, with fewer bytes than the limit before
the last. -/
def WithinGrant (limit : ℤ) (packets : List (FqSkb α)) : Prop :=
  packets = [] ∨ ∃ before last, packets = before ++ [last] ∧
    (bytesOf before : ℤ) < limit

namespace FairState

variable {env : CodelEnv α} {f g : FqFlowId}
  {start st next : FairState α}

/-- The round replenishes flow `f` of tin `t` and puts it behind the others. -/
def Services (t : ℕ) (f : FqFlowId) (st : FairState α)
    (event : FairEvent α) : Prop :=
  (∃ now, event = .round t now) ∧ (st.run.fq.tins t).firstFlow = some f ∧
    (st.run.fq.flows f).deficit ≤ 0

/-- The packets of flow `g` that a round of tin `t` returned. -/
def sentBy (t : ℕ) (g : FqFlowId) (output : List (FlowPacket α)) :
    FairEvent α → List (FqSkb α)
  | .round s _ => if s = t then ofFlow g output else []
  | _ => []

/-- A stretch of a run without a service of flow `f`, with the packets that
flow `g` sends in it.  Neither flow leaves the lists of the tin, and the
quantum stays. -/
inductive BetweenServices (numTins t : ℕ) (env : CodelEnv α)
    (f g : FqFlowId) (start : FairState α) :
    List (FqSkb α) → FairState α → Prop
  | serviced : BetweenServices numTins t env f g start [] start
  | event {packets : List (FqSkb α)} {st next : FairState α}
      {event : FairEvent α} {output : List (FlowPacket α)} :
      BetweenServices numTins t env f g start packets st →
      st.Admitted numTins event →
      st.step numTins env event = some (next, output) →
      ¬st.Services t f event →
      next.run.fq.quantum = st.run.fq.quantum →
      (∀ packet ∈ output, packet.2.len < 2 ^ 31) →
      f ∈ (next.run.fq.tins t).listed →
      (g ∈ (st.run.fq.tins t).listed → g ∈ (next.run.fq.tins t).listed) →
      BetweenServices numTins t env f g start
        (packets ++ sentBy t g output event) next

/-- What holds between two services of `f`: as long as `g` is served before
`f`, what it sent is covered by what its deficit lost. -/
structure Rotation (numTins t quantum : ℕ) (f g : FqFlowId) (limit : ℤ)
    (packets : List (FqSkb α)) (st : FairState α) : Prop where
  good : st.run.Good numTins
  quantum_eq : st.run.fq.quantum = quantum
  covered : ∃ before behind,
    (st.run.fq.tins t).oldFlows = before ++ f :: behind ∧
    (g = f ∨ g ∈ (st.run.fq.tins t).newFlows ∨ g ∈ before →
      (bytesOf packets : ℤ) + (st.run.fq.flows g).deficit ≤ limit)
  fresh : g ∉ (st.run.fq.tins t).listed → packets = []
  within : WithinGrant limit packets

namespace Rotation

variable {quantum : ℕ} {limit : ℤ} {packets : List (FqSkb α)}

theorem mem_old (hrotation : Rotation numTins t quantum f g limit packets st) :
    f ∈ (st.run.fq.tins t).oldFlows := by
  obtain ⟨before, behind, hold, -⟩ := hrotation.covered
  rw [hold]
  simp

theorem feed (hrotation : Rotation numTins t quantum f g limit packets st)
    (hgood : next.run.Good numTins)
    (hfeeds : Feeds t st.run.fq next.run.fq)
    (hquantum : next.run.fq.quantum = st.run.fq.quantum)
    (hlt : quantum < 2 ^ 31) (hlimit : (quantum : ℤ) ≤ limit) :
    Rotation numTins t quantum f g limit packets next := by
  obtain ⟨before, behind, hold, hcovered⟩ := hrotation.covered
  obtain ⟨linked, hnew, hlinked⟩ := hfeeds.new_eq
  refine ⟨hgood, hquantum.trans hrotation.quantum_eq,
    ⟨before, behind, hfeeds.old_eq.trans hold, ?_⟩, ?_, hrotation.within⟩
  · intro hactive
    by_cases hg : g ∈ linked
    · -- a flow that was on no list starts with the quantum
      obtain ⟨hunlisted, hdeficit⟩ := hlinked g hg
      have hraised : toInt32 (st.run.fq.quantum : ℤ) = quantum := by
        rw [hrotation.quantum_eq]
        apply toInt32_eq
        constructor <;> omega
      rw [hrotation.fresh hunlisted, hdeficit, hraised]
      simpa [bytesOf] using hlimit
    · have hactive' : g = f ∨ g ∈ (st.run.fq.tins t).newFlows ∨
          g ∈ before := by
        rw [hnew, List.mem_append] at hactive
        tauto
      have hlisted : g ∈ (st.run.fq.tins t).listed := by
        rw [FqTin.listed, List.mem_append, hold]
        rcases hactive' with rfl | hg | hg
        · simp
        · exact Or.inl hg
        · simp [hg]
      rw [hfeeds.deficit_eq g hlisted]
      exact hcovered hactive'
  · intro hunlisted
    apply hrotation.fresh
    intro hlisted
    apply hunlisted
    rw [FqTin.listed, hnew, hfeeds.old_eq]
    rw [FqTin.listed] at hlisted
    rcases List.mem_append.mp hlisted with hg | hg
    · simp [hg]
    · simp [hg]

theorem move (hrotation : Rotation numTins t quantum f g limit packets st)
    (ht : t < numTins) (hgood : next.run.Good numTins)
    (hquantum : next.run.fq.quantum = st.run.fq.quantum)
    (hfirst : (st.run.fq.tins t).firstFlow = some id) (hne : id ≠ f)
    (htin : next.run.fq.tins t = (st.run.fq.tins t).moveFirst id)
    (hdeficit : ∀ other, other ≠ id →
      (next.run.fq.flows other).deficit =
        (st.run.fq.flows other).deficit) :
    Rotation numTins t quantum f g limit packets next := by
  obtain ⟨before, behind, hold, hcovered⟩ := hrotation.covered
  obtain ⟨ahead, hmoved, hactive⟩ := FqTin.moveFirst_split
    (hrotation.good.good.listed_nodup t ht) hold hfirst hne
  refine ⟨hgood, hquantum.trans hrotation.quantum_eq,
    ⟨ahead, behind ++ [id], ?_, ?_⟩, ?_, hrotation.within⟩
  · rw [htin]
    exact hmoved
  · intro hg
    rw [htin] at hg
    rcases hg with rfl | hg
    · rw [hdeficit g (Ne.symm hne)]
      exact hcovered (Or.inl rfl)
    · obtain ⟨hother, hbefore⟩ := hactive g hg
      rw [hdeficit g hother]
      exact hcovered (Or.inr hbefore)
  · intro hunlisted
    apply hrotation.fresh
    rw [htin, (FqTin.moveFirst_perm hfirst).mem_iff] at hunlisted
    exact hunlisted

theorem refill (hrotation : Rotation numTins t quantum f g limit packets st)
    (ht : t < numTins)
    (hfirst : (st.run.fq.tins t).firstFlow = some id) (hne : id ≠ f) :
    Rotation numTins t quantum f g limit packets (st.refilled t id) := by
  apply hrotation.move ht (refilled_good hrotation.good ht hfirst) rfl hfirst
    hne
  · simp only [refilled, setFq, Fq.refillFlow, Fq.setFlow, Fq.setTin,
      Function.update_self]
  · intro other hother
    simp only [refilled, setFq, Fq.refillFlow, Fq.setFlow, Fq.setTin,
      Function.update_of_ne hother]

theorem pass {head : CodelHead α}
    (hrotation : Rotation numTins t quantum f g limit packets st)
    (ht : t < numTins)
    (hfirst : (st.run.fq.tins t).firstFlow = some id)
    (hempty : (st.run.fq.flows id).queue = []) (hfq : head.fq = st.run.fq)
    (hfreed : head.freed = [])
    (hf : f ∈ ((st.passed t id head).run.fq.tins t).listed)
    (hg : g ∈ (st.run.fq.tins t).listed →
      g ∈ ((st.passed t id head).run.fq.tins t).listed) :
    Rotation numTins t quantum f g limit packets (st.passed t id head) := by
  have hgood := passed_good hrotation.good ht hfirst hempty hfq hfreed
  have hfq' : (st.passed t id head).run.fq = st.run.fq.passFlow t id := by
    rw [← hfq]
    rfl
  have hquantum : (st.passed t id head).run.fq.quantum =
      st.run.fq.quantum := by
    rw [hfq', Fq.passFlow]
    dsimp only
    split <;> rfl
  have hdeficit : ∀ other, ((st.passed t id head).run.fq.flows
      other).deficit = (st.run.fq.flows other).deficit := by
    intro other
    rw [hfq', Fq.passFlow]
    dsimp only
    split
    · rfl
    · by_cases hother : other = id
      · subst other
        simp only [Fq.setFlow, Function.update_self]
      · simp only [Fq.setFlow, Fq.setTin, Function.update_of_ne hother]
  have hnodup := hrotation.good.good.listed_nodup t ht
  rw [FqTin.listed_firstFlow hfirst, List.nodup_cons] at hnodup
  by_cases hmove : (st.run.fq.tins t).newFlows ≠ [] ∧
      (st.run.fq.tins t).oldFlows ≠ []
  · have htin : (st.passed t id head).run.fq.tins t =
        (st.run.fq.tins t).moveFirst id := by
      rw [hfq', Fq.passFlow]
      dsimp only
      rw [if_pos hmove]
      simp only [Fq.setTin, Function.update_self]
    have hne : id ≠ f := by
      -- the flow is a new one, and `f` is an old one
      intro heq
      subst id
      have hmem := hrotation.mem_old
      unfold FqTin.listed FqTin.delFirst at hnodup
      cases hnew : (st.run.fq.tins t).newFlows with
      | nil => exact hmove.1 hnew
      | cons first rest =>
          rw [hnew] at hnodup
          exact hnodup.1 (List.mem_append_right _ hmem)
    exact hrotation.move ht hgood hquantum hfirst hne htin
      fun other _ => hdeficit other
  · have htin : (st.passed t id head).run.fq.tins t =
        (st.run.fq.tins t).delFirst := by
      rw [hfq', Fq.passFlow]
      dsimp only
      rw [if_neg hmove]
      simp only [Fq.setFlow, Fq.setTin, Function.update_self]
    have hne : id ≠ f := by
      intro heq
      subst id
      rw [htin] at hf
      exact hnodup.1 hf
    obtain ⟨before, behind, hold, hcovered⟩ := hrotation.covered
    obtain ⟨ahead, hdel, hbefore, hnew⟩ :=
      FqTin.delFirst_split hold hfirst hne hmove
    refine ⟨hgood, hquantum.trans hrotation.quantum_eq,
      ⟨ahead, behind, ?_, ?_⟩, ?_, hrotation.within⟩
    · rw [htin]
      exact hdel
    · intro hactive
      rw [hdeficit]
      apply hcovered
      rw [htin, hnew] at hactive
      rw [hbefore, List.mem_cons]
      tauto
    · intro hunlisted
      exact hrotation.fresh fun hlisted => hunlisted (hg hlisted)

theorem send {head : CodelHead α} {skb : FqSkb α} {rest : List (FqSkb α)}
    (hrotation : Rotation numTins t quantum f g limit packets st)
    (ht : t < numTins)
    (hfirst : (st.run.fq.tins t).firstFlow = some id)
    (hdeficit : 0 < (st.run.fq.flows id).deficit)
    (hholds : head.Holds numTins st.run.fq id skb rest)
    (hlen : skb.len < 2 ^ 31) (hlimit : limit < 2 ^ 31) :
    Rotation numTins t quantum f g limit
      (packets ++ ofFlow g [(id, skb)]) (st.sent t id head skb) := by
  have hgood := sent_good hrotation.good ht hfirst hholds
  have hquantum : (st.sent t id head skb).run.fq.quantum =
      st.run.fq.quantum := hholds.quantum_eq
  have hlists : ((st.sent t id head skb).run.fq.tins t).newFlows =
        (st.run.fq.tins t).newFlows ∧
      ((st.sent t id head skb).run.fq.tins t).oldFlows =
        (st.run.fq.tins t).oldFlows := by
    have hsame := hholds.removes.lists_eq t
    rw [← hsame.1, ← hsame.2]
    simp only [sent, setCodel, FqRun.record, Fq.countSent, Fq.setFlow,
      Fq.setTin, Function.update_self, and_self]
  have hlisted : ((st.sent t id head skb).run.fq.tins t).listed =
      (st.run.fq.tins t).listed := by
    rw [FqTin.listed, FqTin.listed, hlists.1, hlists.2]
  have hkept := hholds.removes.links.deficit_eq
  obtain ⟨before, behind, hold, hcovered⟩ := hrotation.covered
  by_cases hid : id = g
  · subst id
    have hsent : ofFlow g [(g, skb)] = [skb] := by
      simp [ofFlow]
    have hactive := FqTin.firstFlow_ahead hold hfirst
    have hbytes := hcovered hactive
    have hspent : ((st.sent t g head skb).run.fq.flows g).deficit =
        (st.run.fq.flows g).deficit - skb.len := by
      have hraw : ((st.sent t g head skb).run.fq.flows g).deficit =
          toInt32 ((head.fq.flows g).deficit - skb.len) := by
        simp only [sent, setCodel, FqRun.record, Fq.countSent, Fq.setFlow,
          Function.update_self]
      rw [hraw, hkept, toInt32_eq]
      constructor <;> omega
    rw [hsent]
    refine ⟨hgood, hquantum.trans hrotation.quantum_eq,
      ⟨before, behind, hlists.2.trans hold, ?_⟩, ?_, Or.inr ?_⟩
    · intro _
      have hlength : bytesOf [skb] = skb.len := by
        simp [bytesOf]
      rw [hspent, bytesOf_append, hlength]
      push_cast
      omega
    · intro hunlisted
      rw [hlisted] at hunlisted
      have hmem := FqTin.listed_firstFlow hfirst
      exact absurd (hmem ▸ List.mem_cons_self) hunlisted
    · exact ⟨packets, skb, rfl, by omega⟩
  · have hsent : ofFlow g [(id, skb)] = [] := by
      simp [ofFlow, hid]
    have hsame : ((st.sent t id head skb).run.fq.flows g).deficit =
        (st.run.fq.flows g).deficit := by
      rw [← hkept]
      simp only [sent, setCodel, FqRun.record, Fq.countSent, Fq.setFlow,
        Fq.setTin, Function.update_of_ne (Ne.symm hid)]
    rw [hsent, List.append_nil]
    refine ⟨hgood, hquantum.trans hrotation.quantum_eq,
      ⟨before, behind, hlists.2.trans hold, ?_⟩, ?_, hrotation.within⟩
    · rw [hlists.1, hsame]
      exact hcovered
    · rw [hlisted]
      exact hrotation.fresh

theorem feeds_other {s : ℕ} {now : BitVec 32} {output : List (FlowPacket α)}
    (hgood : FqGood numTins st.run.fq) (ht : t < numTins) (hs : t ≠ s)
    (hstep : st.step numTins env (.round s now) = some (next, output)) :
    Feeds t st.run.fq next.run.fq := by
  simp only [step, Option.ite_none_right_eq_some] at hstep
  obtain ⟨hlt, hround⟩ := hstep
  have hspec := round_spec { env with now := now } hgood hlt
  generalize hresult : st.round { env with now := now } s = result
    at hspec hround
  -- the flow belongs to the other tin
  have hfeeds : ∀ id, (st.run.fq.tins s).firstFlow = some id →
      (next.run.fq.tins t).newFlows = (st.run.fq.tins t).newFlows ∧
        (next.run.fq.tins t).oldFlows = (st.run.fq.tins t).oldFlows →
      (∀ other, other ≠ id → (next.run.fq.flows other).deficit =
        (st.run.fq.flows other).deficit) →
      Feeds t st.run.fq next.run.fq := by
    intro id hfirst hlists hdeficit
    refine ⟨hlists.2, ⟨[], by rw [hlists.1, List.append_nil],
      fun other hother => (List.not_mem_nil hother).elim⟩, ?_⟩
    intro other hother
    apply hdeficit
    intro heq
    subst other
    have howner := (firstFlow_listed hgood hlt hfirst).2
    rw [((hgood.mem_listed t ht id).mp hother).2] at howner
    exact hs (Option.some.inj howner)
  cases hspec with
  | empty hfirst =>
      simp only [Option.some.injEq, Prod.mk.injEq] at hround
      rw [← hround.1]
      exact .of_same ⟨rfl, rfl⟩ fun _ => rfl
  | refill id hfirst hdeficit =>
      simp only [Option.some.injEq, Prod.mk.injEq] at hround
      apply hfeeds id hfirst
      · rw [← hround.1]
        simp only [refilled, setFq, Fq.refillFlow, Fq.setFlow, Fq.setTin,
          Function.update_of_ne hs, and_self]
      · intro other hother
        rw [← hround.1]
        simp only [refilled, setFq, Fq.refillFlow, Fq.setFlow, Fq.setTin,
          Function.update_of_ne hother]
  | pass id head hfirst hdeficit hqueue hfq hfreed =>
      simp only [Option.some.injEq, Prod.mk.injEq] at hround
      have hnext : next.run.fq = st.run.fq.passFlow s id := by
        rw [← hround.1, ← hfq]
        rfl
      apply hfeeds id hfirst
      · rw [hnext, Fq.passFlow]
        dsimp only
        split
        · simp only [Fq.setTin, Function.update_of_ne hs, and_self]
        · simp only [Fq.setFlow, Fq.setTin, Function.update_of_ne hs,
            and_self]
      · intro other hother
        rw [hnext, Fq.passFlow]
        dsimp only
        split
        · rfl
        · simp only [Fq.setFlow, Fq.setTin, Function.update_of_ne hother]
  | send id head skb rest hfirst hdeficit hholds =>
      simp only [Option.some.injEq, Prod.mk.injEq] at hround
      apply hfeeds id hfirst
      · rw [← hround.1]
        simp only [sent, setCodel, FqRun.record, Fq.countSent, Fq.setFlow,
          Fq.setTin, Function.update_of_ne hs]
        exact hholds.removes.lists_eq t
      · intro other hother
        rw [← hround.1]
        simp only [sent, setCodel, FqRun.record, Fq.countSent, Fq.setFlow,
          Fq.setTin, Function.update_of_ne hother]
        exact hholds.removes.links.deficit_eq other

theorem event {ev : FairEvent α} {output : List (FlowPacket α)}
    (hrotation : Rotation numTins t quantum f g limit packets st)
    (ht : t < numTins) (hlt : quantum < 2 ^ 31)
    (hgrant : (quantum : ℤ) ≤ limit) (hlimit : limit < 2 ^ 31)
    (hadmitted : st.Admitted numTins ev)
    (hstep : st.step numTins env ev = some (next, output))
    (hservice : ¬st.Services t f ev)
    (hquantum : next.run.fq.quantum = st.run.fq.quantum)
    (hlen : ∀ packet ∈ output, packet.2.len < 2 ^ 31)
    (hf : f ∈ (next.run.fq.tins t).listed)
    (hg : g ∈ (st.run.fq.tins t).listed →
      g ∈ (next.run.fq.tins t).listed) :
    Rotation numTins t quantum f g limit
      (packets ++ sentBy t g output ev) next := by
  have hgood := step_good hrotation.good hadmitted hstep
  have hcall : (∀ s now, ev ≠ .round s now) → sentBy t g output ev = [] →
      Rotation numTins t quantum f g limit
        (packets ++ sentBy t g output ev) next := by
    intro hevent hnil
    rw [hnil, List.append_nil]
    rcases (step_feeds hrotation.good ht hadmitted hevent hstep).2 with
      hfeeds | hempty
    · exact hrotation.feed hgood hfeeds hquantum hlt hgrant
    · rw [hempty] at hf
      cases hf
  cases ev with
  | enqueue s hash skb more rounds =>
      exact hcall (fun s now hev => by cases hev) rfl
  | filter s chosen => exact hcall (fun s now hev => by cases hev) rfl
  | reset s => exact hcall (fun s now hev => by cases hev) rfl
  | setParams limit memoryLimit quantum =>
      exact hcall (fun s now hev => by cases hev) rfl
  | round s now =>
      by_cases hs : s = t
      · subst s
        have hself : sentBy t g output (.round t now) = ofFlow g output :=
          if_pos rfl
        rw [hself]
        simp only [step, Option.ite_none_right_eq_some] at hstep
        obtain ⟨-, hround⟩ := hstep
        have hspec := round_spec { env with now := now }
          hrotation.good.good ht
        generalize hresult : st.round { env with now := now } t = result
          at hspec hround
        have hnone : packets ++ ofFlow g ([] : List (FlowPacket α)) =
            packets := List.append_nil packets
        cases hspec with
        | empty hfirst =>
            simp only [Option.some.injEq, Prod.mk.injEq] at hround
            rw [← hround.1, ← hround.2]
            exact hnone.symm ▸ hrotation
        | refill id hfirst hdeficit =>
            simp only [Option.some.injEq, Prod.mk.injEq] at hround
            have hne : id ≠ f := by
              intro heq
              subst id
              exact hservice ⟨⟨now, rfl⟩, hfirst, hdeficit⟩
            rw [← hround.1, ← hround.2, hnone]
            exact hrotation.refill ht hfirst hne
        | pass id head hfirst hdeficit hqueue hfq hfreed =>
            simp only [Option.some.injEq, Prod.mk.injEq] at hround
            rw [← hround.1] at hf hg
            rw [← hround.1, ← hround.2, hnone]
            exact hrotation.pass ht hfirst hqueue hfq hfreed hf hg
        | send id head skb rest hfirst hdeficit hholds =>
            simp only [Option.some.injEq, Prod.mk.injEq] at hround
            rw [← hround.2] at hlen
            rw [← hround.1, ← hround.2]
            exact hrotation.send ht hfirst hdeficit hholds
              (hlen (id, skb) (by simp)) hlimit
      · have hnil : sentBy t g output (.round s now) = [] := if_neg hs
        rw [hnil, List.append_nil]
        exact hrotation.feed hgood (feeds_other hrotation.good.good ht
          (Ne.symm hs) hstep) hquantum hlt hgrant

end Rotation

end FairState

end IwlwifiStack
