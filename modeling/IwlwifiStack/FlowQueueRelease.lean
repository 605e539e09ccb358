import IwlwifiStack.FlowQueueRemoval

/-!
# The packets that leave a flow

What is dequeued, dropped, filtered or purged comes off the queue of its flow,
in the order of the queue, and nothing else changes hands.
-/

namespace IwlwifiStack

variable {α : Type*}

def ofFlow (id : FqFlowId) (log : List (FlowPacket α)) : List (FqSkb α) :=
  (log.filter fun packet => packet.1 = id).map Prod.snd

theorem ofFlow_append (id : FqFlowId) (left right : List (FlowPacket α)) :
    ofFlow id (left ++ right) = ofFlow id left ++ ofFlow id right := by
  simp [ofFlow]

theorem ofFlow_map_self (id : FqFlowId) (queue : List (FqSkb α)) :
    ofFlow id (queue.map fun skb => (id, skb)) = queue := by
  induction queue with
  | nil => rfl
  | cons skb rest ih => simpa [ofFlow] using ih

theorem ofFlow_map_other {id other : FqFlowId} (hother : other ≠ id)
    (queue : List (FqSkb α)) :
    ofFlow other (queue.map fun skb => (id, skb)) = [] := by
  induction queue with
  | nil => rfl
  | cons skb rest ih => simp [ofFlow, Ne.symm hother]

/-- What a call releases comes off the queues: what is sent from their heads,
what is freed from anywhere. -/
structure Moves (fq : Fq α) (released : Fq.Released α) : Prop where
  fifo : ∀ id, (ofFlow id released.sent ++
    (released.fq.flows id).queue).Sublist (fq.flows id).queue
  conserved : ∀ id, ((fq.flows id).queue : Multiset (FqSkb α)) =
    ↑(ofFlow id released.sent) + ↑(ofFlow id released.freed) +
      ↑(released.fq.flows id).queue

/-- The flows are on the same lists, belong to the same tins and have the
same deficits. -/
structure SameLinks (fq fq' : Fq α) : Prop where
  tin_eq : ∀ id, (fq'.flows id).tin = (fq.flows id).tin
  lists_eq : ∀ t, (fq'.tins t).newFlows = (fq.tins t).newFlows ∧
    (fq'.tins t).oldFlows = (fq.tins t).oldFlows
  flowsCnt_eq : fq'.flowsCnt = fq.flowsCnt
  deficit_eq : ∀ id, (fq'.flows id).deficit = (fq.flows id).deficit

/-- The books stay balanced while packets leave the flows. -/
structure Releases (numTins : ℕ) (fq : Fq α) (released : Fq.Released α) :
    Prop where
  good : FqGood numTins released.fq
  moves : Moves fq released
  links : SameLinks fq released.fq

namespace SameLinks

variable {fq mid fq' : Fq α}

theorem refl (fq : Fq α) : SameLinks fq fq :=
  ⟨fun _ => rfl, fun _ => ⟨rfl, rfl⟩, rfl, fun _ => rfl⟩

theorem trans (hfirst : SameLinks fq mid) (hlast : SameLinks mid fq') :
    SameLinks fq fq' :=
  ⟨fun id => (hlast.tin_eq id).trans (hfirst.tin_eq id),
    fun t => ⟨(hlast.lists_eq t).1.trans (hfirst.lists_eq t).1,
      (hlast.lists_eq t).2.trans (hfirst.lists_eq t).2⟩,
    hlast.flowsCnt_eq.trans hfirst.flowsCnt_eq,
    fun id => (hlast.deficit_eq id).trans (hfirst.deficit_eq id)⟩

theorem flowIds_eq (hlinks : SameLinks fq fq') (numTins : ℕ) :
    fq'.flowIds numTins = fq.flowIds numTins := by
  rw [Fq.flowIds, hlinks.flowsCnt_eq, ← Fq.flowIds]

theorem listed_eq (hlinks : SameLinks fq fq') (t : ℕ) :
    (fq'.tins t).listed = (fq.tins t).listed := by
  rw [FqTin.listed, FqTin.listed, (hlinks.lists_eq t).1,
    (hlinks.lists_eq t).2]

end SameLinks

namespace Moves

variable {fq mid : Fq α} {freed : List (FlowPacket α)}
  {last : Fq.Released α}

theorem none (fq : Fq α) : Moves fq ⟨[], [], fq⟩ :=
  ⟨fun _ => List.Sublist.refl _, fun _ => by simp [ofFlow]⟩

theorem afterFreed (hfirst : Moves fq ⟨[], freed, mid⟩)
    (hlast : Moves mid last) : Moves fq (last.afterFreed freed) := by
  constructor
  · intro id
    exact (hlast.fifo id).trans (hfirst.fifo id)
  · intro id
    rw [hfirst.conserved id, hlast.conserved id]
    simp only [Fq.Released.afterFreed, ofFlow_append, ← Multiset.coe_add]
    simp only [ofFlow, List.filter_nil, List.map_nil, Multiset.coe_nil]
    abel

theorem congr {fq' : Fq α} (hmoves : Moves fq last)
    (hqueue : ∀ id, (fq'.flows id).queue = (last.fq.flows id).queue) :
    Moves fq { last with fq := fq' } := by
  constructor
  · intro id
    rw [hqueue id]
    exact hmoves.fifo id
  · intro id
    rw [hqueue id]
    exact hmoves.conserved id

end Moves

namespace Releases

variable {numTins : ℕ} {fq mid : Fq α} {freed : List (FlowPacket α)}
  {last : Fq.Released α}

theorem none (hgood : FqGood numTins fq) :
    Releases numTins fq ⟨[], [], fq⟩ :=
  ⟨hgood, .none fq, .refl fq⟩

theorem afterFreed (hfirst : Releases numTins fq ⟨[], freed, mid⟩)
    (hlast : Releases numTins mid last) :
    Releases numTins fq (last.afterFreed freed) :=
  ⟨hlast.good, hfirst.moves.afterFreed hlast.moves,
    hfirst.links.trans hlast.links⟩

end Releases

/-! ## One removal -/

section Flow

variable {numTins t : ℕ} {fq fq' : Fq α} {id : FqFlowId}

theorem Removes.links {queue : List (FqSkb α)}
    (hremoves : Removes numTins fq fq' id queue) : SameLinks fq fq' := by
  constructor
  · intro other
    rw [hremoves.flows_eq]
    by_cases hother : other = id
    · subst other
      rw [Function.update_self]
    · rw [Function.update_of_ne hother]
  · exact hremoves.lists_eq
  · exact hremoves.flowsCnt_eq
  · intro other
    rw [hremoves.flows_eq]
    by_cases hother : other = id
    · subst other
      rw [Function.update_self]
    · rw [Function.update_of_ne hother]

theorem Removes.queue_self {queue : List (FqSkb α)}
    (hremoves : Removes numTins fq fq' id queue) :
    (fq'.flows id).queue = queue := by
  rw [hremoves.flows_eq, Function.update_self]

theorem Removes.queue_other {queue : List (FqSkb α)}
    (hremoves : Removes numTins fq fq' id queue) {other : FqFlowId}
    (hother : other ≠ id) :
    (fq'.flows other).queue = (fq.flows other).queue := by
  rw [hremoves.flows_eq, Function.update_of_ne hother]

theorem Removes.freed {queue removed : List (FqSkb α)}
    (hremoves : Removes numTins fq fq' id queue)
    (hsublist : queue.Sublist (fq.flows id).queue)
    (hsplit : (fq.flows id).queue.Perm (removed ++ queue)) :
    Releases numTins fq
      ⟨[], removed.map fun skb => (id, skb), fq'⟩ := by
  refine ⟨hremoves.good, ⟨?_, ?_⟩, hremoves.links⟩
  · intro other
    by_cases hother : other = id
    · subst other
      rw [hremoves.queue_self]
      exact hsublist
    · rw [hremoves.queue_other hother]
      exact List.Sublist.refl _
  · intro other
    by_cases hother : other = id
    · subst other
      rw [hremoves.queue_self, ofFlow_map_self, Multiset.coe_eq_coe.mpr
        hsplit, ← Multiset.coe_add]
      simp [ofFlow]
    · rw [hremoves.queue_other hother, ofFlow_map_other hother]
      simp [ofFlow]

theorem Removes.sent {queue : List (FqSkb α)} {skb : FqSkb α}
    (hremoves : Removes numTins fq fq' id queue)
    (hhead : (fq.flows id).queue = skb :: queue) :
    Releases numTins fq ⟨[(id, skb)], [], fq'⟩ := by
  refine ⟨hremoves.good, ⟨?_, ?_⟩, hremoves.links⟩
  · intro other
    by_cases hother : other = id
    · subst other
      rw [hremoves.queue_self, hhead]
      simp [ofFlow]
    · rw [hremoves.queue_other hother]
      simp [ofFlow, Ne.symm hother]
  · intro other
    by_cases hother : other = id
    · subst other
      rw [hremoves.queue_self, hhead]
      simp [ofFlow]
    · rw [hremoves.queue_other hother]
      simp [ofFlow, Ne.symm hother]

theorem FqGood.fqAdjustRemoval {queue : List (FqSkb α)} {skb : FqSkb α}
    (hgood : FqGood numTins fq) (hid : id ∈ fq.flowIds numTins)
    (htin : (fq.flows id).tin = some t)
    (hsplit : (fq.flows id).queue.Perm (skb :: queue)) :
    ∃ fq', (fq.setQueue id queue).fqAdjustRemoval id skb = some fq' ∧
      Removes numTins fq fq' id queue := by
  have hone := @FqGood.adjustRemoval α numTins t fq id queue [skb] hgood hid
    htin hsplit
  simpa [bytesOf, truesizeOf, Fq.fqAdjustRemoval] using hone

theorem FqGood.fqFlowDequeue {queue : List (FqSkb α)} {skb : FqSkb α}
    (hgood : FqGood numTins fq) (hid : id ∈ fq.flowIds numTins)
    (htin : (fq.flows id).tin = some t)
    (hhead : (fq.flows id).queue = skb :: queue) :
    ∃ fq', fq.fqFlowDequeue id = some (some skb, fq') ∧
      Removes numTins fq fq' id queue := by
  obtain ⟨fq', hadjust, hremoves⟩ :=
    hgood.fqAdjustRemoval hid htin (List.Perm.of_eq hhead)
  refine ⟨fq', ?_, hremoves⟩
  simp only [Fq.fqFlowDequeue, hhead, hadjust, Option.map_some]

theorem Fq.fqFlowDequeue_nil (hempty : (fq.flows id).queue = []) :
    fq.fqFlowDequeue id = some (none, fq) := by
  simp only [Fq.fqFlowDequeue, hempty]

/-! ## CoDel, purge and filter -/

theorem FqGood.codelDequeue (drops : FqSkb α → Bool) {left : ℕ}
    (hgood : FqGood numTins fq) (hid : id ∈ fq.flowIds numTins)
    (htin : (fq.flows id).tin = some t)
    (hleft : (fq.flows id).queue.length < left) :
    ∃ result, fq.codelDequeue drops id left = some result ∧
      Releases numTins fq result.2 ∧
      (result.1 = none → result.2.sent = [] ∧
        (result.2.fq.flows id).queue = []) ∧
      ∀ skb, result.1 = some skb → result.2.sent = [(id, skb)] := by
  induction left generalizing fq with
  | zero => omega
  | succ left ih =>
      cases hqueue : (fq.flows id).queue with
      | nil =>
          refine ⟨(none, ⟨[], [], fq⟩), ?_, .none hgood,
            fun _ => ⟨rfl, hqueue⟩, fun skb hskb => by cases hskb⟩
          simp only [Fq.codelDequeue, Fq.fqFlowDequeue_nil hqueue,
            Option.bind_some]
      | cons skb rest =>
          obtain ⟨fq', hdequeue, hremoves⟩ :=
            hgood.fqFlowDequeue hid htin hqueue
          by_cases hdrop : drops skb = true
          · have hid' : id ∈ fq'.flowIds numTins := by
              rw [hremoves.links.flowIds_eq]
              exact hid
            have hlength : (fq'.flows id).queue.length < left := by
              rw [hremoves.queue_self]
              rw [hqueue, List.length_cons] at hleft
              omega
            obtain ⟨result, hresult, hreleases, hnone, hsome⟩ :=
              ih hremoves.good hid'
                ((hremoves.links.tin_eq id).trans htin) hlength
            refine ⟨(result.1, result.2.afterFreed [(id, skb)]), ?_, ?_,
              hnone, hsome⟩
            · simp only [Fq.codelDequeue, hdequeue, Option.bind_some, hdrop,
                if_true, hresult, Option.map_some]
            · have hfreed := @Removes.freed α numTins fq fq' id rest [skb]
                hremoves (hqueue ▸ List.sublist_cons_self skb rest)
                (List.Perm.of_eq hqueue)
              exact hfreed.afterFreed hreleases
          · refine ⟨(some skb, ⟨[(id, skb)], [], fq'⟩), ?_,
              hremoves.sent hqueue, fun hnone => (by cases hnone), ?_⟩
            · simp only [Fq.codelDequeue, hdequeue, Option.bind_some, hdrop,
                Bool.false_eq_true, if_false]
            · intro other hother
              rw [Option.some.inj hother]

theorem FqGood.purgeQueue {left : ℕ} (hgood : FqGood numTins fq)
    (hid : id ∈ fq.flowIds numTins) (htin : (fq.flows id).tin = some t)
    (hleft : (fq.flows id).queue.length < left) :
    ∃ released, fq.purgeQueue id left = some released ∧
      Releases numTins fq released ∧ released.sent = [] ∧
      (released.fq.flows id).queue = [] := by
  induction left generalizing fq with
  | zero => omega
  | succ left ih =>
      cases hqueue : (fq.flows id).queue with
      | nil =>
          refine ⟨⟨[], [], fq⟩, ?_, .none hgood, rfl, hqueue⟩
          simp only [Fq.purgeQueue, Fq.fqFlowDequeue_nil hqueue,
            Option.bind_some]
      | cons skb rest =>
          obtain ⟨fq', hdequeue, hremoves⟩ :=
            hgood.fqFlowDequeue hid htin hqueue
          have hid' : id ∈ fq'.flowIds numTins := by
            rw [hremoves.links.flowIds_eq]
            exact hid
          have hlength : (fq'.flows id).queue.length < left := by
            rw [hremoves.queue_self]
            rw [hqueue, List.length_cons] at hleft
            omega
          obtain ⟨released, hpurge, hreleases, hsent, hempty⟩ :=
            ih hremoves.good hid' ((hremoves.links.tin_eq id).trans htin)
              hlength
          refine ⟨released.afterFreed [(id, skb)], ?_, ?_, hsent, hempty⟩
          · simp only [Fq.purgeQueue, hdequeue, Option.bind_some, hpurge,
              Option.map_some]
          · have hfreed := @Removes.freed α numTins fq fq' id rest [skb]
              hremoves (hqueue ▸ List.sublist_cons_self skb rest)
              (List.Perm.of_eq hqueue)
            exact hfreed.afterFreed hreleases

theorem FqGood.filterQueue (filter : FqSkb α → Bool)
    {kept todo : List (FqSkb α)} (hgood : FqGood numTins fq)
    (hid : id ∈ fq.flowIds numTins) (htin : (fq.flows id).tin = some t)
    (hqueue : (fq.flows id).queue = kept ++ todo) :
    ∃ released, fq.filterQueue filter id kept todo = some released ∧
      Releases numTins fq released ∧ released.sent = [] := by
  induction todo generalizing fq kept with
  | nil => exact ⟨⟨[], [], fq⟩, rfl, .none hgood, rfl⟩
  | cons skb rest ih =>
      by_cases hmatch : filter skb = true
      · have hsplit : (fq.flows id).queue.Perm (skb :: (kept ++ rest)) := by
          rw [hqueue]
          exact List.perm_middle
        obtain ⟨fq', hadjust, hremoves⟩ :=
          hgood.fqAdjustRemoval hid htin hsplit
        have hid' : id ∈ fq'.flowIds numTins := by
          rw [hremoves.links.flowIds_eq]
          exact hid
        obtain ⟨released, hfilter, hreleases, hsent⟩ :=
          ih hremoves.good hid' ((hremoves.links.tin_eq id).trans htin)
            hremoves.queue_self
        refine ⟨released.afterFreed [(id, skb)], ?_, ?_, hsent⟩
        · simp only [Fq.filterQueue, hmatch, if_true, hadjust,
            Option.bind_some, hfilter, Option.map_some]
        · have hsublist : (kept ++ rest).Sublist (fq.flows id).queue := by
            rw [hqueue]
            exact (List.sublist_cons_self skb rest).append_left kept
          have hfreed := @Removes.freed α numTins fq fq' id (kept ++ rest)
            [skb] hremoves hsublist hsplit
          exact hfreed.afterFreed hreleases
      · have hqueue' : (fq.flows id).queue = (kept ++ [skb]) ++ rest := by
          rw [hqueue, List.append_assoc]
          rfl
        obtain ⟨released, hfilter, hreleases, hsent⟩ :=
          ih hgood hid htin hqueue'
        refine ⟨released, ?_, hreleases, hsent⟩
        simp only [Fq.filterQueue, hmatch, Bool.false_eq_true, if_false,
          hfilter]

theorem FqGood.filterFlows (filter : FqFlowId → FqSkb α → Bool)
    {ids : List FqFlowId} (hgood : FqGood numTins fq)
    (hids : ∀ id ∈ ids, id ∈ fq.flowIds numTins ∧
      (fq.flows id).tin = some t) :
    ∃ released, fq.filterFlows filter ids = some released ∧
      Releases numTins fq released ∧ released.sent = [] := by
  induction ids generalizing fq with
  | nil => exact ⟨⟨[], [], fq⟩, rfl, .none hgood, rfl⟩
  | cons id ids ih =>
      have hid := hids id List.mem_cons_self
      obtain ⟨first, hfirst, hreleases, hsent⟩ :=
        @FqGood.filterQueue α numTins t fq id (filter id) [] _ hgood hid.1
          hid.2 rfl
      obtain ⟨released, hrest, hreleases', hsent'⟩ :=
        ih hreleases.good (fun other hother => by
          rw [hreleases.links.flowIds_eq, hreleases.links.tin_eq]
          exact hids other (List.mem_cons_of_mem id hother))
      refine ⟨released.afterFreed first.freed, ?_, ?_, hsent'⟩
      · simp only [Fq.filterFlows, Fq.fqFlowFilter, hfirst, Option.bind_some,
          hrest, Option.map_some]
      · have hfirst' : Releases numTins fq ⟨[], first.freed, first.fq⟩ := by
          rw [← hsent]
          exact hreleases
        exact hfirst'.afterFreed hreleases'

end Flow

end IwlwifiStack
