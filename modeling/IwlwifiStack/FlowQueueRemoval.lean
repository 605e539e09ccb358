import IwlwifiStack.FlowQueueInvariant

/-!
# Removing packets from a flow

Packets leave a flow in five places: dequeue, the drops of CoDel and of an
overlimit queue, filter and reset.  All of them take packets off one queue and
call `__fq_adjust_removal` with the sums of what they took.
-/

namespace IwlwifiStack

variable {α : Type*}

/-! ## Sums over a queue -/

theorem bytesOf_append (left right : List (FqSkb α)) :
    bytesOf (left ++ right) = bytesOf left + bytesOf right := by
  simp [bytesOf]

theorem truesizeOf_append (left right : List (FqSkb α)) :
    truesizeOf (left ++ right) = truesizeOf left + truesizeOf right := by
  simp [truesizeOf]

theorem bytesOf_perm {left right : List (FqSkb α)}
    (hperm : left.Perm right) : bytesOf left = bytesOf right :=
  (hperm.map FqSkb.len).sum_eq

theorem truesizeOf_perm {left right : List (FqSkb α)}
    (hperm : left.Perm right) : truesizeOf left = truesizeOf right :=
  (hperm.map FqSkb.truesize).sum_eq

theorem bytesOf_ne_zero {queue : List (FqSkb α)}
    (hpos : ∀ skb ∈ queue, 0 < skb.len) : bytesOf queue ≠ 0 ↔ queue ≠ [] := by
  cases queue with
  | nil => simp [bytesOf]
  | cons skb rest =>
      have hlen := hpos skb List.mem_cons_self
      simp only [bytesOf, List.map_cons, List.sum_cons]
      constructor
      · intro _ hnil
        cases hnil
      · intro _
        omega

theorem foldl_u32Add {weight : FqSkb α → ℕ} (queue : List (FqSkb α))
    (start : ℕ) (hlt : start + (queue.map weight).sum < 2 ^ 32) :
    queue.foldl (fun sum skb => u32Add sum (weight skb)) start =
      start + (queue.map weight).sum := by
  induction queue generalizing start with
  | nil => rfl
  | cons skb rest ih =>
      simp only [List.map_cons, List.sum_cons] at hlt ⊢
      rw [List.foldl_cons, u32Add_eq (by omega), ih _ (by omega), add_assoc]

/-! ## `__fq_adjust_removal` -/

/-- `fq'` is `fq` with balanced books and this queue left in flow `id`. -/
structure Removes (numTins : ℕ) (fq fq' : Fq α) (id : FqFlowId)
    (queue : List (FqSkb α)) : Prop where
  good : FqGood numTins fq'
  flows_eq : fq'.flows = Function.update fq.flows id
    { fq.flows id with queue := queue, backlog := bytesOf queue }
  lists_eq : ∀ t, (fq'.tins t).newFlows = (fq.tins t).newFlows ∧
    (fq'.tins t).oldFlows = (fq.tins t).oldFlows
  flowsCnt_eq : fq'.flowsCnt = fq.flowsCnt

section Removal

variable {numTins t : ℕ} {fq : Fq α} {id : FqFlowId}

theorem FqGood.tin_le_total (hgood : FqGood numTins fq) (ht : t < numTins) :
    (fq.tins t).backlogBytes ≤
        (fq.total numTins fun flow => bytesOf flow.queue) ∧
      (fq.tins t).backlogPackets ≤ fq.backlog := by
  rw [hgood.tin_bytes t ht, hgood.tin_packets t ht, hgood.backlog_total]
  constructor
  · apply Finset.sum_le_sum
    intro other _
    unfold FqFlow.bytesFor
    split
    · exact le_refl _
    · exact Nat.zero_le _
  · apply Finset.sum_le_sum
    intro other _
    unfold FqFlow.packetsFor
    split
    · exact le_refl _
    · exact Nat.zero_le _

theorem FqGood.covers (hgood : FqGood numTins fq)
    (hid : id ∈ fq.flowIds numTins) (htin : (fq.flows id).tin = some t) :
    (bytesOf (fq.flows id).queue ≤ (fq.tins t).backlogBytes ∧
      (fq.tins t).backlogBytes < 2 ^ 32) ∧
    ((fq.flows id).queue.length ≤ (fq.tins t).backlogPackets ∧
      (fq.tins t).backlogPackets < 2 ^ 32) ∧
    (fq.flows id).queue.length ≤ fq.backlog ∧
    truesizeOf (fq.flows id).queue ≤ fq.memoryUsage := by
  have ht := (hgood.owner id hid t htin).1
  have hbytes := Fq.weight_le_total (FqFlow.bytesFor t) hid
  have hpackets := Fq.weight_le_total (FqFlow.packetsFor t) hid
  simp only [FqFlow.bytesFor, htin, if_true] at hbytes
  simp only [FqFlow.packetsFor, htin, if_true] at hpackets
  rw [← hgood.tin_bytes t ht] at hbytes
  rw [← hgood.tin_packets t ht] at hpackets
  obtain ⟨hbytesTotal, hpacketsTotal⟩ := hgood.tin_le_total ht
  have hlength := Fq.weight_le_total (fun flow => flow.queue.length) hid
  have htruesize :=
    Fq.weight_le_total (fun flow => truesizeOf flow.queue) hid
  rw [← hgood.backlog_total] at hlength
  rw [← hgood.memoryUsage_total] at htruesize
  exact ⟨⟨hbytes, hbytesTotal.trans_lt hgood.bytes_lt⟩,
    ⟨hpackets, hpacketsTotal.trans_lt hgood.packets_lt⟩, hlength, htruesize⟩

theorem FqGood.removal_update {queue removed : List (FqSkb α)} {fq' : Fq α}
    (hgood : FqGood numTins fq) (hid : id ∈ fq.flowIds numTins)
    (htin : (fq.flows id).tin = some t)
    (hsplit : (fq.flows id).queue.Perm (removed ++ queue))
    (hflows : fq'.flows = Function.update fq.flows id
      { fq.flows id with queue := queue, backlog := bytesOf queue })
    (htins : fq'.tins = Function.update fq.tins t
      { fq.tins t with
        backlogBytes := (fq.tins t).backlogBytes - bytesOf removed
        backlogPackets := (fq.tins t).backlogPackets - removed.length })
    (hcnt : fq'.flowsCnt = fq.flowsCnt)
    (hbacklog : fq'.backlog = fq.backlog - removed.length)
    (hmemory : fq'.memoryUsage = fq.memoryUsage - truesizeOf removed)
    (hself : fq'.Marked id ↔ bytesOf queue ≠ 0)
    (hother : ∀ other, other ≠ id → (fq'.Marked other ↔ fq.Marked other))
    (hnodup : fq'.tinBacklog.Nodup) :
    FlowUpdate numTins fq fq' id t
      { fq.flows id with queue := queue, backlog := bytesOf queue } := by
  have hcovers := hgood.covers hid htin
  have hbytes := bytesOf_perm hsplit
  have htruesize := truesizeOf_perm hsplit
  have hlength := hsplit.length_eq
  rw [bytesOf_append] at hbytes
  rw [truesizeOf_append] at htruesize
  rw [List.length_append] at hlength
  have howner := hgood.owner id hid t htin
  have htin' : fq'.tins t = { fq.tins t with
      backlogBytes := (fq.tins t).backlogBytes - bytesOf removed
      backlogPackets := (fq.tins t).backlogPackets - removed.length } := by
    rw [htins, Function.update_self]
  constructor
  · exact hid
  · exact howner.1
  · exact hflows
  · exact hcnt
  · intro s hs
    rw [htins, Function.update_of_ne hs]
  · exact Or.inr htin
  · exact Or.inr ⟨htin, howner.2⟩
  · rfl
  · intro skb hskb
    exact hgood.len_pos id hid skb
      (hsplit.mem_iff.mpr (List.mem_append_right _ hskb))
  · exact hgood.linked_eq id hid
  · rw [htin']
    exact hgood.listed_nodup t howner.1
  · intro other
    rw [htin']
    change other ∈ (fq.tins t).listed ↔ _
    by_cases heq : other = id
    · subst other
      rw [if_pos rfl, hgood.mem_listed t howner.1]
      exact and_iff_right hid
    · rw [if_neg heq]
  · rw [htin']
    simp only [FqFlow.bytesFor, htin, if_true]
    omega
  · rw [htin']
    simp only [FqFlow.packetsFor, htin, if_true]
    omega
  · simp only [hbacklog]
    omega
  · simp only [hmemory]
    omega
  · exact hself
  · exact hother
  · exact hnodup
  · have := hgood.bytes_lt
    simp only
    omega
  · have := hgood.packets_lt
    omega
  · have := hgood.truesize_lt
    omega

/-- The counters after the removal, with the marks as they were. -/
def Fq.uncounted (fq : Fq α) (t : ℕ) (id : FqFlowId)
    (queue removed : List (FqSkb α)) : Fq α :=
  { fq with
    flows := Function.update fq.flows id
      { fq.flows id with queue := queue, backlog := bytesOf queue }
    tins := Function.update fq.tins t
      { fq.tins t with
        backlogBytes := (fq.tins t).backlogBytes - bytesOf removed
        backlogPackets := (fq.tins t).backlogPackets - removed.length }
    backlog := fq.backlog - removed.length
    memoryUsage := fq.memoryUsage - truesizeOf removed }

theorem FqGood.adjustRemoval_eq {queue removed : List (FqSkb α)}
    (hgood : FqGood numTins fq) (hid : id ∈ fq.flowIds numTins)
    (htin : (fq.flows id).tin = some t)
    (hsplit : (fq.flows id).queue.Perm (removed ++ queue)) :
    (fq.setQueue id queue).adjustRemoval id removed.length
        (bytesOf removed) (truesizeOf removed) =
      if bytesOf queue ≠ 0 then some (fq.uncounted t id queue removed)
      else (fq.uncounted t id queue removed).clearBacklogged t id := by
  have hcovers := hgood.covers hid htin
  have hbytes := bytesOf_perm hsplit
  have htruesize := truesizeOf_perm hsplit
  have hlength := hsplit.length_eq
  rw [bytesOf_append] at hbytes
  rw [truesizeOf_append] at htruesize
  rw [List.length_append] at hlength
  have hpackets_lt := hgood.packets_lt
  have htruesize_lt := hgood.truesize_lt
  have hflow : u32Sub (fq.flows id).backlog (bytesOf removed) =
      bytesOf queue := by
    rw [hgood.backlog_eq id hid, u32Sub_eq (by omega) (by omega)]
    omega
  have htinBytes := @u32Sub_eq (fq.tins t).backlogBytes (bytesOf removed)
    hcovers.1.2 (by omega)
  have htinPackets := @u32Sub_eq (fq.tins t).backlogPackets removed.length
    hcovers.2.1.2 (by omega)
  have hbacklog := @u32Sub_eq fq.backlog removed.length hpackets_lt
    (by omega)
  have hmemory := @u32Sub_eq fq.memoryUsage (truesizeOf removed)
    htruesize_lt (by omega)
  have htin' : ((fq.setQueue id queue).flows id).tin = some t := by
    simpa [Fq.setQueue, Fq.setFlow] using htin
  unfold Fq.adjustRemoval
  rw [htin']
  simp only [Fq.setQueue, Fq.setFlow, Fq.setTin, Function.update_self,
    Function.update_idem, hflow, htinBytes, htinPackets, hbacklog, hmemory]
  rfl

theorem FqGood.adjustRemoval {queue removed : List (FqSkb α)}
    (hgood : FqGood numTins fq) (hid : id ∈ fq.flowIds numTins)
    (htin : (fq.flows id).tin = some t)
    (hsplit : (fq.flows id).queue.Perm (removed ++ queue)) :
    ∃ fq', (fq.setQueue id queue).adjustRemoval id removed.length
        (bytesOf removed) (truesizeOf removed) = some fq' ∧
      Removes numTins fq fq' id queue := by
  have howner := hgood.owner id hid t htin
  have hmarked := hgood.marked_iff id hid
  have hbytes := bytesOf_perm hsplit
  rw [bytesOf_append, ← hgood.backlog_eq id hid] at hbytes
  have hlists : ∀ s,
      ((fq.uncounted t id queue removed).tins s).newFlows =
          (fq.tins s).newFlows ∧
        ((fq.uncounted t id queue removed).tins s).oldFlows =
          (fq.tins s).oldFlows := by
    intro s
    by_cases hs : s = t
    · subst s
      simp only [Fq.uncounted, Function.update_self, and_self]
    · simp only [Fq.uncounted, Function.update_of_ne hs, and_self]
  rw [hgood.adjustRemoval_eq hid htin hsplit]
  by_cases hempty : bytesOf queue = 0
  · rw [if_neg (not_not.mpr hempty)]
    cases id with
    | hashed idx =>
        refine ⟨_, rfl, ?_, rfl, hlists, rfl⟩
        apply FlowUpdate.good hgood
        refine hgood.removal_update hid htin hsplit rfl rfl rfl rfl rfl
          ?_ ?_ hgood.tinBacklog_nodup
        · simp [Fq.Marked, hempty]
        · intro other hother
          cases other with
          | defaultFlow s => exact Iff.rfl
          | hashed i =>
              have hi : i ≠ idx := fun heq => hother (heq ▸ rfl)
              simp only [Fq.Marked, Function.update_of_ne hi]
              rfl
    | defaultFlow s =>
        have hs : s = t := howner.2 s rfl
        subst s
        simp only [Fq.clearBacklogged, if_true]
        refine ⟨_, rfl, ?_, rfl, hlists, rfl⟩
        apply FlowUpdate.good hgood
        refine hgood.removal_update hid htin hsplit rfl rfl rfl rfl rfl
          ?_ ?_ (hgood.tinBacklog_nodup.erase t)
        · simp [Fq.Marked, hempty, Fq.uncounted,
            hgood.tinBacklog_nodup.mem_erase_iff]
        · intro other hother
          cases other with
          | hashed i => exact Iff.rfl
          | defaultFlow s =>
              have hs : s ≠ t := fun heq => hother (heq ▸ rfl)
              exact List.mem_erase_of_ne hs
  · rw [if_pos hempty]
    refine ⟨_, rfl, ?_, rfl, hlists, rfl⟩
    apply FlowUpdate.good hgood
    refine hgood.removal_update hid htin hsplit rfl rfl rfl rfl rfl
      ?_ ?_ hgood.tinBacklog_nodup
    · cases id <;>
        exact hmarked.trans ⟨fun _ => hempty, fun _ => by omega⟩
    · intro other _
      cases other <;> exact Iff.rfl

end Removal

end IwlwifiStack
