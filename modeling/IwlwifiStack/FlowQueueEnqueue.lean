import IwlwifiStack.FlowQueueCalls

/-!
# The packets that enter a flow

`fq_tin_enqueue` marks the flow, gives it to the tin, counts the packets and
links the flow; the books are balanced again when all of this is done.
-/

namespace IwlwifiStack

variable {α : Type*} {numTins t idx : ℕ} {fq fq' : Fq α} {id : FqFlowId}

/-- The counters have room for the packets. -/
structure Fits (numTins : ℕ) (fq : Fq α) (skbs : List (FqSkb α)) : Prop where
  bytes : (fq.total numTins fun flow => bytesOf flow.queue) + bytesOf skbs <
    2 ^ 32
  packets : (fq.total numTins fun flow => flow.queue.length) + skbs.length <
    2 ^ 32
  truesize : (fq.total numTins fun flow => truesizeOf flow.queue) +
    truesizeOf skbs < 2 ^ 32

theorem Fq.fqFlowIdx_lt (hpos : 0 < fq.flowsCnt) (hash : BitVec 32) :
    fq.fqFlowIdx hash < fq.flowsCnt := by
  apply Nat.div_lt_of_lt_mul
  exact Nat.mul_lt_mul_of_pos_right hash.isLt hpos

/-! ## The flow of the packets -/

theorem fqFlowClassify_tins (fq : Fq α) (t idx s : ℕ) :
    ((fq.fqFlowClassify t idx).2.tins s).newFlows = (fq.tins s).newFlows ∧
      ((fq.fqFlowClassify t idx).2.tins s).oldFlows =
        (fq.tins s).oldFlows ∧
      ((fq.fqFlowClassify t idx).2.tins s).backlogBytes =
        (fq.tins s).backlogBytes ∧
      ((fq.fqFlowClassify t idx).2.tins s).backlogPackets =
        (fq.tins s).backlogPackets := by
  simp only [Fq.fqFlowClassify, Fq.setTin]
  by_cases hs : s = t
  · subst s
    split <;> split <;> simp
  · split <;> split <;> simp [Function.update_of_ne hs]

theorem fqFlowClassify_frame (fq : Fq α) (t idx : ℕ) :
    (fq.fqFlowClassify t idx).2.flows = fq.flows ∧
      (fq.fqFlowClassify t idx).2.flowsBitmap = fq.flowsBitmap ∧
      (fq.fqFlowClassify t idx).2.tinBacklog = fq.tinBacklog ∧
      (fq.fqFlowClassify t idx).2.flowsCnt = fq.flowsCnt ∧
      (fq.fqFlowClassify t idx).2.memoryUsage = fq.memoryUsage ∧
      (fq.fqFlowClassify t idx).2.backlog = fq.backlog := by
  simp only [Fq.fqFlowClassify, Fq.setTin]
  split <;> split <;> exact ⟨rfl, rfl, rfl, rfl, rfl, rfl⟩

theorem FqGood.fqFlowClassify (hgood : FqGood numTins fq)
    (t idx : ℕ) : FqGood numTins (fq.fqFlowClassify t idx).2 := by
  obtain ⟨hflows, hbitmap, htinBacklog, hcnt, hmemory, hbacklog⟩ :=
    fqFlowClassify_frame fq t idx
  refine hgood.congr hflows hbitmap ?_ htinBacklog hcnt hmemory hbacklog
  intro s
  obtain ⟨hnew, hold, hbytes, hpackets⟩ := fqFlowClassify_tins fq t idx s
  rw [FqTin.listed, FqTin.listed, hnew, hold]
  exact ⟨rfl, hbytes, hpackets⟩

theorem FqGood.classified (hgood : FqGood numTins fq) (ht : t < numTins)
    (hidx : idx < fq.flowsCnt) :
    (fq.fqFlowClassify t idx).1 ∈ fq.flowIds numTins ∧
      ((fq.flows (fq.fqFlowClassify t idx).1).tin = none ∨
        (fq.flows (fq.fqFlowClassify t idx).1).tin = some t) ∧
      ∀ s, (fq.fqFlowClassify t idx).1 = .defaultFlow s → s = t := by
  by_cases hcollides : (fq.flows (.hashed idx)).tin ≠ none ∧
      (fq.flows (.hashed idx)).tin ≠ some t
  · have hid : (fq.fqFlowClassify t idx).1 = .defaultFlow t := by
      simp only [Fq.fqFlowClassify]
      rw [if_pos (decide_eq_true hcollides)]
    have hmem : .defaultFlow t ∈ fq.flowIds numTins :=
      Fq.defaultFlow_mem_flowIds.mpr ht
    rw [hid]
    refine ⟨hmem, ?_, ?_⟩
    · cases htin : (fq.flows (.defaultFlow t)).tin with
      | none => exact Or.inl rfl
      | some s =>
          have hs := (hgood.owner _ hmem s htin).2 t rfl
          exact Or.inr (by rw [hs])
    · intro s hs
      cases hs
      rfl
  · have hid : (fq.fqFlowClassify t idx).1 = .hashed idx := by
      simp only [Fq.fqFlowClassify, hcollides, decide_false,
        Bool.false_eq_true, if_false]
    rw [hid]
    refine ⟨Fq.hashed_mem_flowIds.mpr hidx, ?_, ?_⟩
    · by_cases hnone : (fq.flows (.hashed idx)).tin = none
      · exact Or.inl hnone
      · exact Or.inr (not_not.mp fun hne => hcollides ⟨hnone, hne⟩)
    · intro s hs
      cases hs

/-! ## The packets -/

theorem foldl_queueSkb_mod (t : ℕ) (id : FqFlowId) (skbs : List (FqSkb α))
    (fq : Fq α) (hbytes : (fq.flows id).backlog < 2 ^ 32)
    (htinBytes : (fq.tins t).backlogBytes < 2 ^ 32)
    (htinPackets : (fq.tins t).backlogPackets < 2 ^ 32)
    (hpackets : fq.backlog < 2 ^ 32) (htruesize : fq.memoryUsage < 2 ^ 32) :
    skbs.foldl (Fq.queueSkb t id) fq =
      { fq with
        flows := Function.update fq.flows id
          { fq.flows id with
            queue := (fq.flows id).queue ++ skbs
            backlog := ((fq.flows id).backlog + bytesOf skbs) % 2 ^ 32 }
        tins := Function.update fq.tins t
          { fq.tins t with
            backlogBytes :=
              ((fq.tins t).backlogBytes + bytesOf skbs) % 2 ^ 32
            backlogPackets :=
              ((fq.tins t).backlogPackets + skbs.length) % 2 ^ 32 }
        memoryUsage := (fq.memoryUsage + truesizeOf skbs) % 2 ^ 32
        backlog := (fq.backlog + skbs.length) % 2 ^ 32 } := by
  induction skbs generalizing fq with
  | nil =>
      simp only [bytesOf, truesizeOf, List.map_nil, List.sum_nil,
        List.length_nil, add_zero, List.append_nil, List.foldl_nil]
      rw [Nat.mod_eq_of_lt hbytes, Nat.mod_eq_of_lt htinBytes,
        Nat.mod_eq_of_lt htinPackets, Nat.mod_eq_of_lt hpackets,
        Nat.mod_eq_of_lt htruesize, Function.update_eq_self,
        Function.update_eq_self]
  | cons skb rest ih =>
      have hlen : bytesOf (skb :: rest) = skb.len + bytesOf rest := by
        simp [bytesOf]
      have hsize :
          truesizeOf (skb :: rest) = skb.truesize + truesizeOf rest := by
        simp [truesizeOf]
      have hlt : ∀ a b : ℕ, u32Add a b < 2 ^ 32 :=
        fun a b => Nat.mod_lt _ (Nat.two_pow_pos 32)
      have hmod : ∀ a b c : ℕ, (u32Add a b + c) % 2 ^ 32 =
          (a + (b + c)) % 2 ^ 32 := by
        intro a b c
        rw [u32Add, Nat.mod_add_mod, Nat.add_assoc]
      rw [List.foldl_cons, ih]
      · simp only [Fq.queueSkb, Fq.setTin, Fq.setFlow, Function.update_self,
          Function.update_idem, hmod, hlen, hsize, List.append_assoc,
          List.cons_append, List.nil_append, List.length_cons,
          Nat.add_comm 1]
      all_goals
        simp only [Fq.queueSkb, Fq.setTin, Fq.setFlow, Function.update_self]
        exact hlt _ _

theorem foldl_queueSkb (t : ℕ) (id : FqFlowId) (skbs : List (FqSkb α))
    (fq : Fq α)
    (hbytes : (fq.flows id).backlog + bytesOf skbs < 2 ^ 32)
    (htinBytes : (fq.tins t).backlogBytes + bytesOf skbs < 2 ^ 32)
    (htinPackets : (fq.tins t).backlogPackets + skbs.length < 2 ^ 32)
    (hpackets : fq.backlog + skbs.length < 2 ^ 32)
    (htruesize : fq.memoryUsage + truesizeOf skbs < 2 ^ 32) :
    skbs.foldl (Fq.queueSkb t id) fq =
      { fq with
        flows := Function.update fq.flows id
          { fq.flows id with
            queue := (fq.flows id).queue ++ skbs
            backlog := (fq.flows id).backlog + bytesOf skbs }
        tins := Function.update fq.tins t
          { fq.tins t with
            backlogBytes := (fq.tins t).backlogBytes + bytesOf skbs
            backlogPackets := (fq.tins t).backlogPackets + skbs.length }
        memoryUsage := fq.memoryUsage + truesizeOf skbs
        backlog := fq.backlog + skbs.length } := by
  rw [foldl_queueSkb_mod t id skbs fq (by omega) (by omega) (by omega)
    (by omega) (by omega), Nat.mod_eq_of_lt hbytes,
    Nat.mod_eq_of_lt htinBytes, Nat.mod_eq_of_lt htinPackets,
    Nat.mod_eq_of_lt hpackets, Nat.mod_eq_of_lt htruesize]

/-- The state before the flow is linked. -/
def Fq.filled (fq : Fq α) (t : ℕ) (id : FqFlowId)
    (skbs : List (FqSkb α)) : Fq α :=
  let marked :=
    if (fq.flows id).backlog = 0 then fq.markBacklogged t id else fq
  { marked with
    flows := Function.update fq.flows id
      { fq.flows id with
        tin := some t
        queue := (fq.flows id).queue ++ skbs
        backlog := bytesOf ((fq.flows id).queue ++ skbs) }
    tins := Function.update fq.tins t
      { fq.tins t with
        backlogBytes := (fq.tins t).backlogBytes + bytesOf skbs
        backlogPackets := (fq.tins t).backlogPackets + skbs.length }
    memoryUsage := fq.memoryUsage + truesizeOf skbs
    backlog := fq.backlog + skbs.length }

theorem bytesOf_pos {skbs : List (FqSkb α)} (hne : skbs ≠ [])
    (hpos : ∀ skb ∈ skbs, 0 < skb.len) : bytesOf skbs ≠ 0 :=
  (bytesOf_ne_zero hpos).mpr hne

theorem markBacklogged_frame (fq : Fq α) (t : ℕ) (id : FqFlowId) :
    (fq.markBacklogged t id).flows = fq.flows ∧
      (fq.markBacklogged t id).tins = fq.tins ∧
      (fq.markBacklogged t id).flowsCnt = fq.flowsCnt ∧
      (fq.markBacklogged t id).memoryUsage = fq.memoryUsage ∧
      (fq.markBacklogged t id).backlog = fq.backlog := by
  cases id with
  | hashed idx => exact ⟨rfl, rfl, rfl, rfl, rfl⟩
  | defaultFlow s =>
      simp only [Fq.markBacklogged]
      split <;> exact ⟨rfl, rfl, rfl, rfl, rfl⟩

theorem markBacklogged_marked (hdefault : ∀ s, id = .defaultFlow s → s = t)
    (hnodup : fq.tinBacklog.Nodup) :
    (fq.markBacklogged t id).Marked id ∧
      (∀ other, other ≠ id →
        ((fq.markBacklogged t id).Marked other ↔ fq.Marked other)) ∧
      (fq.markBacklogged t id).tinBacklog.Nodup := by
  cases id with
  | hashed idx =>
      refine ⟨?_, ?_, hnodup⟩
      · simp [Fq.Marked, Fq.markBacklogged]
      · intro other hother
        cases other with
        | defaultFlow s => exact Iff.rfl
        | hashed i =>
            have hi : i ≠ idx := fun heq => hother (heq ▸ rfl)
            simp only [Fq.Marked, Fq.markBacklogged,
              Function.update_of_ne hi]
  | defaultFlow s =>
      have hs := hdefault s rfl
      subst s
      simp only [Fq.markBacklogged]
      by_cases hmem : t ∈ fq.tinBacklog
      · rw [if_pos hmem]
        exact ⟨hmem, fun other _ => Iff.rfl, hnodup⟩
      · rw [if_neg hmem]
        refine ⟨List.mem_cons_self, ?_, List.nodup_cons.mpr ⟨hmem, hnodup⟩⟩
        intro other hother
        cases other with
        | hashed i => exact Iff.rfl
        | defaultFlow s =>
            have hs : s ≠ t := fun heq => hother (heq ▸ rfl)
            simp only [Fq.Marked, List.mem_cons, hs, false_or]

theorem FqGood.fill {flow : FqFlow α} {tin : FqTin}
    (hgood : FqGood numTins fq) {skbs : List (FqSkb α)} (hne : skbs ≠ [])
    (hpos : ∀ skb ∈ skbs, 0 < skb.len) (hfits : Fits numTins fq skbs)
    (ht : t < numTins) (hid : id ∈ fq.flowIds numTins)
    (htin : (fq.flows id).tin = none ∨ (fq.flows id).tin = some t)
    (hdefault : ∀ s, id = .defaultFlow s → s = t)
    (hflows : fq'.flows = Function.update fq.flows id flow)
    (howner : flow.tin = some t) (hlinked : flow.linked = true)
    (hqueue : flow.queue = (fq.flows id).queue ++ skbs)
    (hflowBacklog : flow.backlog = bytesOf flow.queue)
    (htins : fq'.tins = Function.update fq.tins t tin)
    (hbytes : tin.backlogBytes =
      (fq.tins t).backlogBytes + bytesOf skbs)
    (hpackets : tin.backlogPackets =
      (fq.tins t).backlogPackets + skbs.length)
    (hnodup : tin.listed.Nodup)
    (hmem : ∀ other, other ∈ tin.listed ↔
      other = id ∨ other ∈ (fq.tins t).listed)
    (hself : fq'.Marked id)
    (hother : ∀ other, other ≠ id → (fq'.Marked other ↔ fq.Marked other))
    (htinBacklog : fq'.tinBacklog.Nodup)
    (hcnt : fq'.flowsCnt = fq.flowsCnt)
    (hmemory : fq'.memoryUsage = fq.memoryUsage + truesizeOf skbs)
    (hbacklog : fq'.backlog = fq.backlog + skbs.length) :
    FqGood numTins fq' := by
  have htin' : fq'.tins t = tin := by
    rw [htins, Function.update_self]
  have hflowPos : ∀ skb ∈ flow.queue, 0 < skb.len := by
    intro skb hskb
    rw [hqueue] at hskb
    rcases List.mem_append.mp hskb with hold | hnew
    · exact hgood.len_pos id hid skb hold
    · exact hpos skb hnew
  have hflowBytes : bytesOf flow.queue =
      bytesOf (fq.flows id).queue + bytesOf skbs := by
    rw [hqueue, bytesOf_append]
  have hflowSize : truesizeOf flow.queue =
      truesizeOf (fq.flows id).queue + truesizeOf skbs := by
    rw [hqueue, truesizeOf_append]
  have hflowLength : flow.queue.length =
      (fq.flows id).queue.length + skbs.length := by
    rw [hqueue, List.length_append]
  -- an unowned flow holds nothing for the tin
  have hbytesFor : (fq.flows id).bytesFor t = bytesOf (fq.flows id).queue := by
    unfold FqFlow.bytesFor
    rcases htin with hnone | hsome
    · rw [if_neg (by simp [hnone]), hgood.queue_owned id hid hnone]
      rfl
    · rw [if_pos hsome]
  have hpacketsFor :
      (fq.flows id).packetsFor t = (fq.flows id).queue.length := by
    unfold FqFlow.packetsFor
    rcases htin with hnone | hsome
    · rw [if_neg (by simp [hnone]), hgood.queue_owned id hid hnone]
      rfl
    · rw [if_pos hsome]
  apply @FlowUpdate.good α numTins t fq fq' id flow hgood
  constructor
  · exact hid
  · exact ht
  · exact hflows
  · exact hcnt
  · intro s hs
    rw [htins, Function.update_of_ne hs]
  · exact htin
  · exact Or.inr ⟨howner, hdefault⟩
  · exact hflowBacklog
  · exact hflowPos
  · rw [hlinked, howner]
    rfl
  · rw [htin']
    exact hnodup
  · intro other
    rw [htin', hmem]
    by_cases heq : other = id
    · simp [heq, howner]
    · simp [heq]
  · rw [htin', hbytes, hbytesFor, FqFlow.bytesFor, if_pos howner, hflowBytes]
    omega
  · rw [htin', hpackets, hpacketsFor, FqFlow.packetsFor, if_pos howner,
      hflowLength]
    omega
  · rw [hbacklog, hflowLength]
    omega
  · rw [hmemory, hflowSize]
    omega
  · refine ⟨fun _ => ?_, fun _ => hself⟩
    rw [hflowBacklog, hflowBytes]
    have := bytesOf_pos hne hpos
    omega
  · exact hother
  · exact htinBacklog
  · rw [hflowBytes]
    have := hfits.bytes
    omega
  · rw [hbacklog, hgood.backlog_total]
    exact hfits.packets
  · rw [hmemory, hgood.memoryUsage_total]
    exact hfits.truesize

theorem FqGood.filled (hgood : FqGood numTins fq)
    {skbs : List (FqSkb α)} (hne : skbs ≠ [])
    (hpos : ∀ skb ∈ skbs, 0 < skb.len) (hfits : Fits numTins fq skbs)
    (ht : t < numTins) (hid : id ∈ fq.flowIds numTins)
    (htin : (fq.flows id).tin = none ∨ (fq.flows id).tin = some t)
    (hdefault : ∀ s, id = .defaultFlow s → s = t) :
    FqGood numTins ((fq.filled t id skbs).linkFlow t id) ∧
      (((fq.filled t id skbs).linkFlow t id).flows id).queue =
        (fq.flows id).queue ++ skbs ∧
      (∀ other, other ≠ id →
        ((fq.filled t id skbs).linkFlow t id).flows other =
          fq.flows other) ∧
      ((fq.filled t id skbs).linkFlow t id).flowsCnt = fq.flowsCnt := by
  have hmark : ∃ marked : Fq α,
      marked = (if (fq.flows id).backlog = 0 then fq.markBacklogged t id
        else fq) ∧
      marked.Marked id ∧
      (∀ other, other ≠ id → (marked.Marked other ↔ fq.Marked other)) ∧
      marked.tinBacklog.Nodup ∧ marked.flowsCnt = fq.flowsCnt := by
    refine ⟨_, rfl, ?_⟩
    by_cases hzero : (fq.flows id).backlog = 0
    · rw [if_pos hzero]
      obtain ⟨hself, hother, hnodup⟩ :=
        markBacklogged_marked hdefault hgood.tinBacklog_nodup
      exact ⟨hself, hother, hnodup, (markBacklogged_frame fq t id).2.2.1⟩
    · rw [if_neg hzero]
      exact ⟨(hgood.marked_iff id hid).mpr hzero, fun _ _ => Iff.rfl,
        hgood.tinBacklog_nodup, rfl⟩
  obtain ⟨marked, hmarked, hself, hother, hnodup, hcnt⟩ := hmark
  have hlinked := hgood.linked_eq id hid
  have hlisted := hgood.mem_listed t ht
  rcases htin with hnone | hsome
  · -- the flow is on no list and becomes a new flow
    have hnotin : id ∉ (fq.tins t).listed := by
      intro hmem
      rw [((hlisted id).mp hmem).2] at hnone
      cases hnone
    rw [hnone, Option.isSome_none] at hlinked
    have hlink : (fq.filled t id skbs).linkFlow t id =
        ((fq.filled t id skbs).setTin t
          { (fq.filled t id skbs).tins t with
            newFlows := ((fq.filled t id skbs).tins t).newFlows ++
              [id] }).setFlow id
          { (fq.filled t id skbs).flows id with
            deficit := toInt32 (fq.filled t id skbs).quantum
            linked := true } := by
      simp only [Fq.linkFlow, Fq.filled, Function.update_self, hlinked,
        Bool.false_eq_true, if_false]
    rw [hlink]
    simp only [Fq.filled, ← hmarked, Fq.setTin, Fq.setFlow,
      Function.update_self, Function.update_idem]
    refine ⟨?_, trivial, ?_, hcnt⟩
    · refine hgood.fill hne hpos hfits ht hid (Or.inl hnone) hdefault rfl rfl
        rfl rfl rfl rfl rfl rfl ?_ ?_ ?_ ?_ hnodup hcnt rfl rfl
      · have hperm : (((fq.tins t).newFlows ++ [id]) ++
            (fq.tins t).oldFlows).Perm (id :: (fq.tins t).listed) := by
          rw [List.append_assoc]
          exact List.perm_middle
        exact hperm.nodup_iff.mpr
          (List.nodup_cons.mpr ⟨hnotin, hgood.listed_nodup t ht⟩)
      · intro other
        simp only [FqTin.listed, List.mem_append, List.mem_singleton]
        tauto
      · cases id <;> exact hself
      · intro other hne
        have := hother other hne
        cases other <;> exact this
    · intro other hne
      exact Function.update_of_ne hne _ _
  · have hin : id ∈ (fq.tins t).listed := (hlisted id).mpr ⟨hid, hsome⟩
    rw [hsome, Option.isSome_some] at hlinked
    have hlink : (fq.filled t id skbs).linkFlow t id =
        fq.filled t id skbs := by
      simp only [Fq.linkFlow, Fq.filled, Function.update_self, hlinked,
        if_true]
    rw [hlink]
    simp only [Fq.filled, ← hmarked, Function.update_self]
    refine ⟨?_, trivial, ?_, hcnt⟩
    · refine hgood.fill hne hpos hfits ht hid (Or.inr hsome) hdefault rfl rfl
        hlinked rfl rfl rfl rfl rfl ?_ ?_ ?_ ?_ hnodup hcnt rfl rfl
      · exact hgood.listed_nodup t ht
      · intro other
        refine ⟨Or.inr, fun hmem => ?_⟩
        rcases hmem with rfl | hmem
        · exact hin
        · exact hmem
      · cases id <;> exact hself
      · intro other hne
        have := hother other hne
        cases other <;> exact this
    · intro other hne
      exact Function.update_of_ne hne _ _

theorem FqGood.foldl_filled (hgood : FqGood numTins fq)
    {skbs : List (FqSkb α)} (hfits : Fits numTins fq skbs)
    (ht : t < numTins) (hid : id ∈ fq.flowIds numTins)
    {marked : Fq α}
    (hmarked : marked = if (fq.flows id).backlog = 0 then
      fq.markBacklogged t id else fq) :
    skbs.foldl (Fq.queueSkb t id)
        (marked.setFlow id { marked.flows id with tin := some t }) =
      fq.filled t id skbs := by
  have hframe : marked.flows = fq.flows ∧ marked.tins = fq.tins ∧
      marked.memoryUsage = fq.memoryUsage ∧
      marked.backlog = fq.backlog := by
    rw [hmarked]
    split
    · have hmark := markBacklogged_frame fq t id
      exact ⟨hmark.1, hmark.2.1, hmark.2.2.2.1, hmark.2.2.2.2⟩
    · exact ⟨rfl, rfl, rfl, rfl⟩
  obtain ⟨hflows, htins, hmemory, hbacklog⟩ := hframe
  obtain ⟨htinBytes, htinPackets⟩ := hgood.tin_le_total ht
  have hbytes := Fq.weight_le_total (fun flow => bytesOf flow.queue) hid
  have hfitBytes := hfits.bytes
  have hfitPackets := hfits.packets
  have hfitSize := hfits.truesize
  rw [← hgood.backlog_total] at hfitPackets
  rw [← hgood.memoryUsage_total] at hfitSize
  rw [foldl_queueSkb]
  · simp only [Fq.filled, ← hmarked, Fq.setFlow, Function.update_self,
      Function.update_idem, hflows, htins, hmemory, hbacklog]
    rw [hgood.backlog_eq id hid, bytesOf_append]
  · simp only [Fq.setFlow, Function.update_self, hflows,
      hgood.backlog_eq id hid]
    omega
  · simp only [Fq.setFlow, htins]
    omega
  · simp only [Fq.setFlow, htins]
    omega
  · simp only [Fq.setFlow, hbacklog]
    omega
  · simp only [Fq.setFlow, hmemory]
    omega

theorem FqGood.enqueueSkbs (hgood : FqGood numTins fq)
    {skbs : List (FqSkb α)} (hne : skbs ≠ [])
    (hpos : ∀ skb ∈ skbs, 0 < skb.len) (hfits : Fits numTins fq skbs)
    (ht : t < numTins) (hidx : idx < fq.flowsCnt) :
    FqGood numTins (fq.enqueueSkbs t idx skbs).2 ∧
      (∀ id, ((fq.enqueueSkbs t idx skbs).2.flows id).queue =
        (fq.flows id).queue ++ ofFlow id
          (skbs.map fun skb => ((fq.fqFlowClassify t idx).1, skb))) ∧
      (fq.enqueueSkbs t idx skbs).2.flowsCnt = fq.flowsCnt := by
  obtain ⟨hid, htin, hdefault⟩ := hgood.classified ht hidx
  obtain ⟨hflows, -, -, hcnt, -, -⟩ := fqFlowClassify_frame fq t idx
  have hgood' := hgood.fqFlowClassify t idx
  have hids : (fq.fqFlowClassify t idx).2.flowIds numTins =
      fq.flowIds numTins := by
    rw [Fq.flowIds, hcnt, ← Fq.flowIds]
  have hfits' : Fits numTins (fq.fqFlowClassify t idx).2 skbs := by
    constructor
    · rw [Fq.total, hids, hflows]
      exact hfits.bytes
    · rw [Fq.total, hids, hflows]
      exact hfits.packets
    · rw [Fq.total, hids, hflows]
      exact hfits.truesize
  rw [← hids] at hid
  rw [← hflows] at htin
  have henqueue : (fq.enqueueSkbs t idx skbs).2 =
      ((fq.fqFlowClassify t idx).2.filled t (fq.fqFlowClassify t idx).1
        skbs).linkFlow t (fq.fqFlowClassify t idx).1 := by
    rw [← hgood'.foldl_filled hfits' ht hid rfl]
    rfl
  obtain ⟨hgoodFilled, hself, hother, hcntFilled⟩ :=
    hgood'.filled hne hpos hfits' ht hid htin hdefault
  rw [henqueue]
  refine ⟨hgoodFilled, ?_, hcntFilled.trans hcnt⟩
  intro id
  by_cases heq : id = (fq.fqFlowClassify t idx).1
  · rw [heq, hself, hflows, ofFlow_map_self]
  · rw [hother id heq, hflows, ofFlow_map_other heq, List.append_nil]

/-! ## The start -/

theorem fqInit_good (numTins : ℕ) (flowsCnt : BitVec 32) :
    FqGood numTins (fqInit flowsCnt : Fq α) := by
  have htotal : ∀ weight : FqFlow α → ℕ, weight FqFlow.init = 0 →
      (fqInit flowsCnt : Fq α).total numTins weight = 0 := by
    intro weight hzero
    exact Finset.sum_eq_zero fun _ _ => hzero
  constructor
  · exact Nat.lt_of_lt_of_le Nat.zero_lt_one (Nat.le_max_right _ _)
  · exact fun _ _ => rfl
  · intro id _ skb hskb
    cases hskb
  · exact fun _ _ _ => rfl
  · exact fun _ _ => rfl
  · intro id _ t ht
    cases ht
  · exact fun _ _ => List.nodup_nil
  · intro t _ id
    constructor
    · intro hmem
      cases hmem
    · intro howner
      cases howner.2
  · exact fun t _ => (htotal _ rfl).symm
  · exact fun t _ => (htotal _ rfl).symm
  · exact (htotal _ rfl).symm
  · exact (htotal _ rfl).symm
  · intro id _
    cases id <;> simp [Fq.Marked, fqInit, FqFlow.init]
  · exact List.nodup_nil
  · intro t ht
    cases ht
  · rw [htotal _ rfl]
    exact Nat.two_pow_pos 32
  · exact Nat.two_pow_pos 32
  · exact Nat.two_pow_pos 32

end IwlwifiStack
