import IwlwifiStack.FlowQueueRelease

/-!
# The calls that take packets out

Each of `fq_flow_drop`, `fq_tin_filter`, `fq_tin_reset` and `fq_tin_dequeue`
keeps the books balanced, moving flows between the lists of their tin.
-/

namespace IwlwifiStack

variable {α : Type*} {numTins t : ℕ} {fq fq' : Fq α} {id : FqFlowId}

/-! ## Overlimit queues -/

theorem dropPackets_append (pending packets : ℕ) (queue : List (FqSkb α)) :
    (Fq.dropPackets pending packets queue).1 ++
      (Fq.dropPackets pending packets queue).2 = queue := by
  induction queue generalizing packets with
  | nil => rfl
  | cons skb rest ih =>
      unfold Fq.dropPackets
      by_cases hmore : packets + 1 < pending
      · rw [if_pos hmore]
        exact congrArg (skb :: ·) (ih _)
      · rw [if_neg hmore]
        rfl

theorem FqGood.fqFlowDrop (hgood : FqGood numTins fq)
    (hid : id ∈ fq.flowIds numTins) (htin : (fq.flows id).tin = some t) :
    ∃ dropped, fq.fqFlowDrop id = some dropped ∧
      Releases numTins fq
        ⟨[], dropped.1.map fun skb => (id, skb), dropped.2⟩ := by
  have happend := dropPackets_append
    (min 32 ((fq.flows id).queue.length / 2)) 0 (fq.flows id).queue
  generalize hdrop : Fq.dropPackets
    (min 32 ((fq.flows id).queue.length / 2)) 0 (fq.flows id).queue =
      dropped at happend
  have hsplit : (fq.flows id).queue.Perm (dropped.1 ++ dropped.2) :=
    List.Perm.of_eq happend.symm
  have hbytes := Fq.weight_le_total (fun flow => bytesOf flow.queue) hid
  have hbytes_lt := hgood.bytes_lt
  have htruesize := (hgood.covers hid htin).2.2.2
  have htruesize_lt := hgood.truesize_lt
  rw [← happend, bytesOf_append] at hbytes
  rw [← happend, truesizeOf_append] at htruesize
  have hbytesSum :
      dropped.1.foldl (fun sum skb => u32Add sum skb.len) 0 =
        bytesOf dropped.1 := by
    rw [foldl_u32Add, zero_add, bytesOf]
    rw [zero_add, ← bytesOf]
    omega
  have htruesizeSum :
      dropped.1.foldl (fun sum skb => u32Add sum skb.truesize) 0 =
        truesizeOf dropped.1 := by
    rw [foldl_u32Add, zero_add, truesizeOf]
    rw [zero_add, ← truesizeOf]
    omega
  obtain ⟨fq', hadjust, hremoves⟩ := hgood.adjustRemoval hid htin hsplit
  refine ⟨(dropped.1, fq'), ?_, ?_⟩
  · simp only [Fq.fqFlowDrop, hdrop, hbytesSum, htruesizeSum, hadjust,
      Option.map_some]
  · exact hremoves.freed (happend ▸ List.sublist_append_right _ _) hsplit

theorem foldl_fattest (fq : Fq α) (candidates : List FqFlowId)
    (best : Option FqFlowId × ℕ)
    (hfound : (candidates.foldl
      (fun (best : Option FqFlowId × ℕ) id =>
        if (fq.flows id).backlog ≤ best.2 then best
        else (some id, (fq.flows id).backlog)) best).1 = some id) :
    best.1 = some id ∨
      id ∈ candidates ∧ (fq.flows id).backlog ≠ 0 := by
  induction candidates generalizing best with
  | nil => exact Or.inl hfound
  | cons other rest ih =>
      rw [List.foldl_cons] at hfound
      rcases ih _ hfound with hbest | hrest
      · by_cases hle : (fq.flows other).backlog ≤ best.2
        · rw [if_pos hle] at hbest
          exact Or.inl hbest
        · rw [if_neg hle] at hbest
          cases hbest
          exact Or.inr ⟨List.mem_cons_self, by omega⟩
      · exact Or.inr ⟨List.mem_cons_of_mem other hrest.1, hrest.2⟩

theorem FqGood.fattest (hgood : FqGood numTins fq)
    (hfattest : fq.fqFindFattestFlow = some id) :
    id ∈ fq.flowIds numTins ∧ ∃ t, (fq.flows id).tin = some t := by
  rcases foldl_fattest fq _ _ hfattest with hnone | ⟨hmem, hbacklog⟩
  · cases hnone
  · have hid : id ∈ fq.flowIds numTins := by
      rcases List.mem_append.mp hmem with hhashed | hdefault
      · obtain ⟨idx, hidx, rfl⟩ := List.mem_map.mp hhashed
        have hrange := (List.mem_filter.mp hidx).1
        exact Fq.hashed_mem_flowIds.mpr (List.mem_range.mp hrange)
      · obtain ⟨s, hs, rfl⟩ := List.mem_map.mp hdefault
        exact Fq.defaultFlow_mem_flowIds.mpr (hgood.tinBacklog_lt s hs)
    refine ⟨hid, Option.ne_none_iff_exists'.mp fun hnone => ?_⟩
    rw [hgood.backlog_eq id hid, hgood.queue_owned id hid hnone] at hbacklog
    exact hbacklog rfl

theorem countOverlimit_releases {released : Fq.Released α} {oom : Bool}
    (hreleases : Releases numTins fq released)
    (htin : (released.fq.flows id).tin = some t) :
    ∃ fq', released.fq.countOverlimit id oom = some fq' ∧
      Releases numTins fq { released with fq := fq' } := by
  have hcount : released.fq.countOverlimit id oom = some
      { released.fq.setTin t { released.fq.tins t with
          overlimit := u32Add (released.fq.tins t).overlimit 1 } with
        overlimit := u32Add released.fq.overlimit 1
        overmemory :=
          if oom then u32Add released.fq.overmemory 1
          else released.fq.overmemory } := by
    simp only [Fq.countOverlimit, htin, Option.map_some]
  have htins : ∀ s,
      Function.update released.fq.tins t { released.fq.tins t with
          overlimit := u32Add (released.fq.tins t).overlimit 1 } s =
        { released.fq.tins s with
          overlimit := if s = t then
            u32Add (released.fq.tins t).overlimit 1
            else (released.fq.tins s).overlimit } := by
    intro s
    by_cases hs : s = t
    · subst s
      rw [Function.update_self, if_pos rfl]
    · rw [Function.update_of_ne hs, if_neg hs]
  refine ⟨_, hcount, ?_, hreleases.moves.congr fun _ => rfl, ?_⟩
  · refine hreleases.good.congr rfl rfl ?_ rfl rfl rfl rfl
    intro s
    simp only [Fq.setTin]
    rw [htins s]
    exact ⟨rfl, rfl, rfl⟩
  · refine ⟨hreleases.links.tin_eq, ?_, hreleases.links.flowsCnt_eq,
      hreleases.links.deficit_eq⟩
    intro s
    simp only [Fq.setTin]
    rw [htins s]
    exact hreleases.links.lists_eq s

theorem FqGood.dropOverlimit {rounds : ℕ} {oom : Bool}
    {released : Fq.Released α} (hgood : FqGood numTins fq)
    (hdrop : Fq.dropOverlimit rounds fq oom = some released) :
    Releases numTins fq released ∧ released.sent = [] := by
  induction rounds generalizing fq oom released with
  | zero => cases hdrop
  | succ rounds ih =>
      unfold Fq.dropOverlimit at hdrop
      by_cases hover : fq.backlog > fq.limit ∨ oom = true
      · rw [if_pos hover] at hdrop
        cases hfattest : fq.fqFindFattestFlow with
        | none =>
            simp only [hfattest, Option.some.injEq] at hdrop
            subst released
            exact ⟨.none hgood, rfl⟩
        | some id =>
            obtain ⟨hid, t, htin⟩ := hgood.fattest hfattest
            obtain ⟨dropped, hflow, hreleases⟩ := hgood.fqFlowDrop hid htin
            simp only [hfattest, hflow, Option.bind_some] at hdrop
            by_cases hempty : dropped.1 = []
            · rw [if_pos hempty, Option.some.injEq] at hdrop
              subst released
              exact ⟨hreleases, rfl⟩
            · obtain ⟨fq', hcount, hreleases'⟩ :=
                @countOverlimit_releases α numTins t fq id _ oom hreleases
                  ((hreleases.links.tin_eq id).trans htin)
              simp only [if_neg hempty, hcount, Option.bind_some,
                Option.map_eq_some_iff] at hdrop
              obtain ⟨last, hlast, rfl⟩ := hdrop
              obtain ⟨hrest, hsent⟩ := ih hreleases'.good hlast
              exact ⟨hreleases'.afterFreed hrest, hsent⟩
      · rw [if_neg hover, Option.some.injEq] at hdrop
        subst released
        exact ⟨.none hgood, rfl⟩

/-! ## Filter -/

theorem FqGood.fqTinFilter (filter : FqFlowId → FqSkb α → Bool)
    (hgood : FqGood numTins fq) (ht : t < numTins) :
    ∃ released, fq.fqTinFilter filter t = some released ∧
      Releases numTins fq released ∧ released.sent = [] := by
  have hlisted : ∀ id ∈ (fq.tins t).listed,
      id ∈ fq.flowIds numTins ∧ (fq.flows id).tin = some t :=
    fun id hid => (hgood.mem_listed t ht id).mp hid
  obtain ⟨first, hfirst, hreleases, hsent⟩ :=
    @FqGood.filterFlows α numTins t fq filter (fq.tins t).newFlows hgood
      fun id hid => hlisted id (List.mem_append_left _ hid)
  have hold : ∀ id ∈ (first.fq.tins t).oldFlows,
      id ∈ first.fq.flowIds numTins ∧
        (first.fq.flows id).tin = some t := by
    intro id hid
    rw [(hreleases.links.lists_eq t).2] at hid
    rw [hreleases.links.flowIds_eq, hreleases.links.tin_eq]
    exact hlisted id (List.mem_append_right _ hid)
  obtain ⟨released, hrest, hreleases', hsent'⟩ :=
    hreleases.good.filterFlows filter hold
  refine ⟨released.afterFreed first.freed, ?_, ?_, hsent'⟩
  · simp only [Fq.fqTinFilter, hfirst, Option.bind_some, hrest,
      Option.map_some]
  · have hfirst' : Releases numTins fq ⟨[], first.freed, first.fq⟩ := by
      rw [← hsent]
      exact hreleases
    exact hfirst'.afterFreed hreleases'

/-! ## The lists of a tin -/

theorem FqTin.listed_firstFlow {tin : FqTin}
    (hfirst : tin.firstFlow = some id) :
    tin.listed = id :: tin.delFirst.listed := by
  unfold firstFlow at hfirst
  unfold listed delFirst
  cases hnew : tin.newFlows with
  | nil =>
      simp only [hnew] at hfirst ⊢
      cases hold : tin.oldFlows with
      | nil =>
          rw [hold] at hfirst
          cases hfirst
      | cons head rest =>
          rw [hold] at hfirst
          cases hfirst
          simp
  | cons head rest =>
      simp only [hnew] at hfirst ⊢
      cases hfirst
      rfl

theorem FqTin.moveFirst_perm {tin : FqTin}
    (hfirst : tin.firstFlow = some id) :
    (tin.moveFirst id).listed.Perm tin.listed := by
  rw [listed_firstFlow hfirst]
  unfold listed moveFirst
  rw [← List.append_assoc]
  exact List.perm_append_singleton id _

theorem FqTin.delFirst_counters (tin : FqTin) :
    tin.delFirst.backlogBytes = tin.backlogBytes ∧
      tin.delFirst.backlogPackets = tin.backlogPackets := by
  unfold delFirst
  cases tin.newFlows <;> exact ⟨rfl, rfl⟩

/-- A flow keeps its packets and moves on the lists of its tin, or leaves
them when it is empty. -/
theorem FqGood.relink {flow : FqFlow α} (hgood : FqGood numTins fq)
    (hid : id ∈ fq.flowIds numTins) (htin : (fq.flows id).tin = some t)
    (hflows : fq'.flows = Function.update fq.flows id flow)
    (hqueue : flow.queue = (fq.flows id).queue)
    (hbacklog : flow.backlog = (fq.flows id).backlog)
    (hlinked : flow.linked = flow.tin.isSome)
    (howned : flow.tin = none ∧ flow.queue = [] ∨ flow.tin = some t)
    (htins : ∀ s, s ≠ t → fq'.tins s = fq.tins s)
    (hcounters : (fq'.tins t).backlogBytes = (fq.tins t).backlogBytes ∧
      (fq'.tins t).backlogPackets = (fq.tins t).backlogPackets)
    (hnodup : (fq'.tins t).listed.Nodup)
    (hmem : ∀ other, other ∈ (fq'.tins t).listed ↔
      if other = id then flow.tin = some t
      else other ∈ (fq.tins t).listed)
    (hbitmap : fq'.flowsBitmap = fq.flowsBitmap)
    (htinBacklog : fq'.tinBacklog = fq.tinBacklog)
    (hcnt : fq'.flowsCnt = fq.flowsCnt)
    (hmemory : fq'.memoryUsage = fq.memoryUsage)
    (hpackets : fq'.backlog = fq.backlog) :
    FqGood numTins fq' := by
  have howner := hgood.owner id hid t htin
  have hmarked : ∀ other, fq'.Marked other ↔ fq.Marked other := by
    intro other
    cases other with
    | hashed idx => simp only [Fq.Marked, hbitmap]
    | defaultFlow s => simp only [Fq.Marked, htinBacklog]
  have hbytesFor : flow.bytesFor t = (fq.flows id).bytesFor t := by
    simp only [FqFlow.bytesFor, hqueue, htin, if_true]
    rcases howned with ⟨hnone, hempty⟩ | hsome
    · rw [← hqueue, hempty, if_neg (by simp [hnone])]
      rfl
    · rw [if_pos hsome]
  have hpacketsFor : flow.packetsFor t = (fq.flows id).packetsFor t := by
    simp only [FqFlow.packetsFor, hqueue, htin, if_true]
    rcases howned with ⟨hnone, hempty⟩ | hsome
    · rw [← hqueue, hempty, if_neg (by simp [hnone])]
      rfl
    · rw [if_pos hsome]
  apply @FlowUpdate.good α numTins t fq fq' id flow hgood
  constructor
  · exact hid
  · exact howner.1
  · exact hflows
  · exact hcnt
  · exact htins
  · exact Or.inr htin
  · rcases howned with hnone | hsome
    · exact Or.inl hnone
    · exact Or.inr ⟨hsome, howner.2⟩
  · rw [hbacklog, hqueue]
    exact hgood.backlog_eq id hid
  · rw [hqueue]
    exact hgood.len_pos id hid
  · exact hlinked
  · exact hnodup
  · exact hmem
  · rw [hcounters.1, hbytesFor]
  · rw [hcounters.2, hpacketsFor]
  · rw [hpackets, hqueue]
  · rw [hmemory, hqueue]
  · rw [hmarked, hbacklog]
    exact hgood.marked_iff id hid
  · exact fun other _ => hmarked other
  · rw [htinBacklog]
    exact hgood.tinBacklog_nodup
  · rw [hqueue]
    have := hgood.bytes_lt
    omega
  · rw [hpackets]
    exact hgood.packets_lt
  · rw [hmemory]
    exact hgood.truesize_lt

theorem FqGood.reorder {flow : FqFlow α} {tin : FqTin}
    (hgood : FqGood numTins fq) (hid : id ∈ fq.flowIds numTins)
    (htin : (fq.flows id).tin = some t)
    (hperm : tin.listed.Perm (fq.tins t).listed)
    (hcounters : tin.backlogBytes = (fq.tins t).backlogBytes ∧
      tin.backlogPackets = (fq.tins t).backlogPackets)
    (hqueue : flow.queue = (fq.flows id).queue)
    (hbacklog : flow.backlog = (fq.flows id).backlog)
    (hlinked : flow.linked = (fq.flows id).linked)
    (howner : flow.tin = (fq.flows id).tin) :
    FqGood numTins ((fq.setTin t tin).setFlow id flow) := by
  have ht := (hgood.owner id hid t htin).1
  refine hgood.relink hid htin rfl hqueue hbacklog ?_ ?_ ?_ ?_ ?_ ?_ rfl rfl
    rfl rfl rfl
  · rw [hlinked, howner]
    exact hgood.linked_eq id hid
  · exact Or.inr (howner.trans htin)
  · intro s hs
    exact Function.update_of_ne hs _ _
  · simpa only [Fq.setFlow, Fq.setTin, Function.update_self] using hcounters
  · simp only [Fq.setFlow, Fq.setTin, Function.update_self]
    exact hperm.nodup_iff.mpr (hgood.listed_nodup t ht)
  · intro other
    simp only [Fq.setFlow, Fq.setTin, Function.update_self, hperm.mem_iff]
    by_cases hother : other = id
    · subst other
      rw [if_pos rfl, hgood.mem_listed t ht, howner]
      exact and_iff_right hid
    · rw [if_neg hother]

theorem FqGood.unlink {flow : FqFlow α} (hgood : FqGood numTins fq)
    (hid : id ∈ fq.flowIds numTins) (htin : (fq.flows id).tin = some t)
    (hfirst : (fq.tins t).firstFlow = some id)
    (hempty : (fq.flows id).queue = [])
    (hflow : flow = { fq.flows id with linked := false, tin := none }) :
    FqGood numTins
      ((fq.setTin t (fq.tins t).delFirst).setFlow id flow) := by
  subst flow
  have ht := (hgood.owner id hid t htin).1
  have hlisted := FqTin.listed_firstFlow hfirst
  have hnodup := hgood.listed_nodup t ht
  rw [hlisted, List.nodup_cons] at hnodup
  refine hgood.relink hid htin rfl rfl rfl rfl (Or.inl ⟨rfl, hempty⟩)
    ?_ ?_ ?_ ?_ rfl rfl rfl rfl rfl
  · intro s hs
    exact Function.update_of_ne hs _ _
  · simpa only [Fq.setFlow, Fq.setTin, Function.update_self] using
      (fq.tins t).delFirst_counters
  · simpa only [Fq.setFlow, Fq.setTin, Function.update_self] using hnodup.2
  · intro other
    simp only [Fq.setFlow, Fq.setTin, Function.update_self, hlisted,
      List.mem_cons]
    by_cases hother : other = id
    · subst other
      simpa using hnodup.1
    · simp [hother]

theorem queue_setFlow {flow : FqFlow α}
    (hqueue : flow.queue = (fq.flows id).queue) (other : FqFlowId) :
    ((fq.setFlow id flow).flows other).queue = (fq.flows other).queue := by
  by_cases hother : other = id
  · subst other
    simpa only [Fq.setFlow, Function.update_self] using hqueue
  · simp only [Fq.setFlow, Function.update_of_ne hother]

/-! ## Reset -/

/-- The lists of other tins and all deficits are the same. -/
structure SameElsewhere (t : ℕ) (fq fq' : Fq α) : Prop where
  lists_eq : ∀ s, s ≠ t → (fq'.tins s).newFlows = (fq.tins s).newFlows ∧
    (fq'.tins s).oldFlows = (fq.tins s).oldFlows
  deficit_eq : ∀ id, (fq'.flows id).deficit = (fq.flows id).deficit

theorem SameElsewhere.trans {mid : Fq α} (hfirst : SameElsewhere t fq mid)
    (hlast : SameElsewhere t mid fq') : SameElsewhere t fq fq' :=
  ⟨fun s hs => ⟨(hlast.lists_eq s hs).1.trans (hfirst.lists_eq s hs).1,
      (hlast.lists_eq s hs).2.trans (hfirst.lists_eq s hs).2⟩,
    fun id => (hlast.deficit_eq id).trans (hfirst.deficit_eq id)⟩

theorem SameLinks.elsewhere (hlinks : SameLinks fq fq') (t : ℕ) :
    SameElsewhere t fq fq' :=
  ⟨fun s _ => hlinks.lists_eq s, hlinks.deficit_eq⟩

theorem FqGood.not_backlogged (hgood : FqGood numTins fq) (ht : t < numTins)
    (hlisted : (fq.tins t).listed = []) : t ∉ fq.tinBacklog := by
  intro hmem
  have hid : .defaultFlow t ∈ fq.flowIds numTins :=
    Fq.defaultFlow_mem_flowIds.mpr ht
  have hbacklog := (hgood.marked_iff _ hid).mp hmem
  have hnone : (fq.flows (.defaultFlow t)).tin = none := by
    cases htin : (fq.flows (.defaultFlow t)).tin with
    | none => rfl
    | some s =>
        have hs := (hgood.owner _ hid s htin).2 t rfl
        subst s
        have hin := (hgood.mem_listed t ht _).mpr ⟨hid, htin⟩
        rw [hlisted] at hin
        cases hin
  rw [hgood.backlog_eq _ hid, hgood.queue_owned _ hid hnone] at hbacklog
  exact hbacklog rfl

theorem FqGood.releaseFlow (hgood : FqGood numTins fq)
    (hid : id ∈ fq.flowIds numTins) (htin : (fq.flows id).tin = some t)
    (hfirst : (fq.tins t).firstFlow = some id)
    (hempty : (fq.flows id).queue = []) :
    FqGood numTins (fq.releaseFlow t t id) ∧
      (∀ other, ((fq.releaseFlow t t id).flows other).queue =
        (fq.flows other).queue) ∧
      ((fq.releaseFlow t t id).tins t).listed =
        (fq.tins t).delFirst.listed ∧
      (fq.releaseFlow t t id).flowsCnt = fq.flowsCnt ∧
      SameElsewhere t fq (fq.releaseFlow t t id) := by
  have hunlinked := hgood.unlink hid htin hfirst hempty rfl
  have ht := (hgood.owner id hid t htin).1
  have hlisted : (((fq.setTin t (fq.tins t).delFirst).setFlow id
      { fq.flows id with linked := false, tin := none }).tins t).listed =
      (fq.tins t).delFirst.listed := by
    simp only [Fq.setFlow, Fq.setTin, Function.update_self]
  have heq : fq.releaseFlow t t id =
      (fq.setTin t (fq.tins t).delFirst).setFlow id
        { fq.flows id with linked := false, tin := none } := by
    simp only [Fq.releaseFlow]
    split
    · rename_i hnil
      have hnone : (fq.tins t).delFirst.listed = [] := by
        rw [← hlisted, FqTin.listed, hnil.1, hnil.2]
        rfl
      have hnot := hunlinked.not_backlogged ht (hlisted.trans hnone)
      rw [List.erase_of_not_mem hnot]
    · rfl
  rw [heq]
  refine ⟨hunlinked, queue_setFlow rfl, hlisted, rfl, ?_, ?_⟩
  · intro s hs
    simp only [Fq.setFlow, Fq.setTin, Function.update_of_ne hs, and_self]
  · intro other
    by_cases hother : other = id
    · subst other
      simp only [Fq.setFlow, Function.update_self]
    · simp only [Fq.setFlow, Fq.setTin, Function.update_of_ne hother]

theorem FqGood.resetFlows {left : ℕ} (hgood : FqGood numTins fq)
    (ht : t < numTins) (hleft : (fq.tins t).listed.length < left) :
    ∃ released, fq.resetFlows t left = some released ∧
      FqGood numTins released.fq ∧ Moves fq released ∧
      released.sent = [] ∧ released.fq.flowsCnt = fq.flowsCnt ∧
      SameElsewhere t fq released.fq ∧
      (released.fq.tins t).firstFlow = none := by
  induction left generalizing fq with
  | zero => omega
  | succ left ih =>
      cases hfirst : (fq.tins t).firstFlow with
      | none =>
          refine ⟨⟨[], [], fq⟩, ?_, hgood, .none fq, rfl, rfl,
            (SameLinks.refl fq).elsewhere t, hfirst⟩
          simp only [Fq.resetFlows, hfirst]
      | some id =>
          have hlisted := FqTin.listed_firstFlow hfirst
          obtain ⟨hid, htin⟩ := (hgood.mem_listed t ht id).mp (by
            rw [hlisted]
            exact List.mem_cons_self)
          obtain ⟨purged, hpurge, hreleases, hsent, hempty⟩ :=
            hgood.purgeQueue hid htin (Nat.lt_succ_self _)
          have hid' : id ∈ purged.fq.flowIds numTins := by
            rw [hreleases.links.flowIds_eq]
            exact hid
          have hfirst' : (purged.fq.tins t).firstFlow = some id := by
            rw [← hfirst, FqTin.firstFlow, FqTin.firstFlow,
              (hreleases.links.lists_eq t).1, (hreleases.links.lists_eq t).2]
          obtain ⟨hgood', hqueues, hlists, hcnt, helsewhere⟩ :=
            hreleases.good.releaseFlow hid'
              ((hreleases.links.tin_eq id).trans htin) hfirst' hempty
          have hlength :
              ((purged.fq.releaseFlow t t id).tins t).listed.length <
                left := by
            have hcons := FqTin.listed_firstFlow hfirst'
            rw [hreleases.links.listed_eq] at hcons
            have hlen := congrArg List.length hcons
            rw [List.length_cons] at hlen
            rw [hlists]
            omega
          obtain ⟨last, hlast, hgoodLast, hmovesLast, hsentLast, hcntLast,
              hsame, hnone⟩ := ih hgood' hlength
          refine ⟨last.afterFreed purged.freed, ?_, hgoodLast, ?_,
            hsentLast, ?_,
            ((hreleases.links.elsewhere t).trans helsewhere).trans hsame,
            hnone⟩
          · simp only [Fq.resetFlows, hfirst, Fq.fqFlowReset, htin,
              Option.bind_some, hpurge, Option.map_some, hlast]
          · have hmoves := hreleases.moves.congr hqueues
            rw [hsent] at hmoves
            exact hmoves.afterFreed hmovesLast
          · exact hcntLast.trans (hcnt.trans hreleases.links.flowsCnt_eq)

theorem FqGood.fqTinReset (hgood : FqGood numTins fq) (ht : t < numTins) :
    ∃ released, fq.fqTinReset t = some released ∧
      FqGood numTins released.fq ∧ Moves fq released ∧
      released.sent = [] ∧ released.fq.flowsCnt = fq.flowsCnt ∧
      SameElsewhere t fq released.fq ∧
      (released.fq.tins t).firstFlow = none := by
  apply hgood.resetFlows ht
  rw [FqTin.listed, List.length_append]
  exact Nat.lt_succ_self _

/-! ## Dequeue -/

theorem FqGood.refillFlow (hgood : FqGood numTins fq)
    (hid : id ∈ fq.flowIds numTins) (htin : (fq.flows id).tin = some t)
    (hfirst : (fq.tins t).firstFlow = some id) :
    FqGood numTins (fq.refillFlow t id) := by
  refine hgood.reorder hid htin (FqTin.moveFirst_perm hfirst) ?_ rfl rfl rfl
    rfl
  exact (fq.tins t).delFirst_counters

theorem FqGood.passFlow (hgood : FqGood numTins fq)
    (hid : id ∈ fq.flowIds numTins) (htin : (fq.flows id).tin = some t)
    (hfirst : (fq.tins t).firstFlow = some id)
    (hempty : (fq.flows id).queue = []) :
    FqGood numTins (fq.passFlow t id) := by
  simp only [Fq.passFlow]
  split
  · have hreorder := @FqGood.reorder α numTins t fq id (fq.flows id)
      ((fq.tins t).moveFirst id) hgood hid htin
      (FqTin.moveFirst_perm hfirst) (fq.tins t).delFirst_counters rfl rfl rfl
      rfl
    simpa only [Fq.setFlow, Fq.setTin, Function.update_eq_self] using hreorder
  · exact hgood.unlink hid htin hfirst hempty rfl

theorem queue_passFlow (other : FqFlowId) :
    ((fq.passFlow t id).flows other).queue = (fq.flows other).queue := by
  simp only [Fq.passFlow]
  split
  · rfl
  · exact @queue_setFlow α (fq.setTin t (fq.tins t).delFirst) id
      { fq.flows id with linked := false, tin := none } rfl other

theorem FqGood.fqTinDequeue (drops : FqSkb α → Bool) {rounds : ℕ}
    {released : Fq.Released α} (hgood : FqGood numTins fq)
    (ht : t < numTins)
    (hdequeue : fq.fqTinDequeue drops t rounds = some released) :
    FqGood numTins released.fq ∧ Moves fq released ∧
      released.fq.flowsCnt = fq.flowsCnt := by
  induction rounds generalizing fq released with
  | zero => cases hdequeue
  | succ rounds ih =>
      unfold Fq.fqTinDequeue at hdequeue
      cases hfirst : (fq.tins t).firstFlow with
      | none =>
          simp only [hfirst, Option.some.injEq] at hdequeue
          subst released
          exact ⟨hgood, .none fq, rfl⟩
      | some id =>
          obtain ⟨hid, htin⟩ := (hgood.mem_listed t ht id).mp (by
            rw [FqTin.listed_firstFlow hfirst]
            exact List.mem_cons_self)
          simp only [hfirst] at hdequeue
          by_cases hdeficit : (fq.flows id).deficit ≤ 0
          · rw [if_pos hdeficit] at hdequeue
            obtain ⟨hgood', hmoves, hcnt⟩ :=
              ih (hgood.refillFlow hid htin hfirst) hdequeue
            have hrefill : Moves fq ⟨[], [], fq.refillFlow t id⟩ :=
              (Moves.none fq).congr (queue_setFlow rfl)
            exact ⟨hgood', hrefill.afterFreed hmoves, hcnt⟩
          · rw [if_neg hdeficit] at hdequeue
            obtain ⟨result, hresult, hreleases, hnone, hsome⟩ :=
              hgood.codelDequeue drops hid htin (Nat.lt_succ_self _)
            simp only [Fq.fqTinDequeueFunc, hresult,
              Option.bind_some] at hdequeue
            have hid' : id ∈ result.2.fq.flowIds numTins := by
              rw [hreleases.links.flowIds_eq]
              exact hid
            have htin' := (hreleases.links.tin_eq id).trans htin
            cases hskb : result.1 with
            | none =>
                obtain ⟨hsent, hempty⟩ := hnone hskb
                have hfirst' : (result.2.fq.tins t).firstFlow = some id := by
                  rw [← hfirst, FqTin.firstFlow, FqTin.firstFlow,
                    (hreleases.links.lists_eq t).1,
                    (hreleases.links.lists_eq t).2]
                simp only [hskb, Option.map_eq_some_iff] at hdequeue
                obtain ⟨last, hlast, rfl⟩ := hdequeue
                obtain ⟨hgood', hmoves, hcnt⟩ :=
                  ih (hreleases.good.passFlow hid' htin' hfirst' hempty)
                    hlast
                have hqueues : ∀ other,
                    ((result.2.fq.passFlow t id).flows other).queue =
                      (result.2.fq.flows other).queue :=
                  fun other => queue_passFlow other
                have hpass := hreleases.moves.congr hqueues
                rw [hsent] at hpass
                refine ⟨hgood', hpass.afterFreed hmoves, ?_⟩
                have hcntPass : (result.2.fq.passFlow t id).flowsCnt =
                    result.2.fq.flowsCnt := by
                  simp only [Fq.passFlow]
                  split <;> rfl
                exact hcnt.trans
                  (hcntPass.trans hreleases.links.flowsCnt_eq)
            | some skb =>
                simp only [hskb, Option.some.injEq] at hdequeue
                subst released
                refine ⟨?_, hreleases.moves.congr (queue_setFlow rfl),
                  hreleases.links.flowsCnt_eq⟩
                exact hreleases.good.reorder hid' htin'
                  (List.Perm.refl _) ⟨rfl, rfl⟩ rfl rfl rfl rfl

end IwlwifiStack
