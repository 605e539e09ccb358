import IwlwifiStack.FlowQueueEnqueue

/-!
# The accounting of fair queueing

Over every run of calls on any number of tins the counters at all levels agree
with the packets held, and each packet is held, dequeued or freed once, in the
order of its flow, as long as the totals fit into the 32 bit counters.
-/

namespace IwlwifiStack

variable {α : Type*}

namespace FqRun

def Admitted (numTins : ℕ) (run : FqRun α) : FqCall α → Prop
  | .enqueue _ _ skb next _ =>
      (∀ packet ∈ skb :: next, 0 < packet.len) ∧
        Fits numTins run.fq (skb :: next)
  | _ => True

/-- The books and the logs of a run. -/
structure Good (numTins : ℕ) (run : FqRun α) : Prop where
  good : FqGood numTins run.fq
  fifo : ∀ id, (ofFlow id run.dequeued ++
    (run.fq.flows id).queue).Sublist (ofFlow id run.enqueued)
  conserved : ∀ id, (ofFlow id run.enqueued : Multiset (FqSkb α)) =
    ↑(ofFlow id run.dequeued) + ↑(ofFlow id run.freed) +
      ↑(run.fq.flows id).queue

variable {numTins : ℕ} {run : FqRun α}

theorem initial_good (numTins : ℕ) (flowsCnt : BitVec 32) :
    (initial flowsCnt : FqRun α).Good numTins :=
  ⟨fqInit_good numTins flowsCnt, fun _ => List.Sublist.refl _, fun _ => rfl⟩

theorem Good.record {released : Fq.Released α} (hrun : run.Good numTins)
    (hgood : FqGood numTins released.fq) (hmoves : Moves run.fq released) :
    (run.record released).1.Good numTins := by
  refine ⟨hgood, ?_, ?_⟩
  · intro id
    simp only [FqRun.record, ofFlow_append, List.append_assoc]
    exact ((hmoves.fifo id).append_left _).trans (hrun.fifo id)
  · intro id
    simp only [FqRun.record, ofFlow_append, ← Multiset.coe_add]
    rw [hrun.conserved id, hmoves.conserved id]
    abel

theorem Good.enqueue (hrun : run.Good numTins) {fq : Fq α}
    {packets : List (FlowPacket α)} (hgood : FqGood numTins fq)
    (hqueue : ∀ id, (fq.flows id).queue =
      (run.fq.flows id).queue ++ ofFlow id packets) :
    Good numTins
      { run with fq := fq, enqueued := run.enqueued ++ packets } := by
  refine ⟨hgood, ?_, ?_⟩
  · intro id
    simp only [ofFlow_append, hqueue, ← List.append_assoc]
    exact (hrun.fifo id).append (List.Sublist.refl _)
  · intro id
    simp only [ofFlow_append, hqueue, ← Multiset.coe_add]
    rw [hrun.conserved id]
    abel

theorem Good.afterStep {call : FqCall α} {after : FqRun α}
    {output : List (FlowPacket α)} (hrun : run.Good numTins)
    (hadmitted : run.Admitted numTins call)
    (hstep : run.step numTins call = some (after, output)) :
    after.Good numTins := by
  cases call with
  | enqueue t hash skb next rounds =>
      obtain ⟨hpos, hfits⟩ := hadmitted
      simp only [step, Option.ite_none_right_eq_some,
        Option.map_eq_some_iff] at hstep
      obtain ⟨ht, released, henqueue, hafter⟩ := hstep
      obtain ⟨hgood, hqueue, -⟩ := hrun.good.enqueueSkbs
        (List.cons_ne_nil skb next) hpos hfits ht
        (Fq.fqFlowIdx_lt hrun.good.flowsCnt_pos hash)
      obtain ⟨hreleases, -⟩ := hgood.dropOverlimit henqueue
      have hrecord := (hrun.enqueue hgood hqueue).record hreleases.good
        hreleases.moves
      simp only [FqRun.record, Prod.mk.injEq] at hafter
      obtain ⟨rfl, -⟩ := hafter
      exact hrecord
  | dequeue t drops rounds =>
      simp only [step, Option.ite_none_right_eq_some,
        Option.map_eq_some_iff] at hstep
      obtain ⟨ht, released, hdequeue, hafter⟩ := hstep
      obtain ⟨hgood, hmoves, -⟩ :=
        hrun.good.fqTinDequeue drops ht hdequeue
      simp only [FqRun.record, Prod.mk.injEq] at hafter
      obtain ⟨rfl, -⟩ := hafter
      exact hrun.record hgood hmoves
  | filter t filter =>
      simp only [step, Option.ite_none_right_eq_some,
        Option.map_eq_some_iff] at hstep
      obtain ⟨ht, released, hfilter, hafter⟩ := hstep
      obtain ⟨released', hfilter', hreleases, -⟩ :=
        hrun.good.fqTinFilter filter ht
      have hsame : released' = released :=
        Option.some.inj (hfilter'.symm.trans hfilter)
      subst released'
      simp only [FqRun.record, Prod.mk.injEq] at hafter
      obtain ⟨rfl, -⟩ := hafter
      exact hrun.record hreleases.good hreleases.moves
  | reset t =>
      simp only [step, Option.ite_none_right_eq_some,
        Option.map_eq_some_iff] at hstep
      obtain ⟨ht, released, hreset, hafter⟩ := hstep
      obtain ⟨released', hreset', hgood, hmoves, -⟩ :=
        hrun.good.fqTinReset ht
      have hsame : released' = released :=
        Option.some.inj (hreset'.symm.trans hreset)
      subst released'
      simp only [FqRun.record, Prod.mk.injEq] at hafter
      obtain ⟨rfl, -⟩ := hafter
      exact hrun.record hgood hmoves
  | setParams limit memoryLimit quantum =>
      simp only [step, Option.some.injEq, Prod.mk.injEq] at hstep
      rw [← hstep.1]
      refine ⟨?_, hrun.fifo, hrun.conserved⟩
      exact hrun.good.congr rfl rfl (fun _ => ⟨rfl, rfl, rfl⟩) rfl rfl rfl
        rfl

def Reaches (numTins : ℕ) (flowsCnt : BitVec 32) (run : FqRun α) : Prop :=
  ConditionedRun.Reachable (FqRun.step numTins) (Admitted numTins)
    (initial flowsCnt) run

theorem Reaches.good {flowsCnt : BitVec 32}
    (hreach : Reaches numTins flowsCnt run) : run.Good numTins :=
  hreach.invariant (initial_good numTins flowsCnt)
    fun _ _ _ _ hrun hadmitted hstep => hrun.afterStep hadmitted hstep

/-- Counters, marks and lists agree with the packets held after every
sequence of calls, and every packet is accounted for once and in order. -/
theorem fq_bookkeeping {flowsCnt : BitVec 32}
    (hreach : Reaches numTins flowsCnt run) :
    (∀ id ∈ run.fq.flowIds numTins,
      (run.fq.flows id).backlog = bytesOf (run.fq.flows id).queue) ∧
    (∀ t < numTins,
      (run.fq.tins t).backlogBytes =
          run.fq.total numTins (FqFlow.bytesFor t) ∧
        (run.fq.tins t).backlogPackets =
          run.fq.total numTins (FqFlow.packetsFor t)) ∧
    run.fq.backlog = run.fq.total numTins (fun flow => flow.queue.length) ∧
    run.fq.memoryUsage =
      run.fq.total numTins (fun flow => truesizeOf flow.queue) ∧
    (∀ idx < run.fq.flowsCnt, run.fq.flowsBitmap idx = true ↔
      (run.fq.flows (.hashed idx)).backlog ≠ 0) ∧
    (∀ t < numTins, t ∈ run.fq.tinBacklog ↔
      (run.fq.flows (.defaultFlow t)).backlog ≠ 0) ∧
    (∀ id ∈ run.fq.flowIds numTins, (run.fq.flows id).queue ≠ [] →
      ∃ t < numTins, (run.fq.flows id).tin = some t ∧
        (run.fq.tins t).newFlows.count id +
          (run.fq.tins t).oldFlows.count id = 1 ∧
        ∀ s < numTins, s ≠ t → id ∉ (run.fq.tins s).listed) ∧
    ∀ id, (ofFlow id run.enqueued : Multiset (FqSkb α)) =
        ↑(ofFlow id run.dequeued) + ↑(ofFlow id run.freed) +
          ↑(run.fq.flows id).queue ∧
      (ofFlow id run.dequeued ++ (run.fq.flows id).queue).Sublist
        (ofFlow id run.enqueued) := by
  have hrun := hreach.good
  have hgood := hrun.good
  refine ⟨hgood.backlog_eq, ?_, hgood.backlog_total,
    hgood.memoryUsage_total, ?_, ?_, ?_,
    fun id => ⟨hrun.conserved id, hrun.fifo id⟩⟩
  · exact fun t ht => ⟨hgood.tin_bytes t ht, hgood.tin_packets t ht⟩
  · intro idx hidx
    exact hgood.marked_iff (.hashed idx) (Fq.hashed_mem_flowIds.mpr hidx)
  · intro t ht
    exact hgood.marked_iff (.defaultFlow t)
      (Fq.defaultFlow_mem_flowIds.mpr ht)
  · intro id hid hqueue
    obtain ⟨t, htin⟩ : ∃ t, (run.fq.flows id).tin = some t :=
      Option.ne_none_iff_exists'.mp fun hnone =>
        hqueue (hgood.queue_owned id hid hnone)
    have ht := (hgood.owner id hid t htin).1
    refine ⟨t, ht, htin, ?_, ?_⟩
    · have hmem := (hgood.mem_listed t ht id).mpr ⟨hid, htin⟩
      have hcount := List.count_eq_one_of_mem (hgood.listed_nodup t ht) hmem
      rwa [FqTin.listed, List.count_append] at hcount
    · intro s hs hne hmem
      have hother := ((hgood.mem_listed s hs id).mp hmem).2
      rw [htin] at hother
      exact hne (Option.some.inj hother).symm

/-! ## Two runs -/

section Samples

def samplePacket (frame : ℕ) : FqSkb ℕ := ⟨frame, 100, 300⟩

/-- Two packets enter a flow of the table and the first one leaves. -/
theorem fq_bookkeeping_dequeued :
    ∃ run : FqRun ℕ, Reaches 2 4#32 run ∧
      run.dequeued = [(.hashed 2, samplePacket 0)] ∧
      (run.fq.flows (.hashed 2)).queue = [samplePacket 1] ∧
      run.fq.backlog = 1 ∧
      run.fq.backlog = run.fq.total 2 (fun flow => flow.queue.length) := by
  have hcalls : (((initial 4#32).step 2 (.enqueue 1 0x80000000#32
      (samplePacket 0) [samplePacket 1] 1)).bind fun next =>
        next.1.step 2 (.dequeue 1 (fun _ => false) 2)).map (fun last =>
          (last.1.dequeued, (last.1.fq.flows (.hashed 2)).queue,
            last.1.fq.backlog)) =
      some ([(.hashed 2, samplePacket 0)], [samplePacket 1], 1) := by
    decide +kernel
  obtain ⟨⟨run, output⟩, hlast, hfields⟩ := Option.map_eq_some_iff.mp hcalls
  obtain ⟨⟨mid, first⟩, hfirst, hnext⟩ := Option.bind_eq_some_iff.mp hlast
  simp only [Prod.mk.injEq] at hfields
  have hreach : Reaches 2 4#32 run := by
    apply ConditionedRun.Reachable.next _ trivial hnext
    apply ConditionedRun.Reachable.next .start _ hfirst
    refine ⟨?_, ?_, ?_, ?_⟩
    · decide
    · decide +kernel
    · decide +kernel
    · decide +kernel
  exact ⟨run, hreach, hfields.1, hfields.2.1, hfields.2.2,
    (fq_bookkeeping hreach).2.2.1⟩

/-- The largest limits that `ieee80211_txq_set_params` can set. -/
def unlimited : FqRun ℕ :=
  { (initial 4096#32 : FqRun ℕ) with
    fq := { (fqInit 4096#32 : Fq ℕ) with
      limit := 2 ^ 32 - 1
      memoryLimit := 2 ^ 32 - 1 } }

def largePacket : FqSkb ℕ := ⟨0, 65536, 65536⟩

theorem linkFlow_frame (fq : Fq α) (t : ℕ) (id : FqFlowId) :
    (∀ other, ((fq.linkFlow t id).flows other).queue =
        (fq.flows other).queue ∧
      ((fq.linkFlow t id).flows other).backlog =
        (fq.flows other).backlog) ∧
      (fq.linkFlow t id).memoryUsage = fq.memoryUsage ∧
      (fq.linkFlow t id).backlog = fq.backlog ∧
      (fq.linkFlow t id).limit = fq.limit ∧
      (fq.linkFlow t id).memoryLimit = fq.memoryLimit := by
  simp only [Fq.linkFlow]
  split
  · exact ⟨fun _ => ⟨rfl, rfl⟩, rfl, rfl, rfl, rfl⟩
  · refine ⟨?_, rfl, rfl, rfl, rfl⟩
    intro other
    by_cases hother : other = id
    · subst other
      simp only [Fq.setFlow, Fq.setTin, Function.update_self, and_self]
    · simp only [Fq.setFlow, Fq.setTin, Function.update_of_ne hother,
        and_self]

theorem enqueueSkbs_wraps (limit memoryLimit : ℕ) (fq : Fq ℕ)
    (hfq : fq = { (fqInit 4096#32 : Fq ℕ) with
      limit := limit
      memoryLimit := memoryLimit })
    (skbs : List (FqSkb ℕ))
    (hskbs : skbs = List.replicate 65536 largePacket) :
    ((fq.enqueueSkbs 0 0 skbs).2.flows (.hashed 0)).queue = skbs ∧
      (∀ id, ((fq.enqueueSkbs 0 0 skbs).2.flows id).backlog = 0) ∧
      (fq.enqueueSkbs 0 0 skbs).2.memoryUsage = 0 ∧
      (fq.enqueueSkbs 0 0 skbs).2.backlog = 65536 ∧
      (fq.enqueueSkbs 0 0 skbs).2.limit = limit ∧
      (fq.enqueueSkbs 0 0 skbs).2.memoryLimit = memoryLimit := by
  have hbytes : bytesOf skbs = 2 ^ 32 := by
    rw [hskbs, bytesOf, List.map_replicate, List.sum_replicate]
    rfl
  have hsize : truesizeOf skbs = 2 ^ 32 := by
    rw [hskbs, truesizeOf, List.map_replicate, List.sum_replicate]
    rfl
  have hlength : skbs.length = 65536 := by
    rw [hskbs, List.length_replicate]
  have hclassified : (fq.fqFlowClassify 0 0).1 = .hashed 0 := by
    rw [hfq]
    rfl
  simp only [Fq.enqueueSkbs, hclassified]
  subst fq
  rw [foldl_queueSkb_mod 0 (.hashed 0) skbs _ (Nat.two_pow_pos 32)
    (Nat.two_pow_pos 32) (Nat.two_pow_pos 32) (Nat.two_pow_pos 32)
    (Nat.two_pow_pos 32)]
  obtain ⟨hflows, hmemory, hpackets, hlimit, hmemoryLimit⟩ :=
    linkFlow_frame (α := ℕ) _ 0 (.hashed 0)
  -- the counters are zero before the packets
  have hwrap : ∀ start size, start = 0 → size = 2 ^ 32 →
      (start + size) % 2 ^ 32 = 0 := by
    rintro start size rfl rfl
    rw [zero_add, Nat.mod_self]
  have hcount : ∀ start size, start = 0 → size = 65536 →
      (start + size) % 2 ^ 32 = 65536 := by
    rintro start size rfl rfl
    norm_num
  refine ⟨(hflows _).1, ?_, hmemory.trans (hwrap _ _ rfl hsize),
    hpackets.trans (hcount _ _ rfl hlength), hlimit, hmemoryLimit⟩
  intro id
  apply (hflows id).2.trans
  by_cases hid : id = .hashed 0
  · subst id
    exact hwrap _ _ rfl hbytes
  · simp only [Function.update_of_ne hid, Fq.setFlow]
    rfl

/-- With these limits a list of 65536 packets is held by a flow whose backlog
is zero. -/
theorem fq_counters_wrap :
    ∃ run : FqRun ℕ,
      ConditionedRun.Reachable (FqRun.step 1) (fun _ _ => True)
        (initial 4096#32) run ∧
      (∀ packet ∈ run.enqueued, 0 < packet.2.len) ∧
      (run.fq.flows (.hashed 0)).backlog = 0 ∧
      bytesOf (run.fq.flows (.hashed 0)).queue = 2 ^ 32 := by
  obtain ⟨skbs, hskbs⟩ : ∃ skbs, skbs = List.replicate 65536 largePacket :=
    ⟨_, rfl⟩
  obtain ⟨hqueue, hbacklog, hmemory, hpackets, hlimit, hmemoryLimit⟩ :=
    enqueueSkbs_wraps _ _ unlimited.fq rfl skbs hskbs
  have hparams : (initial 4096#32 : FqRun ℕ).step 1
      (.setParams 0xffffffff#32 0xffffffff#32 0#32) =
      some (unlimited, []) := rfl
  have hdrop : unlimited.fq.fqTinEnqueue 1 0 0 skbs =
      some ⟨[], [], (unlimited.fq.enqueueSkbs 0 0 skbs).2⟩ := by
    simp only [Fq.fqTinEnqueue, Fq.dropOverlimit]
    rw [if_neg]
    rw [hmemory, hpackets, hlimit, hmemoryLimit]
    decide
  have hcons : largePacket :: List.replicate 65535 largePacket = skbs := by
    rw [hskbs, ← List.replicate_succ]
  have henqueue : unlimited.step 1
      (.enqueue 0 0#32 largePacket (List.replicate 65535 largePacket) 1) =
      some ({ unlimited with
        fq := (unlimited.fq.enqueueSkbs 0 0 skbs).2
        enqueued := skbs.map fun skb => (.hashed 0, skb) }, []) := by
    have hidx : unlimited.fq.fqFlowIdx 0#32 = 0 := by decide +kernel
    have hid : (unlimited.fq.fqFlowClassify 0 0).1 = .hashed 0 := by
      decide +kernel
    simp only [FqRun.step, hidx, hid, hcons, hdrop, Nat.zero_lt_one, if_true,
      Option.map_some, FqRun.record]
    rfl
  refine ⟨_, (ConditionedRun.Reachable.start.after _ _ trivial
    hparams).after _ _ trivial henqueue, ?_, hbacklog _, ?_⟩
  · intro packet hpacket
    obtain ⟨skb, hskb, rfl⟩ := List.mem_map.mp hpacket
    rw [hskbs] at hskb
    rw [List.eq_of_mem_replicate hskb]
    decide
  · rw [hqueue, hskbs, bytesOf, List.map_replicate, List.sum_replicate]
    rfl

end Samples

end FqRun

end IwlwifiStack
