import IwlwifiStack.FlowQueueModel
import IwlwifiStack.SlotRing

/-!
# The books of the flow queues

A call changes one flow at a time, together with the tin that owns it.  The
books stay balanced when the counters of the flow, of the tin and of the whole
queue change by what enters or leaves the flow.
-/

namespace IwlwifiStack

theorem u32Add_eq {a b : ℕ} (hlt : a + b < 2 ^ 32) : u32Add a b = a + b :=
  Nat.mod_eq_of_lt hlt

theorem u32Sub_eq {a b : ℕ} (hlt : a < 2 ^ 32) (hle : b ≤ a) :
    u32Sub a b = a - b := by
  unfold u32Sub
  omega

variable {α : Type*}

/-! ## The flows and their owners -/

def bytesOf (queue : List (FqSkb α)) : ℕ := (queue.map FqSkb.len).sum

def truesizeOf (queue : List (FqSkb α)) : ℕ :=
  (queue.map FqSkb.truesize).sum

namespace FqFlow

/-- The bytes that a flow holds for tin `t`. -/
def bytesFor (t : ℕ) (flow : FqFlow α) : ℕ :=
  if flow.tin = some t then bytesOf flow.queue else 0

def packetsFor (t : ℕ) (flow : FqFlow α) : ℕ :=
  if flow.tin = some t then flow.queue.length else 0

end FqFlow

def FqTin.listed (tin : FqTin) : List FqFlowId :=
  tin.newFlows ++ tin.oldFlows

namespace Fq

def flowIds (numTins : ℕ) (fq : Fq α) : Finset FqFlowId :=
  (Finset.range fq.flowsCnt).image .hashed ∪
    (Finset.range numTins).image .defaultFlow

theorem hashed_mem_flowIds {numTins idx : ℕ} {fq : Fq α} :
    .hashed idx ∈ fq.flowIds numTins ↔ idx < fq.flowsCnt := by
  simp [flowIds]

theorem defaultFlow_mem_flowIds {numTins t : ℕ} {fq : Fq α} :
    .defaultFlow t ∈ fq.flowIds numTins ↔ t < numTins := by
  simp [flowIds]

def total (numTins : ℕ) (weight : FqFlow α → ℕ) (fq : Fq α) : ℕ :=
  ∑ id ∈ fq.flowIds numTins, weight (fq.flows id)

theorem weight_le_total {numTins : ℕ} (weight : FqFlow α → ℕ) {fq : Fq α}
    {id : FqFlowId} (hid : id ∈ fq.flowIds numTins) :
    weight (fq.flows id) ≤ fq.total numTins weight :=
  Finset.single_le_sum (f := fun id => weight (fq.flows id))
    (fun _ _ => Nat.zero_le _) hid

/-- The mark of a flow with backlog: its bit in `flows_bitmap`, or the place
of its tin on `tin_backlog`. -/
def Marked (fq : Fq α) : FqFlowId → Prop
  | .hashed idx => fq.flowsBitmap idx = true
  | .defaultFlow t => t ∈ fq.tinBacklog

end Fq

/-- The books are balanced. -/
structure FqGood (numTins : ℕ) (fq : Fq α) : Prop where
  flowsCnt_pos : 0 < fq.flowsCnt
  backlog_eq : ∀ id ∈ fq.flowIds numTins,
    (fq.flows id).backlog = bytesOf (fq.flows id).queue
  len_pos : ∀ id ∈ fq.flowIds numTins,
    ∀ skb ∈ (fq.flows id).queue, 0 < skb.len
  queue_owned : ∀ id ∈ fq.flowIds numTins,
    (fq.flows id).tin = none → (fq.flows id).queue = []
  linked_eq : ∀ id ∈ fq.flowIds numTins,
    (fq.flows id).linked = (fq.flows id).tin.isSome
  owner : ∀ id ∈ fq.flowIds numTins, ∀ t, (fq.flows id).tin = some t →
    t < numTins ∧ ∀ s, id = .defaultFlow s → s = t
  listed_nodup : ∀ t < numTins, (fq.tins t).listed.Nodup
  mem_listed : ∀ t < numTins, ∀ id,
    id ∈ (fq.tins t).listed ↔
      id ∈ fq.flowIds numTins ∧ (fq.flows id).tin = some t
  tin_bytes : ∀ t < numTins,
    (fq.tins t).backlogBytes = fq.total numTins (FqFlow.bytesFor t)
  tin_packets : ∀ t < numTins,
    (fq.tins t).backlogPackets = fq.total numTins (FqFlow.packetsFor t)
  backlog_total :
    fq.backlog = fq.total numTins fun flow => flow.queue.length
  memoryUsage_total :
    fq.memoryUsage = fq.total numTins fun flow => truesizeOf flow.queue
  marked_iff : ∀ id ∈ fq.flowIds numTins,
    fq.Marked id ↔ (fq.flows id).backlog ≠ 0
  tinBacklog_nodup : fq.tinBacklog.Nodup
  tinBacklog_lt : ∀ t ∈ fq.tinBacklog, t < numTins
  bytes_lt : (fq.total numTins fun flow => bytesOf flow.queue) < 2 ^ 32
  packets_lt : fq.backlog < 2 ^ 32
  truesize_lt : fq.memoryUsage < 2 ^ 32

/-- `fq'` is `fq` with flow `id` of tin `t` replaced by `flow`, and with
balanced counters. -/
structure FlowUpdate (numTins : ℕ) (fq fq' : Fq α) (id : FqFlowId) (t : ℕ)
    (flow : FqFlow α) : Prop where
  id_mem : id ∈ fq.flowIds numTins
  tin_lt : t < numTins
  flows_eq : fq'.flows = Function.update fq.flows id flow
  flowsCnt_eq : fq'.flowsCnt = fq.flowsCnt
  tins_eq : ∀ s, s ≠ t → fq'.tins s = fq.tins s
  was : (fq.flows id).tin = none ∨ (fq.flows id).tin = some t
  owned : flow.tin = none ∧ flow.queue = [] ∨
    flow.tin = some t ∧ ∀ s, id = .defaultFlow s → s = t
  backlog_eq : flow.backlog = bytesOf flow.queue
  len_pos : ∀ skb ∈ flow.queue, 0 < skb.len
  linked_eq : flow.linked = flow.tin.isSome
  listed_nodup : (fq'.tins t).listed.Nodup
  mem_listed : ∀ other, other ∈ (fq'.tins t).listed ↔
    if other = id then flow.tin = some t else other ∈ (fq.tins t).listed
  tin_bytes : (fq'.tins t).backlogBytes + (fq.flows id).bytesFor t =
    (fq.tins t).backlogBytes + flow.bytesFor t
  tin_packets : (fq'.tins t).backlogPackets + (fq.flows id).packetsFor t =
    (fq.tins t).backlogPackets + flow.packetsFor t
  backlog_total : fq'.backlog + (fq.flows id).queue.length =
    fq.backlog + flow.queue.length
  memoryUsage_total : fq'.memoryUsage + truesizeOf (fq.flows id).queue =
    fq.memoryUsage + truesizeOf flow.queue
  marked_self : fq'.Marked id ↔ flow.backlog ≠ 0
  marked_other : ∀ other, other ≠ id → (fq'.Marked other ↔ fq.Marked other)
  tinBacklog_nodup : fq'.tinBacklog.Nodup
  bytes_lt : (fq.total numTins fun flow => bytesOf flow.queue) +
    bytesOf flow.queue < 2 ^ 32 + bytesOf (fq.flows id).queue
  packets_lt : fq'.backlog < 2 ^ 32
  truesize_lt : fq'.memoryUsage < 2 ^ 32

namespace FlowUpdate

variable {numTins t : ℕ} {fq fq' : Fq α} {id : FqFlowId} {flow : FqFlow α}

theorem flowIds_eq (hupdate : FlowUpdate numTins fq fq' id t flow) :
    fq'.flowIds numTins = fq.flowIds numTins := by
  rw [Fq.flowIds, hupdate.flowsCnt_eq, ← Fq.flowIds]

theorem total_eq (hupdate : FlowUpdate numTins fq fq' id t flow)
    (weight : FqFlow α → ℕ) :
    fq'.total numTins weight + weight (fq.flows id) =
      fq.total numTins weight + weight flow := by
  unfold Fq.total
  rw [hupdate.flowIds_eq, hupdate.flows_eq]
  exact SlotRing.sum_update weight fq.flows flow hupdate.id_mem

theorem flows_self (hupdate : FlowUpdate numTins fq fq' id t flow) :
    fq'.flows id = flow := by
  rw [hupdate.flows_eq, Function.update_self]

theorem flows_other (hupdate : FlowUpdate numTins fq fq' id t flow)
    {other : FqFlowId} (hother : other ≠ id) :
    fq'.flows other = fq.flows other := by
  rw [hupdate.flows_eq, Function.update_of_ne hother]

theorem tin_ne (hupdate : FlowUpdate numTins fq fq' id t flow) {s : ℕ}
    (hs : s ≠ t) :
    (fq.flows id).tin ≠ some s ∧ flow.tin ≠ some s := by
  constructor
  · intro howner
    rcases hupdate.was with hnone | hsome
    · rw [howner] at hnone
      cases hnone
    · rw [howner] at hsome
      exact hs (Option.some.inj hsome)
  · intro howner
    rcases hupdate.owned with ⟨hnone, _⟩ | ⟨hsome, _⟩
    · rw [howner] at hnone
      cases hnone
    · rw [howner] at hsome
      exact hs (Option.some.inj hsome)

theorem good (hgood : FqGood numTins fq)
    (hupdate : FlowUpdate numTins fq fq' id t flow) :
    FqGood numTins fq' := by
  have hids := hupdate.flowIds_eq
  constructor
  · rw [hupdate.flowsCnt_eq]
    exact hgood.flowsCnt_pos
  · intro other hother
    rw [hids] at hother
    by_cases heq : other = id
    · subst other
      rw [hupdate.flows_self]
      exact hupdate.backlog_eq
    · rw [hupdate.flows_other heq]
      exact hgood.backlog_eq other hother
  · intro other hother
    rw [hids] at hother
    by_cases heq : other = id
    · subst other
      rw [hupdate.flows_self]
      exact hupdate.len_pos
    · rw [hupdate.flows_other heq]
      exact hgood.len_pos other hother
  · intro other hother hnone
    rw [hids] at hother
    by_cases heq : other = id
    · subst other
      rw [hupdate.flows_self] at hnone ⊢
      rcases hupdate.owned with ⟨_, hqueue⟩ | ⟨hsome, _⟩
      · exact hqueue
      · rw [hsome] at hnone
        cases hnone
    · rw [hupdate.flows_other heq] at hnone ⊢
      exact hgood.queue_owned other hother hnone
  · intro other hother
    rw [hids] at hother
    by_cases heq : other = id
    · subst other
      rw [hupdate.flows_self]
      exact hupdate.linked_eq
    · rw [hupdate.flows_other heq]
      exact hgood.linked_eq other hother
  · intro other hother s hs
    rw [hids] at hother
    by_cases heq : other = id
    · subst other
      rw [hupdate.flows_self] at hs
      rcases hupdate.owned with ⟨hnone, _⟩ | ⟨hsome, hdefault⟩
      · rw [hs] at hnone
        cases hnone
      · rw [Option.some.inj (hs.symm.trans hsome)]
        exact ⟨hupdate.tin_lt, hdefault⟩
    · rw [hupdate.flows_other heq] at hs
      exact hgood.owner other hother s hs
  · intro s hs
    by_cases heq : s = t
    · subst s
      exact hupdate.listed_nodup
    · rw [hupdate.tins_eq s heq]
      exact hgood.listed_nodup s hs
  · intro s hs other
    rw [hids]
    by_cases hst : s = t
    · subst s
      rw [hupdate.mem_listed]
      by_cases heq : other = id
      · subst other
        rw [if_pos rfl, hupdate.flows_self]
        exact (and_iff_right hupdate.id_mem).symm
      · rw [if_neg heq, hupdate.flows_other heq]
        exact hgood.mem_listed t hupdate.tin_lt other
    · rw [hupdate.tins_eq s hst, hgood.mem_listed s hs]
      by_cases heq : other = id
      · subst other
        rw [hupdate.flows_self]
        have hne := hupdate.tin_ne hst
        simp only [hne.1, hne.2]
      · rw [hupdate.flows_other heq]
  · intro s hs
    have htotal := hupdate.total_eq (FqFlow.bytesFor s)
    have hold := hgood.tin_bytes s hs
    by_cases hst : s = t
    · subst s
      have hbytes := hupdate.tin_bytes
      omega
    · have hne := hupdate.tin_ne hst
      rw [hupdate.tins_eq s hst]
      simp only [FqFlow.bytesFor, hne.1, hne.2, if_false] at htotal
      exact hold.trans htotal.symm
  · intro s hs
    have htotal := hupdate.total_eq (FqFlow.packetsFor s)
    have hold := hgood.tin_packets s hs
    by_cases hst : s = t
    · subst s
      have hpackets := hupdate.tin_packets
      omega
    · have hne := hupdate.tin_ne hst
      rw [hupdate.tins_eq s hst]
      simp only [FqFlow.packetsFor, hne.1, hne.2, if_false] at htotal
      exact hold.trans htotal.symm
  · have htotal := hupdate.total_eq fun flow => flow.queue.length
    have hold := hgood.backlog_total
    have hbacklog := hupdate.backlog_total
    omega
  · have htotal := hupdate.total_eq fun flow => truesizeOf flow.queue
    have hold := hgood.memoryUsage_total
    have hmemory := hupdate.memoryUsage_total
    omega
  · intro other hother
    rw [hids] at hother
    by_cases heq : other = id
    · subst other
      rw [hupdate.flows_self]
      exact hupdate.marked_self
    · rw [hupdate.marked_other other heq, hupdate.flows_other heq]
      exact hgood.marked_iff other hother
  · exact hupdate.tinBacklog_nodup
  · intro s hs
    by_cases hid : .defaultFlow s = id
    · have hmem := hupdate.id_mem
      rw [← hid] at hmem
      exact Fq.defaultFlow_mem_flowIds.mp hmem
    · exact hgood.tinBacklog_lt s ((hupdate.marked_other _ hid).mp hs)
  · have htotal := hupdate.total_eq fun flow => bytesOf flow.queue
    have hbytes := hupdate.bytes_lt
    omega
  · exact hupdate.packets_lt
  · exact hupdate.truesize_lt

end FlowUpdate

theorem FqGood.congr {numTins : ℕ} {fq fq' : Fq α}
    (hgood : FqGood numTins fq) (hflows : fq'.flows = fq.flows)
    (hbitmap : fq'.flowsBitmap = fq.flowsBitmap)
    (htins : ∀ t, (fq'.tins t).listed = (fq.tins t).listed ∧
      (fq'.tins t).backlogBytes = (fq.tins t).backlogBytes ∧
      (fq'.tins t).backlogPackets = (fq.tins t).backlogPackets)
    (htinBacklog : fq'.tinBacklog = fq.tinBacklog)
    (hcnt : fq'.flowsCnt = fq.flowsCnt)
    (hmemory : fq'.memoryUsage = fq.memoryUsage)
    (hbacklog : fq'.backlog = fq.backlog) :
    FqGood numTins fq' := by
  have hids : fq'.flowIds numTins = fq.flowIds numTins := by
    rw [Fq.flowIds, hcnt, ← Fq.flowIds]
  have htotal : ∀ weight : FqFlow α → ℕ,
      fq'.total numTins weight = fq.total numTins weight := by
    intro weight
    rw [Fq.total, hids, hflows, ← Fq.total]
  have hmarked : ∀ id, fq'.Marked id ↔ fq.Marked id := by
    intro id
    cases id with
    | hashed idx => simp only [Fq.Marked, hbitmap]
    | defaultFlow t => simp only [Fq.Marked, htinBacklog]
  constructor
  · rw [hcnt]
    exact hgood.flowsCnt_pos
  · rw [hids, hflows]
    exact hgood.backlog_eq
  · rw [hids, hflows]
    exact hgood.len_pos
  · rw [hids, hflows]
    exact hgood.queue_owned
  · rw [hids, hflows]
    exact hgood.linked_eq
  · rw [hids, hflows]
    exact hgood.owner
  · intro t ht
    rw [(htins t).1]
    exact hgood.listed_nodup t ht
  · intro t ht id
    rw [(htins t).1, hids, hflows]
    exact hgood.mem_listed t ht id
  · intro t ht
    rw [(htins t).2.1, htotal]
    exact hgood.tin_bytes t ht
  · intro t ht
    rw [(htins t).2.2, htotal]
    exact hgood.tin_packets t ht
  · rw [hbacklog, htotal]
    exact hgood.backlog_total
  · rw [hmemory, htotal]
    exact hgood.memoryUsage_total
  · intro id hid
    rw [hmarked, hflows]
    rw [hids] at hid
    exact hgood.marked_iff id hid
  · rw [htinBacklog]
    exact hgood.tinBacklog_nodup
  · rw [htinBacklog]
    exact hgood.tinBacklog_lt
  · rw [htotal]
    exact hgood.bytes_lt
  · rw [hbacklog]
    exact hgood.packets_lt
  · rw [hmemory]
    exact hgood.truesize_lt

end IwlwifiStack
