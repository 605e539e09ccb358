import IwlwifiStack.ConditionedRun

/-!
# Fair queueing

The per-flow queues of mac80211 (`net/fq.h`, `net/fq_impl.h`).  A flow is
either an entry of `fq->flows`, found by the hash of a packet, or the default
flow of a tin, used when the entry belongs to another tin.  All flows are kept
in one table; `flowchain` is a position on one of the two lists of a tin.

The callbacks are those of mac80211: packets leave a flow through
`fq_flow_dequeue`, and CoDel may drop some of them before one is returned.
-/

namespace IwlwifiStack

/-- Addition of a `u32`. -/
def u32Add (a b : ℕ) : ℕ := (a + b) % 2 ^ 32

/-- Subtraction of a `u32`. -/
def u32Sub (a b : ℕ) : ℕ := (a + (2 ^ 32 - b % 2 ^ 32)) % 2 ^ 32

/-- The value that an `int` keeps. -/
def toInt32 (x : ℤ) : ℤ := Int.bmod x (2 ^ 32)

/-- `&fq->flows[idx]` or `&tin->default_flow` -/
inductive FqFlowId
  | hashed (idx : ℕ)
  | defaultFlow (tin : ℕ)
  deriving DecidableEq, Repr

/-- What the queues read of a `struct sk_buff`. -/
structure FqSkb (α : Type*) where
  frame : α
  len : ℕ
  truesize : ℕ
  deriving DecidableEq, Repr

/-- `struct fq_flow`; `linked` is `!list_empty(&flow->flowchain)`. -/
structure FqFlow (α : Type*) where
  tin : Option ℕ
  linked : Bool
  queue : List (FqSkb α)
  backlog : ℕ
  deficit : ℤ
  deriving DecidableEq, Repr

/-- `struct fq_tin` without its default flow. -/
structure FqTin where
  newFlows : List FqFlowId
  oldFlows : List FqFlowId
  backlogBytes : ℕ
  backlogPackets : ℕ
  overlimit : ℕ
  collisions : ℕ
  flows : ℕ
  txBytes : ℕ
  txPackets : ℕ
  deriving DecidableEq, Repr

/-- `struct fq`; a tin is on `tinBacklog` when its `tin_list` is linked. -/
structure Fq (α : Type*) where
  flows : FqFlowId → FqFlow α
  flowsBitmap : ℕ → Bool
  tins : ℕ → FqTin
  tinBacklog : List ℕ
  flowsCnt : ℕ
  limit : ℕ
  memoryLimit : ℕ
  memoryUsage : ℕ
  quantum : ℕ
  backlog : ℕ
  overlimit : ℕ
  overmemory : ℕ
  collisions : ℕ

/-- A packet and the flow it left. -/
abbrev FlowPacket (α : Type*) := FqFlowId × FqSkb α

namespace Fq

variable {α : Type*}

def setFlow (fq : Fq α) (id : FqFlowId) (flow : FqFlow α) : Fq α :=
  { fq with flows := Function.update fq.flows id flow }

def setTin (fq : Fq α) (t : ℕ) (tin : FqTin) : Fq α :=
  { fq with tins := Function.update fq.tins t tin }

/-! ## Removal -/

/-- The end of `__fq_adjust_removal`, for a flow without backlog. -/
def clearBacklogged (fq : Fq α) (t : ℕ) : FqFlowId → Option (Fq α)
  | .hashed idx =>
      some { fq with flowsBitmap := Function.update fq.flowsBitmap idx false }
  | .defaultFlow s =>
      -- the index of another tin's default flow is not in the bitmap
      if s = t then some { fq with tinBacklog := fq.tinBacklog.erase t }
      else none

/-- `__fq_adjust_removal`; `none` when the flow has no tin to dereference. -/
def adjustRemoval (fq : Fq α) (id : FqFlowId) (packets bytes truesize : ℕ) :
    Option (Fq α) :=
  match (fq.flows id).tin with
  | none => none
  | some t =>
      let tin := fq.tins t
      let backlog := u32Sub (fq.flows id).backlog bytes
      let adjusted :=
        { (fq.setTin t { tin with
              backlogBytes := u32Sub tin.backlogBytes bytes
              backlogPackets := u32Sub tin.backlogPackets packets }).setFlow
            id { fq.flows id with backlog := backlog } with
          backlog := u32Sub fq.backlog packets
          memoryUsage := u32Sub fq.memoryUsage truesize }
      if backlog ≠ 0 then some adjusted
      else adjusted.clearBacklogged t id

/-- `__skb_dequeue` and `__skb_unlink` leave these packets in the queue. -/
def setQueue (fq : Fq α) (id : FqFlowId) (queue : List (FqSkb α)) : Fq α :=
  fq.setFlow id { fq.flows id with queue := queue }

/-- `fq_adjust_removal` -/
def fqAdjustRemoval (fq : Fq α) (id : FqFlowId) (skb : FqSkb α) :
    Option (Fq α) :=
  fq.adjustRemoval id 1 skb.len skb.truesize

/-- `fq_flow_dequeue` -/
def fqFlowDequeue (fq : Fq α) (id : FqFlowId) :
    Option (Option (FqSkb α) × Fq α) :=
  match (fq.flows id).queue with
  | [] => some (none, fq)
  | skb :: rest =>
      ((fq.setQueue id rest).fqAdjustRemoval id skb).map fun fq =>
        (some skb, fq)

/-- The loop of `fq_flow_drop`: at least one packet, then up to `pending`;
returns the dropped packets and the rest of the queue. -/
def dropPackets (pending : ℕ) :
    ℕ → List (FqSkb α) → List (FqSkb α) × List (FqSkb α)
  | _, [] => ([], [])
  | packets, skb :: rest =>
      if packets + 1 < pending then
        let dropped := dropPackets pending (packets + 1) rest
        (skb :: dropped.1, dropped.2)
      else ([skb], rest)

/-- `fq_flow_drop`; returns the packets passed to `free_func`. -/
def fqFlowDrop (fq : Fq α) (id : FqFlowId) :
    Option (List (FqSkb α) × Fq α) :=
  let queue := (fq.flows id).queue
  let dropped := dropPackets (min 32 (queue.length / 2)) 0 queue
  let bytes := dropped.1.foldl (fun sum skb => u32Add sum skb.len) 0
  let truesize :=
    dropped.1.foldl (fun sum skb => u32Add sum skb.truesize) 0
  ((fq.setQueue id dropped.2).adjustRemoval id dropped.1.length bytes
    truesize).map fun fq => (dropped.1, fq)

/-! ## Enqueue -/

/-- `fq_flow_idx` of a packet with this hash: `reciprocal_scale`. -/
def fqFlowIdx (fq : Fq α) (hash : BitVec 32) : ℕ :=
  hash.toNat * fq.flowsCnt / 2 ^ 32

/-- `fq_flow_classify` -/
def fqFlowClassify (fq : Fq α) (t idx : ℕ) : FqFlowId × Fq α :=
  let owner := (fq.flows (.hashed idx)).tin
  let collides : Bool := owner ≠ none ∧ owner ≠ some t
  let id : FqFlowId := if collides then .defaultFlow t else .hashed idx
  let fq :=
    if collides then
      let tin := fq.tins t
      { fq.setTin t { tin with collisions := u32Add tin.collisions 1 } with
        collisions := u32Add fq.collisions 1 }
    else fq
  let tin := fq.tins t
  (id,
    if (fq.flows id).tin = none then
      fq.setTin t { tin with flows := u32Add tin.flows 1 }
    else fq)

/-- The flow gets its first packet. -/
def markBacklogged (fq : Fq α) (t : ℕ) : FqFlowId → Fq α
  | .hashed idx =>
      { fq with flowsBitmap := Function.update fq.flowsBitmap idx true }
  | .defaultFlow _ =>
      if t ∈ fq.tinBacklog then fq
      else { fq with tinBacklog := t :: fq.tinBacklog }

/-- One packet of the list passed to `fq_tin_enqueue`. -/
def queueSkb (t : ℕ) (id : FqFlowId) (fq : Fq α) (skb : FqSkb α) : Fq α :=
  let flow := fq.flows id
  let tin := fq.tins t
  { (fq.setTin t { tin with
        backlogBytes := u32Add tin.backlogBytes skb.len
        backlogPackets := u32Add tin.backlogPackets 1 }).setFlow id
      { flow with
        backlog := u32Add flow.backlog skb.len
        queue := flow.queue ++ [skb] } with
    memoryUsage := u32Add fq.memoryUsage skb.truesize
    backlog := u32Add fq.backlog 1 }

/-- A flow that is on no list becomes a new flow. -/
def linkFlow (fq : Fq α) (t : ℕ) (id : FqFlowId) : Fq α :=
  let flow := fq.flows id
  let tin := fq.tins t
  if flow.linked then fq
  else
    (fq.setTin t { tin with newFlows := tin.newFlows ++ [id] }).setFlow id
      { flow with deficit := toInt32 fq.quantum, linked := true }

/-- `fq_find_fattest_flow` -/
def fqFindFattestFlow (fq : Fq α) : Option FqFlowId :=
  let candidates :=
    ((List.range fq.flowsCnt).filter fq.flowsBitmap).map .hashed ++
      fq.tinBacklog.map .defaultFlow
  (candidates.foldl
    (fun (best : Option FqFlowId × ℕ) id =>
      if (fq.flows id).backlog ≤ best.2 then best
      else (some id, (fq.flows id).backlog))
    (none, 0)).1

/-- What a call returns or passes to `free_func`, and the state after it. -/
structure Released (α : Type*) where
  sent : List (FlowPacket α)
  freed : List (FlowPacket α)
  fq : Fq α

namespace Released

/-- A later part of the call, after these packets were freed. -/
def afterFreed (released : Released α) (freed : List (FlowPacket α)) :
    Released α :=
  { released with freed := freed ++ released.freed }

end Released

/-- Counts the drop in `fq_tin_enqueue`; `none` when the flow has no tin. -/
def countOverlimit (fq : Fq α) (id : FqFlowId) (oom : Bool) :
    Option (Fq α) :=
  (fq.flows id).tin.map fun t =>
    let tin := fq.tins t
    { fq.setTin t { tin with overlimit := u32Add tin.overlimit 1 } with
      overlimit := u32Add fq.overlimit 1
      overmemory := if oom then u32Add fq.overmemory 1 else fq.overmemory }

/-- The loop at the end of `fq_tin_enqueue`; `none` when it has not ended
after `rounds`. -/
def dropOverlimit : ℕ → Fq α → Bool → Option (Released α)
  | 0, _, _ => none
  | rounds + 1, fq, oom =>
      if fq.backlog > fq.limit ∨ oom then
        match fq.fqFindFattestFlow with
        | none => some ⟨[], [], fq⟩
        | some id =>
            (fq.fqFlowDrop id).bind fun dropped =>
              let freed := dropped.1.map fun skb => (id, skb)
              if dropped.1 = [] then some ⟨[], freed, dropped.2⟩
              else
                (dropped.2.countOverlimit id oom).bind fun fq =>
                  (dropOverlimit rounds fq
                    (oom && decide (fq.memoryUsage > fq.memoryLimit))).map
                    fun released => released.afterFreed freed
      else some ⟨[], [], fq⟩

/-- `fq_tin_enqueue` up to its loop, with the flow of the packets. -/
def enqueueSkbs (fq : Fq α) (t idx : ℕ) (skbs : List (FqSkb α)) :
    FqFlowId × Fq α :=
  let classified := fq.fqFlowClassify t idx
  let id := classified.1
  let fq := classified.2
  let fq := if (fq.flows id).backlog = 0 then fq.markBacklogged t id else fq
  let fq := fq.setFlow id { fq.flows id with tin := some t }
  let fq := skbs.foldl (queueSkb t id) fq
  (id, fq.linkFlow t id)

/-- `fq_tin_enqueue` -/
def fqTinEnqueue (rounds : ℕ) (fq : Fq α) (t idx : ℕ)
    (skbs : List (FqSkb α)) : Option (Released α) :=
  let fq := (fq.enqueueSkbs t idx skbs).2
  dropOverlimit rounds fq (decide (fq.memoryUsage > fq.memoryLimit))

/-! ## Dequeue -/

/-- `codel_dequeue` on a flow; `drops` are the packets that CoDel decides to
drop. -/
def codelDequeue (drops : FqSkb α → Bool) (id : FqFlowId) :
    ℕ → Fq α → Option (Option (FqSkb α) × Released α)
  | 0, _ => none
  | left + 1, fq =>
      (fq.fqFlowDequeue id).bind fun dequeued =>
        match dequeued.1 with
        | none => some (none, ⟨[], [], dequeued.2⟩)
        | some skb =>
            if drops skb then
              (codelDequeue drops id left dequeued.2).map fun result =>
                (result.1, result.2.afterFreed [(id, skb)])
            else some (some skb, ⟨[(id, skb)], [], dequeued.2⟩)

/-- `fq_tin_dequeue_func` -/
def fqTinDequeueFunc (fq : Fq α) (drops : FqSkb α → Bool) (id : FqFlowId) :
    Option (Option (FqSkb α) × Released α) :=
  fq.codelDequeue drops id ((fq.flows id).queue.length + 1)

end Fq

namespace FqTin

/-- The first entry of `new_flows`, or else of `old_flows`. -/
def firstFlow (tin : FqTin) : Option FqFlowId :=
  match tin.newFlows with
  | [] => tin.oldFlows.head?
  | id :: _ => some id

/-- `list_del_init` of the first flow. -/
def delFirst (tin : FqTin) : FqTin :=
  match tin.newFlows with
  | [] => { tin with oldFlows := tin.oldFlows.tail }
  | _ :: rest => { tin with newFlows := rest }

/-- `list_move_tail` of the first flow to `old_flows`. -/
def moveFirst (tin : FqTin) (id : FqFlowId) : FqTin :=
  { tin.delFirst with oldFlows := tin.delFirst.oldFlows ++ [id] }

end FqTin

namespace Fq

variable {α : Type*}

/-- The flow had no packet for `fq_tin_dequeue`. -/
def passFlow (fq : Fq α) (t : ℕ) (id : FqFlowId) : Fq α :=
  let tin := fq.tins t
  if tin.newFlows ≠ [] ∧ tin.oldFlows ≠ [] then
    fq.setTin t (tin.moveFirst id)
  else
    (fq.setTin t tin.delFirst).setFlow id
      { fq.flows id with linked := false, tin := none }

/-- The flow has used up its deficit. -/
def refillFlow (fq : Fq α) (t : ℕ) (id : FqFlowId) : Fq α :=
  let flow := fq.flows id
  (fq.setTin t ((fq.tins t).moveFirst id)).setFlow id
    { flow with deficit := toInt32 (flow.deficit + fq.quantum) }

def countSent (fq : Fq α) (t : ℕ) (id : FqFlowId) (skb : FqSkb α) : Fq α :=
  let flow := fq.flows id
  let tin := fq.tins t
  (fq.setTin t { tin with
      txBytes := u32Add tin.txBytes skb.len
      txPackets := u32Add tin.txPackets 1 }).setFlow id
    { flow with deficit := toInt32 (flow.deficit - skb.len) }

/-- `fq_tin_dequeue`; `none` when it has not returned after `rounds`. -/
def fqTinDequeue (drops : FqSkb α → Bool) (t : ℕ) :
    ℕ → Fq α → Option (Released α)
  | 0, _ => none
  | rounds + 1, fq =>
      match (fq.tins t).firstFlow with
      | none => some ⟨[], [], fq⟩
      | some id =>
          if (fq.flows id).deficit ≤ 0 then
            fqTinDequeue drops t rounds (fq.refillFlow t id)
          else
            (fq.fqTinDequeueFunc drops id).bind fun result =>
              match result.1 with
              | none =>
                  (fqTinDequeue drops t rounds
                    (result.2.fq.passFlow t id)).map fun released =>
                      released.afterFreed result.2.freed
              | some skb =>
                  some { result.2 with
                    fq := result.2.fq.countSent t id skb }

/-! ## Filter and reset -/

/-- `fq_flow_filter` behind the packets `kept`. -/
def filterQueue (filter : FqSkb α → Bool) (id : FqFlowId) :
    List (FqSkb α) → List (FqSkb α) → Fq α → Option (Released α)
  | _, [], fq => some ⟨[], [], fq⟩
  | kept, skb :: rest, fq =>
      if filter skb then
        ((fq.setQueue id (kept ++ rest)).fqAdjustRemoval id skb).bind
          fun fq =>
            (filterQueue filter id kept rest fq).map fun released =>
              released.afterFreed [(id, skb)]
      else filterQueue filter id (kept ++ [skb]) rest fq

/-- `fq_flow_filter` -/
def fqFlowFilter (fq : Fq α) (filter : FqFlowId → FqSkb α → Bool)
    (id : FqFlowId) : Option (Released α) :=
  filterQueue (filter id) id [] (fq.flows id).queue fq

def filterFlows (filter : FqFlowId → FqSkb α → Bool) :
    List FqFlowId → Fq α → Option (Released α)
  | [], fq => some ⟨[], [], fq⟩
  | id :: ids, fq =>
      (fq.fqFlowFilter filter id).bind fun first =>
        (filterFlows filter ids first.fq).map fun released =>
          released.afterFreed first.freed

/-- `fq_tin_filter` -/
def fqTinFilter (fq : Fq α) (filter : FqFlowId → FqSkb α → Bool) (t : ℕ) :
    Option (Released α) :=
  (filterFlows filter (fq.tins t).newFlows fq).bind fun first =>
    (filterFlows filter (first.fq.tins t).oldFlows first.fq).map
      fun released => released.afterFreed first.freed

/-- The loop of `fq_flow_reset`: `fq_flow_dequeue` until the queue is empty. -/
def purgeQueue (id : FqFlowId) : ℕ → Fq α → Option (Released α)
  | 0, _ => none
  | left + 1, fq =>
      (fq.fqFlowDequeue id).bind fun dequeued =>
        match dequeued.1 with
        | none => some ⟨[], [], dequeued.2⟩
        | some skb =>
            (purgeQueue id left dequeued.2).map fun released =>
              released.afterFreed [(id, skb)]

/-- `fq_flow_reset` of the first flow of tin `t`, after its loop; `owner` is
`flow->tin`. -/
def releaseFlow (fq : Fq α) (t owner : ℕ) (id : FqFlowId) : Fq α :=
  let fq :=
    (fq.setTin t (fq.tins t).delFirst).setFlow id
      { fq.flows id with linked := false, tin := none }
  if (fq.tins owner).newFlows = [] ∧ (fq.tins owner).oldFlows = [] then
    { fq with tinBacklog := fq.tinBacklog.erase owner }
  else fq

/-- `fq_flow_reset` of the first flow of tin `t`; `none` when the flow has no
tin to dereference. -/
def fqFlowReset (fq : Fq α) (t : ℕ) (id : FqFlowId) :
    Option (Released α) :=
  (fq.flows id).tin.bind fun owner =>
    (purgeQueue id ((fq.flows id).queue.length + 1) fq).map fun released =>
      { released with fq := released.fq.releaseFlow t owner id }

def resetFlows (t : ℕ) : ℕ → Fq α → Option (Released α)
  | 0, _ => none
  | left + 1, fq =>
      match (fq.tins t).firstFlow with
      | none => some ⟨[], [], fq⟩
      | some id =>
          (fq.fqFlowReset t id).bind fun first =>
            (resetFlows t left first.fq).map fun released =>
              released.afterFreed first.freed

/-- `fq_tin_reset` -/
def fqTinReset (fq : Fq α) (t : ℕ) : Option (Released α) :=
  resetFlows t
    ((fq.tins t).newFlows.length + (fq.tins t).oldFlows.length + 1) fq

end Fq

/-! ## Runs -/

/-- `fq_flow_init` -/
def FqFlow.init {α : Type*} : FqFlow α where
  tin := none
  linked := false
  queue := []
  backlog := 0
  deficit := 0

/-- `fq_tin_init` on a zeroed tin. -/
def FqTin.init : FqTin where
  newFlows := []
  oldFlows := []
  backlogBytes := 0
  backlogPackets := 0
  overlimit := 0
  collisions := 0
  flows := 0
  txBytes := 0
  txPackets := 0

/-- `fq_init` -/
def fqInit {α : Type*} (flowsCnt : BitVec 32) : Fq α where
  flows := fun _ => FqFlow.init
  flowsBitmap := fun _ => false
  tins := fun _ => FqTin.init
  tinBacklog := []
  flowsCnt := max flowsCnt.toNat 1
  limit := 8192
  memoryLimit := 16 * 2 ^ 20
  memoryUsage := 0
  quantum := 300
  backlog := 0
  overlimit := 0
  overmemory := 0
  collisions := 0

/-- A call on one of the tins, or `ieee80211_txq_set_params`.  A packet comes
with those that its `next` pointer chains to it. -/
inductive FqCall (α : Type*)
  | enqueue (tin : ℕ) (hash : BitVec 32) (skb : FqSkb α)
      (next : List (FqSkb α)) (rounds : ℕ)
  | dequeue (tin : ℕ) (drops : FqSkb α → Bool) (rounds : ℕ)
  | filter (tin : ℕ) (filter : FqFlowId → FqSkb α → Bool)
  | reset (tin : ℕ)
  | setParams (limit memoryLimit quantum : BitVec 32)

/-- The queues with all packets that went in and came out. -/
structure FqRun (α : Type*) where
  fq : Fq α
  enqueued : List (FlowPacket α)
  dequeued : List (FlowPacket α)
  freed : List (FlowPacket α)

namespace FqRun

variable {α : Type*}

def initial (flowsCnt : BitVec 32) : FqRun α where
  fq := fqInit flowsCnt
  enqueued := []
  dequeued := []
  freed := []

/-- Record what a call released. -/
def record (run : FqRun α) (released : Fq.Released α) :
    FqRun α × List (FlowPacket α) :=
  ({ run with
      fq := released.fq
      dequeued := run.dequeued ++ released.sent
      freed := run.freed ++ released.freed },
    released.sent)

/-- One call, with the packets it returns; `none` for a tin that does not
exist or when the call does not return. -/
def step (numTins : ℕ) (run : FqRun α) :
    FqCall α → Option (FqRun α × List (FlowPacket α))
  | .enqueue t hash skb next rounds =>
      if t < numTins then
        let idx := run.fq.fqFlowIdx hash
        let id := (run.fq.fqFlowClassify t idx).1
        let run' :=
          { run with
            enqueued :=
              run.enqueued ++ (skb :: next).map fun skb => (id, skb) }
        (run.fq.fqTinEnqueue rounds t idx (skb :: next)).map run'.record
      else none
  | .dequeue t drops rounds =>
      if t < numTins then
        (run.fq.fqTinDequeue drops t rounds).map run.record
      else none
  | .filter t filter =>
      if t < numTins then
        (run.fq.fqTinFilter filter t).map run.record
      else none
  | .reset t =>
      if t < numTins then (run.fq.fqTinReset t).map run.record
      else none
  | .setParams limit memoryLimit quantum =>
      some
        ({ run with
            fq := { run.fq with
              limit :=
                if limit = 0 then run.fq.limit else limit.toNat
              memoryLimit :=
                if memoryLimit = 0 then run.fq.memoryLimit
                else memoryLimit.toNat
              quantum :=
                if quantum = 0 then run.fq.quantum else quantum.toNat } },
          [])

end FqRun

end IwlwifiStack
