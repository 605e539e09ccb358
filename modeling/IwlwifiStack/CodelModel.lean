import IwlwifiStack.FlowQueueModel

/-!
# Controlled delay

The CoDel algorithm of `net/codel_impl.h` as `fq_tin_dequeue_func` runs it on
one flow.  Times are the 32 bit clock of 1024 ns; `drop_func` frees a packet.

`INET_ECN_set_ce` is outside the tree: it tells whether a packet is ECN
capable, and marks it if so.  A mark is reported next to the packet.
-/

namespace IwlwifiStack

/-- `codel_time_after` -/
def codelTimeAfter (a b : BitVec 32) : Bool := 0 < (a - b).toInt

/-- `codel_time_after_eq` -/
def codelTimeAfterEq (a b : BitVec 32) : Bool := 0 ≤ (a - b).toInt

/-- `codel_time_before` -/
def codelTimeBefore (a b : BitVec 32) : Bool := codelTimeAfter b a

/-- `struct codel_params` with a `ce_threshold_mask` of zero. -/
structure CodelParams where
  target : BitVec 32
  ceThreshold : BitVec 32
  interval : BitVec 32
  mtu : BitVec 32
  ecn : Bool
  deriving DecidableEq, Repr

/-- `MS2TIME` -/
def ms2Time (ms : ℕ) : BitVec 32 := BitVec.ofNat 32 (ms * 1000000 / 2 ^ 10)

/-- `codel_params_init` on a zeroed structure, then
`ieee80211_txq_setup_flows`. -/
def CodelParams.init : CodelParams where
  target := ms2Time 20
  ceThreshold := 0x7fffffff#32
  interval := ms2Time 100
  mtu := 0
  ecn := true

/-- `struct codel_vars` -/
structure CodelVars where
  count : BitVec 32
  lastcount : BitVec 32
  dropping : Bool
  recInvSqrt : BitVec 16
  firstAboveTime : BitVec 32
  dropNext : BitVec 32
  ldelay : BitVec 32
  deriving DecidableEq, Repr

/-- `codel_vars_init` -/
def CodelVars.init : CodelVars where
  count := 0
  lastcount := 0
  dropping := false
  recInvSqrt := 0
  firstAboveTime := 0
  dropNext := 0
  ldelay := 0

/-- `struct codel_stats` -/
structure CodelStats where
  maxpacket : BitVec 32
  dropCount : BitVec 32
  dropLen : BitVec 32
  ecnMark : BitVec 32
  ceMark : BitVec 32
  deriving DecidableEq, Repr

/-- `codel_stats_init` on a zeroed structure. -/
def CodelStats.init : CodelStats where
  maxpacket := 0
  dropCount := 0
  dropLen := 0
  ecnMark := 0
  ceMark := 0

/-- What a call of `codel_dequeue` reads besides the flow: the parameters, the
clock, `enqueue_time` of a frame, and whether the frame is ECN capable. -/
structure CodelEnv (α : Type*) where
  params : CodelParams
  now : BitVec 32
  enqueueTime : α → BitVec 32
  setCe : α → Bool

/-- The state of CoDel around one packet taken from the flow: what it has
freed, and whether it marked the packet. -/
structure CodelHead (α : Type*) where
  fq : Fq α
  skb : Option (FqSkb α)
  marked : Bool
  freed : List (FlowPacket α)
  vars : CodelVars
  stats : CodelStats

/-- `codel_Newton_step` -/
def CodelVars.newtonStep (vars : CodelVars) : CodelVars :=
  let invsqrt : BitVec 32 := vars.recInvSqrt.setWidth 32 <<< 16
  let invsqrt2 : BitVec 32 :=
    ((invsqrt.setWidth 64 * invsqrt.setWidth 64) >>> 32).setWidth 32
  let val : BitVec 64 :=
    (3#64 <<< 32) - vars.count.setWidth 64 * invsqrt2.setWidth 64
  let val := val >>> 2
  let val := (val * invsqrt.setWidth 64) >>> 31
  { vars with recInvSqrt := (val >>> 16).setWidth 16 }

/-- `codel_control_law` -/
def codelControlLaw (t interval : BitVec 32) (recInvSqrt : BitVec 16) :
    BitVec 32 :=
  let scale : BitVec 32 := recInvSqrt.setWidth 32 <<< 16
  t + ((interval.setWidth 64 * scale.setWidth 64) >>> 32).setWidth 32

/-- Set `drop_next` from this time on. -/
def CodelVars.schedule (vars : CodelVars) (t interval : BitVec 32) :
    CodelVars :=
  { vars with dropNext := codelControlLaw t interval vars.recInvSqrt }

namespace CodelEnv

variable {α : Type*}

/-- `codel_should_drop` with this backlog of the flow. -/
def shouldDrop (env : CodelEnv α) (skb : Option (FqSkb α)) (backlog : ℕ)
    (vars : CodelVars) (stats : CodelStats) :
    Bool × CodelVars × CodelStats :=
  match skb with
  | none => (false, { vars with firstAboveTime := 0 }, stats)
  | some skb =>
      let vars :=
        { vars with ldelay := env.now - env.enqueueTime skb.frame }
      let stats :=
        if skb.len > stats.maxpacket.toNat then
          { stats with maxpacket := BitVec.ofNat 32 skb.len }
        else stats
      if codelTimeBefore vars.ldelay env.params.target ∨
          backlog ≤ env.params.mtu.toNat then
        (false, { vars with firstAboveTime := 0 }, stats)
      else if vars.firstAboveTime = 0 then
        (false,
          { vars with firstAboveTime := env.now + env.params.interval },
          stats)
      else (codelTimeAfter env.now vars.firstAboveTime, vars, stats)

/-- Drop the packet, take the next one from the flow and look at it. -/
def dropNext (env : CodelEnv α) (id : FqFlowId) (head : CodelHead α)
    (skb : FqSkb α) : Option (Bool × CodelHead α) :=
  (head.fq.fqFlowDequeue id).map fun dequeued =>
    let stats :=
      { head.stats with
        dropLen := head.stats.dropLen + BitVec.ofNat 32 skb.len
        dropCount := head.stats.dropCount + 1 }
    let checked :=
      env.shouldDrop dequeued.1 (dequeued.2.flows id).backlog head.vars stats
    (checked.1,
      { head with
        fq := dequeued.2
        skb := dequeued.1
        freed := head.freed ++ [(id, skb)]
        vars := checked.2.1
        stats := checked.2.2 })

/-- `params->ecn && INET_ECN_set_ce(skb)` -/
def ecnMarks (env : CodelEnv α) (skb : FqSkb α) : Bool :=
  env.params.ecn && env.setCe skb.frame

/-- Mark the packet instead of dropping it. -/
def markEcn (head : CodelHead α) : CodelHead α :=
  { head with
    marked := true
    stats := { head.stats with ecnMark := head.stats.ecnMark + 1 } }

/-- The drop count goes up, and the drop rate with it. -/
def countDrop (head : CodelHead α) : CodelHead α :=
  { head with vars :=
      { head.vars with count := head.vars.count + 1 }.newtonStep }

/-- The loop of `codel_dequeue` in the dropping state; `none` when it has not
ended after `left` rounds or would dereference no packet. -/
def dropLoop (env : CodelEnv α) (id : FqFlowId) :
    ℕ → CodelHead α → Option (CodelHead α)
  | 0, _ => none
  | left + 1, head =>
      if head.vars.dropping ∧
          codelTimeAfterEq env.now head.vars.dropNext then
        let head := countDrop head
        match head.skb with
        | none => none
        | some skb =>
            if env.ecnMarks skb then
              some { markEcn head with
                vars := head.vars.schedule head.vars.dropNext
                  env.params.interval }
            else
              (env.dropNext id head skb).bind fun next =>
                dropLoop env id left
                  { next.2 with
                    vars :=
                      if next.1 then
                        next.2.vars.schedule next.2.vars.dropNext
                          env.params.interval
                      else { next.2.vars with dropping := false } }
      else some head

/-- The variables when `codel_dequeue` enters the dropping state; the drop
rate starts from the last one when that is recent. -/
def enterVars (env : CodelEnv α) (vars : CodelVars) : CodelVars :=
  let delta : BitVec 32 := vars.count - vars.lastcount
  let vars := { vars with dropping := true }
  let vars :=
    if 1 < delta.toNat ∧ codelTimeBefore (env.now - vars.dropNext)
        (16 * env.params.interval) then
      { vars with count := delta }.newtonStep
    else { vars with count := 1, recInvSqrt := 0xffff#16 }
  { vars with lastcount := vars.count }.schedule env.now
    env.params.interval

/-- `codel_dequeue` enters the dropping state with this packet. -/
def enterDropping (env : CodelEnv α) (id : FqFlowId) (head : CodelHead α)
    (skb : FqSkb α) : Option (CodelHead α) :=
  (if env.ecnMarks skb then some (markEcn head)
    else (env.dropNext id head skb).map Prod.snd).map fun head =>
      { head with vars := env.enterVars head.vars }

/-- The end of `codel_dequeue`. -/
def markCe (env : CodelEnv α) (head : CodelHead α) : CodelHead α :=
  match head.skb with
  | none => head
  | some skb =>
      if codelTimeAfter head.vars.ldelay env.params.ceThreshold ∧
          env.setCe skb.frame then
        { head with
          marked := true
          stats := { head.stats with ceMark := head.stats.ceMark + 1 } }
      else head

/-- `codel_dequeue` on a flow, as `fq_tin_dequeue_func` calls it. -/
def codelDequeue (env : CodelEnv α) (fq : Fq α) (id : FqFlowId)
    (vars : CodelVars) (stats : CodelStats) : Option (CodelHead α) :=
  (fq.fqFlowDequeue id).bind fun dequeued =>
    match dequeued.1 with
    | none =>
        some ⟨dequeued.2, none, false, [], { vars with dropping := false },
          stats⟩
    | some skb =>
        let checked :=
          env.shouldDrop (some skb) (dequeued.2.flows id).backlog vars stats
        let head : CodelHead α :=
          ⟨dequeued.2, some skb, false, [], checked.2.1, checked.2.2⟩
        (if vars.dropping then
          if checked.1 then
            env.dropLoop id ((fq.flows id).queue.length + 1) head
          else
            some { head with vars := { head.vars with dropping := false } }
        else if checked.1 then env.enterDropping id head skb
        else some head).map env.markCe

end CodelEnv

end IwlwifiStack
