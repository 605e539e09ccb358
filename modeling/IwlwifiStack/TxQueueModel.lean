import IwlwifiStack.ConditionedRun
import IwlwifiStack.TxqPointers

/-!
# A transmit queue with its overflow queue

`iwl_trans_pcie_tx`, `iwl_txq_gen2_tx` and `iwl_pcie_reclaim`
(`pcie/gen1_2/tx.c`, `tx-gen2.c`).  A call that transmits holds `txq->lock`
from its first to its last access, so it is one step.  A reclaim takes the
lock twice and runs without it in between; its steps are the snapshot of the
pointers, one freed entry, the update of `read_ptr`, one frame of the overflow
queue, and the two parts of waking the queue.  The reclaims of a queue
exclude each other by `reclaim_lock`.
-/

namespace IwlwifiStack

structure TxQueueConfig where
  size : TxqSize
  gen2 : Bool
  /-- The gen1 ring has an entry for each of its positions. -/
  gen1_size : gen2 = false → size.windowBits = size.ringBits

namespace TxQueueConfig

/-- `low_mark` as `iwl_queue_init` sets it. -/
def lowMark (config : TxQueueConfig) : ℕ :=
  if config.size.nWindow / 4 < 4 then 4 else config.size.nWindow / 4

/-- `high_mark` as `iwl_queue_init` sets it. -/
def highMark (config : TxQueueConfig) : ℕ :=
  if config.size.nWindow / 8 < 2 then 2 else config.size.nWindow / 8

end TxQueueConfig

/-- How a transmission ends that gets past the overflow queue: an early
`-EIO`, `-EINVAL` or `-ENOMEM`, a TFD that cannot be built, or success. -/
inductive TxEnv
  | refuses
  | buildFails
  | builds
  deriving DecidableEq, Repr

/-- What became of a frame: on the overflow queue, on the ring, or still with
the caller. -/
inductive TxOutcome
  | overflow
  | placed
  | failed
  deriving DecidableEq, Repr

/-- Where the reclaim of a queue stands; `skbs` is the list of its caller. -/
inductive ReclaimPc (Skb : Type*)
  | idle
  | freeing (txqReadPtr tfdNum : ℕ) (isFlush : Bool) (skbs : List Skb)
  | draining (overflowSkbs : List Skb)
  | waking
  | ending
  deriving DecidableEq, Repr

/-- `struct iwl_txq` -/
structure TxQueue (Skb : Type*) where
  writePtr : ℕ
  readPtr : ℕ
  entries : ℕ → Option Skb
  overflowQ : List Skb
  overflowTx : Bool
  queueStopped : Bool
  pc : ReclaimPc Skb

variable {Skb : Type*}

namespace TxQueue

/-- An empty queue whose pointers `iwl_pcie_set_q_ptrs` has set. -/
def init (config : TxQueueConfig) (start : ℕ) : TxQueue Skb where
  writePtr := start % config.size.maxTfdQueueSize
  readPtr := start % config.size.maxTfdQueueSize
  entries := fun _ => none
  overflowQ := []
  overflowTx := false
  queueStopped := false
  pc := .idle

def space (config : TxQueueConfig) (txq : TxQueue Skb) : ℕ :=
  iwlTxqSpace config.size txq.writePtr txq.readPtr

/-- The entry of the next frame. -/
def writeEntry (config : TxQueueConfig) (txq : TxQueue Skb) : ℕ :=
  if config.gen2 then iwlTxqGetCmdIndex config.size txq.writePtr
  else txq.writePtr

/-- There is no room on the ring for a frame. -/
def overflows (config : TxQueueConfig) (txq : TxQueue Skb) : Bool :=
  txq.space config < config.highMark && txq.space config < 3

/-- `iwl_trans_tx` with `iwl_trans_pcie_tx` or `iwl_txq_gen2_tx`. -/
def iwlTransTx (config : TxQueueConfig) (txq : TxQueue Skb) (skb : Skb)
    (env : TxEnv) : TxQueue Skb × TxOutcome :=
  if env = .refuses then (txq, .failed)
  else
    let stopped :=
      { txq with
        queueStopped :=
          txq.queueStopped || txq.space config < config.highMark }
    if txq.overflows config then
      ({ stopped with overflowQ := txq.overflowQ ++ [skb] }, .overflow)
    else
      let filled :=
        { stopped with
          entries :=
            Function.update txq.entries (txq.writeEntry config) (some skb) }
      if env = .buildFails then (filled, .failed)
      else
        ({ filled with writePtr := iwlTxqIncWrap config.size txq.writePtr },
          .placed)

/-- `iwl_pcie_reclaim` up to its loop. -/
def iwlPcieReclaim (config : TxQueueConfig) (txq : TxQueue Skb) (ssn : ℕ)
    (isFlush : Bool) : TxQueue Skb :=
  let tfdNum := iwlTxqGetCmdIndex config.size ssn
  if isFlush && txq.writePtr = txq.readPtr then txq
  else if iwlTxqGetCmdIndex config.size txq.readPtr = tfdNum then txq
  else if !iwlTxqUsed config.size (iwlTxqDecWrap config.size tfdNum)
      txq.readPtr txq.writePtr then txq
  else { txq with pc := .freeing txq.readPtr tfdNum isFlush [] }

/-- There is room again for the frames of a stopped queue. -/
def resumes (config : TxQueueConfig) (txq : TxQueue Skb) : Bool :=
  txq.space config > config.lowMark && txq.queueStopped

/-- The end of the loop of `iwl_pcie_reclaim`: the queue gets its new
`read_ptr`, and its overflow queue is taken over when there is room.  The
output is the list that is returned to the caller; `skb_queue_splice_init`
puts the frames of the overflow queue in front. -/
def updateReadPtr (config : TxQueueConfig) (txq : TxQueue Skb)
    (txqReadPtr : ℕ) (isFlush : Bool) (skbs : List Skb) :
    TxQueue Skb × List Skb :=
  let txq := { txq with readPtr := txqReadPtr }
  if txq.resumes config then
    ({ txq with
        overflowQ := []
        overflowTx := true
        pc := .draining (if isFlush then [] else txq.overflowQ) },
      if isFlush then txq.overflowQ ++ skbs else skbs)
  else ({ txq with pc := .idle }, skbs)

end TxQueue

/-- A queue with the frames that were submitted, placed on the ring and
returned for reclaim, each list in the order in which it happened. -/
structure TxQueueRun (Skb : Type*) where
  txq : TxQueue Skb
  submitted : List Skb
  placed : List Skb
  returned : List Skb

/-- A call that transmits, the start of a reclaim, or the next step of the
reclaim that is going on. -/
inductive TxQueueEvent (Skb : Type*)
  | tx (skb : Skb) (env : TxEnv)
  | reclaim (ssn : ℕ) (isFlush : Bool)
  | advance (env : TxEnv)

namespace TxQueueRun

def init (config : TxQueueConfig) (start : ℕ) : TxQueueRun Skb where
  txq := TxQueue.init config start
  submitted := []
  placed := []
  returned := []

/-- The ring history after a transmission. -/
def placedAfter (placed : List Skb) (skb : Skb) : TxOutcome → List Skb
  | .placed => placed ++ [skb]
  | .overflow | .failed => placed

/-- A frame counts as submitted unless the call leaves it to its caller. -/
def submittedAfter (submitted : List Skb) (skb : Skb) :
    TxOutcome → List Skb
  | .placed | .overflow => submitted ++ [skb]
  | .failed => submitted

/-- The next step of `iwl_pcie_reclaim`. -/
def advance (config : TxQueueConfig) (run : TxQueueRun Skb) (env : TxEnv) :
    Option (TxQueueRun Skb) :=
  match run.txq.pc with
  | .idle => none
  | .freeing txqReadPtr tfdNum isFlush skbs =>
      let readPtr := iwlTxqGetCmdIndex config.size txqReadPtr
      let next := iwlTxqIncWrap config.size txqReadPtr
      if readPtr = tfdNum then
        let updated := run.txq.updateReadPtr config txqReadPtr isFlush skbs
        some
          { run with
            txq := updated.1
            returned := run.returned ++ updated.2 }
      else
        match run.txq.entries readPtr with
        | none =>
            some
              { run with
                txq :=
                  { run.txq with pc := .freeing next tfdNum isFlush skbs } }
        | some skb =>
            some
              { run with
                txq :=
                  { run.txq with
                    entries := Function.update run.txq.entries readPtr none
                    pc := .freeing next tfdNum isFlush (skbs ++ [skb]) } }
  | .draining (skb :: rest) =>
      let sent := run.txq.iwlTransTx config skb env
      some
        { run with
          txq := { sent.1 with pc := .draining rest }
          placed := placedAfter run.placed skb sent.2 }
  | .draining [] =>
      some
        { run with
          txq :=
            { run.txq with
              pc :=
                if run.txq.space config > config.lowMark then .waking
                else .ending } }
  | .waking =>
      some
        { run with
          txq := { run.txq with queueStopped := false, pc := .ending } }
  | .ending =>
      some
        { run with txq := { run.txq with overflowTx := false, pc := .idle } }

def step (config : TxQueueConfig) (run : TxQueueRun Skb) :
    TxQueueEvent Skb → Option (TxQueueRun Skb × List Skb)
  | .tx skb env =>
      let sent := run.txq.iwlTransTx config skb env
      some
        ({ run with
            txq := sent.1
            submitted := submittedAfter run.submitted skb sent.2
            placed := placedAfter run.placed skb sent.2 }, [])
  | .reclaim ssn isFlush =>
      match run.txq.pc with
      | .idle =>
          some ({ run with txq := run.txq.iwlPcieReclaim config ssn isFlush },
            [])
      | _ => none
  | .advance env => (run.advance config env).map fun after => (after, [])

end TxQueueRun

end IwlwifiStack
