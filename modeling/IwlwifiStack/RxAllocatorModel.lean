import IwlwifiStack.ConditionedRun
import IwlwifiStack.SlotRing

/-!
# The receive buffer allocator

The receive queues of the PCIe transport (`pcie/gen1_2/rx.c`), their handlers
and the background work that attaches pages to empty buffer descriptors.  A
receive buffer descriptor (RBD) is the number of its entry in `rx_pool`.

One step is what a handler or the work does between two points where another
party can observe or change the shared state: an access of one of the two
atomic counters, or a section under `rba->lock`.  A queue's own lists are only
touched by its handler, and the program counters say where each one stands.
-/

namespace IwlwifiStack

/-- `RX_POST_REQ_ALLOC` -/
def rxPostReqAlloc : ℕ := 2

/-- `RX_CLAIM_REQ_ALLOC` -/
def rxClaimReqAlloc : ℕ := 8

/-- Where the handler of a queue stands in `iwl_pcie_rx_handle`; the argument
is its `rb_pending_alloc`. -/
inductive RxPc
  | idle
  | head
  | checkEmergency (rbPendingAlloc : ℕ)
  | getRxb (rbPendingAlloc : ℕ)
  | moveToAllocator (rbPendingAlloc : ℕ)
  | postRequest (rbPendingAlloc : ℕ)
  | claim (rbPendingAlloc : ℕ)
  | allocatorGet (rbPendingAlloc : ℕ)
  | settle (rbPendingAlloc : ℕ)
  | allocRbs (restart : Bool)
  | restock (restart : Bool)
  deriving DecidableEq, Repr

/-- `struct iwl_rxq` with the local variables of its handler.  `queue` holds
the RBDs that are restocked and not yet returned by the device. -/
structure IwlRxq where
  queue : List ℕ
  rxFree : List ℕ
  rxUsed : List ℕ
  freeCount : ℕ
  usedCount : ℕ
  queueSize : ℕ
  nextRbIsFragment : Bool
  emergency : Bool
  count : ℕ
  pc : RxPc
  deriving DecidableEq, Repr

/-- `struct iwl_rb_allocator`; `rxAlloc` says that the work is queued. -/
structure IwlRbAllocator where
  reqPending : ℕ
  reqReady : ℕ
  rbdAllocated : List ℕ
  rbdEmpty : List ℕ
  rxAlloc : Bool
  deriving DecidableEq, Repr

/-- Where the work stands in `iwl_pcie_rx_allocator`; the argument is its
`pending`. -/
inductive AllocatorPc
  | idle
  | swapEmpty (pending : ℕ)
  | allocate (pending : ℕ)
  | rereadPending
  | splice (pending : ℕ)
  | makeReady (pending : ℕ)
  | returnUnused
  | bug
  deriving DecidableEq, Repr

/-- The local lists of the allocator work. -/
structure AllocatorWork where
  localEmpty : List ℕ
  localAllocated : List ℕ
  pc : AllocatorPc
  deriving DecidableEq, Repr

/-! ## The handler of one queue -/

/-- `list_splice_tail_init(&rxq->rx_used, &rba->rbd_empty)` -/
def iwlPcieRxMoveToAllocator (rxq : IwlRxq) (rba : IwlRbAllocator) :
    IwlRxq × IwlRbAllocator :=
  ({ rxq with rxUsed := [] },
    { rba with rbdEmpty := rba.rbdEmpty ++ rxq.rxUsed })

namespace IwlRxq

/-- Add an RBD that still has its page to `rx_free`. -/
def addFree (rxq : IwlRxq) (rxb : ℕ) : IwlRxq :=
  { rxq with
    rxFree := rxq.rxFree ++ [rxb]
    freeCount := rxq.freeCount + 1 }

/-- `iwl_pcie_rx_reuse_rbd` up to the batch it may have to post. -/
def iwlPcieRxReuseRbd (rxq : IwlRxq) (rxb rbPendingAlloc : ℕ) : IwlRxq :=
  if rxq.emergency then
    { rxq with
      rxUsed := rxq.rxUsed ++ [rxb]
      pc := .claim rbPendingAlloc }
  else
    { rxq with
      rxUsed := rxq.rxUsed ++ [rxb]
      usedCount := rxq.usedCount + 1
      pc :=
        if (rxq.usedCount + 1) % rxClaimReqAlloc = rxPostReqAlloc then
          .moveToAllocator rbPendingAlloc
        else
          .claim rbPendingAlloc }

/-- The RBD returned by `iwl_pcie_get_rxb` is put back when it is part of a
multi-RB; else `iwl_pcie_rx_handle_rb` reuses its page or the RBD alone. -/
def handleRxb (rxq : IwlRxq) (rxb rbPendingAlloc : ℕ)
    (join pageStolen : Bool) : IwlRxq :=
  if join || rxq.nextRbIsFragment then
    { rxq.addFree rxb with
      nextRbIsFragment := join
      pc := .claim rbPendingAlloc }
  else if pageStolen then
    rxq.iwlPcieRxReuseRbd rxb rbPendingAlloc
  else
    { rxq.addFree rxb with pc := .claim rbPendingAlloc }

/-- The end of `iwl_pcie_rx_handle`, label `out`. -/
def out (rxq : IwlRxq) : IwlRxq :=
  if rxq.emergency && rxq.count ≠ 0 then
    { rxq with pc := .allocRbs false }
  else
    { rxq with pc := .restock false }

/-- One round of `iwl_pcie_rxq_alloc_rbs`. -/
def iwlPcieRxqAllocRbs (rxq : IwlRxq) (restart page : Bool) : IwlRxq :=
  match rxq.rxUsed with
  | [] => { rxq with pc := .restock restart }
  | rxb :: rest =>
      if page then
        { rxq.addFree rxb with rxUsed := rest }
      else
        { rxq with pc := .restock restart }

/-- `iwl_pcie_rxq_restock` with room for `space` RBDs: none while the device
is disabled, all of `free_count` on a multi-queue device. -/
def iwlPcieRxqRestock (rxq : IwlRxq) (restart : Bool) (space : ℕ) :
    IwlRxq :=
  let restocked := min space rxq.freeCount
  { rxq with
    queue := rxq.queue ++ rxq.rxFree.take restocked
    rxFree := rxq.rxFree.drop restocked
    freeCount := rxq.freeCount - restocked
    pc := if restart then .head else .idle }

end IwlRxq

/-- The claimed part of `iwl_pcie_rx_allocator_get`: eight times `list_move`
from the head of `rbd_allocated` to the head of `rx_free`. -/
def iwlPcieRxAllocatorGet (rxq : IwlRxq) (rba : IwlRbAllocator) :
    IwlRxq × IwlRbAllocator :=
  ({ rxq with
      rxFree :=
        (rba.rbdAllocated.take rxClaimReqAlloc).reverse ++ rxq.rxFree
      usedCount := rxq.usedCount - rxClaimReqAlloc
      freeCount := rxq.freeCount + rxClaimReqAlloc },
    { rba with rbdAllocated := rba.rbdAllocated.drop rxClaimReqAlloc })

/-- What decides the next step of a handler: a poll of NAPI, the loop test,
the descriptor of the device, the result of a page allocation, the room in
the ring. -/
inductive RxInput
  | poll
  | more
  | noMore
  | next
  | invalidRxb
  | rxb (from_ rxb : ℕ) (join pageStolen : Bool)
  | page (allocated : Bool)
  | space (room : ℕ)
  deriving DecidableEq, Repr

/-- One step of `iwl_pcie_rx_handle`. -/
def iwlPcieRxHandle (rxq : IwlRxq) (rba : IwlRbAllocator) :
    RxInput → Option (IwlRxq × IwlRbAllocator)
  | .poll =>
      if rxq.pc = .idle then
        some ({ rxq with emergency := false, count := 0, pc := .head }, rba)
      else none
  | .more =>
      if rxq.pc = .head then
        some
          ({ rxq with
              pc := .checkEmergency (rba.reqPending * rxClaimReqAlloc) },
            rba)
      else none
  | .noMore =>
      if rxq.pc = .head then some (rxq.out, rba) else none
  | .next =>
      match rxq.pc with
      | .checkEmergency rbPendingAlloc =>
          if rbPendingAlloc ≥ rxq.queueSize / 2 ∧ ¬rxq.emergency then
            let (rxq, rba) := iwlPcieRxMoveToAllocator rxq rba
            some
              ({ rxq with
                  emergency := true
                  pc := .getRxb rbPendingAlloc }, rba)
          else
            some ({ rxq with pc := .getRxb rbPendingAlloc }, rba)
      | .moveToAllocator rbPendingAlloc =>
          let (rxq, rba) := iwlPcieRxMoveToAllocator rxq rba
          some ({ rxq with pc := .postRequest rbPendingAlloc }, rba)
      | .postRequest rbPendingAlloc =>
          some
            ({ rxq with pc := .claim rbPendingAlloc },
              { rba with
                reqPending := rba.reqPending + 1
                rxAlloc := true })
      | .claim rbPendingAlloc =>
          if rxq.usedCount ≥ rxClaimReqAlloc ∧ 0 < rba.reqReady then
            some
              ({ rxq with pc := .allocatorGet rbPendingAlloc },
                { rba with reqReady := rba.reqReady - 1 })
          else
            some ({ rxq with pc := .settle rbPendingAlloc }, rba)
      | .allocatorGet rbPendingAlloc =>
          let (rxq, rba) := iwlPcieRxAllocatorGet rxq rba
          some ({ rxq with pc := .settle rbPendingAlloc }, rba)
      | .settle rbPendingAlloc =>
          if rxq.usedCount % rxClaimReqAlloc = 0 ∧ ¬rxq.emergency then
            let (rxq, rba) := iwlPcieRxMoveToAllocator rxq rba
            some ({ rxq with pc := .head }, rba)
          else if rxq.emergency then
            if rxq.count + 1 = 8 then
              some
                ({ rxq with
                    count := 0
                    emergency :=
                      decide (¬rbPendingAlloc < rxq.queueSize / 3)
                    pc := .allocRbs true }, rba)
            else
              some ({ rxq with count := rxq.count + 1, pc := .head }, rba)
          else
            some ({ rxq with pc := .head }, rba)
      | _ => none
  | .invalidRxb =>
      match rxq.pc with
      | .getRxb _ => some (rxq.out, rba)
      | _ => none
  | .rxb _ rxb join pageStolen =>
      match rxq.pc with
      | .getRxb rbPendingAlloc =>
          some (rxq.handleRxb rxb rbPendingAlloc join pageStolen, rba)
      | _ => none
  | .page allocated =>
      match rxq.pc with
      | .allocRbs restart =>
          some (rxq.iwlPcieRxqAllocRbs restart allocated, rba)
      | _ => none
  | .space room =>
      match rxq.pc with
      | .restock restart =>
          some (rxq.iwlPcieRxqRestock restart room, rba)
      | _ => none

/-! ## The background work -/

/-- One step of `iwl_pcie_rx_allocator`; `page` says whether a page is
allocated and mapped in this round of the inner loop. -/
def iwlPcieRxAllocator (rba : IwlRbAllocator) (work : AllocatorWork)
    (page : Bool) : Option (IwlRbAllocator × AllocatorWork) :=
  match work.pc with
  | .idle =>
      if rba.rxAlloc then
        some ({ rba with rxAlloc := false },
          { work with pc := .swapEmpty rba.reqPending })
      else none
  | .swapEmpty pending =>
      some ({ rba with rbdEmpty := [] },
        { work with
          localEmpty := rba.rbdEmpty
          pc := if pending = 0 then .returnUnused else .allocate pending })
  | .allocate pending =>
      if work.localAllocated.length < rxClaimReqAlloc then
        match work.localEmpty with
        -- BUG_ON(list_empty(&local_empty))
        | [] => some (rba, { work with pc := .bug })
        | rxb :: rest =>
            if page then
              some (rba,
                { work with
                  localEmpty := rest
                  localAllocated := rxb :: work.localAllocated })
            else some (rba, work)
      else
        some ({ rba with reqPending := rba.reqPending - 1 },
          { work with
            pc :=
              if pending - 1 = 0 then .rereadPending
              else .splice (pending - 1) })
  | .rereadPending =>
      some (rba, { work with pc := .splice rba.reqPending })
  | .splice pending =>
      some
        ({ rba with
            rbdAllocated := rba.rbdAllocated ++ work.localAllocated
            rbdEmpty := [] },
          { localEmpty := work.localEmpty ++ rba.rbdEmpty
            localAllocated := []
            pc := .makeReady pending })
  | .makeReady pending =>
      some ({ rba with reqReady := rba.reqReady + 1 },
        { work with
          pc := if pending = 0 then .returnUnused else .allocate pending })
  | .returnUnused =>
      some ({ rba with rbdEmpty := rba.rbdEmpty ++ work.localEmpty },
        { work with localEmpty := [], pc := .idle })
  | .bug => none

/-! ## The transport -/

/-- The receive path of `struct iwl_trans_pcie`. -/
structure RxPath where
  rxq : ℕ → IwlRxq
  rba : IwlRbAllocator
  work : AllocatorWork

/-- The configuration of the device that `_iwl_pcie_rx_init` reads; there is
always a default queue. -/
structure RxConfig where
  numRxqs : ℕ
  numRxBufs : ℕ
  mqRxSupported : Bool
  numRxqs_pos : 0 < numRxqs

namespace RxConfig

def rxQueueSize : ℕ := 256

/-- `queue_size` of every queue, set by `iwl_pcie_alloc_rxq_dma`. -/
def queueSize (config : RxConfig) : ℕ :=
  if config.mqRxSupported then config.numRxBufs else rxQueueSize

def allocatorPoolSize (config : RxConfig) : ℕ :=
  config.numRxqs * (rxClaimReqAlloc - rxPostReqAlloc)

def numAlloc (config : RxConfig) : ℕ :=
  (if config.mqRxSupported then config.numRxBufs - 1 else rxQueueSize) +
    config.allocatorPoolSize

/-- A queue after `iwl_pcie_rx_init_rxb_lists`. -/
def emptyRxq (config : RxConfig) : IwlRxq where
  queue := []
  rxFree := []
  rxUsed := []
  freeCount := 0
  usedCount := 0
  queueSize := config.queueSize
  nextRbIsFragment := false
  emergency := false
  count := 0
  pc := .idle

/-- The default queue of `_iwl_pcie_rx_init`, about to run
`iwl_pcie_rxq_alloc_rbs`. -/
def defRxq (config : RxConfig) : IwlRxq :=
  { config.emptyRxq with
    rxUsed :=
      ((List.range config.numAlloc).drop config.allocatorPoolSize).reverse
    pc := .allocRbs false }

/-- `_iwl_pcie_rx_init` -/
def iwlPcieRxInit (config : RxConfig) : RxPath where
  rxq := Function.update (fun _ => config.emptyRxq) 0 config.defRxq
  rba :=
    { reqPending := 0
      reqReady := 0
      rbdAllocated := []
      rbdEmpty :=
        ((List.range config.numAlloc).take config.allocatorPoolSize).reverse
      rxAlloc := false }
  work := { localEmpty := [], localAllocated := [], pc := .idle }

end RxConfig

inductive RxPathEvent
  | queue (index : ℕ) (input : RxInput)
  | work (page : Bool)
  deriving DecidableEq, Repr

namespace RxPath

/-- `iwl_pcie_get_rxb` hands out an RBD that some queue of the device holds
and takes it off that queue. -/
def takeRxb (numRxqs : ℕ) (path : RxPath) : RxInput → Option (ℕ → IwlRxq)
  | .rxb from_ rxb _ _ =>
      if from_ < numRxqs ∧ rxb ∈ (path.rxq from_).queue then
        some (Function.update path.rxq from_
          { path.rxq from_ with
            queue := (path.rxq from_).queue.erase rxb })
      else none
  | _ => some path.rxq

/-- One step of one of the handlers or of the work; it has no output. -/
def step (numRxqs : ℕ) (path : RxPath) :
    RxPathEvent → Option (RxPath × List Empty)
  | .queue index input =>
      if index < numRxqs then
        (path.takeRxb numRxqs input).bind fun rxqs =>
          (iwlPcieRxHandle (rxqs index) path.rba input).map fun next =>
            ({ path with
                rxq := Function.update rxqs index next.1
                rba := next.2 }, [])
      else none
  | .work page =>
      (iwlPcieRxAllocator path.rba path.work page).map fun next =>
        ({ path with rba := next.1, work := next.2 }, [])

end RxPath

end IwlwifiStack
