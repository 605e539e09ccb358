import IwlwifiStack.RxAllocatorBalance

/-!
# The accounting of the receive buffer allocator

A queue posts a request with every eighth RBD it hands over, counted from the
second, and takes eight RBDs back for one.  The initial pool covers the six
RBDs that a posted request may still miss, so the work finds an empty RBD
whenever it owes one.
-/

namespace IwlwifiStack

namespace IwlRxq

theorem backing_le (rxq : IwlRxq) :
    rxClaimReqAlloc * rxq.requests + rxq.backing ≤
      (rxClaimReqAlloc - rxPostReqAlloc) + rxq.usedCount +
        rxClaimReqAlloc * rxq.pc.posting := by
  have hunmoved : rxq.pc.unmoved rxq.usedCount ≤
      (rxq.usedCount + 6) % 8 + 8 * rxq.pc.posting := by
    cases hpc : rxq.pc <;>
      simp [RxPc.unmoved, RxPc.posting, rxClaimReqAlloc, rxPostReqAlloc]
  have hbacking : rxq.backing ≤ rxq.pc.unmoved rxq.usedCount := by
    unfold backing
    split
    · exact Nat.zero_le _
    · exact min_le_right _ _
  simp only [requests, rxClaimReqAlloc, rxPostReqAlloc]
  omega

end IwlRxq

namespace RxPath

def inventory (numRxqs : ℕ) (path : RxPath) : Multiset ℕ :=
  path.rba.inventory + path.work.inventory +
    SlotRing.total numRxqs IwlRxq.inventory path.rxq

def places (numRxqs : ℕ) (path : RxPath) (rxb : ℕ) : ℕ :=
  SlotRing.total numRxqs
      (fun rxq => rxq.queue.count rxb + rxq.rxFree.count rxb +
        rxq.rxUsed.count rxb) path.rxq +
    path.rba.rbdEmpty.count rxb + path.rba.rbdAllocated.count rxb +
    path.work.localEmpty.count rxb + path.work.localAllocated.count rxb

theorem count_inventory (numRxqs : ℕ) (path : RxPath) (rxb : ℕ) :
    (path.inventory numRxqs).count rxb = path.places numRxqs rxb := by
  have htotal :
      (SlotRing.total numRxqs IwlRxq.inventory path.rxq).count rxb =
        SlotRing.total numRxqs
          (fun rxq => rxq.queue.count rxb + rxq.rxFree.count rxb +
            rxq.rxUsed.count rxb) path.rxq := by
    unfold SlotRing.total
    rw [Multiset.count_sum']
    apply Finset.sum_congr rfl
    intro index _
    simp only [IwlRxq.inventory, Multiset.count_add, Multiset.coe_count]
  unfold inventory places
  simp only [Multiset.count_add, htotal, IwlRbAllocator.inventory,
    AllocatorWork.inventory, Multiset.coe_count]
  omega

/-- The accounting of the receive path; `held` is in the hands of a handler
between two steps. -/
structure Accounted (config : RxConfig) (held : Multiset ℕ)
    (path : RxPath) : Prop where
  rxq_good : ∀ index, (path.rxq index).Good
  work_good : path.work.Good path.rba
  inventory_eq :
    path.inventory config.numRxqs + held = Multiset.range config.numAlloc
  requests :
    path.rba.reqPending + path.rba.reqReady + path.work.pc.served +
        SlotRing.total config.numRxqs (fun rxq => rxq.pc.claiming) path.rxq +
        SlotRing.total config.numRxqs (fun rxq => rxq.pc.posting) path.rxq =
      SlotRing.total config.numRxqs IwlRxq.requests path.rxq
  allocated :
    path.rba.rbdAllocated.length =
      rxClaimReqAlloc *
        (path.rba.reqReady + path.work.pc.spliced +
          SlotRing.total config.numRxqs (fun rxq => rxq.pc.claiming)
            path.rxq)
  backing :
    config.allocatorPoolSize +
        SlotRing.total config.numRxqs IwlRxq.usedCount path.rxq ≤
      path.rba.inventory.card + path.work.inventory.card +
        SlotRing.total config.numRxqs IwlRxq.backing path.rxq

variable {config : RxConfig} {held : Multiset ℕ} {path : RxPath}

/-! ## The pool covers the pending requests -/

theorem Accounted.supplied (haccounted : Accounted config held path) :
    Supplied path.rba path.work := by
  have hqueues := @SlotRing.total_le_total _ config.numRxqs _ _
    IwlRxq.backing_le path.rxq
  simp only [SlotRing.total_add, SlotRing.total_mul, SlotRing.total_const]
    at hqueues
  have hrequests := haccounted.requests
  have hallocated := haccounted.allocated
  have hbacking := haccounted.backing
  simp only [RxConfig.allocatorPoolSize, IwlRbAllocator.inventory,
    AllocatorWork.inventory, Multiset.card_add, Multiset.coe_card,
    hallocated] at hbacking
  unfold Supplied
  simp only [rxClaimReqAlloc, rxPostReqAlloc, Nat.reduceSub] at *
  change 8 * SlotRing.total config.numRxqs IwlRxq.requests path.rxq +
      SlotRing.total config.numRxqs IwlRxq.backing path.rxq ≤
    config.numRxqs * 6 +
        SlotRing.total config.numRxqs IwlRxq.usedCount path.rxq +
      8 * SlotRing.total config.numRxqs (fun rxq => rxq.pc.posting)
        path.rxq at hqueues
  omega

/-! ## What a step keeps -/

theorem Accounted.afterQueue (haccounted : Accounted config held path)
    {index : ℕ} (hindex : index < config.numRxqs) {rxq' : IwlRxq}
    {rba' : IwlRbAllocator}
    (hbalanced : Balanced held (path.rxq index) path.rba rxq' rba') :
    Accounted config 0
      { path with
        rxq := Function.update path.rxq index rxq'
        rba := rba' } := by
  have hinventory :=
    SlotRing.total_update IwlRxq.inventory path.rxq rxq' hindex
  have hclaiming := SlotRing.total_update (fun rxq => rxq.pc.claiming)
    path.rxq rxq' hindex
  have hposting := SlotRing.total_update (fun rxq => rxq.pc.posting)
    path.rxq rxq' hindex
  have hrequests :=
    SlotRing.total_update IwlRxq.requests path.rxq rxq' hindex
  have hused := SlotRing.total_update IwlRxq.usedCount path.rxq rxq' hindex
  have hbacking :=
    SlotRing.total_update IwlRxq.backing path.rxq rxq' hindex
  constructor
  · intro other
    by_cases hother : other = index
    · subst other
      simpa only [Function.update_self] using hbalanced.good
    · simpa only [Function.update_of_ne hother] using
        haccounted.rxq_good other
  · exact haccounted.work_good.mono hbalanced.pending
  · rw [add_zero, ← haccounted.inventory_eq]
    unfold inventory
    apply add_right_cancel (b := (path.rxq index).inventory)
    calc
      rba'.inventory + path.work.inventory +
            SlotRing.total config.numRxqs IwlRxq.inventory
              (Function.update path.rxq index rxq') +
            (path.rxq index).inventory =
          rba'.inventory + path.work.inventory +
            (SlotRing.total config.numRxqs IwlRxq.inventory path.rxq +
              rxq'.inventory) := by
            rw [add_assoc, hinventory]
      _ = (rba'.inventory + rxq'.inventory) + path.work.inventory +
            SlotRing.total config.numRxqs IwlRxq.inventory path.rxq := by
            abel
      _ = _ := by
            rw [hbalanced.inventory]
            abel
  · have hlocal := hbalanced.requests
    have hglobal := haccounted.requests
    simp only
    omega
  · have hlocal := hbalanced.allocated
    have hglobal := haccounted.allocated
    simp only [rxClaimReqAlloc] at hlocal hglobal ⊢
    omega
  · have hlocal := hbalanced.backing
    have hglobal := haccounted.backing
    simp only [IwlRbAllocator.inventory, Multiset.card_add,
      Multiset.coe_card] at hglobal ⊢
    omega

theorem Accounted.afterWork (haccounted : Accounted config held path)
    {rba' : IwlRbAllocator} {work' : AllocatorWork}
    (hbalanced : WorkBalanced path.rba path.work rba' work') :
    Accounted config held { path with rba := rba', work := work' } := by
  have hcard := congrArg Multiset.card hbalanced.inventory
  simp only [Multiset.card_add] at hcard
  constructor
  · exact haccounted.rxq_good
  · exact hbalanced.good
  · rw [← haccounted.inventory_eq]
    unfold inventory
    rw [hbalanced.inventory]
  · have hlocal := hbalanced.requests
    have hglobal := haccounted.requests
    simp only
    omega
  · have hlocal := hbalanced.allocated
    have hglobal := haccounted.allocated
    simp only [rxClaimReqAlloc] at hlocal hglobal ⊢
    omega
  · have hglobal := haccounted.backing
    simp only
    omega

theorem Accounted.afterTake (haccounted : Accounted config 0 path)
    {input : RxInput} {rxqs : ℕ → IwlRxq}
    (htake : path.takeRxb config.numRxqs input = some rxqs) :
    Accounted config input.received { path with rxq := rxqs } := by
  cases input with
  | rxb from_ rxb join pageStolen =>
      simp only [takeRxb, Option.ite_none_right_eq_some,
        Option.some.injEq] at htake
      obtain ⟨⟨hfrom, hmem⟩, rfl⟩ := htake
      have hsame : ∀ {M : Type} (weight : IwlRxq → M),
          (∀ rxq queue, weight { rxq with queue := queue } = weight rxq) →
          ∀ index, weight (Function.update path.rxq from_
              { path.rxq from_ with
                queue := (path.rxq from_).queue.erase rxb } index) =
            weight (path.rxq index) := by
        intro M weight hweight index
        by_cases hindex : index = from_
        · subst index
          rw [Function.update_self, hweight]
        · rw [Function.update_of_ne hindex]
      have htotal : ∀ (weight : IwlRxq → ℕ),
          (∀ rxq queue, weight { rxq with queue := queue } = weight rxq) →
          SlotRing.total config.numRxqs weight
              (Function.update path.rxq from_
                { path.rxq from_ with
                  queue := (path.rxq from_).queue.erase rxb }) =
            SlotRing.total config.numRxqs weight path.rxq :=
        fun weight hweight =>
          SlotRing.total_congr fun index _ => hsame weight hweight index
      constructor
      · intro index
        have hgood := haccounted.rxq_good index
        constructor
        · rw [hsame IwlRxq.freeCount (fun _ _ => rfl),
            hsame IwlRxq.rxFree (fun _ _ => rfl)]
          exact hgood.freeCount_eq
        · rw [hsame IwlRxq.usedCount (fun _ _ => rfl),
            hsame IwlRxq.pc (fun _ _ => rfl)]
          exact hgood.claimed
      · exact haccounted.work_good
      · have hupdate := SlotRing.total_update IwlRxq.inventory path.rxq
          { path.rxq from_ with
            queue := (path.rxq from_).queue.erase rxb } hfrom
        have herase : (path.rxq from_).inventory =
            IwlRxq.inventory { path.rxq from_ with
              queue := (path.rxq from_).queue.erase rxb } + {rxb} := by
          simp only [IwlRxq.inventory, ← Multiset.coe_erase]
          nth_rewrite 1 [← Multiset.cons_erase
            (show rxb ∈ (↑(path.rxq from_).queue : Multiset ℕ) from hmem)]
          rw [← Multiset.singleton_add]
          abel
        rw [herase] at hupdate
        rw [← haccounted.inventory_eq]
        unfold inventory
        simp only [RxInput.received, add_zero]
        rw [← add_assoc, add_right_comm] at hupdate
        rw [add_assoc, add_right_cancel hupdate]
      · rw [htotal _ (fun _ _ => rfl), htotal _ (fun _ _ => rfl),
          htotal _ (fun _ _ => rfl)]
        exact haccounted.requests
      · rw [htotal _ (fun _ _ => rfl)]
        exact haccounted.allocated
      · rw [htotal _ (fun _ _ => rfl), htotal _ (fun _ _ => rfl)]
        exact haccounted.backing
  | _ =>
      simp only [takeRxb, Option.some.injEq] at htake
      subst rxqs
      exact haccounted

theorem Accounted.afterStep (haccounted : Accounted config 0 path)
    {event : RxPathEvent} {after : RxPath} {output : List Empty}
    (hstep : path.step config.numRxqs event = some (after, output)) :
    Accounted config 0 after := by
  cases event with
  | queue index input =>
      simp only [step, Option.ite_none_right_eq_some,
        Option.bind_eq_some_iff, Option.map_eq_some_iff,
        Prod.mk.injEq] at hstep
      obtain ⟨hindex, rxqs, htake, next, hnext, rfl, -⟩ := hstep
      have hheld := haccounted.afterTake htake
      have hclaiming := SlotRing.weight_le_total
        (fun rxq : IwlRxq => rxq.pc.claiming) rxqs hindex
      have hallocated :
          rxClaimReqAlloc * (rxqs index).pc.claiming ≤
            path.rba.rbdAllocated.length := by
        rw [hheld.allocated]
        apply Nat.mul_le_mul_left
        exact hclaiming.trans (Nat.le_add_left _ _)
      exact hheld.afterQueue hindex
        (rxHandle_balanced (hheld.rxq_good index) hallocated hnext)
  | work page =>
      simp only [step, Option.map_eq_some_iff, Prod.mk.injEq] at hstep
      obtain ⟨next, hnext, rfl, -⟩ := hstep
      exact haccounted.afterWork
        (rxAllocator_balanced haccounted.work_good haccounted.supplied
          hnext)

/-! ## The start -/

theorem initial_total {M : Type*} [AddCommMonoid M] (config : RxConfig)
    (weight : IwlRxq → M) (hempty : weight config.emptyRxq = 0) :
    SlotRing.total config.numRxqs weight config.iwlPcieRxInit.rxq =
      weight config.defRxq := by
  have hupdate := SlotRing.total_update weight (fun _ => config.emptyRxq)
    config.defRxq config.numRxqs_pos
  have hzero : SlotRing.total config.numRxqs weight
      (fun _ => config.emptyRxq) = 0 := by
    simp [SlotRing.total, hempty]
  rw [hempty, hzero, zero_add, add_zero] at hupdate
  exact hupdate

theorem initial_accounted (config : RxConfig) :
    Accounted config 0 config.iwlPcieRxInit := by
  constructor
  · intro index
    by_cases hindex : index = 0
    · subst index
      simp only [RxConfig.iwlPcieRxInit, Function.update_self]
      exact ⟨rfl, Nat.zero_le _⟩
    · simp only [RxConfig.iwlPcieRxInit, Function.update_of_ne hindex]
      exact ⟨rfl, Nat.zero_le _⟩
  · exact ⟨rfl, rfl⟩
  · unfold inventory
    rw [initial_total config IwlRxq.inventory rfl]
    simp only [RxConfig.iwlPcieRxInit, RxConfig.defRxq, RxConfig.emptyRxq,
      IwlRbAllocator.inventory, AllocatorWork.inventory, IwlRxq.inventory,
      Multiset.coe_nil, Multiset.coe_reverse, add_zero, zero_add,
      Multiset.coe_add, List.take_append_drop]
    rfl
  · have hrequests : config.emptyRxq.requests = 0 := by
      simp [IwlRxq.requests, RxConfig.emptyRxq, rxClaimReqAlloc,
        rxPostReqAlloc]
    rw [initial_total config _ rfl,
      initial_total config _ rfl,
      initial_total config _ hrequests]
    exact hrequests.symm
  · rw [initial_total config _ rfl]
    rfl
  · have hbacking : config.emptyRxq.backing = 0 := by
      simp [IwlRxq.backing, RxConfig.emptyRxq]
    rw [initial_total config _ rfl, initial_total config _ hbacking]
    simp only [RxConfig.iwlPcieRxInit, IwlRbAllocator.inventory,
      Multiset.card_add, Multiset.coe_card, List.length_reverse,
      List.length_take, List.length_range, RxConfig.numAlloc,
      Nat.min_eq_left (Nat.le_add_left _ _), List.length_nil]
    change config.allocatorPoolSize + 0 ≤ _
    omega

def Reaches (config : RxConfig) (path : RxPath) : Prop :=
  ConditionedRun.Reachable (RxPath.step config.numRxqs) (fun _ _ => True)
    config.iwlPcieRxInit path

theorem Reaches.accounted (hreach : Reaches config path) :
    Accounted config 0 path :=
  hreach.invariant (initial_accounted config)
    fun _ _ _ _ haccounted _ hstep => haccounted.afterStep hstep

/-- In every interleaving each RBD is in one place, the ready requests are on
`rbd_allocated`, `free_count` is exact, `used_count` counts RBDs that the
allocator holds or will get, and the work has an empty RBD whenever it owes
one. -/
theorem rxAllocator_accounting (hreach : Reaches config path) :
    (∀ rxb, path.places config.numRxqs rxb =
      if rxb < config.numAlloc then 1 else 0) ∧
    rxClaimReqAlloc * path.rba.reqReady ≤ path.rba.rbdAllocated.length ∧
    (∀ index, (path.rxq index).freeCount =
      (path.rxq index).rxFree.length) ∧
    config.allocatorPoolSize +
        SlotRing.total config.numRxqs IwlRxq.usedCount path.rxq ≤
      path.rba.rbdEmpty.length + path.rba.rbdAllocated.length +
        path.work.localEmpty.length + path.work.localAllocated.length +
        SlotRing.total config.numRxqs (fun rxq => rxq.rxUsed.length)
          path.rxq ∧
    (∀ pending, path.work.pc = .allocate pending →
      path.work.localAllocated.length < rxClaimReqAlloc →
      path.work.localEmpty ≠ []) ∧
    path.work.pc ≠ .bug := by
  have haccounted := hreach.accounted
  have hwork := haccounted.work_good
  refine ⟨?_, ?_, ?_, ?_, ?_, ?_⟩
  · intro rxb
    have hinventory := haccounted.inventory_eq
    rw [add_zero] at hinventory
    rw [← count_inventory, hinventory]
    by_cases hmem : rxb < config.numAlloc
    · rw [if_pos hmem]
      exact Multiset.count_eq_one_of_mem (Multiset.nodup_range _)
        (Multiset.mem_range.mpr hmem)
    · rw [if_neg hmem]
      exact Multiset.count_eq_zero_of_notMem
        (fun hin => hmem (Multiset.mem_range.mp hin))
  · rw [haccounted.allocated]
    apply Nat.mul_le_mul_left
    omega
  · exact fun index => (haccounted.rxq_good index).freeCount_eq
  · have hle : ∀ rxq : IwlRxq, rxq.backing ≤ rxq.rxUsed.length := by
      intro rxq
      unfold IwlRxq.backing
      split
      · exact Nat.zero_le _
      · exact min_le_left _ _
    have hbacking := @SlotRing.total_le_total _ config.numRxqs _ _ hle
      path.rxq
    have hcovered := haccounted.backing
    simp only [IwlRbAllocator.inventory, AllocatorWork.inventory,
      Multiset.card_add, Multiset.coe_card] at hcovered
    omega
  · intro pending hpc hmore hempty
    simp only [AllocatorWork.Good, hpc, hempty, List.length_nil] at hwork
    have := Nat.le_mul_of_pos_right rxClaimReqAlloc hwork.1
    omega
  · intro hpc
    simp only [AllocatorWork.Good, hpc] at hwork

/-! ## Two runs of one queue -/

section Samples

open ConditionedRun

def singleQueue : RxConfig where
  numRxqs := 1
  numRxBufs := 256
  mqRxSupported := false
  numRxqs_pos := by decide

/-- The default queue gets pages for `pages` RBDs and restocks them. -/
def fillRing (pages : ℕ) : List RxPathEvent :=
  List.replicate pages (.queue 0 (.page true)) ++
    [.queue 0 (.page false), .queue 0 (.space 256), .queue 0 .poll]

/-- The handler passes the page of `rxb` on, up to the second step after
`iwl_pcie_get_rxb`. -/
def stealPage (rxb : ℕ) : List RxPathEvent :=
  [.queue 0 .more, .queue 0 .next, .queue 0 (.rxb 0 rxb false true),
    .queue 0 .next, .queue 0 .next]

def postRun : List RxPathEvent :=
  fillRing 8 ++ stealPage 261 ++ stealPage 260 ++
    [.queue 0 .next, .queue 0 .next]

/-- The work serves the request while six more pages are stolen, and the
eighth RBD claims it. -/
def claimRun : List RxPathEvent :=
  postRun ++ List.replicate 15 (.work true) ++
    stealPage 259 ++ stealPage 258 ++ stealPage 257 ++ stealPage 256 ++
    stealPage 255 ++ stealPage 254

theorem rxAllocator_accounting_claimed :
    ∃ path, Reaches singleQueue path ∧
      (path.rxq 0).pc = .settle 0 ∧ (path.rxq 0).usedCount = 0 ∧
      (path.rxq 0).rxFree.length = 8 ∧
      (∀ rxb, path.places 1 rxb = if rxb < 262 then 1 else 0) ∧
      path.work.pc ≠ .bug := by
  have hrun : (run (RxPath.step 1) singleQueue.iwlPcieRxInit claimRun).map
      (fun last => ((last.1.rxq 0).pc, (last.1.rxq 0).usedCount,
        (last.1.rxq 0).rxFree.length)) = some (.settle 0, 0, 8) := by
    decide +kernel
  obtain ⟨⟨path, output⟩, hlast, hfields⟩ := Option.map_eq_some_iff.mp hrun
  simp only [Prod.mk.injEq] at hfields
  have hreach : Reaches singleQueue path := reachable_of_run .start hlast
  have haccounting := rxAllocator_accounting hreach
  exact ⟨path, hreach, hfields.1, hfields.2.1, hfields.2.2,
    haccounting.1, haccounting.2.2.2.2.2⟩

/-- After the second stolen page `used_count` is two and `rx_used` empty. -/
theorem usedCount_ne_length :
    ∃ path, Reaches singleQueue path ∧
      (path.rxq 0).usedCount = 2 ∧ (path.rxq 0).rxUsed.length = 0 := by
  have hrun : (run (RxPath.step 1) singleQueue.iwlPcieRxInit postRun).map
      (fun last => ((last.1.rxq 0).usedCount,
        (last.1.rxq 0).rxUsed.length)) = some (2, 0) := by
    decide +kernel
  obtain ⟨⟨path, output⟩, hlast, hfields⟩ := Option.map_eq_some_iff.mp hrun
  simp only [Prod.mk.injEq] at hfields
  exact ⟨path, reachable_of_run .start hlast, hfields.1, hfields.2⟩

end Samples

end RxPath

end IwlwifiStack
