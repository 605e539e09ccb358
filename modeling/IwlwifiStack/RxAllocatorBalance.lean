import IwlwifiStack.RxAllocatorModel
import Mathlib.Tactic

/-!
# The balance of one step of the receive path

A step of a handler moves RBDs between its queue and the allocator, a step of
the work between the allocator and its local lists.  Each keeps an account of
the requests, of the allocated RBDs and of the empty RBDs that back them.
-/

namespace IwlwifiStack

/-! ## What a queue contributes -/

namespace RxPc

def claiming : RxPc → ℕ
  | .allocatorGet _ => 1
  | _ => 0

/-- One while the handler has counted the RBDs of a request it has still to
post. -/
def posting : RxPc → ℕ
  | .moveToAllocator _ => 1
  | .postRequest _ => 1
  | _ => 0

/-- How many RBDs a queue may have counted since it last moved `rx_used`. -/
def unmoved (usedCount : ℕ) : RxPc → ℕ
  | .allocRbs _ => 0
  | .moveToAllocator _ => rxClaimReqAlloc
  | _ => (usedCount + (rxClaimReqAlloc - rxPostReqAlloc)) % rxClaimReqAlloc

end RxPc

namespace IwlRxq

/-- The requests that belong to `used_count`. -/
def requests (rxq : IwlRxq) : ℕ :=
  (rxq.usedCount + (rxClaimReqAlloc - rxPostReqAlloc)) / rxClaimReqAlloc

/-- The RBDs of `rx_used` that are counted and will reach the allocator. -/
def backing (rxq : IwlRxq) : ℕ :=
  if rxq.emergency then 0
  else min rxq.rxUsed.length (rxq.pc.unmoved rxq.usedCount)

def inventory (rxq : IwlRxq) : Multiset ℕ :=
  ↑rxq.queue + ↑rxq.rxFree + ↑rxq.rxUsed

structure Good (rxq : IwlRxq) : Prop where
  freeCount_eq : rxq.freeCount = rxq.rxFree.length
  claimed : rxClaimReqAlloc * rxq.pc.claiming ≤ rxq.usedCount

end IwlRxq

namespace IwlRbAllocator

def inventory (rba : IwlRbAllocator) : Multiset ℕ :=
  ↑rba.rbdEmpty + ↑rba.rbdAllocated

end IwlRbAllocator

/-- How one step of a handler moves RBDs and requests between its queue and
the allocator; `received` comes from the device. -/
structure Balanced (received : Multiset ℕ) (rxq : IwlRxq)
    (rba : IwlRbAllocator) (rxq' : IwlRxq) (rba' : IwlRbAllocator) :
    Prop where
  good : rxq'.Good
  inventory :
    rba'.inventory + rxq'.inventory =
      rba.inventory + rxq.inventory + received
  requests :
    rba'.reqPending + rba'.reqReady + rxq'.pc.claiming +
        rxq'.pc.posting + rxq.requests =
      rba.reqPending + rba.reqReady + rxq.pc.claiming +
        rxq.pc.posting + rxq'.requests
  allocated :
    rba'.rbdAllocated.length +
        rxClaimReqAlloc * (rba.reqReady + rxq.pc.claiming) =
      rba.rbdAllocated.length +
        rxClaimReqAlloc * (rba'.reqReady + rxq'.pc.claiming)
  backing :
    rba.rbdEmpty.length + rba.rbdAllocated.length + rxq.backing +
        rxq'.usedCount ≤
      rba'.rbdEmpty.length + rba'.rbdAllocated.length + rxq'.backing +
        rxq.usedCount
  pending : rba.reqPending ≤ rba'.reqPending

def RxInput.received : RxInput → Multiset ℕ
  | .rxb _ returned _ _ => {returned}
  | _ => 0

/-! ## The steps of a handler -/

section Handler

variable {rxq rxq' : IwlRxq} {rba : IwlRbAllocator}

theorem balanced_of_same (hgood : rxq.Good)
    (hqueue : rxq'.queue = rxq.queue) (hfree : rxq'.rxFree = rxq.rxFree)
    (hused : rxq'.rxUsed = rxq.rxUsed)
    (hfreeCount : rxq'.freeCount = rxq.freeCount)
    (husedCount : rxq'.usedCount = rxq.usedCount)
    (hclaiming : rxq'.pc.claiming = rxq.pc.claiming)
    (hposting : rxq'.pc.posting = rxq.pc.posting)
    (hbacking : rxq.backing ≤ rxq'.backing) :
    Balanced 0 rxq rba rxq' rba := by
  constructor
  · constructor
    · rw [hfreeCount, hfree, hgood.freeCount_eq]
    · rw [hclaiming, husedCount]
      exact hgood.claimed
  · rw [IwlRxq.inventory, hqueue, hfree, hused, ← IwlRxq.inventory, add_zero]
  · rw [hclaiming, hposting, IwlRxq.requests, IwlRxq.requests, husedCount]
  · rw [hclaiming]
  · omega
  · exact le_refl _

theorem balanced_of_move (hgood : rxq.Good)
    (hqueue : rxq'.queue = rxq.queue) (hfree : rxq'.rxFree = rxq.rxFree)
    (hused : rxq'.rxUsed = [])
    (hfreeCount : rxq'.freeCount = rxq.freeCount)
    (husedCount : rxq'.usedCount = rxq.usedCount)
    (hclaiming : rxq'.pc.claiming = rxq.pc.claiming)
    (hposting : rxq'.pc.posting = rxq.pc.posting) :
    Balanced 0 rxq rba rxq' (iwlPcieRxMoveToAllocator rxq rba).2 := by
  have hbacking : rxq.backing ≤ rxq.rxUsed.length := by
    unfold IwlRxq.backing
    split
    · exact Nat.zero_le _
    · exact min_le_left _ _
  constructor
  · constructor
    · rw [hfreeCount, hfree, hgood.freeCount_eq]
    · rw [hclaiming, husedCount]
      exact hgood.claimed
  · simp only [iwlPcieRxMoveToAllocator, IwlRbAllocator.inventory,
      IwlRxq.inventory, hqueue, hfree, hused, ← Multiset.coe_add,
      Multiset.coe_nil]
    abel
  · simp only [iwlPcieRxMoveToAllocator]
    rw [hclaiming, hposting, IwlRxq.requests, IwlRxq.requests, husedCount]
  · simp only [iwlPcieRxMoveToAllocator]
    rw [hclaiming]
  · simp only [iwlPcieRxMoveToAllocator, List.length_append]
    omega
  · exact le_refl _

theorem addFree_balanced (hgood : rxq.Good) (rxb : ℕ)
    (hqueue : rxq'.queue = rxq.queue)
    (hfree : rxq'.rxFree = rxq.rxFree ++ [rxb])
    (hused : rxq'.rxUsed = rxq.rxUsed)
    (hfreeCount : rxq'.freeCount = rxq.freeCount + 1)
    (husedCount : rxq'.usedCount = rxq.usedCount)
    (hclaiming : rxq'.pc.claiming = rxq.pc.claiming)
    (hposting : rxq'.pc.posting = rxq.pc.posting)
    (hbacking : rxq.backing ≤ rxq'.backing) :
    Balanced {rxb} rxq rba rxq' rba := by
  constructor
  · constructor
    · rw [hfreeCount, hfree, hgood.freeCount_eq, List.length_append]
      rfl
    · rw [hclaiming, husedCount]
      exact hgood.claimed
  · simp only [IwlRxq.inventory, hqueue, hfree, hused, ← Multiset.coe_add,
      Multiset.coe_singleton]
    abel
  · rw [hclaiming, hposting, IwlRxq.requests, IwlRxq.requests, husedCount]
  · rw [hclaiming]
  · omega
  · exact le_refl _

theorem reuseRbd_emergency_balanced (hgood : rxq.Good) (rxb n : ℕ)
    (hpc : rxq.pc = .getRxb n) (hemergency : rxq.emergency = true) :
    Balanced {rxb} rxq rba (rxq.iwlPcieRxReuseRbd rxb n) rba := by
  have hreuse : rxq.iwlPcieRxReuseRbd rxb n =
      { rxq with rxUsed := rxq.rxUsed ++ [rxb], pc := .claim n } := by
    rw [IwlRxq.iwlPcieRxReuseRbd, if_pos hemergency]
  rw [hreuse]
  constructor
  · constructor
    · exact hgood.freeCount_eq
    · exact Nat.zero_le _
  · simp only [IwlRxq.inventory, ← Multiset.coe_add, Multiset.coe_singleton]
    abel
  · simp only [hpc, RxPc.claiming, RxPc.posting, IwlRxq.requests]
  · simp only [hpc, RxPc.claiming]
  · simp only [IwlRxq.backing, hemergency, if_true]
    exact le_refl _
  · exact le_refl _

theorem countRbd_balanced (hgood : rxq.Good) (rxb n : ℕ) (pc : RxPc)
    (hpc : rxq.pc = .getRxb n) (hemergency : rxq.emergency = false)
    (hclaiming : pc.claiming = 0)
    (hposting : pc.posting + (rxq.usedCount + 6) / 8 =
      (rxq.usedCount + 1 + 6) / 8)
    (hunmoved : (rxq.usedCount + 6) % 8 + 1 ≤
      pc.unmoved (rxq.usedCount + 1)) :
    Balanced {rxb} rxq rba
      { rxq with
        rxUsed := rxq.rxUsed ++ [rxb]
        usedCount := rxq.usedCount + 1
        pc := pc } rba := by
  have hidle : rxq.pc.claiming = 0 := by rw [hpc]; rfl
  have hposted : rxq.pc.posting = 0 := by rw [hpc]; rfl
  have hcounted : rxq.pc.unmoved rxq.usedCount = (rxq.usedCount + 6) % 8 := by
    rw [hpc]
    rfl
  constructor
  · constructor
    · exact hgood.freeCount_eq
    · simp only [hclaiming, mul_zero, Nat.zero_le]
  · simp only [IwlRxq.inventory, ← Multiset.coe_add, Multiset.coe_singleton]
    abel
  · simp only [hclaiming, hidle, hposted, IwlRxq.requests, rxClaimReqAlloc,
      rxPostReqAlloc, Nat.reduceSub]
    omega
  · simp only [hclaiming, hidle]
  · simp only [IwlRxq.backing, hemergency, hcounted, List.length_append,
      List.length_singleton, Bool.false_eq_true, if_false]
    omega
  · exact le_refl _

theorem reuseRbd_balanced (hgood : rxq.Good) (rxb n : ℕ)
    (hpc : rxq.pc = .getRxb n) (hemergency : rxq.emergency = false) :
    Balanced {rxb} rxq rba (rxq.iwlPcieRxReuseRbd rxb n) rba := by
  rw [IwlRxq.iwlPcieRxReuseRbd, if_neg (by rw [hemergency]; decide)]
  by_cases hpost : (rxq.usedCount + 1) % rxClaimReqAlloc = rxPostReqAlloc
  · rw [if_pos hpost]
    rw [rxClaimReqAlloc, rxPostReqAlloc] at hpost
    apply countRbd_balanced hgood rxb n _ hpc hemergency rfl
    · simp only [RxPc.posting]
      omega
    · simp only [RxPc.unmoved, rxClaimReqAlloc]
      omega
  · rw [if_neg hpost]
    rw [rxClaimReqAlloc, rxPostReqAlloc] at hpost
    apply countRbd_balanced hgood rxb n _ hpc hemergency rfl
    · simp only [RxPc.posting]
      omega
    · simp only [RxPc.unmoved, rxClaimReqAlloc, rxPostReqAlloc]
      omega

theorem handleRxb_balanced (hgood : rxq.Good) (rxb n : ℕ)
    (join pageStolen : Bool) (hpc : rxq.pc = .getRxb n) :
    Balanced {rxb} rxq rba (rxq.handleRxb rxb n join pageStolen) rba := by
  have hunmoved : rxq.pc.unmoved rxq.usedCount =
      (RxPc.claim n).unmoved rxq.usedCount := by
    rw [hpc]
    rfl
  unfold IwlRxq.handleRxb
  by_cases hjoin : (join || rxq.nextRbIsFragment) = true
  · rw [if_pos hjoin]
    refine addFree_balanced hgood rxb rfl rfl rfl rfl rfl ?_ ?_ ?_
    · rw [hpc]
      rfl
    · rw [hpc]
      rfl
    · rw [IwlRxq.backing, hunmoved]
      exact le_refl _
  · rw [if_neg hjoin]
    cases pageStolen with
    | true =>
        rw [if_pos rfl]
        cases hemergency : rxq.emergency with
        | true => exact reuseRbd_emergency_balanced hgood rxb n hpc hemergency
        | false => exact reuseRbd_balanced hgood rxb n hpc hemergency
    | false =>
        rw [if_neg (by decide)]
        refine addFree_balanced hgood rxb rfl rfl rfl rfl rfl ?_ ?_ ?_
        · rw [hpc]
          rfl
        · rw [hpc]
          rfl
        · rw [IwlRxq.backing, hunmoved]
          exact le_refl _

theorem out_balanced (hgood : rxq.Good) (hclaiming : rxq.pc.claiming = 0)
    (hposting : rxq.pc.posting = 0)
    (hunmoved : ∀ u, rxq.pc.unmoved u = RxPc.head.unmoved u) :
    Balanced 0 rxq rba rxq.out rba := by
  unfold IwlRxq.out
  by_cases hcount : (rxq.emergency && decide (rxq.count ≠ 0)) = true
  · rw [if_pos hcount]
    have hemergency : rxq.emergency = true := by
      rw [Bool.and_eq_true] at hcount
      exact hcount.1
    refine balanced_of_same hgood rfl rfl rfl rfl rfl hclaiming.symm
      hposting.symm ?_
    simp [IwlRxq.backing, hemergency]
  · rw [if_neg hcount]
    refine balanced_of_same hgood rfl rfl rfl rfl rfl hclaiming.symm
      hposting.symm ?_
    rw [IwlRxq.backing, hunmoved]
    exact le_refl _

theorem allocRbs_balanced (hgood : rxq.Good) {restart : Bool} (page : Bool)
    (hpc : rxq.pc = .allocRbs restart) :
    Balanced 0 rxq rba (rxq.iwlPcieRxqAllocRbs restart page) rba := by
  have hbacking : rxq.backing = 0 := by
    simp [IwlRxq.backing, hpc, RxPc.unmoved]
  have hstop : Balanced 0 rxq rba
      { rxq with pc := .restock restart } rba := by
    refine balanced_of_same hgood rfl rfl rfl rfl rfl ?_ ?_ ?_
    · rw [hpc]
      rfl
    · rw [hpc]
      rfl
    · rw [hbacking]
      exact Nat.zero_le _
  cases hused : rxq.rxUsed with
  | nil => simpa only [IwlRxq.iwlPcieRxqAllocRbs, hused] using hstop
  | cons rxb rest =>
      cases page with
      | false =>
          simpa only [IwlRxq.iwlPcieRxqAllocRbs, hused, if_false,
            Bool.false_eq_true] using hstop
      | true =>
          simp only [IwlRxq.iwlPcieRxqAllocRbs, hused, if_true]
          constructor
          · constructor
            · simp [IwlRxq.addFree, hgood.freeCount_eq]
            · exact hgood.claimed
          · simp only [IwlRxq.inventory, IwlRxq.addFree, hused,
              ← Multiset.coe_add, ← Multiset.cons_coe, ← Multiset.singleton_add, add_zero]
            abel
          · rfl
          · rfl
          · rw [hbacking]
            exact Nat.add_le_add_right (Nat.le_add_right _ _) _
          · exact le_refl _

theorem restock_balanced (hgood : rxq.Good) {restart : Bool} (space : ℕ)
    (hpc : rxq.pc = .restock restart) :
    Balanced 0 rxq rba (rxq.iwlPcieRxqRestock restart space) rba := by
  have hlength : min space rxq.freeCount ≤ rxq.rxFree.length := by
    rw [← hgood.freeCount_eq]
    exact min_le_right _ _
  constructor
  · constructor
    · simp only [IwlRxq.iwlPcieRxqRestock, List.length_drop,
        hgood.freeCount_eq]
    · cases restart <;> exact Nat.zero_le _
  · have hsplit : (↑(rxq.rxFree.take (min space rxq.freeCount)) +
        ↑(rxq.rxFree.drop (min space rxq.freeCount)) : Multiset ℕ) =
        ↑rxq.rxFree := by
      rw [Multiset.coe_add, List.take_append_drop]
    simp only [IwlRxq.iwlPcieRxqRestock, IwlRxq.inventory,
      ← Multiset.coe_add, add_zero]
    rw [← hsplit]
    abel
  · cases restart <;> rw [hpc] <;> rfl
  · cases restart <;> rw [hpc] <;> rfl
  · have hbacking :
        rxq.backing = (rxq.iwlPcieRxqRestock restart space).backing := by
      cases restart <;> simp only [IwlRxq.backing, hpc] <;> rfl
    rw [hbacking]
    exact le_refl _
  · exact le_refl _

theorem postRequest_balanced (hgood : rxq.Good) (n : ℕ)
    (hpc : rxq.pc = .postRequest n) :
    Balanced 0 rxq rba { rxq with pc := .claim n }
      { rba with reqPending := rba.reqPending + 1, rxAlloc := true } := by
  constructor
  · exact ⟨hgood.freeCount_eq, Nat.zero_le _⟩
  · exact (add_zero _).symm
  · simp only [hpc, RxPc.claiming, RxPc.posting, IwlRxq.requests]
    omega
  · simp only [hpc, RxPc.claiming]
  · simp only [IwlRxq.backing, hpc, RxPc.unmoved]
    exact le_refl _
  · exact Nat.le_succ _

theorem claim_balanced (hgood : rxq.Good) (n : ℕ) (hpc : rxq.pc = .claim n)
    (hused : rxq.usedCount ≥ rxClaimReqAlloc) (hready : 0 < rba.reqReady) :
    Balanced 0 rxq rba { rxq with pc := .allocatorGet n }
      { rba with reqReady := rba.reqReady - 1 } := by
  constructor
  · exact ⟨hgood.freeCount_eq, hused⟩
  · exact (add_zero _).symm
  · simp only [hpc, RxPc.claiming, RxPc.posting, IwlRxq.requests]
    omega
  · simp only [hpc, RxPc.claiming]
    rw [add_zero, Nat.sub_add_cancel hready]
  · simp only [IwlRxq.backing, hpc, RxPc.unmoved]
    exact le_refl _
  · exact le_refl _

theorem allocatorGet_balanced (hgood : rxq.Good) (n : ℕ)
    (hpc : rxq.pc = .allocatorGet n)
    (hallocated : rxClaimReqAlloc ≤ rba.rbdAllocated.length) :
    Balanced 0 rxq rba
      { (iwlPcieRxAllocatorGet rxq rba).1 with pc := .settle n }
      (iwlPcieRxAllocatorGet rxq rba).2 := by
  have hclaimed : rxClaimReqAlloc ≤ rxq.usedCount := by
    have := hgood.claimed
    rwa [hpc] at this
  constructor
  · constructor
    · simp only [iwlPcieRxAllocatorGet, List.length_append,
        List.length_reverse, List.length_take, hgood.freeCount_eq]
      omega
    · exact Nat.zero_le _
  · have hsplit : (↑(rba.rbdAllocated.take rxClaimReqAlloc) +
        ↑(rba.rbdAllocated.drop rxClaimReqAlloc) : Multiset ℕ) =
        ↑rba.rbdAllocated := by
      rw [Multiset.coe_add, List.take_append_drop]
    simp only [iwlPcieRxAllocatorGet, IwlRbAllocator.inventory,
      IwlRxq.inventory, ← Multiset.coe_add, Multiset.coe_reverse, add_zero]
    rw [← hsplit]
    abel
  · simp only [iwlPcieRxAllocatorGet, hpc, RxPc.claiming, RxPc.posting,
      IwlRxq.requests, rxClaimReqAlloc, rxPostReqAlloc] at hclaimed ⊢
    omega
  · simp only [iwlPcieRxAllocatorGet, hpc, RxPc.claiming, List.length_drop,
      mul_add]
    omega
  · simp only [iwlPcieRxAllocatorGet, IwlRxq.backing, hpc, RxPc.unmoved,
      List.length_drop, rxClaimReqAlloc, rxPostReqAlloc]
      at hclaimed hallocated ⊢
    have hmod : (rxq.usedCount - 8 + (8 - 2)) % 8 =
        (rxq.usedCount + (8 - 2)) % 8 := by
      omega
    rw [hmod]
    omega
  · exact le_refl _

theorem checkEmergency_balanced {rba' : IwlRbAllocator} {n : ℕ}
    (hgood : rxq.Good) (hpc : rxq.pc = .checkEmergency n)
    (hstep : iwlPcieRxHandle rxq rba .next = some (rxq', rba')) :
    Balanced 0 rxq rba rxq' rba' := by
  simp only [iwlPcieRxHandle, hpc] at hstep
  by_cases henter : n ≥ rxq.queueSize / 2 ∧ ¬rxq.emergency
  · rw [if_pos henter] at hstep
    cases hstep
    refine balanced_of_move hgood rfl rfl rfl rfl rfl ?_ ?_
    · rw [hpc]
      rfl
    · rw [hpc]
      rfl
  · rw [if_neg henter] at hstep
    cases hstep
    refine balanced_of_same hgood rfl rfl rfl rfl rfl ?_ ?_ ?_
    · rw [hpc]
      rfl
    · rw [hpc]
      rfl
    · rw [IwlRxq.backing, hpc]
      exact le_refl _

theorem settle_balanced {rba' : IwlRbAllocator} {n : ℕ}
    (hgood : rxq.Good) (hpc : rxq.pc = .settle n)
    (hstep : iwlPcieRxHandle rxq rba .next = some (rxq', rba')) :
    Balanced 0 rxq rba rxq' rba' := by
  have hclaiming : rxq.pc.claiming = 0 := by rw [hpc]; rfl
  have hposting : rxq.pc.posting = 0 := by rw [hpc]; rfl
  simp only [iwlPcieRxHandle, hpc] at hstep
  by_cases hmove :
      rxq.usedCount % rxClaimReqAlloc = 0 ∧ ¬rxq.emergency = true
  · rw [if_pos hmove] at hstep
    cases hstep
    exact balanced_of_move hgood rfl rfl rfl rfl rfl hclaiming.symm
      hposting.symm
  · rw [if_neg hmove] at hstep
    cases hemergency : rxq.emergency with
    | true =>
        have hbacking : rxq.backing = 0 := by
          rw [IwlRxq.backing, hemergency, if_pos rfl]
        rw [hemergency, if_pos rfl] at hstep
        by_cases hcount : rxq.count + 1 = 8
        · rw [if_pos hcount] at hstep
          cases hstep
          refine balanced_of_same hgood rfl rfl rfl rfl rfl hclaiming.symm
            hposting.symm ?_
          rw [hbacking]
          exact Nat.zero_le _
        · rw [if_neg hcount] at hstep
          cases hstep
          refine balanced_of_same hgood rfl rfl rfl rfl rfl hclaiming.symm
            hposting.symm ?_
          rw [hbacking]
          exact Nat.zero_le _
    | false =>
        rw [hemergency, if_neg (by decide)] at hstep
        cases hstep
        refine balanced_of_same hgood rfl rfl rfl rfl rfl hclaiming.symm
          hposting.symm ?_
        rw [IwlRxq.backing, hpc, hemergency]
        exact le_refl _

theorem next_balanced {rba' : IwlRbAllocator} (hgood : rxq.Good)
    (hallocated :
      rxClaimReqAlloc * rxq.pc.claiming ≤ rba.rbdAllocated.length)
    (hstep : iwlPcieRxHandle rxq rba .next = some (rxq', rba')) :
    Balanced 0 rxq rba rxq' rba' := by
  cases hpc : rxq.pc with
  | checkEmergency n => exact checkEmergency_balanced hgood hpc hstep
  | moveToAllocator n =>
      simp only [iwlPcieRxHandle, hpc] at hstep
      cases hstep
      refine balanced_of_move hgood rfl rfl rfl rfl rfl ?_ ?_
      · rw [hpc]
        rfl
      · rw [hpc]
        rfl
  | postRequest n =>
      simp only [iwlPcieRxHandle, hpc] at hstep
      cases hstep
      exact postRequest_balanced hgood n hpc
  | claim n =>
      simp only [iwlPcieRxHandle, hpc] at hstep
      by_cases hclaim : rxq.usedCount ≥ rxClaimReqAlloc ∧ 0 < rba.reqReady
      · rw [if_pos hclaim] at hstep
        cases hstep
        exact claim_balanced hgood n hpc hclaim.1 hclaim.2
      · rw [if_neg hclaim] at hstep
        cases hstep
        refine balanced_of_same hgood rfl rfl rfl rfl rfl ?_ ?_ ?_
        · rw [hpc]
          rfl
        · rw [hpc]
          rfl
        · rw [IwlRxq.backing, hpc]
          exact le_refl _
  | allocatorGet n =>
      simp only [iwlPcieRxHandle, hpc] at hstep
      cases hstep
      rw [hpc] at hallocated
      exact allocatorGet_balanced hgood n hpc hallocated
  | settle n => exact settle_balanced hgood hpc hstep
  | _ => simp [iwlPcieRxHandle, hpc] at hstep

/-- Every step of a handler is balanced; taking the RBDs of a request needs
them on `rbd_allocated`. -/
theorem rxHandle_balanced {rba' : IwlRbAllocator} {input : RxInput}
    (hgood : rxq.Good)
    (hallocated :
      rxClaimReqAlloc * rxq.pc.claiming ≤ rba.rbdAllocated.length)
    (hstep : iwlPcieRxHandle rxq rba input = some (rxq', rba')) :
    Balanced input.received rxq rba rxq' rba' := by
  cases input with
  | poll =>
      simp only [iwlPcieRxHandle, Option.ite_none_right_eq_some,
        Option.some.injEq, Prod.mk.injEq] at hstep
      obtain ⟨hpc, rfl, rfl⟩ := hstep
      refine balanced_of_same hgood rfl rfl rfl rfl rfl ?_ ?_ ?_
      · rw [hpc]
        rfl
      · rw [hpc]
        rfl
      · simp only [IwlRxq.backing, hpc, RxPc.unmoved, Bool.false_eq_true,
          if_false]
        split
        · exact Nat.zero_le _
        · exact le_refl _
  | more =>
      simp only [iwlPcieRxHandle, Option.ite_none_right_eq_some,
        Option.some.injEq, Prod.mk.injEq] at hstep
      obtain ⟨hpc, rfl, rfl⟩ := hstep
      refine balanced_of_same hgood rfl rfl rfl rfl rfl ?_ ?_ ?_
      · rw [hpc]
        rfl
      · rw [hpc]
        rfl
      · rw [IwlRxq.backing, hpc]
        exact le_refl _
  | noMore =>
      simp only [iwlPcieRxHandle, Option.ite_none_right_eq_some,
        Option.some.injEq, Prod.mk.injEq] at hstep
      obtain ⟨hpc, rfl, rfl⟩ := hstep
      apply out_balanced hgood
      · rw [hpc]
        rfl
      · rw [hpc]
        rfl
      · intro u
        rw [hpc]
  | invalidRxb =>
      cases hpc : rxq.pc with
      | getRxb n =>
          simp only [iwlPcieRxHandle, hpc, Option.some.injEq,
            Prod.mk.injEq] at hstep
          obtain ⟨rfl, rfl⟩ := hstep
          apply out_balanced hgood
          · rw [hpc]
            rfl
          · rw [hpc]
            rfl
          · intro u
            rw [hpc]
            rfl
      | _ => simp [iwlPcieRxHandle, hpc] at hstep
  | rxb from_ rxb join pageStolen =>
      cases hpc : rxq.pc with
      | getRxb n =>
          simp only [iwlPcieRxHandle, hpc, Option.some.injEq,
            Prod.mk.injEq] at hstep
          obtain ⟨rfl, rfl⟩ := hstep
          exact handleRxb_balanced hgood rxb n join pageStolen hpc
      | _ => simp [iwlPcieRxHandle, hpc] at hstep
  | page allocated =>
      cases hpc : rxq.pc with
      | allocRbs restart =>
          simp only [iwlPcieRxHandle, hpc, Option.some.injEq,
            Prod.mk.injEq] at hstep
          obtain ⟨rfl, rfl⟩ := hstep
          exact allocRbs_balanced hgood allocated hpc
      | _ => simp [iwlPcieRxHandle, hpc] at hstep
  | space room =>
      cases hpc : rxq.pc with
      | restock restart =>
          simp only [iwlPcieRxHandle, hpc, Option.some.injEq,
            Prod.mk.injEq] at hstep
          obtain ⟨rfl, rfl⟩ := hstep
          exact restock_balanced hgood room hpc
      | _ => simp [iwlPcieRxHandle, hpc] at hstep
  | next => exact next_balanced hgood hallocated hstep

end Handler

/-! ## The steps of the work -/

namespace AllocatorPc

/-- One while the work has taken a request off `req_pending` that is not on
`req_ready`. -/
def served : AllocatorPc → ℕ
  | .rereadPending => 1
  | .splice _ => 1
  | .makeReady _ => 1
  | _ => 0

/-- One while the RBDs of that request are on `rbd_allocated`. -/
def spliced : AllocatorPc → ℕ
  | .makeReady _ => 1
  | _ => 0

end AllocatorPc

namespace AllocatorWork

def inventory (work : AllocatorWork) : Multiset ℕ :=
  ↑work.localEmpty + ↑work.localAllocated

/-- What the local lists hold at each point of the work. -/
def Good (rba : IwlRbAllocator) (work : AllocatorWork) : Prop :=
  match work.pc with
  | .idle => work.localEmpty = [] ∧ work.localAllocated = []
  | .swapEmpty pending =>
      work.localEmpty = [] ∧ work.localAllocated = [] ∧
        pending ≤ rba.reqPending
  | .allocate pending =>
      0 < pending ∧ pending ≤ rba.reqPending ∧
        work.localAllocated.length ≤ rxClaimReqAlloc ∧
        rxClaimReqAlloc * pending ≤
          work.localEmpty.length + work.localAllocated.length
  | .rereadPending => work.localAllocated.length = rxClaimReqAlloc
  | .splice pending =>
      work.localAllocated.length = rxClaimReqAlloc ∧
        pending ≤ rba.reqPending
  | .makeReady pending =>
      work.localAllocated = [] ∧ pending ≤ rba.reqPending ∧
        rxClaimReqAlloc * pending ≤ work.localEmpty.length
  | .returnUnused => work.localAllocated = []
  | .bug => False

theorem Good.mono {rba rba' : IwlRbAllocator} {work : AllocatorWork}
    (hgood : work.Good rba) (hpending : rba.reqPending ≤ rba'.reqPending) :
    work.Good rba' := by
  unfold Good at hgood ⊢
  cases hpc : work.pc with
  | swapEmpty pending =>
      simp only [hpc] at hgood ⊢
      exact ⟨hgood.1, hgood.2.1, hgood.2.2.trans hpending⟩
  | allocate pending =>
      simp only [hpc] at hgood ⊢
      exact ⟨hgood.1, hgood.2.1.trans hpending, hgood.2.2⟩
  | splice pending =>
      simp only [hpc] at hgood ⊢
      exact ⟨hgood.1, hgood.2.trans hpending⟩
  | makeReady pending =>
      simp only [hpc] at hgood ⊢
      exact ⟨hgood.1, hgood.2.1.trans hpending, hgood.2.2⟩
  | bug => simp only [hpc] at hgood
  | _ =>
      simp only [hpc] at hgood ⊢
      exact hgood

end AllocatorWork

/-- How one step of the work moves RBDs and requests. -/
structure WorkBalanced (rba : IwlRbAllocator) (work : AllocatorWork)
    (rba' : IwlRbAllocator) (work' : AllocatorWork) : Prop where
  good : work'.Good rba'
  inventory :
    rba'.inventory + work'.inventory = rba.inventory + work.inventory
  requests :
    rba'.reqPending + rba'.reqReady + work'.pc.served =
      rba.reqPending + rba.reqReady + work.pc.served
  allocated :
    rba'.rbdAllocated.length +
        rxClaimReqAlloc * (rba.reqReady + work.pc.spliced) =
      rba.rbdAllocated.length +
        rxClaimReqAlloc * (rba'.reqReady + work'.pc.spliced)

def Supplied (rba : IwlRbAllocator) (work : AllocatorWork) : Prop :=
  rxClaimReqAlloc * (rba.reqPending + work.pc.served) ≤
    rba.rbdEmpty.length + work.localEmpty.length +
      work.localAllocated.length + rxClaimReqAlloc * work.pc.spliced

section Work

variable {rba rba' : IwlRbAllocator} {work work' : AllocatorWork}

theorem swapEmpty_balanced (hgood : work.Good rba)
    (hsupplied : Supplied rba work) {pending : ℕ}
    (hpc : work.pc = .swapEmpty pending) :
    WorkBalanced rba work { rba with rbdEmpty := [] }
      { work with
        localEmpty := rba.rbdEmpty
        pc := if pending = 0 then .returnUnused else .allocate pending } := by
  simp only [AllocatorWork.Good, hpc] at hgood
  obtain ⟨hempty, hallocated, hpending⟩ := hgood
  simp only [Supplied, hpc, AllocatorPc.served, AllocatorPc.spliced, hempty,
    hallocated, List.length_nil, add_zero, mul_zero] at hsupplied
  have henough : rxClaimReqAlloc * pending ≤ rba.rbdEmpty.length :=
    (Nat.mul_le_mul_left _ hpending).trans hsupplied
  have hinventory :
      IwlRbAllocator.inventory { rba with rbdEmpty := [] } +
          (↑rba.rbdEmpty + ↑work.localAllocated) =
        rba.inventory + work.inventory := by
    simp only [IwlRbAllocator.inventory, AllocatorWork.inventory, hempty,
      Multiset.coe_nil]
    abel
  by_cases hzero : pending = 0
  · simp only [if_pos hzero]
    refine ⟨hallocated, hinventory, ?_, ?_⟩
    · simp only [hpc, AllocatorPc.served]
    · simp only [hpc, AllocatorPc.spliced]
  · simp only [if_neg hzero]
    refine ⟨?_, hinventory, ?_, ?_⟩
    · simp only [AllocatorWork.Good, hallocated, List.length_nil]
      exact ⟨by omega, hpending, Nat.zero_le _, henough⟩
    · simp only [hpc, AllocatorPc.served]
    · simp only [hpc, AllocatorPc.spliced]

theorem allocate_balanced (hgood : work.Good rba) {pending : ℕ} {page : Bool}
    (hpc : work.pc = .allocate pending)
    (hstep : iwlPcieRxAllocator rba work page = some (rba', work')) :
    WorkBalanced rba work rba' work' := by
  have hgood' := hgood
  simp only [AllocatorWork.Good, hpc] at hgood'
  obtain ⟨hpositive, hpending, hlength, henough⟩ := hgood'
  simp only [iwlPcieRxAllocator, hpc] at hstep
  by_cases hmore : work.localAllocated.length < rxClaimReqAlloc
  · rw [if_pos hmore] at hstep
    cases hempty : work.localEmpty with
    | nil =>
        have := Nat.le_mul_of_pos_right rxClaimReqAlloc hpositive
        simp only [hempty, List.length_nil] at henough
        omega
    | cons rxb rest =>
        simp only [hempty] at hstep henough
        cases page with
        | false =>
            simp only [Bool.false_eq_true, if_false] at hstep
            cases hstep
            exact ⟨hgood, rfl, rfl, rfl⟩
        | true =>
            simp only [if_true] at hstep
            cases hstep
            refine ⟨?_, ?_, ?_, ?_⟩
            · simp only [AllocatorWork.Good, List.length_cons] at henough ⊢
              refine ⟨hpositive, hpending, by omega, by omega⟩
            · simp only [AllocatorWork.inventory, hempty,
                ← Multiset.cons_coe, ← Multiset.singleton_add]
              abel
            · rw [hpc]
            · rw [hpc]
  · rw [if_neg hmore] at hstep
    have hfull : work.localAllocated.length = rxClaimReqAlloc := by omega
    cases hstep
    by_cases hlast : pending - 1 = 0
    · simp only [if_pos hlast]
      refine ⟨hfull, rfl, ?_, ?_⟩
      · simp only [hpc, AllocatorPc.served]
        omega
      · simp only [hpc, AllocatorPc.spliced]
    · simp only [if_neg hlast]
      refine ⟨⟨hfull, by simp only; omega⟩, rfl, ?_, ?_⟩
      · simp only [hpc, AllocatorPc.served]
        omega
      · simp only [hpc, AllocatorPc.spliced]

theorem splice_balanced (hgood : work.Good rba)
    (hsupplied : Supplied rba work) {pending : ℕ}
    (hpc : work.pc = .splice pending) :
    WorkBalanced rba work
      { rba with
        rbdAllocated := rba.rbdAllocated ++ work.localAllocated
        rbdEmpty := [] }
      { localEmpty := work.localEmpty ++ rba.rbdEmpty
        localAllocated := []
        pc := .makeReady pending } := by
  simp only [AllocatorWork.Good, hpc] at hgood
  obtain ⟨hfull, hpending⟩ := hgood
  simp only [Supplied, hpc, AllocatorPc.served, AllocatorPc.spliced, hfull,
    mul_add, mul_one, mul_zero, add_zero] at hsupplied
  have hmul := Nat.mul_le_mul_left rxClaimReqAlloc hpending
  refine ⟨⟨rfl, hpending, ?_⟩, ?_, ?_, ?_⟩
  · simp only [List.length_append]
    omega
  · simp only [IwlRbAllocator.inventory, AllocatorWork.inventory,
      ← Multiset.coe_add, Multiset.coe_nil]
    abel
  · simp only [hpc, AllocatorPc.served]
  · simp only [hpc, AllocatorPc.spliced, List.length_append, hfull, mul_add]
    omega

theorem makeReady_balanced (hgood : work.Good rba) {pending : ℕ}
    (hpc : work.pc = .makeReady pending) :
    WorkBalanced rba work { rba with reqReady := rba.reqReady + 1 }
      { work with
        pc := if pending = 0 then .returnUnused else .allocate pending } := by
  simp only [AllocatorWork.Good, hpc] at hgood
  obtain ⟨hallocated, hpending, henough⟩ := hgood
  by_cases hzero : pending = 0
  · simp only [if_pos hzero]
    refine ⟨hallocated, rfl, ?_, ?_⟩
    · simp only [hpc, AllocatorPc.served]
      omega
    · simp only [hpc, AllocatorPc.spliced, add_zero]
  · simp only [if_neg hzero]
    refine ⟨?_, rfl, ?_, ?_⟩
    · simp only [AllocatorWork.Good, hallocated, List.length_nil]
      exact ⟨by omega, hpending, Nat.zero_le _, henough⟩
    · simp only [hpc, AllocatorPc.served]
      omega
    · simp only [hpc, AllocatorPc.spliced, add_zero]

theorem rxAllocator_balanced {page : Bool} (hgood : work.Good rba)
    (hsupplied : Supplied rba work)
    (hstep : iwlPcieRxAllocator rba work page = some (rba', work')) :
    WorkBalanced rba work rba' work' := by
  cases hpc : work.pc with
  | idle =>
      simp only [iwlPcieRxAllocator, hpc, Option.ite_none_right_eq_some,
        Option.some.injEq, Prod.mk.injEq] at hstep
      obtain ⟨_, rfl, rfl⟩ := hstep
      simp only [AllocatorWork.Good, hpc] at hgood
      refine ⟨⟨hgood.1, hgood.2, le_refl _⟩, rfl, ?_, ?_⟩
      · rw [hpc]
        rfl
      · rw [hpc]
        rfl
  | swapEmpty pending =>
      simp only [iwlPcieRxAllocator, hpc] at hstep
      cases hstep
      exact swapEmpty_balanced hgood hsupplied hpc
  | allocate pending => exact allocate_balanced hgood hpc hstep
  | rereadPending =>
      simp only [iwlPcieRxAllocator, hpc] at hstep
      cases hstep
      simp only [AllocatorWork.Good, hpc] at hgood
      refine ⟨⟨hgood, le_refl _⟩, rfl, ?_, ?_⟩
      · rw [hpc]
        rfl
      · rw [hpc]
        rfl
  | splice pending =>
      simp only [iwlPcieRxAllocator, hpc] at hstep
      cases hstep
      exact splice_balanced hgood hsupplied hpc
  | makeReady pending =>
      simp only [iwlPcieRxAllocator, hpc] at hstep
      cases hstep
      exact makeReady_balanced hgood hpc
  | returnUnused =>
      simp only [iwlPcieRxAllocator, hpc] at hstep
      cases hstep
      simp only [AllocatorWork.Good, hpc] at hgood
      refine ⟨⟨rfl, hgood⟩, ?_, ?_, ?_⟩
      · simp only [IwlRbAllocator.inventory, AllocatorWork.inventory,
          ← Multiset.coe_add, Multiset.coe_nil]
        abel
      · rw [hpc]
        rfl
      · rw [hpc]
        rfl
  | bug => simp [iwlPcieRxAllocator, hpc] at hstep

end Work

end IwlwifiStack
