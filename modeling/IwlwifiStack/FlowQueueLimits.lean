import IwlwifiStack.FlowQueueAccounting
import IwlwifiStack.FuelLoop

/-!
# The limits of fair queueing

`fq_tin_enqueue` ends with a loop that drops packets from the fattest flow.
With balanced books a limit can only be exceeded while some flow is marked,
so each round finds a victim and takes at least one packet from it.
-/

namespace IwlwifiStack

variable {α : Type*}

/-- What the loop of `fq_tin_enqueue` knows before a round, with the packets
freed so far. -/
structure DropHead (α : Type*) where
  fq : Fq α
  oom : Bool
  freed : List (FlowPacket α)

namespace DropHead

def Over (head : DropHead α) : Prop :=
  head.fq.backlog > head.fq.limit ∨
    head.fq.memoryUsage > head.fq.memoryLimit

/-- One round of the loop, or what `fq_tin_enqueue` ends with. -/
def round (head : DropHead α) : Option (Fq.Released α) ⊕ DropHead α :=
  if head.fq.backlog > head.fq.limit ∨ head.oom then
    match head.fq.fqFindFattestFlow with
    | none => .inl (some ⟨[], head.freed, head.fq⟩)
    | some id =>
        match head.fq.fqFlowDrop id with
        | none => .inl none
        | some dropped =>
            if dropped.1 = [] then
              .inl (some ⟨[], head.freed, dropped.2⟩)
            else
              match dropped.2.countOverlimit id head.oom with
              | none => .inl none
              | some fq =>
                  .inr
                    { fq := fq
                      oom := head.oom &&
                        decide (fq.memoryUsage > fq.memoryLimit)
                      freed := head.freed ++
                        dropped.1.map fun skb => (id, skb) }
  else .inl (some ⟨[], head.freed, head.fq⟩)

end DropHead

theorem dropOverlimit_succ (rounds : ℕ) (head : DropHead α) :
    (Fq.dropOverlimit (rounds + 1) head.fq head.oom).map
        (fun released => released.afterFreed head.freed) =
      match head.round with
      | .inl released => released
      | .inr next =>
          (Fq.dropOverlimit rounds next.fq next.oom).map
            fun released => released.afterFreed next.freed := by
  rw [Fq.dropOverlimit, DropHead.round]
  by_cases hover : head.fq.backlog > head.fq.limit ∨ head.oom = true
  · rw [if_pos hover, if_pos hover]
    cases hfattest : head.fq.fqFindFattestFlow with
    | none => simp [Fq.Released.afterFreed]
    | some id =>
        cases hflow : head.fq.fqFlowDrop id with
        | none => simp [hflow]
        | some dropped =>
            by_cases hempty : dropped.1 = []
            · simp [hflow, hempty, Fq.Released.afterFreed]
            · cases hcount : dropped.2.countOverlimit id head.oom with
              | none => simp [hflow, hempty, hcount]
              | some fq =>
                  simp only [hflow, if_neg hempty, hcount,
                    Option.bind_some, Option.map_map]
                  congr 1
                  funext released
                  simp [Fq.Released.afterFreed]
  · rw [if_neg hover, if_neg hover]
    simp [Fq.Released.afterFreed]

theorem dropOverlimit_eq_run (rounds : ℕ) (head : DropHead α) :
    (Fq.dropOverlimit rounds head.fq head.oom).map
        (fun released => released.afterFreed head.freed) =
      (FuelLoop.run DropHead.round rounds head).join := by
  induction rounds generalizing head with
  | zero => rfl
  | succ rounds ih =>
      rw [dropOverlimit_succ, FuelLoop.run]
      cases head.round with
      | inl released => rfl
      | inr next => exact ih next

/-! ## The victim -/

section Victim

variable {numTins t : ℕ} {fq : Fq α} {id : FqFlowId}

/-- The scan finds a flow as soon as one candidate has more than the best so
far, and no candidate has more than what it found. -/
theorem foldl_fattest_le (fq : Fq α) (candidates : List FqFlowId)
    (best : Option FqFlowId × ℕ) :
    let found := candidates.foldl
      (fun (best : Option FqFlowId × ℕ) id =>
        if (fq.flows id).backlog ≤ best.2 then best
        else (some id, (fq.flows id).backlog)) best
    best.2 ≤ found.2 ∧
      (∀ id ∈ candidates, (fq.flows id).backlog ≤ found.2) ∧
      (found = best ∨
        ∃ id, found = (some id, (fq.flows id).backlog)) := by
  induction candidates generalizing best with
  | nil => exact ⟨le_refl _, fun _ hid => (List.not_mem_nil hid).elim, Or.inl rfl⟩
  | cons other rest ih =>
      dsimp only
      rw [List.foldl_cons]
      by_cases hle : (fq.flows other).backlog ≤ best.2
      · rw [if_pos hle]
        obtain ⟨hbest, hrest, hfound⟩ := ih best
        refine ⟨hbest, ?_, hfound⟩
        intro id hid
        rcases List.mem_cons.mp hid with rfl | hid
        · exact hle.trans hbest
        · exact hrest id hid
      · rw [if_neg hle]
        obtain ⟨hbest, hrest, hfound⟩ :=
          ih (some other, (fq.flows other).backlog)
        refine ⟨(Nat.le_of_not_le hle).trans hbest, ?_, Or.inr ?_⟩
        · intro id hid
          rcases List.mem_cons.mp hid with rfl | hid
          · exact hbest
          · exact hrest id hid
        · rcases hfound with heq | hfound
          · exact ⟨other, heq⟩
          · exact hfound

theorem FqGood.mem_candidates (hgood : FqGood numTins fq)
    (hid : id ∈ fq.flowIds numTins) (hbacklog : (fq.flows id).backlog ≠ 0) :
    id ∈ ((List.range fq.flowsCnt).filter fq.flowsBitmap).map .hashed ++
      fq.tinBacklog.map .defaultFlow := by
  have hmarked := (hgood.marked_iff id hid).mpr hbacklog
  cases id with
  | hashed idx =>
      have hidx := Fq.hashed_mem_flowIds.mp hid
      apply List.mem_append_left
      apply List.mem_map_of_mem
      exact List.mem_filter.mpr ⟨List.mem_range.mpr hidx, hmarked⟩
  | defaultFlow s =>
      exact List.mem_append_right _ (List.mem_map_of_mem hmarked)

theorem FqGood.fattest_le (hgood : FqGood numTins fq)
    (hid : id ∈ fq.flowIds numTins) (hqueue : (fq.flows id).queue ≠ []) :
    ∃ victim, fq.fqFindFattestFlow = some victim ∧
      ∀ other ∈ fq.flowIds numTins,
        (fq.flows other).backlog ≤ (fq.flows victim).backlog := by
  have hbacklog : (fq.flows id).backlog ≠ 0 := by
    rw [hgood.backlog_eq id hid]
    exact (bytesOf_ne_zero (hgood.len_pos id hid)).mpr hqueue
  obtain ⟨-, hmax, hfound⟩ := foldl_fattest_le fq
    (((List.range fq.flowsCnt).filter fq.flowsBitmap).map .hashed ++
      fq.tinBacklog.map .defaultFlow) (none, 0)
  rcases hfound with hnone | ⟨victim, hvictim⟩
  · have hself := hmax id (hgood.mem_candidates hid hbacklog)
    rw [hnone] at hself
    exact absurd (Nat.le_zero.mp hself) hbacklog
  · refine ⟨victim, congrArg Prod.fst hvictim, ?_⟩
    intro other hother
    rw [hvictim] at hmax
    by_cases hzero : (fq.flows other).backlog = 0
    · rw [hzero]
      exact Nat.zero_le _
    · exact hmax other (hgood.mem_candidates hother hzero)

theorem exists_queue_of_total (weight : FqFlow α → ℕ)
    (hweight : ∀ flow : FqFlow α, flow.queue = [] → weight flow = 0)
    (htotal : fq.total numTins weight ≠ 0) :
    ∃ id ∈ fq.flowIds numTins, (fq.flows id).queue ≠ [] := by
  obtain ⟨id, hid, hne⟩ := Finset.exists_ne_zero_of_sum_ne_zero htotal
  exact ⟨id, hid, fun hempty => hne (hweight _ hempty)⟩

theorem dropPackets_eq_nil {pending packets : ℕ} {queue : List (FqSkb α)} :
    (Fq.dropPackets pending packets queue).1 = [] ↔ queue = [] := by
  cases queue with
  | nil => simp [Fq.dropPackets]
  | cons skb rest =>
      unfold Fq.dropPackets
      split <;> simp

theorem adjustRemoval_params {fq' : Fq α} {packets bytes truesize : ℕ}
    (hadjust : fq.adjustRemoval id packets bytes truesize = some fq') :
    fq'.limit = fq.limit ∧ fq'.memoryLimit = fq.memoryLimit ∧
      fq'.quantum = fq.quantum := by
  unfold Fq.adjustRemoval at hadjust
  cases htin : (fq.flows id).tin with
  | none =>
      rw [htin] at hadjust
      cases hadjust
  | some t =>
      simp only [htin] at hadjust
      split at hadjust
      · cases hadjust
        exact ⟨rfl, rfl, rfl⟩
      · cases id with
        | hashed idx =>
            simp only [Fq.clearBacklogged, Option.some.injEq] at hadjust
            subst fq'
            exact ⟨rfl, rfl, rfl⟩
        | defaultFlow s =>
            simp only [Fq.clearBacklogged, Option.ite_none_right_eq_some,
              Option.some.injEq] at hadjust
            obtain ⟨-, rfl⟩ := hadjust
            exact ⟨rfl, rfl, rfl⟩

theorem countOverlimit_frame {fq' : Fq α} {oom : Bool}
    (hcount : fq.countOverlimit id oom = some fq') :
    fq'.backlog = fq.backlog ∧ fq'.memoryUsage = fq.memoryUsage ∧
      fq'.limit = fq.limit ∧ fq'.memoryLimit = fq.memoryLimit := by
  simp only [Fq.countOverlimit, Option.map_eq_some_iff] at hcount
  obtain ⟨s, -, rfl⟩ := hcount
  exact ⟨rfl, rfl, rfl, rfl⟩

theorem FqGood.sums_dropped {dropped : List (FqSkb α) × Fq α}
    (hgood : FqGood numTins fq) (hid : id ∈ fq.flowIds numTins)
    (hreleases : Releases numTins fq
      ⟨[], dropped.1.map fun skb => (id, skb), dropped.2⟩) :
    dropped.2.backlog + dropped.1.length = fq.backlog ∧
      dropped.2.memoryUsage + truesizeOf dropped.1 = fq.memoryUsage := by
  have hself : (fq.flows id).queue.Perm
      (dropped.1 ++ (dropped.2.flows id).queue) := by
    have hconserved := hreleases.moves.conserved id
    rw [ofFlow_map_self] at hconserved
    simpa [ofFlow] using hconserved
  have hother : ∀ other, other ≠ id → (fq.flows other).queue.Perm
      (dropped.2.flows other).queue := by
    intro other hother
    have hconserved := hreleases.moves.conserved other
    rw [ofFlow_map_other hother] at hconserved
    simpa [ofFlow] using hconserved
  have hsum : ∀ weight : List (FqSkb α) → ℕ,
      (∀ left right, left.Perm right → weight left = weight right) →
      (∀ left right, weight (left ++ right) = weight left + weight right) →
      dropped.2.total numTins (fun flow => weight flow.queue) +
          weight dropped.1 =
        fq.total numTins fun flow => weight flow.queue := by
    intro weight hperm happend
    unfold Fq.total
    rw [hreleases.links.flowIds_eq, ← Finset.add_sum_erase _ _ hid,
      ← Finset.add_sum_erase _ (fun id => weight (fq.flows id).queue) hid,
      hperm _ _ hself, happend]
    have hrest : ∑ other ∈ (fq.flowIds numTins).erase id,
          weight (dropped.2.flows other).queue =
        ∑ other ∈ (fq.flowIds numTins).erase id,
          weight (fq.flows other).queue := by
      apply Finset.sum_congr rfl
      intro other hmem
      exact (hperm _ _ (hother other (Finset.ne_of_mem_erase hmem))).symm
    rw [hrest]
    exact (add_right_comm _ _ _).trans
      (congrArg (· + _) (add_comm _ _))
  constructor
  · rw [hgood.backlog_total, hreleases.good.backlog_total]
    exact hsum List.length (fun _ _ hperm => hperm.length_eq)
      fun _ _ => List.length_append
  · rw [hgood.memoryUsage_total, hreleases.good.memoryUsage_total]
    exact hsum truesizeOf (fun _ _ => truesizeOf_perm) truesizeOf_append

end Victim

/-! ## The rounds -/

namespace DropHead

variable {numTins limit memoryLimit : ℕ} {head next : DropHead α}

/-- The books are balanced at the head of the loop, and `oom` is up to
date. -/
structure Sound (numTins limit memoryLimit : ℕ) (head : DropHead α) :
    Prop where
  good : FqGood numTins head.fq
  limit_eq : head.fq.limit = limit
  memoryLimit_eq : head.fq.memoryLimit = memoryLimit
  oom_eq : head.oom = decide (head.fq.memoryUsage > memoryLimit)

/-- A round takes packets from a flow with the largest backlog of all flows,
while a limit is exceeded. -/
structure Drops (numTins : ℕ) (head next : DropHead α) : Prop where
  exceeded : head.Over
  victim : ∃ victim dropped, dropped ≠ [] ∧
    next.freed = head.freed ++ dropped.map (fun skb => (victim, skb)) ∧
    ∀ other ∈ head.fq.flowIds numTins,
      (head.fq.flows other).backlog ≤ (head.fq.flows victim).backlog

theorem Sound.over_iff (hsound : head.Sound numTins limit memoryLimit) :
    (head.fq.backlog > head.fq.limit ∨ head.oom = true) ↔ head.Over := by
  rw [Over, hsound.oom_eq, decide_eq_true_eq, hsound.memoryLimit_eq]

theorem Sound.round_done (hsound : head.Sound numTins limit memoryLimit)
    (hover : ¬head.Over) :
    head.round = .inl (some ⟨[], head.freed, head.fq⟩) := by
  rw [round, if_neg (mt hsound.over_iff.mp hover)]

theorem Sound.exists_queue (hsound : head.Sound numTins limit memoryLimit)
    (hover : head.Over) :
    ∃ id ∈ head.fq.flowIds numTins, (head.fq.flows id).queue ≠ [] := by
  rcases hover with hbacklog | hmemory
  · rw [hsound.good.backlog_total] at hbacklog
    apply exists_queue_of_total (fun flow => flow.queue.length)
    · intro flow hempty
      rw [hempty]
      rfl
    · omega
  · rw [hsound.good.memoryUsage_total] at hmemory
    apply exists_queue_of_total fun flow => truesizeOf flow.queue
    · intro flow hempty
      rw [hempty]
      rfl
    · omega

theorem Sound.round_drops (hsound : head.Sound numTins limit memoryLimit)
    (hover : head.Over) :
    ∃ next, head.round = .inr next ∧
      next.Sound numTins limit memoryLimit ∧ Drops numTins head next ∧
      next.fq.backlog < head.fq.backlog := by
  have hgood := hsound.good
  obtain ⟨id, hid, hqueue⟩ := hsound.exists_queue hover
  obtain ⟨victim, hfattest, hmax⟩ := hgood.fattest_le hid hqueue
  obtain ⟨hvictim, t, htin⟩ := hgood.fattest hfattest
  have hbacklog : (head.fq.flows victim).backlog ≠ 0 := by
    have hle := hmax id hid
    have hpos := (bytesOf_ne_zero (hgood.len_pos id hid)).mpr hqueue
    rw [← hgood.backlog_eq id hid] at hpos
    omega
  have hheld : (head.fq.flows victim).queue ≠ [] := by
    intro hempty
    rw [hgood.backlog_eq victim hvictim, hempty] at hbacklog
    exact hbacklog rfl
  obtain ⟨dropped, hflow, hreleases⟩ := hgood.fqFlowDrop hvictim htin
  have hdropped : dropped.1 ≠ [] ∧
      dropped.2.limit = head.fq.limit ∧
      dropped.2.memoryLimit = head.fq.memoryLimit := by
    simp only [Fq.fqFlowDrop, Option.map_eq_some_iff] at hflow
    obtain ⟨fq, hadjust, rfl⟩ := hflow
    have hparams := adjustRemoval_params hadjust
    exact ⟨fun hempty => hheld (dropPackets_eq_nil.mp hempty), hparams.1,
      hparams.2.1⟩
  obtain ⟨hdrop, hlimit, hmemoryLimit⟩ := hdropped
  obtain ⟨hpackets, hmemory⟩ := hgood.sums_dropped hvictim hreleases
  obtain ⟨fq, hcount, hcounted⟩ :=
    @countOverlimit_releases α numTins t head.fq victim _ head.oom hreleases
      ((hreleases.links.tin_eq victim).trans htin)
  have hframe : fq.backlog = dropped.2.backlog ∧
      fq.memoryUsage = dropped.2.memoryUsage ∧
      fq.limit = dropped.2.limit ∧
      fq.memoryLimit = dropped.2.memoryLimit := countOverlimit_frame hcount
  refine ⟨⟨fq, head.oom && decide (fq.memoryUsage > fq.memoryLimit),
      head.freed ++ dropped.1.map fun skb => (victim, skb)⟩, ?_,
    ⟨hcounted.good, ?_, ?_, ?_⟩,
    ⟨hover, victim, dropped.1, hdrop, rfl, hmax⟩, ?_⟩
  · rw [round, if_pos (hsound.over_iff.mpr hover)]
    simp only [hfattest, hflow, if_neg hdrop, hcount]
  · exact (hframe.2.2.1.trans hlimit).trans hsound.limit_eq
  · exact (hframe.2.2.2.trans hmemoryLimit).trans hsound.memoryLimit_eq
  · -- memory only shrinks, so a flag that is off stays right
    have hlimitEq := hsound.memoryLimit_eq
    rw [hsound.oom_eq, ← Bool.decide_and, decide_eq_decide]
    simp only [hframe.2.1, hframe.2.2.2]
    omega
  · have hlength := List.length_pos_iff.mpr hdrop
    rw [hframe.1]
    omega

theorem Sound.round (hsound : head.Sound numTins limit memoryLimit)
    (hround : head.round = .inr next) :
    next.Sound numTins limit memoryLimit ∧ Drops numTins head next ∧
      next.fq.backlog < head.fq.backlog := by
  by_cases hover : head.Over
  · obtain ⟨after, hafter, hrest⟩ := hsound.round_drops hover
    rw [hround] at hafter
    cases hafter
    exact hrest
  · rw [hsound.round_done hover] at hround
    cases hround

theorem Sound.reached {start : DropHead α}
    (hsound : start.Sound numTins limit memoryLimit)
    (hreached : FuelLoop.Reached DropHead.round start head) :
    head.Sound numTins limit memoryLimit :=
  hreached.invariant _ hsound fun _ _ _ hhead hround => (hhead.round hround).1

theorem Sound.freed {start : DropHead α}
    (hsound : start.Sound numTins limit memoryLimit)
    (hreached : FuelLoop.Reached DropHead.round start head)
    (hfreed : head.freed ≠ start.freed) : start.Over := by
  by_contra hover
  have hdone := hsound.round_done hover
  have hsame : head = start := by
    apply hreached.invariant (fun head => head = start) rfl
    intro st next _ heq hround
    rw [heq, hdone] at hround
    cases hround
  exact hfreed (congrArg DropHead.freed hsame)

end DropHead

theorem foldl_queueSkb_params (t : ℕ) (id : FqFlowId)
    (skbs : List (FqSkb α)) (fq : Fq α) :
    (skbs.foldl (Fq.queueSkb t id) fq).limit = fq.limit ∧
      (skbs.foldl (Fq.queueSkb t id) fq).memoryLimit = fq.memoryLimit := by
  induction skbs generalizing fq with
  | nil => exact ⟨rfl, rfl⟩
  | cons skb rest ih => exact ih (Fq.queueSkb t id fq skb)

theorem enqueueSkbs_params (fq : Fq α) (t idx : ℕ)
    (skbs : List (FqSkb α)) :
    (fq.enqueueSkbs t idx skbs).2.limit = fq.limit ∧
      (fq.enqueueSkbs t idx skbs).2.memoryLimit = fq.memoryLimit := by
  have hclassify : (fq.fqFlowClassify t idx).2.limit = fq.limit ∧
      (fq.fqFlowClassify t idx).2.memoryLimit = fq.memoryLimit := by
    simp only [Fq.fqFlowClassify]
    split <;> split <;> exact ⟨rfl, rfl⟩
  have hmark : ∀ (fq : Fq α) id, (fq.markBacklogged t id).limit = fq.limit ∧
      (fq.markBacklogged t id).memoryLimit = fq.memoryLimit := by
    intro fq id
    cases id with
    | hashed idx => exact ⟨rfl, rfl⟩
    | defaultFlow s =>
        simp only [Fq.markBacklogged]
        split <;> exact ⟨rfl, rfl⟩
  simp only [Fq.enqueueSkbs]
  rw [(FqRun.linkFlow_frame _ t _).2.2.2.1,
    (FqRun.linkFlow_frame _ t _).2.2.2.2,
    (foldl_queueSkb_params t _ skbs _).1,
    (foldl_queueSkb_params t _ skbs _).2]
  split
  · exact ⟨(hmark _ _).1.trans hclassify.1, (hmark _ _).2.trans hclassify.2⟩
  · exact hclassify

/-- `fq_tin_enqueue` before the first round of its loop. -/
def Fq.enqueued (fq : Fq α) (t idx : ℕ) (skbs : List (FqSkb α)) :
    DropHead α where
  fq := (fq.enqueueSkbs t idx skbs).2
  oom := decide ((fq.enqueueSkbs t idx skbs).2.memoryUsage >
    (fq.enqueueSkbs t idx skbs).2.memoryLimit)
  freed := []

theorem fqTinEnqueue_eq_run (rounds : ℕ) (fq : Fq α) (t idx : ℕ)
    (skbs : List (FqSkb α)) :
    fq.fqTinEnqueue rounds t idx skbs =
      (FuelLoop.run DropHead.round rounds (fq.enqueued t idx skbs)).join := by
  rw [← dropOverlimit_eq_run]
  exact Option.map_id'.symm

/-- For all limits the loop of `fq_tin_enqueue` ends below them, its rounds
take packets from a fattest flow only while a limit is exceeded, and nothing
is freed unless the new packets exceeded one. -/
theorem fq_enqueue_limits {numTins : ℕ} {flowsCnt : BitVec 32}
    {run : FqRun α} (hreach : FqRun.Reaches numTins flowsCnt run)
    {t : ℕ} (ht : t < numTins) (hash : BitVec 32) {skbs : List (FqSkb α)}
    (hne : skbs ≠ []) (hpos : ∀ skb ∈ skbs, 0 < skb.len)
    (hfits : Fits numTins run.fq skbs) (limit memoryLimit : ℕ) :
    let fq := { run.fq with limit := limit, memoryLimit := memoryLimit }
    let start := fq.enqueued t (fq.fqFlowIdx hash) skbs
    (∀ head next, FuelLoop.Reached DropHead.round start head →
      head.round = .inr next → DropHead.Drops numTins head next) ∧
    ∃ released, (∀ rounds, start.fq.backlog < rounds →
        fq.fqTinEnqueue rounds t (fq.fqFlowIdx hash) skbs =
          some released) ∧
      released.fq.backlog ≤ limit ∧
      released.fq.memoryUsage ≤ memoryLimit ∧
      (released.freed ≠ [] → start.Over) := by
  intro fq start
  have hgood : FqGood numTins fq :=
    hreach.good.good.congr rfl rfl (fun _ => ⟨rfl, rfl, rfl⟩) rfl rfl rfl rfl
  have hfits' : Fits numTins fq skbs :=
    ⟨hfits.bytes, hfits.packets, hfits.truesize⟩
  have hparams := enqueueSkbs_params fq t (fq.fqFlowIdx hash) skbs
  have hsound : start.Sound numTins limit memoryLimit := by
    constructor
    · exact (hgood.enqueueSkbs hne hpos hfits' ht
        (Fq.fqFlowIdx_lt hgood.flowsCnt_pos hash)).1
    · exact hparams.1
    · exact hparams.2
    · simp only [start, Fq.enqueued, hparams.2]
      rfl
  refine ⟨?_, ?_⟩
  · intro head next hreached hround
    exact ((hsound.reached hreached).round hround).2.1
  · obtain ⟨result, hresult⟩ : ∃ result,
        FuelLoop.run DropHead.round (start.fq.backlog + 1) start =
          some result := by
      apply FuelLoop.run_of_measure
        (fun head : DropHead α => head.fq.backlog) _
        (Nat.lt_succ_self _)
      intro head next hreached hround
      exact ((hsound.reached hreached).round hround).2.2
    obtain ⟨head, hreached, hdone⟩ := FuelLoop.reached_of_run hresult
    have hhead := hsound.reached hreached
    have hover : ¬head.Over := by
      intro hover
      obtain ⟨next, hnext, -⟩ := hhead.round_drops hover
      rw [hdone] at hnext
      cases hnext
    have hlast : result = some ⟨[], head.freed, head.fq⟩ :=
      Sum.inl.inj (hdone.symm.trans (hhead.round_done hover))
    have hlimits := not_or.mp hover
    rw [hhead.limit_eq, hhead.memoryLimit_eq] at hlimits
    refine ⟨⟨[], head.freed, head.fq⟩, ?_, not_lt.mp hlimits.1,
      not_lt.mp hlimits.2, hsound.freed hreached⟩
    intro rounds hrounds
    rw [fqTinEnqueue_eq_run, FuelLoop.run_mono hresult hrounds, hlast]
    rfl

/-! ## Two calls -/

/-- With a limit of one packet the first of two packets is dropped. -/
theorem fq_enqueue_limits_one :
    ∃ released : Fq.Released ℕ,
      ({ (fqInit 4#32 : Fq ℕ) with limit := 1, memoryLimit := 400 }
        ).fqTinEnqueue 3 1 2
          [FqRun.samplePacket 0, FqRun.samplePacket 1] = some released ∧
      released.fq.backlog ≤ 1 ∧ released.fq.memoryUsage ≤ 400 := by
  have hfits : Fits 2 (FqRun.initial 4#32 : FqRun ℕ).fq
      [FqRun.samplePacket 0, FqRun.samplePacket 1] := by
    constructor <;> decide +kernel
  have hlimits := fq_enqueue_limits
    (.start : FqRun.Reaches 2 4#32 (FqRun.initial 4#32 : FqRun ℕ))
    (by decide : 1 < 2) 0x80000000#32
    (List.cons_ne_nil _ _) (by decide) hfits 1 400
  obtain ⟨-, released, hreleased, hbacklog, hmemory, -⟩ := hlimits
  exact ⟨released, hreleased 3 (by decide +kernel), hbacklog, hmemory⟩

/-- A list of 65536 packets wraps the backlog of its flow to zero; no flow is
the fattest, and the call returns with the limit of 8192 exceeded. -/
theorem fq_limit_wraps :
    ∃ (skbs : List (FqSkb ℕ)) (released : Fq.Released ℕ),
      (∀ skb ∈ skbs, 0 < skb.len) ∧
      (fqInit 4096#32 : Fq ℕ).limit = 8192 ∧
      (fqInit 4096#32 : Fq ℕ).fqTinEnqueue 1 0
        ((fqInit 4096#32 : Fq ℕ).fqFlowIdx 0#32) skbs = some released ∧
      released.fq.limit = 8192 ∧ released.fq.backlog = 65536 := by
  obtain ⟨skbs, hskbs⟩ : ∃ skbs, skbs = List.replicate 65536
      FqRun.largePacket := ⟨_, rfl⟩
  obtain ⟨hqueue, hbacklog, hmemory, hpackets, hlimit, hmemoryLimit⟩ :=
    FqRun.enqueueSkbs_wraps 8192 (16 * 2 ^ 20) (fqInit 4096#32) rfl skbs
      hskbs
  have hidx : (fqInit 4096#32 : Fq ℕ).fqFlowIdx 0#32 = 0 := by
    decide +kernel
  refine ⟨skbs, ⟨[], [], ((fqInit 4096#32).enqueueSkbs 0 0 skbs).2⟩, ?_,
    rfl, ?_, hlimit, hpackets⟩
  · intro skb hskb
    rw [hskbs] at hskb
    rw [List.eq_of_mem_replicate hskb]
    decide
  · rw [hidx, Fq.fqTinEnqueue, Fq.dropOverlimit]
    have hover : ((fqInit 4096#32).enqueueSkbs 0 0 skbs).2.backlog >
        ((fqInit 4096#32).enqueueSkbs 0 0 skbs).2.limit := by
      rw [hpackets, hlimit]
      decide
    have hfattest :
        ((fqInit 4096#32).enqueueSkbs 0 0 skbs).2.fqFindFattestFlow =
          none := by
      cases hfound :
          ((fqInit 4096#32).enqueueSkbs 0 0 skbs).2.fqFindFattestFlow with
      | none => rfl
      | some id =>
          rcases foldl_fattest _ _ _ hfound with hnone | hmem
          · cases hnone
          · exact absurd (hbacklog id) hmem.2
    rw [if_pos (Or.inl hover), hfattest]

end IwlwifiStack
