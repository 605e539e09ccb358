import IwlwifiStack.PsBufferAccounting

/-!
# The limit of the buffered frames

Buffering makes room first when the limit is reached; everything else leaves
the total right and does not raise it.  While the purge finds no station with
frames in two access categories, the total is the number of buffered frames in
every state, and at most the limit.
-/

namespace IwlwifiStack

open ListSums

/-! ## Delivery -/

/-- Frames taken from a station come off the total. -/
structure PsGet.Settled (before after : PsGet) : Prop where
  balance : after.total - after.sta.buffered =
    before.total - before.sta.buffered
  total : after.total ≤ before.total

theorem PsGet.Settled.trans {first second third : PsGet}
    (hfirst : first.Settled second) (hsecond : second.Settled third) :
    first.Settled third :=
  ⟨hsecond.balance.trans hfirst.balance, hsecond.total.trans hfirst.total⟩

theorem PsGet.fromAc_settled (ac : PsAc) (nFrames : ℕ) (get : PsGet) :
    get.Settled (fromAc ac nFrames get).1 := by
  induction nFrames generalizing get with
  | zero => exact ⟨rfl, le_refl _⟩
  | succ nFrames ih =>
      rw [fromAc]
      cases hfiltered : get.sta.txFiltered ac with
      | cons frame rest =>
          have hrest := ih
            { get with
              sta := get.sta.setTxFiltered ac rest
              frames := get.frames ++ [frame] }
          exact ⟨hrest.balance, hrest.total⟩
      | nil =>
          dsimp only
          cases hbuffered : get.sta.psTxBuf ac with
          | nil => exact ⟨rfl, le_refl _⟩
          | cons frame rest =>
              have hrest := ih
                { get with
                  sta := get.sta.setPsTxBuf ac rest
                  total := get.total - 1
                  frames := get.frames ++ [frame] }
              have hbalance := hrest.balance
              have htotal := hrest.total
              rw [PsSta.buffered_setPsTxBuf, hbuffered, List.length_cons,
                Nat.cast_succ] at hbalance
              constructor
              · dsimp only at hbalance ⊢
                linarith
              · dsimp only at htotal ⊢
                linarith

theorem PsGet.fromAcs_settled (ignoredAcs : ℕ) (acs : List PsAc) (nFrames : ℕ)
    (get : PsGet) : get.Settled (fromAcs ignoredAcs acs nFrames get) := by
  induction acs generalizing nFrames get with
  | nil => exact ⟨rfl, le_refl _⟩
  | cons ac acs ih =>
      rw [fromAcs]
      by_cases hignored : ignoredAcs &&& acToQosMask ac ≠ 0
      · rw [if_pos hignored]
        exact ih nFrames get
      · rw [if_neg hignored]
        extract_lets tids got
        have htids : get.Settled tids := by
          dsimp only [tids]
          split_ifs <;> exact ⟨rfl, le_refl _⟩
        have hgot : get.Settled got.1 := by
          dsimp only [got]
          by_cases hrelease : tids.driverReleaseTids = 0
          · rw [if_pos hrelease]
            exact htids.trans (PsGet.fromAc_settled ac nFrames tids)
          · rw [if_neg hrelease]
            exact htids
        by_cases hmore : got.1.sta.txFiltered ac ≠ [] ∨ got.1.sta.psTxBuf ac ≠ []
        · rw [if_pos hmore]
          exact hgot
        · rw [if_neg hmore]
          exact hgot.trans (ih _ _)

namespace PsLocal

variable {loc : PsLocal}

theorem deliverResponse_settled (loc : PsLocal) (index nFrames ignoredAcs : ℕ) :
    loc.Settled (loc.deliverResponse index nFrames ignoredAcs).1 := by
  unfold deliverResponse
  cases hsta : loc.staList[index]? with
  | none => exact .refl loc
  | some sta =>
      obtain ⟨hbalance, htotal⟩ := PsGet.fromAcs_settled ignoredAcs (List.finRange 4)
        nFrames ⟨sta, loc.totalPsBuffered, [], 0⟩
      have hsum := sum_map_set PsSta.buffered
        (PsGet.fromAcs ignoredAcs (List.finRange 4) nFrames
          ⟨sta, loc.totalPsBuffered, [], 0⟩).sta hsta
      constructor
      · simp only [drift, buffered, setSta, hsum]
        linarith
      · exact htotal

theorem deliverPollResponse_settled (loc : PsLocal) (index : ℕ) :
    loc.Settled (loc.deliverPollResponse index).1 := by
  unfold deliverPollResponse
  split
  · exact .refl loc
  · exact loc.deliverResponse_settled _ _ _

theorem deliverUapsd_settled (loc : PsLocal) (index : ℕ) :
    loc.Settled (loc.deliverUapsd index).1 := by
  unfold deliverUapsd
  split
  · exact .refl loc
  · split_ifs
    · exact .refl loc
    · exact loc.deliverResponse_settled _ _ _

theorem changeNumStaPs_settled (loc : PsLocal) (index : ℕ) (change : ℤ) :
    loc.Settled (loc.changeNumStaPs index change) := by
  unfold changeNumStaPs
  cases hps : loc.interfaces[index]? with
  | none => exact .refl loc
  | some ps =>
      constructor
      · rw [drift_setInterface _ hps, sub_self, sub_zero]
      · exact le_refl _

theorem sum_psTxBuf (sta : PsSta) :
    ((List.finRange 4).map fun ac =>
      ((sta.psTxBuf ac).length : ℤ)).sum = sta.buffered := by
  rw [PsSta.buffered, Fin.sum_univ_def]

theorem deliverWakeup_settled (loc : PsLocal) (index : ℕ) :
    loc.Settled (loc.deliverWakeup index).1 := by
  unfold deliverWakeup
  cases hsta : loc.staList[index]? with
  | none => exact .refl loc
  | some sta =>
      dsimp only
      rw [sum_psTxBuf]
      have hnonneg := sta.buffered_nonneg
      obtain ⟨hdrift, htotal⟩ := changeNumStaPs_settled
        (loc.setSta index
          { sta with
            driverBufferedTids := 0
            txqBufferedTids := 0
            psDeliver := false
            txFiltered := fun _ => []
            psTxBuf := fun _ => [] }) sta.bss (-1)
      constructor
      · rw [drift_addTotal, hdrift, drift_setSta _ hsta,
          buffered_eq_zero_iff.mpr fun _ => rfl]
        ring
      · have hlower : (-sta.buffered : ℤ) ≤ 0 := by omega
        show _ + -sta.buffered ≤ loc.totalPsBuffered
        have hsame : (changeNumStaPs (loc.setSta index _) sta.bss
          (-1)).totalPsBuffered ≤ loc.totalPsBuffered := htotal
        omega

theorem getBufferedBc_settled (loc : PsLocal) (index unprepared : ℕ) :
    loc.Settled (loc.getBufferedBc index unprepared).1 := by
  unfold getBufferedBc
  cases hps : loc.interfaces[index]? with
  | none => exact .refl loc
  | some ps =>
      apply settled_setInterface hps
      · simp only [List.length_drop, List.length_take]
        omega
      · omega

/-! ## Expiry and removal -/

theorem cleanupExpireBuffered_settled (hz jiffies : ℕ) (acs : List PsAc)
    (sta : PsSta) :
    (cleanupExpireBuffered hz jiffies acs sta).1.buffered =
        sta.buffered + (cleanupExpireBuffered hz jiffies acs sta).2 ∧
      (cleanupExpireBuffered hz jiffies acs sta).2 ≤ 0 := by
  induction acs generalizing sta with
  | nil => exact ⟨(add_zero _).symm, le_refl _⟩
  | cons ac acs ih =>
      obtain ⟨hrest, hrestLe⟩ := ih (cleanupExpireBufferedAc hz jiffies sta ac).1
      have hfirst : (cleanupExpireBufferedAc hz jiffies sta ac).1.buffered =
          sta.buffered + (cleanupExpireBufferedAc hz jiffies sta ac).2 := by
        have hsplit := congrArg List.length (List.takeWhile_append_dropWhile
          (p := bufferExpired hz sta jiffies) (l := sta.psTxBuf ac))
        rw [List.length_append] at hsplit
        simp only [cleanupExpireBufferedAc]
        rw [PsSta.buffered_setPsTxBuf, PsSta.buffered_setTxFiltered]
        show sta.buffered - ((sta.psTxBuf ac).length : ℤ) + _ = _
        omega
      have hfirstLe : (cleanupExpireBufferedAc hz jiffies sta ac).2 ≤ 0 := by
        simp only [cleanupExpireBufferedAc]
        omega
      simp only [cleanupExpireBuffered]
      rw [hrest, hfirst]
      constructor
      · ring
      · omega

theorem staInfoCleanup_settled (loc : PsLocal) (jiffies : ℕ) :
    loc.Settled (loc.staInfoCleanup jiffies) := by
  have hsum : ∀ stas : List PsSta,
      ((stas.map (cleanupExpireBuffered loc.hz jiffies (List.finRange 4))).map
          fun cleaned => cleaned.1.buffered).sum =
        (stas.map PsSta.buffered).sum +
          ((stas.map (cleanupExpireBuffered loc.hz jiffies (List.finRange 4))).map
            Prod.snd).sum ∧
      ((stas.map (cleanupExpireBuffered loc.hz jiffies (List.finRange 4))).map
        Prod.snd).sum ≤ 0 := by
    intro stas
    induction stas with
    | nil => exact ⟨rfl, le_refl _⟩
    | cons sta stas ih =>
        obtain ⟨hsta, hstaLe⟩ :=
          cleanupExpireBuffered_settled loc.hz jiffies (List.finRange 4) sta
        simp only [List.map_cons, List.sum_cons]
        constructor <;> omega
  obtain ⟨hbuffered, hle⟩ := hsum loc.staList
  constructor
  · simp only [drift, buffered, staInfoCleanup, List.map_map] at hbuffered ⊢
    have hcomp : (PsSta.buffered ∘ Prod.fst ∘
        cleanupExpireBuffered loc.hz jiffies (List.finRange 4)) =
        (fun cleaned => cleaned.1.buffered) ∘
          cleanupExpireBuffered loc.hz jiffies (List.finRange 4) := rfl
    rw [hcomp, hbuffered]
    ring
  · show loc.totalPsBuffered + _ ≤ loc.totalPsBuffered
    omega

theorem cleanupSingleSta_settled (loc : PsLocal) (index : ℕ) :
    loc.Settled (loc.cleanupSingleSta index) := by
  unfold cleanupSingleSta
  cases hsta : loc.staList[index]? with
  | none => exact .refl loc
  | some sta =>
      dsimp only
      rw [sum_psTxBuf]
      have hnonneg := sta.buffered_nonneg
      have hgone : ({ loc with staList := loc.staList.eraseIdx index } :
          PsLocal).drift = loc.drift + sta.buffered := by
        simp only [drift, buffered, sum_map_eraseIdx PsSta.buffered hsta]
        ring
      split_ifs with hasleep
      · obtain ⟨hdrift, htotal⟩ := changeNumStaPs_settled
          { loc with staList := loc.staList.eraseIdx index } sta.bss (-1)
        constructor
        · rw [drift_addTotal, hdrift, hgone]
          ring
        · show _ + -sta.buffered ≤ loc.totalPsBuffered
          dsimp only at htotal
          omega
      · constructor
        · rw [drift_addTotal, hgone]
          ring
        · show loc.totalPsBuffered + -sta.buffered ≤ loc.totalPsBuffered
          omega

theorem stopAp_settled (loc : PsLocal) (index : ℕ) :
    loc.Settled (loc.stopAp index) := by
  unfold stopAp
  cases hps : loc.interfaces[index]? with
  | none => exact .refl loc
  | some ps =>
      apply settled_setInterface hps
      · simp only [List.length_nil]
        omega
      · omega

theorem stopVlan_settled (loc : PsLocal) (index dev : ℕ) :
    loc.Settled (loc.stopVlan index dev) := by
  unfold stopVlan
  cases hps : loc.interfaces[index]? with
  | none => exact .refl loc
  | some ps =>
      apply settled_setInterface hps
      · have hsplit := List.length_eq_length_filter_add
          (l := ps.bcBuf) fun frame => decide (frame.dev = dev)
        simp only [← decide_not] at hsplit
        simp only [ne_eq]
        omega
      · omega

/-! ## Buffering -/

theorem pushLimited_length (limit : ℕ) (queue : List PsFrame) (frame : PsFrame)
    (hlimit : 0 < limit) :
    ((pushLimited limit queue frame).1.length : ℤ) =
        queue.length + (pushLimited limit queue frame).2 ∧
      (pushLimited limit queue frame).2 ≤ 1 := by
  unfold pushLimited
  split_ifs with hfull
  · simp only [List.length_append, List.length_tail, List.length_singleton]
    omega
  · simp

def Buffers (loc : PsLocal) : PsEvent → Prop
  | .multicast index unbuffered frame =>
      (loc.multicastPsBuf index unbuffered frame).isSome
  | .unicast index _ unbuffered _ _ =>
      ∃ sta, loc.staList[index]? = some sta ∧ sta.asleep ∧ unbuffered = false
  | _ => False

def PurgesOneQueue (loc : PsLocal) (event : PsEvent) : Prop :=
  loc.Buffers event → (totalMaxTxBuffer : ℤ) ≤ loc.totalPsBuffered →
    ∀ sta ∈ loc.staList, sta.OneQueue

/-- The total is right and at most the limit. -/
structure Accounted (loc : PsLocal) : Prop where
  drift : loc.drift = 0
  limit : loc.totalPsBuffered ≤ totalMaxTxBuffer

theorem Accounted.settled {after : PsLocal} (haccounted : loc.Accounted)
    (hsettled : loc.Settled after) : after.Accounted :=
  ⟨hsettled.drift.trans haccounted.drift,
    hsettled.total.trans haccounted.limit⟩

theorem Accounted.push {change : ℤ} {after : PsLocal}
    (hdrift : loc.drift = 0)
    (hlimit : loc.totalPsBuffered < totalMaxTxBuffer) (hchange : change ≤ 1)
    (hafter : after.drift = loc.drift - change)
    (htotal : after.totalPsBuffered = loc.totalPsBuffered) :
    (after.addTotal change).Accounted := by
  constructor
  · rw [drift_addTotal, hafter, hdrift]
    ring
  · show after.totalPsBuffered + change ≤ _
    omega

theorem Accounted.multicastPsBuf {after : PsLocal} {index : ℕ}
    {unbuffered : Bool} {frame : PsFrame} (haccounted : loc.Accounted)
    (hone : (totalMaxTxBuffer : ℤ) ≤ loc.totalPsBuffered →
      ∀ sta ∈ loc.staList, sta.OneQueue)
    (hafter : loc.multicastPsBuf index unbuffered frame = some after) :
    after.Accounted := by
  obtain ⟨hdrift, hlimit⟩ :=
    makeRoom_total haccounted.drift hone haccounted.limit
  unfold PsLocal.multicastPsBuf at hafter
  split at hafter
  · cases hafter
  · split_ifs at hafter
    dsimp only at hafter
    split at hafter
    · cases hafter
    · rename_i ps hps
      cases hafter
      obtain ⟨hlength, hchange⟩ :=
        pushLimited_length apMaxBcBuffer ps.bcBuf frame (by decide)
      apply Accounted.push hdrift hlimit hchange
      · rw [drift_setInterface _ hps, hlength]
        ring
      · rfl

theorem Accounted.unicastPsBuf {index : ℕ} {ac : PsAc}
    {unbuffered woken : Bool} {frame : PsFrame} (haccounted : loc.Accounted)
    (hone : loc.PurgesOneQueue (.unicast index ac unbuffered woken frame)) :
    (loc.unicastPsBuf index ac unbuffered woken frame).1.Accounted := by
  unfold PsLocal.unicastPsBuf
  split
  · exact haccounted
  · rename_i sta hsta
    split_ifs with hsent hwoken
    · exact haccounted
    all_goals
      simp only [Bool.or_eq_true, Bool.not_eq_true', not_or,
        Bool.not_eq_false, Bool.not_eq_true] at hsent
      obtain ⟨hdrift, hlimit⟩ := makeRoom_total haccounted.drift
        (hone ⟨sta, hsta, hsent.1, hsent.2⟩) haccounted.limit
    · exact ⟨hdrift, hlimit.le⟩
    · dsimp only
      split
      · exact ⟨hdrift, hlimit.le⟩
      · rename_i sta hsta
        obtain ⟨hlength, hchange⟩ :=
          pushLimited_length staMaxTxBuffer (sta.psTxBuf ac) frame (by decide)
        apply Accounted.push hdrift hlimit hchange
        · rw [drift_setSta _ hsta, PsSta.buffered_setPsTxBuf, hlength]
          ring
        · rfl

theorem handleFilteredFrame_settled (loc : PsLocal) (index : ℕ) (ac : PsAc)
    (frame : PsFrame) : loc.Settled (loc.handleFilteredFrame index ac frame) := by
  unfold handleFilteredFrame
  cases hsta : loc.staList[index]? with
  | none => exact .refl loc
  | some sta =>
      dsimp only
      split_ifs
      · exact settled_setSta_same hsta rfl
      · exact .refl loc

theorem Accounted.perform {event : PsEvent} (haccounted : loc.Accounted)
    (hone : loc.PurgesOneQueue event) : (loc.perform event).1.Accounted := by
  cases event with
  | addInterface =>
      apply haccounted.settled
      constructor
      · simp [PsLocal.perform, PsLocal.drift, PsLocal.buffered]
      · exact le_refl _
  | addSta bss listenInterval beaconInt uapsdQueues maxSp =>
      apply haccounted.settled
      constructor
      · have hnew : (newSta bss listenInterval beaconInt uapsdQueues
            maxSp).buffered = 0 := buffered_eq_zero_iff.mpr fun _ => rfl
        simp [PsLocal.perform, PsLocal.drift, PsLocal.buffered, hnew]
      · exact le_refl _
  | setFlags index psSta psDriver psDeliver =>
      simp only [PsLocal.perform]
      cases hsta : loc.staList[index]? with
      | none => exact haccounted
      | some sta => exact haccounted.settled (settled_setSta_same hsta rfl)
  | setTids index driverBufferedTids txqBufferedTids =>
      simp only [PsLocal.perform]
      cases hsta : loc.staList[index]? with
      | none => exact haccounted
      | some sta => exact haccounted.settled (settled_setSta_same hsta rfl)
  | changeNumStaPs index change =>
      exact haccounted.settled (loc.changeNumStaPs_settled index change)
  | multicast index unbuffered frame =>
      simp only [PsLocal.perform]
      cases hbuf : loc.multicastPsBuf index unbuffered frame with
      | none => exact haccounted
      | some after =>
          apply haccounted.multicastPsBuf (hone _) hbuf
          show (loc.multicastPsBuf index unbuffered frame).isSome
          rw [hbuf]
          rfl
  | unicast index ac unbuffered woken frame =>
      exact haccounted.unicastPsBuf hone
  | filtered index ac frame =>
      exact haccounted.settled (loc.handleFilteredFrame_settled index ac frame)
  | pollResponse index =>
      exact haccounted.settled (loc.deliverPollResponse_settled index)
  | uapsd index => exact haccounted.settled (loc.deliverUapsd_settled index)
  | wakeup index => exact haccounted.settled (loc.deliverWakeup_settled index)
  | bufferedBc index unprepared =>
      exact haccounted.settled (loc.getBufferedBc_settled index unprepared)
  | cleanup jiffies =>
      exact haccounted.settled (loc.staInfoCleanup_settled jiffies)
  | removeSta index =>
      exact haccounted.settled (loc.cleanupSingleSta_settled index)
  | stopAp index => exact haccounted.settled (loc.stopAp_settled index)
  | stopVlan index dev =>
      exact haccounted.settled (loc.stopVlan_settled index dev)

end PsLocal

/-- In every state between operations the total is the number of frames on all
`bc_buf` and `ps_tx_buf` queues, not negative and at most the limit. -/
theorem ps_buffered_exact {hz : ℕ} {hostBroadcastPsBuffering : Bool}
    {loc : PsLocal}
    (hreach : ConditionedRun.Reachable PsLocal.step PsLocal.PurgesOneQueue
      (PsLocal.initial hz hostBroadcastPsBuffering) loc) :
    loc.totalPsBuffered = loc.buffered ∧ 0 ≤ loc.totalPsBuffered ∧
      loc.totalPsBuffered ≤ totalMaxTxBuffer := by
  have hinitial :
      (PsLocal.initial hz hostBroadcastPsBuffering).Accounted :=
    ⟨rfl, Int.natCast_nonneg _⟩
  have haccounted : loc.Accounted := hreach.invariant hinitial
    fun before event after output hbefore hone hnext => by
      simp only [PsLocal.step, Option.some.injEq] at hnext
      have hafter := hbefore.perform hone
      rw [hnext] at hafter
      exact hafter
  have hexact : loc.totalPsBuffered = loc.buffered :=
    sub_eq_zero.mp haccounted.drift
  exact ⟨hexact, hexact ▸ loc.buffered_nonneg, haccounted.limit⟩

instance (sta : PsSta) : Decidable sta.OneQueue :=
  inferInstanceAs (Decidable (∀ ac other : Fin 4, sta.psTxBuf ac ≠ [] → sta.psTxBuf other ≠ [] →
    ac = other))

/-- Eight sleeping stations with frames in one access category each, up to the limit, and one frame
more. -/
def queueEvents : List PsEvent :=
  (List.replicate 8 (.addSta 0 1 100 0 0)) ++
  ((List.range 8).map fun index => .setFlags index true false false) ++
  ([0, 4].flatMap fun base => (List.finRange 4).flatMap fun ac =>
    List.replicate staMaxTxBuffer (.unicast (base + ac.val) ac false false ⟨0, 0⟩)) ++
  [.unicast 7 (Fin.last 3) false false ⟨0, 0⟩]

/-- The purge drops a frame of each station before the last one is buffered. -/
theorem ps_buffered_exact_purged :
    ∃ loc : PsLocal, loc.buffered = 505 ∧ loc.totalPsBuffered = loc.buffered ∧
      0 ≤ loc.totalPsBuffered ∧ loc.totalPsBuffered ≤ totalMaxTxBuffer := by
  have hcounts : ((ConditionedRun.run (ConditionedRun.guarded PsLocal.step
      fun loc _ => ∀ sta ∈ loc.staList, sta.OneQueue) (PsLocal.initial 1 true)
      queueEvents).map fun last => last.1.buffered) = some 505 := by
    decide +kernel
  obtain ⟨last, hrun, hlast⟩ := Option.map_eq_some_iff.mp hcounts
  have hreach := ConditionedRun.reachable_of_guarded .start hrun
  exact ⟨last.1, hlast, ps_buffered_exact (hreach.mono fun _ _ hall _ _ => hall)⟩

/-- Two stations with frames in every access category, up to the limit, and one
frame more. -/
def crowdEvents : List PsEvent :=
  [.addSta 0 1 100 0 0, .addSta 0 1 100 0 0, .setFlags 0 true false false,
    .setFlags 1 true false false] ++
  ([0, 1].flatMap fun index => (List.finRange 4).flatMap fun ac =>
    List.replicate staMaxTxBuffer (.unicast index ac false false ⟨0, 0⟩)) ++
  [.unicast 0 (Fin.last 3) false false ⟨0, 0⟩]

/-- The purge loses count of the frames in the other access categories. -/
theorem ps_buffered_drifts :
    ∃ loc : PsLocal,
      ConditionedRun.Reachable PsLocal.step (fun _ _ => True)
        (PsLocal.initial 1 true) loc ∧
      loc.totalPsBuffered = 127 ∧ loc.buffered = 511 := by
  have hcounts : ((ConditionedRun.run PsLocal.step (PsLocal.initial 1 true)
      crowdEvents).map fun last =>
        (last.1.totalPsBuffered, last.1.buffered)) = some (127, 511) := by
    decide +kernel
  obtain ⟨last, hrun, hlast⟩ := Option.map_eq_some_iff.mp hcounts
  rw [Prod.mk.injEq] at hlast
  exact ⟨last.1, ConditionedRun.reachable_of_run .start hrun, hlast⟩

end IwlwifiStack
