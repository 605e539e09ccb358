import IwlwifiStack.RocSteps

/-!
# Every event keeps the queue

One preservation lemma for each function of the queue, and from them the step:
only a request that goes unstarted between two started entries is left out.
-/

namespace IwlwifiStack

/-- The condition on an event: no request goes unstarted between two started
ones, and `roc_work` does not run 2^63 - 1 jiffies before an end. -/
def RocMeets (config : RocConfig) (loc : RocLocal) : RocEvent → Prop
  | .request request now _ _ => ¬loc.mixes config now request
  | .rocWork now _ => config.hwRemainOnChannel = false →
      ∀ roc ∈ loc.rocList, roc.started = true →
        roc.remaining config now ≠ longMax
  | _ => True

namespace RocGood

variable {config : RocConfig} {loc : RocLocal}

theorem startNextRoc (hgood : RocGood config loc) (now : BitVec 64)
    (driverFails : Bool) :
    RocGood config (loc.startNextRoc config now driverFails) := by
  unfold RocLocal.startNextRoc
  cases hlist : loc.rocList with
  | nil => exact hgood
  | cons roc rocs =>
      dsimp only
      rw [← hlist]
      split_ifs
      · exact hgood
      · exact hgood
      · exact hgood.startFirstRoc now driverFails
      · exact ⟨hgood.ordered, hgood.counts, hgood.settled⟩

theorem endFinished (hgood : RocGood config loc) (now : BitVec 64) :
    RocGood config (loc.tell (endFinishedRocs config now loc.rocList).1
      (endFinishedRocs config now loc.rocList).2.2) :=
  hgood.tell_sublist (endFinishedRocs_moves config now loc.rocList)
    (endFinishedRocs_sublist config now loc.rocList)

theorem recalcSwWork (hgood : RocGood config loc) (now : BitVec 64) :
    RocGood config (loc.recalcSwWork config now).1 := by
  have hended := hgood.endFinished now
  unfold RocLocal.recalcSwWork
  dsimp only
  split_ifs
  · exact hended
  · exact ⟨hended.ordered, hended.counts, hended.settled⟩

theorem runRocWork (hgood : RocGood config loc) (now : BitVec 64)
    (driverFails : Bool) :
    RocGood config (loc.runRocWork config now driverFails) := by
  have hrecalc := hgood.recalcSwWork now
  unfold RocLocal.runRocWork
  split_ifs
  · exact hgood
  cases hlist : loc.rocList with
  | nil => exact hgood
  | cons roc rocs =>
      dsimp only
      split_ifs
      · exact hgood.startFirstRoc now driverFails
      · exact hrecalc
      · exact hrecalc.startNextRoc now driverFails
      · apply startNextRoc
        exact ⟨hrecalc.ordered, hrecalc.counts, hrecalc.settled⟩

theorem runHwRocStart (hgood : RocGood config loc) :
    RocGood config loc.runHwRocStart := by
  have htold := hgood.tell (hwRocStartList_moves loc.hwRocStartTime loc.rocList)
    (hgood.ordered.of_slots (hwRocStartList_slots loc.hwRocStartTime loc.rocList))
    fun hsoftware => hwRocStartList_settled _ (hgood.settled hsoftware)
  exact ⟨htold.ordered, htold.counts, htold.settled⟩

theorem flushHwRocStart (hgood : RocGood config loc) :
    RocGood config loc.flushHwRocStart := by
  unfold RocLocal.flushHwRocStart
  split_ifs
  · exact hgood.runHwRocStart
  · exact hgood

theorem runHwRocDone (hgood : RocGood config loc) (now : BitVec 64)
    (driverFails : Bool) :
    RocGood config (loc.runHwRocDone config now driverFails) := by
  have hended := hgood.endFinished now
  unfold RocLocal.runHwRocDone
  apply startNextRoc
  exact ⟨hended.ordered, hended.counts, hended.settled⟩

/-! ## Requests -/

theorem newRoc_fresh (loc : RocLocal) (request : RocRequest) (cookie : ℕ)
    (mgmtTx : Bool) (hone : NamesOne cookie mgmtTx)
    (hcancels : RocLocal.cancels cookie mgmtTx (loc.newRoc request) = true) :
    loc.rocCookieCounter < cookie ∧
      cookie ≤ (loc.accept request).rocCookieCounter := by
  obtain ⟨hcookie, hdummy⟩ := hone
  cases hmgmt : request.mgmt with
  | none =>
      cases mgmtTx <;>
        simp [RocLocal.cancels, RocLocal.newRoc, RocLocal.accept, hmgmt]
          at hcancels ⊢ <;> omega
  | some waits =>
      cases waits <;> cases mgmtTx <;>
        simp [RocLocal.cancels, RocLocal.newRoc, RocLocal.accept, hmgmt]
          at hcancels hdummy ⊢ <;> omega

theorem newRoc_frame (loc : RocLocal) (request : RocRequest) :
    (loc.newRoc request).frame =
      decide ((loc.newRoc request).mgmtTxCookie ≠ 0) := by
  cases hmgmt : request.mgmt with
  | none => simp [RocLocal.newRoc, hmgmt]
  | some waits =>
      cases waits <;> simp [RocLocal.newRoc, dummyCookie, hmgmt]

theorem accept_counts (hgood : RocGood config loc) (request : RocRequest)
    {placed : RocWork} (hname : placed.name = (loc.newRoc request).name)
    (hframe : placed.frame = (loc.newRoc request).frame)
    (hnotified : placed.notified = false) :
    RocCounts (placed :: loc.rocList) (loc.nextId + 1)
      (loc.accept request).rocCookieCounter loc.log := by
  have hlater : loc.rocCookieCounter ≤
      (loc.accept request).rocCookieCounter := by
    simp only [RocLocal.accept]
    split_ifs <;> omega
  have hcookie : placed.mgmtTxCookie = (loc.newRoc request).mgmtTxCookie :=
    congrArg (fun name => name.2.2) hname
  refine hgood.counts.accept (congrArg Prod.fst hname) hnotified ?_ hlater ?_
  · rw [hframe, hcookie]
    exact newRoc_frame loc request
  · intro cookie mgmtTx hone hcancels
    rw [cancels_of_name hname] at hcancels
    exact newRoc_fresh loc request cookie mgmtTx hone hcancels

theorem newRoc_settled (loc : RocLocal) (request : RocRequest) :
    (loc.newRoc request).Settled := by
  intro hflags
  simp [RocLocal.newRoc] at hflags

theorem addTail (hgood : RocGood config loc) (request : RocRequest)
    (placed : RocWork) (hname : placed.name = (loc.newRoc request).name)
    (hframe : placed.frame = (loc.newRoc request).frame)
    (hnotified : placed.notified = false) (hsettled : placed.Settled)
    (hplace : placed.started = false ∨ loc.rocList = []) :
    RocGood config
      { loc.accept request with rocList := loc.rocList ++ [placed] } := by
  constructor
  · rw [RocOrdered.append_iff]
    constructor
    · exact hgood.ordered
    constructor
    · exact List.pairwise_singleton _ _
    · intro before hbefore behind hmem hstarted
      rw [List.mem_singleton.mp hmem] at hstarted
      rcases hplace with hwaits | hempty
      · rw [hwaits] at hstarted
        cases hstarted
      · rw [hempty] at hbefore
        cases hbefore
  · exact (hgood.accept_counts request hname hframe hnotified).of_perm
      (List.perm_append_singleton placed loc.rocList).symm
  · intro hsoftware roc hmem
    rcases List.mem_append.mp hmem with hmem | hmem
    · exact hgood.settled hsoftware roc hmem
    · rw [List.mem_singleton.mp hmem]
      exact hsettled

theorem queued {request : RocRequest} {now : BitVec 64}
    {result : List RocWork} {outputs : List RocOutput} {combined : Bool}
    (hgood : RocGood config loc) (hoffset : request.freqOffset = false)
    (hmeets : ¬loc.mixes config now request)
    (hqueue : queueRoc config now (loc.newRoc request) true loc.rocList =
      some (result, outputs, combined)) :
    RocGood config ((loc.accept request).tell result outputs) := by
  constructor
  · exact hgood.ordered.queueRoc hoffset hmeets hqueue
  · exact (hgood.accept_counts request rfl rfl rfl).moves
      (queueRoc_moves hqueue)
  · intro hsoftware roc hmem
    obtain ⟨front, tmp, placed, back, hrocs, hresult, _, hbehind⟩ :=
      queueRoc_behind rfl rfl hqueue
    have hold := hgood.settled hsoftware
    have hplaced : placed.Settled := by
      cases hbehind with
      | waiting => exact newRoc_settled loc request
      | begun _ _ hsettled => exact hsettled
      | coalesced => exact newRoc_settled loc request
    change roc ∈ result at hmem
    rw [hresult] at hmem
    rw [hrocs] at hold
    simp only [List.mem_append, List.mem_cons] at hmem hold
    rcases hmem with hmem | rfl | rfl | hmem
    · exact hold roc (Or.inl hmem)
    · exact hold roc (Or.inr (Or.inl rfl))
    · exact hplaced
    · exact hold roc (Or.inr (Or.inr hmem))

theorem startRocWork {request : RocRequest} {now : BitVec 64}
    {driverFails busy : Bool} {after : RocLocal} (hgood : RocGood config loc)
    (hmeets : ¬loc.mixes config now request)
    (hstart : loc.startRocWork config now driverFails busy request =
      some after) : RocGood config after := by
  unfold RocLocal.startRocWork at hstart
  dsimp only at hstart
  split_ifs at hstart with hoffset hsupport hempty hhardware hfails
  · rw [Option.some.injEq] at hstart
    subst hstart
    have hadded := hgood.addTail request (loc.newRoc request) rfl rfl rfl
      (newRoc_settled loc request) (Or.inl rfl)
    rw [hempty.1] at hadded
    exact ⟨hadded.ordered, hadded.counts, hadded.settled⟩
  · rw [Option.some.injEq] at hstart
    subst hstart
    have hadded := hgood.addTail request
      { loc.newRoc request with started := true } rfl rfl rfl (fun _ => rfl)
      (Or.inr hempty.1)
    rw [hempty.1] at hadded
    exact hadded
  · cases hqueue : queueRoc config now (loc.newRoc request) true loc.rocList with
    | none =>
        rw [hqueue, Option.some.injEq] at hstart
        subst hstart
        exact hgood.addTail request _ rfl rfl rfl (newRoc_settled loc request)
          (Or.inl rfl)
    | some queued =>
        obtain ⟨result, outputs, combined⟩ := queued
        rw [hqueue] at hstart
        dsimp only at hstart
        rw [Option.some.injEq] at hstart
        subst hstart
        have hqueued := hgood.queued (by simpa using hoffset) hmeets hqueue
        split_ifs
        · exact hqueued.recalcSwWork now
        · exact hqueued

/-! ## Cancellation -/

theorem perm_remove {rocs : List RocWork} {roc : RocWork}
    (hnodup : (rocs.map RocWork.id).Nodup) (hmem : roc ∈ rocs) :
    (roc :: rocs.filter fun tmp => tmp.id ≠ roc.id).Perm rocs := by
  induction rocs with
  | nil => cases hmem
  | cons first rocs ih =>
      rw [List.map_cons, List.nodup_cons] at hnodup
      rcases List.mem_cons.mp hmem with rfl | hbehind
      · have hkeep : (rocs.filter fun tmp => tmp.id ≠ roc.id) = rocs := by
          rw [List.filter_eq_self]
          intro tmp htmp
          rw [decide_eq_true_eq]
          intro hsame
          exact hnodup.1 (hsame ▸ List.mem_map_of_mem htmp)
        rw [List.filter_cons_of_neg (by simp), hkeep]
      · have hother : first.id ≠ roc.id := by
          intro hsame
          exact hnodup.1 (hsame ▸ List.mem_map_of_mem hbehind)
        rw [List.filter_cons_of_pos (by simpa using hother)]
        exact (List.Perm.swap _ _ _).trans ((ih hnodup.2 hbehind).cons first)

theorem eq_of_id {roc tmp : RocWork} (hgood : RocGood config loc)
    (hroc : roc ∈ loc.rocList) (htmp : tmp ∈ loc.rocList)
    (hid : tmp.id = roc.id) : tmp = roc :=
  List.inj_on_of_nodup_map hgood.counts.nodup htmp hroc hid

theorem removeRoc {roc : RocWork} (hgood : RocGood config loc)
    (hmem : roc ∈ loc.rocList) :
    RocGood config (loc.tell (loc.rocList.filter fun tmp => tmp.id ≠ roc.id)
      roc.notifyDestroy) := by
  apply hgood.tell_sublist _ List.filter_sublist
  have hmoves := ((RocMoves.notifyDestroy roc).cons (RocMoves.refl _)).of_perm
    (perm_remove hgood.counts.nodup hmem)
  rwa [List.nil_append, List.append_nil] at hmoves

theorem abortRoc {roc : RocWork} (hgood : RocGood config loc)
    (hmem : roc ∈ loc.rocList) (hstarted : roc.started = true) :
    RocGood config { loc with
      rocList := loc.rocList.map fun tmp =>
        if tmp.id = roc.id then { tmp with abort := true } else tmp } := by
  apply hgood.relist
  · apply RocMoves.map
    all_goals
      intro tmp
      split_ifs <;> rfl
  · apply hgood.ordered.of_slots
    rw [List.map_map]
    apply List.map_congr_left
    intro tmp _
    rw [Function.comp_apply]
    split_ifs <;> rfl
  · intro hsoftware tmp htmp
    obtain ⟨before, hbefore, rfl⟩ := List.mem_map.mp htmp
    split_ifs with hid
    · intro _
      rw [hgood.eq_of_id hmem hbefore hid]
      exact hstarted
    · exact hgood.settled hsoftware before hbefore

theorem endStarted (hgood : RocGood config loc) :
    RocGood config (loc.tell (loc.rocList.dropWhile RocWork.started)
      ((loc.rocList.takeWhile RocWork.started).flatMap
        RocWork.notifyDestroy)) := by
  apply hgood.tell_sublist _ (List.dropWhile_sublist _)
  have hmoves := (RocMoves.notifyDestroyAll
    (loc.rocList.takeWhile RocWork.started)).append
    (RocMoves.refl (loc.rocList.dropWhile RocWork.started))
  rwa [List.takeWhile_append_dropWhile, List.nil_append, List.append_nil]
    at hmoves

theorem cancelRoc (hgood : RocGood config loc) (now : BitVec 64)
    (driverFails cancelFails : Bool) (cookie : ℕ) (mgmtTx : Bool) :
    RocGood config
      (loc.cancelRoc config now driverFails cancelFails cookie mgmtTx).1 := by
  have hflush := hgood.flushHwRocStart
  unfold RocLocal.cancelRoc
  by_cases hcookie : cookie = 0
  · rw [if_pos hcookie]
    exact hgood
  rw [if_neg hcookie]
  dsimp only
  cases hfound : loc.flushHwRocStart.found cookie mgmtTx with
  | none => exact hflush
  | some roc =>
      have hmem := List.mem_of_find?_eq_some hfound
      dsimp only
      split_ifs with hwaits hhardware hfails hended
      · exact hflush.removeRoc hmem
      · exact hflush
      · rw [List.append_nil]
        apply startNextRoc
        have hall := hflush.endStarted
        exact ⟨hall.ordered, hall.counts, hall.settled⟩
      · exact absurd (hflush.ordered.mem_takeWhile hmem (by simpa using hwaits))
          hended
      · have habort := hflush.abortRoc hmem (by simpa using hwaits)
        exact ⟨habort.ordered, habort.counts, habort.settled⟩

/-! ## Interface removal and reconfiguration -/

theorem purgeList_moves (config : RocConfig) (sdata : Option ℕ)
    (rocs : List RocWork) :
    RocMoves rocs (RocLocal.purgeList config sdata rocs).1
      (RocLocal.purgeList config sdata rocs).2.1 := by
  induction rocs with
  | nil => exact .refl []
  | cons roc rocs ih =>
      rw [RocLocal.purgeList]
      split_ifs
      · exact (RocMoves.refl [roc]).cons ih
      · have habort : RocMoves [roc] _ _ :=
          (RocMoves.refl [{ roc with abort := true }]).change rfl rfl rfl
        exact habort.cons ih
      · exact (RocMoves.notifyDestroy roc).cons ih

theorem purgeList_slots (config : RocConfig) (sdata : Option ℕ)
    (rocs : List RocWork) :
    ((RocLocal.purgeList config sdata rocs).1.map RocWork.slot).Sublist
      (rocs.map RocWork.slot) := by
  induction rocs with
  | nil => exact List.Sublist.refl _
  | cons roc rocs ih =>
      rw [RocLocal.purgeList]
      split_ifs
      · exact ih.cons_cons _
      · exact ih.cons_cons _
      · exact ih.cons _

theorem purgeList_settled (config : RocConfig) (sdata : Option ℕ)
    {rocs : List RocWork} (hsettled : ∀ roc ∈ rocs, roc.Settled) :
    ∀ roc ∈ (RocLocal.purgeList config sdata rocs).1, roc.Settled := by
  induction rocs with
  | nil => exact hsettled
  | cons roc rocs ih =>
      rw [List.forall_mem_cons] at hsettled
      rw [RocLocal.purgeList]
      split_ifs with hother hkept
      · exact List.forall_mem_cons.mpr ⟨hsettled.1, ih hsettled.2⟩
      · exact List.forall_mem_cons.mpr ⟨fun _ => hkept.1, ih hsettled.2⟩
      · exact ih hsettled.2

theorem purged (hgood : RocGood config loc) (sdata : Option ℕ) :
    RocGood config (loc.tell (RocLocal.purgeList config sdata loc.rocList).1
      (RocLocal.purgeList config sdata loc.rocList).2.1) :=
  hgood.tell (purgeList_moves config sdata loc.rocList)
    (List.Pairwise.sublist (purgeList_slots config sdata loc.rocList)
      hgood.ordered)
    fun hsoftware => purgeList_settled config sdata (hgood.settled hsoftware)

theorem rocPurge (hgood : RocGood config loc) (now : BitVec 64)
    (driverFails : Bool) (sdata : Option ℕ) :
    RocGood config (loc.rocPurge config now driverFails sdata) := by
  have hpurged := hgood.purged sdata
  unfold RocLocal.rocPurge
  dsimp only
  split_ifs
  · exact hpurged.runRocWork now driverFails
  · exact hpurged

theorem reconfigRoc (hgood : RocGood config loc) (now : BitVec 64)
    (doneFails driverFails : Bool) :
    RocGood config (loc.reconfigRoc config now doneFails driverFails) := by
  have hwalk : ∀ {loc : RocLocal}, RocGood config loc →
      config.hwRemainOnChannel = true →
      RocGood config (loc.tell (RocLocal.reconfigList loc.rocList).1
        (RocLocal.reconfigList loc.rocList).2) := by
    intro loc hloc hhardware
    exact hloc.tell (reconfigList_moves loc.rocList)
      (reconfigList_ordered hloc.ordered)
      fun hsoftware => absurd hhardware (by simp [hsoftware])
  have hflush := hgood.flushHwRocStart
  unfold RocLocal.reconfigRoc
  by_cases hhardware : config.hwRemainOnChannel = true
  · rw [if_neg (by simp [hhardware])]
    dsimp only
    split_ifs
    · exact (hwalk (hflush.runHwRocDone now doneFails) hhardware).startNextRoc now
        driverFails
    · exact (hwalk hflush hhardware).startNextRoc now driverFails
  · rw [if_pos (by simp [hhardware])]
    exact hgood

theorem perform {event : RocEvent} {after : RocLocal}
    (hgood : RocGood config loc)
    (hmeets : RocMeets config loc event)
    (hperform : loc.perform config event = some after) :
    RocGood config after := by
  cases event with
  | request request now driverFails busy =>
      simp only [RocLocal.perform] at hperform
      cases hstart : loc.startRocWork config now driverFails busy request with
      | none =>
          rw [hstart] at hperform
          cases hperform
          exact hgood
      | some started =>
          rw [hstart] at hperform
          cases hperform
          exact hgood.startRocWork hmeets hstart
  | cancel cookie mgmtTx now driverFails cancelFails =>
      cases hperform
      exact hgood.cancelRoc now driverFails cancelFails cookie mgmtTx
  | readyOnChannel now =>
      cases hperform
      exact ⟨hgood.ordered, hgood.counts, hgood.settled⟩
  | remainOnChannelExpired =>
      cases hperform
      exact ⟨hgood.ordered, hgood.counts, hgood.settled⟩
  | hwRocStart =>
      simp only [RocLocal.perform] at hperform
      split_ifs at hperform
      cases hperform
      exact hgood.runHwRocStart
  | hwRocDone now driverFails =>
      simp only [RocLocal.perform] at hperform
      split_ifs at hperform
      cases hperform
      exact hgood.runHwRocDone now driverFails
  | rocWork now driverFails =>
      simp only [RocLocal.perform] at hperform
      split_ifs at hperform
      cases hperform
      apply runRocWork
      exact ⟨hgood.ordered, hgood.counts, hgood.settled⟩
  | startNextRoc now driverFails =>
      cases hperform
      exact hgood.startNextRoc now driverFails
  | setOperating chan narrow =>
      cases hperform
      exact ⟨hgood.ordered, hgood.counts, hgood.settled⟩
  | setReconfig inReconfig =>
      cases hperform
      exact ⟨hgood.ordered, hgood.counts, hgood.settled⟩
  | reconfig now doneFails driverFails =>
      cases hperform
      exact hgood.reconfigRoc now doneFails driverFails
  | purge sdata now driverFails =>
      cases hperform
      exact hgood.rocPurge now driverFails sdata
  | mgmtTxCookie =>
      cases hperform
      exact ⟨hgood.ordered, hgood.counts.mono (Nat.le_succ _), hgood.settled⟩

end RocGood

end IwlwifiStack
