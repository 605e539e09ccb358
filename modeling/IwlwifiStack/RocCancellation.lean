import IwlwifiStack.RocQueue

/-!
# The queue of remain-on-channel requests

The started entries are a prefix of `roc_list` on one interface and channel,
every request ends once, and a cancellation removes what it looks for, in every
run without a request that goes unstarted between two started entries.
-/

namespace IwlwifiStack

def RocLocal.Pending (config : RocConfig) (loc : RocLocal) : Prop :=
  config.hwRemainOnChannel = false →
    ∀ roc ∈ loc.rocList, roc.started = true → loc.rocWork = true

namespace RocLocal.Pending

variable {config : RocConfig} {loc : RocLocal}

theorem of_hardware (hhardware : config.hwRemainOnChannel = true) :
    loc.Pending config := by
  intro hsoftware
  rw [hhardware] at hsoftware
  cases hsoftware

theorem of_rocWork (hwork : loc.rocWork = true) : loc.Pending config :=
  fun _ _ _ _ => hwork

theorem of_waiting (hwaits : ∀ roc ∈ loc.rocList, roc.started = false) :
    loc.Pending config := by
  intro _ roc hmem hstarted
  rw [hwaits roc hmem] at hstarted
  cases hstarted

theorem of_slots (hpending : loc.Pending config) {after : RocLocal}
    (hslots : (after.rocList.map RocWork.slot).Sublist
      (loc.rocList.map RocWork.slot))
    (hwork : after.rocWork = loc.rocWork) : after.Pending config := by
  intro hsoftware roc hmem hstarted
  obtain ⟨before, hbefore, hslot⟩ :=
    List.mem_map.mp (hslots.subset (List.mem_map_of_mem hmem))
  have hsame : before.started = roc.started := congrArg Prod.fst hslot
  rw [hwork]
  exact hpending hsoftware before hbefore (hsame.trans hstarted)

theorem of_sublist (hpending : loc.Pending config) {after : RocLocal}
    (hsublist : after.rocList.Sublist loc.rocList)
    (hwork : after.rocWork = loc.rocWork) : after.Pending config :=
  hpending.of_slots (hsublist.map RocWork.slot) hwork

theorem startNextRoc (hpending : loc.Pending config) (now : BitVec 64)
    (driverFails : Bool) :
    (loc.startNextRoc config now driverFails).Pending config := by
  unfold RocLocal.startNextRoc
  cases hlist : loc.rocList with
  | nil => exact hpending
  | cons roc rocs =>
      dsimp only
      split_ifs with _ _ hhardware
      · exact hpending
      · exact hpending
      · exact of_hardware hhardware
      · exact of_rocWork rfl

theorem recalcSwWork (hpending : loc.Pending config) (now : BitVec 64) :
    (loc.recalcSwWork config now).1.Pending config := by
  unfold RocLocal.recalcSwWork
  dsimp only
  split_ifs
  · exact hpending.of_sublist (endFinishedRocs_sublist config now loc.rocList) rfl
  · exact of_rocWork rfl

theorem startFirstRoc {roc : RocWork} {rocs : List RocWork}
    (hsoftware : config.hwRemainOnChannel = false)
    (hlist : loc.rocList = roc :: rocs) (hwaits : roc.started = false)
    (now : BitVec 64) (driverFails : Bool) :
    (loc.startFirstRoc config now driverFails).Pending config := by
  apply of_rocWork
  unfold RocLocal.startFirstRoc
  rw [hlist]
  dsimp only
  rw [if_neg (by simp [hwaits]), if_neg (by simp [hsoftware])]

theorem runRocWork (hpending : loc.Pending config) (now : BitVec 64)
    (driverFails : Bool) :
    (loc.runRocWork config now driverFails).Pending config := by
  have hrecalc := hpending.recalcSwWork now
  unfold RocLocal.runRocWork
  split_ifs with hhardware
  · exact of_hardware hhardware
  rw [Bool.not_eq_true] at hhardware
  cases hlist : loc.rocList with
  | nil => exact hpending
  | cons roc rocs =>
      dsimp only
      split_ifs with hwaits
      · exact startFirstRoc hhardware hlist (by simpa using hwaits) now driverFails
      · exact hrecalc
      · exact hrecalc.startNextRoc now driverFails
      · apply startNextRoc
        exact hrecalc

theorem recalcSwWork_spent (hgood : RocGood config loc) {now : BitVec 64}
    (hfinite : ∀ roc ∈ loc.rocList, roc.started = true →
      roc.remaining config now ≠ longMax) :
    (loc.recalcSwWork config now).1.Pending config := by
  unfold RocLocal.recalcSwWork
  dsimp only
  split_ifs with hidle
  · exact of_waiting (endFinishedRocs_idle hgood.ordered hfinite hidle)
  · exact of_rocWork rfl

theorem runRocWork_spent (hgood : RocGood config loc) {now : BitVec 64}
    (hfinite : config.hwRemainOnChannel = false → ∀ roc ∈ loc.rocList,
      roc.started = true → roc.remaining config now ≠ longMax)
    (driverFails : Bool) :
    (loc.runRocWork config now driverFails).Pending config := by
  unfold RocLocal.runRocWork
  split_ifs with hhardware
  · exact of_hardware hhardware
  rw [Bool.not_eq_true] at hhardware
  have hrecalc := recalcSwWork_spent hgood (hfinite hhardware)
  cases hlist : loc.rocList with
  | nil =>
      apply of_waiting
      rw [hlist]
      simp
  | cons roc rocs =>
      dsimp only
      split_ifs with hwaits
      · exact startFirstRoc hhardware hlist (by simpa using hwaits) now driverFails
      · exact hrecalc
      · exact hrecalc.startNextRoc now driverFails
      · apply startNextRoc
        exact hrecalc

theorem runHwRocStart (hpending : loc.Pending config) :
    loc.runHwRocStart.Pending config :=
  hpending.of_slots
    (hwRocStartList_slots loc.hwRocStartTime loc.rocList ▸ List.Sublist.refl _) rfl

theorem flushHwRocStart (hpending : loc.Pending config) :
    loc.flushHwRocStart.Pending config := by
  unfold RocLocal.flushHwRocStart
  split_ifs
  · exact hpending.runHwRocStart
  · exact hpending

theorem startRocWork {request : RocRequest} {now : BitVec 64}
    {driverFails busy : Bool} {after : RocLocal} (hpending : loc.Pending config)
    (hstart : loc.startRocWork config now driverFails busy request =
      some after) : after.Pending config := by
  unfold RocLocal.startRocWork at hstart
  dsimp only at hstart
  split_ifs at hstart with hoffset hsupport hempty hhardware hfails
  · cases hstart
    exact of_rocWork rfl
  · cases hstart
    exact of_hardware (by simpa using hhardware)
  · cases hqueue : queueRoc config now (loc.newRoc request) true loc.rocList with
    | none =>
        rw [hqueue] at hstart
        cases hstart
        intro hsoftware roc hmem hstarted
        rcases List.mem_append.mp hmem with hmem | hmem
        · exact hpending hsoftware roc hmem hstarted
        · rw [List.mem_singleton.mp hmem] at hstarted
          cases hstarted
    | some queued =>
        obtain ⟨result, outputs, combined⟩ := queued
        rw [hqueue] at hstart
        cases hstart
        have hqueued : ((loc.accept request).tell result outputs).Pending
            config := by
          intro hsoftware roc hmem hstarted
          obtain ⟨front, tmp, placed, back, hrocs, hresult, _, hbehind⟩ :=
            queueRoc_behind rfl rfl hqueue
          have hold := hpending hsoftware
          change roc ∈ result at hmem
          rw [hresult] at hmem
          rw [hrocs] at hold
          simp only [List.mem_append, List.mem_cons] at hmem hold
          rcases hmem with hmem | rfl | rfl | hmem
          · exact hold roc (Or.inl hmem) hstarted
          · exact hold roc (Or.inr (Or.inl rfl)) hstarted
          · -- started on the spot, it is like the entry in front of it
            cases hbehind with
            | waiting => cases hstarted
            | begun htmp => exact hold tmp (Or.inr (Or.inl rfl)) htmp
            | coalesced => cases hstarted
          · exact hold roc (Or.inr (Or.inr hmem)) hstarted
        split_ifs
        · exact hqueued.recalcSwWork now
        · exact hqueued

theorem cancelRoc (hpending : loc.Pending config) (now : BitVec 64)
    (driverFails cancelFails : Bool) (cookie : ℕ) (mgmtTx : Bool) :
    (loc.cancelRoc config now driverFails cancelFails cookie mgmtTx).1.Pending
      config := by
  have hflush := hpending.flushHwRocStart
  unfold RocLocal.cancelRoc
  by_cases hcookie : cookie = 0
  · rw [if_pos hcookie]
    exact hpending
  rw [if_neg hcookie]
  dsimp only
  cases hfound : loc.flushHwRocStart.found cookie mgmtTx with
  | none => exact hflush
  | some roc =>
      dsimp only
      split_ifs with hwaits hhardware
      · exact hflush.of_sublist List.filter_sublist rfl
      · exact hflush
      · exact of_hardware hhardware
      · exact of_hardware hhardware
      · exact of_rocWork rfl

theorem perform {event : RocEvent} {after : RocLocal}
    (hgood : RocGood config loc) (hpending : loc.Pending config)
    (hmeets : RocMeets config loc event)
    (hperform : loc.perform config event = some after) :
    after.Pending config := by
  cases event with
  | request request now driverFails busy =>
      simp only [RocLocal.perform] at hperform
      cases hstart : loc.startRocWork config now driverFails busy request with
      | none =>
          rw [hstart] at hperform
          cases hperform
          exact hpending
      | some started =>
          rw [hstart] at hperform
          cases hperform
          exact hpending.startRocWork hstart
  | cancel cookie mgmtTx now driverFails cancelFails =>
      cases hperform
      exact hpending.cancelRoc now driverFails cancelFails cookie mgmtTx
  | readyOnChannel now =>
      cases hperform
      exact hpending
  | remainOnChannelExpired =>
      cases hperform
      exact hpending
  | hwRocStart =>
      simp only [RocLocal.perform] at hperform
      split_ifs at hperform
      cases hperform
      exact hpending.runHwRocStart
  | hwRocDone now driverFails =>
      simp only [RocLocal.perform] at hperform
      split_ifs at hperform
      cases hperform
      apply startNextRoc
      exact hpending.of_sublist
        (endFinishedRocs_sublist config now loc.rocList) rfl
  | rocWork now driverFails =>
      simp only [RocLocal.perform] at hperform
      split_ifs at hperform
      cases hperform
      have hrun : RocGood config { loc with rocWork := false } :=
        ⟨hgood.ordered, hgood.counts, hgood.settled⟩
      exact runRocWork_spent hrun hmeets driverFails
  | startNextRoc now driverFails =>
      cases hperform
      exact hpending.startNextRoc now driverFails
  | setOperating chan narrow =>
      cases hperform
      exact hpending
  | setReconfig inReconfig =>
      cases hperform
      exact hpending
  | reconfig now doneFails driverFails =>
      cases hperform
      cases hhardware : config.hwRemainOnChannel with
      | true => exact of_hardware hhardware
      | false =>
          rw [RocLocal.reconfigRoc, if_pos (by simp [hhardware])]
          exact hpending
  | purge sdata now driverFails =>
      cases hperform
      have hpurged : (loc.tell (RocLocal.purgeList config sdata loc.rocList).1
          (RocLocal.purgeList config sdata loc.rocList).2.1).Pending config :=
        hpending.of_slots (RocGood.purgeList_slots config sdata loc.rocList) rfl
      unfold RocLocal.rocPurge
      dsimp only
      split_ifs
      · exact hpurged.runRocWork now driverFails
      · exact hpurged
  | mgmtTxCookie =>
      cases hperform
      exact hpending

end RocLocal.Pending

/-! ## What a cancellation removes -/

def Gone (id : ℕ) (rocs : List RocWork) : Prop :=
  ∀ roc ∈ rocs, roc.id ≠ id

instance (id : ℕ) (rocs : List RocWork) : Decidable (Gone id rocs) :=
  inferInstanceAs (Decidable (∀ roc ∈ rocs, roc.id ≠ id))

theorem handleRocStarted_name (roc : RocWork) (startTime : BitVec 64) :
    (roc.handleRocStarted startTime).1.name = roc.name := by
  unfold RocWork.handleRocStarted
  dsimp only
  split_ifs <;> rfl

theorem handleAllStarted_ids (startTime : BitVec 64) (rocs : List RocWork) :
    (handleAllStarted startTime rocs).1.map RocWork.id =
      rocs.map RocWork.id := by
  induction rocs with
  | nil => rfl
  | cons roc rocs ih =>
      rw [handleAllStarted, List.map_cons, List.map_cons, ih,
        show (roc.handleRocStarted startTime).1.id = roc.id from
          congrArg Prod.fst (handleRocStarted_name roc startTime)]

theorem hwRocStartList_name (startTime : BitVec 64) {rocs : List RocWork}
    {roc : RocWork} (hmem : roc ∈ rocs) :
    ∃ begun ∈ (hwRocStartList startTime rocs).1, begun.name = roc.name := by
  induction rocs with
  | nil => cases hmem
  | cons first rocs ih =>
      rw [hwRocStartList]
      dsimp only
      split_ifs
      · exact ⟨roc, hmem, rfl⟩
      · rcases List.mem_cons.mp hmem with rfl | hmem
        · exact ⟨_, List.mem_cons_self,
            handleRocStarted_name { roc with hwBegun := true } startTime⟩
        · obtain ⟨begun, hbegun, hsame⟩ := ih hmem
          exact ⟨begun, List.mem_cons_of_mem _ hbegun, hsame⟩

namespace RocLocal

variable {config : RocConfig} {loc : RocLocal}

theorem found_flush {roc : RocWork} {cookie : ℕ} {mgmtTx : Bool}
    (hgood : RocGood config loc) (hone : NamesOne cookie mgmtTx)
    (hmem : roc ∈ loc.rocList) (hcancels : cancels cookie mgmtTx roc = true) :
    ∃ found, loc.flushHwRocStart.found cookie mgmtTx = some found ∧
      found.id = roc.id := by
  obtain ⟨begun, hbegun, hname⟩ : ∃ begun ∈ loc.flushHwRocStart.rocList,
      begun.name = roc.name := by
    unfold flushHwRocStart
    split_ifs
    · exact hwRocStartList_name loc.hwRocStartTime hmem
    · exact ⟨roc, hmem, rfl⟩
  have hbegunCancels := (cancels_of_name hname cookie mgmtTx).trans hcancels
  have hsome : (loc.flushHwRocStart.found cookie mgmtTx).isSome := by
    rw [found, List.find?_isSome]
    exact ⟨begun, hbegun, hbegunCancels⟩
  obtain ⟨found, hfound⟩ := Option.isSome_iff_exists.mp hsome
  have hsame := hgood.flushHwRocStart.counts.named cookie mgmtTx hone begun
    hbegun found (List.mem_of_find?_eq_some hfound) hbegunCancels
    (List.find?_some hfound)
  exact ⟨found, hfound, hsame.trans (congrArg Prod.fst hname)⟩

theorem startFirstRoc_ids (now : BitVec 64) (driverFails : Bool) :
    (loc.startFirstRoc config now driverFails).rocList.map RocWork.id =
      loc.rocList.map RocWork.id := by
  unfold startFirstRoc
  cases hlist : loc.rocList with
  | nil => rw [hlist]
  | cons roc rocs =>
      dsimp only
      rw [← hlist]
      have hparts := congrArg (List.map RocWork.id)
        (List.takeWhile_append_dropWhile
          (p := fun tmp : RocWork => tmp.on roc.sdata roc.chan)
          (l := loc.rocList))
      rw [List.map_append] at hparts
      by_cases hstarted : roc.started = true
      · rw [if_pos hstarted]
      rw [if_neg hstarted]
      by_cases hhardware : config.hwRemainOnChannel = true
      · rw [if_pos hhardware]
        split_ifs
        · rw [List.map_append, List.map_map]
          exact hparts
        · rw [List.map_append, List.map_map]
          exact hparts
      · rw [if_neg hhardware]
        dsimp only [tell]
        rw [List.map_append, handleAllStarted_ids, List.map_map]
        exact hparts

theorem startNextRoc_gone {id : ℕ} (hgone : Gone id loc.rocList)
    (now : BitVec 64) (driverFails : Bool) :
    Gone id (loc.startNextRoc config now driverFails).rocList := by
  have hids : (loc.startNextRoc config now driverFails).rocList.map RocWork.id =
      loc.rocList.map RocWork.id := by
    unfold startNextRoc
    cases hlist : loc.rocList with
    | nil => rw [hlist]
    | cons roc rocs =>
        dsimp only
        rw [← hlist]
        split_ifs
        · rfl
        · rfl
        · exact startFirstRoc_ids now driverFails
        · rfl
  intro roc hmem hid
  have hin : id ∈ loc.rocList.map RocWork.id := by
    rw [← hids, ← hid]
    exact List.mem_map_of_mem hmem
  obtain ⟨before, hbefore, heq⟩ := List.mem_map.mp hin
  exact hgone before hbefore heq

theorem endFinishedRocs_gone {roc : RocWork} (hgood : RocGood config loc)
    (hmem : roc ∈ loc.rocList) (hstarted : roc.started = true) {now : BitVec 64}
    (hover : roc.Over config now) :
    Gone roc.id (endFinishedRocs config now loc.rocList).1 := by
  intro tmp htmp hid
  have hin := (endFinishedRocs_sublist config now loc.rocList).subset htmp
  have hsame := hgood.eq_of_id hmem hin hid
  rw [hsame] at htmp
  exact endFinishedRocs_over config now hgood.ordered roc htmp hstarted hover

theorem runRocWork_ends {roc : RocWork} (hgood : RocGood config loc)
    (hsoftware : config.hwRemainOnChannel = false) (hmem : roc ∈ loc.rocList)
    (hstarted : roc.started = true) {now : BitVec 64}
    (hover : roc.Over config now) (driverFails : Bool) :
    Gone roc.id (loc.runRocWork config now driverFails).rocList := by
  have hrecalc : Gone roc.id (loc.recalcSwWork config now).1.rocList := by
    unfold recalcSwWork
    dsimp only
    split_ifs <;> exact endFinishedRocs_gone hgood hmem hstarted hover
  unfold runRocWork
  rw [if_neg (by simp [hsoftware])]
  cases hlist : loc.rocList with
  | nil =>
      rw [hlist] at hmem
      cases hmem
  | cons first rocs =>
      dsimp only
      split_ifs with hwaits
      · have hordered := hgood.ordered
        rw [hlist] at hordered hmem
        rw [hordered.waiting (by simpa using hwaits) roc hmem] at hstarted
        cases hstarted
      · exact hrecalc
      · exact startNextRoc_gone hrecalc now driverFails
      · apply startNextRoc_gone
        exact hrecalc

theorem runHwRocDone_ends {roc : RocWork} (hgood : RocGood config loc)
    (hmem : roc ∈ loc.rocList) (hstarted : roc.started = true) {now : BitVec 64}
    (hover : roc.Over config now) (driverFails : Bool) :
    Gone roc.id (loc.runHwRocDone config now driverFails).rocList := by
  unfold runHwRocDone
  apply startNextRoc_gone
  exact endFinishedRocs_gone hgood hmem hstarted hover

/-- Either the request is off the list, or without hardware it is marked and
the work is queued. -/
theorem cancelRoc_removes {found : RocWork} {cookie : ℕ} {mgmtTx : Bool}
    (hgood : RocGood config loc) (hcookie : cookie ≠ 0)
    (hfound : loc.flushHwRocStart.found cookie mgmtTx = some found)
    (now : BitVec 64) (driverFails : Bool) {cancelFails : Bool}
    (hcancel : config.hwRemainOnChannel = true → cancelFails = false) :
    (loc.cancelRoc config now driverFails cancelFails cookie mgmtTx).2 = true ∧
      (Gone found.id (loc.cancelRoc config now driverFails cancelFails cookie
          mgmtTx).1.rocList ∨
        config.hwRemainOnChannel = false ∧
          ∃ left ∈ (loc.cancelRoc config now driverFails cancelFails cookie
            mgmtTx).1.rocList,
            left.id = found.id ∧ left.started = true ∧ left.abort = true) := by
  have hflush := hgood.flushHwRocStart
  have hmem := List.mem_of_find?_eq_some hfound
  unfold cancelRoc
  rw [if_neg hcookie]
  dsimp only
  rw [hfound]
  dsimp only
  by_cases hwaits : found.started = true
  · rw [if_neg (by simp [hwaits])]
    by_cases hhardware : config.hwRemainOnChannel = true
    · rw [if_pos hhardware, if_neg (by simp [hcancel hhardware])]
      constructor
      · rfl
      apply Or.inl
      apply startNextRoc_gone
      intro roc hleft hid
      have hin := (List.dropWhile_sublist _).subset hleft
      have hnot := hflush.ordered.dropWhile_waiting roc hleft
      rw [hflush.eq_of_id hmem hin hid, hwaits] at hnot
      cases hnot
    · rw [if_neg hhardware]
      constructor
      · rfl
      apply Or.inr
      constructor
      · simpa using hhardware
      · refine ⟨{ found with abort := true }, ?_, rfl, hwaits, rfl⟩
        rw [List.mem_map]
        exact ⟨found, hmem, if_pos rfl⟩
  · rw [if_pos (by simpa using hwaits)]
    constructor
    · rfl
    apply Or.inl
    intro roc hleft
    simpa using (List.mem_filter.mp hleft).2

end RocLocal

/-! ## All runs -/

/-- What the queue guarantees in a state between two events: also that a request
ends when it is over, and that a cancellation removes the request it means. -/
structure RocQueueExact (config : RocConfig) (loc : RocLocal) : Prop where
  startedFirst : StartedPrefix loc.rocList
  ended : ∀ id, endedCount id loc.log =
    if id < loc.nextId ∧ Gone id loc.rocList then 1 else 0
  frame : ∀ roc, .expired roc ∈ loc.log →
    statusCount roc.id loc.log = (if roc.frame then 1 else 0) ∧
      transmitCount roc.id loc.log =
        if roc.mgmtTxCookie ≠ 0 ∧ roc.frame = false then 1 else 0
  announced : ∀ id, announcedCount id loc.log ≤ 1
  sound : ∀ output ∈ loc.log, output.Sound
  finished : ∀ roc ∈ loc.rocList, roc.started = true → ∀ now driverFails,
    roc.Over config now →
    if config.hwRemainOnChannel then
      Gone roc.id (RocLocal.runHwRocDone config now driverFails
        { loc with hwRocDone := true }).rocList
    else
      Gone roc.id (RocLocal.runRocWork config now driverFails
        { loc with rocWork := false }).rocList
  queued : config.hwRemainOnChannel = false → ∀ roc ∈ loc.rocList,
    roc.started = true → loc.rocWork = true
  cancelled : ∀ roc ∈ loc.rocList, ∀ cookie mgmtTx now driverFails cancelFails,
    NamesOne cookie mgmtTx → RocLocal.cancels cookie mgmtTx roc = true →
    (config.hwRemainOnChannel = true → cancelFails = false) →
    (loc.cancelRoc config now driverFails cancelFails cookie mgmtTx).2 = true ∧
      (Gone roc.id (loc.cancelRoc config now driverFails cancelFails cookie
          mgmtTx).1.rocList ∨
        config.hwRemainOnChannel = false ∧
          ∃ left ∈ (loc.cancelRoc config now driverFails cancelFails cookie
            mgmtTx).1.rocList,
            left.id = roc.id ∧ left.started = true ∧ left.abort = true)

theorem RocGood.exact {config : RocConfig} {loc : RocLocal}
    (hgood : RocGood config loc) (hpending : loc.Pending config) :
    RocQueueExact config loc := by
  constructor
  · exact hgood.ordered.startedPrefix
  · intro id
    have hended := hgood.counts.ended id
    have hlisted : listed id loc.rocList = 0 ↔ Gone id loc.rocList := by
      rw [listed, List.countP_eq_zero]
      simp only [decide_eq_true_eq, Gone, ne_eq]
    by_cases hgone : Gone id loc.rocList
    · rw [hlisted.mpr hgone] at hended
      simpa [hgone] using hended
    · have hsome : listed id loc.rocList ≠ 0 := fun hzero =>
        hgone (hlisted.mp hzero)
      rw [if_neg (by simp [hgone])]
      split_ifs at hended <;> omega
  · exact fun roc hmem => hgood.counts.frame_once hmem
  · intro id
    have hannounced := hgood.counts.announced id
    split_ifs at hannounced <;> omega
  · exact hgood.counts.sound
  · intro roc hmem hstarted now driverFails hover
    split_ifs with hhardware
    · have hdone : RocGood config { loc with hwRocDone := true } :=
        ⟨hgood.ordered, hgood.counts, hgood.settled⟩
      exact RocLocal.runHwRocDone_ends hdone hmem hstarted hover driverFails
    · have hrun : RocGood config { loc with rocWork := false } :=
        ⟨hgood.ordered, hgood.counts, hgood.settled⟩
      exact RocLocal.runRocWork_ends hrun (by simpa using hhardware) hmem
        hstarted hover driverFails
  · exact hpending
  · intro roc hmem cookie mgmtTx now driverFails cancelFails hone hcancels
      hcancel
    obtain ⟨found, hfound, hsame⟩ := RocLocal.found_flush hgood hone hmem hcancels
    rw [← hsame]
    exact RocLocal.cancelRoc_removes hgood hone.1 hfound now driverFails hcancel

theorem initial_good (config : RocConfig) (operatingChan : ℕ)
    (hwRocStartTime : BitVec 64) :
    RocGood config (RocLocal.initial operatingChan hwRocStartTime) := by
  constructor
  · exact List.Pairwise.nil
  · constructor
    · exact fun _ => rfl
    · exact fun _ => rfl
    · exact fun _ => rfl
    · exact fun _ => Nat.zero_le _
    · intro output hmem
      cases hmem
    · intro _ _ _ roc hmem
      cases hmem
    · intro _ _ _ roc hmem
      cases hmem
  · intro _ roc hmem
    cases hmem

/-- In every run whose events meet the condition the queue is exact. -/
theorem roc_queue_exact (config : RocConfig) (operatingChan : ℕ)
    (hwRocStartTime : BitVec 64) {loc : RocLocal}
    (hreach : ConditionedRun.Reachable (RocLocal.step config) (RocMeets config)
      (RocLocal.initial operatingChan hwRocStartTime) loc) :
    RocQueueExact config loc := by
  have hinvariant : RocGood config loc ∧ loc.Pending config := by
    apply hreach.invariant
    · constructor
      · exact initial_good config operatingChan hwRocStartTime
      · apply RocLocal.Pending.of_waiting
        intro roc hmem
        cases hmem
    · intro state event after output hgood hmeets hstep
      obtain ⟨next, hperform, heq⟩ := Option.map_eq_some_iff.mp hstep
      cases heq
      exact ⟨hgood.1.perform hmeets hperform, hgood.2.perform hgood.1 hmeets hperform⟩
  exact hinvariant.1.exact hinvariant.2

def hwRocConfig : RocConfig where
  hwRemainOnChannel := true
  emulateChanctx := false
  maxRemainOnChannelDuration := 5000
  msecsToJiffies := BitVec.ofNat 64
  jiffiesToMsecs := fun jiffies => jiffies.toNat % 2 ^ 32

def rocOn (chan duration : ℕ) : RocRequest where
  sdata := 0
  chan := chan
  freqOffset := false
  duration := duration
  mgmt := none
  type := 0

/-- A request that has ended, one whose frame was transmitted when it began, and
one that waits behind it. -/
theorem roc_queue_exact_begun :
    ∃ loc : RocLocal, loc.rocList.map RocWork.started = [true, false] ∧
      endedCount 0 loc.log = 1 ∧ transmitCount 1 loc.log = 1 ∧
      RocQueueExact hwRocConfig loc := by
  have hstart : ConditionedRun.Reachable (RocLocal.step hwRocConfig)
      (RocMeets hwRocConfig) (RocLocal.initial 1 0) (RocLocal.initial 1 0) :=
    .start
  have hfirst := hstart.after (.request (rocOn 1 100) 50 false false) []
    (by
      rintro ⟨_, _, first, second, rest, hlist, _⟩
      cases hlist) rfl
  have hbegun := (hfirst.after (.readyOnChannel 60) [] trivial rfl).after
    .hwRocStart [.ready _] trivial rfl
  have hframe := hbegun.after
    (.request { rocOn 5 100 with mgmt := some true } 70 false false) []
    (by
      rintro ⟨_, _, first, second, rest, hlist, _⟩
      cases hlist) rfl
  have hended := (hframe.after .remainOnChannelExpired [] trivial rfl).after
    (.hwRocDone 160 false) [.expired _] trivial rfl
  have hsent := (hended.after (.readyOnChannel 170) [] trivial rfl).after
    .hwRocStart [.transmit _] trivial rfl
  have hwaiting := hsent.after (.request (rocOn 1 100) 180 false false) []
    (by
      rintro ⟨_, _, first, second, rest, hlist, _⟩
      cases hlist) rfl
  exact ⟨_, by decide +kernel, by decide +kernel, by decide +kernel,
    roc_queue_exact hwRocConfig 1 0 hwaiting⟩

theorem StartedPrefix.waiting {rocs : List RocWork}
    (hfront : StartedPrefix rocs) :
    ∀ roc ∈ rocs.dropWhile RocWork.started, roc.started = false := by
  obtain ⟨started, waiting, hrocs, hstarted, hwaiting⟩ := hfront
  rw [hrocs, List.dropWhile_append_of_pos fun roc hmem => (hstarted roc hmem).1]
  intro roc hmem
  exact hwaiting roc ((List.dropWhile_sublist _).subset hmem)

/-- Two requests start together behind another one, and a third one goes between
them before the hardware has begun. -/
def mixedRequests (now : BitVec 64) : List RocEvent :=
  [.request (rocOn 1 100) now false false,
    .request (rocOn 5 100) now false false,
    .request (rocOn 5 100) now false false,
    .readyOnChannel now, .hwRocStart,
    .remainOnChannelExpired, .hwRocDone now false,
    .request (rocOn 5 20) now false false]

/-- The started entries are no prefix any more, and the cancellation of the last
one does not find it. -/
theorem roc_queue_mixed :
    ∃ loc : RocLocal,
      ConditionedRun.Reachable (RocLocal.step hwRocConfig) (fun _ _ => True)
        (RocLocal.initial 1 0) loc ∧
      ¬StartedPrefix loc.rocList ∧
      .warnFound ∈
        (loc.cancelRoc hwRocConfig 4294667296 false false 3 false).1.log := by
  have hrun : ((ConditionedRun.run (RocLocal.step hwRocConfig)
      (RocLocal.initial 1 0) (mixedRequests 4294667296)).map fun last =>
        ((last.1.rocList.dropWhile RocWork.started).map RocWork.started,
          decide (.warnFound ∈ (last.1.cancelRoc hwRocConfig 4294667296 false
            false 3 false).1.log))) = some ([false, true], true) := by
    decide +kernel
  obtain ⟨last, hlast, heq⟩ := Option.map_eq_some_iff.mp hrun
  rw [Prod.mk.injEq, decide_eq_true_eq] at heq
  refine ⟨last.1, ConditionedRun.reachable_of_run .start hlast, ?_, heq.2⟩
  intro hfront
  have hmem : true ∈
      (last.1.rocList.dropWhile RocWork.started).map RocWork.started := by
    rw [heq.1]
    simp
  obtain ⟨roc, hroc, hstarted⟩ := List.mem_map.mp hmem
  rw [hfront.waiting roc hroc] at hstarted
  cases hstarted

end IwlwifiStack
