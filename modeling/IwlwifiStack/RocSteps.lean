import IwlwifiStack.RocOrder

/-!
# What each call does to the list

Every function of the queue keeps the order of the list and the count of each
request.  Without hardware an entry that was announced or is to be aborted is
started, so the walks that stop at a waiting entry miss none of them.
-/

namespace IwlwifiStack

def RocWork.Settled (roc : RocWork) : Prop :=
  roc.notified = true ∨ roc.abort = true → roc.started = true

/-- What holds of the list between two calls. -/
structure RocGood (config : RocConfig) (loc : RocLocal) : Prop where
  ordered : RocOrdered loc.rocList
  counts : RocCounts loc.rocList loc.nextId loc.rocCookieCounter loc.log
  settled : config.hwRemainOnChannel = false →
    ∀ roc ∈ loc.rocList, roc.Settled

namespace RocGood

variable {config : RocConfig} {loc : RocLocal}

theorem tell (hgood : RocGood config loc) {rocs : List RocWork}
    {outputs : List RocOutput} (hmoves : RocMoves loc.rocList rocs outputs)
    (hordered : RocOrdered rocs)
    (hsettled : config.hwRemainOnChannel = false → ∀ roc ∈ rocs, roc.Settled) :
    RocGood config (loc.tell rocs outputs) :=
  ⟨hordered, hgood.counts.moves hmoves, hsettled⟩

theorem relist (hgood : RocGood config loc) {rocs : List RocWork}
    (hmoves : RocMoves loc.rocList rocs [])
    (hordered : RocOrdered rocs)
    (hsettled : config.hwRemainOnChannel = false → ∀ roc ∈ rocs, roc.Settled) :
    RocGood config { loc with rocList := rocs } := by
  have hcounts := hgood.counts.moves hmoves
  rw [List.append_nil] at hcounts
  exact ⟨hordered, hcounts, hsettled⟩

theorem tell_sublist (hgood : RocGood config loc) {rocs : List RocWork}
    {outputs : List RocOutput} (hmoves : RocMoves loc.rocList rocs outputs)
    (hsublist : rocs.Sublist loc.rocList) :
    RocGood config (loc.tell rocs outputs) :=
  hgood.tell hmoves (hgood.ordered.sublist hsublist)
    fun hsoftware roc hmem => hgood.settled hsoftware roc (hsublist.subset hmem)

end RocGood

/-! ## The walks keep announced and aborted entries started -/

theorem handleRocStarted_settled {roc : RocWork} (startTime : BitVec 64)
    (hsettled : roc.Settled) : (roc.handleRocStarted startTime).1.Settled := by
  unfold RocWork.handleRocStarted
  dsimp only
  split_ifs with hnotified
  · exact hsettled
  all_goals
    intro _
    rfl

theorem handleRocStarted_abort (roc : RocWork) (startTime : BitVec 64) :
    (roc.handleRocStarted startTime).1.abort = roc.abort := by
  unfold RocWork.handleRocStarted
  dsimp only
  split_ifs <;> rfl

theorem handleAllStarted_settled (startTime : BitVec 64) {rocs : List RocWork}
    (hsettled : ∀ roc ∈ rocs, roc.Settled) :
    ∀ roc ∈ (handleAllStarted startTime rocs).1, roc.Settled := by
  induction rocs with
  | nil => exact hsettled
  | cons roc rocs ih =>
      rw [List.forall_mem_cons] at hsettled
      rw [handleAllStarted, List.forall_mem_cons]
      exact ⟨handleRocStarted_settled startTime hsettled.1, ih hsettled.2⟩

theorem hwRocStartList_settled (startTime : BitVec 64) {rocs : List RocWork}
    (hsettled : ∀ roc ∈ rocs, roc.Settled) :
    ∀ roc ∈ (hwRocStartList startTime rocs).1, roc.Settled := by
  induction rocs with
  | nil => exact hsettled
  | cons roc rocs ih =>
      rw [hwRocStartList]
      dsimp only
      split_ifs with hstarted
      · exact hsettled
      · rw [List.forall_mem_cons] at hsettled ⊢
        have hbegun : ({ roc with hwBegun := true } : RocWork).Settled :=
          hsettled.1
        exact ⟨handleRocStarted_settled startTime hbegun, ih hsettled.2⟩

theorem handleAllStarted_slots (startTime : BitVec 64) {rocs : List RocWork}
    {sdata chan : ℕ} (hslot : ∀ roc ∈ rocs, roc.on sdata chan = true)
    (hnotified : ∀ roc ∈ rocs, roc.notified = false) :
    ∀ roc ∈ (handleAllStarted startTime rocs).1,
      roc.slot = (true, sdata, chan) := by
  induction rocs with
  | nil => simp [handleAllStarted]
  | cons roc rocs ih =>
      rw [List.forall_mem_cons] at hslot hnotified
      rw [handleAllStarted, List.forall_mem_cons]
      constructor
      · have hon := hslot.1
        simp only [RocWork.on, Bool.and_eq_true, decide_eq_true_eq] at hon
        rw [handleRocStarted_started startTime hnotified.1, hon.1, hon.2]
      · exact ih hslot.2 hnotified.2

/-- What a walk over the finished requests ends: the aborted ones, those the
hardware has begun and those whose time is over. -/
def RocWork.Over (config : RocConfig) (now : BitVec 64) (roc : RocWork) : Prop :=
  roc.abort = true ∨ roc.hwBegun = true ∨ roc.remaining config now ≤ 0

theorem endFinishedRocs_over (config : RocConfig) (now : BitVec 64)
    {rocs : List RocWork} (hordered : RocOrdered rocs) :
    ∀ roc ∈ (endFinishedRocs config now rocs).1, roc.started = true →
      ¬roc.Over config now := by
  induction rocs with
  | nil => simp [endFinishedRocs]
  | cons roc rocs ih =>
      have hrest := ih (RocOrdered.cons_iff.mp hordered).2
      rw [endFinishedRocs]
      dsimp only
      split_ifs with hwaits hended
      · intro behind hmem hstarted
        rw [hordered.waiting (by simpa using hwaits) behind hmem] at hstarted
        cases hstarted
      · exact hrest
      · rw [List.forall_mem_cons]
        refine ⟨?_, hrest⟩
        simp only [Bool.or_eq_true, decide_eq_true_eq, or_assoc] at hended
        exact fun _ => hended

theorem remaining_le_longMax (config : RocConfig) (now : BitVec 64)
    (roc : RocWork) : roc.remaining config now ≤ longMax := by
  have hlt := BitVec.toInt_lt
    (x := roc.startTime + config.msecsToJiffies roc.duration - now)
  simp only [RocWork.remaining, longMax] at hlt ⊢
  omega

theorem endFinishedRocs_idle {config : RocConfig} {now : BitVec 64}
    {rocs : List RocWork} (hordered : RocOrdered rocs)
    (hfinite : ∀ roc ∈ rocs, roc.started = true →
      roc.remaining config now ≠ longMax)
    (hidle : (endFinishedRocs config now rocs).2.1 = longMax) :
    ∀ roc ∈ (endFinishedRocs config now rocs).1, roc.started = false := by
  induction rocs with
  | nil => simp [endFinishedRocs]
  | cons roc rocs ih =>
      rw [List.forall_mem_cons] at hfinite
      have hrest := ih (RocOrdered.cons_iff.mp hordered).2 hfinite.2
      rw [endFinishedRocs] at hidle ⊢
      dsimp only at hidle ⊢
      split_ifs at hidle ⊢ with hwaits hended
      · exact hordered.waiting (by simpa using hwaits)
      · exact hrest hidle
      · have hleft := remaining_le_longMax config now roc
        have hbound : longMax ≤ roc.remaining config now :=
          hidle.symm.le.trans (min_le_left _ _)
        exact absurd (le_antisymm hleft hbound)
          (hfinite.1 (by simpa using hwaits))

/-! ## The place of a new request -/

/-- `ieee80211_coalesce_hw_started_roc` takes a request behind an entry that the
hardware has not begun. -/
def RocWork.holds (config : RocConfig) (now : BitVec 64) (duration : ℕ)
    (cur : RocWork) : Prop :=
  cur.hwBegun = false ∧ duration ≤ cur.duration ∧
    duration ≤ config.jiffiesToMsecs
      (cur.startTime + config.msecsToJiffies cur.duration - now)

theorem coalesceHwStartedRoc_cases {config : RocConfig} {now : BitVec 64}
    {new cur : RocWork} {coalesced : RocWork × List RocOutput}
    (hnotified : new.notified = false)
    (hcoalesce : coalesceHwStartedRoc config now new cur = some coalesced) :
    coalesced.1.slot = (true, new.sdata, new.chan) ∧
        coalesced.1.abort = new.abort ∨
      coalesced.1 = new ∧ cur.holds config now new.duration := by
  unfold coalesceHwStartedRoc at hcoalesce
  dsimp only at hcoalesce
  split_ifs at hcoalesce with hstarted hlonger hfits hbegun
  · cases hcoalesce
    exact Or.inl ⟨handleRocStarted_started now hnotified,
      handleRocStarted_abort _ now⟩
  · cases hcoalesce
    rw [Bool.not_eq_true] at hbegun
    simp only [hbegun, Bool.not_false, true_and, not_lt] at hlonger
    exact Or.inr ⟨rfl, hbegun, hlonger, not_lt.mp hfits⟩

/-- The new request goes on the list as `placed`, right behind `tmp`. -/
inductive QueuedBehind (config : RocConfig) (now : BitVec 64) (new : RocWork)
    (combineStarted : Bool) (front : List RocWork) (tmp : RocWork) :
    RocWork → Prop
  | waiting : tmp.started = false →
      QueuedBehind config now new combineStarted front tmp new
  | begun {placed : RocWork} : tmp.started = true →
      placed.slot = (true, new.sdata, new.chan) → placed.Settled →
      placed.abort = new.abort →
      QueuedBehind config now new combineStarted front tmp placed
  | coalesced : config.hwRemainOnChannel = true → combineStarted = true →
      tmp.started = true → tmp.holds config now new.duration →
      (∀ before ∈ front, before.on new.sdata new.chan = false) →
      QueuedBehind config now new combineStarted front tmp new

theorem QueuedBehind.later {config : RocConfig} {now : BitVec 64}
    {new tmp placed first : RocWork} {combineStarted combineLater : Bool}
    {front : List RocWork}
    (hbehind : QueuedBehind config now new combineLater front tmp placed)
    (hlater : combineLater = true →
      combineStarted = true ∧ first.on new.sdata new.chan = false) :
    QueuedBehind config now new combineStarted (first :: front) tmp placed := by
  cases hbehind with
  | waiting hwaits => exact .waiting hwaits
  | begun hstarted hslot hsettled habort =>
      exact .begun hstarted hslot hsettled habort
  | coalesced hhardware hcombine hstarted hholds hfront =>
      obtain ⟨hstill, hother⟩ := hlater hcombine
      exact .coalesced hhardware hstill hstarted hholds
        (List.forall_mem_cons.mpr ⟨hother, hfront⟩)

theorem queueRoc_behind {config : RocConfig} {now : BitVec 64} {new : RocWork}
    {combineStarted combined : Bool} {rocs result : List RocWork}
    {outputs : List RocOutput} (hnotified : new.notified = false)
    (habort : new.abort = false)
    (hqueue : queueRoc config now new combineStarted rocs =
      some (result, outputs, combined)) :
    ∃ front tmp placed back, rocs = front ++ tmp :: back ∧
      result = front ++ tmp :: placed :: back ∧
      tmp.on new.sdata new.chan = true ∧
      QueuedBehind config now new combineStarted front tmp placed := by
  have hsettled : new.Settled := by
    intro hflags
    rw [hnotified, habort] at hflags
    simp at hflags
  induction rocs generalizing combineStarted result with
  | nil => cases hqueue
  | cons first rocs ih =>
      have hlater : ∀ combineLater, (combineLater = true →
            combineStarted = true ∧ first.on new.sdata new.chan = false) →
          ((queueRoc config now new combineLater rocs).map fun queued =>
            (first :: queued.1, queued.2)) = some (result, outputs, combined) →
          ∃ front tmp placed back, first :: rocs = front ++ tmp :: back ∧
            result = front ++ tmp :: placed :: back ∧
            tmp.on new.sdata new.chan = true ∧
            QueuedBehind config now new combineStarted front tmp placed := by
        intro combineLater hcombine hmap
        obtain ⟨⟨queued, told, flag⟩, hqueued, heq⟩ :=
          Option.map_eq_some_iff.mp hmap
        cases heq
        obtain ⟨front, tmp, placed, back, hrocs, hresult, hon, hbehind⟩ :=
          ih hqueued
        exact ⟨first :: front, tmp, placed, back, by rw [hrocs]; rfl,
          by rw [hresult]; rfl, hon, hbehind.later hcombine⟩
      rw [queueRoc] at hqueue
      dsimp only at hqueue
      split_ifs at hqueue with hother hwaiting hcombine hsoftware hlong
      · rw [Bool.not_eq_true'] at hother
        exact hlater _ (fun hcombine => ⟨hcombine, hother⟩) hqueue
      · cases hqueue
        rw [Bool.not_eq_true'] at hwaiting
        exact ⟨[], first, new, rocs, rfl, rfl, by simpa using hother,
          .waiting hwaiting⟩
      · rw [Bool.not_eq_true'] at hcombine
        exact hlater _ (fun htrue => absurd htrue (by rw [hcombine]; simp)) hqueue
      · exact hlater _ (fun htrue => absurd htrue (by simp)) hqueue
      · cases hqueue
        exact ⟨[], first, _, rocs, rfl, rfl, by simpa using hother,
          .begun (by simpa using hwaiting)
            (handleRocStarted_started now hnotified)
            (handleRocStarted_settled now hsettled)
            (handleRocStarted_abort _ now)⟩
      · split at hqueue
        · rename_i coalesced hcoalesce
          cases hqueue
          refine ⟨[], first, coalesced.1, rocs, rfl, rfl,
            by simpa using hother, ?_⟩
          rcases coalesceHwStartedRoc_cases hnotified hcoalesce with
            ⟨hslot, habort⟩ | ⟨hplaced, hholds⟩
          · refine .begun (by simpa using hwaiting) hslot ?_ habort
            intro _
            exact congrArg Prod.fst hslot
          · rw [hplaced]
            exact .coalesced (by simpa using hsoftware) (by simpa using hcombine)
              (by simpa using hwaiting) hholds (by simp)
        · exact hlater _ (fun htrue => absurd htrue (by simp)) hqueue

namespace RocLocal

/-- The request goes behind the first entry without being started, and the
second entry is started. -/
def mixes (config : RocConfig) (now : BitVec 64) (loc : RocLocal)
    (request : RocRequest) : Prop :=
  config.hwRemainOnChannel = true ∧ request.freqOffset = false ∧
    ∃ first second rest, loc.rocList = first :: second :: rest ∧
      second.started = true ∧
      first.on request.sdata request.chan = true ∧
      first.holds config now (loc.newRoc request).duration

end RocLocal

namespace RocOrdered

theorem front_on {front back : List RocWork} {tmp : RocWork} {sdata chan : ℕ}
    (hordered : RocOrdered (front ++ tmp :: back)) (hstarted : tmp.started = true)
    (hon : tmp.on sdata chan = true) :
    ∀ before ∈ front, before.on sdata chan = true := by
  intro before hmem
  have hslot := (append_iff.mp hordered).2.2 before hmem tmp
    List.mem_cons_self hstarted
  simp only [RocWork.slot, Prod.mk.injEq] at hslot
  rw [RocWork.on, hslot.2.1, hslot.2.2]
  exact hon

theorem queueRoc {config : RocConfig} {now : BitVec 64} {loc : RocLocal}
    {request : RocRequest} {result : List RocWork} {outputs : List RocOutput}
    {combined : Bool} (hordered : RocOrdered loc.rocList)
    (hoffset : request.freqOffset = false)
    (hmeets : ¬loc.mixes config now request)
    (hqueue : queueRoc config now (loc.newRoc request) true loc.rocList =
      some (result, outputs, combined)) : RocOrdered result := by
  obtain ⟨front, tmp, placed, back, hrocs, hresult, hon, hbehind⟩ :=
    queueRoc_behind rfl rfl hqueue
  have hbefore : RocOrdered (front ++ tmp :: back) := by
    rw [← hrocs]
    exact hordered
  have hsuffix := (append_iff.mp hbefore).2.1
  rw [hresult]
  apply hbefore.insert
  · intro hstarted
    cases hbehind with
    | waiting hwaits => cases hstarted
    | begun htmp hslot =>
        simp only [RocWork.on, Bool.and_eq_true, decide_eq_true_eq] at hon
        rw [hslot, RocWork.slot, htmp, hon.1, hon.2]
    | coalesced => cases hstarted
  · intro hwaits behind hmem
    cases hbehind with
    | waiting htmp =>
        exact hsuffix.waiting htmp behind (List.mem_cons_of_mem _ hmem)
    | begun htmp hslot =>
        have hstarted : placed.started = true := congrArg Prod.fst hslot
        rw [hwaits] at hstarted
        cases hstarted
    | coalesced hhardware hcombine htmp hholds hfront =>
        -- all entries in front would be on the channel as well
        have hfirst : front = [] := by
          rw [List.eq_nil_iff_forall_not_mem]
          intro before hin
          have hnot := hfront before hin
          rw [hbefore.front_on htmp hon before hin] at hnot
          cases hnot
        subst hfirst
        cases back with
        | nil => cases hmem
        | cons second rest =>
            have hsecond : second.started = false := by
              by_contra hstarted
              rw [Bool.not_eq_false] at hstarted
              exact hmeets ⟨hhardware, hoffset, tmp, second, rest, hrocs,
                hstarted, hon, hholds⟩
            exact (cons_iff.mp hsuffix).2.waiting hsecond behind hmem

end RocOrdered

/-! ## Starting and ending -/

namespace RocGood

variable {config : RocConfig} {loc : RocLocal}

theorem start_parts {roc : RocWork} {rocs combined : List RocWork}
    (hgood : RocGood config loc) (hlist : loc.rocList = roc :: rocs)
    (hwaits : roc.started = false)
    (hcombined : ∀ tmp ∈ combined, tmp.slot = (true, roc.sdata, roc.chan)) :
    RocOrdered (combined ++
      loc.rocList.dropWhile fun tmp => tmp.on roc.sdata roc.chan) := by
  apply RocOrdered.of_slot hcombined
  intro tmp hmem
  have hordered := hgood.ordered
  have hin := (List.dropWhile_sublist _).subset hmem
  rw [hlist] at hordered hin
  exact hordered.waiting hwaits tmp hin

theorem combined_moves (change : RocWork → RocWork) (rocs : List RocWork)
    (meant : RocWork → Bool) (hname : ∀ tmp, (change tmp).name = tmp.name)
    (hframe : ∀ tmp, (change tmp).frame = tmp.frame)
    (hnotified : ∀ tmp, (change tmp).notified = tmp.notified) :
    RocMoves rocs ((rocs.takeWhile meant).map change ++ rocs.dropWhile meant)
      [] := by
  have hmoves := (RocMoves.map hname hframe hnotified (rocs.takeWhile meant)).append
    (RocMoves.refl (rocs.dropWhile meant))
  rwa [List.takeWhile_append_dropWhile] at hmoves

theorem combined_forall (change : RocWork → RocWork) {P : RocWork → Prop}
    {rocs : List RocWork} {meant : RocWork → Bool}
    (hchange : ∀ tmp ∈ rocs, meant tmp = true → P (change tmp)) :
    ∀ tmp ∈ (rocs.takeWhile meant).map change, P tmp := by
  intro tmp hmem
  obtain ⟨before, hbefore, rfl⟩ := List.mem_map.mp hmem
  exact hchange before ((List.takeWhile_sublist _).subset hbefore)
    (List.mem_takeWhile_imp hbefore)

theorem combined_slots {change : RocWork → RocWork} {rocs : List RocWork}
    {sdata chan : ℕ}
    (hchange : ∀ tmp, (change tmp).slot = (true, tmp.sdata, tmp.chan)) :
    ∀ tmp ∈ (rocs.takeWhile fun tmp => tmp.on sdata chan).map change,
      tmp.slot = (true, sdata, chan) := by
  refine combined_forall change (P := fun tmp => tmp.slot = (true, sdata, chan))
    ?_
  intro tmp _ hon
  simp only [RocWork.on, Bool.and_eq_true, decide_eq_true_eq] at hon
  rw [hchange, hon.1, hon.2]

theorem waiting_quiet {roc : RocWork} {rocs : List RocWork}
    (hgood : RocGood config loc) (hsoftware : config.hwRemainOnChannel = false)
    (hlist : loc.rocList = roc :: rocs) (hwaits : roc.started = false) :
    ∀ tmp ∈ loc.rocList, tmp.notified = false := by
  intro tmp hmem
  have hordered := hgood.ordered
  have hnot : tmp.started = false := by
    rw [hlist] at hordered hmem
    exact hordered.waiting hwaits tmp hmem
  by_contra hnotified
  rw [Bool.not_eq_false] at hnotified
  rw [hgood.settled hsoftware tmp hmem (Or.inl hnotified)] at hnot
  cases hnot

theorem startSoftware {roc : RocWork} {rocs : List RocWork}
    (hgood : RocGood config loc) (hsoftware : config.hwRemainOnChannel = false)
    (hlist : loc.rocList = roc :: rocs) (hwaits : roc.started = false)
    (now : BitVec 64) (onChannel : Bool) :
    RocGood config (loc.tell
      ((handleAllStarted now ((loc.rocList.takeWhile fun tmp =>
          tmp.on roc.sdata roc.chan).map fun tmp =>
            { tmp with onChannel := onChannel })).1 ++
        loc.rocList.dropWhile fun tmp => tmp.on roc.sdata roc.chan)
      (handleAllStarted now ((loc.rocList.takeWhile fun tmp =>
          tmp.on roc.sdata roc.chan).map fun tmp =>
            { tmp with onChannel := onChannel })).2) := by
  have hsettled := hgood.settled hsoftware
  have hquiet := hgood.waiting_quiet hsoftware hlist hwaits
  have hmoves := combined_moves (fun tmp => { tmp with onChannel := onChannel })
    loc.rocList (fun tmp => tmp.on roc.sdata roc.chan) (fun _ => rfl)
    (fun _ => rfl) fun _ => rfl
  have hstart := hmoves.trans ((handleAllStarted_moves now _).append
    (RocMoves.refl _))
  rw [List.nil_append, List.append_nil] at hstart
  apply hgood.tell hstart
  · apply hgood.start_parts hlist hwaits
    apply handleAllStarted_slots now
    · exact combined_forall _ fun tmp _ hon => hon
    · exact combined_forall _ fun tmp hmem _ => hquiet tmp hmem
  · intro _ tmp hmem
    rcases List.mem_append.mp hmem with hmem | hmem
    · refine handleAllStarted_settled now ?_ tmp hmem
      exact combined_forall _ fun tmp hin _ => hsettled tmp hin
    · exact hsettled tmp ((List.dropWhile_sublist _).subset hmem)

theorem startFirstRoc (hgood : RocGood config loc) (now : BitVec 64)
    (driverFails : Bool) :
    RocGood config (loc.startFirstRoc config now driverFails) := by
  unfold RocLocal.startFirstRoc
  cases hlist : loc.rocList with
  | nil => exact hgood
  | cons roc rocs =>
      dsimp only
      rw [← hlist]
      by_cases hstarted : roc.started = true
      · rw [if_pos hstarted]
        exact hgood
      rw [if_neg hstarted]
      rw [Bool.not_eq_true] at hstarted
      by_cases hhardware : config.hwRemainOnChannel = true
      · rw [if_pos hhardware]
        split_ifs with hfails
        · have hkept := hgood.relist
            (combined_moves
              (fun tmp => { tmp with started := true, abort := true })
              loc.rocList (fun tmp => tmp.on roc.sdata roc.chan)
              (fun _ => rfl) (fun _ => rfl) fun _ => rfl)
            (hgood.start_parts hlist hstarted (combined_slots fun _ => rfl))
            (fun hsoftware => absurd hhardware (by simp [hsoftware]))
          exact ⟨hkept.ordered, hkept.counts, hkept.settled⟩
        · exact hgood.relist
            (combined_moves (fun tmp => { tmp with started := true })
              loc.rocList (fun tmp => tmp.on roc.sdata roc.chan)
              (fun _ => rfl) (fun _ => rfl) fun _ => rfl)
            (hgood.start_parts hlist hstarted (combined_slots fun _ => rfl))
            (fun hsoftware => absurd hhardware (by simp [hsoftware]))
      · rw [if_neg hhardware]
        rw [Bool.not_eq_true] at hhardware
        have hbegun := hgood.startSoftware hhardware hlist hstarted now
          (roc.chan = loc.operatingChan && !loc.narrow)
        exact ⟨hbegun.ordered, hbegun.counts, hbegun.settled⟩

end RocGood

end IwlwifiStack
