import IwlwifiStack.ServicePeriodQueues

/-!
# How a service period ends

What is handed on for a sleeping station, and when More Data and EOSP are right in the last frame.
More Data is computed from the frames in software; what the driver and the TXQs have counts only
while nothing comes from software.
-/

namespace IwlwifiStack

variable {α : Type*}

/-! ## What is handed on -/

namespace SpAction

def pending : SpAction α → List (SpFrame α)
  | .addPending frames => frames
  | _ => []

def nulls : SpAction α → List SpMarks
  | .xmitNull _ marks => [marks]
  | _ => []

def sent : SpAction α → List SpMarks
  | .addPending frames => frames.map SpFrame.marks
  | .xmitNull _ marks => [marks]
  | _ => []

def byDriver : SpAction α → Bool
  | .releaseBufferedFrames .. => true
  | _ => false

end SpAction

namespace SpMarks

def eospBits (marks : SpMarks) : Bool × Option Bool := (marks.txStatusEosp, marks.qosEosp)

def EndsPeriod (marks : SpMarks) (reason : FrameReleaseType) : Prop :=
  marks.txStatusEosp = true ∧ (reason = .uapsd → marks.qosEosp = some true)

def handedOn (marks : SpMarks) (moreData : Bool) : SpMarks :=
  { marks with
    noPsBuffer := true
    psResponse := true
    moreData := moreData }

@[simp] theorem eospBits_handedOn (marks : SpMarks) (moreData : Bool) :
    (marks.handedOn moreData).eospBits = marks.eospBits := rfl

/-- The last frame from software. -/
def handedOnLast (marks : SpMarks) (reason : FrameReleaseType) (moreData : Bool) : SpMarks :=
  if reason ≠ .uapsd then
    { marks.handedOn moreData with txStatusEosp := true, reqTxStatus := true }
  else if marks.qosEosp.isSome then
    { marks.handedOn moreData with
      qosEosp := some true
      txStatusEosp := true
      reqTxStatus := true }
  else marks.handedOn true

end SpMarks

def endsItself (reason : FrameReleaseType) : Option (SpFrame α) → Bool
  | none => false
  | some skb => reason = .pspoll || skb.marks.qosEosp.isSome

section Last

variable {reason : FrameReleaseType} {last : SpFrame α}

theorem handedOnLast_moreData (moreData : Bool) :
    (last.marks.handedOnLast reason moreData).moreData = false ↔
      moreData = false ∧ endsItself reason (some last) = true := by
  unfold SpMarks.handedOnLast endsItself
  cases reason with
  | pspoll => simp [SpMarks.handedOn]
  | uapsd =>
      cases hqos : last.marks.qosEosp with
      | none => simp [SpMarks.handedOn, hqos]
      | some eosp => simp [SpMarks.handedOn, hqos]

theorem handedOnLast_ends (hends : endsItself reason (some last) = true) (moreData : Bool) :
    (last.marks.handedOnLast reason moreData).EndsPeriod reason := by
  unfold SpMarks.handedOnLast SpMarks.EndsPeriod
  unfold endsItself at hends
  cases reason with
  | pspoll => simp
  | uapsd =>
      have hqos : last.marks.qosEosp.isSome = true := by simpa using hends
      simp [hqos]

theorem handedOnLast_open (hopen : endsItself reason (some last) = false) (moreData : Bool) :
    (last.marks.handedOnLast reason moreData).eospBits = last.marks.eospBits ∧
      ¬(last.marks.handedOnLast reason moreData).EndsPeriod reason := by
  unfold SpMarks.handedOnLast SpMarks.EndsPeriod
  unfold endsItself at hopen
  cases reason with
  | pspoll => simp at hopen
  | uapsd =>
      have hqos : last.marks.qosEosp = none := by simpa using hopen
      simp [hqos, SpMarks.handedOn, SpMarks.eospBits]

end Last

theorem deliverFrames_append (reason : FrameReleaseType) (moreData : Bool)
    (earlier : List (SpFrame α)) (last : SpFrame α) (delivery : SpDelivery α) :
    (deliverFrames reason moreData (earlier ++ [last]) delivery).pending =
        delivery.pending ++
          earlier.map (fun skb => { skb with marks := skb.marks.handedOn true }) ++
          [{ last with marks := last.marks.handedOnLast reason moreData }] ∧
      (deliverFrames reason moreData (earlier ++ [last]) delivery).needNull =
        !endsItself reason (some last) := by
  induction earlier generalizing delivery with
  | nil =>
      rw [List.nil_append, deliverFrames]
      cases reason with
      | pspoll => simp [SpMarks.handedOnLast, SpMarks.handedOn, endsItself]
      | uapsd =>
          cases hqos : last.marks.qosEosp with
          | none => simp [SpMarks.handedOnLast, SpMarks.handedOn, endsItself, hqos]
          | some eosp => simp [SpMarks.handedOnLast, SpMarks.handedOn, endsItself, hqos]
  | cons skb earlier ih =>
      have hmore : (!(earlier ++ [last]).isEmpty) = true := by simp
      rw [List.cons_append, deliverFrames]
      dsimp only
      rw [hmore, if_pos rfl, Bool.or_true, (ih _).1, (ih _).2]
      constructor
      · rw [List.map_cons, List.append_assoc delivery.pending, List.singleton_append]
        rfl
      · rfl

/-! ## More Data -/

theorem SpSta.moreData_zero (sta : SpSta α) (ignoredAcs : ℕ) (reason : FrameReleaseType) :
    sta.moreData ignoredAcs reason 0 = true ↔
      (coveredAcs ignoredAcs).flatMap sta.queued ≠ [] := by
  have hnone : ¬hweight16Tids 0 > 1 := by decide
  rw [SpSta.moreData, decide_eq_false hnone, Bool.and_false, Bool.false_or, List.any_eq_true,
    ne_eq, List.flatMap_eq_nil_iff, not_forall]
  simp only [coveredAcs, List.mem_filter, SpSta.queued, List.append_eq_nil_iff, Bool.and_eq_true,
    decide_eq_true_eq, Bool.or_eq_true, Bool.not_eq_true', List.isEmpty_eq_false_iff]
  constructor
  · rintro ⟨ac, hmem, hcovered, hsome⟩
    exact ⟨ac, fun hnone => by tauto⟩
  · rintro ⟨ac, hsome⟩
    exact ⟨ac, by tauto⟩

def SpSta.backlog (sta : SpSta α) (ignoredAcs : ℕ) : List (SpFrame α) :=
  (coveredAcs ignoredAcs).flatMap sta.queued

/-! ## The two kinds of release -/

def SpSta.start (sta : SpSta α) : SpSta α := { sta with sp := true }

theorem SpSta.softwareTurn_start (sta : SpSta α) (acs : List PsAc) :
    sta.start.softwareTurn acs = sta.softwareTurn acs := by
  induction acs with
  | nil => rfl
  | cons ac acs ih =>
      rw [softwareTurn, softwareTurn, ih]
      rfl

theorem coveredAcs_nodup (ignoredAcs : ℕ) : (coveredAcs ignoredAcs).Nodup :=
  List.Nodup.filter _ (by decide)

def SpSta.nullMarks (sta : SpSta α) (reason : FrameReleaseType) : SpMarks where
  moreData := false
  qosEosp := if sta.wme then some (reason = .uapsd) else none
  txStatusEosp := true
  reqTxStatus := true
  noPsBuffer := true
  psResponse := true

/-- What is sent of the response without data. -/
structure NullResponse (sta : SpSta α) (env : SpEnv) (reason : FrameReleaseType)
    (actions : List (SpAction α)) : Prop where
  pending : actions.flatMap SpAction.pending = []
  sent : actions.flatMap SpAction.sent =
    if env.allocates && env.hasChanctx then [sta.nullMarks reason] else []
  nulls : actions.flatMap SpAction.nulls = actions.flatMap SpAction.sent
  byDriver : ∀ action ∈ actions, action.byDriver = false

theorem SpSta.sendNullResponse_spec (sta : SpSta α) (env : SpEnv) (tid : ℤ)
    (reason : FrameReleaseType) (callDriver : Bool) :
    NullResponse sta env reason (sta.sendNullResponse env tid reason callDriver false) := by
  unfold SpSta.sendNullResponse
  cases hallocates : env.allocates with
  | false =>
      constructor
      · rfl
      · rw [hallocates]
        rfl
      · rfl
      · simp
  | true =>
      cases hchanctx : env.hasChanctx <;> cases callDriver <;> constructor <;>
        simp [SpAction.pending, SpAction.sent, SpAction.nulls, SpAction.byDriver, hallocates,
          hchanctx, SpSta.nullMarks]

section Release

variable (sta : SpSta α) (total : ℤ) (nFrames ignoredAcs : ℕ) (reason : FrameReleaseType)
  (env : SpEnv)

/-- The outcome of a release from software: the first frames of the backlog. -/
structure SoftwareRelease (response : SpGet α × List (SpAction α)) (counts : PsAc → ℕ) : Prop where
  taken : response.1.sta = sta.start.dequeue counts
  outside : ∀ ac ∉ coveredAcs ignoredAcs, counts ac = 0
  parts : (sta.backlog ignoredAcs).take nFrames =
    (coveredAcs ignoredAcs).flatMap fun ac => (sta.queued ac).take (counts ac)
  left : response.1.sta.backlog ignoredAcs = (sta.backlog ignoredAcs).drop nFrames
  alone : (sta.backlog ignoredAcs).take nFrames = [] → NullResponse sta env reason response.2
  frames : ∀ earlier last, (sta.backlog ignoredAcs).take nFrames = earlier ++ [last] →
    ∃ tids num tid, response.2 =
      [.allowBufferedFrames tids num reason !((sta.backlog ignoredAcs).drop nFrames).isEmpty,
        .addPending (earlier.map (fun skb => { skb with marks := skb.marks.handedOn true }) ++
          [{ last with
            marks := last.marks.handedOnLast reason
              !((sta.backlog ignoredAcs).drop nFrames).isEmpty }])] ++
      (if !endsItself reason (some last) then
        sta.sendNullResponse env tid reason false false else []) ++ [.recalcTim]

theorem SpSta.deliverResponse_software
    (hturn : sta.softwareTurn (coveredAcs ignoredAcs) = true) :
    ∃ counts, SoftwareRelease sta nFrames ignoredAcs reason env
      (sta.deliverResponse total nFrames ignoredAcs reason env) counts := by
  have htaken : ∃ counts, SpGet.Took (coveredAcs ignoredAcs) nFrames ⟨sta.start, total, [], 0⟩
      (SpGet.fromAcs 0 (coveredAcs ignoredAcs) nFrames ⟨sta.start, total, [], 0⟩) counts :=
    SpGet.fromAcs_took (coveredAcs_nodup ignoredAcs) rfl
      (Or.inr ((sta.softwareTurn_start _).trans hturn))
  rcases htaken with ⟨counts, htook⟩
  rw [coveredAcs, ← SpGet.fromAcs_covered, ← coveredAcs] at htook
  have hframes := htook.frames
  rw [List.nil_append] at hframes
  have hmore := SpSta.moreData_zero (SpGet.fromAcs ignoredAcs (List.finRange 4) nFrames
    ⟨sta.start, total, [], 0⟩).sta ignoredAcs reason
  refine ⟨counts, ?_⟩
  unfold SpSta.deliverResponse
  dsimp only
  rw [← SpSta.start]
  generalize SpGet.fromAcs ignoredAcs (List.finRange 4) nFrames ⟨sta.start, total, [], 0⟩ = got
    at htook hframes hmore ⊢
  have htids : got.driverReleaseTids = 0 := htook.tids
  have hnone : (if (0 : ℕ) ≠ 0 ∧ reason = .pspoll then 2 ^ findHighestPrioTid 0 else 0) = 0 :=
    if_neg fun hin => hin.1 rfl
  have hbacklog : got.frames = (sta.backlog ignoredAcs).take nFrames := hframes
  have hleft : got.sta.backlog ignoredAcs = (sta.backlog ignoredAcs).drop nFrames := htook.left
  have hmoreData : got.sta.moreData ignoredAcs reason 0 =
      !((sta.backlog ignoredAcs).drop nFrames).isEmpty := by
    rw [Bool.eq_iff_iff, hmore, ← hleft, Bool.not_eq_true', List.isEmpty_eq_false_iff]
    rfl
  have hwme : ∀ tid callDriver, (got.sta.sendNullResponse env tid reason callDriver false :
      List (SpAction α)) = sta.sendNullResponse env tid reason callDriver false := by
    intro tid callDriver
    rw [htook.sta]
    rfl
  rw [htids, hnone, hbacklog, hmoreData]
  constructor
  · split_ifs <;> exact htook.sta
  · exact htook.outside
  · rw [← hbacklog, htook.parts]
    rfl
  · split_ifs <;> exact hleft
  · intro hempty
    rw [if_pos ⟨List.isEmpty_iff.mpr hempty, rfl⟩, hwme]
    exact sta.sendNullResponse_spec env _ reason true
  · intro earlier last heq
    have hsome : ¬(((sta.backlog ignoredAcs).take nFrames).isEmpty = true ∧ 0 = 0) := by
      simp [heq]
    rw [if_neg hsome, if_pos rfl, heq, (deliverFrames_append _ _ _ _ _).1,
      (deliverFrames_append _ _ _ _ _).2, List.nil_append, hwme]
    exact ⟨_, _, _, rfl⟩

/-- The outcome of a release by the driver: nothing is taken. -/
structure DriverRelease (response : SpGet α × List (SpAction α)) : Prop where
  taken : response.1.sta = sta.start
  pending : response.2.flatMap SpAction.pending = []
  sent : response.2.flatMap SpAction.sent = []
  byDriver : ∃ action ∈ response.2, action.byDriver = true

theorem SpSta.deliverResponse_driver
    (hturn : sta.softwareTurn (coveredAcs ignoredAcs) = false) :
    DriverRelease sta (sta.deliverResponse total nFrames ignoredAcs reason env) := by
  have hnothing : (SpGet.fromAcs 0 (coveredAcs ignoredAcs) nFrames
        ⟨sta.start, total, [], 0⟩).frames = [] ∧
      (SpGet.fromAcs 0 (coveredAcs ignoredAcs) nFrames ⟨sta.start, total, [], 0⟩).sta = sta.start ∧
      (SpGet.fromAcs 0 (coveredAcs ignoredAcs) nFrames
        ⟨sta.start, total, [], 0⟩).driverReleaseTids ≠ 0 :=
    SpGet.fromAcs_driver rfl (Or.inr ((sta.softwareTurn_start _).trans hturn))
  rw [coveredAcs, ← SpGet.fromAcs_covered] at hnothing
  unfold SpSta.deliverResponse
  dsimp only
  rw [← SpSta.start]
  generalize SpGet.fromAcs ignoredAcs (List.finRange 4) nFrames ⟨sta.start, total, [], 0⟩ = got
    at hnothing ⊢
  rcases hnothing with ⟨hframes, hsta, htids⟩
  have hrelease : (if got.driverReleaseTids ≠ 0 ∧ reason = .pspoll then
      2 ^ findHighestPrioTid got.driverReleaseTids else got.driverReleaseTids) ≠ 0 := by
    split
    · exact (Nat.two_pow_pos _).ne'
    · exact htids
  generalize (if got.driverReleaseTids ≠ 0 ∧ reason = .pspoll then
    2 ^ findHighestPrioTid got.driverReleaseTids else got.driverReleaseTids) = tids at hrelease ⊢
  rw [if_neg fun hin => hrelease hin.2, if_neg hrelease]
  constructor
  · exact hsta
  · split <;> rfl
  · split <;> rfl
  · exact ⟨_, List.mem_cons_self, rfl⟩

end Release

/-! ## The end of the period -/

/-- What is handed on is what was dequeued, filtered frames first; the last frame of the period and
no other one is made to end it; and More Data is clear in the last frame from software only if
nothing is left.  `counts` are the frames dequeued from each access category. -/
structure ServicePeriod (sta : SpSta α) (nFrames ignoredAcs : ℕ) (reason : FrameReleaseType)
    (response : SpGet α × List (SpAction α)) (counts : PsAc → ℕ) : Prop where
  dequeued : response.1.sta = sta.start.dequeue counts
  outside : ∀ ac ∉ coveredAcs ignoredAcs, counts ac = 0
  once : (response.2.flatMap SpAction.pending).map SpFrame.body =
    ((coveredAcs ignoredAcs).flatMap fun ac => (sta.queued ac).take (counts ac)).map SpFrame.body
  limit : (response.2.flatMap SpAction.pending).length ≤ nFrames
  eosp : (∃ action ∈ response.2, action.byDriver = true) ∨
    ∃ earlier last, response.2.flatMap SpAction.sent = earlier ++ [last] ∧
      last.EndsPeriod reason ∧
      earlier.map SpMarks.eospBits =
        (((coveredAcs ignoredAcs).flatMap fun ac => (sta.queued ac).take (counts ac)).map
          fun skb => skb.marks.eospBits).take earlier.length
  moreData : ∀ last, (response.2.flatMap SpAction.pending).getLast? = some last →
    last.marks.moreData = false → ∀ ac ∈ coveredAcs ignoredAcs,
      response.1.sta.queued ac = [] ∧ response.1.sta.held ac = false

/-- When frames come from software and the last one that waits ends the period, the driver and the
TXQs have none; and a response without data can be sent where one is needed. -/
structure PeriodKept (sta : SpSta α) (nFrames ignoredAcs : ℕ) (reason : FrameReleaseType)
    (env : SpEnv) : Prop where
  notHeld : sta.softwareTurn (coveredAcs ignoredAcs) = true →
    (sta.backlog ignoredAcs).length ≤ nFrames →
    endsItself reason (sta.backlog ignoredAcs).getLast? = true →
    ∀ ac ∈ coveredAcs ignoredAcs, sta.held ac = false
  sendsNull : sta.softwareTurn (coveredAcs ignoredAcs) = true →
    endsItself reason ((sta.backlog ignoredAcs).take nFrames).getLast? = false →
    (env.allocates && env.hasChanctx) = true ∧ (reason = .uapsd → sta.wme = true)

theorem nullMarks_ends {sta : SpSta α} {reason : FrameReleaseType} :
    (sta.nullMarks reason).EndsPeriod reason ↔ (reason = .uapsd → sta.wme = true) := by
  unfold SpSta.nullMarks SpMarks.EndsPeriod
  cases reason <;> cases sta.wme <;> simp

section Ends

variable {sta : SpSta α} {nFrames ignoredAcs : ℕ} {reason : FrameReleaseType} {env : SpEnv}
  {response : SpGet α × List (SpAction α)} {counts : PsAc → ℕ} {earlier : List (SpFrame α)}
  {last : SpFrame α}

namespace SoftwareRelease

/-- What is sent when frames are taken. -/
structure Sends (sta : SpSta α) (nFrames ignoredAcs : ℕ) (reason : FrameReleaseType) (env : SpEnv)
    (actions : List (SpAction α)) (earlier : List (SpFrame α)) (last : SpFrame α) : Prop where
  pending : actions.flatMap SpAction.pending =
    earlier.map (fun skb => { skb with marks := skb.marks.handedOn true }) ++
      [{ last with
        marks := last.marks.handedOnLast reason
          !((sta.backlog ignoredAcs).drop nFrames).isEmpty }]
  sent : actions.flatMap SpAction.sent =
    earlier.map (fun skb => skb.marks.handedOn true) ++
      [last.marks.handedOnLast reason !((sta.backlog ignoredAcs).drop nFrames).isEmpty] ++
      if endsItself reason (some last) = false ∧ (env.allocates && env.hasChanctx) = true then
        [sta.nullMarks reason] else []
  byDriver : ¬∃ action ∈ actions, action.byDriver = true

theorem sends (hrelease : SoftwareRelease sta nFrames ignoredAcs reason env response counts)
    (htake : (sta.backlog ignoredAcs).take nFrames = earlier ++ [last]) :
    Sends sta nFrames ignoredAcs reason env response.2 earlier last := by
  rcases hrelease.frames earlier last htake with ⟨tids, num, tid, hactions⟩
  have hnull := sta.sendNullResponse_spec env tid reason false
  rw [hactions]
  cases hends : endsItself reason (some last) with
  | true =>
      constructor
      · simp [SpAction.pending]
      · simp [SpAction.sent, Function.comp_def, hends]
      · simp [SpAction.byDriver]
  | false =>
      rw [Bool.not_false, if_pos rfl]
      constructor
      · rw [List.flatMap_append, List.flatMap_append, hnull.pending]
        simp [SpAction.pending]
      · rw [List.flatMap_append, List.flatMap_append, hnull.sent]
        simp [SpAction.sent, Function.comp_def, hends]
      · rintro ⟨action, hmem, hdriver⟩
        rw [List.mem_append, List.mem_append] at hmem
        rcases hmem with (hfirst | hmiddle) | hlast
        · rcases List.mem_pair.mp hfirst with heq | heq <;> rw [heq] at hdriver <;> cases hdriver
        · rw [hnull.byDriver action hmiddle] at hdriver
          cases hdriver
        · rw [List.mem_singleton.mp hlast] at hdriver
          cases hdriver

theorem servicePeriod_alone
    (hrelease : SoftwareRelease sta nFrames ignoredAcs reason env response counts)
    (hempty : (sta.backlog ignoredAcs).take nFrames = [])
    (hkept : PeriodKept sta nFrames ignoredAcs reason env)
    (hturn : sta.softwareTurn (coveredAcs ignoredAcs) = true) :
    ServicePeriod sta nFrames ignoredAcs reason response counts := by
  have hnull := hrelease.alone hempty
  have hsends := hkept.sendsNull hturn (by rw [hempty]; rfl)
  constructor
  · exact hrelease.taken
  · exact hrelease.outside
  · rw [hnull.pending, ← hrelease.parts, hempty]
  · rw [hnull.pending]
    exact Nat.zero_le _
  · right
    refine ⟨[], sta.nullMarks reason, ?_, nullMarks_ends.mpr hsends.2, rfl⟩
    rw [hnull.sent, if_pos hsends.1, List.nil_append]
  · intro last hlast
    rw [hnull.pending] at hlast
    cases hlast

theorem servicePeriod_frames
    (hrelease : SoftwareRelease sta nFrames ignoredAcs reason env response counts)
    (htake : (sta.backlog ignoredAcs).take nFrames = earlier ++ [last])
    (hkept : PeriodKept sta nFrames ignoredAcs reason env)
    (hturn : sta.softwareTurn (coveredAcs ignoredAcs) = true) :
    ServicePeriod sta nFrames ignoredAcs reason response counts := by
  have hsends := hrelease.sends htake
  have hlastTaken : ((sta.backlog ignoredAcs).take nFrames).getLast? = some last := by
    rw [htake, List.getLast?_concat]
  constructor
  · exact hrelease.taken
  · exact hrelease.outside
  · rw [hsends.pending, ← hrelease.parts, htake]
    simp [Function.comp_def]
  · have hlength := congrArg List.length htake
    rw [List.length_take] at hlength
    rw [hsends.pending]
    simp only [List.length_append, List.length_map, List.length_singleton] at hlength ⊢
    omega
  · right
    rw [← hrelease.parts, htake, hsends.sent]
    cases hends : endsItself reason (some last) with
    | true =>
        rw [if_neg (by simp), List.append_nil]
        refine ⟨_, _, rfl, handedOnLast_ends hends _, ?_⟩
        simp [Function.comp_def]
    | false =>
        have hcan := hkept.sendsNull hturn (by rw [hlastTaken, hends])
        rw [if_pos ⟨rfl, hcan.1⟩]
        refine ⟨_, _, rfl, nullMarks_ends.mpr hcan.2, ?_⟩
        have hopen := (handedOnLast_open hends
          !((sta.backlog ignoredAcs).drop nFrames).isEmpty).1
        simp [Function.comp_def, hopen]
  · intro sent hsent hclear
    rw [hsends.pending, List.getLast?_concat, Option.some_inj] at hsent
    rw [← hsent] at hclear
    rcases (handedOnLast_moreData _).mp hclear with ⟨hnone, hends⟩
    rw [Bool.not_eq_false', List.isEmpty_iff, List.drop_eq_nil_iff] at hnone
    rw [List.take_of_length_le hnone] at hlastTaken
    have hheld := hkept.notHeld hturn hnone (by rw [hlastTaken, hends])
    have hleft := hrelease.left
    rw [List.drop_eq_nil_of_le hnone, SpSta.backlog, List.flatMap_eq_nil_iff] at hleft
    intro ac hmem
    constructor
    · exact hleft ac hmem
    · rw [hrelease.taken]
      exact hheld ac hmem

end SoftwareRelease

theorem ServicePeriod.periodKept
    (hrelease : ∃ counts, SoftwareRelease sta nFrames ignoredAcs reason env response counts)
    (hperiod : ServicePeriod sta nFrames ignoredAcs reason response counts) :
    PeriodKept sta nFrames ignoredAcs reason env := by
  rcases hrelease with ⟨taken, hrelease⟩
  rcases List.eq_nil_or_concat ((sta.backlog ignoredAcs).take nFrames) with hempty | hframes
  · have hnull := hrelease.alone hempty
    constructor
    · intro _ hall hends
      rw [List.take_of_length_le hall] at hempty
      rw [hempty] at hends
      cases hends
    · intro _ _
      rcases hperiod.eosp with ⟨action, hmem, hdriver⟩ | ⟨before, final, hsent, hends, _⟩
      · rw [hnull.byDriver action hmem] at hdriver
        cases hdriver
      · rw [hnull.sent] at hsent
        split at hsent
        case isTrue hcan =>
          rw [← List.nil_append [sta.nullMarks reason]] at hsent
          rw [← (List.append_inj' hsent rfl).2 |> List.singleton_inj.mp] at hends
          exact ⟨hcan, nullMarks_ends.mp hends⟩
        case isFalse => simp at hsent
  · rcases hframes with ⟨earlier, last, htake⟩
    rw [List.concat_eq_append] at htake
    have hsends := hrelease.sends htake
    constructor
    · intro _ hall hends ac hmem
      rw [List.take_of_length_le hall] at htake
      rw [htake, List.getLast?_concat] at hends
      have hclear := (handedOnLast_moreData _).mpr
        ⟨show (!((sta.backlog ignoredAcs).drop nFrames).isEmpty) = false by
          rw [List.drop_eq_nil_of_le hall]; rfl, hends⟩
      have hnone := hperiod.moreData _
        (by rw [hsends.pending, List.getLast?_concat]) hclear ac hmem
      rw [hrelease.taken] at hnone
      exact hnone.2
    · intro _ hopen
      rw [htake, List.getLast?_concat] at hopen
      rcases hperiod.eosp with hdriver | ⟨before, final, hsent, hends, _⟩
      · exact absurd hdriver hsends.byDriver
      · rw [hsends.sent] at hsent
        by_cases hcan : (env.allocates && env.hasChanctx) = true
        · rw [if_pos ⟨hopen, hcan⟩] at hsent
          rw [← (List.append_inj' hsent rfl).2 |> List.singleton_inj.mp] at hends
          exact ⟨hcan, nullMarks_ends.mp hends⟩
        · rw [if_neg fun hin => hcan hin.2, List.append_nil] at hsent
          rw [← (List.append_inj' hsent rfl).2 |> List.singleton_inj.mp] at hends
          exact absurd hends (handedOnLast_open hopen _).2

end Ends

/-- A service period ends as it should exactly if, when frames come from software, a clear More
Data hides no frames of the driver or a TXQ, and a response without data can be sent where one has
to be. -/
theorem deliverResponse_servicePeriod (sta : SpSta α) (total : ℤ) (nFrames ignoredAcs : ℕ)
    (reason : FrameReleaseType) (env : SpEnv) :
    (∃ counts, ServicePeriod sta nFrames ignoredAcs reason
        (sta.deliverResponse total nFrames ignoredAcs reason env) counts) ↔
      PeriodKept sta nFrames ignoredAcs reason env := by
  cases hturn : sta.softwareTurn (coveredAcs ignoredAcs) with
  | false =>
      have hdriver := sta.deliverResponse_driver total nFrames ignoredAcs reason env hturn
      constructor
      · intro _
        constructor
        · intro hin
          rw [hturn] at hin
          cases hin
        · intro hin
          rw [hturn] at hin
          cases hin
      · intro _
        refine ⟨0, ?_⟩
        constructor
        · rw [hdriver.taken, SpSta.dequeue_zero]
        · exact fun _ _ => rfl
        · rw [hdriver.pending]
          simp
        · rw [hdriver.pending]
          exact Nat.zero_le _
        · exact Or.inl hdriver.byDriver
        · intro last hlast
          rw [hdriver.pending] at hlast
          cases hlast
  | true =>
      have hrelease := sta.deliverResponse_software total nFrames ignoredAcs reason env hturn
      constructor
      · rintro ⟨counts, hperiod⟩
        exact hperiod.periodKept hrelease
      · intro hkept
        rcases hrelease with ⟨counts, hrelease⟩
        refine ⟨counts, ?_⟩
        rcases List.eq_nil_or_concat ((sta.backlog ignoredAcs).take nFrames) with hempty | hframes
        · exact hrelease.servicePeriod_alone hempty hkept hturn
        · rcases hframes with ⟨earlier, last, htake⟩
          rw [List.concat_eq_append] at htake
          exact hrelease.servicePeriod_frames htake hkept hturn

def managementSta : SpSta Unit where
  wme := true
  sp := false
  driverBufferedTids := 0
  txqBufferedTids := 1
  txFiltered := fun _ => []
  psTxBuf := fun ac => if ac.val = 0 then [⟨(), 7, ⟨false, none, false, false, false, false⟩⟩] else []

/-- The station is told that nothing is left, while the TXQ has frames for it. -/
theorem poll_hides_txq :
    ¬∃ counts, ServicePeriod managementSta 1 0 .pspoll
      (managementSta.deliverResponse 1 1 0 .pspoll ⟨true, true, fun _ => false⟩) counts := by
  rintro ⟨counts, hperiod⟩
  have hnothing := hperiod.moreData _ rfl rfl 2 (by decide)
  exact absurd hnothing.2 (by decide +kernel)

end IwlwifiStack
