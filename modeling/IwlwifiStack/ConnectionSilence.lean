import IwlwifiStack.ConnectionTimeouts

/-!
# Every attempt ends

As long as there is an attempt, the timer or the work will look at it again, or the end of a scan
or of a restart that is under way queues the work.  When nothing more is heard, it takes at most
ten times that the timer runs out until no attempt is left.
-/

namespace IwlwifiStack

namespace ManagedSdata

variable {hw : ManagedHw} {s : ManagedSdata}

section Rounds

variable (hw)

def silence (s : ManagedSdata) (n : ℕ) (sendErr : Option MgdErrno) : ManagedSdata :=
  let late := { s with jiffies := s.jiffies + n }
  let fired := if late.timer.any fun expires => decide (expires ≤ late.jiffies) then
      { late with timer := none, workQueued := true }
    else late
  if fired.workQueued then ({ fired with workQueued := false }.ifaceWork hw sendErr).1 else fired

def silences (s : ManagedSdata) (rounds : List (ℕ × Option MgdErrno)) : ManagedSdata :=
  rounds.foldl (fun state round => state.silence hw round.1 round.2) s

def Waits (s : ManagedSdata) : List (ℕ × Option MgdErrno) → Prop
  | [] => True
  | round :: rounds =>
    (∀ expires, s.timer = some expires → expires < s.jiffies + round.1) ∧
      Waits (s.silence hw round.1 round.2) rounds

instance decidableWaits (s : ManagedSdata) :
    ∀ rounds : List (ℕ × Option MgdErrno), Decidable (s.Waits hw rounds)
  | [] => .isTrue trivial
  | round :: rounds =>
    have := decidableWaits (s.silence hw round.1 round.2) rounds
    inferInstanceAs (Decidable ((∀ expires ∈ s.timer, expires < s.jiffies + round.1) ∧
      Waits hw (s.silence hw round.1 round.2) rounds))

end Rounds

section Ignored

@[simp] theorem ignoresWork_runAgain (timeout : ℤ) :
    (s.runAgain timeout).ignoresWork = s.ignoresWork := by
  unfold runAgain
  split_ifs <;> rfl

theorem statusWork_ignoresWork : (s.statusWork hw).ignoresWork = s.ignoresWork := by
  have hauth : ∀ before : ManagedSdata,
      (before.authStatus hw).ignoresWork = before.ignoresWork := by
    intro before
    unfold authStatus
    cases before.authData with
    | none => rfl
    | some data =>
        dsimp only
        split_ifs <;>
          first
            | exact ignoresWork_runAgain _
            | rfl
  have hassoc : ∀ before : ManagedSdata,
      (before.assocStatus hw).ignoresWork = before.ignoresWork := by
    intro before
    unfold assocStatus
    cases before.assocData with
    | none => rfl
    | some data =>
        dsimp only
        split_ifs <;>
          first
            | exact ignoresWork_runAgain _
            | rfl
  unfold statusWork
  dsimp only
  split_ifs
  · rfl
  · exact hauth _
  · exact hassoc _

theorem destroyAuthData_ignoresWork (assoc : Bool) :
    (s.destroyAuthData assoc).ignoresWork = s.ignoresWork := by
  unfold destroyAuthData
  cases s.authData with
  | none => rfl
  | some data => cases assoc <;> rfl

theorem destroyAssocData_ignoresWork (status : AssocStatus) :
    (s.destroyAssocData status).1.ignoresWork = s.ignoresWork := by
  unfold destroyAssocData
  cases s.assocData with
  | none => rfl
  | some data =>
      dsimp only
      split_ifs <;> rfl

theorem authWork_ignoresWork : (s.authWork hw).1.ignoresWork = s.ignoresWork := by
  have hsent : (s.auth hw).1.ignoresWork = s.ignoresWork := by
    unfold auth
    cases s.authData with
    | none => rfl
    | some data =>
        dsimp only
        split_ifs <;>
          first
            | exact ignoresWork_runAgain _
            | rfl
  unfold authWork
  cases s.authData with
  | none => rfl
  | some data =>
      dsimp only
      split_ifs
      · rfl
      · exact destroyAuthData_ignoresWork false
      · exact (destroyAuthData_ignoresWork false).trans hsent
      · exact hsent
      · exact ignoresWork_runAgain _

theorem assocWork_ignoresWork (sendErr : Option MgdErrno) :
    (s.assocWork hw sendErr).1.ignoresWork = s.ignoresWork := by
  have hsent : ∀ data : MgdAssocData,
      (s.doAssoc hw data sendErr).1.ignoresWork = s.ignoresWork := by
    intro data
    unfold doAssoc
    dsimp only
    split_ifs <;>
      first
        | exact ignoresWork_runAgain _
        | rfl
  unfold assocWork
  cases s.assocData with
  | none => rfl
  | some data =>
      dsimp only
      split_ifs
      · rfl
      · exact destroyAssocData_ignoresWork _
      · exact (destroyAssocData_ignoresWork _).trans (hsent data)
      · exact hsent data
      · exact ignoresWork_runAgain _

theorem pollWork_ignoresWork : (s.pollWork hw).1.ignoresWork = s.ignoresWork := by
  have hreset : s.resetApProbe.ignoresWork = s.ignoresWork := by
    unfold resetApProbe
    split_ifs <;> rfl
  have hlost : (s.disassocReport false).1.ignoresWork = s.ignoresWork := by
    unfold disassocReport setDisassoc
    split_ifs <;> rfl
  have hsend : (s.mgdProbeApSend hw).1.ignoresWork = s.ignoresWork :=
    ignoresWork_runAgain _
  unfold pollWork
  dsimp only
  split_ifs <;>
    first
      | rfl
      | exact hreset
      | exact hlost
      | exact hsend
      | exact ignoresWork_runAgain _

theorem ifaceWork_ignoresWork (sendErr : Option MgdErrno) :
    (s.ifaceWork hw sendErr).1.ignoresWork = s.ignoresWork := by
  unfold ifaceWork
  split_ifs
  · rfl
  · exact pollWork_ignoresWork.trans ((assocWork_ignoresWork sendErr).trans
      (authWork_ignoresWork.trans statusWork_ignoresWork))

end Ignored

theorem silence_reachable {initial : ManagedSdata}
    (hreach : ConditionedRun.Reachable (step hw) (fun _ _ => True) initial s) (n : ℕ)
    (sendErr : Option MgdErrno) :
    ConditionedRun.Reachable (step hw) (fun _ _ => True) initial (s.silence hw n sendErr) := by
  have hlate : ConditionedRun.Reachable (step hw) (fun _ _ => True) initial
      { s with jiffies := s.jiffies + n } := .after hreach (.tick n) [] trivial rfl
  have hwork : ∀ {before : ManagedSdata},
      ConditionedRun.Reachable (step hw) (fun _ _ => True) initial before →
      before.workQueued = true →
      ConditionedRun.Reachable (step hw) (fun _ _ => True) initial
        ({ before with workQueued := false }.ifaceWork hw sendErr).1 := by
    intro before hbefore hqueued
    refine .after hbefore (.work sendErr)
      ({ before with workQueued := false }.ifaceWork hw sendErr).2 trivial ?_
    simp only [step, hqueued, if_true]
  unfold silence
  dsimp only
  by_cases hfires : (s.timer.any fun expires => decide (expires ≤ s.jiffies + n)) = true
  · have hfired := ConditionedRun.Reachable.after hlate .timer [] trivial
      (show step hw { s with jiffies := s.jiffies + n } .timer = some
        ({ s with jiffies := s.jiffies + n, timer := none, workQueued := true }, []) by
          simp only [step, hfires, if_true])
    rw [if_pos hfires, if_pos rfl]
    exact hwork hfired rfl
  · rw [if_neg hfires]
    split_ifs with hqueued
    · exact hwork hlate hqueued
    · exact hlate

theorem ifaceWork_eq (hfree : s.ignoresWork = false) (sendErr : Option MgdErrno) :
    s.ifaceWork hw sendErr = s.staWork hw sendErr := by
  rw [ifaceWork, hfree, if_neg (by decide)]

theorem silence_eq (harmed : s.Armed) (hpending : s.Pending) (hfree : s.ignoresWork = false)
    {n : ℕ} (hwaits : ∀ expires, s.timer = some expires → expires < s.jiffies + n)
    (sendErr : Option MgdErrno) :
    s.silence hw n sendErr = ({ s with
      jiffies := s.jiffies + n, timer := none, workQueued := false }.staWork hw sendErr).1 := by
  rw [← @ifaceWork_eq hw { s with
    jiffies := s.jiffies + n, timer := none, workQueued := false } hfree]
  unfold silence
  cases htimer : s.timer with
  | none =>
      have hqueued : s.workQueued = true := by
        rcases harmed.again hpending with hsome | hqueued | hignored
        · rw [htimer] at hsome
          cases hsome
        · exact hqueued
        · exact absurd (hfree.symm.trans hignored) (by decide)
      simp [hqueued]
  | some expires =>
      have hpassed : expires ≤ s.jiffies + n := (hwaits expires htimer).le
      simp [hpassed]

theorem silence_ignoresWork (n : ℕ) (sendErr : Option MgdErrno) :
    (s.silence hw n sendErr).ignoresWork = s.ignoresWork := by
  unfold silence
  dsimp only
  split_ifs <;>
    first
      | exact ifaceWork_ignoresWork sendErr
      | rfl

def authRounds (s : ManagedSdata) (data : MgdAuthData) : ℕ :=
  2 * data.left + if s.statusReceived = false ∧ s.timer = some data.timeout then 0 else 1

def assocRounds (s : ManagedSdata) (data : MgdAssocData) : ℕ :=
  2 * data.left + if s.statusReceived = false ∧ s.timer = some data.timeout then 0 else 1

theorem rounds_last_le {p : Prop} [Decidable p] : (if p then 0 else 1) ≤ 1 := by
  split_ifs <;> omega

theorem not_timed {n : ℕ} {timeout before : ℤ}
    (hwaits : ∀ expires, s.timer = some expires → expires < s.jiffies + n)
    (hsame : s.statusReceived = false → timeout = before) (hnotyet : s.jiffies + n ≤ timeout) :
    ¬(s.statusReceived = false ∧ s.timer = some before) := by
  rintro ⟨hreceived, htimer⟩
  have hpast := hwaits before htimer
  rw [hsame hreceived] at hnotyet
  omega

theorem silence_auth {data : MgdAuthData} (hok : s.core.Ok) (harmed : s.Armed)
    (hauth : s.authData = some data) (hfree : s.ignoresWork = false) {n : ℕ}
    (hwaits : ∀ expires, s.timer = some expires → expires < s.jiffies + n)
    (sendErr : Option MgdErrno) :
    (s.silence hw n sendErr).assocData = none ∧
    ((s.silence hw n sendErr).authData = none ∨
      ∃ later, (s.silence hw n sendErr).authData = some later ∧
        (s.silence hw n sendErr).authRounds later < s.authRounds data) := by
  have halone := alone_of_auth hok hauth
  rw [silence_eq harmed (.inl (by rw [hauth]; rfl)) hfree hwaits]
  generalize hdef : ({ s with
    jiffies := s.jiffies + n, timer := none, workQueued := false } : ManagedSdata) = ready
  have hreadyAuth : ready.authData = some data := by rw [← hdef]; exact hauth
  have hreadyAssoc : ready.assocData = none := by rw [← hdef]; exact halone.1
  have hreadyOk : ready.core.Ok := by rw [← hdef]; exact hok
  have hreadyTimer : ready.timer = none := by rw [← hdef]
  have hreadyReceived : ready.statusReceived = s.statusReceived := by rw [← hdef]
  have hreadyJiffies : ready.jiffies = s.jiffies + n := by rw [← hdef]
  rw [staWork_auth hreadyOk hreadyAuth]
  refine ⟨authWork_frame.1.trans (statusWork_assoc_none hreadyAssoc), ?_⟩
  rcases @statusWork_auth hw ready data hreadyAuth hreadyAssoc
    (harmed.authStarted data hauth) with ⟨now, hnow, hstarted, hleft, hretimed, hsame⟩
  rcases @authWork_spec hw _ now hnow hstarted with
    hgone | ⟨hnotyet, heq⟩ | ⟨later, hlater, hless, -, -⟩
  · exact .inl hgone
  · -- The time has not come, so the timer is set for it.
    refine .inr ⟨now, ?_, ?_⟩
    · rw [heq, authData_runAgain]
      exact hnow
    · have hset := timer_runAgain_eq (hretimed.timer hreadyTimer)
      have hbefore := not_timed hwaits (fun hreceived =>
        congrArg MgdAuthData.timeout (hsame (hreadyReceived.trans hreceived))) (by
          rw [hretimed.jiffies, hreadyJiffies] at hnotyet
          exact hnotyet)
      rw [authRounds, authRounds, if_neg hbefore, heq, statusReceived_runAgain, hset,
        if_pos ⟨hretimed.received, rfl⟩, hleft]
      omega
  · refine .inr ⟨later, hlater, ?_⟩
    rw [authRounds, authRounds]
    rw [hleft] at hless
    have hlast := @rounds_last_le ((authWork hw (statusWork hw ready)).1.statusReceived = false ∧
      (authWork hw (statusWork hw ready)).1.timer = some later.timeout) _
    omega

theorem silence_assoc {data : MgdAssocData} (hok : s.core.Ok) (harmed : s.Armed)
    (hassoc : s.assocData = some data) (hfree : s.ignoresWork = false) {n : ℕ}
    (hwaits : ∀ expires, s.timer = some expires → expires < s.jiffies + n)
    (sendErr : Option MgdErrno) :
    (s.silence hw n sendErr).authData = none ∧
    ((s.silence hw n sendErr).assocData = none ∨
      ∃ later, (s.silence hw n sendErr).assocData = some later ∧
        (s.silence hw n sendErr).assocRounds later < s.assocRounds data) := by
  have hauth := auth_none_of_assoc hok hassoc
  rw [silence_eq harmed (.inr (by rw [hassoc]; rfl)) hfree hwaits]
  generalize hdef : ({ s with
    jiffies := s.jiffies + n, timer := none, workQueued := false } : ManagedSdata) = ready
  have hreadyAuth : ready.authData = none := by rw [← hdef]; exact hauth
  have hreadyAssoc : ready.assocData = some data := by rw [← hdef]; exact hassoc
  have hreadyOk : ready.core.Ok := by rw [← hdef]; exact hok
  have hreadyTimer : ready.timer = none := by rw [← hdef]
  have hreadyReceived : ready.statusReceived = s.statusReceived := by rw [← hdef]
  have hreadyJiffies : ready.jiffies = s.jiffies + n := by rw [← hdef]
  rw [staWork_assoc hreadyOk hreadyAssoc]
  refine ⟨(assocWork_frame sendErr).1.trans (statusWork_auth_none hreadyAuth), ?_⟩
  rcases @statusWork_assoc hw ready data hreadyAuth hreadyAssoc
    (harmed.assocStarted data hassoc) with ⟨now, hnow, hstarted, hleft, hretimed, hsame⟩
  rcases @assocWork_spec hw _ now hnow hstarted sendErr with
    hgone | ⟨hnotyet, heq⟩ | ⟨later, hlater, hless, -, -⟩
  · exact .inl hgone
  · refine .inr ⟨now, ?_, ?_⟩
    · rw [heq, assocData_runAgain]
      exact hnow
    · have hset := timer_runAgain_eq (hretimed.timer hreadyTimer)
      have hbefore := not_timed hwaits (fun hreceived =>
        congrArg MgdAssocData.timeout (hsame (hreadyReceived.trans hreceived))) (by
          rw [hretimed.jiffies, hreadyJiffies] at hnotyet
          exact hnotyet)
      rw [assocRounds, assocRounds, if_neg hbefore, heq, statusReceived_runAgain, hset,
        if_pos ⟨hretimed.received, rfl⟩, hleft]
      omega
  · refine .inr ⟨later, hlater, ?_⟩
    rw [assocRounds, assocRounds]
    rw [hleft] at hless
    have hlast := @rounds_last_le
      ((assocWork hw (statusWork hw ready) sendErr).1.statusReceived = false ∧
        (assocWork hw (statusWork hw ready) sendErr).1.timer = some later.timeout) _
    omega

theorem silence_none (hauth : s.authData = none) (hassoc : s.assocData = none) (n : ℕ)
    (sendErr : Option MgdErrno) :
    (s.silence hw n sendErr).authData = none ∧ (s.silence hw n sendErr).assocData = none := by
  have hwork : ∀ {before : ManagedSdata}, before.authData = none → before.assocData = none →
      (before.ifaceWork hw sendErr).1.authData = none ∧
        (before.ifaceWork hw sendErr).1.assocData = none := by
    intro before hnoAuth hnoAssoc
    unfold ifaceWork
    split_ifs
    · exact ⟨hnoAuth, hnoAssoc⟩
    · rw [staWork_idle hnoAuth hnoAssoc]
      exact ⟨pollWork_frame.1.trans (statusWork_auth_none hnoAuth),
        pollWork_frame.2.trans (statusWork_assoc_none hnoAssoc)⟩
  unfold silence
  dsimp only
  split_ifs
  · exact hwork hauth hassoc
  · exact ⟨hauth, hassoc⟩
  · exact hwork hauth hassoc
  · exact ⟨hauth, hassoc⟩

def roundsLeft (s : ManagedSdata) : ℕ :=
  match s.authData, s.assocData with
  | some data, _ => s.authRounds data + 1
  | none, some data => s.assocRounds data + 1
  | none, none => 0

theorem MgdAuthData.left_le (data : MgdAuthData) : data.left ≤ 4 := by
  unfold MgdAuthData.left
  split_ifs <;> omega

theorem roundsLeft_le (s : ManagedSdata) : s.roundsLeft ≤ 10 := by
  unfold roundsLeft
  cases s.authData with
  | some data =>
      have hleft := MgdAuthData.left_le data
      have hlast := @rounds_last_le
        (s.statusReceived = false ∧ s.timer = some data.timeout) _
      simp only [authRounds]
      omega
  | none =>
      cases s.assocData with
      | some data =>
          have hleft : data.left ≤ 4 := Nat.sub_le 4 data.tries
          have hlast := @rounds_last_le
            (s.statusReceived = false ∧ s.timer = some data.timeout) _
          simp only [assocRounds]
          omega
      | none => exact Nat.zero_le 10

theorem roundsLeft_zero (hzero : s.roundsLeft = 0) : s.authData = none ∧ s.assocData = none := by
  unfold roundsLeft at hzero
  cases hauth : s.authData with
  | some data => rw [hauth] at hzero; cases hzero
  | none =>
      cases hassoc : s.assocData with
      | some data => rw [hauth, hassoc] at hzero; cases hzero
      | none => exact ⟨rfl, rfl⟩

theorem silence_roundsLeft (hok : s.core.Ok) (harmed : s.Armed)
    (hfree : s.ignoresWork = false) {n : ℕ}
    (hwaits : ∀ expires, s.timer = some expires → expires < s.jiffies + n)
    (sendErr : Option MgdErrno) : (s.silence hw n sendErr).roundsLeft ≤ s.roundsLeft - 1 := by
  cases hauth : s.authData with
  | some data =>
      rcases @silence_auth hw s data hok harmed hauth hfree n hwaits sendErr with
        ⟨hnone, hgone | ⟨later, hlater, hless⟩⟩
      · simp [roundsLeft, hgone, hnone]
      · simp only [roundsLeft, hlater, hauth]
        omega
  | none =>
      cases hassoc : s.assocData with
      | some data =>
          rcases @silence_assoc hw s data hok harmed hassoc hfree n hwaits sendErr with
            ⟨hnone, hgone | ⟨later, hlater, hless⟩⟩
          · simp [roundsLeft, hgone, hnone]
          · simp only [roundsLeft, hnone, hlater, hauth, hassoc]
            omega
      | none =>
          rcases @silence_none hw s hauth hassoc n sendErr with ⟨hnoAuth, hnoAssoc⟩
          simp [roundsLeft, hnoAuth, hnoAssoc]

theorem ok_of_reachable
    (hreach : ConditionedRun.Reachable (step hw) (fun _ _ => True) initial s) :
    s.core.Ok ∧ s.Armed := by
  refine @ConditionedRun.Reachable.invariant _ _ _ (step hw) _ _
    (fun state => state.core.Ok ∧ state.Armed) ⟨initial_ok, .of_idle rfl rfl⟩ ?_ _ hreach
  rintro state event after output ⟨hok, harmed⟩ _ hstep
  exact ⟨step_ok hok hstep, step_armed hok harmed hstep⟩

theorem silences_end {rounds : List (ℕ × Option MgdErrno)}
    (hreach : ConditionedRun.Reachable (step hw) (fun _ _ => True) initial s)
    (hfree : s.ignoresWork = false) (hwaits : s.Waits hw rounds) (henough : s.roundsLeft ≤ rounds.length) :
    ConditionedRun.Reachable (step hw) (fun _ _ => True) initial (s.silences hw rounds) ∧
      (s.silences hw rounds).roundsLeft = 0 := by
  induction rounds generalizing s with
  | nil => exact ⟨hreach, Nat.le_zero.mp henough⟩
  | cons round rounds ih =>
      rcases ok_of_reachable hreach with ⟨hok, harmed⟩
      have hless := @silence_roundsLeft hw s hok harmed hfree round.1 hwaits.1 round.2
      rw [List.length_cons] at henough
      have hrest : (s.silence hw round.1 round.2).roundsLeft ≤ rounds.length := by omega
      exact ih (silence_reachable hreach round.1 round.2)
        ((silence_ignoresWork round.1 round.2).trans hfree) hwaits.2 hrest

/-- While there is an attempt, the timer is armed or the work is queued, or a scan or a restart is
under way, whose end queues it.  When nothing more is heard after that, no attempt is left once the
timer has run out ten times. -/
theorem attempts_end (hreach : ConditionedRun.Reachable (step hw) (fun _ _ => True) initial s) :
    (s.authData.isSome = true ∨ s.assocData.isSome = true →
      s.timer.isSome = true ∨ s.workQueued = true ∨ s.swScanning = true ∨
        s.inReconfig = true) ∧
    (s.swScanning = false → s.inReconfig = false → ∀ rounds, s.Waits hw rounds →
      10 ≤ rounds.length →
      (s.silences hw rounds).authData = none ∧ (s.silences hw rounds).assocData = none) := by
  constructor
  · intro hpending
    have hagain := (ok_of_reachable hreach).2.again hpending
    rw [ignoresWork, Bool.or_eq_true] at hagain
    exact hagain
  · intro hscan hreconfig rounds hwaits hlong
    have hfree : s.ignoresWork = false := by rw [ignoresWork, hscan, hreconfig, Bool.or_self]
    exact roundsLeft_zero (silences_end hreach hfree hwaits ((roundsLeft_le s).trans hlong)).2

def askingEvents : List ManagedEvent :=
  [.auth ⟨.openSystem, ⟨1, 7⟩, -1, none, []⟩ ⟨false, false, true, samplePrep⟩,
    .rxAuth ⟨true, 7, 0, 2, 0, false⟩ true,
    .assoc ⟨⟨1, 7⟩, -1, none, 100, true, false⟩ sampleAssoc,
    .scanStart, .tick 5000, .timer, .work none]

def scanningSta : ManagedSdata :=
  ((ConditionedRun.run (step sampleHw) initial askingEvents).map Prod.fst).getD initial

def associatingSta : ManagedSdata := scanningSta.scanCompleted

theorem scanningSta_reachable :
    ConditionedRun.Reachable (step sampleHw) (fun _ _ => True) initial scanningSta :=
  ConditionedRun.reachable_of_run .start
    (show ConditionedRun.run (step sampleHw) initial askingEvents = some (scanningSta,
      [.authFrame 7 1, .authAccepted 7, .rxAuth 7 2 0, .assocAccepted 7]) by decide +kernel)

theorem associatingSta_reachable :
    ConditionedRun.Reachable (step sampleHw) (fun _ _ => True) initial associatingSta :=
  .after scanningSta_reachable .scanCompleted [] trivial rfl

def quietRounds : List (ℕ × Option MgdErrno) :=
  List.replicate 10 (2000, none)

/-- The ignored work leaves neither timer nor work; when the scan is over, the attempt ends. -/
theorem associatingSta_ends :
    (scanningSta.timer.isSome = true ∨ scanningSta.workQueued = true ∨
      scanningSta.swScanning = true ∨ scanningSta.inReconfig = true) ∧
    scanningSta.timer = none ∧ scanningSta.workQueued = false ∧
    (associatingSta.timer.isSome = true ∨ associatingSta.workQueued = true ∨
      associatingSta.swScanning = true ∨ associatingSta.inReconfig = true) ∧
    (associatingSta.silences sampleHw quietRounds).authData = none ∧
      (associatingSta.silences sampleHw quietRounds).assocData = none :=
  ⟨(attempts_end scanningSta_reachable).1 (.inr (by decide +kernel)), by decide +kernel,
    by decide +kernel, (attempts_end associatingSta_reachable).1 (.inr (by decide +kernel)),
    (attempts_end associatingSta_reachable).2 (by decide +kernel) (by decide +kernel) quietRounds
      (by decide +kernel) (by decide)⟩

end ManagedSdata

end IwlwifiStack
