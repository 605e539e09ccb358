import IwlwifiStack.ConnectionTimers

/-!
# An access point that keeps silent

The work arms the timer anew as long as there is an attempt, and each time its timeout has
passed one of the few tries is used up.  So an attempt ends when nothing more is heard.
-/

namespace IwlwifiStack

def MgdAuthData.left (data : MgdAuthData) : ℕ :=
  if data.done || data.waiting then 1 else 4 - data.tries

def MgdAssocData.left (data : MgdAssocData) : ℕ :=
  4 - data.tries

namespace ManagedSdata

variable {hw : ManagedHw} {s : ManagedSdata}

section Parts

theorem authData_destroyAuthData (assoc : Bool) : (s.destroyAuthData assoc).authData = none := by
  unfold destroyAuthData
  cases hauth : s.authData with
  | none => exact hauth
  | some data => cases assoc <;> rfl

theorem assocData_destroyAssocData (status : AssocStatus) :
    (s.destroyAssocData status).1.assocData = none := by
  unfold destroyAssocData
  cases hassoc : s.assocData with
  | none => exact hassoc
  | some data =>
      dsimp only
      split_ifs <;> rfl

@[simp] theorem statusReceived_runAgain (timeout : ℤ) :
    (s.runAgain timeout).statusReceived = s.statusReceived := by
  unfold runAgain
  split_ifs <;> rfl

theorem timer_runAgain_eq {timeout : ℤ} (htimer : s.timer = none ∨ s.timer = some timeout) :
    (s.runAgain timeout).timer = some timeout := by
  unfold runAgain
  rcases htimer with hnone | hsome
  · rw [hnone]
    rfl
  · rw [hsome]
    split_ifs
    · rfl
    · exact hsome

@[simp] theorem jiffies_runAgain (timeout : ℤ) : (s.runAgain timeout).jiffies = s.jiffies := by
  unfold runAgain
  split_ifs <;> rfl

/-- What the status of a frame makes of the timeout. -/
structure Retimed (s after : ManagedSdata) (timeout : ℤ) : Prop where
  received : after.statusReceived = false
  jiffies : after.jiffies = s.jiffies
  timer : s.timer = none → after.timer = none ∨ after.timer = some timeout

theorem statusWork_auth {data : MgdAuthData} (hauth : s.authData = some data)
    (hassoc : s.assocData = none) (hstarted : data.timeoutStarted = true) :
    ∃ now, (s.statusWork hw).authData = some now ∧ now.timeoutStarted = true ∧
      now.left = data.left ∧ Retimed s (s.statusWork hw) now.timeout ∧
      (s.statusReceived = false → now = data) := by
  unfold statusWork
  cases hreceived : s.statusReceived with
  | false =>
      exact ⟨data, hauth, hstarted, rfl, ⟨hreceived, rfl, fun htimer => .inl htimer⟩, fun _ => rfl⟩
  | true =>
      simp only [Bool.not_true, Bool.false_eq_true, if_false]
      split_ifs with hframe
      · unfold authStatus
        simp only [hauth]
        cases hacked : s.statusAcked with
        | false =>
            exact ⟨_, rfl, rfl, rfl, ⟨rfl, rfl, fun htimer => .inl htimer⟩,
              fun hnot => by cases hnot⟩
        | true =>
            simp only [if_true]
            exact ⟨_, authData_runAgain _, rfl, rfl, ⟨statusReceived_runAgain _,
              jiffies_runAgain _, fun htimer => .inr (timer_runAgain_eq (.inl htimer))⟩,
              fun hnot => by cases hnot⟩
      · unfold assocStatus
        simp only [hassoc]
        exact ⟨data, hauth, hstarted, rfl, ⟨rfl, rfl, fun htimer => .inl htimer⟩,
          fun hnot => by cases hnot⟩

theorem statusWork_assoc {data : MgdAssocData} (hauth : s.authData = none)
    (hassoc : s.assocData = some data) (hstarted : data.timeoutStarted = true) :
    ∃ now, (s.statusWork hw).assocData = some now ∧ now.timeoutStarted = true ∧
      now.left = data.left ∧ Retimed s (s.statusWork hw) now.timeout ∧
      (s.statusReceived = false → now = data) := by
  unfold statusWork
  cases hreceived : s.statusReceived with
  | false =>
      exact ⟨data, hassoc, hstarted, rfl, ⟨hreceived, rfl, fun htimer => .inl htimer⟩, fun _ => rfl⟩
  | true =>
      simp only [Bool.not_true, Bool.false_eq_true, if_false, hauth, Option.isSome_none,
        false_and]
      unfold assocStatus
      simp only [hassoc]
      cases hacked : s.statusAcked with
      | false =>
          simp only [Bool.not_false, Bool.false_eq_true, if_true, if_false]
          split_ifs with hframe
          · exact ⟨_, rfl, rfl, rfl, ⟨rfl, rfl, fun htimer => .inl htimer⟩,
              fun hnot => by cases hnot⟩
          · exact ⟨data, rfl, hstarted, rfl, ⟨rfl, rfl, fun htimer => .inl htimer⟩,
              fun hnot => by cases hnot⟩
      | true =>
          simp only [Bool.not_true, Bool.false_eq_true, if_true, if_false]
          split_ifs with hframe
          · exact ⟨_, assocData_runAgain _, rfl, rfl, ⟨statusReceived_runAgain _,
              jiffies_runAgain _, fun htimer => .inr (timer_runAgain_eq (.inl htimer))⟩,
              fun hnot => by cases hnot⟩
          · exact ⟨data, rfl, hstarted, rfl, ⟨rfl, rfl, fun htimer => .inl htimer⟩,
              fun hnot => by cases hnot⟩

theorem auth_sent {data : MgdAuthData} (hauth : s.authData = some data)
    (hsent : (s.auth hw).2.2 = none) :
    ∃ later timeout, (s.auth hw).1 = { s with authData := some later }.runAgain timeout ∧
      data.tries + 1 ≤ 3 ∧ later.tries = data.tries + 1 ∧ later.done = data.done ∧
      later.waiting = data.waiting ∧ later.timeoutStarted = true := by
  unfold auth at hsent ⊢
  rw [hauth] at hsent ⊢
  dsimp only at hsent ⊢
  by_cases htries : 3 < data.tries + 1
  · rw [if_pos htries] at hsent
    cases hsent
  · rw [if_neg htries]
    exact ⟨_, _, rfl, by omega, rfl, rfl, rfl, rfl⟩

theorem doAssoc_sent {data : MgdAssocData} {sendErr : Option MgdErrno}
    (hsent : (s.doAssoc hw data sendErr).2.2 = none) :
    ∃ later timeout, (s.doAssoc hw data sendErr).1 =
        { s with assocData := some later }.runAgain timeout ∧
      data.tries + 1 ≤ 3 ∧ later.tries = data.tries + 1 ∧ later.timeoutStarted = true := by
  unfold doAssoc at hsent ⊢
  dsimp only at hsent ⊢
  by_cases htries : 3 < data.tries + 1
  · rw [if_pos htries] at hsent
    cases hsent
  rw [if_neg htries] at hsent ⊢
  by_cases herr : sendErr.isSome = true
  · rw [if_pos herr] at hsent
    have hnone : sendErr = none := hsent
    rw [hnone] at herr
    cases herr
  · rw [if_neg herr]
    exact ⟨_, _, rfl, by omega, rfl, rfl⟩

theorem authWork_spec {data : MgdAuthData} (hauth : s.authData = some data)
    (hstarted : data.timeoutStarted = true) :
    (s.authWork hw).1.authData = none ∨
    (s.jiffies ≤ data.timeout ∧ (s.authWork hw).1 = s.runAgain data.timeout) ∨
    ∃ later, (s.authWork hw).1.authData = some later ∧ later.left < data.left ∧
      later.timeoutStarted = true ∧ (s.authWork hw).1.timer.isSome = true := by
  unfold authWork
  simp only [hauth, hstarted, Bool.not_true, Bool.false_eq_true, if_false]
  split_ifs with hpassed hdone hfailed
  · exact .inl (authData_destroyAuthData false)
  · exact .inl (authData_destroyAuthData false)
  · refine .inr (.inr ?_)
    rcases @auth_sent hw s data hauth (by simpa using hfailed) with
      ⟨later, timeout, heq, htries, hnext, hdoneEq, hwaitingEq, hagain⟩
    simp only [not_or, Bool.not_eq_true] at hdone
    rw [heq]
    refine ⟨later, authData_runAgain _, ?_, hagain, timer_runAgain _⟩
    simp only [MgdAuthData.left, hdoneEq, hwaitingEq, hdone.1, hdone.2, Bool.or_self,
      Bool.false_eq_true, if_false]
    omega
  · exact .inr (.inl ⟨not_lt.mp hpassed, rfl⟩)

theorem assocWork_spec {data : MgdAssocData} (hassoc : s.assocData = some data)
    (hstarted : data.timeoutStarted = true) (sendErr : Option MgdErrno) :
    (s.assocWork hw sendErr).1.assocData = none ∨
    (s.jiffies ≤ data.timeout ∧ (s.assocWork hw sendErr).1 = s.runAgain data.timeout) ∨
    ∃ later, (s.assocWork hw sendErr).1.assocData = some later ∧ later.left < data.left ∧
      later.timeoutStarted = true ∧ (s.assocWork hw sendErr).1.timer.isSome = true := by
  unfold assocWork
  simp only [hassoc, hstarted, Bool.not_true, Bool.false_eq_true, if_false]
  split_ifs with hpassed hbeacon hfailed
  · exact .inl (assocData_destroyAssocData _)
  · exact .inl (assocData_destroyAssocData _)
  · refine .inr (.inr ?_)
    rcases @doAssoc_sent hw s data sendErr (by simpa using hfailed) with
      ⟨later, timeout, heq, htries, hnext, hagain⟩
    rw [heq]
    refine ⟨later, assocData_runAgain _, ?_, hagain, timer_runAgain _⟩
    simp only [MgdAssocData.left]
    omega
  · exact .inr (.inl ⟨not_lt.mp hpassed, rfl⟩)

end Parts

section Steps

theorem pollWork_frame : (s.pollWork hw).1.authData = s.authData ∧
    (s.pollWork hw).1.assocData = s.assocData := by
  have hreset : s.resetApProbe.authData = s.authData ∧
      s.resetApProbe.assocData = s.assocData := by
    unfold resetApProbe
    split_ifs <;> exact ⟨rfl, rfl⟩
  have hlost : (s.disassocReport false).1.authData = s.authData ∧
      (s.disassocReport false).1.assocData = s.assocData := by
    unfold disassocReport setDisassoc
    split_ifs <;> exact ⟨rfl, rfl⟩
  have hsend : (s.mgdProbeApSend hw).1.authData = s.authData ∧
      (s.mgdProbeApSend hw).1.assocData = s.assocData := by
    simp [mgdProbeApSend]
  unfold pollWork
  dsimp only
  split_ifs
  all_goals
    first
      | exact ⟨rfl, rfl⟩
      | exact hreset
      | exact hlost
      | exact hsend
      | exact ⟨authData_runAgain _, assocData_runAgain _⟩

theorem staWork_armed (hok : s.core.Ok)
    (hauthStarted : ∀ data, s.authData = some data → data.timeoutStarted = true)
    (hassocStarted : ∀ data, s.assocData = some data → data.timeoutStarted = true)
    (sendErr : Option MgdErrno) : (s.staWork hw sendErr).1.Armed := by
  cases hauth : s.authData with
  | some data =>
      have halone := alone_of_auth hok hauth
      have hassoc := @statusWork_assoc_none hw s halone.1
      have hnone := (@authWork_frame hw (s.statusWork hw)).1.trans hassoc
      rcases @statusWork_auth hw s data hauth halone.1 (hauthStarted data hauth) with
        ⟨now, hnow, hstarted, -, -, -⟩
      rw [staWork_auth hok hauth]
      rcases @authWork_spec hw _ now hnow hstarted with
        hgone | ⟨-, heq⟩ | ⟨later, hlater, -, hlaterStarted, htimer⟩
      · exact .of_idle hgone hnone
      · rw [heq]
        exact .runAgain _ (forall_of_eq_some hnow hstarted) (forall_of_eq_none hassoc)
      · exact ⟨fun _ => .inl htimer, forall_of_eq_some hlater hlaterStarted,
          forall_of_eq_none hnone⟩
  | none =>
      have hnoAuth := @statusWork_auth_none hw s hauth
      cases hassoc : s.assocData with
      | some data =>
          rcases @statusWork_assoc hw s data hauth hassoc (hassocStarted data hassoc) with
            ⟨now, hnow, hstarted, -, -, -⟩
          have hframe := @assocWork_frame hw (s.statusWork hw) sendErr
          have hnone := hframe.1.trans hnoAuth
          rw [staWork_assoc hok hassoc]
          rcases @assocWork_spec hw _ now hnow hstarted sendErr with
            hgone | ⟨-, heq⟩ | ⟨later, hlater, -, hlaterStarted, htimer⟩
          · exact .of_idle hnone hgone
          · rw [heq]
            exact .runAgain _ (forall_of_eq_none hnoAuth) (forall_of_eq_some hnow hstarted)
          · exact ⟨fun _ => .inl htimer, forall_of_eq_none hnone,
              forall_of_eq_some hlater hlaterStarted⟩
      | none =>
          rw [staWork_idle hauth hassoc]
          exact .of_idle (pollWork_frame.1.trans hnoAuth)
            (pollWork_frame.2.trans (statusWork_assoc_none hassoc))

theorem auth_armed (hassoc : s.assocData = none) (hsent : (s.auth hw).2.2 = none) :
    (s.auth hw).1.Armed := by
  cases hauth : s.authData with
  | none =>
      unfold auth at hsent
      rw [hauth] at hsent
      cases hsent
  | some data =>
      rcases auth_sent hauth hsent with ⟨later, timeout, heq, -, -, -, -, hagain⟩
      rw [heq]
      exact .runAgain _ (forall_of_eq_some rfl hagain) (forall_of_eq_none hassoc)

theorem mgdAuth_armed (hok : s.core.Ok) (harmed : s.Armed) (req : AuthRequest)
    (view : AuthView) : (s.mgdAuth hw req view).1.Armed := by
  have hnone : ∀ alg ready, s.assocData = none →
      s.mgdAuthReplace hw req (s.newAuthData req alg) view.moved = ready →
      ready.1.assocData = none := by
    intro alg ready hassoc hready
    rcases @mgdAuthReplace_spec hw s hok hassoc req (s.newAuthData req alg) view.moved with
      ⟨-, hgone, -, -⟩
    rw [hready] at hgone
    simpa [core] using hgone
  refine @mgdAuth_cases hw s (fun result => result.1.Armed) req view (fun _ => harmed) ?_ ?_ ?_
  · intro alg ready stas out err hassoc hready _
    exact .of_idle rfl (hnone alg ready hassoc hready)
  · intro alg ready stas out sent left err hassoc hready _ hsent
    have hkept := (@auth_frame hw { ready.1 with stas := stas }).1
    rw [hsent] at hkept
    exact .of_idle rfl (hkept.trans (hnone alg ready hassoc hready))
  · intro alg ready stas out sent hassoc hready _ hsent hno _
    rw [← hsent] at hno ⊢
    exact auth_armed (hnone alg ready hassoc hready) hno

theorem timer_destroyAuthData : (s.destroyAuthData true).timer = s.timer := by
  unfold destroyAuthData
  cases s.authData <;> rfl

theorem mgdAssocStart_armed (hok : s.core.Ok) (harmed : s.Armed)
    (req : AssocRequest) (view : AssocView) : (s.mgdAssocStart hw req view).1.Armed := by
  have hkept : ∃ kept, (if s.matchAuth req then s else s.destroyAuthData false) = kept ∧
      kept.Armed ∧ kept.assocData = s.assocData := by
    refine ⟨_, rfl, ?_⟩
    split_ifs
    · exact ⟨harmed, rfl⟩
    · exact ⟨destroyAuthData_armed hok harmed, (destroyAuthData_frame false).1⟩
  rcases hkept with ⟨kept, heq, hkeptArmed, hsame⟩
  refine @mgdAssocStart_cases hw s (fun result => result.1.Armed) kept req view heq
    (fun _ => harmed) (fun _ _ _ => hkeptArmed.congr rfl rfl rfl id) ?_ ?_
  · intro hnone known addr stas out err _ _
    exact hkeptArmed.congr rfl (hsame.trans hnone).symm rfl id
  · intro _ known data stas out timeout hstarted _ _
    constructor
    · intro _
      rw [timer_destroyAuthData]
      exact .inl (timer_runAgain timeout)
    · exact forall_of_eq_none (authData_destroyAuthData true)
    · exact forall_of_eq_some ((destroyAuthData_frame true).1.trans (assocData_runAgain timeout))
        hstarted

theorem mgdAssoc_armed (hok : s.core.Ok) (harmed : s.Armed) (req : AssocRequest)
    (view : AssocView) : (s.mgdAssoc hw req view).1.Armed := by
  unfold mgdAssoc
  dsimp only
  split_ifs with h4addr hmem hcsa hssid hjoined
  · exact harmed
  · exact harmed
  · exact harmed
  · exact harmed
  · have hleft := disassocReport_follows hok hjoined false
    exact mgdAssocStart_armed hleft.ok (disassocReport_armed hok harmed false) req view
  · exact mgdAssocStart_armed hok harmed req view

theorem mgdDeauth_armed (hok : s.core.Ok) (harmed : s.Armed) (bssid : ℕ) :
    (s.mgdDeauth bssid).1.Armed := by
  unfold mgdDeauth
  dsimp only
  split_ifs
  · exact destroyAuthData_armed hok harmed
  · exact destroyAssocData_armed hok harmed (by decide)
  · exact disassocReport_armed hok harmed false
  · exact harmed

theorem mgdDisassoc_armed (hok : s.core.Ok) (harmed : s.Armed) (apAddr : ℕ) :
    (s.mgdDisassoc apAddr).1.Armed := by
  unfold mgdDisassoc
  split_ifs
  · exact harmed
  · exact disassocReport_armed hok harmed false

theorem destroyBoth_armed (hok : s.core.Ok) (harmed : s.Armed) {status : AssocStatus}
    (hstatus : status ≠ .success) (hrejected : status ≠ .rejected) :
    ((s.destroyAssocData status).1.destroyAuthData false).Armed :=
  destroyAuthData_armed (destroyAssocData_follows hok hstatus hrejected).ok
    (destroyAssocData_armed hok harmed hstatus)

theorem quiesceAttempts_armed (hok : s.core.Ok) (harmed : s.Armed) :
    s.quiesceAttempts.1.Armed := by
  unfold quiesceAttempts
  dsimp only
  split_ifs
  · exact harmed
  · exact destroyBoth_armed hok harmed (by decide) (by decide)

theorem mgdQuiesce_armed (hok : s.core.Ok) (harmed : s.Armed) (wowlan : Bool) :
    (s.mgdQuiesce wowlan).1.Armed := by
  have hgone := quiesceAttempts_armed hok harmed
  unfold mgdQuiesce
  dsimp only
  split_ifs
  · exact mgdDeauth_armed (quiesceAttempts_follows hok).ok hgone _
  · exact hgone

theorem staRestart_armed (hok : s.core.Ok) (harmed : s.Armed) (asked : Bool) :
    (s.staRestart asked).1.Armed := by
  unfold staRestart
  split_ifs
  · exact harmed
  · exact disassocReport_armed hok harmed false
  · exact harmed

theorem reconfigDone_armed (hok : s.core.Ok) (harmed : s.Armed) (asked : Bool) :
    (s.reconfigDone asked).1.Armed := by
  refine @staRestart_armed
    { s with inReconfig := false, workQueued := s.workQueued || s.inReconfig } hok ?_ asked
  refine harmed.congr rfl rfl rfl ?_
  rintro (hqueued | hignored)
  · left
    change (s.workQueued || s.inReconfig) = true
    rw [hqueued, Bool.true_or]
  · rcases Bool.or_eq_true_iff.mp hignored with hscan | hreconfig
    · right
      change (s.swScanning || false) = true
      rw [hscan, Bool.true_or]
    · left
      change (s.workQueued || s.inReconfig) = true
      rw [hreconfig, Bool.or_true]

theorem ifaceWork_armed (hok : s.core.Ok) (harmed : s.Armed) (sendErr : Option MgdErrno) :
    ({ s with workQueued := false }.ifaceWork hw sendErr).1.Armed := by
  unfold ifaceWork
  split_ifs with hignored
  · exact harmed.congr rfl rfl rfl fun _ => .inr hignored
  · exact @staWork_armed hw { s with workQueued := false } hok harmed.authStarted
      harmed.assocStarted sendErr

theorem mgdStop_armed : s.mgdStop.1.Armed :=
  .of_idle (authData_destroyAuthData false)
    ((destroyAuthData_frame false).1.trans (assocData_destroyAssocData _))

theorem step_armed (hok : s.core.Ok) (harmed : s.Armed) {event : ManagedEvent}
    {after : ManagedSdata} {output : List ManagedOutput}
    (hstep : s.step hw event = some (after, output)) : after.Armed := by
  have hgiven : ∀ {result : ManagedSdata × List ManagedOutput},
      some result = some (after, output) → result.1.Armed → after.Armed := by
    intro result heq hresult
    rw [Option.some.inj heq] at hresult
    exact hresult
  cases event with
  | auth req view => exact hgiven hstep (mgdAuth_armed hok harmed req view)
  | assoc req view => exact hgiven hstep (mgdAssoc_armed hok harmed req view)
  | deauth bssid => exact hgiven hstep (mgdDeauth_armed hok harmed bssid)
  | disassoc apAddr => exact hgiven hstep (mgdDisassoc_armed hok harmed apAddr)
  | rxAuth frame moved => exact hgiven hstep (rxMgmtAuth_armed hok harmed frame moved)
  | rxDeauth frame => exact hgiven hstep (rxMgmtDeauth_armed hok harmed frame)
  | rxDisassoc frame => exact hgiven hstep (rxMgmtDisassoc_armed hok harmed frame)
  | rxAssocResp frame view => exact hgiven hstep (rxMgmtAssocResp_armed hok harmed frame view)
  | rxBeacon view => exact hgiven hstep (rxMgmtBeacon_armed hok harmed view)
  | rxProbeResp fromBss =>
      refine hgiven hstep ?_
      unfold rxMgmtProbeResp
      split_ifs
      · exact resetApProbe_armed harmed
      · exact harmed
  | connTxStatus fc acked => exact hgiven hstep (harmed.congr rfl rfl rfl fun _ => .inl rfl)
  | txNotify ack => exact hgiven hstep (staTxNotify_armed harmed ack)
  | timer =>
      simp only [step, Option.ite_none_right_eq_some] at hstep
      exact hgiven hstep.2 ⟨fun _ => .inr (.inl rfl), harmed.authStarted, harmed.assocStarted⟩
  | work sendErr =>
      simp only [step, Option.ite_none_right_eq_some] at hstep
      exact hgiven hstep.2 (ifaceWork_armed hok harmed sendErr)
  | beaconLoss => exact hgiven hstep (harmed.congr rfl rfl rfl id)
  | connectionLoss => exact hgiven hstep (harmed.congr rfl rfl rfl id)
  | driverDisconnect reconnect => exact hgiven hstep (harmed.congr rfl rfl rfl id)
  | lossWork view => exact hgiven hstep (beaconConnectionLossWork_armed hok harmed view)
  | monitorWork view => exact hgiven hstep (mgdProbeAp_armed harmed view)
  | disconnectWork => exact hgiven hstep (disconnect_armed hok harmed)
  | scanStart => exact hgiven hstep (harmed.congr rfl rfl rfl fun _ => .inr rfl)
  | scanCompleted => exact hgiven hstep (harmed.congr rfl rfl rfl fun _ => .inl rfl)
  | quiesce wowlan => exact hgiven hstep (mgdQuiesce_armed hok harmed wowlan)
  | restartHw =>
      exact hgiven hstep (harmed.congr rfl rfl rfl fun _ => .inr (Bool.or_true s.swScanning))
  | restart asked => exact hgiven hstep (reconfigDone_armed hok harmed asked)
  | restartFailed => exact hgiven hstep mgdStop_armed
  | stop => exact hgiven hstep mgdStop_armed
  | tick n => exact hgiven hstep (harmed.congr rfl rfl rfl id)

end Steps

end ManagedSdata

end IwlwifiStack
