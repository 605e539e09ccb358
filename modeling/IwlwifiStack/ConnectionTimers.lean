import IwlwifiStack.ConnectionRuns

/-!
# No attempt gets stuck

While the interface tries to authenticate or to associate, the timer is armed or the work is
queued.
-/

namespace IwlwifiStack

theorem forall_of_eq_some {α : Type} {o : Option α} {a : α} {p : α → Prop} (ho : o = some a)
    (ha : p a) : ∀ b, o = some b → p b := by
  intro b hb
  rw [ho] at hb
  rw [← Option.some.inj hb]
  exact ha

theorem forall_of_eq_none {α : Type} {o : Option α} {p : α → Prop} (ho : o = none) :
    ∀ b, o = some b → p b := by
  intro b hb
  rw [ho] at hb
  cases hb

namespace ManagedSdata

variable {hw : ManagedHw} {s : ManagedSdata}

def Pending (s : ManagedSdata) : Prop :=
  s.authData.isSome = true ∨ s.assocData.isSome = true

/-- An attempt is looked at again, if only when a scan or a restart ends. -/
structure Armed (s : ManagedSdata) : Prop where
  again : s.Pending → s.timer.isSome = true ∨ s.workQueued = true ∨ s.ignoresWork = true
  authStarted : ∀ data, s.authData = some data → data.timeoutStarted = true
  assocStarted : ∀ data, s.assocData = some data → data.timeoutStarted = true

theorem Armed.of_idle (hauth : s.authData = none) (hassoc : s.assocData = none) : s.Armed := by
  constructor
  · rintro (hsome | hsome)
    · rw [hauth] at hsome
      cases hsome
    · rw [hassoc] at hsome
      cases hsome
  · exact forall_of_eq_none hauth
  · exact forall_of_eq_none hassoc

theorem Armed.congr {after : ManagedSdata} (harmed : s.Armed)
    (hauth : after.authData = s.authData) (hassoc : after.assocData = s.assocData)
    (htimer : after.timer = s.timer)
    (hwork : s.workQueued = true ∨ s.ignoresWork = true →
      after.workQueued = true ∨ after.ignoresWork = true) : after.Armed := by
  constructor
  · intro hpending
    have hbefore : s.Pending := by
      unfold Pending at hpending ⊢
      rw [hauth, hassoc] at hpending
      exact hpending
    rw [htimer]
    exact (harmed.again hbefore).imp_right hwork
  · rw [hauth]
    exact harmed.authStarted
  · rw [hassoc]
    exact harmed.assocStarted

theorem timer_runAgain (timeout : ℤ) : (s.runAgain timeout).timer.isSome = true := by
  unfold runAgain
  split_ifs with hearlier
  · rfl
  · cases htimer : s.timer with
    | none =>
        rw [htimer] at hearlier
        exact absurd rfl hearlier
    | some expires => rfl

@[simp] theorem authData_runAgain (timeout : ℤ) :
    (s.runAgain timeout).authData = s.authData := by
  unfold runAgain
  split_ifs <;> rfl

@[simp] theorem assocData_runAgain (timeout : ℤ) :
    (s.runAgain timeout).assocData = s.assocData := by
  unfold runAgain
  split_ifs <;> rfl

theorem Armed.runAgain (timeout : ℤ)
    (hauth : ∀ data, s.authData = some data → data.timeoutStarted = true)
    (hassoc : ∀ data, s.assocData = some data → data.timeoutStarted = true) :
    (s.runAgain timeout).Armed := by
  refine ⟨fun _ => .inl (timer_runAgain timeout), ?_, ?_⟩
  · rw [authData_runAgain]
    exact hauth
  · rw [assocData_runAgain]
    exact hassoc

theorem Armed.retimeAuth (harmed : s.Armed) {now : MgdAuthData}
    (hnow : now.timeoutStarted = true) (timeout : ℤ) :
    ({ s with authData := some now }.runAgain timeout).Armed :=
  .runAgain timeout (forall_of_eq_some rfl hnow) harmed.assocStarted

theorem Armed.retimeAssoc (harmed : s.Armed) {now : MgdAssocData}
    (hnow : now.timeoutStarted = true) (timeout : ℤ) :
    ({ s with assocData := some now }.runAgain timeout).Armed :=
  .runAgain timeout harmed.authStarted (forall_of_eq_some rfl hnow)

theorem Armed.setAuth (harmed : s.Armed) {data now : MgdAuthData}
    (hauth : s.authData = some data) (hnow : now.timeoutStarted = data.timeoutStarted) :
    ({ s with authData := some now } : ManagedSdata).Armed := by
  have hsome : s.Pending := .inl (by rw [hauth]; rfl)
  have hstarted : now.timeoutStarted = true := hnow.trans (harmed.authStarted data hauth)
  exact ⟨fun _ => harmed.again hsome, forall_of_eq_some rfl hstarted, harmed.assocStarted⟩

theorem Armed.setAssoc (harmed : s.Armed) {data now : MgdAssocData}
    (hassoc : s.assocData = some data) (hnow : now.timeoutStarted = true) :
    ({ s with assocData := some now } : ManagedSdata).Armed := by
  have hsome : s.Pending := .inr (by rw [hassoc]; rfl)
  exact ⟨fun _ => harmed.again hsome, harmed.authStarted, forall_of_eq_some rfl hnow⟩

section Endings

theorem auth_none_of_joined (hok : s.core.Ok) (hjoined : s.associated = true) :
    s.authData = none ∧ s.assocData = none := by
  have hauth : s.core.auth = none := hok.auth_none (.inr hjoined)
  have hassoc : s.core.assoc = none := hok.assoc_none hjoined
  exact ⟨by simpa [core] using hauth, by simpa [core] using hassoc⟩

theorem alone_of_auth {data : MgdAuthData} (hok : s.core.Ok) (hauth : s.authData = some data) :
    s.assocData = none ∧ s.associated = false := by
  have halone := hok.authAlone (by simp [core, hauth])
  exact ⟨by simpa [core] using halone.1, halone.2⟩

theorem setDisassoc_armed (hok : s.core.Ok) (harmed : s.Armed) : s.setDisassoc.1.Armed := by
  unfold setDisassoc
  split_ifs with hmem hjoined
  · exact harmed
  · have hnone := auth_none_of_joined hok (by simpa using hjoined)
    exact .of_idle hnone.1 hnone.2
  · exact harmed

theorem disassocReport_armed (hok : s.core.Ok) (harmed : s.Armed) (reconnect : Bool) :
    (s.disassocReport reconnect).1.Armed :=
  setDisassoc_armed hok harmed

theorem disconnect_armed (hok : s.core.Ok) (harmed : s.Armed) : s.disconnect.1.Armed := by
  unfold disconnect
  split_ifs
  · exact harmed
  · exact (disassocReport_armed hok harmed s.reconnect).congr rfl rfl rfl id

theorem destroyAuthData_armed (hok : s.core.Ok) (harmed : s.Armed) :
    (s.destroyAuthData false).Armed := by
  cases hauth : s.authData with
  | none =>
      rw [destroyAuthData_none hauth]
      exact harmed
  | some data =>
      have halone := alone_of_auth hok hauth
      simp only [destroyAuthData, hauth, Bool.false_eq_true, if_false]
      exact .of_idle rfl halone.1

theorem destroyAssocData_failed {data : MgdAssocData} {status : AssocStatus}
    (hassoc : s.assocData = some data) (hauth : s.authData = none)
    (hstatus : status ≠ .success) : (s.destroyAssocData status).1.Armed := by
  simp only [destroyAssocData, hassoc, hstatus, if_false]
  exact .of_idle hauth rfl

theorem destroyAssocData_armed (hok : s.core.Ok) (harmed : s.Armed) {status : AssocStatus}
    (hstatus : status ≠ .success) : (s.destroyAssocData status).1.Armed := by
  cases hassoc : s.assocData with
  | none =>
      simp only [destroyAssocData, hassoc]
      exact harmed
  | some data => exact destroyAssocData_failed hassoc (auth_none_of_assoc hok hassoc) hstatus

end Endings

section Frames

theorem markStaAuth_armed (harmed : s.Armed) (data : MgdAuthData) (moved : Bool) :
    (s.markStaAuth hw data moved).1.Armed := by
  unfold markStaAuth
  dsimp only
  split_ifs <;> exact harmed.retimeAuth rfl _

theorem rxMgmtAuth_armed (hok : s.core.Ok) (harmed : s.Armed) (frame : AuthFrame)
    (moved : Bool) : (s.rxMgmtAuth hw frame moved).1.Armed := by
  unfold rxMgmtAuth
  cases hlen : frame.lenOk with
  | false => exact harmed
  | true =>
      cases hauth : s.authData with
      | none => exact harmed
      | some data =>
          simp only [Bool.not_true, Bool.false_eq_true, if_false]
          split_ifs
          · exact harmed
          · exact harmed
          · exact harmed.retimeAuth rfl _
          · exact destroyAuthData_armed hok harmed
          · unfold authChallenge
            split_ifs
            · exact harmed
            · exact harmed.setAuth hauth rfl
          · exact markStaAuth_armed harmed data moved
          · exact markStaAuth_armed harmed data moved
          · exact harmed.setAuth hauth rfl
          · exact harmed

theorem rxMgmtDeauth_armed (hok : s.core.Ok) (harmed : s.Armed) (frame : DeauthFrame) :
    (s.rxMgmtDeauth frame).1.Armed := by
  unfold rxMgmtDeauth
  dsimp only
  split_ifs
  · exact harmed
  · exact harmed
  · exact setDisassoc_armed hok harmed
  · exact destroyAssocData_armed hok harmed (by decide)
  · exact harmed

theorem rxMgmtDisassoc_armed (hok : s.core.Ok) (harmed : s.Armed) (frame : DeauthFrame) :
    (s.rxMgmtDisassoc frame).1.Armed := by
  unfold rxMgmtDisassoc
  dsimp only
  split_ifs
  · exact harmed
  · exact harmed
  · exact harmed
  · exact setDisassoc_armed hok harmed

theorem assocSuccess_frame (data : MgdAssocData) (view : AssocRespView) :
    (s.assocSuccess data view).1.authData = s.authData ∧
      (s.assocSuccess data view).1.assocData = s.assocData := by
  unfold assocSuccess
  dsimp only
  split_ifs <;> exact ⟨rfl, rfl⟩

theorem rxMgmtAssocResp_armed (hok : s.core.Ok) (harmed : s.Armed) (frame : AssocRespFrame)
    (view : AssocRespView) : (s.rxMgmtAssocResp hw frame view).1.Armed := by
  unfold rxMgmtAssocResp
  cases hassoc : s.assocData with
  | none => exact harmed
  | some data =>
      have hauth := auth_none_of_assoc hok hassoc
      rcases @assocSuccess_frame s data view with ⟨hsameAuth, hsameAssoc⟩
      rw [hauth] at hsameAuth
      rw [hassoc] at hsameAssoc
      dsimp only
      split_ifs with haddr hlen hfils hparsed hlater hms hstatus hmld hsuccess
      · exact harmed
      · exact harmed
      · exact harmed
      · exact harmed
      · exact harmed.retimeAssoc rfl _
      · exact harmed.setAssoc hassoc rfl
      · exact destroyAssocData_failed hassoc hauth (by decide)
      · exact destroyAssocData_failed hassoc hauth (by decide)
      · exact destroyAssocData_failed hsameAssoc hsameAuth (by decide)
      · simp only [destroyAssocData, hsameAssoc, if_true]
        exact .of_idle hsameAuth rfl

theorem resetApProbe_armed (harmed : s.Armed) : s.resetApProbe.Armed := by
  unfold resetApProbe
  split_ifs
  · exact harmed
  · exact harmed.congr rfl rfl rfl id

theorem rxMgmtBeacon_armed (hok : s.core.Ok) (harmed : s.Armed) (view : BeaconView) :
    (s.rxMgmtBeacon view).1.Armed := by
  have hreset := resetApProbe_armed harmed
  have hresetOk : s.resetApProbe.core.Ok := by rw [core_resetApProbe]; exact hok
  unfold rxMgmtBeacon
  dsimp only
  split_ifs
  · exact harmed
  · exact harmed
  · cases hassoc : s.assocData with
    | none => exact harmed
    | some data =>
        exact (@Armed.congr s { s with haveBeacon := true } harmed rfl rfl rfl
          id).retimeAssoc rfl _
  · exact harmed
  · exact hreset
  · exact disconnect_armed hresetOk hreset
  · exact hreset
  · exact @disassocReport_armed { s.resetApProbe with
      haveBeacon := s.resetApProbe.haveBeacon || !view.mld } hresetOk
        (hreset.congr rfl rfl rfl id) false
  · exact hreset.congr rfl rfl rfl id

theorem mgdProbeAp_armed (harmed : s.Armed) (view : ProbeView) :
    (s.mgdProbeAp hw view).1.Armed := by
  unfold mgdProbeAp
  split_ifs
  · exact harmed
  · exact harmed
  · exact harmed
  · exact resetApProbe_armed harmed
  · exact harmed
  · exact .runAgain _ harmed.authStarted harmed.assocStarted

theorem beaconConnectionLossWork_armed (hok : s.core.Ok) (harmed : s.Armed)
    (view : ProbeView) : (s.beaconConnectionLossWork hw view).1.Armed := by
  unfold beaconConnectionLossWork
  split_ifs
  · exact (disconnect_armed hok harmed).congr rfl rfl rfl id
  · exact (disconnect_armed hok harmed).congr rfl rfl rfl id
  · exact mgdProbeAp_armed harmed view

theorem staTxNotify_armed (harmed : s.Armed) (ack : Bool) : (s.staTxNotify ack).Armed := by
  unfold staTxNotify
  split_ifs
  · exact harmed
  · exact harmed.congr rfl rfl rfl fun _ => .inl rfl
  · exact harmed.congr rfl rfl rfl fun _ => .inl rfl

end Frames

section Work

theorem destroyAuthData_frame (assoc : Bool) :
    (s.destroyAuthData assoc).assocData = s.assocData ∧
      (s.destroyAuthData assoc).associated = s.associated := by
  unfold destroyAuthData
  cases s.authData with
  | none => exact ⟨rfl, rfl⟩
  | some data => cases assoc <;> exact ⟨rfl, rfl⟩

@[simp] theorem associated_runAgain (timeout : ℤ) :
    (s.runAgain timeout).associated = s.associated := by
  unfold runAgain
  split_ifs <;> rfl

theorem auth_frame : (s.auth hw).1.assocData = s.assocData ∧
    (s.auth hw).1.associated = s.associated := by
  unfold auth
  cases s.authData with
  | none => exact ⟨rfl, rfl⟩
  | some data =>
      dsimp only
      split_ifs <;>
        first
          | exact ⟨rfl, rfl⟩
          | exact ⟨assocData_runAgain _, associated_runAgain _⟩

theorem authWork_of_none (hauth : s.authData = none) : s.authWork hw = (s, []) := by
  simp [authWork, hauth]

theorem assocWork_of_none (hassoc : s.assocData = none) (sendErr : Option MgdErrno) :
    s.assocWork hw sendErr = (s, []) := by
  simp [assocWork, hassoc]

theorem pollWork_of_left (hjoined : s.associated = false) : s.pollWork hw = (s, []) := by
  simp [pollWork, hjoined]

theorem authWork_frame : (s.authWork hw).1.assocData = s.assocData ∧
    (s.authWork hw).1.associated = s.associated := by
  unfold authWork
  cases s.authData with
  | none => exact ⟨rfl, rfl⟩
  | some data =>
      dsimp only
      split_ifs
      · exact ⟨rfl, rfl⟩
      · exact destroyAuthData_frame false
      · exact ⟨(destroyAuthData_frame false).1.trans auth_frame.1,
          (destroyAuthData_frame false).2.trans auth_frame.2⟩
      · exact auth_frame
      · simp

theorem doAssoc_frame (data : MgdAssocData) (sendErr : Option MgdErrno) :
    (s.doAssoc hw data sendErr).1.authData = s.authData ∧
      (s.doAssoc hw data sendErr).1.associated = s.associated := by
  unfold doAssoc
  dsimp only
  split_ifs <;>
    first
      | exact ⟨rfl, rfl⟩
      | exact ⟨authData_runAgain _, associated_runAgain _⟩

theorem destroyAssocData_frame (status : AssocStatus) :
    (s.destroyAssocData status).1.authData = s.authData ∧
      (s.destroyAssocData status).1.associated = s.associated := by
  unfold destroyAssocData
  cases s.assocData with
  | none => exact ⟨rfl, rfl⟩
  | some data =>
      dsimp only
      split_ifs <;> exact ⟨rfl, rfl⟩

theorem assocWork_frame (sendErr : Option MgdErrno) :
    (s.assocWork hw sendErr).1.authData = s.authData ∧
      (s.assocWork hw sendErr).1.associated = s.associated := by
  unfold assocWork
  cases s.assocData with
  | none => exact ⟨rfl, rfl⟩
  | some data =>
      dsimp only
      split_ifs
      · exact ⟨rfl, rfl⟩
      · exact destroyAssocData_frame _
      · exact ⟨(destroyAssocData_frame _).1.trans (doAssoc_frame _ _).1,
          (destroyAssocData_frame _).2.trans (doAssoc_frame _ _).2⟩
      · exact doAssoc_frame _ _
      · simp

theorem statusWork_associated : (s.statusWork hw).associated = s.associated :=
  congrArg ConnCore.associated statusWork_core

theorem statusWork_auth_none (hauth : s.authData = none) : (s.statusWork hw).authData = none := by
  have hcore : (s.statusWork hw).core.auth = none := by
    rw [statusWork_core]
    simp [core, hauth]
  simpa [core] using hcore

theorem statusWork_assoc_none (hassoc : s.assocData = none) :
    (s.statusWork hw).assocData = none := by
  have hcore : (s.statusWork hw).core.assoc = none := by
    rw [statusWork_core]
    simp [core, hassoc]
  simpa [core] using hcore

theorem staWork_auth {data : MgdAuthData} (hok : s.core.Ok) (hauth : s.authData = some data)
    (sendErr : Option MgdErrno) :
    (s.staWork hw sendErr).1 = ((s.statusWork hw).authWork hw).1 := by
  have halone := alone_of_auth hok hauth
  have hassoc : ((s.statusWork hw).authWork hw).1.assocData = none :=
    authWork_frame.1.trans (statusWork_assoc_none halone.1)
  have hjoined : ((s.statusWork hw).authWork hw).1.associated = false :=
    authWork_frame.2.trans (statusWork_associated.trans halone.2)
  simp only [staWork, assocWork_of_none hassoc, pollWork_of_left hjoined]

theorem staWork_assoc {data : MgdAssocData} (hok : s.core.Ok) (hassoc : s.assocData = some data)
    (sendErr : Option MgdErrno) :
    (s.staWork hw sendErr).1 = ((s.statusWork hw).assocWork hw sendErr).1 := by
  have hauth := @statusWork_auth_none hw s (auth_none_of_assoc hok hassoc)
  have hjoined : ((s.statusWork hw).assocWork hw sendErr).1.associated = false :=
    (assocWork_frame sendErr).2.trans
      (statusWork_associated.trans (not_joined_of_assoc hok hassoc))
  simp only [staWork, authWork_of_none hauth, pollWork_of_left hjoined]

theorem staWork_idle (hauth : s.authData = none) (hassoc : s.assocData = none)
    (sendErr : Option MgdErrno) :
    (s.staWork hw sendErr).1 = ((s.statusWork hw).pollWork hw).1 := by
  have hnoAuth := @statusWork_auth_none hw s hauth
  have hnoAssoc := @statusWork_assoc_none hw s hassoc
  simp only [staWork, authWork_of_none hnoAuth, assocWork_of_none hnoAssoc]

end Work

end ManagedSdata

end IwlwifiStack
