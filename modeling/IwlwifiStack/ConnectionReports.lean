import IwlwifiStack.ConnectionModel

/-!
# What cfg80211 is told of a connection

cfg80211 keeps a state of its own from what is reported to it.  After every run that state is
the one of the interface, so each request to associate is answered once and the end of each
connection is reported once.
-/

namespace IwlwifiStack

/-- The connection as cfg80211 knows it. -/
inductive SmeConn
  | idle
  | associating (apAddr : ℕ)
  | connected (apAddr : ℕ)
  deriving DecidableEq, Repr

/-- What a report makes of the connection; `none` where it makes no sense. -/
def SmeConn.read : SmeConn → ManagedOutput → Option SmeConn
  | .idle, .assocAccepted addr => some (.associating addr)
  | _, .assocAccepted _ => none
  | .associating asked, .assocResp addr success =>
    if addr = asked then some (if success then .connected addr else .idle) else none
  | _, .assocResp _ _ => none
  | .associating asked, .assocFailure addr _ => if addr = asked then some .idle else none
  | _, .assocFailure _ _ => none
  | .connected joined, .disconnected addr _ => if addr = joined then some .idle else none
  | .associating _, .disconnected _ _ => none
  -- An attempt to authenticate was given up.
  | .idle, .disconnected _ _ => some .idle
  | conn, _ => some conn

/-- What decides on the connection. -/
structure ConnCore where
  auth : Option ℕ
  assoc : Option ℕ
  associated : Bool
  apAddr : ℕ
  stas : List ℕ

namespace ConnCore

def conn (c : ConnCore) : SmeConn :=
  if c.associated then .connected c.apAddr else c.assoc.elim .idle .associating

/-- Only one thing is going on, and the access point is in the table. -/
structure Ok (c : ConnCore) : Prop where
  authKnown : ∀ addr, c.auth = some addr → addr ∈ c.stas
  authAlone : c.auth.isSome = true → c.assoc = none ∧ c.associated = false
  assocKnown : ∀ addr, c.assoc = some addr →
    addr = c.apAddr ∧ addr ∈ c.stas ∧ c.associated = false
  joinedKnown : c.associated = true → c.apAddr ∈ c.stas

theorem Ok.assoc_none {c : ConnCore} (hok : c.Ok) (hjoined : c.associated = true) :
    c.assoc = none := by
  cases hassoc : c.assoc with
  | none => rfl
  | some addr => rw [(hok.assocKnown addr hassoc).2.2] at hjoined; cases hjoined

theorem Ok.auth_none {c : ConnCore} (hok : c.Ok)
    (hbusy : c.assoc.isSome = true ∨ c.associated = true) : c.auth = none := by
  cases hauth : c.auth with
  | none => rfl
  | some addr =>
      rcases hok.authAlone (by rw [hauth]; rfl) with ⟨hassoc, hjoined⟩
      rw [hassoc, hjoined] at hbusy
      simp at hbusy

theorem Ok.of_idle {c : ConnCore} (hauth : c.auth = none) (hassoc : c.assoc = none)
    (hjoined : c.associated = false) : c.Ok := by
  constructor
  · intro addr haddr; rw [hauth] at haddr; cases haddr
  · intro hsome; rw [hauth] at hsome; cases hsome
  · intro addr haddr; rw [hassoc] at haddr; cases haddr
  · intro htrue; rw [hjoined] at htrue; cases htrue

theorem conn_of_idle {c : ConnCore} (hassoc : c.assoc = none) (hjoined : c.associated = false) :
    c.conn = .idle := by
  simp [conn, hassoc, hjoined]

end ConnCore

namespace ManagedSdata

variable {hw : ManagedHw} {s : ManagedSdata}

def core (s : ManagedSdata) : ConnCore where
  auth := s.authData.map MgdAuthData.apAddr
  assoc := s.assocData.map MgdAssocData.apAddr
  associated := s.associated
  apAddr := s.apAddr
  stas := s.stas

def conn (s : ManagedSdata) : SmeConn :=
  if s.associated then .connected s.apAddr
  else (s.assocData.map MgdAssocData.apAddr).elim .idle .associating

def Quiet (out : List ManagedOutput) : Prop :=
  ∀ conn : SmeConn, out.foldlM SmeConn.read conn = some conn

theorem Quiet.nil : Quiet [] := fun _ => rfl

theorem Quiet.append {out more : List ManagedOutput} (hout : Quiet out) (hmore : Quiet more) :
    Quiet (out ++ more) := by
  intro conn
  rw [List.foldlM_append, hout conn]
  exact hmore conn

theorem Quiet.single {report : ManagedOutput}
    (hread : ∀ conn : SmeConn, conn.read report = some conn) : Quiet [report] := by
  intro conn
  rw [List.foldlM_cons, hread conn]
  rfl

/-- cfg80211 is kept informed, and the interface stays in order. -/
structure Follows (s : ManagedSdata) (result : ManagedSdata × List ManagedOutput) : Prop where
  ok : result.1.core.Ok
  informed : result.2.foldlM SmeConn.read s.core.conn = some result.1.core.conn

theorem Follows.same {after : ManagedSdata} {out : List ManagedOutput} (hok : s.core.Ok)
    (hcore : after.core = s.core) (hquiet : Quiet out) : Follows s (after, out) := by
  refine ⟨by rw [hcore]; exact hok, ?_⟩
  rw [hcore]
  exact hquiet _

theorem Follows.andThen {first last : ManagedSdata × List ManagedOutput} (hfirst : Follows s first)
    (hlast : Follows first.1 last) : Follows s (last.1, first.2 ++ last.2) := by
  refine ⟨hlast.ok, ?_⟩
  rw [List.foldlM_append, hfirst.informed]
  exact hlast.informed

theorem Follows.quietly {first : ManagedSdata × List ManagedOutput} {out : List ManagedOutput}
    (hfirst : Follows s first) (hquiet : Quiet out) : Follows s (first.1, first.2 ++ out) := by
  refine ⟨hfirst.ok, ?_⟩
  rw [List.foldlM_append, hfirst.informed]
  exact hquiet _

theorem Follows.afterCore {before : ManagedSdata} {result : ManagedSdata × List ManagedOutput}
    (hcore : before.core = s.core) (hresult : Follows before result) : Follows s result := by
  refine ⟨hresult.ok, ?_⟩
  rw [← hcore]
  exact hresult.informed

@[simp] theorem core_runAgain (timeout : ℤ) : (s.runAgain timeout).core = s.core := by
  unfold runAgain
  split_ifs <;> rfl

@[simp] theorem core_resetApProbe : s.resetApProbe.core = s.core := by
  unfold resetApProbe
  split_ifs <;> rfl

section Disassoc

theorem disassocReport_core (hmem : s.apAddr ∈ s.stas) (hjoined : s.associated = true)
    (reconnect : Bool) :
    (s.disassocReport reconnect).1.core = ⟨s.core.auth, s.core.assoc, false, 0, []⟩ ∧
      (s.disassocReport reconnect).2 = [.disconnected s.apAddr reconnect] := by
  simp [disassocReport, setDisassoc, hmem, hjoined, core]

theorem read_disconnected (hjoined : s.associated = true) (reconnect : Bool) :
    [ManagedOutput.disconnected s.apAddr reconnect].foldlM SmeConn.read s.core.conn =
      some .idle := by
  simp [ConnCore.conn, core, hjoined, SmeConn.read]

theorem disassocReport_follows (hok : s.core.Ok) (hjoined : s.associated = true)
    (reconnect : Bool) : Follows s (s.disassocReport reconnect) := by
  rcases disassocReport_core (hok.joinedKnown hjoined) hjoined reconnect with ⟨hcore, hout⟩
  have hauth : s.core.auth = none := hok.auth_none (.inr hjoined)
  have hassoc : s.core.assoc = none := hok.assoc_none hjoined
  constructor
  · rw [hcore]
    exact .of_idle hauth hassoc rfl
  · rw [hcore, hout, read_disconnected hjoined]
    have hidle : (ConnCore.mk s.core.auth s.core.assoc false 0 []).conn = .idle :=
      ConnCore.conn_of_idle hassoc rfl
    rw [hidle]

theorem disconnect_follows (hok : s.core.Ok) : Follows s s.disconnect := by
  unfold disconnect
  cases hjoined : s.associated with
  | false => exact .same hok rfl .nil
  | true =>
      have hgone := disassocReport_follows hok hjoined s.reconnect
      exact ⟨hgone.ok, hgone.informed⟩

end Disassoc

section Destroy

theorem destroyAuthData_core (s : ManagedSdata) (assoc : Bool) :
    ∃ stas, (s.destroyAuthData assoc).core = { s.core with auth := none, stas := stas } := by
  unfold destroyAuthData
  cases hauth : s.authData with
  | none => exact ⟨s.stas, by simp [core, hauth]⟩
  | some data =>
      cases assoc with
      | true => exact ⟨s.stas, rfl⟩
      | false => exact ⟨s.stas.erase data.apAddr, rfl⟩

theorem destroyAuthData_none {assoc : Bool} (hauth : s.authData = none) :
    s.destroyAuthData assoc = s := by
  simp [destroyAuthData, hauth]

theorem destroyAuthData_follows (hok : s.core.Ok) (assoc : Bool) {out : List ManagedOutput}
    (hquiet : Quiet out) : Follows s (s.destroyAuthData assoc, out) := by
  cases hauth : s.authData with
  | none =>
      rw [destroyAuthData_none hauth]
      exact .same hok rfl hquiet
  | some data =>
      have hsome : s.core.auth.isSome = true := by simp [core, hauth]
      rcases hok.authAlone hsome with ⟨hassoc, hjoined⟩
      rcases destroyAuthData_core s assoc with ⟨stas, hcore⟩
      refine ⟨?_, ?_⟩
      · rw [hcore]
        exact .of_idle rfl hassoc hjoined
      · rw [hquiet, hcore, ConnCore.conn_of_idle hassoc hjoined]
        exact congrArg some (ConnCore.conn_of_idle hassoc hjoined).symm

theorem destroyAssocData_core {data : MgdAssocData} {status : AssocStatus}
    (hassoc : s.assocData = some data) (hstatus : status ≠ .success) :
    (s.destroyAssocData status).1.core =
      { s.core with assoc := none, stas := s.stas.erase data.apAddr } := by
  simp [destroyAssocData, hassoc, hstatus, core]

theorem destroyAssocData_reports {data : MgdAssocData} {status : AssocStatus}
    (hassoc : s.assocData = some data) (hstatus : status ≠ .success)
    (hrejected : status ≠ .rejected) : (s.destroyAssocData status).2 =
      [.assocFailure data.apAddr (decide (status = .timeout))] := by
  simp [destroyAssocData, hassoc, hstatus, hrejected]

theorem conn_associating {data : MgdAssocData} (hok : s.core.Ok)
    (hassoc : s.assocData = some data) : s.core.conn = .associating data.apAddr := by
  have hmap : s.core.assoc = some data.apAddr := by simp [core, hassoc]
  simp [ConnCore.conn, hmap, (hok.assocKnown _ hmap).2.2]

theorem assocFailure_follows {before after : ManagedSdata} {data : MgdAssocData}
    {status : AssocStatus} (hok : before.core.Ok) (hassoc : before.assocData = some data)
    (hafter : after.assocData = some data) (hauth : after.authData = none)
    (hjoined : after.associated = false)
    (hstatus : status ≠ .success) (hrejected : status ≠ .rejected) :
    Follows before (after.destroyAssocData status) := by
  have hcore := @destroyAssocData_core after data status hafter hstatus
  constructor
  · rw [hcore]
    exact .of_idle (by simp [core, hauth]) rfl hjoined
  · rw [destroyAssocData_reports hafter hstatus hrejected, hcore, conn_associating hok hassoc,
      ConnCore.conn_of_idle rfl hjoined]
    simp [SmeConn.read]

theorem auth_none_of_assoc {data : MgdAssocData} (hok : s.core.Ok)
    (hassoc : s.assocData = some data) : s.authData = none := by
  have hnone : s.core.auth = none := hok.auth_none (.inl (by simp [core, hassoc]))
  simpa [core] using hnone

theorem not_joined_of_assoc {data : MgdAssocData} (hok : s.core.Ok)
    (hassoc : s.assocData = some data) : s.associated = false :=
  (hok.assocKnown data.apAddr (by simp [core, hassoc])).2.2

theorem destroyAssocData_follows (hok : s.core.Ok) {status : AssocStatus}
    (hstatus : status ≠ .success) (hrejected : status ≠ .rejected) :
    Follows s (s.destroyAssocData status) := by
  cases hassoc : s.assocData with
  | none =>
      have hsame : s.destroyAssocData status = (s, []) := by simp [destroyAssocData, hassoc]
      rw [hsame]
      exact .same hok rfl .nil
  | some data =>
      exact assocFailure_follows hok hassoc hassoc (auth_none_of_assoc hok hassoc)
        (not_joined_of_assoc hok hassoc) hstatus hrejected

end Destroy

section Frames

theorem quiet_rxAuth (addr trans status : ℕ) : Quiet [.rxAuth addr trans status] :=
  .single fun conn => by cases conn <;> rfl

theorem quiet_authFrame (addr trans : ℕ) : Quiet [.authFrame addr trans] :=
  .single fun conn => by cases conn <;> rfl

theorem quiet_warn : Quiet [.warn] :=
  .single fun conn => by cases conn <;> rfl

theorem quiet_refused (err : MgdErrno) : Quiet [.refused err] :=
  .single fun conn => by cases conn <;> rfl

theorem core_authData {data now : MgdAuthData} (hauth : s.authData = some data)
    (haddr : now.apAddr = data.apAddr) : { s with authData := some now }.core = s.core := by
  simp [core, hauth, haddr]

theorem core_assocData {data now : MgdAssocData} (hassoc : s.assocData = some data)
    (haddr : now.apAddr = data.apAddr) : { s with assocData := some now }.core = s.core := by
  simp [core, hassoc, haddr]

theorem markStaAuth_core {data : MgdAuthData} (hauth : s.authData.map MgdAuthData.apAddr =
    some data.apAddr) (moved : Bool) :
    (s.markStaAuth hw data moved).1.core = s.core ∧ Quiet (s.markStaAuth hw data moved).2.1 := by
  have hcore : ∀ timeout, ({ s with authData := some { data with
      done := true, timeout := timeout, timeoutStarted := true } }.runAgain timeout).core =
        s.core := by
    intro timeout
    rw [core_runAgain]
    simp [core, hauth]
  unfold markStaAuth
  dsimp only
  split_ifs
  · exact ⟨hcore _, .nil⟩
  · exact ⟨hcore _, quiet_warn⟩

theorem rxMgmtAuth_follows (hok : s.core.Ok) (frame : AuthFrame) (moved : Bool) :
    Follows s (s.rxMgmtAuth hw frame moved) := by
  unfold rxMgmtAuth
  cases hlen : frame.lenOk with
  | false => exact .same hok rfl .nil
  | true =>
      cases hauth : s.authData with
      | none => exact .same hok rfl .nil
      | some data =>
          simp only [Bool.not_true, Bool.false_eq_true, if_false]
          have hquiet := quiet_rxAuth frame.bssid frame.transaction frame.status
          have hmap : s.authData.map MgdAuthData.apAddr = some data.apAddr := by simp [hauth]
          split_ifs
          · exact .same hok rfl .nil
          · exact .same hok rfl .nil
          · refine .same hok ?_ hquiet
            rw [core_runAgain]
            exact core_authData hauth rfl
          · exact destroyAuthData_follows hok false hquiet
          · unfold authChallenge
            split_ifs
            · exact .same hok rfl .nil
            · exact .same hok (core_authData hauth rfl) (quiet_authFrame _ _)
          · rcases markStaAuth_core hmap moved with ⟨hcore, hwarn⟩
            exact .same hok hcore (hwarn.append hquiet)
          · rcases markStaAuth_core hmap moved with ⟨hcore, hwarn⟩
            exact .same hok hcore (hwarn.append .nil)
          · exact .same hok (core_authData hauth rfl) hquiet
          · exact .same hok rfl hquiet

theorem setDisassoc_follows (hok : s.core.Ok) (hjoined : s.associated = true) :
    Follows s (s.setDisassoc.1, s.setDisassoc.2.2 ++ [.disconnected s.apAddr false]) := by
  have hgone := disassocReport_follows hok hjoined false
  have hmem : s.apAddr ∈ s.stas := hok.joinedKnown hjoined
  have haddr : s.setDisassoc.2.1 = s.apAddr := by simp [setDisassoc, hmem, hjoined]
  have hsame : s.disassocReport false =
      (s.setDisassoc.1, s.setDisassoc.2.2 ++ [.disconnected s.apAddr false]) := by
    rw [← haddr]
    rfl
  rw [← hsame]
  exact hgone

theorem rxMgmtDeauth_follows (hok : s.core.Ok) (frame : DeauthFrame) :
    Follows s (s.rxMgmtDeauth frame) := by
  unfold rxMgmtDeauth
  split_ifs with hlen hsa hours hassoc
  · exact .same hok rfl .nil
  · exact .same hok rfl .nil
  · rw [hours.2]
    exact setDisassoc_follows hok hours.1
  · have hquiet : Quiet [.rxMgmt frame.bssid] := .single fun conn => by cases conn <;> rfl
    exact (destroyAssocData_follows hok (by decide) (by decide)).quietly hquiet
  · exact .same hok rfl .nil

theorem rxMgmtDisassoc_follows (hok : s.core.Ok) (frame : DeauthFrame) :
    Follows s (s.rxMgmtDisassoc frame) := by
  unfold rxMgmtDisassoc
  split_ifs with hlen hours hsa
  · exact .same hok rfl .nil
  · exact .same hok rfl .nil
  · exact .same hok rfl .nil
  · simp only [Bool.not_eq_eq_eq_not, Bool.not_true, not_or, Bool.not_eq_false,
      not_not] at hours
    rw [hours.2]
    exact setDisassoc_follows hok hours.1

end Frames

section Response

theorem Follows.afterQuiet {result : ManagedSdata × List ManagedOutput}
    {out : List ManagedOutput} (hquiet : Quiet out) (hresult : Follows s result) :
    Follows s (result.1, out ++ result.2) := by
  refine ⟨hresult.ok, ?_⟩
  rw [List.foldlM_append, hquiet]
  exact hresult.informed

theorem assocSuccess_cases {data : MgdAssocData} (view : AssocRespView)
    (hassoc : s.assocData = some data) (hjoined : s.associated = false) :
    ((s.assocSuccess data view).2.2 = true ∧ (s.assocSuccess data view).2.1 = [] ∧
      (s.assocSuccess data view).1.assocData = some data ∧
      (s.assocSuccess data view).1.core = { s.core with associated := true }) ∨
    ((s.assocSuccess data view).2.2 = false ∧ Quiet (s.assocSuccess data view).2.1 ∧
      (s.assocSuccess data view).1.assocData = some data ∧
      (s.assocSuccess data view).1.authData = s.authData ∧
      (s.assocSuccess data view).1.associated = false) := by
  unfold assocSuccess
  dsimp only
  split_ifs
  · exact .inr ⟨rfl, .nil, hassoc, rfl, hjoined⟩
  · exact .inr ⟨rfl, .nil, hassoc, rfl, hjoined⟩
  · exact .inr ⟨rfl, .nil, hassoc, rfl, hjoined⟩
  · exact .inl ⟨rfl, rfl, hassoc, rfl⟩
  · exact .inr ⟨rfl, quiet_warn, hassoc, rfl, hjoined⟩

theorem assocResp_follows {joined : ManagedSdata} {data : MgdAssocData} (hok : s.core.Ok)
    (hassoc : s.assocData = some data) (hnow : joined.assocData = some data)
    (hcore : joined.core = { s.core with associated := true }) :
    Follows s ((joined.destroyAssocData .success).1,
      (joined.destroyAssocData .success).2 ++ [.assocResp data.apAddr true]) := by
  have hmap : s.core.assoc = some data.apAddr := by simp [core, hassoc]
  rcases hok.assocKnown _ hmap with ⟨haddr, hmem, _⟩
  have hauth : s.core.auth = none := hok.auth_none (.inl (by rw [hmap]; rfl))
  have hgone : joined.destroyAssocData .success = ({ joined with assocData := none }, []) := by
    simp [destroyAssocData, hnow]
  have hafter : ({ joined with assocData := none } : ManagedSdata).core =
      ⟨s.core.auth, none, true, s.core.apAddr, s.core.stas⟩ := by
    have hset : ({ joined with assocData := none } : ManagedSdata).core =
        { joined.core with assoc := none } := rfl
    rw [hset, hcore]
  rw [hgone]
  constructor
  · rw [hafter]
    constructor
    · intro addr hsome
      rw [hauth] at hsome
      cases hsome
    · intro hsome
      rw [hauth] at hsome
      cases hsome
    · intro addr hsome
      cases hsome
    · intro _
      rw [← haddr]
      exact hmem
  · rw [hafter, conn_associating hok hassoc]
    simp [SmeConn.read, ConnCore.conn, ← haddr]

theorem assocRejected_follows {data : MgdAssocData} (hok : s.core.Ok)
    (hassoc : s.assocData = some data) :
    Follows s ((s.destroyAssocData .rejected).1,
      (s.destroyAssocData .rejected).2 ++ [.assocResp data.apAddr false]) := by
  have hcore := @destroyAssocData_core s data .rejected hassoc (by decide)
  have hauth : s.core.auth = none := hok.auth_none (.inl (by simp [core, hassoc]))
  have hjoined : s.core.associated = false := not_joined_of_assoc hok hassoc
  have hout : (s.destroyAssocData .rejected).2 = [] := by simp [destroyAssocData, hassoc]
  constructor
  · rw [hcore]
    exact .of_idle hauth rfl hjoined
  · have hidle : (s.destroyAssocData .rejected).1.core.conn = .idle := by
      rw [hcore]
      exact ConnCore.conn_of_idle rfl hjoined
    rw [hout, hidle, conn_associating hok hassoc]
    simp [SmeConn.read]

theorem rxMgmtAssocResp_follows (hok : s.core.Ok) (frame : AssocRespFrame)
    (view : AssocRespView) : Follows s (s.rxMgmtAssocResp hw frame view) := by
  unfold rxMgmtAssocResp
  cases hassoc : s.assocData with
  | none => exact .same hok rfl .nil
  | some data =>
      have hjoined := not_joined_of_assoc hok hassoc
      have hcomeback : Quiet [.assocComeback data.apAddr] :=
        .single fun conn => by cases conn <;> rfl
      dsimp only
      split_ifs with haddr hlen hfils hparsed hlater hms hstatus hmld hsuccess
      · exact .same hok rfl .nil
      · exact .same hok rfl .nil
      · exact .same hok rfl .nil
      · exact .same hok rfl .nil
      · refine .same hok ?_ hcomeback
        rw [core_runAgain]
        exact core_assocData hassoc rfl
      · exact .same hok (core_assocData hassoc rfl) hcomeback
      · exact assocRejected_follows hok hassoc
      · exact destroyAssocData_follows hok (by decide) (by decide)
      · rcases assocSuccess_cases view hassoc hjoined with
          ⟨hin, _⟩ | ⟨_, hquiet, hnow, hauth, hout⟩
        · rw [hin] at hsuccess
          cases hsuccess
        · rw [auth_none_of_assoc hok hassoc] at hauth
          exact .afterQuiet hquiet
            (assocFailure_follows hok hassoc hnow hauth hout (by decide) (by decide))
      · rcases assocSuccess_cases view hassoc hjoined with
          ⟨_, hnone, hnow, hcore⟩ | ⟨hin, _⟩
        · rw [hnone]
          exact assocResp_follows hok hassoc hnow hcore
        · rw [hin] at hsuccess
          exact absurd rfl hsuccess

end Response

section Probes

@[simp] theorem associated_resetApProbe : s.resetApProbe.associated = s.associated := by
  unfold resetApProbe
  split_ifs <;> rfl

theorem rxMgmtBeacon_follows (hok : s.core.Ok) (view : BeaconView) :
    Follows s (s.rxMgmtBeacon view) := by
  have hreset : s.resetApProbe.core = s.core := core_resetApProbe
  have hresetOk : s.resetApProbe.core.Ok := by rw [hreset]; exact hok
  unfold rxMgmtBeacon
  dsimp only
  split_ifs with hvalid hwaits hparsed hours hheard hssid hchanged hbw
  · exact .same hok rfl .nil
  · exact .same hok rfl .nil
  · cases hassoc : s.assocData with
    | none => exact .same hok rfl .nil
    | some data =>
        refine .same hok ?_ .nil
        rw [core_runAgain]
        simp [core, hassoc]
  · exact .same hok rfl .nil
  · exact .same hok hreset .nil
  · exact .afterCore hreset (disconnect_follows hresetOk)
  · exact .same hok hreset .nil
  · have hjoined : s.associated = true := by
      simp only [Bool.or_eq_true, Bool.not_eq_eq_eq_not, Bool.not_true, not_or,
        Bool.not_eq_false] at hours
      exact hours.1
    have hknown : ({ s.resetApProbe with
        haveBeacon := s.resetApProbe.haveBeacon || !view.mld } : ManagedSdata).core = s.core :=
      hreset
    refine .afterCore hknown (disassocReport_follows (by rw [hknown]; exact hok) ?_ false)
    exact associated_resetApProbe.trans hjoined
  · exact .same hok hreset .nil

theorem rxMgmtProbeResp_core (fromBss : Bool) : (s.rxMgmtProbeResp fromBss).core = s.core := by
  unfold rxMgmtProbeResp
  split_ifs
  · exact core_resetApProbe
  · rfl

theorem staTxNotify_core (ack : Bool) : (s.staTxNotify ack).core = s.core := by
  unfold staTxNotify
  split_ifs <;> rfl

theorem mgdProbeApSend_follows (hok : s.core.Ok) : Follows s (s.mgdProbeApSend hw) := by
  unfold mgdProbeApSend
  refine .same hok (core_runAgain _) (.append ?_ ?_)
  · split_ifs
    · exact quiet_warn
    · exact .nil
  · refine .single fun conn => ?_
    split_ifs <;> cases conn <;> rfl

theorem mgdProbeAp_follows (hok : s.core.Ok) (view : ProbeView) :
    Follows s (s.mgdProbeAp hw view) := by
  unfold mgdProbeAp
  split_ifs
  · exact .same hok rfl .nil
  · exact .same hok rfl .nil
  · exact .same hok rfl .nil
  · exact .same hok core_resetApProbe .nil
  · exact .same hok rfl .nil
  · have hsend := @mgdProbeApSend_follows hw
      { s with connectionPoll := true, probeSendCount := 0 } hok
    exact ⟨hsend.ok, hsend.informed⟩

theorem beaconConnectionLossWork_follows (hok : s.core.Ok) (view : ProbeView) :
    Follows s (s.beaconConnectionLossWork hw view) := by
  have hgone := disconnect_follows hok
  unfold beaconConnectionLossWork
  split_ifs
  · exact ⟨hgone.ok, hgone.informed⟩
  · exact ⟨hgone.ok, hgone.informed⟩
  · exact mgdProbeAp_follows hok view

end Probes

section Work

theorem authStatus_core : (s.authStatus hw).core = s.core := by
  unfold authStatus
  cases hauth : s.authData with
  | none => rfl
  | some data =>
      dsimp only
      split_ifs <;> simp [core, hauth, runAgain] <;> split_ifs <;> simp

theorem assocStatus_core : (s.assocStatus hw).core = s.core := by
  unfold assocStatus
  cases hassoc : s.assocData with
  | none => rfl
  | some data =>
      dsimp only
      split_ifs <;> simp [core, hassoc, runAgain] <;> split_ifs <;> simp

theorem statusWork_core : (s.statusWork hw).core = s.core := by
  unfold statusWork
  dsimp only
  split_ifs
  · rfl
  · exact authStatus_core
  · exact assocStatus_core

theorem auth_core : (s.auth hw).1.core = s.core ∧ Quiet (s.auth hw).2.1 := by
  unfold auth
  cases hauth : s.authData with
  | none => exact ⟨rfl, quiet_warn⟩
  | some data =>
      dsimp only
      split_ifs <;>
        first
          | exact ⟨core_authData hauth rfl, .nil⟩
          | exact ⟨(core_runAgain _).trans (core_authData hauth rfl), quiet_authFrame _ _⟩

theorem authWork_follows (hok : s.core.Ok) : Follows s (s.authWork hw) := by
  unfold authWork
  cases hauth : s.authData with
  | none => exact .same hok rfl .nil
  | some data =>
      rcases @auth_core hw s with ⟨hcore, hquiet⟩
      dsimp only
      split_ifs
      · exact .same hok rfl .nil
      · exact destroyAuthData_follows hok false .nil
      · refine .afterCore hcore (destroyAuthData_follows (by rw [hcore]; exact hok) false ?_)
        exact hquiet.append (.single fun conn => by cases conn <;> rfl)
      · exact .same hok hcore hquiet
      · exact .same hok (core_runAgain _) .nil

theorem doAssoc_core {data : MgdAssocData} (hassoc : s.assocData = some data)
    (sendErr : Option MgdErrno) :
    (s.doAssoc hw data sendErr).1.core = s.core ∧ Quiet (s.doAssoc hw data sendErr).2.1 := by
  have hframe : Quiet [.assocFrame data.apAddr] := .single fun conn => by cases conn <;> rfl
  unfold doAssoc
  dsimp only
  split_ifs <;>
    first
      | exact ⟨core_assocData hassoc rfl, .nil⟩
      | exact ⟨(core_runAgain _).trans (core_assocData hassoc rfl), hframe⟩

theorem assocWork_follows (hok : s.core.Ok) (sendErr : Option MgdErrno) :
    Follows s (s.assocWork hw sendErr) := by
  unfold assocWork
  cases hassoc : s.assocData with
  | none => exact .same hok rfl .nil
  | some data =>
      rcases @doAssoc_core hw s data hassoc sendErr with ⟨hcore, hquiet⟩
      dsimp only
      split_ifs
      · exact .same hok rfl .nil
      · exact destroyAssocData_follows hok (by decide) (by decide)
      · have htried : Follows s ((s.doAssoc hw data sendErr).1, (s.doAssoc hw data sendErr).2.1) :=
          .same hok hcore hquiet
        exact htried.andThen (destroyAssocData_follows htried.ok (by decide) (by decide))
      · exact .same hok hcore hquiet
      · exact .same hok (core_runAgain _) .nil

theorem pollWork_follows (hok : s.core.Ok) : Follows s (s.pollWork hw) := by
  unfold pollWork
  dsimp only
  by_cases hidle : (!s.connectionPoll || !s.associated) = true
  · rw [if_pos hidle]
    exact .same hok rfl .nil
  rw [if_neg hidle]
  have hjoined : s.associated = true := by
    simp only [Bool.or_eq_true, Bool.not_eq_eq_eq_not, Bool.not_true, not_or,
      Bool.not_eq_false] at hidle
    exact hidle.2
  have hlost := disassocReport_follows hok hjoined false
  have hsend := @mgdProbeApSend_follows hw s hok
  split_ifs
  all_goals
    first
      | exact hlost
      | exact hsend
      | exact .same hok core_resetApProbe .nil
      | exact .same hok (core_runAgain _) .nil

theorem staWork_follows (hok : s.core.Ok) (sendErr : Option MgdErrno) :
    Follows s (s.staWork hw sendErr) := by
  have hstatus : (s.statusWork hw).core = s.core := statusWork_core
  have hauthed : Follows s ((s.statusWork hw).authWork hw) :=
    .afterCore hstatus (authWork_follows (by rw [hstatus]; exact hok))
  have hassoced := hauthed.andThen (@assocWork_follows hw _ hauthed.ok sendErr)
  exact hassoced.andThen (@pollWork_follows hw _ hassoced.ok)

theorem ifaceWork_follows (hok : s.core.Ok) (sendErr : Option MgdErrno) :
    Follows s (s.ifaceWork hw sendErr) := by
  unfold ifaceWork
  split_ifs
  · exact .same hok rfl .nil
  · exact staWork_follows hok sendErr

end Work

end ManagedSdata

end IwlwifiStack
