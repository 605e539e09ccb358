import IwlwifiStack.ConnectionReports

/-!
# Each request to associate is answered once

The requests of cfg80211 keep it informed as everything else does, so after every run its
connection is the one of the interface.
-/

namespace IwlwifiStack

namespace ManagedSdata

variable {hw : ManagedHw} {s : ManagedSdata}

section Leaving

theorem Follows.thenDisconnected {result : ManagedSdata × List ManagedOutput}
    (hresult : Follows s result) (hidle : result.1.core.conn = .idle) (addr : ℕ)
    (reconnect : Bool) : Follows s (result.1, result.2 ++ [.disconnected addr reconnect]) := by
  refine ⟨hresult.ok, ?_⟩
  rw [List.foldlM_append, hresult.informed, hidle]
  rfl

theorem destroyAuthData_idle (hok : s.core.Ok) (hauth : s.authData.isSome = true)
    (assoc : Bool) : (s.destroyAuthData assoc).core.conn = .idle := by
  rcases hok.authAlone (by simpa [core] using hauth) with ⟨hassoc, hjoined⟩
  rcases destroyAuthData_core s assoc with ⟨stas, hcore⟩
  rw [hcore]
  exact ConnCore.conn_of_idle hassoc hjoined

theorem destroyAssocData_idle {data : MgdAssocData} {status : AssocStatus} (hok : s.core.Ok)
    (hassoc : s.assocData = some data) (hstatus : status ≠ .success) :
    (s.destroyAssocData status).1.core.conn = .idle := by
  rw [@destroyAssocData_core s data status hassoc hstatus]
  exact ConnCore.conn_of_idle rfl (not_joined_of_assoc hok hassoc)

theorem mgdDeauth_follows (hok : s.core.Ok) (bssid : ℕ) : Follows s (s.mgdDeauth bssid) := by
  unfold mgdDeauth
  dsimp only
  split_ifs with hauth hassoc hjoined
  · have hsome : s.authData.isSome = true := by
      cases hdata : s.authData with
      | none => rw [hdata] at hauth; cases hauth
      | some data => rfl
    exact (destroyAuthData_follows hok false .nil).thenDisconnected
      (destroyAuthData_idle hok hsome false) bssid false
  · cases hdata : s.assocData with
    | none => rw [hdata] at hassoc; cases hassoc
    | some data =>
        exact (destroyAssocData_follows hok (by decide) (by decide)).thenDisconnected
          (destroyAssocData_idle hok hdata (by decide)) bssid false
  · exact disassocReport_follows hok hjoined.1 false
  · exact .same hok rfl (quiet_refused _)

theorem mgdDisassoc_follows (hok : s.core.Ok) (apAddr : ℕ) :
    Follows s (s.mgdDisassoc apAddr) := by
  unfold mgdDisassoc
  split_ifs with hnot
  · exact .same hok rfl (quiet_refused _)
  · simp only [Bool.not_eq_eq_eq_not, Bool.not_true, not_or, Bool.not_eq_false] at hnot
    exact disassocReport_follows hok hnot.1 false

theorem quiesceAttempts_follows (hok : s.core.Ok) : Follows s s.quiesceAttempts := by
  unfold quiesceAttempts
  dsimp only
  split_ifs
  · exact .same hok rfl .nil
  · have hgone := @destroyAssocData_follows s hok .abandon (by decide) (by decide)
    exact hgone.andThen (destroyAuthData_follows hgone.ok false
      (.single fun conn => by cases conn <;> rfl))

theorem mgdQuiesce_follows (hok : s.core.Ok) (wowlan : Bool) :
    Follows s (s.mgdQuiesce wowlan) := by
  have hgone := quiesceAttempts_follows hok
  unfold mgdQuiesce
  dsimp only
  split_ifs
  · exact hgone.andThen (mgdDeauth_follows hgone.ok _)
  · exact hgone

theorem staRestart_follows (hok : s.core.Ok) (asked : Bool) :
    Follows s (s.staRestart asked) := by
  unfold staRestart
  split_ifs with hjoined
  · exact .same hok rfl .nil
  · exact disassocReport_follows hok (by simpa using hjoined) false
  · exact .same hok rfl (.single fun conn => by cases conn <;> rfl)

theorem reconfigDone_follows (hok : s.core.Ok) (asked : Bool) :
    Follows s (s.reconfigDone asked) := by
  have hdone := @staRestart_follows
    { s with inReconfig := false, workQueued := s.workQueued || s.inReconfig } hok asked
  exact ⟨hdone.ok, hdone.informed⟩

theorem mgdStop_follows (hok : s.core.Ok) : Follows s s.mgdStop := by
  have hgone := @destroyAssocData_follows s hok .timeout (by decide) (by decide)
  have hlast := hgone.andThen (destroyAuthData_follows hgone.ok false .nil)
  rw [List.append_nil] at hlast
  exact ⟨hlast.ok, hlast.informed⟩

end Leaving

section Prepare

/-- Only the table of stations changes, and the access point is in it at the end. -/
structure Prepared (s : ManagedSdata) (addr : ℕ)
    (result : ManagedSdata × List ManagedOutput × Option MgdErrno) : Prop where
  table : ∃ stas, result.1 = { s with stas := stas } ∧ (∀ known ∈ s.stas, known ∈ stas) ∧
    (result.2.2 = none → addr ∈ stas)
  quiet : Quiet result.2.1

theorem Prepared.failed {addr : ℕ} {out : List ManagedOutput} {err : Option MgdErrno}
    (hquiet : Quiet out) (herr : err.isSome = true) : Prepared s addr (s, out, err) := by
  refine ⟨⟨s.stas, rfl, fun _ hmem => hmem, fun hnone => ?_⟩, hquiet⟩
  have hnot : err = none := hnone
  rw [hnot] at herr
  cases herr

theorem Prepared.ite {addr : ℕ} {c : Prop} [Decidable c]
    {first second : ManagedSdata × List ManagedOutput × Option MgdErrno}
    (hfirst : c → Prepared s addr first) (hsecond : ¬c → Prepared s addr second) :
    Prepared s addr (if c then first else second) := by
  split_ifs with hc
  · exact hfirst hc
  · exact hsecond hc

theorem prepConnection_spec (bss : MgdBss) (linkId : ℤ) (apMldAddr : Option ℕ)
    (assoc override : Bool) (view : PrepView) :
    Prepared s (apMldAddr.getD bss.bssid)
      (s.prepConnection bss linkId apMldAddr assoc override view) := by
  unfold prepConnection
  refine .ite (fun _ => .failed .nil rfl) fun _ => ?_
  refine .ite (fun _ => .failed .nil rfl) fun _ => ?_
  refine .ite (fun hset => .failed .nil hset) fun _ => ?_
  refine .ite (fun _ => .failed .nil rfl) fun _ => ?_
  refine .ite (fun _ => .failed quiet_warn rfl) fun _ => ?_
  refine .ite (fun _ => .failed .nil rfl) fun _ => ?_
  refine .ite (fun _ => .failed .nil rfl) fun _ => ?_
  refine .ite (fun hsetup => .failed .nil ?_) fun _ => ?_
  · rw [Bool.and_eq_true] at hsetup
    exact hsetup.2
  refine .ite (fun hchannel => .failed .nil ?_) fun _ => ?_
  · rw [Bool.and_eq_true] at hchannel
    exact hchannel.2
  refine .ite (fun hhave => ?_) fun _ => ?_
  · refine ⟨⟨s.stas, rfl, fun _ hmem => hmem, fun _ => ?_⟩, .nil⟩
    simp only [Bool.and_eq_true, decide_eq_true_eq] at hhave
    exact hhave.2
  refine .ite (fun _ => .failed .nil rfl) fun _ => ?_
  refine .ite (fun hinsert => .failed .nil hinsert) fun _ => ?_
  exact ⟨⟨_, rfl, fun _ hmem => List.mem_cons_of_mem _ hmem, fun _ => List.mem_cons_self⟩, .nil⟩

end Prepare

section Associate

theorem destroyAuthData_kept : (s.destroyAuthData true).core = { s.core with auth := none } := by
  unfold destroyAuthData
  cases hauth : s.authData with
  | none => simp [core, hauth]
  | some data => rfl

theorem assocRefused_follows {now : ManagedSdata} {out : List ManagedOutput} {err : MgdErrno}
    (hok : s.core.Ok) (hidle : s.core.conn = .idle) (hauth : now.authData = s.authData)
    (hassoc : now.assocData = none) (hjoined : now.associated = false)
    (hsub : ∀ addr ∈ s.stas, addr ∈ now.stas) (hquiet : Quiet out) :
    Follows s (now, out ++ [.refused err]) := by
  have hnone : now.core.assoc = none := by simp [core, hassoc]
  have hsame : now.core.auth = s.core.auth := by simp [core, hauth]
  constructor
  · constructor
    · intro addr haddr
      rw [hsame] at haddr
      exact hsub addr (hok.authKnown addr haddr)
    · exact fun _ => ⟨hnone, hjoined⟩
    · intro addr haddr
      rw [hnone] at haddr
      cases haddr
    · intro htrue
      exact absurd (htrue.symm.trans hjoined) (by decide)
  · rw [hquiet.append (quiet_refused err), hidle]
    exact congrArg some (ConnCore.conn_of_idle hnone hjoined).symm

theorem assocStarted_follows {now : ManagedSdata} {data : MgdAssocData}
    {out : List ManagedOutput} (hidle : s.core.conn = .idle) (hassoc : now.assocData = some data)
    (hjoined : now.associated = false) (haddr : now.apAddr = data.apAddr)
    (hmem : data.apAddr ∈ now.stas) (timeout : ℤ) (hquiet : Quiet out) :
    Follows s ((now.runAgain timeout).destroyAuthData true,
      out ++ [.assocAccepted data.apAddr]) := by
  have hcore : ((now.runAgain timeout).destroyAuthData true).core =
      ⟨none, some data.apAddr, false, data.apAddr, now.stas⟩ := by
    rw [destroyAuthData_kept, core_runAgain]
    simp [core, hassoc, hjoined, haddr]
  constructor
  · rw [hcore]
    constructor
    · intro addr hsome
      cases hsome
    · intro hsome
      cases hsome
    · intro addr hsome
      rw [← Option.some.inj hsome]
      exact ⟨rfl, hmem, rfl⟩
    · intro htrue
      cases htrue
  · rw [hcore, List.foldlM_append, hquiet, hidle]
    rfl

/-- What comes of a request to associate.  Of an attempt to authenticate `kept` keeps what is for
the same access point. -/
theorem mgdAssocStart_cases {P : ManagedSdata × List ManagedOutput → Prop} {kept : ManagedSdata}
    (req : AssocRequest) (view : AssocView)
    (hkept : (if s.matchAuth req then s else s.destroyAuthData false) = kept)
    (hrefused : ∀ err, P (s, [.refused err]))
    (hlate : s.assocData = none → ∀ known err,
      P ({ kept with haveBeacon := known }, [.refused err]))
    (hfailed : s.assocData = none → ∀ known addr stas out err,
      (∀ sta ∈ kept.stas, sta ∈ stas) → Quiet out →
      P ({ kept with haveBeacon := known, assocData := none, apAddr := addr, stas := stas },
        out ++ [.refused err]))
    (hstarted : s.assocData = none → ∀ known data stas out timeout, data.timeoutStarted = true →
      data.apAddr ∈ stas → Quiet out →
      P (({ kept with
        haveBeacon := known
        assocData := some data
        apAddr := data.apAddr
        stas := stas }.runAgain timeout).destroyAuthData true,
        out ++ [.assocAccepted data.apAddr])) :
    P (s.mgdAssocStart hw req view) := by
  unfold mgdAssocStart
  by_cases hcap : view.capabilities.isSome = true
  · rw [if_pos hcap]
    exact hrefused _
  rw [if_neg hcap]
  by_cases hundone : (s.authData.any fun data => !data.done) = true
  · rw [if_pos hundone]
    exact hrefused _
  rw [if_neg hundone]
  by_cases hbusy : s.assocData.isSome = true
  · rw [if_pos hbusy]
    exact hrefused _
  rw [if_neg hbusy]
  have hnone : s.assocData = none := by simpa using hbusy
  dsimp only
  rw [hkept]
  have hbeacon : ∃ known, (if view.deflink then { kept with haveBeacon := req.beaconIes }
      else kept) = { kept with haveBeacon := known } := by
    split_ifs
    · exact ⟨req.beaconIes, rfl⟩
    · exact ⟨kept.haveBeacon, rfl⟩
  rcases hbeacon with ⟨known, hknown⟩
  rw [hknown]
  rcases @prepConnection_spec { kept with
      haveBeacon := known
      assocData := some (s.newAssocData hw req false)
      apAddr := (s.newAssocData hw req false).apAddr } req.bss req.linkId req.apMldAddr true
      view.override view.prep with ⟨⟨stas, hprep, hsub, hmem⟩, hquiet⟩
  split_ifs with hkek hset hlink hchannels herr
  · exact hlate hnone kept.haveBeacon _
  · exact hlate hnone kept.haveBeacon _
  · exact hlate hnone kept.haveBeacon _
  · exact hlate hnone known _
  · rw [hprep]
    exact hfailed hnone known _ stas _ _ hsub hquiet
  · rw [hprep]
    exact hstarted hnone known
      (s.newAssocData hw req (hw.needDtimBeforeAssoc && !req.beaconIes)) stas _ _ rfl
      (hmem (by simpa using herr)) hquiet

theorem mgdAssocStart_follows (hok : s.core.Ok) (hjoined : s.associated = false)
    (req : AssocRequest) (view : AssocView) : Follows s (s.mgdAssocStart hw req view) := by
  -- A finished attempt for another access point is dropped first.
  have hkept : ∃ kept, (if s.matchAuth req then s else s.destroyAuthData false) = kept ∧
      Follows s (kept, []) ∧ kept.core.assoc = s.core.assoc ∧ kept.associated = false := by
    refine ⟨_, rfl, ?_⟩
    split_ifs
    · exact ⟨.same hok rfl .nil, rfl, hjoined⟩
    · rcases destroyAuthData_core s false with ⟨stas, hcore⟩
      exact ⟨destroyAuthData_follows hok false .nil, by rw [hcore],
        (congrArg ConnCore.associated hcore).trans hjoined⟩
  rcases hkept with ⟨kept, heq, hfollows, hassoc, hout⟩
  have hidle : s.assocData = none → kept.core.conn = .idle := by
    intro hnone
    exact ConnCore.conn_of_idle (hassoc.trans (by simp [core, hnone])) hout
  have hrest : ∀ {last : ManagedSdata × List ManagedOutput}, Follows kept last →
      Follows s last := by
    intro last hlast
    have hboth := hfollows.andThen hlast
    exact hboth
  refine mgdAssocStart_cases req view heq ?_ ?_ ?_ ?_
  · exact fun err => .same hok rfl (quiet_refused err)
  · exact fun _ known err => hrest (.same hfollows.ok rfl (quiet_refused err))
  · intro hnone known addr stas out err hsub hquiet
    exact hrest (assocRefused_follows hfollows.ok (hidle hnone) rfl rfl hout hsub hquiet)
  · intro hnone known data stas out timeout _ hmem hquiet
    exact hrest (@assocStarted_follows kept { kept with
      haveBeacon := known
      assocData := some data
      apAddr := data.apAddr
      stas := stas } data out (hidle hnone) rfl hout rfl hmem timeout hquiet)

theorem mgdAssoc_follows (hok : s.core.Ok) (req : AssocRequest) (view : AssocView) :
    Follows s (s.mgdAssoc hw req view) := by
  unfold mgdAssoc
  dsimp only
  by_cases h4addr : view.use4addr = true ∧ 0 ≤ req.linkId
  · rw [if_pos h4addr]
    exact .same hok rfl (quiet_refused _)
  rw [if_neg h4addr]
  by_cases hmem : view.noMem = true
  · rw [if_pos hmem]
    exact .same hok rfl (quiet_refused _)
  rw [if_neg hmem]
  by_cases hcsa : view.csaInProcess = true
  · rw [if_pos hcsa]
    exact .same hok rfl (quiet_refused _)
  rw [if_neg hcsa]
  by_cases hssid : (!view.ssidOk) = true
  · rw [if_pos hssid]
    exact .same hok rfl (quiet_refused _)
  rw [if_neg hssid]
  by_cases hjoined : s.associated = true
  · rw [if_pos hjoined]
    have hleft := disassocReport_follows hok hjoined false
    have hcore := (disassocReport_core (hok.joinedKnown hjoined) hjoined false).1
    exact hleft.andThen (mgdAssocStart_follows hleft.ok
      (congrArg ConnCore.associated hcore) req view)
  · rw [if_neg hjoined]
    exact mgdAssocStart_follows hok (by simpa using hjoined) req view

end Associate

section Authenticate

theorem mgdAuthReplace_spec (hok : s.core.Ok) (hassoc : s.assocData = none)
    (req : AuthRequest) (data : MgdAuthData) (moved : Bool) :
    (s.mgdAuthReplace hw req data moved).1.core.auth = some data.apAddr ∧
      (s.mgdAuthReplace hw req data moved).1.core.assoc = none ∧
      (s.mgdAuthReplace hw req data moved).1.core.associated = false ∧
      (s.mgdAuthReplace hw req data moved).2.foldlM SmeConn.read s.core.conn = some .idle := by
  have hnone : s.core.assoc = none := by simp [core, hassoc]
  cases hjoined : s.associated with
  | true =>
      have hauth : s.authData = none := by
        simpa [core] using hok.auth_none (.inr hjoined)
      have hcont : s.contAuth req = false := by simp [contAuth, hauth]
      have hmem : s.apAddr ∈ s.stas := hok.joinedKnown hjoined
      have heq : s.mgdAuthReplace hw req data moved =
          ({ ({ s with authData := some data } : ManagedSdata).disassocReport false |>.1 with
            apAddr := data.apAddr },
            (({ s with authData := some data } : ManagedSdata).disassocReport false).2) := by
        simp only [mgdAuthReplace, hcont, destroyAuthData_none hauth, Bool.false_eq_true,
          false_and, if_false, hjoined, if_true, List.nil_append]
      rcases @disassocReport_core { s with authData := some data } hmem hjoined false with
        ⟨hcore, hout⟩
      rw [heq]
      generalize ({ s with authData := some data } : ManagedSdata).disassocReport false = gone
        at hcore hout
      have hset : ({ gone.1 with apAddr := data.apAddr } : ManagedSdata).core =
          { gone.1.core with apAddr := data.apAddr } := rfl
      rw [hset, hcore, hout]
      exact ⟨rfl, hnone, rfl, read_disconnected hjoined false⟩
  | false =>
      have hidle : s.core.conn = .idle := ConnCore.conn_of_idle hnone hjoined
      rcases destroyAuthData_core s (s.contAuth req) with ⟨stas, hgone⟩
      have hdropped : ({ s.destroyAuthData (s.contAuth req) with
          authData := some data } : ManagedSdata).core =
          { s.core with auth := some data.apAddr, stas := stas } := by
        have hset : ({ s.destroyAuthData (s.contAuth req) with
            authData := some data } : ManagedSdata).core =
            { (s.destroyAuthData (s.contAuth req)).core with auth := some data.apAddr } := rfl
        rw [hset, hgone]
      rcases @markStaAuth_core hw { s.destroyAuthData (s.contAuth req) with
        authData := some data } data rfl moved with ⟨hmarked, hwarn⟩
      rw [hdropped] at hmarked
      unfold mgdAuthReplace
      dsimp only
      split_ifs with hmark hleft hleft
      · exact absurd ((congrArg ConnCore.associated hmarked).symm.trans hleft)
          (by simp [core, hjoined])
      · refine ⟨congrArg ConnCore.auth hmarked, (congrArg ConnCore.assoc hmarked).trans hnone,
          (congrArg ConnCore.associated hmarked).trans hjoined, ?_⟩
        rw [hwarn.append .nil, hidle]
      · exact absurd ((congrArg ConnCore.associated hdropped).symm.trans hleft)
          (by simp [core, hjoined])
      · refine ⟨congrArg ConnCore.auth hdropped, (congrArg ConnCore.assoc hdropped).trans hnone,
          (congrArg ConnCore.associated hdropped).trans hjoined, ?_⟩
        rw [hidle]
        rfl

/-- What comes of a request to authenticate.  With `ready` the old attempt and the old connection
are gone, and `sent` is what became of the first frame. -/
theorem mgdAuth_cases {P : ManagedSdata × List ManagedOutput → Prop} (req : AuthRequest)
    (view : AuthView) (hrefused : ∀ err, P (s, [.refused err]))
    (hfailed : ∀ alg ready stas out err, s.assocData = none →
      s.mgdAuthReplace hw req (s.newAuthData req alg) view.moved = ready → Quiet out →
      P ({ ready.1 with authData := none, stas := stas }, ready.2 ++ out ++ [.refused err]))
    (hunsent : ∀ alg ready stas out sent left err, s.assocData = none →
      s.mgdAuthReplace hw req (s.newAuthData req alg) view.moved = ready → Quiet out →
      ({ ready.1 with stas := stas } : ManagedSdata).auth hw = sent →
      P ({ sent.1 with authData := none, stas := left },
        ready.2 ++ out ++ sent.2.1 ++ [.refused err]))
    (haccepted : ∀ alg ready stas out sent, s.assocData = none →
      s.mgdAuthReplace hw req (s.newAuthData req alg) view.moved = ready → Quiet out →
      ({ ready.1 with stas := stas } : ManagedSdata).auth hw = sent → sent.2.2 = none →
      (s.newAuthData req alg).apAddr ∈ stas →
      P (sent.1, ready.2 ++ out ++ sent.2.1 ++
        [.authAccepted (s.newAuthData req alg).apAddr])) :
    P (s.mgdAuth hw req view) := by
  unfold mgdAuth
  cases halg : authAlg hw req.authType with
  | none => exact hrefused _
  | some alg =>
      dsimp only
      by_cases hbusy : s.assocData.isSome = true
      · rw [if_pos hbusy]
        exact hrefused _
      rw [if_neg hbusy]
      by_cases hcsa : view.csaInProcess = true
      · rw [if_pos hcsa]
        exact hrefused _
      rw [if_neg hcsa]
      by_cases hmem : view.noMem = true
      · rw [if_pos hmem]
        exact hrefused _
      rw [if_neg hmem]
      have hassoc : s.assocData = none := by simpa using hbusy
      generalize hready : s.mgdAuthReplace hw req (s.newAuthData req alg) view.moved = ready
      rcases @prepConnection_spec ready.1 req.bss req.linkId req.apMldAddr (s.contAuth req) false
        view.prep with ⟨⟨stas, hprep, _, hin⟩, hquiet⟩
      split_ifs with herr hfail
      · rw [hprep]
        exact hfailed alg ready stas _ _ hassoc hready hquiet
      · rw [hprep]
        exact hunsent alg ready stas _ _ _ _ hassoc hready hquiet rfl
      · have hsent := hfail
        rw [hprep] at hsent ⊢
        exact haccepted alg ready stas _ _ hassoc hready hquiet rfl (by simpa using hsent)
          (hin (by simpa using herr))

theorem mgdAuth_follows (hok : s.core.Ok) (req : AuthRequest) (view : AuthView) :
    Follows s (s.mgdAuth hw req view) := by
  -- Without an attempt nothing is going on.
  have hidle : ∀ {now : ManagedSdata} {gone out : List ManagedOutput},
      gone.foldlM SmeConn.read s.core.conn = some .idle → now.authData = none →
      now.core.assoc = none → now.associated = false → Quiet out →
      Follows s (now, gone ++ out) := by
    intro now gone out hread hnoAuth hnoAssoc hnot hout
    refine ⟨.of_idle (by simp [core, hnoAuth]) hnoAssoc hnot, ?_⟩
    rw [List.foldlM_append, hread]
    exact (hout .idle).trans (congrArg some (ConnCore.conn_of_idle hnoAssoc hnot).symm)
  refine mgdAuth_cases req view (fun err => .same hok rfl (quiet_refused err)) ?_ ?_ ?_
  · intro alg ready stas out err hassoc hready hquiet
    rcases @mgdAuthReplace_spec hw s hok hassoc req (s.newAuthData req alg) view.moved with
      ⟨-, hnone, hjoined, hread⟩
    rw [hready] at hnone hjoined hread
    rw [List.append_assoc]
    exact hidle hread rfl hnone hjoined (hquiet.append (quiet_refused err))
  · intro alg ready stas out sent left err hassoc hready hquiet hsent
    rcases @mgdAuthReplace_spec hw s hok hassoc req (s.newAuthData req alg) view.moved with
      ⟨-, hnone, hjoined, hread⟩
    rw [hready] at hnone hjoined hread
    rcases @auth_core hw { ready.1 with stas := stas } with ⟨hcore, hframe⟩
    rw [hsent] at hcore hframe
    rw [List.append_assoc, List.append_assoc]
    refine hidle hread rfl ?_ ?_ (hquiet.append (hframe.append (quiet_refused err)))
    · exact (congrArg ConnCore.assoc hcore).trans hnone
    · exact (congrArg ConnCore.associated hcore).trans hjoined
  · intro alg ready stas out sent hassoc hready hquiet hsent _ hin
    rcases @mgdAuthReplace_spec hw s hok hassoc req (s.newAuthData req alg) view.moved with
      ⟨hauth, hnone, hjoined, hread⟩
    rw [hready] at hauth hnone hjoined hread
    rcases @auth_core hw { ready.1 with stas := stas } with ⟨hcore, hframe⟩
    rw [hsent] at hcore hframe
    have hlast : sent.1.core = { ready.1.core with stas := stas } := hcore
    have haccepted : Quiet [ManagedOutput.authAccepted (s.newAuthData req alg).apAddr] :=
      .single fun conn => by cases conn <;> rfl
    refine ⟨?_, ?_⟩
    · rw [hlast]
      constructor
      · intro addr haddr
        have hsome : ready.1.core.auth = some addr := haddr
        rw [hauth] at hsome
        rw [← Option.some.inj hsome]
        exact hin
      · exact fun _ => ⟨hnone, hjoined⟩
      · intro addr haddr
        have hsome : ready.1.core.assoc = some addr := haddr
        rw [hnone] at hsome
        cases hsome
      · intro htrue
        exact absurd (htrue.symm.trans hjoined) (by decide)
    · rw [List.append_assoc, List.append_assoc, List.foldlM_append, hread, hlast]
      refine ((hquiet.append (hframe.append haccepted)) .idle).trans ?_
      exact congrArg some (ConnCore.conn_of_idle hnone hjoined).symm

end Authenticate

theorem step_follows (hok : s.core.Ok) {event : ManagedEvent} {after : ManagedSdata}
    {output : List ManagedOutput} (hstep : s.step hw event = some (after, output)) :
    Follows s (after, output) := by
  have hgiven : ∀ {result : ManagedSdata × List ManagedOutput}, some result = some (after, output) →
      Follows s result → Follows s (after, output) := by
    intro result heq hresult
    rw [← Option.some.inj heq]
    exact hresult
  cases event with
  | auth req view => exact hgiven hstep (mgdAuth_follows hok req view)
  | assoc req view => exact hgiven hstep (mgdAssoc_follows hok req view)
  | deauth bssid => exact hgiven hstep (mgdDeauth_follows hok bssid)
  | disassoc apAddr => exact hgiven hstep (mgdDisassoc_follows hok apAddr)
  | rxAuth frame moved => exact hgiven hstep (rxMgmtAuth_follows hok frame moved)
  | rxDeauth frame => exact hgiven hstep (rxMgmtDeauth_follows hok frame)
  | rxDisassoc frame => exact hgiven hstep (rxMgmtDisassoc_follows hok frame)
  | rxAssocResp frame view => exact hgiven hstep (rxMgmtAssocResp_follows hok frame view)
  | rxBeacon view => exact hgiven hstep (rxMgmtBeacon_follows hok view)
  | rxProbeResp fromBss => exact hgiven hstep (.same hok (rxMgmtProbeResp_core fromBss) .nil)
  | connTxStatus fc acked => exact hgiven hstep (.same hok rfl .nil)
  | txNotify ack => exact hgiven hstep (.same hok (staTxNotify_core ack) .nil)
  | timer =>
      simp only [step, Option.ite_none_right_eq_some] at hstep
      exact hgiven hstep.2 (.same hok rfl .nil)
  | work sendErr =>
      simp only [step, Option.ite_none_right_eq_some] at hstep
      have hwork := @ifaceWork_follows hw { s with workQueued := false } hok sendErr
      exact hgiven hstep.2 ⟨hwork.ok, hwork.informed⟩
  | beaconLoss => exact hgiven hstep (.same hok rfl .nil)
  | connectionLoss => exact hgiven hstep (.same hok rfl .nil)
  | driverDisconnect reconnect => exact hgiven hstep (.same hok rfl .nil)
  | lossWork view => exact hgiven hstep (beaconConnectionLossWork_follows hok view)
  | monitorWork view => exact hgiven hstep (mgdProbeAp_follows hok view)
  | disconnectWork => exact hgiven hstep (disconnect_follows hok)
  | scanStart => exact hgiven hstep (.same hok rfl .nil)
  | scanCompleted => exact hgiven hstep (.same hok rfl .nil)
  | quiesce wowlan => exact hgiven hstep (mgdQuiesce_follows hok wowlan)
  | restartHw => exact hgiven hstep (.same hok rfl .nil)
  | restart asked => exact hgiven hstep (reconfigDone_follows hok asked)
  | restartFailed =>
      have hstop := @mgdStop_follows { s with inReconfig := false } hok
      exact hgiven hstep ⟨hstop.ok, hstop.informed⟩
  | stop => exact hgiven hstep (mgdStop_follows hok)
  | tick n => exact hgiven hstep (.same hok rfl .nil)

end ManagedSdata

end IwlwifiStack
