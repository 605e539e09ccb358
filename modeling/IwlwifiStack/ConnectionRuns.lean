import IwlwifiStack.ConnectionRequests

/-!
# A request to associate is answered once

After every run cfg80211 knows of the connection that the interface has.  Each request that
was taken has one answer, but for the last one, which may still be open.
-/

namespace IwlwifiStack

def ManagedOutput.takesAssoc : ManagedOutput → Bool
  | .assocAccepted _ => true
  | _ => false

def ManagedOutput.answersAssoc : ManagedOutput → Bool
  | .assocResp _ _ => true
  | .assocFailure _ _ => true
  | _ => false

def SmeConn.waiting : SmeConn → ℕ
  | .associating _ => 1
  | _ => 0

namespace SmeConn

theorem read_counts {conn last : SmeConn} {report : ManagedOutput}
    (hread : conn.read report = some last) :
    conn.waiting + (if report.takesAssoc then 1 else 0) =
      (if report.answersAssoc then 1 else 0) + last.waiting := by
  cases conn with
  | idle =>
      cases report <;> simp [read] at hread <;> subst hread <;>
        simp [SmeConn.waiting, ManagedOutput.takesAssoc, ManagedOutput.answersAssoc]
  | associating asked =>
      cases report with
      | assocResp addr success =>
          simp only [read, Option.ite_none_right_eq_some, Option.some.injEq] at hread
          rw [← hread.2]
          cases success <;>
            simp [SmeConn.waiting, ManagedOutput.takesAssoc, ManagedOutput.answersAssoc]
      | assocFailure addr timeout =>
          simp only [read, Option.ite_none_right_eq_some, Option.some.injEq] at hread
          rw [← hread.2]
          simp [SmeConn.waiting, ManagedOutput.takesAssoc, ManagedOutput.answersAssoc]
      | _ =>
          simp [read] at hread <;> subst hread <;>
            simp [SmeConn.waiting, ManagedOutput.takesAssoc, ManagedOutput.answersAssoc]
  | connected joined =>
      cases report with
      | disconnected addr reconnect =>
          simp only [read, Option.ite_none_right_eq_some, Option.some.injEq] at hread
          rw [← hread.2]
          simp [SmeConn.waiting, ManagedOutput.takesAssoc, ManagedOutput.answersAssoc]
      | _ =>
          simp [read] at hread <;> subst hread <;>
            simp [SmeConn.waiting, ManagedOutput.takesAssoc, ManagedOutput.answersAssoc]

theorem counts {out : List ManagedOutput} {conn last : SmeConn}
    (hread : out.foldlM read conn = some last) :
    conn.waiting + out.countP ManagedOutput.takesAssoc =
      out.countP ManagedOutput.answersAssoc + last.waiting := by
  induction out generalizing conn with
  | nil =>
      rw [List.foldlM_nil] at hread
      rw [Option.some.inj hread]
      simp
  | cons report out ih =>
      rw [List.foldlM_cons] at hread
      rcases Option.bind_eq_some_iff.mp hread with ⟨mid, hmid, hrest⟩
      have hstep := read_counts hmid
      have hlater := ih hrest
      rw [List.countP_cons, List.countP_cons]
      omega

end SmeConn

namespace ManagedSdata

variable {hw : ManagedHw} {s : ManagedSdata}

theorem conn_waiting (hok : s.core.Ok) : s.conn.waiting = s.assocData.toList.length := by
  unfold conn
  cases hassoc : s.assocData with
  | none =>
      cases s.associated <;> rfl
  | some data =>
      rw [not_joined_of_assoc hok hassoc]
      rfl

theorem initial_ok : initial.core.Ok :=
  .of_idle rfl rfl rfl

theorem step_ok {state after : ManagedSdata} {event : ManagedEvent}
    {output : List ManagedOutput} (hok : state.core.Ok)
    (hstep : state.step hw event = some (after, output)) : after.core.Ok :=
  (step_follows hok hstep).ok

theorem ok_of_traced {past : List (ManagedSdata × ManagedEvent × List ManagedOutput)}
    (hrun : ObservedRun.Traced (step hw) (fun _ _ => True) initial past s) : s.core.Ok := by
  refine @ObservedRun.Traced.invariant _ _ _ (step hw) _ _ (fun _ state => state.core.Ok)
    initial_ok ?_ _ _ hrun
  intro past state event after output hok _ hstep
  exact step_ok hok hstep

theorem informed_of_traced {past : List (ManagedSdata × ManagedEvent × List ManagedOutput)}
    (hrun : ObservedRun.Traced (step hw) (fun _ _ => True) initial past s) :
    (ObservedRun.outputs past).foldlM SmeConn.read .idle = some s.conn := by
  refine @ObservedRun.Traced.informed _ _ _ _ (step hw) _ _ SmeConn.read conn
    (fun state => state.core.Ok) initial_ok ?_ ?_ _ _ hrun
  · intro state event after output hok _ hstep
    exact step_ok hok hstep
  · intro state event after output hok _ hstep
    exact (step_follows hok hstep).informed

/-- What cfg80211 was told makes it know the connection of the interface.  Each request to
associate that was taken has one answer, or it is the one under way. -/
theorem connection_reported {events : List ManagedEvent} {out : List ManagedOutput}
    (hrun : ConditionedRun.run (step hw) initial events = some (s, out)) :
    out.foldlM SmeConn.read .idle = some s.conn ∧
    out.countP ManagedOutput.takesAssoc =
      out.countP ManagedOutput.answersAssoc + s.assocData.toList.length ∧
    (s.authData.isSome = true → s.assocData = none ∧ s.associated = false) ∧
    (s.assocData.isSome = true → s.associated = false) ∧
    (s.associated = true → s.apAddr ∈ s.stas) := by
  rcases ObservedRun.Traced.run .start hrun with ⟨past, hpast, hout⟩
  have hok : s.core.Ok := ok_of_traced hpast
  have hread := informed_of_traced hpast
  rw [hout, show ObservedRun.outputs [] ++ out = out from rfl] at hread
  have hcount := SmeConn.counts hread
  refine ⟨hread, ?_, fun hauth => ?_, fun hassoc => ?_, hok.joinedKnown⟩
  · rw [conn_waiting hok] at hcount
    simpa [SmeConn.waiting] using hcount
  · have halone := hok.authAlone (by simpa [core] using hauth)
    exact ⟨by simpa [core] using halone.1, halone.2⟩
  · cases hdata : s.assocData with
    | none => rw [hdata] at hassoc; cases hassoc
    | some data => exact not_joined_of_assoc hok hdata

/-! ## An access point that wants the request again -/

def sampleHw : ManagedHw where
  hz := 1000
  reportsTxAckStatus := false
  needDtimBeforeAssoc := false
  fipsEnabled := false
  maxNullfuncTries := 2
  maxProbeTries := 5
  probeWait := 500
  roundJiffiesUp timeout := timeout

def samplePrep : PrepView where
  validLinks := false
  setLinks := none
  linkFound := true
  staAlloc := true
  setupLinkSta := none
  prepChannel := none
  insert := none

def sampleAssoc : AssocView where
  use4addr := false
  noMem := false
  csaInProcess := false
  ssidOk := true
  capabilities := none
  kekTooLong := false
  setLinks := none
  linkFound := true
  deflink := true
  otherChannels := none
  override := false
  prep := samplePrep

def sampleEvents : List ManagedEvent :=
  [.auth ⟨.openSystem, ⟨1, 7⟩, -1, none, []⟩ ⟨false, false, true, samplePrep⟩,
    .rxAuth ⟨true, 7, 0, 2, 0, false⟩ true,
    .assoc ⟨⟨1, 7⟩, -1, none, 100, true, false⟩ sampleAssoc,
    .tick 201, .timer, .work none, .tick 201, .timer, .work none,
    .rxAssocResp ⟨true, 7, 7, 0, none⟩ ⟨true, true, false, true, true, true, true, true⟩,
    .rxDeauth ⟨true, 7, 7⟩]

def sampleReports : List ManagedOutput :=
  [.authFrame 7 1, .authAccepted 7, .rxAuth 7 2 0, .assocAccepted 7, .assocFrame 7,
    .assocFrame 7, .assocResp 7 true, .disconnected 7 false]

def sampleLeft : ManagedSdata :=
  ((ConditionedRun.run (step sampleHw) initial sampleEvents).map Prod.fst).getD initial

theorem sample_reported :
    sampleReports.foldlM SmeConn.read .idle = some sampleLeft.conn ∧
    sampleReports.countP ManagedOutput.takesAssoc =
      sampleReports.countP ManagedOutput.answersAssoc + sampleLeft.assocData.toList.length ∧
    (sampleLeft.authData.isSome = true →
      sampleLeft.assocData = none ∧ sampleLeft.associated = false) ∧
    (sampleLeft.assocData.isSome = true → sampleLeft.associated = false) ∧
    (sampleLeft.associated = true → sampleLeft.apAddr ∈ sampleLeft.stas) :=
  connection_reported (show ConditionedRun.run (step sampleHw) initial sampleEvents =
    some (sampleLeft, sampleReports) by decide +kernel)

end ManagedSdata

end IwlwifiStack
