import IwlwifiStack.ProtectedEhtDialogs

/-!
# Which responses are taken for answers

A TTLM response reaches its request exactly while the counter is still the
token of the request; an EPCS response reaches its request unless the token
wrapped to 0, the value for no request.
-/

namespace IwlwifiStack

namespace ProtectedEht

variable {st : ProtectedEht} {dialogs : EhtDialogs}
  {run : ProtectedEht × EhtDialogs}

theorem Matches.mld_of_ttlm (hmatch : Matches st dialogs)
    {dialogToken : BitVec 8} (hsome : dialogs.ttlm = some dialogToken) :
    st.validLinks ≠ 0 := by
  intro hzero
  rw [(hmatch.no_mld hzero).2.2.2] at hsome
  cases hsome

theorem Matches.associated (hmatch : Matches st dialogs)
    (hvalid : st.validLinks ≠ 0) : st.associated = true := by
  by_contra hidle
  rw [Bool.not_eq_true] at hidle
  exact hvalid (hmatch.idle hidle)

/-! ## TTLM responses -/

theorem disconnect_timer (after : ProtectedEht)
    (htimer : after.negTtlmTimeoutWork = false) :
    after.disconnect.1.negTtlmTimeoutWork = false := by
  unfold disconnect
  split
  · rfl
  · exact htimer

theorem negTtlmRes_cancels (hmatch : Matches st dialogs)
    {dialogToken : BitVec 8} (hsome : dialogs.ttlm = some dialogToken)
    (statusCode : BitVec 16) :
    (st.processNegTtlmRes dialogToken statusCode).1.negTtlmTimeoutWork =
        false ↔
      dialogToken = st.dialogTokenAlloc ∨ st.negTtlmTimeoutWork = false := by
  have hmld : st.isMld = true := isMld_iff.mpr (hmatch.mld_of_ttlm hsome)
  unfold processNegTtlmRes
  by_cases htoken : dialogToken = st.dialogTokenAlloc
  · rw [if_neg (by simp [hmld, htoken])]
    refine iff_of_true ?_ (Or.inl htoken)
    split
    · exact disconnect_timer _ rfl
    · rfl
  · rw [if_pos (by simp [htoken])]
    exact (or_iff_right htoken).symm

/-- A response to no request on the air is ignored exactly when the counter is
not its token, or it reports success with no timeout to stop. -/
theorem negTtlmRes_ignored (hmatch : Matches st dialogs)
    (dialogToken : BitVec 8) (statusCode : BitVec 16) :
    st.processNegTtlmRes dialogToken statusCode = (st, []) ↔
      st.validLinks = 0 ∨ dialogToken ≠ st.dialogTokenAlloc ∨
        st.negTtlmTimeoutWork = false ∧ statusCode = 0 := by
  unfold processNegTtlmRes
  by_cases hvalid : st.validLinks = 0
  · rw [if_pos (by simp [isMld, hvalid])]
    exact iff_of_true rfl (Or.inl hvalid)
  · have hmld : st.isMld = true := isMld_iff.mpr hvalid
    rw [or_iff_right hvalid]
    by_cases htoken : dialogToken = st.dialogTokenAlloc
    · rw [if_neg (by simp [hmld, htoken]), or_iff_right (not_not.mpr htoken)]
      by_cases hstatus : statusCode = 0
      · rw [if_neg (not_not.mpr hstatus), and_iff_left hstatus]
        constructor
        · intro hsame
          exact (congrArg (fun result => result.1.negTtlmTimeoutWork)
            hsame).symm
        · intro htimer
          rw [← htimer]
      · rw [if_pos hstatus]
        apply iff_of_false
        · intro hsame
          unfold disconnect at hsame
          rw [if_pos (hmatch.associated hvalid)] at hsame
          cases congrArg Prod.snd hsame
        · exact fun hquiet => hstatus hquiet.2
    · rw [if_pos (by simp [htoken])]
      exact iff_of_true rfl (Or.inl htoken)

/-! ## EPCS responses -/

theorem epcsEnaResp_enables (hmatch : Matches st dialogs)
    {dialogToken : BitVec 8} (hsome : dialogs.epcs = some dialogToken)
    (parsed : Bool) :
    ((st.processEpcsEnaResp dialogToken 0 parsed).1.epcsEnabled = true ∧
      (st.processEpcsEnaResp dialogToken 0 parsed).1.epcsDialogToken = 0) ↔
      dialogToken ≠ 0 ∧ parsed = true := by
  obtain ⟨htoken, hoff, hsupp⟩ := hmatch.epcs_some dialogToken hsome
  unfold processEpcsEnaResp
  rw [if_neg (by rw [hsupp]; decide)]
  by_cases hzero : dialogToken = 0
  · rw [if_pos ⟨hzero, Or.inl hoff⟩]
    apply iff_of_false
    · intro hon
      rw [hoff] at hon
      cases hon.1
    · exact fun hne => hne.1 hzero
  · rw [if_neg fun hunsolicited => hzero hunsolicited.1,
      if_neg (not_not.mpr htoken)]
    cases parsed with
    | false =>
        rw [if_pos (Or.inr rfl)]
        apply iff_of_false
        · intro hon
          dsimp only at hon
          rw [hoff] at hon
          cases hon.1
        · exact fun hparsed => Bool.false_ne_true hparsed.2
    | true =>
        rw [if_neg (by decide)]
        exact iff_of_true ⟨rfl, rfl⟩ ⟨hzero, rfl⟩

theorem epcsEnaResp_ignored (hmatch : Matches st dialogs)
    {dialogToken : BitVec 8} (hother : dialogs.epcs ≠ some dialogToken)
    (hupdate : ¬(dialogToken = 0 ∧ st.epcsEnabled = true))
    (statusCode : BitVec 16) (parsed : Bool) :
    st.processEpcsEnaResp dialogToken statusCode parsed = (st, []) := by
  unfold processEpcsEnaResp
  split
  · rfl
  · split
    · rfl
    · rename_i hunsolicited
      apply if_pos
      intro htoken
      cases hepcs : dialogs.epcs with
      | none =>
          rw [hmatch.epcs_none hepcs] at htoken
          apply hunsolicited
          refine ⟨htoken.symm, Or.inl ?_⟩
          rw [← Bool.not_eq_true]
          exact fun hon => hupdate ⟨htoken.symm, hon⟩
      | some token =>
          rw [(hmatch.epcs_some token hepcs).1] at htoken
          rw [hepcs, htoken] at hother
          exact hother rfl

/-! ## Runs -/

def TtlmAnswered (run : ProtectedEht × EhtDialogs) (dialogToken : BitVec 8)
    (statusCode : BitVec 16) : Prop :=
  if run.2.ttlm = some dialogToken then
    (run.1.processNegTtlmRes dialogToken
      statusCode).1.negTtlmTimeoutWork = false
  else run.1.processNegTtlmRes dialogToken statusCode = (run.1, [])

/-- The counter is the token of the request on the air, and of no other
response that would change anything. -/
def CounterMatches (run : ProtectedEht × EhtDialogs) (dialogToken : BitVec 8)
    (statusCode : BitVec 16) : Prop :=
  if run.2.ttlm = some dialogToken then
    dialogToken = run.1.dialogTokenAlloc ∨ run.1.negTtlmTimeoutWork = false
  else
    run.1.validLinks = 0 ∨ dialogToken ≠ run.1.dialogTokenAlloc ∨
      run.1.negTtlmTimeoutWork = false ∧ statusCode = 0

/-- What an EPCS response shall do. -/
def EpcsAnswered (run : ProtectedEht × EhtDialogs) (dialogToken : BitVec 8)
    (statusCode : BitVec 16) (parsed : Bool) : Prop :=
  if run.2.epcs = some dialogToken then
    statusCode = 0 →
      (run.1.processEpcsEnaResp dialogToken statusCode
        parsed).1.epcsEnabled = true ∧
      (run.1.processEpcsEnaResp dialogToken statusCode
        parsed).1.epcsDialogToken = 0
  else
    ¬(dialogToken = 0 ∧ run.1.epcsEnabled = true) →
      run.1.processEpcsEnaResp dialogToken statusCode parsed = (run.1, [])

/-- The token of the request on the air is not 0, and its response can be
parsed. -/
def EpcsTokenSet (run : ProtectedEht × EhtDialogs) (dialogToken : BitVec 8)
    (statusCode : BitVec 16) (parsed : Bool) : Prop :=
  run.2.epcs = some dialogToken → statusCode = 0 →
    dialogToken ≠ 0 ∧ parsed = true

def AnswersMatch (run : ProtectedEht × EhtDialogs) : EhtEvent → Prop
  | .negTtlmRes dialogToken statusCode =>
      CounterMatches run dialogToken statusCode
  | .epcsEnaResp dialogToken statusCode parsed =>
      EpcsTokenSet run dialogToken statusCode parsed
  | _ => True

theorem ttlmAnswered_iff (hmatch : Matches run.1 run.2)
    (dialogToken : BitVec 8) (statusCode : BitVec 16) :
    TtlmAnswered run dialogToken statusCode ↔
      CounterMatches run dialogToken statusCode := by
  unfold TtlmAnswered CounterMatches
  by_cases hsome : run.2.ttlm = some dialogToken
  · rw [if_pos hsome, if_pos hsome]
    exact negTtlmRes_cancels hmatch hsome statusCode
  · rw [if_neg hsome, if_neg hsome]
    exact negTtlmRes_ignored hmatch dialogToken statusCode

theorem epcsAnswered_iff (hmatch : Matches run.1 run.2)
    (dialogToken : BitVec 8) (statusCode : BitVec 16) (parsed : Bool) :
    EpcsAnswered run dialogToken statusCode parsed ↔
      EpcsTokenSet run dialogToken statusCode parsed := by
  unfold EpcsAnswered EpcsTokenSet
  by_cases hsome : run.2.epcs = some dialogToken
  · rw [if_pos hsome]
    constructor
    · intro hanswered _ hstatus
      subst hstatus
      exact (epcsEnaResp_enables hmatch hsome parsed).mp (hanswered rfl)
    · intro hset hstatus
      have hused := hset hsome hstatus
      subst hstatus
      exact (epcsEnaResp_enables hmatch hsome parsed).mpr hused
  · rw [if_neg hsome]
    apply iff_of_true
    · exact fun hupdate =>
        epcsEnaResp_ignored hmatch hsome hupdate statusCode parsed
    · exact fun hother => absurd hother hsome

def Waits (st : ProtectedEht) (dialogs : EhtDialogs) : Prop :=
  st.negTtlmTimeoutWork = true → dialogs.ttlm.isSome = true

theorem Waits.disconnect (hwaits : Waits st dialogs) :
    Waits st.disconnect.1
      (st.disconnect.2.foldl EhtDialogs.sent dialogs) := by
  unfold ProtectedEht.disconnect
  split
  · intro htimer
    cases htimer
  · exact hwaits

theorem mgdSetEpcs_waits (hwaits : Waits st dialogs)
    (enable allocated : Bool) :
    Waits (st.mgdSetEpcs enable allocated).1
      ((st.mgdSetEpcs enable allocated).2.foldl EhtDialogs.sent dialogs) := by
  unfold mgdSetEpcs
  split
  · exact hwaits
  · split
    · exact hwaits
    · split
      · exact hwaits
      · split
        · exact hwaits
        · split
          · exact hwaits
          · unfold epcsChanged
            by_cases hoff : st.epcsEnabled = false
            · rw [if_pos hoff]
              exact hwaits
            · rw [if_neg hoff]
              exact hwaits

theorem processNegTtlmRes_waits (hwaits : Waits st dialogs)
    (hmatch : Matches st dialogs) {dialogToken : BitVec 8}
    {statusCode : BitVec 16}
    (hallowed : CounterMatches (st, dialogs) dialogToken statusCode) :
    Waits (st.processNegTtlmRes dialogToken statusCode).1
      ((st.processNegTtlmRes dialogToken statusCode).2.foldl EhtDialogs.sent
        (dialogs.received (.negTtlmRes dialogToken statusCode))) := by
  have hanswered := (@ttlmAnswered_iff (st, dialogs) hmatch dialogToken
    statusCode).mpr hallowed
  unfold TtlmAnswered at hanswered
  by_cases hsome : dialogs.ttlm = some dialogToken
  · rw [if_pos hsome] at hanswered
    intro htimer
    rw [hanswered] at htimer
    cases htimer
  · rw [if_neg hsome] at hanswered
    rw [hanswered]
    unfold EhtDialogs.received
    dsimp only
    rw [if_neg hsome]
    exact hwaits

theorem processEpcsEnaResp_waits (hwaits : Waits st dialogs)
    (dialogToken : BitVec 8) (statusCode : BitVec 16) (parsed : Bool) :
    Waits (st.processEpcsEnaResp dialogToken statusCode parsed).1
      ((st.processEpcsEnaResp dialogToken statusCode parsed).2.foldl
        EhtDialogs.sent
        (dialogs.received (.epcsEnaResp dialogToken statusCode parsed))) := by
  have hreceived : Waits st
      (dialogs.received (.epcsEnaResp dialogToken statusCode parsed)) := by
    unfold EhtDialogs.received
    dsimp only
    split
    · exact hwaits
    · exact hwaits
  unfold processEpcsEnaResp
  split
  · exact hreceived
  · split
    · exact hreceived
    · split
      · exact hreceived
      · split
        · exact hreceived
        · unfold epcsChanged
          dsimp only
          split
          · exact hreceived
          · exact hreceived

theorem step_waits (hwaits : Waits st dialogs) (hmatch : Matches st dialogs)
    {event : EhtEvent} (hallowed : AnswersMatch (st, dialogs) event) :
    Waits (st.step event).1
      ((st.step event).2.foldl EhtDialogs.sent (dialogs.received event)) := by
  cases event with
  | associate validLinks epcsSupport ttlmNegSupp =>
      simp only [step]
      split
      · exact hwaits
      · exact hwaits
  | disassociate => exact hwaits.disconnect
  | removeLinks removed =>
      simp only [step]
      split
      · exact hwaits
      · split
        · exact hwaits.disconnect
        · exact hwaits
  | reqNegTtlm params driverAccepts =>
      simp only [step, reqNegTtlm]
      split
      · exact hwaits
      · exact fun _ => rfl
  | setEpcs enable allocated => exact mgdSetEpcs_waits hwaits enable allocated
  | negTtlmRes dialogToken statusCode =>
      exact processNegTtlmRes_waits hwaits hmatch hallowed
  | epcsEnaResp dialogToken statusCode parsed =>
      exact processEpcsEnaResp_waits hwaits dialogToken statusCode parsed
  | epcsTeardown =>
      simp only [step, processEpcsTeardown]
      split
      · exact hwaits
      · unfold epcsChanged
        dsimp only
        split
        · exact hwaits
        · exact hwaits
  | negTtlmTimeoutWork =>
      simp only [step]
      split
      · apply Waits.disconnect
        intro htimer
        cases htimer
      · exact hwaits

/-- In every state of any run a response does what it shall exactly when its
token and the counter allow; in a run of such responses a timeout that fires
had no response. -/
theorem protected_eht_dialogs
    (hreach : ConditionedRun.Reachable EhtDialogs.step (fun _ _ => True)
      EhtDialogs.initial run) :
    (∀ dialogToken statusCode,
      (TtlmAnswered run dialogToken statusCode ↔
        CounterMatches run dialogToken statusCode) ∧
      ∀ parsed, EpcsAnswered run dialogToken statusCode parsed ↔
        EpcsTokenSet run dialogToken statusCode parsed) ∧
    (ConditionedRun.Reachable EhtDialogs.step AnswersMatch
        EhtDialogs.initial run →
      run.1.negTtlmTimeoutWork = true → run.2.ttlm.isSome = true) := by
  constructor
  · intro dialogToken statusCode
    have hmatch := reachable_matches hreach
    exact ⟨ttlmAnswered_iff hmatch dialogToken statusCode,
      fun parsed => epcsAnswered_iff hmatch dialogToken statusCode parsed⟩
  · intro hmatching
    have hboth : Matches run.1 run.2 ∧ Waits run.1 run.2 := by
      apply @ConditionedRun.Reachable.invariant _ _ _ _ _ _
        (fun run => Matches run.1 run.2 ∧ Waits run.1 run.2)
        ⟨initial_matches, fun htimer => by cases htimer⟩ ?_ _ hmatching
      intro before event after output hgood hallowed hstep
      cases hstep
      exact ⟨step_matches hgood.1 event, step_waits hgood.2 hgood.1 hallowed⟩
    exact hboth.2

/-- One TTLM request, answered. -/
theorem protected_eht_dialogs_one :
    ∃ run, ConditionedRun.Reachable EhtDialogs.step AnswersMatch
        EhtDialogs.initial run ∧
      run.1.negTtlmTimeoutWork = true ∧ run.2.ttlm.isSome = true ∧
      TtlmAnswered run 1 0 ∧ EpcsAnswered run 1 0 true := by
  have hreach : ConditionedRun.Reachable EhtDialogs.step AnswersMatch
      EhtDialogs.initial _ :=
    (ConditionedRun.Reachable.after .start
      (.associate 3 (fun _ => true) true) _ trivial rfl).after
        (.reqNegTtlm ⟨fun _ => 1, fun _ => 1⟩ true) _ trivial rfl
  have hrun := hreach.mono fun _ _ _ => trivial
  have hanswers := (protected_eht_dialogs hrun).1 1 0
  refine ⟨_, hreach, by decide +kernel,
    (protected_eht_dialogs hrun).2 hreach (by decide +kernel),
    hanswers.1.mpr ?_, (hanswers.2 true).mpr ?_⟩
  · exact Or.inl (by decide +kernel)
  · exact fun _ _ => ⟨by decide, rfl⟩

/-! ## A TTLM request and an EPCS request in flight -/

/-- The station maps all TIDs to link 0, and asks for EPCS before the answer
arrives. -/
def twoRequests : List EhtEvent :=
  [.associate 3 (fun _ => true) true,
    .reqNegTtlm ⟨fun _ => 1, fun _ => 1⟩ true, .setEpcs true true]

/-- The answer to the TTLM request is ignored, and the timeout that is still
running disconnects. -/
theorem ttlm_response_ignored :
    ∃ run, ConditionedRun.Reachable EhtDialogs.step (fun _ _ => True)
        EhtDialogs.initial run ∧
      run.2.ttlm = some 1 ∧ ¬TtlmAnswered run 1 0 ∧
      ((run.1.processNegTtlmRes 1 0).1.step .negTtlmTimeoutWork).2 =
        [.disconnected] := by
  have hrun : ((ConditionedRun.run EhtDialogs.step EhtDialogs.initial
      twoRequests).map fun last => decide (last.1.2.ttlm = some 1 ∧
        (last.1.1.processNegTtlmRes 1 0).1.negTtlmTimeoutWork = true ∧
        ((last.1.1.processNegTtlmRes 1 0).1.step
          .negTtlmTimeoutWork).2 = [.disconnected])) = some true := by
    decide +kernel
  obtain ⟨⟨run, output⟩, hlast, heq⟩ := Option.map_eq_some_iff.mp hrun
  obtain ⟨hsome, htimer, hdisconnected⟩ := of_decide_eq_true heq
  refine ⟨run, ConditionedRun.reachable_of_run .start hlast, hsome, ?_,
    hdisconnected⟩
  intro hanswered
  unfold TtlmAnswered at hanswered
  rw [if_pos hsome, htimer] at hanswered
  cases hanswered

end ProtectedEht

end IwlwifiStack
