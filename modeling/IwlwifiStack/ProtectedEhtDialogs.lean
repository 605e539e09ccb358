import IwlwifiStack.ProtectedEhtModel
import IwlwifiStack.ConditionedRun

/-!
# Responses and their requests

In every state of a run the copy of the EPCS token is the token on the air.
The counter is the token of the TTLM request only until another request takes
a token, so a response may miss its request, or meet one that is none of its
own.
-/

namespace IwlwifiStack

namespace ProtectedEht

variable {st : ProtectedEht} {dialogs : EhtDialogs}

/-- What the station knows of the requests on the air. -/
structure Matches (st : ProtectedEht) (dialogs : EhtDialogs) : Prop where
  idle : st.associated = false → st.validLinks = 0
  no_mld : st.validLinks = 0 → st.negTtlmTimeoutWork = false ∧
    st.epcsEnabled = false ∧ st.epcsDialogToken = 0 ∧ dialogs = ⟨none, none⟩
  epcs_none : dialogs.epcs = none → st.epcsDialogToken = 0
  epcs_some : ∀ token, dialogs.epcs = some token →
    st.epcsDialogToken = token ∧ st.epcsEnabled = false ∧
      st.mgdEpcsSupp = true

theorem isMld_iff : st.isMld = true ↔ st.validLinks ≠ 0 := by
  unfold isMld
  exact decide_eq_true_iff

theorem mgdEpcsSupp_valid (hsupp : st.mgdEpcsSupp = true) :
    st.validLinks ≠ 0 := by
  unfold mgdEpcsSupp at hsupp
  rw [Bool.and_eq_true] at hsupp
  exact isMld_iff.mp hsupp.1

theorem setDisassoc_matches (st : ProtectedEht) :
    Matches st.setDisassoc ⟨none, none⟩ := by
  constructor
  · exact fun _ => rfl
  · exact fun _ => ⟨rfl, rfl, rfl, rfl⟩
  · exact fun _ => rfl
  · intro token htoken
    cases htoken

theorem disconnect_matches {after : ProtectedEht}
    (hmatch : Matches after dialogs) :
    Matches after.disconnect.1
      (after.disconnect.2.foldl EhtDialogs.sent dialogs) := by
  unfold disconnect
  by_cases hassociated : after.associated = true
  · rw [if_pos hassociated]
    exact setDisassoc_matches after
  · rw [if_neg hassociated]
    exact hmatch

theorem Matches.timer (hmatch : Matches st dialogs) (timer : Bool)
    (hmld : timer = true → st.validLinks ≠ 0) :
    Matches { st with negTtlmTimeoutWork := timer } dialogs := by
  constructor
  · exact hmatch.idle
  · intro hzero
    refine ⟨?_, (hmatch.no_mld hzero).2⟩
    rw [← Bool.not_eq_true]
    exact fun htimer => hmld htimer hzero
  · exact hmatch.epcs_none
  · exact hmatch.epcs_some

theorem Matches.no_ttlm (hmatch : Matches st dialogs) :
    Matches st { dialogs with ttlm := none } := by
  constructor
  · exact hmatch.idle
  · intro hzero
    obtain ⟨htimer, henabled, htoken, rfl⟩ := hmatch.no_mld hzero
    exact ⟨htimer, henabled, htoken, rfl⟩
  · exact hmatch.epcs_none
  · exact hmatch.epcs_some

theorem mgdEpcsSupp_remove {removed : BitVec 16}
    (hleft : st.validLinks &&& ~~~removed ≠ 0)
    (hsupp : st.mgdEpcsSupp = true) :
    mgdEpcsSupp { st with validLinks := st.validLinks &&& ~~~removed } =
      true := by
  unfold mgdEpcsSupp at hsupp ⊢
  rw [Bool.and_eq_true] at hsupp ⊢
  refine ⟨isMld_iff.mpr hleft, ?_⟩
  rw [List.all_eq_true] at hsupp ⊢
  intro id hid
  apply hsupp.2 id
  have hbits := List.mem_filter.mp hid
  rw [BitVec.getLsbD_and, Bool.and_eq_true] at hbits
  exact List.mem_filter.mpr ⟨hbits.1, hbits.2.1⟩

/-! ## One step -/

theorem reqNegTtlm_matches (hmatch : Matches st dialogs) (params : NegTtlm)
    (driverAccepts : Bool) :
    Matches (st.reqNegTtlm params driverAccepts).1
      ((st.reqNegTtlm params driverAccepts).2.foldl EhtDialogs.sent
        dialogs) := by
  unfold reqNegTtlm
  split
  · exact hmatch
  · rename_i hok
    have hvalid : st.validLinks ≠ 0 := by
      rw [← isMld_iff]
      by_contra hmld
      simp [hmld] at hok
    constructor
    · exact hmatch.idle
    · exact fun hzero => absurd hzero hvalid
    · exact hmatch.epcs_none
    · exact hmatch.epcs_some

theorem mgdSetEpcs_matches (hmatch : Matches st dialogs)
    (enable allocated : Bool) :
    Matches (st.mgdSetEpcs enable allocated).1
      ((st.mgdSetEpcs enable allocated).2.foldl EhtDialogs.sent dialogs) := by
  unfold mgdSetEpcs
  by_cases hsupp : st.mgdEpcsSupp = true
  · have hvalid := mgdEpcsSupp_valid hsupp
    rw [if_neg (by rw [hsupp]; decide)]
    split
    · exact hmatch
    · rename_i hchange
      split
      · exact hmatch
      · rename_i hfree
        split
        · exact hmatch
        · cases enable with
          | true =>
              -- no request is outstanding, and EPCS is off
              have htoken : st.epcsDialogToken = 0 := by
                by_contra hne
                exact hfree ⟨hne, rfl⟩
              have hoff : st.epcsEnabled = false := by
                by_contra hon
                rw [Bool.not_eq_false] at hon
                exact hchange ⟨hon, htoken⟩
              constructor
              · exact hmatch.idle
              · exact fun hzero => absurd hzero hvalid
              · intro hnone
                cases hnone
              · intro token htoken
                cases htoken
                exact ⟨rfl, hoff, hsupp⟩
          | false =>
              have hdialogs : (((st.epcsChanged false).2 ++
                  [EhtOutput.epcsTeardown, .returned 0]).foldl
                    EhtDialogs.sent dialogs) = { dialogs with epcs := none } := by
                unfold epcsChanged
                by_cases hoff : st.epcsEnabled = false
                · rw [if_pos hoff]
                  rfl
                · rw [if_neg hoff]
                  rfl
              rw [if_neg (by decide), hdialogs]
              constructor
              · exact hmatch.idle
              · exact fun hzero => absurd hzero hvalid
              · exact fun _ => rfl
              · intro token htoken
                cases htoken
  · rw [if_pos (by simpa using hsupp)]
    exact hmatch

theorem processNegTtlmRes_matches (hmatch : Matches st dialogs)
    (dialogToken : BitVec 8) (statusCode : BitVec 16) :
    Matches (st.processNegTtlmRes dialogToken statusCode).1
      ((st.processNegTtlmRes dialogToken statusCode).2.foldl EhtDialogs.sent
        (dialogs.received (.negTtlmRes dialogToken statusCode))) := by
  have hreceived : Matches st
      (dialogs.received (.negTtlmRes dialogToken statusCode)) := by
    unfold EhtDialogs.received
    dsimp only
    split
    · exact hmatch.no_ttlm
    · exact hmatch
  have hstopped := hreceived.timer false fun htimer => by cases htimer
  unfold processNegTtlmRes
  split
  · exact hreceived
  · split
    · exact disconnect_matches hstopped
    · exact hstopped

theorem Matches.no_epcs (hmatch : Matches st dialogs)
    (htoken : st.epcsDialogToken = 0) :
    Matches st { dialogs with epcs := none } := by
  constructor
  · exact hmatch.idle
  · intro hzero
    obtain ⟨htimer, henabled, -, rfl⟩ := hmatch.no_mld hzero
    exact ⟨htimer, henabled, htoken, rfl⟩
  · exact fun _ => htoken
  · intro token htoken
    cases htoken

theorem Matches.answered (hmatch : Matches st dialogs) (hne : st.validLinks ≠ 0)
    {dialogToken : BitVec 8} (htoken : st.epcsDialogToken = dialogToken)
    (enabled : Bool) (statusCode : BitVec 16) (parsed : Bool) :
    Matches { st with epcsDialogToken := 0, epcsEnabled := enabled }
      (dialogs.received (.epcsEnaResp dialogToken statusCode parsed)) := by
  have hnone : (dialogs.received
      (.epcsEnaResp dialogToken statusCode parsed)).epcs = none := by
    unfold EhtDialogs.received
    dsimp only
    split
    · rfl
    · rename_i hother
      cases hepcs : dialogs.epcs with
      | none => rfl
      | some token =>
          rw [hepcs, ← htoken, (hmatch.epcs_some token hepcs).1] at hother
          exact absurd rfl hother
  constructor
  · exact hmatch.idle
  · exact fun hzero => absurd hzero hne
  · exact fun _ => rfl
  · intro token hsome
    rw [hnone] at hsome
    cases hsome

theorem processEpcsEnaResp_matches (hmatch : Matches st dialogs)
    (dialogToken : BitVec 8) (statusCode : BitVec 16) (parsed : Bool) :
    Matches (st.processEpcsEnaResp dialogToken statusCode parsed).1
      ((st.processEpcsEnaResp dialogToken statusCode parsed).2.foldl
        EhtDialogs.sent
        (dialogs.received (.epcsEnaResp dialogToken statusCode parsed))) := by
  -- a response that is ignored is none to a request with another token than 0
  have hignored : (dialogs.epcs = some dialogToken →
      st.epcsDialogToken = 0) → Matches st
        (dialogs.received (.epcsEnaResp dialogToken statusCode parsed)) := by
    intro hzero
    unfold EhtDialogs.received
    dsimp only
    split
    · rename_i hsome
      exact hmatch.no_epcs (hzero hsome)
    · exact hmatch
  unfold processEpcsEnaResp
  by_cases hsupp : st.mgdEpcsSupp = true
  · have hvalid := mgdEpcsSupp_valid hsupp
    rw [if_neg (by rw [hsupp]; decide)]
    split
    · rename_i hunsolicited
      apply hignored
      intro hsome
      rw [(hmatch.epcs_some _ hsome).1]
      exact hunsolicited.1
    · split
      · rename_i hother
        apply hignored
        intro hsome
        exact absurd (hmatch.epcs_some _ hsome).1 hother
      · rename_i hsame
        rw [not_not] at hsame
        split
        · exact hmatch.answered hvalid hsame st.epcsEnabled statusCode parsed
        · have hdialogs : ∀ known : EhtDialogs,
              (EhtOutput.epcsParams :: (epcsChanged
                { st with epcsDialogToken := 0 } true).2).foldl
                  EhtDialogs.sent known = known := by
            intro known
            unfold epcsChanged
            dsimp only
            split
            · rfl
            · rfl
          dsimp only
          rw [hdialogs]
          exact hmatch.answered hvalid hsame true statusCode parsed
  · rw [if_pos (by simpa using hsupp)]
    apply hignored
    intro hsome
    exact absurd (hmatch.epcs_some _ hsome).2.2 hsupp

theorem processEpcsTeardown_matches (hmatch : Matches st dialogs) :
    Matches st.processEpcsTeardown.1
      (st.processEpcsTeardown.2.foldl EhtDialogs.sent dialogs) := by
  unfold processEpcsTeardown
  split
  · exact hmatch
  · rename_i hon
    have hvalid : st.validLinks ≠ 0 := by
      rw [← isMld_iff]
      by_contra hmld
      simp [hmld] at hon
    have henabled : st.epcsEnabled = true := by
      by_contra hoff
      simp [hoff] at hon
    have hnone : dialogs.epcs = none := by
      cases hepcs : dialogs.epcs with
      | none => rfl
      | some token =>
          have hoff := (hmatch.epcs_some token hepcs).2.1
          rw [henabled] at hoff
          cases hoff
    have hdialogs : (st.epcsChanged false).2.foldl EhtDialogs.sent dialogs =
        dialogs := by
      unfold epcsChanged
      dsimp only
      split
      · rfl
      · rfl
    rw [hdialogs]
    constructor
    · exact hmatch.idle
    · exact fun hzero => absurd hzero hvalid
    · exact fun _ => rfl
    · intro token hsome
      rw [hnone] at hsome
      cases hsome

theorem step_matches (hmatch : Matches st dialogs) (event : EhtEvent) :
    Matches (st.step event).1
      ((st.step event).2.foldl EhtDialogs.sent (dialogs.received event)) := by
  cases event with
  | associate validLinks epcsSupport ttlmNegSupp =>
      simp only [step]
      split
      · exact hmatch
      · rename_i hidle
        rw [Bool.not_eq_true] at hidle
        obtain ⟨htimer, henabled, htoken, rfl⟩ :=
          hmatch.no_mld (hmatch.idle hidle)
        constructor
        · intro hassociated
          cases hassociated
        · exact fun _ => ⟨htimer, henabled, htoken, rfl⟩
        · exact fun _ => htoken
        · intro token hsome
          cases hsome
  | disassociate => exact disconnect_matches hmatch
  | removeLinks removed =>
      simp only [step]
      split
      · exact hmatch
      · rename_i hmld
        split
        · exact disconnect_matches hmatch
        · rename_i hleft
          constructor
          · intro hidle
            rw [hmatch.idle hidle] at hleft
            exact absurd BitVec.zero_and hleft
          · exact fun hzero => absurd hzero hleft
          · exact hmatch.epcs_none
          · intro token hsome
            obtain ⟨htoken, henabled, hsupp⟩ := hmatch.epcs_some token hsome
            exact ⟨htoken, henabled, mgdEpcsSupp_remove hleft hsupp⟩
  | reqNegTtlm params driverAccepts =>
      exact reqNegTtlm_matches hmatch params driverAccepts
  | setEpcs enable allocated => exact mgdSetEpcs_matches hmatch enable allocated
  | negTtlmRes dialogToken statusCode =>
      exact processNegTtlmRes_matches hmatch dialogToken statusCode
  | epcsEnaResp dialogToken statusCode parsed =>
      exact processEpcsEnaResp_matches hmatch dialogToken statusCode parsed
  | epcsTeardown => exact processEpcsTeardown_matches hmatch
  | negTtlmTimeoutWork =>
      simp only [step]
      split
      · exact disconnect_matches
          (hmatch.timer false fun htimer => by cases htimer)
      · exact hmatch

theorem initial_matches : Matches initial ⟨none, none⟩ := by
  constructor
  · exact fun _ => rfl
  · exact fun _ => ⟨rfl, rfl, rfl, rfl⟩
  · exact fun _ => rfl
  · intro token hsome
    cases hsome

theorem reachable_matches
    {Allowed : ProtectedEht × EhtDialogs → EhtEvent → Prop}
    {run : ProtectedEht × EhtDialogs}
    (hreach : ConditionedRun.Reachable EhtDialogs.step Allowed
      EhtDialogs.initial run) : Matches run.1 run.2 := by
  apply @ConditionedRun.Reachable.invariant _ _ _ _ _ _
    (fun run => Matches run.1 run.2) initial_matches ?_ _ hreach
  intro before event after output hmatch _ hstep
  cases hstep
  exact step_matches hmatch event

end ProtectedEht

end IwlwifiStack
