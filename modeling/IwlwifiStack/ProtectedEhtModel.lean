import IwlwifiStack.LinkSetModel
import IwlwifiStack.TtlmModel

/-!
# Protected EHT dialogs

Negotiated TTLM and EPCS requests of a station take their dialog tokens from
one counter.  The TTLM response is compared with the counter, the EPCS response
with a copy of the token.

A frame whose buffer cannot be allocated counts as a frame that is lost, but
for the EPCS request, which then is not made.
-/

namespace IwlwifiStack

/-- The parts of `struct ieee80211_if_managed` and of the interface that the
dialogs use; `epcsSupport` is `bss_conf->epcs_support` of each link, and
`ttlmNegSupp` the flag of `vif.cfg.mld_capa_op`. -/
structure ProtectedEht where
  associated : Bool
  validLinks : BitVec 16
  epcsSupport : ℕ → Bool
  ttlmNegSupp : Bool
  dialogTokenAlloc : BitVec 8
  negTtlmTimeoutWork : Bool
  epcsEnabled : Bool
  epcsDialogToken : BitVec 8

/-- What leaves the station: frames, return values and reports. -/
inductive EhtOutput
  | ttlmReq (dialogToken : BitVec 8)
  | epcsEnableReq (dialogToken : BitVec 8)
  | epcsTeardown
  | epcsParams
  | epcsChanged (enabled : Bool)
  | disconnected
  | returned (ret : ℤ)
  deriving DecidableEq, Repr

/-- Calls, frames of the AP, and the work of the response timeout; `parsed` is
whether `ieee802_11_parse_elems` could allocate. -/
inductive EhtEvent
  | associate (validLinks : BitVec 16) (epcsSupport : ℕ → Bool)
      (ttlmNegSupp : Bool)
  | disassociate
  | removeLinks (removed : BitVec 16)
  | reqNegTtlm (params : NegTtlm) (driverAccepts : Bool)
  | setEpcs (enable : Bool) (allocated : Bool)
  | negTtlmRes (dialogToken : BitVec 8) (statusCode : BitVec 16)
  | epcsEnaResp (dialogToken : BitVec 8) (statusCode : BitVec 16)
      (parsed : Bool)
  | epcsTeardown
  | negTtlmTimeoutWork

def errENOBUFS : ℤ := -105

namespace ProtectedEht

/-- `ieee80211_vif_is_mld` -/
def isMld (st : ProtectedEht) : Bool := decide (st.validLinks ≠ 0)

/-- `ieee80211_mgd_epcs_supp` -/
def mgdEpcsSupp (st : ProtectedEht) : Bool :=
  st.isMld && (linkIds st.validLinks).all st.epcsSupport

/-- `ieee80211_set_disassoc` -/
def setDisassoc (st : ProtectedEht) : ProtectedEht :=
  { st with
    associated := false
    validLinks := 0
    ttlmNegSupp := false
    negTtlmTimeoutWork := false
    epcsEnabled := false
    epcsDialogToken := 0 }

/-- `__ieee80211_disconnect` -/
def disconnect (st : ProtectedEht) : ProtectedEht × List EhtOutput :=
  if st.associated then (st.setDisassoc, [.disconnected]) else (st, [])

/-- The requested mapping names valid links only. -/
def mapsValid (st : ProtectedEht) (params : NegTtlm) : Bool :=
  decide (∀ tid,
    (params.downlink tid).toBitVec &&& ~~~st.validLinks = 0 ∧
      (params.uplink tid).toBitVec &&& ~~~st.validLinks = 0)

/-- `ieee80211_req_neg_ttlm` -/
def reqNegTtlm (st : ProtectedEht) (params : NegTtlm) (driverAccepts : Bool) :
    ProtectedEht × List EhtOutput :=
  if !st.isMld || !st.ttlmNegSupp || !st.mapsValid params ||
      !driverAccepts then
    (st, [.returned errEINVAL])
  else
    ({ st with
        dialogTokenAlloc := st.dialogTokenAlloc + 1
        negTtlmTimeoutWork := true },
      [.ttlmReq (st.dialogTokenAlloc + 1), .returned 0])

/-- `ieee80211_epcs_changed` -/
def epcsChanged (st : ProtectedEht) (enabled : Bool) :
    ProtectedEht × List EhtOutput :=
  ({ st with epcsDialogToken := 0, epcsEnabled := enabled },
    if st.epcsEnabled = enabled then [] else [.epcsChanged enabled])

/-- `ieee80211_mgd_set_epcs` -/
def mgdSetEpcs (st : ProtectedEht) (enable allocated : Bool) :
    ProtectedEht × List EhtOutput :=
  if !st.mgdEpcsSupp then (st, [.returned errEINVAL])
  else if st.epcsEnabled = enable ∧ st.epcsDialogToken = 0 then
    (st, [.returned 0])
  else if st.epcsDialogToken ≠ 0 ∧ enable = true then
    (st, [.returned errEALREADY])
  else if !allocated then (st, [.returned errENOBUFS])
  else if enable then
    ({ st with
        dialogTokenAlloc := st.dialogTokenAlloc + 1
        epcsDialogToken := st.dialogTokenAlloc + 1 },
      [.epcsEnableReq (st.dialogTokenAlloc + 1), .returned 0])
  else
    ((st.epcsChanged false).1,
      (st.epcsChanged false).2 ++ [.epcsTeardown, .returned 0])

/-- `ieee80211_process_neg_ttlm_res` -/
def processNegTtlmRes (st : ProtectedEht) (dialogToken : BitVec 8)
    (statusCode : BitVec 16) : ProtectedEht × List EhtOutput :=
  if !st.isMld || dialogToken ≠ st.dialogTokenAlloc then (st, [])
  else if statusCode ≠ 0 then
    { st with negTtlmTimeoutWork := false }.disconnect
  else ({ st with negTtlmTimeoutWork := false }, [])

/-- `ieee80211_process_epcs_ena_resp` -/
def processEpcsEnaResp (st : ProtectedEht) (dialogToken : BitVec 8)
    (statusCode : BitVec 16) (parsed : Bool) :
    ProtectedEht × List EhtOutput :=
  if !st.mgdEpcsSupp then (st, [])
  else if dialogToken = 0 ∧ (st.epcsEnabled = false ∨ statusCode ≠ 0) then
    (st, [])
  else if st.epcsDialogToken ≠ dialogToken then (st, [])
  else if statusCode ≠ 0 ∨ parsed = false then
    ({ st with epcsDialogToken := 0 }, [])
  else
    let st : ProtectedEht := { st with epcsDialogToken := 0 }
    ((st.epcsChanged true).1, .epcsParams :: (st.epcsChanged true).2)

/-- `ieee80211_process_epcs_teardown` -/
def processEpcsTeardown (st : ProtectedEht) :
    ProtectedEht × List EhtOutput :=
  if !st.isMld || !st.epcsEnabled then (st, []) else st.epcsChanged false

/-- A station that was not associated before. -/
def initial : ProtectedEht where
  associated := false
  validLinks := 0
  epcsSupport := fun _ => false
  ttlmNegSupp := false
  dialogTokenAlloc := 0
  negTtlmTimeoutWork := false
  epcsEnabled := false
  epcsDialogToken := 0

/-- One event; links that go away (`ieee80211_ml_reconf_work`) disconnect when
none is left. -/
def step (st : ProtectedEht) : EhtEvent → ProtectedEht × List EhtOutput
  | .associate validLinks epcsSupport ttlmNegSupp =>
      if st.associated then (st, [])
      else
        ({ st with
            associated := true
            validLinks := validLinks
            epcsSupport := epcsSupport
            ttlmNegSupp := ttlmNegSupp }, [])
  | .disassociate => st.disconnect
  | .removeLinks removed =>
      if !st.isMld then (st, [])
      else if st.validLinks &&& ~~~removed = 0 then st.disconnect
      else ({ st with validLinks := st.validLinks &&& ~~~removed }, [])
  | .reqNegTtlm params driverAccepts => st.reqNegTtlm params driverAccepts
  | .setEpcs enable allocated => st.mgdSetEpcs enable allocated
  | .negTtlmRes dialogToken statusCode =>
      st.processNegTtlmRes dialogToken statusCode
  | .epcsEnaResp dialogToken statusCode parsed =>
      st.processEpcsEnaResp dialogToken statusCode parsed
  | .epcsTeardown => st.processEpcsTeardown
  | .negTtlmTimeoutWork =>
      if st.negTtlmTimeoutWork then
        { st with negTtlmTimeoutWork := false }.disconnect
      else (st, [])

end ProtectedEht

/-! ## The requests on the air -/

/-- The tokens of the requests without an answer, as the frames tell. -/
structure EhtDialogs where
  ttlm : Option (BitVec 8)
  epcs : Option (BitVec 8)
  deriving DecidableEq, Repr

namespace EhtDialogs

def received (dialogs : EhtDialogs) : EhtEvent → EhtDialogs
  | .negTtlmRes dialogToken _ =>
      if dialogs.ttlm = some dialogToken then { dialogs with ttlm := none }
      else dialogs
  | .epcsEnaResp dialogToken _ _ =>
      if dialogs.epcs = some dialogToken then { dialogs with epcs := none }
      else dialogs
  | _ => dialogs

def sent (dialogs : EhtDialogs) : EhtOutput → EhtDialogs
  | .ttlmReq dialogToken => { dialogs with ttlm := some dialogToken }
  | .epcsEnableReq dialogToken => { dialogs with epcs := some dialogToken }
  | .epcsTeardown => { dialogs with epcs := none }
  | .disconnected => ⟨none, none⟩
  | _ => dialogs

/-- The station with its requests on the air. -/
def step (run : ProtectedEht × EhtDialogs) (event : EhtEvent) :
    Option ((ProtectedEht × EhtDialogs) × List EhtOutput) :=
  some (((run.1.step event).1,
    (run.1.step event).2.foldl sent (run.2.received event)),
    (run.1.step event).2)

def initial : ProtectedEht × EhtDialogs := (.initial, ⟨none, none⟩)

end EhtDialogs

end IwlwifiStack
