import IwlwifiStack.ConditionedRun
import IwlwifiStack.EmlsrModel

/-!
# Leaving, blocking and entering EMLSR

`ieee80211_set_active_links` and its deferred form (`link.c` of mac80211), the
exit, block and unblock functions of `mlo.c`, the two delayed works that clear
a block, and the link selection as one step among them.  The wiphy mutex makes
each of these a step; they interleave in any order.  `jiffies` is a natural
number: it does not wrap.
-/

namespace IwlwifiStack

/-- What an exit did: the prevention delay it chose, if any, and whether the
warning about the repeat count fired. -/
structure ExitRecord where
  reason : EmlsrExit
  jiffies : ℕ
  delay : Option ℕ
  warned : Bool
  deriving DecidableEq, Repr

/-- `IWL_MLD_PREVENT_EMLSR_REASONS`. -/
def preventEmlsrReasons : BitVec 32 :=
  EmlsrExit.missedBeacon.mask ||| EmlsrExit.linkUsage.mask |||
    EmlsrExit.fwRequest.mask

def EmlsrExit.prevents (reason : EmlsrExit) : Bool :=
  decide (reason.mask &&& preventEmlsrReasons ≠ 0)

namespace Emlsr

def blocks (e : Emlsr) (reason : EmlsrBlocked) : Bool :=
  decide (e.blockedReasons &&& reason.mask ≠ 0)

/-- The counter before it is incremented: 0 after more than 400 seconds or for
another reason. -/
def repeatsBefore (hz : ℕ) (e : Emlsr) (reason : EmlsrExit) (jiffies : ℕ) : ℕ :=
  if jiffies > e.lastExitTs + 400 * hz ∨ e.lastExitReason ≠ some reason then 0
  else e.exitRepeatCount

/-- The delay for a repeat count. -/
def preventDelay (hz count : ℕ) (reason : EmlsrExit) : ℕ :=
  if count > 1 ∧ reason.prevents = true then
    if count = 2 then 300 * hz else 600 * hz
  else 30 * hz

/-- `iwl_mld_check_emlsr_prevention`; the counter is a u8. -/
def iwlMldCheckEmlsrPrevention (hz : ℕ) (e : Emlsr) (reason : EmlsrExit)
    (jiffies : ℕ) : Emlsr × ExitRecord :=
  let count := (e.repeatsBefore hz reason jiffies + 1) % 256
  let counted := { e with
    lastExitReason := some reason
    lastExitTs := jiffies
    exitRepeatCount := count }
  if reason = .block then (counted, ⟨reason, jiffies, none, false⟩)
  else
    let delay := preventDelay hz count reason
    ({ counted with
        blockedReasons :=
          counted.blockedReasons ||| EmlsrBlocked.prevention.mask
        preventDoneWk := counted.preventDoneWk.queue (jiffies + delay) },
      ⟨reason, jiffies, some delay,
        decide (count > 1) && reason.prevents && decide (count > 3)⟩)

end Emlsr

namespace EmlsrVif

/-! ## Active links -/

/-- What the driver's callbacks meet during a change of the active links. -/
structure SwitchResults where
  inHwRestart : Bool
  errorBeforeRecovery : Bool
  adds : ℕ → ℤ
  ctx : ℕ → ℕ
  assigns : ℕ → AssignResults

/-- `__ieee80211_link_release_channel` for the links that go. -/
def releaseLinks (autoEml : Bool) (r : EmlsrVif) (ids : List ℕ) : EmlsrVif :=
  ids.foldl (fun r linkId => r.iwlMldUnassignVifChanctx autoEml linkId 0 []) r

/-- `_ieee80211_link_use_channel` for the links that come: a failure of the
driver is ignored. -/
def useLinks (autoEml : Bool) (res : SwitchResults) (jiffies : ℕ)
    (r : EmlsrVif) (ids : List ℕ) : EmlsrVif :=
  ids.foldl (fun r linkId => (r.iwlMldAssignVifChanctx autoEml linkId
    (res.ctx linkId) (res.assigns linkId) jiffies).2) r

/-- The removed links have been released and the added ones assigned; now the
new bitmap is set and the driver told about the removed links. -/
def finishSwitch (res : SwitchResults) (r : EmlsrVif)
    (widened activeLinks rem : BitVec 16) : EmlsrVif :=
  let after := { r with activeLinks := activeLinks }
  if rem ≠ 0 then
    (after.iwlMldChangeVifLinks res.inHwRestart res.errorBeforeRecovery widened
      activeLinks res.adds).2
  else after

/-- `_ieee80211_set_active_links` on a station interface: -100 is `-ENETDOWN`,
-22 is `-EINVAL`. -/
def setActiveLinksOnce (autoEml : Bool) (r : EmlsrVif)
    (activeLinks : BitVec 16) (res : SwitchResults) (jiffies : ℕ) :
    ℤ × EmlsrVif :=
  let oldActive := r.activeLinks
  let rem := oldActive &&& ~~~activeLinks
  let add := activeLinks &&& ~~~oldActive
  if !r.running then (-100, r)
  else if activeLinks &&& ~~~r.usableLinks ≠ 0 then (-22, r)
  else if oldActive = activeLinks then (0, r)
  else
    let widened := oldActive ||| activeLinks
    let (ret, added) :=
      if add ≠ 0 then
        ({ r with activeLinks := widened } : EmlsrVif).iwlMldChangeVifLinks
          res.inHwRestart res.errorBeforeRecovery oldActive widened res.adds
      else (0, r)
    if ret ≠ 0 then (ret, { added with activeLinks := oldActive })
    else
      let released := added.releaseLinks autoEml (linkIds rem)
      let used := released.useLinks autoEml res jiffies (linkIds add)
      (0, used.finishSwitch res widened activeLinks rem)

/-- `iwl_mld_can_activate_links`. -/
def iwlMldCanActivateLinks (r : EmlsrVif) (desiredLinks : BitVec 16) : Bool :=
  decide (hweight16 desiredLinks ≤ if r.p2p then 1 else 2)

/-- `ieee80211_set_active_links`: links that stay come first. -/
def ieee80211SetActiveLinks (autoEml : Bool) (r : EmlsrVif)
    (activeLinks : BitVec 16) (res : SwitchResults) (jiffies : ℕ) :
    ℤ × EmlsrVif :=
  if activeLinks = 0 then (-22, r)
  else if r.activeLinks = activeLinks then (0, r)
  else if !r.iwlMldCanActivateLinks activeLinks then (-22, r)
  else if r.activeLinks &&& activeLinks ≠ 0 then
    let (ret, kept) :=
      r.setActiveLinksOnce autoEml (r.activeLinks &&& activeLinks) res jiffies
    if ret ≠ 0 then (ret, kept)
    else kept.setActiveLinksOnce autoEml activeLinks res jiffies
  else r.setActiveLinksOnce autoEml activeLinks res jiffies

/-- `ieee80211_set_active_links_async`. -/
def ieee80211SetActiveLinksAsync (r : EmlsrVif) (activeLinks : BitVec 16) :
    EmlsrVif :=
  if activeLinks = 0 then r
  else if !r.running then r
  else if activeLinks &&& ~~~r.usableLinks ≠ 0 then r
  else if r.activeLinks = activeLinks then r
  else { r with desiredActiveLinks := activeLinks, activateLinksWork := true }

/-- `ieee80211_activate_links_work`. -/
def ieee80211ActivateLinksWork (autoEml inReconfig : Bool) (r : EmlsrVif)
    (res : SwitchResults) (jiffies : ℕ) : EmlsrVif :=
  let running := { r with activateLinksWork := false }
  if inReconfig then running
  else
    { (running.ieee80211SetActiveLinks autoEml r.desiredActiveLinks res
        jiffies).2 with desiredActiveLinks := 0 }

/-! ## Exit, block, unblock -/

/-- `iwl_mld_get_primary_link`. -/
def iwlMldGetPrimaryLink (r : EmlsrVif) : ℕ :=
  if !r.isMld || decide (r.activeLinks = 0) then 0
  else if r.emlActive && r.activeLinks.getLsbD r.emlsr.primary then
    r.emlsr.primary
  else ffs r.activeLinks

/-- Whether `_iwl_mld_exit_emlsr` gets past its checks. -/
def exits (autoEml : Bool) (r : EmlsrVif) (exit : EmlsrExit) : Bool :=
  (decide (exit = .failEntry) || autoEml) && r.emlActive && r.isMld &&
    r.authorized

/-- The link an exit keeps: one that is active. -/
def keptLink (r : EmlsrVif) (linkToKeep : ℕ) : ℕ :=
  if r.activeLinks.getLsbD linkToKeep then linkToKeep else ffs r.activeLinks

/-- `_iwl_mld_exit_emlsr`. -/
def iwlMldExitEmlsr (hz : ℕ) (autoEml sync : Bool) (r : EmlsrVif)
    (exit : EmlsrExit) (linkToKeep : ℕ) (res : SwitchResults) (jiffies : ℕ) :
    ℤ × EmlsrVif × List ExitRecord :=
  if !r.exits autoEml exit then (0, r, [])
  else
    let newActiveLinks := linkBit (r.keptLink linkToKeep)
    let (ret, switched) :=
      if sync then r.ieee80211SetActiveLinks autoEml newActiveLinks res jiffies
      else (0, r.ieee80211SetActiveLinksAsync newActiveLinks)
    let (emlsr, done) :=
      switched.emlsr.iwlMldCheckEmlsrPrevention hz exit jiffies
    (ret, { switched with emlsr := emlsr }, [done])

/-- `_iwl_mld_emlsr_block`. -/
def iwlMldEmlsrBlock (hz : ℕ) (autoEml sync : Bool) (r : EmlsrVif)
    (reason : EmlsrBlocked) (linkToKeep : ℕ) (res : SwitchResults)
    (jiffies : ℕ) : ℤ × EmlsrVif × List ExitRecord :=
  if !autoEml || !r.iwlMldVifHasEmlsrCap then (0, r, [])
  else if r.emlsr.blocks reason then (0, r, [])
  else
    ({ r with emlsr := { r.emlsr with
      blockedReasons := r.emlsr.blockedReasons ||| reason.mask } } :
        EmlsrVif).iwlMldExitEmlsr hz autoEml sync .block linkToKeep res jiffies

/-- `iwl_mld_unblock_emlsr`. -/
def iwlMldUnblockEmlsr (autoEml : Bool) (r : EmlsrVif)
    (reason : EmlsrBlocked) : EmlsrVif :=
  if !autoEml || !r.iwlMldVifHasEmlsrCap then r
  else if !r.emlsr.blocks reason then r
  else
    { r with emlsr := { r.emlsr with
      blockedReasons := r.emlsr.blockedReasons &&& ~~~reason.mask } }

/-- `iwl_mld_vif_iter_emlsr_block_tmp_non_bss`. -/
def blockTmpNonBss (hz : ℕ) (autoEml : Bool) (r : EmlsrVif)
    (res : SwitchResults) (jiffies : ℕ) : EmlsrVif × List ExitRecord :=
  if !r.iwlMldVifHasEmlsrCap then (r, [])
  else
    let (ret, blocked, records) := r.iwlMldEmlsrBlock hz autoEml true .tmpNonBss
      r.iwlMldGetPrimaryLink res jiffies
    if ret ≠ 0 then (blocked, records)
    else
      ({ blocked with emlsr := { blocked.emlsr with
        tmpNonBssDoneWk :=
          blocked.emlsr.tmpNonBssDoneWk.queue (jiffies + 10 * hz) } }, records)

/-! ## The delayed works -/

/-- An armed timer that has expired queues its work. -/
def fired (work : DelayedWork) (jiffies : ℕ) : Option DelayedWork :=
  match work.timer with
  | some expiry => if expiry ≤ jiffies then some ⟨none, true⟩ else none
  | none => none

/-- `iwl_mld_emlsr_prevent_done_wk`. -/
def preventDone (autoEml : Bool) (r : EmlsrVif) : EmlsrVif :=
  let running := { r with emlsr := { r.emlsr with
    preventDoneWk := { r.emlsr.preventDoneWk with queued := false } } }
  if !r.emlsr.blocks .prevention then running
  else running.iwlMldUnblockEmlsr autoEml .prevention

/-- `iwl_mld_emlsr_tmp_non_bss_done_wk`. -/
def tmpNonBssDone (autoEml : Bool) (r : EmlsrVif) : EmlsrVif :=
  let running := { r with emlsr := { r.emlsr with
    tmpNonBssDoneWk := { r.emlsr.tmpNonBssDoneWk with queued := false } } }
  if !r.emlsr.blocks .tmpNonBss then running
  else running.iwlMldUnblockEmlsr autoEml .tmpNonBss

/-! ## Link selection -/

/-- The interface as the selection sees it: `conf` adds what only the
selection reads. -/
def selectionView {env : Cfg80211} (r : EmlsrVif) (conf : MldVif env) :
    MldVif env :=
  { conf with
    type := .station
    p2p := r.p2p
    validLinks := if r.isMld then r.usableLinks else 0
    dormantLinks := 0
    authorized := r.authorized
    emlsrSupported := r.emlsrSupported
    isCdb := r.isCdb
    blockedReasons := r.emlsr.blockedReasons }

/-- The end of `_iwl_mld_select_links`. -/
def selectLinks {env : Cfg80211} (mld : IwlMld) (conf : MldVif env) (now : ℤ)
    (r : EmlsrVif) : EmlsrVif :=
  match iwlMldSelectLinks mld (r.selectionView conf) now with
  | none => r
  | some selection =>
      ({ r with emlsr := { r.emlsr with
        selectedPrimary := selection.newPrimary
        selectedLinks := selection.newActive } } :
          EmlsrVif).ieee80211SetActiveLinksAsync selection.newActive

end EmlsrVif

/-! ## The system -/

/-- The steps under the wiphy mutex.  The two reasons that a delayed work
clears have no other caller. -/
inductive EmlsrEvent (env : Cfg80211)
  | select (mld : IwlMld) (conf : MldVif env) (now : ℤ)
  | exit (exit : EmlsrExit) (linkToKeep : ℕ)
  | block (reason : EmlsrBlocked) (linkToKeep : ℕ) (sync : Bool)
      (res : EmlsrVif.SwitchResults)
  | blockTmp (res : EmlsrVif.SwitchResults)
  | unblock (reason : EmlsrBlocked)
  | activateWork (inReconfig : Bool) (res : EmlsrVif.SwitchResults)
  | assign (linkId ctx : ℕ) (results : EmlsrVif.AssignResults)
  | unassign (linkId otherLinks : ℕ) (exits : List ℤ)
  | preventTimer
  | preventWork
  | tmpTimer
  | tmpWork

/-- The interface, the clock and the exits so far, the latest first. -/
structure EmlsrRun where
  vif : EmlsrVif
  jiffies : ℕ
  history : List ExitRecord

namespace EmlsrRun

def initial (vif : EmlsrVif) : EmlsrRun :=
  ⟨vif, 0, []⟩

/-- Whether a block or unblock for this reason has callers of its own. -/
def callable (reason : EmlsrBlocked) : Bool :=
  decide (reason ≠ .prevention) && decide (reason ≠ .tmpNonBss)

def withVif (r : EmlsrRun) (vif : EmlsrVif) : EmlsrRun :=
  { r with vif := vif }

def recorded (r : EmlsrRun) (result : EmlsrVif × List ExitRecord) : EmlsrRun :=
  { r with vif := result.1, history := result.2 ++ r.history }

variable {env : Cfg80211}

/-- One event at the time of `r`. -/
def perform (hz : ℕ) (autoEml : Bool) (r : EmlsrRun) :
    EmlsrEvent env → Option EmlsrRun
  | .select mld conf now =>
      some (r.withVif (r.vif.selectLinks { mld with
        constants := { mld.constants with autoEmlEnable := autoEml } } conf now))
  | .exit exit linkToKeep =>
      if exit = .block then none
      else
        some (r.recorded (r.vif.iwlMldExitEmlsr hz autoEml false exit linkToKeep
          ⟨false, false, fun _ => 0, id, fun _ => .success⟩ r.jiffies).2)
  | .block reason linkToKeep sync res =>
      if callable reason then
        some (r.recorded (r.vif.iwlMldEmlsrBlock hz autoEml sync reason
          linkToKeep res r.jiffies).2)
      else none
  | .blockTmp res =>
      -- the iteration skips an interface that is not running
      if r.vif.running then
        some (r.recorded (r.vif.blockTmpNonBss hz autoEml res r.jiffies))
      else none
  | .unblock reason =>
      if callable reason then
        some (r.withVif (r.vif.iwlMldUnblockEmlsr autoEml reason))
      else none
  | .activateWork inReconfig res =>
      if r.vif.activateLinksWork then
        some (r.withVif (r.vif.ieee80211ActivateLinksWork autoEml inReconfig res
          r.jiffies))
      else none
  | .assign linkId ctx results =>
      some (r.withVif (r.vif.iwlMldAssignVifChanctx autoEml linkId ctx results
        r.jiffies).2)
  | .unassign linkId otherLinks exits =>
      some (r.withVif (r.vif.iwlMldUnassignVifChanctx autoEml linkId otherLinks
        exits))
  | .preventTimer =>
      (EmlsrVif.fired r.vif.emlsr.preventDoneWk r.jiffies).map fun work =>
        r.withVif { r.vif with emlsr := { r.vif.emlsr with
          preventDoneWk := work } }
  | .preventWork =>
      if r.vif.emlsr.preventDoneWk.queued then
        some (r.withVif (r.vif.preventDone autoEml))
      else none
  | .tmpTimer =>
      (EmlsrVif.fired r.vif.emlsr.tmpNonBssDoneWk r.jiffies).map fun work =>
        r.withVif { r.vif with emlsr := { r.vif.emlsr with
          tmpNonBssDoneWk := work } }
  | .tmpWork =>
      if r.vif.emlsr.tmpNonBssDoneWk.queued then
        some (r.withVif (r.vif.tmpNonBssDone autoEml))
      else none

/-- One event after `elapsed` jiffies; `none` where it cannot happen. -/
def step (hz : ℕ) (autoEml : Bool) (r : EmlsrRun) (event : ℕ × EmlsrEvent env) :
    Option (EmlsrRun × List Unit) :=
  (({ r with jiffies := r.jiffies + event.1 } : EmlsrRun).perform hz autoEml
    event.2).map fun after => (after, [])

end EmlsrRun

end IwlwifiStack
