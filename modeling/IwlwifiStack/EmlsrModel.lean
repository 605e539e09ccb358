import IwlwifiStack.LinkSelectModel

/-!
# An MLO station interface and its EMLSR state

The driver's links with their channel contexts, the per-interface EMLSR data
and the channel context callbacks of `mac80211.c`.  What the firmware answers
to a command is part of the event.
-/

namespace IwlwifiStack

/-- Fields of `struct iwl_mld_link`. -/
structure ChanctxLink where
  chanCtx : Option ℕ
  active : Bool
  deriving DecidableEq, Repr

/-- Bits of `enum iwl_mld_emlsr_blocked`. -/
inductive EmlsrBlocked
  | prevention
  | wowlan
  | roc
  | nonBss
  | tmpNonBss
  | tpt
  | nan
  deriving DecidableEq, Repr

def EmlsrBlocked.mask : EmlsrBlocked → BitVec 32
  | .prevention => 0x1
  | .wowlan => 0x2
  | .roc => 0x4
  | .nonBss => 0x8
  | .tmpNonBss => 0x10
  | .tpt => 0x20
  | .nan => 0x40

/-- `struct wiphy_delayed_work`: the expiry of an armed timer, in jiffies, and
whether the work itself is queued. -/
structure DelayedWork where
  timer : Option ℕ
  queued : Bool
  deriving DecidableEq, Repr

namespace DelayedWork

def idle : DelayedWork :=
  ⟨none, false⟩

/-- `wiphy_delayed_work_queue` arms the timer anew. -/
def queue (work : DelayedWork) (expiry : ℕ) : DelayedWork :=
  { work with timer := some expiry }

def isPending (work : DelayedWork) : Bool :=
  work.timer.isSome || work.queued

end DelayedWork

/-- `struct iwl_mld_emlsr`; no exit has been made while `lastExitReason` is
`none`. -/
structure Emlsr where
  primary : ℕ
  selectedPrimary : ℕ
  selectedLinks : BitVec 16
  blockedReasons : BitVec 32
  lastExitReason : Option EmlsrExit
  lastExitTs : ℕ
  exitRepeatCount : ℕ
  lastEntryTs : ℕ
  preventDoneWk : DelayedWork
  tmpNonBssDoneWk : DelayedWork
  deriving DecidableEq, Repr

def Emlsr.zeroed : Emlsr :=
  ⟨0, 0, 0, 0, none, 0, 0, 0, .idle, .idle⟩

/-- Another interface, as far as it can be blocked from here. -/
structure BssIface where
  hasEmlsrCap : Bool
  blockedReasons : BitVec 32
  deriving DecidableEq, Repr

/-- A station interface of mac80211 and the driver's side of it.  While
`activateLinksWork` holds, the work that activates `desiredActiveLinks` is
queued. -/
structure EmlsrVif where
  p2p : Bool
  isMld : Bool
  emlsrSupported : Bool
  isCdb : Bool
  running : Bool
  usableLinks : BitVec 16
  activeLinks : BitVec 16
  desiredActiveLinks : BitVec 16
  activateLinksWork : Bool
  authorized : Bool
  links : ℕ → Option ChanctxLink
  emlActive : Bool
  emlsr : Emlsr
  others : List BssIface

/-- `1 << linkId` in a u16. -/
def linksBitmap (holds : ℕ → Bool) : BitVec 16 :=
  (List.range 15).foldl
    (fun mask i => if holds i then mask ||| linkBit i else mask) 0

theorem getLsbD_linksFold (holds : ℕ → Bool) {n : ℕ} (hn : n ≤ 15) (i : ℕ) :
    ((List.range n).foldl
      (fun mask j => if holds j then mask ||| linkBit j else mask)
        (0 : BitVec 16)).getLsbD i = (decide (i < n) && holds i) := by
  induction n with
  | zero => simp
  | succ n ih =>
      rw [List.range_succ, List.foldl_append, List.foldl_cons, List.foldl_nil]
      have hlt : i < n + 1 ↔ i < n ∨ i = n := by omega
      by_cases hholds : holds n = true
      · rw [if_pos hholds, BitVec.getLsbD_or, ih (by omega),
          getLsbD_linkBit (by omega)]
        by_cases heq : i = n
        · simp [heq, hholds]
        · simp [heq, hlt]
      · rw [if_neg hholds, ih (by omega)]
        by_cases heq : i = n
        · simp [heq, hholds]
        · simp [heq, hlt]

theorem getLsbD_linksBitmap (holds : ℕ → Bool) (i : ℕ) :
    (linksBitmap holds).getLsbD i = (decide (i < 15) && holds i) :=
  getLsbD_linksFold holds le_rfl i

theorem hweight16_linksBitmap (holds : ℕ → Bool) :
    hweight16 (linksBitmap holds) = (List.range 15).countP holds := by
  have hlast : List.range 16 = List.range 15 ++ [15] := rfl
  have hnone : (linksBitmap holds).getLsbD 15 = false := by
    rw [getLsbD_linksBitmap]
    rfl
  rw [hweight16, hlast, List.countP_append, List.countP_singleton, hnone]
  simp only [Bool.false_eq_true, if_false, Nat.add_zero]
  apply List.countP_congr
  intro i hi
  have hlt := List.mem_range.mp hi
  simp [getLsbD_linksBitmap, hlt]

/-- The lowest link id in a bitmap, `__ffs`. -/
def ffs (mask : BitVec 16) : ℕ :=
  ((List.range 16).find? fun i => mask.getLsbD i).getD 0

namespace EmlsrVif

/-- `ieee80211_vif_type_p2p(vif) != NL80211_IFTYPE_STATION`. -/
def isNonBss (r : EmlsrVif) : Bool :=
  r.p2p

def iwlMldVifHasEmlsrCap (r : EmlsrVif) : Bool :=
  r.authorized && !r.isNonBss && r.isMld && r.emlsrSupported && !r.isCdb

def hasChanCtx (r : EmlsrVif) (linkId : ℕ) : Bool :=
  match r.links linkId with
  | some link => link.chanCtx.isSome
  | none => false

def iwlMldCountActiveLinks (r : EmlsrVif) : ℕ :=
  (List.range 15).countP r.hasChanCtx

def setLink (r : EmlsrVif) (linkId : ℕ) (link : Option ChanctxLink) :
    EmlsrVif :=
  { r with links := Function.update r.links linkId link }

/-! ## Non-BSS links -/

/-- `iwl_mld_vif_iter_update_emlsr_block` over the other interfaces; `exits`
are the results of their synchronous exits, in order. -/
def updateEmlsrBlock (autoEml block : Bool) (reason : EmlsrBlocked) :
    List BssIface → List ℤ → ℤ × List BssIface
  | [], _ => (0, [])
  | iface :: rest, exits =>
      let (result, after) :=
        updateEmlsrBlock autoEml block reason rest exits.tail
      if !iface.hasEmlsrCap || !autoEml then (result, iface :: after)
      else if block then
        if iface.blockedReasons &&& reason.mask ≠ 0 then
          (result, iface :: after)
        else
          let ret := exits.headD 0
          (if result = 0 then ret else result,
            { iface with
              blockedReasons := iface.blockedReasons ||| reason.mask } ::
                after)
      else
        (result, { iface with
          blockedReasons := iface.blockedReasons &&& ~~~reason.mask } :: after)

/-- `iwl_mld_emlsr_check_non_bss_block`: `otherLinks` are the active links of
further non-BSS interfaces. -/
def iwlMldEmlsrCheckNonBssBlock (autoEml : Bool) (r : EmlsrVif)
    (pendingLinkChanges : ℤ) (otherLinks : ℕ) (exits : List ℤ) :
    ℤ × EmlsrVif :=
  let count :=
    if pendingLinkChanges ≤ 0 then
      pendingLinkChanges + r.iwlMldCountActiveLinks + otherLinks
    else pendingLinkChanges
  let (ret, others) :=
    updateEmlsrBlock autoEml (decide (count ≠ 0)) .nonBss r.others exits
  (ret, { r with others := others })

/-! ## Channel context callbacks -/

/-- What the firmware and the station state answer during an assignment. -/
structure AssignResults where
  exits : List ℤ
  changeLink : ℤ
  canActivate : Bool
  activate : ℤ

/-- Every command succeeds. -/
def AssignResults.success : AssignResults :=
  ⟨[], 0, true, 0⟩

def withChanCtx (r : EmlsrVif) (linkId ctx : ℕ) (link : ChanctxLink) :
    EmlsrVif :=
  r.setLink linkId (some { link with chanCtx := some ctx })

/-- The indication that EML is enabled, where two links have a context. -/
def indicateEml (r : EmlsrVif) (jiffies : ℕ) : EmlsrVif :=
  let finalActiveLinks := linksBitmap r.hasChanCtx
  if hweight16 finalActiveLinks > 1 then
    { r with
      emlActive := true
      emlsr := { r.emlsr with
        lastEntryTs := jiffies
        primary :=
          if finalActiveLinks = r.emlsr.selectedLinks then
            r.emlsr.selectedPrimary
          else ffs finalActiveLinks } }
  else r

/-- Label `err`: the channel context pointer is cleared. -/
def assignErr (r : EmlsrVif) (linkId : ℕ) : EmlsrVif :=
  match r.links linkId with
  | some link => r.setLink linkId (some { link with chanCtx := none })
  | none => r

/-- `iwl_mld_activate_link`, -22 is `-EINVAL`. -/
def iwlMldActivateLink (r : EmlsrVif) (linkId : ℕ) (ret : ℤ) : ℤ × EmlsrVif :=
  match r.links linkId with
  | none => (-22, r)
  | some link =>
      if link.active then (-22, r)
      else (ret, r.setLink linkId (some { link with active := decide (ret = 0) }))

/-- The commands after the indication. -/
def assignCommands (r : EmlsrVif) (linkId : ℕ) (results : AssignResults) :
    ℤ × EmlsrVif :=
  if results.changeLink ≠ 0 then
    (results.changeLink, r.assignErr linkId)
  else if results.canActivate then
    let (ret, after) := r.iwlMldActivateLink linkId results.activate
    if ret ≠ 0 then (ret, after.assignErr linkId) else (0, after)
  else (0, r)

/-- `iwl_mld_assign_vif_chanctx` on a station interface. -/
def iwlMldAssignVifChanctx (autoEml : Bool) (r : EmlsrVif) (linkId ctx : ℕ)
    (results : AssignResults) (jiffies : ℕ) : ℤ × EmlsrVif :=
  match r.links linkId with
  | none => (-22, r)
  | some link =>
      let (ret, tracked) :=
        if link.chanCtx = none ∧ r.isNonBss = true then
          r.iwlMldEmlsrCheckNonBssBlock autoEml 1 0 results.exits
        else (0, r)
      if ret ≠ 0 then (ret, tracked)
      else
        ((tracked.withChanCtx linkId ctx link).indicateEml
          jiffies).assignCommands linkId results

/-- `iwl_mld_unassign_vif_chanctx` on an MLO station interface. -/
def iwlMldUnassignVifChanctx (autoEml : Bool) (r : EmlsrVif) (linkId : ℕ)
    (otherLinks : ℕ) (exits : List ℤ) : EmlsrVif :=
  let nActive := r.iwlMldCountActiveLinks
  match r.links linkId with
  | none => r
  | some _ =>
      let tracked :=
        if r.isNonBss then
          (r.iwlMldEmlsrCheckNonBssBlock autoEml (-1) otherLinks exits).2
        else r
      let flagged :=
        if nActive > 1 then { tracked with emlActive := false } else tracked
      flagged.setLink linkId (some ⟨none, false⟩)

/-! ## Link changes -/

/-- `iwl_mld_remove_link`: a link that is still active stays. -/
def iwlMldRemoveLink (r : EmlsrVif) (linkId : ℕ) : EmlsrVif :=
  match r.links linkId with
  | some link => if link.active then r else r.setLink linkId none
  | none => r

/-- `iwl_mld_add_link`: a link that exists already is kept. -/
def iwlMldAddLink (r : EmlsrVif) (linkId : ℕ) (ret : ℤ) : ℤ × EmlsrVif :=
  if ret ≠ 0 then (ret, r.setLink linkId none)
  else
    match r.links linkId with
    | some _ => (0, r)
    | none => (0, r.setLink linkId (some ⟨none, false⟩))

/-- The link ids below `IEEE80211_MLD_MAX_NUM_LINKS` in a bitmap. -/
def linkIds (mask : BitVec 16) : List ℕ :=
  (List.range 15).filter fun i => mask.getLsbD i

/-- The loop that adds links, up to the first error. -/
def addLinks (r : EmlsrVif) (adds : ℕ → ℤ) : List ℕ → ℤ × EmlsrVif
  | [] => (0, r)
  | linkId :: rest =>
      let (ret, after) := r.iwlMldAddLink linkId (adds linkId)
      if ret ≠ 0 then (ret, after) else addLinks after adds rest

def removedLinks (inHwRestart : Bool) (oldLinks newLinks : BitVec 16) :
    BitVec 16 :=
  (oldLinks &&& ~~~newLinks) |||
    (if oldLinks = 0 ∧ inHwRestart = false then 1 else 0)

def addedLinks (oldLinks newLinks : BitVec 16) : BitVec 16 :=
  (newLinks &&& ~~~oldLinks) ||| (if newLinks = 0 then 1 else 0)

/-- `iwl_mld_change_vif_links`; `adds` are the results of adding a link, and
`-EINVAL` for one without a configuration.  An error before a recovery is not
reported. -/
def iwlMldChangeVifLinks (inHwRestart errorBeforeRecovery : Bool)
    (r : EmlsrVif) (oldLinks newLinks : BitVec 16) (adds : ℕ → ℤ) :
    ℤ × EmlsrVif :=
  let removed := removedLinks inHwRestart oldLinks newLinks
  let added := addedLinks oldLinks newLinks
  let (ret, after) :=
    ((linkIds removed).foldl iwlMldRemoveLink r).addLinks adds (linkIds added)
  if ret ≠ 0 then
    (if errorBeforeRecovery then 0 else ret,
      (linkIds added).foldl iwlMldRemoveLink after)
  else
    (0, { after with emlsr := { after.emlsr with
      primary := if newLinks ≠ 0 then ffs newLinks else 0 } })

end EmlsrVif

end IwlwifiStack
