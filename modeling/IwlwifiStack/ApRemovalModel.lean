import IwlwifiStack.ActiveLinksModel
import IwlwifiStack.ElementProfiles

/-!
# Removal of links by the AP

Beacons with a Reconfiguration multi-link element name links that go away, and
a delayed work removes them.  A table with one entry for each link is accessed
by the link ID of a profile; an access behind its end has no result.
-/

namespace IwlwifiStack

/-! ## Profiles -/

def ieee80211MleReconfStaProfSizeOk (data : List UInt8) : Bool :=
  let control := getLe16 data 0
  let infoLen := 1 + addIf (hasBits control 0x0020) 6 +
    addIf (hasBits control 0x0040) 2 + addIf (hasBits control 0x0800) 2
  3 ≤ data.length ∧ infoLen ≤ dataOctet data 2 ∧
    3 + dataOctet data 2 - 1 ≤ data.length

/-- `IEEE80211_MLE_STA_RECONF_CONTROL_LINK_ID`, and the same bits of
`IEEE80211_MLE_STA_EPCS_CONTROL_LINK_ID`. -/
def profLinkId (data : List UInt8) : ℕ := getLe16 data 0 % 16

/-- `IEEE80211_MLE_STA_RECONF_CONTROL_AP_REM_TIMER_PRESENT` -/
def apRemTimerPresent (data : List UInt8) : Bool :=
  hasBits (getLe16 data 0) 0x0040

/-- The AP removal timer, behind a MAC address when there is one. -/
def apRemTimer (data : List UInt8) : ℕ :=
  getLe16 data (3 + addIf (hasBits (getLe16 data 0) 0x0020) 6)

/-- `removed_links` and `link_removal_timeout` in the loop. -/
structure ReconfTables where
  removedLinks : BitVec 16
  linkRemovalTimeout : ℕ → ℕ

/-- How the walk over the profiles ends. -/
inductive ReconfWalk
  | outOfBounds
  | tooShort
  | tables (found : ReconfTables)

/-- What the walk does with one profile of a good size. -/
def ReconfTables.profile (tables : ReconfTables) (data : List UInt8) :
    ReconfTables :=
  { removedLinks :=
      tables.removedLinks ||| BitVec.twoPow 16 (profLinkId data)
    linkRemovalTimeout :=
      if apRemTimerPresent data then
        Function.update tables.linkRemovalTimeout (profLinkId data)
          (apRemTimer data)
      else tables.linkRemovalTimeout }

/-- The loop of `ieee80211_ml_reconfiguration`. -/
def reconfProfiles : List Element → ReconfTables → ReconfWalk
  | [], tables => .tables tables
  | sub :: rest, tables =>
      if sub.id ≠ 0 then reconfProfiles rest tables
      else if !ieee80211MleReconfStaProfSizeOk sub.data then .tooShort
      else if apRemTimerPresent sub.data ∧
          maxNumLinks ≤ profLinkId sub.data then .outOfBounds
      else reconfProfiles rest (tables.profile sub.data)

/-! ## Scheduling -/

/-- A station with `u.mgd.removed_links` and `u.mgd.ml_reconf_work`; `beaconInt`
is that of each `struct ieee80211_bss_conf`. -/
structure ApRemoval where
  associated : Bool
  vif : VifLinks
  beaconInt : LinkPtr → BitVec 16
  removedLinks : BitVec 16
  work : HrtimerWork

/-- `link_delay`, in TU. -/
def linkDelay (beaconInt : BitVec 16) (timeout : ℕ) : ℕ :=
  if timeout < 1 then 0 else beaconInt.toNat * (timeout - 1)

/-- The loop over the links to remove: `removed_links` and `delay`. -/
def removalDelay (st : ApRemoval) (timeout : ℕ → ℕ) :
    List ℕ → BitVec 16 × ℕ → BitVec 16 × ℕ
  | [], acc => acc
  | id :: ids, acc =>
      match st.vif.linkConf id with
      | none =>
          removalDelay st timeout ids
            (acc.1 &&& ~~~BitVec.twoPow 16 id, acc.2)
      | some conf =>
          let delay := linkDelay (st.beaconInt conf) (timeout id)
          removalDelay st timeout ids
            (acc.1, if acc.2 = 0 then delay else min acc.2 delay)

namespace ApRemoval

/-- `ieee80211_ml_reconfiguration` at a time in microseconds; `none` when a
table is accessed out of bounds. -/
def mlReconfiguration (st : ApRemoval) (now : ℕ) (mlReconf : List UInt8) :
    Option ApRemoval :=
  if st.vif.validLinks = 0 then some st
  else
    match reconfProfiles (mleSubelements mlReconf) ⟨0, fun _ => 0⟩ with
    | .outOfBounds => none
    | .tooShort => some st
    | .tables found =>
        let removed := found.removedLinks &&& st.vif.validLinks
        if removed = 0 then
          if st.removedLinks ≠ 0 then
            some { st with removedLinks := 0, work := .cancel }
          else some st
        else
          let delayed := removalDelay st found.linkRemovalTimeout
            (linkIds removed) (removed, 0)
          some
            { st with
              removedLinks := delayed.1
              work := st.work.queue now (1024 * delayed.2) }

/-- `__ieee80211_disconnect`, with what `ieee80211_set_disassoc` does here. -/
def disconnect (env : SetLinksEnv) (st : ApRemoval) : Option ApRemoval :=
  if !st.associated then some st
  else
    (st.vif.vifSetLinks env 0 0).map fun result =>
      { st with
        associated := false
        vif := result.2
        removedLinks := 0
        work := .cancel }

/-- The surroundings of the work. -/
structure WorkEnv where
  active : ActiveLinksEnv
  links : SetLinksEnv
  disconnect : SetLinksEnv

/-- The label `out` of `ieee80211_ml_reconf_work`. -/
def reconfOut (env : WorkEnv) (ret : ℤ) (st : ApRemoval) : Option ApRemoval :=
  (if ret = 0 then some st else st.disconnect env.disconnect).map fun st =>
    { st with removedLinks := 0 }

/-- The active links without the removed ones. -/
def reconfActive (env : WorkEnv) (st : ApRemoval) : ℤ × VifLinks :=
  let newValid := st.vif.validLinks &&& ~~~st.removedLinks
  let newActive := st.vif.activeLinks &&& ~~~st.removedLinks
  if newActive ≠ st.vif.activeLinks then
    st.vif.setActiveLinks env.active
      (if newActive = 0 then firstLink (newValid &&& ~~~st.vif.dormantLinks)
        else newActive)
  else (0, st.vif)

/-- `ieee80211_ml_reconf_work` -/
def mlReconfWork (env : WorkEnv) (st : ApRemoval) : Option ApRemoval :=
  if st.removedLinks = 0 then some st
  else
    let newValid := st.vif.validLinks &&& ~~~st.removedLinks
    if newValid = st.vif.validLinks then some st
    else if newValid = 0 ∨ newValid &&& ~~~st.vif.dormantLinks = 0 then
      reconfOut env errEINVAL st
    else
      let switched := st.reconfActive env
      if switched.1 ≠ 0 then
        reconfOut env switched.1 { st with vif := switched.2 }
      else
        (switched.2.vifSetLinks env.links newValid
            (switched.2.dormantLinks &&& ~~~st.removedLinks)).bind
          fun result =>
            reconfOut env result.1 { st with vif := result.2 }

/-- The loop of `ieee80211_ml_epcs`: the links whose parameters are set, and
the profiles that have them. -/
def epcsProfiles (st : ApRemoval) :
    List Element → Option (List (LinkPtr × Element))
  | [] => some []
  | sub :: rest =>
      if sub.id ≠ 0 then epcsProfiles st rest
      else if sub.data.length < 2 then some []
      else if maxNumLinks ≤ profLinkId sub.data then none
      else
        match st.vif.link (profLinkId sub.data) with
        | none => epcsProfiles st rest
        | some link => (epcsProfiles st rest).map ((link, sub) :: ·)

/-- `ieee80211_ml_epcs` -/
def mlEpcs (st : ApRemoval) (mlEpcs : List UInt8) :
    Option (List (LinkPtr × Element)) :=
  if st.vif.validLinks = 0 then some []
  else epcsProfiles st (mleSubelements mlEpcs)

end ApRemoval

/-- Beacons, the timer and the work of the removal, EPCS responses, changes of
the active links, and disconnections. -/
inductive RemovalEvent
  | beacon (now : ℕ) (mlReconf : List UInt8)
  | timer (now : ℕ)
  | reconfWork (env : ApRemoval.WorkEnv)
  | epcs (mlEpcs : List UInt8)
  | setActiveLinks (env : ActiveLinksEnv) (activeLinks : BitVec 16)
  | disconnect (env : SetLinksEnv)

namespace ApRemoval

def step (st : ApRemoval) : RemovalEvent → Option ApRemoval
  | .beacon now mlReconf => st.mlReconfiguration now mlReconf
  | .timer now => some { st with work := st.work.fire now }
  | .reconfWork env =>
      if st.work.queued then
        mlReconfWork env
          { st with work := { st.work with queued := false } }
      else some st
  | .epcs mlEpcs => (st.mlEpcs mlEpcs).map fun _ => st
  | .setActiveLinks env activeLinks =>
      some { st with vif := (st.vif.setActiveLinks env activeLinks).2 }
  | .disconnect env => st.disconnect env

end ApRemoval

end IwlwifiStack
