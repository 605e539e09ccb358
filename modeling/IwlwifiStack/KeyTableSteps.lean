import IwlwifiStack.ConditionedRun
import IwlwifiStack.KeyTableModel

/-!
# What changes the keys of an interface

Keys are added, removed and made the default by user space, added by a driver
that rekeys while the host sleeps, and removed with links, stations and the
interface.  Active links are switched, and a hardware restart adds all keys to
the driver again.

The interface is up; nl80211 checks what user space asks for.
-/

namespace IwlwifiStack

namespace KeySdata

section Steps

variable (hw : KeyHw)

/-- What nl80211 and `cfg80211_validate_key_settings` let through. -/
def Nl80211Allows (sdata : KeySdata) (linkId : Option ℕ) (key : SwKey) : Prop :=
  key.keyidx < 8 ∧ (key.cipher.isWep = true → key.keyidx < 4) ∧
    if key.pairwise then key.sta.isSome = true ∧ linkId = none ∧ key.keyidx < 4
    else linkId.isSome = true ↔ sdata.validLinks ≠ ∅

instance (sdata : KeySdata) (linkId : Option ℕ) (key : SwKey) :
    Decidable (sdata.Nl80211Allows linkId key) := by
  unfold Nl80211Allows
  infer_instance

/-- `ieee80211_link_or_deflink` -/
def linkOrDeflink (sdata : KeySdata) : Option ℕ → Option LinkRef
  | some id => sdata.link id
  | none => some .deflink

/-- The checks of `ieee80211_add_key`, and what it makes of the key. -/
def addedKey (sdata : KeySdata) (linkId : Option ℕ) (key : SwKey) :
    Option (LinkRef × SwKey) :=
  (sdata.linkOrDeflink linkId).bind fun link =>
    if key.cipher.isWep ∧ linkId.isSome ∨ key.cipher = .tkip ∧ linkId.isSome then none
    else if ∃ sta ∈ key.sta, sta ∉ sdata.stas then none
    else
      some (link,
        { key with
          linkId := if key.pairwise then none else some link.linkId
          room := ⟨false, false, false⟩
          uploaded := false
          tainted := false })

/-- `ieee80211_add_key`; none for a key that is refused. -/
def addKey (sdata : KeySdata) (linkId : Option ℕ) (key : SwKey) (answer : KeyAnswer) :
    KeySdata × Option Bool :=
  match sdata.addedKey linkId key with
  | none => (sdata, none)
  | some (link, added) => sdata.keyLink hw link added answer

/-- The key whose cipher `ieee80211_gtk_rekey_add` takes. -/
def prevKey (sdata : KeySdata) (link : LinkRef) (idx : ℕ) : Option ℕ :=
  sdata.slot (.linkGtk link idx) <|>
    (if idx < 4 then
      ((List.range 4).filter (· ≠ idx)).findSome? fun i =>
        sdata.slot (.linkGtk link i)
    else sdata.slot (.linkGtk link (idx ^^^ 1)))

/-- The checks of `ieee80211_gtk_rekey_add`, and the key that it makes. -/
def rekeyedKey (sdata : KeySdata) (idx : ℕ) (keyData : List UInt8) (linkId : Option ℕ) :
    Option (LinkRef × SwKey) :=
  (sdata.linkOrDeflink linkId).bind fun link =>
    if !sdata.wowlan ∨ hw.type ≠ .station ∨ 8 ≤ idx then none
    else (sdata.prevKey link idx).bind fun prev =>
      let keylen := (sdata.key prev).key.length
      if keyData.length < keylen then none
      else
        some (link,
          { cipher := (sdata.key prev).cipher
            keyidx := idx
            linkId := some link.linkId
            key := keyData.take keylen
            pairwise := false
            noAutoTx := false
            room := ⟨false, false, false⟩
            sta := none
            uploaded := false
            tainted := false })

/-- `ieee80211_gtk_rekey_add` -/
def gtkRekeyAdd (sdata : KeySdata) (idx : ℕ) (keyData : List UInt8)
    (linkId : Option ℕ) (answer : KeyAnswer) : KeySdata × Option Bool :=
  match sdata.rekeyedKey hw idx keyData linkId with
  | none => (sdata, none)
  | some (link, added) => sdata.keyLink hw link added answer

/-- `ieee80211_lookup_key` -/
def lookupKey (sdata : KeySdata) (linkId : Option ℕ) (idx : ℕ) (pairwise : Bool)
    (sta : Option ℕ) : Option ℕ := do
  let link ← sdata.linkOrDeflink linkId
  match sta with
  | some sta =>
    if sta ∉ sdata.stas then none
    else
      let linkSta ← match linkId with
        | some id => sdata.staLink sta id
        | none => some .deflink
      if pairwise ∧ idx < 4 then sdata.slot (.staPtk sta idx)
      else if !pairwise ∧ idx < 8 then sdata.slot (.staGtk sta linkSta idx)
      else none
  | none =>
    if pairwise ∧ idx < 4 then sdata.slot (.iface idx)
    else sdata.slot (.linkGtk link idx) <|>
      (if idx < 4 then sdata.slot (.iface idx) else none)

/-- `ieee80211_del_key` -/
def delKey (sdata : KeySdata) (linkId : Option ℕ) (idx : ℕ) (pairwise : Bool)
    (sta : Option ℕ) : KeySdata :=
  match sdata.lookupKey linkId idx pairwise sta with
  | some id => sdata.keyFree hw id (decide (hw.type = .station))
  | none => sdata

/-! ## Links -/

/-- `ieee80211_remove_link_keys`, with the keys that it takes off the list. -/
def removeLinkKeys (sdata : KeySdata) (link : LinkRef) : KeySdata × List ℕ :=
  let ids := sdata.keyList.filter fun id =>
    decide (sdata.validLinks = ∅ ∨ (sdata.key id).linkId = some link.linkId)
  (ids.foldl (fun sdata id => sdata.keyRemove hw (some link) id) sdata, ids)

/-- `ieee80211_free_key_list` -/
def freeKeyList (sdata : KeySdata) (ids : List ℕ) : KeySdata :=
  ids.foldl (fun sdata id => sdata.keyDestroy id false) sdata

/-- `ieee80211_tear_down_links` -/
def tearDownLinks (sdata : KeySdata) (links : List LinkRef) : KeySdata :=
  let (torn, ids) := links.foldl
    (fun done link =>
      ((done.1.removeLinkKeys hw link).1, done.2 ++ (done.1.removeLinkKeys hw link).2))
    (sdata, [])
  torn.freeKeyList ids

/-- `ieee80211_set_vif_links_bitmaps` -/
def setVifLinksBitmaps (sdata : KeySdata) (validLinks dormantLinks : Finset ℕ) :
    KeySdata :=
  let linked := { sdata with validLinks := validLinks, dormantLinks := dormantLinks }
  if validLinks = ∅ ∨ ¬dormantLinks ⊆ validLinks ∨ validLinks \ dormantLinks = ∅ then
    { linked with activeLinks := ∅, dormantLinks := ∅ }
  else match hw.type with
    | .ap | .apVlan => { linked with activeLinks := validLinks }
    | .station =>
      if linked.activeLinks ≠ ∅ then linked
      else { linked with activeLinks := validLinks \ dormantLinks }
    | .other => linked

/-- `ieee80211_vif_update_links`; `duplicate` is a duplicate link address, `fails`
an error of the driver. -/
def vifUpdateLinks (sdata : KeySdata) (newLinks dormantLinks : Finset ℕ)
    (duplicate fails : Bool) : KeySdata :=
  let oldLinks := sdata.validLinks
  if oldLinks = newLinks ∧ dormantLinks = sdata.dormantLinks then sdata
  else if duplicate ∧ newLinks ≠ ∅ then sdata.setVifLinksBitmaps hw oldLinks dormantLinks
  else
    let removed := if oldLinks = ∅ then [LinkRef.deflink]
      else ((oldLinks \ newLinks).sort (· ≤ ·)).map .link
    let changed := (sdata.tearDownLinks hw removed).setVifLinksBitmaps hw newLinks
      dormantLinks
    if fails ∧ newLinks ≠ ∅ then changed.setVifLinksBitmaps hw oldLinks dormantLinks
    else changed

/-- The second loop of `ieee80211_key_switch_links`, which ends at an error. -/
def enableKeys (answers : ℕ → KeyAnswer) : List ℕ → KeySdata → KeySdata
  | [], sdata => sdata
  | id :: ids, sdata =>
    let (enabled, ok) := sdata.enableHwAccel hw id (answers id)
    if ok then enableKeys answers ids enabled else enabled

/-- `ieee80211_key_switch_links` -/
def keySwitchLinks (sdata : KeySdata) (removed added : Finset ℕ)
    (answers : ℕ → KeyAnswer) : KeySdata :=
  let onLinks := fun (links : Finset ℕ) => sdata.keyList.filter fun id =>
    decide (∃ link ∈ (sdata.key id).linkId, link ∈ links)
  enableKeys hw answers (onLinks added)
    ((onLinks removed).foldl (fun sdata id => sdata.disableHwAccel hw id) sdata)

/-- `_ieee80211_set_active_links`; `fails` is an error of the driver for the
links to add. -/
def setActiveLinks (sdata : KeySdata) (activeLinks : Finset ℕ) (fails : Bool)
    (answers : ℕ → KeyAnswer) : KeySdata :=
  let oldActive := sdata.activeLinks
  let added := activeLinks \ oldActive
  if hw.type ≠ .station ∨ ¬activeLinks ⊆ sdata.validLinks \ sdata.dormantLinks then sdata
  else if oldActive = activeLinks then sdata
  else if added ≠ ∅ ∧ fails then sdata
  else
    let switched := { sdata with activeLinks := oldActive ∪ added }.keySwitchLinks hw
      (oldActive \ activeLinks) added answers
    { switched with activeLinks := activeLinks }

/-! ## Stations -/

/-- A new station, with the link of its `deflink`. -/
def addSta (sdata : KeySdata) (sta : ℕ) (linkId : Option ℕ) : KeySdata :=
  { sdata with
    stas := insert sta sdata.stas
    staUploaded := Function.update sdata.staUploaded sta false
    staLink := Function.update sdata.staLink sta fun id =>
      if id = linkId.getD 0 then some .deflink else none
    slot := fun slot => match slot with
      | .staPtk other _ => if other = sta then none else sdata.slot slot
      | .staGtk other _ _ => if other = sta then none else sdata.slot slot
      | _ => sdata.slot slot }

/-- `ieee80211_sta_allocate_link` -/
def addStaLink (sdata : KeySdata) (sta linkId : ℕ) : KeySdata :=
  { sdata with
    staLink := Function.update sdata.staLink sta
      (Function.update (sdata.staLink sta) linkId (some (.link linkId)))
    slot := fun slot => match slot with
      | .staGtk other link _ =>
        if other = sta ∧ link = .link linkId then none else sdata.slot slot
      | _ => sdata.slot slot }

/-- `sta_remove_link` -/
def removeStaLink (sdata : KeySdata) (sta linkId : ℕ) : KeySdata :=
  { sdata with
    staLink := Function.update sdata.staLink sta
      (Function.update (sdata.staLink sta) linkId none) }

/-- A round of `ieee80211_free_sta_keys`. -/
def freeStaSlot (sdata : KeySdata) (slot : KeySlot) : KeySdata :=
  match sdata.slot slot with
  | some id => (sdata.keyRemove hw none id).keyDestroy id (decide (hw.type = .station))
  | none => sdata

/-- The slots that `ieee80211_free_sta_keys` empties. -/
def staSlots (sta : ℕ) : List KeySlot :=
  (List.range 8).map (.staGtk sta .deflink) ++ (List.range 4).map (.staPtk sta)

/-- The keys in `__sta_info_destroy_part2`. -/
def removeSta (sdata : KeySdata) (sta : ℕ) : KeySdata :=
  let freed := (staSlots sta).foldl (fun sdata slot => sdata.freeStaSlot hw slot) sdata
  { freed with
    stas := freed.stas.erase sta
    staLink := Function.update freed.staLink sta fun _ => none }

/-! ## The tailroom count, restarts and the end -/

/-- `ieee80211_delayed_tailroom_dec` -/
def delayedTailroomDec (sdata : KeySdata) : KeySdata :=
  { sdata.decreaseTailroom sdata.tailroomPendingDec with tailroomPendingDec := 0 }

/-- A key in `ieee80211_reenable_keys`. -/
def reenableKey (answers : ℕ → KeyAnswer) (sdata : KeySdata) (id : ℕ) : KeySdata :=
  let counted := if !(sdata.key id).tainted then sdata.incrementTailroom else sdata
  (counted.enableHwAccel hw id (answers id)).1

/-- `ieee80211_reenable_keys` -/
def reenableKeys (sdata : KeySdata) (answers : ℕ → KeyAnswer) : KeySdata :=
  sdata.keyList.foldl (reenableKey hw answers)
    { sdata with tailroomNeeded := 0, tailroomPendingDec := 0 }

/-- `ieee80211_reconfig_disconnect`: all keys are tainted. -/
def taintKeys (sdata : KeySdata) : KeySdata :=
  { sdata with
    key := fun id =>
      if id ∈ sdata.keyList then { sdata.key id with tainted := true }
      else sdata.key id }

/-- `active_links` while the hardware is set up again. -/
def singleLink (sdata : KeySdata) : KeySdata :=
  if hnonempty : sdata.activeLinks.Nonempty ∧ hw.type = .station then
    { sdata with activeLinks := {sdata.activeLinks.min' hnonempty.1} }
  else sdata

/-- The keys in `ieee80211_reconfig`; `disconnect` is a call of
`ieee80211_hw_restart_disconnect`, `fails` that the links are not activated
again. -/
def restart (sdata : KeySdata) (disconnect fails : Bool) (answers : ℕ → KeyAnswer) :
    KeySdata :=
  let tainted := if disconnect then sdata.taintKeys else sdata
  ((tainted.singleLink hw).reenableKeys hw answers).setActiveLinks hw sdata.activeLinks
    fails answers

/-- `ieee80211_free_keys`; the keys of the VLANs of an AP are left out, and that the
count of a VLAN is compared with that of its AP. -/
def freeKeys (sdata : KeySdata) : KeySdata :=
  let counted := sdata.delayedTailroomDec
  let removed := sdata.keyList.foldl (fun sdata id => sdata.keyRemove hw none id) counted
  let freed := removed.freeKeyList sdata.keyList
  { freed with
    tailroomWarned := freed.tailroomWarned ||
      decide (hw.type ≠ .apVlan ∧
        (freed.tailroomNeeded ≠ 0 ∨ freed.tailroomPendingDec ≠ 0)) }

end Steps

end KeySdata

inductive KeyEvent
  | addKey (linkId : Option ℕ) (key : SwKey) (answer : KeyAnswer)
  | gtkRekeyAdd (idx : ℕ) (keyData : List UInt8) (linkId : Option ℕ)
      (answer : KeyAnswer)
  | delKey (linkId : Option ℕ) (idx : ℕ) (pairwise : Bool) (sta : Option ℕ)
  | setDefaultKey (linkId : Option ℕ) (idx : ℕ) (uni multi : Bool)
  | setDefaultMgmtKey (linkId : Option ℕ) (idx : ℕ)
  | setDefaultBeaconKey (linkId : Option ℕ) (idx : ℕ)
  | updateLinks (newLinks dormantLinks : Finset ℕ) (duplicate fails : Bool)
  | stopLink (linkId : ℕ)
  | setActiveLinks (activeLinks : Finset ℕ) (fails : Bool) (answers : ℕ → KeyAnswer)
  | addSta (sta : ℕ) (linkId : Option ℕ)
  | addStaLink (sta linkId : ℕ)
  | removeStaLink (sta linkId : ℕ)
  | removeSta (sta : ℕ)
  | setStaUploaded (sta : ℕ) (uploaded : Bool)
  | setWowlan (wowlan : Bool)
  | delayedTailroomDec
  | restart (disconnect fails : Bool) (answers : ℕ → KeyAnswer)
  | freeKeys

/-- An operation; whether it tried to install a key and how that went is the
output. -/
def KeySdata.step (hw : KeyHw) (sdata : KeySdata) :
    KeyEvent → Option (KeySdata × List (Option Bool))
  | .addKey linkId key answer =>
    if sdata.Nl80211Allows linkId key then
      let (after, installed) := sdata.addKey hw linkId key answer
      some (after, [installed])
    else none
  | .gtkRekeyAdd idx keyData linkId answer =>
    let (after, installed) := sdata.gtkRekeyAdd hw idx keyData linkId answer
    some (after, [installed])
  | .delKey linkId idx pairwise sta =>
    if idx < 8 then some (sdata.delKey hw linkId idx pairwise sta, []) else none
  | .setDefaultKey linkId idx uni multi =>
    (sdata.linkOrDeflink linkId).map fun link =>
      (sdata.setDefaultKey link (some idx) uni multi, [])
  | .setDefaultMgmtKey linkId idx =>
    (sdata.linkOrDeflink linkId).map fun link =>
      (sdata.setDefaultMgmtKey link (some idx), [])
  | .setDefaultBeaconKey linkId idx =>
    (sdata.linkOrDeflink linkId).map fun link =>
      (sdata.setDefaultBeaconKey link (some idx), [])
  | .updateLinks newLinks dormantLinks duplicate fails =>
    some (sdata.vifUpdateLinks hw newLinks dormantLinks duplicate fails, [])
  | .stopLink linkId =>
    (sdata.link linkId).map fun link =>
      let (stopped, ids) := sdata.removeLinkKeys hw link
      (stopped.freeKeyList ids, [])
  | .setActiveLinks activeLinks fails answers =>
    if activeLinks ≠ ∅ then some (sdata.setActiveLinks hw activeLinks fails answers, [])
    else none
  | .addSta sta linkId => if sta ∈ sdata.stas then none else some (sdata.addSta sta linkId, [])
  | .addStaLink sta linkId =>
    if sta ∈ sdata.stas ∧ sdata.staLink sta linkId = none then
      some (sdata.addStaLink sta linkId, [])
    else none
  | .removeStaLink sta linkId =>
    if sta ∈ sdata.stas then some (sdata.removeStaLink sta linkId, []) else none
  | .removeSta sta =>
    if sta ∈ sdata.stas then some (sdata.removeSta hw sta, []) else none
  | .setStaUploaded sta uploaded =>
    some ({ sdata with staUploaded := Function.update sdata.staUploaded sta uploaded },
      [])
  | .setWowlan wowlan => some ({ sdata with wowlan := wowlan }, [])
  | .delayedTailroomDec => some (sdata.delayedTailroomDec, [])
  | .restart disconnect fails answers =>
    some (sdata.restart hw disconnect fails answers, [])
  | .freeKeys => some (sdata.freeKeys hw, [])

/-- An interface without keys, links and stations. -/
def KeySdata.initial : KeySdata where
  validLinks := ∅
  dormantLinks := ∅
  activeLinks := ∅
  stas := ∅
  staUploaded _ := false
  staLink _ _ := none
  wowlan := false
  key _ := ⟨.other, 0, none, [], false, false, ⟨false, false, false⟩, none, false, false⟩
  nextKey := 0
  keyList := []
  slot _ := none
  defaultUnicast := none
  defaultMulticast _ := none
  defaultMgmt _ := none
  defaultBeacon _ := none
  tailroomNeeded := 0
  tailroomPendingDec := 0
  destroyed := []
  tailroomWarned := false
  replaceWarned := false

end IwlwifiStack
