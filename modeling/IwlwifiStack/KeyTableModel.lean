import Mathlib.Tactic

/-!
# The keys of an interface

A key is on `sdata->key_list` and in one slot: of the interface (WEP), of a link
(GTK, IGTK, BIGTK), or of a station.  `ieee80211_key_replace` puts a key into
its slot for another one or for none and tells the driver.

The tailroom count is that of an interface other than an AP_VLAN.  A VLAN starts
with the count of its AP and follows it (`update_vlan_tailroom_need_count`), which
is left out; the count of the AP does not depend on its VLANs.
-/

namespace IwlwifiStack

inductive KeyCipher
  | wep40 | wep104 | tkip | ccmp | ccmp256 | gcmp | gcmp256
  | aesCmac | bipCmac256 | bipGmac128 | bipGmac256 | other
  deriving DecidableEq, Repr

def KeyCipher.isWep : KeyCipher → Bool
  | .wep40 | .wep104 => true
  | _ => false

/-- A link, or the `deflink` of an interface or a station. -/
inductive LinkRef
  | deflink
  | link (id : ℕ)
  deriving DecidableEq, Repr

/-- `link_id` of a link; that of the `deflink` is 0. -/
def LinkRef.linkId : LinkRef → ℕ
  | .deflink => 0
  | .link id => id

/-- `sdata->keys`, `link->gtk`, `sta->ptk` and `link_sta->gtk`. -/
inductive KeySlot
  | iface (idx : ℕ)
  | linkGtk (link : LinkRef) (idx : ℕ)
  | staPtk (sta idx : ℕ)
  | staGtk (sta : ℕ) (link : LinkRef) (idx : ℕ)
  deriving DecidableEq, Repr

/-- The flags of a key that say who makes room for what the key adds. -/
structure RoomFlags where
  generateMmic : Bool
  putMicSpace : Bool
  reserveTailroom : Bool
  deriving DecidableEq, Repr

def RoomFlags.any (room : RoomFlags) : Bool :=
  room.generateMmic || room.putMicSpace || room.reserveTailroom

def RoomFlags.or (room other : RoomFlags) : RoomFlags where
  generateMmic := room.generateMmic || other.generateMmic
  putMicSpace := room.putMicSpace || other.putMicSpace
  reserveTailroom := room.reserveTailroom || other.reserveTailroom

/-- `struct ieee80211_key`; `linkId` is none for -1. -/
structure SwKey where
  cipher : KeyCipher
  keyidx : ℕ
  linkId : Option ℕ
  key : List UInt8
  pairwise : Bool
  noAutoTx : Bool
  room : RoomFlags
  sta : Option ℕ
  uploaded : Bool
  tainted : Bool
  deriving DecidableEq, Repr

/-- Whether the TX path has to make room for the key. -/
def SwKey.needsRoom (key : SwKey) : Bool :=
  !key.uploaded || key.room.any

inductive KeyVifType
  | station | ap | apVlan | other
  deriving DecidableEq, Repr

structure KeyHw where
  setKey : Bool
  supportsPerStaGtk : Bool
  swCryptoControl : Bool
  type : KeyVifType

/-- An answer to `SET_KEY`: accepted with flags, or not, `one` for the return
value 1. -/
inductive KeyAnswer
  | accept (room : RoomFlags)
  | refuse (one : Bool)

/-- The part of `struct ieee80211_sub_if_data` in use; the keys are named by
numbers. -/
structure KeySdata where
  validLinks : Finset ℕ
  dormantLinks : Finset ℕ
  activeLinks : Finset ℕ
  stas : Finset ℕ
  staUploaded : ℕ → Bool
  staLink : ℕ → ℕ → Option LinkRef
  wowlan : Bool
  key : ℕ → SwKey
  nextKey : ℕ
  keyList : List ℕ
  slot : KeySlot → Option ℕ
  defaultUnicast : Option ℕ
  defaultMulticast : LinkRef → Option ℕ
  defaultMgmt : LinkRef → Option ℕ
  defaultBeacon : LinkRef → Option ℕ
  /-- `crypto_tx_tailroom_needed_cnt`, `crypto_tx_tailroom_pending_dec`, without
  what a VLAN has from its AP. -/
  tailroomNeeded : ℤ
  tailroomPendingDec : ℤ
  destroyed : List ℕ
  /-- The WARNs of the tailroom count and of `ieee80211_key_replace`. -/
  tailroomWarned : Bool
  replaceWarned : Bool

namespace KeySdata

/-- `sdata->link[]`: without valid links the first one is the `deflink`. -/
def link (sdata : KeySdata) (id : ℕ) : Option LinkRef :=
  if sdata.validLinks = ∅ then if id = 0 then some .deflink else none
  else if id ∈ sdata.validLinks then some (.link id) else none

def setKey (sdata : KeySdata) (id : ℕ) (key : SwKey) : KeySdata :=
  { sdata with key := Function.update sdata.key id key }

/-- `key->conf.link_id >= 0 && active_links && !(active_links & BIT(link_id))` -/
def Inactive (sdata : KeySdata) (linkId : Option ℕ) : Prop :=
  ∃ id ∈ linkId, sdata.activeLinks ≠ ∅ ∧ id ∉ sdata.activeLinks

instance (sdata : KeySdata) (linkId : Option ℕ) : Decidable (sdata.Inactive linkId) :=
  match linkId with
  | none => isFalse (by rintro ⟨_, hmem, _⟩; cases hmem)
  | some id =>
    decidable_of_iff (sdata.activeLinks ≠ ∅ ∧ id ∉ sdata.activeLinks)
      ⟨fun h => ⟨id, rfl, h⟩, by rintro ⟨_, hmem, h⟩; cases hmem; exact h⟩

/-! ## The tailroom count -/

def incrementTailroom (sdata : KeySdata) : KeySdata :=
  { sdata with tailroomNeeded := sdata.tailroomNeeded + 1 }

/-- `decrease_tailroom_need_count` -/
def decreaseTailroom (sdata : KeySdata) (delta : ℤ) : KeySdata :=
  { sdata with
    tailroomNeeded := sdata.tailroomNeeded - delta
    tailroomWarned := sdata.tailroomWarned || decide (sdata.tailroomNeeded < delta) }

/-! ## The driver -/

/-- What `ieee80211_key_enable_hw_accel` comes to. -/
inductive EnableAttempt
  | tainted
  | software (one : Bool)
  | inactive
  | accepted (room : RoomFlags)

def enableAttempt (hw : KeyHw) (sdata : KeySdata) (key : SwKey) (answer : KeyAnswer) :
    EnableAttempt :=
  if key.tainted then .tainted
  else if !hw.setKey then .software false
  else if key.sta.isSome ∧ !key.pairwise ∧ !hw.supportsPerStaGtk then .software false
  else if ∃ sta ∈ key.sta, sdata.staUploaded sta = false then .software false
  else if hw.type = .apVlan ∧ !key.pairwise then .software true
  else if sdata.Inactive key.linkId then .inactive
  else match answer with
    | .accept room => .accepted room
    | .refuse one => .software one

/-- The return value: whether it is 0. -/
def EnableAttempt.succeeds (hw : KeyHw) (cipher : KeyCipher) : EnableAttempt → Bool
  | .tainted => false
  | .software one => cipher != .other && (one || !hw.swCryptoControl)
  | .inactive => true
  | .accepted _ => true

/-- The key and the tailroom count behind the attempt. -/
def afterEnable (sdata : KeySdata) (id : ℕ) : EnableAttempt → KeySdata
  | .tainted =>
    let key := sdata.key id
    let counted := if key.uploaded ∧ !key.room.any then sdata.incrementTailroom
      else sdata
    counted.setKey id { key with uploaded := false }
  | .software _ => sdata
  | .inactive => sdata
  | .accepted room =>
    let key := { sdata.key id with
      uploaded := true, room := (sdata.key id).room.or room }
    let counted := if !key.room.any then sdata.decreaseTailroom 1 else sdata
    counted.setKey id key

/-- `ieee80211_key_enable_hw_accel` -/
def enableHwAccel (hw : KeyHw) (sdata : KeySdata) (id : ℕ) (answer : KeyAnswer) :
    KeySdata × Bool :=
  let attempt := enableAttempt hw sdata (sdata.key id) answer
  (sdata.afterEnable id attempt, attempt.succeeds hw (sdata.key id).cipher)

/-- `ieee80211_key_disable_hw_accel` -/
def disableHwAccel (hw : KeyHw) (sdata : KeySdata) (id : ℕ) : KeySdata :=
  let key := sdata.key id
  if !hw.setKey then sdata
  else if !key.uploaded then sdata
  else if sdata.Inactive key.linkId then sdata
  else
    let counted := if !key.room.any then sdata.incrementTailroom else sdata
    counted.setKey id { key with uploaded := false }

/-! ## Default keys -/

/-- `__ieee80211_set_default_key`, none for the index -1. -/
def setDefaultKey (sdata : KeySdata) (link : LinkRef) (idx : Option ℕ)
    (uni multi : Bool) : KeySdata :=
  let key := match idx with
    | some idx =>
      if idx < 4 then sdata.slot (.iface idx) <|> sdata.slot (.linkGtk link idx)
      else none
    | none => none
  { sdata with
    defaultUnicast := if uni then key else sdata.defaultUnicast
    defaultMulticast := if multi then Function.update sdata.defaultMulticast link key
      else sdata.defaultMulticast }

/-- `__ieee80211_set_default_mgmt_key` -/
def setDefaultMgmtKey (sdata : KeySdata) (link : LinkRef) (idx : Option ℕ) :
    KeySdata :=
  { sdata with
    defaultMgmt := Function.update sdata.defaultMgmt link
      (match idx with
      | some idx => if 4 ≤ idx ∧ idx < 6 then sdata.slot (.linkGtk link idx) else none
      | none => none) }

/-- `__ieee80211_set_default_beacon_key` -/
def setDefaultBeaconKey (sdata : KeySdata) (link : LinkRef) (idx : Option ℕ) :
    KeySdata :=
  { sdata with
    defaultBeacon := Function.update sdata.defaultBeacon link
      (match idx with
      | some idx => if 6 ≤ idx ∧ idx < 8 then sdata.slot (.linkGtk link idx) else none
      | none => none) }

/-! ## `ieee80211_key_replace` -/

/-- The link and the link of the station; the caller may give the link. -/
def resolveLink (sdata : KeySdata) (link : Option LinkRef) (sta : Option ℕ) :
    Option ℕ → Option (LinkRef × LinkRef)
  | some id => do
    let link ← link <|> sdata.link id
    let linkSta ← match sta with
      | some sta => sdata.staLink sta id
      | none => some .deflink
    some (link, linkSta)
  | none => some (.deflink, .deflink)

/-- The slot of a key. -/
def keySlot (key : SwKey) (link linkSta : LinkRef) : KeySlot :=
  match key.sta with
  | some sta =>
    if key.pairwise then .staPtk sta key.keyidx else .staGtk sta linkSta key.keyidx
  | none =>
    if key.cipher.isWep || key.pairwise then .iface key.keyidx
    else .linkGtk link key.keyidx

def setSlot (sdata : KeySdata) (slot : KeySlot) (id : Option ℕ) : KeySdata :=
  { sdata with slot := Function.update sdata.slot slot id }

/-- The taint of `ieee80211_pairwise_rekey`. -/
def pairwiseRekey (sdata : KeySdata) (old : Option ℕ) (new : ℕ) : KeySdata :=
  match old with
  | some old =>
    if !(sdata.key new).noAutoTx ∧ (sdata.key old).uploaded then
      sdata.setKey old { sdata.key old with tainted := true }
    else sdata
  | none => sdata

/-- The hardware part of `ieee80211_key_replace`. -/
def replaceHw (hw : KeyHw) (sdata : KeySdata) (old new : Option ℕ)
    (answer : KeyAnswer) : KeySdata × Bool :=
  match old, new with
  | some old, some new =>
    if (sdata.key old).uploaded then
      (sdata.disableHwAccel hw old).enableHwAccel hw new answer
    else (sdata, true)
  | some old, none =>
    if (sdata.key old).uploaded then (sdata.disableHwAccel hw old, true)
    else (sdata, true)
  | none, some new =>
    if !sdata.wowlan then sdata.enableHwAccel hw new answer
    else if sdata.Inactive (sdata.key new).linkId then (sdata, true)
    else
      let key := { sdata.key new with uploaded := true }
      let counted := if !key.room.any then sdata.decreaseTailroom 1 else sdata
      (counted.setKey new key, true)
  | none, none => (sdata, true)

/-- The default keys of an interface key or a link key that is replaced. -/
def replaceDefaults (before sdata : KeySdata) (link : LinkRef) (old : Option ℕ)
    (idx : Option ℕ) : KeySdata :=
  let uni := old.isSome && before.defaultUnicast == old
  let multi := old.isSome && before.defaultMulticast link == old
  let mgmt := old.isSome && before.defaultMgmt link == old
  let beacon := old.isSome && before.defaultBeacon link == old
  let sdata := sdata.setDefaultKey link idx uni multi
  let sdata := if mgmt then sdata.setDefaultMgmtKey link idx else sdata
  if beacon then sdata.setDefaultBeaconKey link idx else sdata

/-- The lists, the slot and the default keys. -/
def replaceCommit (sdata : KeySdata) (link : LinkRef) (sta : Option ℕ)
    (slot : KeySlot) (old new : Option ℕ) (idx : ℕ) : KeySdata :=
  let added := { sdata with keyList := sdata.keyList ++ new.toList }
  let stored := added.setSlot slot new
  let defaulted := if sta.isSome then stored
    else replaceDefaults added stored link old (new.map fun _ => idx)
  { defaulted with
    keyList := match old with
      | some old => defaulted.keyList.erase old
      | none => defaulted.keyList }

/-- `ieee80211_key_replace`; false for an error. -/
def keyReplace (hw : KeyHw) (sdata : KeySdata) (link : Option LinkRef)
    (sta : Option ℕ) (pairwise : Bool) (old new : Option ℕ) (answer : KeyAnswer) :
    KeySdata × Bool :=
  match new <|> old with
  | none => (sdata, true)
  | some id =>
    let key := sdata.key id
    if ∃ other ∈ old, (sdata.key other).linkId ≠ key.linkId then
      ({ sdata with replaceWarned := true }, false)
    else match sdata.resolveLink link sta key.linkId with
      | none => (sdata, false)
      | some (link, linkSta) =>
        if (key.cipher.isWep || pairwise) ∧ 4 ≤ key.keyidx then (sdata, false)
        else
          let checked := { sdata with
            replaceWarned := sdata.replaceWarned || decide (new.isSome ∧
              ∃ other ∈ old, (sdata.key other).keyidx ≠ key.keyidx) }
          let rekeyed := match new with
            | some new =>
              if sta.isSome ∧ pairwise then checked.pairwiseRekey old new else checked
            | none => checked
          let (told, ok) := rekeyed.replaceHw hw old new answer
          if ok then
            (told.replaceCommit link sta
              (keySlot { key with sta := sta, pairwise := pairwise } link linkSta)
              old new key.keyidx, true)
          else (told, false)

/-! ## Keys that come and go -/

/-- `__ieee80211_key_destroy` of a key that was in use. -/
def keyDestroy (sdata : KeySdata) (id : ℕ) (delayTailroom : Bool) : KeySdata :=
  let destroyed := { sdata with destroyed := sdata.destroyed ++ [id] }
  if delayTailroom then
    { destroyed with tailroomPendingDec := destroyed.tailroomPendingDec + 1 }
  else destroyed.decreaseTailroom 1

/-- `ieee80211_key_replace` of a key with nothing. -/
def keyRemove (hw : KeyHw) (sdata : KeySdata) (link : Option LinkRef) (id : ℕ) :
    KeySdata :=
  (sdata.keyReplace hw link (sdata.key id).sta (sdata.key id).pairwise (some id) none
    (.refuse false)).1

/-- `ieee80211_key_free` -/
def keyFree (hw : KeyHw) (sdata : KeySdata) (id : ℕ) (delayTailroom : Bool) :
    KeySdata :=
  (sdata.keyRemove hw none id).keyDestroy id delayTailroom

/-- `ieee80211_key_identical`; the TX MIC key of a TKIP group key does not count
on a station. -/
def keyIdentical (hw : KeyHw) (old new : SwKey) : Bool :=
  let same := fun (key : List UInt8) =>
    if hw.type = .station ∧ new.cipher = .tkip ∧ key.length = 32 ∧ !new.pairwise then
      key.take 16 ++ List.replicate 8 0 ++ key.drop 24
    else key
  old.key.length == new.key.length && same old.key == same new.key

/-- The key that `ieee80211_key_link` replaces, none for an error. -/
def oldKey (sdata : KeySdata) (link : LinkRef) (key : SwKey) :
    Option (Option ℕ) :=
  match key.sta with
  | some sta =>
    if key.pairwise then
      let old := sdata.slot (.staPtk sta key.keyidx)
      let alt := sdata.slot (.staPtk sta (key.keyidx ^^^ 1))
      if (∃ id ∈ alt, (sdata.key id).cipher ≠ key.cipher) ∨
          (∃ id ∈ old, (sdata.key id).cipher ≠ key.cipher) then none
      else some old
    else
      (match key.linkId with
      | some id => sdata.staLink sta id
      | none => some .deflink).map fun linkSta =>
        sdata.slot (.staGtk sta linkSta key.keyidx)
  | none =>
    some ((if key.keyidx < 4 then sdata.slot (.iface key.keyidx) else none) <|>
      sdata.slot (.linkGtk link key.keyidx))

/-- Whether `ieee80211_key_link` goes on with an old key. -/
def accepts (hw : KeyHw) (sdata : KeySdata) (old : Option ℕ) (key : SwKey) : Prop :=
  (key.pairwise = true ∨ ∀ id ∈ old, (sdata.key id).cipher = key.cipher) ∧
    ∀ id ∈ old, keyIdentical hw (sdata.key id) key = false

instance (hw : KeyHw) (sdata : KeySdata) (old : Option ℕ) (key : SwKey) :
    Decidable (sdata.accepts hw old key) := by
  unfold accepts
  infer_instance

/-- The key belongs to the interface from now on. -/
def adopt (sdata : KeySdata) (key : SwKey) : KeySdata :=
  ({ sdata with nextKey := sdata.nextKey + 1 }.setKey sdata.nextKey key).incrementTailroom

/-- `ieee80211_key_link`; the second value is none where the key is refused, and
else whether it was installed. -/
def keyLink (hw : KeyHw) (sdata : KeySdata) (link : LinkRef) (key : SwKey)
    (answer : KeyAnswer) : KeySdata × Option Bool :=
  match sdata.oldKey link key with
  | none => (sdata, none)
  | some old =>
    if sdata.accepts hw old key then
      let new := sdata.nextKey
      let (replaced, ok) := (sdata.adopt key).keyReplace hw (some link) key.sta key.pairwise
        old (some new) answer
      let delayTailroom := decide (hw.type = .station)
      if ok then
        (match old with
        | some old => replaced.keyDestroy old delayTailroom
        | none => replaced, some true)
      else (replaced.keyFree hw new delayTailroom, some false)
    else (sdata, none)

end KeySdata

end IwlwifiStack
