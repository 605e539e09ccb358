import IwlwifiStack.KeyTableSteps

/-!
# Keys in the hardware

Telling the driver about keys leaves the tables of the interface alone and
changes the tailroom count by what the key needs more or less room than before.
-/

namespace IwlwifiStack

def SwKey.place (key : SwKey) : SwKey :=
  { key with room := ⟨false, false, false⟩, uploaded := false, tainted := false }

def SwKey.roomNeed (key : SwKey) : ℤ :=
  if key.needsRoom then 1 else 0

theorem SwKey.roomNeed_nonneg (key : SwKey) : 0 ≤ key.roomNeed := by
  unfold roomNeed
  split_ifs <;> decide

theorem SwKey.roomNeed_of_not_uploaded {key : SwKey} (huploaded : key.uploaded = false) :
    key.roomNeed = 1 := by
  simp [roomNeed, needsRoom, huploaded]

theorem SwKey.roomNeed_of_uploaded {key : SwKey} (huploaded : key.uploaded = true) :
    key.roomNeed = if key.room.any then 1 else 0 := by
  simp [roomNeed, needsRoom, huploaded]

namespace KeySdata

def tables (sdata : KeySdata) : KeySdata :=
  { sdata with
    key := fun id => (sdata.key id).place
    tailroomNeeded := 0
    tailroomPendingDec := 0
    tailroomWarned := false }

section Tables

variable {sdata : KeySdata} {id : ℕ}

@[simp] theorem setKey_key_self (sdata : KeySdata) (id : ℕ) (key : SwKey) :
    (sdata.setKey id key).key id = key :=
  Function.update_self _ _ _

theorem setKey_key_of_ne {other : ℕ} (hother : other ≠ id) (key : SwKey) :
    (sdata.setKey id key).key other = sdata.key other :=
  Function.update_of_ne hother _ _

theorem setKey_tables {key : SwKey} (hplace : key.place = (sdata.key id).place) :
    (sdata.setKey id key).tables = sdata.tables := by
  have hkeys : (fun other => ((sdata.setKey id key).key other).place) =
      fun other => (sdata.key other).place := by
    funext other
    by_cases hother : other = id
    · rw [hother, setKey_key_self, hplace]
    · rw [setKey_key_of_ne hother]
  unfold tables
  rw [hkeys]
  rfl

theorem afterEnable_tables (sdata : KeySdata) (id : ℕ) (attempt : EnableAttempt) :
    (sdata.afterEnable id attempt).tables = sdata.tables := by
  cases attempt with
  | tainted =>
      simp only [afterEnable]
      split_ifs
      · exact setKey_tables rfl
      · exact setKey_tables rfl
  | software one => rfl
  | inactive => rfl
  | accepted room =>
      simp only [afterEnable]
      split_ifs
      · exact setKey_tables rfl
      · exact setKey_tables rfl

theorem enableHwAccel_tables (hw : KeyHw) (sdata : KeySdata) (id : ℕ)
    (answer : KeyAnswer) :
    (sdata.enableHwAccel hw id answer).1.tables = sdata.tables :=
  afterEnable_tables sdata id _

theorem disableHwAccel_tables (hw : KeyHw) (sdata : KeySdata) (id : ℕ) :
    (sdata.disableHwAccel hw id).tables = sdata.tables := by
  unfold disableHwAccel
  dsimp only
  split_ifs
  · rfl
  · rfl
  · rfl
  · exact setKey_tables rfl
  · exact setKey_tables rfl

theorem pairwiseRekey_tables (sdata : KeySdata) (old : Option ℕ) (new : ℕ) :
    (sdata.pairwiseRekey old new).tables = sdata.tables := by
  unfold pairwiseRekey
  cases old with
  | none => rfl
  | some old =>
      dsimp only
      split_ifs
      · exact setKey_tables rfl
      · rfl

end Tables

/-! ## Room -/

def roomNeed (sdata : KeySdata) (ids : List ℕ) : ℤ :=
  (ids.map fun id => (sdata.key id).roomNeed).sum

/-- The count is the room that some keys need and what is taken off later. -/
structure Roomy (sdata : KeySdata) (ids : List ℕ) : Prop where
  needed : sdata.tailroomNeeded = sdata.tailroomPendingDec + sdata.roomNeed ids
  pending : 0 ≤ sdata.tailroomPendingDec
  unwarned : sdata.tailroomWarned = false

section Room

variable {sdata : KeySdata} {ids : List ℕ} {id : ℕ}

theorem roomNeed_nonneg (sdata : KeySdata) (ids : List ℕ) : 0 ≤ sdata.roomNeed ids := by
  apply List.sum_nonneg
  intro need hneed
  rcases List.mem_map.mp hneed with ⟨id, _, heq⟩
  rw [← heq]
  exact SwKey.roomNeed_nonneg _

theorem roomNeed_erase (sdata : KeySdata) (hid : id ∈ ids) :
    sdata.roomNeed ids = (sdata.key id).roomNeed + sdata.roomNeed (ids.erase id) :=
  (List.sum_map_erase (fun id => (sdata.key id).roomNeed) hid).symm

theorem roomNeed_congr {before after : KeySdata}
    (hsame : ∀ id ∈ ids, (after.key id).roomNeed = (before.key id).roomNeed) :
    after.roomNeed ids = before.roomNeed ids := by
  rw [roomNeed, roomNeed, List.map_congr_left hsame]

theorem roomNeed_perm {others : List ℕ} (hperm : ids.Perm others) :
    sdata.roomNeed ids = sdata.roomNeed others :=
  (hperm.map _).sum_eq

theorem roomNeed_setKey (hid : id ∈ ids) (hnodup : ids.Nodup) (key : SwKey) :
    (sdata.setKey id key).roomNeed ids =
      sdata.roomNeed ids - (sdata.key id).roomNeed + key.roomNeed := by
  have hothers : (sdata.setKey id key).roomNeed (ids.erase id) =
      sdata.roomNeed (ids.erase id) := by
    apply roomNeed_congr
    intro other hother
    have hne : other ≠ id := (List.Nodup.mem_erase_iff hnodup).mp hother |>.1
    rw [setKey_key_of_ne hne]
  rw [roomNeed_erase _ hid, hothers, roomNeed_erase sdata hid, setKey_key_self]
  ring

theorem Roomy.need_le (hroomy : sdata.Roomy ids) (hid : id ∈ ids) :
    (sdata.key id).roomNeed ≤ sdata.tailroomNeeded := by
  rw [hroomy.needed, roomNeed_erase sdata hid]
  have hrest := sdata.roomNeed_nonneg (ids.erase id)
  have hpending := hroomy.pending
  omega

theorem Roomy.pending_le (hroomy : sdata.Roomy ids) :
    sdata.tailroomPendingDec ≤ sdata.tailroomNeeded := by
  rw [hroomy.needed]
  have hrest := sdata.roomNeed_nonneg ids
  omega

theorem Roomy.change {after : KeySdata} {key : SwKey} (hroomy : sdata.Roomy ids)
    (hid : id ∈ ids) (hnodup : ids.Nodup) (hkey : after.key = (sdata.setKey id key).key)
    (hneeded : after.tailroomNeeded =
      sdata.tailroomNeeded - (sdata.key id).roomNeed + key.roomNeed)
    (hpending : after.tailroomPendingDec = sdata.tailroomPendingDec)
    (hwarned : after.tailroomWarned = false) : after.Roomy ids := by
  constructor
  · have hneed : after.roomNeed ids = (sdata.setKey id key).roomNeed ids := by
      unfold roomNeed
      rw [hkey]
    rw [hneed, roomNeed_setKey hid hnodup, hneeded, hroomy.needed, hpending]
    ring
  · rw [hpending]
    exact hroomy.pending
  · exact hwarned

theorem Roomy.afterEnable (hroomy : sdata.Roomy ids) (hid : id ∈ ids)
    (hnodup : ids.Nodup) {attempt : EnableAttempt}
    (hfresh : ∀ room, attempt = .accepted room → (sdata.key id).uploaded = false) :
    (sdata.afterEnable id attempt).Roomy ids := by
  cases attempt with
  | software one => exact hroomy
  | inactive => exact hroomy
  | tainted =>
      simp only [KeySdata.afterEnable]
      split_ifs with hcounted
      · refine hroomy.change hid hnodup rfl ?_ rfl hroomy.unwarned
        rcases hcounted with ⟨huploaded, hroom⟩
        rw [SwKey.roomNeed_of_uploaded huploaded, SwKey.roomNeed_of_not_uploaded rfl]
        simp only [Bool.not_eq_true'] at hroom
        simp [hroom, incrementTailroom, setKey]
      · refine hroomy.change hid hnodup rfl ?_ rfl hroomy.unwarned
        have hneed : (sdata.key id).roomNeed = 1 := by
          by_cases huploaded : (sdata.key id).uploaded = true
          · rw [SwKey.roomNeed_of_uploaded huploaded]
            exact if_pos (by simpa [huploaded] using hcounted)
          · exact SwKey.roomNeed_of_not_uploaded (Bool.not_eq_true _ ▸ huploaded)
        rw [hneed, SwKey.roomNeed_of_not_uploaded rfl]
        simp [setKey]
  | accepted room =>
      have hneed := SwKey.roomNeed_of_not_uploaded (hfresh room rfl)
      have hcovered := hroomy.need_le hid
      simp only [KeySdata.afterEnable]
      split_ifs with hroom
      · refine hroomy.change hid hnodup rfl ?_ rfl ?_
        · rw [hneed, SwKey.roomNeed_of_uploaded rfl]
          simp only [Bool.not_eq_true'] at hroom
          simp [hroom, decreaseTailroom, setKey]
        · simp only [setKey, decreaseTailroom, hroomy.unwarned, Bool.false_or,
            decide_eq_false_iff_not]
          omega
      · refine hroomy.change hid hnodup rfl ?_ rfl hroomy.unwarned
        rw [hneed, SwKey.roomNeed_of_uploaded rfl]
        simp only [Bool.not_eq_true', Bool.not_eq_false] at hroom
        simp [hroom, setKey]

theorem Roomy.disableHwAccel (hroomy : sdata.Roomy ids) (hid : id ∈ ids)
    (hnodup : ids.Nodup) (hw : KeyHw) : (sdata.disableHwAccel hw id).Roomy ids := by
  unfold KeySdata.disableHwAccel
  dsimp only
  split_ifs with _ huploaded _ hroom
  · exact hroomy
  · exact hroomy
  · exact hroomy
  · refine hroomy.change hid hnodup rfl ?_ rfl hroomy.unwarned
    simp only [Bool.not_eq_true', Bool.not_eq_false] at huploaded hroom
    rw [SwKey.roomNeed_of_uploaded huploaded, SwKey.roomNeed_of_not_uploaded rfl]
    simp [hroom, incrementTailroom, setKey]
  · refine hroomy.change hid hnodup rfl ?_ rfl hroomy.unwarned
    simp only [Bool.not_eq_true', Bool.not_eq_false] at huploaded hroom
    rw [SwKey.roomNeed_of_uploaded huploaded, SwKey.roomNeed_of_not_uploaded rfl]
    simp [hroom, setKey]

theorem Roomy.keyDestroy (hroomy : sdata.Roomy ids) (hid : id ∈ ids)
    (huploaded : (sdata.key id).uploaded = false) (delayTailroom : Bool) :
    (sdata.keyDestroy id delayTailroom).Roomy (ids.erase id) := by
  have hneed := SwKey.roomNeed_of_not_uploaded huploaded
  have hrest := roomNeed_erase sdata hid
  have hneeded := hroomy.needed
  have hpending := hroomy.pending
  have hcovered := hroomy.need_le hid
  have hsame : ∀ delay, (sdata.keyDestroy id delay).roomNeed (ids.erase id) =
      sdata.roomNeed (ids.erase id) := by
    intro delay
    cases delay <;> rfl
  cases delayTailroom with
  | true =>
      refine ⟨?_, ?_, hroomy.unwarned⟩
      · rw [hsame]
        simp only [KeySdata.keyDestroy, if_true]
        omega
      · simp only [KeySdata.keyDestroy, if_true]
        omega
  | false =>
      refine ⟨?_, hpending, ?_⟩
      · rw [hsame]
        simp only [KeySdata.keyDestroy, Bool.false_eq_true, if_false, decreaseTailroom]
        omega
      · simp only [KeySdata.keyDestroy, Bool.false_eq_true, if_false, decreaseTailroom,
          hroomy.unwarned, Bool.false_or, decide_eq_false_iff_not]
        omega

end Room

end KeySdata

end IwlwifiStack
