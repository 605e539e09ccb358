import IwlwifiStack.KeySlots

/-!
# Every key once

A key is off the list for a while before it is destroyed and after it was made.
The loose keys are not in the hardware, and the tailroom count still has them.
-/

namespace IwlwifiStack

namespace KeySdata

/-- The hardware has only keys of active links, and the count is right. -/
structure Mounted (hw : KeyHw) (sdata : KeySdata) (ids : List ℕ) : Prop where
  awake : ∀ id ∈ ids, (sdata.key id).uploaded = true →
    hw.setKey = true ∧ ¬sdata.Inactive (sdata.key id).linkId
  roomy : sdata.Roomy ids

/-- What holds between two steps, and inside a step with the keys that are loose. -/
structure Sound (hw : KeyHw) (sdata : KeySdata) (loose : List ℕ) : Prop where
  indexed : sdata.Indexed
  once : (loose ++ sdata.keyList ++ sdata.destroyed).Perm (List.range sdata.nextKey)
  mounted : sdata.Mounted hw (loose ++ sdata.keyList)
  down : ∀ id ∈ loose, (sdata.key id).uploaded = false
  unwarned : sdata.replaceWarned = false
  wowlan : sdata.wowlan = true → hw.setKey = true
  idle : sdata.validLinks = ∅ → sdata.activeLinks = ∅
  active : hw.type = .station → sdata.validLinks ≠ ∅ → sdata.activeLinks ≠ ∅

section Mounted

variable {hw : KeyHw} {sdata after : KeySdata} {ids others : List ℕ} {id : ℕ}

theorem inactive_congr {before after : KeySdata}
    (hactive : after.activeLinks = before.activeLinks) (linkId : Option ℕ) :
    after.Inactive linkId ↔ before.Inactive linkId := by
  unfold Inactive
  rw [hactive]

theorem linkId_of_place {key other : SwKey} (hplace : other.place = key.place) :
    other.linkId = key.linkId :=
  (SwKey.fields_of_place hplace).2.2.1

theorem Mounted.perm (hmounted : sdata.Mounted hw ids) (hperm : ids.Perm others) :
    sdata.Mounted hw others := by
  constructor
  · intro id hid
    exact hmounted.awake id (hperm.mem_iff.mpr hid)
  · exact ⟨(roomNeed_perm hperm) ▸ hmounted.roomy.needed, hmounted.roomy.pending,
      hmounted.roomy.unwarned⟩

theorem Mounted.alike (hmounted : sdata.Mounted hw ids)
    (hkey : ∀ id ∈ ids, (after.key id).uploaded = (sdata.key id).uploaded ∧
      (after.key id).room = (sdata.key id).room ∧
      (after.key id).linkId = (sdata.key id).linkId)
    (hactive : after.activeLinks = sdata.activeLinks)
    (hneeded : after.tailroomNeeded = sdata.tailroomNeeded)
    (hpending : after.tailroomPendingDec = sdata.tailroomPendingDec)
    (hwarned : after.tailroomWarned = sdata.tailroomWarned) : after.Mounted hw ids := by
  constructor
  · intro id hid huploaded
    rcases hkey id hid with ⟨hsame, _, hlinkId⟩
    rw [hsame] at huploaded
    rw [hlinkId, inactive_congr hactive]
    exact hmounted.awake id hid huploaded
  · have hneed : after.roomNeed ids = sdata.roomNeed ids := by
      apply roomNeed_congr
      intro id hid
      rcases hkey id hid with ⟨huploaded, hroom, _⟩
      rw [SwKey.roomNeed, SwKey.roomNeed, SwKey.needsRoom, SwKey.needsRoom, huploaded, hroom]
    exact ⟨by rw [hneeded, hpending, hneed]; exact hmounted.roomy.needed,
      hpending ▸ hmounted.roomy.pending, hwarned.trans hmounted.roomy.unwarned⟩

theorem Mounted.congr (hmounted : sdata.Mounted hw ids)
    (hkey : ∀ id ∈ ids, after.key id = sdata.key id)
    (hactive : after.activeLinks = sdata.activeLinks)
    (hneeded : after.tailroomNeeded = sdata.tailroomNeeded)
    (hpending : after.tailroomPendingDec = sdata.tailroomPendingDec)
    (hwarned : after.tailroomWarned = sdata.tailroomWarned) : after.Mounted hw ids :=
  hmounted.alike (fun id hid => by rw [hkey id hid]; exact ⟨rfl, rfl, rfl⟩) hactive hneeded
    hpending hwarned

theorem Mounted.change (hmounted : sdata.Mounted hw ids) (hroomy : after.Roomy ids)
    (hactive : after.activeLinks = sdata.activeLinks)
    (hothers : ∀ other, other ≠ id → after.key other = sdata.key other)
    (hself : (after.key id).uploaded = true →
      hw.setKey = true ∧ ¬sdata.Inactive (after.key id).linkId) :
    after.Mounted hw ids := by
  constructor
  · intro other hother huploaded
    rw [inactive_congr hactive]
    by_cases hsame : other = id
    · rw [hsame] at huploaded ⊢
      exact hself huploaded
    · rw [hothers other hsame] at huploaded ⊢
      exact hmounted.awake other hother huploaded
  · exact hroomy

theorem disableHwAccel_other (hw : KeyHw) (sdata : KeySdata) {other : ℕ}
    (hother : other ≠ id) : (sdata.disableHwAccel hw id).key other = sdata.key other := by
  unfold disableHwAccel
  dsimp only
  split_ifs
  · rfl
  · rfl
  · rfl
  · exact setKey_key_of_ne hother _
  · exact setKey_key_of_ne hother _

theorem Mounted.disabled (hmounted : sdata.Mounted hw ids) (hid : id ∈ ids) :
    ((sdata.disableHwAccel hw id).key id).uploaded = false := by
  unfold disableHwAccel
  dsimp only
  split_ifs with hset huploaded hinactive
  · rw [← Bool.not_eq_true]
    intro hup
    rw [(hmounted.awake id hid hup).1] at hset
    cases hset
  · exact Bool.not_eq_true' _ ▸ huploaded
  · rw [← Bool.not_eq_true]
    intro hup
    exact (hmounted.awake id hid hup).2 hinactive
  · simp
  · simp

theorem Mounted.disableHwAccel (hmounted : sdata.Mounted hw ids) (hid : id ∈ ids)
    (hnodup : ids.Nodup) : (sdata.disableHwAccel hw id).Mounted hw ids := by
  apply hmounted.change (hmounted.roomy.disableHwAccel hid hnodup hw)
  · exact (sameTables (disableHwAccel_tables hw sdata id)).activeLinks
  · exact fun other hother => disableHwAccel_other hw sdata hother
  · intro huploaded
    rw [hmounted.disabled hid] at huploaded
    cases huploaded

theorem afterEnable_other (sdata : KeySdata) (attempt : EnableAttempt) {other : ℕ}
    (hother : other ≠ id) : (sdata.afterEnable id attempt).key other = sdata.key other := by
  cases attempt with
  | tainted =>
      simp only [afterEnable]
      split_ifs <;> exact setKey_key_of_ne hother _
  | software one => rfl
  | inactive => rfl
  | accepted room =>
      simp only [afterEnable]
      split_ifs <;> exact setKey_key_of_ne hother _

theorem enableAttempt_accepted {key : SwKey} {answer : KeyAnswer} {room : RoomFlags}
    (haccepted : enableAttempt hw sdata key answer = .accepted room) :
    hw.setKey = true ∧ ¬sdata.Inactive key.linkId := by
  unfold enableAttempt at haccepted
  split_ifs at haccepted with _ hset _ _ _ hinactive
  exact ⟨by simpa using hset, hinactive⟩

theorem enableHwAccel_uploaded {answer : KeyAnswer}
    (hdown : (sdata.key id).uploaded = false)
    (huploaded : ((sdata.enableHwAccel hw id answer).1.key id).uploaded = true) :
    (sdata.enableHwAccel hw id answer).2 = true ∧
      hw.setKey = true ∧ ¬sdata.Inactive (sdata.key id).linkId := by
  unfold enableHwAccel at huploaded ⊢
  dsimp only at huploaded ⊢
  cases hattempt : enableAttempt hw sdata (sdata.key id) answer with
  | tainted =>
      rw [hattempt] at huploaded
      simp only [afterEnable] at huploaded
      split_ifs at huploaded <;> simp at huploaded
  | software one =>
      rw [hattempt] at huploaded
      exact absurd (huploaded.symm.trans hdown) (by decide)
  | inactive =>
      rw [hattempt] at huploaded
      exact absurd (huploaded.symm.trans hdown) (by decide)
  | accepted room => exact ⟨rfl, enableAttempt_accepted hattempt⟩

theorem Mounted.enableHwAccel (hmounted : sdata.Mounted hw ids) (hid : id ∈ ids)
    (hnodup : ids.Nodup) (hdown : (sdata.key id).uploaded = false) (answer : KeyAnswer) :
    (sdata.enableHwAccel hw id answer).1.Mounted hw ids := by
  have hsame := sameTables (enableHwAccel_tables hw sdata id answer)
  apply hmounted.change (hmounted.roomy.afterEnable hid hnodup fun _ _ => hdown)
  · exact hsame.activeLinks
  · exact fun other hother => afterEnable_other sdata _ hother
  · intro huploaded
    change ((sdata.enableHwAccel hw id answer).1.key id).uploaded = true at huploaded
    rw [show (sdata.afterEnable id _).key id = (sdata.enableHwAccel hw id answer).1.key id
      from rfl, linkId_of_place (hsame.place id)]
    exact (enableHwAccel_uploaded hdown huploaded).2

theorem Mounted.taint (hmounted : sdata.Mounted hw ids) (id : ℕ) :
    (sdata.setKey id { sdata.key id with tainted := true }).Mounted hw ids := by
  refine hmounted.alike (fun other _ => ?_) rfl rfl rfl rfl
  by_cases hother : other = id
  · rw [hother, setKey_key_self]
    exact ⟨rfl, rfl, rfl⟩
  · rw [setKey_key_of_ne hother]
    exact ⟨rfl, rfl, rfl⟩

end Mounted

/-! ## The hardware part of a replacement -/

section Replace

variable {hw : KeyHw} {sdata : KeySdata} {ids : List ℕ}

/-- What the driver is told for a key that is removed. -/
structure Unloads (hw : KeyHw) (sdata : KeySdata) (ids : List ℕ) (id : ℕ)
    (told : KeySdata) : Prop where
  same : sdata.SameTables told
  mounted : told.Mounted hw ids
  down : (told.key id).uploaded = false
  others : ∀ other, other ≠ id → told.key other = sdata.key other

theorem Mounted.unload (hmounted : sdata.Mounted hw ids) (hnodup : ids.Nodup) {id : ℕ}
    (hid : id ∈ ids) (answer : KeyAnswer) :
    (sdata.replaceHw hw (some id) none answer).2 = true ∧
      sdata.Unloads hw ids id (sdata.replaceHw hw (some id) none answer).1 := by
  simp only [replaceHw]
  split_ifs with huploaded
  · refine ⟨rfl, sameTables (disableHwAccel_tables hw sdata id), ?_, ?_, ?_⟩
    · exact hmounted.disableHwAccel hid hnodup
    · exact hmounted.disabled hid
    · exact fun other hother => disableHwAccel_other hw sdata hother
  · exact ⟨rfl, sameTables rfl, hmounted, by simpa using huploaded, fun _ _ => rfl⟩

/-- What the driver is told for a key that comes, perhaps for another one. -/
structure Loads (hw : KeyHw) (sdata : KeySdata) (ids : List ℕ) (old : Option ℕ) (new : ℕ)
    (told : KeySdata) (ok : Bool) : Prop where
  same : sdata.SameTables told
  mounted : told.Mounted hw ids
  old_down : ∀ id ∈ old, (told.key id).uploaded = false
  new_down : ok = false → (told.key new).uploaded = false
  others : ∀ other, other ≠ new → other ∉ old → told.key other = sdata.key other

theorem SameTables.trans {before between after : KeySdata}
    (hfirst : before.SameTables between) (hsecond : between.SameTables after) :
    before.SameTables after := by
  constructor
  · exact hsecond.validLinks.trans hfirst.validLinks
  · exact hsecond.dormantLinks.trans hfirst.dormantLinks
  · exact hsecond.activeLinks.trans hfirst.activeLinks
  · exact hsecond.stas.trans hfirst.stas
  · exact hsecond.staUploaded.trans hfirst.staUploaded
  · exact hsecond.staLink.trans hfirst.staLink
  · exact hsecond.wowlan.trans hfirst.wowlan
  · exact hsecond.nextKey.trans hfirst.nextKey
  · exact hsecond.keyList.trans hfirst.keyList
  · exact hsecond.slot.trans hfirst.slot
  · exact fun id => (hsecond.place id).trans (hfirst.place id)
  · exact hsecond.destroyed.trans hfirst.destroyed
  · exact hsecond.replaceWarned.trans hfirst.replaceWarned

theorem Mounted.enables (hmounted : sdata.Mounted hw ids) (hnodup : ids.Nodup) {new : ℕ}
    (hnew : new ∈ ids) (hdown : (sdata.key new).uploaded = false) (answer : KeyAnswer) :
    sdata.Loads hw ids none new (sdata.enableHwAccel hw new answer).1
      (sdata.enableHwAccel hw new answer).2 := by
  constructor
  · exact sameTables (enableHwAccel_tables hw sdata new answer)
  · exact hmounted.enableHwAccel hnew hnodup hdown answer
  · rintro id ⟨⟩
  · intro hfailed
    rw [← Bool.not_eq_true]
    intro huploaded
    rw [(enableHwAccel_uploaded hdown huploaded).1] at hfailed
    cases hfailed
  · exact fun other hother _ => afterEnable_other sdata _ hother

theorem Mounted.wowlan (hmounted : sdata.Mounted hw ids) (hnodup : ids.Nodup) {new : ℕ}
    (hnew : new ∈ ids) (hdown : (sdata.key new).uploaded = false) (hset : hw.setKey = true)
    (hwowlan : sdata.wowlan = true) (answer : KeyAnswer) :
    sdata.Loads hw ids none new (sdata.replaceHw hw none (some new) answer).1
      (sdata.replaceHw hw none (some new) answer).2 := by
  simp only [replaceHw, hwowlan, Bool.not_true, Bool.false_eq_true, if_false]
  split_ifs with hinactive
  · exact ⟨sameTables rfl, hmounted, by rintro id ⟨⟩, fun _ => hdown, fun _ _ _ => rfl⟩
  all_goals
    refine ⟨sameTables (setKey_tables rfl), ?_, by rintro id ⟨⟩, by rintro ⟨⟩,
      fun other hother _ => setKey_key_of_ne hother _⟩
    refine hmounted.change ?_ rfl (fun other hother => setKey_key_of_ne hother _) ?_
  · have hcovered := hmounted.roomy.need_le hnew
    rename_i hroom
    rw [SwKey.roomNeed_of_not_uploaded hdown] at hcovered
    refine hmounted.roomy.change hnew hnodup rfl ?_ rfl ?_
    · rw [SwKey.roomNeed_of_not_uploaded hdown, SwKey.roomNeed_of_uploaded rfl]
      simp only [Bool.not_eq_true'] at hroom
      simp [hroom, decreaseTailroom, setKey]
    · simp only [setKey, decreaseTailroom, hmounted.roomy.unwarned, Bool.false_or,
        decide_eq_false_iff_not]
      omega
  · intro _
    rw [setKey_key_self]
    exact ⟨hset, hinactive⟩
  · rename_i hroom
    refine hmounted.roomy.change hnew hnodup rfl ?_ rfl hmounted.roomy.unwarned
    rw [SwKey.roomNeed_of_not_uploaded hdown, SwKey.roomNeed_of_uploaded rfl]
    simp only [Bool.not_eq_true', Bool.not_eq_false] at hroom
    simp [hroom, setKey]
  · intro _
    rw [setKey_key_self]
    exact ⟨hset, hinactive⟩

theorem Mounted.load (hmounted : sdata.Mounted hw ids) (hnodup : ids.Nodup)
    (old : Option ℕ) {new : ℕ} (hnew : new ∈ ids) (hold : ∀ id ∈ old, id ∈ ids ∧ id ≠ new)
    (hdown : (sdata.key new).uploaded = false)
    (hwowlan : sdata.wowlan = true → hw.setKey = true) (answer : KeyAnswer) :
    sdata.Loads hw ids old new (sdata.replaceHw hw old (some new) answer).1
      (sdata.replaceHw hw old (some new) answer).2 := by
  cases old with
  | none =>
      cases hsleeps : sdata.wowlan with
      | true => exact hmounted.wowlan hnodup hnew hdown (hwowlan hsleeps) hsleeps answer
      | false =>
          simp only [replaceHw, hsleeps, Bool.not_false, if_true]
          exact hmounted.enables hnodup hnew hdown answer
  | some old =>
      have hne := (hold old rfl).2
      simp only [replaceHw]
      split_ifs with huploaded
      · have hout := hmounted.disableHwAccel (hold old rfl).1 hnodup
        have hstill : ((sdata.disableHwAccel hw old).key new).uploaded = false := by
          rw [disableHwAccel_other hw sdata hne.symm]
          exact hdown
        have hin := hout.enables hnodup hnew hstill answer
        constructor
        · exact (sameTables (disableHwAccel_tables hw sdata old)).trans hin.same
        · exact hin.mounted
        · rintro id ⟨rfl⟩
          rw [hin.others old hne (by rintro ⟨⟩)]
          exact hmounted.disabled (hold old rfl).1
        · exact hin.new_down
        · intro other hother hnotOld
          rw [hin.others other hother (by rintro ⟨⟩)]
          exact disableHwAccel_other hw sdata fun heq => hnotOld (heq ▸ rfl)
      · refine ⟨sameTables rfl, hmounted, ?_, by rintro ⟨⟩, fun _ _ _ => rfl⟩
        rintro id ⟨rfl⟩
        simpa using huploaded

end Replace

end KeySdata

end IwlwifiStack
