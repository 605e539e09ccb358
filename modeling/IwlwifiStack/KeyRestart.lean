import IwlwifiStack.KeyStations

/-!
# Keys over a hardware restart

The hardware comes back without keys, and the flags of the keys still say that
they are there.  `ieee80211_reenable_keys` counts the room anew as it adds them,
and those of links that are not active yet come with their links.
-/

namespace IwlwifiStack

namespace KeySdata

def unload (sdata : KeySdata) (ids : List ℕ) : KeySdata :=
  { sdata with
    key := fun id =>
      if id ∈ ids then { sdata.key id with uploaded := false } else sdata.key id }

section Unload

variable {hw : KeyHw} {sdata : KeySdata} {ids : List ℕ} {id : ℕ}

theorem unload_nil (sdata : KeySdata) : sdata.unload [] = sdata := by
  unfold unload
  simp only [List.not_mem_nil, if_false]

theorem unload_of_mem (hid : id ∈ ids) :
    (sdata.unload ids).key id = { sdata.key id with uploaded := false } :=
  if_pos hid

theorem unload_of_not_mem (hid : id ∉ ids) : (sdata.unload ids).key id = sdata.key id :=
  if_neg hid

theorem unload_place (sdata : KeySdata) (ids : List ℕ) (id : ℕ) :
    ((sdata.unload ids).key id).place = (sdata.key id).place := by
  by_cases hid : id ∈ ids
  · rw [unload_of_mem hid]
    rfl
  · rw [unload_of_not_mem hid]

theorem enableAttempt_unload (hw : KeyHw) (sdata : KeySdata) (ids : List ℕ) (id : ℕ)
    (answer : KeyAnswer) :
    enableAttempt hw (sdata.unload ids) ((sdata.unload ids).key id) answer =
      enableAttempt hw sdata (sdata.key id) answer := by
  by_cases hid : id ∈ ids
  · rw [unload_of_mem hid]
    rfl
  · rw [unload_of_not_mem hid]
    rfl

theorem unload_setKey (hnew : id ∉ ids) (key : SwKey) :
    (sdata.unload (id :: ids)).setKey id key = (sdata.setKey id key).unload ids := by
  unfold unload setKey
  congr 1
  funext other
  by_cases hother : other = id
  · rw [hother, Function.update_self, if_neg hnew]
    exact (Function.update_self id key sdata.key).symm
  · simp only [Function.update_of_ne hother, List.mem_cons, hother, false_or]

theorem enableAttempt_ne_tainted {key : SwKey} {answer : KeyAnswer}
    (htaint : key.tainted = false) : enableAttempt hw sdata key answer ≠ .tainted := by
  unfold enableAttempt
  rw [if_neg (by rw [htaint]; exact Bool.false_ne_true)]
  split_ifs
  all_goals try exact EnableAttempt.noConfusion
  cases answer <;> exact EnableAttempt.noConfusion

theorem enableHwAccel_unload (hnew : id ∉ ids) (answer : KeyAnswer)
    (htaint : (sdata.key id).tainted = false)
    (hback : (sdata.key id).uploaded = true →
      ∃ room, enableAttempt hw sdata (sdata.key id) answer = .accepted room) :
    (sdata.unload (id :: ids)).enableHwAccel hw id answer =
      ((sdata.enableHwAccel hw id answer).1.unload ids,
        (sdata.enableHwAccel hw id answer).2) := by
  have hself : (sdata.unload (id :: ids)).key id = { sdata.key id with uploaded := false } :=
    unload_of_mem List.mem_cons_self
  have hkeep : (sdata.key id).uploaded = false →
      sdata.unload (id :: ids) = sdata.unload ids := by
    intro hdown
    unfold unload
    congr 1
    funext other
    by_cases hother : other = id
    · rw [hother, if_pos List.mem_cons_self, if_neg hnew]
      rw [← hdown]
    · simp only [List.mem_cons, hother, false_or]
  unfold enableHwAccel
  dsimp only
  rw [enableAttempt_unload, hself]
  cases hattempt : enableAttempt hw sdata (sdata.key id) answer with
  | tainted => exact absurd hattempt (enableAttempt_ne_tainted htaint)
  | software one =>
      have hdown : (sdata.key id).uploaded = false := by
        rw [← Bool.not_eq_true]
        intro huploaded
        rcases hback huploaded with ⟨room, hroom⟩
        rw [hattempt] at hroom
        cases hroom
      rw [hkeep hdown]
      rfl
  | inactive =>
      have hdown : (sdata.key id).uploaded = false := by
        rw [← Bool.not_eq_true]
        intro huploaded
        rcases hback huploaded with ⟨room, hroom⟩
        rw [hattempt] at hroom
        cases hroom
      rw [hkeep hdown]
      rfl
  | accepted room =>
      simp only [afterEnable, hself]
      split_ifs
      · exact congrArg (fun after => (after, _))
          (@unload_setKey (sdata.decreaseTailroom 1) _ _ hnew _)
      · exact congrArg (fun after => (after, _)) (unload_setKey hnew _)

theorem enableAttempt_congr {before after : KeySdata}
    (huploaded : after.staUploaded = before.staUploaded)
    (hactive : after.activeLinks = before.activeLinks) (hw : KeyHw) (key : SwKey)
    (answer : KeyAnswer) :
    enableAttempt hw after key answer = enableAttempt hw before key answer := by
  unfold enableAttempt
  simp only [huploaded, inactive_congr hactive]

theorem enableAttempt_inactive {key : SwKey} {answer : KeyAnswer}
    (hanswer : enableAttempt hw sdata key answer = .inactive) :
    sdata.Inactive key.linkId := by
  unfold enableAttempt at hanswer
  split_ifs at hanswer with _ _ _ _ _ hinactive
  · exact hinactive
  · cases answer <;> cases hanswer

theorem enableAttempt_links {before after : KeySdata} {key : SwKey} {answer : KeyAnswer}
    {room : RoomFlags} (huploaded : after.staUploaded = before.staUploaded)
    (haccepted : enableAttempt hw before key answer = .accepted room) :
    enableAttempt hw after key answer = .accepted room ∨
      enableAttempt hw after key answer = .inactive := by
  unfold enableAttempt at haccepted ⊢
  rw [huploaded]
  split_ifs at haccepted ⊢
  · exact .inr rfl
  · exact .inl haccepted

def ComesBack (hw : KeyHw) (sdata : KeySdata) (id : ℕ) (answer : KeyAnswer) : Prop :=
  (sdata.key id).uploaded = true →
    ∃ room, enableAttempt hw sdata (sdata.key id) answer = .accepted room

theorem enableKeys_unload (answers : ℕ → KeyAnswer) (hnodup : ids.Nodup)
    (hids : ∀ id ∈ ids, (sdata.key id).tainted = false ∧ ComesBack hw sdata id (answers id) ∧
      (enableAttempt hw sdata (sdata.key id) (answers id)).succeeds hw (sdata.key id).cipher =
        true) :
    enableKeys hw answers ids (sdata.unload ids) = enableKeys hw answers ids sdata := by
  induction ids generalizing sdata with
  | nil => rw [unload_nil]
  | cons id ids ih =>
      rw [List.nodup_cons] at hnodup
      rw [List.forall_mem_cons] at hids
      rcases hids with ⟨⟨htaint, hback, hok⟩, hrest⟩
      have hsame := sameTables (enableHwAccel_tables hw sdata id (answers id))
      unfold enableKeys
      rw [enableHwAccel_unload hnodup.1 (answers id) htaint hback]
      dsimp only
      rw [if_pos (show (sdata.enableHwAccel hw id (answers id)).2 = true from hok),
        if_pos (show (sdata.enableHwAccel hw id (answers id)).2 = true from hok)]
      apply ih hnodup.2
      intro other hother
      have hne : other ≠ id := fun heq => hnodup.1 (heq ▸ hother)
      have hkey : (sdata.enableHwAccel hw id (answers id)).1.key other = sdata.key other :=
        afterEnable_other sdata _ hne
      rw [ComesBack, hkey, enableAttempt_congr hsame.staUploaded hsame.activeLinks]
      exact hrest other hother

end Unload

/-! ## `ieee80211_reenable_keys` -/

section Reenable

variable {hw : KeyHw} {sdata : KeySdata} {ids : List ℕ} {id : ℕ}

theorem Roomy.grow {after : KeySdata} (hroomy : sdata.Roomy ids)
    (hothers : ∀ other ∈ ids, (after.key other).roomNeed = (sdata.key other).roomNeed)
    (hneeded : after.tailroomNeeded = sdata.tailroomNeeded + (after.key id).roomNeed)
    (hpending : after.tailroomPendingDec = sdata.tailroomPendingDec)
    (hwarned : after.tailroomWarned = sdata.tailroomWarned) : after.Roomy (id :: ids) := by
  constructor
  · rw [roomNeed, List.map_cons, List.sum_cons]
    change _ = _ + ((after.key id).roomNeed + after.roomNeed ids)
    rw [roomNeed_congr hothers, hneeded, hpending, hroomy.needed]
    ring
  · rw [hpending]
    exact hroomy.pending
  · rw [hwarned]
    exact hroomy.unwarned

/-- What a hardware restart asks of a key: the flags of a tainted key say that it was
in the hardware without room, and any other one comes back if it was there. -/
def Restartable (hw : KeyHw) (sdata : KeySdata) (id : ℕ) (answer : KeyAnswer) : Prop :=
  if (sdata.key id).tainted then
    (sdata.key id).uploaded = true ∧ (sdata.key id).room.any = false
  else ComesBack hw sdata id answer

/-- Some keys are counted again. -/
structure Reenabled (hw : KeyHw) (before : KeySdata) (stale done : List ℕ)
    (now : KeySdata) : Prop where
  same : before.SameTables now
  mounted : (now.unload stale).Mounted hw done
  rest : ∀ id, id ∉ done → now.key id = before.key id
  waiting : ∀ id ∈ done, id ∈ stale → (before.key id).tainted = false →
    now.key id = before.key id

variable {before now after : KeySdata} {stale done : List ℕ}

theorem Reenabled.grow (hdone : Reenabled hw before stale done now) (hnew : id ∉ done)
    (hsame : now.SameTables after)
    (hothers : ∀ other, other ≠ id → after.key other = now.key other)
    (hneeded : after.tailroomNeeded =
      now.tailroomNeeded + ((after.unload stale).key id).roomNeed)
    (hpending : after.tailroomPendingDec = now.tailroomPendingDec)
    (hwarned : after.tailroomWarned = now.tailroomWarned)
    (hawake : ((after.unload stale).key id).uploaded = true →
      hw.setKey = true ∧ ¬before.Inactive (before.key id).linkId)
    (hwaiting : id ∈ stale → (before.key id).tainted = false →
      after.key id = before.key id) :
    Reenabled hw before stale (id :: done) after := by
  have hall := hdone.same.trans hsame
  have hkept : ∀ other ∈ done, (after.unload stale).key other = (now.unload stale).key other := by
    intro other hother
    have hne : other ≠ id := fun heq => hnew (heq ▸ hother)
    by_cases hstale : other ∈ stale
    · rw [unload_of_mem hstale, unload_of_mem hstale, hothers other hne]
    · rw [unload_of_not_mem hstale, unload_of_not_mem hstale, hothers other hne]
  constructor
  · exact hall
  · constructor
    · intro other hother huploaded
      rw [inactive_congr (show (after.unload stale).activeLinks = before.activeLinks from
        hall.activeLinks), linkId_of_place (unload_place after stale other),
        linkId_of_place (hall.place other)]
      rcases List.mem_cons.mp hother with rfl | hother
      · exact hawake huploaded
      · rw [hkept other hother] at huploaded
        rcases hdone.mounted.awake other hother huploaded with ⟨hset, hactive⟩
        refine ⟨hset, ?_⟩
        rw [inactive_congr (show (now.unload stale).activeLinks = before.activeLinks from
          hdone.same.activeLinks), linkId_of_place (unload_place now stale other),
          linkId_of_place (hdone.same.place other)] at hactive
        exact hactive
    · exact hdone.mounted.roomy.grow (fun other hother => by rw [hkept other hother]) hneeded
        hpending hwarned
  · intro other hother
    rw [List.mem_cons, not_or] at hother
    rw [hothers other hother.1]
    exact hdone.rest other hother.2
  · intro other hother hstale htaint
    rcases List.mem_cons.mp hother with rfl | hother
    · exact hwaiting hstale htaint
    · have hne : other ≠ id := fun heq => hnew (heq ▸ hother)
      rw [hothers other hne]
      exact hdone.waiting other hother hstale htaint

theorem unload_down (hdown : (now.key id).uploaded = false ∨ id ∈ stale) :
    ((now.unload stale).key id).uploaded = false := by
  by_cases hmem : id ∈ stale
  · rw [unload_of_mem hmem]
  · rw [unload_of_not_mem hmem]
    exact hdown.resolve_right hmem

theorem Reenabled.refused (hdone : Reenabled hw before stale done now) (hnew : id ∉ done)
    (hdown : (before.key id).uploaded = false ∨ id ∈ stale) :
    Reenabled hw before stale (id :: done) now.incrementTailroom := by
  have hself := hdone.rest id hnew
  have hdownNow : ((now.incrementTailroom.unload stale).key id).uploaded = false := by
    apply unload_down
    rw [show now.incrementTailroom.key id = before.key id from hself]
    exact hdown
  refine hdone.grow hnew (sameTables rfl) (fun _ _ => rfl) ?_ rfl rfl ?_ fun _ _ => hself
  · rw [SwKey.roomNeed_of_not_uploaded hdownNow]
    rfl
  · intro huploaded
    rw [hdownNow] at huploaded
    cases huploaded

theorem Reenabled.tainted (hdone : Reenabled hw before stale done now) (hnew : id ∉ done)
    (htaint : (before.key id).tainted = true)
    (hflags : (before.key id).uploaded = true ∧ (before.key id).room.any = false) :
    Reenabled hw before stale (id :: done) (now.afterEnable id .tainted) := by
  have hself := hdone.rest id hnew
  simp only [afterEnable, hself, hflags.1, hflags.2, Bool.not_false, and_self, if_true]
  have hdown : ((now.incrementTailroom.setKey id
      { before.key id with uploaded := false }).key id).uploaded = false := by
    rw [setKey_key_self]
  have hplace : ({ before.key id with uploaded := false } : SwKey).place =
      (now.incrementTailroom.key id).place := by
    rw [show now.incrementTailroom.key id = before.key id from hself]
    rfl
  apply hdone.grow hnew
  · exact sameTables (@setKey_tables now.incrementTailroom id _ hplace)
  · exact fun other hother => setKey_key_of_ne hother _
  · rw [SwKey.roomNeed_of_not_uploaded (unload_down (.inl hdown))]
    rfl
  · rfl
  · rfl
  · intro huploaded
    rw [unload_down (.inl hdown)] at huploaded
    cases huploaded
  · intro _ huntainted
    rw [htaint] at huntainted
    cases huntainted

theorem Reenabled.accepted (hdone : Reenabled hw before stale done now) (hnew : id ∉ done)
    (hstale : id ∉ stale) (room : RoomFlags)
    (hawake : hw.setKey = true ∧ ¬before.Inactive (before.key id).linkId) :
    Reenabled hw before stale (id :: done)
      (now.incrementTailroom.afterEnable id (.accepted room)) := by
  have hself := hdone.rest id hnew
  have hnonneg : 0 ≤ now.tailroomNeeded := by
    have hpending := hdone.mounted.roomy.pending
    have hcount := hdone.mounted.roomy.pending_le
    exact hpending.trans hcount
  simp only [afterEnable, show now.incrementTailroom.key id = before.key id from hself]
  generalize hafter : ({ before.key id with
    uploaded := true, room := (before.key id).room.or room } : SwKey) = key
  have hup : key.uploaded = true := by rw [← hafter]
  have hroom : key.room = (before.key id).room.or room := by rw [← hafter]
  have hplace : ∀ counted : KeySdata, counted.key = now.key →
      key.place = (counted.key id).place := by
    intro counted hcounted
    rw [hcounted, ← hafter, hself]
    rfl
  rw [← hroom]
  split_ifs with hany
  · apply hdone.grow hnew
    · exact sameTables (@setKey_tables (now.incrementTailroom.decreaseTailroom 1) id _
        (hplace _ rfl))
    · exact fun other hother => setKey_key_of_ne hother _
    · rw [unload_of_not_mem hstale, setKey_key_self, SwKey.roomNeed_of_uploaded hup]
      rw [Bool.not_eq_true'] at hany
      rw [hany]
      simp [setKey, decreaseTailroom, incrementTailroom]
    · rfl
    · change (now.tailroomWarned || decide (now.tailroomNeeded + 1 < 1)) = now.tailroomWarned
      rw [decide_eq_false (by omega), Bool.or_false]
    · exact fun _ => hawake
    · exact fun hmem => absurd hmem hstale
  · apply hdone.grow hnew
    · exact sameTables (@setKey_tables now.incrementTailroom id _ (hplace _ rfl))
    · exact fun other hother => setKey_key_of_ne hother _
    · rw [unload_of_not_mem hstale, setKey_key_self, SwKey.roomNeed_of_uploaded hup]
      rw [Bool.not_eq_true', Bool.not_eq_false] at hany
      rw [hany]
      rfl
    · rfl
    · rfl
    · exact fun _ => hawake
    · exact fun hmem => absurd hmem hstale

theorem Reenabled.next {full : KeySdata} (hdone : Reenabled hw before stale done now)
    (hnew : id ∉ done) (answers : ℕ → KeyAnswer)
    (hback : Restartable hw full id (answers id)) (hkey : full.key id = before.key id)
    (hsta : full.staUploaded = before.staUploaded)
    (hlinks : (before.key id).uploaded = true → id ∉ stale →
      ¬before.Inactive (before.key id).linkId)
    (hstale : id ∈ stale → before.Inactive (before.key id).linkId) :
    Reenabled hw before stale (id :: done) (reenableKey hw answers now id) := by
  have hself := hdone.rest id hnew
  have hattempt : ∀ counted : KeySdata, counted.staUploaded = now.staUploaded →
      counted.activeLinks = now.activeLinks →
      enableAttempt hw counted (before.key id) (answers id) =
        enableAttempt hw before (before.key id) (answers id) := fun counted hup hactive =>
    enableAttempt_congr (hup.trans hdone.same.staUploaded)
      (hactive.trans hdone.same.activeLinks) hw _ _
  unfold Restartable at hback
  rw [hkey] at hback
  unfold reenableKey enableHwAccel
  dsimp only
  by_cases htaint : (before.key id).tainted = true
  · rw [if_pos htaint] at hback
    simp only [hself, htaint, Bool.not_true, Bool.false_eq_true, if_false]
    rw [show enableAttempt hw now (before.key id) (answers id) = .tainted from if_pos htaint]
    exact hdone.tainted hnew htaint hback
  · rw [if_neg htaint, ComesBack, hkey] at hback
    rw [Bool.not_eq_true] at htaint
    simp only [hself, htaint, Bool.not_false, if_true]
    rw [show now.incrementTailroom.key id = before.key id from hself,
      hattempt now.incrementTailroom rfl rfl]
    cases hanswer : enableAttempt hw before (before.key id) (answers id) with
    | tainted => exact absurd hanswer (enableAttempt_ne_tainted htaint)
    | software one =>
        apply hdone.refused hnew
        by_contra hup
        rw [not_or, Bool.not_eq_false] at hup
        rcases hback hup.1 with ⟨room, hroom⟩
        rcases enableAttempt_links hsta.symm hroom with haccepted | hinactive
        · rw [hanswer] at haccepted
          cases haccepted
        · rw [hanswer] at hinactive
          cases hinactive
    | inactive =>
        apply hdone.refused hnew
        by_contra hup
        rw [not_or, Bool.not_eq_false] at hup
        exact hlinks hup.1 hup.2 (enableAttempt_inactive hanswer)
    | accepted room =>
        have hawake := enableAttempt_accepted hanswer
        exact hdone.accepted hnew (fun hmem => hawake.2 (hstale hmem)) room hawake

theorem Reenabled.all {full : KeySdata} (hdone : Reenabled hw before stale done now)
    (hnodup : (ids ++ done).Nodup) (answers : ℕ → KeyAnswer)
    (hsta : full.staUploaded = before.staUploaded)
    (hids : ∀ id ∈ ids, Restartable hw full id (answers id) ∧ full.key id = before.key id ∧
      ((before.key id).uploaded = true → id ∉ stale →
        ¬before.Inactive (before.key id).linkId) ∧
      (id ∈ stale → before.Inactive (before.key id).linkId)) :
    Reenabled hw before stale (ids.reverse ++ done)
      (ids.foldl (reenableKey hw answers) now) := by
  induction ids generalizing now done with
  | nil => exact hdone
  | cons id ids ih =>
      rw [List.forall_mem_cons] at hids
      rcases hids with ⟨⟨hback, hkey, hlinks, hstale⟩, hrest⟩
      have hnew : id ∉ done := fun hmem =>
        (List.nodup_cons.mp hnodup).1 (List.mem_append_right _ hmem)
      rw [List.reverse_cons, List.append_assoc]
      exact ih (hdone.next hnew answers hback hkey hsta hlinks hstale)
        (List.perm_middle.nodup_iff.mpr hnodup) hrest

end Reenable

/-! ## `ieee80211_reconfig` -/

section Restart

variable {hw : KeyHw} {sdata : KeySdata}

theorem Sound.taintKeys (hsound : sdata.Sound hw []) : sdata.taintKeys.Sound hw [] := by
  have hkey : ∀ id, (sdata.taintKeys.key id).place = (sdata.key id).place ∧
      (sdata.taintKeys.key id).uploaded = (sdata.key id).uploaded ∧
      (sdata.taintKeys.key id).room = (sdata.key id).room ∧
      (sdata.taintKeys.key id).linkId = (sdata.key id).linkId := by
    intro id
    simp only [KeySdata.taintKeys]
    split_ifs
    · exact ⟨rfl, rfl, rfl, rfl⟩
    · exact ⟨rfl, rfl, rfl, rfl⟩
  apply hsound.told
  · exact ⟨rfl, rfl, rfl, rfl, rfl, rfl, rfl, rfl, rfl, rfl, fun id => (hkey id).1, rfl, rfl⟩
  · exact hsound.mounted.alike (fun id _ => (hkey id).2) rfl rfl rfl rfl
  · rintro id ⟨⟩

theorem singleLink_eq (hw : KeyHw) (sdata : KeySdata) :
    ∃ active, sdata.singleLink hw = { sdata with activeLinks := active } ∧
      active ⊆ sdata.activeLinks ∧ (active = ∅ → sdata.activeLinks = ∅) ∧
      (active ≠ sdata.activeLinks → hw.type = .station) := by
  unfold singleLink
  split_ifs with hstation
  · refine ⟨_, rfl, ?_, ?_, fun _ => hstation.2⟩
    · rw [Finset.singleton_subset_iff]
      exact Finset.min'_mem _ _
    · intro hnone
      exact absurd hnone (Finset.singleton_ne_empty _)
  · exact ⟨_, rfl, subset_rfl, fun hnone => hnone, fun hne => absurd rfl hne⟩

def restarted (sdata : KeySdata) (disconnect : Bool) : KeySdata :=
  if disconnect then sdata.taintKeys else sdata

def RestartAllowed (hw : KeyHw) (sdata : KeySdata) (disconnect fails : Bool)
    (answers : ℕ → KeyAnswer) : Prop :=
  (∀ id ∈ sdata.keyList, Restartable hw (sdata.restarted disconnect) id (answers id)) ∧
    (((sdata.restarted disconnect).singleLink hw).activeLinks ≠ sdata.activeLinks →
      fails = false ∧ sdata.activeLinks ⊆ sdata.validLinks \ sdata.dormantLinks ∧
      ∀ id ∈ sdata.keyList, ((sdata.restarted disconnect).key id).tainted = false ∧
        (enableAttempt hw (sdata.restarted disconnect) ((sdata.restarted disconnect).key id)
          (answers id)).succeeds hw (sdata.key id).cipher = true)

def staleKeys (full : KeySdata) (active : Finset ℕ) : List ℕ :=
  full.keyList.filter fun id =>
    decide (∃ link ∈ (full.key id).linkId, link ∈ full.activeLinks \ active)

theorem Sound.reenableKeys (hsound : sdata.Sound hw []) (answers : ℕ → KeyAnswer)
    {active : Finset ℕ} (hsub : active ⊆ sdata.activeLinks)
    (hnone : active = ∅ → sdata.activeLinks = ∅)
    (hback : ∀ id ∈ sdata.keyList, Restartable hw sdata id (answers id)) :
    ((({ sdata with activeLinks := active }).reenableKeys hw answers).unload
        (sdata.staleKeys active)).Sound hw [] ∧
      Reenabled hw { sdata with activeLinks := active } (sdata.staleKeys active)
        sdata.keyList.reverse (({ sdata with activeLinks := active }).reenableKeys hw answers) := by
  have hstale : ∀ id, id ∈ sdata.staleKeys active ↔ id ∈ sdata.keyList ∧
      ∃ link, (sdata.key id).linkId = some link ∧ link ∈ sdata.activeLinks \ active := by
    intro id
    unfold staleKeys
    rw [List.mem_filter, decide_eq_true_eq]
    rfl
  have hstart : Reenabled hw { sdata with activeLinks := active } (sdata.staleKeys active) []
      { sdata with activeLinks := active, tailroomNeeded := 0, tailroomPendingDec := 0 } := by
    constructor
    · exact ⟨rfl, rfl, rfl, rfl, rfl, rfl, rfl, rfl, rfl, rfl, fun _ => rfl, rfl, rfl⟩
    · constructor
      · rintro id ⟨⟩
      · exact ⟨rfl, le_rfl, hsound.mounted.roomy.unwarned⟩
    · exact fun _ _ => rfl
    · rintro id ⟨⟩
  have hall : Reenabled hw { sdata with activeLinks := active } (sdata.staleKeys active)
      (sdata.keyList.reverse ++ [])
      (({ sdata with activeLinks := active }).reenableKeys hw answers) := by
    apply @Reenabled.all hw sdata.keyList _ _ _ _ sdata hstart ?_ answers rfl
    · intro id hid
      refine ⟨hback id hid, rfl, ?_, ?_⟩
      · rintro huploaded hnot ⟨link, hlink, hsome, hout⟩
        apply hnot
        rw [hstale]
        have hactive := (hsound.active_of_uploaded hid huploaded hlink).resolve_left
          fun hempty => hsome (Finset.subset_empty.mp (hempty ▸ hsub))
        exact ⟨hid, link, hlink, Finset.mem_sdiff.mpr ⟨hactive, hout⟩⟩
      · intro hmem
        rcases (hstale id).mp hmem with ⟨_, link, hlink, hdiff⟩
        rw [Finset.mem_sdiff] at hdiff
        refine ⟨link, hlink, fun hempty => ?_, hdiff.2⟩
        rw [hnone hempty] at hdiff
        exact absurd hdiff.1 (Finset.notMem_empty link)
    · rw [List.append_nil]
      exact hsound.nodup_keyList
  rw [List.append_nil] at hall
  generalize ({ sdata with activeLinks := active }).reenableKeys hw answers = now at hall ⊢
  have hsame := hall.same
  refine ⟨?_, hall⟩
  constructor
  · exact hsound.indexed.congr hsame.keyList hsame.slot
      (fun id _ => (unload_place now _ id).trans (hsame.place id)) hsame.stas
      hsame.validLinks hsame.staLink
  · rw [show (now.unload _).keyList = sdata.keyList from hsame.keyList,
      show (now.unload _).destroyed = sdata.destroyed from hsame.destroyed,
      show (now.unload _).nextKey = sdata.nextKey from hsame.nextKey]
    exact hsound.once
  · rw [show (now.unload _).keyList = sdata.keyList from hsame.keyList]
    exact hall.mounted.perm (List.reverse_perm sdata.keyList)
  · rintro id ⟨⟩
  · exact hsame.replaceWarned.trans hsound.unwarned
  · intro hsleeps
    exact hsound.wowlan (hsame.wowlan.symm.trans hsleeps)
  · intro hvalid
    have hempty := hsound.idle (hsame.validLinks.symm.trans hvalid)
    exact hsame.activeLinks.trans (Finset.subset_empty.mp (hempty ▸ hsub))
  · intro hstation hvalid hactive
    apply hsound.active hstation
    · intro hempty
      exact hvalid (hsame.validLinks.trans hempty)
    · exact hnone (hsame.activeLinks.symm.trans hactive)

theorem keySwitchLinks_unload (answers : ℕ → KeyAnswer) {removed added : Finset ℕ}
    {ids : List ℕ} (hnone : removed = ∅) (hids : ids = sdata.keyList.filter fun id =>
      decide (∃ link ∈ (sdata.key id).linkId, link ∈ added))
    (hkeys : enableKeys hw answers ids (sdata.unload ids) = enableKeys hw answers ids sdata) :
    (sdata.unload ids).keySwitchLinks hw removed added answers =
      sdata.keySwitchLinks hw removed added answers := by
  have hfilter : ∀ links : Finset ℕ, (sdata.unload ids).keyList.filter (fun id =>
      decide (∃ link ∈ ((sdata.unload ids).key id).linkId, link ∈ links)) =
      sdata.keyList.filter fun id =>
        decide (∃ link ∈ (sdata.key id).linkId, link ∈ links) := by
    intro links
    simp only [linkId_of_place (unload_place sdata ids _)]
    rfl
  have hempty : sdata.keyList.filter (fun id =>
      decide (∃ link ∈ (sdata.key id).linkId, link ∈ removed)) = [] := by
    rw [hnone]
    simp
  unfold keySwitchLinks
  dsimp only
  rw [hfilter, hfilter, hempty, ← hids]
  exact hkeys

theorem setActiveLinks_unload (answers : ℕ → KeyAnswer) {activeLinks : Finset ℕ}
    (hsub : sdata.activeLinks ⊆ activeLinks) (hne : sdata.activeLinks ≠ activeLinks)
    {ids : List ℕ} (hids : ids = sdata.keyList.filter fun id =>
      decide (∃ link ∈ (sdata.key id).linkId, link ∈ activeLinks \ sdata.activeLinks))
    (hkeys : enableKeys hw answers ids
        (unload { sdata with
          activeLinks := sdata.activeLinks ∪ (activeLinks \ sdata.activeLinks) } ids) =
      enableKeys hw answers ids
        { sdata with activeLinks := sdata.activeLinks ∪ (activeLinks \ sdata.activeLinks) })
    (hstation : hw.type = .station)
    (hvalid : activeLinks ⊆ sdata.validLinks \ sdata.dormantLinks) :
    (sdata.unload ids).setActiveLinks hw activeLinks false answers =
      sdata.setActiveLinks hw activeLinks false answers := by
  have hallowed : ¬(hw.type ≠ .station ∨
      ¬activeLinks ⊆ sdata.validLinks \ sdata.dormantLinks) := by
    rw [not_or, not_not, not_not]
    exact ⟨hstation, hvalid⟩
  have hcalm : ¬(activeLinks \ sdata.activeLinks ≠ ∅ ∧ false = true) := fun hboth =>
    absurd hboth.2 Bool.false_ne_true
  have hswitch := @keySwitchLinks_unload hw
    { sdata with activeLinks := sdata.activeLinks ∪ (activeLinks \ sdata.activeLinks) }
    answers (sdata.activeLinks \ activeLinks) (activeLinks \ sdata.activeLinks) ids
    (Finset.sdiff_eq_empty_iff_subset.mpr hsub) hids hkeys
  unfold KeySdata.setActiveLinks
  refine (if_neg hallowed).trans ((if_neg hne).trans ((if_neg hcalm).trans ?_))
  refine Eq.trans ?_ ((if_neg hallowed).trans ((if_neg hne).trans (if_neg hcalm))).symm
  exact congrArg (fun switched => { switched with activeLinks := activeLinks }) hswitch

theorem Sound.restart (hsound : sdata.Sound hw []) {disconnect fails : Bool}
    {answers : ℕ → KeyAnswer} (hallowed : RestartAllowed hw sdata disconnect fails answers) :
    (sdata.restart hw disconnect fails answers).Sound hw [] := by
  unfold KeySdata.restart
  dsimp only
  change (KeySdata.setActiveLinks hw
    (((sdata.restarted disconnect).singleLink hw).reenableKeys hw answers) sdata.activeLinks
    fails answers).Sound hw []
  unfold RestartAllowed at hallowed
  have hfull : (sdata.restarted disconnect).Sound hw [] := by
    unfold restarted
    split_ifs
    · exact hsound.taintKeys
    · exact hsound
  have hlinks : (sdata.restarted disconnect).activeLinks = sdata.activeLinks ∧
      (sdata.restarted disconnect).keyList = sdata.keyList ∧
      (sdata.restarted disconnect).validLinks = sdata.validLinks ∧
      (sdata.restarted disconnect).dormantLinks = sdata.dormantLinks ∧
      ∀ id, ((sdata.restarted disconnect).key id).cipher = (sdata.key id).cipher := by
    unfold restarted
    split_ifs
    · refine ⟨rfl, rfl, rfl, rfl, fun id => ?_⟩
      simp only [KeySdata.taintKeys]
      split_ifs
      · rfl
      · rfl
    · exact ⟨rfl, rfl, rfl, rfl, fun _ => rfl⟩
  rw [← hlinks.1, ← hlinks.2.1, ← hlinks.2.2.1, ← hlinks.2.2.2.1] at hallowed
  rw [← hlinks.1]
  generalize sdata.restarted disconnect = full at hallowed hfull hlinks ⊢
  rcases singleLink_eq hw full with ⟨active, heq, hsub, hnone, htype⟩
  rw [heq] at hallowed ⊢
  rcases hfull.reenableKeys answers hsub hnone hallowed.1 with ⟨hnow, hreenabled⟩
  generalize ({ full with activeLinks := active }).reenableKeys hw answers = now
    at hnow hreenabled ⊢
  have hactive : now.activeLinks = active := hreenabled.same.activeLinks
  by_cases hall : active = full.activeLinks
  · have hnoKeys : full.staleKeys active = [] := by
      unfold staleKeys
      rw [hall, Finset.sdiff_self]
      simp
    rw [hnoKeys, unload_nil] at hnow
    unfold KeySdata.setActiveLinks
    dsimp only
    split_ifs with _ hsame
    · exact hnow
    · exact hnow
    · exact hnow
    · exact absurd (hactive.trans hall) hsame
  · rcases hallowed.2 hall with ⟨hok, hvalid, hkeys⟩
    have hsome : full.activeLinks ≠ ∅ := by
      intro hempty
      rw [hempty, Finset.subset_empty] at hsub
      exact hall (hsub.trans hempty.symm)
    have hstale : full.staleKeys active = now.keyList.filter fun id =>
        decide (∃ link ∈ (now.key id).linkId, link ∈ full.activeLinks \ now.activeLinks) := by
      unfold staleKeys
      rw [hactive, show now.keyList = full.keyList from hreenabled.same.keyList]
      simp only [linkId_of_place (hreenabled.same.place _)]
    have hboth : now.activeLinks ∪ (full.activeLinks \ now.activeLinks) = full.activeLinks := by
      rw [hactive]
      exact Finset.union_sdiff_of_subset hsub
    rw [hok, ← setActiveLinks_unload answers (hactive ▸ hsub) (hactive ▸ hall) hstale ?_
      (htype hall) ?_]
    · exact hnow.setActiveLinks hsome false answers
    · apply enableKeys_unload answers (hfull.nodup_keyList.filter _)
      intro id hid
      have hlisted := List.mem_of_mem_filter hid
      rcases hkeys id hlisted with ⟨htaint, hsucceeds⟩
      have hkey : now.key id = full.key id :=
        hreenabled.waiting id (List.mem_reverse.mpr hlisted) hid htaint
      have hback := hallowed.1 id hlisted
      unfold Restartable at hback
      rw [htaint, if_neg Bool.false_ne_true] at hback
      have hattempt : enableAttempt hw
          { now with activeLinks := now.activeLinks ∪ (full.activeLinks \ now.activeLinks) }
          (full.key id) (answers id) = enableAttempt hw full (full.key id) (answers id) :=
        @enableAttempt_congr full { now with
          activeLinks := now.activeLinks ∪ (full.activeLinks \ now.activeLinks) }
          hreenabled.same.staUploaded hboth hw _ _
      rw [ComesBack]
      dsimp only
      rw [hkey, hattempt, hlinks.2.2.2.2]
      exact ⟨htaint, hback, hsucceeds⟩
    · rw [show now.validLinks = full.validLinks from hreenabled.same.validLinks,
        show now.dormantLinks = full.dormantLinks from hreenabled.same.dormantLinks]
      exact hvalid

end Restart

end KeySdata

end IwlwifiStack
