import IwlwifiStack.KeyLedger

/-!
# Keys that are installed, removed and destroyed

An installation that fails puts nothing into the slot of the key, not even the
key that was there before.
-/

namespace IwlwifiStack

namespace KeySdata

section Operations

variable {hw : KeyHw} {sdata after : KeySdata} {loose : List ℕ} {id : ℕ}

theorem Sound.nodup (hsound : sdata.Sound hw loose) :
    (loose ++ sdata.keyList ++ sdata.destroyed).Nodup :=
  hsound.once.nodup_iff.mpr List.nodup_range

theorem Sound.nodup_held (hsound : sdata.Sound hw loose) :
    (loose ++ sdata.keyList).Nodup :=
  hsound.nodup.of_append_left

theorem Sound.nodup_keyList (hsound : sdata.Sound hw loose) : sdata.keyList.Nodup :=
  hsound.nodup_held.of_append_right

theorem Sound.not_loose (hsound : sdata.Sound hw loose) (hid : id ∈ sdata.keyList) :
    id ∉ loose := fun hloose =>
  List.disjoint_of_nodup_append hsound.nodup_held hloose hid

theorem Sound.lt (hsound : sdata.Sound hw loose) (hid : id ∈ loose ++ sdata.keyList) :
    id < sdata.nextKey :=
  List.mem_range.mp (hsound.once.mem_iff.mp (List.mem_append_left _ hid))

theorem Sound.perm {others : List ℕ} (hsound : sdata.Sound hw loose)
    (hperm : loose.Perm others) : sdata.Sound hw others := by
  constructor
  · exact hsound.indexed
  · exact (((hperm.symm.append_right _).append_right _)).trans hsound.once
  · exact hsound.mounted.perm (hperm.append_right _)
  · exact fun id hid => hsound.down id (hperm.mem_iff.mpr hid)
  · exact hsound.unwarned
  · exact hsound.wowlan
  · exact hsound.idle
  · exact hsound.active

theorem Sound.told (hsound : sdata.Sound hw loose) (hsame : sdata.SameTables after)
    (hmounted : after.Mounted hw (loose ++ sdata.keyList))
    (hdown : ∀ id ∈ loose, (after.key id).uploaded = false) : after.Sound hw loose := by
  constructor
  · exact hsound.indexed.of_tables hsame
  · rw [hsame.keyList, hsame.destroyed, hsame.nextKey]
    exact hsound.once
  · rw [hsame.keyList]
    exact hmounted
  · exact hdown
  · exact hsame.replaceWarned.trans hsound.unwarned
  · rw [hsame.wowlan]
    exact hsound.wowlan
  · rw [hsame.validLinks, hsame.activeLinks]
    exact hsound.idle
  · rw [hsame.validLinks, hsame.activeLinks]
    exact hsound.active

theorem Sound.disableHwAccel (hsound : sdata.Sound hw loose) (hid : id ∈ sdata.keyList) :
    (sdata.disableHwAccel hw id).Sound hw loose := by
  apply hsound.told (sameTables (disableHwAccel_tables hw sdata id))
  · exact hsound.mounted.disableHwAccel (List.mem_append_right _ hid) hsound.nodup_held
  · intro other hother
    have hne : other ≠ id := fun heq => hsound.not_loose hid (heq ▸ hother)
    rw [disableHwAccel_other hw sdata hne]
    exact hsound.down other hother

theorem Sound.enableHwAccel (hsound : sdata.Sound hw loose) (hid : id ∈ sdata.keyList)
    (hdown : (sdata.key id).uploaded = false) (answer : KeyAnswer) :
    (sdata.enableHwAccel hw id answer).1.Sound hw loose := by
  apply hsound.told (sameTables (enableHwAccel_tables hw sdata id answer))
  · exact hsound.mounted.enableHwAccel (List.mem_append_right _ hid) hsound.nodup_held hdown
      answer
  · intro other hother
    have hne : other ≠ id := fun heq => hsound.not_loose hid (heq ▸ hother)
    rw [show (sdata.enableHwAccel hw id answer).1.key other = sdata.key other from
      afterEnable_other sdata _ hne]
    exact hsound.down other hother

/-! ## The slot changes hands -/

theorem Indexed.commit {slot : KeySlot} {old : Option ℕ} (hindexed : sdata.Indexed)
    (new : Option ℕ) (hold : sdata.slot slot = old)
    (hnew : ∀ id ∈ new, id ∉ sdata.keyList ∧ sdata.Fits (sdata.key id) slot)
    (hmem : ∀ id, id ∈ after.keyList ↔ (id ∈ sdata.keyList ∧ id ∉ old) ∨ id ∈ new)
    (hslot : after.slot = Function.update sdata.slot slot new)
    (hplace : ∀ id, (after.key id).place = (sdata.key id).place)
    (hstas : after.stas = sdata.stas) (hvalid : after.validLinks = sdata.validLinks)
    (hstaLink : after.staLink = sdata.staLink) : after.Indexed := by
  have hfits : ∀ id place, sdata.Fits (sdata.key id) place → after.Fits (after.key id) place :=
    fun id _ hfits => hfits.congr (hplace id) hstas hvalid hstaLink
  constructor
  · intro id hid
    rcases (hmem id).mp hid with ⟨hlisted, hnotOld⟩ | hisNew
    · rcases hindexed.held id hlisted with ⟨place, hplaceFits, hheld⟩
      refine ⟨place, hfits id place hplaceFits, ?_⟩
      have hne : place ≠ slot := by
        rintro rfl
        exact hnotOld (hold.symm.trans hheld ▸ rfl)
      rw [hslot, Function.update_of_ne hne]
      exact hheld
    · refine ⟨slot, hfits id slot (hnew id hisNew).2, ?_⟩
      rw [hslot, Function.update_self]
      exact hisNew
  · intro place id hheld
    rw [hslot] at hheld
    by_cases hsame : place = slot
    · rw [hsame, Function.update_self] at hheld
      exact ⟨(hmem id).mpr (.inr hheld), hsame ▸ hfits id slot (hnew id hheld).2⟩
    · rw [Function.update_of_ne hsame] at hheld
      rcases hindexed.slot_key place id hheld with ⟨hlisted, hplaceFits⟩
      refine ⟨(hmem id).mpr (.inl ⟨hlisted, ?_⟩), hfits id place hplaceFits⟩
      intro hisOld
      exact hsame (hindexed.slot_inj (hold.trans hisOld) hheld)
  · rw [hstaLink]
    exact hindexed.staLink_id
  · rw [hstaLink]
    exact hindexed.staLink_deflink

/-! ## A key is removed -/

/-- The interface, without some of its keys on the list. -/
structure Without (before : KeySdata) (ids : List ℕ) (after : KeySdata) : Prop where
  keyList : after.keyList = before.keyList.filter fun id => id ∉ ids
  validLinks : after.validLinks = before.validLinks
  dormantLinks : after.dormantLinks = before.dormantLinks
  activeLinks : after.activeLinks = before.activeLinks
  stas : after.stas = before.stas
  staLink : after.staLink = before.staLink
  place : ∀ id, (after.key id).place = (before.key id).place

theorem Without.refl (sdata : KeySdata) : sdata.Without [] sdata := by
  constructor <;> simp

theorem Without.trans {before between after : KeySdata} {ids others : List ℕ}
    (hfirst : before.Without ids between) (hsecond : between.Without others after) :
    before.Without (ids ++ others) after := by
  constructor
  · rw [hsecond.keyList, hfirst.keyList, List.filter_filter]
    apply List.filter_congr
    intro id _
    simp [not_or, Bool.and_comm]
  · exact hsecond.validLinks.trans hfirst.validLinks
  · exact hsecond.dormantLinks.trans hfirst.dormantLinks
  · exact hsecond.activeLinks.trans hfirst.activeLinks
  · exact hsecond.stas.trans hfirst.stas
  · exact hsecond.staLink.trans hfirst.staLink
  · exact fun id => (hsecond.place id).trans (hfirst.place id)

theorem LinkOf.congr {link : Option LinkRef} {key other : SwKey}
    (hlink : sdata.LinkOf link key) (hvalid : after.validLinks = sdata.validLinks)
    (hplace : other.place = key.place) : after.LinkOf link other := by
  intro ref href id hid
  rw [link_congr hvalid]
  rw [linkId_of_place hplace] at hid
  exact hlink ref href id hid

theorem Sound.remove (hsound : sdata.Sound hw loose) (hid : id ∈ sdata.keyList)
    {link : Option LinkRef} (hlink : sdata.LinkOf link (sdata.key id)) :
    (sdata.keyRemove hw link id).Sound hw (id :: loose) ∧
      sdata.Without [id] (sdata.keyRemove hw link id) := by
  rcases hsound.indexed.held id hid with ⟨slot, hfits, hslot⟩
  rcases keyReplace_eq hw hsound.indexed (some id) none link (.refuse false)
    rfl hfits (by rintro other ⟨rfl⟩; exact hfits) hlink with ⟨ref, heq⟩
  rcases hsound.mounted.unload hsound.nodup_held (List.mem_append_right _ hid)
    (.refuse false) with ⟨hok, hunloads⟩
  dsimp only at heq
  rw [if_pos hok] at heq
  generalize (sdata.replaceHw hw (some id) none (.refuse false)).1 = told at heq hunloads
  rcases replaceCommit_eq told ref (sdata.key id).sta slot (some id) none
    (sdata.key id).keyidx with ⟨_, _, _, _, hcommit⟩
  have hremoved := (congrArg Prod.fst heq).trans hcommit
  rw [show (sdata.keyReplace hw link (sdata.key id).sta (sdata.key id).pairwise (some id)
    none (.refuse false)).1 = sdata.keyRemove hw link id from rfl] at hremoved
  have hsame := hunloads.same
  have hnodup := hsound.nodup_keyList
  have hlist : (sdata.keyRemove hw link id).keyList = sdata.keyList.erase id := by
    rw [hremoved]
    simp only [Option.toList_none, List.append_nil, hsame.keyList]
  have hperm : (id :: loose ++ sdata.keyList.erase id).Perm (loose ++ sdata.keyList) :=
    List.perm_middle.symm.trans ((List.perm_cons_erase hid).symm.append_left loose)
  constructor
  · constructor
    · apply hsound.indexed.commit none hslot (by rintro other ⟨⟩)
      · intro other
        rw [hlist, hnodup.mem_erase_iff]
        simp [and_comm, eq_comm]
      · rw [hremoved]
        simp only [hsame.slot]
      · rw [hremoved]
        exact hsame.place
      · rw [hremoved]
        exact hsame.stas
      · rw [hremoved]
        exact hsame.validLinks
      · rw [hremoved]
        exact hsame.staLink
    · have hdestroyed : (sdata.keyRemove hw link id).destroyed = sdata.destroyed := by
        rw [hremoved]
        exact hsame.destroyed
      have hnext : (sdata.keyRemove hw link id).nextKey = sdata.nextKey := by
        rw [hremoved]
        exact hsame.nextKey
      rw [hlist, hdestroyed, hnext]
      exact (hperm.append_right _).trans hsound.once
    · rw [hlist]
      apply (hunloads.mounted.perm hperm.symm).congr
      all_goals
        rw [hremoved]
      exact fun _ _ => rfl
    · intro other hother
      rw [hremoved]
      rcases List.mem_cons.mp hother with rfl | hloose
      · exact hunloads.down
      · have hne : other ≠ id := fun heq => hsound.not_loose hid (heq ▸ hloose)
        change (told.key other).uploaded = false
        rw [hunloads.others other hne]
        exact hsound.down other hloose
    · rw [hremoved]
      exact hsame.replaceWarned.trans hsound.unwarned
    · rw [hremoved]
      change told.wowlan = true → _
      rw [hsame.wowlan]
      exact hsound.wowlan
    · rw [hremoved]
      change told.validLinks = ∅ → told.activeLinks = ∅
      rw [hsame.validLinks, hsame.activeLinks]
      exact hsound.idle
    · rw [hremoved]
      change _ → told.validLinks ≠ ∅ → told.activeLinks ≠ ∅
      rw [hsame.validLinks, hsame.activeLinks]
      exact hsound.active
  · constructor
    · rw [hlist, hnodup.erase_eq_filter]
      apply List.filter_congr
      intro other _
      simp [bne, Bool.beq_eq_decide_eq]
    all_goals rw [hremoved]
    · exact hsame.validLinks
    · exact hsame.dormantLinks
    · exact hsame.activeLinks
    · exact hsame.stas
    · exact hsame.staLink
    · exact hsame.place

theorem Sound.removeAll {link : Option LinkRef} {ids : List ℕ}
    (hsound : sdata.Sound hw loose) (hnodup : ids.Nodup)
    (hids : ∀ id ∈ ids, id ∈ sdata.keyList ∧ sdata.LinkOf link (sdata.key id)) :
    (ids.foldl (fun sdata id => sdata.keyRemove hw link id) sdata).Sound hw
        (ids ++ loose) ∧
      sdata.Without ids (ids.foldl (fun sdata id => sdata.keyRemove hw link id) sdata) := by
  induction ids generalizing sdata loose with
  | nil => exact ⟨hsound, .refl sdata⟩
  | cons id ids ih =>
      rw [List.nodup_cons] at hnodup
      rw [List.forall_mem_cons] at hids
      rcases hsound.remove hids.1.1 hids.1.2 with ⟨hnext, hwithout⟩
      have hrest : ∀ other ∈ ids, other ∈ (sdata.keyRemove hw link id).keyList ∧
          (sdata.keyRemove hw link id).LinkOf link
            ((sdata.keyRemove hw link id).key other) := by
        intro other hother
        rcases hids.2 other hother with ⟨hlisted, hlink⟩
        constructor
        · rw [hwithout.keyList, List.mem_filter]
          refine ⟨hlisted, ?_⟩
          simp only [List.mem_singleton, decide_eq_true_eq]
          rintro rfl
          exact hnodup.1 hother
        · exact hlink.congr hwithout.validLinks (hwithout.place other)
      rcases ih hnext hnodup.2 hrest with ⟨hlast, hlastWithout⟩
      rw [List.foldl_cons]
      exact ⟨hlast.perm List.perm_middle, hwithout.trans hlastWithout⟩

/-! ## Loose keys are destroyed -/

theorem keyDestroy_tables (sdata : KeySdata) (id : ℕ) (delayTailroom : Bool) :
    ∃ needed pending warned, sdata.keyDestroy id delayTailroom =
      { sdata with
        destroyed := sdata.destroyed ++ [id]
        tailroomNeeded := needed
        tailroomPendingDec := pending
        tailroomWarned := warned } := by
  cases delayTailroom <;> exact ⟨_, _, _, rfl⟩

theorem Sound.destroy (hsound : sdata.Sound hw (id :: loose)) (delayTailroom : Bool) :
    (sdata.keyDestroy id delayTailroom).Sound hw loose := by
  have hroomy := hsound.mounted.roomy.keyDestroy (List.mem_cons_self)
    (hsound.down id List.mem_cons_self) delayTailroom
  rw [List.cons_append, List.erase_cons_head] at hroomy
  rcases keyDestroy_tables sdata id delayTailroom with ⟨_, _, _, heq⟩
  rw [heq] at hroomy ⊢
  constructor
  · exact hsound.indexed.congr rfl rfl (fun _ _ => rfl) rfl rfl rfl
  · refine List.Perm.trans ?_ hsound.once
    rw [List.cons_append, List.cons_append, ← List.append_assoc]
    exact List.perm_append_singleton _ _
  · constructor
    · exact fun other hother => hsound.mounted.awake other (List.mem_cons_of_mem _ hother)
    · exact hroomy
  · exact fun other hother => hsound.down other (List.mem_cons_of_mem _ hother)
  · exact hsound.unwarned
  · exact hsound.wowlan
  · exact hsound.idle
  · exact hsound.active

theorem freeKeyList_tables (sdata : KeySdata) (ids : List ℕ) :
    ∃ destroyed needed pending warned, sdata.freeKeyList ids =
      { sdata with
        destroyed := destroyed
        tailroomNeeded := needed
        tailroomPendingDec := pending
        tailroomWarned := warned } := by
  induction ids generalizing sdata with
  | nil => exact ⟨_, _, _, _, rfl⟩
  | cons id ids ih =>
      rcases ih (sdata.keyDestroy id false) with ⟨_, _, _, _, heq⟩
      rw [show sdata.freeKeyList (id :: ids) = (sdata.keyDestroy id false).freeKeyList ids
        from rfl, heq]
      exact ⟨_, _, _, _, rfl⟩

theorem Sound.freeKeyList {ids : List ℕ} (hsound : sdata.Sound hw (ids ++ loose)) :
    (sdata.freeKeyList ids).Sound hw loose := by
  induction ids generalizing sdata with
  | nil => exact hsound
  | cons id ids ih => exact ih (hsound.destroy false)

theorem Sound.free (hsound : sdata.Sound hw loose) (hid : id ∈ sdata.keyList)
    (delayTailroom : Bool) : (sdata.keyFree hw id delayTailroom).Sound hw loose :=
  (hsound.remove hid (by rintro ref ⟨⟩)).1.destroy delayTailroom

/-! ## A key is made and installed -/

theorem adopt_self (sdata : KeySdata) (key : SwKey) :
    (sdata.adopt key).key sdata.nextKey = key :=
  setKey_key_self _ _ _

theorem Sound.adopt_other (hsound : sdata.Sound hw loose) (key : SwKey)
    (hid : id ∈ loose ++ sdata.keyList) : (sdata.adopt key).key id = sdata.key id :=
  setKey_key_of_ne (hsound.lt hid).ne key

theorem Sound.adopt (hsound : sdata.Sound hw loose) {key : SwKey}
    (hdown : key.uploaded = false) : (sdata.adopt key).Sound hw (sdata.nextKey :: loose) := by
  constructor
  · have hplace : ∀ id ∈ sdata.keyList,
        ((sdata.adopt key).key id).place = (sdata.key id).place := by
      intro id hid
      rw [hsound.adopt_other key (List.mem_append_right _ hid)]
    exact hsound.indexed.congr rfl rfl hplace rfl rfl rfl
  · change (sdata.nextKey :: loose ++ sdata.keyList ++ sdata.destroyed).Perm
      (List.range (sdata.nextKey + 1))
    rw [List.range_succ, List.cons_append, List.cons_append]
    exact (hsound.once.cons _).trans (List.perm_append_singleton _ _).symm
  · have hroomy := hsound.mounted.roomy
    constructor
    · intro id hid huploaded
      rcases List.mem_cons.mp hid with rfl | hother
      · rw [adopt_self, hdown] at huploaded
        cases huploaded
      · rw [hsound.adopt_other key hother] at huploaded ⊢
        exact hsound.mounted.awake id hother huploaded
    · refine ⟨?_, hroomy.pending, hroomy.unwarned⟩
      have hothers : (sdata.adopt key).roomNeed (loose ++ sdata.keyList) =
          sdata.roomNeed (loose ++ sdata.keyList) :=
        roomNeed_congr fun id hid => by rw [hsound.adopt_other key hid]
      have hall : (sdata.adopt key).roomNeed (sdata.nextKey :: loose ++ sdata.keyList) =
          1 + (sdata.adopt key).roomNeed (loose ++ sdata.keyList) := by
        rw [List.cons_append, roomNeed, List.map_cons, List.sum_cons, adopt_self,
          SwKey.roomNeed_of_not_uploaded hdown]
        rfl
      have hneeded := hroomy.needed
      change sdata.tailroomNeeded + 1 = sdata.tailroomPendingDec +
        (sdata.adopt key).roomNeed (sdata.nextKey :: loose ++ sdata.keyList)
      omega
  · intro id hid
    rcases List.mem_cons.mp hid with rfl | hother
    · rw [adopt_self]
      exact hdown
    · rw [hsound.adopt_other key (List.mem_append_left _ hother)]
      exact hsound.down id hother
  · exact hsound.unwarned
  · exact hsound.wowlan
  · exact hsound.idle
  · exact hsound.active

theorem pairwiseRekey_mounted {ids : List ℕ} (hmounted : sdata.Mounted hw ids)
    (old : Option ℕ) (new : ℕ) : (sdata.pairwiseRekey old new).Mounted hw ids ∧
      ∀ id, ((sdata.pairwiseRekey old new).key id).uploaded = (sdata.key id).uploaded := by
  unfold pairwiseRekey
  cases old with
  | none => exact ⟨hmounted, fun _ => rfl⟩
  | some old =>
      dsimp only
      split_ifs
      · refine ⟨hmounted.taint old, fun id => ?_⟩
        by_cases hsame : id = old
        · rw [hsame, setKey_key_self]
        · rw [setKey_key_of_ne hsame]
      · exact ⟨hmounted, fun _ => rfl⟩

theorem Sound.rekey (hsound : sdata.Sound hw loose) (old : Option ℕ) (new : ℕ) :
    (sdata.pairwiseRekey old new).Sound hw loose := by
  rcases pairwiseRekey_mounted hsound.mounted old new with ⟨hmounted, huploaded⟩
  apply hsound.told (sameTables (pairwiseRekey_tables sdata old new)) hmounted
  intro id hid
  rw [huploaded]
  exact hsound.down id hid

theorem Sound.exchange {told : KeySdata} {new : ℕ} {slot : KeySlot}
    (hsound : sdata.Sound hw (new :: loose)) (hfits : sdata.Fits (sdata.key new) slot)
    (hsame : sdata.SameTables told)
    (hmounted : told.Mounted hw (new :: loose ++ sdata.keyList))
    (hdown : ∀ id ∈ (sdata.slot slot).toList ++ loose, (told.key id).uploaded = false)
    (ref : LinkRef) (sta : Option ℕ) (idx : ℕ) :
    (told.replaceCommit ref sta slot (sdata.slot slot) (some new) idx).Sound hw
      ((sdata.slot slot).toList ++ loose) := by
  have hnew : new ∉ sdata.keyList := fun hlisted =>
    hsound.not_loose hlisted List.mem_cons_self
  have hnodup := hsound.nodup_keyList
  rcases replaceCommit_eq told ref sta slot (sdata.slot slot) (some new) idx with
    ⟨_, _, _, _, hcommit⟩
  generalize told.replaceCommit ref sta slot (sdata.slot slot) (some new) idx = after
    at hcommit ⊢
  have hslot : after.slot = Function.update sdata.slot slot (some new) := by
    rw [hcommit, hsame.slot]
  have hkey : after.key = told.key := by
    rw [hcommit]
  have happended : sdata.slot slot = none → after.keyList = sdata.keyList ++ [new] := by
    intro hheld
    have hlist := congrArg KeySdata.keyList hcommit
    rw [hheld, hsame.keyList] at hlist
    exact hlist
  have hreplaced : ∀ old, sdata.slot slot = some old →
      after.keyList = sdata.keyList.erase old ++ [new] := by
    intro old hheld
    have hlist := congrArg KeySdata.keyList hcommit
    rw [hheld, hsame.keyList] at hlist
    exact hlist.trans
      (List.erase_append_left _ (hsound.indexed.slot_key slot old hheld).1)
  have hperm : ((sdata.slot slot).toList ++ loose ++ after.keyList).Perm
      (new :: loose ++ sdata.keyList) := by
    cases hheld : sdata.slot slot with
    | none =>
        rw [happended hheld, Option.toList_none, List.nil_append, List.cons_append,
          ← List.append_assoc]
        exact List.perm_append_singleton _ _
    | some old =>
        have hmem := (hsound.indexed.slot_key slot old hheld).1
        rw [hreplaced old hheld, Option.toList_some, List.cons_append, List.nil_append,
          ← List.append_assoc, List.cons_append]
        refine (List.perm_append_singleton _ _).trans (List.Perm.cons _ ?_)
        exact List.perm_middle.symm.trans
          ((List.perm_cons_erase hmem).symm.append_left loose)
  have hmem : ∀ id, id ∈ after.keyList ↔
      (id ∈ sdata.keyList ∧ id ∉ sdata.slot slot) ∨ id ∈ some new := by
    intro id
    cases hheld : sdata.slot slot with
    | none =>
        rw [happended hheld, List.mem_append, List.mem_singleton]
        simp [eq_comm]
    | some old =>
        rw [hreplaced old hheld, List.mem_append, List.mem_singleton, hnodup.mem_erase_iff]
        simp [and_comm, eq_comm]
  constructor
  · apply hsound.indexed.commit (some new) rfl ?_ hmem hslot
    · rw [hkey]
      exact hsame.place
    · rw [hcommit]
      exact hsame.stas
    · rw [hcommit]
      exact hsame.validLinks
    · rw [hcommit]
      exact hsame.staLink
    · rintro id ⟨rfl⟩
      exact ⟨hnew, hfits⟩
  · rw [show after.destroyed = sdata.destroyed by rw [hcommit]; exact hsame.destroyed,
      show after.nextKey = sdata.nextKey by rw [hcommit]; exact hsame.nextKey]
    exact (hperm.append_right _).trans hsound.once
  · apply (hmounted.perm hperm.symm).congr
    · rw [hkey]
      exact fun _ _ => rfl
    all_goals rw [hcommit]
  · rw [hkey]
    exact hdown
  · rw [hcommit]
    exact hsame.replaceWarned.trans hsound.unwarned
  · rw [hcommit]
    change told.wowlan = true → _
    rw [hsame.wowlan]
    exact hsound.wowlan
  · rw [hcommit]
    change told.validLinks = ∅ → told.activeLinks = ∅
    rw [hsame.validLinks, hsame.activeLinks]
    exact hsound.idle
  · rw [hcommit]
    change _ → told.validLinks ≠ ∅ → told.activeLinks ≠ ∅
    rw [hsame.validLinks, hsame.activeLinks]
    exact hsound.active

/-- How an installation ends. -/
structure Installs (hw : KeyHw) (sdata : KeySdata) (loose : List ℕ) (new : ℕ)
    (slot : KeySlot) (result : KeySdata × Bool) : Prop where
  done : result.2 = true → result.1.Sound hw ((sdata.slot slot).toList ++ loose)
  failed : result.2 = false →
    result.1.Sound hw (new :: loose) ∧ sdata.SameTables result.1

theorem Sound.install {new : ℕ} {slot : KeySlot} (hsound : sdata.Sound hw (new :: loose))
    (hfits : sdata.Fits (sdata.key new) slot) {link : Option LinkRef}
    (hlink : sdata.LinkOf link (sdata.key new)) (answer : KeyAnswer) :
    sdata.Installs hw loose new slot
      (sdata.keyReplace hw link (sdata.key new).sta (sdata.key new).pairwise
        (sdata.slot slot) (some new) answer) := by
  have hold : ∀ id ∈ sdata.slot slot, id ∈ sdata.keyList :=
    fun id hid => (hsound.indexed.slot_key slot id hid).1
  rcases keyReplace_eq hw hsound.indexed (sdata.slot slot) (some new) link
    answer rfl hfits (fun id hid => (hsound.indexed.slot_key slot id hid).2) hlink with
    ⟨ref, heq⟩
  dsimp only at heq
  have hrekeyed : (if (sdata.key new).sta.isSome ∧ (sdata.key new).pairwise then
      sdata.pairwiseRekey (sdata.slot slot) new else sdata).Sound hw (new :: loose) ∧
      sdata.SameTables (if (sdata.key new).sta.isSome ∧ (sdata.key new).pairwise then
        sdata.pairwiseRekey (sdata.slot slot) new else sdata) := by
    split_ifs
    · exact ⟨hsound.rekey _ _, sameTables (pairwiseRekey_tables sdata _ _)⟩
    · exact ⟨hsound, sameTables rfl⟩
  generalize (if (sdata.key new).sta.isSome ∧ (sdata.key new).pairwise then
    sdata.pairwiseRekey (sdata.slot slot) new else sdata) = rekeyed at heq hrekeyed
  rcases hrekeyed with ⟨hrekeySound, hrekeySame⟩
  have hloads := hrekeySound.mounted.load hrekeySound.nodup_held (sdata.slot slot)
    (List.mem_append_left _ List.mem_cons_self)
    (by
      intro id hid
      have hlisted := hold id hid
      rw [← hrekeySame.keyList] at hlisted
      refine ⟨List.mem_append_right _ hlisted, ?_⟩
      rintro rfl
      exact hrekeySound.not_loose hlisted List.mem_cons_self)
    (hrekeySound.down new List.mem_cons_self) hrekeySound.wowlan answer
  rw [heq]
  generalize rekeyed.replaceHw hw (sdata.slot slot) (some new) answer = told at hloads
  have hsame := hrekeySame.trans hloads.same
  have hloose : ∀ id ∈ loose, (told.1.key id).uploaded = false := by
    intro id hid
    have hmem : id ∈ new :: loose := List.mem_cons_of_mem _ hid
    have hne : id ≠ new := by
      rintro rfl
      exact (List.nodup_cons.mp hsound.nodup_held).1 (List.mem_append_left _ hid)
    have hnotOld : id ∉ sdata.slot slot := fun hisOld =>
      hsound.not_loose (hold id hisOld) hmem
    rw [hloads.others id hne hnotOld]
    exact hrekeySound.down id hmem
  have hmounted : told.1.Mounted hw (new :: loose ++ sdata.keyList) := by
    rw [← hrekeySame.keyList]
    exact hloads.mounted
  constructor
  · intro hok
    by_cases htold : told.2 = true
    · rw [if_pos htold]
      apply hsound.exchange hfits hsame hmounted
      intro id hid
      rcases List.mem_append.mp hid with hisOld | hid
      · exact hloads.old_down id (Option.mem_toList.mp hisOld)
      · exact hloose id hid
    · rw [if_neg htold] at hok
      cases hok
  · intro hfailed
    by_cases htold : told.2 = true
    · rw [if_pos htold] at hfailed
      cases hfailed
    · rw [if_neg htold]
      refine ⟨hsound.told hsame hmounted ?_, hsame⟩
      rw [List.forall_mem_cons]
      exact ⟨hloads.new_down (Bool.not_eq_true _ ▸ htold), hloose⟩

theorem Sound.abandon {new : ℕ} {slot : KeySlot} (hsound : sdata.Sound hw (new :: loose))
    (hfits : sdata.Fits (sdata.key new) slot) (hempty : sdata.slot slot = none) :
    (sdata.keyRemove hw none new).Sound hw (new :: loose) := by
  have hnew : new ∉ sdata.keyList := fun hlisted =>
    hsound.not_loose hlisted List.mem_cons_self
  have hdown := hsound.down new List.mem_cons_self
  rcases keyReplace_eq hw hsound.indexed (some new) none none (.refuse false)
    rfl hfits (by rintro other ⟨rfl⟩; exact hfits) (by rintro ref ⟨⟩) with ⟨ref, heq⟩
  have htold : sdata.replaceHw hw (some new) none (.refuse false) = (sdata, true) := by
    simp [replaceHw, hdown]
  simp only [htold, if_true] at heq
  rcases replaceCommit_eq sdata ref (sdata.key new).sta slot (some new) none
    (sdata.key new).keyidx with ⟨_, _, _, _, hcommit⟩
  have hremoved := (congrArg Prod.fst heq).trans hcommit
  rw [show (sdata.keyReplace hw none (sdata.key new).sta (sdata.key new).pairwise (some new)
    none (.refuse false)).1 = sdata.keyRemove hw none new from rfl] at hremoved
  have hslot : Function.update sdata.slot slot none = sdata.slot := by
    rw [← hempty, Function.update_eq_self]
  rw [hslot] at hremoved
  simp only [Option.toList_none, List.append_nil, List.erase_of_not_mem hnew] at hremoved
  rw [hremoved]
  apply hsound.told
  · exact ⟨rfl, rfl, rfl, rfl, rfl, rfl, rfl, rfl, rfl, rfl, fun _ => rfl, rfl, rfl⟩
  · exact hsound.mounted.congr (fun _ _ => rfl) rfl rfl rfl rfl
  · exact hsound.down

end Operations

end KeySdata

end IwlwifiStack
