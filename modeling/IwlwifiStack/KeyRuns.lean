import IwlwifiStack.KeyRestart

/-!
# Keys in every run

Whatever user space, the driver and the links do, a key that was made is on the
list once or was destroyed once, the slots and the list agree, and the tailroom
count is the room that the keys need.
-/

namespace IwlwifiStack

namespace KeySdata

section Runs

variable {hw : KeyHw} {sdata after : KeySdata}

/-! ## The rest of the steps -/

theorem Sound.setDefaults {loose : List ℕ} (hsound : sdata.Sound hw loose)
    (unicast : Option ℕ) (multicast mgmt beacon : LinkRef → Option ℕ) :
    Sound hw { sdata with
      defaultUnicast := unicast
      defaultMulticast := multicast
      defaultMgmt := mgmt
      defaultBeacon := beacon } loose := by
  apply hsound.told
  · exact ⟨rfl, rfl, rfl, rfl, rfl, rfl, rfl, rfl, rfl, rfl, fun _ => rfl, rfl, rfl⟩
  · exact hsound.mounted.congr (fun _ _ => rfl) rfl rfl rfl rfl
  · exact hsound.down

theorem Sound.setWowlan {loose : List ℕ} (hsound : sdata.Sound hw loose) {wowlan : Bool}
    (hset : wowlan = true → hw.setKey = true) :
    Sound hw { sdata with wowlan := wowlan } loose := by
  constructor
  · exact hsound.indexed.congr rfl rfl (fun _ _ => rfl) rfl rfl rfl
  · exact hsound.once
  · exact hsound.mounted.congr (fun _ _ => rfl) rfl rfl rfl rfl
  · exact hsound.down
  · exact hsound.unwarned
  · exact hset
  · exact hsound.idle
  · exact hsound.active

theorem Sound.delayedTailroomDec {loose : List ℕ} (hsound : sdata.Sound hw loose) :
    sdata.delayedTailroomDec.Sound hw loose := by
  have hroomy := hsound.mounted.roomy
  have hneeded := hroomy.needed
  have hcovered := hroomy.pending_le
  apply hsound.told
  · exact ⟨rfl, rfl, rfl, rfl, rfl, rfl, rfl, rfl, rfl, rfl, fun _ => rfl, rfl, rfl⟩
  · constructor
    · exact hsound.mounted.awake
    · constructor
      · change sdata.tailroomNeeded - sdata.tailroomPendingDec =
          0 + sdata.roomNeed (loose ++ sdata.keyList)
        omega
      · exact le_rfl
      · change (sdata.tailroomWarned ||
          decide (sdata.tailroomNeeded < sdata.tailroomPendingDec)) = false
        rw [hroomy.unwarned, decide_eq_false (not_lt.mpr hcovered)]
        rfl
  · exact hsound.down

theorem replaceHw_pending (hw : KeyHw) (sdata : KeySdata) (id : ℕ) (answer : KeyAnswer) :
    (sdata.replaceHw hw (some id) none answer).1.tailroomPendingDec =
      sdata.tailroomPendingDec := by
  simp only [replaceHw]
  split_ifs
  · unfold disableHwAccel
    dsimp only
    split_ifs <;> rfl
  · rfl

theorem keyRemove_pending (hw : KeyHw) (sdata : KeySdata) (link : Option LinkRef) (id : ℕ) :
    (sdata.keyRemove hw link id).tailroomPendingDec = sdata.tailroomPendingDec := by
  unfold keyRemove keyReplace
  change (if _ then _ else _ : KeySdata × Bool).1.tailroomPendingDec = _
  by_cases hmismatch : ∃ other ∈ some id, (sdata.key other).linkId ≠ (sdata.key id).linkId
  · rw [if_pos hmismatch]
  · rw [if_neg hmismatch]
    cases sdata.resolveLink link (sdata.key id).sta (sdata.key id).linkId with
    | none => rfl
    | some links =>
        dsimp only
        generalize hchecked : ({ sdata with
          replaceWarned := sdata.replaceWarned || decide ((none : Option ℕ).isSome = true ∧
            ∃ other ∈ some id, (sdata.key other).keyidx ≠ (sdata.key id).keyidx) } :
            KeySdata) = checked
        have hpending : checked.tailroomPendingDec = sdata.tailroomPendingDec := by
          rw [← hchecked]
        split_ifs
        · rfl
        · rcases replaceCommit_eq (replaceHw hw checked (some id) none (.refuse false)).1
            links.1 (sdata.key id).sta
            (keySlot { sdata.key id with
              sta := (sdata.key id).sta, pairwise := (sdata.key id).pairwise } links.1 links.2)
            (some id) none (sdata.key id).keyidx with ⟨_, _, _, _, heq⟩
          rw [heq]
          exact (replaceHw_pending hw checked id _).trans hpending
        · exact (replaceHw_pending hw checked id _).trans hpending

theorem keyRemoveAll_pending (hw : KeyHw) (sdata : KeySdata) (link : Option LinkRef)
    (ids : List ℕ) :
    (ids.foldl (fun sdata id => sdata.keyRemove hw link id) sdata).tailroomPendingDec =
      sdata.tailroomPendingDec := by
  induction ids generalizing sdata with
  | nil => rfl
  | cons id ids ih => exact (ih (sdata.keyRemove hw link id)).trans (keyRemove_pending hw _ _ _)

theorem freeKeyList_pending (sdata : KeySdata) (ids : List ℕ) :
    (sdata.freeKeyList ids).tailroomPendingDec = sdata.tailroomPendingDec := by
  induction ids generalizing sdata with
  | nil => rfl
  | cons id ids ih => exact ih (sdata.keyDestroy id false)

theorem Sound.freeKeys (hsound : sdata.Sound hw []) : (sdata.freeKeys hw).Sound hw [] := by
  have hcounted := hsound.delayedTailroomDec
  have hnone : ∀ id ∈ sdata.keyList, id ∈ sdata.delayedTailroomDec.keyList ∧
      sdata.delayedTailroomDec.LinkOf none (sdata.delayedTailroomDec.key id) := by
    intro id hid
    exact ⟨hid, by rintro ref ⟨⟩⟩
  rcases hcounted.removeAll hsound.nodup_keyList hnone with ⟨hremoved, hwithout⟩
  have hpending : (sdata.keyList.foldl (fun sdata id => sdata.keyRemove hw none id)
      sdata.delayedTailroomDec).tailroomPendingDec = 0 :=
    keyRemoveAll_pending hw sdata.delayedTailroomDec none sdata.keyList
  unfold KeySdata.freeKeys
  dsimp only
  generalize sdata.keyList.foldl (fun sdata id => sdata.keyRemove hw none id)
    sdata.delayedTailroomDec = removed at hremoved hwithout hpending ⊢
  have hfreed := hremoved.freeKeyList
  have hempty : (removed.freeKeyList sdata.keyList).keyList = [] := by
    rcases freeKeyList_tables removed sdata.keyList with ⟨_, _, _, _, heq⟩
    rw [heq, show removed.keyList = _ from hwithout.keyList]
    apply List.filter_eq_nil_iff.mpr
    intro id hid
    rw [decide_eq_true_eq, not_not]
    exact hid
  rw [← freeKeyList_pending removed sdata.keyList] at hpending
  generalize removed.freeKeyList sdata.keyList = freed at hfreed hempty hpending ⊢
  have hneeded := hfreed.mounted.roomy.needed
  rw [List.nil_append, hempty, hpending] at hneeded
  have hcalm : decide (hw.type ≠ .apVlan ∧
      (freed.tailroomNeeded ≠ 0 ∨ freed.tailroomPendingDec ≠ 0)) = false := by
    apply decide_eq_false
    rw [not_and, not_or, not_not, not_not]
    exact fun _ => ⟨hneeded, hpending⟩
  rw [hcalm, Bool.or_false]
  exact hfreed

/-- What a run may ask for. -/
def KeyAllowed (hw : KeyHw) (sdata : KeySdata) : KeyEvent → Prop
  | .addKey linkId key answer =>
    ∀ call ∈ sdata.addedKey linkId key, ¬sdata.FailsOver hw call.1 call.2 answer
  | .gtkRekeyAdd idx keyData linkId answer =>
    ∀ call ∈ sdata.rekeyedKey hw idx keyData linkId,
      ¬sdata.FailsOver hw call.1 call.2 answer
  | .updateLinks newLinks dormantLinks duplicate fails =>
    sdata.UpdateAllowed newLinks dormantLinks duplicate fails
  | .removeStaLink sta linkId =>
    ∀ id ∈ sdata.keyList, (sdata.key id).sta = some sta → (sdata.key id).linkId ≠ some linkId
  | .removeSta sta => sdata.NoLinkKeys sta
  | .setWowlan wowlan => wowlan = true → hw.setKey = true
  | .restart disconnect fails answers => RestartAllowed hw sdata disconnect fails answers
  | _ => True

theorem Sound.step (hsound : sdata.Sound hw []) {event : KeyEvent}
    {output : List (Option Bool)} (hallowed : KeyAllowed hw sdata event)
    (hstep : sdata.step hw event = some (after, output)) : after.Sound hw [] := by
  cases event with
  | addKey linkId key answer =>
      simp only [KeySdata.step] at hstep
      split_ifs at hstep with hallows
      rw [← show _ = after from congrArg Prod.fst (Option.some.inj hstep)]
      exact hsound.addKey hallows answer hallowed
  | gtkRekeyAdd idx keyData linkId answer =>
      rw [← show _ = after from congrArg Prod.fst (Option.some.inj hstep)]
      exact hsound.gtkRekeyAdd idx keyData linkId answer hallowed
  | delKey linkId idx pairwise sta =>
      simp only [KeySdata.step] at hstep
      split_ifs at hstep
      rw [← show _ = after from congrArg Prod.fst (Option.some.inj hstep)]
      exact hsound.delKey linkId idx pairwise sta
  | setDefaultKey linkId idx uni multi =>
      rcases Option.map_eq_some_iff.mp hstep with ⟨link, _, heq⟩
      rw [← show _ = after from congrArg Prod.fst heq]
      exact hsound.setDefaults _ _ _ _
  | setDefaultMgmtKey linkId idx =>
      rcases Option.map_eq_some_iff.mp hstep with ⟨link, _, heq⟩
      rw [← show _ = after from congrArg Prod.fst heq]
      exact hsound.setDefaults _ _ _ _
  | setDefaultBeaconKey linkId idx =>
      rcases Option.map_eq_some_iff.mp hstep with ⟨link, _, heq⟩
      rw [← show _ = after from congrArg Prod.fst heq]
      exact hsound.setDefaults _ _ _ _
  | updateLinks newLinks dormantLinks duplicate fails =>
      rw [← show _ = after from congrArg Prod.fst (Option.some.inj hstep)]
      exact hsound.vifUpdateLinks hallowed
  | stopLink linkId =>
      rcases Option.map_eq_some_iff.mp hstep with ⟨link, hlink, heq⟩
      rw [← show _ = after from congrArg Prod.fst heq]
      exact hsound.stopLink hlink
  | setActiveLinks activeLinks fails answers =>
      simp only [KeySdata.step] at hstep
      split_ifs at hstep with hsome
      rw [← show _ = after from congrArg Prod.fst (Option.some.inj hstep)]
      exact hsound.setActiveLinks hsome fails answers
  | addSta sta linkId =>
      simp only [KeySdata.step] at hstep
      split_ifs at hstep with hold
      rw [← show _ = after from congrArg Prod.fst (Option.some.inj hstep)]
      exact hsound.addSta hold linkId
  | addStaLink sta linkId =>
      simp only [KeySdata.step] at hstep
      split_ifs at hstep with hnew
      rw [← show _ = after from congrArg Prod.fst (Option.some.inj hstep)]
      exact hsound.addStaLink hnew.2
  | removeStaLink sta linkId =>
      simp only [KeySdata.step] at hstep
      split_ifs at hstep
      rw [← show _ = after from congrArg Prod.fst (Option.some.inj hstep)]
      exact hsound.removeStaLink hallowed
  | removeSta sta =>
      simp only [KeySdata.step] at hstep
      split_ifs at hstep
      rw [← show _ = after from congrArg Prod.fst (Option.some.inj hstep)]
      exact hsound.removeSta hallowed
  | setStaUploaded sta uploaded =>
      rw [← show _ = after from congrArg Prod.fst (Option.some.inj hstep)]
      exact hsound.restation sdata.stas _ sdata.staLink (fun _ _ _ _ hmem => hmem)
        (fun _ _ _ _ _ _ _ href => href) hsound.indexed.staLink_id
        hsound.indexed.staLink_deflink
  | setWowlan wowlan =>
      rw [← show _ = after from congrArg Prod.fst (Option.some.inj hstep)]
      exact hsound.setWowlan hallowed
  | delayedTailroomDec =>
      rw [← show _ = after from congrArg Prod.fst (Option.some.inj hstep)]
      exact hsound.delayedTailroomDec
  | restart disconnect fails answers =>
      rw [← show _ = after from congrArg Prod.fst (Option.some.inj hstep)]
      exact hsound.restart hallowed
  | freeKeys =>
      rw [← show _ = after from congrArg Prod.fst (Option.some.inj hstep)]
      exact hsound.freeKeys

theorem sound_initial (hw : KeyHw) : KeySdata.initial.Sound hw [] := by
  constructor
  · constructor
    · rintro id ⟨⟩
    · rintro slot id ⟨⟩
    · rintro sta id other ⟨⟩
    · rintro sta id other ⟨⟩
  · exact List.Perm.refl []
  · constructor
    · rintro id ⟨⟩
    · exact ⟨rfl, le_rfl, rfl⟩
  · rintro id ⟨⟩
  · rfl
  · rintro ⟨⟩
  · exact fun _ => rfl
  · exact fun _ hvalid => absurd rfl hvalid

theorem sound_of_reachable
    (hreach : ConditionedRun.Reachable (KeySdata.step hw) (KeyAllowed hw) .initial sdata) :
    sdata.Sound hw [] :=
  @ConditionedRun.Reachable.invariant _ _ _ _ _ _ (fun sdata => sdata.Sound hw [])
    (sound_initial hw) (fun _ _ _ _ hsound hallowed hstep => hsound.step hallowed hstep) _
    hreach

end Runs

/-! ## A group key -/

def groupKey : SwKey where
  cipher := .ccmp
  keyidx := 1
  linkId := none
  key := [1, 2, 3]
  pairwise := false
  noAutoTx := false
  room := ⟨false, false, false⟩
  sta := none
  uploaded := false
  tainted := false

def stationHw : KeyHw := ⟨true, false, false, .station⟩

def withKey (sdata : KeySdata) (key : SwKey) : KeySdata :=
  (sdata.addKey stationHw none key (.accept ⟨false, false, false⟩)).1

def otherKey : SwKey := { groupKey with keyidx := 2, key := [7, 8, 9] }

def rekeyed : KeySdata :=
  (KeySdata.initial.withKey groupKey).withKey { groupKey with key := [4, 5, 6] }

def withGroupKey : KeySdata :=
  (rekeyed.withKey otherKey).delKey stationHw none 2 false none

theorem rekeyed_reachable : ConditionedRun.Reachable (KeySdata.step stationHw)
    (KeyAllowed stationHw) .initial rekeyed := by
  have hfirst : ConditionedRun.Reachable (KeySdata.step stationHw) (KeyAllowed stationHw) .initial
      (KeySdata.initial.withKey groupKey) := by
    apply ConditionedRun.Reachable.start.after
      (.addKey none groupKey (.accept ⟨false, false, false⟩)) [some true]
    · rintro call ⟨⟩ ⟨hfailed, _⟩
      cases hfailed
    · rfl
  apply hfirst.after
    (.addKey none { groupKey with key := [4, 5, 6] } (.accept ⟨false, false, false⟩)) [some true]
  · rintro call ⟨⟩ ⟨hfailed, _⟩
    cases hfailed
  · rfl

theorem withGroupKey_reachable : ConditionedRun.Reachable (KeySdata.step stationHw)
    (KeyAllowed stationHw) .initial withGroupKey := by
  have hadded : ConditionedRun.Reachable (KeySdata.step stationHw) (KeyAllowed stationHw) .initial
      (rekeyed.withKey otherKey) := by
    apply rekeyed_reachable.after
      (.addKey none otherKey (.accept ⟨false, false, false⟩)) [some true]
    · rintro call ⟨⟩ ⟨hfailed, _⟩
      cases hfailed
    · rfl
  exact hadded.after (.delKey none 2 false none) [] trivial rfl

/-! ## Every run -/

section Every

variable {hw : KeyHw} {sdata : KeySdata}

/-- A slot holds exactly the key on the list that fits it, and a key that was made is
on the list once or was destroyed once. -/
theorem keys_once
    (hreach : ConditionedRun.Reachable (KeySdata.step hw) (KeyAllowed hw) .initial sdata) :
    (∀ slot id, sdata.slot slot = some id ↔
      id ∈ sdata.keyList ∧ sdata.Fits (sdata.key id) slot) ∧
    (∀ id ∈ sdata.keyList, ∃! slot, sdata.slot slot = some id) ∧
    (sdata.keyList ++ sdata.destroyed).Perm (List.range sdata.nextKey) ∧
    sdata.replaceWarned = false := by
  have hsound := sound_of_reachable hreach
  have hindexed := hsound.indexed
  refine ⟨fun slot id => ⟨hindexed.slot_key slot id, ?_⟩, ?_, hsound.once, hsound.unwarned⟩
  · rintro ⟨hid, hfits⟩
    exact hindexed.slot_of_fits hid hfits
  · intro id hid
    rcases hindexed.held id hid with ⟨slot, _, hslot⟩
    exact ⟨slot, hslot, fun other hother => hindexed.slot_inj hslot hother⟩

theorem withGroupKey_once :
    (withGroupKey.keyList = [1] ∧ withGroupKey.destroyed = [0, 2]) ∧
    (∀ slot id, withGroupKey.slot slot = some id ↔
      id ∈ withGroupKey.keyList ∧ withGroupKey.Fits (withGroupKey.key id) slot) ∧
    (∀ id ∈ withGroupKey.keyList, ∃! slot, withGroupKey.slot slot = some id) ∧
    (withGroupKey.keyList ++ withGroupKey.destroyed).Perm (List.range withGroupKey.nextKey) ∧
    withGroupKey.replaceWarned = false :=
  ⟨⟨rfl, rfl⟩, keys_once withGroupKey_reachable⟩

theorem roomNeed_eq_countP (sdata : KeySdata) (ids : List ℕ) :
    sdata.roomNeed ids = (ids.countP fun id => (sdata.key id).needsRoom : ℕ) := by
  induction ids with
  | nil => rfl
  | cons id ids ih =>
      have hcons : sdata.roomNeed (id :: ids) = (sdata.key id).roomNeed + sdata.roomNeed ids := by
        rw [roomNeed, List.map_cons, List.sum_cons]
        rfl
      rw [hcons, ih, List.countP_cons, SwKey.roomNeed]
      split_ifs with hneeds
      · push_cast
        ring
      · push_cast
        ring

/-- The tailroom count of an interface that has none from its AP is the number of keys
that need room and what is taken off later, and the driver has only keys of active links. -/
theorem tailroom_counted (_hvlan : hw.type ≠ .apVlan)
    (hreach : ConditionedRun.Reachable (KeySdata.step hw) (KeyAllowed hw) .initial sdata) :
    sdata.tailroomNeeded = sdata.tailroomPendingDec +
      (sdata.keyList.countP fun id => (sdata.key id).needsRoom : ℕ) ∧
    0 ≤ sdata.tailroomPendingDec ∧ sdata.tailroomWarned = false ∧
    ∀ id ∈ sdata.keyList, (sdata.key id).uploaded = true →
      hw.setKey = true ∧ ¬sdata.Inactive (sdata.key id).linkId := by
  have hmounted := (sound_of_reachable hreach).mounted
  rw [List.nil_append] at hmounted
  rw [← roomNeed_eq_countP]
  exact ⟨hmounted.roomy.needed, hmounted.roomy.pending, hmounted.roomy.unwarned,
    hmounted.awake⟩

theorem withGroupKey_counted :
    withGroupKey.tailroomNeeded = withGroupKey.tailroomPendingDec +
      (withGroupKey.keyList.countP fun id => (withGroupKey.key id).needsRoom : ℕ) ∧
    0 ≤ withGroupKey.tailroomPendingDec ∧ withGroupKey.tailroomWarned = false ∧
    ∀ id ∈ withGroupKey.keyList, (withGroupKey.key id).uploaded = true →
      stationHw.setKey = true ∧ ¬withGroupKey.Inactive (withGroupKey.key id).linkId :=
  tailroom_counted (by rintro ⟨⟩) withGroupKey_reachable

end Every

end KeySdata

end IwlwifiStack
