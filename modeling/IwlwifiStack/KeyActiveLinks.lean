import IwlwifiStack.KeyLinks

/-!
# Keys and active links

`ieee80211_key_switch_links` takes the keys of the links that are switched off
out of the hardware and brings those of the new ones.
-/

namespace IwlwifiStack

namespace KeySdata

section Switch

variable {hw : KeyHw} {sdata : KeySdata} {loose : List ℕ}

theorem Sound.disableAll (hsound : sdata.Sound hw loose) {ids : List ℕ}
    (hids : ∀ id ∈ ids, id ∈ sdata.keyList) :
    (ids.foldl (fun sdata id => sdata.disableHwAccel hw id) sdata).Sound hw loose ∧
      sdata.SameTables (ids.foldl (fun sdata id => sdata.disableHwAccel hw id) sdata) ∧
      (∀ id, id ∉ ids → (ids.foldl (fun sdata id => sdata.disableHwAccel hw id) sdata).key id =
        sdata.key id) ∧
      ∀ id ∈ sdata.keyList, id ∈ ids ∨ (sdata.key id).uploaded = false →
        ((ids.foldl (fun sdata id => sdata.disableHwAccel hw id) sdata).key id).uploaded =
          false := by
  induction ids generalizing sdata with
  | nil =>
      refine ⟨hsound, sameTables rfl, fun _ _ => rfl, fun id _ hdown => ?_⟩
      exact hdown.resolve_left List.not_mem_nil
  | cons id ids ih =>
      rw [List.forall_mem_cons] at hids
      have hsame := sameTables (disableHwAccel_tables hw sdata id)
      have hrest : ∀ other ∈ ids, other ∈ (sdata.disableHwAccel hw id).keyList := by
        rw [hsame.keyList]
        exact hids.2
      rcases ih (hsound.disableHwAccel hids.1) hrest with ⟨hlast, hlastSame, hothers, hdown⟩
      refine ⟨hlast, hsame.trans hlastSame, fun other hother => ?_, fun other hlisted hor => ?_⟩
      · rw [List.mem_cons, not_or] at hother
        rw [List.foldl_cons, hothers other hother.2]
        exact disableHwAccel_other hw sdata hother.1
      · apply hdown other (hsame.keyList ▸ hlisted)
        by_cases hself : other = id
        · rw [hself]
          exact .inr (hsound.mounted.disabled (List.mem_append_right _ hids.1))
        · rw [disableHwAccel_other hw sdata hself]
          exact hor.imp_left fun hmem => (List.mem_cons.mp hmem).resolve_left hself

theorem Sound.enableKeys (hsound : sdata.Sound hw loose) (answers : ℕ → KeyAnswer)
    {ids : List ℕ} (hnodup : ids.Nodup)
    (hids : ∀ id ∈ ids, id ∈ sdata.keyList ∧ (sdata.key id).uploaded = false) :
    (enableKeys hw answers ids sdata).Sound hw loose ∧
      sdata.SameTables (KeySdata.enableKeys hw answers ids sdata) ∧
      ∀ id, id ∉ ids → (KeySdata.enableKeys hw answers ids sdata).key id = sdata.key id := by
  induction ids generalizing sdata with
  | nil => exact ⟨hsound, sameTables rfl, fun _ _ => rfl⟩
  | cons id ids ih =>
      rw [List.forall_mem_cons] at hids
      rw [List.nodup_cons] at hnodup
      have hsame := sameTables (enableHwAccel_tables hw sdata id (answers id))
      have henabled := hsound.enableHwAccel hids.1.1 hids.1.2 (answers id)
      have hothers : ∀ other, other ≠ id →
          (sdata.enableHwAccel hw id (answers id)).1.key other = sdata.key other :=
        fun other hother => afterEnable_other sdata _ hother
      unfold KeySdata.enableKeys
      dsimp only
      by_cases hok : (sdata.enableHwAccel hw id (answers id)).2 = true
      · rw [if_pos hok]
        rcases ih henabled hnodup.2 fun other hother => by
          have hne : other ≠ id := fun heq => hnodup.1 (heq ▸ hother)
          rw [hsame.keyList, hothers other hne]
          exact hids.2 other hother with ⟨hlast, hlastSame, hlastOthers⟩
        refine ⟨hlast, hsame.trans hlastSame, fun other hother => ?_⟩
        rw [List.mem_cons, not_or] at hother
        rw [hlastOthers other hother.2, hothers other hother.1]
      · rw [if_neg hok]
        refine ⟨henabled, hsame, fun other hother => ?_⟩
        exact hothers other fun heq => hother (heq ▸ List.mem_cons_self)

theorem Sound.active_of_uploaded (hsound : sdata.Sound hw loose) {id linkId : ℕ}
    (hid : id ∈ sdata.keyList) (huploaded : (sdata.key id).uploaded = true)
    (hlinkId : (sdata.key id).linkId = some linkId) :
    sdata.activeLinks = ∅ ∨ linkId ∈ sdata.activeLinks := by
  by_contra hnot
  rw [not_or] at hnot
  exact (hsound.mounted.awake id (List.mem_append_right _ hid) huploaded).2
    ⟨linkId, hlinkId, hnot.1, hnot.2⟩

theorem Sound.setActiveLinks (hsound : sdata.Sound hw loose) {activeLinks : Finset ℕ}
    (hsome : activeLinks ≠ ∅) (fails : Bool) (answers : ℕ → KeyAnswer) :
    (sdata.setActiveLinks hw activeLinks fails answers).Sound hw loose := by
  unfold KeySdata.setActiveLinks
  dsimp only
  split_ifs with hrefused hsame hfails
  · exact hsound
  · exact hsound
  · exact hsound
  · rw [not_or, not_not, not_not] at hrefused
    have hvalid : sdata.validLinks ≠ ∅ := by
      intro hnone
      apply hsome
      rw [← Finset.subset_empty, ← hnone]
      exact hrefused.2.trans Finset.sdiff_subset
    have hold := hsound.active hrefused.1 hvalid
    have hboth := hsound.relink sdata.validLinks sdata.dormantLinks
      (sdata.activeLinks ∪ (activeLinks \ sdata.activeLinks))
      (fun _ _ _ _ _ href => href)
      (fun id hid huploaded linkId hlinkId => .inr (Finset.mem_union_left _
        ((hsound.active_of_uploaded hid huploaded hlinkId).resolve_left hold)))
      (fun hnone => absurd hnone hvalid)
      (fun _ _ hnone => hold (Finset.union_eq_empty.mp hnone).1)
    unfold keySwitchLinks
    dsimp only
    generalize hremoved : sdata.keyList.filter (fun id =>
      decide (∃ link ∈ (sdata.key id).linkId, link ∈ sdata.activeLinks \ activeLinks)) = removed
    generalize hadded : sdata.keyList.filter (fun id =>
      decide (∃ link ∈ (sdata.key id).linkId, link ∈ activeLinks \ sdata.activeLinks)) = added
    have hadd : ∀ id ∈ added, id ∈ sdata.keyList ∧ ∃ linkId, (sdata.key id).linkId = some linkId ∧
        linkId ∈ activeLinks \ sdata.activeLinks := by
      intro id hid
      rw [← hadded, List.mem_filter, decide_eq_true_eq] at hid
      exact hid
    have hremove : ∀ id ∈ removed, id ∈ sdata.keyList := by
      intro id hid
      rw [← hremoved] at hid
      exact List.mem_of_mem_filter hid
    rcases hboth.disableAll hremove with ⟨hmid, hmidSame, _, hmidDown⟩
    generalize removed.foldl (fun sdata id => KeySdata.disableHwAccel hw sdata id)
      { sdata with
        activeLinks := sdata.activeLinks ∪ (activeLinks \ sdata.activeLinks) } = mid
      at hmid hmidSame hmidDown ⊢
    have hnodup : added.Nodup := hadded ▸ hsound.nodup_keyList.filter _
    rcases hmid.enableKeys answers hnodup fun id hid => by
      rcases hadd id hid with ⟨hlisted, linkId, hlinkId, hnew⟩
      refine ⟨hmidSame.keyList ▸ hlisted, hmidDown id hlisted (.inr ?_)⟩
      rw [← Bool.not_eq_true]
      intro huploaded
      exact (Finset.mem_sdiff.mp hnew).2
        ((hsound.active_of_uploaded hlisted huploaded hlinkId).resolve_left hold) with
      ⟨hlast, hlastSame, hlastOthers⟩
    have hsame := hmidSame.trans hlastSame
    apply hlast.relink (KeySdata.enableKeys hw answers added mid).validLinks
      (KeySdata.enableKeys hw answers added mid).dormantLinks activeLinks
      (fun _ _ _ _ _ href => href)
    · intro id hid huploaded linkId hlinkId
      refine .inr ?_
      have hlisted : id ∈ sdata.keyList := hsame.keyList ▸ hid
      have hactive := (hlast.active_of_uploaded hid huploaded hlinkId).resolve_left (by
        rw [hsame.activeLinks]
        exact fun hnone => hold (Finset.union_eq_empty.mp hnone).1)
      rw [hsame.activeLinks] at hactive
      have hbefore : (sdata.key id).linkId = some linkId := by
        rw [← hlinkId]
        exact (linkId_of_place (hsame.place id)).symm
      by_contra hnot
      have hold : linkId ∈ sdata.activeLinks := by
        rcases Finset.mem_union.mp hactive with hmem | hmem
        · exact hmem
        · exact absurd (Finset.mem_sdiff.mp hmem).1 hnot
      have hnotAdded : id ∉ added := by
        intro hmem
        rcases hadd id hmem with ⟨_, other, hother, hnew⟩
        rw [Option.some.inj (hbefore.symm.trans hother)] at hnot
        exact hnot (Finset.mem_sdiff.mp hnew).1
      have hisRemoved : id ∈ removed := by
        rw [← hremoved, List.mem_filter, decide_eq_true_eq]
        exact ⟨hlisted, linkId, hbefore, Finset.mem_sdiff.mpr ⟨hold, hnot⟩⟩
      rw [hlastOthers id hnotAdded, hmidDown id hlisted (.inl hisRemoved)] at huploaded
      cases huploaded
    · intro hnone
      rw [hsame.validLinks] at hnone
      exact absurd hnone hvalid
    · exact fun _ _ => hsome

end Switch

end KeySdata

end IwlwifiStack
