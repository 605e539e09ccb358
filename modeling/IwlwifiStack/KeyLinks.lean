import IwlwifiStack.KeyInstall

/-!
# Keys and links

The keys of a link go with it.  Links that are switched off take their keys out
of the hardware first, and those that are switched on bring theirs.
-/

namespace IwlwifiStack

namespace KeySdata

section Links

variable {hw : KeyHw} {sdata : KeySdata} {loose : List ℕ}

theorem Sound.relink (hsound : sdata.Sound hw loose) (valid dormant active : Finset ℕ)
    (hlink : ∀ id ∈ sdata.keyList, ∀ linkId ref, (sdata.key id).linkId = some linkId →
      sdata.link linkId = some ref →
      link { sdata with validLinks := valid, dormantLinks := dormant, activeLinks := active }
        linkId = some ref)
    (hawake : ∀ id ∈ sdata.keyList, (sdata.key id).uploaded = true →
      ∀ linkId, (sdata.key id).linkId = some linkId → active = ∅ ∨ linkId ∈ active)
    (hidle : valid = ∅ → active = ∅)
    (hactive : hw.type = .station → valid ≠ ∅ → active ≠ ∅) :
    Sound hw { sdata with
      validLinks := valid, dormantLinks := dormant, activeLinks := active } loose := by
  constructor
  · constructor
    · intro id hid
      rcases hsound.indexed.held id hid with ⟨slot, hfits, hslot⟩
      exact ⟨slot, hfits.keep rfl (fun _ _ hmem => hmem) (hlink id hid)
        (fun _ _ _ _ _ href => href), hslot⟩
    · intro slot id hslot
      rcases hsound.indexed.slot_key slot id hslot with ⟨hid, hfits⟩
      exact ⟨hid, hfits.keep rfl (fun _ _ hmem => hmem) (hlink id hid)
        (fun _ _ _ _ _ href => href)⟩
    · exact hsound.indexed.staLink_id
    · exact hsound.indexed.staLink_deflink
  · exact hsound.once
  · constructor
    · intro id hid huploaded
      refine ⟨(hsound.mounted.awake id hid huploaded).1, ?_⟩
      rintro ⟨linkId, hlinkId, hsome, hnot⟩
      rcases List.mem_append.mp hid with hloose | hlisted
      · exact absurd (huploaded.symm.trans (hsound.down id hloose)) (by decide)
      · exact (hawake id hlisted huploaded linkId hlinkId).elim hsome hnot
    · exact ⟨hsound.mounted.roomy.needed, hsound.mounted.roomy.pending,
        hsound.mounted.roomy.unwarned⟩
  · exact hsound.down
  · exact hsound.unwarned
  · exact hsound.wowlan
  · exact hidle
  · exact hactive

theorem Sound.link_of_key (hsound : sdata.Sound hw loose) {id linkId : ℕ}
    (hid : id ∈ sdata.keyList) (hlinkId : (sdata.key id).linkId = some linkId) :
    ∃ ref, sdata.link linkId = some ref := by
  rcases hsound.indexed.held id hid with ⟨slot, hfits, _⟩
  cases hfits with
  | pairwise _ _ _ hnone _ => exact absurd (hlinkId.symm.trans hnone) (Option.some_ne_none _)
  | staGroup _ _ _ hsome hlink _ _ _ =>
      exact ⟨_, Option.some.inj (hlinkId.symm.trans hsome) ▸ hlink⟩
  | wep _ _ _ hsome hlink _ => exact ⟨_, Option.some.inj (hlinkId.symm.trans hsome) ▸ hlink⟩
  | group _ _ _ hsome hlink _ =>
      exact ⟨_, Option.some.inj (hlinkId.symm.trans hsome) ▸ hlink⟩

theorem Sound.linkId_valid (hsound : sdata.Sound hw loose) {id linkId : ℕ}
    (hid : id ∈ sdata.keyList) (hlinkId : (sdata.key id).linkId = some linkId)
    (hvalid : sdata.validLinks ≠ ∅) : linkId ∈ sdata.validLinks := by
  rcases hsound.link_of_key hid hlinkId with ⟨ref, href⟩
  rw [link, if_neg hvalid] at href
  by_contra hnot
  rw [if_neg hnot] at href
  cases href

/-! ## Links are removed -/

def GoesWith (sdata : KeySdata) (link : LinkRef) (id : ℕ) : Prop :=
  sdata.validLinks = ∅ ∨ (sdata.key id).linkId = some link.linkId

theorem Sound.removeLinkKeys (hsound : sdata.Sound hw loose) {link : LinkRef}
    (hlink : sdata.link link.linkId = some link) :
    (sdata.removeLinkKeys hw link).1.Sound hw ((sdata.removeLinkKeys hw link).2 ++ loose) ∧
      sdata.Without (sdata.removeLinkKeys hw link).2 (sdata.removeLinkKeys hw link).1 ∧
      ∀ id ∈ sdata.keyList, sdata.GoesWith link id → id ∈ (sdata.removeLinkKeys hw link).2 := by
  have hmem : ∀ id, id ∈ (sdata.removeLinkKeys hw link).2 ↔
      id ∈ sdata.keyList ∧ sdata.GoesWith link id := by
    intro id
    simp only [KeySdata.removeLinkKeys, List.mem_filter, decide_eq_true_eq]
    rfl
  have hgiven : ∀ id ∈ (sdata.removeLinkKeys hw link).2,
      id ∈ sdata.keyList ∧ sdata.LinkOf (some link) (sdata.key id) := by
    intro id hid
    rcases (hmem id).mp hid with ⟨hlisted, hgoes⟩
    refine ⟨hlisted, ?_⟩
    rintro ref ⟨rfl⟩ linkId hlinkId
    rcases hgoes with hnone | hsame
    · rcases hsound.link_of_key hlisted hlinkId with ⟨ref, href⟩
      have hzero : ∀ id ref, sdata.link id = some ref → id = 0 := by
        intro id ref hresolved
        by_contra hne
        rw [KeySdata.link, if_pos hnone, if_neg hne] at hresolved
        cases hresolved
      rw [hzero linkId ref href, ← hzero link.linkId link hlink]
      exact hlink
    · rw [← Option.some.inj (hsame.symm.trans hlinkId)]
      exact hlink
  rcases hsound.removeAll (hsound.nodup_keyList.filter _) hgiven with ⟨hremoved, hwithout⟩
  exact ⟨hremoved, hwithout, fun id hid hgoes => (hmem id).mpr ⟨hid, hgoes⟩⟩

theorem Sound.tearDownLinks (hsound : sdata.Sound hw loose) {links : List LinkRef}
    (hlinks : ∀ link ∈ links, sdata.link link.linkId = some link) :
    (sdata.tearDownLinks hw links).Sound hw loose ∧
      ∃ ids, sdata.Without ids (sdata.tearDownLinks hw links) ∧
        ∀ link ∈ links, ∀ id ∈ sdata.keyList, sdata.GoesWith link id → id ∈ ids := by
  have hfold : ∀ (links : List LinkRef) (torn : KeySdata) (taken ids : List ℕ),
      (∀ link ∈ links, sdata.link link.linkId = some link) →
      torn.Sound hw (taken ++ loose) → sdata.Without ids torn →
      ∃ last others, links.foldl (fun done link =>
          ((done.1.removeLinkKeys hw link).1,
            done.2 ++ (done.1.removeLinkKeys hw link).2)) (torn, taken) = last ∧
        last.1.Sound hw (last.2 ++ loose) ∧ sdata.Without (ids ++ others) last.1 ∧
        ∀ link ∈ links, ∀ id ∈ sdata.keyList, sdata.GoesWith link id → id ∈ ids ++ others := by
    intro links
    induction links with
    | nil =>
        intro torn taken ids _ htorn hwithout
        refine ⟨_, [], rfl, htorn, ?_, by rintro link ⟨⟩⟩
        rw [List.append_nil]
        exact hwithout
    | cons link links ih =>
        intro torn taken ids hall htorn hwithout
        rw [List.forall_mem_cons] at hall
        have hlink : torn.link link.linkId = some link := by
          rw [link_congr hwithout.validLinks]
          exact hall.1
        rcases htorn.removeLinkKeys hlink with ⟨hnext, hnextWithout, hgone⟩
        have hperm : ((torn.removeLinkKeys hw link).2 ++ (taken ++ loose)).Perm
            (taken ++ (torn.removeLinkKeys hw link).2 ++ loose) := by
          rw [← List.append_assoc]
          exact List.perm_append_comm.append_right loose
        rcases ih _ _ _ hall.2 (hnext.perm hperm) (hwithout.trans hnextWithout) with
          ⟨last, others, heq, hlast, hlastWithout, hrest⟩
        rw [List.append_assoc] at hlastWithout
        refine ⟨last, _, heq, hlast, hlastWithout, ?_⟩
        rw [List.forall_mem_cons]
        refine ⟨fun id hid hgoes => ?_, fun other hother id hid hgoes => ?_⟩
        · by_cases htaken : id ∈ ids
          · exact List.mem_append_left _ htaken
          · apply List.mem_append_right
            apply List.mem_append_left
            apply hgone
            · rw [hwithout.keyList, List.mem_filter]
              exact ⟨hid, decide_eq_true htaken⟩
            · rw [GoesWith, hwithout.validLinks, linkId_of_place (hwithout.place id)]
              exact hgoes
        · rw [← List.append_assoc]
          exact hrest other hother id hid hgoes
  rcases hfold links sdata [] [] hlinks hsound (.refl sdata) with
    ⟨last, ids, heq, hlast, hwithout, hgone⟩
  have htorn : sdata.tearDownLinks hw links = last.1.freeKeyList last.2 := by
    rw [← heq]
    rfl
  rw [htorn]
  refine ⟨hlast.freeKeyList, ids, ?_, hgone⟩
  rcases freeKeyList_tables last.1 last.2 with ⟨_, _, _, _, hfreed⟩
  rw [hfreed]
  exact ⟨hwithout.keyList, hwithout.validLinks, hwithout.dormantLinks, hwithout.activeLinks,
    hwithout.stas, hwithout.staLink, hwithout.place⟩

theorem Sound.stopLink (hsound : sdata.Sound hw loose) {link : LinkRef} {linkId : ℕ}
    (hlink : sdata.link linkId = some link) :
    ((sdata.removeLinkKeys hw link).1.freeKeyList (sdata.removeLinkKeys hw link).2).Sound hw
      loose := by
  rw [← linkId_link hlink] at hlink
  exact (hsound.removeLinkKeys hlink).1.freeKeyList

/-! ## Links are changed -/

/-- The links that `ieee80211_set_vif_links_bitmaps` does not warn about. -/
def GoodLinks (valid dormant : Finset ℕ) : Prop :=
  valid = ∅ ∨ dormant ⊆ valid ∧ valid \ dormant ≠ ∅

theorem setVifLinksBitmaps_eq (hw : KeyHw) (sdata : KeySdata) (valid dormant : Finset ℕ) :
    ∃ asleep active, sdata.setVifLinksBitmaps hw valid dormant = { sdata with
      validLinks := valid, dormantLinks := asleep, activeLinks := active } := by
  unfold KeySdata.setVifLinksBitmaps
  dsimp only
  split_ifs
  · exact ⟨_, _, rfl⟩
  · cases hw.type with
    | ap => exact ⟨_, _, rfl⟩
    | apVlan => exact ⟨_, _, rfl⟩
    | other => exact ⟨_, _, rfl⟩
    | station => exact ⟨_, _, rfl⟩
  · cases hw.type with
    | ap => exact ⟨_, _, rfl⟩
    | apVlan => exact ⟨_, _, rfl⟩
    | other => exact ⟨_, _, rfl⟩
    | station => exact ⟨_, _, rfl⟩

theorem Sound.setVifLinksBitmaps (hsound : sdata.Sound hw loose) {valid dormant : Finset ℕ}
    (hgood : GoodLinks valid dormant)
    (hkeep : ∀ id ∈ sdata.keyList, ∀ linkId ref, (sdata.key id).linkId = some linkId →
      sdata.link linkId = some ref → link { sdata with validLinks := valid } linkId = some ref) :
    (sdata.setVifLinksBitmaps hw valid dormant).Sound hw loose := by
  have hvalid : valid ≠ ∅ → ∀ id ∈ sdata.keyList, ∀ linkId,
      (sdata.key id).linkId = some linkId → linkId ∈ valid := by
    intro hsome id hid linkId hlinkId
    rcases hsound.link_of_key hid hlinkId with ⟨ref, href⟩
    have hstill := hkeep id hid linkId ref hlinkId href
    unfold link at hstill
    by_contra hnot
    exact absurd ((if_neg hsome).symm.trans hstill)
      (by rw [if_neg hnot]; exact (Option.some_ne_none _).symm)
  have hactive : ∀ id ∈ sdata.keyList, (sdata.key id).uploaded = true → ∀ linkId,
      (sdata.key id).linkId = some linkId →
      sdata.activeLinks = ∅ ∨ linkId ∈ sdata.activeLinks := by
    intro id hid huploaded linkId hlinkId
    by_contra hnot
    rw [not_or] at hnot
    exact (hsound.mounted.awake id (List.mem_append_right _ hid) huploaded).2
      ⟨linkId, hlinkId, hnot.1, hnot.2⟩
  unfold KeySdata.setVifLinksBitmaps
  dsimp only
  by_cases hnone : valid = ∅ ∨ ¬dormant ⊆ valid ∨ valid \ dormant = ∅
  · have hempty : valid = ∅ := by
      rcases hgood with hempty | ⟨hsubset, hawake⟩
      · exact hempty
      · rcases hnone with hempty | hnot | hnot
        · exact hempty
        · exact absurd hsubset hnot
        · exact absurd hnot hawake
    rw [if_pos hnone]
    exact hsound.relink _ _ _ hkeep (fun _ _ _ _ _ => .inl rfl) (fun _ => rfl)
      (fun _ hsome => absurd hempty hsome)
  · rw [if_neg hnone]
    rw [not_or, not_or, not_not] at hnone
    cases htype : hw.type with
    | ap =>
        exact hsound.relink _ _ _ hkeep (fun id hid _ linkId hlinkId =>
          .inr (hvalid hnone.1 id hid linkId hlinkId)) id fun _ hsome => hsome
    | apVlan =>
        exact hsound.relink _ _ _ hkeep (fun id hid _ linkId hlinkId =>
          .inr (hvalid hnone.1 id hid linkId hlinkId)) id fun _ hsome => hsome
    | other =>
        exact hsound.relink _ _ _ hkeep hactive (fun hempty => absurd hempty hnone.1)
          fun hstation => absurd (htype.symm.trans hstation) (by decide)
    | station =>
        dsimp only
        split_ifs with hold
        · exact hsound.relink _ _ _ hkeep hactive (fun hempty => absurd hempty hnone.1)
            fun _ _ => hold
        · -- a station without active links has no links yet
          rw [not_not] at hold
          have hnew : sdata.validLinks = ∅ := by
            by_contra hsome
            exact hsound.active htype hsome hold
          refine hsound.relink _ _ _ hkeep ?_ (fun hempty => absurd hempty hnone.1)
            fun _ _ => hnone.2.2
          · intro id hid _ linkId hlinkId
            rcases hsound.link_of_key hid hlinkId with ⟨ref, href⟩
            have hstill := hkeep id hid linkId ref hlinkId href
            have hdeflink : ref = .deflink := by
              rw [KeySdata.link, if_pos hnew] at href
              split_ifs at href
              exact (Option.some.inj href).symm
            rw [hdeflink] at hstill
            exact absurd (link_deflink hstill).2 hnone.1

/-- The links of `ieee80211_vif_update_links` that it sets without a WARN. -/
def UpdateAllowed (sdata : KeySdata) (newLinks dormantLinks : Finset ℕ)
    (duplicate fails : Bool) : Prop :=
  GoodLinks newLinks dormantLinks ∧
    (duplicate = true ∨ fails = true → GoodLinks sdata.validLinks dormantLinks)

theorem Sound.vifUpdateLinks (hsound : sdata.Sound hw loose)
    {newLinks dormantLinks : Finset ℕ} {duplicate fails : Bool}
    (hallowed : sdata.UpdateAllowed newLinks dormantLinks duplicate fails) :
    (sdata.vifUpdateLinks hw newLinks dormantLinks duplicate fails).Sound hw loose := by
  unfold KeySdata.vifUpdateLinks
  dsimp only
  by_cases hsame : sdata.validLinks = newLinks ∧ dormantLinks = sdata.dormantLinks
  · rw [if_pos hsame]
    exact hsound
  rw [if_neg hsame]
  by_cases hduplicate : duplicate = true ∧ newLinks ≠ ∅
  · rw [if_pos hduplicate]
    exact hsound.setVifLinksBitmaps (hallowed.2 (.inl hduplicate.1))
      fun _ _ _ _ _ href => href
  rw [if_neg hduplicate]
  generalize hremoved : (if sdata.validLinks = ∅ then [LinkRef.deflink]
    else ((sdata.validLinks \ newLinks).sort (· ≤ ·)).map LinkRef.link) = removed
  have hlinks : ∀ link ∈ removed, sdata.link link.linkId = some link := by
    intro link hlink
    rw [← hremoved] at hlink
    split_ifs at hlink with hold
    · rw [List.mem_singleton.mp hlink, KeySdata.link, if_pos hold]
      rfl
    · rcases List.mem_map.mp hlink with ⟨id, hid, rfl⟩
      have hvalid : id ∈ sdata.validLinks := (Finset.mem_sdiff.mp ((Finset.mem_sort _).mp hid)).1
      rw [KeySdata.link, if_neg hold]
      exact if_pos hvalid
  rcases hsound.tearDownLinks hlinks with ⟨htorn, ids, hwithout, hgone⟩
  generalize sdata.tearDownLinks hw removed = torn at htorn hwithout ⊢
  have hremain : ∀ id ∈ torn.keyList, ∀ linkId, (torn.key id).linkId = some linkId →
      sdata.validLinks ≠ ∅ ∧ linkId ∈ sdata.validLinks ∧ linkId ∈ newLinks := by
    intro id hid linkId hlinkId
    rw [hwithout.keyList, List.mem_filter, decide_eq_true_eq] at hid
    rw [linkId_of_place (hwithout.place id)] at hlinkId
    have hsome : sdata.validLinks ≠ ∅ := by
      intro hnone
      rw [if_pos hnone] at hremoved
      exact hid.2 (hgone .deflink (by rw [← hremoved]; exact List.mem_cons_self) id hid.1
        (.inl hnone))
    have hvalid := hsound.linkId_valid hid.1 hlinkId hsome
    refine ⟨hsome, hvalid, ?_⟩
    by_contra hnot
    rw [if_neg hsome] at hremoved
    apply hid.2 (hgone (.link linkId) ?_ id hid.1 (.inr hlinkId))
    rw [← hremoved]
    exact List.mem_map_of_mem ((Finset.mem_sort _).mpr (Finset.mem_sdiff.mpr ⟨hvalid, hnot⟩))
  have hresolve : ∀ (links : KeySdata) linkId, links.validLinks ≠ ∅ →
      linkId ∈ links.validLinks → links.link linkId = some (.link linkId) := by
    intro links linkId hsome hmem
    rw [KeySdata.link, if_neg hsome]
    exact if_pos hmem
  have hnew : ∀ id ∈ torn.keyList, ∀ linkId, (torn.key id).linkId = some linkId →
      torn.link linkId = some (.link linkId) ∧
      ∀ links : KeySdata, links.validLinks = newLinks ∨ links.validLinks = sdata.validLinks →
        links.link linkId = some (.link linkId) := by
    intro id hid linkId hlinkId
    rcases hremain id hid linkId hlinkId with ⟨hsome, hold, hmem⟩
    constructor
    · rw [link_congr hwithout.validLinks]
      exact hresolve sdata linkId hsome hold
    · rintro links (hvalid | hvalid)
      · exact hresolve links linkId (hvalid ▸ Finset.ne_empty_of_mem hmem) (hvalid ▸ hmem)
      · exact hresolve links linkId (hvalid ▸ hsome) (hvalid ▸ hold)
  have hchanged := htorn.setVifLinksBitmaps hallowed.1 fun id hid linkId ref hlinkId href => by
    rcases hnew id hid linkId hlinkId with ⟨htornLink, hlinks⟩
    rw [← htornLink.symm.trans href]
    exact hlinks _ (.inl rfl)
  by_cases hfails : fails = true ∧ newLinks ≠ ∅
  · rw [if_pos hfails]
    apply hchanged.setVifLinksBitmaps (hallowed.2 (.inr hfails.1))
    rcases setVifLinksBitmaps_eq hw torn newLinks dormantLinks with ⟨_, _, heq⟩
    rw [heq]
    intro id hid linkId ref hlinkId href
    rcases hnew id hid linkId hlinkId with ⟨_, hlinks⟩
    rw [← (hlinks _ (.inl rfl)).symm.trans href]
    exact hlinks _ (.inr rfl)
  · rw [if_neg hfails]
    exact hchanged

end Links

end KeySdata

end IwlwifiStack
