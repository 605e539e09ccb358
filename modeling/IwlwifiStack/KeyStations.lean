import IwlwifiStack.KeyActiveLinks

/-!
# Keys and stations

A station goes with the keys of its `deflink` and its pairwise keys.
-/

namespace IwlwifiStack

namespace KeySdata

section Stations

variable {hw : KeyHw} {sdata after : KeySdata} {loose : List ℕ}

theorem Sound.restation (hsound : sdata.Sound hw loose) (stas : Finset ℕ)
    (staUploaded : ℕ → Bool) (staLink : ℕ → ℕ → Option LinkRef)
    (hstas : ∀ id ∈ sdata.keyList, ∀ sta, (sdata.key id).sta = some sta →
      sta ∈ sdata.stas → sta ∈ stas)
    (hlinks : ∀ id ∈ sdata.keyList, ∀ sta linkId ref, (sdata.key id).sta = some sta →
      (sdata.key id).linkId = some linkId → sdata.staLink sta linkId = some ref →
      staLink sta linkId = some ref)
    (hlinkId : ∀ sta id other, staLink sta id = some (.link other) → other = id)
    (hdeflink : ∀ sta id other, staLink sta id = some .deflink →
      staLink sta other = some .deflink → id = other) :
    Sound hw { sdata with
      stas := stas, staUploaded := staUploaded, staLink := staLink } loose := by
  constructor
  · constructor
    · intro id hid
      rcases hsound.indexed.held id hid with ⟨slot, hfits, hslot⟩
      exact ⟨slot, hfits.keep rfl (hstas id hid) (fun _ _ _ href => href) (hlinks id hid),
        hslot⟩
    · intro slot id hslot
      rcases hsound.indexed.slot_key slot id hslot with ⟨hid, hfits⟩
      exact ⟨hid, hfits.keep rfl (hstas id hid) (fun _ _ _ href => href) (hlinks id hid)⟩
    · exact hlinkId
    · exact hdeflink
  · exact hsound.once
  · exact hsound.mounted.congr (fun _ _ => rfl) rfl rfl rfl rfl
  · exact hsound.down
  · exact hsound.unwarned
  · exact hsound.wowlan
  · exact hsound.idle
  · exact hsound.active

theorem Indexed.sta_of_slot (hindexed : sdata.Indexed) {sta idx id : ℕ}
    (hslot : sdata.slot (.staPtk sta idx) = some id ∨
      ∃ ref, sdata.slot (.staGtk sta ref idx) = some id) :
    sta ∈ sdata.stas := by
  rcases hslot with hslot | ⟨ref, hslot⟩
  · have hfits := (hindexed.slot_key _ id hslot).2
    generalize hplace : KeySlot.staPtk sta idx = place at hfits
    cases hfits with
    | pairwise _ hmem =>
        injection hplace with hsta _
        rw [hsta]
        exact hmem
    | staGroup => cases hplace
    | wep => cases hplace
    | group => cases hplace
  · have hfits := (hindexed.slot_key _ id hslot).2
    generalize hplace : KeySlot.staGtk sta ref idx = place at hfits
    cases hfits with
    | staGroup _ hmem =>
        injection hplace with hsta _
        rw [hsta]
        exact hmem
    | pairwise => cases hplace
    | wep => cases hplace
    | group => cases hplace

theorem Indexed.sta_mem (hindexed : sdata.Indexed) {id sta : ℕ} (hid : id ∈ sdata.keyList)
    (hsta : (sdata.key id).sta = some sta) : sta ∈ sdata.stas := by
  rcases hindexed.held id hid with ⟨slot, hfits, _⟩
  cases hfits with
  | pairwise hother hmem => exact Option.some.inj (hsta.symm.trans hother) ▸ hmem
  | staGroup hother hmem => exact Option.some.inj (hsta.symm.trans hother) ▸ hmem
  | wep hnone => exact absurd (hsta.symm.trans hnone) (Option.some_ne_none _)
  | group hnone => exact absurd (hsta.symm.trans hnone) (Option.some_ne_none _)

theorem Sound.addSta (hsound : sdata.Sound hw loose) {sta : ℕ} (hnew : sta ∉ sdata.stas)
    (linkId : Option ℕ) : (sdata.addSta sta linkId).Sound hw loose := by
  have hslots : (sdata.addSta sta linkId).slot = sdata.slot := by
    funext slot
    cases slot with
    | iface idx => rfl
    | linkGtk link idx => rfl
    | staPtk other idx =>
        simp only [KeySdata.addSta]
        split_ifs with hother
        · symm
          by_contra hsome
          rcases Option.ne_none_iff_exists'.mp hsome with ⟨id, hid⟩
          exact hnew (hother ▸ hsound.indexed.sta_of_slot (.inl hid))
        · rfl
    | staGtk other link idx =>
        simp only [KeySdata.addSta]
        split_ifs with hother
        · symm
          by_contra hsome
          rcases Option.ne_none_iff_exists'.mp hsome with ⟨id, hid⟩
          exact hnew (hother ▸ hsound.indexed.sta_of_slot (.inr ⟨link, hid⟩))
        · rfl
  have hrest := hsound.restation (insert sta sdata.stas)
    (Function.update sdata.staUploaded sta false)
    (Function.update sdata.staLink sta fun id =>
      if id = linkId.getD 0 then some .deflink else none)
    (fun _ _ _ _ hmem => Finset.mem_insert_of_mem hmem)
    (fun id hid other link ref hother _ href => by
      have hne : other ≠ sta := fun heq => hnew (heq ▸ hsound.indexed.sta_mem hid hother)
      rw [Function.update_of_ne hne]
      exact href)
    (fun other id link hlink => by
      by_cases hother : other = sta
      · rw [hother, Function.update_self] at hlink
        split_ifs at hlink with hfirst
        cases hlink
      · rw [Function.update_of_ne hother] at hlink
        exact hsound.indexed.staLink_id _ _ _ hlink)
    (fun other id link hid hlink => by
      by_cases hother : other = sta
      · rw [hother, Function.update_self] at hid hlink
        split_ifs at hid hlink with hfirst hsecond
        exact hfirst.trans hsecond.symm
      · rw [Function.update_of_ne hother] at hid hlink
        exact hsound.indexed.staLink_deflink _ _ _ hid hlink)
  rw [← hslots] at hrest
  exact hrest

theorem Sound.addStaLink (hsound : sdata.Sound hw loose) {sta linkId : ℕ}
    (hnone : sdata.staLink sta linkId = none) :
    (sdata.addStaLink sta linkId).Sound hw loose := by
  have hslots : (sdata.addStaLink sta linkId).slot = sdata.slot := by
    funext slot
    cases slot with
    | iface idx => rfl
    | linkGtk link idx => rfl
    | staPtk other idx => rfl
    | staGtk other link idx =>
        simp only [KeySdata.addStaLink]
        split_ifs with hother
        · symm
          by_contra hsome
          rcases Option.ne_none_iff_exists'.mp hsome with ⟨id, hid⟩
          rw [hother.1, hother.2] at hid
          have hfits := (hsound.indexed.slot_key _ id hid).2
          generalize hplace : KeySlot.staGtk sta (.link linkId) idx = place at hfits
          cases hfits with
          | @staGroup holder found _ ref _ _ _ _ _ href _ _ =>
              injection hplace with hsta hlink _
              rw [← hsta, ← hlink] at href
              rw [← hsound.indexed.staLink_id _ _ _ href, hnone] at href
              cases href
          | pairwise => cases hplace
          | wep => cases hplace
          | group => cases hplace
        · rfl
  have hupdate : ∀ other id ref,
      Function.update sdata.staLink sta (Function.update (sdata.staLink sta) linkId
        (some (.link linkId))) other id = some ref →
      other = sta ∧ id = linkId ∧ ref = .link linkId ∨ sdata.staLink other id = some ref := by
    intro other id ref href
    by_cases hother : other = sta
    · rw [hother, Function.update_self] at href
      by_cases hid : id = linkId
      · rw [hid, Function.update_self] at href
        exact .inl ⟨hother, hid, (Option.some.inj href).symm⟩
      · rw [Function.update_of_ne hid] at href
        exact .inr (hother ▸ href)
    · rw [Function.update_of_ne hother] at href
      exact .inr href
  have hrest := hsound.restation sdata.stas sdata.staUploaded
    (Function.update sdata.staLink sta
      (Function.update (sdata.staLink sta) linkId (some (.link linkId))))
    (fun _ _ _ _ hmem => hmem)
    (fun id hid other link ref _ _ href => by
      by_cases hother : other = sta
      · rw [hother] at href ⊢
        have hne : link ≠ linkId := by
          rintro rfl
          rw [hnone] at href
          cases href
        rw [Function.update_self, Function.update_of_ne hne]
        exact href
      · rw [Function.update_of_ne hother]
        exact href)
    (fun other id link hlink => by
      rcases hupdate other id _ hlink with ⟨_, hid, href⟩ | href
      · injection href with hlinkId
        rw [hlinkId, hid]
      · exact hsound.indexed.staLink_id _ _ _ href)
    (fun other id link hid hlink => by
      rcases hupdate other id _ hid with ⟨_, _, href⟩ | hidRef
      · cases href
      · rcases hupdate other link _ hlink with ⟨_, _, href⟩ | hlinkRef
        · cases href
        · exact hsound.indexed.staLink_deflink _ _ _ hidRef hlinkRef)
  rw [← hslots] at hrest
  exact hrest

theorem Sound.removeStaLink (hsound : sdata.Sound hw loose) {sta linkId : ℕ}
    (hunused : ∀ id ∈ sdata.keyList, (sdata.key id).sta = some sta →
      (sdata.key id).linkId ≠ some linkId) :
    (sdata.removeStaLink sta linkId).Sound hw loose := by
  have hupdate : ∀ other id ref,
      Function.update sdata.staLink sta (Function.update (sdata.staLink sta) linkId none)
        other id = some ref → sdata.staLink other id = some ref := by
    intro other id ref href
    by_cases hother : other = sta
    · rw [hother, Function.update_self] at href
      by_cases hid : id = linkId
      · rw [hid, Function.update_self] at href
        cases href
      · rw [Function.update_of_ne hid] at href
        exact hother ▸ href
    · rw [Function.update_of_ne hother] at href
      exact href
  apply hsound.restation sdata.stas sdata.staUploaded
    (Function.update sdata.staLink sta (Function.update (sdata.staLink sta) linkId none))
    (fun _ _ _ _ hmem => hmem)
  · intro id hid other link ref hother hlink href
    by_cases hsame : other = sta
    · have hne : link ≠ linkId := fun heq =>
        hunused id hid (hsame ▸ hother) (heq ▸ hlink)
      rw [hsame, Function.update_self, Function.update_of_ne hne, ← hsame]
      exact href
    · rw [Function.update_of_ne hsame]
      exact href
  · exact fun other id link hlink => hsound.indexed.staLink_id _ _ _ (hupdate _ _ _ hlink)
  · exact fun other id link hid hlink =>
      hsound.indexed.staLink_deflink _ _ _ (hupdate _ _ _ hid) (hupdate _ _ _ hlink)

/-! ## A station goes -/

theorem Without.fits_iff {ids : List ℕ} {slot : KeySlot} (hwithout : sdata.Without ids after)
    (id : ℕ) : after.Fits (after.key id) slot ↔ sdata.Fits (sdata.key id) slot :=
  ⟨fun hfits => hfits.congr (hwithout.place id).symm hwithout.stas.symm
      hwithout.validLinks.symm hwithout.staLink.symm,
    fun hfits => hfits.congr (hwithout.place id) hwithout.stas hwithout.validLinks
      hwithout.staLink⟩

theorem Without.destroyed {ids : List ℕ} (hwithout : sdata.Without ids after) (id : ℕ)
    (delayTailroom : Bool) : sdata.Without ids (after.keyDestroy id delayTailroom) := by
  rcases keyDestroy_tables after id delayTailroom with ⟨_, _, _, heq⟩
  rw [heq]
  exact ⟨hwithout.keyList, hwithout.validLinks, hwithout.dormantLinks, hwithout.activeLinks,
    hwithout.stas, hwithout.staLink, hwithout.place⟩

theorem Sound.freeStaSlot (hsound : sdata.Sound hw loose) (slot : KeySlot) :
    (sdata.freeStaSlot hw slot).Sound hw loose ∧
      sdata.Without (sdata.slot slot).toList (sdata.freeStaSlot hw slot) := by
  unfold KeySdata.freeStaSlot
  cases hslot : sdata.slot slot with
  | none => exact ⟨hsound, .refl sdata⟩
  | some id =>
      have hid := (hsound.indexed.slot_key slot id hslot).1
      rcases @Sound.remove hw sdata loose id hsound hid none (by rintro ref ⟨⟩) with ⟨hremoved, hwithout⟩
      exact ⟨hremoved.destroy _, hwithout.destroyed id _⟩

theorem Sound.freeSlots (hsound : sdata.Sound hw loose) (slots : List KeySlot) :
    (slots.foldl (fun sdata slot => sdata.freeStaSlot hw slot) sdata).Sound hw loose ∧
      ∃ ids, sdata.Without ids
          (slots.foldl (fun sdata slot => sdata.freeStaSlot hw slot) sdata) ∧
        ∀ slot ∈ slots, ∀ id ∈ sdata.keyList, sdata.Fits (sdata.key id) slot → id ∈ ids := by
  induction slots generalizing sdata with
  | nil => exact ⟨hsound, [], .refl sdata, by rintro slot ⟨⟩⟩
  | cons slot slots ih =>
      rcases hsound.freeStaSlot slot with ⟨hnext, hwithout⟩
      rcases ih hnext with ⟨hlast, ids, hlastWithout, hgone⟩
      refine ⟨hlast, _, hwithout.trans hlastWithout, ?_⟩
      rw [List.forall_mem_cons]
      constructor
      · intro id hid hfits
        apply List.mem_append_left
        rw [Option.mem_toList]
        exact hsound.indexed.slot_of_fits hid hfits
      · intro other hother id hid hfits
        by_cases hfreed : id ∈ (sdata.slot slot).toList
        · exact List.mem_append_left _ hfreed
        · apply List.mem_append_right
          apply hgone other hother
          · rw [hwithout.keyList, List.mem_filter, decide_eq_true_eq]
            exact ⟨hid, hfreed⟩
          · exact (hwithout.fits_iff id).mpr hfits

def NoLinkKeys (sdata : KeySdata) (sta : ℕ) : Prop :=
  ∀ linkId idx, sdata.slot (.staGtk sta (.link linkId) idx) = none

theorem Sound.removeSta (hsound : sdata.Sound hw loose) {sta : ℕ}
    (hlinks : sdata.NoLinkKeys sta) : (sdata.removeSta hw sta).Sound hw loose := by
  rcases hsound.freeSlots (staSlots sta) with ⟨hfreed, ids, hwithout, hgone⟩
  unfold KeySdata.removeSta
  dsimp only
  generalize (staSlots sta).foldl (fun sdata slot => sdata.freeStaSlot hw slot) sdata = freed
    at hfreed hwithout ⊢
  have hothers : ∀ id ∈ freed.keyList, (freed.key id).sta ≠ some sta := by
    intro id hid hsta
    rw [hwithout.keyList, List.mem_filter, decide_eq_true_eq] at hid
    rw [(SwKey.fields_of_place (hwithout.place id)).2.2.2.2] at hsta
    rcases hsound.indexed.held id hid.1 with ⟨slot, hfits, hslot⟩
    have hemptied : slot ∉ staSlots sta := fun hmem => hid.2 (hgone slot hmem id hid.1 hfits)
    unfold staSlots at hemptied
    rw [List.mem_append, not_or] at hemptied
    cases hfits with
    | @pairwise other hother _ _ _ hlt =>
        apply hemptied.2
        rw [Option.some.inj (hsta.symm.trans hother)]
        exact List.mem_map_of_mem (List.mem_range.mpr hlt)
    | @staGroup other linkId link ref hother _ _ _ _ _ _ hlt =>
        rw [← Option.some.inj (hsta.symm.trans hother)] at hslot hemptied
        cases ref with
        | deflink => exact hemptied.1 (List.mem_map_of_mem (List.mem_range.mpr hlt))
        | link linkId => exact absurd (hslot.symm.trans (hlinks linkId _)) (Option.some_ne_none _)
    | wep hnone => exact absurd (hsta.symm.trans hnone) (Option.some_ne_none _)
    | group hnone => exact absurd (hsta.symm.trans hnone) (Option.some_ne_none _)
  have hupdate : ∀ other id ref,
      Function.update freed.staLink sta (fun _ => none) other id = some ref →
      freed.staLink other id = some ref := by
    intro other id ref href
    by_cases hother : other = sta
    · rw [hother, Function.update_self] at href
      cases href
    · rw [Function.update_of_ne hother] at href
      exact href
  apply hfreed.restation (freed.stas.erase sta) freed.staUploaded
    (Function.update freed.staLink sta fun _ => none)
  · intro id hid other hother hmem
    exact Finset.mem_erase.mpr ⟨fun heq => hothers id hid (heq ▸ hother), hmem⟩
  · intro id hid other linkId ref hother _ href
    have hne : other ≠ sta := fun heq => hothers id hid (heq ▸ hother)
    rw [Function.update_of_ne hne]
    exact href
  · exact fun other id link hlink => hfreed.indexed.staLink_id _ _ _ (hupdate _ _ _ hlink)
  · exact fun other id link hid hlink =>
      hfreed.indexed.staLink_deflink _ _ _ (hupdate _ _ _ hid) (hupdate _ _ _ hlink)

end Stations

end KeySdata

end IwlwifiStack
