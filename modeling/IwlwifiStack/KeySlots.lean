import IwlwifiStack.KeyHardware

/-!
# The slots of the keys on the list

Every slot names a key on the list that fits it, and every key on the list is in
the slot that it fits.  A key that is replaced leaves its slot to the new one.
-/

namespace IwlwifiStack

theorem SwKey.fields_of_place {key other : SwKey} (hplace : other.place = key.place) :
    other.cipher = key.cipher ∧ other.keyidx = key.keyidx ∧ other.linkId = key.linkId ∧
      other.pairwise = key.pairwise ∧ other.sta = key.sta := by
  unfold place at hplace
  injection hplace with hcipher hkeyidx hlinkId _ hpairwise _ _ hsta
  exact ⟨hcipher, hkeyidx, hlinkId, hpairwise, hsta⟩

namespace KeySdata

/-- A key and the slot for it. -/
inductive Fits (sdata : KeySdata) (key : SwKey) : KeySlot → Prop
  | pairwise {sta : ℕ} : key.sta = some sta → sta ∈ sdata.stas → key.pairwise = true →
      key.linkId = none → key.keyidx < 4 → Fits sdata key (.staPtk sta key.keyidx)
  | staGroup {sta id : ℕ} {link ref : LinkRef} : key.sta = some sta →
      sta ∈ sdata.stas → key.pairwise = false → key.linkId = some id →
      sdata.link id = some link → sdata.staLink sta id = some ref →
      (key.cipher.isWep = true → key.keyidx < 4) → key.keyidx < 8 →
      Fits sdata key (.staGtk sta ref key.keyidx)
  | wep : key.sta = none → key.pairwise = false → key.cipher.isWep = true →
      key.linkId = some 0 → sdata.link 0 = some .deflink → key.keyidx < 4 →
      Fits sdata key (.iface key.keyidx)
  | group {id : ℕ} {ref : LinkRef} : key.sta = none → key.pairwise = false →
      key.cipher.isWep = false → key.linkId = some id → sdata.link id = some ref →
      key.keyidx < 8 → Fits sdata key (.linkGtk ref key.keyidx)

def LinkOf (sdata : KeySdata) (link : Option LinkRef) (key : SwKey) : Prop :=
  ∀ ref ∈ link, ∀ id ∈ key.linkId, sdata.link id = some ref

/-- The slots and the list agree. -/
structure Indexed (sdata : KeySdata) : Prop where
  held : ∀ id ∈ sdata.keyList, ∃ slot, sdata.Fits (sdata.key id) slot ∧
    sdata.slot slot = some id
  slot_key : ∀ slot id, sdata.slot slot = some id →
    id ∈ sdata.keyList ∧ sdata.Fits (sdata.key id) slot
  staLink_id : ∀ sta id other, sdata.staLink sta id = some (.link other) → other = id
  staLink_deflink : ∀ sta id other, sdata.staLink sta id = some .deflink →
    sdata.staLink sta other = some .deflink → id = other

/-! ## Links -/

theorem linkId_link {sdata : KeySdata} {id : ℕ} {ref : LinkRef}
    (hlink : sdata.link id = some ref) : ref.linkId = id := by
  unfold link at hlink
  split_ifs at hlink with hnone hzero hvalid
  · rw [← Option.some.inj hlink, hzero]
    rfl
  · rw [← Option.some.inj hlink]
    rfl

theorem link_of_linkOrDeflink {sdata : KeySdata} {linkId : Option ℕ} {ref : LinkRef}
    (hlink : sdata.linkOrDeflink linkId = some ref)
    (hvalid : linkId = none → sdata.validLinks = ∅) :
    sdata.link ref.linkId = some ref := by
  cases linkId with
  | some id =>
      rw [linkId_link hlink]
      exact hlink
  | none =>
      rw [← Option.some.inj hlink, link, if_pos (hvalid rfl)]
      rfl

theorem link_deflink {sdata : KeySdata} {id : ℕ} (hlink : sdata.link id = some .deflink) :
    id = 0 ∧ sdata.validLinks = ∅ := by
  unfold link at hlink
  split_ifs at hlink with hnone hzero hvalid
  · exact ⟨hzero, hnone⟩
  · cases hlink

theorem link_congr {before after : KeySdata}
    (hvalid : after.validLinks = before.validLinks) (id : ℕ) :
    after.link id = before.link id := by
  rw [link, link, hvalid]

/-! ## Fitting keys -/

section Fits

variable {sdata before after : KeySdata} {key other : SwKey} {slot otherSlot : KeySlot}

theorem Fits.resolve (hfits : sdata.Fits key slot) {link : Option LinkRef}
    (hlink : sdata.LinkOf link key) :
    ∃ links, sdata.resolveLink link key.sta key.linkId = some links ∧
      keySlot key links.1 links.2 = slot := by
  have hgiven : ∀ id ref, key.linkId = some id → sdata.link id = some ref →
      (link <|> sdata.link id) = some ref := by
    intro id ref hid href
    cases link with
    | none => exact href
    | some given => exact (hlink given rfl id hid).symm.trans href
  cases hfits with
  | pairwise hsta _ hpairwise hid _ =>
      rw [hid]
      exact ⟨_, rfl, by simp [keySlot, hsta, hpairwise]⟩
  | @staGroup sta id link ref hsta _ hpairwise hid hresolved href _ _ =>
      refine ⟨(link, ref), ?_, by simp [keySlot, hsta, hpairwise]⟩
      rw [hid, hsta]
      simp only [resolveLink, hgiven id link hid hresolved, href]
      rfl
  | wep hsta hpairwise hwep hid hresolved _ =>
      refine ⟨(.deflink, .deflink), ?_, by simp [keySlot, hsta, hwep]⟩
      rw [hid, hsta]
      simp only [resolveLink, hgiven 0 .deflink hid hresolved]
      rfl
  | @group id ref hsta hpairwise hwep hid hresolved _ =>
      refine ⟨(ref, .deflink), ?_, by simp [keySlot, hsta, hwep, hpairwise]⟩
      rw [hid, hsta]
      simp only [resolveLink, hgiven id ref hid hresolved]
      rfl

theorem Fits.keyidx_lt (hfits : sdata.Fits key slot)
    (hfew : (key.cipher.isWep || key.pairwise) = true) : key.keyidx < 4 := by
  cases hfits with
  | pairwise _ _ _ _ hlt => exact hlt
  | staGroup _ _ hpairwise _ _ _ hlt _ =>
      rw [hpairwise, Bool.or_false] at hfew
      exact hlt hfew
  | wep _ _ _ _ _ hlt => exact hlt
  | group _ hpairwise hwep _ _ _ =>
      rw [hpairwise, hwep] at hfew
      cases hfew

theorem Fits.slot_eq (hfits : sdata.Fits key slot) (hother : sdata.Fits key otherSlot) :
    otherSlot = slot := by
  have hnone : sdata.LinkOf none key := by
    rintro ref ⟨⟩
  rcases hfits.resolve hnone with ⟨links, hlinks, rfl⟩
  rcases hother.resolve hnone with ⟨others, hothers, rfl⟩
  rw [Option.some.inj (hlinks.symm.trans hothers)]

theorem Fits.alike (hindexed : sdata.Indexed) (hfits : sdata.Fits key slot)
    (hother : sdata.Fits other slot) :
    other.linkId = key.linkId ∧ other.keyidx = key.keyidx := by
  generalize hslot : slot = same at hother
  cases hfits with
  | pairwise hsta _ _ hid _ =>
      cases hother with
      | pairwise _ _ _ hotherId _ =>
          injection hslot with _ hidx
          exact ⟨hotherId.trans hid.symm, hidx.symm⟩
      | staGroup => cases hslot
      | wep => cases hslot
      | group => cases hslot
  | @staGroup sta id link ref _ _ _ hid _ href _ _ =>
      cases hother with
      | @staGroup otherSta otherId otherLink otherRef _ _ _ hotherId _ hotherRef _ _ =>
          injection hslot with hsta hlink hidx
          subst hsta hlink
          refine ⟨?_, hidx.symm⟩
          rw [hid, hotherId]
          cases ref with
          | deflink => rw [hindexed.staLink_deflink _ _ _ hotherRef href]
          | link l =>
              rw [← hindexed.staLink_id _ _ _ hotherRef, hindexed.staLink_id _ _ _ href]
      | pairwise => cases hslot
      | wep => cases hslot
      | group => cases hslot
  | wep _ _ _ hid _ _ =>
      cases hother with
      | wep _ _ _ hotherId _ _ =>
          injection hslot with hidx
          exact ⟨hotherId.trans hid.symm, hidx.symm⟩
      | pairwise => cases hslot
      | staGroup => cases hslot
      | group => cases hslot
  | @group id ref _ _ _ hid href _ =>
      cases hother with
      | @group otherId otherRef _ _ _ hotherId hotherRef _ =>
          injection hslot with hlink hidx
          subst hlink
          refine ⟨?_, hidx.symm⟩
          rw [hid, hotherId, ← linkId_link href, linkId_link hotherRef]
      | pairwise => cases hslot
      | staGroup => cases hslot
      | wep => cases hslot

theorem Fits.keep (hfits : before.Fits key slot) (hplace : other.place = key.place)
    (hstas : ∀ sta, key.sta = some sta → sta ∈ before.stas → sta ∈ after.stas)
    (hlink : ∀ id ref, key.linkId = some id → before.link id = some ref →
      after.link id = some ref)
    (hstaLink : ∀ sta id ref, key.sta = some sta → key.linkId = some id →
      before.staLink sta id = some ref → after.staLink sta id = some ref) :
    after.Fits other slot := by
  rcases SwKey.fields_of_place hplace with ⟨hcipher, hkeyidx, hlinkId, hpairwise, hsta⟩
  cases hfits with
  | @pairwise sta hs hmem hp hid hlt =>
      rw [← hkeyidx]
      exact .pairwise (hsta.trans hs) (hstas sta hs hmem) (hpairwise.trans hp)
        (hlinkId.trans hid) (hkeyidx ▸ hlt)
  | @staGroup sta id link ref hs hmem hp hid hresolved href hwep hlt =>
      rw [← hkeyidx]
      exact .staGroup (hsta.trans hs) (hstas sta hs hmem) (hpairwise.trans hp)
        (hlinkId.trans hid) (hlink id link hid hresolved) (hstaLink sta id ref hs hid href)
        (fun hother => hkeyidx ▸ hwep (hcipher ▸ hother)) (hkeyidx ▸ hlt)
  | wep hs hp hwep hid hresolved hlt =>
      rw [← hkeyidx]
      exact .wep (hsta.trans hs) (hpairwise.trans hp) (hcipher ▸ hwep) (hlinkId.trans hid)
        (hlink 0 .deflink hid hresolved) (hkeyidx ▸ hlt)
  | @group id ref hs hp hwep hid hresolved hlt =>
      rw [← hkeyidx]
      exact .group (hsta.trans hs) (hpairwise.trans hp) (hcipher ▸ hwep) (hlinkId.trans hid)
        (hlink id ref hid hresolved) (hkeyidx ▸ hlt)

theorem Fits.congr (hfits : before.Fits key slot) (hplace : other.place = key.place)
    (hstas : after.stas = before.stas) (hvalid : after.validLinks = before.validLinks)
    (hstaLink : after.staLink = before.staLink) : after.Fits other slot := by
  apply hfits.keep hplace
  · intro sta _ hmem
    rw [hstas]
    exact hmem
  · intro id ref _ href
    rw [link_congr hvalid, href]
  · intro sta id ref _ _ href
    rw [hstaLink, href]

theorem Indexed.slot_inj (hindexed : sdata.Indexed) {id : ℕ}
    (hslot : sdata.slot slot = some id) (hother : sdata.slot otherSlot = some id) :
    otherSlot = slot :=
  (hindexed.slot_key slot id hslot).2.slot_eq (hindexed.slot_key otherSlot id hother).2

theorem Indexed.slot_of_fits (hindexed : sdata.Indexed) {id : ℕ}
    (hid : id ∈ sdata.keyList) (hfits : sdata.Fits (sdata.key id) slot) :
    sdata.slot slot = some id := by
  rcases hindexed.held id hid with ⟨other, hother, hslot⟩
  rw [← hother.slot_eq hfits] at hslot
  exact hslot

end Fits

/-! ## The tables -/

/-- The fields of the tables. -/
structure SameTables (before after : KeySdata) : Prop where
  validLinks : after.validLinks = before.validLinks
  dormantLinks : after.dormantLinks = before.dormantLinks
  activeLinks : after.activeLinks = before.activeLinks
  stas : after.stas = before.stas
  staUploaded : after.staUploaded = before.staUploaded
  staLink : after.staLink = before.staLink
  wowlan : after.wowlan = before.wowlan
  nextKey : after.nextKey = before.nextKey
  keyList : after.keyList = before.keyList
  slot : after.slot = before.slot
  place : ∀ id, (after.key id).place = (before.key id).place
  destroyed : after.destroyed = before.destroyed
  replaceWarned : after.replaceWarned = before.replaceWarned

theorem sameTables {before after : KeySdata} (htables : after.tables = before.tables) :
    before.SameTables after := by
  unfold tables at htables
  injection htables with hvalid hdormant hactive hstas huploaded hstaLink hwowlan hkey hnext
    hlist hslot _ _ _ _ _ _ hdestroyed _ hwarned
  exact ⟨hvalid, hdormant, hactive, hstas, huploaded, hstaLink, hwowlan, hnext, hlist, hslot,
    congrFun hkey, hdestroyed, hwarned⟩

theorem Indexed.congr {before after : KeySdata} (hindexed : before.Indexed)
    (hkeyList : after.keyList = before.keyList) (hslot : after.slot = before.slot)
    (hplace : ∀ id ∈ before.keyList, (after.key id).place = (before.key id).place)
    (hstas : after.stas = before.stas) (hvalid : after.validLinks = before.validLinks)
    (hstaLink : after.staLink = before.staLink) : after.Indexed := by
  have hfits : ∀ id ∈ before.keyList, ∀ slot, before.Fits (before.key id) slot →
      after.Fits (after.key id) slot :=
    fun id hid _ hfits => hfits.congr (hplace id hid) hstas hvalid hstaLink
  constructor
  · intro id hid
    rw [hkeyList] at hid
    rcases hindexed.held id hid with ⟨slot, hslotFits, hheld⟩
    exact ⟨slot, hfits id hid slot hslotFits, by rw [hslot, hheld]⟩
  · intro slot id hheld
    rw [hslot] at hheld
    rcases hindexed.slot_key slot id hheld with ⟨hid, hslotFits⟩
    exact ⟨by rw [hkeyList]; exact hid, hfits id hid slot hslotFits⟩
  · rw [hstaLink]
    exact hindexed.staLink_id
  · rw [hstaLink]
    exact hindexed.staLink_deflink

theorem Indexed.of_tables {before after : KeySdata} (hindexed : before.Indexed)
    (hsame : before.SameTables after) : after.Indexed :=
  hindexed.congr hsame.keyList hsame.slot (fun id _ => hsame.place id) hsame.stas
    hsame.validLinks hsame.staLink

section Commit

theorem replaceDefaults_eq (before sdata : KeySdata) (link : LinkRef)
    (old idx : Option ℕ) : ∃ unicast multicast mgmt beacon,
      replaceDefaults before sdata link old idx =
        { sdata with
          defaultUnicast := unicast
          defaultMulticast := multicast
          defaultMgmt := mgmt
          defaultBeacon := beacon } := by
  unfold replaceDefaults
  dsimp only
  split_ifs <;> exact ⟨_, _, _, _, rfl⟩

theorem replaceCommit_eq (sdata : KeySdata) (link : LinkRef) (sta : Option ℕ)
    (slot : KeySlot) (old new : Option ℕ) (idx : ℕ) :
    ∃ unicast multicast mgmt beacon,
      sdata.replaceCommit link sta slot old new idx =
        { sdata with
          keyList := match old with
            | some old => (sdata.keyList ++ new.toList).erase old
            | none => sdata.keyList ++ new.toList
          slot := Function.update sdata.slot slot new
          defaultUnicast := unicast
          defaultMulticast := multicast
          defaultMgmt := mgmt
          defaultBeacon := beacon } := by
  unfold replaceCommit
  by_cases hsta : sta.isSome
  · simp only [hsta, if_true]
    cases old <;> exact ⟨_, _, _, _, rfl⟩
  · simp only [hsta, Bool.false_eq_true, if_false]
    rcases replaceDefaults_eq { sdata with keyList := sdata.keyList ++ new.toList }
      (setSlot { sdata with keyList := sdata.keyList ++ new.toList } slot new) link old
      (new.map fun _ => idx) with ⟨unicast, multicast, mgmt, beacon, heq⟩
    rw [heq]
    cases old <;> exact ⟨_, _, _, _, rfl⟩

theorem keyReplace_eq {sdata : KeySdata} {id : ℕ} (hw : KeyHw) (hindexed : sdata.Indexed)
    {slot : KeySlot} (old new : Option ℕ) (link : Option LinkRef) (answer : KeyAnswer)
    (hid : (new <|> old) = some id) (hfits : sdata.Fits (sdata.key id) slot)
    (hold : ∀ other ∈ old, sdata.Fits (sdata.key other) slot)
    (hlink : sdata.LinkOf link (sdata.key id)) :
    ∃ ref, sdata.keyReplace hw link (sdata.key id).sta (sdata.key id).pairwise old new
        answer =
      let told := (match new with
        | some new =>
          if (sdata.key id).sta.isSome ∧ (sdata.key id).pairwise then
            sdata.pairwiseRekey old new
          else sdata
        | none => sdata).replaceHw hw old new answer
      if told.2 then
        (told.1.replaceCommit ref (sdata.key id).sta slot old new (sdata.key id).keyidx, true)
      else (told.1, false) := by
  rcases hfits.resolve hlink with ⟨links, hresolve, hslot⟩
  refine ⟨links.1, ?_⟩
  have hsamelink : ¬∃ other ∈ old, (sdata.key other).linkId ≠ (sdata.key id).linkId := by
    rintro ⟨other, hother, hne⟩
    exact hne (hfits.alike hindexed (hold other hother)).1
  have hsameidx : decide (new.isSome = true ∧
      ∃ other ∈ old, (sdata.key other).keyidx ≠ (sdata.key id).keyidx) = false := by
    apply decide_eq_false
    rintro ⟨_, other, hother, hne⟩
    exact hne (hfits.alike hindexed (hold other hother)).2
  have hinside : ¬(((sdata.key id).cipher.isWep || (sdata.key id).pairwise) = true ∧
      4 ≤ (sdata.key id).keyidx) :=
    fun hboth => absurd (hfits.keyidx_lt hboth.1) (not_lt.mpr hboth.2)
  unfold keyReplace
  rw [hid]
  simp only [hresolve, hsameidx, Bool.or_false]
  refine (if_neg hsamelink).trans ((if_neg hinside).trans ?_)
  cases new <;> simp only [hslot]

end Commit

end KeySdata

end IwlwifiStack
