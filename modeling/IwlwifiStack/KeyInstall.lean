import IwlwifiStack.KeyOperations

/-!
# Keys from user space and from the driver

What `ieee80211_key_link` replaces is what is in the slot of the new key.
-/

namespace IwlwifiStack

namespace KeySdata

section Install

variable {hw : KeyHw} {sdata : KeySdata} {key : SwKey} {slot : KeySlot} {link : LinkRef}

/-- A pairwise key is replaced for a station that it is for, a link key by one with
its cipher. -/
theorem oldKey_eq (hindexed : sdata.Indexed) (hfits : sdata.Fits key slot)
    (hlink : sdata.LinkOf (some link) key) {old : Option ℕ}
    (hold : sdata.oldKey link key = some old) (haccepts : sdata.accepts hw old key) :
    old = sdata.slot slot := by
  unfold oldKey at hold
  cases hfits with
  | @pairwise sta hsta _ hpairwise _ _ =>
      simp only [hsta, hpairwise, if_true] at hold
      split_ifs at hold
      exact (Option.some.inj hold).symm
  | @staGroup sta id vifLink ref hsta _ hpairwise hid _ href _ _ =>
      simp only [hsta, hpairwise, hid, href, Bool.false_eq_true, if_false,
        Option.map_some] at hold
      exact (Option.some.inj hold).symm
  | wep hsta hpairwise hwep _ _ hlt =>
      simp only [hsta, hlt, if_true, Option.some.injEq] at hold
      cases hiface : sdata.slot (.iface key.keyidx) with
      | some other =>
          rw [hiface] at hold
          exact hold.symm
      | none =>
          rw [hiface] at hold
          cases hgroup : sdata.slot (.linkGtk link key.keyidx) with
          | none =>
              rw [hgroup] at hold
              exact hold.symm
          | some other =>
              rw [hgroup] at hold
              have hcipher := haccepts.1.resolve_left (by simp [hpairwise]) other hold.symm
              have hother := (hindexed.slot_key _ other hgroup).2
              generalize hplace : KeySlot.linkGtk link key.keyidx = place at hother
              cases hother with
              | group _ _ hnotWep _ _ _ =>
                  rw [hcipher, hwep] at hnotWep
                  cases hnotWep
              | pairwise => cases hplace
              | staGroup => cases hplace
              | wep => cases hplace
  | @group id ref hsta hpairwise hnotWep hid href _ =>
      have hsame : link = ref := by
        have hgiven := hlink link rfl id hid
        exact Option.some.inj (hgiven.symm.trans href)
      simp only [hsta, Option.some.injEq] at hold
      rw [← hsame]
      have hiface : (if key.keyidx < 4 then sdata.slot (.iface key.keyidx) else none) =
          none := by
        by_contra hsome
        rcases Option.ne_none_iff_exists'.mp hsome with ⟨other, hother⟩
        rw [hother] at hold
        have hcipher := haccepts.1.resolve_left (by simp [hpairwise]) other hold.symm
        split_ifs at hother
        have hotherFits := (hindexed.slot_key _ other hother).2
        generalize hplace : KeySlot.iface key.keyidx = place at hotherFits
        cases hotherFits with
        | wep _ _ hwep _ _ _ =>
            rw [hcipher, hnotWep] at hwep
            cases hwep
        | pairwise => cases hplace
        | staGroup => cases hplace
        | group => cases hplace
      rw [hiface] at hold
      exact hold.symm

def FailsOver (hw : KeyHw) (sdata : KeySdata) (link : LinkRef) (key : SwKey)
    (answer : KeyAnswer) : Prop :=
  (sdata.keyLink hw link key answer).2 = some false ∧
    ∃ old, sdata.oldKey link key = some (some old)

theorem Sound.keyLink (hsound : sdata.Sound hw []) (hfits : sdata.Fits key slot)
    (hlink : sdata.LinkOf (some link) key) (hdown : key.uploaded = false)
    (answer : KeyAnswer) (hfails : ¬sdata.FailsOver hw link key answer) :
    (sdata.keyLink hw link key answer).1.Sound hw [] := by
  unfold FailsOver at hfails
  unfold KeySdata.keyLink at hfails ⊢
  cases hold : sdata.oldKey link key with
  | none => exact hsound
  | some old =>
      rw [hold] at hfails
      dsimp only at hfails ⊢
      by_cases haccepts : sdata.accepts hw old key
      · rw [if_pos haccepts] at hfails ⊢
        have heq := oldKey_eq hsound.indexed hfits hlink hold haccepts
        have hadopted := hsound.adopt hdown
        have hself := adopt_self sdata key
        have hplaced : (sdata.adopt key).Fits ((sdata.adopt key).key sdata.nextKey) slot := by
          rw [hself]
          exact hfits.congr rfl rfl rfl rfl
        have hgiven : (sdata.adopt key).LinkOf (some link)
            ((sdata.adopt key).key sdata.nextKey) := by
          rw [hself]
          exact hlink
        have hinstalls := hadopted.install hplaced hgiven answer
        rw [hself, show (sdata.adopt key).slot slot = old from heq.symm] at hinstalls
        generalize (sdata.adopt key).keyReplace hw (some link) key.sta key.pairwise old
          (some sdata.nextKey) answer = result at hinstalls hfails ⊢
        by_cases hok : result.2 = true
        · rw [if_pos hok]
          have hdone := hinstalls.done hok
          rw [show (sdata.adopt key).slot slot = old from heq.symm] at hdone
          cases old with
          | none => exact hdone
          | some old => exact hdone.destroy _
        · rw [if_neg hok] at hfails ⊢
          have hnone : old = none := by
            cases old with
            | none => rfl
            | some old => exact absurd ⟨rfl, old, rfl⟩ hfails
          rcases hinstalls.failed (Bool.not_eq_true _ ▸ hok) with ⟨hfailed, hsame⟩
          have hstill : result.1.Fits (result.1.key sdata.nextKey) slot :=
            hplaced.congr (hsame.place _) hsame.stas hsame.validLinks hsame.staLink
          have hempty : result.1.slot slot = none := by
            rw [hsame.slot, show (sdata.adopt key).slot slot = old from heq.symm, hnone]
          exact (hfailed.abandon hstill hempty).destroy _
      · rw [if_neg haccepts]
        exact hsound

theorem addedKey_fits {linkId : Option ℕ} {added : SwKey}
    (hallows : sdata.Nl80211Allows linkId key)
    (hadded : sdata.addedKey linkId key = some (link, added)) {old : Option ℕ}
    (hold : sdata.oldKey link added = some old) :
    (∃ slot, sdata.Fits added slot) ∧ sdata.LinkOf (some link) added ∧
      added.uploaded = false := by
  rcases Option.bind_eq_some_iff.mp hadded with ⟨found, hfound, hchecks⟩
  rcases hallows with ⟨height, hwepLt, hkind⟩
  by_cases hcipher : key.cipher.isWep ∧ linkId.isSome ∨ key.cipher = .tkip ∧ linkId.isSome
  · rw [if_pos hcipher] at hchecks
    cases hchecks
  by_cases hunknown : ∃ sta ∈ key.sta, sta ∉ sdata.stas
  · rw [if_neg hcipher, if_pos hunknown] at hchecks
    cases hchecks
  rw [if_neg hcipher, if_neg hunknown] at hchecks
  injection hchecks with hpair
  injection hpair with hlink hkey
  subst hlink
  have hknown : ∀ sta, key.sta = some sta → sta ∈ sdata.stas := by
    intro sta heq
    by_contra hnot
    exact hunknown ⟨sta, heq, hnot⟩
  have hsta : added.sta = key.sta := by rw [← hkey]
  have hadded : added.pairwise = key.pairwise := by rw [← hkey]
  have hisWep : added.cipher = key.cipher := by rw [← hkey]
  have hidx : added.keyidx = key.keyidx := by rw [← hkey]
  have hid : added.linkId = if key.pairwise then none else some found.linkId := by
    rw [← hkey]
  have hdown : added.uploaded = false := by rw [← hkey]
  clear hkey
  rw [← hidx, ← hsta, ← hadded] at hkind
  rw [← hisWep, ← hidx] at hwepLt
  rw [← hidx] at height
  rw [← hsta] at hknown
  rw [← hadded] at hid
  by_cases hpairwise : added.pairwise = true
  · rw [if_pos hpairwise] at hkind hid
    rcases Option.isSome_iff_exists.mp hkind.1 with ⟨sta, hstaEq⟩
    refine ⟨⟨_, .pairwise hstaEq (hknown sta hstaEq) hpairwise hid hkind.2.2⟩, ?_, hdown⟩
    intro ref _ id hmem
    rw [hid] at hmem
    cases hmem
  · rw [if_neg hpairwise] at hkind hid
    have hnot : added.pairwise = false := by simpa using hpairwise
    have hresolved : sdata.link found.linkId = some found := by
      apply link_of_linkOrDeflink hfound
      intro hnone
      by_contra hmld
      have hsome := hkind.mpr hmld
      rw [hnone] at hsome
      cases hsome
    refine ⟨?_, ?_, hdown⟩
    · cases hstaEq : added.sta with
      | some sta =>
          unfold oldKey at hold
          simp only [hstaEq, hnot, hid, Bool.false_eq_true, if_false] at hold
          rcases Option.map_eq_some_iff.mp hold with ⟨ref, href, _⟩
          exact ⟨_, .staGroup hstaEq (hknown sta hstaEq) hnot hid hresolved href hwepLt
            height⟩
      | none =>
          by_cases hwep : added.cipher.isWep = true
          · have hnone : linkId = none := by
              by_contra hsome
              exact hcipher (.inl ⟨hisWep ▸ hwep, Option.isSome_iff_ne_none.mpr hsome⟩)
            rw [hnone] at hfound
            have hdeflink : found = .deflink := (Option.some.inj hfound).symm
            rw [hdeflink] at hid hresolved
            exact ⟨_, .wep hstaEq hnot hwep hid hresolved (hwepLt hwep)⟩
          · exact ⟨_, .group hstaEq hnot (by simpa using hwep) hid hresolved height⟩
    · intro ref href id hmem
      rw [← Option.some.inj href]
      rw [hid] at hmem
      rw [← Option.some.inj hmem]
      exact hresolved

theorem Sound.addKey (hsound : sdata.Sound hw []) {linkId : Option ℕ}
    (hallows : sdata.Nl80211Allows linkId key) (answer : KeyAnswer)
    (hfails : ∀ call ∈ sdata.addedKey linkId key, ¬sdata.FailsOver hw call.1 call.2 answer) :
    (sdata.addKey hw linkId key answer).1.Sound hw [] := by
  unfold KeySdata.addKey
  cases hadded : sdata.addedKey linkId key with
  | none => exact hsound
  | some call =>
      cases hold : sdata.oldKey call.1 call.2 with
      | none =>
          simp only [KeySdata.keyLink, hold]
          exact hsound
      | some old =>
          rcases addedKey_fits hallows hadded hold with ⟨⟨slot, hfits⟩, hlink, hdown⟩
          exact hsound.keyLink hfits hlink hdown answer (hfails call hadded)

theorem Indexed.group_key (hindexed : sdata.Indexed) {idx id : ℕ}
    (hslot : sdata.slot (.linkGtk link idx) = some id) :
    (sdata.key id).cipher.isWep = false ∧ sdata.link link.linkId = some link := by
  have hfits := (hindexed.slot_key _ id hslot).2
  generalize hplace : KeySlot.linkGtk link idx = place at hfits
  cases hfits with
  | group _ _ hnotWep _ href _ =>
      injection hplace with hlink _
      rw [hlink]
      exact ⟨hnotWep, linkId_link href ▸ href⟩
  | pairwise => cases hplace
  | staGroup => cases hplace
  | wep => cases hplace

theorem prevKey_slot {idx id : ℕ} (hprev : sdata.prevKey link idx = some id) :
    ∃ other, sdata.slot (.linkGtk link other) = some id := by
  unfold prevKey at hprev
  cases hslot : sdata.slot (.linkGtk link idx) with
  | some other =>
      rw [hslot] at hprev
      exact ⟨idx, hslot.trans hprev⟩
  | none =>
      rw [hslot] at hprev
      change (if idx < 4 then _ else _) = some id at hprev
      split_ifs at hprev
      · rcases List.exists_of_findSome?_eq_some hprev with ⟨other, _, hother⟩
        exact ⟨other, hother⟩
      · exact ⟨_, hprev⟩

theorem Sound.gtkRekeyAdd (hsound : sdata.Sound hw []) (idx : ℕ) (keyData : List UInt8)
    (linkId : Option ℕ) (answer : KeyAnswer)
    (hfails : ∀ call ∈ sdata.rekeyedKey hw idx keyData linkId,
      ¬sdata.FailsOver hw call.1 call.2 answer) :
    (sdata.gtkRekeyAdd hw idx keyData linkId answer).1.Sound hw [] := by
  unfold KeySdata.gtkRekeyAdd
  cases hrekeyed : sdata.rekeyedKey hw idx keyData linkId with
  | none => exact hsound
  | some call =>
      rcases Option.bind_eq_some_iff.mp hrekeyed with ⟨link, _, hchecks⟩
      dsimp only at hchecks
      split_ifs at hchecks with hstate
      rcases Option.bind_eq_some_iff.mp hchecks with ⟨prev, hprev, hlong⟩
      split_ifs at hlong with _
      have hcall := Option.some.inj hlong
      rcases prevKey_slot hprev with ⟨other, hslot⟩
      rcases hsound.indexed.group_key hslot with ⟨hnotWep, hresolved⟩
      have height : idx < 8 := by
        simp only [not_or, not_le] at hstate
        exact hstate.2.2
      have hfailsCall := hfails call hrekeyed
      rw [← hcall] at hfailsCall ⊢
      apply @Sound.keyLink hw sdata _ (.linkGtk link idx) link hsound _ _ rfl answer hfailsCall
      · exact .group rfl rfl hnotWep rfl hresolved height
      · rintro ref ⟨rfl⟩ id ⟨rfl⟩
        exact hresolved

theorem lookupKey_slot {linkId : Option ℕ} {idx id : ℕ} {pairwise : Bool}
    {sta : Option ℕ} (hlookup : sdata.lookupKey linkId idx pairwise sta = some id) :
    ∃ slot, sdata.slot slot = some id := by
  have heither : ∀ {first second : KeySlot} {allowed : Prop} [Decidable allowed],
      (sdata.slot first <|> (if allowed then sdata.slot second else none)) = some id →
        ∃ slot, sdata.slot slot = some id := by
    intro first second allowed _ hor
    cases hfirst : sdata.slot first with
    | some found =>
        rw [hfirst] at hor
        exact ⟨first, hfirst.trans hor⟩
    | none =>
        rw [hfirst] at hor
        change (if allowed then sdata.slot second else none) = some id at hor
        split_ifs at hor
        exact ⟨second, hor⟩
  unfold lookupKey at hlookup
  rcases Option.bind_eq_some_iff.mp hlookup with ⟨link, _, hfound⟩
  cases sta with
  | some sta =>
      by_cases hunknown : sta ∉ sdata.stas
      · exact absurd ((if_pos hunknown).symm.trans hfound)
          (Option.some_ne_none id).symm
      replace hfound := (if_neg hunknown).symm.trans hfound
      have hplaced : ∀ linkSta, (if pairwise = true ∧ idx < 4 then
          sdata.slot (.staPtk sta idx)
          else if (!pairwise) = true ∧ idx < 8 then sdata.slot (.staGtk sta linkSta idx)
          else none) = some id → ∃ slot, sdata.slot slot = some id := by
        intro linkSta hslot
        split_ifs at hslot
        · exact ⟨_, hslot⟩
        · exact ⟨_, hslot⟩
      cases linkId with
      | some linkId =>
          rcases Option.bind_eq_some_iff.mp hfound with ⟨linkSta, _, hslot⟩
          exact hplaced linkSta hslot
      | none => exact hplaced .deflink hfound
  | none =>
      by_cases hfew : pairwise = true ∧ idx < 4
      · exact ⟨_, (if_pos hfew).symm.trans hfound⟩
      · exact heither ((if_neg hfew).symm.trans hfound)

theorem Sound.delKey (hsound : sdata.Sound hw []) (linkId : Option ℕ) (idx : ℕ)
    (pairwise : Bool) (sta : Option ℕ) :
    (sdata.delKey hw linkId idx pairwise sta).Sound hw [] := by
  unfold KeySdata.delKey
  cases hlookup : sdata.lookupKey linkId idx pairwise sta with
  | none => exact hsound
  | some id =>
      rcases lookupKey_slot hlookup with ⟨slot, hslot⟩
      exact hsound.free (hsound.indexed.slot_key slot id hslot).1 _

end Install

end KeySdata

end IwlwifiStack
