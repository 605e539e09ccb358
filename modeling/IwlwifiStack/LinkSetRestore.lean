import IwlwifiStack.LinkSetAtomic

/-!
# After a failed change of the links

The error path restores the tables and the valid links, but sets the dormant
links of the request; the active links change when those do not fit the old
links, or when there were none.
-/

namespace IwlwifiStack

namespace VifLinks

variable {env : SetLinksEnv} {old st start : VifLinks}
  {links : ℕ → Option ℕ} {newLinks dormantLinks : BitVec 16} {ret : ℤ}

theorem kfree_none (st : VifLinks) : (st.kfree fun _ => none) = st := by
  simp [kfree]

theorem grabLinks_eq_some {rem : BitVec 16} {id n : ℕ} :
    old.grabLinks rem id = some n ↔
      id ∈ linkIds rem ∧ old.link id = some (.container n) := by
  unfold grabLinks
  by_cases hid : id ∈ linkIds rem
  · rw [if_pos hid]
    cases hlink : old.link id with
    | none => simp
    | some ptr =>
        cases ptr with
        | deflink => simp
        | container m => simp [hid]
  · rw [if_neg hid]
    simp [hid]

/-! ## After a failure -/

/-- The configuration that a failed call shall leave alone. -/
structure SameConfig (old st : VifLinks) : Prop where
  valid_eq : st.validLinks = old.validLinks
  dormant_eq : st.dormantLinks = old.dormantLinks
  active_eq : st.activeLinks = old.activeLinks
  link_eq : st.link = old.link
  linkConf_eq : st.linkConf = old.linkConf

/-- An allocation failed, or the error path finds the right bitmaps in its
arguments: there were no links, the request has the dormant links of before
(and they leave the active links alone), or it names dormant links that do not
fit while neither dormant nor active links are set. -/
def Restores (env : SetLinksEnv) (old : VifLinks)
    (newLinks dormantLinks : BitVec 16) : Prop :=
  (∃ id ∈ old.addedLinks newLinks, env.allocFails id = true) ∨
  old.validLinks = 0 ∨
  dormantLinks = old.dormantLinks ∧
    (if old.type = .station then old.activeLinks ≠ 0
      else old.activeLinks = old.validLinks) ∨
  old.dormantLinks = 0 ∧ old.activeLinks = 0 ∧
    ¬LinkRequest old.validLinks dormantLinks

theorem failed_noMemory {mid : VifLinks} (hold : old.Consistent)
    (halloc : Allocated old (old.addedLinks newLinks) mid links)
    (hst : deinit env (old.validLinks = 0) (mid.kfree links) = some st) :
    st.Consistent ∧ SameConfig old st ∧ KeysKept old newLinks st := by
  obtain ⟨hsame, hlink, hconf⟩ := deinit_spec hst
  have hmid := halloc.same
  have hlink' : st.link = old.link := by
    have htable : (mid.kfree links).link = old.link := by
      rw [kfree, hmid]
    rw [hlink, htable]
    exact hold.deinit_link
  have hconf' : st.linkConf = old.link := by
    have htable : (mid.kfree links).linkConf = old.link := by
      rw [kfree, hmid]
      exact hold.tables
    rw [hconf, htable]
    exact hold.deinit_link
  have hvalid : st.validLinks = old.validLinks := by
    rw [hsame.valid_eq, kfree, hmid]
  have hdormant : st.dormantLinks = old.dormantLinks := by
    rw [hsame.dormant_eq, kfree, hmid]
  have hactive : st.activeLinks = old.activeLinks := by
    rw [hsame.active_eq, kfree, hmid]
  have hkeys : st.keys = old.keys := by
    rw [hsame.keys_eq, kfree, hmid]
  refine ⟨?_, ⟨hvalid, hdormant, hactive, hlink',
    hconf'.trans hold.tables.symm⟩, ?_⟩
  · apply hold.update hlink' hconf' hvalid
    · rw [hvalid, hdormant]
      exact hold.request
    · rw [hvalid, hactive]
      exact hold.idle
    · intro n
      rw [hsame.live_eq, mem_kfree]
      exact halloc.kfree (fun id hid => addedLinks_lt hid) hold.fresh n
    · rw [hsame.next_eq]
      exact halloc.next_le
  · exact ⟨hkeys ▸ List.Sublist.refl _,
      fun key hkey hlost => absurd (hkeys ▸ hkey) hlost⟩

theorem commitLinks_active {committed : ℤ × VifLinks}
    {toFree : ℕ → Option ℕ} (hrequest : LinkRequest newLinks dormantLinks)
    (hnew : newLinks ≠ 0)
    (hcommit : commitLinks env old toFree newLinks dormantLinks start =
      committed) (htype : start.type = .station)
    (hactive : start.activeLinks = old.activeLinks)
    (hzero : old.activeLinks ≠ 0) :
    committed.2.activeLinks = old.activeLinks := by
  rcases commitLinks_spec hcommit with ⟨-, rfl⟩ | ⟨-, hstate⟩
  · exact hactive
  · have htorn : (start.tearDownLinks toFree
        (old.removedLinks newLinks)).type = .station := htype
    have htornActive : (start.tearDownLinks toFree
        (old.removedLinks newLinks)).activeLinks = old.activeLinks := hactive
    rw [hstate, setVifLinksBitmaps, if_neg (hrequest.not_invalid hnew)]
    simp only [htorn, htornActive, if_pos hzero]

theorem restoreLinks_bitmaps (hold : old.Consistent)
    (hactive : old.type = .station → old.activeLinks ≠ 0 →
      st.activeLinks = old.activeLinks) (htype : st.type = old.type) :
    ((old.restoreLinks dormantLinks st).dormantLinks = old.dormantLinks ∧
      (old.restoreLinks dormantLinks st).activeLinks = old.activeLinks) ↔
      old.validLinks = 0 ∨
      dormantLinks = old.dormantLinks ∧
        (if old.type = .station then old.activeLinks ≠ 0
          else old.activeLinks = old.validLinks) ∨
      old.dormantLinks = 0 ∧ old.activeLinks = 0 ∧
        ¬LinkRequest old.validLinks dormantLinks := by
  unfold restoreLinks setVifLinksBitmaps
  by_cases hnone : old.validLinks = 0
  · rw [if_pos (Or.inl hnone)]
    have hdormant : old.dormantLinks = 0 := by
      apply LinkRequest.dormant_eq_zero
      rw [← hnone]
      exact hold.request
    simp [hnone, hdormant, hold.idle hnone]
  · by_cases hrequest : LinkRequest old.validLinks dormantLinks
    · rw [if_neg (hrequest.not_invalid hnone)]
      have hfits : ∀ same active : Prop,
          (old.validLinks = 0 ∨ same ∧ active ∨
            old.dormantLinks = 0 ∧ old.activeLinks = 0 ∧
              ¬LinkRequest old.validLinks dormantLinks) ↔ same ∧ active := by
        intro same active
        tauto
      rw [hfits]
      dsimp only
      apply and_congr_right
      intro _
      rw [htype]
      cases htypeOld : old.type with
      | station =>
          dsimp only
          rw [if_pos rfl]
          by_cases hzero : old.activeLinks = 0
          · have hset := hrequest.dormant_some hnone
            rw [hzero]
            by_cases hst : st.activeLinks = 0
            · rw [if_neg (not_not.mpr hst)]
              exact iff_of_false hset fun hne => hne rfl
            · rw [if_pos hst]
              exact iff_of_false hst fun hne => hne rfl
          · rw [hactive htypeOld hzero, if_pos hzero]
            exact iff_of_true rfl hzero
      | ap =>
          dsimp only
          rw [if_neg (by decide)]
          exact eq_comm
      | apVlan =>
          dsimp only
          rw [if_neg (by decide)]
          exact eq_comm
    · have hinvalid : old.validLinks = 0 ∨
          ~~~old.validLinks &&& dormantLinks ≠ 0 ∨
          old.validLinks &&& ~~~dormantLinks = 0 := by
        by_contra hok
        rw [not_or, not_or, not_not] at hok
        exact hrequest ⟨hold.request.last, hok.2.1, fun _ => hok.2.2⟩
      rw [if_pos hinvalid]
      have hother : dormantLinks ≠ old.dormantLinks := by
        intro heq
        rw [heq] at hrequest
        exact hrequest hold.request
      simp only [hnone, hother, hrequest, false_and, false_or, not_false_eq_true,
        and_true]
      exact and_congr eq_comm eq_comm

theorem failed_restored {committed : ℤ × VifLinks} (hold : old.Consistent)
    (hrequest : LinkRequest newLinks dormantLinks)
    (hprepared : Prepared env old newLinks links start)
    (hcommit : commitLinks env old
      (old.grabLinks (old.removedLinks newLinks)) newLinks dormantLinks
      start = committed) (hnew : newLinks ≠ 0)
    (hst : deinit env (old.validLinks = 0)
      ((old.restoreLinks dormantLinks committed.2).kfree links) = some st) :
    st.Consistent ∧ (SameConfig old st ↔
      Restores env old newLinks dormantLinks) ∧ KeysKept old newLinks st := by
  obtain ⟨mid, halloc, htype, hvalid, -, hactive, hkeys, hlive, hnext⟩ :=
    hprepared.frame
  obtain ⟨hctype, -, -, hclive, hcnext, hckeys⟩ :=
    commitLinks_frame hcommit hkeys hvalid
  have hframe := setVifLinksBitmaps_frame
    { committed.2 with link := old.link, linkConf := old.linkConf }
    old.validLinks dormantLinks
  have hbits := @setVifLinksBitmaps_bits old.validLinks dormantLinks
    { committed.2 with link := old.link, linkConf := old.linkConf }
    hold.request.last
  change (old.restoreLinks dormantLinks committed.2).type = _ ∧
    (old.restoreLinks dormantLinks committed.2).link = _ ∧
    (old.restoreLinks dormantLinks committed.2).linkConf = _ ∧
    (old.restoreLinks dormantLinks committed.2).keys = _ ∧
    (old.restoreLinks dormantLinks committed.2).live = _ ∧
    (old.restoreLinks dormantLinks committed.2).nextContainer = _ at hframe
  change (old.restoreLinks dormantLinks committed.2).validLinks = _ ∧
    LinkRequest _ (old.restoreLinks dormantLinks committed.2).dormantLinks ∧
    (_ → (old.restoreLinks dormantLinks committed.2).activeLinks = 0) at hbits
  have hbitmaps := @restoreLinks_bitmaps old committed.2 dormantLinks hold
    (fun hstation hzero => commitLinks_active hrequest hnew hcommit
      (htype.trans hstation) hactive hzero) (hctype.trans htype)
  obtain ⟨hsame, hlink, hconf⟩ := deinit_spec hst
  have hlink' : st.link = old.link := by
    rw [hlink]
    change (if _ then Function.update
      (old.restoreLinks dormantLinks committed.2).link 0 _ else
        (old.restoreLinks dormantLinks committed.2).link) = _
    rw [hframe.2.1]
    exact hold.deinit_link
  have hconf' : st.linkConf = old.link := by
    rw [hconf]
    change (if _ then Function.update
      (old.restoreLinks dormantLinks committed.2).linkConf 0 _ else
        (old.restoreLinks dormantLinks committed.2).linkConf) = _
    rw [hframe.2.2.1]
    dsimp only
    rw [hold.tables]
    exact hold.deinit_link
  have hvalid' : st.validLinks = old.validLinks :=
    hsame.valid_eq.trans hbits.1
  refine ⟨?_, ?_, ?_⟩
  · apply hold.update hlink' hconf' hvalid'
    · rw [hvalid', hsame.dormant_eq]
      exact hbits.2.1
    · rw [hvalid', hsame.active_eq]
      exact hbits.2.2
    · intro n
      rw [hsame.live_eq, mem_kfree, hframe.2.2.2.2.1]
      dsimp only
      rw [hclive, hlive]
      exact halloc.kfree (fun id hid => addedLinks_lt hid) hold.fresh n
    · rw [hsame.next_eq]
      change _ ≤ (old.restoreLinks dormantLinks committed.2).nextContainer
      rw [hframe.2.2.2.2.2]
      dsimp only
      rw [hcnext, hnext]
      exact halloc.next_le
  · have halloced : ¬∃ id ∈ old.addedLinks newLinks,
        env.allocFails id = true := by
      rintro ⟨id, hid, hfails⟩
      rw [hprepared.allocs id hid] at hfails
      cases hfails
    unfold Restores
    rw [or_iff_right halloced, ← hbitmaps]
    constructor
    · intro hconfig
      exact ⟨hsame.dormant_eq.symm.trans hconfig.dormant_eq,
        hsame.active_eq.symm.trans hconfig.active_eq⟩
    · rintro ⟨hdormant, hactive'⟩
      exact ⟨hvalid', hsame.dormant_eq.trans hdormant,
        hsame.active_eq.trans hactive', hlink',
        hconf'.trans hold.tables.symm⟩
  · have hkeys' : st.keys = committed.2.keys :=
      hsame.keys_eq.trans hframe.2.2.2.1
    exact ⟨hkeys' ▸ hckeys.sublist,
      fun key hkey hlost => hckeys.lost key hkey (hkeys' ▸ hlost)⟩

end VifLinks

end IwlwifiStack
