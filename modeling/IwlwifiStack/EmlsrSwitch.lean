import IwlwifiStack.EmlsrExitModel

/-!
# What a change of the active links keeps

The channel context callbacks and the changes of the active links write the
links, the EML flag, the entry data and the other interfaces.  Everything that
the blocking and exit functions maintain stays as it was.
-/

namespace IwlwifiStack

namespace EmlsrVif

variable {autoEml : Bool}

/-- `after` has the given active links and differs from `r` otherwise only in
what the driver's callbacks write. -/
def Switches (r after : EmlsrVif) (activeLinks : BitVec 16) : Prop :=
  ∃ links emlActive primary lastEntryTs others,
    after = { r with
      activeLinks := activeLinks
      links := links
      emlActive := emlActive
      emlsr := { r.emlsr with
        primary := primary
        lastEntryTs := lastEntryTs }
      others := others }

namespace Switches

variable {r mid after : EmlsrVif} {activeLinks between : BitVec 16}

theorem refl (r : EmlsrVif) : r.Switches r r.activeLinks :=
  ⟨r.links, r.emlActive, r.emlsr.primary, r.emlsr.lastEntryTs, r.others, rfl⟩

theorem trans (hfirst : r.Switches mid between)
    (hsecond : mid.Switches after activeLinks) :
    r.Switches after activeLinks := by
  obtain ⟨_, _, _, _, _, rfl⟩ := hfirst
  obtain ⟨links, emlActive, primary, lastEntryTs, others, rfl⟩ := hsecond
  exact ⟨links, emlActive, primary, lastEntryTs, others, rfl⟩

theorem activeLinks_eq (h : r.Switches after activeLinks) :
    after.activeLinks = activeLinks := by
  obtain ⟨_, _, _, _, _, rfl⟩ := h
  rfl

theorem running (h : r.Switches after activeLinks) :
    after.running = r.running := by
  obtain ⟨_, _, _, _, _, rfl⟩ := h
  rfl

theorem usableLinks (h : r.Switches after activeLinks) :
    after.usableLinks = r.usableLinks := by
  obtain ⟨_, _, _, _, _, rfl⟩ := h
  rfl

theorem desiredActiveLinks (h : r.Switches after activeLinks) :
    after.desiredActiveLinks = r.desiredActiveLinks := by
  obtain ⟨_, _, _, _, _, rfl⟩ := h
  rfl

theorem activateLinksWork (h : r.Switches after activeLinks) :
    after.activateLinksWork = r.activateLinksWork := by
  obtain ⟨_, _, _, _, _, rfl⟩ := h
  rfl

theorem hasEmlsrCap (h : r.Switches after activeLinks) :
    after.iwlMldVifHasEmlsrCap = r.iwlMldVifHasEmlsrCap := by
  obtain ⟨_, _, _, _, _, rfl⟩ := h
  rfl

theorem blockedReasons (h : r.Switches after activeLinks) :
    after.emlsr.blockedReasons = r.emlsr.blockedReasons := by
  obtain ⟨_, _, _, _, _, rfl⟩ := h
  rfl

theorem tmpNonBssDoneWk (h : r.Switches after activeLinks) :
    after.emlsr.tmpNonBssDoneWk = r.emlsr.tmpNonBssDoneWk := by
  obtain ⟨_, _, _, _, _, rfl⟩ := h
  rfl

end Switches

/-! ## The callbacks -/

theorem setLink_switches (r : EmlsrVif) (linkId : ℕ)
    (link : Option ChanctxLink) :
    r.Switches (r.setLink linkId link) r.activeLinks :=
  ⟨_, _, _, _, _, rfl⟩

theorem checkNonBssBlock_switches (r : EmlsrVif) (pending : ℤ)
    (otherLinks : ℕ) (exits : List ℤ) :
    r.Switches
      (r.iwlMldEmlsrCheckNonBssBlock autoEml pending otherLinks exits).2
      r.activeLinks :=
  ⟨_, _, _, _, _, rfl⟩

theorem indicateEml_switches (r : EmlsrVif) (jiffies : ℕ) :
    r.Switches (r.indicateEml jiffies) r.activeLinks := by
  simp only [indicateEml]
  by_cases htwo : hweight16 (linksBitmap r.hasChanCtx) > 1
  · rw [if_pos htwo]
    exact ⟨_, _, _, _, _, rfl⟩
  · rw [if_neg htwo]
    exact .refl r

theorem assignErr_switches (r : EmlsrVif) (linkId : ℕ) :
    r.Switches (r.assignErr linkId) r.activeLinks := by
  unfold assignErr
  cases r.links linkId with
  | none => exact .refl r
  | some link => exact r.setLink_switches linkId _

theorem activateLink_switches (r : EmlsrVif) (linkId : ℕ) (ret : ℤ) :
    r.Switches (r.iwlMldActivateLink linkId ret).2 r.activeLinks := by
  unfold iwlMldActivateLink
  cases r.links linkId with
  | none => exact .refl r
  | some link =>
      simp only
      by_cases hactive : link.active = true
      · rw [if_pos hactive]
        exact .refl r
      · rw [if_neg hactive]
        exact r.setLink_switches linkId _

theorem assignCommands_switches (r : EmlsrVif) (linkId : ℕ)
    (results : AssignResults) :
    r.Switches (r.assignCommands linkId results).2 r.activeLinks := by
  have hactivated := r.activateLink_switches linkId results.activate
  have herr := (r.iwlMldActivateLink linkId
    results.activate).2.assignErr_switches linkId
  rw [hactivated.activeLinks_eq] at herr
  unfold assignCommands
  by_cases hchange : results.changeLink ≠ 0
  · rw [if_pos hchange]
    exact r.assignErr_switches linkId
  · rw [if_neg hchange]
    cases results.canActivate with
    | false => exact .refl r
    | true =>
        simp only [if_true]
        by_cases hret : (r.iwlMldActivateLink linkId results.activate).1 ≠ 0
        · rw [if_pos hret]
          exact hactivated.trans herr
        · rw [if_neg hret]
          exact hactivated

theorem assign_switches (r : EmlsrVif) (linkId ctx : ℕ)
    (results : AssignResults) (jiffies : ℕ) :
    r.Switches (r.iwlMldAssignVifChanctx autoEml linkId ctx results jiffies).2
      r.activeLinks := by
  have hproper : ∀ tracked : EmlsrVif, ∀ link,
      r.Switches tracked r.activeLinks →
      r.Switches (((tracked.withChanCtx linkId ctx link).indicateEml
        jiffies).assignCommands linkId results).2 r.activeLinks := by
    intro tracked link htracked
    have hctx := tracked.setLink_switches linkId
      (some { link with chanCtx := some ctx })
    have heml := (tracked.withChanCtx linkId ctx link).indicateEml_switches
      jiffies
    have hcommands := ((tracked.withChanCtx linkId ctx link).indicateEml
      jiffies).assignCommands_switches linkId results
    have hall := (hctx.trans heml).trans hcommands
    rw [heml.activeLinks_eq] at hall
    have hsame : (tracked.withChanCtx linkId ctx link).activeLinks =
        r.activeLinks := by
      rw [← htracked.activeLinks_eq]
      rfl
    rw [hsame] at hall
    exact htracked.trans hall
  unfold iwlMldAssignVifChanctx
  cases r.links linkId with
  | none => exact .refl r
  | some link =>
      simp only
      have htracked := @checkNonBssBlock_switches autoEml r 1 0 results.exits
      by_cases htrack : link.chanCtx = none ∧ r.isNonBss = true
      · rw [if_pos htrack]
        by_cases hret :
            (r.iwlMldEmlsrCheckNonBssBlock autoEml 1 0 results.exits).1 ≠ 0
        · rw [if_pos hret]
          exact htracked
        · rw [if_neg hret]
          exact hproper _ link htracked
      · rw [if_neg htrack]
        exact hproper r link (.refl r)

theorem unassign_switches (r : EmlsrVif) (linkId otherLinks : ℕ)
    (exits : List ℤ) :
    r.Switches (r.iwlMldUnassignVifChanctx autoEml linkId otherLinks exits)
      r.activeLinks := by
  unfold iwlMldUnassignVifChanctx
  cases r.links linkId with
  | none => exact .refl r
  | some link =>
      simp only
      have hchecked := @checkNonBssBlock_switches autoEml r (-1) otherLinks exits
      split_ifs <;> exact ⟨_, _, _, _, _, rfl⟩

theorem removeLink_switches (r : EmlsrVif) (linkId : ℕ) :
    r.Switches (r.iwlMldRemoveLink linkId) r.activeLinks := by
  unfold iwlMldRemoveLink
  cases r.links linkId with
  | none => exact .refl r
  | some link =>
      simp only
      by_cases hactive : link.active = true
      · rw [if_pos hactive]
        exact .refl r
      · rw [if_neg hactive]
        exact r.setLink_switches linkId none

theorem addLink_switches (r : EmlsrVif) (linkId : ℕ) (ret : ℤ) :
    r.Switches (r.iwlMldAddLink linkId ret).2 r.activeLinks := by
  unfold iwlMldAddLink
  by_cases hret : ret ≠ 0
  · rw [if_pos hret]
    exact r.setLink_switches linkId none
  · rw [if_neg hret]
    cases r.links linkId with
    | some link => exact .refl r
    | none => exact r.setLink_switches linkId _

theorem foldl_switches {callback : EmlsrVif → ℕ → EmlsrVif}
    (hcallback : ∀ r linkId, EmlsrVif.Switches r (callback r linkId)
      r.activeLinks) (r : EmlsrVif) (ids : List ℕ) :
    r.Switches (ids.foldl callback r) r.activeLinks := by
  induction ids generalizing r with
  | nil => exact .refl r
  | cons linkId rest ih =>
      have hfirst := hcallback r linkId
      have hrest := ih (callback r linkId)
      rw [hfirst.activeLinks_eq] at hrest
      exact hfirst.trans hrest

theorem addLinks_switches (r : EmlsrVif) (adds : ℕ → ℤ) (ids : List ℕ) :
    r.Switches (r.addLinks adds ids).2 r.activeLinks := by
  induction ids generalizing r with
  | nil => exact .refl r
  | cons linkId rest ih =>
      have hfirst := r.addLink_switches linkId (adds linkId)
      have hrest := ih (r.iwlMldAddLink linkId (adds linkId)).2
      rw [hfirst.activeLinks_eq] at hrest
      simp only [addLinks]
      by_cases hret : (r.iwlMldAddLink linkId (adds linkId)).1 ≠ 0
      · rw [if_pos hret]
        exact hfirst
      · rw [if_neg hret]
        exact hfirst.trans hrest

theorem changeVifLinks_switches (inHwRestart errorBeforeRecovery : Bool)
    (r : EmlsrVif) (oldLinks newLinks : BitVec 16) (adds : ℕ → ℤ) :
    r.Switches (r.iwlMldChangeVifLinks inHwRestart errorBeforeRecovery oldLinks
      newLinks adds).2 r.activeLinks := by
  simp only [iwlMldChangeVifLinks]
  have hremoved := foldl_switches removeLink_switches r
    (linkIds (removedLinks inHwRestart oldLinks newLinks))
  generalize (linkIds (removedLinks inHwRestart oldLinks newLinks)).foldl
    iwlMldRemoveLink r = removed at hremoved ⊢
  have hadded := removed.addLinks_switches adds
    (linkIds (addedLinks oldLinks newLinks))
  rw [hremoved.activeLinks_eq] at hadded
  have hall := hremoved.trans hadded
  generalize removed.addLinks adds (linkIds (addedLinks oldLinks newLinks)) =
    added at hall ⊢
  by_cases hret : added.1 ≠ 0
  · rw [if_pos hret]
    have hundone := foldl_switches removeLink_switches added.2
      (linkIds (addedLinks oldLinks newLinks))
    rw [hall.activeLinks_eq] at hundone
    exact hall.trans hundone
  · rw [if_neg hret]
    obtain ⟨_, _, _, _, _, heq⟩ := hall
    rw [heq]
    exact ⟨_, _, _, _, _, rfl⟩

theorem addLinks_ok (r : EmlsrVif) {adds : ℕ → ℤ} {ids : List ℕ}
    (hadds : ∀ linkId ∈ ids, adds linkId = 0) :
    (r.addLinks adds ids).1 = 0 := by
  induction ids generalizing r with
  | nil => rfl
  | cons linkId rest ih =>
      have hfirst : (r.iwlMldAddLink linkId (adds linkId)).1 = 0 := by
        rw [hadds linkId List.mem_cons_self, iwlMldAddLink, if_neg (by simp)]
        cases r.links linkId <;> rfl
      simp only [addLinks]
      rw [if_neg (not_not.mpr hfirst)]
      exact ih _ fun other hother => hadds other (List.mem_cons_of_mem _ hother)

/-! ## Changes of the active links -/

theorem withActiveLinks_switches (r : EmlsrVif) (activeLinks : BitVec 16) :
    r.Switches { r with activeLinks := activeLinks } activeLinks :=
  ⟨_, _, _, _, _, rfl⟩

theorem finishSwitch_switches (res : SwitchResults) (r : EmlsrVif)
    (widened activeLinks rem : BitVec 16) :
    r.Switches (r.finishSwitch res widened activeLinks rem) activeLinks := by
  have hset := r.withActiveLinks_switches activeLinks
  simp only [finishSwitch]
  by_cases hrem : rem ≠ 0
  · rw [if_pos hrem]
    exact hset.trans (changeVifLinks_switches _ _ _ _ _ _)
  · rw [if_neg hrem]
    exact hset

theorem setActiveLinksOnce_switches (r : EmlsrVif) (activeLinks : BitVec 16)
    (res : SwitchResults) (jiffies : ℕ) :
    r.Switches (r.setActiveLinksOnce autoEml activeLinks res jiffies).2
      (if (r.setActiveLinksOnce autoEml activeLinks res jiffies).1 = 0 then
        activeLinks else r.activeLinks) := by
  unfold setActiveLinksOnce
  simp only
  by_cases hrunning : (!r.running) = true
  · rw [if_pos hrunning]
    exact .refl r
  rw [if_neg hrunning]
  by_cases husable : activeLinks &&& ~~~r.usableLinks ≠ 0
  · rw [if_pos husable]
    exact .refl r
  rw [if_neg husable]
  by_cases hsame : r.activeLinks = activeLinks
  · rw [if_pos hsame]
    have hrefl := Switches.refl r
    rw [hsame] at hrefl
    exact hrefl
  rw [if_neg hsame]
  have hadded : r.Switches
      (if activeLinks &&& ~~~r.activeLinks ≠ 0 then
        ({ r with activeLinks := r.activeLinks ||| activeLinks } :
          EmlsrVif).iwlMldChangeVifLinks res.inHwRestart res.errorBeforeRecovery
            r.activeLinks (r.activeLinks ||| activeLinks) res.adds
        else (0, r)).2
      (if activeLinks &&& ~~~r.activeLinks ≠ 0 then
        r.activeLinks ||| activeLinks else r.activeLinks) := by
    by_cases hadd : activeLinks &&& ~~~r.activeLinks ≠ 0
    · rw [if_pos hadd, if_pos hadd]
      exact (r.withActiveLinks_switches _).trans
        (changeVifLinks_switches _ _ _ _ _ _)
    · rw [if_neg hadd, if_neg hadd]
      exact .refl r
  generalize (if activeLinks &&& ~~~r.activeLinks ≠ 0 then
        ({ r with activeLinks := r.activeLinks ||| activeLinks } :
          EmlsrVif).iwlMldChangeVifLinks res.inHwRestart res.errorBeforeRecovery
            r.activeLinks (r.activeLinks ||| activeLinks) res.adds
        else (0, r)) = added at hadded ⊢
  by_cases hret : added.1 ≠ 0
  · rw [if_pos hret, if_neg hret]
    exact hadded.trans (added.2.withActiveLinks_switches r.activeLinks)
  · rw [if_neg hret, if_pos rfl]
    have hreleased := foldl_switches
      (fun r linkId => @unassign_switches autoEml r linkId 0 []) added.2
      (linkIds (r.activeLinks &&& ~~~activeLinks))
    have hused := foldl_switches
      (fun r linkId => @assign_switches autoEml r linkId (res.ctx linkId)
        (res.assigns linkId) jiffies)
      (added.2.releaseLinks autoEml (linkIds (r.activeLinks &&& ~~~activeLinks)))
      (linkIds (activeLinks &&& ~~~r.activeLinks))
    exact ((hadded.trans hreleased).trans hused).trans
      (finishSwitch_switches _ _ _ _ _)

/-- The change succeeds on a running interface with usable links, if the links
that come can be added. -/
theorem setActiveLinksOnce_ok (r : EmlsrVif) {activeLinks : BitVec 16}
    {res : SwitchResults} (jiffies : ℕ) (hrunning : r.running = true)
    (husable : activeLinks &&& ~~~r.usableLinks = 0)
    (hadds : res.errorBeforeRecovery = true ∨
      ∀ linkId ∈ linkIds (activeLinks &&& ~~~r.activeLinks),
        res.adds linkId = 0) :
    (r.setActiveLinksOnce autoEml activeLinks res jiffies).1 = 0 := by
  unfold setActiveLinksOnce
  simp only
  rw [if_neg (by simp [hrunning]), if_neg (not_not.mpr husable)]
  by_cases hsame : r.activeLinks = activeLinks
  · rw [if_pos hsame]
  rw [if_neg hsame]
  have hadded : (if activeLinks &&& ~~~r.activeLinks ≠ 0 then
        ({ r with activeLinks := r.activeLinks ||| activeLinks } :
          EmlsrVif).iwlMldChangeVifLinks res.inHwRestart res.errorBeforeRecovery
            r.activeLinks (r.activeLinks ||| activeLinks) res.adds
        else (0, r)).1 = 0 := by
    by_cases hadd : activeLinks &&& ~~~r.activeLinks ≠ 0
    · rw [if_pos hadd]
      have hnonzero : r.activeLinks ||| activeLinks ≠ 0 := by
        intro hzero
        apply hadd
        have hboth := BitVec.or_eq_zero_iff.mp hzero
        rw [hboth.2]
        exact BitVec.zero_and
      have hids : addedLinks r.activeLinks (r.activeLinks ||| activeLinks) =
          activeLinks &&& ~~~r.activeLinks := by
        rw [addedLinks, if_neg hnonzero]
        apply BitVec.eq_of_getLsbD_eq
        intro i hi
        simp only [BitVec.getLsbD_or, BitVec.getLsbD_and, BitVec.getLsbD_not, hi,
          decide_true, Bool.true_and]
        cases r.activeLinks.getLsbD i <;> cases activeLinks.getLsbD i <;> simp
      simp only [iwlMldChangeVifLinks, hids]
      cases hadds with
      | inl hrecovery =>
          simp only [hrecovery, if_true]
          split_ifs <;> rfl
      | inr hall =>
          rw [if_neg (not_not.mpr (addLinks_ok _ hall))]
    · rw [if_neg hadd]
  rw [if_neg (not_not.mpr hadded)]

theorem minusEinval_ne_zero : (-22 : ℤ) ≠ 0 := by decide

/-- The links end up as requested, reduced to those that stay, or as they
were; with success they are the requested ones. -/
theorem ieee80211SetActiveLinks_switches (r : EmlsrVif)
    (activeLinks : BitVec 16) (res : SwitchResults) (jiffies : ℕ) :
    ∃ final, r.Switches
        (r.ieee80211SetActiveLinks autoEml activeLinks res jiffies).2 final ∧
      (final = activeLinks ∨ final = r.activeLinks &&& activeLinks ∨
        final = r.activeLinks) ∧
      ((r.ieee80211SetActiveLinks autoEml activeLinks res jiffies).1 = 0 →
        final = activeLinks) := by
  unfold ieee80211SetActiveLinks
  by_cases hzero : activeLinks = 0
  · rw [if_pos hzero]
    exact ⟨_, .refl r, Or.inr (Or.inr rfl), fun h => absurd h minusEinval_ne_zero⟩
  rw [if_neg hzero]
  by_cases hsame : r.activeLinks = activeLinks
  · rw [if_pos hsame]
    exact ⟨_, .refl r, Or.inr (Or.inr rfl), fun _ => hsame⟩
  rw [if_neg hsame]
  by_cases hcan : (!r.iwlMldCanActivateLinks activeLinks) = true
  · rw [if_pos hcan]
    exact ⟨_, .refl r, Or.inr (Or.inr rfl), fun h => absurd h minusEinval_ne_zero⟩
  rw [if_neg hcan]
  by_cases hstay : r.activeLinks &&& activeLinks ≠ 0
  · rw [if_pos hstay]
    have hkept := @setActiveLinksOnce_switches autoEml r
      (r.activeLinks &&& activeLinks) res jiffies
    generalize r.setActiveLinksOnce autoEml (r.activeLinks &&& activeLinks) res
      jiffies = kept at hkept ⊢
    simp only
    by_cases hret : kept.1 = 0
    · rw [if_neg (not_not.mpr hret)]
      rw [if_pos hret] at hkept
      have hlast := @setActiveLinksOnce_switches autoEml kept.2 activeLinks res
        jiffies
      refine ⟨_, hkept.trans hlast, ?_, fun h => if_pos h⟩
      split_ifs
      · exact Or.inl rfl
      · exact Or.inr (Or.inl hkept.activeLinks_eq)
    · rw [if_pos hret]
      rw [if_neg hret] at hkept
      exact ⟨_, hkept, Or.inr (Or.inr rfl), fun h => absurd h hret⟩
  · rw [if_neg hstay]
    have honce := @setActiveLinksOnce_switches autoEml r activeLinks res jiffies
    refine ⟨_, honce, ?_, fun h => if_pos h⟩
    split_ifs
    · exact Or.inl rfl
    · exact Or.inr (Or.inr rfl)

theorem ieee80211SetActiveLinks_ok (r : EmlsrVif) {activeLinks : BitVec 16}
    {res : SwitchResults} (jiffies : ℕ) (hnonzero : activeLinks ≠ 0)
    (hcan : r.iwlMldCanActivateLinks activeLinks = true)
    (hrunning : r.running = true)
    (husable : activeLinks &&& ~~~r.usableLinks = 0)
    (hadds : res.errorBeforeRecovery = true ∨
      ∀ linkId ∈ linkIds (activeLinks &&& ~~~r.activeLinks),
        res.adds linkId = 0) :
    (r.ieee80211SetActiveLinks autoEml activeLinks res jiffies).1 = 0 := by
  unfold ieee80211SetActiveLinks
  rw [if_neg hnonzero]
  by_cases hsame : r.activeLinks = activeLinks
  · rw [if_pos hsame]
  rw [if_neg hsame, if_neg (by simp [hcan])]
  by_cases hstay : r.activeLinks &&& activeLinks ≠ 0
  · rw [if_pos hstay]
    have hstayUsable : r.activeLinks &&& activeLinks &&& ~~~r.usableLinks = 0 := by
      rw [BitVec.and_assoc, husable]
      exact BitVec.and_zero
    have hnone : r.activeLinks &&& activeLinks &&& ~~~r.activeLinks = 0 := by
      rw [BitVec.and_comm r.activeLinks, BitVec.and_assoc, BitVec.and_not_self]
      exact BitVec.and_zero
    have hkeptOk := @setActiveLinksOnce_ok autoEml r
      (r.activeLinks &&& activeLinks) res jiffies hrunning hstayUsable
      (Or.inr fun linkId hmem => by
        rw [hnone] at hmem
        simp [linkIds] at hmem)
    have hkept := @setActiveLinksOnce_switches autoEml r
      (r.activeLinks &&& activeLinks) res jiffies
    rw [if_pos hkeptOk] at hkept
    generalize r.setActiveLinksOnce autoEml (r.activeLinks &&& activeLinks) res
      jiffies = kept at hkept hkeptOk ⊢
    have hcome : activeLinks &&& ~~~kept.2.activeLinks =
        activeLinks &&& ~~~r.activeLinks := by
      rw [hkept.activeLinks_eq, BitVec.not_and, BitVec.and_or_distrib_left,
        BitVec.and_not_self]
      exact BitVec.or_zero
    simp only
    rw [if_neg (not_not.mpr hkeptOk)]
    apply setActiveLinksOnce_ok
    · rw [hkept.running]
      exact hrunning
    · rw [hkept.usableLinks]
      exact husable
    · rw [hcome]
      exact hadds
  · rw [if_neg hstay]
    exact setActiveLinksOnce_ok r jiffies hrunning husable hadds

/-! ## The deferred change -/

/-- What `ieee80211_set_active_links_async` checks. -/
structure Queues (r : EmlsrVif) (activeLinks : BitVec 16) : Prop where
  nonzero : activeLinks ≠ 0
  running : r.running = true
  usable : activeLinks &&& ~~~r.usableLinks = 0
  changes : r.activeLinks ≠ activeLinks

theorem async_cases (r : EmlsrVif) (activeLinks : BitVec 16) :
    (r.Queues activeLinks ∧ r.ieee80211SetActiveLinksAsync activeLinks =
        { r with desiredActiveLinks := activeLinks, activateLinksWork := true }) ∨
      (¬ r.Queues activeLinks ∧
        r.ieee80211SetActiveLinksAsync activeLinks = r) := by
  unfold ieee80211SetActiveLinksAsync
  by_cases hzero : activeLinks = 0
  · rw [if_pos hzero]
    exact Or.inr ⟨fun h => h.nonzero hzero, rfl⟩
  rw [if_neg hzero]
  by_cases hrunning : (!r.running) = true
  · rw [if_pos hrunning]
    refine Or.inr ⟨fun h => ?_, rfl⟩
    rw [h.running] at hrunning
    cases hrunning
  rw [if_neg hrunning]
  by_cases husable : activeLinks &&& ~~~r.usableLinks ≠ 0
  · rw [if_pos husable]
    exact Or.inr ⟨fun h => husable h.usable, rfl⟩
  rw [if_neg husable]
  by_cases hsame : r.activeLinks = activeLinks
  · rw [if_pos hsame]
    exact Or.inr ⟨fun h => h.changes hsame, rfl⟩
  rw [if_neg hsame]
  exact Or.inl ⟨⟨hzero, by simpa using hrunning, not_not.mp husable, hsame⟩, rfl⟩

/-! ## Exits -/

def exitLinks (r : EmlsrVif) (linkToKeep : ℕ) : BitVec 16 :=
  linkBit (r.keptLink linkToKeep)

/-- What an exit does to the links before it records itself. -/
inductive ExitSwitch (autoEml : Bool) (r : EmlsrVif) (linkToKeep : ℕ)
    (res : SwitchResults) (jiffies : ℕ) (switched : ℤ × EmlsrVif) : Bool → Prop
  | deferred (hdeferred : switched =
      (0, r.ieee80211SetActiveLinksAsync (r.exitLinks linkToKeep))) :
      ExitSwitch autoEml r linkToKeep res jiffies switched false
  | switched (hswitched : switched =
      r.ieee80211SetActiveLinks autoEml (r.exitLinks linkToKeep) res jiffies) :
      ExitSwitch autoEml r linkToKeep res jiffies switched true

theorem exit_cases {hz : ℕ} (sync : Bool) {r : EmlsrVif} {exit : EmlsrExit}
    (hexits : r.exits autoEml exit = true) (linkToKeep : ℕ)
    (res : SwitchResults) (jiffies : ℕ) :
    ∃ switched,
      ExitSwitch autoEml r linkToKeep res jiffies switched sync ∧
      r.iwlMldExitEmlsr hz autoEml sync exit linkToKeep res jiffies =
        (switched.1, { switched.2 with
            emlsr := (switched.2.emlsr.iwlMldCheckEmlsrPrevention hz exit
              jiffies).1 },
          [(switched.2.emlsr.iwlMldCheckEmlsrPrevention hz exit jiffies).2]) := by
  unfold iwlMldExitEmlsr
  rw [if_neg (by simp [hexits])]
  cases sync with
  | false => exact ⟨_, .deferred rfl, rfl⟩
  | true => exact ⟨_, .switched rfl, rfl⟩

theorem exit_ignored {hz : ℕ} (sync : Bool) {r : EmlsrVif} {exit : EmlsrExit}
    (hexits : r.exits autoEml exit = false) (linkToKeep : ℕ)
    (res : SwitchResults) (jiffies : ℕ) :
    r.iwlMldExitEmlsr hz autoEml sync exit linkToKeep res jiffies =
      (0, r, []) := by
  unfold iwlMldExitEmlsr
  rw [if_pos (by simp [hexits])]

theorem check_blockedReasons {hz : ℕ} (e : Emlsr) (exit : EmlsrExit)
    (jiffies : ℕ) :
    (e.iwlMldCheckEmlsrPrevention hz exit jiffies).1.blockedReasons =
      if exit = .block then e.blockedReasons
      else e.blockedReasons ||| EmlsrBlocked.prevention.mask := by
  simp only [Emlsr.iwlMldCheckEmlsrPrevention]
  split_ifs <;> rfl

/-! ## Bits and weights -/

theorem blocks_or {reasons mask : BitVec 32} (reason : EmlsrBlocked)
    (hother : mask &&& reason.mask = 0) :
    decide ((reasons ||| mask) &&& reason.mask ≠ 0) =
      decide (reasons &&& reason.mask ≠ 0) := by
  have hsame : (reasons ||| mask) &&& reason.mask = reasons &&& reason.mask := by
    rw [BitVec.and_comm, BitVec.and_or_distrib_left,
      BitVec.and_comm _ mask, hother, BitVec.and_comm]
    exact BitVec.or_zero
  rw [hsame]

theorem blocks_and_not {reasons mask : BitVec 32} (reason : EmlsrBlocked)
    (hother : mask &&& reason.mask = 0) :
    decide ((reasons &&& ~~~mask) &&& reason.mask ≠ 0) =
      decide (reasons &&& reason.mask ≠ 0) := by
  have hsame : (reasons &&& ~~~mask) &&& reason.mask =
      reasons &&& reason.mask := by
    apply BitVec.eq_of_getLsbD_eq
    intro i hi
    have hbit := congrArg (fun bits => bits.getLsbD i) hother
    simp only [BitVec.getLsbD_and, BitVec.getLsbD_not, hi, decide_true,
      Bool.true_and] at hbit ⊢
    cases hmask : mask.getLsbD i with
    | false => simp
    | true =>
        rw [hmask, Bool.true_and] at hbit
        simp [hbit]
  rw [hsame]

theorem hweight16_linkBit_le (linkId : ℕ) : hweight16 (linkBit linkId) ≤ 1 := by
  by_cases hlt : linkId < 16
  · have hall : ∀ i : Fin 16, hweight16 (linkBit i.val) ≤ 1 := by decide
    exact hall ⟨linkId, hlt⟩
  · have hzero : linkBit linkId = 0 := by
      apply BitVec.eq_of_toNat_eq
      have hdvd : 2 ^ 16 ∣ 2 ^ linkId := Nat.pow_dvd_pow 2 (by omega)
      simpa [linkBit] using Nat.mod_eq_zero_of_dvd hdvd
    rw [hzero]
    decide

theorem hweight16_and_le (a b : BitVec 16) : hweight16 (a &&& b) ≤ hweight16 b := by
  unfold hweight16
  apply List.countP_mono_left
  intro i _ hbit
  rw [BitVec.getLsbD_and, Bool.and_eq_true] at hbit
  exact hbit.2

/-- At most one link is asked for, and the change meets no error. -/
structure Reaches (r : EmlsrVif) (activeLinks : BitVec 16)
    (res : SwitchResults) : Prop where
  nonzero : activeLinks ≠ 0
  single : hweight16 activeLinks ≤ 1
  done : r.activeLinks = activeLinks ∨
    (r.running = true ∧ activeLinks &&& ~~~r.usableLinks = 0 ∧
      (res.errorBeforeRecovery = true ∨
        ∀ linkId ∈ linkIds (activeLinks &&& ~~~r.activeLinks),
          res.adds linkId = 0))

theorem Reaches.ok {r : EmlsrVif} {activeLinks : BitVec 16}
    {res : SwitchResults} (hreaches : r.Reaches activeLinks res) (jiffies : ℕ) :
    (r.ieee80211SetActiveLinks autoEml activeLinks res jiffies).1 = 0 := by
  cases hreaches.done with
  | inl hsame =>
      unfold ieee80211SetActiveLinks
      rw [if_neg hreaches.nonzero, if_pos hsame]
  | inr hswitch =>
      have hsingle := hreaches.single
      have hcan : r.iwlMldCanActivateLinks activeLinks = true := by
        unfold iwlMldCanActivateLinks
        rw [decide_eq_true_eq]
        split_ifs <;> omega
      exact ieee80211SetActiveLinks_ok r jiffies hreaches.nonzero hcan
        hswitch.1 hswitch.2.1 hswitch.2.2

end EmlsrVif

/-! ## What one step can do -/

namespace EmlsrRun

variable {env : Cfg80211} {hz : ℕ} {autoEml : Bool}

/-- The steps with their guards. -/
inductive Performed (hz : ℕ) (autoEml : Bool) (r : EmlsrRun) :
    EmlsrEvent env → EmlsrRun → Prop
  | select (mld : IwlMld) (conf : MldVif env) (now : ℤ) :
      Performed hz autoEml r (.select mld conf now)
        (r.withVif (r.vif.selectLinks { mld with
          constants := { mld.constants with autoEmlEnable := autoEml } } conf
            now))
  | exit (exit : EmlsrExit) (linkToKeep : ℕ) (hexit : exit ≠ .block)
      (res : EmlsrVif.SwitchResults) :
      Performed hz autoEml r (.exit exit linkToKeep)
        (r.recorded (r.vif.iwlMldExitEmlsr hz autoEml false exit linkToKeep res
          r.jiffies).2)
  | block (reason : EmlsrBlocked) (linkToKeep : ℕ) (sync : Bool)
      (res : EmlsrVif.SwitchResults) (hcallable : callable reason = true) :
      Performed hz autoEml r (.block reason linkToKeep sync res)
        (r.recorded (r.vif.iwlMldEmlsrBlock hz autoEml sync reason linkToKeep
          res r.jiffies).2)
  | blockTmp (res : EmlsrVif.SwitchResults) (hrunning : r.vif.running = true) :
      Performed hz autoEml r (.blockTmp res)
        (r.recorded (r.vif.blockTmpNonBss hz autoEml res r.jiffies))
  | unblock (reason : EmlsrBlocked) (hcallable : callable reason = true) :
      Performed hz autoEml r (.unblock reason)
        (r.withVif (r.vif.iwlMldUnblockEmlsr autoEml reason))
  | activateWork (inReconfig : Bool) (res : EmlsrVif.SwitchResults)
      (hwork : r.vif.activateLinksWork = true) :
      Performed hz autoEml r (.activateWork inReconfig res)
        (r.withVif (r.vif.ieee80211ActivateLinksWork autoEml inReconfig res
          r.jiffies))
  | assign (linkId ctx : ℕ) (results : EmlsrVif.AssignResults) :
      Performed hz autoEml r (.assign linkId ctx results)
        (r.withVif (r.vif.iwlMldAssignVifChanctx autoEml linkId ctx results
          r.jiffies).2)
  | unassign (linkId otherLinks : ℕ) (exits : List ℤ) :
      Performed hz autoEml r (.unassign linkId otherLinks exits)
        (r.withVif (r.vif.iwlMldUnassignVifChanctx autoEml linkId otherLinks
          exits))
  | preventTimer (expiry : ℕ)
      (htimer : r.vif.emlsr.preventDoneWk.timer = some expiry)
      (hexpired : expiry ≤ r.jiffies) :
      Performed hz autoEml r .preventTimer
        (r.withVif { r.vif with emlsr := { r.vif.emlsr with
          preventDoneWk := ⟨none, true⟩ } })
  | preventWork (hqueued : r.vif.emlsr.preventDoneWk.queued = true) :
      Performed hz autoEml r .preventWork
        (r.withVif (r.vif.preventDone autoEml))
  | tmpTimer (expiry : ℕ)
      (htimer : r.vif.emlsr.tmpNonBssDoneWk.timer = some expiry)
      (hexpired : expiry ≤ r.jiffies) :
      Performed hz autoEml r .tmpTimer
        (r.withVif { r.vif with emlsr := { r.vif.emlsr with
          tmpNonBssDoneWk := ⟨none, true⟩ } })
  | tmpWork (hqueued : r.vif.emlsr.tmpNonBssDoneWk.queued = true) :
      Performed hz autoEml r .tmpWork (r.withVif (r.vif.tmpNonBssDone autoEml))

theorem fired_cases {work fires : DelayedWork} {jiffies : ℕ}
    (hfired : EmlsrVif.fired work jiffies = some fires) :
    fires = ⟨none, true⟩ ∧ ∃ expiry, work.timer = some expiry ∧
      expiry ≤ jiffies := by
  unfold EmlsrVif.fired at hfired
  cases htimer : work.timer with
  | none =>
      rw [htimer] at hfired
      cases hfired
  | some expiry =>
      rw [htimer] at hfired
      simp only at hfired
      by_cases hexpired : expiry ≤ jiffies
      · rw [if_pos hexpired, Option.some.injEq] at hfired
        exact ⟨hfired.symm, expiry, rfl, hexpired⟩
      · rw [if_neg hexpired] at hfired
        cases hfired

theorem guarded_eq_some {α : Type*} {guard : Bool} {value after : α}
    (hguarded : (if guard = true then some value else none) = some after) :
    guard = true ∧ value = after := by
  cases guard with
  | true =>
      rw [if_pos rfl, Option.some.injEq] at hguarded
      exact ⟨rfl, hguarded⟩
  | false =>
      rw [if_neg Bool.false_ne_true] at hguarded
      cases hguarded

theorem performed_of_perform {r after : EmlsrRun} {event : EmlsrEvent env}
    (hstep : r.perform hz autoEml event = some after) :
    Performed hz autoEml r event after := by
  cases event with
  | select mld conf now =>
      simp only [perform, Option.some.injEq] at hstep
      rw [← hstep]
      exact .select mld conf now
  | exit exit linkToKeep =>
      simp only [perform] at hstep
      by_cases hexit : exit = .block
      · rw [if_pos hexit] at hstep
        cases hstep
      · rw [if_neg hexit, Option.some.injEq] at hstep
        rw [← hstep]
        exact .exit exit linkToKeep hexit _
  | block reason linkToKeep sync res =>
      have hguarded := guarded_eq_some hstep
      rw [← hguarded.2]
      exact .block reason linkToKeep sync res hguarded.1
  | blockTmp res =>
      have hguarded := guarded_eq_some hstep
      rw [← hguarded.2]
      exact .blockTmp res hguarded.1
  | unblock reason =>
      have hguarded := guarded_eq_some hstep
      rw [← hguarded.2]
      exact .unblock reason hguarded.1
  | activateWork inReconfig res =>
      have hguarded := guarded_eq_some hstep
      rw [← hguarded.2]
      exact .activateWork inReconfig res hguarded.1
  | assign linkId ctx results =>
      simp only [perform, Option.some.injEq] at hstep
      rw [← hstep]
      exact .assign linkId ctx results
  | unassign linkId otherLinks exits =>
      simp only [perform, Option.some.injEq] at hstep
      rw [← hstep]
      exact .unassign linkId otherLinks exits
  | preventTimer =>
      obtain ⟨work, hfired, hafter⟩ := Option.map_eq_some_iff.mp hstep
      obtain ⟨hwork, expiry, htimer, hexpired⟩ := fired_cases hfired
      rw [← hafter, hwork]
      exact .preventTimer expiry htimer hexpired
  | preventWork =>
      have hguarded := guarded_eq_some hstep
      rw [← hguarded.2]
      exact .preventWork hguarded.1
  | tmpTimer =>
      obtain ⟨work, hfired, hafter⟩ := Option.map_eq_some_iff.mp hstep
      obtain ⟨hwork, expiry, htimer, hexpired⟩ := fired_cases hfired
      rw [← hafter, hwork]
      exact .tmpTimer expiry htimer hexpired
  | tmpWork =>
      have hguarded := guarded_eq_some hstep
      rw [← hguarded.2]
      exact .tmpWork hguarded.1

theorem invariant_of_performed {Allowed : EmlsrRun → ℕ × EmlsrEvent env → Prop}
    {Good : EmlsrRun → Prop} {start : EmlsrRun} (hstart : Good start)
    (hperformed : ∀ r elapsed event after, Good r →
      Allowed r (elapsed, event) →
      Performed hz autoEml { r with jiffies := r.jiffies + elapsed } event
        after → Good after)
    {r : EmlsrRun}
    (hreach : ConditionedRun.Reachable (@step env hz autoEml) Allowed start r) :
    Good r := by
  apply hreach.invariant hstart
  intro state event after output hgood hallowed hnext
  obtain ⟨next, hperform, heq⟩ := Option.map_eq_some_iff.mp hnext
  have hafter : next = after := congrArg Prod.fst heq
  subst hafter
  exact hperformed state event.1 event.2 next hgood hallowed
    (performed_of_perform hperform)

/-! ## Sample interfaces -/

section Samples

/-- Link 0 of two is active. -/
def sampleStation : EmlsrVif where
  p2p := false
  isMld := true
  emlsrSupported := true
  isCdb := false
  running := true
  usableLinks := 3
  activeLinks := 1
  desiredActiveLinks := 0
  activateLinksWork := false
  authorized := true
  links linkId := if linkId = 0 then some ⟨some 0, true⟩ else none
  emlActive := false
  emlsr := .zeroed
  others := []

def samplePair (usableLinks : BitVec 16) : EmlsrVif :=
  { sampleStation with
    usableLinks := usableLinks
    activeLinks := 3
    links := fun linkId => if linkId < 2 then some ⟨some linkId, true⟩ else none
    emlActive := true }

def switchSuccess : EmlsrVif.SwitchResults :=
  ⟨false, false, fun _ => 0, id, fun _ => .success⟩

end Samples

end EmlsrRun

end IwlwifiStack
