import IwlwifiStack.ConditionedRun
import IwlwifiStack.EmlsrModel
import IwlwifiStack.SlotRing

/-!
# The EML-active flag and the channel contexts

An assignment sets the flag before its firmware commands and the error label
clears only the channel context.  Along the runs in which no command fails for
the second link of a pair, the flag tells whether two links have a context,
and an assignment that fails leaves everything as it was.
-/

namespace IwlwifiStack

open ConditionedRun

inductive ChanctxEvent
  | assign (linkId ctx : ℕ) (results : EmlsrVif.AssignResults) (jiffies : ℕ)
  | unassign (linkId otherLinks : ℕ) (exits : List ℤ)
  | changeLinks (inHwRestart errorBeforeRecovery : Bool)
      (oldLinks newLinks : BitVec 16) (adds : ℕ → ℤ)

namespace EmlsrVif

variable {autoEml : Bool}

/-- The outputs are the return values. -/
def chanctxStep (autoEml : Bool) (r : EmlsrVif) :
    ChanctxEvent → Option (EmlsrVif × List ℤ)
  | .assign linkId ctx results jiffies =>
      let (ret, after) :=
        r.iwlMldAssignVifChanctx autoEml linkId ctx results jiffies
      some (after, [ret])
  | .unassign linkId otherLinks exits =>
      some (r.iwlMldUnassignVifChanctx autoEml linkId otherLinks exits, [])
  | .changeLinks inHwRestart errorBeforeRecovery oldLinks newLinks adds =>
      let (ret, after) := r.iwlMldChangeVifLinks inHwRestart
        errorBeforeRecovery oldLinks newLinks adds
      some (after, [ret])

def FlagExact (r : EmlsrVif) : Prop :=
  r.emlActive = true ↔ 2 ≤ r.iwlMldCountActiveLinks

/-- What a failed assignment must leave alone. -/
structure Unchanged (r after : EmlsrVif) (linkId : ℕ) : Prop where
  chanCtx : (after.links linkId).map ChanctxLink.chanCtx =
    (r.links linkId).map ChanctxLink.chanCtx
  emlActive : after.emlActive = r.emlActive
  blockedReasons : after.emlsr.blockedReasons = r.emlsr.blockedReasons
  others : after.others = r.others

def FailureRestores (autoEml : Bool) (r : EmlsrVif) (linkId ctx : ℕ)
    (results : AssignResults) (jiffies : ℕ) : Prop :=
  (r.iwlMldAssignVifChanctx autoEml linkId ctx results jiffies).1 ≠ 0 →
    r.Unchanged
      (r.iwlMldAssignVifChanctx autoEml linkId ctx results jiffies).2 linkId

/-! ## The condition -/

def AssignResults.Succeed (results : AssignResults) (link : ChanctxLink) :
    Prop :=
  results.changeLink = 0 ∧
    (results.canActivate = true → link.active = false ∧ results.activate = 0)

def OthersBlocked (autoEml : Bool) (r : EmlsrVif) : Prop :=
  ∀ iface ∈ r.others, iface.hasEmlsrCap = true → autoEml = true →
    iface.blockedReasons &&& EmlsrBlocked.nonBss.mask ≠ 0

/-- The assignment succeeds, or what it did before its failure is undone: the
link had no context, it is not the second link with one, and no other
interface was blocked for it. -/
inductive AssignSafe (autoEml : Bool) (r : EmlsrVif) (linkId : ℕ)
    (results : AssignResults) : Prop
  | absent (hlink : r.links linkId = none)
  | succeeds (link : ChanctxLink) (hlink : r.links linkId = some link)
      (hexits : r.isNonBss = true → ∀ ret ∈ results.exits, ret = 0)
      (hcommands : results.Succeed link)
  | undone (link : ChanctxLink) (hlink : r.links linkId = some link)
      (hfree : link.chanCtx = none) (hcount : r.iwlMldCountActiveLinks ≠ 1)
      (hblocked : r.isNonBss = true → r.OthersBlocked autoEml)

def UnassignSafe (r : EmlsrVif) (linkId : ℕ) : Prop :=
  r.links linkId = none ∨ r.iwlMldCountActiveLinks ≤ 1 ∨
    (r.iwlMldCountActiveLinks = 2 ∧ r.hasChanCtx linkId = true)

def ChangeSafe (inHwRestart : Bool) (r : EmlsrVif)
    (oldLinks newLinks : BitVec 16) : Prop :=
  ∀ i, i ∈ linkIds (removedLinks inHwRestart oldLinks newLinks) ∨
    i ∈ linkIds (addedLinks oldLinks newLinks) → r.hasChanCtx i = false

def ChanctxSafe (autoEml : Bool) (r : EmlsrVif) : ChanctxEvent → Prop
  | .assign linkId _ results _ => r.AssignSafe autoEml linkId results
  | .unassign linkId _ _ => r.UnassignSafe linkId
  | .changeLinks inHwRestart _ oldLinks newLinks _ =>
      r.ChangeSafe inHwRestart oldLinks newLinks

/-! ## The number of links with a context -/

def holdsCtx (link : Option ChanctxLink) : Bool :=
  match link with
  | some link => link.chanCtx.isSome
  | none => false

theorem hasChanCtx_eq (r : EmlsrVif) (linkId : ℕ) :
    r.hasChanCtx linkId = holdsCtx (r.links linkId) := rfl

theorem count_setLink (r : EmlsrVif) {linkId : ℕ}
    (link : Option ChanctxLink) (hlt : linkId < 15) :
    (r.setLink linkId link).iwlMldCountActiveLinks +
        (if r.hasChanCtx linkId then 1 else 0) =
      r.iwlMldCountActiveLinks + (if holdsCtx link then 1 else 0) := by
  have htotal : ∀ q : EmlsrVif, q.iwlMldCountActiveLinks =
      SlotRing.total 15 (fun link => if holdsCtx link then 1 else 0) q.links :=
    fun q => SlotRing.countP_eq_total 15 holdsCtx q.links
  rw [htotal, htotal]
  exact SlotRing.total_update _ _ _ hlt

/-- The links are those of `mld_vif->link`, an array of 15. -/
def LinksInArray (r : EmlsrVif) : Prop :=
  ∀ i, 15 ≤ i → r.links i = none

theorem LinksInArray.lt {r : EmlsrVif} (harray : r.LinksInArray) {linkId : ℕ}
    {link : ChanctxLink} (hlink : r.links linkId = some link) :
    linkId < 15 := by
  by_contra hge
  rw [harray linkId (by omega)] at hlink
  cases hlink

theorem LinksInArray.setLink {r : EmlsrVif} (harray : r.LinksInArray)
    {linkId : ℕ} (hlt : linkId < 15) (link : Option ChanctxLink) :
    (r.setLink linkId link).LinksInArray := by
  intro i hi
  have hne : i ≠ linkId := by omega
  simp only [EmlsrVif.setLink]
  rw [Function.update_of_ne hne]
  exact harray i hi

/-! ## What an assignment does -/

theorem updateEmlsrBlock_ok (block : Bool) (reason : EmlsrBlocked)
    (others : List BssIface) {exits : List ℤ} (hexits : ∀ ret ∈ exits, ret = 0) :
    (updateEmlsrBlock autoEml block reason others exits).1 = 0 := by
  induction others generalizing exits with
  | nil => rfl
  | cons iface rest ih =>
      have htail := ih fun ret hret => hexits ret (List.mem_of_mem_tail hret)
      have hhead : exits.headD 0 = 0 := by
        cases exits with
        | nil => rfl
        | cons ret _ => exact hexits ret (by simp)
      simp only [updateEmlsrBlock, htail, hhead]
      split_ifs <;> rfl

theorem updateEmlsrBlock_blocked {reason : EmlsrBlocked}
    {others : List BssIface}
    (hblocked : ∀ iface ∈ others, iface.hasEmlsrCap = true → autoEml = true →
      iface.blockedReasons &&& reason.mask ≠ 0) (exits : List ℤ) :
    updateEmlsrBlock autoEml true reason others exits = (0, others) := by
  induction others generalizing exits with
  | nil => rfl
  | cons iface rest ih =>
      have hrest := ih (fun other hother =>
        hblocked other (List.mem_cons_of_mem _ hother)) exits.tail
      have hfirst := hblocked iface List.mem_cons_self
      simp only [updateEmlsrBlock, hrest]
      by_cases hcap : (!iface.hasEmlsrCap || !autoEml) = true
      · rw [if_pos hcap]
      · simp only [Bool.or_eq_true, Bool.not_eq_true', not_or,
          Bool.not_eq_false] at hcap
        rw [if_neg (by simp [hcap]), if_pos trivial,
          if_pos (hfirst hcap.1 hcap.2)]

theorem indicateEml_links (r : EmlsrVif) (jiffies : ℕ) :
    (r.indicateEml jiffies).links = r.links := by
  simp only [indicateEml]
  split_ifs <;> rfl

theorem indicateEml_others (r : EmlsrVif) (jiffies : ℕ) :
    (r.indicateEml jiffies).others = r.others := by
  simp only [indicateEml]
  split_ifs <;> rfl

theorem indicateEml_blockedReasons (r : EmlsrVif) (jiffies : ℕ) :
    (r.indicateEml jiffies).emlsr.blockedReasons = r.emlsr.blockedReasons := by
  simp only [indicateEml]
  split_ifs <;> rfl

theorem indicateEml_emlActive (r : EmlsrVif) (jiffies : ℕ) :
    (r.indicateEml jiffies).emlActive =
      (r.emlActive || decide (2 ≤ r.iwlMldCountActiveLinks)) := by
  have hweight : hweight16 (linksBitmap r.hasChanCtx) =
      r.iwlMldCountActiveLinks := hweight16_linksBitmap r.hasChanCtx
  simp only [indicateEml, hweight]
  by_cases htwo : r.iwlMldCountActiveLinks > 1
  · have htwo' : 2 ≤ r.iwlMldCountActiveLinks := htwo
    rw [if_pos htwo]
    simp [htwo']
  · have htwo' : ¬ 2 ≤ r.iwlMldCountActiveLinks := htwo
    rw [if_neg htwo]
    simp [htwo']

theorem assignCommands_cases {r : EmlsrVif} {linkId : ℕ} {link : ChanctxLink}
    (hlink : r.links linkId = some link) (results : AssignResults) :
    ∃ link', (r.assignCommands linkId results).2 =
        r.setLink linkId (some link') ∧
      ((r.assignCommands linkId results).1 = 0 →
        link'.chanCtx = link.chanCtx) ∧
      ((r.assignCommands linkId results).1 ≠ 0 →
        link'.chanCtx = none ∧ ¬ results.Succeed link) := by
  unfold assignCommands
  by_cases hchange : results.changeLink ≠ 0
  · rw [if_pos hchange]
    refine ⟨{ link with chanCtx := none }, ?_, fun h => absurd h hchange,
      fun _ => ⟨rfl, fun hok => hchange hok.1⟩⟩
    simp only [assignErr, hlink]
  · rw [if_neg hchange]
    by_cases hactivate : results.canActivate = true
    · rw [if_pos hactivate]
      simp only [iwlMldActivateLink, hlink]
      by_cases hactive : link.active = true
      · simp only [hactive, if_true]
        refine ⟨{ link with chanCtx := none }, ?_, fun h => ?_, fun _ =>
          ⟨rfl, fun hok => ?_⟩⟩
        · simp [assignErr, hlink]
        · simp at h
        · rw [(hok.2 hactivate).1] at hactive
          cases hactive
      · simp only [hactive]
        by_cases hret : results.activate = 0
        · refine ⟨{ link with active := true }, ?_, fun _ => rfl, fun h => ?_⟩
          · simp [hret]
          · simp [hret] at h
        · refine ⟨{ link with chanCtx := none, active := false }, ?_,
            fun h => ?_, fun _ => ⟨rfl, fun hok => hret (hok.2 hactivate).2⟩⟩
          · simp [hret, assignErr, setLink]
          · simp [hret] at h
    · rw [if_neg hactivate]
      refine ⟨link, ?_, fun _ => rfl, fun h => absurd rfl h⟩
      simp only [setLink, ← hlink, Function.update_eq_self]

def indicated (r : EmlsrVif) (others : List BssIface) (linkId ctx : ℕ)
    (link : ChanctxLink) (jiffies : ℕ) : EmlsrVif :=
  (({ r with others := others } : EmlsrVif).withChanCtx linkId ctx
    link).indicateEml jiffies

/-- After the other interfaces have been told, the assignment proper. -/
inductive AssignCase (autoEml : Bool) (r : EmlsrVif) (linkId ctx : ℕ)
    (results : AssignResults) (jiffies : ℕ) (link : ChanctxLink) :
    ℤ × EmlsrVif → Prop
  | refused (ret : ℤ) (others : List BssIface) (hret : ret ≠ 0)
      (hnonBss : r.isNonBss = true) (hexits : ∃ ret ∈ results.exits, ret ≠ 0)
      (hothers : ¬ r.OthersBlocked autoEml) :
      AssignCase autoEml r linkId ctx results jiffies link
        (ret, { r with others := others })
  | commands (ret : ℤ) (others : List BssIface) (link' : ChanctxLink)
      (hothers : others = r.others ∨
        (r.isNonBss = true ∧ ¬ r.OthersBlocked autoEml))
      (hzero : ret = 0 → link'.chanCtx = some ctx)
      (hret : ret ≠ 0 → link'.chanCtx = none ∧ ¬ results.Succeed link) :
      AssignCase autoEml r linkId ctx results jiffies link
        (ret, (r.indicated others linkId ctx link jiffies).setLink linkId (some link'))

theorem assign_cases {r : EmlsrVif} {linkId : ℕ} {link : ChanctxLink}
    (hlink : r.links linkId = some link) (ctx : ℕ) (results : AssignResults)
    (jiffies : ℕ) :
    AssignCase autoEml r linkId ctx results jiffies link
      (r.iwlMldAssignVifChanctx autoEml linkId ctx results jiffies) := by
  have hproper : ∀ others : List BssIface, (others = r.others ∨
      (r.isNonBss = true ∧ ¬ r.OthersBlocked autoEml)) →
      AssignCase autoEml r linkId ctx results jiffies link
        ((r.indicated others linkId ctx link jiffies).assignCommands linkId results) := by
    intro others hothers
    have hmarked : (r.indicated others linkId ctx link jiffies).links linkId =
          some { link with chanCtx := some ctx } := by
      rw [indicated, indicateEml_links]
      simp [withChanCtx, setLink]
    obtain ⟨link', hafter, hzero, hret⟩ := assignCommands_cases hmarked results
    have hcase := @AssignCase.commands autoEml r linkId ctx results jiffies link
      _ others link' hothers hzero hret
    rwa [← hafter] at hcase
  unfold iwlMldAssignVifChanctx
  simp only [hlink]
  by_cases htrack : link.chanCtx = none ∧ r.isNonBss = true
  · rw [if_pos htrack]
    simp only [iwlMldEmlsrCheckNonBssBlock]
    have hone : ¬ ((1 : ℤ) ≤ 0) := by norm_num
    simp only [hone, if_false, show decide ((1 : ℤ) ≠ 0) = true from rfl]
    by_cases hblocked : r.OthersBlocked autoEml
    · rw [updateEmlsrBlock_blocked hblocked]
      simp only [ne_eq, not_true_eq_false, if_false]
      exact hproper r.others (Or.inl rfl)
    · by_cases hret : (updateEmlsrBlock autoEml true .nonBss r.others
          results.exits).1 = 0
      · rw [if_neg (not_not.mpr hret)]
        exact hproper _ (Or.inr ⟨htrack.2, hblocked⟩)
      · rw [if_pos hret]
        refine .refused _ _ hret htrack.2 ?_ hblocked
        by_contra hnone
        push Not at hnone
        exact hret (updateEmlsrBlock_ok true .nonBss r.others hnone)
  · rw [if_neg htrack]
    simp only [ne_eq, not_true_eq_false, if_false]
    exact hproper r.others (Or.inl rfl)

theorem count_withChanCtx {r : EmlsrVif} {linkId ctx : ℕ} {link : ChanctxLink}
    (hlt : linkId < 15) :
    (r.withChanCtx linkId ctx link).iwlMldCountActiveLinks +
        (if r.hasChanCtx linkId then 1 else 0) =
      r.iwlMldCountActiveLinks + 1 := by
  have hcount := r.count_setLink (some { link with chanCtx := some ctx }) hlt
  simp only [holdsCtx, Option.isSome_some, if_true] at hcount
  exact hcount

theorem count_congr {r after : EmlsrVif}
    (hsame : ∀ i, after.hasChanCtx i = r.hasChanCtx i) :
    after.iwlMldCountActiveLinks = r.iwlMldCountActiveLinks := by
  unfold iwlMldCountActiveLinks
  apply List.countP_congr
  intro i _
  rw [hsame]

theorem count_indicated {r : EmlsrVif} {others : List BssIface}
    {linkId ctx jiffies : ℕ} {link : ChanctxLink}
    (hlink : r.links linkId = some link) (hlt : linkId < 15) :
    (r.indicated others linkId ctx link jiffies).iwlMldCountActiveLinks +
        (if link.chanCtx.isSome then 1 else 0) =
      r.iwlMldCountActiveLinks + 1 := by
  have hmarked := @count_withChanCtx { r with others := others } linkId ctx link
    hlt
  have hbefore : ({ r with others := others } : EmlsrVif).hasChanCtx linkId =
      link.chanCtx.isSome := by
    rw [hasChanCtx_eq]
    simp only [hlink, holdsCtx]
  rw [hbefore] at hmarked
  have hsame := @count_congr (({ r with others := others } :
      EmlsrVif).withChanCtx linkId ctx link)
    (r.indicated others linkId ctx link jiffies) fun i => by
      rw [hasChanCtx_eq, hasChanCtx_eq, indicated, indicateEml_links]
  rw [hsame]
  exact hmarked

theorem count_assigned {r : EmlsrVif} {others : List BssIface}
    {linkId ctx jiffies : ℕ} {link : ChanctxLink}
    (hlink : r.links linkId = some link) (hlt : linkId < 15)
    (link' : ChanctxLink) :
    ((r.indicated others linkId ctx link jiffies).setLink linkId
          (some link')).iwlMldCountActiveLinks +
        (if link.chanCtx.isSome then 1 else 0) =
      r.iwlMldCountActiveLinks + (if link'.chanCtx.isSome then 1 else 0) := by
  have hcount := @count_indicated r others linkId ctx jiffies link hlink hlt
  have hset := (r.indicated others linkId ctx link jiffies).count_setLink
    (some link') hlt
  have hctx :
      (r.indicated others linkId ctx link jiffies).hasChanCtx linkId = true := by
    rw [hasChanCtx_eq, indicated, indicateEml_links]
    simp [withChanCtx, setLink, holdsCtx]
  have hafter : holdsCtx (some link') = link'.chanCtx.isSome := rfl
  rw [hctx, if_pos rfl, hafter] at hset
  omega

theorem emlActive_indicated {r : EmlsrVif} {others : List BssIface}
    {linkId ctx jiffies : ℕ} {link : ChanctxLink} :
    (r.indicated others linkId ctx link jiffies).emlActive =
      (r.emlActive || decide
        (2 ≤ (r.indicated others linkId ctx link
          jiffies).iwlMldCountActiveLinks)) := by
  have hsame := @count_congr (({ r with others := others } :
      EmlsrVif).withChanCtx linkId ctx link)
    (r.indicated others linkId ctx link jiffies) fun i => by
      rw [hasChanCtx_eq, hasChanCtx_eq, indicated, indicateEml_links]
  rw [hsame]
  exact indicateEml_emlActive _ jiffies

theorem LinksInArray.assigned {r : EmlsrVif} (harray : r.LinksInArray)
    {others : List BssIface} {linkId ctx jiffies : ℕ} {link : ChanctxLink}
    (hlt : linkId < 15) (link' : ChanctxLink) :
    ((r.indicated others linkId ctx link jiffies).setLink linkId
      (some link')).LinksInArray := by
  have hmarked := @LinksInArray.setLink { r with others := others } harray
    linkId hlt (some { link with chanCtx := some ctx })
  apply LinksInArray.setLink _ hlt
  intro i hi
  rw [indicated, indicateEml_links]
  exact hmarked i hi

/-! ## One step -/

structure Good (r : EmlsrVif) : Prop where
  array : r.LinksInArray
  exact : r.FlagExact

theorem Good.assign {r : EmlsrVif} (hgood : r.Good) {linkId : ℕ} (ctx : ℕ)
    {results : AssignResults} (jiffies : ℕ)
    (hsafe : r.AssignSafe autoEml linkId results) :
    (r.iwlMldAssignVifChanctx autoEml linkId ctx results jiffies).2.Good ∧
      FailureRestores autoEml r linkId ctx results jiffies := by
  unfold FailureRestores
  cases hlink : r.links linkId with
  | none =>
      have hnone : r.iwlMldAssignVifChanctx autoEml linkId ctx results jiffies =
          (-22, r) := by
        unfold iwlMldAssignVifChanctx
        rw [hlink]
      rw [hnone]
      exact ⟨hgood, fun _ => ⟨rfl, rfl, rfl, rfl⟩⟩
  | some link =>
      have hlt := hgood.array.lt hlink
      have hcase := @assign_cases autoEml r linkId link hlink ctx results jiffies
      generalize r.iwlMldAssignVifChanctx autoEml linkId ctx results jiffies =
        result at hcase ⊢
      cases hcase with
      | refused ret others hret hnonBss hexits hothers =>
          exfalso
          cases hsafe with
          | absent habsent =>
              rw [hlink] at habsent
              cases habsent
          | succeeds _ _ hzero _ =>
              obtain ⟨exit, hmem, hne⟩ := hexits
              exact hne (hzero hnonBss exit hmem)
          | undone _ _ _ _ hblocked => exact hothers (hblocked hnonBss)
      | commands ret others link' hothers hzero hret =>
          have hcount := @count_assigned r others linkId ctx jiffies link hlink
            hlt link'
          have hindicated := @count_indicated r others linkId ctx jiffies link
            hlink hlt
          have hflag := @emlActive_indicated r others linkId ctx jiffies link
          have harray := @LinksInArray.assigned r hgood.array others linkId ctx
            jiffies link hlt link'
          have hbefore := hgood.exact
          unfold FlagExact at hbefore
          by_cases hok : ret = 0
          · -- the link has the new context
            refine ⟨⟨harray, ?_⟩, fun h => absurd hok h⟩
            rw [hzero hok, Option.isSome_some, if_pos rfl] at hcount
            change (r.indicated others linkId ctx link jiffies).emlActive = true ↔
              2 ≤ ((r.indicated others linkId ctx link jiffies).setLink linkId
                (some link')).iwlMldCountActiveLinks
            rw [hflag, Bool.or_eq_true, decide_eq_true_eq, hbefore]
            split_ifs at hcount hindicated <;> omega
          · obtain ⟨hnone, hfails⟩ := hret hok
            cases hsafe with
            | absent habsent =>
                rw [hlink] at habsent
                cases habsent
            | succeeds other hother _ hcommands =>
                rw [hlink, Option.some.injEq] at hother
                rw [← hother] at hcommands
                exact absurd hcommands hfails
            | undone other hother hfree hne hblocked =>
                rw [hlink, Option.some.injEq] at hother
                rw [← hother] at hfree
                rw [hnone, hfree, Option.isSome_none] at hcount
                rw [hfree, Option.isSome_none] at hindicated
                simp only [Bool.false_eq_true, if_false, Nat.add_zero]
                  at hcount hindicated
                -- not the second link: the flag has not moved
                have hsameFlag :
                    (r.indicated others linkId ctx link jiffies).emlActive =
                      r.emlActive := by
                  rw [hflag, Bool.eq_iff_iff, Bool.or_eq_true,
                    decide_eq_true_eq, hbefore]
                  omega
                refine ⟨⟨harray, ?_⟩, fun _ => ⟨?_, hsameFlag, ?_, ?_⟩⟩
                · change (r.indicated others linkId ctx link jiffies).emlActive =
                    true ↔ 2 ≤ ((r.indicated others linkId ctx link
                      jiffies).setLink linkId
                        (some link')).iwlMldCountActiveLinks
                  rw [hsameFlag, hcount]
                  exact hbefore
                · simp [setLink, hlink, hnone, hfree]
                · exact indicateEml_blockedReasons _ _
                · have hkept := indicateEml_others (({ r with others := others } :
                    EmlsrVif).withChanCtx linkId ctx link) jiffies
                  rcases hothers with hothers | ⟨hnonBss, hunblocked⟩
                  · exact hkept.trans hothers
                  · exact absurd (hblocked hnonBss) hunblocked

theorem Good.unassign {r : EmlsrVif} (hgood : r.Good) {linkId : ℕ}
    (otherLinks : ℕ) (exits : List ℤ) (hsafe : r.UnassignSafe linkId) :
    (r.iwlMldUnassignVifChanctx autoEml linkId otherLinks exits).Good := by
  unfold iwlMldUnassignVifChanctx
  cases hlink : r.links linkId with
  | none => exact hgood
  | some link =>
      have hlt := hgood.array.lt hlink
      have hset := r.count_setLink (some ⟨none, false⟩) hlt
      simp only [holdsCtx, Option.isSome_none, Bool.false_eq_true, if_false,
        Nat.add_zero] at hset
      have hbefore := hgood.exact
      unfold FlagExact at hbefore
      have hafter : ∀ others, (({ r with others := others, emlActive :=
          if r.iwlMldCountActiveLinks > 1 then false else r.emlActive } :
            EmlsrVif).setLink linkId (some ⟨none, false⟩)).Good := by
        intro others
        constructor
        · exact @LinksInArray.setLink r hgood.array linkId hlt _
        · change (if r.iwlMldCountActiveLinks > 1 then false else r.emlActive) =
            true ↔ 2 ≤ (r.setLink linkId
              (some ⟨none, false⟩)).iwlMldCountActiveLinks
          rcases hsafe with habsent | hone | ⟨htwo, hctx⟩
          · rw [hlink] at habsent
            cases habsent
          · rw [if_neg (by omega), hbefore]
            split_ifs at hset <;> omega
          · rw [if_pos (by omega)]
            rw [hctx, if_pos rfl] at hset
            simp only [Bool.false_eq_true, false_iff]
            omega
      by_cases hnonBss : r.isNonBss = true
      · have hgoodAfter := hafter (r.iwlMldEmlsrCheckNonBssBlock autoEml (-1)
          otherLinks exits).2.others
        simp only [hnonBss, if_true]
        by_cases htwo : r.iwlMldCountActiveLinks > 1
        · rw [if_pos htwo] at hgoodAfter ⊢
          exact hgoodAfter
        · rw [if_neg htwo] at hgoodAfter ⊢
          exact hgoodAfter
      · have hgoodAfter := hafter r.others
        simp only [hnonBss, Bool.false_eq_true, if_false]
        by_cases htwo : r.iwlMldCountActiveLinks > 1
        · rw [if_pos htwo] at hgoodAfter ⊢
          exact hgoodAfter
        · rw [if_neg htwo] at hgoodAfter ⊢
          exact hgoodAfter

/-- The contexts and the flag have not moved. -/
structure SameCtx (r after : EmlsrVif) : Prop where
  ctx : ∀ i, after.hasChanCtx i = r.hasChanCtx i
  emlActive : after.emlActive = r.emlActive
  array : r.LinksInArray → after.LinksInArray

theorem SameCtx.refl (r : EmlsrVif) : SameCtx r r :=
  ⟨fun _ => rfl, rfl, fun harray => harray⟩

theorem SameCtx.trans {r middle after : EmlsrVif}
    (hfirst : SameCtx r middle) (hsecond : SameCtx middle after) :
    SameCtx r after := by
  constructor
  · intro i
    rw [hsecond.ctx, hfirst.ctx]
  · rw [hsecond.emlActive, hfirst.emlActive]
  · exact fun harray => hsecond.array (hfirst.array harray)

theorem SameCtx.good {r after : EmlsrVif} (hsame : SameCtx r after)
    (hgood : r.Good) : after.Good := by
  constructor
  · exact hsame.array hgood.array
  · unfold FlagExact
    rw [hsame.emlActive, count_congr hsame.ctx]
    exact hgood.exact

theorem sameCtx_setLink {r : EmlsrVif} {linkId : ℕ} (hlt : linkId < 15)
    {link : Option ChanctxLink}
    (hsame : holdsCtx link = r.hasChanCtx linkId) :
    SameCtx r (r.setLink linkId link) := by
  constructor
  · intro i
    rw [hasChanCtx_eq]
    simp only [setLink]
    by_cases heq : i = linkId
    · rw [heq, Function.update_self, hsame]
    · rw [Function.update_of_ne heq, hasChanCtx_eq]
  · rfl
  · exact fun harray => harray.setLink hlt link

theorem sameCtx_removeLink {r : EmlsrVif} {linkId : ℕ} (hlt : linkId < 15)
    (hfree : r.hasChanCtx linkId = false) :
    SameCtx r (r.iwlMldRemoveLink linkId) := by
  unfold iwlMldRemoveLink
  cases r.links linkId with
  | none => exact .refl r
  | some link =>
      simp only
      by_cases hactive : link.active = true
      · rw [if_pos hactive]
        exact .refl r
      · rw [if_neg hactive]
        exact sameCtx_setLink hlt hfree.symm

theorem sameCtx_addLink {r : EmlsrVif} {linkId : ℕ} (hlt : linkId < 15)
    (hfree : r.hasChanCtx linkId = false) (ret : ℤ) :
    SameCtx r (r.iwlMldAddLink linkId ret).2 := by
  unfold iwlMldAddLink
  by_cases hret : ret ≠ 0
  · rw [if_pos hret]
    exact sameCtx_setLink hlt hfree.symm
  · rw [if_neg hret]
    cases r.links linkId with
    | none => exact sameCtx_setLink hlt hfree.symm
    | some link => exact .refl r

theorem sameCtx_removeLinks {ids : List ℕ} (hids : ∀ i ∈ ids, i < 15)
    {r : EmlsrVif} (hfree : ∀ i ∈ ids, r.hasChanCtx i = false) :
    SameCtx r (ids.foldl iwlMldRemoveLink r) := by
  induction ids generalizing r with
  | nil => exact .refl r
  | cons linkId rest ih =>
      have hfirst := sameCtx_removeLink (hids linkId List.mem_cons_self)
        (hfree linkId List.mem_cons_self)
      apply hfirst.trans
      apply ih fun i hi => hids i (List.mem_cons_of_mem _ hi)
      intro i hi
      rw [hfirst.ctx]
      exact hfree i (List.mem_cons_of_mem _ hi)

theorem sameCtx_addLinks {ids : List ℕ} (hids : ∀ i ∈ ids, i < 15)
    {r : EmlsrVif} (hfree : ∀ i ∈ ids, r.hasChanCtx i = false)
    (adds : ℕ → ℤ) : SameCtx r (r.addLinks adds ids).2 := by
  induction ids generalizing r with
  | nil => exact .refl r
  | cons linkId rest ih =>
      have hfirst := sameCtx_addLink (hids linkId List.mem_cons_self)
        (hfree linkId List.mem_cons_self) (adds linkId)
      simp only [addLinks]
      by_cases hret : (r.iwlMldAddLink linkId (adds linkId)).1 ≠ 0
      · rw [if_pos hret]
        exact hfirst
      · rw [if_neg hret]
        apply hfirst.trans
        apply ih fun i hi => hids i (List.mem_cons_of_mem _ hi)
        intro i hi
        rw [hfirst.ctx]
        exact hfree i (List.mem_cons_of_mem _ hi)

theorem linkIds_lt {mask : BitVec 16} : ∀ i ∈ linkIds mask, i < 15 := by
  intro i hi
  exact List.mem_range.mp (List.mem_of_mem_filter hi)

theorem Good.changeLinks {r : EmlsrVif} (hgood : r.Good)
    {inHwRestart errorBeforeRecovery : Bool} {oldLinks newLinks : BitVec 16}
    (adds : ℕ → ℤ) (hsafe : r.ChangeSafe inHwRestart oldLinks newLinks) :
    (r.iwlMldChangeVifLinks inHwRestart errorBeforeRecovery oldLinks newLinks
      adds).2.Good := by
  have hremoved := sameCtx_removeLinks linkIds_lt fun i hi =>
    hsafe i (Or.inl hi)
  have hadded := @sameCtx_addLinks _ linkIds_lt _ (fun i hi => by
    rw [hremoved.ctx]
    exact hsafe i (Or.inr hi)) adds
  have hboth := hremoved.trans hadded
  simp only [iwlMldChangeVifLinks]
  by_cases hret : (((linkIds (removedLinks inHwRestart oldLinks
      newLinks)).foldl iwlMldRemoveLink r).addLinks adds
        (linkIds (addedLinks oldLinks newLinks))).1 ≠ 0
  · rw [if_pos hret]
    apply SameCtx.good _ hgood
    apply hboth.trans
    apply sameCtx_removeLinks linkIds_lt
    intro i hi
    rw [hboth.ctx]
    exact hsafe i (Or.inr hi)
  · rw [if_neg hret]
    exact SameCtx.good ⟨hboth.ctx, hboth.emlActive, hboth.array⟩ hgood

theorem Good.afterStep {r after : EmlsrVif} {event : ChanctxEvent}
    {output : List ℤ} (hgood : r.Good) (hsafe : r.ChanctxSafe autoEml event)
    (hstep : r.chanctxStep autoEml event = some (after, output)) :
    after.Good := by
  cases event with
  | assign linkId ctx results jiffies =>
      simp only [chanctxStep, Option.some.injEq, Prod.mk.injEq] at hstep
      rw [← hstep.1]
      exact (hgood.assign ctx jiffies hsafe).1
  | unassign linkId otherLinks exits =>
      simp only [chanctxStep, Option.some.injEq, Prod.mk.injEq] at hstep
      rw [← hstep.1]
      exact hgood.unassign otherLinks exits hsafe
  | changeLinks inHwRestart errorBeforeRecovery oldLinks newLinks adds =>
      simp only [chanctxStep, Option.some.injEq, Prod.mk.injEq] at hstep
      rw [← hstep.1]
      exact hgood.changeLinks adds hsafe

/-! ## Whole runs -/

/-- An interface without links, as it is added. -/
structure NewVif (r : EmlsrVif) : Prop where
  links : ∀ i, r.links i = none
  emlActive : r.emlActive = false

theorem NewVif.good {r : EmlsrVif} (hnew : r.NewVif) : r.Good := by
  constructor
  · exact fun i _ => hnew.links i
  · have hzero : r.iwlMldCountActiveLinks = 0 := by
      apply List.countP_eq_zero.mpr
      intro i _
      simp [hasChanCtx_eq, hnew.links i, holdsCtx]
    unfold FlagExact
    rw [hnew.emlActive, hzero]
    simp

theorem emlActive_exact {r₀ r : EmlsrVif} (hnew : r₀.NewVif)
    (hreach : Reachable (chanctxStep autoEml) (ChanctxSafe autoEml) r₀ r) :
    r.FlagExact ∧ ∀ linkId ctx results jiffies,
      r.AssignSafe autoEml linkId results →
        FailureRestores autoEml r linkId ctx results jiffies := by
  have hgood : r.Good :=
    hreach.invariant hnew.good fun _ _ _ _ hgood hsafe hstep =>
      hgood.afterStep hsafe hstep
  constructor
  · exact hgood.exact
  · intro linkId ctx results jiffies hsafe
    exact (hgood.assign ctx jiffies hsafe).2

/-! ## The second link fails -/

section Samples

/-- An interface with two links of which the first has a context. -/
def newStation : EmlsrVif where
  p2p := false
  isMld := true
  emlsrSupported := true
  isCdb := false
  running := true
  usableLinks := 3
  activeLinks := 1
  desiredActiveLinks := 0
  activateLinksWork := false
  authorized := true
  links _ := none
  emlActive := false
  emlsr := .zeroed
  others := []

def twoLinksAdded : EmlsrVif :=
  (newStation.iwlMldChangeVifLinks false false 0 3 fun _ => 0).2

def firstAssigned : EmlsrVif :=
  (twoLinksAdded.iwlMldAssignVifChanctx true 0 7 .success 100).2

def secondRejected : AssignResults :=
  ⟨[], -5, true, 0⟩

theorem assignSafe_success {autoEml : Bool} {r : EmlsrVif} {linkId : ℕ}
    (hlink : r.links linkId = some ⟨none, false⟩) :
    r.AssignSafe autoEml linkId .success := by
  apply AssignSafe.succeeds ⟨none, false⟩ hlink
  · intro _ ret hret
    cases hret
  · exact ⟨rfl, fun _ => ⟨rfl, rfl⟩⟩

theorem twoLinksAdded_reachable :
    Reachable (chanctxStep true) (ChanctxSafe true) newStation twoLinksAdded := by
  apply Reachable.after .start (.changeLinks false false 0 3 fun _ => 0) [0]
  · intro i _
    rfl
  · rfl

theorem firstAssigned_reachable :
    Reachable (chanctxStep true) (ChanctxSafe true) newStation firstAssigned := by
  apply twoLinksAdded_reachable.after (.assign 0 7 .success 100) [0]
  · exact assignSafe_success rfl
  · rfl

def bothAssigned : EmlsrVif :=
  (firstAssigned.iwlMldAssignVifChanctx true 1 8 .success 200).2

theorem bothAssigned_reachable :
    Reachable (chanctxStep true) (ChanctxSafe true) newStation bothAssigned := by
  apply firstAssigned_reachable.after (.assign 1 8 .success 200) [0]
  · exact assignSafe_success rfl
  · rfl

/-- The flag is set with the second context.  An assignment to a new station's
first link that the firmware rejects leaves everything as it was. -/
theorem emlActive_exact_second :
    newStation.NewVif ∧ bothAssigned.iwlMldCountActiveLinks = 2 ∧
      bothAssigned.emlActive = true ∧ bothAssigned.FlagExact ∧
      (twoLinksAdded.iwlMldAssignVifChanctx true 0 7 secondRejected 100).1 = -5 ∧
      FailureRestores true twoLinksAdded 0 7 secondRejected 100 := by
  have hnew : newStation.NewVif := ⟨fun _ => rfl, rfl⟩
  have hsafe : twoLinksAdded.AssignSafe true 0 secondRejected := by
    apply AssignSafe.undone ⟨none, false⟩ rfl rfl
    · decide +kernel
    · intro _ iface hiface
      cases hiface
  refine ⟨hnew, by decide +kernel, by decide +kernel,
    (@emlActive_exact true newStation bothAssigned hnew
      bothAssigned_reachable).1, by decide +kernel, ?_⟩
  exact (@emlActive_exact true newStation twoLinksAdded hnew
    twoLinksAdded_reachable).2 0 7 secondRejected 100 hsafe

/-- The command for the second link fails: the flag stays set although only
one link has a context, so the failed call has changed it. -/
theorem emlActive_left_set :
    let result := firstAssigned.iwlMldAssignVifChanctx true 1 8 secondRejected
      200
    result.1 = -5 ∧ result.2.iwlMldCountActiveLinks = 1 ∧
      result.2.emlActive = true ∧ ¬ result.2.FlagExact ∧
      ¬ FailureRestores true firstAssigned 1 8 secondRejected 200 := by
  have hret : (firstAssigned.iwlMldAssignVifChanctx true 1 8 secondRejected
      200).1 = -5 := by decide +kernel
  have hcount : (firstAssigned.iwlMldAssignVifChanctx true 1 8 secondRejected
      200).2.iwlMldCountActiveLinks = 1 := by decide +kernel
  have hflag : (firstAssigned.iwlMldAssignVifChanctx true 1 8 secondRejected
      200).2.emlActive = true := by decide +kernel
  refine ⟨hret, hcount, hflag, fun hexact => ?_, fun hrestores => ?_⟩
  · have htwo := hexact.mp hflag
    rw [hcount] at htwo
    omega
  · have hkept := (hrestores (by rw [hret]; decide)).emlActive
    rw [hflag] at hkept
    exact absurd hkept (by decide +kernel)

end Samples

end EmlsrVif

end IwlwifiStack
