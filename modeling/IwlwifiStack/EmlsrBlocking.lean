import IwlwifiStack.EmlsrSwitch
import IwlwifiStack.LinkSelection

/-!
# Blocking EMLSR

A block removes the second link only where EMLSR is active when it comes.  A
change to two links that a selection has queued earlier is neither cancelled by
the block nor refused when its work runs.  Along the runs in which every block
meets an interface without such a change, or replaces it by an exit of its own,
and in which the exits take effect, a blocked interface does not keep two
active links.
-/

namespace IwlwifiStack

open ConditionedRun

namespace EmlsrVif

variable {autoEml : Bool} {hz : ℕ}

def DeactivationPending (r : EmlsrVif) : Prop :=
  r.activateLinksWork = true ∧ hweight16 r.desiredActiveLinks ≤ 1

def BlockEffective (r : EmlsrVif) : Prop :=
  r.emlsr.blockedReasons ≠ 0 → ¬ r.DeactivationPending →
    hweight16 r.activeLinks ≤ 1

/-! ## The condition -/

def NoPairQueued (r : EmlsrVif) : Prop :=
  r.activateLinksWork = true → hweight16 r.desiredActiveLinks ≤ 1

def Settled (r : EmlsrVif) : Prop :=
  r.NoPairQueued ∧ (hweight16 r.activeLinks ≤ 1 ∨ r.activateLinksWork = true)

/-- A block that finds the interface unblocked. -/
inductive BlockSafe (autoEml : Bool) (r : EmlsrVif) (linkToKeep : ℕ)
    (res : SwitchResults) : Bool → Prop
  | ignored (sync : Bool)
      (hignored : (!autoEml || !r.iwlMldVifHasEmlsrCap) = true) :
      BlockSafe autoEml r linkToKeep res sync
  | blocked (sync : Bool) (hblocked : r.emlsr.blockedReasons ≠ 0) :
      BlockSafe autoEml r linkToKeep res sync
  | settled (sync : Bool) (hsettled : r.Settled) :
      BlockSafe autoEml r linkToKeep res sync
  | deferred (hexits : r.exits autoEml .block = true)
      (hqueues : r.Queues (r.exitLinks linkToKeep)) :
      BlockSafe autoEml r linkToKeep res false
  | switched (hexits : r.exits autoEml .block = true)
      (hreaches : r.Reaches (r.exitLinks linkToKeep) res)
      (hqueued : r.NoPairQueued) :
      BlockSafe autoEml r linkToKeep res true

/-- An exit that sets the prevention on an unblocked interface. -/
inductive ExitSafe (autoEml : Bool) (r : EmlsrVif) (exit : EmlsrExit)
    (linkToKeep : ℕ) : Prop
  | ignored (hignored : r.exits autoEml exit = false)
  | blocked (hblocked : r.emlsr.blockedReasons ≠ 0)
  | settled (hsettled : r.Settled)
  | queued (hqueues : r.Queues (r.exitLinks linkToKeep))

/-- A deferred change that removes the second link of a blocked interface. -/
inductive ActivateSafe (r : EmlsrVif) (inReconfig : Bool)
    (res : SwitchResults) : Prop
  | unblocked (hunblocked : r.emlsr.blockedReasons = 0)
  | single (hsingle : hweight16 r.activeLinks ≤ 1)
  | reaches (hreconfig : inReconfig = false)
      (hreaches : r.Reaches r.desiredActiveLinks res)

/-! ## The invariant -/

def BlockSettled (r : EmlsrVif) : Prop :=
  r.emlsr.blockedReasons ≠ 0 → r.Settled

theorem BlockSettled.effective {r : EmlsrVif} (hsettled : r.BlockSettled) :
    r.BlockEffective := by
  intro hblocked hpending
  have hboth := hsettled hblocked
  cases hboth.2 with
  | inl hsingle => exact hsingle
  | inr hwork => exact absurd ⟨hwork, hboth.1 hwork⟩ hpending

theorem Settled.switches {r after : EmlsrVif} (hsettled : r.Settled)
    (h : r.Switches after r.activeLinks) : after.Settled := by
  unfold Settled NoPairQueued
  rw [h.activeLinks_eq, h.desiredActiveLinks, h.activateLinksWork]
  exact hsettled

theorem BlockSettled.switches {r after : EmlsrVif} (hsettled : r.BlockSettled)
    (h : r.Switches after r.activeLinks) : after.BlockSettled := by
  intro hblocked
  rw [h.blockedReasons] at hblocked
  exact (hsettled hblocked).switches h

theorem Settled.withEmlsr {r : EmlsrVif} (hsettled : r.Settled) (e : Emlsr) :
    ({ r with emlsr := e } : EmlsrVif).Settled :=
  hsettled

theorem BlockSettled.withEmlsr {r : EmlsrVif} (hsettled : r.BlockSettled)
    {e : Emlsr} (hfewer : r.emlsr.blockedReasons = 0 → e.blockedReasons = 0) :
    ({ r with emlsr := e } : EmlsrVif).BlockSettled :=
  fun hblocked => hsettled fun hzero => hblocked (hfewer hzero)

theorem Settled.async {r : EmlsrVif} (hsettled : r.Settled)
    {activeLinks : BitVec 16} (hsingle : hweight16 activeLinks ≤ 1) :
    (r.ieee80211SetActiveLinksAsync activeLinks).Settled := by
  cases r.async_cases activeLinks with
  | inl hqueued =>
      rw [hqueued.2]
      exact ⟨fun _ => hsingle, Or.inr rfl⟩
  | inr hrefused =>
      rw [hrefused.2]
      exact hsettled

theorem Queues.settled {r : EmlsrVif} {activeLinks : BitVec 16}
    (hqueues : r.Queues activeLinks) (hsingle : hweight16 activeLinks ≤ 1) :
    (r.ieee80211SetActiveLinksAsync activeLinks).Settled := by
  cases r.async_cases activeLinks with
  | inl hqueued =>
      rw [hqueued.2]
      exact ⟨fun _ => hsingle, Or.inr rfl⟩
  | inr hrefused => exact absurd hqueues hrefused.1

theorem hweight16_exitLinks (r : EmlsrVif) (linkToKeep : ℕ) :
    hweight16 (r.exitLinks linkToKeep) ≤ 1 :=
  hweight16_linkBit_le _

theorem Settled.setActiveLinks {r : EmlsrVif} (hsettled : r.Settled)
    {activeLinks : BitVec 16} (hsingle : hweight16 activeLinks ≤ 1)
    (res : SwitchResults) (jiffies : ℕ) :
    (r.ieee80211SetActiveLinks autoEml activeLinks res jiffies).2.Settled := by
  obtain ⟨final, hswitches, hfinal, -⟩ :=
    @ieee80211SetActiveLinks_switches autoEml r activeLinks res jiffies
  unfold Settled NoPairQueued
  rw [hswitches.activeLinks_eq, hswitches.desiredActiveLinks,
    hswitches.activateLinksWork]
  refine ⟨hsettled.1, ?_⟩
  have hweight := hweight16_and_le r.activeLinks activeLinks
  rcases hfinal with rfl | rfl | rfl
  · exact Or.inl hsingle
  · exact Or.inl (by omega)
  · exact hsettled.2

theorem Reaches.settled {r : EmlsrVif} {activeLinks : BitVec 16}
    {res : SwitchResults} (hreaches : r.Reaches activeLinks res)
    (hqueued : r.NoPairQueued) (jiffies : ℕ) :
    (r.ieee80211SetActiveLinks autoEml activeLinks res jiffies).2.Settled := by
  obtain ⟨final, hswitches, -, hok⟩ :=
    @ieee80211SetActiveLinks_switches autoEml r activeLinks res jiffies
  have hfinal := hok (hreaches.ok jiffies)
  subst hfinal
  unfold Settled NoPairQueued
  rw [hswitches.activeLinks_eq, hswitches.desiredActiveLinks,
    hswitches.activateLinksWork]
  exact ⟨hqueued, Or.inl hreaches.single⟩

/-! ## The operations -/

theorem Settled.exit {r : EmlsrVif} (hsettled : r.Settled) (sync : Bool)
    (exit : EmlsrExit) (linkToKeep : ℕ) (res : SwitchResults) (jiffies : ℕ) :
    (r.iwlMldExitEmlsr hz autoEml sync exit linkToKeep res
      jiffies).2.1.Settled := by
  cases hexits : r.exits autoEml exit with
  | false =>
      rw [exit_ignored sync hexits]
      exact hsettled
  | true =>
      obtain ⟨switched, hswitch, hresult⟩ :=
        @exit_cases autoEml hz sync r exit hexits linkToKeep res jiffies
      rw [hresult]
      apply Settled.withEmlsr
      have hsingle := r.hweight16_exitLinks linkToKeep
      cases hswitch with
      | deferred hdeferred =>
          rw [hdeferred]
          exact hsettled.async hsingle
      | switched hswitched =>
          rw [hswitched]
          exact hsettled.setActiveLinks hsingle res jiffies

theorem BlockSettled.exit {r : EmlsrVif} (hsettled : r.BlockSettled)
    {exit : EmlsrExit} {linkToKeep : ℕ}
    (hsafe : r.ExitSafe autoEml exit linkToKeep) (res : SwitchResults)
    (jiffies : ℕ) :
    (r.iwlMldExitEmlsr hz autoEml false exit linkToKeep res
      jiffies).2.1.BlockSettled := by
  cases hexits : r.exits autoEml exit with
  | false =>
      rw [exit_ignored false hexits]
      exact hsettled
  | true =>
      cases hsafe with
      | ignored hignored => simp [hignored] at hexits
      | blocked hblocked =>
          intro _
          exact (hsettled hblocked).exit false exit linkToKeep res jiffies
      | settled hquiet =>
          intro _
          exact hquiet.exit false exit linkToKeep res jiffies
      | queued hqueues =>
          intro _
          obtain ⟨switched, hswitch, hresult⟩ :=
            @exit_cases autoEml hz false r exit hexits linkToKeep res jiffies
          rw [hresult]
          apply Settled.withEmlsr
          cases hswitch with
          | deferred hdeferred =>
              rw [hdeferred]
              exact hqueues.settled (r.hweight16_exitLinks linkToKeep)

theorem BlockSettled.block {r : EmlsrVif} (hsettled : r.BlockSettled)
    {sync : Bool} (reason : EmlsrBlocked) {linkToKeep : ℕ}
    {res : SwitchResults} (hsafe : r.BlockSafe autoEml linkToKeep res sync)
    (jiffies : ℕ) :
    (r.iwlMldEmlsrBlock hz autoEml sync reason linkToKeep res
      jiffies).2.1.BlockSettled := by
  unfold iwlMldEmlsrBlock
  by_cases hignored : (!autoEml || !r.iwlMldVifHasEmlsrCap) = true
  · rw [if_pos hignored]
    exact hsettled
  rw [if_neg hignored]
  by_cases hset : r.emlsr.blocks reason = true
  · rw [if_pos hset]
    exact hsettled
  rw [if_neg hset]
  -- the reasons are written first; they do not enter the exit's decisions
  have hmarked : ∀ e : Emlsr,
      ({ r with emlsr := e } : EmlsrVif).exits autoEml .block =
        r.exits autoEml .block := fun _ => rfl
  have hlinks : ∀ e : Emlsr,
      ({ r with emlsr := e } : EmlsrVif).exitLinks linkToKeep =
        r.exitLinks linkToKeep := fun _ => rfl
  generalize ({ r.emlsr with
    blockedReasons := r.emlsr.blockedReasons ||| reason.mask } : Emlsr) = e
  intro _
  cases hsafe with
  | ignored _ hsafe => exact absurd hsafe hignored
  | blocked _ hblocked =>
      exact ((hsettled hblocked).withEmlsr e).exit sync .block linkToKeep res
        jiffies
  | settled _ hquiet =>
      exact (hquiet.withEmlsr e).exit sync .block linkToKeep res jiffies
  | deferred hexits hqueues =>
      rw [← hmarked e] at hexits
      obtain ⟨switched, hswitch, hresult⟩ :=
        @exit_cases autoEml hz false { r with emlsr := e } .block hexits
          linkToKeep res jiffies
      rw [hresult]
      apply Settled.withEmlsr
      cases hswitch with
      | deferred hdeferred =>
          rw [hdeferred]
          apply Queues.settled
          · rw [hlinks]
            exact ⟨hqueues.nonzero, hqueues.running, hqueues.usable,
              hqueues.changes⟩
          · exact hweight16_exitLinks _ linkToKeep
  | switched hexits hreaches hqueued =>
      rw [← hmarked e] at hexits
      obtain ⟨switched, hswitch, hresult⟩ :=
        @exit_cases autoEml hz true { r with emlsr := e } .block hexits
          linkToKeep res jiffies
      rw [hresult]
      apply Settled.withEmlsr
      cases hswitch with
      | switched hswitched =>
          rw [hswitched]
          apply Reaches.settled
          · rw [hlinks]
            exact ⟨hreaches.nonzero, hreaches.single, hreaches.done⟩
          · exact hqueued

theorem BlockSettled.unblock {r : EmlsrVif} (hsettled : r.BlockSettled)
    (reason : EmlsrBlocked) :
    (r.iwlMldUnblockEmlsr autoEml reason).BlockSettled := by
  unfold iwlMldUnblockEmlsr
  split_ifs
  · exact hsettled
  · exact hsettled
  · apply hsettled.withEmlsr
    intro hzero
    simp only [hzero]
    exact BitVec.zero_and

theorem BlockSettled.blockTmpNonBss {r : EmlsrVif} (hsettled : r.BlockSettled)
    {res : SwitchResults}
    (hsafe : r.BlockSafe autoEml r.iwlMldGetPrimaryLink res true)
    (jiffies : ℕ) :
    (r.blockTmpNonBss hz autoEml res jiffies).1.BlockSettled := by
  have hblocked := @BlockSettled.block autoEml hz r hsettled true .tmpNonBss
    r.iwlMldGetPrimaryLink res hsafe jiffies
  simp only [EmlsrVif.blockTmpNonBss]
  split_ifs
  · exact hsettled
  · exact hblocked
  · exact hblocked.withEmlsr id

theorem BlockSettled.activateWork {r : EmlsrVif} (hsettled : r.BlockSettled)
    (hwork : r.activateLinksWork = true) {inReconfig : Bool}
    {res : SwitchResults} (hsafe : r.ActivateSafe inReconfig res)
    (jiffies : ℕ) :
    (r.ieee80211ActivateLinksWork autoEml inReconfig res
      jiffies).BlockSettled := by
  intro hblocked
  simp only [ieee80211ActivateLinksWork] at hblocked ⊢
  obtain ⟨final, hswitches, hfinal, hok⟩ :=
    @ieee80211SetActiveLinks_switches autoEml
      { r with activateLinksWork := false } r.desiredActiveLinks res jiffies
  have hbefore : r.emlsr.blockedReasons ≠ 0 := by
    cases inReconfig with
    | true => exact hblocked
    | false =>
        intro hzero
        apply hblocked
        rw [if_neg Bool.false_ne_true]
        simp only [hswitches.blockedReasons, hzero]
  have hdesired := (hsettled hbefore).1 hwork
  have hsingle : hweight16 final ≤ 1 ∨ ¬ hweight16 r.activeLinks ≤ 1 := by
    have hweight := hweight16_and_le r.activeLinks r.desiredActiveLinks
    rcases hfinal with rfl | rfl | rfl
    · exact Or.inl hdesired
    · left
      exact le_trans hweight hdesired
    · exact em _
  cases hsafe with
  | unblocked hunblocked => exact absurd hunblocked hbefore
  | single hone =>
      cases inReconfig with
      | true => exact ⟨fun h => absurd h Bool.false_ne_true, Or.inl hone⟩
      | false =>
          rw [if_neg Bool.false_ne_true]
          constructor
          · intro h
            rw [hswitches.activateLinksWork] at h
            cases h
          · left
            simp only [hswitches.activeLinks_eq]
            exact hsingle.resolve_right (not_not.mpr hone)
  | reaches hreconfig hreaches =>
      rw [hreconfig, if_neg Bool.false_ne_true]
      have hmarked : ({ r with activateLinksWork := false } :
          EmlsrVif).Reaches r.desiredActiveLinks res :=
        ⟨hreaches.nonzero, hreaches.single, hreaches.done⟩
      have hreached := hok (hmarked.ok jiffies)
      constructor
      · intro h
        rw [hswitches.activateLinksWork] at h
        cases h
      · left
        simp only [hswitches.activeLinks_eq]
        rw [hreached]
        exact hdesired

theorem BlockSettled.select {env : Cfg80211} {r : EmlsrVif}
    (hsettled : r.BlockSettled) (mld : IwlMld) (conf : MldVif env) (now : ℤ) :
    (r.selectLinks mld conf now).BlockSettled := by
  unfold selectLinks
  cases hselect : iwlMldSelectLinks mld (r.selectionView conf) now with
  | none => exact hsettled
  | some selection =>
      simp only
      generalize hchosen : ({ r with emlsr := { r.emlsr with
        selectedPrimary := selection.newPrimary
        selectedLinks := selection.newActive } } : EmlsrVif) = chosen
      have hsame : chosen.emlsr.blockedReasons = r.emlsr.blockedReasons := by
        rw [← hchosen]
      have hbefore : r.emlsr.blockedReasons ≠ 0 → chosen.Settled := by
        intro hblocked
        rw [← hchosen]
        exact (hsettled hblocked).withEmlsr _
      intro hblocked
      have hstill : r.emlsr.blockedReasons ≠ 0 := by
        rw [← hsame]
        cases chosen.async_cases selection.newActive with
        | inl hqueued =>
            rw [hqueued.2] at hblocked
            exact hblocked
        | inr hrefused =>
            rw [hrefused.2] at hblocked
            exact hblocked
      apply (hbefore hstill).async
      obtain ⟨best, -, -, hcase⟩ := selectLinks_cases hselect
      cases hcase with
      | single => exact hweight16_linkBit_le best.linkId
      | scanned hpossible =>
          exact absurd (emlsrPossible_unblocked hpossible) hstill

end EmlsrVif

/-! ## Runs -/

namespace EmlsrRun

variable {env : Cfg80211} {hz : ℕ} {autoEml : Bool}

/-- The condition on one event. -/
def BlockingSafe (autoEml : Bool) (r : EmlsrRun)
    (event : ℕ × EmlsrEvent env) : Prop :=
  match event.2 with
  | .exit exit linkToKeep => r.vif.ExitSafe autoEml exit linkToKeep
  | .block _ linkToKeep sync res => r.vif.BlockSafe autoEml linkToKeep res sync
  | .blockTmp res =>
      r.vif.BlockSafe autoEml r.vif.iwlMldGetPrimaryLink res true
  | .activateWork inReconfig res => r.vif.ActivateSafe inReconfig res
  | _ => True

theorem BlockSettled.performed {r after : EmlsrRun} {event : EmlsrEvent env}
    (hsettled : r.vif.BlockSettled)
    (hsafe : ∀ elapsed, r.BlockingSafe autoEml (elapsed, event))
    (hperformed : Performed hz autoEml r event after) :
    after.vif.BlockSettled := by
  have hcond := hsafe 0
  cases hperformed with
  | select mld conf now => exact hsettled.select _ conf now
  | exit exit linkToKeep _ res => exact hsettled.exit hcond res r.jiffies
  | block reason linkToKeep sync res _ =>
      exact hsettled.block reason hcond r.jiffies
  | blockTmp res _ => exact hsettled.blockTmpNonBss hcond r.jiffies
  | unblock reason _ => exact hsettled.unblock reason
  | activateWork inReconfig res hwork =>
      exact hsettled.activateWork hwork hcond r.jiffies
  | assign linkId ctx results =>
      exact hsettled.switches (r.vif.assign_switches linkId ctx results _)
  | unassign linkId otherLinks exits =>
      exact hsettled.switches (r.vif.unassign_switches linkId otherLinks exits)
  | preventTimer expiry _ _ => exact hsettled.withEmlsr id
  | tmpTimer expiry _ _ => exact hsettled.withEmlsr id
  | preventWork _ =>
      have hrunning := @EmlsrVif.BlockSettled.withEmlsr r.vif hsettled
        { r.vif.emlsr with preventDoneWk :=
          { r.vif.emlsr.preventDoneWk with queued := false } } id
      simp only [withVif, EmlsrVif.preventDone]
      split_ifs
      · exact hrunning
      · exact hrunning.unblock .prevention
  | tmpWork _ =>
      have hrunning := @EmlsrVif.BlockSettled.withEmlsr r.vif hsettled
        { r.vif.emlsr with tmpNonBssDoneWk :=
          { r.vif.emlsr.tmpNonBssDoneWk with queued := false } } id
      simp only [withVif, EmlsrVif.tmpNonBssDone]
      split_ifs
      · exact hrunning
      · exact hrunning.unblock .tmpNonBss

/-- From an unblocked interface, whatever comes in whatever order. -/
theorem block_effective {vif : EmlsrVif}
    (hunblocked : vif.emlsr.blockedReasons = 0) {r : EmlsrRun}
    (hreach : Reachable (@step env hz autoEml) (BlockingSafe autoEml)
      (initial vif) r) :
    r.vif.BlockEffective := by
  have hsettled : r.vif.BlockSettled := by
    apply @invariant_of_performed env hz autoEml _
      (fun r => r.vif.BlockSettled) (initial vif) _ _ r hreach
    · exact fun hblocked => absurd hunblocked hblocked
    · intro state elapsed event after hgood hallowed hperformed
      exact @BlockSettled.performed env hz autoEml
        { state with jiffies := state.jiffies + elapsed } after event hgood
        (fun _ => hallowed) hperformed
  exact hsettled.effective

/-! ## A run that keeps a pair and one that blocks in time -/

section Samples

def pairBlocked : EmlsrRun :=
  (initial (samplePair 3)).recorded ((samplePair 3).iwlMldEmlsrBlock 1000 true
    false .roc 0 switchSuccess 0).2

theorem pairBlocked_reachable :
    Reachable (@step sampleCfg80211 1000 true) (BlockingSafe true)
      (initial (samplePair 3)) pairBlocked := by
  apply Reachable.after .start (0, .block .roc 0 false switchSuccess) []
  · apply EmlsrVif.BlockSafe.deferred (by decide +kernel)
    constructor <;> decide +kernel
  · rfl

/-- An active pair is blocked and its second link removed. -/
theorem block_effective_pair :
    (samplePair 3).emlsr.blockedReasons = 0 ∧
      (pairBlocked.withVif (pairBlocked.vif.ieee80211ActivateLinksWork true
        false switchSuccess 0)).vif.BlockEffective := by
  constructor
  · rfl
  · apply @block_effective sampleCfg80211 1000 true (samplePair 3) rfl
    apply pairBlocked_reachable.after (0, .activateWork false switchSuccess) []
    · apply EmlsrVif.ActivateSafe.reaches rfl
      constructor
      · decide +kernel
      · decide +kernel
      · right
        refine ⟨rfl, by decide +kernel, Or.inr fun _ _ => rfl⟩
    · rfl

/-- A selection chooses both links, a remain-on-channel blocks EMLSR before it
is active, and the queued change activates the second link. -/
theorem block_ineffective :
    sampleStation.emlsr.blockedReasons = 0 ∧
      ∃ r, Reachable (@step sampleCfg80211 1000 true) (fun _ _ => True)
          (initial sampleStation) r ∧
        r.vif.emlsr.blockedReasons = EmlsrBlocked.roc.mask ∧
        r.vif.activateLinksWork = false ∧ hweight16 r.vif.activeLinks = 2 ∧
        ¬ r.vif.BlockEffective := by
  have hrun : (run (@step sampleCfg80211 1000 true) (initial sampleStation)
      [(0, .select sampleMld (sampleVif (-5000) 128) 0),
        (0, .block .roc 0 false switchSuccess),
        (0, .activateWork false switchSuccess)]).map (fun last =>
          (last.1.vif.emlsr.blockedReasons, last.1.vif.activateLinksWork,
            last.1.vif.activeLinks)) = some (4, false, 3) := by
    decide +kernel
  obtain ⟨last, hlast, hfields⟩ := Option.map_eq_some_iff.mp hrun
  simp only [Prod.mk.injEq] at hfields
  have hweight : hweight16 last.1.vif.activeLinks = 2 := by
    rw [hfields.2.2]
    decide
  refine ⟨rfl, last.1, reachable_of_run .start hlast, hfields.1, hfields.2.1,
    hweight, fun heffective => ?_⟩
  have hblocked : last.1.vif.emlsr.blockedReasons ≠ 0 := by
    rw [hfields.1]
    decide
  have hsingle := heffective hblocked fun hpending => by
    rw [EmlsrVif.DeactivationPending, hfields.2.1] at hpending
    exact absurd hpending.1 Bool.false_ne_true
  omega

end Samples

end EmlsrRun

end IwlwifiStack
