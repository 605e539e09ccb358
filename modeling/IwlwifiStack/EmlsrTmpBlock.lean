import IwlwifiStack.EmlsrSwitch
import IwlwifiStack.LinkSelection

/-!
# The temporary block expires

The reason bit is written before the synchronous exit is tried; the work that
clears it is queued only when that exit succeeds.  Along the runs in which it
succeeds the bit always has a work that will clear it.
-/

namespace IwlwifiStack

open ConditionedRun

/-- What the temporary block and its work read and write. -/
structure TmpBlock where
  hasEmlsrCap : Bool
  blocked : Bool
  work : DelayedWork
  deriving DecidableEq, Repr

namespace EmlsrVif

variable {autoEml : Bool} {hz : ℕ}

def tmpBlock (r : EmlsrVif) : TmpBlock :=
  ⟨r.iwlMldVifHasEmlsrCap, r.emlsr.blocks .tmpNonBss, r.emlsr.tmpNonBssDoneWk⟩

def TmpExpires (autoEml : Bool) (r : EmlsrVif) : Prop :=
  r.emlsr.blocks .tmpNonBss = true →
    r.emlsr.tmpNonBssDoneWk.isPending = true ∧
      (r.tmpNonBssDone autoEml).emlsr.blocks .tmpNonBss = false

def TmpBlockSafe (autoEml : Bool) (r : EmlsrVif) (res : SwitchResults) : Prop :=
  r.iwlMldVifHasEmlsrCap = true → r.emlsr.blocks .tmpNonBss = false →
    r.exits autoEml .block = true →
    r.Reaches (r.exitLinks r.iwlMldGetPrimaryLink) res

/-! ## Which operations leave the temporary block alone -/

theorem tmpBlock_withEmlsr {r : EmlsrVif} {e : Emlsr}
    (hblocks : e.blocks .tmpNonBss = r.emlsr.blocks .tmpNonBss)
    (hwork : e.tmpNonBssDoneWk = r.emlsr.tmpNonBssDoneWk) :
    ({ r with emlsr := e } : EmlsrVif).tmpBlock = r.tmpBlock := by
  unfold tmpBlock
  simp only [hblocks, hwork]
  rfl

theorem Switches.tmpBlock_eq {r after : EmlsrVif} {activeLinks : BitVec 16}
    (h : r.Switches after activeLinks) : after.tmpBlock = r.tmpBlock := by
  unfold tmpBlock Emlsr.blocks
  rw [h.hasEmlsrCap, h.blockedReasons, h.tmpNonBssDoneWk]

theorem tmpNonBss_disjoint {reason : EmlsrBlocked} (hne : reason ≠ .tmpNonBss) :
    reason.mask &&& EmlsrBlocked.tmpNonBss.mask = 0 := by
  cases reason with
  | tmpNonBss => exact absurd rfl hne
  | _ => decide

theorem async_tmpBlock (r : EmlsrVif) (activeLinks : BitVec 16) :
    (r.ieee80211SetActiveLinksAsync activeLinks).tmpBlock = r.tmpBlock := by
  cases r.async_cases activeLinks with
  | inl hqueued =>
      rw [hqueued.2]
      rfl
  | inr hrefused => rw [hrefused.2]

theorem setActiveLinks_tmpBlock (r : EmlsrVif) (activeLinks : BitVec 16)
    (res : SwitchResults) (jiffies : ℕ) :
    (r.ieee80211SetActiveLinks autoEml activeLinks res jiffies).2.tmpBlock =
      r.tmpBlock := by
  obtain ⟨final, hswitches, -, -⟩ :=
    @ieee80211SetActiveLinks_switches autoEml r activeLinks res jiffies
  exact hswitches.tmpBlock_eq

theorem check_tmpBlock (r : EmlsrVif) (exit : EmlsrExit) (jiffies : ℕ) :
    ({ r with emlsr := (r.emlsr.iwlMldCheckEmlsrPrevention hz exit jiffies).1 } :
      EmlsrVif).tmpBlock = r.tmpBlock := by
  apply tmpBlock_withEmlsr
  · unfold Emlsr.blocks
    rw [check_blockedReasons]
    by_cases hblock : exit = .block
    · rw [if_pos hblock]
    · rw [if_neg hblock]
      exact blocks_or .tmpNonBss (by decide)
  · simp only [Emlsr.iwlMldCheckEmlsrPrevention]
    split_ifs <;> rfl

theorem exit_tmpBlock (r : EmlsrVif) (sync : Bool) (exit : EmlsrExit)
    (linkToKeep : ℕ) (res : SwitchResults) (jiffies : ℕ) :
    (r.iwlMldExitEmlsr hz autoEml sync exit linkToKeep res
      jiffies).2.1.tmpBlock = r.tmpBlock := by
  cases hexits : r.exits autoEml exit with
  | false => rw [exit_ignored sync hexits]
  | true =>
      obtain ⟨switched, hswitch, hresult⟩ :=
        @exit_cases autoEml hz sync r exit hexits linkToKeep res jiffies
      rw [hresult]
      simp only [check_tmpBlock]
      cases hswitch with
      | deferred hdeferred =>
          rw [hdeferred]
          exact r.async_tmpBlock _
      | switched hswitched =>
          rw [hswitched]
          exact r.setActiveLinks_tmpBlock _ res jiffies

theorem block_tmpBlock (r : EmlsrVif) (sync : Bool) {reason : EmlsrBlocked}
    (hne : reason ≠ .tmpNonBss) (linkToKeep : ℕ) (res : SwitchResults)
    (jiffies : ℕ) :
    (r.iwlMldEmlsrBlock hz autoEml sync reason linkToKeep res
      jiffies).2.1.tmpBlock = r.tmpBlock := by
  unfold iwlMldEmlsrBlock
  split_ifs
  · rfl
  · rfl
  · rw [exit_tmpBlock]
    apply tmpBlock_withEmlsr
    · exact blocks_or .tmpNonBss (tmpNonBss_disjoint hne)
    · rfl

theorem unblock_tmpBlock (r : EmlsrVif) {reason : EmlsrBlocked}
    (hne : reason ≠ .tmpNonBss) :
    (r.iwlMldUnblockEmlsr autoEml reason).tmpBlock = r.tmpBlock := by
  unfold iwlMldUnblockEmlsr
  split_ifs
  · rfl
  · rfl
  · apply tmpBlock_withEmlsr
    · exact blocks_and_not .tmpNonBss (tmpNonBss_disjoint hne)
    · rfl

theorem activateWork_tmpBlock (r : EmlsrVif) (inReconfig : Bool)
    (res : SwitchResults) (jiffies : ℕ) :
    (r.ieee80211ActivateLinksWork autoEml inReconfig res jiffies).tmpBlock =
      r.tmpBlock := by
  simp only [ieee80211ActivateLinksWork]
  cases inReconfig with
  | true => rfl
  | false =>
      exact ({ r with activateLinksWork := false } :
        EmlsrVif).setActiveLinks_tmpBlock r.desiredActiveLinks res jiffies

theorem select_tmpBlock {env : Cfg80211} (r : EmlsrVif) (mld : IwlMld)
    (conf : MldVif env) (now : ℤ) :
    (r.selectLinks mld conf now).tmpBlock = r.tmpBlock := by
  unfold selectLinks
  cases iwlMldSelectLinks mld (r.selectionView conf) now with
  | none => rfl
  | some selection =>
      simp only [async_tmpBlock]
      rfl

/-! ## The invariant -/

/-- The bit is set only on an interface that the work can unblock, and the
work is pending then. -/
def TmpPending (autoEml : Bool) (r : EmlsrVif) : Prop :=
  r.emlsr.blocks .tmpNonBss = true →
    r.iwlMldVifHasEmlsrCap = true ∧ autoEml = true ∧
      r.emlsr.tmpNonBssDoneWk.isPending = true

theorem TmpPending.congr {r after : EmlsrVif} (hpending : r.TmpPending autoEml)
    (hsame : after.tmpBlock = r.tmpBlock) : after.TmpPending autoEml := by
  have hcap := congrArg TmpBlock.hasEmlsrCap hsame
  have hblocked := congrArg TmpBlock.blocked hsame
  have hwork := congrArg TmpBlock.work hsame
  simp only [tmpBlock] at hcap hblocked hwork
  intro hset
  rw [hblocked] at hset
  rw [hcap, hwork]
  exact hpending hset

theorem unblock_clears {r : EmlsrVif} (hcap : r.iwlMldVifHasEmlsrCap = true)
    (hset : r.emlsr.blocks .tmpNonBss = true) :
    (r.iwlMldUnblockEmlsr true .tmpNonBss).emlsr.blocks .tmpNonBss = false := by
  unfold iwlMldUnblockEmlsr
  rw [if_neg (by simp [hcap]), if_neg (by simp [hset])]
  have hclear : r.emlsr.blockedReasons &&& ~~~EmlsrBlocked.tmpNonBss.mask &&&
      EmlsrBlocked.tmpNonBss.mask = 0 := by
    rw [BitVec.and_assoc, BitVec.not_and_self]
    exact BitVec.and_zero
  simp only [Emlsr.blocks, hclear]
  rfl

theorem TmpPending.done {r : EmlsrVif} (hpending : r.TmpPending autoEml) :
    (r.tmpNonBssDone autoEml).emlsr.blocks .tmpNonBss = false := by
  simp only [tmpNonBssDone]
  cases hset : r.emlsr.blocks .tmpNonBss with
  | false =>
      simp only [Bool.not_false, if_true]
      exact hset
  | true =>
      have hboth := hpending hset
      rw [hboth.2.1]
      exact unblock_clears hboth.1 hset

theorem TmpPending.expires {r : EmlsrVif} (hpending : r.TmpPending autoEml) :
    r.TmpExpires autoEml :=
  fun hset => ⟨(hpending hset).2.2, hpending.done⟩

theorem TmpBlockSafe.ok {r : EmlsrVif} {res : SwitchResults}
    (hsafe : r.TmpBlockSafe autoEml res)
    (hcap : r.iwlMldVifHasEmlsrCap = true) (jiffies : ℕ) :
    (r.iwlMldEmlsrBlock hz autoEml true .tmpNonBss r.iwlMldGetPrimaryLink res
      jiffies).1 = 0 := by
  unfold iwlMldEmlsrBlock
  by_cases hignored : (!autoEml || !r.iwlMldVifHasEmlsrCap) = true
  · rw [if_pos hignored]
  rw [if_neg hignored]
  cases hset : r.emlsr.blocks .tmpNonBss with
  | true => rw [if_pos rfl]
  | false =>
      rw [if_neg Bool.false_ne_true]
      generalize ({ r.emlsr with blockedReasons := r.emlsr.blockedReasons |||
        EmlsrBlocked.tmpNonBss.mask } : Emlsr) = e
      cases hexits : r.exits autoEml .block with
      | false =>
          have hmarked : ({ r with emlsr := e } : EmlsrVif).exits autoEml
              .block = false := hexits
          rw [exit_ignored true hmarked]
      | true =>
          have hmarked : ({ r with emlsr := e } : EmlsrVif).exits autoEml
              .block = true := hexits
          obtain ⟨switched, hswitch, hresult⟩ :=
            @exit_cases autoEml hz true { r with emlsr := e } .block hmarked
              r.iwlMldGetPrimaryLink res jiffies
          have hreaches := hsafe hcap hset hexits
          have hsame : ({ r with emlsr := e } : EmlsrVif).Reaches
              (r.exitLinks r.iwlMldGetPrimaryLink) res :=
            ⟨hreaches.nonzero, hreaches.single, hreaches.done⟩
          rw [hresult]
          cases hswitch with
          | switched hswitched =>
              rw [hswitched]
              exact hsame.ok jiffies

theorem block_hasEmlsrCap (r : EmlsrVif) (sync : Bool) (reason : EmlsrBlocked)
    (linkToKeep : ℕ) (res : SwitchResults) (jiffies : ℕ) :
    (r.iwlMldEmlsrBlock hz autoEml sync reason linkToKeep res
      jiffies).2.1.iwlMldVifHasEmlsrCap = r.iwlMldVifHasEmlsrCap := by
  unfold iwlMldEmlsrBlock
  split_ifs
  · rfl
  · rfl
  · have hsame := congrArg TmpBlock.hasEmlsrCap (@exit_tmpBlock autoEml hz
      { r with emlsr := { r.emlsr with
        blockedReasons := r.emlsr.blockedReasons ||| reason.mask } }
      sync .block linkToKeep res jiffies)
    exact hsame

theorem TmpPending.blockTmpNonBss {r : EmlsrVif}
    (hpending : r.TmpPending autoEml) {res : SwitchResults}
    (hsafe : r.TmpBlockSafe autoEml res) (jiffies : ℕ) :
    (r.blockTmpNonBss hz autoEml res jiffies).1.TmpPending autoEml := by
  simp only [EmlsrVif.blockTmpNonBss]
  by_cases hcap : (!r.iwlMldVifHasEmlsrCap) = true
  · rw [if_pos hcap]
    exact hpending
  rw [if_neg hcap]
  have hhas : r.iwlMldVifHasEmlsrCap = true := by simpa using hcap
  rw [if_neg (not_not.mpr (hsafe.ok hhas jiffies))]
  intro hset
  refine ⟨?_, ?_, rfl⟩
  · have hsame := @block_hasEmlsrCap autoEml hz r true .tmpNonBss
      r.iwlMldGetPrimaryLink res jiffies
    rw [hhas] at hsame
    exact hsame
  · cases autoEml with
    | true => rfl
    | false => exact (hpending hset).2.1

end EmlsrVif

/-! ## Runs -/

namespace EmlsrRun

variable {env : Cfg80211} {hz : ℕ} {autoEml : Bool}

def TmpSafe (autoEml : Bool) (r : EmlsrRun)
    (event : ℕ × EmlsrEvent env) : Prop :=
  match event.2 with
  | .blockTmp res => r.vif.TmpBlockSafe autoEml res
  | _ => True

theorem callable_ne {reason : EmlsrBlocked} (hcallable : callable reason = true) :
    reason ≠ .prevention ∧ reason ≠ .tmpNonBss := by
  simpa [callable] using hcallable

theorem TmpPending.performed {r after : EmlsrRun} {event : EmlsrEvent env}
    (hpending : r.vif.TmpPending autoEml)
    (hsafe : ∀ elapsed, r.TmpSafe autoEml (elapsed, event))
    (hperformed : Performed hz autoEml r event after) :
    after.vif.TmpPending autoEml := by
  have hcond := hsafe 0
  cases hperformed with
  | select mld conf now =>
      exact hpending.congr (r.vif.select_tmpBlock _ conf now)
  | exit exit linkToKeep _ res =>
      exact hpending.congr
        (r.vif.exit_tmpBlock false exit linkToKeep res r.jiffies)
  | block reason linkToKeep sync res hcallable =>
      exact hpending.congr (r.vif.block_tmpBlock sync
        (callable_ne hcallable).2 linkToKeep res r.jiffies)
  | blockTmp res _ => exact hpending.blockTmpNonBss hcond r.jiffies
  | unblock reason hcallable =>
      exact hpending.congr (r.vif.unblock_tmpBlock (callable_ne hcallable).2)
  | activateWork inReconfig res _ =>
      exact hpending.congr
        (r.vif.activateWork_tmpBlock inReconfig res r.jiffies)
  | assign linkId ctx results =>
      exact hpending.congr
        (r.vif.assign_switches linkId ctx results r.jiffies).tmpBlock_eq
  | unassign linkId otherLinks exits =>
      exact hpending.congr
        (r.vif.unassign_switches linkId otherLinks exits).tmpBlock_eq
  | preventTimer expiry _ _ => exact hpending.congr rfl
  | preventWork _ =>
      apply hpending.congr
      simp only [withVif, EmlsrVif.preventDone]
      split_ifs
      · rfl
      · exact EmlsrVif.unblock_tmpBlock _ (by decide)
  | tmpTimer expiry _ _ =>
      intro hset
      have hboth := hpending hset
      exact ⟨hboth.1, hboth.2.1, rfl⟩
  | tmpWork _ =>
      intro hset
      simp only [withVif, hpending.done] at hset
      cases hset

/-- From an interface without the temporary block. -/
theorem tmp_block_expires {vif : EmlsrVif}
    (hclear : vif.emlsr.blocks .tmpNonBss = false) {r : EmlsrRun}
    (hreach : Reachable (@step env hz autoEml) (TmpSafe autoEml)
      (initial vif) r) :
    r.vif.TmpExpires autoEml := by
  have hpending : r.vif.TmpPending autoEml := by
    apply @invariant_of_performed env hz autoEml _
      (fun r => r.vif.TmpPending autoEml) (initial vif) _ _ r hreach
    · intro hset
      simp only [initial, hclear, Bool.false_eq_true] at hset
    · intro state elapsed event after hgood hallowed hperformed
      exact @TmpPending.performed env hz autoEml
        { state with jiffies := state.jiffies + elapsed } after event hgood
        (fun _ => hallowed) hperformed
  exact hpending.expires

/-! ## A block that fails and one that succeeds -/

section Samples

theorem tmp_block_expires_usable :
    (samplePair 3).emlsr.blocks .tmpNonBss = false ∧
      ((initial (samplePair 3)).recorded ((samplePair 3).blockTmpNonBss
        1000 true switchSuccess 0)).vif.TmpExpires true := by
  constructor
  · rfl
  · apply @tmp_block_expires sampleCfg80211 1000 true (samplePair 3) rfl
    apply Reachable.after .start (0, .blockTmp switchSuccess) []
    · intro _ _ _
      constructor
      · decide +kernel
      · decide +kernel
      · right
        exact ⟨rfl, by decide +kernel, Or.inr fun _ _ => rfl⟩
    · rfl

/-- Link 0 has become dormant: the exit fails, the reason stays and no work is
queued. -/
theorem tmp_block_stays :
    (samplePair 2).emlsr.blocks .tmpNonBss = false ∧
      ∃ r, Reachable (@step sampleCfg80211 1000 true) (fun _ _ => True)
          (initial (samplePair 2)) r ∧
        r.vif.emlsr.blocks .tmpNonBss = true ∧
        r.vif.emlsr.tmpNonBssDoneWk = .idle ∧ ¬ r.vif.TmpExpires true := by
  have hrun : (run (@step sampleCfg80211 1000 true)
      (initial (samplePair 2)) [(0, .blockTmp switchSuccess)]).map
        (fun last => (last.1.vif.emlsr.blocks .tmpNonBss,
          last.1.vif.emlsr.tmpNonBssDoneWk)) = some (true, .idle) := by
    decide +kernel
  obtain ⟨last, hlast, hfields⟩ := Option.map_eq_some_iff.mp hrun
  simp only [Prod.mk.injEq] at hfields
  refine ⟨rfl, last.1, reachable_of_run .start hlast, hfields.1, hfields.2,
    fun hexpires => ?_⟩
  have hpending := (hexpires hfields.1).1
  rw [hfields.2] at hpending
  cases hpending

end Samples

end EmlsrRun

end IwlwifiStack
