import IwlwifiStack.EmlsrSwitch
import IwlwifiStack.LinkSelection

/-!
# Prevention after an exit

The repeat counter is incremented by every exit call that finds EMLSR active,
so a notification that repeats while the deferred exit is still pending counts
again.  Along the runs without such repetitions the counter of a preventing
reason stays at three, because a third exit prevents EMLSR for longer than the
time after which the counter starts again.
-/

namespace IwlwifiStack

open ConditionedRun

/-- What the prevention reads and writes. -/
structure Prevention where
  blocked : Bool
  lastExitReason : Option EmlsrExit
  lastExitTs : ℕ
  exitRepeatCount : ℕ
  work : DelayedWork
  deriving DecidableEq, Repr

def Emlsr.toPrevention (e : Emlsr) : Prevention :=
  ⟨e.blocks .prevention, e.lastExitReason, e.lastExitTs, e.exitRepeatCount,
    e.preventDoneWk⟩

def RepeatOf (hz : ℕ) (later earlier : ExitRecord) : Prop :=
  later.reason = earlier.reason ∧ later.jiffies ≤ earlier.jiffies + 400 * hz

def NotShorter (later earlier : ExitRecord) : Prop :=
  earlier.delay.getD 0 ≤ later.delay.getD 0

instance : Trans NotShorter NotShorter NotShorter :=
  ⟨fun hfirst hsecond => le_trans hsecond hfirst⟩

def DelaysGrow (hz : ℕ) (history : List ExitRecord) : Prop :=
  ∀ front window rest, history = front ++ window ++ rest →
    window.IsChain (RepeatOf hz) → window.Pairwise NotShorter

structure PreventionSound (hz : ℕ) (r : EmlsrRun) : Prop where
  count : ∀ reason, r.vif.emlsr.lastExitReason = some reason →
    reason.prevents = true → r.vif.emlsr.exitRepeatCount ≤ 3
  noWarning : ∀ record ∈ r.history, record.warned = false
  delays : DelaysGrow hz r.history

/-! ## The condition -/

/-- While the prevention is set, the exit repeats no preventing reason and the
work that ends the prevention is not about to run. -/
def Prevention.ExitOnce (p : Prevention) (exit : EmlsrExit) : Prop :=
  p.blocked = true →
    (exit.prevents = true → p.lastExitReason ≠ some exit) ∧
      p.work.queued = false

/-! ## The invariant -/

/-- What the last exit left behind. -/
inductive LastExit (hz : ℕ) (p : Prevention) : List ExitRecord → Prop
  | never (hreason : p.lastExitReason = none) : LastExit hz p []
  | recorded (last : ExitRecord) (rest : List ExitRecord)
      (hreason : p.lastExitReason = some last.reason)
      (hts : p.lastExitTs = last.jiffies)
      (hdelay : last.delay =
        if last.reason = .block then none
        else some (Emlsr.preventDelay hz p.exitRepeatCount last.reason)) :
      LastExit hz p (last :: rest)

theorem LastExit.congr {hz : ℕ} {p after : Prevention}
    {history : List ExitRecord} (hlast : LastExit hz p history)
    (hreason : after.lastExitReason = p.lastExitReason)
    (hts : after.lastExitTs = p.lastExitTs)
    (hcount : after.exitRepeatCount = p.exitRepeatCount) :
    LastExit hz after history := by
  cases hlast with
  | never hnone =>
      apply LastExit.never
      rw [hreason]
      exact hnone
  | recorded last rest hsome hjiffies hdelay =>
      apply LastExit.recorded
      · rw [hreason]
        exact hsome
      · rw [hts]
        exact hjiffies
      · rw [hcount]
        exact hdelay

def LongPrevention (hz : ℕ) (p : Prevention) (jiffies : ℕ) : Prop :=
  (p.blocked = true ∧ p.work = ⟨some (p.lastExitTs + 600 * hz), false⟩) ∨
    p.lastExitTs + 600 * hz ≤ jiffies

structure Prevention.Good (hz : ℕ) (p : Prevention) (jiffies : ℕ)
    (history : List ExitRecord) : Prop where
  idle : p.blocked = false → p.work = .idle
  armed : p.work.queued = true → p.work.timer = none
  count : ∀ reason, p.lastExitReason = some reason → reason.prevents = true →
    p.exitRepeatCount ≤ 3
  long : ∀ reason, p.lastExitReason = some reason → reason.prevents = true →
    p.exitRepeatCount = 3 → LongPrevention hz p jiffies
  last : LastExit hz p history
  noWarning : ∀ record ∈ history, record.warned = false
  ordered : history.IsChain fun later earlier =>
    RepeatOf hz later earlier → NotShorter later earlier

namespace Prevention

variable {hz : ℕ} {p : Prevention} {jiffies : ℕ} {history : List ExitRecord}

theorem Good.later (hgood : p.Good hz jiffies history) (elapsed : ℕ) :
    p.Good hz (jiffies + elapsed) history := by
  refine { hgood with long := fun reason hreason hprevents hthree => ?_ }
  cases hgood.long reason hreason hprevents hthree with
  | inl hrunning => exact Or.inl hrunning
  | inr hover => exact Or.inr (by omega)

theorem delaysGrow_of_isChain
    (hordered : history.IsChain fun later earlier =>
      RepeatOf hz later earlier → NotShorter later earlier) :
    DelaysGrow hz history := by
  intro front window rest hhistory hwindow
  have hinside : window.IsChain fun later earlier =>
      RepeatOf hz later earlier → NotShorter later earlier :=
    hordered.infix ⟨front, rest, hhistory.symm⟩
  have hgrows : window.IsChain NotShorter := by
    clear hhistory
    induction window with
    | nil => exact .nil
    | cons later window ih =>
        cases window with
        | nil => exact .singleton later
        | cons earlier window =>
            rw [List.isChain_cons_cons] at hwindow hinside ⊢
            exact ⟨hinside.1 hwindow.1, ih hwindow.2 hinside.2⟩
  exact hgrows.pairwise

/-! ## One exit -/

theorem preventDelay_mono {count : ℕ} (hcount : count ≤ 2) (reason : EmlsrExit) :
    Emlsr.preventDelay hz count reason ≤
      Emlsr.preventDelay hz (count + 1) reason := by
  unfold Emlsr.preventDelay
  cases reason.prevents with
  | false => simp
  | true =>
      have hcases : count = 0 ∨ count = 1 ∨ count = 2 := by omega
      rcases hcases with rfl | rfl | rfl
      · simp
      · simp only [and_true]
        norm_num
        omega
      · simp only [and_true]
        norm_num
        omega

theorem preventDelay_eq {count : ℕ} {reason : EmlsrExit}
    (hprevents : reason.prevents = false) :
    Emlsr.preventDelay hz count reason = 30 * hz := by
  simp [Emlsr.preventDelay, hprevents]

theorem ordered_cons {record : ExitRecord}
    (hordered : history.IsChain fun later earlier =>
      RepeatOf hz later earlier → NotShorter later earlier)
    (hlast : ∀ last rest, history = last :: rest → RepeatOf hz record last →
      NotShorter record last) :
    (record :: history).IsChain fun later earlier =>
      RepeatOf hz later earlier → NotShorter later earlier := by
  cases history with
  | nil => exact .singleton record
  | cons last rest =>
      rw [List.isChain_cons_cons]
      exact ⟨hlast last rest rfl, hordered⟩

theorem Good.repeatsBefore_le {e : Emlsr} (hz0 : 0 < hz)
    (hgood : e.toPrevention.Good hz jiffies history) {exit : EmlsrExit}
    (honce : e.toPrevention.ExitOnce exit) (hprevents : exit.prevents = true) :
    e.repeatsBefore hz exit jiffies ≤ 2 := by
  unfold Emlsr.repeatsBefore
  by_cases hreset : jiffies > e.lastExitTs + 400 * hz ∨
      e.lastExitReason ≠ some exit
  · rw [if_pos hreset]
    omega
  rw [if_neg hreset]
  have hsame : e.lastExitReason = some exit := by
    by_contra hother
    exact hreset (Or.inr hother)
  have hthree := hgood.count exit hsame hprevents
  by_contra hmany
  have heq : e.exitRepeatCount = 3 := by
    simp only [Emlsr.toPrevention] at hthree
    omega
  cases hgood.long exit hsame hprevents heq with
  | inl hrunning => exact (honce hrunning.1).1 hprevents hsame
  | inr hover =>
      apply hreset
      left
      simp only [Emlsr.toPrevention] at hover
      omega

theorem Good.exitBlock {e : Emlsr}
    (hgood : e.toPrevention.Good hz jiffies history) :
    (e.iwlMldCheckEmlsrPrevention hz .block jiffies).1.toPrevention.Good hz
      jiffies ((e.iwlMldCheckEmlsrPrevention hz .block jiffies).2 :: history) := by
  have hblock : ∀ reason, some EmlsrExit.block = some reason →
      ¬ reason.prevents = true := by
    intro reason hreason
    rw [← Option.some.inj hreason]
    decide
  constructor
  · exact hgood.idle
  · exact hgood.armed
  · intro reason hreason hprevents
    exact absurd hprevents (hblock reason hreason)
  · intro reason hreason hprevents
    exact absurd hprevents (hblock reason hreason)
  · exact .recorded _ _ rfl rfl rfl
  · intro record hrecord
    cases hrecord with
    | head => rfl
    | tail _ hrest => exact hgood.noWarning record hrest
  · apply ordered_cons hgood.ordered
    intro last rest hhistory hrepeat
    subst hhistory
    cases hgood.last with
    | recorded _ _ hreason hts hdelay =>
        have hlast : last.reason = .block := hrepeat.1.symm
        rw [if_pos hlast] at hdelay
        simp [NotShorter, hdelay]

theorem Good.exit {e : Emlsr} (hz0 : 0 < hz)
    (hgood : e.toPrevention.Good hz jiffies history) {exit : EmlsrExit}
    (hexit : exit ≠ .block) (honce : e.toPrevention.ExitOnce exit) :
    (e.iwlMldCheckEmlsrPrevention hz exit jiffies).1.toPrevention.Good hz
      jiffies ((e.iwlMldCheckEmlsrPrevention hz exit jiffies).2 :: history) := by
  have hnotQueued : e.preventDoneWk.queued = false := by
    cases hblocked : e.blocks .prevention with
    | true => exact (honce hblocked).2
    | false =>
        have hidle : e.preventDoneWk = .idle := hgood.idle hblocked
        rw [hidle]
        rfl
  have hset : decide ((e.blockedReasons ||| EmlsrBlocked.prevention.mask) &&&
      EmlsrBlocked.prevention.mask ≠ 0) = true := by
    rw [decide_eq_true_eq, BitVec.and_comm, BitVec.and_or_distrib_left,
      BitVec.and_self]
    intro hzero
    exact absurd (BitVec.or_eq_zero_iff.mp hzero).2 (by decide)
  have hcount : exit.prevents = true →
      (e.repeatsBefore hz exit jiffies + 1) % 256 =
        e.repeatsBefore hz exit jiffies + 1 ∧
      e.repeatsBefore hz exit jiffies + 1 ≤ 3 := by
    intro hprevents
    have hle := hgood.repeatsBefore_le hz0 honce hprevents
    omega
  simp only [Emlsr.iwlMldCheckEmlsrPrevention, if_neg hexit]
  constructor
  · intro hclear
    simp only [Emlsr.toPrevention, Emlsr.blocks] at hclear
    rw [hset] at hclear
    cases hclear
  · intro hqueued
    simp only [Emlsr.toPrevention, DelayedWork.queue, hnotQueued] at hqueued
    cases hqueued
  · intro reason hreason hprevents
    have hsame : exit = reason := Option.some.inj hreason
    subst hsame
    have hboth := hcount hprevents
    simp only [Emlsr.toPrevention]
    omega
  · intro reason hreason hprevents hthree
    have hsame : exit = reason := Option.some.inj hreason
    subst hsame
    simp only [Emlsr.toPrevention] at hthree
    left
    constructor
    · exact hset
    · simp only [Emlsr.toPrevention, DelayedWork.queue, hnotQueued]
      rw [hthree]
      simp [Emlsr.preventDelay, hprevents]
  · apply LastExit.recorded
    · rfl
    · rfl
    · rw [if_neg hexit]
      rfl
  · intro record hrecord
    cases hrecord with
    | tail _ hrest => exact hgood.noWarning record hrest
    | head =>
        cases hprevents : exit.prevents with
        | false => simp
        | true =>
            have hboth := hcount hprevents
            have hle : ¬ (e.repeatsBefore hz exit jiffies + 1) % 256 > 3 := by
              omega
            simp [hle]
  · apply ordered_cons hgood.ordered
    intro last rest hhistory hrepeat
    subst hhistory
    cases hgood.last with
    | recorded _ _ hreason hts hdelay =>
        have hlast : last.reason = exit := hrepeat.1.symm
        rw [hlast] at hreason hdelay
        rw [if_neg hexit] at hdelay
        simp only [NotShorter, hdelay, Option.getD_some]
        cases hprevents : exit.prevents with
        | false =>
            rw [preventDelay_eq hprevents, preventDelay_eq hprevents]
        | true =>
            have hboth := hcount hprevents
            have hwindow : e.repeatsBefore hz exit jiffies =
                e.exitRepeatCount := by
              have htime : ¬ jiffies > e.lastExitTs + 400 * hz := by
                have hrecent := hrepeat.2
                simp only [Emlsr.toPrevention] at hts
                simp only at hrecent
                omega
              have hnot : ¬ (jiffies > e.lastExitTs + 400 * hz ∨
                  e.lastExitReason ≠ some exit) := by
                rintro (hlate | hother)
                · exact htime hlate
                · exact hother hreason
              rw [Emlsr.repeatsBefore, if_neg hnot]
            rw [hboth.1, hwindow]
            have hle : e.exitRepeatCount ≤ 2 := by omega
            exact preventDelay_mono hle exit

end Prevention

/-! ## Which operations leave the prevention alone -/

namespace EmlsrVif

variable {hz : ℕ} {autoEml : Bool}

theorem Switches.toPrevention_eq {r after : EmlsrVif} {activeLinks : BitVec 16}
    (h : r.Switches after activeLinks) :
    after.emlsr.toPrevention = r.emlsr.toPrevention := by
  obtain ⟨_, _, _, _, _, rfl⟩ := h
  rfl

theorem prevention_disjoint {reason : EmlsrBlocked} (hne : reason ≠ .prevention) :
    reason.mask &&& EmlsrBlocked.prevention.mask = 0 := by
  cases reason with
  | prevention => exact absurd rfl hne
  | _ => decide

theorem async_toPrevention (r : EmlsrVif) (activeLinks : BitVec 16) :
    (r.ieee80211SetActiveLinksAsync activeLinks).emlsr.toPrevention =
      r.emlsr.toPrevention := by
  cases r.async_cases activeLinks with
  | inl hqueued => rw [hqueued.2]
  | inr hrefused => rw [hrefused.2]

theorem setActiveLinks_toPrevention (r : EmlsrVif) (activeLinks : BitVec 16)
    (res : SwitchResults) (jiffies : ℕ) :
    (r.ieee80211SetActiveLinks autoEml activeLinks res
      jiffies).2.emlsr.toPrevention = r.emlsr.toPrevention := by
  obtain ⟨final, hswitches, -, -⟩ :=
    @ieee80211SetActiveLinks_switches autoEml r activeLinks res jiffies
  exact hswitches.toPrevention_eq

theorem ExitSwitch.toPrevention_eq {r : EmlsrVif} {linkToKeep jiffies : ℕ}
    {res : SwitchResults} {switched : ℤ × EmlsrVif} {sync : Bool}
    (hswitch : ExitSwitch autoEml r linkToKeep res jiffies switched sync) :
    switched.2.emlsr.toPrevention = r.emlsr.toPrevention := by
  cases hswitch with
  | deferred hdeferred =>
      rw [hdeferred]
      exact r.async_toPrevention _
  | switched hswitched =>
      rw [hswitched]
      exact r.setActiveLinks_toPrevention _ res jiffies

theorem unblock_toPrevention (r : EmlsrVif) {reason : EmlsrBlocked}
    (hne : reason ≠ .prevention) :
    (r.iwlMldUnblockEmlsr autoEml reason).emlsr.toPrevention =
      r.emlsr.toPrevention := by
  unfold iwlMldUnblockEmlsr
  split_ifs
  · rfl
  · rfl
  · simp only [Emlsr.toPrevention, Emlsr.blocks]
    rw [blocks_and_not .prevention (prevention_disjoint hne)]

theorem activateWork_toPrevention (r : EmlsrVif) (inReconfig : Bool)
    (res : SwitchResults) (jiffies : ℕ) :
    (r.ieee80211ActivateLinksWork autoEml inReconfig res
      jiffies).emlsr.toPrevention = r.emlsr.toPrevention := by
  simp only [ieee80211ActivateLinksWork]
  cases inReconfig with
  | true => rfl
  | false =>
      exact ({ r with activateLinksWork := false } :
        EmlsrVif).setActiveLinks_toPrevention r.desiredActiveLinks res jiffies

theorem select_toPrevention {env : Cfg80211} (r : EmlsrVif) (mld : IwlMld)
    (conf : MldVif env) (now : ℤ) :
    (r.selectLinks mld conf now).emlsr.toPrevention = r.emlsr.toPrevention := by
  unfold selectLinks
  cases iwlMldSelectLinks mld (r.selectionView conf) now with
  | none => rfl
  | some selection =>
      simp only [async_toPrevention]
      rfl

/-! ## Exits and blocks of the interface -/

def PreventionGood (hz jiffies : ℕ) (history : List ExitRecord)
    (result : EmlsrVif × List ExitRecord) : Prop :=
  result.1.emlsr.toPrevention.Good hz jiffies (result.2 ++ history)

theorem exit_preventionGood {r : EmlsrVif} {jiffies : ℕ}
    {history : List ExitRecord} (hz0 : 0 < hz)
    (hgood : r.emlsr.toPrevention.Good hz jiffies history) (sync : Bool)
    {exit : EmlsrExit} (linkToKeep : ℕ) (res : SwitchResults)
    (honce : r.exits autoEml exit = true → exit ≠ .block →
      r.emlsr.toPrevention.ExitOnce exit) :
    PreventionGood hz jiffies history (r.iwlMldExitEmlsr hz autoEml sync exit
      linkToKeep res jiffies).2 := by
  cases hexits : r.exits autoEml exit with
  | false =>
      rw [exit_ignored sync hexits]
      exact hgood
  | true =>
      obtain ⟨switched, hswitch, hresult⟩ :=
        @exit_cases autoEml hz sync r exit hexits linkToKeep res jiffies
      rw [hresult]
      have hsame := hswitch.toPrevention_eq
      rw [← hsame] at hgood
      by_cases hblock : exit = .block
      · subst hblock
        exact hgood.exitBlock
      · have hcond := honce hexits hblock
        rw [← hsame] at hcond
        exact hgood.exit hz0 hblock hcond

theorem block_preventionGood {r : EmlsrVif} {jiffies : ℕ}
    {history : List ExitRecord} (hz0 : 0 < hz)
    (hgood : r.emlsr.toPrevention.Good hz jiffies history) (sync : Bool)
    {reason : EmlsrBlocked} (hne : reason ≠ .prevention) (linkToKeep : ℕ)
    (res : SwitchResults) :
    PreventionGood hz jiffies history (r.iwlMldEmlsrBlock hz autoEml sync reason
      linkToKeep res jiffies).2 := by
  unfold iwlMldEmlsrBlock
  split_ifs
  · exact hgood
  · exact hgood
  · apply exit_preventionGood hz0
    · have hsame : ({ r.emlsr with blockedReasons :=
          r.emlsr.blockedReasons ||| reason.mask } : Emlsr).toPrevention =
            r.emlsr.toPrevention := by
        simp only [Emlsr.toPrevention, Emlsr.blocks]
        rw [blocks_or .prevention (prevention_disjoint hne)]
      rw [hsame]
      exact hgood
    · exact fun _ hblock => absurd rfl hblock

theorem blockTmp_preventionGood {r : EmlsrVif} {jiffies : ℕ}
    {history : List ExitRecord} (hz0 : 0 < hz)
    (hgood : r.emlsr.toPrevention.Good hz jiffies history)
    (res : SwitchResults) :
    PreventionGood hz jiffies history
      (r.blockTmpNonBss hz autoEml res jiffies) := by
  have hblocked := @block_preventionGood hz autoEml r jiffies history hz0 hgood
    true .tmpNonBss (by decide) r.iwlMldGetPrimaryLink res
  simp only [blockTmpNonBss]
  split_ifs
  · exact hgood
  · exact hblocked
  · exact hblocked

theorem preventDone_preventionGood {r : EmlsrVif} {jiffies : ℕ}
    {history : List ExitRecord}
    (hgood : r.emlsr.toPrevention.Good hz jiffies history)
    (hqueued : r.emlsr.preventDoneWk.queued = true) :
    (r.preventDone autoEml).emlsr.toPrevention.Good hz jiffies history := by
  have hidle : ({ r.emlsr.preventDoneWk with queued := false } : DelayedWork) =
      .idle := by
    have htimer : r.emlsr.preventDoneWk.timer = none := hgood.armed hqueued
    simp only [htimer]
    rfl
  have hover : ∀ reason, r.emlsr.lastExitReason = some reason →
      reason.prevents = true → r.emlsr.exitRepeatCount = 3 →
      r.emlsr.lastExitTs + 600 * hz ≤ jiffies := by
    intro reason hreason hprevents hthree
    cases hgood.long reason hreason hprevents hthree with
    | inl hrunning =>
        have hwork : r.emlsr.preventDoneWk = _ := hrunning.2
        rw [hwork] at hqueued
        cases hqueued
    | inr hover => exact hover
  have hkept : ∀ blocked, Prevention.Good hz ⟨blocked, r.emlsr.lastExitReason,
      r.emlsr.lastExitTs, r.emlsr.exitRepeatCount, .idle⟩ jiffies history := by
    intro blocked
    constructor
    · exact fun _ => rfl
    · exact fun h => absurd h Bool.false_ne_true
    · exact hgood.count
    · exact fun reason hreason hprevents hthree =>
        Or.inr (hover reason hreason hprevents hthree)
    · exact hgood.last.congr rfl rfl rfl
    · exact hgood.noWarning
    · exact hgood.ordered
  unfold preventDone iwlMldUnblockEmlsr
  simp only [hidle]
  split_ifs <;> exact hkept _

end EmlsrVif

/-! ## Runs -/

namespace EmlsrRun

variable {env : Cfg80211} {hz : ℕ} {autoEml : Bool}

def PreventionSafe (autoEml : Bool) (r : EmlsrRun)
    (event : ℕ × EmlsrEvent env) : Prop :=
  match event.2 with
  | .exit exit _ => r.vif.exits autoEml exit = true →
      r.vif.emlsr.toPrevention.ExitOnce exit
  | _ => True

def PreventionGood (hz : ℕ) (r : EmlsrRun) : Prop :=
  r.vif.emlsr.toPrevention.Good hz r.jiffies r.history

theorem PreventionGood.performed {r after : EmlsrRun} {event : EmlsrEvent env}
    (hz0 : 0 < hz) (hgood : r.PreventionGood hz)
    (hsafe : ∀ elapsed, r.PreventionSafe autoEml (elapsed, event))
    (hperformed : Performed hz autoEml r event after) :
    after.PreventionGood hz := by
  have hcond := hsafe 0
  have hcongr : ∀ vif : EmlsrVif,
      vif.emlsr.toPrevention = r.vif.emlsr.toPrevention →
      (r.withVif vif).PreventionGood hz := by
    intro vif hsame
    unfold PreventionGood withVif
    rw [hsame]
    exact hgood
  cases hperformed with
  | select mld conf now => exact hcongr _ (r.vif.select_toPrevention _ conf now)
  | exit exit linkToKeep hexit res =>
      exact EmlsrVif.exit_preventionGood hz0 hgood false linkToKeep res
        fun hexits _ => hcond hexits
  | block reason linkToKeep sync res hcallable =>
      have hne : reason ≠ .prevention := by
        simp only [callable, Bool.and_eq_true, decide_eq_true_eq] at hcallable
        exact hcallable.1
      exact EmlsrVif.block_preventionGood hz0 hgood sync hne linkToKeep res
  | blockTmp res _ => exact EmlsrVif.blockTmp_preventionGood hz0 hgood res
  | unblock reason hcallable =>
      have hne : reason ≠ .prevention := by
        simp only [callable, Bool.and_eq_true, decide_eq_true_eq] at hcallable
        exact hcallable.1
      exact hcongr _ (r.vif.unblock_toPrevention hne)
  | activateWork inReconfig res _ =>
      exact hcongr _ (r.vif.activateWork_toPrevention inReconfig res r.jiffies)
  | assign linkId ctx results =>
      exact hcongr _
        (r.vif.assign_switches linkId ctx results r.jiffies).toPrevention_eq
  | unassign linkId otherLinks exits =>
      exact hcongr _
        (r.vif.unassign_switches linkId otherLinks exits).toPrevention_eq
  | preventTimer expiry htimer hexpired =>
      constructor
      · intro hclear
        have hidle : r.vif.emlsr.preventDoneWk = .idle := hgood.idle hclear
        rw [hidle] at htimer
        cases htimer
      · exact fun _ => rfl
      · exact hgood.count
      · intro reason hreason hprevents hthree
        right
        cases hgood.long reason hreason hprevents hthree with
        | inl hrunning =>
            have hwork : r.vif.emlsr.preventDoneWk = _ := hrunning.2
            rw [hwork] at htimer
            have hexpiry := Option.some.inj htimer
            simp only [withVif, Emlsr.toPrevention] at hexpiry ⊢
            omega
        | inr hover => exact hover
      · exact hgood.last.congr rfl rfl rfl
      · exact hgood.noWarning
      · exact hgood.ordered
  | preventWork hqueued =>
      exact EmlsrVif.preventDone_preventionGood hgood hqueued
  | tmpTimer expiry _ _ => exact hcongr _ rfl
  | tmpWork _ =>
      apply hcongr
      simp only [EmlsrVif.tmpNonBssDone]
      split_ifs
      · rfl
      · exact EmlsrVif.unblock_toPrevention _ (by decide)

theorem prevention_sound (hz0 : 0 < hz) {vif : EmlsrVif}
    (hzeroed : vif.emlsr = .zeroed) {r : EmlsrRun}
    (hreach : Reachable (@step env hz autoEml) (PreventionSafe autoEml)
      (initial vif) r) :
    PreventionSound hz r := by
  have hgood : r.PreventionGood hz := by
    apply @invariant_of_performed env hz autoEml _ (PreventionGood hz)
      (initial vif) _ _ r hreach
    · unfold PreventionGood initial
      rw [hzeroed]
      constructor
      · exact fun _ => rfl
      · exact fun _ => rfl
      · intro reason hreason
        cases hreason
      · intro reason hreason
        cases hreason
      · exact .never rfl
      · intro record hrecord
        cases hrecord
      · exact .nil
    · intro state elapsed event after hbefore hallowed hperformed
      exact @PreventionGood.performed env hz autoEml
        { state with jiffies := state.jiffies + elapsed } after event hz0
        (hbefore.later elapsed) (fun _ => hallowed) hperformed
  exact ⟨hgood.count, hgood.noWarning,
    Prevention.delaysGrow_of_isChain hgood.ordered⟩

section Samples

instance (autoEml : Bool) (r : EmlsrRun) (event : ℕ × EmlsrEvent env) :
    Decidable (PreventionSafe autoEml r event) := by
  unfold PreventionSafe Prevention.ExitOnce
  split <;> infer_instance

/-- The prevention of the first exit has ended and a selection has made both
links active again: the second exit is a repeat with a longer delay. -/
theorem prevention_sound_repeated :
    (samplePair 3).emlsr = .zeroed ∧
      ∃ r : EmlsrRun, r.vif.emlsr.exitRepeatCount = 2 ∧
        r.history.map ExitRecord.delay = [some 300000, some 30000] ∧
        PreventionSound 1000 r := by
  have hrun : (run (guarded (@step sampleCfg80211 1000 true)
      (PreventionSafe true)) (initial (samplePair 3))
      [(0, .exit .missedBeacon 0), (0, .activateWork false switchSuccess),
        (30000, .preventTimer), (0, .preventWork),
        (0, .select sampleMld (sampleVif (-5000) 128) 0),
        (0, .activateWork false switchSuccess),
        (0, .exit .missedBeacon 0)]).map
        (fun last => (last.1.vif.emlsr.exitRepeatCount,
          last.1.history.map ExitRecord.delay)) =
            some (2, [some 300000, some 30000]) := by
    decide +kernel
  obtain ⟨last, hlast, hfields⟩ := Option.map_eq_some_iff.mp hrun
  simp only [Prod.mk.injEq] at hfields
  exact ⟨rfl, last.1, hfields.1, hfields.2,
    prevention_sound (by decide) rfl (reachable_of_guarded .start hlast)⟩

/-- Four notifications before the deferred exit is carried out. -/
theorem prevention_warns :
    (samplePair 3).emlsr = .zeroed ∧
      ∃ r, Reachable (@step sampleCfg80211 1000 true) (fun _ _ => True)
          (initial (samplePair 3)) r ∧
        r.vif.emlsr.exitRepeatCount = 4 ∧
        r.history.map ExitRecord.warned = [true, false, false, false] ∧
        ¬ PreventionSound 1000 r := by
  have hrun : (run (@step sampleCfg80211 1000 true) (initial (samplePair 3))
      [(0, .exit .missedBeacon 0), (0, .exit .missedBeacon 0),
        (0, .exit .missedBeacon 0), (0, .exit .missedBeacon 0)]).map
        (fun last => (last.1.vif.emlsr.exitRepeatCount,
          last.1.history.map ExitRecord.warned)) =
            some (4, [true, false, false, false]) := by
    decide +kernel
  obtain ⟨last, hlast, hfields⟩ := Option.map_eq_some_iff.mp hrun
  simp only [Prod.mk.injEq] at hfields
  refine ⟨rfl, last.1, reachable_of_run .start hlast, hfields.1, hfields.2,
    fun hsound => ?_⟩
  have hmem : true ∈ last.1.history.map ExitRecord.warned := by
    rw [hfields.2]
    exact List.mem_cons_self
  obtain ⟨record, hrecord, hwarned⟩ := List.mem_map.mp hmem
  have hquiet := hsound.noWarning record hrecord
  rw [hwarned] at hquiet
  cases hquiet

end Samples

end EmlsrRun

end IwlwifiStack
