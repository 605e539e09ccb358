import IwlwifiStack.WakeTxqsItems

/-!
# A marked TXQ is not forgotten

While a TXQ is marked, its hardware queue is stopped or a wake loop is still to
come to it, and every mark that is cleared leaves the call for this very TXQ.
-/

namespace IwlwifiStack

open WakeConfig

def WakeLocal.clears (loc : WakeLocal) (txq : TxqId) : ℕ :=
  loc.log.count (.cleared txq)

def WakeLocal.calls (loc : WakeLocal) (txq : TxqId) : ℕ :=
  loc.log.count (.wakeTxQueue txq)

def WakeLocal.marksAgain (loc : WakeLocal) (txq : TxqId) : ℕ :=
  loc.log.count (.markedAgain txq)

/-- What holds between two steps. -/
structure WakeGood (config : WakeConfig) (loc : WakeLocal) : Prop where
  attached : ∀ txq, loc.dirty txq = true → config.Attached txq
  refused : ∀ txq ∈ loc.refused, config.Attached txq
  wakes : ∀ txq, .wake (some txq) ∈ loc.wakers.flatten → config.Attached txq
  due : ∀ txq, loc.dirty txq = true → loc.Kept config txq
  ledger : ∀ txq, loc.clears txq = loc.calls txq + loc.marksAgain txq +
    loc.wakers.flatten.count (.wake (some txq))

def WakeMeets (config : WakeConfig) (loc : WakeLocal) : WakeEvent → Prop
  | .dequeue txq => loc.stopped (config.queueOf txq) = true →
      txq.ac < config.nAcs
  | .mark txq => loc.Kept config txq
  | .walk waker => ∀ item, TaskPool.next loc.wakers waker = some item →
      loc.ItemMeets config item
  | _ => True

namespace WakeLocal

variable {config : WakeConfig} {loc : WakeLocal}

theorem stopped_setReason {queue : ℕ} (index : ℕ) (reason : StopReason)
    (count : ℤ) (hstopped : loc.stopped queue = true) :
    (loc.setReason index reason count true).stopped queue = true := by
  rw [stopped_iff] at hstopped ⊢
  obtain ⟨other, hother⟩ := hstopped
  by_cases hqueue : queue = index
  · exact ⟨reason, by simp [setReason, hqueue]⟩
  · exact ⟨other, by simpa [setReason, Function.update_of_ne hqueue] using
      hother⟩

theorem stopped_stopQueue {queue : ℕ} (index : ℕ) (reason : StopReason)
    (refcounted : Bool) (hstopped : loc.stopped queue = true) :
    (loc.stopQueue config index reason refcounted).stopped queue = true := by
  unfold stopQueue
  by_cases hout : config.queues ≤ index
  · rwa [if_pos hout]
  · rw [if_neg hout]
    exact stopped_setReason index reason _ hstopped

theorem stopped_setReason_ne {queue index : ℕ} (reason : StopReason) (count : ℤ)
    (bit : Bool) (hne : queue ≠ index) :
    (loc.setReason index reason count bit).stopped queue = loc.stopped queue := by
  rw [stopped, stopped]
  simp only [setReason, Function.update_of_ne hne]

theorem wakeQueue_cases {queue : ℕ} (index : ℕ) (reason : StopReason)
    (refcounted : Bool) (hstopped : loc.stopped queue = true) :
    (loc.wakeQueue config index reason refcounted).stopped queue = true ∨
      (loc.wakeQueue config index reason refcounted).wakeTxqsTasklet = true ∨
      ∃ thread ∈ (loc.wakeQueue config index reason refcounted).wakers,
        thread = wakeLoop config := by
  unfold wakeQueue
  dsimp only
  split_ifs with hout hset hmore hdriver
  · exact Or.inl hstopped
  · exact Or.inl hstopped
  · by_cases hqueue : queue = index
    · rw [hqueue]
      exact Or.inl hmore
    · rw [stopped_setReason_ne _ _ _ hqueue]
      exact Or.inl hstopped
  · exact Or.inr (Or.inl rfl)
  · exact Or.inr (Or.inr ⟨wakeLoop config, by simp, rfl⟩)

theorem wakeQueue_wakers (index : ℕ) (reason : StopReason) (refcounted : Bool) :
    (loc.wakeQueue config index reason refcounted).wakers = loc.wakers ∨
      (loc.wakeQueue config index reason refcounted).wakers =
        loc.wakers ++ [wakeLoop config] := by
  unfold wakeQueue
  dsimp only
  split_ifs
  · exact Or.inl rfl
  · exact Or.inl rfl
  · exact Or.inl rfl
  · exact Or.inl rfl
  · exact Or.inr rfl

theorem wakeQueue_frame (index : ℕ) (reason : StopReason) (refcounted : Bool) :
    (loc.wakeQueue config index reason refcounted).dirty = loc.dirty ∧
      (loc.wakeQueue config index reason refcounted).refused = loc.refused ∧
      (loc.wakeQueue config index reason refcounted).log = loc.log ∧
      (loc.wakeTxqsTasklet = true →
        (loc.wakeQueue config index reason refcounted).wakeTxqsTasklet =
          true) := by
  unfold wakeQueue
  dsimp only
  split_ifs
  · exact ⟨rfl, rfl, rfl, id⟩
  · exact ⟨rfl, rfl, rfl, id⟩
  · exact ⟨rfl, rfl, rfl, id⟩
  · exact ⟨rfl, rfl, rfl, fun _ => rfl⟩
  · exact ⟨rfl, rfl, rfl, id⟩

theorem wakeLoop_noWake (config : WakeConfig) (txq : Option TxqId) :
    .wake txq ∉ wakeLoop config := by
  simp [wakeLoop]

theorem Due.addLoop {after : WakeLocal} {txq : TxqId}
    (hattached : config.Attached txq)
    (hwakers : after.wakers = loc.wakers ++ [wakeLoop config]) :
    after.Due config txq := by
  obtain ⟨item, hitem, hleads⟩ := hattached.wakeLoop
  refine Or.inr ⟨item, ?_, hleads⟩
  rw [hwakers, List.flatten_append]
  exact List.mem_append_right _ (by simpa using hitem)

theorem Due.mono {after : WakeLocal} {txq : TxqId} (hdue : loc.Due config txq)
    (htasklet : loc.wakeTxqsTasklet = true → after.wakeTxqsTasklet = true)
    (hwakers : ∀ item ∈ loc.wakers.flatten, item ∈ after.wakers.flatten) :
    after.Due config txq := by
  rcases hdue with hdue | ⟨item, hitem, hleads⟩
  · exact Or.inl (htasklet hdue)
  · exact Or.inr ⟨item, hwakers item hitem, hleads⟩

end WakeLocal

namespace WakeGood

variable {config : WakeConfig} {loc : WakeLocal}

theorem stopQueue (hgood : WakeGood config loc) (queue : ℕ) (reason : StopReason)
    (refcounted : Bool) :
    WakeGood config (loc.stopQueue config queue reason refcounted) := by
  have hdue : ∀ txq, loc.dirty txq = true →
      (loc.stopQueue config queue reason refcounted).stopped
        (config.queueOf txq) = true ∨ loc.Due config txq := by
    intro txq hdirty
    rcases hgood.due txq hdirty with hstopped | hdue
    · exact Or.inl (WakeLocal.stopped_stopQueue queue reason refcounted hstopped)
    · exact Or.inr hdue
  unfold WakeLocal.stopQueue at hdue ⊢
  by_cases hout : config.queues ≤ queue
  · rwa [if_pos hout]
  · rw [if_neg hout] at hdue ⊢
    exact ⟨hgood.attached, hgood.refused, hgood.wakes, hdue, hgood.ledger⟩

theorem loop_more {wakers : List (List WakeItem)}
    (hwakers : wakers = loc.wakers ∨
      wakers = loc.wakers ++ [WakeLocal.wakeLoop config]) :
    (∀ item ∈ loc.wakers.flatten, item ∈ wakers.flatten) ∧
      (∀ txq, .wake txq ∈ wakers.flatten → .wake txq ∈ loc.wakers.flatten) ∧
      ∀ txq, wakers.flatten.count (.wake txq) =
        loc.wakers.flatten.count (.wake txq) := by
  rcases hwakers with rfl | rfl
  · exact ⟨fun _ hmem => hmem, fun _ hmem => hmem, fun _ => rfl⟩
  · rw [List.flatten_append, List.flatten_singleton]
    refine ⟨fun item hmem => List.mem_append_left _ hmem, ?_, ?_⟩
    · intro txq hmem
      rcases List.mem_append.mp hmem with hmem | hmem
      · exact hmem
      · exact absurd hmem (WakeLocal.wakeLoop_noWake config txq)
    · intro txq
      rw [List.count_append,
        List.count_eq_zero.mpr (WakeLocal.wakeLoop_noWake config txq), add_zero]

theorem addLoop (hgood : WakeGood config loc) :
    WakeGood config { loc with
      wakeTxqsTasklet := false
      wakers := loc.wakers ++ [WakeLocal.wakeLoop config] } := by
  obtain ⟨hkept, hwakes, hcount⟩ := loop_more (Or.inr rfl)
  constructor
  · exact hgood.attached
  · exact hgood.refused
  · exact fun txq hmem => hgood.wakes txq (hwakes _ hmem)
  · intro txq hdirty
    exact Or.inr (WakeLocal.Due.addLoop (hgood.attached txq hdirty) rfl)
  · intro txq
    rw [hcount]
    exact hgood.ledger txq

theorem wakeQueue (hgood : WakeGood config loc) (queue : ℕ) (reason : StopReason)
    (refcounted : Bool) :
    WakeGood config (loc.wakeQueue config queue reason refcounted) := by
  obtain ⟨hdirty, hrefused, hlog, htasklet⟩ :=
    @WakeLocal.wakeQueue_frame config loc queue reason refcounted
  have hwakers := @WakeLocal.wakeQueue_wakers config loc queue reason refcounted
  obtain ⟨hkept, hwakes, hcount⟩ := loop_more hwakers
  constructor
  · rw [hdirty]
    exact hgood.attached
  · rw [hrefused]
    exact hgood.refused
  · exact fun txq hmem => hgood.wakes txq (hwakes _ hmem)
  · intro txq hmarked
    rw [hdirty] at hmarked
    rcases hgood.due txq hmarked with hstopped | hdue
    · rcases @WakeLocal.wakeQueue_cases config loc _ queue reason refcounted
        hstopped with hstill | hlater | ⟨thread, hthread, rfl⟩
      · exact Or.inl hstill
      · exact Or.inr (Or.inl hlater)
      · obtain ⟨item, hitem, hleads⟩ := (hgood.attached txq hmarked).wakeLoop
        exact Or.inr (Or.inr ⟨item,
          List.mem_flatten.mpr ⟨_, hthread, hitem⟩, hleads⟩)
    · exact Or.inr (hdue.mono htasklet hkept)
  · intro txq
    rw [hcount, WakeLocal.clears, WakeLocal.calls, WakeLocal.marksAgain, hlog]
    exact hgood.ledger txq

/-! ## A step of a wake loop -/

theorem kept_wake {waker : ℕ} {woken : Option TxqId} {after : WakeLocal}
    {txq : TxqId}
    (hnext : TaskPool.next loc.wakers waker = some (.wake woken))
    (hreasons : after.queueStopReasons = loc.queueStopReasons)
    (htasklet : after.wakeTxqsTasklet = loc.wakeTxqsTasklet)
    (hkept : loc.Kept config txq) :
    ({ after with
      wakers := TaskPool.done loc.wakers waker [] } : WakeLocal).Kept config
        txq := by
  obtain ⟨others, hbefore, hafter⟩ := TaskPool.done_perm hnext
  rcases hkept with hstopped | hpending | ⟨task, hmem, hleads⟩
  · apply Or.inl
    rw [WakeLocal.stopped]
    dsimp only
    rw [hreasons]
    exact hstopped
  · exact Or.inr (Or.inl (htasklet.trans hpending))
  · rcases List.mem_cons.mp (hbefore.mem_iff.mp hmem) with rfl | hmem
    · exact hleads.elim
    · exact Or.inr (Or.inr ⟨task, (hafter []).mem_iff.mpr hmem, hleads⟩)

theorem walk {waker : ℕ} {item : WakeItem} {after : WakeLocal}
    {tasks : List WakeItem} (hgood : WakeGood config loc)
    (hnext : TaskPool.next loc.wakers waker = some item)
    (heffect : WakeLocal.ItemEffect config loc item after tasks) :
    WakeGood config
      { after with wakers := TaskPool.done loc.wakers waker tasks } := by
  obtain ⟨others, hbefore, hafter⟩ := TaskPool.done_perm hnext
  have hdone := hafter tasks
  have hothers : ∀ txq, .wake (some txq) ∈ others → config.Attached txq :=
    fun txq hmem => hgood.wakes txq
      (hbefore.mem_iff.mpr (List.mem_cons_of_mem _ hmem))
  have hledger := hgood.ledger
  have hdue := hgood.due
  simp only [WakeLocal.Kept, WakeLocal.Due, hbefore.mem_iff,
    hbefore.count_eq] at hledger hdue
  cases heffect with
  | spread hitem htasks hspread =>
      constructor
      · exact hgood.attached
      · exact hgood.refused
      · intro txq hmem
        rcases List.mem_append.mp (hdone.mem_iff.mp hmem) with hmem | hmem
        · exact absurd hmem (htasks _)
        · exact hothers txq hmem
      · intro txq hdirty
        simp only [WakeLocal.Kept, WakeLocal.Due, hdone.mem_iff]
        rcases hdue txq hdirty with hstopped | htasklet | ⟨task, hmem, hleads⟩
        · exact Or.inl hstopped
        · exact Or.inr (Or.inl htasklet)
        · rcases List.mem_cons.mp hmem with rfl | hmem
          · rcases hspread txq (hgood.attached txq hdirty) hdirty hleads with
              hstopped | ⟨next, hin, hnextLeads⟩
            · exact Or.inl hstopped
            · exact Or.inr (Or.inr
                ⟨next, List.mem_append_left _ hin, hnextLeads⟩)
          · exact Or.inr (Or.inr ⟨task, List.mem_append_right _ hmem, hleads⟩)
      · intro txq
        have hcount := hledger txq
        rw [List.count_cons_of_ne (hitem _)] at hcount
        rw [hdone.count_eq, List.count_append,
          List.count_eq_zero.mpr (htasks _), zero_add]
        exact hcount
  | clear txq hitem hdirty honly =>
      constructor
      · intro other hmarked
        by_cases hsame : other = txq
        · rw [hsame]
          exact hgood.attached txq hdirty
        · exact hgood.attached other (by
            simpa [WakeLocal.setDirty, Function.update_of_ne hsame] using hmarked)
      · exact hgood.refused
      · intro other hmem
        rcases List.mem_append.mp (hdone.mem_iff.mp hmem) with hmem | hmem
        · rw [List.mem_singleton, WakeItem.wake.injEq, Option.some.injEq] at hmem
          rw [hmem]
          exact hgood.attached txq hdirty
        · exact hothers other hmem
      · intro other hmarked
        have hne : other ≠ txq := by
          intro hsame
          simp [WakeLocal.setDirty, hsame] at hmarked
        have hstill : loc.dirty other = true := by
          simpa [WakeLocal.setDirty, Function.update_of_ne hne] using hmarked
        simp only [WakeLocal.Kept, WakeLocal.Due, hdone.mem_iff]
        rcases hdue other hstill with hstopped | htasklet | ⟨task, hmem, hleads⟩
        · exact Or.inl hstopped
        · exact Or.inr (Or.inl htasklet)
        · rcases List.mem_cons.mp hmem with rfl | hmem
          · exact absurd (honly other hleads hstill) hne
          · exact Or.inr (Or.inr ⟨task, List.mem_append_right _ hmem, hleads⟩)
      · intro other
        have hcount := hledger other
        rw [List.count_cons_of_ne (hitem _)] at hcount
        simp only [WakeLocal.clears, WakeLocal.calls, WakeLocal.marksAgain,
          List.count_append, hdone.count_eq, List.count_singleton, beq_iff_eq,
          reduceCtorEq, if_false, WakeOutput.cleared.injEq,
          WakeItem.wake.injEq, Option.some.injEq] at hcount ⊢
        omega
  | call txq hitem =>
      subst hitem
      constructor
      · exact hgood.attached
      · exact hgood.refused
      · exact fun other hmem => hothers other (hdone.mem_iff.mp hmem)
      · intro other hmarked
        exact kept_wake hnext rfl rfl (hgood.due other hmarked)
      · intro other
        have hcount := hledger other
        simp only [WakeLocal.clears, WakeLocal.calls, WakeLocal.marksAgain,
          List.count_append, hdone.count_eq, List.nil_append,
          List.count_cons, List.count_nil, beq_iff_eq, reduceCtorEq,
          if_false, WakeOutput.wakeTxQueue.injEq, WakeItem.wake.injEq,
          Option.some.injEq] at hcount ⊢
        omega
  | again txq hitem hreconfig hkept =>
      subst hitem
      have hattached : config.Attached txq := hgood.wakes txq
        (hbefore.mem_iff.mpr List.mem_cons_self)
      constructor
      · intro other hmarked
        by_cases hsame : other = txq
        · rw [hsame]
          exact hattached
        · exact hgood.attached other (by
            simpa [WakeLocal.setDirty, Function.update_of_ne hsame] using hmarked)
      · exact hgood.refused
      · exact fun other hmem => hothers other (hdone.mem_iff.mp hmem)
      · intro other hmarked
        by_cases hsame : other = txq
        · rw [hsame]
          exact kept_wake hnext rfl rfl hkept
        · exact kept_wake hnext rfl rfl (hgood.due other (by
            simpa [WakeLocal.setDirty, Function.update_of_ne hsame] using
              hmarked))
      · intro other
        have hcount := hledger other
        simp only [WakeLocal.clears, WakeLocal.calls, WakeLocal.marksAgain,
          List.count_append, hdone.count_eq, List.nil_append,
          List.count_cons, List.count_nil, beq_iff_eq, reduceCtorEq,
          if_false, WakeOutput.markedAgain.injEq, WakeItem.wake.injEq,
          Option.some.injEq] at hcount ⊢
        omega

theorem mark (hgood : WakeGood config loc) {txq : TxqId}
    (hrefused : txq ∈ loc.refused)
    (hmeets : loc.Kept config txq) :
    WakeGood config { loc.setDirty txq true with
      refused := loc.refused.erase txq } := by
  constructor
  · intro other hmarked
    by_cases hsame : other = txq
    · rw [hsame]
      exact hgood.refused txq hrefused
    · exact hgood.attached other (by
        simpa [WakeLocal.setDirty, Function.update_of_ne hsame] using hmarked)
  · exact fun other hmem => hgood.refused other (List.mem_of_mem_erase hmem)
  · exact hgood.wakes
  · intro other hmarked
    by_cases hsame : other = txq
    · rw [hsame]
      exact hmeets
    · exact hgood.due other (by
        simpa [WakeLocal.setDirty, Function.update_of_ne hsame] using hmarked)
  · exact hgood.ledger

theorem dequeue (hgood : WakeGood config loc) {txq : TxqId} {after : WakeLocal}
    (hmeets : loc.stopped (config.queueOf txq) = true → txq.ac < config.nAcs)
    (hdequeue : loc.dequeue config txq = some after) : WakeGood config after := by
  unfold WakeLocal.dequeue at hdequeue
  cases hinterface : config.txqInterface txq with
  | none =>
      rw [hinterface] at hdequeue
      cases hdequeue
  | some interface =>
      rw [hinterface] at hdequeue
      dsimp only at hdequeue
      split_ifs at hdequeue with habsent hstopped
      · cases hdequeue
        constructor
        · exact hgood.attached
        · intro other hmem
          rcases List.mem_cons.mp hmem with rfl | hmem
          · obtain ⟨sdata, hsdata, hfound⟩ := Option.bind_eq_some_iff.mp hinterface
            simp only [Bool.or_eq_true, Bool.not_eq_true', not_or,
              Bool.not_eq_false] at habsent
            rw [← WakeConfig.queueOf_eq hsdata hfound] at hstopped
            exact ⟨sdata, interface, hsdata, hfound, habsent.1, habsent.2,
              hmeets hstopped⟩
          · exact hgood.refused other hmem
        · exact hgood.wakes
        · exact hgood.due
        · exact hgood.ledger
      · cases hdequeue
        exact hgood

theorem perform {event : WakeEvent} {after : WakeLocal}
    (hgood : WakeGood config loc) (hmeets : WakeMeets config loc event)
    (hperform : loc.perform config event = some after) :
    WakeGood config after := by
  cases event with
  | stop queue reason refcounted =>
      cases hperform
      exact hgood.stopQueue queue reason refcounted
  | wake queue reason refcounted =>
      cases hperform
      exact hgood.wakeQueue queue reason refcounted
  | tasklet =>
      simp only [WakeLocal.perform] at hperform
      split_ifs at hperform
      cases hperform
      exact hgood.addLoop
  | walk waker =>
      simp only [WakeLocal.perform, Option.bind_eq_some_iff,
        Option.map_eq_some_iff] at hperform
      obtain ⟨item, hnext, ran, hrun, heq⟩ := hperform
      subst heq
      apply hgood.walk hnext
      apply WakeLocal.runItem_effect (hmeets item hnext) hgood.attached _ hrun
      intro txq hitem
      obtain ⟨others, hbefore, _⟩ := TaskPool.done_perm hnext
      apply hgood.wakes txq
      rw [← hitem]
      exact hbefore.mem_iff.mpr List.mem_cons_self
  | dequeue txq => exact hgood.dequeue hmeets hperform
  | mark txq =>
      simp only [WakeLocal.perform] at hperform
      split_ifs at hperform with hrefused
      cases hperform
      exact hgood.mark hrefused hmeets
  | setNumStaPs sdata count =>
      cases hperform
      exact ⟨hgood.attached, hgood.refused, hgood.wakes, hgood.due, hgood.ledger⟩
  | setReconfig inReconfig =>
      cases hperform
      exact ⟨hgood.attached, hgood.refused, hgood.wakes, hgood.due, hgood.ledger⟩

end WakeGood

end IwlwifiStack
