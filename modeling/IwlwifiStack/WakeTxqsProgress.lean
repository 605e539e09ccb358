import IwlwifiStack.WakeTxqs

/-!
# A refused TXQ is woken

The wake loops come to an end, and when they have, every TXQ that was marked
while its hardware queue was running has been given to the driver.  This is
about runs in which the loop finds the interface TXQs only as it can wake them.
-/

namespace IwlwifiStack

open WakeConfig

/-! ## The loops come to an end -/

namespace WakeLocal

def interfaceCost (config : WakeConfig) : WakeItem → ℕ
  | .interface sdata ac => 4 + 2 * (stationItems config sdata ac).length
  | _ => 0

def itemCost (config : WakeConfig) : WakeItem → ℕ
  | .queue index =>
      1 + ((queueItems config index).map (interfaceCost config)).sum
  | .interface sdata ac => 4 + 2 * (stationItems config sdata ac).length
  | .staTxq _ _ => 2
  | .vifTxqs _ _ => 3
  | .wake _ => 1

def work (config : WakeConfig) (loc : WakeLocal) : ℕ :=
  TaskPool.weight (itemCost config) loc.wakers +
    if loc.wakeTxqsTasklet then
      1 + ((wakeLoop config).map (itemCost config)).sum
    else 0

theorem stationItems_cost (config : WakeConfig) (sdata ac : ℕ) :
    ((stationItems config sdata ac).map (itemCost config)).sum =
      2 * (stationItems config sdata ac).length := by
  have hall : ∀ item ∈ stationItems config sdata ac,
      itemCost config item = 2 := by
    intro item hmem
    simp only [stationItems, List.mem_flatMap] at hmem
    obtain ⟨station, _, hitem⟩ := hmem
    split_ifs at hitem
    · obtain ⟨tid, _, rfl⟩ := List.mem_map.mp hitem
      rfl
    · cases hitem
  rw [List.map_congr_left hall, List.map_const', List.sum_replicate, smul_eq_mul,
    mul_comm]

theorem queueItems_cost (config : WakeConfig) (index : ℕ) :
    (queueItems config index).map (itemCost config) =
      (queueItems config index).map (interfaceCost config) := by
  apply List.map_congr_left
  intro item hmem
  simp only [queueItems, List.mem_flatMap, List.mem_map] at hmem
  obtain ⟨interface, _, ac, _, rfl⟩ := hmem
  rfl

theorem runItem_cost {config : WakeConfig} {loc after : WakeLocal}
    {item : WakeItem} {tasks : List WakeItem}
    (hrun : loc.runItem config item = some (after, tasks)) :
    (tasks.map (itemCost config)).sum < itemCost config item := by
  cases item with
  | queue index =>
      cases hrun
      rw [itemCost]
      split_ifs
      · rw [List.map_nil, List.sum_nil]
        omega
      · rw [queueItems_cost]
        omega
  | interface sdata ac =>
      cases hrun
      rw [itemCost, interfaceItems]
      cases config.interfaces[sdata]? with
      | none =>
          rw [List.map_nil, List.sum_nil]
          omega
      | some interface =>
          dsimp only
          split_ifs
          · rw [List.map_nil, List.sum_nil]
            omega
          · rw [List.map_append, List.sum_append, stationItems_cost,
              List.map_singleton, List.sum_singleton, itemCost]
            omega
  | staTxq station tid =>
      cases hrun
      split_ifs
      · exact Nat.lt_succ_self 1
      · exact Nat.zero_lt_two
  | vifTxqs sdata ac =>
      simp only [runItem, testVifTxqs] at hrun
      cases hinterface : config.interfaces[sdata]? with
      | none =>
          rw [hinterface] at hrun
          cases hrun
          exact Nat.zero_lt_succ _
      | some interface =>
          rw [hinterface] at hrun
          dsimp only at hrun
          generalize (if interface.txq = true then
            loc.testAndClear (.vif sdata) else (loc, false)) = first at hrun
          generalize (if interface.txqMgmt = true then
            first.1.testAndClear (.mgmt sdata) else (first.1, false)) = second
            at hrun
          split at hrun
          · cases hrun
          · rw [Option.some.injEq, Prod.mk.injEq] at hrun
            rw [← hrun.2]
            split_ifs <;> simp [itemCost]
  | wake txq =>
      simp only [runItem, Option.map_eq_some_iff] at hrun
      obtain ⟨_, _, heq⟩ := hrun
      cases heq
      exact Nat.zero_lt_one

theorem testAndClear_frame (loc : WakeLocal) (txq : TxqId) (present : Bool) :
    let tested := if present then loc.testAndClear txq else (loc, false)
    tested.1.queueStopReasons = loc.queueStopReasons ∧
      tested.1.inReconfig = loc.inReconfig ∧
      tested.1.wakeTxqsTasklet = loc.wakeTxqsTasklet := by
  unfold testAndClear
  dsimp only
  split_ifs <;> exact ⟨rfl, rfl, rfl⟩

theorem runItem_frame {config : WakeConfig} {loc after : WakeLocal}
    {item : WakeItem} {tasks : List WakeItem}
    (hrun : loc.runItem config item = some (after, tasks)) :
    after.queueStopReasons = loc.queueStopReasons ∧
      after.inReconfig = loc.inReconfig ∧
      after.wakeTxqsTasklet = loc.wakeTxqsTasklet := by
  cases item with
  | queue index =>
      cases hrun
      exact ⟨rfl, rfl, rfl⟩
  | interface sdata ac =>
      cases hrun
      exact ⟨rfl, rfl, rfl⟩
  | staTxq station tid =>
      cases hrun
      exact testAndClear_frame loc _ true
  | vifTxqs sdata ac =>
      simp only [runItem, testVifTxqs] at hrun
      cases hinterface : config.interfaces[sdata]? with
      | none =>
          rw [hinterface] at hrun
          cases hrun
          exact ⟨rfl, rfl, rfl⟩
      | some interface =>
          rw [hinterface] at hrun
          dsimp only at hrun
          generalize hfirst : (if interface.txq = true then
            loc.testAndClear (.vif sdata) else (loc, false)) = first at hrun
          generalize hsecond : (if interface.txqMgmt = true then
            first.1.testAndClear (.mgmt sdata) else (first.1, false)) = second
            at hrun
          have hframe := testAndClear_frame loc (.vif sdata) interface.txq
          have hlater :=
            testAndClear_frame first.1 (.mgmt sdata) interface.txqMgmt
          dsimp only at hframe hlater
          rw [hfirst] at hframe
          rw [hsecond] at hlater
          split at hrun
          · cases hrun
          · rw [Option.some.injEq, Prod.mk.injEq] at hrun
            rw [← hrun.1]
            exact ⟨hlater.1.trans hframe.1, hlater.2.1.trans hframe.2.1,
              hlater.2.2.trans hframe.2.2⟩
  | wake txq =>
      simp only [runItem, Option.map_eq_some_iff] at hrun
      obtain ⟨woken, hwake, heq⟩ := hrun
      cases heq
      cases txq with
      | none => cases hwake
      | some txq =>
          simp only [drvWakeTxQueue] at hwake
          split_ifs at hwake
          · cases hwake
            exact ⟨rfl, rfl, rfl⟩
          · split at hwake
            · cases hwake
            · cases hwake
              split_ifs <;> exact ⟨rfl, rfl, rfl⟩

def wakeWork : WakeEvent → Prop
  | .tasklet => True
  | .walk _ => True
  | _ => False

theorem wakeWork_lt {config : WakeConfig} {loc after : WakeLocal}
    {event : WakeEvent} (hevent : wakeWork event)
    (hperform : loc.perform config event = some after) :
    after.work config < loc.work config := by
  cases event with
  | tasklet =>
      simp only [perform] at hperform
      split_ifs at hperform with htasklet
      cases hperform
      rw [work, work, if_pos htasklet, if_neg (by simp), TaskPool.weight,
        TaskPool.weight, List.flatten_append, List.map_append, List.sum_append,
        List.flatten_singleton]
      omega
  | walk waker =>
      simp only [perform, Option.bind_eq_some_iff,
        Option.map_eq_some_iff] at hperform
      obtain ⟨item, hnext, ran, hrun, heq⟩ := hperform
      subst heq
      have hless := TaskPool.weight_done_lt hnext (runItem_cost hrun)
      obtain ⟨_, _, htasklet⟩ := runItem_frame hrun
      rw [work, work]
      dsimp only
      rw [htasklet]
      omega
  | _ => exact hevent.elim

theorem wakeWork_bounded {config : WakeConfig} {events : List WakeEvent}
    {loc last : WakeLocal} {outputs : List WakeOutput}
    (hevents : ∀ event ∈ events, wakeWork event)
    (hrun : ConditionedRun.run (step config) loc events =
      some (last, outputs)) : events.length ≤ loc.work config := by
  induction events generalizing loc outputs with
  | nil => exact Nat.zero_le _
  | cons event events ih =>
      rw [List.forall_mem_cons] at hevents
      simp only [ConditionedRun.run, Option.bind_eq_some_iff,
        Option.map_eq_some_iff] at hrun
      obtain ⟨next, hnext, hrest⟩ := hrun
      obtain ⟨after, hperform, heq⟩ := Option.map_eq_some_iff.mp hnext
      have hless := wakeWork_lt hevents.1 hperform
      rw [← heq] at hrest
      obtain ⟨rest, hrest, hlast⟩ := hrest
      cases hlast
      have hlater : events.length ≤ after.work config := ih hevents.2 hrest
      rw [List.length_cons]
      omega

def Quiet (loc : WakeLocal) : Prop :=
  loc.wakeTxqsTasklet = false ∧ loc.wakers.flatten = []

/-- The wake work since an earlier state, for one TXQ. -/
structure Progress (loc later : WakeLocal) (txq : TxqId) : Prop where
  reasons : later.queueStopReasons = loc.queueStopReasons
  reconfig : later.inReconfig = loc.inReconfig
  again : later.marksAgain txq = loc.marksAgain txq
  clears : loc.clears txq ≤ later.clears txq
  marked : loc.dirty txq = true →
    later.dirty txq = true ∨ loc.clears txq < later.clears txq

theorem Progress.effect {config : WakeConfig} {loc later after : WakeLocal}
    {txq : TxqId} {item : WakeItem} {tasks : List WakeItem}
    (hprogress : Progress loc later txq) (hreconfig : loc.inReconfig = false)
    (hrun : later.runItem config item = some (after, tasks))
    (heffect : ItemEffect config later item after tasks) :
    Progress loc after txq := by
  obtain ⟨hreasons, hsame, _⟩ := runItem_frame hrun
  have hagain := hprogress.again
  have hclears := hprogress.clears
  have hmarked := hprogress.marked
  cases heffect with
  | spread => exact hprogress
  | clear other hitem hdirty honly =>
      have hcount : (later.log ++ [WakeOutput.cleared other]).count
          (.cleared txq) = later.clears txq + if other = txq then 1 else 0 := by
        rw [List.count_append, List.count_singleton]
        simp only [beq_iff_eq, WakeOutput.cleared.injEq]
        rfl
      constructor
      · exact hprogress.reasons
      · exact hprogress.reconfig
      · rw [← hagain]
        simp [marksAgain]
      · rw [WakeLocal.clears, WakeLocal.clears, hcount]
        exact hclears.trans (Nat.le_add_right _ _)
      · intro hbefore
        rw [WakeLocal.clears, WakeLocal.clears, hcount]
        by_cases hother : other = txq
        · rw [if_pos hother]
          exact Or.inr (Nat.lt_succ_of_le hclears)
        · rw [if_neg hother, add_zero]
          rcases hmarked hbefore with hstill | hmore
          · exact Or.inl (by simpa [setDirty,
              Function.update_of_ne (Ne.symm hother)] using hstill)
          · exact Or.inr hmore
  | call other hitem =>
      constructor
      · exact hprogress.reasons
      · exact hprogress.reconfig
      · rw [← hagain]
        simp [marksAgain]
      · simpa [WakeLocal.clears] using hclears
      · simpa [WakeLocal.clears] using hmarked
  | again other hitem hdoing =>
      rw [hprogress.reconfig, hreconfig] at hdoing
      cases hdoing

def WakesOnly (config : WakeConfig) (loc : WakeLocal) (event : WakeEvent) :
    Prop :=
  wakeWork event ∧ WakeMeets config loc event

theorem Progress.run {config : WakeConfig} {loc last : WakeLocal}
    (hgood : WakeGood config loc) (hreconfig : loc.inReconfig = false)
    (txq : TxqId) (hreach : ConditionedRun.Reachable (step config) (WakesOnly config)
      loc last) : WakeGood config last ∧ Progress loc last txq := by
  apply hreach.invariant
  · exact ⟨hgood, rfl, rfl, rfl, le_rfl, Or.inl⟩
  · rintro later event after output ⟨hlater, hprogress⟩ ⟨hevent, hmeets⟩ hstep
    obtain ⟨next, hperform, heq⟩ := Option.map_eq_some_iff.mp hstep
    cases heq
    refine ⟨hlater.perform hmeets hperform, ?_⟩
    cases event with
    | tasklet =>
        simp only [perform] at hperform
        split_ifs at hperform
        cases hperform
        exact ⟨hprogress.reasons, hprogress.reconfig, hprogress.again,
          hprogress.clears, hprogress.marked⟩
    | walk waker =>
        simp only [perform, Option.bind_eq_some_iff,
          Option.map_eq_some_iff] at hperform
        obtain ⟨item, hnext, ran, hrun, hafter⟩ := hperform
        subst hafter
        obtain ⟨others, hbefore, _⟩ := TaskPool.done_perm hnext
        have heffect := runItem_effect (hmeets item hnext) hlater.attached
          (fun woken hitem => hlater.wakes woken (by
            rw [← hitem]
            exact hbefore.mem_iff.mpr List.mem_cons_self)) hrun
        have hdone := hprogress.effect hreconfig hrun heffect
        exact ⟨hdone.reasons, hdone.reconfig, hdone.again, hdone.clears,
          hdone.marked⟩
    | _ => exact hevent.elim

theorem woken_of_quiet {config : WakeConfig} {loc last : WakeLocal}
    {txq : TxqId} (hgood : WakeGood config loc)
    (hreconfig : loc.inReconfig = false) (hdirty : loc.dirty txq = true)
    (hrunning : loc.stopped (config.queueOf txq) = false)
    (hreach : ConditionedRun.Reachable (step config) (WakesOnly config) loc
      last) (hquiet : last.Quiet) : loc.calls txq < last.calls txq := by
  obtain ⟨hlast, hprogress⟩ := Progress.run hgood hreconfig txq hreach
  have hcleared : loc.clears txq < last.clears txq := by
    rcases hprogress.marked hdirty with hstill | hmore
    · rcases hlast.due txq hstill with hstopped | htasklet | ⟨item, hitem, _⟩
      · rw [stopped, hprogress.reasons] at hstopped
        rw [stopped, hstopped] at hrunning
        cases hrunning
      · rw [hquiet.1] at htasklet
        cases htasklet
      · rw [hquiet.2] at hitem
        cases hitem
    · exact hmore
  have hbefore := hgood.ledger txq
  have hafter := hlast.ledger txq
  have hagain := hprogress.again
  rw [hquiet.2, List.count_nil] at hafter
  omega

end WakeLocal

/-- What the marks and the wake loops guarantee between two steps. -/
structure TxqWakeExact (config : WakeConfig) (loc : WakeLocal) : Prop where
  due : ∀ txq, loc.dirty txq = true → loc.Kept config txq
  ledger : ∀ txq, loc.clears txq = loc.calls txq + loc.marksAgain txq +
    loc.wakers.flatten.count (.wake (some txq))
  woken : ∀ txq last, loc.inReconfig = false → loc.dirty txq = true →
    loc.stopped (config.queueOf txq) = false →
    ConditionedRun.Reachable (WakeLocal.step config)
      (WakeLocal.WakesOnly config) loc last →
    last.Quiet → loc.calls txq < last.calls txq
  bounded : ∀ events last outputs,
    (∀ event ∈ events, WakeLocal.wakeWork event) →
    ConditionedRun.run (WakeLocal.step config) loc events =
      some (last, outputs) → events.length ≤ loc.work config

theorem WakeGood.initial (config : WakeConfig) :
    WakeGood config WakeLocal.initial := by
  constructor
  · intro txq hdirty
    cases hdirty
  · intro txq hmem
    cases hmem
  · intro txq hmem
    cases hmem
  · intro txq hdirty
    cases hdirty
  · intro txq
    rfl

/-- An access point with one station and a hardware queue for each access
category. -/
def apWakeConfig : WakeConfig where
  queues := 4
  interfaces := [{
    ap := true
    running := true
    inDriver := true
    hwQueue := id
    cabQueue := 255
    txq := true
    txqMgmt := false }]
  stations := [{ sdata := 0, mmpduTxq := false }]
  checked := by simp

def multicastRefused : List WakeEvent :=
  [.stop 2 .csa false, .dequeue (.vif 0), .mark (.vif 0), .wake 2 .csa false] ++
    List.replicate 28 (.walk 0)

end IwlwifiStack
