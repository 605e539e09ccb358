import IwlwifiStack.WakeTxqsModel

/-!
# What a wake loop reaches

A task leads to a TXQ when the loop would still come to it from there.  Each
task hands this on to one of the tasks it leaves, or its hardware queue is
stopped, or it clears the mark and leaves the call.
-/

namespace IwlwifiStack

theorem StopReason.mem_all (reason : StopReason) : reason ∈ StopReason.all := by
  cases reason <;> simp [StopReason.all]

theorem WakeLocal.stopped_iff {loc : WakeLocal} {queue : ℕ} :
    loc.stopped queue = true ↔
      ∃ reason, loc.queueStopReasons queue reason = true := by
  rw [WakeLocal.stopped, List.any_eq_true]
  constructor
  · rintro ⟨reason, _, hset⟩
    exact ⟨reason, hset⟩
  · rintro ⟨reason, hset⟩
    exact ⟨reason, reason.mem_all, hset⟩

theorem TxqId.ac_lt (txq : TxqId) : txq.ac < 4 := by
  cases txq with
  | sta station tid =>
      rw [TxqId.ac, staTxqAc]
      split_ifs
      · decide
      · have hcases : tid % 8 < 8 := Nat.mod_lt _ (by decide)
        interval_cases tid % 8 <;> decide
  | vif sdata => exact Nat.lt_of_sub_eq_succ rfl
  | mgmt sdata => exact Nat.lt_of_sub_eq_succ rfl

namespace WakeConfig

def Attached (config : WakeConfig) (txq : TxqId) : Prop :=
  ∃ sdata interface, config.txqSdata txq = some sdata ∧
    config.interfaces[sdata]? = some interface ∧
    interface.running = true ∧ interface.inDriver = true ∧
    txq.ac < config.nAcs

def Leads (config : WakeConfig) (txq : TxqId) : WakeItem → Prop
  | .queue index => config.queueOf txq = index
  | .interface sdata ac => config.txqSdata txq = some sdata ∧ txq.ac = ac
  | .staTxq station tid => txq = .sta station tid
  | .vifTxqs sdata ac => (txq = .vif sdata ∨ txq = .mgmt sdata) ∧ txq.ac = ac
  | .wake _ => False

variable {config : WakeConfig} {txq : TxqId}

theorem queueOf_eq {sdata : ℕ} {interface : WakeInterface}
    (hsdata : config.txqSdata txq = some sdata)
    (hinterface : config.interfaces[sdata]? = some interface) :
    config.queueOf txq = interface.hwQueue txq.ac := by
  rw [queueOf, txqInterface, hsdata, Option.bind_some, hinterface,
    Option.map_some, Option.getD_some]

theorem Attached.queueOf_lt (hattached : config.Attached txq) :
    config.queueOf txq < config.queues := by
  obtain ⟨sdata, interface, hsdata, hinterface, _⟩ := hattached
  rw [queueOf_eq hsdata hinterface]
  exact config.checked interface (List.mem_of_getElem? hinterface) txq.ac
    txq.ac_lt

theorem Attached.wakeLoop (hattached : config.Attached txq) :
    ∃ item ∈ WakeLocal.wakeLoop config, config.Leads txq item :=
  ⟨.queue (config.queueOf txq),
    List.mem_map_of_mem (List.mem_range.mpr hattached.queueOf_lt), rfl⟩

theorem Attached.queueItems (hattached : config.Attached txq) :
    ∃ item ∈ WakeLocal.queueItems config (config.queueOf txq),
      config.Leads txq item := by
  obtain ⟨sdata, interface, hsdata, hinterface, _, _, hac⟩ := hattached
  refine ⟨.interface sdata txq.ac, ?_, hsdata, rfl⟩
  rw [WakeLocal.queueItems, List.mem_flatMap]
  refine ⟨(interface, sdata), List.mem_zipIdx_iff_getElem?.mpr hinterface, ?_⟩
  apply List.mem_map_of_mem
  rw [List.mem_filter, List.mem_range, queueOf_eq hsdata hinterface]
  exact ⟨hac, by simp⟩

theorem Attached.interfaceItems {sdata : ℕ} (hattached : config.Attached txq)
    (hsdata : config.txqSdata txq = some sdata) :
    ∃ item ∈ WakeLocal.interfaceItems config sdata txq.ac,
      config.Leads txq item := by
  obtain ⟨found, interface, hfound, hinterface, hrunning, _⟩ := hattached
  rw [hsdata, Option.some.injEq] at hfound
  subst hfound
  rw [WakeLocal.interfaceItems, hinterface]
  dsimp only
  rw [if_neg (by simp [hrunning])]
  cases txq with
  | sta station tid =>
      simp only [txqSdata, Option.bind_eq_some_iff] at hsdata
      obtain ⟨entry, hentry, hsame⟩ := hsdata
      split_ifs at hsame with htid
      refine ⟨.staTxq station tid, ?_, rfl⟩
      rw [List.mem_append]
      apply Or.inl
      rw [WakeLocal.stationItems, List.mem_flatMap]
      refine ⟨(entry, station), List.mem_zipIdx_iff_getElem?.mpr hentry, ?_⟩
      rw [if_pos (by simpa using hsame)]
      apply List.mem_map_of_mem
      rw [List.mem_filter]
      exact ⟨htid, by simp [TxqId.ac]⟩
  | vif found =>
      simp only [txqSdata, Option.bind_eq_some_iff] at hsdata
      obtain ⟨_, _, hsame⟩ := hsdata
      split_ifs at hsame
      rw [Option.some.injEq] at hsame
      subst hsame
      exact ⟨.vifTxqs found acBe, List.mem_append_right _ List.mem_cons_self,
        Or.inl rfl, rfl⟩
  | mgmt found =>
      simp only [txqSdata, Option.bind_eq_some_iff] at hsdata
      obtain ⟨_, _, hsame⟩ := hsdata
      split_ifs at hsame
      rw [Option.some.injEq] at hsame
      subst hsame
      exact ⟨.vifTxqs found acVo, List.mem_append_right _ List.mem_cons_self,
        Or.inr rfl, rfl⟩

end WakeConfig

namespace WakeLocal

def Due (config : WakeConfig) (loc : WakeLocal) (txq : TxqId) : Prop :=
  loc.wakeTxqsTasklet = true ∨
    ∃ item ∈ loc.wakers.flatten, config.Leads txq item

def Kept (config : WakeConfig) (loc : WakeLocal) (txq : TxqId) : Prop :=
  loc.stopped (config.queueOf txq) = true ∨ loc.Due config txq

/-- What a task may find: the multicast TXQ marked only when it is to be woken,
no marked management TXQ, and a reconfiguration only while a mark is kept. -/
def ItemMeets (config : WakeConfig) (loc : WakeLocal) : WakeItem → Prop
  | .vifTxqs sdata ac =>
      (loc.dirty (.vif sdata) = true →
        ac = acBe ∧ loc.asleep config sdata = false) ∧
      loc.dirty (.mgmt sdata) = false
  | .wake (some txq) =>
      loc.inReconfig = true → loc.Kept config txq
  | _ => True

/-- What one task does. -/
inductive ItemEffect (config : WakeConfig) (loc : WakeLocal) (item : WakeItem) :
    WakeLocal → List WakeItem → Prop
  | spread {tasks : List WakeItem} : (∀ txq, item ≠ .wake txq) →
      (∀ txq, .wake txq ∉ tasks) →
      (∀ txq, config.Attached txq → loc.dirty txq = true →
        config.Leads txq item → loc.stopped (config.queueOf txq) = true ∨
          ∃ task ∈ tasks, config.Leads txq task) →
      ItemEffect config loc item loc tasks
  | clear (txq : TxqId) : (∀ txq, item ≠ .wake txq) → loc.dirty txq = true →
      (∀ other, config.Leads other item → loc.dirty other = true →
        other = txq) →
      ItemEffect config loc item
        { loc.setDirty txq false with log := loc.log ++ [.cleared txq] }
        [.wake (some txq)]
  | call (txq : TxqId) : item = .wake (some txq) →
      ItemEffect config loc item
        { loc with log := loc.log ++ [.wakeTxQueue txq] } []
  | again (txq : TxqId) : item = .wake (some txq) → loc.inReconfig = true →
      loc.Kept config txq →
      ItemEffect config loc item
        { loc.setDirty txq true with log := loc.log ++ [.markedAgain txq] } []

theorem queueItems_noWake (config : WakeConfig) (index : ℕ) (txq : Option TxqId) :
    .wake txq ∉ queueItems config index := by
  simp [queueItems]

theorem interfaceItems_noWake (config : WakeConfig) (sdata ac : ℕ)
    (txq : Option TxqId) : .wake txq ∉ interfaceItems config sdata ac := by
  unfold interfaceItems stationItems
  cases config.interfaces[sdata]? with
  | none => simp
  | some interface =>
      dsimp only
      split_ifs
      · simp
      · simp only [List.mem_append, List.mem_flatMap, List.mem_singleton,
          reduceCtorEq, or_false, not_exists, not_and]
        intro station _
        split_ifs <;> simp

theorem testAndClear_clean {loc : WakeLocal} {txq : TxqId}
    (hclean : loc.dirty txq = false) : loc.testAndClear txq = (loc, false) :=
  if_neg (by simp [hclean])

theorem testAndClear_dirty {loc : WakeLocal} {txq : TxqId}
    (hdirty : loc.dirty txq = true) : loc.testAndClear txq =
      ({ loc.setDirty txq false with log := loc.log ++ [.cleared txq] }, true) :=
  if_pos hdirty

theorem testVifTxqs_effect {config : WakeConfig} {loc after : WakeLocal}
    {sdata ac : ℕ} {tasks : List WakeItem}
    (hmeets : loc.ItemMeets config (.vifTxqs sdata ac))
    (hattached : ∀ txq, loc.dirty txq = true → config.Attached txq)
    (htest : loc.testVifTxqs config sdata ac = some (after, tasks)) :
    ItemEffect config loc (.vifTxqs sdata ac) after tasks := by
  have hquiet : loc.dirty (.vif sdata) = false →
      ItemEffect config loc (.vifTxqs sdata ac) loc [] := by
    intro hclean
    apply ItemEffect.spread
    · intro txq heq
      cases heq
    · simp
    · rintro txq _ hdirty ⟨rfl | rfl, _⟩
      · rw [hclean] at hdirty
        cases hdirty
      · rw [hmeets.2] at hdirty
        cases hdirty
  unfold testVifTxqs at htest
  cases hinterface : config.interfaces[sdata]? with
  | none =>
      rw [hinterface] at htest
      cases htest
      apply hquiet
      by_contra hdirty
      rw [Bool.not_eq_false] at hdirty
      obtain ⟨found, interface, hfound, hhas, _⟩ := hattached _ hdirty
      simp [WakeConfig.txqSdata, hinterface] at hfound
  | some interface =>
      rw [hinterface] at htest
      dsimp only at htest
      have hmgmt : ∀ other : WakeLocal, other.dirty (.mgmt sdata) = false →
          (if interface.txqMgmt then other.testAndClear (.mgmt sdata)
            else (other, false)) = (other, false) := by
        intro other hclean
        split_ifs
        · exact testAndClear_clean hclean
        · rfl
      cases hdirty : loc.dirty (.vif sdata) with
      | false =>
          have hfirst : (if interface.txq then loc.testAndClear (.vif sdata)
              else (loc, false)) = (loc, false) := by
            split_ifs
            · exact testAndClear_clean hdirty
            · rfl
          rw [hfirst, hmgmt loc hmeets.2] at htest
          simp only [Bool.false_and, Bool.false_eq_true, if_false,
            Option.isSome_none, List.append_nil, Option.some.injEq,
            Prod.mk.injEq] at htest
          rw [← htest.1, ← htest.2]
          exact hquiet hdirty
      | true =>
          obtain ⟨hac, hawake⟩ := hmeets.1 hdirty
          obtain ⟨found, other, hfound, _⟩ := hattached _ hdirty
          have htxq : interface.txq = true := by
            by_contra hmissing
            simp [WakeConfig.txqSdata, hinterface, hmissing] at hfound
          have hcleared : ({ loc.setDirty (.vif sdata) false with
              log := loc.log ++ [.cleared (.vif sdata)] } : WakeLocal).dirty
              (.mgmt sdata) = false := by
            change Function.update loc.dirty (.vif sdata) false (.mgmt sdata) = _
            rw [Function.update_of_ne (by simp)]
            exact hmeets.2
          rw [if_pos htxq, testAndClear_dirty hdirty, hmgmt _ hcleared, hawake,
            hac] at htest
          simp only [Bool.not_false, Bool.and_true, decide_true, if_true,
            Bool.false_and, Bool.false_eq_true, if_false, Option.isSome_some,
            List.append_nil, Option.some.injEq, Prod.mk.injEq] at htest
          rw [← htest.1, ← htest.2]
          apply ItemEffect.clear
          · intro txq heq
            cases heq
          · exact hdirty
          · rintro other ⟨rfl | rfl, _⟩ hmarked
            · rfl
            · rw [hmeets.2] at hmarked
              cases hmarked

theorem runItem_effect {config : WakeConfig} {loc after : WakeLocal}
    {item : WakeItem} {tasks : List WakeItem}
    (hmeets : loc.ItemMeets config item)
    (hattached : ∀ txq, loc.dirty txq = true → config.Attached txq)
    (hwake : ∀ txq, item = .wake (some txq) → config.Attached txq)
    (hrun : loc.runItem config item = some (after, tasks)) :
    ItemEffect config loc item after tasks := by
  cases item with
  | queue index =>
      cases hrun
      apply ItemEffect.spread
      · intro txq heq
        cases heq
      · intro txq
        split_ifs
        · simp
        · exact queueItems_noWake config index txq
      · intro txq htxq _ hleads
        have hindex : config.queueOf txq = index := hleads
        subst hindex
        split_ifs with hstopped
        · exact Or.inl hstopped
        · exact Or.inr htxq.queueItems
  | interface sdata ac =>
      cases hrun
      apply ItemEffect.spread
      · intro txq heq
        cases heq
      · exact interfaceItems_noWake config sdata ac
      · rintro txq htxq _ ⟨hsdata, rfl⟩
        exact Or.inr (htxq.interfaceItems hsdata)
  | staTxq station tid =>
      rw [runItem] at hrun
      cases hdirty : loc.dirty (.sta station tid) with
      | true =>
          rw [testAndClear_dirty hdirty] at hrun
          cases hrun
          apply ItemEffect.clear
          · intro txq heq
            cases heq
          · exact hdirty
          · intro other hleads _
            exact hleads
      | false =>
          rw [testAndClear_clean hdirty] at hrun
          cases hrun
          apply ItemEffect.spread
          · intro txq heq
            cases heq
          · simp
          · intro txq _ hmarked hleads
            rw [show txq = .sta station tid from hleads, hdirty] at hmarked
            cases hmarked
  | vifTxqs sdata ac => exact testVifTxqs_effect hmeets hattached hrun
  | wake txq =>
      cases txq with
      | none => cases hrun
      | some txq =>
          obtain ⟨sdata, interface, hsdata, hinterface, _, hdriver, _⟩ :=
            hwake txq rfl
          have hfound : config.txqInterface txq = some interface := by
            rw [WakeConfig.txqInterface, hsdata, Option.bind_some, hinterface]
          simp only [runItem, drvWakeTxQueue, hfound, hdriver, if_true] at hrun
          split_ifs at hrun with hreconfig
          · cases hrun
            exact .again txq rfl hreconfig (hmeets hreconfig)
          · cases hrun
            exact .call txq rfl

end WakeLocal

end IwlwifiStack
