import IwlwifiStack.CommandQueueModel

/-!
# Reclaiming the commands of the command queue

Commands are numbered in the order in which they were put on the queue, and a
response answers one of them.  As long as one entry stays free, the response
to a command is accepted and moves `read_ptr` just behind the command.
-/

namespace IwlwifiStack

namespace CmdQueue

variable {size : TxqSize}

theorem reclaimLoop_eq {read idx steps fuel : ℕ} (readPtr nfreed : ℕ)
    (hsteps : steps < fuel)
    (hidx : (read + steps) % size.maxTfdQueueSize = idx)
    (hbefore : ∀ step, step < steps →
      (read + step) % size.maxTfdQueueSize ≠ idx) :
    reclaimLoop size idx fuel (read % size.maxTfdQueueSize)
        (readPtr % size.maxTfdQueueSize) nfreed =
      some ((readPtr + steps) % size.maxTfdQueueSize, nfreed + steps) := by
  induction steps generalizing read readPtr nfreed fuel with
  | zero =>
      cases fuel with
      | zero => omega
      | succ fuel =>
          rw [Nat.add_zero] at hidx
          rw [reclaimLoop, if_pos hidx]
          rfl
  | succ steps ih =>
      cases fuel with
      | zero => omega
      | succ fuel =>
          have hne := hbefore 0 (by omega)
          rw [Nat.add_zero] at hne
          have hnext := @ih (read + 1) fuel (readPtr + 1) (nfreed + 1)
            (by omega) (by rw [← hidx]; congr 1; omega) (by
              intro step hstep
              have hlater := hbefore (step + 1) (by omega)
              rwa [show read + 1 + step = read + (step + 1) by omega])
          rw [reclaimLoop, if_neg hne, iwlTxqIncWrap_ring,
            iwlTxqIncWrap_ring, hnext, Nat.add_right_comm readPtr,
            Nat.add_right_comm nfreed]
          rfl

/-- From one entry to behind another; the far side of the ring lies between
them when the second entry is the smaller one. -/
theorem reclaimLoop_entries {r idx : ℕ} (read : ℕ)
    (hr : r < size.maxTfdQueueSize) (hidx : idx + 1 < size.maxTfdQueueSize) :
    reclaimLoop size (iwlTxqIncWrap size idx) size.maxTfdQueueSize r
        (read % size.maxTfdQueueSize) 0 =
      if r ≤ idx + 1 then
        some ((read + (idx + 1 - r)) % size.maxTfdQueueSize, idx + 1 - r)
      else
        some ((read + (size.maxTfdQueueSize + (idx + 1) - r)) %
          size.maxTfdQueueSize, size.maxTfdQueueSize + (idx + 1) - r) := by
  have hinc : iwlTxqIncWrap size idx = idx + 1 := Nat.mod_eq_of_lt hidx
  have hmod := Nat.mod_eq_of_lt hr
  split
  case isTrue hle =>
      have hloop := @reclaimLoop_eq size r (idx + 1) (idx + 1 - r)
        size.maxTfdQueueSize read 0 (by omega)
        (by rw [Nat.add_sub_cancel' hle, Nat.mod_eq_of_lt hidx])
        (by
          intro step hstep
          rw [Nat.mod_eq_of_lt (by omega)]
          omega)
      rw [hmod, Nat.zero_add] at hloop
      rw [hinc, hloop]
  case isFalse hlt =>
      have hloop := @reclaimLoop_eq size r (idx + 1)
        (size.maxTfdQueueSize + (idx + 1) - r) size.maxTfdQueueSize read 0
        (by omega)
        (by
          rw [Nat.add_sub_cancel' (by omega), Nat.add_mod_left,
            Nat.mod_eq_of_lt hidx])
        (by
          intro step hstep
          by_cases hend : r + step < size.maxTfdQueueSize
          · rw [Nat.mod_eq_of_lt hend]
            omega
          · rw [Nat.mod_eq_sub_mod (by omega), Nat.mod_eq_of_lt (by omega)]
            omega)
      rw [hmod, Nat.zero_add] at hloop
      rw [hinc, hloop]

theorem iwlPcieEnqueueHcmd_pointers (config : CmdQueueConfig)
    (queue : CmdQueue) (cmd : IwlHostCmd) (env : EnqueueEnv) :
    let sent := queue.iwlPcieEnqueueHcmd config cmd env
    sent.1.readPtr = queue.readPtr ∧
      ((sent.2.toOption.isSome = false ∧ sent.1.writePtr = queue.writePtr) ∨
        (sent.2.toOption.isSome = true ∧
          cmd.flags.requiredSpace ≤
            iwlTxqSpace config.size queue.writePtr queue.readPtr ∧
          sent.1.writePtr = iwlTxqIncWrap config.size queue.writePtr)) := by
  obtain ⟨dupBuf, -, hcases⟩ := iwlPcieEnqueueHcmd_cases config queue cmd env
  obtain ⟨error, heq⟩ | ⟨error, heq⟩ | ⟨hreaches, heq⟩ := hcases
  · rw [heq]
    exact ⟨rfl, .inl ⟨rfl, rfl⟩⟩
  · rw [heq]
    exact ⟨rfl, .inl ⟨rfl, rfl⟩⟩
  · obtain ⟨-, error, hsubmit⟩ | ⟨hold, hsubmit⟩ :=
      submitHcmd_cases config env cmd dupBuf
        ((queue.make dupBuf).clearMeta config)
    · rw [heq, hsubmit]
      exact ⟨rfl, .inl ⟨rfl, rfl⟩⟩
    · rw [heq, hsubmit]
      exact ⟨rfl, .inr ⟨rfl, hreaches.2.2.2.1, rfl⟩⟩

theorem iwlPcieClearCmdInFlight_readPtr (config : CmdQueueConfig)
    (queue : CmdQueue) :
    (queue.iwlPcieClearCmdInFlight config).readPtr = queue.readPtr := by
  unfold iwlPcieClearCmdInFlight
  split <;> rfl

theorem iwlPcieClearCmdInFlight_writePtr (config : CmdQueueConfig)
    (queue : CmdQueue) :
    (queue.iwlPcieClearCmdInFlight config).writePtr = queue.writePtr := by
  unfold iwlPcieClearCmdInFlight
  split <;> rfl

theorem iwlPcieCmdqReclaim_used {config : CmdQueueConfig} {queue : CmdQueue}
    {idx readPtr nfreed : ℕ}
    (hused : iwlTxqUsed config.size (iwlTxqGetCmdIndex config.size idx)
      queue.readPtr queue.writePtr = true)
    (hloop : reclaimLoop config.size
        (iwlTxqIncWrap config.size (iwlTxqGetCmdIndex config.size idx))
        config.size.maxTfdQueueSize
        (iwlTxqGetCmdIndex config.size queue.readPtr) queue.readPtr 0 =
      some (readPtr, nfreed)) :
    ∃ after, queue.iwlPcieCmdqReclaim config idx =
        some (after, some nfreed) ∧
      after.readPtr = readPtr ∧ after.writePtr = queue.writePtr := by
  have hlt : iwlTxqGetCmdIndex config.size idx <
      config.size.maxTfdQueueSize :=
    lt_of_lt_of_le (iwlTxqGetCmdIndex_lt idx) config.size.nWindow_le
  have hin : ¬((decide (iwlTxqGetCmdIndex config.size idx ≥
      config.size.maxTfdQueueSize) ||
      !iwlTxqUsed config.size (iwlTxqGetCmdIndex config.size idx)
        queue.readPtr queue.writePtr) = true) := by
    simp [hused, hlt]
  unfold iwlPcieCmdqReclaim
  simp only
  rw [if_neg hin, hloop]
  refine ⟨_, rfl, ?_, ?_⟩
  · split
    · exact iwlPcieClearCmdInFlight_readPtr _ _
    · rfl
  · split
    · exact iwlPcieClearCmdInFlight_writePtr _ _
    · rfl

end CmdQueue

/-- The command queue with the numbers of the oldest command that is not
answered and of the next one to be sent. -/
structure CmdqRun where
  queue : CmdQueue
  answered : ℕ
  submitted : ℕ

inductive CmdqEvent
  | send (cmd : IwlHostCmd) (env : EnqueueEnv)
  | respond (position : ℕ)

namespace CmdqRun

open CmdQueue

def init : CmdqRun where
  queue := CmdQueue.init
  answered := 0
  submitted := 0

/-- One call of `iwl_pcie_enqueue_hcmd`, or the reclaim of a command in
flight; responses come in the order of the commands. -/
def step (config : CmdQueueConfig) (run : CmdqRun) :
    CmdqEvent → Option (CmdqRun × List (Option ℕ))
  | .send cmd env =>
      let sent := run.queue.iwlPcieEnqueueHcmd config cmd env
      some
        ({ run with
            queue := sent.1
            submitted :=
              run.submitted + if sent.2.toOption.isSome then 1 else 0 }, [])
  | .respond position =>
      if run.answered ≤ position ∧ position < run.submitted then
        (run.queue.iwlPcieCmdqReclaim config
            (position % config.size.maxTfdQueueSize)).map fun reclaimed =>
          ({ run with
              queue := reclaimed.1
              answered := position + 1 }, [reclaimed.2])
      else none

/-- A synchronous command does not take the last free entry, and a response
that skips commands does not pass the end of the entries. -/
def Allowed (config : CmdQueueConfig) (run : CmdqRun) : CmdqEvent → Prop
  | .send cmd _ =>
      cmd.flags.async = false →
        iwlTxqSpace config.size run.queue.writePtr run.queue.readPtr ≠ 1
  | .respond position =>
      run.answered % config.size.nWindow ≤ position % config.size.nWindow

/-- The pointers are those of the commands in flight. -/
structure InStep (config : CmdQueueConfig) (run : CmdqRun) : Prop where
  answered_le : run.answered ≤ run.submitted
  inFlight_lt : run.submitted - run.answered < config.size.nWindow
  readPtr_eq :
    run.queue.readPtr = run.answered % config.size.maxTfdQueueSize
  writePtr_eq :
    run.queue.writePtr = run.submitted % config.size.maxTfdQueueSize

variable {config : CmdQueueConfig} {run : CmdqRun}

theorem capacity_eq (config : CmdQueueConfig) :
    config.size.capacity = config.size.nWindow := by
  have hlt : config.size.nWindow < config.size.maxTfdQueueSize :=
    Nat.pow_lt_pow_right one_lt_two config.window_lt
  exact if_pos hlt

theorem init_inStep (config : CmdQueueConfig) : init.InStep config where
  answered_le := le_refl 0
  inFlight_lt := config.size.nWindow_pos
  readPtr_eq := (Nat.zero_mod _).symm
  writePtr_eq := (Nat.zero_mod _).symm

theorem InStep.space_eq (hin : run.InStep config) :
    iwlTxqSpace config.size run.queue.writePtr run.queue.readPtr =
      config.size.nWindow - (run.submitted - run.answered) := by
  have hlt := hin.inFlight_lt
  rw [hin.writePtr_eq, hin.readPtr_eq,
    iwlTxqSpace_ring hin.answered_le (by rw [capacity_eq]; omega),
    capacity_eq]

theorem InStep.used_iff (hin : run.InStep config) (i : ℕ) :
    iwlTxqUsed config.size i run.queue.readPtr run.queue.writePtr = true ↔
      ∃ position, run.answered ≤ position ∧ position < run.submitted ∧
        position % config.size.nWindow = i % config.size.nWindow := by
  rw [hin.writePtr_eq, hin.readPtr_eq]
  exact iwlTxqUsed_iff hin.answered_le hin.inFlight_lt i

/-- Every index of a command in flight is accepted; the pointer ends just
behind the command unless the entries wrap on the way. -/
theorem InStep.reclaim (hin : run.InStep config) {position idx : ℕ}
    (hfrom : run.answered ≤ position) (hto : position < run.submitted)
    (hidx : idx % config.size.nWindow = position % config.size.nWindow) :
    ∃ after nfreed, run.queue.iwlPcieCmdqReclaim config idx =
        some (after, some nfreed) ∧
      after.writePtr = run.queue.writePtr ∧
      (after.readPtr = (position + 1) % config.size.maxTfdQueueSize ↔
        run.answered % config.size.nWindow ≤
          position % config.size.nWindow) := by
  have hpos := config.size.nWindow_pos
  have hring : config.size.nWindow < config.size.maxTfdQueueSize :=
    Nat.pow_lt_pow_right one_lt_two config.window_lt
  have hinFlight := hin.inFlight_lt
  have hentry : iwlTxqGetCmdIndex config.size idx =
      position % config.size.nWindow := by
    rw [iwlTxqGetCmdIndex_eq, hidx]
  have hused : iwlTxqUsed config.size (iwlTxqGetCmdIndex config.size idx)
      run.queue.readPtr run.queue.writePtr = true := by
    rw [hin.used_iff, hentry]
    exact ⟨position, hfrom, hto, (Nat.mod_mod _ _).symm⟩
  have hanswered := Nat.mod_lt run.answered hpos
  have hpositionLt := Nat.mod_lt position hpos
  have hoffset := @SlotRing.add_mod_of_lt config.size.nWindow
    (position - run.answered) run.answered (by omega)
  rw [Nat.add_sub_cancel' hfrom] at hoffset
  have hloop := @reclaimLoop_entries config.size
    (run.answered % config.size.nWindow) (position % config.size.nWindow)
    run.answered (by omega) (by omega)
  have hr : iwlTxqGetCmdIndex config.size run.queue.readPtr =
      run.answered % config.size.nWindow := by
    rw [hin.readPtr_eq, iwlTxqGetCmdIndex_ring]
  rw [← hentry, ← hr, ← hin.readPtr_eq] at hloop
  by_cases hwrap : run.answered % config.size.nWindow ≤
      position % config.size.nWindow
  · have hstraight : position % config.size.nWindow =
        run.answered % config.size.nWindow + (position - run.answered) := by
      split at hoffset <;> omega
    rw [if_pos (by omega)] at hloop
    obtain ⟨after, hreclaim, hread, hwrite⟩ :=
      iwlPcieCmdqReclaim_used hused hloop
    refine ⟨after, _, hreclaim, hwrite, fun _ => hwrap, fun _ => ?_⟩
    rw [hread, hentry, hr]
    congr 1
    omega
  · have hround : position % config.size.nWindow + config.size.nWindow =
        run.answered % config.size.nWindow + (position - run.answered) := by
      split at hoffset <;> omega
    rw [if_neg (by omega)] at hloop
    obtain ⟨after, hreclaim, hread, hwrite⟩ :=
      iwlPcieCmdqReclaim_used hused hloop
    refine ⟨after, _, hreclaim, hwrite, fun hbehind => ?_,
      fun hle => absurd hle hwrap⟩
    have hmodLe := Nat.mod_le run.answered config.size.nWindow
    have hback : run.answered + (config.size.maxTfdQueueSize +
          (position % config.size.nWindow + 1) -
            run.answered % config.size.nWindow) =
        position + 1 - config.size.nWindow +
          config.size.maxTfdQueueSize := by omega
    rw [hread, hentry, hr, hback, Nat.add_mod_right] at hbehind
    have hsame := @SlotRing.position_unique config.size.maxTfdQueueSize
      (position + 1 - config.size.nWindow) _ _ (le_refl _) (by omega)
      (by omega) (by omega) hbehind
    omega

theorem InStep.afterSend (hin : run.InStep config) {cmd : IwlHostCmd}
    {env : EnqueueEnv} {after : CmdqRun} {output : List (Option ℕ)}
    (hallowed : run.Allowed config (.send cmd env))
    (hstep : run.step config (.send cmd env) = some (after, output)) :
    after.InStep config := by
  simp only [step, Option.some.injEq, Prod.mk.injEq] at hstep
  obtain ⟨rfl, -⟩ := hstep
  have hle := hin.answered_le
  have hlt := hin.inFlight_lt
  have hspace := hin.space_eq
  obtain ⟨hread, ⟨hfails, hwrite⟩ | ⟨hok, hrequired, hwrite⟩⟩ :=
    iwlPcieEnqueueHcmd_pointers config run.queue cmd env
  · constructor <;> simp only [hfails, hread, hwrite]
    · exact hin.answered_le
    · exact hin.inFlight_lt
    · exact hin.readPtr_eq
    · exact hin.writePtr_eq
  · have htwo : 2 ≤ iwlTxqSpace config.size run.queue.writePtr
        run.queue.readPtr := by
      cases hasync : cmd.flags.async with
      | true => simpa [CmdFlags.requiredSpace, hasync] using hrequired
      | false =>
          have hne := hallowed hasync
          simp only [CmdFlags.requiredSpace, hasync] at hrequired
          have hpos : 1 ≤ iwlTxqSpace config.size run.queue.writePtr
              run.queue.readPtr := hrequired
          omega
    constructor <;> simp only [hok, hread, hwrite, if_true]
    · omega
    · omega
    · exact hin.readPtr_eq
    · rw [hin.writePtr_eq, iwlTxqIncWrap_ring]

theorem InStep.afterRespond (hin : run.InStep config) {position : ℕ}
    {after : CmdqRun} {output : List (Option ℕ)}
    (hallowed : run.Allowed config (.respond position))
    (hstep : run.step config (.respond position) = some (after, output)) :
    after.InStep config := by
  simp only [step] at hstep
  split at hstep
  case isFalse => cases hstep
  case isTrue hinFlight =>
      have hlt := hin.inFlight_lt
      have hidx := Nat.mod_mod_of_dvd position config.size.nWindow_dvd
      obtain ⟨queue, nfreed, hreclaim, hwrite, hbehind⟩ :=
        hin.reclaim hinFlight.1 hinFlight.2 hidx
      rw [hreclaim] at hstep
      simp only [Option.map_some, Option.some.injEq, Prod.mk.injEq] at hstep
      obtain ⟨rfl, -⟩ := hstep
      constructor
      · exact hinFlight.2
      · change run.submitted - (position + 1) < config.size.nWindow
        omega
      · exact hbehind.mpr hallowed
      · exact hwrite.trans hin.writePtr_eq

theorem InStep.afterStep (hin : run.InStep config) {event : CmdqEvent}
    {after : CmdqRun} {output : List (Option ℕ)}
    (hallowed : run.Allowed config event)
    (hstep : run.step config event = some (after, output)) :
    after.InStep config := by
  cases event with
  | send cmd env => exact hin.afterSend hallowed hstep
  | respond position => exact hin.afterRespond hallowed hstep

/-! ## Every command can be reclaimed -/

/-- As long as no command takes the last free entry, the used entries are
those of the commands in flight, each of them is reclaimed by its index, and
the queue is only as full as there are commands without an answer. -/
theorem cmdq_reclaims
    (hreach : ConditionedRun.Reachable (step config) (Allowed config) init
      run) :
    (∀ i, iwlTxqUsed config.size i run.queue.readPtr run.queue.writePtr =
        true ↔
      ∃ position, run.answered ≤ position ∧ position < run.submitted ∧
        position % config.size.nWindow = i % config.size.nWindow) ∧
    (∀ position idx, run.answered ≤ position → position < run.submitted →
      idx % config.size.nWindow = position % config.size.nWindow →
      ∃ after nfreed, run.queue.iwlPcieCmdqReclaim config idx =
          some (after, some nfreed) ∧
        after.writePtr = run.queue.writePtr ∧
        (after.readPtr = (position + 1) % config.size.maxTfdQueueSize ↔
          run.answered % config.size.nWindow ≤
            position % config.size.nWindow)) ∧
    iwlTxqSpace config.size run.queue.writePtr run.queue.readPtr =
      config.size.nWindow - (run.submitted - run.answered) := by
  have hin : run.InStep config :=
    hreach.invariant (init_inStep config)
      fun _ _ _ _ hbefore hallowed hstep => hbefore.afterStep hallowed hstep
  constructor
  · exact hin.used_iff
  constructor
  · intro position idx hfrom hto hidx
    exact hin.reclaim hfrom hto hidx
  · exact hin.space_eq

/-- Thirty-two entries on a ring of 256 positions, on a device that needs no
wake-up. -/
def smallCmdQueue : CmdQueueConfig where
  size := ⟨5, 8, TxqSize.window32_le, TxqSize.ring256_le⟩
  window_lt := TxqSize.window32_lt
  cmdQueue := 0
  wideCmdHeader := true
  apmgWakeUpWa := false

def plainCmd (async : Bool) : IwlHostCmd where
  groupId := 1
  flags := { async := async }
  fragments := [⟨8, false, false⟩]

def smoothEnv : EnqueueEnv := ⟨true, fun _ => true, false, true⟩

theorem cmdq_reclaims_second :
    ∃ (queue after : CmdQueue) (nfreed : ℕ),
      queue.iwlPcieCmdqReclaim smallCmdQueue 1 = some (after, some nfreed) ∧
      after.readPtr = 2 := by
  have hstart : ConditionedRun.Reachable (step smallCmdQueue)
      (Allowed smallCmdQueue) init init := .start
  have hsend := hstart.after (.send (plainCmd true) smoothEnv) [] nofun rfl
  have hboth := hsend.after (.send (plainCmd true) smoothEnv) [] nofun rfl
  have hanswered := hboth.after (.respond 0) _ (le_refl 0) rfl
  obtain ⟨after, nfreed, hreclaim, -, hbehind⟩ :=
    (cmdq_reclaims hanswered).2.1 1 1 (by decide) (by decide) rfl
  exact ⟨_, after, nfreed, hreclaim, hbehind.mpr (by decide)⟩

/-- A synchronous command behind thirty-one asynchronous ones fills the
window, and none of the thirty-two is reclaimed any more. -/
theorem cmdq_reclaim_full :
    ∃ run, ConditionedRun.Reachable (step smallCmdQueue)
        (fun _ _ => True) init run ∧
      run.answered = 0 ∧ run.submitted = 32 ∧
      ∀ position < 32,
        (run.queue.iwlPcieCmdqReclaim smallCmdQueue position).map
          (fun reclaimed => (reclaimed.1.readPtr, reclaimed.2)) =
            some (0, none) := by
  let events :=
    List.replicate 31 (CmdqEvent.send (plainCmd true) smoothEnv) ++
      [.send (plainCmd false) smoothEnv]
  have hrun : (ConditionedRun.run (step smallCmdQueue) init events).map
      (fun last => (last.1.answered, last.1.submitted,
        (List.range 32).all fun position =>
          (last.1.queue.iwlPcieCmdqReclaim smallCmdQueue position).map
            (fun reclaimed => (reclaimed.1.readPtr, reclaimed.2)) =
              some (0, none))) =
      some (0, 32, true) := by
    decide +kernel
  obtain ⟨last, hlast, hfields⟩ := Option.map_eq_some_iff.mp hrun
  simp only [Prod.mk.injEq, List.all_eq_true, List.mem_range,
    decide_eq_true_eq] at hfields
  exact ⟨last.1, ConditionedRun.reachable_of_run .start hlast, hfields⟩

end CmdqRun

end IwlwifiStack
