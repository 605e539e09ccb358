import IwlwifiStack.CommandQueueModel

/-!
# The duplicated buffers of the command queue

A buffer made by `kmemdup` is freed by the call that made it, or it becomes
the `free_buf` of one entry and is freed by the response, by the next command
in that entry or with the queue.  Only a call that gives its copy to the entry
and then finds the device not waking frees what the entry still holds.
-/

namespace IwlwifiStack

namespace CmdQueue

variable {config : CmdQueueConfig} {queue : CmdQueue}

def holders (config : CmdQueueConfig) (queue : CmdQueue) (buf : ℕ) : ℕ :=
  SlotRing.total config.size.nWindow
    (fun entry => entry.freeBuf.toList.count buf) queue.entries

def owners (config : CmdQueueConfig) (queue : CmdQueue) (buf : ℕ) : ℕ :=
  queue.holders config buf + queue.freed.count buf

def Owned (config : CmdQueueConfig) (queue : CmdQueue) : Prop :=
  ∀ buf, queue.owners config buf = if buf < queue.nextBuf then 1 else 0

theorem owners_kfree (dupBuf : Option ℕ) (buf : ℕ) :
    (queue.kfree dupBuf).owners config buf =
      queue.owners config buf + dupBuf.toList.count buf := by
  simp only [owners, holders, kfree, List.count_append, Nat.add_assoc]

theorem owners_setEntry {idx : ℕ} (hidx : idx < config.size.nWindow)
    (entry : CmdEntry) (buf : ℕ) :
    (queue.setEntry idx entry).owners config buf +
        (queue.entries idx).freeBuf.toList.count buf =
      queue.owners config buf + entry.freeBuf.toList.count buf := by
  have htotal := SlotRing.total_update
    (fun entry : CmdEntry => entry.freeBuf.toList.count buf) queue.entries
    entry hidx
  simp only [owners, holders, setEntry]
  omega

theorem owners_clearMeta (buf : ℕ) :
    (queue.clearMeta config).owners config buf =
      queue.owners config buf := by
  have hset := @owners_setEntry config queue _
    (iwlTxqGetCmdIndex_lt queue.writePtr)
    { queue.entries (iwlTxqGetCmdIndex config.size queue.writePtr) with
      flags := {} } buf
  exact Nat.add_right_cancel hset

theorem owners_holdCopy (cmd : IwlHostCmd) (dupBuf : Option ℕ) (buf : ℕ) :
    (queue.holdCopy config cmd dupBuf).owners config buf =
      queue.owners config buf + dupBuf.toList.count buf := by
  have hset := @owners_setEntry config
    (queue.kfree
      (queue.entries
        (iwlTxqGetCmdIndex config.size queue.writePtr)).freeBuf) _
    (iwlTxqGetCmdIndex_lt queue.writePtr)
    { freeBuf := dupBuf, flags := cmd.flags } buf
  rw [owners_kfree] at hset
  simp only [kfree] at hset
  simp only [holdCopy, kfree]
  omega

theorem Owned.make (howned : queue.Owned config) {dupBuf : Option ℕ}
    (hmade : dupBuf = none ∨ dupBuf = some queue.nextBuf) (buf : ℕ) :
    queue.owners config buf + dupBuf.toList.count buf =
      if buf < (queue.make dupBuf).nextBuf then 1 else 0 := by
  have hbuf := howned buf
  rcases hmade with rfl | rfl
  · simpa [CmdQueue.make] using hbuf
  · have hnext : (queue.make (some queue.nextBuf)).nextBuf =
        queue.nextBuf + 1 := rfl
    rw [hbuf, hnext, Option.toList_some, List.count_singleton]
    rcases Nat.lt_trichotomy buf queue.nextBuf with hlt | rfl | hgt
    · simp [hlt, hlt.ne', Nat.lt_succ_of_lt hlt]
    · simp
    · simp [hgt.not_gt, hgt.ne, Nat.not_lt.mpr hgt]

/-! ## Every step keeps the owners -/

theorem Owned.afterEnqueue (howned : queue.Owned config) {cmd : IwlHostCmd}
    {env : EnqueueEnv}
    (hwakes : duplicates cmd → queue.ReachesWakeUp config cmd env →
      ¬queue.WakeFails config env) :
    (queue.iwlPcieEnqueueHcmd config cmd env).1.Owned config := by
  obtain ⟨dupBuf, hmade, hcases⟩ :=
    iwlPcieEnqueueHcmd_cases config queue cmd env
  have hfresh : dupBuf = none ∨ dupBuf = some queue.nextBuf :=
    hmade.imp id fun hsome => hsome.1
  intro buf
  have hbuf := howned.make hfresh buf
  obtain ⟨error, heq⟩ | ⟨error, heq⟩ | ⟨hreaches, heq⟩ := hcases
  · rw [heq, owners_kfree]
    exact hbuf
  · rw [heq, owners_kfree, owners_clearMeta]
    exact hbuf
  · obtain ⟨hfails, error, hsubmit⟩ | ⟨hold, hsubmit⟩ :=
      submitHcmd_cases config env cmd dupBuf
        ((queue.make dupBuf).clearMeta config)
    · have hnone : dupBuf = none := by
        rcases hmade with hnone | ⟨-, hdup⟩
        · exact hnone
        · exact absurd hfails (hwakes hdup hreaches)
      rw [heq, hsubmit, owners_kfree, owners_holdCopy, owners_clearMeta]
      subst hnone
      exact hbuf
    · have hheld := @owners_holdCopy config
        ((queue.make dupBuf).clearMeta config) cmd dupBuf buf
      rw [owners_clearMeta] at hheld
      rw [heq, hsubmit]
      exact hheld.trans hbuf

theorem iwlPcieCmdqReclaim_frame {idx : ℕ} {after : CmdQueue}
    {nfreed : Option ℕ}
    (hreclaim : queue.iwlPcieCmdqReclaim config idx = some (after, nfreed)) :
    after.entries = queue.entries ∧ after.freed = queue.freed ∧
      after.nextBuf = queue.nextBuf := by
  unfold iwlPcieCmdqReclaim at hreclaim
  simp only at hreclaim
  split at hreclaim
  case isTrue =>
      simp only [Option.some.injEq, Prod.mk.injEq] at hreclaim
      obtain ⟨rfl, -⟩ := hreclaim
      exact ⟨rfl, rfl, rfl⟩
  case isFalse =>
      obtain ⟨reclaimed, -, heq⟩ := Option.map_eq_some_iff.mp hreclaim
      simp only [Prod.mk.injEq] at heq
      obtain ⟨rfl, -⟩ := heq
      unfold iwlPcieClearCmdInFlight
      split
      · split <;> exact ⟨rfl, rfl, rfl⟩
      · exact ⟨rfl, rfl, rfl⟩

theorem Owned.congr {other : CmdQueue} (howned : queue.Owned config)
    (howners : ∀ buf, other.owners config buf = queue.owners config buf)
    (hnext : other.nextBuf = queue.nextBuf) : other.Owned config := by
  intro buf
  rw [howners, hnext]
  exact howned buf

theorem Owned.afterComplete (howned : queue.Owned config) {sequence : ℕ}
    {after : CmdQueue} {output : Option (CmdFlags × Option ℕ)}
    (hcomplete : queue.iwlPcieHcmdComplete config sequence =
      some (after, output)) :
    after.Owned config := by
  unfold iwlPcieHcmdComplete at hcomplete
  simp only at hcomplete
  split at hcomplete
  case isTrue =>
      simp only [Option.some.injEq, Prod.mk.injEq] at hcomplete
      obtain ⟨rfl, -⟩ := hcomplete
      exact howned
  case isFalse =>
      obtain ⟨reclaimed, hreclaim, heq⟩ :=
        Option.map_eq_some_iff.mp hcomplete
      simp only [Prod.mk.injEq] at heq
      obtain ⟨rfl, -⟩ := heq
      obtain ⟨hentries, hfreed, hnext⟩ := iwlPcieCmdqReclaim_frame hreclaim
      refine howned.congr (fun buf => ?_) hnext
      have hset := @owners_setEntry config reclaimed.1 _
        (iwlTxqGetCmdIndex_lt (seqToIndex sequence))
        { reclaimed.1.entries
            (iwlTxqGetCmdIndex config.size (seqToIndex sequence)) with
          flags := {} } buf
      have hsame : reclaimed.1.owners config buf =
          queue.owners config buf := by
        simp only [owners, holders, hentries, hfreed]
      rw [← hsame]
      exact Nat.add_right_cancel hset

theorem Owned.afterResponse (howned : queue.Owned config) {sequence : ℕ}
    {pageStolen : Bool} {after : CmdQueue}
    {output : Option (CmdFlags × Option ℕ)}
    (hresponse : queue.handleResponse config sequence pageStolen =
      some (after, output)) :
    after.Owned config := by
  have hidx := @iwlTxqGetCmdIndex_lt config.size (seqToIndex sequence)
  have hreleased :
      ((queue.kfree (queue.entries (iwlTxqGetCmdIndex config.size
          (seqToIndex sequence))).freeBuf).setEntry
        (iwlTxqGetCmdIndex config.size (seqToIndex sequence))
        { queue.entries (iwlTxqGetCmdIndex config.size
            (seqToIndex sequence)) with freeBuf := none }).Owned config := by
    refine howned.congr (fun buf => ?_) rfl
    have hset := @owners_setEntry config
      (queue.kfree (queue.entries (iwlTxqGetCmdIndex config.size
        (seqToIndex sequence))).freeBuf) _ hidx
      { queue.entries (iwlTxqGetCmdIndex config.size
          (seqToIndex sequence)) with freeBuf := none } buf
    rw [owners_kfree] at hset
    exact Nat.add_right_cancel hset
  unfold handleResponse at hresponse
  simp only at hresponse
  split at hresponse
  case isTrue =>
      simp only [Option.some.injEq, Prod.mk.injEq] at hresponse
      obtain ⟨rfl, -⟩ := hresponse
      exact hreleased
  case isFalse => exact hreleased.afterComplete hresponse

theorem Owned.afterUnmap (howned : queue.Owned config) :
    (queue.iwlPcieTxqUnmap config).Owned config := by
  unfold iwlPcieTxqUnmap iwlPcieClearCmdInFlight
  split
  · exact howned
  · split <;> exact howned

theorem count_entries (entries : ℕ → CmdEntry) (width buf : ℕ) :
    ((List.range width).flatMap fun i =>
        (entries i).freeBuf.toList).count buf =
      SlotRing.total width (fun entry => entry.freeBuf.toList.count buf)
        entries := by
  induction width with
  | zero => rfl
  | succ width ih =>
      rw [List.range_succ, List.flatMap_append, List.count_append, ih,
        SlotRing.total, SlotRing.total, Finset.sum_range_succ]
      simp

theorem count_txqFree (buf : ℕ) :
    (queue.iwlPcieTxqFree config).freed.count buf =
      queue.owners config buf := by
  simp only [iwlPcieTxqFree, List.count_append, count_entries, owners,
    holders]
  exact Nat.add_comm _ _

theorem Owned.afterFree (howned : queue.Owned config) :
    (queue.iwlPcieTxqFree config).Owned config := by
  refine howned.congr (fun buf => ?_) ?_
  · have hempty : (queue.iwlPcieTxqFree config).holders config buf = 0 :=
      SlotRing.total_eq_zero_iff.mpr fun _ _ => rfl
    rw [owners, hempty, Nat.zero_add, count_txqFree]
  · simp only [iwlPcieTxqFree, iwlPcieTxqUnmap, iwlPcieClearCmdInFlight]
    split
    · rfl
    · split <;> rfl

/-! ## Runs of the queue -/

inductive Event
  | enqueue (cmd : IwlHostCmd) (env : EnqueueEnv)
  | response (sequence : ℕ) (pageStolen : Bool)
  | unmap
  | init
  | free

/-- One call on the command queue; the output is the result of a call of
`iwl_pcie_enqueue_hcmd`. -/
def step (config : CmdQueueConfig) (queue : CmdQueue) :
    Event → Option (CmdQueue × List (Except HcmdError ℕ))
  | .enqueue cmd env =>
      let sent := queue.iwlPcieEnqueueHcmd config cmd env
      some (sent.1, [sent.2])
  | .response sequence pageStolen =>
      (queue.handleResponse config sequence pageStolen).map fun handled =>
        (handled.1, [])
  | .unmap => some (queue.iwlPcieTxqUnmap config, [])
  | .init => some (queue.iwlTxqInit, [])
  | .free => some (queue.iwlPcieTxqFree config, [])

def WakesForCopies (config : CmdQueueConfig) (queue : CmdQueue) :
    Event → Prop
  | .enqueue cmd env =>
      duplicates cmd → queue.ReachesWakeUp config cmd env →
        ¬queue.WakeFails config env
  | _ => True

theorem init_owned (config : CmdQueueConfig) : init.Owned config := by
  intro buf
  have hempty : init.holders config buf = 0 :=
    SlotRing.total_eq_zero_iff.mpr fun _ _ => rfl
  rw [owners, hempty]
  exact (if_neg (Nat.not_lt_zero buf)).symm

theorem Owned.afterStep (howned : queue.Owned config) {event : Event}
    {after : CmdQueue} {output : List (Except HcmdError ℕ)}
    (hwakes : queue.WakesForCopies config event)
    (hstep : queue.step config event = some (after, output)) :
    after.Owned config := by
  cases event with
  | enqueue cmd env =>
      simp only [step, Option.some.injEq, Prod.mk.injEq] at hstep
      obtain ⟨rfl, -⟩ := hstep
      exact howned.afterEnqueue hwakes
  | response sequence pageStolen =>
      obtain ⟨handled, hhandled, heq⟩ := Option.map_eq_some_iff.mp hstep
      simp only [Prod.mk.injEq] at heq
      obtain ⟨rfl, -⟩ := heq
      exact howned.afterResponse hhandled
  | unmap =>
      simp only [step, Option.some.injEq, Prod.mk.injEq] at hstep
      obtain ⟨rfl, -⟩ := hstep
      exact howned.afterUnmap
  | init =>
      simp only [step, Option.some.injEq, Prod.mk.injEq] at hstep
      obtain ⟨rfl, -⟩ := hstep
      exact howned
  | free =>
      simp only [step, Option.some.injEq, Prod.mk.injEq] at hstep
      obtain ⟨rfl, -⟩ := hstep
      exact howned.afterFree

theorem Owned.freed_or_held (howned : queue.Owned config) {buf : ℕ}
    (hbuf : buf < queue.nextBuf) :
    (queue.freed.count buf = 1 ∧
        ∀ idx < config.size.nWindow,
          (queue.entries idx).freeBuf ≠ some buf) ∨
      (queue.freed.count buf = 0 ∧
        ∃! idx, idx < config.size.nWindow ∧
          (queue.entries idx).freeBuf = some buf) := by
  have hone := howned buf
  rw [if_pos hbuf, owners] at hone
  have hheld : ∀ entry : CmdEntry,
      entry.freeBuf.toList.count buf ≠ 0 ↔ entry.freeBuf = some buf := by
    intro entry
    cases entry.freeBuf <;> simp [List.count_singleton]
  by_cases hnone : queue.holders config buf = 0
  · refine .inl ⟨by omega, fun idx hidx hsome => ?_⟩
    have hzero := SlotRing.total_eq_zero_iff.mp hnone idx hidx
    exact (hheld _).mpr hsome hzero
  · obtain ⟨idx, hidx, hcount⟩ := SlotRing.exists_of_total_ne_zero hnone
    refine .inr ⟨by omega, idx, ⟨hidx, (hheld _).mp hcount⟩, ?_⟩
    intro other hother
    by_contra hne
    -- Without the first entry the second one would be a second owner.
    have hset := @owners_setEntry config queue _ hidx {} buf
    have hleft : (queue.setEntry idx {}).holders config buf ≠ 0 := by
      intro hzero
      have hentry := SlotRing.total_eq_zero_iff.mp hzero other hother.1
      simp only [setEntry, Function.update_of_ne hne, hother.2] at hentry
      simp at hentry
    simp only [owners, (hheld _).mp hcount, Option.toList_some,
      Option.toList_none, List.count_nil, List.count_singleton_self,
      setEntry] at hset
    simp only [holders, setEntry] at hleft
    simp only [holders] at hset hone
    omega

/-- While every call that duplicates a chunk wakes the device, each buffer is
freed once or held by one entry, which loses it no later than with the
queue. -/
theorem dupBuf_freed_once
    (hreach : ConditionedRun.Reachable (step config)
      (WakesForCopies config) init queue) {buf : ℕ}
    (hbuf : buf < queue.nextBuf) :
    ((queue.freed.count buf = 1 ∧
        ∀ idx < config.size.nWindow,
          (queue.entries idx).freeBuf ≠ some buf) ∨
      (queue.freed.count buf = 0 ∧
        ∃! idx, idx < config.size.nWindow ∧
          (queue.entries idx).freeBuf = some buf)) ∧
    (queue.iwlPcieTxqFree config).freed.count buf = 1 := by
  have howned : queue.Owned config :=
    hreach.invariant (init_owned config)
      fun _ _ _ _ hbefore hwakes hstep => hbefore.afterStep hwakes hstep
  constructor
  · exact howned.freed_or_held hbuf
  · rw [count_txqFree, howned buf, if_pos hbuf]

def apmgCmdQueue : CmdQueueConfig where
  size := ⟨5, 8, TxqSize.window32_le, TxqSize.ring256_le⟩
  window_lt := TxqSize.window32_lt
  cmdQueue := 0
  wideCmdHeader := true
  apmgWakeUpWa := true

def chunkCmd (dup : Bool) : IwlHostCmd where
  groupId := 1
  flags := {}
  fragments := [⟨100, false, dup⟩]

def wakeEnv (wakes : Bool) : EnqueueEnv := ⟨true, fun _ => true, false, wakes⟩

/-- The response frees the copy of the command it answers. -/
theorem dupBuf_freed_by_response :
    ∃ queue : CmdQueue, queue.nextBuf = 1 ∧
      (queue.iwlPcieTxqFree apmgCmdQueue).freed.count 0 = 1 ∧
      queue.freed.count 0 = 1 := by
  have hstart : ConditionedRun.Reachable (step apmgCmdQueue)
      (WakesForCopies apmgCmdQueue) init init := .start
  have hawake : ¬init.WakeFails apmgCmdQueue (wakeEnv true) := by
    unfold WakeFails
    decide
  have hsent := hstart.after (.enqueue (chunkCmd true) (wakeEnv true)) _
    (fun _ _ => hawake) rfl
  have hanswered := hsent.after (.response 0 false) _ trivial rfl
  exact ⟨_, rfl, (dupBuf_freed_once hanswered (by decide)).2,
    by decide +kernel⟩

/-- The device does not wake for a command with a copy; the next command in
the same entry frees the copy again. -/
theorem dupBuf_freed_twice :
    ∃ queue : CmdQueue, ConditionedRun.Reachable (step apmgCmdQueue)
        (fun _ _ => True) init queue ∧
      queue.freed.count 0 = 2 := by
  have hrun : (ConditionedRun.run (step apmgCmdQueue) init
      [.enqueue (chunkCmd true) (wakeEnv false),
        .enqueue (chunkCmd false) (wakeEnv true)]).map
        (fun last => last.1.freed) = some [0, 0] := by
    decide +kernel
  obtain ⟨last, hlast, hfreed⟩ := Option.map_eq_some_iff.mp hrun
  refine ⟨last.1, ConditionedRun.reachable_of_run .start hlast, ?_⟩
  rw [hfreed]
  rfl

end CmdQueue

end IwlwifiStack
