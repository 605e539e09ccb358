import IwlwifiStack.ConditionedRun
import IwlwifiStack.TxqPointers

/-!
# The host command queue

`iwl_pcie_enqueue_hcmd`, `iwl_pcie_hcmd_complete` and `iwl_pcie_cmdq_reclaim`
(`pcie/gen1_2/tx.c`), with the part of `iwl_pcie_rx_handle_rb` that frees the
copy of a command.  The buffers that `kmemdup` makes are numbered in the order
of their allocation, and every `kfree` of one is recorded.

What the calls meet on their way is an argument of theirs: whether the
allocation, each DMA mapping and the wake-up of the device succeed.
-/

namespace IwlwifiStack

/-- `IWL_FIRST_TB_SIZE` -/
def iwlFirstTbSize : ℕ := 20

/-- `TFD_MAX_PAYLOAD_SIZE`, a short header and `DEF_CMD_PAYLOAD_SIZE` -/
def tfdMaxPayloadSize : ℕ := 4 + 320

/-- `IWL_ALWAYS_LONG_GROUP` -/
def iwlAlwaysLongGroup : ℕ := 1

/-- One chunk of a command; its length is a `u16`. -/
structure HcmdFragment where
  len : ℕ
  nocopy : Bool
  dup : Bool
  deriving DecidableEq, Repr

/-- `enum CMD_MODE` as far as the queue reads it. -/
structure CmdFlags where
  async : Bool := false
  wantSkb : Bool := false
  blockTxqs : Bool := false
  deriving DecidableEq, Repr

/-- `struct iwl_host_cmd` -/
structure IwlHostCmd where
  groupId : ℕ
  flags : CmdFlags
  fragments : List HcmdFragment
  deriving DecidableEq, Repr

inductive HcmdError
  | einval
  | enomem
  | enospc
  | enodev
  | eio
  deriving DecidableEq, Repr

/-- What one call of `iwl_pcie_enqueue_hcmd` meets: the result of `kmemdup`,
of its DMA mappings in their order, `STATUS_TRANS_DEAD`, and the result of
`iwl_trans_grab_nic_access`. -/
structure EnqueueEnv where
  allocates : Bool
  maps : ℕ → Bool
  transDead : Bool
  wakes : Bool

/-- `struct iwl_pcie_txq_entry` of the command queue. -/
structure CmdEntry where
  freeBuf : Option ℕ := none
  flags : CmdFlags := {}
  deriving DecidableEq, Repr

/-- The command queue of the transport and the buffers made for it. -/
structure CmdQueue where
  writePtr : ℕ
  readPtr : ℕ
  entries : ℕ → CmdEntry
  cmdHoldNicAwake : Bool
  nextBuf : ℕ
  freed : List ℕ

/-- The constants of the device. -/
structure CmdQueueConfig where
  size : TxqSize
  window_lt : size.windowBits < size.ringBits
  cmdQueue : ℕ
  wideCmdHeader : Bool
  apmgWakeUpWa : Bool

/-! ## The layout of a command -/

/-- The local variables of the first loop of `iwl_pcie_enqueue_hcmd`. -/
structure HcmdLayout where
  copySize : ℕ
  hadNocopy : Bool := false
  dupBuf : Option ℕ := none
  cmdlen : List ℕ := []
  deriving DecidableEq, Repr

/-- `sizeof` the header that the group of a command has. -/
def IwlHostCmd.headerSize (cmd : IwlHostCmd) : ℕ :=
  if cmd.groupId ≠ 0 then 8 else 4

/-- The free entries that `iwl_pcie_enqueue_hcmd` asks for. -/
def CmdFlags.requiredSpace (flags : CmdFlags) : ℕ :=
  if flags.async then 2 else 1

/-- The first loop, with the error that ends it; `buf` is what `kmemdup`
returns. -/
def layoutFragments (allocates : Bool) (buf : ℕ) :
    List HcmdFragment → HcmdLayout → HcmdLayout × Option HcmdError
  | [], layout => (layout, none)
  | fragment :: rest, layout =>
      if fragment.len = 0 then
        layoutFragments allocates buf rest
          { layout with cmdlen := layout.cmdlen ++ [0] }
      else
        let copy := min (iwlFirstTbSize - layout.copySize) fragment.len
        let cmdlen := fragment.len - copy
        let layout :=
          { layout with
            copySize := layout.copySize + copy
            cmdlen := layout.cmdlen ++ [cmdlen] }
        if fragment.nocopy then
          if fragment.dup then
            ({ layout with hadNocopy := true }, some .einval)
          else
            layoutFragments allocates buf rest
              { layout with hadNocopy := true }
        else if fragment.dup then
          if layout.dupBuf.isSome then
            ({ layout with hadNocopy := true }, some .einval)
          else if allocates then
            layoutFragments allocates buf rest
              { layout with
                hadNocopy := true
                dupBuf := some buf }
          else
            ({ layout with hadNocopy := true }, some .enomem)
        else if layout.hadNocopy then
          (layout, some .einval)
        else
          layoutFragments allocates buf rest
            { layout with
              copySize := (layout.copySize + cmdlen) % 2 ^ 16 }

def IwlHostCmd.layout (cmd : IwlHostCmd) (allocates : Bool) (buf : ℕ) :
    HcmdLayout × Option HcmdError :=
  layoutFragments allocates buf cmd.fragments
    { copySize := cmd.headerSize }

/-- `copy_size` after the second loop, which copies the data. -/
def copiedSize : List HcmdFragment → ℕ → ℕ
  | [], copySize => copySize
  | fragment :: rest, copySize =>
      if fragment.nocopy || fragment.dup then
        copiedSize rest
          (copySize + min (iwlFirstTbSize - copySize) fragment.len)
      else
        copiedSize rest ((copySize + fragment.len) % 2 ^ 16)

/-- The number of DMA mappings: the rest of what was copied, and the rest of
each chunk that was not. -/
def IwlHostCmd.mappings (cmd : IwlHostCmd) (layout : HcmdLayout) : ℕ :=
  let copySize := copiedSize cmd.fragments cmd.headerSize
  (if copySize > min copySize iwlFirstTbSize then 1 else 0) +
    (cmd.fragments.zip layout.cmdlen).countP fun chunk =>
      chunk.2 ≠ 0 && (chunk.1.nocopy || chunk.1.dup)

/-- No `dma_map_single` of the call fails. -/
def EnqueueEnv.mapsAll (env : EnqueueEnv) (count : ℕ) : Bool :=
  (List.range count).all env.maps

namespace CmdQueue

/-- A queue whose entries were just allocated. -/
def init : CmdQueue where
  writePtr := 0
  readPtr := 0
  entries := fun _ => {}
  cmdHoldNicAwake := false
  nextBuf := 0
  freed := []

/-- `kfree` and `kfree_sensitive` -/
def kfree (queue : CmdQueue) (buf : Option ℕ) : CmdQueue :=
  { queue with freed := queue.freed ++ buf.toList }

def setEntry (queue : CmdQueue) (idx : ℕ) (entry : CmdEntry) : CmdQueue :=
  { queue with entries := Function.update queue.entries idx entry }

/-- A queue for which the next buffer was made, if any. -/
def make (queue : CmdQueue) (dupBuf : Option ℕ) : CmdQueue :=
  { queue with nextBuf := queue.nextBuf + dupBuf.toList.length }

/-- The `memset` of the meta data of the next entry. -/
def clearMeta (config : CmdQueueConfig) (queue : CmdQueue) : CmdQueue :=
  let idx := iwlTxqGetCmdIndex config.size queue.writePtr
  queue.setEntry idx { queue.entries idx with flags := {} }

/-- `iwl_pcie_set_cmd_in_flight` -/
def iwlPcieSetCmdInFlight (config : CmdQueueConfig) (env : EnqueueEnv)
    (queue : CmdQueue) : Except HcmdError CmdQueue :=
  if env.transDead then .error .enodev
  else if !config.apmgWakeUpWa then .ok queue
  else if !(queue.cmdHoldNicAwake || env.wakes) then .error .eio
  else .ok { queue with cmdHoldNicAwake := true }

/-- `iwl_pcie_clear_cmd_in_flight` -/
def iwlPcieClearCmdInFlight (config : CmdQueueConfig) (queue : CmdQueue) :
    CmdQueue :=
  if config.apmgWakeUpWa then { queue with cmdHoldNicAwake := false }
  else queue

/-! ## Putting a command on the queue -/

/-- The part of `iwl_pcie_enqueue_hcmd` after the mappings: the entry takes
the copy over before the device is woken. -/
def submitHcmd (config : CmdQueueConfig) (env : EnqueueEnv)
    (cmd : IwlHostCmd) (dupBuf : Option ℕ) (queue : CmdQueue) :
    CmdQueue × Except HcmdError ℕ :=
  let idx := iwlTxqGetCmdIndex config.size queue.writePtr
  let stale := (queue.entries idx).freeBuf
  let queue :=
    (queue.kfree stale).setEntry idx { freeBuf := dupBuf, flags := cmd.flags }
  match queue.iwlPcieSetCmdInFlight config env with
  | .error error => (queue.kfree dupBuf, .error error)
  | .ok queue =>
      ({ queue with writePtr := iwlTxqIncWrap config.size queue.writePtr },
        .ok idx)

/-- The part of `iwl_pcie_enqueue_hcmd` under the lock of the queue. -/
def placeHcmd (config : CmdQueueConfig) (env : EnqueueEnv)
    (cmd : IwlHostCmd) (layout : HcmdLayout) (queue : CmdQueue) :
    CmdQueue × Except HcmdError ℕ :=
  if iwlTxqSpace config.size queue.writePtr queue.readPtr <
      cmd.flags.requiredSpace then
    (queue.kfree layout.dupBuf, .error .enospc)
  else
    let queue := queue.clearMeta config
    if !env.mapsAll (cmd.mappings layout) then
      (queue.kfree layout.dupBuf, .error .enomem)
    else
      queue.submitHcmd config env cmd layout.dupBuf

/-- `iwl_pcie_enqueue_hcmd` -/
def iwlPcieEnqueueHcmd (config : CmdQueueConfig) (queue : CmdQueue)
    (cmd : IwlHostCmd) (env : EnqueueEnv) :
    CmdQueue × Except HcmdError ℕ :=
  if !config.wideCmdHeader && cmd.groupId > iwlAlwaysLongGroup then
    (queue, .error .einval)
  else
    let layout := (cmd.layout env.allocates queue.nextBuf).1
    let made := queue.make layout.dupBuf
    match (cmd.layout env.allocates queue.nextBuf).2 with
    | some .enomem => (made, .error .enomem)
    | some error => (made.kfree layout.dupBuf, .error error)
    | none =>
        if layout.copySize > tfdMaxPayloadSize then
          (made.kfree layout.dupBuf, .error .einval)
        else
          made.placeHcmd config env cmd layout

/-! ## Responses -/

/-- The loop of `iwl_pcie_cmdq_reclaim`: the new `read_ptr` and `nfreed`. -/
def reclaimLoop (size : TxqSize) (idx : ℕ) :
    ℕ → ℕ → ℕ → ℕ → Option (ℕ × ℕ)
  | 0, _, _, _ => none
  | fuel + 1, r, readPtr, nfreed =>
      if r = idx then some (readPtr, nfreed)
      else
        reclaimLoop size idx fuel (iwlTxqIncWrap size r)
          (iwlTxqIncWrap size readPtr) (nfreed + 1)

/-- `iwl_pcie_cmdq_reclaim`; with the number of entries it freed, unless the
index is out of range. -/
def iwlPcieCmdqReclaim (config : CmdQueueConfig) (queue : CmdQueue)
    (idx : ℕ) : Option (CmdQueue × Option ℕ) :=
  let size := config.size
  let idx := iwlTxqGetCmdIndex size idx
  let r := iwlTxqGetCmdIndex size queue.readPtr
  if idx ≥ size.maxTfdQueueSize ||
      !iwlTxqUsed size idx queue.readPtr queue.writePtr then
    some (queue, none)
  else
    (reclaimLoop size (iwlTxqIncWrap size idx) size.maxTfdQueueSize r
      queue.readPtr 0).map fun reclaimed =>
        let queue := { queue with readPtr := reclaimed.1 }
        (if queue.readPtr = queue.writePtr then
            queue.iwlPcieClearCmdInFlight config
          else queue,
          some reclaimed.2)

/-- `SEQ_TO_INDEX` and `SEQ_TO_QUEUE` -/
def seqToIndex (sequence : ℕ) : ℕ := sequence % 256

def seqToQueue (sequence : ℕ) : ℕ := sequence / 256 % 32

/-- `iwl_pcie_hcmd_complete`; the output is the flags that say what is done
for the sender, and what `iwl_pcie_cmdq_reclaim` freed. -/
def iwlPcieHcmdComplete (config : CmdQueueConfig) (queue : CmdQueue)
    (sequence : ℕ) : Option (CmdQueue × Option (CmdFlags × Option ℕ)) :=
  if seqToQueue sequence ≠ config.cmdQueue then some (queue, none)
  else
    let index := seqToIndex sequence
    let cmdIndex := iwlTxqGetCmdIndex config.size index
    let flags := (queue.entries cmdIndex).flags
    (queue.iwlPcieCmdqReclaim config index).map fun reclaimed =>
      (reclaimed.1.setEntry cmdIndex
          { reclaimed.1.entries cmdIndex with flags := {} },
        some (flags, reclaimed.2))

/-- What `iwl_pcie_rx_handle_rb` does with the response to a command. -/
def handleResponse (config : CmdQueueConfig) (queue : CmdQueue)
    (sequence : ℕ) (pageStolen : Bool) :
    Option (CmdQueue × Option (CmdFlags × Option ℕ)) :=
  let cmdIndex := iwlTxqGetCmdIndex config.size (seqToIndex sequence)
  let entry := queue.entries cmdIndex
  let queue :=
    (queue.kfree entry.freeBuf).setEntry cmdIndex
      { entry with freeBuf := none }
  if pageStolen then some (queue, none)
  else queue.iwlPcieHcmdComplete config sequence

/-! ## Tearing the queue down -/

/-- `iwl_pcie_txq_unmap`: `read_ptr` is advanced until it meets `write_ptr`. -/
def iwlPcieTxqUnmap (config : CmdQueueConfig) (queue : CmdQueue) :
    CmdQueue :=
  if queue.writePtr = queue.readPtr then queue
  else
    { queue with readPtr := queue.writePtr }.iwlPcieClearCmdInFlight config

/-- `iwl_txq_init`, which leaves the entries as they are. -/
def iwlTxqInit (queue : CmdQueue) : CmdQueue :=
  { queue with writePtr := 0, readPtr := 0 }

/-- `iwl_pcie_txq_free`; the next `iwl_pcie_txq_alloc` starts from empty
entries. -/
def iwlPcieTxqFree (config : CmdQueueConfig) (queue : CmdQueue) : CmdQueue :=
  { queue.iwlPcieTxqUnmap config with
    freed :=
      queue.freed ++
        (List.range config.size.nWindow).flatMap fun i =>
          (queue.entries i).freeBuf.toList
    entries := fun _ => {}
    writePtr := 0
    readPtr := 0 }

/-! ## What one call does -/

/-- A chunk that `iwl_pcie_enqueue_hcmd` duplicates. -/
def duplicates (cmd : IwlHostCmd) : Prop :=
  ∃ fragment ∈ cmd.fragments, fragment.dup = true ∧ fragment.len ≠ 0

theorem layoutFragments_dupBuf (allocates : Bool) (buf : ℕ)
    (fragments : List HcmdFragment) (layout : HcmdLayout) :
    (layoutFragments allocates buf fragments layout).1.dupBuf =
        layout.dupBuf ∨
      (layout.dupBuf = none ∧
        (layoutFragments allocates buf fragments layout).1.dupBuf =
          some buf ∧
        ∃ fragment ∈ fragments, fragment.dup = true ∧ fragment.len ≠ 0) := by
  induction fragments generalizing layout with
  | nil => exact .inl rfl
  | cons fragment rest ih =>
      have hrest : ∀ next : HcmdLayout, next.dupBuf = layout.dupBuf →
          (layoutFragments allocates buf rest next).1.dupBuf =
              layout.dupBuf ∨
            (layout.dupBuf = none ∧
              (layoutFragments allocates buf rest next).1.dupBuf =
                some buf ∧
              ∃ chunk ∈ fragment :: rest,
                chunk.dup = true ∧ chunk.len ≠ 0) := by
        intro next hnext
        have hlater := ih next
        rw [hnext] at hlater
        refine hlater.imp_right fun hmade => ⟨hmade.1, hmade.2.1, ?_⟩
        obtain ⟨chunk, hmem, hchunk⟩ := hmade.2.2
        exact ⟨chunk, List.mem_cons_of_mem _ hmem, hchunk⟩
      simp only [layoutFragments]
      split
      case isTrue => exact hrest _ rfl
      case isFalse hlen =>
          split
          case isTrue =>
              split
              case isTrue => exact .inl rfl
              case isFalse => exact hrest _ rfl
          case isFalse =>
              split
              case isTrue hdup =>
                  split
                  case isTrue => exact .inl rfl
                  case isFalse hnone =>
                      split
                      case isTrue =>
                          rw [Bool.not_eq_true, Option.isSome_eq_false_iff,
                            Option.isNone_iff_eq_none] at hnone
                          have hlater := ih
                            { layout with
                              copySize := layout.copySize +
                                min (iwlFirstTbSize - layout.copySize)
                                  fragment.len
                              cmdlen := layout.cmdlen ++ [fragment.len -
                                min (iwlFirstTbSize - layout.copySize)
                                  fragment.len]
                              hadNocopy := true
                              dupBuf := some buf }
                          have hmade := hlater.resolve_right
                            fun hright => absurd hright.1 (by simp)
                          exact .inr ⟨hnone, hmade, fragment,
                            List.mem_cons_self, hdup, hlen⟩
                      case isFalse => exact .inl rfl
              case isFalse =>
                  split
                  case isTrue => exact .inl rfl
                  case isFalse => exact hrest _ rfl

theorem layoutFragments_enomem {allocates : Bool} {buf : ℕ}
    {fragments : List HcmdFragment} {layout : HcmdLayout}
    (herror : (layoutFragments allocates buf fragments layout).2 =
      some .enomem) :
    (layoutFragments allocates buf fragments layout).1.dupBuf = none := by
  induction fragments generalizing layout with
  | nil => cases herror
  | cons fragment rest ih =>
      simp only [layoutFragments] at herror ⊢
      split at herror
      case isTrue hlen =>
          rw [if_pos hlen]
          exact ih herror
      case isFalse hlen =>
          rw [if_neg hlen]
          split at herror
          case isTrue hnocopy =>
              rw [if_pos hnocopy]
              split at herror
              case isTrue => cases herror
              case isFalse hdup =>
                  rw [if_neg hdup]
                  exact ih herror
          case isFalse hnocopy =>
              rw [if_neg hnocopy]
              split at herror
              case isTrue hdup =>
                  rw [if_pos hdup]
                  split at herror
                  case isTrue => cases herror
                  case isFalse hnone =>
                      rw [if_neg hnone]
                      split at herror
                      case isTrue hallocates =>
                          rw [if_pos hallocates]
                          exact ih herror
                      case isFalse hfails =>
                          rw [if_neg hfails]
                          simpa using hnone
              case isFalse hdup =>
                  rw [if_neg hdup]
                  split at herror
                  case isTrue => cases herror
                  case isFalse hhad =>
                      rw [if_neg hhad]
                      exact ih herror

/-- The device cannot be told of a command. -/
def WakeFails (config : CmdQueueConfig) (queue : CmdQueue)
    (env : EnqueueEnv) : Prop :=
  env.transDead = true ∨
    (config.apmgWakeUpWa = true ∧ queue.cmdHoldNicAwake = false ∧
      env.wakes = false)

theorem iwlPcieSetCmdInFlight_cases (config : CmdQueueConfig)
    (env : EnqueueEnv) (queue : CmdQueue) :
    ((∃ error, queue.iwlPcieSetCmdInFlight config env = .error error) ∧
        queue.WakeFails config env) ∨
      (∃ hold, queue.iwlPcieSetCmdInFlight config env =
        .ok { queue with cmdHoldNicAwake := hold }) := by
  unfold iwlPcieSetCmdInFlight WakeFails
  by_cases hdead : env.transDead = true
  · rw [if_pos hdead]
    exact .inl ⟨⟨.enodev, rfl⟩, .inl hdead⟩
  · rw [if_neg hdead]
    by_cases hapmg : config.apmgWakeUpWa = true
    · rw [if_neg (by simp [hapmg])]
      by_cases hawake : (queue.cmdHoldNicAwake || env.wakes) = true
      · rw [if_neg (by simp [hawake])]
        exact .inr ⟨true, rfl⟩
      · rw [if_pos (by simp [hawake])]
        rw [Bool.or_eq_true, not_or, Bool.not_eq_true,
          Bool.not_eq_true] at hawake
        exact .inl ⟨⟨.eio, rfl⟩, .inr ⟨hapmg, hawake⟩⟩
    · rw [if_pos (by simp [hapmg])]
      exact .inr ⟨queue.cmdHoldNicAwake, rfl⟩

/-- The next entry gets the copy of a command; what it held is freed. -/
def holdCopy (config : CmdQueueConfig) (queue : CmdQueue)
    (cmd : IwlHostCmd) (dupBuf : Option ℕ) : CmdQueue :=
  let idx := iwlTxqGetCmdIndex config.size queue.writePtr
  (queue.kfree (queue.entries idx).freeBuf).setEntry idx
    { freeBuf := dupBuf, flags := cmd.flags }

theorem submitHcmd_cases (config : CmdQueueConfig) (env : EnqueueEnv)
    (cmd : IwlHostCmd) (dupBuf : Option ℕ) (queue : CmdQueue) :
    (queue.WakeFails config env ∧
        ∃ error, queue.submitHcmd config env cmd dupBuf =
          ((queue.holdCopy config cmd dupBuf).kfree dupBuf,
            .error error)) ∨
      (∃ hold, queue.submitHcmd config env cmd dupBuf =
        ({ queue.holdCopy config cmd dupBuf with
            cmdHoldNicAwake := hold
            writePtr := iwlTxqIncWrap config.size queue.writePtr },
          .ok (iwlTxqGetCmdIndex config.size queue.writePtr))) := by
  have hwake := iwlPcieSetCmdInFlight_cases config env
    (queue.holdCopy config cmd dupBuf)
  unfold submitHcmd
  obtain ⟨⟨error, herror⟩, hfails⟩ | ⟨hold, hok⟩ := hwake
  · refine .inl ⟨hfails, error, ?_⟩
    simp only [holdCopy] at herror ⊢
    rw [herror]
  · refine .inr ⟨hold, ?_⟩
    simp only [holdCopy] at hok ⊢
    rw [hok]
    rfl

/-- None of the checks before the wake-up of the device ends the call. -/
def ReachesWakeUp (config : CmdQueueConfig) (queue : CmdQueue)
    (cmd : IwlHostCmd) (env : EnqueueEnv) : Prop :=
  let layout := (cmd.layout env.allocates queue.nextBuf).1
  (config.wideCmdHeader = true ∨ cmd.groupId ≤ iwlAlwaysLongGroup) ∧
    (cmd.layout env.allocates queue.nextBuf).2 = none ∧
    layout.copySize ≤ tfdMaxPayloadSize ∧
    cmd.flags.requiredSpace ≤
      iwlTxqSpace config.size queue.writePtr queue.readPtr ∧
    env.mapsAll (cmd.mappings layout) = true

/-- A call frees its copy without touching an entry, or after it cleared the
flags of one, or it gives the copy to the entry. -/
theorem iwlPcieEnqueueHcmd_cases (config : CmdQueueConfig)
    (queue : CmdQueue) (cmd : IwlHostCmd) (env : EnqueueEnv) :
    ∃ dupBuf : Option ℕ,
      (dupBuf = none ∨ dupBuf = some queue.nextBuf ∧ duplicates cmd) ∧
      ((∃ error, queue.iwlPcieEnqueueHcmd config cmd env =
          ((queue.make dupBuf).kfree dupBuf, .error error)) ∨
        (∃ error, queue.iwlPcieEnqueueHcmd config cmd env =
          (((queue.make dupBuf).clearMeta config).kfree dupBuf,
            .error error)) ∨
        (queue.ReachesWakeUp config cmd env ∧
          queue.iwlPcieEnqueueHcmd config cmd env =
            ((queue.make dupBuf).clearMeta config).submitHcmd config env cmd
              dupBuf)) := by
  unfold iwlPcieEnqueueHcmd
  split
  case isTrue =>
      exact ⟨none, .inl rfl, .inl ⟨.einval, by simp [make, kfree]⟩⟩
  case isFalse hgroup =>
      have hdup := layoutFragments_dupBuf env.allocates queue.nextBuf
        cmd.fragments { copySize := cmd.headerSize }
      constructor
      case w =>
          exact (cmd.layout env.allocates queue.nextBuf).1.dupBuf
      case h =>
      constructor
      · exact hdup.imp id fun hmade => ⟨hmade.2.1, hmade.2.2⟩
      dsimp only
      split
      case h_1 herror =>
          have hnone := layoutFragments_enomem herror
          refine .inl ⟨.enomem, ?_⟩
          simp [IwlHostCmd.layout, hnone, make, kfree]
      case h_2 error _ _ => exact .inl ⟨error, rfl⟩
      case h_3 hlayout =>
          split
          case isTrue => exact .inl ⟨.einval, rfl⟩
          case isFalse hcopy =>
              simp only [placeHcmd]
              split
              case isTrue => exact .inl ⟨.enospc, rfl⟩
              case isFalse hspace =>
                  split
                  case isTrue => exact .inr (.inl ⟨.enomem, rfl⟩)
                  case isFalse hmaps =>
                      refine .inr (.inr ⟨⟨?_, hlayout,
                        Nat.le_of_not_lt hcopy, Nat.le_of_not_lt hspace,
                        by simpa using hmaps⟩, rfl⟩)
                      by_contra hnot
                      push Not at hnot
                      exact hgroup (by simp [hnot.1, hnot.2])

end CmdQueue

end IwlwifiStack
