import IwlwifiStack.FuelLoop
import IwlwifiStack.TxQueueOrder

/-!
# What a reclaim of a transmit queue frees

`iwl_pcie_reclaim` with its loop, whatever transmissions come between its rounds, and the
unmapping of a queue (`iwl_pcie_txq_unmap`, `iwl_txq_gen2_unmap`).
-/

namespace IwlwifiStack

variable {Skb : Type*}

namespace TxQueueRun

variable {config : TxQueueConfig} {start read freed : ℕ} {run after : TxQueueRun Skb}

/-! ## The loop of a reclaim -/

/-- The states behind the start of a reclaim, with the rounds of its loop, whatever transmissions
come between. -/
inductive ReclaimLoop (config : TxQueueConfig) (first : TxQueueRun Skb) :
    ℕ → TxQueueRun Skb → Prop
  | start : ReclaimLoop config first 0 first
  | tx {rounds : ℕ} {run after : TxQueueRun Skb} {skb : Skb} {env : TxEnv} {output : List Skb} :
      ReclaimLoop config first rounds run →
        TxQueueRun.step config run (.tx skb env) = some (after, output) →
        ReclaimLoop config first rounds after
  | round {rounds : ℕ} {run after : TxQueueRun Skb} {env : TxEnv} {txqReadPtr tfdNum : ℕ}
      {isFlush : Bool} {skbs : List Skb} :
      ReclaimLoop config first rounds run →
        run.txq.pc = .freeing txqReadPtr tfdNum isFlush skbs →
        TxQueueRun.advance config run env = some after →
        ReclaimLoop config first (rounds + 1) after

/-- A reclaim whose loop still runs: the frames from `read` to `freed` are freed. -/
structure Frees (config : TxQueueConfig) (start read position : ℕ) (isFlush : Bool)
    (first run : TxQueueRun Skb) (freed : ℕ) : Prop where
  ring : HoldsRing config start read freed run
  pc : ∃ txqReadPtr skbs, run.txq.pc = .freeing txqReadPtr
    ((start + position) % config.size.nWindow) isFlush skbs
  freed_le : freed ≤ position
  position_le : position ≤ first.placed.length
  near : position < read + config.size.nWindow
  placed : first.placed <+: run.placed
  returned : run.returned = first.returned

/-- A reclaim that has freed exactly the frames from `read` to `position`.  A flush also hands
the frames of the overflow queue to its caller. -/
structure HasFreed (config : TxQueueConfig) (start read position : ℕ) (isFlush : Bool)
    (first run : TxQueueRun Skb) : Prop where
  ring : HoldsRing config start position position run
  placed : first.placed <+: run.placed
  returned : ∃ overflowQ, (isFlush = false → overflowQ = []) ∧
    run.returned = first.returned ++ (overflowQ ++ (first.placed.take position).drop read)
  idle : ∀ txqReadPtr tfdNum flush skbs, run.txq.pc ≠ .freeing txqReadPtr tfdNum flush skbs

variable {position : ℕ} {isFlush : Bool} {first : TxQueueRun Skb}

namespace Frees

theorem afterTx (hfrees : Frees config start read position isFlush first run freed) {skb : Skb}
    {env : TxEnv} {output : List Skb}
    (hstep : run.step config (.tx skb env) = some (after, output)) :
    Frees config start read position isFlush first after freed := by
  rcases hfrees.pc with ⟨txqReadPtr, skbs, hpc⟩
  rcases hfrees.ring.afterTx hstep with ⟨hring, hsame, hreturned, hplaced⟩
  constructor
  · exact hring
  · exact ⟨txqReadPtr, skbs, hsame.trans hpc⟩
  · exact hfrees.freed_le
  · exact hfrees.position_le
  · exact hfrees.near
  · exact hfrees.placed.trans hplaced
  · exact hreturned.trans hfrees.returned

theorem entry_eq (hfrees : Frees config start read position isFlush first run freed)
    {txqReadPtr tfdNum : ℕ} {flush : Bool} {skbs : List Skb}
    (hpc : run.txq.pc = .freeing txqReadPtr tfdNum flush skbs) :
    iwlTxqGetCmdIndex config.size txqReadPtr = (start + freed) % config.size.nWindow := by
  have hfreedPtr := hfrees.ring.freedPtr_eq
  simp only [TxQueue.freedPtr, hpc] at hfreedPtr
  rw [hfreedPtr, iwlTxqGetCmdIndex_ring]

theorem end_iff (hfrees : Frees config start read position isFlush first run freed)
    {txqReadPtr tfdNum : ℕ} {flush : Bool} {skbs : List Skb}
    (hpc : run.txq.pc = .freeing txqReadPtr tfdNum flush skbs) :
    iwlTxqGetCmdIndex config.size txqReadPtr = (start + position) % config.size.nWindow ↔
      freed = position := by
  rw [hfrees.entry_eq hpc]
  constructor
  · intro hend
    have hle := hfrees.ring.read_le
    have hto := hfrees.freed_le
    have hnear := hfrees.near
    have heq := @SlotRing.position_unique config.size.nWindow (start + read) _ _
      (by omega) (by omega) (by omega) (by omega) hend
    omega
  · intro hend
    rw [hend]

theorem afterRound (hfrees : Frees config start read position isFlush first run freed)
    {env : TxEnv} (hstep : run.advance config env = some after) :
    (freed < position ∧ Frees config start read position isFlush first after (freed + 1)) ∨
      (freed = position ∧ HasFreed config start read position isFlush first after) := by
  rcases hfrees.pc with ⟨txqReadPtr, skbs, hpc⟩
  simp only [advance, hpc] at hstep
  split at hstep
  · next hend =>
    right
    have hfreed := (hfrees.end_iff hpc).mp hend
    have hskbs := (hfrees.ring.freeing _ _ _ _ hpc).1
    have hslice : skbs = (first.placed.take position).drop read := by
      rcases hfrees.placed with ⟨more, hmore⟩
      rw [hskbs, hfreed, ← hmore, List.take_append_of_le_length hfrees.position_le]
    have hring := hfrees.ring.afterUpdate hpc
      (run.returned ++ (run.txq.updateReadPtr config txqReadPtr isFlush skbs).2)
    simp only [Option.some.injEq] at hstep
    rw [← hstep]
    rw [hfreed] at hring
    apply And.intro hfreed
    constructor
    · exact hring
    · exact hfrees.placed
    · rw [hfrees.returned, ← hslice]
      unfold TxQueue.updateReadPtr
      dsimp only
      split
      · cases isFlush with
        | true => exact ⟨run.txq.overflowQ, fun hflush => absurd hflush (by decide), rfl⟩
        | false => exact ⟨[], fun _ => rfl, rfl⟩
      · exact ⟨[], fun _ => rfl, rfl⟩
    · intro _ _ _ _ hfreeing
      unfold TxQueue.updateReadPtr at hfreeing
      dsimp only at hfreeing
      split at hfreeing
      · cases hfreeing
      · cases hfreeing
  · next hmore =>
    left
    have hne : freed ≠ position := fun heq => hmore ((hfrees.end_iff hpc).mpr heq)
    have hlt := lt_of_le_of_ne hfrees.freed_le hne
    rcases hfrees.ring.afterFree hpc hmore with ⟨skb, hheld, hring⟩
    simp only [hheld, Option.some.injEq] at hstep
    rw [← hstep]
    apply And.intro hlt
    constructor
    · exact hring
    · exact ⟨_, _, rfl⟩
    · exact hlt
    · exact hfrees.position_le
    · exact hfrees.near
    · exact hfrees.placed
    · exact hfrees.returned

theorem advances (hfrees : Frees config start read position isFlush first run freed)
    (env : TxEnv) : (run.advance config env).isSome = true := by
  rcases hfrees.pc with ⟨txqReadPtr, skbs, hpc⟩
  simp only [advance, hpc]
  split
  · rfl
  · next hmore =>
    rcases hfrees.ring.afterFree hpc hmore with ⟨skb, hheld, _⟩
    simp [hheld]

end Frees

theorem HasFreed.afterTx (hfreed : HasFreed config start read position isFlush first run)
    {skb : Skb} {env : TxEnv} {output : List Skb}
    (hstep : run.step config (.tx skb env) = some (after, output)) :
    HasFreed config start read position isFlush first after := by
  rcases hfreed.ring.afterTx hstep with ⟨hring, hsame, hreturned, hplaced⟩
  constructor
  · exact hring
  · exact hfreed.placed.trans hplaced
  · rw [hreturned]
    exact hfreed.returned
  · rw [hsame]
    exact hfreed.idle

theorem ReclaimLoop.frees {rounds : ℕ} (hloop : ReclaimLoop config first rounds run)
    (hfirst : Frees config start read position isFlush first first read) :
    (rounds ≤ position - read ∧
        Frees config start read position isFlush first run (read + rounds)) ∨
      (rounds = position - read + 1 ∧
        HasFreed config start read position isFlush first run) := by
  induction hloop with
  | start => exact Or.inl ⟨Nat.zero_le _, hfirst⟩
  | tx _ hstep ih =>
    rcases ih with ⟨hle, hfrees⟩ | ⟨heq, hfreed⟩
    · exact Or.inl ⟨hle, hfrees.afterTx hstep⟩
    · exact Or.inr ⟨heq, hfreed.afterTx hstep⟩
  | round _ hpc hstep ih =>
    rcases ih with ⟨hle, hfrees⟩ | ⟨_, hfreed⟩
    · rcases hfrees.afterRound hstep with ⟨hlt, hnext⟩ | ⟨heq, hdone⟩
      · exact Or.inl ⟨by omega, hnext⟩
      · exact Or.inr ⟨by omega, hdone⟩
    · exact absurd hpc (hfreed.idle _ _ _ _)

theorem ReclaimLoop.exists_rounds {rounds : ℕ}
    (hfirst : Frees config start read position isFlush first first read)
    (hle : rounds ≤ position - read + 1) : ∃ after, ReclaimLoop config first rounds after := by
  induction rounds with
  | zero => exact ⟨first, .start⟩
  | succ rounds ih =>
    rcases ih (Nat.le_of_succ_le hle) with ⟨run, hloop⟩
    rcases hloop.frees hfirst with ⟨_, hfrees⟩ | ⟨heq, _⟩
    · rcases hfrees.pc with ⟨_, _, hpc⟩
      rcases Option.isSome_iff_exists.mp (hfrees.advances .builds) with ⟨after, hstep⟩
      exact ⟨after, hloop.round hpc hstep⟩
    · omega

theorem HoldsRing.reclaim_frees (hin : HoldsRing config start read freed run)
    (hidle : run.txq.pc = .idle) {ssn : ℕ}
    (hfirst : HoldsRing.FirstNamed config start read ssn position)
    (hinside : read < position ∧ position ≤ run.placed.length)
    {output : List Skb}
    (hstep : run.step config (.reclaim ssn isFlush) = some (first, output)) :
    Frees config start read position isFlush first first read := by
  have hring := hin.afterReclaim hstep
  have hfreedPtr : run.txq.freedPtr = run.txq.readPtr := by
    rw [TxQueue.freedPtr, hidle]
  have hfreed := hin.freed_eq hfreedPtr
  have hstart := hin.reclaim_start hidle hfirst isFlush
  rw [if_pos hinside] at hstart
  simp only [step, hidle, Option.some.injEq, Prod.mk.injEq] at hstep
  rw [hfreed] at hring
  rcases HoldsRing.firstNamed_exists config start read ssn with ⟨other, hother, hnear⟩
  have hplaced : first.placed = run.placed := by
    rw [← hstep.1]
  constructor
  · exact hring
  · apply Exists.intro run.txq.readPtr
    apply Exists.intro []
    rw [← hstep.1, hstart]
  · exact hinside.1.le
  · rw [hplaced]
    exact hinside.2
  · exact lt_of_le_of_lt (hfirst.2 hother.1) hnear
  · exact List.prefix_rfl
  · rfl

end TxQueueRun

/-! ## Unmapping a queue -/

namespace TxQueue

def readEntry (config : TxQueueConfig) (txq : TxQueue Skb) : ℕ :=
  if config.gen2 then iwlTxqGetCmdIndex config.size txq.readPtr
  else txq.readPtr

/-- One round of the loop of `iwl_pcie_txq_unmap` or `iwl_txq_gen2_unmap` on a data queue, and
what follows the loop.  The first one does not advance at an entry without a frame. -/
def unmapRound (config : TxQueueConfig) (txq : TxQueue Skb) : TxQueue Skb ⊕ TxQueue Skb :=
  if txq.writePtr = txq.readPtr then
    .inl { txq with overflowQ := [], queueStopped := false }
  else
    let freed :=
      { txq with
        entries :=
          Function.update txq.entries (iwlTxqGetCmdIndex config.size txq.readPtr) none
        readPtr := iwlTxqIncWrap config.size txq.readPtr }
    match txq.entries (txq.readEntry config) with
    | none => if config.gen2 then .inr freed else .inr txq
    | some _ => .inr freed

end TxQueue

namespace TxQueueRun

variable {config : TxQueueConfig} {start read position : ℕ} {run : TxQueueRun Skb}

namespace HoldsRing

theorem readEntry_eq {freed : ℕ} (hin : HoldsRing config start read freed run) :
    run.txq.readEntry config = (start + read) % config.size.nWindow := by
  unfold TxQueue.readEntry
  split
  · rw [hin.readPtr_eq, iwlTxqGetCmdIndex_ring]
  · next hgen1 =>
    rw [hin.readPtr_eq, config.nWindow_of_gen1 (by simpa using hgen1)]

theorem empty_iff {freed : ℕ} (hin : HoldsRing config start read freed run) :
    run.txq.writePtr = run.txq.readPtr ↔ read = run.placed.length := by
  rw [hin.writePtr_eq, hin.readPtr_eq]
  constructor
  · intro hsame
    have hle := hin.read_le
    have hfreed := hin.freed_le
    have hwindow := hin.window_lt
    have hring := config.size.nWindow_le
    have heq := @SlotRing.position_unique config.size.maxTfdQueueSize (start + read) _ _
      (by omega) (by omega) (le_refl _) (by omega) hsame
    omega
  · intro hall
    rw [hall]

theorem afterUnmapRound (hin : HoldsRing config start read read run)
    (hidle : run.txq.pc = .idle) (hmore : read < run.placed.length) :
    ∃ txq, run.txq.unmapRound config = .inr txq ∧ txq.pc = .idle ∧
      HoldsRing config start (read + 1) (read + 1) { run with txq := txq } := by
  have hentry : iwlTxqGetCmdIndex config.size run.txq.readPtr =
      (start + read) % config.size.nWindow := by
    rw [hin.readPtr_eq, iwlTxqGetCmdIndex_ring]
  have hheld : run.txq.entries (run.txq.readEntry config) = some run.placed[read] := by
    rw [hin.readEntry_eq, hin.held read le_rfl hmore, List.getElem?_eq_getElem hmore]
  have hwindow := hin.window_lt
  have hcapacity := hin.window_le
  have hreadPtr : iwlTxqIncWrap config.size run.txq.readPtr =
      (start + (read + 1)) % config.size.maxTfdQueueSize := by
    rw [hin.readPtr_eq, iwlTxqIncWrap_ring, Nat.add_assoc]
  apply Exists.intro
    { run.txq with
      entries := Function.update run.txq.entries
        (iwlTxqGetCmdIndex config.size run.txq.readPtr) none
      readPtr := iwlTxqIncWrap config.size run.txq.readPtr }
  constructor
  · have hwritten : run.txq.writePtr ≠ run.txq.readPtr := by
      rw [ne_eq, hin.empty_iff]
      exact hmore.ne
    simp only [TxQueue.unmapRound, if_neg hwritten, hheld]
  · apply And.intro hidle
    constructor
    · exact le_refl _
    · exact hmore
    · exact lt_of_le_of_lt (Nat.sub_le_sub_left (Nat.le_succ read) _) hwindow
    · exact (Nat.sub_le_sub_left (Nat.le_succ read) _).trans hcapacity
    · exact hreadPtr
    · exact hin.writePtr_eq
    · simp only [TxQueue.freedPtr, hidle]
      exact hreadPtr
    · intro i hfrom hto
      have hne := hin.slot_ne (Nat.le_of_succ_le hfrom) le_rfl (le_of_lt hto) hmore.le
        (Nat.ne_of_gt hfrom)
      simp only [hentry, Function.update_of_ne hne]
      exact hin.held i (Nat.le_of_succ_le hfrom) hto
    · intro slot hslot
      simp only [hentry]
      by_cases hsame : slot = (start + read) % config.size.nWindow
      · rw [hsame, Function.update_self]
      · rw [Function.update_of_ne hsame]
        apply hin.empty slot
        intro i hfrom hto
        by_cases hfirst : i = read
        · rw [hfirst]
          exact hsame
        · exact hslot i (by omega) hto
    · intro _ _ _ _ hfreeing
      simp only [hidle] at hfreeing
      cases hfreeing

theorem unmap_ends (hin : HoldsRing config start read read run) (hidle : run.txq.pc = .idle) :
    ∃ txq, FuelLoop.run (TxQueue.unmapRound config) (run.placed.length - read + 1) run.txq =
        some txq ∧ txq.readPtr = txq.writePtr ∧ txq.overflowQ = [] ∧
      ∀ slot, slot ≠ (start + run.placed.length) % config.size.nWindow →
        txq.entries slot = none := by
  have hle := hin.freed_le
  obtain ⟨rounds, hrounds⟩ : ∃ rounds, run.placed.length = read + rounds :=
    ⟨_, (Nat.add_sub_cancel' hle).symm⟩
  induction rounds generalizing read run with
  | zero =>
    have hall : run.txq.writePtr = run.txq.readPtr := hin.empty_iff.mpr hrounds.symm
    apply Exists.intro { run.txq with overflowQ := [], queueStopped := false }
    constructor
    · simp only [FuelLoop.run, TxQueue.unmapRound, if_pos hall]
    · apply And.intro hall.symm
      apply And.intro rfl
      intro slot hslot
      apply hin.empty slot
      intro i hfrom hto
      have hlast : i = run.placed.length := by omega
      rw [hlast]
      exact hslot
  | succ rounds ih =>
    have hrest : run.placed.length = read + 1 + rounds := by omega
    rcases hin.afterUnmapRound hidle (by omega) with ⟨txq, hround, hnext, hring⟩
    rcases ih hring hnext hring.freed_le hrest with ⟨result, hrun, hresult⟩
    apply Exists.intro result
    apply And.intro _ hresult
    have hfuel : run.placed.length - read + 1 = run.placed.length - (read + 1) + 1 + 1 := by
      omega
    rw [hfuel, FuelLoop.run, hround]
    exact hrun

end HoldsRing

/-! ## Every run -/

/-- In every run the frames that are placed and not yet freed stand in the entries of the ring.
A reclaim frees from `read_ptr` up to the first frame that `ssn` names, one frame a round, when
that lies behind `read_ptr` and not past `write_ptr`, and changes nothing otherwise; and
unmapping the queue ends. -/
theorem reclaim_frees_exactly
    (hreach : ConditionedRun.Reachable (step config) (fun _ _ => True)
      (init config start) run) :
    ∃ read freed, HoldsRing config start read freed run ∧
      (run.txq.pc = .idle → freed = read ∧
        (∀ ssn isFlush, ∃ position, HoldsRing.FirstNamed config start read ssn position ∧
          (¬(read < position ∧ position ≤ run.placed.length) →
            run.txq.iwlPcieReclaim config ssn isFlush = run.txq) ∧
          (read < position ∧ position ≤ run.placed.length →
            ∃ first, run.step config (.reclaim ssn isFlush) = some (first, []) ∧
              first.placed = run.placed ∧ first.returned = run.returned ∧
              ∀ rounds after, ReclaimLoop config first rounds after →
                (rounds ≤ position - read ∧
                    Frees config start read position isFlush first after (read + rounds) ∧
                    ∀ env, (after.advance config env).isSome = true) ∨
                  (rounds = position - read + 1 ∧
                    HasFreed config start read position isFlush first after))) ∧
        ∃ txq, FuelLoop.run (TxQueue.unmapRound config) (run.placed.length - read + 1)
            run.txq = some txq ∧ txq.readPtr = txq.writePtr ∧ txq.overflowQ = [] ∧
          ∀ slot, slot ≠ (start + run.placed.length) % config.size.nWindow →
            txq.entries slot = none) := by
  rcases reachable_holdsRing hreach with ⟨read, freed, hin⟩
  apply Exists.intro read
  apply Exists.intro freed
  apply And.intro hin
  intro hidle
  have hfreed : freed = read := hin.freed_eq (by rw [TxQueue.freedPtr, hidle])
  apply And.intro hfreed
  rw [hfreed] at hin
  constructor
  · intro ssn isFlush
    rcases HoldsRing.firstNamed_exists config start read ssn with ⟨position, hfirst, _⟩
    have hstart := hin.reclaim_start hidle hfirst isFlush
    apply Exists.intro position
    apply And.intro hfirst
    constructor
    · intro houtside
      rw [hstart, if_neg houtside]
    · intro hinside
      have hstep : run.step config (.reclaim ssn isFlush) =
          some ({ run with txq := run.txq.iwlPcieReclaim config ssn isFlush }, []) := by
        simp only [step, hidle]
      apply Exists.intro { run with txq := run.txq.iwlPcieReclaim config ssn isFlush }
      apply And.intro hstep
      apply And.intro rfl
      apply And.intro rfl
      intro rounds after hloop
      have hbegun := hin.reclaim_frees hidle hfirst hinside hstep
      rcases hloop.frees hbegun with ⟨hle, hfrees⟩ | hdone
      · exact Or.inl ⟨hle, hfrees, hfrees.advances⟩
      · exact Or.inr hdone
  · exact hin.unmap_ends hidle

/-- Two frames are placed on the small queue, and a reclaim frees both in its two rounds. -/
theorem reclaim_frees_exactly_small :
    ∃ run first after : TxQueueRun ℕ, run.txq.pc = .idle ∧ run.placed = [20, 21] ∧
      run.step smallTxQueue (.reclaim 2 false) = some (first, []) ∧
      ReclaimLoop smallTxQueue first 3 after ∧ after.returned = [20, 21] ∧
      HasFreed smallTxQueue 0 0 2 false first after := by
  have hstart : ConditionedRun.Reachable (step smallTxQueue) (fun _ _ => True)
      (init smallTxQueue 0) (init smallTxQueue 0 : TxQueueRun ℕ) := .start
  have hfirst := hstart.after (.tx 20 .builds) _ trivial rfl
  have hsecond := hfirst.after (.tx 21 .builds) _ trivial rfl
  rcases reclaim_frees_exactly hsecond with ⟨read, freed, hin, hidle⟩
  rcases hidle rfl with ⟨_, hreclaims, _⟩
  rcases hreclaims 2 false with ⟨position, hnamed, _, hinside⟩
  have hread : read = 0 := by
    have hle : read ≤ 2 := hin.read_le.trans hin.freed_le
    have hptr : 0 = (0 + read) % 256 := hin.readPtr_eq
    omega
  rw [hread] at hnamed hinside
  have hposition : position = 2 := by
    have hleast : position ≤ 2 := hnamed.2 ⟨Nat.zero_le 2, rfl⟩
    have hname : (0 + position) % 16 = 2 := hnamed.1.2
    omega
  rw [hposition] at hinside
  rcases hinside ⟨by decide, le_rfl⟩ with ⟨first, hstep, hplaced, hreturned, hloops⟩
  rcases hloops 0 first .start with ⟨_, hfrees, _⟩ | ⟨hzero, _⟩
  · rcases ReclaimLoop.exists_rounds hfrees (le_refl 3) with ⟨after, hloop⟩
    rcases hloops 3 after hloop with ⟨hle, _⟩ | ⟨_, hfreed⟩
    · exact absurd hle (by decide)
    · rcases hfreed.returned with ⟨overflowQ, hnone, hall⟩
      rw [hnone rfl, hplaced, hreturned] at hall
      exact ⟨_, first, after, rfl, rfl, hstep, hloop, hall, hfreed⟩
  · exact absurd hzero (by decide)

/-- A frame whose TFD cannot be built stays in the entry of `write_ptr` of an empty queue. -/
theorem entry_kept_unbuilt :
    ∃ run : TxQueueRun ℕ,
      ConditionedRun.Reachable (step smallTxQueue) (fun _ _ => True) (init smallTxQueue 0) run ∧
        run.txq.pc = .idle ∧ run.txq.readPtr = run.txq.writePtr ∧
        run.txq.entries 0 = some 20 := by
  have hstart : ConditionedRun.Reachable (step smallTxQueue) (fun _ _ => True)
      (init smallTxQueue 0) (init smallTxQueue 0 : TxQueueRun ℕ) := .start
  exact ⟨_, hstart.after (.tx 20 .buildFails) _ trivial rfl, rfl, rfl, rfl⟩

end TxQueueRun

end IwlwifiStack
