import IwlwifiStack.TxQueueRing

/-!
# The order of the frames of a transmit queue

The frames that were returned, those on the ring and those that wait are the
submitted frames in their order, as long as no frame is put on the ring past
waiting ones, none is queued behind frames that are being drained, no drained
frame fails and no flush takes waiting frames over.
-/

namespace IwlwifiStack

variable {Skb : Type*}

namespace ReclaimPc

def overflowSkbs : ReclaimPc Skb → List Skb
  | .draining overflowSkbs => overflowSkbs
  | _ => []

def skbs : ReclaimPc Skb → List Skb
  | .freeing _ _ _ skbs => skbs
  | _ => []

end ReclaimPc

namespace TxQueueRun

def waiting (run : TxQueueRun Skb) : List Skb :=
  run.txq.overflowQ ++ run.txq.pc.overflowSkbs

/-- The frames that were returned, those on the ring from `freed` on and those that wait are the
submitted ones. -/
structure InOrder (config : TxQueueConfig) (freed : ℕ) (run : TxQueueRun Skb) : Prop where
  order : run.returned ++ run.txq.pc.skbs ++ run.placed.drop freed ++
    run.waiting = run.submitted
  placed_sublist : (run.placed ++ run.waiting).Sublist run.submitted
  full : run.txq.pc.overflowSkbs ≠ [] → run.txq.overflowQ ≠ [] →
    run.txq.overflows config = true

def Ordered (config : TxQueueConfig) (start : ℕ) (run : TxQueueRun Skb) :
    Prop :=
  ∃ read freed, HoldsRing config start read freed run ∧
    InOrder config freed run

variable {config : TxQueueConfig} {start read freed : ℕ}
  {run : TxQueueRun Skb}

theorem init_inOrder (config : TxQueueConfig) (start : ℕ) :
    InOrder config 0 (init config start : TxQueueRun Skb) where
  order := rfl
  placed_sublist := List.Sublist.refl []
  full := fun hskbs => absurd rfl hskbs

/-! ## Calls that transmit -/

/-- A call is made while no frame is drained when it is to wait, and while
none waits when it is to go to the ring. -/
def CallsInTurn (config : TxQueueConfig) (run : TxQueueRun Skb)
    (env : TxEnv) : Prop :=
  if run.txq.overflows config = true then
    env ≠ .refuses → run.txq.pc.overflowSkbs = []
  else env = .builds → run.waiting = []

theorem InOrder.afterTx (hin : InOrder config freed run)
    (hfreed : freed ≤ run.placed.length) {skb : Skb} {env : TxEnv}
    (hturn : run.CallsInTurn config env)
    {after : TxQueueRun Skb} {output : List Skb}
    (hstep : run.step config (.tx skb env) = some (after, output)) :
    InOrder config freed after := by
  simp only [step, Option.some.injEq, Prod.mk.injEq] at hstep
  obtain ⟨rfl, -⟩ := hstep
  have horder := hin.order
  have hsublist := hin.placed_sublist
  obtain ⟨-, hsent⟩ | ⟨henv, hroom, stopped, hsent⟩ |
      ⟨-, -, stopped, hsent⟩ | ⟨henv, hroom, stopped, hsent⟩ :=
    HoldsRing.iwlTransTx_cases config run.txq skb env
  · rw [hsent]
    exact hin
  · have hnone : run.txq.pc.overflowSkbs = [] := by
      rw [CallsInTurn, if_pos hroom] at hturn
      exact hturn henv
    have hwaiting : run.waiting = run.txq.overflowQ := by
      rw [waiting, hnone, List.append_nil]
    rw [hwaiting] at horder hsublist
    rw [hsent]
    constructor
    · simp only [waiting, submittedAfter, placedAfter, hnone, List.append_nil]
      rw [← List.append_assoc, horder]
    · simp only [waiting, submittedAfter, placedAfter, hnone, List.append_nil]
      rw [← List.append_assoc]
      exact hsublist.append (List.Sublist.refl [skb])
    · intro hskbs
      exact absurd hnone hskbs
  · rw [hsent]
    exact ⟨horder, hsublist, hin.full⟩
  · have hnone : run.waiting = [] := by
      rw [CallsInTurn, if_neg (by simp [hroom])] at hturn
      exact hturn henv
    obtain ⟨hoverflowQ, hskbs⟩ := List.append_eq_nil_iff.mp hnone
    rw [hnone, List.append_nil] at horder hsublist
    rw [hsent]
    constructor
    · simp only [waiting, submittedAfter, placedAfter, hoverflowQ, hskbs,
        List.append_nil]
      rw [List.drop_append_of_le_length hfreed, ← List.append_assoc, horder]
    · simp only [waiting, submittedAfter, placedAfter, hoverflowQ, hskbs,
        List.append_nil]
      exact hsublist.append (List.Sublist.refl [skb])
    · intro _ hne
      exact absurd hoverflowQ hne

/-! ## Reclaiming -/

theorem InOrder.afterReclaim (hin : InOrder config freed run)
    (hring : HoldsRing config start read freed run)
    {ssn : ℕ} {isFlush : Bool} {after : TxQueueRun Skb} {output : List Skb}
    (hstep : run.step config (.reclaim ssn isFlush) = some (after, output)) :
    InOrder config freed after := by
  simp only [step] at hstep
  split at hstep
  case h_2 => cases hstep
  case h_1 hidle =>
      simp only [Option.some.injEq, Prod.mk.injEq] at hstep
      obtain ⟨rfl, -⟩ := hstep
      obtain ⟨position, hfirst, -⟩ :=
        HoldsRing.firstNamed_exists config start read ssn
      have horder := hin.order
      have hsublist := hin.placed_sublist
      simp only [waiting, hidle, ReclaimPc.skbs,
        ReclaimPc.overflowSkbs] at horder hsublist
      rw [hring.reclaim_start hidle hfirst]
      split
      · exact ⟨horder, hsublist, fun hskbs => absurd rfl hskbs⟩
      · exact hin

/-- A reclaim keeps the order unless a flush takes waiting frames over or a
drained frame is neither queued again nor built. -/
def DrainsInTurn (config : TxQueueConfig) (run : TxQueueRun Skb)
    (env : TxEnv) : Prop :=
  match run.txq.pc with
  | .freeing txqReadPtr tfdNum isFlush _ =>
      iwlTxqGetCmdIndex config.size txqReadPtr = tfdNum →
        TxQueue.resumes config { run.txq with readPtr := txqReadPtr } =
          true →
        isFlush = true → run.txq.overflowQ = []
  | .draining (_ :: _) =>
      env = .builds ∨
        (env = .buildFails ∧ run.txq.overflows config = true)
  | _ => True

theorem updateReadPtr_cases (config : TxQueueConfig) (txq : TxQueue Skb)
    (txqReadPtr : ℕ) {isFlush : Bool} (skbs : List Skb)
    (hflush : TxQueue.resumes config { txq with readPtr := txqReadPtr } =
      true → isFlush = true → txq.overflowQ = []) :
    ∃ overflowQ overflowTx pc,
      txq.updateReadPtr config txqReadPtr isFlush skbs =
        ({ txq with
            readPtr := txqReadPtr
            overflowQ := overflowQ
            overflowTx := overflowTx
            pc := pc }, skbs) ∧
      overflowQ ++ pc.overflowSkbs = txq.overflowQ ∧
      (pc = .idle ∨ overflowQ = [] ∧ ∃ rest, pc = .draining rest) := by
  unfold TxQueue.updateReadPtr
  simp only
  split
  case isFalse =>
      exact ⟨_, _, _, rfl, List.append_nil _, .inl rfl⟩
  case isTrue hresumes =>
      cases hcase : isFlush with
      | false => exact ⟨_, _, _, rfl, rfl, .inr ⟨rfl, _, rfl⟩⟩
      | true =>
          have hnone := hflush hresumes hcase
          refine ⟨[], true, .draining [], ?_, hnone.symm, .inr ⟨rfl, _, rfl⟩⟩
          simp [hnone]

theorem InOrder.afterUpdate (hin : InOrder config freed run)
    {txqReadPtr tfdNum : ℕ} {isFlush : Bool} {skbs : List Skb}
    (hpc : run.txq.pc = .freeing txqReadPtr tfdNum isFlush skbs)
    (hflush : TxQueue.resumes config
      { run.txq with readPtr := txqReadPtr } = true →
        isFlush = true → run.txq.overflowQ = []) :
    InOrder config freed
      { run with
        txq := (run.txq.updateReadPtr config txqReadPtr isFlush skbs).1
        returned := run.returned ++
          (run.txq.updateReadPtr config txqReadPtr isFlush skbs).2 } := by
  obtain ⟨overflowQ, overflowTx, pc, hupdate, hwaiting, hnext⟩ :=
    updateReadPtr_cases config run.txq txqReadPtr skbs hflush
  have horder := hin.order
  have hsublist := hin.placed_sublist
  simp only [waiting, hpc, ReclaimPc.skbs, ReclaimPc.overflowSkbs,
    List.append_nil] at horder hsublist
  have hskbs : pc.skbs = [] := by
    rcases hnext with rfl | ⟨-, rest, rfl⟩ <;> rfl
  rw [hupdate]
  constructor
  · simp only [waiting, hwaiting, hskbs, List.append_nil]
    exact horder
  · simp only [waiting, hwaiting]
    exact hsublist
  · intro hrest hne
    rcases hnext with rfl | ⟨hempty, -⟩
    · exact absurd rfl hrest
    · exact absurd hempty hne

theorem InOrder.afterFree (hin : InOrder config freed run)
    (hring : HoldsRing config start read freed run)
    {txqReadPtr tfdNum : ℕ} {isFlush : Bool} {skbs : List Skb}
    (hpc : run.txq.pc = .freeing txqReadPtr tfdNum isFlush skbs)
    (hmore : iwlTxqGetCmdIndex config.size txqReadPtr ≠ tfdNum) {skb : Skb}
    (hentry : run.txq.entries (iwlTxqGetCmdIndex config.size txqReadPtr) =
      some skb) :
    InOrder config (freed + 1)
      { run with
        txq :=
          { run.txq with
            entries := Function.update run.txq.entries
              (iwlTxqGetCmdIndex config.size txqReadPtr) none
            pc := .freeing (iwlTxqIncWrap config.size txqReadPtr) tfdNum
              isFlush (skbs ++ [skb]) } } := by
  obtain ⟨-, hplaced, hheld⟩ := hring.freeing_entry hpc hmore
  have horder := hin.order
  have hsublist := hin.placed_sublist
  simp only [waiting, hpc, ReclaimPc.skbs, ReclaimPc.overflowSkbs,
    List.append_nil] at horder hsublist
  have hskb : skb = run.placed[freed] := by
    rw [hentry, List.getElem?_eq_getElem hplaced] at hheld
    exact Option.some.inj hheld
  constructor
  · simp only [waiting, ReclaimPc.skbs, ReclaimPc.overflowSkbs,
      List.append_nil]
    rw [← horder, List.drop_eq_getElem_cons hplaced, hskb]
    simp only [List.append_assoc, List.singleton_append]
  · simp only [waiting, ReclaimPc.overflowSkbs, List.append_nil]
    exact hsublist
  · intro hrest
    exact absurd rfl hrest

theorem InOrder.afterDrain (hin : InOrder config freed run)
    (hfreed : freed ≤ run.placed.length)
    {skb : Skb} {rest : List Skb} {env : TxEnv}
    (hpc : run.txq.pc = .draining (skb :: rest))
    (hturn : env = .builds ∨
      (env = .buildFails ∧ run.txq.overflows config = true)) :
    InOrder config freed
      { run with
        txq :=
          { (run.txq.iwlTransTx config skb env).1 with
            pc := .draining rest }
        placed := placedAfter run.placed skb
          (run.txq.iwlTransTx config skb env).2 } := by
  have horder := hin.order
  have hsublist := hin.placed_sublist
  have hfull := hin.full
  simp only [waiting, hpc, ReclaimPc.skbs, ReclaimPc.overflowSkbs,
    List.append_nil] at horder hsublist hfull
  obtain ⟨henv, -⟩ | ⟨-, hroom, stopped, hsent⟩ |
      ⟨henv, hroom, -⟩ | ⟨-, hroom, stopped, hsent⟩ :=
    HoldsRing.iwlTransTx_cases config run.txq skb env
  · rcases hturn with hbuilds | ⟨hfails, -⟩
    · rw [henv] at hbuilds
      cases hbuilds
    · rw [henv] at hfails
      cases hfails
  · rw [hsent]
    constructor
    · simp only [waiting, placedAfter, ReclaimPc.skbs, ReclaimPc.overflowSkbs,
        List.append_nil, List.append_assoc, List.singleton_append] at horder ⊢
      exact horder
    · simp only [waiting, placedAfter, ReclaimPc.overflowSkbs,
        List.append_assoc, List.singleton_append]
      exact hsublist
    · exact fun _ _ => hroom
  · rcases hturn with hbuilds | ⟨-, hoverflows⟩
    · rw [henv] at hbuilds
      cases hbuilds
    · rw [hoverflows] at hroom
      cases hroom
  · have hempty : run.txq.overflowQ = [] := by
      by_contra hne
      have hoverflows := hfull (List.cons_ne_nil skb rest) hne
      rw [hoverflows] at hroom
      cases hroom
    rw [hempty, List.nil_append] at horder hsublist
    rw [hsent]
    constructor
    · simp only [waiting, placedAfter, ReclaimPc.skbs, ReclaimPc.overflowSkbs,
        hempty, List.append_nil, List.nil_append]
      rw [List.drop_append_of_le_length hfreed, ← horder]
      simp only [List.append_assoc, List.singleton_append]
    · simp only [waiting, placedAfter, ReclaimPc.overflowSkbs, hempty,
        List.nil_append, List.append_assoc, List.singleton_append]
      exact hsublist
    · intro _ hne
      exact absurd hempty hne

theorem InOrder.afterResume (hin : InOrder config freed run)
    (hskbs : run.txq.pc.skbs = []) (hrest : run.txq.pc.overflowSkbs = [])
    {pc : ReclaimPc Skb} (hpc : pc = .waking ∨ pc = .ending ∨ pc = .idle)
    (stopped overflowTx : Bool) :
    InOrder config freed
      { run with
        txq :=
          { run.txq with
            queueStopped := stopped
            overflowTx := overflowTx
            pc := pc } } := by
  have horder := hin.order
  have hsublist := hin.placed_sublist
  simp only [waiting, hskbs, hrest] at horder hsublist
  rcases hpc with rfl | rfl | rfl <;>
    exact ⟨horder, hsublist, fun hskbs => absurd rfl hskbs⟩

theorem Ordered.afterAdvance
    (hring : HoldsRing config start read freed run)
    (hin : InOrder config freed run)
    {env : TxEnv} (hturn : run.DrainsInTurn config env)
    {after : TxQueueRun Skb} (hstep : run.advance config env = some after) :
    after.Ordered config start := by
  unfold advance at hstep
  unfold DrainsInTurn at hturn
  cases hpc : run.txq.pc with
  | idle => simp [hpc] at hstep
  | freeing txqReadPtr tfdNum isFlush skbs =>
      simp only [hpc] at hstep hturn
      split at hstep
      case isTrue hend =>
          simp only [Option.some.injEq] at hstep
          subst hstep
          exact ⟨freed, freed, hring.afterUpdate hpc _,
            hin.afterUpdate hpc (hturn hend)⟩
      case isFalse hmore =>
          obtain ⟨skb, hentry, hafter⟩ := hring.afterFree hpc hmore
          simp only [hentry, Option.some.injEq] at hstep
          subst hstep
          exact ⟨read, freed + 1, hafter, hin.afterFree hring hpc hmore hentry⟩
  | draining overflowSkbs =>
      cases overflowSkbs with
      | nil =>
          simp only [hpc, Option.some.injEq] at hstep
          subst hstep
          refine ⟨read, freed, hring.afterResume (by rw [TxQueue.freedPtr, hpc])
            ?_ _ _, hin.afterResume (by rw [hpc]; rfl) (by rw [hpc]; rfl) ?_ _ _⟩
          all_goals
            split
            · exact .inl rfl
            · exact .inr (.inl rfl)
      | cons skb rest =>
          simp only [hpc, Option.some.injEq] at hstep hturn
          subst hstep
          exact ⟨read, freed, hring.afterDrain env hpc,
            hin.afterDrain hring.freed_le hpc hturn⟩
  | waking =>
      simp only [hpc, Option.some.injEq] at hstep
      subst hstep
      exact ⟨read, freed, hring.afterResume (by rw [TxQueue.freedPtr, hpc])
        (.inr (.inl rfl)) _ _,
        hin.afterResume (by rw [hpc]; rfl) (by rw [hpc]; rfl) (.inr (.inl rfl)) _ _⟩
  | ending =>
      simp only [hpc, Option.some.injEq] at hstep
      subst hstep
      exact ⟨read, freed, hring.afterResume (by rw [TxQueue.freedPtr, hpc])
        (.inr (.inr rfl)) _ _,
        hin.afterResume (by rw [hpc]; rfl) (by rw [hpc]; rfl) (.inr (.inr rfl)) _ _⟩

def InTurn (config : TxQueueConfig) (run : TxQueueRun Skb) :
    TxQueueEvent Skb → Prop
  | .tx _ env => run.CallsInTurn config env
  | .reclaim _ _ => True
  | .advance env => run.DrainsInTurn config env

instance [DecidableEq Skb] (config : TxQueueConfig) (run : TxQueueRun Skb)
    (event : TxQueueEvent Skb) : Decidable (run.InTurn config event) := by
  unfold InTurn CallsInTurn DrainsInTurn
  split
  · split <;> infer_instance
  · infer_instance
  · split <;> infer_instance

theorem Ordered.afterStep (hbefore : run.Ordered config start)
    {event : TxQueueEvent Skb} (hturn : run.InTurn config event)
    {after : TxQueueRun Skb} {output : List Skb}
    (hstep : run.step config event = some (after, output)) :
    after.Ordered config start := by
  obtain ⟨read, freed, hring, hin⟩ := hbefore
  cases event with
  | tx skb env =>
      exact ⟨read, freed, (hring.afterTx hstep).1,
        hin.afterTx hring.freed_le hturn hstep⟩
  | reclaim ssn isFlush =>
      exact ⟨read, freed, hring.afterReclaim hstep,
        hin.afterReclaim hring hstep⟩
  | advance env =>
      obtain ⟨next, hnext, heq⟩ := Option.map_eq_some_iff.mp hstep
      simp only [Prod.mk.injEq] at heq
      obtain ⟨rfl, -⟩ := heq
      exact afterAdvance hring hin hturn hnext

/-! ## Frames leave in the order in which they came -/

def smallTxQueue : TxQueueConfig where
  size := ⟨4, 8, by decide, TxqSize.ring256_le⟩
  gen2 := true
  gen1_size := nofun

end TxQueueRun

end IwlwifiStack
