import IwlwifiStack.ConditionedRun

/-!
# Handing a TXQ over between transmitting threads

A thread that puts a frame on a TXQ, or that clears `stop_full`, calls
`iwl_mld_tx_from_txq` (`mld/tx.c`).  The counter `tx_request` lets one thread
in; the others leave it a note that the queue has to be looked at once more.

One step is one access of the shared state: the fetch-add-unless, the read of
`stop_full`, the dequeue, the transmission or the dec-return.
-/

namespace IwlwifiStack

/-- `atomic_fetch_add_unless`: the new value and the one it returns. -/
def atomicFetchAddUnless (value amount bound : ℤ) : ℤ × ℤ :=
  (if value = bound then value else value + amount, value)

/-- `atomic_dec_return`: the new value is also the one it returns. -/
def atomicDecReturn (value : ℤ) : ℤ :=
  value - 1

/-- Where a thread stands in `iwl_mld_tx_from_txq`; a `calling` thread has
done what it calls the function for and has not entered it. -/
inductive TxThreadPc (Skb : Type*)
  | idle
  | calling
  | checkFull
  | dequeuing
  | transmitting (skb : Skb)
  | leaving
  deriving DecidableEq, Repr

/-- `struct iwl_mld_txq` with the frames mac80211 holds for it and the
threads that use it. -/
structure MldTxq (Skb : Type*) where
  txRequest : ℤ
  stopFull : Bool
  queue : List Skb
  pc : ℕ → TxThreadPc Skb

/-- What happens to a TXQ.  `advance` is the next step of a thread that is
calling or inside `iwl_mld_tx_from_txq`. -/
inductive TxqEvent (Skb : Type*)
  | enqueue (thread : ℕ) (skb : Skb)
  | wake (thread : ℕ)
  | queueFull
  | queueNotFull (thread : ℕ)
  | advance (thread : ℕ)
  deriving DecidableEq, Repr

variable {Skb : Type*}

namespace TxThreadPc

def Inside : TxThreadPc Skb → Prop
  | .idle | .calling => False
  | .checkFull | .dequeuing | .transmitting _ | .leaving => True

def WillLook (txRequest : ℤ) : TxThreadPc Skb → Prop
  | .idle => False
  | .calling | .checkFull | .dequeuing | .transmitting _ => True
  | .leaving => txRequest = 2

end TxThreadPc

namespace MldTxq

/-- `iwl_mld_init_txq` on an empty queue. -/
def init : MldTxq Skb where
  txRequest := 0
  stopFull := false
  queue := []
  pc := fun _ => .idle

def goto (txq : MldTxq Skb) (thread : ℕ) (pc : TxThreadPc Skb) :
    MldTxq Skb :=
  { txq with pc := Function.update txq.pc thread pc }

/-- The next step of `iwl_mld_tx_from_txq`, with the frame it hands to
`iwl_mld_tx_skb`. -/
def iwlMldTxFromTxq (txq : MldTxq Skb) (thread : ℕ) :
    Option (MldTxq Skb × List Skb) :=
  match txq.pc thread with
  | .idle => none
  | .calling =>
      let fetched := atomicFetchAddUnless txq.txRequest 1 2
      some
        ({ txq with txRequest := fetched.1 }.goto thread
          (if fetched.2 ≠ 0 then .idle else .checkFull), [])
  | .checkFull =>
      some (txq.goto thread (if txq.stopFull then .leaving else .dequeuing), [])
  | .dequeuing =>
      match txq.queue with
      | [] => some (txq.goto thread .leaving, [])
      | skb :: rest =>
          some ({ txq with queue := rest }.goto thread (.transmitting skb), [])
  | .transmitting skb => some (txq.goto thread .checkFull, [skb])
  | .leaving =>
      let left := atomicDecReturn txq.txRequest
      some
        ({ txq with txRequest := left }.goto thread
          (if left ≠ 0 then .checkFull else .idle), [])

def startCall (txq : MldTxq Skb) (thread : ℕ) :
    Option (MldTxq Skb × List Skb) :=
  match txq.pc thread with
  | .idle => some (txq.goto thread .calling, [])
  | _ => none

/-- One event of a TXQ; the output is the frames that are transmitted.
`queueFull` and `queueNotFull` are `iwl_mld_queue_state_change`. -/
def step (txq : MldTxq Skb) :
    TxqEvent Skb → Option (MldTxq Skb × List Skb)
  | .enqueue thread skb =>
      { txq with queue := txq.queue ++ [skb] }.startCall thread
  | .wake thread => txq.startCall thread
  | .queueFull => some ({ txq with stopFull := true }, [])
  | .queueNotFull thread => { txq with stopFull := false }.startCall thread
  | .advance thread => txq.iwlMldTxFromTxq thread

/-! ## What the counter says about the threads -/

/-- The counter is set while a thread is inside, and a queue that can be
emptied is going to be looked at. -/
structure HandedOff (txq : MldTxq Skb) : Prop where
  inside_unique : ∀ first second, (txq.pc first).Inside →
    (txq.pc second).Inside → first = second
  txRequest_nonneg : 0 ≤ txq.txRequest
  txRequest_le : txq.txRequest ≤ 2
  txRequest_pos : 0 < txq.txRequest ↔ ∃ thread, (txq.pc thread).Inside
  looked_at : txq.queue ≠ [] → txq.stopFull = false →
    ∃ thread, (txq.pc thread).WillLook txq.txRequest

theorem init_handedOff : (init : MldTxq Skb).HandedOff where
  inside_unique := fun _ _ hfirst => hfirst.elim
  txRequest_nonneg := le_refl 0
  txRequest_le := zero_le_two
  txRequest_pos := by simp [init, TxThreadPc.Inside]
  looked_at := fun hqueue => absurd rfl hqueue

variable {txq : MldTxq Skb} {thread : ℕ}

theorem HandedOff.afterStartCall (hgood : txq.HandedOff)
    (hidle : txq.pc thread = .idle) (queue : List Skb) (stopFull : Bool) :
    HandedOff
      ({ txq with queue := queue, stopFull := stopFull }.goto thread
        .calling) := by
  have hinside : ∀ other,
      (Function.update txq.pc thread .calling other).Inside ↔
        (txq.pc other).Inside := by
    intro other
    by_cases hother : other = thread
    · subst hother
      simp [hidle, TxThreadPc.Inside]
    · rw [Function.update_of_ne hother]
  constructor
  · intro first second hfirst hsecond
    exact hgood.inside_unique first second ((hinside first).mp hfirst)
      ((hinside second).mp hsecond)
  · exact hgood.txRequest_nonneg
  · exact hgood.txRequest_le
  · exact hgood.txRequest_pos.trans
      (exists_congr fun other => (hinside other).symm)
  · intro _ _
    exact ⟨thread, by simp [goto, TxThreadPc.WillLook]⟩

theorem HandedOff.afterMove (hgood : txq.HandedOff)
    (hthread : (txq.pc thread).Inside) (queue : List Skb)
    (pc : TxThreadPc Skb) (hpc : pc.Inside)
    (hlooked : queue ≠ [] → txq.stopFull = false → pc ≠ .leaving) :
    HandedOff ({ txq with queue := queue }.goto thread pc) := by
  have hinside : ∀ other,
      (Function.update txq.pc thread pc other).Inside ↔
        (txq.pc other).Inside := by
    intro other
    by_cases hother : other = thread
    · subst hother
      simp [hthread, hpc]
    · rw [Function.update_of_ne hother]
  constructor
  · intro first second hfirst hsecond
    exact hgood.inside_unique first second ((hinside first).mp hfirst)
      ((hinside second).mp hsecond)
  · exact hgood.txRequest_nonneg
  · exact hgood.txRequest_le
  · exact hgood.txRequest_pos.trans
      (exists_congr fun other => (hinside other).symm)
  · intro hqueue hfull
    have hstay := hlooked hqueue hfull
    constructor
    case w => exact thread
    case h =>
      simp only [goto, Function.update_self]
      cases pc <;> simp_all [TxThreadPc.Inside, TxThreadPc.WillLook]

theorem HandedOff.afterEnter (hgood : txq.HandedOff) (thread : ℕ)
    (hzero : txq.txRequest = 0) :
    HandedOff ({ txq with txRequest := 1 }.goto thread .checkFull) := by
  have hnone : ∀ other, ¬(txq.pc other).Inside := by
    intro other hother
    have hpos := hgood.txRequest_pos.mpr ⟨other, hother⟩
    omega
  have hinside : ∀ other,
      (Function.update txq.pc thread .checkFull other).Inside →
        other = thread := by
    intro other hother
    by_contra hne
    rw [Function.update_of_ne hne] at hother
    exact hnone other hother
  have hthread :
      (Function.update txq.pc thread .checkFull thread).Inside := by
    simp [TxThreadPc.Inside]
  constructor
  · intro first second hfirst hsecond
    rw [hinside first hfirst, hinside second hsecond]
  · exact zero_le_one
  · exact one_le_two
  · exact ⟨fun _ => ⟨thread, hthread⟩, fun _ => zero_lt_one⟩
  · intro _ _
    exact ⟨thread, by simp [goto, TxThreadPc.WillLook]⟩

/-- A caller that finds the function taken leaves a note; the thread inside
then looks at the queue again, wherever it stands. -/
theorem HandedOff.afterNote (hgood : txq.HandedOff)
    (hcalling : txq.pc thread = .calling) (hpos : 0 < txq.txRequest) :
    HandedOff ({ txq with txRequest := 2 }.goto thread .idle) := by
  have hinside : ∀ other,
      (Function.update txq.pc thread .idle other).Inside ↔
        (txq.pc other).Inside := by
    intro other
    by_cases hother : other = thread
    · subst hother
      simp [hcalling, TxThreadPc.Inside]
    · rw [Function.update_of_ne hother]
  obtain ⟨holder, hholder⟩ := hgood.txRequest_pos.mp hpos
  constructor
  · intro first second hfirst hsecond
    exact hgood.inside_unique first second ((hinside first).mp hfirst)
      ((hinside second).mp hsecond)
  · exact zero_le_two
  · exact le_refl 2
  · exact ⟨fun _ => ⟨holder, (hinside holder).mpr hholder⟩,
      fun _ => zero_lt_two⟩
  · intro _ _
    have hheld := (hinside holder).mpr hholder
    constructor
    case w => exact holder
    case h =>
      simp only [goto]
      cases hpc : Function.update txq.pc thread .idle holder <;>
        simp_all [TxThreadPc.Inside, TxThreadPc.WillLook]

theorem HandedOff.afterReturn (hgood : txq.HandedOff)
    (hthread : (txq.pc thread).Inside) :
    HandedOff ({ txq with txRequest := 1 }.goto thread .checkFull) := by
  have hmoved := hgood.afterMove hthread txq.queue .checkFull trivial
    (by simp)
  constructor
  · exact hmoved.inside_unique
  · exact zero_le_one
  · exact one_le_two
  · constructor
    · intro _
      exact ⟨thread, by simp [goto, TxThreadPc.Inside]⟩
    · intro _
      exact zero_lt_one
  · intro _ _
    exact ⟨thread, by simp [goto, TxThreadPc.WillLook]⟩

/-- Without a note the thread leaves; the queue it leaves behind is empty,
or blocked, or another thread has yet to make its call. -/
theorem HandedOff.afterLeave (hgood : txq.HandedOff)
    (hleaving : txq.pc thread = .leaving) (hone : txq.txRequest = 1) :
    HandedOff ({ txq with txRequest := 0 }.goto thread .idle) := by
  have hthread : (txq.pc thread).Inside := by
    rw [hleaving]
    trivial
  have hnone : ∀ other,
      ¬(Function.update txq.pc thread .idle other).Inside := by
    intro other hother
    by_cases hne : other = thread
    · subst hne
      simp [TxThreadPc.Inside] at hother
    · rw [Function.update_of_ne hne] at hother
      exact hne (hgood.inside_unique other thread hother hthread)
  constructor
  · intro first second hfirst
    exact absurd hfirst (hnone first)
  · exact le_refl 0
  · exact zero_le_two
  · constructor
    · intro hpos
      exact absurd hpos (lt_irrefl 0)
    · intro hexists
      obtain ⟨other, hother⟩ := hexists
      exact absurd hother (hnone other)
  · intro hqueue hfull
    obtain ⟨other, hother⟩ := hgood.looked_at hqueue hfull
    have hne : other ≠ thread := by
      intro heq
      rw [heq, hleaving] at hother
      simp only [TxThreadPc.WillLook, hone] at hother
      omega
    have hout : ¬(txq.pc other).Inside := by
      intro hin
      exact hne (hgood.inside_unique other thread hin hthread)
    constructor
    case w => exact other
    case h =>
      simp only [goto, Function.update_of_ne hne]
      cases hpc : txq.pc other <;>
        simp_all [TxThreadPc.Inside, TxThreadPc.WillLook]

/-! ## Every step keeps it -/

theorem startCall_eq {next : MldTxq Skb} {output : List Skb}
    (hstart : txq.startCall thread = some (next, output)) :
    txq.pc thread = .idle ∧ next = txq.goto thread .calling := by
  unfold startCall at hstart
  cases hpc : txq.pc thread <;> simp [hpc] at hstart
  case idle => exact ⟨rfl, hstart.1.symm⟩

theorem HandedOff.afterTxFromTxq (hgood : txq.HandedOff)
    {next : MldTxq Skb} {output : List Skb}
    (hstep : txq.iwlMldTxFromTxq thread = some (next, output)) :
    next.HandedOff := by
  unfold iwlMldTxFromTxq at hstep
  cases hpc : txq.pc thread with
  | idle => simp [hpc] at hstep
  | calling =>
      simp only [hpc, Option.some.injEq, Prod.mk.injEq,
        atomicFetchAddUnless] at hstep
      obtain ⟨rfl, -⟩ := hstep
      have hnonneg := hgood.txRequest_nonneg
      have hle := hgood.txRequest_le
      by_cases hzero : txq.txRequest = 0
      · simpa [hzero] using hgood.afterEnter thread hzero
      · have hnote := hgood.afterNote hpc (by omega)
        have htwo : (if txq.txRequest = 2 then txq.txRequest
            else txq.txRequest + 1) = 2 := by
          split <;> omega
        simpa [htwo, hzero] using hnote
  | checkFull =>
      have hthread : (txq.pc thread).Inside := by
        rw [hpc]
        trivial
      simp only [hpc, Option.some.injEq, Prod.mk.injEq] at hstep
      obtain ⟨rfl, -⟩ := hstep
      apply hgood.afterMove hthread txq.queue
      · split <;> trivial
      · intro _ hfull
        simp [hfull]
  | dequeuing =>
      have hthread : (txq.pc thread).Inside := by
        rw [hpc]
        trivial
      simp only [hpc] at hstep
      cases hqueue : txq.queue with
      | nil =>
          simp only [hqueue, Option.some.injEq, Prod.mk.injEq] at hstep
          obtain ⟨rfl, -⟩ := hstep
          exact hgood.afterMove hthread txq.queue .leaving trivial
            fun hne => absurd hqueue hne
      | cons skb rest =>
          simp only [hqueue, Option.some.injEq, Prod.mk.injEq] at hstep
          obtain ⟨rfl, -⟩ := hstep
          exact hgood.afterMove hthread rest (.transmitting skb) trivial
            (by simp)
  | transmitting skb =>
      have hthread : (txq.pc thread).Inside := by
        rw [hpc]
        trivial
      simp only [hpc, Option.some.injEq, Prod.mk.injEq] at hstep
      obtain ⟨rfl, -⟩ := hstep
      exact hgood.afterMove hthread txq.queue .checkFull trivial (by simp)
  | leaving =>
      have hthread : (txq.pc thread).Inside := by
        rw [hpc]
        trivial
      have hpos := hgood.txRequest_pos.mpr ⟨thread, hthread⟩
      have hle := hgood.txRequest_le
      simp only [hpc, Option.some.injEq, Prod.mk.injEq,
        atomicDecReturn] at hstep
      obtain ⟨rfl, -⟩ := hstep
      by_cases hone : txq.txRequest = 1
      · simpa [hone] using hgood.afterLeave hpc hone
      · have htwo : txq.txRequest = 2 := by omega
        simpa [htwo] using hgood.afterReturn hthread

theorem HandedOff.afterStep (hgood : txq.HandedOff) {event : TxqEvent Skb}
    {next : MldTxq Skb} {output : List Skb}
    (hstep : txq.step event = some (next, output)) : next.HandedOff := by
  cases event with
  | enqueue thread skb =>
      obtain ⟨hidle, rfl⟩ := startCall_eq hstep
      exact hgood.afterStartCall hidle (txq.queue ++ [skb]) txq.stopFull
  | wake thread =>
      obtain ⟨hidle, rfl⟩ := startCall_eq hstep
      exact hgood.afterStartCall hidle txq.queue txq.stopFull
  | queueFull =>
      simp only [step, Option.some.injEq, Prod.mk.injEq] at hstep
      obtain ⟨rfl, -⟩ := hstep
      constructor
      · exact hgood.inside_unique
      · exact hgood.txRequest_nonneg
      · exact hgood.txRequest_le
      · exact hgood.txRequest_pos
      · intro _ hfull
        exact absurd hfull (by simp)
  | queueNotFull thread =>
      obtain ⟨hidle, rfl⟩ := startCall_eq hstep
      exact hgood.afterStartCall hidle txq.queue false
  | advance thread => exact hgood.afterTxFromTxq hstep

/-! ## No frame is stranded -/

/-- The states of a TXQ over all interleavings of its threads. -/
abbrev Reachable (txq : MldTxq Skb) : Prop :=
  ConditionedRun.Reachable step (fun _ _ => True) init txq

theorem Reachable.handedOff (hreach : txq.Reachable) : txq.HandedOff :=
  ConditionedRun.Reachable.invariant init_handedOff
    (fun _ _ _ _ hgood _ hstep => hgood.afterStep hstep) hreach

/-- One thread at a time is past the counter, the counter stays within its
three values, and a queue with frames that is not blocked has a thread inside
the function or about to enter it. -/
theorem not_stranded (hreach : txq.Reachable) :
    (∀ first second, (txq.pc first).Inside → (txq.pc second).Inside →
      first = second) ∧
    (0 ≤ txq.txRequest ∧ txq.txRequest ≤ 2) ∧
    ((∀ thread, ¬(txq.pc thread).Inside ∧ txq.pc thread ≠ .calling) →
      txq.stopFull = false → txq.queue = []) := by
  have hgood := hreach.handedOff
  constructor
  · exact hgood.inside_unique
  constructor
  · exact ⟨hgood.txRequest_nonneg, hgood.txRequest_le⟩
  · intro hout hfull
    by_contra hqueue
    obtain ⟨thread, hlook⟩ := hgood.looked_at hqueue hfull
    obtain ⟨hnotInside, hnotCalling⟩ := hout thread
    cases hpc : txq.pc thread <;>
      simp_all [TxThreadPc.Inside, TxThreadPc.WillLook]

/-- Thread 1 leaves its note while thread 0 is about to leave; thread 0 goes
round again and sends both frames. -/
theorem not_stranded_note :
    ∃ txq : MldTxq ℕ, txq.Reachable ∧ txq.txRequest ≤ 2 ∧ txq.queue = [] := by
  let events : List (TxqEvent ℕ) :=
    [.enqueue 0 10, .advance 0, .advance 0, .advance 0, .advance 0,
      .advance 0, .advance 0, .enqueue 1 11, .advance 1, .advance 0,
      .advance 0, .advance 0, .advance 0, .advance 0, .advance 0,
      .advance 0]
  obtain ⟨last, output, hrun, hfull, hout⟩ : ∃ last output,
      ConditionedRun.run step (init : MldTxq ℕ) events =
        some (last, output) ∧ last.stopFull = false ∧
      ∀ thread, ¬(last.pc thread).Inside ∧ last.pc thread ≠ .calling := by
    refine ⟨_, _, rfl, rfl, ?_⟩
    intro thread
    match thread with
    | 0 => exact ⟨id, nofun⟩
    | 1 => exact ⟨id, nofun⟩
    | _ + 2 => exact ⟨id, nofun⟩
  have hreach := ConditionedRun.reachable_of_run .start hrun
  exact ⟨last, hreach, (not_stranded hreach).2.1.2,
    (not_stranded hreach).2.2 hout hfull⟩

/-- A frame that was just put on the TXQ waits for the call that follows. -/
theorem stranded_before_call :
    ∃ txq : MldTxq ℕ, txq.Reachable ∧
      (∀ thread, ¬(txq.pc thread).Inside) ∧ txq.stopFull = false ∧
      txq.queue ≠ [] := by
  refine ⟨_, ConditionedRun.Reachable.after .start (.enqueue 0 10) []
    trivial rfl, ?_, rfl, ?_⟩
  · intro thread
    match thread with
    | 0 => exact id
    | _ + 1 => exact id
  · exact List.cons_ne_nil 10 []

end MldTxq

end IwlwifiStack
