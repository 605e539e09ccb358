import IwlwifiStack.TxQueueModel

/-!
# The entries of a transmit queue

Which entries hold a frame, in every run of transmissions and reclaims, whatever their order.  The
frames placed on the ring are numbered; `read` is the number behind `read_ptr` and `freed` the
number up to which a reclaim has freed.  Behind the last frame the entry for the next one may
still hold a frame whose TFD could not be built.
-/

namespace IwlwifiStack

variable {Skb : Type*}

def TxQueue.freedPtr (txq : TxQueue Skb) : ℕ :=
  match txq.pc with
  | .freeing txqReadPtr _ _ _ => txqReadPtr
  | _ => txq.readPtr

theorem TxQueueConfig.nWindow_of_gen1 (config : TxQueueConfig) (hgen1 : config.gen2 = false) :
    config.size.nWindow = config.size.maxTfdQueueSize := by
  unfold TxqSize.nWindow TxqSize.maxTfdQueueSize
  rw [config.gen1_size hgen1]

namespace TxQueueRun

/-- The entries from `freed` to the last frame hold the frames, and the others hold none. -/
structure HoldsRing (config : TxQueueConfig) (start read freed : ℕ) (run : TxQueueRun Skb) :
    Prop where
  read_le : read ≤ freed
  freed_le : freed ≤ run.placed.length
  window_lt : run.placed.length - read < config.size.nWindow
  window_le : run.placed.length - read ≤ config.size.capacity
  readPtr_eq : run.txq.readPtr = (start + read) % config.size.maxTfdQueueSize
  writePtr_eq : run.txq.writePtr = (start + run.placed.length) % config.size.maxTfdQueueSize
  freedPtr_eq : run.txq.freedPtr = (start + freed) % config.size.maxTfdQueueSize
  held : ∀ i, freed ≤ i → i < run.placed.length →
    run.txq.entries ((start + i) % config.size.nWindow) = run.placed[i]?
  empty : ∀ slot, (∀ i, freed ≤ i → i ≤ run.placed.length →
    slot ≠ (start + i) % config.size.nWindow) → run.txq.entries slot = none
  freeing : ∀ txqReadPtr tfdNum isFlush skbs,
    run.txq.pc = .freeing txqReadPtr tfdNum isFlush skbs →
      skbs = (run.placed.take freed).drop read ∧
        ∃ position, freed ≤ position ∧ position ≤ run.placed.length ∧
          tfdNum = (start + position) % config.size.nWindow

variable {config : TxQueueConfig} {start read freed : ℕ} {run after : TxQueueRun Skb}

theorem init_holdsRing (config : TxQueueConfig) (start : ℕ) :
    HoldsRing config start 0 0 (init config start : TxQueueRun Skb) where
  read_le := le_refl 0
  freed_le := le_refl 0
  window_lt := config.size.nWindow_pos
  window_le := Nat.zero_le _
  readPtr_eq := rfl
  writePtr_eq := rfl
  freedPtr_eq := rfl
  held := fun _ _ hlt => absurd hlt (Nat.not_lt_zero _)
  empty := fun _ _ => rfl
  freeing := fun _ _ _ _ hpc => by cases hpc

namespace HoldsRing

theorem writeEntry_eq (hin : HoldsRing config start read freed run) :
    run.txq.writeEntry config = (start + run.placed.length) % config.size.nWindow := by
  unfold TxQueue.writeEntry
  split
  · rw [hin.writePtr_eq, iwlTxqGetCmdIndex_ring]
  · next hgen1 =>
    rw [hin.writePtr_eq, config.nWindow_of_gen1 (by simpa using hgen1)]

theorem slot_ne (hin : HoldsRing config start read freed run) {i j : ℕ} (hi : read ≤ i)
    (hj : read ≤ j) (hile : i ≤ run.placed.length) (hjle : j ≤ run.placed.length)
    (hne : i ≠ j) : (start + i) % config.size.nWindow ≠ (start + j) % config.size.nWindow := by
  intro hsame
  have hwindow := hin.window_lt
  have heq := @SlotRing.position_unique config.size.nWindow (start + read) _ _ (by omega)
    (by omega) (by omega) (by omega) hsame
  omega

theorem space_eq (hin : HoldsRing config start read freed run) :
    run.txq.space config = config.size.capacity - (run.placed.length - read) := by
  have hread := hin.read_le
  have hfreed := hin.freed_le
  have hwindow := hin.window_le
  unfold TxQueue.space
  rw [hin.readPtr_eq, hin.writePtr_eq, iwlTxqSpace_ring (by omega) (by omega)]
  omega

theorem room (hin : HoldsRing config start read freed run)
    (hroom : run.txq.overflows config = false) :
    run.placed.length - read + 2 ≤ config.size.capacity := by
  have hspace := hin.space_eq
  have hhigh : 2 ≤ config.highMark := by
    unfold TxQueueConfig.highMark
    split <;> omega
  simp only [TxQueue.overflows, Bool.and_eq_false_iff, decide_eq_false_iff_not,
    Nat.not_lt] at hroom
  omega

theorem iwlTransTx_cases (config : TxQueueConfig) (txq : TxQueue Skb)
    (skb : Skb) (env : TxEnv) :
    (env = .refuses ∧ txq.iwlTransTx config skb env = (txq, .failed)) ∨
    (env ≠ .refuses ∧ txq.overflows config = true ∧
      ∃ stopped, txq.iwlTransTx config skb env =
        ({ txq with
            queueStopped := stopped
            overflowQ := txq.overflowQ ++ [skb] }, .overflow)) ∨
    (env = .buildFails ∧ txq.overflows config = false ∧
      ∃ stopped, txq.iwlTransTx config skb env =
        ({ txq with
            queueStopped := stopped
            entries := Function.update txq.entries (txq.writeEntry config)
              (some skb) }, .failed)) ∨
    (env = .builds ∧ txq.overflows config = false ∧
      ∃ stopped, txq.iwlTransTx config skb env =
        ({ txq with
            queueStopped := stopped
            entries := Function.update txq.entries (txq.writeEntry config)
              (some skb)
            writePtr := iwlTxqIncWrap config.size txq.writePtr },
          .placed)) := by
  unfold TxQueue.iwlTransTx
  cases hroom : txq.overflows config <;> cases env <;>
    simp

/-! ## Steps that leave the window alone -/

theorem frame (hin : HoldsRing config start read freed run)
    (hplaced : after.placed = run.placed) (hread : after.txq.readPtr = run.txq.readPtr)
    (hwrite : after.txq.writePtr = run.txq.writePtr)
    (hfreedPtr : after.txq.freedPtr = run.txq.freedPtr)
    (hentries : ∀ slot, slot ≠ (start + run.placed.length) % config.size.nWindow →
      after.txq.entries slot = run.txq.entries slot)
    (hfreeing : ∀ txqReadPtr tfdNum isFlush skbs,
      after.txq.pc = .freeing txqReadPtr tfdNum isFlush skbs →
        run.txq.pc = .freeing txqReadPtr tfdNum isFlush skbs) :
    HoldsRing config start read freed after where
  read_le := hin.read_le
  freed_le := hplaced ▸ hin.freed_le
  window_lt := hplaced ▸ hin.window_lt
  window_le := hplaced ▸ hin.window_le
  readPtr_eq := hread.trans hin.readPtr_eq
  writePtr_eq := hplaced ▸ hwrite.trans hin.writePtr_eq
  freedPtr_eq := hfreedPtr.trans hin.freedPtr_eq
  held := by
    intro i hfrom hto
    rw [hplaced] at hto ⊢
    have hread := hin.read_le
    have hne := hin.slot_ne (hread.trans hfrom) (hread.trans hin.freed_le) hto.le le_rfl
      (Nat.ne_of_lt hto)
    rw [hentries _ hne]
    exact hin.held i hfrom hto
  empty := by
    intro slot hslot
    rw [hplaced] at hslot
    rw [hentries slot (hslot _ hin.freed_le le_rfl)]
    exact hin.empty slot hslot
  freeing := by
    intro txqReadPtr tfdNum isFlush skbs hpc
    rw [hplaced]
    exact hin.freeing _ _ _ _ (hfreeing _ _ _ _ hpc)

/-! ## One transmission -/

theorem place (hin : HoldsRing config start read freed run)
    (hroom : run.txq.overflows config = false) {skb : Skb}
    (hplaced : after.placed = run.placed ++ [skb])
    (hread : after.txq.readPtr = run.txq.readPtr)
    (hwrite : after.txq.writePtr = iwlTxqIncWrap config.size run.txq.writePtr)
    (hfreedPtr : after.txq.freedPtr = run.txq.freedPtr)
    (hentries : after.txq.entries =
      Function.update run.txq.entries (run.txq.writeEntry config) (some skb))
    (hfreeing : ∀ txqReadPtr tfdNum isFlush skbs,
      after.txq.pc = .freeing txqReadPtr tfdNum isFlush skbs →
        run.txq.pc = .freeing txqReadPtr tfdNum isFlush skbs) :
    HoldsRing config start read freed after := by
  have hfreed := hin.freed_le
  have hle := hin.read_le
  have hspace := hin.room hroom
  have hcapacity := config.size.capacity_le
  have hlength : after.placed.length = run.placed.length + 1 := by
    rw [hplaced, List.length_append, List.length_singleton]
  rw [hin.writeEntry_eq] at hentries
  constructor
  · exact hle
  · omega
  · omega
  · omega
  · exact hread.trans hin.readPtr_eq
  · rw [hwrite, hin.writePtr_eq, iwlTxqIncWrap_ring, hlength, Nat.add_assoc]
  · exact hfreedPtr.trans hin.freedPtr_eq
  · intro i hfrom hto
    rw [hentries, hplaced]
    by_cases hlast : i = run.placed.length
    · rw [hlast, Function.update_self, List.getElem?_concat_length]
    · have hbefore : i < run.placed.length := by omega
      have hne := hin.slot_ne (hle.trans hfrom) (hle.trans hfreed) hbefore.le le_rfl hlast
      rw [Function.update_of_ne hne, List.getElem?_append_left hbefore]
      exact hin.held i hfrom hbefore
  · intro slot hslot
    rw [hentries, Function.update_of_ne (hslot _ hfreed (by omega))]
    exact hin.empty slot fun i hfrom hto => hslot i hfrom (by omega)
  · intro txqReadPtr tfdNum isFlush skbs hpc
    rcases hin.freeing _ _ _ _ (hfreeing _ _ _ _ hpc) with ⟨hskbs, position, hfrom, hto, htfd⟩
    rw [hplaced, List.take_append_of_le_length hfreed]
    apply And.intro hskbs
    exact ⟨position, hfrom, by rw [← hplaced]; omega, htfd⟩

theorem transmit (hin : HoldsRing config start read freed run) (skb : Skb) (env : TxEnv)
    (hplaced : after.placed =
      placedAfter run.placed skb (run.txq.iwlTransTx config skb env).2)
    (hread : after.txq.readPtr = (run.txq.iwlTransTx config skb env).1.readPtr)
    (hwrite : after.txq.writePtr = (run.txq.iwlTransTx config skb env).1.writePtr)
    (hentries : after.txq.entries = (run.txq.iwlTransTx config skb env).1.entries)
    (hfreedPtr : after.txq.freedPtr = run.txq.freedPtr)
    (hfreeing : ∀ txqReadPtr tfdNum isFlush skbs,
      after.txq.pc = .freeing txqReadPtr tfdNum isFlush skbs →
        run.txq.pc = .freeing txqReadPtr tfdNum isFlush skbs) :
    HoldsRing config start read freed after := by
  rcases iwlTransTx_cases config run.txq skb env with
    ⟨_, hsent⟩ | ⟨_, _, stopped, hsent⟩ | ⟨_, _, stopped, hsent⟩ | ⟨_, hroom, stopped, hsent⟩
  · rw [hsent] at hplaced hread hwrite hentries
    exact hin.frame hplaced hread hwrite hfreedPtr (fun _ _ => by rw [hentries]) hfreeing
  · rw [hsent] at hplaced hread hwrite hentries
    exact hin.frame hplaced hread hwrite hfreedPtr (fun _ _ => by rw [hentries]) hfreeing
  · rw [hsent] at hplaced hread hwrite hentries
    apply hin.frame hplaced hread hwrite hfreedPtr ?_ hfreeing
    intro slot hslot
    rw [hentries, hin.writeEntry_eq]
    exact Function.update_of_ne hslot _ _
  · rw [hsent] at hplaced hread hwrite hentries
    exact hin.place hroom hplaced hread hwrite hfreedPtr hentries hfreeing

/-! ## Reclaiming -/

theorem freed_eq (hin : HoldsRing config start read freed run)
    (hidle : run.txq.freedPtr = run.txq.readPtr) : freed = read := by
  have hle := hin.read_le
  have hfreed := hin.freed_le
  have hwindow := hin.window_lt
  have hring := config.size.nWindow_le
  have hsame := hidle
  rw [hin.freedPtr_eq, hin.readPtr_eq] at hsame
  have heq := @SlotRing.position_unique config.size.maxTfdQueueSize (start + read) _ _
    (by omega) (by omega) (le_refl _) (by omega) hsame
  omega

/-- The first frame number from `read` on whose entry `ssn` names. -/
def FirstNamed (config : TxQueueConfig) (start read ssn position : ℕ) : Prop :=
  IsLeast {i | read ≤ i ∧ (start + i) % config.size.nWindow = ssn % config.size.nWindow} position

theorem firstNamed_exists (config : TxQueueConfig) (start read ssn : ℕ) :
    ∃ position, FirstNamed config start read ssn position ∧
      position < read + config.size.nWindow := by
  have hslot := Nat.mod_lt ssn config.size.nWindow_pos
  rcases SlotRing.exists_offset (start + read) hslot with ⟨i, hi, hname⟩
  apply Exists.intro (read + i)
  constructor
  · constructor
    · exact ⟨Nat.le_add_right _ _, by rw [← Nat.add_assoc]; exact hname⟩
    · rintro j ⟨hj, hsame⟩
      by_contra hbefore
      have heq := @SlotRing.position_unique config.size.nWindow (start + read) (start + j)
        (start + read + i) (by omega) (by omega) (by omega) (by omega) (hsame.trans hname.symm)
      omega
  · omega

/-- A reclaim starts to free up to the first frame that `ssn` names if that is behind `read` and
not past the last one; otherwise nothing changes. -/
theorem reclaim_start (hin : HoldsRing config start read freed run)
    (hidle : run.txq.pc = .idle) {ssn position : ℕ}
    (hfirst : FirstNamed config start read ssn position) (isFlush : Bool) :
    run.txq.iwlPcieReclaim config ssn isFlush =
      if read < position ∧ position ≤ run.placed.length then
        { run.txq with
          pc := .freeing run.txq.readPtr ((start + position) % config.size.nWindow) isFlush [] }
      else run.txq := by
  have hfreedPtr : run.txq.freedPtr = run.txq.readPtr := by
    rw [TxQueue.freedPtr, hidle]
  have hfreed := hin.freed_eq hfreedPtr
  have hle := hin.freed_le
  have hpos := config.size.nWindow_pos
  have hring := config.size.nWindow_le
  have hwindow := hin.window_lt
  rcases hfirst with ⟨⟨hfrom, hname⟩, hleast⟩
  have htfd : iwlTxqGetCmdIndex config.size ssn = (start + position) % config.size.nWindow := by
    rw [iwlTxqGetCmdIndex_eq, hname]
  have hreadIndex : iwlTxqGetCmdIndex config.size run.txq.readPtr =
      (start + read) % config.size.nWindow := by
    rw [hin.readPtr_eq, iwlTxqGetCmdIndex_ring]
  have hclose : position < read + config.size.nWindow := by
    rcases firstNamed_exists config start read ssn with ⟨other, hother, hnear⟩
    exact lt_of_le_of_lt (hleast hother.1) hnear
  by_cases hread : position = read
  · have hstays : ¬(read < position ∧ position ≤ run.placed.length) := by omega
    have hsame : iwlTxqGetCmdIndex config.size run.txq.readPtr =
        iwlTxqGetCmdIndex config.size ssn := by
      rw [hreadIndex, htfd, hread]
    rw [if_neg hstays]
    simp only [TxQueue.iwlPcieReclaim, if_pos hsame]
    split <;> rfl
  · have hbehind : read < position := by omega
    have hdiffers : iwlTxqGetCmdIndex config.size run.txq.readPtr ≠
        iwlTxqGetCmdIndex config.size ssn := by
      rw [hreadIndex, htfd]
      intro hsame
      exact hread (le_antisymm (hleast ⟨le_rfl, hsame.trans hname⟩) hfrom)
    have hused : iwlTxqUsed config.size
        (iwlTxqDecWrap config.size (iwlTxqGetCmdIndex config.size ssn))
        run.txq.readPtr run.txq.writePtr = true ↔ position ≤ run.placed.length := by
      have hlast : iwlTxqDecWrap config.size (iwlTxqGetCmdIndex config.size ssn) %
          config.size.nWindow = (start + position - 1) % config.size.nWindow := by
        have hsplit : start + position = start + position - 1 + 1 := by omega
        rw [htfd, hsplit, iwlTxqDecWrap_entry, Nat.add_sub_cancel]
      rw [hin.readPtr_eq, hin.writePtr_eq, iwlTxqUsed_iff (by omega) (by omega), hlast]
      constructor
      · rintro ⟨other, hother, hto, hsame⟩
        have heq := @SlotRing.position_unique config.size.nWindow (start + read) other
          (start + position - 1) (by omega) (by omega) (by omega) (by omega) hsame
        omega
      · intro hto
        exact ⟨start + position - 1, by omega, by omega, rfl⟩
    by_cases hto : position ≤ run.placed.length
    · have hwritten : run.txq.writePtr ≠ run.txq.readPtr := by
        rw [hin.writePtr_eq, hin.readPtr_eq]
        intro hsame
        have heq := @SlotRing.position_unique config.size.maxTfdQueueSize (start + read) _ _
          (by omega) (by omega) (le_refl _) (by omega) hsame
        omega
      rw [if_pos ⟨hbehind, hto⟩]
      simp only [TxQueue.iwlPcieReclaim, hused.mpr hto, if_neg hdiffers]
      simp [hwritten, htfd]
    · have hstays : ¬(read < position ∧ position ≤ run.placed.length) := by omega
      have hunused : iwlTxqUsed config.size
          (iwlTxqDecWrap config.size (iwlTxqGetCmdIndex config.size ssn))
          run.txq.readPtr run.txq.writePtr = false := by
        rw [← Bool.not_eq_true, hused]
        exact hto
      rw [if_neg hstays]
      simp only [TxQueue.iwlPcieReclaim, hunused, if_neg hdiffers]
      simp

theorem afterReclaim (hin : HoldsRing config start read freed run) {ssn : ℕ} {isFlush : Bool}
    {output : List Skb}
    (hstep : run.step config (.reclaim ssn isFlush) = some (after, output)) :
    HoldsRing config start read freed after := by
  simp only [step] at hstep
  split at hstep
  case h_2 => cases hstep
  case h_1 hidle =>
    simp only [Option.some.injEq, Prod.mk.injEq] at hstep
    rw [← hstep.1]
    have hfreedPtr : run.txq.freedPtr = run.txq.readPtr := by
      rw [TxQueue.freedPtr, hidle]
    have hfreed := hin.freed_eq hfreedPtr
    rcases firstNamed_exists config start read ssn with ⟨position, hfirst, _⟩
    rw [hin.reclaim_start hidle hfirst]
    split
    · next hrange =>
      constructor
      · exact hin.read_le
      · exact hin.freed_le
      · exact hin.window_lt
      · exact hin.window_le
      · exact hin.readPtr_eq
      · exact hin.writePtr_eq
      · exact hfreedPtr.symm.trans hin.freedPtr_eq
      · exact hin.held
      · exact hin.empty
      · intro txqReadPtr tfdNum flush skbs hpc
        cases hpc
        constructor
        · rw [hfreed, List.drop_eq_nil_of_le]
          rw [List.length_take]
          omega
        · exact ⟨position, by omega, hrange.2, rfl⟩
    · exact hin

theorem afterUpdate (hin : HoldsRing config start read freed run) {txqReadPtr tfdNum : ℕ}
    {isFlush : Bool} {skbs : List Skb}
    (hpc : run.txq.pc = .freeing txqReadPtr tfdNum isFlush skbs) (returned : List Skb) :
    HoldsRing config start freed freed
      { run with
        txq := (run.txq.updateReadPtr config txqReadPtr isFlush skbs).1
        returned := returned } := by
  have hle := hin.read_le
  have hfreedPtr := hin.freedPtr_eq
  have hwindow := hin.window_lt
  have hcapacity := hin.window_le
  simp only [TxQueue.freedPtr, hpc] at hfreedPtr
  have hupdate : ∃ overflowQ overflowTx pc,
      (run.txq.updateReadPtr config txqReadPtr isFlush skbs).1 =
        { run.txq with
          readPtr := txqReadPtr
          overflowQ := overflowQ
          overflowTx := overflowTx
          pc := pc } ∧
      (pc = .idle ∨ ∃ rest, pc = .draining rest) := by
    unfold TxQueue.updateReadPtr
    dsimp only
    split
    · exact ⟨_, _, _, rfl, Or.inr ⟨_, rfl⟩⟩
    · exact ⟨_, _, _, rfl, Or.inl rfl⟩
  rcases hupdate with ⟨overflowQ, overflowTx, pc, hupdate, hnext⟩
  rw [hupdate]
  constructor
  · exact le_refl freed
  · exact hin.freed_le
  · exact lt_of_le_of_lt (Nat.sub_le_sub_left hle _) hwindow
  · exact (Nat.sub_le_sub_left hle _).trans hcapacity
  · exact hfreedPtr
  · exact hin.writePtr_eq
  · rcases hnext with hidle | ⟨rest, hdraining⟩
    · rw [hidle]
      exact hfreedPtr
    · rw [hdraining]
      exact hfreedPtr
  · exact hin.held
  · exact hin.empty
  · intro _ _ _ _ hfreeing
    rcases hnext with hidle | ⟨rest, hdraining⟩
    · rw [hidle] at hfreeing
      cases hfreeing
    · rw [hdraining] at hfreeing
      cases hfreeing

theorem freeing_entry (hin : HoldsRing config start read freed run) {txqReadPtr tfdNum : ℕ}
    {isFlush : Bool} {skbs : List Skb}
    (hpc : run.txq.pc = .freeing txqReadPtr tfdNum isFlush skbs)
    (hmore : iwlTxqGetCmdIndex config.size txqReadPtr ≠ tfdNum) :
    iwlTxqGetCmdIndex config.size txqReadPtr = (start + freed) % config.size.nWindow ∧
      freed < run.placed.length ∧
      run.txq.entries (iwlTxqGetCmdIndex config.size txqReadPtr) = run.placed[freed]? := by
  have hfreedPtr := hin.freedPtr_eq
  simp only [TxQueue.freedPtr, hpc] at hfreedPtr
  have hentry : iwlTxqGetCmdIndex config.size txqReadPtr =
      (start + freed) % config.size.nWindow := by
    rw [hfreedPtr, iwlTxqGetCmdIndex_ring]
  rcases hin.freeing _ _ _ _ hpc with ⟨_, position, hfrom, hto, htfd⟩
  have hplaced : freed < run.placed.length := by
    apply lt_of_lt_of_le (lt_of_le_of_ne hfrom _) hto
    intro heq
    rw [hentry, htfd, heq] at hmore
    exact hmore rfl
  apply And.intro hentry
  apply And.intro hplaced
  rw [hentry, hin.held freed le_rfl hplaced]

theorem afterFree (hin : HoldsRing config start read freed run) {txqReadPtr tfdNum : ℕ}
    {isFlush : Bool} {skbs : List Skb}
    (hpc : run.txq.pc = .freeing txqReadPtr tfdNum isFlush skbs)
    (hmore : iwlTxqGetCmdIndex config.size txqReadPtr ≠ tfdNum) :
    ∃ skb, run.txq.entries (iwlTxqGetCmdIndex config.size txqReadPtr) = some skb ∧
      HoldsRing config start read (freed + 1)
        { run with
          txq :=
            { run.txq with
              entries := Function.update run.txq.entries
                (iwlTxqGetCmdIndex config.size txqReadPtr) none
              pc := .freeing (iwlTxqIncWrap config.size txqReadPtr) tfdNum isFlush
                (skbs ++ [skb]) } } := by
  rcases hin.freeing_entry hpc hmore with ⟨hentry, hplaced, hheld⟩
  rcases hin.freeing _ _ _ _ hpc with ⟨hskbs, position, hfrom, hto, htfd⟩
  have hfreedPtr := hin.freedPtr_eq
  have hle := hin.read_le
  have hlt : freed < position := by
    apply lt_of_le_of_ne hfrom
    intro heq
    rw [hentry, htfd, heq] at hmore
    exact hmore rfl
  simp only [TxQueue.freedPtr, hpc] at hfreedPtr
  apply Exists.intro run.placed[freed]
  constructor
  · rw [hheld, List.getElem?_eq_getElem hplaced]
  · constructor
    · exact hle.trans (Nat.le_succ freed)
    · exact hplaced
    · exact hin.window_lt
    · exact hin.window_le
    · exact hin.readPtr_eq
    · exact hin.writePtr_eq
    · simp only [TxQueue.freedPtr]
      rw [hfreedPtr, iwlTxqIncWrap_ring, Nat.add_assoc]
    · intro i hi hi'
      have hlater : freed ≤ i := by omega
      have hne := hin.slot_ne (hle.trans hlater) hle (le_of_lt hi') hplaced.le (by omega)
      simp only [hentry, Function.update_of_ne hne]
      exact hin.held i hlater hi'
    · intro slot hslot
      simp only [hentry]
      by_cases hsame : slot = (start + freed) % config.size.nWindow
      · rw [hsame, Function.update_self]
      · rw [Function.update_of_ne hsame]
        apply hin.empty slot
        intro i hi hi'
        by_cases hfirst : i = freed
        · rw [hfirst]
          exact hsame
        · exact hslot i (by omega) hi'
    · intro _ _ _ _ hfreeing
      cases hfreeing
      constructor
      · have htake : run.placed.take (freed + 1) = run.placed.take freed ++ [run.placed[freed]] :=
          (List.take_concat_get' run.placed freed hplaced).symm
        have hlength : read ≤ (run.placed.take freed).length := by
          rw [List.length_take]
          omega
        rw [hskbs, htake, List.drop_append_of_le_length hlength]
      · exact ⟨position, hlt, hto, htfd⟩

theorem iwlTransTx_reclaim (config : TxQueueConfig) (txq : TxQueue Skb) (skb : Skb)
    (env : TxEnv) :
    (txq.iwlTransTx config skb env).1.pc = txq.pc ∧
      (txq.iwlTransTx config skb env).1.readPtr = txq.readPtr := by
  rcases iwlTransTx_cases config txq skb env with
    ⟨_, hsent⟩ | ⟨_, _, stopped, hsent⟩ | ⟨_, _, stopped, hsent⟩ | ⟨_, _, stopped, hsent⟩
  all_goals
    rw [hsent]
    exact ⟨rfl, rfl⟩

theorem afterTx (hin : HoldsRing config start read freed run) {skb : Skb} {env : TxEnv}
    {output : List Skb} (hstep : run.step config (.tx skb env) = some (after, output)) :
    HoldsRing config start read freed after ∧ after.txq.pc = run.txq.pc ∧
      after.returned = run.returned ∧ run.placed <+: after.placed := by
  simp only [step, Option.some.injEq, Prod.mk.injEq] at hstep
  rw [← hstep.1]
  rcases iwlTransTx_reclaim config run.txq skb env with ⟨hpc, hreadPtr⟩
  constructor
  · apply hin.transmit skb env rfl rfl rfl rfl
    · simp only [TxQueue.freedPtr, hpc, hreadPtr]
    · intro _ _ _ _ hfreeing
      rw [← hpc]
      exact hfreeing
  · apply And.intro hpc
    apply And.intro rfl
    cases (run.txq.iwlTransTx config skb env).2 with
    | placed => exact List.prefix_append _ _
    | overflow => exact List.prefix_rfl
    | failed => exact List.prefix_rfl

theorem afterDrain (hin : HoldsRing config start read freed run) {skb : Skb}
    {rest : List Skb} (env : TxEnv) (hpc : run.txq.pc = .draining (skb :: rest)) :
    HoldsRing config start read freed
      { run with
        txq := { (run.txq.iwlTransTx config skb env).1 with pc := .draining rest }
        placed := placedAfter run.placed skb (run.txq.iwlTransTx config skb env).2 } := by
  apply hin.transmit skb env rfl rfl rfl rfl
  · simp only [TxQueue.freedPtr, hpc]
    exact (iwlTransTx_reclaim config run.txq skb env).2
  · intro _ _ _ _ hfreeing
    cases hfreeing

theorem afterResume (hin : HoldsRing config start read freed run)
    (hidle : run.txq.freedPtr = run.txq.readPtr) {pc : ReclaimPc Skb}
    (hpc : pc = .waking ∨ pc = .ending ∨ pc = .idle) (stopped overflowTx : Bool) :
    HoldsRing config start read freed
      { run with
        txq := { run.txq with queueStopped := stopped, overflowTx := overflowTx, pc := pc } } := by
  rcases hpc with hwaking | hending | hdone
  · rw [hwaking]
    exact hin.frame rfl rfl rfl hidle.symm (fun _ _ => rfl) nofun
  · rw [hending]
    exact hin.frame rfl rfl rfl hidle.symm (fun _ _ => rfl) nofun
  · rw [hdone]
    exact hin.frame rfl rfl rfl hidle.symm (fun _ _ => rfl) nofun

theorem afterAdvance (hin : HoldsRing config start read freed run) {env : TxEnv}
    (hstep : run.advance config env = some after) :
    ∃ read' freed', HoldsRing config start read' freed' after := by
  unfold advance at hstep
  cases hpc : run.txq.pc with
  | idle => simp [hpc] at hstep
  | freeing txqReadPtr tfdNum isFlush skbs =>
    simp only [hpc] at hstep
    split at hstep
    · simp only [Option.some.injEq] at hstep
      rw [← hstep]
      exact ⟨freed, freed, hin.afterUpdate hpc _⟩
    · next hmore =>
      rcases hin.afterFree hpc hmore with ⟨skb, hentry, hafter⟩
      simp only [hentry, Option.some.injEq] at hstep
      rw [← hstep]
      exact ⟨read, freed + 1, hafter⟩
  | draining overflowSkbs =>
    cases overflowSkbs with
    | nil =>
      simp only [hpc, Option.some.injEq] at hstep
      rw [← hstep]
      apply Exists.intro read
      apply Exists.intro freed
      apply hin.afterResume (by rw [TxQueue.freedPtr, hpc])
      split
      · exact Or.inl rfl
      · exact Or.inr (Or.inl rfl)
    | cons skb rest =>
      simp only [hpc, Option.some.injEq] at hstep
      rw [← hstep]
      exact ⟨read, freed, hin.afterDrain env hpc⟩
  | waking =>
    simp only [hpc, Option.some.injEq] at hstep
    rw [← hstep]
    exact ⟨read, freed, hin.afterResume (by rw [TxQueue.freedPtr, hpc]) (Or.inr (Or.inl rfl)) _ _⟩
  | ending =>
    simp only [hpc, Option.some.injEq] at hstep
    rw [← hstep]
    exact ⟨read, freed, hin.afterResume (by rw [TxQueue.freedPtr, hpc]) (Or.inr (Or.inr rfl)) _ _⟩

theorem afterStep (hin : HoldsRing config start read freed run) {event : TxQueueEvent Skb}
    {output : List Skb} (hstep : run.step config event = some (after, output)) :
    ∃ read' freed', HoldsRing config start read' freed' after := by
  cases event with
  | tx skb env => exact ⟨read, freed, (hin.afterTx hstep).1⟩
  | reclaim ssn isFlush => exact ⟨read, freed, hin.afterReclaim hstep⟩
  | advance env =>
    rcases Option.map_eq_some_iff.mp hstep with ⟨next, hnext, heq⟩
    simp only [Prod.mk.injEq] at heq
    rw [← heq.1]
    exact hin.afterAdvance hnext

end HoldsRing

theorem reachable_holdsRing
    (hreach : ConditionedRun.Reachable (step config) (fun _ _ => True)
      (init config start) run) :
    ∃ read freed, HoldsRing config start read freed run := by
  apply @ConditionedRun.Reachable.invariant _ _ _ _ _ _
    (fun run => ∃ read freed, HoldsRing config start read freed run)
    ⟨0, 0, init_holdsRing config start⟩ ?_ _ hreach
  rintro before event after output ⟨read, freed, hin⟩ _ hstep
  exact hin.afterStep hstep

end TxQueueRun

end IwlwifiStack
