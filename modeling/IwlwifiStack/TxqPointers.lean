import IwlwifiStack.SlotRing

/-!
# The pointers of a transmit queue

The ring of a queue has `max_tfd_queue_size` positions and the driver keeps
`n_window` entries for it (`pcie/gen1_2/internal.h`, `tx-gen2.c`).  Both sizes
are powers of two, so the masks of the source are remainders.

A pointer is the ring position of a frame or command that is numbered from
the start of the queue; the theorems state what the index arithmetic says
about these numbers.
-/

namespace IwlwifiStack

/-- `n_window` and `max_tfd_queue_size`, which `iwl_queue_init` and
`iwl_txq_init` check to be powers of two. -/
structure TxqSize where
  windowBits : ℕ
  ringBits : ℕ
  window_le : windowBits ≤ ringBits
  ring_le : ringBits ≤ 16

namespace TxqSize

theorem ring256_le : 8 ≤ 16 := by
  decide

theorem window32_lt : 5 < 8 := by
  decide

theorem window32_le : 5 ≤ 8 :=
  window32_lt.le

def nWindow (size : TxqSize) : ℕ :=
  2 ^ size.windowBits

def maxTfdQueueSize (size : TxqSize) : ℕ :=
  2 ^ size.ringBits

def capacity (size : TxqSize) : ℕ :=
  if size.nWindow < size.maxTfdQueueSize then size.nWindow
  else size.maxTfdQueueSize - 1

variable (size : TxqSize)

theorem nWindow_pos : 0 < size.nWindow :=
  Nat.two_pow_pos size.windowBits

theorem maxTfdQueueSize_pos : 0 < size.maxTfdQueueSize :=
  Nat.two_pow_pos size.ringBits

theorem nWindow_dvd : size.nWindow ∣ size.maxTfdQueueSize :=
  pow_dvd_pow 2 size.window_le

theorem maxTfdQueueSize_le : size.maxTfdQueueSize ≤ 2 ^ 16 :=
  Nat.pow_le_pow_right two_pos size.ring_le

theorem nWindow_le : size.nWindow ≤ size.maxTfdQueueSize :=
  Nat.le_of_dvd size.maxTfdQueueSize_pos size.nWindow_dvd

theorem capacity_lt : size.capacity < size.maxTfdQueueSize := by
  have hpos := size.maxTfdQueueSize_pos
  unfold capacity
  split <;> omega

theorem capacity_le : size.capacity ≤ size.nWindow := by
  have hle := size.nWindow_le
  unfold capacity
  split <;> omega

end TxqSize

/-- `iwl_txq_get_cmd_index`, a `u16` -/
def iwlTxqGetCmdIndex (size : TxqSize) (index : ℕ) : ℕ :=
  index % size.nWindow % 2 ^ 16

/-- `iwl_txq_inc_wrap` -/
def iwlTxqIncWrap (size : TxqSize) (index : ℕ) : ℕ :=
  (index + 1) % size.maxTfdQueueSize

/-- `iwl_txq_dec_wrap` -/
def iwlTxqDecWrap (size : TxqSize) (index : ℕ) : ℕ :=
  (((index : ℤ) - 1) % (size.maxTfdQueueSize : ℤ)).toNat

/-- `iwl_txq_space` -/
def iwlTxqSpace (size : TxqSize) (writePtr readPtr : ℕ) : ℕ :=
  let used :=
    (((writePtr : ℤ) - readPtr) % (size.maxTfdQueueSize : ℤ)).toNat
  if used > size.capacity then 0 else size.capacity - used

/-- `iwl_txq_used` -/
def iwlTxqUsed (size : TxqSize) (i readPtr writePtr : ℕ) : Bool :=
  let index := iwlTxqGetCmdIndex size i
  let r := iwlTxqGetCmdIndex size readPtr
  let w := iwlTxqGetCmdIndex size writePtr
  if w ≥ r then index ≥ r && index < w else !(index < r && index ≥ w)

variable {size : TxqSize}

theorem iwlTxqGetCmdIndex_eq (index : ℕ) :
    iwlTxqGetCmdIndex size index = index % size.nWindow := by
  apply Nat.mod_eq_of_lt
  have hlt := Nat.mod_lt index size.nWindow_pos
  have hle := size.nWindow_le
  have hring := size.maxTfdQueueSize_le
  omega

theorem iwlTxqGetCmdIndex_lt (index : ℕ) :
    iwlTxqGetCmdIndex size index < size.nWindow := by
  rw [iwlTxqGetCmdIndex_eq]
  exact Nat.mod_lt index size.nWindow_pos

theorem iwlTxqGetCmdIndex_ring (position : ℕ) :
    iwlTxqGetCmdIndex size (position % size.maxTfdQueueSize) =
      position % size.nWindow := by
  rw [iwlTxqGetCmdIndex_eq, Nat.mod_mod_of_dvd _ size.nWindow_dvd]

theorem iwlTxqIncWrap_ring (position : ℕ) :
    iwlTxqIncWrap size (position % size.maxTfdQueueSize) =
      (position + 1) % size.maxTfdQueueSize := by
  rw [iwlTxqIncWrap, Nat.mod_add_mod]

theorem iwlTxqDecWrap_entry (position : ℕ) :
    iwlTxqDecWrap size ((position + 1) % size.nWindow) % size.nWindow =
      position % size.nWindow := by
  have hpos := size.nWindow_pos
  have hle := size.nWindow_le
  have hlt := Nat.mod_lt (position + 1) hpos
  by_cases hwrap : (position + 1) % size.nWindow = 0
  · have hlast : iwlTxqDecWrap size 0 = size.maxTfdQueueSize - 1 := by
      have hmax : (((0 : ℕ) : ℤ) - 1) % (size.maxTfdQueueSize : ℤ) =
          size.maxTfdQueueSize - 1 := by
        rw [← Int.add_emod_right]
        apply Int.emod_eq_of_lt <;> omega
      rw [iwlTxqDecWrap, hmax]
      omega
    obtain ⟨turns, hturns⟩ := size.nWindow_dvd
    obtain ⟨rounds, hrounds⟩ := Nat.dvd_of_mod_eq_zero hwrap
    have hturnsPos : 0 < turns := by
      by_contra hzero
      simp only [Nat.eq_zero_of_not_pos hzero, mul_zero] at hturns
      omega
    have hroundsPos : 0 < rounds := by
      by_contra hzero
      simp only [Nat.eq_zero_of_not_pos hzero, mul_zero] at hrounds
      omega
    have hlastEntry : ∀ count, 0 < count →
        (size.nWindow * count - 1) % size.nWindow = size.nWindow - 1 := by
      intro count hcount
      have hsplit : size.nWindow * count - 1 =
          (size.nWindow - 1) + size.nWindow * (count - 1) := by
        obtain ⟨rest, rfl⟩ := Nat.exists_eq_add_of_lt hcount
        simp only [Nat.zero_add, Nat.add_sub_cancel, Nat.mul_add, mul_one]
        omega
      rw [hsplit, Nat.add_mul_mod_self_left, Nat.mod_eq_of_lt (by omega)]
    have hposition : position = size.nWindow * rounds - 1 := by omega
    rw [hwrap, hlast, hturns, hlastEntry turns hturnsPos, hposition,
      hlastEntry rounds hroundsPos]
  · have hprev : iwlTxqDecWrap size ((position + 1) % size.nWindow) =
        (position + 1) % size.nWindow - 1 := by
      rw [iwlTxqDecWrap, Int.emod_eq_of_lt] <;> omega
    have hmod := Nat.div_add_mod (position + 1) size.nWindow
    have hsplit : position =
        ((position + 1) % size.nWindow - 1) +
          size.nWindow * ((position + 1) / size.nWindow) := by omega
    rw [hprev]
    conv_rhs => rw [hsplit, Nat.add_mul_mod_self_left]

/-! ## The window between the pointers -/

variable {read write : ℕ}

theorem iwlTxqSpace_ring (hle : read ≤ write)
    (hcapacity : write - read ≤ size.capacity) :
    iwlTxqSpace size (write % size.maxTfdQueueSize)
        (read % size.maxTfdQueueSize) =
      size.capacity - (write - read) := by
  have hlt := size.capacity_lt
  have hused :
      (((write % size.maxTfdQueueSize : ℕ) : ℤ) -
          (read % size.maxTfdQueueSize : ℕ)) %
        (size.maxTfdQueueSize : ℤ) = (write - read : ℕ) := by
    rw [Int.natCast_mod, Int.natCast_mod, ← Int.sub_emod,
      ← Nat.cast_sub hle]
    apply Int.emod_eq_of_lt <;> omega
  unfold iwlTxqSpace
  simp only [hused, Int.toNat_natCast]
  rw [if_neg (by omega)]

/-- While an entry is left over, the used entries are those of the positions
between the pointers. -/
theorem iwlTxqUsed_iff (hle : read ≤ write)
    (hwindow : write - read < size.nWindow) (i : ℕ) :
    iwlTxqUsed size i (read % size.maxTfdQueueSize)
        (write % size.maxTfdQueueSize) = true ↔
      ∃ position, read ≤ position ∧ position < write ∧
        position % size.nWindow = i % size.nWindow := by
  have hpos := size.nWindow_pos
  obtain ⟨k, hk, hslot⟩ :=
    SlotRing.exists_offset read (Nat.mod_lt i hpos)
  have hread := Nat.mod_lt read hpos
  have hindex := SlotRing.add_mod_of_lt read hk
  have hwrite := SlotRing.add_mod_of_lt read hwindow
  rw [Nat.add_sub_cancel' hle] at hwrite
  have hused :
      iwlTxqUsed size i (read % size.maxTfdQueueSize)
        (write % size.maxTfdQueueSize) = true ↔ k < write - read := by
    unfold iwlTxqUsed
    simp only [iwlTxqGetCmdIndex_ring]
    simp only [iwlTxqGetCmdIndex_eq, ← hslot, hindex, hwrite]
    split <;> split <;> split <;>
      simp only [Bool.and_eq_true, Bool.not_eq_true', Bool.and_eq_false_iff,
        decide_eq_true_eq, decide_eq_false_iff_not] <;> omega
  rw [hused]
  constructor
  · intro hlt
    exact ⟨read + k, by omega, by omega, hslot⟩
  · intro hposition
    obtain ⟨position, hfrom, hto, heq⟩ := hposition
    have hsame : read + k = position := by
      apply @SlotRing.position_unique size.nWindow read
      · omega
      · omega
      · exact hfrom
      · omega
      · rw [hslot, heq]
    omega

end IwlwifiStack
