import IwlwifiStack.SequenceNumber
import IwlwifiStack.SlotRing

/-!
# The reorder buffers of the drivers

`iwl_mld_reorder` and `iwl_mvm_reorder` differ in how they find the block-ack
session of a frame; behind that they are the same code, embedded once here.
Every receive queue has its own buffer and its own slice of the entries.  The
firmware decides: its descriptor says whether a frame is old or a duplicate,
and up to which number (`nssn`) frames may be released.

A frame is a value of arbitrary type.  `u16` fields wrap where they are
written.
-/

namespace IwlwifiStack

/-- What the receive descriptor of an MPDU tells the reorder code.
`reorder_data` is a 32-bit word, `amsdu_info` a byte. -/
structure RxMpduDesc where
  reorderData : ℕ
  duplicate : Bool
  amsdu : Bool
  amsduInfo : ℕ
  deriving DecidableEq, Repr

namespace RxMpduDesc

/-- `IWL_RX_MPDU_REORDER_NSSN_MASK`. -/
def nssn (desc : RxMpduDesc) : ℕ :=
  desc.reorderData % 4096

/-- `IWL_RX_MPDU_REORDER_SN_MASK`. -/
def sn (desc : RxMpduDesc) : ℕ :=
  desc.reorderData / 4096 % 4096

/-- `IWL_RX_MPDU_REORDER_BAID_MASK`. -/
def baid (desc : RxMpduDesc) : ℕ :=
  desc.reorderData / 2 ^ 24 % 128

/-- `IWL_RX_MPDU_REORDER_BA_OLD_SN`. -/
def baOldSn (desc : RxMpduDesc) : Bool :=
  decide (desc.reorderData / 2 ^ 31 % 2 = 1)

/-- `IWL_RX_MPDU_AMSDU_LAST_SUBFRAME`. -/
def lastSubframe (desc : RxMpduDesc) : Bool :=
  decide (desc.amsduInfo / 128 % 2 = 1)

/-- `IWL_RX_MPDU_AMSDU_SUBFRAME_IDX_MASK`. -/
def subframeIdx (desc : RxMpduDesc) : ℕ :=
  desc.amsduInfo % 128

/-- The frame completes its MPDU. -/
def completes (desc : RxMpduDesc) : Bool :=
  !desc.amsdu || desc.lastSubframe

theorem sn_lt (desc : RxMpduDesc) : desc.sn < 4096 :=
  Nat.mod_lt _ (by norm_num)

end RxMpduDesc

/-- The reorder buffer of one receive queue with its slice of the entries. -/
structure DriverQueue (α : Type*) where
  headSn : ℕ
  numStored : ℕ
  valid : Bool
  entries : ℕ → List α

inductive ReorderResult
  | passSkb
  | bufferedSkb
  | dropSkb
  deriving DecidableEq, Repr

section Model

variable {α : Type*}

/-- The loops of `iwl_mld_reorder_release_frames`: empty the entries from
`ssn` up to `nssn`. -/
def releaseWalk (bufSize nssn : ℕ) :
    ℕ → ℕ → (ℕ → List α) → (ℕ → List α) × List α
  | 0, _, entries => (entries, [])
  | fuel + 1, ssn, entries =>
      if ieee80211SnLess ssn nssn then
        let index := ssn % bufSize
        let rest := releaseWalk bufSize nssn fuel (ieee80211SnInc ssn)
          (Function.update entries index [])
        (rest.1, entries index ++ rest.2)
      else
        (entries, [])

/-- The start is behind `nssn` by less than half the sequence space while the
loop runs, so 2048 rounds always suffice. -/
def reorderReleaseFrames (bufSize : ℕ) (buffer : DriverQueue α) (nssn : ℕ) :
    DriverQueue α × List α :=
  let walk := releaseWalk bufSize nssn 2048 buffer.headSn buffer.entries
  ({ buffer with
      entries := walk.1
      -- one decrement of the u16 for every frame
      numStored := (buffer.numStored + 65535 * walk.2.length) % 65536
      headSn := nssn },
    walk.2)

def storeSkb (bufSize : ℕ) (buffer : DriverQueue α) (sn : ℕ) (skb : α) :
    DriverQueue α :=
  let index := sn % bufSize
  { buffer with
    entries := Function.update buffer.entries index
      (buffer.entries index ++ [skb])
    numStored := (buffer.numStored + 1) % 65536 }

/-- The frame is put in the buffer; its number is trusted as far as the
comments of the source explain. -/
def bufferSkb (bufSize : ℕ) (buffer : DriverQueue α) (desc : RxMpduDesc)
    (skb : α) : DriverQueue α × List α :=
  let stored := storeSkb bufSize buffer desc.sn skb
  if desc.completes then
    reorderReleaseFrames bufSize stored desc.nssn
  else if stored.numStored = 1 then
    ({ stored with headSn := desc.nssn }, [])
  else
    (stored, [])

/-- The reorder functions from `buffer->valid` on. -/
def reorderInSession (bufSize : ℕ) (buffer : DriverQueue α)
    (desc : RxMpduDesc) (skb : α) :
    ReorderResult × DriverQueue α × List α :=
  if !buffer.valid && desc.baOldSn then
    (.passSkb, buffer, [])
  else
    let buffer := { buffer with valid := true }
    if desc.duplicate || desc.baOldSn then
      (.dropSkb, buffer, [])
    else if buffer.numStored = 0 && ieee80211SnLess desc.sn desc.nssn then
      (.passSkb,
        if desc.completes then { buffer with headSn := desc.nssn }
        else buffer,
        [])
    else if buffer.numStored = 0 && desc.sn = buffer.headSn then
      (.passSkb,
        if desc.completes then
          { buffer with headSn := ieee80211SnInc buffer.headSn }
        else buffer,
        [])
    else
      (.bufferedSkb, bufferSkb bufSize buffer desc skb)

/-- `iwl_mld_del_ba`: release everything from the head on. -/
def releaseAll (bufSize : ℕ) (buffer : DriverQueue α) :
    DriverQueue α × List α :=
  reorderReleaseFrames bufSize buffer (ieee80211SnAdd buffer.headSn bufSize)

end Model

/-! ## The walk -/

section Walk

variable {α : Type*}

/-- The `i`-th number the walk looks at. -/
def walkSn (ssn i : ℕ) : ℕ :=
  ieee80211SnInc^[i] ssn

theorem walkSn_mod (ssn i : ℕ) : walkSn ssn i % 4096 = (ssn + i) % 4096 := by
  induction i generalizing ssn with
  | zero => rfl
  | succ i ih =>
      rw [walkSn, Function.iterate_succ_apply, ← walkSn, ih, ieee80211SnInc,
        ieee80211SnAdd]
      omega

/-- The frames of the entries from `ssn` on, `n` entries long, each entry
read where the walk finds it. -/
def walkEntries (bufSize : ℕ) :
    ℕ → ℕ → (ℕ → List α) → (ℕ → List α) × List α
  | 0, _, entries => (entries, [])
  | n + 1, ssn, entries =>
      let rest := walkEntries bufSize n (ieee80211SnInc ssn)
        (Function.update entries (ssn % bufSize) [])
      (rest.1, entries (ssn % bufSize) ++ rest.2)

theorem releaseWalk_eq_walkEntries {bufSize nssn : ℕ} (n : ℕ) {fuel ssn : ℕ}
    (entries : ℕ → List α) (hfuel : n ≤ fuel) (hn : n < 2048)
    (htarget : (ssn + n) % 4096 = nssn % 4096) :
    releaseWalk bufSize nssn fuel ssn entries =
      walkEntries bufSize n ssn entries := by
  induction n generalizing fuel ssn entries with
  | zero =>
      have hless : ieee80211SnLess ssn nssn = false := by
        rw [snLess_eq_false_iff]
        unfold ieee80211SnSub
        omega
      cases fuel <;> simp [releaseWalk, walkEntries, hless]
  | succ n ih =>
      obtain ⟨fuel, rfl⟩ : ∃ m, fuel = m + 1 := ⟨fuel - 1, by omega⟩
      have hless : ieee80211SnLess ssn nssn = true := by
        simp only [ieee80211SnLess, decide_eq_true_eq]
        omega
      have hnext := @ih fuel (ieee80211SnInc ssn)
        (Function.update entries (ssn % bufSize) []) (by omega) (by omega)
        (by rw [ieee80211SnInc, ieee80211SnAdd]; omega)
      simp [releaseWalk, walkEntries, hless, hnext]

theorem releaseWalk_eq (bufSize ssn nssn : ℕ) (entries : ℕ → List α) :
    releaseWalk bufSize nssn 2048 ssn entries =
      walkEntries bufSize (moveDistance ssn nssn) ssn entries := by
  have hlt := moveDistance_lt ssn nssn
  by_cases hless : ieee80211SnLess ssn nssn = true
  · apply releaseWalk_eq_walkEntries _ _ hlt.le hlt
    rw [moveDistance, if_pos hless, add_snSub_mod]
  · simp [moveDistance, hless, releaseWalk, walkEntries]

theorem walkEntries_entries (bufSize n ssn : ℕ) (entries : ℕ → List α)
    (slot : ℕ) :
    ((walkEntries bufSize n ssn entries).1 slot = [] ∧
        ∃ i < n, walkSn ssn i % bufSize = slot) ∨
      ((walkEntries bufSize n ssn entries).1 slot = entries slot ∧
        ∀ i < n, walkSn ssn i % bufSize ≠ slot) := by
  induction n generalizing ssn entries with
  | zero => exact Or.inr ⟨rfl, fun i hi => absurd hi (Nat.not_lt_zero i)⟩
  | succ n ih =>
      rcases ih (ieee80211SnInc ssn)
        (Function.update entries (ssn % bufSize) []) with
        ⟨hempty, i, hi, hslot⟩ | ⟨hsame, hnone⟩
      · exact Or.inl ⟨hempty, i + 1, by omega, hslot⟩
      · by_cases hfirst : ssn % bufSize = slot
        · refine Or.inl ⟨?_, 0, by omega, hfirst⟩
          rw [walkEntries, hsame, hfirst, Function.update_self]
        · refine Or.inr ⟨?_, fun i hi => ?_⟩
          · rw [walkEntries, hsame, Function.update_of_ne (Ne.symm hfirst)]
          · cases i with
            | zero => exact hfirst
            | succ i => exact hnone i (by omega)

/-- The frames in the entries. -/
def storedIn (bufSize : ℕ) (entries : ℕ → List α) : Multiset α :=
  SlotRing.total bufSize Multiset.ofList entries

theorem walkEntries_conserves {bufSize : ℕ} (hpos : 0 < bufSize)
    (n ssn : ℕ) (entries : ℕ → List α) :
    storedIn bufSize (walkEntries bufSize n ssn entries).1 +
        ↑(walkEntries bufSize n ssn entries).2 =
      storedIn bufSize entries := by
  induction n generalizing ssn entries with
  | zero => simp [walkEntries]
  | succ n ih =>
      have hfirst := SlotRing.total_update Multiset.ofList entries []
        (Nat.mod_lt ssn hpos)
      have hrest := ih (ieee80211SnInc ssn)
        (Function.update entries (ssn % bufSize) [])
      unfold storedIn at hrest ⊢
      rw [Multiset.coe_nil, add_zero] at hfirst
      rw [← hfirst, ← hrest, walkEntries, ← Multiset.coe_add, add_assoc,
        add_comm (↑(entries (ssn % bufSize)) : Multiset α)]

theorem storedIn_store {bufSize : ℕ} (hpos : 0 < bufSize) (sn : ℕ)
    (entries : ℕ → List α) (skb : α) :
    storedIn bufSize (Function.update entries (sn % bufSize)
        (entries (sn % bufSize) ++ [skb])) =
      storedIn bufSize entries + {skb} := by
  have hupdate := SlotRing.total_update Multiset.ofList entries
    (entries (sn % bufSize) ++ [skb]) (Nat.mod_lt sn hpos)
  rw [← Multiset.coe_add, ← add_assoc, add_right_comm] at hupdate
  exact add_right_cancel hupdate

theorem storeSkb_entries_self (bufSize : ℕ) (buffer : DriverQueue α) (sn : ℕ)
    (skb : α) :
    (storeSkb bufSize buffer sn skb).entries (sn % bufSize) =
      buffer.entries (sn % bufSize) ++ [skb] := by
  simp [storeSkb]

theorem storeSkb_entries_of_ne {bufSize sn slot : ℕ} (buffer : DriverQueue α)
    (skb : α) (hne : slot ≠ sn % bufSize) :
    (storeSkb bufSize buffer sn skb).entries slot = buffer.entries slot := by
  simp [storeSkb, hne]

theorem storedIn_eq_zero_iff {bufSize : ℕ} {entries : ℕ → List α} :
    storedIn bufSize entries = 0 ↔ ∀ slot < bufSize, entries slot = [] := by
  simp [storedIn, SlotRing.total, Multiset.coe_eq_zero]

theorem walkEntries_full {bufSize n : ℕ} (hdvd : bufSize ∣ 4096)
    (hn : bufSize ≤ n) (ssn : ℕ) (entries : ℕ → List α) {slot : ℕ}
    (hslot : slot < bufSize) :
    (walkEntries bufSize n ssn entries).1 slot = [] := by
  rcases walkEntries_entries bufSize n ssn entries slot with
    ⟨hempty, _⟩ | ⟨_, hnone⟩
  · exact hempty
  · obtain ⟨i, hi, heq⟩ := SlotRing.exists_offset ssn hslot
    refine absurd ?_ (hnone i (by omega))
    rw [← Nat.mod_mod_of_dvd _ hdvd, walkSn_mod, Nat.mod_mod_of_dvd _ hdvd,
      heq]

end Walk

/-! ## The branches of the reorder functions -/

section Branches

variable {α : Type*}

def DriverQueue.validated (buffer : DriverQueue α) : DriverQueue α :=
  { buffer with valid := true }

/-- The frame is neither old nor a duplicate, and cannot be passed on at once:
something is stored, or it is neither covered by `nssn` nor at the head. -/
def JoinsBuffer (buffer : DriverQueue α) (desc : RxMpduDesc) : Prop :=
  desc.duplicate = false ∧ desc.baOldSn = false ∧
    ¬ (buffer.numStored = 0 ∧
      (ieee80211SnLess desc.sn desc.nssn = true ∨ desc.sn = buffer.headSn))

instance (buffer : DriverQueue α) (desc : RxMpduDesc) :
    Decidable (JoinsBuffer buffer desc) := by
  unfold JoinsBuffer
  infer_instance

inductive InSession (bufSize : ℕ) (buffer : DriverQueue α) (desc : RxMpduDesc)
    (skb : α) : ReorderResult × DriverQueue α × List α → Prop
  | early :
      buffer.valid = false → desc.baOldSn = true →
      InSession bufSize buffer desc skb (.passSkb, buffer, [])
  | dropped :
      desc.duplicate = true ∨ desc.baOldSn = true →
      InSession bufSize buffer desc skb (.dropSkb, buffer.validated, [])
  | ahead :
      desc.baOldSn = false → buffer.numStored = 0 →
      ieee80211SnLess desc.sn desc.nssn = true →
      InSession bufSize buffer desc skb
        (.passSkb,
          if desc.completes then
            { buffer.validated with headSn := desc.nssn }
          else buffer.validated,
          [])
  | inOrder :
      desc.baOldSn = false → buffer.numStored = 0 →
      desc.sn = buffer.headSn →
      InSession bufSize buffer desc skb
        (.passSkb,
          if desc.completes then
            { buffer.validated with
              headSn := ieee80211SnInc buffer.headSn }
          else buffer.validated,
          [])
  | joined :
      JoinsBuffer buffer desc →
      InSession bufSize buffer desc skb
        (.bufferedSkb, bufferSkb bufSize buffer.validated desc skb)

theorem reorderInSession_cases (bufSize : ℕ) (buffer : DriverQueue α)
    (desc : RxMpduDesc) (skb : α) :
    InSession bufSize buffer desc skb
      (reorderInSession bufSize buffer desc skb) := by
  unfold reorderInSession
  by_cases hearly : (!buffer.valid && desc.baOldSn) = true
  · rw [if_pos hearly]
    simp only [Bool.and_eq_true, Bool.not_eq_true'] at hearly
    exact .early hearly.1 hearly.2
  · rw [if_neg hearly]
    simp only
    by_cases hdrop : (desc.duplicate || desc.baOldSn) = true
    · rw [if_pos hdrop]
      exact .dropped (by simpa using hdrop)
    · rw [if_neg hdrop]
      simp only [Bool.or_eq_true, not_or, Bool.not_eq_true] at hdrop
      by_cases hahead : (decide (buffer.numStored = 0) &&
          ieee80211SnLess desc.sn desc.nssn) = true
      · rw [if_pos hahead]
        simp only [Bool.and_eq_true, decide_eq_true_eq] at hahead
        exact .ahead hdrop.2 hahead.1 hahead.2
      · rw [if_neg hahead]
        by_cases hnext : (decide (buffer.numStored = 0) &&
            decide (desc.sn = buffer.headSn)) = true
        · rw [if_pos hnext]
          simp only [Bool.and_eq_true, decide_eq_true_eq] at hnext
          exact .inOrder hdrop.2 hnext.1 hnext.2
        · rw [if_neg hnext]
          simp only [Bool.and_eq_true, decide_eq_true_eq] at hahead hnext
          refine .joined ⟨hdrop.1, hdrop.2, ?_⟩
          rintro ⟨hzero, hless | hhead⟩
          · exact hahead ⟨hzero, hless⟩
          · exact hnext ⟨hzero, hhead⟩

end Branches

end IwlwifiStack
