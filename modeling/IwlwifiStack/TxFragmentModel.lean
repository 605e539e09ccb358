import Mathlib
import IwlwifiStack.WpaDecryptModel

/-!
# Fragmentation on transmission

`ieee80211_tx_h_fragment` with `ieee80211_fragment`.  A frame is its header and
the bytes behind it.  The fragmentation threshold counts the header and the
FCS; cfg80211 accepts no value below 256, so it always leaves room for a body.
-/

namespace IwlwifiStack

/-! ## Frames -/

/-- The flags of `struct ieee80211_tx_info` that fragmentation reads or changes,
and the indices of `control.rates`. -/
structure TxFragmentInfo where
  dontFrag : Bool
  ampdu : Bool
  clearPsFilt : Bool
  firstFragment : Bool
  moreFrames : Bool
  rateCtrlProbe : Bool
  rateIdx : Fin 4 → ℤ
  deriving DecidableEq

structure TxFragment where
  hdr : Ieee80211Hdr
  body : List UInt8
  info : TxFragmentInfo
  queueMapping : ℕ
  priority : ℕ
  dev : ℕ
  deriving DecidableEq

def TxFragment.len (skb : TxFragment) : ℕ :=
  skb.hdr.hdrlen + skb.body.length

/-- `IEEE80211_FCTL_MOREFRAGS` set or cleared. -/
def Ieee80211Hdr.withMorefrags (hdr : Ieee80211Hdr) (more : Bool) :
    Ieee80211Hdr :=
  { hdr with
    frameControl := hdr.frameControl - hdr.frameControl / 1024 % 2 * 1024 +
      if more then 1024 else 0 }

/-- `IEEE80211_FCTL_PROTECTED` set. -/
def Ieee80211Hdr.withProtected (hdr : Ieee80211Hdr) : Ieee80211Hdr :=
  { hdr with
    frameControl := hdr.frameControl - hdr.frameControl / 16384 % 2 * 16384 +
      16384 }

/-! ## Splitting -/

/-- A new skb with the control information and the header of `skb` and its own
part of the body. -/
def TxFragment.copied (skb : TxFragment) (part : List UInt8) (rem : ℕ) :
    TxFragment :=
  { skb with
    body := part
    info :=
      { skb.info with
        clearPsFilt := false
        firstFragment := false
        moreFrames := if rem ≠ 0 then true else skb.info.moreFrames } }

/-- The loop of `ieee80211_fragment`.  `allocates` answers `dev_alloc_skb`; the
first argument bounds the number of rounds. -/
def fragmentLoop (perFragm : ℕ) (skb : TxFragment) (allocates : ℕ → Bool) :
    ℕ → ℕ → List UInt8 → ℤ × List TxFragment
  | 0, _, _ => (0, [])
  | bound + 1, round, rest =>
      if rest.length = 0 then
        (0, [])
      else if !allocates round then
        (-12, [])
      else
        let fraglen := if perFragm > rest.length then rest.length else perFragm
        let later := fragmentLoop perFragm skb allocates bound (round + 1)
          (rest.drop fraglen)
        (later.1, skb.copied (rest.take fraglen) (rest.length - fraglen) ::
          later.2)

/-- The answer and `tx->skbs`. -/
def ieee80211Fragment (skb : TxFragment) (hdrlen fragThreshold : ℕ)
    (allocates : ℕ → Bool) : ℤ × List TxFragment :=
  let perFragm := fragThreshold - hdrlen - 4
  if skb.body.length < perFragm then
    (-22, [skb])
  else
    let rest := skb.body.drop perFragm
    let later := fragmentLoop perFragm skb allocates rest.length 0 rest
    if later.1 ≠ 0 then
      (later.1, skb :: later.2)
    else
      (0, { skb with body := skb.body.take perFragm } :: later.2)

/-! ## The handler -/

/-- The header and rates of a fragment once its place is known. -/
def TxFragment.numbered (skb : TxFragment) (fragnum : ℕ) (isLast : Bool) :
    TxFragment :=
  { skb with
    hdr :=
      { skb.hdr.withMorefrags (!isLast) with
        seqCtrl := skb.hdr.seqCtrl ||| fragnum % 16 }
    info :=
      if isLast then skb.info
      else
        { skb.info with
          rateIdx := fun i => if i.val = 0 then skb.info.rateIdx i else -1
          rateCtrlProbe := false } }

/-- The walk over `tx->skbs`. -/
def numberFragments : ℕ → List TxFragment → List TxFragment
  | _, [] => []
  | fragnum, skb :: rest =>
      skb.numbered fragnum rest.isEmpty :: numberFragments (fragnum + 1) rest

inductive TxResult
  | txContinue
  | txDrop
  deriving DecidableEq, Repr

/-- `frag_threshold` and `SUPPORTS_TX_FRAG`. -/
structure FragmentConfig where
  fragThreshold : ℕ
  supportsTxFrag : Bool
  deriving DecidableEq, Repr

def ieee80211TxHFragment (config : FragmentConfig) (skb : TxFragment)
    (allocates : ℕ → Bool) : TxResult × List TxFragment :=
  if skb.info.dontFrag then
    (.txContinue, [skb])
  else if config.supportsTxFrag then
    (.txContinue, [skb])
  else if skb.info.ampdu then
    (.txDrop, [skb])
  else if skb.len + 4 ≤ config.fragThreshold then
    (.txDrop, [skb])
  else
    let fragmented := ieee80211Fragment skb skb.hdr.hdrlen config.fragThreshold
      allocates
    if fragmented.1 ≠ 0 then
      (.txDrop, fragmented.2)
    else
      (.txContinue, numberFragments 0 fragmented.2)

/-! ## Headers -/

namespace Ieee80211Hdr

theorem withMorefrags_hasMorefrags (hdr : Ieee80211Hdr) (more : Bool) :
    (hdr.withMorefrags more).hasMorefrags = more := by
  simp only [withMorefrags, hasMorefrags]
  cases more
  · simp only [Bool.false_eq_true, if_false, decide_eq_false_iff_not]
    omega
  · simp only [if_true, decide_eq_true_eq]
    omega

theorem withMorefrags_bits (hdr : Ieee80211Hdr) (more : Bool) :
    (hdr.withMorefrags more).ftype = hdr.ftype ∧
      (hdr.withMorefrags more).stype = hdr.stype ∧
      (hdr.withMorefrags more).hasProtected = hdr.hasProtected := by
  simp only [withMorefrags, ftype, stype, hasProtected]
  refine ⟨?_, ?_, decide_eq_decide.mpr ?_⟩ <;> split_ifs <;> omega

theorem withProtected_bits (hdr : Ieee80211Hdr) :
    hdr.withProtected.ftype = hdr.ftype ∧ hdr.withProtected.stype = hdr.stype ∧
      hdr.withProtected.hasMorefrags = hdr.hasMorefrags := by
  simp only [withProtected, ftype, stype, hasMorefrags]
  refine ⟨?_, ?_, decide_eq_decide.mpr ?_⟩ <;> omega

end Ieee80211Hdr

theorem seqCtrl_or_fragnum {seqCtrl fragnum : ℕ} (hfrag : seqCtrl % 16 = 0)
    (hlt : fragnum < 16) : seqCtrl ||| fragnum % 16 = seqCtrl + fragnum := by
  have hmul : seqCtrl = 2 ^ 4 * (seqCtrl / 16) := by omega
  rw [Nat.mod_eq_of_lt hlt, hmul]
  exact (Nat.two_pow_add_eq_or_of_lt hlt _).symm

/-! ## What a frame is split into -/

/-- Copies of `skb` that carry the bytes `rest`, all but the last one as many
as fit. -/
structure SplitInto (perFragm : ℕ) (skb : TxFragment) (rest : List UInt8)
    (parts : List TxFragment) : Prop where
  hdr : ∀ part ∈ parts, part.hdr = skb.hdr
  fits : ∀ part ∈ parts, part.body.length ≤ perFragm
  joined : parts.flatMap TxFragment.body = rest
  count : parts.length * perFragm < rest.length + perFragm

theorem fragmentLoop_split {perFragm : ℕ} (hroom : 0 < perFragm)
    (skb : TxFragment) {allocates : ℕ → Bool}
    (hmemory : ∀ round, allocates round = true) (bound round : ℕ)
    (rest : List UInt8) (hbound : rest.length ≤ bound) :
    (fragmentLoop perFragm skb allocates bound round rest).1 = 0 ∧
      SplitInto perFragm skb rest
        (fragmentLoop perFragm skb allocates bound round rest).2 := by
  induction bound generalizing round rest with
  | zero =>
      have hempty : rest = [] := List.eq_nil_of_length_eq_zero (by omega)
      subst hempty
      exact ⟨rfl, by simp [fragmentLoop], by simp [fragmentLoop], rfl,
        by simpa [fragmentLoop] using hroom⟩
  | succ bound ih =>
      by_cases hempty : rest.length = 0
      · have hnil : rest = [] := List.eq_nil_of_length_eq_zero hempty
        subst hnil
        exact ⟨rfl, by simp [fragmentLoop], by simp [fragmentLoop], rfl,
          by simpa [fragmentLoop] using hroom⟩
      · obtain ⟨fraglen, hfraglen⟩ : ∃ fraglen, fraglen =
          if perFragm > rest.length then rest.length else perFragm := ⟨_, rfl⟩
        have hpos : 0 < fraglen := by
          split_ifs at hfraglen <;> omega
        have hle : fraglen ≤ perFragm ∧ fraglen ≤ rest.length := by
          split_ifs at hfraglen <;> omega
        have hlater := ih (round + 1) (rest.drop fraglen) (by
          rw [List.length_drop]
          omega)
        simp only [fragmentLoop, if_neg hempty, hmemory, Bool.not_true,
          Bool.false_eq_true, if_false, ← hfraglen]
        obtain ⟨hanswer, hsplit⟩ := hlater
        refine ⟨hanswer, ?_, ?_, ?_, ?_⟩
        · intro part hpart
          rcases List.mem_cons.mp hpart with rfl | hpart
          · rfl
          · exact hsplit.hdr part hpart
        · intro part hpart
          rcases List.mem_cons.mp hpart with rfl | hpart
          · simp only [TxFragment.copied, List.length_take]
            omega
          · exact hsplit.fits part hpart
        · rw [List.flatMap_cons, hsplit.joined]
          exact List.take_append_drop fraglen rest
        · have hcount := hsplit.count
          rw [List.length_drop] at hcount
          rw [List.length_cons, Nat.succ_mul]
          -- a round that takes less than fits is the last one
          by_cases hshort : perFragm > rest.length
          · rw [if_pos hshort] at hfraglen
            have hnone : (fragmentLoop perFragm skb allocates bound (round + 1)
                (rest.drop fraglen)).2.length * perFragm < 1 * perFragm := by
              omega
            have hzero := Nat.lt_of_mul_lt_mul_right hnone
            rw [Nat.lt_one_iff.mp hzero]
            omega
          · rw [if_neg hshort] at hfraglen
            omega

theorem numberFragments_getElem? (fragnum i : ℕ) (parts : List TxFragment) :
    (numberFragments fragnum parts)[i]? =
      parts[i]?.map fun part =>
        part.numbered (fragnum + i) (decide (i + 1 = parts.length)) := by
  induction parts generalizing fragnum i with
  | nil => simp [numberFragments]
  | cons skb rest ih =>
      cases i with
      | zero =>
          simp only [numberFragments, List.getElem?_cons_zero, Option.map_some,
            Nat.add_zero, List.length_cons]
          cases rest <;> simp
      | succ i =>
          simp only [numberFragments, List.getElem?_cons_succ, ih,
            List.length_cons, Nat.add_right_cancel_iff]
          rw [Nat.add_assoc, Nat.add_comm 1 i]

theorem numberFragments_length (fragnum : ℕ) (parts : List TxFragment) :
    (numberFragments fragnum parts).length = parts.length := by
  induction parts generalizing fragnum with
  | nil => rfl
  | cons skb rest ih => simp [numberFragments, ih]

theorem numberFragments_body (fragnum : ℕ) (parts : List TxFragment) :
    (numberFragments fragnum parts).flatMap TxFragment.body =
      parts.flatMap TxFragment.body := by
  induction parts generalizing fragnum with
  | nil => rfl
  | cons skb rest ih =>
      simp only [numberFragments, List.flatMap_cons, ih]
      rfl

/-! ## The fragments of a frame -/

/-- A frame that the handler is to split, into no more fragments than can be
numbered. -/
structure Fragmentable (config : FragmentConfig) (skb : TxFragment) :
    Prop where
  threshold : 256 ≤ config.fragThreshold
  software : config.supportsTxFrag = false
  marked : skb.info.dontFrag = false
  single : skb.info.ampdu = false
  hdrlen : skb.hdr.hdrlen ≤ 36
  long : config.fragThreshold < skb.len + 4
  count : skb.body.length ≤ 16 * (config.fragThreshold - skb.hdr.hdrlen - 4)
  unnumbered : skb.hdr.frag = 0

/-- The fragments of `skb`, as they should be. -/
structure Fragmented (threshold : ℕ) (skb : TxFragment)
    (fragments : List TxFragment) : Prop where
  several : 2 ≤ fragments.length
  numbered : fragments.length ≤ 16
  fits : ∀ fragment ∈ fragments, fragment.len + 4 ≤ threshold
  hdr : ∀ (i : ℕ) (fragment : TxFragment), fragments[i]? = some fragment →
    fragment.hdr =
      { skb.hdr.withMorefrags (decide (i + 1 < fragments.length)) with
        seqCtrl := skb.hdr.seqCtrl + i }
  seq : ∀ fragment ∈ fragments, fragment.hdr.seq = skb.hdr.seq
  frag : ∀ (i : ℕ) (fragment : TxFragment), fragments[i]? = some fragment →
    fragment.hdr.frag = i
  morefrags : ∀ (i : ℕ) (fragment : TxFragment), fragments[i]? = some fragment →
    fragment.hdr.hasMorefrags = decide (i + 1 < fragments.length)
  joined : fragments.flatMap TxFragment.body = skb.body

theorem fragmented_of_hdr {threshold : ℕ} {skb : TxFragment}
    {fragments : List TxFragment} (hseveral : 2 ≤ fragments.length)
    (hnumbered : fragments.length ≤ 16)
    (hfits : ∀ fragment ∈ fragments, fragment.len + 4 ≤ threshold)
    (hhdr : ∀ (i : ℕ) (fragment : TxFragment), fragments[i]? = some fragment →
      fragment.hdr =
        { skb.hdr.withMorefrags (decide (i + 1 < fragments.length)) with
          seqCtrl := skb.hdr.seqCtrl + i })
    (hjoined : fragments.flatMap TxFragment.body = skb.body)
    (hunnumbered : skb.hdr.frag = 0) :
    Fragmented threshold skb fragments := by
  have hlt : ∀ (i : ℕ) (fragment : TxFragment),
      fragments[i]? = some fragment → i < 16 := by
    intro i fragment hget
    have hlength := (List.getElem?_eq_some_iff.mp hget).1
    omega
  unfold Ieee80211Hdr.frag at hunnumbered
  refine ⟨hseveral, hnumbered, hfits, hhdr, ?_, ?_, ?_, hjoined⟩
  · intro fragment hfragment
    obtain ⟨i, hget⟩ := List.mem_iff_getElem?.mp hfragment
    have hi := hlt i fragment hget
    simp only [hhdr i fragment hget, Ieee80211Hdr.seq]
    omega
  · intro i fragment hget
    have hi := hlt i fragment hget
    simp only [hhdr i fragment hget, Ieee80211Hdr.frag]
    omega
  · intro i fragment hget
    rw [hhdr i fragment hget]
    exact skb.hdr.withMorefrags_hasMorefrags _

theorem ieee80211TxHFragment_fragmented {config : FragmentConfig}
    {skb : TxFragment} (hskb : Fragmentable config skb) {allocates : ℕ → Bool}
    (hmemory : ∀ round, allocates round = true) :
    ∃ fragments, ieee80211TxHFragment config skb allocates =
        (.txContinue, fragments) ∧
      Fragmented config.fragThreshold skb fragments := by
  obtain ⟨perFragm, hperFragm⟩ : ∃ perFragm, perFragm =
      config.fragThreshold - skb.hdr.hdrlen - 4 := ⟨_, rfl⟩
  have hthreshold := hskb.threshold
  have hhdrlen := hskb.hdrlen
  have hlong := hskb.long
  have hcount := hskb.count
  unfold TxFragment.len at hlong
  rw [← hperFragm] at hcount
  have hroom : 0 < perFragm := by omega
  have hsplit := fragmentLoop_split hroom skb hmemory
    (skb.body.drop perFragm).length 0 (skb.body.drop perFragm) le_rfl
  obtain ⟨parts, hparts⟩ : ∃ parts, parts = (fragmentLoop perFragm skb allocates
    (skb.body.drop perFragm).length 0 (skb.body.drop perFragm)).2 := ⟨_, rfl⟩
  rw [← hparts] at hsplit
  obtain ⟨hanswer, hsplit⟩ := hsplit
  obtain ⟨first, hfirst⟩ : ∃ first : TxFragment, first =
    { skb with body := skb.body.take perFragm } := ⟨_, rfl⟩
  have hfragments : ieee80211TxHFragment config skb allocates =
      (.txContinue, numberFragments 0 (first :: parts)) := by
    unfold ieee80211TxHFragment ieee80211Fragment TxFragment.len
    simp only [hskb.marked, hskb.software, hskb.single, Bool.false_eq_true,
      if_false, ← hperFragm, hanswer, ne_eq, not_true_eq_false, ← hparts]
    rw [if_neg (by omega), if_neg (by omega : ¬skb.body.length < perFragm),
      hfirst]
    simp
  have hrest : parts ≠ [] := by
    rintro rfl
    have hjoined := congrArg List.length hsplit.joined
    simp only [List.flatMap_nil, List.length_nil, List.length_drop] at hjoined
    omega
  have hlength : 0 < parts.length := List.length_pos_of_ne_nil hrest
  have hfew : parts.length < 16 := by
    have hbound := hsplit.count
    rw [List.length_drop] at hbound
    have hmul : parts.length * perFragm < 16 * perFragm := by omega
    exact Nat.lt_of_mul_lt_mul_right hmul
  have hcopies : ∀ part ∈ first :: parts,
      part.hdr = skb.hdr ∧ part.body.length ≤ perFragm := by
    intro part hpart
    rcases List.mem_cons.mp hpart with rfl | hpart
    · rw [hfirst]
      exact ⟨rfl, by simp only [List.length_take]; omega⟩
    · exact ⟨hsplit.hdr part hpart, hsplit.fits part hpart⟩
  have hfrag : skb.hdr.seqCtrl % 16 = 0 := hskb.unnumbered
  refine ⟨_, hfragments, fragmented_of_hdr ?_ ?_ ?_ ?_ ?_ hskb.unnumbered⟩
  · rw [numberFragments_length, List.length_cons]
    omega
  · rw [numberFragments_length, List.length_cons]
    omega
  · intro fragment hfragment
    obtain ⟨i, hget⟩ := List.mem_iff_getElem?.mp hfragment
    rw [numberFragments_getElem?, Option.map_eq_some_iff] at hget
    obtain ⟨part, hpart, rfl⟩ := hget
    obtain ⟨hhdr, hfits⟩ := hcopies part (List.mem_of_getElem? hpart)
    change part.hdr.hdrlen + part.body.length + 4 ≤ config.fragThreshold
    rw [hhdr]
    omega
  · intro i fragment hget
    rw [numberFragments_getElem?, Option.map_eq_some_iff] at hget
    obtain ⟨part, hpart, rfl⟩ := hget
    have hi : i < parts.length + 1 := (List.getElem?_eq_some_iff.mp hpart).1
    have hlast : (!decide (i + 1 = parts.length + 1)) =
        decide (i + 1 < parts.length + 1) := by
      rw [← decide_not, decide_eq_decide]
      omega
    simp only [TxFragment.numbered, (hcopies part
      (List.mem_of_getElem? hpart)).1, Nat.zero_add, numberFragments_length,
      List.length_cons, hlast]
    rw [seqCtrl_or_fragnum hfrag (by omega)]
  · rw [numberFragments_body, List.flatMap_cons, hsplit.joined, hfirst]
    exact List.take_append_drop perFragm skb.body

end IwlwifiStack
