import IwlwifiStack.SerialArithmetic

/-!
# 802.11 sequence numbers

The `u16` helpers of `linux/ieee80211.h`.  The operands are promoted to `int`
before the subtraction, so a difference may be negative; masking it with
`IEEE80211_SN_MASK` (0x0fff) is the remainder modulo 4096.

`unwrapSn` is not part of the source: it places a sequence number on an
unbounded line, next to a head position whose residue is known.
-/

namespace IwlwifiStack

def ieee80211SnLess (sn1 sn2 : ℕ) : Bool :=
  decide (((sn1 : ℤ) - sn2) % 4096 > 2048)

def ieee80211SnAdd (sn1 sn2 : ℕ) : ℕ :=
  (sn1 + sn2) % 4096

def ieee80211SnInc (sn : ℕ) : ℕ :=
  ieee80211SnAdd sn 1

def ieee80211SnSub (sn1 sn2 : ℕ) : ℕ :=
  (((sn1 : ℤ) - sn2) % 4096).toNat

/-- `ieee80211_get_sn`: the upper twelve bits of the sequence control field. -/
def ieee80211GetSn (seqCtrl : ℕ) : ℕ :=
  seqCtrl / 16 % 4096

/-- The position of sequence number `sn` on the unbounded line, seen from a
head at `position` whose sequence number is `headSn`.  The direction is the
one `ieee80211SnLess` decides. -/
def unwrapSn (position headSn sn : ℕ) : ℕ :=
  if ieee80211SnLess sn headSn then
    position - ieee80211SnSub headSn sn
  else
    position + ieee80211SnSub sn headSn

theorem snLess_iff_behind (sn1 sn2 : ℕ) :
    ieee80211SnLess sn1 sn2 = true ↔
      SerialArithmetic.Behind 2048 sn1 sn2 := by
  simp [ieee80211SnLess, SerialArithmetic.Behind]

theorem snLess_iff_lt {p q sn1 sn2 : ℕ}
    (hp : p % 4096 = sn1 % 4096) (hq : q % 4096 = sn2 % 4096)
    (hahead : p ≤ q + 2048) (hbehind : q < p + 2048) :
    ieee80211SnLess sn1 sn2 = true ↔ p < q := by
  rw [snLess_iff_behind,
    @SerialArithmetic.behind_congr 2048 _ (p : ℤ) _ (q : ℤ) (by omega)
      (by omega),
    SerialArithmetic.behind_iff_lt (by omega) (by omega)]
  exact Nat.cast_lt

theorem snLess_eq_false_iff {sn1 sn2 : ℕ} :
    ieee80211SnLess sn1 sn2 = false ↔ ieee80211SnSub sn1 sn2 ≤ 2048 := by
  simp only [ieee80211SnLess, ieee80211SnSub, gt_iff_lt, decide_eq_false_iff_not,
    not_lt]
  omega

theorem snSub_lt (sn1 sn2 : ℕ) : ieee80211SnSub sn1 sn2 < 4096 := by
  unfold ieee80211SnSub
  omega

theorem snInc_lt (sn : ℕ) : ieee80211SnInc sn < 4096 :=
  Nat.mod_lt _ (by norm_num)

theorem snInc_mod (sn : ℕ) : ieee80211SnInc sn % 4096 = (sn + 1) % 4096 := by
  simp [ieee80211SnInc, ieee80211SnAdd]

theorem add_snSub_mod (sn head : ℕ) :
    (head + ieee80211SnSub sn head) % 4096 = sn % 4096 := by
  unfold ieee80211SnSub
  omega

theorem snSub_eq_of_offset {sn head offset : ℕ}
    (hsn : (head + offset) % 4096 = sn % 4096) (hoffset : offset < 4096) :
    ieee80211SnSub sn head = offset := by
  unfold ieee80211SnSub
  omega

theorem getSn_lt (seqCtrl : ℕ) : ieee80211GetSn seqCtrl < 4096 :=
  Nat.mod_lt _ (by norm_num)

theorem unwrapSn_mod {position headSn : ℕ} (sn : ℕ)
    (hposition : position % 4096 = headSn % 4096) (hlap : 4096 ≤ position) :
    unwrapSn position headSn sn % 4096 = sn % 4096 := by
  have hback := snSub_lt headSn sn
  unfold unwrapSn
  split
  · unfold ieee80211SnSub at hback ⊢
    omega
  · unfold ieee80211SnSub
    omega

theorem unwrapSn_of_not_less {position headSn sn : ℕ}
    (hless : ieee80211SnLess sn headSn = false) :
    unwrapSn position headSn sn = position + ieee80211SnSub sn headSn := by
  simp [unwrapSn, hless]

theorem unwrapSn_eq {position headSn sn target : ℕ}
    (hposition : position % 4096 = headSn % 4096)
    (htarget : target % 4096 = sn % 4096)
    (hle : position ≤ target) (hnear : target ≤ position + 2048) :
    unwrapSn position headSn sn = target := by
  have hless : ieee80211SnLess sn headSn = false := by
    have hiff := snLess_iff_lt htarget hposition hnear (by omega)
    rw [Bool.eq_false_iff]
    intro hbad
    have hlt := hiff.mp hbad
    omega
  rw [unwrapSn_of_not_less hless,
    @snSub_eq_of_offset _ _ (target - position) (by omega) (by omega)]
  omega

/-- How many numbers a loop that increments `head` while it is behind `target`
passes. -/
def moveDistance (head target : ℕ) : ℕ :=
  if ieee80211SnLess head target then ieee80211SnSub target head else 0

theorem moveDistance_lt (head target : ℕ) : moveDistance head target < 2048 := by
  unfold moveDistance ieee80211SnLess ieee80211SnSub
  split_ifs with hless
  · simp only [decide_eq_true_eq] at hless
    omega
  · omega

theorem moveDistance_of_offset {head target offset : ℕ}
    (htarget : (head + offset) % 4096 = target % 4096)
    (hoffset : offset ≤ 2048) :
    moveDistance head target = if offset = 2048 then 0 else offset := by
  have hsub : ieee80211SnSub target head = offset :=
    snSub_eq_of_offset htarget (by omega)
  have hless : ieee80211SnLess head target =
      decide (0 < offset ∧ offset < 2048) := by
    rw [ieee80211SnLess, decide_eq_decide]
    omega
  unfold moveDistance
  rw [hless, hsub]
  by_cases hhalf : offset = 2048
  · simp [hhalf]
  · by_cases hzero : offset = 0
    · simp [hzero]
    · simp [hhalf, show 0 < offset ∧ offset < 2048 by omega]

end IwlwifiStack
