import IwlwifiStack.AeadEncryptModel
import Mathlib.Tactic

/-!
# What the additional data say about a header

Two frames have the same additional data and nonce exactly when they agree in
the bits that the mask of the frame control field keeps, in the addresses, the
fragment number and the kept bits of the QoS control field.
-/

namespace IwlwifiStack

open FrameControl

/-! ## Bits of the frame control field -/

/-- The bits that the receiver authenticates.  The order bit of a QoS data
frame is not in the additional data, but the length of the header depends on
it. -/
def authMask (fc : BitVec 16) : BitVec 16 :=
  if isMgmt fc then 0x87ff else 0x878f

theorem and_eq_and_iff {w : ℕ} {a b mask : BitVec w} :
    a &&& mask = b &&& mask ↔
      ∀ i, mask.getLsbD i = true → a.getLsbD i = b.getLsbD i := by
  constructor
  · intro heq i hi
    have hbit := congrArg (fun bits => bits.getLsbD i) heq
    simpa [hi] using hbit
  · intro hbits
    apply BitVec.eq_of_getLsbD_eq
    intro i _
    rw [BitVec.getLsbD_and, BitVec.getLsbD_and]
    cases hmask : mask.getLsbD i with
    | false => simp
    | true => rw [hbits i hmask]

theorem and_eq_iff {w : ℕ} {a mask value : BitVec w} :
    a &&& mask = value ↔
      ∀ i < w, (a.getLsbD i && mask.getLsbD i) = value.getLsbD i := by
  constructor
  · intro heq i _
    rw [← heq, BitVec.getLsbD_and]
  · intro hbits
    apply BitVec.eq_of_getLsbD_eq
    intro i hi
    rw [BitVec.getLsbD_and]
    exact hbits i hi

theorem isMgmt_eq (fc : BitVec 16) :
    isMgmt fc = (!fc.getLsbD 2 && !fc.getLsbD 3) := by
  rw [isMgmt, Bool.eq_iff_iff, decide_eq_true_eq, and_eq_iff]
  constructor
  · intro hbits
    have h2 := hbits 2 (by omega)
    have h3 := hbits 3 (by omega)
    simp_all
  · intro hbits i hi
    interval_cases i <;> simp_all

theorem isData_eq (fc : BitVec 16) :
    isData fc = (!fc.getLsbD 2 && fc.getLsbD 3) := by
  rw [isData, Bool.eq_iff_iff, decide_eq_true_eq, and_eq_iff]
  constructor
  · intro hbits
    have h2 := hbits 2 (by omega)
    have h3 := hbits 3 (by omega)
    simp_all
  · intro hbits i hi
    interval_cases i <;> simp_all

theorem isDataQos_eq (fc : BitVec 16) :
    isDataQos fc = (isData fc && fc.getLsbD 7) := by
  rw [isData_eq, isDataQos, Bool.eq_iff_iff, decide_eq_true_eq, and_eq_iff]
  constructor
  · intro hbits
    have h2 := hbits 2 (by omega)
    have h3 := hbits 3 (by omega)
    have h7 := hbits 7 (by omega)
    simp_all
  · intro hbits i hi
    interval_cases i <;> simp_all

theorem hasA4_eq (fc : BitVec 16) :
    hasA4 fc = (fc.getLsbD 8 && fc.getLsbD 9) := by
  rw [hasA4, Bool.eq_iff_iff, decide_eq_true_eq, and_eq_iff]
  constructor
  · intro hbits
    have h8 := hbits 8 (by omega)
    have h9 := hbits 9 (by omega)
    simp_all
  · intro hbits i hi
    interval_cases i <;> simp_all

theorem hasOrder_eq (fc : BitVec 16) : hasOrder fc = fc.getLsbD 15 := by
  have hzero : fc &&& 0x8000 = 0 ↔ fc.getLsbD 15 = false := by
    rw [and_eq_iff]
    constructor
    · intro hbits
      have h15 := hbits 15 (by omega)
      simpa using h15
    · intro hbit i hi
      interval_cases i <;> simp_all
  rw [hasOrder, Bool.eq_iff_iff, decide_eq_true_eq, ne_eq, hzero,
    Bool.not_eq_false]

def keptBit (fc : BitVec 16) (i : ℕ) : Bool :=
  !(decide (11 ≤ i) && decide (i ≤ 14)) &&
    (isMgmt fc || !(decide (4 ≤ i) && decide (i ≤ 6))) &&
    !(isDataQos fc && decide (i = 15))

theorem getLsbD_maskFc (fc : BitVec 16) {i : ℕ} (hi : i < 16) :
    (maskFc fc).getLsbD i =
      (decide (i = 14) || (fc.getLsbD i && keptBit fc i)) := by
  simp only [maskFc, keptBit]
  cases isMgmt fc <;> cases isDataQos fc <;> interval_cases i <;> simp

theorem getLsbD_authMask (fc : BitVec 16) {i : ℕ} (hi : i < 16) :
    (authMask fc).getLsbD i =
      (keptBit fc i || (isDataQos fc && decide (i = 15))) := by
  have hdisjoint : isMgmt fc = true → isDataQos fc = false := by
    rw [isMgmt_eq, isDataQos_eq, isData_eq]
    cases fc.getLsbD 2 <;> cases fc.getLsbD 3 <;> simp
  simp only [authMask, keptBit]
  cases hmgmt : isMgmt fc with
  | true =>
      rw [hdisjoint hmgmt]
      interval_cases i <;> simp
  | false => cases isDataQos fc <;> interval_cases i <;> simp

/-- Two frame control fields of one kind. -/
structure SameKind (fc fc' : BitVec 16) : Prop where
  mgmt : isMgmt fc' = isMgmt fc
  data : isData fc' = isData fc
  qos : isDataQos fc' = isDataQos fc
  a4 : hasA4 fc' = hasA4 fc

theorem SameKind.of_bits {fc fc' : BitVec 16}
    (hbits : ∀ i ∈ [2, 3, 7, 8, 9], fc'.getLsbD i = fc.getLsbD i) :
    SameKind fc fc' := by
  have h2 := hbits 2 (by simp)
  have h3 := hbits 3 (by simp)
  have h7 := hbits 7 (by simp)
  have h8 := hbits 8 (by simp)
  have h9 := hbits 9 (by simp)
  constructor
  · rw [isMgmt_eq, isMgmt_eq, h2, h3]
  · rw [isData_eq, isData_eq, h2, h3]
  · rw [isDataQos_eq, isDataQos_eq, isData_eq, isData_eq, h2, h3, h7]
  · rw [hasA4_eq, hasA4_eq, h8, h9]

theorem SameKind.keptBit {fc fc' : BitVec 16} (hkind : SameKind fc fc') (i : ℕ) :
    keptBit fc' i = IwlwifiStack.keptBit fc i := by
  rw [IwlwifiStack.keptBit, IwlwifiStack.keptBit, hkind.mgmt, hkind.qos]

theorem keptBit_of_mem (fc : BitVec 16) {i : ℕ} (hi : i ∈ [2, 3, 7, 8, 9]) :
    keptBit fc i = true := by
  simp only [List.mem_cons, List.not_mem_nil, or_false] at hi
  rcases hi with rfl | rfl | rfl | rfl | rfl <;> simp [keptBit]

theorem SameKind.of_maskFc {fc fc' : BitVec 16} (hmask : maskFc fc' = maskFc fc) :
    SameKind fc fc' := by
  apply SameKind.of_bits
  intro i hi
  have hlt : i < 16 := by
    simp only [List.mem_cons, List.not_mem_nil, or_false] at hi
    omega
  have hne : i ≠ 14 := by
    simp only [List.mem_cons, List.not_mem_nil, or_false] at hi
    omega
  have hbit := congrArg (fun bits => bits.getLsbD i) hmask
  simpa [getLsbD_maskFc _ hlt, keptBit_of_mem _ hi, hne] using hbit

theorem SameKind.of_auth {fc fc' : BitVec 16}
    (hauth : fc' &&& authMask fc = fc &&& authMask fc) : SameKind fc fc' := by
  apply SameKind.of_bits
  intro i hi
  have hlt : i < 16 := by
    simp only [List.mem_cons, List.not_mem_nil, or_false] at hi
    omega
  apply and_eq_and_iff.mp hauth
  rw [getLsbD_authMask fc hlt, keptBit_of_mem fc hi, Bool.true_or]

theorem auth_of_maskFc {fc fc' : BitVec 16} (hmask : maskFc fc' = maskFc fc)
    (horder : isDataQos fc = true → hasOrder fc' = hasOrder fc) :
    fc' &&& authMask fc = fc &&& authMask fc := by
  have hkind := SameKind.of_maskFc hmask
  rw [and_eq_and_iff]
  intro i hi
  have hlt := BitVec.lt_of_getLsbD hi
  rw [getLsbD_authMask fc hlt, Bool.or_eq_true] at hi
  cases hi with
  | inl hkept =>
      have hne : i ≠ 14 := by
        intro heq
        simp [heq, keptBit] at hkept
      have hbit := congrArg (fun bits => bits.getLsbD i) hmask
      simpa [getLsbD_maskFc _ hlt, hkind.keptBit, hkept, hne] using hbit
  | inr hlast =>
      rw [Bool.and_eq_true, decide_eq_true_eq] at hlast
      have hsame := horder hlast.1
      rw [hasOrder_eq, hasOrder_eq] at hsame
      rw [hlast.2]
      exact hsame

theorem maskFc_of_auth {fc fc' : BitVec 16}
    (hauth : fc' &&& authMask fc = fc &&& authMask fc) :
    maskFc fc' = maskFc fc := by
  have hkind := SameKind.of_auth hauth
  apply BitVec.eq_of_getLsbD_eq
  intro i hi
  rw [getLsbD_maskFc fc' hi, getLsbD_maskFc fc hi, hkind.keptBit]
  cases hkept : keptBit fc i with
  | false => simp
  | true =>
      have hbit := and_eq_and_iff.mp hauth i
        (by rw [getLsbD_authMask fc hi, hkept, Bool.true_or])
      rw [hbit]

theorem order_of_auth {fc fc' : BitVec 16}
    (hauth : fc' &&& authMask fc = fc &&& authMask fc) :
    hasOrder fc' = hasOrder fc := by
  rw [hasOrder_eq, hasOrder_eq]
  apply and_eq_and_iff.mp hauth
  unfold authMask
  split_ifs <;> simp

/-! ## The additional data -/

theorem sliceAt_length (skb : List UInt8) (start len : ℕ) :
    (sliceAt skb start len).length = len := by
  simp [sliceAt]

def fcBytes (fc : BitVec 16) : List UInt8 :=
  [UInt8.ofNat (maskFc fc).toNat, UInt8.ofNat ((maskFc fc).toNat / 256)]

theorem fcBytes_inj {fc fc' : BitVec 16} (heq : fcBytes fc' = fcBytes fc) :
    maskFc fc' = maskFc fc := by
  simp only [fcBytes, List.cons.injEq, and_true] at heq
  have hlow := congrArg UInt8.toNat heq.1
  have hhigh := congrArg UInt8.toNat heq.2
  simp only [UInt8.toNat_ofNat'] at hlow hhigh
  apply BitVec.eq_of_toNat_eq
  have hlt := (maskFc fc).isLt
  have hlt' := (maskFc fc').isLt
  omega

theorem aadOf_cons (high low : UInt8) (rest : List UInt8) :
    aadOf (high :: low :: rest) = rest.take (high.toNat * 256 + low.toNat) := rfl

theorem aadOf_eq (sppAmsdu : Bool) (skb : List UInt8) :
    aadOf (ccmpGcmpAad sppAmsdu skb) =
      (fcBytes (frameControl skb) ++ sliceAt skb 4 18 ++
          [byteAt skb 22 &&& 0x0f, 0]) ++
        ((if hasA4 (frameControl skb) then sliceAt skb 24 6 else []) ++
          if isDataQos (frameControl skb) then [qosTid sppAmsdu skb, 0]
          else []) := by
  simp only [ccmpGcmpAad, List.cons_append, List.nil_append, aadOf_cons]
  cases hasA4 (frameControl skb) <;> cases isDataQos (frameControl skb) <;>
    simp [fcBytes, sliceAt_length, List.take_append, List.take_of_length_le]

/-- What a receiver authenticates of the bytes of a frame. -/
structure SameAuthenticated (sppAmsdu : Bool) (skb skb' : List UInt8) : Prop where
  fc : frameControl skb' &&& authMask (frameControl skb) =
    frameControl skb &&& authMask (frameControl skb)
  addrs : sliceAt skb' 4 18 = sliceAt skb 4 18
  frag : byteAt skb' 22 &&& 0x0f = byteAt skb 22 &&& 0x0f
  addr4 : hasA4 (frameControl skb) = true → sliceAt skb' 24 6 = sliceAt skb 24 6
  qos : isDataQos (frameControl skb) = true →
    byteAt skb' (qosOffset (frameControl skb)) &&& qosMask sppAmsdu =
      byteAt skb (qosOffset (frameControl skb)) &&& qosMask sppAmsdu

variable {sppAmsdu : Bool} {skb skb' : List UInt8}

theorem qosTid_eq (hqos : isDataQos (frameControl skb) = true) :
    qosTid sppAmsdu skb =
      byteAt skb (qosOffset (frameControl skb)) &&& qosMask sppAmsdu := by
  simp [qosTid, hqos]

theorem SameAuthenticated.qosTid_eq (hsame : SameAuthenticated sppAmsdu skb skb') :
    qosTid sppAmsdu skb' = qosTid sppAmsdu skb := by
  have hkind := SameKind.of_auth hsame.fc
  simp only [qosTid, hkind.qos, qosOffset, hkind.a4]
  cases hqos : isDataQos (frameControl skb) with
  | false => rfl
  | true => exact hsame.qos hqos

theorem SameAuthenticated.aad_eq (hsame : SameAuthenticated sppAmsdu skb skb') :
    aadOf (ccmpGcmpAad sppAmsdu skb') = aadOf (ccmpGcmpAad sppAmsdu skb) := by
  have hkind := SameKind.of_auth hsame.fc
  rw [aadOf_eq, aadOf_eq, fcBytes, fcBytes, maskFc_of_auth hsame.fc, hsame.addrs,
    hsame.frag, hkind.a4, hkind.qos, hsame.qosTid_eq]
  cases ha4 : hasA4 (frameControl skb) with
  | false => rfl
  | true => rw [hsame.addr4 ha4]

theorem maskFc_of_aad
    (haad : aadOf (ccmpGcmpAad sppAmsdu skb') = aadOf (ccmpGcmpAad sppAmsdu skb)) :
    maskFc (frameControl skb') = maskFc (frameControl skb) := by
  rw [aadOf_eq, aadOf_eq, List.append_assoc, List.append_assoc,
    List.append_assoc, List.append_assoc] at haad
  exact fcBytes_inj (List.append_inj haad rfl).1

/-- The additional data determine what is authenticated, except for the order
bit of QoS data. -/
theorem sameAuthenticated_of_aad
    (haad : aadOf (ccmpGcmpAad sppAmsdu skb') = aadOf (ccmpGcmpAad sppAmsdu skb))
    (horder : isDataQos (frameControl skb) = true →
      hasOrder (frameControl skb') = hasOrder (frameControl skb)) :
    SameAuthenticated sppAmsdu skb skb' := by
  have hmask := maskFc_of_aad haad
  have hkind := SameKind.of_maskFc hmask
  rw [aadOf_eq, aadOf_eq] at haad
  obtain ⟨hfixed, hrest⟩ := List.append_inj haad (by
    simp [fcBytes, sliceAt_length])
  obtain ⟨hfront, hfrag⟩ := List.append_inj hfixed (by
    simp [fcBytes, sliceAt_length])
  have haddrs := (List.append_inj hfront rfl).2
  rw [hkind.a4, hkind.qos] at hrest
  obtain ⟨haddr4, hqos⟩ := List.append_inj hrest (by
    split_ifs <;> simp [sliceAt_length])
  constructor
  · exact auth_of_maskFc hmask horder
  · exact haddrs
  · simpa using hfrag
  · intro ha4
    simpa [ha4] using haddr4
  · intro hq
    have hq' : isDataQos (frameControl skb') = true := by rw [hkind.qos, hq]
    rw [hq] at hqos
    have htid : qosTid sppAmsdu skb' = qosTid sppAmsdu skb := by simpa using hqos
    rw [IwlwifiStack.qosTid_eq hq', IwlwifiStack.qosTid_eq hq] at htid
    simpa [qosOffset, hkind.a4] using htid

theorem sliceAt_eq_iff {start len : ℕ} :
    sliceAt skb' start len = sliceAt skb start len ↔
      ∀ i < len, byteAt skb' (start + i) = byteAt skb (start + i) := by
  simp [sliceAt]

theorem SameAuthenticated.nonce_eq (hsame : SameAuthenticated sppAmsdu skb skb')
    (cipher : AeadCipher) (pn : PacketNumber) :
    cipher.nonce sppAmsdu skb' pn = cipher.nonce sppAmsdu skb pn := by
  have haddr2 : sliceAt skb' 10 6 = sliceAt skb 10 6 := by
    have haddrs := sliceAt_eq_iff.mp hsame.addrs
    rw [sliceAt_eq_iff]
    intro i hi
    have hbyte := haddrs (6 + i) (by omega)
    have hindex : 4 + (6 + i) = 10 + i := by omega
    rw [hindex] at hbyte
    exact hbyte
  have hkind := SameKind.of_auth hsame.fc
  cases cipher with
  | ccmp | ccmp256 =>
      simp only [AeadCipher.nonce, ccmpNonce, hsame.qosTid_eq, hkind.mgmt, haddr2]
  | gcmp | gcmp256 => simp only [AeadCipher.nonce, gcmpNonce, haddr2]

theorem SameAuthenticated.of_prefix
    (hbegin : ∀ i < 32, byteAt skb' i = byteAt skb i) :
    SameAuthenticated sppAmsdu skb skb' := by
  have hfc : frameControl skb' = frameControl skb := by
    simp only [frameControl, le16At, hbegin 0 (by omega), hbegin 1 (by omega)]
  have hoffset : qosOffset (frameControl skb) < 32 := by
    unfold qosOffset
    split_ifs <;> omega
  constructor
  · rw [hfc]
  · rw [sliceAt_eq_iff]
    exact fun i hi => hbegin _ (by omega)
  · rw [hbegin 22 (by omega)]
  · intro _
    rw [sliceAt_eq_iff]
    exact fun i hi => hbegin _ (by omega)
  · intro _
    rw [hbegin _ hoffset]

/-! ## Bytes and fields -/

theorem byteAt_append {front rest : List UInt8} {i : ℕ} (hi : i < front.length) :
    byteAt (front ++ rest) i = byteAt front i := by
  simp [byteAt, List.getElem?_append_left hi]

theorem byteAt_append_right {front rest : List UInt8} (i : ℕ) :
    byteAt (front ++ rest) (front.length + i) = byteAt rest i := by
  simp [byteAt, List.getElem?_append_right]

theorem frameControl_append {front : List UInt8} (rest : List UInt8)
    (hlength : 2 ≤ front.length) :
    frameControl (front ++ rest) = frameControl front := by
  have h0 := @byteAt_append front rest 0 (by omega)
  have h1 := @byteAt_append front rest 1 (by omega)
  simp only [frameControl, le16At, h0, h1]

theorem getLsbD_frameControl {i : ℕ} (hi : i < 16) :
    (frameControl skb).getLsbD i = decide (le16At skb 0 / 2 ^ i % 2 = 1) := by
  rw [frameControl, BitVec.getLsbD_ofNat, Nat.testBit_eq_decide_div_mod_eq]
  simp [hi]

theorem parseHdr_isData (hdrlen : BitVec 16 → ℕ) :
    (parseHdr hdrlen skb).isData = isData (frameControl skb) := by
  have hftype : (parseHdr hdrlen skb).isData =
      decide (le16At skb 0 / 4 % 4 = 2) := rfl
  have hhalf : le16At skb 0 / 2 ^ 3 = le16At skb 0 / 4 / 2 := by
    rw [Nat.div_div_eq_div_mul]
    rfl
  rw [hftype, isData_eq, getLsbD_frameControl (by omega),
    getLsbD_frameControl (by omega), hhalf, Bool.eq_iff_iff]
  simp only [decide_eq_true_eq, Bool.and_eq_true, Bool.not_eq_true',
    decide_eq_false_iff_not, Nat.reducePow]
  generalize le16At skb 0 / 4 = ftype
  omega

end IwlwifiStack
