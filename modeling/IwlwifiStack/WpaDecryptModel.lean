import IwlwifiStack.ByteOrder

/-!
# Decryption of received frames

The CCMP, GCMP and BIP receive handlers of `wpa.c` with their packet numbers
kept as bytes.  A frame is its header and the bytes after it.  The ciphers
themselves are not in this source: `aead` and `mic` stand for what they answer.
Whether a memory function of the network stack succeeds is part of the frame.
-/

namespace IwlwifiStack

/-- Six bytes, the most significant one first. -/
structure PacketNumber where
  bytes : List UInt8
  length_eq : bytes.length = 6
  deriving DecidableEq, Repr

namespace PacketNumber

def value (pn : PacketNumber) : ℕ :=
  ByteOrder.bigEndian pn.bytes

def memcmp (pn other : PacketNumber) : ℤ :=
  ByteOrder.memcmp pn.bytes other.bytes

/-- A counter of a new key. -/
def zero : PacketNumber :=
  ⟨[0, 0, 0, 0, 0, 0], rfl⟩

theorem memcmp_neg_iff (pn other : PacketNumber) :
    pn.memcmp other < 0 ↔ pn.value < other.value :=
  ByteOrder.memcmp_neg_iff (by rw [pn.length_eq, other.length_eq])

theorem value_inj {pn other : PacketNumber} :
    pn.value = other.value ↔ pn = other := by
  rw [value, value,
    ByteOrder.bigEndian_inj (by rw [pn.length_eq, other.length_eq]),
    PacketNumber.mk.injEq]

theorem memcmp_eq_zero_iff (pn other : PacketNumber) :
    pn.memcmp other = 0 ↔ pn = other := by
  rw [memcmp, ByteOrder.memcmp_eq_zero_iff (by
    rw [pn.length_eq, other.length_eq]), PacketNumber.mk.injEq]

theorem memcmp_nonpos_iff (pn other : PacketNumber) :
    pn.memcmp other ≤ 0 ↔ pn.value ≤ other.value := by
  have hneg := pn.memcmp_neg_iff other
  have hzero := (pn.memcmp_eq_zero_iff other).trans value_inj.symm
  omega

end PacketNumber

inductive DropReason
  | unspecified
  | oom
  | replay
  | micFail
  | shortCcmp
  | shortCcmpMic
  | shortGcmp
  | shortGcmpMic
  | shortCmac
  | shortCmac256
  | shortGmac
  | badMmie
  | badCipher
  | nonseqPn
  | badKeyColor
  | expectDefragProt
  deriving DecidableEq, Repr

/-- `ieee80211_rx_result`. -/
inductive RxResult
  | rxContinue
  | rxQueued
  | rxDrop (reason : DropReason)
  deriving DecidableEq, Repr

/-- The fields of `struct ieee80211_hdr` that are read, in host order.
`hdrlen` is what `ieee80211_hdrlen` answers, which is not in this source. -/
structure Ieee80211Hdr where
  frameControl : ℕ
  hdrlen : ℕ
  addr1 : List UInt8
  addr2 : List UInt8
  seqCtrl : ℕ
  qosCtl : ℕ
  deriving DecidableEq, Repr

namespace Ieee80211Hdr

def ftype (hdr : Ieee80211Hdr) : ℕ :=
  hdr.frameControl / 4 % 4

def stype (hdr : Ieee80211Hdr) : ℕ :=
  hdr.frameControl / 16 % 16

def isMgmt (hdr : Ieee80211Hdr) : Bool :=
  decide (hdr.ftype = 0)

def isCtl (hdr : Ieee80211Hdr) : Bool :=
  decide (hdr.ftype = 1)

def isData (hdr : Ieee80211Hdr) : Bool :=
  decide (hdr.ftype = 2)

def isExt (hdr : Ieee80211Hdr) : Bool :=
  decide (hdr.ftype = 3)

def isDataQos (hdr : Ieee80211Hdr) : Bool :=
  hdr.isData && decide (hdr.stype / 8 = 1)

def hasMorefrags (hdr : Ieee80211Hdr) : Bool :=
  decide (hdr.frameControl / 1024 % 2 = 1)

def hasProtected (hdr : Ieee80211Hdr) : Bool :=
  decide (hdr.frameControl / 16384 % 2 = 1)

def isMulticast (hdr : Ieee80211Hdr) : Bool :=
  decide ((hdr.addr1.getD 0 0).toNat % 2 = 1)

/-- `IEEE80211_SCTL_FRAG`. -/
def frag (hdr : Ieee80211Hdr) : ℕ :=
  hdr.seqCtrl % 16

/-- `IEEE80211_SCTL_SEQ`. -/
def seq (hdr : Ieee80211Hdr) : ℕ :=
  hdr.seqCtrl / 16 % 4096

def isFrag (hdr : Ieee80211Hdr) : Bool :=
  hdr.hasMorefrags || decide (hdr.frag ≠ 0)

/-- `ieee80211_parse_qos`; `IEEE80211_NUM_TIDS` is 16. -/
def seqnoIdx (hdr : Ieee80211Hdr) : ℕ :=
  if hdr.isDataQos then hdr.qosCtl % 16 else 16

def securityIdx (hdr : Ieee80211Hdr) : ℕ :=
  if hdr.isDataQos then hdr.qosCtl % 16
  else if hdr.isMgmt then 16
  else 0

end Ieee80211Hdr

/-- A received frame with the flags of its `ieee80211_rx_status`. -/
structure RxFrame where
  hdr : Ieee80211Hdr
  /-- The bytes behind the header. -/
  body : List UInt8
  /-- The octet behind the first 24 of the frame. -/
  category : UInt8
  decrypted : Bool
  ivStripped : Bool
  micStripped : Bool
  pnValidated : Bool
  allowSamePn : Bool
  /-- `pskb_may_pull`, as far as memory is concerned. -/
  pulls : Bool
  linearizes : Bool
  /-- `pskb_trim`. -/
  trims : Bool
  deriving DecidableEq, Repr

/-- `ieee80211_is_robust_mgmt_frame`: disassociation, deauthentication, and
action frames unless they are unprotected and of a public category. -/
def RxFrame.isRobustMgmt (frame : RxFrame) : Bool :=
  if frame.hdr.hdrlen + frame.body.length < 25 then
    false
  else if frame.hdr.isMgmt &&
      (decide (frame.hdr.stype = 10) || decide (frame.hdr.stype = 12)) then
    true
  else if frame.hdr.isMgmt && decide (frame.hdr.stype = 13) then
    frame.hdr.hasProtected ||
      !([4, 7, 11, 15, 20, 21, 22, 127] : List UInt8).contains frame.category
  else
    false

/-- The handlers work on data and robust management frames. -/
def RxFrame.isCovered (frame : RxFrame) : Bool :=
  frame.hdr.isData || frame.isRobustMgmt

/-! ## CCMP and GCMP -/

def ccmpHdr2pn (hdr : List UInt8) : PacketNumber :=
  ⟨[hdr.getD 7 0, hdr.getD 6 0, hdr.getD 5 0, hdr.getD 4 0, hdr.getD 1 0,
    hdr.getD 0 0], rfl⟩

theorem ccmpHdr2pn_value (hdr : List UInt8) :
    (ccmpHdr2pn hdr).value =
      (hdr.getD 0 0).toNat + 2 ^ 8 * (hdr.getD 1 0).toNat +
        2 ^ 16 * (hdr.getD 4 0).toNat + 2 ^ 24 * (hdr.getD 5 0).toNat +
        2 ^ 32 * (hdr.getD 6 0).toNat + 2 ^ 40 * (hdr.getD 7 0).toNat := by
  simp only [PacketNumber.value, ccmpHdr2pn, ByteOrder.bigEndian,
    List.length_cons, List.length_nil]
  ring

def ccmpPn2hdr (pn : PacketNumber) (keyId : ℕ) : List UInt8 :=
  [pn.bytes.getD 5 0, pn.bytes.getD 4 0, 0, UInt8.ofNat (0x20 + keyId * 64),
    pn.bytes.getD 3 0, pn.bytes.getD 2 0, pn.bytes.getD 1 0,
    pn.bytes.getD 0 0]

theorem ccmpHdr2pn_pn2hdr (pn : PacketNumber) (keyId : ℕ)
    (rest : List UInt8) :
    ccmpHdr2pn (ccmpPn2hdr pn keyId ++ rest) = pn := by
  obtain ⟨bytes, hlength⟩ := pn
  match bytes, hlength with
  | [b0, b1, b2, b3, b4, b5], _ => rfl

/-- `u.ccmp` and `u.gcmp` of `struct ieee80211_key`. -/
structure AeadKey where
  rxPn : ℕ → PacketNumber
  replays : ℕ

/-- What a handler leaves: its result, the key, the number written to
`rx->ccm_gcm.pn`, and the bytes behind the header. -/
structure AeadOutcome where
  result : RxResult
  key : AeadKey
  fragPn : Option PacketNumber
  body : List UInt8

/-- What `aead` stands for: the plain text, unless the MIC is wrong. -/
abbrev Aead :=
  PacketNumber → RxFrame → Option (List UInt8)

/-- The final `pskb_trim` and the removal of the CCMP or GCMP header. -/
def trimMic (shortMic : DropReason) (micLen : ℕ) (frame : RxFrame)
    (key : AeadKey) (fragPn : Option PacketNumber) (payload : List UInt8) :
    AeadOutcome :=
  if decide (micLen ≠ 0) && !frame.trims then
    ⟨.rxDrop shortMic, key, fragPn, frame.body⟩
  else
    ⟨.rxContinue, key, fragPn, payload⟩

/-- `ieee80211_crypto_ccmp_decrypt` and `ieee80211_crypto_gcmp_decrypt`, which
differ in the length of the MIC and in the reasons of their drops. -/
def ccmGcmDecrypt (short shortMic : DropReason) (micLen : ℕ) (aead : Aead)
    (hasSta : Bool) (key : AeadKey) (frame : RxFrame) : AeadOutcome :=
  let drop := fun reason => (⟨.rxDrop reason, key, none, frame.body⟩ : AeadOutcome)
  if !frame.isCovered then
    ⟨.rxContinue, key, none, frame.body⟩
  else if frame.decrypted && (decide (frame.body.length < 8) || !frame.pulls) then
    drop short
  else if !frame.decrypted && !frame.linearizes then
    drop .oom
  else
    let micLen := if frame.decrypted && frame.micStripped then 0 else micLen
    if !hasSta || decide (frame.body.length < 8 + micLen) then
      drop short
    else
      let payload := (frame.body.drop 8).take (frame.body.length - 8 - micLen)
      if frame.pnValidated then
        trimMic shortMic micLen frame key none payload
      else
        let pn := ccmpHdr2pn frame.body
        let queue := frame.hdr.securityIdx
        let res := pn.memcmp (key.rxPn queue)
        if decide (res < 0) || (decide (res = 0) && !frame.allowSamePn) then
          ⟨.rxDrop .replay,
            { key with replays := (key.replays + 1) % 2 ^ 32 }, none, frame.body⟩
        else
          -- hardware has decrypted the frame, or the cipher does it here
          match if frame.decrypted then some payload else aead pn frame with
          | none => drop .micFail
          | some payload =>
              trimMic shortMic micLen frame
                { key with rxPn := Function.update key.rxPn queue pn }
                (if frame.hdr.isFrag then some pn else none) payload

inductive AeadCipher
  | ccmp
  | ccmp256
  | gcmp
  | gcmp256
  deriving DecidableEq, Repr

/-- `IEEE80211_CCMP_MIC_LEN` is 8, `IEEE80211_CCMP_256_MIC_LEN` is 16. -/
def ieee80211CryptoCcmpDecrypt (micLen : ℕ) (aead : Aead) (hasSta : Bool)
    (key : AeadKey) (frame : RxFrame) : AeadOutcome :=
  ccmGcmDecrypt .shortCcmp .shortCcmpMic micLen aead hasSta key frame

def ieee80211CryptoGcmpDecrypt (aead : Aead) (hasSta : Bool) (key : AeadKey)
    (frame : RxFrame) : AeadOutcome :=
  ccmGcmDecrypt .shortGcmp .shortGcmpMic 16 aead hasSta key frame

/-- The cases of `ieee80211_rx_h_decrypt` for these ciphers. -/
def AeadCipher.decrypt (cipher : AeadCipher) (aead : Aead) (hasSta : Bool)
    (key : AeadKey) (frame : RxFrame) : AeadOutcome :=
  match cipher with
  | .ccmp => ieee80211CryptoCcmpDecrypt 8 aead hasSta key frame
  | .ccmp256 => ieee80211CryptoCcmpDecrypt 16 aead hasSta key frame
  | .gcmp | .gcmp256 => ieee80211CryptoGcmpDecrypt aead hasSta key frame

/-! ## BIP -/

/-- A frame at the BIP handlers: all the bytes behind the first 24, which
every management frame has. -/
structure BipFrame where
  isMgmt : Bool
  body : List UInt8
  decrypted : Bool
  /-- `kmalloc`. -/
  allocates : Bool
  deriving DecidableEq, Repr

def bipIpnSwap (s : List UInt8) : PacketNumber :=
  ⟨[s.getD 5 0, s.getD 4 0, s.getD 3 0, s.getD 2 0, s.getD 1 0, s.getD 0 0],
    rfl⟩

theorem bipIpnSwap_value (s : List UInt8) :
    (bipIpnSwap s).value =
      (s.getD 0 0).toNat + 2 ^ 8 * (s.getD 1 0).toNat +
        2 ^ 16 * (s.getD 2 0).toNat + 2 ^ 24 * (s.getD 3 0).toNat +
        2 ^ 32 * (s.getD 4 0).toNat + 2 ^ 40 * (s.getD 5 0).toNat := by
  simp only [PacketNumber.value, bipIpnSwap, ByteOrder.bigEndian,
    List.length_cons, List.length_nil]
  ring

/-- `u.aes_cmac` and `u.aes_gmac` of `struct ieee80211_key`. -/
structure BipKey where
  rxPn : PacketNumber
  replays : ℕ
  icverrors : ℕ

structure BipOutcome where
  result : RxResult
  key : BipKey
  body : List UInt8

/-- The last `mmieLen` bytes: element id, length, key id, sequence number,
MIC. -/
def BipFrame.mmie (frame : BipFrame) (mmieLen : ℕ) : List UInt8 :=
  frame.body.drop (frame.body.length - mmieLen)

def BipFrame.ipn (frame : BipFrame) (mmieLen : ℕ) : PacketNumber :=
  bipIpnSwap ((frame.mmie mmieLen).drop 4)

/-- The three BIP handlers: `mmieLen` is the size of the MMIE, and only the
GMAC one needs memory for the MIC. -/
def bipDecrypt (short : DropReason) (mmieLen : ℕ) (needsMemory : Bool)
    (mic : PacketNumber → BipFrame → Bool) (key : BipKey) (frame : BipFrame) :
    BipOutcome :=
  if !frame.isMgmt then
    ⟨.rxContinue, key, frame.body⟩
  else if frame.body.length < mmieLen then
    ⟨.rxDrop short, key, frame.body⟩
  else
    let mmie := frame.mmie mmieLen
    -- WLAN_EID_MMIE
    if mmie.getD 0 0 ≠ 76 || (mmie.getD 1 0).toNat ≠ mmieLen - 2 then
      ⟨.rxDrop .badMmie, key, frame.body⟩
    else
      let ipn := frame.ipn mmieLen
      if ipn.memcmp key.rxPn ≤ 0 then
        ⟨.rxDrop .replay,
          { key with replays := (key.replays + 1) % 2 ^ 32 }, frame.body⟩
      else if !frame.decrypted && needsMemory && !frame.allocates then
        ⟨.rxDrop .oom, key, frame.body⟩
      else if !frame.decrypted && !mic ipn frame then
        ⟨.rxDrop .micFail,
          { key with icverrors := (key.icverrors + 1) % 2 ^ 32 }, frame.body⟩
      else
        ⟨.rxContinue, { key with rxPn := ipn },
          frame.body.take (frame.body.length - mmieLen)⟩

def ieee80211CryptoAesCmacDecrypt :=
  bipDecrypt .shortCmac 18 false

def ieee80211CryptoAesCmac256Decrypt :=
  bipDecrypt .shortCmac256 26 false

def ieee80211CryptoAesGmacDecrypt :=
  bipDecrypt .shortGmac 26 true

inductive BipCipher
  | aesCmac
  | bipCmac256
  | bipGmac128
  | bipGmac256
  deriving DecidableEq, Repr

/-- The cases of `ieee80211_rx_h_decrypt` for these ciphers. -/
def BipCipher.decrypt (cipher : BipCipher)
    (mic : PacketNumber → BipFrame → Bool) (key : BipKey) (frame : BipFrame) :
    BipOutcome :=
  match cipher with
  | .aesCmac => ieee80211CryptoAesCmacDecrypt mic key frame
  | .bipCmac256 => ieee80211CryptoAesCmac256Decrypt mic key frame
  | .bipGmac128 | .bipGmac256 => ieee80211CryptoAesGmacDecrypt mic key frame

/-- The size of the MMIE of a cipher. -/
def BipCipher.mmieLen : BipCipher → ℕ
  | .aesCmac => 18
  | _ => 26

end IwlwifiStack
