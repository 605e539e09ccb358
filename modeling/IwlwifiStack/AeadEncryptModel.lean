import IwlwifiStack.WpaDecryptModel

/-!
# CCMP and GCMP on whole frames

The sender's side of `wpa.c` and the part that both sides compute from the
bytes of a frame: the additional authenticated data and the nonce.  The AEAD
algorithms of the crypto layer and `ieee80211_hdrlen` are not in this source;
they are parameters.
-/

namespace IwlwifiStack

/-! ## Bytes of an skb -/

def byteAt (skb : List UInt8) (i : ℕ) : UInt8 :=
  skb.getD i 0

def le16At (skb : List UInt8) (i : ℕ) : ℕ :=
  (byteAt skb i).toNat + 256 * (byteAt skb (i + 1)).toNat

def sliceAt (skb : List UInt8) (start len : ℕ) : List UInt8 :=
  (List.range len).map fun i => byteAt skb (start + i)

/-- `hdr->frame_control`. -/
def frameControl (skb : List UInt8) : BitVec 16 :=
  BitVec.ofNat 16 (le16At skb 0)

namespace FrameControl

def isMgmt (fc : BitVec 16) : Bool :=
  decide (fc &&& 0x000c = 0x0000)

def isData (fc : BitVec 16) : Bool :=
  decide (fc &&& 0x000c = 0x0008)

def isDataQos (fc : BitVec 16) : Bool :=
  decide (fc &&& 0x008c = 0x0088)

def hasA4 (fc : BitVec 16) : Bool :=
  decide (fc &&& 0x0300 = 0x0300)

def hasOrder (fc : BitVec 16) : Bool :=
  decide (fc &&& 0x8000 ≠ 0)

/-- Where `ieee80211_get_qos_ctl` points. -/
def qosOffset (fc : BitVec 16) : ℕ :=
  if hasA4 fc then 30 else 24

end FrameControl

/-! ## Additional authenticated data and nonce -/

open FrameControl in
/-- `mask_fc` of `ccmp_gcmp_aad`. -/
def maskFc (fc : BitVec 16) : BitVec 16 :=
  let unretried := fc &&& ~~~0x3800
  let subtype := if isMgmt fc then unretried else unretried &&& ~~~0x0070
  let protect := subtype ||| 0x4000
  if isDataQos fc then protect &&& ~~~0x8000 else protect

/-- The bits of the QoS control field that `ccmp_gcmp_aad` keeps. -/
def qosMask (sppAmsdu : Bool) : UInt8 :=
  if sppAmsdu then 0x8f else 0x0f

open FrameControl in
def qosTid (sppAmsdu : Bool) (skb : List UInt8) : UInt8 :=
  let fc := frameControl skb
  if isDataQos fc then byteAt skb (qosOffset fc) &&& qosMask sppAmsdu else 0

open FrameControl in
/-- The 32 bytes that `ccmp_gcmp_aad` writes. -/
def ccmpGcmpAad (sppAmsdu : Bool) (skb : List UInt8) : List UInt8 :=
  let fc := frameControl skb
  let lenA := 22 + (if hasA4 fc then 6 else 0) + (if isDataQos fc then 2 else 0)
  [UInt8.ofNat (lenA / 256), UInt8.ofNat lenA,
      UInt8.ofNat (maskFc fc).toNat, UInt8.ofNat ((maskFc fc).toNat / 256)] ++
    sliceAt skb 4 18 ++ [byteAt skb 22 &&& 0x0f, 0] ++
    (if hasA4 fc then sliceAt skb 24 6 ++ [qosTid sppAmsdu skb, 0]
      else qosTid sppAmsdu skb :: List.replicate 7 0)

/-- What the cipher gets of them: the first two bytes are the length. -/
def aadOf (aad : List UInt8) : List UInt8 :=
  (aad.drop 2).take ((byteAt aad 0).toNat * 256 + (byteAt aad 1).toNat)

open FrameControl in
/-- `b_0` of `ccmp_special_blocks`, as far as it is written. -/
def ccmpNonce (sppAmsdu : Bool) (skb : List UInt8) (pn : PacketNumber) :
    List UInt8 :=
  [0x1, qosTid sppAmsdu skb |||
      (if isMgmt (frameControl skb) then 0x10 else 0)] ++
    sliceAt skb 10 6 ++ pn.bytes

/-- `j_0` of `gcmp_special_blocks`. -/
def gcmpNonce (_sppAmsdu : Bool) (skb : List UInt8) (pn : PacketNumber) :
    List UInt8 :=
  sliceAt skb 10 6 ++ pn.bytes

/-! ## The AEAD algorithms -/

/-- A transform with its key set: nonce, additional data and text, the second
one with the MIC. -/
structure AeadPrimitive where
  encrypt : List UInt8 → List UInt8 → List UInt8 → List UInt8 × List UInt8
  decrypt : List UInt8 → List UInt8 → List UInt8 → List UInt8 →
    Option (List UInt8)

/-- `aead_encrypt`; it needs memory for the request. -/
def aeadEncrypt (prim : AeadPrimitive) (allocates : Bool)
    (nonce aad data : List UInt8) : Option (List UInt8 × List UInt8) :=
  if allocates then some (prim.encrypt nonce aad data) else none

/-- `aead_decrypt`. -/
def aeadDecrypt (prim : AeadPrimitive) (allocates : Bool)
    (nonce aad data mic : List UInt8) : Option (List UInt8) :=
  if data.length = 0 then none
  else if !allocates then none
  else prim.decrypt nonce aad data mic

/-! ## The sender -/

/-- The flags of a key that the hardware has. -/
structure HwKeyConf where
  generateIv : Bool
  putIvSpace : Bool
  generateIvMgmt : Bool
  deriving DecidableEq, Repr

structure TxKey where
  keyidx : ℕ
  txPn : ℕ
  sppAmsdu : Bool
  hwKey : Option HwKeyConf
  deriving DecidableEq, Repr

structure TxSkb where
  data : List UInt8
  headroom : ℕ
  tailroom : ℕ
  allocates : Bool
  deriving DecidableEq, Repr

/-- The low 48 bits of `pn64`, the most significant byte first. -/
def packetNumberOf (pn64 : ℕ) : PacketNumber :=
  ⟨[UInt8.ofNat (pn64 / 2 ^ 40), UInt8.ofNat (pn64 / 2 ^ 32),
    UInt8.ofNat (pn64 / 2 ^ 24), UInt8.ofNat (pn64 / 2 ^ 16),
    UInt8.ofNat (pn64 / 2 ^ 8), UInt8.ofNat pn64], rfl⟩

/-- The hardware does everything. -/
def TxKey.offloads (key : TxKey) (fc : BitVec 16) : Bool :=
  match key.hwKey with
  | some hw => !hw.generateIv && !hw.putIvSpace &&
      !(hw.generateIvMgmt && FrameControl.isMgmt fc)
  | none => false

def TxKey.putsIvSpace (key : TxKey) : Bool :=
  match key.hwKey with
  | some hw => hw.putIvSpace
  | none => false

/-- `ccmp_encrypt_skb` and `gcmp_encrypt_skb`, which differ in the nonce and in
the length of the MIC. -/
def ccmGcmEncryptSkb
    (nonce : Bool → List UInt8 → PacketNumber → List UInt8) (micLen : ℕ)
    (hdrlen : BitVec 16 → ℕ) (prim : AeadPrimitive) (key : TxKey)
    (skb : TxSkb) : ℤ × TxKey × TxSkb :=
  let fc := frameControl skb.data
  if key.offloads fc then (0, key, skb)
  else
    let tail := if key.hwKey.isSome then 0 else micLen
    if skb.tailroom < tail ∨ skb.headroom < 8 then (-1, key, skb)
    else
      let header := skb.data.take (hdrlen fc)
      let payload := skb.data.drop (hdrlen fc)
      let pushed := { skb with headroom := skb.headroom - 8 }
      if key.putsIvSpace then
        -- the room keeps the last eight bytes of the header as it was
        (0, key, { pushed with
          data := header ++ header.drop (header.length - 8) ++ payload })
      else
        let pn64 := (key.txPn + 1) % 2 ^ 64
        let counted := { key with txPn := pn64 }
        let pn := packetNumberOf pn64
        let framed := header ++ ccmpPn2hdr pn key.keyidx ++ payload
        if key.hwKey.isSome then (0, counted, { pushed with data := framed })
        else
          let put := { pushed with tailroom := skb.tailroom - micLen }
          match aeadEncrypt prim skb.allocates (nonce key.sppAmsdu framed pn)
              (aadOf (ccmpGcmpAad key.sppAmsdu framed)) payload with
          | none =>
              -- -ENOMEM, with the bytes of the MIC never written
              (-12, counted, { put with
                data := framed ++ List.replicate micLen 0 })
          | some (cipher, mic) =>
              (0, counted, { put with
                data := header ++ ccmpPn2hdr pn key.keyidx ++ cipher ++ mic })

def ccmpEncryptSkb (micLen : ℕ) :=
  ccmGcmEncryptSkb ccmpNonce micLen

def gcmpEncryptSkb :=
  ccmGcmEncryptSkb gcmpNonce 16

namespace AeadCipher

def micLen : AeadCipher → ℕ
  | .ccmp => 8
  | .ccmp256 | .gcmp | .gcmp256 => 16

def nonce : AeadCipher → Bool → List UInt8 → PacketNumber → List UInt8
  | .ccmp | .ccmp256 => ccmpNonce
  | .gcmp | .gcmp256 => gcmpNonce

/-- The cases of `ieee80211_tx_h_encrypt` for these ciphers. -/
def encryptSkb (cipher : AeadCipher) :=
  match cipher with
  | .ccmp => ccmpEncryptSkb 8
  | .ccmp256 => ccmpEncryptSkb 16
  | .gcmp | .gcmp256 => gcmpEncryptSkb

end AeadCipher

/-! ## The receiver -/

open FrameControl in
def parseHdr (hdrlen : BitVec 16 → ℕ) (skb : List UInt8) : Ieee80211Hdr where
  frameControl := le16At skb 0
  hdrlen := hdrlen (frameControl skb)
  addr1 := sliceAt skb 4 6
  addr2 := sliceAt skb 10 6
  seqCtrl := le16At skb 22
  qosCtl := le16At skb (qosOffset (frameControl skb))

/-- A frame that the hardware has left as it was. -/
def undecryptedFrame (hdrlen : BitVec 16 → ℕ) (skb : List UInt8)
    (allowSamePn : Bool) : RxFrame where
  hdr := parseHdr hdrlen skb
  body := skb.drop (hdrlen (frameControl skb))
  category := byteAt skb 24
  decrypted := false
  ivStripped := false
  micStripped := false
  pnValidated := false
  allowSamePn := allowSamePn
  pulls := true
  linearizes := true
  trims := true

/-- What `ieee80211_aes_ccm_decrypt` and `ieee80211_aes_gcm_decrypt` answer. -/
def softwareAead (nonce : Bool → List UInt8 → PacketNumber → List UInt8)
    (micLen : ℕ) (prim : AeadPrimitive) (sppAmsdu : Bool) (skb : List UInt8) :
    Aead :=
  fun pn frame =>
    aeadDecrypt prim true (nonce sppAmsdu skb pn)
      (aadOf (ccmpGcmpAad sppAmsdu skb))
      ((frame.body.drop 8).take (frame.body.length - 8 - micLen))
      (frame.body.drop (frame.body.length - micLen))

/-- A frame from a known station at the handler of its cipher. -/
def AeadCipher.receive (cipher : AeadCipher) (hdrlen : BitVec 16 → ℕ)
    (prim : AeadPrimitive) (sppAmsdu allowSamePn : Bool) (key : AeadKey)
    (skb : List UInt8) : AeadOutcome :=
  cipher.decrypt (softwareAead cipher.nonce cipher.micLen prim sppAmsdu skb)
    true key (undecryptedFrame hdrlen skb allowSamePn)

/-- `ieee80211_get_keyid`; -22 is `-EINVAL`. -/
def ieee80211GetKeyid (hdrlen : BitVec 16 → ℕ) (skb : List UInt8) : ℤ :=
  let n := hdrlen (frameControl skb)
  if skb.length < n + 4 then -22 else (byteAt skb (n + 3) >>> 6).toNat

end IwlwifiStack
