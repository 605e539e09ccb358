import IwlwifiStack.AeadHeader

/-!
# What a change of the header does to decryption

Sender and receiver compute the additional data and the nonce from the header
each has.  The receiver recovers the payload exactly when its header agrees
with the sender's in what the additional data keep; the duration, the HT
control field and some further bits are not among that.
-/

namespace IwlwifiStack

open FrameControl

/-! ## The receiver -/

def Recovers (outcome : AeadOutcome) (payload : List UInt8) : Prop :=
  outcome.result = .rxContinue ∧ outcome.body = payload

theorem recovers_cases {short shortMic : DropReason} {micLen : ℕ} {aead : Aead}
    {key : AeadKey} {frame : RxFrame} {payload : List UInt8}
    (hdecrypted : frame.decrypted = false)
    (hvalidated : frame.pnValidated = false)
    (hrecovers : Recovers
      (ccmGcmDecrypt short shortMic micLen aead true key frame) payload) :
    (frame.isCovered = false ∧ frame.body = payload) ∨
      (frame.isCovered = true ∧ 8 + micLen ≤ frame.body.length ∧
        aead (ccmpHdr2pn frame.body) frame = some payload) := by
  obtain ⟨hresult, hbody⟩ := hrecovers
  unfold ccmGcmDecrypt at hresult hbody
  simp only [hdecrypted, hvalidated, Bool.false_and, Bool.not_false,
    Bool.true_and, Bool.not_true, Bool.false_or, Bool.false_eq_true,
    if_false] at hresult hbody
  cases hcovered : frame.isCovered with
  | false =>
      simp only [hcovered, Bool.not_false, if_true] at hbody
      exact Or.inl ⟨rfl, hbody⟩
  | true =>
      right
      simp only [hcovered, Bool.not_true, Bool.false_eq_true, if_false]
        at hresult hbody
      by_cases hlinear : (!frame.linearizes) = true
      · rw [if_pos hlinear] at hresult
        cases hresult
      rw [if_neg hlinear] at hresult hbody
      by_cases hshort : frame.body.length < 8 + micLen
      · rw [if_pos (by simpa using hshort)] at hresult
        cases hresult
      rw [if_neg (by simpa using hshort)] at hresult hbody
      refine ⟨rfl, by omega, ?_⟩
      by_cases hreplay : (decide ((ccmpHdr2pn frame.body).memcmp
          (key.rxPn frame.hdr.securityIdx) < 0) ||
        (decide ((ccmpHdr2pn frame.body).memcmp
          (key.rxPn frame.hdr.securityIdx) = 0) && !frame.allowSamePn)) = true
      · rw [if_pos hreplay] at hresult
        cases hresult
      rw [if_neg hreplay] at hresult hbody
      cases hplain : aead (ccmpHdr2pn frame.body) frame with
      | none =>
          rw [hplain] at hresult
          cases hresult
      | some plain =>
          simp only [hplain, trimMic] at hresult hbody
          by_cases htrim : (decide (micLen ≠ 0) && !frame.trims) = true
          · rw [if_pos htrim] at hresult
            cases hresult
          · rw [if_neg htrim] at hbody
            exact congrArg some hbody

theorem recovers_of {short shortMic : DropReason} {micLen : ℕ} {aead : Aead}
    {key : AeadKey} {frame : RxFrame} {payload : List UInt8}
    (hdecrypted : frame.decrypted = false)
    (hvalidated : frame.pnValidated = false)
    (hlinearizes : frame.linearizes = true) (htrims : frame.trims = true)
    (hcovered : frame.isCovered = true)
    (hlength : 8 + micLen ≤ frame.body.length)
    (hfresh : 0 < (ccmpHdr2pn frame.body).memcmp
      (key.rxPn frame.hdr.securityIdx))
    (haead : aead (ccmpHdr2pn frame.body) frame = some payload) :
    Recovers (ccmGcmDecrypt short shortMic micLen aead true key frame)
      payload := by
  have hnotShort : ¬ frame.body.length < 8 + micLen := by omega
  have hnotReplay : ¬ ((ccmpHdr2pn frame.body).memcmp
      (key.rxPn frame.hdr.securityIdx) < 0) := by omega
  have hnotSame : ¬ ((ccmpHdr2pn frame.body).memcmp
      (key.rxPn frame.hdr.securityIdx) = 0) := by omega
  simp [Recovers, ccmGcmDecrypt, trimMic, hdecrypted, hvalidated, hlinearizes,
    htrims, hcovered, hnotShort, hnotReplay, hnotSame, haead]

theorem AeadCipher.receive_eq (cipher : AeadCipher) (hdrlen : BitVec 16 → ℕ)
    (prim : AeadPrimitive) (sppAmsdu allowSamePn : Bool) (key : AeadKey)
    (skb : List UInt8) :
    ∃ short shortMic, cipher.receive hdrlen prim sppAmsdu allowSamePn key skb =
      ccmGcmDecrypt short shortMic cipher.micLen
        (softwareAead cipher.nonce cipher.micLen prim sppAmsdu skb) true key
        (undecryptedFrame hdrlen skb allowSamePn) := by
  cases cipher with
  | ccmp => exact ⟨.shortCcmp, .shortCcmpMic, rfl⟩
  | ccmp256 => exact ⟨.shortCcmp, .shortCcmpMic, rfl⟩
  | gcmp => exact ⟨.shortGcmp, .shortGcmpMic, rfl⟩
  | gcmp256 => exact ⟨.shortGcmp, .shortGcmpMic, rfl⟩

/-! ## What the sender has sent -/

/-- The behaviour of `ieee80211_hdrlen` that is relied on. -/
structure HdrlenSpec (hdrlen : BitVec 16 → ℕ) : Prop where
  data : ∀ fc, isData fc = true → hdrlen fc = (if hasA4 fc then 30 else 24) +
    if isDataQos fc then 2 + (if hasOrder fc then 4 else 0) else 0
  mgmt : ∀ fc, isMgmt fc = true → hdrlen fc = 24 + if hasOrder fc then 4 else 0
  le : ∀ fc, hdrlen fc ≤ 36

/-- The algorithm at one nonce, additional data and plain text: it keeps
lengths, decrypts what it has encrypted, and fails with any other nonce or
additional data. -/
structure AeadSound (prim : AeadPrimitive) (micLen : ℕ)
    (nonce aad payload : List UInt8) : Prop where
  cipher_length : (prim.encrypt nonce aad payload).1.length = payload.length
  mic_length : (prim.encrypt nonce aad payload).2.length = micLen
  roundTrip : prim.decrypt nonce aad (prim.encrypt nonce aad payload).1
    (prim.encrypt nonce aad payload).2 = some payload
  binds : ∀ nonce' aad', (nonce', aad') ≠ (nonce, aad) →
    prim.decrypt nonce' aad' (prim.encrypt nonce aad payload).1
      (prim.encrypt nonce aad payload).2 = none
  plain_length : ∀ nonce' aad' data mic plain,
    prim.decrypt nonce' aad' data mic = some plain → plain.length = data.length

/-- A key in software and a frame with room. -/
structure SoftwareTx (micLen : ℕ) (key : TxKey) (skb : TxSkb) : Prop where
  software : key.hwKey = none
  keyidx : key.keyidx < 4
  tailroom : micLen ≤ skb.tailroom
  headroom : 8 ≤ skb.headroom
  memory : skb.allocates = true

/-- A data or management header. -/
structure HeaderShape (hdrlen : BitVec 16 → ℕ) (header : List UInt8) : Prop where
  length : header.length = hdrlen (frameControl header)
  kind : isData (frameControl header) = true ∨ isMgmt (frameControl header) = true

theorem HeaderShape.length_ge {hdrlen : BitVec 16 → ℕ} (hdoc : HdrlenSpec hdrlen)
    {header : List UInt8} (hshape : HeaderShape hdrlen header) :
    24 ≤ header.length := by
  rw [hshape.length]
  cases hshape.kind with
  | inl hdata =>
      rw [hdoc.data _ hdata]
      split_ifs <;> omega
  | inr hmgmt =>
      rw [hdoc.mgmt _ hmgmt]
      omega

namespace AeadCipher

variable (cipher : AeadCipher) (prim : AeadPrimitive) (key : TxKey)
  (header payload : List UInt8)

def sentPn (key : TxKey) : PacketNumber :=
  packetNumberOf ((key.txPn + 1) % 2 ^ 64)

def framed : List UInt8 :=
  header ++ ccmpPn2hdr (sentPn key) key.keyidx ++ payload

def sentNonce : List UInt8 :=
  cipher.nonce key.sppAmsdu (framed key header payload) (sentPn key)

def sentAad : List UInt8 :=
  aadOf (ccmpGcmpAad key.sppAmsdu (framed key header payload))

def sentTail : List UInt8 :=
  ccmpPn2hdr (sentPn key) key.keyidx ++
    (prim.encrypt (cipher.sentNonce key header payload)
      (sentAad key header payload) payload).1 ++
    (prim.encrypt (cipher.sentNonce key header payload)
      (sentAad key header payload) payload).2

variable {cipher prim key header payload}

theorem encryptSkb_eq (cipher : AeadCipher) :
    cipher.encryptSkb = ccmGcmEncryptSkb cipher.nonce cipher.micLen := by
  cases cipher <;> rfl

theorem encryptSkb_sent {hdrlen : BitVec 16 → ℕ} {skb : TxSkb}
    (hsend : SoftwareTx cipher.micLen key skb)
    (hshape : HeaderShape hdrlen header) (hlong : 2 ≤ header.length)
    (hskb : skb.data = header ++ payload) :
    (cipher.encryptSkb hdrlen prim key skb).1 = 0 ∧
      (cipher.encryptSkb hdrlen prim key skb).2.2.data =
        header ++ cipher.sentTail prim key header payload := by
  have hfc := frameControl_append payload hlong
  have htail := hsend.tailroom
  have hhead := hsend.headroom
  rw [encryptSkb_eq, ccmGcmEncryptSkb]
  simp only [TxKey.offloads, TxKey.putsIvSpace, hsend.software, hskb, hfc,
    ← hshape.length, List.take_left, List.drop_left, hsend.memory, aeadEncrypt,
    Option.isSome_none, Bool.false_eq_true, if_false, if_true]
  rw [if_neg (by omega)]
  exact ⟨rfl, by simp [sentTail, sentNonce, sentAad, framed, sentPn]⟩

theorem pn2hdr_length (pn : PacketNumber) (keyId : ℕ) :
    (ccmpPn2hdr pn keyId).length = 8 := rfl

theorem sentTail_length
    (hsound : AeadSound prim cipher.micLen (cipher.sentNonce key header payload)
      (sentAad key header payload) payload) :
    (cipher.sentTail prim key header payload).length =
      8 + payload.length + cipher.micLen := by
  simp only [sentTail, List.length_append, pn2hdr_length, hsound.cipher_length,
    hsound.mic_length]

theorem framed_sameAuthenticated (hlong : 24 ≤ header.length) :
    SameAuthenticated key.sppAmsdu (framed key header payload)
      (header ++ cipher.sentTail prim key header payload) := by
  apply SameAuthenticated.of_prefix
  intro i hi
  have hin : i < (header ++ ccmpPn2hdr (sentPn key) key.keyidx).length := by
    rw [List.length_append, pn2hdr_length]
    omega
  simp only [framed, sentTail, ← List.append_assoc]
  rw [List.append_assoc (header ++ _), byteAt_append hin, byteAt_append hin]

/-! ## The number and the key id -/

theorem packetNumberOf_value (pn64 : ℕ) :
    (packetNumberOf pn64).value = pn64 % 2 ^ 48 := by
  simp only [PacketNumber.value, packetNumberOf, ByteOrder.bigEndian,
    List.length_cons, List.length_nil, UInt8.toNat_ofNat']
  omega

theorem keyid_of_pn2hdr {keyidx : ℕ} (hlt : keyidx < 4) :
    (UInt8.ofNat (0x20 + keyidx * 64) >>> 6).toNat = keyidx := by
  interval_cases keyidx <;> rfl

theorem sentTail_parts
    (hsound : AeadSound prim cipher.micLen (cipher.sentNonce key header payload)
      (sentAad key header payload) payload) :
    ((cipher.sentTail prim key header payload).drop 8).take
        ((cipher.sentTail prim key header payload).length - 8 - cipher.micLen) =
        (prim.encrypt (cipher.sentNonce key header payload)
          (sentAad key header payload) payload).1 ∧
      (cipher.sentTail prim key header payload).drop
          ((cipher.sentTail prim key header payload).length - cipher.micLen) =
        (prim.encrypt (cipher.sentNonce key header payload)
          (sentAad key header payload) payload).2 := by
  have hcipher := hsound.cipher_length
  rw [sentTail_length hsound]
  simp only [sentTail]
  generalize prim.encrypt (cipher.sentNonce key header payload)
    (sentAad key header payload) payload = encrypted at hcipher
  constructor
  · have htake : 8 + payload.length + cipher.micLen - 8 - cipher.micLen =
        encrypted.1.length := by omega
    rw [htake, List.append_assoc, List.drop_left' (pn2hdr_length _ _),
      List.take_left]
  · have hdrop : 8 + payload.length + cipher.micLen - cipher.micLen =
        (ccmpPn2hdr (sentPn key) key.keyidx ++ encrypted.1).length := by
      rw [List.length_append, pn2hdr_length]
      omega
    rw [hdrop, List.drop_left]

theorem ccmpHdr2pn_sentTail :
    ccmpHdr2pn (cipher.sentTail prim key header payload) = sentPn key := by
  rw [sentTail, List.append_assoc]
  exact ccmpHdr2pn_pn2hdr (sentPn key) key.keyidx _

/-! ## The header after the change -/

variable {hdrlen : BitVec 16 → ℕ} {header' : List UInt8}

theorem micLen_ge (cipher : AeadCipher) : 8 ≤ cipher.micLen := by
  cases cipher <;> decide

theorem hdrlen_of_recovers (hdoc : HdrlenSpec hdrlen)
    (hlong : 24 ≤ header'.length) {allowSamePn : Bool} {rxKey : AeadKey}
    (hsound : AeadSound prim cipher.micLen (cipher.sentNonce key header payload)
      (sentAad key header payload) payload)
    (hrecovers : Recovers (cipher.receive hdrlen prim key.sppAmsdu allowSamePn
      rxKey (header' ++ cipher.sentTail prim key header payload)) payload) :
    hdrlen (frameControl header') = header'.length ∧ payload ≠ [] ∧
      (undecryptedFrame hdrlen (header' ++ cipher.sentTail prim key header
        payload) allowSamePn).isCovered = true ∧
      softwareAead cipher.nonce cipher.micLen prim key.sppAmsdu
        (header' ++ cipher.sentTail prim key header payload) (sentPn key)
        (undecryptedFrame hdrlen (header' ++ cipher.sentTail prim key header
          payload) allowSamePn) = some payload := by
  have htail := sentTail_length hsound
  have hmic := cipher.micLen_ge
  have hle := hdoc.le (frameControl header')
  have hfc := frameControl_append (cipher.sentTail prim key header payload)
    (show 2 ≤ header'.length by omega)
  have hbody : (undecryptedFrame hdrlen (header' ++ cipher.sentTail prim key
      header payload) allowSamePn).body.length =
      header'.length + (8 + payload.length + cipher.micLen) -
        hdrlen (frameControl header') := by
    simp only [undecryptedFrame, List.length_drop, List.length_append, hfc, htail]
  obtain ⟨short, shortMic, hreceive⟩ := cipher.receive_eq hdrlen prim
    key.sppAmsdu allowSamePn rxKey
    (header' ++ cipher.sentTail prim key header payload)
  rw [hreceive] at hrecovers
  cases recovers_cases rfl rfl hrecovers with
  | inl huncovered =>
      have hlength := congrArg List.length huncovered.2
      rw [hbody] at hlength
      omega
  | inr hcovered =>
      obtain ⟨hcovers, hroom, haead⟩ := hcovered
      have hplain : (((undecryptedFrame hdrlen (header' ++ cipher.sentTail prim
          key header payload) allowSamePn).body.drop 8).take
            ((undecryptedFrame hdrlen (header' ++ cipher.sentTail prim key header
              payload) allowSamePn).body.length - 8 - cipher.micLen)).length =
          header'.length + payload.length - hdrlen (frameControl header') := by
        rw [List.length_take, List.length_drop, hbody]
        omega
      have hsame := haead
      simp only [softwareAead, aeadDecrypt, hplain, Bool.not_true,
        Bool.false_eq_true, if_false] at hsame
      split_ifs at hsame with hempty
      have hlengths := hsound.plain_length _ _ _ _ _ hsame
      rw [hplain] at hlengths
      have hhdrlen : hdrlen (frameControl header') = header'.length := by
        rw [hbody] at hroom
        omega
      refine ⟨hhdrlen, ?_, hcovers, ?_⟩
      · intro hnil
        rw [hhdrlen, hnil] at hempty
        simp at hempty
      · have hpn : ccmpHdr2pn (undecryptedFrame hdrlen (header' ++
            cipher.sentTail prim key header payload) allowSamePn).body =
              sentPn key := by
          simp only [undecryptedFrame, hfc, hhdrlen, List.drop_left]
          exact ccmpHdr2pn_sentTail
        rw [hpn] at haead
        exact haead

theorem softwareAead_sent (hfc : hdrlen (frameControl (header' ++
      cipher.sentTail prim key header payload)) = header'.length)
    {allowSamePn : Bool} (hpayload : payload ≠ [])
    (hsound : AeadSound prim cipher.micLen (cipher.sentNonce key header payload)
      (sentAad key header payload) payload) :
    softwareAead cipher.nonce cipher.micLen prim key.sppAmsdu
        (header' ++ cipher.sentTail prim key header payload) (sentPn key)
        (undecryptedFrame hdrlen (header' ++ cipher.sentTail prim key header
          payload) allowSamePn) =
      prim.decrypt
        (cipher.nonce key.sppAmsdu
          (header' ++ cipher.sentTail prim key header payload) (sentPn key))
        (aadOf (ccmpGcmpAad key.sppAmsdu
          (header' ++ cipher.sentTail prim key header payload)))
        (prim.encrypt (cipher.sentNonce key header payload)
          (sentAad key header payload) payload).1
        (prim.encrypt (cipher.sentNonce key header payload)
          (sentAad key header payload) payload).2 := by
  have hparts := sentTail_parts hsound
  have hnonempty : payload.length ≠ 0 := fun h =>
    hpayload (List.length_eq_zero_iff.mp h)
  simp only [softwareAead, aeadDecrypt, undecryptedFrame, hfc, List.drop_left,
    hparts.1, hparts.2, hsound.cipher_length, hnonempty, if_false, Bool.not_true,
    Bool.false_eq_true]

theorem hdrlen_of_auth (hdoc : HdrlenSpec hdrlen) {fc fc' : BitVec 16}
    (hkind : isData fc = true ∨ isMgmt fc = true)
    (hauth : fc' &&& authMask fc = fc &&& authMask fc) :
    hdrlen fc' = hdrlen fc := by
  have hsame := SameKind.of_auth hauth
  have horder := order_of_auth hauth
  cases hkind with
  | inl hdata =>
      rw [hdoc.data fc hdata, hdoc.data fc' (by rw [hsame.data, hdata]), hsame.a4,
        hsame.qos, horder]
  | inr hmgmt =>
      rw [hdoc.mgmt fc hmgmt, hdoc.mgmt fc' (by rw [hsame.mgmt, hmgmt]), horder]

theorem order_of_hdrlen (hdoc : HdrlenSpec hdrlen) {fc fc' : BitVec 16}
    (hsame : SameKind fc fc') (hqos : isDataQos fc = true)
    (hhdrlen : hdrlen fc' = hdrlen fc) : hasOrder fc' = hasOrder fc := by
  have hdata : isData fc = true := by
    rw [isDataQos_eq, Bool.and_eq_true] at hqos
    exact hqos.1
  rw [hdoc.data fc hdata, hdoc.data fc' (by rw [hsame.data, hdata]), hsame.a4,
    hsame.qos, hqos] at hhdrlen
  cases horder : hasOrder fc <;> cases horder' : hasOrder fc' <;>
    simp [horder, horder'] at hhdrlen ⊢

variable {skb : TxSkb} {allowSamePn : Bool} {rxKey : AeadKey}

/-- The frame that is sent, what a receiver reads back of it, and which
receivers recover the payload when the header has been replaced on the way. -/
theorem aead_roundTrip (cipher : AeadCipher) (hdoc : HdrlenSpec hdrlen)
    (hsend : SoftwareTx cipher.micLen key skb)
    (hskb : skb.data = header ++ payload) (hshape : HeaderShape hdrlen header)
    (hsound : AeadSound prim cipher.micLen (cipher.sentNonce key header payload)
      (sentAad key header payload) payload)
    (hfresh : ∀ queue, (rxKey.rxPn queue).value < (sentPn key).value)
    (hlength : header'.length = header.length) :
    (cipher.encryptSkb hdrlen prim key skb).1 = 0 ∧
      (cipher.encryptSkb hdrlen prim key skb).2.2.data =
        header ++ cipher.sentTail prim key header payload ∧
      (sentPn key).value = (key.txPn + 1) % 2 ^ 48 ∧
      ccmpHdr2pn ((header ++ cipher.sentTail prim key header payload).drop
        (hdrlen (frameControl header))) = sentPn key ∧
      ieee80211GetKeyid hdrlen
        (header ++ cipher.sentTail prim key header payload) = key.keyidx ∧
      (Recovers (cipher.receive hdrlen prim key.sppAmsdu allowSamePn rxKey
          (header' ++ cipher.sentTail prim key header payload)) payload ↔
        payload ≠ [] ∧
          SameAuthenticated key.sppAmsdu
            (header ++ cipher.sentTail prim key header payload)
            (header' ++ cipher.sentTail prim key header payload) ∧
          (isMgmt (frameControl header) = true →
            (undecryptedFrame hdrlen (header' ++ cipher.sentTail prim key header
              payload) allowSamePn).isCovered = true)) := by
  have hlong := hshape.length_ge hdoc
  have hlong' : 24 ≤ header'.length := by omega
  have hsent := @encryptSkb_sent cipher prim key header payload hdrlen skb hsend
    hshape (by omega) hskb
  have hfc := frameControl_append (cipher.sentTail prim key header payload)
    (show 2 ≤ header.length by omega)
  have hfc' := frameControl_append (cipher.sentTail prim key header payload)
    (show 2 ≤ header'.length by omega)
  have hframed := @framed_sameAuthenticated cipher prim key header payload hlong
  have hnumber : (sentPn key).value = (key.txPn + 1) % 2 ^ 48 := by
    rw [sentPn, packetNumberOf_value]
    omega
  refine ⟨hsent.1, hsent.2, hnumber, ?_, ?_, ?_, ?_⟩
  · rw [← hshape.length, List.drop_left]
    exact ccmpHdr2pn_sentTail
  · have htail := sentTail_length hsound
    have hkeyid : byteAt (header ++ cipher.sentTail prim key header payload)
        (header.length + 3) = UInt8.ofNat (0x20 + key.keyidx * 64) := by
      rw [byteAt_append_right]
      rfl
    simp only [ieee80211GetKeyid, hfc, ← hshape.length, hkeyid,
      keyid_of_pn2hdr hsend.keyidx, List.length_append, htail]
    rw [if_neg (by omega)]
  · intro hrecovers
    obtain ⟨hhdrlen, hpayload, hcovered, haead⟩ :=
      hdrlen_of_recovers hdoc hlong' hsound hrecovers
    rw [softwareAead_sent (by rw [hfc', hhdrlen]) hpayload hsound] at haead
    have hboth : (cipher.nonce key.sppAmsdu (header' ++ cipher.sentTail prim key
          header payload) (sentPn key),
        aadOf (ccmpGcmpAad key.sppAmsdu (header' ++ cipher.sentTail prim key
          header payload))) =
        (cipher.sentNonce key header payload, sentAad key header payload) := by
      by_contra hother
      rw [hsound.binds _ _ hother] at haead
      cases haead
    have haad : aadOf (ccmpGcmpAad key.sppAmsdu (header' ++ cipher.sentTail prim
          key header payload)) =
        aadOf (ccmpGcmpAad key.sppAmsdu (header ++ cipher.sentTail prim key
          header payload)) := by
      rw [hframed.aad_eq]
      exact congrArg Prod.snd hboth
    have hkind := SameKind.of_maskFc (maskFc_of_aad haad)
    refine ⟨hpayload, sameAuthenticated_of_aad haad fun hqos => ?_,
      fun _ => hcovered⟩
    apply order_of_hdrlen hdoc hkind hqos
    rw [hfc, hfc', hhdrlen, hlength, hshape.length]
  · rintro ⟨hpayload, hsame, hmgmt⟩
    have hauth := hsame.fc
    rw [hfc, hfc'] at hauth
    have hhdrlen : hdrlen (frameControl (header' ++ cipher.sentTail prim key
        header payload)) = header'.length := by
      rw [hfc', hdrlen_of_auth hdoc hshape.kind hauth, hlength, hshape.length]
    have hcovered : (undecryptedFrame hdrlen (header' ++ cipher.sentTail prim key
        header payload) allowSamePn).isCovered = true := by
      by_cases hkind : isMgmt (frameControl header) = true
      · exact hmgmt hkind
      · have hdata := hshape.kind.resolve_right hkind
        have hparsed := @parseHdr_isData
          (header' ++ cipher.sentTail prim key header payload) hdrlen
        rw [hfc', (SameKind.of_auth hauth).data, hdata] at hparsed
        simp only [RxFrame.isCovered, undecryptedFrame, hparsed, Bool.true_or]
    have hbody : (undecryptedFrame hdrlen (header' ++ cipher.sentTail prim key
        header payload) allowSamePn).body =
          cipher.sentTail prim key header payload := by
      simp only [undecryptedFrame, hhdrlen, List.drop_left]
    have hpn : ccmpHdr2pn (undecryptedFrame hdrlen (header' ++ cipher.sentTail
        prim key header payload) allowSamePn).body = sentPn key := by
      rw [hbody]
      exact ccmpHdr2pn_sentTail
    have haead : softwareAead cipher.nonce cipher.micLen prim key.sppAmsdu
        (header' ++ cipher.sentTail prim key header payload) (sentPn key)
        (undecryptedFrame hdrlen (header' ++ cipher.sentTail prim key header
          payload) allowSamePn) = some payload := by
      have hnonce := (hsame.nonce_eq cipher (sentPn key)).trans
        (hframed.nonce_eq cipher (sentPn key))
      have haad := hsame.aad_eq.trans hframed.aad_eq
      rw [softwareAead_sent hhdrlen hpayload hsound, hnonce, haad]
      exact hsound.roundTrip
    obtain ⟨short, shortMic, hreceive⟩ := cipher.receive_eq hdrlen prim
      key.sppAmsdu allowSamePn rxKey
      (header' ++ cipher.sentTail prim key header payload)
    rw [hreceive]
    apply recovers_of rfl rfl rfl rfl hcovered
    · rw [hbody, sentTail_length hsound]
      omega
    · rw [hpn]
      have hlt := hfresh (undecryptedFrame hdrlen (header' ++ cipher.sentTail
        prim key header payload) allowSamePn).hdr.securityIdx
      have hnotLe := (PacketNumber.memcmp_nonpos_iff (sentPn key) (rxKey.rxPn
        (undecryptedFrame hdrlen (header' ++ cipher.sentTail prim key header
          payload) allowSamePn).hdr.securityIdx)).not
      omega
    · rw [hpn]
      exact haead

/-! ## A frame of the CCMP test vectors -/

section Samples

/-- What `ieee80211_hdrlen` answers. -/
def sampleHdrlen (fc : BitVec 16) : ℕ :=
  if isData fc then (if hasA4 fc then 30 else 24) +
    if isDataQos fc then 2 + (if hasOrder fc then 4 else 0) else 0
  else if isMgmt fc then 24 + if hasOrder fc then 4 else 0
  else if fc &&& 0x000c = 0x000c then 4
  else if fc &&& 0x00e0 = 0x00c0 then 10
  else 16

theorem sampleHdrlen_spec : HdrlenSpec sampleHdrlen := by
  constructor
  · intro fc hdata
    rw [sampleHdrlen, if_pos hdata]
  · intro fc hmgmt
    have hnot : ¬ isData fc = true := by
      rw [isMgmt_eq] at hmgmt
      rw [isData_eq]
      cases h2 : fc.getLsbD 2 <;> cases h3 : fc.getLsbD 3 <;> simp_all
    rw [sampleHdrlen, if_neg hnot, if_pos hmgmt]
  · intro fc
    unfold sampleHdrlen
    split_ifs <;> omega

def sampleHeader : List UInt8 :=
  [0x08, 0x48, 0xc3, 0x2c, 0x0f, 0xd2, 0xe1, 0x28, 0xa5, 0x7c, 0x50, 0x30, 0xf1,
    0x84, 0x44, 0x08, 0xab, 0xae, 0xa5, 0xb8, 0xfc, 0xba, 0x80, 0x33]

def samplePayload : List UInt8 :=
  [0xf8, 0xba, 0x1a, 0x55, 0xd0, 0x2f, 0x85, 0xae, 0x96, 0x7b, 0xb6, 0x2f, 0xb6,
    0xcd, 0xa8, 0xeb, 0x7e, 0x78, 0xa0, 0x50]

def sampleNonce : List UInt8 :=
  [0x01, 0x00, 0x50, 0x30, 0xf1, 0x84, 0x44, 0x08, 0xb5, 0x03, 0x97, 0x76, 0xe7,
    0x0c]

def sampleAad : List UInt8 :=
  [0x08, 0x40, 0x0f, 0xd2, 0xe1, 0x28, 0xa5, 0x7c, 0x50, 0x30, 0xf1, 0x84, 0x44,
    0x08, 0xab, 0xae, 0xa5, 0xb8, 0xfc, 0xba, 0x00, 0x00]

def sampleCipherText : List UInt8 :=
  [0xf3, 0xd0, 0xa2, 0xfe, 0x9a, 0x3d, 0xbf, 0x23, 0x42, 0xa6, 0x43, 0xe4, 0x32,
    0x46, 0xe8, 0x0c, 0x3c, 0x04, 0xd0, 0x19]

/-- The text and the MIC that AES-CCM computes with the key
`c97c1f67ce371185514a8a19f2bdd52f`, for this payload and for an empty one. -/
def sampleCcm : AeadPrimitive where
  encrypt _ _ data :=
    if data = samplePayload then
      (sampleCipherText, [0x78, 0x45, 0xce, 0x0b, 0x16, 0xf9, 0x76, 0x23])
    else (data, [0x9c, 0xdf, 0x39, 0x8f, 0xbd, 0xee, 0x86, 0xff])
  decrypt nonce aad data mic :=
    if nonce = sampleNonce ∧ aad = sampleAad then
      if data = sampleCipherText ∧
          mic = [0x78, 0x45, 0xce, 0x0b, 0x16, 0xf9, 0x76, 0x23] then
        some samplePayload
      else if data = [] ∧
          mic = [0x9c, 0xdf, 0x39, 0x8f, 0xbd, 0xee, 0x86, 0xff] then some []
      else none
    else none

theorem sampleCcm_sound {payload : List UInt8}
    (hpayload : payload = samplePayload ∨ payload = []) :
    AeadSound sampleCcm 8 sampleNonce sampleAad payload := by
  have hlengths : ∀ nonce' aad' data mic plain,
      sampleCcm.decrypt nonce' aad' data mic = some plain →
      plain.length = data.length := by
    intro nonce' aad' data mic plain hplain
    simp only [sampleCcm] at hplain
    split_ifs at hplain with _ htext hempty
    · rw [← Option.some.inj hplain, htext.1]
      rfl
    · rw [← Option.some.inj hplain, hempty.1]
  have hbinds : ∀ nonce' aad' data mic, (nonce', aad') ≠ (sampleNonce, sampleAad) →
      sampleCcm.decrypt nonce' aad' data mic = none := by
    intro nonce' aad' data mic hother
    have hnot : ¬ (nonce' = sampleNonce ∧ aad' = sampleAad) := fun hboth =>
      hother (Prod.ext hboth.1 hboth.2)
    simp only [sampleCcm, if_neg hnot]
  rcases hpayload with rfl | rfl
  · exact ⟨by decide, by decide, by decide +kernel,
      fun nonce' aad' hother => hbinds nonce' aad' _ _ hother, hlengths⟩
  · exact ⟨by decide, by decide, by decide +kernel,
      fun nonce' aad' hother => hbinds nonce' aad' _ _ hother, hlengths⟩

def sampleTxKey : TxKey :=
  ⟨0, 0xb5039776e70b, false, none⟩

def sampleSkb (payload : List UInt8) : TxSkb :=
  ⟨sampleHeader ++ payload, 64, 64, true⟩

theorem sampleSkb_software (payload : List UInt8) :
    SoftwareTx ccmp.micLen sampleTxKey (sampleSkb payload) :=
  ⟨rfl, by decide, by simp [sampleSkb, micLen], by simp [sampleSkb], rfl⟩

theorem sampleHeader_shape : HeaderShape sampleHdrlen sampleHeader :=
  ⟨by decide +kernel, Or.inl (by decide +kernel)⟩

theorem sampleSent_sound {payload : List UInt8}
    (hpayload : payload = samplePayload ∨ payload = []) :
    AeadSound sampleCcm ccmp.micLen (ccmp.sentNonce sampleTxKey sampleHeader payload)
      (sentAad sampleTxKey sampleHeader payload) payload := by
  have hnonce : ccmp.sentNonce sampleTxKey sampleHeader payload = sampleNonce := by
    rcases hpayload with rfl | rfl <;> decide +kernel
  have haad : sentAad sampleTxKey sampleHeader payload = sampleAad := by
    rcases hpayload with rfl | rfl <;> decide +kernel
  rw [hnonce, haad]
  exact sampleCcm_sound hpayload

def newRxKey : AeadKey :=
  ⟨fun _ => .zero, 0⟩

/-- The retry bit is cleared, the power management bit set and the sequence
number is another one: the payload is recovered. -/
theorem aead_roundTrip_masked :
    let header' := [0x08, 0x50] ++ (sampleHeader.drop 2).take 20 ++ [0x90, 0x44]
    let tail := ccmp.sentTail sampleCcm sampleTxKey sampleHeader samplePayload
    (ccmp.encryptSkb sampleHdrlen sampleCcm sampleTxKey
        (sampleSkb samplePayload)).2.2.data = sampleHeader ++ tail ∧
      (sentPn sampleTxKey).value = 0xb5039776e70c ∧
      ieee80211GetKeyid sampleHdrlen (sampleHeader ++ tail) = 0 ∧
      Recovers (ccmp.receive sampleHdrlen sampleCcm false false newRxKey
        (header' ++ tail)) samplePayload := by
  intro header' tail
  have hfresh : PacketNumber.zero.value < (sentPn sampleTxKey).value := by
    decide +kernel
  have htrip := @aead_roundTrip sampleCcm sampleTxKey sampleHeader samplePayload
    sampleHdrlen header' (sampleSkb samplePayload) false newRxKey ccmp
    sampleHdrlen_spec (sampleSkb_software samplePayload) rfl sampleHeader_shape
    (sampleSent_sound (Or.inl rfl)) (fun _ => hfresh) rfl
  refine ⟨htrip.2.1, htrip.2.2.1, htrip.2.2.2.2.1, htrip.2.2.2.2.2.mpr ?_⟩
  refine ⟨by decide, ?_, fun hmgmt => absurd hmgmt (by decide +kernel)⟩
  constructor <;> decide +kernel

/-- The duration is not authenticated, and an empty payload is refused. -/
theorem aead_roundTrip_duration :
    let header' := [0x08, 0x48, 0x00, 0x00] ++ sampleHeader.drop 4
    let tail := fun payload =>
      ccmp.sentTail sampleCcm sampleTxKey sampleHeader payload
    AeadSound sampleCcm 8 sampleNonce sampleAad samplePayload ∧
      AeadSound sampleCcm 8 sampleNonce sampleAad [] ∧
      (∀ payload ∈ [samplePayload, []],
        (ccmp.encryptSkb sampleHdrlen sampleCcm sampleTxKey
          (sampleSkb payload)).2.2.data = sampleHeader ++ tail payload) ∧
      header' ≠ sampleHeader ∧
      Recovers (ccmp.receive sampleHdrlen sampleCcm false false newRxKey
        (header' ++ tail samplePayload)) samplePayload ∧
      ¬ Recovers (ccmp.receive sampleHdrlen sampleCcm false false newRxKey
        (sampleHeader ++ tail [])) [] := by
  refine ⟨sampleCcm_sound (Or.inl rfl), sampleCcm_sound (Or.inr rfl), ?_,
    by decide, ?_, ?_⟩
  · intro payload _
    exact (@encryptSkb_sent ccmp sampleCcm sampleTxKey sampleHeader payload
      sampleHdrlen (sampleSkb payload) (sampleSkb_software payload)
      sampleHeader_shape (by decide) rfl).2
  · constructor <;> decide +kernel
  · intro hrecovers
    exact absurd hrecovers.1 (by decide +kernel)

end Samples

end AeadCipher

end IwlwifiStack
