import IwlwifiStack.MvmReceiveModel

/-!
# TKIP

`ieee80211_tkip_decrypt_data`, its caller, and
`ieee80211_rx_h_michael_mic_verify`, which stores the number of a frame the
first one has compared.  The two mixing phases are arbitrary functions.  RC4
with the ICV check (`ieee80211_wep_decrypt_data` of `wep.c`) and the Michael MIC
(`michael.c`) are left arbitrary too: no result depends on what they compute.

Between the two handlers comes defragmentation, which may hold a frame back or
hand on a whole frame in its place.  All fragments of a frame have the flags
of its last one.
-/

namespace IwlwifiStack

/-- `tkip_mixing_phase1` of TK, TA and IV32, and `tkip_mixing_phase2` of P1K,
TK and IV16. -/
structure TkipMixing (κ : Type*) where
  phase1 : List UInt8 → List UInt8 → ℕ → κ
  phase2 : κ → List UInt8 → ℕ → List UInt8

/-- RC4 with the ICV check, from a key and a buffer to the decrypted buffer, and
Michael. -/
structure TkipPrimitives where
  wepDecrypt : List UInt8 → List UInt8 → Option (List UInt8)
  michaelMic : List UInt8 → Ieee80211Hdr → List UInt8 → List UInt8

inductive TkipState
  | notInit
  | phase1Done
  | phase1HwUploaded
  deriving DecidableEq, Repr

/-- `struct tkip_ctx`. -/
structure TkipCtx (κ : Type*) where
  p1k : κ
  p1kIv32 : ℕ
  state : TkipState

/-- `struct tkip_ctx_rx`. -/
structure TkipCtxRx (κ : Type*) where
  ctx : TkipCtx κ
  iv32 : ℕ
  iv16 : ℕ

/-- A TKIP key, with the receive context of one queue. -/
structure TkipKey (κ : Type*) where
  keyidx : ℕ
  tainted : Bool
  tk : List UInt8
  rxMicKey : List UInt8
  /-- The key is in the hardware, which wants to be told phase-1 keys. -/
  updatesHw : Bool
  rx : TkipCtxRx κ
  micFailures : ℕ

/-- A received frame with the flags of its `ieee80211_rx_status`. -/
structure TkipFrame where
  hdr : Ieee80211Hdr
  /-- The bytes behind the header. -/
  body : List UInt8
  /-- The address of the station, if it is known. -/
  sta : Option (List UInt8)
  decrypted : Bool
  ivStripped : Bool
  icvStripped : Bool
  mmicStripped : Bool
  mmicError : Bool
  linearizes : Bool

inductive TkipDrop
  | tainted
  | shortTkip
  | oom
  | tkipFail
  | apRxGroupcast
  | shortMmic
  | mmicFail
  deriving DecidableEq, Repr

/-! ## Decryption -/

section Decrypt

variable {κ : Type*}

inductive TkipDecryptResult
  | ok
  /-- Also too short, and an ICV mismatch. -/
  | noExtIv
  | invalidKeyidx
  | replay
  deriving DecidableEq, Repr

/-- What `ieee80211_tkip_decrypt_data` leaves, with the RC4 key it decrypted
with if it came that far. -/
structure TkipDecryptData (κ : Type*) where
  res : TkipDecryptResult
  ctx : TkipCtx κ
  payload : List UInt8
  rc4Key : Option (List UInt8)

namespace TkipFrame

def iv16 (payload : List UInt8) : ℕ :=
  (payload.getD 0 0).toNat * 256 + (payload.getD 2 0).toNat

def iv32 (payload : List UInt8) : ℕ :=
  (payload.getD 4 0).toNat + 2 ^ 8 * (payload.getD 5 0).toNat +
    2 ^ 16 * (payload.getD 6 0).toNat + 2 ^ 24 * (payload.getD 7 0).toNat

end TkipFrame

/-- The received TSC is not above the stored one; the very first TSC may be
zero. -/
def TkipCtxRx.replayed (rx : TkipCtxRx κ) (iv32 iv16 : ℕ) : Bool :=
  decide (iv32 < rx.iv32) ||
    (decide (iv32 = rx.iv32) &&
      (decide (iv16 < rx.iv16) ||
        (decide (iv16 = rx.iv16) &&
          (decide (rx.iv32 ≠ 0) || decide (rx.iv16 ≠ 0) ||
            decide (rx.ctx.state ≠ .notInit)))))

/-- The phase-1 key has to be computed. -/
def TkipCtxRx.needsPhase1 (rx : TkipCtxRx κ) (iv32 : ℕ) : Bool :=
  decide (rx.ctx.state = .notInit) || decide (rx.iv32 ≠ iv32)

/-- The context ahead of phase 2. -/
def TkipCtxRx.mixed (mix : TkipMixing κ) (rx : TkipCtxRx κ) (tk ta : List UInt8)
    (updatesHw : Bool) (iv32 : ℕ) : TkipCtx κ :=
  let ctx :=
    if rx.needsPhase1 iv32 then
      { p1k := mix.phase1 tk ta iv32
        p1kIv32 := iv32
        state := .phase1Done }
    else
      rx.ctx
  if updatesHw && decide (ctx.state ≠ .phase1HwUploaded) then
    { ctx with state := .phase1HwUploaded }
  else
    ctx

/-- `only_iv` is set when the hardware has decrypted the frame. -/
def ieee80211TkipDecryptData (mix : TkipMixing κ) (prim : TkipPrimitives)
    (key : TkipKey κ) (payload ta : List UInt8) (onlyIv : Bool) :
    TkipDecryptData κ :=
  let keyid := (payload.getD 3 0).toNat
  let iv16 := TkipFrame.iv16 payload
  let iv32 := TkipFrame.iv32 payload
  if payload.length < 12 then
    ⟨.noExtIv, key.rx.ctx, payload, none⟩
  else if keyid / 32 % 2 = 0 then
    ⟨.noExtIv, key.rx.ctx, payload, none⟩
  else if keyid / 64 ≠ key.keyidx then
    ⟨.invalidKeyidx, key.rx.ctx, payload, none⟩
  else if key.rx.replayed iv32 iv16 then
    ⟨.replay, key.rx.ctx, payload, none⟩
  else if onlyIv then
    ⟨.ok, { key.rx.ctx with state := .phase1HwUploaded }, payload, none⟩
  else
    let ctx := key.rx.mixed mix key.tk ta key.updatesHw iv32
    let rc4Key := mix.phase2 ctx.p1k key.tk iv16
    match prim.wepDecrypt rc4Key (payload.drop 8) with
    | none => ⟨.noExtIv, ctx, payload, some rc4Key⟩
    | some plain => ⟨.ok, ctx, payload.take 8 ++ plain, some rc4Key⟩

/-- A frame behind `ieee80211_rx_h_decrypt`: its body, the number in
`rx->tkip`, and whether it counts as decrypted. -/
structure TkipDecrypted where
  body : List UInt8
  iv32 : ℕ
  iv16 : ℕ
  decrypted : Bool

/-- What a handler leaves: the key, the RC4 key it used, and the frame unless
it was dropped. -/
structure TkipOutcome (κ : Type*) where
  key : TkipKey κ
  rc4Key : Option (List UInt8)
  frame : Except TkipDrop TkipDecrypted

def ieee80211CryptoTkipDecrypt (mix : TkipMixing κ) (prim : TkipPrimitives)
    (key : TkipKey κ) (frame : TkipFrame) : TkipOutcome κ :=
  if !frame.hdr.isData then
    ⟨key, none, .ok ⟨frame.body, 0, 0, true⟩⟩
  else
    match frame.sta with
    | none => ⟨key, none, .error .shortTkip⟩
    | some ta =>
        if frame.body.length < 12 then
          ⟨key, none, .error .shortTkip⟩
        else if !frame.linearizes then
          ⟨key, none, .error .oom⟩
        else
          let out :=
            ieee80211TkipDecryptData mix prim key frame.body ta frame.decrypted
          let key := { key with rx := { key.rx with ctx := out.ctx } }
          if out.res ≠ .ok then
            ⟨key, out.rc4Key, .error .tkipFail⟩
          else
            let trimmed :=
              if frame.icvStripped then out.payload
              else out.payload.take (out.payload.length - 4)
            ⟨key, out.rc4Key,
              .ok
                ⟨trimmed.drop 8, TkipFrame.iv32 frame.body,
                  TkipFrame.iv16 frame.body, true⟩⟩

/-- `ieee80211_rx_h_decrypt` once the TKIP key is found. -/
def rxHDecryptTkip (mix : TkipMixing κ) (prim : TkipPrimitives)
    (key : TkipKey κ) (frame : TkipFrame) : TkipOutcome κ :=
  if (frame.decrypted && frame.ivStripped) || !frame.hdr.hasProtected then
    ⟨key, none, .ok ⟨frame.body, 0, 0, frame.decrypted⟩⟩
  else if key.tainted then
    ⟨key, none, .error .tainted⟩
  else
    ieee80211CryptoTkipDecrypt mix prim key frame

end Decrypt

/-! ## Michael -/

section Michael

variable {κ : Type*}

/-- `update_iv`. -/
def TkipKey.updateIv (key : TkipKey κ) (iv32 iv16 : ℕ) : TkipKey κ :=
  { key with rx := { key.rx with iv32 := iv32, iv16 := iv16 } }

/-- The key, and the body behind the header unless the frame is dropped. -/
def ieee80211RxHMichaelMicVerify (prim : TkipPrimitives) (isAp : Bool)
    (key : TkipKey κ) (frame : TkipFrame) (rx : TkipDecrypted) :
    TkipKey κ × Except TkipDrop (List UInt8) :=
  if !frame.hdr.isDataPresent then
    (key, .ok rx.body)
  else if frame.mmicStripped || frame.ivStripped then
    if frame.mmicError then
      (key, .error .mmicFail)
    else if !frame.ivStripped then
      (key.updateIv rx.iv32 rx.iv16, .ok rx.body)
    else
      (key, .ok rx.body)
  else if !rx.decrypted then
    (key, .ok rx.body)
  else if isAp && decide (key.keyidx ≠ 0) then
    (key, .error .apRxGroupcast)
  else if frame.mmicError then
    ({ key with micFailures := (key.micFailures + 1) % 2 ^ 32 },
      .error .mmicFail)
  else if rx.body.length < 8 then
    (key, .error .shortMmic)
  else if !frame.linearizes then
    (key, .error .oom)
  else
    let data := rx.body.take (rx.body.length - 8)
    if prim.michaelMic key.rxMicKey frame.hdr data ≠
        rx.body.drop (rx.body.length - 8) then
      ({ key with micFailures := (key.micFailures + 1) % 2 ^ 32 },
        .error .mmicFail)
    else
      (key.updateIv rx.iv32 rx.iv16, .ok data)

end Michael

/-! ## A sequence of frames -/

/-- A frame arrives; `defragment` is what becomes of its body in between. -/
structure TkipEvent where
  frame : TkipFrame
  defragment : List UInt8 → Option (List UInt8)

/-- The parameters of a run. -/
structure TkipSetting (κ : Type*) where
  mix : TkipMixing κ
  prim : TkipPrimitives
  isAp : Bool

/-- One key and queue, the RC4 keys frames were decrypted with, and the
numbers of the frames delivered. -/
structure TkipRun (κ : Type*) where
  key : TkipKey κ
  decryptions : List (TkipFrame × List UInt8)
  delivered : List (ℕ × ℕ)

section Run

variable {κ : Type*}

namespace TkipRun

def initial (key : TkipKey κ) : TkipRun κ where
  key := key
  decryptions := []
  delivered := []

/-- The second half of a step.  Data goes up; what the hardware has stripped
of its number is not checked here. -/
def verify (set : TkipSetting κ) (r : TkipRun κ) (frame : TkipFrame)
    (rx : TkipDecrypted) : TkipRun κ :=
  let result := ieee80211RxHMichaelMicVerify set.prim set.isAp r.key frame rx
  { r with
    key := result.1
    delivered :=
      match result.2 with
      | .error _ => r.delivered
      | .ok _ =>
          if frame.hdr.isDataPresent && !frame.ivStripped then
            r.delivered ++ [(rx.iv32, rx.iv16)]
          else
            r.delivered }

def step (set : TkipSetting κ) (r : TkipRun κ) (event : TkipEvent) :
    Option (TkipRun κ × List Unit) :=
  let out := rxHDecryptTkip set.mix set.prim r.key event.frame
  let r :=
    { r with
      key := out.key
      decryptions :=
        match out.rc4Key with
        | none => r.decryptions
        | some rc4Key => r.decryptions ++ [(event.frame, rc4Key)] }
  match out.frame with
  | .error _ => some (r, [])
  | .ok rx =>
      match event.defragment rx.body with
      | none => some (r, [])
      | some body => some (r.verify set event.frame { rx with body := body }, [])

end TkipRun

end Run

/-! ## The branches of the decryption handler -/

section Branches

variable {κ : Type*}

/-- The frame gets as far as phase 2. -/
structure TkipKey.DecryptsInSoftware (key : TkipKey κ) (frame : TkipFrame)
    (ta : List UInt8) : Prop where
  isProtected : frame.hdr.hasProtected = true
  isData : frame.hdr.isData = true
  sta : frame.sta = some ta
  notDecrypted : frame.decrypted = false
  untainted : key.tainted = false
  length : 12 ≤ frame.body.length
  linearizes : frame.linearizes = true
  extIv : (frame.body.getD 3 0).toNat / 32 % 2 = 1
  keyidx : (frame.body.getD 3 0).toNat / 64 = key.keyidx
  notReplayed : key.rx.replayed (TkipFrame.iv32 frame.body)
    (TkipFrame.iv16 frame.body) = false

/-- The key with another receive context. -/
def TkipKey.setCtx (key : TkipKey κ) (ctx : TkipCtx κ) : TkipKey κ :=
  { key with rx := { key.rx with ctx := ctx } }

/-- The body without IV and ICV. -/
def TkipFrame.trim (frame : TkipFrame) (payload : List UInt8) : List UInt8 :=
  (if frame.icvStripped then payload
    else payload.take (payload.length - 4)).drop 8

inductive TkipDecryptCase (mix : TkipMixing κ) (prim : TkipPrimitives)
    (key : TkipKey κ) (frame : TkipFrame) : TkipOutcome κ → Prop
  /-- The hardware has stripped the IV, or there is none. -/
  | skipped :
      (frame.decrypted && frame.ivStripped || !frame.hdr.hasProtected) = true →
      TkipDecryptCase mix prim key frame
        ⟨key, none, .ok ⟨frame.body, 0, 0, frame.decrypted⟩⟩
  | notData :
      frame.hdr.isData = false →
      TkipDecryptCase mix prim key frame
        ⟨key, none, .ok ⟨frame.body, 0, 0, true⟩⟩
  | rejected (drop : TkipDrop) :
      TkipDecryptCase mix prim key frame ⟨key, none, .error drop⟩
  | hardware :
      frame.decrypted = true →
      key.rx.replayed (TkipFrame.iv32 frame.body)
        (TkipFrame.iv16 frame.body) = false →
      TkipDecryptCase mix prim key frame
        ⟨key.setCtx { key.rx.ctx with state := .phase1HwUploaded }, none,
          .ok
            ⟨frame.trim frame.body, TkipFrame.iv32 frame.body,
              TkipFrame.iv16 frame.body, true⟩⟩
  | software (ta : List UInt8) :
      key.DecryptsInSoftware frame ta →
      TkipDecryptCase mix prim key frame
        ⟨key.setCtx (key.rx.mixed mix key.tk ta key.updatesHw
            (TkipFrame.iv32 frame.body)),
          some (mix.phase2 (key.rx.mixed mix key.tk ta key.updatesHw
            (TkipFrame.iv32 frame.body)).p1k key.tk
            (TkipFrame.iv16 frame.body)),
          match prim.wepDecrypt
            (mix.phase2 (key.rx.mixed mix key.tk ta key.updatesHw
              (TkipFrame.iv32 frame.body)).p1k key.tk
              (TkipFrame.iv16 frame.body)) (frame.body.drop 8) with
          | none => .error .tkipFail
          | some plain =>
              .ok
                ⟨frame.trim (frame.body.take 8 ++ plain),
                  TkipFrame.iv32 frame.body, TkipFrame.iv16 frame.body,
                  true⟩⟩

theorem tkipDecryptData_eq (mix : TkipMixing κ) (prim : TkipPrimitives)
    (key : TkipKey κ) {payload : List UInt8} (ta : List UInt8) (onlyIv : Bool)
    (hlength : ¬ payload.length < 12) :
    ieee80211TkipDecryptData mix prim key payload ta onlyIv =
      if (payload.getD 3 0).toNat / 32 % 2 = 0 then
        ⟨.noExtIv, key.rx.ctx, payload, none⟩
      else if (payload.getD 3 0).toNat / 64 ≠ key.keyidx then
        ⟨.invalidKeyidx, key.rx.ctx, payload, none⟩
      else if key.rx.replayed (TkipFrame.iv32 payload)
          (TkipFrame.iv16 payload) then
        ⟨.replay, key.rx.ctx, payload, none⟩
      else if onlyIv then
        ⟨.ok, { key.rx.ctx with state := .phase1HwUploaded }, payload, none⟩
      else
        let ctx := key.rx.mixed mix key.tk ta key.updatesHw
          (TkipFrame.iv32 payload)
        let rc4Key := mix.phase2 ctx.p1k key.tk (TkipFrame.iv16 payload)
        match prim.wepDecrypt rc4Key (payload.drop 8) with
        | none => ⟨.noExtIv, ctx, payload, some rc4Key⟩
        | some plain => ⟨.ok, ctx, payload.take 8 ++ plain, some rc4Key⟩ := by
  unfold ieee80211TkipDecryptData
  simp only [if_neg hlength]

theorem rxHDecryptTkip_software (mix : TkipMixing κ) (prim : TkipPrimitives)
    {key : TkipKey κ} {frame : TkipFrame} {ta : List UInt8}
    (hsoftware : key.DecryptsInSoftware frame ta) :
    rxHDecryptTkip mix prim key frame =
      ⟨key.setCtx (key.rx.mixed mix key.tk ta key.updatesHw
          (TkipFrame.iv32 frame.body)),
        some (mix.phase2 (key.rx.mixed mix key.tk ta key.updatesHw
          (TkipFrame.iv32 frame.body)).p1k key.tk
          (TkipFrame.iv16 frame.body)),
        match prim.wepDecrypt
          (mix.phase2 (key.rx.mixed mix key.tk ta key.updatesHw
            (TkipFrame.iv32 frame.body)).p1k key.tk
            (TkipFrame.iv16 frame.body)) (frame.body.drop 8) with
        | none => .error .tkipFail
        | some plain =>
            .ok
              ⟨frame.trim (frame.body.take 8 ++ plain),
                TkipFrame.iv32 frame.body, TkipFrame.iv16 frame.body,
                true⟩⟩ := by
  have hlength := hsoftware.length
  have hext := hsoftware.extIv
  have hdecrypt := @tkipDecryptData_eq _ mix prim key frame.body ta
    frame.decrypted (by omega)
  rw [if_neg (by omega), if_neg (not_not.mpr hsoftware.keyidx),
    hsoftware.notReplayed, if_neg Bool.false_ne_true, hsoftware.notDecrypted,
    if_neg Bool.false_ne_true] at hdecrypt
  unfold rxHDecryptTkip ieee80211CryptoTkipDecrypt
  rw [if_neg (by simp [hsoftware.notDecrypted, hsoftware.isProtected]),
    if_neg (by simp [hsoftware.untainted]), if_neg (by simp [hsoftware.isData]),
    hsoftware.sta]
  simp only [hsoftware.notDecrypted]
  rw [if_neg (by omega), if_neg (by simp [hsoftware.linearizes])]
  cases hopen : prim.wepDecrypt
      (mix.phase2 (key.rx.mixed mix key.tk ta key.updatesHw
        (TkipFrame.iv32 frame.body)).p1k key.tk
        (TkipFrame.iv16 frame.body)) (frame.body.drop 8) with
  | none =>
      simp only [hopen] at hdecrypt
      simp only [hdecrypt]
      rfl
  | some plain =>
      simp only [hopen] at hdecrypt
      simp only [hdecrypt, ne_eq, not_true_eq_false, if_false]
      rfl

theorem rxHDecryptTkip_cases (mix : TkipMixing κ) (prim : TkipPrimitives)
    (key : TkipKey κ) (frame : TkipFrame) :
    TkipDecryptCase mix prim key frame (rxHDecryptTkip mix prim key frame) := by
  by_cases hsoftware : ∃ ta, key.DecryptsInSoftware frame ta
  · obtain ⟨ta, hsoftware⟩ := hsoftware
    rw [rxHDecryptTkip_software mix prim hsoftware]
    exact .software ta hsoftware
  unfold rxHDecryptTkip
  split_ifs with hskip htainted
  · exact .skipped hskip
  · exact .rejected _
  · have hprotected : frame.hdr.hasProtected = true := by
      by_contra hplain
      exact hskip (by simp [hplain])
    unfold ieee80211CryptoTkipDecrypt
    by_cases hdata : frame.hdr.isData = true
    · rw [if_neg (by simp [hdata])]
      cases hsta : frame.sta with
      | none => exact .rejected _
      | some ta =>
          simp only
          by_cases hshort : frame.body.length < 12
          · rw [if_pos hshort]
            exact .rejected _
          by_cases hmemory : (!frame.linearizes) = true
          · rw [if_neg hshort, if_pos hmemory]
            exact .rejected _
          · rw [if_neg hshort, if_neg hmemory]
            have hdecrypt := tkipDecryptData_eq mix prim key ta frame.decrypted
              hshort
            by_cases hext : (frame.body.getD 3 0).toNat / 32 % 2 = 0
            · simp only [hdecrypt, if_pos hext]
              exact .rejected _
            · by_cases hidx : (frame.body.getD 3 0).toNat / 64 ≠ key.keyidx
              · simp only [hdecrypt, if_neg hext, if_pos hidx]
                exact .rejected _
              · by_cases hreplay : key.rx.replayed
                    (TkipFrame.iv32 frame.body) (TkipFrame.iv16 frame.body) = true
                · simp only [hdecrypt, if_neg hext, if_neg hidx, if_pos hreplay]
                  exact .rejected _
                · rw [if_neg hext, if_neg hidx, if_neg hreplay] at hdecrypt
                  rw [Bool.not_eq_true] at hreplay
                  by_cases honly : frame.decrypted = true
                  · rw [if_pos honly] at hdecrypt
                    simp only [hdecrypt, ne_eq, not_true_eq_false, if_false]
                    exact .hardware honly hreplay
                  · exact absurd ⟨ta, ⟨hprotected, hdata, hsta,
                      by simpa using honly, by simpa using htainted, by omega,
                      by simpa using hmemory, by omega, by simpa using hidx,
                      hreplay⟩⟩ hsoftware
    · rw [if_pos (by simpa using hdata)]
      exact .notData (by simpa using hdata)

end Branches

end IwlwifiStack
