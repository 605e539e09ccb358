import IwlwifiStack.WpaDecryptModel
import IwlwifiStack.ConditionedRun

/-!
# Replay protection of the decrypt handlers

A key with the log of the packet numbers its handler has accepted, one log for
every replay counter of CCMP and GCMP and one log for BIP.  The counters bound
the logs, so an accepted number is above all that were accepted before, or
repeats the last one when the frame allows it.

A frame that fails the final `pskb_trim` is dropped after the counter has been
moved: its MIC was right.
-/

namespace IwlwifiStack

open ConditionedRun

/-! ## What the handlers do -/

section Cases

/-- The packet number is above the counter, or repeats it where that is
allowed. -/
def FreshPn (key : AeadKey) (frame : RxFrame) : Prop :=
  (key.rxPn frame.hdr.securityIdx).value < (ccmpHdr2pn frame.body).value ∨
    frame.allowSamePn = true ∧
      ccmpHdr2pn frame.body = key.rxPn frame.hdr.securityIdx

theorem freshPn_of_not_replay {key : AeadKey} {frame : RxFrame}
    (hfresh : ¬ (decide ((ccmpHdr2pn frame.body).memcmp
          (key.rxPn frame.hdr.securityIdx) < 0) ||
        (decide ((ccmpHdr2pn frame.body).memcmp
          (key.rxPn frame.hdr.securityIdx) = 0) && !frame.allowSamePn)) =
      true) :
    FreshPn key frame := by
  simp only [Bool.or_eq_true, Bool.and_eq_true, decide_eq_true_eq, not_or,
    not_and, Bool.not_eq_true', Bool.not_eq_false] at hfresh
  obtain ⟨hless, hsame⟩ := hfresh
  rw [PacketNumber.memcmp_neg_iff, not_lt] at hless
  rcases hless.lt_or_eq with hlt | heq
  · exact Or.inl hlt
  · have hpn := PacketNumber.value_inj.mp heq.symm
    exact Or.inr ⟨hsame ((PacketNumber.memcmp_eq_zero_iff _ _).mpr hpn), hpn⟩

def AeadKey.advanced (key : AeadKey) (frame : RxFrame) : AeadKey :=
  { key with
    rxPn := Function.update key.rxPn frame.hdr.securityIdx
      (ccmpHdr2pn frame.body) }

/-- The ways a frame goes through `ccmGcmDecrypt`. -/
inductive AeadCase (key : AeadKey) (frame : RxFrame) : AeadOutcome → Prop
  | notCovered :
      frame.isCovered = false →
      AeadCase key frame ⟨.rxContinue, key, none, frame.body⟩
  | rejected {out : AeadOutcome} :
      (∃ reason, out.result = .rxDrop reason) → out.key.rxPn = key.rxPn →
      AeadCase key frame out
  | prevalidated {out : AeadOutcome} :
      frame.isCovered = true → frame.pnValidated = true → out.key = key →
      out.fragPn = none → AeadCase key frame out
  | accepted (payload : List UInt8) :
      frame.isCovered = true → frame.pnValidated = false →
      FreshPn key frame →
      AeadCase key frame
        ⟨.rxContinue, key.advanced frame,
          if frame.hdr.isFrag then some (ccmpHdr2pn frame.body) else none,
          payload⟩
  | trimFailed {out : AeadOutcome} :
      frame.isCovered = true → frame.trims = false →
      (∃ reason, out.result = .rxDrop reason) → FreshPn key frame →
      out.key = key.advanced frame → AeadCase key frame out

theorem decrypted_cases (shortMic : DropReason) (micLen : ℕ) {key : AeadKey}
    {frame : RxFrame} (hcovered : frame.isCovered = true)
    (hchecked : frame.pnValidated = false) (hfresh : FreshPn key frame)
    {fragPn : Option PacketNumber}
    (hfragPn : fragPn = if frame.hdr.isFrag = true then
      some (ccmpHdr2pn frame.body) else none) (plain : Option (List UInt8)) :
    AeadCase key frame
      (match plain with
      | none => ⟨.rxDrop .micFail, key, none, frame.body⟩
      | some payload =>
          trimMic shortMic micLen frame (key.advanced frame) fragPn
            payload) := by
  cases plain with
  | none => exact .rejected ⟨_, rfl⟩ rfl
  | some payload =>
      simp only [trimMic]
      by_cases htrim : (decide (micLen ≠ 0) && !frame.trims) = true
      · rw [if_pos htrim]
        simp only [Bool.and_eq_true, Bool.not_eq_true'] at htrim
        exact .trimFailed hcovered htrim.2 ⟨_, rfl⟩ hfresh rfl
      · rw [if_neg htrim, hfragPn]
        exact .accepted payload hcovered hchecked hfresh

theorem ccmGcmDecrypt_cases (short shortMic : DropReason) (micLen : ℕ)
    (aead : Aead) (hasSta : Bool) (key : AeadKey) (frame : RxFrame) :
    AeadCase key frame
      (ccmGcmDecrypt short shortMic micLen aead hasSta key frame) := by
  unfold ccmGcmDecrypt
  simp only
  generalize (if (frame.decrypted && frame.micStripped) = true then 0
    else micLen) = mic
  generalize (if frame.decrypted = true then
    some ((frame.body.drop 8).take (frame.body.length - 8 - mic))
    else aead (ccmpHdr2pn frame.body) frame) = plain
  by_cases hcovered : frame.isCovered = true
  · rw [if_neg (by simp [hcovered])]
    split_ifs with hshort hmemory hlen hvalidated hreplay hfrag
    · exact .rejected ⟨_, rfl⟩ rfl
    · exact .rejected ⟨_, rfl⟩ rfl
    · exact .rejected ⟨_, rfl⟩ rfl
    · unfold trimMic
      split_ifs <;> exact .prevalidated hcovered hvalidated rfl rfl
    · exact .rejected ⟨_, rfl⟩ rfl
    · exact decrypted_cases shortMic mic hcovered (by simpa using hvalidated)
        (freshPn_of_not_replay hreplay) (by rw [if_pos hfrag]) plain
    · exact decrypted_cases shortMic mic hcovered (by simpa using hvalidated)
        (freshPn_of_not_replay hreplay) (by rw [if_neg hfrag]) plain
  · rw [if_pos (by simp [hcovered])]
    exact .notCovered (by simpa using hcovered)

theorem AeadCipher.decrypt_cases (cipher : AeadCipher) (aead : Aead)
    (hasSta : Bool) (key : AeadKey) (frame : RxFrame) :
    AeadCase key frame (cipher.decrypt aead hasSta key frame) := by
  cases cipher <;> exact ccmGcmDecrypt_cases _ _ _ _ _ _ _

/-- The ways a frame goes through `bipDecrypt`. -/
inductive BipCase (mmieLen : ℕ) (key : BipKey) (frame : BipFrame) :
    BipOutcome → Prop
  | notManagement :
      frame.isMgmt = false →
      BipCase mmieLen key frame ⟨.rxContinue, key, frame.body⟩
  | rejected {out : BipOutcome} :
      (∃ reason, out.result = .rxDrop reason) → out.key.rxPn = key.rxPn →
      BipCase mmieLen key frame out
  | accepted :
      frame.isMgmt = true → key.rxPn.value < (frame.ipn mmieLen).value →
      BipCase mmieLen key frame
        ⟨.rxContinue, { key with rxPn := frame.ipn mmieLen },
          frame.body.take (frame.body.length - mmieLen)⟩

theorem bipDecrypt_cases (short : DropReason) (mmieLen : ℕ)
    (needsMemory : Bool) (mic : PacketNumber → BipFrame → Bool)
    (key : BipKey) (frame : BipFrame) :
    BipCase mmieLen key frame
      (bipDecrypt short mmieLen needsMemory mic key frame) := by
  unfold bipDecrypt
  simp only
  split_ifs with hmgmt hshort hmmie hreplay hmemory hmic
  · exact .notManagement (by simpa using hmgmt)
  · exact .rejected ⟨_, rfl⟩ rfl
  · exact .rejected ⟨_, rfl⟩ rfl
  · exact .rejected ⟨_, rfl⟩ rfl
  · exact .rejected ⟨_, rfl⟩ rfl
  · exact .rejected ⟨_, rfl⟩ rfl
  · rw [PacketNumber.memcmp_nonpos_iff, not_le] at hreplay
    exact .accepted (by simpa using hmgmt) hreplay

theorem BipCipher.decrypt_cases (cipher : BipCipher)
    (mic : PacketNumber → BipFrame → Bool) (key : BipKey) (frame : BipFrame) :
    BipCase cipher.mmieLen key frame (cipher.decrypt mic key frame) := by
  cases cipher <;> exact bipDecrypt_cases _ _ _ _ _ _

end Cases

/-! ## CCMP and GCMP keys -/

/-- The packet number of an accepted frame, and whether the frame was allowed
to repeat the one before. -/
structure AcceptedPn where
  pn : ℕ
  allowSamePn : Bool
  deriving DecidableEq, Repr

def AcceptedPn.MayFollow (later earlier : AcceptedPn) : Prop :=
  earlier.pn < later.pn ∨ later.allowSamePn = true ∧ earlier.pn = later.pn

instance (later earlier : AcceptedPn) : Decidable (later.MayFollow earlier) := by
  unfold AcceptedPn.MayFollow
  infer_instance

/-- The packet number of a CCMP or GCMP header as an integer: PN0 and PN1 are
the first two octets, PN2 to PN5 the last four. -/
def RxFrame.pn (frame : RxFrame) : ℕ :=
  (frame.body.getD 0 0).toNat + 2 ^ 8 * (frame.body.getD 1 0).toNat +
    2 ^ 16 * (frame.body.getD 4 0).toNat + 2 ^ 24 * (frame.body.getD 5 0).toNat +
    2 ^ 32 * (frame.body.getD 6 0).toNat + 2 ^ 40 * (frame.body.getD 7 0).toNat

theorem RxFrame.pn_eq (frame : RxFrame) :
    frame.pn = (ccmpHdr2pn frame.body).value :=
  (ccmpHdr2pn_value frame.body).symm

theorem FreshPn.mayFollow {key : AeadKey} {frame : RxFrame}
    (hfresh : FreshPn key frame) {earlier : AcceptedPn}
    (hbound : earlier.pn ≤ (key.rxPn frame.hdr.securityIdx).value) :
    (⟨frame.pn, frame.allowSamePn⟩ : AcceptedPn).MayFollow earlier := by
  rcases hfresh with hlt | ⟨hallowed, hsame⟩
  · exact Or.inl (hbound.trans_lt (hlt.trans_eq frame.pn_eq.symm))
  · have hle : earlier.pn ≤ frame.pn := by
      rw [RxFrame.pn_eq, hsame]
      exact hbound
    exact hle.lt_or_eq.imp id fun heq => ⟨hallowed, heq⟩

theorem FreshPn.le {key : AeadKey} {frame : RxFrame}
    (hfresh : FreshPn key frame) (queue : ℕ) :
    (key.rxPn queue).value ≤ ((key.advanced frame).rxPn queue).value := by
  by_cases heq : queue = frame.hdr.securityIdx
  · subst heq
    simp only [AeadKey.advanced, Function.update_self]
    rcases hfresh with hlt | ⟨-, hsame⟩
    · exact hlt.le
    · rw [hsame]
  · simp [AeadKey.advanced, heq]

/-- A key with what its handler accepted for each counter. -/
structure AeadRun where
  key : AeadKey
  accepted : ℕ → List AcceptedPn

namespace AeadRun

def initial (key : AeadKey) : AeadRun where
  key := key
  accepted := fun _ => []

/-- An event is a frame and whether it came from a known station.  Frames the
handler does not cover have no packet number. -/
def step (cipher : AeadCipher) (aead : Aead) (r : AeadRun)
    (event : RxFrame × Bool) : Option (AeadRun × List AcceptedPn) :=
  let frame := event.1
  let out := cipher.decrypt aead event.2 r.key frame
  let queue := frame.hdr.securityIdx
  if out.result = .rxContinue ∧ frame.isCovered = true then
    let entry : AcceptedPn := ⟨frame.pn, frame.allowSamePn⟩
    some (⟨out.key, Function.update r.accepted queue
      (r.accepted queue ++ [entry])⟩, [entry])
  else
    some (⟨out.key, r.accepted⟩, [])

def NotPrevalidated (_ : AeadRun) (event : RxFrame × Bool) : Prop :=
  event.1.pnValidated = false

structure Protected (cipher : AeadCipher) (aead : Aead) (r : AeadRun) :
    Prop where
  increasing : ∀ queue,
    (r.accepted queue).Pairwise fun earlier later => later.MayFollow earlier
  rejected_unchanged : ∀ (frame : RxFrame) (hasSta : Bool),
    frame.pnValidated = false → frame.trims = true →
    (cipher.decrypt aead hasSta r.key frame).result ≠ .rxContinue →
    (cipher.decrypt aead hasSta r.key frame).key.rxPn = r.key.rxPn

/-- The logs are ordered and bounded by the counters. -/
structure Bounded (r : AeadRun) : Prop where
  increasing : ∀ queue,
    (r.accepted queue).Pairwise fun earlier later => later.MayFollow earlier
  bound : ∀ queue, ∀ entry ∈ r.accepted queue,
    entry.pn ≤ (r.key.rxPn queue).value

theorem Bounded.afterStep {cipher : AeadCipher} {aead : Aead} {r after : AeadRun}
    {event : RxFrame × Bool} {output : List AcceptedPn} (hgood : r.Bounded)
    (hallowed : r.NotPrevalidated event)
    (hstep : step cipher aead r event = some (after, output)) :
    after.Bounded := by
  obtain ⟨frame, hasSta⟩ := event
  have hcases := cipher.decrypt_cases aead hasSta r.key frame
  simp only [step] at hstep
  generalize cipher.decrypt aead hasSta r.key frame = out at hcases hstep
  cases hcases with
  | notCovered hcovered =>
      rw [if_neg (by simp [hcovered])] at hstep
      cases hstep
      exact hgood
  | rejected hdrop hsame =>
      obtain ⟨reason, hresult⟩ := hdrop
      rw [if_neg (by simp [hresult])] at hstep
      cases hstep
      exact ⟨hgood.increasing, by simpa only [hsame] using hgood.bound⟩
  | prevalidated _ hvalidated _ _ =>
      exact absurd (hallowed.symm.trans hvalidated) (by decide)
  | accepted payload hcovered _ hfresh =>
      rw [if_pos ⟨rfl, hcovered⟩] at hstep
      cases hstep
      refine ⟨fun queue => ?_, fun queue => ?_⟩
      · by_cases heq : queue = frame.hdr.securityIdx
        · subst heq
          simp only [Function.update_self]
          refine List.pairwise_append.mpr
            ⟨hgood.increasing _, List.pairwise_singleton _ _, ?_⟩
          intro earlier hearlier later hlater
          rw [List.mem_singleton.mp hlater]
          exact hfresh.mayFollow (hgood.bound _ earlier hearlier)
        · simp only [Function.update_of_ne heq]
          exact hgood.increasing queue
      · intro entry hentry
        by_cases heq : queue = frame.hdr.securityIdx
        · subst heq
          simp only [Function.update_self, List.mem_append,
            List.mem_singleton] at hentry
          rcases hentry with hold | rfl
          · exact (hgood.bound _ entry hold).trans (hfresh.le _)
          · simp [AeadKey.advanced, RxFrame.pn_eq]
        · simp only [Function.update_of_ne heq] at hentry
          exact (hgood.bound queue entry hentry).trans (hfresh.le _)
  | trimFailed _ _ hdrop hfresh hkey =>
      obtain ⟨reason, hresult⟩ := hdrop
      rw [if_neg (by simp [hresult])] at hstep
      cases hstep
      refine ⟨hgood.increasing, fun queue entry hentry => ?_⟩
      simp only [hkey]
      exact (hgood.bound queue entry hentry).trans (hfresh.le _)

theorem rejected_unchanged (cipher : AeadCipher) (aead : Aead) (hasSta : Bool)
    {key : AeadKey} {frame : RxFrame} (hchecked : frame.pnValidated = false)
    (htrims : frame.trims = true)
    (hrejected : (cipher.decrypt aead hasSta key frame).result ≠ .rxContinue) :
    (cipher.decrypt aead hasSta key frame).key.rxPn = key.rxPn := by
  have hcases := cipher.decrypt_cases aead hasSta key frame
  generalize cipher.decrypt aead hasSta key frame = out at hcases hrejected ⊢
  cases hcases with
  | notCovered _ => rfl
  | rejected _ hsame => exact hsame
  | prevalidated _ hvalidated _ _ =>
      exact absurd (hchecked.symm.trans hvalidated) (by decide)
  | accepted _ _ _ _ => exact absurd rfl hrejected
  | trimFailed _ hfailed _ _ _ =>
      exact absurd (htrims.symm.trans hfailed) (by decide)

end AeadRun

/-! ## BIP keys -/

/-- The packet number of an MMIE as an integer: the sequence number field is
little-endian. -/
def BipFrame.pn (frame : BipFrame) (mmieLen : ℕ) : ℕ :=
  let ipn := (frame.mmie mmieLen).drop 4
  (ipn.getD 0 0).toNat + 2 ^ 8 * (ipn.getD 1 0).toNat +
    2 ^ 16 * (ipn.getD 2 0).toNat + 2 ^ 24 * (ipn.getD 3 0).toNat +
    2 ^ 32 * (ipn.getD 4 0).toNat + 2 ^ 40 * (ipn.getD 5 0).toNat

theorem BipFrame.pn_eq (frame : BipFrame) (mmieLen : ℕ) :
    frame.pn mmieLen = (frame.ipn mmieLen).value :=
  (bipIpnSwap_value _).symm

/-- A key with the numbers its handler accepted. -/
structure BipRun where
  key : BipKey
  accepted : List ℕ

namespace BipRun

def initial (key : BipKey) : BipRun where
  key := key
  accepted := []

def step (cipher : BipCipher) (mic : PacketNumber → BipFrame → Bool)
    (r : BipRun) (frame : BipFrame) : Option (BipRun × List ℕ) :=
  let out := cipher.decrypt mic r.key frame
  if out.result = .rxContinue ∧ frame.isMgmt = true then
    let pn := frame.pn cipher.mmieLen
    some (⟨out.key, r.accepted ++ [pn]⟩, [pn])
  else
    some (⟨out.key, r.accepted⟩, [])

structure Protected (cipher : BipCipher)
    (mic : PacketNumber → BipFrame → Bool) (r : BipRun) : Prop where
  increasing : r.accepted.Pairwise (· < ·)
  rejected_unchanged : ∀ frame : BipFrame,
    (cipher.decrypt mic r.key frame).result ≠ .rxContinue →
    (cipher.decrypt mic r.key frame).key.rxPn = r.key.rxPn

/-- The log is ordered and bounded by the counter. -/
structure Bounded (r : BipRun) : Prop where
  increasing : r.accepted.Pairwise (· < ·)
  bound : ∀ pn ∈ r.accepted, pn ≤ r.key.rxPn.value

theorem Bounded.afterStep {cipher : BipCipher}
    {mic : PacketNumber → BipFrame → Bool} {r after : BipRun}
    {frame : BipFrame} {output : List ℕ} (hgood : r.Bounded)
    (hstep : step cipher mic r frame = some (after, output)) :
    after.Bounded := by
  have hcases := cipher.decrypt_cases mic r.key frame
  simp only [step] at hstep
  generalize cipher.decrypt mic r.key frame = out at hcases hstep
  cases hcases with
  | notManagement hmgmt =>
      rw [if_neg (by simp [hmgmt])] at hstep
      cases hstep
      exact hgood
  | rejected hdrop hsame =>
      obtain ⟨reason, hresult⟩ := hdrop
      rw [if_neg (by simp [hresult])] at hstep
      cases hstep
      exact ⟨hgood.increasing, by simpa only [hsame] using hgood.bound⟩
  | accepted hmgmt hfresh =>
      rw [if_pos ⟨rfl, hmgmt⟩] at hstep
      cases hstep
      refine ⟨List.pairwise_append.mpr
        ⟨hgood.increasing, List.pairwise_singleton _ _, ?_⟩, ?_⟩
      · intro earlier hearlier later hlater
        rw [List.mem_singleton.mp hlater]
        rw [BipFrame.pn_eq]
        exact (hgood.bound earlier hearlier).trans_lt hfresh
      · intro pn hpn
        rcases List.mem_append.mp hpn with hold | hnew
        · exact (hgood.bound pn hold).trans hfresh.le
        · rw [List.mem_singleton.mp hnew, BipFrame.pn_eq]

theorem rejected_unchanged (cipher : BipCipher)
    (mic : PacketNumber → BipFrame → Bool) {key : BipKey} {frame : BipFrame}
    (hrejected : (cipher.decrypt mic key frame).result ≠ .rxContinue) :
    (cipher.decrypt mic key frame).key.rxPn = key.rxPn := by
  have hcases := cipher.decrypt_cases mic key frame
  generalize cipher.decrypt mic key frame = out at hcases hrejected ⊢
  cases hcases with
  | notManagement _ => rfl
  | rejected _ hsame => exact hsame
  | accepted _ _ => exact absurd rfl hrejected

end BipRun

/-! ## Replay protection -/

theorem replayProtection (aeadCipher : AeadCipher) (bipCipher : BipCipher)
    (aead : Aead) (mic : PacketNumber → BipFrame → Bool)
    {aeadKey : AeadKey} {bipKey : BipKey} {aeadRun : AeadRun} {bipRun : BipRun}
    (haead : Reachable (AeadRun.step aeadCipher aead) AeadRun.NotPrevalidated
      (AeadRun.initial aeadKey) aeadRun)
    (hbip : Reachable (BipRun.step bipCipher mic) (fun _ _ => True)
      (BipRun.initial bipKey) bipRun) :
    aeadRun.Protected aeadCipher aead ∧ bipRun.Protected bipCipher mic := by
  have haeadBounded : aeadRun.Bounded :=
    haead.invariant
      ⟨fun _ => .nil, fun _ _ hentry => nomatch hentry⟩
      fun _ _ _ _ hgood hallowed hstep => hgood.afterStep hallowed hstep
  have hbipBounded : bipRun.Bounded :=
    hbip.invariant ⟨.nil, fun _ hpn => nomatch hpn⟩
      fun _ _ _ _ hgood _ hstep => hgood.afterStep hstep
  exact ⟨⟨haeadBounded.increasing, fun _ hasSta hchecked htrims hrejected =>
      AeadRun.rejected_unchanged _ _ hasSta hchecked htrims hrejected⟩,
    ⟨hbipBounded.increasing, fun _ hrejected =>
      BipRun.rejected_unchanged _ _ hrejected⟩⟩

/-! ## Keys with a few frames -/

section Samples

def newAeadKey : AeadKey where
  rxPn := fun _ => PacketNumber.zero
  replays := 0

def newBipKey : BipKey where
  rxPn := PacketNumber.zero
  replays := 0
  icverrors := 0

/-- A QoS data frame of TID 3 that the hardware has decrypted; packet number 5,
no payload, the MIC still there. -/
def decryptedData (trims : Bool) : RxFrame where
  hdr :=
    { frameControl := 0x4088
      hdrlen := 26
      addr1 := [2, 0, 0, 0, 0, 1]
      addr2 := [2, 0, 0, 0, 0, 2]
      seqCtrl := 0
      qosCtl := 3 }
  body := [5, 0, 0, 0x20, 0, 0, 0, 0] ++ List.replicate 8 0
  category := 0
  decrypted := true
  ivStripped := false
  micStripped := false
  pnValidated := false
  allowSamePn := false
  pulls := true
  linearizes := true
  trims := trims

def protectedBroadcast : BipFrame where
  isMgmt := true
  body := [76, 16, 4, 0, 7, 0, 0, 0, 0, 0] ++ List.replicate 8 0
  decrypted := true
  allocates := true

/-- The packet number of the next frame is 6. -/
def nextDecryptedData : RxFrame :=
  { decryptedData true with
    body := [6, 0, 0, 0x20, 0, 0, 0, 0] ++ List.replicate 8 0 }

def nextBroadcast : BipFrame :=
  { protectedBroadcast with
    body := [76, 16, 4, 0, 8, 0, 0, 0, 0, 0] ++ List.replicate 8 0 }

/-- Two frames are accepted in order; the first one, sent again, is a
replay. -/
theorem replayProtection_first :
    (∃ r : AeadRun, r.accepted 3 = [⟨5, false⟩, ⟨6, false⟩] ∧
      r.key.replays = 1 ∧ r.Protected .ccmp fun _ _ => none) ∧
    ∃ r : BipRun, r.accepted = [7, 8] ∧ r.key.replays = 1 ∧
      r.Protected .aesCmac fun _ _ => false := by
  have haead : ∃ r : AeadRun, Reachable (AeadRun.step .ccmp fun _ _ => none)
      AeadRun.NotPrevalidated (AeadRun.initial newAeadKey) r ∧
      r.accepted 3 = [⟨5, false⟩, ⟨6, false⟩] ∧ r.key.replays = 1 := by
    refine ⟨_, .after (.after (.after .start (decryptedData true, true)
      [⟨5, false⟩] rfl rfl) (nextDecryptedData, true) [⟨6, false⟩] rfl rfl)
      (decryptedData true, true) [] rfl rfl, ?_, ?_⟩
    · rfl
    · rfl
  have hbip : ∃ r : BipRun, Reachable (BipRun.step .aesCmac fun _ _ => false)
      (fun _ _ => True) (BipRun.initial newBipKey) r ∧
      r.accepted = [7, 8] ∧ r.key.replays = 1 := by
    refine ⟨_, .after (.after (.after .start protectedBroadcast [7] trivial rfl)
      nextBroadcast [8] trivial rfl) protectedBroadcast [] trivial rfl, ?_, ?_⟩
    · rfl
    · rfl
  obtain ⟨aeadRun, haeadReach, haccepted, hreplays⟩ := haead
  obtain ⟨bipRun, hbipReach, hbipAccepted, hbipReplays⟩ := hbip
  have hprotected :=
    replayProtection .ccmp .aesCmac _ _ haeadReach hbipReach
  exact ⟨⟨aeadRun, haccepted, hreplays, hprotected.1⟩,
    ⟨bipRun, hbipAccepted, hbipReplays, hprotected.2⟩⟩

/-- The MIC cannot be trimmed: the frame is dropped and the counter has
moved. -/
theorem rejected_frame_moves_counter :
    let out := AeadCipher.ccmp.decrypt (fun _ _ => none) true newAeadKey
      (decryptedData false)
    (decryptedData false).pnValidated = false ∧
      out.result = .rxDrop .shortCcmpMic ∧
      (newAeadKey.rxPn 3).value = 0 ∧ (out.key.rxPn 3).value = 5 := by
  decide

end Samples

end IwlwifiStack
