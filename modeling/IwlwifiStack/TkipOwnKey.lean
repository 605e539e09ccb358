import IwlwifiStack.TkipModel

/-!
# The phase-1 key of TKIP

The context of a queue keeps the phase-1 key of the last frame it was computed
for.  Whether to compute it again is decided by the number of the last frame
that passed Michael, so the two need not be the same: a forged frame leaves
its own phase-1 key behind.  Frames are decrypted with their own key as long
as one that takes over the phase-1 key follows a frame of the same transmitter
and IV32.
-/

namespace IwlwifiStack

open ConditionedRun

section OwnKey

variable {κ : Type*}

def TkipMixing.ownKey (mix : TkipMixing κ) (tk ta : List UInt8)
    (frame : TkipFrame) : List UInt8 :=
  mix.phase2 (mix.phase1 tk ta (TkipFrame.iv32 frame.body)) tk
    (TkipFrame.iv16 frame.body)

/-- A frame for which phase 1 is left out follows, among those decrypted in
software, a frame of the same transmitter with the same IV32. -/
def TkipRun.FollowsOwnPhase1 (r : TkipRun κ) (event : TkipEvent) : Prop :=
  ∀ ta, r.key.DecryptsInSoftware event.frame ta →
    r.key.rx.needsPhase1 (TkipFrame.iv32 event.frame.body) = false →
    ∃ last ∈ r.decryptions.getLast?, last.1.sta = some ta ∧
      TkipFrame.iv32 last.1.body = TkipFrame.iv32 event.frame.body

/-- All frames so far were decrypted with their own keys, and so is the next
one that meets the condition: it gets through exactly when its own key opens
it. -/
structure TkipRun.UsesOwnKeys (set : TkipSetting κ) (tk : List UInt8)
    (r : TkipRun κ) : Prop where
  own : ∀ entry ∈ r.decryptions, ∃ ta, entry.1.sta = some ta ∧
    entry.2 = set.mix.ownKey tk ta entry.1
  opens : ∀ event : TkipEvent, r.FollowsOwnPhase1 event →
    ∀ ta, r.key.DecryptsInSoftware event.frame ta →
      ((rxHDecryptTkip set.mix set.prim r.key event.frame).frame.isOk ↔
        (set.prim.wepDecrypt (set.mix.ownKey tk ta event.frame)
          (event.frame.body.drop 8)).isSome)

/-- The cached phase-1 key is that of the last frame decrypted in software. -/
structure CachesLast (set : TkipSetting κ) (tk : List UInt8)
    (r : TkipRun κ) : Prop where
  tk_eq : r.key.tk = tk
  own : ∀ entry ∈ r.decryptions, ∃ ta, entry.1.sta = some ta ∧
    entry.2 = set.mix.ownKey tk ta entry.1
  cached : ∀ last ∈ r.decryptions.getLast?, ∀ ta, last.1.sta = some ta →
    r.key.rx.ctx.p1k = set.mix.phase1 tk ta (TkipFrame.iv32 last.1.body)

variable {set : TkipSetting κ} {tk : List UInt8}

theorem mixed_p1k (mix : TkipMixing κ) (rx : TkipCtxRx κ)
    (tk ta : List UInt8) (updatesHw : Bool) (iv32 : ℕ) :
    (rx.mixed mix tk ta updatesHw iv32).p1k =
      if rx.needsPhase1 iv32 then mix.phase1 tk ta iv32 else rx.ctx.p1k := by
  unfold TkipCtxRx.mixed
  simp only
  split_ifs <;> rfl

theorem CachesLast.mixed_own {r : TkipRun κ} (hinv : CachesLast set tk r)
    {event : TkipEvent} (hfollows : r.FollowsOwnPhase1 event)
    {ta : List UInt8} (hsoftware : r.key.DecryptsInSoftware event.frame ta) :
    (r.key.rx.mixed set.mix r.key.tk ta r.key.updatesHw
      (TkipFrame.iv32 event.frame.body)).p1k =
      set.mix.phase1 tk ta (TkipFrame.iv32 event.frame.body) := by
  rw [mixed_p1k, hinv.tk_eq]
  split_ifs with hneeds
  · rfl
  · obtain ⟨last, hlast, hsta, hiv⟩ := hfollows ta hsoftware (by simpa using hneeds)
    rw [hinv.cached last hlast ta hsta, hiv]

theorem CachesLast.usesOwnKeys {r : TkipRun κ} (hinv : CachesLast set tk r) :
    r.UsesOwnKeys set tk := by
  refine ⟨hinv.own, fun event hfollows ta hsoftware => ?_⟩
  have hkey : set.mix.phase2 (r.key.rx.mixed set.mix r.key.tk ta
      r.key.updatesHw (TkipFrame.iv32 event.frame.body)).p1k r.key.tk
      (TkipFrame.iv16 event.frame.body) =
      set.mix.ownKey tk ta event.frame := by
    rw [hinv.mixed_own hfollows hsoftware, hinv.tk_eq]
    rfl
  rw [rxHDecryptTkip_software set.mix set.prim hsoftware]
  simp only [hkey]
  cases set.prim.wepDecrypt (set.mix.ownKey tk ta event.frame)
      (event.frame.body.drop 8) with
  | none => rfl
  | some plain => rfl

theorem verify_ctx (prim : TkipPrimitives) (isAp : Bool) (key : TkipKey κ)
    (frame : TkipFrame) (rx : TkipDecrypted) :
    (ieee80211RxHMichaelMicVerify prim isAp key frame rx).1.tk = key.tk ∧
      (ieee80211RxHMichaelMicVerify prim isAp key frame rx).1.rx.ctx =
        key.rx.ctx := by
  unfold ieee80211RxHMichaelMicVerify TkipKey.updateIv
  simp only
  split_ifs <;> exact ⟨rfl, rfl⟩

theorem TkipRun.step_ctx {r after : TkipRun κ} {event : TkipEvent}
    {output : List Unit} (hstep : r.step set event = some (after, output)) :
    after.key.tk = (rxHDecryptTkip set.mix set.prim r.key event.frame).key.tk ∧
      after.key.rx.ctx =
        (rxHDecryptTkip set.mix set.prim r.key event.frame).key.rx.ctx ∧
      after.decryptions =
        match (rxHDecryptTkip set.mix set.prim r.key event.frame).rc4Key with
        | none => r.decryptions
        | some rc4Key => r.decryptions ++ [(event.frame, rc4Key)] := by
  unfold TkipRun.step at hstep
  generalize rxHDecryptTkip set.mix set.prim r.key event.frame = out at hstep ⊢
  cases hframe : out.frame with
  | error drop =>
      simp only [hframe] at hstep
      cases hstep
      exact ⟨rfl, rfl, rfl⟩
  | ok rx =>
      simp only [hframe] at hstep
      cases hdefrag : event.defragment rx.body with
      | none =>
          simp only [hdefrag] at hstep
          cases hstep
          exact ⟨rfl, rfl, rfl⟩
      | some body =>
          simp only [hdefrag] at hstep
          cases hstep
          obtain ⟨htk, hctx⟩ := verify_ctx set.prim set.isAp out.key event.frame
            { rx with body := body }
          exact ⟨htk, hctx, rfl⟩

theorem CachesLast.afterStep {r after : TkipRun κ} {event : TkipEvent}
    {output : List Unit} (hinv : CachesLast set tk r)
    (hfollows : r.FollowsOwnPhase1 event)
    (hstep : r.step set event = some (after, output)) :
    CachesLast set tk after := by
  obtain ⟨htk, hctx, hlog⟩ := TkipRun.step_ctx hstep
  have hcases := rxHDecryptTkip_cases set.mix set.prim r.key event.frame
  generalize rxHDecryptTkip set.mix set.prim r.key event.frame = out
    at htk hctx hlog hcases
  -- without a decryption in software the cached key stays
  have hkept : out.rc4Key = none → out.key.tk = r.key.tk →
      out.key.rx.ctx.p1k = r.key.rx.ctx.p1k → CachesLast set tk after := by
    intro hnone hsameTk hsame
    rw [hnone] at hlog
    refine ⟨by rw [htk, hsameTk, hinv.tk_eq], by rw [hlog]; exact hinv.own, ?_⟩
    rw [hlog, hctx, hsame]
    exact hinv.cached
  cases hcases with
  | skipped _ => exact hkept rfl rfl rfl
  | notData _ => exact hkept rfl rfl rfl
  | rejected drop => exact hkept rfl rfl rfl
  | hardware _ _ => exact hkept rfl rfl rfl
  | software ta hsoftware =>
      have hown := hinv.mixed_own hfollows hsoftware
      simp only at hlog
      refine ⟨by rw [htk]; exact hinv.tk_eq, fun entry hentry => ?_,
        fun last hlast other hsta => ?_⟩
      · rw [hlog, List.mem_append, List.mem_singleton] at hentry
        rcases hentry with hentry | rfl
        · exact hinv.own entry hentry
        · exact ⟨ta, hsoftware.sta, by rw [hown, hinv.tk_eq]; rfl⟩
      · rw [hlog, List.getLast?_append_of_ne_nil _ (List.cons_ne_nil _ _)] at hlast
        cases hlast
        have hta : ta = other :=
          Option.some.inj (hsoftware.sta.symm.trans hsta)
        subst hta
        rw [hctx]
        exact hown

/-- Frames of any kind and order, on a new key. -/
theorem tkip_usesOwnKeys {key : TkipKey κ} {r : TkipRun κ}
    (hreach : Reachable (TkipRun.step set)
      (fun r event => r.FollowsOwnPhase1 event) (TkipRun.initial key) r) :
    r.UsesOwnKeys set key.tk := by
  have hinitial : CachesLast set key.tk (TkipRun.initial key) :=
    ⟨rfl, fun _ h => (List.not_mem_nil h).elim, fun _ h => by cases h⟩
  exact (hreach.invariant hinitial fun _ _ _ _ hinv hfollows hstep =>
    hinv.afterStep hfollows hstep).usesOwnKeys

end OwnKey

/-! ## A forged frame in between -/

section Samples

/-- Mixing that keeps the numbers apart, and a cipher that opens a frame when
its first byte is that of the key. -/
def plainMixing : TkipSetting ℕ where
  mix :=
    { phase1 := fun _ _ iv32 => iv32
      phase2 := fun p1k _ iv16 => [UInt8.ofNat p1k, UInt8.ofNat iv16] }
  prim :=
    { wepDecrypt := fun key buffer =>
        if buffer.head? = key.head? then some buffer else none
      michaelMic := fun _ _ _ => List.replicate 8 0 }
  isAp := false

def newTkipKey : TkipKey ℕ where
  keyidx := 0
  tainted := false
  tk := []
  rxMicKey := []
  updatesHw := false
  rx :=
    { ctx := { p1k := 0, p1kIv32 := 0, state := .notInit }
      iv32 := 0
      iv16 := 0 }
  micFailures := 0

/-- One byte of data with its MIC and ICV. -/
def tkipSample (iv32 iv16 data : UInt8) (decrypted : Bool) : TkipFrame where
  hdr :=
    { frameControl := 0x4008
      hdrlen := 24
      addr1 := [2, 0, 0, 0, 0, 1]
      addr2 := [2, 0, 0, 0, 0, 2]
      seqCtrl := 0
      qosCtl := 0 }
  body := [0, 0x20, iv16, 0x20, iv32, 0, 0, 0, data] ++ List.replicate 12 0
  sta := some [2, 0, 0, 0, 0, 2]
  decrypted := decrypted
  ivStripped := false
  icvStripped := false
  mmicStripped := false
  mmicError := false
  linearizes := true

def wholeFrame (frame : TkipFrame) : TkipEvent where
  frame := frame
  defragment := some

def TkipRun.receive (r : TkipRun ℕ) (frame : TkipFrame) : TkipRun ℕ :=
  ((r.step plainMixing (wholeFrame frame)).map Prod.fst).getD r

theorem tkip_usesOwnKeys_two :
    let after := ((TkipRun.initial newTkipKey).receive
      (tkipSample 0 1 0 false)).receive (tkipSample 0 2 0 false)
    after.UsesOwnKeys plainMixing [] ∧
      after.decryptions.map Prod.snd = [[0, 1], [0, 2]] := by
  refine ⟨@tkip_usesOwnKeys _ _ newTkipKey _
    (.after (.after .start (wholeFrame (tkipSample 0 1 0 false)) [] ?_ rfl)
      (wholeFrame (tkipSample 0 2 0 false)) [] ?_ rfl),
    by decide +kernel⟩
  · intro ta _ hneeds
    cases hneeds
  · intro ta hsoftware _
    exact ⟨(tkipSample 0 1 0 false, [0, 1]), rfl, hsoftware.sta, rfl⟩

/-- After a frame with IV32 0, a forged one with IV32 1 fails its ICV check;
the next frame with IV32 0 is decrypted with the phase-1 key of the forged one
and lost, though its own key opens it. -/
theorem tkip_forged_phase1 :
    let forged := ((TkipRun.initial newTkipKey).receive
      (tkipSample 0 1 0 false)).receive (tkipSample 1 1 7 false)
    let genuine := tkipSample 0 2 0 false
    let after := forged.receive genuine
    forged.delivered = [(0, 1)] ∧
      (plainMixing.prim.wepDecrypt
        (plainMixing.mix.ownKey [] [2, 0, 0, 0, 0, 2] genuine)
        (genuine.body.drop 8)).isSome = true ∧
      plainMixing.mix.ownKey [] [2, 0, 0, 0, 0, 2] genuine = [0, 2] ∧
      after.decryptions.map Prod.snd = [[0, 1], [1, 1], [1, 2]] ∧
      after.delivered = [(0, 1)] := by
  decide +kernel

end Samples

end IwlwifiStack
