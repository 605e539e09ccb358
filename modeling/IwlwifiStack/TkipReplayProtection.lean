import IwlwifiStack.TkipOwnKey

/-!
# Replay protection with TKIP

The number of a frame is compared before it is decrypted and stored after
Michael has passed it, by another handler.  Whatever the hardware has done and
whatever defragmentation holds back, the numbers of the frames delivered
ascend, and nothing else moves the stored one.
-/

namespace IwlwifiStack

open ConditionedRun

/-- The TKIP sequence counter of `iv` is below that of `later`. -/
def TscLt (iv later : ℕ × ℕ) : Prop :=
  iv.1 < later.1 ∨ iv.1 = later.1 ∧ iv.2 < later.2

instance (iv later : ℕ × ℕ) : Decidable (TscLt iv later) := by
  unfold TscLt
  infer_instance

section Protection

variable {κ : Type*}

def TkipKey.tsc (key : TkipKey κ) : ℕ × ℕ :=
  (key.rx.iv32, key.rx.iv16)

/-- ICV and Michael MIC are right, as far as the hardware has not checked
them: the MIC of the body that decryption of this frame and defragmentation
give. -/
structure PassesChecks (set : TkipSetting κ) (key : TkipKey κ)
    (event : TkipEvent) : Prop where
  icv : event.frame.decrypted = true ∨
    ∃ rc4Key plain,
      (rxHDecryptTkip set.mix set.prim key event.frame).rc4Key = some rc4Key ∧
        set.prim.wepDecrypt rc4Key (event.frame.body.drop 8) = some plain
  noError : event.frame.mmicError = false
  mic : event.frame.mmicStripped = true ∨
    ∃ rx body,
      (rxHDecryptTkip set.mix set.prim key event.frame).frame = .ok rx ∧
        event.defragment rx.body = some body ∧ 8 ≤ body.length ∧
        set.prim.michaelMic key.rxMicKey event.frame.hdr
          (body.take (body.length - 8)) = body.drop (body.length - 8)

/-- The numbers of the frames delivered ascend from the stored one, where the
first may be zero if that is; and only a frame that passes its checks moves
the stored number. -/
structure TkipRun.ReplayProtected (set : TkipSetting κ) (start : ℕ × ℕ)
    (r : TkipRun κ) : Prop where
  ascending : r.delivered.Pairwise TscLt
  fresh : ∀ iv ∈ r.delivered, TscLt start iv ∨ iv = (0, 0) ∧ start = (0, 0)
  commits : ∀ (event : TkipEvent) (after : TkipRun κ) (output : List Unit),
    event.frame.hdr.hasProtected = true →
    r.step set event = some (after, output) →
    after.key.tsc ≠ r.key.tsc → PassesChecks set r.key event

/-! ## The two handlers -/

variable {set : TkipSetting κ}

theorem not_replayed {rx : TkipCtxRx κ} {iv32 iv16 : ℕ}
    (hfresh : rx.replayed iv32 iv16 = false) :
    TscLt (rx.iv32, rx.iv16) (iv32, iv16) ∨
      (iv32, iv16) = (0, 0) ∧ (rx.iv32, rx.iv16) = (0, 0) ∧
        rx.ctx.state = .notInit := by
  simp only [TkipCtxRx.replayed, Bool.or_eq_false_iff, Bool.and_eq_false_iff,
    decide_eq_false_iff_not, not_lt, ne_eq, not_not] at hfresh
  simp only [TscLt, Prod.mk.injEq]
  rcases hfresh with ⟨hle, hne | ⟨hle16, hne16 | ⟨⟨hzero, hzero'⟩, hstate⟩⟩⟩
  · omega
  · omega
  · by_cases heq : iv32 = rx.iv32 ∧ iv16 = rx.iv16
    · exact Or.inr ⟨⟨by omega, by omega⟩, ⟨hzero, hzero'⟩, hstate⟩
    · omega

/-- What decryption does to a protected frame. -/
inductive TkipPassed (set : TkipSetting κ) (key : TkipKey κ)
    (frame : TkipFrame) (out : TkipOutcome κ) : Prop
  | dropped (drop : TkipDrop) : out.frame = .error drop → TkipPassed set key frame out
  /-- No number is checked and none will be stored. -/
  | unchecked (rx : TkipDecrypted) :
      out.frame = .ok rx → rx.decrypted = true → out.key = key →
      frame.hdr.isDataPresent = false ∨ frame.ivStripped = true →
      TkipPassed set key frame out
  | checked (rx : TkipDecrypted) :
      out.frame = .ok rx → rx.decrypted = true →
      TscLt key.tsc (rx.iv32, rx.iv16) ∨
        (rx.iv32, rx.iv16) = (0, 0) ∧ key.tsc = (0, 0) ∧
          key.rx.ctx.state = .notInit →
      out.key.rx.ctx.state ≠ .notInit →
      (frame.decrypted = true ∨
        ∃ rc4Key plain, out.rc4Key = some rc4Key ∧
          set.prim.wepDecrypt rc4Key (frame.body.drop 8) = some plain) →
      TkipPassed set key frame out

theorem mixed_state (mix : TkipMixing κ) (rx : TkipCtxRx κ) (tk ta : List UInt8)
    (updatesHw : Bool) (iv32 : ℕ) :
    (rx.mixed mix tk ta updatesHw iv32).state ≠ .notInit := by
  unfold TkipCtxRx.mixed
  simp only
  split_ifs with hneeds hupload hupload
  · simp
  · simp
  · simp
  · intro hstate
    exact hneeds (by simp [TkipCtxRx.needsPhase1, hstate])

theorem rxHDecryptTkip_tsc (mix : TkipMixing κ) (prim : TkipPrimitives)
    (key : TkipKey κ) (frame : TkipFrame) :
    (rxHDecryptTkip mix prim key frame).key.tsc = key.tsc ∧
      (rxHDecryptTkip mix prim key frame).key.rxMicKey = key.rxMicKey := by
  have hcases := rxHDecryptTkip_cases mix prim key frame
  generalize rxHDecryptTkip mix prim key frame = out at hcases
  cases hcases <;> exact ⟨rfl, rfl⟩

theorem rxHDecryptTkip_state (mix : TkipMixing κ) (prim : TkipPrimitives)
    {key : TkipKey κ} (frame : TkipFrame)
    (hstate : key.rx.ctx.state ≠ .notInit) :
    (rxHDecryptTkip mix prim key frame).key.rx.ctx.state ≠ .notInit := by
  have hcases := rxHDecryptTkip_cases mix prim key frame
  generalize rxHDecryptTkip mix prim key frame = out at hcases ⊢
  cases hcases with
  | skipped _ => exact hstate
  | notData _ => exact hstate
  | rejected _ => exact hstate
  | hardware _ _ => simp [TkipKey.setCtx]
  | software _ _ => exact mixed_state _ _ _ _ _ _

theorem rxHDecryptTkip_passed {key : TkipKey κ} {frame : TkipFrame}
    (hprotected : frame.hdr.hasProtected = true) :
    TkipPassed set key frame
      (rxHDecryptTkip set.mix set.prim key frame) := by
  have hcases := rxHDecryptTkip_cases set.mix set.prim key frame
  generalize rxHDecryptTkip set.mix set.prim key frame = out at hcases
  cases hcases with
  | skipped hskip =>
      simp only [hprotected, Bool.not_true, Bool.or_false,
        Bool.and_eq_true] at hskip
      exact .unchecked _ rfl hskip.1 rfl (Or.inr hskip.2)
  | notData hdata =>
      refine .unchecked _ rfl rfl rfl (Or.inl ?_)
      simp [Ieee80211Hdr.isDataPresent, hdata]
  | rejected drop => exact .dropped drop rfl
  | hardware hdecrypted hfresh =>
      refine .checked _ rfl rfl (not_replayed hfresh) ?_ (Or.inl hdecrypted)
      simp [TkipKey.setCtx]
  | software ta hsoftware =>
      cases hopen : set.prim.wepDecrypt
          (set.mix.phase2 (key.rx.mixed set.mix key.tk ta key.updatesHw
            (TkipFrame.iv32 frame.body)).p1k key.tk
            (TkipFrame.iv16 frame.body)) (frame.body.drop 8) with
      | none => exact .dropped .tkipFail rfl
      | some plain =>
          exact .checked _ rfl rfl (not_replayed hsoftware.notReplayed)
            (mixed_state _ _ _ _ _ _) (Or.inr ⟨_, plain, rfl, hopen⟩)

/-- What Michael verification does to a frame taken as decrypted. -/
inductive VerifyCase (prim : TkipPrimitives) (key : TkipKey κ)
    (frame : TkipFrame) (rx : TkipDecrypted) :
    TkipKey κ × Except TkipDrop (List UInt8) → Prop
  | dropped (after : TkipKey κ) (drop : TkipDrop) :
      after.tsc = key.tsc → VerifyCase prim key frame rx (after, .error drop)
  | unchecked (data : List UInt8) :
      frame.hdr.isDataPresent = false ∨ frame.ivStripped = true →
      VerifyCase prim key frame rx (key, .ok data)
  | stored (data : List UInt8) :
      frame.hdr.isDataPresent = true → frame.ivStripped = false →
      frame.mmicError = false →
      (frame.mmicStripped = true ∨ 8 ≤ rx.body.length ∧
        prim.michaelMic key.rxMicKey frame.hdr
          (rx.body.take (rx.body.length - 8)) =
          rx.body.drop (rx.body.length - 8)) →
      VerifyCase prim key frame rx (key.updateIv rx.iv32 rx.iv16, .ok data)

theorem verify_cases (prim : TkipPrimitives) (isAp : Bool) (key : TkipKey κ)
    (frame : TkipFrame) (rx : TkipDecrypted)
    (hdecrypted : rx.decrypted = true) :
    VerifyCase prim key frame rx
      (ieee80211RxHMichaelMicVerify prim isAp key frame rx) := by
  unfold ieee80211RxHMichaelMicVerify
  by_cases hpresent : frame.hdr.isDataPresent = true
  swap
  · rw [if_pos (by simpa using hpresent)]
    exact .unchecked _ (Or.inl (by simpa using hpresent))
  rw [if_neg (by simp [hpresent])]
  by_cases hiv : frame.ivStripped = true
  · rw [if_pos (by simp [hiv])]
    by_cases herror : frame.mmicError = true
    · rw [if_pos herror]
      exact .dropped _ _ rfl
    · rw [if_neg herror, if_neg (by simp [hiv])]
      exact .unchecked _ (Or.inr hiv)
  rw [Bool.not_eq_true] at hiv
  by_cases hstripped : frame.mmicStripped = true
  · rw [if_pos (by simp [hstripped])]
    by_cases herror : frame.mmicError = true
    · rw [if_pos herror]
      exact .dropped _ _ rfl
    · rw [if_neg herror, if_pos (by simp [hiv])]
      exact .stored _ hpresent hiv (by simpa using herror) (Or.inl hstripped)
  · rw [if_neg (by simp [hstripped, hiv]), if_neg (by simp [hdecrypted])]
    simp only
    split_ifs with hap herror hshort hmemory hmic
    · exact .dropped _ _ rfl
    · exact .dropped _ _ rfl
    · exact .dropped _ _ rfl
    · exact .dropped _ _ rfl
    · exact .dropped _ _ rfl
    · exact .stored _ hpresent hiv (by simpa using herror)
        (Or.inr ⟨by omega, not_not.mp hmic⟩)

/-! ## A run -/

/-- The stored number is that of the last frame delivered, and a queue that
has delivered something no longer waits for its first frame. -/
structure StoresLast (start : ℕ × ℕ) (r : TkipRun κ) : Prop where
  stored : r.key.tsc = r.delivered.getLast?.getD start
  started : r.delivered ≠ [] → r.key.rx.ctx.state ≠ .notInit
  ascending : r.delivered.Pairwise TscLt
  fresh : ∀ iv ∈ r.delivered, TscLt start iv ∨ iv = (0, 0) ∧ start = (0, 0)

theorem TscLt.trans {iv later last : ℕ × ℕ} (hlt : TscLt iv later)
    (hlater : TscLt later last) : TscLt iv last := by
  unfold TscLt at *
  omega

theorem StoresLast.append {start : ℕ × ℕ} {r after : TkipRun κ}
    (hinv : StoresLast start r) {iv : ℕ × ℕ}
    (hfresh : TscLt r.key.tsc iv ∨
      iv = (0, 0) ∧ r.key.tsc = (0, 0) ∧ r.key.rx.ctx.state = .notInit)
    (hdelivered : after.delivered = r.delivered ++ [iv])
    (hstored : after.key.tsc = iv)
    (hstate : after.key.rx.ctx.state ≠ .notInit) : StoresLast start after := by
  have hnew : ∀ earlier ∈ r.delivered, TscLt earlier iv := by
    intro earlier hearlier
    have hne := List.ne_nil_of_mem hearlier
    rcases hfresh with hlt | ⟨-, -, hnot⟩
    · obtain ⟨before, last, hsplit⟩ : ∃ before last,
          r.delivered = before ++ [last] :=
        ⟨_, _, (List.dropLast_append_getLast hne).symm⟩
      have htsc := hinv.stored
      have hordered := hinv.ascending
      rw [hsplit, List.getLast?_concat, Option.getD_some] at htsc
      rw [hsplit, List.pairwise_append] at hordered
      rw [htsc] at hlt
      rw [hsplit, List.mem_append, List.mem_singleton] at hearlier
      rcases hearlier with hearlier | rfl
      · exact (hordered.2.2 earlier hearlier last
          (List.mem_singleton_self _)).trans hlt
      · exact hlt
    · exact absurd hnot (hinv.started hne)
  refine ⟨?_, fun _ => hstate, ?_, fun other hother => ?_⟩
  · rw [hdelivered, hstored, List.getLast?_concat, Option.getD_some]
  · rw [hdelivered, List.pairwise_append]
    refine ⟨hinv.ascending, List.pairwise_singleton _ _,
      fun earlier hearlier other hother => ?_⟩
    rw [List.mem_singleton.mp hother]
    exact hnew earlier hearlier
  · rw [hdelivered, List.mem_append, List.mem_singleton] at hother
    rcases hother with hother | rfl
    · exact hinv.fresh other hother
    · cases hdel : r.delivered with
      | nil =>
          have htsc := hinv.stored
          rw [hdel, List.getLast?_nil, Option.getD_none] at htsc
          rw [htsc] at hfresh
          exact hfresh.imp id fun h => ⟨h.1, h.2.1⟩
      | cons first rest =>
          have hfirst : first ∈ r.delivered := by
            rw [hdel]
            exact List.mem_cons_self
          have hlt := hnew first hfirst
          rcases hinv.fresh first hfirst with hstart | ⟨hzero, hstart⟩
          · exact Or.inl (hstart.trans hlt)
          · rw [hstart, ← hzero]
            exact Or.inl hlt

theorem StoresLast.same {start : ℕ × ℕ} {r after : TkipRun κ}
    (hinv : StoresLast start r) (hdelivered : after.delivered = r.delivered)
    (hstored : after.key.tsc = r.key.tsc)
    (hstate : r.key.rx.ctx.state ≠ .notInit →
      after.key.rx.ctx.state ≠ .notInit) : StoresLast start after :=
  ⟨by rw [hdelivered, hstored]; exact hinv.stored,
    fun hne => hstate (hinv.started (hdelivered ▸ hne)),
    by rw [hdelivered]; exact hinv.ascending,
    by rw [hdelivered]; exact hinv.fresh⟩

/-- The effect of one protected frame. -/
inductive TkipStepCase (set : TkipSetting κ) (r : TkipRun κ)
    (event : TkipEvent) (after : TkipRun κ) : Prop
  | unchanged :
      after.delivered = r.delivered → after.key.tsc = r.key.tsc →
      (r.key.rx.ctx.state ≠ .notInit → after.key.rx.ctx.state ≠ .notInit) →
      TkipStepCase set r event after
  | delivers (iv : ℕ × ℕ) :
      after.delivered = r.delivered ++ [iv] → after.key.tsc = iv →
      TscLt r.key.tsc iv ∨
        iv = (0, 0) ∧ r.key.tsc = (0, 0) ∧ r.key.rx.ctx.state = .notInit →
      after.key.rx.ctx.state ≠ .notInit → PassesChecks set r.key event →
      TkipStepCase set r event after

theorem TkipRun.step_cases {r after : TkipRun κ} {event : TkipEvent}
    {output : List Unit} (hprotected : event.frame.hdr.hasProtected = true)
    (hstep : r.step set event = some (after, output)) :
    TkipStepCase set r event after := by
  have hpassed := @rxHDecryptTkip_passed _ set r.key _ hprotected
  obtain ⟨htsc, hmicKey⟩ := rxHDecryptTkip_tsc set.mix set.prim r.key event.frame
  have hstate := @rxHDecryptTkip_state _ set.mix set.prim r.key event.frame
  obtain ⟨out, hout⟩ : ∃ out,
      rxHDecryptTkip set.mix set.prim r.key event.frame = out := ⟨_, rfl⟩
  rw [hout] at hpassed htsc hmicKey hstate
  simp only [TkipRun.step, hout] at hstep
  cases hframe : out.frame with
  | error drop =>
      simp only [hframe] at hstep
      cases hstep
      exact .unchanged rfl htsc hstate
  | ok rx =>
      simp only [hframe] at hstep
      cases hdefrag : event.defragment rx.body with
      | none =>
          simp only [hdefrag] at hstep
          cases hstep
          exact .unchanged rfl htsc hstate
      | some body =>
          simp only [hdefrag] at hstep
          cases hstep
          have hdecrypted : rx.decrypted = true := by
            cases hpassed with
            | dropped drop hdrop =>
                rw [hframe] at hdrop
                cases hdrop
            | unchecked other hok hdecrypted _ _ =>
                rw [hframe] at hok
                cases hok
                exact hdecrypted
            | checked other hok hdecrypted _ _ _ =>
                rw [hframe] at hok
                cases hok
                exact hdecrypted
          have hverify := verify_cases set.prim set.isAp out.key event.frame
            { rx with body := body } hdecrypted
          obtain ⟨-, hctx⟩ := verify_ctx set.prim set.isAp out.key event.frame
            { rx with body := body }
          unfold TkipRun.verify
          simp only
          generalize ieee80211RxHMichaelMicVerify set.prim set.isAp out.key
            event.frame { rx with body := body } = result at hverify hctx ⊢
          cases hverify with
          | dropped key drop hsame =>
              refine .unchanged rfl (hsame.trans htsc) fun h => ?_
              simp only at hctx ⊢
              rw [hctx]
              exact hstate h
          | unchecked data hnone =>
              have hcond : ¬ (event.frame.hdr.isDataPresent &&
                  !event.frame.ivStripped) = true := by
                rcases hnone with hnone | hnone <;> simp [hnone]
              refine .unchanged ?_ htsc hstate
              simp only [if_neg hcond]
          | stored data hpresent hiv herror hmic =>
              cases hpassed with
              | dropped drop hdrop =>
                  rw [hframe] at hdrop
                  cases hdrop
              | unchecked _ _ _ _ hnone =>
                  rw [hpresent, hiv] at hnone
                  rcases hnone with hnone | hnone <;> cases hnone
              | checked other hok _ hfresh hnext hicv =>
                  rw [hframe] at hok
                  cases hok
                  refine .delivers (rx.iv32, rx.iv16) ?_ rfl hfresh hnext
                    ⟨by rw [hout]; exact hicv, herror, ?_⟩
                  · simp only [hpresent, hiv, Bool.not_false, Bool.and_self,
                      if_true]
                  · rw [← hmicKey, hout]
                    exact hmic.imp id fun h => ⟨rx, body, hframe, hdefrag, h⟩

theorem StoresLast.afterStep {start : ℕ × ℕ} {r after : TkipRun κ}
    {event : TkipEvent} {output : List Unit} (hinv : StoresLast start r)
    (hprotected : event.frame.hdr.hasProtected = true)
    (hstep : r.step set event = some (after, output)) :
    StoresLast start after := by
  cases TkipRun.step_cases hprotected hstep with
  | unchanged hdelivered hstored hstate =>
      exact hinv.same hdelivered hstored hstate
  | delivers iv hdelivered hstored hfresh hstate _ =>
      exact hinv.append hfresh hdelivered hstored hstate

/-- Protected frames of any kind and order, on a key in any state. -/
theorem tkip_replayProtection {key : TkipKey κ} {r : TkipRun κ}
    (hreach : Reachable (TkipRun.step set)
      (fun _ event => event.frame.hdr.hasProtected = true)
      (TkipRun.initial key) r) :
    r.ReplayProtected set key.tsc := by
  have hinitial : StoresLast key.tsc (TkipRun.initial key) :=
    ⟨rfl, fun hne => absurd rfl hne, List.Pairwise.nil,
      fun _ h => (List.not_mem_nil h).elim⟩
  have hinv := hreach.invariant hinitial
    fun _ _ _ _ hinv hprotected hstep => hinv.afterStep hprotected hstep
  refine ⟨hinv.ascending, hinv.fresh,
    fun event after output hprotected hstep hmoved => ?_⟩
  cases TkipRun.step_cases hprotected hstep with
  | unchanged _ hstored _ => exact absurd hstored hmoved
  | delivers _ _ _ _ _ hchecks => exact hchecks

/-- A frame with number zero on a new key, and one the hardware has decrypted;
the first is not taken twice. -/
theorem tkip_replayProtection_zero :
    let after := (((TkipRun.initial newTkipKey).receive
      (tkipSample 0 0 0 false)).receive (tkipSample 0 0 0 false)).receive
      (tkipSample 0 1 0 true)
    after.ReplayProtected plainMixing (0, 0) ∧
      after.delivered = [(0, 0), (0, 1)] :=
  ⟨@tkip_replayProtection _ _ newTkipKey _
    (.after (.after (.after .start
      (wholeFrame (tkipSample 0 0 0 false)) [] rfl rfl)
      (wholeFrame (tkipSample 0 0 0 false)) [] rfl rfl)
      (wholeFrame (tkipSample 0 1 0 true)) [] rfl rfl),
    by decide +kernel⟩

end Protection

end IwlwifiStack
