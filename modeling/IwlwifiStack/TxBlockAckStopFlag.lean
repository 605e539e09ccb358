import IwlwifiStack.TxBlockAckSafety

/-!
# The stopped TXQ of a TX Block Ack session

While a session is set up or taken down the TXQ of its TID is stopped.  As long as
the peer answers only what it was asked, and no session is given up while the
fragments before it go out, something that is still to come starts the TXQ again.
-/

namespace IwlwifiStack

/-- How far the driver and the peer are. -/
structure TidAmpduTx.Paced (tx : TidAmpduTx) : Prop where
  ready : tx.drvReady = true → tx.sentAddba = true
  timer : tx.sentAddba = true → tx.responseReceived = false → tx.addbaRespTimer = true
  response : tx.responseReceived = true → tx.sentAddba = true
  agreed : tx.responseReceived = true → tx.drvReady = true → tx.operational = true

def TidAmpduTx.OnTrack (tx : TidAmpduTx) : Prop :=
  tx.stopping = false → tx.wantStop = false → tx.Paced

def AmpduTid.WaitsForFrags (t : AmpduTid) : Prop :=
  t.tidStartTx.isSome = true ∧ t.txqStop = true

/-- The TXQ is stopped for the session that is there. -/
structure AmpduTid.Flowing (t : AmpduTid) : Prop where
  bare : t.tidTx = none → t.tidStartTx = none → t.txqStop = false
  flag : ∀ tx, t.tidTx = some tx → t.txqStop = !tx.operational
  pace : ∀ tx, t.tidTx = some tx → tx.OnTrack

section Functions

variable {hw : AggHw} {t : AmpduTid} {tx : TidAmpduTx}

theorem AmpduTid.Flowing.of_some (htx : t.tidTx = some tx) (hflag : t.txqStop = !tx.operational)
    (hpace : tx.OnTrack) : t.Flowing := by
  constructor
  · intro hnone
    rw [htx] at hnone
    cases hnone
  · intro other hother
    rw [← Option.some.inj (htx.symm.trans hother)]
    exact hflag
  · intro other hother
    rw [← Option.some.inj (htx.symm.trans hother)]
    exact hpace

theorem AmpduTid.Flowing.of_none (htx : t.tidTx = none) (hstop : t.txqStop = false) :
    t.Flowing := by
  constructor
  · exact fun _ _ => hstop
  · intro other hother
    rw [htx] at hother
    cases hother
  · intro other hother
    rw [htx] at hother
    cases hother

theorem TidAmpduTx.OnTrack.of_stopping (hstopping : tx.stopping = true) : tx.OnTrack := by
  intro hnot
  rw [hstopping] at hnot
  cases hnot

theorem TidAmpduTx.OnTrack.of_wantStop (hwant : tx.wantStop = true) : tx.OnTrack := by
  intro _ hnot
  rw [hwant] at hnot
  cases hnot

theorem AmpduTid.flowing_stop (t : AmpduTid) (reason : AggStopReason)
    (hnone : t.tidTx = none → t.txqStop = false)
    (hsome : ∀ tx, t.tidTx = some tx → tx.wantStart = false ∧
      (tx.stopping = true → t.txqStop = !tx.operational)) :
    (t.stopTxBaSession reason).1.Flowing := by
  unfold stopTxBaSession
  dsimp only
  cases htx : t.tidTx with
  | none => exact .of_none rfl (hnone htx)
  | some tx =>
      rcases hsome tx htx with ⟨hwant, hflag⟩
      dsimp only
      rw [hwant, if_neg Bool.false_ne_true]
      by_cases hstopping : tx.stopping = true
      · rw [if_pos hstopping]
        exact .of_some rfl (hflag hstopping) (.of_stopping hstopping)
      · rw [if_neg hstopping]
        exact .of_some rfl rfl (.of_stopping rfl)

theorem AmpduTid.Flowing.stop (hflow : t.Flowing) (reason : AggStopReason)
    (hfrags : ¬t.WaitsForFrags) (hwant : ∀ tx, t.tidTx = some tx → tx.wantStart = false) :
    (t.stopTxBaSession reason).1.Flowing := by
  apply t.flowing_stop reason
  · intro hnone
    cases hstart : t.tidStartTx with
    | none => exact hflow.bare hnone hstart
    | some start =>
        rw [← Bool.not_eq_true]
        exact fun hstop => hfrags ⟨Option.isSome_iff_exists.mpr ⟨start, hstart⟩, hstop⟩
  · exact fun tx htx => ⟨hwant tx htx, fun _ => hflow.flag tx htx⟩

theorem AmpduTid.flowing_sendAddba (hflag : t.txqStop = !tx.operational)
    (hresponse : tx.responseReceived = false) :
    (t.sendAddbaWithTimeout hw tx).1.Flowing := by
  unfold sendAddbaWithTimeout
  split_ifs with hgone
  · refine .of_some rfl hflag fun hstopping hwant => ?_
    rw [hstopping, hwant] at hgone
    cases hgone
  · refine .of_some rfl hflag fun _ _ => ⟨fun _ => rfl, fun _ _ => rfl, fun _ => rfl, ?_⟩
    intro hset
    rw [hresponse] at hset
    cases hset

theorem AmpduTid.flowing_handleStart (answer : StartAnswer) (t : AmpduTid)
    (dialogToken timeout : ℕ) :
    (({ t with
      txqStop := true
      tidStartTx := none
      tidTx := some (.prepared dialogToken timeout) }).handleStart hw answer).1.Flowing := by
  unfold handleStart
  cases answer with
  | accept => exact flowing_sendAddba rfl rfl
  | immediate => exact flowing_sendAddba rfl rfl
  | delayAddba =>
      refine .of_some rfl rfl fun _ _ => ⟨?_, ?_, ?_, ?_⟩
      · rintro ⟨⟩
      · rintro ⟨⟩
      · rintro ⟨⟩
      · rintro ⟨⟩
  | refuse => exact .of_none rfl rfl

theorem AmpduTid.Flowing.startTxBaCb (hflow : t.Flowing) (htx : t.tidTx = some tx)
    (hready : tx.stopping = false → tx.drvReady = false) :
    (t.startTxBaCb hw { tx with startCb := false }).1.Flowing := by
  have hpace := hflow.pace tx htx
  have hflag := hflow.flag tx htx
  unfold AmpduTid.startTxBaCb
  dsimp only
  split_ifs with hgone hsent hresponse
  · refine .of_some rfl hflag fun hstopping hwant => ?_
    have hgone : (tx.drvReady || tx.stopping || tx.wantStop) = true := hgone
    rw [hready hstopping, show tx.stopping = false from hstopping,
      show tx.wantStop = false from hwant] at hgone
    cases hgone
  all_goals
    rw [Bool.or_eq_true, Bool.or_eq_true, not_or, not_or, Bool.not_eq_true tx.stopping,
      Bool.not_eq_true tx.wantStop] at hgone
    rcases hpace hgone.1.2 hgone.2 with ⟨_, htimer, hasked, _⟩
  · refine @flowing_sendAddba hw t _ hflag ?_
    change tx.responseReceived = false
    rw [Bool.not_eq_true'] at hsent
    by_contra hresponse
    rw [Bool.not_eq_false] at hresponse
    rw [show tx.sentAddba = true from hasked hresponse] at hsent
    cases hsent
  · exact .of_some rfl rfl fun _ _ => ⟨fun _ => hasked hresponse,
      fun _ hnot => absurd (hresponse.symm.trans hnot) (by decide), hasked, fun _ _ => rfl⟩
  · rw [Bool.not_eq_true', Bool.not_eq_false] at hsent
    exact .of_some rfl hflag fun _ _ => ⟨fun _ => hsent, htimer, hasked,
      fun hset => absurd hset hresponse⟩

theorem AmpduTid.Flowing.stopTxBaCb (hflow : t.Flowing) (htx : t.tidTx = some tx) :
    (t.stopTxBaCb { tx with stopCb := false }).1.Flowing := by
  unfold AmpduTid.stopTxBaCb
  by_cases hstopping : tx.stopping = true
  · rw [if_pos (show ({ tx with stopCb := false } : TidAmpduTx).stopping = true from hstopping)]
    exact .of_none rfl rfl
  · rw [if_neg (show ¬({ tx with stopCb := false } : TidAmpduTx).stopping = true from hstopping)]
    refine .of_some rfl (hflow.flag tx htx) fun hrunning hwant => ?_
    rcases hflow.pace tx htx hrunning hwant with ⟨hready, htimer, hasked, hagreed⟩
    exact ⟨hready, htimer, hasked, hagreed⟩

/-! ## The work -/

theorem AmpduTid.startTxBaCb_wantStart (t : AmpduTid) (tx : TidAmpduTx) :
    ∀ now, (t.startTxBaCb hw tx).1.tidTx = some now → now.wantStart = tx.wantStart := by
  intro now hnow
  unfold startTxBaCb at hnow
  dsimp only at hnow
  split_ifs at hnow
  · rw [← Option.some.inj hnow]
  · rcases sendAddba_eq hw t { tx with drvReady := true } with ⟨_, _, _, _, heq, _⟩
    rw [heq] at hnow
    rw [← Option.some.inj hnow]
  · rw [← Option.some.inj (show some _ = some now from hnow)]
  · rw [← Option.some.inj hnow]

theorem AmpduTid.Flowing.workTidTx (hflow : t.Flowing) (htx : t.tidTx = some tx)
    (hstart : t.tidStartTx = none) (hwantStart : tx.wantStart = false) (blocked : Bool)
    (hready : tx.stopping = false → tx.startCb = true → tx.drvReady = false) :
    (t.workTidTx hw blocked tx).1.Flowing := by
  unfold AmpduTid.workTidTx
  dsimp only
  generalize hfirst : (if (!blocked && tx.startCb) = true then
    t.startTxBaCb hw { tx with startCb := false } else (t, [])) = first
  have hstarted : first.1.Flowing ∧ first.1.tidStartTx = none ∧
      ∀ now, first.1.tidTx = some now → now.wantStart = false := by
    rw [← hfirst]
    split_ifs with hcb
    · rw [Bool.and_eq_true] at hcb
      refine ⟨hflow.startTxBaCb htx fun hrunning => hready hrunning hcb.2,
        startTxBaCb_start hstart _, fun now hnow => ?_⟩
      rw [t.startTxBaCb_wantStart _ now hnow]
      exact hwantStart
    · refine ⟨hflow, hstart, fun now hnow => ?_⟩
      rw [← Option.some.inj (htx.symm.trans hnow)]
      exact hwantStart
  rcases hstarted with ⟨hflow1, hstart1, hwant1⟩
  cases htx1 : first.1.tidTx with
  | none =>
      dsimp only
      rw [htx1]
      exact hflow1
  | some tx1 =>
      dsimp only
      generalize hsecond : (if tx1.wantStop = true then
        ({ first.1 with tidTx := some { tx1 with wantStop := false } }).stopTxBaSession
          .localRequest else (first.1, [])) = second
      have hflow2 : second.1.Flowing := by
        rw [← hsecond]
        split_ifs
        · apply flowing_stop
          · rintro ⟨⟩
          · intro now hnow
            rw [← Option.some.inj hnow]
            exact ⟨hwant1 tx1 htx1, fun _ => hflow1.flag tx1 htx1⟩
        · exact hflow1
      cases htx2 : second.1.tidTx with
      | none => exact hflow2
      | some tx2 =>
          dsimp only
          split_ifs
          · exact hflow2.stopTxBaCb htx2
          · exact hflow2

theorem TidAmpduTx.Live.wantStart_eq {queued blocked accepted : Bool} {phase : DriverPhase}
    (hlive : tx.Live queued blocked accepted phase) : tx.wantStart = false := by
  cases hlive with
  | starting hwant => exact hwant
  | ready hwant => exact hwant
  | operational hwant => exact hwant
  | stopping hwant => exact hwant
  | stopped hwant => exact hwant

theorem TidAmpduTx.Live.not_ready {queued blocked accepted : Bool} {phase : DriverPhase}
    (hlive : tx.Live queued blocked accepted phase) (hstopping : tx.stopping = false)
    (hcb : tx.startCb = true) : tx.drvReady = false := by
  cases hlive with
  | starting _ _ _ hready => exact hready
  | ready _ _ _ hready =>
      rw [hready, hcb]
      rfl
  | operational _ _ _ _ _ hnot => exact absurd (hcb.symm.trans hnot) (by decide)
  | stopping _ hyes => exact absurd (hyes.symm.trans hstopping) (by decide)
  | stopped _ hyes => exact absurd (hyes.symm.trans hstopping) (by decide)

variable {p : BaTid} {queued blocked : Bool}

theorem BaTid.Safe.wantStart_eq (hsafe : p.Safe queued blocked) :
    ∀ tx, p.t.tidTx = some tx → tx.wantStart = false :=
  fun tx htx => (hsafe.live tx htx).wantStart_eq

theorem AmpduTid.Flowing.sessionWork (hsafe : p.Safe true blocked) (hflow : p.t.Flowing)
    (frags : Bool) (answer : StartAnswer) :
    (p.t.sessionWork hw blocked frags answer).1.Flowing := by
  unfold AmpduTid.sessionWork
  cases hstart : p.t.tidStartTx with
  | none =>
      cases htx : p.t.tidTx with
      | none => exact hflow
      | some tx =>
          exact hflow.workTidTx htx hstart (hsafe.wantStart_eq tx htx) blocked
            (hsafe.live tx htx).not_ready
  | some start =>
      rcases hsafe.starts start hstart with ⟨hprepared, hnone, _, hblocked⟩
      dsimp only
      rw [if_neg (show ¬blocked = true by rw [hblocked]; exact Bool.false_ne_true)]
      by_cases hfrags : frags = true
      · rw [if_pos hfrags]
        constructor
        · intro _
          rintro ⟨⟩
        · intro tx htx
          exact absurd (htx.symm.trans hnone) (by rintro ⟨⟩)
        · intro tx htx
          exact absurd (htx.symm.trans hnone) (by rintro ⟨⟩)
      · rw [if_neg hfrags, hnone, hprepared]
        exact flowing_handleStart answer p.t start.dialogToken start.timeout

/-! ## Everything else -/

theorem AmpduTid.Flowing.stopSession (hflow : t.Flowing) : t.stopSession.1.Flowing := by
  unfold AmpduTid.stopSession
  cases htx : t.tidTx with
  | none => exact hflow
  | some tx =>
      dsimp only
      split_ifs
      · exact hflow
      · exact .of_some rfl (hflow.flag tx htx) (.of_wantStop rfl)

theorem AmpduTid.Flowing.addbaRespTimerExpired (hflow : t.Flowing) :
    t.addbaRespTimerExpired.1.Flowing := by
  unfold AmpduTid.addbaRespTimerExpired
  cases htx : t.tidTx with
  | none => exact hflow
  | some tx =>
      have hflag := hflow.flag tx htx
      dsimp only
      split_ifs with hresponse
      · refine .of_some rfl hflag fun hstopping hwant => ?_
        rcases hflow.pace tx htx hstopping hwant with ⟨hready, _, hasked, hagreed⟩
        exact ⟨hready, fun _ hnot => absurd (hresponse.symm.trans hnot) (by decide), hasked,
          hagreed⟩
      · unfold AmpduTid.stopSession
        dsimp only
        split_ifs with hstopping
        · exact .of_some rfl hflag (.of_stopping hstopping)
        · exact .of_some rfl hflag (.of_wantStop rfl)

theorem AmpduTid.Flowing.sessionTimer (hflow : t.Flowing) (htx : t.tidTx = some tx)
    (armed : Bool) : ({ t with tidTx := some { tx with sessionTimer := armed } }).Flowing := by
  refine .of_some rfl (hflow.flag tx htx) fun hstopping hwant => ?_
  rcases hflow.pace tx htx hstopping hwant with ⟨hready, htimer, hasked, hagreed⟩
  exact ⟨hready, htimer, hasked, hagreed⟩

theorem AmpduTid.Flowing.sessionTimerExpired (hflow : t.Flowing) (idle : Bool) :
    (t.sessionTimerExpired idle).1.Flowing := by
  unfold AmpduTid.sessionTimerExpired
  cases htx : t.tidTx with
  | none => exact hflow
  | some tx =>
      dsimp only
      split_ifs
      · exact hflow.sessionTimer htx false
      · exact hflow
      · exact (hflow.sessionTimer htx false).stopSession

theorem AmpduTid.Flowing.processAddbaResp (hflow : t.Flowing)
    (hwantStart : ∀ tx, t.tidTx = some tx → tx.wantStart = false)
    (dialogToken bufSize : ℕ) (amsdu success : Bool) (timeout : ℕ)
    (hasked : ∀ tx, t.tidTx = some tx → dialogToken = tx.dialogToken → success = true →
      tx.sentAddba = true) :
    (t.processAddbaResp hw dialogToken bufSize amsdu success timeout).1.Flowing := by
  unfold AmpduTid.processAddbaResp
  dsimp only
  generalize hheard : (if (!amsdu) = true then { t with txqNoAmsdu := true } else t) = heard
  have hsame : heard.tidTx = t.tidTx ∧ heard.tidStartTx = t.tidStartTx ∧
      heard.txqStop = t.txqStop := by
    rw [← hheard]
    split_ifs
    · exact ⟨rfl, rfl, rfl⟩
    · exact ⟨rfl, rfl, rfl⟩
  rcases hsame with ⟨htxs, hstarts, hstop⟩
  rw [← htxs] at hwantStart hasked
  have hflow : heard.Flowing := by
    constructor
    · rw [htxs, hstarts, hstop]
      exact hflow.bare
    · rw [htxs, hstop]
      exact hflow.flag
    · rw [htxs]
      exact hflow.pace
  cases htx : heard.tidTx with
  | none => exact hflow
  | some tx =>
      have hflag := hflow.flag tx htx
      dsimp only
      split_ifs with htoken hgone hgood hresponse hready
      · exact hflow
      · refine .of_some rfl hflag ?_
        rw [Bool.or_eq_true] at hgone
        rcases hgone with hwant | hstopping
        · exact .of_wantStop hwant
        · exact .of_stopping hstopping
      · refine .of_some rfl hflag fun hstopping hwant => ?_
        rcases hflow.pace tx htx hstopping hwant with ⟨hdrv, _, hsent, hagreed⟩
        exact ⟨hdrv, fun _ hnot => absurd (hresponse.symm.trans hnot) (by decide), hsent, hagreed⟩
      · have hsent := hasked tx htx (not_not.mp htoken) hgood.1
        exact .of_some rfl rfl fun _ _ => ⟨fun _ => hsent, fun _ => by rintro ⟨⟩, fun _ => hsent,
          fun _ _ => rfl⟩
      · have hsent := hasked tx htx (not_not.mp htoken) hgood.1
        exact .of_some rfl hflag fun _ _ => ⟨fun _ => hsent, fun _ => by rintro ⟨⟩, fun _ => hsent,
          fun _ hset => absurd hset hready⟩
      · apply AmpduTid.flowing_stop
        · rintro ⟨⟩
        · intro now hnow
          rw [← Option.some.inj hnow]
          exact ⟨hwantStart tx htx, fun _ => hflag⟩

end Functions

/-! ## The station -/

/-- The peer accepts only a session that it was asked for, and no session is given up
while it waits for fragments. -/
def BaAllowed (sta : TxBaStation) : BaEvent → Prop
  | .addbaResp tid dialogToken _ _ success _ =>
    ∀ tx, (sta.tid tid).t.tidTx = some tx → dialogToken = tx.dialogToken → success = true →
      tx.sentAddba = true
  | .delba tid | .reserve tid => ¬(sta.tid tid).t.WaitsForFrags
  | .tearDown _ | .block _ => ∀ tid, ¬(sta.tid tid).t.WaitsForFrags
  | _ => True

/-- Something that is still to come starts the TXQ again: the work, the driver's answer or
the end of the time that the peer has to answer.  A driver that stops calls back after
`STOP_CONT`; the other stops are for a station that goes. -/
def BaTid.Pending (p : BaTid) (queued destroyed : Bool) : Prop :=
  p.driver = .starting ∨ (p.driver = .stopping ∧ destroyed = false) ∨
  (queued = true ∧ (p.t.tidStartTx.isSome = true ∨ ∃ tx, p.t.tidTx = some tx ∧
    (tx.startCb = true ∨ tx.stopCb = true ∨ tx.wantStop = true))) ∨
  ∃ tx, p.t.tidTx = some tx ∧ tx.addbaRespTimer = true

section Station

variable {hw : AggHw} {sta after : TxBaStation}

/-- No TXQ of the station is stopped for nothing. -/
structure TxBaStation.Flowing (sta : TxBaStation) : Prop where
  safe : sta.Safe
  flow : ∀ tid, (sta.tid tid).t.Flowing

theorem TxBaStation.sessionWork_flowing (answers : Fin 16 → StartAnswer) (frags : Fin 16 → Bool)
    {tids : List (Fin 16)} (hnodup : tids.Nodup)
    (htids : ∀ tid ∈ tids, (sta.tid tid).Safe true sta.blockBa)
    (hflow : ∀ tid, (sta.tid tid).t.Flowing) (tid : Fin 16) :
    ((sta.sessionWork hw answers frags tids).tid tid).t.Flowing := by
  induction tids generalizing sta with
  | nil => exact hflow tid
  | cons now tids ih =>
      rw [List.nodup_cons] at hnodup
      rw [List.forall_mem_cons] at htids
      have hround := @AmpduTid.Flowing.sessionWork hw _ _ htids.1 (hflow now) (frags now)
        (answers now)
      unfold TxBaStation.sessionWork
      dsimp only
      generalize (sta.tid now).t.sessionWork hw sta.blockBa (frags now) (answers now) = result
        at hround ⊢
      have hset : ∀ other, (Function.update sta.tid now
          ((sta.tid now).after (answers now) (result.1, result.2.1)) other).t.Flowing := by
        intro other
        by_cases hother : other = now
        · rw [hother, Function.update_self, BaTid.after_t]
          exact hround
        · rw [Function.update_of_ne hother]
          exact hflow other
      split_ifs
      · exact hset tid
      · refine ih hnodup.2 (fun other hlater => ?_) hset
        have hne : other ≠ now := fun heq => hnodup.1 (heq ▸ hlater)
        change (Function.update sta.tid now _ other).Safe true sta.blockBa
        rw [Function.update_of_ne hne]
        exact htids.2 other hlater

theorem BaTid.stop_flowing {p : BaTid} {queued blocked : Bool} (hsafe : p.Safe queued blocked)
    (hflow : p.t.Flowing) (hfrags : ¬p.t.WaitsForFrags) (reason : AggStopReason) :
    (p.stop reason).t.Flowing := by
  unfold BaTid.stop
  rw [BaTid.after_t]
  exact hflow.stop reason hfrags hsafe.wantStart_eq

theorem BaTid.finish_flowing {p : BaTid} (hflow : p.t.Flowing) : p.finish.t.Flowing := by
  unfold BaTid.finish
  cases htx : p.t.tidTx with
  | none => exact hflow
  | some tx =>
      dsimp only
      split_ifs
      · rw [BaTid.after_t]
        exact hflow.stopTxBaCb htx
      · exact hflow

theorem TxBaStation.Flowing.tearDown (hflow : sta.Flowing)
    (hfrags : ∀ tid, ¬(sta.tid tid).t.WaitsForFrags) (reason : AggStopReason) (blocked : Bool)
    (tid : Fin 16) :
    ((TxBaStation.tearDown { sta with blockBa := blocked } reason).tid tid).t.Flowing := by
  have hstop := BaTid.stop_flowing (hflow.safe tid) (hflow.flow tid) (hfrags tid) reason
  unfold TxBaStation.tearDown
  split_ifs
  · exact BaTid.finish_flowing hstop
  · exact hstop

theorem TxBaStation.Flowing.startSession (hflow : sta.Flowing) (tid : Fin 16) (timeout : ℕ)
    (refused soon noMem : Bool) (other : Fin 16) :
    ((sta.startSession tid timeout refused soon noMem).tid other).t.Flowing := by
  unfold TxBaStation.startSession
  dsimp only
  split_ifs with _ _ _ hbusy
  · exact hflow.flow other
  · exact hflow.flow other
  · exact hflow.flow other
  · exact hflow.flow other
  · exact hflow.flow other
  · rw [not_or, Option.not_isSome_iff_eq_none] at hbusy
    change (Function.update sta.tid tid _ other).t.Flowing
    by_cases hother : other = tid
    · rw [hother, Function.update_self]
      constructor
      · intro _
        rintro ⟨⟩
      · intro tx htx
        exact absurd (htx.symm.trans hbusy.1) (by rintro ⟨⟩)
      · intro tx htx
        exact absurd (htx.symm.trans hbusy.1) (by rintro ⟨⟩)
    · rw [Function.update_of_ne hother]
      exact hflow.flow other

theorem AmpduTid.Flowing.mark {t : AmpduTid} (hflow : t.Flowing) {mark : TidAmpduTx → TidAmpduTx}
    (hmark : ∀ tx, (mark tx).operational = tx.operational ∧ (tx.OnTrack → (mark tx).OnTrack)) :
    ({ t with tidTx := t.tidTx.map mark }).Flowing := by
  cases htx : t.tidTx with
  | none =>
      constructor
      · exact fun _ hstart => hflow.bare htx hstart
      · rintro _ ⟨⟩
      · rintro _ ⟨⟩
  | some tx =>
      refine .of_some rfl ?_ ((hmark tx).2 (hflow.pace tx htx))
      rw [(hmark tx).1]
      exact hflow.flag tx htx

theorem TxBaStation.Flowing.step (hflow : sta.Flowing) {event : BaEvent}
    (hallowed : BaAllowed sta event) {output : List Unit}
    (hstep : sta.step hw event = some (after, output)) : after.Flowing := by
  refine ⟨hflow.safe.step hstep, fun other => ?_⟩
  have hone : ∀ tid p queue, p.t.Flowing →
      (((sta.setTid tid p).queueWork queue).tid other).t.Flowing := by
    intro tid p queue hp
    change (Function.update sta.tid tid p other).t.Flowing
    by_cases hother : other = tid
    · rw [hother, Function.update_self]
      exact hp
    · rw [Function.update_of_ne hother]
      exact hflow.flow other
  cases event with
  | startSession tid timeout refused soon noMem =>
      rw [← show _ = after from congrArg Prod.fst (Option.some.inj hstep)]
      exact hflow.startSession tid timeout refused soon noMem other
  | stopSession tid =>
      rw [← show _ = after from congrArg Prod.fst (Option.some.inj hstep)]
      exact hone tid _ _ (hflow.flow tid).stopSession
  | work answers frags =>
      simp only [TxBaStation.step] at hstep
      split_ifs at hstep with hqueued
      rw [← show _ = after from congrArg Prod.fst (Option.some.inj hstep)]
      refine @TxBaStation.sessionWork_flowing hw { sta with workQueued := false } answers frags _
        (List.nodup_finRange 16) ?_ hflow.flow other
      intro tid _
      have htid := hflow.safe tid
      rw [hqueued] at htid
      exact htid
  | startCb tid =>
      simp only [TxBaStation.step] at hstep
      split_ifs at hstep
      rw [← show _ = after from congrArg Prod.fst (Option.some.inj hstep)]
      refine hone tid _ _ ((hflow.flow tid).mark fun tx => ⟨rfl, fun hpace hrunning hwant => ?_⟩)
      rcases hpace hrunning hwant with ⟨hready, htimer, hasked, hagreed⟩
      exact ⟨hready, htimer, hasked, hagreed⟩
  | stopCb tid =>
      simp only [TxBaStation.step] at hstep
      split_ifs at hstep
      rw [← show _ = after from congrArg Prod.fst (Option.some.inj hstep)]
      refine hone tid _ _ ((hflow.flow tid).mark fun tx => ⟨rfl, fun hpace hrunning hwant => ?_⟩)
      rcases hpace hrunning hwant with ⟨hready, htimer, hasked, hagreed⟩
      exact ⟨hready, htimer, hasked, hagreed⟩
  | addbaResp tid dialogToken bufSize amsdu success timeout =>
      rw [← show _ = after from congrArg Prod.fst (Option.some.inj hstep)]
      refine hone tid _ false ?_
      rw [BaTid.after_t]
      exact (hflow.flow tid).processAddbaResp (hflow.safe tid).wantStart_eq dialogToken bufSize
        amsdu success timeout hallowed
  | addbaRespTimer tid =>
      simp only [TxBaStation.step] at hstep
      split_ifs at hstep
      rw [← show _ = after from congrArg Prod.fst (Option.some.inj hstep)]
      exact hone tid _ _ (hflow.flow tid).addbaRespTimerExpired
  | sessionTimer tid idle =>
      simp only [TxBaStation.step] at hstep
      split_ifs at hstep
      rw [← show _ = after from congrArg Prod.fst (Option.some.inj hstep)]
      exact hone tid _ _ ((hflow.flow tid).sessionTimerExpired idle)
  | delba tid =>
      rw [← show _ = after from congrArg Prod.fst (Option.some.inj hstep)]
      exact hone tid _ false
        (BaTid.stop_flowing (hflow.safe tid) (hflow.flow tid) hallowed .peerRequest)
  | reserve tid =>
      rw [← show _ = after from congrArg Prod.fst (Option.some.inj hstep)]
      exact hone tid _ false
        (BaTid.stop_flowing (hflow.safe tid) (hflow.flow tid) hallowed .localRequest)
  | tearDown reason =>
      rw [← show _ = after from congrArg Prod.fst (Option.some.inj hstep)]
      exact hflow.tearDown hallowed reason sta.blockBa other
  | block reason =>
      rw [← show _ = after from congrArg Prod.fst (Option.some.inj hstep)]
      exact hflow.tearDown hallowed reason true other
  | unblock =>
      rw [← show _ = after from congrArg Prod.fst (Option.some.inj hstep)]
      exact hflow.flow other

theorem TxBaStation.initial_flowing : TxBaStation.initial.Flowing :=
  ⟨TxBaStation.initial_safe, fun _ => .of_none rfl rfl⟩

theorem BaTid.pending_of_stopped {p : BaTid} {queued blocked destroyed : Bool}
    (hsafe : p.Safe queued blocked) (hflow : p.t.Flowing) (hstays : destroyed = false)
    (hstop : p.t.txqStop = true) : p.Pending queued destroyed := by
  cases htx : p.t.tidTx with
  | none =>
      cases hstart : p.t.tidStartTx with
      | none => exact absurd (hstop.symm.trans (hflow.bare htx hstart)) (by decide)
      | some start =>
          rw [Pending, hstart]
          exact .inr (.inr (.inl ⟨(hsafe.starts start hstart).2.2.1, .inl rfl⟩))
  | some tx =>
      have hlive := hsafe.live tx htx
      have hoper : tx.operational = false := by
        have hflag := hflow.flag tx htx
        rw [hstop] at hflag
        simpa using hflag.symm
      have hdone : queued = true → (tx.startCb = true ∨ tx.stopCb = true ∨ tx.wantStop = true) →
          p.Pending queued destroyed :=
        fun hqueued hmark => .inr (.inr (.inl ⟨hqueued, .inr ⟨tx, htx, hmark⟩⟩))
      generalize hdriver : p.driver = phase at hlive
      cases hlive with
      | starting => exact .inl hdriver
      | stopping => exact .inr (.inl ⟨hdriver, hstays⟩)
      | stopped _ _ _ hcb hqueued => exact hdone hqueued (.inr (.inl hcb))
      | operational _ _ hyes => exact absurd (hyes.symm.trans hoper) (by decide)
      | ready _ hstopping _ hready hcbQueued _ _ hwantQueued _ =>
          by_cases hcb : tx.startCb = true
          · exact hdone (hcbQueued hcb) (.inl hcb)
          · by_cases hwant : tx.wantStop = true
            · exact hdone (hwantQueued hwant) (.inr (.inr hwant))
            · rw [Bool.not_eq_true] at hcb hwant
              rw [hcb] at hready
              rcases hflow.pace tx htx hstopping hwant with ⟨hsent, htimer, _, hagreed⟩
              refine .inr (.inr (.inr ⟨tx, htx, htimer (hsent hready) ?_⟩))
              by_contra hresponse
              rw [Bool.not_eq_false] at hresponse
              exact absurd ((hagreed hresponse hready).symm.trans hoper) (by decide)

/-- Unless the station goes, a stopped TXQ waits for something that is still to come, and
the TXQ of an operational session is not stopped. -/
theorem TxBaStation.txq_not_stuck
    (hreach : ConditionedRun.Reachable (TxBaStation.step hw) BaAllowed .initial sta)
    (tid : Fin 16) :
    ((sta.tid tid).t.txqStop = true →
      sta.destroyed = true ∨ (sta.tid tid).Pending sta.workQueued sta.destroyed) ∧
    ((sta.tid tid).t.tidTx = none → (sta.tid tid).t.tidStartTx = none →
      (sta.tid tid).t.txqStop = false) ∧
    ∀ tx, (sta.tid tid).t.tidTx = some tx →
      ((sta.tid tid).t.txqStop = true ↔ tx.operational = false) := by
  have hflow := @ConditionedRun.Reachable.invariant TxBaStation BaEvent Unit (TxBaStation.step hw)
    BaAllowed .initial TxBaStation.Flowing TxBaStation.initial_flowing
    (fun _ _ _ _ hflow hallowed hstep => hflow.step hallowed hstep) sta hreach
  refine ⟨fun hstop => ?_, (hflow.flow tid).bare, fun tx htx => ?_⟩
  · cases hstays : sta.destroyed with
    | true => exact .inl rfl
    | false =>
        exact .inr (BaTid.pending_of_stopped (hflow.safe tid) (hflow.flow tid) rfl hstop)
  · rw [(hflow.flow tid).flag tx htx, Bool.not_eq_true']

end Station

theorem TxBaStation.asking_allowed (hw : AggHw) :
    ConditionedRun.Reachable (TxBaStation.step hw) BaAllowed .initial (asking hw) := by
  refine .next (.next .start ?_ (show TxBaStation.step hw .initial (.startSession 0 0 false false
    false) = some (_, []) from rfl)) ?_
    (show TxBaStation.step hw _ (.work (fun _ => .accept) (fun _ => false)) = some (_, []) from rfl)
  · exact trivial
  · exact trivial

example : ((TxBaStation.asking .ht).tid 0).t.txqStop = true := rfl

theorem TxBaStation.asking_not_stuck :
    (((asking .ht).tid 0).t.txqStop = true →
      (asking .ht).destroyed = true ∨
        ((asking .ht).tid 0).Pending (asking .ht).workQueued (asking .ht).destroyed) ∧
    (((asking .ht).tid 0).t.tidTx = none →
      ((asking .ht).tid 0).t.tidStartTx = none →
      ((asking .ht).tid 0).t.txqStop = false) ∧
    ∀ tx, ((asking .ht).tid 0).t.tidTx = some tx →
      (((asking .ht).tid 0).t.txqStop = true ↔ tx.operational = false) :=
  txq_not_stuck (asking_allowed .ht) 0

end IwlwifiStack
