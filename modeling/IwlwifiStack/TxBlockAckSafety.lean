import IwlwifiStack.TxBlockAckSteps

/-!
# The driver's view of a TX Block Ack session

A session starts once, becomes operational at most once and only after the peer
accepted it, and is stopped once, whatever happens in between.
-/

namespace IwlwifiStack

/-- A session and what the driver knows of it; `queued` says that the work will run. -/
inductive TidAmpduTx.Live (queued blocked accepted : Bool) : TidAmpduTx → DriverPhase → Prop
  | starting {tx : TidAmpduTx} : tx.wantStart = false → tx.stopping = false →
      tx.operational = false → tx.drvReady = false → tx.startCb = false →
      tx.stopCb = false → blocked = false → (tx.wantStop = true → queued = true) →
      (tx.responseReceived = true → accepted = true) → Live queued blocked accepted tx .starting
  | ready {tx : TidAmpduTx} : tx.wantStart = false → tx.stopping = false →
      tx.operational = false → tx.drvReady = !tx.startCb → (tx.startCb = true → queued = true) →
      tx.stopCb = false → blocked = false → (tx.wantStop = true → queued = true) →
      (tx.responseReceived = true → accepted = true) → Live queued blocked accepted tx .ready
  | operational {tx : TidAmpduTx} : tx.wantStart = false → tx.stopping = false →
      tx.operational = true → tx.drvReady = true → tx.responseReceived = true ∧ accepted = true →
      tx.startCb = false → tx.stopCb = false → blocked = false →
      (tx.wantStop = true → queued = true) → Live queued blocked accepted tx .operational
  | stopping {tx : TidAmpduTx} : tx.wantStart = false → tx.stopping = true →
      tx.operational = false → tx.stopCb = false → Live queued blocked accepted tx .stopping
  | stopped {tx : TidAmpduTx} : tx.wantStart = false → tx.stopping = true →
      tx.operational = false → tx.stopCb = true → queued = true →
      Live queued blocked accepted tx .stopped

/-- A TID whose driver is not confused. -/
structure BaTid.Safe (p : BaTid) (queued blocked : Bool) : Prop where
  starts : ∀ start, p.t.tidStartTx = some start →
    start = .prepared start.dialogToken start.timeout ∧ p.t.tidTx = none ∧ queued = true ∧
      blocked = false
  resting : p.t.tidTx = none → p.driver = .idle ∨ p.driver = .stopped
  live : ∀ tx, p.t.tidTx = some tx → tx.Live queued blocked p.accepted p.driver
  calm : p.confused = false

section Functions

variable {hw : AggHw} {p : BaTid} {queued blocked : Bool} {tx : TidAmpduTx}

theorem TidAmpduTx.Live.mono {accepted : Bool} {phase : DriverPhase}
    (hlive : tx.Live queued blocked accepted phase) : tx.Live true blocked accepted phase := by
  cases hlive with
  | starting h1 h2 h3 h4 h5 h6 h7 _ h9 => exact .starting h1 h2 h3 h4 h5 h6 h7 (fun _ => rfl) h9
  | ready h1 h2 h3 h4 _ h6 h7 _ h9 =>
      exact .ready h1 h2 h3 h4 (fun _ => rfl) h6 h7 (fun _ => rfl) h9
  | operational h1 h2 h3 h4 h5 h6 h7 h8 _ =>
      exact .operational h1 h2 h3 h4 h5 h6 h7 h8 fun _ => rfl
  | stopping h1 h2 h3 h4 => exact .stopping h1 h2 h3 h4
  | stopped h1 h2 h3 h4 _ => exact .stopped h1 h2 h3 h4 rfl

theorem BaTid.Safe.mono (hsafe : p.Safe queued blocked) : p.Safe true blocked := by
  constructor
  · intro start hstart
    rcases hsafe.starts start hstart with ⟨hprepared, hnone, _, hblocked⟩
    exact ⟨hprepared, hnone, rfl, hblocked⟩
  · exact hsafe.resting
  · exact fun tx htx => (hsafe.live tx htx).mono
  · exact hsafe.calm

theorem BaTid.Safe.of_live {t : AmpduTid} {driver : DriverPhase} {accepted : Bool}
    (hstart : t.tidStartTx = none) (htx : t.tidTx = some tx)
    (hlive : tx.Live queued blocked accepted driver) :
    BaTid.Safe ⟨t, driver, accepted, false⟩ queued blocked := by
  constructor
  · intro start hsome
    rw [hstart] at hsome
    cases hsome
  · intro hnone
    rw [htx] at hnone
    cases hnone
  · intro other hother
    rw [← Option.some.inj (htx.symm.trans hother)]
    exact hlive
  · rfl

theorem BaTid.Safe.of_none {t : AmpduTid} {driver : DriverPhase} {accepted : Bool}
    (hstart : t.tidStartTx = none) (htx : t.tidTx = none)
    (hdriver : driver = .idle ∨ driver = .stopped) :
    BaTid.Safe ⟨t, driver, accepted, false⟩ queued blocked := by
  constructor
  · intro start hsome
    rw [hstart] at hsome
    cases hsome
  · exact fun _ => hdriver
  · intro other hother
    rw [htx] at hother
    cases hother
  · rfl

theorem BaTid.Safe.set (hsafe : p.Safe queued blocked) {t : AmpduTid} {now : TidAmpduTx}
    {nowQueued nowBlocked : Bool} (hstart : t.tidStartTx = none) (htx : t.tidTx = some now)
    (hlive : now.Live nowQueued nowBlocked p.accepted p.driver) :
    BaTid.Safe { p with t := t } nowQueued nowBlocked := by
  rcases p with ⟨before, driver, accepted, confused⟩
  have hcalm : confused = false := hsafe.calm
  rw [hcalm]
  exact .of_live hstart htx hlive

/-- The session after `__ieee80211_stop_tx_ba_session`. -/
def TidAmpduTx.stopped (tx : TidAmpduTx) (reason : AggStopReason) : TidAmpduTx :=
  { tx with
    stopping := true
    addbaRespTimer := false
    sessionTimer := false
    operational := false
    stopByPeer := decide (reason = .peerRequest)
    txStop := decide (reason = .localRequest) }

theorem BaTid.Safe.stop (hsafe : p.Safe queued blocked) (answer : StartAnswer)
    (reason : AggStopReason) (nowBlocked : Bool) :
    (p.after answer (p.t.stopTxBaSession reason)).Safe queued nowBlocked := by
  rcases p with ⟨t, driver, accepted, confused⟩
  have hcalm : confused = false := hsafe.calm
  rw [hcalm]
  cases htx : t.tidTx with
  | none =>
      have hstop : t.stopTxBaSession reason = ({ t with tidStartTx := none }, []) := by
        simp only [AmpduTid.stopTxBaSession, htx]
      rw [hstop]
      exact .of_none rfl htx (hsafe.resting htx)
  | some tx =>
      have hstop : t.stopTxBaSession reason =
          if tx.stopping then
            ({ t with tidStartTx := none },
              if reason = .destroySta then [.driver .stopFlushCont] else [])
          else if tx.wantStart then ({ t with tidStartTx := none, tidTx := none }, [])
          else
            ({ t with tidStartTx := none, txqStop := true, tidTx := some (tx.stopped reason) },
              [.driver (if reason = .destroySta then .stopFlush else .stopCont)]) := by
        simp only [AmpduTid.stopTxBaSession, htx]
        rfl
      have hlive := hsafe.live tx htx
      dsimp only at hlive
      -- a session that is not stopping yet goes to the driver
      have hnew : ∀ phase, tx.wantStart = false → tx.stopping = false → tx.stopCb = false →
          DriverPhase.next answer phase .stopCont = some .stopping →
          DriverPhase.next answer phase .stopFlush = some .stopping →
          BaTid.Safe (BaTid.after answer ⟨t, phase, accepted, false⟩ (t.stopTxBaSession reason))
            queued nowBlocked := by
        intro phase hwant hstopping hcb hcont hflush
        unfold BaTid.after
        rw [hstop, hstopping, hwant]
        by_cases hreason : reason = .destroySta
        · simp only [hreason, if_true, Bool.false_eq_true, if_false, List.foldl_cons,
            List.foldl_nil, BaTid.tell, hflush]
          exact .of_live rfl rfl (.stopping hwant rfl rfl hcb)
        · simp only [hreason, Bool.false_eq_true, if_false, List.foldl_cons, List.foldl_nil,
            BaTid.tell, hcont]
          exact .of_live rfl rfl (.stopping hwant rfl rfl hcb)
      have hold : ∀ phase, tx.stopping = true →
          DriverPhase.next answer phase .stopFlushCont = some phase →
          tx.Live queued nowBlocked accepted phase →
          BaTid.Safe (BaTid.after answer ⟨t, phase, accepted, false⟩ (t.stopTxBaSession reason))
            queued nowBlocked := by
        intro phase hstopping hflush hstill
        unfold BaTid.after
        rw [hstop, hstopping]
        by_cases hreason : reason = .destroySta
        · simp only [hreason, if_true, List.foldl_cons, List.foldl_nil, BaTid.tell, hflush]
          exact .of_live rfl htx hstill
        · simp only [hreason, if_true, if_false, List.foldl_nil]
          exact .of_live rfl htx hstill
      cases hlive with
      | starting hwant hstopping _ _ _ hcb => exact hnew .starting hwant hstopping hcb rfl rfl
      | ready hwant hstopping _ _ _ hcb => exact hnew .ready hwant hstopping hcb rfl rfl
      | operational hwant hstopping _ _ _ _ hcb =>
          exact hnew .operational hwant hstopping hcb rfl rfl
      | stopping hwant hstopping hoper hcb =>
          exact hold .stopping hstopping rfl (.stopping hwant hstopping hoper hcb)
      | stopped hwant hstopping hoper hcb hqueued =>
          exact hold .stopped hstopping rfl (.stopped hwant hstopping hoper hcb hqueued)

theorem AmpduTid.stopTxBaSession_start (t : AmpduTid) (reason : AggStopReason) :
    (t.stopTxBaSession reason).1.tidStartTx = none := by
  unfold stopTxBaSession
  dsimp only
  cases t.tidTx with
  | none => rfl
  | some tx =>
      dsimp only
      split_ifs <;> rfl

theorem AmpduTid.stopTxBaSession_stopping (t : AmpduTid) (reason : AggStopReason)
    (htx : (t.stopTxBaSession reason).1.tidTx = some tx) : tx.stopping = true := by
  unfold stopTxBaSession at htx
  dsimp only at htx
  cases hheld : t.tidTx with
  | none =>
      rw [hheld] at htx
      cases htx
  | some other =>
      rw [hheld] at htx
      dsimp only at htx
      by_cases hstopping : other.stopping = true
      · rw [if_pos hstopping] at htx
        have heq : some other = some tx := htx
        rw [← Option.some.inj heq]
        exact hstopping
      · rw [if_neg hstopping] at htx
        by_cases hwant : other.wantStart = true
        · rw [if_pos hwant] at htx
          cases htx
        · rw [if_neg hwant] at htx
          have heq : some _ = some tx := htx
          rw [← Option.some.inj heq]

/-! ## What the driver is told in one go -/

theorem BaTid.tell_t (answer : StartAnswer) (p : BaTid) (out : BaOutput) (t : AmpduTid) :
    ({ p with t := t }).tell answer out = { p.tell answer out with t := t } := by
  cases out with
  | driver action =>
      simp only [tell]
      cases p.driver.next answer action <;> rfl
  | addbaRequest dialogToken bufSize timeout => rfl
  | delba => rfl

theorem BaTid.foldl_tell_t (answer : StartAnswer) (p : BaTid) (out : List BaOutput)
    (t : AmpduTid) :
    out.foldl (tell answer) { p with t := t } =
      { out.foldl (tell answer) p with t := t } := by
  induction out generalizing p with
  | nil => rfl
  | cons output out ih =>
      rw [List.foldl_cons, List.foldl_cons, tell_t]
      exact ih _

theorem BaTid.after_append (answer : StartAnswer) (p : BaTid) (between last : AmpduTid)
    (out others : List BaOutput) :
    p.after answer (last, out ++ others) =
      (p.after answer (between, out)).after answer (last, others) := by
  unfold after
  rw [List.foldl_append]
  simp only [foldl_tell_t]

theorem BaTid.after_nil (answer : StartAnswer) {p : BaTid} {t : AmpduTid} (ht : p.t = t) :
    p.after answer (t, []) = p := by
  subst ht
  rfl

theorem BaTid.Safe.stopCb (hsafe : p.Safe queued blocked) (answer : StartAnswer)
    (hstart : p.t.tidStartTx = none) (htx : p.t.tidTx = some tx) (hcb : tx.stopCb = true)
    (nowQueued : Bool) :
    (p.after answer (p.t.stopTxBaCb { tx with stopCb := false })).Safe nowQueued blocked := by
  rcases p with ⟨t, driver, accepted, confused⟩
  have hcalm : confused = false := hsafe.calm
  have hlive := hsafe.live tx htx
  rw [hcalm]
  dsimp only at hlive hstart ⊢
  cases hlive with
  | starting _ _ _ _ _ hnot =>
      rw [hcb] at hnot
      cases hnot
  | ready _ _ _ _ _ hnot =>
      rw [hcb] at hnot
      cases hnot
  | operational _ _ _ _ _ _ hnot =>
      rw [hcb] at hnot
      cases hnot
  | stopping _ _ _ hnot =>
      rw [hcb] at hnot
      cases hnot
  | stopped _ hstopping =>
      unfold AmpduTid.stopTxBaCb
      rw [if_pos (show ({ tx with stopCb := false } : TidAmpduTx).stopping = true from hstopping)]
      unfold BaTid.after
      split_ifs
      · exact .of_none hstart rfl (.inr rfl)
      · exact .of_none hstart rfl (.inr rfl)

theorem BaTid.Safe.empty (hsafe : p.Safe queued blocked) (hstart : p.t.tidStartTx = none)
    (htx : p.t.tidTx = none) (nowQueued : Bool) : p.Safe nowQueued blocked := by
  constructor
  · intro start hsome
    rw [hstart] at hsome
    cases hsome
  · exact hsafe.resting
  · intro tx hsome
    rw [htx] at hsome
    cases hsome
  · exact hsafe.calm

theorem BaTid.Safe.settled (hsafe : p.Safe queued blocked) (hstart : p.t.tidStartTx = none)
    (htx : p.t.tidTx = some tx) (hstop : tx.wantStop = true → tx.stopping = true)
    (hstartCb : tx.startCb = true → tx.stopping = true) (hstopCb : tx.stopCb = false)
    (nowQueued : Bool) : p.Safe nowQueued blocked := by
  rcases p with ⟨t, driver, accepted, confused⟩
  have hcalm : confused = false := hsafe.calm
  have hlive := hsafe.live tx htx
  rw [hcalm]
  apply BaTid.Safe.of_live hstart htx
  dsimp only at hlive
  cases hlive with
  | starting h1 h2 h3 h4 h5 h6 h7 _ h9 =>
      refine .starting h1 h2 h3 h4 h5 h6 h7 (fun hwant => ?_) h9
      rw [hstop hwant] at h2
      cases h2
  | ready h1 h2 h3 h4 _ h6 h7 _ h9 =>
      refine .ready h1 h2 h3 h4 (fun hcb => ?_) h6 h7 (fun hwant => ?_) h9
      · rw [hstartCb hcb] at h2
        cases h2
      · rw [hstop hwant] at h2
        cases h2
  | operational h1 h2 h3 h4 h5 h6 h7 h8 _ =>
      refine .operational h1 h2 h3 h4 h5 h6 h7 h8 fun hwant => ?_
      rw [hstop hwant] at h2
      cases h2
  | stopping h1 h2 h3 h4 => exact .stopping h1 h2 h3 h4
  | stopped _ _ _ h4 _ =>
      rw [hstopCb] at h4
      cases h4

/-! ## A round of the work -/

theorem AmpduTid.sendAddba_eq (hw : AggHw) (t : AmpduTid) (tx : TidAmpduTx) :
    ∃ num timer sent out,
      t.sendAddbaWithTimeout hw tx =
        ({ t with
            addbaReqNum := num
            tidTx := some { tx with addbaRespTimer := timer, sentAddba := sent } }, out) ∧
      ∀ (answer : StartAnswer) (p : BaTid), out.foldl (BaTid.tell answer) p = p := by
  unfold sendAddbaWithTimeout
  split_ifs
  · exact ⟨t.addbaReqNum, tx.addbaRespTimer, tx.sentAddba, [], rfl, fun _ _ => rfl⟩
  · exact ⟨_, true, true, [_], rfl, fun _ _ => rfl⟩

theorem AmpduTid.startTxBaCb_start {t : AmpduTid} (hstart : t.tidStartTx = none)
    (tx : TidAmpduTx) : (t.startTxBaCb hw tx).1.tidStartTx = none := by
  unfold startTxBaCb
  dsimp only
  split_ifs
  · exact hstart
  · rcases sendAddba_eq hw t { tx with drvReady := true } with ⟨_, _, _, _, heq, _⟩
    rw [heq]
    exact hstart
  · exact hstart
  · exact hstart

theorem TidAmpduTx.Live.stopping_of_blocked {accepted : Bool} {phase : DriverPhase}
    (hlive : tx.Live queued blocked accepted phase) (hblocked : blocked = true) :
    tx.stopping = true := by
  cases hlive with
  | starting _ _ _ _ _ _ hnot => exact absurd (hblocked.symm.trans hnot) (by decide)
  | ready _ _ _ _ _ _ hnot => exact absurd (hblocked.symm.trans hnot) (by decide)
  | operational _ _ _ _ _ _ _ hnot => exact absurd (hblocked.symm.trans hnot) (by decide)
  | stopping _ hstopping => exact hstopping
  | stopped _ hstopping => exact hstopping

theorem BaTid.Safe.startCb (hsafe : p.Safe queued blocked) (answer : StartAnswer)
    (hstart : p.t.tidStartTx = none) (htx : p.t.tidTx = some tx) (hcb : tx.startCb = true) :
    (p.after answer (p.t.startTxBaCb hw { tx with startCb := false })).Safe queued blocked ∧
      ∃ now, (p.after answer (p.t.startTxBaCb hw { tx with startCb := false })).t.tidTx =
        some now ∧ now.startCb = false := by
  rcases p with ⟨t, driver, accepted, confused⟩
  have hcalm : confused = false := hsafe.calm
  have hlive := hsafe.live tx htx
  rw [hcalm]
  dsimp only at hlive hstart
  have hquiet : ∀ now : TidAmpduTx, now.startCb = false →
      now.Live queued blocked accepted driver →
      (BaTid.after answer ⟨t, driver, accepted, false⟩
        ({ t with tidTx := some now }, [])).Safe queued blocked ∧
      ∃ other, (BaTid.after answer ⟨t, driver, accepted, false⟩
        ({ t with tidTx := some now }, [])).t.tidTx = some other ∧ other.startCb = false :=
    fun now hnow hstill => ⟨.of_live hstart rfl hstill, now, rfl, hnow⟩
  unfold AmpduTid.startTxBaCb
  dsimp only
  cases hlive with
  | starting _ _ _ _ hnot =>
      rw [hcb] at hnot
      cases hnot
  | operational _ _ _ _ _ hnot =>
      rw [hcb] at hnot
      cases hnot
  | stopping h1 hstopping h3 h4 =>
      rw [if_pos (show (tx.drvReady || tx.stopping || tx.wantStop) = true by simp [hstopping])]
      exact hquiet _ rfl (.stopping h1 hstopping h3 h4)
  | stopped h1 hstopping h3 h4 h5 =>
      rw [if_pos (show (tx.drvReady || tx.stopping || tx.wantStop) = true by simp [hstopping])]
      exact hquiet _ rfl (.stopped h1 hstopping h3 h4 h5)
  | ready h1 h2 h3 h4 h5 h6 h7 h8 h9 =>
      rw [show (tx.drvReady || tx.stopping || tx.wantStop) = tx.wantStop by simp [h4, hcb, h2]]
      by_cases hwant : tx.wantStop = true
      · rw [if_pos hwant]
        exact hquiet _ rfl (.ready h1 h2 h3 rfl (by rintro ⟨⟩) h6 h7 h8 h9)
      · rw [if_neg hwant]
        by_cases hsent : tx.sentAddba = true
        · rw [if_neg (show ¬(!tx.sentAddba) = true by simp [hsent])]
          by_cases hresponded : tx.responseReceived = true
          · rw [if_pos hresponded]
            unfold AmpduTid.aggTxOperational BaTid.after
            simp only [List.foldl_cons, List.foldl_nil, BaTid.tell, DriverPhase.next,
              h9 hresponded, Bool.not_true, Bool.or_false]
            refine ⟨.of_live hstart rfl ?_, _, rfl, rfl⟩
            rw [if_neg (show ¬AmpduAction.operational tx.bufSize tx.amsdu = .start by rintro ⟨⟩)]
            exact .operational h1 h2 rfl rfl ⟨hresponded, rfl⟩ rfl h6 h7 h8
          · rw [if_neg hresponded]
            exact hquiet _ rfl (.ready h1 h2 h3 rfl (by rintro ⟨⟩) h6 h7 h8 h9)
        · rw [if_pos (show (!tx.sentAddba) = true by simpa using hsent)]
          rcases AmpduTid.sendAddba_eq hw t { tx with startCb := false, drvReady := true } with
            ⟨num, timer, sent, out, heq, hout⟩
          rw [heq]
          unfold BaTid.after
          rw [hout]
          refine ⟨.of_live hstart rfl ?_, _, rfl, rfl⟩
          exact .ready h1 h2 h3 rfl (by rintro ⟨⟩) h6 h7 h8 h9

theorem BaTid.after_t (answer : StartAnswer) (p : BaTid) (result : AmpduTid × List BaOutput) :
    (p.after answer result).t = result.1 := by
  unfold after
  rw [foldl_tell_t]

theorem BaTid.Safe.wantStop (hsafe : p.Safe true blocked) (answer : StartAnswer)
    (hstart : p.t.tidStartTx = none) (htx : p.t.tidTx = some tx)
    (hcb : tx.startCb = true → tx.stopping = true) (result : AmpduTid × List BaOutput)
    (hresult : result = if tx.wantStop then
      ({ p.t with tidTx := some { tx with wantStop := false } }).stopTxBaSession .localRequest
      else (p.t, [])) :
    (p.after answer result).Safe true blocked ∧ result.1.tidStartTx = none ∧
      ∀ now, result.1.tidTx = some now → (now.wantStop = true → now.stopping = true) ∧
        (now.startCb = true → now.stopping = true) := by
  rw [hresult]
  split_ifs with hwant
  · have hcleared : BaTid.Safe { p with
        t := { p.t with tidTx := some { tx with wantStop := false } } } true blocked := by
      have hlive := hsafe.live tx htx
      refine hsafe.set hstart rfl ?_
      generalize p.driver = phase at hlive ⊢
      cases hlive with
      | starting h1 h2 h3 h4 h5 h6 h7 _ h9 =>
          exact .starting h1 h2 h3 h4 h5 h6 h7 (fun _ => rfl) h9
      | ready h1 h2 h3 h4 h5 h6 h7 _ h9 =>
          exact .ready h1 h2 h3 h4 h5 h6 h7 (fun _ => rfl) h9
      | operational h1 h2 h3 h4 h5 h6 h7 h8 _ =>
          exact .operational h1 h2 h3 h4 h5 h6 h7 h8 fun _ => rfl
      | stopping h1 h2 h3 h4 => exact .stopping h1 h2 h3 h4
      | stopped h1 h2 h3 h4 h5 => exact .stopped h1 h2 h3 h4 h5
    refine ⟨hcleared.stop answer .localRequest blocked, AmpduTid.stopTxBaSession_start _ _,
      fun now hnow => ?_⟩
    have hstopping := AmpduTid.stopTxBaSession_stopping _ _ hnow
    exact ⟨fun _ => hstopping, fun _ => hstopping⟩
  · refine ⟨hsafe, hstart, fun now hnow => ?_⟩
    rw [← Option.some.inj (htx.symm.trans hnow)]
    exact ⟨fun hset => absurd hset hwant, hcb⟩

theorem BaTid.Safe.workTidTx (hsafe : p.Safe true blocked) (answer : StartAnswer)
    (hstart : p.t.tidStartTx = none) (htx : p.t.tidTx = some tx) :
    (p.after answer (p.t.workTidTx hw blocked tx)).Safe false blocked := by
  unfold AmpduTid.workTidTx
  dsimp only
  generalize hfirst : (if (!blocked && tx.startCb) = true then
    p.t.startTxBaCb hw { tx with startCb := false } else (p.t, [])) = first
  have hstarted : (p.after answer first).Safe true blocked ∧ first.1.tidStartTx = none ∧
      ∃ now, first.1.tidTx = some now ∧ (now.startCb = true → now.stopping = true) := by
    rw [← hfirst]
    split_ifs with hcb
    · rw [Bool.and_eq_true] at hcb
      rcases hsafe.startCb answer hstart htx hcb.2 with ⟨hnext, now, hnow, hdone⟩
      rw [BaTid.after_t] at hnow
      refine ⟨hnext, ?_, now, hnow, fun hset => ?_⟩
      · exact AmpduTid.startTxBaCb_start hstart _
      · rw [hdone] at hset
        cases hset
    · refine ⟨hsafe, hstart, tx, htx, fun hset => ?_⟩
      rw [hset, Bool.and_true, Bool.not_eq_true', Bool.not_eq_false] at hcb
      exact (hsafe.live tx htx).stopping_of_blocked hcb
  rcases hstarted with ⟨hsafe1, hstart1, tx1, htx1, hcb1⟩
  rw [htx1]
  dsimp only
  generalize hsecond : (if tx1.wantStop = true then
    ({ first.1 with tidTx := some { tx1 with wantStop := false } }).stopTxBaSession
      .localRequest else (first.1, [])) = second
  have hstopped := hsafe1.wantStop answer (by rw [BaTid.after_t]; exact hstart1)
    (by rw [BaTid.after_t]; exact htx1) hcb1 second
    (by rw [BaTid.after_t]; exact hsecond.symm)
  rcases hstopped with ⟨hsafe2, hstart2, hsettled⟩
  have hthird : ∀ result : AmpduTid × List BaOutput,
      p.after answer (result.1, first.2 ++ second.2 ++ result.2) =
        ((p.after answer first).after answer second).after answer result := by
    intro result
    rw [BaTid.after_append answer p second.1, BaTid.after_append answer p first.1]
  have ht2 := BaTid.after_t answer (p.after answer first) second
  cases htx2 : second.1.tidTx with
  | none =>
      dsimp only
      rw [hthird (second.1, []), BaTid.after_nil answer ht2]
      exact hsafe2.empty (by rw [ht2]; exact hstart2) (by rw [ht2]; exact htx2) false
  | some tx2 =>
      dsimp only
      rw [hthird]
      by_cases hcb2 : tx2.stopCb = true
      · rw [if_pos hcb2]
        have hdone := hsafe2.stopCb answer (by rw [ht2]; exact hstart2)
          (by rw [ht2]; exact htx2) hcb2 false
        rw [ht2] at hdone
        exact hdone
      · rw [if_neg hcb2, BaTid.after_nil answer ht2]
        rcases hsettled tx2 htx2 with ⟨hwant, hstartCb⟩
        exact hsafe2.settled (by rw [ht2]; exact hstart2) (by rw [ht2]; exact htx2) hwant
          hstartCb (Bool.not_eq_true _ ▸ hcb2) false

theorem BaTid.after_start (answer : StartAnswer) {p : BaTid}
    (hdriver : p.driver = .idle ∨ p.driver = .stopped) (t : AmpduTid) {out : List BaOutput}
    (hout : ∀ p : BaTid, out.foldl (tell answer) p = p) :
    p.after answer (t, .driver .start :: out) = ⟨t, answer.phase, false, p.confused⟩ := by
  unfold after
  rw [List.foldl_cons, hout]
  unfold tell
  rcases hdriver with hdriver | hdriver
  · simp [hdriver, DriverPhase.next]
  · simp [hdriver, DriverPhase.next]

theorem BaTid.Safe.handleStart (hsafe : p.Safe queued blocked) (answer : StartAnswer)
    {start : TidAmpduTx} (hprepared : start = .prepared start.dialogToken start.timeout)
    (hdriver : p.driver = .idle ∨ p.driver = .stopped) :
    (p.after answer (({ p.t with
      txqStop := true, tidStartTx := none, tidTx := some start }).handleStart hw answer)).Safe
      false false := by
  have hfresh : ∀ (ready sent timer : Bool) (phase : DriverPhase),
      (phase = .starting ∧ ready = false ∨ phase = .ready ∧ ready = true) →
      ({ start with
        wantStart := false, drvReady := ready, addbaRespTimer := timer, sentAddba := sent } :
        TidAmpduTx).Live false false false phase := by
    intro ready sent timer phase hphase
    rw [hprepared]
    rcases hphase with ⟨rfl, rfl⟩ | ⟨rfl, rfl⟩
    · exact .starting rfl rfl rfl rfl rfl rfl rfl (by rintro ⟨⟩) (by rintro ⟨⟩)
    · exact .ready rfl rfl rfl rfl (by rintro ⟨⟩) rfl rfl (by rintro ⟨⟩) (by rintro ⟨⟩)
  have hready : start.drvReady = false := by rw [hprepared]; rfl
  unfold AmpduTid.handleStart
  dsimp only
  cases answer with
  | delayAddba =>
      dsimp only
      rw [BaTid.after_start .delayAddba hdriver _ (fun _ => rfl), hsafe.calm]
      exact .of_live rfl rfl (hready ▸ hfresh false start.sentAddba start.addbaRespTimer
        .starting (.inl ⟨rfl, rfl⟩))
  | refuse =>
      dsimp only
      rw [BaTid.after_start .refuse hdriver _ (fun _ => rfl), hsafe.calm]
      exact .of_none rfl rfl (.inl rfl)
  | accept =>
      rcases AmpduTid.sendAddba_eq hw { p.t with
        txqStop := true, tidStartTx := none, tidTx := some start }
        { start with wantStart := false } with ⟨num, timer, sent, out, heq, hout⟩
      dsimp only
      rw [heq]
      dsimp only
      rw [BaTid.after_start .accept hdriver _ (hout .accept), hsafe.calm]
      exact .of_live rfl rfl (hready ▸ hfresh false sent timer .starting (.inl ⟨rfl, rfl⟩))
  | immediate =>
      rcases AmpduTid.sendAddba_eq hw { p.t with
        txqStop := true, tidStartTx := none, tidTx := some start }
        { start with wantStart := false, drvReady := true } with
        ⟨num, timer, sent, out, heq, hout⟩
      dsimp only
      rw [heq]
      dsimp only
      rw [BaTid.after_start .immediate hdriver _ (hout .immediate), hsafe.calm]
      exact .of_live rfl rfl (hfresh true sent timer .ready (.inr ⟨rfl, rfl⟩))

theorem BaTid.Safe.sessionWork (hsafe : p.Safe true blocked) (frags : Bool)
    (answer : StartAnswer) :
    let result := p.t.sessionWork hw blocked frags answer
    (p.after answer (result.1, result.2.1)).Safe result.2.2 blocked := by
  dsimp only
  unfold AmpduTid.sessionWork
  cases hstart : p.t.tidStartTx with
  | none =>
      cases htx : p.t.tidTx with
      | none =>
          dsimp only
          rw [BaTid.after_nil answer rfl]
          exact hsafe.empty hstart htx false
      | some tx => exact hsafe.workTidTx answer hstart htx
  | some start =>
      rcases hsafe.starts start hstart with ⟨hprepared, hnone, _, hblocked⟩
      dsimp only
      rw [if_neg (show ¬blocked = true by rw [hblocked]; exact Bool.false_ne_true)]
      by_cases hfrags : frags = true
      · rw [if_pos hfrags]
        exact ⟨fun other hother => hsafe.starts other (hstart.trans hother), hsafe.resting,
          hsafe.live, hsafe.calm⟩
      · rw [if_neg hfrags, hnone]
        dsimp only
        rw [hblocked, Option.isSome_none, if_neg Bool.false_ne_true]
        exact hsafe.handleStart answer hprepared (hsafe.resting hnone)

/-! ## Everything else -/

theorem BaTid.Safe.no_start (hsafe : p.Safe queued blocked) (htx : p.t.tidTx = some tx) :
    p.t.tidStartTx = none := by
  by_contra hsome
  rcases Option.ne_none_iff_exists'.mp hsome with ⟨start, hstart⟩
  rw [(hsafe.starts start hstart).2.1] at htx
  cases htx

theorem TidAmpduTx.Live.alike {accepted : Bool} {phase : DriverPhase} {now : TidAmpduTx}
    (hlive : tx.Live queued blocked accepted phase)
    (hbits : now.wantStart = tx.wantStart ∧ now.stopping = tx.stopping ∧
      now.operational = tx.operational ∧ now.drvReady = tx.drvReady ∧
      now.responseReceived = tx.responseReceived ∧ now.startCb = tx.startCb ∧
      now.stopCb = tx.stopCb)
    (hwant : now.wantStop = true → tx.stopping = false → tx.wantStop = true ∨ queued = true) :
    now.Live queued blocked accepted phase := by
  rcases hbits with ⟨b1, b2, b3, b4, b5, b6, b7⟩
  cases hlive with
  | starting h1 h2 h3 h4 h5 h6 h7 h8 h9 =>
      exact .starting (b1 ▸ h1) (b2 ▸ h2) (b3 ▸ h3) (b4 ▸ h4) (b6 ▸ h5) (b7 ▸ h6) h7
        (fun hset => (hwant hset h2).elim h8 id) (b5 ▸ h9)
  | ready h1 h2 h3 h4 h5 h6 h7 h8 h9 =>
      exact .ready (b1 ▸ h1) (b2 ▸ h2) (b3 ▸ h3) (b4 ▸ b6 ▸ h4) (b6 ▸ h5) (b7 ▸ h6) h7
        (fun hset => (hwant hset h2).elim h8 id) (b5 ▸ h9)
  | operational h1 h2 h3 h4 h5 h6 h7 h8 h9 =>
      exact .operational (b1 ▸ h1) (b2 ▸ h2) (b3 ▸ h3) (b4 ▸ h4) (b5 ▸ h5) (b6 ▸ h6) (b7 ▸ h7)
        h8 fun hset => (hwant hset h2).elim h9 id
  | stopping h1 h2 h3 h4 => exact .stopping (b1 ▸ h1) (b2 ▸ h2) (b3 ▸ h3) (b7 ▸ h4)
  | stopped h1 h2 h3 h4 h5 => exact .stopped (b1 ▸ h1) (b2 ▸ h2) (b3 ▸ h3) (b7 ▸ h4) h5

theorem BaTid.Safe.stopSession (hsafe : p.Safe queued blocked) :
    BaTid.Safe { p with t := p.t.stopSession.1 } (queued || p.t.stopSession.2) blocked := by
  unfold AmpduTid.stopSession
  cases htx : p.t.tidTx with
  | none =>
      rw [Bool.or_false]
      exact hsafe
  | some tx =>
      dsimp only
      split_ifs with hstopping
      · rw [Bool.or_false]
        exact hsafe
      · rw [Bool.or_true]
        refine hsafe.set (hsafe.no_start htx) rfl ?_
        exact (hsafe.live tx htx).mono.alike ⟨rfl, rfl, rfl, rfl, rfl, rfl, rfl⟩
          fun _ _ => .inr rfl

theorem BaTid.Safe.timer (hsafe : p.Safe queued blocked) (htx : p.t.tidTx = some tx)
    {now : TidAmpduTx} {t : AmpduTid} (hstart : t.tidStartTx = p.t.tidStartTx)
    (hnow : t.tidTx = some now) (hbits : now.wantStart = tx.wantStart ∧
      now.stopping = tx.stopping ∧ now.operational = tx.operational ∧
      now.drvReady = tx.drvReady ∧ now.responseReceived = tx.responseReceived ∧
      now.startCb = tx.startCb ∧ now.stopCb = tx.stopCb) (hwant : now.wantStop = tx.wantStop) :
    BaTid.Safe { p with t := t } queued blocked :=
  hsafe.set (hstart.trans (hsafe.no_start htx)) hnow
    ((hsafe.live tx htx).alike hbits fun hset _ => .inl (hwant ▸ hset))

theorem BaTid.Safe.addbaRespTimerExpired (hsafe : p.Safe queued blocked) :
    BaTid.Safe { p with t := p.t.addbaRespTimerExpired.1 }
      (queued || p.t.addbaRespTimerExpired.2) blocked := by
  unfold AmpduTid.addbaRespTimerExpired
  cases htx : p.t.tidTx with
  | none =>
      rw [Bool.or_false]
      exact hsafe
  | some tx =>
      have hnext : BaTid.Safe { p with
          t := { p.t with tidTx := some { tx with addbaRespTimer := false } } } queued blocked :=
        hsafe.timer htx rfl rfl ⟨rfl, rfl, rfl, rfl, rfl, rfl, rfl⟩ rfl
      dsimp only
      split_ifs
      · rw [Bool.or_false]
        exact hnext
      · exact hnext.stopSession

theorem BaTid.Safe.sessionTimerExpired (hsafe : p.Safe queued blocked) (idle : Bool) :
    BaTid.Safe { p with t := (p.t.sessionTimerExpired idle).1 }
      (queued || (p.t.sessionTimerExpired idle).2) blocked := by
  unfold AmpduTid.sessionTimerExpired
  cases htx : p.t.tidTx with
  | none =>
      rw [Bool.or_false]
      exact hsafe
  | some tx =>
      have hnext : BaTid.Safe { p with
          t := { p.t with tidTx := some { tx with sessionTimer := false } } } queued blocked :=
        hsafe.timer htx rfl rfl ⟨rfl, rfl, rfl, rfl, rfl, rfl, rfl⟩ rfl
      dsimp only
      split_ifs
      · rw [Bool.or_false]
        exact hnext
      · rw [Bool.or_false]
        exact hsafe
      · exact hnext.stopSession

theorem BaTid.Safe.drvReady (hsafe : p.Safe queued blocked) (hdriver : p.driver = .starting) :
    BaTid.Safe { p with
      t := { p.t with tidTx := p.t.tidTx.map fun tx => { tx with startCb := true } }
      driver := .ready } true blocked := by
  rcases p with ⟨t, driver, accepted, confused⟩
  have hcalm : confused = false := hsafe.calm
  dsimp only at hdriver
  rw [hcalm]
  cases htx : t.tidTx with
  | none =>
      rcases hsafe.resting htx with hrest | hrest
      · exact absurd (hdriver.symm.trans hrest) (by decide)
      · exact absurd (hdriver.symm.trans hrest) (by decide)
  | some tx =>
      have hlive := hsafe.live tx htx
      dsimp only at hlive
      rw [hdriver] at hlive
      cases hlive with
      | starting h1 h2 h3 h4 h5 h6 h7 _ h9 =>
          exact .of_live (hsafe.no_start htx) rfl
            (.ready h1 h2 h3 h4 (fun _ => rfl) h6 h7 (fun _ => rfl) h9)

theorem BaTid.Safe.drvStopped (hsafe : p.Safe queued blocked)
    (hdriver : p.driver = .stopping) :
    BaTid.Safe { p with
      t := { p.t with tidTx := p.t.tidTx.map fun tx => { tx with stopCb := true } }
      driver := .stopped } true blocked := by
  rcases p with ⟨t, driver, accepted, confused⟩
  have hcalm : confused = false := hsafe.calm
  dsimp only at hdriver
  rw [hcalm]
  cases htx : t.tidTx with
  | none =>
      rcases hsafe.resting htx with hrest | hrest
      · exact absurd (hdriver.symm.trans hrest) (by decide)
      · exact absurd (hdriver.symm.trans hrest) (by decide)
  | some tx =>
      have hlive := hsafe.live tx htx
      dsimp only at hlive
      rw [hdriver] at hlive
      cases hlive with
      | stopping h1 h2 h3 _ =>
          exact .of_live (hsafe.no_start htx) rfl (.stopped h1 h2 h3 rfl rfl)

theorem TidAmpduTx.Live.accept {accepted : Bool} {phase : DriverPhase}
    (hlive : tx.Live queued blocked accepted phase) : tx.Live queued blocked true phase := by
  cases hlive with
  | starting h1 h2 h3 h4 h5 h6 h7 h8 _ => exact .starting h1 h2 h3 h4 h5 h6 h7 h8 fun _ => rfl
  | ready h1 h2 h3 h4 h5 h6 h7 h8 _ => exact .ready h1 h2 h3 h4 h5 h6 h7 h8 fun _ => rfl
  | operational h1 h2 h3 h4 h5 h6 h7 h8 h9 =>
      exact .operational h1 h2 h3 h4 ⟨h5.1, rfl⟩ h6 h7 h8 h9
  | stopping h1 h2 h3 h4 => exact .stopping h1 h2 h3 h4
  | stopped h1 h2 h3 h4 h5 => exact .stopped h1 h2 h3 h4 h5

theorem BaTid.Safe.accept (hsafe : p.Safe queued blocked) :
    BaTid.Safe { p with accepted := true } queued blocked :=
  ⟨hsafe.starts, hsafe.resting, fun tx htx => (hsafe.live tx htx).accept, hsafe.calm⟩

theorem BaTid.Safe.hear (hsafe : p.Safe queued blocked) (dialogToken bufSize : ℕ)
    (success : Bool) : (p.hear dialogToken bufSize success).Safe queued blocked := by
  unfold BaTid.hear
  cases p.t.tidTx with
  | none => exact hsafe
  | some tx =>
      dsimp only
      split_ifs
      · exact hsafe.accept
      · exact hsafe

theorem BaTid.hear_t (p : BaTid) (dialogToken bufSize : ℕ) (success : Bool) :
    (p.hear dialogToken bufSize success).t = p.t := by
  unfold hear
  cases p.t.tidTx with
  | none => rfl
  | some tx =>
      dsimp only
      split_ifs <;> rfl

theorem BaTid.Safe.processAddbaResp (hsafe : p.Safe queued blocked)
    (dialogToken bufSize : ℕ) (amsdu success : Bool) (timeout : ℕ) :
    ((p.hear dialogToken (min bufSize hw.maxTxAggregationSubframes) success).after .refuse
      (p.t.processAddbaResp hw dialogToken bufSize amsdu success timeout)).Safe queued
      blocked := by
  generalize hbuf : min bufSize hw.maxTxAggregationSubframes = size
  have hheard := hsafe.hear dialogToken size success
  have ht := p.hear_t dialogToken size success
  have haccepted : ∀ tx, p.t.tidTx = some tx → dialogToken = tx.dialogToken →
      success = true ∧ size ≠ 0 → (p.hear dialogToken size success).accepted = true := by
    intro tx htx htoken hgood
    unfold BaTid.hear
    rw [htx]
    dsimp only
    rw [if_pos ⟨htoken, hgood⟩]
  unfold AmpduTid.processAddbaResp
  dsimp only
  rw [hbuf]
  generalize p.hear dialogToken size success = heard at hheard ht haccepted ⊢
  generalize hshort : (if (!amsdu) = true then { p.t with txqNoAmsdu := true } else p.t) = t
  have hsame : t.tidTx = heard.t.tidTx ∧ t.tidStartTx = heard.t.tidStartTx := by
    rw [← hshort, ht]
    split_ifs
    · exact ⟨rfl, rfl⟩
    · exact ⟨rfl, rfl⟩
  rw [ht.symm] at haccepted
  have hnow : BaTid.Safe { heard with t := t } queued blocked := by
    rcases hsame with ⟨htx, hstart⟩
    exact ⟨fun start hsome => by rw [htx]; exact hheard.starts start (hstart.symm.trans hsome),
      fun hnone => hheard.resting (htx.symm.trans hnone),
      fun tx hsome => hheard.live tx (htx.symm.trans hsome), hheard.calm⟩
  cases htx : t.tidTx with
  | none => exact hnow
  | some tx =>
      have hlive := hnow.live tx htx
      have hstart : t.tidStartTx = none := hnow.no_start htx
      have hquiet : BaTid.Safe { heard with
          t := { t with tidTx := some { tx with addbaRespTimer := false } } } queued blocked :=
        hnow.timer htx rfl rfl ⟨rfl, rfl, rfl, rfl, rfl, rfl, rfl⟩ rfl
      dsimp only at hlive ⊢
      by_cases htoken : dialogToken ≠ tx.dialogToken
      · rw [if_pos htoken]
        exact hnow
      rw [if_neg htoken]
      by_cases hgone : (tx.wantStop || tx.stopping) = true
      · rw [if_pos hgone]
        exact hquiet
      rw [if_neg hgone]
      by_cases hgood : success = true ∧ size ≠ 0
      · rw [if_pos hgood]
        by_cases hresponded : tx.responseReceived = true
        · rw [if_pos hresponded]
          exact hquiet
        rw [if_neg hresponded]
        have htrue : heard.accepted = true :=
          haccepted tx (hsame.1.symm.trans htx) (not_not.mp htoken) hgood
        rw [Bool.or_eq_true, not_or] at hgone
        rcases heard with ⟨_, driver, accepted, confused⟩
        have hcalm : confused = false := hheard.calm
        dsimp only at hlive htrue
        rw [hcalm, htrue]
        rw [htrue] at hlive
        cases hlive with
        | starting h1 h2 h3 h4 h5 h6 h7 h8 _ =>
            rw [if_neg (show ¬tx.drvReady = true by rw [h4]; exact Bool.false_ne_true)]
            exact .of_live hstart rfl (.starting h1 h2 h3 h4 h5 h6 h7 h8 fun _ => rfl)
        | ready h1 h2 h3 h4 h5 h6 h7 h8 _ =>
            by_cases hready : tx.drvReady = true
            · rw [if_pos hready]
              have hcb : tx.startCb = false := by
                rw [h4] at hready
                simpa using hready
              exact .of_live hstart rfl (.operational h1 h2 rfl hready ⟨rfl, rfl⟩ hcb h6 h7 h8)
            · rw [if_neg hready]
              exact .of_live hstart rfl (.ready h1 h2 h3 h4 h5 h6 h7 h8 fun _ => rfl)
        | operational _ _ _ _ hyes => exact absurd hyes.1 hresponded
        | stopping _ hyes => exact absurd hyes hgone.2
        | stopped _ hyes => exact absurd hyes hgone.2
      · rw [if_neg hgood]
        exact hquiet.stop .refuse .declined blocked

end Functions

/-! ## The station -/

section Station

variable {hw : AggHw} {sta after : TxBaStation}

def TxBaStation.Safe (sta : TxBaStation) : Prop :=
  ∀ tid, (sta.tid tid).Safe sta.workQueued sta.blockBa

theorem TxBaStation.Safe.setTid (hsafe : sta.Safe) (tid : Fin 16) {p : BaTid} {queue : Bool}
    (hp : p.Safe (sta.workQueued || queue) sta.blockBa) :
    ((sta.setTid tid p).queueWork queue).Safe := by
  intro other
  change (Function.update sta.tid tid p other).Safe (sta.workQueued || queue) sta.blockBa
  by_cases hother : other = tid
  · rw [hother, Function.update_self]
    exact hp
  · rw [Function.update_of_ne hother]
    cases queue with
    | false =>
        rw [Bool.or_false]
        exact hsafe other
    | true =>
        rw [Bool.or_true]
        exact (hsafe other).mono

theorem TxBaStation.queueWork_false (sta : TxBaStation) : sta.queueWork false = sta := by
  unfold queueWork
  rw [Bool.or_false]

theorem TxBaStation.sessionWork_safe (answers : Fin 16 → StartAnswer) (frags : Fin 16 → Bool)
    {tids : List (Fin 16)} (hnodup : tids.Nodup) (hqueued : sta.workQueued = false)
    (htids : ∀ tid ∈ tids, (sta.tid tid).Safe true sta.blockBa)
    (hothers : ∀ tid, tid ∉ tids → (sta.tid tid).Safe false sta.blockBa) :
    (sta.sessionWork hw answers frags tids).Safe := by
  induction tids generalizing sta with
  | nil =>
      intro tid
      change (sta.tid tid).Safe sta.workQueued sta.blockBa
      rw [hqueued]
      exact hothers tid List.not_mem_nil
  | cons tid tids ih =>
      rw [List.nodup_cons] at hnodup
      rw [List.forall_mem_cons] at htids
      have hround := @BaTid.Safe.sessionWork hw _ _ htids.1 (frags tid) (answers tid)
      unfold TxBaStation.sessionWork
      dsimp only at hround ⊢
      generalize (sta.tid tid).t.sessionWork hw sta.blockBa (frags tid) (answers tid) = result
        at hround ⊢
      generalize (sta.tid tid).after (answers tid) (result.1, result.2.1) = p at hround ⊢
      split_ifs with hagain
      · rw [hagain] at hround
        intro other
        change (Function.update sta.tid tid p other).Safe (sta.workQueued || true) sta.blockBa
        rw [Bool.or_true]
        by_cases hother : other = tid
        · rw [hother, Function.update_self]
          exact hround
        · rw [Function.update_of_ne hother]
          by_cases hlater : other ∈ tids
          · exact htids.2 other hlater
          · exact (hothers other fun hmem => (List.mem_cons.mp hmem).elim hother hlater).mono
      · rw [Bool.not_eq_true] at hagain
        rw [hagain] at hround
        refine ih hnodup.2 hqueued ?_ ?_
        · intro other hlater
          change (Function.update sta.tid tid p other).Safe true sta.blockBa
          have hne : other ≠ tid := fun heq => hnodup.1 (heq ▸ hlater)
          rw [Function.update_of_ne hne]
          exact htids.2 other hlater
        · intro other hnot
          change (Function.update sta.tid tid p other).Safe false sta.blockBa
          by_cases hother : other = tid
          · rw [hother, Function.update_self]
            exact hround
          · rw [Function.update_of_ne hother]
            exact hothers other fun hmem => (List.mem_cons.mp hmem).elim hother hnot

theorem BaTid.Safe.finish {p : BaTid} {queued blocked : Bool} (hsafe : p.Safe queued blocked)
    (hstart : p.t.tidStartTx = none)
    (hstopping : ∀ tx, p.t.tidTx = some tx → tx.stopping = true) :
    p.finish.Safe false blocked := by
  unfold BaTid.finish
  cases htx : p.t.tidTx with
  | none => exact hsafe.empty hstart htx false
  | some tx =>
      dsimp only
      split_ifs with hcb
      · exact hsafe.stopCb .refuse hstart htx hcb false
      · exact hsafe.settled hstart htx (fun _ => hstopping tx htx) (fun _ => hstopping tx htx)
          (Bool.not_eq_true _ ▸ hcb) false

theorem TxBaStation.Safe.tearDown (hsafe : sta.Safe) (reason : AggStopReason) (blocked : Bool) :
    (TxBaStation.tearDown { sta with blockBa := blocked } reason).Safe := by
  have hstop : ∀ tid, ((sta.tid tid).stop reason).Safe sta.workQueued blocked := fun tid =>
    (hsafe tid).stop .refuse reason blocked
  intro tid
  unfold TxBaStation.tearDown
  split_ifs with hdestroy
  · apply (hstop tid).finish
    · unfold BaTid.stop
      rw [BaTid.after_t]
      exact AmpduTid.stopTxBaSession_start _ _
    · intro tx htx
      unfold BaTid.stop at htx
      rw [BaTid.after_t] at htx
      exact AmpduTid.stopTxBaSession_stopping _ _ htx
  · exact hstop tid

theorem TxBaStation.Safe.startSession (hsafe : sta.Safe) (tid : Fin 16) (timeout : ℕ)
    (refused soon noMem : Bool) :
    (sta.startSession tid timeout refused soon noMem).Safe := by
  unfold TxBaStation.startSession
  dsimp only
  split_ifs with hrefused hmany hsoon hbusy hmem
  · exact hsafe
  · exact hsafe
  · exact hsafe
  · exact hsafe
  · exact hsafe
  · rw [not_or, Option.not_isSome_iff_eq_none] at hbusy
    rw [not_or, not_or, Bool.not_eq_true sta.blockBa] at hrefused
    have hone : BaTid.Safe { sta.tid tid with
        t := { (sta.tid tid).t with
          tidStartTx := some (.prepared ((sta.dialogTokenAllocator + 1) % 256) timeout) } }
        true sta.blockBa := by
      have htid := (hsafe tid).mono
      refine ⟨fun start hstart => ?_, htid.resting, htid.live, htid.calm⟩
      rw [← Option.some.inj hstart]
      exact ⟨rfl, hbusy.1, rfl, hrefused.2.2⟩
    intro other
    change (Function.update sta.tid tid _ other).Safe true sta.blockBa
    by_cases hother : other = tid
    · rw [hother, Function.update_self]
      exact hone
    · rw [Function.update_of_ne hother]
      exact (hsafe other).mono

theorem BaTid.Safe.isSome {p : BaTid} {queued blocked : Bool} (hsafe : p.Safe queued blocked)
    (hidle : p.driver ≠ .idle) (hstopped : p.driver ≠ .stopped) : p.t.tidTx.isSome = true := by
  by_contra hnone
  rw [Option.not_isSome_iff_eq_none] at hnone
  exact (hsafe.resting hnone).elim hidle hstopped

theorem BaTid.Safe.unblock {p : BaTid} {queued blocked : Bool} (hsafe : p.Safe queued blocked) :
    p.Safe queued false := by
  constructor
  · intro start hstart
    rcases hsafe.starts start hstart with ⟨hprepared, hnone, hqueued, _⟩
    exact ⟨hprepared, hnone, hqueued, rfl⟩
  · exact hsafe.resting
  · intro tx htx
    have hlive := hsafe.live tx htx
    generalize p.driver = phase at hlive ⊢
    cases hlive with
    | starting h1 h2 h3 h4 h5 h6 _ h8 h9 => exact .starting h1 h2 h3 h4 h5 h6 rfl h8 h9
    | ready h1 h2 h3 h4 h5 h6 _ h8 h9 => exact .ready h1 h2 h3 h4 h5 h6 rfl h8 h9
    | operational h1 h2 h3 h4 h5 h6 h7 _ h9 =>
        exact .operational h1 h2 h3 h4 h5 h6 h7 rfl h9
    | stopping h1 h2 h3 h4 => exact .stopping h1 h2 h3 h4
    | stopped h1 h2 h3 h4 h5 => exact .stopped h1 h2 h3 h4 h5
  · exact hsafe.calm

theorem TxBaStation.Safe.step (hsafe : sta.Safe) {event : BaEvent} {output : List Unit}
    (hstep : sta.step hw event = some (after, output)) : after.Safe := by
  have hone : ∀ tid, ∀ p : BaTid, p.Safe sta.workQueued sta.blockBa → (sta.setTid tid p).Safe := by
    intro tid p hp
    rw [← TxBaStation.queueWork_false (sta.setTid tid p)]
    apply hsafe.setTid tid
    rw [Bool.or_false]
    exact hp
  cases event with
  | startSession tid timeout refused soon noMem =>
      rw [← show _ = after from congrArg Prod.fst (Option.some.inj hstep)]
      exact hsafe.startSession tid timeout refused soon noMem
  | stopSession tid =>
      rw [← show _ = after from congrArg Prod.fst (Option.some.inj hstep)]
      exact hsafe.setTid tid (hsafe tid).stopSession
  | work answers frags =>
      simp only [TxBaStation.step] at hstep
      split_ifs at hstep with hqueued
      rw [← show _ = after from congrArg Prod.fst (Option.some.inj hstep)]
      apply TxBaStation.sessionWork_safe answers frags (List.nodup_finRange 16) rfl
      · intro tid _
        have htid := hsafe tid
        rw [hqueued] at htid
        exact htid
      · intro tid hnot
        exact absurd (List.mem_finRange tid) hnot
  | startCb tid =>
      simp only [TxBaStation.step] at hstep
      split_ifs at hstep with hdriver
      rw [← show _ = after from congrArg Prod.fst (Option.some.inj hstep)]
      have hsome := (hsafe tid).isSome (by rw [hdriver]; decide) (by rw [hdriver]; decide)
      rw [hsome]
      apply hsafe.setTid tid
      rw [Bool.or_true]
      exact (hsafe tid).drvReady hdriver
  | stopCb tid =>
      simp only [TxBaStation.step] at hstep
      split_ifs at hstep with hdriver
      rw [← show _ = after from congrArg Prod.fst (Option.some.inj hstep)]
      have hsome := (hsafe tid).isSome (by rw [hdriver]; decide) (by rw [hdriver]; decide)
      rw [hsome]
      apply hsafe.setTid tid
      rw [Bool.or_true]
      exact (hsafe tid).drvStopped hdriver
  | addbaResp tid dialogToken bufSize amsdu success timeout =>
      rw [← show _ = after from congrArg Prod.fst (Option.some.inj hstep)]
      exact hone tid _ ((hsafe tid).processAddbaResp dialogToken bufSize amsdu success timeout)
  | addbaRespTimer tid =>
      simp only [TxBaStation.step] at hstep
      split_ifs at hstep
      rw [← show _ = after from congrArg Prod.fst (Option.some.inj hstep)]
      exact hsafe.setTid tid (hsafe tid).addbaRespTimerExpired
  | sessionTimer tid idle =>
      simp only [TxBaStation.step] at hstep
      split_ifs at hstep
      rw [← show _ = after from congrArg Prod.fst (Option.some.inj hstep)]
      exact hsafe.setTid tid ((hsafe tid).sessionTimerExpired idle)
  | delba tid =>
      rw [← show _ = after from congrArg Prod.fst (Option.some.inj hstep)]
      exact hone tid _ ((hsafe tid).stop .refuse .peerRequest sta.blockBa)
  | reserve tid =>
      rw [← show _ = after from congrArg Prod.fst (Option.some.inj hstep)]
      exact hone tid _ ((hsafe tid).stop .refuse .localRequest sta.blockBa)
  | tearDown reason =>
      rw [← show _ = after from congrArg Prod.fst (Option.some.inj hstep)]
      exact hsafe.tearDown reason sta.blockBa
  | block reason =>
      rw [← show _ = after from congrArg Prod.fst (Option.some.inj hstep)]
      exact hsafe.tearDown reason true
  | unblock =>
      rw [← show _ = after from congrArg Prod.fst (Option.some.inj hstep)]
      exact fun tid => (hsafe tid).unblock

theorem TxBaStation.initial_safe : TxBaStation.initial.Safe := by
  intro tid
  exact .of_none rfl rfl (.inl rfl)

theorem TxBaStation.safe_of_reachable
    (hreach : ConditionedRun.Reachable (TxBaStation.step hw) (fun _ _ => True) .initial sta) :
    sta.Safe :=
  @ConditionedRun.Reachable.invariant TxBaStation BaEvent Unit (TxBaStation.step hw)
    (fun _ _ => True) .initial TxBaStation.Safe TxBaStation.initial_safe
    (fun _ _ _ _ hsafe _ hstep => hsafe.step hstep) sta hreach

/-- In every run the driver is told what it expects: to start a session that is not
there, to make it operational once, after the driver and the peer agreed, and to stop
it once.  A station that is blocked has only sessions that stop. -/
theorem TxBaStation.driver_in_order
    (hreach : ConditionedRun.Reachable (TxBaStation.step hw) (fun _ _ => True) .initial sta)
    (tid : Fin 16) :
    (sta.tid tid).confused = false ∧
    ((sta.tid tid).t.tidTx = none →
      (sta.tid tid).driver = .idle ∨ (sta.tid tid).driver = .stopped) ∧
    ((sta.tid tid).t.tidStartTx.isSome = true → (sta.tid tid).t.tidTx = none) ∧
    ∀ tx, (sta.tid tid).t.tidTx = some tx →
      (tx.operational = true ↔ (sta.tid tid).driver = .operational) ∧
      (tx.operational = true → tx.drvReady = true ∧ (sta.tid tid).accepted = true) ∧
      (tx.stopping = true ↔
        (sta.tid tid).driver = .stopping ∨ (sta.tid tid).driver = .stopped) ∧
      (sta.blockBa = true → tx.stopping = true) := by
  have hsafe := TxBaStation.safe_of_reachable hreach tid
  refine ⟨hsafe.calm, hsafe.resting, ?_, ?_⟩
  · intro hstart
    rcases Option.isSome_iff_exists.mp hstart with ⟨start, hsome⟩
    exact (hsafe.starts start hsome).2.1
  · intro tx htx
    have hlive := hsafe.live tx htx
    generalize (sta.tid tid).driver = phase at hlive ⊢
    generalize (sta.tid tid).accepted = accepted at hlive ⊢
    cases hlive with
    | starting _ hstop hop _ _ _ hblocked _ _ => simp [hstop, hop, hblocked]
    | ready _ hstop hop _ _ _ hblocked _ _ => simp [hstop, hop, hblocked]
    | operational _ hstop hop hready hresp _ _ hblocked _ =>
        simp [hstop, hop, hready, hresp, hblocked]
    | stopping _ hstop hop _ => simp [hstop, hop]
    | stopped _ hstop hop _ _ => simp [hstop, hop]

end Station

def AggHw.ht : AggHw := ⟨64, false, false, false, false⟩

def TxBaStation.asking (hw : AggHw) : TxBaStation :=
  { TxBaStation.initial.startSession 0 0 false false false with workQueued := false }.sessionWork hw
    (fun _ => .accept) (fun _ => false) (List.finRange 16)

theorem TxBaStation.asking_reachable (hw : AggHw) :
    ConditionedRun.Reachable (TxBaStation.step hw) (fun _ _ => True) .initial (asking hw) :=
  .next (.next .start trivial (show TxBaStation.step hw .initial (.startSession 0 0 false false
    false) = some (_, []) from rfl)) trivial
    (show TxBaStation.step hw _ (.work (fun _ => .accept) (fun _ => false)) = some (_, []) from rfl)

theorem TxBaStation.asking_in_order :
    ((asking .ht).tid 0).confused = false ∧
    (((asking .ht).tid 0).t.tidTx = none →
      ((asking .ht).tid 0).driver = .idle ∨
      ((asking .ht).tid 0).driver = .stopped) ∧
    (((asking .ht).tid 0).t.tidStartTx.isSome = true →
      ((asking .ht).tid 0).t.tidTx = none) ∧
    ∀ tx, ((asking .ht).tid 0).t.tidTx = some tx →
      (tx.operational = true ↔ ((asking .ht).tid 0).driver = .operational) ∧
      (tx.operational = true → tx.drvReady = true ∧
        ((asking .ht).tid 0).accepted = true) ∧
      (tx.stopping = true ↔ ((asking .ht).tid 0).driver = .stopping ∨
        ((asking .ht).tid 0).driver = .stopped) ∧
      ((asking .ht).blockBa = true → tx.stopping = true) :=
  driver_in_order (asking_reachable .ht) 0

end IwlwifiStack
