import IwlwifiStack.ConditionedRun
import IwlwifiStack.FuelLoop

/-!
# The airtime scheduler

`ieee80211_next_txq` on the active queues of one access category, with
`ieee80211_sta_deficit` and `ieee80211_txq_airtime_check`.  Signed numbers of
the source are words that are read as signed where the source compares them.
-/

namespace IwlwifiStack

/-- The fields of `struct airtime_info` of one access category, and the
`airtime_weight` of the station. -/
structure AirtimeInfo where
  deficit : BitVec 32
  aqlTxPending : BitVec 32
  aqlLimitLow : BitVec 32
  aqlLimitHigh : BitVec 32
  weight : BitVec 16

/-- `ieee80211_sta_deficit`, an s32. -/
def AirtimeInfo.staDeficit (info : AirtimeInfo) : ℤ :=
  (info.deficit - info.aqlTxPending).toInt

def AirtimeInfo.topUp (info : AirtimeInfo) : AirtimeInfo :=
  { info with deficit := info.deficit + info.weight.setWidth 32 }

/-- What does not change in a scheduling round.  A queue without a station is
the multicast queue of an interface. -/
structure SchedEnv (τ σ : Type*) where
  sta : τ → Option σ
  tid : τ → ℕ
  aqlSupported : Bool
  aqlDisabled : Bool
  aqlThreshold : BitVec 32
  scheduleRound : BitVec 16

structure SchedState (τ σ : Type*) where
  activeTxqs : List τ
  airtime : σ → AirtimeInfo
  aqlTotalPending : BitVec 32
  txqRound : τ → BitVec 16

/-- The queue that is returned, and what is left. -/
structure PickedTxq (τ σ : Type*) where
  txq : Option τ
  state : SchedState τ σ

/-- The loop of `ieee80211_next_txq` at its label `begin`. -/
structure TxqRotation (τ σ : Type*) where
  state : SchedState τ σ
  head : Option τ
  foundEligible : Bool

section Model

variable {τ σ : Type*} [DecidableEq τ] [DecidableEq σ]

namespace SchedEnv

/-- `ieee80211_txq_airtime_check`; 16 is `IEEE80211_NUM_TIDS`. -/
def airtimeCheck (env : SchedEnv τ σ) (st : SchedState τ σ) (txq : τ) :
    Bool :=
  if !env.aqlSupported then true
  else if env.aqlDisabled then true
  else
    match env.sta txq with
    | none => true
    | some sta =>
        let info := st.airtime sta
        if env.tid txq = 16 then true
        else if info.aqlTxPending < info.aqlLimitLow then true
        else decide (st.aqlTotalPending < env.aqlThreshold) &&
          decide (info.aqlTxPending < info.aqlLimitHigh)

/-- The queue at the head has passed its checks. -/
def serve (env : SchedEnv τ σ) (st : SchedState τ σ) (first : τ)
    (rest : List τ) : PickedTxq τ σ :=
  if st.txqRound first = env.scheduleRound then ⟨none, st⟩
  else
    ⟨some first,
      { st with
        activeTxqs := rest
        txqRound := Function.update st.txqRound first env.scheduleRound }⟩

/-- From the label `begin` to the next `goto`. -/
def visit (env : SchedEnv τ σ) (r : TxqRotation τ σ) :
    PickedTxq τ σ ⊕ TxqRotation τ σ :=
  match r.state.activeTxqs with
  | [] => .inl ⟨none, r.state⟩
  | first :: rest =>
      if r.head = some first ∧ r.foundEligible = false then
        .inl ⟨none, r.state⟩
      else
        let found := if r.head = some first then false else r.foundEligible
        match env.sta first with
        | none => .inl (env.serve r.state first rest)
        | some sta =>
            let aqlCheck := env.airtimeCheck r.state first
            let deficit := (r.state.airtime sta).staDeficit
            let airtime :=
              if deficit < 0 then
                Function.update r.state.airtime sta (r.state.airtime sta).topUp
              else r.state.airtime
            if deficit < 0 ∨ aqlCheck = false then
              .inr ⟨{ r.state with
                  activeTxqs := rest ++ [first], airtime := airtime },
                some (r.head.getD first), aqlCheck || found⟩
            else .inl (env.serve r.state first rest)

/-- `ieee80211_next_txq`; `none` when it has not returned after `fuel` visits. -/
def ieee80211NextTxq (env : SchedEnv τ σ) (fuel : ℕ) (st : SchedState τ σ) :
    Option (PickedTxq τ σ) :=
  if env.scheduleRound = 0 then some ⟨none, st⟩
  else FuelLoop.run env.visit fuel ⟨st, none, false⟩

end SchedEnv

/-- A call of `ieee80211_next_txq`, or anything else that happens to the
queues and the stations in the same round. -/
inductive SchedEvent (τ σ : Type*)
  | next (fuel : ℕ)
  | other (activeTxqs : List τ) (airtime : σ → AirtimeInfo)
      (aqlTotalPending : BitVec 32)

/-- The output is the queue that is returned. -/
def SchedEnv.step (env : SchedEnv τ σ) (st : SchedState τ σ) :
    SchedEvent τ σ → Option (SchedState τ σ × List τ)
  | .next fuel =>
      (env.ieee80211NextTxq fuel st).map fun picked =>
        (picked.state, picked.txq.toList)
  | .other activeTxqs airtime aqlTotalPending =>
      some (⟨activeTxqs, airtime, aqlTotalPending, st.txqRound⟩, [])

end Model

end IwlwifiStack
