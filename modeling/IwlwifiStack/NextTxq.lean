import IwlwifiStack.NextTxqModel

/-!
# What the airtime scheduler returns

The loop visits the active queues in turn.  Every visit to a queue whose
station has a negative deficit raises the deficit, so with a positive weight
some queue that passes the AQL check is reached, or a whole turn finds none.

The first queue that passes both checks ends the call.  When it has already
been served in this round, the call returns none, whatever else is waiting.
-/

namespace IwlwifiStack

open ConditionedRun

/-! ## Deficits -/

theorem toInt_weight (weight : BitVec 16) :
    (weight.setWidth 32).toInt = weight.toNat := by
  have hlt := weight.isLt
  have hnat : (weight.setWidth 32).toNat = weight.toNat := by
    rw [BitVec.toNat_setWidth]
    exact Nat.mod_eq_of_lt (by omega)
  rw [BitVec.toInt_eq_toNat_of_lt (by omega), hnat]

theorem toInt_add_weight {x : BitVec 32} (weight : BitVec 16)
    (hroom : x.toInt + weight.toNat < 2 ^ 31) :
    (x + weight.setWidth 32).toInt = x.toInt + weight.toNat := by
  have hlow := x.le_toInt
  rw [BitVec.toInt_add, toInt_weight]
  apply Int.bmod_eq_of_le
  · norm_num at hlow ⊢
    omega
  · norm_num
    omega

theorem staDeficit_topUp {info : AirtimeInfo}
    (hnegative : info.staDeficit < 0) :
    info.topUp.staDeficit = info.staDeficit + info.weight.toNat := by
  have hshift : info.deficit + info.weight.setWidth 32 - info.aqlTxPending =
      info.deficit - info.aqlTxPending + info.weight.setWidth 32 := by
    bv_omega
  change (info.deficit + info.weight.setWidth 32 - info.aqlTxPending).toInt = _
  rw [hshift]
  apply toInt_add_weight
  change info.staDeficit + _ < _
  have hlt := info.weight.isLt
  omega

/-- The numbers leave room for the difference and for one weight more. -/
structure AirtimeInfo.Fits (info : AirtimeInfo) : Prop where
  pending_nonneg : 0 ≤ info.aqlTxPending.toInt
  pending_room : info.aqlTxPending.toInt + info.weight.toNat < 2 ^ 31
  difference : -2 ^ 31 ≤ info.deficit.toInt - info.aqlTxPending.toInt

theorem AirtimeInfo.Fits.staDeficit_eq {info : AirtimeInfo}
    (hfits : info.Fits) :
    info.staDeficit = info.deficit.toInt - info.aqlTxPending.toInt := by
  have hlow := hfits.difference
  have hpending := hfits.pending_nonneg
  have hhigh := @BitVec.toInt_lt 32 info.deficit
  rw [AirtimeInfo.staDeficit, BitVec.toInt_sub]
  apply Int.bmod_eq_of_le
  · norm_num at hlow ⊢
    omega
  · norm_num at hhigh ⊢
    omega

theorem AirtimeInfo.Fits.topUp {info : AirtimeInfo} (hfits : info.Fits)
    (hnegative : info.staDeficit < 0) : info.topUp.Fits := by
  have hroom := hfits.pending_room
  rw [hfits.staDeficit_eq] at hnegative
  have hraised : info.topUp.deficit.toInt =
      info.deficit.toInt + info.weight.toNat :=
    toInt_add_weight info.weight (by omega)
  have hlow := hfits.difference
  have hpending : info.topUp.aqlTxPending = info.aqlTxPending := rfl
  constructor
  · exact hfits.pending_nonneg
  · exact hroom
  · rw [hraised, hpending]
    omega

/-! ## One visit -/

section Visit

variable {τ σ : Type*} [DecidableEq τ] [DecidableEq σ] {env : SchedEnv τ σ}
  {st : SchedState τ σ} {r next : TxqRotation τ σ}

def SchedEnv.Passes (env : SchedEnv τ σ) (st : SchedState τ σ) (txq : τ) :
    Prop :=
  ∀ sta, env.sta txq = some sta →
    0 ≤ (st.airtime sta).staDeficit ∧ env.airtimeCheck st txq = true

def SchedEnv.AqlFails (env : SchedEnv τ σ) (st : SchedState τ σ) (txq : τ) :
    Prop :=
  (env.sta txq).isSome = true ∧ env.airtimeCheck st txq = false

def SchedEnv.Served (env : SchedEnv τ σ) (st : SchedState τ σ) (txq : τ) :
    Prop :=
  st.txqRound txq = env.scheduleRound

def visitedAirtime (airtime : σ → AirtimeInfo) (sta : σ) : σ → AirtimeInfo :=
  if (airtime sta).staDeficit < 0 then
    Function.update airtime sta (airtime sta).topUp
  else airtime

/-- A visit that goes on to the next queue. -/
structure MovesTurn (env : SchedEnv τ σ) (r next : TxqRotation τ σ) (first : τ)
    (rest : List τ) (sta : σ) : Prop where
  order : r.state.activeTxqs = first :: rest
  goes_on : r.head = some first → r.foundEligible = true
  station : env.sta first = some sta
  blocked : (r.state.airtime sta).staDeficit < 0 ∨
    env.airtimeCheck r.state first = false
  state_eq : next.state = { r.state with
    activeTxqs := rest ++ [first]
    airtime := visitedAirtime r.state.airtime sta }
  head_eq : next.head = some (r.head.getD first)
  found_eq : next.foundEligible = (env.airtimeCheck r.state first ||
    if r.head = some first then false else r.foundEligible)

/-- A visit that ends the call. -/
inductive Stops (env : SchedEnv τ σ) (r : TxqRotation τ σ) :
    PickedTxq τ σ → Prop
  | empty (hempty : r.state.activeTxqs = []) : Stops env r ⟨none, r.state⟩
  | turned (first : τ) (rest : List τ)
      (horder : r.state.activeTxqs = first :: rest)
      (hhead : r.head = some first) (hfound : r.foundEligible = false) :
      Stops env r ⟨none, r.state⟩
  | served (first : τ) (rest : List τ)
      (horder : r.state.activeTxqs = first :: rest)
      (hpasses : env.Passes r.state first) :
      Stops env r (env.serve r.state first rest)

omit [DecidableEq τ] in
theorem airtimeCheck_visited (txq : τ) (sta : σ) (activeTxqs : List τ) :
    env.airtimeCheck { st with
      activeTxqs := activeTxqs
      airtime := visitedAirtime st.airtime sta } txq =
      env.airtimeCheck st txq := by
  unfold SchedEnv.airtimeCheck visitedAirtime
  cases env.sta txq with
  | none => rfl
  | some other =>
      by_cases hsame : other = sta
      · rw [hsame]
        by_cases hnegative : (st.airtime sta).staDeficit < 0
        · simp only [if_pos hnegative, Function.update_self]
          rfl
        · simp only [if_neg hnegative]
      · by_cases hnegative : (st.airtime sta).staDeficit < 0
        · simp only [if_pos hnegative, Function.update_of_ne hsame]
        · simp only [if_neg hnegative]

theorem visit_cases (env : SchedEnv τ σ) (r : TxqRotation τ σ) :
    (∃ picked, env.visit r = .inl picked ∧ Stops env r picked) ∨
      ∃ next first rest sta, env.visit r = .inr next ∧
        MovesTurn env r next first rest sta := by
  cases horder : r.state.activeTxqs with
  | nil =>
      left
      refine ⟨⟨none, r.state⟩, ?_, .empty horder⟩
      simp only [SchedEnv.visit, horder]
  | cons first rest =>
      by_cases hturned : r.head = some first ∧ r.foundEligible = false
      · left
        refine ⟨⟨none, r.state⟩, ?_, .turned first rest horder hturned.1
          hturned.2⟩
        simp only [SchedEnv.visit, horder]
        rw [if_pos hturned]
      · have hgoesOn : r.head = some first → r.foundEligible = true := by
          intro hhead
          cases hfound : r.foundEligible with
          | true => rfl
          | false => exact absurd ⟨hhead, hfound⟩ hturned
        cases hsta : env.sta first with
        | none =>
            left
            refine ⟨env.serve r.state first rest, ?_, ?_⟩
            · simp only [SchedEnv.visit, horder]
              rw [if_neg hturned]
              simp only [hsta]
            · apply Stops.served first rest horder
              intro sta hstation
              rw [hsta] at hstation
              cases hstation
        | some sta =>
            by_cases hblocked : (r.state.airtime sta).staDeficit < 0 ∨
                env.airtimeCheck r.state first = false
            · right
              refine ⟨⟨{ r.state with
                  activeTxqs := rest ++ [first]
                  airtime := visitedAirtime r.state.airtime sta },
                some (r.head.getD first), env.airtimeCheck r.state first ||
                  if r.head = some first then false else r.foundEligible⟩,
                first, rest, sta, ?_, ?_⟩
              · simp only [SchedEnv.visit, horder]
                rw [if_neg hturned]
                simp only [hsta]
                rw [if_pos hblocked]
                rfl
              · exact ⟨horder, hgoesOn, hsta, hblocked, rfl, rfl, rfl⟩
            · left
              refine ⟨env.serve r.state first rest, ?_, ?_⟩
              · simp only [SchedEnv.visit, horder]
                rw [if_neg hturned]
                simp only [hsta]
                rw [if_neg hblocked]
              · apply Stops.served first rest horder
                intro other hstation
                rw [hsta, Option.some.injEq] at hstation
                rw [← hstation]
                push Not at hblocked
                exact ⟨hblocked.1, by simpa using hblocked.2⟩

theorem MovesTurn.of_visit (hvisit : env.visit r = .inr next) :
    ∃ first rest sta, MovesTurn env r next first rest sta := by
  rcases visit_cases env r with ⟨picked, hstop, -⟩ |
    ⟨other, first, rest, sta, hmove, hmoves⟩
  · rw [hstop] at hvisit
    cases hvisit
  · rw [hmove] at hvisit
    cases hvisit
    exact ⟨first, rest, sta, hmoves⟩

theorem Stops.of_visit {picked : PickedTxq τ σ}
    (hvisit : env.visit r = .inl picked) : Stops env r picked := by
  rcases visit_cases env r with ⟨other, hstop, hstops⟩ |
    ⟨next, first, rest, sta, hmove, -⟩
  · rw [hstop] at hvisit
    cases hvisit
    exact hstops
  · rw [hmove] at hvisit
    cases hvisit

end Visit

/-! ## The rotation -/

section Rotation

variable {τ σ : Type*} [DecidableEq τ] [DecidableEq σ] {env : SchedEnv τ σ}
  {start : SchedState τ σ} {r next : TxqRotation τ σ}

/-- The state at the label `begin`.  Behind the first queue seen stand the
queues visited since it was last at the head. -/
structure Rotating (env : SchedEnv τ σ) (start : SchedState τ σ)
    (r : TxqRotation τ σ) : Prop where
  perm : r.state.activeTxqs.Perm start.activeTxqs
  rounds : r.state.txqRound = start.txqRound
  weight_eq : ∀ sta, (r.state.airtime sta).weight = (start.airtime sta).weight
  checks : ∀ txq, env.airtimeCheck r.state txq = env.airtimeCheck start txq
  fits : ∀ sta, (start.airtime sta).Fits → (r.state.airtime sta).Fits
  fresh : r.head = none → r.foundEligible = false
  turn : ∀ head, r.head = some head → ∃ ahead behind,
    r.state.activeTxqs = ahead ++ head :: behind ∧
      (r.foundEligible = false →
        ∀ txq ∈ head :: behind, env.AqlFails start txq)

omit [DecidableEq τ] [DecidableEq σ] in
theorem rotating_start (env : SchedEnv τ σ) (start : SchedState τ σ) :
    Rotating env start ⟨start, none, false⟩ := by
  constructor
  · exact List.Perm.refl _
  · rfl
  · intro sta
    rfl
  · intro txq
    rfl
  · intro sta hfits
    exact hfits
  · intro _
    rfl
  · intro head hhead
    cases hhead

omit [DecidableEq τ] in
theorem visitedAirtime_kept {airtime : σ → AirtimeInfo} {sta other : σ} :
    (visitedAirtime airtime sta other).weight = (airtime other).weight ∧
      ((airtime other).Fits → (visitedAirtime airtime sta other).Fits) := by
  unfold visitedAirtime
  split_ifs with hnegative
  · by_cases hsame : other = sta
    · rw [hsame, Function.update_self]
      exact ⟨rfl, fun hfits => hfits.topUp hnegative⟩
    · rw [Function.update_of_ne hsame]
      exact ⟨rfl, id⟩
  · exact ⟨rfl, id⟩

theorem MovesTurn.aqlFails {first : τ} {rest : List τ} {sta : σ}
    (hmoves : MovesTurn env r next first rest sta)
    (hfound : next.foundEligible = false) : env.AqlFails r.state first := by
  rw [hmoves.found_eq, Bool.or_eq_false_iff] at hfound
  constructor
  · rw [hmoves.station]
    rfl
  · exact hfound.1

theorem Rotating.turn_after {first : τ} {rest : List τ} {sta : σ}
    (hrotating : Rotating env start r) (hnodup : start.activeTxqs.Nodup)
    (hmoves : MovesTurn env r next first rest sta) (head : τ)
    (hhead : next.head = some head) :
    ∃ ahead behind, rest ++ [first] = ahead ++ head :: behind ∧
      (next.foundEligible = false →
        ∀ txq ∈ head :: behind, env.AqlFails start txq) := by
  have hfails : next.foundEligible = false → env.AqlFails start first := by
    intro hfound
    have hchecked := hmoves.aqlFails hfound
    rw [SchedEnv.AqlFails, hrotating.checks] at hchecked
    exact hchecked
  rw [hmoves.head_eq, Option.some.injEq] at hhead
  have hnow := hrotating.perm.nodup_iff.mpr hnodup
  by_cases hfirst : head = first
  · refine ⟨rest, [], by rw [hfirst], ?_⟩
    intro hfound txq htxq
    rw [List.mem_singleton.mp htxq, hfirst]
    exact hfails hfound
  · cases hold : r.head with
    | none =>
        rw [hold] at hhead
        exact absurd hhead.symm hfirst
    | some old =>
        rw [hold] at hhead
        change old = head at hhead
        rw [hhead] at hold
        rcases hrotating.turn head hold with ⟨ahead, behind, hsplit, hall⟩
        rw [hmoves.order] at hsplit
        cases ahead with
        | nil =>
            cases hsplit
            exact absurd rfl hfirst
        | cons visited ahead =>
            rw [List.cons_append, List.cons.injEq] at hsplit
            refine ⟨ahead, behind ++ [first], ?_, ?_⟩
            · rw [hsplit.2, List.append_assoc, List.cons_append]
            · intro hfound txq htxq
              have hbefore : r.foundEligible = false := by
                rw [hmoves.found_eq, Bool.or_eq_false_iff, hold] at hfound
                have hne : ¬ some head = some first := by
                  simpa using hfirst
                rw [if_neg hne] at hfound
                exact hfound.2
              rw [← List.cons_append] at htxq
              rcases List.mem_append.mp htxq with hseen | hnew
              · exact hall hbefore txq hseen
              · rw [List.mem_singleton.mp hnew]
                exact hfails hfound

theorem Rotating.visit (hrotating : Rotating env start r)
    (hnodup : start.activeTxqs.Nodup) (hvisit : env.visit r = .inr next) :
    Rotating env start next := by
  rcases MovesTurn.of_visit hvisit with ⟨first, rest, sta, hmoves⟩
  have hturn := hrotating.turn_after hnodup hmoves
  have horder : next.state.activeTxqs = rest ++ [first] := by
    rw [hmoves.state_eq]
  constructor
  · rw [horder]
    apply List.Perm.trans _ hrotating.perm
    rw [hmoves.order]
    exact List.perm_append_singleton first rest
  · rw [hmoves.state_eq]
    exact hrotating.rounds
  · intro other
    rw [hmoves.state_eq]
    exact visitedAirtime_kept.1.trans (hrotating.weight_eq other)
  · intro txq
    rw [hmoves.state_eq, airtimeCheck_visited]
    exact hrotating.checks txq
  · intro other hfits
    rw [hmoves.state_eq]
    exact visitedAirtime_kept.2 (hrotating.fits other hfits)
  · intro hnone
    rw [hmoves.head_eq] at hnone
    cases hnone
  · intro head hhead
    rw [horder]
    exact hturn head hhead

theorem Rotating.reached (hnodup : start.activeTxqs.Nodup)
    (hreached : FuelLoop.Reached env.visit ⟨start, none, false⟩ r) :
    Rotating env start r :=
  hreached.invariant (Rotating env start) (rotating_start env start)
    fun _ _ _ hrotating hvisit => hrotating.visit hnodup hvisit

/-! ## The loop ends -/

def debt (env : SchedEnv τ σ) (st : SchedState τ σ) (txq : τ) : ℕ :=
  match env.sta txq with
  | none => 0
  | some sta =>
      if env.airtimeCheck st txq then (-(st.airtime sta).staDeficit).toNat
      else 0

def totalDebt (env : SchedEnv τ σ) (st : SchedState τ σ) : ℕ :=
  (st.activeTxqs.map (debt env st)).sum

/-- The visits left until the queue first seen ends the call, when no eligible
queue is met before. -/
def visitsLeft (count : ℕ) (r : TxqRotation τ σ) : ℕ :=
  match r.head with
  | none => count
  | some head =>
      (if r.foundEligible then count else 0) + r.state.activeTxqs.idxOf head

def rotationMeasure (env : SchedEnv τ σ) (count : ℕ) (r : TxqRotation τ σ) :
    ℕ :=
  totalDebt env r.state * (2 * count + 1) + visitsLeft count r

theorem MovesTurn.debt_le {first : τ} {rest : List τ} {sta : σ}
    (hmoves : MovesTurn env r next first rest sta) (txq : τ) :
    debt env next.state txq ≤ debt env r.state txq := by
  unfold debt
  cases hsta : env.sta txq with
  | none => exact le_rfl
  | some other =>
      simp only
      rw [hmoves.state_eq, airtimeCheck_visited]
      split_ifs with hcheck
      · simp only [visitedAirtime]
        by_cases hnegative : (r.state.airtime sta).staDeficit < 0
        · rw [if_pos hnegative]
          by_cases hsame : other = sta
          · rw [hsame, Function.update_self, staDeficit_topUp hnegative]
            omega
          · rw [Function.update_of_ne hsame]
        · rw [if_neg hnegative]
      · exact le_rfl

theorem MovesTurn.debt_lt {first : τ} {rest : List τ} {sta : σ}
    (hmoves : MovesTurn env r next first rest sta)
    (hweight : 0 < (r.state.airtime sta).weight.toNat)
    (hcheck : env.airtimeCheck r.state first = true) :
    debt env next.state first < debt env r.state first := by
  have hnegative : (r.state.airtime sta).staDeficit < 0 := by
    rcases hmoves.blocked with hshort | hfails
    · exact hshort
    · rw [hcheck] at hfails
      cases hfails
  unfold debt
  rw [hmoves.station]
  simp only
  rw [hmoves.state_eq, airtimeCheck_visited, if_pos hcheck, if_pos hcheck]
  simp only [visitedAirtime]
  rw [if_pos hnegative, Function.update_self, staDeficit_topUp hnegative]
  omega

theorem MovesTurn.totalDebt_eq {first : τ} {rest : List τ} {sta : σ}
    (hmoves : MovesTurn env r next first rest sta) :
    totalDebt env r.state =
        debt env r.state first + (rest.map (debt env r.state)).sum ∧
      totalDebt env next.state =
        (rest.map (debt env next.state)).sum + debt env next.state first ∧
      (rest.map (debt env next.state)).sum ≤
        (rest.map (debt env r.state)).sum := by
  have horder : next.state.activeTxqs = rest ++ [first] := by
    rw [hmoves.state_eq]
  constructor
  · rw [totalDebt, hmoves.order, List.map_cons, List.sum_cons]
  constructor
  · rw [totalDebt, horder, List.map_append, List.sum_append, List.map_cons,
      List.map_nil, List.sum_singleton]
  · exact List.sum_le_sum fun txq _ => hmoves.debt_le txq

theorem MovesTurn.totalDebt_le {first : τ} {rest : List τ} {sta : σ}
    (hmoves : MovesTurn env r next first rest sta) :
    totalDebt env next.state ≤ totalDebt env r.state := by
  have hsums := hmoves.totalDebt_eq
  have hfirst := hmoves.debt_le first
  omega

theorem MovesTurn.totalDebt_lt {first : τ} {rest : List τ} {sta : σ}
    (hmoves : MovesTurn env r next first rest sta)
    (hweight : 0 < (r.state.airtime sta).weight.toNat)
    (hcheck : env.airtimeCheck r.state first = true) :
    totalDebt env next.state < totalDebt env r.state := by
  have hsums := hmoves.totalDebt_eq
  have hfirst := hmoves.debt_lt hweight hcheck
  omega

theorem MovesTurn.visitsLeft_lt {first : τ} {rest : List τ} {sta : σ}
    (hrotating : Rotating env start r) (hnodup : start.activeTxqs.Nodup)
    (hmoves : MovesTurn env r next first rest sta)
    (hcheck : env.airtimeCheck r.state first = false) :
    visitsLeft start.activeTxqs.length next <
      visitsLeft start.activeTxqs.length r := by
  have hnow := hrotating.perm.nodup_iff.mpr hnodup
  have hlength := hrotating.perm.length_eq
  rw [hmoves.order] at hnow hlength
  have hnew : first ∉ rest := (List.nodup_cons.mp hnow).1
  rw [List.length_cons] at hlength
  have horder : next.state.activeTxqs = rest ++ [first] := by
    rw [hmoves.state_eq]
  have hfound := hmoves.found_eq
  rw [hcheck, Bool.false_or] at hfound
  have hlast : (rest ++ [first]).idxOf first = rest.length := by
    rw [List.idxOf_append_of_notMem hnew, List.idxOf_cons_self, Nat.add_zero]
  cases hhead : r.head with
  | none =>
      have hafter : next.head = some first := by
        rw [hmoves.head_eq, hhead]
        rfl
      have hnone : ¬ (none : Option τ) = some first := by simp
      have hold := hrotating.fresh hhead
      rw [hhead, if_neg hnone] at hfound
      simp only [visitsLeft, hafter, hhead, horder, hlast, hfound, hold,
        Bool.false_eq_true, if_false]
      omega
  | some head =>
      have hafter : next.head = some head := by
        rw [hmoves.head_eq, hhead]
        rfl
      simp only [visitsLeft, hafter, hhead, horder, hmoves.order]
      by_cases hsame : head = first
      · have hwas := hmoves.goes_on (by rw [hhead, hsame])
        rw [hhead, hsame, if_pos rfl] at hfound
        rw [hsame, hlast, hfound, hwas, List.idxOf_cons_self]
        simp only [Bool.false_eq_true, if_false, if_true]
        omega
      · have hne : ¬ some head = some first := by simpa using hsame
        rw [hhead, if_neg hne] at hfound
        have hmem : head ∈ rest := by
          rcases hrotating.turn head hhead with ⟨ahead, behind, hsplit, -⟩
          have hin : head ∈ r.state.activeTxqs := by
            rw [hsplit]
            exact List.mem_append_right _ List.mem_cons_self
          rw [hmoves.order] at hin
          rcases List.mem_cons.mp hin with heq | hrest
          · exact absurd heq hsame
          · exact hrest
        rw [hfound, List.idxOf_append_of_mem hmem, List.idxOf_cons_ne rest
          (Ne.symm hsame)]
        omega

omit [DecidableEq σ] in
theorem Rotating.visitsLeft_le (hrotating : Rotating env start r) :
    visitsLeft start.activeTxqs.length r ≤ 2 * start.activeTxqs.length := by
  unfold visitsLeft
  cases hhead : r.head with
  | none =>
      simp only
      omega
  | some head =>
      have hlength := hrotating.perm.length_eq
      have hindex : r.state.activeTxqs.idxOf head ≤
          r.state.activeTxqs.length := List.idxOf_le_length
      simp only
      split_ifs <;> omega

theorem rotationMeasure_lt (hrotating : Rotating env start r)
    (hnodup : start.activeTxqs.Nodup)
    (hweights : ∀ sta, 0 < (start.airtime sta).weight.toNat)
    (hvisit : env.visit r = .inr next) :
    rotationMeasure env start.activeTxqs.length next <
      rotationMeasure env start.activeTxqs.length r := by
  rcases MovesTurn.of_visit hvisit with ⟨first, rest, sta, hmoves⟩
  unfold rotationMeasure
  cases hcheck : env.airtimeCheck r.state first with
  | true =>
      have hweight : 0 < (r.state.airtime sta).weight.toNat := by
        rw [hrotating.weight_eq]
        exact hweights sta
      have hdebt := hmoves.totalDebt_lt hweight hcheck
      have hleft := (hrotating.visit hnodup hvisit).visitsLeft_le
      have hproduct := Nat.mul_le_mul_right (2 * start.activeTxqs.length + 1)
        (Nat.succ_le_of_lt hdebt)
      rw [Nat.succ_mul] at hproduct
      omega
  | false =>
      have hleft := hmoves.visitsLeft_lt hrotating hnodup hcheck
      have hproduct := Nat.mul_le_mul_right (2 * start.activeTxqs.length + 1)
        hmoves.totalDebt_le
      omega

theorem nextTxq_returns (hnodup : start.activeTxqs.Nodup)
    (hweights : ∀ sta, 0 < (start.airtime sta).weight.toNat) :
    ∃ fuel picked, ∀ more ≥ fuel,
      env.ieee80211NextTxq more start = some picked := by
  by_cases hround : env.scheduleRound = 0
  · refine ⟨0, ⟨none, start⟩, fun more _ => ?_⟩
    rw [SchedEnv.ieee80211NextTxq, if_pos hround]
  · have hruns := FuelLoop.run_of_measure
      (rotationMeasure env start.activeTxqs.length)
      (fun r next hreached hvisit => rotationMeasure_lt
        (Rotating.reached hnodup hreached) hnodup hweights hvisit)
      (Nat.lt_succ_self (rotationMeasure env start.activeTxqs.length
        ⟨start, none, false⟩))
    rcases hruns with ⟨picked, hpicked⟩
    refine ⟨rotationMeasure env start.activeTxqs.length ⟨start, none, false⟩ +
      1, picked, fun more hmore => ?_⟩
    rw [SchedEnv.ieee80211NextTxq, if_neg hround]
    exact FuelLoop.run_mono hpicked hmore

/-! ## The queue that is returned -/

/-- What a call does, from the state `start`. -/
structure NextTxqSpec (env : SchedEnv τ σ) (start : SchedState τ σ)
    (picked : PickedTxq τ σ) : Prop where
  kept : (picked.txq.toList ++ picked.state.activeTxqs).Perm start.activeTxqs
  not_served : ∀ txq ∈ picked.txq, ¬ env.Served start txq
  passes : ∀ txq ∈ picked.txq, env.Passes picked.state txq
  deficit_nonneg : ∀ txq ∈ picked.txq, ∀ sta, env.sta txq = some sta →
    (start.airtime sta).Fits →
      0 ≤ (picked.state.airtime sta).deficit.toInt -
        (picked.state.airtime sta).aqlTxPending.toInt
  marks : ∀ txq, picked.state.txqRound txq =
    if txq ∈ picked.txq then env.scheduleRound else start.txqRound txq
  none_left : picked.txq = none → env.scheduleRound = 0 ∨
    (∀ txq ∈ picked.state.activeTxqs, env.AqlFails picked.state txq) ∨
    ∃ first rest, picked.state.activeTxqs = first :: rest ∧
      env.Passes picked.state first ∧ env.Served picked.state first

omit [DecidableEq σ] in
theorem Rotating.stops {picked : PickedTxq τ σ}
    (hrotating : Rotating env start r) (hnodup : start.activeTxqs.Nodup)
    (hstops : Stops env r picked) : NextTxqSpec env start picked := by
  have hnow := hrotating.perm.nodup_iff.mpr hnodup
  -- without a queue only the reason is left to be shown
  have hnone : ((∀ txq ∈ r.state.activeTxqs, env.AqlFails r.state txq) ∨
      ∃ first rest, r.state.activeTxqs = first :: rest ∧
        env.Passes r.state first ∧ env.Served r.state first) →
      NextTxqSpec env start ⟨none, r.state⟩ := by
    intro hreason
    constructor
    · exact hrotating.perm
    · intro txq htxq
      cases htxq
    · intro txq htxq
      cases htxq
    · intro txq htxq
      cases htxq
    · intro txq
      simp [hrotating.rounds]
    · intro _
      exact Or.inr hreason
  cases hstops with
  | empty hempty =>
      apply hnone
      left
      intro txq htxq
      rw [hempty] at htxq
      cases htxq
  | turned first rest horder hhead hfound =>
      apply hnone
      left
      rcases hrotating.turn first hhead with ⟨ahead, behind, hsplit, hall⟩
      have hfailed := hall hfound
      have hahead : ahead = [] := by
        cases ahead with
        | nil => rfl
        | cons other ahead =>
            rw [horder, List.cons_append, List.cons.injEq] at hsplit
            have hmem : first ∈ rest := by
              rw [hsplit.2]
              exact List.mem_append_right _ List.mem_cons_self
            rw [horder] at hnow
            exact absurd hmem (List.nodup_cons.mp hnow).1
      intro txq htxq
      rw [hsplit, hahead, List.nil_append] at htxq
      rw [SchedEnv.AqlFails, hrotating.checks]
      exact hfailed txq htxq
  | served first rest horder hpasses =>
      unfold SchedEnv.serve
      split_ifs with hserved
      · apply hnone
        right
        exact ⟨first, rest, horder, hpasses, hserved⟩
      · rw [hrotating.rounds] at hserved
        have hpicked : ∀ txq, txq ∈ some first → txq = first := by
          intro txq htxq
          exact (Option.some.inj htxq).symm
        constructor
        · have hperm := hrotating.perm
          rw [horder] at hperm
          exact hperm
        · intro txq htxq
          rw [hpicked txq htxq]
          exact hserved
        · intro txq htxq sta hsta
          rw [hpicked txq htxq] at hsta ⊢
          exact hpasses sta hsta
        · intro txq htxq sta hsta hfits
          rw [hpicked txq htxq] at hsta
          have hdeficit := (hpasses sta hsta).1
          rw [(hrotating.fits sta hfits).staDeficit_eq] at hdeficit
          exact hdeficit
        · intro txq
          by_cases hsame : txq = first
          · rw [hsame]
            simp
          · have hne : ¬ txq ∈ some first := fun h => hsame (hpicked txq h)
            rw [if_neg hne]
            simp only [Function.update_of_ne hsame, hrotating.rounds]
        · intro habsurd
          cases habsurd

theorem nextTxq_spec {fuel : ℕ} {picked : PickedTxq τ σ}
    (hnodup : start.activeTxqs.Nodup)
    (hpicked : env.ieee80211NextTxq fuel start = some picked) :
    NextTxqSpec env start picked := by
  unfold SchedEnv.ieee80211NextTxq at hpicked
  split_ifs at hpicked with hround
  · cases hpicked
    constructor
    · exact List.Perm.refl _
    · intro txq htxq
      cases htxq
    · intro txq htxq
      cases htxq
    · intro txq htxq
      cases htxq
    · intro txq
      simp
    · intro _
      exact Or.inl hround
  · rcases FuelLoop.reached_of_run hpicked with ⟨r, hreached, hstop⟩
    exact (Rotating.reached hnodup hreached).stops hnodup
      (Stops.of_visit hstop)

/-! ## A scheduling round -/

def SchedEvent.Distinct : SchedEvent τ σ → Prop
  | .next _ => True
  | .other activeTxqs _ _ => activeTxqs.Nodup

/-- What a round has returned was not served before and is served since. -/
structure ServedOnce (env : SchedEnv τ σ) (start last : SchedState τ σ)
    (returned : List τ) : Prop where
  once : returned.Nodup
  fresh : ∀ txq ∈ returned, ¬ env.Served start txq
  served : ∀ txq, env.Served last txq ↔
    env.Served start txq ∨ txq ∈ returned
  distinct : last.activeTxqs.Nodup

theorem step_servedOnce {event : SchedEvent τ σ} {last : SchedState τ σ}
    {returned : List τ} (hnodup : start.activeTxqs.Nodup)
    (hdistinct : event.Distinct)
    (hstep : env.step start event = some (last, returned)) :
    ServedOnce env start last returned := by
  cases event with
  | next fuel =>
      simp only [SchedEnv.step, Option.map_eq_some_iff, Prod.mk.injEq] at hstep
      rcases hstep with ⟨picked, hpicked, hlast, hreturned⟩
      have hspec := nextTxq_spec hnodup hpicked
      have hmem : ∀ txq, txq ∈ returned ↔ txq ∈ picked.txq := by
        intro txq
        rw [← hreturned, Option.mem_toList]
        exact Option.mem_def.symm
      have hperm := hspec.kept
      rw [hreturned, hlast] at hperm
      have hall := hperm.nodup_iff.mpr hnodup
      constructor
      · exact (List.nodup_append.mp hall).1
      · intro txq htxq
        exact hspec.not_served txq ((hmem txq).mp htxq)
      · intro txq
        rw [SchedEnv.Served, ← hlast, hspec.marks, hmem]
        by_cases htxq : txq ∈ picked.txq
        · simp [htxq]
        · simp [htxq, SchedEnv.Served]
      · exact (List.nodup_append.mp hall).2.1
  | other activeTxqs airtime aqlTotalPending =>
      simp only [SchedEnv.step, Option.some.injEq, Prod.mk.injEq] at hstep
      rw [← hstep.1, ← hstep.2]
      constructor
      · exact List.nodup_nil
      · intro txq htxq
        cases htxq
      · intro txq
        simp [SchedEnv.Served]
      · exact hdistinct

omit [DecidableEq τ] [DecidableEq σ] in
theorem ServedOnce.trans {mid last : SchedState τ σ}
    {returned later : List τ} (hfirst : ServedOnce env start mid returned)
    (hlast : ServedOnce env mid last later) :
    ServedOnce env start last (returned ++ later) := by
  constructor
  · rw [List.nodup_append]
    refine ⟨hfirst.once, hlast.once, fun txq htxq other hother heq => ?_⟩
    apply hlast.fresh other hother
    rw [← heq]
    exact (hfirst.served txq).mpr (Or.inr htxq)
  · intro txq htxq
    rcases List.mem_append.mp htxq with hearly | hlate
    · exact hfirst.fresh txq hearly
    · intro hserved
      exact hlast.fresh txq hlate ((hfirst.served txq).mpr (Or.inl hserved))
  · intro txq
    rw [hlast.served, hfirst.served, List.mem_append, or_assoc]
  · exact hlast.distinct

theorem round_servedOnce {events : List (SchedEvent τ σ)}
    {last : SchedState τ σ} {returned : List τ}
    (hnodup : start.activeTxqs.Nodup)
    (hdistinct : ∀ event ∈ events, event.Distinct)
    (hrun : run env.step start events = some (last, returned)) :
    ServedOnce env start last returned := by
  induction events generalizing start returned with
  | nil =>
      simp only [run, Option.some.injEq, Prod.mk.injEq] at hrun
      rw [← hrun.1, ← hrun.2]
      constructor
      · exact List.nodup_nil
      · intro txq htxq
        cases htxq
      · intro txq
        simp
      · exact hnodup
  | cons event events ih =>
      simp only [run, Option.bind_eq_some_iff, Option.map_eq_some_iff] at hrun
      rcases hrun with ⟨next, hnext, rest, hrest, heq⟩
      rw [Prod.mk.injEq] at heq
      have hstep := step_servedOnce hnodup
        (hdistinct event List.mem_cons_self) hnext
      rw [← heq.2]
      apply hstep.trans
      apply ih hstep.distinct
      · intro later hlater
        exact hdistinct later (List.mem_cons_of_mem event hlater)
      · rw [hrest, ← heq.1]

/-- Every call returns, does what `NextTxqSpec` says, and with the other calls
of its round returns no queue twice. -/
theorem nextTxq_correct (env : SchedEnv τ σ) (start : SchedState τ σ)
    (hnodup : start.activeTxqs.Nodup)
    (hweights : ∀ sta, 0 < (start.airtime sta).weight.toNat) :
    (∃ fuel picked, (∀ more ≥ fuel,
        env.ieee80211NextTxq more start = some picked) ∧
      NextTxqSpec env start picked) ∧
    ∀ (events : List (SchedEvent τ σ)) (last : SchedState τ σ)
      (returned : List τ), (∀ event ∈ events, event.Distinct) →
      run env.step start events = some (last, returned) →
        ServedOnce env start last returned := by
  constructor
  · have hreturns : ∃ fuel picked, ∀ more ≥ fuel,
        env.ieee80211NextTxq more start = some picked :=
      nextTxq_returns hnodup hweights
    rcases hreturns with ⟨fuel, picked, hpicked⟩
    exact ⟨fuel, picked, hpicked, nextTxq_spec hnodup (hpicked fuel le_rfl)⟩
  · intro events last returned hdistinct hrun
    exact round_servedOnce hnodup hdistinct hrun

end Rotation

/-! ## Two queues -/

section Samples

/-- Queue `false` has been served in round 5, queue `true` has not. -/
def sampleSched : SchedEnv Bool Bool where
  sta := some
  tid := fun _ => 0
  aqlSupported := true
  aqlDisabled := false
  aqlThreshold := 24000
  scheduleRound := 5

def schedState (deficit pending : BitVec 32) (servedRound : BitVec 16) :
    SchedState Bool Bool where
  activeTxqs := [false, true]
  airtime := fun _ => ⟨deficit, pending, 5000, 12000, 256⟩
  aqlTotalPending := 0
  txqRound := fun txq => if txq then 4 else servedRound

/-- Both queues are eligible, but the one at the head has been served.  A
deficit next to the end of its range looks positive. -/
theorem nextTxq_stops_early :
    (sampleSched.ieee80211NextTxq 9 (schedState 100 0 5)).map
        (fun picked => (picked.txq, picked.state.activeTxqs)) =
          some (none, [false, true]) ∧
      sampleSched.Passes (schedState 100 0 5) true ∧
      ¬ sampleSched.Served (schedState 100 0 5) true ∧
      (sampleSched.ieee80211NextTxq 9 (schedState 0x80000000 1 4)).map
        (fun picked => (picked.txq,
          (picked.state.airtime false).deficit.toInt -
            (picked.state.airtime false).aqlTxPending.toInt)) =
          some (some false, -2147483649) := by
  constructor
  · decide +kernel
  constructor
  · intro sta hsta
    cases hsta
    decide +kernel
  constructor
  · unfold SchedEnv.Served
    decide +kernel
  · decide +kernel

/-- Both stations are short of airtime: the first queue gets a second turn. -/
theorem nextTxq_correct_two_queues :
    ∃ fuel picked, (∀ more ≥ fuel, sampleSched.ieee80211NextTxq more
        (schedState (-300) 0 4) = some picked) ∧
      NextTxqSpec sampleSched (schedState (-300) 0 4) picked :=
  (nextTxq_correct sampleSched (schedState (-300) 0 4) (by decide +kernel)
    (by decide +kernel)).1

end Samples

end IwlwifiStack
