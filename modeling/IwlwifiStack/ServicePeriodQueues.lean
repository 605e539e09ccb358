import IwlwifiStack.ServicePeriodModel

/-!
# What a service period takes from the queues

The loops of `ieee80211_sta_ps_get_frames` take a prefix of what is queued in the access categories
that are covered, filtered frames first, unless the driver is to release frames.
-/

namespace IwlwifiStack

variable {α : Type*}

def coveredAcs (ignoredAcs : ℕ) : List PsAc :=
  (List.finRange 4).filter fun ac => ignoredAcs &&& acToQosMask ac = 0

namespace SpSta

def queued (sta : SpSta α) (ac : PsAc) : List (SpFrame α) :=
  sta.txFiltered ac ++ sta.psTxBuf ac

def held (sta : SpSta α) (ac : PsAc) : Bool :=
  sta.driverBufferedTids &&& tidsForAc ac ||| sta.txqBufferedTids &&& tidsForAc ac ≠ 0

/-- The frames come from software: no access category up to the first one with frames in software
has others with the driver or in a TXQ. -/
def softwareTurn (sta : SpSta α) : List PsAc → Bool
  | [] => true
  | ac :: acs => !sta.held ac && (!(sta.queued ac).isEmpty || sta.softwareTurn acs)

def dequeue (sta : SpSta α) (counts : PsAc → ℕ) : SpSta α :=
  { sta with
    txFiltered := fun ac => (sta.txFiltered ac).drop (counts ac)
    psTxBuf := fun ac => (sta.psTxBuf ac).drop (counts ac - (sta.txFiltered ac).length) }

variable {sta : SpSta α} {ac : PsAc} {counts : PsAc → ℕ}

theorem queued_dequeue : (sta.dequeue counts).queued ac = (sta.queued ac).drop (counts ac) := by
  rw [queued, queued, List.drop_append]
  rfl

theorem dequeue_zero : sta.dequeue 0 = sta := by
  simp [dequeue]

theorem dequeue_dequeue (counts later : PsAc → ℕ) :
    (sta.dequeue counts).dequeue later = sta.dequeue (counts + later) := by
  unfold dequeue
  rw [SpSta.mk.injEq]
  refine ⟨rfl, rfl, rfl, rfl, ?_, ?_⟩
  · funext ac
    dsimp only
    rw [List.drop_drop, Pi.add_apply]
  · funext ac
    dsimp only
    rw [List.drop_drop, List.length_drop, Pi.add_apply]
    congr 1
    omega

theorem dequeue_single_of_empty (hempty : sta.queued ac = []) (count : ℕ) :
    sta.dequeue (Pi.single ac count) = sta := by
  have hboth := List.append_eq_nil_iff.mp hempty
  unfold dequeue
  cases sta with
  | mk wme sp driverBufferedTids txqBufferedTids txFiltered psTxBuf =>
      rw [SpSta.mk.injEq]
      refine ⟨rfl, rfl, rfl, rfl, ?_, ?_⟩
      · funext other
        by_cases hsame : other = ac
        · rw [hsame]
          dsimp only at hboth ⊢
          rw [hboth.1, List.drop_nil]
        · simp [Pi.single_eq_of_ne hsame]
      · funext other
        by_cases hsame : other = ac
        · rw [hsame]
          dsimp only at hboth ⊢
          rw [hboth.2, List.drop_nil]
        · simp [Pi.single_eq_of_ne hsame]

theorem setTxFiltered_eq_dequeue {skb : SpFrame α} {rest : List (SpFrame α)}
    (hfiltered : sta.txFiltered ac = skb :: rest) :
    sta.setTxFiltered ac rest = sta.dequeue (Pi.single ac 1) := by
  unfold setTxFiltered dequeue
  rw [SpSta.mk.injEq]
  refine ⟨rfl, rfl, rfl, rfl, ?_, ?_⟩
  · funext other
    by_cases hsame : other = ac
    · rw [hsame, hfiltered]
      simp
    · simp [Function.update_of_ne hsame, Pi.single_eq_of_ne hsame]
  · funext other
    by_cases hsame : other = ac
    · rw [hsame, hfiltered]
      simp
    · simp [Pi.single_eq_of_ne hsame]

theorem setPsTxBuf_eq_dequeue {skb : SpFrame α} {rest : List (SpFrame α)}
    (hfiltered : sta.txFiltered ac = []) (hbuffered : sta.psTxBuf ac = skb :: rest) :
    sta.setPsTxBuf ac rest = sta.dequeue (Pi.single ac 1) := by
  unfold setPsTxBuf dequeue
  rw [SpSta.mk.injEq]
  refine ⟨rfl, rfl, rfl, rfl, ?_, ?_⟩
  · funext other
    by_cases hsame : other = ac
    · rw [hsame, hfiltered, List.drop_nil]
    · simp [Pi.single_eq_of_ne hsame]
  · funext other
    by_cases hsame : other = ac
    · rw [hsame, hfiltered, hbuffered]
      simp
    · simp [Function.update_of_ne hsame, Pi.single_eq_of_ne hsame]

end SpSta

namespace SpGet

/-! ## One access category -/

/-- The loop has taken `frames`, and `nFrames` are still wanted behind it. -/
structure TookFrom (ac : PsAc) (wanted : ℕ) (get : SpGet α) (got : SpGet α × ℕ) : Prop where
  sta : got.1.sta = get.sta.dequeue (Pi.single ac wanted)
  frames : got.1.frames = get.frames ++ (get.sta.queued ac).take wanted
  tids : got.1.driverReleaseTids = get.driverReleaseTids
  wanted : got.2 = wanted - (get.sta.queued ac).length

theorem TookFrom.cons {ac : PsAc} {wanted : ℕ} {get next : SpGet α} {got : SpGet α × ℕ}
    (skb : SpFrame α) (rest : List (SpFrame α)) (htook : TookFrom ac wanted next got)
    (hqueued : get.sta.queued ac = skb :: rest)
    (hsta : next.sta = get.sta.dequeue (Pi.single ac 1))
    (hframes : next.frames = get.frames ++ [skb])
    (htids : next.driverReleaseTids = get.driverReleaseTids) :
    TookFrom ac (wanted + 1) get got := by
  have hnext : next.sta.queued ac = rest := by
    rw [hsta, SpSta.queued_dequeue, hqueued, Pi.single_eq_same, List.drop_one, List.tail_cons]
  constructor
  · rw [htook.sta, hsta, SpSta.dequeue_dequeue, ← Pi.single_add, Nat.add_comm]
  · rw [htook.frames, hframes, hnext, hqueued, List.take_succ_cons, List.append_assoc]
    rfl
  · rw [htook.tids, htids]
  · rw [htook.wanted, hnext, hqueued, List.length_cons]
    omega

theorem fromAc_took (ac : PsAc) (wanted : ℕ) (get : SpGet α) :
    TookFrom ac wanted get (fromAc ac wanted get) := by
  induction wanted generalizing get with
  | zero =>
      constructor
      · rw [Pi.single_zero, SpSta.dequeue_zero]
        rfl
      · rw [List.take_zero, List.append_nil]
        rfl
      · rfl
      · rw [Nat.zero_sub]
        rfl
  | succ wanted ih =>
      rw [fromAc]
      cases hfiltered : get.sta.txFiltered ac with
      | cons skb rest =>
          apply TookFrom.cons skb (rest ++ get.sta.psTxBuf ac) (ih _)
          · rw [SpSta.queued, hfiltered, List.cons_append]
          · exact SpSta.setTxFiltered_eq_dequeue hfiltered
          · rfl
          · rfl
      | nil =>
          dsimp only
          cases hbuffered : get.sta.psTxBuf ac with
          | cons skb rest =>
              apply TookFrom.cons skb rest (ih _)
              · rw [SpSta.queued, hfiltered, hbuffered, List.nil_append]
              · exact SpSta.setPsTxBuf_eq_dequeue hfiltered hbuffered
              · rfl
              · rfl
          | nil =>
              have hempty : get.sta.queued ac = [] := by
                rw [SpSta.queued, hfiltered, hbuffered, List.nil_append]
              constructor
              · rw [SpSta.dequeue_single_of_empty hempty]
              · rw [hempty, List.take_nil, List.append_nil]
              · rfl
              · rw [hempty]
                rfl

/-! ## All access categories -/

theorem fromAcs_covered (ignoredAcs : ℕ) (acs : List PsAc) (wanted : ℕ) (get : SpGet α) :
    fromAcs ignoredAcs acs wanted get =
      fromAcs 0 (acs.filter fun ac => ignoredAcs &&& acToQosMask ac = 0) wanted get := by
  induction acs generalizing wanted get with
  | nil => rfl
  | cons ac acs ih =>
      have hnone : ¬(0 &&& acToQosMask ac ≠ 0) := not_not.mpr (Nat.zero_and _)
      rw [fromAcs]
      by_cases hignored : ignoredAcs &&& acToQosMask ac ≠ 0
      · rw [if_pos hignored, List.filter_cons_of_neg (by simpa using hignored)]
        exact ih wanted get
      · rw [if_neg hignored, List.filter_cons_of_pos (by simpa using hignored), fromAcs,
          if_neg hnone]
        simp only [ih]

/-- The loops have taken the first frames of `acs`, in this order. -/
structure Took (acs : List PsAc) (wanted : ℕ) (get got : SpGet α) (counts : PsAc → ℕ) : Prop where
  sta : got.sta = get.sta.dequeue counts
  outside : ∀ ac ∉ acs, counts ac = 0
  parts : got.frames = get.frames ++ acs.flatMap fun ac => (get.sta.queued ac).take (counts ac)
  frames : got.frames = get.frames ++ (acs.flatMap get.sta.queued).take wanted
  left : acs.flatMap got.sta.queued = (acs.flatMap get.sta.queued).drop wanted
  tids : got.driverReleaseTids = get.driverReleaseTids

section Loop

variable {ac : PsAc} {acs : List PsAc} {wanted : ℕ} {get : SpGet α} {taken : SpGet α × ℕ}

theorem TookFrom.last (htook : TookFrom ac wanted get taken)
    (hleft : taken.1.sta.queued ac ≠ []) (hnew : ac ∉ acs) :
    Took (ac :: acs) wanted get taken.1 (Pi.single ac wanted) := by
  have hshort : wanted ≤ (get.sta.queued ac).length := by
    rw [htook.sta, SpSta.queued_dequeue, Pi.single_eq_same, ne_eq, List.drop_eq_nil_iff] at hleft
    exact (not_le.mp hleft).le
  have hother : ∀ other ∈ acs, (Pi.single ac wanted : PsAc → ℕ) other = 0 := by
    intro other hmem
    apply Pi.single_eq_of_ne
    intro hsame
    rw [hsame] at hmem
    exact hnew hmem
  constructor
  · exact htook.sta
  · intro other hmem
    apply Pi.single_eq_of_ne
    intro hsame
    rw [hsame] at hmem
    exact hmem List.mem_cons_self
  · have hnone : (acs.flatMap fun other =>
        (get.sta.queued other).take ((Pi.single ac wanted : PsAc → ℕ) other)) = [] := by
      apply List.flatMap_eq_nil_iff.mpr
      intro other hmem
      rw [hother other hmem, List.take_zero]
    rw [htook.frames, List.flatMap_cons, hnone, Pi.single_eq_same, List.append_nil]
  · rw [htook.frames, List.flatMap_cons, List.take_append_of_le_length hshort]
  · have hkept : acs.flatMap taken.1.sta.queued = acs.flatMap get.sta.queued := by
      apply List.flatMap_congr
      intro other hmem
      rw [htook.sta, SpSta.queued_dequeue, hother other hmem, List.drop_zero]
    rw [List.flatMap_cons, List.flatMap_cons, hkept, htook.sta, SpSta.queued_dequeue,
      Pi.single_eq_same, List.drop_append_of_le_length hshort]
  · exact htook.tids

theorem TookFrom.next {got : SpGet α} {counts : PsAc → ℕ} (htook : TookFrom ac wanted get taken)
    (hrest : Took acs taken.2 taken.1 got counts) (hempty : taken.1.sta.queued ac = [])
    (hnew : ac ∉ acs) :
    Took (ac :: acs) wanted get got (Pi.single ac wanted + counts) := by
  have hlong : (get.sta.queued ac).length ≤ wanted := by
    rw [htook.sta, SpSta.queued_dequeue, Pi.single_eq_same, List.drop_eq_nil_iff] at hempty
    exact hempty
  have hother : ∀ other ∈ acs, (Pi.single ac wanted : PsAc → ℕ) other = 0 := by
    intro other hmem
    apply Pi.single_eq_of_ne
    intro hsame
    rw [hsame] at hmem
    exact hnew hmem
  have hkept : ∀ other ∈ acs, taken.1.sta.queued other = get.sta.queued other := by
    intro other hmem
    rw [htook.sta, SpSta.queued_dequeue, hother other hmem, List.drop_zero]
  have hall : (get.sta.queued ac).take wanted = get.sta.queued ac :=
    List.take_of_length_le hlong
  constructor
  · rw [hrest.sta, htook.sta, SpSta.dequeue_dequeue]
  · intro other hmem
    rw [List.mem_cons, not_or] at hmem
    rw [Pi.add_apply, Pi.single_eq_of_ne hmem.1, hrest.outside other hmem.2]
  · have hparts : (acs.flatMap fun other =>
        (get.sta.queued other).take ((Pi.single ac wanted + counts : PsAc → ℕ) other)) =
          acs.flatMap fun other => (taken.1.sta.queued other).take (counts other) := by
      apply List.flatMap_congr
      intro other hmem
      rw [Pi.add_apply, hother other hmem, Nat.zero_add, hkept other hmem]
    rw [hrest.parts, htook.frames, List.flatMap_cons, hparts, Pi.add_apply, Pi.single_eq_same,
      hrest.outside ac hnew, Nat.add_zero, List.append_assoc]
  · rw [hrest.frames, htook.frames, List.flatMap_congr hkept, htook.wanted, List.flatMap_cons,
      List.take_append, List.append_assoc]
  · have hnone : got.sta.queued ac = [] := by
      rw [hrest.sta, SpSta.queued_dequeue, hempty, List.drop_nil]
    rw [List.flatMap_cons, hnone, List.nil_append, hrest.left, List.flatMap_congr hkept,
      htook.wanted, List.flatMap_cons, List.drop_append, List.drop_eq_nil_of_le hlong,
      List.nil_append]
  · rw [hrest.tids, htook.tids]

theorem Took.nothing (wanted : ℕ) (get : SpGet α) : Took [] wanted get get 0 := by
  constructor
  · rw [SpSta.dequeue_zero]
  · exact fun _ _ => rfl
  · rw [List.flatMap_nil, List.append_nil]
  · rw [List.flatMap_nil, List.take_nil, List.append_nil]
  · exact List.drop_nil.symm
  · rfl

theorem TookFrom.stillTurn (htook : TookFrom ac wanted get taken)
    (hempty : taken.1.sta.queued ac = [])
    (hturn : get.frames ≠ [] ∨ get.sta.softwareTurn (ac :: acs) = true) :
    taken.1.frames ≠ [] ∨ taken.1.sta.softwareTurn acs = true := by
  by_cases hbefore : get.sta.queued ac = []
  · rw [htook.frames, htook.sta, SpSta.dequeue_single_of_empty hbefore, hbefore, List.take_nil,
      List.append_nil]
    apply hturn.imp id
    intro hsoftware
    rw [SpSta.softwareTurn, hbefore, Bool.and_eq_true] at hsoftware
    exact hsoftware.2
  · left
    rw [htook.sta, SpSta.queued_dequeue, Pi.single_eq_same, List.drop_eq_nil_iff] at hempty
    rw [htook.frames, List.take_of_length_le hempty]
    exact List.append_ne_nil_of_right_ne_nil _ hbefore

theorem collectTids_sta (get : SpGet α) (ac : PsAc) : (get.collectTids ac).sta = get.sta := by
  unfold collectTids
  split <;> rfl

theorem collectTids_frames (get : SpGet α) (ac : PsAc) :
    (get.collectTids ac).frames = get.frames := by
  unfold collectTids
  split <;> rfl

theorem collectTids_tids (hframes : get.frames = []) :
    (get.collectTids ac).driverReleaseTids = 0 ↔
      get.driverReleaseTids = 0 ∧ get.sta.held ac = false := by
  unfold collectTids SpSta.held
  rw [if_pos (List.isEmpty_iff.mpr hframes), Nat.or_assoc, Nat.or_eq_zero_iff,
    decide_eq_false_iff_not, not_not]

theorem collectTids_of_software (hnotHeld : get.frames ≠ [] ∨ get.sta.held ac = false)
    (htids : get.driverReleaseTids = 0) : (get.collectTids ac) = get := by
  unfold collectTids
  by_cases hframes : get.frames = []
  · have hheld := hnotHeld.resolve_left (not_not.mpr hframes)
    rw [SpSta.held, decide_eq_false_iff_not, not_not] at hheld
    rw [if_pos (List.isEmpty_iff.mpr hframes), htids, Nat.or_assoc, hheld, Nat.or_zero, ← htids]
  · rw [if_neg fun hempty => hframes (List.isEmpty_iff.mp hempty)]

theorem fromAcs_took (hnodup : acs.Nodup) (htids : get.driverReleaseTids = 0)
    (hturn : get.frames ≠ [] ∨ get.sta.softwareTurn acs = true) :
    ∃ counts, Took acs wanted get (fromAcs 0 acs wanted get) counts := by
  induction acs generalizing wanted get with
  | nil => exact ⟨0, Took.nothing wanted get⟩
  | cons ac acs ih =>
      have hnone : ¬(0 &&& acToQosMask ac ≠ 0) := not_not.mpr (Nat.zero_and _)
      have hnew : ac ∉ acs := (List.nodup_cons.mp hnodup).1
      have hheld : get.frames ≠ [] ∨ get.sta.held ac = false := by
        apply hturn.imp id
        intro hsoftware
        rw [SpSta.softwareTurn, Bool.and_eq_true] at hsoftware
        simpa using hsoftware.1
      have htook := fromAc_took ac wanted get
      rw [fromAcs, if_neg hnone, collectTids_of_software hheld htids]
      dsimp only
      rw [if_pos htids]
      by_cases hmore : (fromAc ac wanted get).1.sta.txFiltered ac ≠ [] ∨
          (fromAc ac wanted get).1.sta.psTxBuf ac ≠ []
      · rw [if_pos hmore]
        have hleft : (fromAc ac wanted get).1.sta.queued ac ≠ [] := by
          rw [SpSta.queued, ne_eq, List.append_eq_nil_iff]
          tauto
        exact ⟨_, htook.last hleft hnew⟩
      · rw [if_neg hmore]
        have hempty : (fromAc ac wanted get).1.sta.queued ac = [] := by
          rw [SpSta.queued, List.append_eq_nil_iff]
          tauto
        have hlater : (fromAc ac wanted get).1.frames ≠ [] ∨
            (fromAc ac wanted get).1.sta.softwareTurn acs = true :=
          htook.stillTurn hempty hturn
        have hrest : ∃ counts, Took acs (fromAc ac wanted get).2 (fromAc ac wanted get).1
            (fromAcs 0 acs (fromAc ac wanted get).2 (fromAc ac wanted get).1) counts :=
          ih (List.nodup_cons.mp hnodup).2 (htook.tids.trans htids) hlater
        rcases hrest with ⟨counts, hrest⟩
        exact ⟨_, htook.next hrest hempty hnew⟩

theorem fromAcs_driver (hframes : get.frames = [])
    (hdriver : get.driverReleaseTids ≠ 0 ∨ get.sta.softwareTurn acs = false) :
    (fromAcs 0 acs wanted get).frames = [] ∧ (fromAcs 0 acs wanted get).sta = get.sta ∧
      (fromAcs 0 acs wanted get).driverReleaseTids ≠ 0 := by
  induction acs generalizing wanted get with
  | nil =>
      have htids := hdriver.resolve_right (by simp [SpSta.softwareTurn])
      exact ⟨hframes, rfl, htids⟩
  | cons ac acs ih =>
      have hnone : ¬(0 &&& acToQosMask ac ≠ 0) := not_not.mpr (Nat.zero_and _)
      have hsta := get.collectTids_sta ac
      have hnothing : (get.collectTids ac).frames = [] :=
        (get.collectTids_frames ac).trans hframes
      rw [fromAcs, if_neg hnone]
      dsimp only
      by_cases htids : (get.collectTids ac).driverReleaseTids = 0
      · rw [if_pos htids]
        rcases (collectTids_tids hframes).mp htids with ⟨hbefore, hheld⟩
        have hturn := hdriver.resolve_left (not_not.mpr hbefore)
        rw [SpSta.softwareTurn, hheld, Bool.not_false, Bool.true_and, Bool.or_eq_false_iff,
          Bool.not_eq_false', List.isEmpty_iff] at hturn
        have htook := fromAc_took ac wanted (get.collectTids ac)
        have hsame : (fromAc ac wanted (get.collectTids ac)).1.sta = get.sta := by
          rw [htook.sta, hsta, SpSta.dequeue_single_of_empty hturn.1]
        have hempty := List.append_eq_nil_iff.mp hturn.1
        rw [hsame, if_neg (by simp [hempty.1, hempty.2])]
        have hrestFrames : (fromAc ac wanted (get.collectTids ac)).1.frames = [] := by
          rw [htook.frames, hnothing, hsta, hturn.1, List.take_nil, List.append_nil]
        have hrestTurn : (fromAc ac wanted (get.collectTids ac)).1.sta.softwareTurn acs = false := by
          rw [hsame, hturn.2]
        rw [← hsame]
        exact ih hrestFrames (Or.inr hrestTurn)
      · rw [if_neg htids]
        dsimp only
        split
        · exact ⟨hnothing, hsta, htids⟩
        · rw [← hsta]
          exact ih hnothing (Or.inl htids)

end Loop

end SpGet

/-! ## Without the contents of the frames -/

namespace SpGet.Erases

variable {erase : SpFrame α → PsFrame} {get : SpGet α} {erased : PsGet}

end SpGet.Erases

end IwlwifiStack
