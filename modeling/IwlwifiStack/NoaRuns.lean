import IwlwifiStack.ConditionedRun
import IwlwifiStack.NoaUpdate

/-!
# Runs of a Notice of Absence

An attribute is parsed, and calls of `ieee80211_update_p2p_noa` follow.  While no call finds a
descriptor behind its last window, or a window that the look ahead of the call before may have
passed, each state shows the absences of the schedules, and the time of the next change is not too
late.
-/

namespace IwlwifiStack

/-- The state with the time of the last call, not wrapped. -/
structure NoaRun where
  data : NoaData
  tsf : ℤ

namespace NoaRun

def start (attr : Fin 4 → NoaDesc) (origin : ℤ) : NoaRun :=
  ⟨parseP2pNoa attr (u32 origin), origin⟩

def step (run : NoaRun) (t : ℤ) : Option (NoaRun × List Unit) :=
  some (⟨run.data.update (u32 t), t⟩, [])

end NoaRun

/-- The attribute as it is parsed: the first windows of repeating descriptors are near, no
descriptor of one window is over, and one that is refused beside others is ahead. -/
structure NoaParsable (attr : Fin 4 → NoaDesc) (origin : ℤ) : Prop where
  interval : ∀ i, (attr i).Counts → (attr i).Valid → (attr i).count ≠ 1 →
    (attr i).interval.toNat ≤ 2 ^ 31
  firstEnd : ∀ i, (attr i).Counts → (attr i).Valid → (attr i).count ≠ 1 →
    ((attr i).schedule origin).windowEnd 0 - origin ≤ 2 ^ 31
  firstStart : ∀ i, (attr i).Counts → (attr i).Valid → (attr i).count ≠ 1 →
    origin - ((attr i).schedule origin).first < 2 ^ 31
  oneWindow : ∀ i, (attr i).Counts → (attr i).count = 1 →
    origin < ((attr i).schedule origin).windowEnd 0
  near : ∀ i, (attr i).Counts → (attr i).Valid → ∀ k, ((attr i).schedule origin).Has k →
    ((attr i).schedule origin).windowStart k ≤ origin →
    origin < ((attr i).schedule origin).windowEnd k →
      origin - ((attr i).schedule origin).windowStart k ≤ 2 ^ 31 ∧
        ((attr i).schedule origin).windowEnd k - origin < 2 ^ 31
  refused : (∃ j, (attr j).Counts ∧ (attr j).Valid) →
    ∀ i, (attr i).Counts → ¬(attr i).Valid → (attr i).LiesAhead attr origin origin

/-- A call at `t` behind one at `last`: no schedule has run out since the attribute was parsed, and
before a window ends that is not over, the GO was present in between; only the last window may have
been under way all the time. -/
structure NoaKept (attr : Fin 4 → NoaDesc) (origin last t : ℤ) : Prop where
  later : last ≤ t
  soon : t < last + 2 ^ 31
  left : ∀ i, (attr i).Counts → (attr i).Valid → ((attr i).schedule origin).OverAt t →
    ((attr i).schedule origin).OverAt origin
  present : ∀ i, (attr i).Counts → (attr i).Valid → ∀ k, ((attr i).schedule origin).Has k →
    t < ((attr i).schedule origin).windowEnd k →
      (((attr i).schedule origin).FirstOpen last k ∧ ¬((attr i).schedule origin).Has (k + 1)) ∨
        ∃ u, last ≤ u ∧ u < ((attr i).schedule origin).windowEnd k ∧
          ∀ j, ¬(attr j).AbsentAt origin u
  near : ∀ i, (attr i).Counts → (attr i).Valid → ∀ k, ((attr i).schedule origin).Has k →
    ((attr i).schedule origin).windowStart k ≤ t → t < ((attr i).schedule origin).windowEnd k →
      t - ((attr i).schedule origin).windowStart k ≤ 2 ^ 31 ∧
        ((attr i).schedule origin).windowEnd k - t < 2 ^ 31
  refused : ∀ i, (attr i).Counts → ¬(attr i).Valid → (attr i).LiesAhead attr origin t

variable {attr : Fin 4 → NoaDesc} {origin t : ℤ}

theorem NoaDesc.first_lt (desc : NoaDesc) (hle : origin ≤ t) :
    (desc.schedule origin).first - t < 2 ^ 31 := by
  have hlt : (desc.start - u32 origin).toInt < 2 ^ 31 := BitVec.toInt_lt
  rw [NoaDesc.schedule]
  dsimp only
  omega

theorem NoaParsable.schedules (hparsable : NoaParsable attr origin) (hle : origin ≤ t)
    (hrefused : ∀ i, (attr i).Counts → ¬(attr i).Valid → (attr i).LiesAhead attr origin t) :
    NoaSchedules attr origin t := by
  constructor
  · intro i hcounts hvalid
    exact NoaDesc.schedule_spec hcounts hvalid (hparsable.interval i hcounts hvalid)
  · intro i hcounts hvalid hrepeats
    have hend := hparsable.firstEnd i hcounts hvalid (NoaDesc.schedule_single hrepeats)
    omega
  · exact fun i _ _ => (attr i).first_lt hle
  · exact hrefused

/-! ## A call -/

section Call

variable {last ahead : ℤ} {data : NoaData} {i : Fin 4}

theorem NoaKept.not_passed {k : ℕ} (hkept : NoaKept attr origin last t)
    (hcovered : NoaCovered attr origin last ahead) (hcounts : (attr i).Counts)
    (hvalid : (attr i).Valid) (hhas : ((attr i).schedule origin).Has k)
    (hopen : t < ((attr i).schedule origin).windowEnd k)
    (hpassed : ((attr i).schedule origin).windowEnd k ≤ last + ahead) :
    ((attr i).schedule origin).FirstOpen last k ∧ ¬((attr i).schedule origin).Has (k + 1) := by
  rcases hkept.present i hcounts hvalid k hhas hopen with hlast | ⟨u, hle, hlt, hpresent⟩
  · exact hlast
  · rcases hcovered u hle (by omega) with ⟨j, habsent⟩
    exact absurd habsent (hpresent j)

/-- A schedule of which nothing is tracked any more is over. -/
theorem NoaKept.over (hkept : NoaKept attr origin last t)
    (hfollowed : data.Followed attr origin last ahead) (hcounts : (attr i).Counts)
    (hvalid : (attr i).Valid) (hover : ((attr i).schedule origin).OverAt (last + ahead))
    (hspent : ((attr i).schedule origin).OverAt last ∨
      ∃ k, ((attr i).schedule origin).Has (k + 1) ∧
        last < ((attr i).schedule origin).windowEnd k) :
    ((attr i).schedule origin).OverAt t := by
  rcases hspent with hended | ⟨k, hnext, hlater⟩
  · exact hended.mono hkept.later
  · intro m hhas
    by_contra hopen
    have hlast := hkept.not_passed hfollowed.covered hcounts hvalid hhas (not_le.mp hopen)
      (hover m hhas)
    have hlt : k < m := by
      by_contra hle
      exact hlast.2 (hnext.mono (by omega))
    have hend := hlast.1.before k hlt
    omega

theorem NoaKept.ready (hkept : NoaKept attr origin last t)
    (hparsable : NoaParsable attr origin) (hle : origin ≤ last)
    (hfollowed : data.Followed attr origin last ahead) : data.Ready attr origin t := by
  have hlater := hkept.later
  have hschedules := hparsable.schedules (hle.trans hlater) hkept.refused
  constructor
  · exact hschedules
  · intro i hcounts hvalid
    have hs := hschedules.schedule i hcounts hvalid
    have hsoon := hkept.soon
    rcases hfollowed.tracks i hcounts hvalid with
      ⟨hnone, hover, hspent⟩ | ⟨k, hon, hopen, hpassed⟩
    · exact Or.inl ⟨hnone, hkept.over hfollowed hcounts hvalid hover hspent⟩
    · right
      refine ⟨hon.count_pos.ne', ?_⟩
      have hbehind : k = 0 ∨ ((attr i).schedule origin).windowEnd (k - 1) ≤ t := by
        by_cases hzero : k = 0
        · exact Or.inl hzero
        · right
          by_contra hnot
          have hlast := hkept.not_passed hfollowed.covered hcounts hvalid
            (hon.has.mono (Nat.sub_le k 1)) (not_le.mp hnot) (hpassed.resolve_left hzero)
          rw [Nat.sub_add_cancel (by omega)] at hlast
          exact hlast.2 hon.has
      have hmoves := hon.moves hs hbehind (by omega) (hschedules.first i hcounts hvalid)
      apply hmoves.resolve_left
      intro hended
      have hend := hkept.left i hcounts hvalid hended.1 k hon.has
      omega
  · exact hkept.near
  · exact hfollowed.refused
  · exact hfollowed.uncounted

end Call

/-! ## The attribute -/

theorem NoaDesc.parse_counts {desc : NoaDesc} (tsf : BitVec 32) :
    (desc.parse tsf).2 = true ↔ desc.Counts ∧ desc.Valid := by
  unfold NoaDesc.parse NoaDesc.Counts NoaDesc.Valid
  by_cases hnone : desc.count = 0 ∨ desc.duration = 0
  · rw [if_pos hnone]
    constructor
    · intro hin
      cases hin
    · intro hin
      tauto
  · rw [if_neg hnone]
    rw [not_or] at hnone
    by_cases hrefused : desc.count > 1 ∧ desc.interval < desc.duration
    · rw [if_pos hrefused]
      constructor
      · intro hin
        cases hin
      · rintro ⟨_, hone | hle⟩
        · omega
        · exact absurd hrefused.2 (BitVec.not_lt.mpr hle)
    · rw [if_neg hrefused]
      constructor
      · intro _
        refine ⟨hnone, ?_⟩
        by_cases hone : desc.count = 1
        · exact Or.inl hone
        · right
          by_contra hlt
          have hmany : desc.count > 1 := by
            have hpos := hnone.1
            omega
          exact hrefused ⟨hmany, BitVec.not_le.mp hlt⟩
      · exact fun _ => rfl

theorem NoaDesc.parse_valid {desc : NoaDesc} (hcounts : desc.Counts) (hvalid : desc.Valid)
    (tsf : BitVec 32) : (desc.parse tsf).1 = (desc.extend tsf).1 := by
  have hparsed := (NoaDesc.parse_counts tsf).mpr ⟨hcounts, hvalid⟩
  unfold NoaDesc.parse at hparsed ⊢
  split at hparsed
  case isTrue => cases hparsed
  case isFalse hsome =>
    rw [if_neg hsome]
    split at hparsed
    case isTrue => cases hparsed
    case isFalse haccepted => rw [if_neg haccepted]

theorem NoaDesc.parse_refused {desc : NoaDesc} (hcounts : desc.Counts) (hinvalid : ¬desc.Valid)
    (tsf : BitVec 32) : (desc.parse tsf).1 = desc := by
  unfold NoaDesc.Valid at hinvalid
  rw [not_or] at hinvalid
  have hmany : desc.count > 1 := by
    have hpos := hcounts.1
    omega
  unfold NoaDesc.parse
  rw [if_neg (not_or.mpr hcounts), if_pos ⟨hmany, BitVec.not_le.mp hinvalid.2⟩]

theorem NoaDesc.parse_uncounted {desc : NoaDesc} (hcounts : ¬desc.Counts) (tsf : BitVec 32) :
    (desc.parse tsf).1.count = 0 := by
  unfold NoaDesc.Counts at hcounts
  unfold NoaDesc.parse
  rw [if_pos (by tauto)]

theorem noaParsed_ne_zero (attr : Fin 4 → NoaDesc) (tsf : BitVec 32) :
    noaParsed attr tsf ≠ 0 ↔ ∃ j, (attr j).Counts ∧ (attr j).Valid := by
  unfold noaParsed
  rw [← Nat.pos_iff_ne_zero, List.countP_pos_iff]
  constructor
  · rintro ⟨j, _, hparsed⟩
    exact ⟨j, (NoaDesc.parse_counts tsf).mp hparsed⟩
  · rintro ⟨j, hparsed⟩
    exact ⟨j, by fin_cases j <;> decide, (NoaDesc.parse_counts tsf).mpr hparsed⟩

theorem NoaParsable.prepared (hparsable : NoaParsable attr origin)
    (hschedules : NoaSchedules attr origin origin) {i : Fin 4}
    (hcounts : (attr i).Counts) (hvalid : (attr i).Valid) :
    ((attr i).parse (u32 origin)).1.Prepared ((attr i).schedule origin) origin := by
  have hs := hschedules.schedule i hcounts hvalid
  have hfirst := hschedules.first i hcounts hvalid
  have hon : (attr i).On ((attr i).schedule origin) 0 := NoaDesc.on_schedule hcounts
  have hnear : origin + 1 - ((attr i).schedule origin).windowEnd 0 < 2 ^ 31 := by
    by_cases hone : (attr i).count = 1
    · have hopen := hparsable.oneWindow i hcounts hone
      omega
    · have hstart := hparsable.firstStart i hcounts hvalid hone
      have hpos := hs.duration_pos
      rw [WindowSchedule.windowEnd, WindowSchedule.windowStart, Nat.cast_zero, zero_mul, add_zero]
      omega
  rw [NoaDesc.parse_valid hcounts hvalid]
  rcases hon.moves hs (Or.inl rfl) hnear hfirst with ⟨hover, hended⟩ | ⟨j, hmoved, hopen⟩
  · left
    refine ⟨hended.resolve_left ?_, hover⟩
    intro hone
    have hopen := hparsable.oneWindow i hcounts hone
    have hend := hover 0 hon.has
    omega
  · right
    refine ⟨hmoved.count_pos.ne', ?_⟩
    have hbehind : j = 0 ∨ ((attr i).schedule origin).windowEnd (j - 1) ≤ origin := by
      by_cases hzero : j = 0
      · exact Or.inl hzero
      · exact Or.inr (hopen.before (j - 1) (by omega))
    have hends := hopen.open_
    have hmoves := hmoved.moves hs hbehind (by omega) hfirst
    exact hmoves.resolve_left fun hended => hopen.not_over hended.1

theorem NoaParsable.start (hparsable : NoaParsable attr origin) :
    NoaSound attr origin (NoaRun.start attr origin).data origin ∧
      ∃ ahead, (NoaRun.start attr origin).data.Followed attr origin origin ahead := by
  unfold NoaRun.start parseP2pNoa
  dsimp only
  by_cases hparsed : noaParsed attr (u32 origin) ≠ 0
  · rw [if_pos hparsed]
    have hsome := (noaParsed_ne_zero attr _).mp hparsed
    have hschedules := hparsable.schedules (le_refl origin) (hparsable.refused hsome)
    apply NoaData.Ready.update_spec
    constructor
    · exact hschedules
    · exact fun i hcounts hvalid => hparsable.prepared hschedules hcounts hvalid
    · exact hparsable.near
    · exact fun i hcounts hinvalid => NoaDesc.parse_refused hcounts hinvalid _
    · exact fun i hcounts => NoaDesc.parse_uncounted hcounts _
  · rw [if_neg hparsed]
    have hnone : ∀ j, (attr j).Counts → ¬(attr j).Valid := by
      intro j hcounts hvalid
      exact hparsed ((noaParsed_ne_zero attr _).mpr ⟨j, hcounts, hvalid⟩)
    constructor
    · constructor
      · intro i
        constructor
        · intro hin
          cases hin
        · intro habsent
          by_cases hcounts : (attr i).Counts
          · exact absurd habsent.1 (hnone i hcounts)
          · exact absurd habsent (NoaDesc.not_absentAt_of_not_counts hcounts origin origin)
      · intro hin
        cases hin
    · refine ⟨0, by decide, ?_, NoaCovered.none attr origin origin, ?_, ?_⟩
      · exact fun i hcounts hvalid => absurd hvalid (hnone i hcounts)
      · exact fun i hcounts hinvalid => NoaDesc.parse_refused hcounts hinvalid _
      · exact fun i hcounts => NoaDesc.parse_uncounted hcounts _

/-! ## Runs -/

def NoaRun.Reachable (attr : Fin 4 → NoaDesc) (origin : ℤ) : NoaRun → Prop :=
  ConditionedRun.Reachable NoaRun.step (fun before t => NoaKept attr origin before.tsf t)
    (NoaRun.start attr origin)

theorem NoaRun.reachable_start : NoaRun.Reachable attr origin (NoaRun.start attr origin) :=
  ConditionedRun.Reachable.start

theorem NoaRun.Reachable.update {run : NoaRun} (hreach : NoaRun.Reachable attr origin run)
    (hkept : NoaKept attr origin run.tsf t) :
    NoaRun.Reachable attr origin ⟨run.data.update (u32 t), t⟩ :=
  ConditionedRun.Reachable.after hreach t [] hkept rfl

/-- In a run whose calls find no schedule that has run out and no window that the look ahead may
have passed, every state shows the absences of the attribute. -/
theorem noa_schedule_followed (attr : Fin 4 → NoaDesc) (origin : ℤ)
    (hparsable : NoaParsable attr origin) (run : NoaRun)
    (hreach : NoaRun.Reachable attr origin run) :
    NoaSound attr origin run.data run.tsf := by
  have hinvariant : NoaSound attr origin run.data run.tsf ∧
      (∃ ahead, run.data.Followed attr origin run.tsf ahead) ∧ origin ≤ run.tsf := by
    apply @ConditionedRun.Reachable.invariant _ _ _ _ _ _
      (fun run : NoaRun => NoaSound attr origin run.data run.tsf ∧
        (∃ ahead, run.data.Followed attr origin run.tsf ahead) ∧ origin ≤ run.tsf) _ ?_ _ hreach
    · exact ⟨hparsable.start.1, hparsable.start.2, le_refl origin⟩
    · intro before t after output hgood hkept hstep
      rcases hgood with ⟨_, ⟨ahead, hfollowed⟩, hle⟩
      have hready := hkept.ready hparsable hle hfollowed
      rw [NoaRun.step, Option.some_inj, Prod.mk.injEq] at hstep
      rw [← hstep.1]
      exact ⟨hready.update_spec.1, hready.update_spec.2, hle.trans hkept.later⟩
  exact hinvariant.1

def repeatingAttr : Fin 4 → NoaDesc :=
  ![⟨255, 0, 10, 100⟩, ⟨2, 50, 10, 100⟩, ⟨0, 0, 0, 0⟩, ⟨0, 0, 0, 0⟩]

theorem repeatingAttr_schedule {i : Fin 4} (hcounts : (repeatingAttr i).Counts) :
    (repeatingAttr i).schedule 5 = ⟨0, 10, 100, none⟩ ∨
      (repeatingAttr i).schedule 5 = ⟨50, 10, 100, some 2⟩ := by
  fin_cases i
  · left
    decide +kernel
  · right
    decide +kernel
  · exact absurd rfl hcounts.1
  · exact absurd rfl hcounts.1

theorem repeatingAttr_valid {i : Fin 4} (hcounts : (repeatingAttr i).Counts) :
    (repeatingAttr i).Valid ∧ (repeatingAttr i).count ≠ 1 := by
  fin_cases i
  · exact ⟨Or.inr (by decide), by decide⟩
  · exact ⟨Or.inr (by decide), by decide⟩
  · exact absurd rfl hcounts.1
  · exact absurd rfl hcounts.1

theorem repeatingAttr_absentAt {j : Fin 4} {u : ℤ} (habsent : (repeatingAttr j).AbsentAt 5 u) :
    ∃ k : ℕ, 50 * k ≤ u ∧ u < 50 * k + 10 := by
  have hcounts : (repeatingAttr j).Counts := by
    by_contra hnot
    exact NoaDesc.not_absentAt_of_not_counts hnot 5 u habsent
  rcases habsent.2 with ⟨k, _, hstart, hend⟩
  rcases repeatingAttr_schedule hcounts with hsame | hsame
  · rw [hsame, WindowSchedule.windowStart] at hstart
    rw [hsame, WindowSchedule.windowEnd, WindowSchedule.windowStart] at hend
    dsimp only at hstart hend
    exact ⟨2 * k, by push_cast; omega, by push_cast; omega⟩
  · rw [hsame, WindowSchedule.windowStart] at hstart
    rw [hsame, WindowSchedule.windowEnd, WindowSchedule.windowStart] at hend
    dsimp only at hstart hend
    exact ⟨2 * k + 1, by push_cast; omega, by push_cast; omega⟩

theorem repeatingAttr_near {i : Fin 4} (hcounts : (repeatingAttr i).Counts) {t : ℤ} {k : ℕ}
    (hstart : ((repeatingAttr i).schedule 5).windowStart k ≤ t)
    (hend : t < ((repeatingAttr i).schedule 5).windowEnd k) :
    t - ((repeatingAttr i).schedule 5).windowStart k ≤ 2 ^ 31 ∧
      ((repeatingAttr i).schedule 5).windowEnd k - t < 2 ^ 31 := by
  have hwidth : ((repeatingAttr i).schedule 5).duration = 10 := by
    rcases repeatingAttr_schedule hcounts with hsame | hsame
    · rw [hsame]
    · rw [hsame]
  rw [WindowSchedule.windowEnd, hwidth] at hend ⊢
  omega

theorem repeatingAttr_parsable : NoaParsable repeatingAttr 5 := by
  constructor
  · intro i hcounts _ _
    fin_cases i
    · decide
    · decide
    · exact absurd rfl hcounts.1
    · exact absurd rfl hcounts.1
  · intro i hcounts _ _
    rcases repeatingAttr_schedule hcounts with hsame | hsame
    · rw [hsame]
      decide
    · rw [hsame]
      decide
  · intro i hcounts _ _
    rcases repeatingAttr_schedule hcounts with hsame | hsame
    · rw [hsame]
      decide
    · rw [hsame]
      decide
  · exact fun i hcounts hone => absurd hone (repeatingAttr_valid hcounts).2
  · exact fun i hcounts _ k _ hstart hend => repeatingAttr_near hcounts hstart hend
  · exact fun _ i hcounts hinvalid => absurd (repeatingAttr_valid hcounts).1 hinvalid

theorem repeatingAttr_kept {last t u : ℤ} (hlast : last ≤ u) (hle : u ≤ t)
    (hsoon : t < last + 2 ^ 31) (hleft : t < 160)
    (hpresent : ∀ j, ¬(repeatingAttr j).AbsentAt 5 u) : NoaKept repeatingAttr 5 last t := by
  constructor
  · exact hlast.trans hle
  · exact hsoon
  · intro i hcounts _ hover
    rcases repeatingAttr_schedule hcounts with hsame | hsame
    · rw [hsame] at hover
      have hend := hover 2 (by decide)
      rw [show (⟨0, 10, 100, none⟩ : WindowSchedule).windowEnd 2 = 210 by decide] at hend
      omega
    · rw [hsame] at hover
      have hend := hover 1 (by decide)
      rw [show (⟨50, 10, 100, some 2⟩ : WindowSchedule).windowEnd 1 = 160 by decide] at hend
      omega
  · exact fun i _ _ k _ hopen => Or.inr ⟨u, hlast, by omega, hpresent⟩
  · exact fun i hcounts _ k _ hstart hend => repeatingAttr_near hcounts hstart hend
  · exact fun i hcounts hinvalid => absurd (repeatingAttr_valid hcounts).1 hinvalid

/-- Calls between the absences, in one of each descriptor, and in the last one of the second. -/
theorem repeating_absence_followed :
    NoaSound repeatingAttr 5
      (((((NoaRun.start repeatingAttr 5).data.update (u32 12)).update (u32 55)).update
        (u32 105)).update (u32 155)) 155 := by
  have hpresent : ∀ u : ℤ, u = 12 ∨ u = 60 ∨ u = 110 →
      ∀ j, ¬(repeatingAttr j).AbsentAt 5 u := by
    intro u hu j habsent
    rcases repeatingAttr_absentAt habsent with ⟨k, hstart, hend⟩
    omega
  have hfirst := repeatingAttr_kept (show (5 : ℤ) ≤ 12 by decide) (le_refl 12) (by decide)
    (by decide) (hpresent 12 (by decide))
  have hsecond := repeatingAttr_kept (le_refl (12 : ℤ)) (show (12 : ℤ) ≤ 55 by decide) (by decide)
    (by decide) (hpresent 12 (by decide))
  have hthird := repeatingAttr_kept (show (55 : ℤ) ≤ 60 by decide) (show (60 : ℤ) ≤ 105 by decide)
    (by decide) (by decide) (hpresent 60 (by decide))
  have hlast := repeatingAttr_kept (show (105 : ℤ) ≤ 110 by decide)
    (show (110 : ℤ) ≤ 155 by decide) (by decide) (by decide) (hpresent 110 (by decide))
  have hreach := ((NoaRun.reachable_start.update hfirst).update hsecond).update hthird
  exact noa_schedule_followed repeatingAttr 5 repeatingAttr_parsable _ (hreach.update hlast)

def onceAttr : Fin 4 → NoaDesc := ![⟨1, 0, 10, 100⟩, ⟨0, 0, 0, 0⟩, ⟨0, 0, 0, 0⟩, ⟨0, 0, 0, 0⟩]

/-- Ten microseconds after its end the absence is still shown. -/
theorem finished_absence_shown :
    ¬NoaSound onceAttr 0 ((NoaRun.start onceAttr 0).data.update (u32 20)) 20 := by
  intro hsound
  have habsent := (hsound.bits 0).mp (by decide +kernel)
  rcases habsent.2 with ⟨k, hhas, _, hlt⟩
  have hzero : k < 1 := hhas 1 (by decide +kernel)
  have hfirst : k = 0 := by omega
  rw [hfirst] at hlt
  exact absurd hlt (by decide +kernel)

end IwlwifiStack
