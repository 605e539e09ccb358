import IwlwifiStack.NoaDescriptors

/-!
# One call for a Notice of Absence

`ieee80211_update_p2p_noa` finds the absences of the schedules when no descriptor is behind its
last window or ahead of the time.  Its look ahead moves the descriptors on, but to windows that are
not over before the time that it reaches, and up to there the GO is absent all the time.
-/

namespace IwlwifiStack

/-! ## The look ahead -/

/-- The first window is ahead of the absence under way at `t`, and ends near. -/
structure NoaDesc.LiesAhead (desc : NoaDesc) (attr : Fin 4 → NoaDesc) (origin t : ℤ) : Prop where
  near : (desc.schedule origin).windowEnd 0 - t ≤ 2 ^ 31
  present : ∃ u, t ≤ u ∧ u < (desc.schedule origin).first ∧ ∀ j, ¬(attr j).AbsentAt origin u

/-- From `t` on the GO is absent for `offset`. -/
def NoaCovered (attr : Fin 4 → NoaDesc) (origin t offset : ℤ) : Prop :=
  ∀ u, t ≤ u → u < t + offset → ∃ j, (attr j).AbsentAt origin u

theorem NoaCovered.none (attr : Fin 4 → NoaDesc) (origin t : ℤ) : NoaCovered attr origin t 0 := by
  intro u hle hlt
  omega

/-- The schedules of the descriptors that are followed, at a time; those that are refused are
ahead. -/
structure NoaSchedules (attr : Fin 4 → NoaDesc) (origin t : ℤ) : Prop where
  schedule : ∀ i, (attr i).Counts → (attr i).Valid → NoaSchedule ((attr i).schedule origin)
  first : ∀ i, (attr i).Counts → (attr i).Valid → ((attr i).schedule origin).windows ≠ some 1 →
    ((attr i).schedule origin).windowEnd 0 - t ≤ 2 ^ 31
  reached : ∀ i, (attr i).Counts → (attr i).Valid → ((attr i).schedule origin).first - t < 2 ^ 31
  refused : ∀ i, (attr i).Counts → ¬(attr i).Valid → (attr i).LiesAhead attr origin t

/-- What the look ahead from `t` keeps. -/
structure NoaAhead.Follows (attr : Fin 4 → NoaDesc) (origin t : ℤ) (ahead : NoaAhead) : Prop where
  offset : 0 ≤ ahead.offset.toInt
  tracks : ∀ i, (attr i).Counts → (attr i).Valid →
    (ahead.desc i).Tracks ((attr i).schedule origin) t ahead.offset.toInt
  covered : NoaCovered attr origin t ahead.offset.toInt
  refused : ∀ i, (attr i).Counts → ¬(attr i).Valid → ahead.desc i = attr i
  uncounted : ∀ i, ¬(attr i).Counts → (ahead.desc i).count = 0

namespace NoaDesc

variable {desc : NoaDesc} {attr : Fin 4 → NoaDesc} {s : WindowSchedule} {k : ℕ}
  {origin t offset : ℤ}

/-- A descriptor that moves the end of the absence has a window under way at the old end. -/
theorem On.start_reached (hon : desc.On s k) (hs : NoaSchedule s) (hopen : t < s.windowEnd k)
    (hbefore : k = 0 ∨ s.windowEnd (k - 1) ≤ t + offset) (hfirst : s.first - t < 2 ^ 31)
    (hlow : 0 ≤ offset) (hstart : (desc.start - u32 t).toInt ≤ offset)
    (hlater : offset < (desc.start + desc.duration - u32 t).toInt) :
    s.windowStart k ≤ t + offset ∧
      (desc.start + desc.duration - u32 t).toInt = s.windowEnd k - t := by
  have hend : desc.start + desc.duration - u32 t = u32 (s.windowEnd k - t) := by
    rw [hon.start, hon.duration, ← u32_add, ← u32_sub, ← WindowSchedule.windowEnd]
  rw [hend] at hlater ⊢
  have hduration := hs.duration_pos
  have hdurationLt := hs.duration_lt
  have hhigh : s.windowStart k - t < 2 ^ 31 := by
    by_cases hzero : k = 0
    · rw [hzero, WindowSchedule.windowStart]
      push_cast
      omega
    · have hover := hbefore.resolve_left hzero
      have hrepeats : s.windows ≠ some 1 :=
        fun hsingle => hzero ((WindowSchedule.has_of_single hsingle).mp hon.has)
      have hinterval := hs.near hrepeats
      have hstep := s.windowEnd_add (k - 1) 1
      rw [Nat.sub_add_cancel (by omega), Nat.cast_one, one_mul] at hstep
      have htrue := toInt_u32_of_lt (by omega) (by omega) hlater
      have hlt : (u32 (s.windowEnd k - t)).toInt < 2 ^ 31 := BitVec.toInt_lt
      rw [WindowSchedule.windowEnd] at htrue hlt
      omega
  have hreached : s.windowStart k ≤ t + offset := by
    by_contra hahead
    rw [hon.start, ← u32_sub, toInt_u32 (by omega) hhigh] at hstart
    omega
  refine ⟨hreached, toInt_u32_of_lt (by omega) ?_ hlater⟩
  rw [WindowSchedule.windowEnd]
  omega

/-- The look ahead does not reach a descriptor that is refused. -/
theorem LiesAhead.kept (hahead : desc.LiesAhead attr origin t) (hcounts : desc.Counts)
    (hcovered : NoaCovered attr origin t offset) (hlow : 0 ≤ offset) :
    (desc.extend (u32 (t + offset))).1 = desc ∧ offset < (desc.start - u32 t).toInt := by
  rcases hahead.present with ⟨u, hle, hlt, hpresent⟩
  have hbefore : t + offset ≤ u := by
    by_contra hinside
    rcases hcovered u hle (not_le.mp hinside) with ⟨j, habsent⟩
    exact hpresent j habsent
  have hon : desc.On (desc.schedule origin) 0 := NoaDesc.on_schedule hcounts
  have hnear := hahead.near
  have hpos : 0 < (desc.schedule origin).duration := by
    have hduration : desc.duration.toNat ≠ 0 :=
      fun hzero => hcounts.2 (BitVec.eq_of_toNat_eq hzero)
    change (0 : ℤ) < (desc.duration.toNat : ℤ)
    omega
  have hzero : (desc.schedule origin).windowStart 0 = (desc.schedule origin).first := by
    rw [WindowSchedule.windowStart, Nat.cast_zero, zero_mul, add_zero]
  rw [WindowSchedule.windowEnd, hzero] at hnear
  constructor
  · unfold NoaDesc.extend
    dsimp only
    rw [hon.ends, WindowSchedule.windowEnd, hzero, toInt_u32 (by omega) (by omega),
      if_pos (by omega)]
  · rw [hon.start, hzero, ← u32_sub, toInt_u32 (by omega) (by omega)]
    omega

end NoaDesc

namespace NoaAhead

variable {attr : Fin 4 → NoaDesc} {origin t : ℤ} {ahead : NoaAhead}

theorem step_offset (tsf : BitVec 32) (ahead : NoaAhead) (i : Fin 4) :
    ahead.offset.toInt ≤ (step tsf ahead i).offset.toInt := by
  unfold step
  split
  · exact le_rfl
  · dsimp only
    split
    · exact le_rfl
    · split
      case isTrue hlater => exact hlater.le
      case isFalse => exact le_rfl

namespace Follows

/-- The end of the absence only moves over windows of descriptors that are followed. -/
theorem step_covered (hfollows : ahead.Follows attr origin t)
    (hschedules : NoaSchedules attr origin t) (i : Fin 4) :
    NoaCovered attr origin t (ahead.step (u32 t) i).offset.toInt := by
  have hlow := hfollows.offset
  have htime : u32 t + ahead.offset = u32 (t + ahead.offset.toInt) := by
    rw [u32_add, u32_toInt]
  unfold NoaAhead.step
  by_cases hnone : (ahead.desc i).count = 0
  · rw [if_pos hnone]
    exact hfollows.covered
  · rw [if_neg hnone]
    dsimp only
    rw [htime]
    have hcounts : (attr i).Counts := by
      by_contra hnot
      exact hnone (hfollows.uncounted i hnot)
    by_cases hstart : (((ahead.desc i).extend (u32 (t + ahead.offset.toInt))).1.start -
        u32 t).toInt > ahead.offset.toInt
    · rw [if_pos hstart]
      exact hfollows.covered
    · rw [if_neg hstart]
      split
      case isFalse => exact hfollows.covered
      case isTrue hlater =>
        by_cases hvalid : (attr i).Valid
        · have hs := hschedules.schedule i hcounts hvalid
          have hcases := (hfollows.tracks i hcounts hvalid).extend_cases hs hnone hlow
            BitVec.toInt_lt (hschedules.first i hcounts hvalid)
          rcases hcases with ⟨k, hon, hopen, hbefore⟩ | ⟨k, hdropped, hon, _, hover, hopen⟩
          · have hmoved := hon.start_reached hs hopen hbefore (hschedules.reached i hcounts hvalid)
              hlow (not_lt.mp hstart) hlater
            intro u hle hlt
            by_cases hinside : u < t + ahead.offset.toInt
            · exact hfollows.covered u hle hinside
            · rw [hmoved.2] at hlt
              exact ⟨i, hvalid, k, hon.has, by omega, by omega⟩
          · -- the window at which it is dropped ends before the offset
            have hends := hover k hon.has
            have hlt : ahead.offset.toInt < 2 ^ 31 := BitVec.toInt_lt
            rw [hdropped] at hlater
            dsimp only at hlater
            rw [hon.start, hon.duration, ← u32_add, ← u32_sub, ← WindowSchedule.windowEnd,
              toInt_u32 (by omega) (by omega)] at hlater
            omega
        · have hsame := hfollows.refused i hcounts hvalid
          have hkept := (hschedules.refused i hcounts hvalid).kept hcounts hfollows.covered hlow
          rw [hsame, hkept.1] at hstart
          exact absurd hkept.2 hstart

theorem step (hfollows : ahead.Follows attr origin t) (hschedules : NoaSchedules attr origin t)
    (i : Fin 4) : (ahead.step (u32 t) i).Follows attr origin t := by
  have hgrows := step_offset (u32 t) ahead i
  have hlt : ahead.offset.toInt < 2 ^ 31 := BitVec.toInt_lt
  have htime : u32 t + ahead.offset = u32 (t + ahead.offset.toInt) := by
    rw [u32_add, u32_toInt]
  constructor
  · exact hfollows.offset.trans hgrows
  · intro j hcounts hvalid
    have htracks := hfollows.tracks j hcounts hvalid
    apply NoaDesc.Tracks.mono _ hgrows
    unfold NoaAhead.step
    by_cases hnone : (ahead.desc i).count = 0
    · rw [if_pos hnone]
      exact htracks
    · rw [if_neg hnone]
      dsimp only
      by_cases hsame : j = i
      · rw [hsame, Function.update_self, htime]
        rw [hsame] at htracks hcounts hvalid
        exact htracks.extend (hschedules.schedule i hcounts hvalid) hnone hfollows.offset hlt
          (hschedules.first i hcounts hvalid)
      · rw [Function.update_of_ne hsame]
        exact htracks
  · exact hfollows.step_covered hschedules i
  · intro j hcounts hinvalid
    have hkept := hfollows.refused j hcounts hinvalid
    unfold NoaAhead.step
    by_cases hnone : (ahead.desc i).count = 0
    · rw [if_pos hnone]
      exact hkept
    · rw [if_neg hnone]
      dsimp only
      by_cases hsame : j = i
      · have hahead := hschedules.refused j hcounts hinvalid
        rw [← hsame, Function.update_self, htime, hkept]
        exact (hahead.kept hcounts hfollows.covered hfollows.offset).1
      · rw [Function.update_of_ne hsame]
        exact hkept
  · intro j hcounts
    have hzero := hfollows.uncounted j hcounts
    unfold NoaAhead.step
    by_cases hnone : (ahead.desc i).count = 0
    · rw [if_pos hnone]
      exact hzero
    · rw [if_neg hnone]
      dsimp only
      have hother : j ≠ i := by
        intro hsame
        rw [hsame] at hzero
        exact hnone hzero
      rw [Function.update_of_ne hother]
      exact hzero

theorem foldl (hfollows : ahead.Follows attr origin t)
    (hschedules : NoaSchedules attr origin t) (indices : List (Fin 4)) :
    (indices.foldl (NoaAhead.step (u32 t)) ahead).Follows attr origin t ∧
      ahead.offset.toInt ≤ (indices.foldl (NoaAhead.step (u32 t)) ahead).offset.toInt := by
  induction indices generalizing ahead with
  | nil => exact ⟨hfollows, le_rfl⟩
  | cons i rest ih =>
      rw [List.foldl_cons]
      have hnext := ih (hfollows.step hschedules i)
      exact ⟨hnext.1, (step_offset (u32 t) ahead i).trans hnext.2⟩

theorem extend (hfollows : ahead.Follows attr origin t)
    (hschedules : NoaSchedules attr origin t) :
    (ahead.extend (u32 t)).Follows attr origin t ∧
      ahead.offset.toInt ≤ (ahead.extend (u32 t)).offset.toInt := by
  have hstart : NoaAhead.Follows attr origin t { ahead with ret := false } :=
    ⟨hfollows.offset, hfollows.tracks, hfollows.covered, hfollows.refused, hfollows.uncounted⟩
  exact hstart.foldl hschedules (List.finRange 4)

theorem tries (hfollows : ahead.Follows attr origin t)
    (hschedules : NoaSchedules attr origin t) (left : ℕ) :
    (NoaAhead.tries (u32 t) left ahead).Follows attr origin t ∧
      ahead.offset.toInt ≤ (NoaAhead.tries (u32 t) left ahead).offset.toInt := by
  induction left generalizing ahead with
  | zero => exact ⟨hfollows, le_rfl⟩
  | succ left ih =>
      have hnext := hfollows.extend hschedules
      rw [NoaAhead.tries]
      split
      · have hlater := ih hnext.1
        exact ⟨hlater.1, hnext.2.trans hlater.2⟩
      · exact hnext

end Follows

/-! ## An absence under way -/

/-- A window that is under way at `t`, near enough for signed differences. -/
structure UnderWay (desc : NoaDesc) (s : WindowSchedule) (t : ℤ) (k : ℕ) : Prop where
  on : desc.On s k
  starts : s.windowStart k ≤ t
  ends : t < s.windowEnd k
  nearStart : t - s.windowStart k ≤ 2 ^ 31
  nearEnd : s.windowEnd k - t < 2 ^ 31

theorem step_pos {s : WindowSchedule} {k : ℕ} {i : Fin 4} (hs : NoaSchedule s)
    (hunder : UnderWay (ahead.desc i) s t k) (hzero : ahead.offset.toInt = 0) :
    0 < (ahead.step (u32 t) i).offset.toInt := by
  have hnull : ahead.offset = 0 := by
    apply BitVec.eq_of_toInt_eq
    rw [hzero]
    rfl
  have hstarts := hunder.starts
  have hends := hunder.ends
  have hnearStart := hunder.nearStart
  have hnearEnd := hunder.nearEnd
  have hsame : ((ahead.desc i).extend (u32 t + ahead.offset)).1 = ahead.desc i := by
    have htime : u32 t + ahead.offset = u32 t := by simp [hnull]
    rw [htime]
    apply hunder.on.extend_open hs hends
    intro _
    omega
  have hstart : ((ahead.desc i).start - u32 t).toInt = s.windowStart k - t := by
    rw [hunder.on.start, ← u32_sub, toInt_u32 (by omega) (by omega)]
  have hend : ((ahead.desc i).start + (ahead.desc i).duration - u32 t).toInt =
      s.windowEnd k - t := by
    rw [hunder.on.start, hunder.on.duration, ← u32_add, ← u32_sub, ← WindowSchedule.windowEnd,
      toInt_u32 (by omega) (by omega)]
  unfold step
  rw [if_neg hunder.on.count_pos.ne']
  dsimp only
  rw [hsame, hstart, hend, hzero, if_neg (by omega), if_pos (by omega), hend]
  omega

theorem foldl_pos {s : WindowSchedule} {k : ℕ} {i : Fin 4} (hs : NoaSchedule s)
    (hfollows : ahead.Follows attr origin t) (hschedules : NoaSchedules attr origin t)
    (indices : List (Fin 4)) (hmem : i ∈ indices)
    (hunder : UnderWay (ahead.desc i) s t k) :
    0 < (indices.foldl (step (u32 t)) ahead).offset.toInt := by
  induction indices generalizing ahead with
  | nil => cases hmem
  | cons j rest ih =>
      rw [List.foldl_cons]
      have hnext := hfollows.step hschedules j
      have hlater := (hnext.foldl hschedules rest).2
      by_cases hpos : 0 < ahead.offset.toInt
      · exact lt_of_lt_of_le hpos ((step_offset (u32 t) ahead j).trans hlater)
      · by_cases hsame : i = j
        · have hzero : ahead.offset.toInt = 0 := by
            have hlow := hfollows.offset
            omega
          rw [hsame] at hunder
          exact lt_of_lt_of_le (step_pos hs hunder hzero) hlater
        · have hrest := (List.mem_cons.mp hmem).resolve_left hsame
          apply ih hnext hrest
          have hkept : (ahead.step (u32 t) j).desc i = ahead.desc i := by
            unfold step
            split
            · rfl
            · exact Function.update_of_ne hsame _ _
          rw [hkept]
          exact hunder

end NoaAhead

/-! ## One call -/

theorem NoaDesc.not_absentAt_of_not_counts {desc : NoaDesc} (hcounts : ¬desc.Counts)
    (origin t : ℤ) : ¬desc.AbsentAt origin t := by
  rintro ⟨_, k, hhas, hstart, hend⟩
  apply hcounts
  constructor
  · intro hzero
    have hnone := hhas 0 (by rw [NoaDesc.schedule, hzero]; rfl)
    omega
  · intro hzero
    have hlength : (desc.schedule origin).duration = 0 := by
      rw [NoaDesc.schedule, hzero]
      rfl
    rw [WindowSchedule.windowEnd, hlength] at hend
    omega

/-- What a call of `ieee80211_update_p2p_noa` at `t` has to find. -/
structure NoaData.Ready (attr : Fin 4 → NoaDesc) (origin t : ℤ) (data : NoaData) : Prop where
  schedules : NoaSchedules attr origin t
  prepared : ∀ i, (attr i).Counts → (attr i).Valid →
    (data.desc i).Prepared ((attr i).schedule origin) t
  near : ∀ i, (attr i).Counts → (attr i).Valid → ∀ k, ((attr i).schedule origin).Has k →
    ((attr i).schedule origin).windowStart k ≤ t → t < ((attr i).schedule origin).windowEnd k →
      t - ((attr i).schedule origin).windowStart k ≤ 2 ^ 31 ∧
        ((attr i).schedule origin).windowEnd k - t < 2 ^ 31
  refused : ∀ i, (attr i).Counts → ¬(attr i).Valid → data.desc i = attr i
  uncounted : ∀ i, ¬(attr i).Counts → (data.desc i).count = 0

namespace NoaData.Ready

variable {attr : Fin 4 → NoaDesc} {origin t : ℤ} {data : NoaData} {i : Fin 4}

theorem noneLeft (hready : data.Ready attr origin t) (hcounts : (attr i).Counts)
    (hvalid : (attr i).Valid) (hnone : (data.desc i).count = 0) :
    ((attr i).schedule origin).OverAt t := by
  rcases hready.prepared i hcounts hvalid with ⟨_, hover⟩ | ⟨hsome, _⟩
  · exact hover
  · exact absurd hnone hsome

/-- The descriptor is at the first window that is not over, and the signed difference to its start
is the true one. -/
theorem tracked (hready : data.Ready attr origin t) (hcounts : (attr i).Counts)
    (hvalid : (attr i).Valid) (hsome : (data.desc i).count ≠ 0) :
    ∃ k, (data.extendTracked (u32 t) i).On ((attr i).schedule origin) k ∧
      ((attr i).schedule origin).FirstOpen t k ∧
      ((data.extendTracked (u32 t) i).start - u32 t).toInt =
        ((attr i).schedule origin).windowStart k - t := by
  rcases hready.prepared i hcounts hvalid with ⟨hnone, _⟩ | ⟨_, k, hon, hopen⟩
  · exact absurd hnone hsome
  · have hs := hready.schedules.schedule i hcounts hvalid
    have hnear := hready.near i hcounts hvalid k hopen.has
    have hreached := hready.schedules.reached i hcounts hvalid
    have hends := hopen.open_
    have hmoved : data.extendTracked (u32 t) i = ((data.desc i).extend (u32 t)).1 := if_neg hsome
    refine ⟨k, by rw [hmoved]; exact hon, hopen, ?_⟩
    have hhigh : ((attr i).schedule origin).windowStart k - t < 2 ^ 31 := by
      by_cases hzero : k = 0
      · rw [hzero, WindowSchedule.windowStart]
        push_cast
        omega
      · have hbefore := hopen.before (k - 1) (by omega)
        have hrepeats : ((attr i).schedule origin).windows ≠ some 1 := by
          intro hsingle
          exact hzero ((WindowSchedule.has_of_single hsingle).mp hopen.has)
        have hinterval := hs.near hrepeats
        have hpos := hs.duration_pos
        have hstep := ((attr i).schedule origin).windowStart_succ (k - 1)
        rw [Nat.sub_add_cancel (by omega)] at hstep
        rw [WindowSchedule.windowEnd] at hbefore
        omega
    have hlow : -2 ^ 31 ≤ ((attr i).schedule origin).windowStart k - t := by
      by_cases hstarts : ((attr i).schedule origin).windowStart k ≤ t
      · have hboth := hnear hstarts hends
        omega
      · omega
    rw [hmoved, hon.start, ← u32_sub, toInt_u32 hlow hhigh]

theorem extendTracked_refused (hready : data.Ready attr origin t) (hcounts : (attr i).Counts)
    (hinvalid : ¬(attr i).Valid) :
    data.extendTracked (u32 t) i = attr i ∧ 0 < ((attr i).start - u32 t).toInt := by
  have hkept := (hready.schedules.refused i hcounts hinvalid).kept hcounts
    (NoaCovered.none attr origin t) (le_refl 0)
  rw [add_zero] at hkept
  unfold NoaData.extendTracked
  rw [hready.refused i hcounts hinvalid, if_neg hcounts.1]
  exact hkept

theorem absent_iff (hready : data.Ready attr origin t) (i : Fin 4) :
    ((data.desc i).count ≠ 0 ∧ ((data.extendTracked (u32 t) i).start - u32 t).toInt ≤ 0) ↔
      (attr i).AbsentAt origin t := by
  by_cases hcounts : (attr i).Counts
  · by_cases hvalid : (attr i).Valid
    · have hs := hready.schedules.schedule i hcounts hvalid
      by_cases hnone : (data.desc i).count = 0
      · have hover := hready.noneLeft hcounts hvalid hnone
        constructor
        · exact fun hin => absurd hnone hin.1
        · exact fun hin => absurd hin.2 (hover.not_active le_rfl)
      · rcases hready.tracked hcounts hvalid hnone with ⟨k, _, hopen, hstart⟩
        have hactive := hopen.activeAt_iff hs.separate hs.duration_pos.le
        rw [hstart]
        constructor
        · intro hin
          exact ⟨hvalid, hactive.mpr (by omega)⟩
        · intro hin
          have hstarts := hactive.mp hin.2
          exact ⟨hnone, by omega⟩
    · constructor
      · intro hin
        have hahead := hready.extendTracked_refused hcounts hvalid
        rw [hahead.1] at hin
        omega
      · exact fun hin => absurd hin.1 hvalid
  · constructor
    · exact fun hin => absurd (hready.uncounted i hcounts) hin.1
    · exact fun hin => absurd hin (NoaDesc.not_absentAt_of_not_counts hcounts origin t)

theorem extendTracked_tracks (hready : data.Ready attr origin t) (hcounts : (attr i).Counts)
    (hvalid : (attr i).Valid) :
    (data.extendTracked (u32 t) i).Tracks ((attr i).schedule origin) t 0 := by
  by_cases hnone : (data.desc i).count = 0
  · left
    rw [add_zero]
    have hover := hready.noneLeft hcounts hvalid hnone
    refine ⟨?_, hover, Or.inl hover⟩
    unfold NoaData.extendTracked
    rw [if_pos hnone]
    exact hnone
  · rcases hready.tracked hcounts hvalid hnone with ⟨k, hon, hopen, _⟩
    right
    refine ⟨k, hon, hopen.open_, ?_⟩
    rw [add_zero]
    by_cases hzero : k = 0
    · exact Or.inl hzero
    · exact Or.inr (hopen.before (k - 1) (by omega))

theorem start_follows (hready : data.Ready attr origin t) :
    NoaAhead.Follows attr origin t ⟨data.extendTracked (u32 t), 0, false⟩ := by
  constructor
  · exact le_refl (0 : ℤ)
  · exact fun i hcounts hvalid => hready.extendTracked_tracks hcounts hvalid
  · exact NoaCovered.none attr origin t
  · exact fun i hcounts hinvalid => (hready.extendTracked_refused hcounts hinvalid).1
  · intro i hcounts
    have hnone := hready.uncounted i hcounts
    change (data.extendTracked (u32 t) i).count = 0
    unfold NoaData.extendTracked
    rw [if_pos hnone]
    exact hnone

theorem absentTime_pos (hready : data.Ready attr origin t)
    (habsent : (attr i).AbsentAt origin t) :
    0 < (NoaAhead.getAbsentTime (u32 t) (data.extendTracked (u32 t))).offset.toInt := by
  have hcounts : (attr i).Counts := by
    by_contra hnot
    exact NoaDesc.not_absentAt_of_not_counts hnot origin t habsent
  have hvalid := habsent.1
  have hs := hready.schedules.schedule i hcounts hvalid
  have hsome := ((hready.absent_iff i).mpr habsent).1
  rcases hready.tracked hcounts hvalid hsome with ⟨k, hon, hopen, _⟩
  have hstarts := (hopen.activeAt_iff hs.separate hs.duration_pos.le).mp habsent.2
  have hnear := hready.near i hcounts hvalid k hopen.has hstarts hopen.open_
  have hunder : NoaAhead.UnderWay (data.extendTracked (u32 t) i) ((attr i).schedule origin) t k :=
    ⟨hon, hstarts, hopen.open_, hnear.1, hnear.2⟩
  have hfirst := NoaAhead.foldl_pos hs hready.start_follows hready.schedules (List.finRange 4)
    (by fin_cases i <;> decide) hunder
  have hlater := ((hready.start_follows.extend hready.schedules).1.tries hready.schedules 5).2
  exact lt_of_lt_of_le hfirst hlater

end NoaData.Ready

/-! ## The next change -/

section NextOffset

variable (data : NoaData) (tsf : BitVec 32)

theorem nextOffset_fold (indices : List (Fin 4)) (first : BitVec 32) :
    let last := indices.foldl
      (fun offset i =>
        let start := (data.extendTracked tsf i).start - tsf
        if (data.desc i).count ≠ 0 ∧ offset > start then start else offset) first
    last ≤ first ∧
      (∀ i ∈ indices, (data.desc i).count ≠ 0 → last ≤ (data.extendTracked tsf i).start - tsf) ∧
      (0 < first → (∀ i ∈ indices, (data.desc i).count ≠ 0 →
        0 < (data.extendTracked tsf i).start - tsf) → 0 < last) := by
  induction indices generalizing first with
  | nil =>
      refine ⟨BitVec.le_refl _, ?_, fun hpos _ => hpos⟩
      intro i hmem
      cases hmem
  | cons i rest ih =>
      dsimp only
      rw [List.foldl_cons]
      dsimp only at ih
      by_cases hlower : (data.desc i).count ≠ 0 ∧ first > (data.extendTracked tsf i).start - tsf
      · rw [if_pos hlower]
        have hrest := ih ((data.extendTracked tsf i).start - tsf)
        refine ⟨BitVec.le_trans hrest.1 (BitVec.le_of_lt hlower.2), ?_, ?_⟩
        · intro j hmem hsome
          rcases List.mem_cons.mp hmem with hsame | hin
          · rw [hsame]
            exact hrest.1
          · exact hrest.2.1 j hin hsome
        · intro _ hall
          apply hrest.2.2 (hall i List.mem_cons_self hlower.1)
          exact fun j hin => hall j (List.mem_cons_of_mem _ hin)
      · rw [if_neg hlower]
        have hrest := ih first
        refine ⟨hrest.1, ?_, ?_⟩
        · intro j hmem hsome
          rcases List.mem_cons.mp hmem with hsame | hin
          · rw [hsame] at hsome ⊢
            have hle : first ≤ (data.extendTracked tsf i).start - tsf :=
              BitVec.not_lt.mp fun hlt => hlower ⟨hsome, hlt⟩
            exact BitVec.le_trans hrest.1 hle
          · exact hrest.2.1 j hin hsome
        · intro hpos hall
          exact hrest.2.2 hpos fun j hin => hall j (List.mem_cons_of_mem _ hin)

end NextOffset

/-- The bits are those of the descriptors, and `next_tsf` is later; without an absence, there is
none before it. -/
structure NoaSound (attr : Fin 4 → NoaDesc) (origin : ℤ) (data : NoaData) (t : ℤ) : Prop where
  bits : ∀ i, data.absent i = true ↔ (attr i).AbsentAt origin t
  next : data.hasNextTsf = true → ∃ next : ℤ, data.nextTsf = u32 next ∧ t < next ∧
    next < t + 2 ^ 31 ∧
    ((∀ i, ¬(attr i).AbsentAt origin t) →
      ∀ u, t ≤ u → u < next → ∀ i, ¬(attr i).AbsentAt origin u)

/-- What a call leaves behind, whose look ahead has reached `t + ahead`. -/
structure NoaData.Followed (attr : Fin 4 → NoaDesc) (origin t ahead : ℤ) (data : NoaData) :
    Prop where
  near : ahead < 2 ^ 31
  tracks : ∀ i, (attr i).Counts → (attr i).Valid →
    (data.desc i).Tracks ((attr i).schedule origin) t ahead
  covered : NoaCovered attr origin t ahead
  refused : ∀ i, (attr i).Counts → ¬(attr i).Valid → data.desc i = attr i
  uncounted : ∀ i, ¬(attr i).Counts → (data.desc i).count = 0

theorem NoaAhead.Follows.followed {attr : Fin 4 → NoaDesc} {origin t : ℤ} {ahead : NoaAhead}
    (hfollows : ahead.Follows attr origin t) (nextTsf : BitVec 32) (hasNextTsf : Bool)
    (absent : Fin 4 → Bool) :
    NoaData.Followed attr origin t ahead.offset.toInt ⟨nextTsf, hasNextTsf, absent, ahead.desc⟩ :=
  ⟨BitVec.toInt_lt, hfollows.tracks, hfollows.covered, hfollows.refused, hfollows.uncounted⟩

namespace NoaData.Ready

variable {attr : Fin 4 → NoaDesc} {origin t : ℤ} {data : NoaData}

theorem quiet (hready : data.Ready attr origin t)
    (hnone : ∀ i, ¬(attr i).AbsentAt origin t) :
    0 < data.nextOffset (u32 t) ∧ (data.nextOffset (u32 t)).toNat < 2 ^ 31 ∧
      ∀ u, t ≤ u → u < t + (data.nextOffset (u32 t)).toNat → ∀ i, ¬(attr i).AbsentAt origin u := by
  have hfold := nextOffset_fold data (u32 t) (List.finRange 4) (2 ^ 31 - 1)
  dsimp only at hfold
  rw [← NoaData.nextOffset] at hfold
  rcases hfold with ⟨hfirst, hall, hpos⟩
  have hahead : ∀ i, (data.desc i).count ≠ 0 →
      0 < ((data.extendTracked (u32 t) i).start - u32 t).toInt := by
    intro i hsome
    by_contra hbehind
    exact hnone i ((hready.absent_iff i).mp ⟨hsome, not_lt.mp hbehind⟩)
  refine ⟨?_, ?_, ?_⟩
  · apply hpos (by decide)
    intro i _ hsome
    have hlater := hahead i hsome
    apply BitVec.lt_def.mpr
    apply Nat.pos_of_ne_zero
    intro hzero
    have hnull : (data.extendTracked (u32 t) i).start - u32 t = 0 := BitVec.eq_of_toNat_eq hzero
    rw [hnull] at hlater
    exact absurd hlater (by decide)
  · exact lt_of_le_of_lt (BitVec.le_def.mp hfirst) (by decide)
  · intro u hle hlt i habsent
    have hcounts : (attr i).Counts := by
      by_contra hnot
      exact NoaDesc.not_absentAt_of_not_counts hnot origin u habsent
    have hvalid := habsent.1
    have hs := hready.schedules.schedule i hcounts hvalid
    by_cases hsome : (data.desc i).count = 0
    · exact (hready.noneLeft hcounts hvalid hsome).not_active hle habsent.2
    · rcases hready.tracked hcounts hvalid hsome with ⟨k, _, hopen, hstart⟩
      have hlater := hahead i hsome
      have hbound := BitVec.le_def.mp (hall i (by fin_cases i <;> decide) hsome)
      have hnat : ((data.extendTracked (u32 t) i).start - u32 t).toInt =
          ((data.extendTracked (u32 t) i).start - u32 t).toNat := by
        apply BitVec.toInt_eq_toNat_of_lt
        by_contra hlarge
        have hnegative := BitVec.toInt_neg_iff.mpr (not_lt.mp hlarge)
        omega
      exact hopen.not_active hs.separate hs.duration_pos.le hle (by omega) habsent.2

theorem update_spec (hready : data.Ready attr origin t) :
    NoaSound attr origin (data.update (u32 t)) t ∧
      ∃ ahead, (data.update (u32 t)).Followed attr origin t ahead := by
  have hbits : ∀ i, ((data.desc i).count ≠ 0 &&
      ((data.extendTracked (u32 t) i).start - u32 t).toInt ≤ 0) = true ↔
        (attr i).AbsentAt origin t := by
    intro i
    rw [Bool.and_eq_true, decide_eq_true_eq, decide_eq_true_eq]
    exact hready.absent_iff i
  unfold NoaData.update
  dsimp only
  by_cases hany : (List.finRange 4).any (fun i => (data.desc i).count ≠ 0 &&
      ((data.extendTracked (u32 t) i).start - u32 t).toInt ≤ 0) = true
  · rw [if_pos hany]
    rcases List.any_eq_true.mp hany with ⟨i, _, habsent⟩
    have hunder := (hbits i).mp habsent
    have hpos := hready.absentTime_pos hunder
    have hlt : (NoaAhead.getAbsentTime (u32 t) (data.extendTracked (u32 t))).offset.toInt <
        2 ^ 31 := BitVec.toInt_lt
    constructor
    · constructor
      · exact hbits
      · intro _
        refine ⟨t + (NoaAhead.getAbsentTime (u32 t)
          (data.extendTracked (u32 t))).offset.toInt, ?_, by omega, by omega, ?_⟩
        · rw [u32_add, u32_toInt]
        · exact fun hnone => absurd hunder (hnone i)
    · have hfollows := (hready.start_follows.extend hready.schedules).1
      exact ⟨_, (hfollows.tries hready.schedules 5).1.followed _ _ _⟩
  · rw [if_neg hany]
    have hnone : ∀ i, ¬(attr i).AbsentAt origin t := by
      intro i habsent
      apply hany
      exact List.any_eq_true.mpr ⟨i, by fin_cases i <;> decide, (hbits i).mpr habsent⟩
    rcases hready.quiet hnone with ⟨hpos, hsmall, hquiet⟩
    have hnat : 0 < (data.nextOffset (u32 t)).toNat := BitVec.lt_def.mp hpos
    constructor
    · constructor
      · exact hbits
      · intro _
        refine ⟨t + (data.nextOffset (u32 t)).toNat, ?_, by omega, by omega, fun _ => hquiet⟩
        rw [u32_add, u32_toNat]
    · exact ⟨_, hready.start_follows.followed _ _ _⟩

end NoaData.Ready

end IwlwifiStack
