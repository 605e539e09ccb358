import IwlwifiStack.ApRemovalProfiles

/-!
# A beacon that announces removals

Which links an element makes the station remove, when the work is due, and
which elements lead behind the end of a table.
-/

namespace IwlwifiStack

/-! ## What an element announces -/

/-- The links of `st` that the element names. -/
def announcedLinks (st : ApRemoval) (mlReconf : List UInt8) : BitVec 16 :=
  (ReconfTables.profiles ⟨0, fun _ => 0⟩
    (perStaProfiles mlReconf)).removedLinks &&& st.vif.validLinks

/-- The profiles that name a link of `st`. -/
def announcedProfiles (st : ApRemoval) (mlReconf : List UInt8) :
    List Element :=
  (perStaProfiles mlReconf).filter fun sub =>
    st.vif.validLinks.getLsbD (profLinkId sub.data)

def profDelay (st : ApRemoval) (sub : Element) : ℕ :=
  st.delayAt (profLinkId sub.data)
    (if apRemTimerPresent sub.data then apRemTimer sub.data else 0)

def lastDelay (st : ApRemoval) (mlReconf : List UInt8) (id : ℕ) : ℕ :=
  st.delayAt id ((lastTimer (perStaProfiles mlReconf) id).getD 0)

/-- Removal at once is announced for the highest link too, if for any;
otherwise the earliest time is not replaced by a later profile. -/
def EarliestKept (st : ApRemoval) (mlReconf : List UInt8) : Prop :=
  if ∃ sub ∈ announcedProfiles st mlReconf, profDelay st sub = 0 then
    ∃ id, (linkIds (announcedLinks st mlReconf)).getLast? = some id ∧
      lastDelay st mlReconf id = 0
  else
    ∃ sub ∈ announcedProfiles st mlReconf,
      ∀ other ∈ announcedProfiles st mlReconf,
        lastDelay st mlReconf (profLinkId sub.data) ≤ profDelay st other

/-- No EPCS profile, up to the first one of a bad size, names the link behind
the end of the table. -/
def EpcsInBounds (mlEpcs : List UInt8) : Prop :=
  ∀ sub ∈ (perStaProfiles mlEpcs).takeWhile fun sub =>
      decide (2 ≤ sub.data.length),
    profLinkId sub.data < maxNumLinks

variable {st st' : ApRemoval} {mlReconf : List UInt8} {now : ℕ}

theorem getLsbD_announcedLinks {id : ℕ} :
    (announcedLinks st mlReconf).getLsbD id = true ↔
      ∃ sub ∈ announcedProfiles st mlReconf, profLinkId sub.data = id := by
  unfold announcedLinks announcedProfiles
  rw [BitVec.getLsbD_and, Bool.and_eq_true, profiles_removed]
  constructor
  · rintro ⟨hzero | ⟨sub, hsub, hid⟩, hvalid⟩
    · simp at hzero
    · exact ⟨sub, List.mem_filter.mpr ⟨hsub, by rw [hid]; exact hvalid⟩, hid⟩
  · rintro ⟨sub, hsub, hid⟩
    obtain ⟨hmem, hvalid⟩ := List.mem_filter.mp hsub
    rw [hid] at hvalid
    exact ⟨Or.inr ⟨sub, hmem, hid⟩, hvalid⟩

theorem mem_announcedLinks (hlast : st.vif.validLinks.getLsbD 15 = false)
    {id : ℕ} : id ∈ linkIds (announcedLinks st mlReconf) ↔
      ∃ sub ∈ announcedProfiles st mlReconf, profLinkId sub.data = id := by
  rw [mem_linkIds, getLsbD_announcedLinks]
  apply and_iff_right_of_imp
  rintro ⟨sub, hsub, rfl⟩
  exact linkId_lt hlast (List.mem_filter.mp hsub).2

theorem lastDelay_pos
    (hpos : ∀ sub ∈ announcedProfiles st mlReconf, profDelay st sub ≠ 0)
    {sub : Element} (hsub : sub ∈ announcedProfiles st mlReconf) :
    lastDelay st mlReconf (profLinkId sub.data) ≠ 0 := by
  have htimer : apRemTimerPresent sub.data = true := by
    by_contra hnone
    apply hpos sub hsub
    rw [profDelay, if_neg hnone, ApRemoval.delayAt]
    split
    · rfl
    · rfl
  have hmem : sub ∈ (perStaProfiles mlReconf).filter fun other =>
      profLinkId other.data = profLinkId sub.data &&
        apRemTimerPresent other.data := by
    apply List.mem_filter.mpr
    exact ⟨(List.mem_filter.mp hsub).1, by simp [htimer]⟩
  unfold lastDelay lastTimer
  cases hlast : ((perStaProfiles mlReconf).filter fun other =>
      profLinkId other.data = profLinkId sub.data &&
        apRemTimerPresent other.data).getLast? with
  | none =>
      rw [List.getLast?_eq_none_iff] at hlast
      rw [hlast] at hmem
      exact (List.not_mem_nil hmem).elim
  | some last =>
      have hfound := List.mem_filter.mp (List.mem_of_getLast? hlast)
      rw [Bool.and_eq_true, decide_eq_true_eq] at hfound
      have hannounced : last ∈ announcedProfiles st mlReconf := by
        apply List.mem_filter.mpr
        rw [hfound.2.1]
        exact ⟨hfound.1, (List.mem_filter.mp hsub).2⟩
      have hdelay := hpos last hannounced
      rw [profDelay, if_pos hfound.2.2, hfound.2.1] at hdelay
      exact hdelay

theorem earliestKept_iff (hlast : st.vif.validLinks.getLsbD 15 = false)
    (hne : announcedProfiles st mlReconf ≠ []) :
    (∀ sub ∈ announcedProfiles st mlReconf,
      ((linkIds (announcedLinks st mlReconf)).map
        (lastDelay st mlReconf)).foldl shorter 0 ≤ profDelay st sub) ↔
      EarliestKept st mlReconf := by
  have hids : (linkIds (announcedLinks st mlReconf)).map
      (lastDelay st mlReconf) ≠ [] := by
    obtain ⟨sub, hsub⟩ := List.exists_mem_of_ne_nil _ hne
    have hmem := (mem_announcedLinks hlast).mpr ⟨sub, hsub, rfl⟩
    exact List.ne_nil_of_mem (List.mem_map_of_mem hmem)
  unfold EarliestKept
  by_cases hzero : ∃ sub ∈ announcedProfiles st mlReconf, profDelay st sub = 0
  · rw [if_pos hzero]
    have hleast : (∀ sub ∈ announcedProfiles st mlReconf,
        ((linkIds (announcedLinks st mlReconf)).map
          (lastDelay st mlReconf)).foldl shorter 0 ≤ profDelay st sub) ↔
        ((linkIds (announcedLinks st mlReconf)).map
          (lastDelay st mlReconf)).foldl shorter 0 = 0 := by
      constructor
      · intro hall
        obtain ⟨sub, hsub, hdelay⟩ := hzero
        have hle := hall sub hsub
        omega
      · intro hfold sub _
        rw [hfold]
        exact Nat.zero_le _
    rw [hleast, foldl_shorter_zero hids, List.getLast?_map,
      Option.map_eq_some_iff]
  · rw [if_neg hzero]
    push Not at hzero
    have hpos : ∀ delay ∈ (linkIds (announcedLinks st mlReconf)).map
        (lastDelay st mlReconf), delay ≠ 0 := by
      intro delay hdelay
      obtain ⟨id, hid, rfl⟩ := List.mem_map.mp hdelay
      obtain ⟨sub, hsub, rfl⟩ := (mem_announcedLinks hlast).mp hid
      exact lastDelay_pos hzero hsub
    obtain ⟨hmem, hle⟩ := foldl_shorter_least hids hpos
    constructor
    · intro hall
      obtain ⟨id, hid, hfold⟩ := List.mem_map.mp hmem
      obtain ⟨sub, hsub, rfl⟩ := (mem_announcedLinks hlast).mp hid
      refine ⟨sub, hsub, fun other hother => ?_⟩
      rw [hfold]
      exact hall other hother
    · rintro ⟨sub, hsub, hall⟩ other hother
      have hid := (mem_announcedLinks hlast).mpr ⟨sub, hsub, rfl⟩
      exact (hle _ (List.mem_map_of_mem hid)).trans (hall other hother)

/-! ## One beacon -/

namespace ApRemoval

/-- An element that is ignored changes nothing, any other one what is removed
and when. -/
theorem mlReconfiguration_spec
    (hconf : ∀ id, st.vif.validLinks.getLsbD id = true →
      (st.vif.linkConf id).isSome = true)
    (hcall : st.mlReconfiguration now mlReconf = some st') :
    st' = { st with removedLinks := st'.removedLinks, work := st'.work } ∧
    (st.vif.validLinks = 0 ∨ ¬ReconfWellFormed mlReconf → st' = st) ∧
    (st.vif.validLinks ≠ 0 → ReconfWellFormed mlReconf →
      st'.removedLinks = announcedLinks st mlReconf ∧
      (announcedLinks st mlReconf ≠ 0 → st'.work = st.work.queue now
        (1024 * ((linkIds (announcedLinks st mlReconf)).map
          (lastDelay st mlReconf)).foldl shorter 0))) := by
  unfold mlReconfiguration at hcall
  by_cases hvalid : st.vif.validLinks = 0
  · rw [if_pos hvalid] at hcall
    cases hcall
    exact ⟨rfl, fun _ => rfl, fun hne => absurd hvalid hne⟩
  · rw [if_neg hvalid] at hcall
    cases hresult : reconfProfiles (mleSubelements mlReconf)
        ⟨0, fun _ => 0⟩ with
    | outOfBounds =>
        rw [hresult] at hcall
        cases hcall
    | tooShort =>
        rw [hresult] at hcall
        cases hcall
        refine ⟨rfl, fun _ => rfl, fun _ hwell => ?_⟩
        rcases reconfProfiles_wellFormed hwell ⟨0, fun _ => 0⟩ with
          hwalk | hwalk
        · rw [hresult] at hwalk
          cases hwalk
        · rw [hresult] at hwalk
          cases hwalk
    | tables found =>
        obtain ⟨hsizes, rfl⟩ :=
          ((reconfProfiles_spec _ _).2 found).mp hresult
        have hwell : ReconfWellFormed mlReconf :=
          fun sub hsub => (hsizes sub hsub).1
        rw [hresult] at hcall
        dsimp only at hcall
        change (if announcedLinks st mlReconf = 0 then _ else _) = _ at hcall
        by_cases hnone : announcedLinks st mlReconf = 0
        · rw [if_pos hnone] at hcall
          by_cases hplanned : st.removedLinks ≠ 0
          · rw [if_pos hplanned] at hcall
            cases hcall
            exact ⟨rfl, fun hor => (hor.elim hvalid fun hbad =>
              hbad hwell).elim, fun _ _ => ⟨hnone.symm,
                fun hne => absurd hnone hne⟩⟩
          · rw [if_neg hplanned] at hcall
            cases hcall
            rw [not_not] at hplanned
            exact ⟨rfl, fun _ => rfl, fun _ _ =>
              ⟨hplanned.trans hnone.symm, fun hne => absurd hnone hne⟩⟩
        · rw [if_neg hnone] at hcall
          cases hcall
          have hdelay := @removalDelay_eq st
            (ReconfTables.profiles ⟨0, fun _ => 0⟩
              (perStaProfiles mlReconf)).linkRemovalTimeout
            (linkIds (announcedLinks st mlReconf)) (fun id hid => by
              obtain ⟨sub, hsub, rfl⟩ :=
                getLsbD_announcedLinks.mp (mem_linkIds.mp hid).2
              exact hconf _ (List.mem_filter.mp hsub).2)
            (announcedLinks st mlReconf, 0)
          have hlast : ∀ id, st.delayAt id ((ReconfTables.profiles
              ⟨0, fun _ => 0⟩ (perStaProfiles mlReconf)).linkRemovalTimeout
                id) = lastDelay st mlReconf id := by
            intro id
            rw [profiles_timeout, lastDelay]
          refine ⟨rfl, fun hor => (hor.elim hvalid fun hbad =>
            hbad hwell).elim, fun _ _ => ⟨?_, fun _ => ?_⟩⟩
          · exact congrArg Prod.fst hdelay
          · have hsnd := congrArg Prod.snd hdelay
            dsimp only at hsnd
            rw [funext hlast] at hsnd
            exact congrArg (fun delay => st.work.queue now (1024 * delay))
              hsnd

theorem mlReconfiguration_inBounds :
    (st.mlReconfiguration now mlReconf).isSome = true ↔
      st.vif.validLinks = 0 ∨ ReconfInBounds mlReconf := by
  unfold mlReconfiguration
  by_cases hvalid : st.vif.validLinks = 0
  · rw [if_pos hvalid]
    exact iff_of_true rfl (Or.inl hvalid)
  · rw [if_neg hvalid, or_iff_right hvalid]
    refine Iff.trans ?_ (reconfProfiles_spec (mleSubelements mlReconf)
      ⟨0, fun _ => 0⟩).1
    cases reconfProfiles (mleSubelements mlReconf) ⟨0, fun _ => 0⟩ with
    | outOfBounds => simp
    | tooShort => simp
    | tables found =>
        dsimp only
        split
        · split
          · simp
          · simp
        · simp

theorem epcsProfiles_inBounds (subs : List Element) :
    (st.epcsProfiles subs).isSome = true ↔
      ∀ sub ∈ (subs.filter fun sub => sub.id = 0).takeWhile fun sub =>
          decide (2 ≤ sub.data.length),
        profLinkId sub.data < maxNumLinks := by
  induction subs with
  | nil => simp [epcsProfiles]
  | cons sub rest ih =>
      unfold epcsProfiles
      by_cases hid : sub.id = 0
      · rw [if_neg (not_not.mpr hid), List.filter_cons_of_pos (by simpa)]
        by_cases hsize : sub.data.length < 2
        · have hshort : ¬(decide (2 ≤ sub.data.length)) = true := by
            simpa using hsize
          rw [if_pos hsize, @List.takeWhile_cons_of_neg _
            (fun sub : Element => decide (2 ≤ sub.data.length)) sub _ hshort]
          simp
        · have hlong : decide (2 ≤ sub.data.length) = true :=
            decide_eq_true (Nat.not_lt.mp hsize)
          rw [if_neg hsize, @List.takeWhile_cons_of_pos _
            (fun sub : Element => decide (2 ≤ sub.data.length)) sub _ hlong,
            List.forall_mem_cons]
          by_cases hbound : maxNumLinks ≤ profLinkId sub.data
          · rw [if_pos hbound]
            apply iff_of_false
            · intro hsome
              cases hsome
            · exact fun hall => absurd hall.1 (Nat.not_lt.mpr hbound)
          · rw [if_neg hbound, and_iff_right (Nat.not_le.mp hbound), ← ih]
            split
            · rfl
            · exact iff_of_eq (congrArg (· = true) Option.isSome_map)
      · rw [if_pos hid, List.filter_cons_of_neg (by simpa)]
        exact ih

theorem mlEpcs_inBounds {mlEpcs : List UInt8} :
    (st.mlEpcs mlEpcs).isSome = true ↔
      st.vif.validLinks = 0 ∨ EpcsInBounds mlEpcs := by
  unfold ApRemoval.mlEpcs
  by_cases hvalid : st.vif.validLinks = 0
  · rw [if_pos hvalid]
    exact iff_of_true rfl (Or.inl hvalid)
  · rw [if_neg hvalid, or_iff_right hvalid]
    exact epcsProfiles_inBounds (mleSubelements mlEpcs)

end ApRemoval

end IwlwifiStack
