import IwlwifiStack.ApRemovalBeacon

/-!
# Runs of beacons and removals

The links that are removed are those of the last element, and an associated
station keeps an active link that it can use.
-/

namespace IwlwifiStack

namespace ApRemoval

variable {st st' : ApRemoval} {announced : BitVec 16}

/-- A station and the links that the last element announced. -/
structure Good (st : ApRemoval) (announced : BitVec 16) : Prop where
  vif : st.vif.Consistent
  type_eq : st.vif.type = .station
  active : st.vif.validLinks ≠ 0 → st.vif.ActiveUsable
  idle : st.associated = false → st.vif.validLinks = 0
  quiet : st.vif.validLinks = 0 → st.work = .cancel
  planned : st.removedLinks = announced
  announced_sub : announced &&& ~~~st.vif.validLinks = 0

theorem Good.linkConf_isSome (hgood : Good st announced) {id : ℕ}
    (hid : st.vif.validLinks.getLsbD id = true) :
    (st.vif.linkConf id).isSome = true := by
  apply (hgood.vif.tablesMatch.linkConf ?_ id).mpr hid
  intro hzero
  rw [hzero] at hid
  simp at hid

/-! ## Sets of links -/

theorem getLsbD_diff {left right : BitVec 16} {id : ℕ} :
    (left &&& ~~~right).getLsbD id = true ↔
      left.getLsbD id = true ∧ ¬right.getLsbD id = true := by
  rw [BitVec.getLsbD_and, BitVec.getLsbD_not, Bool.and_eq_true,
    Bool.and_eq_true, decide_eq_true_eq, Bool.not_eq_true', Bool.not_eq_true]
  constructor
  · rintro ⟨hleft, -, hright⟩
    exact ⟨hleft, hright⟩
  · rintro ⟨hleft, hright⟩
    exact ⟨hleft, BitVec.lt_of_getLsbD hleft, hright⟩

theorem sub_iff {left right : BitVec 16} : left &&& ~~~right = 0 ↔
    ∀ id, left.getLsbD id = true → right.getLsbD id = true := by
  constructor
  · intro hzero id hid
    by_contra hclear
    have hbit := getLsbD_diff.mpr ⟨hid, hclear⟩
    rw [hzero] at hbit
    simp at hbit
  · intro hsub
    apply BitVec.eq_of_getLsbD_eq
    intro id _
    by_contra hbit
    have hset : (left &&& ~~~right).getLsbD id = true := by
      simpa using hbit
    obtain ⟨hleft, hclear⟩ := getLsbD_diff.mp hset
    exact hclear (hsub id hleft)

theorem request_remove {valid dormant removed : BitVec 16}
    (hrequest : LinkRequest valid dormant)
    (hleft : valid &&& ~~~removed &&& ~~~dormant ≠ 0) :
    LinkRequest (valid &&& ~~~removed) (dormant &&& ~~~removed) := by
  have hsub := sub_iff.mp ((BitVec.and_comm _ _).trans hrequest.dormant_sub)
  constructor
  · rw [← Bool.not_eq_true]
    intro hlast
    have hvalid := (getLsbD_diff.mp hlast).1
    rw [hrequest.last] at hvalid
    cases hvalid
  · rw [BitVec.and_comm, sub_iff]
    intro id hid
    obtain ⟨hdormant, hkept⟩ := getLsbD_diff.mp hid
    exact getLsbD_diff.mpr ⟨hsub id hdormant, hkept⟩
  · intro _ hall
    apply hleft
    rw [sub_iff] at hall ⊢
    intro id hid
    exact (getLsbD_diff.mp (hall id hid)).1

/-! ## Leaving the AP -/

theorem request_zero : LinkRequest 0 0 := by
  constructor
  · decide
  · decide
  · exact fun hne => absurd rfl hne

theorem disconnect_associated (hvif : st.vif.Consistent)
    (htype : st.vif.type = .station) (hassociated : st.associated = true)
    (env : SetLinksEnv) :
    ∃ st', st.disconnect env = some st' ∧ st'.associated = false ∧
      st'.vif.validLinks = 0 ∧ Good st' 0 := by
  obtain ⟨⟨ret, vif⟩, hcall⟩ := @VifLinks.vifSetLinks_returns env st.vif 0 0
    fun hvlan => by
      rw [htype] at hvlan
      cases hvlan
  obtain ⟨htype', hret, hsets⟩ :=
    VifLinks.vifSetLinks_sets hvif request_zero hcall
  have hvalid := (hsets (hret rfl)).1
  unfold disconnect
  rw [if_neg (by simp [hassociated]), hcall]
  refine ⟨_, rfl, rfl, hvalid, ?_⟩
  constructor
  · exact (VifLinks.vifSetLinks_spec hvif request_zero hcall).1
  · exact htype'.trans htype
  · exact fun hne => absurd hvalid hne
  · exact fun _ => hvalid
  · exact fun _ => rfl
  · rfl
  · exact BitVec.zero_and

theorem disconnect_good (hgood : Good st announced) (env : SetLinksEnv) :
    ∃ st', st.disconnect env = some st' ∧
      Good st' (if st.associated then 0 else announced) := by
  by_cases hassociated : st.associated = true
  · obtain ⟨after, hafter, -, -, hgood'⟩ :=
      disconnect_associated hgood.vif hgood.type_eq hassociated env
    rw [if_pos hassociated]
    exact ⟨after, hafter, hgood'⟩
  · rw [disconnect, if_pos (by simpa using hassociated), if_neg hassociated]
    exact ⟨st, rfl, hgood⟩

/-! ## The work -/

/-- The links are removed, and one that can be used stays active; or the
station leaves the AP. -/
def Removed (st : ApRemoval) (announced : BitVec 16) (st' : ApRemoval) :
    Prop :=
  st'.associated = false ∧ st'.vif.validLinks = 0 ∨
    (∀ id, st'.vif.validLinks.getLsbD id = true ↔
      st.vif.validLinks.getLsbD id = true ∧
        ¬announced.getLsbD id = true) ∧ st'.vif.ActiveUsable

theorem reconfOut_failed (hvif : st.vif.Consistent)
    (htype : st.vif.type = .station) (hassociated : st.associated = true)
    (env : WorkEnv) {ret : ℤ} (hret : ret ≠ 0) :
    ∃ st', reconfOut env ret st = some st' ∧ st'.associated = false ∧
      st'.vif.validLinks = 0 ∧ Good st' 0 := by
  obtain ⟨after, hafter, hleft, hvalid, hgood⟩ :=
    disconnect_associated hvif htype hassociated env.disconnect
  unfold reconfOut
  rw [if_neg hret, hafter]
  refine ⟨_, rfl, hleft, hvalid, ?_⟩
  exact ⟨hgood.vif, hgood.type_eq, hgood.active, hgood.idle, hgood.quiet, rfl,
    BitVec.zero_and⟩

theorem reconfActive_spec (hgood : Good st announced)
    (hvalid : st.vif.validLinks ≠ 0)
    (hleft : st.vif.validLinks &&& ~~~announced &&& ~~~st.vif.dormantLinks ≠
      0) (env : WorkEnv) :
    ∃ active, (st.reconfActive env).2 =
        { st.vif with activeLinks := active } ∧
      (active ≠ 0 ∧ active &&& ~~~st.vif.usableLinks = 0) ∧
      ((st.reconfActive env).1 = 0 →
        active &&& ~~~(st.vif.validLinks &&& ~~~announced &&&
          ~~~st.vif.dormantLinks) = 0) := by
  have hactive := hgood.active hvalid
  have husable := sub_iff.mp hactive.2
  have hkept : st.vif.activeLinks &&& ~~~announced &&&
      ~~~(st.vif.validLinks &&& ~~~announced &&& ~~~st.vif.dormantLinks) =
        0 := by
    rw [sub_iff]
    intro id hid
    obtain ⟨hset, hnot⟩ := getLsbD_diff.mp hid
    obtain ⟨hbit, hdormant⟩ := getLsbD_diff.mp (husable id hset)
    exact getLsbD_diff.mpr ⟨getLsbD_diff.mpr ⟨hbit, hnot⟩, hdormant⟩
  unfold reconfActive
  rw [hgood.planned]
  dsimp only
  by_cases hchange : st.vif.activeLinks &&& ~~~announced ≠
      st.vif.activeLinks
  · rw [if_pos hchange]
    obtain ⟨active, hcall, hcase, hret⟩ := VifLinks.setActiveLinks_spec
      env.active st.vif (if st.vif.activeLinks &&& ~~~announced = 0 then
        firstLink (st.vif.validLinks &&& ~~~announced &&&
          ~~~st.vif.dormantLinks)
        else st.vif.activeLinks &&& ~~~announced)
    refine ⟨active, hcall, ?_, ?_⟩
    · rcases hcase with rfl | hcase
      · exact hactive
      · exact hcase
    · intro hzero
      rw [(hret hzero).1]
      split
      · exact (VifLinks.firstLink_spec hleft).2
      · exact hkept
  · rw [if_neg hchange]
    rw [not_not] at hchange
    refine ⟨st.vif.activeLinks, rfl, hactive, fun _ => ?_⟩
    rw [hchange] at hkept
    exact hkept

theorem Good.withActive (hgood : Good st announced) {active : BitVec 16}
    (hactive : st.vif.validLinks ≠ 0 →
      active ≠ 0 ∧ active &&& ~~~st.vif.usableLinks = 0)
    (hidle : st.vif.validLinks = 0 → active = 0) :
    Good { st with vif := { st.vif with activeLinks := active } }
      announced := by
  constructor
  · exact hgood.vif.update rfl hgood.vif.tables rfl hgood.vif.request hidle
      (fun n => Iff.rfl) (le_refl _)
  · exact hgood.type_eq
  · exact hactive
  · exact hgood.idle
  · exact hgood.quiet
  · exact hgood.planned
  · exact hgood.announced_sub

theorem mlReconfWork_removed (hgood : Good st announced)
    (hvalid : st.vif.validLinks ≠ 0) (env : WorkEnv) :
    ∃ st', st.mlReconfWork env = some st' ∧ Removed st announced st' ∧
      Good st' 0 := by
  have hplanned := hgood.planned
  subst hplanned
  have hassociated : st.associated = true := by
    by_contra hleft
    exact hvalid (hgood.idle (by simpa using hleft))
  unfold mlReconfWork
  by_cases hnone : st.removedLinks = 0
  · rw [hnone] at hgood ⊢
    rw [if_pos rfl]
    exact ⟨st, rfl, Or.inr ⟨fun id => by simp, hgood.active hvalid⟩, hgood⟩
  · rw [if_neg hnone]
    dsimp only
    have hchange : st.vif.validLinks &&& ~~~st.removedLinks ≠
        st.vif.validLinks := by
      intro hsame
      apply hnone
      apply BitVec.eq_of_getLsbD_eq
      intro id _
      by_contra hbit
      have hset : st.removedLinks.getLsbD id = true := by simpa using hbit
      have hin := sub_iff.mp hgood.announced_sub id hset
      rw [← hsame] at hin
      exact (getLsbD_diff.mp hin).2 hset
    rw [if_neg hchange]
    by_cases hgone : st.vif.validLinks &&& ~~~st.removedLinks = 0 ∨
        st.vif.validLinks &&& ~~~st.removedLinks &&& ~~~st.vif.dormantLinks =
          0
    · rw [if_pos hgone]
      obtain ⟨after, hafter, hleft, hzero, hgood'⟩ := reconfOut_failed hgood.vif
        hgood.type_eq hassociated env (by decide : errEINVAL ≠ 0)
      exact ⟨after, hafter, Or.inl ⟨hleft, hzero⟩, hgood'⟩
    · rw [if_neg hgone]
      rw [not_or] at hgone
      obtain ⟨active, hswitched, hactive, hret⟩ :=
        reconfActive_spec hgood hvalid hgone.2 env
      have hgood' := hgood.withActive (fun _ => hactive)
        fun hzero => absurd hzero hvalid
      rw [hswitched]
      by_cases hfailed : (st.reconfActive env).1 ≠ 0
      · rw [if_pos hfailed]
        obtain ⟨after, hafter, hleft, hzero, hlast⟩ := reconfOut_failed
          hgood'.vif hgood'.type_eq hassociated env hfailed
        exact ⟨after, hafter, Or.inl ⟨hleft, hzero⟩, hlast⟩
      · rw [if_neg hfailed]
        rw [not_not] at hfailed
        have hrequest := request_remove hgood'.vif.request hgone.2
        obtain ⟨⟨ret, vif⟩, hcall⟩ := @VifLinks.vifSetLinks_returns env.links
          { st.vif with activeLinks := active }
          (st.vif.validLinks &&& ~~~st.removedLinks)
          (st.vif.dormantLinks &&& ~~~st.removedLinks) fun hvlan => by
            change st.vif.type = _ at hvlan
            rw [hgood.type_eq] at hvlan
            cases hvlan
        obtain ⟨htype, -, hsets⟩ :=
          VifLinks.vifSetLinks_sets hgood'.vif hrequest hcall
        have hvif := (VifLinks.vifSetLinks_spec hgood'.vif hrequest hcall).1
        rw [hcall, Option.bind_some]
        by_cases hrefused : ret = 0
        · obtain ⟨hnewValid, hnewDormant, hkept⟩ := hsets hrefused
          have hnewActive := hkept hgone.1 hgood.type_eq hactive.1
          have husable : vif.ActiveUsable := by
            unfold VifLinks.ActiveUsable VifLinks.usableLinks
            rw [hnewValid, hnewDormant, hnewActive]
            refine ⟨hactive.1, ?_⟩
            rw [sub_iff]
            intro id hid
            obtain ⟨hin, hdormant⟩ := getLsbD_diff.mp
              (sub_iff.mp (hret hfailed) id hid)
            exact getLsbD_diff.mpr ⟨hin, fun hbit =>
              hdormant (getLsbD_diff.mp hbit).1⟩
          unfold reconfOut
          rw [if_pos hrefused]
          refine ⟨_, rfl, Or.inr ⟨fun id => ?_, husable⟩, ?_⟩
          · change vif.validLinks.getLsbD id = true ↔ _
            rw [hnewValid]
            exact getLsbD_diff
          · constructor
            · exact hvif
            · exact htype.trans hgood.type_eq
            · exact fun _ => husable
            · exact fun hleft => absurd (hgood.idle hleft) hvalid
            · exact fun hzero =>
                absurd (hnewValid.symm.trans hzero) hgone.1
            · rfl
            · exact BitVec.zero_and
        · obtain ⟨after, hafter, hleft, hzero, hlast⟩ := @reconfOut_failed
            { st with vif := vif } hvif (htype.trans hgood.type_eq)
              hassociated env ret hrefused
          exact ⟨after, hafter, Or.inl ⟨hleft, hzero⟩, hlast⟩

/-! ## Runs -/

instance (mlReconf : List UInt8) : Decidable (ReconfWellFormed mlReconf) := by
  unfold ReconfWellFormed
  infer_instance

/-- The links that the last element announced, after an event. -/
def announcedAfter (st : ApRemoval) (announced : BitVec 16) :
    RemovalEvent → BitVec 16
  | .beacon _ mlReconf =>
      if st.vif.validLinks ≠ 0 ∧ ReconfWellFormed mlReconf then
        announcedLinks st mlReconf
      else announced
  | .reconfWork _ => if st.work.queued then 0 else announced
  | .disconnect _ => if st.associated then 0 else announced
  | _ => announced

def announcedStep (run : ApRemoval × BitVec 16) (event : RemovalEvent) :
    Option ((ApRemoval × BitVec 16) × List Unit) :=
  (run.1.step event).map fun st => ((st, announcedAfter run.1 run.2 event), [])

theorem announcedLinks_sub (st : ApRemoval) (mlReconf : List UInt8) :
    announcedLinks st mlReconf &&& ~~~st.vif.validLinks = 0 := by
  rw [sub_iff]
  intro id hid
  unfold announcedLinks at hid
  rw [BitVec.getLsbD_and, Bool.and_eq_true] at hid
  exact hid.2

theorem mlReconfiguration_good (hgood : Good st announced) {now : ℕ}
    {mlReconf : List UInt8}
    (hcall : st.mlReconfiguration now mlReconf = some st') :
    Good st' (announcedAfter st announced (.beacon now mlReconf)) := by
  obtain ⟨hsame, hignored, htaken⟩ :=
    mlReconfiguration_spec (fun id hid => hgood.linkConf_isSome hid) hcall
  unfold announcedAfter
  by_cases hread : st.vif.validLinks ≠ 0 ∧ ReconfWellFormed mlReconf
  · dsimp only
    rw [if_pos hread]
    have hremoved := (htaken hread.1 hread.2).1
    rw [hsame]
    constructor
    · exact hgood.vif
    · exact hgood.type_eq
    · exact hgood.active
    · exact hgood.idle
    · exact fun hzero => absurd hzero hread.1
    · exact hremoved
    · exact announcedLinks_sub st mlReconf
  · dsimp only
    rw [if_neg hread]
    rw [hignored (by tauto)]
    exact hgood

theorem Good.withWork (hgood : Good st announced) {work : HrtimerWork}
    (hquiet : st.vif.validLinks = 0 → work = .cancel) :
    Good { st with work := work } announced :=
  ⟨hgood.vif, hgood.type_eq, hgood.active, hgood.idle, hquiet, hgood.planned,
    hgood.announced_sub⟩

theorem reconfWork_removed (hgood : Good st announced)
    (hqueued : st.work.queued = true) (env : WorkEnv) :
    ∃ st', st.step (.reconfWork env) = some st' ∧
      Removed st announced st' ∧ Good st' 0 := by
  have hvalid : st.vif.validLinks ≠ 0 := by
    intro hzero
    rw [hgood.quiet hzero] at hqueued
    cases hqueued
  simp only [step]
  rw [if_pos hqueued]
  have hrunning : Good { st with work := { st.work with queued := false } }
      announced := hgood.withWork fun hzero => absurd hzero hvalid
  exact mlReconfWork_removed hrunning hvalid env

theorem setActiveLinks_good (hgood : Good st announced) (env : ActiveLinksEnv)
    (activeLinks : BitVec 16) :
    Good { st with vif := (st.vif.setActiveLinks env activeLinks).2 }
      announced := by
  obtain ⟨active, hcall, hcase, -⟩ :=
    VifLinks.setActiveLinks_spec env st.vif activeLinks
  rw [hcall]
  apply hgood.withActive
  · intro hvalid
    rcases hcase with rfl | hcase
    · exact hgood.active hvalid
    · exact hcase
  · intro hzero
    rcases hcase with rfl | ⟨hne, husable⟩
    · exact hgood.vif.idle hzero
    · exfalso
      apply hne
      apply BitVec.eq_of_getLsbD_eq
      intro id _
      by_contra hbit
      have hset : active.getLsbD id = true := by simpa using hbit
      have hin := (getLsbD_diff.mp (sub_iff.mp husable id hset)).1
      rw [hzero] at hin
      simp at hin

theorem step_good (hgood : Good st announced) {event : RemovalEvent}
    (hstep : st.step event = some st') :
    Good st' (announcedAfter st announced event) := by
  cases event with
  | beacon now mlReconf => exact mlReconfiguration_good hgood hstep
  | timer now =>
      cases hstep
      apply hgood.withWork
      intro hzero
      rw [hgood.quiet hzero]
      rfl
  | reconfWork env =>
      unfold announcedAfter
      by_cases hqueued : st.work.queued = true
      · obtain ⟨after, hafter, -, hgood'⟩ :=
          reconfWork_removed hgood hqueued env
        rw [hafter] at hstep
        cases hstep
        dsimp only
        rw [if_pos hqueued]
        exact hgood'
      · simp only [step] at hstep
        rw [if_neg hqueued] at hstep
        cases hstep
        dsimp only
        rw [if_neg hqueued]
        exact hgood
  | epcs mlEpcs =>
      obtain ⟨found, -, rfl⟩ := Option.map_eq_some_iff.mp hstep
      exact hgood
  | setActiveLinks env activeLinks =>
      cases hstep
      exact setActiveLinks_good hgood env activeLinks
  | disconnect env =>
      obtain ⟨after, hafter, hgood'⟩ := disconnect_good hgood env
      rw [step, hafter] at hstep
      cases hstep
      exact hgood'

/-- A station that has associated with its links. -/
structure Started (st : ApRemoval) : Prop where
  vif : st.vif.Consistent
  type_eq : st.vif.type = .station
  valid : st.vif.validLinks ≠ 0
  active : st.vif.ActiveUsable
  associated : st.associated = true
  none_removed : st.removedLinks = 0
  quiet : st.work = .cancel

theorem Started.good (hstart : Started st) : Good st 0 := by
  constructor
  · exact hstart.vif
  · exact hstart.type_eq
  · exact fun _ => hstart.active
  · intro hleft
    rw [hstart.associated] at hleft
    cases hleft
  · exact fun _ => hstart.quiet
  · exact hstart.none_removed
  · exact BitVec.zero_and

/-- In every state of a run: which elements stay within the tables, when the
work is due after a beacon that announces a removal, and what it removes. -/
theorem ap_removal (hstart : Started st) {run : ApRemoval × BitVec 16}
    (hreach : ConditionedRun.Reachable announcedStep (fun _ _ => True) (st, 0)
      run) :
    (∀ now mlReconf,
      ((run.1.mlReconfiguration now mlReconf).isSome = true ↔
        run.1.vif.validLinks = 0 ∨ ReconfInBounds mlReconf) ∧
      ∀ st', run.1.mlReconfiguration now mlReconf = some st' →
        ReconfWellFormed mlReconf → announcedProfiles run.1 mlReconf ≠ [] →
        ((∀ sub ∈ announcedProfiles run.1 mlReconf,
          st'.work.DueBy (now + 1024 * profDelay run.1 sub)) ↔
          run.1.work.queued = true ∨ EarliestKept run.1 mlReconf)) ∧
    (∀ mlEpcs, (run.1.mlEpcs mlEpcs).isSome = true ↔
      run.1.vif.validLinks = 0 ∨ EpcsInBounds mlEpcs) ∧
    (run.1.work.queued = true → ∀ env, ∃ st',
      run.1.step (.reconfWork env) = some st' ∧
        Removed run.1 run.2 st') := by
  have hgood : Good run.1 run.2 := by
    apply @ConditionedRun.Reachable.invariant _ _ _ _ _ _
      (fun run => Good run.1 run.2) hstart.good ?_ _ hreach
    intro before event after output hbefore _ hnext
    obtain ⟨st', hstep, heq⟩ := Option.map_eq_some_iff.mp hnext
    cases heq
    exact step_good hbefore hstep
  refine ⟨fun now mlReconf => ⟨mlReconfiguration_inBounds, ?_⟩,
    fun mlEpcs => mlEpcs_inBounds, ?_⟩
  · intro st' hcall hwell hne
    have hlast := hgood.vif.request.last
    obtain ⟨sub, hsub⟩ := List.exists_mem_of_ne_nil _ hne
    have hannounced : announcedLinks run.1 mlReconf ≠ 0 := by
      intro hzero
      have hbit := getLsbD_announcedLinks.mpr ⟨sub, hsub, rfl⟩
      rw [hzero] at hbit
      simp at hbit
    have hvalid : run.1.vif.validLinks ≠ 0 := by
      intro hzero
      have hbit := (List.mem_filter.mp hsub).2
      rw [hzero] at hbit
      simp at hbit
    obtain ⟨-, -, htaken⟩ :=
      mlReconfiguration_spec (fun id hid => hgood.linkConf_isSome hid) hcall
    rw [(htaken hvalid hwell).2 hannounced, ← earliestKept_iff hlast hne]
    constructor
    · intro hdue
      by_cases hqueued : run.1.work.queued = true
      · exact Or.inl hqueued
      · refine Or.inr fun other hother => ?_
        rcases (HrtimerWork.queue_dueBy (Nat.le_add_right now _)).mp
          (hdue other hother) with hcase | hle
        · exact absurd hcase hqueued
        · omega
    · intro hcase other hother
      apply (HrtimerWork.queue_dueBy (Nat.le_add_right now _)).mpr
      rcases hcase with hqueued | hle
      · exact Or.inl hqueued
      · have hearly := hle other hother
        omega
  · intro hqueued env
    obtain ⟨st', hstep, hremoved, -⟩ := reconfWork_removed hgood hqueued env
    exact ⟨st', hstep, hremoved⟩

/-! ## Elements for links 0 and 1 -/

def twoLinks : ApRemoval where
  associated := true
  vif := (((VifLinks.initial .station 0x0200000000bb#48).vifSetLinks
    (VifLinks.sampleEnv 0x0200000000cc#48) 3 0).map Prod.snd).getD
      (.initial .station 0)
  beaconInt := fun _ => 100
  removedLinks := 0
  work := .cancel

def twoTimers (first second : UInt8) : List UInt8 :=
  [2, 0, 1, 0, 5, 0x40, 0, 3, first, 0, 0, 5, 0x41, 0, 3, second, 0]

theorem twoLinks_started : Started twoLinks := by
  have hrun : ((VifLinks.initial .station 0x0200000000bb#48).vifSetLinks
      (VifLinks.sampleEnv 0x0200000000cc#48) 3 0).isSome = true := by
    decide +kernel
  have hrequest : LinkRequest 3 0 := by
    constructor <;> decide
  obtain ⟨⟨ret, vif⟩, hcall⟩ := Option.isSome_iff_exists.mp hrun
  have hvif : twoLinks.vif = vif := by
    unfold twoLinks
    rw [hcall]
    rfl
  constructor
  · rw [hvif]
    exact (VifLinks.vifSetLinks_spec
      (VifLinks.initial_consistent .station 0x0200000000bb#48)
        hrequest hcall).1
  · decide +kernel
  · decide +kernel
  · exact ⟨by decide +kernel, by decide +kernel⟩
  · rfl
  · rfl
  · rfl

/-- Two timers above 1 are kept. -/
theorem ap_removal_two_timers :
    ∃ st', twoLinks.mlReconfiguration 0 (twoTimers 10 20) = some st' ∧
      ∀ sub ∈ announcedProfiles twoLinks (twoTimers 10 20),
        st'.work.DueBy (0 + 1024 * profDelay twoLinks sub) := by
  have hbeacon :=
    (ap_removal twoLinks_started .start).1 0 (twoTimers 10 20)
  have hbounds : ReconfInBounds (twoTimers 10 20) := by
    unfold ReconfInBounds
    decide +kernel
  have hkept : EarliestKept twoLinks (twoTimers 10 20) := by
    unfold EarliestKept
    rw [if_neg (by decide +kernel)]
    decide +kernel
  obtain ⟨st', hst'⟩ :=
    Option.isSome_iff_exists.mp (hbeacon.1.mpr (Or.inr hbounds))
  exact ⟨st', hst', (hbeacon.2 st' hst' (by decide +kernel)
    (by decide +kernel)).mpr (Or.inr hkept)⟩

/-- A profile of link 15 with a timer is written behind the table, one in an
EPCS response is read behind it; and of two timers the later one counts when
the first is for removal at once. -/
theorem ap_removal_fails :
    Started twoLinks ∧
    (twoLinks.mlReconfiguration 0
      [2, 0, 1, 0, 5, 0x4f, 0, 3, 10, 0]).isNone = true ∧
    (twoLinks.mlEpcs
      [4, 0, 7, 0, 0, 0, 0, 0, 0, 0, 2, 0x0f, 0]).isNone = true ∧
    (twoLinks.mlReconfiguration 0 (twoTimers 1 100)).map ApRemoval.work =
      some ⟨some (1024 * 9900), false⟩ ∧
    (announcedProfiles twoLinks (twoTimers 1 100)).map
      (profDelay twoLinks) = [0, 9900] :=
  ⟨twoLinks_started, by decide +kernel, by decide +kernel, by decide +kernel,
    by decide +kernel⟩

end ApRemoval

end IwlwifiStack
