import IwlwifiStack.LinkSetRestore

/-!
# Runs of link changes

Over every run the tables hold exactly the valid links, or the default link,
and a failed call leaves the configuration alone exactly when it restores the
right dormant links.
-/

namespace IwlwifiStack

namespace VifLinks

variable {env : SetLinksEnv} {old st start : VifLinks}
  {links : ℕ → Option ℕ} {newLinks dormantLinks : BitVec 16} {ret : ℤ}

/-! ## After success -/

theorem dupLinkAddrs_deflink
    (hlink : st.link = fun id => if id = 0 then some .deflink else none) :
    st.dupLinkAddrs = false := by
  rw [dupLinkAddrs, List.any_eq_false]
  intro i _
  rw [Bool.not_eq_true, List.any_eq_false]
  intro j _
  rw [hlink]
  by_cases hj : j = 0
  · simp [hj]
  · by_cases hi : i = 0
    · simp [hi, hj]
    · simp [hi]

theorem done_bitmaps {committed : ℤ × VifLinks} (hold : old.Consistent)
    (hprepared : Prepared env old newLinks links start)
    (hcommit : commitLinks env old
      (old.grabLinks (old.removedLinks newLinks)) newLinks dormantLinks
      start = committed) (hret : newLinks = 0 ∨ committed.1 = 0) :
    committed.2 = (start.tearDownLinks
      (old.grabLinks (old.removedLinks newLinks))
      (old.removedLinks newLinks)).setVifLinksBitmaps newLinks
        dormantLinks := by
  rcases commitLinks_spec hcommit with ⟨hdup, rfl⟩ | ⟨-, hstate⟩
  · rcases hret with rfl | hret
    · rw [dupLinkAddrs_deflink (hprepared.tables_empty hold).1] at hdup
      cases hdup
    · cases hret
  · exact hstate

theorem done_live {mid : VifLinks} (hold : old.Consistent)
    (halloc : Allocated old (old.addedLinks newLinks) mid links)
    (hlive : st.live = mid.live) (n : ℕ) :
    n ∈ (st.kfree (old.grabLinks (old.removedLinks newLinks))).live ↔
      (∃ id, old.link id = some (.container n) ∧
        id ∉ linkIds (old.removedLinks newLinks)) ∨
      ∃ id, links id = some n := by
  rw [mem_kfree, hlive, halloc.live_iff, hold.live_iff]
  constructor
  · rintro ⟨⟨id, hid⟩ | hnew, hnot⟩
    · refine Or.inl ⟨id, hid, fun hrem => ?_⟩
      exact hnot id (hold.link_lt hid).2 (grabLinks_eq_some.mpr ⟨hrem, hid⟩)
    · exact Or.inr hnew
  · rintro (⟨id, hid, hkept⟩ | ⟨id, hid⟩)
    · refine ⟨Or.inl ⟨id, hid⟩, fun other _ hgrab => ?_⟩
      obtain ⟨hrem, hother⟩ := grabLinks_eq_some.mp hgrab
      rw [hold.injective other id n hother hid] at hrem
      exact hkept hrem
    · refine ⟨Or.inr ⟨id, hid⟩, fun other _ hgrab => ?_⟩
      have hother := (grabLinks_eq_some.mp hgrab).2
      have hlt := hold.fresh n ((hold.live_iff n).mpr ⟨other, hother⟩)
      have hge := (halloc.new id n hid).1
      omega

theorem Prepared.container (hold : old.Consistent)
    (hprepared : Prepared env old newLinks links start) (hnew : newLinks ≠ 0)
    {id : ℕ} {ptr : LinkPtr} (hlink : start.link id = some ptr) :
    ∃ n, ptr = .container n ∧ (links id = some n ∨
      old.link id = some (.container n) ∧
        id ∉ linkIds (old.removedLinks newLinks)) := by
  obtain ⟨hadded, hother⟩ := hprepared.tables hnew id
  by_cases hadd : id ∈ old.addedLinks newLinks
  · obtain ⟨n, hn, htable, -⟩ := hadded hadd
    rw [hlink] at htable
    exact ⟨n, Option.some.inj htable, Or.inl hn⟩
  · have htable := (hother hadd).1
    by_cases hrem : id ∈ linkIds (old.removedLinks newLinks)
    · rw [if_pos hrem, hlink] at htable
      cases htable
    · rw [if_neg hrem, hlink] at htable
      cases ptr with
      | container n => exact ⟨n, rfl, Or.inr ⟨htable.symm, hrem⟩⟩
      | deflink =>
          exfalso
          by_cases hvalid : old.validLinks = 0
          · rw [hold.empty hvalid] at htable
            by_cases hzero : id = 0
            · apply hrem
              rw [mem_removedLinks, hzero]
              exact ⟨by decide, Or.inr ⟨hvalid, rfl⟩⟩
            · rw [if_neg hzero] at htable
              cases htable
          · exact hold.no_deflink hvalid id htable.symm

theorem Prepared.container_iff (hold : old.Consistent)
    (hprepared : Prepared env old newLinks links start) (hnew : newLinks ≠ 0)
    {mid : VifLinks}
    (halloc : Allocated old (old.addedLinks newLinks) mid links)
    {id n : ℕ} :
    start.link id = some (.container n) ↔ links id = some n ∨
      old.link id = some (.container n) ∧
        id ∉ linkIds (old.removedLinks newLinks) := by
  constructor
  · intro hlink
    obtain ⟨m, hm, hcase⟩ := hprepared.container hold hnew hlink
    cases hm
    exact hcase
  · obtain ⟨hadded, hother⟩ := hprepared.tables hnew id
    rintro (hn | ⟨hlink, hrem⟩)
    · obtain ⟨m, hm, htable, -⟩ := hadded (halloc.mem_ids id n hn)
      rw [hn] at hm
      cases hm
      exact htable
    · have hadd : id ∉ old.addedLinks newLinks := by
        intro hadd
        have hset := (hold.entry (hold.link_lt hlink).1 id).mpr ⟨n, hlink⟩
        rw [(mem_addedLinks.mp hadd).2.2] at hset
        cases hset
      rw [(hother hadd).1, if_neg hrem, hlink]

theorem Prepared.entry (hold : old.Consistent)
    (hprepared : Prepared env old newLinks links start) (hnew : newLinks ≠ 0)
    (hlast : newLinks.getLsbD 15 = false) (id : ℕ) :
    newLinks.getLsbD id = true ↔ ∃ n, start.link id = some (.container n) := by
  obtain ⟨mid, halloc, -⟩ := hprepared.frame
  constructor
  · intro hset
    by_cases hbit : old.validLinks.getLsbD id = true
    · have hvalid : old.validLinks ≠ 0 := by
        intro hzero
        rw [hzero] at hbit
        simp at hbit
      obtain ⟨n, hn⟩ := (hold.entry hvalid id).mp hbit
      refine ⟨n, (hprepared.container_iff hold hnew halloc).mpr
        (Or.inr ⟨hn, fun hrem => ?_⟩)⟩
      rcases (mem_removedLinks.mp hrem).2 with ⟨-, hclear⟩ | ⟨hzero, -⟩
      · rw [hset] at hclear
        cases hclear
      · exact hvalid hzero
    · rw [Bool.not_eq_true] at hbit
      have hadd := mem_addedLinks.mpr ⟨linkId_lt hlast hset, hset, hbit⟩
      obtain ⟨n, -, hlink, -⟩ := (hprepared.tables hnew id).1 hadd
      exact ⟨n, hlink⟩
  · rintro ⟨n, hlink⟩
    rcases (hprepared.container_iff hold hnew halloc).mp hlink with
      hn | ⟨hn, hrem⟩
    · exact (mem_addedLinks.mp (halloc.mem_ids id n hn)).2.1
    · by_contra hclear
      rw [Bool.not_eq_true] at hclear
      obtain ⟨hvalid, hlt⟩ := hold.link_lt hn
      exact hrem (mem_removedLinks.mpr ⟨hlt,
        Or.inl ⟨(hold.entry hvalid id).mpr ⟨n, hn⟩, hclear⟩⟩)

theorem done_consistent {committed : ℤ × VifLinks} (hold : old.Consistent)
    (hlast : newLinks.getLsbD 15 = false)
    (hprepared : Prepared env old newLinks links start)
    (hcommit : commitLinks env old
      (old.grabLinks (old.removedLinks newLinks)) newLinks dormantLinks
      start = committed) (hret : newLinks = 0 ∨ committed.1 = 0)
    (hst : deinit env (newLinks = 0) committed.2 = some st) :
    (st.kfree (old.grabLinks (old.removedLinks newLinks))).Consistent := by
  obtain ⟨mid, halloc, htype, hvalid, -, hactive, hkeys, hlive, hnext⟩ :=
    hprepared.frame
  obtain ⟨hctype, hclink, hcconf, hclive, hcnext, -⟩ :=
    commitLinks_frame hcommit hkeys hvalid
  have hbits := @setVifLinksBitmaps_bits newLinks dormantLinks
    (start.tearDownLinks (old.grabLinks (old.removedLinks newLinks))
      (old.removedLinks newLinks)) hlast
  rw [← done_bitmaps hold hprepared hcommit hret] at hbits
  obtain ⟨hsame, hlink, hconf⟩ := deinit_spec hst
  have hstlive := @done_live old st links newLinks mid hold halloc
    (hsame.live_eq.trans (hclive.trans hlive))
  have hfresh : ∀ n, ((∃ id, old.link id = some (.container n) ∧
        id ∉ linkIds (old.removedLinks newLinks)) ∨
      ∃ id, links id = some n) → n < st.nextContainer := by
    intro n hn
    rw [hsame.next_eq, hcnext, hnext]
    rcases hn with ⟨id, hid, -⟩ | ⟨id, hid⟩
    · exact Nat.lt_of_lt_of_le
        (hold.fresh n ((hold.live_iff n).mpr ⟨id, hid⟩)) halloc.next_le
    · exact (halloc.new id n hid).2
  have hvalidLinks : (st.kfree (old.grabLinks
      (old.removedLinks newLinks))).validLinks = newLinks :=
    hsame.valid_eq.trans hbits.1
  have hdormant : (st.kfree (old.grabLinks
      (old.removedLinks newLinks))).dormantLinks =
        committed.2.dormantLinks := hsame.dormant_eq
  have hidle : (st.kfree (old.grabLinks
      (old.removedLinks newLinks))).activeLinks = committed.2.activeLinks :=
    hsame.active_eq
  by_cases hnew : newLinks = 0
  · subst hnew
    have hdefault := hprepared.tables_empty hold
    rw [if_pos (by decide), hclink, hdefault.1] at hlink
    rw [if_pos (by decide), hcconf, hdefault.2] at hconf
    have htable : ∀ id, st.link id = if id = 0 then some .deflink else none := by
      intro id
      rw [hlink]
      by_cases hid : id = 0
      · simp [hid]
      · simp [hid]
    have hnone : ∀ id n, st.link id ≠ some (.container n) := by
      intro id n
      rw [htable]
      split
      · intro heq
        cases heq
      · intro heq
        cases heq
    have hempty : ∀ n, n ∉ (st.kfree (old.grabLinks
        (old.removedLinks 0))).live := by
      intro n hn
      rcases (hstlive n).mp hn with ⟨id, hid, hkept⟩ | ⟨id, hid⟩
      · obtain ⟨hne, hlt⟩ := hold.link_lt hid
        exact hkept (mem_removedLinks.mpr ⟨hlt,
          Or.inl ⟨(hold.entry hne id).mpr ⟨n, hid⟩, by simp⟩⟩)
      · have hadd := (mem_addedLinks.mp (halloc.mem_ids id n hid)).2.1
        simp at hadd
    constructor
    · rw [hvalidLinks, hdormant]
      exact hbits.2.1
    · exact hconf.trans hlink.symm
    · exact fun _ => htable
    · exact fun hne => absurd hvalidLinks hne
    · exact fun hne => absurd hvalidLinks hne
    · exact fun i j n hi _ => absurd hi (hnone i n)
    · exact fun n => iff_of_false (hempty n)
        fun ⟨id, hid⟩ => hnone id n hid
    · exact fun n hn => absurd hn (hempty n)
    · intro _
      rw [hidle]
      exact hbits.2.2 rfl
  · have huse : ¬decide (newLinks = 0) = true := by simpa using hnew
    rw [if_neg huse, hclink] at hlink
    rw [if_neg huse, hcconf] at hconf
    have hcontainer : ∀ id n, st.link id = some (.container n) ↔
        links id = some n ∨ old.link id = some (.container n) ∧
          id ∉ linkIds (old.removedLinks newLinks) := by
      intro id n
      rw [hlink]
      exact hprepared.container_iff hold hnew halloc
    constructor
    · rw [hvalidLinks, hdormant]
      exact hbits.2.1
    · change st.linkConf = st.link
      rw [hconf, hlink]
      funext id
      obtain ⟨hadded, hother⟩ := hprepared.tables hnew id
      by_cases hadd : id ∈ old.addedLinks newLinks
      · obtain ⟨n, -, htable, htableConf⟩ := hadded hadd
        rw [htable, htableConf]
      · rw [(hother hadd).1, (hother hadd).2, hold.tables]
    · exact fun hzero => absurd (hvalidLinks.symm.trans hzero) hnew
    · intro _ id
      rw [hvalidLinks]
      change _ ↔ ∃ n, st.link id = _
      rw [hlink]
      exact hprepared.entry hold hnew hlast id
    · intro _ id hdeflink
      change st.link id = _ at hdeflink
      rw [hlink] at hdeflink
      obtain ⟨n, hptr, -⟩ := hprepared.container hold hnew hdeflink
      cases hptr
    · intro i j n hi hj
      have hnewOld : ∀ a b, links a = some n →
          old.link b = some (.container n) → False := by
        intro a b ha hb
        have hge := (halloc.new a n ha).1
        have hlt := hold.fresh n ((hold.live_iff n).mpr ⟨b, hb⟩)
        omega
      rcases (hcontainer i n).mp hi with hi | ⟨hi, -⟩
      · rcases (hcontainer j n).mp hj with hj | ⟨hj, -⟩
        · exact halloc.injective i j n hi hj
        · exact (hnewOld i j hi hj).elim
      · rcases (hcontainer j n).mp hj with hj | ⟨hj, -⟩
        · exact (hnewOld j i hj hi).elim
        · exact hold.injective i j n hi hj
    · intro n
      rw [hstlive]
      constructor
      · rintro (⟨id, hid, hkept⟩ | ⟨id, hid⟩)
        · exact ⟨id, (hcontainer id n).mpr (Or.inr ⟨hid, hkept⟩)⟩
        · exact ⟨id, (hcontainer id n).mpr (Or.inl hid)⟩
      · rintro ⟨id, hid⟩
        rcases (hcontainer id n).mp hid with hid | hid
        · exact Or.inr ⟨id, hid⟩
        · exact Or.inl ⟨id, hid⟩
    · exact fun n hn => hfresh n ((hstlive n).mp hn)
    · exact fun hzero => absurd (hvalidLinks.symm.trans hzero) hnew

/-- What the tables and the dormant links are after any call. -/
structure TablesMatch (st : VifLinks) : Prop where
  link : st.validLinks ≠ 0 → ∀ id,
    (st.link id).isSome ↔ st.validLinks.getLsbD id = true
  linkConf : st.validLinks ≠ 0 → ∀ id,
    (st.linkConf id).isSome ↔ st.validLinks.getLsbD id = true
  deflink : st.validLinks = 0 →
    ∀ id, st.link id = if id = 0 then some .deflink else none
  bssConf : st.validLinks = 0 →
    ∀ id, st.linkConf id = if id = 0 then some .deflink else none
  dormant_sub : ~~~st.validLinks &&& st.dormantLinks = 0
  dormant_some : st.validLinks ≠ 0 →
    st.validLinks &&& ~~~st.dormantLinks ≠ 0

theorem Consistent.tablesMatch (hst : st.Consistent) : TablesMatch st := by
  have hlink : st.validLinks ≠ 0 → ∀ id,
      (st.link id).isSome ↔ st.validLinks.getLsbD id = true := by
    intro hvalid id
    rw [hst.entry hvalid id, Option.isSome_iff_exists]
    constructor
    · rintro ⟨ptr, hptr⟩
      cases ptr with
      | deflink => exact absurd hptr (hst.no_deflink hvalid id)
      | container n => exact ⟨n, hptr⟩
    · rintro ⟨n, hn⟩
      exact ⟨.container n, hn⟩
  constructor
  · exact hlink
  · rw [hst.tables]
    exact hlink
  · exact hst.empty
  · rw [hst.tables]
    exact hst.empty
  · exact hst.request.dormant_sub
  · exact hst.request.dormant_some

theorem vifSetLinks_spec (hold : old.Consistent)
    (hrequest : LinkRequest newLinks dormantLinks)
    (hcall : old.vifSetLinks env newLinks dormantLinks = some (ret, st)) :
    st.Consistent ∧ (ret ≠ 0 → (SameConfig old st ↔
      Restores env old newLinks dormantLinks) ∧ KeysKept old newLinks st) := by
  obtain ⟨⟨ret', mid, toFree⟩, hupdate, heq⟩ :=
    Option.map_eq_some_iff.mp hcall
  simp only [Prod.mk.injEq] at heq
  obtain ⟨rfl, rfl⟩ := heq
  cases vifUpdateLinks_outcome hupdate with
  | same hvalid hdormant =>
      rw [kfree_none]
      exact ⟨hold, fun hne => absurd rfl hne⟩
  | noMemory id links start _ hid hfails halloc hst =>
      rw [kfree_none]
      obtain ⟨hconsistent, hconfig, hkeys⟩ :=
        failed_noMemory hold halloc hst
      exact ⟨hconsistent, fun _ =>
        ⟨iff_of_true hconfig (Or.inl ⟨id, hid, hfails⟩), hkeys⟩⟩
  | failed links start committed _ hprepared hcommit hnew hret hst =>
      rw [kfree_none]
      obtain ⟨hconsistent, hconfig, hkeys⟩ :=
        failed_restored hold hrequest hprepared hcommit hnew hst
      exact ⟨hconsistent, fun _ => ⟨hconfig, hkeys⟩⟩
  | done links start committed _ hprepared hcommit hret hst =>
      exact ⟨done_consistent hold hrequest.last hprepared hcommit hret hst,
        fun hne => absurd rfl hne⟩

/-! ## Runs -/

theorem initial_consistent (type : LinkVifType) (addr : BitVec 48) :
    (initial type addr).Consistent := by
  have hnone : ∀ id n, (initial type addr).link id ≠ some (.container n) := by
    intro id n hlink
    unfold initial at hlink
    dsimp only at hlink
    split at hlink
    · cases hlink
    · cases hlink
  constructor
  · exact ⟨by simp [initial], by simp [initial], fun hne => absurd rfl hne⟩
  · rfl
  · exact fun _ _ => rfl
  · exact fun hne => absurd rfl hne
  · exact fun hne => absurd rfl hne
  · exact fun i j n hi _ => absurd hi (hnone i n)
  · exact fun n => iff_of_false (Finset.notMem_empty n)
      fun ⟨id, hid⟩ => hnone id n hid
  · exact fun n hn => absurd hn (Finset.notMem_empty n)
  · exact fun _ => rfl

def Requested : VifLinks → LinkEvent → Prop
  | _, .setLinks _ newLinks dormantLinks => LinkRequest newLinks dormantLinks
  | _, _ => True

theorem step_consistent {event : LinkEvent} {output : List ℤ}
    (hold : old.Consistent) (hrequested : Requested old event)
    (hstep : old.step event = some (st, output)) : st.Consistent := by
  cases event with
  | setLinks env newLinks dormantLinks =>
      obtain ⟨⟨ret, after⟩, hcall, heq⟩ := Option.map_eq_some_iff.mp hstep
      simp only [Prod.mk.injEq] at heq
      obtain ⟨rfl, -⟩ := heq
      exact (vifSetLinks_spec hold hrequested hcall).1
  | setActiveLinks activeLinks =>
      simp only [step] at hstep
      split at hstep
      · rename_i hok
        have hidle : old.validLinks = 0 → activeLinks = 0 := by
          intro hzero
          have husable := hok.2.2
          have hnone : (0 : BitVec 16) &&& ~~~old.dormantLinks = 0 :=
            BitVec.zero_and
          rwa [hzero, hnone, not_zero_eq, BitVec.and_allOnes] at husable
        cases hstep
        exact hold.update rfl hold.tables rfl hold.request hidle
          (fun n => Iff.rfl) (le_refl _)
      · cases hstep
        exact hold
  | addKey linkId =>
      cases hstep
      exact hold.update rfl hold.tables rfl hold.request hold.idle
        (fun n => Iff.rfl) (le_refl _)

theorem reachable_consistent {type : LinkVifType} {addr : BitVec 48}
    (hreach : ConditionedRun.Reachable step Requested (initial type addr) st) :
    st.Consistent :=
  hreach.invariant (initial_consistent type addr)
    fun _ _ _ _ hgood hallowed hnext => step_consistent hgood hallowed hnext

/-! ## Calls return -/

theorem linkInit_returns {linkId : Option ℕ} {ptr : LinkPtr}
    (hap : st.type = .apVlan → ∀ id, (env.apConf id).isSome) :
    ∃ after, st.linkInit env linkId ptr = some after := by
  unfold linkInit
  cases htype : st.type with
  | apVlan =>
      obtain ⟨addr, haddr⟩ :=
        Option.isSome_iff_exists.mp (hap htype (linkId.getD 0))
      dsimp only
      rw [haddr]
      exact ⟨_, rfl⟩
  | ap => exact ⟨_, rfl⟩
  | station => exact ⟨_, rfl⟩

theorem addLinks_returns {ids : List ℕ}
    (hap : st.type = .apVlan → ∀ id, (env.apConf id).isSome)
    (hids : ∀ id ∈ ids, (links id).isSome) :
    ∃ after, addLinks env links ids st = some after := by
  induction ids generalizing st with
  | nil => exact ⟨st, rfl⟩
  | cons id ids ih =>
      obtain ⟨n, hn⟩ :=
        Option.isSome_iff_exists.mp (hids id List.mem_cons_self)
      obtain ⟨mid, hmid⟩ := @linkInit_returns env st (some id)
        (.container n) hap
      have htype := (linkInit_spec hmid).1.type_eq
      obtain ⟨after, hafter⟩ := ih (fun hvlan => hap (htype ▸ hvlan))
        fun other hother => hids other (List.mem_cons_of_mem id hother)
      rw [addLinks, hn]
      dsimp only
      rw [hmid]
      exact ⟨after, hafter⟩

theorem deinit_returns {useDeflink : Bool}
    (hap : st.type = .apVlan → ∀ id, (env.apConf id).isSome) :
    ∃ after, deinit env useDeflink st = some after := by
  cases useDeflink with
  | true => exact linkInit_returns hap
  | false => exact ⟨st, rfl⟩

theorem commitLinks_type {toFree : ℕ → Option ℕ} :
    (commitLinks env old toFree newLinks dormantLinks start).2.type =
      start.type := by
  unfold commitLinks
  split
  · rfl
  · exact (setVifLinksBitmaps_frame _ _ _).1

theorem vifSetLinks_returns
    (hap : old.type = .apVlan → ∀ id, (env.apConf id).isSome) :
    ∃ result, old.vifSetLinks env newLinks dormantLinks = some result := by
  suffices hupdate : ∃ result,
      old.vifUpdateLinks env newLinks dormantLinks = some result by
    obtain ⟨result, hresult⟩ := hupdate
    rw [vifSetLinks, hresult]
    exact ⟨_, rfl⟩
  unfold vifUpdateLinks
  by_cases hearly : old.validLinks = newLinks ∧
      dormantLinks = old.dormantLinks
  · rw [if_pos hearly]
    exact ⟨_, rfl⟩
  · rw [if_neg hearly]
    obtain ⟨halloc, -, hall⟩ := @allocLinks_spec env old old (fun _ => none)
      (old.addedLinks newLinks) (old.addedLinks newLinks)
      (fun _ hid => hid) (linkIds_nodup _) (fun _ _ => rfl)
      (Allocated.none old _)
    have hadd : linkIds (newLinks &&& ~~~old.validLinks) =
        old.addedLinks newLinks := rfl
    dsimp only
    rw [hadd]
    generalize allocLinks env (old.addedLinks newLinks) old (fun _ => none) =
      alloc at halloc hall
    obtain ⟨allocated, mid, links⟩ := alloc
    dsimp only at halloc hall ⊢
    have htype : mid.type = old.type := by
      rw [halloc.same]
    cases allocated with
    | false =>
        obtain ⟨after, hafter⟩ := @deinit_returns env (mid.kfree links)
          (old.validLinks = 0) fun hvlan => hap (htype ▸ hvlan)
        rw [if_pos (by decide), hafter]
        exact ⟨_, rfl⟩
    | true =>
        obtain ⟨linked, hlinked⟩ := @addLinks_returns env
          (mid.clearLinks (old.removedLinks newLinks)) links
          (old.addedLinks newLinks) (fun hvlan => hap (htype ▸ hvlan))
          fun id hid => hall rfl id (Or.inl hid)
        have hlinkedType : linked.type = old.type :=
          (addLinks_spec (linkIds_nodup _) hlinked).1.type_eq.trans htype
        obtain ⟨start, hstart⟩ := @deinit_returns env linked
          (newLinks = 0) fun hvlan => hap (hlinkedType ▸ hvlan)
        have hstartType : start.type = old.type :=
          (deinit_spec hstart).1.type_eq.trans hlinkedType
        rw [if_neg (by decide), hlinked, Option.bind_some, hstart,
          Option.bind_some]
        split
        · have hrestored : ((old.restoreLinks dormantLinks
              (commitLinks env old (old.grabLinks (old.removedLinks newLinks))
                newLinks dormantLinks start).2).kfree links).type =
                  old.type := by
            change (old.restoreLinks dormantLinks _).type = _
            unfold restoreLinks
            rw [(setVifLinksBitmaps_frame _ _ _).1]
            exact commitLinks_type.trans hstartType
          obtain ⟨after, hafter⟩ := @deinit_returns env _
            (old.validLinks = 0) fun hvlan => hap (hrestored ▸ hvlan)
          rw [hafter]
          exact ⟨_, rfl⟩
        · obtain ⟨after, hafter⟩ := @deinit_returns env
            (commitLinks env old (old.grabLinks (old.removedLinks newLinks))
              newLinks dormantLinks start).2 (newLinks = 0)
            fun hvlan => hap ((commitLinks_type.trans hstartType) ▸ hvlan)
          rw [hafter]
          exact ⟨_, rfl⟩

theorem vifSetLinks_sets (hold : old.Consistent)
    (hrequest : LinkRequest newLinks dormantLinks)
    (hcall : old.vifSetLinks env newLinks dormantLinks = some (ret, st)) :
    st.type = old.type ∧
      (newLinks = 0 → ret = 0) ∧
      (ret = 0 → st.validLinks = newLinks ∧ st.dormantLinks = dormantLinks ∧
        (newLinks ≠ 0 → old.type = .station → old.activeLinks ≠ 0 →
          st.activeLinks = old.activeLinks)) := by
  obtain ⟨⟨ret', mid, toFree⟩, hupdate, heq⟩ :=
    Option.map_eq_some_iff.mp hcall
  simp only [Prod.mk.injEq] at heq
  obtain ⟨rfl, rfl⟩ := heq
  cases vifUpdateLinks_outcome hupdate with
  | same hvalid hdormant =>
      rw [kfree_none]
      exact ⟨rfl, fun _ => rfl, fun _ =>
        ⟨hvalid, hdormant.symm, fun _ _ _ => rfl⟩⟩
  | noMemory id links start _ hid hfails halloc hst =>
      rw [kfree_none]
      refine ⟨?_, ?_, fun hret => by cases hret⟩
      · rw [(deinit_spec hst).1.type_eq, kfree, halloc.same]
      · intro hzero
        subst hzero
        have hadd := (mem_addedLinks.mp hid).2.1
        simp at hadd
  | failed links start committed _ hprepared hcommit hnew hret hst =>
      rw [kfree_none]
      obtain ⟨mid', -, htype, -⟩ := hprepared.frame
      refine ⟨?_, fun hzero => absurd hzero hnew, fun hzero => absurd hzero hret⟩
      rw [(deinit_spec hst).1.type_eq]
      change (old.restoreLinks dormantLinks committed.2).type = _
      rw [restoreLinks, (setVifLinksBitmaps_frame _ _ _).1, ← hcommit]
      exact commitLinks_type.trans htype
  | done links start committed _ hprepared hcommit hret hst =>
      obtain ⟨mid', -, htype, -, -, hactive, -⟩ := hprepared.frame
      have hsame := (deinit_spec hst).1
      have hstate := done_bitmaps hold hprepared hcommit hret
      have hbits := @setVifLinksBitmaps_request
        (start.tearDownLinks (old.grabLinks (old.removedLinks newLinks))
          (old.removedLinks newLinks)) _ _ hrequest
      rw [← hstate] at hbits
      refine ⟨?_, fun _ => rfl, fun _ => ⟨?_, ?_, ?_⟩⟩
      · refine hsame.type_eq.trans ?_
        rw [← hcommit]
        exact commitLinks_type.trans htype
      · exact hsame.valid_eq.trans hbits.1
      · exact hsame.dormant_eq.trans hbits.2
      · intro hnew hstation hzero
        exact hsame.active_eq.trans (commitLinks_active hrequest hnew hcommit
          (htype.trans hstation) hactive hzero)

/-- In every state of a run, with every request: a failed call leaves the
configuration as it was exactly under `Restores` and takes keys of removed
links at most, and after any call the tables match the links. -/
theorem vif_set_links_atomic {type : LinkVifType} {addr : BitVec 48}
    (hreach : ConditionedRun.Reachable step Requested (initial type addr) old)
    (hrequest : LinkRequest newLinks dormantLinks) (env : SetLinksEnv) :
    ((old.type = .apVlan → ∀ id, (env.apConf id).isSome) →
      (old.vifSetLinks env newLinks dormantLinks).isSome) ∧
    ∀ ret st, old.vifSetLinks env newLinks dormantLinks = some (ret, st) →
      TablesMatch st ∧
      (ret ≠ 0 → KeysKept old newLinks st ∧
        (SameConfig old st ↔ Restores env old newLinks dormantLinks)) := by
  constructor
  · intro hap
    exact Option.isSome_iff_exists.mpr (vifSetLinks_returns hap)
  · intro ret st hcall
    obtain ⟨hconsistent, hfailed⟩ :=
      vifSetLinks_spec (reachable_consistent hreach) hrequest hcall
    exact ⟨hconsistent.tablesMatch,
      fun hret => ⟨(hfailed hret).2, (hfailed hret).1⟩⟩

/-! ## Two new links, one of them dormant -/

def sampleEnv (addr : BitVec 48) : SetLinksEnv where
  allocFails := fun _ => false
  addr := fun id => if id = 0 then 0x0200000000aa#48 else addr
  apConf := fun _ => none
  inDriver := true
  changeVifLinks := some 0

/-- A station with link 0 asks for links 0 to 2, link 2 dormant, and the new
links have the address of link 0. -/
theorem associated_refused :
    ∃ old st, ConditionedRun.Reachable step Requested
        (initial .station 0x0200000000bb#48) old ∧
      old.vifSetLinks (sampleEnv 0x0200000000aa#48) 7 4 =
        some (errEALREADY, st) ∧
      old.validLinks = 1 ∧ old.activeLinks = 1 ∧
      st.validLinks = 1 ∧ st.activeLinks = 0 := by
  have hrun : (((initial .station 0x0200000000bb#48).vifSetLinks
      (sampleEnv 0x0200000000aa#48) 1 0).bind fun one =>
        (one.2.vifSetLinks (sampleEnv 0x0200000000aa#48) 7 4).map
          fun last => decide (last.1 = errEALREADY ∧
            one.2.validLinks = 1 ∧ one.2.activeLinks = 1 ∧
            last.2.validLinks = 1 ∧ last.2.activeLinks = 0)) =
      some true := by
    decide +kernel
  obtain ⟨⟨ret, old⟩, hold, hlast⟩ := Option.bind_eq_some_iff.mp hrun
  obtain ⟨⟨ret', st⟩, hst, heq⟩ := Option.map_eq_some_iff.mp hlast
  have hfacts := of_decide_eq_true heq
  have hrequest : Requested (initial .station 0x0200000000bb#48)
      (.setLinks (sampleEnv 0x0200000000aa#48) 1 0) := by
    constructor <;> decide
  have hstep : (initial .station 0x0200000000bb#48).step
      (.setLinks (sampleEnv 0x0200000000aa#48) 1 0) =
        some (old, [ret]) := by
    rw [step, hold]
    rfl
  refine ⟨old, st, .next .start hrequest hstep, ?_, hfacts.2⟩
  rw [hst, ← hfacts.1]

theorem sampleRequest : LinkRequest 7 4 := by
  constructor <;> decide

theorem vif_set_links_atomic_refused :
    ∃ old st, old.vifSetLinks (sampleEnv 0x0200000000aa#48) 7 4 =
        some (errEALREADY, st) ∧
      TablesMatch st ∧ KeysKept old 7 st ∧
      (SameConfig old st ↔
        Restores (sampleEnv 0x0200000000aa#48) old 7 4) := by
  obtain ⟨old, st, hreach, hcall, -⟩ := associated_refused
  obtain ⟨htables, hfailed⟩ := (vif_set_links_atomic hreach sampleRequest
    (sampleEnv 0x0200000000aa#48)).2 errEALREADY st hcall
  exact ⟨old, st, hcall, htables, hfailed (by decide)⟩

/-- The active link is lost with the duplicate address. -/
theorem vif_set_links_loses_active :
    ¬∀ (type : LinkVifType) (addr : BitVec 48) (old : VifLinks),
      ConditionedRun.Reachable step Requested (initial type addr) old →
      ∀ (newLinks dormantLinks : BitVec 16) (env : SetLinksEnv) (ret : ℤ)
        (st : VifLinks), LinkRequest newLinks dormantLinks →
        old.vifSetLinks env newLinks dormantLinks = some (ret, st) →
        ret ≠ 0 → SameConfig old st := by
  intro hclaim
  obtain ⟨old, st, hreach, hcall, -, hactive, -, hlost⟩ := associated_refused
  have hsame := (hclaim _ _ old hreach 7 4 _ _ st sampleRequest hcall
    (by decide)).active_eq
  rw [hactive, hlost] at hsame
  exact absurd hsame (by decide)

end VifLinks

end IwlwifiStack
