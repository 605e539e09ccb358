import IwlwifiStack.LinkSetModel
import Mathlib.Tactic

/-!
# The link tables after a call

What each part of `ieee80211_vif_update_links` does to the pointer tables, the
bitmaps and the containers, and the state after a call that succeeds.
-/

namespace IwlwifiStack

/-! ## Link ids -/

theorem mem_linkIds {mask : BitVec 16} {id : ℕ} :
    id ∈ linkIds mask ↔ id < 15 ∧ mask.getLsbD id = true := by
  simp [linkIds, maxNumLinks]

theorem linkIds_nodup (mask : BitVec 16) : (linkIds mask).Nodup :=
  List.Nodup.filter _ List.nodup_range

theorem linkId_lt {mask : BitVec 16} {id : ℕ}
    (hlast : mask.getLsbD 15 = false) (hid : mask.getLsbD id = true) :
    id < 15 := by
  have hlt := BitVec.lt_of_getLsbD hid
  by_contra hge
  have heq : id = 15 := by omega
  subst heq
  rw [hid] at hlast
  cases hlast

theorem getLsbD_and_not {left right : BitVec 16} {id : ℕ} (hid : id < 15) :
    (left &&& ~~~right).getLsbD id = true ↔
      left.getLsbD id = true ∧ right.getLsbD id = false := by
  rw [BitVec.getLsbD_and, BitVec.getLsbD_not, Bool.and_eq_true,
    Bool.and_eq_true, decide_eq_true_eq, Bool.not_eq_true']
  constructor
  · rintro ⟨hleft, -, hright⟩
    exact ⟨hleft, hright⟩
  · rintro ⟨hleft, hright⟩
    exact ⟨hleft, by omega, hright⟩

theorem not_zero_eq : ~~~(0 : BitVec 16) = BitVec.allOnes 16 := by
  decide

/-- The links that a request may name, with dormant links among them but not
all of them. -/
structure LinkRequest (newLinks dormantLinks : BitVec 16) : Prop where
  last : newLinks.getLsbD 15 = false
  dormant_sub : ~~~newLinks &&& dormantLinks = 0
  dormant_some : newLinks ≠ 0 → newLinks &&& ~~~dormantLinks ≠ 0

theorem LinkRequest.dormant_eq_zero {dormantLinks : BitVec 16}
    (hrequest : LinkRequest 0 dormantLinks) : dormantLinks = 0 := by
  have hsub := hrequest.dormant_sub
  rwa [not_zero_eq, BitVec.allOnes_and] at hsub

theorem LinkRequest.not_invalid {newLinks dormantLinks : BitVec 16}
    (hrequest : LinkRequest newLinks dormantLinks) (hnew : newLinks ≠ 0) :
    ¬(newLinks = 0 ∨ ~~~newLinks &&& dormantLinks ≠ 0 ∨
      newLinks &&& ~~~dormantLinks = 0) := by
  rintro (hnone | hoff | hall)
  · exact hnew hnone
  · exact hoff hrequest.dormant_sub
  · exact hrequest.dormant_some hnew hall

namespace VifLinks

/-- The tables, the bitmaps and the containers agree. -/
structure Consistent (st : VifLinks) : Prop where
  request : LinkRequest st.validLinks st.dormantLinks
  tables : st.linkConf = st.link
  empty : st.validLinks = 0 →
    ∀ id, st.link id = if id = 0 then some .deflink else none
  entry : st.validLinks ≠ 0 → ∀ id,
    st.validLinks.getLsbD id = true ↔ ∃ n, st.link id = some (.container n)
  no_deflink : st.validLinks ≠ 0 → ∀ id, st.link id ≠ some .deflink
  injective : ∀ i j n, st.link i = some (.container n) →
    st.link j = some (.container n) → i = j
  live_iff : ∀ n, n ∈ st.live ↔ ∃ id, st.link id = some (.container n)
  fresh : ∀ n ∈ st.live, n < st.nextContainer
  idle : st.validLinks = 0 → st.activeLinks = 0

variable {env : SetLinksEnv} {old st st' : VifLinks} {links : ℕ → Option ℕ}
  {newLinks dormantLinks : BitVec 16}

theorem Consistent.none_of_clear (hst : st.Consistent)
    (hvalid : st.validLinks ≠ 0) {id : ℕ}
    (hid : st.validLinks.getLsbD id = false) : st.link id = none := by
  cases hlink : st.link id with
  | none => rfl
  | some ptr =>
      cases ptr with
      | deflink => exact absurd hlink (hst.no_deflink hvalid id)
      | container n =>
          have hset := (hst.entry hvalid id).mpr ⟨n, hlink⟩
          rw [hid] at hset
          cases hset

theorem Consistent.link_lt (hst : st.Consistent) {id n : ℕ}
    (hlink : st.link id = some (.container n)) :
    st.validLinks ≠ 0 ∧ id < 15 := by
  have hvalid : st.validLinks ≠ 0 := by
    intro hzero
    rw [hst.empty hzero] at hlink
    split at hlink
    · cases hlink
    · cases hlink
  exact ⟨hvalid, linkId_lt hst.request.last
    ((hst.entry hvalid id).mpr ⟨n, hlink⟩)⟩

/-! ## Allocation -/

/-- `links` are new containers, and nothing else changed. -/
structure Allocated (old : VifLinks) (ids : List ℕ) (st : VifLinks)
    (links : ℕ → Option ℕ) : Prop where
  same : st = { old with live := st.live, nextContainer := st.nextContainer }
  next_le : old.nextContainer ≤ st.nextContainer
  mem_ids : ∀ id n, links id = some n → id ∈ ids
  new : ∀ id n, links id = some n →
    old.nextContainer ≤ n ∧ n < st.nextContainer
  injective : ∀ i j n, links i = some n → links j = some n → i = j
  live_iff : ∀ n, n ∈ st.live ↔ n ∈ old.live ∨ ∃ id, links id = some n

theorem Allocated.none (old : VifLinks) (ids : List ℕ) :
    Allocated old ids old fun _ => none := by
  refine ⟨rfl, le_refl _, ?_, ?_, ?_, ?_⟩
  · intro id n hlink
    cases hlink
  · intro id n hlink
    cases hlink
  · intro i j n hlink
    cases hlink
  · simp

theorem Allocated.one {ids : List ℕ} {id : ℕ}
    (halloc : Allocated old ids st links) (hid : id ∈ ids)
    (hfree : links id = Option.none) :
    Allocated old ids
      { st with
        live := insert st.nextContainer st.live
        nextContainer := st.nextContainer + 1 }
      (Function.update links id (some st.nextContainer)) := by
  have hnew : ∀ other n,
      Function.update links id (some st.nextContainer) other = some n →
        other = id ∧ n = st.nextContainer ∨
          other ≠ id ∧ links other = some n := by
    intro other n hlink
    by_cases hother : other = id
    · subst other
      rw [Function.update_self] at hlink
      exact Or.inl ⟨rfl, (Option.some.inj hlink).symm⟩
    · rw [Function.update_of_ne hother] at hlink
      exact Or.inr ⟨hother, hlink⟩
  constructor
  · rw [halloc.same]
  · exact Nat.le_succ_of_le halloc.next_le
  · intro other n hlink
    rcases hnew other n hlink with ⟨rfl, -⟩ | ⟨-, hold⟩
    · exact hid
    · exact halloc.mem_ids other n hold
  · intro other n hlink
    have hle := halloc.next_le
    rcases hnew other n hlink with ⟨-, rfl⟩ | ⟨-, hold⟩
    · exact ⟨hle, Nat.lt_succ_self _⟩
    · have hrange := halloc.new other n hold
      exact ⟨hrange.1, Nat.lt_succ_of_lt hrange.2⟩
  · intro i j n hi hj
    rcases hnew i n hi with ⟨rfl, rfl⟩ | ⟨-, hoi⟩
    · rcases hnew j _ hj with ⟨rfl, -⟩ | ⟨-, hoj⟩
      · rfl
      · have hlt := (halloc.new j _ hoj).2
        omega
    · rcases hnew j n hj with ⟨rfl, rfl⟩ | ⟨-, hoj⟩
      · have hlt := (halloc.new i _ hoi).2
        omega
      · exact halloc.injective i j n hoi hoj
  · intro n
    rw [Finset.mem_insert, halloc.live_iff]
    constructor
    · rintro (rfl | hlive | ⟨other, hother⟩)
      · exact Or.inr ⟨id, Function.update_self _ _ _⟩
      · exact Or.inl hlive
      · refine Or.inr ⟨other, ?_⟩
        have hne : other ≠ id := by
          intro heq
          rw [heq, hfree] at hother
          cases hother
        rw [Function.update_of_ne hne]
        exact hother
    · rintro (hlive | ⟨other, hother⟩)
      · exact Or.inr (Or.inl hlive)
      · rcases hnew other n hother with ⟨-, rfl⟩ | ⟨-, hold⟩
        · exact Or.inl rfl
        · exact Or.inr (Or.inr ⟨other, hold⟩)

theorem allocLinks_spec {all ids : List ℕ} (hsub : ∀ id ∈ ids, id ∈ all)
    (hnodup : ids.Nodup) (hfree : ∀ id ∈ ids, links id = none)
    (halloc : Allocated old all st links) :
    Allocated old all (allocLinks env ids st links).2.1
        (allocLinks env ids st links).2.2 ∧
      ((allocLinks env ids st links).1 = true ↔
        ∀ id ∈ ids, env.allocFails id = false) ∧
      ((allocLinks env ids st links).1 = true → ∀ id,
        id ∈ ids ∨ (links id).isSome = true →
          ((allocLinks env ids st links).2.2 id).isSome = true) := by
  induction ids generalizing st links with
  | nil =>
      refine ⟨halloc, ?_, ?_⟩
      · simp [allocLinks]
      · intro _ id hid
        rcases hid with hid | hid
        · cases hid
        · exact hid
  | cons id ids ih =>
      unfold allocLinks
      obtain ⟨hnotin, hnodup'⟩ := List.nodup_cons.mp hnodup
      by_cases hfails : env.allocFails id = true
      · simp only [hfails, if_true]
        refine ⟨halloc, ?_, fun htrue => by cases htrue⟩
        simp [hfails]
      · simp only [hfails, Bool.false_eq_true, if_false]
        rw [Bool.not_eq_true] at hfails
        have hone := halloc.one (hsub id List.mem_cons_self)
          (hfree id List.mem_cons_self)
        obtain ⟨hlast, hok, hall⟩ := ih
          (fun other hother => hsub other (List.mem_cons_of_mem id hother))
          hnodup' (fun other hother => by
            have hne : other ≠ id := fun heq => hnotin (heq ▸ hother)
            rw [Function.update_of_ne hne]
            exact hfree other (List.mem_cons_of_mem id hother)) hone
        refine ⟨hlast, ?_, ?_⟩
        · rw [hok]
          simp [hfails]
        · intro htrue other hother
          apply hall htrue
          by_cases hne : other = id
          · subst other
            exact Or.inr (by rw [Function.update_self]; rfl)
          · rw [Function.update_of_ne hne]
            rcases hother with hmem | hsome
            · rcases List.mem_cons.mp hmem with rfl | hmem
              · exact absurd rfl hne
              · exact Or.inl hmem
            · exact Or.inr hsome

theorem mem_kfree {n : ℕ} : n ∈ (st.kfree links).live ↔
    n ∈ st.live ∧ ∀ id < 15, links id ≠ some n := by
  simp [kfree, maxNumLinks]

theorem Allocated.kfree {ids : List ℕ} (halloc : Allocated old ids st links)
    (hids : ∀ id ∈ ids, id < 15)
    (hfresh : ∀ n ∈ old.live, n < old.nextContainer) (n : ℕ) :
    n ∈ st.live ∧ (∀ id < 15, links id ≠ some n) ↔ n ∈ old.live := by
  rw [halloc.live_iff]
  constructor
  · rintro ⟨hlive | ⟨id, hid⟩, hnot⟩
    · exact hlive
    · exact absurd hid (hnot id (hids id (halloc.mem_ids id n hid)))
  · intro hlive
    refine ⟨Or.inl hlive, fun id _ hid => ?_⟩
    have hle := (halloc.new id n hid).1
    have hlt := hfresh n hlive
    omega

/-! ## Linking -/

/-- Only the tables and the addresses differ. -/
structure SameButTables (st st' : VifLinks) : Prop where
  type_eq : st'.type = st.type
  valid_eq : st'.validLinks = st.validLinks
  dormant_eq : st'.dormantLinks = st.dormantLinks
  active_eq : st'.activeLinks = st.activeLinks
  keys_eq : st'.keys = st.keys
  live_eq : st'.live = st.live
  next_eq : st'.nextContainer = st.nextContainer

theorem SameButTables.trans {mid : VifLinks}
    (hfirst : SameButTables st mid) (hlast : SameButTables mid st') :
    SameButTables st st' :=
  ⟨hlast.type_eq.trans hfirst.type_eq, hlast.valid_eq.trans hfirst.valid_eq,
    hlast.dormant_eq.trans hfirst.dormant_eq,
    hlast.active_eq.trans hfirst.active_eq,
    hlast.keys_eq.trans hfirst.keys_eq, hlast.live_eq.trans hfirst.live_eq,
    hlast.next_eq.trans hfirst.next_eq⟩

theorem SameButTables.refl (st : VifLinks) : SameButTables st st :=
  ⟨rfl, rfl, rfl, rfl, rfl, rfl, rfl⟩

theorem linkInit_spec {linkId : Option ℕ} {ptr : LinkPtr}
    (hinit : st.linkInit env linkId ptr = some st') :
    SameButTables st st' ∧
      st'.link = Function.update st.link (linkId.getD 0) (some ptr) ∧
      st'.linkConf =
        Function.update st.linkConf (linkId.getD 0) (some ptr) := by
  unfold linkInit at hinit
  cases htype : st.type with
  | apVlan =>
      simp only [htype, Option.map_eq_some_iff] at hinit
      obtain ⟨addr, -, rfl⟩ := hinit
      exact ⟨⟨htype ▸ rfl, rfl, rfl, rfl, rfl, rfl, rfl⟩, rfl, rfl⟩
  | ap =>
      simp only [htype, Option.some.injEq] at hinit
      subst st'
      exact ⟨⟨htype ▸ rfl, rfl, rfl, rfl, rfl, rfl, rfl⟩, rfl, rfl⟩
  | station =>
      simp only [htype, Option.some.injEq] at hinit
      subst st'
      exact ⟨⟨htype ▸ rfl, rfl, rfl, rfl, rfl, rfl, rfl⟩, rfl, rfl⟩

theorem addLinks_spec {ids : List ℕ} (hnodup : ids.Nodup)
    (hadd : addLinks env links ids st = some st') :
    SameButTables st st' ∧
      ∀ id, (id ∈ ids → ∃ n, links id = some n ∧
          st'.link id = some (.container n) ∧
          st'.linkConf id = some (.container n)) ∧
        (id ∉ ids → st'.link id = st.link id ∧
          st'.linkConf id = st.linkConf id) := by
  induction ids generalizing st with
  | nil =>
      simp only [addLinks, Option.some.injEq] at hadd
      subst st'
      exact ⟨.refl st, fun id => ⟨fun hid => (List.not_mem_nil hid).elim,
        fun _ => ⟨rfl, rfl⟩⟩⟩
  | cons head ids ih =>
      unfold addLinks at hadd
      obtain ⟨hnotin, hnodup'⟩ := List.nodup_cons.mp hnodup
      cases hlink : links head with
      | none =>
          rw [hlink] at hadd
          cases hadd
      | some n =>
          rw [hlink] at hadd
          obtain ⟨mid, hinit, hrest⟩ := Option.bind_eq_some_iff.mp hadd
          obtain ⟨hsame, htable, hconf⟩ := linkInit_spec hinit
          obtain ⟨hsame', hids⟩ := ih hnodup' hrest
          refine ⟨hsame.trans hsame', fun id => ⟨?_, ?_⟩⟩
          · intro hid
            rcases List.mem_cons.mp hid with rfl | hid
            · have hkept := (hids id).2 hnotin
              rw [hkept.1, hkept.2, htable, hconf]
              exact ⟨n, hlink, Function.update_self _ _ _,
                Function.update_self _ _ _⟩
            · exact (hids id).1 hid
          · intro hid
            rw [List.mem_cons, not_or] at hid
            have hkept := (hids id).2 hid.2
            rw [hkept.1, hkept.2, htable, hconf]
            exact ⟨Function.update_of_ne hid.1 _ _,
              Function.update_of_ne hid.1 _ _⟩

/-! ## The bitmaps -/

theorem setVifLinksBitmaps_request
    (hrequest : LinkRequest newLinks dormantLinks) :
    (st.setVifLinksBitmaps newLinks dormantLinks).validLinks = newLinks ∧
      (st.setVifLinksBitmaps newLinks dormantLinks).dormantLinks =
        dormantLinks := by
  unfold setVifLinksBitmaps
  by_cases hzero : newLinks = 0
  · subst hzero
    rw [if_pos (Or.inl rfl)]
    exact ⟨rfl, hrequest.dormant_eq_zero.symm⟩
  · rw [if_neg (hrequest.not_invalid hzero)]
    exact ⟨rfl, rfl⟩

theorem setVifLinksBitmaps_bits (st : VifLinks)
    (hlast : newLinks.getLsbD 15 = false) :
    (st.setVifLinksBitmaps newLinks dormantLinks).validLinks = newLinks ∧
      LinkRequest newLinks
        (st.setVifLinksBitmaps newLinks dormantLinks).dormantLinks ∧
      (newLinks = 0 →
        (st.setVifLinksBitmaps newLinks dormantLinks).activeLinks = 0) := by
  unfold setVifLinksBitmaps
  split
  · refine ⟨rfl, ⟨hlast, BitVec.and_zero, fun hne => ?_⟩, fun _ => rfl⟩
    dsimp only
    rwa [not_zero_eq, BitVec.and_allOnes]
  · rename_i hok
    rw [not_or, not_or, not_not] at hok
    exact ⟨rfl, ⟨hlast, hok.2.1, fun _ => hok.2.2⟩,
      fun hzero => absurd hzero hok.1⟩

theorem setVifLinksBitmaps_frame (st : VifLinks) (valid dormant : BitVec 16) :
    (st.setVifLinksBitmaps valid dormant).type = st.type ∧
      (st.setVifLinksBitmaps valid dormant).link = st.link ∧
      (st.setVifLinksBitmaps valid dormant).linkConf = st.linkConf ∧
      (st.setVifLinksBitmaps valid dormant).keys = st.keys ∧
      (st.setVifLinksBitmaps valid dormant).live = st.live ∧
      (st.setVifLinksBitmaps valid dormant).nextContainer =
        st.nextContainer := by
  unfold setVifLinksBitmaps
  split <;> exact ⟨rfl, rfl, rfl, rfl, rfl, rfl⟩

end VifLinks

end IwlwifiStack
