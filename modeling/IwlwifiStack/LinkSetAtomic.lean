import IwlwifiStack.LinkSet

/-!
# Failed and successful changes of the links

A call of `ieee80211_vif_set_links` ends in one of four ways.  The tables are
right after each of them; a failure after the allocations restores the tables
and the valid links, but the dormant links from the request.
-/

namespace IwlwifiStack

namespace VifLinks

variable {env : SetLinksEnv} {old st st' : VifLinks} {links : ℕ → Option ℕ}
  {newLinks dormantLinks : BitVec 16} {ret : ℤ} {toFree : ℕ → Option ℕ}

def addedLinks (old : VifLinks) (newLinks : BitVec 16) : List ℕ :=
  linkIds (newLinks &&& ~~~old.validLinks)

/-- The containers are allocated and linked behind the cleared tables. -/
structure Prepared (env : SetLinksEnv) (old : VifLinks)
    (newLinks : BitVec 16) (links : ℕ → Option ℕ) (st : VifLinks) :
    Prop where
  allocs : ∀ id ∈ old.addedLinks newLinks, env.allocFails id = false
  linked : ∃ mid linked, Allocated old (old.addedLinks newLinks) mid links ∧
    addLinks env links (old.addedLinks newLinks)
      (mid.clearLinks (old.removedLinks newLinks)) = some linked ∧
    deinit env (newLinks = 0) linked = some st

/-- How `ieee80211_vif_update_links` ends. -/
inductive Outcome (env : SetLinksEnv) (old : VifLinks)
    (newLinks dormantLinks : BitVec 16) :
    ℤ → VifLinks → (ℕ → Option ℕ) → Prop
  | same (hvalid : old.validLinks = newLinks)
      (hdormant : dormantLinks = old.dormantLinks) :
      Outcome env old newLinks dormantLinks 0 old fun _ => none
  | noMemory (id : ℕ) (links : ℕ → Option ℕ) (mid st : VifLinks)
      (hid : id ∈ old.addedLinks newLinks) (hfails : env.allocFails id = true)
      (halloc : Allocated old (old.addedLinks newLinks) mid links)
      (hst : deinit env (old.validLinks = 0) (mid.kfree links) = some st) :
      Outcome env old newLinks dormantLinks errENOMEM st fun _ => none
  | failed (links : ℕ → Option ℕ) (start : VifLinks)
      (committed : ℤ × VifLinks) (st : VifLinks)
      (hprepared : Prepared env old newLinks links start)
      (hcommit : commitLinks env old
        (old.grabLinks (old.removedLinks newLinks)) newLinks dormantLinks
        start = committed)
      (hnew : newLinks ≠ 0) (hret : committed.1 ≠ 0)
      (hst : deinit env (old.validLinks = 0)
        ((old.restoreLinks dormantLinks committed.2).kfree links) =
          some st) :
      Outcome env old newLinks dormantLinks committed.1 st fun _ => none
  | done (links : ℕ → Option ℕ) (start : VifLinks)
      (committed : ℤ × VifLinks) (st : VifLinks)
      (hprepared : Prepared env old newLinks links start)
      (hcommit : commitLinks env old
        (old.grabLinks (old.removedLinks newLinks)) newLinks dormantLinks
        start = committed)
      (hret : newLinks = 0 ∨ committed.1 = 0)
      (hst : deinit env (newLinks = 0) committed.2 = some st) :
      Outcome env old newLinks dormantLinks 0 st
        (old.grabLinks (old.removedLinks newLinks))

theorem vifUpdateLinks_outcome
    (hcall : old.vifUpdateLinks env newLinks dormantLinks =
      some (ret, st, toFree)) :
    Outcome env old newLinks dormantLinks ret st toFree := by
  unfold vifUpdateLinks at hcall
  by_cases hearly : old.validLinks = newLinks ∧
      dormantLinks = old.dormantLinks
  · rw [if_pos hearly] at hcall
    cases hcall
    exact .same hearly.1 hearly.2
  · rw [if_neg hearly] at hcall
    dsimp only at hcall
    change (if (!(allocLinks env (old.addedLinks newLinks) old
      fun _ => none).1) = true then _ else _) = _ at hcall
    obtain ⟨halloc, hok, hall⟩ := @allocLinks_spec env old old (fun _ => none)
      (old.addedLinks newLinks) (old.addedLinks newLinks)
      (fun _ hid => hid) (linkIds_nodup _) (fun _ _ => rfl)
      (Allocated.none old _)
    by_cases halloced : (allocLinks env (old.addedLinks newLinks) old
        fun _ => none).1 = true
    · rw [if_neg (by rw [halloced]; decide)] at hcall
      obtain ⟨linked, hlinked, hcall⟩ := Option.bind_eq_some_iff.mp hcall
      obtain ⟨start, hstart, hcall⟩ := Option.bind_eq_some_iff.mp hcall
      have hprepared : Prepared env old newLinks _ start :=
        ⟨hok.mp halloced, _, linked, halloc, hlinked, hstart⟩
      by_cases hfailed : newLinks ≠ 0 ∧
          (commitLinks env old (old.grabLinks (old.removedLinks newLinks))
            newLinks dormantLinks start).1 ≠ 0
      · rw [if_pos hfailed, Option.map_eq_some_iff] at hcall
        obtain ⟨last, hlast, heq⟩ := hcall
        cases heq
        exact .failed _ start _ _ hprepared rfl hfailed.1 hfailed.2 hlast
      · rw [if_neg hfailed, Option.map_eq_some_iff] at hcall
        obtain ⟨last, hlast, heq⟩ := hcall
        cases heq
        rw [not_and_or, not_not, not_not] at hfailed
        exact .done _ start _ _ hprepared rfl hfailed hlast
    · rw [if_pos (by simpa using halloced), Option.map_eq_some_iff] at hcall
      obtain ⟨last, hlast, heq⟩ := hcall
      cases heq
      rw [hok] at halloced
      push Not at halloced
      obtain ⟨id, hid, hfails⟩ := halloced
      exact .noMemory id _ _ _ hid (Bool.eq_true_of_not_eq_false hfails)
        halloc hlast

/-! ## The parts -/

theorem deinit_spec {useDeflink : Bool}
    (hdeinit : deinit env useDeflink st = some st') :
    SameButTables st st' ∧
      st'.link = (if useDeflink then
        Function.update st.link 0 (some .deflink) else st.link) ∧
      st'.linkConf = (if useDeflink then
        Function.update st.linkConf 0 (some .deflink) else st.linkConf) := by
  unfold deinit at hdeinit
  cases useDeflink with
  | true => exact linkInit_spec hdeinit
  | false =>
      cases hdeinit
      exact ⟨.refl st, rfl, rfl⟩

theorem Consistent.update (hold : old.Consistent)
    (hlink : st.link = old.link) (hconf : st.linkConf = old.link)
    (hvalid : st.validLinks = old.validLinks)
    (hrequest : LinkRequest st.validLinks st.dormantLinks)
    (hidle : st.validLinks = 0 → st.activeLinks = 0)
    (hlive : ∀ n, n ∈ st.live ↔ n ∈ old.live)
    (hnext : old.nextContainer ≤ st.nextContainer) : st.Consistent := by
  constructor
  · exact hrequest
  · exact hconf.trans hlink.symm
  · rw [hvalid, hlink]
    exact hold.empty
  · rw [hvalid, hlink]
    exact hold.entry
  · rw [hvalid, hlink]
    exact hold.no_deflink
  · rw [hlink]
    exact hold.injective
  · intro n
    rw [hlive, hlink]
    exact hold.live_iff n
  · intro n hn
    exact Nat.lt_of_lt_of_le (hold.fresh n ((hlive n).mp hn)) hnext
  · exact hidle

theorem Consistent.deinit_link (hold : old.Consistent) :
    (if decide (old.validLinks = 0) = true then
      Function.update old.link 0 (some .deflink) else old.link) =
        old.link := by
  by_cases hzero : old.validLinks = 0
  · rw [if_pos (decide_eq_true hzero), Function.update_eq_self_iff,
      hold.empty hzero]
    rfl
  · rw [if_neg (by simpa using hzero)]

theorem mem_removedLinks {id : ℕ} :
    id ∈ linkIds (old.removedLinks newLinks) ↔
      id < 15 ∧ (old.validLinks.getLsbD id = true ∧
          newLinks.getLsbD id = false ∨
        old.validLinks = 0 ∧ id = 0) := by
  rw [mem_linkIds]
  apply and_congr_right
  intro hlt
  have hslot : (if old.validLinks = 0 then 1#16 else 0#16).getLsbD id =
      true ↔ old.validLinks = 0 ∧ id = 0 := by
    by_cases hzero : old.validLinks = 0
    · rw [if_pos hzero, BitVec.getLsbD_one]
      simp [hzero]
    · rw [if_neg hzero, BitVec.getLsbD_zero]
      exact ⟨fun hbit => absurd hbit Bool.false_ne_true,
        fun hslot => absurd hslot.1 hzero⟩
  unfold removedLinks
  rw [BitVec.getLsbD_or, Bool.or_eq_true, getLsbD_and_not hlt, hslot]

theorem mem_addedLinks {id : ℕ} : id ∈ old.addedLinks newLinks ↔
    id < 15 ∧ newLinks.getLsbD id = true ∧
      old.validLinks.getLsbD id = false := by
  unfold addedLinks
  rw [mem_linkIds]
  apply and_congr_right
  intro hlt
  exact getLsbD_and_not hlt

theorem addedLinks_lt {id : ℕ} (hid : id ∈ old.addedLinks newLinks) :
    id < 15 := (mem_addedLinks.mp hid).1

/-! ## Before the driver is told -/

section Start

variable {start : VifLinks}

theorem Prepared.frame (hprepared : Prepared env old newLinks links start) :
    ∃ mid, Allocated old (old.addedLinks newLinks) mid links ∧
      start.type = old.type ∧ start.validLinks = old.validLinks ∧
      start.dormantLinks = old.dormantLinks ∧
      start.activeLinks = old.activeLinks ∧ start.keys = old.keys ∧
      start.live = mid.live ∧ start.nextContainer = mid.nextContainer := by
  obtain ⟨mid, linked, halloc, hadd, hdeinit⟩ := hprepared.linked
  have hsame := (addLinks_spec (linkIds_nodup _) hadd).1.trans
    (deinit_spec hdeinit).1
  have hmid := halloc.same
  refine ⟨mid, halloc, ?_, ?_, ?_, ?_, ?_, hsame.live_eq, hsame.next_eq⟩
  · rw [hsame.type_eq, clearLinks, hmid]
  · rw [hsame.valid_eq, clearLinks, hmid]
  · rw [hsame.dormant_eq, clearLinks, hmid]
  · rw [hsame.active_eq, clearLinks, hmid]
  · rw [hsame.keys_eq, clearLinks, hmid]

theorem Prepared.tables (hprepared : Prepared env old newLinks links start)
    (hnew : newLinks ≠ 0) (id : ℕ) :
    (id ∈ old.addedLinks newLinks → ∃ n, links id = some n ∧
      start.link id = some (.container n) ∧
      start.linkConf id = some (.container n)) ∧
    (id ∉ old.addedLinks newLinks →
      start.link id = (if id ∈ linkIds (old.removedLinks newLinks) then none
        else old.link id) ∧
      start.linkConf id = (if id ∈ linkIds (old.removedLinks newLinks) then
        none else old.linkConf id)) := by
  obtain ⟨mid, linked, halloc, hadd, hdeinit⟩ := hprepared.linked
  have hlinked := (addLinks_spec (linkIds_nodup _) hadd).2 id
  obtain ⟨-, hlink, hconf⟩ := deinit_spec hdeinit
  rw [if_neg (by simpa using hnew)] at hlink hconf
  rw [hlink, hconf]
  refine ⟨hlinked.1, fun hid => ?_⟩
  have hkept := hlinked.2 hid
  rw [hkept.1, hkept.2, clearLinks, halloc.same]
  exact ⟨rfl, rfl⟩

theorem Prepared.tables_empty (hold : old.Consistent)
    (hprepared : Prepared env old 0 links start) :
    start.link = (fun id => if id = 0 then some .deflink else none) ∧
      start.linkConf = fun id => if id = 0 then some .deflink else none := by
  obtain ⟨mid, linked, halloc, hadd, hdeinit⟩ := hprepared.linked
  obtain ⟨-, hlinked⟩ := addLinks_spec (linkIds_nodup _) hadd
  obtain ⟨-, hlink, hconf⟩ := deinit_spec hdeinit
  have hnone : ∀ id, id ≠ 0 →
      linked.link id = none ∧ linked.linkConf id = none := by
    intro id hne
    have hid : id ∉ old.addedLinks 0 := by
      rw [mem_addedLinks]
      simp
    have hkept := (hlinked id).2 hid
    rw [hkept.1, hkept.2, clearLinks, halloc.same]
    dsimp only
    rw [hold.tables]
    by_cases hrem : id ∈ linkIds (old.removedLinks 0)
    · rw [if_pos hrem]
      exact ⟨rfl, rfl⟩
    · rw [if_neg hrem]
      by_cases hvalid : old.validLinks = 0
      · rw [hold.empty hvalid, if_neg hne]
        exact ⟨rfl, rfl⟩
      · have hclear : old.validLinks.getLsbD id = false := by
          by_contra hset
          rw [Bool.not_eq_false] at hset
          apply hrem
          rw [mem_removedLinks]
          exact ⟨linkId_lt hold.request.last hset, Or.inl ⟨hset, by simp⟩⟩
        exact ⟨hold.none_of_clear hvalid hclear,
          hold.none_of_clear hvalid hclear⟩
  constructor
  · rw [hlink]
    funext id
    by_cases hid : id = 0
    · simp [hid]
    · simp [hid, (hnone id hid).1]
  · rw [hconf]
    funext id
    by_cases hid : id = 0
    · simp [hid]
    · simp [hid, (hnone id hid).2]

/-- Only keys of removed links go away, all keys when there were no links. -/
structure KeysKept (old : VifLinks) (newLinks : BitVec 16)
    (st : VifLinks) : Prop where
  sublist : st.keys.Sublist old.keys
  lost : ∀ key ∈ old.keys, key ∉ st.keys → old.validLinks = 0 ∨
    ∃ id : ℕ, key = id ∧ old.validLinks.getLsbD id = true ∧
      newLinks.getLsbD id = false

theorem tearDownLinks_keys (hkeys : start.keys = old.keys)
    (hvalid : start.validLinks = old.validLinks) :
    KeysKept old newLinks
      (start.tearDownLinks toFree (old.removedLinks newLinks)) := by
  unfold tearDownLinks
  refine ⟨hkeys ▸ List.filter_sublist, ?_⟩
  intro key hkey hlost
  dsimp only at hlost
  rw [hkeys, List.mem_filter, not_and, Bool.not_eq_true'] at hlost
  have hany := hlost hkey
  rw [Bool.not_eq_false, List.any_eq_true] at hany
  obtain ⟨id, hid, hmatch⟩ := hany
  rw [Bool.and_eq_true, Bool.or_eq_true, Bool.or_eq_true,
    decide_eq_true_eq, decide_eq_true_eq, hvalid] at hmatch
  rcases hmatch.2 with hzero | hkey
  · exact Or.inl hzero
  · rcases (mem_removedLinks.mp hid).2 with hremoved | hzero
    · exact Or.inr ⟨id, of_decide_eq_true hkey, hremoved⟩
    · exact Or.inl hzero.1

theorem commitLinks_spec {committed : ℤ × VifLinks}
    (hcommit : commitLinks env old toFree newLinks dormantLinks start =
      committed) :
    start.dupLinkAddrs = true ∧ committed = (errEALREADY, start) ∨
      start.dupLinkAddrs = false ∧ committed.2 =
        (start.tearDownLinks toFree
          (old.removedLinks newLinks)).setVifLinksBitmaps newLinks
            dormantLinks := by
  unfold commitLinks at hcommit
  by_cases hdup : start.dupLinkAddrs = true
  · rw [if_pos hdup] at hcommit
    exact Or.inl ⟨hdup, hcommit.symm⟩
  · rw [if_neg hdup] at hcommit
    subst committed
    exact Or.inr ⟨by simpa using hdup, rfl⟩

theorem commitLinks_frame {committed : ℤ × VifLinks}
    (hcommit : commitLinks env old toFree newLinks dormantLinks start =
      committed) (hkeys : start.keys = old.keys)
    (hvalid : start.validLinks = old.validLinks) :
    committed.2.type = start.type ∧ committed.2.link = start.link ∧
      committed.2.linkConf = start.linkConf ∧
      committed.2.live = start.live ∧
      committed.2.nextContainer = start.nextContainer ∧
      KeysKept old newLinks committed.2 := by
  rcases commitLinks_spec hcommit with ⟨-, rfl⟩ | ⟨-, hstate⟩
  · refine ⟨rfl, rfl, rfl, rfl, rfl, ?_⟩
    exact ⟨hkeys ▸ List.Sublist.refl _,
      fun key hkey hlost => absurd (hkeys ▸ hkey) hlost⟩
  · rw [hstate]
    have htorn := @tearDownLinks_keys old newLinks toFree start hkeys hvalid
    generalize htear : start.tearDownLinks toFree
      (old.removedLinks newLinks) = torn at htorn
    have hframe := setVifLinksBitmaps_frame torn newLinks dormantLinks
    rw [hframe.1, hframe.2.1, hframe.2.2.1, hframe.2.2.2.2.1,
      hframe.2.2.2.2.2]
    refine ⟨?_, ?_, ?_, ?_, ?_, ?_⟩
    · rw [← htear]
      rfl
    · rw [← htear]
      rfl
    · rw [← htear]
      rfl
    · rw [← htear]
      rfl
    · rw [← htear]
      rfl
    · exact ⟨hframe.2.2.2.1 ▸ htorn.sublist,
        fun key hkey hlost =>
          htorn.lost key hkey (hframe.2.2.2.1 ▸ hlost)⟩

end Start

end VifLinks

end IwlwifiStack
