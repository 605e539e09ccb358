import IwlwifiStack.LinkSetModel
import Mathlib.Tactic

/-!
# Delayed work and active links

`struct wiphy_hrtimer_work` with its timer and its place on the work list, and
`ieee80211_set_active_links`, of which the bitmap is kept.
-/

namespace IwlwifiStack

/-! ## Delayed work -/

/-- The time at which the timer fires, and whether the work is on the list. -/
structure HrtimerWork where
  timer : Option ℕ
  queued : Bool
  deriving DecidableEq, Repr

namespace HrtimerWork

/-- `wiphy_hrtimer_work_queue` -/
def queue (work : HrtimerWork) (now delay : ℕ) : HrtimerWork :=
  if delay = 0 then { timer := none, queued := true }
  else { work with timer := some (now + delay) }

/-- `wiphy_hrtimer_work_cancel` -/
def cancel : HrtimerWork := { timer := none, queued := false }

/-- `wiphy_hrtimer_work_timer` -/
def fire (work : HrtimerWork) (now : ℕ) : HrtimerWork :=
  match work.timer with
  | some due =>
      if due ≤ now then { timer := none, queued := true } else work
  | none => work

/-- The work runs at this time at the latest. -/
def DueBy (work : HrtimerWork) (time : ℕ) : Prop :=
  work.queued = true ∨ ∃ due, work.timer = some due ∧ due ≤ time

theorem queue_dueBy {work : HrtimerWork} {now delay time : ℕ}
    (hnow : now ≤ time) :
    (work.queue now delay).DueBy time ↔
      work.queued = true ∨ now + delay ≤ time := by
  unfold queue DueBy
  by_cases hdelay : delay = 0
  · rw [if_pos hdelay, hdelay]
    exact iff_of_true (Or.inl rfl) (Or.inr hnow)
  · rw [if_neg hdelay]
    apply or_congr_right
    constructor
    · rintro ⟨due, hdue, hle⟩
      cases hdue
      exact hle
    · exact fun hle => ⟨now + delay, rfl, hle⟩

end HrtimerWork

/-! ## Active links -/

def errENETDOWN : ℤ := -100

/-- `ieee80211_sdata_running`, `can_activate_links` of the driver, and the
surroundings of its `change_vif_links`. -/
structure ActiveLinksEnv where
  running : Bool
  canActivate : Bool
  links : SetLinksEnv

/-- `ffs` of a set of links. -/
def linksFfs (mask : BitVec 16) : ℕ :=
  match (List.range 16).find? mask.getLsbD with
  | some id => id + 1
  | none => 0

/-- `BIT(ffs(mask) - 1)` -/
def firstLink (mask : BitVec 16) : BitVec 16 :=
  BitVec.twoPow 16 (linksFfs mask - 1)

namespace VifLinks

/-- `ieee80211_vif_usable_links` -/
def usableLinks (st : VifLinks) : BitVec 16 :=
  st.validLinks &&& ~~~st.dormantLinks

/-- `_ieee80211_set_active_links` -/
def setActiveLinksOnce (env : ActiveLinksEnv) (st : VifLinks)
    (activeLinks : BitVec 16) : ℤ × VifLinks :=
  if !env.running then (errENETDOWN, st)
  else if st.type ≠ .station then (errEINVAL, st)
  else if activeLinks &&& ~~~st.usableLinks ≠ 0 then (errEINVAL, st)
  else if st.activeLinks = activeLinks then (0, st)
  else
    let ret := drvChangeVifLinks env.links st.activeLinks
      (st.activeLinks ||| activeLinks)
    if activeLinks &&& ~~~st.activeLinks ≠ 0 ∧ ret ≠ 0 then (ret, st)
    else (0, { st with activeLinks := activeLinks })

/-- `ieee80211_set_active_links` -/
def setActiveLinks (env : ActiveLinksEnv) (st : VifLinks)
    (activeLinks : BitVec 16) : ℤ × VifLinks :=
  if activeLinks = 0 then (errEINVAL, st)
  else if st.activeLinks = activeLinks then (0, st)
  else if !env.canActivate then (errEINVAL, st)
  else if st.activeLinks &&& activeLinks ≠ 0 then
    -- first to the links that stay active
    let kept := st.setActiveLinksOnce env (st.activeLinks &&& activeLinks)
    if kept.1 = 0 then kept.2.setActiveLinksOnce env activeLinks else kept
  else st.setActiveLinksOnce env activeLinks

/-! ## The new active links -/

/-- Some usable links are active, as on an associated station. -/
def ActiveUsable (st : VifLinks) : Prop :=
  st.activeLinks ≠ 0 ∧ st.activeLinks &&& ~~~st.usableLinks = 0

theorem setActiveLinksOnce_spec (env : ActiveLinksEnv) (st : VifLinks)
    (activeLinks : BitVec 16) :
    ∃ after, (st.setActiveLinksOnce env activeLinks).2 =
        { st with activeLinks := after } ∧
      (after = st.activeLinks ∨
        after = activeLinks ∧ activeLinks &&& ~~~st.usableLinks = 0) ∧
      ((st.setActiveLinksOnce env activeLinks).1 = 0 →
        after = activeLinks) := by
  unfold setActiveLinksOnce
  split
  · exact ⟨st.activeLinks, rfl, Or.inl rfl, fun hret => by cases hret⟩
  · split
    · exact ⟨st.activeLinks, rfl, Or.inl rfl, fun hret => by cases hret⟩
    · split
      · exact ⟨st.activeLinks, rfl, Or.inl rfl, fun hret => by cases hret⟩
      · rename_i husable
        rw [not_not] at husable
        split
        · rename_i hsame
          exact ⟨st.activeLinks, rfl, Or.inl rfl, fun _ => hsame⟩
        · dsimp only
          split
          · rename_i hfailed
            exact ⟨st.activeLinks, rfl, Or.inl rfl,
              fun hret => absurd hret hfailed.2⟩
          · exact ⟨activeLinks, rfl, Or.inr ⟨rfl, husable⟩, fun _ => rfl⟩

/-- Only the active links change, to usable ones, and to those of the request
when the call succeeds. -/
theorem setActiveLinks_spec (env : ActiveLinksEnv) (st : VifLinks)
    (activeLinks : BitVec 16) :
    ∃ after, (st.setActiveLinks env activeLinks).2 =
        { st with activeLinks := after } ∧
      (after = st.activeLinks ∨
        after ≠ 0 ∧ after &&& ~~~st.usableLinks = 0) ∧
      ((st.setActiveLinks env activeLinks).1 = 0 →
        after = activeLinks ∧ activeLinks ≠ 0) := by
  unfold setActiveLinks
  by_cases hzero : activeLinks = 0
  · rw [if_pos hzero]
    exact ⟨st.activeLinks, rfl, Or.inl rfl, fun hret => by cases hret⟩
  · rw [if_neg hzero]
    split
    · rename_i hsame
      exact ⟨st.activeLinks, rfl, Or.inl rfl, fun _ => ⟨hsame, hzero⟩⟩
    · split
      · exact ⟨st.activeLinks, rfl, Or.inl rfl, fun hret => by cases hret⟩
      · split
        · rename_i hkept
          obtain ⟨first, hfirst, hcase, hret⟩ := setActiveLinksOnce_spec env st
            (st.activeLinks &&& activeLinks)
          dsimp only
          split
          · obtain ⟨last, hlast, hcase', hret'⟩ := setActiveLinksOnce_spec env
              { st with activeLinks := first } activeLinks
            rw [hfirst]
            refine ⟨last, hlast, ?_, fun hzero' => ⟨hret' hzero', hzero⟩⟩
            rcases hcase' with rfl | ⟨rfl, husable⟩
            · rcases hcase with rfl | ⟨rfl, husable⟩
              · exact Or.inl rfl
              · exact Or.inr ⟨hkept, husable⟩
            · exact Or.inr ⟨hzero, husable⟩
          · rename_i hfailed
            refine ⟨first, hfirst, ?_, fun hzero' => absurd hzero' hfailed⟩
            rcases hcase with rfl | ⟨rfl, husable⟩
            · exact Or.inl rfl
            · exact Or.inr ⟨hkept, husable⟩
        · obtain ⟨after, hafter, hcase, hret⟩ :=
            setActiveLinksOnce_spec env st activeLinks
          refine ⟨after, hafter, ?_, fun hzero' => ⟨hret hzero', hzero⟩⟩
          rcases hcase with rfl | ⟨rfl, husable⟩
          · exact Or.inl rfl
          · exact Or.inr ⟨hzero, husable⟩

theorem firstLink_spec {mask : BitVec 16} (hmask : mask ≠ 0) :
    firstLink mask ≠ 0 ∧ firstLink mask &&& ~~~mask = 0 := by
  unfold firstLink linksFfs
  cases hfind : (List.range 16).find? mask.getLsbD with
  | none =>
      exfalso
      apply hmask
      apply BitVec.eq_of_getLsbD_eq
      intro id hid
      have hclear := List.find?_eq_none.mp hfind id (List.mem_range.mpr hid)
      rw [Bool.not_eq_true] at hclear
      simp [hclear]
  | some id =>
      have hset := List.find?_some hfind
      have hid := List.mem_range.mp (List.mem_of_find?_eq_some hfind)
      dsimp only
      rw [Nat.add_sub_cancel]
      constructor
      · intro hzero
        have hbit := congrArg (fun links => links.getLsbD id) hzero
        simp [hid] at hbit
      · apply BitVec.eq_of_getLsbD_eq
        intro other hother
        by_cases heq : id = other
        · subst heq
          simp [hset]
        · simp [BitVec.getLsbD_twoPow, heq]

end VifLinks

end IwlwifiStack
