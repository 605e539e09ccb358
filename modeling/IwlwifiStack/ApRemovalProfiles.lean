import IwlwifiStack.ApRemovalModel
import IwlwifiStack.LinkSetRuns
import Mathlib.Data.List.TakeWhile

/-!
# The removal times of an element

What the walk over the profiles collects, and the delay that the loop over the
links takes from it: the least one, but only behind the last link without a
delay.
-/

namespace IwlwifiStack

/-! ## The walk -/

def perStaProfiles (mlReconf : List UInt8) : List Element :=
  (mleSubelements mlReconf).filter fun sub => sub.id = 0

def ReconfWellFormed (mlReconf : List UInt8) : Prop :=
  ∀ sub ∈ perStaProfiles mlReconf,
    ieee80211MleReconfStaProfSizeOk sub.data = true

/-- No profile with a timer, up to the first one of a bad size, names the link
behind the end of the table. -/
def ReconfInBounds (mlReconf : List UInt8) : Prop :=
  ∀ sub ∈ (perStaProfiles mlReconf).takeWhile fun sub =>
      ieee80211MleReconfStaProfSizeOk sub.data,
    apRemTimerPresent sub.data = true → profLinkId sub.data < maxNumLinks

def ReconfTables.profiles (tables : ReconfTables) (profs : List Element) :
    ReconfTables :=
  profs.foldl (fun tables sub => tables.profile sub.data) tables

theorem reconfProfiles_spec (subs : List Element) (tables : ReconfTables) :
    (reconfProfiles subs tables ≠ .outOfBounds ↔
      ∀ sub ∈ (subs.filter fun sub => sub.id = 0).takeWhile fun sub =>
          ieee80211MleReconfStaProfSizeOk sub.data,
        apRemTimerPresent sub.data = true →
          profLinkId sub.data < maxNumLinks) ∧
    ∀ found, reconfProfiles subs tables = .tables found ↔
      (∀ sub ∈ subs.filter fun sub => sub.id = 0,
        ieee80211MleReconfStaProfSizeOk sub.data = true ∧
          (apRemTimerPresent sub.data = true →
            profLinkId sub.data < maxNumLinks)) ∧
      found = tables.profiles (subs.filter fun sub => sub.id = 0) := by
  induction subs generalizing tables with
  | nil =>
      constructor
      · simp [reconfProfiles]
      · intro found
        simp only [reconfProfiles, ReconfWalk.tables.injEq, List.filter_nil,
          ReconfTables.profiles, List.foldl_nil]
        constructor
        · exact fun htables => ⟨fun sub hsub => (List.not_mem_nil hsub).elim,
            htables.symm⟩
        · exact fun hall => hall.2.symm
  | cons sub rest ih =>
      unfold reconfProfiles
      by_cases hid : sub.id = 0
      · rw [if_neg (not_not.mpr hid), List.filter_cons_of_pos (by simpa)]
        by_cases hsize : ieee80211MleReconfStaProfSizeOk sub.data = true
        · rw [if_neg (by simp [hsize]), 
            @List.takeWhile_cons_of_pos _ (fun sub : Element =>
              ieee80211MleReconfStaProfSizeOk sub.data) sub _ hsize]
          by_cases hbound : apRemTimerPresent sub.data = true →
              profLinkId sub.data < maxNumLinks
          · have hin : ¬(apRemTimerPresent sub.data = true ∧
                maxNumLinks ≤ profLinkId sub.data) := by
              rintro ⟨htimer, hge⟩
              have hlt := hbound htimer
              omega
            rw [if_neg hin]
            obtain ⟨hwalk, htables⟩ := ih (tables.profile sub.data)
            constructor
            · rw [hwalk, List.forall_mem_cons, and_iff_right hbound]
            · intro found
              rw [htables, List.forall_mem_cons]
              exact and_congr
                ⟨fun hall => ⟨⟨hsize, hbound⟩, hall⟩, And.right⟩ Iff.rfl
          · have hout : apRemTimerPresent sub.data = true ∧
                maxNumLinks ≤ profLinkId sub.data := by
              push Not at hbound
              exact hbound
            rw [if_pos hout]
            constructor
            · rw [List.forall_mem_cons]
              exact iff_of_false (not_not.mpr rfl)
                fun hall => hbound hall.1
            · intro found
              rw [List.forall_mem_cons]
              apply iff_of_false
              · intro hfound
                cases hfound
              · exact fun hall => hbound hall.1.1.2
        · rw [if_pos (by simpa using hsize), 
            @List.takeWhile_cons_of_neg _ (fun sub : Element =>
              ieee80211MleReconfStaProfSizeOk sub.data) sub _ hsize]
          constructor
          · apply iff_of_true
            · intro hwalk
              cases hwalk
            · intro other hother
              exact (List.not_mem_nil hother).elim
          · intro found
            rw [List.forall_mem_cons]
            apply iff_of_false
            · intro hfound
              cases hfound
            · exact fun hall => hsize hall.1.1.1
      · rw [if_pos hid, List.filter_cons_of_neg (by simpa)]
        exact ih tables

theorem reconfProfiles_wellFormed {mlReconf : List UInt8}
    (hwell : ReconfWellFormed mlReconf) (tables : ReconfTables) :
    reconfProfiles (mleSubelements mlReconf) tables = .outOfBounds ∨
      reconfProfiles (mleSubelements mlReconf) tables =
        .tables (tables.profiles (perStaProfiles mlReconf)) := by
  obtain ⟨hbounds, htables⟩ :=
    reconfProfiles_spec (mleSubelements mlReconf) tables
  by_cases hout : reconfProfiles (mleSubelements mlReconf) tables =
      .outOfBounds
  · exact Or.inl hout
  · refine Or.inr ((htables _).mpr ⟨fun sub hsub => ⟨hwell sub hsub, ?_⟩, rfl⟩)
    have hall : (perStaProfiles mlReconf).takeWhile (fun sub =>
        ieee80211MleReconfStaProfSizeOk sub.data) =
          perStaProfiles mlReconf :=
      List.takeWhile_eq_self_iff.mpr hwell
    apply hbounds.mp hout sub
    change sub ∈ (perStaProfiles mlReconf).takeWhile _
    rw [hall]
    exact hsub

theorem profLinkId_lt (data : List UInt8) : profLinkId data < 16 :=
  Nat.mod_lt _ (by decide)

/-! ## The tables -/

def lastTimer (profs : List Element) (id : ℕ) : Option ℕ :=
  ((profs.filter fun sub =>
    profLinkId sub.data = id && apRemTimerPresent sub.data).getLast?).map
      fun sub => apRemTimer sub.data

theorem profiles_removed (tables : ReconfTables) (profs : List Element)
    (id : ℕ) :
    (tables.profiles profs).removedLinks.getLsbD id = true ↔
      tables.removedLinks.getLsbD id = true ∨
        ∃ sub ∈ profs, profLinkId sub.data = id := by
  induction profs generalizing tables with
  | nil => simp [ReconfTables.profiles]
  | cons sub rest ih =>
      change ((tables.profile sub.data).profiles rest).removedLinks.getLsbD id
        = true ↔ _
      rw [ih, ReconfTables.profile]
      dsimp only
      rw [BitVec.getLsbD_or, Bool.or_eq_true, BitVec.getLsbD_twoPow,
        Bool.and_eq_true, decide_eq_true_eq, decide_eq_true_eq,
        and_iff_right (profLinkId_lt sub.data), or_assoc]
      simp

theorem profiles_timeout (tables : ReconfTables) (profs : List Element)
    (id : ℕ) :
    (tables.profiles profs).linkRemovalTimeout id =
      (lastTimer profs id).getD (tables.linkRemovalTimeout id) := by
  induction profs using List.reverseRecOn with
  | nil => rfl
  | append_singleton profs sub ih =>
      have happend : tables.profiles (profs ++ [sub]) =
          (tables.profiles profs).profile sub.data := by
        simp [ReconfTables.profiles]
      rw [happend, ReconfTables.profile, lastTimer, List.filter_append]
      dsimp only
      by_cases htimer : apRemTimerPresent sub.data = true
      · rw [if_pos htimer]
        by_cases hid : profLinkId sub.data = id
        · simp [hid, htimer, Function.update]
        · rw [Function.update_of_ne (Ne.symm hid), ih]
          simp [hid, lastTimer]
      · rw [if_neg htimer, ih]
        simp [htimer, lastTimer]

/-! ## The delay -/

def shorter (delay link : ℕ) : ℕ :=
  if delay = 0 then link else min delay link

theorem foldl_shorter_zero {delays : List ℕ} (hne : delays ≠ []) :
    delays.foldl shorter 0 = 0 ↔ delays.getLast? = some 0 := by
  induction delays using List.reverseRecOn with
  | nil => exact absurd rfl hne
  | append_singleton delays delay _ =>
      rw [List.foldl_append, List.getLast?_concat, Option.some.injEq]
      change shorter _ delay = 0 ↔ _
      unfold shorter
      split
      · rfl
      · omega

theorem foldl_shorter_least {delays : List ℕ} (hne : delays ≠ [])
    (hpos : ∀ delay ∈ delays, delay ≠ 0) :
    delays.foldl shorter 0 ∈ delays ∧
      ∀ delay ∈ delays, delays.foldl shorter 0 ≤ delay := by
  induction delays using List.reverseRecOn with
  | nil => exact absurd rfl hne
  | append_singleton delays delay ih =>
      rw [List.foldl_append]
      change shorter _ delay ∈ _ ∧ ∀ other ∈ _, shorter _ delay ≤ other
      by_cases hempty : delays = []
      · subst hempty
        simp [shorter]
      · obtain ⟨hmem, hle⟩ := ih hempty
          fun other hother => hpos other (List.mem_append_left _ hother)
        generalize delays.foldl shorter 0 = least at hmem hle
        have hprev := hpos least (List.mem_append_left [delay] hmem)
        have hstep : shorter least delay = min least delay := if_neg hprev
        rw [hstep]
        constructor
        · rcases Nat.le_total least delay with hcase | hcase
          · rw [Nat.min_eq_left hcase]
            exact List.mem_append_left _ hmem
          · rw [Nat.min_eq_right hcase]
            exact List.mem_append_right _ List.mem_cons_self
        · intro other hother
          rcases List.mem_append.mp hother with hother | hother
          · exact (Nat.min_le_left _ _).trans (hle other hother)
          · rw [List.mem_singleton.mp hother]
            exact Nat.min_le_right _ _

def ApRemoval.delayAt (st : ApRemoval) (id timeout : ℕ) : ℕ :=
  match st.vif.linkConf id with
  | some conf => linkDelay (st.beaconInt conf) timeout
  | none => 0

theorem removalDelay_eq {st : ApRemoval} {timeout : ℕ → ℕ} {ids : List ℕ}
    (hconf : ∀ id ∈ ids, (st.vif.linkConf id).isSome = true)
    (acc : BitVec 16 × ℕ) :
    removalDelay st timeout ids acc =
      (acc.1, (ids.map fun id => st.delayAt id (timeout id)).foldl shorter
        acc.2) := by
  induction ids generalizing acc with
  | nil => rfl
  | cons id ids ih =>
      obtain ⟨conf, hsome⟩ :=
        Option.isSome_iff_exists.mp (hconf id List.mem_cons_self)
      rw [removalDelay, hsome]
      dsimp only
      rw [ih fun other hother => hconf other (List.mem_cons_of_mem id hother),
        List.map_cons, List.foldl_cons, ApRemoval.delayAt, hsome]
      rfl

end IwlwifiStack
