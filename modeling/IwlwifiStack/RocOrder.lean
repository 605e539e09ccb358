import IwlwifiStack.RocAccounting
import Mathlib.Data.List.TakeWhile

/-!
# The started requests come first

An entry in front of a started one is started too, for the same interface and
channel.  A new request keeps this where it is put behind an entry that waits,
or is started on the spot; put unstarted behind an entry that the hardware has
not begun, it must not be in front of another started one.
-/

namespace IwlwifiStack

def RocWork.slot (roc : RocWork) : Bool × ℕ × ℕ :=
  (roc.started, roc.sdata, roc.chan)

def RocOrdered (rocs : List RocWork) : Prop :=
  (rocs.map RocWork.slot).Pairwise fun before behind =>
    behind.1 = true → before = behind

/-- The started entries are a prefix, on the interface and channel of the
first one. -/
def StartedPrefix (rocs : List RocWork) : Prop :=
  ∃ started waiting, rocs = started ++ waiting ∧
    (∀ roc ∈ started, roc.started = true ∧
      ∀ first, rocs.head? = some first →
        roc.sdata = first.sdata ∧ roc.chan = first.chan) ∧
    ∀ roc ∈ waiting, roc.started = false

namespace RocOrdered

variable {rocs after : List RocWork} {roc : RocWork}

theorem cons_iff : RocOrdered (roc :: rocs) ↔
    (∀ behind ∈ rocs, behind.started = true → roc.slot = behind.slot) ∧
      RocOrdered rocs := by
  rw [RocOrdered, List.map_cons, List.pairwise_cons]
  simp only [List.mem_map, forall_exists_index, and_imp,
    forall_apply_eq_imp_iff₂]
  rfl

theorem append_iff {front back : List RocWork} : RocOrdered (front ++ back) ↔
    RocOrdered front ∧ RocOrdered back ∧
      ∀ before ∈ front, ∀ behind ∈ back, behind.started = true →
        before.slot = behind.slot := by
  rw [RocOrdered, List.map_append, List.pairwise_append]
  simp only [List.mem_map, forall_exists_index, and_imp,
    forall_apply_eq_imp_iff₂]
  rfl

theorem of_slots (hordered : RocOrdered rocs)
    (hslots : after.map RocWork.slot = rocs.map RocWork.slot) :
    RocOrdered after := by
  rw [RocOrdered, hslots]
  exact hordered

theorem sublist (hordered : RocOrdered rocs) (hsublist : after.Sublist rocs) :
    RocOrdered after :=
  List.Pairwise.sublist (hsublist.map RocWork.slot) hordered

theorem waiting (hordered : RocOrdered (roc :: rocs))
    (hwaits : roc.started = false) :
    ∀ behind ∈ roc :: rocs, behind.started = false := by
  intro behind hmem
  rcases List.mem_cons.mp hmem with rfl | hmem
  · exact hwaits
  · by_contra hstarted
    rw [Bool.not_eq_false] at hstarted
    have hslot := (cons_iff.mp hordered).1 behind hmem hstarted
    have hsame : roc.started = behind.started := congrArg Prod.fst hslot
    rw [hwaits, hstarted] at hsame
    cases hsame

theorem of_waiting (hwaits : ∀ roc ∈ rocs, roc.started = false) :
    RocOrdered rocs := by
  induction rocs with
  | nil => exact List.Pairwise.nil
  | cons roc rocs ih =>
      rw [List.forall_mem_cons] at hwaits
      rw [cons_iff]
      refine ⟨?_, ih hwaits.2⟩
      intro behind hmem hstarted
      rw [hwaits.2 behind hmem] at hstarted
      cases hstarted

theorem of_slot {front back : List RocWork} {slot : Bool × ℕ × ℕ}
    (hfront : ∀ roc ∈ front, roc.slot = slot)
    (hback : ∀ roc ∈ back, roc.started = false) : RocOrdered (front ++ back) := by
  rw [append_iff]
  refine ⟨?_, of_waiting hback, ?_⟩
  · induction front with
    | nil => exact List.Pairwise.nil
    | cons roc front ih =>
        rw [List.forall_mem_cons] at hfront
        rw [cons_iff]
        refine ⟨?_, ih hfront.2⟩
        intro behind hmem _
        rw [hfront.1, hfront.2 behind hmem]
  · intro before _ behind hmem hstarted
    rw [hback behind hmem] at hstarted
    cases hstarted

theorem dropWhile_waiting (hordered : RocOrdered rocs) :
    ∀ roc ∈ rocs.dropWhile RocWork.started, roc.started = false := by
  have hsuffix := hordered.sublist (List.dropWhile_sublist RocWork.started)
  cases hdrop : rocs.dropWhile RocWork.started with
  | nil => simp
  | cons roc rest =>
      have hhead := List.head?_dropWhile_not RocWork.started rocs
      rw [hdrop] at hsuffix
      rw [hdrop, List.head?_cons] at hhead
      exact hsuffix.waiting (by simpa using hhead)

theorem mem_takeWhile (hordered : RocOrdered rocs) (hmem : roc ∈ rocs)
    (hstarted : roc.started = true) : roc ∈ rocs.takeWhile RocWork.started := by
  rw [← List.takeWhile_append_dropWhile (p := RocWork.started) (l := rocs)]
    at hmem
  rcases List.mem_append.mp hmem with hmem | hmem
  · exact hmem
  · rw [hordered.dropWhile_waiting roc hmem] at hstarted
    cases hstarted

theorem startedPrefix (hordered : RocOrdered rocs) : StartedPrefix rocs := by
  refine ⟨rocs.takeWhile RocWork.started, rocs.dropWhile RocWork.started,
    (List.takeWhile_append_dropWhile).symm, ?_, hordered.dropWhile_waiting⟩
  intro roc hmem
  have hstarted : roc.started = true := List.mem_takeWhile_imp hmem
  refine ⟨hstarted, ?_⟩
  intro first hfirst
  cases rocs with
  | nil => cases hfirst
  | cons head rest =>
      rw [List.head?_cons, Option.some.injEq] at hfirst
      subst hfirst
      rcases List.mem_cons.mp (List.takeWhile_sublist _ |>.subset hmem) with
        rfl | hbehind
      · exact ⟨rfl, rfl⟩
      · have hslot := (cons_iff.mp hordered).1 roc hbehind hstarted
        simp only [RocWork.slot, Prod.mk.injEq] at hslot
        exact ⟨hslot.2.1.symm, hslot.2.2.symm⟩

/-- A new entry behind `tmp`: like it when it is started, and in front of
waiting entries only when it is not. -/
theorem insert {front back : List RocWork} {tmp new : RocWork}
    (hordered : RocOrdered (front ++ tmp :: back))
    (hlike : new.started = true → tmp.slot = new.slot)
    (hwaits : new.started = false →
      ∀ behind ∈ back, behind.started = false) :
    RocOrdered (front ++ tmp :: new :: back) := by
  obtain ⟨hfront, hback, hacross⟩ := append_iff.mp hordered
  obtain ⟨htmp, hrest⟩ := cons_iff.mp hback
  rw [append_iff, cons_iff, cons_iff]
  refine ⟨hfront, ⟨?_, ?_, hrest⟩, ?_⟩
  · intro behind hmem hstarted
    rcases List.mem_cons.mp hmem with rfl | hmem
    · exact hlike hstarted
    · exact htmp behind hmem hstarted
  · intro behind hmem hstarted
    cases hnew : new.started with
    | true => rw [← hlike hnew, htmp behind hmem hstarted]
    | false =>
        rw [hwaits hnew behind hmem] at hstarted
        cases hstarted
  · intro before hbefore behind hmem hstarted
    have htmpAcross := hacross before hbefore tmp List.mem_cons_self
    rcases List.mem_cons.mp hmem with rfl | hmem
    · exact htmpAcross hstarted
    · rcases List.mem_cons.mp hmem with rfl | hmem
      · have hsame := hlike hstarted
        have hstartedTmp : tmp.started = behind.started :=
          congrArg Prod.fst hsame
        rw [← hsame]
        exact htmpAcross (hstartedTmp.trans hstarted)
      · exact hacross before hbefore behind (List.mem_cons_of_mem _ hmem) hstarted

end RocOrdered

/-! ## The walks -/

theorem endFinishedRocs_sublist (config : RocConfig) (now : BitVec 64)
    (rocs : List RocWork) :
    (endFinishedRocs config now rocs).1.Sublist rocs := by
  induction rocs with
  | nil => exact List.Sublist.refl []
  | cons roc rocs ih =>
      rw [endFinishedRocs]
      dsimp only
      split_ifs with hstarted hended
      · exact List.Sublist.refl _
      · exact ih.cons roc
      · exact ih.cons_cons roc

theorem handleRocStarted_slot {roc : RocWork} {startTime : BitVec 64}
    (hstarted : roc.started = true) :
    (roc.handleRocStarted startTime).1.slot = roc.slot := by
  unfold RocWork.handleRocStarted RocWork.slot
  dsimp only
  split_ifs <;> simp [hstarted]

theorem handleRocStarted_started {roc : RocWork} (startTime : BitVec 64)
    (hnotified : roc.notified = false) :
    (roc.handleRocStarted startTime).1.slot = (true, roc.sdata, roc.chan) := by
  unfold RocWork.handleRocStarted RocWork.slot
  dsimp only
  rw [if_neg (by simp [hnotified])]
  split_ifs <;> rfl

theorem hwRocStartList_slots (startTime : BitVec 64) (rocs : List RocWork) :
    (hwRocStartList startTime rocs).1.map RocWork.slot =
      rocs.map RocWork.slot := by
  induction rocs with
  | nil => rfl
  | cons roc rocs ih =>
      rw [hwRocStartList]
      dsimp only
      split_ifs with hstarted
      · rfl
      · rw [List.map_cons, List.map_cons, ih, handleRocStarted_slot (by
          simpa using hstarted)]
        rfl

theorem reconfigList_ordered {rocs : List RocWork} (hordered : RocOrdered rocs) :
    RocOrdered (RocLocal.reconfigList rocs).1 := by
  apply RocOrdered.of_waiting
  induction rocs with
  | nil => simp [RocLocal.reconfigList]
  | cons roc rocs ih =>
      rw [RocLocal.reconfigList]
      dsimp only
      split_ifs with hstarted hbegun
      · exact hordered.waiting (by simpa using hstarted)
      · rw [List.forall_mem_cons]
        exact ⟨rfl, ih (RocOrdered.cons_iff.mp hordered).2⟩
      · exact ih (RocOrdered.cons_iff.mp hordered).2

end IwlwifiStack
