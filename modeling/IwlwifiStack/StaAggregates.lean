import Mathlib.Data.BitVec
import Mathlib.Order.Bounds.Basic
import IwlwifiStack.TsoModel

/-!
# Aggregated limits of a multi-link station

A station keeps one record of A-MSDU limits for each of its links, and one record, `cur`, that the
transmit path reads.  `__ieee80211_sta_recalc_aggregates` rebuilds `cur` from the links that are
active.  One link of a station may use the storage built into the station, `deflink`; the others
have storage of their own.

The fold of the source starts from the record of `deflink` instead of the record of the first
active link, so `cur` is the minimum over the active links only where that makes no difference.
-/

namespace IwlwifiStack

/-! ## The records -/

/-- The fields of `StaAggregates`; there are `IEEE80211_NUM_TIDS` traffic identifiers. -/
inductive AggregateField where
  | maxAmsduLen
  | maxRcAmsduLen
  | maxTidAmsduLen (tid : Fin 16)
deriving DecidableEq

/-- Where a link of the station keeps its data. -/
inductive LinkSta where
  | deflink
  | alloc (agg : StaAggregates)

/-- What `sta->sta.cur` points to. -/
inductive CurPointer where
  | deflinkAgg
  | staCur
deriving DecidableEq

structure MloStation where
  validLinks : BitVec 16
  mlo : Bool
  deflinkAgg : StaAggregates
  link : ℕ → Option LinkSta
  cur : StaAggregates
  pubCur : CurPointer

/-- `IEEE80211_MLD_MAX_NUM_LINKS`, the size of `sta->link`. -/
def maxStaLinks : ℕ := 15

namespace StaAggregates

def value (agg : StaAggregates) : AggregateField → ℕ
  | .maxAmsduLen => agg.maxAmsduLen
  | .maxRcAmsduLen => agg.maxRcAmsduLen
  | .maxTidAmsduLen tid => agg.maxTidAmsduLen tid

def minWith (cur agg : StaAggregates) : StaAggregates where
  maxAmsduLen := min cur.maxAmsduLen agg.maxAmsduLen
  maxRcAmsduLen := min cur.maxRcAmsduLen agg.maxRcAmsduLen
  maxTidAmsduLen := fun i =>
    if i < 16 then min (cur.maxTidAmsduLen i) (agg.maxTidAmsduLen i) else cur.maxTidAmsduLen i
  maxTidAmsduLen_lt := fun i => by
    have hcur := cur.maxTidAmsduLen_lt i
    split_ifs <;> omega

@[simp] theorem minWith_value (cur agg : StaAggregates) (field : AggregateField) :
    (cur.minWith agg).value field = min (cur.value field) (agg.value field) := by
  cases field with
  | maxAmsduLen => rfl
  | maxRcAmsduLen => rfl
  | maxTidAmsduLen tid => exact if_pos tid.isLt

theorem foldl_minWith_value (aggs : List StaAggregates) (cur : StaAggregates)
    (field : AggregateField) :
    (aggs.foldl minWith cur).value field =
      (aggs.map fun agg => agg.value field).foldl min (cur.value field) := by
  induction aggs generalizing cur with
  | nil => rfl
  | cons agg rest ih =>
    rw [List.foldl_cons, ih, minWith_value]
    rfl

end StaAggregates

/-! ## The least value of a fold of minima -/

theorem foldl_min_isLeast (values : List ℕ) (start : ℕ) :
    IsLeast {value | value ∈ start :: values} (values.foldl min start) := by
  induction values generalizing start with
  | nil => simp [IsLeast, lowerBounds]
  | cons head rest ih =>
    have hrest := ih (min start head)
    rw [List.foldl_cons]
    constructor
    · have hmem : rest.foldl min (min start head) ∈ min start head :: rest := hrest.1
      rcases List.mem_cons.mp hmem with hhead | hlater
      · rcases min_choice start head with hstart | hother
        · exact List.mem_cons.mpr (Or.inl (hhead.trans hstart))
        · exact List.mem_cons_of_mem _ (List.mem_cons.mpr (Or.inl (hhead.trans hother)))
      · exact List.mem_cons_of_mem _ (List.mem_cons_of_mem _ hlater)
    · intro value hvalue
      have hfirst : rest.foldl min (min start head) ≤ min start head :=
        hrest.2 List.mem_cons_self
      rcases List.mem_cons.mp hvalue with hstart | hvalue
      · exact hstart ▸ hfirst.trans (min_le_left _ _)
      · rcases List.mem_cons.mp hvalue with hhead | hlater
        · exact hhead ▸ hfirst.trans (min_le_right _ _)
        · exact hrest.2 (List.mem_cons_of_mem _ hlater)

/-- Replacing the start of a fold of minima keeps the result only if the two starts are equal or
a later value is below both. -/
theorem foldl_min_start_iff (values : List ℕ) (start other : ℕ) :
    values.foldl min start = values.foldl min other ↔
      start = other ∨ ∃ value ∈ values, value ≤ start ∧ value ≤ other := by
  have hstart := foldl_min_isLeast values start
  have hother := foldl_min_isLeast values other
  have hstartLe : values.foldl min start ≤ start := hstart.2 List.mem_cons_self
  have hotherLe : values.foldl min other ≤ other := hother.2 List.mem_cons_self
  constructor
  · intro heq
    rcases List.mem_cons.mp hstart.1 with hisStart | hmem
    · rcases List.mem_cons.mp hother.1 with hisOther | hmem
      · exact Or.inl (hisStart.symm.trans (heq.trans hisOther))
      · exact Or.inr ⟨_, hmem, heq ▸ hstartLe, hotherLe⟩
    · exact Or.inr ⟨_, hmem, hstartLe, heq ▸ hotherLe⟩
  · intro hcond
    rcases hcond with heq | ⟨value, hmem, hleStart, hleOther⟩
    · rw [heq]
    · have hvalueStart : values.foldl min start ≤ value := hstart.2 (List.mem_cons_of_mem _ hmem)
      have hvalueOther : values.foldl min other ≤ value := hother.2 (List.mem_cons_of_mem _ hmem)
      apply le_antisymm
      · rcases List.mem_cons.mp hother.1 with hisOther | hmemOther
        · rw [hisOther]
          exact hvalueStart.trans hleOther
        · exact hstart.2 (List.mem_cons_of_mem _ hmemOther)
      · rcases List.mem_cons.mp hstart.1 with hisStart | hmemStart
        · rw [hisStart]
          exact hvalueOther.trans hleStart
        · exact hother.2 (List.mem_cons_of_mem _ hmemStart)

/-! ## The recalculation -/

namespace MloStation

def linkAgg (sta : MloStation) : LinkSta → StaAggregates
  | .deflink => sta.deflinkAgg
  | .alloc agg => agg

/-- The record the transmit path reads through `sta->sta.cur`. -/
def curAgg (sta : MloStation) : StaAggregates :=
  match sta.pubCur with
  | .deflinkAgg => sta.deflinkAgg
  | .staCur => sta.cur

/-- One pass of the loop over the link identifiers, on `sta->cur` and `first`. -/
def recalcLink (sta : MloStation) (activeLinks : BitVec 16) (acc : StaAggregates × Bool)
    (linkId : ℕ) : StaAggregates × Bool :=
  if activeLinks.getLsbD linkId then
    match sta.link linkId with
    | none => acc
    | some linkSta =>
      if acc.2 then (sta.deflinkAgg, false)
      else (acc.1.minWith (sta.linkAgg linkSta), acc.2)
  else acc

/-- `__ieee80211_sta_recalc_aggregates`. -/
def staRecalcAggregates (sta : MloStation) (activeLinks : BitVec 16) : MloStation :=
  if sta.validLinks = 0 ∨ sta.mlo = false then { sta with pubCur := .deflinkAgg }
  else
    { sta with
      cur := ((List.range maxStaLinks).foldl (sta.recalcLink activeLinks) (sta.cur, true)).1
      pubCur := .staCur }

def activeAgg (sta : MloStation) (activeLinks : BitVec 16) (linkId : ℕ) : Option StaAggregates :=
  if activeLinks.getLsbD linkId then (sta.link linkId).map sta.linkAgg else none

def activeAggs (sta : MloStation) (activeLinks : BitVec 16) : List StaAggregates :=
  (List.range maxStaLinks).filterMap (sta.activeAgg activeLinks)

theorem recalcLink_none {sta : MloStation} {activeLinks : BitVec 16} {linkId : ℕ}
    (hnone : sta.activeAgg activeLinks linkId = none) (acc : StaAggregates × Bool) :
    sta.recalcLink activeLinks acc linkId = acc := by
  unfold activeAgg at hnone
  unfold recalcLink
  split at hnone
  · next hactive =>
    have hlink : sta.link linkId = none := Option.map_eq_none_iff.mp hnone
    simp [hactive, hlink]
  · next hinactive => simp [hinactive]

theorem recalcLink_some {sta : MloStation} {activeLinks : BitVec 16} {linkId : ℕ}
    {agg : StaAggregates} (hsome : sta.activeAgg activeLinks linkId = some agg)
    (acc : StaAggregates × Bool) :
    sta.recalcLink activeLinks acc linkId =
      if acc.2 then (sta.deflinkAgg, false) else (acc.1.minWith agg, acc.2) := by
  unfold activeAgg at hsome
  unfold recalcLink
  split at hsome
  · next hactive =>
    have hlink := Option.map_eq_some_iff.mp hsome
    rcases hlink with ⟨linkSta, hlinkSta, hagg⟩
    simp [hactive, hlinkSta, hagg]
  · cases hsome

theorem foldl_recalcLink_later (sta : MloStation) (activeLinks : BitVec 16) (ids : List ℕ)
    (cur : StaAggregates) :
    ids.foldl (sta.recalcLink activeLinks) (cur, false) =
      ((ids.filterMap (sta.activeAgg activeLinks)).foldl StaAggregates.minWith cur, false) := by
  induction ids generalizing cur with
  | nil => rfl
  | cons linkId rest ih =>
    rw [List.foldl_cons]
    cases hagg : sta.activeAgg activeLinks linkId with
    | none => rw [recalcLink_none hagg, ih, List.filterMap_cons_none hagg]
    | some agg =>
      rw [recalcLink_some hagg, List.filterMap_cons_some hagg, List.foldl_cons]
      exact ih (cur.minWith agg)

theorem foldl_recalcLink_first {sta : MloStation} {activeLinks : BitVec 16} {ids : List ℕ}
    {first : StaAggregates} {others : List StaAggregates}
    (haggs : ids.filterMap (sta.activeAgg activeLinks) = first :: others) (cur : StaAggregates) :
    ids.foldl (sta.recalcLink activeLinks) (cur, true) =
      (others.foldl StaAggregates.minWith sta.deflinkAgg, false) := by
  induction ids with
  | nil => cases haggs
  | cons linkId rest ih =>
    rw [List.foldl_cons]
    cases hagg : sta.activeAgg activeLinks linkId with
    | none =>
      rw [recalcLink_none hagg]
      apply ih
      rwa [List.filterMap_cons_none hagg] at haggs
    | some agg =>
      rw [List.filterMap_cons_some hagg] at haggs
      have hothers : rest.filterMap (sta.activeAgg activeLinks) = others :=
        (List.cons_eq_cons.mp haggs).2
      rw [recalcLink_some hagg, if_pos (by rfl), foldl_recalcLink_later, hothers]

/-! ## Stations without links of their own -/

/-! ## Multi-link stations -/

theorem staRecalcAggregates_value {sta : MloStation} (hvalid : sta.validLinks ≠ 0)
    (hmlo : sta.mlo = true) {activeLinks : BitVec 16} {first : StaAggregates}
    {others : List StaAggregates} (haggs : sta.activeAggs activeLinks = first :: others)
    (field : AggregateField) :
    (sta.staRecalcAggregates activeLinks).curAgg.value field =
      (others.map fun agg => agg.value field).foldl min (sta.deflinkAgg.value field) := by
  have hmulti : ¬(sta.validLinks = 0 ∨ sta.mlo = false) := by
    rintro (hzero | hlegacy)
    · exact hvalid hzero
    · exact absurd hmlo (by simp [hlegacy])
  unfold staRecalcAggregates
  rw [if_neg hmulti, foldl_recalcLink_first haggs]
  exact StaAggregates.foldl_minWith_value others sta.deflinkAgg field

/-- The start of the fold does not show: in each field, `deflink` agrees with the first active
link or another active link is below both. -/
def DeflinkHidden (sta : MloStation) (activeLinks : BitVec 16) : Prop :=
  ∀ first others, sta.activeAggs activeLinks = first :: others → ∀ field,
    sta.deflinkAgg.value field = first.value field ∨
      ∃ other ∈ others, other.value field ≤ sta.deflinkAgg.value field ∧
        other.value field ≤ first.value field

/-- `cur` is the minimum of the active links in every field exactly if the record of `deflink`
does not show. -/
theorem staRecalcAggregates_isLeast_iff {sta : MloStation} (hvalid : sta.validLinks ≠ 0)
    (hmlo : sta.mlo = true) {activeLinks : BitVec 16} (hactive : sta.activeAggs activeLinks ≠ []) :
    (∀ field, IsLeast {value | ∃ agg ∈ sta.activeAggs activeLinks, agg.value field = value}
        ((sta.staRecalcAggregates activeLinks).curAgg.value field)) ↔
      sta.DeflinkHidden activeLinks := by
  rcases List.exists_cons_of_ne_nil hactive with ⟨first, others, haggs⟩
  have hfield : ∀ field,
      IsLeast {value | ∃ agg ∈ sta.activeAggs activeLinks, agg.value field = value}
          ((sta.staRecalcAggregates activeLinks).curAgg.value field) ↔
        sta.deflinkAgg.value field = first.value field ∨
          ∃ other ∈ others, other.value field ≤ sta.deflinkAgg.value field ∧
            other.value field ≤ first.value field := by
    intro field
    have hset : {value | ∃ agg ∈ sta.activeAggs activeLinks, agg.value field = value} =
        {value | value ∈ first.value field :: others.map fun agg => agg.value field} := by
      ext value
      simp [haggs, eq_comm]
    have hleast := foldl_min_isLeast (others.map fun agg => agg.value field) (first.value field)
    rw [hset, staRecalcAggregates_value hvalid hmlo haggs]
    constructor
    · intro hcur
      have hstart := (foldl_min_start_iff _ _ _).mp (hcur.unique hleast)
      simpa using hstart
    · intro hcond
      have hstart : (others.map fun agg => agg.value field).foldl min (sta.deflinkAgg.value field) =
          (others.map fun agg => agg.value field).foldl min (first.value field) := by
        apply (foldl_min_start_iff _ _ _).mpr
        simpa using hcond
      rw [hstart]
      exact hleast
  constructor
  · intro hall head tail hlist field
    have hsame := List.cons_eq_cons.mp (haggs.symm.trans hlist)
    rw [← hsame.1, ← hsame.2]
    exact (hfield field).mp (hall field)
  · intro hhidden field
    exact (hfield field).mpr (hhidden first others haggs field)

end MloStation

/-! ## A link switch away from the link that uses `deflink` -/

def largeAggs : StaAggregates where
  maxAmsduLen := 11454
  maxRcAmsduLen := 11454
  maxTidAmsduLen := fun _ => 11454
  maxTidAmsduLen_lt := fun _ => by norm_num

def smallAggs : StaAggregates where
  maxAmsduLen := 3839
  maxRcAmsduLen := 3839
  maxTidAmsduLen := fun _ => 3839
  maxTidAmsduLen_lt := fun _ => by norm_num

/-- Link 0 uses `deflink`, link 1 has storage of its own. -/
def switchedStation : MloStation where
  validLinks := 0b11
  mlo := true
  deflinkAgg := smallAggs
  link := fun linkId =>
    match linkId with
    | 0 => some .deflink
    | 1 => some (.alloc largeAggs)
    | _ => none
  cur := largeAggs
  pubCur := .staCur

theorem switchedStation_activeAggs : switchedStation.activeAggs 0b10 = [largeAggs] := by
  rfl

theorem switchedStation_active : switchedStation.activeAggs 0b10 ≠ [] := by
  rw [switchedStation_activeAggs]
  exact List.cons_ne_nil _ _

/-- With only link 1 active, `cur` still carries the limits of link 0. -/
theorem switchedStation_keeps_deflink :
    switchedStation.validLinks ≠ 0 ∧ switchedStation.mlo = true ∧
      switchedStation.activeAggs 0b10 ≠ [] ∧
      ¬IsLeast {value | ∃ agg ∈ switchedStation.activeAggs 0b10,
          agg.value .maxAmsduLen = value}
        ((switchedStation.staRecalcAggregates 0b10).curAgg.value .maxAmsduLen) := by
  have hvalid : switchedStation.validLinks ≠ 0 := by decide
  have hcur : (switchedStation.staRecalcAggregates 0b10).curAgg.value .maxAmsduLen = 3839 :=
    MloStation.staRecalcAggregates_value hvalid rfl switchedStation_activeAggs .maxAmsduLen
  apply And.intro hvalid
  apply And.intro rfl
  constructor
  · exact switchedStation_active
  · intro hleast
    rcases hleast.1 with ⟨agg, hagg, hvalue⟩
    rw [switchedStation_activeAggs, List.mem_singleton] at hagg
    rw [hcur, hagg] at hvalue
    cases hvalue

theorem switchedStation_bothAggs :
    switchedStation.activeAggs 0b11 = [smallAggs, largeAggs] := by
  rfl

/-- With both links active `deflink` is one of them, so `cur` is right. -/
theorem switchedStation_iff :
    (∀ field, IsLeast {value | ∃ agg ∈ switchedStation.activeAggs 0b11, agg.value field = value}
        ((switchedStation.staRecalcAggregates 0b11).curAgg.value field)) ∧
      ((∀ field, IsLeast {value | ∃ agg ∈ switchedStation.activeAggs 0b10, agg.value field = value}
          ((switchedStation.staRecalcAggregates 0b10).curAgg.value field)) ↔
        switchedStation.DeflinkHidden 0b10) := by
  constructor
  · apply (MloStation.staRecalcAggregates_isLeast_iff (by decide) rfl
      (by rw [switchedStation_bothAggs]; exact List.cons_ne_nil _ _)).mpr
    intro first others haggs field
    rw [switchedStation_bothAggs, List.cons.injEq] at haggs
    rw [← haggs.1]
    exact Or.inl rfl
  · exact MloStation.staRecalcAggregates_isLeast_iff (by decide) rfl switchedStation_active

end IwlwifiStack
