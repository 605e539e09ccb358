import IwlwifiStack.ListSums
import IwlwifiStack.PsBufferModel

/-!
# The total of the buffered frames

Every operation but the purge changes `total_ps_buffered` by what it changes
the queues.  The purge counts again and stops at the first queue of a station
that has a frame: it misses the queues of the access categories above.
-/

namespace IwlwifiStack

open ListSums

/-! ## What is buffered -/

/-- The frames on the `ps_tx_buf` queues of a station. -/
def PsSta.buffered (sta : PsSta) : ℤ := ∑ ac, ((sta.psTxBuf ac).length : ℤ)

/-- The frames on all `bc_buf` and all `ps_tx_buf` queues. -/
def PsLocal.buffered (loc : PsLocal) : ℤ :=
  (loc.interfaces.map fun ps => (ps.bcBuf.length : ℤ)).sum +
    (loc.staList.map PsSta.buffered).sum

theorem PsSta.buffered_eq (sta : PsSta) :
    sta.buffered = (sta.psTxBuf 0).length + (sta.psTxBuf 1).length +
      (sta.psTxBuf 2).length + (sta.psTxBuf 3).length := by
  rw [buffered, Fin.sum_univ_four]

theorem PsSta.buffered_nonneg (sta : PsSta) : 0 ≤ sta.buffered := by
  rw [buffered_eq]
  omega

@[simp] theorem PsSta.buffered_setTxFiltered (sta : PsSta) (ac : PsAc)
    (frames : List PsFrame) :
    (sta.setTxFiltered ac frames).buffered = sta.buffered := rfl

theorem PsSta.buffered_setPsTxBuf (sta : PsSta) (ac : PsAc)
    (frames : List PsFrame) :
    (sta.setPsTxBuf ac frames).buffered =
      sta.buffered - (sta.psTxBuf ac).length + frames.length := by
  rw [buffered_eq, buffered_eq]
  fin_cases ac <;> simp [setPsTxBuf, Function.update] <;> ring

theorem PsLocal.buffered_nonneg (loc : PsLocal) : 0 ≤ loc.buffered := by
  apply add_nonneg
  · apply List.sum_nonneg
    intro length hmem
    obtain ⟨ps, -, rfl⟩ := List.mem_map.mp hmem
    exact Int.natCast_nonneg _
  · apply List.sum_nonneg
    intro length hmem
    obtain ⟨sta, -, rfl⟩ := List.mem_map.mp hmem
    exact sta.buffered_nonneg

def PsLocal.drift (loc : PsLocal) : ℤ := loc.totalPsBuffered - loc.buffered

/-- An operation that keeps the total where it is, and does not raise it. -/
structure PsLocal.Settled (loc after : PsLocal) : Prop where
  drift : after.drift = loc.drift
  total : after.totalPsBuffered ≤ loc.totalPsBuffered

namespace PsLocal

variable {loc : PsLocal} {index : ℕ}

theorem Settled.refl (loc : PsLocal) : loc.Settled loc := ⟨rfl, le_refl _⟩

theorem drift_addTotal (loc : PsLocal) (change : ℤ) :
    (loc.addTotal change).drift = loc.drift + change := by
  simp only [drift, buffered, addTotal]
  ring

theorem drift_setSta {sta : PsSta} (new : PsSta)
    (hget : loc.staList[index]? = some sta) :
    (loc.setSta index new).drift =
      loc.drift - (new.buffered - sta.buffered) := by
  have hsum := sum_map_set PsSta.buffered new hget
  simp only [drift, buffered, setSta, hsum]
  ring

theorem drift_setInterface {ps : PsData} (new : PsData)
    (hget : loc.interfaces[index]? = some ps) :
    (loc.setInterface index new).drift =
      loc.drift - ((new.bcBuf.length : ℤ) - ps.bcBuf.length) := by
  have hsum := sum_map_set (fun ps : PsData => (ps.bcBuf.length : ℤ)) new hget
  simp only [drift, buffered, setInterface, hsum]
  ring

theorem settled_setInterface {ps new : PsData} {change : ℤ}
    (hget : loc.interfaces[index]? = some ps)
    (hbuffered : (new.bcBuf.length : ℤ) = ps.bcBuf.length + change)
    (hchange : change ≤ 0) :
    loc.Settled ((loc.setInterface index new).addTotal change) := by
  constructor
  · rw [drift_addTotal, drift_setInterface new hget, hbuffered]
    ring
  · show loc.totalPsBuffered + change ≤ _
    omega

theorem settled_setSta_same {sta new : PsSta}
    (hget : loc.staList[index]? = some sta)
    (hbuffered : new.buffered = sta.buffered) :
    loc.Settled (loc.setSta index new) := by
  constructor
  · rw [drift_setSta new hget, hbuffered, sub_self, sub_zero]
  · exact le_refl _

end PsLocal

/-! ## The purge -/

def PsSta.OneQueue (sta : PsSta) : Prop :=
  ∀ ac other, sta.psTxBuf ac ≠ [] → sta.psTxBuf other ≠ [] → ac = other

theorem purgeAcs_of_nil {sta : PsSta} {ac : PsAc} {acs : List PsAc}
    (hnil : sta.psTxBuf ac = []) : purgeAcs sta (ac :: acs) = purgeAcs sta acs := by
  rw [purgeAcs, hnil]

theorem purgeAcs_of_cons {sta : PsSta} {ac : PsAc} {acs : List PsAc}
    {frame : PsFrame} {frames : List PsFrame}
    (hcons : sta.psTxBuf ac = frame :: frames) :
    purgeAcs sta (ac :: acs) = (sta.setPsTxBuf ac frames, frames.length) := by
  rw [purgeAcs, hcons]

theorem purgeAcs_cases (sta : PsSta) (acs : List PsAc) :
    ((∀ ac ∈ acs, sta.psTxBuf ac = []) ∧ purgeAcs sta acs = (sta, 0)) ∨
      ∃ ac frame frames, sta.psTxBuf ac = frame :: frames ∧
        purgeAcs sta acs = (sta.setPsTxBuf ac frames, frames.length) := by
  induction acs with
  | nil => exact .inl ⟨fun ac hac => absurd hac List.not_mem_nil, rfl⟩
  | cons ac acs ih =>
      cases hframes : sta.psTxBuf ac with
      | cons frame frames => exact .inr ⟨ac, frame, frames, hframes, purgeAcs_of_cons hframes⟩
      | nil =>
          rw [purgeAcs_of_nil hframes]
          refine ih.imp_left fun hrest => ⟨fun other hother => ?_, hrest.2⟩
          rcases List.mem_cons.mp hother with heq | hother
          · rw [heq, hframes]
          · exact hrest.1 other hother

theorem purgeSta_cases (sta : PsSta) :
    ((∀ ac, sta.psTxBuf ac = []) ∧ purgeSta sta = (sta, 0)) ∨
      ∃ ac frame frames, sta.psTxBuf ac = frame :: frames ∧
        purgeSta sta = (sta.setPsTxBuf ac frames, frames.length) := by
  refine (purgeAcs_cases sta (List.finRange 4).reverse).imp_left fun hnone => ⟨fun ac => ?_, hnone.2⟩
  exact hnone.1 ac (List.mem_reverse.mpr (List.mem_finRange ac))

theorem buffered_eq_zero_iff {sta : PsSta} :
    sta.buffered = 0 ↔ ∀ ac, sta.psTxBuf ac = [] := by
  rw [PsSta.buffered, Finset.sum_eq_zero_iff_of_nonneg
    fun ac _ => Int.natCast_nonneg _]
  simp

/-- The frames that are counted are those that the station keeps just when it
had frames in at most one access category. -/
theorem purgeSta_counted_iff (sta : PsSta) :
    ((purgeSta sta).2 : ℤ) = (purgeSta sta).1.buffered ↔ sta.OneQueue := by
  rcases purgeSta_cases sta with ⟨hnil, heq⟩ | ⟨ac, frame, frames, hcons, heq⟩
  · rw [heq, Nat.cast_zero, buffered_eq_zero_iff.mpr hnil]
    exact ⟨fun _ ac other hac => absurd (hnil ac) hac, fun _ => rfl⟩
  · rw [heq, PsSta.buffered_setPsTxBuf]
    have hsplit := Finset.sum_erase_add (Finset.univ : Finset PsAc)
      (fun ac => ((sta.psTxBuf ac).length : ℤ)) (Finset.mem_univ ac)
    have hothers : (∑ other ∈ Finset.univ.erase ac,
        ((sta.psTxBuf other).length : ℤ)) = 0 ↔
          ∀ other, other ≠ ac → sta.psTxBuf other = [] := by
      rw [Finset.sum_eq_zero_iff_of_nonneg fun ac _ => Int.natCast_nonneg _]
      simp
    rw [PsSta.buffered, ← hsplit]
    constructor
    · intro hcounted
      have hempty := hothers.mp (by linarith)
      intro first second hfirst hsecond
      have hfirstAc : first = ac := by
        by_contra hne
        exact hfirst (hempty first hne)
      have hsecondAc : second = ac := by
        by_contra hne
        exact hsecond (hempty second hne)
      rw [hfirstAc, hsecondAc]
    · intro hone
      have hempty := hothers.mpr fun other hne => by
        by_contra hother
        exact hne (hone other ac hother (by simp [hcons]))
      linarith

theorem purgeSta_counted_le (sta : PsSta) :
    ((purgeSta sta).2 : ℤ) ≤ (purgeSta sta).1.buffered := by
  rcases purgeSta_cases sta with ⟨-, heq⟩ | ⟨ac, frame, frames, hcons, heq⟩
  · rw [heq]
    exact sta.buffered_nonneg
  · rw [heq, PsSta.buffered_setPsTxBuf]
    have hle : ((sta.psTxBuf ac).length : ℤ) ≤ sta.buffered :=
      Finset.single_le_sum (f := fun ac => ((sta.psTxBuf ac).length : ℤ))
        (fun ac _ => Int.natCast_nonneg _) (Finset.mem_univ ac)
    linarith

theorem purgeSta_lt {sta : PsSta} (hpositive : 0 < sta.buffered) :
    (purgeSta sta).1.buffered < sta.buffered := by
  rcases purgeSta_cases sta with ⟨hnil, -⟩ | ⟨ac, frame, frames, hcons, heq⟩
  · rw [buffered_eq_zero_iff.mpr hnil] at hpositive
    exact absurd hpositive (lt_irrefl _)
  · rw [heq, PsSta.buffered_setPsTxBuf, hcons, List.length_cons, Nat.cast_succ]
    linarith

theorem purgeSta_le (sta : PsSta) : (purgeSta sta).1.buffered ≤ sta.buffered := by
  by_cases hpositive : 0 < sta.buffered
  · exact (purgeSta_lt hpositive).le
  · rcases purgeSta_cases sta with ⟨-, heq⟩ | ⟨ac, frame, frames, hcons, -⟩
    · rw [heq]
    · have hzero : sta.buffered = 0 :=
        le_antisymm (not_lt.mp hpositive) sta.buffered_nonneg
      rw [buffered_eq_zero_iff.mp hzero ac] at hcons
      cases hcons

namespace PsLocal

theorem purgeOldPsBuffers_buffered (loc : PsLocal) :
    loc.purgeOldPsBuffers.buffered =
      (loc.interfaces.map fun ps => ((purgeBc ps).bcBuf.length : ℤ)).sum +
        (loc.staList.map fun sta => (purgeSta sta).1.buffered).sum := by
  simp only [purgeOldPsBuffers, buffered, List.map_map]
  rfl

theorem purge_drift_iff (loc : PsLocal) :
    loc.purgeOldPsBuffers.drift = 0 ↔ ∀ sta ∈ loc.staList, sta.OneQueue := by
  have hterms := sum_map_eq_iff fun sta (_ : sta ∈ loc.staList) =>
    purgeSta_counted_le sta
  rw [drift, purgeOldPsBuffers_buffered]
  simp only [purgeSta_counted_iff] at hterms
  rw [← hterms]
  simp only [purgeOldPsBuffers]
  constructor <;> intro heq <;> linarith

theorem purge_buffered_lt {loc : PsLocal} (hpositive : 0 < loc.buffered) :
    loc.purgeOldPsBuffers.buffered < loc.buffered := by
  rw [purgeOldPsBuffers_buffered]
  rw [buffered] at hpositive ⊢
  have hbcLe : ∀ ps ∈ loc.interfaces,
      ((purgeBc ps).bcBuf.length : ℤ) ≤ ps.bcBuf.length := by
    intro ps _
    simp only [purgeBc, List.length_tail]
    omega
  have hbcLt : ∀ ps ∈ loc.interfaces, 0 < (ps.bcBuf.length : ℤ) →
      ((purgeBc ps).bcBuf.length : ℤ) < ps.bcBuf.length := by
    intro ps _ hlength
    simp only [purgeBc, List.length_tail]
    omega
  have hstaLe : ∀ sta ∈ loc.staList,
      (purgeSta sta).1.buffered ≤ sta.buffered := fun sta _ => purgeSta_le sta
  have hbc := List.sum_le_sum hbcLe
  have hsta := List.sum_le_sum hstaLe
  by_cases hbcPositive :
      0 < (loc.interfaces.map fun ps => (ps.bcBuf.length : ℤ)).sum
  · have hless := sum_map_lt hbcLe hbcLt hbcPositive
    omega
  · have hless := sum_map_lt hstaLe (fun sta _ hlt => purgeSta_lt hlt)
      (by omega)
    omega

theorem makeRoom_total {loc : PsLocal} (hdrift : loc.drift = 0)
    (hone : (totalMaxTxBuffer : ℤ) ≤ loc.totalPsBuffered →
      ∀ sta ∈ loc.staList, sta.OneQueue)
    (hlimit : loc.totalPsBuffered ≤ totalMaxTxBuffer) :
    loc.makeRoom.drift = 0 ∧
      loc.makeRoom.totalPsBuffered < totalMaxTxBuffer := by
  unfold makeRoom
  split_ifs with hfull
  · have hpurged := loc.purge_drift_iff.mpr (hone hfull)
    refine ⟨hpurged, ?_⟩
    have hpositive : 0 < loc.buffered := by
      rw [drift] at hdrift
      have hbound : 0 < totalMaxTxBuffer := by decide
      omega
    have hless := purge_buffered_lt hpositive
    rw [drift] at hpurged hdrift
    omega
  · exact ⟨hdrift, by omega⟩

end PsLocal

end IwlwifiStack
