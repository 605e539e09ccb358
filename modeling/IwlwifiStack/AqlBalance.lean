import IwlwifiStack.AqlModel
import IwlwifiStack.ListSums

/-!
# Every estimate is credited where it was charged

While every credit goes to the station and the access category of the TXQ, the
counters are the sums of the estimates in the frames that are not yet reported.
A dropped Ethernet frame, whose addresses are read as those of an 802.11 header,
and a report that names no station leave the station charged for ever.
-/

namespace IwlwifiStack

open ListSums

namespace AqlLocal

def owed (loc : AqlLocal) (kind : AqlFrame → Bool) : ℤ :=
  (loc.frames.map fun frame => if kind frame then (frame.est : ℤ) else 0).sum

def withFrames (loc : AqlLocal) (frames : List AqlFrame) : AqlLocal :=
  { loc with frames := frames }

def holds (loc : AqlLocal) (id : ℕ) : ℤ :=
  (loc.frames.map fun frame =>
    if frame.id = id ∧ frame.est ≠ 0 then (1 : ℤ) else 0).sum

end AqlLocal

/-- The counters are the sums of the estimates, and each estimate is either in
its frame or was credited once. -/
structure AqlBalanced (loc : AqlLocal) : Prop where
  station : ∀ sta ac, loc.aqlTxPending sta ac =
    loc.owed fun frame => decide (frame.sta = some sta ∧ frame.ac = ac)
  device : ∀ ac, loc.aqlAcPendingAirtime ac =
    loc.owed fun frame => decide (frame.ac = ac)
  total : loc.aqlTotalPendingAirtime = loc.owed fun _ => true
  once : ∀ id, (loc.charged.count id : ℤ) = loc.credited.count id + loc.holds id
  nodup : loc.charged.Nodup
  unclamped : loc.clamped = false

structure AqlGood (loc : AqlLocal) : Prop extends AqlBalanced loc where
  mapping : ∀ frame ∈ loc.frames, frame.est ≠ 0 → frame.skb.queueMapping = frame.ac
  station_isSome : ∀ frame ∈ loc.frames, frame.est ≠ 0 → frame.sta.isSome = true
  charged_lt : ∀ id ∈ loc.charged, id < loc.nextId
  frames_lt : ∀ frame ∈ loc.frames, frame.id < loc.nextId

namespace AqlLocal

/-- Whether a step credits the station and the access category that were
charged, and the total stays an `int`. -/
def Credits (hw : AqlHw) (loc : AqlLocal) : AqlEvent → Prop
  | .txDequeue skb txqSta txqAc airtime =>
      loc.aqlTotalPendingAirtime + (skb.setTxTimeEst airtime).getTxTimeEst < 2 ^ 31 ∧
        (txqSta.isSome = true → (skb.setTxTimeEst airtime).getTxTimeEst ≠ 0 →
          skb.queueMapping = txqAc)
  | .txStatusSkb index _ | .freeTxskb index =>
      ∀ frame ∈ loc.frames[index]?, frame.est ≠ 0 →
        hw.staInfoGetByAddrs frame.skb.addr1 frame.skb.addr2 = frame.sta
  | .txStatusExt index status =>
      ∀ frame ∈ loc.frames[index]?, frame.est ≠ 0 → status.sta = frame.sta
  | .setPs _ _ => True

/-! ## Frames that are done -/

/-- The frames without the estimate of one of them, which can be there still. -/
structure Settles (frame : AqlFrame) (frames after : List AqlFrame) : Prop where
  sum : ∀ term : AqlFrame → ℤ, (∀ other, other.est = 0 → term other = 0) →
    (after.map term).sum = (frames.map term).sum - term frame
  mem : ∀ other ∈ after, other ∈ frames ∨ other.est = 0 ∧ other.id = frame.id

theorem settles_eraseIdx {frames : List AqlFrame} {index : ℕ} {frame : AqlFrame}
    (hframe : frames[index]? = some frame) :
    Settles frame frames (frames.eraseIdx index) where
  sum term _ := sum_map_eraseIdx term hframe
  mem _ hother := Or.inl (List.mem_of_mem_eraseIdx hother)

theorem settles_set {frames : List AqlFrame} {index : ℕ} {frame kept : AqlFrame}
    (hframe : frames[index]? = some frame) (hest : kept.est = 0)
    (hid : kept.id = frame.id) :
    Settles frame frames (frames.set index kept) where
  sum term hterm := by
    rw [sum_map_set term kept hframe, hterm kept hest, add_zero]
  mem other hother := by
    rcases List.mem_or_eq_of_mem_set hother with hmem | heq
    · exact Or.inl hmem
    · rw [heq]
      exact Or.inr ⟨hest, hid⟩

/-- What a report does: it credits the estimate to a station, and takes it out
of the frame. -/
structure Completes (loc : AqlLocal) (frame : AqlFrame) (sta : Option ℕ)
    (after : AqlLocal) : Prop where
  counters : after = (if frame.est ≠ 0 then loc.creditFrame frame sta
    else loc).withFrames after.frames
  settles : Settles frame loc.frames after.frames

section Reports

variable (hw : AqlHw) {loc : AqlLocal} {index : ℕ} {frame : AqlFrame}

theorem creditFrame_frames (sta : Option ℕ) :
    (loc.creditFrame frame sta).frames = loc.frames := by
  unfold creditFrame creditAirtime creditDevice creditSta
  cases sta <;> dsimp only <;> split_ifs <;> rfl

theorem freeTxskb_completes (hframe : loc.frames[index]? = some frame) :
    loc.Completes frame (hw.staInfoGetByAddrs frame.skb.addr1 frame.skb.addr2)
      (loc.freeTxskb hw index frame) :=
  ⟨rfl, settles_eraseIdx hframe⟩

def Passes (loc : AqlLocal) (frame : AqlFrame) (after : AqlLocal) : Prop :=
  after = loc.withFrames after.frames ∧
    Settles frame loc.frames after.frames

theorem freeTxskb_passes {done : AqlFrame}
    (hframe : loc.frames[index]? = some frame) (hest : done.est = 0) :
    loc.Passes frame (loc.freeTxskb hw index done) := by
  unfold freeTxskb reportUsedSkb
  rw [if_neg (not_not.mpr hest)]
  exact ⟨rfl, settles_eraseIdx hframe⟩

theorem handleFilteredFrame_passes (sta : ℕ) (staFull : Bool) {done : AqlFrame}
    (hframe : loc.frames[index]? = some frame) (hest : done.est = 0)
    (hid : done.id = frame.id) :
    loc.Passes frame (loc.handleFilteredFrame hw index done sta staFull) := by
  unfold handleFilteredFrame
  split_ifs
  · exact freeTxskb_passes hw hframe hest
  · exact ⟨rfl, settles_set hframe hest hid⟩
  · exact ⟨rfl, settles_set hframe hest hid⟩
  · exact freeTxskb_passes hw hframe hest

theorem txStatusRest_passes (status : AqlStatus) {done : AqlFrame}
    (hframe : loc.frames[index]? = some frame) (hest : done.est = 0)
    (hid : done.id = frame.id) :
    loc.Passes frame (loc.txStatusRest hw index done status) := by
  unfold txStatusRest
  cases status.sta with
  | none => exact freeTxskb_passes hw hframe hest
  | some sta =>
      dsimp only
      split_ifs
      · exact freeTxskb_passes hw hframe hest
      · exact handleFilteredFrame_passes hw sta _ hframe hest hid
      · exact handleFilteredFrame_passes hw sta _ hframe hest hid
      · exact freeTxskb_passes hw hframe hest

theorem txStatusExt_completes (status : AqlStatus)
    (hframe : loc.frames[index]? = some frame) :
    loc.Completes frame status.sta (loc.txStatusExt hw index frame status) := by
  unfold txStatusExt
  by_cases hest : frame.est ≠ 0
  · have hcredited : (loc.creditFrame frame status.sta).frames[index]? =
        some frame := by
      rw [creditFrame_frames]
      exact hframe
    have hzero : ({ frame with skb := frame.skb.setTxTimeEst 0 } : AqlFrame).est =
        0 := rfl
    rcases txStatusRest_passes hw status hcredited hzero rfl with
      ⟨hafter, hsettles⟩
    rw [creditFrame_frames] at hsettles
    rw [if_pos hest]
    refine ⟨?_, hsettles⟩
    rw [if_pos hest]
    exact hafter
  · rcases txStatusRest_passes hw status hframe (not_not.mp hest) rfl with
      ⟨hafter, hsettles⟩
    rw [if_neg hest]
    refine ⟨?_, hsettles⟩
    rw [if_neg hest]
    exact hafter

end Reports

/-! ## Credits -/

section Credit

variable {loc after : AqlLocal} {frame : AqlFrame}

theorem creditAirtime_covered {sta : ℕ} {ac : AqlAc} {txAirtime : ℕ}
    (hsta : (txAirtime : ℤ) ≤ loc.aqlTxPending sta ac)
    (hac : (txAirtime : ℤ) ≤ loc.aqlAcPendingAirtime ac) :
    loc.creditAirtime (some sta) ac txAirtime =
      { (loc.setStaPending sta ac (loc.aqlTxPending sta ac - txAirtime)).setAcPending
          ac (loc.aqlAcPendingAirtime ac - txAirtime) with
        aqlTotalPendingAirtime := loc.aqlTotalPendingAirtime - txAirtime } := by
  have hcredited : loc.creditSta sta ac txAirtime =
      loc.setStaPending sta ac (loc.aqlTxPending sta ac - txAirtime) :=
    if_neg (by omega)
  rw [creditAirtime]
  dsimp only
  rw [hcredited]
  exact if_neg (by simp only [setStaPending]; omega)

theorem owed_nonneg (loc : AqlLocal) (kind : AqlFrame → Bool) :
    0 ≤ loc.owed kind := by
  apply List.sum_nonneg
  intro term hterm
  rcases List.mem_map.mp hterm with ⟨frame, _, heq⟩
  rw [← heq]
  split_ifs
  · exact Int.natCast_nonneg _
  · exact le_rfl

theorem Settles.owed (hsettles : Settles frame loc.frames after.frames)
    (kind : AqlFrame → Bool) :
    after.owed kind =
      loc.owed kind - if kind frame then (frame.est : ℤ) else 0 := by
  apply hsettles.sum
  intro other hest
  rw [hest, Nat.cast_zero, ite_self]

theorem Settles.holds (hsettles : Settles frame loc.frames after.frames) (id : ℕ) :
    after.holds id =
      loc.holds id - if frame.id = id ∧ frame.est ≠ 0 then 1 else 0 := by
  apply hsettles.sum (fun frame => if frame.id = id ∧ frame.est ≠ 0 then (1 : ℤ) else 0)
  intro other hest
  exact if_neg fun hboth => hboth.2 hest

theorem Settles.est_le (hsettles : Settles frame loc.frames after.frames)
    {kind : AqlFrame → Bool} (hkind : kind frame = true) :
    (frame.est : ℤ) ≤ loc.owed kind := by
  have hrest := hsettles.owed kind
  rw [if_pos hkind] at hrest
  have hnonneg := after.owed_nonneg kind
  omega

/-- The counters behind a report: the estimate is taken off where it was
charged. -/
structure Credited (loc : AqlLocal) (frame : AqlFrame) (after : AqlLocal) :
    Prop where
  station : ∀ sta ac, after.aqlTxPending sta ac = loc.aqlTxPending sta ac -
    if frame.sta = some sta ∧ frame.ac = ac then (frame.est : ℤ) else 0
  device : ∀ ac, after.aqlAcPendingAirtime ac = loc.aqlAcPendingAirtime ac -
    if frame.ac = ac then (frame.est : ℤ) else 0
  total : after.aqlTotalPendingAirtime = loc.aqlTotalPendingAirtime - frame.est
  credited : ∀ id, (after.credited.count id : ℤ) = loc.credited.count id +
    if frame.id = id ∧ frame.est ≠ 0 then 1 else 0
  charged : after.charged = loc.charged
  nextId : after.nextId = loc.nextId
  clamped : after.clamped = loc.clamped

theorem credited_of_zero {sta : Option ℕ} (hest : frame.est = 0)
    (hdone : loc.Completes frame sta after) : loc.Credited frame after := by
  have hafter := hdone.counters
  rw [if_neg (not_not.mpr hest)] at hafter
  generalize after.frames = frames at hafter
  rw [hafter]
  constructor <;> simp [withFrames, hest]

theorem credited_of_covered {sta : ℕ} (hest : frame.est ≠ 0)
    (hframe : frame.sta = some sta) (hmapping : frame.skb.queueMapping = frame.ac)
    (hsta : (frame.est : ℤ) ≤ loc.aqlTxPending sta frame.ac)
    (hac : (frame.est : ℤ) ≤ loc.aqlAcPendingAirtime frame.ac)
    (hdone : loc.Completes frame (some sta) after) : loc.Credited frame after := by
  have hafter := hdone.counters
  rw [if_pos hest, creditFrame, hmapping, creditAirtime_covered hsta hac] at hafter
  generalize after.frames = frames at hafter
  rw [hafter]
  constructor
  · intro other ac
    simp only [withFrames, setAcPending, setStaPending, hframe, Option.some.injEq]
    by_cases hother : other = sta
    · rw [hother, Function.update_self]
      by_cases hsame : ac = frame.ac
      · rw [hsame, Function.update_self, if_pos ⟨rfl, rfl⟩]
      · rw [Function.update_of_ne hsame, if_neg fun hboth => hsame hboth.2.symm,
          sub_zero]
    · rw [Function.update_of_ne hother, if_neg fun hboth => hother hboth.1.symm,
        sub_zero]
  · intro ac
    simp only [withFrames, setAcPending, setStaPending]
    by_cases hsame : ac = frame.ac
    · rw [hsame, Function.update_self, if_pos rfl]
    · rw [Function.update_of_ne hsame, if_neg (Ne.symm hsame), sub_zero]
  · rfl
  · intro id
    simp only [withFrames, List.count_append, List.count_singleton, Nat.cast_add]
    by_cases hid : frame.id = id
    · simp [hid, hest]
    · simp [hid]
  · rfl
  · rfl
  · rfl

/-- The counters behind a frame that is sent. -/
structure Charged (loc : AqlLocal) (frame : AqlFrame) (after : AqlLocal) :
    Prop where
  station : ∀ sta ac, after.aqlTxPending sta ac = loc.aqlTxPending sta ac +
    if frame.sta = some sta ∧ frame.ac = ac then (frame.est : ℤ) else 0
  device : ∀ ac, after.aqlAcPendingAirtime ac = loc.aqlAcPendingAirtime ac +
    if frame.ac = ac then (frame.est : ℤ) else 0
  total : after.aqlTotalPendingAirtime = loc.aqlTotalPendingAirtime + frame.est
  charged : after.charged =
    if frame.est = 0 then loc.charged else loc.charged ++ [frame.id]
  credited : after.credited = loc.credited
  frames : after.frames = loc.frames ++ [frame]
  id : frame.id = loc.nextId
  nextId : after.nextId = loc.nextId + 1
  clamped : after.clamped = loc.clamped
  sta_isSome : frame.est ≠ 0 → frame.sta.isSome = true

theorem txDequeue_charged (loc : AqlLocal) (skb : AqlSkb) (txqSta : Option ℕ)
    (txqAc : AqlAc) (airtime : ℕ) :
    ∃ frame : AqlFrame, frame.skb.queueMapping = skb.queueMapping ∧
      frame.ac = txqAc ∧
      (frame.est ≠ 0 → txqSta.isSome = true ∧
        frame.est = (skb.setTxTimeEst airtime).getTxTimeEst) ∧
      loc.Charged frame (loc.txDequeue skb txqSta txqAc airtime) := by
  by_cases hcharge : txqSta.isSome ∧ airtime ≠ 0
  · rcases Option.isSome_iff_exists.mp hcharge.1 with ⟨sta, rfl⟩
    refine ⟨⟨loc.nextId, ({ skb with txTimeEst := 0 } : AqlSkb).setTxTimeEst airtime,
      some sta, txqAc⟩, rfl, rfl, fun _ => ⟨rfl, rfl⟩, ?_⟩
    unfold txDequeue
    simp only [if_pos hcharge]
    constructor
    · intro other ac
      simp only [chargeAirtime, setAcPending, setStaPending, Option.some.injEq]
      by_cases hother : other = sta
      · rw [hother, Function.update_self]
        by_cases hsame : ac = txqAc
        · rw [hsame, Function.update_self, if_pos ⟨rfl, rfl⟩]
          rfl
        · rw [Function.update_of_ne hsame, if_neg fun hboth => hsame hboth.2.symm,
            add_zero]
      · rw [Function.update_of_ne hother, if_neg fun hboth => hother hboth.1.symm,
          add_zero]
    · intro ac
      simp only [chargeAirtime, setAcPending, setStaPending]
      by_cases hsame : ac = txqAc
      · rw [hsame, Function.update_self, if_pos rfl]
        rfl
      · rw [Function.update_of_ne hsame, if_neg (Ne.symm hsame), add_zero]
    · rfl
    · rfl
    · rfl
    · rfl
    · rfl
    · rfl
    · rfl
    · exact fun _ => rfl
  · refine ⟨⟨loc.nextId, { skb with txTimeEst := 0 }, txqSta, txqAc⟩, rfl, rfl,
      fun hest => absurd rfl hest, ?_⟩
    unfold txDequeue
    simp only [if_neg hcharge]
    constructor <;> simp [AqlFrame.est, AqlSkb.getTxTimeEst]

theorem Charged.owed (hcharged : loc.Charged frame after) (kind : AqlFrame → Bool) :
    after.owed kind =
      loc.owed kind + if kind frame then (frame.est : ℤ) else 0 := by
  simp only [AqlLocal.owed, hcharged.frames, List.map_append, List.map_singleton,
    List.sum_append, List.sum_singleton]

theorem Charged.holds (hcharged : loc.Charged frame after) (id : ℕ) :
    after.holds id =
      loc.holds id + if frame.id = id ∧ frame.est ≠ 0 then 1 else 0 := by
  simp only [AqlLocal.holds, hcharged.frames, List.map_append, List.map_singleton,
    List.sum_append, List.sum_singleton]

end Credit

end AqlLocal

open AqlLocal

section Good

variable {loc after : AqlLocal} {frame : AqlFrame}

theorem AqlGood.credited (hgood : AqlGood loc) (hframe : frame ∈ loc.frames)
    {sta : Option ℕ} (hdone : loc.Completes frame sta after)
    (hsta : frame.est ≠ 0 → sta = frame.sta) : loc.Credited frame after := by
  by_cases hest : frame.est = 0
  · exact credited_of_zero hest hdone
  · rcases Option.isSome_iff_exists.mp (hgood.station_isSome frame hframe hest) with
      ⟨charged, hcharged⟩
    rw [hsta hest, hcharged] at hdone
    apply credited_of_covered hest hcharged (hgood.mapping frame hframe hest) _ _ hdone
    · rw [hgood.station]
      exact hdone.settles.est_le (by simp [hcharged])
    · rw [hgood.device]
      exact hdone.settles.est_le (by simp)

theorem AqlGood.completes (hgood : AqlGood loc) (hframe : frame ∈ loc.frames)
    {sta : Option ℕ} (hdone : loc.Completes frame sta after)
    (hsta : frame.est ≠ 0 → sta = frame.sta) : AqlGood after := by
  have hcredited := hgood.credited hframe hdone hsta
  have hsettles := hdone.settles
  constructor
  · constructor
    · intro other ac
      rw [hcredited.station, hgood.station, hsettles.owed]
      simp only [decide_eq_true_eq]
    · intro ac
      rw [hcredited.device, hgood.device, hsettles.owed]
      simp only [decide_eq_true_eq]
    · rw [hcredited.total, hgood.total, hsettles.owed, if_pos rfl]
    · intro id
      rw [hcredited.charged, hgood.once, hcredited.credited, hsettles.holds]
      ring
    · rw [hcredited.charged]
      exact hgood.nodup
    · rw [hcredited.clamped]
      exact hgood.unclamped
  · intro other hother hest
    rcases hsettles.mem other hother with hmem | ⟨hzero, _⟩
    · exact hgood.mapping other hmem hest
    · exact absurd hzero hest
  · intro other hother hest
    rcases hsettles.mem other hother with hmem | ⟨hzero, _⟩
    · exact hgood.station_isSome other hmem hest
    · exact absurd hzero hest
  · rw [hcredited.charged, hcredited.nextId]
    exact hgood.charged_lt
  · intro other hother
    rw [hcredited.nextId]
    rcases hsettles.mem other hother with hmem | ⟨_, hid⟩
    · exact hgood.frames_lt other hmem
    · rw [hid]
      exact hgood.frames_lt frame hframe

theorem AqlGood.charged (hgood : AqlGood loc) (hcharged : loc.Charged frame after)
    (hmapping : frame.est ≠ 0 → frame.skb.queueMapping = frame.ac) : AqlGood after := by
  have hfresh : frame.id ∉ loc.charged := by
    intro hmem
    have hlt := hgood.charged_lt frame.id hmem
    rw [hcharged.id] at hlt
    exact absurd hlt (lt_irrefl _)
  have hframes : ∀ other ∈ after.frames, other ∈ loc.frames ∨ other = frame := by
    intro other hother
    rw [hcharged.frames, List.mem_append, List.mem_singleton] at hother
    exact hother
  constructor
  · constructor
    · intro sta ac
      rw [hcharged.station, hgood.station, hcharged.owed]
      simp only [decide_eq_true_eq]
    · intro ac
      rw [hcharged.device, hgood.device, hcharged.owed]
      simp only [decide_eq_true_eq]
    · rw [hcharged.total, hgood.total, hcharged.owed, if_pos rfl]
    · intro id
      have honce := hgood.once id
      rw [hcharged.charged, hcharged.credited, hcharged.holds]
      by_cases hest : frame.est = 0
      · rw [if_pos hest, if_neg fun hboth => hboth.2 hest]
        omega
      · rw [if_neg hest, List.count_append, List.count_singleton]
        by_cases hid : frame.id = id
        · simp only [hid, hest, beq_self_eq_true, if_true, ne_eq, not_false_eq_true,
            and_self, Nat.cast_add, Nat.cast_one]
          omega
        · simp only [hid, beq_iff_eq, if_false, false_and, add_zero]
          exact honce
    · rw [hcharged.charged]
      split_ifs
      · exact hgood.nodup
      · exact List.nodup_append.mpr ⟨hgood.nodup, List.nodup_singleton _,
          fun id hid other hother heq => hfresh
            (List.mem_singleton.mp hother ▸ heq ▸ hid)⟩
    · rw [hcharged.clamped]
      exact hgood.unclamped
  · intro other hother
    rcases hframes other hother with hmem | heq
    · exact hgood.mapping other hmem
    · rw [heq]
      exact hmapping
  · intro other hother
    rcases hframes other hother with hmem | heq
    · exact hgood.station_isSome other hmem
    · rw [heq]
      exact hcharged.sta_isSome
  · intro id hid
    rw [hcharged.charged] at hid
    rw [hcharged.nextId]
    split_ifs at hid
    · have hlt := hgood.charged_lt id hid
      omega
    · rw [List.mem_append, List.mem_singleton] at hid
      rcases hid with hmem | heq
      · have hlt := hgood.charged_lt id hmem
        omega
      · rw [heq, hcharged.id]
        exact Nat.lt_succ_self _
  · intro other hother
    rw [hcharged.nextId]
    rcases hframes other hother with hmem | heq
    · have hlt := hgood.frames_lt other hmem
      omega
    · rw [heq, hcharged.id]
      exact Nat.lt_succ_self _

theorem AqlGood.step (hgood : AqlGood loc) {hw : AqlHw} {event : AqlEvent}
    {output : List Unit} (hcredits : loc.Credits hw event)
    (hstep : loc.step hw event = some (after, output)) : AqlGood after := by
  cases event with
  | txDequeue skb txqSta txqAc airtime =>
      cases hstep
      rcases txDequeue_charged loc skb txqSta txqAc airtime with
        ⟨frame, hmapping, hac, hestimated, hcharged⟩
      apply hgood.charged hcharged
      intro hest
      have hcharges := hestimated hest
      have hsame := hcredits.2 hcharges.1 (hcharges.2 ▸ hest)
      exact hmapping.trans (hsame.trans hac.symm)
  | txStatusSkb index status =>
      rcases Option.map_eq_some_iff.mp hstep with ⟨frame, hframe, heq⟩
      cases heq
      exact hgood.completes (List.mem_of_getElem? hframe)
        (txStatusExt_completes hw _ hframe) (hcredits frame hframe)
  | txStatusExt index status =>
      rcases Option.map_eq_some_iff.mp hstep with ⟨frame, hframe, heq⟩
      cases heq
      exact hgood.completes (List.mem_of_getElem? hframe)
        (txStatusExt_completes hw status hframe) (hcredits frame hframe)
  | freeTxskb index =>
      rcases Option.map_eq_some_iff.mp hstep with ⟨frame, hframe, heq⟩
      cases heq
      exact hgood.completes (List.mem_of_getElem? hframe)
        (freeTxskb_completes hw hframe) (hcredits frame hframe)
  | setPs sta ps =>
      cases hstep
      exact ⟨⟨hgood.station, hgood.device, hgood.total, hgood.once, hgood.nodup,
        hgood.unclamped⟩, hgood.mapping, hgood.station_isSome, hgood.charged_lt,
        hgood.frames_lt⟩

end Good

theorem aqlGood_initial : AqlGood AqlLocal.initial := by
  constructor
  · constructor
    · exact fun _ _ => rfl
    · exact fun _ => rfl
    · rfl
    · exact fun _ => rfl
    · exact List.nodup_nil
    · rfl
  all_goals
    intro _ hmem
    cases hmem

/-- What the counters are to be: the estimates of the frames that are not
reported, each of them credited once when it is. -/
structure AqlExact (loc : AqlLocal) : Prop where
  station : ∀ sta ac, loc.aqlTxPending sta ac =
    loc.owed fun frame => decide (frame.sta = some sta ∧ frame.ac = ac)
  device : ∀ ac, loc.aqlAcPendingAirtime ac =
    loc.owed fun frame => decide (frame.ac = ac)
  total : loc.aqlTotalPendingAirtime = loc.owed fun _ => true
  once : ∀ id ∈ loc.charged, loc.credited.count id =
    if ∃ frame ∈ loc.frames, frame.id = id ∧ frame.est ≠ 0 then 0 else 1
  known : ∀ id ∈ loc.credited, id ∈ loc.charged
  unclamped : loc.clamped = false
  done : ∀ sta, (∀ frame ∈ loc.frames, frame.sta ≠ some sta) →
    ∀ ac, loc.aqlTxPending sta ac = 0

section Exact

variable {loc : AqlLocal}

theorem AqlLocal.holds_nonneg (loc : AqlLocal) (id : ℕ) : 0 ≤ loc.holds id := by
  apply List.sum_nonneg
  intro term hterm
  rcases List.mem_map.mp hterm with ⟨frame, _, heq⟩
  rw [← heq]
  split_ifs <;> decide

theorem AqlLocal.holds_pos {frame : AqlFrame} (hframe : frame ∈ loc.frames)
    (hest : frame.est ≠ 0) : 0 < loc.holds frame.id := by
  rcases List.getElem?_of_mem hframe with ⟨index, hindex⟩
  have hrest := sum_map_eraseIdx
    (fun other : AqlFrame => if other.id = frame.id ∧ other.est ≠ 0 then (1 : ℤ)
      else 0) hindex
  rw [if_pos ⟨rfl, hest⟩] at hrest
  have hnonneg := (loc.withFrames (loc.frames.eraseIdx index)).holds_nonneg frame.id
  unfold AqlLocal.holds at hnonneg ⊢
  rw [AqlLocal.withFrames, hrest] at hnonneg
  omega

theorem AqlBalanced.exact (hbalanced : AqlBalanced loc) : AqlExact loc := by
  constructor
  · exact hbalanced.station
  · exact hbalanced.device
  · exact hbalanced.total
  · intro id hid
    have honce := hbalanced.once id
    rw [List.count_eq_one_of_mem hbalanced.nodup hid] at honce
    split_ifs with hheld
    · rcases hheld with ⟨frame, hframe, rfl, hest⟩
      have hpositive := AqlLocal.holds_pos hframe hest
      omega
    · have hnone : loc.holds id = 0 := by
        apply List.sum_eq_zero
        intro term hterm
        rcases List.mem_map.mp hterm with ⟨frame, hframe, heq⟩
        rw [← heq]
        exact if_neg fun hboth => hheld ⟨frame, hframe, hboth⟩
      omega
  · intro id hid
    by_contra hunknown
    have honce := hbalanced.once id
    rw [List.count_eq_zero_of_not_mem hunknown] at honce
    have hcredited := List.count_pos_iff.mpr hid
    have hnonneg := loc.holds_nonneg id
    omega
  · exact hbalanced.unclamped
  · intro sta hdone ac
    rw [hbalanced.station]
    apply List.sum_eq_zero
    intro term hterm
    rcases List.mem_map.mp hterm with ⟨frame, hframe, heq⟩
    rw [← heq]
    exact if_neg (by simp [hdone frame hframe])

end Exact

/-- In every run whose credits go where the charges went the counters are
exact. -/
theorem aql_exact (hw : AqlHw) {loc : AqlLocal}
    (hreach : ConditionedRun.Reachable (AqlLocal.step hw) (AqlLocal.Credits hw)
      AqlLocal.initial loc) : AqlExact loc := by
  have hgood : AqlGood loc := hreach.invariant aqlGood_initial
    fun _ _ _ _ hgood hcredits hstep => hgood.step hcredits hstep
  exact hgood.toAqlBalanced.exact

/-! ## Samples -/

def sampleAqlHw : AqlHw where
  stas := [⟨[2, 0, 0, 0, 0, 1], [2, 0, 0, 0, 0, 2]⟩]
  reportsTxAckStatus := true

def sampleAqlSkb (data : List UInt8) (hw80211Encap : Bool) : AqlSkb where
  data := data
  queueMapping := 2
  txTimeEst := 0
  noPsBuffer := false
  ampdu := false
  hw80211Encap := hw80211Encap
  retried := false

def sampleAql80211 : AqlSkb :=
  sampleAqlSkb [8, 2, 0, 0, 2, 0, 0, 0, 0, 1, 2, 0, 0, 0, 0, 2] false

def sampleAqlEthernet : AqlSkb :=
  sampleAqlSkb [2, 0, 0, 0, 0, 1, 2, 0, 0, 0, 0, 2, 8, 0, 69, 0] true

def sampleAqlStatus : AqlStatus where
  sta := none
  hasInfo := true
  acked := true
  txFiltered := false
  staFull := false

def sampleAqlSent (skb : AqlSkb) : AqlLocal :=
  AqlLocal.initial.txDequeue skb (some 0) 2 100

def sampleAqlFrame (skb : AqlSkb) : AqlFrame :=
  ⟨0, skb.setTxTimeEst 100, some 0, 2⟩

theorem aql_exact_sample :
    AqlExact ((sampleAqlSent sampleAql80211).txStatusSkb sampleAqlHw 0
      (sampleAqlFrame sampleAql80211) sampleAqlStatus) := by
  have hsent : ConditionedRun.Reachable (AqlLocal.step sampleAqlHw)
      (AqlLocal.Credits sampleAqlHw) AqlLocal.initial
      (sampleAqlSent sampleAql80211) :=
    ConditionedRun.Reachable.start.after
      (.txDequeue sampleAql80211 (some 0) 2 100) []
      ⟨by decide, fun _ _ => rfl⟩ rfl
  apply aql_exact sampleAqlHw
  apply hsent.after (.txStatusSkb 0 sampleAqlStatus) [] _ rfl
  intro frame hframe _
  cases hframe
  decide

/-- A dropped Ethernet frame and a report without a station leave the station
charged. -/
theorem aql_refuted :
    (∃ loc, ConditionedRun.run (AqlLocal.step sampleAqlHw) AqlLocal.initial
        [.txDequeue sampleAqlEthernet (some 0) 2 100, .freeTxskb 0] =
          some (loc, []) ∧ loc.frames = [] ∧ loc.aqlTxPending 0 2 = 100 ∧
      ¬AqlExact loc) ∧
    ∃ loc, ConditionedRun.run (AqlLocal.step sampleAqlHw) AqlLocal.initial
        [.txDequeue sampleAql80211 (some 0) 2 100,
          .txStatusExt 0 sampleAqlStatus] =
          some (loc, []) ∧ loc.frames = [] ∧ loc.aqlTxPending 0 2 = 100 ∧
      ¬AqlExact loc := by
  constructor
  · refine ⟨(sampleAqlSent sampleAqlEthernet).freeTxskb sampleAqlHw 0
      (sampleAqlFrame sampleAqlEthernet), rfl, rfl, by decide, ?_⟩
    intro hexact
    exact absurd (hexact.done 0 (fun _ hmem => by cases hmem) 2) (by decide)
  · refine ⟨(sampleAqlSent sampleAql80211).txStatusExt sampleAqlHw 0
      (sampleAqlFrame sampleAql80211) sampleAqlStatus, rfl, rfl, by decide, ?_⟩
    intro hexact
    exact absurd (hexact.done 0 (fun _ hmem => by cases hmem) 2) (by decide)

end IwlwifiStack
