import IwlwifiStack.RxReorderModel

/-!
# Starting a receive block-ack session

`__ieee80211_start_rx_ba_session` decides whether a block-ack agreement is
accepted and sets up its reorder buffer.  Both callers pass a starting
sequence number below 4096: the request handler shifts a 16-bit field right by
four, the offloaded session passes zero.  `max_rx_aggregation_subframes` is
the driver's limit; every driver here sets it to at least one.
-/

namespace IwlwifiStack

inductive WlanStatus
  | success
  | requestDeclined
  | invalidQosParam
  deriving DecidableEq, Repr

/-- What the function reads of a station; the last three components describe
the agreements that exist per TID. -/
structure BaStation where
  validLinks : Bool
  htSupported : Bool
  hasHe : Bool
  hasEht : Bool
  s1g : Bool
  htCapDelayBa : Bool
  s1gCapDelayedBa : Bool
  blockBa : Bool
  maxRxAggregationSubframes : ℕ
  aggSessionValid : ℕ → Bool
  tidRxToken : ℕ → ℕ
  tidRxTimeout : ℕ → Option ℕ

structure AddbaRequest where
  dialogToken : ℕ
  timeout : ℕ
  startSeqNum : ℕ
  baPolicy : ℕ
  tid : ℕ
  bufSize : ℕ
  autoSeq : Bool

/-- The driver's and the allocator's answers. -/
structure BaSupport where
  supportsReorderingBuffer : Bool
  driverAccepts : Bool
  allocates : Bool

/-- Status and buffer size go into the response; `session` is what gets
assigned to `tid_rx[tid]`. -/
structure AddbaOutcome (α : Type*) where
  status : WlanStatus
  bufSize : ℕ
  session : Option (TidAmpduRx α)

section Model

variable {α : Type*}

def maxAmpduBuf (sta : BaStation) : ℕ :=
  if sta.validLinks || sta.hasEht then 1024
  else if sta.hasHe then 256
  else 64

def badBaParams (sta : BaStation) (request : AddbaRequest) : Bool :=
  (request.baPolicy ≠ 1 &&
      (sta.validLinks || !sta.htCapDelayBa || !sta.s1gCapDelayedBa)) ||
    request.bufSize > maxAmpduBuf sta

def baBufSize (sta : BaStation) (request : AddbaRequest) : ℕ :=
  let bufSize :=
    if request.bufSize = 0 then maxAmpduBuf sta else request.bufSize
  if bufSize > sta.maxRxAggregationSubframes then
    sta.maxRxAggregationSubframes
  else
    bufSize

/-- The freshly allocated `tid_agg_rx`. -/
def newTidAmpduRx (request : AddbaRequest) (bufSize : ℕ) : TidAmpduRx α where
  reorderBufFiltered := 0
  reorderBuf := fun _ => []
  reorderTime := fun _ => 0
  reorderTimer := none
  headSeqNum := request.startSeqNum
  storedMpduNum := 0
  ssn := request.startSeqNum
  bufSize := bufSize
  timeout := request.timeout
  tid := request.tid
  autoSeq := request.autoSeq
  removed := false
  started := false

def ieee80211StartRxBaSession (sta : BaStation) (support : BaSupport)
    (request : AddbaRequest) : AddbaOutcome α :=
  if request.tid ≥ 8 then
    ⟨.requestDeclined, request.bufSize, none⟩
  else if !sta.validLinks && !sta.htSupported && !sta.hasHe && !sta.s1g then
    ⟨.requestDeclined, request.bufSize, none⟩
  else if sta.blockBa then
    ⟨.requestDeclined, request.bufSize, none⟩
  else if badBaParams sta request then
    ⟨.invalidQosParam, request.bufSize, none⟩
  else
    let bufSize := baBufSize sta request
    if sta.aggSessionValid request.tid &&
        sta.tidRxToken request.tid = request.dialogToken then
      -- only the timeout may be repeated, nothing is renegotiated
      if sta.tidRxTimeout request.tid = some request.timeout then
        ⟨.success, bufSize, none⟩
      else
        ⟨.requestDeclined, bufSize, none⟩
    else if support.supportsReorderingBuffer then
      if support.driverAccepts then
        ⟨.success, bufSize, none⟩
      else
        ⟨.requestDeclined, bufSize, none⟩
    else if !support.allocates then
      ⟨.requestDeclined, bufSize, none⟩
    else if !support.driverAccepts then
      ⟨.requestDeclined, bufSize, none⟩
    else
      ⟨.success, bufSize, some (newTidAmpduRx request bufSize)⟩

def AdmittedSession (rx : TidAmpduRx α) : Prop :=
  ∃ sta support request,
    request.startSeqNum < 4096 ∧ 0 < sta.maxRxAggregationSubframes ∧
      (ieee80211StartRxBaSession sta support request).session = some rx

theorem maxAmpduBuf_le (sta : BaStation) : maxAmpduBuf sta ≤ 1024 := by
  unfold maxAmpduBuf
  split_ifs <;> norm_num

theorem maxAmpduBuf_pos (sta : BaStation) : 0 < maxAmpduBuf sta := by
  unfold maxAmpduBuf
  split_ifs <;> norm_num

theorem startRxBaSession_session {sta : BaStation} {support : BaSupport}
    {request : AddbaRequest} {rx : TidAmpduRx α}
    (hsession :
      (ieee80211StartRxBaSession sta support request).session = some rx) :
    badBaParams sta request = false ∧
      rx = newTidAmpduRx request (baBufSize sta request) := by
  unfold ieee80211StartRxBaSession at hsession
  simp only [apply_ite AddbaOutcome.session] at hsession
  split_ifs at hsession with htid hcaps hblock hbad
  exact ⟨Bool.eq_false_of_not_eq_true hbad, (Option.some.inj hsession).symm⟩

/-- What is known of a session when it starts. -/
structure FreshSession (rx : TidAmpduRx α) : Prop where
  bufSize_pos : 0 < rx.bufSize
  bufSize_le : rx.bufSize ≤ 1024
  head_lt : rx.headSeqNum < 4096
  filtered : rx.reorderBufFiltered = 0
  empty : rx.reorderBuf = fun _ => []
  stored : rx.storedMpduNum = 0
  not_started : rx.started = false

theorem AdmittedSession.fresh {rx : TidAmpduRx α}
    (hgranted : AdmittedSession rx) : FreshSession rx := by
  obtain ⟨sta, support, request, hssn, hlimit, hsession⟩ := hgranted
  obtain ⟨hgood, rfl⟩ := startRxBaSession_session hsession
  have hsize : request.bufSize ≤ maxAmpduBuf sta := by
    simp only [badBaParams, Bool.or_eq_false_iff, decide_eq_false_iff_not,
      not_lt] at hgood
    exact hgood.2
  have hle := maxAmpduBuf_le sta
  have hpos := maxAmpduBuf_pos sta
  refine ⟨?_, ?_, hssn, rfl, rfl, rfl, rfl⟩
  · simp only [newTidAmpduRx, baBufSize]
    split_ifs <;> omega
  · simp only [newTidAmpduRx, baBufSize]
    split_ifs <;> omega

/-- An HE station under the driver limit of 256 frames. -/
def heStation : BaStation where
  validLinks := false
  htSupported := true
  hasHe := true
  hasEht := false
  s1g := false
  htCapDelayBa := false
  s1gCapDelayedBa := false
  blockBa := false
  maxRxAggregationSubframes := 256
  aggSessionValid := fun _ => false
  tidRxToken := fun _ => 0
  tidRxTimeout := fun _ => none

/-- An immediate block-ack request of `heStation` on TID 0. -/
def heRequest (startSeqNum bufSize : ℕ) : AddbaRequest where
  dialogToken := 1
  timeout := 0
  startSeqNum := startSeqNum
  baPolicy := 1
  tid := 0
  bufSize := bufSize
  autoSeq := false

theorem admitted_heRequest {startSeqNum bufSize : ℕ}
    (hssn : startSeqNum < 4096) (hpos : 0 < bufSize) (hle : bufSize ≤ 256) :
    AdmittedSession (newTidAmpduRx (heRequest startSeqNum bufSize) bufSize :
      TidAmpduRx α) := by
  refine ⟨heStation, ⟨false, true, true⟩, heRequest startSeqNum bufSize, hssn,
    by decide, ?_⟩
  have hgood : badBaParams heStation (heRequest startSeqNum bufSize) =
      false := by
    simp only [badBaParams, heRequest, maxAmpduBuf, heStation]
    simp
    omega
  have hsize : baBufSize heStation (heRequest startSeqNum bufSize) =
      bufSize := by
    simp only [baBufSize, heRequest, maxAmpduBuf, heStation]
    split_ifs <;> omega
  unfold ieee80211StartRxBaSession
  rw [hgood, hsize]
  simp [heRequest, heStation]

end Model

end IwlwifiStack
