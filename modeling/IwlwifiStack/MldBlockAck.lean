import IwlwifiStack.DriverReorderModel
import IwlwifiStack.ConditionedRun

/-!
# Block-ack sessions of iwlmld

A BAID from `iwl_mld_ampdu_rx_start` to `iwl_mld_del_ba`: the lookups of
`iwl_mld_reorder`, the release notifications and the teardown.  The firmware
station of the session is there as long as the session is.

Frames are neither lost nor handed up twice.  Two things can go wrong: the
16-bit counter of stored frames wraps when 65536 subframes are stored, and the
teardown misses entries unless the buffer size divides the sequence space and
is less than half of it.
-/

namespace IwlwifiStack

open ConditionedRun

/-- `struct iwl_mld_baid_data`, with the buffers of all queues. -/
structure BaidData (α : Type*) where
  baid : ℕ
  tid : ℕ
  staMask : ℕ
  bufSize : ℕ
  queues : ℕ → DriverQueue α

/-- What `iwl_mld_reorder` reads of the 802.11 header. -/
structure MpduHeader where
  isDataQos : Bool
  isMulticast : Bool
  isDataPresent : Bool
  tid : ℕ

section Model

variable {α : Type*}

def iwlMldInitReorderBuffer (ssn : ℕ) : ℕ → DriverQueue α := fun _ =>
  { headSn := ssn, numStored := 0, valid := false, entries := fun _ => [] }

/-- `fwBaid` is the firmware's answer; `IWL_MAX_BAID` is 32. -/
def iwlMldAmpduRxStart (numRxBaSessions staMask tid ssn bufSize : ℕ)
    (allocates : Bool) (fwBaid : Option ℕ) : Option (BaidData α) :=
  if numRxBaSessions ≥ 32 then
    none
  else if staMask = 0 then
    none
  else if !allocates then
    none
  else
    match fwBaid with
    | none => none
    | some baid =>
        if baid ≥ 32 then
          none
        else
          some
            { baid := baid
              tid := tid
              staMask := staMask
              bufSize := bufSize
              queues := iwlMldInitReorderBuffer ssn }

def BaidData.setQueue (ba : BaidData α) (queue : ℕ)
    (buffer : DriverQueue α) : BaidData α :=
  { ba with queues := Function.update ba.queues queue buffer }

/-- `baidData` is the session found under the BAID of the descriptor, `sta`
the mask of the station's firmware ids. -/
def iwlMldReorder (baidData : Option (BaidData α)) (queue : ℕ)
    (sta : Option ℕ) (hdr : MpduHeader) (desc : RxMpduDesc) (skb : α) :
    ReorderResult × Option (BaidData α) × List α :=
  -- IWL_RX_REORDER_DATA_INVALID_BAID
  if desc.baid = 0x7f then
    (.passSkb, baidData, [])
  else
    match sta with
    | none => (.passSkb, baidData, [])
    | some staMask =>
        if !hdr.isDataQos || hdr.isMulticast then
          (.passSkb, baidData, [])
        else if !hdr.isDataPresent then
          (.passSkb, baidData, [])
        else
          match baidData with
          | none => (.passSkb, none, [])
          | some ba =>
              if hdr.tid ≠ ba.tid || staMask &&& ba.staMask = 0 then
                (.passSkb, some ba, [])
              else
                let result :=
                  reorderInSession ba.bufSize (ba.queues queue) desc skb
                (result.1, some (ba.setQueue queue result.2.1), result.2.2)

def iwlMldReleaseFramesFromNotif (ba : BaidData α) (queue nssn : ℕ) :
    BaidData α × List α :=
  let result := reorderReleaseFrames ba.bufSize (ba.queues queue) nssn
  (ba.setQueue queue result.1, result.2)

def iwlMldHandleBarFrameReleaseNotif (numStations : ℕ) (ba : BaidData α)
    (queue tid staId nssn : ℕ) : BaidData α × List α :=
  if tid ≠ ba.tid || staId > numStations || !ba.staMask.testBit staId then
    (ba, [])
  else
    iwlMldReleaseFramesFromNotif ba queue nssn

def iwlMldDelBa (ba : BaidData α) (queue : ℕ) : BaidData α × List α :=
  let result := releaseAll ba.bufSize (ba.queues queue)
  (ba.setQueue queue result.1, result.2)

/-- The queue synchronisation of `iwl_mld_free_reorder_buffer` runs
`iwl_mld_del_ba` on every receive queue. -/
def delBaOnQueues (numRxqs : ℕ) (ba : BaidData α) : BaidData α :=
  (List.range numRxqs).foldl (fun ba queue => (iwlMldDelBa ba queue).1) ba

/-- The `WARN_ON` of `iwl_mld_free_reorder_buffer`. -/
def freeReorderBufferWarns (numRxqs : ℕ) (ba : BaidData α) : Bool :=
  (List.range numRxqs).any fun queue =>
    decide (((delBaOnQueues numRxqs ba).queues queue).numStored ≠ 0)

end Model

/-- What happens to a BAID. -/
inductive BaidEvent (α : Type*)
  | mpdu (queue : ℕ) (sta : Option ℕ) (hdr : MpduHeader) (desc : RxMpduDesc)
      (skb : α)
  | frameRelease (queue nssn : ℕ)
  | barFrameRelease (numStations queue tid staId nssn : ℕ)

/-- A session, the frames its buffers took, and the frames handed up out of
them, for every queue. -/
structure BaidRun (α : Type*) where
  ba : BaidData α
  buffered : ℕ → List α
  handed : ℕ → List α

section Run

variable {α : Type*}

namespace BaidRun

def initial (ba : BaidData α) : BaidRun α where
  ba := ba
  buffered := fun _ => []
  handed := fun _ => []

def handUp (r : BaidRun α) (queue : ℕ) (result : BaidData α × List α) :
    BaidRun α :=
  { r with
    ba := result.1
    handed := Function.update r.handed queue (r.handed queue ++ result.2) }

/-- An MPDU whose descriptor names another BAID does not find this one. -/
def receive (r : BaidRun α) (queue : ℕ) (sta : Option ℕ) (hdr : MpduHeader)
    (desc : RxMpduDesc) (skb : α) : BaidRun α :=
  if desc.baid = r.ba.baid then
    let result := iwlMldReorder (some r.ba) queue sta hdr desc skb
    { ba := result.2.1.getD r.ba
      buffered :=
        if result.1 = .bufferedSkb then
          Function.update r.buffered queue (r.buffered queue ++ [skb])
        else r.buffered
      handed :=
        Function.update r.handed queue (r.handed queue ++ result.2.2) }
  else
    r

def step (r : BaidRun α) : BaidEvent α → Option (BaidRun α × List α)
  | .mpdu queue sta hdr desc skb =>
      some (r.receive queue sta hdr desc skb, [])
  | .frameRelease queue nssn =>
      some (r.handUp queue (iwlMldReleaseFramesFromNotif r.ba queue nssn), [])
  | .barFrameRelease numStations queue tid staId nssn =>
      some (r.handUp queue (iwlMldHandleBarFrameReleaseNotif numStations r.ba
        queue tid staId nssn), [])

def stored (r : BaidRun α) (queue : ℕ) : Multiset α :=
  storedIn r.ba.bufSize (r.ba.queues queue).entries

def CounterHolds (r : BaidRun α) : BaidEvent α → Prop
  | .mpdu queue _ _ desc _ =>
      JoinsBuffer (r.ba.queues queue) desc →
        Multiset.card (r.stored queue) < 65535
  | _ => True

/-- The state of a session whose buffers lose nothing: the counters are right,
every frame taken is stored or was handed up, and the teardown leaves nothing
behind. -/
structure Conserves (r : BaidRun α) : Prop where
  counted : ∀ queue,
    (r.ba.queues queue).numStored = Multiset.card (r.stored queue)
  once : ∀ queue,
    (r.buffered queue : Multiset α) = r.handed queue + r.stored queue
  delBa_empties : ∀ queue, ∀ slot < r.ba.bufSize,
    ((iwlMldDelBa r.ba queue).1.queues queue).entries slot = []
  delBa_hands_up : ∀ queue,
    (r.buffered queue : Multiset α) =
      r.handed queue + ↑(iwlMldDelBa r.ba queue).2
  free_quiet : ∀ numRxqs, freeReorderBufferWarns numRxqs r.ba = false

end BaidRun

end Run

/-! ## One queue -/

section Queue

variable {α : Type*}

/-- The counter of a queue is right and nothing it took is lost. -/
structure QueueExact (bufSize : ℕ) (buffer : DriverQueue α)
    (buffered handed : List α) : Prop where
  counted : buffer.numStored = Multiset.card (storedIn bufSize buffer.entries)
  card_lt : Multiset.card (storedIn bufSize buffer.entries) < 65536
  once : (buffered : Multiset α) = handed + storedIn bufSize buffer.entries

namespace QueueExact

variable {bufSize : ℕ} {buffer : DriverQueue α} {buffered handed : List α}

theorem release (hexact : QueueExact bufSize buffer buffered handed)
    (hpos : 0 < bufSize) (nssn : ℕ) :
    QueueExact bufSize (reorderReleaseFrames bufSize buffer nssn).1 buffered
      (handed ++ (reorderReleaseFrames bufSize buffer nssn).2) := by
  have hmoved := walkEntries_conserves hpos (moveDistance buffer.headSn nssn)
    buffer.headSn buffer.entries
  have hcard := congrArg Multiset.card hmoved
  rw [Multiset.card_add, Multiset.coe_card] at hcard
  have hcounted := hexact.counted
  have hlt := hexact.card_lt
  simp only [reorderReleaseFrames, releaseWalk_eq]
  refine ⟨by simp only; omega, by simp only; omega, ?_⟩
  rw [hexact.once, ← hmoved, ← Multiset.coe_add, add_assoc]
  exact congrArg _ (add_comm _ _)

theorem congr {after : DriverQueue α}
    (hexact : QueueExact bufSize buffer buffered handed)
    (hentries : after.entries = buffer.entries)
    (hstored : after.numStored = buffer.numStored) :
    QueueExact bufSize after buffered handed :=
  ⟨by rw [hstored, hentries]; exact hexact.counted,
    by rw [hentries]; exact hexact.card_lt,
    by rw [hentries]; exact hexact.once⟩

theorem store (hexact : QueueExact bufSize buffer buffered handed)
    (hpos : 0 < bufSize)
    (hroom : Multiset.card (storedIn bufSize buffer.entries) < 65535)
    (sn : ℕ) (skb : α) :
    QueueExact bufSize (storeSkb bufSize buffer sn skb) (buffered ++ [skb])
      handed := by
  have hstored := storedIn_store hpos sn buffer.entries skb
  have hcard := congrArg Multiset.card hstored
  rw [Multiset.card_add, Multiset.card_singleton] at hcard
  have hcounted := hexact.counted
  refine ⟨?_, ?_, ?_⟩
  · simp only [storeSkb]
    omega
  · simp only [storeSkb]
    omega
  · simp only [storeSkb]
    rw [hstored, ← Multiset.coe_add, hexact.once, Multiset.coe_singleton,
      add_assoc]

theorem join (hexact : QueueExact bufSize buffer buffered handed)
    (hpos : 0 < bufSize)
    (hroom : Multiset.card (storedIn bufSize buffer.entries) < 65535)
    (desc : RxMpduDesc) (skb : α) :
    QueueExact bufSize (bufferSkb bufSize buffer desc skb).1
      (buffered ++ [skb])
      (handed ++ (bufferSkb bufSize buffer desc skb).2) := by
  have hstored := hexact.store hpos hroom desc.sn skb
  simp only [bufferSkb]
  split_ifs
  · exact hstored.release hpos desc.nssn
  · rw [List.append_nil]
    exact hstored.congr rfl rfl
  · rw [List.append_nil]
    exact hstored

theorem reorder (hexact : QueueExact bufSize buffer buffered handed)
    (hpos : 0 < bufSize) {desc : RxMpduDesc} {skb : α}
    (hroom : JoinsBuffer buffer desc →
      Multiset.card (storedIn bufSize buffer.entries) < 65535) :
    QueueExact bufSize (reorderInSession bufSize buffer desc skb).2.1
      (if (reorderInSession bufSize buffer desc skb).1 = .bufferedSkb then
        buffered ++ [skb] else buffered)
      (handed ++ (reorderInSession bufSize buffer desc skb).2.2) := by
  have hcases := reorderInSession_cases bufSize buffer desc skb
  have hpass : ReorderResult.passSkb ≠ .bufferedSkb := by decide
  generalize reorderInSession bufSize buffer desc skb = result at hcases ⊢
  cases hcases with
  | early _ _ => simpa using hexact
  | dropped _ =>
      simpa using
        @QueueExact.congr _ _ _ _ _ buffer.validated hexact rfl rfl
  | ahead _ _ _ =>
      simp only [if_neg hpass, List.append_nil]
      split_ifs <;> exact hexact.congr rfl rfl
  | inOrder _ _ _ =>
      simp only [if_neg hpass, List.append_nil]
      split_ifs <;> exact hexact.congr rfl rfl
  | joined hjoins =>
      rw [if_pos rfl]
      exact (@QueueExact.congr _ _ _ _ _ buffer.validated hexact rfl rfl).join
        hpos (hroom hjoins) desc skb

theorem releaseAll_empties (hexact : QueueExact bufSize buffer buffered handed)
    (hpos : 0 < bufSize) (hdvd : bufSize ∣ 4096) (hsize : bufSize < 2048) :
    (∀ slot < bufSize, (releaseAll bufSize buffer).1.entries slot = []) ∧
      (releaseAll bufSize buffer).1.numStored = 0 ∧
      (buffered : Multiset α) =
        handed + ↑(releaseAll bufSize buffer).2 := by
  have hdistance : moveDistance buffer.headSn
      (ieee80211SnAdd buffer.headSn bufSize) = bufSize := by
    rw [@moveDistance_of_offset _ _ bufSize
      (by simp [ieee80211SnAdd]) hsize.le, if_neg (by omega)]
  have hempty : ∀ slot < bufSize,
      (releaseAll bufSize buffer).1.entries slot = [] := by
    intro slot hslot
    simp only [releaseAll, reorderReleaseFrames, releaseWalk_eq, hdistance]
    exact walkEntries_full hdvd le_rfl _ _ hslot
  have hafter := hexact.release hpos (ieee80211SnAdd buffer.headSn bufSize)
  have hzero := storedIn_eq_zero_iff.mpr hempty
  refine ⟨hempty, ?_, ?_⟩
  · have hcounted := hafter.counted
    rw [releaseAll] at hzero ⊢
    rw [hcounted, hzero, Multiset.card_zero]
  · have honce := hafter.once
    rw [releaseAll] at hzero ⊢
    rw [hzero, add_zero, ← Multiset.coe_add] at honce
    exact honce

end QueueExact

end Queue

/-! ## All queues -/

section Session

variable {α : Type*}

theorem iwlMldReorder_cases (ba : BaidData α) (queue : ℕ) (sta : Option ℕ)
    (hdr : MpduHeader) (desc : RxMpduDesc) (skb : α) :
    iwlMldReorder (some ba) queue sta hdr desc skb =
        (.passSkb, some ba, []) ∨
      iwlMldReorder (some ba) queue sta hdr desc skb =
        ((reorderInSession ba.bufSize (ba.queues queue) desc skb).1,
          some (ba.setQueue queue
            (reorderInSession ba.bufSize (ba.queues queue) desc skb).2.1),
          (reorderInSession ba.bufSize (ba.queues queue) desc skb).2.2) := by
  unfold iwlMldReorder
  cases sta with
  | none => split_ifs <;> exact Or.inl rfl
  | some staMask =>
      simp only
      split_ifs
      · exact Or.inl rfl
      · exact Or.inl rfl
      · exact Or.inl rfl
      · exact Or.inl rfl
      · exact Or.inr rfl

def SessionExact (bufSize : ℕ) (r : BaidRun α) : Prop :=
  r.ba.bufSize = bufSize ∧ ∀ queue,
    QueueExact bufSize (r.ba.queues queue) (r.buffered queue) (r.handed queue)

namespace SessionExact

variable {bufSize : ℕ} {r : BaidRun α}

theorem setQueue (hexact : SessionExact bufSize r) {after : BaidRun α}
    {queue : ℕ} {buffer : DriverQueue α} {buffered handed : List α}
    (hba : after.ba = r.ba.setQueue queue buffer)
    (hbuffered : after.buffered = Function.update r.buffered queue buffered)
    (hhanded : after.handed = Function.update r.handed queue handed)
    (hqueue : QueueExact bufSize buffer buffered handed) :
    SessionExact bufSize after := by
  refine ⟨by rw [hba]; exact hexact.1, fun queue' => ?_⟩
  rw [hba, hbuffered, hhanded]
  by_cases heq : queue' = queue
  · subst heq
    simpa [BaidData.setQueue] using hqueue
  · simpa [BaidData.setQueue, heq] using hexact.2 queue'

theorem afterRelease (hexact : SessionExact bufSize r) (hpos : 0 < bufSize)
    (queue nssn : ℕ) :
    SessionExact bufSize
      (r.handUp queue (iwlMldReleaseFramesFromNotif r.ba queue nssn)) := by
  have hsize := hexact.1
  subst hsize
  exact hexact.setQueue rfl (Function.update_eq_self queue r.buffered).symm rfl
    ((hexact.2 queue).release hpos nssn)

theorem handUp_nothing (hexact : SessionExact bufSize r) (queue : ℕ) :
    SessionExact bufSize (r.handUp queue (r.ba, [])) := by
  refine ⟨hexact.1, fun queue' => ?_⟩
  have hsame : (r.handUp queue (r.ba, [])).handed = r.handed := by
    simp [BaidRun.handUp]
  rw [hsame]
  exact hexact.2 queue'

theorem afterReceive (hexact : SessionExact bufSize r) (hpos : 0 < bufSize)
    {queue : ℕ} {sta : Option ℕ} {hdr : MpduHeader} {desc : RxMpduDesc}
    {skb : α} (hroom : r.CounterHolds (.mpdu queue sta hdr desc skb)) :
    SessionExact bufSize (r.receive queue sta hdr desc skb) := by
  have hsize := hexact.1
  subst hsize
  unfold BaidRun.receive
  split_ifs with hbaid
  · rcases iwlMldReorder_cases r.ba queue sta hdr desc skb with
      hpass | hsession
    · rw [hpass]
      exact hexact.handUp_nothing queue
    · rw [hsession]
      have hqueue := @QueueExact.reorder _ _ _ _ _ (hexact.2 queue) hpos
        desc skb hroom
      refine hexact.setQueue rfl ?_ rfl hqueue
      simp only
      split_ifs
      · rfl
      · exact (Function.update_eq_self queue r.buffered).symm
  · exact hexact

theorem afterStep (hexact : SessionExact bufSize r) (hpos : 0 < bufSize)
    {event : BaidEvent α} {after : BaidRun α} {output : List α}
    (hroom : r.CounterHolds event) (hstep : r.step event = some (after, output)) :
    SessionExact bufSize after := by
  cases event with
  | mpdu queue sta hdr desc skb =>
      cases hstep
      exact hexact.afterReceive hpos hroom
  | frameRelease queue nssn =>
      cases hstep
      exact hexact.afterRelease hpos queue nssn
  | barFrameRelease numStations queue tid staId nssn =>
      cases hstep
      unfold iwlMldHandleBarFrameReleaseNotif
      split_ifs
      · exact hexact.handUp_nothing queue
      · exact hexact.afterRelease hpos queue nssn

theorem initial {ba : BaidData α} {ssn : ℕ}
    (hqueues : ba.queues = iwlMldInitReorderBuffer ssn) :
    SessionExact ba.bufSize (BaidRun.initial ba) := by
  refine ⟨rfl, fun queue => ?_⟩
  have hzero : storedIn ba.bufSize (fun _ => ([] : List α)) = 0 :=
    storedIn_eq_zero_iff.mpr fun _ _ => rfl
  simp only [BaidRun.initial, hqueues, iwlMldInitReorderBuffer]
  exact ⟨by rw [hzero, Multiset.card_zero], by rw [hzero]; norm_num,
    by rw [hzero]; rfl⟩

end SessionExact

theorem delBaOnQueues_queues (numRxqs : ℕ) (ba : BaidData α) :
    (delBaOnQueues numRxqs ba).bufSize = ba.bufSize ∧
      ∀ queue, (delBaOnQueues numRxqs ba).queues queue =
        if queue < numRxqs then (releaseAll ba.bufSize (ba.queues queue)).1
        else ba.queues queue := by
  induction numRxqs with
  | zero => simp [delBaOnQueues]
  | succ n ih =>
      obtain ⟨hsize, hqueues⟩ := ih
      have hnext : delBaOnQueues (n + 1) ba =
          (iwlMldDelBa (delBaOnQueues n ba) n).1 := by
        simp [delBaOnQueues, List.range_succ]
      rw [hnext]
      refine ⟨hsize, fun queue => ?_⟩
      simp only [iwlMldDelBa, BaidData.setQueue, Function.update_apply, hsize]
      by_cases heq : queue = n
      · rw [if_pos heq, if_pos (by omega), hqueues, if_neg (by omega), heq]
      · rw [if_neg heq, hqueues]
        by_cases hlt : queue < n
        · rw [if_pos hlt, if_pos (by omega)]
        · rw [if_neg hlt, if_neg (by omega)]

theorem SessionExact.conserves {bufSize : ℕ} {r : BaidRun α}
    (hexact : SessionExact bufSize r) (hpos : 0 < bufSize)
    (hdvd : bufSize ∣ 4096) (hsize : bufSize < 2048) : r.Conserves := by
  have hsame := hexact.1
  subst hsame
  have hdelBa := fun queue => (hexact.2 queue).releaseAll_empties hpos hdvd hsize
  refine ⟨fun queue => (hexact.2 queue).counted,
    fun queue => (hexact.2 queue).once, ?_, ?_, ?_⟩
  · intro queue slot hslot
    simpa [iwlMldDelBa, BaidData.setQueue] using (hdelBa queue).1 slot hslot
  · intro queue
    exact (hdelBa queue).2.2
  · intro numRxqs
    unfold freeReorderBufferWarns
    rw [List.any_eq_false]
    intro queue hqueue
    rw [(delBaOnQueues_queues numRxqs r.ba).2 queue,
      if_pos (List.mem_range.mp hqueue), (hdelBa queue).2.1]
    simp

theorem ampduRxStart_session {numRxBaSessions staMask tid ssn bufSize : ℕ}
    {allocates : Bool} {fwBaid : Option ℕ} {ba : BaidData α}
    (hstart : iwlMldAmpduRxStart numRxBaSessions staMask tid ssn bufSize
      allocates fwBaid = some ba) :
    ba.baid < 32 ∧ ba.staMask ≠ 0 ∧ ba.bufSize = bufSize ∧
      ba.queues = iwlMldInitReorderBuffer ssn := by
  unfold iwlMldAmpduRxStart at hstart
  cases fwBaid with
  | none => split_ifs at hstart
  | some baid =>
      simp only at hstart
      split_ifs at hstart with _ hmask _ hbaid
      cases hstart
      exact ⟨not_le.mp hbaid, hmask, rfl, rfl⟩

/-! ## Other buffer sizes -/

def wholeMpduDesc (baid sn nssn : ℕ) : RxMpduDesc where
  reorderData := baid * 2 ^ 24 + sn * 4096 + nssn
  duplicate := false
  amsdu := false
  amsduInfo := 0

theorem wholeMpduDesc_fields {baid sn nssn : ℕ} (hbaid : baid < 32)
    (hsn : sn < 4096) (hnssn : nssn < 4096) :
    (wholeMpduDesc baid sn nssn).baid = baid ∧
      (wholeMpduDesc baid sn nssn).sn = sn ∧
      (wholeMpduDesc baid sn nssn).nssn = nssn ∧
      (wholeMpduDesc baid sn nssn).baOldSn = false := by
  simp only [RxMpduDesc.baid, RxMpduDesc.sn, RxMpduDesc.nssn,
    RxMpduDesc.baOldSn, wholeMpduDesc]
  exact ⟨by omega, by omega, by omega, decide_eq_false (by omega)⟩

/-- A header that passes the checks of `iwl_mld_reorder` for the TID. -/
def qosDataHeader (tid : ℕ) : MpduHeader where
  isDataQos := true
  isMulticast := false
  isDataPresent := true
  tid := tid

def missedSn (bufSize : ℕ) : ℕ :=
  if bufSize < 2048 then bufSize - 1
  else moveDistance 4095 (ieee80211SnAdd 4095 bufSize)

theorem missedSn_le (bufSize : ℕ) : missedSn bufSize ≤ 2047 := by
  unfold missedSn
  have hlt := moveDistance_lt 4095 (ieee80211SnAdd 4095 bufSize)
  split_ifs <;> omega

theorem walkSn_from_last {i : ℕ} (hi : i < 4096) :
    walkSn 4095 i = if i = 0 then 4095 else i - 1 := by
  have hmod := walkSn_mod 4095 i
  cases i with
  | zero => rfl
  | succ i =>
      have hlt : walkSn 4095 (i + 1) < 4096 := by
        rw [walkSn, Function.iterate_succ_apply']
        exact snInc_lt _
      rw [if_neg (Nat.succ_ne_zero i)]
      omega

theorem moveDistance_delBa (headSn bufSize : ℕ) :
    moveDistance headSn (ieee80211SnAdd headSn bufSize) =
      if bufSize % 4096 < 2048 then bufSize % 4096 else 0 := by
  unfold moveDistance ieee80211SnLess ieee80211SnSub ieee80211SnAdd
  simp only [gt_iff_lt, decide_eq_true_eq]
  split_ifs <;> omega

theorem missedSn_not_walked {bufSize : ℕ} (hpos : 0 < bufSize)
    (hbad : ¬ (bufSize ∣ 4096 ∧ bufSize < 2048)) {i : ℕ}
    (hi : i < moveDistance 4095 (ieee80211SnAdd 4095 bufSize)) :
    walkSn 4095 i % bufSize ≠ missedSn bufSize % bufSize := by
  have hdistance := moveDistance_lt 4095 (ieee80211SnAdd 4095 bufSize)
  have hmissed := missedSn_le bufSize
  rw [walkSn_from_last (by omega)]
  unfold missedSn at hmissed ⊢
  rw [moveDistance_delBa] at hi hdistance hmissed ⊢
  by_cases hsmall : bufSize < 2048
  · have hlast : 4095 % bufSize ≠ bufSize - 1 := by
      intro hmod
      refine hbad ⟨?_, hsmall⟩
      have hdiv := Nat.div_add_mod 4095 bufSize
      exact ⟨4095 / bufSize + 1, by rw [Nat.mul_add, mul_one]; omega⟩
    rw [Nat.mod_eq_of_lt (by omega), if_pos hsmall] at hi
    rw [if_pos hsmall, Nat.mod_eq_of_lt (by omega : bufSize - 1 < bufSize)]
    by_cases hzero : i = 0
    · rw [if_pos hzero]
      exact hlast
    · rw [if_neg hzero, Nat.mod_eq_of_lt (by omega)]
      omega
  · by_cases hlow : bufSize % 4096 < 2048
    · -- the buffer spans the whole sequence space
      rw [if_pos hlow] at hi
      rw [if_neg hsmall, if_pos hlow,
        Nat.mod_eq_of_lt (by omega : bufSize % 4096 < bufSize),
        Nat.mod_eq_of_lt (by split_ifs <;> omega)]
      split_ifs <;> omega
    · rw [if_neg hlow] at hi
      omega

theorem reorder_missedSn {bufSize baid : ℕ} {buffer : DriverQueue α}
    (hbaid : baid < 32) (hhead : buffer.headSn = 4095)
    (skb : α) :
    (reorderInSession bufSize buffer
        (wholeMpduDesc baid (missedSn bufSize) 4095) skb).2.1.headSn = 4095 ∧
      (reorderInSession bufSize buffer
        (wholeMpduDesc baid (missedSn bufSize) 4095) skb).2.1.entries
          (missedSn bufSize % bufSize) =
        buffer.entries (missedSn bufSize % bufSize) ++ [skb] := by
  have hmissed := missedSn_le bufSize
  obtain ⟨-, hsn, hnssn, hold⟩ := @wholeMpduDesc_fields _ (missedSn bufSize)
    4095 hbaid (by omega) (by norm_num)
  have hahead : ieee80211SnLess (missedSn bufSize) 4095 = false := by
    rw [snLess_eq_false_iff]
    unfold ieee80211SnSub
    omega
  have hnothead : missedSn bufSize ≠ 4095 := by omega
  have hdup : (wholeMpduDesc baid (missedSn bufSize) 4095).duplicate = false :=
    rfl
  have hcompletes :
      (wholeMpduDesc baid (missedSn bufSize) 4095).completes = true := rfl
  have hnear : moveDistance 4095 4095 = 0 := by decide
  simp [reorderInSession, hold, hdup, hsn, hnssn, hahead, hhead, hnothead,
    bufferSkb, hcompletes, reorderReleaseFrames, releaseWalk_eq, storeSkb,
    hnear, walkEntries]

theorem receive_inSession {r : BaidRun α} {desc : RxMpduDesc}
    (hbaid : r.ba.baid < 32) (hmask : r.ba.staMask ≠ 0)
    (hdesc : desc.baid = r.ba.baid) (queue : ℕ) (skb : α) :
    (r.receive queue (some r.ba.staMask) (qosDataHeader r.ba.tid) desc skb).ba =
      r.ba.setQueue queue
        (reorderInSession r.ba.bufSize (r.ba.queues queue) desc skb).2.1 := by
  have hvalid : desc.baid ≠ 127 := by omega
  simp [BaidRun.receive, iwlMldReorder, qosDataHeader, hdesc, hmask,
    show r.ba.baid ≠ 127 by omega]

def movedTo4095 (ba : BaidData α) : BaidRun α :=
  (BaidRun.initial ba).handUp 0 (iwlMldReleaseFramesFromNotif ba 0 4095)

theorem movedTo4095_stored {ba : BaidData α} {ssn : ℕ} (hpos : 0 < ba.bufSize)
    (hqueues : ba.queues = iwlMldInitReorderBuffer ssn) :
    (movedTo4095 ba).stored 0 = 0 := by
  have hexact : SessionExact ba.bufSize (movedTo4095 ba) :=
    (SessionExact.initial hqueues).afterRelease hpos 0 4095
  have honce : ((([] : List α)) : Multiset α) =
      (movedTo4095 ba).handed 0 + (movedTo4095 ba).stored 0 :=
    (hexact.2 0).once
  exact (add_eq_zero.mp honce.symm).2

theorem delBa_misses {ba : BaidData α} {queue : ℕ} (hpos : 0 < ba.bufSize)
    (hbad : ¬ (ba.bufSize ∣ 4096 ∧ ba.bufSize < 2048))
    (hhead : (ba.queues queue).headSn = 4095) :
    ((iwlMldDelBa ba queue).1.queues queue).entries
        (missedSn ba.bufSize % ba.bufSize) =
      (ba.queues queue).entries (missedSn ba.bufSize % ba.bufSize) := by
  simp only [iwlMldDelBa, BaidData.setQueue, Function.update_self, releaseAll,
    reorderReleaseFrames, releaseWalk_eq, hhead]
  rcases walkEntries_entries ba.bufSize
      (moveDistance 4095 (ieee80211SnAdd 4095 ba.bufSize)) 4095
      (ba.queues queue).entries (missedSn ba.bufSize % ba.bufSize) with
    ⟨_, i, hi, hslot⟩ | ⟨hsame, _⟩
  · exact absurd hslot (missedSn_not_walked hpos hbad hi)
  · exact hsame

theorem receive_missedSn {r : BaidRun α} (hpos : 0 < r.ba.bufSize)
    (hbaid : r.ba.baid < 32) (hmask : r.ba.staMask ≠ 0)
    (hbad : ¬ (r.ba.bufSize ∣ 4096 ∧ r.ba.bufSize < 2048))
    (hhead : (r.ba.queues 0).headSn = 4095) (skb : α) :
    ¬ (r.receive 0 (some r.ba.staMask) (qosDataHeader r.ba.tid)
        (wholeMpduDesc r.ba.baid (missedSn r.ba.bufSize) 4095)
        skb).Conserves := by
  intro hconserves
  have hmissed := missedSn_le r.ba.bufSize
  have hdesc := (@wholeMpduDesc_fields _ (missedSn r.ba.bufSize)
    4095 hbaid (by omega) (by norm_num)).1
  have hba := receive_inSession hbaid hmask hdesc 0 skb
  obtain ⟨hafterHead, hafterEntry⟩ :=
    @reorder_missedSn _ r.ba.bufSize _ _ hbaid hhead skb
  have hempty :=
    hconserves.delBa_empties 0 (missedSn r.ba.bufSize % r.ba.bufSize)
  rw [hba] at hempty
  have hmisses := @delBa_misses _ (r.ba.setQueue 0
      (reorderInSession r.ba.bufSize (r.ba.queues 0)
        (wholeMpduDesc r.ba.baid (missedSn r.ba.bufSize) 4095) skb).2.1) 0
    hpos hbad (by simpa [BaidData.setQueue] using hafterHead)
  have hleft := hmisses.symm.trans (hempty (Nat.mod_lt _ hpos))
  simp only [BaidData.setQueue, Function.update_self] at hleft
  rw [hafterEntry] at hleft
  simp at hleft

theorem missedSn_not_conserves {ba : BaidData α} {ssn : ℕ}
    (hpos : 0 < ba.bufSize) (hbaid : ba.baid < 32) (hmask : ba.staMask ≠ 0)
    (hqueues : ba.queues = iwlMldInitReorderBuffer ssn)
    (hbad : ¬ (ba.bufSize ∣ 4096 ∧ ba.bufSize < 2048)) (skb : α) :
    ∃ r, Reachable BaidRun.step BaidRun.CounterHolds (BaidRun.initial ba) r ∧
      ¬ r.Conserves := by
  have hmoved : Reachable BaidRun.step BaidRun.CounterHolds
      (BaidRun.initial ba) (movedTo4095 ba) :=
    .after .start (.frameRelease 0 4095) [] trivial rfl
  have hhead : ((movedTo4095 ba).ba.queues 0).headSn = 4095 := by
    simp [movedTo4095, BaidRun.handUp, iwlMldReleaseFramesFromNotif,
      BaidData.setQueue, reorderReleaseFrames]
  refine ⟨_, hmoved.after (.mpdu 0 (some ba.staMask)
      (qosDataHeader ba.tid)
      (wholeMpduDesc ba.baid (missedSn ba.bufSize) 4095) skb) [] ?_ rfl,
    @receive_missedSn _ (movedTo4095 ba) hpos hbaid hmask hbad hhead skb⟩
  intro _
  rw [movedTo4095_stored hpos hqueues, Multiset.card_zero]
  norm_num

/-! ## Which sessions lose nothing -/

theorem mld_conserves_iff [Inhabited α]
    {numRxBaSessions staMask tid ssn bufSize : ℕ} {allocates : Bool}
    {fwBaid : Option ℕ} {ba : BaidData α}
    (hstart : iwlMldAmpduRxStart numRxBaSessions staMask tid ssn bufSize
      allocates fwBaid = some ba)
    (hpos : 0 < bufSize) :
    (∀ r, Reachable BaidRun.step BaidRun.CounterHolds (BaidRun.initial ba) r →
        r.Conserves) ↔
      bufSize ∣ 4096 ∧ bufSize < 2048 := by
  obtain ⟨hbaid, hmask, rfl, hqueues⟩ := ampduRxStart_session hstart
  constructor
  · intro hconserves
    by_contra hbad
    obtain ⟨r, hreach, hlost⟩ :=
      missedSn_not_conserves hpos hbaid hmask hqueues hbad default
    exact hlost (hconserves r hreach)
  · rintro ⟨hdvd, hsize⟩ r hreach
    have hexact : SessionExact ba.bufSize r :=
      hreach.invariant (SessionExact.initial hqueues)
        fun _ _ _ _ hgood hallowed hnext => hgood.afterStep hpos hallowed hnext
    exact hexact.conserves hpos hdvd hsize

/-- The session a peer gets that asks for `bufSize` frames from `ssn` on. -/
def grantedSession (ssn bufSize : ℕ) : BaidData α where
  baid := 0
  tid := 0
  staMask := 1
  bufSize := bufSize
  queues := iwlMldInitReorderBuffer ssn

theorem mld_conserves_64 :
    iwlMldAmpduRxStart 0 1 0 4090 64 true (some 0) =
        some (grantedSession 4090 64 : BaidData Unit) ∧
      ((∀ r, Reachable BaidRun.step BaidRun.CounterHolds
          (BaidRun.initial (grantedSession 4090 64 : BaidData Unit)) r →
            r.Conserves) ↔
        64 ∣ 4096 ∧ 64 < 2048) :=
  ⟨rfl, @mld_conserves_iff _ _ 0 1 0 4090 64 true (some 0) _ rfl (by norm_num)⟩

/-- With three entries and the head at 0, number 2 is stored; a release behind
the head sets the head to 4095, and the teardown looks at 4095, 0 and 1. -/
def lossyRun : BaidRun Unit :=
  let r := (BaidRun.initial (grantedSession 0 3)).receive 0 (some 1)
    (qosDataHeader 0) (wholeMpduDesc 0 2 0) ()
  r.handUp 0 (iwlMldReleaseFramesFromNotif r.ba 0 4095)

theorem mld_loses_frame_three :
    iwlMldAmpduRxStart 0 1 0 0 3 true (some 0) =
        some (grantedSession 0 3 : BaidData Unit) ∧
      Reachable BaidRun.step BaidRun.CounterHolds
        (BaidRun.initial (grantedSession 0 3 : BaidData Unit)) lossyRun ∧
      ((iwlMldDelBa lossyRun.ba 0).1.queues 0).entries 2 = [()] ∧
      freeReorderBufferWarns 1 lossyRun.ba = true ∧
      ¬ lossyRun.Conserves := by
  have hstored : Reachable BaidRun.step BaidRun.CounterHolds
      (BaidRun.initial (grantedSession 0 3 : BaidData Unit))
      ((BaidRun.initial (grantedSession 0 3)).receive 0 (some 1)
        (qosDataHeader 0) (wholeMpduDesc 0 2 0) ()) :=
    .after .start (.mpdu 0 (some 1) (qosDataHeader 0)
      (wholeMpduDesc 0 2 0) ()) [] (fun _ => by decide +kernel) rfl
  have hleft :
      ((iwlMldDelBa lossyRun.ba 0).1.queues 0).entries 2 = [()] := by
    decide +kernel
  refine ⟨rfl, hstored.after (.frameRelease 0 4095) [] trivial rfl, hleft, by decide +kernel, fun hconserves => ?_⟩
  have hempty := hconserves.delBa_empties 0 2 (by decide +kernel)
  rw [hleft] at hempty
  cases hempty

end Session

end IwlwifiStack
