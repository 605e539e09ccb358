import IwlwifiStack.RxReorderCounter

/-!
# In-order, once-only delivery of whole MPDUs

A session that receives whole MPDUs and reorder timeouts, without filter
marks.  `Delivery` records next to the buffer what was handed on, what the
release functions put on their list, and what was put in the buffer; every
frame travels with its unwrapped sequence number.  One release at the head
keeps all of it in order, so every path of the code does.
-/

namespace IwlwifiStack

variable {α : Type*}

/-- A whole MPDU carries no `RX_FLAG_AMSDU_MORE`. -/
structure WholeMpdu (α : Type*) where
  seqCtrl : ℕ
  data : α

def WholeMpdu.sn (mpdu : WholeMpdu α) : ℕ :=
  ieee80211GetSn mpdu.seqCtrl

def WholeMpdu.skb (mpdu : WholeMpdu α) (unwrapped : ℕ) : RxSkb (ℕ × α) where
  seqCtrl := mpdu.seqCtrl
  amsduMore := false
  data := (unwrapped, mpdu.data)

def RxSkb.unwrapped (skb : RxSkb (ℕ × α)) : ℕ :=
  skb.data.1

inductive DeliveryEvent (α : Type*)
  | mpdu (mpdu : WholeMpdu α) (jiffies : ℕ)
  | reorderTimer (jiffies : ℕ)

/-- `position` is the unwrapped head. -/
structure Delivery (α : Type*) where
  rx : TidAmpduRx (ℕ × α)
  position : ℕ
  handed : List (RxSkb (ℕ × α))
  released : List (RxSkb (ℕ × α))
  buffered : List (RxSkb (ℕ × α))

namespace Delivery

def initial (rx : TidAmpduRx (ℕ × α)) : Delivery α where
  rx := rx
  position := 0
  handed := []
  released := []
  buffered := []

/-- The first frame that sets `started` finds the head at its own number, one
lap above zero so that earlier positions exist. -/
def base (d : Delivery α) (sn : ℕ) : ℕ :=
  if d.rx.started then d.position
  else 4096 + (pickAutoSeq d.rx sn).headSeqNum

def receive (hz jiffies : ℕ) (d : Delivery α) (mpdu : WholeMpdu α) :
    Option (Delivery α) :=
  let head := (pickAutoSeq d.rx mpdu.sn).headSeqNum
  let skb := mpdu.skb (unwrapSn (d.base mpdu.sn) head mpdu.sn)
  (ieee80211StaManageReorderBuf hz jiffies d.rx skb).map fun result =>
    let passed := if result.2.1 = .handOn then [skb] else []
    { rx := result.1
      position := unwrapSn (d.base mpdu.sn) head result.1.headSeqNum
      -- frames before the start of the session are passed on as they come
      handed :=
        if result.1.started then d.handed ++ result.2.2 ++ passed
        else d.handed
      released := d.released ++ result.2.2
      buffered := d.buffered ++ if result.2.1 = .stored then [skb] else [] }

def expire (hz jiffies : ℕ) (d : Delivery α) : Option (Delivery α) :=
  (ieee80211StaReorderRelease hz jiffies d.rx).map fun result =>
    { rx := result.1
      position := unwrapSn d.position d.rx.headSeqNum result.1.headSeqNum
      handed :=
        if result.1.started then d.handed ++ result.2 else d.handed
      released := d.released ++ result.2
      buffered := d.buffered }

def step (hz : ℕ) (d : Delivery α) : DeliveryEvent α → Option (Delivery α)
  | .mpdu mpdu jiffies => d.receive hz jiffies mpdu
  | .reorderTimer jiffies => d.expire hz jiffies

def run (hz : ℕ) (d : Delivery α) (events : List (DeliveryEvent α)) :
    Option (Delivery α) :=
  events.foldlM (step hz) d

end Delivery

def TidAmpduRx.storedFrames (rx : TidAmpduRx α) : Multiset (RxSkb α) :=
  SlotRing.total rx.bufSize Multiset.ofList rx.reorderBuf

theorem storedFrames_update {rx after : TidAmpduRx α} {slot : ℕ}
    {queue : List (RxSkb α)} (hsize : after.bufSize = rx.bufSize)
    (hbuf : after.reorderBuf = Function.update rx.reorderBuf slot queue)
    (hslot : slot < rx.bufSize) :
    after.storedFrames + ↑(rx.reorderBuf slot) = rx.storedFrames + ↑queue := by
  unfold TidAmpduRx.storedFrames
  rw [hsize, hbuf]
  exact SlotRing.total_update Multiset.ofList rx.reorderBuf queue hslot

namespace Delivery

/-- In order and exactly once. -/
structure InOrderOnce (d : Delivery α) : Prop where
  increasing : d.handed.Pairwise fun f g => f.unwrapped < g.unwrapped
  below : ∀ f ∈ d.handed, f.unwrapped < d.position
  numbered : ∀ f ∈ d.handed, f.unwrapped % 4096 = f.sn
  head : d.rx.started = true → d.position % 4096 = d.rx.headSeqNum
  once : (d.buffered.map RxSkb.deferRelease : Multiset (RxSkb (ℕ × α))) =
    d.released + d.rx.storedFrames.map RxSkb.deferRelease
  handed_released : d.released.Sublist d.handed
  in_window : ∀ slot < d.rx.bufSize, ∀ f ∈ d.rx.reorderBuf slot,
    slot = f.sn % d.rx.bufSize ∧
      ieee80211SnSub f.sn d.rx.headSeqNum < d.rx.bufSize ∧
      f.unwrapped = d.position + ieee80211SnSub f.sn d.rx.headSeqNum

end Delivery

/-! ## The invariant of a started session -/

/-- A slot holds at most one whole MPDU, the one whose unwrapped number lies
in the window and belongs to the slot. -/
def HoldsOwn (bufSize position slot : ℕ)
    (queue : List (RxSkb (ℕ × α))) : Prop :=
  queue = [] ∨ ∃ f, queue = [f] ∧ f.amsduMore = false ∧
    f.unwrapped % 4096 = f.sn ∧ f.unwrapped % bufSize = slot ∧
    position ≤ f.unwrapped ∧ f.unwrapped < position + bufSize

namespace Delivery

structure Sound (d : Delivery α) : Prop where
  counter : CounterExact d.rx
  bufSize_ge : 2 ≤ d.rx.bufSize
  started : d.rx.started = true
  autoSeq : d.rx.autoSeq = false
  unmarked : d.rx.reorderBufFiltered = 0
  lap : 4096 ≤ d.position
  head : d.position % 4096 = d.rx.headSeqNum
  slots : ∀ slot < d.rx.bufSize,
    HoldsOwn d.rx.bufSize d.position slot (d.rx.reorderBuf slot)
  increasing : d.handed.Pairwise fun f g => f.unwrapped < g.unwrapped
  below : ∀ f ∈ d.handed, f.unwrapped < d.position
  numbered : ∀ f ∈ d.handed, f.unwrapped % 4096 = f.sn
  once : (d.buffered.map RxSkb.deferRelease : Multiset (RxSkb (ℕ × α))) =
    d.released + d.rx.storedFrames.map RxSkb.deferRelease
  handed_released : d.released.Sublist d.handed

def releaseHead (d : Delivery α) : Delivery α :=
  let result := ieee80211ReleaseReorderFrame d.rx d.rx.headSlot
  { rx := result.1
    position := d.position + 1
    handed := d.handed ++ result.2
    released := d.released ++ result.2
    buffered := d.buffered }

/-- `n` releases at the head. -/
def releaseHeads (n : ℕ) (d : Delivery α) : Delivery α :=
  let result := IwlwifiStack.releaseHeads n d.rx
  { rx := result.1
    position := d.position + n
    handed := d.handed ++ result.2
    released := d.released ++ result.2
    buffered := d.buffered }

theorem releaseHeads_succ (n : ℕ) (d : Delivery α) :
    d.releaseHeads (n + 1) = (d.releaseHeads n).releaseHead := by
  simp [releaseHeads, releaseHead, IwlwifiStack.releaseHeads_succ,
    Nat.add_assoc]

end Delivery

namespace HoldsOwn

variable {bufSize position slot : ℕ} {queue : List (RxSkb (ℕ × α))}

theorem later (hown : HoldsOwn bufSize position slot queue)
    (hne : slot ≠ position % bufSize) :
    HoldsOwn bufSize (position + 1) slot queue := by
  rcases hown with hnil | ⟨f, hqueue, hmore, hsn, hslot, hle, hlt⟩
  · exact Or.inl hnil
  · refine Or.inr ⟨f, hqueue, hmore, hsn, hslot, ?_, by omega⟩
    have hother : f.unwrapped ≠ position := by
      rintro rfl
      exact hne hslot.symm
    omega

theorem tailComplete_iff (hown : HoldsOwn bufSize position slot queue) :
    tailComplete queue = true ↔ queue ≠ [] := by
  rcases hown with rfl | ⟨f, rfl, hmore, _⟩
  · simp
  · simp [tailComplete, hmore]

theorem at_head (hown : HoldsOwn bufSize position (position % bufSize) queue) :
    queue = [] ∨ ∃ f, queue = [f] ∧ f.unwrapped % 4096 = f.sn ∧
      f.unwrapped = position := by
  rcases hown with hnil | ⟨f, hqueue, _, hsn, hslot, hle, hlt⟩
  · exact Or.inl hnil
  · refine Or.inr ⟨f, hqueue, hsn, ?_⟩
    exact SlotRing.position_unique hle hlt le_rfl (by omega) hslot

end HoldsOwn

@[simp] theorem RxSkb.deferRelease_unwrapped (f : RxSkb (ℕ × α)) :
    f.deferRelease.unwrapped = f.unwrapped := rfl

@[simp] theorem RxSkb.deferRelease_sn (f : RxSkb α) :
    f.deferRelease.sn = f.sn := rfl

@[simp] theorem RxSkb.deferRelease_deferRelease (f : RxSkb α) :
    f.deferRelease.deferRelease = f.deferRelease := rfl

namespace Delivery.Sound

variable {d : Delivery α}

theorem headSlot_eq (hsound : d.Sound) :
    d.rx.headSlot = d.position % d.rx.bufSize := by
  rw [TidAmpduRx.headSlot, ← hsound.head]
  exact Nat.mod_mod_of_dvd _ hsound.counter.dvd

theorem ready_iff (hsound : d.Sound) {slot : ℕ} (hslot : slot < d.rx.bufSize) :
    ieee80211RxReorderReady d.rx slot = true ↔ d.rx.reorderBuf slot ≠ [] := by
  rw [ready_eq, hsound.unmarked]
  simpa using (hsound.slots slot hslot).tailComplete_iff

theorem handed_append (hsound : d.Sound) {f : RxSkb (ℕ × α)}
    (hposition : f.unwrapped = d.position) (hsn : f.unwrapped % 4096 = f.sn) :
    (d.handed ++ [f]).Pairwise (fun f g => f.unwrapped < g.unwrapped) ∧
      (∀ g ∈ d.handed ++ [f], g.unwrapped < d.position + 1) ∧
      ∀ g ∈ d.handed ++ [f], g.unwrapped % 4096 = g.sn := by
  refine ⟨?_, ?_, ?_⟩
  · rw [List.pairwise_append]
    refine ⟨hsound.increasing, List.pairwise_singleton _ _, ?_⟩
    intro g hg g' hg'
    rw [List.mem_singleton.mp hg', hposition]
    exact hsound.below g hg
  · intro g hg
    rcases List.mem_append.mp hg with hold | hnew
    · exact Nat.lt_succ_of_lt (hsound.below g hold)
    · rw [List.mem_singleton.mp hnew, hposition]
      exact Nat.lt_succ_self _
  · intro g hg
    rcases List.mem_append.mp hg with hold | hnew
    · exact hsound.numbered g hold
    · rw [List.mem_singleton.mp hnew]
      exact hsn

theorem afterReleaseHead (hsound : d.Sound) : d.releaseHead.Sound := by
  have hpos : 0 < d.rx.bufSize := hsound.counter.bufSize_pos
  have hslot : d.rx.headSlot < d.rx.bufSize := Nat.mod_lt _ hpos
  have hframe := releaseReorderFrame_sameFrame d.rx d.rx.headSlot
  have hstored := storedFrames_update
    (releaseReorderFrame_bufSize d.rx d.rx.headSlot)
    (releaseReorderFrame_reorderBuf d.rx d.rx.headSlot) hslot
  have hout : d.releaseHead.handed =
      d.handed ++ (d.rx.reorderBuf d.rx.headSlot).map RxSkb.deferRelease ∧
      d.releaseHead.released =
        d.released ++
          (d.rx.reorderBuf d.rx.headSlot).map RxSkb.deferRelease := by
    have hempty : ieee80211RxReorderReady d.rx d.rx.headSlot = false →
        d.rx.reorderBuf d.rx.headSlot = [] := by
      intro hnot
      by_contra hne
      rw [(hsound.ready_iff hslot).mpr hne] at hnot
      cases hnot
    simp only [releaseHead, releaseReorderFrame_frames]
    cases hready : ieee80211RxReorderReady d.rx d.rx.headSlot with
    | true => simp
    | false => simp [hempty hready]
  have hown := hsound.slots d.rx.headSlot hslot
  rw [hsound.headSlot_eq] at hown
  have hordered :
      d.releaseHead.handed.Pairwise
          (fun f g => f.unwrapped < g.unwrapped) ∧
        (∀ g ∈ d.releaseHead.handed, g.unwrapped < d.position + 1) ∧
        ∀ g ∈ d.releaseHead.handed, g.unwrapped % 4096 = g.sn := by
    rw [hout.1, hsound.headSlot_eq]
    rcases hown.at_head with hnil | ⟨f, hqueue, hsn, hposition⟩
    · rw [hnil, List.map_nil, List.append_nil]
      exact ⟨hsound.increasing,
        fun g hg => Nat.lt_succ_of_lt (hsound.below g hg), hsound.numbered⟩
    · rw [hqueue]
      exact hsound.handed_append (f := f.deferRelease) hposition hsn
  exact
    { counter := hsound.counter.afterReleaseReorderFrame hslot
        (not_filteredUnfinished_of_unmarked hsound.unmarked)
      bufSize_ge := by
        simpa [releaseHead] using hsound.bufSize_ge
      started := hframe.started_eq.trans hsound.started
      autoSeq := hframe.autoSeq_eq.trans hsound.autoSeq
      unmarked := releaseHeads_unmarked 1 hsound.unmarked
      lap := Nat.le_succ_of_le hsound.lap
      head := by
        have hhead := hsound.head
        simp only [releaseHead, releaseReorderFrame_headSeqNum,
          ieee80211SnInc, ieee80211SnAdd]
        omega
      slots := by
        intro slot hlt
        simp only [releaseHead, releaseReorderFrame_bufSize] at hlt ⊢
        rw [releaseReorderFrame_reorderBuf, Function.update_apply]
        split_ifs with heq
        · exact Or.inl rfl
        · apply (hsound.slots slot hlt).later
          rw [← hsound.headSlot_eq]
          exact heq
      increasing := hordered.1
      below := hordered.2.1
      numbered := hordered.2.2
      once := by
        have hcount := congrArg (Multiset.map RxSkb.deferRelease) hstored
        rw [Multiset.map_add, Multiset.map_add, Multiset.map_coe,
          Multiset.coe_nil, Multiset.map_zero, add_zero] at hcount
        have hbuffered : d.releaseHead.buffered = d.buffered := rfl
        rw [hbuffered, hsound.once, hout.2, ← hcount, ← Multiset.coe_add,
          add_assoc, add_comm (Multiset.map _ _)]
        rfl
      handed_released := by
        rw [hout.1, hout.2]
        exact hsound.handed_released.append (List.Sublist.refl _) }

theorem afterReleaseHeads (hsound : d.Sound) (n : ℕ) :
    (d.releaseHeads n).Sound := by
  induction n with
  | zero =>
      have hzero : d.releaseHeads 0 = d := by simp [releaseHeads]
      rw [hzero]
      exact hsound
  | succ n ih =>
      rw [releaseHeads_succ]
      exact ih.afterReleaseHead

theorem setTimer (hsound : d.Sound) (timer : Option ℕ) :
    ({ d with rx := { d.rx with reorderTimer := timer } } :
      Delivery α).Sound :=
  { hsound with counter := hsound.counter.congr rfl rfl rfl }

theorem empty_of_not_ready (hsound : d.Sound) {slot : ℕ}
    (hslot : slot < d.rx.bufSize)
    (hready : ieee80211RxReorderReady d.rx slot = false) :
    d.rx.reorderBuf slot = [] := by
  by_contra hne
  rw [(hsound.ready_iff hslot).mpr hne] at hready
  cases hready

theorem keepSlot_eq (hsound : d.Sound) {hz jiffies n : ℕ}
    (hskips : n ≠ 0 → timeoutSkipsHead hz jiffies d.rx) :
    keepSlot (IwlwifiStack.releaseHeads n d.rx).1 d.rx =
      (IwlwifiStack.releaseHeads n d.rx).1 := by
  rcases Nat.eq_zero_or_pos n with rfl | hpos
  · simp
  · exact keepSlot_of_empty hsound.counter.dvd n
      (hsound.empty_of_not_ready (headSlot_lt hsound.counter.bufSize_pos)
        (hskips (by omega)).1)

theorem staReorderRelease_eq (hsound : d.Sound) (hz jiffies : ℕ) :
    ∃ n timer, n ≤ d.rx.bufSize ∧
      ReleasesJustified hz jiffies d.rx n ∧
      ieee80211StaReorderRelease hz jiffies d.rx =
        some ({ (IwlwifiStack.releaseHeads n d.rx).1 with
            reorderTimer := timer },
          (IwlwifiStack.releaseHeads n d.rx).2) := by
  obtain ⟨⟨after, frames⟩, hrelease⟩ := Option.isSome_iff_exists.mp
    (hsound.counter.staReorderRelease_isSome
      (releaseSafe_of_unmarked hz jiffies hsound.unmarked))
  obtain ⟨n, released, timer, hn, hstate, rfl, rfl, hjust⟩ :=
    staReorderRelease_cases hsound.counter.dvd hsound.counter.bufSize_pos
      hrelease
  refine ⟨n, timer, hn, hjust, ?_⟩
  rcases hstate with ⟨_, rfl⟩ | ⟨hskips, rfl⟩
  · exact hrelease
  · rw [hrelease, hsound.keepSlot_eq hskips]

theorem unwrap_head {d' : Delivery α} (hsound : d.Sound) (hsound' : d'.Sound)
    (hle : d.position ≤ d'.position)
    (hnear : d'.position ≤ d.position + 2048) :
    unwrapSn d.position d.rx.headSeqNum d'.rx.headSeqNum = d'.position := by
  have hhead := hsound.head
  have hhead' := hsound'.head
  exact unwrapSn_eq (by omega) (by omega) hle hnear

theorem afterCompleted (hsound : d.Sound) (jiffies : ℕ) {f : RxSkb (ℕ × α)}
    (hbuffers : Buffers d.rx f) (hmore : f.amsduMore = false)
    (hsn : f.unwrapped % 4096 = f.sn) (hle : d.position ≤ f.unwrapped)
    (hlt : f.unwrapped < d.position + d.rx.bufSize) :
    ({ d with
        rx := completedBuffer jiffies d.rx f
        buffered := d.buffered ++ [f] } : Delivery α).Sound := by
  have hslot : f.slot d.rx < d.rx.bufSize :=
    Nat.mod_lt _ hsound.counter.bufSize_pos
  have hempty := hsound.empty_of_not_ready hslot hbuffers.1
  have hown : f.unwrapped % d.rx.bufSize = f.slot d.rx := by
    rw [RxSkb.slot, ← hsn, Nat.mod_mod_of_dvd _ hsound.counter.dvd]
  have hbuf : (completedBuffer jiffies d.rx f).reorderBuf =
      Function.update d.rx.reorderBuf (f.slot d.rx) [f] := by
    simp [completedBuffer, countFrame, storeFrame, hempty]
  exact
    { hsound with
      counter := hsound.counter.afterCompleted hbuffers hmore
      slots := by
        intro slot hslot'
        simp only [hbuf, Function.update_apply]
        split_ifs with heq
        · exact Or.inr ⟨f, rfl, hmore, hsn, by rw [heq]; exact hown, hle, hlt⟩
        · exact hsound.slots slot hslot'
      once := by
        have hstored := @storedFrames_update _ d.rx
          (completedBuffer jiffies d.rx f) _ _ rfl hbuf hslot
        rw [hempty, Multiset.coe_nil, add_zero] at hstored
        simp only [hstored, List.map_append, ← Multiset.coe_add, hsound.once,
          Multiset.map_add, Multiset.map_coe, add_assoc] }

theorem afterDirect (hsound : d.Sound) {f : RxSkb (ℕ × α)}
    (hstored : d.rx.storedMpduNum = 0) (hmore : f.amsduMore = false)
    (hsn : f.unwrapped % 4096 = f.sn) (hposition : f.unwrapped = d.position) :
    ({ d with
        rx := passDirectly d.rx f
        position := d.position + 1
        handed := d.handed ++ [f] } : Delivery α).Sound := by
  have hordered := hsound.handed_append hposition hsn
  have hempty : ∀ slot < d.rx.bufSize, d.rx.reorderBuf slot = [] := by
    intro slot hslot
    have hcount := hsound.counter.count_eq
    rw [hstored, eq_comm, completeSlots_eq_total,
      SlotRing.total_eq_zero_iff] at hcount
    have hweight := hcount slot hslot
    by_contra hne
    have htail := (hsound.slots slot hslot).tailComplete_iff.mpr hne
    simp [completeWeight, htail] at hweight
  exact
    { hsound with
      counter := hsound.counter.congr rfl rfl rfl
      lap := Nat.le_succ_of_le hsound.lap
      head := by
        have hhead := hsound.head
        simp only [passDirectly, hmore, Bool.false_eq_true, if_false,
          ieee80211SnInc, ieee80211SnAdd]
        omega
      slots := fun slot hslot => Or.inl (hempty slot hslot)
      increasing := hordered.1
      below := hordered.2.1
      numbered := hordered.2.2
      handed_released :=
        hsound.handed_released.trans (List.sublist_append_left _ _) }

theorem slotAt_eq (hsound : d.Sound) (i : ℕ) :
    d.rx.slotAt i = (d.position + i) % d.rx.bufSize := by
  have hhead := hsound.head
  exact slot_congr hsound.counter.dvd (by omega)

theorem unwrapped_lt (hsound : d.Sound) {slot : ℕ}
    (hslot : slot < d.rx.bufSize) {g : RxSkb (ℕ × α)}
    (hg : g ∈ d.rx.reorderBuf slot) :
    g.unwrapped < d.position + d.rx.bufSize := by
  rcases hsound.slots slot hslot with hnil | ⟨f, hqueue, _, _, _, _, hlt⟩
  · rw [hnil] at hg
    cases hg
  · rw [hqueue] at hg
    rw [List.mem_singleton.mp hg]
    exact hlt

/-- A frame that fills the last place of the window is released at once only
behind a frame that was stored right before it. -/
theorem predecessor_stored (hsound : d.Sound) {hz jiffies : ℕ}
    {f : RxSkb (ℕ × α)} (hsn : f.unwrapped % 4096 = f.sn)
    (hlast : f.unwrapped + 1 = d.position + d.rx.bufSize)
    (hjust : ReleasesJustified hz jiffies (completedBuffer jiffies d.rx f)
      d.rx.bufSize) :
    ∃ slot < d.rx.bufSize, ∃ g ∈ d.rx.reorderBuf slot,
      g.unwrapped + 1 = f.unwrapped := by
  have hge := hsound.bufSize_ge
  have hslot : d.rx.slotAt (d.rx.bufSize - 1) = f.slot d.rx := by
    rw [hsound.slotAt_eq, RxSkb.slot, ← hsn,
      Nat.mod_mod_of_dvd _ hsound.counter.dvd]
    congr 1
    omega
  have hne : d.rx.slotAt (d.rx.bufSize - 2) ≠ f.slot d.rx := by
    rw [← hslot]
    exact slotAt_ne (by omega) (by omega) (by omega)
  have hready : ieee80211RxReorderReady (completedBuffer jiffies d.rx f)
      (d.rx.slotAt (d.rx.bufSize - 2)) = true := by
    rcases hjust.2 (d.rx.bufSize - 1) (by omega) (hjust.1 (by omega)) with
      hzero | hready | hout
    · omega
    · exact hready
    · have hnow : (completedBuffer jiffies d.rx f).reorderTime
          (f.slot d.rx) = jiffies := by
        simp [completedBuffer, countFrame]
      have hsame : (completedBuffer jiffies d.rx f).slotAt
          (d.rx.bufSize - 1) = f.slot d.rx := hslot
      rw [hsame, timedOut, hnow] at hout
      simp [timeAfter] at hout
  have hsame : ieee80211RxReorderReady (completedBuffer jiffies d.rx f)
      (d.rx.slotAt (d.rx.bufSize - 2)) =
      ieee80211RxReorderReady d.rx (d.rx.slotAt (d.rx.bufSize - 2)) := by
    simp [ready_eq, completedBuffer, countFrame, storeFrame, hne]
  have hslot' : d.rx.slotAt (d.rx.bufSize - 2) < d.rx.bufSize :=
    slotAt_lt (by omega) _
  rw [hsame, hsound.ready_iff hslot'] at hready
  refine ⟨_, hslot', ?_⟩
  rcases hsound.slots _ hslot' with hnil | ⟨g, hqueue, _, _, hown, hle, hlt⟩
  · exact absurd hnil hready
  · refine ⟨g, by simp [hqueue], ?_⟩
    rw [hsound.slotAt_eq] at hown
    have hposition := SlotRing.position_unique hle hlt
      (q := d.position + (d.rx.bufSize - 2)) (by omega) (by omega) hown
    omega

theorem inOrderOnce (hsound : d.Sound) : d.InOrderOnce :=
  { hsound with
    head := fun _ => hsound.head
    in_window := by
      intro slot hslot f hf
      have hhead := hsound.head
      rcases hsound.slots slot hslot with
        hnil | ⟨g, hqueue, _, hsn, hown, hle, hlt⟩
      · rw [hnil] at hf
        cases hf
      · rw [hqueue] at hf
        obtain rfl := List.mem_singleton.mp hf
        have hsub : ieee80211SnSub f.sn d.rx.headSeqNum =
            f.unwrapped - d.position := by
          have hsmall := hsound.counter.bufSize_le
          exact snSub_eq_of_offset (by omega) (by omega)
        refine ⟨?_, by omega, by omega⟩
        rw [← hown, ← hsn, Nat.mod_mod_of_dvd _ hsound.counter.dvd] }

end Delivery.Sound

/-! ## Whole steps -/

namespace Delivery

/-- A session that has not started. -/
structure Idle (d : Delivery α) : Prop where
  fresh : FreshSession d.rx
  dvd : d.rx.bufSize ∣ 4096
  bufSize_ge : 2 ≤ d.rx.bufSize
  handed_nil : d.handed = []
  released_nil : d.released = []
  buffered_nil : d.buffered = []

/-- The session as the frame finds it once `started` is set. -/
def begin (d : Delivery α) (mpdu : WholeMpdu α) : Delivery α :=
  { d with
    rx := startedBy d.rx (mpdu.skb 0)
    position := d.base mpdu.sn }

def tag (d : Delivery α) (mpdu : WholeMpdu α) : RxSkb (ℕ × α) :=
  mpdu.skb (unwrapSn (d.base mpdu.sn) (d.begin mpdu).rx.headSeqNum mpdu.sn)

theorem storedFrames_of_empty {rx : TidAmpduRx α}
    (hempty : rx.reorderBuf = fun _ => []) : rx.storedFrames = 0 := by
  simp [TidAmpduRx.storedFrames, SlotRing.total, hempty]

theorem Idle.inOrderOnce {d : Delivery α} (hidle : d.Idle) :
    d.InOrderOnce where
  increasing := by simp [hidle.handed_nil]
  below := by simp [hidle.handed_nil]
  numbered := by simp [hidle.handed_nil]
  head := by simp [hidle.fresh.not_started]
  once := by
    simp [hidle.buffered_nil, hidle.released_nil,
      storedFrames_of_empty hidle.fresh.empty]
  handed_released := by simp [hidle.released_nil]
  in_window := by simp [hidle.fresh.empty]

theorem Idle.begin_sound {d : Delivery α} (hidle : d.Idle)
    (mpdu : WholeMpdu α) : (d.begin mpdu).Sound := by
  have hfresh := hidle.fresh
  have hbase : d.base mpdu.sn =
      4096 + (pickAutoSeq d.rx mpdu.sn).headSeqNum := by
    simp [base, hfresh.not_started]
  have hhead : (pickAutoSeq d.rx mpdu.sn).headSeqNum < 4096 := by
    unfold pickAutoSeq
    split_ifs
    · exact getSn_lt _
    · exact hfresh.head_lt
  have hempty : (d.begin mpdu).rx.reorderBuf = fun _ => [] := by
    simp [begin, startedBy, hfresh.empty]
  exact
    { counter := (hfresh.counterExact hidle.dvd).afterStartedBy _
      bufSize_ge := by
        simpa [begin, startedBy] using hidle.bufSize_ge
      started := rfl
      autoSeq := pickAutoSeq_autoSeq _ _
      unmarked := by simp [begin, startedBy, hfresh.filtered]
      lap := by simp [begin, hbase]
      head := by
        change d.base mpdu.sn % 4096 = (pickAutoSeq d.rx mpdu.sn).headSeqNum
        omega
      slots := fun slot _ => Or.inl (by rw [hempty])
      increasing := by simp [begin, hidle.handed_nil]
      below := by simp [begin, hidle.handed_nil]
      numbered := by simp [begin, hidle.handed_nil]
      once := by
        rw [storedFrames_of_empty hempty]
        simp [begin, hidle.buffered_nil, hidle.released_nil]
      handed_released := by simp [begin, hidle.released_nil] }

theorem Sound.begin_eq {d : Delivery α} (hsound : d.Sound)
    (mpdu : WholeMpdu α) : d.begin mpdu = d := by
  have hrx : startedBy d.rx (mpdu.skb 0) = d.rx := by
    rw [startedBy, pickAutoSeq_of_not_auto _ hsound.autoSeq, ← hsound.started]
  simp [begin, base, hrx, hsound.started]

section Receive

variable {d d' : Delivery α} {hz jiffies : ℕ} {mpdu : WholeMpdu α}

theorem tag_bounds (hsound : (d.begin mpdu).Sound)
    (hless : ieee80211SnLess mpdu.sn (d.begin mpdu).rx.headSeqNum = false) :
    (d.tag mpdu).unwrapped % 4096 = (d.tag mpdu).sn ∧
      (d.begin mpdu).position + frameShift d.rx (d.tag mpdu) ≤
        (d.tag mpdu).unwrapped ∧
      (d.tag mpdu).unwrapped <
        (d.begin mpdu).position + frameShift d.rx (d.tag mpdu) +
          d.rx.bufSize ∧
      (d.tag mpdu).unwrapped ≤ (d.begin mpdu).position + 2048 ∧
      (frameShift d.rx (d.tag mpdu) ≠ 0 →
        (d.tag mpdu).unwrapped + 1 = (d.begin mpdu).position +
          frameShift d.rx (d.tag mpdu) + d.rx.bufSize) := by
  have hoffset := snLess_eq_false_iff.mp hless
  have hsize : (d.begin mpdu).rx.bufSize = d.rx.bufSize := by
    simp [begin, startedBy]
  have hge := hsound.bufSize_ge
  rw [hsize] at hge
  have hunwrapped : (d.tag mpdu).unwrapped = (d.begin mpdu).position +
      ieee80211SnSub mpdu.sn (d.begin mpdu).rx.headSeqNum :=
    unwrapSn_of_not_less hless
  have hshift : frameShift d.rx (d.tag mpdu) =
      ieee80211SnSub mpdu.sn (d.begin mpdu).rx.headSeqNum + 1 -
        d.rx.bufSize := by
    have hdef : frameShift d.rx (d.tag mpdu) = windowShift d.rx.bufSize
        (ieee80211SnSub mpdu.sn (d.begin mpdu).rx.headSeqNum) := rfl
    rw [hdef, windowShift, if_neg (by omega)]
  have hsn : (d.tag mpdu).unwrapped % 4096 = (d.tag mpdu).sn := by
    have hmod := @unwrapSn_mod (d.begin mpdu).position
      (d.begin mpdu).rx.headSeqNum mpdu.sn
      (by have := hsound.head; omega) hsound.lap
    have hlt : mpdu.sn < 4096 := getSn_lt _
    exact hmod.trans (Nat.mod_eq_of_lt hlt)
  exact ⟨hsn, by omega, by omega, by omega, by omega⟩

theorem receive_eq {verdict : ReorderVerdict}
    {frames : List (RxSkb (ℕ × α))}
    (hmanage : ieee80211StaManageReorderBuf hz jiffies d.rx (d.tag mpdu) =
      some (d'.rx, verdict, frames))
    (hposition : unwrapSn (d.begin mpdu).position
      (d.begin mpdu).rx.headSeqNum d'.rx.headSeqNum = d'.position)
    (hstarted : d'.rx.started = true)
    (hhanded : d'.handed = d.handed ++ frames ++
      if verdict = .handOn then [d.tag mpdu] else [])
    (hreleased : d'.released = d.released ++ frames)
    (hbuffered : d'.buffered = d.buffered ++
      if verdict = .stored then [d.tag mpdu] else []) :
    d.receive hz jiffies mpdu = some d' := by
  have hrun : d.receive hz jiffies mpdu =
      (ieee80211StaManageReorderBuf hz jiffies d.rx (d.tag mpdu)).map
        fun result =>
          { rx := result.1
            position := unwrapSn (d.begin mpdu).position
              (d.begin mpdu).rx.headSeqNum result.1.headSeqNum
            handed :=
              if result.1.started then
                d.handed ++ result.2.2 ++
                  if result.2.1 = .handOn then [d.tag mpdu] else []
              else d.handed
            released := d.released ++ result.2.2
            buffered := d.buffered ++
              if result.2.1 = .stored then [d.tag mpdu] else [] } := rfl
  rw [hrun, hmanage, Option.map_some, hposition, hstarted, if_pos rfl,
    ← hhanded, ← hreleased, ← hbuffered]

/-- A frame in the window of a started session: the record goes on in order,
and the head moves to the end of the window only together with the frame
before the last one. -/
theorem Sound.placed {skb : RxSkb (ℕ × α)} {after : TidAmpduRx (ℕ × α)}
    {verdict : ReorderVerdict} {frames : List (RxSkb (ℕ × α))}
    (hsound : d.Sound) (hmore : skb.amsduMore = false)
    (hsn : skb.unwrapped % 4096 = skb.sn) (hle : d.position ≤ skb.unwrapped)
    (hlt : skb.unwrapped < d.position + d.rx.bufSize)
    (hplaced : Placed hz jiffies d.rx skb after verdict frames) :
    ∃ d' : Delivery α, d'.Sound ∧ d'.rx = after ∧
      d'.handed = d.handed ++ frames ++
        (if verdict = .handOn then [skb] else []) ∧
      d'.released = d.released ++ frames ∧
      d'.buffered = d.buffered ++
        (if verdict = .stored then [skb] else []) ∧
      d.position ≤ d'.position ∧
      d'.position ≤ d.position + d.rx.bufSize ∧
      (d'.position = d.position + d.rx.bufSize →
        skb.unwrapped + 1 = d.position + d.rx.bufSize →
        ∃ slot < d.rx.bufSize, ∃ g ∈ d.rx.reorderBuf slot,
          g.unwrapped + 1 = skb.unwrapped) := by
  have hge := hsound.bufSize_ge
  cases hplaced with
  | duplicate _ =>
      exact ⟨d, hsound, rfl, by simp, by simp, by simp, le_rfl, by omega,
        by omega⟩
  | direct _ hnext hstored =>
      have hposition : skb.unwrapped = d.position := by
        have hhead := hsound.head
        have hsmall := hsound.counter.bufSize_le
        omega
      exact ⟨_, hsound.afterDirect hstored hmore hsn hposition, rfl,
        by simp, by simp, by simp, Nat.le_succ _, by simp only; omega,
        by simp only; omega⟩
  | waiting _ hwaits =>
      rw [hmore] at hwaits
      cases hwaits
  | completed hbuffers _ hrelease =>
      have hfilled := hsound.afterCompleted jiffies hbuffers hmore hsn
        hle hlt
      obtain ⟨n, timer, hn, hjust, heq⟩ :=
        hfilled.staReorderRelease_eq hz jiffies
      rw [hrelease, Option.some.injEq, Prod.mk.injEq] at heq
      obtain ⟨rfl, rfl⟩ := heq
      have hn' : n ≤ d.rx.bufSize := hn
      refine ⟨_, (hfilled.afterReleaseHeads n).setTimer timer, rfl,
        by simp [releaseHeads], rfl, by simp [releaseHeads],
        Nat.le_add_right _ _, Nat.add_le_add_left hn' _, ?_⟩
      intro hfull hlast
      have hall : n = d.rx.bufSize := Nat.add_left_cancel hfull
      subst hall
      exact hsound.predecessor_stored hsn hlast hjust

theorem receive_sound (hsound : (d.begin mpdu).Sound)
    (hnotEarly : ¬ (d.rx.started = false ∧
      ieee80211SnLess mpdu.sn (d.begin mpdu).rx.headSeqNum = true)) :
    ∃ d', d.receive hz jiffies mpdu = some d' ∧ d'.Sound ∧
      (d.begin mpdu).position ≤ d'.position := by
  have hsize : (d.begin mpdu).rx.bufSize = d.rx.bufSize := by
    simp [begin, startedBy]
  have hpos : 0 < d.rx.bufSize := hsize ▸ hsound.counter.bufSize_pos
  have hle : d.rx.bufSize ≤ 1024 := hsize ▸ hsound.counter.bufSize_le
  have hsome : (ieee80211StaManageReorderBuf hz jiffies d.rx
      (d.tag mpdu)).isSome := by
    apply manageReorderBuf_isSome hpos hle
    intro _ hbuffers hmore
    have hmoved := hsound.afterReleaseHeads (frameShift d.rx (d.tag mpdu))
    exact (hmoved.counter.afterCompleted hbuffers hmore
      ).staReorderRelease_isSome
        (releaseSafe_of_unmarked hz jiffies hmoved.unmarked)
  obtain ⟨⟨after, verdict, frames⟩, hmanage⟩ :=
    Option.isSome_iff_exists.mp hsome
  cases manageReorderBuf_managed hpos hle hmanage with
  | early hstarted hless => exact absurd ⟨hstarted, hless⟩ hnotEarly
  | late hstarted _ =>
      refine ⟨d.begin mpdu, receive_eq hmanage
        (hsound.unwrap_head hsound le_rfl (by omega)) hsound.started
        ?_ ?_ ?_, hsound, le_rfl⟩ <;> simp [begin]
  | @inWindow _ _ out hless hplaced =>
      have hmoved := hsound.afterReleaseHeads (frameShift d.rx (d.tag mpdu))
      have hbounds := tag_bounds hsound hless
      obtain ⟨hsn, hfrom, hto, hfar, hmove⟩ := hbounds
      have hsize' : ((d.begin mpdu).releaseHeads
          (frameShift d.rx (d.tag mpdu))).rx.bufSize = d.rx.bufSize := by
        simp [releaseHeads, hsize]
      obtain ⟨d', hsound', rfl, hhanded, hreleased, hbuffered, hge', hle',
        hfull⟩ := hmoved.placed rfl hsn hfrom (by rw [hsize']; exact hto)
          hplaced
      rw [hsize'] at hle' hfull
      have hstart : (d.begin mpdu).position ≤ d'.position :=
        le_trans (Nat.le_add_right _ _) hge'
      have hend : d'.position ≤ (d.begin mpdu).position + 2048 := by
        have hposition : ((d.begin mpdu).releaseHeads
            (frameShift d.rx (d.tag mpdu))).position =
            (d.begin mpdu).position + frameShift d.rx (d.tag mpdu) := rfl
        rw [hposition] at hle' hge' hfull
        by_cases hzero : frameShift d.rx (d.tag mpdu) = 0
        · omega
        · have hlast := hmove hzero
          by_contra hbeyond
          -- the frame before the last one would lie outside the old window
          obtain ⟨slot, hslot, g, hg, hprev⟩ := hfull (by omega) hlast
          have hold : g ∈ (d.begin mpdu).rx.reorderBuf slot := by
            have hqueue := releaseHeads_reorderBuf hsound.counter.dvd
              (frameShift d.rx (d.tag mpdu)) slot
            simp only [releaseHeads, hqueue] at hg
            split_ifs at hg with hpassed
            · cases hg
            · exact hg
          have hnear := hsound.unwrapped_lt (by omega) hold
          omega
      refine ⟨d', receive_eq hmanage
        (hsound.unwrap_head hsound' hstart hend) hsound'.started
        ?_ ?_ ?_, hsound', hstart⟩
      · rw [hhanded]
        simp [releaseHeads, begin]
        rfl
      · rw [hreleased]
        simp [releaseHeads, begin]
        rfl
      · rw [hbuffered]
        rfl

theorem Sound.expire_sound (hsound : d.Sound) :
    ∃ d', d.expire hz jiffies = some d' ∧ d'.Sound ∧
      d.position ≤ d'.position := by
  obtain ⟨n, timer, hn, _, heq⟩ := hsound.staReorderRelease_eq hz jiffies
  have hsmall := hsound.counter.bufSize_le
  have hafter := (hsound.afterReleaseHeads n).setTimer timer
  have hposition : unwrapSn d.position d.rx.headSeqNum
      (IwlwifiStack.releaseHeads n d.rx).1.headSeqNum = d.position + n :=
    hsound.unwrap_head hafter (Nat.le_add_right _ _)
      (Nat.add_le_add_left (by omega) _)
  refine ⟨_, ?_, hafter, Nat.le_add_right _ _⟩
  simp [expire, heq, hposition, hsound.started, releaseHeads]

theorem Idle.expire_idle (hidle : d.Idle) :
    ∃ d', d.expire hz jiffies = some d' ∧ d'.Idle := by
  have hfresh := hidle.fresh
  have hexact := hfresh.counterExact hidle.dvd
  obtain ⟨⟨after, frames⟩, hrelease⟩ := Option.isSome_iff_exists.mp
    (hexact.staReorderRelease_isSome
      (releaseSafe_of_unmarked hz jiffies hfresh.filtered))
  obtain ⟨n, released, timer, _, hstate, rfl, rfl, hjust⟩ :=
    staReorderRelease_cases hidle.dvd hfresh.bufSize_pos hrelease
  have hzero : n = 0 := by
    by_contra hne
    have hready := hjust.1 hne
    simp [ready_eq, hfresh.filtered, hfresh.empty] at hready
  subst hzero
  have hsame : released = d.rx := by
    rcases hstate with ⟨_, rfl⟩ | ⟨_, rfl⟩ <;> simp
  subst hsame
  refine ⟨{ d with
    rx := { d.rx with reorderTimer := timer }
    position := unwrapSn d.position d.rx.headSeqNum d.rx.headSeqNum }, ?_, ?_⟩
  · simp [expire, hrelease]
  · exact ⟨⟨hfresh.bufSize_pos, hfresh.bufSize_le, hfresh.head_lt,
      hfresh.filtered, hfresh.empty, hfresh.stored, hfresh.not_started⟩,
      hidle.dvd, hidle.bufSize_ge, hidle.handed_nil, hidle.released_nil,
      hidle.buffered_nil⟩

theorem Idle.early_idle (hidle : d.Idle)
    (hless : ieee80211SnLess mpdu.sn (d.begin mpdu).rx.headSeqNum = true) :
    ∃ d', d.receive hz jiffies mpdu = some d' ∧ d'.Idle := by
  have hfresh := hidle.fresh
  have hearly : ieee80211StaManageReorderBuf hz jiffies d.rx (d.tag mpdu) =
      some (pickAutoSeq d.rx mpdu.sn, .handOn, []) := by
    have hsn : (d.tag mpdu).sn = mpdu.sn := rfl
    have hhead : ieee80211SnLess mpdu.sn
        (pickAutoSeq d.rx mpdu.sn).headSeqNum = true := hless
    simp [ieee80211StaManageReorderBuf, hsn, hhead, hfresh.not_started]
  have hlt : (pickAutoSeq d.rx mpdu.sn).headSeqNum < 4096 := by
    unfold pickAutoSeq
    split_ifs
    · exact getSn_lt _
    · exact hfresh.head_lt
  refine ⟨{ d with
    rx := pickAutoSeq d.rx mpdu.sn
    position := unwrapSn (d.base mpdu.sn)
      (pickAutoSeq d.rx mpdu.sn).headSeqNum
      (pickAutoSeq d.rx mpdu.sn).headSeqNum }, ?_, ?_⟩
  · have hrun : d.receive hz jiffies mpdu =
        (ieee80211StaManageReorderBuf hz jiffies d.rx (d.tag mpdu)).map _ :=
      rfl
    rw [hrun, hearly]
    simp [hfresh.not_started]
  · refine ⟨⟨?_, ?_, hlt, ?_, ?_, ?_, ?_⟩, ?_, ?_, hidle.handed_nil,
      hidle.released_nil, hidle.buffered_nil⟩ <;>
      simp [hfresh.bufSize_pos, hfresh.bufSize_le, hfresh.filtered,
        hfresh.empty, hfresh.stored, hfresh.not_started, hidle.dvd,
        hidle.bufSize_ge]

end Receive

def Good (d : Delivery α) : Prop :=
  d.Idle ∨ d.Sound

theorem Good.inOrderOnce {d : Delivery α} (hgood : d.Good) :
    d.InOrderOnce :=
  hgood.elim Idle.inOrderOnce Sound.inOrderOnce

/-- Every step of a good session returns, keeps it good and does not move a
started head back. -/
theorem Good.step {d : Delivery α} (hgood : d.Good) (hz : ℕ)
    (event : DeliveryEvent α) :
    ∃ d', d.step hz event = some d' ∧ d'.Good ∧
      (d.rx.started = true → d.position ≤ d'.position) := by
  rcases hgood with hidle | hsound
  · have hnot : d.rx.started ≠ true := by simp [hidle.fresh.not_started]
    cases event with
    | mpdu mpdu jiffies =>
        by_cases hless : ieee80211SnLess mpdu.sn
            (d.begin mpdu).rx.headSeqNum = true
        · obtain ⟨d', hstep, hidle'⟩ := hidle.early_idle hless
          exact ⟨d', hstep, Or.inl hidle', fun hstart => absurd hstart hnot⟩
        · obtain ⟨d', hstep, hsound', _⟩ :=
            receive_sound (hidle.begin_sound mpdu) fun hboth => hless hboth.2
          exact ⟨d', hstep, Or.inr hsound', fun hstart => absurd hstart hnot⟩
    | reorderTimer jiffies =>
        obtain ⟨d', hstep, hidle'⟩ := hidle.expire_idle
        exact ⟨d', hstep, Or.inl hidle', fun hstart => absurd hstart hnot⟩
  · cases event with
    | mpdu mpdu jiffies =>
        have hbegin := hsound.begin_eq mpdu
        obtain ⟨d', hstep, hsound', hle⟩ := receive_sound
          (hbegin.symm ▸ hsound : (d.begin mpdu).Sound) (by
            simp [hsound.started])
        rw [hbegin] at hle
        exact ⟨d', hstep, Or.inr hsound', fun _ => hle⟩
    | reorderTimer jiffies =>
        obtain ⟨d', hstep, hsound', hle⟩ := hsound.expire_sound
        exact ⟨d', hstep, Or.inr hsound', fun _ => hle⟩

theorem Good.run {d : Delivery α} (hgood : d.Good) (hz : ℕ)
    (events : List (DeliveryEvent α)) :
    ∃ d', d.run hz events = some d' ∧ d'.Good := by
  induction events generalizing d with
  | nil => exact ⟨d, rfl, hgood⟩
  | cons event events ih =>
      obtain ⟨next, hstep, hnext, _⟩ := hgood.step hz event
      obtain ⟨d', hrun, hgood'⟩ := ih hnext
      refine ⟨d', ?_, hgood'⟩
      rw [Delivery.run, List.foldlM_cons, hstep]
      exact hrun

end Delivery

/-- Every run of an admitted session with a buffer of at least two frames that
divides the sequence space returns, has delivered its frames in order and
once, and no further step moves the head of the started session back. -/
theorem delivery_inOrderOnce (hz : ℕ) {rx : TidAmpduRx (ℕ × α)}
    (hgranted : AdmittedSession rx) (hsize : 2 ≤ rx.bufSize)
    (hdvd : rx.bufSize ∣ 4096) (events : List (DeliveryEvent α)) :
    ∃ d, (Delivery.initial rx).run hz events = some d ∧ d.InOrderOnce ∧
      ∀ event, ∃ d', d.step hz event = some d' ∧
        (d.rx.started = true → d.position ≤ d'.position) := by
  have hinitial : (Delivery.initial rx).Good :=
    Or.inl ⟨hgranted.fresh, hdvd, hsize, rfl, rfl, rfl⟩
  obtain ⟨d, hrun, hgood⟩ := hinitial.run hz events
  refine ⟨d, hrun, hgood.inOrderOnce, fun event => ?_⟩
  obtain ⟨d', hstep, _, hle⟩ := hgood.step hz event
  exact ⟨d', hstep, hle⟩

/-- Two frames in the wrong order, across the wrap of the sequence space. -/
theorem delivery_inOrderOnce_wrap :
    ∃ d, (Delivery.initial (newTidAmpduRx (heRequest 4095 64) 64)).run 100
        [.mpdu ⟨0, ()⟩ 0, .mpdu ⟨16 * 4095, ()⟩ 1] = some d ∧
      d.InOrderOnce := by
  obtain ⟨d, hrun, hordered, _⟩ := delivery_inOrderOnce 100
    (@admitted_heRequest _ 4095 64 (by decide) (by decide) (by decide))
    (by decide) (by decide) [.mpdu ⟨0, ()⟩ 0, .mpdu ⟨16 * 4095, ()⟩ 1]
  exact ⟨d, hrun, hordered⟩

end IwlwifiStack
