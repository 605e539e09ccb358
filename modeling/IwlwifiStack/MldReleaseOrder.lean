import IwlwifiStack.MldBlockAck

/-!
# The order in which iwlmld hands up the frames of a session

Every frame carries its descriptor, its place on the unbounded line of sequence
numbers and its arrival index.  The firmware keeps frames and `nssn` within one
buffer size of the head; under this contract the frames leave a queue ordered
by sequence number and, within one number, by arrival.

Two groups of frames are outside of this: old frames, which are passed on
before the first frame of the window makes the buffer valid, and frames behind
a subframe that was passed on although its A-MSDU was not complete, because
the head does not move then.
-/

namespace IwlwifiStack

open ConditionedRun

/-- A frame with its place on the line of sequence numbers. -/
structure SessionFrame where
  desc : RxMpduDesc
  unwrapped : ℕ
  arrival : ℕ
  deriving DecidableEq, Repr

namespace SessionFrame

def Before (frame later : SessionFrame) : Prop :=
  frame.unwrapped < later.unwrapped ∨
    frame.unwrapped = later.unwrapped ∧ frame.arrival < later.arrival

instance (frame later : SessionFrame) : Decidable (frame.Before later) := by
  unfold Before
  infer_instance

end SessionFrame

/-! ## Runs -/

/-- A session with the unwrapped heads of its queues, the frames handed up
before a queue was valid, and those handed up since. -/
structure OrderRun where
  ba : BaidData SessionFrame
  position : ℕ → ℕ
  early : ℕ → List SessionFrame
  handed : ℕ → List SessionFrame
  arrivals : ℕ

namespace OrderRun

def initial (ba : BaidData SessionFrame) : OrderRun where
  ba := ba
  position := fun queue => 4096 + (ba.queues queue).headSn
  early := fun _ => []
  handed := fun _ => []
  arrivals := 0

/-- The head of a queue moved on to the head it has in `ba`. -/
def movePosition (r : OrderRun) (queue : ℕ) (ba : BaidData SessionFrame) :
    ℕ → ℕ :=
  Function.update r.position queue
    (r.position queue +
      ieee80211SnSub (ba.queues queue).headSn (r.ba.queues queue).headSn)

def arriving (r : OrderRun) (queue : ℕ) (desc : RxMpduDesc) :
    SessionFrame where
  desc := desc
  unwrapped := unwrapSn (r.position queue) (r.ba.queues queue).headSn desc.sn
  arrival := r.arrivals

/-- The frames `iwl_mld_reorder` releases go up first, then the frame itself
when it is passed. -/
def receive (r : OrderRun) (queue : ℕ) (sta : Option ℕ) (hdr : MpduHeader)
    (desc : RxMpduDesc) : OrderRun :=
  let frame := r.arriving queue desc
  let result := iwlMldReorder (some r.ba) queue sta hdr desc frame
  let ba := result.2.1.getD r.ba
  let out := result.2.2 ++ if result.1 = .passSkb then [frame] else []
  let valid := (ba.queues queue).valid
  { ba := ba
    position := r.movePosition queue ba
    early :=
      if valid then r.early
      else Function.update r.early queue (r.early queue ++ out)
    handed :=
      if valid then Function.update r.handed queue (r.handed queue ++ out)
      else r.handed
    arrivals := r.arrivals + 1 }

def handUp (r : OrderRun) (queue : ℕ)
    (result : BaidData SessionFrame × List SessionFrame) : OrderRun :=
  { r with
    ba := result.1
    position := r.movePosition queue result.1
    handed := Function.update r.handed queue (r.handed queue ++ result.2) }

/-- An MPDU comes without a frame: `receive` numbers the frames. -/
def step (r : OrderRun) : BaidEvent Unit → Option (OrderRun × List SessionFrame)
  | .mpdu queue sta hdr desc _ => some (r.receive queue sta hdr desc, [])
  | .frameRelease queue nssn =>
      some (r.handUp queue (iwlMldReleaseFramesFromNotif r.ba queue nssn), [])
  | .barFrameRelease numStations queue tid staId nssn =>
      some (r.handUp queue (iwlMldHandleBarFrameReleaseNotif numStations r.ba
        queue tid staId nssn), [])

/-- A QoS data frame of the session: the checks of `iwl_mld_reorder` before
the buffer is looked at. -/
structure OfSession (ba : BaidData SessionFrame) (sta : Option ℕ)
    (hdr : MpduHeader) (desc : RxMpduDesc) : Prop where
  known : ∃ staMask, sta = some staMask ∧ staMask &&& ba.staMask ≠ 0
  qos : hdr.isDataQos = true ∧ hdr.isMulticast = false ∧
    hdr.isDataPresent = true
  tid : hdr.tid = ba.tid
  baid : desc.baid = ba.baid

/-- The firmware's promise: a frame not marked old is in the window, and
`nssn` is at most one buffer size ahead of the head. -/
def FirmwareContract (r : OrderRun) : BaidEvent Unit → Prop
  | .mpdu queue sta hdr desc _ =>
      OfSession r.ba sta hdr desc ∧
        (desc.baOldSn = false →
          ieee80211SnSub desc.sn (r.ba.queues queue).headSn < r.ba.bufSize ∧
            ieee80211SnSub desc.nssn (r.ba.queues queue).headSn ≤
              r.ba.bufSize)
  | .frameRelease queue nssn =>
      ieee80211SnSub nssn (r.ba.queues queue).headSn ≤ r.ba.bufSize
  | .barFrameRelease _ queue _ _ nssn =>
      ieee80211SnSub nssn (r.ba.queues queue).headSn ≤ r.ba.bufSize

/-- No frame of the window is numbered below a subframe that was handed up
before the rest of its A-MSDU. -/
def NotOvertaken (r : OrderRun) : BaidEvent Unit → Prop
  | .mpdu queue _ _ desc _ =>
      desc.baOldSn = false →
        ∀ frame ∈ r.handed queue, frame.desc.completes = false →
          frame.unwrapped ≤ (r.arriving queue desc).unwrapped
  | _ => True

def CounterHolds (r : OrderRun) : BaidEvent Unit → Prop
  | .mpdu queue _ _ desc _ =>
      JoinsBuffer (r.ba.queues queue) desc →
        Multiset.card (storedIn r.ba.bufSize (r.ba.queues queue).entries) <
          65535
  | _ => True

def OrderContract (r : OrderRun) (event : BaidEvent Unit) : Prop :=
  r.FirmwareContract event ∧ r.NotOvertaken event ∧ r.CounterHolds event

/-- The frames a queue handed up are in order, and none stays behind the
head. -/
structure InOrder (r : OrderRun) : Prop where
  sorted : ∀ queue, (r.handed queue).Pairwise SessionFrame.Before
  none_behind : ∀ queue, ∀ slot < r.ba.bufSize,
    ∀ frame ∈ (r.ba.queues queue).entries slot,
      r.position queue ≤ frame.unwrapped
  position_head : ∀ queue,
    r.position queue % 4096 = (r.ba.queues queue).headSn % 4096
  unwraps : ∀ queue, ∀ frame ∈ r.handed queue,
    frame.unwrapped % 4096 = frame.desc.sn

end OrderRun

/-! ## The entries of one queue -/

section Entries

/-- Every stored frame is in the window, in the entry of its number, and an
entry keeps its frames in the order of arrival. -/
structure EntriesInWindow (bufSize position : ℕ)
    (entries : ℕ → List SessionFrame) : Prop where
  near : ∀ slot < bufSize, ∀ frame ∈ entries slot,
    position ≤ frame.unwrapped ∧ frame.unwrapped < position + bufSize ∧
      frame.unwrapped % bufSize = slot
  arrived : ∀ slot < bufSize,
    (entries slot).Pairwise fun frame later => frame.arrival < later.arrival

theorem mem_of_mem_update {α : Type*} {entries : ℕ → List α} {index slot : ℕ}
    {frame : α} (hframe : frame ∈ Function.update entries index [] slot) :
    frame ∈ entries slot := by
  by_cases heq : slot = index
  · simp [heq] at hframe
  · rwa [Function.update_of_ne heq] at hframe

namespace EntriesInWindow

variable {bufSize position : ℕ} {entries : ℕ → List SessionFrame}

theorem near_head (hwindow : EntriesInWindow bufSize position entries)
    (hpos : 0 < bufSize) {frame : SessionFrame}
    (hframe : frame ∈ entries (position % bufSize)) :
    frame.unwrapped = position := by
  obtain ⟨hle, hlt, hslot⟩ :=
    hwindow.near _ (Nat.mod_lt position hpos) frame hframe
  exact SlotRing.position_unique hle hlt le_rfl (by omega) hslot

theorem removeHead (hwindow : EntriesInWindow bufSize position entries) :
    EntriesInWindow bufSize (position + 1)
      (Function.update entries (position % bufSize) []) := by
  refine ⟨fun slot hslot frame hframe => ?_, fun slot hslot => ?_⟩
  · by_cases heq : slot = position % bufSize
    · simp [heq] at hframe
    · rw [Function.update_of_ne heq] at hframe
      obtain ⟨hle, hlt, hmod⟩ := hwindow.near slot hslot frame hframe
      have hne : frame.unwrapped ≠ position := by
        rintro rfl
        exact heq hmod.symm
      exact ⟨by omega, by omega, hmod⟩
  · by_cases heq : slot = position % bufSize
    · simp [heq]
    · rw [Function.update_of_ne heq]
      exact hwindow.arrived slot hslot

/-- What a walk from the head over `n` numbers releases and leaves. -/
structure Released (bufSize position n : ℕ)
    (entries after : ℕ → List SessionFrame) (out : List SessionFrame) :
    Prop where
  window : EntriesInWindow bufSize (position + n) after
  sorted : out.Pairwise SessionFrame.Before
  walked : ∀ frame ∈ out, frame.unwrapped < position + n ∧
    ∃ slot < bufSize, frame ∈ entries slot
  kept : ∀ slot < bufSize, ∀ frame ∈ after slot, frame ∈ entries slot

theorem walk (hwindow : EntriesInWindow bufSize position entries)
    (hpos : 0 < bufSize) (hdvd : bufSize ∣ 4096) (n : ℕ) {ssn : ℕ}
    (hssn : position % 4096 = ssn % 4096) :
    Released bufSize position n entries
      (walkEntries bufSize n ssn entries).1
      (walkEntries bufSize n ssn entries).2 := by
  induction n generalizing position ssn entries with
  | zero =>
      exact ⟨hwindow, .nil, fun _ hframe => absurd hframe List.not_mem_nil,
        fun _ _ _ hframe => hframe⟩
  | succ n ih =>
      have hslot : ssn % bufSize = position % bufSize := by
        rw [← Nat.mod_mod_of_dvd _ hdvd, ← hssn, Nat.mod_mod_of_dvd _ hdvd]
      have hrest := ih hwindow.removeHead
        (show (position + 1) % 4096 = ieee80211SnInc ssn % 4096 by
          rw [snInc_mod]; omega)
      have hhead : ∀ frame ∈ entries (position % bufSize),
          frame.unwrapped = position := fun _ => hwindow.near_head hpos
      simp only [walkEntries, hslot]
      refine ⟨?_, ?_, ?_, ?_⟩
      · have hwindow' := hrest.window
        rwa [add_assoc, add_comm 1] at hwindow'
      · refine List.pairwise_append.mpr ⟨?_, hrest.sorted, ?_⟩
        · refine (hwindow.arrived _ (Nat.mod_lt position hpos)).imp_of_mem ?_
          intro frame later hframe hlater harrival
          exact Or.inr ⟨by rw [hhead _ hframe, hhead _ hlater], harrival⟩
        · intro frame hframe later hlater
          obtain ⟨-, slot, hlt, hmem⟩ := hrest.walked later hlater
          have hnear := (hwindow.removeHead.near slot hlt later hmem).1
          refine Or.inl ?_
          rw [hhead _ hframe]
          omega
      · intro frame hframe
        rcases List.mem_append.mp hframe with hfirst | hlater
        · refine ⟨?_, position % bufSize, Nat.mod_lt _ hpos, hfirst⟩
          rw [hhead _ hfirst]
          omega
        · obtain ⟨hlt, slot, hslotlt, hmem⟩ := hrest.walked frame hlater
          refine ⟨by omega, slot, hslotlt, ?_⟩
          exact mem_of_mem_update hmem
      · intro slot hslotlt frame hframe
        exact mem_of_mem_update (hrest.kept slot hslotlt frame hframe)

end EntriesInWindow

end Entries

/-! ## One queue -/

theorem snSub_self (sn : ℕ) : ieee80211SnSub sn sn = 0 := by
  simp [ieee80211SnSub]

theorem moveDistance_eq_snSub {headSn nssn : ℕ}
    (hnear : ieee80211SnSub nssn headSn < 2048) :
    moveDistance headSn nssn = ieee80211SnSub nssn headSn := by
  rw [moveDistance_of_offset (add_snSub_mod nssn headSn) hnear.le,
    if_neg hnear.ne]

section Queue

/-- The buffer of a queue, its unwrapped head and what it handed up. -/
structure QueueInOrder (bufSize arrivals : ℕ)
    (buffer : DriverQueue SessionFrame) (position : ℕ)
    (handed : List SessionFrame) : Prop where
  head : position % 4096 = buffer.headSn % 4096
  counted : ∃ buffered released, QueueExact bufSize buffer buffered released
  window : EntriesInWindow bufSize position buffer.entries
  sorted : handed.Pairwise SessionFrame.Before
  before : ∀ frame ∈ handed, ∀ slot < bufSize,
    ∀ later ∈ buffer.entries slot, frame.Before later
  behind : ∀ frame ∈ handed,
    frame.unwrapped < position ∨ frame.desc.completes = false
  known : ∀ frame, (frame ∈ handed ∨
      ∃ slot < bufSize, frame ∈ buffer.entries slot) →
    frame.arrival < arrivals ∧ frame.unwrapped % 4096 = frame.desc.sn

/-- A frame of the window that has just arrived. -/
structure ArrivesInWindow (bufSize arrivals position : ℕ)
    (handed : List SessionFrame) (frame : SessionFrame) : Prop where
  near : position ≤ frame.unwrapped ∧ frame.unwrapped < position + bufSize
  unwraps : frame.unwrapped % 4096 = frame.desc.sn
  last : frame.arrival = arrivals
  not_overtaken : ∀ other ∈ handed, other.desc.completes = false →
    other.unwrapped ≤ frame.unwrapped

namespace QueueInOrder

variable {bufSize arrivals position : ℕ} {buffer : DriverQueue SessionFrame}
  {handed : List SessionFrame}

theorem release (hinv : QueueInOrder bufSize arrivals buffer position handed)
    (hpos : 0 < bufSize) (hdvd : bufSize ∣ 4096) (hsize : bufSize ≤ 1024)
    {nssn : ℕ} (hnssn : ieee80211SnSub nssn buffer.headSn ≤ bufSize) :
    QueueInOrder bufSize arrivals (reorderReleaseFrames bufSize buffer nssn).1
      (position + ieee80211SnSub nssn buffer.headSn)
      (handed ++ (reorderReleaseFrames bufSize buffer nssn).2) := by
  have hcounted : ∃ buffered released, QueueExact bufSize
      (reorderReleaseFrames bufSize buffer nssn).1 buffered released := by
    obtain ⟨buffered, released, hexact⟩ := hinv.counted
    exact ⟨_, _, hexact.release hpos nssn⟩
  have hreleased := hinv.window.walk hpos hdvd
    (ieee80211SnSub nssn buffer.headSn) hinv.head
  have hhead := add_snSub_mod nssn buffer.headSn
  have hposition := hinv.head
  simp only [reorderReleaseFrames, releaseWalk_eq,
    moveDistance_eq_snSub (show ieee80211SnSub nssn buffer.headSn < 2048 by
      omega)] at hcounted ⊢
  refine ⟨by simp only; omega, hcounted, hreleased.window, ?_, ?_, ?_, ?_⟩
  · refine List.pairwise_append.mpr ⟨hinv.sorted, hreleased.sorted, ?_⟩
    intro frame hframe later hlater
    obtain ⟨-, slot, hslot, hmem⟩ := hreleased.walked later hlater
    exact hinv.before frame hframe slot hslot later hmem
  · intro frame hframe slot hslot later hlater
    rcases List.mem_append.mp hframe with hold | hout
    · exact hinv.before frame hold slot hslot later
        (hreleased.kept slot hslot later hlater)
    · have hlt := (hreleased.walked frame hout).1
      have hnear := (hreleased.window.near slot hslot later hlater).1
      exact Or.inl (by omega)
  · intro frame hframe
    rcases List.mem_append.mp hframe with hold | hout
    · exact (hinv.behind frame hold).imp_left fun hlt => by omega
    · exact Or.inl (hreleased.walked frame hout).1
  · rintro frame (hframe | ⟨slot, hslot, hstored⟩)
    · rcases List.mem_append.mp hframe with hold | hout
      · exact hinv.known frame (Or.inl hold)
      · exact hinv.known frame (Or.inr (hreleased.walked frame hout).2)
    · exact hinv.known frame
        (Or.inr ⟨slot, hslot, hreleased.kept slot hslot frame hstored⟩)

theorem before_arriving
    (hinv : QueueInOrder bufSize arrivals buffer position handed)
    {frame : SessionFrame}
    (harrives : ArrivesInWindow bufSize arrivals position handed frame)
    {other : SessionFrame} (hother : other ∈ handed) :
    other.Before frame := by
  have harrival := (hinv.known other (Or.inl hother)).1
  have hle : other.unwrapped ≤ frame.unwrapped := by
    rcases hinv.behind other hother with hlt | hincomplete
    · exact hlt.le.trans harrives.near.1
    · exact harrives.not_overtaken other hother hincomplete
  rcases hle.lt_or_eq with hlt | heq
  · exact Or.inl hlt
  · exact Or.inr ⟨heq, by rw [harrives.last]; exact harrival⟩

theorem store (hinv : QueueInOrder bufSize arrivals buffer position handed)
    (hpos : 0 < bufSize) (hdvd : bufSize ∣ 4096) {frame : SessionFrame}
    (harrives : ArrivesInWindow bufSize arrivals position handed frame)
    (hroom : Multiset.card (storedIn bufSize buffer.entries) < 65535) :
    QueueInOrder bufSize (arrivals + 1)
      (storeSkb bufSize buffer frame.desc.sn frame) position handed := by
  have hmem : ∀ slot, ∀ other ∈
      (storeSkb bufSize buffer frame.desc.sn frame).entries slot,
      other ∈ buffer.entries slot ∨
        other = frame ∧ slot = frame.desc.sn % bufSize := by
    intro slot other hother
    by_cases heq : slot = frame.desc.sn % bufSize
    · subst heq
      rw [storeSkb_entries_self, List.mem_append, List.mem_singleton] at hother
      exact hother.imp_right fun h => ⟨h, rfl⟩
    · rw [storeSkb_entries_of_ne buffer frame heq] at hother
      exact Or.inl hother
  have hslot : frame.unwrapped % bufSize = frame.desc.sn % bufSize := by
    rw [← harrives.unwraps, Nat.mod_mod_of_dvd _ hdvd]
  refine ⟨hinv.head, ?_, ⟨?_, ?_⟩, hinv.sorted, ?_, hinv.behind, ?_⟩
  · obtain ⟨buffered, released, hexact⟩ := hinv.counted
    exact ⟨_, _, hexact.store hpos hroom frame.desc.sn frame⟩
  · intro slot hlt other hother
    rcases hmem slot other hother with hold | ⟨rfl, rfl⟩
    · exact hinv.window.near slot hlt other hold
    · exact ⟨harrives.near.1, harrives.near.2, hslot⟩
  · intro slot hlt
    have harrived := hinv.window.arrived slot hlt
    by_cases heq : slot = frame.desc.sn % bufSize
    · subst heq
      rw [storeSkb_entries_self]
      refine List.pairwise_append.mpr ⟨harrived, List.pairwise_singleton _ _, ?_⟩
      intro other hother later hlater
      rw [List.mem_singleton.mp hlater, harrives.last]
      exact (hinv.known other (Or.inr ⟨_, hlt, hother⟩)).1
    · rw [storeSkb_entries_of_ne buffer frame heq]
      exact harrived
  · intro other hother slot hlt later hlater
    rcases hmem slot later hlater with hold | ⟨rfl, -⟩
    · exact hinv.before other hother slot hlt later hold
    · exact hinv.before_arriving harrives hother
  · have hnext : ∀ other, (other ∈ handed ∨
        ∃ slot < bufSize, other ∈ buffer.entries slot) →
        other.arrival < arrivals + 1 ∧
          other.unwrapped % 4096 = other.desc.sn := fun other hother =>
      ⟨(hinv.known other hother).1.trans (Nat.lt_succ_self _),
        (hinv.known other hother).2⟩
    rintro other (hold | ⟨slot, hlt, hstored⟩)
    · exact hnext other (Or.inl hold)
    · rcases hmem slot other hstored with hold | ⟨rfl, -⟩
      · exact hnext other (Or.inr ⟨slot, hlt, hold⟩)
      · exact ⟨by rw [harrives.last]; exact Nat.lt_succ_self _,
          harrives.unwraps⟩

theorem stored_empty
    (hinv : QueueInOrder bufSize arrivals buffer position handed)
    (hzero : buffer.numStored = 0) {slot : ℕ} (hslot : slot < bufSize) :
    buffer.entries slot = [] := by
  obtain ⟨_, _, hexact⟩ := hinv.counted
  have hcard := hexact.counted
  rw [hzero] at hcard
  exact storedIn_eq_zero_iff.mp (Multiset.card_eq_zero.mp hcard.symm) slot hslot

theorem pass (hinv : QueueInOrder bufSize arrivals buffer position handed)
    (hzero : buffer.numStored = 0) {frame : SessionFrame}
    (harrives : ArrivesInWindow bufSize arrivals position handed frame)
    {after : DriverQueue SessionFrame} {position' : ℕ}
    (hentries : after.entries = buffer.entries)
    (hstored : after.numStored = buffer.numStored)
    (hhead : position' % 4096 = after.headSn % 4096)
    (hle : position ≤ position')
    (hbehind : frame.unwrapped < position' ∨ frame.desc.completes = false) :
    QueueInOrder bufSize (arrivals + 1) after position' (handed ++ [frame]) := by
  have hempty : ∀ slot < bufSize, after.entries slot = [] := fun slot hslot => by
    rw [hentries]
    exact hinv.stored_empty hzero hslot
  refine ⟨hhead, ?_, ⟨?_, ?_⟩, ?_, ?_, ?_, ?_⟩
  · obtain ⟨buffered, released, hexact⟩ := hinv.counted
    exact ⟨_, _, hexact.congr hentries hstored⟩
  · intro slot hslot other hother
    simp [hempty slot hslot] at hother
  · intro slot hslot
    simp [hempty slot hslot]
  · refine List.pairwise_append.mpr
      ⟨hinv.sorted, List.pairwise_singleton _ _, ?_⟩
    intro other hother later hlater
    rw [List.mem_singleton.mp hlater]
    exact hinv.before_arriving harrives hother
  · intro _ _ slot hslot later hlater
    simp [hempty slot hslot] at hlater
  · intro other hother
    rcases List.mem_append.mp hother with hold | hnew
    · exact (hinv.behind other hold).imp_left fun hlt => by omega
    · rw [List.mem_singleton.mp hnew]
      exact hbehind
  · rintro other (hother | ⟨slot, hslot, hlater⟩)
    · rcases List.mem_append.mp hother with hold | hnew
      · have hknown := hinv.known other (Or.inl hold)
        exact ⟨by omega, hknown.2⟩
      · rw [List.mem_singleton.mp hnew]
        exact ⟨by rw [harrives.last]; exact Nat.lt_succ_self _,
          harrives.unwraps⟩
    · simp [hempty slot hslot] at hlater

theorem moveHead (hinv : QueueInOrder bufSize arrivals buffer position handed)
    {headSn position' : ℕ} (hhead : position' % 4096 = headSn % 4096)
    (hle : position ≤ position')
    (hahead : ∀ slot < bufSize, ∀ frame ∈ buffer.entries slot,
      position' ≤ frame.unwrapped) :
    QueueInOrder bufSize arrivals { buffer with headSn := headSn } position'
      handed := by
  refine ⟨hhead, ?_, ⟨?_, hinv.window.arrived⟩, hinv.sorted, hinv.before, ?_,
    hinv.known⟩
  · obtain ⟨buffered, released, hexact⟩ := hinv.counted
    exact ⟨_, _, hexact.congr rfl rfl⟩
  · intro slot hslot frame hframe
    obtain ⟨-, hlt, hmod⟩ := hinv.window.near slot hslot frame hframe
    exact ⟨hahead slot hslot frame hframe, by omega, hmod⟩
  · intro frame hframe
    exact (hinv.behind frame hframe).imp_left fun hlt => by omega

theorem snLess_window {sn nssn headSn : ℕ} (hsize : bufSize ≤ 1024)
    (hsn : ieee80211SnSub sn headSn < bufSize)
    (hnssn : ieee80211SnSub nssn headSn ≤ bufSize) :
    ieee80211SnLess sn nssn = true ↔
      ieee80211SnSub sn headSn < ieee80211SnSub nssn headSn := by
  rw [snLess_iff_lt (add_snSub_mod sn headSn) (add_snSub_mod nssn headSn)
    (by omega) (by omega)]
  omega

theorem join (hinv : QueueInOrder bufSize arrivals buffer position handed)
    (hpos : 0 < bufSize) (hdvd : bufSize ∣ 4096) (hsize : bufSize ≤ 1024)
    {frame : SessionFrame}
    (harrives : ArrivesInWindow bufSize arrivals position handed frame)
    (hplace : frame.unwrapped =
      position + ieee80211SnSub frame.desc.sn buffer.headSn)
    (hnssn : ieee80211SnSub frame.desc.nssn buffer.headSn ≤ bufSize)
    (hjoins : JoinsBuffer buffer frame.desc)
    (hroom : Multiset.card (storedIn bufSize buffer.entries) < 65535) :
    QueueInOrder bufSize (arrivals + 1)
      (bufferSkb bufSize buffer frame.desc frame).1
      (position + ieee80211SnSub
        (bufferSkb bufSize buffer frame.desc frame).1.headSn buffer.headSn)
      (handed ++ (bufferSkb bufSize buffer frame.desc frame).2) := by
  have hstored := hinv.store hpos hdvd harrives hroom
  simp only [bufferSkb]
  split_ifs with _ hone
  · exact hstored.release hpos hdvd hsize hnssn
  · -- the only stored frame is this one, and it is not behind `nssn`
    have hzero : buffer.numStored = 0 := by
      obtain ⟨_, _, hexact⟩ := hinv.counted
      have hcounted := hexact.counted
      simp only [storeSkb] at hone
      omega
    have hnotless : ¬ ieee80211SnSub frame.desc.sn buffer.headSn <
        ieee80211SnSub frame.desc.nssn buffer.headSn := by
      have hnear := harrives.near.2
      rw [← snLess_window hsize (by omega) hnssn]
      exact fun hless => hjoins.2.2 ⟨hzero, Or.inl hless⟩
    rw [List.append_nil]
    refine hstored.moveHead ?_ (Nat.le_add_right _ _) ?_
    · have hhead := hinv.head
      have hoffset := add_snSub_mod frame.desc.nssn buffer.headSn
      simp only
      omega
    · intro slot hslot other hother
      have hother' : other = frame := by
        by_cases heq : slot = frame.desc.sn % bufSize
        · rw [heq, storeSkb_entries_self, hinv.stored_empty hzero
            (Nat.mod_lt _ hpos)] at hother
          simpa using hother
        · rw [storeSkb_entries_of_ne buffer frame heq,
            hinv.stored_empty hzero hslot] at hother
          cases hother
      subst hother'
      simp only
      omega
  · rw [List.append_nil]
    have hhead : (storeSkb bufSize buffer frame.desc.sn frame).headSn =
        buffer.headSn := rfl
    rw [hhead, snSub_self, add_zero]
    exact hstored

end QueueInOrder

theorem bufferSkb_valid (bufSize : ℕ) (buffer : DriverQueue SessionFrame)
    (desc : RxMpduDesc) (skb : SessionFrame) :
    (bufferSkb bufSize buffer desc skb).1.valid = buffer.valid := by
  simp only [bufferSkb]
  split_ifs <;> rfl

def handedSince (handed : List SessionFrame) (frame : SessionFrame)
    (result : ReorderResult × DriverQueue SessionFrame × List SessionFrame) :
    List SessionFrame :=
  if result.2.1.valid then
    handed ++ (result.2.2 ++ if result.1 = .passSkb then [frame] else [])
  else handed

namespace QueueInOrder

variable {bufSize arrivals position : ℕ} {buffer : DriverQueue SessionFrame}
  {handed : List SessionFrame}

theorem validated
    (hinv : QueueInOrder bufSize arrivals buffer position handed) :
    QueueInOrder bufSize arrivals buffer.validated position handed := by
  refine ⟨hinv.head, ?_, ⟨hinv.window.near, hinv.window.arrived⟩, hinv.sorted,
    hinv.before, hinv.behind, hinv.known⟩
  obtain ⟨buffered, released, hexact⟩ := hinv.counted
  exact ⟨_, _, hexact.congr rfl rfl⟩

theorem later (hinv : QueueInOrder bufSize arrivals buffer position handed) :
    QueueInOrder bufSize (arrivals + 1) buffer position handed :=
  ⟨hinv.head, hinv.counted, hinv.window, hinv.sorted, hinv.before, hinv.behind,
    fun frame hframe => ⟨(hinv.known frame hframe).1.trans (Nat.lt_succ_self _),
      (hinv.known frame hframe).2⟩⟩

theorem reorder (hinv : QueueInOrder bufSize arrivals buffer position handed)
    (hpos : 0 < bufSize) (hdvd : bufSize ∣ 4096) (hsize : bufSize ≤ 1024)
    {desc : RxMpduDesc} {frame : SessionFrame}
    (hframe : frame =
      ⟨desc, unwrapSn position buffer.headSn desc.sn, arrivals⟩)
    (hcontract : desc.baOldSn = false →
      ieee80211SnSub desc.sn buffer.headSn < bufSize ∧
        ieee80211SnSub desc.nssn buffer.headSn ≤ bufSize)
    (hovertaken : desc.baOldSn = false → ∀ other ∈ handed,
      other.desc.completes = false → other.unwrapped ≤ frame.unwrapped)
    (hroom : JoinsBuffer buffer desc →
      Multiset.card (storedIn bufSize buffer.entries) < 65535) :
    QueueInOrder bufSize (arrivals + 1)
      (reorderInSession bufSize buffer desc frame).2.1
      (position + ieee80211SnSub
        (reorderInSession bufSize buffer desc frame).2.1.headSn buffer.headSn)
      (handedSince handed frame
        (reorderInSession bufSize buffer desc frame)) := by
  have harrives : desc.baOldSn = false →
      ArrivesInWindow bufSize arrivals position handed frame ∧
        frame.unwrapped = position + ieee80211SnSub desc.sn buffer.headSn := by
    intro hfresh
    have hsn := (hcontract hfresh).1
    have hplace : frame.unwrapped =
        position + ieee80211SnSub desc.sn buffer.headSn := by
      rw [hframe]
      exact unwrapSn_of_not_less (snLess_eq_false_iff.mpr (by omega))
    have hmod := add_snSub_mod desc.sn buffer.headSn
    have hhead := hinv.head
    have hlt := desc.sn_lt
    refine ⟨⟨by omega, ?_, by rw [hframe], hovertaken hfresh⟩, hplace⟩
    rw [hplace, hframe]
    simp only
    omega
  have hdesc : frame.desc = desc := by rw [hframe]
  have hcases := reorderInSession_cases bufSize buffer desc frame
  generalize reorderInSession bufSize buffer desc frame = result at hcases ⊢
  cases hcases with
  | early hvalid _ =>
      rw [snSub_self, add_zero, handedSince, hvalid]
      exact hinv.later
  | dropped _ =>
      have hhead : buffer.validated.headSn = buffer.headSn := rfl
      rw [hhead, snSub_self, add_zero]
      simpa [handedSince, DriverQueue.validated] using hinv.validated.later
  | ahead hfresh hzero hless =>
      obtain ⟨harrives, hplace⟩ := harrives hfresh
      obtain ⟨hsn, hnssn⟩ := hcontract hfresh
      have hlt := (snLess_window hsize hsn hnssn).mp hless
      have hhead := hinv.head
      have hoffset := add_snSub_mod desc.nssn buffer.headSn
      by_cases hcompletes : desc.completes = true
      · simp only [handedSince, hcompletes, if_true, List.nil_append,
          DriverQueue.validated]
        exact hinv.pass hzero harrives rfl rfl (by simp only; omega)
          (by omega) (Or.inl (by omega))
      · have hsame : buffer.validated.headSn = buffer.headSn := rfl
        simp only [handedSince, hcompletes, if_false, List.nil_append, hsame,
          snSub_self, add_zero, Bool.false_eq_true]
        exact hinv.pass hzero harrives rfl rfl hhead le_rfl
          (Or.inr (by simpa [hdesc] using hcompletes))
  | inOrder hfresh hzero hsame =>
      obtain ⟨harrives, hplace⟩ := harrives hfresh
      have hhead := hinv.head
      have hnext : ieee80211SnSub (ieee80211SnInc buffer.headSn)
          buffer.headSn = 1 :=
        snSub_eq_of_offset (by rw [snInc_mod]) (by norm_num)
      rw [hsame, snSub_self, add_zero] at hplace
      by_cases hcompletes : desc.completes = true
      · simp only [handedSince, hcompletes, if_true, List.nil_append,
          DriverQueue.validated, hnext]
        exact hinv.pass hzero harrives rfl rfl
          (by simp only [snInc_mod]; omega) (by omega) (Or.inl (by omega))
      · have hsame : buffer.validated.headSn = buffer.headSn := rfl
        simp only [handedSince, hcompletes, if_false, List.nil_append, hsame,
          snSub_self, add_zero, Bool.false_eq_true]
        exact hinv.pass hzero harrives rfl rfl hhead le_rfl
          (Or.inr (by simpa [hdesc] using hcompletes))
  | joined hjoins =>
      have hfresh := hjoins.2.1
      obtain ⟨harrives, hplace⟩ := harrives hfresh
      have hjoined := hinv.validated.join hpos hdvd hsize harrives
        (by rw [hdesc]; exact hplace) (by rw [hdesc]; exact (hcontract hfresh).2)
        (by rw [hdesc]; exact hjoins) (hroom hjoins)
      rw [hdesc] at hjoined
      have hvalid := bufferSkb_valid bufSize buffer.validated desc frame
      have hpass : ReorderResult.bufferedSkb ≠ .passSkb := by decide
      simp only [handedSince, hvalid, if_neg hpass, List.append_nil]
      exact hjoined

end QueueInOrder

end Queue

/-! ## All queues -/

theorem iwlMldReorder_ofSession {ba : BaidData SessionFrame} {sta : Option ℕ}
    {hdr : MpduHeader} {desc : RxMpduDesc} (hbaid : ba.baid < 32)
    (hof : OrderRun.OfSession ba sta hdr desc) (queue : ℕ)
    (skb : SessionFrame) :
    iwlMldReorder (some ba) queue sta hdr desc skb =
      ((reorderInSession ba.bufSize (ba.queues queue) desc skb).1,
        some (ba.setQueue queue
          (reorderInSession ba.bufSize (ba.queues queue) desc skb).2.1),
        (reorderInSession ba.bufSize (ba.queues queue) desc skb).2.2) := by
  obtain ⟨staMask, rfl, hmask⟩ := hof.known
  obtain ⟨hqos, hmulticast, hpresent⟩ := hof.qos
  have hvalid : desc.baid ≠ 0x7f := by
    rw [hof.baid]
    omega
  simp [iwlMldReorder, hvalid, hqos, hmulticast, hpresent, hof.tid, hmask]

theorem OrderRun.receive_ofSession {r : OrderRun} {sta : Option ℕ}
    {hdr : MpduHeader} {desc : RxMpduDesc} (hbaid : r.ba.baid < 32)
    (hof : OrderRun.OfSession r.ba sta hdr desc) {queue : ℕ} :
    (r.receive queue sta hdr desc).ba =
        r.ba.setQueue queue (reorderInSession r.ba.bufSize
          (r.ba.queues queue) desc (r.arriving queue desc)).2.1 ∧
      (r.receive queue sta hdr desc).handed =
        Function.update r.handed queue
          (handedSince (r.handed queue) (r.arriving queue desc)
            (reorderInSession r.ba.bufSize (r.ba.queues queue) desc
              (r.arriving queue desc))) := by
  have hresult := iwlMldReorder_ofSession hbaid hof queue
    (r.arriving queue desc)
  simp only [OrderRun.receive, hresult, Option.getD_some, BaidData.setQueue,
    Function.update_self, handedSince, true_and]
  by_cases hvalid : (reorderInSession r.ba.bufSize (r.ba.queues queue) desc
      (r.arriving queue desc)).2.1.valid = true
  · rw [if_pos hvalid, if_pos hvalid]
  · rw [if_neg hvalid, if_neg hvalid, Function.update_eq_self]

/-- Every queue of the session is in order. -/
structure SessionInOrder (bufSize : ℕ) (r : OrderRun) : Prop where
  size : r.ba.bufSize = bufSize
  baid_lt : r.ba.baid < 32
  queues : ∀ queue, QueueInOrder bufSize r.arrivals (r.ba.queues queue)
    (r.position queue) (r.handed queue)

namespace SessionInOrder

variable {bufSize : ℕ} {r : OrderRun}

theorem initial {ba : BaidData SessionFrame} {ssn : ℕ} (hbaid : ba.baid < 32)
    (hqueues : ba.queues = iwlMldInitReorderBuffer ssn) :
    SessionInOrder ba.bufSize (OrderRun.initial ba) := by
  refine ⟨rfl, hbaid, fun queue => ?_⟩
  have hexact := (SessionExact.initial hqueues).2 queue
  have hempty : ∀ slot, (ba.queues queue).entries slot = [] := fun slot => by
    rw [hqueues]
    rfl
  refine ⟨?_, ⟨[], [], hexact⟩, ⟨?_, ?_⟩, .nil, ?_, ?_, ?_⟩
  · simp [OrderRun.initial]
  · intro slot _ frame hframe
    simp [OrderRun.initial, hempty] at hframe
  · intro slot _
    simp [OrderRun.initial, hempty]
  · intro frame hframe
    cases hframe
  · intro frame hframe
    cases hframe
  · rintro frame (hframe | ⟨slot, _, hframe⟩)
    · cases hframe
    · simp [OrderRun.initial, hempty] at hframe

theorem afterReceive (hinv : SessionInOrder bufSize r) (hpos : 0 < bufSize)
    (hdvd : bufSize ∣ 4096) (hsize : bufSize ≤ 1024) {queue : ℕ}
    {sta : Option ℕ} {hdr : MpduHeader} {desc : RxMpduDesc} {skb : Unit}
    (hcontract : r.OrderContract (.mpdu queue sta hdr desc skb)) :
    SessionInOrder bufSize (r.receive queue sta hdr desc) := by
  obtain ⟨⟨hof, hwindow⟩, hovertaken, hroom⟩ := hcontract
  have hsame := hinv.size
  subst hsame
  have hqueue := @QueueInOrder.reorder _ _ _ _ _ (hinv.queues queue) hpos
    hdvd hsize desc (r.arriving queue desc) rfl hwindow hovertaken hroom
  obtain ⟨hba, hhanded⟩ :=
    @OrderRun.receive_ofSession _ _ _ _ hinv.baid_lt hof queue
  refine ⟨by rw [hba]; rfl, by rw [hba]; exact hinv.baid_lt,
    fun queue' => ?_⟩
  have hposition : (r.receive queue sta hdr desc).position =
      r.movePosition queue (r.receive queue sta hdr desc).ba := rfl
  have harrivals : (r.receive queue sta hdr desc).arrivals = r.arrivals + 1 :=
    rfl
  rw [hposition, hhanded, hba, harrivals]
  by_cases heq : queue' = queue
  · subst heq
    simpa only [BaidData.setQueue, OrderRun.movePosition,
      Function.update_self] using hqueue
  · simpa only [BaidData.setQueue, OrderRun.movePosition,
      Function.update_of_ne heq] using (hinv.queues queue').later

theorem afterRelease (hinv : SessionInOrder bufSize r) (hpos : 0 < bufSize)
    (hdvd : bufSize ∣ 4096) (hsize : bufSize ≤ 1024) {queue nssn : ℕ}
    (hnssn : ieee80211SnSub nssn (r.ba.queues queue).headSn ≤ r.ba.bufSize) :
    SessionInOrder bufSize
      (r.handUp queue (iwlMldReleaseFramesFromNotif r.ba queue nssn)) := by
  have hsame := hinv.size
  subst hsame
  have hqueue := (hinv.queues queue).release hpos hdvd hsize hnssn
  have hhead : (reorderReleaseFrames r.ba.bufSize (r.ba.queues queue)
      nssn).1.headSn = nssn := rfl
  refine ⟨rfl, hinv.baid_lt, fun queue' => ?_⟩
  by_cases heq : queue' = queue
  · subst heq
    simpa only [OrderRun.handUp, iwlMldReleaseFramesFromNotif,
      BaidData.setQueue, OrderRun.movePosition, Function.update_self,
      hhead] using hqueue
  · simpa only [OrderRun.handUp, iwlMldReleaseFramesFromNotif,
      BaidData.setQueue, OrderRun.movePosition,
      Function.update_of_ne heq] using hinv.queues queue'

theorem handUp_nothing (hinv : SessionInOrder bufSize r) (queue : ℕ) :
    SessionInOrder bufSize (r.handUp queue (r.ba, [])) := by
  have hsame : r.handUp queue (r.ba, []) = r := by
    simp [OrderRun.handUp, OrderRun.movePosition, snSub_self]
  rw [hsame]
  exact hinv

theorem afterStep (hinv : SessionInOrder bufSize r) (hpos : 0 < bufSize)
    (hdvd : bufSize ∣ 4096) (hsize : bufSize ≤ 1024)
    {event : BaidEvent Unit} {after : OrderRun} {output : List SessionFrame}
    (hcontract : r.OrderContract event)
    (hstep : r.step event = some (after, output)) :
    SessionInOrder bufSize after := by
  cases event with
  | mpdu queue sta hdr desc skb =>
      cases hstep
      exact hinv.afterReceive hpos hdvd hsize hcontract
  | frameRelease queue nssn =>
      cases hstep
      exact hinv.afterRelease hpos hdvd hsize hcontract.1
  | barFrameRelease numStations queue tid staId nssn =>
      cases hstep
      unfold iwlMldHandleBarFrameReleaseNotif
      split_ifs
      · exact hinv.handUp_nothing queue
      · exact hinv.afterRelease hpos hdvd hsize hcontract.1

theorem inOrder (hinv : SessionInOrder bufSize r) : r.InOrder where
  sorted := fun queue => (hinv.queues queue).sorted
  none_behind := fun queue slot hslot frame hframe =>
    ((hinv.queues queue).window.near slot (hinv.size ▸ hslot) frame hframe).1
  position_head := fun queue => (hinv.queues queue).head
  unwraps := fun queue frame hframe =>
    ((hinv.queues queue).known frame (Or.inl hframe)).2

end SessionInOrder

/-! ## Delivery -/

theorem mldDelivery_inOrder
    {numRxBaSessions staMask tid ssn bufSize : ℕ} {allocates : Bool}
    {fwBaid : Option ℕ} {ba : BaidData SessionFrame}
    (hstart : iwlMldAmpduRxStart numRxBaSessions staMask tid ssn bufSize
      allocates fwBaid = some ba)
    (hdvd : bufSize ∣ 4096) (hsize : bufSize ≤ 1024) {r : OrderRun}
    (hreach : Reachable OrderRun.step OrderRun.OrderContract
      (OrderRun.initial ba) r) :
    r.InOrder := by
  obtain ⟨hbaid, -, rfl, hqueues⟩ := ampduRxStart_session hstart
  have hpos : 0 < ba.bufSize := Nat.pos_of_dvd_of_pos hdvd (by norm_num)
  have hinv : SessionInOrder ba.bufSize r :=
    hreach.invariant (SessionInOrder.initial hbaid hqueues)
      fun _ _ _ _ hgood hcontract hstep =>
        hgood.afterStep hpos hdvd hsize hcontract hstep
  exact hinv.inOrder

/-! ## Runs out of order -/

section OutOfOrder

def sessionMpdu (desc : RxMpduDesc) : BaidEvent Unit :=
  .mpdu 0 (some 1) (qosDataHeader 0) desc ()

def OrderRun.take (r : OrderRun) (desc : RxMpduDesc) : OrderRun :=
  r.receive 0 (some 1) (qosDataHeader 0) desc

theorem OrderRun.ofSession_granted {r : OrderRun} {desc : RxMpduDesc}
    (htid : r.ba.tid = 0) (hmask : r.ba.staMask = 1)
    (hbaid : desc.baid = r.ba.baid) :
    OrderRun.OfSession r.ba (some 1) (qosDataHeader 0) desc :=
  ⟨⟨1, rfl, by rw [hmask]; decide⟩, ⟨rfl, rfl, rfl⟩, htid.symm, hbaid⟩

/-- SN 1 waits for SN 0; both leave in order. -/
theorem mldDelivery_inOrder_two :
    (((OrderRun.initial (grantedSession 0 64)).take
      (wholeMpduDesc 0 1 0)).take (wholeMpduDesc 0 0 2)).InOrder := by
  refine @mldDelivery_inOrder 0 1 0 0 64 true (some 0) (grantedSession 0 64)
    rfl (by norm_num) (by norm_num) _
    (.after (.after .start (sessionMpdu (wholeMpduDesc 0 1 0)) []
      ⟨⟨OrderRun.ofSession_granted rfl rfl rfl, ?_⟩, ?_, ?_⟩ rfl)
      (sessionMpdu (wholeMpduDesc 0 0 2)) []
      ⟨⟨OrderRun.ofSession_granted rfl rfl rfl, ?_⟩, ?_, ?_⟩ rfl)
  · exact fun _ => by decide
  · exact fun _ _ hframe => nomatch hframe
  · exact fun _ => by decide +kernel
  · exact fun _ => by decide
  · exact fun _ _ hframe => nomatch hframe
  · exact fun _ => by decide +kernel

def oldMpduDesc (sn : ℕ) : RxMpduDesc :=
  { wholeMpduDesc 0 sn 0 with reorderData := 2 ^ 31 + sn * 4096 }

def subframeDesc (sn nssn : ℕ) : RxMpduDesc :=
  { wholeMpduDesc 0 sn nssn with amsdu := true }

/-- The state after `n` subframes of SN 1 that wait for SN 0. -/
structure Flooded (n : ℕ) (r : OrderRun) : Prop where
  session : r.ba.bufSize = 64 ∧ r.ba.baid = 0 ∧ r.ba.tid = 0 ∧
    r.ba.staMask = 1
  head : (r.ba.queues 0).headSn = 0
  position : r.position 0 = 4096
  counter : (r.ba.queues 0).numStored = n % 65536
  entry : ((r.ba.queues 0).entries 1).length = n
  behind : ∀ frame ∈ (r.ba.queues 0).entries 1, frame.unwrapped = 4097

theorem Flooded.next {n : ℕ} {r : OrderRun} (hflooded : Flooded n r) :
    Flooded (n + 1) (r.take (subframeDesc 1 0)) := by
  obtain ⟨⟨hsize, hbaid, htid, hmask⟩, hhead, hposition, hcounter, hentry,
    hbehind⟩ := hflooded
  obtain ⟨hba, -⟩ := @OrderRun.receive_ofSession r _ _
    (subframeDesc 1 0) (by omega)
    (OrderRun.ofSession_granted htid hmask (by rw [hbaid]; rfl)) 0
  have hreorder : reorderInSession 64 (r.ba.queues 0) (subframeDesc 1 0)
      (r.arriving 0 (subframeDesc 1 0)) =
        (.bufferedSkb, { storeSkb 64 (r.ba.queues 0).validated 1
          (r.arriving 0 (subframeDesc 1 0)) with headSn := 0 }, []) := by
    have hfields : (subframeDesc 1 0).baOldSn = false ∧
        (subframeDesc 1 0).duplicate = false ∧ (subframeDesc 1 0).sn = 1 ∧
          (subframeDesc 1 0).nssn = 0 ∧
            (subframeDesc 1 0).completes = false := by decide
    obtain ⟨hold, hdup, hsn, hnssn, hcompletes⟩ := hfields
    have hless : ieee80211SnLess 1 0 = false := by decide
    simp only [reorderInSession, bufferSkb, hold, hdup, hsn, hnssn, hcompletes,
      hless, hhead, DriverQueue.validated]
    split_ifs <;> simp_all [storeSkb]
  have hunwrapped : (r.arriving 0 (subframeDesc 1 0)).unwrapped = 4097 := by
    simp only [OrderRun.arriving, hposition, hhead]
    decide
  rw [hsize, hreorder] at hba
  refine ⟨?_, ?_, ?_, ?_, ?_, ?_⟩
  · rw [OrderRun.take, hba]
    exact ⟨hsize, hbaid, htid, hmask⟩
  · rw [OrderRun.take, hba]
    simp [BaidData.setQueue]
  · have hmove : (r.take (subframeDesc 1 0)).position =
        r.movePosition 0 (r.take (subframeDesc 1 0)).ba := rfl
    rw [hmove, OrderRun.take, hba]
    simp [OrderRun.movePosition, BaidData.setQueue, hposition, hhead, snSub_self]
  · rw [OrderRun.take, hba]
    simp only [BaidData.setQueue, Function.update_self, storeSkb,
      DriverQueue.validated, hcounter]
    omega
  · rw [OrderRun.take, hba]
    simp [BaidData.setQueue, storeSkb, DriverQueue.validated, hentry]
  · rw [OrderRun.take, hba]
    intro frame hframe
    simp only [BaidData.setQueue, Function.update_self, storeSkb,
      DriverQueue.validated, Nat.reduceMod, List.mem_append,
      List.mem_singleton] at hframe
    rcases hframe with hold | rfl
    · exact hbehind frame hold
    · exact hunwrapped

theorem Flooded.reachable (n : ℕ) :
    ∃ r, Reachable OrderRun.step OrderRun.FirmwareContract
        (OrderRun.initial (grantedSession 0 64)) r ∧ Flooded n r := by
  induction n with
  | zero =>
      refine ⟨_, .start, ⟨⟨rfl, rfl, rfl, rfl⟩, rfl, rfl, rfl, rfl, ?_⟩⟩
      intro frame hframe
      cases hframe
  | succ n ih =>
      obtain ⟨r, hreach, hflooded⟩ := ih
      obtain ⟨hsize, hbaid, htid, hmask⟩ := hflooded.session
      refine ⟨_, hreach.after (sessionMpdu (subframeDesc 1 0)) []
        ⟨OrderRun.ofSession_granted htid hmask
          (by rw [hbaid]; rfl), fun _ => ?_⟩ rfl, hflooded.next⟩
      rw [hflooded.head, hsize]
      decide

/-- After 65536 frames the counter is back at zero, and a later number passes
the frames that are stored. -/
theorem Flooded.passed {r : OrderRun} (hflooded : Flooded 65536 r) :
    ¬ (r.take (wholeMpduDesc 0 2 3)).InOrder := by
  intro horder
  obtain ⟨hsize, hbaid, htid, hmask⟩ := hflooded.session
  obtain ⟨hba, -⟩ := @OrderRun.receive_ofSession r _ _
    (wholeMpduDesc 0 2 3) (by omega)
    (OrderRun.ofSession_granted htid hmask (by rw [hbaid]; rfl)) 0
  have hreorder : reorderInSession 64 (r.ba.queues 0) (wholeMpduDesc 0 2 3)
      (r.arriving 0 (wholeMpduDesc 0 2 3)) =
        (.passSkb, { (r.ba.queues 0).validated with headSn := 3 }, []) := by
    have hfields : (wholeMpduDesc 0 2 3).baOldSn = false ∧
        (wholeMpduDesc 0 2 3).duplicate = false ∧
        (wholeMpduDesc 0 2 3).sn = 2 ∧ (wholeMpduDesc 0 2 3).nssn = 3 ∧
          (wholeMpduDesc 0 2 3).completes = true := by decide
    obtain ⟨hold, hdup, hsn, hnssn, hcompletes⟩ := hfields
    have hless : ieee80211SnLess 2 3 = true := by decide
    have hzero := hflooded.counter
    simp [reorderInSession, hold, hdup, hsn, hnssn, hcompletes, hless, hzero,
      DriverQueue.validated]
  rw [hsize, hreorder] at hba
  have hposition : (r.take (wholeMpduDesc 0 2 3)).position 0 = 4099 := by
    have hmove : (r.take (wholeMpduDesc 0 2 3)).position =
        r.movePosition 0 (r.take (wholeMpduDesc 0 2 3)).ba := rfl
    rw [hmove, OrderRun.take, hba]
    simp only [OrderRun.movePosition, BaidData.setQueue, Function.update_self,
      hflooded.position, hflooded.head]
    decide
  have hlength := hflooded.entry
  obtain ⟨frame, hframe⟩ := List.exists_mem_of_length_pos (by omega :
    0 < ((r.ba.queues 0).entries 1).length)
  have hkept : ((r.take (wholeMpduDesc 0 2 3)).ba.queues 0).entries 1 =
      (r.ba.queues 0).entries 1 := by
    rw [OrderRun.take, hba]
    simp [BaidData.setQueue, DriverQueue.validated]
  have hslot : 1 < (r.take (wholeMpduDesc 0 2 3)).ba.bufSize := by
    rw [OrderRun.take, hba]
    simp [BaidData.setQueue, hsize]
  have hnot := horder.none_behind 0 1 hslot frame (by rw [hkept]; exact hframe)
  rw [hposition, hflooded.behind frame hframe] at hnot
  omega

/-- Old frames that come before the first frame of the window, a frame behind
a subframe that was passed on, and 65536 stored frames. -/
theorem mldDelivery_outOfOrder :
    (∃ r, Reachable OrderRun.step OrderRun.FirmwareContract
        (OrderRun.initial (grantedSession 0 64)) r ∧
      ¬ (r.early 0 ++ r.handed 0).Pairwise fun frame later =>
        frame.unwrapped ≤ later.unwrapped) ∧
    (∃ r, Reachable OrderRun.step OrderRun.FirmwareContract
        (OrderRun.initial (grantedSession 3 64)) r ∧ r.early 0 = [] ∧
      ¬ (r.handed 0).Pairwise fun frame later =>
        frame.unwrapped ≤ later.unwrapped) ∧
    ∃ r, Reachable OrderRun.step OrderRun.FirmwareContract
        (OrderRun.initial (grantedSession 0 64)) r ∧ ¬ r.InOrder := by
  refine ⟨⟨((OrderRun.initial (grantedSession 0 64)).take
      (oldMpduDesc 10)).take (oldMpduDesc 9), ?_, by decide +kernel⟩,
    ⟨((OrderRun.initial (grantedSession 3 64)).take (subframeDesc 5 6)).take
      (wholeMpduDesc 0 4 6), ?_, by decide +kernel, by decide +kernel⟩, ?_⟩
  · refine .after (.after .start (sessionMpdu (oldMpduDesc 10)) []
      ⟨OrderRun.ofSession_granted rfl rfl rfl, ?_⟩ rfl)
      (sessionMpdu (oldMpduDesc 9)) []
      ⟨OrderRun.ofSession_granted rfl rfl rfl, ?_⟩ rfl
    · exact fun hfresh => absurd hfresh (by decide)
    · exact fun hfresh => absurd hfresh (by decide)
  · refine .after (.after .start (sessionMpdu (subframeDesc 5 6)) []
      ⟨OrderRun.ofSession_granted rfl rfl rfl, ?_⟩ rfl)
      (sessionMpdu (wholeMpduDesc 0 4 6)) []
      ⟨OrderRun.ofSession_granted rfl rfl rfl, ?_⟩ rfl
    · exact fun _ => by decide +kernel
    · exact fun _ => by decide +kernel
  · obtain ⟨r, hreach, hflooded⟩ := Flooded.reachable 65536
    obtain ⟨hsize, hbaid, htid, hmask⟩ := hflooded.session
    refine ⟨_, hreach.after (sessionMpdu (wholeMpduDesc 0 2 3)) []
      ⟨OrderRun.ofSession_granted htid hmask
        (by rw [hbaid]; rfl), fun _ => ?_⟩ rfl, hflooded.passed⟩
    rw [hflooded.head, hsize]
    decide

end OutOfOrder

end IwlwifiStack
