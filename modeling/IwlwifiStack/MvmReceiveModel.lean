import IwlwifiStack.MldBlockAck
import IwlwifiStack.WpaDecryptModel

/-!
# The receive path of iwlmvm

`iwl_mvm_is_dup`, `iwl_mvm_reorder` and `iwl_mvm_check_pn` on one receive
queue, in the order `iwl_mvm_rx_mpdu_mq` calls them.  The hardware splits
A-MSDUs, so a frame here may be a subframe; all subframes carry the packet
number of their MPDU.
-/

namespace IwlwifiStack

namespace Ieee80211Hdr

def hasRetry (hdr : Ieee80211Hdr) : Bool :=
  decide (hdr.frameControl / 2048 % 2 = 1)

/-- `ieee80211_is_nullfunc` or `ieee80211_is_qos_nullfunc`. -/
def isAnyNullfunc (hdr : Ieee80211Hdr) : Bool :=
  hdr.isData && (decide (hdr.stype = 4) || decide (hdr.stype = 12))

def isBackReq (hdr : Ieee80211Hdr) : Bool :=
  hdr.isCtl && decide (hdr.stype = 8)

def isDataPresent (hdr : Ieee80211Hdr) : Bool :=
  hdr.isData && decide (hdr.stype / 4 % 2 = 0)

/-- `ieee80211_get_tid`. -/
def tid (hdr : Ieee80211Hdr) : ℕ :=
  hdr.qosCtl % 16

end Ieee80211Hdr

/-- A frame as the hardware delivers it.  `mpdu` names the received MPDU it
was in; no code reads it. -/
structure MvmFrame where
  hdr : Ieee80211Hdr
  /-- The bytes behind the header. -/
  extiv : List UInt8
  decrypted : Bool
  desc : RxMpduDesc
  mpdu : ℕ
  deriving DecidableEq, Repr

namespace MvmFrame

def pn (frame : MvmFrame) : PacketNumber :=
  ccmpHdr2pn frame.extiv

def keyIdx (frame : MvmFrame) : ℕ :=
  (frame.extiv.getD 3 0).toNat / 64

end MvmFrame

/-- A frame with the flags of its `ieee80211_rx_status` the driver sets. -/
structure MvmSkb where
  frame : MvmFrame
  dupValidated : Bool
  allowSamePn : Bool
  pnValidated : Bool
  deriving DecidableEq, Repr

/-- `struct iwl_mvm_rxq_dup_data`. -/
structure RxqDupData where
  lastSeq : ℕ → ℕ
  lastSubFrame : ℕ → ℕ

/-- What `struct iwl_mvm_sta` holds for one receive queue: `ptk_pn` by key
index, then the numbers by TID. -/
structure MvmStaQueue where
  dupData : Option RxqDupData
  ptkPn : ℕ → Option (ℕ → PacketNumber)

/-! ## Duplicates -/

def RxqDupData.remember (dup : RxqDupData) (tid seqCtrl subFrameIdx : ℕ) :
    RxqDupData where
  lastSeq := Function.update dup.lastSeq tid seqCtrl
  lastSubFrame := Function.update dup.lastSubFrame tid subFrameIdx

/-- `none` when the frame is to be dropped; `IWL_MAX_TID_COUNT` is 8. -/
def iwlMvmIsDup (sta : MvmStaQueue) (frame : MvmFrame) :
    Option (MvmStaQueue × MvmSkb) :=
  let skb : MvmSkb := ⟨frame, false, false, false⟩
  match sta.dupData with
  | none => some (sta, skb)
  | some dup =>
      if frame.hdr.isCtl || frame.hdr.isAnyNullfunc || frame.hdr.isMulticast then
        some (sta, skb)
      else if frame.hdr.isDataQos && decide (frame.hdr.tid ≥ 8) then
        none
      else
        let tid := if frame.hdr.isDataQos then frame.hdr.tid else 8
        let idx := frame.desc.subframeIdx
        if frame.hdr.hasRetry && decide (dup.lastSeq tid = frame.hdr.seqCtrl) &&
            decide (dup.lastSubFrame tid ≥ idx) then
          none
        else
          some
            ({ sta with
                dupData := some (dup.remember tid frame.hdr.seqCtrl idx) },
              { skb with
                dupValidated := true
                -- the PN of the first subframe, for those that follow it
                allowSamePn := decide (dup.lastSeq tid = frame.hdr.seqCtrl) &&
                  decide (idx > dup.lastSubFrame tid) && frame.desc.amsdu })

/-! ## Packet numbers -/

/-- `none` for a nonzero return value. -/
def iwlMvmCheckPn (queue : ℕ) (sta : Option MvmStaQueue) (skb : MvmSkb) :
    Option (Option MvmStaQueue × MvmSkb) :=
  let hdr := skb.frame.hdr
  if !hdr.isData || hdr.isMulticast then
    some (sta, skb)
  else if !skb.frame.decrypted then
    some (sta, skb)
  else if queue = 0 then
    some (sta, skb)
  else
    match sta with
    | none => none
    | some sta =>
        let keyIdx := skb.frame.keyIdx
        match sta.ptkPn keyIdx with
        | none => none
        | some pns =>
            let tid := if hdr.isDataQos then hdr.tid else 0
            if tid ≥ 8 then
              none
            else
              let res := skb.frame.pn.memcmp (pns tid)
              if res < 0 then
                none
              else if res = 0 && !skb.allowSamePn then
                none
              else
                some
                  (some { sta with
                    ptkPn := Function.update sta.ptkPn keyIdx
                      (some (Function.update pns tid skb.frame.pn)) },
                    { skb with pnValidated := true })

/-! ## Reordering -/

section Reorder

variable {α : Type*}

def iwlMvmInitReorderBuffer (ssn : ℕ) : ℕ → DriverQueue α := fun _ =>
  { headSn := ssn, numStored := 0, valid := false, entries := fun _ => [] }

/-- `baidData` is the session found under the BAID of the descriptor, `sta`
the mask of the station's firmware ids. -/
def iwlMvmReorder (family9000 : Bool) (baidData : Option (BaidData α))
    (queue : ℕ) (sta : Option ℕ) (hdr : Ieee80211Hdr) (desc : RxMpduDesc)
    (skb : α) : ReorderResult × Option (BaidData α) × List α :=
  if family9000 then
    (.passSkb, baidData, [])
  -- IWL_RX_REORDER_DATA_INVALID_BAID
  else if desc.baid = 0x7f then
    (.passSkb, baidData, [])
  else
    match sta with
    | none => (.passSkb, baidData, [])
    | some staMask =>
        if !hdr.isBackReq && (!hdr.isDataQos || hdr.isMulticast) then
          (.passSkb, baidData, [])
        else if !hdr.isDataPresent then
          (.passSkb, baidData, [])
        else
          match baidData with
          | none => (.passSkb, none, [])
          | some ba =>
              if hdr.tid ≠ ba.tid || staMask &&& ba.staMask = 0 then
                (.passSkb, some ba, [])
              else
                let result :=
                  reorderInSession ba.bufSize (ba.queues queue) desc skb
                (result.1, some (ba.setQueue queue result.2.1), result.2.2)

def iwlMvmReleaseFramesFromNotif (ba : BaidData α) (queue nssn : ℕ) :
    BaidData α × List α :=
  let result := reorderReleaseFrames ba.bufSize (ba.queues queue) nssn
  (ba.setQueue queue result.1, result.2)

def iwlMvmDelBa (ba : BaidData α) (queue : ℕ) : BaidData α × List α :=
  let result := releaseAll ba.bufSize (ba.queues queue)
  (ba.setQueue queue result.1, result.2)

end Reorder

/-! ## One station on one queue -/

/-- The parts of the driver that do not change. -/
structure MvmConfig where
  queue : ℕ
  family9000 : Bool
  /-- The firmware ids of the station. -/
  staMask : ℕ

/-- The frames handed to mac80211, and what every later check depends on. -/
structure HandedFrames where
  sta : MvmStaQueue
  handed : List MvmSkb

/-- `iwl_mvm_pass_packet_to_mac80211`. -/
def HandedFrames.pass (queue : ℕ) (h : HandedFrames) (skb : MvmSkb) :
    HandedFrames :=
  match iwlMvmCheckPn queue (some h.sta) skb with
  | none => h
  | some (sta, skb) => ⟨sta.getD h.sta, h.handed ++ [skb]⟩

def HandedFrames.passAll (queue : ℕ) (h : HandedFrames) (skbs : List MvmSkb) :
    HandedFrames :=
  skbs.foldl (HandedFrames.pass queue) h

/-- A station with the block-ack session of one TID, the frames that came in,
and those handed on. -/
structure MvmRun where
  frames : HandedFrames
  session : Option (BaidData MvmSkb)
  arrived : List MvmFrame

/-- What happens to the station: a frame arrives, a session starts, the
firmware releases frames of the session, or the session is taken down. -/
inductive MvmEvent
  | mpdu (frame : MvmFrame)
  | start (baid tid staMask bufSize ssn : ℕ)
  | frameRelease (nssn : ℕ)
  | delBa

namespace MvmRun

def initial (sta : MvmStaQueue) : MvmRun where
  frames := ⟨sta, []⟩
  session := none
  arrived := []

/-- The session the descriptor names; those of other TIDs and stations are
turned away by `iwl_mvm_reorder` and left out. -/
def lookup (r : MvmRun) (desc : RxMpduDesc) : Option (BaidData MvmSkb) :=
  r.session.filter fun ba => decide (ba.baid = desc.baid)

/-- The frames `iwl_mvm_reorder` passes to mac80211, in order, and the session
after it. -/
def reorder (cfg : MvmConfig) (r : MvmRun) (skb : MvmSkb) :
    Option (BaidData MvmSkb) × List MvmSkb :=
  let result := iwlMvmReorder cfg.family9000 (r.lookup skb.frame.desc) cfg.queue
    (some cfg.staMask) skb.frame.hdr skb.frame.desc skb
  (if (r.lookup skb.frame.desc).isSome then result.2.1 else r.session,
    if result.1 = .passSkb then result.2.2 ++ [skb] else result.2.2)

/-- The frames of the session that the driver takes out of the buffer. -/
def releases (cfg : MvmConfig) (r : MvmRun) : MvmEvent →
    MvmStaQueue × Option (BaidData MvmSkb) × List MvmSkb
  | .mpdu frame =>
      match iwlMvmIsDup r.frames.sta frame with
      | none => (r.frames.sta, r.session, [])
      | some (sta, skb) => (sta, r.reorder cfg skb)
  | .start baid tid staMask bufSize ssn =>
      (r.frames.sta,
        some (r.session.getD
          ⟨baid, tid, staMask, bufSize, iwlMvmInitReorderBuffer ssn⟩),
        [])
  | .frameRelease nssn =>
      match r.session with
      | none => (r.frames.sta, none, [])
      | some ba =>
          let result := iwlMvmReleaseFramesFromNotif ba cfg.queue nssn
          (r.frames.sta, some result.1, result.2)
  | .delBa =>
      match r.session with
      | none => (r.frames.sta, none, [])
      -- what the teardown does not release is purged
      | some ba => (r.frames.sta, none, (iwlMvmDelBa ba cfg.queue).2)

def step (cfg : MvmConfig) (r : MvmRun) (event : MvmEvent) :
    Option (MvmRun × List MvmSkb) :=
  let released := r.releases cfg event
  some
    ({ frames := HandedFrames.passAll cfg.queue
        { r.frames with sta := released.1 } released.2.2
       session := released.2.1
       arrived := match event with
        | .mpdu frame => r.arrived ++ [frame]
        | _ => r.arrived },
      [])

end MvmRun

end IwlwifiStack
