import Mathlib
import IwlwifiStack.ConditionedRun

/-!
# Frames buffered for sleeping stations

The `bc_buf` queue of each AP interface and the `ps_tx_buf` and `tx_filtered`
queues of each station, with every function of `tx.c`, `sta_info.c`, `cfg.c`
and `iface.c` that changes `total_ps_buffered`.  `jiffies` is a natural number
that does not wrap, so `time_after` is the strict order.
-/

namespace IwlwifiStack

def totalMaxTxBuffer : ℕ := 512

def staMaxTxBuffer : ℕ := 64

def apMaxBcBuffer : ℕ := 128

/-- `enum ieee80211_ac_numbers`: VO, VI, BE, BK. -/
abbrev PsAc := Fin 4

/-- `ieee80211_tids_for_ac` -/
def tidsForAc (ac : PsAc) : ℕ := ![0xc0, 0x30, 0x09, 0x06] ac

/-- `ieee80211_ac_to_qos_mask` -/
def acToQosMask (ac : PsAc) : ℕ := ![1, 2, 8, 4] ac

/-- A frame: the interface it goes out on and when it was buffered. -/
structure PsFrame where
  dev : ℕ
  jiffies : ℕ
  deriving DecidableEq, Repr

/-- `struct ps_data` of an AP interface. -/
structure PsData where
  bcBuf : List PsFrame
  numStaPs : ℤ
  deriving DecidableEq, Repr

/-- A station of such an interface. -/
structure PsSta where
  bss : ℕ
  listenInterval : ℕ
  beaconInt : ℕ
  psSta : Bool
  psDriver : Bool
  psDeliver : Bool
  driverBufferedTids : ℕ
  txqBufferedTids : ℕ
  uapsdQueues : ℕ
  maxSp : ℕ
  txFiltered : PsAc → List PsFrame
  psTxBuf : PsAc → List PsFrame
  deriving DecidableEq

/-- `struct ieee80211_local`; `hz` is the jiffies of a second. -/
structure PsLocal where
  hz : ℕ
  hostBroadcastPsBuffering : Bool
  interfaces : List PsData
  staList : List PsSta
  totalPsBuffered : ℤ
  deriving DecidableEq

namespace PsSta

def setPsTxBuf (sta : PsSta) (ac : PsAc) (frames : List PsFrame) : PsSta :=
  { sta with psTxBuf := Function.update sta.psTxBuf ac frames }

def setTxFiltered (sta : PsSta) (ac : PsAc) (frames : List PsFrame) : PsSta :=
  { sta with txFiltered := Function.update sta.txFiltered ac frames }

def asleep (sta : PsSta) : Bool := sta.psSta || sta.psDriver || sta.psDeliver

end PsSta

/-! ## The purge -/

/-- The inner loop of `purge_old_ps_buffers` over the access categories left,
with the frames it counts. -/
def purgeAcs (sta : PsSta) : List PsAc → PsSta × ℕ
  | [] => (sta, 0)
  | ac :: acs =>
      match sta.psTxBuf ac with
      | [] => purgeAcs sta acs
      | _ :: frames => (sta.setPsTxBuf ac frames, frames.length)

def purgeSta (sta : PsSta) : PsSta × ℕ := purgeAcs sta (List.finRange 4).reverse

def purgeBc (ps : PsData) : PsData := { ps with bcBuf := ps.bcBuf.tail }

namespace PsLocal

/-- `purge_old_ps_buffers` -/
def purgeOldPsBuffers (loc : PsLocal) : PsLocal :=
  { loc with
    interfaces := loc.interfaces.map purgeBc
    staList := loc.staList.map fun sta => (purgeSta sta).1
    totalPsBuffered :=
      (loc.interfaces.map fun ps => ((purgeBc ps).bcBuf.length : ℤ)).sum +
        (loc.staList.map fun sta => ((purgeSta sta).2 : ℤ)).sum }

def makeRoom (loc : PsLocal) : PsLocal :=
  if totalMaxTxBuffer ≤ loc.totalPsBuffered then loc.purgeOldPsBuffers else loc

def setInterface (loc : PsLocal) (index : ℕ) (ps : PsData) : PsLocal :=
  { loc with interfaces := loc.interfaces.set index ps }

def setSta (loc : PsLocal) (index : ℕ) (sta : PsSta) : PsLocal :=
  { loc with staList := loc.staList.set index sta }

def addTotal (loc : PsLocal) (change : ℤ) : PsLocal :=
  { loc with totalPsBuffered := loc.totalPsBuffered + change }

/-! ## Buffering -/

/-- A queue that drops its oldest frame at its limit, and the change of the
total. -/
def pushLimited (limit : ℕ) (queue : List PsFrame) (frame : PsFrame) :
    List PsFrame × ℤ :=
  if limit ≤ queue.length then (queue.tail ++ [frame], 0)
  else (queue ++ [frame], 1)

/-- `ieee80211_tx_h_multicast_ps_buf`; `unbuffered` are ordered frames and probe
requests.  No result means that the frame is sent. -/
def multicastPsBuf (loc : PsLocal) (index : ℕ) (unbuffered : Bool)
    (frame : PsFrame) : Option PsLocal :=
  match loc.interfaces[index]? with
  | none => none
  | some ps =>
      if unbuffered then none
      else if ps.numStaPs = 0 ∧ ps.bcBuf = [] then none
      else if !loc.hostBroadcastPsBuffering then none
      else
        let loc := loc.makeRoom
        match loc.interfaces[index]? with
        | none => none
        | some ps =>
            let pushed := pushLimited apMaxBcBuffer ps.bcBuf frame
            some ((loc.setInterface index { ps with bcBuf := pushed.1 }).addTotal
              pushed.2)

/-- `ieee80211_tx_h_unicast_ps_buf`; `unbuffered` are frames marked
`IEEE80211_TX_CTL_NO_PS_BUFFER` and management frames that are not bufferable,
`woken` tells that the station woke up before its lock was taken. -/
def unicastPsBuf (loc : PsLocal) (index : ℕ) (ac : PsAc) (unbuffered woken : Bool)
    (frame : PsFrame) : PsLocal × Bool :=
  match loc.staList[index]? with
  | none => (loc, false)
  | some sta =>
      if !sta.asleep || unbuffered then (loc, false)
      else
        let loc := loc.makeRoom
        if woken then (loc, false)
        else
          match loc.staList[index]? with
          | none => (loc, false)
          | some sta =>
              let pushed := pushLimited staMaxTxBuffer (sta.psTxBuf ac) frame
              ((loc.setSta index (sta.setPsTxBuf ac pushed.1)).addTotal pushed.2,
                true)

/-- The queue part of `ieee80211_handle_filtered_frame`. -/
def handleFilteredFrame (loc : PsLocal) (index : ℕ) (ac : PsAc)
    (frame : PsFrame) : PsLocal :=
  match loc.staList[index]? with
  | none => loc
  | some sta =>
      if sta.psSta ∧ (sta.txFiltered ac).length < staMaxTxBuffer then
        loc.setSta index (sta.setTxFiltered ac (sta.txFiltered ac ++ [frame]))
      else loc

end PsLocal

/-! ## Delivery -/

/-- The variables of `ieee80211_sta_ps_get_frames`. -/
structure PsGet where
  sta : PsSta
  total : ℤ
  frames : List PsFrame
  driverReleaseTids : ℕ

namespace PsGet

/-- The loop over one access category, with the frames still wanted. -/
def fromAc (ac : PsAc) : ℕ → PsGet → PsGet × ℕ
  | 0, get => (get, 0)
  | nFrames + 1, get =>
      match get.sta.txFiltered ac with
      | frame :: rest =>
          fromAc ac nFrames
            { get with
              sta := get.sta.setTxFiltered ac rest
              frames := get.frames ++ [frame] }
      | [] =>
          match get.sta.psTxBuf ac with
          | frame :: rest =>
              fromAc ac nFrames
                { get with
                  sta := get.sta.setPsTxBuf ac rest
                  total := get.total - 1
                  frames := get.frames ++ [frame] }
          | [] => (get, nFrames + 1)

/-- `ieee80211_sta_ps_get_frames` over the access categories left. -/
def fromAcs (ignoredAcs : ℕ) : List PsAc → ℕ → PsGet → PsGet
  | [], _, get => get
  | ac :: acs, nFrames, get =>
      if ignoredAcs &&& acToQosMask ac ≠ 0 then
        fromAcs ignoredAcs acs nFrames get
      else
        let get :=
          if get.frames = [] then
            { get with
              driverReleaseTids := get.driverReleaseTids |||
                get.sta.driverBufferedTids &&& tidsForAc ac |||
                get.sta.txqBufferedTids &&& tidsForAc ac }
          else get
        let got :=
          if get.driverReleaseTids = 0 then fromAc ac nFrames get
          else (get, nFrames)
        if got.1.sta.txFiltered ac ≠ [] ∨ got.1.sta.psTxBuf ac ≠ [] then got.1
        else fromAcs ignoredAcs acs got.2 got.1

end PsGet

namespace PsLocal

/-- `ieee80211_sta_ps_deliver_response`: the frames that are sent. -/
def deliverResponse (loc : PsLocal) (index nFrames ignoredAcs : ℕ) :
    PsLocal × List PsFrame :=
  match loc.staList[index]? with
  | none => (loc, [])
  | some sta =>
      let got := PsGet.fromAcs ignoredAcs (List.finRange 4) nFrames
        ⟨sta, loc.totalPsBuffered, [], 0⟩
      ({ loc.setSta index got.sta with totalPsBuffered := got.total },
        got.frames)

/-- `ieee80211_sta_ps_deliver_poll_response` -/
def deliverPollResponse (loc : PsLocal) (index : ℕ) : PsLocal × List PsFrame :=
  match loc.staList[index]? with
  | none => (loc, [])
  | some sta =>
      loc.deliverResponse index 1
        (if sta.uapsdQueues = 15 then 0 else sta.uapsdQueues)

/-- `ieee80211_sta_ps_deliver_uapsd` -/
def deliverUapsd (loc : PsLocal) (index : ℕ) : PsLocal × List PsFrame :=
  match loc.staList[index]? with
  | none => (loc, [])
  | some sta =>
      if sta.uapsdQueues = 0 then (loc, [])
      else
        let nFrames :=
          match sta.maxSp with
          | 1 => 2
          | 2 => 4
          | 3 => 6
          | 0 => 128
          | maxSp => maxSp
        loc.deliverResponse index nFrames (255 - sta.uapsdQueues)

def changeNumStaPs (loc : PsLocal) (index : ℕ) (change : ℤ) : PsLocal :=
  match loc.interfaces[index]? with
  | none => loc
  | some ps =>
      loc.setInterface index { ps with numStaPs := ps.numStaPs + change }

/-- `ieee80211_sta_ps_deliver_wakeup` -/
def deliverWakeup (loc : PsLocal) (index : ℕ) : PsLocal × List PsFrame :=
  match loc.staList[index]? with
  | none => (loc, [])
  | some sta =>
      let acs := List.finRange 4
      let buffered := (acs.map fun ac => ((sta.psTxBuf ac).length : ℤ)).sum
      let awake :=
        { sta with
          driverBufferedTids := 0
          txqBufferedTids := 0
          psDeliver := false
          txFiltered := fun _ => []
          psTxBuf := fun _ => [] }
      (((loc.setSta index awake).changeNumStaPs sta.bss (-1)).addTotal (-buffered),
        acs.flatMap fun ac => sta.txFiltered ac ++ sta.psTxBuf ac)

/-- `ieee80211_get_buffered_bc` while the DTIM allows it; `unprepared` counts
the frames that `ieee80211_tx_prepare` gives up first. -/
def getBufferedBc (loc : PsLocal) (index unprepared : ℕ) :
    PsLocal × List PsFrame :=
  match loc.interfaces[index]? with
  | none => (loc, [])
  | some ps =>
      ((loc.setInterface index
          { ps with bcBuf := ps.bcBuf.drop (unprepared + 1) }).addTotal
            (-(ps.bcBuf.take (unprepared + 1)).length),
        (ps.bcBuf.drop unprepared).take 1)

/-! ## Expiry and removal -/

/-- `sta_info_buffer_expired` -/
def bufferExpired (hz : ℕ) (sta : PsSta) (jiffies : ℕ) (frame : PsFrame) : Bool :=
  let timeout := max (sta.listenInterval * sta.beaconInt * 32 / 15625 * hz)
    (10 * hz)
  frame.jiffies + timeout < jiffies

/-- `sta_info_cleanup_expire_buffered_ac`, with the change of the total. -/
def cleanupExpireBufferedAc (hz jiffies : ℕ) (sta : PsSta) (ac : PsAc) :
    PsSta × ℤ :=
  let expired := bufferExpired hz sta jiffies
  ((sta.setTxFiltered ac ((sta.txFiltered ac).dropWhile expired)).setPsTxBuf ac
      ((sta.psTxBuf ac).dropWhile expired),
    -((sta.psTxBuf ac).takeWhile expired).length)

/-- `sta_info_cleanup_expire_buffered` over the access categories left. -/
def cleanupExpireBuffered (hz jiffies : ℕ) : List PsAc → PsSta → PsSta × ℤ
  | [], sta => (sta, 0)
  | ac :: acs, sta =>
      let first := cleanupExpireBufferedAc hz jiffies sta ac
      let rest := cleanupExpireBuffered hz jiffies acs first.1
      (rest.1, first.2 + rest.2)

/-- `sta_info_cleanup` -/
def staInfoCleanup (loc : PsLocal) (jiffies : ℕ) : PsLocal :=
  let cleaned := loc.staList.map
    (cleanupExpireBuffered loc.hz jiffies (List.finRange 4))
  { loc with
    staList := cleaned.map Prod.fst
    totalPsBuffered := loc.totalPsBuffered + (cleaned.map Prod.snd).sum }

/-- `__cleanup_single_sta` of a station that is off the list. -/
def cleanupSingleSta (loc : PsLocal) (index : ℕ) : PsLocal :=
  match loc.staList[index]? with
  | none => loc
  | some sta =>
      let acs := List.finRange 4
      let gone := { loc with staList := loc.staList.eraseIdx index }
      let counted := if sta.asleep then gone.changeNumStaPs sta.bss (-1) else gone
      counted.addTotal (-(acs.map fun ac => ((sta.psTxBuf ac).length : ℤ)).sum)

/-- The purge of `ieee80211_stop_ap`. -/
def stopAp (loc : PsLocal) (index : ℕ) : PsLocal :=
  match loc.interfaces[index]? with
  | none => loc
  | some ps =>
      (loc.setInterface index { ps with bcBuf := [] }).addTotal (-ps.bcBuf.length)

/-- The frames of a VLAN interface that goes down. -/
def stopVlan (loc : PsLocal) (index dev : ℕ) : PsLocal :=
  match loc.interfaces[index]? with
  | none => loc
  | some ps =>
      (loc.setInterface index
          { ps with bcBuf := ps.bcBuf.filter fun frame => frame.dev ≠ dev }).addTotal
        (-(ps.bcBuf.filter fun frame => frame.dev = dev).length)

end PsLocal

/-! ## Runs -/

inductive PsEvent where
  | addInterface
  | addSta (bss listenInterval beaconInt uapsdQueues maxSp : ℕ)
  | setFlags (index : ℕ) (psSta psDriver psDeliver : Bool)
  | setTids (index driverBufferedTids txqBufferedTids : ℕ)
  | changeNumStaPs (index : ℕ) (change : ℤ)
  | multicast (index : ℕ) (unbuffered : Bool) (frame : PsFrame)
  | unicast (index : ℕ) (ac : PsAc) (unbuffered woken : Bool) (frame : PsFrame)
  | filtered (index : ℕ) (ac : PsAc) (frame : PsFrame)
  | pollResponse (index : ℕ)
  | uapsd (index : ℕ)
  | wakeup (index : ℕ)
  | bufferedBc (index unprepared : ℕ)
  | cleanup (jiffies : ℕ)
  | removeSta (index : ℕ)
  | stopAp (index : ℕ)
  | stopVlan (index dev : ℕ)
  deriving DecidableEq, Repr

namespace PsLocal

def newSta (bss listenInterval beaconInt uapsdQueues maxSp : ℕ) : PsSta where
  bss := bss
  listenInterval := listenInterval
  beaconInt := beaconInt
  psSta := false
  psDriver := false
  psDeliver := false
  driverBufferedTids := 0
  txqBufferedTids := 0
  uapsdQueues := uapsdQueues
  maxSp := maxSp
  txFiltered := fun _ => []
  psTxBuf := fun _ => []

def initial (hz : ℕ) (hostBroadcastPsBuffering : Bool) : PsLocal :=
  ⟨hz, hostBroadcastPsBuffering, [], [], 0⟩

/-- One operation, with the frames that go out. -/
def perform (loc : PsLocal) : PsEvent → PsLocal × List PsFrame
  | .addInterface => ({ loc with interfaces := loc.interfaces ++ [⟨[], 0⟩] }, [])
  | .addSta bss listenInterval beaconInt uapsdQueues maxSp =>
      ({ loc with
          staList := loc.staList ++
            [newSta bss listenInterval beaconInt uapsdQueues maxSp] }, [])
  | .setFlags index psSta psDriver psDeliver =>
      match loc.staList[index]? with
      | none => (loc, [])
      | some sta =>
          (loc.setSta index
            { sta with
              psSta := psSta
              psDriver := psDriver
              psDeliver := psDeliver }, [])
  | .setTids index driverBufferedTids txqBufferedTids =>
      match loc.staList[index]? with
      | none => (loc, [])
      | some sta =>
          (loc.setSta index
            { sta with
              driverBufferedTids := driverBufferedTids
              txqBufferedTids := txqBufferedTids }, [])
  | .changeNumStaPs index change => (loc.changeNumStaPs index change, [])
  | .multicast index unbuffered frame =>
      match loc.multicastPsBuf index unbuffered frame with
      | none => (loc, [frame])
      | some loc => (loc, [])
  | .unicast index ac unbuffered woken frame =>
      let buffered := loc.unicastPsBuf index ac unbuffered woken frame
      (buffered.1, if buffered.2 then [] else [frame])
  | .filtered index ac frame => (loc.handleFilteredFrame index ac frame, [])
  | .pollResponse index => loc.deliverPollResponse index
  | .uapsd index => loc.deliverUapsd index
  | .wakeup index => loc.deliverWakeup index
  | .bufferedBc index unprepared => loc.getBufferedBc index unprepared
  | .cleanup jiffies => (loc.staInfoCleanup jiffies, [])
  | .removeSta index => (loc.cleanupSingleSta index, [])
  | .stopAp index => (loc.stopAp index, [])
  | .stopVlan index dev => (loc.stopVlan index dev, [])

def step (loc : PsLocal) (event : PsEvent) : Option (PsLocal × List PsFrame) :=
  some (loc.perform event)

end PsLocal

end IwlwifiStack
