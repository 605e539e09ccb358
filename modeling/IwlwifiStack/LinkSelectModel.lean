import Mathlib.Tactic

/-!
# Link selection of an MLO station

The grade of a link (`link.c`), the state of a pair of links and the choice of
the links to activate (`mlo.c`, `rfi.c`).  Two functions of cfg80211 that are
not in this source are parameters; the constants of `constants.h`, which a
debug build reads from its configuration, are fields of `MldConstants`.
-/

namespace IwlwifiStack

/-- `enum nl80211_band`; the bands the driver does not use are one case. -/
inductive Band
  | ghz2
  | ghz5
  | ghz6
  | other
  deriving DecidableEq, Repr

/-- `enum nl80211_chan_width`, in its order. -/
inductive ChanWidth
  | w20NoHt
  | w20
  | w40
  | w80
  | w80p80
  | w160
  | w5
  | w10
  | w1
  | w2
  | w4
  | w8
  | w16
  | w320
  deriving DecidableEq, Repr

def hweight16 (mask : BitVec 16) : ℕ :=
  (List.range 16).countP fun i => mask.getLsbD i

/-- What cfg80211 answers: `nl80211_chan_width_to_mhz` and
`ieee80211_frequency_to_channel`. -/
structure Cfg80211 where
  chanWidthToMhz : ChanWidth → ℤ
  frequencyToChannel : ℕ → ℕ

/-- `struct cfg80211_chan_def`: only subchannels of the width are punctured. -/
structure ChanDef (env : Cfg80211) where
  band : Band
  chanCenterFreq : ℕ
  width : ChanWidth
  centerFreq1 : ℕ
  punctured : BitVec 16
  punctured_le : 80 ≤ env.chanWidthToMhz width →
    (hweight16 punctured : ℤ) ≤ env.chanWidthToMhz width / 20

/-- Fields of `struct ieee80211_bss_conf`.  `signal` is in mBm; `bssLoad` is
the `channel_util` of a BSS load element of the right length. -/
structure BssConf (env : Cfg80211) where
  chandef : ChanDef env
  signal : ℤ
  bssLoad : Option (Fin 256)
  csaActive : Bool

structure MldPhy where
  width : ChanWidth
  channelLoadByUs : ℕ
  avgChannelLoadNotByUs : ℕ

structure MldLink where
  active : Bool
  chanCtx : Option MldPhy

structure RfiLutEntry where
  freq : ℕ
  channels : List (ℕ × ℕ)

structure RfiFreqTable where
  ddrTable : List RfiLutEntry
  dlvrTable : List RfiLutEntry

/-- The constants a debug build overrides. -/
structure MldConstants where
  autoEmlEnable : Bool
  highRssiThresh20 : ℤ
  highRssiThresh40 : ℤ
  highRssiThresh80 : ℤ
  highRssiThresh160 : ℤ
  enterEmlsrChanLoad : Option ℕ
  enterEmlsrUnequalBw : Bool

/-- The constants of a build without debug overrides. -/
def MldConstants.default : MldConstants :=
  ⟨true, -67, -64, -61, -58, none, false⟩

structure IwlMld where
  constants : MldConstants
  btIsActive : Bool
  rfiDdrSupported : Bool
  rfiDlvrSupported : Bool
  rfiTableReady : Bool
  rfiFwTable : Option RfiFreqTable
  numBeacons : ℕ
  lastMloScanStartTime : ℤ

inductive IfType
  | station
  | ap
  | other
  deriving DecidableEq, Repr

/-- Fields of `struct ieee80211_vif` and `struct iwl_mld_vif`. -/
structure MldVif (env : Cfg80211) where
  type : IfType
  p2p : Bool
  validLinks : BitVec 16
  dormantLinks : BitVec 16
  linkConf : ℕ → Option (BssConf env)
  link : ℕ → Option MldLink
  authorized : Bool
  emlsrSupported : Bool
  isCdb : Bool
  lowLatencyCauses : BitVec 8
  blockedReasons : BitVec 32

variable {env : Cfg80211}

namespace MldVif

def isMld (vif : MldVif env) : Bool :=
  decide (vif.validLinks ≠ 0)

def usableLinks (vif : MldVif env) : BitVec 16 :=
  vif.validLinks &&& ~~~vif.dormantLinks

/-- `ieee80211_vif_type_p2p(vif) == NL80211_IFTYPE_STATION`. -/
def isPlainStation (vif : MldVif env) : Bool :=
  decide (vif.type = .station) && !vif.p2p

def iwlMldVifHasEmlsrCap (vif : MldVif env) : Bool :=
  vif.authorized && vif.isPlainStation && vif.isMld && vif.emlsrSupported &&
    !vif.isCdb

def iwlMldMaxActiveLinks (mld : IwlMld) (vif : MldVif env) : ℕ :=
  if vif.type = .ap then mld.numBeacons
  else if vif.isPlainStation then 2
  else 1

end MldVif

/-! ## Channel load -/

def normalizePercentTo255 (percentage : ℕ) : ℕ :=
  percentage * 256 % 2 ^ 32 / 100

def iwlMldGetChanLoadByUs (link : Option MldLink) : ℕ :=
  match link with
  | none => 0
  | some mldLink =>
      if mldLink.active then
        match mldLink.chanCtx with
        | none => 0
        | some phy => phy.channelLoadByUs
      else 0

/-- `none` stands for the error of a missing BSS load element. -/
def iwlMldGetChanLoadByOthers (conf : BssConf env) (link : Option MldLink) :
    Option ℕ :=
  conf.bssLoad.map fun load =>
    let byUs := normalizePercentTo255 (iwlMldGetChanLoadByUs link)
    if byUs ≤ load.val then load.val - byUs else load.val

def iwlMldGetDefaultChanLoad (conf : BssConf env) : ℕ :=
  match conf.chandef.band with
  | .ghz2 => 30
  | .ghz5 => 15
  | .ghz6 => 0
  | .other => 0

def iwlMldGetChanLoad (conf : BssConf env) (link : Option MldLink) : ℕ :=
  match iwlMldGetChanLoadByOthers conf link with
  | some load => load
  | none => normalizePercentTo255 (iwlMldGetDefaultChanLoad conf)

def iwlMldGetAvailChanLoad (conf : BssConf env) (link : Option MldLink) : ℕ :=
  256 - iwlMldGetChanLoad conf link

/-! ## Grade of a link -/

/-- `rssi_to_grade_map`: low band, high bands, grade. -/
def rssiToGradeMap : List (ℤ × ℤ × ℕ) :=
  [(-85, -89, 172), (-83, -86, 344), (-82, -85, 516), (-80, -83, 688),
    (-77, -79, 1032), (-73, -76, 1376), (-70, -74, 1548), (-69, -72, 1720),
    (-65, -68, 2064), (-61, -66, 2294), (-58, -61, 2580), (-55, -58, 2868),
    (-46, -55, 3098), (-43, -54, 3442)]

def maxGrade : ℕ := 3442

def rssiOf (band : Band) (line : ℤ × ℤ × ℕ) : ℤ :=
  if band = .ghz2 then line.1 else line.2.1

/-- The grade of the first line the RSSI does not exceed. -/
def rssiGrade (band : Band) (linkRssi : ℤ) : ℕ :=
  match rssiToGradeMap.find? fun line => decide (linkRssi ≤ rssiOf band line)
    with
  | some line => line.2.2
  | none => maxGrade

/-- Millibel-milliwatts to decibel-milliwatts; division in C truncates. -/
def mbmToDbm (gain : ℤ) : ℤ :=
  gain.tdiv 100

/-- The RSSI after the 6 GHz correction; without one, the lowest line's. -/
def gradedRssi (band : Band) (signal : ℤ) : ℤ :=
  let dbm := mbmToDbm signal
  let linkRssi := if band = .ghz6 ∧ dbm ≠ 0 then dbm + 4 else dbm
  if linkRssi = 0 then (if band = .ghz2 then -85 else -89) else linkRssi

def iwlMldGetNSubchannels (chandef : ChanDef env) : ℕ :=
  let mhz := env.chanWidthToMhz chandef.width
  if mhz < 20 ∨ mhz > 320 then 1
  else if 80 ≤ mhz then
    ((mhz / 20 - hweight16 chandef.punctured) % 2 ^ 32).toNat
  else (mhz / 20).toNat

def iwlMldGetLinkGrade (conf : BssConf env) (link : Option MldLink) : ℕ :=
  if conf.chandef.band = .other then 0
  else
    let grade := rssiGrade conf.chandef.band
      (gradedRssi conf.chandef.band conf.signal)
    let loaded := grade * iwlMldGetAvailChanLoad conf link % 2 ^ 32 / 256
    loaded * iwlMldGetNSubchannels conf.chandef % 2 ^ 32

/-! ## State of a pair -/

/-- `struct iwl_mld_link_sel_data`; `grade` is a u16. -/
structure LinkSelData (env : Cfg80211) where
  linkId : ℕ
  chandef : ChanDef env
  signal : ℤ
  grade : ℕ

/-- Bits of `enum iwl_mld_emlsr_exit`. -/
inductive EmlsrExit
  | block
  | missedBeacon
  | failEntry
  | csa
  | equalBand
  | lowRssi
  | linkUsage
  | btCoex
  | chanLoad
  | rfi
  | fwRequest
  | invalid
  deriving DecidableEq, Repr

def EmlsrExit.mask : EmlsrExit → BitVec 32
  | .block => 0x1
  | .missedBeacon => 0x2
  | .failEntry => 0x4
  | .csa => 0x8
  | .equalBand => 0x10
  | .lowRssi => 0x20
  | .linkUsage => 0x40
  | .btCoex => 0x80
  | .chanLoad => 0x100
  | .rfi => 0x200
  | .fwRequest => 0x400
  | .invalid => 0x800

/-- The reason, where the condition is met. -/
def EmlsrExit.when (exit : EmlsrExit) (condition : Bool) : BitVec 32 :=
  if condition then exit.mask else 0

/-- The high threshold; 127 is `S8_MAX`. -/
def iwlMldGetEmlsrRssiThresh (mld : IwlMld) (chandef : ChanDef env) : ℤ :=
  if chandef.band = .other then 127
  else
    match chandef.width with
    | .w20NoHt | .w20 | .w320 => mld.constants.highRssiThresh20
    | .w40 => mld.constants.highRssiThresh40
    | .w80 => mld.constants.highRssiThresh80
    | .w160 => mld.constants.highRssiThresh160
    | _ => 127

def iwlMldEmlsrDisallowedWithLink (mld : IwlMld) (vif : MldVif env)
    (link : LinkSelData env) : BitVec 32 :=
  match vif.linkConf link.linkId with
  | none => EmlsrExit.invalid.mask
  | some conf =>
      EmlsrExit.btCoex.when
          (decide (link.chandef.band = .ghz2) && mld.btIsActive) |||
        EmlsrExit.lowRssi.when
          (decide (link.signal < iwlMldGetEmlsrRssiThresh mld link.chandef)) |||
        EmlsrExit.csa.when conf.csaActive

def iwlMldGetMinChanLoadThresh (mld : IwlMld) (phy : MldPhy) : ℕ :=
  match mld.constants.enterEmlsrChanLoad with
  | some load => load
  | none =>
      match phy.width with
      | .w320 | .w160 => 5
      | .w80 => 7
      | _ => 10

/-- The primary's load that two different widths require. -/
def unequalWidthsAllowed (ratio load : ℕ) : Bool :=
  match ratio with
  | 2 => decide (load > 25)
  | 4 => decide (load > 40)
  | 8 | 16 => decide (load > 50)
  | _ => false

def toU32 (value : ℤ) : ℕ :=
  (value % 2 ^ 32).toNat

/-- The place of a width in `enum nl80211_chan_width`. -/
def ChanWidth.place (width : ChanWidth) : ℕ :=
  [ChanWidth.w20NoHt, .w20, .w40, .w80, .w80p80, .w160, .w5, .w10, .w1, .w2,
    .w4, .w8, .w16, .w320].idxOf width

def iwlMldChannelLoadAllowsEmlsr (mld : IwlMld) (vif : MldVif env)
    (a b : LinkSelData env) : Bool :=
  match vif.link a.linkId with
  | none => false
  | some linkA =>
      if !linkA.active then false
      else
        match linkA.chanCtx with
        | none => false
        | some phy =>
            let load := phy.avgChannelLoadNotByUs
            if load < iwlMldGetMinChanLoadThresh mld phy then false
            else if vif.lowLatencyCauses ≠ 0 then true
            else if a.chandef.width.place ≤ b.chandef.width.place then true
            else if mld.constants.enterEmlsrUnequalBw then true
            else unequalWidthsAllowed
              (toU32 (env.chanWidthToMhz a.chandef.width) /
                toU32 (env.chanWidthToMhz b.chandef.width)) load

/-- Whether an entry that is in use names the channel. -/
def RfiLutEntry.interferes (entry : RfiLutEntry) (channel : ℕ × ℕ) : Bool :=
  entry.channels.any fun named => decide (named.1 ≠ 0) && named == channel

def iwlMldRfiDdrEmlsrAcceptLinkPair (mld : IwlMld) (table : RfiFreqTable)
    (channelA channelB : ℕ × ℕ) : Bool :=
  let rows := table.ddrTable.filter fun entry => decide (entry.freq ≠ 0)
  let nInterfering := rows.countP fun entry =>
    entry.interferes channelA || entry.interferes channelB
  !mld.rfiDdrSupported ||
    !(rows.any fun entry => entry.interferes channelA) ||
    !(rows.any fun entry => entry.interferes channelB) ||
    decide (nInterfering < 2)

/-- The loop of the source ends at the first free entry, and then accepts. -/
def iwlMldRfiDlvrEmlsrAcceptLinkPair (mld : IwlMld) (table : RfiFreqTable)
    (channelA channelB : ℕ × ℕ) : Bool :=
  let rows := table.dlvrTable.filter fun entry => decide (entry.freq ≠ 0)
  let hasFreeEntry := rows.any fun entry =>
    !entry.interferes channelA && !entry.interferes channelB
  !mld.rfiDlvrSupported || hasFreeEntry ||
    !(rows.any fun entry => entry.interferes channelA) ||
    !(rows.any fun entry => entry.interferes channelB)

/-- `PHY_BAND_*` of the firmware. -/
def iwlMldNl80211BandToFw : Band → ℕ
  | .ghz5 => 0
  | .ghz2 => 1
  | .ghz6 => 2
  | .other => 0

def rfiChannel (chandef : ChanDef env) : ℕ × ℕ :=
  (env.frequencyToChannel chandef.centerFreq1 % 256,
    iwlMldNl80211BandToFw chandef.band)

def iwlMldRfiEmlsrStateLinkPair (mld : IwlMld) (a b : ChanDef env) :
    BitVec 32 :=
  match mld.rfiFwTable with
  | none => 0
  | some table =>
      if !mld.rfiTableReady then 0
      else if iwlMldRfiDdrEmlsrAcceptLinkPair mld table (rfiChannel a)
          (rfiChannel b) &&
          iwlMldRfiDlvrEmlsrAcceptLinkPair mld table (rfiChannel a)
            (rfiChannel b) then 0
      else EmlsrExit.rfi.mask

/-- Two channels of 5 GHz with enough separation between them. -/
def farApart (a b : ChanDef env) : Bool :=
  let low := if a.chanCenterFreq > b.chanCenterFreq then b else a
  let high := if a.chanCenterFreq > b.chanCenterFreq then a else b
  let upperEdge :=
    toU32 (low.centerFreq1 + (env.chanWidthToMhz low.width).tdiv 2)
  let lowerEdge :=
    toU32 (high.centerFreq1 - (env.chanWidthToMhz high.width).tdiv 2)
  decide (a.band = .ghz5) && decide (upperEdge ≤ 5330) &&
    decide (lowerEdge ≥ 5490)

def iwlMldEmlsrPairState (mld : IwlMld) (vif : MldVif env)
    (a b : LinkSelData env) : BitVec 32 :=
  let primaryMask := iwlMldEmlsrDisallowedWithLink mld vif a
  let secondaryMask := iwlMldEmlsrDisallowedWithLink mld vif b
  if primaryMask ≠ 0 then primaryMask
  else if secondaryMask ≠ 0 then secondaryMask
  else
    EmlsrExit.equalBand.when (decide (a.chandef.band = b.chandef.band) &&
        !farApart a.chandef b.chandef) |||
      EmlsrExit.chanLoad.when (!iwlMldChannelLoadAllowsEmlsr mld vif a b) |||
      iwlMldRfiEmlsrStateLinkPair mld a.chandef b.chandef

/-! ## Selection -/

/-- "a is always primary": the two links after the swap of the source. -/
def emlsrOrder (a b : LinkSelData env) : LinkSelData env × LinkSelData env :=
  if b.grade > a.grade then (b, a) else (a, b)

/-- The combined grade, 0 when EMLSR is not allowed, and the primary. -/
def iwlMldGetEmlsrGrade (mld : IwlMld) (vif : MldVif env)
    (a b : LinkSelData env) : ℕ × ℕ :=
  let primary := (emlsrOrder a b).1
  let secondary := (emlsrOrder a b).2
  if iwlMldEmlsrPairState mld vif primary secondary ≠ 0 then
    (0, primary.linkId)
  else
    match vif.linkConf primary.linkId with
    | none => (0, primary.linkId)
    | some conf =>
        let load := iwlMldGetChanLoad conf (vif.link primary.linkId)
        ((primary.grade + secondary.grade * load % 2 ^ 32 / 256) % 2 ^ 32,
          primary.linkId)

/-- What `iwl_mld_set_link_sel_data` has gathered so far. -/
structure LinkSelScan (env : Cfg80211) where
  data : List (LinkSelData env)
  maxGrade : ℕ
  bestLinkIdx : ℕ

def linkSelData (conf : BssConf env) (link : Option MldLink) (linkId : ℕ) :
    LinkSelData env :=
  ⟨linkId, conf.chandef, mbmToDbm conf.signal,
    iwlMldGetLinkGrade conf link % 2 ^ 16⟩

def LinkSelScan.add (vif : MldVif env) (scan : LinkSelScan env) (linkId : ℕ) :
    LinkSelScan env :=
  if vif.usableLinks.getLsbD linkId then
    match vif.linkConf linkId with
    | none => scan
    | some conf =>
        let entry := linkSelData conf (vif.link linkId) linkId
        if scan.data.length = 0 ∨ entry.grade > scan.maxGrade then
          ⟨scan.data ++ [entry], entry.grade, scan.data.length⟩
        else { scan with data := scan.data ++ [entry] }
  else scan

/-- The loop over the `IEEE80211_MLD_MAX_NUM_LINKS` link ids. -/
def iwlMldSetLinkSelData (vif : MldVif env) : LinkSelScan env :=
  (List.range 15).foldl (LinkSelScan.add vif) ⟨[], 0, 0⟩

structure LinkSelection where
  newActive : BitVec 16
  newPrimary : ℕ
  maxGrade : ℕ
  deriving DecidableEq, Repr

def linkBit (linkId : ℕ) : BitVec 16 :=
  BitVec.ofNat 16 (2 ^ linkId)

theorem getLsbD_linkBit {linkId : ℕ} (hlt : linkId < 15) (i : ℕ) :
    (linkBit linkId).getLsbD i = decide (i = linkId) := by
  rw [linkBit, BitVec.getLsbD_ofNat, Nat.testBit_two_pow]
  by_cases heq : i = linkId
  · simp [heq]
    omega
  · have hne : linkId ≠ i := fun h => heq h.symm
    simp [heq, hne]

def LinkSelection.tryPair (mld : IwlMld) (vif : MldVif env)
    (selection : LinkSelection) (pair : LinkSelData env × LinkSelData env) :
    LinkSelection :=
  let combined := iwlMldGetEmlsrGrade mld vif pair.1 pair.2
  if combined.1 % 2 ^ 16 < selection.maxGrade then selection
  else ⟨linkBit pair.1.linkId ||| linkBit pair.2.linkId, combined.2,
    combined.1 % 2 ^ 16⟩

/-- The pairs in the order of the nested loop. -/
def linkPairs {α : Type*} : List α → List (α × α)
  | [] => []
  | a :: rest => rest.map (fun b => (a, b)) ++ linkPairs rest

/-- What lets the selection look at pairs at all. -/
def emlsrPossible (mld : IwlMld) (vif : MldVif env) (nData : ℕ) : Bool :=
  decide (vif.iwlMldMaxActiveLinks mld ≠ 1) && decide (nData ≠ 1) &&
    vif.iwlMldVifHasEmlsrCap && mld.constants.autoEmlEnable &&
    decide (vif.blockedReasons = 0)

/-- `_iwl_mld_select_links` at the boot time `now` in nanoseconds; `none` when
it returns without a choice. -/
def iwlMldSelectLinks (mld : IwlMld) (vif : MldVif env) (now : ℤ) :
    Option LinkSelection :=
  if !vif.authorized || decide (hweight16 vif.usableLinks ≤ 1) then none
  else if mld.lastMloScanStartTime < now - 5 * 10 ^ 9 then none
  else
    let scan := iwlMldSetLinkSelData vif
    match scan.data[scan.bestLinkIdx]? with
    | none => none
    | some best =>
        let single : LinkSelection := ⟨linkBit best.linkId, best.linkId,
          best.grade⟩
        if emlsrPossible mld vif scan.data.length then
          some ((linkPairs scan.data).foldl
            (LinkSelection.tryPair mld vif) single)
        else some single

end IwlwifiStack
