import IwlwifiStack.ElementSizes
import IwlwifiStack.TagLengthValue

/-!
# Parsing the elements of a frame

One pass of `_ieee802_11_parse_elems_full`.  A pointer is an address in the
list of elements it points into, with the bytes from there to the end of its
element.  The functions of cfg80211 and the CRC are parameters.
-/

namespace IwlwifiStack

open TagLengthValue

/-! ## Element IDs -/

@[match_pattern] abbrev wlanEidSsid : UInt8 := 0
@[match_pattern] abbrev wlanEidSuppRates : UInt8 := 1
@[match_pattern] abbrev wlanEidFhParams : UInt8 := 2
@[match_pattern] abbrev wlanEidDsParams : UInt8 := 3
@[match_pattern] abbrev wlanEidCfParams : UInt8 := 4
@[match_pattern] abbrev wlanEidTim : UInt8 := 5
@[match_pattern] abbrev wlanEidIbssParams : UInt8 := 6
@[match_pattern] abbrev wlanEidCountry : UInt8 := 7
@[match_pattern] abbrev wlanEidChallenge : UInt8 := 16
@[match_pattern] abbrev wlanEidPwrConstraint : UInt8 := 32
@[match_pattern] abbrev wlanEidChannelSwitch : UInt8 := 37
@[match_pattern] abbrev wlanEidErpInfo : UInt8 := 42
@[match_pattern] abbrev wlanEidHtCapability : UInt8 := 45
@[match_pattern] abbrev wlanEidRsn : UInt8 := 48
@[match_pattern] abbrev wlanEidExtSuppRates : UInt8 := 50
@[match_pattern] abbrev wlanEidTimeoutInterval : UInt8 := 56
@[match_pattern] abbrev wlanEidExtChanswitchAnn : UInt8 := 60
@[match_pattern] abbrev wlanEidHtOperation : UInt8 := 61
@[match_pattern] abbrev wlanEidSecondaryChannelOffset : UInt8 := 62
@[match_pattern] abbrev wlanEidMultipleBssid : UInt8 := 71
@[match_pattern] abbrev wlanEidNonTxBssidCap : UInt8 := 83
@[match_pattern] abbrev wlanEidMultiBssidIdx : UInt8 := 85
@[match_pattern] abbrev wlanEidBssMaxIdlePeriod : UInt8 := 90
@[match_pattern] abbrev wlanEidLinkId : UInt8 := 101
@[match_pattern] abbrev wlanEidChanSwitchTiming : UInt8 := 104
@[match_pattern] abbrev wlanEidMeshConfig : UInt8 := 113
@[match_pattern] abbrev wlanEidMeshId : UInt8 := 114
@[match_pattern] abbrev wlanEidPeerMgmt : UInt8 := 117
@[match_pattern] abbrev wlanEidChanSwitchParam : UInt8 := 118
@[match_pattern] abbrev wlanEidMeshAwakeWindow : UInt8 := 119
@[match_pattern] abbrev wlanEidRann : UInt8 := 126
@[match_pattern] abbrev wlanEidExtCapability : UInt8 := 127
@[match_pattern] abbrev wlanEidPreq : UInt8 := 130
@[match_pattern] abbrev wlanEidPrep : UInt8 := 131
@[match_pattern] abbrev wlanEidPerr : UInt8 := 132
@[match_pattern] abbrev wlanEidAddbaExt : UInt8 := 159
@[match_pattern] abbrev wlanEidVhtCapability : UInt8 := 191
@[match_pattern] abbrev wlanEidVhtOperation : UInt8 := 192
@[match_pattern] abbrev wlanEidWideBwChannelSwitch : UInt8 := 194
@[match_pattern] abbrev wlanEidTxPowerEnvelope : UInt8 := 195
@[match_pattern] abbrev wlanEidChannelSwitchWrapper : UInt8 := 196
@[match_pattern] abbrev wlanEidOpmodeNotif : UInt8 := 199
@[match_pattern] abbrev wlanEidAidResponse : UInt8 := 211
@[match_pattern] abbrev wlanEidS1gBcnCompat : UInt8 := 213
@[match_pattern] abbrev wlanEidS1gShortBcnInterval : UInt8 := 214
@[match_pattern] abbrev wlanEidS1gCapabilities : UInt8 := 217
@[match_pattern] abbrev wlanEidVendorSpecific : UInt8 := 221
@[match_pattern] abbrev wlanEidS1gOperation : UInt8 := 232
@[match_pattern] abbrev wlanEidFragment : UInt8 := 242
@[match_pattern] abbrev wlanEidRsnx : UInt8 := 244
@[match_pattern] abbrev wlanEidExtension : UInt8 := 255

/-! Extension IDs. -/

@[match_pattern] abbrev wlanEidExtHeCapability : UInt8 := 35
@[match_pattern] abbrev wlanEidExtHeOperation : UInt8 := 36
@[match_pattern] abbrev wlanEidExtUora : UInt8 := 37
@[match_pattern] abbrev wlanEidExtHeMuEdca : UInt8 := 38
@[match_pattern] abbrev wlanEidExtHeSpr : UInt8 := 39
@[match_pattern] abbrev wlanEidExtMaxChannelSwitchTime : UInt8 := 52
@[match_pattern] abbrev wlanEidExtMultipleBssidConfiguration : UInt8 := 55
@[match_pattern] abbrev wlanEidExtNonInheritance : UInt8 := 56
@[match_pattern] abbrev wlanEidExtHe6ghzCapa : UInt8 := 59
@[match_pattern] abbrev wlanEidExtEhtOperation : UInt8 := 106
@[match_pattern] abbrev wlanEidExtEhtMultiLink : UInt8 := 107
@[match_pattern] abbrev wlanEidExtEhtCapability : UInt8 := 108
@[match_pattern] abbrev wlanEidExtTidToLinkMapping : UInt8 := 109
@[match_pattern] abbrev wlanEidExtBandwidthIndication : UInt8 := 135
@[match_pattern] abbrev wlanEidExtUhrOper : UInt8 := 151
@[match_pattern] abbrev wlanEidExtUhrCapa : UInt8 := 152

/-! ## Elements and pointers -/

/-- The memory an element stands in: the body of the frame, the defragmented
basic multi-link element, or the copy of a nontransmitted or per-STA
profile. -/
inductive ElementOrigin where
  | frame | basicMl | profile
  deriving DecidableEq, Repr

structure Element extends Item where
  origin : ElementOrigin
  deriving DecidableEq, Repr

/-- `start` and `len` of a list of elements. -/
structure ElementBuf where
  origin : ElementOrigin
  start : ℕ
  octets : List UInt8
  deriving DecidableEq, Repr

/-- `for_each_element`. -/
def ElementBuf.elements (buf : ElementBuf) : List Element :=
  (items buf.start buf.octets).map fun item => { item with origin := buf.origin }

/-- A list that contains the whole element. -/
def Element.Within (elem : Element) (buf : ElementBuf) (after : List UInt8) :
    Prop :=
  elem.origin = buf.origin ∧ StandsIn elem.toItem buf.start buf.octets after

structure ElemPtr where
  origin : ElementOrigin
  address : ℕ
  octets : List UInt8
  deriving DecidableEq, Repr

def Element.header (elem : Element) : ElemPtr :=
  ⟨elem.origin, elem.offset, elem.toItem.octets⟩

def Element.pos (elem : Element) : ElemPtr :=
  ⟨elem.origin, elem.offset + 2, elem.data⟩

/-- Behind the extension ID. -/
def Element.extData (elem : Element) : ElemPtr :=
  ⟨elem.origin, elem.offset + 3, elem.data.tail⟩

/-- `pos` and `elen` as a list of elements. -/
def Element.subelements (elem : Element) : ElementBuf :=
  ⟨elem.origin, elem.offset + 2, elem.data⟩

/-! ## Parameters -/

inductive ConnMode where
  | s1g | legacy | ht | vht | he | eht | uhr
  deriving DecidableEq, Repr

def ConnMode.rank : ConnMode → ℕ
  | .s1g => 0
  | .legacy => 1
  | .ht => 2
  | .vht => 3
  | .he => 4
  | .eht => 5
  | .uhr => 6

/-- `struct cfg80211_bss` with the BSSID of its transmitting BSS. -/
structure CfgBss where
  bssid : List UInt8
  transmittedBss : Option (List UInt8)
  deriving DecidableEq

structure ElemsParseParams where
  mode : ConnMode
  buf : ElementBuf
  type : ℕ
  filter : ℕ
  crc : UInt32
  bss : Option CfgBss
  linkId : ℤ
  fromAp : Bool

/-- `IEEE80211_FTYPE_MGMT | IEEE80211_STYPE_ACTION`. -/
def ElemsParseParams.isAction (params : ElemsParseParams) : Bool :=
  params.type = 0xd0

/-- `IEEE80211_FTYPE_MGMT | IEEE80211_STYPE_BEACON`. -/
def ElemsParseParams.isBeacon (params : ElemsParseParams) : Bool :=
  params.type = 0x80

/-- What is taken from outside of mac80211. -/
structure ElemsLib where
  findElem : UInt8 → ElementBuf → Option Element
  findExtElem : UInt8 → ElementBuf → Option Element
  isElementInherited : Element → Element → Bool
  /-- The room and the ID of the fragments come last; `none` is an error. -/
  defragmentElement :
    Option Element → ElementBuf → ℕ → UInt8 → Option (List UInt8)
  mergeProfile : ElementBuf → Element → Element → ℕ → List UInt8
  genNewBssid : List UInt8 → UInt8 → UInt8 → List UInt8
  crc32Be : UInt32 → List UInt8 → UInt32

/-! ## Result -/

/-- The pointers of `struct ieee802_11_elems` to a single element. -/
inductive ElemField where
  | lnkId | chSwTiming | extCapab | ssid | suppRates | dsParams | tim | rsn
  | rsnx | erpInfo | extSuppRates | wmmInfo | wmmParam | htCapElem
  | htOperation | vhtCapElem | vhtOperation | meshConfig | heCap | heOperation
  | heSpr | muEdcaParamSet | he6ghzCapa | uoraElement | meshId | peering
  | awakeWindow | preq | prep | perr | rann | chSwitchIe | extChanswIe
  | wideBwChanswIe | maxChannelSwitchTime | countryElem | pwrConstrElem
  | timeoutInt | opmodeNotif | secChanOffs | meshChanswParamsIe
  | maxIdlePeriodIe | mbssidConfigIe | addbaExtIe | s1gCapab | s1gOper
  | s1gBcnCompat | aidResp | ehtCap | ehtOperation | bandwidthIndication
  | uhrCapa | uhrOper
  deriving DecidableEq, Repr

def parseErrInvalidEnd : ℕ := 1
def parseErrDupElem : ℕ := 2
def parseErrBadElemSize : ℕ := 4
def parseErrUnexpectedElem : ℕ := 8
def parseErrDupNestMlBasic : ℕ := 16

/-- `struct ieee80211_elems_parse`; `tpe` and `csaTpe` list what was handed to
`ieee80211_parse_tpe`, `scratchUsed` is `scratch_pos`. -/
structure ElemsParse where
  kept : ElemField → Option ElemPtr
  ttlm : List ElemPtr
  tpe : List (List UInt8)
  csaTpe : List (List UInt8)
  parseError : ℕ
  crc : UInt32
  mlBasicElem : Option Element
  mlReconfElem : Option Element
  mlEpcsElem : Option Element
  mlBasic : Option (List UInt8)
  mlReconf : Option (List UInt8)
  mlEpcs : Option (List UInt8)
  prof : Option (List UInt8)
  bssidIndex : Option (List UInt8)
  dtimCount : ℕ
  dtimPeriod : ℕ
  multiLinkInner : Bool
  skipVendor : Bool
  scratchLen : ℕ
  scratchUsed : ℕ

/-! ## The switch -/

/-- What a case of the switch does. -/
structure CaseOutcome where
  stores : List (ElemField × ElemPtr)
  ttlm : Option ElemPtr
  tpe : Option (List UInt8)
  csaTpe : Option (List UInt8)
  nestedMlBasic : Bool
  mlReconf : Bool
  mlEpcs : Bool
  parseFailed : ℕ
  calcCrc : Bool

namespace CaseOutcome

def nothing : CaseOutcome :=
  ⟨[], none, none, none, false, false, false, 0, false⟩

def store (field : ElemField) (ptr : ElemPtr) : CaseOutcome :=
  { nothing with stores := [(field, ptr)] }

def storeIf (ok : Bool) (field : ElemField) (ptr : ElemPtr) : CaseOutcome :=
  if ok then store field ptr else nothing

def fail (error : ℕ) : CaseOutcome :=
  { nothing with parseFailed := error }

def keepIf (ok : Bool) (field : ElemField) (ptr : ElemPtr) : CaseOutcome :=
  if ok then store field ptr else fail parseErrBadElemSize

def crcToo (outcome : CaseOutcome) : CaseOutcome :=
  { outcome with calcCrc := true }

/-- A case that only counts from a mode on. -/
def fromMode (params : ElemsParseParams) (mode : ConnMode)
    (outcome : CaseOutcome) : CaseOutcome :=
  if params.mode.rank < mode.rank then nothing else outcome

/-- A case that only counts in S1G mode. -/
def inS1g (params : ElemsParseParams) (outcome : CaseOutcome) : CaseOutcome :=
  if params.mode = .s1g then outcome else nothing

end CaseOutcome

open CaseOutcome

def parseMultiLink (data : List UInt8) : CaseOutcome :=
  if ieee80211MleSizeOk data then
    match mlControlType data with
    | .basic => { nothing with nestedMlBasic := true }
    | .reconf => { nothing with mlReconf := true }
    | .prioAccess => { nothing with mlEpcs := true }
    | _ => nothing
  else
    nothing

/-- `ieee80211_parse_extension_element`; `heCap` is `elems->he_cap` so far. -/
def ieee80211ParseExtensionElement (params : ElemsParseParams)
    (heCap : Option ElemPtr) (elem : Element) : CaseOutcome :=
  match elem.data with
  | [] => nothing
  | extId :: octets =>
      let data := elem.extData
      let len := octets.length
      match extId with
      | wlanEidExtHeMuEdca =>
          fromMode params .he (storeIf (13 ≤ len) .muEdcaParamSet data).crcToo
      | wlanEidExtHeCapability =>
          fromMode params .he
            (storeIf (ieee80211HeCapaSizeOk octets) .heCap data)
      | wlanEidExtHeOperation =>
          fromMode params .he (storeIf
            (6 ≤ len ∧ ieee80211HeOperSize octets - 1 ≤ len)
            .heOperation data).crcToo
      | wlanEidExtUora =>
          fromMode params .he (storeIf (1 ≤ len) .uoraElement data)
      | wlanEidExtMaxChannelSwitchTime =>
          storeIf (len = 3) .maxChannelSwitchTime data
      | wlanEidExtMultipleBssidConfiguration =>
          storeIf (2 ≤ len) .mbssidConfigIe data
      | wlanEidExtHeSpr =>
          fromMode params .he (storeIf
            (1 ≤ len ∧ ieee80211HeSprSize octets - 1 ≤ len) .heSpr data)
      | wlanEidExtHe6ghzCapa =>
          fromMode params .he (storeIf (2 ≤ len) .he6ghzCapa data)
      | wlanEidExtEhtCapability =>
          fromMode params .eht (storeIf
            (ieee80211EhtCapaSizeOk (heCap.map ElemPtr.octets) octets
              params.fromAp) .ehtCap data)
      | wlanEidExtEhtOperation =>
          fromMode params .eht
            (storeIf (ieee80211EhtOperSizeOk octets) .ehtOperation data).crcToo
      | wlanEidExtEhtMultiLink =>
          fromMode params .eht (parseMultiLink octets).crcToo
      | wlanEidExtBandwidthIndication =>
          fromMode params .eht (storeIf
            (ieee80211BandwidthIndicationSizeOk octets)
            .bandwidthIndication data).crcToo
      | wlanEidExtTidToLinkMapping =>
          fromMode params .eht
            (if ieee80211TidToLinkMapSizeOk octets then
              { nothing with ttlm := some data }
            else nothing).crcToo
      | wlanEidExtUhrOper =>
          fromMode params .uhr (storeIf
            (ieee80211UhrOperSizeOk octets params.isBeacon)
            .uhrOper data).crcToo
      | wlanEidExtUhrCapa =>
          fromMode params .uhr
            (storeIf (ieee80211UhrCapaSizeOk octets) .uhrCapa data).crcToo
      | _ => nothing

/-- The case of `WLAN_EID_VENDOR_SPECIFIC`: only WMM elements are kept. -/
def parseVendorSpecific (skipVendor : Bool) (elem : Element) : CaseOutcome :=
  let elen := elem.data.length
  if skipVendor then
    nothing
  else if 4 ≤ elen ∧ dataOctet elem.data 0 = 0x00 ∧ dataOctet elem.data 1 = 0x50 ∧
      dataOctet elem.data 2 = 0xf2 then
    if 5 ≤ elen ∧ dataOctet elem.data 3 = 2 ∧ dataOctet elem.data 4 = 0 then
      (store .wmmInfo elem.pos).crcToo
    else if 5 ≤ elen ∧ dataOctet elem.data 3 = 2 ∧ dataOctet elem.data 4 = 1 then
      (store .wmmParam elem.pos).crcToo
    else
      nothing.crcToo
  else
    nothing

/-- The case of `WLAN_EID_CHANNEL_SWITCH_WRAPPER`. -/
def parseChannelSwitchWrapper (lib : ElemsLib) (params : ElemsParseParams)
    (elem : Element) : CaseOutcome :=
  if params.mode.rank < ConnMode.vht.rank then
    nothing
  else if params.isAction then
    fail parseErrUnexpectedElem
  else
    let wideBw := match lib.findElem wlanEidWideBwChannelSwitch
        elem.subelements with
      | some sub => keepIf (3 ≤ sub.data.length) .wideBwChanswIe sub.pos
      | none => nothing
    if params.mode.rank < ConnMode.eht.rank then
      wideBw
    else
      let bwIndication := match lib.findExtElem wlanEidExtBandwidthIndication
          elem.subelements with
        | some sub => keepIf
            (ieee80211BandwidthIndicationSizeOk sub.data.tail)
            .bandwidthIndication sub.extData
        | none => nothing
      { nothing with
        stores := wideBw.stores ++ bwIndication.stores
        parseFailed := wideBw.parseFailed ||| bwIndication.parseFailed
        csaTpe := (lib.findExtElem wlanEidTxPowerEnvelope
          elem.subelements).map fun sub => sub.data.tail }

def parseWideBwChannelSwitch (params : ElemsParseParams) (elem : Element) :
    CaseOutcome :=
  if params.isAction then
    keepIf (3 ≤ elem.data.length) .wideBwChanswIe elem.pos
  else
    fail parseErrUnexpectedElem

/-- The switch over the ID of an element. -/
def parseElementCase (lib : ElemsLib) (params : ElemsParseParams)
    (skipVendor : Bool) (heCap : Option ElemPtr) (elem : Element) :
    CaseOutcome :=
  let elen := elem.data.length
  let pos := elem.pos
  match elem.id with
  | wlanEidLinkId => keepIf (20 ≤ elen + 2) .lnkId elem.header
  | wlanEidChanSwitchTiming => keepIf (4 ≤ elen) .chSwTiming pos
  | wlanEidExtCapability => store .extCapab pos
  | wlanEidSsid => store .ssid pos
  | wlanEidSuppRates => store .suppRates pos
  | wlanEidDsParams => keepIf (1 ≤ elen) .dsParams pos
  | wlanEidTim => keepIf (4 ≤ elen) .tim pos
  | wlanEidVendorSpecific => parseVendorSpecific skipVendor elem
  | wlanEidRsn => store .rsn pos
  | wlanEidErpInfo => keepIf (1 ≤ elen) .erpInfo pos
  | wlanEidExtSuppRates => store .extSuppRates pos
  | wlanEidHtCapability =>
      fromMode params .ht (keepIf (26 ≤ elen) .htCapElem pos)
  | wlanEidHtOperation =>
      fromMode params .ht (keepIf (22 ≤ elen) .htOperation pos)
  | wlanEidVhtCapability =>
      fromMode params .vht (keepIf (12 ≤ elen) .vhtCapElem pos)
  | wlanEidVhtOperation =>
      fromMode params .vht
        (if 5 ≤ elen then (store .vhtOperation pos).crcToo
        else fail parseErrBadElemSize)
  | wlanEidOpmodeNotif =>
      fromMode params .vht
        (if 0 < elen then (store .opmodeNotif pos).crcToo
        else fail parseErrBadElemSize)
  | wlanEidMeshId => store .meshId pos
  | wlanEidMeshConfig => keepIf (7 ≤ elen) .meshConfig pos
  | wlanEidPeerMgmt => store .peering pos
  | wlanEidMeshAwakeWindow => storeIf (2 ≤ elen) .awakeWindow pos
  | wlanEidPreq => store .preq pos
  | wlanEidPrep => store .prep pos
  | wlanEidPerr => store .perr pos
  | wlanEidRann => keepIf (21 ≤ elen) .rann pos
  | wlanEidChannelSwitch => keepIf (elen = 3) .chSwitchIe pos
  | wlanEidExtChanswitchAnn => keepIf (elen = 4) .extChanswIe pos
  | wlanEidSecondaryChannelOffset =>
      fromMode params .ht (keepIf (elen = 1) .secChanOffs pos)
  | wlanEidChanSwitchParam => keepIf (6 ≤ elen) .meshChanswParamsIe pos
  | wlanEidWideBwChannelSwitch =>
      fromMode params .vht (parseWideBwChannelSwitch params elem)
  | wlanEidChannelSwitchWrapper => parseChannelSwitchWrapper lib params elem
  | wlanEidCountry => store .countryElem pos
  | wlanEidPwrConstraint => keepIf (elen = 1) .pwrConstrElem pos
  | wlanEidAddbaExt => keepIf (1 ≤ elen) .addbaExtIe pos
  | wlanEidTimeoutInterval => keepIf (5 ≤ elen) .timeoutInt pos
  | wlanEidBssMaxIdlePeriod => storeIf (3 ≤ elen) .maxIdlePeriodIe pos
  | wlanEidRsnx => store .rsnx pos
  | wlanEidTxPowerEnvelope =>
      fromMode params .he { nothing with tpe := some elem.data }
  | wlanEidExtension => ieee80211ParseExtensionElement params heCap elem
  | wlanEidS1gCapabilities => inS1g params (keepIf (15 ≤ elen) .s1gCapab pos)
  | wlanEidS1gOperation => inS1g params (keepIf (elen = 6) .s1gOper pos)
  | wlanEidS1gBcnCompat => inS1g params (keepIf (elen = 8) .s1gBcnCompat pos)
  | wlanEidAidResponse => inS1g params (keepIf (elen = 5) .aidResp pos)
  | _ => nothing

/-- The elements of which a second one is an error. -/
def dupChecked : UInt8 → Bool
  | wlanEidSsid | wlanEidSuppRates | wlanEidFhParams | wlanEidDsParams
  | wlanEidCfParams | wlanEidTim | wlanEidIbssParams | wlanEidChallenge
  | wlanEidRsn | wlanEidErpInfo | wlanEidExtSuppRates | wlanEidHtCapability
  | wlanEidHtOperation | wlanEidVhtCapability | wlanEidVhtOperation
  | wlanEidMeshId | wlanEidMeshConfig | wlanEidPeerMgmt | wlanEidPreq
  | wlanEidPrep | wlanEidPerr | wlanEidRann | wlanEidChannelSwitch
  | wlanEidExtChanswitchAnn | wlanEidCountry | wlanEidPwrConstraint
  | wlanEidTimeoutInterval | wlanEidSecondaryChannelOffset
  | wlanEidWideBwChannelSwitch | wlanEidChanSwitchParam | wlanEidExtCapability
  | wlanEidChanSwitchTiming | wlanEidLinkId | wlanEidBssMaxIdlePeriod
  | wlanEidRsnx | wlanEidS1gBcnCompat | wlanEidS1gCapabilities
  | wlanEidS1gOperation | wlanEidAidResponse | wlanEidS1gShortBcnInterval => true
  | _ => false

/-! ## One pass -/

def storeAll (kept : ElemField → Option ElemPtr)
    (stores : List (ElemField × ElemPtr)) : ElemField → Option ElemPtr :=
  stores.foldl (fun kept store => Function.update kept store.1 (some store.2))
    kept

def ElemsParse.apply (elems : ElemsParse) (elem : Element)
    (outcome : CaseOutcome) : ElemsParse :=
  { elems with
    kept := storeAll elems.kept outcome.stores
    ttlm := if elems.ttlm.length < 2 then elems.ttlm ++ outcome.ttlm.toList
      else elems.ttlm
    tpe := elems.tpe ++ outcome.tpe.toList
    csaTpe := elems.csaTpe ++ outcome.csaTpe.toList
    parseError := elems.parseError ||| outcome.parseFailed |||
      if outcome.nestedMlBasic && elems.multiLinkInner then
        parseErrDupNestMlBasic
      else 0
    mlReconfElem := if outcome.mlReconf then some elem else elems.mlReconfElem
    mlEpcsElem := if outcome.mlEpcs then some elem else elems.mlEpcsElem }

/-- The state of a pass: `seen_elems` and `crc` live as long as the pass. -/
structure PassState where
  elems : ElemsParse
  seen : UInt8 → Bool
  crc : UInt32

def PassState.parseElement (lib : ElemsLib) (params : ElemsParseParams)
    (st : PassState) (elem : Element) : PassState :=
  if dupChecked elem.id && st.seen elem.id then
    { st with
      elems := { st.elems with
        parseError := st.elems.parseError ||| parseErrDupElem } }
  else
    let calcCrc : Bool := params.filter ≠ 0
    let outcome := parseElementCase lib params st.elems.skipVendor
      (st.elems.kept .heCap) elem
    let crc := if calcCrc && elem.id < 64 && params.filter.testBit elem.id.toNat
      then lib.crc32Be st.crc elem.toItem.octets else st.crc
    { elems := st.elems.apply elem outcome
      seen := if outcome.parseFailed = 0 then Function.update st.seen elem.id true
        else st.seen
      crc := if calcCrc && outcome.calcCrc
        then lib.crc32Be crc elem.toItem.octets else crc }

/-- The elements that a pass looks at. -/
def inheritedElements (lib : ElemsLib) (checkInherit : Option Element)
    (elements : List Element) : List Element :=
  match checkInherit with
  | none => elements
  | some nonInherit =>
      elements.filter fun elem => lib.isElementInherited elem nonInherit

/-- `_ieee802_11_parse_elems_full`; the CRC is what it returns. -/
def parseElemsPass (lib : ElemsLib) (params : ElemsParseParams)
    (elems : ElemsParse) (checkInherit : Option Element) : ElemsParse × UInt32 :=
  let st := (inheritedElements lib checkInherit params.buf.elements).foldl
    (PassState.parseElement lib params) ⟨elems, fun _ => false, params.crc⟩
  let complete : Bool := (leftover params.buf.start params.buf.octets).isEmpty
  ({ st.elems with
    parseError := if complete then st.elems.parseError
      else st.elems.parseError ||| parseErrInvalidEnd }, st.crc)

end IwlwifiStack
