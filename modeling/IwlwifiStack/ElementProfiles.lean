import IwlwifiStack.ElementParseModel

/-!
# Frames with a nontransmitted or a per-STA profile

`ieee802_11_parse_elems_full`.  The frame is parsed first, without what the
profile's non-inheritance element takes out; then the profile is parsed over
it.  The scratch buffer takes the defragmented multi-link elements and the
profile one after the other.
-/

namespace IwlwifiStack

open TagLengthValue

/-! ## Nontransmitted BSSID profiles -/

/-- The body of the inner loop of `ieee802_11_find_bssid_profile`: the profile
and the data of its Multiple BSSID-Index element. -/
def bssidProfileAt (lib : ElemsLib) (frame : ElementBuf)
    (transmitted bssid : List UInt8) (elem sub : Element) :
    Option (List UInt8 × List UInt8) :=
  if sub.id ≠ 0 ∨ sub.data.length < 4 then
    none
  else if sub.data[0]? ≠ some wlanEidNonTxBssidCap ∨ sub.data[1]? ≠ some 2 then
    none
  else
    let profile := lib.mergeProfile frame elem sub frame.octets.length
    match lib.findElem wlanEidMultiBssidIdx ⟨.profile, 0, profile⟩ with
    | none => none
    | some index =>
        if index.data.length < 1 ∨ index.data.getD 0 0 = 0 then
          none
        else if lib.genNewBssid transmitted (elem.data.getD 0 0)
            (index.data.getD 0 0) = bssid then
          some (profile, index.data)
        else
          none

def ieee80211FindBssidProfile (lib : ElemsLib) (frame : ElementBuf)
    (bss : CfgBss) : Option (List UInt8 × List UInt8) :=
  match bss.transmittedBss with
  | none => none
  | some transmitted =>
      let sets := frame.elements.filter fun elem =>
        elem.id = wlanEidMultipleBssid ∧ 2 ≤ elem.data.length ∧
          1 ≤ dataOctet elem.data 0 ∧ dataOctet elem.data 0 ≤ 8
      sets.findSome? fun elem =>
        (ElementBuf.elements ⟨elem.origin, elem.offset + 3,
          elem.data.tail⟩).findSome?
          (bssidProfileAt lib frame transmitted bss.bssid elem)

/-! ## Per-STA profiles -/

/-- An element with `WLAN_EID_EXT_EHT_MULTI_LINK` of a good size and of one
type. -/
def Element.isMultiLink (elem : Element) (type : MlControlType) : Bool :=
  elem.id = wlanEidExtension && elem.data.head? = some wlanEidExtEhtMultiLink &&
    ieee80211MleSizeOk elem.data.tail &&
    mlControlType elem.data.tail = type

/-- The loop of `ieee80211_mle_get_sta_prof` over the subelements. -/
def staProfAmong (lib : ElemsLib) (ml : List UInt8) (room : ℕ) (linkId : ℤ) :
    List Element → Option (List UInt8)
  | [] => none
  | sub :: rest =>
      let control := getLe16 sub.data 0
      if sub.id ≠ 0 then
        staProfAmong lib ml room linkId rest
      else if ¬ieee80211MleBasicStaProfSizeOk sub.data then
        none
      else if linkId ≠ control % 16 then
        staProfAmong lib ml room linkId rest
      else if ¬hasBits control 0x0010 then
        none
      else
        lib.defragmentElement (some sub) ⟨.basicMl, 0, ml⟩ room 254

/-- `for_each_mle_subelement`. -/
def mleSubelements (ml : List UInt8) : List Element :=
  if ieee80211MleSizeOk ml then
    ElementBuf.elements ⟨.basicMl, ieee80211MleCommonSize ml,
      ml.drop (ieee80211MleCommonSize ml)⟩
  else
    []

def ElemsParse.room (elems : ElemsParse) : ℕ :=
  elems.scratchLen - elems.scratchUsed

def ieee80211MleGetStaProf (lib : ElemsLib) (elems : ElemsParse)
    (ml : List UInt8) (linkId : ℤ) : ElemsParse :=
  match staProfAmong lib ml elems.room linkId (mleSubelements ml) with
  | none => elems
  | some prof =>
      { elems with
        prof := some prof
        scratchUsed := elems.scratchUsed + prof.length }

/-! ## What the second pass parses -/

/-- `sub` as it is initialized. -/
def noProfile : ElemsParseParams where
  mode := .s1g
  buf := ⟨.profile, 0, []⟩
  type := 0
  filter := 0
  crc := 0
  bss := none
  linkId := 0
  fromAp := false

/-- `elems_parse`, `sub` and `non_inherit` in front of the passes. -/
structure ParsePlan where
  elems : ElemsParse
  sub : ElemsParseParams
  nonInherit : Option Element

/-- The room for the fixed part of the profile and the four bytes of an
association response. -/
def staProfHead (prof : List UInt8) : ℕ :=
  3 + dataOctet prof 2 - 1 + 4

def ieee80211PrepMleLinkParse (lib : ElemsLib) (params : ElemsParseParams)
    (elems : ElemsParse) : ParsePlan :=
  if params.mode.rank < ConnMode.eht.rank then
    ⟨elems, noProfile, none⟩
  else
    let basic := params.buf.elements.find? fun tmp => tmp.isMultiLink .basic
    let elems := { elems with mlBasicElem := basic }
    match lib.defragmentElement basic params.buf elems.room wlanEidFragment with
    | none => ⟨elems, noProfile, none⟩
    | some ml =>
        let elems := { elems with
          mlBasic := some ml
          scratchUsed := elems.scratchUsed + ml.length }
        if params.linkId = -1 then
          ⟨elems, noProfile, none⟩
        else
          let elems := ieee80211MleGetStaProf lib elems ml params.linkId
          match elems.prof with
          | none => ⟨elems, noProfile, none⟩
          | some prof =>
              if prof.length < staProfHead prof then
                ⟨{ elems with prof := none }, noProfile, none⟩
              else
                let sub := { noProfile with
                  buf := ⟨.profile, 0, prof.drop (staProfHead prof)⟩
                  mode := params.mode
                  type := params.type
                  fromAp := params.fromAp
                  linkId := -1 }
                ⟨elems, sub,
                  lib.findExtElem wlanEidExtNonInheritance sub.buf⟩

/-- The branch for a nontransmitted BSS. -/
def prepBssidProfile (lib : ElemsLib) (params : ElemsParseParams)
    (elems : ElemsParse) (bss : CfgBss) : ParsePlan :=
  let found := ieee80211FindBssidProfile lib params.buf bss
  let profile := (found.map Prod.fst).getD []
  let sub := { noProfile with
    buf := ⟨.profile, 0, profile⟩
    mode := params.mode
    type := params.type
    linkId := params.linkId }
  ⟨{ elems with
      bssidIndex := found.map Prod.snd
      scratchUsed := elems.scratchUsed + profile.length },
    sub, lib.findExtElem wlanEidExtNonInheritance sub.buf⟩

/-! ## The whole parse -/

def initialElems (params : ElemsParseParams) : ElemsParse where
  kept := fun _ => none
  ttlm := []
  tpe := []
  csaTpe := []
  parseError := 0
  crc := 0
  mlBasicElem := none
  mlReconfElem := none
  mlEpcsElem := none
  mlBasic := none
  mlReconf := none
  mlEpcs := none
  prof := none
  bssidIndex := none
  dtimCount := 0
  dtimPeriod := 0
  multiLinkInner := false
  skipVendor := false
  scratchLen := 3 * params.buf.octets.length
  scratchUsed := 0

def parsePlan (lib : ElemsLib) (params : ElemsParseParams) : ParsePlan :=
  match params.bss with
  | some bss => prepBssidProfile lib params (initialElems params) bss
  | none => ieee80211PrepMleLinkParse lib params (initialElems params)

def parseOuter (lib : ElemsLib) (params : ElemsParseParams) (plan : ParsePlan) :
    ElemsParse :=
  let pass := parseElemsPass lib params
    { plan.elems with
      skipVendor := (lib.findElem wlanEidVendorSpecific plan.sub.buf).isSome }
    plan.nonInherit
  { pass.1 with crc := pass.2 }

/-- The second pass overrides with the profile. -/
def parseInner (lib : ElemsLib) (params : ElemsParseParams) (plan : ParsePlan)
    (elems : ElemsParse) : ElemsParse :=
  if plan.sub.buf.octets = [] then
    elems
  else
    (parseElemsPass lib plan.sub
      { elems with
        multiLinkInner := params.bss.isNone
        skipVendor := false } none).1

def ieee80211MleDefragReconf (lib : ElemsLib) (params : ElemsParseParams)
    (elems : ElemsParse) : ElemsParse :=
  match lib.defragmentElement elems.mlReconfElem params.buf elems.room
    wlanEidFragment with
  | none => elems
  | some ml =>
      { elems with
        mlReconf := some ml
        scratchUsed := elems.scratchUsed + ml.length }

def ieee80211MleDefragEpcs (lib : ElemsLib) (params : ElemsParseParams)
    (elems : ElemsParse) : ElemsParse :=
  match lib.defragmentElement elems.mlEpcsElem params.buf elems.room
    wlanEidFragment with
  | none => elems
  | some ml =>
      { elems with
        mlEpcs := some ml
        scratchUsed := elems.scratchUsed + ml.length }

/-- The DTIM period and count, from the TIM or from the BSSID index. -/
def setDtim (elems : ElemsParse) : ElemsParse :=
  let tim := if elems.parseError = 0 then elems.kept .tim else none
  let index := elems.bssidIndex.getD []
  { elems with
    dtimPeriod :=
      if 2 ≤ index.length then dataOctet index 1
      else match tim with
        | some tim => dataOctet tim.octets 1
        | none => elems.dtimPeriod
    dtimCount :=
      if 3 ≤ index.length then dataOctet index 2
      else match tim with
        | some tim => dataOctet tim.octets 0
        | none => elems.dtimCount }

/-- `ieee802_11_parse_elems_full`: a frame is never parsed for a link and for a
nontransmitted BSS. -/
def ieee80211ParseElemsFull (lib : ElemsLib) (params : ElemsParseParams) :
    Option ElemsParse :=
  if 0 ≤ params.linkId ∧ params.bss.isSome then
    none
  else
    let plan := parsePlan lib params
    let elems := parseInner lib params plan (parseOuter lib params plan)
    some (setDtim (ieee80211MleDefragEpcs lib params
      (ieee80211MleDefragReconf lib params elems)))

end IwlwifiStack
