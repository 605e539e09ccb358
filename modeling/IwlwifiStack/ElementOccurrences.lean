import IwlwifiStack.ElementPass
import IwlwifiStack.ElementLibrary

/-!
# The elements that may occur once

For an ID that a frame is to hold once, a pass keeps the first element that it accepts.  What an
element is accepted for is written here as a table, apart from the switch of the parser: the ID,
the frames that are looked at for it and the length.
-/

namespace IwlwifiStack

open TagLengthValue
open CaseOutcome

variable {lib : ElemsLib} {params : ElemsParseParams}

/-! ## The rules -/

/-- How a pointer to an element with an ID of its own comes about. -/
structure SingleRule where
  id : UInt8
  /-- The frames in which the element is looked at. -/
  applies : ElemsParseParams → Bool
  length : ℕ → Bool
  ptr : Element → ElemPtr

namespace SingleRule

def always (id : UInt8) (length : ℕ → Bool) : SingleRule where
  id := id
  applies := fun _ => true
  length := length
  ptr := Element.pos

def fromMode (mode : ConnMode) (id : UInt8) (length : ℕ → Bool) : SingleRule where
  id := id
  applies := fun params => mode.rank ≤ params.mode.rank
  length := length
  ptr := Element.pos

def inS1g (id : UInt8) (length : ℕ → Bool) : SingleRule where
  id := id
  applies := fun params => params.mode = .s1g
  length := length
  ptr := Element.pos

def wideBwChannelSwitch : SingleRule where
  id := wlanEidWideBwChannelSwitch
  applies := fun params => decide (ConnMode.vht.rank ≤ params.mode.rank) && params.isAction
  length := fun len => 3 ≤ len
  ptr := Element.pos

def accepts (rule : SingleRule) (params : ElemsParseParams) (elem : Element) : Bool :=
  elem.id = rule.id && rule.applies params && rule.length elem.data.length

end SingleRule

open SingleRule in
/-- The rules of the pointers whose ID is checked for a second occurrence. -/
def ElemField.single : ElemField → Option SingleRule
  | .lnkId => some { always wlanEidLinkId (fun len => 20 ≤ len + 2) with ptr := Element.header }
  | .chSwTiming => some (always wlanEidChanSwitchTiming fun len => 4 ≤ len)
  | .extCapab => some (always wlanEidExtCapability fun _ => true)
  | .ssid => some (always wlanEidSsid fun _ => true)
  | .suppRates => some (always wlanEidSuppRates fun _ => true)
  | .dsParams => some (always wlanEidDsParams fun len => 1 ≤ len)
  | .tim => some (always wlanEidTim fun len => 4 ≤ len)
  | .rsn => some (always wlanEidRsn fun _ => true)
  | .rsnx => some (always wlanEidRsnx fun _ => true)
  | .erpInfo => some (always wlanEidErpInfo fun len => 1 ≤ len)
  | .extSuppRates => some (always wlanEidExtSuppRates fun _ => true)
  | .htCapElem => some (SingleRule.fromMode .ht wlanEidHtCapability fun len => 26 ≤ len)
  | .htOperation => some (SingleRule.fromMode .ht wlanEidHtOperation fun len => 22 ≤ len)
  | .vhtCapElem => some (SingleRule.fromMode .vht wlanEidVhtCapability fun len => 12 ≤ len)
  | .vhtOperation => some (SingleRule.fromMode .vht wlanEidVhtOperation fun len => 5 ≤ len)
  | .meshConfig => some (always wlanEidMeshConfig fun len => 7 ≤ len)
  | .meshId => some (always wlanEidMeshId fun _ => true)
  | .peering => some (always wlanEidPeerMgmt fun _ => true)
  | .preq => some (always wlanEidPreq fun _ => true)
  | .prep => some (always wlanEidPrep fun _ => true)
  | .perr => some (always wlanEidPerr fun _ => true)
  | .rann => some (always wlanEidRann fun len => 21 ≤ len)
  | .chSwitchIe => some (always wlanEidChannelSwitch fun len => len = 3)
  | .extChanswIe => some (always wlanEidExtChanswitchAnn fun len => len = 4)
  | .wideBwChanswIe => some wideBwChannelSwitch
  | .countryElem => some (always wlanEidCountry fun _ => true)
  | .pwrConstrElem => some (always wlanEidPwrConstraint fun len => len = 1)
  | .timeoutInt => some (always wlanEidTimeoutInterval fun len => 5 ≤ len)
  | .secChanOffs => some (SingleRule.fromMode .ht wlanEidSecondaryChannelOffset fun len => len = 1)
  | .meshChanswParamsIe => some (always wlanEidChanSwitchParam fun len => 6 ≤ len)
  | .maxIdlePeriodIe => some (always wlanEidBssMaxIdlePeriod fun len => 3 ≤ len)
  | .s1gCapab => some (SingleRule.inS1g wlanEidS1gCapabilities fun len => 15 ≤ len)
  | .s1gOper => some (SingleRule.inS1g wlanEidS1gOperation fun len => len = 6)
  | .s1gBcnCompat => some (SingleRule.inS1g wlanEidS1gBcnCompat fun len => len = 8)
  | .aidResp => some (SingleRule.inS1g wlanEidAidResponse fun len => len = 5)
  | _ => none

/-- The IDs of the elements whose case may store a pointer. -/
def ElemField.ids : ElemField → List UInt8
  | .wideBwChanswIe => [wlanEidWideBwChannelSwitch, wlanEidChannelSwitchWrapper]
  | .bandwidthIndication => [wlanEidChannelSwitchWrapper, wlanEidExtension]
  | .wmmInfo | .wmmParam => [wlanEidVendorSpecific]
  | .opmodeNotif => [wlanEidOpmodeNotif]
  | .awakeWindow => [wlanEidMeshAwakeWindow]
  | .addbaExtIe => [wlanEidAddbaExt]
  | .heCap | .heOperation | .heSpr | .muEdcaParamSet | .he6ghzCapa | .uoraElement
  | .maxChannelSwitchTime | .mbssidConfigIe | .ehtCap | .ehtOperation | .uhrCapa | .uhrOper =>
    [wlanEidExtension]
  | field => (field.single.map SingleRule.id).toList

/-! ## Where a stored pointer points -/

def ElemPtr.Inside (ptr : ElemPtr) (buf : ElementBuf) : Prop :=
  ptr.origin = buf.origin ∧ ∃ before after, buf.octets = before ++ ptr.octets ++ after ∧
    ptr.address = buf.start + before.length

def Element.buf (elem : Element) : ElementBuf :=
  ⟨elem.origin, elem.offset, elem.toItem.octets⟩

theorem ElemPtr.Inside.trans {ptr : ElemPtr} {inner outer : ElementBuf}
    (hptr : ptr.Inside inner) (horigin : inner.origin = outer.origin)
    {before after : List UInt8} (houter : outer.octets = before ++ inner.octets ++ after)
    (hstart : inner.start = outer.start + before.length) : ptr.Inside outer := by
  rcases hptr with ⟨hsame, first, last, hinner, haddress⟩
  apply And.intro (hsame.trans horigin)
  apply Exists.intro (before ++ first)
  apply Exists.intro (last ++ after)
  constructor
  · rw [houter, hinner]
    simp only [List.append_assoc]
  · rw [haddress, hstart, List.length_append, Nat.add_assoc]

theorem Element.header_inside (elem : Element) : elem.header.Inside elem.buf :=
  ⟨rfl, [], [], by simp [Element.header, Element.buf], rfl⟩

theorem Element.pos_inside (elem : Element) : elem.pos.Inside elem.buf :=
  ⟨rfl, [elem.id, UInt8.ofNat elem.data.length], [], by simp [Element.pos, Element.buf,
    Item.octets], rfl⟩

theorem Element.extData_inside {elem : Element} (hdata : elem.data ≠ []) :
    elem.extData.Inside elem.buf := by
  rcases List.exists_cons_of_ne_nil hdata with ⟨extId, octets, heq⟩
  exact ⟨rfl, [elem.id, UInt8.ofNat elem.data.length, extId], [],
    by simp [Element.extData, Element.buf, Item.octets, heq], rfl⟩

theorem ElementBuf.mem_elements {buf : ElementBuf} {elem : Element}
    (hmem : elem ∈ buf.elements) :
    elem.origin = buf.origin ∧ ∃ before after,
      buf.octets = before ++ elem.toItem.octets ++ after ∧
        elem.offset = buf.start + before.length := by
  rcases List.mem_map.mp hmem with ⟨item, hitem, helem⟩
  rcases List.append_of_mem hitem with ⟨first, last, hitems⟩
  rcases standsIn_of_items hitems with ⟨after, ⟨before, hoctets, hoffset⟩, _⟩
  rw [← helem]
  exact ⟨rfl, before, after, hoctets, hoffset⟩

theorem ElemPtr.Inside.of_mem {ptr : ElemPtr} {buf : ElementBuf} {elem : Element}
    (hptr : ptr.Inside elem.buf) (hmem : elem ∈ buf.elements) : ptr.Inside buf := by
  rcases ElementBuf.mem_elements hmem with ⟨horigin, before, after, hoctets, hoffset⟩
  exact hptr.trans horigin hoctets hoffset

theorem ElemPtr.Inside.of_subelement {ptr : ElemPtr} {elem sub : Element}
    (hptr : ptr.Inside sub.buf) (hmem : sub ∈ elem.subelements.elements) :
    ptr.Inside elem.buf := by
  have hbody : ptr.Inside elem.subelements := hptr.of_mem hmem
  apply @ElemPtr.Inside.trans _ _ elem.buf hbody rfl
    [elem.id, UInt8.ofNat elem.data.length] []
  · simp [Element.subelements, Element.buf, Item.octets]
  · rfl

/-- The searches of cfg80211 yield an element of the list. -/
structure ElemsLib.FindsMembers (lib : ElemsLib) : Prop where
  findElem_mem : ∀ {id buf elem}, lib.findElem id buf = some elem → elem ∈ buf.elements
  findExtElem_mem : ∀ {extId buf elem}, lib.findExtElem extId buf = some elem →
    elem ∈ buf.elements ∧ elem.data ≠ []

theorem cfg80211Lib_findsMembers : cfg80211Lib.FindsMembers where
  findElem_mem := fun hfind => List.mem_of_find?_eq_some hfind
  findExtElem_mem := by
    intro extId buf elem hfind
    have hext := List.find?_some hfind
    apply And.intro (List.mem_of_find?_eq_some hfind)
    intro hdata
    simp [hdata] at hext

/-! ## What a case stores -/

namespace CaseOutcome

def OnlyStores (outcome : CaseOutcome) (P : ElemField → ElemPtr → Prop) : Prop :=
  ∀ store ∈ outcome.stores, P store.1 store.2

variable {P : ElemField → ElemPtr → Prop} {field : ElemField} {ptr : ElemPtr}

@[simp] theorem onlyStores_nothing : nothing.OnlyStores P := by
  simp [OnlyStores, nothing]

@[simp] theorem onlyStores_fail (error : ℕ) : (fail error).OnlyStores P := by
  simp [OnlyStores, fail, nothing]

@[simp] theorem onlyStores_store : (store field ptr).OnlyStores P ↔ P field ptr := by
  simp [OnlyStores, store, nothing]

@[simp] theorem onlyStores_storeIf (ok : Bool) :
    (storeIf ok field ptr).OnlyStores P ↔ (ok → P field ptr) := by
  cases ok with
  | true => simp [storeIf]
  | false => simp [storeIf]

@[simp] theorem onlyStores_keepIf (ok : Bool) :
    (keepIf ok field ptr).OnlyStores P ↔ (ok → P field ptr) := by
  cases ok with
  | true => simp [keepIf]
  | false => simp [keepIf]

@[simp] theorem onlyStores_crcToo (outcome : CaseOutcome) :
    outcome.crcToo.OnlyStores P ↔ outcome.OnlyStores P :=
  Iff.rfl

theorem OnlyStores.fromMode {outcome : CaseOutcome} (honly : outcome.OnlyStores P)
    (mode : ConnMode) : (CaseOutcome.fromMode params mode outcome).OnlyStores P := by
  unfold CaseOutcome.fromMode
  split
  · exact onlyStores_nothing
  · exact honly

theorem OnlyStores.inS1g {outcome : CaseOutcome} (honly : outcome.OnlyStores P) :
    (CaseOutcome.inS1g params outcome).OnlyStores P := by
  unfold CaseOutcome.inS1g
  split
  · exact honly
  · exact onlyStores_nothing

theorem OnlyStores.of_stored {outcome : CaseOutcome} (honly : outcome.OnlyStores P)
    (hstored : outcome.stored field = some ptr) : P field ptr := by
  have hmem := List.mem_of_getLast? hstored
  rcases List.mem_map.mp hmem with ⟨store, hstore, hptr⟩
  rcases List.mem_filter.mp hstore with ⟨hin, hfield⟩
  have hkept := honly store hin
  rw [of_decide_eq_true hfield, hptr] at hkept
  exact hkept

end CaseOutcome

def Element.MayStore (elem : Element) (field : ElemField) (ptr : ElemPtr) : Prop :=
  elem.id ∈ field.ids ∧ ptr.Inside elem.buf

theorem parseMultiLink_onlyStores (data : List UInt8) (P : ElemField → ElemPtr → Prop) :
    (parseMultiLink data).OnlyStores P := by
  unfold parseMultiLink
  split
  · split
    all_goals exact onlyStores_nothing
  · exact onlyStores_nothing

theorem parseExtensionElement_onlyStores {elem : Element} (hid : elem.id = wlanEidExtension)
    (heCap : Option ElemPtr) :
    (ieee80211ParseExtensionElement params heCap elem).OnlyStores elem.MayStore := by
  unfold ieee80211ParseExtensionElement
  split
  · exact onlyStores_nothing
  · next extId octets hdata =>
    have hinside : elem.extData.Inside elem.buf :=
      Element.extData_inside (by rw [hdata]; exact List.cons_ne_nil _ _)
    have hmay : ∀ field : ElemField, wlanEidExtension ∈ field.ids →
        elem.MayStore field elem.extData :=
      fun field hfield => ⟨hid ▸ hfield, hinside⟩
    dsimp only
    split
    case h_13 =>
      apply OnlyStores.fromMode
      split
      · exact onlyStores_nothing
      · exact onlyStores_nothing
    case h_11 =>
      apply OnlyStores.fromMode
      exact parseMultiLink_onlyStores octets _
    case h_5 | h_6 =>
      rw [onlyStores_storeIf]
      exact fun _ => hmay _ (by decide)
    case h_16 => exact onlyStores_nothing
    all_goals
      apply OnlyStores.fromMode
      simp only [onlyStores_crcToo, onlyStores_storeIf]
      exact fun _ => hmay _ (by decide)

theorem parseVendorSpecific_onlyStores {elem : Element} (hid : elem.id = wlanEidVendorSpecific)
    (skip : Bool) : (parseVendorSpecific skip elem).OnlyStores elem.MayStore := by
  have hmay : ∀ field : ElemField, wlanEidVendorSpecific ∈ field.ids →
      elem.MayStore field elem.pos :=
    fun field hfield => ⟨hid ▸ hfield, elem.pos_inside⟩
  unfold parseVendorSpecific
  dsimp only
  split_ifs
  · exact onlyStores_nothing
  · rw [onlyStores_crcToo]
    exact onlyStores_store.mpr (hmay .wmmInfo (by decide))
  · rw [onlyStores_crcToo]
    exact onlyStores_store.mpr (hmay .wmmParam (by decide))
  · exact onlyStores_nothing
  · exact onlyStores_nothing

theorem onlyStores_found {may : ElemField → ElemPtr → Prop} {sub : Option Element}
    (ok : Element → Bool) {field : ElemField} {ptr : Element → ElemPtr}
    (hmay : ∀ found, sub = some found → may field (ptr found)) :
    (match sub with
      | some sub => keepIf (ok sub) field (ptr sub)
      | none => nothing).OnlyStores may := by
  cases sub with
  | none => exact onlyStores_nothing
  | some found =>
      rw [onlyStores_keepIf]
      exact fun _ => hmay found rfl

theorem parseChannelSwitchWrapper_onlyStores (hlib : lib.FindsMembers) {elem : Element}
    (hid : elem.id = wlanEidChannelSwitchWrapper) :
    (parseChannelSwitchWrapper lib params elem).OnlyStores elem.MayStore := by
  have hwide := onlyStores_found (fun sub => decide (3 ≤ sub.data.length))
    (show ∀ found, lib.findElem wlanEidWideBwChannelSwitch elem.subelements = some found →
      elem.MayStore .wideBwChanswIe found.pos by
      intro found hfind
      constructor
      · rw [hid]
        decide
      · exact found.pos_inside.of_subelement (hlib.findElem_mem hfind))
  have hbw := onlyStores_found
    (fun sub => ieee80211BandwidthIndicationSizeOk sub.data.tail)
    (show ∀ found,
      lib.findExtElem wlanEidExtBandwidthIndication elem.subelements = some found →
      elem.MayStore .bandwidthIndication found.extData by
      intro found hfind
      have hsub := hlib.findExtElem_mem hfind
      constructor
      · rw [hid]
        decide
      · exact (Element.extData_inside hsub.2).of_subelement hsub.1)
  unfold parseChannelSwitchWrapper
  dsimp only
  split_ifs
  · exact onlyStores_nothing
  · exact onlyStores_fail _
  · exact hwide
  · intro store hstore
    rcases List.mem_append.mp hstore with hfirst | hsecond
    · exact hwide store hfirst
    · exact hbw store hsecond

theorem parseElementCase_onlyStores (hlib : lib.FindsMembers) (skip : Bool)
    (heCap : Option ElemPtr) (elem : Element) :
    (parseElementCase lib params skip heCap elem).OnlyStores elem.MayStore := by
  have hmay : ∀ {id : UInt8}, elem.id = id → ∀ field : ElemField, id ∈ field.ids →
      elem.MayStore field elem.pos :=
    fun hid field hfield => ⟨hid ▸ hfield, elem.pos_inside⟩
  unfold parseElementCase
  dsimp only
  split
  case h_1 hid =>
    simp only [onlyStores_keepIf]
    exact fun _ => ⟨by rw [hid]; decide, elem.header_inside⟩
  case h_8 hid => exact parseVendorSpecific_onlyStores hid skip
  case h_15 hid =>
    apply OnlyStores.fromMode
    split
    · exact onlyStores_store.mpr (hmay hid _ (by decide))
    · exact onlyStores_fail _
  case h_16 hid =>
    apply OnlyStores.fromMode
    split
    · exact onlyStores_store.mpr (hmay hid _ (by decide))
    · exact onlyStores_fail _
  case h_29 hid =>
    apply OnlyStores.fromMode
    unfold parseWideBwChannelSwitch
    split
    · simp only [onlyStores_keepIf]
      exact fun _ => hmay hid _ (by decide)
    · exact onlyStores_fail _
  case h_30 hid => exact parseChannelSwitchWrapper_onlyStores hlib hid
  case h_37 hid =>
    apply OnlyStores.fromMode
    exact onlyStores_nothing
  case h_38 hid => exact parseExtensionElement_onlyStores hid heCap
  case h_43 => exact onlyStores_nothing
  case h_12 hid | h_13 hid | h_14 hid | h_27 hid =>
    apply OnlyStores.fromMode
    simp only [onlyStores_keepIf]
    exact fun _ => hmay hid _ (by decide)
  case h_39 hid | h_40 hid | h_41 hid | h_42 hid =>
    apply OnlyStores.inS1g
    simp only [onlyStores_keepIf]
    exact fun _ => hmay hid _ (by decide)
  case h_20 hid | h_35 hid =>
    simp only [onlyStores_storeIf]
    exact fun _ => hmay hid _ (by decide)
  case h_3 hid | h_4 hid | h_5 hid | h_9 hid | h_11 hid | h_17 hid | h_19 hid | h_21 hid |
      h_22 hid | h_23 hid | h_31 hid | h_36 hid =>
    exact onlyStores_store.mpr (hmay hid _ (by decide))
  all_goals
    rename_i hid
    simp only [onlyStores_keepIf]
    exact fun _ => hmay hid _ (by decide)

/-! ## The rules are what the cases do -/

/-- What a case leaves in the field is what the rule accepts, and that is no error. -/
structure SingleRule.Stores (rule : SingleRule) (params : ElemsParseParams) (elem : Element)
    (field : ElemField) (outcome : CaseOutcome) : Prop where
  stored : outcome.stored field =
    if rule.applies params && rule.length elem.data.length then some (rule.ptr elem) else none
  accepted : rule.applies params = true → rule.length elem.data.length = true →
    outcome.parseFailed = 0

def SingleRule.Refuses (rule : SingleRule) (params : ElemsParseParams) (elem : Element)
    (outcome : CaseOutcome) : Prop :=
  rule.applies params → rule.length elem.data.length = false → outcome.parseFailed ≠ 0

namespace SingleRule

variable {elem : Element} {field : ElemField}

theorem stores_keepIf (id : UInt8) (length : ℕ → Bool) (ptr : Element → ElemPtr) :
    ({ always id length with ptr := ptr } : SingleRule).Stores params elem field
      (keepIf (length elem.data.length) field (ptr elem)) where
  stored := by simp [always]
  accepted := by
    intro _ hlength
    have hok : length elem.data.length = true := hlength
    rw [hok]
    rfl

theorem stores_store (id : UInt8) :
    (always id fun _ => true).Stores params elem field (store field elem.pos) where
  stored := by simp [always]
  accepted := fun _ _ => rfl

theorem stores_storeIf (id : UInt8) (length : ℕ → Bool) :
    (always id length).Stores params elem field
      (storeIf (length elem.data.length) field elem.pos) where
  stored := by simp [always]
  accepted := by
    intro _ _
    cases length elem.data.length with
    | true => rfl
    | false => rfl

theorem stores_fromMode (mode : ConnMode) (id : UInt8) (length : ℕ → Bool)
    {outcome : CaseOutcome}
    (houtcome : (always id length).Stores params elem field outcome) :
    (SingleRule.fromMode mode id length).Stores params elem field
      (CaseOutcome.fromMode params mode outcome) where
  stored := by
    have hstored : outcome.stored field =
        if length elem.data.length then some elem.pos else none := houtcome.stored
    simp only [SingleRule.fromMode, stored_fromMode, hstored]
    by_cases hmode : params.mode.rank < mode.rank
    · simp [hmode, Nat.not_le.mpr hmode]
    · simp [hmode, Nat.not_lt.mp hmode]
  accepted := by
    intro _ hlength
    unfold CaseOutcome.fromMode
    split
    · rfl
    · exact houtcome.accepted rfl hlength

theorem stores_inS1g (id : UInt8) (length : ℕ → Bool) :
    (SingleRule.inS1g id length).Stores params elem field
      (CaseOutcome.inS1g params (keepIf (length elem.data.length) field elem.pos)) where
  stored := by
    simp only [SingleRule.inS1g, stored_inS1g, stored_keepIf]
    by_cases hmode : params.mode = .s1g
    · simp [hmode]
    · simp [hmode]
  accepted := by
    intro _ hlength
    have hok : length elem.data.length = true := hlength
    unfold CaseOutcome.inS1g
    split
    · rw [hok]
      rfl
    · rfl

end SingleRule

theorem wideBwChannelSwitch_stores (elem : Element) :
    SingleRule.wideBwChannelSwitch.Stores params elem .wideBwChanswIe
      (CaseOutcome.fromMode params .vht (parseWideBwChannelSwitch params elem)) where
  stored := by
    unfold parseWideBwChannelSwitch
    rw [stored_fromMode]
    by_cases hmode : params.mode.rank < ConnMode.vht.rank
    · simp [SingleRule.wideBwChannelSwitch, hmode, Nat.not_le.mpr hmode]
    · cases haction : params.isAction with
      | true => simp [SingleRule.wideBwChannelSwitch, haction, hmode, Nat.not_lt.mp hmode]
      | false => simp [SingleRule.wideBwChannelSwitch, haction, hmode]
  accepted := by
    intro happlies hlength
    rcases Bool.and_eq_true_iff.mp happlies with ⟨hmode, haction⟩
    have hlong : decide (3 ≤ elem.data.length) = true := hlength
    rw [CaseOutcome.fromMode, if_neg (Nat.not_lt.mpr (of_decide_eq_true hmode)),
      parseWideBwChannelSwitch, if_pos haction, keepIf, if_pos hlong]
    rfl

theorem single_stores {field : ElemField} {rule : SingleRule} (hrule : field.single = some rule)
    {elem : Element} (hid : elem.id = rule.id) (skip : Bool) (heCap : Option ElemPtr) :
    rule.Stores params elem field (parseElementCase lib params skip heCap elem) := by
  cases field
  all_goals
    cases hrule
  all_goals
    unfold parseElementCase
    rw [hid]
  case extCapab | ssid | suppRates | rsn | rsnx | extSuppRates | meshId | peering | preq | prep |
      perr | countryElem =>
    exact SingleRule.stores_store _
  case maxIdlePeriodIe => exact SingleRule.stores_storeIf _ _
  case s1gCapab | s1gOper | s1gBcnCompat | aidResp => exact SingleRule.stores_inS1g _ _
  case htCapElem | htOperation | vhtCapElem | secChanOffs =>
    apply SingleRule.stores_fromMode
    exact SingleRule.stores_keepIf _ _ _
  case vhtOperation =>
    apply SingleRule.stores_fromMode
    constructor
    · by_cases hlength : 5 ≤ elem.data.length
      · simp [hlength, SingleRule.always]
      · simp [hlength, SingleRule.always]
    · intro _ hlength
      rw [if_pos (of_decide_eq_true hlength)]
      rfl
  case wideBwChanswIe => exact wideBwChannelSwitch_stores elem
  all_goals exact SingleRule.stores_keepIf _ _ _

namespace SingleRule

variable {elem : Element} {field : ElemField}

theorem refuses_keepIf (rule : SingleRule) (ptr : ElemPtr) :
    rule.Refuses params elem (keepIf (rule.length elem.data.length) field ptr) := by
  intro _ hlength
  rw [hlength]
  exact Nat.succ_ne_zero _

theorem refuses_store (id : UInt8) (outcome : CaseOutcome) :
    (always id fun _ => true).Refuses params elem outcome := by
  intro _ hlength
  cases hlength

theorem refuses_fromMode (mode : ConnMode) (id : UInt8) (length : ℕ → Bool)
    {outcome : CaseOutcome}
    (houtcome : length elem.data.length = false → outcome.parseFailed ≠ 0) :
    (SingleRule.fromMode mode id length).Refuses params elem
      (CaseOutcome.fromMode params mode outcome) := by
  intro happlies hlength
  have hmode : ¬params.mode.rank < mode.rank := Nat.not_lt.mpr (of_decide_eq_true happlies)
  rw [CaseOutcome.fromMode, if_neg hmode]
  exact houtcome hlength

theorem refuses_inS1g (id : UInt8) (length : ℕ → Bool) :
    (SingleRule.inS1g id length).Refuses params elem
      (CaseOutcome.inS1g params (keepIf (length elem.data.length) field elem.pos)) := by
  intro happlies hlength
  rw [CaseOutcome.inS1g, if_pos (of_decide_eq_true happlies)]
  exact refuses_keepIf (SingleRule.inS1g id length) elem.pos happlies hlength

end SingleRule

/-- A BSS Max Idle Period element that is too short is passed over without an error; every other
rule's ID is refused for a bad length. -/
theorem single_refuses {field : ElemField} {rule : SingleRule} (hrule : field.single = some rule)
    (hfield : field ≠ .maxIdlePeriodIe) {elem : Element} (hid : elem.id = rule.id) (skip : Bool)
    (heCap : Option ElemPtr) :
    rule.Refuses params elem (parseElementCase lib params skip heCap elem) := by
  cases field
  all_goals
    cases hrule
  all_goals
    unfold parseElementCase
    rw [hid]
  case extCapab | ssid | suppRates | rsn | rsnx | extSuppRates | meshId | peering | preq | prep |
      perr | countryElem =>
    exact SingleRule.refuses_store _ _
  case maxIdlePeriodIe => exact absurd rfl hfield
  case s1gCapab | s1gOper | s1gBcnCompat | aidResp => exact SingleRule.refuses_inS1g _ _
  case htCapElem | htOperation | vhtCapElem | secChanOffs =>
    apply SingleRule.refuses_fromMode
    intro hlength
    simp [hlength, keepIf, fail, parseErrBadElemSize]
  case vhtOperation =>
    apply SingleRule.refuses_fromMode
    intro hlength
    rw [if_neg (of_decide_eq_false hlength)]
    exact Nat.succ_ne_zero _
  case wideBwChanswIe =>
    intro happlies hlength
    rcases Bool.and_eq_true_iff.mp happlies with ⟨hmode, haction⟩
    have hshort : ¬decide (3 ≤ elem.data.length) = true := fun hlong =>
      Bool.false_ne_true (hlength.symm.trans hlong)
    have hcase : (CaseOutcome.fromMode params .vht
        (parseWideBwChannelSwitch params elem)).parseFailed ≠ 0 := by
      rw [CaseOutcome.fromMode, if_neg (Nat.not_lt.mpr (of_decide_eq_true hmode)),
        parseWideBwChannelSwitch, if_pos haction, keepIf, if_neg hshort]
      exact Nat.succ_ne_zero _
    exact hcase
  all_goals exact SingleRule.refuses_keepIf { SingleRule.always _ _ with ptr := _ } _

/-! ## The IDs of the rules -/

theorem single_dupChecked {field : ElemField} {rule : SingleRule}
    (hrule : field.single = some rule) : dupChecked rule.id = true := by
  cases field
  all_goals
    cases hrule
  all_goals rfl

theorem single_ids {field : ElemField} {rule : SingleRule} (hrule : field.single = some rule) :
    field.ids = if field = .wideBwChanswIe then [rule.id, wlanEidChannelSwitchWrapper]
      else [rule.id] := by
  cases field
  all_goals
    cases hrule
  all_goals rfl

theorem single_stored_other (hlib : lib.FindsMembers) {field : ElemField} {rule : SingleRule}
    (hrule : field.single = some rule)
    (hframe : field = .wideBwChanswIe → params.isAction = true) {elem : Element}
    (hid : elem.id ≠ rule.id) (skip : Bool) (heCap : Option ElemPtr) :
    (parseElementCase lib params skip heCap elem).stored field = none := by
  cases hstored : (parseElementCase lib params skip heCap elem).stored field with
  | none => rfl
  | some ptr =>
    have honly : (parseElementCase lib params skip heCap elem).OnlyStores elem.MayStore :=
      parseElementCase_onlyStores hlib _ _ _
    have hmem := (honly.of_stored hstored).1
    rw [single_ids hrule] at hmem
    by_cases hwide : field = .wideBwChanswIe
    · rw [if_pos hwide] at hmem
      have hwrapper : elem.id = wlanEidChannelSwitchWrapper := by
        rcases List.mem_cons.mp hmem with hrule | hlast
        · exact absurd hrule hid
        · exact List.mem_singleton.mp hlast
      have hcase : parseElementCase lib params skip heCap elem =
          parseChannelSwitchWrapper lib params elem := by
        unfold parseElementCase
        rw [hwrapper]
        rfl
      rw [hcase, parseChannelSwitchWrapper, hframe hwide] at hstored
      by_cases hmode : params.mode.rank < ConnMode.vht.rank
      · rw [if_pos hmode, stored_nothing] at hstored
        cases hstored
      · rw [if_neg hmode, if_pos rfl, stored_fail] at hstored
        cases hstored
    · rw [if_neg hwide] at hmem
      exact absurd (List.mem_singleton.mp hmem) hid

end IwlwifiStack
