import IwlwifiStack.ElementInheritance
import IwlwifiStack.EmbeddedProfile

/-!
# EHT capabilities and the inheritance of all elements

EHT capabilities are valid or not by the HE capabilities kept so far.  They are
inherited like the other elements, unless the HE capabilities alone are listed.
-/

namespace IwlwifiStack

open TagLengthValue CaseOutcome

variable {lib : ElemsLib} {params : ElemsParseParams} {field : ElemField}

/-! ## Capabilities -/

def ElemField.isCapability (field : ElemField) : Prop :=
  field = .heCap ∨ field = .ehtCap

theorem stored_append (first second outcome : CaseOutcome)
    (hstores : outcome.stores = first.stores ++ second.stores) :
    outcome.stored field = (second.stored field).or (first.stored field) := by
  rw [stored, hstores, List.filter_append, List.map_append,
    List.getLast?_append]
  rfl

theorem stored_found (hfield : field.isCapability) (sub : Option Element)
    (ok : Element → Bool) (ptr : Element → ElemPtr) {other : ElemField}
    (hother : other = .wideBwChanswIe ∨ other = .bandwidthIndication) :
    CaseOutcome.stored (match sub with
      | some sub => keepIf (ok sub) other (ptr sub)
      | none => nothing) field = none := by
  cases sub with
  | none => rfl
  | some sub =>
      rcases hfield with rfl | rfl <;> rcases hother with rfl | rfl <;> simp

theorem stored_wrapper (elem : Element) (hfield : field.isCapability) :
    (parseChannelSwitchWrapper lib params elem).stored field = none := by
  simp only [parseChannelSwitchWrapper]
  split_ifs
  · rfl
  · rfl
  · exact stored_found hfield _ (fun sub => decide (3 ≤ sub.data.length)) Element.pos
      (Or.inl rfl)
  · rw [stored_append _ _ _ rfl]
    exact congrArg₂ Option.or
      (stored_found hfield _
        (fun sub => ieee80211BandwidthIndicationSizeOk sub.data.tail) Element.extData
        (Or.inr rfl))
      (stored_found hfield _ (fun sub => decide (3 ≤ sub.data.length)) Element.pos
        (Or.inl rfl))

theorem stored_of_id_ne (hfield : field.isCapability) (skip : Bool)
    (heCap : Option ElemPtr) {elem : Element}
    (hext : elem.id ≠ wlanEidExtension) :
    (parseElementCase lib params skip heCap elem).stored field = none := by
  have hwrapper := @stored_wrapper lib params _ elem hfield
  have hvendor : (parseVendorSpecific skip elem).stored field = none := by
    simp only [parseVendorSpecific]
    rcases hfield with rfl | rfl
    all_goals split_ifs <;> simp
  have hwideBw :
      (parseWideBwChannelSwitch params elem).stored field = none := by
    unfold parseWideBwChannelSwitch
    rcases hfield with rfl | rfl
    all_goals split <;> simp
  unfold parseElementCase
  split
  case h_38 heq => exact absurd heq hext
  case h_15 | h_16 =>
    rw [stored_fromMode]
    rcases hfield with rfl | rfl
    all_goals split_ifs <;> simp
  case h_37 =>
    rw [stored_fromMode]
    split_ifs <;> rfl
  all_goals rcases hfield with rfl | rfl
  all_goals simp [hwrapper, hvendor, hwideBw]

theorem extension_of_stored (hfield : field.isCapability) {skip : Bool}
    {heCap : Option ElemPtr} {elem : Element}
    (hstored : (parseElementCase lib params skip heCap elem).stored field ≠
      none) : elem.id = wlanEidExtension := by
  by_contra hext
  exact hstored (stored_of_id_ne hfield skip heCap hext)

theorem head_of_stored {skip : Bool} {heCap : Option ElemPtr} {elem : Element}
    (hfield : field.isCapability)
    (hstored : (parseElementCase lib params skip heCap elem).stored field ≠
      none) :
    elem.data.head? = some (if field = .heCap then wlanEidExtHeCapability
      else wlanEidExtEhtCapability) := by
  rw [parseElementCase_extension (extension_of_stored hfield hstored)] at hstored
  unfold ieee80211ParseExtensionElement at hstored
  cases hdata : elem.data with
  | nil =>
      rw [hdata] at hstored
      exact absurd rfl hstored
  | cons extId octets =>
      rw [hdata] at hstored
      have hml : (fromMode params .eht
          (parseMultiLink octets).crcToo).stored field = none := by
        rw [stored_fromMode, stored_crcToo]
        unfold parseMultiLink
        split
        · rfl
        · split
          · split <;> rfl
          · rfl
      dsimp only at hstored
      split at hstored
      case h_2 =>
        rcases hfield with rfl | rfl
        · rfl
        · simp at hstored
      case h_9 =>
        rcases hfield with rfl | rfl
        · simp at hstored
        · rfl
      case h_11 => exact absurd hml hstored
      case h_13 =>
        rw [stored_fromMode, stored_crcToo] at hstored
        split_ifs at hstored <;> exact absurd rfl hstored
      all_goals rcases hfield with rfl | rfl
      all_goals simp at hstored

/-! ## EHT capabilities in a list -/

/-- The EHT capabilities of a list: the last element that is valid by the HE
capabilities in front of it, or by those given when there are none. -/
def ehtIn (lib : ElemsLib) (params : ElemsParseParams) :
    Option ElemPtr → List Element → Option ElemPtr
  | _, [] => none
  | heCap, elem :: elements =>
      (ehtIn lib params ((params.keptAs lib .heCap elem).or heCap) elements).or
        ((parseElementCase lib params false heCap elem).stored .ehtCap)

theorem ehtIn_filter {keep : Element → Bool} {elements : List Element}
    (hkept : ∀ elem ∈ elements, keep elem = false →
      ∀ field : ElemField, field.isCapability → ∀ heCap,
        (parseElementCase lib params false heCap elem).stored field = none)
    (heCap : Option ElemPtr) :
    ehtIn lib params heCap (elements.filter keep) =
      ehtIn lib params heCap elements := by
  induction elements generalizing heCap with
  | nil => rfl
  | cons elem elements ih =>
      have hrest := ih fun other hmem =>
        hkept other (List.mem_cons_of_mem _ hmem)
      cases hkeep : keep elem with
      | false =>
          have hnone := hkept elem List.mem_cons_self hkeep
          rw [List.filter_cons_of_neg (by simp [hkeep]), hrest, ehtIn,
            hnone .ehtCap (Or.inr rfl), ElemsParseParams.keptAs,
            hnone .heCap (Or.inl rfl), Option.none_or, Option.or_none]
      | true =>
          rw [List.filter_cons_of_pos hkeep, ehtIn, ehtIn, hrest]

theorem ehtIn_eq_none {elements : List Element}
    (hnone : ∀ elem ∈ elements, ∀ heCap,
      (parseElementCase lib params false heCap elem).stored .ehtCap = none)
    (heCap : Option ElemPtr) : ehtIn lib params heCap elements = none := by
  induction elements generalizing heCap with
  | nil => rfl
  | cons elem elements ih =>
      rw [ehtIn, hnone elem List.mem_cons_self, Option.or_none]
      exact ih (fun other hmem => hnone other (List.mem_cons_of_mem _ hmem)) _

theorem stored_eht_case {other : ElemsParseParams}
    (hmode : params.mode = other.mode) (htype : params.type = other.type)
    (hfrom : params.fromAp = other.fromAp) (skip : Bool)
    (heCap : Option ElemPtr) (elem : Element) :
    (parseElementCase lib params skip heCap elem).stored .ehtCap =
      (parseElementCase lib other false heCap elem).stored .ehtCap := by
  by_cases hext : elem.id = wlanEidExtension
  · rw [parseElementCase_extension hext, parseElementCase_extension hext]
    obtain ⟨mode, buf, type, filter, crc, bss, linkId, fromAp⟩ := params
    obtain ⟨mode', buf', type', filter', crc', bss', linkId', fromAp'⟩ := other
    dsimp only at hmode htype hfrom
    subst hmode htype hfrom
    rfl
  · rw [stored_of_id_ne (Or.inr rfl) skip heCap hext,
      stored_of_id_ne (Or.inr rfl) false heCap hext]

theorem stored_he_case {other : ElemsParseParams}
    (hmode : params.mode = other.mode) (htype : params.type = other.type)
    (skip : Bool) (heCap : Option ElemPtr) (elem : Element) :
    (parseElementCase lib params skip heCap elem).stored .heCap =
      other.keptAs lib .heCap elem := by
  rw [stored_case hmode htype (by decide)]
  split
  · rename_i hskip
    have hext : elem.id ≠ wlanEidExtension := by
      rw [hskip.2]
      decide
    exact (stored_of_id_ne (Or.inl rfl) false none hext).symm
  · rfl

theorem parseElements_eht {other : ElemsParseParams}
    (hmode : params.mode = other.mode) (htype : params.type = other.type)
    (hfrom : params.fromAp = other.fromAp) (elements : List Element)
    (st : PassState) :
    (elements.foldl (PassState.parseElement lib params) st).elems.kept .ehtCap =
      (ehtIn lib other (st.elems.kept .heCap) elements).or
        (st.elems.kept .ehtCap) := by
  induction elements generalizing st with
  | nil => rfl
  | cons elem elements ih =>
      rw [List.foldl_cons, ih, ehtIn]
      unfold PassState.parseElement
      split
      · rename_i hdup
        have hext : elem.id ≠ wlanEidExtension := by
          rintro heq
          have hnot : dupChecked wlanEidExtension = false := rfl
          rw [heq, hnot] at hdup
          cases hdup
        rw [ElemsParseParams.keptAs,
          stored_of_id_ne (Or.inl rfl) false none hext,
          stored_of_id_ne (Or.inr rfl) false _ hext, Option.none_or,
          Option.or_none]
      · dsimp only [ElemsParse.apply]
        rw [storeAll_apply, storeAll_apply]
        have heht := @stored_eht_case lib _ _ hmode htype hfrom
          st.elems.skipVendor (st.elems.kept .heCap) elem
        have hhe := @stored_he_case lib _ _ hmode htype
          st.elems.skipVendor (st.elems.kept .heCap) elem
        rw [← heht, ← hhe, stored, stored, Option.or_assoc]

/-! ## Capabilities of the frame -/

def ParsePlan.listsExt (plan : ParsePlan) (extId : UInt8) : Bool :=
  plan.nonInherit.any fun nonInherit =>
    (nonInheritanceLists nonInherit).2.contains extId

theorem listedBy_eq_listsExt (hfield : field.isCapability) {skip : Bool}
    {heCap : Option ElemPtr} {elem nonInherit : Element}
    (hstored : (parseElementCase lib params skip heCap elem).stored field ≠
      none) {plan : ParsePlan} (hplan : plan.nonInherit = some nonInherit) :
    elem.listedBy nonInherit =
      plan.listsExt (if field = .heCap then wlanEidExtHeCapability
        else wlanEidExtEhtCapability) := by
  rw [Element.listedBy, if_pos (extension_of_stored hfield hstored),
    head_of_stored hfield hstored, ParsePlan.listsExt, hplan, Bool.eq_iff_iff,
    List.any_eq_true, Option.any_some, List.contains_iff_mem]
  constructor
  · rintro ⟨extId, hmem, hhead⟩
    rw [decide_eq_true_eq, Option.some.injEq] at hhead
    exact hhead ▸ hmem
  · rintro hmem
    exact ⟨_, hmem, decide_eq_true rfl⟩

theorem inheritable_of_stored {skip : Bool} {heCap : Option ElemPtr} {elem : Element}
    (hstored : (parseElementCase lib params skip heCap elem).stored field ≠
      none) : elem.inheritable := by
  by_contra hnot
  rw [Bool.not_eq_true] at hnot
  exact hstored (stored_of_not_inheritable hnot skip heCap)

theorem isElementInherited_of_stored (hlib : lib.InheritDocumented)
    (hfield : field.isCapability) {skip : Bool} {heCap : Option ElemPtr}
    {elem nonInherit : Element}
    (hstored : (parseElementCase lib params skip heCap elem).stored field ≠
      none) {plan : ParsePlan} (hplan : plan.nonInherit = some nonInherit) :
    lib.isElementInherited elem nonInherit =
      !plan.listsExt (if field = .heCap then wlanEidExtHeCapability
        else wlanEidExtEhtCapability) := by
  rw [hlib.isElementInherited_eq elem nonInherit
    (inheritable_of_stored hstored),
    listedBy_eq_listsExt hfield hstored hplan]

theorem stored_eht_without_he (elem : Element) :
    (parseElementCase lib params false none elem).stored .ehtCap = none := by
  by_contra hstored
  have hhead := head_of_stored (Or.inr rfl) hstored
  rw [parseElementCase_extension (extension_of_stored (Or.inr rfl) hstored)] at hstored
  unfold ieee80211ParseExtensionElement at hstored
  cases hdata : elem.data with
  | nil =>
      rw [hdata] at hstored
      exact hstored rfl
  | cons extId octets =>
      rw [hdata, List.head?_cons, if_neg (by decide), Option.some.injEq] at hhead
      rw [hdata, hhead] at hstored
      apply hstored
      change (fromMode params .eht (storeIf false .ehtCap elem.extData)).stored .ehtCap = none
      rw [stored_fromMode]
      split_ifs <;> rfl

theorem ehtIn_without_he {elements : List Element}
    (hnone : ∀ elem ∈ elements, params.keptAs lib .heCap elem = none) :
    ehtIn lib params none elements = none := by
  induction elements with
  | nil => rfl
  | cons elem elements ih =>
      rw [ehtIn, hnone elem List.mem_cons_self, Option.none_or, stored_eht_without_he,
        Option.or_none]
      exact ih fun other hmem => hnone other (List.mem_cons_of_mem _ hmem)

theorem ehtIn_inheritedElements (hlib : lib.InheritDocumented) (plan : ParsePlan)
    (elements : List Element) :
    ehtIn lib params none (inheritedElements lib plan.nonInherit elements) =
      if plan.listsExt wlanEidExtEhtCapability || plan.listsExt wlanEidExtHeCapability then none
      else ehtIn lib params none elements := by
  cases hplan : plan.nonInherit with
  | none =>
      simp [inheritedElements, ParsePlan.listsExt, hplan]
  | some nonInherit =>
      have hlisted : ∀ {field : ElemField}, field.isCapability →
          plan.listsExt (if field = .heCap then wlanEidExtHeCapability
            else wlanEidExtEhtCapability) = true →
          ∀ elem ∈ elements.filter fun elem => lib.isElementInherited elem nonInherit,
            ∀ heCap, (parseElementCase lib params false heCap elem).stored field = none := by
        rintro field hfield hlists elem hmem heCap
        by_contra hstored
        have hpasses := List.of_mem_filter hmem
        rw [isElementInherited_of_stored hlib hfield hstored hplan, hlists] at hpasses
        cases hpasses
      rw [inheritedElements]
      by_cases heht : plan.listsExt wlanEidExtEhtCapability = true
      · rw [heht, Bool.true_or, if_pos rfl]
        exact ehtIn_eq_none (hlisted (Or.inr rfl) heht) none
      by_cases hhe : plan.listsExt wlanEidExtHeCapability = true
      · rw [hhe, Bool.or_true, if_pos rfl]
        exact ehtIn_without_he fun elem hmem => hlisted (Or.inl rfl) hhe elem hmem none
      rw [Bool.not_eq_true] at heht hhe
      rw [heht, hhe, Bool.or_false, if_neg Bool.false_ne_true]
      apply ehtIn_filter
      rintro elem - hdropped field hfield heCap
      by_contra hstored
      rw [isElementInherited_of_stored hlib hfield hstored hplan] at hdropped
      rcases hfield with rfl | rfl
      · simp [hhe] at hdropped
      · simp [heht] at hdropped

/-! ## The elements of a profile -/

def ParsePlan.inheritedHe (lib : ElemsLib) (params : ElemsParseParams) (plan : ParsePlan) :
    Option ElemPtr :=
  keptIn lib params .heCap (params.buf.elements.filter plan.inherits)

/-- `from_ap` is lost for a nontransmitted BSS; EHT elements of its profile need not be judged
otherwise. -/
def ParsePlan.FromApAgrees (lib : ElemsLib) (params : ElemsParseParams) (plan : ParsePlan) :
    Prop :=
  params.bss = none ∨
    ehtIn lib { params with fromAp := false } (plan.inheritedHe lib params)
        plan.sub.buf.elements =
      ehtIn lib params (plan.inheritedHe lib params) plan.sub.buf.elements

theorem parsedElems_eht (hlib : lib.InheritDocumented) {plan : ParsePlan}
    (hempty : plan.elems.kept = fun _ => none)
    (hsub : plan.sub.buf.octets ≠ [] → plan.sub.mode = params.mode ∧
      plan.sub.type = params.type ∧ plan.sub.fromAp = (params.bss.isNone && params.fromAp))
    (hfrom : plan.FromApAgrees lib params) :
    (parseInner lib params plan (parseOuter lib params plan)).kept .ehtCap =
      (ehtIn lib params (plan.inheritedHe lib params) plan.sub.buf.elements).or
        (if plan.listsExt wlanEidExtEhtCapability || plan.listsExt wlanEidExtHeCapability
          then none else ehtIn lib params none params.buf.elements) := by
  have houterHe : (parseOuter lib params plan).kept .heCap = plan.inheritedHe lib params :=
    parseOuter_kept hlib (by decide) (congrFun hempty .heCap)
  have houterEht : (parseOuter lib params plan).kept .ehtCap =
      if plan.listsExt wlanEidExtEhtCapability || plan.listsExt wlanEidExtHeCapability
        then none else ehtIn lib params none params.buf.elements := by
    rw [← ehtIn_inheritedElements hlib]
    have hpass := @parseElements_eht lib params _ rfl rfl rfl
      (inheritedElements lib plan.nonInherit params.buf.elements)
      ⟨{ plan.elems with
        skipVendor := (lib.findElem wlanEidVendorSpecific
          plan.sub.buf).isSome }, fun _ => false, params.crc⟩
    dsimp only at hpass
    rw [congrFun hempty .heCap, congrFun hempty .ehtCap, Option.or_none] at hpass
    exact hpass
  rw [← houterEht]
  unfold parseInner
  split
  · rename_i hnil
    have hnone : plan.sub.buf.elements = [] := by
      rw [ElementBuf.elements, hnil]
      rfl
    rw [hnone]
    rfl
  · rename_i hne
    obtain ⟨hmode, htype, hfromAp⟩ := hsub hne
    have hpass := @parseElements_eht lib plan.sub
      { params with fromAp := params.bss.isNone && params.fromAp } hmode htype hfromAp
      plan.sub.buf.elements
      ⟨{ parseOuter lib params plan with
        multiLinkInner := params.bss.isNone
        skipVendor := false }, fun _ => false, plan.sub.crc⟩
    dsimp only at hpass
    rw [houterHe] at hpass
    have hsame : ehtIn lib { params with fromAp := params.bss.isNone && params.fromAp }
        (plan.inheritedHe lib params) plan.sub.buf.elements =
        ehtIn lib params (plan.inheritedHe lib params) plan.sub.buf.elements := by
      by_cases hbss : params.bss = none
      · have hkeeps : (params.bss.isNone && params.fromAp) = params.fromAp := by
          rw [hbss, Option.isNone_none, Bool.true_and]
        rw [hkeeps]
      · have hloses : (params.bss.isNone && params.fromAp) = false := by
          rw [Option.isNone_eq_false_iff.mpr (Option.isSome_iff_ne_none.mpr hbss),
            Bool.false_and]
        rw [hloses]
        exact hfrom.resolve_left hbss
    rw [hsame] at hpass
    exact hpass

/-- The profile is the one that the frame embeds.  What is kept for it is its own element, or
else what it inherits; EHT capabilities of the frame are left open where only the HE
capabilities are listed. -/
theorem elements_inherited (hlib : lib.InheritDocumented)
    (hdefrag : lib.DefragmentDocumented) {elems : ElemsParse}
    (hparse : ieee80211ParseElemsFull lib params = some elems) :
    let plan := parsePlan lib params
    let own := plan.sub.buf.elements
    let outer := params.buf.elements
    ((plan.sub.buf.octets ≠ [] → params.Embeds lib plan.sub.buf.octets) ∧
      (∀ octets, octets ≠ [] → params.Embeds lib octets →
        plan.sub.buf.octets ≠ [] ∧ (params.bss = none → plan.sub.buf.octets = octets)) ∧
      plan.nonInherit = own.find? fun elem =>
        elem.id = wlanEidExtension && elem.data.head? = some wlanEidExtNonInheritance) ∧
    (∀ field : ElemField, field ≠ .ehtCap →
      (∀ ptr, keptIn lib params field own = some ptr →
        elems.kept field = some ptr) ∧
      (keptIn lib params field own = none →
        elems.kept field =
          keptIn lib params field (outer.filter plan.inherits) ∧
        ((∀ elem ∈ outer, params.keptAs lib field elem ≠ none →
          plan.inherits elem = false) → elems.kept field = none) ∧
        ((∀ elem ∈ outer, params.keptAs lib field elem ≠ none →
          plan.inherits elem) →
            elems.kept field = keptIn lib params field outer))) ∧
    (plan.FromApAgrees lib params →
      (∀ ptr, ehtIn lib params (plan.inheritedHe lib params) own = some ptr →
        elems.kept .ehtCap = some ptr) ∧
      (ehtIn lib params (plan.inheritedHe lib params) own = none →
        (plan.listsExt wlanEidExtEhtCapability → elems.kept .ehtCap = none) ∧
        (plan.listsExt wlanEidExtEhtCapability = false →
          plan.listsExt wlanEidExtHeCapability = false ∨ ehtIn lib params none outer = none →
            elems.kept .ehtCap = ehtIn lib params none outer))) := by
  have hempty := @parsePlan_kept lib params
  have hembeds := @parsePlan_embeds lib params hdefrag
  refine ⟨⟨hembeds.1, ?_, parsePlan_nonInherit hlib⟩, ?_, ?_⟩
  · rintro octets hsome hoctets
    exact ⟨parsePlan_ne_nil hlib hdefrag hsome hoctets, (hembeds.2 octets hsome hoctets).2⟩
  · rintro field hfield
    have hkept := @parsedElems_kept lib params field hlib hfield _
      (congrFun hempty field) fun hne =>
        ⟨(parsePlan_sub params hne).1, (parsePlan_sub params hne).2.1⟩
    rw [parseElemsFull_kept hparse, hkept]
    constructor
    · rintro ptr hown
      rw [hown]
      rfl
    · rintro hown
      rw [hown, Option.none_or]
      exact ⟨rfl, keptIn_not_inherits, keptIn_inherits⟩
  · rintro hfrom
    rw [parseElemsFull_kept hparse,
      parsedElems_eht hlib hempty (parsePlan_sub params) hfrom]
    constructor
    · rintro ptr hown
      rw [hown, Option.some_or]
    · rintro hown
      rw [hown, Option.none_or]
      constructor
      · rintro heht
        rw [heht, Bool.true_or, if_pos rfl]
      · rintro heht hopen
        rw [heht, Bool.false_or]
        rcases hopen with hhe | hnone
        · rw [hhe, if_neg Bool.false_ne_true]
        · rw [hnone, ite_self]

/-! ## Association responses -/

def wmmParamOctets : List UInt8 :=
  [221, 5, 0x00, 0x50, 0xf2, 2, 1]

def capabilityOctets : List UInt8 :=
  [255, 22, 35] ++ List.replicate 21 0 ++ [255, 15, 108] ++ List.replicate 14 0

/-- The frame embeds a profile that has its own SSID and takes the WMM parameters of the
frame. -/
theorem elements_inherited_ssid :
    ∃ elems : ElemsParse, ∃ params, params =
        assocRespParams ([0, 1, 66] ++ wmmParamOctets ++ basicMlOctets [0, 1, 65]) ∧
      ieee80211ParseElemsFull cfg80211Lib params = some elems ∧
      params.Embeds cfg80211Lib [0, 1, 65] ∧
      elems.kept .ssid = some ⟨.profile, 2, [65]⟩ ∧
      elems.kept .wmmParam = some ⟨.frame, 5, [0x00, 0x50, 0xf2, 2, 1]⟩ := by
  obtain ⟨elems, hparse⟩ := Option.isSome_iff_exists.1
    (by decide +kernel : (ieee80211ParseElemsFull cfg80211Lib (assocRespParams
      ([0, 1, 66] ++ wmmParamOctets ++ basicMlOctets [0, 1, 65]))).isSome = true)
  have hall := elements_inherited cfg80211Lib_inheritDocumented
    cfg80211Lib_defragmentDocumented hparse
  have hoctets : (parsePlan cfg80211Lib (assocRespParams
      ([0, 1, 66] ++ wmmParamOctets ++ basicMlOctets [0, 1, 65]))).sub.buf.octets =
        [0, 1, 65] := by
    decide +kernel
  refine ⟨elems, _, rfl, hparse, ?_, ?_, ?_⟩
  · have hembeds := hall.1.1
    rw [hoctets] at hembeds
    exact hembeds (List.cons_ne_nil _ _)
  · exact (hall.2.1 .ssid (by decide)).1 _ (by decide +kernel)
  · rw [((hall.2.1 .wmmParam (by decide)).2 (by decide +kernel)).1]
    decide +kernel

/-- A vendor element of the profile hides the WMM parameters of the frame, and
with the HE capabilities listed the EHT capabilities are lost too. -/
theorem elements_not_inherited :
    (∃ elems : ElemsParse, ∃ params, params =
        assocRespParams (wmmParamOctets ++ basicMlOctets [221, 3, 1, 2, 3]) ∧
      ieee80211ParseElemsFull cfg80211Lib params = some elems ∧
      (parsePlan cfg80211Lib params).nonInherit = none ∧
      keptIn cfg80211Lib params .wmmParam
        (parsePlan cfg80211Lib params).sub.buf.elements = none ∧
      keptIn cfg80211Lib params .wmmParam params.buf.elements =
        some ⟨.frame, 2, [0x00, 0x50, 0xf2, 2, 1]⟩ ∧
      elems.kept .wmmParam = none) ∧
    ∃ elems : ElemsParse, ∃ params, params =
        assocRespParams (capabilityOctets ++
          basicMlOctets [255, 4, 56, 0, 1, 35]) ∧
      ieee80211ParseElemsFull cfg80211Lib params = some elems ∧
      (parsePlan cfg80211Lib params).listsExt wlanEidExtEhtCapability = false ∧
      (ehtIn cfg80211Lib params none params.buf.elements).isSome ∧
      elems.kept .ehtCap = none := by
  constructor
  · obtain ⟨elems, hparse⟩ := Option.isSome_iff_exists.1
      (by decide +kernel : (ieee80211ParseElemsFull cfg80211Lib (assocRespParams
        (wmmParamOctets ++ basicMlOctets [221, 3, 1, 2, 3]))).isSome = true)
    have hkept : (ieee80211ParseElemsFull cfg80211Lib (assocRespParams
        (wmmParamOctets ++ basicMlOctets [221, 3, 1, 2, 3]))).bind
          (fun elems => elems.kept .wmmParam) = none := by
      decide +kernel
    rw [hparse] at hkept
    exact ⟨elems, _, rfl, hparse, by decide +kernel, by decide +kernel,
      by decide +kernel, hkept⟩
  · obtain ⟨elems, hparse⟩ := Option.isSome_iff_exists.1
      (by decide +kernel : (ieee80211ParseElemsFull cfg80211Lib (assocRespParams
        (capabilityOctets ++
          basicMlOctets [255, 4, 56, 0, 1, 35]))).isSome = true)
    have hkept : (ieee80211ParseElemsFull cfg80211Lib (assocRespParams
        (capabilityOctets ++ basicMlOctets [255, 4, 56, 0, 1, 35]))).bind
          (fun elems => elems.kept .ehtCap) = none := by
      decide +kernel
    rw [hparse] at hkept
    exact ⟨elems, _, rfl, hparse, by decide +kernel, by decide +kernel, hkept⟩

end IwlwifiStack
