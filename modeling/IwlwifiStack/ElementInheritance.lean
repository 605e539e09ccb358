import IwlwifiStack.ElementLibrary
import IwlwifiStack.ElementPass

/-!
# Inheritance of elements

A profile is parsed over the elements it inherits from the frame.  What is kept
for it is its own element, or else the one of the frame, without those whose ID
the non-inheritance element lists.  Vendor elements are inherited all together
or not at all.
-/

namespace IwlwifiStack

open TagLengthValue CaseOutcome

variable {lib : ElemsLib} {params : ElemsParseParams} {field : ElemField}

/-! ## What one element is kept as -/

def ElemsParseParams.keptAs (lib : ElemsLib) (params : ElemsParseParams)
    (field : ElemField) (elem : Element) : Option ElemPtr :=
  (parseElementCase lib params false none elem).stored field

theorem parseElementCase_vendor {elem : Element}
    (hvendor : elem.id = wlanEidVendorSpecific) (params : ElemsParseParams)
    (skip : Bool) (heCap : Option ElemPtr) :
    parseElementCase lib params skip heCap elem =
      parseVendorSpecific skip elem := by
  unfold parseElementCase
  rw [hvendor]
  rfl

theorem parseElementCase_extension {elem : Element}
    (hext : elem.id = wlanEidExtension) (params : ElemsParseParams)
    (skip : Bool) (heCap : Option ElemPtr) :
    parseElementCase lib params skip heCap elem =
      ieee80211ParseExtensionElement params heCap elem := by
  unfold parseElementCase
  rw [hext]
  rfl

theorem parseFailed_vendor (skip : Bool) (elem : Element) :
    (parseVendorSpecific skip elem).parseFailed = 0 := by
  simp only [parseVendorSpecific]
  split_ifs <;> rfl

theorem parseFailed_fromMode {outcome : CaseOutcome} (mode : ConnMode)
    (hok : outcome.parseFailed = 0) :
    (fromMode params mode outcome).parseFailed = 0 := by
  unfold fromMode
  split
  · rfl
  · exact hok

theorem parseFailed_storeIf (ok : Bool) (ptr : ElemPtr) :
    (storeIf ok field ptr).parseFailed = 0 := by
  cases ok <;> rfl

theorem parseFailed_extension (params : ElemsParseParams)
    (heCap : Option ElemPtr) (elem : Element) :
    (ieee80211ParseExtensionElement params heCap elem).parseFailed = 0 := by
  unfold ieee80211ParseExtensionElement
  cases elem.data with
  | nil => rfl
  | cons extId octets =>
      dsimp only
      split
      case h_11 =>
        apply parseFailed_fromMode
        change (parseMultiLink octets).parseFailed = 0
        unfold parseMultiLink
        split
        · split <;> rfl
        · rfl
      case h_13 =>
        apply parseFailed_fromMode
        split <;> rfl
      case h_5 | h_6 => exact parseFailed_storeIf _ _
      case h_16 => rfl
      all_goals exact parseFailed_fromMode _ (parseFailed_storeIf _ _)

section SameFrame

variable {other : ElemsParseParams} (hmode : params.mode = other.mode)
  (htype : params.type = other.type)

include hmode htype

theorem parseElementCase_eq (skip : Bool) (heCap : Option ElemPtr)
    (elem : Element) (hvendor : elem.id ≠ wlanEidVendorSpecific)
    (hext : elem.id ≠ wlanEidExtension) :
    parseElementCase lib params skip heCap elem =
      parseElementCase lib other false none elem := by
  obtain ⟨mode, buf, type, filter, crc, bss, linkId, fromAp⟩ := params
  obtain ⟨mode', buf', type', filter', crc', bss', linkId', fromAp'⟩ := other
  dsimp only at hmode htype
  subst hmode htype
  unfold parseElementCase
  split
  case h_8 heq => exact absurd heq hvendor
  case h_38 heq => exact absurd heq hext
  all_goals rfl

theorem stored_extension (hfield : field ≠ .ehtCap) (heCap : Option ElemPtr)
    (elem : Element) :
    (ieee80211ParseExtensionElement params heCap elem).stored field =
      (ieee80211ParseExtensionElement other none elem).stored field := by
  obtain ⟨mode, buf, type, filter, crc, bss, linkId, fromAp⟩ := params
  obtain ⟨mode', buf', type', filter', crc', bss', linkId', fromAp'⟩ := other
  dsimp only at hmode htype
  subst hmode htype
  unfold ieee80211ParseExtensionElement
  cases elem.data with
  | nil => rfl
  | cons extId octets =>
      dsimp only
      split
      case h_9 => simp [hfield.symm]
      all_goals rfl

theorem stored_case (hfield : field ≠ .ehtCap) (skip : Bool)
    (heCap : Option ElemPtr) (elem : Element) :
    (parseElementCase lib params skip heCap elem).stored field =
      if skip ∧ elem.id = wlanEidVendorSpecific then none
      else other.keptAs lib field elem := by
  by_cases hvendor : elem.id = wlanEidVendorSpecific
  · rw [ElemsParseParams.keptAs, parseElementCase_vendor hvendor,
      parseElementCase_vendor hvendor]
    cases skip with
    | false => simp
    | true => simp [hvendor, parseVendorSpecific]
  · rw [if_neg fun hskip => hvendor hskip.2, ElemsParseParams.keptAs]
    by_cases hext : elem.id = wlanEidExtension
    · rw [parseElementCase_extension hext, parseElementCase_extension hext,
        stored_extension hmode htype hfield]
    · rw [parseElementCase_eq hmode htype skip heCap elem hvendor hext]

theorem parseFailed_case (skip : Bool) (heCap : Option ElemPtr)
    (elem : Element) :
    (parseElementCase lib params skip heCap elem).parseFailed =
      (parseElementCase lib other false none elem).parseFailed := by
  by_cases hvendor : elem.id = wlanEidVendorSpecific
  · rw [parseElementCase_vendor hvendor, parseElementCase_vendor hvendor,
      parseFailed_vendor, parseFailed_vendor]
  · by_cases hext : elem.id = wlanEidExtension
    · rw [parseElementCase_extension hext, parseElementCase_extension hext,
        parseFailed_extension, parseFailed_extension]
    · rw [parseElementCase_eq hmode htype skip heCap elem hvendor hext]

end SameFrame

/-! ## What a list of elements is kept as -/

/-- The elements that do not repeat an ID already taken. -/
def takenElements (lib : ElemsLib) (params : ElemsParseParams) :
    (UInt8 → Bool) → List Element → List Element
  | _, [] => []
  | seen, elem :: elements =>
      if dupChecked elem.id && seen elem.id then
        takenElements lib params seen elements
      else
        elem :: takenElements lib params
          (if (parseElementCase lib params false none elem).parseFailed = 0
            then Function.update seen elem.id true else seen) elements

/-- The element of a list that is kept for a field: the last valid one of those
taken, which is the first valid one where duplicates are checked. -/
def keptIn (lib : ElemsLib) (params : ElemsParseParams) (field : ElemField)
    (elements : List Element) : Option ElemPtr :=
  ((takenElements lib params (fun _ => false) elements).filterMap
    (params.keptAs lib field)).getLast?

theorem parseElement_skipVendor (st : PassState) (elem : Element) :
    (st.parseElement lib params elem).elems.skipVendor =
      st.elems.skipVendor := by
  unfold PassState.parseElement
  split <;> rfl

theorem parseElements_kept {other : ElemsParseParams}
    (hmode : params.mode = other.mode) (htype : params.type = other.type)
    (hfield : field ≠ .ehtCap) (elements : List Element) (st : PassState) :
    (elements.foldl (PassState.parseElement lib params) st).elems.kept field =
      ((takenElements lib other st.seen elements).filterMap fun elem =>
        if st.elems.skipVendor ∧ elem.id = wlanEidVendorSpecific then none
        else other.keptAs lib field elem).getLast?.or
        (st.elems.kept field) := by
  induction elements generalizing st with
  | nil => rfl
  | cons elem elements ih =>
      rw [List.foldl_cons, ih, parseElement_skipVendor]
      by_cases hdup : (dupChecked elem.id && st.seen elem.id) = true
      · rw [takenElements, if_pos hdup]
        unfold PassState.parseElement
        rw [if_pos hdup]
      · rw [takenElements, if_neg hdup]
        unfold PassState.parseElement
        rw [if_neg hdup]
        have hstored := @stored_case lib _ _ _ hmode htype hfield
          st.elems.skipVendor (st.elems.kept .heCap) elem
        have hfailed := @parseFailed_case lib _ _ hmode htype
          st.elems.skipVendor (st.elems.kept .heCap) elem
        dsimp only
        rw [hfailed]
        simp only [ElemsParse.apply, storeAll_apply, List.filterMap_cons]
        rw [← hstored, stored]
        cases ((parseElementCase lib params st.elems.skipVendor
            (st.elems.kept .heCap) elem).stores.filter
              fun store => store.1 = field).map Prod.snd |>.getLast? with
        | none => rfl
        | some ptr =>
            dsimp only
            rw [List.getLast?_cons, Option.some_or, Option.some_or]
            cases (List.filterMap _ _).getLast? <;> rfl

theorem parseElemsPass_kept {other : ElemsParseParams}
    (hmode : params.mode = other.mode) (htype : params.type = other.type)
    (hfield : field ≠ .ehtCap) (elems : ElemsParse)
    (checkInherit : Option Element) :
    (parseElemsPass lib params elems checkInherit).1.kept field =
      ((takenElements lib other (fun _ => false)
        (inheritedElements lib checkInherit params.buf.elements)).filterMap
          fun elem =>
            if elems.skipVendor ∧ elem.id = wlanEidVendorSpecific then none
            else other.keptAs lib field elem).getLast?.or (elems.kept field) :=
  parseElements_kept hmode htype hfield _ ⟨elems, fun _ => false, params.crc⟩

/-! ## Leaving elements out -/

/-- Elements that are not kept can be left out, all with one ID together where
duplicates are checked. -/
theorem filterMap_takenElements_filter {keep : Element → Bool}
    {value : Element → Option ElemPtr} {elements : List Element}
    {seen seen' : UInt8 → Bool}
    (hkept : ∀ elem ∈ elements, keep elem = false → value elem = none)
    (hid : ∀ elem ∈ elements, keep elem = false → dupChecked elem.id →
      ∀ other ∈ elements, other.id = elem.id → keep other = false)
    (hseen : ∀ elem ∈ elements, keep elem → dupChecked elem.id →
      seen elem.id = seen' elem.id) :
    (takenElements lib params seen (elements.filter keep)).filterMap value =
      (takenElements lib params seen' elements).filterMap value := by
  induction elements generalizing seen seen' with
  | nil => rfl
  | cons elem elements ih =>
      have hkeptRest : ∀ other ∈ elements, keep other = false →
          value other = none := by
        rintro other hmem
        exact hkept other (List.mem_cons_of_mem _ hmem)
      have hidRest : ∀ first ∈ elements, keep first = false →
          dupChecked first.id → ∀ other ∈ elements, other.id = first.id →
            keep other = false := by
        rintro first hfirst hdropped hdup other hother
        exact hid first (List.mem_cons_of_mem _ hfirst) hdropped hdup other
          (List.mem_cons_of_mem _ hother)
      cases hkeep : keep elem with
      | false =>
          rw [List.filter_cons_of_neg (by simp [hkeep])]
          rw [takenElements]
          split
          · apply ih hkeptRest hidRest
            rintro other hmem
            exact hseen other (List.mem_cons_of_mem _ hmem)
          · rw [List.filterMap_cons, hkept elem List.mem_cons_self hkeep]
            apply ih hkeptRest hidRest
            rintro other hmem hother hdup
            have hsame := hseen other (List.mem_cons_of_mem _ hmem) hother hdup
            have hne : other.id ≠ elem.id := by
              rintro heq
              have hdropped := hid elem List.mem_cons_self hkeep (heq ▸ hdup)
                other (List.mem_cons_of_mem _ hmem) heq
              rw [hdropped] at hother
              cases hother
            split
            · rw [Function.update_of_ne hne, hsame]
            · exact hsame
      | true =>
          have hsame : (dupChecked elem.id && seen elem.id) =
              (dupChecked elem.id && seen' elem.id) := by
            cases hdup : dupChecked elem.id with
            | false => rfl
            | true => rw [hseen elem List.mem_cons_self hkeep hdup]
          rw [List.filter_cons_of_pos hkeep, takenElements, takenElements, hsame]
          split
          · apply ih hkeptRest hidRest
            rintro other hmem
            exact hseen other (List.mem_cons_of_mem _ hmem)
          · have hrest := @ih
              (if (parseElementCase lib params false none
                elem).parseFailed = 0 then Function.update seen elem.id true
                else seen)
              (if (parseElementCase lib params false none
                elem).parseFailed = 0 then Function.update seen' elem.id true
                else seen') hkeptRest hidRest (by
                rintro other hmem hother hdup
                have hsameId := hseen other (List.mem_cons_of_mem _ hmem)
                  hother hdup
                split
                · by_cases heq : other.id = elem.id
                  · rw [heq, Function.update_self, Function.update_self]
                  · rw [Function.update_of_ne heq, Function.update_of_ne heq,
                      hsameId]
                · exact hsameId)
            rw [List.filterMap_cons, List.filterMap_cons, hrest]

theorem keptIn_filter {keep : Element → Bool} {elements : List Element}
    (hkept : ∀ elem ∈ elements, keep elem = false →
      params.keptAs lib field elem = none)
    (hid : ∀ elem ∈ elements, keep elem = false → dupChecked elem.id →
      ∀ other ∈ elements, other.id = elem.id → keep other = false) :
    keptIn lib params field (elements.filter keep) =
      keptIn lib params field elements := by
  rw [keptIn, keptIn, filterMap_takenElements_filter hkept hid]
  rintro elem - - -
  rfl

/-! ## The non-inheritance element -/

def unlisted (nonInherit : Option Element) (elements : List Element) :
    List Element :=
  match nonInherit with
  | none => elements
  | some nonInherit => elements.filter fun elem => !elem.listedBy nonInherit

theorem stored_of_not_inheritable {elem : Element}
    (hnot : elem.inheritable = false) (skip : Bool) (heCap : Option ElemPtr) :
    (parseElementCase lib params skip heCap elem).stored field = none := by
  by_cases hext : elem.id = wlanEidExtension
  · rw [parseElementCase_extension hext]
    unfold ieee80211ParseExtensionElement
    cases hdata : elem.data with
    | nil => rfl
    | cons extId octets =>
        have hml : extId = wlanEidExtEhtMultiLink := by
          simpa [Element.inheritable, hext, hdata, wlanEidExtension,
            wlanEidMultipleBssid] using hnot
        subst hml
        change (fromMode params .eht
          (parseMultiLink octets).crcToo).stored field = none
        rw [stored_fromMode, stored_crcToo]
        unfold parseMultiLink
        split
        · rfl
        · split
          · split <;> rfl
          · rfl
  · have hid : elem.id = wlanEidMultipleBssid := by
      simpa [Element.inheritable, hext] using hnot
    unfold parseElementCase
    rw [hid]
    rfl

theorem dupChecked_of_not_inheritable {elem : Element}
    (hnot : elem.inheritable = false) : dupChecked elem.id = false := by
  by_cases hext : elem.id = wlanEidExtension
  · rw [hext]
    rfl
  · have hid : elem.id = wlanEidMultipleBssid := by
      simpa [Element.inheritable, hext] using hnot
    rw [hid]
    rfl

theorem keptIn_inheritable (elements : List Element) :
    keptIn lib params field (elements.filter Element.inheritable) =
      keptIn lib params field elements := by
  apply keptIn_filter
  · rintro elem - hnot
    exact stored_of_not_inheritable hnot false none
  · rintro elem - hnot hdup
    rw [dupChecked_of_not_inheritable hnot] at hdup
    cases hdup

theorem keptIn_inheritedElements (hlib : lib.InheritDocumented)
    (keep : Element → Bool) (nonInherit : Option Element)
    (elements : List Element) :
    keptIn lib params field
        ((inheritedElements lib nonInherit elements).filter keep) =
      keptIn lib params field ((unlisted nonInherit elements).filter keep) := by
  cases nonInherit with
  | none => rfl
  | some nonInherit =>
      have hsame : ((inheritedElements lib (some nonInherit) elements).filter
          keep).filter Element.inheritable =
          ((unlisted (some nonInherit) elements).filter keep).filter
            Element.inheritable := by
        rw [inheritedElements, unlisted]
        simp only [List.filter_filter]
        apply List.filter_congr
        rintro elem -
        cases hinheritable : elem.inheritable with
        | false => rfl
        | true => rw [hlib.isElementInherited_eq elem nonInherit hinheritable]
      rw [← keptIn_inheritable ((inheritedElements lib (some nonInherit)
        elements).filter keep), hsame, keptIn_inheritable]

theorem listedBy_of_id_eq {elem other nonInherit : Element}
    (hlisted : elem.listedBy nonInherit = true) (hdup : dupChecked elem.id)
    (hid : other.id = elem.id) : other.listedBy nonInherit = true := by
  have hne : elem.id ≠ wlanEidExtension := by
    rintro hext
    rw [hext] at hdup
    cases hdup
  simp only [Element.listedBy, hne, hid, if_false] at hlisted ⊢
  exact hlisted

theorem mem_of_mem_takenElements {seen : UInt8 → Bool} {elem : Element}
    {elements : List Element}
    (hmem : elem ∈ takenElements lib params seen elements) :
    elem ∈ elements := by
  induction elements generalizing seen with
  | nil => cases hmem
  | cons first elements ih =>
      rw [takenElements] at hmem
      split at hmem
      · exact List.mem_cons_of_mem _ (ih hmem)
      · rcases List.mem_cons.1 hmem with rfl | hrest
        · exact List.mem_cons_self
        · exact List.mem_cons_of_mem _ (ih hrest)

theorem keptIn_eq_none {elements : List Element}
    (hnone : ∀ elem ∈ elements, params.keptAs lib field elem = none) :
    keptIn lib params field elements = none := by
  rw [keptIn, List.getLast?_eq_none_iff, List.filterMap_eq_nil_iff]
  rintro elem hmem
  exact hnone elem (mem_of_mem_takenElements hmem)

/-! ## The whole parse -/

def ParsePlan.hasVendor (plan : ParsePlan) : Bool :=
  plan.sub.buf.elements.any fun elem => elem.id = wlanEidVendorSpecific

/-- The profile inherits nothing that is listed, and no vendor element when it
has one of its own. -/
def ParsePlan.inherits (plan : ParsePlan) (elem : Element) : Bool :=
  plan.nonInherit.all (fun nonInherit => !elem.listedBy nonInherit) &&
    (!plan.hasVendor || elem.id ≠ wlanEidVendorSpecific)

theorem filter_inherits (plan : ParsePlan) (elements : List Element) :
    elements.filter plan.inherits =
      (unlisted plan.nonInherit elements).filter fun elem =>
        !plan.hasVendor || elem.id ≠ wlanEidVendorSpecific := by
  unfold unlisted
  cases hplan : plan.nonInherit with
  | none =>
      apply List.filter_congr
      rintro elem -
      simp [ParsePlan.inherits, hplan]
  | some nonInherit =>
      rw [List.filter_filter]
      apply List.filter_congr
      rintro elem -
      simp [ParsePlan.inherits, hplan, Bool.and_comm]

theorem inherits_of_id_eq {plan : ParsePlan} {elem other : Element}
    (hnot : plan.inherits elem = false) (hdup : dupChecked elem.id)
    (hid : other.id = elem.id) : plan.inherits other = false := by
  have hvendor : elem.id ≠ wlanEidVendorSpecific := by
    rintro heq
    rw [heq] at hdup
    cases hdup
  unfold ParsePlan.inherits at hnot ⊢
  rw [hid]
  cases hplan : plan.nonInherit with
  | none => simp [hplan, hvendor] at hnot
  | some nonInherit =>
      have hlisted : elem.listedBy nonInherit = true := by
        simpa [hplan, hvendor] using hnot
      simp [listedBy_of_id_eq hlisted hdup hid]

theorem keptIn_inherits {plan : ParsePlan} {elements : List Element}
    (hinherits : ∀ elem ∈ elements, params.keptAs lib field elem ≠ none →
      plan.inherits elem) :
    keptIn lib params field (elements.filter plan.inherits) =
      keptIn lib params field elements := by
  apply keptIn_filter
  · rintro elem hmem hnot
    by_contra hkept
    rw [hinherits elem hmem hkept] at hnot
    cases hnot
  · rintro elem - hnot hdup other - hid
    exact inherits_of_id_eq hnot hdup hid

theorem keptIn_not_inherits {plan : ParsePlan} {elements : List Element}
    (hnot : ∀ elem ∈ elements, params.keptAs lib field elem ≠ none →
      plan.inherits elem = false) :
    keptIn lib params field (elements.filter plan.inherits) = none := by
  apply keptIn_eq_none
  rintro elem hmem
  rw [List.mem_filter] at hmem
  by_contra hkept
  rw [hnot elem hmem.1 hkept] at hmem
  exact Bool.false_ne_true hmem.2

theorem findElem_vendor (hlib : lib.InheritDocumented) (plan : ParsePlan) :
    (lib.findElem wlanEidVendorSpecific plan.sub.buf).isSome =
      plan.hasVendor := by
  rw [Bool.eq_iff_iff, hlib.findElem_isSome, ParsePlan.hasVendor]
  simp

theorem keptIn_skipVendor (skip : Bool) (elements : List Element) :
    ((takenElements lib params (fun _ => false) elements).filterMap fun elem =>
        if skip ∧ elem.id = wlanEidVendorSpecific then none
        else params.keptAs lib field elem).getLast? =
      keptIn lib params field (elements.filter fun elem =>
        !skip || elem.id ≠ wlanEidVendorSpecific) := by
  have hleft : ((takenElements lib params (fun _ => false)
      (elements.filter fun elem =>
        !skip || elem.id ≠ wlanEidVendorSpecific)).filterMap fun elem =>
          if skip ∧ elem.id = wlanEidVendorSpecific then none
          else params.keptAs lib field elem) =
      (takenElements lib params (fun _ => false) elements).filterMap
        fun elem => if skip ∧ elem.id = wlanEidVendorSpecific then none
          else params.keptAs lib field elem := by
    apply filterMap_takenElements_filter
    · rintro elem - hdropped
      simp at hdropped
      simp [hdropped]
    · rintro elem - hdropped hdup
      simp at hdropped
      rw [hdropped.2] at hdup
      cases hdup
    · rintro elem - - -
      rfl
  rw [← hleft, keptIn]
  congr 1
  apply List.filterMap_congr
  rintro elem hmem
  have hkept := List.of_mem_filter (mem_of_mem_takenElements hmem)
  rw [if_neg]
  rintro ⟨hskip, hvendor⟩
  simp [hskip, hvendor] at hkept

theorem parseOuter_kept (hlib : lib.InheritDocumented)
    (hfield : field ≠ .ehtCap) {plan : ParsePlan}
    (hempty : plan.elems.kept field = none) :
    (parseOuter lib params plan).kept field =
      keptIn lib params field (params.buf.elements.filter plan.inherits) := by
  have hpass := @parseElemsPass_kept lib params _ _ rfl rfl
    hfield { plan.elems with
      skipVendor := (lib.findElem wlanEidVendorSpecific
        plan.sub.buf).isSome } plan.nonInherit
  dsimp only at hpass
  rw [hempty, Option.or_none, findElem_vendor hlib, keptIn_skipVendor,
    keptIn_inheritedElements hlib] at hpass
  rw [filter_inherits, ← hpass, ← findElem_vendor hlib]
  rfl

theorem parsedElems_kept (hlib : lib.InheritDocumented)
    (hfield : field ≠ .ehtCap) {plan : ParsePlan}
    (hempty : plan.elems.kept field = none)
    (hsub : plan.sub.buf.octets ≠ [] →
      plan.sub.mode = params.mode ∧ plan.sub.type = params.type) :
    (parseInner lib params plan (parseOuter lib params plan)).kept field =
      (keptIn lib params field plan.sub.buf.elements).or
        (keptIn lib params field
          (params.buf.elements.filter plan.inherits)) := by
  rw [← parseOuter_kept hlib hfield hempty]
  unfold parseInner
  split
  · rename_i hnil
    have hnone : plan.sub.buf.elements = [] := by
      rw [ElementBuf.elements, hnil]
      rfl
    rw [hnone]
    rfl
  · rename_i hne
    obtain ⟨hmode, htype⟩ := hsub hne
    rw [parseElemsPass_kept hmode htype hfield, keptIn]
    simp
    rfl

theorem ieee80211MleGetStaProf_kept (elems : ElemsParse) (ml : List UInt8)
    (linkId : ℤ) :
    (ieee80211MleGetStaProf lib elems ml linkId).kept = elems.kept := by
  unfold ieee80211MleGetStaProf
  split <;> rfl

theorem parsePlan_kept (params : ElemsParseParams) :
    (parsePlan lib params).elems.kept = fun _ => none := by
  unfold parsePlan
  split
  · rfl
  · unfold ieee80211PrepMleLinkParse
    split
    · rfl
    · dsimp only
      split
      · rfl
      · split
        · rfl
        · split
          · exact ieee80211MleGetStaProf_kept _ _ _
          · split
            · exact ieee80211MleGetStaProf_kept _ _ _
            · exact ieee80211MleGetStaProf_kept _ _ _

theorem prepMleLinkParse_sub (elems : ElemsParse) :
    let sub := (ieee80211PrepMleLinkParse lib params elems).sub
    sub.buf.octets = [] ∨ (sub.mode = params.mode ∧ sub.type = params.type ∧
      sub.fromAp = params.fromAp) := by
  unfold ieee80211PrepMleLinkParse
  split
  · exact Or.inl rfl
  · dsimp only
    split
    · exact Or.inl rfl
    · split
      · exact Or.inl rfl
      · split
        · exact Or.inl rfl
        · split
          · exact Or.inl rfl
          · exact Or.inr ⟨rfl, rfl, rfl⟩

theorem parsePlan_sub (params : ElemsParseParams)
    (hne : (parsePlan lib params).sub.buf.octets ≠ []) :
    (parsePlan lib params).sub.mode = params.mode ∧
      (parsePlan lib params).sub.type = params.type ∧
      (parsePlan lib params).sub.fromAp = (params.bss.isNone && params.fromAp) := by
  revert hne
  unfold parsePlan
  cases params.bss with
  | some bss => exact fun _ => ⟨rfl, rfl, rfl⟩
  | none =>
      rintro hne
      obtain hnil | ⟨hmode, htype, hfrom⟩ :=
        @prepMleLinkParse_sub lib params
          (initialElems params)
      · exact absurd hnil hne
      · exact ⟨hmode, htype, hfrom⟩

theorem parseElemsFull_kept {elems : ElemsParse}
    (hparse : ieee80211ParseElemsFull lib params = some elems) :
    elems.kept = (parseInner lib params (parsePlan lib params)
      (parseOuter lib params (parsePlan lib params))).kept := by
  unfold ieee80211ParseElemsFull at hparse
  split_ifs at hparse
  rw [Option.some.injEq] at hparse
  rw [← hparse]
  simp only [setDtim, ieee80211MleDefragEpcs, ieee80211MleDefragReconf]
  split <;> split <;> rfl

end IwlwifiStack
