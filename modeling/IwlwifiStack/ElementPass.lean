import IwlwifiStack.ElementProfiles

/-!
# What a pass leaves behind

The last element that stores a field decides it, and the last multi-link
element of a type is the one recorded for the defragmentation.  Elements that
repeat an ID already seen do not count.
-/

namespace IwlwifiStack

open TagLengthValue

variable {lib : ElemsLib} {params : ElemsParseParams}

/-! ## Stores of a case -/

namespace CaseOutcome

def stored (outcome : CaseOutcome) (field : ElemField) : Option ElemPtr :=
  ((outcome.stores.filter fun store => store.1 = field).map Prod.snd).getLast?

def recordsMl (outcome : CaseOutcome) : MlControlType → Bool
  | .reconf => outcome.mlReconf
  | .prioAccess => outcome.mlEpcs
  | _ => false

variable {field other : ElemField} {ptr : ElemPtr} {type : MlControlType}

@[simp] theorem stored_nothing : nothing.stored field = none := rfl

@[simp] theorem stored_fail (error : ℕ) : (fail error).stored field = none := rfl

@[simp] theorem stored_store :
    (store other ptr).stored field = if other = field then some ptr else none := by
  by_cases hfield : other = field <;> simp [stored, store, nothing, hfield]

@[simp] theorem stored_storeIf (ok : Bool) :
    (storeIf ok other ptr).stored field =
      if ok ∧ other = field then some ptr else none := by
  cases ok <;> simp [storeIf]

@[simp] theorem stored_keepIf (ok : Bool) :
    (keepIf ok other ptr).stored field =
      if ok ∧ other = field then some ptr else none := by
  cases ok <;> simp [keepIf]

@[simp] theorem stored_crcToo (outcome : CaseOutcome) :
    outcome.crcToo.stored field = outcome.stored field := rfl

@[simp] theorem stored_fromMode (mode : ConnMode) (outcome : CaseOutcome) :
    (fromMode params mode outcome).stored field =
      if params.mode.rank < mode.rank then none else outcome.stored field := by
  unfold fromMode
  split <;> rfl

@[simp] theorem stored_inS1g (outcome : CaseOutcome) :
    (inS1g params outcome).stored field =
      if params.mode = .s1g then outcome.stored field else none := by
  unfold inS1g
  split <;> rfl

@[simp] theorem recordsMl_nothing : nothing.recordsMl type = false := by
  cases type <;> rfl

@[simp] theorem recordsMl_fail (error : ℕ) : (fail error).recordsMl type = false := by
  cases type <;> rfl

@[simp] theorem recordsMl_store : (store field ptr).recordsMl type = false := by
  cases type <;> rfl

@[simp] theorem recordsMl_storeIf (ok : Bool) :
    (storeIf ok field ptr).recordsMl type = false := by
  cases ok <;> simp [storeIf]

@[simp] theorem recordsMl_keepIf (ok : Bool) :
    (keepIf ok field ptr).recordsMl type = false := by
  cases ok <;> simp [keepIf]

@[simp] theorem recordsMl_crcToo (outcome : CaseOutcome) :
    outcome.crcToo.recordsMl type = outcome.recordsMl type := by
  cases type <;> rfl

@[simp] theorem recordsMl_fromMode (mode : ConnMode) (outcome : CaseOutcome) :
    (fromMode params mode outcome).recordsMl type =
      (decide (mode.rank ≤ params.mode.rank) && outcome.recordsMl type) := by
  unfold fromMode
  by_cases hmode : params.mode.rank < mode.rank
  · simp [hmode, Nat.not_le.2 hmode]
  · simp [hmode, Nat.not_lt.1 hmode]

@[simp] theorem recordsMl_inS1g (outcome : CaseOutcome)
    (hrecords : outcome.recordsMl type = false) :
    (inS1g params outcome).recordsMl type = false := by
  unfold inS1g
  split
  · exact hrecords
  · simp

end CaseOutcome

open CaseOutcome

theorem storeAll_apply (kept : ElemField → Option ElemPtr)
    (stores : List (ElemField × ElemPtr)) (field : ElemField) :
    storeAll kept stores field =
      ((stores.filter fun store => store.1 = field).map Prod.snd).getLast?.or
        (kept field) := by
  induction stores generalizing kept with
  | nil => rfl
  | cons store stores ih =>
      have hcons : storeAll kept (store :: stores) =
          storeAll (Function.update kept store.1 (some store.2)) stores := rfl
      rw [hcons, ih]
      by_cases hfield : store.1 = field
      · have hfilter : ((store :: stores).filter fun store => store.1 = field) =
            store :: stores.filter fun store => store.1 = field := by
          simp [hfield]
        rw [hfilter, List.map_cons, List.getLast?_cons, hfield,
          Function.update_self]
        cases ((stores.filter fun store => store.1 = field).map
          Prod.snd).getLast? <;> rfl
      · have hne : field ≠ store.1 := fun heq => hfield heq.symm
        simp [hfield, Function.update_of_ne hne]

/-! ## Multi-link elements -/

theorem recordsMl_of_id_ne (skip : Bool) (heCap : Option ElemPtr)
    (elem : Element) (type : MlControlType) (hid : elem.id ≠ wlanEidExtension) :
    (parseElementCase lib params skip heCap elem).recordsMl type = false := by
  have hwrapper : (parseChannelSwitchWrapper lib params elem).recordsMl type =
      false := by
    simp only [parseChannelSwitchWrapper]
    split_ifs
    · simp
    · simp
    · split <;> simp
    · cases type <;> rfl
  have hvendor : (parseVendorSpecific skip elem).recordsMl type = false := by
    simp only [parseVendorSpecific]
    split_ifs <;> simp
  have hwideBw : (parseWideBwChannelSwitch params elem).recordsMl type = false := by
    unfold parseWideBwChannelSwitch
    split <;> simp
  have htpe : ({ nothing with tpe := some elem.data } : CaseOutcome).recordsMl
      type = false := by
    cases type <;> rfl
  unfold parseElementCase
  split
  case h_38 heq => exact absurd heq hid
  case h_15 | h_16 => simp only [recordsMl_fromMode]; split <;> simp
  all_goals simp [hwrapper, hvendor, hwideBw, htpe]

def MlControlType.Recorded (type : MlControlType) : Prop :=
  type = .reconf ∨ type = .prioAccess

theorem recordsMl_parseMultiLink (data : List UInt8) {type : MlControlType}
    (htype : type.Recorded) :
    (parseMultiLink data).recordsMl type =
      (ieee80211MleSizeOk data && decide (mlControlType data = type)) := by
  unfold parseMultiLink
  cases ieee80211MleSizeOk data with
  | false => simp
  | true =>
      rcases htype with rfl | rfl <;>
        cases mlControlType data <;> rfl

def ElemsParseParams.recordsMl (params : ElemsParseParams)
    (type : MlControlType) (elem : Element) : Bool :=
  decide (ConnMode.eht.rank ≤ params.mode.rank) && elem.isMultiLink type

theorem recordsMl_extension (heCap : Option ElemPtr) (elem : Element)
    {type : MlControlType} (htype : type.Recorded)
    (hid : elem.id = wlanEidExtension) :
    (ieee80211ParseExtensionElement params heCap elem).recordsMl type =
      params.recordsMl type elem := by
  unfold ieee80211ParseExtensionElement ElemsParseParams.recordsMl
    Element.isMultiLink
  rw [hid]
  cases elem.data with
  | nil => simp
  | cons extId octets =>
      have httlm : (if ieee80211TidToLinkMapSizeOk octets = true then
          { nothing with ttlm := some elem.extData }
          else nothing).recordsMl type = false := by
        split <;> cases type <;> rfl
      by_cases hext : extId = wlanEidExtEhtMultiLink
      · subst hext
        change (fromMode params .eht (parseMultiLink octets).crcToo).recordsMl
          type = _
        rw [recordsMl_fromMode, recordsMl_crcToo,
          recordsMl_parseMultiLink octets htype]
        rfl
      · simp only [List.head?_cons, Option.some.injEq, hext, decide_false,
          Bool.and_false, Bool.false_and]
        split
        case h_11 => exact absurd rfl hext
        case h_13 => simp [httlm]
        all_goals simp

theorem recordsMl_case (skip : Bool) (heCap : Option ElemPtr) (elem : Element)
    {type : MlControlType} (htype : type.Recorded) :
    (parseElementCase lib params skip heCap elem).recordsMl type =
      params.recordsMl type elem := by
  by_cases hid : elem.id = wlanEidExtension
  · rw [← recordsMl_extension heCap elem htype hid]
    unfold parseElementCase
    rw [hid]
    rfl
  · rw [recordsMl_of_id_ne skip heCap elem type hid]
    simp [ElemsParseParams.recordsMl, Element.isMultiLink, hid]

def ElemsParse.mlElem (elems : ElemsParse) : MlControlType → Option Element
  | .reconf => elems.mlReconfElem
  | .prioAccess => elems.mlEpcsElem
  | _ => none

theorem mlElem_apply (elems : ElemsParse) (elem : Element)
    (outcome : CaseOutcome) (type : MlControlType) :
    (elems.apply elem outcome).mlElem type =
      if outcome.recordsMl type then some elem else elems.mlElem type := by
  cases type <;> rfl

theorem parseElement_mlElem (st : PassState) (elem : Element)
    {type : MlControlType} (htype : type.Recorded) :
    (st.parseElement lib params elem).elems.mlElem type =
      if params.recordsMl type elem then some elem
      else st.elems.mlElem type := by
  unfold PassState.parseElement
  split_ifs with hdup hrecords hrecords
  · have hid : elem.id = wlanEidExtension := by
      simp only [ElemsParseParams.recordsMl, Element.isMultiLink,
        Bool.and_eq_true, decide_eq_true_eq] at hrecords
      exact hrecords.2.1.1.1
    have hnot : dupChecked wlanEidExtension = false := rfl
    rw [hid, hnot] at hdup
    simp at hdup
  · cases type <;> rfl
  · rw [mlElem_apply, recordsMl_case _ _ elem htype, if_pos hrecords]
  · rw [mlElem_apply, recordsMl_case _ _ elem htype, if_neg hrecords]

theorem parseElements_mlElem (elements : List Element) (st : PassState)
    {type : MlControlType} (htype : type.Recorded) :
    (elements.foldl (PassState.parseElement lib params) st).elems.mlElem type =
      (elements.filter (params.recordsMl type)).getLast?.or
        (st.elems.mlElem type) := by
  induction elements generalizing st with
  | nil => rfl
  | cons elem elements ih =>
      rw [List.foldl_cons, ih, parseElement_mlElem st elem htype]
      by_cases hrecords : params.recordsMl type elem
      · rw [if_pos hrecords, List.filter_cons_of_pos hrecords,
          List.getLast?_cons]
        cases (elements.filter (params.recordsMl type)).getLast? <;> rfl
      · rw [if_neg hrecords, List.filter_cons_of_neg hrecords]

theorem parseElemsPass_mlElem (elems : ElemsParse)
    (checkInherit : Option Element) {type : MlControlType}
    (htype : type.Recorded) :
    (parseElemsPass lib params elems checkInherit).1.mlElem type =
      ((inheritedElements lib checkInherit params.buf.elements).filter
        (params.recordsMl type)).getLast?.or (elems.mlElem type) := by
  rw [← parseElements_mlElem _ ⟨elems, fun _ => false, params.crc⟩
    htype]
  cases type <;> rfl

end IwlwifiStack
