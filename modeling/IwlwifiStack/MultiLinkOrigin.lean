import IwlwifiStack.EmbeddedProfile

/-!
# Where the multi-link elements come from

The Reconfiguration and the Priority Access multi-link element are recorded in
both passes, but defragmented in the elements of the frame.  They come from
the frame exactly when the profile has no such element.
-/

namespace IwlwifiStack

open TagLengthValue

variable {lib : ElemsLib} {params : ElemsParseParams}

/-! ## What the passes leave alone -/

def ElemsParse.scratch (elems : ElemsParse) :
    ℕ × ℕ × Option (List UInt8) × Option (List UInt8) :=
  (elems.scratchLen, elems.scratchUsed, elems.mlReconf, elems.mlEpcs)

theorem parseElements_scratch (elements : List Element) (st : PassState) :
    (elements.foldl (PassState.parseElement lib params) st).elems.scratch =
      st.elems.scratch := by
  induction elements generalizing st with
  | nil => rfl
  | cons elem elements ih =>
      rw [List.foldl_cons, ih]
      unfold PassState.parseElement
      split <;> rfl

theorem parseElemsPass_scratch (elems : ElemsParse)
    (checkInherit : Option Element) :
    (parseElemsPass lib params elems checkInherit).1.scratch = elems.scratch :=
  parseElements_scratch _ ⟨elems, fun _ => false, params.crc⟩

/-! ## In front of the passes -/

def ElemsParse.ml (elems : ElemsParse) : MlControlType → Option (List UInt8)
  | .reconf => elems.mlReconf
  | .prioAccess => elems.mlEpcs
  | _ => none

/-- Nothing is recorded yet, and the scratch buffer has room for an element of
the frame and for all of the profile. -/
structure ParsePlan.Prepared (params : ElemsParseParams) (plan : ParsePlan) :
    Prop where
  mlElem : ∀ type, plan.elems.mlElem type = none
  ml : ∀ type, plan.elems.ml type = none
  origin : plan.sub.buf.origin = .profile
  mode : plan.sub.buf.octets ≠ [] → plan.sub.mode = params.mode
  room : ∀ {before following : List Element} {elem : Element}
    {type : MlControlType}, type.Recorded → elem.isMultiLink type →
    params.buf.elements = before ++ elem :: following →
      wholeLength wlanEidFragment elem.toItem
          (following.map Element.toItem) + plan.elems.scratchUsed +
        plan.sub.buf.octets.length ≤ plan.elems.scratchLen
  roomAlone : plan.elems.scratchUsed + plan.sub.buf.octets.length ≤
    plan.elems.scratchLen

theorem ieee80211MleGetStaProf_cases (hlib : lib.DefragmentDocumented)
    (elems : ElemsParse) (ml : List UInt8) (linkId : ℤ) :
    ieee80211MleGetStaProf lib elems ml linkId = elems ∨
      ∃ prof : List UInt8, prof.length ≤ ml.length ∧
        ieee80211MleGetStaProf lib elems ml linkId =
          { elems with
            prof := some prof
            scratchUsed := elems.scratchUsed + prof.length } := by
  unfold ieee80211MleGetStaProf
  cases hprof : staProfAmong lib ml elems.room linkId (mleSubelements ml) with
  | none => exact Or.inl rfl
  | some prof =>
      obtain ⟨sub, hsub, hcopy⟩ := staProfAmong_iff.mp hprof
      rw [defragment_profile hlib hsub.good.1 hsub.data_ne_nil] at hcopy
      split_ifs at hcopy
      rw [Option.some.injEq] at hcopy
      exact Or.inr ⟨prof, hcopy ▸ profile_length_le hsub.good.1, rfl⟩

theorem prepared_noProfile {elems : ElemsParse}
    (hmlElem : ∀ type, elems.mlElem type = none)
    (hml : ∀ type, elems.ml type = none)
    (hlen : elems.scratchLen = 3 * params.buf.octets.length)
    (hused : elems.scratchUsed ≤ 2 * params.buf.octets.length) :
    ParsePlan.Prepared params ⟨elems, noProfile, none⟩ where
  mlElem := hmlElem
  ml := hml
  origin := rfl
  mode := fun hne => absurd rfl hne
  room := by
    rintro before following elem type - - hsplit
    have hwhole := wholeLength_le hsplit wlanEidFragment
    have hempty : noProfile.buf.octets.length = 0 := rfl
    dsimp only
    omega
  roomAlone := by
    have hempty : noProfile.buf.octets.length = 0 := rfl
    dsimp only
    omega

theorem prepBssidProfile_prepared (hlib : lib.DefragmentDocumented)
    (bss : CfgBss) :
    (prepBssidProfile lib params (initialElems params) bss).Prepared params := by
  have hprofile : ((ieee80211FindBssidProfile lib params.buf bss).map
      Prod.fst |>.getD []).length ≤ params.buf.octets.length := by
    cases hfound : ieee80211FindBssidProfile lib params.buf bss with
    | none => exact Nat.zero_le _
    | some found =>
        unfold ieee80211FindBssidProfile at hfound
        split at hfound
        · cases hfound
        · obtain ⟨elem, -, hsub⟩ := List.exists_of_findSome?_eq_some hfound
          obtain ⟨sub, -, hat⟩ := List.exists_of_findSome?_eq_some hsub
          unfold bssidProfileAt at hat
          split at hat
          · cases hat
          · split at hat
            · cases hat
            · simp only at hat
              split at hat
              · cases hat
              · split_ifs at hat
                rw [Option.some.injEq] at hat
                rw [← hat]
                exact hlib.mergeProfile_length _ _ _ _
  constructor
  · rintro type
    cases type <;> rfl
  · rintro type
    cases type <;> rfl
  · rfl
  · rintro -
    rfl
  · rintro before following elem type - - hsplit
    have hwhole := wholeLength_le hsplit wlanEidFragment
    simp only [prepBssidProfile, initialElems]
    omega
  · simp only [prepBssidProfile, initialElems]
    omega

theorem basic_beside_recorded {basic elem : Element} {type : MlControlType}
    (htype : type.Recorded)
    {before₁ following₁ before₂ following₂ : List Element}
    (hbasic : params.buf.elements = before₁ ++ basic :: following₁)
    (hisBasic : basic.isMultiLink .basic)
    (helem : params.buf.elements = before₂ ++ elem :: following₂)
    (hisMl : elem.isMultiLink type) :
    wholeLength wlanEidFragment basic.toItem
        (following₁.map Element.toItem) +
      wholeLength wlanEidFragment elem.toItem
        (following₂.map Element.toItem) ≤ params.buf.octets.length := by
  obtain ⟨hid₁, -, htype₁⟩ := isMultiLink_data hisBasic
  obtain ⟨hid₂, -, htype₂⟩ := isMultiLink_data hisMl
  have hne : basic.toItem ≠ elem.toItem := by
    rintro hsame
    rw [hsame, htype₂] at htype₁
    rcases htype with rfl | rfl <;> cases htype₁
  have hfirst := congrArg (List.map Element.toItem) hbasic
  have hsecond := congrArg (List.map Element.toItem) helem
  rw [List.map_append, List.map_cons] at hfirst hsecond
  have hpair := @wholeLength_add_le wlanEidFragment _ _ _ _ _ _ _ hfirst hsecond
    hne (by rw [hid₁]; decide) (by rw [hid₂]; decide)
  rw [elements_map_toItem] at hpair
  exact hpair.trans (items_size_le _ _)

theorem ieee80211PrepMleLinkParse_prepared (hlib : lib.DefragmentDocumented) :
    (ieee80211PrepMleLinkParse lib params (initialElems params)).Prepared
      params := by
  have hmlElem : ∀ type, (initialElems params).mlElem type = none := by
    rintro type
    cases type <;> rfl
  have hml : ∀ type, (initialElems params).ml type = none := by
    rintro type
    cases type <;> rfl
  unfold ieee80211PrepMleLinkParse
  split
  · exact prepared_noProfile hmlElem hml rfl (Nat.zero_le _)
  · cases hbasic : params.buf.elements.find? fun tmp =>
        tmp.isMultiLink .basic with
    | none =>
        simp only [hlib.missing]
        exact prepared_noProfile hmlElem hml rfl (Nat.zero_le _)
    | some basic =>
        have hisBasic := List.find?_some hbasic
        obtain ⟨before, following, hsplit⟩ :=
          List.append_of_mem (List.mem_of_find?_eq_some hbasic)
        have hwhole := wholeLength_le hsplit wlanEidFragment
        have hcontents := contents_length_le basic wlanEidFragment
          (following.map Element.toItem)
        dsimp only
        rw [defragment_listed hlib hsplit (isMultiLink_data hisBasic).2.1]
        split
        · exact prepared_noProfile hmlElem hml rfl (Nat.zero_le _)
        · rename_i ml hcopy
          rw [Option.ite_none_right_eq_some, Option.some.injEq] at hcopy
          have hmlLength : ml.length ≤ wholeLength wlanEidFragment
              basic.toItem (following.map Element.toItem) := by
            rw [← hcopy.2]
            exact hcontents
          have husedMl : (initialElems params).scratchUsed + ml.length ≤
              2 * params.buf.octets.length := by
            dsimp only [initialElems]
            omega
          split
          · exact prepared_noProfile hmlElem hml rfl husedMl
          · obtain hnone | ⟨prof, hprofLength, hsome⟩ :=
              ieee80211MleGetStaProf_cases hlib
                { initialElems params with
                  mlBasicElem := some basic
                  mlBasic := some ml
                  scratchUsed := (initialElems params).scratchUsed + ml.length }
                ml params.linkId
            · rw [hnone]
              exact prepared_noProfile hmlElem hml rfl husedMl
            · rw [hsome]
              have husedProf : (initialElems params).scratchUsed + ml.length +
                  prof.length ≤ 2 * params.buf.octets.length := by
                dsimp only [initialElems]
                omega
              dsimp only
              split
              · exact prepared_noProfile hmlElem hml rfl husedProf
              · have hrest : (prof.drop (staProfHead prof)).length ≤
                    prof.length := by
                  rw [List.length_drop]
                  omega
                constructor
                · exact hmlElem
                · exact hml
                · rfl
                · rintro -
                  rfl
                · rintro before' following' elem type htype hisMl hsplit'
                  have hpair := basic_beside_recorded htype hsplit hisBasic
                    hsplit' hisMl
                  dsimp only [initialElems]
                  omega
                · dsimp only [initialElems]
                  omega

theorem parsePlan_prepared (hlib : lib.DefragmentDocumented)
    (params : ElemsParseParams) : (parsePlan lib params).Prepared params := by
  unfold parsePlan
  cases params.bss with
  | none => exact ieee80211PrepMleLinkParse_prepared hlib
  | some bss => exact prepBssidProfile_prepared hlib bss

/-! ## After the passes -/

def ParsePlan.profileMl (params : ElemsParseParams) (plan : ParsePlan)
    (type : MlControlType) : Option Element :=
  (plan.sub.buf.elements.filter (params.recordsMl type)).getLast?

def parsedElems (lib : ElemsLib) (params : ElemsParseParams) : ElemsParse :=
  parseInner lib params (parsePlan lib params)
    (parseOuter lib params (parsePlan lib params))

theorem parseOuter_mlElem (hlib : lib.DefragmentDocumented)
    {type : MlControlType} (htype : type.Recorded) :
    (parseOuter lib params (parsePlan lib params)).mlElem type =
      ((inheritedElements lib (parsePlan lib params).nonInherit
        params.buf.elements).filter (params.recordsMl type)).getLast? := by
  have hnone := (parsePlan_prepared hlib params).mlElem type
  let start : ElemsParse := { (parsePlan lib params).elems with
    skipVendor := (lib.findElem wlanEidVendorSpecific
      (parsePlan lib params).sub.buf).isSome }
  have hstart : start.mlElem type = none := by
    rw [← hnone]
    cases type <;> rfl
  have houter : (parseOuter lib params (parsePlan lib params)).mlElem type =
      (parseElemsPass lib params start
        (parsePlan lib params).nonInherit).1.mlElem type := by
    cases type <;> rfl
  rw [houter, parseElemsPass_mlElem _ _ htype, hstart, Option.or_none]

theorem parsedElems_mlElem (hlib : lib.DefragmentDocumented)
    {type : MlControlType} (htype : type.Recorded) :
    (parsedElems lib params).mlElem type =
      ((parsePlan lib params).profileMl params type).or
        ((inheritedElements lib (parsePlan lib params).nonInherit
          params.buf.elements).filter (params.recordsMl type)).getLast? := by
  rw [← parseOuter_mlElem hlib htype]
  unfold parsedElems parseInner ParsePlan.profileMl
  split
  · rename_i hempty
    have hnone : (parsePlan lib params).sub.buf.elements = [] := by
      rw [ElementBuf.elements, hempty]
      rfl
    rw [hnone]
    rfl
  · rename_i hne
    have hmode := (parsePlan_prepared hlib params).mode hne
    have hrecords : (parsePlan lib params).sub.recordsMl type =
        params.recordsMl type := by
      funext elem
      simp only [ElemsParseParams.recordsMl, hmode]
    rw [parseElemsPass_mlElem _ _ htype, hrecords]
    cases type <;> rfl

theorem parsedElems_scratch :
    (parsedElems lib params).scratch = (parsePlan lib params).elems.scratch := by
  have houter : (parseOuter lib params (parsePlan lib params)).scratch =
      (parsePlan lib params).elems.scratch :=
    parseElemsPass_scratch { (parsePlan lib params).elems with
      skipVendor := (lib.findElem wlanEidVendorSpecific
        (parsePlan lib params).sub.buf).isSome }
      (parsePlan lib params).nonInherit
  rw [← houter]
  unfold parsedElems parseInner
  split
  · rfl
  · exact parseElemsPass_scratch
      { parseOuter lib params (parsePlan lib params) with
        multiLinkInner := params.bss.isNone
        skipVendor := false } none

/-! ## The defragmented elements -/

/-- A multi-link element that is set holds the contents of the recorded
element, and this is an element of the frame. -/
def MlFromFrame (frame : ElementBuf) (type : MlControlType)
    (recorded : Option Element) (ml : Option (List UInt8)) : Prop :=
  ∀ contents, ml = some contents →
    ∃ (elem : Element) (before following : List Element),
      recorded = some elem ∧ frame.elements = before ++ elem :: following ∧
        elem.isMultiLink type ∧
        contents = elem.data.tail ++ fragmentData wlanEidFragment
          elem.data.length (following.map Element.toItem)

theorem mlFromFrame_of_mem (hlib : lib.DefragmentDocumented)
    {frame : ElementBuf} {elem : Element} {type : MlControlType}
    (hmem : elem ∈ frame.elements) (hml : elem.isMultiLink type) (room : ℕ) :
    MlFromFrame frame type (some elem)
      (lib.defragmentElement (some elem) frame room wlanEidFragment) := by
  rintro contents hcontents
  obtain ⟨before, following, hsplit⟩ := List.append_of_mem hmem
  obtain ⟨hid, hdata, -⟩ := isMultiLink_data hml
  rw [defragment_listed hlib hsplit hdata, Option.ite_none_right_eq_some,
    Option.some.injEq] at hcontents
  refine ⟨elem, before, following, rfl, hsplit, hml, ?_⟩
  rw [← hcontents.2, Element.contents, Element.payload, if_pos hid]

theorem mlFromFrame_missing (hlib : lib.DefragmentDocumented)
    (frame : ElementBuf) (type : MlControlType) (room : ℕ) :
    MlFromFrame frame type none
      (lib.defragmentElement none frame room wlanEidFragment) := by
  rintro contents hcontents
  rw [hlib.missing] at hcontents
  cases hcontents

theorem not_mlFromFrame (hlib : lib.DefragmentDocumented)
    {frame own : ElementBuf} {elem : Element} {type : MlControlType}
    (hmem : elem ∈ own.elements) (hdata : elem.data ≠ [])
    (horigin : own.origin ≠ frame.origin) {room : ℕ}
    (hroom : own.octets.length ≤ room) :
    ¬MlFromFrame frame type (some elem)
      (lib.defragmentElement (some elem) frame room wlanEidFragment) := by
  rintro hfrom
  obtain ⟨before, following, hsplit⟩ := List.append_of_mem hmem
  obtain ⟨after, hwithin, -⟩ := within_of_elements hsplit
  have hlength := hwithin.2.length_le
  have hown := origin_of_mem_elements hmem
  have hcopied := hlib.elsewhere hwithin hdata (hown ▸ horigin) room
    wlanEidFragment (by omega)
  obtain ⟨contents, hcontents⟩ := Option.isSome_iff_exists.1 hcopied
  obtain ⟨other, before', following', hother, hframe, -⟩ :=
    hfrom contents hcontents
  rw [Option.some.injEq] at hother
  have hmem' : elem ∈ frame.elements := by
    rw [hframe, hother]
    simp
  exact horigin (hown.symm.trans (origin_of_mem_elements hmem'))

theorem mleDefragReconf_mlReconf {elems : ElemsParse}
    (hnone : elems.mlReconf = none) :
    (ieee80211MleDefragReconf lib params elems).mlReconf =
      lib.defragmentElement elems.mlReconfElem params.buf elems.room
        wlanEidFragment := by
  unfold ieee80211MleDefragReconf
  split
  · rename_i hcopy
    rw [hcopy, hnone]
  · rename_i ml hcopy
    rw [hcopy]

theorem mleDefragReconf_rest (elems : ElemsParse)
    (hnone : elems.mlReconf = none) :
    let reconf := ieee80211MleDefragReconf lib params elems
    reconf.mlReconfElem = elems.mlReconfElem ∧
      reconf.mlEpcsElem = elems.mlEpcsElem ∧ reconf.mlEpcs = elems.mlEpcs ∧
      reconf.room = elems.scratchLen -
        (elems.scratchUsed + (reconf.mlReconf.getD []).length) := by
  unfold ieee80211MleDefragReconf
  split
  · simp only [hnone, Option.getD_none, List.length_nil, Nat.add_zero,
      ElemsParse.room, and_self]
  · simp only [Option.getD_some, ElemsParse.room, and_self]

theorem mleDefragEpcs_mlEpcs {elems : ElemsParse} (hnone : elems.mlEpcs = none) :
    (ieee80211MleDefragEpcs lib params elems).mlEpcs =
      lib.defragmentElement elems.mlEpcsElem params.buf elems.room
        wlanEidFragment := by
  unfold ieee80211MleDefragEpcs
  split
  · rename_i hcopy
    rw [hcopy, hnone]
  · rename_i ml hcopy
    rw [hcopy]

theorem mleDefragEpcs_rest (elems : ElemsParse) :
    let epcs := ieee80211MleDefragEpcs lib params elems
    epcs.mlReconfElem = elems.mlReconfElem ∧
      epcs.mlEpcsElem = elems.mlEpcsElem ∧ epcs.mlReconf = elems.mlReconf := by
  unfold ieee80211MleDefragEpcs
  split <;> exact ⟨rfl, rfl, rfl⟩

/-- The result of the parse, read off the state after the passes. -/
structure Defragmented (lib : ElemsLib) (params : ElemsParseParams)
    (elems : ElemsParse) : Prop where
  reconfElem : elems.mlReconfElem = (parsedElems lib params).mlReconfElem
  epcsElem : elems.mlEpcsElem = (parsedElems lib params).mlEpcsElem
  reconf : elems.mlReconf =
    lib.defragmentElement (parsedElems lib params).mlReconfElem params.buf
      (parsedElems lib params).room wlanEidFragment
  epcs : elems.mlEpcs =
    lib.defragmentElement (parsedElems lib params).mlEpcsElem params.buf
      ((parsedElems lib params).scratchLen -
        ((parsedElems lib params).scratchUsed +
          (elems.mlReconf.getD []).length)) wlanEidFragment

theorem parseElemsFull_defragmented (hlib : lib.DefragmentDocumented)
    {elems : ElemsParse}
    (hparse : ieee80211ParseElemsFull lib params = some elems) :
    Defragmented lib params elems := by
  unfold ieee80211ParseElemsFull at hparse
  split_ifs at hparse
  rw [Option.some.injEq] at hparse
  have hscratch := @parsedElems_scratch lib params
  have hplan := parsePlan_prepared hlib params
  have hreconf : (parsedElems lib params).mlReconf = none :=
    (congrArg (fun scratch => scratch.2.2.1) hscratch).trans (hplan.ml .reconf)
  have hepcs : (parsedElems lib params).mlEpcs = none :=
    (congrArg (fun scratch => scratch.2.2.2) hscratch).trans
      (hplan.ml .prioAccess)
  obtain ⟨hreconfElem, hepcsElem, hepcs', hroom⟩ :=
    @mleDefragReconf_rest lib params _ hreconf
  obtain ⟨hreconfElem', hepcsElem', hreconf'⟩ :=
    @mleDefragEpcs_rest lib params
      (ieee80211MleDefragReconf lib params (parsedElems lib params))
  subst hparse
  constructor
  · exact hreconfElem'.trans hreconfElem
  · exact hepcsElem'.trans hepcsElem
  · exact hreconf'.trans (mleDefragReconf_mlReconf hreconf)
  · have hcopy := @mleDefragEpcs_mlEpcs lib params _
      (hepcs'.trans hepcs)
    rw [hepcsElem, hroom, ← hreconf'] at hcopy
    exact hcopy

/-- No element of the profile is recorded: the mode does not know multi-link
elements, or the profile has none of the two types. -/
def ParsePlan.NoMlInProfile (params : ElemsParseParams) (plan : ParsePlan) :
    Prop :=
  ∀ elem ∈ plan.sub.buf.elements, ∀ type : MlControlType, type.Recorded →
    params.recordsMl type elem = false

theorem profileMl_none {plan : ParsePlan}
    (hnone : plan.NoMlInProfile params) {type : MlControlType}
    (htype : type.Recorded) : plan.profileMl params type = none := by
  have hfilter : plan.sub.buf.elements.filter (params.recordsMl type) = [] := by
    rw [List.filter_eq_nil_iff]
    rintro elem hmem
    rw [hnone elem hmem type htype]
    simp
  rw [ParsePlan.profileMl, hfilter]
  rfl

theorem mem_of_profileMl {plan : ParsePlan} {type : MlControlType}
    {elem : Element} (hlast : plan.profileMl params type = some elem) :
    elem ∈ plan.sub.buf.elements ∧ elem.isMultiLink type := by
  have hmem := List.mem_of_getLast? hlast
  rw [List.mem_filter, ElemsParseParams.recordsMl, Bool.and_eq_true] at hmem
  exact ⟨hmem.1, hmem.2.2⟩

theorem recorded_from_frame (hlib : lib.DefragmentDocumented)
    {type : MlControlType} (htype : type.Recorded)
    (hprofile : (parsePlan lib params).profileMl params type = none)
    {elem : Element} (helem : (parsedElems lib params).mlElem type = some elem) :
    elem ∈ params.buf.elements ∧ elem.isMultiLink type := by
  rw [parsedElems_mlElem hlib htype, hprofile, Option.none_or] at helem
  have hmem := List.mem_of_getLast? helem
  rw [List.mem_filter, ElemsParseParams.recordsMl, Bool.and_eq_true] at hmem
  refine ⟨?_, hmem.2.2⟩
  unfold inheritedElements at hmem
  split at hmem
  · exact hmem.1
  · exact List.mem_of_mem_filter hmem.1

theorem noMlInProfile_of_none {plan : ParsePlan}
    (hnone : ∀ type : MlControlType, type.Recorded →
      plan.profileMl params type = none) : plan.NoMlInProfile params := by
  rintro elem hmem type htype
  by_contra hrecords
  rw [Bool.not_eq_false] at hrecords
  have hfilter := List.getLast?_eq_none_iff.1 (hnone type htype)
  have hlisted : elem ∈ plan.sub.buf.elements.filter (params.recordsMl type) :=
    List.mem_filter.2 ⟨hmem, hrecords⟩
  rw [hfilter] at hlisted
  cases hlisted

theorem not_fromFrame_of_profile (hlib : lib.DefragmentDocumented)
    (hframe : params.buf.origin = .frame) {type : MlControlType}
    (htype : type.Recorded) {elem : Element}
    (hprofile : (parsePlan lib params).profileMl params type = some elem)
    {room : ℕ}
    (hroom : (parsePlan lib params).sub.buf.octets.length ≤ room) :
    ¬MlFromFrame params.buf type ((parsedElems lib params).mlElem type)
      (lib.defragmentElement ((parsedElems lib params).mlElem type) params.buf
        room wlanEidFragment) := by
  obtain ⟨hmem, hml⟩ := mem_of_profileMl hprofile
  have horigin : (parsePlan lib params).sub.buf.origin ≠ params.buf.origin := by
    rw [(parsePlan_prepared hlib params).origin, hframe]
    decide
  have helem := @parsedElems_mlElem _ params hlib _ htype
  rw [hprofile, Option.some_or] at helem
  rw [helem]
  exact not_mlFromFrame hlib hmem (isMultiLink_data hml).2.1 horigin hroom

/-- The multi-link elements that are set come from the frame, exactly when the
profile that it embeds has no such element. -/
theorem mlElements_fromFrame_iff (hlib : lib.DefragmentDocumented)
    {elems : ElemsParse} (hframe : params.buf.origin = .frame)
    (hparse : ieee80211ParseElemsFull lib params = some elems) :
    ((MlFromFrame params.buf .reconf elems.mlReconfElem elems.mlReconf ∧
      MlFromFrame params.buf .prioAccess elems.mlEpcsElem elems.mlEpcs) ↔
      (parsePlan lib params).NoMlInProfile params) ∧
    ((parsePlan lib params).sub.buf.octets ≠ [] →
      params.Embeds lib (parsePlan lib params).sub.buf.octets) ∧
    ∀ octets, octets ≠ [] → params.Embeds lib octets →
      params.Embeds lib (parsePlan lib params).sub.buf.octets ∧
      (params.bss = none → (parsePlan lib params).sub.buf.octets = octets) := by
  refine ⟨?_, parsePlan_embeds hlib⟩
  have hresult := parseElemsFull_defragmented hlib hparse
  have hplan := parsePlan_prepared hlib params
  have hscratch := @parsedElems_scratch lib params
  have hlen : (parsedElems lib params).scratchLen =
      (parsePlan lib params).elems.scratchLen := congrArg Prod.fst hscratch
  have hused : (parsedElems lib params).scratchUsed =
      (parsePlan lib params).elems.scratchUsed :=
    congrArg (fun scratch => scratch.2.1) hscratch
  constructor
  · rintro ⟨hreconf, hepcs⟩
    have hroom : (parsePlan lib params).sub.buf.octets.length ≤
        (parsedElems lib params).room := by
      have halone := hplan.roomAlone
      rw [ElemsParse.room, hlen, hused]
      omega
    -- what a Reconfiguration element of the frame takes leaves enough
    have hroomAfter : (parsePlan lib params).sub.buf.octets.length ≤
        (parsedElems lib params).scratchLen -
          ((parsedElems lib params).scratchUsed +
            (elems.mlReconf.getD []).length) := by
      rw [hlen, hused]
      cases hml : elems.mlReconf with
      | none =>
          have halone := hplan.roomAlone
          simp only [Option.getD_none, List.length_nil]
          omega
      | some ml =>
          obtain ⟨elem, before, following, -, hsplit, hisMl, hcontents⟩ :=
            hreconf ml hml
          have hboth := hplan.room (Or.inl rfl) hisMl hsplit
          have hlength : ml.length ≤ wholeLength wlanEidFragment elem.toItem
              (following.map Element.toItem) := by
            rw [hcontents, List.length_append, List.length_tail, wholeLength]
            omega
          simp only [Option.getD_some]
          omega
    rw [hresult.reconfElem, hresult.reconf] at hreconf
    rw [hresult.epcsElem, hresult.epcs] at hepcs
    apply noMlInProfile_of_none
    rintro type (rfl | rfl)
    · by_contra hsome
      obtain ⟨elem, helem⟩ := Option.ne_none_iff_exists'.1 hsome
      exact not_fromFrame_of_profile hlib hframe (Or.inl rfl) helem hroom hreconf
    · by_contra hsome
      obtain ⟨elem, helem⟩ := Option.ne_none_iff_exists'.1 hsome
      exact not_fromFrame_of_profile hlib hframe (Or.inr rfl) helem hroomAfter
        hepcs
  · rintro hnone
    constructor
    · rw [hresult.reconfElem, hresult.reconf]
      cases helem : (parsedElems lib params).mlReconfElem with
      | none => exact mlFromFrame_missing hlib _ _ _
      | some elem =>
          obtain ⟨hmem, hml⟩ := recorded_from_frame hlib (Or.inl rfl)
            (profileMl_none hnone (Or.inl rfl)) helem
          exact mlFromFrame_of_mem hlib hmem hml _
    · rw [hresult.epcsElem, hresult.epcs]
      cases helem : (parsedElems lib params).mlEpcsElem with
      | none => exact mlFromFrame_missing hlib _ _ _
      | some elem =>
          obtain ⟨hmem, hml⟩ := recorded_from_frame hlib (Or.inr rfl)
            (profileMl_none hnone (Or.inr rfl)) helem
          exact mlFromFrame_of_mem hlib hmem hml _

/-! ## Association responses -/

def reconfMlOctets : List UInt8 :=
  [255, 4, 107, 2, 0, 1]

/-- A Reconfiguration element of the frame, and a profile with an SSID. -/
theorem mlElements_fromFrame_reconf :
    ∃ elems : ElemsParse, ieee80211ParseElemsFull cfg80211Lib
        (assocRespParams (basicMlOctets [0, 1, 65] ++ reconfMlOctets)) =
          some elems ∧
      elems.mlReconf = some [2, 0, 1] ∧
      MlFromFrame ⟨.frame, 0, basicMlOctets [0, 1, 65] ++ reconfMlOctets⟩
        .reconf elems.mlReconfElem elems.mlReconf := by
  obtain ⟨elems, hparse⟩ := Option.isSome_iff_exists.1
    (by decide +kernel : (ieee80211ParseElemsFull cfg80211Lib (assocRespParams
      (basicMlOctets [0, 1, 65] ++ reconfMlOctets))).isSome = true)
  have hreconf : (ieee80211ParseElemsFull cfg80211Lib (assocRespParams
      (basicMlOctets [0, 1, 65] ++ reconfMlOctets))).bind ElemsParse.mlReconf =
        some [2, 0, 1] := by
    decide +kernel
  have hprofile : ((parsePlan cfg80211Lib (assocRespParams
      (basicMlOctets [0, 1, 65] ++ reconfMlOctets))).sub.buf.elements.all
        fun elem => elem.id = wlanEidSsid) = true := by
    decide +kernel
  rw [hparse] at hreconf
  refine ⟨elems, hparse, hreconf, ?_⟩
  apply ((mlElements_fromFrame_iff cfg80211Lib_defragmentDocumented rfl
    hparse).1.2 _).1
  rintro elem hmem type -
  have hid := List.all_eq_true.1 hprofile elem hmem
  rw [decide_eq_true_eq] at hid
  simp [ElemsParseParams.recordsMl, Element.isMultiLink, hid, wlanEidSsid,
    wlanEidExtension]

/-- A Reconfiguration element that only the profile has is taken for one of the
frame. -/
theorem mlReconf_from_profile :
    ∃ elems : ElemsParse, ieee80211ParseElemsFull cfg80211Lib
        (assocRespParams (basicMlOctets reconfMlOctets)) = some elems ∧
      elems.mlReconf = some [2, 0, 1] ∧
      (∀ elem ∈ ElementBuf.elements
        ⟨.frame, 0, basicMlOctets reconfMlOctets⟩,
          ¬elem.isMultiLink .reconf) ∧
      ¬MlFromFrame ⟨.frame, 0, basicMlOctets reconfMlOctets⟩ .reconf
        elems.mlReconfElem elems.mlReconf := by
  obtain ⟨elems, hparse⟩ := Option.isSome_iff_exists.1
    (by decide +kernel : (ieee80211ParseElemsFull cfg80211Lib
      (assocRespParams (basicMlOctets reconfMlOctets))).isSome = true)
  have hreconf : (ieee80211ParseElemsFull cfg80211Lib (assocRespParams
      (basicMlOctets reconfMlOctets))).bind ElemsParse.mlReconf =
        some [2, 0, 1] := by
    decide +kernel
  have hframe : ∀ elem ∈ ElementBuf.elements
      ⟨.frame, 0, basicMlOctets reconfMlOctets⟩,
        ¬elem.isMultiLink .reconf := by
    decide +kernel
  rw [hparse] at hreconf
  refine ⟨elems, hparse, hreconf, hframe, ?_⟩
  rintro hfrom
  obtain ⟨elem, before, following, -, hsplit, hml, -⟩ := hfrom _ hreconf
  apply hframe elem _ hml
  rw [hsplit]
  simp

end IwlwifiStack
