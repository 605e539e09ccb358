import IwlwifiStack.ElementOccurrences

/-!
# The outcome of parsing a frame

What `ieee802_11_parse_elems_full` reports for a frame that is parsed without a profile: the
pointers to the elements that may occur once, the errors for a repeated element and for bytes
after the last element, and where the pointers point.
-/

namespace IwlwifiStack

open TagLengthValue
open CaseOutcome

variable {lib : ElemsLib} {params : ElemsParseParams}

/-! ## Refused elements -/

theorem parseElementCase_of_dupChecked {elem : Element} (hdup : dupChecked elem.id = true)
    (skip : Bool) (heCap : Option ElemPtr) :
    parseElementCase lib params skip heCap elem =
      parseElementCase lib params false none elem := by
  unfold parseElementCase
  dsimp only
  split
  case h_8 hid => 
    rw [hid] at hdup
    cases hdup
  case h_38 hid =>
    rw [hid] at hdup
    cases hdup
  all_goals rfl

def CaseOutcome.LocalError (outcome : CaseOutcome) : Prop :=
  outcome.parseFailed.testBit 0 = false ∧ outcome.parseFailed.testBit 1 = false

namespace CaseOutcome

variable {field : ElemField} {ptr : ElemPtr}

@[simp] theorem localError_nothing : nothing.LocalError :=
  ⟨rfl, rfl⟩

@[simp] theorem localError_badSize : (fail parseErrBadElemSize).LocalError :=
  ⟨rfl, rfl⟩

@[simp] theorem localError_unexpected : (fail parseErrUnexpectedElem).LocalError :=
  ⟨rfl, rfl⟩

@[simp] theorem localError_store : (store field ptr).LocalError :=
  localError_nothing

@[simp] theorem localError_storeIf (ok : Bool) : (storeIf ok field ptr).LocalError := by
  cases ok with
  | true => exact localError_store
  | false => exact localError_nothing

@[simp] theorem localError_keepIf (ok : Bool) : (keepIf ok field ptr).LocalError := by
  cases ok with
  | true => exact localError_store
  | false => exact localError_badSize

@[simp] theorem localError_crcToo (outcome : CaseOutcome) :
    outcome.crcToo.LocalError ↔ outcome.LocalError :=
  Iff.rfl

@[simp] theorem localError_fromMode (mode : ConnMode) {outcome : CaseOutcome}
    (hlocal : outcome.LocalError) : (fromMode params mode outcome).LocalError := by
  unfold fromMode
  split
  · exact localError_nothing
  · exact hlocal

@[simp] theorem localError_inS1g {outcome : CaseOutcome} (hlocal : outcome.LocalError) :
    (inS1g params outcome).LocalError := by
  unfold inS1g
  split
  · exact hlocal
  · exact localError_nothing

end CaseOutcome

theorem parseExtensionElement_localError (heCap : Option ElemPtr) (elem : Element) :
    (ieee80211ParseExtensionElement params heCap elem).LocalError := by
  unfold ieee80211ParseExtensionElement
  split
  · exact localError_nothing
  · next extId octets _ =>
    dsimp only
    have hml : (parseMultiLink octets).LocalError := by
      unfold parseMultiLink
      split
      · split
        all_goals exact localError_nothing
      · exact localError_nothing
    have httlm : (if ieee80211TidToLinkMapSizeOk octets then
        { nothing with ttlm := some elem.extData } else nothing).LocalError := by
      split
      · exact localError_nothing
      · exact localError_nothing
    split
    all_goals simp [hml, httlm]

theorem localError_found (sub : Option Element) (ok : Element → Bool) (field : ElemField)
    (ptr : Element → ElemPtr) :
    (match sub with
      | some sub => keepIf (ok sub) field (ptr sub)
      | none => nothing).LocalError := by
  split
  · exact localError_keepIf _
  · exact localError_nothing

theorem parseChannelSwitchWrapper_localError (elem : Element) :
    (parseChannelSwitchWrapper lib params elem).LocalError := by
  have hwide := localError_found (lib.findElem wlanEidWideBwChannelSwitch elem.subelements)
    (fun sub => decide (3 ≤ sub.data.length)) .wideBwChanswIe Element.pos
  have hbw := localError_found
    (lib.findExtElem wlanEidExtBandwidthIndication elem.subelements)
    (fun sub => ieee80211BandwidthIndicationSizeOk sub.data.tail) .bandwidthIndication
    Element.extData
  unfold parseChannelSwitchWrapper
  dsimp only
  split_ifs
  · exact localError_nothing
  · exact localError_unexpected
  · exact hwide
  · constructor
    · rw [Nat.testBit_or]
      exact Bool.or_eq_false_iff.mpr ⟨hwide.1, hbw.1⟩
    · rw [Nat.testBit_or]
      exact Bool.or_eq_false_iff.mpr ⟨hwide.2, hbw.2⟩

theorem parseElementCase_localError (skip : Bool) (heCap : Option ElemPtr) (elem : Element) :
    (parseElementCase lib params skip heCap elem).LocalError := by
  have hvendor : (parseVendorSpecific skip elem).LocalError := by
    unfold parseVendorSpecific
    dsimp only
    split_ifs
    all_goals simp
  have hwide : (parseWideBwChannelSwitch params elem).LocalError := by
    unfold parseWideBwChannelSwitch
    split
    all_goals simp
  have htpe : ({ nothing with tpe := some elem.data } : CaseOutcome).LocalError :=
    localError_nothing
  unfold parseElementCase
  dsimp only
  split
  case h_15 | h_16 =>
    apply localError_fromMode
    split
    all_goals simp
  case h_30 => exact parseChannelSwitchWrapper_localError elem
  case h_38 => exact parseExtensionElement_localError heCap elem
  all_goals simp [hvendor, hwide, htpe]

/-! ## One element -/

def Element.refused (lib : ElemsLib) (params : ElemsParseParams) (elem : Element) : Bool :=
  (parseElementCase lib params false none elem).parseFailed ≠ 0

theorem parseElement_again {st : PassState} {elem : Element} (hdup : dupChecked elem.id = true)
    (hseen : st.seen elem.id = true) :
    st.parseElement lib params elem =
      { st with
        elems := { st.elems with
          parseError := st.elems.parseError ||| parseErrDupElem } } := by
  rw [PassState.parseElement, hdup, hseen]
  rfl

theorem parseElement_new {st : PassState} {elem : Element}
    (hnew : (dupChecked elem.id && st.seen elem.id) = false) :
    (st.parseElement lib params elem).elems = st.elems.apply elem
        (parseElementCase lib params st.elems.skipVendor (st.elems.kept .heCap) elem) ∧
      (st.parseElement lib params elem).seen =
        if (parseElementCase lib params st.elems.skipVendor (st.elems.kept .heCap)
            elem).parseFailed = 0 then Function.update st.seen elem.id true
        else st.seen := by
  rw [PassState.parseElement, hnew]
  exact ⟨rfl, rfl⟩

theorem parseElement_seen {id : UInt8} (hid : dupChecked id = true) (st : PassState)
    (elem : Element) :
    (st.parseElement lib params elem).seen id =
      (st.seen id || decide (elem.id = id) && !elem.refused lib params) := by
  cases hagain : dupChecked elem.id && st.seen elem.id with
  | true =>
    rcases Bool.and_eq_true_iff.mp hagain with ⟨hdup, hseen⟩
    rw [parseElement_again hdup hseen]
    by_cases hsame : elem.id = id
    · rw [← hsame, hseen]
      rfl
    · simp [hsame]
  | false =>
    rw [(parseElement_new hagain).2]
    by_cases hsame : elem.id = id
    · have hdup : dupChecked elem.id = true := hsame ▸ hid
      rw [parseElementCase_of_dupChecked hdup]
      by_cases hfailed : (parseElementCase lib params false none elem).parseFailed = 0
      · simp [Element.refused, hfailed, hsame]
      · simp [Element.refused, hfailed]
    · have hother : id ≠ elem.id := fun heq => hsame heq.symm
      split
      · simp [Function.update_of_ne hother, hsame]
      · simp [hsame]

/-! ## The errors of a pass -/

def RepeatsIn (lib : ElemsLib) (params : ElemsParseParams) (seen : UInt8 → Bool)
    (elements : List Element) : Prop :=
  ∃ before elem after, elements = before ++ elem :: after ∧ dupChecked elem.id = true ∧
    (seen elem.id = true ∨ ∃ first ∈ before, first.id = elem.id ∧
      first.refused lib params = false)

theorem parseElement_dupError (st : PassState) (elem : Element) :
    (st.parseElement lib params elem).elems.parseError.testBit 1 =
      (st.elems.parseError.testBit 1 || dupChecked elem.id && st.seen elem.id) := by
  cases hagain : dupChecked elem.id && st.seen elem.id with
  | true =>
    rcases Bool.and_eq_true_iff.mp hagain with ⟨hdup, hseen⟩
    rw [parseElement_again hdup hseen, Nat.testBit_or]
    rfl
  | false =>
    rw [(parseElement_new hagain).1]
    have hlocal : (parseElementCase lib params st.elems.skipVendor (st.elems.kept .heCap)
        elem).LocalError := parseElementCase_localError _ _ _
    simp only [ElemsParse.apply, Nat.testBit_or, hlocal.2, Bool.or_false]
    split
    · exact Bool.or_false _
    · exact Bool.or_false _

theorem parseElement_endError (st : PassState) (elem : Element) :
    (st.parseElement lib params elem).elems.parseError.testBit 0 =
      st.elems.parseError.testBit 0 := by
  cases hagain : dupChecked elem.id && st.seen elem.id with
  | true =>
    rcases Bool.and_eq_true_iff.mp hagain with ⟨hdup, hseen⟩
    rw [parseElement_again hdup hseen, Nat.testBit_or]
    exact Bool.or_false _
  | false =>
    rw [(parseElement_new hagain).1]
    have hlocal : (parseElementCase lib params st.elems.skipVendor (st.elems.kept .heCap)
        elem).LocalError := parseElementCase_localError _ _ _
    simp only [ElemsParse.apply, Nat.testBit_or, hlocal.1, Bool.or_false]
    split
    · exact Bool.or_false _
    · exact Bool.or_false _

theorem parseElements_endError (elements : List Element) (st : PassState) :
    (elements.foldl (PassState.parseElement lib params) st).elems.parseError.testBit 0 =
      st.elems.parseError.testBit 0 := by
  induction elements generalizing st with
  | nil => rfl
  | cons elem rest ih => rw [List.foldl_cons, ih, parseElement_endError]

theorem repeatsIn_cons_iff (st : PassState) (elem : Element) (rest : List Element) :
    RepeatsIn lib params st.seen (elem :: rest) ↔
      (dupChecked elem.id = true ∧ st.seen elem.id = true) ∨
        RepeatsIn lib params (st.parseElement lib params elem).seen rest := by
  constructor
  · rintro ⟨before, later, after, hsplit, hdup, hearlier⟩
    cases before with
    | nil =>
      rw [List.nil_append, List.cons.injEq] at hsplit
      rcases hearlier with hseen | ⟨first, hfirst, _⟩
      · exact Or.inl ⟨hsplit.1 ▸ hdup, hsplit.1 ▸ hseen⟩
      · exact absurd hfirst List.not_mem_nil
    | cons head before =>
      rw [List.cons_append, List.cons.injEq] at hsplit
      right
      apply Exists.intro before
      apply Exists.intro later
      apply Exists.intro after
      apply And.intro hsplit.2
      apply And.intro hdup
      rw [parseElement_seen hdup, hsplit.1]
      rcases hearlier with hseen | ⟨first, hfirst, hid, hkept⟩
      · simp [hseen]
      · rcases List.mem_cons.mp hfirst with hhead | hbefore
        · rw [hhead] at hid hkept
          simp [hid, hkept]
        · exact Or.inr ⟨first, hbefore, hid, hkept⟩
  · rintro (⟨hdup, hseen⟩ | ⟨before, later, after, hsplit, hdup, hearlier⟩)
    · exact ⟨[], elem, rest, rfl, hdup, Or.inl hseen⟩
    · apply Exists.intro (elem :: before)
      apply Exists.intro later
      apply Exists.intro after
      apply And.intro (by rw [hsplit, List.cons_append])
      apply And.intro hdup
      rw [parseElement_seen hdup] at hearlier
      rcases hearlier with hseen | ⟨first, hfirst, hid, hkept⟩
      · rcases Bool.or_eq_true_iff.mp hseen with hbefore | hhere
        · exact Or.inl hbefore
        · rcases Bool.and_eq_true_iff.mp hhere with ⟨hid, hkept⟩
          exact Or.inr ⟨elem, List.mem_cons_self, of_decide_eq_true hid, by simpa using hkept⟩
      · exact Or.inr ⟨first, List.mem_cons_of_mem _ hfirst, hid, hkept⟩

theorem not_repeatsIn_nil (seen : UInt8 → Bool) : ¬RepeatsIn lib params seen [] := by
  rintro ⟨before, elem, after, hsplit, _⟩
  exact absurd hsplit.symm (by simp)

theorem parseElements_dupError (elements : List Element) (st : PassState) :
    (elements.foldl (PassState.parseElement lib params) st).elems.parseError.testBit 1 = true ↔
      st.elems.parseError.testBit 1 = true ∨ RepeatsIn lib params st.seen elements := by
  induction elements generalizing st with
  | nil => simp [not_repeatsIn_nil]
  | cons elem rest ih =>
    rw [List.foldl_cons, ih, parseElement_dupError, repeatsIn_cons_iff, Bool.or_eq_true_iff,
      Bool.and_eq_true_iff, or_assoc]

/-! ## The pointers of a pass -/

theorem kept_apply (elems : ElemsParse) (elem : Element) (outcome : CaseOutcome)
    (field : ElemField) :
    (elems.apply elem outcome).kept field = (outcome.stored field).or (elems.kept field) :=
  storeAll_apply elems.kept outcome.stores field

theorem parseElement_kept {st : PassState} {elem : Element}
    (hnew : (dupChecked elem.id && st.seen elem.id) = false) (field : ElemField) :
    (st.parseElement lib params elem).elems.kept field =
      ((parseElementCase lib params st.elems.skipVendor (st.elems.kept .heCap)
        elem).stored field).or (st.elems.kept field) := by
  rw [(parseElement_new hnew).1, kept_apply]

/-- What the pass assumes of the field and of the elements, for the rule of the field to say what
is kept.  In frames other than action frames the bandwidth of a channel switch comes from another
element.  A BSS Max Idle Period element that is too short counts as seen. -/
structure RuleDecides (params : ElemsParseParams) (field : ElemField) (rule : SingleRule)
    (elements : List Element) : Prop where
  rule_eq : field.single = some rule
  frame : field = .wideBwChanswIe → params.isAction = true
  idle : field = .maxIdlePeriodIe → ∀ elem ∈ elements, elem.id = wlanEidBssMaxIdlePeriod →
    3 ≤ elem.data.length

variable {field : ElemField} {rule : SingleRule} {elem : Element} {rest : List Element}

theorem RuleDecides.tail (hrule : RuleDecides params field rule (elem :: rest)) :
    RuleDecides params field rule rest where
  rule_eq := hrule.rule_eq
  frame := hrule.frame
  idle := fun hfield later hmem => hrule.idle hfield later (List.mem_cons_of_mem _ hmem)

theorem RuleDecides.refused (hrule : RuleDecides params field rule (elem :: rest))
    (happlies : rule.applies params = true) (hid : elem.id = rule.id)
    (hlength : rule.length elem.data.length = false) : elem.refused lib params = true := by
  by_cases hfield : field = .maxIdlePeriodIe
  · subst hfield
    have hsame := Option.some.inj hrule.rule_eq
    rw [← hsame] at hid hlength
    have hlong := hrule.idle rfl elem List.mem_cons_self hid
    exact absurd hlong (of_decide_eq_false hlength)
  · have hrefuses : rule.Refuses params elem (parseElementCase lib params false none elem) :=
      single_refuses hrule.rule_eq hfield hid _ _
    exact decide_eq_true (hrefuses happlies hlength)

theorem RuleDecides.accepted (hrule : RuleDecides params field rule (elem :: rest))
    (happlies : rule.applies params = true) (hid : elem.id = rule.id)
    (hlength : rule.length elem.data.length = true) : elem.refused lib params = false := by
  have hstores : rule.Stores params elem field (parseElementCase lib params false none elem) :=
    single_stores hrule.rule_eq hid _ _
  exact decide_eq_false (not_not_intro (hstores.accepted happlies hlength))

theorem parseElement_kept_unaccepted (hlib : lib.FindsMembers)
    (hrule : RuleDecides params field rule (elem :: rest))
    (hnot : rule.accepts params elem = false) (st : PassState) :
    (st.parseElement lib params elem).elems.kept field = st.elems.kept field := by
  cases hagain : dupChecked elem.id && st.seen elem.id with
  | true =>
    rcases Bool.and_eq_true_iff.mp hagain with ⟨hdup, hmarked⟩
    rw [parseElement_again hdup hmarked]
  | false =>
    rw [parseElement_kept hagain]
    by_cases hid : elem.id = rule.id
    · have hstores : rule.Stores params elem field (parseElementCase lib params
          st.elems.skipVendor (st.elems.kept .heCap) elem) :=
        single_stores hrule.rule_eq hid _ _
      have hbad : (rule.applies params && rule.length elem.data.length) = false := by
        simpa [SingleRule.accepts, hid] using hnot
      rw [hstores.stored, hbad]
      rfl
    · rw [single_stored_other hlib hrule.rule_eq hrule.frame hid]
      rfl

theorem parseElements_kept_unaccepted (hlib : lib.FindsMembers) (elements : List Element)
    (hrule : RuleDecides params field rule elements)
    (hnot : ∀ elem ∈ elements, rule.accepts params elem = false) (st : PassState) :
    (elements.foldl (PassState.parseElement lib params) st).elems.kept field =
      st.elems.kept field := by
  induction elements generalizing st with
  | nil => rfl
  | cons elem rest ih =>
    rw [List.foldl_cons, ih hrule.tail fun later hmem => hnot later (List.mem_cons_of_mem _ hmem)]
    exact parseElement_kept_unaccepted hlib hrule (hnot elem List.mem_cons_self) st

theorem parseElements_kept_seen (hlib : lib.FindsMembers) (elements : List Element)
    (hrule : RuleDecides params field rule elements) {st : PassState}
    (hseen : st.seen rule.id = true) :
    (elements.foldl (PassState.parseElement lib params) st).elems.kept field =
      st.elems.kept field := by
  induction elements generalizing st with
  | nil => rfl
  | cons elem rest ih =>
    have hstill : (st.parseElement lib params elem).seen rule.id = true := by
      rw [parseElement_seen (single_dupChecked hrule.rule_eq), hseen]
      rfl
    rw [List.foldl_cons, ih hrule.tail hstill]
    cases hagain : dupChecked elem.id && st.seen elem.id with
    | true =>
      rcases Bool.and_eq_true_iff.mp hagain with ⟨hdup, hmarked⟩
      rw [parseElement_again hdup hmarked]
    | false =>
      have hid : elem.id ≠ rule.id := by
        intro hid
        rw [hid, single_dupChecked hrule.rule_eq, hseen] at hagain
        cases hagain
      rw [parseElement_kept hagain,
        single_stored_other hlib hrule.rule_eq hrule.frame hid]
      rfl

theorem parseElements_kept_first (hlib : lib.FindsMembers) (happlies : rule.applies params = true)
    (elements : List Element) (hrule : RuleDecides params field rule elements) {st : PassState}
    (hunseen : st.seen rule.id = false) :
    (elements.foldl (PassState.parseElement lib params) st).elems.kept field =
      ((elements.find? (rule.accepts params)).map rule.ptr).or (st.elems.kept field) := by
  induction elements generalizing st with
  | nil => rfl
  | cons elem rest ih =>
    have hdup := single_dupChecked hrule.rule_eq
    rw [List.foldl_cons]
    cases haccepts : rule.accepts params elem with
    | true =>
      rcases Bool.and_eq_true_iff.mp haccepts with ⟨hlooked, hlength⟩
      have hid : elem.id = rule.id := of_decide_eq_true (Bool.and_eq_true_iff.mp hlooked).1
      have hseen : (st.parseElement lib params elem).seen rule.id = true := by
        rw [parseElement_seen hdup, hid, hrule.accepted happlies hid hlength]
        simp
      have hnew : (dupChecked elem.id && st.seen elem.id) = false := by
        rw [hid, hunseen, Bool.and_false]
      have hstores : rule.Stores params elem field (parseElementCase lib params
          st.elems.skipVendor (st.elems.kept .heCap) elem) :=
        single_stores hrule.rule_eq hid _ _
      rw [parseElements_kept_seen hlib rest hrule.tail hseen, parseElement_kept hnew,
        hstores.stored, happlies, hlength, List.find?_cons_of_pos haccepts]
      rfl
    | false =>
      have hstill : (st.parseElement lib params elem).seen rule.id = false := by
        rw [parseElement_seen hdup, hunseen, Bool.false_or]
        by_cases hid : elem.id = rule.id
        · have hlength : rule.length elem.data.length = false := by
            simpa [SingleRule.accepts, hid, happlies] using haccepts
          rw [hrule.refused happlies hid hlength]
          simp
        · simp [hid]
      rw [ih hrule.tail hstill, parseElement_kept_unaccepted hlib hrule haccepts,
        List.find?_cons_of_neg (by rw [haccepts]; exact Bool.false_ne_true)]

theorem parseElements_single (hlib : lib.FindsMembers) (elements : List Element)
    (hrule : RuleDecides params field rule elements) {st : PassState}
    (hunseen : st.seen rule.id = false) (hnone : st.elems.kept field = none) :
    (elements.foldl (PassState.parseElement lib params) st).elems.kept field =
      (elements.find? (rule.accepts params)).map rule.ptr := by
  cases happlies : rule.applies params with
  | true =>
    rw [parseElements_kept_first hlib happlies elements hrule hunseen, hnone, Option.or_none]
  | false =>
    have hnot : ∀ elem ∈ elements, rule.accepts params elem = false := by
      intro elem _
      simp [SingleRule.accepts, happlies]
    have hfind : elements.find? (rule.accepts params) = none := by
      rw [List.find?_eq_none]
      intro elem hmem haccepts
      rw [hnot elem hmem] at haccepts
      cases haccepts
    rw [parseElements_kept_unaccepted hlib elements hrule hnot, hnone, hfind]
    rfl

/-! ## TID-to-link mappings -/

namespace CaseOutcome

variable {other : ElemField} {ptr : ElemPtr}

@[simp] theorem ttlm_nothing : nothing.ttlm = none := rfl

@[simp] theorem ttlm_fail (error : ℕ) : (fail error).ttlm = none := rfl

@[simp] theorem ttlm_store : (store other ptr).ttlm = none := rfl

@[simp] theorem ttlm_storeIf (ok : Bool) : (storeIf ok other ptr).ttlm = none := by
  cases ok with
  | true => rfl
  | false => rfl

@[simp] theorem ttlm_keepIf (ok : Bool) : (keepIf ok other ptr).ttlm = none := by
  cases ok with
  | true => rfl
  | false => rfl

@[simp] theorem ttlm_crcToo (outcome : CaseOutcome) : outcome.crcToo.ttlm = outcome.ttlm := rfl

@[simp] theorem ttlm_fromMode (mode : ConnMode) (outcome : CaseOutcome) :
    (fromMode params mode outcome).ttlm =
      if params.mode.rank < mode.rank then none else outcome.ttlm := by
  unfold fromMode
  split
  · rfl
  · rfl

@[simp] theorem ttlm_inS1g (outcome : CaseOutcome) :
    (inS1g params outcome).ttlm = if params.mode = .s1g then outcome.ttlm else none := by
  unfold inS1g
  split
  · rfl
  · rfl

end CaseOutcome

theorem parseElementCase_ttlm_other {elem : Element} (hid : elem.id ≠ wlanEidExtension)
    (skip : Bool) (heCap : Option ElemPtr) :
    (parseElementCase lib params skip heCap elem).ttlm = none := by
  have hwrapper : (parseChannelSwitchWrapper lib params elem).ttlm = none := by
    unfold parseChannelSwitchWrapper
    dsimp only
    split_ifs
    · rfl
    · rfl
    · split
      · exact ttlm_keepIf _
      · rfl
    · rfl
  have hvendor : (parseVendorSpecific skip elem).ttlm = none := by
    unfold parseVendorSpecific
    dsimp only
    split_ifs
    all_goals rfl
  have hwide : (parseWideBwChannelSwitch params elem).ttlm = none := by
    unfold parseWideBwChannelSwitch
    split
    · exact ttlm_keepIf _
    · rfl
  unfold parseElementCase
  dsimp only
  split
  case h_38 hext => exact absurd hext hid
  case h_15 | h_16 =>
    rw [ttlm_fromMode]
    split
    · rfl
    · split
      · rfl
      · rfl
  all_goals simp [hwrapper, hvendor, hwide]

theorem parseExtensionElement_ttlm {heCap : Option ElemPtr} {elem : Element} {ptr : ElemPtr}
    (httlm : (ieee80211ParseExtensionElement params heCap elem).ttlm = some ptr) :
    ptr.Inside elem.buf := by
  unfold ieee80211ParseExtensionElement at httlm
  split at httlm
  · cases httlm
  · next extId octets hdata =>
    have hml : (parseMultiLink octets).ttlm = none := by
      unfold parseMultiLink
      split
      · split
        all_goals rfl
      · rfl
    have hinside : elem.extData.Inside elem.buf :=
      Element.extData_inside (by rw [hdata]; exact List.cons_ne_nil _ _)
    dsimp only at httlm
    split at httlm
    case h_13 =>
      rw [ttlm_fromMode] at httlm
      split at httlm
      · cases httlm
      · rw [ttlm_crcToo] at httlm
        split at httlm
        · exact Option.some.inj httlm ▸ hinside
        · cases httlm
    all_goals simp [hml] at httlm

/-! ## Every pointer points into the frame -/

/-- What is recorded of the elements of a list lies in the list. -/
structure PointsInto (elems : ElemsParse) (buf : ElementBuf) : Prop where
  kept : ∀ field ptr, elems.kept field = some ptr → ptr.Inside buf
  ttlm : ∀ ptr ∈ elems.ttlm, ptr.Inside buf

theorem PointsInto.apply {elems : ElemsParse} {buf : ElementBuf} (hinto : PointsInto elems buf)
    (hlib : lib.FindsMembers) {elem : Element} (hmem : elem ∈ buf.elements) (skip : Bool)
    (heCap : Option ElemPtr) :
    PointsInto (elems.apply elem (parseElementCase lib params skip heCap elem)) buf where
  kept := by
    intro field ptr hkept
    rw [kept_apply] at hkept
    cases hstored : (parseElementCase lib params skip heCap elem).stored field with
    | none =>
      rw [hstored] at hkept
      exact hinto.kept field ptr hkept
    | some stored =>
      rw [hstored] at hkept
      have honly : (parseElementCase lib params skip heCap elem).OnlyStores elem.MayStore :=
        parseElementCase_onlyStores hlib _ _ _
      have hinside := (honly.of_stored hstored).2
      rw [Option.some.inj hkept] at hinside
      exact hinside.of_mem hmem
  ttlm := by
    intro ptr hptr
    have hcases : ptr ∈ elems.ttlm ∨
        (parseElementCase lib params skip heCap elem).ttlm = some ptr := by
      simp only [ElemsParse.apply] at hptr
      split at hptr
      · rcases List.mem_append.mp hptr with hold | hnew
        · exact Or.inl hold
        · exact Or.inr (Option.mem_toList.mp hnew)
      · exact Or.inl hptr
    rcases hcases with hold | hnew
    · exact hinto.ttlm ptr hold
    · have hid : elem.id = wlanEidExtension := by
        by_contra hother
        rw [parseElementCase_ttlm_other hother] at hnew
        cases hnew
      have hcase : parseElementCase lib params skip heCap elem =
          ieee80211ParseExtensionElement params heCap elem := by
        unfold parseElementCase
        rw [hid]
        rfl
      rw [hcase] at hnew
      exact (parseExtensionElement_ttlm hnew).of_mem hmem

theorem parseElement_pointsInto (hlib : lib.FindsMembers) {buf : ElementBuf} {elem : Element}
    (hmem : elem ∈ buf.elements) {st : PassState} (hinto : PointsInto st.elems buf) :
    PointsInto (st.parseElement lib params elem).elems buf := by
  cases hagain : dupChecked elem.id && st.seen elem.id with
  | true =>
    rcases Bool.and_eq_true_iff.mp hagain with ⟨hdup, hseen⟩
    rw [parseElement_again hdup hseen]
    exact ⟨hinto.kept, hinto.ttlm⟩
  | false =>
    rw [(parseElement_new hagain).1]
    exact hinto.apply hlib hmem _ _

theorem parseElements_pointsInto (hlib : lib.FindsMembers) {buf : ElementBuf}
    (elements : List Element) (hmem : ∀ elem ∈ elements, elem ∈ buf.elements) {st : PassState}
    (hinto : PointsInto st.elems buf) :
    PointsInto (elements.foldl (PassState.parseElement lib params) st).elems buf := by
  induction elements generalizing st with
  | nil => exact hinto
  | cons elem rest ih =>
    apply ih fun later hlater => hmem later (List.mem_cons_of_mem _ hlater)
    exact parseElement_pointsInto hlib (hmem elem List.mem_cons_self) hinto

/-! ## Frames parsed without a profile -/

/-- The result and the pass over the frame that it comes from. -/
structure FromPass (lib : ElemsLib) (params : ElemsParseParams) (start elems : ElemsParse) :
    Prop where
  kept : elems.kept = (parseElemsPass lib params start none).1.kept
  ttlm : elems.ttlm = (parseElemsPass lib params start none).1.ttlm
  parseError : elems.parseError = (parseElemsPass lib params start none).1.parseError

/-- A pass starts without pointers and errors. -/
structure Fresh (start : ElemsParse) : Prop where
  kept : start.kept = fun _ => none
  ttlm : start.ttlm = []
  parseError : start.parseError = 0

theorem prepMleLinkParse_noLink (hlink : params.linkId = -1) :
    Fresh (ieee80211PrepMleLinkParse lib params (initialElems params)).elems ∧
      (ieee80211PrepMleLinkParse lib params (initialElems params)).sub = noProfile ∧
      (ieee80211PrepMleLinkParse lib params (initialElems params)).nonInherit = none := by
  unfold ieee80211PrepMleLinkParse
  split
  · exact ⟨⟨rfl, rfl, rfl⟩, rfl, rfl⟩
  · dsimp only
    split
    · exact ⟨⟨rfl, rfl, rfl⟩, rfl, rfl⟩
    · exact ⟨⟨rfl, rfl, rfl⟩, rfl, rfl⟩

theorem mleDefrag_fromPass {start elems : ElemsParse} (hpass : FromPass lib params start elems) :
    FromPass lib params start (setDtim (ieee80211MleDefragEpcs lib params
      (ieee80211MleDefragReconf lib params elems))) := by
  have hreconf : FromPass lib params start (ieee80211MleDefragReconf lib params elems) := by
    unfold ieee80211MleDefragReconf
    split
    · exact hpass
    · exact ⟨hpass.kept, hpass.ttlm, hpass.parseError⟩
  have hepcs : FromPass lib params start (ieee80211MleDefragEpcs lib params
      (ieee80211MleDefragReconf lib params elems)) := by
    unfold ieee80211MleDefragEpcs
    split
    · exact hreconf
    · exact ⟨hreconf.kept, hreconf.ttlm, hreconf.parseError⟩
  exact ⟨hepcs.kept, hepcs.ttlm, hepcs.parseError⟩

theorem parseElemsFull_onePass (hbss : params.bss = none) (hlink : params.linkId = -1) :
    ∃ start elems, Fresh start ∧ ieee80211ParseElemsFull lib params = some elems ∧
      FromPass lib params start elems := by
  rcases @prepMleLinkParse_noLink lib params hlink with ⟨hfresh, hsub, hinherit⟩
  have hplan : parsePlan lib params =
      ieee80211PrepMleLinkParse lib params (initialElems params) := by
    rw [parsePlan, hbss]
  have hlow : ¬(0 ≤ params.linkId ∧ params.bss.isSome = true) := by
    rw [hbss]
    simp
  let plan := ieee80211PrepMleLinkParse lib params (initialElems params)
  let start : ElemsParse := { plan.elems with
    skipVendor := (lib.findElem wlanEidVendorSpecific plan.sub.buf).isSome }
  have houter : FromPass lib params start (parseOuter lib params plan) := by
    unfold parseOuter
    rw [hinherit]
    exact ⟨rfl, rfl, rfl⟩
  have hinner : parseInner lib params plan (parseOuter lib params plan) =
      parseOuter lib params plan := by
    rw [parseInner, hsub]
    rfl
  apply Exists.intro start
  apply Exists.intro (setDtim (ieee80211MleDefragEpcs lib params
    (ieee80211MleDefragReconf lib params (parseOuter lib params plan))))
  apply And.intro ⟨hfresh.kept, hfresh.ttlm, hfresh.parseError⟩
  constructor
  · rw [ieee80211ParseElemsFull, if_neg hlow]
    simp only [hplan]
    rw [hinner]
  · exact mleDefrag_fromPass houter

/-- What is reported for a frame. -/
structure ParsedOutcome (lib : ElemsLib) (params : ElemsParseParams) (elems : ElemsParse) :
    Prop where
  /-- A pointer to an element that may occur once is the first acceptable element of its ID. -/
  first : ∀ field rule, RuleDecides params field rule params.buf.elements →
    elems.kept field = (params.buf.elements.find? (rule.accepts params)).map rule.ptr
  /-- A checked ID occurs again after an element that was not refused. -/
  dupElem : elems.parseError.testBit 1 = true ↔
    ∃ before elem after, params.buf.elements = before ++ elem :: after ∧
      dupChecked elem.id = true ∧
        ∃ earlier ∈ before, earlier.id = elem.id ∧ earlier.refused lib params = false
  /-- The bytes do not end with an element. -/
  invalidEnd : elems.parseError.testBit 0 = true ↔
    params.buf.octets ≠ params.buf.elements.flatMap fun elem => elem.toItem.octets
  inside : PointsInto elems params.buf

theorem elements_flatMap_octets (buf : ElementBuf) :
    (buf.elements.flatMap fun elem => elem.toItem.octets) =
      (items buf.start buf.octets).flatMap Item.octets := by
  unfold ElementBuf.elements
  rw [List.flatMap_map]

theorem parseElemsPass_elements (start : ElemsParse) :
    ∃ st : PassState, st = params.buf.elements.foldl (PassState.parseElement lib params)
        ⟨start, fun _ => false, params.crc⟩ ∧
      (parseElemsPass lib params start none).1 = { st.elems with
        parseError := if (leftover params.buf.start params.buf.octets).isEmpty
          then st.elems.parseError else st.elems.parseError ||| parseErrInvalidEnd } :=
  ⟨_, rfl, rfl⟩

/-- The outcome of `ieee802_11_parse_elems_full` for every frame parsed without a profile. -/
theorem parseElemsFull_outcome (hlib : lib.FindsMembers) (hbss : params.bss = none)
    (hlink : params.linkId = -1) :
    ∃ elems, ieee80211ParseElemsFull lib params = some elems ∧
      ParsedOutcome lib params elems := by
  rcases @parseElemsFull_onePass lib params hbss hlink with ⟨start, elems, hfresh, hfull, hpass⟩
  rcases @parseElemsPass_elements lib params start with ⟨st, hst, hresult⟩
  have hkept : elems.kept = st.elems.kept := by
    rw [hpass.kept, hresult]
  have httlm : elems.ttlm = st.elems.ttlm := by
    rw [hpass.ttlm, hresult]
  have herror : elems.parseError =
      if (leftover params.buf.start params.buf.octets).isEmpty then st.elems.parseError
      else st.elems.parseError ||| parseErrInvalidEnd := by
    rw [hpass.parseError, hresult]
  have hnoDup : st.elems.parseError.testBit 1 = true ↔
      RepeatsIn lib params (fun _ => false) params.buf.elements := by
    rw [hst, parseElements_dupError, hfresh.parseError]
    simp
  have hnoEnd : st.elems.parseError.testBit 0 = false := by
    rw [hst, parseElements_endError, hfresh.parseError]
    rfl
  apply Exists.intro elems
  apply And.intro hfull
  constructor
  · intro field rule hrule
    rw [hkept, hst]
    exact parseElements_single hlib _ hrule rfl (congrFun hfresh.kept field)
  · have hbit : elems.parseError.testBit 1 = st.elems.parseError.testBit 1 := by
      rw [herror]
      split
      · rfl
      · rw [Nat.testBit_or]
        exact Bool.or_false _
    rw [hbit, hnoDup]
    simp only [RepeatsIn, Bool.false_eq_true, false_or]
  · rw [elements_flatMap_octets, ne_eq, ← leftover_eq_nil_iff, herror]
    cases hleft : leftover params.buf.start params.buf.octets with
    | nil => simp [hnoEnd]
    | cons octet rest =>
      simp only [List.isEmpty_cons, Bool.false_eq_true, if_false, Nat.testBit_or]
      simp [parseErrInvalidEnd]
  · have hstart : PointsInto start params.buf := by
      constructor
      · intro field ptr hptr
        rw [hfresh.kept] at hptr
        cases hptr
      · intro ptr hptr
        rw [hfresh.ttlm] at hptr
        exact absurd hptr List.not_mem_nil
    have hinto : PointsInto st.elems params.buf := by
      rw [hst]
      exact parseElements_pointsInto hlib params.buf.elements (fun _ hmem => hmem) hstart
    constructor
    · rw [hkept]
      exact hinto.kept
    · rw [httlm]
      exact hinto.ttlm

/-! ## A refused element does not count -/

/-- A beacon with a DS Parameter Set element of no octets before a good one. -/
def emptyDsBeacon : ElemsParseParams where
  mode := .eht
  buf := ⟨.frame, 0, [wlanEidDsParams, 0, wlanEidDsParams, 1, 6]⟩
  type := 0x80
  filter := 0
  crc := 0
  bss := none
  linkId := -1
  fromAp := true

/-- The ID is on the list and occurs twice, and only the bad size is recorded. -/
theorem emptyDsBeacon_no_dup :
    dupChecked wlanEidDsParams = true ∧
      emptyDsBeacon.buf.elements.map (fun elem => elem.id) = [wlanEidDsParams, wlanEidDsParams] ∧
      (ieee80211ParseElemsFull cfg80211Lib emptyDsBeacon).map (fun elems =>
        elems.parseError) = some parseErrBadElemSize ∧
      parseErrBadElemSize.testBit 1 = false := by
  decide +kernel

theorem emptyDsBeacon_outcome :
    ∃ elems, ieee80211ParseElemsFull cfg80211Lib emptyDsBeacon = some elems ∧
      ParsedOutcome cfg80211Lib emptyDsBeacon elems :=
  parseElemsFull_outcome cfg80211Lib_findsMembers rfl rfl

end IwlwifiStack
