import IwlwifiStack.ElementLibrary
import IwlwifiStack.ElementPass

/-!
# The profile that a frame embeds

Which bytes of a frame are the profile of the link or of the nontransmitted BSS
that it is parsed for.  The second pass parses these bytes, and the
non-inheritance element is theirs.
-/

namespace IwlwifiStack

open TagLengthValue

variable {lib : ElemsLib} {params : ElemsParseParams}

/-! ## Elements of a list -/

theorem elements_map_toItem (buf : ElementBuf) :
    buf.elements.map Element.toItem = items buf.start buf.octets := by
  simp [ElementBuf.elements, Function.comp_def]

theorem origin_of_mem_elements {buf : ElementBuf} {elem : Element}
    (hmem : elem ∈ buf.elements) : elem.origin = buf.origin := by
  obtain ⟨item, -, rfl⟩ := List.mem_map.1 hmem
  rfl

theorem within_of_elements {buf : ElementBuf} {before following : List Element}
    {elem : Element} (hsplit : buf.elements = before ++ elem :: following) :
    ∃ after, elem.Within buf after ∧
      items (elem.offset + 2 + elem.data.length) after =
        following.map Element.toItem := by
  have hitems := congrArg (List.map Element.toItem) hsplit
  rw [elements_map_toItem, List.map_append, List.map_cons] at hitems
  obtain ⟨after, hstands, hafter⟩ := standsIn_of_items hitems
  have hmem : elem ∈ buf.elements := by
    rw [hsplit]
    simp
  exact ⟨after, ⟨origin_of_mem_elements hmem, hstands⟩, hafter⟩

theorem defragment_listed (hlib : lib.DefragmentDocumented) {buf : ElementBuf}
    {before following : List Element} {elem : Element}
    (hsplit : buf.elements = before ++ elem :: following)
    (hdata : elem.data ≠ []) (room : ℕ) (fragId : UInt8) :
    lib.defragmentElement (some elem) buf room fragId =
      if (elem.contents fragId (following.map Element.toItem)).length ≤ room
      then some (elem.contents fragId (following.map Element.toItem))
      else none := by
  obtain ⟨after, hwithin, hafter⟩ := within_of_elements hsplit
  have hcopy := hlib.within hwithin hdata room fragId
  rw [hafter] at hcopy
  exact hcopy

theorem contents_length_le (elem : Element) (fragId : UInt8)
    (following : List Item) :
    (elem.contents fragId following).length ≤
      wholeLength fragId elem.toItem following := by
  have hpayload := elem.payload_length_le
  rw [Element.contents, List.length_append, wholeLength]
  omega

theorem wholeLength_le {buf : ElementBuf} {before following : List Element}
    {elem : Element} (hsplit : buf.elements = before ++ elem :: following)
    (fragId : UInt8) :
    wholeLength fragId elem.toItem (following.map Element.toItem) ≤
      buf.octets.length := by
  have hitems := congrArg (List.map Element.toItem) hsplit
  rw [elements_map_toItem, List.map_append, List.map_cons] at hitems
  have hsize := items_size_le buf.start buf.octets
  have hfragments := fragmentData_length_le fragId elem.data.length
    (following.map Element.toItem)
  rw [hitems, List.map_append, List.sum_append, List.map_cons,
    List.sum_cons] at hsize
  rw [wholeLength]
  omega

theorem isMultiLink_data {elem : Element} {type : MlControlType}
    (hml : elem.isMultiLink type) :
    elem.id = wlanEidExtension ∧ elem.data ≠ [] ∧
      mlControlType elem.data.tail = type := by
  simp only [Element.isMultiLink, Bool.and_eq_true, decide_eq_true_eq] at hml
  obtain ⟨⟨⟨hid, hhead⟩, -⟩, htype⟩ := hml
  refine ⟨hid, ?_, htype⟩
  rintro hnil
  rw [hnil] at hhead
  cases hhead

/-! ## Profiles of a link -/

def Element.behind (sub : Element) (ml : List UInt8) : List Item :=
  items (sub.offset + 2 + sub.data.length) (ml.drop (sub.offset + 2 + sub.data.length))

def Element.profile (sub : Element) (ml : List UInt8) : List UInt8 :=
  sub.contents 254 (sub.behind ml)

theorem Element.Within.drop_behind {sub : Element} {ml after : List UInt8}
    (hwithin : sub.Within ⟨.basicMl, 0, ml⟩ after) :
    ml.drop (sub.offset + 2 + sub.data.length) = after := by
  rw [← hwithin.drop_after, Nat.sub_zero, Nat.add_assoc, Nat.add_comm 2]

def ElemsParseParams.BasicMle (params : ElemsParseParams) (ml : List UInt8) : Prop :=
  ∃ before basic following, params.buf.elements = before ++ basic :: following ∧
    (∀ elem ∈ before, elem.isMultiLink .basic = false) ∧
    basic.isMultiLink .basic = true ∧
    ml = basic.contents wlanEidFragment (following.map Element.toItem)

/-- The first per-STA profile of a link; it is complete, and none in front of it
is malformed. -/
inductive StaProfileOf (linkId : ℤ) : List Element → Element → Prop
  | here {sub : Element} {rest : List Element} : sub.id = 0 →
      ieee80211MleBasicStaProfSizeOk sub.data = true →
      linkId = (getLe16 sub.data 0 : ℤ) % 16 →
      hasBits (getLe16 sub.data 0) 0x0010 = true →
      StaProfileOf linkId (sub :: rest) sub
  | later {first sub : Element} {rest : List Element} :
      (first.id = 0 → ieee80211MleBasicStaProfSizeOk first.data = true ∧
        linkId ≠ (getLe16 first.data 0 : ℤ) % 16) →
      StaProfileOf linkId rest sub → StaProfileOf linkId (first :: rest) sub

/-- A profile of the nontransmitted BSS: its BSSID index gives the BSSID. -/
def ElemsParseParams.NontransmittedProfile (lib : ElemsLib) (params : ElemsParseParams)
    (bss : CfgBss) (octets : List UInt8) : Prop :=
  ∃ transmitted ∈ bss.transmittedBss, ∃ elem ∈ params.buf.elements,
    (elem.id = wlanEidMultipleBssid ∧ 2 ≤ elem.data.length ∧
      1 ≤ dataOctet elem.data 0 ∧ dataOctet elem.data 0 ≤ 8) ∧
    ∃ sub ∈ ElementBuf.elements ⟨elem.origin, elem.offset + 3, elem.data.tail⟩,
      (sub.id = 0 ∧ 4 ≤ sub.data.length ∧ sub.data[0]? = some wlanEidNonTxBssidCap ∧
        sub.data[1]? = some 2) ∧
      octets = lib.mergeProfile params.buf elem sub params.buf.octets.length ∧
      ∃ index ∈ lib.findElem wlanEidMultiBssidIdx ⟨.profile, 0, octets⟩,
        1 ≤ index.data.length ∧ index.data.getD 0 0 ≠ 0 ∧
        lib.genNewBssid transmitted (elem.data.getD 0 0) (index.data.getD 0 0) = bss.bssid

/-- The elements of the profile that the frame is parsed for.  With a link ID
they stand behind the station info, the capability information and the status
code. -/
def ElemsParseParams.Embeds (lib : ElemsLib) (params : ElemsParseParams)
    (octets : List UInt8) : Prop :=
  match params.bss with
  | some bss => params.NontransmittedProfile lib bss octets
  | none => ConnMode.eht.rank ≤ params.mode.rank ∧
      ∃ ml, params.BasicMle ml ∧ ∃ sub, StaProfileOf params.linkId (mleSubelements ml) sub ∧
        octets = (sub.profile ml).drop (2 + dataOctet (sub.profile ml) 2 + 4)

namespace StaProfileOf

variable {linkId : ℤ} {subs : List Element} {sub : Element}

theorem good (hsub : StaProfileOf linkId subs sub) :
    sub ∈ subs ∧ sub.id = 0 ∧ ieee80211MleBasicStaProfSizeOk sub.data = true ∧
      linkId = (getLe16 sub.data 0 : ℤ) % 16 := by
  induction hsub with
  | here hid hsize hlink _ => exact ⟨List.mem_cons_self, hid, hsize, hlink⟩
  | later _ _ ih => exact ⟨List.mem_cons_of_mem _ ih.1, ih.2⟩

theorem data_ne_nil (hsub : StaProfileOf linkId subs sub) : sub.data ≠ [] := by
  intro hnil
  have hsize := hsub.good.2.2.1
  rw [hnil] at hsize
  simp [ieee80211MleBasicStaProfSizeOk] at hsize

end StaProfileOf

theorem StaProfileOf.skip_iff {linkId : ℤ} {first sub : Element} {subs : List Element}
    (hfirst : first.id = 0 → ieee80211MleBasicStaProfSizeOk first.data = true ∧
      linkId ≠ (getLe16 first.data 0 : ℤ) % 16) :
    StaProfileOf linkId (first :: subs) sub ↔ StaProfileOf linkId subs sub := by
  constructor
  · intro hsub
    cases hsub with
    | here hid _ hlink => exact absurd hlink (hfirst hid).2
    | later _ hsub => exact hsub
  · exact .later hfirst

theorem staProfAmong_iff {ml prof : List UInt8} {room : ℕ} {linkId : ℤ}
    {subs : List Element} :
    staProfAmong lib ml room linkId subs = some prof ↔
      ∃ sub, StaProfileOf linkId subs sub ∧
        lib.defragmentElement (some sub) ⟨.basicMl, 0, ml⟩ room 254 = some prof := by
  induction subs with
  | nil =>
      constructor
      · intro hprof
        cases hprof
      · rintro ⟨sub, hsub, -⟩
        cases hsub
  | cons first subs ih =>
      rw [staProfAmong]
      by_cases hid : first.id = 0
      · rw [if_neg (not_not.mpr hid)]
        by_cases hsize : ieee80211MleBasicStaProfSizeOk first.data = true
        · rw [if_neg (not_not.mpr hsize)]
          by_cases hlink : linkId = (getLe16 first.data 0 : ℤ) % 16
          · rw [if_neg (not_not.mpr hlink)]
            by_cases hcomplete : hasBits (getLe16 first.data 0) 0x0010 = true
            · rw [if_neg (not_not.mpr hcomplete)]
              constructor
              · exact fun hcopy => ⟨first, .here hid hsize hlink hcomplete, hcopy⟩
              · rintro ⟨sub, hsub, hcopy⟩
                cases hsub with
                | here => exact hcopy
                | later hfirst => exact absurd hlink (hfirst hid).2
            · rw [if_pos hcomplete]
              constructor
              · intro hprof
                cases hprof
              · rintro ⟨sub, hsub, -⟩
                cases hsub with
                | here _ _ _ hbits => exact absurd hbits hcomplete
                | later hfirst => exact absurd hlink (hfirst hid).2
          · rw [if_pos hlink, ih]
            simp only [StaProfileOf.skip_iff fun _ => ⟨hsize, hlink⟩]
        · rw [if_pos hsize]
          constructor
          · intro hprof
            cases hprof
          · rintro ⟨sub, hsub, -⟩
            cases hsub with
            | here _ hok => exact absurd hok hsize
            | later hfirst => exact absurd (hfirst hid).1 hsize
      · rw [if_pos hid, ih]
        simp only [StaProfileOf.skip_iff fun hzero => absurd hzero hid]

/-! ## The profile of a subelement -/

theorem within_mleSubelements {ml : List UInt8} {sub : Element}
    (hmem : sub ∈ mleSubelements ml) :
    ∃ after, sub.Within ⟨.basicMl, 0, ml⟩ after := by
  unfold mleSubelements at hmem
  split at hmem
  · obtain ⟨before, following, hsplit⟩ := List.append_of_mem hmem
    obtain ⟨after, ⟨horigin, hstands⟩, -⟩ := within_of_elements hsplit
    refine ⟨after, horigin, ?_⟩
    have hlength : ieee80211MleCommonSize ml ≤ ml.length := by
      by_contra hlong
      rw [List.drop_eq_nil_of_le (Nat.le_of_not_le hlong)] at hmem
      cases hmem
    have htake : (ml.take (ieee80211MleCommonSize ml)).length =
        ieee80211MleCommonSize ml := by
      rw [List.length_take, min_eq_left hlength]
    have hshift : StandsIn sub.toItem
        (0 + (ml.take (ieee80211MleCommonSize ml)).length)
        (ml.drop (ieee80211MleCommonSize ml)) after := by
      rw [htake, Nat.zero_add]
      exact hstands
    have hwhole := hshift.shift
    rw [List.take_append_drop] at hwhole
    exact hwhole
  · cases hmem

theorem defragment_profile (hlib : lib.DefragmentDocumented) {ml : List UInt8} {sub : Element}
    (hmem : sub ∈ mleSubelements ml) (hdata : sub.data ≠ []) (room : ℕ) :
    lib.defragmentElement (some sub) ⟨.basicMl, 0, ml⟩ room 254 =
      if (sub.profile ml).length ≤ room then some (sub.profile ml) else none := by
  obtain ⟨after, hwithin⟩ := within_mleSubelements hmem
  rw [hlib.within hwithin hdata, Element.profile, Element.behind, hwithin.drop_behind]

theorem profile_length_le {ml : List UInt8} {sub : Element} (hmem : sub ∈ mleSubelements ml) :
    (sub.profile ml).length ≤ ml.length := by
  obtain ⟨after, hwithin⟩ := within_mleSubelements hmem
  have hlength := hwithin.2.length_le
  have hcontents := contents_length_le sub 254
    (items (sub.offset + 2 + sub.data.length) after)
  have hfragments := fragmentData_length_le 254 sub.data.length
    (items (sub.offset + 2 + sub.data.length) after)
  have hsize := items_size_le (sub.offset + 2 + sub.data.length) after
  rw [wholeLength] at hcontents
  rw [Element.profile, Element.behind, hwithin.drop_behind]
  dsimp only at hlength
  omega

/-! ## What the second pass parses -/

theorem ElemsParseParams.BasicMle.length_le {ml : List UInt8} (hml : params.BasicMle ml) :
    ml.length ≤ params.buf.octets.length := by
  obtain ⟨before, basic, following, hsplit, -, -, rfl⟩ := hml
  exact (contents_length_le _ _ _).trans (wholeLength_le hsplit wlanEidFragment)

theorem basicMle_iff (hlib : lib.DefragmentDocumented) {ml : List UInt8} {room : ℕ}
    (hroom : params.buf.octets.length ≤ room) :
    lib.defragmentElement (params.buf.elements.find? fun tmp => tmp.isMultiLink .basic)
      params.buf room wlanEidFragment = some ml ↔ params.BasicMle ml := by
  constructor
  · intro hcopy
    cases hbasic : params.buf.elements.find? fun tmp => tmp.isMultiLink .basic with
    | none =>
        rw [hbasic, hlib.missing] at hcopy
        cases hcopy
    | some basic =>
        obtain ⟨hisBasic, before, following, hsplit, hbefore⟩ :=
          List.find?_eq_some_iff_append.mp hbasic
        rw [hbasic, defragment_listed hlib hsplit (isMultiLink_data hisBasic).2.1] at hcopy
        split_ifs at hcopy
        rw [Option.some.injEq] at hcopy
        exact ⟨before, basic, following, hsplit, fun elem hmem => by simpa using hbefore elem hmem,
          hisBasic, hcopy.symm⟩
  · intro hml
    have hlength := hml.length_le
    obtain ⟨before, basic, following, hsplit, hbefore, hisBasic, rfl⟩ := hml
    have hbasic : (params.buf.elements.find? fun tmp => tmp.isMultiLink .basic) = some basic :=
      List.find?_eq_some_iff_append.mpr ⟨hisBasic, before, following, hsplit,
        fun elem hmem => by simpa using hbefore elem hmem⟩
    rw [hbasic, defragment_listed hlib hsplit (isMultiLink_data hisBasic).2.1, if_pos]
    omega

/-- With room for the whole element the search finds the profile of the link. -/
theorem staProfAmong_eq_some (hlib : lib.DefragmentDocumented) {ml prof : List UInt8}
    {room : ℕ} {linkId : ℤ} (hroom : ml.length ≤ room) :
    staProfAmong lib ml room linkId (mleSubelements ml) = some prof ↔
      ∃ sub, StaProfileOf linkId (mleSubelements ml) sub ∧ sub.profile ml = prof := by
  rw [staProfAmong_iff]
  constructor
  · rintro ⟨sub, hsub, hprof⟩
    rw [defragment_profile hlib hsub.good.1 hsub.data_ne_nil] at hprof
    split_ifs at hprof
    exact ⟨sub, hsub, Option.some.inj hprof⟩
  · rintro ⟨sub, hsub, rfl⟩
    refine ⟨sub, hsub, ?_⟩
    rw [defragment_profile hlib hsub.good.1 hsub.data_ne_nil,
      if_pos ((profile_length_le hsub.good.1).trans hroom)]

theorem prepMleLinkParse_octets (hlib : lib.DefragmentDocumented) {octets : List UInt8}
    (hsome : octets ≠ []) :
    (ieee80211PrepMleLinkParse lib params (initialElems params)).sub.buf.octets = octets ↔
      ConnMode.eht.rank ≤ params.mode.rank ∧
        ∃ ml, params.BasicMle ml ∧ ∃ sub, StaProfileOf params.linkId (mleSubelements ml) sub ∧
          octets = (sub.profile ml).drop (2 + dataOctet (sub.profile ml) 2 + 4) := by
  have hnothing : ∀ {embedded : Prop}, ¬embedded →
      ((noProfile.buf.octets = octets) ↔ embedded) := by
    intro embedded hnot
    constructor
    · exact fun hnil => absurd hnil.symm hsome
    · exact fun hembedded => absurd hembedded hnot
  have hscratch : params.buf.octets.length ≤ (initialElems params).room := by
    simp only [ElemsParse.room, initialElems]
    omega
  unfold ieee80211PrepMleLinkParse
  by_cases hmode : params.mode.rank < ConnMode.eht.rank
  · rw [if_pos hmode]
    exact hnothing fun hembedded => absurd hmode (Nat.not_lt.mpr hembedded.1)
  rw [if_neg hmode]
  dsimp only
  have hroom : ∀ elem, ElemsParse.room { initialElems params with mlBasicElem := elem } =
      (initialElems params).room := fun _ => rfl
  rw [hroom]
  cases hcopy : lib.defragmentElement
      (params.buf.elements.find? fun tmp => tmp.isMultiLink .basic) params.buf
      (initialElems params).room wlanEidFragment with
  | none =>
      apply hnothing
      rintro ⟨-, ml, hml, -⟩
      rw [(basicMle_iff hlib hscratch).mpr hml] at hcopy
      cases hcopy
  | some ml =>
      have hml := (basicMle_iff hlib hscratch).mp hcopy
      have hlength := hml.length_le
      dsimp only
      by_cases hlink : params.linkId = -1
      · rw [if_pos hlink]
        apply hnothing
        rintro ⟨-, other, -, sub, hsub, -⟩
        have hsame := hsub.good.2.2.2
        omega
      rw [if_neg hlink]
      generalize hbasic : ({ initialElems params with
        mlBasicElem := params.buf.elements.find? fun tmp => tmp.isMultiLink .basic
        mlBasic := some ml
        scratchUsed := (initialElems params).scratchUsed + ml.length } : ElemsParse) = basic
      have hroom : ml.length ≤ basic.room := by
        rw [← hbasic]
        simp only [ElemsParse.room, initialElems]
        omega
      have hembedded : (∃ sub, StaProfileOf params.linkId (mleSubelements ml) sub ∧
          octets = (sub.profile ml).drop (2 + dataOctet (sub.profile ml) 2 + 4)) ↔
          (ConnMode.eht.rank ≤ params.mode.rank ∧
            ∃ ml, params.BasicMle ml ∧ ∃ sub,
              StaProfileOf params.linkId (mleSubelements ml) sub ∧
              octets = (sub.profile ml).drop (2 + dataOctet (sub.profile ml) 2 + 4)) := by
        constructor
        · exact fun hsub => ⟨Nat.not_lt.mp hmode, ml, hml, hsub⟩
        · rintro ⟨-, other, hother, hsub⟩
          rw [(basicMle_iff hlib hscratch).mpr hother, Option.some.injEq] at hcopy
          rwa [hcopy] at hsub
      rw [← hembedded]
      unfold ieee80211MleGetStaProf
      cases hfound : staProfAmong lib ml basic.room params.linkId (mleSubelements ml) with
      | none =>
          have hnone : basic.prof = none := by
            rw [← hbasic]
            rfl
          simp only [hnone]
          apply hnothing
          rintro ⟨sub, hsub, -⟩
          rw [(staProfAmong_eq_some hlib hroom).mpr ⟨sub, hsub, rfl⟩] at hfound
          cases hfound
      | some prof =>
          obtain ⟨sub, hsub, hprof⟩ := (staProfAmong_eq_some hlib hroom).mp hfound
          have hsame : ∀ other, StaProfileOf params.linkId (mleSubelements ml) other →
              other.profile ml = prof := by
            intro other hother
            rw [(staProfAmong_eq_some hlib hroom).mpr ⟨other, hother, rfl⟩] at hfound
            exact Option.some.inj hfound
          have hhead : staProfHead prof = 2 + dataOctet prof 2 + 4 := by
            unfold staProfHead
            omega
          dsimp only
          by_cases hshort : prof.length < staProfHead prof
          · rw [if_pos hshort]
            apply hnothing
            rintro ⟨other, hother, hoctets⟩
            rw [hsame other hother, List.drop_eq_nil_of_le (by omega)] at hoctets
            exact hsome hoctets
          · rw [if_neg hshort]
            constructor
            · intro hoctets
              refine ⟨sub, hsub, ?_⟩
              rw [hprof, ← hhead]
              exact hoctets.symm
            · rintro ⟨other, hother, hoctets⟩
              rw [hoctets, hsame other hother, ← hhead]

theorem bssidProfileAt_some {frame : ElementBuf} {transmitted bssid octets data : List UInt8}
    {elem sub : Element} :
    bssidProfileAt lib frame transmitted bssid elem sub = some (octets, data) ↔
      (sub.id = 0 ∧ 4 ≤ sub.data.length ∧ sub.data[0]? = some wlanEidNonTxBssidCap ∧
        sub.data[1]? = some 2) ∧
      octets = lib.mergeProfile frame elem sub frame.octets.length ∧
      ∃ index ∈ lib.findElem wlanEidMultiBssidIdx ⟨.profile, 0, octets⟩,
        (1 ≤ index.data.length ∧ index.data.getD 0 0 ≠ 0 ∧
          lib.genNewBssid transmitted (elem.data.getD 0 0) (index.data.getD 0 0) = bssid) ∧
        data = index.data := by
  unfold bssidProfileAt
  by_cases hid : sub.id ≠ 0 ∨ sub.data.length < 4
  · rw [if_pos hid]
    refine ⟨fun hnone => (by cases hnone), ?_⟩
    rintro ⟨⟨hzero, hlength, -⟩, -⟩
    exact absurd hid (not_or.mpr ⟨not_not.mpr hzero, Nat.not_lt.mpr hlength⟩)
  rw [if_neg hid]
  rw [not_or, not_not, Nat.not_lt] at hid
  by_cases hcap : sub.data[0]? ≠ some wlanEidNonTxBssidCap ∨ sub.data[1]? ≠ some 2
  · rw [if_pos hcap]
    refine ⟨fun hnone => (by cases hnone), ?_⟩
    rintro ⟨⟨-, -, hfirst, hsecond⟩, -⟩
    exact absurd hcap (by simp [hfirst, hsecond])
  rw [if_neg hcap]
  rw [not_or, not_not, not_not] at hcap
  dsimp only
  constructor
  · intro hfound
    cases hindex : lib.findElem wlanEidMultiBssidIdx
        ⟨.profile, 0, lib.mergeProfile frame elem sub frame.octets.length⟩ with
    | none =>
        rw [hindex] at hfound
        cases hfound
    | some index =>
        rw [hindex] at hfound
        dsimp only at hfound
        split_ifs at hfound with hempty hbssid
        rw [Option.some.injEq, Prod.mk.injEq] at hfound
        obtain ⟨rfl, rfl⟩ := hfound
        rw [not_or, Nat.not_lt] at hempty
        exact ⟨⟨hid.1, hid.2, hcap⟩, rfl, index, hindex, ⟨hempty.1, hempty.2, hbssid⟩, rfl⟩
  · rintro ⟨-, rfl, index, hindex, ⟨hlength, hzero, hbssid⟩, rfl⟩
    rw [Option.mem_def.mp hindex]
    dsimp only
    rw [if_neg (by simp only [not_or]; exact ⟨by omega, hzero⟩), if_pos hbssid]

theorem findBssidProfile_iff {bss : CfgBss} :
    (∀ found ∈ ieee80211FindBssidProfile lib params.buf bss,
      params.NontransmittedProfile lib bss found.1) ∧
    (ieee80211FindBssidProfile lib params.buf bss = none →
      ∀ octets, ¬params.NontransmittedProfile lib bss octets) := by
  unfold ieee80211FindBssidProfile ElemsParseParams.NontransmittedProfile
  cases htransmitted : bss.transmittedBss with
  | none =>
      constructor
      · intro found hfound
        cases hfound
      · rintro - octets ⟨transmitted, hmem, -⟩
        cases hmem
  | some transmitted =>
      dsimp only
      constructor
      · rintro ⟨octets, data⟩ hfound
        obtain ⟨elem, helem, hfound⟩ := List.exists_of_findSome?_eq_some hfound
        obtain ⟨sub, hsub, hfound⟩ := List.exists_of_findSome?_eq_some hfound
        rw [List.mem_filter, decide_eq_true_eq] at helem
        obtain ⟨hhead, hoctets, index, hindex, hbssid, -⟩ := bssidProfileAt_some.mp hfound
        exact ⟨transmitted, rfl, elem, helem.1, helem.2, sub, hsub, hhead, hoctets, index,
          hindex, hbssid⟩
      · rintro hnone octets ⟨other, hother, elem, helem, hsets, sub, hsub, hhead, hoctets, index,
          hindex, hbssid⟩
        cases hother
        have hat := List.findSome?_eq_none_iff.mp hnone elem
          (List.mem_filter.mpr ⟨helem, decide_eq_true hsets⟩)
        have hbody := List.findSome?_eq_none_iff.mp hat sub hsub
        rw [bssidProfileAt_some.mpr ⟨hhead, hoctets, index, hindex, hbssid, rfl⟩] at hbody
        cases hbody

/-! ## What the parse is planned with -/

theorem parsePlan_embeds (hdefrag : lib.DefragmentDocumented) :
    ((parsePlan lib params).sub.buf.octets ≠ [] →
      params.Embeds lib (parsePlan lib params).sub.buf.octets) ∧
    ∀ octets, octets ≠ [] → params.Embeds lib octets →
      params.Embeds lib (parsePlan lib params).sub.buf.octets ∧
      (params.bss = none → (parsePlan lib params).sub.buf.octets = octets) := by
  unfold parsePlan ElemsParseParams.Embeds
  cases hbss : params.bss with
  | none =>
      constructor
      · exact fun hsome => (prepMleLinkParse_octets hdefrag hsome).mp rfl
      · intro octets hsome hembeds
        have hoctets := (prepMleLinkParse_octets hdefrag hsome).mpr hembeds
        dsimp only
        rw [hoctets]
        exact ⟨hembeds, fun _ => rfl⟩
  | some bss =>
      dsimp only [prepBssidProfile]
      have hprofile := @findBssidProfile_iff lib params bss
      cases hfound : ieee80211FindBssidProfile lib params.buf bss with
      | none =>
          exact ⟨fun hsome => absurd rfl hsome,
            fun octets _ hembeds => absurd hembeds (hprofile.2 hfound octets)⟩
      | some found =>
          have hembeds := hprofile.1 found hfound
          exact ⟨fun _ => hembeds, fun _ _ _ => ⟨hembeds, fun hnone => (by cases hnone)⟩⟩

theorem parsePlan_ne_nil (hlib : lib.InheritDocumented) (hdefrag : lib.DefragmentDocumented)
    {octets : List UInt8} (hsome : octets ≠ []) (hembeds : params.Embeds lib octets) :
    (parsePlan lib params).sub.buf.octets ≠ [] := by
  obtain ⟨hplan, hsame⟩ := (parsePlan_embeds hdefrag).2 octets hsome hembeds
  unfold ElemsParseParams.Embeds at hplan
  cases hbss : params.bss with
  | none => exact ne_of_eq_of_ne (hsame hbss) hsome
  | some bss =>
      rw [hbss] at hplan
      obtain ⟨-, -, -, -, -, sub, -, -, -, index, hindex, -⟩ := hplan
      intro hnil
      obtain ⟨elem, hmem, -⟩ := (hlib.findElem_isSome wlanEidMultiBssidIdx _).mp
        (Option.isSome_iff_exists.mpr ⟨index, hindex⟩)
      rw [hnil] at hmem
      cases hmem

theorem parsePlan_nonInherit (hlib : lib.InheritDocumented) :
    (parsePlan lib params).nonInherit =
      (parsePlan lib params).sub.buf.elements.find? fun elem =>
        elem.id = wlanEidExtension && elem.data.head? = some wlanEidExtNonInheritance := by
  unfold parsePlan
  cases params.bss with
  | some bss => exact hlib.findExtElem_eq _ _
  | none =>
      unfold ieee80211PrepMleLinkParse
      dsimp only
      split
      · rfl
      split
      · rfl
      split
      · rfl
      split
      · rfl
      split
      · rfl
      · exact hlib.findExtElem_eq _ _

end IwlwifiStack
