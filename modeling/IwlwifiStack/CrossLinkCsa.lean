import IwlwifiStack.CrossLinkProfiles

/-!
# The elements that channel switches of other links are taken from

The first loop keeps the last profile of each link, the second one parses for the link what stands
behind the station info of that profile, and at most three bytes more.
-/

namespace IwlwifiStack

open TagLengthValue

/-- `cfg80211_defragment_element` without a buffer gives the size. -/
def DefragmentSizeDocumented (defragmentSize : Element → ElementBuf → UInt8 → Option ℕ) :
    Prop :=
  ∀ {elem : Element} {buf : ElementBuf} {after : List UInt8}, elem.Within buf after →
    elem.data ≠ [] → ∀ fragId, defragmentSize elem buf fragId =
      some (elem.contents fragId (items (elem.offset + 2 + elem.data.length) after)).length

def CrossLinkEnv.lastNamed (env : CrossLinkEnv) (common : ℕ) (ml : List UInt8)
    (linkId : ℕ) : Option Element :=
  ((mleSubelementBuf common ml).elements.filter (env.names linkId)).getLast?

/-- What is done for a link: what is parsed begins with its last profile behind the station
info, and the elements with the profile's. -/
def CrossLinkSpec (env : CrossLinkEnv) (common : ℕ) (ml : List UInt8) (linkId : ℕ)
    (result : CrossLink) : Prop :=
  if linkId = env.reportingLinkId ∨ ¬env.link linkId then result = .skipped
  else
    match env.lastNamed common ml linkId with
    | none => result = .noProfile
    | some sub =>
        let own := (sub.profile ml).drop (2 + dataOctet (sub.profile ml) 2)
        ∃ octets, result = .parsed octets ∧ own <+: octets ∧
          octets.length ≤ own.length + 3 ∧ ∀ start, items start own <+: items start octets

section

variable {lib : ElemsLib} {defragmentSize : Element → ElementBuf → UInt8 → Option ℕ}
  {env : CrossLinkEnv} {common : ℕ} {ml behind : List UInt8} {sub : Element}

theorem names_iff {linkId : ℕ} :
    env.names linkId sub = true ↔ sub.id = 0 ∧ ieee80211MleBasicStaProfSizeOk sub.data = true ∧
      getLe16 sub.data 0 % 16 = linkId ∧ linkId ≠ env.reportingLinkId ∧ linkId < 15 ∧
        env.link linkId = true := by
  simp only [CrossLinkEnv.names, Bool.and_eq_true, decide_eq_true_eq, and_assoc]

theorem basicStaProf_data {data : List UInt8}
    (hok : ieee80211MleBasicStaProfSizeOk data = true) : 3 ≤ data.length := by
  have hinfo := basicStaProf_infoLen hok
  omega

theorem basicStaProf_ne_nil {data : List UInt8}
    (hok : ieee80211MleBasicStaProfSizeOk data = true) : data ≠ [] := by
  intro hnil
  have hlong := basicStaProf_data hok
  rw [hnil] at hlong
  cases hlong

/-! ## The first loop -/

theorem staProfiles_eq {buf : ElementBuf} {subs : List Element} (size : Element → ℕ)
    (hsize : ∀ sub ∈ subs, sub.id = 0 → ieee80211MleBasicStaProfSizeOk sub.data = true →
      defragmentSize sub buf 254 = some (size sub))
    (profiles : ℕ → Option (Element × ℕ)) (linkId : ℕ) :
    staProfiles defragmentSize env buf subs profiles linkId =
      match (subs.filter (env.names linkId)).getLast? with
      | none => profiles linkId
      | some sub => some (sub, size sub) := by
  induction subs generalizing profiles with
  | nil => rfl
  | cons sub subs ih =>
      have hlater : ∀ profiles, staProfiles defragmentSize env buf subs profiles linkId =
          match (subs.filter (env.names linkId)).getLast? with
          | none => profiles linkId
          | some sub => some (sub, size sub) :=
        ih fun other hmem => hsize other (List.mem_cons_of_mem _ hmem)
      have hskip : env.names linkId sub = false → ∀ table,
          table linkId = profiles linkId →
            staProfiles defragmentSize env buf subs table linkId =
              match ((sub :: subs).filter (env.names linkId)).getLast? with
              | none => profiles linkId
              | some sub => some (sub, size sub) := by
        intro hother table htable
        rw [hlater, htable, List.filter_cons, hother]
        rfl
      have hnames := @names_iff env sub linkId
      rw [staProfiles]
      by_cases hid : sub.id ≠ 0
      · rw [if_pos hid]
        apply hskip _ _ rfl
        rw [← Bool.not_eq_true, hnames]
        exact fun hboth => hid hboth.1
      rw [if_neg hid]
      by_cases hok : ¬ieee80211MleBasicStaProfSizeOk sub.data = true
      · rw [if_pos hok]
        apply hskip _ _ rfl
        rw [← Bool.not_eq_true, hnames]
        exact fun hboth => hok hboth.2.1
      rw [if_neg hok]
      by_cases hown : getLe16 sub.data 0 % 16 = env.reportingLinkId ∨
          15 ≤ getLe16 sub.data 0 % 16
      · rw [if_pos hown]
        apply hskip _ _ rfl
        rw [← Bool.not_eq_true, hnames]
        rintro ⟨_, _, hsame, hreporting, hlow, _⟩
        rw [hsame] at hown
        rcases hown with hreport | hhigh
        · exact hreporting hreport
        · omega
      rw [if_neg hown]
      by_cases hlink : ¬env.link (getLe16 sub.data 0 % 16) = true
      · rw [if_pos hlink]
        apply hskip _ _ rfl
        rw [← Bool.not_eq_true, hnames]
        rintro ⟨_, _, hsame, _, _, hhas⟩
        rw [hsame] at hlink
        exact hlink hhas
      rw [if_neg hlink]
      have hzero := not_not.mp hid
      have hgood := not_not.mp hok
      have hhas := not_not.mp hlink
      rw [hsize sub List.mem_cons_self hzero hgood]
      dsimp only
      by_cases hsame : getLe16 sub.data 0 % 16 = linkId
      · have hnamed : env.names linkId sub = true := by
          rw [hnames]
          rw [hsame] at hown hhas
          rw [not_or] at hown
          exact ⟨hzero, hgood, hsame, hown.1, Nat.not_le.mp hown.2, hhas⟩
        rw [hlater, hsame, Function.update_self, List.filter_cons, hnamed, if_pos rfl,
          List.getLast?_cons]
        cases (subs.filter (env.names linkId)).getLast? with
        | none => rfl
        | some last => rfl
      · apply hskip
        · rw [← Bool.not_eq_true, hnames]
          exact fun hboth => hsame hboth.2.2.1
        · exact Function.update_of_ne (Ne.symm hsame) _ _

theorem staProfiles_lastNamed (hsize : DefragmentSizeDocumented defragmentSize) (linkId : ℕ) :
    staProfiles defragmentSize env (mleSubelementBuf common ml)
        (mleSubelementBuf common ml).elements (fun _ => none) linkId =
      (env.lastNamed common ml linkId).map fun sub => (sub, (sub.profile ml).length) := by
  rw [@staProfiles_eq defragmentSize env (mleSubelementBuf common ml)
    (mleSubelementBuf common ml).elements fun sub => (sub.profile ml).length]
  · unfold CrossLinkEnv.lastNamed
    cases ((mleSubelementBuf common ml).elements.filter (env.names linkId)).getLast? with
    | none => rfl
    | some sub => rfl
  · intro sub hmem _ hok
    exact hsize (within_behind hmem).1 (basicStaProf_ne_nil hok) 254

theorem lastNamed_mem {linkId : ℕ} (hlast : env.lastNamed common ml linkId = some sub) :
    sub ∈ (mleSubelementBuf common ml).elements ∧ env.names linkId sub = true :=
  List.mem_filter.mp (List.mem_of_getLast? hlast)

/-! ## The second loop -/

/-- The profile is copied to the place of its subelement, and what is parsed begins behind its
station info. -/
theorem crossLinkProfile_parsed (hlib : lib.DefragmentDocumented)
    {profiles : ℕ → Option (Element × ℕ)} {current : List UInt8} {linkId : ℕ}
    (hprofiles : profiles linkId = some (sub, (sub.profile ml).length))
    (hmem : sub ∈ (mleSubelementBuf common ml).elements)
    (hnamed : env.names linkId sub = true) (hintact : sub.Intact ml current) :
    ∃ more, more.length ≤ 3 ∧ crossLinkProfile lib env profiles common behind current linkId =
      (.parsed ((sub.profile ml).drop (2 + dataOctet (sub.profile ml) 2) ++ more),
        copyAt current sub.offset (sub.profile ml)) := by
  rcases names_iff.mp hnamed with ⟨hid, hok, _, hreporting, _, hlink⟩
  have hinfo := basicStaProf_infoLen hok
  have hlong := basicStaProf_data hok
  have hdata := basicStaProf_ne_nil hok
  have hprofile := @profile_eq_append ml sub hid
  have hlength : sub.data.length ≤ (sub.profile ml).length := by
    rw [hprofile, List.length_append]
    exact Nat.le_add_right _ _
  have hinfoLen : dataOctet (sub.profile ml) 2 = dataOctet sub.data 2 := by
    unfold dataOctet
    rw [hprofile, List.getD_append _ _ _ _ (by omega)]
  have hend := @profile_end_lt ml sub hid
  have hfragments := fragmentsEnd_le hmem
  have hsame := hintact.length_eq
  have hroom : sub.offset + (sub.profile ml).length ≤ current.length := by omega
  have hcopied := copyAt_drop hroom
  have hcopy : lib.defragmentElement (some (elementAt current sub.offset))
      (mleSubelementBuf common current) (sub.profile ml).length 254 =
        some (sub.profile ml) := by
    have hbehind : sub.contents 254 (items (sub.offset + 2 + sub.data.length)
        (current.drop (sub.offset + 2 + sub.data.length))) = sub.profile ml := by
      exact hintact.profile_eq
    rw [hintact.elementAt_eq hmem, hlib.within (hintact.within hmem) hdata]
    simp only [hbehind, le_refl, if_true]
  have hoctet : dataOctet (copyAt current sub.offset (sub.profile ml)) (sub.offset + 2) =
      dataOctet (sub.profile ml) 2 := by
    have hplace := congrArg (fun l => l.getD 2 0) hcopied
    simp only [List.getD_eq_getElem?_getD, List.getElem?_drop] at hplace
    unfold dataOctet
    rw [List.getD_eq_getElem?_getD, List.getD_eq_getElem?_getD, hplace,
      List.getElem?_append_left (by omega)]
  apply Exists.intro
    (((current.drop (sub.offset + (sub.profile ml).length)) ++ behind).take 3)
  apply And.intro (List.length_take_le _ _)
  have hown : ¬(linkId = env.reportingLinkId ∨ ¬env.link linkId) := by
    rw [not_or, not_not]
    exact ⟨hreporting, hlink⟩
  simp only [crossLinkProfile, if_neg hown, hprofiles, hcopy, ne_eq, not_true_eq_false,
    if_false, hoctet, Prod.mk.injEq, and_true, CrossLink.parsed.injEq]
  have hstart : sub.offset + 3 + (dataOctet (sub.profile ml) 2 - 1) =
      sub.offset + (2 + dataOctet (sub.profile ml) 2) := by omega
  have hcopyLength := copyAt_length hroom
  rw [hstart, List.drop_append_of_le_length (by omega), ← List.drop_drop, hcopied,
    List.drop_append_of_le_length (by omega), List.append_assoc]
  have htake : (sub.profile ml).length - (dataOctet (sub.profile ml) 2 - 1) =
      ((sub.profile ml).drop (2 + dataOctet (sub.profile ml) 2)).length + 3 := by
    rw [List.length_drop]
    omega
  rw [htake, List.take_length_add_append]

/-- Profiles of two links are two; one that begins like a fragment is of link 14, the last
one. -/
theorem names_apart {linkId later : ℕ} {other : Element}
    (hnamed : env.names linkId sub = true) (hother : env.names later other = true)
    (hless : linkId < later) : sub ≠ other ∧ sub.data[0]? ≠ some 254 := by
  rcases names_iff.mp hnamed with ⟨_, _, hname, _, _, _⟩
  rcases names_iff.mp hother with ⟨_, _, hotherName, _, hlow, _⟩
  constructor
  · intro heq
    rw [heq] at hname
    omega
  · intro hfragment
    have hoctet : dataOctet sub.data 0 = 254 := by
      rw [dataOctet, List.getD_eq_getElem?_getD, hfragment]
      rfl
    rw [getLe16, hoctet] at hname
    omega

theorem crossLinkProfiles_spec (hlib : lib.DefragmentDocumented)
    {profiles : ℕ → Option (Element × ℕ)}
    (hprofiles : ∀ linkId, profiles linkId =
      (env.lastNamed common ml linkId).map fun sub => (sub, (sub.profile ml).length))
    {linkIds : List ℕ} (hsorted : linkIds.Pairwise (· < ·)) {current : List UInt8}
    (hintact : ∀ linkId ∈ linkIds, ∀ sub, env.lastNamed common ml linkId = some sub →
      sub.Intact ml current) :
    ∀ entry ∈ crossLinkProfiles lib env profiles common behind linkIds current,
      CrossLinkSpec env common ml entry.1 entry.2 := by
  induction linkIds generalizing current with
  | nil =>
      intro entry hmem
      cases hmem
  | cons linkId linkIds ih =>
      rw [List.pairwise_cons] at hsorted
      have hrest : ∀ later ∈ linkIds, ∀ sub, env.lastNamed common ml later = some sub →
          sub.Intact ml current :=
        fun later hmem => hintact later (List.mem_cons_of_mem _ hmem)
      have hunchanged : ∀ result, CrossLinkSpec env common ml linkId result →
          crossLinkProfile lib env profiles common behind current linkId = (result, current) →
          ∀ entry ∈ crossLinkProfiles lib env profiles common behind (linkId :: linkIds) current,
            CrossLinkSpec env common ml entry.1 entry.2 := by
        intro result hspec hresult entry hmem
        simp only [crossLinkProfiles, hresult] at hmem
        rcases List.mem_cons.mp hmem with hfirst | hlater
        · rw [hfirst]
          exact hspec
        · exact ih hsorted.2 hrest entry hlater
      by_cases hown : linkId = env.reportingLinkId ∨ ¬env.link linkId
      · apply hunchanged .skipped
        · rw [CrossLinkSpec, if_pos hown]
        · rw [crossLinkProfile, if_pos hown]
      · cases hlast : env.lastNamed common ml linkId with
        | none =>
            apply hunchanged .noProfile
            · simp only [CrossLinkSpec, if_neg hown, hlast]
            · simp only [crossLinkProfile, if_neg hown, hprofiles, hlast, Option.map_none]
        | some sub =>
            rcases lastNamed_mem hlast with ⟨hmem, hnamed⟩
            have hfirst := hintact linkId List.mem_cons_self sub hlast
            have htable := hprofiles linkId
            rw [hlast, Option.map_some] at htable
            rcases @crossLinkProfile_parsed lib env common ml behind sub hlib _ _ _ htable hmem
              hnamed hfirst with ⟨more, hmore, hresult⟩
            intro entry hentry
            simp only [crossLinkProfiles, hresult] at hentry
            rcases List.mem_cons.mp hentry with hthis | hlater
            · rw [hthis]
              simp only [CrossLinkSpec, if_neg hown, hlast]
              refine ⟨_, rfl, List.prefix_append _ _, ?_, fun start => items_prefix start _ more⟩
              rw [List.length_append]
              omega
            · apply ih hsorted.2 ?_ entry hlater
              intro later hlaterId other hother
              rcases lastNamed_mem hother with ⟨hotherMem, hotherNamed⟩
              rcases names_apart hnamed hotherNamed (hsorted.1 later hlaterId) with
                ⟨hne, hbegin⟩
              rcases names_iff.mp hnamed with ⟨hid, hok, -⟩
              exact (hrest later hlaterId other hother).copyAt hmem hotherMem hne hid
                (names_iff.mp hotherNamed).1 (basicStaProf_ne_nil hok) hbegin

theorem ieee80211MgdCheckCrossLinkCsa_spec (hlib : lib.DefragmentDocumented)
    (hsize : DefragmentSizeDocumented defragmentSize) :
    ∀ entry ∈ ieee80211MgdCheckCrossLinkCsa lib defragmentSize env ml behind,
      CrossLinkSpec env (ieee80211MleCommonSize ml) ml entry.1 entry.2 := by
  intro entry hmem
  unfold ieee80211MgdCheckCrossLinkCsa at hmem
  split at hmem
  · cases hmem
  · apply crossLinkProfiles_spec hlib (fun linkId => staProfiles_lastNamed hsize linkId) ?_ ?_
      entry hmem
    · exact List.pairwise_lt_range
    · intro _ _ sub _
      exact sub.intact_self ml

/-! ## The size checks -/

/-- For an element of a good size the common size, the fields, the subelements and the profiles
of a good size are read inside of it.  What is parsed for another link is all of its profile
behind the station info and at most three octets more, and a frame that is parsed for a link
skips four octets of that. -/
theorem mleSizeOk_sufficient (hlib : lib.DefragmentDocumented)
    (hsize : DefragmentSizeDocumented defragmentSize)
    (hok : ieee80211MleSizeOk ml = true) :
    (2 < ml.length ∨ mlControlType ml = .unknown →
      mleCommonSizeRead ml = some (ieee80211MleCommonSize ml)) ∧
    (mlControlType ml ≠ .reconf → 2 < ml.length ∨ mlControlType ml = .unknown) ∧
    (mlControlType ml = .basic → ∀ field : BasicMleField,
      field.get ml = some (field.value ml) ∧
        (hasBits (getLe16 ml 0) field.presence = true →
          field.offset (getLe16 ml 0) + field.size ≤ ml.length)) ∧
    (∀ sub ∈ mleSubelements ml,
      (∃ after, sub.Within ⟨.basicMl, 0, ml⟩ after) ∧
      (ieee80211MleBasicStaProfSizeOk sub.data = true →
        ieee80211MleBasicStaProfBssParamChCnt sub.data =
            some (if hasBits (getLe16 sub.data 0) 0x0800 then
              dataOctet sub.data (3 + staInfoBeforeCount (getLe16 sub.data 0)) else 0) ∧
          1 ≤ dataOctet sub.data 2 ∧ 2 + dataOctet sub.data 2 ≤ sub.data.length) ∧
      (ieee80211MleReconfStaProfSizeOk sub.data = true →
        apRemTimerRead sub.data =
            some (if apRemTimerPresent sub.data then some (apRemTimer sub.data) else none) ∧
          1 ≤ dataOctet sub.data 2 ∧ 2 + dataOctet sub.data 2 ≤ sub.data.length)) ∧
    (∀ env behind, ∀ entry ∈ ieee80211MgdCheckCrossLinkCsa lib defragmentSize env ml behind,
      CrossLinkSpec env (ieee80211MleCommonSize ml) ml entry.1 entry.2) ∧
    ∀ params octets, octets ≠ [] →
      ((ieee80211PrepMleLinkParse lib params (initialElems params)).sub.buf.octets = octets ↔
        ConnMode.eht.rank ≤ params.mode.rank ∧ ∃ mlBasic, params.BasicMle mlBasic ∧
          ∃ sub, StaProfileOf params.linkId (mleSubelements mlBasic) sub ∧
            octets =
              ((sub.profile mlBasic).drop (2 + dataOctet (sub.profile mlBasic) 2)).drop 4) := by
  apply And.intro (mleCommonSizeRead_eq hok)
  apply And.intro (mleSizeOk_long hok)
  apply And.intro (BasicMleField.get_value hok)
  constructor
  · intro sub hmem
    apply And.intro (within_mleSubelements hmem)
    constructor
    · intro hprof
      exact ⟨basicStaProf_bssParamChCnt hprof, basicStaProf_infoLen hprof⟩
    · intro hprof
      exact ⟨reconfStaProf_timer hprof, reconfStaProf_infoLen hprof⟩
  · constructor
    · intro env behind
      exact ieee80211MgdCheckCrossLinkCsa_spec hlib hsize
    · intro params octets hsome
      simp only [List.drop_drop]
      exact prepMleLinkParse_octets hlib hsome

end

/-! ## A beacon -/

/-- The size of what `cfg80211Lib` copies. -/
def cfg80211DefragmentSize (elem : Element) (buf : ElementBuf) (fragId : UInt8) : Option ℕ :=
  let after := if elem.origin = buf.origin then
    buf.octets.drop (elem.offset - buf.start + (elem.data.length + 2)) else []
  some (elem.contents fragId (items (elem.offset + 2 + elem.data.length) after)).length

theorem cfg80211DefragmentSize_documented :
    DefragmentSizeDocumented cfg80211DefragmentSize := by
  rintro elem buf after hwithin - fragId
  simp only [cfg80211DefragmentSize, if_pos hwithin.1, hwithin.drop_after]

/-- A basic element with the complete profile of link 1: a DS parameter set that begins like
the capability information, and an empty TIM. -/
def crossLinkBeacon : List UInt8 :=
  [0, 0, 7, 2, 0, 0, 0, 0, 1, 0, 9, 17, 0, 1, 3, 2, 7, 8, 5, 0]

theorem mleSizeOk_sufficient_beacon :
    ieee80211MleGetLinkId crossLinkBeacon = some (-1) ∧
      ∀ entry ∈ ieee80211MgdCheckCrossLinkCsa cfg80211Lib cfg80211DefragmentSize
          ⟨0, fun linkId => linkId = 1⟩ crossLinkBeacon [9],
        CrossLinkSpec ⟨0, fun linkId => linkId = 1⟩ 9 crossLinkBeacon entry.1 entry.2 := by
  have hall := mleSizeOk_sufficient cfg80211Lib_defragmentDocumented
    cfg80211DefragmentSize_documented (by decide : ieee80211MleSizeOk crossLinkBeacon = true)
  exact ⟨(hall.2.2.1 (by decide) .linkId).1, hall.2.2.2.2.1 _ _⟩

/-- Of one profile a channel switch of another link takes all elements and more, and a frame that
is parsed for the link skips the first four octets.  A reconfiguration element of two octets is
of a good size and too short for its common length. -/
theorem mleSizeOk_not_sufficient :
    (ieee80211MleSizeOk [2, 0] = true ∧ mleCommonSizeRead [2, 0] = none) ∧
      (elementAt crossLinkBeacon 9).profile crossLinkBeacon = [17, 0, 1, 3, 2, 7, 8, 5, 0] ∧
      (1, CrossLink.parsed [3, 2, 7, 8, 5, 0, 5, 0, 9]) ∈
        ieee80211MgdCheckCrossLinkCsa cfg80211Lib cfg80211DefragmentSize
          ⟨0, fun linkId => linkId = 1⟩ crossLinkBeacon [9] ∧
      let params := assocRespParams ([255, 21, 107] ++ crossLinkBeacon)
      (ieee80211PrepMleLinkParse cfg80211Lib params (initialElems params)).sub.buf.octets =
        [5, 0] := by
  decide +kernel

end IwlwifiStack
