import IwlwifiStack.TtlmElements

/-!
# Round trip of TID-to-link mappings

The element that is written for a direction has the maps of the TIDs with links,
in order and without gaps.  The parser goes by gaps, so that it returns these
maps exactly when the TIDs with links come first.
-/

namespace IwlwifiStack

def Dense (maps : Fin 8 → UInt16) : Prop :=
  ∀ tid, maps tid ≠ 0 → ∀ before < tid, maps before ≠ 0

def linkedTids (maps : Fin 8 → UInt16) : ℕ :=
  (List.finRange 8).countP fun tid => maps tid ≠ 0

namespace SuggestedMap

variable {maps : Fin 8 → UInt16}

theorem putLe16_length (map : UInt16) : (putLe16 map).length = 2 := rfl

theorem foldl_addTid_maps (tids : List (Fin 8)) (elem : SuggestedMap) :
    (tids.foldl (addTid maps) elem).maps = elem.maps ++
      (tids.filter fun tid => maps tid ≠ 0).flatMap fun tid =>
        putLe16 (maps tid) := by
  induction tids generalizing elem with
  | nil => simp
  | cons tid tids ih =>
      rw [List.foldl_cons, ih, addTid]
      by_cases hzero : maps tid = 0
      · simp [hzero]
      · simp [hzero, List.append_assoc]

theorem foldl_addTid_len (tids : List (Fin 8)) (elem : SuggestedMap) :
    (tids.foldl (addTid maps) elem).len = elem.len +
      2 * tids.countP fun tid => maps tid ≠ 0 := by
  induction tids generalizing elem with
  | nil => simp
  | cons tid tids ih =>
      rw [List.foldl_cons, ih, addTid]
      by_cases hzero : maps tid = 0
      · simp [hzero]
      · simp [hzero]
        omega

theorem foldl_addTid_mapInd (tids : List (Fin 8)) (elem : SuggestedMap)
    (i : ℕ) :
    (tids.foldl (addTid maps) elem).mapInd.testBit i =
      (elem.mapInd.testBit i ||
        decide (∃ tid ∈ tids, tid.val = i ∧ maps tid ≠ 0)) := by
  induction tids generalizing elem with
  | nil => simp
  | cons tid tids ih =>
      rw [List.foldl_cons, ih, addTid]
      by_cases hzero : maps tid = 0
      · simp [hzero]
      · by_cases hi : tid.val = i
        · simp [hzero, hi, Nat.testBit_or]
        · simp [hzero, hi, Nat.testBit_or]

theorem mapInd_testBit (tid : Fin 8) :
    (ofTids maps (List.finRange 8)).mapInd.testBit tid =
      decide (maps tid ≠ 0) := by
  rw [ofTids, foldl_addTid_mapInd]
  simp [Fin.val_inj]

theorem mapInd_lt : (ofTids maps (List.finRange 8)).mapInd < 256 := by
  apply Nat.lt_pow_two_of_testBit (n := 8)
  intro i hi
  rw [ofTids, foldl_addTid_mapInd]
  have hnone : ¬∃ tid ∈ List.finRange 8, tid.val = i ∧ maps tid ≠ 0 := by
    rintro ⟨tid, -, htid, -⟩
    omega
  rw [decide_eq_false hnone]
  simp

theorem linkedTids_le : linkedTids maps ≤ 8 := by
  have hle := List.countP_le_length
    (p := fun tid : Fin 8 => decide (maps tid ≠ 0)) (l := List.finRange 8)
  rwa [List.length_finRange] at hle

theorem hweight8_mapInd :
    hweight8 (ofTids maps (List.finRange 8)).mapInd = linkedTids maps := by
  have hrange : List.range 8 = (List.finRange 8).map Fin.val := by decide
  rw [hweight8, hrange, List.countP_map, linkedTids]
  apply List.countP_congr
  intro tid _
  rw [Function.comp_apply, mapInd_testBit]

/-! ## The body of an element -/

/-- `control`, the presence octet and the maps. -/
def body (maps : Fin 8 → UInt16) (direction : TtlmDirection) : List UInt8 :=
  direction.code :: UInt8.ofNat (ofTids maps (List.finRange 8)).mapInd ::
    ((List.finRange 8).filter fun tid => maps tid ≠ 0).flatMap fun tid =>
      putLe16 (maps tid)

theorem chunks_length (tids : List (Fin 8)) :
    (tids.flatMap fun tid => putLe16 (maps tid)).length = 2 * tids.length := by
  induction tids with
  | nil => rfl
  | cons tid tids ih =>
      rw [List.flatMap_cons, List.length_append, ih, putLe16_length,
        List.length_cons]
      omega

theorem body_length (direction : TtlmDirection) :
    (body maps direction).length = 2 + 2 * linkedTids maps := by
  rw [body, List.length_cons, List.length_cons, chunks_length, linkedTids,
    List.countP_eq_length_filter]
  omega

theorem octets_eq (direction : TtlmDirection) :
    (ofTids maps (List.finRange 8)).octets direction =
      [wlanEidExtension, UInt8.ofNat (3 + 2 * linkedTids maps),
        wlanEidExtTidToLinkMapping] ++ body maps direction := by
  have hmaps := @foldl_addTid_maps maps (List.finRange 8) ⟨3, 0, []⟩
  have hlen := @foldl_addTid_len maps (List.finRange 8) ⟨3, 0, []⟩
  rw [List.nil_append] at hmaps
  rw [octets, ofTids, hmaps, hlen, body, ofTids, linkedTids]
  rfl

theorem octets_length (direction : TtlmDirection) :
    ((ofTids maps (List.finRange 8)).octets direction).length =
      5 + 2 * linkedTids maps := by
  rw [octets_eq, List.length_append, body_length]
  simp only [List.length_cons, List.length_nil]
  omega

theorem ttlmBody_octets (direction : TtlmDirection) :
    ttlmBody ((ofTids maps (List.finRange 8)).octets direction) =
      body maps direction := by
  have hle := @linkedTids_le maps
  have hlen : (UInt8.ofNat (3 + 2 * linkedTids maps)).toNat - 1 =
      (body maps direction).length := by
    rw [body_length, UInt8.toNat_ofNat']
    omega
  rw [octets_eq]
  show (body maps direction).take _ = _
  rw [hlen, List.take_length]

theorem dataOctet_presence (direction : TtlmDirection) :
    dataOctet (body maps direction) 1 =
      (ofTids maps (List.finRange 8)).mapInd := by
  show (UInt8.ofNat _).toNat = _
  rw [UInt8.toNat_ofNat', Nat.mod_eq_of_lt mapInd_lt]

theorem present_iff (direction : TtlmDirection) (tid : Fin 8) :
    (dataOctet (body maps direction) 1).testBit tid = true ↔ maps tid ≠ 0 := by
  rw [dataOctet_presence, mapInd_testBit, decide_eq_true_iff]

theorem dataOctet_control (direction : TtlmDirection) :
    dataOctet (body maps direction) 0 = direction.code.toNat := rfl

theorem control_flags (direction : TtlmDirection) :
    hasBits direction.code.toNat 0x18 = false ∧
      hasBits direction.code.toNat 0x04 = false ∧
      ttlmDirection direction.code.toNat = some direction ∧
      linkMapSize direction.code.toNat = 2 ∧
      mapsOffset direction.code.toNat = 2 := by
  cases direction <;> decide

theorem body_sizeOk (direction : TtlmDirection) :
    ieee80211TidToLinkMapSizeOk (body maps direction) := by
  have hweight : hweight8 (dataOctet (body maps direction) 1) =
      linkedTids maps := by
    rw [dataOctet_presence, hweight8_mapInd]
  have hlength := @body_length maps direction
  unfold ieee80211TidToLinkMapSizeOk
  simp only [hweight, hlength, dataOctet_control]
  cases direction <;> simp [TtlmDirection.code, hasBits, addIf] <;> omega

/-! ## The maps in the body -/

theorem getTtlm_putLe16 (front rest : List UInt8) (map : UInt16) :
    ieee80211GetTtlm 2 (front ++ (putLe16 map ++ rest)) front.length =
      some map := by
  have hlow : readByte (front ++ (putLe16 map ++ rest)) front.length =
      some (map.toNat % 256) := by
    rw [readByte, List.getElem?_append_right le_rfl, Nat.sub_self]
    show some (UInt8.ofNat map.toNat).toNat = _
    rw [UInt8.toNat_ofNat']
  have hhigh : readByte (front ++ (putLe16 map ++ rest)) (front.length + 1) =
      some (map.toNat / 256 % 256) := by
    rw [readByte, List.getElem?_append_right (by omega), Nat.add_sub_cancel_left]
    show some (UInt8.ofNat (map.toNat / 256)).toNat = _
    rw [UInt8.toNat_ofNat']
  have hlt := map.toNat_lt
  rw [ieee80211GetTtlm, if_neg (by decide), hlow, Option.bind_some, hhigh,
    Option.map_some]
  congr 1
  apply UInt16.toNat_inj.mp
  rw [UInt16.toNat_ofNat']
  omega

theorem finRange_split (tid : Fin 8) :
    List.finRange 8 = (List.finRange 8).take tid ++
      tid :: (List.finRange 8).drop (tid + 1) := by
  have hdrop : (List.finRange 8).drop tid =
      tid :: (List.finRange 8).drop (tid + 1) := by
    rw [List.drop_eq_getElem_cons (by simp), List.getElem_finRange]
    rfl
  rw [← hdrop, List.take_append_drop]

theorem mapRank_eq (direction : TtlmDirection) (tid : Fin 8) :
    mapRank (dataOctet (body maps direction) 1) tid =
      (((List.finRange 8).take tid).filter fun tid => maps tid ≠ 0).length := by
  have hrange : List.range tid = ((List.finRange 8).take tid).map Fin.val := by
    revert tid
    decide
  rw [mapRank, hrange, List.countP_map, ← List.countP_eq_length_filter]
  apply List.countP_congr
  intro other _
  rw [Function.comp_apply, present_iff, decide_eq_true_iff]

theorem linkMapOf_body (direction : TtlmDirection) {tid : Fin 8}
    (hmap : maps tid ≠ 0) :
    linkMapOf (body maps direction) tid = some (maps tid) := by
  obtain ⟨-, -, -, hsize, hoffset⟩ := control_flags direction
  have hbody : body maps direction =
      (direction.code :: UInt8.ofNat (ofTids maps (List.finRange 8)).mapInd ::
        ((((List.finRange 8).take tid).filter fun tid => maps tid ≠ 0).flatMap
          fun tid => putLe16 (maps tid))) ++
      (putLe16 (maps tid) ++
        (((List.finRange 8).drop (tid + 1)).filter fun tid =>
          maps tid ≠ 0).flatMap fun tid => putLe16 (maps tid)) := by
    have hchunks := congrArg (fun tids : List (Fin 8) =>
      (tids.filter fun tid => maps tid ≠ 0).flatMap fun tid =>
        putLe16 (maps tid)) (finRange_split tid)
    rw [List.filter_append, List.filter_cons_of_pos (by simp [hmap]),
      List.flatMap_append, List.flatMap_cons] at hchunks
    rw [body, hchunks]
    rfl
  rw [linkMapOf, dataOctet_control, hsize, hoffset, mapRank_eq]
  have hread := getTtlm_putLe16
    (direction.code :: UInt8.ofNat (ofTids maps (List.finRange 8)).mapInd ::
      ((((List.finRange 8).take tid).filter fun tid => maps tid ≠ 0).flatMap
        fun tid => putLe16 (maps tid)))
    ((((List.finRange 8).drop (tid + 1)).filter fun tid =>
      maps tid ≠ 0).flatMap fun tid => putLe16 (maps tid)) (maps tid)
  rw [← hbody, List.length_cons, List.length_cons, chunks_length] at hread
  rw [← hread]
  congr 1
  omega

theorem looped_lt {direction : TtlmDirection} {tid : Fin 8} {map : UInt16}
    (hread : looped (body maps direction) tid = some map) :
    tid.val < linkedTids maps := by
  by_contra hge
  obtain ⟨-, -, -, hsize, -⟩ := control_flags direction
  have hlength := @body_length maps direction
  rw [looped, dataOctet_control, hsize, ieee80211GetTtlm, if_neg (by decide),
    readByte_none (by omega)] at hread
  cases hread

theorem dense_of_lt (hlt : ∀ tid, maps tid ≠ 0 → tid.val < linkedTids maps) :
    Dense maps := by
  have hsplit := List.take_append_drop (linkedTids maps) (List.finRange 8)
  have hcount : ((List.finRange 8).take (linkedTids maps)).countP
        (fun tid => maps tid ≠ 0) +
      ((List.finRange 8).drop (linkedTids maps)).countP
        (fun tid => maps tid ≠ 0) = linkedTids maps := by
    rw [← List.countP_append, hsplit, linkedTids]
  have hnone : ((List.finRange 8).drop (linkedTids maps)).countP
      (fun tid => maps tid ≠ 0) = 0 := by
    rw [List.countP_eq_zero]
    intro tid hmem hlinked
    have hbelow := hlt tid (of_decide_eq_true hlinked)
    obtain ⟨i, hi, heq⟩ := List.getElem_of_mem hmem
    rw [List.getElem_drop, List.getElem_finRange] at heq
    have hval := congrArg Fin.val heq
    simp only [Fin.val_cast] at hval
    omega
  have hlength : ((List.finRange 8).take (linkedTids maps)).length =
      linkedTids maps := by
    rw [List.length_take, List.length_finRange]
    exact min_eq_left linkedTids_le
  have hall := List.countP_eq_length.mp (hnone ▸ hcount |>.trans hlength.symm)
  intro tid htid before hbefore
  have hbelow : before.val < linkedTids maps :=
    lt_trans hbefore (hlt tid htid)
  have hmem : before ∈ (List.finRange 8).take (linkedTids maps) := by
    apply List.mem_iff_getElem.mpr
    refine ⟨before, by omega, ?_⟩
    rw [List.getElem_take, List.getElem_finRange]
    rfl
  exact of_decide_eq_true (hall before hmem)

theorem mapRank_of_dense (hdense : Dense maps) (direction : TtlmDirection)
    {tid : Fin 8} (hmap : maps tid ≠ 0) :
    mapRank (dataOctet (body maps direction) 1) tid = tid := by
  have hall : ∀ i ∈ List.range tid,
      (dataOctet (body maps direction) 1).testBit i = true := by
    intro i hi
    have hlt := List.mem_range.mp hi
    exact (present_iff direction ⟨i, by omega⟩).mpr
      (hdense tid hmap ⟨i, by omega⟩ hlt)
  rw [mapRank, List.countP_eq_length.mpr hall, List.length_range]

theorem parse_body {direction : TtlmDirection} {validLinks : UInt16}
    {negTtlm : NegTtlm} (hdense : Dense maps) :
    ieee80211ParseNegTtlm validLinks (body maps direction) negTtlm =
      some (.ok (negTtlm.storeAll direction maps, direction)) := by
  have hok := @body_sizeOk maps direction
  obtain ⟨htimes, hdefault, hdirection, hsize, hoffset⟩ :=
    control_flags direction
  have hfound : MapsFound (body maps direction) := by
    left
    intro tid hbit
    have hmap := (present_iff direction tid).mp hbit
    rw [looped, linkMapOf, mapRank_of_dense hdense direction hmap,
      dataOctet_control, hsize, hoffset]
  have hlinks : ¬∃ tid : Fin 8,
      (dataOctet (body maps direction) 1).testBit tid ∧
        linkMapOf (body maps direction) tid = some 0 := by
    rintro ⟨tid, hbit, hzero⟩
    have hmap := (present_iff direction tid).mp hbit
    rw [linkMapOf_body direction hmap] at hzero
    exact hmap (Option.some.inj hzero)
  have hmaps : (fun tid : Fin 8 =>
      if (dataOctet (body maps direction) 1).testBit tid then
        (linkMapOf (body maps direction) tid).getD 0 else 0) = maps := by
    funext tid
    by_cases hmap : maps tid = 0
    · rw [if_neg (fun hbit => (present_iff direction tid).mp hbit hmap), hmap]
    · rw [if_pos ((present_iff direction tid).mpr hmap),
        linkMapOf_body direction hmap, Option.getD_some]
  rw [(parseNegTtlm_iff hok).mpr (Or.inr (Or.inr (Or.inr hfound)))]
  simp only [negTtlmOf, dataOctet_control, htimes, hdefault, hdirection,
    Bool.false_eq_true, if_false, if_neg hlinks, hmaps]

theorem dense_of_parse {direction : TtlmDirection} {validLinks : UInt16}
    {negTtlm : NegTtlm} {parsed : NegTtlm × TtlmDirection}
    (hparse : ieee80211ParseNegTtlm validLinks (body maps direction) negTtlm =
      some (.ok parsed)) : Dense maps := by
  obtain ⟨htimes, hdefault, hdirection, -, -⟩ := control_flags direction
  rw [parseNegTtlm_loop (body_sizeOk direction) htimes hdefault hdirection] at hparse
  cases hfind : (List.finRange 8).find? (stopsAt (body maps direction)) with
  | some tid =>
      rw [hfind] at hparse
      dsimp only at hparse
      cases hread : looped (body maps direction) tid with
      | none => simp [hread] at hparse
      | some map => simp [hread] at hparse
  | none =>
      apply dense_of_lt
      intro tid hmap
      have hgoes := List.find?_eq_none.mp hfind tid (List.mem_finRange tid)
      cases hread : looped (body maps direction) tid with
      | none =>
          have hstop := stopsAt_iff.mpr
            ⟨(present_iff direction tid).mpr hmap, Or.inl hread⟩
          exact absurd hstop hgoes
      | some map => exact looped_lt hread

end SuggestedMap

/-! ## Both directions -/

/-- The elements fit into the space reserved, and parsing them gives back the
mapping. -/
def NegTtlm.RoundTrips (negTtlm : NegTtlm) (validLinks : UInt16)
    (start : NegTtlm) : Prop :=
  (ieee80211NegTtlmAddSuggestedMap negTtlm).flatten.length ≤ ttlmMaxLen ∧
    (∀ octets ∈ ieee80211NegTtlmAddSuggestedMap negTtlm,
      ieee80211TidToLinkMapSizeOk (ttlmBody octets)) ∧
    parseNegTtlmElements validLinks
      ((ieee80211NegTtlmAddSuggestedMap negTtlm).map ttlmBody) start =
        some (.ok negTtlm)

def NegTtlm.Fits (negTtlm : NegTtlm) : Prop :=
  negTtlm.downlink = negTtlm.uplink ∨
    linkedTids negTtlm.downlink + linkedTids negTtlm.uplink ≤ 13

variable {negTtlm start : NegTtlm} {validLinks : UInt16}

theorem suggestedMap_sizeOk :
    ∀ octets ∈ ieee80211NegTtlmAddSuggestedMap negTtlm,
      ieee80211TidToLinkMapSizeOk (ttlmBody octets) := by
  intro octets hmem
  obtain ⟨direction, -, rfl⟩ := List.mem_map.mp hmem
  rw [SuggestedMap.ttlmBody_octets]
  exact SuggestedMap.body_sizeOk direction

theorem roundTrips_iff : negTtlm.RoundTrips validLinks start ↔
    negTtlm.Fits ∧ Dense negTtlm.downlink ∧ Dense negTtlm.uplink := by
  have hbodies : (ieee80211NegTtlmAddSuggestedMap negTtlm).map ttlmBody =
      negTtlm.directions.map fun direction =>
        SuggestedMap.body (negTtlm.mapsFor direction) direction := by
    rw [ieee80211NegTtlmAddSuggestedMap, List.map_map]
    apply List.map_congr_left
    intro direction _
    exact SuggestedMap.ttlmBody_octets direction
  have hdown := @SuggestedMap.linkedTids_le negTtlm.downlink
  unfold NegTtlm.RoundTrips
  rw [and_iff_right suggestedMap_sizeOk, hbodies]
  by_cases hsame : negTtlm.downlink = negTtlm.uplink
  · have hdirections : negTtlm.directions = [.both] :=
      if_neg (not_not.mpr hsame)
    have hboth : start.storeAll .both negTtlm.downlink = negTtlm := by
      cases negTtlm
      simp only at hsame
      rw [hsame]
      rfl
    rw [ieee80211NegTtlmAddSuggestedMap, hdirections, ← hsame]
    simp only [List.map_cons, List.map_nil, List.flatten_cons, List.flatten_nil,
      List.append_nil, SuggestedMap.octets_length, parseNegTtlmElements,
      NegTtlm.mapsFor, NegTtlm.Fits, hsame, true_or, true_and, and_self]
    rw [← hsame]
    constructor
    · rintro ⟨-, hparse⟩
      obtain ⟨result, hresult, hnext⟩ := Option.bind_eq_some_iff.mp hparse
      cases result with
      | error err => cases hnext
      | ok parsed => exact SuggestedMap.dense_of_parse hresult
    · intro hdense
      refine ⟨by rw [ttlmMaxLen]; omega, ?_⟩
      rw [SuggestedMap.parse_body hdense, Option.bind_some]
      simp only [hboth]
  · have hdirections : negTtlm.directions = [.down, .up] := if_pos hsame
    have hupdown : (start.storeAll .down negTtlm.downlink).storeAll .up
        negTtlm.uplink = negTtlm := rfl
    rw [ieee80211NegTtlmAddSuggestedMap, hdirections]
    simp only [List.map_cons, List.map_nil, List.flatten_cons, List.flatten_nil,
      List.append_nil, List.length_append, SuggestedMap.octets_length,
      parseNegTtlmElements, NegTtlm.mapsFor, NegTtlm.Fits, hsame, false_or,
      ttlmMaxLen]
    constructor
    · rintro ⟨hlength, hparse⟩
      obtain ⟨result, hresult, hnext⟩ := Option.bind_eq_some_iff.mp hparse
      cases result with
      | error err => cases hnext
      | ok parsed =>
          obtain ⟨last, hlast, hend⟩ := Option.bind_eq_some_iff.mp hnext
          cases last with
          | error err => cases hend
          | ok parsed' =>
              exact ⟨by omega, SuggestedMap.dense_of_parse hresult,
                SuggestedMap.dense_of_parse hlast⟩
    · rintro ⟨hfits, hdenseDown, hdenseUp⟩
      refine ⟨by omega, ?_⟩
      rw [SuggestedMap.parse_body hdenseDown, Option.bind_some]
      dsimp only
      rw [SuggestedMap.parse_body hdenseUp, Option.bind_some]
      simp only [hupdown]

/-- The round trip of mappings, and the reading of every element that passes
the size check. -/
theorem ttlm_exact (validLinks : UInt16) (start : NegTtlm) :
    (∀ negTtlm : NegTtlm, negTtlm.RoundTrips validLinks start ↔
      negTtlm.Fits ∧ Dense negTtlm.downlink ∧ Dense negTtlm.uplink) ∧
    ∀ body, ieee80211TidToLinkMapSizeOk body →
      (ieee80211ParseNegTtlm validLinks body start =
        some (negTtlmOf validLinks body start) ↔ NegFound body) ∧
      (ieee80211ParseAdvT2l body = some (advTtlmOf body) ↔ AdvFound body) := by
  constructor
  · intro negTtlm
    exact roundTrips_iff
  · intro body hok
    exact ⟨parseNegTtlm_iff hok, parseAdvT2l_iff hok⟩

def unmapped : NegTtlm := ⟨fun _ => 0, fun _ => 0⟩

def twoTids : List UInt8 := [0x02, 0x03, 0x05, 0x00, 0x06, 0x00]

theorem ttlm_exact_twoTids :
    ieee80211TidToLinkMapSizeOk twoTids = true ∧
      ieee80211ParseNegTtlm 7 twoTids unmapped =
        some (negTtlmOf 7 twoTids unmapped) := by
  have hok : ieee80211TidToLinkMapSizeOk twoTids = true := by decide
  have hfound : NegFound twoTids := by
    refine Or.inr (Or.inr (Or.inr (Or.inl ?_)))
    decide
  exact ⟨hok, (((ttlm_exact 7 unmapped).2 twoTids hok).1).mpr hfound⟩

/-- Eight TIDs in each of two different directions take 42 octets, a mapping of
TID 7 alone is read behind its element, and so is the switch time of a default
mapping. -/
theorem ttlm_misread :
    ttlmMaxLen < (ieee80211NegTtlmAddSuggestedMap
      ⟨fun _ => 3, fun _ => 1⟩).flatten.length ∧
    parseNegTtlmElements 7 ((ieee80211NegTtlmAddSuggestedMap
      ⟨fun tid => if tid = 7 then 3 else 0,
        fun tid => if tid = 7 then 3 else 0⟩).map ttlmBody) unmapped = none ∧
    ieee80211TidToLinkMapSizeOk [0x0e, 0x10, 0x27] = true ∧
    ieee80211ParseAdvT2l [0x0e, 0x10, 0x27] = none := by
  decide +kernel

end IwlwifiStack
