import IwlwifiStack.TtlmModel

/-!
# Reading TID-to-link mapping elements

The presence octet is in the element only without the default mapping, and a
map only for a TID whose presence bit is set.  Here the fields are read where
this puts them, and compared with what the two parsers return.
-/

namespace IwlwifiStack

/-! ## Where the fields are -/

def mapRank (presence tid : ℕ) : ℕ :=
  (List.range tid).countP presence.testBit

def timesOffset (control : ℕ) : ℕ :=
  1 + addIf (!hasBits control 0x04) 1

def mapsOffset (control : ℕ) : ℕ :=
  timesOffset control + addIf (hasBits control 0x08) 2 +
    addIf (hasBits control 0x10) 3

def linkMapOf (body : List UInt8) (tid : Fin 8) : Option UInt16 :=
  let control := dataOctet body 0
  ieee80211GetTtlm (linkMapSize control) body
    (mapsOffset control +
      mapRank (dataOctet body 1) tid * linkMapSize control)

def NegTtlm.storeAll (negTtlm : NegTtlm) (direction : TtlmDirection)
    (maps : Fin 8 → UInt16) : NegTtlm where
  downlink := if direction = .up then negTtlm.downlink else maps
  uplink := if direction = .down then negTtlm.uplink else maps

/-- A map without links, and a time field, have no place in a negotiation. -/
def negTtlmOf (validLinks : UInt16) (body : List UInt8) (negTtlm : NegTtlm) :
    Except ℤ (NegTtlm × TtlmDirection) :=
  let control := dataOctet body 0
  let presence := dataOctet body 1
  if hasBits control 0x18 then .error (-22)
  else if hasBits control 0x04 then
    .ok (⟨fun _ => validLinks, fun _ => validLinks⟩, .both)
  else
    match ttlmDirection control with
    | none => .error (-22)
    | some direction =>
        if ∃ tid : Fin 8, presence.testBit tid ∧ linkMapOf body tid = some 0 then
          .error (-22)
        else
          .ok (negTtlm.storeAll direction fun tid =>
            if presence.testBit tid then (linkMapOf body tid).getD 0 else 0,
            direction)

/-- An advertised mapping is the same for all TIDs. -/
def advTtlmOf (body : List UInt8) : Except ℤ AdvTtlmInfo :=
  let control := dataOctet body 0
  let times := (parseAdvTimes control body (timesOffset control)).getD (0, 0)
  if ttlmDirection control ≠ some .both then .error (-22)
  else if hasBits control 0x04 then .ok ⟨times.1, times.2, 0xffff⟩
  else if dataOctet body 1 ≠ 0xff then .error (-22)
  else if linkMapOf body 0 ≠ some 0 ∧
      ∀ tid, linkMapOf body tid = linkMapOf body 0 then
    .ok ⟨times.1, times.2, (linkMapOf body 0).getD 0⟩
  else .error (-22)

/-! ## Reads inside the body -/

theorem readByte_eq {body : List UInt8} {pos : ℕ} (hpos : pos < body.length) :
    readByte body pos = some (dataOctet body pos) := by
  rw [readByte, dataOctet, List.getD_eq_getElem?_getD,
    List.getElem?_eq_getElem hpos]
  rfl

theorem readByte_none {body : List UInt8} {pos : ℕ} (hpos : body.length ≤ pos) :
    readByte body pos = none := by
  rw [readByte, List.getElem?_eq_none hpos]
  rfl

theorem linkMapSize_cases (control : ℕ) :
    linkMapSize control = 1 ∨ linkMapSize control = 2 := by
  unfold linkMapSize
  split
  · exact Or.inl rfl
  · exact Or.inr rfl

theorem getTtlm_isSome {control pos : ℕ} {body : List UInt8}
    (hpos : pos + linkMapSize control ≤ body.length) :
    ∃ map, ieee80211GetTtlm (linkMapSize control) body pos = some map := by
  unfold ieee80211GetTtlm
  rcases linkMapSize_cases control with hsize | hsize
  · rw [hsize] at hpos ⊢
    rw [if_pos rfl, readByte_eq (by omega)]
    exact ⟨_, rfl⟩
  · rw [hsize] at hpos ⊢
    rw [if_neg (by omega), readByte_eq (by omega), readByte_eq (by omega)]
    exact ⟨_, rfl⟩

theorem mapRank_lt {presence : ℕ} {tid : Fin 8}
    (hpresent : presence.testBit tid) :
    mapRank presence tid < hweight8 presence := by
  have hsplit : List.range 8 = List.range (tid.val + 1) ++
      (List.range (8 - (tid.val + 1))).map (tid.val + 1 + ·) := by
    rw [← List.range_add, Nat.add_sub_cancel' tid.isLt]
  rw [hweight8, hsplit, List.countP_append, List.range_succ,
    List.countP_append, List.countP_singleton, if_pos hpresent, mapRank]
  omega

section Accepted

variable {body : List UInt8} (hok : ieee80211TidToLinkMapSizeOk body)

include hok

theorem sizeOk_pos : 0 < body.length := by
  unfold ieee80211TidToLinkMapSizeOk at hok
  simp only at hok
  split at hok
  · cases hok
  · omega

theorem sizeOk_maps (hdefault : hasBits (dataOctet body 0) 0x04 = false) :
    2 ≤ body.length ∧
      mapsOffset (dataOctet body 0) + hweight8 (dataOctet body 1) *
        linkMapSize (dataOctet body 0) ≤ body.length := by
  unfold ieee80211TidToLinkMapSizeOk at hok
  simp only [hdefault, Bool.false_eq_true, if_false] at hok
  split at hok
  · cases hok
  · obtain ⟨hpresence, hmaps⟩ := of_decide_eq_true hok
    unfold mapsOffset timesOffset linkMapSize
    rw [hdefault]
    constructor
    · omega
    · simp only [Bool.not_false, addIf, if_true] at hmaps ⊢
      omega

theorem sizeOk_times :
    timesOffset (dataOctet body 0) +
      addIf (hasBits (dataOctet body 0) 0x08) 2 +
        addIf (hasBits (dataOctet body 0) 0x10) 3 ≤ body.length := by
  cases hdefault : hasBits (dataOctet body 0) 0x04 with
  | false =>
      have hmaps := (sizeOk_maps hok hdefault).2
      unfold mapsOffset at hmaps
      omega
  | true =>
      unfold ieee80211TidToLinkMapSizeOk at hok
      simp only [hdefault, if_true] at hok
      split at hok
      · cases hok
      · have htimes := of_decide_eq_true hok
        rw [timesOffset, hdefault]
        simp only [Bool.not_true, addIf, Bool.false_eq_true, if_false] at htimes ⊢
        omega

theorem linkMapOf_isSome (hdefault : hasBits (dataOctet body 0) 0x04 = false)
    {tid : Fin 8} (hpresent : (dataOctet body 1).testBit tid) :
    ∃ map, linkMapOf body tid = some map := by
  have hmaps := (sizeOk_maps hok hdefault).2
  have hrank := Nat.mul_le_mul_right (linkMapSize (dataOctet body 0))
    (Nat.succ_le_of_lt (mapRank_lt hpresent))
  rw [Nat.succ_mul] at hrank
  exact getTtlm_isSome (by omega)

end Accepted

/-! ## The loop over the TIDs -/

def looped (body : List UInt8) (tid : Fin 8) : Option UInt16 :=
  let mapSize := linkMapSize (dataOctet body 0)
  ieee80211GetTtlm mapSize body (2 + tid * mapSize)

def stopsAt (body : List UInt8) (tid : Fin 8) : Bool :=
  (dataOctet body 1).testBit tid && decide ((looped body tid).getD 0 = 0)

def loopedOrNone (body : List UInt8) (tid : Fin 8) : UInt16 :=
  if (dataOctet body 1).testBit tid then (looped body tid).getD 0 else 0

theorem parseMaps_eq {body : List UInt8} {direction : TtlmDirection}
    (tids : List (Fin 8)) {start : ℕ} {negTtlm : NegTtlm}
    (htids : ∀ k (hk : k < tids.length), tids[k].val = start + k) :
    negTtlm.parseMaps body (dataOctet body 1) (linkMapSize (dataOctet body 0))
        direction tids (2 + start * linkMapSize (dataOctet body 0)) =
      match tids.find? (stopsAt body) with
      | some tid => (looped body tid).map fun _ => .error (-22)
      | none => some (.ok (tids.foldl (fun negTtlm tid =>
          negTtlm.store direction tid (loopedOrNone body tid)) negTtlm)) := by
  induction tids generalizing start negTtlm with
  | nil => rfl
  | cons tid tids ih =>
      have hstart : tid.val = start := htids 0 (Nat.zero_lt_succ _)
      have hread : ieee80211GetTtlm (linkMapSize (dataOctet body 0)) body
          (2 + start * linkMapSize (dataOctet body 0)) = looped body tid := by
        rw [looped, hstart]
      have hnext : ∀ map, (negTtlm.store direction tid map).parseMaps body
          (dataOctet body 1) (linkMapSize (dataOctet body 0)) direction tids
          (2 + start * linkMapSize (dataOctet body 0) +
            linkMapSize (dataOctet body 0)) =
          match tids.find? (stopsAt body) with
          | some tid => (looped body tid).map fun _ => .error (-22)
          | none => some (.ok (tids.foldl (fun negTtlm tid =>
              negTtlm.store direction tid (loopedOrNone body tid))
                (negTtlm.store direction tid map))) := by
        intro map
        rw [Nat.add_assoc, ← Nat.succ_mul]
        apply ih
        intro k hk
        have htail := htids (k + 1) (Nat.succ_lt_succ hk)
        rw [List.getElem_cons_succ] at htail
        omega
      rw [NegTtlm.parseMaps, hread, List.find?_cons, List.foldl_cons]
      cases hpresent : (dataOctet body 1).testBit tid with
      | false =>
          have hstop : stopsAt body tid = false := by
            rw [stopsAt, hpresent, Bool.false_and]
          have hmap : loopedOrNone body tid = 0 := by
            rw [loopedOrNone, hpresent]
            rfl
          rw [hstop, hmap, if_neg Bool.false_ne_true, hnext]
      | true =>
          rw [if_pos rfl]
          cases hmap : looped body tid with
          | none =>
              have hstop : stopsAt body tid = true := by
                rw [stopsAt, hpresent, hmap]
                rfl
              simp only [hstop, Option.bind_none, hmap, Option.map_none]
          | some map =>
              by_cases hzero : map = 0
              · have hstop : stopsAt body tid = true := by
                  rw [stopsAt, hpresent, hmap, hzero]
                  rfl
                simp only [hstop, Option.bind_some, hmap, Option.map_some,
                  if_pos hzero]
              · have hstop : stopsAt body tid = false := by
                  rw [stopsAt, hmap, Option.getD_some, decide_eq_false hzero,
                    Bool.and_false]
                have hstored : loopedOrNone body tid = map := by
                  rw [loopedOrNone, hpresent, hmap]
                  rfl
                rw [hstop, hstored, Option.bind_some, if_neg hzero, hnext]

theorem foldl_store_eq (direction : TtlmDirection) (maps : Fin 8 → UInt16)
    (tids : List (Fin 8)) (negTtlm : NegTtlm) :
    tids.foldl (fun negTtlm tid => negTtlm.store direction tid (maps tid))
        negTtlm =
      { downlink := fun tid => if direction = .up ∨ tid ∉ tids then
          negTtlm.downlink tid else maps tid
        uplink := fun tid => if direction = .down ∨ tid ∉ tids then
          negTtlm.uplink tid else maps tid } := by
  induction tids generalizing negTtlm with
  | nil => simp
  | cons tid tids ih =>
      rw [List.foldl_cons, ih]
      congr 1
      · funext other
        cases direction <;> by_cases heq : other = tid <;>
          simp [NegTtlm.store, heq]
      · funext other
        cases direction <;> by_cases heq : other = tid <;>
          simp [NegTtlm.store, heq]

theorem foldl_store_all (direction : TtlmDirection) (maps : Fin 8 → UInt16)
    (negTtlm : NegTtlm) :
    (List.finRange 8).foldl
        (fun negTtlm tid => negTtlm.store direction tid (maps tid)) negTtlm =
      negTtlm.storeAll direction maps := by
  rw [foldl_store_eq]
  cases direction <;> simp [NegTtlm.storeAll]

theorem storeAll_inj {direction : TtlmDirection} {maps maps' : Fin 8 → UInt16}
    {negTtlm : NegTtlm} (heq : negTtlm.storeAll direction maps =
      negTtlm.storeAll direction maps') : maps = maps' := by
  cases direction with
  | down => exact congrArg NegTtlm.downlink heq
  | up => exact congrArg NegTtlm.uplink heq
  | both => exact congrArg NegTtlm.downlink heq

/-! ## Negotiated mappings -/

/-- Each map is where the loop looks for it, or the element has to be refused
and the loop comes to a map without links before it leaves the body. -/
def MapsFound (body : List UInt8) : Prop :=
  (∀ tid : Fin 8, (dataOctet body 1).testBit tid →
    looped body tid = linkMapOf body tid) ∨
  (∃ tid : Fin 8, (dataOctet body 1).testBit tid ∧
    linkMapOf body tid = some 0) ∧
  ∃ tid : Fin 8, (dataOctet body 1).testBit tid ∧ looped body tid = some 0 ∧
    ∀ before < tid, (dataOctet body 1).testBit before →
      looped body before ≠ none ∧ looped body before ≠ some 0

theorem stopsAt_iff {body : List UInt8} {tid : Fin 8} :
    stopsAt body tid = true ↔ (dataOctet body 1).testBit tid ∧
      (looped body tid = none ∨ looped body tid = some 0) := by
  cases hmap : looped body tid <;> simp [stopsAt, hmap]

theorem find_stopsAt_iff {body : List UInt8} {tid : Fin 8} :
    (List.finRange 8).find? (stopsAt body) = some tid ↔
      stopsAt body tid = true ∧ ∀ before < tid, stopsAt body before = false := by
  rw [List.find?_eq_some_iff_getElem]
  constructor
  · rintro ⟨hstop, i, hi, htid, hbefore⟩
    refine ⟨hstop, ?_⟩
    intro before hlt
    have hindex : i = tid := by
      rw [← htid, List.getElem_finRange]
      rfl
    have hnot := hbefore before (hindex ▸ hlt)
    rw [List.getElem_finRange] at hnot
    simpa using hnot
  · rintro ⟨hstop, hbefore⟩
    refine ⟨hstop, tid, by simp, by simp, ?_⟩
    intro j hj
    have hnot := hbefore ⟨j, by omega⟩ hj
    rw [List.getElem_finRange]
    simpa using hnot

section Negotiated

variable {body : List UInt8} {validLinks : UInt16} {negTtlm : NegTtlm}
  (hok : ieee80211TidToLinkMapSizeOk body)

include hok

theorem parseNegTtlm_loop {direction : TtlmDirection}
    (htimes : hasBits (dataOctet body 0) 0x18 = false)
    (hdefault : hasBits (dataOctet body 0) 0x04 = false)
    (hdirection : ttlmDirection (dataOctet body 0) = some direction) :
    ieee80211ParseNegTtlm validLinks body negTtlm =
      match (List.finRange 8).find? (stopsAt body) with
      | some tid => (looped body tid).map fun _ => .error (-22)
      | none => some (.ok (negTtlm.storeAll direction (loopedOrNone body),
          direction)) := by
  have hlength := (sizeOk_maps hok hdefault).1
  have hloop := @parseMaps_eq body direction (List.finRange 8) 0 negTtlm (by
    intro k hk
    rw [List.getElem_finRange, Nat.zero_add]
    rfl)
  rw [Nat.zero_mul, foldl_store_all] at hloop
  simp only [ieee80211ParseNegTtlm, readByte_eq (sizeOk_pos hok),
    Option.bind_some, htimes, hdefault, hdirection, Bool.false_eq_true, if_false,
    readByte_eq (show 1 < body.length by omega), hloop]
  cases (List.finRange 8).find? (stopsAt body) with
  | none => rfl
  | some tid =>
      dsimp only
      cases looped body tid <;> rfl

theorem parseNegTtlm_maps_iff {direction : TtlmDirection}
    (htimes : hasBits (dataOctet body 0) 0x18 = false)
    (hdefault : hasBits (dataOctet body 0) 0x04 = false)
    (hdirection : ttlmDirection (dataOctet body 0) = some direction) :
    ieee80211ParseNegTtlm validLinks body negTtlm =
        some (negTtlmOf validLinks body negTtlm) ↔ MapsFound body := by
  rw [parseNegTtlm_loop hok htimes hdefault hdirection]
  simp only [negTtlmOf, htimes, hdefault, hdirection, Bool.false_eq_true,
    if_false]
  have hpresent : ∀ tid : Fin 8, (dataOctet body 1).testBit tid →
      ∃ map, linkMapOf body tid = some map :=
    fun tid => linkMapOf_isSome hok hdefault
  cases hfind : (List.finRange 8).find? (stopsAt body) with
  | none =>
      have hnone : ∀ tid, stopsAt body tid = false := by
        intro tid
        simpa using List.find?_eq_none.mp hfind tid (List.mem_finRange tid)
      constructor
      · intro heq
        left
        split_ifs at heq
        · cases heq
        rw [Option.some.injEq, Except.ok.injEq, Prod.mk.injEq] at heq
        have hmaps := storeAll_inj heq.1
        intro tid hbit
        obtain ⟨map, hmap⟩ := hpresent tid hbit
        have hsame := congrFun hmaps tid
        rw [loopedOrNone, if_pos hbit, if_pos hbit, hmap] at hsame
        cases hloop : looped body tid with
        | none =>
            have hstop := stopsAt_iff.mpr ⟨hbit, Or.inl hloop⟩
            rw [hnone tid] at hstop
            cases hstop
        | some read =>
            rw [hloop] at hsame
            rw [hmap, show read = map from hsame]
      · rintro (hsame | ⟨-, tid, hbit, hzero, -⟩)
        · have hlinks : ¬∃ tid : Fin 8, (dataOctet body 1).testBit tid ∧
              linkMapOf body tid = some 0 := by
            rintro ⟨tid, hbit, hzero⟩
            have hstop := stopsAt_iff.mpr
              ⟨hbit, Or.inr ((hsame tid hbit).trans hzero)⟩
            rw [hnone tid] at hstop
            cases hstop
          have hmaps : loopedOrNone body = fun tid : Fin 8 =>
              if (dataOctet body 1).testBit tid then
                (linkMapOf body tid).getD 0 else 0 := by
            funext tid
            unfold loopedOrNone
            split
            · rename_i hbit
              rw [hsame tid hbit]
            · rfl
          rw [if_neg hlinks, hmaps]
        · have hstop := stopsAt_iff.mpr ⟨hbit, Or.inr hzero⟩
          rw [hnone tid] at hstop
          cases hstop
  | some tid =>
      obtain ⟨hstop, hbefore⟩ := find_stopsAt_iff.mp hfind
      obtain ⟨hbit, hread⟩ := stopsAt_iff.mp hstop
      have hgood : ∀ before < tid, (dataOctet body 1).testBit before →
          looped body before ≠ none ∧ looped body before ≠ some 0 := by
        intro before hlt hbitBefore
        constructor
        · intro hnone
          have hstops := stopsAt_iff.mpr ⟨hbitBefore, Or.inl hnone⟩
          rw [hbefore before hlt] at hstops
          cases hstops
        · intro hzero
          have hstops := stopsAt_iff.mpr ⟨hbitBefore, Or.inr hzero⟩
          rw [hbefore before hlt] at hstops
          cases hstops
      constructor
      · intro heq
        right
        rcases hread with hnone | hzero
        · simp [hnone] at heq
        · simp only [hzero, Option.map_some, Option.some.injEq] at heq
          split_ifs at heq with hlinks
          exact ⟨hlinks, tid, hbit, hzero, hgood⟩
      · rintro (hsame | ⟨hlinks, other, hbitOther, hzero, hother⟩)
        · obtain ⟨map, hmap⟩ := hpresent tid hbit
          have hloop := (hsame tid hbit).trans hmap
          have hzero : looped body tid = some 0 := by
            rcases hread with hnone | hzero
            · rw [hloop] at hnone
              cases hnone
            · exact hzero
          dsimp only
          rw [if_pos ⟨tid, hbit, (hsame tid hbit).symm.trans hzero⟩, hzero]
          rfl
        · have hle : tid ≤ other := by
            by_contra hlt
            have hstops := hbefore other (not_le.mp hlt)
            rw [stopsAt_iff.mpr ⟨hbitOther, Or.inr hzero⟩] at hstops
            cases hstops
          have heqTid : looped body tid = some 0 := by
            rcases hle.lt_or_eq with hlt | heq
            · rcases hread with hnone | hzero
              · exact absurd hnone (hother tid hlt hbit).1
              · exact hzero
            · rw [heq]
              exact hzero
          dsimp only
          rw [if_pos hlinks, heqTid]
          rfl

def NegFound (body : List UInt8) : Prop :=
  hasBits (dataOctet body 0) 0x18 ∨ hasBits (dataOctet body 0) 0x04 ∨
    ttlmDirection (dataOctet body 0) = none ∨ MapsFound body

theorem parseNegTtlm_iff :
    ieee80211ParseNegTtlm validLinks body negTtlm =
        some (negTtlmOf validLinks body negTtlm) ↔ NegFound body := by
  have hread := readByte_eq (sizeOk_pos hok)
  cases htimes : hasBits (dataOctet body 0) 0x18 with
  | true => simp [ieee80211ParseNegTtlm, negTtlmOf, NegFound, hread, htimes]
  | false =>
      cases hdefault : hasBits (dataOctet body 0) 0x04 with
      | true =>
          simp [ieee80211ParseNegTtlm, negTtlmOf, NegFound, hread, htimes,
            hdefault]
      | false =>
          cases hdirection : ttlmDirection (dataOctet body 0) with
          | none =>
              simp [ieee80211ParseNegTtlm, negTtlmOf, NegFound, hread, htimes,
                hdefault, hdirection]
          | some direction =>
              rw [parseNegTtlm_maps_iff hok htimes hdefault hdirection]
              simp [NegFound, htimes, hdefault, hdirection]

end Negotiated

/-! ## Advertised mappings -/

theorem readLe16_isSome {body : List UInt8} {pos : ℕ}
    (hpos : pos + 2 ≤ body.length) : ∃ value, readLe16 body pos = some value := by
  rw [readLe16, readByte_eq (by omega), readByte_eq (by omega)]
  exact ⟨_, rfl⟩

theorem parseAdvTimes_isSome {control pos : ℕ} {body : List UInt8}
    (hpos : pos + addIf (hasBits control 0x08) 2 +
      addIf (hasBits control 0x10) 3 ≤ body.length) :
    ∃ times, parseAdvTimes control body pos = some times := by
  have hswitch : ∃ switchTime, (if hasBits control 0x08 then
      (readLe16 body pos).map bumpSwitchTime else some 0) = some switchTime := by
    split
    · rename_i hbit
      rw [hbit, addIf, if_pos rfl] at hpos
      obtain ⟨value, hvalue⟩ := readLe16_isSome (show pos + 2 ≤ body.length by
        omega)
      exact ⟨_, by rw [hvalue, Option.map_some]⟩
    · exact ⟨0, rfl⟩
  have hduration : ∃ duration, (if hasBits control 0x10 then
      readLe24 body (pos + addIf (hasBits control 0x08) 2) else some 0) =
        some duration := by
    split
    · rename_i hbit
      rw [hbit, addIf, addIf, if_pos rfl] at hpos
      have hroom : pos + addIf (hasBits control 0x08) 2 + 2 ≤ body.length := by
        rw [addIf]
        omega
      obtain ⟨value, hvalue⟩ := readLe16_isSome hroom
      rw [readLe24, hvalue, Option.bind_some, readByte_eq (by
        rw [addIf]
        omega)]
      exact ⟨_, rfl⟩
    · exact ⟨0, rfl⟩
  obtain ⟨switchTime, hswitch⟩ := hswitch
  obtain ⟨duration, hduration⟩ := hduration
  simp only [parseAdvTimes, hswitch, hduration, Option.bind_some,
    Option.map_some]
  exact ⟨_, rfl⟩

theorem sameMaps_eq {body : List UInt8} {mapSize : ℕ} {first : UInt16}
    (left : ℕ) {pos : ℕ} (hread : ∀ k < left, ∃ map,
      ieee80211GetTtlm mapSize body (pos + k * mapSize) = some map) :
    sameMaps body mapSize first left pos =
      some (if ∀ k < left, ieee80211GetTtlm mapSize body (pos + k * mapSize) =
        some first then .ok () else .error (-22)) := by
  induction left generalizing pos with
  | zero => simp [sameMaps]
  | succ left ih =>
      have hnext : ∀ k, pos + mapSize + k * mapSize = pos + (k + 1) * mapSize := by
        intro k
        rw [Nat.succ_mul]
        omega
      obtain ⟨map, hmap⟩ := hread 0 (Nat.zero_lt_succ _)
      rw [Nat.zero_mul, Nat.add_zero] at hmap
      rw [sameMaps, hmap, Option.bind_some]
      by_cases hsame : map = first
      · rw [if_neg (not_not.mpr hsame), ih]
        · congr 2
          apply propext
          constructor
          · intro hall k hk
            cases k with
            | zero => rw [Nat.zero_mul, Nat.add_zero, hmap, hsame]
            | succ k => rw [← hnext, hall k (by omega)]
          · intro hall k hk
            rw [hnext, hall (k + 1) (by omega)]
        · intro k hk
          rw [hnext]
          exact hread (k + 1) (by omega)
      · have hnot : ¬∀ k < left + 1,
            ieee80211GetTtlm mapSize body (pos + k * mapSize) = some first := by
          intro hall
          have hzero := hall 0 (Nat.zero_lt_succ _)
          rw [Nat.zero_mul, Nat.add_zero, hmap] at hzero
          exact hsame (Option.some.inj hzero)
        rw [if_pos hsame, if_neg hnot]

/-- When an advertised mapping is read as it is in the element: with the default
mapping the times are read one octet too late. -/
def AdvFound (body : List UInt8) : Prop :=
  ttlmDirection (dataOctet body 0) ≠ some .both ∨
    hasBits (dataOctet body 0) 0x04 = false ∨
      1 < body.length ∧ parseAdvTimes (dataOctet body 0) body 2 =
        parseAdvTimes (dataOctet body 0) body 1

theorem mapRank_all (tid : Fin 8) : mapRank 0xff tid = tid := by
  revert tid
  decide

section Advertised

variable {body : List UInt8} (hok : ieee80211TidToLinkMapSizeOk body)

include hok

theorem parseAdvMap_eq (hdefault : hasBits (dataOctet body 0) 0x04 = false)
    (hpresence : dataOctet body 1 = 0xff) :
    parseAdvMap body (linkMapSize (dataOctet body 0))
        (mapsOffset (dataOctet body 0)) =
      some (if linkMapOf body 0 ≠ some 0 ∧
          ∀ tid, linkMapOf body tid = linkMapOf body 0 then
        .ok ((linkMapOf body 0).getD 0) else .error (-22)) := by
  have hmap : ∀ tid : Fin 8, linkMapOf body tid =
      ieee80211GetTtlm (linkMapSize (dataOctet body 0)) body
        (mapsOffset (dataOctet body 0) +
          tid * linkMapSize (dataOctet body 0)) := by
    intro tid
    rw [linkMapOf, hpresence, mapRank_all]
  have hsome : ∀ tid : Fin 8, ∃ map, linkMapOf body tid = some map := by
    intro tid
    apply linkMapOf_isSome hok hdefault
    rw [hpresence]
    revert tid
    decide
  obtain ⟨first, hfirst⟩ := hsome 0
  have hnext : ∀ k, mapsOffset (dataOctet body 0) +
      linkMapSize (dataOctet body 0) + k * linkMapSize (dataOctet body 0) =
        mapsOffset (dataOctet body 0) +
          (k + 1) * linkMapSize (dataOctet body 0) := by
    intro k
    rw [Nat.succ_mul]
    omega
  have hread : ieee80211GetTtlm (linkMapSize (dataOctet body 0)) body
      (mapsOffset (dataOctet body 0)) = some first := by
    rw [← hfirst, hmap]
    simp
  have hinside : ∀ k < 7, ∃ map,
      ieee80211GetTtlm (linkMapSize (dataOctet body 0)) body
        (mapsOffset (dataOctet body 0) + linkMapSize (dataOctet body 0) +
          k * linkMapSize (dataOctet body 0)) = some map := by
    intro k hk
    obtain ⟨map, hsomeMap⟩ := hsome ⟨k + 1, by omega⟩
    exact ⟨map, by rw [hnext, ← hsomeMap, hmap]⟩
  have hrest := @sameMaps_eq _ _ first 7 _ hinside
  have hall : (∀ k < 7, ieee80211GetTtlm (linkMapSize (dataOctet body 0)) body
        (mapsOffset (dataOctet body 0) + linkMapSize (dataOctet body 0) +
          k * linkMapSize (dataOctet body 0)) = some first) ↔
      ∀ tid, linkMapOf body tid = linkMapOf body 0 := by
    rw [hfirst]
    constructor
    · intro hsame tid
      rcases tid with ⟨tid, htid⟩
      cases tid with
      | zero => exact hfirst
      | succ k => rw [hmap, ← hsame k (by omega), hnext]
    · intro hsame k hk
      rw [hnext, ← hsame ⟨k + 1, by omega⟩, hmap]
  rw [parseAdvMap, hread, Option.bind_some, hrest, hfirst, Option.getD_some]
  by_cases hzero : first = 0
  · rw [if_pos hzero, if_neg]
    rintro ⟨hne, -⟩
    exact hne (congrArg some hzero)
  · have hne : some first ≠ some (0 : UInt16) := fun heq =>
      hzero (Option.some.inj heq)
    rw [if_neg hzero]
    simp only [hall, hfirst, ne_eq, hne, not_false_eq_true, true_and]
    split <;> rfl

theorem parseAdvT2l_iff :
    ieee80211ParseAdvT2l body = some (advTtlmOf body) ↔ AdvFound body := by
  have hread := readByte_eq (sizeOk_pos hok)
  by_cases hdirection : ttlmDirection (dataOctet body 0) = some .both
  · cases hdefault : hasBits (dataOctet body 0) 0x04 with
    | false =>
        obtain ⟨hlength, -⟩ := sizeOk_maps hok hdefault
        have hoffset : timesOffset (dataOctet body 0) = 2 := by
          rw [timesOffset, hdefault]
          rfl
        have htimesRoom := sizeOk_times hok
        rw [hoffset] at htimesRoom
        obtain ⟨times, htimes⟩ := parseAdvTimes_isSome htimesRoom
        have hmapsAt : 2 + addIf (hasBits (dataOctet body 0) 0x08) 2 +
            addIf (hasBits (dataOctet body 0) 0x10) 3 =
              mapsOffset (dataOctet body 0) := by
          rw [mapsOffset, hoffset]
        have hfound : AdvFound body := Or.inr (Or.inl hdefault)
        simp only [hfound, iff_true]
        simp only [ieee80211ParseAdvT2l, advTtlmOf, hread, hdirection,
          Option.bind_some, readByte_eq (show 1 < body.length by omega), htimes,
          hdefault, hmapsAt, hoffset, Option.getD_some, ne_eq,
          not_true_eq_false, Bool.false_eq_true, if_false]
        by_cases hpresence : dataOctet body 1 = 0xff
        · rw [if_neg (not_not.mpr hpresence), if_neg (not_not.mpr hpresence),
            parseAdvMap_eq hok hdefault hpresence, Option.map_some]
          split <;> rfl
        · rw [if_pos hpresence, if_pos hpresence]
    | true =>
        have hoffset : timesOffset (dataOctet body 0) = 1 := by
          rw [timesOffset, hdefault]
          rfl
        have htimesRoom := sizeOk_times hok
        rw [hoffset] at htimesRoom
        obtain ⟨times, htimes⟩ := parseAdvTimes_isSome htimesRoom
        have hadv : AdvFound body ↔ 1 < body.length ∧
            parseAdvTimes (dataOctet body 0) body 2 = some times := by
          simp [AdvFound, hdirection, hdefault, htimes]
        rw [hadv]
        simp only [ieee80211ParseAdvT2l, advTtlmOf, hread, hdirection,
          Option.bind_some, hdefault, hoffset, htimes, Option.getD_some, ne_eq,
          not_true_eq_false, if_true, if_false]
        by_cases hlength : 1 < body.length
        · rw [readByte_eq hlength, Option.bind_some]
          cases hlate : parseAdvTimes (dataOctet body 0) body 2 with
          | none => simp
          | some late =>
              simp only [Option.bind_some, Option.some.injEq, Except.ok.injEq,
                AdvTtlmInfo.mk.injEq, and_true, hlength, true_and]
              exact Prod.ext_iff.symm
        · rw [readByte_none (by omega)]
          simp [hlength]
  · simp [ieee80211ParseAdvT2l, advTtlmOf, AdvFound, hread, hdirection]

end Advertised

end IwlwifiStack
