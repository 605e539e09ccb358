import IwlwifiStack.S1gTimEncode
import IwlwifiStack.S1gTimWalk

/-!
# When the TIM of an S1G beacon is decoded within its bounds

Inside the element the decoder is right about every AID.  What is wrong is the
end of the element: `tim_len` counts the octets behind the element header, but
two more are added to it, as if the header were counted.  So the octets that
follow the element are read, and may be taken for a block, when the AID is in
none of the element's blocks.
-/

namespace IwlwifiStack

/-! ## Where the walk stops inside the element -/

/-- What is left of the element when the walk ends without an access behind
it. -/
inductive StopsAt (aid : ℕ) : List UInt8 → Prop
  | covered (block : EncodedBlock) (tail : List UInt8) :
      block.Covers aid → StopsAt aid (block.bytes ++ tail)
  /-- The fourth encoding mode. -/
  | reserved (ctrl : UInt8) (tail : List UInt8) :
      ctrl.toNat % 4 = 3 → StopsAt aid (ctrl :: tail)
  /-- The last block is cut behind the octet that tells its length: by three
  octets at least, by two if the AID is not in it, or by any if the AID is in it
  and its octet is not cut off. -/
  | cut (block : EncodedBlock) (front missing : List UInt8) :
      front ++ missing = block.bytes → 2 ≤ front.length →
      (3 ≤ missing.length ∨ missing.length = 2 ∧ ¬block.Covers aid ∨
        block.Covers aid ∧ ∀ place ∈ block.octetAt aid, place < front.length) →
      StopsAt aid front

def StopsInside (aid : ℕ) (pvb : List UInt8) : Prop :=
  ∃ (passed : List EncodedBlock) (rest : List UInt8),
    pvb = passed.flatMap EncodedBlock.bytes ++ rest ∧
    (∀ block ∈ passed, ¬block.Covers aid) ∧ StopsAt aid rest

/-! ## Every sequence of octets begins with blocks -/

theorem exists_block (ctrl : UInt8) (coding : BlockCoding)
    (hwell : coding.WellFormed) (hmode : ctrl.toNat % 4 = coding.mode) :
    ∃ block : EncodedBlock, block.coding = coding ∧
      block.bytes = ctrl :: coding.bytes := by
  have hlt := ctrl.toNat_lt
  have hbit : ctrl.toNat.testBit 2 = decide (ctrl.toNat / 4 % 2 = 1) :=
    Nat.testBit_eq_decide_div_mod_eq
  refine ⟨⟨ctrl.toNat / 8, ctrl.toNat.testBit 2, coding, by omega, hwell⟩, rfl,
    ?_⟩
  have hcontrol : EncodedBlock.control
      ⟨ctrl.toNat / 8, ctrl.toNat.testBit 2, coding, by omega, hwell⟩ =
      ctrl.toNat := by
    simp only [EncodedBlock.control, hbit, decide_eq_true_eq]
    split_ifs <;> omega
  rw [EncodedBlock.bytes, hcontrol, UInt8.ofNat_toNat]

theorem fill_length (octets : List UInt8) (n : ℕ) (hshort : octets.length < n) :
    (octets ++ List.replicate (n - octets.length) 0).length = n := by
  rw [List.length_append, List.length_replicate]
  omega

/-- The next octets are a complete block, a block that is cut, or one of the
reserved mode. -/
theorem next_block (ctrl : UInt8) (octets : List UInt8) :
    ctrl.toNat % 4 = 3 ∨
      (∃ block tail, ctrl :: octets = EncodedBlock.bytes block ++ tail) ∨
      ∃ block missing, missing ≠ [] ∧
        (ctrl :: octets) ++ missing = EncodedBlock.bytes block := by
  have hmode : ctrl.toNat % 4 = 0 ∨ ctrl.toNat % 4 = 1 ∨ ctrl.toNat % 4 = 2 ∨
      ctrl.toNat % 4 = 3 := by omega
  rcases hmode with hmode | hmode | hmode | hmode
  · cases octets with
    | nil =>
        obtain ⟨block, -, hbytes⟩ := exists_block ctrl (.block 0 [])
          ⟨by norm_num, rfl⟩ hmode
        exact Or.inr (Or.inr ⟨block, [0], by simp, by rw [hbytes]; rfl⟩)
    | cons blkmap octets =>
        by_cases hlong : hweight8 blkmap.toNat ≤ octets.length
        · obtain ⟨block, -, hbytes⟩ := exists_block ctrl
            (.block blkmap.toNat (octets.take (hweight8 blkmap.toNat)))
            ⟨blkmap.toNat_lt, by rw [List.length_take, Nat.min_eq_left hlong]⟩
            hmode
          refine Or.inr (Or.inl ⟨block, octets.drop (hweight8 blkmap.toNat), ?_⟩)
          simp [hbytes, BlockCoding.bytes]
        · obtain ⟨block, -, hbytes⟩ := exists_block ctrl
            (.block blkmap.toNat (octets ++
              List.replicate (hweight8 blkmap.toNat - octets.length) 0))
            ⟨blkmap.toNat_lt, fill_length _ _ (by omega)⟩ hmode
          refine Or.inr (Or.inr ⟨block,
            List.replicate (hweight8 blkmap.toNat - octets.length) 0, ?_, ?_⟩)
          · simp only [ne_eq, List.replicate_eq_nil_iff]
            omega
          · simp [hbytes, BlockCoding.bytes]
  · cases octets with
    | nil =>
        obtain ⟨block, -, hbytes⟩ := exists_block ctrl (.single 0)
          trivial hmode
        exact Or.inr (Or.inr ⟨block, [0], by simp, by rw [hbytes]; rfl⟩)
    | cons octet octets =>
        obtain ⟨block, -, hbytes⟩ := exists_block ctrl (.single octet)
          trivial hmode
        exact Or.inr (Or.inl ⟨block, octets, by rw [hbytes]; rfl⟩)
  · cases octets with
    | nil =>
        obtain ⟨block, -, hbytes⟩ := exists_block ctrl (.olb [])
          (show [].length < 256 by norm_num) hmode
        exact Or.inr (Or.inr ⟨block, [0], by simp, by rw [hbytes]; rfl⟩)
    | cons len octets =>
        have hlt := len.toNat_lt
        by_cases hlong : len.toNat ≤ octets.length
        · have hlength : (octets.take len.toNat).length = len.toNat := by
            rw [List.length_take, Nat.min_eq_left hlong]
          obtain ⟨block, -, hbytes⟩ := exists_block ctrl
            (.olb (octets.take len.toNat)) (show List.length _ < 256 by omega) hmode
          refine Or.inr (Or.inl ⟨block, octets.drop len.toNat, ?_⟩)
          simp [hbytes, BlockCoding.bytes, hlength]
        · have hlength := fill_length octets len.toNat (by omega)
          obtain ⟨block, -, hbytes⟩ := exists_block ctrl
            (.olb (octets ++ List.replicate (len.toNat - octets.length) 0))
            (show List.length _ < 256 by omega) hmode
          refine Or.inr (Or.inr ⟨block,
            List.replicate (len.toNat - octets.length) 0, ?_, ?_⟩)
          · simp only [ne_eq, List.replicate_eq_nil_iff]
            omega
          · simp only [hbytes, BlockCoding.bytes, hlength, UInt8.ofNat_toNat]
            rfl
  · exact Or.inl hmode

theorem pvb_cases (aid : ℕ) (pvb : List UInt8) :
    ∃ (passed : List EncodedBlock) (rest : List UInt8),
      pvb = passed.flatMap EncodedBlock.bytes ++ rest ∧
      (∀ block ∈ passed, ¬block.Covers aid) ∧
      (rest = [] ∨ StopsAt aid rest ∨
        ∃ block missing, rest ≠ [] ∧ missing ≠ [] ∧
          rest ++ missing = EncodedBlock.bytes block) := by
  induction hn : pvb.length using Nat.strong_induction_on generalizing pvb with
  | _ n ih =>
      cases pvb with
      | nil => exact ⟨[], [], rfl, by simp, Or.inl rfl⟩
      | cons ctrl octets =>
          rcases next_block ctrl octets with hreserved | ⟨block, tail, hblock⟩ |
            ⟨block, missing, hmissing, hblock⟩
          · exact ⟨[], ctrl :: octets, rfl, by simp,
              Or.inr (Or.inl (.reserved ctrl octets hreserved))⟩
          · by_cases hcovers : block.Covers aid
            · refine ⟨[], ctrl :: octets, rfl, by simp, Or.inr (Or.inl ?_)⟩
              rw [hblock]
              exact .covered block tail hcovers
            · have hlong := block.two_le_length
              have hlength := congrArg List.length hblock
              rw [List.length_append, hn] at hlength
              obtain ⟨passed, rest, hpvb, hpassed, hrest⟩ :=
                ih tail.length (by omega) tail rfl
              refine ⟨block :: passed, rest, ?_, ?_, hrest⟩
              · rw [hblock, hpvb, List.flatMap_cons, List.append_assoc]
              · intro other hother
                rcases List.mem_cons.mp hother with rfl | hother
                · exact hcovers
                · exact hpassed other hother
          · exact ⟨[], ctrl :: octets, rfl, by simp,
              Or.inr (Or.inr ⟨block, missing, by simp, hmissing, hblock⟩)⟩

/-! ## The accesses of the decoder -/

section Inside

variable {tim rest missing : List UInt8} {aid ptr : ℕ} {block : EncodedBlock}

def parseFound (tim : List UInt8) (aid : ℕ) :
    Option (Except ℤ S1gTimEncBlock) → Option Bool
  | none => none
  | some (.error _) => some false
  | some (.ok enc) => parseTarget tim enc (s1gTimAid aid)

/-- A block of which only the control octet is left: its length is looked for
behind the element. -/
theorem findTargetBlock_control (hdrop : tim.drop ptr = rest)
    (hend : ptr + rest.length = tim.length)
    (hblock : rest ++ missing = block.bytes) (hone : rest.length = 1)
    (hmode : block.coding.mode ≠ 1) (bound : ℕ) :
    ieee80211S1gFindTargetBlock tim (s1gTimAid aid) (tim.length + 2) (bound + 1)
      ptr = none := by
  obtain ⟨hcontrol, hoffset, -⟩ := block.control_parts
  have hread : readByte tim ptr = some block.control :=
    EncodedBlock.read_control (hdrop.trans (List.append_nil rest).symm) hblock
      (by omega)
  have hextent : encodedExtent tim (s1gTimAid aid) (ptr + 1) (tim.length + 2)
      block.coding.mode block.offset = none := by
    have houtside : readByte tim (ptr + 1) = none :=
      readByte_outside (by omega)
    cases hcoding : block.coding with
    | block blkmap subblocks =>
        simp only [encodedExtent, BlockCoding.mode, ieee80211S1gLenBitmap,
          houtside]
        rw [if_neg (by omega)]
        rfl
    | single octet =>
        rw [hcoding] at hmode
        exact absurd rfl hmode
    | olb subblocks =>
        simp only [encodedExtent, BlockCoding.mode, ieee80211S1gLenOlb, houtside]
        rw [if_neg (by omega)]
        rfl
  rw [ieee80211S1gFindTargetBlock, if_pos (by omega)]
  simp only [hread, hcontrol, hoffset, hextent]

/-- A single AID of which only the control octet is left: the AID, or the next
control octet, is looked for behind the element. -/
theorem parseFound_single (hdrop : tim.drop ptr = rest)
    (hend : ptr + rest.length = tim.length)
    (hblock : rest ++ missing = block.bytes) (hone : rest.length = 1)
    (hmode : block.coding.mode = 1) (bound : ℕ) :
    parseFound tim aid (ieee80211S1gFindTargetBlock tim (s1gTimAid aid)
      (tim.length + 2) (bound + 2) ptr) = none := by
  have hmem : tim.drop ptr = rest ++ [] := hdrop.trans (List.append_nil _).symm
  have hbegun : block.Begun rest := Or.inr ⟨hone, hmode⟩
  have hcoding : ∃ octet, block.coding = .single octet := by
    cases hcoding : block.coding with
    | single octet => exact ⟨octet, rfl⟩
    | block blkmap subblocks =>
        rw [hcoding] at hmode
        cases hmode
    | olb subblocks =>
        rw [hcoding] at hmode
        cases hmode
  obtain ⟨octet, hcoding⟩ := hcoding
  have hlength : block.bytes.length = 2 := by
    simp [EncodedBlock.bytes, hcoding, BlockCoding.bytes]
  rw [EncodedBlock.findTargetBlock_begun hmem hblock hbegun (by omega), hlength,
    if_neg (by omega)]
  by_cases hcovers : block.Covers aid
  · have hplace : block.octetAt aid = some 1 := by
      simp only [EncodedBlock.octetAt, hcoding]
    rw [if_pos hcovers]
    simp only [parseFound, EncodedBlock.parseTarget_begun hmem hblock hbegun aid,
      hplace, readByte_outside (show tim.length ≤ ptr + 1 by omega),
      Option.map_none]
  · rw [if_neg hcovers, findTargetBlock_outside (by omega), if_pos (by omega)]
    rfl

/-- A cut block is walked over without an access behind the element exactly as
`StopsAt.cut` says. -/
theorem cut_inside_iff (hdrop : tim.drop ptr = rest)
    (hend : ptr + rest.length = tim.length) (hrest : rest ≠ [])
    (hmissing : missing ≠ []) (hblock : rest ++ missing = block.bytes)
    (bound : ℕ) :
    parseFound tim aid (ieee80211S1gFindTargetBlock tim (s1gTimAid aid)
        (tim.length + 2) (bound + 2) ptr) ≠ none ↔
      2 ≤ rest.length ∧ (3 ≤ missing.length ∨
        missing.length = 2 ∧ ¬block.Covers aid ∨
          block.Covers aid ∧ ∀ place ∈ block.octetAt aid,
            place < rest.length) := by
  have hpos := List.length_pos_of_ne_nil hrest
  have hcut := List.length_pos_of_ne_nil hmissing
  have hlength := congrArg List.length hblock
  rw [List.length_append] at hlength
  have hmem : tim.drop ptr = rest ++ [] := hdrop.trans (List.append_nil _).symm
  by_cases hlong : 2 ≤ rest.length
  · have hbegun : block.Begun rest := Or.inl hlong
    rw [EncodedBlock.findTargetBlock_begun hmem hblock hbegun (by omega)]
    by_cases hfar : ptr + block.bytes.length > tim.length + 2
    · rw [if_pos hfar]
      exact iff_of_true (by simp [parseFound]) ⟨hlong, Or.inl (by omega)⟩
    · rw [if_neg hfar]
      by_cases hcovers : block.Covers aid
      · rw [if_pos hcovers]
        simp only [parseFound,
          EncodedBlock.parseTarget_begun hmem hblock hbegun aid]
        cases hplace : block.octetAt aid with
        | none =>
            exact iff_of_true (by simp)
              ⟨hlong, Or.inr (Or.inr ⟨hcovers, by simp⟩)⟩
        | some place =>
            by_cases hin : place < rest.length
            · have hget := List.getElem?_eq_getElem hin
              have hread := readByte_drop hdrop place
              rw [hget] at hread
              refine iff_of_true (by simp [hread])
                ⟨hlong, Or.inr (Or.inr ⟨hcovers, ?_⟩)⟩
              rintro other hother
              cases hother
              exact hin
            · have hread := readByte_outside
                (show tim.length ≤ ptr + place by omega)
              refine iff_of_false (by simp [hread]) ?_
              rintro ⟨-, hfew | ⟨-, hnot⟩ | ⟨-, hall⟩⟩
              · omega
              · exact hnot hcovers
              · exact hin (hall place rfl)
      · rw [if_neg hcovers, findTargetBlock_outside (by omega)]
        by_cases hone : ptr + block.bytes.length + 1 ≤ tim.length + 2
        · rw [if_pos hone]
          refine iff_of_false (by simp [parseFound]) ?_
          rintro ⟨-, hfew | ⟨htwo, -⟩ | ⟨hall, -⟩⟩
          · omega
          · omega
          · exact hcovers hall
        · rw [if_neg hone]
          exact iff_of_true (by simp [parseFound])
            ⟨hlong, Or.inr (Or.inl ⟨by omega, hcovers⟩)⟩
  · have hone : rest.length = 1 := by omega
    refine iff_of_false (not_not.mpr ?_) fun h => hlong h.1
    by_cases hmode : block.coding.mode = 1
    · exact parseFound_single hdrop hend hblock hone hmode bound
    · rw [findTargetBlock_control hdrop hend hblock hone hmode]
      rfl

theorem checkTim_inside_iff (tim : List UInt8) (aid : ℕ) :
    ieee80211S1gCheckTim tim tim.length aid ≠ none ↔
      tim.length < 3 ∨ StopsInside aid (tim.drop 3) := by
  by_cases hshort : tim.length < 3
  · refine iff_of_true ?_ (Or.inl hshort)
    rw [ieee80211S1gCheckTim, if_pos hshort]
    simp
  · have hlong : 3 ≤ tim.length := by omega
    constructor
    · intro hinside
      refine Or.inr ?_
      obtain ⟨passed, rest, hpvb, hpassed, hrest⟩ := pvb_cases aid (tim.drop 3)
      refine ⟨passed, rest, hpvb, hpassed, ?_⟩
      obtain ⟨bound, ptr, hdrop, hend, hcheck⟩ :=
        checkTim_passed hlong hpassed hpvb
      replace hcheck : ieee80211S1gCheckTim tim tim.length aid =
        parseFound tim aid (ieee80211S1gFindTargetBlock tim (s1gTimAid aid)
          (tim.length + 2) (bound + 2) ptr) := hcheck
      rw [hcheck] at hinside
      rcases hrest with rfl | hstops | ⟨block, missing, hne, hmissing, hblock⟩
      · rw [List.length_nil, Nat.add_zero] at hend
        rw [findTargetBlock_outside (by omega), if_pos (by omega)] at hinside
        exact absurd rfl hinside
      · exact hstops
      · obtain ⟨htwo, hcut⟩ := (cut_inside_iff hdrop hend hne hmissing hblock
          bound).mp hinside
        exact .cut block rest missing hblock htwo hcut
    · rintro (hbad | ⟨passed, rest, hpvb, hpassed, hstops⟩)
      · exact absurd hbad hshort
      · obtain ⟨bound, ptr, hdrop, hend, hcheck⟩ :=
          checkTim_passed hlong hpassed hpvb
        replace hcheck : ieee80211S1gCheckTim tim tim.length aid =
          parseFound tim aid (ieee80211S1gFindTargetBlock tim (s1gTimAid aid)
            (tim.length + 2) (bound + 2) ptr) := hcheck
        rw [hcheck]
        cases hstops with
        | covered block tail hcovers =>
            rw [List.length_append] at hend
            have htwo := block.two_le_length
            rw [EncodedBlock.findTargetBlock_begun hdrop (List.append_nil _)
              block.begun_bytes (by omega), if_neg (by omega), if_pos hcovers]
            simp [parseFound, EncodedBlock.parseTarget_complete hdrop]
        | reserved ctrl tail hreserved =>
            have hread := readByte_drop hdrop 0
            simp only [Nat.add_zero, List.getElem?_cons_zero,
              Option.map_some] at hread
            rw [List.length_cons] at hend
            rw [ieee80211S1gFindTargetBlock, if_pos (by omega)]
            simp [hread, hreserved, encodedExtent, parseFound]
        | cut block front missing hblock htwo hcut =>
            by_cases hmissing : missing = []
            · -- nothing is cut off
              subst hmissing
              rw [List.append_nil] at hblock
              subst hblock
              have hmem := hdrop.trans (List.append_nil block.bytes).symm
              rw [EncodedBlock.findTargetBlock_begun hmem (List.append_nil _)
                block.begun_bytes (by omega), if_neg (by omega)]
              rcases hcut with hthree | ⟨htwo, -⟩ | ⟨hcovers, -⟩
              · simp at hthree
              · simp at htwo
              · rw [if_pos hcovers]
                simp [parseFound, EncodedBlock.parseTarget_complete hmem]
            · have hne : rest ≠ [] := by
                rintro rfl
                simp at htwo
              exact (cut_inside_iff hdrop hend hne hmissing hblock bound).mpr
                ⟨htwo, hcut⟩

end Inside

/-! ## The bits -/

/-- What the decoder is to do with an element and an AID. -/
structure DecodesTim (tim : List UInt8) (aid : ℕ) : Prop where
  inside : ieee80211S1gCheckTim tim tim.length aid ≠ none
  bit : ∀ blocks, CarriesBlocks tim blocks → DisjointBlocks blocks →
    ∀ behind, ∃ bit, ieee80211S1gCheckTim (tim ++ behind) tim.length aid =
      some bit ∧ (bit = true ↔ Assigned blocks aid)
  encoded : ∀ bitmap mcastTraffic dtimCount dtimPeriod,
    tim = dtimCount :: dtimPeriod ::
      ieee80211S1gBeaconAddTimPvb bitmap mcastTraffic →
    ∀ behind, ieee80211S1gCheckTim (tim ++ behind) tim.length aid =
      some (timBit bitmap (aid % 2048))

theorem assigned_of_covers {passed later : List EncodedBlock}
    {block : EncodedBlock} {aid : ℕ}
    (hdisjoint : DisjointBlocks (passed ++ block :: later))
    (hcovers : block.Covers aid)
    (hpassed : ∀ other ∈ passed, ¬other.Covers aid) :
    Assigned (passed ++ block :: later) aid ↔ block.bit aid = true := by
  constructor
  · rintro ⟨other, hmem, hother, hbit⟩
    rcases List.mem_append.mp hmem with hmem | hmem
    · exact absurd hother (hpassed other hmem)
    · rcases List.mem_cons.mp hmem with rfl | hmem
      · exact hbit
      · have hlater := (List.pairwise_append.mp hdisjoint).2.1
        exact absurd ⟨hcovers, hother⟩
          ((List.pairwise_cons.mp hlater).1 other hmem aid)
  · intro hbit
    exact ⟨block, by simp, hcovers, hbit⟩

theorem checkTim_bit {tim : List UInt8} {aid : ℕ} {blocks : List EncodedBlock}
    (hcarries : CarriesBlocks tim blocks) (hdisjoint : DisjointBlocks blocks)
    (hinside : ieee80211S1gCheckTim tim tim.length aid ≠ none) :
    ∃ bit, ieee80211S1gCheckTim tim tim.length aid = some bit ∧
      (bit = true ↔ Assigned blocks aid) := by
  by_cases hshort : tim.length < 3
  · have hempty : blocks = [] := by
      have hfew := length_le_flatMap_bytes blocks
      have hlength := congrArg List.length hcarries
      rw [List.length_drop] at hlength
      exact List.eq_nil_of_length_eq_zero (by omega)
    refine ⟨false, by rw [ieee80211S1gCheckTim, if_pos hshort], ?_⟩
    simp [hempty, Assigned]
  · have hlong : 3 ≤ tim.length := by omega
    cases hfind : blocks.find? fun block => decide (block.Covers aid) with
    | none =>
        -- no block covers the AID: the walk leaves the element
        have hpassed : ∀ block ∈ blocks, ¬block.Covers aid := by
          simpa using hfind
        have htim : tim.drop 3 = blocks.flatMap EncodedBlock.bytes ++ [] :=
          hcarries.trans (List.append_nil _).symm
        obtain ⟨bound, ptr, hdrop, hend, hcheck⟩ :=
          checkTim_passed hlong hpassed htim
        rw [List.length_nil, Nat.add_zero] at hend
        rw [hcheck, findTargetBlock_outside (by omega),
          if_pos (by omega)] at hinside
        exact absurd rfl hinside
    | some block =>
        obtain ⟨hcovers, passed, later, rfl, hpassed⟩ :=
          List.find?_eq_some_iff_append.mp hfind
        have hcovers := of_decide_eq_true hcovers
        have hpassed : ∀ other ∈ passed, ¬other.Covers aid := by
          simpa using hpassed
        have htim : tim.drop 3 = passed.flatMap EncodedBlock.bytes ++
            (block.bytes ++ later.flatMap EncodedBlock.bytes) := by
          rw [hcarries, List.flatMap_append, List.flatMap_cons]
        obtain ⟨bound, ptr, hdrop, hend, hcheck⟩ :=
          checkTim_passed hlong hpassed htim
        have htwo := block.two_le_length
        rw [List.length_append] at hend
        rw [EncodedBlock.findTargetBlock_begun hdrop (List.append_nil _)
          block.begun_bytes (by omega), if_neg (by omega),
          if_pos hcovers] at hcheck
        exact ⟨block.bit aid,
          hcheck.trans (EncodedBlock.parseTarget_complete hdrop aid),
          (assigned_of_covers hdisjoint hcovers hpassed).symm⟩

/-- The decoder is right about an element exactly when the element is too short
for blocks or the walk stops inside it. -/
theorem decodesTim_iff (tim : List UInt8) (aid : ℕ) :
    DecodesTim tim aid ↔ tim.length < 3 ∨ StopsInside aid (tim.drop 3) := by
  rw [← checkTim_inside_iff]
  constructor
  · intro hdecodes
    exact hdecodes.inside
  · intro hinside
    refine ⟨hinside, ?_, ?_⟩
    · intro blocks hcarries hdisjoint behind
      obtain ⟨bit, hcheck, hbit⟩ := checkTim_bit hcarries hdisjoint hinside
      exact ⟨bit, checkTim_append hcheck behind, hbit⟩
    · rintro bitmap mcastTraffic dtimCount dtimPeriod htim behind
      have hcarries : CarriesBlocks tim (encodedBlocks bitmap) := by
        rw [htim]
        exact addTimPvb_carries bitmap mcastTraffic dtimCount dtimPeriod
      obtain ⟨bit, hcheck, hbit⟩ := checkTim_bit hcarries
        (encodedBlocks_disjoint bitmap) hinside
      rw [encodedBlocks_assigned, ← Bool.eq_iff_iff] at hbit
      rw [checkTim_append hcheck, hbit]

/-! ## An element with one block -/

section Samples

def firstBlock : EncodedBlock where
  offset := 0
  inverse := false
  coding := .block 1 [0x42]
  offset_lt := by norm_num
  wellFormed := ⟨by norm_num, rfl⟩

def firstBlockTim : List UInt8 :=
  [0, 1, 0] ++ firstBlock.bytes

/-- AID 64 is in no block: the octets behind the element are read, and where
they look like a block they set its bit. -/
theorem checkTim_reads_behind :
    ieee80211S1gCheckTim firstBlockTim firstBlockTim.length 64 = none ∧
      ieee80211S1gCheckTim (firstBlockTim ++ [0x09, 0x00])
        firstBlockTim.length 64 = some true ∧
      CarriesBlocks firstBlockTim [firstBlock] ∧ DisjointBlocks [firstBlock] ∧
      ¬Assigned [firstBlock] 64 ∧ ¬DecodesTim firstBlockTim 64 := by
  have hread : ieee80211S1gCheckTim firstBlockTim firstBlockTim.length 64 =
      none := by
    decide +kernel
  refine ⟨hread, by decide +kernel, rfl, List.pairwise_singleton _ _, ?_, ?_⟩
  · rintro ⟨block, hblock, hcovers, -⟩
    rw [List.mem_singleton.mp hblock] at hcovers
    exact absurd hcovers (by decide)
  · intro hdecodes
    exact hdecodes.inside hread

end Samples

end IwlwifiStack
