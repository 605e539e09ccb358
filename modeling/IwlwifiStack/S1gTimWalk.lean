import IwlwifiStack.S1gTimBlocks

/-!
# The walk over the encoded blocks

The decoder takes the end of the TIM two octets too far.  As long as the blocks
it meets are complete this does not show; it shows when they run out or when the
last one is cut.  Here the walk is followed in memory that ends with the TIM, so
that an access behind it is seen.
-/

namespace IwlwifiStack

theorem readByte_drop {mem octets : List UInt8} {ptr : ℕ}
    (hmem : mem.drop ptr = octets) (k : ℕ) :
    readByte mem (ptr + k) = octets[k]?.map UInt8.toNat := by
  rw [readByte, ← hmem, List.getElem?_drop]

namespace EncodedBlock

variable (block : EncodedBlock) {mem front missing tail : List UInt8}
  {ptr : ℕ}

/-- The block as `ieee80211_s1g_find_target_block` hands it out. -/
def enc (ptr : ℕ) : S1gTimEncBlock where
  encMode := block.coding.mode
  inverse := block.inverse
  ptr := ptr + 1
  len := (block.bytes.length - 1) % 256
  olbBlkOffset := block.offset

def Begun (front : List UInt8) : Prop :=
  2 ≤ front.length ∨ front.length = 1 ∧ block.coding.mode = 1

theorem begun_bytes : block.Begun block.bytes :=
  Or.inl block.two_le_length

variable {block}

theorem Begun.pos (hbegun : block.Begun front) : 0 < front.length := by
  rcases hbegun with hlong | ⟨hone, -⟩ <;> omega

theorem Begun.two_le (hbegun : block.Begun front)
    (hmode : block.coding.mode ≠ 1) : 2 ≤ front.length := by
  rcases hbegun with hlong | ⟨-, hone⟩
  · exact hlong
  · exact absurd hone hmode

theorem read_control (hmem : mem.drop ptr = front ++ tail)
    (hfront : front ++ missing = block.bytes) (hpos : 0 < front.length) :
    readByte mem ptr = some block.control := by
  have hread := readByte_drop hmem 0
  have hfirst : front[0]? = some (UInt8.ofNat block.control) := by
    rw [← List.getElem?_append_left hpos, hfront]
    rfl
  rw [Nat.add_zero, List.getElem?_append_left hpos, hfirst] at hread
  rw [hread]
  exact congrArg some (UInt8.toNat_ofNat_of_lt' block.control_lt)

theorem read_second (hmem : mem.drop ptr = front ++ tail)
    (hfront : front ++ missing = block.bytes) (hlong : 2 ≤ front.length) :
    readByte mem (ptr + 1) = block.bytes[1]?.map UInt8.toNat := by
  rw [readByte_drop hmem 1, List.getElem?_append_left (by omega), ← hfront,
    List.getElem?_append_left (by omega)]

theorem second_block {blkmap : ℕ} {subblocks : List UInt8}
    (hcoding : block.coding = .block blkmap subblocks) :
    block.bytes[1]?.map UInt8.toNat = some blkmap := by
  have hwell := block.wellFormed
  rw [hcoding] at hwell
  simp only [bytes, hcoding, BlockCoding.bytes, List.getElem?_cons_succ,
    List.getElem?_cons_zero, Option.map_some]
  exact congrArg some (UInt8.toNat_ofNat_of_lt' hwell.1)

theorem second_olb {subblocks : List UInt8}
    (hcoding : block.coding = .olb subblocks) :
    block.bytes[1]?.map UInt8.toNat = some subblocks.length := by
  have hwell := block.wellFormed
  rw [hcoding] at hwell
  simp only [bytes, hcoding, BlockCoding.bytes, List.getElem?_cons_succ,
    List.getElem?_cons_zero, Option.map_some]
  exact congrArg some (UInt8.toNat_ofNat_of_lt' hwell)

theorem encodedExtent_begun (hmem : mem.drop ptr = front ++ tail)
    (hfront : front ++ missing = block.bytes) (hbegun : block.Begun front)
    {last : ℕ} (hlast : ptr + 1 < last) (aid : ℕ) :
    encodedExtent mem (s1gTimAid aid) (ptr + 1) last block.coding.mode
        block.offset =
      some (if ptr + block.bytes.length > last then .error (-22)
        else .ok (block.bytes.length - 1, decide (block.Covers aid))) := by
  have hcover : block.Covers aid ↔ block.offset ≤ aid / 64 % 32 ∧
      aid / 64 % 32 < block.offset + block.coding.span := Iff.rfl
  cases hcoding : block.coding with
  | block blkmap subblocks =>
      have hlong := hbegun.two_le (by simp [hcoding, BlockCoding.mode])
      have hwell := block.wellFormed
      rw [hcoding] at hwell
      have hlength : block.bytes.length = 2 + hweight8 blkmap := by
        simp only [bytes, hcoding, BlockCoding.bytes, List.length_cons, hwell.2]
        omega
      have hread := read_second hmem hfront hlong
      rw [second_block hcoding] at hread
      have hsame : block.offset = aid / 64 % 32 ↔ block.Covers aid := by
        rw [hcover, hcoding]
        simp only [BlockCoding.span]
        omega
      simp only [encodedExtent, BlockCoding.mode, ieee80211S1gLenBitmap, hread,
        Option.map_some, hlength, s1gTimAid]
      rw [if_neg (by omega)]
      by_cases hend : ptr + 1 + 1 + hweight8 blkmap > last
      · rw [if_pos hend, if_pos (by omega)]
        rfl
      · rw [if_neg hend, if_neg (by omega)]
        simp only [Option.map_some, Except.map, hsame]
        rw [show 2 + hweight8 blkmap - 1 = 1 + hweight8 blkmap by omega]
  | single octet =>
      have hlength : block.bytes.length = 2 := by
        simp [bytes, hcoding, BlockCoding.bytes]
      have hsame : block.offset = aid / 64 % 32 ↔ block.Covers aid := by
        rw [hcover, hcoding]
        simp only [BlockCoding.span]
        omega
      simp only [encodedExtent, BlockCoding.mode, ieee80211S1gLenSingle, hlength,
        s1gTimAid]
      by_cases hend : ptr + 1 + 1 > last
      · rw [if_pos hend, if_pos (by omega)]
        rfl
      · rw [if_neg hend, if_neg (by omega)]
        simp only [Except.map, hsame]
  | olb subblocks =>
      have hlong := hbegun.two_le (by simp [hcoding, BlockCoding.mode])
      have hlength : block.bytes.length = 2 + subblocks.length := by
        simp only [bytes, hcoding, BlockCoding.bytes, List.length_cons]
        omega
      have hread := read_second hmem hfront hlong
      rw [second_olb hcoding] at hread
      simp only [encodedExtent, BlockCoding.mode, ieee80211S1gLenOlb, hread,
        Option.map_some, hlength, s1gTimAid]
      rw [if_neg (by omega)]
      by_cases hend : ptr + 1 + 1 + subblocks.length > last
      · rw [if_pos hend, if_pos (by omega)]
        rfl
      · rw [if_neg hend, if_neg (by omega)]
        simp only [Option.map_some, Except.map, Covers, hcoding,
          BlockCoding.span, ge_iff_le, Bool.decide_and,
          Nat.add_sub_cancel_left]
        rw [show 2 + subblocks.length - 1 = 1 + subblocks.length by omega]

theorem findTargetBlock_begun (hmem : mem.drop ptr = front ++ tail)
    (hfront : front ++ missing = block.bytes) (hbegun : block.Begun front)
    {last : ℕ} (hlast : ptr + 1 < last) (aid bound : ℕ) :
    ieee80211S1gFindTargetBlock mem (s1gTimAid aid) last (bound + 1) ptr =
      if ptr + block.bytes.length > last then some (.error (-22))
      else if block.Covers aid then some (.ok (block.enc ptr))
      else ieee80211S1gFindTargetBlock mem (s1gTimAid aid) last bound
        (ptr + block.bytes.length) := by
  obtain ⟨hmode, hoffset, hinverse⟩ := block.control_parts
  have hlong := block.two_le_length
  rw [ieee80211S1gFindTargetBlock, if_pos (by omega)]
  simp only [read_control hmem hfront hbegun.pos, hmode, hoffset, hinverse,
    encodedExtent_begun hmem hfront hbegun hlast aid]
  by_cases hend : ptr + block.bytes.length > last
  · rw [if_pos hend, if_pos hend]
  · rw [if_neg hend, if_neg hend]
    by_cases hcovers : block.Covers aid
    · simp only [hcovers, decide_true, if_true]
      rfl
    · simp only [hcovers, decide_false, Bool.false_eq_true, if_false]
      rw [show ptr + 1 + (block.bytes.length - 1) =
        ptr + block.bytes.length by omega]

theorem parseTarget_begun (hmem : mem.drop ptr = front ++ tail)
    (hfront : front ++ missing = block.bytes) (hbegun : block.Begun front)
    (aid : ℕ) :
    parseTarget mem (block.enc ptr) (s1gTimAid aid) =
      match block.octetAt aid with
      | none => some block.inverse
      | some place => (readByte mem (ptr + place)).map fun octet =>
          block.decodeOctet aid octet ^^ block.inverse := by
  cases hcoding : block.coding with
  | block blkmap subblocks =>
      have hlong := hbegun.two_le (by simp [hcoding, BlockCoding.mode])
      have hread := read_second hmem hfront hlong
      rw [second_block hcoding] at hread
      have hlt : aid / 8 % 8 ≤ 8 := (Nat.mod_lt _ (by norm_num)).le
      simp only [parseTarget, enc, hcoding, BlockCoding.mode,
        ieee80211S1gParseBitmap, hread, s1gTimAid, hweight8_mask blkmap hlt,
        octetAt, decodeOctet]
      cases hset : blkmap.testBit (aid / 8 % 8) with
      | false => rfl
      | true =>
          simp only [Bool.not_true, Bool.false_eq_true, if_false, if_true]
          rw [Nat.add_assoc ptr 1 1, Nat.add_assoc]
  | single octet =>
      simp only [parseTarget, enc, hcoding, BlockCoding.mode,
        ieee80211S1gParseSingle, s1gTimAid, octetAt, decodeOctet]
      rfl
  | olb subblocks =>
      have hlong := hbegun.two_le (by simp [hcoding, BlockCoding.mode])
      have hread := read_second hmem hfront hlong
      rw [second_olb hcoding] at hread
      simp only [parseTarget, enc, hcoding, BlockCoding.mode,
        ieee80211S1gParseOlb, hread, s1gTimAid, octetAt, decodeOctet]
      by_cases hin : (aid / 64 % 32 - block.offset) * 8 + aid / 8 % 8 <
          subblocks.length
      · rw [if_neg (by omega), if_pos hin]
        simp only [Nat.add_assoc, Nat.reduceAdd]
      · rw [if_pos (by omega), if_neg hin]

theorem octetAt_lt {aid place : ℕ} (hplace : block.octetAt aid = some place) :
    place < block.bytes.length := by
  cases hcoding : block.coding with
  | block blkmap subblocks =>
      have hwell := block.wellFormed
      rw [hcoding] at hwell
      simp only [octetAt, hcoding] at hplace
      split_ifs at hplace with hset
      cases hplace
      have hsub : (List.range (aid / 8 % 8 + 1)).Sublist (List.range 8) :=
        List.range_sublist.mpr (Nat.mod_lt _ (by norm_num))
      have hcount := hsub.countP_le (p := blkmap.testBit)
      rw [List.range_succ, List.countP_append, List.countP_singleton,
        if_pos hset] at hcount
      have hlength : subblocks.length =
          (List.range 8).countP blkmap.testBit := hwell.2
      simp only [bytes, hcoding, BlockCoding.bytes, List.length_cons]
      omega
  | single octet =>
      simp only [octetAt, hcoding] at hplace
      cases hplace
      simp [bytes, hcoding, BlockCoding.bytes]
  | olb subblocks =>
      simp only [octetAt, hcoding] at hplace
      split_ifs at hplace with hin
      cases hplace
      simp only [bytes, hcoding, BlockCoding.bytes, List.length_cons]
      omega

theorem parseTarget_complete (hmem : mem.drop ptr = block.bytes ++ tail)
    (aid : ℕ) :
    parseTarget mem (block.enc ptr) (s1gTimAid aid) =
      some (block.bit aid) := by
  rw [parseTarget_begun hmem (List.append_nil _) block.begun_bytes, bit,
    plainBit_octetAt]
  cases hplace : block.octetAt aid with
  | none => simp
  | some place =>
      have hlt := octetAt_lt hplace
      have hget := List.getElem?_eq_getElem hlt
      simp only [readByte_drop hmem, List.getElem?_append_left hlt, hget,
        Option.map_some, Option.getD_some]

end EncodedBlock

/-! ## Blocks that do not cover the AID -/

theorem length_le_flatMap_bytes (blocks : List EncodedBlock) :
    2 * blocks.length ≤ (blocks.flatMap EncodedBlock.bytes).length := by
  induction blocks with
  | nil => simp
  | cons block blocks ih =>
      have hlong := block.two_le_length
      rw [List.flatMap_cons, List.length_append, List.length_cons]
      omega

theorem findTargetBlock_passed {mem rest : List UInt8} {aid last : ℕ}
    (bound : ℕ) (passed : List EncodedBlock)
    (hpassed : ∀ block ∈ passed, ¬block.Covers aid) {ptr : ℕ}
    (hmem : mem.drop ptr = passed.flatMap EncodedBlock.bytes ++ rest)
    (hlast : ptr + (passed.flatMap EncodedBlock.bytes).length ≤ last) :
    ieee80211S1gFindTargetBlock mem (s1gTimAid aid) last (bound + passed.length)
        ptr =
      ieee80211S1gFindTargetBlock mem (s1gTimAid aid) last bound
        (ptr + (passed.flatMap EncodedBlock.bytes).length) := by
  induction passed generalizing ptr with
  | nil => rfl
  | cons block passed ih =>
      have hlong := block.two_le_length
      rw [List.flatMap_cons, List.append_assoc] at hmem
      rw [List.flatMap_cons, List.length_append] at hlast ⊢
      have hnext : mem.drop (ptr + block.bytes.length) =
          passed.flatMap EncodedBlock.bytes ++ rest := by
        rw [← List.drop_drop, hmem, List.drop_left]
      rw [List.length_cons, ← Nat.add_assoc,
        EncodedBlock.findTargetBlock_begun hmem (List.append_nil _)
          block.begun_bytes (by omega),
        if_neg (by omega), if_neg (hpassed block List.mem_cons_self),
        ih (fun other hother => hpassed other (List.mem_cons_of_mem _ hother))
          hnext (by omega), Nat.add_assoc]

theorem checkTim_passed {tim rest : List UInt8} {aid : ℕ}
    {passed : List EncodedBlock} (hlong : 3 ≤ tim.length)
    (hpassed : ∀ block ∈ passed, ¬block.Covers aid)
    (htim : tim.drop 3 = passed.flatMap EncodedBlock.bytes ++ rest) :
    ∃ bound ptr, tim.drop ptr = rest ∧ ptr + rest.length = tim.length ∧
      ieee80211S1gCheckTim tim tim.length aid =
        match ieee80211S1gFindTargetBlock tim (s1gTimAid aid) (tim.length + 2)
          (bound + 2) ptr with
        | none => none
        | some (.error _) => some false
        | some (.ok enc) => parseTarget tim enc (s1gTimAid aid) := by
  have hlength := congrArg List.length htim
  rw [List.length_drop, List.length_append] at hlength
  have hfew := length_le_flatMap_bytes passed
  obtain ⟨bound, hbound⟩ : ∃ bound, tim.length + 2 =
      bound + 2 + passed.length := ⟨tim.length - passed.length, by omega⟩
  refine ⟨bound, 3 + (passed.flatMap EncodedBlock.bytes).length, ?_, by omega,
    ?_⟩
  · rw [← List.drop_drop, htim, List.drop_left]
  · have hwalk := findTargetBlock_passed (bound + 2) passed hpassed htim
      (show _ ≤ tim.length + 2 by omega)
    rw [← hwalk, ← hbound]
    exact if_neg (by omega)

theorem findTargetBlock_outside {mem : List UInt8} {aid : S1gTimAid}
    {last bound ptr : ℕ} (hptr : mem.length ≤ ptr) :
    ieee80211S1gFindTargetBlock mem aid last (bound + 1) ptr =
      if ptr + 1 ≤ last then none else some (.error (-2)) := by
  rw [ieee80211S1gFindTargetBlock, readByte_outside hptr]

end IwlwifiStack
