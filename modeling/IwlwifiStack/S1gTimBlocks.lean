import IwlwifiStack.S1gTimModel

/-!
# The encoded blocks of a partial virtual bitmap

What the three encodings say about the AIDs they cover, independently of how
they are decoded.  A block of 64 AIDs consists of eight subblocks of one octet;
an OLB block covers as many blocks as its octets reach into.  The page of an
AID is not considered: an AID stands for its position in the page.
-/

namespace IwlwifiStack

/-- What follows the block control octet. -/
inductive BlockCoding
  | block (blkmap : ℕ) (subblocks : List UInt8)
  | single (octet : UInt8)
  | olb (subblocks : List UInt8)

namespace BlockCoding

def WellFormed : BlockCoding → Prop
  | .block blkmap subblocks =>
      blkmap < 256 ∧ subblocks.length = hweight8 blkmap
  | .single _ => True
  | .olb subblocks => subblocks.length < 256

def mode : BlockCoding → ℕ
  | .block _ _ => 0
  | .single _ => 1
  | .olb _ => 2

def bytes : BlockCoding → List UInt8
  | .block blkmap subblocks => UInt8.ofNat blkmap :: subblocks
  | .single octet => [octet]
  | .olb subblocks => UInt8.ofNat subblocks.length :: subblocks

def span : BlockCoding → ℕ
  | .block _ _ => 1
  | .single _ => 1
  | .olb subblocks => (subblocks.length + 7) / 8

end BlockCoding

/-- The subblocks by their place: the octets stand for those that are
present, in this order. -/
def placeSubblocks : List Bool → List UInt8 → List (Option UInt8)
  | [], _ => []
  | false :: present, octets => none :: placeSubblocks present octets
  | true :: present, [] => none :: placeSubblocks present []
  | true :: present, octet :: octets =>
      some octet :: placeSubblocks present octets

structure EncodedBlock where
  offset : ℕ
  inverse : Bool
  coding : BlockCoding
  offset_lt : offset < 32
  wellFormed : coding.WellFormed

namespace EncodedBlock

def control (block : EncodedBlock) : ℕ :=
  block.offset * 8 + (if block.inverse then 4 else 0) + block.coding.mode

def bytes (block : EncodedBlock) : List UInt8 :=
  UInt8.ofNat block.control :: block.coding.bytes

def Covers (block : EncodedBlock) (aid : ℕ) : Prop :=
  block.offset ≤ aid / 64 % 32 ∧
    aid / 64 % 32 < block.offset + block.coding.span

instance (block : EncodedBlock) (aid : ℕ) : Decidable (block.Covers aid) :=
  inferInstanceAs (Decidable (_ ∧ _))

def subblock (block : EncodedBlock) (aid : ℕ) : Option UInt8 :=
  match block.coding with
  | .block blkmap subblocks =>
      ((placeSubblocks ((List.range 8).map blkmap.testBit)
        subblocks)[aid / 8 % 8]?).join
  | .single _ => none
  | .olb subblocks =>
      subblocks[(aid / 64 % 32 - block.offset) * 8 + aid / 8 % 8]?

def plainBit (block : EncodedBlock) (aid : ℕ) : Bool :=
  match block.coding with
  | .single octet => decide (octet.toNat % 64 = aid % 64)
  | _ => ((block.subblock aid).map fun octet =>
      octet.toNat.testBit (aid % 8)).getD false

def bit (block : EncodedBlock) (aid : ℕ) : Bool :=
  block.plainBit aid ^^ block.inverse

end EncodedBlock

/-- The encoded blocks of the element, behind DTIM count, DTIM period and
bitmap control. -/
def CarriesBlocks (tim : List UInt8) (blocks : List EncodedBlock) : Prop :=
  tim.drop 3 = blocks.flatMap EncodedBlock.bytes

def DisjointBlocks (blocks : List EncodedBlock) : Prop :=
  blocks.Pairwise fun block other => ∀ aid, ¬(block.Covers aid ∧
    other.Covers aid)

def Assigned (blocks : List EncodedBlock) (aid : ℕ) : Prop :=
  ∃ block ∈ blocks, block.Covers aid ∧ block.bit aid = true

/-! ## The octet an AID is decoded from -/

namespace EncodedBlock

/-- Its place in the block, unless the encoding leaves it out. -/
def octetAt (block : EncodedBlock) (aid : ℕ) : Option ℕ :=
  match block.coding with
  | .block blkmap _ =>
      if blkmap.testBit (aid / 8 % 8) then
        some (2 + (List.range (aid / 8 % 8)).countP blkmap.testBit)
      else
        none
  | .single _ => some 1
  | .olb subblocks =>
      let idx := (aid / 64 % 32 - block.offset) * 8 + aid / 8 % 8
      if idx < subblocks.length then some (2 + idx) else none

def decodeOctet (block : EncodedBlock) (aid octet : ℕ) : Bool :=
  match block.coding with
  | .single _ => decide (octet % 64 = aid % 64)
  | _ => octet.testBit (aid % 8)

end EncodedBlock

theorem placeSubblocks_getElem? (present : List Bool) (octets : List UInt8)
    (hlength : present.count true ≤ octets.length) (i : ℕ) :
    ((placeSubblocks present octets)[i]?).join =
      if present[i]? = some true then octets[(present.take i).count true]?
      else none := by
  induction present generalizing octets i with
  | nil => simp [placeSubblocks]
  | cons flag present ih =>
      cases flag with
      | false =>
          have hrest : present.count true ≤ octets.length := by
            simpa using hlength
          cases i with
          | zero => simp [placeSubblocks]
          | succ i => simpa [placeSubblocks] using ih octets hrest i
      | true =>
          cases octets with
          | nil => simp at hlength
          | cons octet octets =>
              have hrest : present.count true ≤ octets.length := by
                simpa using hlength
              cases i with
              | zero => simp [placeSubblocks]
              | succ i => simpa [placeSubblocks] using ih octets hrest i

theorem range_map_testBit_take (blkmap : ℕ) {i : ℕ} (hi : i ≤ 8) :
    (((List.range 8).map blkmap.testBit).take i).count true =
      (List.range i).countP blkmap.testBit := by
  rw [← List.map_take, List.take_range, Nat.min_eq_left hi, List.count,
    List.countP_map]
  apply List.countP_congr
  intro j _
  simp

namespace EncodedBlock

variable (block : EncodedBlock)

theorem subblock_block {blkmap : ℕ} {subblocks : List UInt8}
    (hcoding : block.coding = .block blkmap subblocks) (aid : ℕ) :
    block.subblock aid =
      if blkmap.testBit (aid / 8 % 8) then
        subblocks[(List.range (aid / 8 % 8)).countP blkmap.testBit]?
      else none := by
  have hwell := block.wellFormed
  rw [hcoding] at hwell
  have hlt : aid / 8 % 8 < 8 := Nat.mod_lt _ (by norm_num)
  have hcount := range_map_testBit_take blkmap (le_refl 8)
  have hall : ((List.range 8).map blkmap.testBit).take 8 =
      (List.range 8).map blkmap.testBit := List.take_of_length_le (by simp)
  rw [hall] at hcount
  have hget : ((List.range 8).map blkmap.testBit)[aid / 8 % 8]? =
      some (blkmap.testBit (aid / 8 % 8)) := by
    rw [List.getElem?_map, List.getElem?_range hlt]
    rfl
  simp only [subblock, hcoding]
  rw [placeSubblocks_getElem? _ _ (by rw [hcount, hwell.2]; exact le_rfl), hget,
    range_map_testBit_take blkmap hlt.le]
  simp

theorem plainBit_octetAt (aid : ℕ) :
    block.plainBit aid =
      match block.octetAt aid with
      | none => false
      | some place => ((block.bytes[place]?).map fun octet =>
          block.decodeOctet aid octet.toNat).getD false := by
  cases hcoding : block.coding with
  | block blkmap subblocks =>
      have hsub := block.subblock_block hcoding aid
      simp only [plainBit, octetAt, hcoding, hsub]
      split_ifs with hpresent
      · have hplace : block.bytes[2 +
            (List.range (aid / 8 % 8)).countP blkmap.testBit]? =
            subblocks[(List.range (aid / 8 % 8)).countP blkmap.testBit]? := by
          rw [bytes, hcoding, BlockCoding.bytes, Nat.add_comm 2]
          rfl
        simp only [hplace, decodeOctet, hcoding]
      · rfl
  | single octet =>
      simp only [plainBit, octetAt, hcoding, bytes, BlockCoding.bytes,
        decodeOctet]
      rfl
  | olb subblocks =>
      simp only [plainBit, octetAt, hcoding, subblock]
      split_ifs with hin
      · have hplace : block.bytes[2 +
            ((aid / 64 % 32 - block.offset) * 8 + aid / 8 % 8)]? =
            subblocks[(aid / 64 % 32 - block.offset) * 8 + aid / 8 % 8]? := by
          rw [bytes, hcoding, BlockCoding.bytes, Nat.add_comm 2]
          rfl
        simp only [hplace, decodeOctet, hcoding]
      · rw [List.getElem?_eq_none (by omega)]
        rfl

theorem control_lt : block.control < 256 := by
  have hoffset := block.offset_lt
  unfold control BlockCoding.mode
  cases block.coding <;> simp only <;> split_ifs <;> omega

theorem control_parts :
    block.control % 4 = block.coding.mode ∧ block.control / 8 = block.offset ∧
      block.control.testBit 2 = block.inverse := by
  unfold control BlockCoding.mode
  refine ⟨?_, ?_, ?_⟩
  · cases block.coding <;> simp only <;> split_ifs <;> omega
  · cases block.coding <;> simp only <;> split_ifs <;> omega
  · rw [Nat.testBit_eq_decide_div_mod_eq]
    cases block.inverse
    · refine decide_eq_false ?_
      cases block.coding <;> simp only [Bool.false_eq_true, if_false] <;> omega
    · refine decide_eq_true ?_
      cases block.coding <;> simp only [if_true] <;> omega

theorem two_le_length : 2 ≤ block.bytes.length := by
  unfold bytes BlockCoding.bytes
  cases block.coding <;> simp

end EncodedBlock

theorem hweight8_mask (byte : ℕ) {i : ℕ} (hi : i ≤ 8) :
    hweight8 (byte &&& 2 ^ i - 1) = (List.range i).countP byte.testBit := by
  have hsplit : List.range 8 = List.range i ++
      (List.range (8 - i)).map (i + ·) := by
    rw [← List.range_add, Nat.add_sub_cancel' hi]
  rw [hweight8, hsplit, List.countP_append]
  have hlow : (List.range i).countP (byte &&& 2 ^ i - 1).testBit =
      (List.range i).countP byte.testBit := by
    apply List.countP_congr
    intro j hj
    simp [List.mem_range.mp hj]
  have hhigh : ((List.range (8 - i)).map (i + ·)).countP
      (byte &&& 2 ^ i - 1).testBit = 0 := by
    rw [List.countP_eq_zero]
    intro j hj
    obtain ⟨k, -, rfl⟩ := List.mem_map.mp hj
    simp
  rw [hlow, hhigh, Nat.add_zero]

end IwlwifiStack
