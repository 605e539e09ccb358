import IwlwifiStack.S1gTimBlocks

/-!
# What the encoder of S1G beacons writes

The encoder uses block bitmaps only, one for each block of 64 AIDs with a bit
set.  The blocks are disjoint and say of every AID what the bitmap says.
-/

namespace IwlwifiStack

/-- The bit of an AID in `ps->tim`; 1600 AIDs are supported. -/
def timBit (tim : ℕ → UInt8) (aid : ℕ) : Bool :=
  decide (aid < 1600) && (tim (aid / 8)).toNat.testBit (aid % 8)

theorem foldl_bmap_testBit (p : ℕ → Bool) (sblks : List ℕ) (bmap i : ℕ) :
    (sblks.foldl (fun bmap sblk => if p sblk then bmap ||| 2 ^ sblk else bmap)
        bmap).testBit i =
      (bmap.testBit i || decide (i ∈ sblks) && p i) := by
  induction sblks generalizing bmap with
  | nil => simp
  | cons sblk sblks ih =>
      rw [List.foldl_cons, ih]
      cases hset : p sblk with
      | false =>
          by_cases hsame : i = sblk
          · subst hsame
            simp [hset]
          · simp [hsame]
      | true =>
          by_cases hsame : i = sblk
          · subst hsame
            simp [hset]
          · simp [hsame, Ne.symm hsame]

theorem blkBmap_testBit (tim : ℕ → UInt8) (blk i : ℕ) :
    (blkBmap tim blk).testBit i =
      (decide (i < 8) && decide (tim (blk * 8 + i) ≠ 0)) := by
  have hfold := foldl_bmap_testBit (fun sblk => decide (tim (blk * 8 + sblk) ≠ 0))
    (List.range 8) 0 i
  simp only [decide_eq_true_eq, List.mem_range, Nat.zero_testBit,
    Bool.false_or] at hfold
  exact hfold

theorem blkBmap_lt (tim : ℕ → UInt8) (blk : ℕ) : blkBmap tim blk < 256 := by
  apply Nat.lt_pow_two_of_testBit (n := 8)
  intro i hi
  rw [blkBmap_testBit, decide_eq_false (by omega), Bool.false_and]

def presentOctets (tim : ℕ → UInt8) (blk : ℕ) : List UInt8 :=
  ((List.range 8).filter (blkBmap tim blk).testBit).map fun sblk =>
    tim (blk * 8 + sblk)

theorem presentOctets_length (tim : ℕ → UInt8) (blk : ℕ) :
    (presentOctets tim blk).length = hweight8 (blkBmap tim blk) := by
  rw [presentOctets, List.length_map, hweight8, List.countP_eq_length_filter]

theorem presentOctets_getElem? (tim : ℕ → UInt8) (blk : ℕ) {i : ℕ} (hi : i < 8)
    (hset : (blkBmap tim blk).testBit i = true) :
    (presentOctets tim blk)[(List.range i).countP (blkBmap tim blk).testBit]? =
      some (tim (blk * 8 + i)) := by
  have hsplit : List.range 8 = List.range i ++
      (i :: (List.range (7 - i)).map (i + 1 + ·)) := by
    have hnext : List.range (i + 1) ++ (List.range (7 - i)).map (i + 1 + ·) =
        List.range 8 := by
      rw [← List.range_add]
      congr 1
      omega
    rw [← hnext, List.range_succ, List.append_assoc]
    rfl
  rw [presentOctets, hsplit, List.filter_append, List.map_append,
    List.getElem?_append_right (by
      rw [List.length_map, List.countP_eq_length_filter]),
    List.length_map, List.countP_eq_length_filter, Nat.sub_self,
    List.filter_cons_of_pos hset]
  rfl

def timBlock (tim : ℕ → UInt8) (blk : ℕ) : EncodedBlock where
  offset := blk % 32
  inverse := false
  coding := .block (blkBmap tim blk) (presentOctets tim blk)
  offset_lt := Nat.mod_lt _ (by norm_num)
  wellFormed := ⟨blkBmap_lt tim blk, presentOctets_length tim blk⟩

def encodedBlocks (tim : ℕ → UInt8) : List EncodedBlock :=
  ((List.range 25).filter fun blk => decide (blkBmap tim blk ≠ 0)).map
    (timBlock tim)

theorem timBlock_covers {tim : ℕ → UInt8} {blk aid : ℕ} (hblk : blk < 32) :
    (timBlock tim blk).Covers aid ↔ blk = aid / 64 % 32 := by
  simp only [EncodedBlock.Covers, timBlock, BlockCoding.span,
    Nat.mod_eq_of_lt hblk]
  omega

theorem encodeBlock_bytes {tim : ℕ → UInt8} {blk : ℕ} (hblk : blk < 32)
    (hset : blkBmap tim blk ≠ 0) :
    encodeBlock tim blk = (timBlock tim blk).bytes := by
  have hcontrol : (timBlock tim blk).control = blk * 8 := by
    simp only [EncodedBlock.control, timBlock, BlockCoding.mode,
      Nat.mod_eq_of_lt hblk]
    rfl
  rw [encodeBlock, if_neg hset, EncodedBlock.bytes, hcontrol]
  rfl

theorem encodedBlocks_bytes (tim : ℕ → UInt8) :
    (encodedBlocks tim).flatMap EncodedBlock.bytes =
      (List.range 25).flatMap (encodeBlock tim) := by
  unfold encodedBlocks
  have hall : ∀ blk ∈ List.range 25, blk < 32 := by
    intro blk hblk
    have hlt := List.mem_range.mp hblk
    omega
  generalize List.range 25 = blks at hall ⊢
  induction blks with
  | nil => rfl
  | cons blk blks ih =>
      have hrest := ih fun other hother => hall other (List.mem_cons_of_mem _ hother)
      by_cases hset : blkBmap tim blk = 0
      · rw [List.filter_cons_of_neg (by simp [hset]), hrest, List.flatMap_cons,
          encodeBlock, if_pos hset, List.nil_append]
      · rw [List.filter_cons_of_pos (by simp [hset]), List.map_cons,
          List.flatMap_cons, hrest, List.flatMap_cons,
          encodeBlock_bytes (hall blk List.mem_cons_self) hset]

theorem encodedBlocks_disjoint (tim : ℕ → UInt8) :
    DisjointBlocks (encodedBlocks tim) := by
  apply List.Pairwise.map (R := fun blk other => blk ≠ other ∧ blk < 25 ∧ other < 25)
  · rintro blk other ⟨hne, hblk, hother⟩ aid ⟨hcovers, hcovers'⟩
    rw [timBlock_covers (by omega)] at hcovers hcovers'
    exact hne (hcovers.trans hcovers'.symm)
  · apply List.Pairwise.filter
    apply List.pairwise_lt_range.imp_of_mem
    intro blk other hblk hother hlt
    exact ⟨hlt.ne, List.mem_range.mp hblk, List.mem_range.mp hother⟩

theorem timBlock_bit (tim : ℕ → UInt8) (aid : ℕ) :
    (timBlock tim (aid / 64 % 32)).bit aid =
      (tim (aid / 64 % 32 * 8 + aid / 8 % 8)).toNat.testBit (aid % 8) := by
  have hlt : aid / 8 % 8 < 8 := Nat.mod_lt _ (by norm_num)
  have hbit : (timBlock tim (aid / 64 % 32)).bit aid =
      (((timBlock tim (aid / 64 % 32)).subblock aid).map fun octet =>
        octet.toNat.testBit (aid % 8)).getD false :=
    Bool.xor_false _
  rw [hbit, EncodedBlock.subblock_block _ rfl]
  have hset := blkBmap_testBit tim (aid / 64 % 32) (aid / 8 % 8)
  rw [decide_eq_true hlt, Bool.true_and] at hset
  by_cases hpresent : (blkBmap tim (aid / 64 % 32)).testBit (aid / 8 % 8) = true
  · rw [if_pos hpresent, presentOctets_getElem? tim _ hlt hpresent]
    rfl
  · rw [if_neg hpresent]
    rw [hset, decide_eq_true_eq, not_not] at hpresent
    simp [hpresent]

theorem encodedBlocks_assigned (tim : ℕ → UInt8) (aid : ℕ) :
    Assigned (encodedBlocks tim) aid ↔ timBit tim (aid % 2048) = true := by
  have hblk : aid % 2048 / 8 = aid / 64 % 32 * 8 + aid / 8 % 8 := by omega
  have hbit : aid % 2048 % 8 = aid % 8 := by omega
  simp only [timBit, hblk, hbit, Bool.and_eq_true, decide_eq_true_eq]
  rw [← timBlock_bit]
  constructor
  · rintro ⟨block, hblock, hcovers, hset⟩
    obtain ⟨blk, hmem, rfl⟩ := List.mem_map.mp hblock
    obtain ⟨hrange, -⟩ := List.mem_filter.mp hmem
    have hlt := List.mem_range.mp hrange
    have hsame := (timBlock_covers (by omega)).mp hcovers
    subst hsame
    exact ⟨by omega, hset⟩
  · rintro ⟨hlt, hset⟩
    refine ⟨timBlock tim (aid / 64 % 32), List.mem_map.mpr
      ⟨aid / 64 % 32, List.mem_filter.mpr ⟨List.mem_range.mpr (by omega), ?_⟩,
        rfl⟩, (timBlock_covers (by omega)).mpr rfl, hset⟩
    rw [decide_eq_true_eq]
    intro hzero
    rw [timBlock_bit] at hset
    have hclear := blkBmap_testBit tim (aid / 64 % 32) (aid / 8 % 8)
    rw [hzero, Nat.zero_testBit, decide_eq_true (show aid / 8 % 8 < 8 by omega),
      Bool.true_and, eq_comm, decide_eq_false_iff_not, not_not] at hclear
    rw [hclear] at hset
    simp at hset

theorem addTimPvb_carries (tim : ℕ → UInt8) (mcastTraffic : Bool)
    (dtimCount dtimPeriod : UInt8) :
    CarriesBlocks (dtimCount :: dtimPeriod ::
      ieee80211S1gBeaconAddTimPvb tim mcastTraffic) (encodedBlocks tim) := by
  rw [CarriesBlocks, encodedBlocks_bytes]
  rfl

end IwlwifiStack
