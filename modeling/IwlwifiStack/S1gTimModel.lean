import Mathlib.Data.Nat.Bitwise
import Mathlib.Data.List.Basic
import Mathlib.Tactic

/-!
# The TIM of S1G beacons

`ieee80211_s1g_check_tim` with the functions under it, and the encoder
`ieee80211_s1g_beacon_add_tim_pvb`.  Memory is the list of bytes that can be
read from the start of the TIM on, and a pointer is an offset into it.  An
access outside has the answer `none`.
-/

namespace IwlwifiStack

/-! ## Bytes -/

def readByte (mem : List UInt8) (ptr : ℕ) : Option ℕ :=
  mem[ptr]?.map UInt8.toNat

/-- The number of bits that are set. -/
def hweight8 (byte : ℕ) : ℕ :=
  (List.range 8).countP byte.testBit

/-! ## Decoding -/

structure S1gTimAid where
  aid : ℕ
  targetBlk : ℕ
  targetSubblk : ℕ
  targetSubblkBit : ℕ
  deriving DecidableEq, Repr

structure S1gTimEncBlock where
  encMode : ℕ
  inverse : Bool
  ptr : ℕ
  len : ℕ
  olbBlkOffset : ℕ
  deriving DecidableEq, Repr

/-- `-EINVAL` is -22. -/
def ieee80211S1gLenBitmap (mem : List UInt8) (ptr last : ℕ) :
    Option (Except ℤ ℕ) :=
  if ptr ≥ last then
    some (.error (-22))
  else
    (readByte mem ptr).map fun blkmap =>
      if ptr + 1 + hweight8 blkmap > last then .error (-22)
      else .ok (1 + hweight8 blkmap)

def ieee80211S1gLenSingle (ptr last : ℕ) : Except ℤ ℕ :=
  if ptr + 1 > last then .error (-22) else .ok 1

def ieee80211S1gLenOlb (mem : List UInt8) (ptr last : ℕ) :
    Option (Except ℤ ℕ) :=
  if ptr ≥ last then
    some (.error (-22))
  else
    (readByte mem ptr).map fun len =>
      if ptr + 1 + len > last then .error (-22) else .ok (1 + len)

/-- `len` and `contains` of the switch over the encoding mode; `-EOPNOTSUPP` is
-95. -/
def encodedExtent (mem : List UInt8) (aid : S1gTimAid) (ptr last mode : ℕ)
    (blkOff : ℕ) : Option (Except ℤ (ℕ × Bool)) :=
  match mode with
  | 0 => (ieee80211S1gLenBitmap mem ptr last).map fun len => len.map fun len =>
      (len, decide (blkOff = aid.targetBlk))
  | 1 => some ((ieee80211S1gLenSingle ptr last).map fun len =>
      (len, decide (blkOff = aid.targetBlk)))
  | 2 => (ieee80211S1gLenOlb mem ptr last).map fun len => len.map fun len =>
      (len, decide (aid.targetBlk ≥ blkOff) &&
        decide (aid.targetBlk < blkOff + (len - 1 + 7) / 8))
  | _ => some (.error (-95))

/-- The loop of `ieee80211_s1g_find_target_block`, with a bound on the number of
blocks; `-ENOENT` is -2. -/
def ieee80211S1gFindTargetBlock (mem : List UInt8) (aid : S1gTimAid)
    (last : ℕ) : ℕ → ℕ → Option (Except ℤ S1gTimEncBlock)
  | 0, _ => some (.error (-2))
  | bound + 1, ptr =>
      if ptr + 1 ≤ last then
        match readByte mem ptr with
        | none => none
        | some ctrl =>
            match encodedExtent mem aid (ptr + 1) last (ctrl % 4)
              (ctrl / 8) with
            | none => none
            | some (.error err) => some (.error err)
            | some (.ok (len, contains)) =>
                if contains then
                  some (.ok
                    { encMode := ctrl % 4
                      inverse := ctrl.testBit 2
                      ptr := ptr + 1
                      len := len % 256
                      olbBlkOffset := ctrl / 8 })
                else
                  ieee80211S1gFindTargetBlock mem aid last bound
                    (ptr + 1 + len)
      else
        some (.error (-2))

def ieee80211S1gParseBitmap (mem : List UInt8) (enc : S1gTimEncBlock)
    (aid : S1gTimAid) : Option Bool :=
  match readByte mem enc.ptr with
  | none => none
  | some blkmap =>
      if !blkmap.testBit aid.targetSubblk then
        some enc.inverse
      else
        -- no bit is below subblock 0
        let ptr := enc.ptr + 1 + hweight8 (blkmap &&& 2 ^ aid.targetSubblk - 1)
        (readByte mem ptr).map fun octet =>
          octet.testBit aid.targetSubblkBit ^^ enc.inverse

def ieee80211S1gParseSingle (mem : List UInt8) (enc : S1gTimEncBlock)
    (aid : S1gTimAid) : Option Bool :=
  (readByte mem enc.ptr).map fun octet =>
    decide (octet % 64 = aid.aid % 64) ^^ enc.inverse

def ieee80211S1gParseOlb (mem : List UInt8) (enc : S1gTimEncBlock)
    (aid : S1gTimAid) : Option Bool :=
  match readByte mem enc.ptr with
  | none => none
  | some blkLen =>
      let subblkIdx := (aid.targetBlk - enc.olbBlkOffset) * 8 + aid.targetSubblk
      if subblkIdx ≥ blkLen then
        some enc.inverse
      else
        (readByte mem (enc.ptr + 1 + subblkIdx)).map fun octet =>
          octet.testBit aid.targetSubblkBit ^^ enc.inverse

def s1gTimAid (aid : ℕ) : S1gTimAid where
  aid := aid
  targetBlk := aid / 64 % 32
  targetSubblk := aid / 8 % 8
  targetSubblkBit := aid % 8

def parseTarget (mem : List UInt8) (enc : S1gTimEncBlock) (aid : S1gTimAid) :
    Option Bool :=
  match enc.encMode with
  | 0 => ieee80211S1gParseBitmap mem enc aid
  | 1 => ieee80211S1gParseSingle mem enc aid
  | 2 => ieee80211S1gParseOlb mem enc aid
  | _ => some false

/-- `virtual_map` is behind the first three octets of the TIM. -/
def ieee80211S1gCheckTim (mem : List UInt8) (timLen aid : ℕ) : Option Bool :=
  if timLen < 3 then
    some false
  else
    match ieee80211S1gFindTargetBlock mem (s1gTimAid aid) (timLen + 2)
      (timLen + 2) 3 with
    | none => none
    | some (.error _) => some false
    | some (.ok enc) => parseTarget mem enc (s1gTimAid aid)

/-! ## Encoding -/

/-- `blk_bmap`: the subblocks of the block that are not zero. -/
def blkBmap (tim : ℕ → UInt8) (blk : ℕ) : ℕ :=
  (List.range 8).foldl (fun bmap sblk =>
    if tim (blk * 8 + sblk) ≠ 0 then bmap ||| 2 ^ sblk else bmap) 0

def encodeBlock (tim : ℕ → UInt8) (blk : ℕ) : List UInt8 :=
  if blkBmap tim blk = 0 then
    []
  else
    UInt8.ofNat (blk * 8) :: UInt8.ofNat (blkBmap tim blk) ::
      ((List.range 8).filter (blkBmap tim blk).testBit).map fun sblk =>
        tim (blk * 8 + sblk)

/-- What is put behind the DTIM count and period;
`IEEE80211_MAX_SUPPORTED_S1G_TIM_BLOCKS` is 25. -/
def ieee80211S1gBeaconAddTimPvb (tim : ℕ → UInt8) (mcastTraffic : Bool) :
    List UInt8 :=
  (if mcastTraffic then 63 else 62) :: (List.range 25).flatMap (encodeBlock tim)

/-! ## More memory -/

theorem readByte_append {mem : List UInt8} {ptr byte : ℕ}
    (hread : readByte mem ptr = some byte) (rest : List UInt8) :
    readByte (mem ++ rest) ptr = some byte := by
  unfold readByte at hread ⊢
  rw [Option.map_eq_some_iff] at hread ⊢
  obtain ⟨octet, hoctet, hbyte⟩ := hread
  have hlt := (List.getElem?_eq_some_iff.mp hoctet).1
  exact ⟨octet, by rw [List.getElem?_append_left hlt, hoctet], hbyte⟩

theorem readByte_outside {mem : List UInt8} {ptr : ℕ}
    (hptr : mem.length ≤ ptr) : readByte mem ptr = none := by
  rw [readByte, List.getElem?_eq_none hptr]
  rfl

theorem encodedExtent_append {mem : List UInt8} {aid : S1gTimAid}
    {ptr last mode blkOff : ℕ} {extent : Except ℤ (ℕ × Bool)}
    (hextent : encodedExtent mem aid ptr last mode blkOff = some extent)
    (rest : List UInt8) :
    encodedExtent (mem ++ rest) aid ptr last mode blkOff = some extent := by
  unfold encodedExtent at hextent ⊢
  split at hextent
  · unfold ieee80211S1gLenBitmap at hextent ⊢
    split_ifs at hextent ⊢ with hlast
    · exact hextent
    · rw [Option.map_map, Option.map_eq_some_iff] at hextent
      obtain ⟨byte, hbyte, hextent⟩ := hextent
      rw [readByte_append hbyte rest]
      exact congrArg some hextent
  · exact hextent
  · unfold ieee80211S1gLenOlb at hextent ⊢
    split_ifs at hextent ⊢ with hlast
    · exact hextent
    · rw [Option.map_map, Option.map_eq_some_iff] at hextent
      obtain ⟨byte, hbyte, hextent⟩ := hextent
      rw [readByte_append hbyte rest]
      exact congrArg some hextent
  · exact hextent

theorem findTargetBlock_append {mem : List UInt8} {aid : S1gTimAid}
    {last bound ptr : ℕ} {found : Except ℤ S1gTimEncBlock}
    (hfound : ieee80211S1gFindTargetBlock mem aid last bound ptr = some found)
    (rest : List UInt8) :
    ieee80211S1gFindTargetBlock (mem ++ rest) aid last bound ptr =
      some found := by
  induction bound generalizing ptr with
  | zero => exact hfound
  | succ bound ih =>
      unfold ieee80211S1gFindTargetBlock at hfound ⊢
      split_ifs at hfound ⊢ with hlast
      · cases hctrl : readByte mem ptr with
        | none =>
            rw [hctrl] at hfound
            cases hfound
        | some ctrl =>
            rw [hctrl] at hfound
            rw [readByte_append hctrl rest]
            simp only at hfound ⊢
            cases hextent : encodedExtent mem aid (ptr + 1) last (ctrl % 4)
                (ctrl / 8) with
            | none =>
                rw [hextent] at hfound
                cases hfound
            | some extent =>
                rw [hextent] at hfound
                rw [encodedExtent_append hextent rest]
                cases extent with
                | error err => exact hfound
                | ok extent =>
                    obtain ⟨len, contains⟩ := extent
                    cases contains with
                    | true => exact hfound
                    | false => exact ih hfound
      · exact hfound

theorem parseTarget_append {mem : List UInt8} {enc : S1gTimEncBlock}
    {aid : S1gTimAid} {bit : Bool} (hbit : parseTarget mem enc aid = some bit)
    (rest : List UInt8) : parseTarget (mem ++ rest) enc aid = some bit := by
  unfold parseTarget at hbit ⊢
  split at hbit
  · unfold ieee80211S1gParseBitmap at hbit ⊢
    cases hblkmap : readByte mem enc.ptr with
    | none =>
        rw [hblkmap] at hbit
        cases hbit
    | some blkmap =>
        rw [hblkmap] at hbit
        rw [readByte_append hblkmap rest]
        simp only at hbit ⊢
        split_ifs at hbit ⊢ with hpresent
        · exact hbit
        · rw [Option.map_eq_some_iff] at hbit
          obtain ⟨octet, hoctet, hbit⟩ := hbit
          rw [readByte_append hoctet rest, ← hbit]
          rfl
  · unfold ieee80211S1gParseSingle at hbit ⊢
    rw [Option.map_eq_some_iff] at hbit
    obtain ⟨octet, hoctet, hbit⟩ := hbit
    rw [readByte_append hoctet rest, ← hbit]
    rfl
  · unfold ieee80211S1gParseOlb at hbit ⊢
    cases hlen : readByte mem enc.ptr with
    | none =>
        rw [hlen] at hbit
        cases hbit
    | some blkLen =>
        rw [hlen] at hbit
        rw [readByte_append hlen rest]
        simp only at hbit ⊢
        split_ifs at hbit ⊢ with hshort
        · exact hbit
        · rw [Option.map_eq_some_iff] at hbit
          obtain ⟨octet, hoctet, hbit⟩ := hbit
          rw [readByte_append hoctet rest, ← hbit]
          rfl
  · exact hbit

theorem checkTim_append {mem : List UInt8} {timLen aid : ℕ} {bit : Bool}
    (hbit : ieee80211S1gCheckTim mem timLen aid = some bit)
    (rest : List UInt8) :
    ieee80211S1gCheckTim (mem ++ rest) timLen aid = some bit := by
  unfold ieee80211S1gCheckTim at hbit ⊢
  split_ifs at hbit ⊢ with hshort
  · exact hbit
  · cases hfound : ieee80211S1gFindTargetBlock mem (s1gTimAid aid) (timLen + 2)
      (timLen + 2) 3 with
    | none =>
        rw [hfound] at hbit
        cases hbit
    | some found =>
        rw [hfound] at hbit
        rw [findTargetBlock_append hfound rest]
        cases found with
        | error err => exact hbit
        | ok enc => exact parseTarget_append hbit rest

end IwlwifiStack
