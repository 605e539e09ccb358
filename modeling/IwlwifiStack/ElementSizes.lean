import IwlwifiStack.S1gTimModel

/-!
# Size checks of elements

The checks of `ieee80211-he.h`, `ieee80211-eht.h` and `ieee80211-uhr.h` that
element parsing uses.  An element with an extension ID is given without it, as
the bytes from `data` on; their number is `len`.
-/

namespace IwlwifiStack

/-! ## Bytes of an element -/

def dataOctet (data : List UInt8) (i : ℕ) : ℕ :=
  (data.getD i 0).toNat

def getLe16 (data : List UInt8) (i : ℕ) : ℕ :=
  dataOctet data i + 256 * dataOctet data (i + 1)

def getLe32 (data : List UInt8) (i : ℕ) : ℕ :=
  getLe16 data i + 65536 * getLe16 data (i + 2)

def hasBits (value mask : ℕ) : Bool :=
  value &&& mask ≠ 0

/-- `hweight16` of the threshold header. -/
def hweightPpeHdr (ppeThresHdr : ℕ) : ℕ :=
  (List.range 16).countP ppeThresHdr.testBit

def addIf (cond : Bool) (n : ℕ) : ℕ :=
  if cond then n else 0

/-! ## HE -/

/-- `phy_cap_info[i]` of `struct ieee80211_he_cap_elem`. -/
def hePhyCapInfo (heCap : List UInt8) (i : ℕ) : ℕ :=
  dataOctet heCap (6 + i)

def ieee80211HeMcsNssSize (heCap : List UInt8) : ℕ :=
  4 + addIf (hasBits (hePhyCapInfo heCap 0) 0x08) 4 +
    addIf (hasBits (hePhyCapInfo heCap 0) 0x10) 4

def ieee80211HePpeSize (ppeThresHdr phyCapInfo6 : ℕ) : ℕ :=
  if hasBits phyCapInfo6 0x80 then
    (hweight8 (ppeThresHdr &&& 0x78) * (1 + (ppeThresHdr &&& 7)) * 3 * 2 + 7 +
      7) / 8
  else
    0

def ieee80211HeCapaSizeOk (data : List UInt8) : Bool :=
  let needed := 17 + ieee80211HeMcsNssSize data
  if data.length < 17 then
    false
  else if data.length < needed then
    false
  else if hasBits (hePhyCapInfo data 6) 0x80 then
    needed + 1 ≤ data.length ∧
      needed + ieee80211HePpeSize (dataOctet data needed)
        (hePhyCapInfo data 6) ≤ data.length
  else
    needed ≤ data.length

def ieee80211HeOperSize (data : List UInt8) : ℕ :=
  6 + addIf (hasBits (getLe32 data 0) 0x4000) 3 +
    addIf (hasBits (getLe32 data 0) 0x8000) 1 +
    addIf (hasBits (getLe32 data 0) 0x20000) 5 + 1

def ieee80211HeSprSize (data : List UInt8) : ℕ :=
  1 + addIf (hasBits (dataOctet data 0) 0x04) 1 +
    addIf (hasBits (dataOctet data 0) 0x08) 18 + 1

/-! ## EHT -/

/-- `phy_cap_info[i]` of `struct ieee80211_eht_cap_elem_fixed`. -/
def ehtPhyCapInfo (data : List UInt8) (i : ℕ) : ℕ :=
  dataOctet data (2 + i)

def ieee80211EhtMcsNssSize (heCap ehtCap : List UInt8) (fromAp : Bool) : ℕ :=
  let count := addIf (hasBits (hePhyCapInfo heCap 0) 0x04) 3 +
    addIf (hasBits (hePhyCapInfo heCap 0) 0x08) 3 +
    addIf (hasBits (ehtPhyCapInfo ehtCap 0) 0x02) 3
  if hasBits (hePhyCapInfo heCap 0) 0x02 then
    3
  else if count ≠ 0 then
    count
  else if fromAp then
    3
  else
    4

def ieee80211EhtPpeSize (ppeThresHdr phyCapInfo5 : ℕ) : ℕ :=
  if hasBits phyCapInfo5 0x08 then
    (hweightPpeHdr (ppeThresHdr &&& 0x1f0) * (1 + (ppeThresHdr &&& 0xf)) * 3 * 2 +
      9 + 7) / 8
  else
    0

/-- Without HE capabilities no EHT capabilities are accepted. -/
def ieee80211EhtCapaSizeOk (heCapa : Option (List UInt8)) (data : List UInt8)
    (fromAp : Bool) : Bool :=
  match heCapa with
  | none => false
  | some heCapa =>
      let needed := 11 + ieee80211EhtMcsNssSize heCapa data fromAp
      if data.length < 11 then
        false
      else if data.length < needed then
        false
      else if hasBits (ehtPhyCapInfo data 5) 0x08 then
        needed + 2 ≤ data.length ∧
          needed + ieee80211EhtPpeSize (getLe16 data needed)
            (ehtPhyCapInfo data 5) ≤ data.length
      else
        needed ≤ data.length

def ieee80211EhtOperSizeOk (data : List UInt8) : Bool :=
  5 ≤ data.length ∧
    5 + addIf (hasBits (dataOctet data 0) 0x01)
      (3 + addIf (hasBits (dataOctet data 0) 0x02) 2) ≤ data.length

def ieee80211BandwidthIndicationSizeOk (data : List UInt8) : Bool :=
  4 ≤ data.length ∧
    4 + addIf (hasBits (dataOctet data 0) 0x02) 2 ≤ data.length

def ieee80211TidToLinkMapSizeOk (data : List UInt8) : Bool :=
  let control := dataOctet data 0
  let elemLen := addIf (hasBits control 0x08) 2 + addIf (hasBits control 0x10) 3
  if data.length < 1 then
    false
  else if hasBits control 0x04 then
    1 + elemLen ≤ data.length
  else
    1 + (elemLen + 1) ≤ data.length ∧
      1 + (elemLen + 1 + hweight8 (dataOctet data 1) *
        if hasBits control 0x20 then 1 else 2) ≤ data.length

/-! ## Multi-link elements -/

/-- The type in `control` of `struct ieee80211_multi_link_elem`. -/
inductive MlControlType where
  | basic | preq | reconf | tdls | prioAccess | unknown
  deriving DecidableEq, Repr

def mlControlType (data : List UInt8) : MlControlType :=
  match getLe16 data 0 % 8 with
  | 0 => .basic
  | 1 => .preq
  | 2 => .reconf
  | 3 => .tdls
  | 4 => .prioAccess
  | _ => .unknown

/-- The length `common` of each type, and whether the element carries it. -/
def mleCommonNeeded (data : List UInt8) : Option (ℕ × Bool) :=
  let control := getLe16 data 0
  match mlControlType data with
  | .basic => some (7 + addIf (hasBits control 0x0010) 1 +
      addIf (hasBits control 0x0020) 1 + addIf (hasBits control 0x0040) 2 +
      addIf (hasBits control 0x0080) 2 + addIf (hasBits control 0x0100) 2 +
      addIf (hasBits control 0x0200) 1 + addIf (hasBits control 0x0400) 2, true)
  | .preq => some (1 + addIf (hasBits control 0x0010) 1, true)
  | .reconf => some (addIf (hasBits control 0x0010) 6 +
      addIf (hasBits control 0x0020) 2 + addIf (hasBits control 0x0040) 2 +
      addIf (hasBits control 0x0080) 2, false)
  | .tdls => some (7, true)
  | .prioAccess => some (7, false)
  | .unknown => none

def ieee80211MleSizeOk (data : List UInt8) : Bool :=
  if data.length < 2 then
    false
  else
    match mleCommonNeeded data with
    | none => true
    | some (common, checkCommonLen) =>
        2 + common ≤ data.length ∧ (checkCommonLen → common ≤ dataOctet data 2)

/-- An unknown type has no common part.  The size is a `u8`. -/
def ieee80211MleCommonSize (data : List UInt8) : ℕ :=
  if mlControlType data = .unknown then 0 else (2 + dataOctet data 2) % 256

def ieee80211MleBasicStaProfSizeOk (data : List UInt8) : Bool :=
  let control := getLe16 data 0
  let infoLen := 1 + addIf (hasBits control 0x0020) 6 +
    addIf (hasBits control 0x0040) 2 + addIf (hasBits control 0x0080) 8 +
    addIf (hasBits control 0x0100) 2 +
    addIf (hasBits control 0x0010 && hasBits control 0x0200)
      (if hasBits control 0x0400 then 2 else 1) +
    addIf (hasBits control 0x0800) 1
  3 ≤ data.length ∧ infoLen ≤ dataOctet data 2 ∧
    3 + dataOctet data 2 - 1 ≤ data.length

/-! ## UHR -/

def ieee80211UhrOperSizeOk (data : List UInt8) (beacon : Bool) : Bool :=
  if data.length < 6 then
    false
  else if beacon then
    true
  else if hasBits (getLe16 data 0) 0x0002 then
    10 ≤ data.length ∧
      10 + addIf (hasBits (getLe32 data 6) 0x08000000) 2 ≤ data.length
  else
    true

def ieee80211UhrCapaSizeOk (data : List UInt8) : Bool :=
  6 ≤ data.length

end IwlwifiStack
