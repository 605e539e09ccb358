import IwlwifiStack.ElementProfiles

/-!
# What element parsing relies on

The documented behaviour of the functions of cfg80211, and one library that
behaves so.
-/

namespace IwlwifiStack

open TagLengthValue

/-! ## Defragmentation -/

def Element.payload (elem : Element) : List UInt8 :=
  if elem.id = wlanEidExtension then elem.data.tail else elem.data

def Element.contents (elem : Element) (fragId : UInt8) (following : List Item) :
    List UInt8 :=
  elem.payload ++ fragmentData fragId elem.data.length following

theorem Element.Within.drop_after {elem : Element} {buf : ElementBuf} {after : List UInt8}
    (hwithin : elem.Within buf after) :
    buf.octets.drop (elem.offset - buf.start + (elem.data.length + 2)) = after := by
  obtain ⟨-, before, hoctets, hoffset⟩ := hwithin
  rw [hoctets, hoffset, Nat.add_sub_cancel_left]
  apply List.drop_left'
  rw [List.length_append, Item.octets_length]

/-- `cfg80211_defragment_element` copies the value of an element that is
contained in the given list and of its fragments there.  It is silent about
which bytes behind the value it takes when the element is from elsewhere; it
fails only for want of an element or of room. -/
structure ElemsLib.DefragmentDocumented (lib : ElemsLib) : Prop where
  missing : ∀ buf room fragId, lib.defragmentElement none buf room fragId = none
  within : ∀ {elem : Element} {buf : ElementBuf} {after : List UInt8},
    elem.Within buf after → elem.data ≠ [] → ∀ room fragId,
      let ml := elem.contents fragId
        (items (elem.offset + 2 + elem.data.length) after)
      lib.defragmentElement (some elem) buf room fragId =
        if ml.length ≤ room then some ml else none
  elsewhere : ∀ {elem : Element} {own buf : ElementBuf} {after : List UInt8},
    elem.Within own after → elem.data ≠ [] → elem.origin ≠ buf.origin →
      ∀ room fragId, elem.data.length + after.length ≤ room →
        (lib.defragmentElement (some elem) buf room fragId).isSome
  mergeProfile_length : ∀ frame elem sub room,
    (lib.mergeProfile frame elem sub room).length ≤ room

/-! ## Inheritance -/

/-- The element IDs and the extension IDs that a non-inheritance element
lists.  Each list has its length in front. -/
def nonInheritanceLists (nonInherit : Element) : List UInt8 × List UInt8 :=
  let data := nonInherit.data
  let idLen := dataOctet data 1
  let extIdLen := dataOctet data (2 + idLen)
  if data.length < 3 + idLen ∨ data.length < 3 + idLen + extIdLen then
    ([], [])
  else
    ((data.drop 2).take idLen, (data.drop (3 + idLen)).take extIdLen)

def Element.listedBy (elem nonInherit : Element) : Bool :=
  let lists := nonInheritanceLists nonInherit
  if elem.id = wlanEidExtension then
    lists.2.any fun extId => elem.data.head? = some extId
  else
    lists.1.contains elem.id

/-- Multiple BSSID and multi-link elements are never inherited, whatever is
listed. -/
def Element.inheritable (elem : Element) : Bool :=
  elem.id ≠ wlanEidMultipleBssid &&
    (elem.id ≠ wlanEidExtension ||
      (!elem.data.isEmpty && elem.data.head? ≠ some wlanEidExtEhtMultiLink))

structure ElemsLib.InheritDocumented (lib : ElemsLib) : Prop where
  findElem_isSome : ∀ id buf,
    (lib.findElem id buf).isSome ↔ ∃ elem ∈ buf.elements, elem.id = id
  findExtElem_eq : ∀ extId buf, lib.findExtElem extId buf =
    buf.elements.find? fun elem =>
      elem.id = wlanEidExtension && elem.data.head? = some extId
  isElementInherited_eq : ∀ elem nonInherit, elem.inheritable →
    lib.isElementInherited elem nonInherit = !elem.listedBy nonInherit

/-! ## A library -/

def crc32BeBit (crc : UInt32) : UInt32 :=
  if crc &&& 0x80000000 ≠ 0 then (crc <<< 1) ^^^ 0x04c11db7 else crc <<< 1

/-- A profile that is not split over several Multiple BSSID elements is copied
as it is. -/
def cfg80211Lib : ElemsLib where
  findElem id buf := buf.elements.find? fun elem => elem.id = id
  findExtElem extId buf := buf.elements.find? fun elem =>
    elem.id = wlanEidExtension && elem.data.head? = some extId
  isElementInherited elem nonInherit :=
    elem.inheritable && !elem.listedBy nonInherit
  defragmentElement elem buf room fragId :=
    elem.bind fun elem =>
      let after := if elem.origin = buf.origin then
        buf.octets.drop (elem.offset - buf.start + (elem.data.length + 2))
        else []
      let ml := elem.contents fragId
        (items (elem.offset + 2 + elem.data.length) after)
      if ml.length ≤ room then some ml else none
  mergeProfile _ _ sub room := sub.data.take room
  genNewBssid bssid maxBssid index :=
    let last := dataOctet bssid 5
    let size := 2 ^ maxBssid.toNat
    bssid.take 5 ++ [UInt8.ofNat
      (last / size * size + (last % size + index.toNat) % size)]
  crc32Be crc octets :=
    octets.foldl (fun crc octet =>
      Nat.iterate crc32BeBit 8 (crc ^^^ (octet.toUInt32 <<< (24 : UInt32)))) crc

theorem Element.payload_length_le (elem : Element) :
    elem.payload.length ≤ elem.data.length := by
  unfold Element.payload
  split
  · rw [List.length_tail]
    omega
  · exact le_rfl

theorem cfg80211Lib_defragmentDocumented : cfg80211Lib.DefragmentDocumented where
  missing _ _ _ := rfl
  within := by
    rintro elem buf after hwithin - room fragId
    simp only [cfg80211Lib, Option.bind_some, if_pos hwithin.1, hwithin.drop_after]
  elsewhere := by
    rintro elem own buf after - - horigin room fragId hroom
    have hpayload := elem.payload_length_le
    simp only [cfg80211Lib, Option.bind_some, if_neg horigin]
    rw [if_pos]
    · rfl
    · have hnone : items (elem.offset + 2 + elem.data.length) [] = [] := rfl
      rw [hnone, Element.contents, fragmentData, continuation,
        List.flatMap_nil, List.append_nil]
      omega
  mergeProfile_length _ _ sub room := by
    simp only [cfg80211Lib, List.length_take]
    omega

theorem cfg80211Lib_inheritDocumented : cfg80211Lib.InheritDocumented where
  findElem_isSome id buf := by
    simp [cfg80211Lib, List.find?_isSome]
  findExtElem_eq _ _ := rfl
  isElementInherited_eq elem nonInherit hinheritable := by
    simp only [cfg80211Lib, hinheritable, Bool.true_and]

/-! ## Association responses -/

/-- An association response parsed for link 1. -/
def assocRespParams (octets : List UInt8) : ElemsParseParams where
  mode := .eht
  buf := ⟨.frame, 0, octets⟩
  type := 0x10
  filter := 0
  crc := 0
  bss := none
  linkId := 1
  fromAp := true

def basicMlOctets (profile : List UInt8) : List UInt8 :=
  let prof := [0x11, 0, 1, 0, 0, 0, 0] ++ profile
  [255, UInt8.ofNat (prof.length + 12), 107, 0, 0, 7, 2, 0, 0, 0, 0, 1, 0,
    UInt8.ofNat prof.length] ++ prof

end IwlwifiStack
