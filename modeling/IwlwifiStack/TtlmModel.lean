import IwlwifiStack.ElementParseModel

/-!
# TID-to-link mappings

The encoder `ieee80211_neg_ttlm_add_suggested_map` and the parsers
`ieee80211_parse_neg_ttlm` and `ieee80211_parse_adv_t2l`.  A parser is given the
body of an element, from `control` on, as a list of bytes; a read outside it
has the answer `none`.
-/

namespace IwlwifiStack

/-! ## Mappings -/

inductive TtlmDirection where
  | down | up | both
  deriving DecidableEq, Repr

def TtlmDirection.code : TtlmDirection → UInt8
  | .down => 0
  | .up => 1
  | .both => 2

/-- `IEEE80211_TTLM_CONTROL_DIRECTION` of a control octet. -/
def ttlmDirection (control : ℕ) : Option TtlmDirection :=
  match control % 4 with
  | 0 => some .down
  | 1 => some .up
  | 2 => some .both
  | _ => none

/-- `struct ieee80211_neg_ttlm`, with a set of links for each of the eight TIDs
and direction. -/
structure NegTtlm where
  downlink : Fin 8 → UInt16
  uplink : Fin 8 → UInt16
  deriving DecidableEq

def NegTtlm.mapsFor (negTtlm : NegTtlm) : TtlmDirection → Fin 8 → UInt16
  | .up => negTtlm.uplink
  | _ => negTtlm.downlink

/-! ## Encoding -/

def putLe16 (map : UInt16) : List UInt8 :=
  [UInt8.ofNat map.toNat, UInt8.ofNat (map.toNat / 256)]

/-- The element that `ieee80211_neg_ttlm_add_suggested_map` is writing. -/
structure SuggestedMap where
  len : ℕ
  mapInd : ℕ
  maps : List UInt8

namespace SuggestedMap

def addTid (maps : Fin 8 → UInt16) (elem : SuggestedMap) (tid : Fin 8) :
    SuggestedMap :=
  if maps tid = 0 then elem
  else
    { len := elem.len + 2
      mapInd := elem.mapInd ||| 2 ^ tid.val
      maps := elem.maps ++ putLe16 (maps tid) }

def ofTids (maps : Fin 8 → UInt16) (tids : List (Fin 8)) : SuggestedMap :=
  tids.foldl (addTid maps) ⟨3, 0, []⟩

def octets (direction : TtlmDirection) (elem : SuggestedMap) : List UInt8 :=
  [wlanEidExtension, UInt8.ofNat elem.len, wlanEidExtTidToLinkMapping,
    direction.code, UInt8.ofNat elem.mapInd] ++ elem.maps

end SuggestedMap

/-- The loop stops behind `IEEE80211_TTLM_DIRECTION_BOTH`. -/
def NegTtlm.directions (negTtlm : NegTtlm) : List TtlmDirection :=
  if negTtlm.downlink ≠ negTtlm.uplink then [.down, .up] else [.both]

/-- The elements in the order in which they are put into the frame. -/
def ieee80211NegTtlmAddSuggestedMap (negTtlm : NegTtlm) : List (List UInt8) :=
  negTtlm.directions.map fun direction =>
    (SuggestedMap.ofTids (negTtlm.mapsFor direction)
      (List.finRange 8)).octets direction

/-- What the two callers reserve for the elements. -/
def ttlmMaxLen : ℕ := 2 + 1 + 1 + 1 + 2 * 2 * 8

/-- The body that element parsing finds in an element. -/
def ttlmBody : List UInt8 → List UInt8
  | _ :: len :: _ :: rest => rest.take (len.toNat - 1)
  | _ => []

/-! ## Parsing -/

def ieee80211GetTtlm (bmSize : ℕ) (mem : List UInt8) (pos : ℕ) :
    Option UInt16 :=
  if bmSize = 1 then (readByte mem pos).map UInt16.ofNat
  else
    (readByte mem pos).bind fun low =>
      (readByte mem (pos + 1)).map fun high => UInt16.ofNat (low + 256 * high)

def linkMapSize (control : ℕ) : ℕ :=
  if hasBits control 0x20 then 1 else 2

namespace NegTtlm

/-- The stores of the switch over `*direction`. -/
def store (negTtlm : NegTtlm) (direction : TtlmDirection) (tid : Fin 8)
    (map : UInt16) : NegTtlm where
  downlink := if direction = .up then negTtlm.downlink
    else Function.update negTtlm.downlink tid map
  uplink := if direction = .down then negTtlm.uplink
    else Function.update negTtlm.uplink tid map

/-- The loop of `ieee80211_parse_neg_ttlm`; `pos` moves on for every TID. -/
def parseMaps (body : List UInt8) (presence mapSize : ℕ)
    (direction : TtlmDirection) :
    List (Fin 8) → ℕ → NegTtlm → Option (Except ℤ NegTtlm)
  | [], _, negTtlm => some (.ok negTtlm)
  | tid :: tids, pos, negTtlm =>
      if presence.testBit tid then
        (ieee80211GetTtlm mapSize body pos).bind fun map =>
          if map = 0 then some (.error (-22))
          else
            parseMaps body presence mapSize direction tids (pos + mapSize)
              (negTtlm.store direction tid map)
      else
        parseMaps body presence mapSize direction tids (pos + mapSize)
          (negTtlm.store direction tid 0)

end NegTtlm

/-- `-EINVAL` is -22. -/
def ieee80211ParseNegTtlm (validLinks : UInt16) (body : List UInt8)
    (negTtlm : NegTtlm) : Option (Except ℤ (NegTtlm × TtlmDirection)) :=
  (readByte body 0).bind fun control =>
    if hasBits control 0x18 then some (.error (-22))
    else if hasBits control 0x04 then
      some (.ok (⟨fun _ => validLinks, fun _ => validLinks⟩, .both))
    else
      match ttlmDirection control with
      | none => some (.error (-22))
      | some direction =>
          (readByte body 1).bind fun presence =>
            (negTtlm.parseMaps body presence (linkMapSize control) direction
              (List.finRange 8) 2).map fun result =>
              result.map fun negTtlm => (negTtlm, direction)

/-- The elements of a frame, each into the same mapping. -/
def parseNegTtlmElements (validLinks : UInt16) :
    List (List UInt8) → NegTtlm → Option (Except ℤ NegTtlm)
  | [], negTtlm => some (.ok negTtlm)
  | body :: bodies, negTtlm =>
      (ieee80211ParseNegTtlm validLinks body negTtlm).bind fun
        | .error err => some (.error err)
        | .ok parsed => parseNegTtlmElements validLinks bodies parsed.1

/-- `struct ieee80211_adv_ttlm_info` without `active`. -/
structure AdvTtlmInfo where
  switchTime : ℕ
  duration : ℕ
  map : UInt16
  deriving DecidableEq, Repr

/-- A switch time of 0 means that there is none. -/
def bumpSwitchTime (switchTime : ℕ) : ℕ :=
  if switchTime = 0 then 1 else switchTime

def readLe16 (mem : List UInt8) (pos : ℕ) : Option ℕ :=
  (readByte mem pos).bind fun low =>
    (readByte mem (pos + 1)).map fun high => low + 256 * high

def readLe24 (mem : List UInt8) (pos : ℕ) : Option ℕ :=
  (readLe16 mem pos).bind fun low =>
    (readByte mem (pos + 2)).map fun high => low + 65536 * high

/-- The switch time and the duration, from `pos` on. -/
def parseAdvTimes (control : ℕ) (body : List UInt8) (pos : ℕ) :
    Option (ℕ × ℕ) :=
  let durationPos := pos + addIf (hasBits control 0x08) 2
  (if hasBits control 0x08 then (readLe16 body pos).map bumpSwitchTime
    else some 0).bind fun switchTime =>
      (if hasBits control 0x10 then readLe24 body durationPos
        else some 0).map fun duration => (switchTime, duration)

/-- The loop of `ieee80211_parse_adv_t2l` over the TIDs behind the first. -/
def sameMaps (body : List UInt8) (mapSize : ℕ) (first : UInt16) :
    ℕ → ℕ → Option (Except ℤ Unit)
  | 0, _ => some (.ok ())
  | left + 1, pos =>
      (ieee80211GetTtlm mapSize body pos).bind fun map =>
        if map ≠ first then some (.error (-22))
        else sameMaps body mapSize first left (pos + mapSize)

/-- The maps of all TIDs, from `pos` on. -/
def parseAdvMap (body : List UInt8) (mapSize pos : ℕ) :
    Option (Except ℤ UInt16) :=
  (ieee80211GetTtlm mapSize body pos).bind fun first =>
    if first = 0 then some (.error (-22))
    else
      (sameMaps body mapSize first 7 (pos + mapSize)).map fun same =>
        same.map fun _ => first

/-- The presence octet is read whether the element has one or not. -/
def ieee80211ParseAdvT2l (body : List UInt8) :
    Option (Except ℤ AdvTtlmInfo) :=
  (readByte body 0).bind fun control =>
    if ttlmDirection control ≠ some .both then some (.error (-22))
    else
      (readByte body 1).bind fun presence =>
        (parseAdvTimes control body 2).bind fun times =>
          if hasBits control 0x04 then
            some (.ok ⟨times.1, times.2, 0xffff⟩)
          else if presence ≠ 0xff then some (.error (-22))
          else
            (parseAdvMap body (linkMapSize control)
              (2 + addIf (hasBits control 0x08) 2 +
                addIf (hasBits control 0x10) 3)).map fun result =>
              result.map fun map => ⟨times.1, times.2, map⟩

end IwlwifiStack
