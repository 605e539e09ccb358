import Mathlib

/-!
# Notice of Absence

`ieee80211_parse_p2p_noa` and `ieee80211_update_p2p_noa` (`util.c`) with the functions between them.
A time is a `u32` that wraps, and a difference of two times is read as an `s32`.
-/

namespace IwlwifiStack

/-- A descriptor of the attribute, and one that is tracked. -/
structure NoaDesc where
  count : ℕ
  start : BitVec 32
  duration : BitVec 32
  interval : BitVec 32
  deriving DecidableEq, Repr

/-- `struct ieee80211_noa_data` -/
structure NoaData where
  nextTsf : BitVec 32
  hasNextTsf : Bool
  absent : Fin 4 → Bool
  desc : Fin 4 → NoaDesc

def divRoundUp (n d : BitVec 32) : BitVec 32 := (n + d - 1) / d

/-- `ieee80211_extend_noa_desc`, of one descriptor. -/
def NoaDesc.extend (desc : NoaDesc) (tsf : BitVec 32) : NoaDesc × Bool :=
  let ends := desc.start + desc.duration - (tsf + 1)
  if ends.toInt > 0 then (desc, false)
  else if desc.count = 1 then (desc, false)
  else if desc.interval = 0 then (desc, false)
  else
    let skip := divRoundUp (-ends) desc.interval
    let start := desc.start + skip * desc.interval
    if desc.count < 255 then
      if (desc.count : ℤ) ≤ skip.toInt then ({ desc with count := 0 }, false)
      else ({ desc with count := ((desc.count - skip.toInt) % 256).toNat, start := start }, true)
    else ({ desc with start := start }, true)

/-! ## The absence ahead -/

/-- The variables of `ieee80211_extend_absent_time`; `offset` is an `s32`. -/
structure NoaAhead where
  desc : Fin 4 → NoaDesc
  offset : BitVec 32
  ret : Bool

namespace NoaAhead

/-- The body of the loop. -/
def step (tsf : BitVec 32) (ahead : NoaAhead) (i : Fin 4) : NoaAhead :=
  if (ahead.desc i).count = 0 then ahead
  else
    let extended := (ahead.desc i).extend (tsf + ahead.offset)
    let starts := extended.1.start - tsf
    let ends := extended.1.start + extended.1.duration - tsf
    { desc := Function.update ahead.desc i extended.1
      offset :=
        if starts.toInt > ahead.offset.toInt then ahead.offset
        else if ends.toInt > ahead.offset.toInt then ends
        else ahead.offset
      ret := ahead.ret || extended.2 }

/-- `ieee80211_extend_absent_time` -/
def extend (tsf : BitVec 32) (ahead : NoaAhead) : NoaAhead :=
  (List.finRange 4).foldl (step tsf) { ahead with ret := false }

/-- The tries of `ieee80211_get_noa_absent_time`. -/
def tries (tsf : BitVec 32) : ℕ → NoaAhead → NoaAhead
  | 0, ahead => ahead
  | left + 1, ahead =>
      let extended := ahead.extend tsf
      if extended.ret then tries tsf left extended else extended

/-- `ieee80211_get_noa_absent_time` -/
def getAbsentTime (tsf : BitVec 32) (desc : Fin 4 → NoaDesc) : NoaAhead :=
  tries tsf 5 (extend tsf ⟨desc, 0, false⟩)

end NoaAhead

/-! ## The state -/

namespace NoaData

/-- A descriptor after the loop of `ieee80211_update_p2p_noa`, whose rounds touch one each. -/
def extendTracked (data : NoaData) (tsf : BitVec 32) (i : Fin 4) : NoaDesc :=
  if (data.desc i).count = 0 then data.desc i else ((data.desc i).extend tsf).1

/-- `next_offset` after the loop; the comparison is one of `u32` values. -/
def nextOffset (data : NoaData) (tsf : BitVec 32) : BitVec 32 :=
  (List.finRange 4).foldl
    (fun offset i =>
      let start := (data.extendTracked tsf i).start - tsf
      if (data.desc i).count ≠ 0 ∧ offset > start then start else offset)
    (2 ^ 31 - 1)

/-- `ieee80211_update_p2p_noa` -/
def update (data : NoaData) (tsf : BitVec 32) : NoaData :=
  let desc := data.extendTracked tsf
  let absent := fun i =>
    (data.desc i).count ≠ 0 && ((data.extendTracked tsf i).start - tsf).toInt ≤ 0
  let hasNextTsf := (List.finRange 4).any fun i => (data.desc i).count ≠ 0
  if (List.finRange 4).any absent then
    let ahead := NoaAhead.getAbsentTime tsf desc
    { nextTsf := tsf + ahead.offset
      hasNextTsf := hasNextTsf
      absent := absent
      desc := ahead.desc }
  else
    { nextTsf := tsf + data.nextOffset tsf
      hasNextTsf := hasNextTsf
      absent := absent
      desc := desc }

end NoaData

/-- A round of the loop of `ieee80211_parse_p2p_noa`: what is stored, and whether it counts. -/
def NoaDesc.parse (desc : NoaDesc) (tsf : BitVec 32) : NoaDesc × Bool :=
  if desc.count = 0 ∨ desc.duration = 0 then (⟨0, 0, 0, 0⟩, false)
  else if desc.count > 1 ∧ desc.interval < desc.duration then (desc, false)
  else ((desc.extend tsf).1, true)

/-- The number of descriptors that count. -/
def noaParsed (attr : Fin 4 → NoaDesc) (tsf : BitVec 32) : ℕ :=
  (List.finRange 4).countP fun i => ((attr i).parse tsf).2

/-- `ieee80211_parse_p2p_noa` -/
def parseP2pNoa (attr : Fin 4 → NoaDesc) (tsf : BitVec 32) : NoaData :=
  let data : NoaData := ⟨0, false, fun _ => false, fun i => ((attr i).parse tsf).1⟩
  if noaParsed attr tsf ≠ 0 then data.update tsf else data

end IwlwifiStack
