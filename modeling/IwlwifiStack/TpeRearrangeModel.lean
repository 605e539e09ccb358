import IwlwifiStack.LinkSelectModel
import IwlwifiStack.TxPowerEnvelope

/-!
# Power limits of the used channel

`ieee80211_rearrange_tpe_psd` puts the limits of an envelope, which come in an
order of their own, in the order of the 20 MHz subchannels in use.

`nl80211_chan_width_to_mhz`, `cfg80211_chandef_primary` and
`cfg80211_chandef_valid` belong to cfg80211 and are parameters.
-/

namespace IwlwifiStack

/-- The fields of `struct cfg80211_chan_def` in use; `chan` is the centre of
the primary channel. -/
structure TpeChandef where
  chan : ℕ
  width : ChanWidth
  centerFreq1 : ℕ
  centerFreq2 : ℕ
  punctured : ℕ
  deriving DecidableEq, Repr

structure TpeCfg80211 where
  chanWidthToMhz : ChanWidth → ℕ
  /-- The new centre, and the new puncturing. -/
  chandefPrimary : TpeChandef → ChanWidth → ℕ × ℕ
  chandefValid : TpeChandef → Bool

section Downgrade

variable (env : TpeCfg80211)

def ieee80211ChandefNumSubchans (c : TpeChandef) : ℕ :=
  if c.width = .w80p80 then 4 + 4 else env.chanWidthToMhz c.width / 20

def toPrimary (c : TpeChandef) (width : ChanWidth) : TpeChandef :=
  { c with
    width := width
    centerFreq1 := (env.chandefPrimary c width).1
    punctured := (env.chandefPrimary c width).2 }

/-- `ieee80211_chandef_downgrade` up to `goto again`. -/
def downgradeOnce (c : TpeChandef) : TpeChandef :=
  match c.width with
  | .w20NoHt | .w20 => { c with width := .w20NoHt, punctured := 0 }
  | .w40 => { c with width := .w20, centerFreq1 := c.chan, punctured := 0 }
  | .w80 => toPrimary env c .w40
  | .w80p80 => { c with width := .w80, centerFreq2 := 0 }
  | .w160 => toPrimary env c .w80
  | .w320 => toPrimary env c .w160
  | .w1 | .w2 | .w4 | .w8 | .w16 | .w5 | .w10 => c

/-- How often a downgrade can be repeated: at 20 MHz nothing is punctured. -/
def ChanWidth.repeats : ChanWidth → ℕ
  | .w80 => 1
  | .w80p80 => 2
  | .w160 => 2
  | .w320 => 3
  | _ => 0

/-- Whether the downgraded channel is downgraded again, for its puncturing. -/
def Repeats (c : TpeChandef) : Prop :=
  env.chandefValid (downgradeOnce env c) = false ∧
    (downgradeOnce env c).punctured ≠ 0

instance (c : TpeChandef) : Decidable (Repeats env c) :=
  inferInstanceAs (Decidable (_ ∧ _))

def downgradeAgain : ℕ → TpeChandef → TpeChandef
  | 0, c => downgradeOnce env c
  | repeats + 1, c =>
    if Repeats env c then downgradeAgain repeats (downgradeOnce env c)
    else downgradeOnce env c

def ieee80211ChandefDowngrade (c : TpeChandef) : TpeChandef :=
  downgradeAgain env c.width.repeats c

/-- The loop of `ieee80211_calc_chandef_subchan_offset`; every downgrade takes
a subchannel at least. -/
def subchanOffsetLoop (nPartial : ℕ) : ℕ → TpeChandef → ℕ → ℕ
  | 0, _, offset => offset
  | fuel + 1, tmp, offset =>
    if ieee80211ChandefNumSubchans env tmp > nPartial then
      let next := ieee80211ChandefDowngrade env tmp
      subchanOffsetLoop nPartial fuel next
        (if tmp.centerFreq1 < next.centerFreq1 then
          offset + ieee80211ChandefNumSubchans env next
        else offset)
    else offset

def ieee80211CalcChandefSubchanOffset (ap : TpeChandef) (nPartial : ℕ) : ℕ :=
  let n := ieee80211ChandefNumSubchans env ap
  if n = nPartial then 0
  else if n < nPartial then 0
  else
    let offset := subchanOffsetLoop env nPartial n ap 0
    if ap.width = .w80p80 ∧ ap.centerFreq2 < ap.centerFreq1 then offset + 4
    else offset

end Downgrade

/-- `IEEE80211_TPE_PSD_NO_LIMIT`, `IEEE80211_TPE_PSD_ENTRIES_320MHZ`. -/
def tpePsdNoLimit : UInt8 := 127

def tpePsdEntries320 : ℕ := 16

def TpeTable.limitCount (psd : TpeTable) (needed : ℕ) : TpeTable :=
  if needed < psd.count then { psd with count := needed } else psd

/-- The entry of `power` for a subchannel of the AP. -/
def apOrderEntry (psd : TpeTable) (offset i : ℕ) : Option UInt8 :=
  if i < offset then psd.power[i + psd.n]?
  else if i < offset + psd.n then psd.power[i - offset]?
  else psd.power[i]?

/-- `ieee80211_rearrange_tpe_psd`, none for an access outside of an array or to
an entry of `tmp` that was not written. -/
def ieee80211RearrangeTpePsd (env : TpeCfg80211) (psd : TpeTable)
    (ap used : TpeChandef) : Option TpeTable :=
  let needed := ieee80211ChandefNumSubchans env used
  let haveCount := ieee80211ChandefNumSubchans env ap
  if !psd.valid then some psd
  else if psd.n = 0 then some (psd.limitCount needed)
  else if tpePsdEntries320 < haveCount ∨ tpePsdEntries320 < needed then none
  else do
    let nOffset := ieee80211CalcChandefSubchanOffset env ap psd.n
    let tmp ← (List.range haveCount).mapM (apOrderEntry psd nOffset)
    let offset := ieee80211CalcChandefSubchanOffset env ap needed
    let power ← (List.range needed).mapM fun i => tmp[offset + i]?
    some (TpeTable.limitCount { psd with
      power := copyAt (List.replicate tpePsdEntries320 tpePsdNoLimit) 0 power }
      needed)

end IwlwifiStack
