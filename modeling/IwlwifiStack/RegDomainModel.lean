import IwlwifiStack.LinkSelectModel

/-!
# The regulatory domain of the firmware

`iwl_parse_nvm_mcc_info` builds a rule for every run of neighbouring channels
that the firmware allows with the same flags.  Rule flags are the named bits of
`enum nl80211_reg_rule_flags` that the driver uses; `NL80211_RRF_NO_UHR` is 0
in this source.  Antenna gain, power and WMM limits of a rule are left out.

`ieee80211_channel_to_frequency` and `NL80211_MAX_SUPP_REG_RULES` belong to
cfg80211 and are parameters.
-/

namespace IwlwifiStack

/-! ## Channels -/

def iwlNvmChannels : List ℕ :=
  [1, 2, 3, 4, 5, 6, 7, 8, 9, 10, 11, 12, 13, 14,
    36, 40, 44, 48, 52, 56, 60, 64,
    100, 104, 108, 112, 116, 120, 124, 128, 132, 136, 140, 144,
    149, 153, 157, 161, 165]

def iwlUnii9NvmChannels : List ℕ :=
  [1, 2, 3, 4, 5, 6, 7, 8, 9, 10, 11, 12, 13, 14,
    36, 40, 44, 48, 52, 56, 60, 64, 68, 72, 76, 80, 84, 88, 92,
    96, 100, 104, 108, 112, 116, 120, 124, 128, 132, 136, 140, 144,
    149, 153, 157, 161, 165, 169, 173, 177, 181,
    1, 5, 9, 13, 17, 21, 25, 29, 33, 37, 41, 45, 49, 53, 57, 61, 65, 69,
    73, 77, 81, 85, 89, 93, 97, 101, 105, 109, 113, 117, 121, 125, 129,
    133, 137, 141, 145, 149, 153, 157, 161, 165, 169, 173, 177, 181, 185,
    189, 193, 197, 201, 205, 209, 213, 217, 221, 225, 229, 233,
    237, 241, 245, 249, 253]

/-- The fields of `struct iwl_rf_cfg` that name the list of a device. -/
structure IwlRfCfg where
  unii9Supported : Bool
  uhbSupported : Bool
  nvmExt : Bool

def IwlRfCfg.maxNumCh (cfg : IwlRfCfg) : ℕ :=
  if cfg.unii9Supported then iwlUnii9NvmChannels.length
  else if cfg.uhbSupported then 110
  else if cfg.nvmExt then 51
  else iwlNvmChannels.length

def IwlRfCfg.nvmChan (cfg : IwlRfCfg) : List ℕ :=
  if cfg.unii9Supported || cfg.uhbSupported || cfg.nvmExt then
    iwlUnii9NvmChannels
  else iwlNvmChannels

/-- There are 14 channels of 2.4 GHz and 37 of 5 GHz. -/
def iwlNl80211BandFromChannelIdx (chIdx : ℕ) : Band :=
  if chIdx ≥ 14 + 37 then .ghz6
  else if chIdx ≥ 14 then .ghz5
  else .ghz2

/-! ## Flags -/

/-- `enum iwl_nvm_channel_flags`. -/
inductive NvmChannelFlag
  | valid
  | ibss
  | allow20MhzActivity
  | active
  | radar
  | indoorOnly
  | goConcurrent
  | uniform
  | mhz20
  | mhz40
  | mhz80
  | mhz160
  | dcHigh
  | vlp
  | afc
  | vlpApNotAllowed
  deriving DecidableEq, Repr

def NvmChannelFlag.bit : NvmChannelFlag → ℕ
  | .valid => 0
  | .ibss => 1
  | .allow20MhzActivity => 2
  | .active => 3
  | .radar => 4
  | .indoorOnly => 5
  | .goConcurrent => 6
  | .uniform => 7
  | .mhz20 => 8
  | .mhz40 => 9
  | .mhz80 => 10
  | .mhz160 => 11
  | .dcHigh => 12
  | .vlp => 13
  | .afc => 14
  | .vlpApNotAllowed => 15

def nvmFlag (flags : BitVec 16) (flag : NvmChannelFlag) : Bool :=
  flags.getLsbD flag.bit

/-- Flags of a rule; all false is 0. -/
structure RegRuleFlags where
  noHt40Plus : Bool
  noHt40Minus : Bool
  no80Mhz : Bool
  no160Mhz : Bool
  no320Mhz : Bool
  noIr : Bool
  dfs : Bool
  noOutdoor : Bool
  allow20MhzActivity : Bool
  goConcurrent : Bool
  dfsConcurrent : Bool
  allow6GhzVlpAp : Bool
  no6GhzVlpClient : Bool
  no6GhzAfcClient : Bool
  noHe : Bool
  noEht : Bool
  autoBw : Bool
  deriving DecidableEq, Repr

def RegRuleFlags.zero : RegRuleFlags :=
  ⟨false, false, false, false, false, false, false, false, false, false, false,
    false, false, false, false, false, false⟩

/-- `struct iwl_reg_capa`. -/
structure IwlRegCapa where
  allow40Mhz : Bool
  allow80Mhz : Bool
  allow160Mhz : Bool
  allow320Mhz : Bool
  disable11ax : Bool
  disable11be : Bool
  disable11bn : Bool
  deriving DecidableEq, Repr

/-- The bits of the capability word differ between three formats. -/
def iwlGetRegCapa (flags : BitVec 32) (respVer : ℕ) : IwlRegCapa :=
  if respVer ≥ 8 then
    { allow40Mhz := true
      allow80Mhz := flags.getLsbD 4
      allow160Mhz := flags.getLsbD 3
      allow320Mhz := flags.getLsbD 16
      disable11ax := flags.getLsbD 13
      disable11be := flags.getLsbD 8
      disable11bn := flags.getLsbD 17 }
  else if respVer ≥ 6 then
    { allow40Mhz := flags.getLsbD 8
      allow80Mhz := flags.getLsbD 4
      allow160Mhz := flags.getLsbD 3
      allow320Mhz := false
      disable11ax := flags.getLsbD 10
      disable11be := false
      disable11bn := false }
  else
    { allow40Mhz := !flags.getLsbD 7
      allow80Mhz := flags.getLsbD 3
      allow160Mhz := flags.getLsbD 2
      allow320Mhz := false
      disable11ax := flags.getLsbD 10
      disable11be := false
      disable11bn := false }

/-- Whether HT40 with the extension above, below is allowed on the channel. -/
def ht40Allowed (nvmChan : List ℕ) (chIdx : ℕ) (nvmFlags : BitVec 16) :
    Bool × Bool :=
  if !nvmFlag nvmFlags .mhz40 then (false, false)
  else if chIdx < 14 then
    (decide (nvmChan.getD chIdx 0 ≤ 9), decide (nvmChan.getD chIdx 0 ≥ 5))
  else if chIdx < 14 + 37 then
    (decide ((chIdx - 14) % 2 = 0), decide ((chIdx - 14) % 2 ≠ 0))
  else (true, true)

def iwlNvmGetRegdomBwFlags (nvmChan : List ℕ) (chIdx : ℕ)
    (nvmFlags : BitVec 16) (regCapa : IwlRegCapa) : RegRuleFlags :=
  let ht40 := ht40Allowed nvmChan chIdx nvmFlags
  let wide := decide (chIdx ≥ 14)
  let noIr := !nvmFlag nvmFlags .active
  let radar := nvmFlag nvmFlags .radar
  let go := nvmFlag nvmFlags .goConcurrent
  let vlp := nvmFlag nvmFlags .vlp
  { noHt40Plus := !ht40.1 || (wide && !regCapa.allow40Mhz)
    noHt40Minus := !ht40.2 || (wide && !regCapa.allow40Mhz)
    no80Mhz := !nvmFlag nvmFlags .mhz80 || (wide && !regCapa.allow80Mhz)
    no160Mhz := !nvmFlag nvmFlags .mhz160 || (wide && !regCapa.allow160Mhz)
    no320Mhz := wide && !regCapa.allow320Mhz
    -- once marked as DFS with concurrent GO, no-ir is not needed
    noIr := noIr && !(go && radar)
    dfs := radar
    noOutdoor := nvmFlag nvmFlags .indoorOnly
    allow20MhzActivity := nvmFlag nvmFlags .allow20MhzActivity && noIr
    goConcurrent := go && noIr
    dfsConcurrent := go && radar
    allow6GhzVlpAp := vlp && !nvmFlag nvmFlags .vlpApNotAllowed
    no6GhzVlpClient := !vlp
    no6GhzAfcClient := !nvmFlag nvmFlags .afc
    noHe := regCapa.disable11ax
    noEht := regCapa.disable11be
    autoBw := false }

/-! ## Rules -/

/-- The range of `struct ieee80211_reg_rule` in kHz, and its flags. -/
structure RegRule where
  startFreqKhz : ℕ
  endFreqKhz : ℕ
  maxBandwidthKhz : ℕ
  flags : RegRuleFlags
  deriving DecidableEq, Repr

/-- What the loop carries from channel to channel; the rule written last is
the first of the list. -/
structure MccScan where
  rules : List RegRule
  prevRegRuleFlags : RegRuleFlags
  prevCenterFreq : ℤ

/-- What comes from outside of the function. -/
structure MccInfo where
  cfg : IwlRfCfg
  channelToFrequency : ℕ → Band → ℕ
  maxSuppRegRules : ℕ
  channels : List (BitVec 32)
  cap : BitVec 32
  respVer : ℕ

namespace MccInfo

def numOfCh (info : MccInfo) : ℕ :=
  min info.channels.length info.cfg.maxNumCh

/-- The flag word of a channel, as a u16. -/
def chFlags (info : MccInfo) (chIdx : ℕ) : BitVec 16 :=
  (info.channels.getD chIdx 0).setWidth 16

def centerFreq (info : MccInfo) (chIdx : ℕ) : ℕ :=
  info.channelToFrequency (info.cfg.nvmChan.getD chIdx 0)
    (iwlNl80211BandFromChannelIdx chIdx)

def regRuleFlags (info : MccInfo) (chIdx : ℕ) : RegRuleFlags :=
  iwlNvmGetRegdomBwFlags info.cfg.nvmChan chIdx (info.chFlags chIdx)
    (iwlGetRegCapa info.cap info.respVer)

def isValid (info : MccInfo) (chIdx : ℕ) : Bool :=
  nvmFlag (info.chFlags chIdx) .valid

/-- The last rule, extended to the channel. -/
def extendRule (info : MccInfo) (chIdx : ℕ) (rule : RegRule) : RegRule :=
  { rule with
    endFreqKhz := (info.centerFreq chIdx + 10) * 1000
    maxBandwidthKhz := 0
    flags := { info.regRuleFlags chIdx with autoBw := true } }

def newRule (info : MccInfo) (chIdx : ℕ) : RegRule :=
  info.extendRule chIdx ⟨(info.centerFreq chIdx - 10) * 1000, 0, 0, .zero⟩

/-- One pass of the loop.  The last rule is extended only after one was
written: the first valid channel is far from the frequency 0. -/
def addChannel (info : MccInfo) (scan : MccScan) (chIdx : ℕ) : MccScan :=
  if info.centerFreq chIdx = 0 then scan
  else if !info.isValid chIdx then scan
  else
    let rules :=
      if chIdx = 0 ∨ scan.prevRegRuleFlags ≠ info.regRuleFlags chIdx ∨
          (info.centerFreq chIdx : ℤ) - scan.prevCenterFreq > 20 then
        info.newRule chIdx :: scan.rules
      else
        match scan.rules with
        | [] => []
        | rule :: rest => info.extendRule chIdx rule :: rest
    ⟨rules, info.regRuleFlags chIdx, info.centerFreq chIdx⟩

/-- The rule written when no channel is valid. -/
def dummyRule : RegRule :=
  ⟨2412 * 1000, 2413 * 1000, 1000, .zero⟩

/-- `iwl_parse_nvm_mcc_info`: the rules in the order of the array, `none` for
an error. -/
def iwlParseNvmMccInfo (info : MccInfo) (allocates copies : Bool) :
    Option (List RegRule) :=
  if info.numOfCh > info.maxSuppRegRules then none
  else if !allocates then none
  else
    let scan := (List.range info.numOfCh).foldl info.addChannel ⟨[], .zero, 0⟩
    if !copies then none
    else if scan.rules = [] then some [dummyRule]
    else some scan.rules.reverse

end MccInfo

end IwlwifiStack
