import IwlwifiStack.RegDomainModel
import IwlwifiStack.RunMerging

/-!
# Which channels the regulatory domain permits

The loop over the channels merges the valid ones into runs.  Two neighbouring
valid channels are one run when they have the same flags and their centres are
at most 20 MHz apart.  At 5 and 6 GHz only adjacent channels of the list are
that close.  At 2.4 GHz up to three invalid channels fit in between, and the
rule then contains them as well.
-/

namespace IwlwifiStack

open RunMerging

def listedFrequency (channel : ℕ) (band : Band) : ℕ :=
  if band = .ghz2 then
    if channel = 14 then 2484 else 2407 + 5 * channel
  else if band = .ghz5 then 5000 + 5 * channel
  else 5950 + 5 * channel

def listedChannel (channel : ℕ) (band : Band) : Prop :=
  match band with
  | .ghz2 => 1 ≤ channel ∧ channel ≤ 14
  | .ghz5 => 1 ≤ channel ∧ channel ≤ 181
  | .ghz6 => 1 ≤ channel ∧ channel ≤ 253 ∧ channel ≠ 2
  | .other => False

instance (channel : ℕ) (band : Band) : Decidable (listedChannel channel band) := by
  unfold listedChannel
  split <;> infer_instance

/-- What `ieee80211_channel_to_frequency` returns for the channels in use. -/
def ChannelFrequency (channelToFrequency : ℕ → Band → ℕ) : Prop :=
  ∀ channel band, listedChannel channel band →
    channelToFrequency channel band = listedFrequency channel band

def listedCenter (nvmChan : List ℕ) (chIdx : ℕ) : ℕ :=
  listedFrequency (nvmChan.getD chIdx 0) (iwlNl80211BandFromChannelIdx chIdx)

def RisingCenters (nvmChan : List ℕ) (bound : ℕ) : Prop :=
  ∀ chIdx, chIdx + 1 < bound →
    listedCenter nvmChan chIdx +
        (if iwlNl80211BandFromChannelIdx chIdx =
          iwlNl80211BandFromChannelIdx (chIdx + 1) then 0 else 20) <
      listedCenter nvmChan (chIdx + 1)

theorem iwlNvmChannels_rising : RisingCenters iwlNvmChannels 39 := by
  have hrising : ∀ chIdx < 39, chIdx + 1 < 39 →
      listedCenter iwlNvmChannels chIdx +
          (if iwlNl80211BandFromChannelIdx chIdx =
            iwlNl80211BandFromChannelIdx (chIdx + 1) then 0 else 20) <
        listedCenter iwlNvmChannels (chIdx + 1) := by
    decide +kernel
  exact fun chIdx hlt => hrising chIdx (by omega) hlt

theorem iwlUnii9NvmChannels_rising : RisingCenters iwlUnii9NvmChannels 115 := by
  have hrising : ∀ chIdx < 115, chIdx + 1 < 115 →
      listedCenter iwlUnii9NvmChannels chIdx +
          (if iwlNl80211BandFromChannelIdx chIdx =
            iwlNl80211BandFromChannelIdx (chIdx + 1) then 0 else 20) <
        listedCenter iwlUnii9NvmChannels (chIdx + 1) := by
    decide +kernel
  exact fun chIdx hlt => hrising chIdx (by omega) hlt

theorem iwlNvmChannels_listed : ∀ chIdx < 39,
    listedChannel (iwlNvmChannels.getD chIdx 0)
      (iwlNl80211BandFromChannelIdx chIdx) := by
  decide +kernel

theorem iwlUnii9NvmChannels_listed : ∀ chIdx < 115,
    listedChannel (iwlUnii9NvmChannels.getD chIdx 0)
      (iwlNl80211BandFromChannelIdx chIdx) := by
  decide +kernel

theorem listedCenter_first (nvmChan : List ℕ) (chIdx : ℕ) :
    2407 ≤ listedCenter nvmChan chIdx := by
  simp only [listedCenter, listedFrequency]
  split_ifs <;> omega

namespace RisingCenters

variable {nvmChan : List ℕ} {bound : ℕ}

theorem apart (hrising : RisingCenters nvmChan bound) {first second : ℕ}
    (hlt : first < second) (hbound : second < bound) :
    listedCenter nvmChan first +
        (if iwlNl80211BandFromChannelIdx first =
          iwlNl80211BandFromChannelIdx second then 0 else 20) <
      listedCenter nvmChan second := by
  induction second with
  | zero => omega
  | succ second ih =>
      have hstep := hrising second hbound
      rcases Nat.lt_succ_iff_lt_or_eq.mp hlt with hbefore | heq
      · have hprevious := ih hbefore (by omega)
        by_cases hband : iwlNl80211BandFromChannelIdx second =
            iwlNl80211BandFromChannelIdx (second + 1)
        · rw [← hband]
          omega
        · rw [if_neg hband] at hstep
          split_ifs at hprevious ⊢ <;> omega
      · rw [heq]
        exact hstep

end RisingCenters

theorem iwlNl80211BandFromChannelIdx_between {first chIdx last : ℕ}
    (hfirst : first ≤ chIdx) (hlast : chIdx ≤ last)
    (hband : iwlNl80211BandFromChannelIdx first =
      iwlNl80211BandFromChannelIdx last) :
    iwlNl80211BandFromChannelIdx chIdx = iwlNl80211BandFromChannelIdx last := by
  simp only [iwlNl80211BandFromChannelIdx] at hband ⊢
  split_ifs at hband ⊢ <;> first | rfl | omega

theorem IwlRfCfg.list_cases (cfg : IwlRfCfg) :
    (cfg.nvmChan = iwlUnii9NvmChannels ∧ cfg.maxNumCh ≤ 115) ∨
      (cfg.nvmChan = iwlNvmChannels ∧ cfg.maxNumCh ≤ 39) := by
  have hunii9 : iwlUnii9NvmChannels.length = 115 := rfl
  have hplain : iwlNvmChannels.length = 39 := rfl
  rcases cfg with ⟨unii9, uhb, ext⟩
  cases unii9 <;> cases uhb <;> cases ext <;>
    simp [IwlRfCfg.nvmChan, IwlRfCfg.maxNumCh, hunii9, hplain]

namespace MccInfo

variable {info : MccInfo}

theorem channels_rising (info : MccInfo) :
    RisingCenters info.cfg.nvmChan info.cfg.maxNumCh := by
  intro chIdx hlt
  rcases info.cfg.list_cases with ⟨hlist, hbound⟩ | ⟨hlist, hbound⟩
  · rw [hlist]
    exact iwlUnii9NvmChannels_rising chIdx (by omega)
  · rw [hlist]
    exact iwlNvmChannels_rising chIdx (by omega)

theorem channels_listed (info : MccInfo) {chIdx : ℕ}
    (hchIdx : chIdx < info.cfg.maxNumCh) :
    listedChannel (info.cfg.nvmChan.getD chIdx 0)
      (iwlNl80211BandFromChannelIdx chIdx) := by
  rcases info.cfg.list_cases with ⟨hlist, hbound⟩ | ⟨hlist, hbound⟩
  · rw [hlist]
    exact iwlUnii9NvmChannels_listed chIdx (by omega)
  · rw [hlist]
    exact iwlNvmChannels_listed chIdx (by omega)

theorem numOfCh_le (info : MccInfo) : info.numOfCh ≤ info.cfg.maxNumCh :=
  Nat.min_le_right _ _

theorem centerFreq_eq (hfreq : ChannelFrequency info.channelToFrequency)
    {chIdx : ℕ} (hchIdx : chIdx < info.cfg.maxNumCh) :
    info.centerFreq chIdx = listedCenter info.cfg.nvmChan chIdx :=
  hfreq _ _ (info.channels_listed hchIdx)

theorem centerFreq_ge (hfreq : ChannelFrequency info.channelToFrequency)
    {chIdx : ℕ} (hchIdx : chIdx < info.cfg.maxNumCh) :
    2407 ≤ info.centerFreq chIdx := by
  rw [centerFreq_eq hfreq hchIdx]
  exact listedCenter_first _ _

theorem centerFreq_apart (hfreq : ChannelFrequency info.channelToFrequency)
    {first second : ℕ} (hlt : first < second)
    (hsecond : second < info.cfg.maxNumCh) :
    info.centerFreq first +
        (if iwlNl80211BandFromChannelIdx first =
          iwlNl80211BandFromChannelIdx second then 0 else 20) <
      info.centerFreq second := by
  rw [centerFreq_eq hfreq hsecond, centerFreq_eq hfreq (hlt.trans hsecond)]
  exact info.channels_rising.apart hlt hsecond

theorem centerFreq_lt (hfreq : ChannelFrequency info.channelToFrequency)
    {first second : ℕ} (hlt : first < second)
    (hsecond : second < info.cfg.maxNumCh) :
    info.centerFreq first < info.centerFreq second :=
  lt_of_le_of_lt (Nat.le_add_right _ _) (centerFreq_apart hfreq hlt hsecond)

theorem centerFreq_le_iff (hfreq : ChannelFrequency info.channelToFrequency)
    {first second : ℕ} (hfirst : first < info.cfg.maxNumCh)
    (hsecond : second < info.cfg.maxNumCh) :
    info.centerFreq first ≤ info.centerFreq second ↔ first ≤ second := by
  constructor
  · intro hle
    by_contra hlater
    have hlt := centerFreq_lt hfreq (not_le.mp hlater) hfirst
    omega
  · intro hle
    rcases Nat.lt_or_eq_of_le hle with hlt | heq
    · exact (centerFreq_lt hfreq hlt hsecond).le
    · rw [heq]

/-! ## The runs of the loop -/

def joins (info : MccInfo) (first second : ℕ) : Prop :=
  info.regRuleFlags first = info.regRuleFlags second ∧
    info.centerFreq second ≤ info.centerFreq first + 20

instance (info : MccInfo) : DecidableRel info.joins := fun _ _ =>
  inferInstanceAs (Decidable (_ ∧ _))

def ruleOf (info : MccInfo) (run : ℕ × ℕ) : RegRule :=
  info.extendRule run.2 ⟨(info.centerFreq run.1 - 10) * 1000, 0, 0, .zero⟩

def scanOf (info : MccInfo) (runs : List (ℕ × ℕ)) : MccScan :=
  match runs with
  | [] => ⟨[], .zero, 0⟩
  | run :: rest =>
    ⟨(run :: rest).map info.ruleOf, info.regRuleFlags run.2,
      info.centerFreq run.2⟩

theorem scanOf_rules (info : MccInfo) (runs : List (ℕ × ℕ)) :
    (info.scanOf runs).rules = runs.map info.ruleOf := by
  cases runs with
  | nil => rfl
  | cons run rest => rfl

def StartsRule (info : MccInfo) (scan : MccScan) (chIdx : ℕ) : Prop :=
  chIdx = 0 ∨ scan.prevRegRuleFlags ≠ info.regRuleFlags chIdx ∨
    (info.centerFreq chIdx : ℤ) - scan.prevCenterFreq > 20

theorem addChannel_starts {scan : MccScan} {chIdx : ℕ}
    (hcenter : info.centerFreq chIdx ≠ 0) (hvalid : info.isValid chIdx = true)
    (hstarts : info.StartsRule scan chIdx) :
    info.addChannel scan chIdx =
      ⟨info.newRule chIdx :: scan.rules, info.regRuleFlags chIdx,
        info.centerFreq chIdx⟩ := by
  rw [addChannel, if_neg hcenter, if_neg (by simp [hvalid])]
  rw [StartsRule] at hstarts
  dsimp only
  rw [if_pos hstarts]

theorem addChannel_continues {scan : MccScan} {chIdx : ℕ}
    (hcenter : info.centerFreq chIdx ≠ 0) (hvalid : info.isValid chIdx = true)
    (hcontinues : ¬info.StartsRule scan chIdx) {rule : RegRule}
    {rest : List RegRule} (hrules : scan.rules = rule :: rest) :
    info.addChannel scan chIdx =
      ⟨info.extendRule chIdx rule :: rest, info.regRuleFlags chIdx,
        info.centerFreq chIdx⟩ := by
  rw [addChannel, if_neg hcenter, if_neg (by simp [hvalid])]
  rw [StartsRule] at hcontinues
  dsimp only
  rw [if_neg hcontinues, hrules]

theorem startsRule_scanOf {run : ℕ × ℕ} {rest : List (ℕ × ℕ)} {chIdx : ℕ}
    (hlater : run.2 < chIdx) :
    info.StartsRule (info.scanOf (run :: rest)) chIdx ↔
      ¬info.joins run.2 chIdx := by
  simp only [StartsRule, scanOf, joins, not_and_or]
  constructor
  · rintro (hzero | hflags | hfar)
    · omega
    · exact Or.inl hflags
    · exact Or.inr (by omega)
  · rintro (hflags | hfar)
    · exact Or.inr (Or.inl hflags)
    · exact Or.inr (Or.inr (by omega))

theorem addChannel_scanOf (hfreq : ChannelFrequency info.channelToFrequency)
    {runs : List (ℕ × ℕ)} {chIdx : ℕ} (hchIdx : chIdx < info.cfg.maxNumCh)
    (hruns : ∀ run ∈ runs, run.2 < chIdx) :
    info.addChannel (info.scanOf runs) chIdx =
      info.scanOf (addItem info.isValid info.joins runs chIdx) := by
  have hcenter := centerFreq_ge hfreq hchIdx
  have hnonzero : info.centerFreq chIdx ≠ 0 := by omega
  cases hvalid : info.isValid chIdx with
  | false =>
      rw [addItem_invalid hvalid, addChannel, if_neg hnonzero,
        if_pos (by simp [hvalid])]
  | true =>
      cases runs with
      | nil =>
          have hstarts : info.StartsRule (info.scanOf []) chIdx := by
            apply Or.inr
            apply Or.inr
            simp only [scanOf]
            omega
          rw [addItem_first hvalid, addChannel_starts hnonzero hvalid hstarts]
          rfl
      | cons run rest =>
          have hlater := hruns run List.mem_cons_self
          by_cases hjoins : info.joins run.2 chIdx
          · have hcontinues : ¬info.StartsRule (info.scanOf (run :: rest)) chIdx := by
              rw [startsRule_scanOf hlater, not_not]
              exact hjoins
            rw [addItem_joins hvalid hjoins,
              addChannel_continues hnonzero hvalid hcontinues rfl]
            rfl
          · have hstarts : info.StartsRule (info.scanOf (run :: rest)) chIdx :=
              (startsRule_scanOf hlater).mpr hjoins
            rw [addItem_starts hvalid hjoins,
              addChannel_starts hnonzero hvalid hstarts]
            rfl

theorem addChannels_scanOf (hfreq : ChannelFrequency info.channelToFrequency)
    {bound : ℕ} (hbound : bound ≤ info.cfg.maxNumCh) :
    (List.range bound).foldl info.addChannel ⟨[], .zero, 0⟩ =
      info.scanOf (mergedRuns info.isValid info.joins bound) := by
  induction bound with
  | zero => rfl
  | succ bound ih =>
      have hmerged := mergedRuns_merged info.isValid info.joins bound
      rw [List.range_succ, List.foldl_append, ih (by omega), mergedRuns_succ]
      exact addChannel_scanOf hfreq (by omega)
        (fun run hrun => (hmerged.isRun run hrun).lt)

def runs (info : MccInfo) : List (ℕ × ℕ) :=
  mergedRuns info.isValid info.joins info.numOfCh

theorem runs_merged (info : MccInfo) :
    Merged info.isValid info.joins info.numOfCh info.runs :=
  mergedRuns_merged _ _ _

theorem iwlParseNvmMccInfo_rules
    (hfreq : ChannelFrequency info.channelToFrequency)
    {allocates copies : Bool} {rules : List RegRule}
    (hrules : info.iwlParseNvmMccInfo allocates copies = some rules) :
    rules = if info.runs = [] then [dummyRule]
      else (info.runs.map info.ruleOf).reverse := by
  rw [iwlParseNvmMccInfo] at hrules
  dsimp only at hrules
  rw [addChannels_scanOf hfreq info.numOfCh_le, scanOf_rules] at hrules
  split_ifs at hrules with _ _ _ hempty
  · have hnone : info.runs = [] := List.map_eq_nil_iff.mp hempty
    rw [if_pos hnone]
    exact (Option.some.inj hrules).symm
  · have hsome : info.runs ≠ [] := fun hnone => hempty (by
      rw [runs] at hnone
      rw [hnone, List.map_nil])
    rw [if_neg hsome]
    exact (Option.some.inj hrules).symm

theorem ruleOf_mem_iff (hfreq : ChannelFrequency info.channelToFrequency)
    {allocates copies : Bool} {rules : List RegRule}
    (hrules : info.iwlParseNvmMccInfo allocates copies = some rules)
    {rule : RegRule} :
    rule ∈ rules ↔ (info.runs = [] ∧ rule = dummyRule) ∨
      ∃ run ∈ info.runs, rule = info.ruleOf run := by
  rw [iwlParseNvmMccInfo_rules hfreq hrules]
  by_cases hnone : info.runs = []
  · rw [if_pos hnone]
    simp [hnone]
  · rw [if_neg hnone]
    simp [hnone, eq_comm]

/-! ## What a rule permits -/

def contains (info : MccInfo) (rule : RegRule) (chIdx : ℕ) : Bool :=
  decide (rule.startFreqKhz ≤ (info.centerFreq chIdx - 10) * 1000 ∧
    (info.centerFreq chIdx + 10) * 1000 ≤ rule.endFreqKhz)

def covers (info : MccInfo) (rule : RegRule) (chIdx : ℕ) : Prop :=
  rule.startFreqKhz ≤ info.centerFreq chIdx * 1000 ∧
    info.centerFreq chIdx * 1000 ≤ rule.endFreqKhz

/-- What the rules of a device should be. -/
structure RegdomCorrect (info : MccInfo) (rules : List RegRule) : Prop where
  permitted : ∀ chIdx < info.numOfCh,
    (∃ rule ∈ rules, info.contains rule chIdx = true) ↔
      info.isValid chIdx = true
  flags : ∀ chIdx < info.numOfCh, ∀ rule,
    rules.find? (info.contains · chIdx) = some rule →
      rule.flags = { info.regRuleFlags chIdx with autoBw := true }
  oneBand : ∀ rule ∈ rules, ∀ first second, first < info.cfg.maxNumCh →
    second < info.cfg.maxNumCh → info.covers rule first →
      info.covers rule second →
        iwlNl80211BandFromChannelIdx first = iwlNl80211BandFromChannelIdx second
  length_le : (∃ chIdx < info.numOfCh, info.isValid chIdx = true) →
    rules.length ≤ info.numOfCh

/-- Every two neighbouring valid channels that the loop merges are adjacent in
the list. -/
def MergesAdjacent (info : MccInfo) : Prop :=
  ∀ first second, second < info.numOfCh →
    Neighbours info.isValid info.joins first second → second = first + 1

theorem contains_iff {rule : RegRule} {chIdx : ℕ} :
    info.contains rule chIdx = true ↔
      rule.startFreqKhz ≤ (info.centerFreq chIdx - 10) * 1000 ∧
        (info.centerFreq chIdx + 10) * 1000 ≤ rule.endFreqKhz :=
  decide_eq_true_iff

theorem contains_ruleOf (hfreq : ChannelFrequency info.channelToFrequency)
    {run : ℕ × ℕ} (hrun : run ∈ info.runs) {chIdx : ℕ}
    (hchIdx : chIdx < info.numOfCh) :
    info.contains (info.ruleOf run) chIdx = true ↔
      run.1 ≤ chIdx ∧ chIdx ≤ run.2 := by
  have hisRun := info.runs_merged.isRun run hrun
  have hbound := info.numOfCh_le
  have hle := hisRun.le
  have hlt := hisRun.lt
  rw [contains_iff,
    ← centerFreq_le_iff hfreq (by omega : run.1 < info.cfg.maxNumCh) (by omega),
    ← centerFreq_le_iff hfreq (by omega : chIdx < info.cfg.maxNumCh) (by omega)]
  have hfirst := centerFreq_ge hfreq (by omega : run.1 < info.cfg.maxNumCh)
  have hchannel := centerFreq_ge hfreq (by omega : chIdx < info.cfg.maxNumCh)
  simp only [ruleOf, extendRule]
  constructor
  · rintro ⟨hstart, hend⟩
    exact ⟨by omega, by omega⟩
  · rintro ⟨hstart, hend⟩
    exact ⟨by omega, by omega⟩

theorem dummyRule_contains (hfreq : ChannelFrequency info.channelToFrequency)
    {chIdx : ℕ} (hchIdx : chIdx < info.cfg.maxNumCh) :
    ¬info.contains dummyRule chIdx = true := by
  have hcenter := centerFreq_ge hfreq hchIdx
  rw [contains_iff]
  simp only [dummyRule]
  omega

theorem neighbours_sameBand (hfreq : ChannelFrequency info.channelToFrequency)
    {first second : ℕ} (hsecond : second < info.numOfCh)
    (hneighbours : Neighbours info.isValid info.joins first second) :
    iwlNl80211BandFromChannelIdx first =
      iwlNl80211BandFromChannelIdx second := by
  by_contra hband
  have hbound := info.numOfCh_le
  have hapart := centerFreq_apart hfreq hneighbours.lt (by omega)
  rw [if_neg hband] at hapart
  have hnear := hneighbours.joins.2
  omega

theorem covers_ruleOf_band (hfreq : ChannelFrequency info.channelToFrequency)
    {run : ℕ × ℕ} (hrun : run ∈ info.runs) {chIdx : ℕ}
    (hchIdx : chIdx < info.cfg.maxNumCh)
    (hcovers : info.covers (info.ruleOf run) chIdx) :
    iwlNl80211BandFromChannelIdx chIdx =
      iwlNl80211BandFromChannelIdx run.2 := by
  have hisRun := info.runs_merged.isRun run hrun
  have hbound := info.numOfCh_le
  have hle := hisRun.le
  have hlt := hisRun.lt
  have hends : iwlNl80211BandFromChannelIdx run.1 =
      iwlNl80211BandFromChannelIdx run.2 :=
    hisRun.uniform (fun _ _ => neighbours_sameBand hfreq) le_rfl hle
      hisRun.first_valid
  have hstart : info.centerFreq run.1 - 10 ≤ info.centerFreq chIdx := by
    have hge := hcovers.1
    simp only [ruleOf, extendRule] at hge
    omega
  have hend : info.centerFreq chIdx ≤ info.centerFreq run.2 + 10 := by
    have hge := hcovers.2
    simp only [ruleOf, extendRule] at hge
    omega
  by_cases hbefore : chIdx < run.1
  · rw [← hends]
    by_contra hband
    have hapart := centerFreq_apart hfreq hbefore (by omega)
    rw [if_neg hband] at hapart
    omega
  · by_cases hafter : run.2 < chIdx
    · by_contra hband
      have hapart := centerFreq_apart hfreq hafter hchIdx
      rw [if_neg (Ne.symm hband)] at hapart
      omega
    · exact iwlNl80211BandFromChannelIdx_between (by omega) (by omega) hends

theorem covers_dummyRule_band (hfreq : ChannelFrequency info.channelToFrequency)
    {chIdx : ℕ} (hchIdx : chIdx < info.cfg.maxNumCh)
    (hcovers : info.covers dummyRule chIdx) :
    iwlNl80211BandFromChannelIdx chIdx = .ghz2 := by
  have hend := hcovers.2
  rw [centerFreq_eq hfreq hchIdx] at hend
  simp only [dummyRule, listedCenter, listedFrequency] at hend
  split_ifs at hend with hband
  · exact hband
  · exact hband
  · omega
  · omega

theorem between_permitted (hfreq : ChannelFrequency info.channelToFrequency)
    {first second : ℕ} (hsecond : second < info.numOfCh)
    (hneighbours : Neighbours info.isValid info.joins first second)
    {chIdx : ℕ} (hfirst : first ≤ chIdx) (hlast : chIdx ≤ second) :
    ∃ run ∈ info.runs, info.contains (info.ruleOf run) chIdx = true := by
  rcases info.runs_merged.linked first second hsecond hneighbours with
    ⟨run, hrun, hrunFirst, hrunLast⟩
  refine ⟨run, hrun, ?_⟩
  rw [contains_ruleOf hfreq hrun (by omega)]
  omega

theorem valid_of_contains (hfreq : ChannelFrequency info.channelToFrequency)
    (hmerges : info.MergesAdjacent) {run : ℕ × ℕ} (hrun : run ∈ info.runs)
    {chIdx : ℕ} (hchIdx : chIdx < info.numOfCh)
    (hcontains : info.contains (info.ruleOf run) chIdx = true) :
    info.isValid chIdx = true := by
  have hisRun := info.runs_merged.isRun run hrun
  rcases (contains_ruleOf hfreq hrun hchIdx).mp hcontains with ⟨hfirst, hlast⟩
  by_contra hinvalid
  rcases hisRun.gap chIdx hfirst hlast (by simpa using hinvalid) with
    ⟨first, second, hneighbours, hafter, hbefore, hinside⟩
  have hadjacent := hmerges first second (lt_of_le_of_lt hinside hisRun.lt)
    hneighbours
  omega

theorem regdomCorrect_of_mergesAdjacent
    (hfreq : ChannelFrequency info.channelToFrequency)
    {allocates copies : Bool} {rules : List RegRule}
    (hrules : info.iwlParseNvmMccInfo allocates copies = some rules)
    (hmerges : info.MergesAdjacent) : info.RegdomCorrect rules := by
  have hbound := info.numOfCh_le
  -- a rule that contains a channel is the rule of a run
  have hofRun : ∀ rule ∈ rules, ∀ chIdx < info.numOfCh,
      info.contains rule chIdx = true →
        ∃ run ∈ info.runs, rule = info.ruleOf run := by
    intro rule hrule chIdx hchIdx hcontains
    rcases (ruleOf_mem_iff hfreq hrules).mp hrule with ⟨_, hdummy⟩ | hrun
    · rw [hdummy] at hcontains
      exact absurd hcontains (dummyRule_contains hfreq (by omega))
    · exact hrun
  constructor
  case permitted =>
    intro chIdx hchIdx
    constructor
    · rintro ⟨rule, hrule, hcontains⟩
      rcases hofRun rule hrule chIdx hchIdx hcontains with ⟨run, hrun, heq⟩
      rw [heq] at hcontains
      exact valid_of_contains hfreq hmerges hrun hchIdx hcontains
    · intro hvalid
      rcases info.runs_merged.covered chIdx hchIdx hvalid with
        ⟨run, hrun, hinside⟩
      exact ⟨info.ruleOf run,
        (ruleOf_mem_iff hfreq hrules).mpr (Or.inr ⟨run, hrun, rfl⟩),
        (contains_ruleOf hfreq hrun hchIdx).mpr hinside⟩
  case flags =>
    intro chIdx hchIdx rule hfind
    have hcontains := List.find?_some hfind
    rcases hofRun rule (List.mem_of_find?_eq_some hfind) chIdx hchIdx
      hcontains with ⟨run, hrun, heq⟩
    rw [heq] at hcontains
    have hvalid := valid_of_contains hfreq hmerges hrun hchIdx hcontains
    have hinside := (contains_ruleOf hfreq hrun hchIdx).mp hcontains
    have hflags : info.regRuleFlags chIdx = info.regRuleFlags run.2 :=
      (info.runs_merged.isRun run hrun).uniform
        (fun _ _ _ hneighbours => hneighbours.joins.1) hinside.1 hinside.2 hvalid
    rw [heq, hflags]
    rfl
  case oneBand =>
    intro rule hrule first second hfirst hsecond hcoversFirst hcoversSecond
    rcases (ruleOf_mem_iff hfreq hrules).mp hrule with ⟨_, heq⟩ | ⟨run, hrun, heq⟩
    · rw [heq] at hcoversFirst hcoversSecond
      rw [covers_dummyRule_band hfreq hfirst hcoversFirst,
        covers_dummyRule_band hfreq hsecond hcoversSecond]
    · rw [heq] at hcoversFirst hcoversSecond
      rw [covers_ruleOf_band hfreq hrun hfirst hcoversFirst,
        covers_ruleOf_band hfreq hrun hsecond hcoversSecond]
  case length_le =>
    rintro ⟨chIdx, hchIdx, hvalid⟩
    rcases info.runs_merged.covered chIdx hchIdx hvalid with ⟨run, hrun, _⟩
    have hsome : info.runs ≠ [] := List.ne_nil_of_mem hrun
    rw [iwlParseNvmMccInfo_rules hfreq hrules, if_neg hsome, List.length_reverse,
      List.length_map]
    exact info.runs_merged.length_le

/-- The regulatory domain is right exactly when the loop merges no two
channels with an invalid channel between them. -/
theorem regdomCorrect_iff (hfreq : ChannelFrequency info.channelToFrequency)
    {allocates copies : Bool} {rules : List RegRule}
    (hrules : info.iwlParseNvmMccInfo allocates copies = some rules) :
    info.RegdomCorrect rules ↔ info.MergesAdjacent := by
  constructor
  · intro hcorrect first second hsecond hneighbours
    by_contra hgap
    have hlt := hneighbours.lt
    -- the channel after the first is between the two
    have hinvalid := hneighbours.between (first + 1) (by omega) (by omega)
    rcases between_permitted hfreq hsecond hneighbours
      (by omega : first ≤ first + 1) (by omega) with ⟨run, hrun, hcontains⟩
    have hvalid := (hcorrect.permitted (first + 1) (by omega)).mp
      ⟨info.ruleOf run,
        (ruleOf_mem_iff hfreq hrules).mpr (Or.inr ⟨run, hrun, rfl⟩), hcontains⟩
    rw [hinvalid] at hvalid
    contradiction
  · exact regdomCorrect_of_mergesAdjacent hfreq hrules

/-! ## Four channels -/

section Samples

def sampleInfo (channels : List (BitVec 32)) : MccInfo where
  cfg := ⟨true, false, false⟩
  channelToFrequency := listedFrequency
  maxSuppRegRules := 128
  channels := channels
  cap := 0
  respVer := 8

/-- Channels 2 and 3 are not valid, and the one rule contains them. -/
theorem mergedChannels_permitted :
    ∃ info : MccInfo, ∃ rules, ChannelFrequency info.channelToFrequency ∧
      info.iwlParseNvmMccInfo true true = some rules ∧
      (∃ rule ∈ rules, info.contains rule 1 = true ∧ info.contains rule 2 = true) ∧
      info.isValid 1 = false ∧ info.isValid 2 = false ∧
      ¬info.RegdomCorrect rules := by
  refine ⟨sampleInfo [1, 0, 0, 1], [(sampleInfo [1, 0, 0, 1]).ruleOf (0, 3)],
    fun _ _ _ => rfl, by decide +kernel, ?_, by decide +kernel,
    by decide +kernel, ?_⟩
  · exact ⟨_, List.mem_singleton_self _, by decide +kernel, by decide +kernel⟩
  · intro hcorrect
    have hvalid := (hcorrect.permitted 1 (by decide +kernel)).mp
      ⟨_, List.mem_singleton_self _, by decide +kernel⟩
    have hinvalid : (sampleInfo [1, 0, 0, 1]).isValid 1 = false := by
      decide +kernel
    rw [hinvalid] at hvalid
    contradiction

theorem regdomCorrect_iff_sample :
    (∃ rules, (sampleInfo [1, 1, 0, 0]).iwlParseNvmMccInfo true true =
      some rules ∧ ((sampleInfo [1, 1, 0, 0]).RegdomCorrect rules ↔
        (sampleInfo [1, 1, 0, 0]).MergesAdjacent)) := by
  have hrules : (sampleInfo [1, 1, 0, 0]).iwlParseNvmMccInfo true true =
      some [(sampleInfo [1, 1, 0, 0]).ruleOf (0, 1)] := by
    decide +kernel
  exact ⟨_, hrules, regdomCorrect_iff (fun _ _ _ => rfl) hrules⟩

end Samples

end MccInfo

end IwlwifiStack
