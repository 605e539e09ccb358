import IwlwifiStack.LinkSelection

/-!
# Grades without truncation

The grade of a link is at most 16 times the highest grade of the table, so the
u16 of the selection holds it, and a product with a load of at most 255 fits an
unsigned int.  The one product no bound stands behind is the share of the
channel load the firmware reports as caused by us.

A higher grade of one link gives the pair a higher grade while the same link
stays the primary one.  A link that becomes the primary brings its own load
with it.
-/

namespace IwlwifiStack

variable {env : Cfg80211} {mld : IwlMld} {vif : MldVif env}

/-! ## The formulas over the integers -/

def exactChanLoad (conf : BssConf env) (link : Option MldLink) : ℤ :=
  match conf.bssLoad with
  | some load =>
      let byUs : ℤ := (iwlMldGetChanLoadByUs link : ℤ) * 256 / 100
      if byUs ≤ load.val then load.val - byUs else load.val
  | none => (iwlMldGetDefaultChanLoad conf : ℤ) * 256 / 100

def exactNSubchannels (chandef : ChanDef env) : ℤ :=
  let mhz := env.chanWidthToMhz chandef.width
  if mhz < 20 ∨ mhz > 320 then 1
  else if 80 ≤ mhz then mhz / 20 - hweight16 chandef.punctured
  else mhz / 20

def exactLinkGrade (conf : BssConf env) (link : Option MldLink) : ℤ :=
  if conf.chandef.band = .other then 0
  else
    let grade : ℤ := rssiGrade conf.chandef.band
      (gradedRssi conf.chandef.band conf.signal)
    grade * (256 - exactChanLoad conf link) / 256 *
      exactNSubchannels conf.chandef

def exactOrderedGrade (mld : IwlMld) (vif : MldVif env)
    (confA confB : BssConf env) (a b : ℕ) : ℤ :=
  if iwlMldEmlsrPairState mld vif (linkSelData confA (vif.link a) a)
      (linkSelData confB (vif.link b) b) ≠ 0 then 0
  else
    exactLinkGrade confA (vif.link a) +
      exactLinkGrade confB (vif.link b) * exactChanLoad confA (vif.link a) / 256

def exactEmlsrGrade (mld : IwlMld) (vif : MldVif env)
    (confA confB : BssConf env) (a b : ℕ) : ℤ :=
  if exactLinkGrade confB (vif.link b) > exactLinkGrade confA (vif.link a) then
    exactOrderedGrade mld vif confB confA b a
  else exactOrderedGrade mld vif confA confB a b

/-- The share of the load caused by us, as the firmware reports it in percent,
does not wrap when it is scaled. -/
def ShareFits (link : Option MldLink) : Prop :=
  iwlMldGetChanLoadByUs link * 256 < 2 ^ 32

/-! ## A link -/

theorem chanLoad_exact (conf : BssConf env) {link : Option MldLink}
    (hshare : ShareFits link) :
    (iwlMldGetChanLoad conf link : ℤ) = exactChanLoad conf link := by
  have hbyUs : (normalizePercentTo255 (iwlMldGetChanLoadByUs link) : ℤ) =
      (iwlMldGetChanLoadByUs link : ℤ) * 256 / 100 := by
    rw [normalizePercentTo255, Nat.mod_eq_of_lt hshare]
    push_cast
    rfl
  unfold iwlMldGetChanLoad iwlMldGetChanLoadByOthers exactChanLoad
  cases hload : conf.bssLoad with
  | some load =>
      simp only [Option.map_some]
      rw [← hbyUs]
      split_ifs <;> omega
  | none =>
      simp only [Option.map_none, iwlMldGetDefaultChanLoad]
      cases conf.chandef.band <;> decide

theorem nSubchannels_exact (chandef : ChanDef env) :
    (iwlMldGetNSubchannels chandef : ℤ) = exactNSubchannels chandef := by
  have hpunctured := chandef.punctured_le
  unfold iwlMldGetNSubchannels exactNSubchannels
  simp only
  split_ifs with hinvalid hwide
  · norm_num
  · have hle := hpunctured hwide
    rw [Int.emod_eq_of_lt (by omega) (by omega)]
    omega
  · omega

theorem linkGrade_exact (conf : BssConf env) {link : Option MldLink}
    (hshare : ShareFits link) :
    (iwlMldGetLinkGrade conf link : ℤ) = exactLinkGrade conf link := by
  have hload := chanLoad_exact conf hshare
  have hlt := chanLoad_lt conf link
  have hrssi := rssiGrade_le conf.chandef.band
    (gradedRssi conf.chandef.band conf.signal)
  have hn := nSubchannels_le conf.chandef
  unfold iwlMldGetLinkGrade exactLinkGrade
  rw [← hload, ← nSubchannels_exact]
  split_ifs with hband
  · rfl
  · have havail : iwlMldGetAvailChanLoad conf link ≤ 256 := Nat.sub_le _ _
    have hscaled := Nat.mul_le_mul hrssi havail
    have hloaded : rssiGrade conf.chandef.band
        (gradedRssi conf.chandef.band conf.signal) *
          iwlMldGetAvailChanLoad conf link / 256 ≤ 3442 := by omega
    have hgrade := Nat.mul_le_mul hloaded hn
    dsimp only
    rw [Nat.mod_eq_of_lt (hscaled.trans_lt (by norm_num)),
      Nat.mod_eq_of_lt (hgrade.trans_lt (by norm_num))]
    rw [iwlMldGetAvailChanLoad]
    push_cast [Nat.cast_sub hlt.le]
    rfl

theorem linkGrade_lt (conf : BssConf env) (link : Option MldLink) :
    iwlMldGetLinkGrade conf link < 2 ^ 16 := by
  have hbound := linkGrade_mul_le conf link
  omega

theorem linkSelData_grade (conf : BssConf env) (link : Option MldLink)
    (linkId : ℕ) :
    (linkSelData conf link linkId).grade = iwlMldGetLinkGrade conf link :=
  Nat.mod_eq_of_lt (linkGrade_lt conf link)

/-! ## A pair -/

def primaryLoad (vif : MldVif env) (primary : LinkSelData env) : ℕ :=
  match vif.linkConf primary.linkId with
  | none => 0
  | some conf => iwlMldGetChanLoad conf (vif.link primary.linkId)

theorem pairState_conf {a b : LinkSelData env}
    (hallowed : iwlMldEmlsrPairState mld vif a b = 0) :
    ∃ conf, vif.linkConf a.linkId = some conf := by
  cases hconf : vif.linkConf a.linkId with
  | some conf => exact ⟨conf, rfl⟩
  | none =>
      have hinvalid : iwlMldEmlsrDisallowedWithLink mld vif a =
          EmlsrExit.invalid.mask := by
        simp only [iwlMldEmlsrDisallowedWithLink, hconf]
      have hne : EmlsrExit.invalid.mask ≠ 0 := by decide
      simp only [iwlMldEmlsrPairState, hinvalid] at hallowed
      rw [if_pos hne] at hallowed
      exact absurd hallowed hne

theorem weightedSum_fits {primary secondary load : ℕ}
    (hprimary : primary < 2 ^ 16) (hsecondary : secondary < 2 ^ 16)
    (hload : load < 256) :
    (primary + secondary * load % 2 ^ 32 / 256) % 2 ^ 32 =
      primary + secondary * load / 256 := by
  have hproduct : secondary * load ≤ 2 ^ 16 * 256 :=
    Nat.mul_le_mul hsecondary.le hload.le
  rw [Nat.mod_eq_of_lt (by omega : secondary * load < 2 ^ 32)]
  exact Nat.mod_eq_of_lt (by omega)

theorem emlsrGrade_of_allowed {a b : LinkSelData env} (ha : a.grade < 2 ^ 16)
    (hb : b.grade < 2 ^ 16) (hallowed : PairAllowed mld vif a b) :
    (iwlMldGetEmlsrGrade mld vif a b).1 =
      (emlsrOrder a b).1.grade +
        (emlsrOrder a b).2.grade * primaryLoad vif (emlsrOrder a b).1 / 256 := by
  rcases pairState_conf hallowed with ⟨conf, hconf⟩
  have hprimary : (emlsrOrder a b).1.grade < 2 ^ 16 := by
    rcases emlsrOrder_cases a b with h | h <;> rw [h] <;> assumption
  have hsecondary : (emlsrOrder a b).2.grade < 2 ^ 16 := by
    rcases emlsrOrder_cases a b with h | h <;> rw [h] <;> assumption
  have hnot : ¬ iwlMldEmlsrPairState mld vif (emlsrOrder a b).1
      (emlsrOrder a b).2 ≠ 0 := fun h => h hallowed
  simp only [iwlMldGetEmlsrGrade, primaryLoad]
  rw [if_neg hnot, hconf]
  exact weightedSum_fits hprimary hsecondary (chanLoad_lt conf _)

theorem emlsrGrade_exact_ordered {mld : IwlMld} {vif : MldVif env}
    {x y : LinkSelData env} {confP confS : BssConf env} {p s : ℕ}
    (hx : x.grade < 2 ^ 16) (hy : y.grade < 2 ^ 16)
    (horder : emlsrOrder x y =
      (linkSelData confP (vif.link p) p, linkSelData confS (vif.link s) s))
    (hconfP : vif.linkConf p = some confP)
    (hshareP : ShareFits (vif.link p)) (hshareS : ShareFits (vif.link s)) :
    ((iwlMldGetEmlsrGrade mld vif x y).1 : ℤ) =
      exactOrderedGrade mld vif confP confS p s := by
  have hload : primaryLoad vif (linkSelData confP (vif.link p) p) =
      iwlMldGetChanLoad confP (vif.link p) := by
    simp only [primaryLoad, linkSelData, hconfP]
  have hvalue := @emlsrGrade_of_allowed env mld vif x y hx hy
  have hzero := @emlsrGrade_of_not_allowed env mld vif x y
  unfold PairAllowed at hvalue hzero
  rw [horder] at hvalue hzero
  rw [exactOrderedGrade]
  split_ifs with hstate
  · rw [hzero hstate]
    rfl
  · rw [hvalue (not_not.mp hstate), linkSelData_grade confP, linkSelData_grade confS,
      hload, ← linkGrade_exact confP hshareP, ← linkGrade_exact confS hshareS,
      ← chanLoad_exact confP hshareP]
    push_cast
    rfl

theorem emlsrGrade_exact (mld : IwlMld) (vif : MldVif env)
    {confA confB : BssConf env} {a b : ℕ}
    (hconfA : vif.linkConf a = some confA)
    (hconfB : vif.linkConf b = some confB)
    (hshareA : ShareFits (vif.link a)) (hshareB : ShareFits (vif.link b)) :
    ((iwlMldGetEmlsrGrade mld vif (linkSelData confA (vif.link a) a)
      (linkSelData confB (vif.link b) b)).1 : ℤ) =
        exactEmlsrGrade mld vif confA confB a b := by
  have hgradeA := linkSelData_grade confA (vif.link a) a
  have hgradeB := linkSelData_grade confB (vif.link b) b
  have hexactA := linkGrade_exact confA hshareA
  have hexactB := linkGrade_exact confB hshareB
  have hfitsA : (linkSelData confA (vif.link a) a).grade < 2 ^ 16 :=
    Nat.mod_lt _ (by norm_num)
  have hfitsB : (linkSelData confB (vif.link b) b).grade < 2 ^ 16 :=
    Nat.mod_lt _ (by norm_num)
  unfold exactEmlsrGrade
  by_cases hswap : (linkSelData confB (vif.link b) b).grade >
      (linkSelData confA (vif.link a) a).grade
  · rw [if_pos (by omega)]
    exact emlsrGrade_exact_ordered hfitsA hfitsB (if_pos hswap) hconfB hshareB
      hshareA
  · rw [if_neg (by omega)]
    exact emlsrGrade_exact_ordered hfitsA hfitsB (if_neg hswap) hconfA hshareA
      hshareB

/-! ## Higher grades -/

def LinkSelData.regrade (data : LinkSelData env) (grade : ℕ) :
    LinkSelData env :=
  { data with grade := grade }

/-- Either the same link is the primary one, or the pair is allowed with the
new primary and its channel has at least the load of the old one's. -/
def PrimaryKept (mld : IwlMld) (vif : MldVif env)
    (a b raisedA raisedB : LinkSelData env) : Prop :=
  (emlsrOrder raisedA raisedB).1.linkId = (emlsrOrder a b).1.linkId ∨
    PairAllowed mld vif raisedA raisedB ∧
      primaryLoad vif (emlsrOrder a b).1 ≤
        primaryLoad vif (emlsrOrder raisedA raisedB).1

theorem emlsrGrade_le (mld : IwlMld) (vif : MldVif env)
    (a b : LinkSelData env) :
    (iwlMldGetEmlsrGrade mld vif a b).1 ≤
      (emlsrOrder a b).1.grade +
        (emlsrOrder a b).2.grade * primaryLoad vif (emlsrOrder a b).1 / 256 := by
  simp only [iwlMldGetEmlsrGrade, primaryLoad]
  split_ifs with hstate
  · exact Nat.zero_le _
  · cases vif.linkConf (emlsrOrder a b).1.linkId with
    | none => exact Nat.zero_le _
    | some conf =>
        apply (Nat.mod_le _ _).trans
        exact Nat.add_le_add_left (Nat.div_le_div_right (Nat.mod_le _ _)) _

theorem emlsrOrder_regrade_le {a b : LinkSelData env} {gradeA gradeB : ℕ}
    (ha : a.grade ≤ gradeA) (hb : b.grade ≤ gradeB) :
    (emlsrOrder a b).1.grade ≤
        (emlsrOrder (a.regrade gradeA) (b.regrade gradeB)).1.grade ∧
      (emlsrOrder a b).2.grade ≤
        (emlsrOrder (a.regrade gradeA) (b.regrade gradeB)).2.grade := by
  unfold emlsrOrder LinkSelData.regrade
  split_ifs with hbefore hafter hafter <;> constructor <;> simp only at * <;>
    omega

theorem pairAllowed_regrade {a b : LinkSelData env} {gradeA gradeB : ℕ}
    (hdistinct : a.linkId ≠ b.linkId)
    (hsame : (emlsrOrder (a.regrade gradeA) (b.regrade gradeB)).1.linkId =
      (emlsrOrder a b).1.linkId)
    (hallowed : PairAllowed mld vif a b) :
    PairAllowed mld vif (a.regrade gradeA) (b.regrade gradeB) := by
  have hne := hdistinct.symm
  unfold PairAllowed at hallowed ⊢
  rcases emlsrOrder_cases a b with hbefore | hbefore <;>
    rcases emlsrOrder_cases (a.regrade gradeA) (b.regrade gradeB) with
      hafter | hafter <;>
    rw [hbefore] at hallowed hsame <;> rw [hafter] at hsame ⊢
  · exact hallowed
  · exact absurd hsame hne
  · exact absurd hsame hdistinct
  · exact hallowed

theorem primaryLoad_of_linkId {x y : LinkSelData env}
    (hid : x.linkId = y.linkId) : primaryLoad vif x = primaryLoad vif y := by
  unfold primaryLoad
  rw [hid]

theorem emlsrGrade_le_regrade {a b : LinkSelData env} {gradeA gradeB : ℕ}
    (hdistinct : a.linkId ≠ b.linkId) (ha : a.grade ≤ gradeA)
    (hb : b.grade ≤ gradeB) (hfitsA : gradeA < 2 ^ 16)
    (hfitsB : gradeB < 2 ^ 16)
    (hprimary : PrimaryKept mld vif a b (a.regrade gradeA)
      (b.regrade gradeB)) :
    (iwlMldGetEmlsrGrade mld vif a b).1 ≤
      (iwlMldGetEmlsrGrade mld vif (a.regrade gradeA) (b.regrade gradeB)).1 := by
  by_cases hallowed : PairAllowed mld vif a b
  · have hraised : PairAllowed mld vif (a.regrade gradeA)
          (b.regrade gradeB) ∧
        primaryLoad vif (emlsrOrder a b).1 ≤ primaryLoad vif
          (emlsrOrder (a.regrade gradeA) (b.regrade gradeB)).1 := by
      rcases hprimary with hsame | hother
      · constructor
        · exact pairAllowed_regrade hdistinct hsame hallowed
        · exact (primaryLoad_of_linkId hsame.symm).le
      · exact hother
    have hgrades := emlsrOrder_regrade_le ha hb
    rw [emlsrGrade_of_allowed (a := a.regrade gradeA) (b := b.regrade gradeB)
      hfitsA hfitsB hraised.1]
    apply (emlsrGrade_le mld vif a b).trans
    apply Nat.add_le_add hgrades.1
    apply Nat.div_le_div_right
    exact Nat.mul_le_mul hgrades.2 hraised.2
  · rw [emlsrGrade_of_not_allowed hallowed]
    exact Nat.zero_le _

/-- The grade of a pair is that of the integers, and grows with the grade of
each link while the primary link is kept. -/
theorem emlsrGrade_exact_monotone (mld : IwlMld) (vif : MldVif env) :
    (∀ (confA confB : BssConf env) (a b : ℕ), vif.linkConf a = some confA →
      vif.linkConf b = some confB → ShareFits (vif.link a) →
      ShareFits (vif.link b) →
        ((iwlMldGetEmlsrGrade mld vif (linkSelData confA (vif.link a) a)
          (linkSelData confB (vif.link b) b)).1 : ℤ) =
            exactEmlsrGrade mld vif confA confB a b) ∧
      ∀ (a b : LinkSelData env) (gradeA gradeB : ℕ), a.linkId ≠ b.linkId →
        a.grade ≤ gradeA → b.grade ≤ gradeB → gradeA < 2 ^ 16 →
        gradeB < 2 ^ 16 →
        PrimaryKept mld vif a b (a.regrade gradeA) (b.regrade gradeB) →
          (iwlMldGetEmlsrGrade mld vif a b).1 ≤
            (iwlMldGetEmlsrGrade mld vif (a.regrade gradeA)
              (b.regrade gradeB)).1 := by
  constructor
  · intro confA confB a b hconfA hconfB hshareA hshareB
    exact emlsrGrade_exact mld vif hconfA hconfB hshareA hshareB
  · intro a b gradeA gradeB hdistinct ha hb hfitsA hfitsB hprimary
    exact emlsrGrade_le_regrade hdistinct ha hb hfitsA hfitsB hprimary

/-! ## Two active links -/

section Samples

def gradedConf (signal : ℤ) (linkId : ℕ) : BssConf sampleCfg80211 :=
  if linkId = 0 then ⟨sampleChandef .ghz5 5180 5210, signal, some 0, false⟩
  else ⟨⟨.ghz6, 5975, .w160, 6025, 0, fun _ => by decide⟩, -4000, some 154,
    false⟩

def gradedVif (signal : ℤ) (channelLoadByUs : ℕ) : MldVif sampleCfg80211 where
  type := .station
  p2p := false
  validLinks := 3
  dormantLinks := 0
  linkConf linkId :=
    if linkId < 2 then some (gradedConf signal linkId) else none
  link linkId :=
    if linkId = 0 then some ⟨true, some ⟨.w80, 0, 90⟩⟩
    else some ⟨true, some ⟨.w160, channelLoadByUs, 90⟩⟩
  authorized := true
  emlsrSupported := true
  isCdb := false
  lowLatencyCauses := 0
  blockedReasons := 0

def gradedEntry (signal : ℤ) (channelLoadByUs linkId : ℕ) :
    LinkSelData sampleCfg80211 :=
  linkSelData (gradedConf signal linkId)
    ((gradedVif signal channelLoadByUs).link linkId) linkId

/-- A share of ten percent, and the grade of link 0 raised by one. -/
theorem emlsrGrade_exact_monotone_sample :
    ((iwlMldGetEmlsrGrade sampleMld (gradedVif (-6100) 10)
        (gradedEntry (-6100) 10 0) (gradedEntry (-6100) 10 1)).1 : ℤ) =
          exactEmlsrGrade sampleMld (gradedVif (-6100) 10)
            (gradedConf (-6100) 0) (gradedConf (-6100) 1) 0 1 ∧
      (iwlMldGetEmlsrGrade sampleMld (gradedVif (-6100) 10)
          (gradedEntry (-6100) 10 0) (gradedEntry (-6100) 10 1)).1 ≤
        (iwlMldGetEmlsrGrade sampleMld (gradedVif (-6100) 10)
          ((gradedEntry (-6100) 10 0).regrade 10321)
          ((gradedEntry (-6100) 10 1).regrade 14000)).1 := by
  have hboth := emlsrGrade_exact_monotone sampleMld (gradedVif (-6100) 10)
  constructor
  · apply hboth.1 (gradedConf (-6100) 0) (gradedConf (-6100) 1) 0 1 rfl rfl
    · unfold ShareFits
      decide +kernel
    · unfold ShareFits
      decide +kernel
  · apply hboth.2
    · decide +kernel
    · decide +kernel
    · decide +kernel
    · decide
    · decide
    · left
      decide +kernel

/-- A better signal of link 0 makes it the primary link, whose channel is
free: the pair has a lower grade.  A share above 2 ^ 24 percent wraps. -/
theorem emlsrGrade_drops :
    (gradedEntry (-6100) 0 0).grade < (gradedEntry (-6000) 0 0).grade ∧
      (iwlMldGetEmlsrGrade sampleMld (gradedVif (-6000) 0)
          (gradedEntry (-6000) 0 0) (gradedEntry (-6000) 0 1)).1 <
        (iwlMldGetEmlsrGrade sampleMld (gradedVif (-6100) 0)
          (gradedEntry (-6100) 0 0) (gradedEntry (-6100) 0 1)).1 ∧
      (iwlMldGetEmlsrGrade sampleMld (gradedVif (-6100) 0)
          ((gradedEntry (-6100) 0 0).regrade (gradedEntry (-6000) 0 0).grade)
          (gradedEntry (-6100) 0 1)).1 <
        (iwlMldGetEmlsrGrade sampleMld (gradedVif (-6100) 0)
          (gradedEntry (-6100) 0 0) (gradedEntry (-6100) 0 1)).1 ∧
      ((iwlMldGetEmlsrGrade sampleMld (gradedVif (-6100) (2 ^ 24 + 50))
        (gradedEntry (-6100) (2 ^ 24 + 50) 0)
        (gradedEntry (-6100) (2 ^ 24 + 50) 1)).1 : ℤ) ≠
          exactEmlsrGrade sampleMld (gradedVif (-6100) (2 ^ 24 + 50))
            (gradedConf (-6100) 0) (gradedConf (-6100) 1) 0 1 := by
  constructor
  · decide +kernel
  constructor
  · decide +kernel
  constructor
  · decide +kernel
  · decide +kernel

end Samples

end IwlwifiStack
