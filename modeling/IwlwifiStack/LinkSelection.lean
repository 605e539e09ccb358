import IwlwifiStack.LinkSelectModel

/-!
# The result of the link selection

A grade of 0 stands for a pair that is not allowed, and can also be the grade
of a link.  When every candidate has it, each pair replaces the choice before
it and the last one is activated, allowed or not.  In every other case the
result is as good as each single candidate and each allowed pair.
-/

namespace IwlwifiStack

variable {env : Cfg80211} {mld : IwlMld} {vif : MldVif env}

/-! ## Bounds on grades -/

theorem rssiGrade_le (band : Band) (linkRssi : ℤ) :
    rssiGrade band linkRssi ≤ 3442 := by
  have hlines : ∀ line ∈ rssiToGradeMap, line.2.2 ≤ 3442 := by decide
  unfold rssiGrade
  cases hfind : rssiToGradeMap.find? fun line =>
      decide (linkRssi ≤ rssiOf band line) with
  | none => exact le_rfl
  | some line => exact hlines line (List.mem_of_find?_eq_some hfind)

theorem chanLoad_lt (conf : BssConf env) (link : Option MldLink) :
    iwlMldGetChanLoad conf link < 256 := by
  unfold iwlMldGetChanLoad iwlMldGetChanLoadByOthers
  cases hload : conf.bssLoad with
  | some load =>
      simp only [Option.map_some]
      have hlt := load.isLt
      split_ifs <;> omega
  | none =>
      simp only [Option.map_none, iwlMldGetDefaultChanLoad]
      cases conf.chandef.band <;> decide

theorem nSubchannels_le (chandef : ChanDef env) :
    iwlMldGetNSubchannels chandef ≤ 16 := by
  have hpunctured := chandef.punctured_le
  unfold iwlMldGetNSubchannels
  simp only
  split_ifs with hinvalid hwide
  · norm_num
  · have hle := hpunctured hwide
    rw [Int.emod_eq_of_lt (by omega) (by omega)]
    omega
  · omega

theorem scaledGrade_mul_le {grade avail n : ℕ} (hgrade : grade ≤ 3442)
    (hn : n ≤ 16) :
    grade * avail % 2 ^ 32 / 256 * n % 2 ^ 32 * 256 ≤ 55072 * avail := by
  have hproduct : grade * avail ≤ 3442 * avail := Nat.mul_le_mul_right _ hgrade
  have hloaded : grade * avail % 2 ^ 32 / 256 * 256 ≤ 3442 * avail :=
    (Nat.div_mul_le_self _ _).trans ((Nat.mod_le _ _).trans hproduct)
  calc grade * avail % 2 ^ 32 / 256 * n % 2 ^ 32 * 256
      ≤ grade * avail % 2 ^ 32 / 256 * n * 256 :=
        Nat.mul_le_mul_right _ (Nat.mod_le _ _)
    _ = grade * avail % 2 ^ 32 / 256 * 256 * n := by ring
    _ ≤ 3442 * avail * 16 := Nat.mul_le_mul hloaded hn
    _ = 55072 * avail := by ring

theorem linkGrade_mul_le (conf : BssConf env) (link : Option MldLink) :
    iwlMldGetLinkGrade conf link * 256 ≤
      55072 * (256 - iwlMldGetChanLoad conf link) := by
  unfold iwlMldGetLinkGrade
  split_ifs with hband
  · omega
  · exact scaledGrade_mul_le (rssiGrade_le _ _) (nSubchannels_le _)

theorem combinedGrade_lt {primary secondary load : ℕ}
    (hprimary : primary * 256 ≤ 55072 * (256 - load)) (hload : load < 256)
    (hsecondary : secondary ≤ primary) :
    primary + secondary * load / 256 < 2 ^ 16 := by
  obtain ⟨free, hfree⟩ : ∃ free, free + load = 256 := ⟨256 - load, by omega⟩
  have hadded : secondary * load / 256 * 256 ≤ primary * load :=
    (Nat.div_mul_le_self _ _).trans (Nat.mul_le_mul_right _ hsecondary)
  have hfreeLoad : 256 - load = free := by omega
  rw [hfreeLoad] at hprimary
  have hscaled : primary * 256 * (256 + load) ≤ 55072 * free * (256 + load) :=
    Nat.mul_le_mul_right _ hprimary
  have hsquares : free * (256 + load) ≤ 65536 := by nlinarith
  have hprimaryLoad : primary * (256 + load) ≤ 55072 * 256 := by nlinarith
  nlinarith

/-! ## Candidates -/

def Candidate (vif : MldVif env) (x : LinkSelData env) : Prop :=
  x.linkId < 15 ∧ vif.usableLinks.getLsbD x.linkId = true ∧
    ∃ conf, vif.linkConf x.linkId = some conf ∧
      x = linkSelData conf (vif.link x.linkId) x.linkId

/-- After the link ids below `bound`. -/
structure Gathered (vif : MldVif env) (scan : LinkSelScan env) (bound : ℕ) :
    Prop where
  mem_iff : ∀ x, x ∈ scan.data ↔ x.linkId < bound ∧
    vif.usableLinks.getLsbD x.linkId = true ∧
      ∃ conf, vif.linkConf x.linkId = some conf ∧
        x = linkSelData conf (vif.link x.linkId) x.linkId
  sorted : scan.data.Pairwise fun x y => x.linkId < y.linkId
  best_le : ∀ x ∈ scan.data, x.grade ≤ scan.maxGrade
  found : scan.data ≠ [] → ∃ best, scan.data[scan.bestLinkIdx]? = some best ∧
    best.grade = scan.maxGrade

theorem Gathered.skip {scan : LinkSelScan env} {bound : ℕ}
    (hgathered : Gathered vif scan bound)
    (hskip : vif.usableLinks.getLsbD bound = true →
      vif.linkConf bound = none) :
    Gathered vif scan (bound + 1) := by
  constructor
  · intro x
    rw [hgathered.mem_iff]
    constructor
    · rintro ⟨hlt, hrest⟩
      exact ⟨by omega, hrest⟩
    · rintro ⟨hlt, husable, conf, hconf, heq⟩
      refine ⟨?_, husable, conf, hconf, heq⟩
      rcases Nat.lt_succ_iff_lt_or_eq.mp hlt with hlt | hbound
      · exact hlt
      · rw [hbound] at husable hconf
        rw [hskip husable] at hconf
        cases hconf
  · exact hgathered.sorted
  · exact hgathered.best_le
  · exact hgathered.found

theorem Gathered.append {scan after : LinkSelScan env} {bound : ℕ}
    (hgathered : Gathered vif scan bound) {conf : BssConf env}
    (husable : vif.usableLinks.getLsbD bound = true)
    (hconf : vif.linkConf bound = some conf)
    (hdata : after.data =
      scan.data ++ [linkSelData conf (vif.link bound) bound])
    (hbest : ∀ x ∈ after.data, x.grade ≤ after.maxGrade)
    (hfound : ∃ best, after.data[after.bestLinkIdx]? = some best ∧
      best.grade = after.maxGrade) :
    Gathered vif after (bound + 1) := by
  constructor
  · intro x
    rw [hdata, List.mem_append, List.mem_singleton, hgathered.mem_iff]
    constructor
    · rintro (⟨hlt, hrest⟩ | rfl)
      · exact ⟨by omega, hrest⟩
      · exact ⟨Nat.lt_succ_self _, husable, conf, hconf, rfl⟩
    · rintro ⟨hlt, husable', conf', hconf', heq⟩
      rcases Nat.lt_succ_iff_lt_or_eq.mp hlt with hlt | hbound
      · exact Or.inl ⟨hlt, husable', conf', hconf', heq⟩
      · rw [hbound] at hconf' heq
        rw [hconf] at hconf'
        cases hconf'
        exact Or.inr heq
  · rw [hdata]
    refine List.pairwise_append.mpr ⟨hgathered.sorted,
      List.pairwise_singleton _ _, ?_⟩
    intro x hx y hy
    rw [List.mem_singleton] at hy
    rw [hy]
    exact ((hgathered.mem_iff x).mp hx).1
  · exact hbest
  · exact fun _ => hfound

theorem Gathered.add {scan : LinkSelScan env} {bound : ℕ}
    (hgathered : Gathered vif scan bound) :
    Gathered vif (scan.add vif bound) (bound + 1) := by
  unfold LinkSelScan.add
  by_cases husable : vif.usableLinks.getLsbD bound = true
  · rw [if_pos husable]
    cases hconf : vif.linkConf bound with
    | none => exact hgathered.skip fun _ => hconf
    | some conf =>
        simp only
        by_cases hbetter : scan.data.length = 0 ∨
            (linkSelData conf (vif.link bound) bound).grade > scan.maxGrade
        · rw [if_pos hbetter]
          apply hgathered.append husable hconf rfl
          · intro x hx
            rcases List.mem_append.mp hx with hold | hnew
            · rcases hbetter with hempty | hgreater
              · rw [List.length_eq_zero_iff.mp hempty] at hold
                cases hold
              · exact (hgathered.best_le x hold).trans hgreater.le
            · rw [List.mem_singleton.mp hnew]
          · exact ⟨_, by simp, rfl⟩
        · rw [if_neg hbetter]
          push Not at hbetter
          apply hgathered.append husable hconf rfl
          · intro x hx
            rcases List.mem_append.mp hx with hold | hnew
            · exact hgathered.best_le x hold
            · rw [List.mem_singleton.mp hnew]
              exact hbetter.2
          · obtain ⟨best, hbest, hgrade⟩ := hgathered.found
              (List.ne_nil_of_length_pos (Nat.pos_of_ne_zero hbetter.1))
            exact ⟨best, by
              rw [List.getElem?_append_left
                (List.getElem?_eq_some_iff.mp hbest).1]
              exact hbest, hgrade⟩
  · rw [if_neg husable]
    exact hgathered.skip fun h => absurd h husable

theorem gathered_range (vif : MldVif env) (bound : ℕ) :
    Gathered vif ((List.range bound).foldl (LinkSelScan.add vif) ⟨[], 0, 0⟩)
      bound := by
  induction bound with
  | zero =>
      constructor
      · intro x
        simp
      · exact List.Pairwise.nil
      · intro x hx
        cases hx
      · intro h
        exact absurd rfl h
  | succ bound ih =>
      rw [List.range_succ, List.foldl_append]
      exact ih.add

theorem setLinkSelData_gathered (vif : MldVif env) :
    Gathered vif (iwlMldSetLinkSelData vif) 15 :=
  gathered_range vif 15

theorem mem_data_iff {x : LinkSelData env} :
    x ∈ (iwlMldSetLinkSelData vif).data ↔ Candidate vif x :=
  (setLinkSelData_gathered vif).mem_iff x

theorem Candidate.eq_of_linkId {x y : LinkSelData env}
    (hx : Candidate vif x) (hy : Candidate vif y)
    (hid : x.linkId = y.linkId) : x = y := by
  obtain ⟨-, -, conf, hconf, hxeq⟩ := hx
  obtain ⟨-, -, conf', hconf', hyeq⟩ := hy
  rw [hid, hconf', Option.some.injEq] at hconf
  rw [hxeq, hyeq, hid, hconf]

/-! ## Pairs -/

theorem mem_linkPairs {data : List (LinkSelData env)}
    (hsorted : data.Pairwise fun x y => x.linkId < y.linkId)
    {a b : LinkSelData env} :
    (a, b) ∈ linkPairs data ↔
      a ∈ data ∧ b ∈ data ∧ a.linkId < b.linkId := by
  induction data with
  | nil => simp [linkPairs]
  | cons first rest ih =>
      obtain ⟨hfirst, hrest⟩ := List.pairwise_cons.mp hsorted
      simp only [linkPairs, List.mem_append, List.mem_map, Prod.mk.injEq,
        List.mem_cons, ih hrest]
      constructor
      · rintro (⟨b', hb', rfl, rfl⟩ | ⟨ha, hb, hlt⟩)
        · exact ⟨Or.inl rfl, Or.inr hb', hfirst _ hb'⟩
        · exact ⟨Or.inr ha, Or.inr hb, hlt⟩
      · rintro ⟨rfl | ha, rfl | hb, hlt⟩
        · omega
        · exact Or.inl ⟨b, hb, rfl, rfl⟩
        · have hbehind := hfirst a ha
          omega
        · exact Or.inr ⟨ha, hb, hlt⟩

theorem linkPairs_last {α : Type*} (front : List α) (a b : α) :
    ∃ earlier, linkPairs (front ++ [a, b]) = earlier ++ [(a, b)] := by
  induction front with
  | nil => exact ⟨[], rfl⟩
  | cons first rest ih =>
      obtain ⟨earlier, hearlier⟩ := ih
      refine ⟨(rest ++ [a, b]).map (fun y => (first, y)) ++ earlier, ?_⟩
      rw [List.cons_append, linkPairs, hearlier, List.append_assoc]

def PairAllowed (mld : IwlMld) (vif : MldVif env) (a b : LinkSelData env) :
    Prop :=
  iwlMldEmlsrPairState mld vif (emlsrOrder a b).1 (emlsrOrder a b).2 = 0

theorem emlsrOrder_cases (a b : LinkSelData env) :
    emlsrOrder a b = (a, b) ∨ emlsrOrder a b = (b, a) := by
  unfold emlsrOrder
  split_ifs
  · exact Or.inr rfl
  · exact Or.inl rfl

theorem emlsrOrder_grade_le (a b : LinkSelData env) :
    (emlsrOrder a b).2.grade ≤ (emlsrOrder a b).1.grade := by
  unfold emlsrOrder
  split_ifs with hswap
  · exact hswap.le
  · exact Nat.le_of_not_lt hswap

theorem emlsrGrade_snd (mld : IwlMld) (vif : MldVif env)
    (a b : LinkSelData env) :
    (iwlMldGetEmlsrGrade mld vif a b).2 = (emlsrOrder a b).1.linkId := by
  simp only [iwlMldGetEmlsrGrade]
  split_ifs
  · rfl
  · cases vif.linkConf (emlsrOrder a b).1.linkId <;> rfl

theorem emlsrGrade_of_not_allowed {a b : LinkSelData env}
    (hallowed : ¬ PairAllowed mld vif a b) :
    (iwlMldGetEmlsrGrade mld vif a b).1 = 0 := by
  simp only [iwlMldGetEmlsrGrade, PairAllowed] at hallowed ⊢
  rw [if_pos hallowed]

theorem emlsrGrade_of_zero {a b : LinkSelData env} (ha : a.grade = 0)
    (hb : b.grade = 0) : (iwlMldGetEmlsrGrade mld vif a b).1 = 0 := by
  have hprimary : (emlsrOrder a b).1.grade = 0 := by
    rcases emlsrOrder_cases a b with h | h <;> rw [h] <;> assumption
  have hsecondary : (emlsrOrder a b).2.grade = 0 := by
    rcases emlsrOrder_cases a b with h | h <;> rw [h] <;> assumption
  simp only [iwlMldGetEmlsrGrade]
  split_ifs
  · rfl
  · cases vif.linkConf (emlsrOrder a b).1.linkId with
    | none => rfl
    | some conf => simp [hprimary, hsecondary]

theorem emlsrGrade_lt {a b : LinkSelData env} (ha : Candidate vif a)
    (hb : Candidate vif b) : (iwlMldGetEmlsrGrade mld vif a b).1 < 2 ^ 16 := by
  have hprimary : Candidate vif (emlsrOrder a b).1 := by
    rcases emlsrOrder_cases a b with h | h <;> rw [h] <;> assumption
  have hle := emlsrOrder_grade_le a b
  simp only [iwlMldGetEmlsrGrade]
  split_ifs
  · norm_num
  · obtain ⟨-, -, conf, hconf, heq⟩ := hprimary
    rw [hconf]
    simp only
    have hgrade : (emlsrOrder a b).1.grade ≤
        iwlMldGetLinkGrade conf (vif.link (emlsrOrder a b).1.linkId) := by
      conv_lhs => rw [heq]
      exact Nat.mod_le _ _
    have hbound := (Nat.mul_le_mul_right 256 hgrade).trans
      (linkGrade_mul_le conf (vif.link (emlsrOrder a b).1.linkId))
    have hsum := combinedGrade_lt hbound (chanLoad_lt _ _) hle
    apply lt_of_le_of_lt (Nat.mod_le _ _)
    apply lt_of_le_of_lt _ hsum
    exact Nat.add_le_add_left (Nat.div_le_div_right (Nat.mod_le _ _)) _

/-! ## The loop over the pairs -/

def LinkSelection.ofPair (mld : IwlMld) (vif : MldVif env)
    (pair : LinkSelData env × LinkSelData env) : LinkSelection :=
  ⟨linkBit pair.1.linkId ||| linkBit pair.2.linkId,
    (iwlMldGetEmlsrGrade mld vif pair.1 pair.2).2,
    (iwlMldGetEmlsrGrade mld vif pair.1 pair.2).1 % 2 ^ 16⟩

/-- The choice after the pairs `tried`, from the choice `initial`. -/
structure BestOf (mld : IwlMld) (vif : MldVif env) (initial : LinkSelection)
    (tried : List (LinkSelData env × LinkSelData env))
    (choice : LinkSelection) : Prop where
  origin : choice = initial ∨ ∃ pair ∈ tried, choice = .ofPair mld vif pair
  initial_le : initial.maxGrade ≤ choice.maxGrade
  tried_le : ∀ pair ∈ tried,
    (LinkSelection.ofPair mld vif pair).maxGrade ≤ choice.maxGrade

theorem BestOf.tryPair {initial choice : LinkSelection}
    {tried : List (LinkSelData env × LinkSelData env)}
    (hbest : BestOf mld vif initial tried choice)
    (pair : LinkSelData env × LinkSelData env) :
    BestOf mld vif initial (tried ++ [pair])
      (choice.tryPair mld vif pair) := by
  have hstep : choice.tryPair mld vif pair =
      if (LinkSelection.ofPair mld vif pair).maxGrade < choice.maxGrade
      then choice else .ofPair mld vif pair := rfl
  rw [hstep]
  split_ifs with hworse
  · constructor
    · rcases hbest.origin with hinitial | ⟨old, hold, heq⟩
      · exact Or.inl hinitial
      · exact Or.inr ⟨old, List.mem_append_left _ hold, heq⟩
    · exact hbest.initial_le
    · intro other hother
      rcases List.mem_append.mp hother with hold | hnew
      · exact hbest.tried_le other hold
      · rw [List.mem_singleton.mp hnew]
        exact hworse.le
  · constructor
    · exact Or.inr ⟨pair, by simp, rfl⟩
    · exact hbest.initial_le.trans (Nat.le_of_not_lt hworse)
    · intro other hother
      rcases List.mem_append.mp hother with hold | hnew
      · exact (hbest.tried_le other hold).trans (Nat.le_of_not_lt hworse)
      · rw [List.mem_singleton.mp hnew]

theorem bestOf_foldl (mld : IwlMld) (vif : MldVif env)
    (initial : LinkSelection)
    (pairs : List (LinkSelData env × LinkSelData env)) :
    BestOf mld vif initial pairs
      (pairs.foldl (LinkSelection.tryPair mld vif) initial) := by
  induction pairs using List.reverseRecOn with
  | nil =>
      constructor
      · exact Or.inl rfl
      · exact le_rfl
      · intro pair hpair
        cases hpair
  | append_singleton earlier pair ih =>
      rw [List.foldl_append]
      exact ih.tryPair pair

theorem foldl_tryPair_of_zero {initial : LinkSelection}
    {earlier : List (LinkSelData env × LinkSelData env)}
    {last : LinkSelData env × LinkSelData env}
    (hinitial : initial.maxGrade = 0)
    (hpairs : ∀ pair ∈ earlier,
      (LinkSelection.ofPair mld vif pair).maxGrade = 0) :
    (earlier ++ [last]).foldl (LinkSelection.tryPair mld vif) initial =
      .ofPair mld vif last := by
  have hzero :
      (earlier.foldl (LinkSelection.tryPair mld vif) initial).maxGrade = 0 := by
    rcases (bestOf_foldl mld vif initial earlier).origin with
      heq | ⟨pair, hpair, heq⟩
    · rw [heq, hinitial]
    · rw [heq, hpairs pair hpair]
  rw [List.foldl_append, List.foldl_cons, List.foldl_nil,
    LinkSelection.tryPair]
  rw [if_neg (by omega)]
  rfl

/-! ## The choice of the links -/

theorem hweight16_linkBit {linkId : ℕ} (hlt : linkId < 15) :
    hweight16 (linkBit linkId) = 1 := by
  interval_cases linkId <;> decide

theorem hweight16_linkBits {a b : ℕ} (ha : a < 15) (hb : b < 15)
    (hne : a ≠ b) : hweight16 (linkBit a ||| linkBit b) = 2 := by
  have hall : ∀ a < 15, ∀ b < 15, a ≠ b →
      hweight16 (linkBit a ||| linkBit b) = 2 := by decide +kernel
  exact hall a ha b hb hne

theorem linkBits_inj {a b a' b' : ℕ} (hb : b < 15) (hb' : b' < 15)
    (hlt : a < b) (hlt' : a' < b')
    (heq : linkBit a ||| linkBit b = linkBit a' ||| linkBit b') :
    a = a' ∧ b = b' := by
  have hbits : ∀ i, (i = a ∨ i = b) ↔ (i = a' ∨ i = b') := by
    intro i
    have hi := congrArg (fun mask => mask.getLsbD i) heq
    simp only [BitVec.getLsbD_or, getLsbD_linkBit hb, getLsbD_linkBit hb',
      getLsbD_linkBit (hlt.trans hb), getLsbD_linkBit (hlt'.trans hb')] at hi
    rw [Bool.eq_iff_iff] at hi
    simpa only [Bool.or_eq_true, decide_eq_true_eq] using hi
  have hfirst := (hbits a).mp (Or.inl rfl)
  have hsecond := (hbits b).mp (Or.inr rfl)
  have hfirst' := (hbits a').mpr (Or.inl rfl)
  omega

/-- No candidate and, where EMLSR is possible, no allowed pair of candidates
has a higher grade. -/
structure NothingBetter (mld : IwlMld) (vif : MldVif env) (grade : ℕ) :
    Prop where
  single : ∀ x, Candidate vif x → x.grade ≤ grade
  pair : emlsrPossible mld vif (iwlMldSetLinkSelData vif).data.length = true →
    ∀ a b, Candidate vif a → Candidate vif b → a.linkId < b.linkId →
      PairAllowed mld vif a b → (iwlMldGetEmlsrGrade mld vif a b).1 ≤ grade

/-- One best link, or a best pair that is allowed while EMLSR is unblocked. -/
inductive LinkSelection.Chooses (mld : IwlMld) (vif : MldVif env)
    (selection : LinkSelection) : Prop
  | single (x : LinkSelData env) (hcandidate : Candidate vif x)
      (hactive : selection.newActive = linkBit x.linkId)
      (hcount : hweight16 selection.newActive = 1)
      (hbest : NothingBetter mld vif x.grade)
  | pair (a b : LinkSelData env) (ha : Candidate vif a) (hb : Candidate vif b)
      (hlt : a.linkId < b.linkId)
      (hactive : selection.newActive = linkBit a.linkId ||| linkBit b.linkId)
      (hcount : hweight16 selection.newActive = 2)
      (hunblocked : vif.blockedReasons = 0)
      (hprimary : selection.newPrimary = (emlsrOrder a b).1.linkId)
      (hallowed : PairAllowed mld vif a b)
      (hbest : NothingBetter mld vif (iwlMldGetEmlsrGrade mld vif a b).1)

structure LinkSelection.Correct (mld : IwlMld) (vif : MldVif env)
    (selection : LinkSelection) : Prop where
  primary_selected :
    selection.newActive.getLsbD selection.newPrimary = true
  chooses : selection.Chooses mld vif

/-- EMLSR is possible, every candidate has the grade 0, and the last two
candidates are not allowed as a pair. -/
def ZeroGradeTrap (mld : IwlMld) (vif : MldVif env) : Prop :=
  emlsrPossible mld vif (iwlMldSetLinkSelData vif).data.length = true ∧
    (∀ x, Candidate vif x → x.grade = 0) ∧
    ∃ front a b, (iwlMldSetLinkSelData vif).data = front ++ [a, b] ∧
      iwlMldEmlsrPairState mld vif a b ≠ 0

theorem emlsrOrder_of_zero {a b : LinkSelData env} (hb : b.grade = 0) :
    emlsrOrder a b = (a, b) := by
  rw [emlsrOrder, if_neg (by omega)]

theorem ofPair_maxGrade {a b : LinkSelData env} (ha : Candidate vif a)
    (hb : Candidate vif b) :
    (LinkSelection.ofPair mld vif (a, b)).maxGrade =
      (iwlMldGetEmlsrGrade mld vif a b).1 :=
  Nat.mod_eq_of_lt (emlsrGrade_lt ha hb)

theorem mem_candidatePairs {a b : LinkSelData env} :
    (a, b) ∈ linkPairs (iwlMldSetLinkSelData vif).data ↔
      Candidate vif a ∧ Candidate vif b ∧ a.linkId < b.linkId := by
  rw [mem_linkPairs (setLinkSelData_gathered vif).sorted, mem_data_iff,
    mem_data_iff]

def LinkSelection.ofSingle (best : LinkSelData env) : LinkSelection :=
  ⟨linkBit best.linkId, best.linkId, best.grade⟩

inductive SelectCase (mld : IwlMld) (vif : MldVif env)
    (best : LinkSelData env) : LinkSelection → Prop
  | single
      (himpossible : emlsrPossible mld vif
        (iwlMldSetLinkSelData vif).data.length = false) :
      SelectCase mld vif best (.ofSingle best)
  | scanned
      (hpossible : emlsrPossible mld vif
        (iwlMldSetLinkSelData vif).data.length = true) :
      SelectCase mld vif best
        ((linkPairs (iwlMldSetLinkSelData vif).data).foldl
          (LinkSelection.tryPair mld vif) (.ofSingle best))

theorem selectLinks_cases {now : ℤ} {selection : LinkSelection}
    (hselect : iwlMldSelectLinks mld vif now = some selection) :
    ∃ best, Candidate vif best ∧ (∀ x, Candidate vif x → x.grade ≤ best.grade) ∧
      SelectCase mld vif best selection := by
  have hgathered := setLinkSelData_gathered vif
  unfold iwlMldSelectLinks at hselect
  split_ifs at hselect with hearly hlate
  simp only at hselect
  cases hbest : (iwlMldSetLinkSelData vif).data[
      (iwlMldSetLinkSelData vif).bestLinkIdx]? with
  | none => simp [hbest] at hselect
  | some best =>
      have hmem := List.mem_of_getElem? hbest
      obtain ⟨best', hbest', hgrade⟩ :=
        hgathered.found (List.ne_nil_of_mem hmem)
      rw [hbest, Option.some.injEq] at hbest'
      subst hbest'
      refine ⟨best, mem_data_iff.mp hmem, fun x hx => ?_, ?_⟩
      · rw [hgrade]
        exact hgathered.best_le x (mem_data_iff.mpr hx)
      · simp only [hbest] at hselect
        cases hpossible : emlsrPossible mld vif
            (iwlMldSetLinkSelData vif).data.length with
        | false =>
            rw [hpossible, if_neg Bool.false_ne_true, Option.some.injEq]
              at hselect
            rw [← hselect]
            exact .single hpossible
        | true =>
            rw [hpossible, if_pos rfl, Option.some.injEq] at hselect
            rw [← hselect]
            exact .scanned hpossible

theorem emlsrPossible_unblocked {nData : ℕ}
    (hpossible : emlsrPossible mld vif nData = true) :
    vif.blockedReasons = 0 := by
  simp only [emlsrPossible, Bool.and_eq_true, decide_eq_true_eq] at hpossible
  exact hpossible.2

theorem data_last_two {best : LinkSelData env} (hbest : Candidate vif best)
    (hpossible : emlsrPossible mld vif
      (iwlMldSetLinkSelData vif).data.length = true) :
    ∃ front a b, (iwlMldSetLinkSelData vif).data = front ++ [a, b] := by
  simp only [emlsrPossible, Bool.and_eq_true, decide_eq_true_eq] at hpossible
  have hone := hpossible.1.1.1.2
  have hmem := mem_data_iff.mpr hbest
  generalize (iwlMldSetLinkSelData vif).data = data at *
  induction data using List.reverseRecOn with
  | nil => cases hmem
  | append_singleton init b _ =>
      induction init using List.reverseRecOn with
      | nil => exact absurd rfl hone
      | append_singleton front a _ =>
          exact ⟨front, a, b, by rw [List.append_assoc]; rfl⟩

theorem scan_of_zero {best a b : LinkSelData env}
    {front : List (LinkSelData env)} (hbest : Candidate vif best)
    (hzero : ∀ x, Candidate vif x → x.grade = 0)
    (hdata : (iwlMldSetLinkSelData vif).data = front ++ [a, b]) :
    Candidate vif a ∧ Candidate vif b ∧ a.linkId < b.linkId ∧
      (linkPairs (iwlMldSetLinkSelData vif).data).foldl
        (LinkSelection.tryPair mld vif) (.ofSingle best) =
          .ofPair mld vif (a, b) := by
  obtain ⟨earlier, hpairs⟩ := linkPairs_last front a b
  have hpair : ∀ pair ∈ earlier ++ [(a, b)],
      Candidate vif pair.1 ∧ Candidate vif pair.2 ∧
        pair.1.linkId < pair.2.linkId := by
    intro pair hmem
    apply mem_candidatePairs.mp
    rwa [hdata, hpairs]
  obtain ⟨ha, hb, hlt⟩ := hpair (a, b) (by simp)
  refine ⟨ha, hb, hlt, ?_⟩
  rw [hdata, hpairs]
  apply foldl_tryPair_of_zero (hzero best hbest)
  intro pair hmem
  obtain ⟨hfirst, hsecond, -⟩ := hpair pair (List.mem_append_left _ hmem)
  rw [ofPair_maxGrade hfirst hsecond]
  exact emlsrGrade_of_zero (hzero _ hfirst) (hzero _ hsecond)

theorem chooses_single {best : LinkSelData env} (hbest : Candidate vif best)
    (hnothing : NothingBetter mld vif best.grade) :
    (LinkSelection.ofSingle best).Correct mld vif := by
  constructor
  · have hself := getLsbD_linkBit hbest.1 best.linkId
    simpa [LinkSelection.ofSingle] using hself
  · exact .single best hbest rfl (hweight16_linkBit hbest.1) hnothing

theorem chooses_pair {a b : LinkSelData env} (ha : Candidate vif a)
    (hb : Candidate vif b) (hlt : a.linkId < b.linkId)
    (hunblocked : vif.blockedReasons = 0) (hallowed : PairAllowed mld vif a b)
    (hnothing : NothingBetter mld vif (iwlMldGetEmlsrGrade mld vif a b).1) :
    (LinkSelection.ofPair mld vif (a, b)).Correct mld vif := by
  constructor
  · simp only [LinkSelection.ofPair, emlsrGrade_snd, BitVec.getLsbD_or,
      getLsbD_linkBit ha.1, getLsbD_linkBit hb.1]
    rcases emlsrOrder_cases a b with h | h <;> simp [h]
  · exact .pair a b ha hb hlt rfl (hweight16_linkBits ha.1 hb.1 hlt.ne)
      hunblocked (emlsrGrade_snd mld vif a b) hallowed hnothing

theorem ZeroGradeTrap.not_correct {now : ℤ} {selection : LinkSelection}
    (htrap : ZeroGradeTrap mld vif)
    (hselect : iwlMldSelectLinks mld vif now = some selection) :
    ¬ selection.Correct mld vif := by
  obtain ⟨hpossible, hzero, front, a, b, hdata, hdisallowed⟩ := htrap
  obtain ⟨best, hbest, -, hcase⟩ := selectLinks_cases hselect
  obtain ⟨ha, hb, hlt, hlast⟩ := scan_of_zero hbest hzero hdata
  cases hcase with
  | single himpossible =>
      rw [hpossible] at himpossible
      cases himpossible
  | scanned _ =>
      rw [hlast]
      intro hcorrect
      have htwo := hweight16_linkBits ha.1 hb.1 hlt.ne
      cases hcorrect.chooses with
      | single x _ _ hcount _ =>
          rw [show (LinkSelection.ofPair mld vif (a, b)).newActive =
            linkBit a.linkId ||| linkBit b.linkId from rfl, htwo] at hcount
          omega
      | pair a' b' ha' hb' hlt' hactive _ _ _ hallowed _ =>
          obtain ⟨hfirst, hsecond⟩ :=
            linkBits_inj hb.1 hb'.1 hlt hlt' hactive
          have hsame := ha.eq_of_linkId ha' hfirst
          have hsame' := hb.eq_of_linkId hb' hsecond
          subst hsame hsame'
          rw [PairAllowed, emlsrOrder_of_zero (hzero b hb)] at hallowed
          exact hdisallowed hallowed

theorem scanned_correct {best : LinkSelData env} (hbest : Candidate vif best)
    (hmax : ∀ x, Candidate vif x → x.grade ≤ best.grade)
    (hpossible : emlsrPossible mld vif
      (iwlMldSetLinkSelData vif).data.length = true)
    (htrap : ¬ ZeroGradeTrap mld vif) :
    ((linkPairs (iwlMldSetLinkSelData vif).data).foldl
      (LinkSelection.tryPair mld vif) (.ofSingle best)).Correct mld vif := by
  have hscan := bestOf_foldl mld vif (.ofSingle best)
    (linkPairs (iwlMldSetLinkSelData vif).data)
  have hle : ∀ a b, Candidate vif a → Candidate vif b → a.linkId < b.linkId →
      (iwlMldGetEmlsrGrade mld vif a b).1 ≤
        ((linkPairs (iwlMldSetLinkSelData vif).data).foldl
          (LinkSelection.tryPair mld vif) (.ofSingle best)).maxGrade := by
    intro a b ha hb hlt
    rw [← ofPair_maxGrade ha hb]
    exact hscan.tried_le (a, b) (mem_candidatePairs.mpr ⟨ha, hb, hlt⟩)
  rcases hscan.origin with hkept | ⟨⟨a, b⟩, hmem, hchosen⟩
  · rw [hkept] at hle ⊢
    exact chooses_single hbest ⟨hmax, fun _ a b ha hb hlt _ => hle a b ha hb hlt⟩
  · obtain ⟨ha, hb, hlt⟩ := mem_candidatePairs.mp hmem
    have hinitial := hscan.initial_le
    rw [hchosen] at hle hinitial ⊢
    rw [ofPair_maxGrade ha hb] at hle hinitial
    have hnothing :
        NothingBetter mld vif (iwlMldGetEmlsrGrade mld vif a b).1 :=
      ⟨fun x hx => (hmax x hx).trans hinitial,
        fun _ a b ha hb hlt _ => hle a b ha hb hlt⟩
    apply chooses_pair ha hb hlt (emlsrPossible_unblocked hpossible) _ hnothing
    by_contra hdisallowed
    -- a pair that is not allowed has the grade 0, so no candidate has more
    have hgrade := emlsrGrade_of_not_allowed hdisallowed
    have hzero : ∀ x, Candidate vif x → x.grade = 0 := by
      intro x hx
      have hxle := hnothing.single x hx
      omega
    obtain ⟨front, c, d, hdata⟩ := data_last_two hbest hpossible
    apply htrap
    refine ⟨hpossible, hzero, front, c, d, hdata, ?_⟩
    obtain ⟨hc, hd, hcd, hlast⟩ := @scan_of_zero _ mld _ _ _ _ _ hbest hzero
      hdata
    rw [hlast] at hchosen
    obtain ⟨hfirst, hsecond⟩ := linkBits_inj hd.1 hb.1 hcd hlt
      (congrArg LinkSelection.newActive hchosen)
    have hsame := hc.eq_of_linkId ha hfirst
    have hsame' := hd.eq_of_linkId hb hsecond
    subst hsame hsame'
    rw [PairAllowed, emlsrOrder_of_zero (hzero d hd)] at hdisallowed
    exact hdisallowed

theorem selectLinks_correct_iff {now : ℤ} {selection : LinkSelection}
    (hselect : iwlMldSelectLinks mld vif now = some selection) :
    selection.Correct mld vif ↔ ¬ ZeroGradeTrap mld vif := by
  constructor
  · intro hcorrect htrap
    exact htrap.not_correct hselect hcorrect
  · intro htrap
    obtain ⟨best, hbest, hmax, hcase⟩ := selectLinks_cases hselect
    cases hcase with
    | single himpossible =>
        apply chooses_single hbest
        refine ⟨hmax, fun hpossible => ?_⟩
        rw [hpossible] at himpossible
        cases himpossible
    | scanned hpossible => exact scanned_correct hbest hmax hpossible htrap

/-! ## Two links -/

section Samples

/-- The widths in MHz and the channels of the two sample frequencies. -/
def sampleCfg80211 : Cfg80211 where
  chanWidthToMhz
    | .w20NoHt | .w20 => 20
    | .w40 => 40
    | .w80 | .w80p80 => 80
    | .w160 => 160
    | .w5 => 5
    | .w10 => 10
    | .w1 => 1
    | .w2 => 2
    | .w4 => 4
    | .w8 => 8
    | .w16 => 16
    | .w320 => 320
  frequencyToChannel freq := if freq = 5210 then 42 else 7

def sampleChandef (band : Band) (chanCenterFreq centerFreq1 : ℕ) :
    ChanDef sampleCfg80211 :=
  ⟨band, chanCenterFreq, .w80, centerFreq1, 0, fun _ => by decide⟩

def sampleMld : IwlMld :=
  ⟨.default, false, false, false, false, none, 16, 0⟩

def sampleConf (signal : ℤ) (channelUtil : Fin 256) (linkId : ℕ) :
    BssConf sampleCfg80211 :=
  ⟨if linkId = 0 then sampleChandef .ghz5 5180 5210
    else sampleChandef .ghz6 5975 5985, signal, some channelUtil, false⟩

/-- Link 0 in 5 GHz is active; link 1 is in 6 GHz. -/
def sampleVif (signal : ℤ) (channelUtil : Fin 256) : MldVif sampleCfg80211 where
  type := .station
  p2p := false
  validLinks := 3
  dormantLinks := 0
  linkConf linkId :=
    if linkId < 2 then some (sampleConf signal channelUtil linkId) else none
  link linkId :=
    if linkId = 0 then some ⟨true, some ⟨.w80, 0, 90⟩⟩ else none
  authorized := true
  emlsrSupported := true
  isCdb := false
  lowLatencyCauses := 0
  blockedReasons := 0

def sampleEntry (signal : ℤ) (channelUtil : Fin 256) (linkId : ℕ) :
    LinkSelData sampleCfg80211 :=
  linkSelData (sampleConf signal channelUtil linkId)
    ((sampleVif signal channelUtil).link linkId) linkId

/-- Two good links: the pair is allowed and beats each of them. -/
theorem selectLinks_correct_good :
    iwlMldSelectLinks sampleMld (sampleVif (-5000) 128) 0 =
        some ⟨3, 0, 10326⟩ ∧
      ((⟨3, 0, 10326⟩ : LinkSelection).Correct sampleMld
          (sampleVif (-5000) 128) ↔
        ¬ ZeroGradeTrap sampleMld (sampleVif (-5000) 128)) := by
  have hselect : iwlMldSelectLinks sampleMld (sampleVif (-5000) 128) 0 =
      some ⟨3, 0, 10326⟩ := by decide +kernel
  exact ⟨hselect, selectLinks_correct_iff hselect⟩

/-- Two weak links on fully loaded channels: both are activated although the
RSSI of neither allows EMLSR. -/
theorem selectLinks_zero_grades :
    iwlMldSelectLinks sampleMld (sampleVif (-9500) 255) 0 = some ⟨3, 0, 0⟩ ∧
      iwlMldEmlsrPairState sampleMld (sampleVif (-9500) 255)
        (sampleEntry (-9500) 255 0) (sampleEntry (-9500) 255 1) =
          EmlsrExit.lowRssi.mask ∧
      ¬ (⟨3, 0, 0⟩ : LinkSelection).Correct sampleMld
        (sampleVif (-9500) 255) := by
  have hselect : iwlMldSelectLinks sampleMld (sampleVif (-9500) 255) 0 =
      some ⟨3, 0, 0⟩ := by decide +kernel
  have hstate : iwlMldEmlsrPairState sampleMld (sampleVif (-9500) 255)
      (sampleEntry (-9500) 255 0) (sampleEntry (-9500) 255 1) =
        EmlsrExit.lowRssi.mask := by decide +kernel
  have hzero : ∀ x ∈ (iwlMldSetLinkSelData (sampleVif (-9500) 255)).data,
      x.grade = 0 := by decide +kernel
  have htrap : ZeroGradeTrap sampleMld (sampleVif (-9500) 255) := by
    refine ⟨by decide +kernel, fun x hx => hzero x (mem_data_iff.mpr hx), [],
      sampleEntry (-9500) 255 0, sampleEntry (-9500) 255 1, rfl, ?_⟩
    rw [hstate]
    decide
  exact ⟨hselect, hstate, htrap.not_correct hselect⟩

end Samples

end IwlwifiStack
