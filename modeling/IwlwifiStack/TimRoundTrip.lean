import IwlwifiStack.S1gTimModel

/-!
# The TIM of beacons outside of the S1G band

`__ieee80211_beacon_add_tim` writes the part of the bitmap between the first and the last octet
that is not zero, from an even octet on.  `__ieee80211_check_tim` looks an association ID up in
that part.  Both compute in octets, so the range that the decoder rebuilds is compared here with
the one that the encoder wrote.
-/

namespace IwlwifiStack

/-! ## Encoding -/

/-- The fields of `struct ps_data`; `tim` has `IEEE80211_MAX_TIM_LEN`, 251, octets. -/
structure TimPsData where
  numStaPs : ℤ
  tim : ℕ → UInt8
  dtimCount : ℕ
  bcBufEmpty : Bool

def apTimBit (tim : ℕ → UInt8) (aid : ℕ) : Bool :=
  (tim (aid / 8)).toNat.testBit (aid % 8)

/-- `N1`: the first octet that is not zero, rounded down to an even number. -/
def timN1 (tim : ℕ → UInt8) : ℕ :=
  match (List.range 251).find? fun i => tim i ≠ 0 with
  | some i => i &&& 0xfe
  | none => 0

/-- `N2`: the last octet that is not zero below a bound, but not below `N1`. -/
def timN2 (tim : ℕ → UInt8) (n1 : ℕ) : ℕ → ℕ
  | 0 => n1
  | i + 1 => if i < n1 then n1 else if tim i ≠ 0 then i else timN2 tim n1 i

def timOctets (tim : ℕ → UInt8) (start count : ℕ) : List UInt8 :=
  (List.range count).map fun k => tim (start + k)

def ieee80211BeaconAddTimPvb (tim : ℕ → UInt8) (mcastTraffic : Bool) : List UInt8 :=
  let n1 := timN1 tim
  let n2 := timN2 tim n1 251
  UInt8.ofNat (n1 ||| mcastTraffic.toNat) :: timOctets tim n1 (n2 - n1 + 1)

def TimPsData.nextDtimCount (ps : TimPsData) (dtimPeriod : ℕ) (isTemplate : Bool) : ℕ :=
  if isTemplate then ps.dtimCount
  else if ps.dtimCount = 0 then (dtimPeriod + 255) % 256
  else ps.dtimCount - 1

def TimPsData.haveBits (ps : TimPsData) : Bool :=
  if 0 < ps.numStaPs then (List.range 2008).any (apTimBit ps.tim) else false

/-- The data of the element that `__ieee80211_beacon_add_tim` puts, and `ps->dtim_bc_mc`. -/
def ieee80211BeaconAddTim (ps : TimPsData) (dtimPeriod : ℕ) (isTemplate s1g : Bool) :
    List UInt8 × Bool :=
  let dtimCount := ps.nextDtimCount dtimPeriod isTemplate
  let mcastTraffic := dtimCount = 0 && !ps.bcBufEmpty
  let pvb :=
    if ps.haveBits then
      if s1g then ieee80211S1gBeaconAddTimPvb ps.tim mcastTraffic
      else ieee80211BeaconAddTimPvb ps.tim mcastTraffic
    else if s1g then []
    else [UInt8.ofNat mcastTraffic.toNat, 0]
  (UInt8.ofNat dtimCount :: UInt8.ofNat dtimPeriod :: pvb, mcastTraffic)

/-! ## Decoding -/

/-- `__ieee80211_check_tim`; `none` is an access outside of the memory of the element. -/
def ieee80211CheckTim (tim : Option (List UInt8)) (timLen aid : ℕ) : Option Bool :=
  match tim with
  | none => some false
  | some mem =>
    if timLen < 4 then some false
    else
      let aid := aid &&& 0x3fff
      let index := aid / 8 % 256
      match readByte mem 2 with
      | none => none
      | some bitmapCtrl =>
        let indexn1 := bitmapCtrl &&& 0xfe
        let indexn2 := (timLen + indexn1 - 4) % 256
        if index < indexn1 ∨ indexn2 < index then some false
        else (readByte mem (3 + (index - indexn1))).map fun octet => octet.testBit (aid &&& 7)

/-! ## No access outside of the element -/

theorem checkTim_inside {mem : List UInt8} (hmin : 4 ≤ mem.length) (hmax : mem.length < 256)
    (aid : ℕ) : ∃ bit, ieee80211CheckTim (some mem) mem.length aid = some bit := by
  have hctrl : ∃ ctrl, readByte mem 2 = some ctrl ∧ ctrl < 256 := by
    have hget : mem[2]? = some mem[2] := List.getElem?_eq_getElem (by omega)
    exact ⟨mem[2].toNat, by rw [readByte, hget]; rfl, UInt8.toNat_lt _⟩
  rcases hctrl with ⟨ctrl, hread, hctrl⟩
  have hlow : ctrl &&& 0xfe ≤ ctrl := Nat.and_le_left
  simp only [ieee80211CheckTim, if_neg (Nat.not_lt.mpr hmin), hread]
  split
  · exact ⟨false, rfl⟩
  · next hrange =>
    have hindex : 3 + ((aid &&& 0x3fff) / 8 % 256 - (ctrl &&& 0xfe)) < mem.length := by
      omega
    have hget : mem[3 + ((aid &&& 0x3fff) / 8 % 256 - (ctrl &&& 0xfe))]? = some _ :=
      List.getElem?_eq_getElem hindex
    rw [readByte, hget]
    exact ⟨_, rfl⟩

/-! ## The range that is written -/

theorem timN2_range (tim : ℕ → UInt8) {n1 bound : ℕ} (hbound : n1 < bound) :
    n1 ≤ timN2 tim n1 bound ∧ timN2 tim n1 bound < bound ∧
      ∀ j, timN2 tim n1 bound < j → j < bound → tim j = 0 := by
  induction bound with
  | zero => omega
  | succ i ih =>
    unfold timN2
    have hlow : ¬i < n1 := by omega
    rw [if_neg hlow]
    split
    · exact ⟨by omega, by omega, fun j hj hlt => by omega⟩
    · next hzero =>
      have hoctet : tim i = 0 := not_not.mp hzero
      rcases Nat.lt_or_ge n1 i with hinside | hend
      · have hrest := ih hinside
        apply And.intro hrest.1
        apply And.intro (by omega)
        intro j hj hlt
        rcases Nat.lt_or_ge j i with hbelow | habove
        · exact hrest.2.2 j hj hbelow
        · have hsame : j = i := by omega
          rw [hsame]
          exact hoctet
      · have hsame : i = n1 := by omega
        have hstop : timN2 tim n1 i = n1 := by
          rw [hsame]
          cases n1 with
          | zero => rfl
          | succ k =>
            unfold timN2
            rw [if_pos (Nat.lt_succ_self k)]
        rw [hstop]
        apply And.intro le_rfl
        apply And.intro (by omega)
        intro j hj hlt
        omega

theorem timN1_range {tim : ℕ → UInt8} {octet : ℕ} (hoctet : octet < 251) (hset : tim octet ≠ 0) :
    timN1 tim ≤ octet ∧ timN1 tim &&& 0xfe = timN1 tim ∧
      ∀ j < timN1 tim, tim j = 0 := by
  unfold timN1
  cases hfind : (List.range 251).find? fun i => tim i ≠ 0 with
  | none =>
    have hall := List.find?_eq_none.mp hfind octet (List.mem_range.mpr hoctet)
    exact absurd (by simpa using hall) hset
  | some i =>
    have hfirst := List.find?_range_eq_some.mp hfind
    have hbefore : ∀ j < i, tim j = 0 := fun j hj => by simpa using hfirst.2.2 j hj
    have hle : i ≤ octet := by
      by_contra hlater
      exact hset (hbefore octet (by omega))
    have hround : i &&& 0xfe ≤ i := Nat.and_le_left
    apply And.intro (hround.trans hle)
    apply And.intro (Nat.and_assoc _ _ _)
    intro j hj
    exact hbefore j (lt_of_lt_of_le hj hround)

theorem bitmapCtrl_and (n1 : ℕ) (mcastTraffic : Bool) :
    (n1 ||| mcastTraffic.toNat) &&& 0xfe = n1 &&& 0xfe := by
  rw [Nat.and_or_distrib_right]
  cases mcastTraffic with
  | true => exact Nat.or_zero _
  | false => exact Nat.or_zero _

/-! ## What is looked up -/

theorem readByte_timOctets (tim : ℕ → UInt8) {start count k : ℕ} (hk : k < count)
    (first second third : UInt8) :
    readByte (first :: second :: third :: timOctets tim start count) (3 + k) =
      some (tim (start + k)).toNat := by
  have hget : (timOctets tim start count)[k]? = some (tim (start + k)) := by
    simp [timOctets, hk]
  rw [readByte, Nat.add_comm 3 k]
  simp [hget]

theorem checkTim_octets (tim : ℕ → UInt8) {start count aid : ℕ} (hcount : 0 < count)
    (hend : start + count ≤ 251) (haid : aid ≤ 2007) (first second ctrl : UInt8)
    (hctrl : ctrl.toNat &&& 0xfe = start) :
    ieee80211CheckTim (some (first :: second :: ctrl :: timOctets tim start count)) (3 + count)
        aid =
      some (decide (start ≤ aid / 8 ∧ aid / 8 < start + count) && apTimBit tim aid) := by
  have hmask : aid &&& 0x3fff = aid := by
    rw [Nat.and_two_pow_sub_one_eq_mod aid 14]
    omega
  have hlow : aid &&& 7 = aid % 8 := Nat.and_two_pow_sub_one_eq_mod aid 3
  have hindex : aid / 8 % 256 = aid / 8 := by omega
  have hlast : (3 + count + start - 4) % 256 = start + count - 1 := by omega
  have hread : readByte (first :: second :: ctrl :: timOctets tim start count) 2 =
      some ctrl.toNat := rfl
  have hlong : ¬3 + count < 4 := by omega
  simp only [ieee80211CheckTim, if_neg hlong, hread, hctrl, hmask, hindex, hlast, hlow]
  by_cases hrange : start ≤ aid / 8 ∧ aid / 8 < start + count
  · have hinside : ¬(aid / 8 < start ∨ start + count - 1 < aid / 8) := by omega
    have hk : aid / 8 - start < count := by omega
    have hoctet : start + (aid / 8 - start) = aid / 8 := by omega
    rw [if_neg hinside, readByte_timOctets tim hk, hoctet]
    simp [hrange, apTimBit]
  · have houtside : aid / 8 < start ∨ start + count - 1 < aid / 8 := by omega
    rw [if_pos houtside]
    simp [hrange]

theorem timBit_eq_false {tim : ℕ → UInt8} {aid : ℕ} (hzero : tim (aid / 8) = 0) :
    apTimBit tim aid = false := by
  rw [apTimBit, hzero]
  exact Nat.zero_testBit _

theorem checkTim_pvb (tim : ℕ → UInt8) {octet aid : ℕ} (hoctet : octet < 251)
    (hset : tim octet ≠ 0) (haid : aid ≤ 2007) (first second : UInt8) (mcastTraffic : Bool) :
    ieee80211CheckTim (some (first :: second :: ieee80211BeaconAddTimPvb tim mcastTraffic))
        (first :: second :: ieee80211BeaconAddTimPvb tim mcastTraffic).length aid =
      some (apTimBit tim aid) := by
  rcases timN1_range hoctet hset with ⟨hn1, heven, hbefore⟩
  rcases timN2_range tim (lt_of_le_of_lt hn1 hoctet) with ⟨hn2, hlast, hafter⟩
  have hsmall : timN1 tim ||| mcastTraffic.toNat < 256 := by
    apply @Nat.or_lt_two_pow _ _ 8
    · omega
    · cases mcastTraffic with
      | true => decide
      | false => decide
  have hctrl : (UInt8.ofNat (timN1 tim ||| mcastTraffic.toNat)).toNat &&& 0xfe = timN1 tim := by
    rw [UInt8.toNat_ofNat_of_lt' hsmall, bitmapCtrl_and, heven]
  have hlength : (first :: second :: ieee80211BeaconAddTimPvb tim mcastTraffic).length =
      3 + (timN2 tim (timN1 tim) 251 - timN1 tim + 1) := by
    simp only [ieee80211BeaconAddTimPvb, timOctets, List.length_cons, List.length_map,
      List.length_range]
    omega
  rw [hlength]
  have hfound := checkTim_octets tim (Nat.succ_pos (timN2 tim (timN1 tim) 251 - timN1 tim))
    (by omega) haid first second _ hctrl
  refine hfound.trans ?_
  by_cases hrange : timN1 tim ≤ aid / 8 ∧
      aid / 8 < timN1 tim + (timN2 tim (timN1 tim) 251 - timN1 tim + 1)
  · simp [hrange]
  · have hzero : tim (aid / 8) = 0 := by
      rcases Nat.lt_or_ge (aid / 8) (timN1 tim) with hlow | hhigh
      · exact hbefore _ hlow
      · exact hafter _ (by omega) (by omega)
    rw [timBit_eq_false hzero, Bool.and_false]

theorem checkTim_empty {aid : ℕ} (haid : aid ≤ 2007) (first second : UInt8)
    (mcastTraffic : Bool) :
    ieee80211CheckTim (some [first, second, UInt8.ofNat mcastTraffic.toNat, 0]) 4 aid =
      some false := by
  have hctrl : (UInt8.ofNat mcastTraffic.toNat).toNat &&& 0xfe = 0 := by
    cases mcastTraffic with
    | true => rfl
    | false => rfl
  have hfound := checkTim_octets (fun _ => 0) Nat.one_pos (by omega) haid first second _ hctrl
  have hzero : apTimBit (fun _ => 0) aid = false := timBit_eq_false rfl
  rw [hzero, Bool.and_false] at hfound
  exact hfound

/-! ## The round trip -/

theorem haveBits_octet {ps : TimPsData} (hbits : ps.haveBits = true) :
    ∃ octet < 251, ps.tim octet ≠ 0 := by
  unfold TimPsData.haveBits at hbits
  split at hbits
  · rcases List.any_eq_true.mp hbits with ⟨aid, haid, hbit⟩
    apply Exists.intro (aid / 8)
    apply And.intro
    · have hlt := List.mem_range.mp haid
      omega
    · intro hzero
      rw [timBit_eq_false hzero] at hbit
      cases hbit
  · cases hbits

theorem not_haveBits {ps : TimPsData} (hbits : ps.haveBits = false) {aid : ℕ}
    (haid : aid ≤ 2007) : (decide (0 < ps.numStaPs) && apTimBit ps.tim aid) = false := by
  unfold TimPsData.haveBits at hbits
  split at hbits
  · have hclear := List.any_eq_false.mp hbits aid (List.mem_range.mpr (by omega))
    simp [hclear]
  · next hnone => simp [hnone]

theorem beaconAddTim_length_lt (ps : TimPsData) (dtimPeriod : ℕ) (isTemplate : Bool) :
    (ieee80211BeaconAddTim ps dtimPeriod isTemplate false).1.length < 256 := by
  cases hbits : ps.haveBits with
  | true =>
    rcases haveBits_octet hbits with ⟨octet, hoctet, hset⟩
    have hn1 := (timN1_range hoctet hset).1
    have hn2 := timN2_range ps.tim (lt_of_le_of_lt hn1 hoctet)
    simp only [ieee80211BeaconAddTim, hbits, if_true, Bool.false_eq_true, if_false,
      ieee80211BeaconAddTimPvb, timOctets, List.length_cons, List.length_map, List.length_range]
    omega
  | false =>
    simp only [ieee80211BeaconAddTim, hbits, Bool.false_eq_true, if_false, List.length_cons,
      List.length_nil]
    omega

/-- The element that the beacon holds shows the bit of every association ID if a station is in
power save; otherwise it shows none.  No element makes the decoder read behind its end. -/
theorem beaconAddTim_checkTim (ps : TimPsData) (dtimPeriod : ℕ) (isTemplate : Bool) {aid : ℕ}
    (haid : 1 ≤ aid ∧ aid ≤ 2007) :
    (ieee80211BeaconAddTim ps dtimPeriod isTemplate false).1.length < 256 ∧
      ieee80211CheckTim (some (ieee80211BeaconAddTim ps dtimPeriod isTemplate false).1)
        (ieee80211BeaconAddTim ps dtimPeriod isTemplate false).1.length aid =
      some (decide (0 < ps.numStaPs) && apTimBit ps.tim aid) ∧
      ∀ mem : List UInt8, 4 ≤ mem.length → mem.length < 256 → ∀ other,
        ieee80211CheckTim (some mem) mem.length other ≠ none := by
  apply And.intro (beaconAddTim_length_lt ps dtimPeriod isTemplate)
  constructor
  · cases hbits : ps.haveBits with
    | true =>
      rcases haveBits_octet hbits with ⟨octet, hoctet, hset⟩
      have hsta : 0 < ps.numStaPs := by
        by_contra hnone
        rw [TimPsData.haveBits, if_neg hnone] at hbits
        cases hbits
      simp only [ieee80211BeaconAddTim, hbits, if_true, Bool.false_eq_true, if_false, hsta,
        decide_true, Bool.true_and]
      exact checkTim_pvb ps.tim hoctet hset haid.2 _ _ _
    | false =>
      rw [not_haveBits hbits haid.2]
      simp only [ieee80211BeaconAddTim, hbits, Bool.false_eq_true, if_false]
      exact checkTim_empty haid.2 _ _ _
  · intro mem hmin hmax other hnone
    rcases checkTim_inside hmin hmax other with ⟨bit, hbit⟩
    rw [hbit] at hnone
    cases hnone

def awakePsData : TimPsData where
  numStaPs := 0
  tim := fun i => if i = 0 then 2 else 0
  dtimCount := 0
  bcBufEmpty := true

theorem awakePsData_not_shown :
    apTimBit awakePsData.tim 1 = true ∧
      ieee80211CheckTim (some (ieee80211BeaconAddTim awakePsData 1 false false).1)
        (ieee80211BeaconAddTim awakePsData 1 false false).1.length 1 = some false := by
  decide +kernel

/-- Of two sleeping stations, 20 and 2007, the second has frames buffered. -/
def sleepingPsData : TimPsData where
  numStaPs := 2
  tim := fun i => if i = 250 then 0x80 else 0
  dtimCount := 0
  bcBufEmpty := false

theorem sleepingPsData_checkTim :
    (ieee80211BeaconAddTim sleepingPsData 1 false false).1.length < 256 ∧
      ieee80211CheckTim (some (ieee80211BeaconAddTim sleepingPsData 1 false false).1)
        (ieee80211BeaconAddTim sleepingPsData 1 false false).1.length 2007 = some true ∧
      ieee80211CheckTim (some (ieee80211BeaconAddTim sleepingPsData 1 false false).1)
        (ieee80211BeaconAddTim sleepingPsData 1 false false).1.length 20 = some false ∧
      ∀ mem : List UInt8, 4 ≤ mem.length → mem.length < 256 → ∀ other,
        ieee80211CheckTim (some mem) mem.length other ≠ none := by
  have hbuffered := @beaconAddTim_checkTim sleepingPsData 1 false 2007 (by decide)
  have hidle := @beaconAddTim_checkTim sleepingPsData 1 false 20 (by decide)
  exact ⟨hbuffered.1, hbuffered.2.1, hidle.2.1, hbuffered.2.2⟩

end IwlwifiStack
