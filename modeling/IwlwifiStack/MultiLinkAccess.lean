import IwlwifiStack.ApRemovalModel
import IwlwifiStack.EmbeddedProfile
import IwlwifiStack.TtlmElements

/-!
# Reading a multi-link element

The accessors of `ieee80211-eht.h` as they read the bytes of an element or of a per-STA profile; a
read behind the end has the answer `none`.  The size checks leave room for the fields, each of
which stands behind those before it that are present.
-/

namespace IwlwifiStack

open TagLengthValue

/-! ## Accessors -/

/-- `ieee80211_mle_common_size` with what it reads. -/
def mleCommonSizeRead (data : List UInt8) : Option ℕ :=
  (readLe16 data 0).bind fun control =>
    if control % 8 ≤ 4 then (readByte data 2).map fun commonLen => (2 + commonLen) % 256
    else some 0

/-- The fields of the common info of a basic element behind `mld_mac_addr`. -/
inductive BasicMleField where
  | linkId | bssParamChCnt | medSyncDelay | emlCapa | mldCapaOp | mldId | extMldCapaOp
  deriving DecidableEq, Repr

namespace BasicMleField

/-- `IEEE80211_MLC_BASIC_PRES_LINK_ID` and so on. -/
def presence : BasicMleField → ℕ
  | .linkId => 0x0010
  | .bssParamChCnt => 0x0020
  | .medSyncDelay => 0x0040
  | .emlCapa => 0x0080
  | .mldCapaOp => 0x0100
  | .mldId => 0x0200
  | .extMldCapaOp => 0x0400

def size : BasicMleField → ℕ
  | .linkId | .bssParamChCnt | .mldId => 1
  | .medSyncDelay | .emlCapa | .mldCapaOp | .extMldCapaOp => 2

def order : List BasicMleField :=
  [.linkId, .bssParamChCnt, .medSyncDelay, .emlCapa, .mldCapaOp, .mldId, .extMldCapaOp]

end BasicMleField

/-- What the presence bits add to `common`. -/
def presentSize (control : ℕ) (fields : List BasicMleField) : ℕ :=
  (fields.map fun field => addIf (hasBits control field.presence) field.size).sum

/-- The accessor of a field behind those in `before`. -/
def mleGetField (data : List UInt8) (before : List BasicMleField) (field : BasicMleField)
    (absent : ℤ) : Option ℤ :=
  (readLe16 data 0).bind fun control =>
    let common := 9 + presentSize control before
    if ¬hasBits control field.presence then some absent
    else if field.size = 1 then (readByte data common).map Int.ofNat
    else (readLe16 data common).map Int.ofNat

def ieee80211MleGetLinkId (data : List UInt8) : Option ℤ :=
  mleGetField data [] .linkId (-1)

def ieee80211MleGetBssParamChCnt (data : List UInt8) : Option ℤ :=
  mleGetField data [.linkId] .bssParamChCnt (-1)

/-- `IEEE80211_MED_SYNC_DELAY_DEFAULT` if not present. -/
def ieee80211MleGetEmlMedSyncDelay (data : List UInt8) : Option ℤ :=
  mleGetField data [.linkId, .bssParamChCnt] .medSyncDelay 0x10ac

def ieee80211MleGetEmlCap (data : List UInt8) : Option ℤ :=
  mleGetField data [.linkId, .bssParamChCnt, .medSyncDelay] .emlCapa 0

def ieee80211MleGetMldCapaOp (data : List UInt8) : Option ℤ :=
  mleGetField data [.linkId, .bssParamChCnt, .medSyncDelay, .emlCapa] .mldCapaOp 0

def ieee80211MleGetExtMldCapaOp (data : List UInt8) : Option ℤ :=
  mleGetField data [.linkId, .bssParamChCnt, .medSyncDelay, .emlCapa, .mldCapaOp, .mldId]
    .extMldCapaOp 0

def ieee80211MleGetMldId (data : List UInt8) : Option ℤ :=
  mleGetField data [.linkId, .bssParamChCnt, .medSyncDelay, .emlCapa, .mldCapaOp] .mldId 0

def staInfoBeforeCount (control : ℕ) : ℕ :=
  addIf (hasBits control 0x0020) 6 + addIf (hasBits control 0x0040) 2 +
    addIf (hasBits control 0x0080) 8 + addIf (hasBits control 0x0100) 2 +
    addIf (hasBits control 0x0010 && hasBits control 0x0200)
      (if hasBits control 0x0400 then 2 else 1)

/-- `ieee80211_mle_basic_sta_prof_bss_param_ch_cnt`. -/
def ieee80211MleBasicStaProfBssParamChCnt (prof : List UInt8) : Option ℕ :=
  (readLe16 prof 0).bind fun control =>
    if ¬hasBits control 0x0800 then some 0
    else readByte prof (3 + staInfoBeforeCount control)

/-- The AP removal timer of a reconfiguration profile as `ieee80211_ml_reconfiguration` reads
it. -/
def apRemTimerRead (prof : List UInt8) : Option (Option ℕ) :=
  (readLe16 prof 0).bind fun control =>
    if hasBits control 0x0040 then
      (readLe16 prof (3 + addIf (hasBits control 0x0020) 6)).map some
    else some none

/-! ## What the fields hold -/

namespace BasicMleField

def get : BasicMleField → List UInt8 → Option ℤ
  | .linkId => ieee80211MleGetLinkId
  | .bssParamChCnt => ieee80211MleGetBssParamChCnt
  | .medSyncDelay => ieee80211MleGetEmlMedSyncDelay
  | .emlCapa => ieee80211MleGetEmlCap
  | .mldCapaOp => ieee80211MleGetMldCapaOp
  | .mldId => ieee80211MleGetMldId
  | .extMldCapaOp => ieee80211MleGetExtMldCapaOp

def absent : BasicMleField → ℤ
  | .linkId | .bssParamChCnt => -1
  | .medSyncDelay => 0x10ac
  | .emlCapa | .mldCapaOp | .mldId | .extMldCapaOp => 0

def offset (control : ℕ) (field : BasicMleField) : ℕ :=
  9 + presentSize control (order.takeWhile fun other => other ≠ field)

def value (data : List UInt8) (field : BasicMleField) : ℤ :=
  if ¬hasBits (getLe16 data 0) field.presence then field.absent
  else if field.size = 1 then dataOctet data (field.offset (getLe16 data 0))
  else getLe16 data (field.offset (getLe16 data 0))

end BasicMleField

/-! ## Reads inside of the element -/

theorem readLe16_eq {data : List UInt8} {pos : ℕ} (hpos : pos + 1 < data.length) :
    readLe16 data pos = some (getLe16 data pos) := by
  rw [readLe16, readByte_eq (Nat.lt_of_succ_lt hpos), readByte_eq hpos]
  rfl

theorem mleSizeOk_length {data : List UInt8} (hok : ieee80211MleSizeOk data = true) :
    2 ≤ data.length := by
  unfold ieee80211MleSizeOk at hok
  split at hok
  · cases hok
  · next hlong => exact Nat.not_lt.mp hlong

theorem mleSizeOk_known {data : List UInt8} {common : ℕ} {checkCommonLen : Bool}
    (hok : ieee80211MleSizeOk data = true)
    (hneeded : mleCommonNeeded data = some (common, checkCommonLen)) :
    2 + common ≤ data.length ∧ (checkCommonLen = true → common ≤ dataOctet data 2) := by
  have hlong := mleSizeOk_length hok
  simp only [ieee80211MleSizeOk, if_neg (Nat.not_lt.mpr hlong), hneeded] at hok
  exact of_decide_eq_true hok

namespace BasicMleField

theorem presentSize_append (control : ℕ) (before after : List BasicMleField) :
    presentSize control (before ++ after) =
      presentSize control before + presentSize control after := by
  rw [presentSize, List.map_append, List.sum_append]
  rfl

theorem offset_add_size_le {control : ℕ} {field : BasicMleField}
    (hpresent : hasBits control field.presence = true) :
    field.offset control + field.size ≤ 9 + presentSize control order := by
  have hsplit : ∃ after, order = (order.takeWhile fun other => other ≠ field) ++
      field :: after := by
    cases field
    all_goals exact ⟨_, rfl⟩
  rcases hsplit with ⟨after, hsplit⟩
  have hsize : presentSize control (field :: after) =
      field.size + presentSize control after := by
    rw [presentSize, List.map_cons, List.sum_cons, hpresent]
    rfl
  have horder := congrArg (presentSize control) hsplit
  rw [presentSize_append, hsize] at horder
  unfold offset
  omega

theorem mleCommonNeeded_basic {data : List UInt8} (hbasic : mlControlType data = .basic) :
    mleCommonNeeded data = some (7 + presentSize (getLe16 data 0) order, true) := by
  have hsum : presentSize (getLe16 data 0) order =
      addIf (hasBits (getLe16 data 0) 0x0010) 1 + (addIf (hasBits (getLe16 data 0) 0x0020) 1 +
        (addIf (hasBits (getLe16 data 0) 0x0040) 2 + (addIf (hasBits (getLe16 data 0) 0x0080) 2 +
          (addIf (hasBits (getLe16 data 0) 0x0100) 2 +
            (addIf (hasBits (getLe16 data 0) 0x0200) 1 +
              (addIf (hasBits (getLe16 data 0) 0x0400) 2 + 0)))))) := rfl
  simp only [mleCommonNeeded, hbasic, hsum, Nat.add_zero, Nat.add_assoc]

theorem get_eq (field : BasicMleField) (data : List UInt8) :
    field.get data =
      mleGetField data (order.takeWhile fun other => other ≠ field) field field.absent := by
  cases field
  all_goals rfl

theorem get_value {data : List UInt8} (hok : ieee80211MleSizeOk data = true)
    (hbasic : mlControlType data = .basic) (field : BasicMleField) :
    field.get data = some (field.value data) ∧
      (hasBits (getLe16 data 0) field.presence = true →
        field.offset (getLe16 data 0) + field.size ≤ data.length) := by
  have hlong := mleSizeOk_length hok
  have hroom := (mleSizeOk_known hok (mleCommonNeeded_basic hbasic)).1
  have hinside : hasBits (getLe16 data 0) field.presence = true →
      field.offset (getLe16 data 0) + field.size ≤ data.length := by
    intro hpresent
    have hend := offset_add_size_le hpresent
    omega
  apply And.intro _ hinside
  rw [get_eq, mleGetField, readLe16_eq hlong, Option.bind_some]
  simp only [value]
  by_cases hpresent : hasBits (getLe16 data 0) field.presence = true
  · have hend := hinside hpresent
    simp only [hpresent, not_true_eq_false, if_false]
    by_cases hsize : field.size = 1
    · rw [hsize] at hend
      rw [if_pos hsize, if_pos hsize]
      have hread := readByte_eq hend
      exact congrArg (Option.map Int.ofNat) hread
    · have htwo : field.size = 2 := by
        cases field
        all_goals first | rfl | exact absurd rfl hsize
      rw [htwo] at hend
      rw [if_neg hsize, if_neg hsize]
      have hread := readLe16_eq hend
      exact congrArg (Option.map Int.ofNat) hread
  · rw [if_pos hpresent, if_pos hpresent]

end BasicMleField

theorem mleCommonSizeRead_eq {data : List UInt8} (hok : ieee80211MleSizeOk data = true)
    (hlong : 2 < data.length ∨ mlControlType data = .unknown) :
    mleCommonSizeRead data = some (ieee80211MleCommonSize data) := by
  have htwo := mleSizeOk_length hok
  rw [mleCommonSizeRead, readLe16_eq htwo, Option.bind_some]
  have hknown : mlControlType data = .unknown ↔ ¬getLe16 data 0 % 8 ≤ 4 := by
    have hrange : getLe16 data 0 % 8 < 8 := Nat.mod_lt _ (by omega)
    unfold mlControlType
    interval_cases getLe16 data 0 % 8
    all_goals decide
  unfold ieee80211MleCommonSize
  by_cases hunknown : mlControlType data = .unknown
  · rw [if_neg (hknown.mp hunknown), if_pos hunknown]
  · have hread : getLe16 data 0 % 8 ≤ 4 := by
      by_contra hmore
      exact hunknown (hknown.mpr hmore)
    have hthree : 2 < data.length := hlong.resolve_right hunknown
    rw [if_pos hread, if_neg hunknown, readByte_eq hthree]
    rfl

/-- Of the types whose size check counts the octet of the common length only a reconfiguration
element can be too short for it. -/
theorem mleSizeOk_long {data : List UInt8} (hok : ieee80211MleSizeOk data = true)
    (htype : mlControlType data ≠ .reconf) :
    2 < data.length ∨ mlControlType data = .unknown := by
  cases hcontrol : mlControlType data with
  | unknown => exact Or.inr rfl
  | reconf => exact absurd hcontrol htype
  | basic =>
      have hroom := (mleSizeOk_known hok (BasicMleField.mleCommonNeeded_basic hcontrol)).1
      left
      omega
  | preq =>
      have hneeded : mleCommonNeeded data =
          some (1 + addIf (hasBits (getLe16 data 0) 0x0010) 1, true) := by
        simp only [mleCommonNeeded, hcontrol]
      have hroom := (mleSizeOk_known hok hneeded).1
      left
      omega
  | tdls =>
      have hneeded : mleCommonNeeded data = some (7, true) := by
        simp only [mleCommonNeeded, hcontrol]
      have hroom := (mleSizeOk_known hok hneeded).1
      left
      omega
  | prioAccess =>
      have hneeded : mleCommonNeeded data = some (7, false) := by
        simp only [mleCommonNeeded, hcontrol]
      have hroom := (mleSizeOk_known hok hneeded).1
      left
      omega

/-! ## Profiles -/

theorem basicStaProf_infoLen {prof : List UInt8}
    (hok : ieee80211MleBasicStaProfSizeOk prof = true) :
    1 ≤ dataOctet prof 2 ∧ 2 + dataOctet prof 2 ≤ prof.length := by
  simp only [ieee80211MleBasicStaProfSizeOk, decide_eq_true_eq] at hok
  omega

theorem reconfStaProf_infoLen {prof : List UInt8}
    (hok : ieee80211MleReconfStaProfSizeOk prof = true) :
    1 ≤ dataOctet prof 2 ∧ 2 + dataOctet prof 2 ≤ prof.length := by
  simp only [ieee80211MleReconfStaProfSizeOk, decide_eq_true_eq] at hok
  omega

theorem basicStaProf_bssParamChCnt {prof : List UInt8}
    (hok : ieee80211MleBasicStaProfSizeOk prof = true) :
    ieee80211MleBasicStaProfBssParamChCnt prof =
      some (if hasBits (getLe16 prof 0) 0x0800 then
        dataOctet prof (3 + staInfoBeforeCount (getLe16 prof 0)) else 0) := by
  simp only [ieee80211MleBasicStaProfSizeOk, decide_eq_true_eq] at hok
  rcases hok with ⟨hlong, hneeded, hinside⟩
  rw [ieee80211MleBasicStaProfBssParamChCnt, readLe16_eq (by omega), Option.bind_some]
  by_cases hpresent : hasBits (getLe16 prof 0) 0x0800 = true
  · rw [hpresent] at hneeded
    have hone : addIf true 1 = 1 := rfl
    rw [hone] at hneeded
    have hcount : 3 + staInfoBeforeCount (getLe16 prof 0) < prof.length := by
      unfold staInfoBeforeCount
      omega
    simp only [hpresent, not_true_eq_false, if_false, if_true, readByte_eq hcount]
  · rw [if_pos hpresent, if_neg hpresent]

theorem reconfStaProf_timer {prof : List UInt8}
    (hok : ieee80211MleReconfStaProfSizeOk prof = true) :
    apRemTimerRead prof =
      some (if apRemTimerPresent prof then some (apRemTimer prof) else none) := by
  simp only [ieee80211MleReconfStaProfSizeOk, decide_eq_true_eq] at hok
  rcases hok with ⟨hlong, hneeded, hinside⟩
  rw [apRemTimerRead, readLe16_eq (by omega), Option.bind_some, apRemTimerPresent]
  split
  · next hpresent =>
    rw [hpresent] at hneeded
    have htwo : addIf true 2 = 2 := rfl
    rw [htwo] at hneeded
    rw [readLe16_eq (by omega)]
    rfl
  · rfl

end IwlwifiStack
