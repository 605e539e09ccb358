import IwlwifiStack.ElementLibrary

/-!
# Transmit power envelopes

`ieee80211_parse_tpe` fills one of eight tables of power limits, by the interpretation and the
category of the element.  The element of a frame goes to `tpe`; the one inside a Channel Switch
Wrapper element is to go to `csa_tpe`.

A Transmit Power Envelope has an element ID of its own.  The wrapper is searched for an extension
element of that number instead, which is another ID space, so the envelope inside it is passed
over.
-/

namespace IwlwifiStack

open TagLengthValue

/-! ## Tables -/

inductive TpeIntrpt where
  | localEirp
  | localEirpPsd
  | regClientEirp
  | regClientEirpPsd
deriving DecidableEq

/-- `struct ieee80211_parsed_tpe_eirp` and `_psd`; only the latter has `n`. -/
@[ext] structure TpeTable where
  valid : Bool
  power : List UInt8
  count : ℕ
  n : ℕ
deriving DecidableEq

/-- `max_local`, `psd_local`, `max_reg_client` and `psd_reg_client`, each by category. -/
abbrev ParsedTpe := TpeIntrpt → ℕ → TpeTable

def TpeIntrpt.isPsd : TpeIntrpt → Bool
  | .localEirp | .regClientEirp => false
  | .localEirpPsd | .regClientEirpPsd => true

/-- `IEEE80211_TPE_EIRP_ENTRIES_320MHZ` and `IEEE80211_TPE_PSD_ENTRIES_320MHZ`. -/
def TpeIntrpt.entries (intrpt : TpeIntrpt) : ℕ :=
  if intrpt.isPsd then 16 else 5

/-- `ieee80211_clear_tpe` on zeroed memory; both limits that it sets are 127. -/
def ieee80211ClearTpe : ParsedTpe := fun intrpt _ =>
  { valid := false, power := List.replicate intrpt.entries 127, count := 0, n := 0 }

/-! ## The info octet -/

def tpeCount (info : UInt8) : ℕ :=
  info.toNat % 8

def tpeInterpret (info : UInt8) : Option TpeIntrpt :=
  match info.toNat / 8 % 8 with
  | 0 => some .localEirp
  | 1 => some .localEirpPsd
  | 2 => some .regClientEirp
  | 3 => some .regClientEirpPsd
  | _ => none

def tpeCategory (info : UInt8) : ℕ :=
  info.toNat / 64

/-- `IEEE80211_TX_PWR_ENV_EXT_COUNT`. -/
def tpeExtCount (octets : List UInt8) (i : ℕ) : ℕ :=
  dataOctet octets i % 16

/-! ## The size check -/

/-- `ieee80211_valid_tpe_element`, on `env->variable` for one interpretation. -/
def validTpeVariable (intrpt : TpeIntrpt) (count : ℕ) (octets : List UInt8) : Bool :=
  if intrpt.isPsd then
    let n := if count = 0 then 1 else 2 ^ (count - 1)
    if 4 < count ∨ octets.length < n then false
    else if n < octets.length then n + 1 + tpeExtCount octets n ≤ octets.length
    else true
  else
    count ≤ 3 ∧ count + 1 ≤ octets.length

def ieee80211ValidTpeElement (data : List UInt8) : Bool :=
  match data with
  | [] => false
  | info :: octets =>
    if 1 < tpeCategory info then false
    else
      match tpeInterpret info with
      | none => false
      | some intrpt => validTpeVariable intrpt (tpeCount info) octets

/-! ## Filling a table -/

/-- `memcpy(out + offset, src, n)` with `src` of `n` bytes; a `memset` copies a replicated byte. -/
def copyAt (out : List UInt8) (offset : ℕ) (src : List UInt8) : List UInt8 :=
  out.take offset ++ src ++ out.drop (offset + src.length)

/-- The cases of `IEEE80211_TPE_LOCAL_EIRP` and `IEEE80211_TPE_REG_CLIENT_EIRP`. -/
def parseTpeEirp (table : TpeTable) (count : ℕ) (octets : List UInt8) : TpeTable :=
  let table := { table with
    power := copyAt table.power 0 (octets.take (count + 1))
    count := count + 1 }
  if count = 3 ∧ count + 1 < octets.length then
    { table with power := copyAt table.power 4 [octets.getD 4 0], count := 5 }
  else table

/-- The cases of `IEEE80211_TPE_LOCAL_EIRP_PSD` and `IEEE80211_TPE_REG_CLIENT_EIRP_PSD`. -/
def parseTpePsd (table : TpeTable) (count : ℕ) (octets : List UInt8) : TpeTable :=
  if count = 0 then
    { table with
      power := copyAt table.power 0 (List.replicate 16 (octets.getD 0 0))
      count := 16 }
  else
    let n := 2 ^ (count - 1)
    let table := { table with
      power := copyAt table.power 0 (octets.take n)
      count := n
      n := n }
    if n < octets.length then
      let k := min (tpeExtCount octets n) (16 - n)
      { table with
        power := copyAt table.power n ((octets.drop (n + 1)).take k)
        count := table.count + k }
    else table

def ParsedTpe.set (tpe : ParsedTpe) (intrpt : TpeIntrpt) (category : ℕ) (table : TpeTable) :
    ParsedTpe :=
  Function.update tpe intrpt (Function.update (tpe intrpt) category table)

def ieee80211ParseTpe (tpe : ParsedTpe) (data : List UInt8) : ParsedTpe :=
  if ieee80211ValidTpeElement data then
    match data with
    | [] => tpe
    | info :: octets =>
      match tpeInterpret info with
      | none => tpe
      | some intrpt =>
        let category := tpeCategory info
        let table := { tpe intrpt category with valid := true }
        let parsed :=
          if intrpt.isPsd then parseTpePsd table (tpeCount info) octets
          else parseTpeEirp table (tpeCount info) octets
        tpe.set intrpt category parsed
  else tpe

/-! ## What an envelope states -/

/-- The table an envelope is for and the limits it puts there; `n` is only stated for a power
density of some subchannels. -/
structure TpeContent where
  intrpt : TpeIntrpt
  category : ℕ
  powers : List UInt8
  n : Option ℕ
deriving DecidableEq

def tpePowers (intrpt : TpeIntrpt) (count : ℕ) (octets : List UInt8) : List UInt8 :=
  if intrpt.isPsd then
    if count = 0 then List.replicate 16 (octets.getD 0 0)
    else
      let n := 2 ^ (count - 1)
      octets.take n ++
        (if n < octets.length then
          (octets.drop (n + 1)).take (min (tpeExtCount octets n) (16 - n))
        else [])
  else octets.take (if count = 3 then 5 else count + 1)

def tpeContent (data : List UInt8) : Option TpeContent :=
  match data with
  | [] => none
  | info :: octets =>
    if ieee80211ValidTpeElement (info :: octets) then
      (tpeInterpret info).map fun intrpt =>
        { intrpt := intrpt
          category := tpeCategory info
          powers := tpePowers intrpt (tpeCount info) octets
          n := if intrpt.isPsd ∧ tpeCount info ≠ 0 then some (2 ^ (tpeCount info - 1)) else none }
    else none

def TpeTable.write (table : TpeTable) (content : TpeContent) : TpeTable where
  valid := true
  power := copyAt table.power 0 content.powers
  count := content.powers.length
  n := content.n.getD table.n

def ParsedTpe.write (tpe : ParsedTpe) (content : TpeContent) : ParsedTpe :=
  tpe.set content.intrpt content.category ((tpe content.intrpt content.category).write content)

/-! ## An envelope stores what it states -/

theorem copyAt_copyAt (out first second : List UInt8) {offset : ℕ}
    (hoffset : offset = first.length) :
    copyAt (copyAt out 0 first) offset second = copyAt out 0 (first ++ second) := by
  subst hoffset
  simp [copyAt, List.take_left', List.drop_append]

theorem parseTpeEirp_eq (table : TpeTable) {count : ℕ} {octets : List UInt8}
    (hcount : count ≤ 3) (hlength : count + 1 ≤ octets.length) :
    parseTpeEirp table count octets =
      { table with
        power := copyAt table.power 0 (octets.take (if count = 3 then 5 else count + 1))
        count := (octets.take (if count = 3 then 5 else count + 1)).length } := by
  unfold parseTpeEirp
  by_cases hwide : count = 3 ∧ count + 1 < octets.length
  · rcases hwide with ⟨hthree, hmore⟩
    subst hthree
    have htake : octets.take 4 ++ [octets.getD 4 0] = octets.take 5 := by
      rw [List.getD_eq_getElem _ _ hmore]
      exact List.take_concat_get' octets 4 hmore
    have hfour : 4 = (octets.take (3 + 1)).length := by
      rw [List.length_take]
      omega
    have hlong : (octets.take 5).length = 5 := by
      rw [List.length_take]
      omega
    rw [if_pos ⟨rfl, hmore⟩, if_pos rfl, hlong, ← htake, ← copyAt_copyAt _ _ _ hfour]
  · have htake : octets.take (if count = 3 then 5 else count + 1) = octets.take (count + 1) := by
      by_cases hthree : count = 3
      · have hshort : octets.length ≤ count + 1 := by
          by_contra hlong
          exact hwide ⟨hthree, by omega⟩
        rw [if_pos hthree, List.take_of_length_le hshort, List.take_of_length_le (by omega)]
      · rw [if_neg hthree]
    simp only [if_neg hwide]
    rw [htake, List.length_take, min_eq_left hlength]

theorem parseTpePsd_eq (table : TpeTable) {count : ℕ} {octets : List UInt8}
    (hvalid : validTpeVariable .localEirpPsd count octets) :
    parseTpePsd table count octets =
      { table with
        power := copyAt table.power 0 (tpePowers .localEirpPsd count octets)
        count := (tpePowers .localEirpPsd count octets).length
        n := if count = 0 then table.n else 2 ^ (count - 1) } := by
  unfold parseTpePsd
  by_cases hzero : count = 0
  · simp [tpePowers, TpeIntrpt.isPsd, hzero]
  · have hpowers : tpePowers .localEirpPsd count octets = octets.take (2 ^ (count - 1)) ++
        (if 2 ^ (count - 1) < octets.length then
          (octets.drop (2 ^ (count - 1) + 1)).take
            (min (tpeExtCount octets (2 ^ (count - 1))) (16 - 2 ^ (count - 1)))
        else []) := by
      simp only [tpePowers, TpeIntrpt.isPsd, if_true, if_neg hzero]
    simp only [validTpeVariable, TpeIntrpt.isPsd, if_true, if_neg hzero] at hvalid
    rw [hpowers, if_neg hzero, if_neg hzero]
    generalize 2 ^ (count - 1) = n at hvalid ⊢
    split at hvalid
    · cases hvalid
    · next hlong =>
      have hn : n = (octets.take n).length := by
        rw [List.length_take]
        omega
      by_cases hext : n < octets.length
      · rw [if_pos hext, decide_eq_true_iff] at hvalid
        simp only [if_pos hext]
        rw [copyAt_copyAt _ _ _ hn]
        congr 1
        rw [List.length_append, ← hn, List.length_take, List.length_drop]
        omega
      · simp only [if_neg hext, List.append_nil]
        rw [← hn]

theorem validTpeVariable_psd {intrpt : TpeIntrpt} (hpsd : intrpt.isPsd) (count : ℕ)
    (octets : List UInt8) :
    validTpeVariable intrpt count octets = validTpeVariable .localEirpPsd count octets := by
  simp only [validTpeVariable, hpsd]
  rfl

theorem tpePowers_psd {intrpt : TpeIntrpt} (hpsd : intrpt.isPsd) (count : ℕ)
    (octets : List UInt8) :
    tpePowers intrpt count octets = tpePowers .localEirpPsd count octets := by
  simp only [tpePowers, hpsd]
  rfl

theorem tpeContent_eq_none_iff (data : List UInt8) :
    tpeContent data = none ↔ ieee80211ValidTpeElement data = false := by
  cases data with
  | nil => simp [tpeContent, ieee80211ValidTpeElement]
  | cons info octets =>
    by_cases hvalid : ieee80211ValidTpeElement (info :: octets)
    · cases hintrpt : tpeInterpret info with
      | none => simp [ieee80211ValidTpeElement, hintrpt] at hvalid
      | some intrpt => simp [tpeContent, hvalid, hintrpt]
    · simp [tpeContent, hvalid]

theorem tpeContent_n_ne_zero {data : List UInt8} {content : TpeContent}
    (hcontent : tpeContent data = some content) : content.n ≠ some 0 := by
  cases data with
  | nil => cases hcontent
  | cons info octets =>
    simp only [tpeContent] at hcontent
    split at hcontent
    · rcases Option.map_eq_some_iff.mp hcontent with ⟨intrpt, hintrpt, hrecord⟩
      rw [← hrecord]
      simp only
      split
      · simp
      · simp
    · cases hcontent

theorem ieee80211ParseTpe_eq_write (tpe : ParsedTpe) (data : List UInt8) :
    ieee80211ParseTpe tpe data =
      match tpeContent data with
      | none => tpe
      | some content => tpe.write content := by
  cases data with
  | nil => rfl
  | cons info octets =>
    by_cases hvalid : ieee80211ValidTpeElement (info :: octets)
    · cases hintrpt : tpeInterpret info with
      | none => simp [ieee80211ValidTpeElement, hintrpt] at hvalid
      | some intrpt =>
        have hvariable : validTpeVariable intrpt (tpeCount info) octets := by
          simp only [ieee80211ValidTpeElement, hintrpt] at hvalid
          split at hvalid
          · cases hvalid
          · exact hvalid
        simp only [ieee80211ParseTpe, tpeContent, hvalid, if_true, hintrpt, Option.map_some,
          ParsedTpe.write]
        congr 1
        cases hpsd : intrpt.isPsd with
        | true =>
          rw [validTpeVariable_psd hpsd] at hvariable
          simp only [if_true, TpeTable.write, true_and]
          rw [parseTpePsd_eq _ hvariable, tpePowers_psd hpsd]
          by_cases hzero : tpeCount info = 0
          · simp [hzero]
          · simp [hzero]
        | false =>
          simp only [validTpeVariable, hpsd, Bool.false_eq_true, if_false,
            decide_eq_true_iff] at hvariable
          simp only [Bool.false_eq_true, if_false, TpeTable.write, tpePowers, hpsd, false_and,
            Option.getD_none]
          rw [parseTpeEirp_eq _ hvariable.1 hvariable.2]
    · simp [ieee80211ParseTpe, tpeContent, hvalid]

/-! ## From cleared tables, what is stored tells what was stated -/

theorem ParsedTpe.set_self (tpe : ParsedTpe) (intrpt : TpeIntrpt) (category : ℕ)
    (table : TpeTable) : tpe.set intrpt category table intrpt category = table := by
  simp [ParsedTpe.set]

theorem ParsedTpe.set_other (tpe : ParsedTpe) {intrpt other : TpeIntrpt} {category index : ℕ}
    (hother : ¬(other = intrpt ∧ index = category)) (table : TpeTable) :
    tpe.set intrpt category table other index = tpe other index := by
  unfold ParsedTpe.set
  by_cases hsame : other = intrpt
  · subst hsame
    have hindex : index ≠ category := fun heq => hother ⟨rfl, heq⟩
    rw [Function.update_self, Function.update_of_ne hindex]
  · rw [Function.update_of_ne hsame]

theorem clear_write_valid (content : TpeContent) (intrpt : TpeIntrpt) (category : ℕ) :
    (ieee80211ClearTpe.write content intrpt category).valid = true ↔
      intrpt = content.intrpt ∧ category = content.category := by
  unfold ParsedTpe.write
  by_cases hsame : intrpt = content.intrpt ∧ category = content.category
  · rw [hsame.1, hsame.2, ParsedTpe.set_self]
    simp [TpeTable.write]
  · rw [ParsedTpe.set_other _ hsame]
    simp [ieee80211ClearTpe, hsame]

theorem clear_write_ne (content : TpeContent) :
    ieee80211ClearTpe ≠ ieee80211ClearTpe.write content := by
  intro heq
  have hvalid := (clear_write_valid content content.intrpt content.category).mpr ⟨rfl, rfl⟩
  rw [← heq] at hvalid
  cases hvalid

theorem clear_write_injective {content other : TpeContent} (hn : content.n ≠ some 0)
    (hotherN : other.n ≠ some 0)
    (heq : ieee80211ClearTpe.write content = ieee80211ClearTpe.write other) :
    content = other := by
  have hvalid := (clear_write_valid content content.intrpt content.category).mpr ⟨rfl, rfl⟩
  rw [heq] at hvalid
  have hsame := (clear_write_valid other _ _).mp hvalid
  have htable := congrFun (congrFun heq content.intrpt) content.category
  have hleft : ieee80211ClearTpe.write content content.intrpt content.category =
      (ieee80211ClearTpe content.intrpt content.category).write content :=
    ParsedTpe.set_self _ _ _ _
  have hright : ieee80211ClearTpe.write other content.intrpt content.category =
      (ieee80211ClearTpe content.intrpt content.category).write other := by
    rw [hsame.1, hsame.2]
    exact ParsedTpe.set_self _ _ _ _
  rw [hleft, hright] at htable
  have hcount : content.powers.length = other.powers.length := congrArg TpeTable.count htable
  have hpower := congrArg TpeTable.power htable
  simp only [TpeTable.write, copyAt, List.take_zero, List.nil_append] at hpower
  have hpowers : content.powers = other.powers := (List.append_inj hpower hcount).1
  have hgetD : content.n.getD 0 = other.n.getD 0 := congrArg TpeTable.n htable
  have hstated : content.n = other.n := by
    cases hleftN : content.n with
    | none =>
      cases hrightN : other.n with
      | none => rfl
      | some value =>
        rw [hleftN, hrightN] at hgetD
        rw [hrightN] at hotherN
        exact absurd (congrArg some hgetD.symm) hotherN
    | some value =>
      cases hrightN : other.n with
      | none =>
        rw [hleftN, hrightN] at hgetD
        rw [hleftN] at hn
        exact absurd (congrArg some hgetD) hn
      | some otherValue =>
        rw [hleftN, hrightN] at hgetD
        exact congrArg some hgetD
  cases content
  cases other
  simp_all

/-! ## The wrapper and the top level -/

/-- What the elements parsed so far have left in `tpe` and in `csa_tpe`. -/
def ElemsParse.tpeTables (elems : ElemsParse) : ParsedTpe :=
  elems.tpe.foldl ieee80211ParseTpe ieee80211ClearTpe

def ElemsParse.csaTpeTables (elems : ElemsParse) : ParsedTpe :=
  elems.csaTpe.foldl ieee80211ParseTpe ieee80211ClearTpe

/-- `cfg80211_find_ext_elem` finds the first extension element with the extension ID. -/
def ElemsLib.FindExtDocumented (lib : ElemsLib) : Prop :=
  ∀ extId buf, lib.findExtElem extId buf =
    buf.elements.find? fun elem => elem.id = wlanEidExtension && elem.data.head? = some extId

theorem cfg80211Lib_findExtDocumented : cfg80211Lib.FindExtDocumented :=
  fun _ _ => rfl

/-- The wrapper changes `csa_tpe` as the envelope on its own changes `tpe`. -/
def SameEnvelopeStored (lib : ElemsLib) (params : ElemsParseParams)
    (wrapper envelope : Element) : Prop :=
  ∀ st st' : PassState, st.elems.csaTpeTables = st'.elems.tpeTables →
    (st.parseElement lib params wrapper).elems.csaTpeTables =
      (st'.parseElement lib params envelope).elems.tpeTables

variable {lib : ElemsLib} {params : ElemsParseParams} {wrapper envelope : Element}

theorem parseElement_wrapper_tables (hid : wrapper.id = wlanEidChannelSwitchWrapper)
    (st : PassState) :
    (st.parseElement lib params wrapper).elems.csaTpeTables =
      (parseChannelSwitchWrapper lib params wrapper).csaTpe.toList.foldl ieee80211ParseTpe
        st.elems.csaTpeTables := by
  have hdup : dupChecked wrapper.id = false := by
    rw [hid]
    rfl
  have hcase : parseElementCase lib params st.elems.skipVendor (st.elems.kept .heCap) wrapper =
      parseChannelSwitchWrapper lib params wrapper := by
    unfold parseElementCase
    rw [hid]
    rfl
  unfold PassState.parseElement ElemsParse.csaTpeTables
  rw [hdup, hcase]
  exact List.foldl_append

theorem parseElement_envelope_tables (hid : envelope.id = wlanEidTxPowerEnvelope)
    (st : PassState) :
    (st.parseElement lib params envelope).elems.tpeTables =
      if params.mode.rank < ConnMode.he.rank then st.elems.tpeTables
      else ieee80211ParseTpe st.elems.tpeTables envelope.data := by
  have hdup : dupChecked envelope.id = false := by
    rw [hid]
    rfl
  have hcase : parseElementCase lib params st.elems.skipVendor (st.elems.kept .heCap) envelope =
      CaseOutcome.fromMode params .he
        { CaseOutcome.nothing with tpe := some envelope.data } := by
    unfold parseElementCase
    rw [hid]
    rfl
  unfold PassState.parseElement ElemsParse.tpeTables
  rw [hdup, hcase, CaseOutcome.fromMode]
  by_cases hlow : params.mode.rank < ConnMode.he.rank
  · rw [if_pos hlow, if_pos hlow]
    exact List.foldl_append
  · rw [if_neg hlow, if_neg hlow]
    exact List.foldl_append

theorem parseChannelSwitchWrapper_csaTpe (hlib : lib.FindExtDocumented) :
    (parseChannelSwitchWrapper lib params wrapper).csaTpe =
      if params.isAction = false ∧ ConnMode.eht.rank ≤ params.mode.rank then
        (wrapper.subelements.elements.find? fun elem =>
          elem.id = wlanEidExtension && elem.data.head? = some wlanEidTxPowerEnvelope).map
            fun sub => sub.data.tail
      else none := by
  have heht : ConnMode.eht.rank = 5 := rfl
  have hvht : ConnMode.vht.rank = 3 := rfl
  unfold parseChannelSwitchWrapper
  by_cases hlow : params.mode.rank < ConnMode.vht.rank
  · rw [if_pos hlow, if_neg (by omega)]
    rfl
  · rw [if_neg hlow]
    cases haction : params.isAction with
    | true => simp [CaseOutcome.fail, CaseOutcome.nothing]
    | false =>
      rw [if_neg Bool.false_ne_true]
      by_cases hmode : params.mode.rank < ConnMode.eht.rank
      · rw [if_pos hmode, if_neg (by omega)]
        split
        · unfold CaseOutcome.keepIf
          split
          · rfl
          · rfl
        · rfl
      · rw [if_neg hmode, if_pos ⟨rfl, by omega⟩]
        exact congrArg (Option.map _) (hlib _ _)

/-- The wrapper around an envelope does what the envelope does on its own only where neither is
looked at, or where an extension element of the envelope's number states the same limits. -/
theorem sameEnvelopeStored_iff (hlib : lib.FindExtDocumented)
    (hwrapper : wrapper.id = wlanEidChannelSwitchWrapper)
    (henvelope : envelope.id = wlanEidTxPowerEnvelope)
    (hvalid : ieee80211ValidTpeElement envelope.data) :
    SameEnvelopeStored lib params wrapper envelope ↔
      params.mode.rank < ConnMode.he.rank ∨
        params.isAction = false ∧ ConnMode.eht.rank ≤ params.mode.rank ∧
          ∃ sub, (wrapper.subelements.elements.find? fun elem =>
              elem.id = wlanEidExtension && elem.data.head? = some wlanEidTxPowerEnvelope) =
                some sub ∧
            tpeContent sub.data.tail = tpeContent envelope.data := by
  have hhe : ConnMode.he.rank = 4 := rfl
  have heht : ConnMode.eht.rank = 5 := rfl
  have hstated : ∃ content, tpeContent envelope.data = some content := by
    apply Option.ne_none_iff_exists'.mp
    intro hnone
    have hinvalid := (tpeContent_eq_none_iff envelope.data).mp hnone
    rw [hvalid] at hinvalid
    cases hinvalid
  rcases hstated with ⟨content, hcontent⟩
  unfold SameEnvelopeStored
  simp only [parseElement_wrapper_tables hwrapper, parseElement_envelope_tables henvelope,
    parseChannelSwitchWrapper_csaTpe hlib]
  by_cases hlow : params.mode.rank < ConnMode.he.rank
  · have hnot : ¬(params.isAction = false ∧ ConnMode.eht.rank ≤ params.mode.rank) := by omega
    rw [if_neg hnot]
    simp [hlow]
  · simp only [if_neg hlow]
    constructor
    · intro hsame
      right
      let start : PassState := ⟨initialElems params, fun _ => false, 0⟩
      have hclear := hsame start start rfl
      have hwrite : ieee80211ParseTpe start.elems.tpeTables envelope.data =
          ieee80211ClearTpe.write content := by
        rw [ieee80211ParseTpe_eq_write, hcontent]
        rfl
      rw [hwrite] at hclear
      by_cases hparsed : params.isAction = false ∧ ConnMode.eht.rank ≤ params.mode.rank
      · rw [if_pos hparsed] at hclear
        apply And.intro hparsed.1
        apply And.intro hparsed.2
        cases hfind : wrapper.subelements.elements.find? fun elem =>
            elem.id = wlanEidExtension && elem.data.head? = some wlanEidTxPowerEnvelope with
        | none =>
          rw [hfind] at hclear
          exact absurd hclear (clear_write_ne content)
        | some sub =>
          rw [hfind] at hclear
          have hsub : ieee80211ParseTpe ieee80211ClearTpe sub.data.tail =
              ieee80211ClearTpe.write content := hclear
          apply Exists.intro sub
          apply And.intro rfl
          rw [ieee80211ParseTpe_eq_write] at hsub
          cases hother : tpeContent sub.data.tail with
          | none =>
            rw [hother] at hsub
            exact absurd hsub (clear_write_ne content)
          | some other =>
            rw [hother] at hsub
            rw [hcontent, clear_write_injective (tpeContent_n_ne_zero hother)
              (tpeContent_n_ne_zero hcontent) hsub]
      · rw [if_neg hparsed] at hclear
        exact absurd hclear (clear_write_ne content)
    · intro hcond st st' htables
      rcases hcond with hbelow | ⟨haction, hmode, sub, hfind, hequal⟩
      · exact absurd hbelow hlow
      · rw [if_pos ⟨haction, hmode⟩, hfind, htables]
        have hsub : ieee80211ParseTpe st'.elems.tpeTables sub.data.tail =
            ieee80211ParseTpe st'.elems.tpeTables envelope.data := by
          rw [ieee80211ParseTpe_eq_write, ieee80211ParseTpe_eq_write, hequal]
        exact hsub

/-! ## An envelope in a beacon -/

def sampleEnvelope : Element where
  offset := 2
  id := wlanEidTxPowerEnvelope
  data := [0, 40]
  origin := .frame

def sampleWrapper : Element where
  offset := 0
  id := wlanEidChannelSwitchWrapper
  data := [wlanEidTxPowerEnvelope, 2, 0, 40]
  origin := .frame

def sampleBeacon : ElemsParseParams where
  mode := .eht
  buf := ⟨.frame, 0, [wlanEidChannelSwitchWrapper, 4, wlanEidTxPowerEnvelope, 2, 0, 40]⟩
  type := 0x80
  filter := 0
  crc := 0
  bss := none
  linkId := -1
  fromAp := true

/-- The search over the wrapper finds nothing, so `csa_tpe` stays as it was. -/
theorem sampleWrapper_passed_over :
    sampleWrapper.id = wlanEidChannelSwitchWrapper ∧
      sampleEnvelope ∈ sampleWrapper.subelements.elements ∧
      sampleEnvelope.id = wlanEidTxPowerEnvelope ∧
      ieee80211ValidTpeElement sampleEnvelope.data = true ∧
      ¬SameEnvelopeStored cfg80211Lib sampleBeacon sampleWrapper sampleEnvelope := by
  apply And.intro rfl
  apply And.intro (by decide)
  apply And.intro rfl
  apply And.intro (by decide)
  intro hsame
  let start : PassState := ⟨initialElems sampleBeacon, fun _ => false, 0⟩
  have htables := hsame start start rfl
  have hvalid : ((start.parseElement cfg80211Lib sampleBeacon sampleWrapper).elems.csaTpeTables
      .localEirp 0).valid = false := by
    decide +kernel
  rw [htables] at hvalid
  exact absurd hvalid (by decide +kernel)

/-- The extension element of the same number, which the search does find. -/
def extendedWrapper : Element where
  offset := 0
  id := wlanEidChannelSwitchWrapper
  data := [wlanEidExtension, 3, wlanEidTxPowerEnvelope, 0, 40]
  origin := .frame

theorem sampleEnvelope_iff :
    SameEnvelopeStored cfg80211Lib sampleBeacon extendedWrapper sampleEnvelope ∧
      (SameEnvelopeStored cfg80211Lib sampleBeacon sampleWrapper sampleEnvelope ↔
        sampleBeacon.mode.rank < ConnMode.he.rank ∨
          sampleBeacon.isAction = false ∧ ConnMode.eht.rank ≤ sampleBeacon.mode.rank ∧
            ∃ sub, (sampleWrapper.subelements.elements.find? fun elem =>
                elem.id = wlanEidExtension && elem.data.head? = some wlanEidTxPowerEnvelope) =
                  some sub ∧
              tpeContent sub.data.tail = tpeContent sampleEnvelope.data) := by
  constructor
  · apply (sameEnvelopeStored_iff cfg80211Lib_findExtDocumented rfl rfl (by decide)).mpr
    right
    refine ⟨rfl, by decide,
      ⟨⟨2, wlanEidExtension, [wlanEidTxPowerEnvelope, 0, 40]⟩, .frame⟩, ?_, rfl⟩
    decide
  · exact sameEnvelopeStored_iff cfg80211Lib_findExtDocumented rfl rfl (by decide)

end IwlwifiStack
