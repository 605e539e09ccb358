import IwlwifiStack.PnvmSections

/-!
# What the parse of a PNVM image returns

Three things go wrong: a last TLV without its padding, a SKU TLV at the end of
the image, and a payload TLV shorter than its own header.  Without them the
parse stays in the image, and what it returns is the first accepted section.
-/

namespace IwlwifiStack

section Passes

variable {fw : Firmware} {hw : PnvmHw}

/-! ## The image -/

/-- What a SKU TLV sets is neither the image nor a store. -/
structure KeepsImage (atSku : ParseState → ParseState) : Prop where
  pnvmData : ∀ st, (atSku st).pnvmData = st.pnvmData
  stores : ∀ st, (atSku st).stores = st.stores

def imagePass (fw : Firmware) (hw : PnvmHw) (needsHw : Bool)
    (atSku : ParseState → ParseState) (skuId : SkuId) (whole : Bool)
    (tlvs : List PnvmTlv) (st : ParseState) : WalkResult (PnvmRet × ParseState) :=
  parsePass fw (sectionAt fw (pnvmTlv fw hw) (sectionFinish needsHw) whole)
    atSku skuId whole tlvs st

theorem ImageGood.start {image : PnvmImage} {stores : List ChunkStore}
    (hgood : ImageGood fw image stores) : ImageGood fw ⟨[], 0⟩ stores where
  inTlv := hgood.inTlv
  stored := by simp
  nChunks_le := by simp [PnvmImage.nChunks]

theorem SectionOutcome.acceptedChunks_ok {needsHw whole : Bool}
    {tlvs : List PnvmTlv} {stores : List ChunkStore} {sec : SectionState}
    (houtcome : SectionOutcome fw hw needsHw whole tlvs (.start stores) .ok sec) :
    acceptedChunks fw needsHw hw whole tlvs = some sec.pnvmData.chunks := by
  rcases houtcome.accepted rfl with ⟨later, hlater, hsec, haccepts⟩
  have hchunks : sec.pnvmData.chunks = later := hsec
  have hfulfils : Accepts needsHw (sectionNamesHw fw hw tlvs) later := haccepts
  rw [acceptedChunks, hlater, hchunks]
  exact if_pos hfulfils

theorem SectionOutcome.acceptedChunks_none {needsHw whole : Bool}
    {tlvs : List PnvmTlv} {stores : List ChunkStore} {sec : SectionState}
    {ret : PnvmRet} (hret : ret ≠ .ok)
    (houtcome : SectionOutcome fw hw needsHw whole tlvs (.start stores) ret sec) :
    acceptedChunks fw needsHw hw whole tlvs = none := by
  rw [acceptedChunks]
  cases hchunks : sectionChunks fw whole tlvs with
  | none => rfl
  | some later => exact if_neg (houtcome.refused hret later hchunks)

section Image

variable {needsHw whole : Bool} {atSku : ParseState → ParseState}
  {skuId : SkuId} {tlv : PnvmTlv} {rest : List PnvmTlv} {st : ParseState}

theorem imagePass_other (hfits : tlv.Fits fw)
    (hsku : tlv.type = .pnvmSku → tlv.body + 12 ≤ fw.size)
    (hstarts : ¬tlv.startsSection fw skuId = true) :
    imagePass fw hw needsHw atSku skuId whole (tlv :: rest) st =
      imagePass fw hw needsHw atSku skuId whole rest
        (if tlv.type = .pnvmSku then atSku st else st) := by
  rw [imagePass, parsePass, if_neg (PnvmTlv.passed_inside hfits hsku), if_neg hstarts]
  rfl

theorem imagePass_section (hfits : tlv.Fits fw)
    (hsku : tlv.type = .pnvmSku → tlv.body + 12 ≤ fw.size)
    (hstarts : tlv.startsSection fw skuId = true) {ret : PnvmRet}
    {sec : SectionState}
    (hpass : sectionAt fw (pnvmTlv fw hw) (sectionFinish needsHw) whole rest
      st.stores = .ret (ret, sec)) :
    imagePass fw hw needsHw atSku skuId whole (tlv :: rest) st =
      if ret = .ok then .ret (.ok, (atSku st).afterSection sec)
      else imagePass fw hw needsHw atSku skuId whole rest
        ((atSku st).afterSection sec) := by
  rw [imagePass, parsePass, if_neg (PnvmTlv.passed_inside hfits hsku), if_pos hstarts, hpass]
  cases ret <;> rfl

theorem imagePass_fits {result : PnvmRet × ParseState}
    (hpass : imagePass fw hw needsHw atSku skuId whole (tlv :: rest) st =
      .ret result) :
    tlv.Fits fw ∧ (tlv.type = .pnvmSku → tlv.body + 12 ≤ fw.size) := by
  by_contra hunfit
  have houtside : ¬tlv.Fits fw ∨
      tlv.type = .pnvmSku ∧ fw.size < tlv.body + 12 := by
    by_contra hneither
    simp only [not_or, not_not, not_and, not_lt] at hneither
    exact hunfit hneither
  rw [imagePass, parsePass, if_pos houtside] at hpass
  cases hpass

theorem imagePass_section_ret {result : PnvmRet × ParseState}
    (hstarts : tlv.startsSection fw skuId = true)
    (hpass : imagePass fw hw needsHw atSku skuId whole (tlv :: rest) st =
      .ret result) :
    ∃ ret sec, sectionAt fw (pnvmTlv fw hw) (sectionFinish needsHw) whole rest
      st.stores = .ret (ret, sec) := by
  rw [imagePass, parsePass, if_pos hstarts] at hpass
  split at hpass
  · cases hpass
  · cases hsection : sectionAt fw (pnvmTlv fw hw) (sectionFinish needsHw) whole
        rest st.stores with
    | outOfFuel =>
        rw [hsection] at hpass
        cases hpass
    | outside =>
        rw [hsection] at hpass
        cases hpass
    | ret sectionResult => exact ⟨sectionResult.1, sectionResult.2, rfl⟩

theorem imagePass_outcome (hkeeps : KeepsImage atSku) {tlvs : List PnvmTlv}
    (himage : ∀ tlv ∈ tlvs, tlv.InImage fw)
    (hgood : ImageGood fw st.pnvmData st.stores)
    (hinside : ParseInside fw needsHw hw skuId whole tlvs) :
    ∃ ret after, imagePass fw hw needsHw atSku skuId whole tlvs st =
        .ret (ret, after) ∧
      ImageGood fw after.pnvmData after.stores ∧
      (ret = .ok → firstAccepted fw needsHw hw skuId whole tlvs =
        some after.pnvmData.chunks) := by
  induction tlvs generalizing st with
  | nil =>
      refine ⟨_, st, rfl, hgood, fun hok => ?_⟩
      cases whole <;> cases hok
  | cons tlv rest ih =>
      have hrest := fun other hother =>
        himage other (List.mem_cons_of_mem tlv hother)
      rcases hinside with ⟨hfits, hsku, hsection, hgoes⟩
      rw [firstAccepted]
      by_cases hstarts : tlv.startsSection fw skuId = true
      · have hstart : ImageGood fw (SectionState.start st.stores).pnvmData
            (SectionState.start st.stores).stores := hgood.start
        have hfirst : SectionInside fw
            (SectionState.start st.stores).pnvmData.nChunks rest :=
          hsection hstarts
        rcases sectionPass_outcome needsHw whole hrest hstart hfirst with
          ⟨ret, sec, hpass, houtcome⟩
        rw [imagePass_section hfits hsku hstarts hpass, if_pos hstarts]
        by_cases hok : ret = .ok
        · rw [hok] at houtcome
          rw [if_pos hok, houtcome.acceptedChunks_ok]
          exact ⟨_, _, rfl, houtcome.good, fun _ => rfl⟩
        · have hnone := houtcome.acceptedChunks_none hok
          rw [if_neg hok, hnone]
          rcases hgoes with ⟨_, hsome⟩ | hlater
          · exact absurd hnone hsome
          · exact ih hrest houtcome.good hlater
      · rw [imagePass_other hfits hsku hstarts, if_neg hstarts]
        rcases hgoes with ⟨hsame, _⟩ | hlater
        · exact absurd hsame hstarts
        · apply ih hrest _ hlater
          by_cases htype : tlv.type = .pnvmSku
          · rw [if_pos htype, hkeeps.pnvmData, hkeeps.stores]
            exact hgood
          · rw [if_neg htype]
            exact hgood

theorem imagePass_stores (hkeeps : KeepsImage atSku) {tlvs : List PnvmTlv}
    (himage : ∀ tlv ∈ tlvs, tlv.InImage fw) {ret : PnvmRet} {after : ParseState}
    (hpass : imagePass fw hw needsHw atSku skuId whole tlvs st =
      .ret (ret, after)) : ∀ store ∈ st.stores, store ∈ after.stores := by
  induction tlvs generalizing st with
  | nil =>
      cases hpass
      exact fun _ hstore => hstore
  | cons tlv rest ih =>
      have hrest := fun other hother =>
        himage other (List.mem_cons_of_mem tlv hother)
      rcases imagePass_fits hpass with ⟨hfits, hsku⟩
      by_cases hstarts : tlv.startsSection fw skuId = true
      · rcases imagePass_section_ret hstarts hpass with
          ⟨sectionRet, sec, hsection⟩
        have hkept := sectionPass_stores hrest hsection
        rw [imagePass_section hfits hsku hstarts hsection] at hpass
        by_cases hok : sectionRet = .ok
        · rw [if_pos hok] at hpass
          cases hpass
          exact hkept
        · rw [if_neg hok] at hpass
          intro store hstore
          exact ih hrest hpass store (hkept store hstore)
      · rw [imagePass_other hfits hsku hstarts] at hpass
        intro store hstore
        apply ih hrest hpass store
        by_cases htype : tlv.type = .pnvmSku
        · rw [if_pos htype, hkeeps.stores]
          exact hstore
        · rw [if_neg htype]
          exact hstore

/-- A parse that returns with all stores inside of their TLVs stayed in the
image. -/
theorem parseInside_of_pass (hkeeps : KeepsImage atSku) {tlvs : List PnvmTlv}
    (himage : ∀ tlv ∈ tlvs, tlv.InImage fw)
    (hgood : ImageGood fw st.pnvmData st.stores) {ret : PnvmRet}
    {after : ParseState}
    (hpass : imagePass fw hw needsHw atSku skuId whole tlvs st =
      .ret (ret, after))
    (hstores : ∀ store ∈ after.stores, store.InTlv fw) :
    ParseInside fw needsHw hw skuId whole tlvs := by
  induction tlvs generalizing st with
  | nil => trivial
  | cons tlv rest ih =>
      have hrest := fun other hother =>
        himage other (List.mem_cons_of_mem tlv hother)
      rcases imagePass_fits hpass with ⟨hfits, hsku⟩
      refine ⟨hfits, hsku, ?_⟩
      by_cases hstarts : tlv.startsSection fw skuId = true
      · rcases imagePass_section_ret hstarts hpass with
          ⟨sectionRet, sec, hsection⟩
        rw [imagePass_section hfits hsku hstarts hsection] at hpass
        have hkept : ∀ store ∈ sec.stores, store.InTlv fw := by
          intro store hstore
          by_cases hok : sectionRet = .ok
          · rw [if_pos hok] at hpass
            cases hpass
            exact hstores store hstore
          · rw [if_neg hok] at hpass
            exact hstores store (imagePass_stores hkeeps hrest hpass store hstore)
        have hfirst : SectionInside fw 0 rest :=
          sectionInside_of_pass hrest hsection hkept
        refine ⟨fun _ => hfirst, ?_⟩
        have hstart : ImageGood fw (SectionState.start st.stores).pnvmData
            (SectionState.start st.stores).stores := hgood.start
        rcases sectionPass_outcome needsHw whole hrest hstart hfirst with
          ⟨otherRet, other, hother, houtcome⟩
        have hsame : (otherRet, other) = (sectionRet, sec) :=
          WalkResult.ret.inj (hother.symm.trans hsection)
        cases hsame
        by_cases hok : sectionRet = .ok
        · left
          rw [hok] at houtcome
          rw [houtcome.acceptedChunks_ok]
          exact ⟨hstarts, Option.some_ne_none _⟩
        · right
          rw [if_neg hok] at hpass
          exact ih hrest houtcome.good hpass
      · refine ⟨fun hsame => absurd hsame hstarts, Or.inr ?_⟩
        rw [imagePass_other hfits hsku hstarts] at hpass
        apply ih hrest _ hpass
        by_cases htype : tlv.type = .pnvmSku
        · rw [if_pos htype, hkeeps.pnvmData, hkeeps.stores]
          exact hgood
        · rw [if_neg htype]
          exact hgood

end Image

end Passes

/-! ## The two parses -/

def PnvmTlv.reducePower (tlv : PnvmTlv) : PnvmTlv :=
  { tlv with
    type :=
      match tlv.type with
      | .memDesc => .memDesc
      | .pnvmSku => .pnvmSku
      | _ => .other }

theorem PnvmTlv.reducePower_sku (tlv : PnvmTlv) :
    tlv.reducePower.type = .pnvmSku ↔ tlv.type = .pnvmSku := by
  rcases tlv with ⟨position, type, length⟩
  cases type <;> simp [PnvmTlv.reducePower]

theorem PnvmTlv.reducePower_inImage {fw : Firmware} {tlv : PnvmTlv}
    (himage : tlv.InImage fw) : tlv.reducePower.InImage fw :=
  ⟨himage.complete, himage.length_lt⟩

theorem pnvmTlv_reducePower (fw : Firmware) (hw : PnvmHw) (tlv : PnvmTlv)
    (st : SectionState) :
    pnvmTlv fw hw tlv.reducePower st = reducePowerTlv fw tlv st := by
  rcases tlv with ⟨position, type, length⟩
  cases type <;> rfl

theorem sectionPass_reducePower (fw : Firmware) (hw : PnvmHw) (whole : Bool)
    (tlvs : List PnvmTlv) (st : SectionState) :
    sectionPass fw (reducePowerTlv fw) reducePowerFinish whole tlvs st =
      sectionPass fw (pnvmTlv fw hw) (sectionFinish false) whole
        (tlvs.map PnvmTlv.reducePower) st := by
  have hfinish : reducePowerFinish = sectionFinish false := rfl
  rw [hfinish]
  induction tlvs generalizing st with
  | nil => rfl
  | cons tlv rest ih =>
      rw [List.map_cons, sectionPass, sectionPass, pnvmTlv_reducePower]
      cases reducePowerTlv fw tlv st with
      | none => rfl
      | some action =>
          cases action with
          | fail => rfl
          | done => rfl
          | next after =>
              dsimp only
              rw [ih]
              rfl

theorem parsePass_reducePower (fw : Firmware) (hw : PnvmHw) (skuId : SkuId)
    (whole : Bool) (tlvs : List PnvmTlv) (st : ParseState) :
    parsePass fw (sectionAt fw (reducePowerTlv fw) reducePowerFinish whole) id
        skuId whole tlvs st =
      imagePass fw hw false id skuId whole (tlvs.map PnvmTlv.reducePower) st := by
  induction tlvs generalizing st with
  | nil => rfl
  | cons tlv rest ih =>
      have hsku := tlv.reducePower_sku
      have hstarts : tlv.reducePower.startsSection fw skuId =
          tlv.startsSection fw skuId := by
        simp only [PnvmTlv.startsSection, hsku]
        rfl
      have hsection : sectionAt fw (reducePowerTlv fw) reducePowerFinish whole
          rest st.stores = sectionAt fw (pnvmTlv fw hw) (sectionFinish false)
            whole (rest.map PnvmTlv.reducePower) st.stores :=
        sectionPass_reducePower fw hw whole rest _
      rw [imagePass, List.map_cons, parsePass, parsePass, hstarts, hsection]
      simp only [hsku, ih]
      rfl

theorem setReducedCapSku_keeps (hw : PnvmHw) (skuId : SkuId) :
    KeepsImage (setReducedCapSku hw skuId) :=
  ⟨fun _ => rfl, fun _ => rfl⟩

theorem id_keeps : KeepsImage id :=
  ⟨fun _ => rfl, fun _ => rfl⟩

theorem iwlPnvmParse_eq (fw : Firmware) (hw : PnvmHw) (skuId : SkuId)
    (start : ParseState) {fuel : ℕ} (hfuel : fw.size + 1 < fuel) :
    iwlPnvmParse fw hw skuId start fuel =
      imagePass fw hw true (setReducedCapSku hw skuId) skuId
        (fw.pnvmTlvs 0).2 (fw.pnvmTlvs 0).1 start := by
  have hfinish : pnvmFinish = sectionFinish true := rfl
  rw [imagePass, ← hfinish]
  exact parseLoop_eq _ _ _ _ _ (Nat.zero_add _) hfuel

theorem iwlUefiReducePowerParse_eq (fw : Firmware) (hw : PnvmHw) (skuId : SkuId)
    (start : ParseState) {fuel : ℕ} (hfuel : fw.size + 1 < fuel) :
    iwlUefiReducePowerParse fw skuId start fuel =
      imagePass fw hw false id skuId (fw.pnvmTlvs 0).2
        ((fw.pnvmTlvs 0).1.map PnvmTlv.reducePower) start := by
  rw [← parsePass_reducePower]
  exact parseLoop_eq _ _ _ _ _ (Nat.zero_add _) hfuel

/-- The parse returns without a read outside of the image, stores at most 64
chunks, each inside of its TLV, and returns 0 only with the chunks given. -/
def ParsesRight (fw : Firmware) (first : Option (List PnvmChunk))
    (parse : ℕ → WalkResult (PnvmRet × ParseState)) : Prop :=
  ∃ ret after, (∀ fuel, fw.size + 1 < fuel → parse fuel = .ret (ret, after)) ∧
    ImageGood fw after.pnvmData after.stores ∧
    (ret = .ok → first = some after.pnvmData.chunks)

theorem parsesRight_iff {fw : Firmware} {hw : PnvmHw} {needsHw : Bool}
    {atSku : ParseState → ParseState} (hkeeps : KeepsImage atSku) {skuId : SkuId}
    {whole : Bool} {tlvs : List PnvmTlv} (himage : ∀ tlv ∈ tlvs, tlv.InImage fw)
    {start : ParseState} (hstart : ImageGood fw start.pnvmData start.stores)
    {parse : ℕ → WalkResult (PnvmRet × ParseState)}
    (hparse : ∀ fuel, fw.size + 1 < fuel →
      parse fuel = imagePass fw hw needsHw atSku skuId whole tlvs start) :
    ParsesRight fw (firstAccepted fw needsHw hw skuId whole tlvs) parse ↔
      ParseInside fw needsHw hw skuId whole tlvs := by
  constructor
  · rintro ⟨ret, after, hret, hgood, _⟩
    have hpass := hret (fw.size + 2) (by omega)
    rw [hparse (fw.size + 2) (by omega)] at hpass
    exact parseInside_of_pass hkeeps himage hstart hpass hgood.inTlv
  · intro hinside
    rcases imagePass_outcome hkeeps himage hstart hinside with
      ⟨ret, after, hpass, hgood, haccepted⟩
    refine ⟨ret, after, fun fuel hfuel => ?_, hgood, haccepted⟩
    rw [hparse fuel hfuel, hpass]

theorem ParseState.start_good (fw : Firmware) (reducedCapSku : Bool) :
    ImageGood fw (ParseState.start reducedCapSku).pnvmData
      (ParseState.start reducedCapSku).stores where
  inTlv := by simp [ParseState.start]
  stored := by simp [ParseState.start]
  nChunks_le := by simp [ParseState.start, PnvmImage.nChunks]

def pnvmChunks (fw : Firmware) (hw : PnvmHw) (skuId : SkuId) :
    Option (List PnvmChunk) :=
  firstAccepted fw true hw skuId (fw.pnvmTlvs 0).2 (fw.pnvmTlvs 0).1

def reducePowerChunks (fw : Firmware) (skuId : SkuId) :
    Option (List PnvmChunk) :=
  firstAccepted fw false ⟨0, 0⟩ skuId (fw.pnvmTlvs 0).2
    ((fw.pnvmTlvs 0).1.map PnvmTlv.reducePower)

def PnvmInside (fw : Firmware) (hw : PnvmHw) (skuId : SkuId) : Prop :=
  ParseInside fw true hw skuId (fw.pnvmTlvs 0).2 (fw.pnvmTlvs 0).1

def ReducePowerInside (fw : Firmware) (skuId : SkuId) : Prop :=
  ParseInside fw false ⟨0, 0⟩ skuId (fw.pnvmTlvs 0).2
    ((fw.pnvmTlvs 0).1.map PnvmTlv.reducePower)

/-- Both parses are right exactly for the images whose TLVs are there as far as
they are walked. -/
theorem pnvmParses_right_iff (fw : Firmware) (hw : PnvmHw) (skuId : SkuId)
    (reducedCapSku : Bool) :
    (ParsesRight fw (pnvmChunks fw hw skuId)
        (iwlPnvmParse fw hw skuId (.start reducedCapSku)) ↔
      PnvmInside fw hw skuId) ∧
    (ParsesRight fw (reducePowerChunks fw skuId)
        (iwlUefiReducePowerParse fw skuId (.start reducedCapSku)) ↔
      ReducePowerInside fw skuId) := by
  constructor
  · apply parsesRight_iff (setReducedCapSku_keeps hw skuId)
      (fw.pnvmTlvs_inImage 0) (ParseState.start_good fw reducedCapSku)
    exact fun fuel hfuel => iwlPnvmParse_eq fw hw skuId _ hfuel
  · apply parsesRight_iff id_keeps _ (ParseState.start_good fw reducedCapSku)
    · exact fun fuel hfuel => iwlUefiReducePowerParse_eq fw ⟨0, 0⟩ skuId _ hfuel
    · intro tlv htlv
      rcases List.mem_map.mp htlv with ⟨other, hother, heq⟩
      rw [← heq]
      exact PnvmTlv.reducePower_inImage (fw.pnvmTlvs_inImage 0 other hother)

/-! ## Two short images -/

section Samples

def imageOf (bytes : List UInt8) (hsize : bytes.length < 2 ^ 64) : Firmware where
  memory := fun position => bytes.getD position 0
  size := bytes.length
  size_lt := hsize

def unpaddedImage : Firmware :=
  imageOf [5, 0, 0, 0, 1, 0, 0, 0, 7] (by decide)

/-- A section for SKU id 0 and hardware 0 with a payload TLV of length 0, and
the next SKU TLV. -/
def shortPayloadImage : Firmware :=
  imageOf
    [64, 0, 0, 0, 12, 0, 0, 0, 0, 0, 0, 0, 0, 0, 0, 0, 0, 0, 0, 0,
      58, 0, 0, 0, 4, 0, 0, 0, 0, 0, 0, 0,
      19, 0, 0, 0, 0, 0, 0, 0,
      64, 0, 0, 0, 12, 0, 0, 0, 1, 0, 0, 0, 1, 0, 0, 0, 1, 0, 0, 0]
    (by decide)

theorem not_parsesRight_of_outside {fw : Firmware}
    {first : Option (List PnvmChunk)}
    {parse : ℕ → WalkResult (PnvmRet × ParseState)}
    (houtside : parse (fw.size + 2) = .outside) : ¬ParsesRight fw first parse := by
  rintro ⟨ret, after, hret, _⟩
  rw [hret (fw.size + 2) (by omega)] at houtside
  cases houtside

/-- Both parses read behind the first image; of the second a chunk of almost
4 GiB is returned. -/
theorem shortImages_parsed :
    ¬ParsesRight unpaddedImage (pnvmChunks unpaddedImage ⟨0, 0⟩ ⟨0, 0, 0⟩)
        (iwlPnvmParse unpaddedImage ⟨0, 0⟩ ⟨0, 0, 0⟩ (.start false)) ∧
      ¬ParsesRight unpaddedImage (reducePowerChunks unpaddedImage ⟨0, 0, 0⟩)
        (iwlUefiReducePowerParse unpaddedImage ⟨0, 0, 0⟩ (.start false)) ∧
      iwlPnvmParse shortPayloadImage ⟨0, 0⟩ ⟨0, 0, 0⟩ (.start false) 62 =
        .ret (.ok, ⟨⟨[⟨44, 4294967292⟩], 0⟩, false,
          [⟨0, ⟨32, .secRt, 0⟩, ⟨44, 4294967292⟩⟩]⟩) ∧
      ¬ParsesRight shortPayloadImage
        (pnvmChunks shortPayloadImage ⟨0, 0⟩ ⟨0, 0, 0⟩)
        (iwlPnvmParse shortPayloadImage ⟨0, 0⟩ ⟨0, 0, 0⟩ (.start false)) := by
  have hshort : iwlPnvmParse shortPayloadImage ⟨0, 0⟩ ⟨0, 0, 0⟩ (.start false)
      62 = .ret (.ok, ⟨⟨[⟨44, 4294967292⟩], 0⟩, false,
        [⟨0, ⟨32, .secRt, 0⟩, ⟨44, 4294967292⟩⟩]⟩) := by
    decide +kernel
  refine ⟨not_parsesRight_of_outside (by decide +kernel),
    not_parsesRight_of_outside (by decide +kernel), hshort, ?_⟩
  rintro ⟨ret, after, hret, hgood, _⟩
  have hreturned := hret 62 (by decide)
  rw [hshort] at hreturned
  cases hreturned
  have hinTlv := hgood.inTlv _ (List.mem_singleton_self _)
  exact absurd hinTlv.last (by decide)

end Samples

end IwlwifiStack
