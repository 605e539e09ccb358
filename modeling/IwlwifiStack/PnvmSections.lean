import IwlwifiStack.PnvmTlvs

/-!
# The sections of a PNVM image

The chunks of a section are those of its payload TLVs.  A section is accepted
when each of its payload TLVs is well formed, there are between 1 and 64 of
them, and, for the PNVM, it names the hardware.
-/

namespace IwlwifiStack

/-! ## Sections -/

section Sections

variable (fw : Firmware)

/-- The chunks of one TLV; none for a payload TLV that is not well formed. -/
def PnvmTlv.chunks (tlv : PnvmTlv) : Option (List PnvmChunk) :=
  match tlv.type with
  | .secRt =>
    if fw.le32 tlv.body = pnvmSeparator then some []
    else if tlv.length < 4 then none
    else some [⟨tlv.body + 4, tlv.length - 4⟩]
  | .memDesc =>
    if tlv.length < 8 then none
    else if fw.le32 (tlv.body + 4) ≠ tlv.length - 8 then none
    else some [⟨tlv.body + 8, tlv.length - 8⟩]
  | _ => some []

def PnvmTlv.namesHw (hw : PnvmHw) (tlv : PnvmTlv) : Bool :=
  decide (tlv.type = .hwType ∧ 4 ≤ tlv.length ∧
    fw.le16 tlv.body = csrHwRevType hw.hwRev ∧
    fw.le16 (tlv.body + 2) = csrHwRfidType hw.hwRfId)

/-- The chunks of the TLVs up to the next SKU TLV; none also for a section
that an incomplete TLV ends. -/
def sectionChunks (whole : Bool) : List PnvmTlv → Option (List PnvmChunk)
  | [] => if whole then some [] else none
  | tlv :: rest =>
    if tlv.type = .pnvmSku then some []
    else do
      let chunks ← tlv.chunks fw
      let later ← sectionChunks whole rest
      some (chunks ++ later)

def sectionNamesHw (hw : PnvmHw) : List PnvmTlv → Bool
  | [] => false
  | tlv :: rest =>
    if tlv.type = .pnvmSku then false
    else tlv.namesHw fw hw || sectionNamesHw hw rest

def Accepts (needsHw : Bool) (hwMatch : Bool) (chunks : List PnvmChunk) : Prop :=
  chunks ≠ [] ∧ chunks.length ≤ ipcDramMapEntryNumMax ∧
    (needsHw = true → hwMatch = true)

instance (needsHw hwMatch : Bool) (chunks : List PnvmChunk) :
    Decidable (Accepts needsHw hwMatch chunks) :=
  inferInstanceAs (Decidable (_ ∧ _))

def acceptedChunks (needsHw : Bool) (hw : PnvmHw) (whole : Bool)
    (tlvs : List PnvmTlv) : Option (List PnvmChunk) :=
  match sectionChunks fw whole tlvs with
  | none => none
  | some chunks =>
    if Accepts needsHw (sectionNamesHw fw hw tlvs) chunks then some chunks
    else none

/-- The chunks of the first section of the device that is accepted. -/
def firstAccepted (needsHw : Bool) (hw : PnvmHw) (skuId : SkuId)
    (whole : Bool) : List PnvmTlv → Option (List PnvmChunk)
  | [] => none
  | tlv :: rest =>
    if tlv.startsSection fw skuId then
      match acceptedChunks fw needsHw hw whole rest with
      | some chunks => some chunks
      | none => firstAccepted needsHw hw skuId whole rest
    else firstAccepted needsHw hw skuId whole rest

/-! ## Where the parse stays in the image -/

def PnvmTlv.PayloadFits (nChunks : ℕ) (tlv : PnvmTlv) : Prop :=
  tlv.type = .secRt → tlv.body + 4 ≤ fw.size ∧
    (fw.le32 tlv.body = pnvmSeparator ∨ nChunks = ipcDramMapEntryNumMax ∨
      4 ≤ tlv.length)

def PnvmTlv.Fails (nChunks : ℕ) (tlv : PnvmTlv) : Prop :=
  tlv.chunks fw = none ∨
    nChunks = ipcDramMapEntryNumMax ∧ tlv.chunks fw ≠ some []

/-- Every TLV that the section handles is in the image, with its padding when
the section goes on behind it. -/
def SectionInside : ℕ → List PnvmTlv → Prop
  | _, [] => True
  | nChunks, tlv :: rest =>
    tlv.type = .pnvmSku ∨
      tlv.PayloadFits fw nChunks ∧
        (tlv.Fails fw nChunks ∨
          tlv.Fits fw ∧
            SectionInside (nChunks + ((tlv.chunks fw).getD []).length) rest)

/-- Every TLV up to the end of the accepted section is in the image with its
padding, and a SKU TLV with its id. -/
def ParseInside (needsHw : Bool) (hw : PnvmHw) (skuId : SkuId)
    (whole : Bool) : List PnvmTlv → Prop
  | [] => True
  | tlv :: rest =>
    tlv.Fits fw ∧ (tlv.type = .pnvmSku → tlv.body + 12 ≤ fw.size) ∧
      (tlv.startsSection fw skuId = true → SectionInside fw 0 rest) ∧
      (tlv.startsSection fw skuId = true ∧
          acceptedChunks fw needsHw hw whole rest ≠ none ∨
        ParseInside needsHw hw skuId whole rest)

end Sections

/-! ## What is stored -/

/-- The store is into the array, and of bytes of the TLV in the image. -/
structure ChunkStore.InTlv (fw : Firmware) (store : ChunkStore) : Prop where
  index_lt : store.index < ipcDramMapEntryNumMax
  complete : store.tlv.Complete fw
  first : store.tlv.body ≤ store.chunk.data
  last : store.chunk.data + store.chunk.len ≤ store.tlv.body + store.tlv.length

/-- An image in memory and the stores that were made. -/
structure ImageGood (fw : Firmware) (image : PnvmImage)
    (stores : List ChunkStore) : Prop where
  inTlv : ∀ store ∈ stores, store.InTlv fw
  stored : ∀ chunk ∈ image.chunks, ∃ store ∈ stores, store.chunk = chunk
  nChunks_le : image.nChunks ≤ ipcDramMapEntryNumMax

/-- What a TLV adds to a section. -/
structure TlvAdds (fw : Firmware) (hw : PnvmHw) (tlv : PnvmTlv)
    (st after : SectionState) (added : List PnvmChunk) : Prop where
  chunks : after.pnvmData.chunks = st.pnvmData.chunks ++ added
  stores : after.stores = st.stores ++
    added.map fun chunk => ⟨st.pnvmData.nChunks, tlv, chunk⟩
  hwMatch : after.hwMatch = (st.hwMatch || tlv.namesHw fw hw)
  room : added ≠ [] → st.pnvmData.nChunks ≠ ipcDramMapEntryNumMax ∧
    ∃ chunk, added = [chunk]

section Tlvs

variable {fw : Firmware} {hw : PnvmHw} {tlv : PnvmTlv} {st : SectionState}

theorem TlvAdds.addChunk {chunk : PnvmChunk}
    (hnames : tlv.namesHw fw hw = false)
    (hroom : st.pnvmData.nChunks ≠ ipcDramMapEntryNumMax) :
    TlvAdds fw hw tlv st (st.addChunk tlv chunk) [chunk] where
  chunks := rfl
  stores := rfl
  hwMatch := by simp [SectionState.addChunk, hnames]
  room := fun _ => ⟨hroom, chunk, rfl⟩

theorem TlvAdds.nothing (hnames : tlv.namesHw fw hw = false) :
    TlvAdds fw hw tlv st st [] where
  chunks := (List.append_nil _).symm
  stores := by simp
  hwMatch := by simp [hnames]
  room := fun hne => absurd rfl hne

theorem namesHw_of_type (htype : tlv.type ≠ .hwType) :
    tlv.namesHw fw hw = false := by
  simp [PnvmTlv.namesHw, htype]

theorem memDesc_action (htype : tlv.type = .memDesc) (hcomplete : tlv.Complete fw) :
    (iwlUefiHandleTlvMemDesc fw tlv st = some .fail ∧
        tlv.Fails fw st.pnvmData.nChunks) ∨
      ∃ after chunks, iwlUefiHandleTlvMemDesc fw tlv st = some (.next after) ∧
        tlv.chunks fw = some chunks ∧ TlvAdds fw hw tlv st after chunks := by
  have hnames : tlv.namesHw fw hw = false := namesHw_of_type (by simp [htype])
  unfold PnvmTlv.Complete at hcomplete
  by_cases hshort : tlv.length < 8
  · left
    exact ⟨if_pos hshort, Or.inl (by simp [PnvmTlv.chunks, htype, hshort])⟩
  · have hread := Firmware.read32_eq (by omega : tlv.body + 4 + 4 ≤ fw.size)
    by_cases hsize : fw.le32 (tlv.body + 4) ≠ tlv.length - 8
    · left
      constructor
      · simp [iwlUefiHandleTlvMemDesc, hshort, hread, hsize]
      · exact Or.inl (by simp [PnvmTlv.chunks, htype, hshort, hsize])
    · have hchunks : tlv.chunks fw = some [⟨tlv.body + 8, tlv.length - 8⟩] := by
        simp [PnvmTlv.chunks, htype, hshort, not_not.mp hsize]
      by_cases hfull : st.pnvmData.nChunks = ipcDramMapEntryNumMax
      · left
        constructor
        · simp [iwlUefiHandleTlvMemDesc, hshort, hread, hfull]
        · exact Or.inr ⟨hfull, by simp [hchunks]⟩
      · right
        refine ⟨_, _, ?_, hchunks, TlvAdds.addChunk hnames hfull⟩
        simp [iwlUefiHandleTlvMemDesc, hshort, hread, not_not.mp hsize, hfull]

theorem secRt_action (htype : tlv.type = .secRt) (himage : tlv.InImage fw)
    (hfits : tlv.PayloadFits fw st.pnvmData.nChunks) :
    (handleSecRt fw tlv st = some .fail ∧ tlv.Fails fw st.pnvmData.nChunks) ∨
      ∃ after added, handleSecRt fw tlv st = some (.next after) ∧
        tlv.chunks fw = some added ∧ TlvAdds fw hw tlv st after added := by
  have hnames : tlv.namesHw fw hw = false := namesHw_of_type (by simp [htype])
  rcases hfits htype with ⟨hinside, hlong⟩
  have hread := Firmware.read32_eq hinside
  by_cases hseparator : fw.le32 tlv.body = pnvmSeparator
  · right
    refine ⟨st, [], ?_, ?_, TlvAdds.nothing hnames⟩
    · simp [handleSecRt, hread, hseparator]
    · simp [PnvmTlv.chunks, htype, hseparator]
  · by_cases hfull : st.pnvmData.nChunks = ipcDramMapEntryNumMax
    · left
      constructor
      · simp [handleSecRt, hread, hseparator, hfull]
      · refine Or.inr ⟨hfull, ?_⟩
        simp only [PnvmTlv.chunks, htype, if_neg hseparator]
        split_ifs <;> simp
    · have hlength : 4 ≤ tlv.length := by
        rcases hlong with hsame | hmax | hlength
        · exact absurd hsame hseparator
        · exact absurd hmax hfull
        · exact hlength
      have hwrap : (tlv.length + 2 ^ 32 - 4) % 2 ^ 32 = tlv.length - 4 := by
        have hlt := himage.length_lt
        omega
      right
      refine ⟨st.addChunk tlv ⟨tlv.body + 4, tlv.length - 4⟩, _, ?_, ?_,
        TlvAdds.addChunk hnames hfull⟩
      · simp only [handleSecRt, hread, Option.bind_eq_bind, Option.bind_some,
          if_neg hseparator, if_neg hfull, hwrap]
      · simp [PnvmTlv.chunks, htype, hseparator, Nat.not_lt.mpr hlength]

theorem pnvmTlv_action (hsku : tlv.type ≠ .pnvmSku) (himage : tlv.InImage fw)
    (hfits : tlv.PayloadFits fw st.pnvmData.nChunks) :
    (pnvmTlv fw hw tlv st = some .fail ∧ tlv.Fails fw st.pnvmData.nChunks) ∨
      ∃ after added, pnvmTlv fw hw tlv st = some (.next after) ∧
        tlv.chunks fw = some added ∧ TlvAdds fw hw tlv st after added := by
  unfold pnvmTlv
  cases htype : tlv.type with
  | pnvmSku => exact absurd htype hsku
  | memDesc => exact memDesc_action htype himage.complete
  | secRt => exact secRt_action htype himage hfits
  | other =>
      right
      refine ⟨st, [], rfl, ?_, TlvAdds.nothing (namesHw_of_type ?_)⟩
      · simp [PnvmTlv.chunks, htype]
      · simp [htype]
  | pnvmVersion =>
      right
      have hnames : tlv.namesHw fw hw = false := namesHw_of_type (by simp [htype])
      have hchunks : tlv.chunks fw = some [] := by simp [PnvmTlv.chunks, htype]
      have hcomplete := himage.complete
      unfold PnvmTlv.Complete at hcomplete
      by_cases hshort : tlv.length < 4
      · exact ⟨st, [], if_pos hshort, hchunks, TlvAdds.nothing hnames⟩
      · have hread := Firmware.read32_eq (by omega : tlv.body + 4 ≤ fw.size)
        refine ⟨{ st with pnvmData :=
          { st.pnvmData with version := fw.le32 tlv.body } }, [], ?_, hchunks, ?_⟩
        · simp [handlePnvmVersion, hshort, hread]
        · constructor
          case chunks => simp
          case stores => simp
          case hwMatch => simp [hnames]
          case room => exact fun hne => absurd rfl hne
  | hwType =>
      right
      have hchunks : tlv.chunks fw = some [] := by simp [PnvmTlv.chunks, htype]
      have hcomplete := himage.complete
      unfold PnvmTlv.Complete at hcomplete
      by_cases hshort : tlv.length < 4
      · have hnames : tlv.namesHw fw hw = false := by
          simp [PnvmTlv.namesHw, Nat.not_le.mpr hshort]
        exact ⟨st, [], if_pos hshort, hchunks, TlvAdds.nothing hnames⟩
      · have hmac := Firmware.read16_eq (by omega : tlv.body + 2 ≤ fw.size)
        have hrf := Firmware.read16_eq (by omega : tlv.body + 2 + 2 ≤ fw.size)
        have hlength : 4 ≤ tlv.length := Nat.not_lt.mp hshort
        cases hmatch : st.hwMatch with
        | true =>
            refine ⟨st, [], ?_, hchunks, ?_⟩
            · simp [handleHwType, hshort, hmatch]
            · constructor
              case chunks => simp
              case stores => simp
              case hwMatch => simp [hmatch]
              case room => exact fun hne => absurd rfl hne
        | false =>
            refine ⟨{ st with hwMatch := tlv.namesHw fw hw }, [], ?_, hchunks, ?_⟩
            · simp [handleHwType, hshort, hmatch, hmac, hrf, PnvmTlv.namesHw,
                htype, hlength]
            · constructor
              case chunks => simp
              case stores => simp
              case hwMatch => simp [hmatch]
              case room => exact fun hne => absurd rfl hne

theorem TlvAdds.nChunks {after : SectionState} {added : List PnvmChunk}
    (hadds : TlvAdds fw hw tlv st after added) :
    after.pnvmData.nChunks = st.pnvmData.nChunks + added.length := by
  simp [PnvmImage.nChunks, hadds.chunks]

theorem TlvAdds.not_fails {after : SectionState} {added : List PnvmChunk}
    (hadds : TlvAdds fw hw tlv st after added)
    (hchunks : tlv.chunks fw = some added) :
    ¬tlv.Fails fw st.pnvmData.nChunks := by
  rintro (hnone | ⟨hfull, hsome⟩)
  · rw [hchunks] at hnone
    cases hnone
  · have hadded : added ≠ [] := fun hnil => hsome (by rw [hchunks, hnil])
    exact (hadds.room hadded).1 hfull

theorem chunks_inTlv {added : List PnvmChunk}
    (hchunks : tlv.chunks fw = some added) {chunk : PnvmChunk}
    (hchunk : chunk ∈ added) :
    tlv.body ≤ chunk.data ∧
      chunk.data + chunk.len ≤ tlv.body + tlv.length := by
  unfold PnvmTlv.chunks at hchunks
  split at hchunks
  · split_ifs at hchunks
    · rw [← Option.some.inj hchunks] at hchunk
      simp at hchunk
    · rw [← Option.some.inj hchunks, List.mem_singleton] at hchunk
      rw [hchunk]
      exact ⟨by simp, by simp only; omega⟩
  · split_ifs at hchunks
    rw [← Option.some.inj hchunks, List.mem_singleton] at hchunk
    rw [hchunk]
    exact ⟨by simp, by simp only; omega⟩
  · rw [← Option.some.inj hchunks] at hchunk
    simp at hchunk

theorem TlvAdds.imageGood {after : SectionState} {added : List PnvmChunk}
    (hadds : TlvAdds fw hw tlv st after added) (himage : tlv.InImage fw)
    (hchunks : tlv.chunks fw = some added)
    (hgood : ImageGood fw st.pnvmData st.stores) :
    ImageGood fw after.pnvmData after.stores := by
  have hle := hgood.nChunks_le
  constructor
  case inTlv =>
    intro store hstore
    rw [hadds.stores, List.mem_append, List.mem_map] at hstore
    rcases hstore with hold | ⟨chunk, hchunk, heq⟩
    · exact hgood.inTlv store hold
    · have hroom := hadds.room (List.ne_nil_of_mem hchunk)
      have hinside := chunks_inTlv hchunks hchunk
      rw [← heq]
      exact ⟨lt_of_le_of_ne hle hroom.1, himage.complete, hinside.1, hinside.2⟩
  case stored =>
    intro chunk hchunk
    rw [hadds.chunks, List.mem_append] at hchunk
    rw [hadds.stores]
    rcases hchunk with hold | hnew
    · rcases hgood.stored chunk hold with ⟨store, hstore, heq⟩
      exact ⟨store, List.mem_append_left _ hstore, heq⟩
    · exact ⟨_, List.mem_append_right _ (List.mem_map_of_mem hnew), rfl⟩
  case nChunks_le =>
    rw [hadds.nChunks]
    by_cases hnil : added = []
    · rw [hnil]
      simpa using hle
    · rcases hadds.room hnil with ⟨hroom, chunk, hone⟩
      rw [hone, List.length_singleton]
      omega

theorem pnvmTlv_unfit (hunfit : ¬tlv.PayloadFits fw st.pnvmData.nChunks) :
    pnvmTlv fw hw tlv st = none ∨
      ∃ after store, pnvmTlv fw hw tlv st = some (.next after) ∧
        after.stores = st.stores ++ [store] ∧ ¬store.InTlv fw := by
  unfold PnvmTlv.PayloadFits at hunfit
  simp only [Classical.not_imp, not_and_or, not_or] at hunfit
  rcases hunfit with ⟨htype, houtside | ⟨hseparator, hroom, hshort⟩⟩
  · left
    simp [pnvmTlv, htype, handleSecRt, Firmware.read32_outside houtside]
  · by_cases hinside : tlv.body + 4 ≤ fw.size
    · right
      refine ⟨st.addChunk tlv
        ⟨tlv.body + 4, (tlv.length + 2 ^ 32 - 4) % 2 ^ 32⟩, _, ?_, rfl, ?_⟩
      · simp [pnvmTlv, htype, handleSecRt, Firmware.read32_eq hinside,
          hseparator, hroom]
      · intro hinTlv
        have hlast := hinTlv.last
        simp only at hlast
        omega
    · left
      simp [pnvmTlv, htype, handleSecRt, Firmware.read32_outside hinside]

theorem pnvmTlv_stores {after : SectionState} (hsku : tlv.type ≠ .pnvmSku)
    (himage : tlv.InImage fw) (hnext : pnvmTlv fw hw tlv st = some (.next after)) :
    ∀ store ∈ st.stores, store ∈ after.stores := by
  intro store hstore
  by_cases hfits : tlv.PayloadFits fw st.pnvmData.nChunks
  · rcases pnvmTlv_action hsku himage hfits with
      ⟨hfail, _⟩ | ⟨other, added, hother, _, hadds⟩
    · rw [hfail] at hnext
      cases hnext
    · rw [hother] at hnext
      cases hnext
      rw [hadds.stores]
      exact List.mem_append_left _ hstore
  · rcases pnvmTlv_unfit hfits with hnone | ⟨other, bad, hother, hstores, _⟩
    · rw [hnone] at hnext
      cases hnext
    · rw [hother] at hnext
      cases hnext
      rw [hstores]
      exact List.mem_append_left _ hstore

end Tlvs

/-! ## A section -/

section Passes

variable {fw : Firmware} {hw : PnvmHw}

def sectionFinish (needsHw : Bool) (st : SectionState) : PnvmRet :=
  if needsHw && !st.hwMatch then .enoent
  else if st.pnvmData.nChunks = 0 then .enoent
  else .ok

theorem sectionFinish_ok {needsHw : Bool} {st : SectionState}
    (hle : st.pnvmData.nChunks ≤ ipcDramMapEntryNumMax) :
    sectionFinish needsHw st = .ok ↔
      Accepts needsHw st.hwMatch st.pnvmData.chunks := by
  unfold sectionFinish Accepts
  unfold PnvmImage.nChunks at hle ⊢
  cases needsHw <;> cases st.hwMatch <;> simp [hle]

/-- What a section returns and leaves behind. -/
structure SectionOutcome (fw : Firmware) (hw : PnvmHw) (needsHw whole : Bool)
    (tlvs : List PnvmTlv) (st : SectionState) (ret : PnvmRet)
    (sec : SectionState) : Prop where
  good : ImageGood fw sec.pnvmData sec.stores
  accepted : ret = .ok → ∃ later, sectionChunks fw whole tlvs = some later ∧
    sec.pnvmData.chunks = st.pnvmData.chunks ++ later ∧
    Accepts needsHw (st.hwMatch || sectionNamesHw fw hw tlvs)
      (st.pnvmData.chunks ++ later)
  refused : ret ≠ .ok → ∀ later, sectionChunks fw whole tlvs = some later →
    ¬Accepts needsHw (st.hwMatch || sectionNamesHw fw hw tlvs)
      (st.pnvmData.chunks ++ later)

theorem SectionOutcome.finished {needsHw whole : Bool} {tlvs : List PnvmTlv}
    {st : SectionState} (hgood : ImageGood fw st.pnvmData st.stores)
    (hchunks : sectionChunks fw whole tlvs = some [])
    (hnames : sectionNamesHw fw hw tlvs = false) :
    SectionOutcome fw hw needsHw whole tlvs st (sectionFinish needsHw st) st := by
  have hfinish : sectionFinish needsHw st = .ok ↔
      Accepts needsHw st.hwMatch st.pnvmData.chunks :=
    sectionFinish_ok hgood.nChunks_le
  constructor
  case good => exact hgood
  case accepted =>
    intro hok
    refine ⟨[], hchunks, (List.append_nil _).symm, ?_⟩
    rw [hnames, Bool.or_false, List.append_nil]
    exact hfinish.mp hok
  case refused =>
    intro hret later hlater
    rw [hchunks] at hlater
    cases hlater
    rw [hnames, Bool.or_false, List.append_nil]
    exact fun haccepts => hret (hfinish.mpr haccepts)

theorem sectionChunks_cons {whole : Bool} {tlv : PnvmTlv} {rest : List PnvmTlv}
    (hsku : tlv.type ≠ .pnvmSku) {added : List PnvmChunk}
    (hchunks : tlv.chunks fw = some added) :
    sectionChunks fw whole (tlv :: rest) =
      (sectionChunks fw whole rest).map (added ++ ·) := by
  rw [sectionChunks, if_neg hsku, hchunks]
  cases sectionChunks fw whole rest <;> rfl

theorem sectionNamesHw_cons {tlv : PnvmTlv} {rest : List PnvmTlv}
    (hsku : tlv.type ≠ .pnvmSku) :
    sectionNamesHw fw hw (tlv :: rest) =
      (tlv.namesHw fw hw || sectionNamesHw fw hw rest) := by
  rw [sectionNamesHw, if_neg hsku]

theorem SectionOutcome.failed {needsHw whole : Bool} {tlv : PnvmTlv}
    {rest : List PnvmTlv} {st : SectionState}
    (hgood : ImageGood fw st.pnvmData st.stores) (hsku : tlv.type ≠ .pnvmSku)
    (hfails : tlv.Fails fw st.pnvmData.nChunks) :
    SectionOutcome fw hw needsHw whole (tlv :: rest) st .einval st := by
  constructor
  case good => exact hgood
  case accepted => exact fun hok => by cases hok
  case refused =>
    intro _ later hlater haccepts
    rcases hfails with hnone | ⟨hfull, hsome⟩
    · rw [sectionChunks, if_neg hsku, hnone] at hlater
      cases hlater
    · cases hchunks : tlv.chunks fw with
      | none =>
          rw [sectionChunks, if_neg hsku, hchunks] at hlater
          cases hlater
      | some added =>
          rw [sectionChunks_cons hsku hchunks, Option.map_eq_some_iff] at hlater
          rcases hlater with ⟨others, _, heq⟩
          have hadded : added ≠ [] := fun hnil => hsome (by rw [hchunks, hnil])
          have hpos : 0 < added.length := List.length_pos_iff.mpr hadded
          have hlength := haccepts.2.1
          unfold PnvmImage.nChunks at hfull
          rw [List.length_append, ← heq, List.length_append, hfull] at hlength
          omega

theorem SectionOutcome.next {needsHw whole : Bool} {tlv : PnvmTlv}
    {rest : List PnvmTlv} {st after sec : SectionState} {ret : PnvmRet}
    {added : List PnvmChunk} (hsku : tlv.type ≠ .pnvmSku)
    (hchunks : tlv.chunks fw = some added)
    (hadds : TlvAdds fw hw tlv st after added)
    (houtcome : SectionOutcome fw hw needsHw whole rest after ret sec) :
    SectionOutcome fw hw needsHw whole (tlv :: rest) st ret sec := by
  have hmatch : (st.hwMatch || sectionNamesHw fw hw (tlv :: rest)) =
      (after.hwMatch || sectionNamesHw fw hw rest) := by
    rw [sectionNamesHw_cons hsku, hadds.hwMatch, Bool.or_assoc]
  constructor
  case good => exact houtcome.good
  case accepted =>
    intro hok
    rcases houtcome.accepted hok with ⟨later, hlater, hsec, haccepts⟩
    rw [hadds.chunks, List.append_assoc] at hsec haccepts
    refine ⟨added ++ later, ?_, hsec, ?_⟩
    · rw [sectionChunks_cons hsku hchunks, hlater, Option.map_some]
    · rw [hmatch]
      exact haccepts
  case refused =>
    intro hret later hlater
    rw [sectionChunks_cons hsku hchunks, Option.map_eq_some_iff] at hlater
    rcases hlater with ⟨others, hothers, heq⟩
    have hrefused := houtcome.refused hret others hothers
    rw [hadds.chunks, List.append_assoc] at hrefused
    rw [hmatch, ← heq]
    exact hrefused

theorem sectionPass_outcome (needsHw whole : Bool) {tlvs : List PnvmTlv}
    {st : SectionState} (himage : ∀ tlv ∈ tlvs, tlv.InImage fw)
    (hgood : ImageGood fw st.pnvmData st.stores)
    (hinside : SectionInside fw st.pnvmData.nChunks tlvs) :
    ∃ ret sec, sectionPass fw (pnvmTlv fw hw) (sectionFinish needsHw) whole tlvs
        st = .ret (ret, sec) ∧
      SectionOutcome fw hw needsHw whole tlvs st ret sec := by
  induction tlvs generalizing st with
  | nil =>
      refine ⟨_, st, rfl, ?_⟩
      cases whole with
      | true => exact SectionOutcome.finished hgood rfl rfl
      | false =>
          constructor
          case good => exact hgood
          case accepted => exact fun hok => by cases hok
          case refused => exact fun _ later hlater => by cases hlater
  | cons tlv rest ih =>
      have htlv := himage tlv List.mem_cons_self
      have hrest := fun other hother =>
        himage other (List.mem_cons_of_mem tlv hother)
      rw [sectionPass]
      by_cases hsku : tlv.type = .pnvmSku
      · refine ⟨_, st, ?_, SectionOutcome.finished hgood ?_ ?_⟩
        · simp [pnvmTlv, hsku]
        · rw [sectionChunks, if_pos hsku]
        · rw [sectionNamesHw, if_pos hsku]
      · rcases hinside with hend | ⟨hpayload, hgoes⟩
        · exact absurd hend hsku
        · rcases pnvmTlv_action hsku htlv hpayload with
            ⟨haction, hfails⟩ | ⟨after, added, haction, hchunks, hadds⟩
          · rw [haction]
            exact ⟨_, st, rfl, SectionOutcome.failed hgood hsku hfails⟩
          · rw [haction]
            dsimp only
            have hpasses : ¬tlv.Fails fw st.pnvmData.nChunks :=
              hadds.not_fails hchunks
            rcases hgoes with hfails | ⟨hfits, hinside⟩
            · exact absurd hfails hpasses
            · rw [hchunks, Option.getD_some, ← hadds.nChunks] at hinside
              rcases ih hrest (hadds.imageGood htlv hchunks hgood) hinside with
                ⟨ret, sec, hpass, houtcome⟩
              rw [if_pos hfits]
              exact ⟨ret, sec, hpass,
                SectionOutcome.next hsku hchunks hadds houtcome⟩

theorem sectionPass_stores {needsHw whole : Bool} {tlvs : List PnvmTlv}
    {st sec : SectionState} {ret : PnvmRet}
    (himage : ∀ tlv ∈ tlvs, tlv.InImage fw)
    (hpass : sectionPass fw (pnvmTlv fw hw) (sectionFinish needsHw) whole tlvs
      st = .ret (ret, sec)) : ∀ store ∈ st.stores, store ∈ sec.stores := by
  induction tlvs generalizing st with
  | nil =>
      rw [sectionPass] at hpass
      cases hpass
      exact fun _ hstore => hstore
  | cons tlv rest ih =>
      rw [sectionPass] at hpass
      cases haction : pnvmTlv fw hw tlv st with
      | none =>
          rw [haction] at hpass
          cases hpass
      | some action =>
          rw [haction] at hpass
          cases action with
          | fail =>
              cases hpass
              exact fun _ hstore => hstore
          | done =>
              cases hpass
              exact fun _ hstore => hstore
          | next after =>
              dsimp only at hpass
              by_cases hfits : tlv.Fits fw
              · rw [if_pos hfits] at hpass
                have hsku : tlv.type ≠ .pnvmSku := by
                  intro hsku
                  simp [pnvmTlv, hsku] at haction
                intro store hstore
                apply ih (fun other hother =>
                  himage other (List.mem_cons_of_mem tlv hother)) hpass
                exact pnvmTlv_stores hsku (himage tlv List.mem_cons_self)
                  haction store hstore
              · rw [if_neg hfits] at hpass
                cases hpass

/-- A section that ends with all stores inside of their TLVs stayed in the
image. -/
theorem sectionInside_of_pass {needsHw whole : Bool} {tlvs : List PnvmTlv}
    {st sec : SectionState} {ret : PnvmRet}
    (himage : ∀ tlv ∈ tlvs, tlv.InImage fw)
    (hpass : sectionPass fw (pnvmTlv fw hw) (sectionFinish needsHw) whole tlvs
      st = .ret (ret, sec))
    (hstores : ∀ store ∈ sec.stores, store.InTlv fw) :
    SectionInside fw st.pnvmData.nChunks tlvs := by
  induction tlvs generalizing st with
  | nil => trivial
  | cons tlv rest ih =>
      have htlv := himage tlv List.mem_cons_self
      have hrest := fun other hother =>
        himage other (List.mem_cons_of_mem tlv hother)
      by_cases hsku : tlv.type = .pnvmSku
      · exact Or.inl hsku
      · right
        rw [sectionPass] at hpass
        by_cases hpayload : tlv.PayloadFits fw st.pnvmData.nChunks
        · refine ⟨hpayload, ?_⟩
          rcases pnvmTlv_action hsku htlv hpayload with
            ⟨_, hfails⟩ | ⟨after, added, haction, hchunks, hadds⟩
          · exact Or.inl hfails
          · rw [haction] at hpass
            dsimp only at hpass
            by_cases hfits : tlv.Fits fw
            · rw [if_pos hfits] at hpass
              right
              rw [hchunks, Option.getD_some, ← hadds.nChunks]
              exact ⟨hfits, ih hrest hpass⟩
            · rw [if_neg hfits] at hpass
              cases hpass
        · rcases pnvmTlv_unfit hpayload with
            hnone | ⟨after, bad, haction, hafter, hbad⟩
          · rw [hnone] at hpass
            cases hpass
          · rw [haction] at hpass
            dsimp only at hpass
            by_cases hfits : tlv.Fits fw
            · rw [if_pos hfits] at hpass
              have hkept : bad ∈ sec.stores := by
                apply sectionPass_stores hrest hpass
                rw [hafter]
                exact List.mem_append_right _ (List.mem_singleton_self bad)
              exact absurd (hstores bad hkept) hbad
            · rw [if_neg hfits] at hpass
              cases hpass

end Passes

end IwlwifiStack
