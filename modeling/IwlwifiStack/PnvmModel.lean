import IwlwifiStack.FirmwareTlvModel

/-!
# PNVM and reduce-power images

`iwl_pnvm_parse` and `iwl_uefi_reduce_power_parse` look in an image of TLVs
for the section of this device: the TLVs behind a SKU TLV with its SKU id, up
to the next SKU TLV.  The payloads of the section are kept as pointers into the
image.

A run that reads a byte behind the image is stopped there.  Lengths are of type
`size_t`, so that a length shortened below zero becomes huge.
-/

namespace IwlwifiStack

def Firmware.le16 (fw : Firmware) (position : ℕ) : ℕ :=
  fw.byte position + 2 ^ 8 * fw.byte (position + 1)

def Firmware.read16 (fw : Firmware) (position : ℕ) : Option ℕ :=
  if position + 2 ≤ fw.size then some (fw.le16 position) else none

def Firmware.read32 (fw : Firmware) (position : ℕ) : Option ℕ :=
  if position + 4 ≤ fw.size then some (fw.le32 position) else none

/-- The types of `enum iwl_ucode_tlv_type` that stand in these images. -/
inductive PnvmTlvType
  | memDesc
  | secRt
  | hwType
  | pnvmVersion
  | pnvmSku
  | other
  deriving DecidableEq, Repr

def PnvmTlvType.ofWord : ℕ → PnvmTlvType
  | 7 => .memDesc
  | 19 => .secRt
  | 58 => .hwType
  | 62 => .pnvmVersion
  | 64 => .pnvmSku
  | _ => .other

structure PnvmTlv where
  position : ℕ
  type : PnvmTlvType
  length : ℕ
  deriving DecidableEq, Repr

def PnvmTlv.body (tlv : PnvmTlv) : ℕ := tlv.position + 8

def PnvmTlv.alignedLength (tlv : PnvmTlv) : ℕ := alignTlvLen tlv.length

def Firmware.pnvmTlv (fw : Firmware) (position : ℕ) : PnvmTlv where
  position := position
  type := .ofWord (fw.le32 position)
  length := fw.le32 (position + 4)

/-- The header, of eight bytes. -/
def Firmware.readTlv (fw : Firmware) (position : ℕ) : Option PnvmTlv :=
  if position + 8 ≤ fw.size then some (fw.pnvmTlv position) else none

/-! ## The image in memory -/

def ipcDramMapEntryNumMax : ℕ := 64

/-- An entry of `chunks`. -/
structure PnvmChunk where
  data : ℕ
  len : ℕ
  deriving DecidableEq, Repr

/-- `struct iwl_pnvm_image`; `n_chunks` is the length of the list. -/
structure PnvmImage where
  chunks : List PnvmChunk
  version : ℕ
  deriving DecidableEq, Repr

def PnvmImage.nChunks (image : PnvmImage) : ℕ := image.chunks.length

/-- A store into `chunks`, for the TLV that is handled. -/
structure ChunkStore where
  index : ℕ
  tlv : PnvmTlv
  chunk : PnvmChunk
  deriving DecidableEq, Repr

inductive PnvmRet
  | ok
  | einval
  | enoent
  deriving DecidableEq, Repr

inductive WalkResult (α : Type*)
  | outOfFuel
  | outside
  | ret (result : α)
  deriving DecidableEq, Repr

/-- The variables of a section, with all stores so far. -/
structure SectionState where
  pnvmData : PnvmImage
  hwMatch : Bool
  stores : List ChunkStore
  deriving DecidableEq, Repr

/-- What the `switch` over the TLV types does next. -/
inductive TlvAction
  | next (st : SectionState)
  | done
  | fail
  deriving DecidableEq, Repr

def SectionState.addChunk (st : SectionState) (tlv : PnvmTlv)
    (chunk : PnvmChunk) : SectionState :=
  { st with
    pnvmData := { st.pnvmData with chunks := st.pnvmData.chunks ++ [chunk] }
    stores := st.stores ++ [⟨st.pnvmData.nChunks, tlv, chunk⟩] }

/-- What is stored before is kept; the image is cleared. -/
def SectionState.start (stores : List ChunkStore) : SectionState :=
  ⟨⟨[], 0⟩, false, stores⟩

/-! ## One TLV -/

section Handlers

variable (fw : Firmware)

def iwlUefiHandleTlvMemDesc (tlv : PnvmTlv) (st : SectionState) :
    Option TlvAction :=
  if tlv.length < 8 then some .fail
  else do
    let size ← fw.read32 (tlv.body + 4)
    if size ≠ tlv.length - 8 then some .fail
    else if st.pnvmData.nChunks = ipcDramMapEntryNumMax then some .fail
    else some (.next (st.addChunk tlv ⟨tlv.body + 8, tlv.length - 8⟩))

/-- The hardware of the device. -/
structure PnvmHw where
  hwRev : ℕ
  hwRfId : ℕ

def csrHwRevType (value : ℕ) : ℕ := value / 2 ^ 4 % 2 ^ 12

def csrHwRfidType (value : ℕ) : ℕ := value / 2 ^ 12 % 2 ^ 12

def iwlCfgRfTypeFm : ℕ := 0x112

def pnvmSeparator : ℕ := 0xddddeeee

def handlePnvmVersion (tlv : PnvmTlv) (st : SectionState) : Option TlvAction :=
  if tlv.length < 4 then some (.next st)
  else do
    let sha1 ← fw.read32 tlv.body
    some (.next { st with pnvmData := { st.pnvmData with version := sha1 } })

def handleHwType (hw : PnvmHw) (tlv : PnvmTlv) (st : SectionState) :
    Option TlvAction :=
  if tlv.length < 4 then some (.next st)
  else if st.hwMatch then some (.next st)
  else do
    let macType ← fw.read16 tlv.body
    let rfId ← fw.read16 (tlv.body + 2)
    some (.next { st with
      hwMatch := decide (macType = csrHwRevType hw.hwRev ∧
        rfId = csrHwRfidType hw.hwRfId) })

/-- The data length is a u32 and is not checked. -/
def handleSecRt (tlv : PnvmTlv) (st : SectionState) : Option TlvAction := do
  let word ← fw.read32 tlv.body
  if word = pnvmSeparator then some (.next st)
  else if st.pnvmData.nChunks = ipcDramMapEntryNumMax then some .fail
  else
    some (.next (st.addChunk tlv
      ⟨tlv.body + 4, (tlv.length + 2 ^ 32 - 4) % 2 ^ 32⟩))

/-- The `switch` of `iwl_pnvm_handle_section`. -/
def pnvmTlv (hw : PnvmHw) (tlv : PnvmTlv) (st : SectionState) :
    Option TlvAction :=
  match tlv.type with
  | .pnvmVersion => handlePnvmVersion fw tlv st
  | .hwType => handleHwType fw hw tlv st
  | .secRt => handleSecRt fw tlv st
  | .memDesc => iwlUefiHandleTlvMemDesc fw tlv st
  | .pnvmSku => some .done
  | .other => some (.next st)

/-- The `switch` of `iwl_uefi_reduce_power_section`. -/
def reducePowerTlv (tlv : PnvmTlv) (st : SectionState) : Option TlvAction :=
  match tlv.type with
  | .memDesc => iwlUefiHandleTlvMemDesc fw tlv st
  | .pnvmSku => some .done
  | _ => some (.next st)

end Handlers

/-! ## A section -/

/-- The loop over the TLVs of a section and the checks behind it. -/
def sectionLoop (fw : Firmware)
    (handle : PnvmTlv → SectionState → Option TlvAction)
    (finish : SectionState → PnvmRet) :
    ℕ → ℕ → ℕ → SectionState → WalkResult (PnvmRet × SectionState)
  | 0, _, _, _ => .outOfFuel
  | fuel + 1, data, len, st =>
    if len < 8 then .ret (finish st, st)
    else
      match fw.readTlv data with
      | none => .outside
      | some tlv =>
        if len - 8 < tlv.length then .ret (.einval, st)
        else
          match handle tlv st with
          | none => .outside
          | some .fail => .ret (.einval, st)
          | some .done => .ret (finish st, st)
          | some (.next after) =>
            sectionLoop fw handle finish fuel (tlv.body + tlv.alignedLength)
              (sizeSub (len - 8) tlv.alignedLength) after

def pnvmFinish (st : SectionState) : PnvmRet :=
  if !st.hwMatch then .enoent
  else if st.pnvmData.nChunks = 0 then .enoent
  else .ok

def reducePowerFinish (st : SectionState) : PnvmRet :=
  if st.pnvmData.nChunks = 0 then .enoent else .ok

/-- A function that handles a section of the image. -/
abbrev HandleSection :=
  ℕ → ℕ → ℕ → List ChunkStore → WalkResult (PnvmRet × SectionState)

def iwlPnvmHandleSection (fw : Firmware) (hw : PnvmHw) : HandleSection :=
  fun fuel data len stores =>
    sectionLoop fw (pnvmTlv fw hw) pnvmFinish fuel data len (.start stores)

def iwlUefiReducePowerSection (fw : Firmware) : HandleSection :=
  fun fuel data len stores =>
    sectionLoop fw (reducePowerTlv fw) reducePowerFinish fuel data len
      (.start stores)

/-! ## The whole image -/

/-- `struct iwl_sku_id` -/
structure SkuId where
  data0 : ℕ
  data1 : ℕ
  data2 : ℕ
  deriving DecidableEq, Repr

/-- All three words are read, also for the debug output. -/
def Firmware.readSkuId (fw : Firmware) (position : ℕ) : Option SkuId := do
  let data0 ← fw.read32 position
  let data1 ← fw.read32 (position + 4)
  let data2 ← fw.read32 (position + 8)
  some ⟨data0, data1, data2⟩

/-- `pnvm_data` of the caller, and `reduced_cap_sku` of the device. -/
structure ParseState where
  pnvmData : PnvmImage
  reducedCapSku : Bool
  stores : List ChunkStore
  deriving DecidableEq, Repr

/-- The image is allocated for the call. -/
def ParseState.start (reducedCapSku : Bool) : ParseState :=
  ⟨⟨[], 0⟩, reducedCapSku, []⟩

def ParseState.afterSection (st : ParseState) (sec : SectionState) : ParseState :=
  { st with pnvmData := sec.pnvmData, stores := sec.stores }

/-- The loop over the TLVs of the image.  The function `atSku` sets what a SKU
TLV sets in the device. -/
def parseLoop (fw : Firmware) (handleSection : HandleSection)
    (atSku : ParseState → ParseState) (skuId : SkuId) :
    ℕ → ℕ → ℕ → ParseState → WalkResult (PnvmRet × ParseState)
  | 0, _, _, _ => .outOfFuel
  | fuel + 1, data, len, st =>
    if len < 8 then .ret (.enoent, st)
    else
      match fw.readTlv data with
      | none => .outside
      | some tlv =>
        let next := tlv.body + tlv.alignedLength
        let left := sizeSub (len - 8) tlv.alignedLength
        if len - 8 < tlv.length then .ret (.einval, st)
        else if tlv.type = .pnvmSku then
          match fw.readSkuId tlv.body with
          | none => .outside
          | some tlvSkuId =>
            if skuId = tlvSkuId then
              match handleSection fuel next left st.stores with
              | .outOfFuel => .outOfFuel
              | .outside => .outside
              | .ret (.ok, sec) => .ret (.ok, (atSku st).afterSection sec)
              | .ret (_, sec) =>
                parseLoop fw handleSection atSku skuId fuel next left
                  ((atSku st).afterSection sec)
            else parseLoop fw handleSection atSku skuId fuel next left (atSku st)
        else parseLoop fw handleSection atSku skuId fuel next left st

/-- Bit 25 of the first word is `IWL_PNVM_REDUCED_CAP_BIT`. -/
def setReducedCapSku (hw : PnvmHw) (skuId : SkuId) (st : ParseState) :
    ParseState :=
  { st with
    reducedCapSku := skuId.data0.testBit 25 &&
      decide (csrHwRfidType hw.hwRfId = iwlCfgRfTypeFm) }

def iwlPnvmParse (fw : Firmware) (hw : PnvmHw) (skuId : SkuId)
    (start : ParseState) (fuel : ℕ) : WalkResult (PnvmRet × ParseState) :=
  parseLoop fw (iwlPnvmHandleSection fw hw) (setReducedCapSku hw skuId) skuId
    fuel 0 fw.size start

def iwlUefiReducePowerParse (fw : Firmware) (skuId : SkuId)
    (start : ParseState) (fuel : ℕ) : WalkResult (PnvmRet × ParseState) :=
  parseLoop fw (iwlUefiReducePowerSection fw) id skuId fuel 0 fw.size start

end IwlwifiStack
