import IwlwifiStack.FuelLoop

/-!
# The firmware file with TLVs

`iwl_parse_tlv_firmware` of `iwl-drv.c`: behind the file header come TLVs, a
type and a length of four bytes each and the body, padded to a multiple of four.
The sections and the debug TLVs are kept as pointers into the file; other TLVs
are copied.
-/

namespace IwlwifiStack

/-- A file in memory.  Nothing stops a read behind its end. -/
structure Firmware where
  memory : ℕ → UInt8
  size : ℕ
  size_lt : size < 2 ^ 64

namespace Firmware

def byte (fw : Firmware) (position : ℕ) : ℕ := (fw.memory position).toNat

def le32 (fw : Firmware) (position : ℕ) : ℕ :=
  fw.byte position + 2 ^ 8 * fw.byte (position + 1) +
    2 ^ 16 * fw.byte (position + 2) + 2 ^ 24 * fw.byte (position + 3)

def bytes (fw : Firmware) (position len : ℕ) : List UInt8 :=
  (List.range len).map fun i => fw.memory (position + i)

end Firmware

/-- `enum iwl_ucode_tlv_type`, the types that are handled.  The INI types go to
`iwl_dbg_tlv_alloc`, which has its own checks and keeps copies. -/
inductive UcodeTlvType where
  | inst | data | init | initData | boot | probeMaxLen | pan
  | runtEvtlogPtr | runtEvtlogSize | runtErrlogPtr
  | initEvtlogPtr | initEvtlogSize | initErrlogPtr
  | enhanceSensTbl | phyCalibrationSize | wowlanInst | wowlanData | flags
  | secRt | secInit | secWowlan | defCalib | phySku
  | secureSecRt | secureSecInit | secureSecWowlan | numOfCpu
  | apiChangesSet | enabledCapabilities | nScanChannels | paging
  | secRtUsniffer | fwVersion | fwDbgDest | fwDbgConf | fwDbgTrigger
  | cmdVersions | fwGscanCapa | fwMemSeg | iml | umacDebugAddrs
  | lmacDebugAddrs | fwRecoveryInfo | fwFseqVersion | phyIntegrationVersion
  | secTableAddr | d3KekKckAddr | currentPc | fseqBinVersion | cmdBiosTable
  | pnvmData | fwNumStations | fwNumLinks | fwNumBeacons | ini
  | fwDbgDumpLst | unknown
  deriving DecidableEq, Repr

def UcodeTlvType.ofWord : ℕ → UcodeTlvType
  | 1 => .inst | 2 => .data | 3 => .init | 4 => .initData | 5 => .boot
  | 6 => .probeMaxLen | 7 => .pan | 8 => .runtEvtlogPtr
  | 9 => .runtEvtlogSize | 10 => .runtErrlogPtr | 11 => .initEvtlogPtr
  | 12 => .initEvtlogSize | 13 => .initErrlogPtr | 14 => .enhanceSensTbl
  | 15 => .phyCalibrationSize | 16 => .wowlanInst | 17 => .wowlanData
  | 18 => .flags | 19 => .secRt | 20 => .secInit | 21 => .secWowlan
  | 22 => .defCalib | 23 => .phySku | 24 => .secureSecRt
  | 25 => .secureSecInit | 26 => .secureSecWowlan | 27 => .numOfCpu
  | 29 => .apiChangesSet | 30 => .enabledCapabilities | 31 => .nScanChannels
  | 32 => .paging | 34 => .secRtUsniffer | 36 => .fwVersion
  | 38 => .fwDbgDest | 39 => .fwDbgConf | 40 => .fwDbgTrigger
  | 48 => .cmdVersions | 50 => .fwGscanCapa | 51 => .fwMemSeg | 52 => .iml
  | 54 => .umacDebugAddrs | 55 => .lmacDebugAddrs | 57 => .fwRecoveryInfo
  | 60 => .fwFseqVersion | 61 => .phyIntegrationVersion
  | 66 => .secTableAddr | 67 => .d3KekKckAddr | 68 => .currentPc
  | 72 => .fseqBinVersion | 73 => .cmdBiosTable | 74 => .pnvmData
  | 0x100 => .fwNumStations | 0x101 => .fwNumLinks | 0x102 => .fwNumBeacons
  | 0x1000005 => .ini | 0x1000006 => .ini | 0x1000007 => .ini
  | 0x1000008 => .ini | 0x1000009 => .ini | 0x100000a => .ini
  | 0x1000 => .fwDbgDumpLst
  | _ => .unknown

/-- `struct iwl_ucode_tlv` -/
structure UcodeTlv where
  position : ℕ
  type : UcodeTlvType
  length : ℕ
  deriving DecidableEq, Repr

def Firmware.tlv (fw : Firmware) (position : ℕ) : UcodeTlv where
  position := position
  type := .ofWord (fw.le32 position)
  length := fw.le32 (position + 4)

def UcodeTlv.body (tlv : UcodeTlv) : ℕ := tlv.position + 8

/-! ## Pointers into the file -/

/-- `enum iwl_ucode_type` -/
inductive UcodeType where
  | regular | init | wowlan | regularUsniffer
  deriving DecidableEq, Repr

def iwlUcodeSectionData : ℕ := 0

def iwlUcodeSectionInst : ℕ := 1

def iwlagnRtcInstLowerBound : ℕ := 0

def iwlagnRtcDataLowerBound : ℕ := 0x800000

def fwDbgConfMax : ℕ := 32

def fwDbgTriggerMax : ℕ := 18

/-- `struct fw_sec` -/
structure FwSec where
  data : ℕ
  size : ℕ
  offset : ℕ
  deriving DecidableEq, Repr

/-- The pointer part of `struct iwl_firmware_pieces`, and `n_dest_reg`.  A
section slot that was allocated and not written holds nothing. -/
structure FirmwarePieces where
  img : UcodeType → List (Option FwSec)
  dbgDestTlvInit : Bool
  dbgDestVer : Option ℕ
  dbgDestTlv : Option ℕ
  nDestReg : ℕ
  dbgConfTlv : ℕ → Option (ℕ × ℕ)
  dbgTriggerTlv : ℕ → Option (ℕ × ℕ)

/-- What one TLV puts there. -/
inductive FwPiece where
  | sec (type : UcodeType) (index : ℕ) (sec : FwSec)
  | ucodeSec (type : UcodeType) (sec : FwSec)
  | destVer (data : ℕ)
  | dest (version data nDestReg : ℕ)
  | conf (id data len : ℕ)
  | trigger (id data len : ℕ)
  deriving DecidableEq, Repr

namespace FirmwarePieces

/-- `alloc_sec_data` -/
def allocSecData (slots : List (Option FwSec)) (index : ℕ) :
    List (Option FwSec) :=
  slots ++ List.replicate (index + 1 - slots.length) none

def record (pieces : FirmwarePieces) : FwPiece → FirmwarePieces
  -- set_sec_data, set_sec_size and set_sec_offset
  | .sec type index sec =>
      { pieces with
        img := Function.update pieces.img type
          ((allocSecData (pieces.img type) index).set index (some sec)) }
  | .ucodeSec type sec =>
      { pieces with
        img := Function.update pieces.img type
          (pieces.img type ++ [some sec]) }
  | .destVer data => { pieces with dbgDestVer := some data }
  | .dest _ data nDestReg =>
      { pieces with
        dbgDestTlvInit := true
        dbgDestTlv := some data
        nDestReg := nDestReg }
  | .conf id data len =>
      { pieces with
        dbgConfTlv := Function.update pieces.dbgConfTlv id (some (data, len)) }
  | .trigger id data len =>
      { pieces with
        dbgTriggerTlv :=
          Function.update pieces.dbgTriggerTlv id (some (data, len)) }

end FirmwarePieces

/-- An `int` from 32 bits, as `size_t`. -/
def intToSize (word : ℕ) : ℕ :=
  if word < 2 ^ 31 then word else word + 2 ^ 64 - 2 ^ 32

/-- The entry of `iwl_store_ucode_sec`. -/
def iwlStoreUcodeSec (fw : Firmware) (data size : ℕ) : FwSec where
  data := data + 4
  size := (intToSize size + 2 ^ 64 - 4) % 2 ^ 64
  offset := fw.le32 data

/-- `offsetof(struct iwl_fw_dbg_dest_tlv_v1, reg_ops)` for version 0, which is
the old layout, and that of `struct iwl_fw_dbg_dest_tlv` for version 1. -/
def destRegOps (version : ℕ) : ℕ := if version = 0 then 22 else 18

def sizeofRegOp : ℕ := 12

/-- `n_dest_reg` has eight bits. -/
def nDestReg (version len : ℕ) : ℕ :=
  (len + 256 - destRegOps version) % 256 / sizeofRegOp

/-- The pointers that the switch of `iwl_parse_tlv_firmware` keeps. -/
def recordedPieces (fw : Firmware) (pieces : FirmwarePieces) (tlv : UcodeTlv) :
    List FwPiece :=
  let inst := FwSec.mk tlv.body tlv.length iwlagnRtcInstLowerBound
  let data := FwSec.mk tlv.body tlv.length iwlagnRtcDataLowerBound
  let stored := iwlStoreUcodeSec fw tlv.body tlv.length
  match tlv.type with
  | .inst => [.sec .regular iwlUcodeSectionInst inst]
  | .data => [.sec .regular iwlUcodeSectionData data]
  | .init => [.sec .init iwlUcodeSectionInst inst]
  | .initData => [.sec .init iwlUcodeSectionData data]
  | .wowlanInst => [.sec .wowlan iwlUcodeSectionInst inst]
  | .wowlanData => [.sec .wowlan iwlUcodeSectionData data]
  | .secRt | .secureSecRt => [.ucodeSec .regular stored]
  | .secInit | .secureSecInit => [.ucodeSec .init stored]
  | .secWowlan | .secureSecWowlan => [.ucodeSec .wowlan stored]
  | .secRtUsniffer => [.ucodeSec .regularUsniffer stored]
  | .fwDbgDest =>
      let version := fw.byte tlv.body
      if version ≤ 1 ∧ pieces.dbgDestTlvInit = false then
        [.destVer tlv.body,
          .dest version tlv.body (nDestReg version tlv.length)]
      else [.destVer tlv.body]
  | .fwDbgConf =>
      let id := fw.byte tlv.body
      if pieces.dbgDestTlvInit = true ∧ id < fwDbgConfMax ∧
          pieces.dbgConfTlv id = none then
        [.conf id tlv.body tlv.length]
      else []
  | .fwDbgTrigger =>
      let id := fw.le32 tlv.body
      if id < fwDbgTriggerMax ∧ pieces.dbgTriggerTlv id = none then
        [.trigger id tlv.body tlv.length]
      else []
  | _ => []

/-! ## Values that are copied -/

/-- What the switch stores in `struct iwl_ucode_capabilities`, `struct iwl_fw`
and the rest of the pieces. -/
structure FirmwareInfo where
  ucodeVer : ℕ
  humanReadable : List UInt8
  maxProbeLength : ℕ
  flags : ℕ
  api : Finset ℕ
  capa : Finset ℕ
  phyCalibrationSize : ℕ
  nScanChannels : ℕ
  errorLogAddr : ℕ
  errorLogSize : ℕ
  numStations : ℕ
  numLinks : ℕ
  numBeacons : ℕ
  cmdVersions : Option (List UInt8)
  cmdBiosTables : Option (List UInt8)
  initEvtlogPtr : ℕ
  initEvtlogSize : ℕ
  initErrlogPtr : ℕ
  instEvtlogPtr : ℕ
  instEvtlogSize : ℕ
  instErrlogPtr : ℕ
  enhanceSensitivityTable : Bool
  mvm : Bool
  defaultCalib : ℕ → ℕ × ℕ
  validAnts : ℕ
  phyConfig : ℕ
  validTxAnt : ℕ
  validRxAnt : ℕ
  isDualCpus : Bool
  pagingMemSize : ℕ
  dumpMask : ℕ
  dbgMemTlv : List (ℕ × ℕ × ℕ)
  iml : List UInt8
  fseqVer : ℕ × ℕ
  phyIntegrationVer : Option (List UInt8)
  pcData : List UInt8
  pnvmData : Option (List UInt8)
  usnifferReq : Bool
  usnifferImages : Bool

def usnifferUnified : ℕ := 77

def iwlStationCountMax : ℕ := 16

def iwlFwMaxLinkId : ℕ := 3

def maxPagingImageSize : ℕ := 2 ^ 20

def fwPagingSize : ℕ := 2 ^ 12

def iwlUcodeTypeMax : ℕ := 4

/-- The flags of `iwl_set_ucode_api_flags` and `iwl_set_ucode_capabilities`:
both bitmaps have 128 bits. -/
def setUcodeFlags (bits : Finset ℕ) (index flags : ℕ) : Finset ℕ :=
  if 4 ≤ index then bits
  else bits ∪ ((Finset.range 32).filter fun i => flags.testBit i).image
    fun i => i + 32 * index

/-- `IWL_UCODE_TLV_PHY_SKU` -/
def storePhySku (info : FirmwareInfo) (word : ℕ) : FirmwareInfo :=
  let validAnts := info.validAnts &&& 7
  let phyConfig :=
    if validAnts = 0 then word
    else word &&& (0xff00ffff ||| validAnts <<< 16 ||| validAnts <<< 20)
  { info with
    validAnts := validAnts
    phyConfig := phyConfig
    validTxAnt := phyConfig / 2 ^ 16 % 16
    validRxAnt := phyConfig / 2 ^ 20 % 16 }

/-- A TLV whose body must have just this length. -/
def ofLength (tlv : UcodeTlv) (length : ℕ) (info : Option FirmwareInfo) :
    Option FirmwareInfo :=
  if tlv.length ≠ length then none else info

/-- A TLV of one word. -/
def wordTlv (fw : Firmware) (tlv : UcodeTlv) (store : ℕ → FirmwareInfo) :
    Option FirmwareInfo :=
  ofLength tlv 4 (some (store (fw.le32 tlv.body)))

/-- The switch of `iwl_parse_tlv_firmware` up to the pointers it keeps.  No
result stands for the ways to `-EINVAL`. -/
def handleTlv (fw : Firmware) (pieces : FirmwarePieces) (info : FirmwareInfo)
    (tlv : UcodeTlv) : Option FirmwareInfo :=
  let word := fw.le32 tlv.body
  let second := fw.le32 (tlv.body + 4)
  match tlv.type with
  | .probeMaxLen => wordTlv fw tlv fun word => { info with maxProbeLength := word }
  | .pan => ofLength tlv 0 (some { info with flags := info.flags ||| 1 })
  | .flags =>
      if tlv.length < 4 then none
      else if tlv.length % 4 ≠ 0 then none
      else some { info with flags := word }
  | .apiChangesSet =>
      ofLength tlv 8 (some { info with api := setUcodeFlags info.api word second })
  | .enabledCapabilities =>
      ofLength tlv 8
        (some { info with capa := setUcodeFlags info.capa word second })
  | .initEvtlogPtr => wordTlv fw tlv fun word => { info with initEvtlogPtr := word }
  | .initEvtlogSize =>
      wordTlv fw tlv fun word => { info with initEvtlogSize := word }
  | .initErrlogPtr => wordTlv fw tlv fun word => { info with initErrlogPtr := word }
  | .runtEvtlogPtr => wordTlv fw tlv fun word => { info with instEvtlogPtr := word }
  | .runtEvtlogSize =>
      wordTlv fw tlv fun word => { info with instEvtlogSize := word }
  | .runtErrlogPtr => wordTlv fw tlv fun word => { info with instErrlogPtr := word }
  | .enhanceSensTbl =>
      ofLength tlv 0 (some { info with enhanceSensitivityTable := true })
  | .phyCalibrationSize =>
      wordTlv fw tlv fun word => { info with phyCalibrationSize := word }
  | .secRt | .secInit | .secWowlan
  | .secureSecRt | .secureSecInit | .secureSecWowlan =>
      some { info with mvm := true }
  | .defCalib =>
      -- iwl_set_default_calib
      ofLength tlv 12
        (if iwlUcodeTypeMax ≤ word then none
        else some
          { info with
            defaultCalib := Function.update info.defaultCalib word
              (second, fw.le32 (tlv.body + 8)) })
  | .phySku => wordTlv fw tlv (storePhySku info)
  | .numOfCpu =>
      ofLength tlv 4
        (if word = 2 then some { info with isDualCpus := true }
        else if word = 1 then some info
        else none)
  | .nScanChannels => wordTlv fw tlv fun word => { info with nScanChannels := word }
  | .fwVersion => ofLength tlv 12 (some info)
  | .fwDbgConf =>
      if recordedPieces fw pieces tlv ≠ [] ∧ fw.byte (tlv.body + 1) ≠ 0 then
        some { info with usnifferReq := true }
      else some info
  | .fwDbgDumpLst =>
      if tlv.length ≠ 4 then some info else some { info with dumpMask := word }
  | .secRtUsniffer => some { info with usnifferImages := true }
  | .paging =>
      ofLength tlv 4
        (if maxPagingImageSize < word then none
        else if word % fwPagingSize ≠ 0 then none
        else some { info with pagingMemSize := word })
  | .fwMemSeg =>
      ofLength tlv 12
        (some
          { info with
            dbgMemTlv := info.dbgMemTlv ++
              [(word, second, fw.le32 (tlv.body + 8))] })
  | .iml => some { info with iml := fw.bytes tlv.body tlv.length }
  | .fwRecoveryInfo =>
      ofLength tlv 8
        (some { info with errorLogAddr := word, errorLogSize := second })
  | .fwFseqVersion => ofLength tlv 52 (some info)
  | .fseqBinVersion => ofLength tlv 8 (some { info with fseqVer := (word, second) })
  | .fwNumStations =>
      ofLength tlv 4
        (if iwlStationCountMax < word then none
        else some { info with numStations := word })
  | .fwNumLinks =>
      ofLength tlv 4
        (if iwlFwMaxLinkId + 1 < word then none
        else some { info with numLinks := word })
  | .fwNumBeacons => wordTlv fw tlv fun word => { info with numBeacons := word }
  | .umacDebugAddrs => ofLength tlv 8 (some info)
  | .lmacDebugAddrs => ofLength tlv 32 (some info)
  | .cmdVersions =>
      if info.cmdVersions.isSome then none
      else some
        { info with
          cmdVersions := some (fw.bytes tlv.body (tlv.length / 4 * 4)) }
  | .phyIntegrationVersion =>
      if info.phyIntegrationVer.isSome then some info
      else some
        { info with
          phyIntegrationVer := some (fw.bytes tlv.body tlv.length) }
  | .currentPc =>
      if tlv.length < 36 then none
      else some { info with pcData := fw.bytes tlv.body tlv.length }
  | .pnvmData =>
      if info.pnvmData.isSome then some info
      else some { info with pnvmData := some (fw.bytes tlv.body tlv.length) }
  | .cmdBiosTable =>
      if tlv.length % 4 ≠ 0 then none
      else if info.cmdBiosTables.isSome then none
      else some
        { info with cmdBiosTables := some (fw.bytes tlv.body tlv.length) }
  | _ => some info

/-! ## The loop -/

/-- `data`, `len` and what was parsed at the head of the loop. -/
structure TlvParse where
  data : ℕ
  len : ℕ
  pieces : FirmwarePieces
  info : FirmwareInfo

/-- `ALIGN(tlv_len, 4)` on `u32` -/
def alignTlvLen (length : ℕ) : ℕ := (length + 3) % 2 ^ 32 / 4 * 4

/-- `size_t` subtraction -/
def sizeSub (len count : ℕ) : ℕ := (len + 2 ^ 64 - count) % 2 ^ 64

namespace TlvParse

/-- The checks behind the loop. -/
def finish (parse : TlvParse) : Option TlvParse :=
  if usnifferUnified ∉ parse.info.capa ∧ parse.info.usnifferReq ∧
      !parse.info.usnifferImages then
    none
  else if parse.len ≠ 0 then none
  else some parse

/-- One round of the loop, with no result for `-EINVAL`. -/
def round (fw : Firmware) (parse : TlvParse) : Option TlvParse ⊕ TlvParse :=
  if parse.len < 8 then .inl parse.finish
  else
    let len := parse.len - 8
    let tlv := fw.tlv parse.data
    if len < tlv.length then .inl none
    else
      match handleTlv fw parse.pieces parse.info tlv with
      | none => .inl none
      | some info =>
          .inr
            { data := parse.data + 8 + alignTlvLen tlv.length
              len := sizeSub len (alignTlvLen tlv.length)
              pieces := (recordedPieces fw parse.pieces tlv).foldl
                FirmwarePieces.record parse.pieces
              info := info }

end TlvParse

def iwlTlvFwDbgMagic : ℕ := 0xb5221389

def iwlTlvUcodeMagic : ℕ := 0x0a4c5749

def sizeofTlvUcodeHeader : ℕ := 88

/-- The part of `iwl_parse_tlv_firmware` in front of the loop.  What the pieces
and the capabilities hold may come from another file. -/
def tlvParseStart (fw : Firmware) (pieces : FirmwarePieces)
    (info : FirmwareInfo) : Option TlvParse :=
  let info := { info with usnifferReq := false }
  if fw.le32 4 = iwlTlvFwDbgMagic then
    some
      { data := 8
        len := sizeSub fw.size 8
        pieces := pieces
        info := info }
  else if fw.size < sizeofTlvUcodeHeader then none
  else if fw.le32 4 ≠ iwlTlvUcodeMagic then none
  else
    some
      { data := sizeofTlvUcodeHeader
        len := fw.size - sizeofTlvUcodeHeader
        pieces := pieces
        info :=
          { info with
            ucodeVer := fw.le32 72
            humanReadable := fw.bytes 8 64 } }

/-- The outer result is missing when the fuel is used up. -/
def iwlParseTlvFirmware (fw : Firmware) (pieces : FirmwarePieces)
    (info : FirmwareInfo) (fuel : ℕ) : Option (Option TlvParse) :=
  match tlvParseStart fw pieces info with
  | none => some none
  | some start => FuelLoop.run (TlvParse.round fw) fuel start

end IwlwifiStack
