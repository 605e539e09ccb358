import IwlwifiStack.FirmwareTlvModel

/-!
# What the TLV parser reads and keeps

While every TLV fits with its padding, position and remaining length add up to
the size of the file, so that the loop ends and looks at nothing behind the
file.  A TLV that fits only without its padding turns the remaining length into
one of almost `2 ^ 64`.
-/

namespace IwlwifiStack

/-! ## Tiles -/

def UcodeTlv.paddedLength (tlv : UcodeTlv) : ℕ := (tlv.length + 3) / 4 * 4

def Firmware.nextTlv (fw : Firmware) (position : ℕ) : ℕ :=
  position + 8 + (fw.tlv position).paddedLength

/-- TLVs with their padding fill the bytes from `start` to `stop`. -/
def Firmware.Tiled (fw : Firmware) (start stop : ℕ) : Prop :=
  ∃ count, fw.nextTlv^[count] start = stop

namespace Firmware

variable {fw : Firmware} {start position stop : ℕ}

theorem tiled_refl (fw : Firmware) (start : ℕ) : fw.Tiled start start := ⟨0, rfl⟩

theorem Tiled.next (htiled : fw.Tiled start position) :
    fw.Tiled start (fw.nextTlv position) := by
  obtain ⟨count, hcount⟩ := htiled
  exact ⟨count + 1, by rw [Function.iterate_succ_apply', hcount]⟩

theorem nextTlv_iterate_strictMono (fw : Firmware) (start : ℕ) :
    StrictMono fun count => fw.nextTlv^[count] start := by
  apply strictMono_nat_of_lt_succ
  intro count
  rw [Function.iterate_succ_apply', nextTlv]
  omega

theorem Tiled.next_le (htiled : fw.Tiled start position)
    (hstop : fw.Tiled start stop) (hlt : position < stop) :
    fw.nextTlv position ≤ stop := by
  obtain ⟨count, rfl⟩ := htiled
  obtain ⟨other, rfl⟩ := hstop
  have hmono := nextTlv_iterate_strictMono fw start
  have hcount : count + 1 ≤ other := hmono.lt_iff_lt.mp hlt
  rw [← Function.iterate_succ_apply' fw.nextTlv]
  exact hmono.monotone hcount

theorem byte_lt (fw : Firmware) (position : ℕ) : fw.byte position < 2 ^ 8 :=
  (fw.memory position).toNat_lt

theorem le32_lt (fw : Firmware) (position : ℕ) : fw.le32 position < 2 ^ 32 := by
  have h0 := fw.byte_lt position
  have h1 := fw.byte_lt (position + 1)
  have h2 := fw.byte_lt (position + 2)
  have h3 := fw.byte_lt (position + 3)
  unfold le32
  omega

theorem tlv_length_lt (fw : Firmware) (position : ℕ) :
    (fw.tlv position).length < 2 ^ 32 := fw.le32_lt _

end Firmware

/-! ## Rounds -/

namespace TlvParse

theorem round_inr {fw : Firmware} {parse next : TlvParse}
    (hround : parse.round fw = .inr next) :
    8 ≤ parse.len ∧ (fw.tlv parse.data).length ≤ parse.len - 8 ∧
      next.data =
        parse.data + 8 + alignTlvLen (fw.tlv parse.data).length ∧
      next.len =
        sizeSub (parse.len - 8) (alignTlvLen (fw.tlv parse.data).length) := by
  unfold round at hround
  dsimp only at hround
  split_ifs at hround with hshort hlong
  split at hround
  · cases hround
  · cases hround
    exact ⟨Nat.le_of_not_lt hshort, Nat.le_of_not_lt hlong, rfl, rfl⟩

theorem round_inl {fw : Firmware} {parse result : TlvParse}
    (hround : parse.round fw = .inl (some result)) : parse.len = 0 := by
  unfold round at hround
  dsimp only at hround
  split_ifs at hround with hshort hlong
  · rw [Sum.inl.injEq] at hround
    unfold finish at hround
    split_ifs at hround with husniffer hlen
    exact not_not.mp hlen
  · cases hround
  · split at hround <;> cases hround

end TlvParse

theorem alignTlvLen_eq {length : ℕ} (hlength : length + 3 < 2 ^ 32) :
    alignTlvLen length = (length + 3) / 4 * 4 := by
  rw [alignTlvLen, Nat.mod_eq_of_lt hlength]

theorem alignTlvLen_overflow {length : ℕ} (hlength : length < 2 ^ 32)
    (hoverflow : 2 ^ 32 ≤ length + 3) : alignTlvLen length = 0 := by
  unfold alignTlvLen
  omega

theorem sizeSub_eq {len count : ℕ} (hlen : len < 2 ^ 64) (hcount : count ≤ len) :
    sizeSub len count = len - count := by
  unfold sizeSub
  omega

/-! ## Pieces -/

def sizeofConfTlv : ℕ := 4

def sizeofTriggerTlv : ℕ := 28

/-- The piece is inside the body of its TLV: it begins at the body, behind the
fixed part for `iwl_store_ucode_sec`; the fixed part is there; and the size, or
the number of registers, is what the fixed part leaves.  The lengths kept for
configurations and triggers include the fixed part. -/
def FwPiece.InBody (tlv : UcodeTlv) : FwPiece → Prop
  | .sec _ _ entry => entry.data = tlv.body ∧ entry.size = tlv.length
  | .ucodeSec _ entry =>
      4 ≤ tlv.length ∧ entry.data = tlv.body + 4 ∧ entry.size = tlv.length - 4
  | .destVer data => data = tlv.body ∧ 1 ≤ tlv.length
  | .dest version data nDestReg =>
      data = tlv.body ∧ destRegOps version ≤ tlv.length ∧
        nDestReg = (tlv.length - destRegOps version) / sizeofRegOp
  | .conf _ data len =>
      data = tlv.body ∧ sizeofConfTlv ≤ tlv.length ∧ len = tlv.length
  | .trigger _ data len =>
      data = tlv.body ∧ sizeofTriggerTlv ≤ tlv.length ∧ len = tlv.length

/-- The lengths that the switch does not check. -/
def PiecesMeet (fw : Firmware) (pieces : FirmwarePieces) (tlv : UcodeTlv) : Prop :=
  match tlv.type with
  | .secRt | .secInit | .secWowlan
  | .secureSecRt | .secureSecInit | .secureSecWowlan | .secRtUsniffer =>
      4 ≤ tlv.length ∧ tlv.length < 2 ^ 31
  | .fwDbgDest =>
      1 ≤ tlv.length ∧
        (fw.byte tlv.body ≤ 1 ∧ pieces.dbgDestTlvInit = false →
          destRegOps (fw.byte tlv.body) ≤ tlv.length ∧
            tlv.length < destRegOps (fw.byte tlv.body) + 2 ^ 8)
  | .fwDbgConf =>
      pieces.dbgDestTlvInit = true ∧ fw.byte tlv.body < fwDbgConfMax ∧
          pieces.dbgConfTlv (fw.byte tlv.body) = none →
        sizeofConfTlv ≤ tlv.length
  | .fwDbgTrigger =>
      fw.le32 tlv.body < fwDbgTriggerMax ∧
          pieces.dbgTriggerTlv (fw.le32 tlv.body) = none →
        sizeofTriggerTlv ≤ tlv.length
  | _ => True

theorem iwlStoreUcodeSec_inBody {fw : Firmware} {tlv : UcodeTlv}
    (hlength : tlv.length < 2 ^ 32) (type : UcodeType) :
    (FwPiece.ucodeSec type
        (iwlStoreUcodeSec fw tlv.body tlv.length)).InBody tlv ↔
      4 ≤ tlv.length ∧ tlv.length < 2 ^ 31 := by
  simp only [FwPiece.InBody, iwlStoreUcodeSec, intToSize]
  split_ifs with hsign
  · constructor
    · rintro ⟨hfixed, -, -⟩
      exact ⟨hfixed, hsign⟩
    · rintro ⟨hfixed, -⟩
      exact ⟨hfixed, trivial, by omega⟩
  · constructor
    · rintro ⟨-, -, hsize⟩
      omega
    · rintro ⟨-, hless⟩
      omega

theorem nDestReg_eq_iff {version length : ℕ}
    (hfixed : destRegOps version ≤ length) :
    nDestReg version length = (length - destRegOps version) / sizeofRegOp ↔
      length < destRegOps version + 2 ^ 8 := by
  unfold nDestReg sizeofRegOp
  omega

theorem dest_inBody {tlv : UcodeTlv} (version : ℕ) :
    (FwPiece.dest version tlv.body (nDestReg version tlv.length)).InBody tlv ↔
      destRegOps version ≤ tlv.length ∧
        tlv.length < destRegOps version + 2 ^ 8 := by
  simp only [FwPiece.InBody, true_and]
  constructor
  · rintro ⟨hfixed, hcount⟩
    exact ⟨hfixed, (nDestReg_eq_iff hfixed).mp hcount⟩
  · rintro ⟨hfixed, hless⟩
    exact ⟨hfixed, (nDestReg_eq_iff hfixed).mpr hless⟩

theorem recordedPieces_inBody {fw : Firmware} {pieces : FirmwarePieces}
    {tlv : UcodeTlv} (hlength : tlv.length < 2 ^ 32) :
    (∀ piece ∈ recordedPieces fw pieces tlv, piece.InBody tlv) ↔
      PiecesMeet fw pieces tlv := by
  unfold recordedPieces PiecesMeet
  cases tlv.type
  case fwDbgDest =>
    dsimp only
    split_ifs with hfirst
    · rw [List.forall_mem_cons, List.forall_mem_singleton, dest_inBody]
      simp [FwPiece.InBody, hfirst]
    · simp [FwPiece.InBody, hfirst]
  case fwDbgConf =>
    dsimp only
    split_ifs with hnew <;> simp [FwPiece.InBody, hnew]
  case fwDbgTrigger =>
    dsimp only
    split_ifs with hnew <;> simp [FwPiece.InBody, hnew]
  case secRt | secInit | secWowlan | secureSecRt | secureSecInit |
      secureSecWowlan | secRtUsniffer =>
    rw [List.forall_mem_singleton]
    exact iwlStoreUcodeSec_inBody hlength _
  all_goals simp [FwPiece.InBody]

/-! ## The whole file -/

section Parse

variable (fw : Firmware) (pieces : FirmwarePieces) (info : FirmwareInfo)

def AtHead (parse : TlvParse) : Prop :=
  ∃ start, tlvParseStart fw pieces info = some start ∧
    FuelLoop.Reached (TlvParse.round fw) start parse

def headerEnd : ℕ :=
  if fw.le32 4 = iwlTlvFwDbgMagic then 8 else sizeofTlvUcodeHeader

/-- The parser ends; each TLV header and body it looks at is inside the file;
the TLVs it has gone through are tiles, which fill the file on success; and
what it records from a TLV is inside the body of that TLV. -/
structure ParsesWithin : Prop where
  terminates : ∃ fuel result,
    iwlParseTlvFirmware fw pieces info fuel = some result
  header : ∀ parse, AtHead fw pieces info parse → 8 ≤ parse.len →
    parse.data + 8 ≤ fw.size
  body : ∀ parse, AtHead fw pieces info parse → 8 ≤ parse.len →
    (fw.tlv parse.data).length ≤ parse.len - 8 →
      (fw.tlv parse.data).body + (fw.tlv parse.data).length ≤ fw.size
  tiled : ∀ parse, AtHead fw pieces info parse →
    fw.Tiled (headerEnd fw) parse.data
  complete : ∀ fuel parse,
    iwlParseTlvFirmware fw pieces info fuel = some (some parse) →
      fw.Tiled (headerEnd fw) fw.size
  recorded : ∀ parse next, AtHead fw pieces info parse →
    parse.round fw = .inr next →
      ∀ piece ∈ recordedPieces fw parse.pieces (fw.tlv parse.data),
        piece.InBody (fw.tlv parse.data)

/-- A debug file has its header, and each TLV that is accepted is there with
its padding and has the length that its pointers need. -/
structure FirmwareMeets : Prop where
  header : fw.le32 4 = iwlTlvFwDbgMagic → 8 ≤ fw.size
  padded : ∀ parse next, AtHead fw pieces info parse →
    parse.round fw = .inr next →
      (fw.tlv parse.data).paddedLength ≤ parse.len - 8 ∧
        (fw.tlv parse.data).length + 3 < 2 ^ 32
  pieces : ∀ parse next, AtHead fw pieces info parse →
    parse.round fw = .inr next →
      PiecesMeet fw parse.pieces (fw.tlv parse.data)

end Parse

variable {fw : Firmware} {pieces : FirmwarePieces} {info : FirmwareInfo}

theorem AtHead.after {parse next : TlvParse} (hhead : AtHead fw pieces info parse)
    (hround : parse.round fw = .inr next) : AtHead fw pieces info next := by
  obtain ⟨start, hstart, hreached⟩ := hhead
  exact ⟨start, hstart, hreached.after hround⟩

theorem AtHead.invariant {parse : TlvParse}
    (hhead : AtHead fw pieces info parse) (Holds : TlvParse → Prop)
    (hstart : ∀ start, tlvParseStart fw pieces info = some start → Holds start)
    (hround : ∀ parse next, AtHead fw pieces info parse → Holds parse →
      parse.round fw = .inr next → Holds next) : Holds parse := by
  obtain ⟨start, heq, hreached⟩ := hhead
  apply hreached.invariant Holds (hstart start heq)
  intro parse next hreached hholds hnext
  exact hround parse next ⟨start, heq, hreached⟩ hholds hnext

theorem tlvParseStart_eq {start : TlvParse}
    (hstart : tlvParseStart fw pieces info = some start) :
    start.data = headerEnd fw ∧
      (start.len = sizeSub fw.size 8 ∧ fw.le32 4 = iwlTlvFwDbgMagic ∨
        start.data + start.len = fw.size) := by
  unfold tlvParseStart at hstart
  unfold headerEnd
  dsimp only at hstart
  split_ifs at hstart ⊢ with hdebug hsize hmagic
  · cases hstart
    exact ⟨rfl, .inl ⟨rfl, hdebug⟩⟩
  · cases hstart
    refine ⟨rfl, .inr ?_⟩
    dsimp only
    omega

theorem tlvParseStart_size {start : TlvParse}
    (hheader : fw.le32 4 = iwlTlvFwDbgMagic → 8 ≤ fw.size)
    (hstart : tlvParseStart fw pieces info = some start) :
    start.data + start.len = fw.size := by
  obtain ⟨hdata, ⟨hlen, hdebug⟩ | hsize⟩ := tlvParseStart_eq hstart
  · have hlong := hheader hdebug
    rw [hdata, hlen, sizeSub_eq fw.size_lt hlong, headerEnd, if_pos hdebug]
    omega
  · exact hsize

theorem TlvParse.round_padded {parse next : TlvParse}
    (hround : parse.round fw = .inr next)
    (hsize : parse.data + parse.len = fw.size)
    (hpadded : (fw.tlv parse.data).paddedLength ≤ parse.len - 8)
    (hlength : (fw.tlv parse.data).length + 3 < 2 ^ 32) :
    next.data = fw.nextTlv parse.data ∧ next.data + next.len = fw.size ∧
      next.len < parse.len := by
  obtain ⟨hlen, -, hdata, hnext⟩ := TlvParse.round_inr hround
  have hbound := fw.size_lt
  rw [alignTlvLen_eq hlength] at hdata hnext
  rw [UcodeTlv.paddedLength] at hpadded
  rw [sizeSub_eq (by omega) hpadded] at hnext
  refine ⟨hdata, ?_, ?_⟩ <;> omega

/-! ## From the condition -/

namespace FirmwareMeets

theorem size_eq (hmeets : FirmwareMeets fw pieces info) {parse : TlvParse}
    (hhead : AtHead fw pieces info parse) : parse.data + parse.len = fw.size := by
  apply hhead.invariant fun parse => parse.data + parse.len = fw.size
  · intro start hstart
    exact tlvParseStart_size hmeets.header hstart
  · intro parse next hhead hsize hround
    obtain ⟨hpadded, hlength⟩ := hmeets.padded parse next hhead hround
    exact (TlvParse.round_padded hround hsize hpadded hlength).2.1

theorem tiled (hmeets : FirmwareMeets fw pieces info) {parse : TlvParse}
    (hhead : AtHead fw pieces info parse) :
    fw.Tiled (headerEnd fw) parse.data := by
  apply hhead.invariant fun parse => fw.Tiled (headerEnd fw) parse.data
  · intro start hstart
    rw [(tlvParseStart_eq hstart).1]
    exact fw.tiled_refl _
  · intro parse next hhead htiled hround
    obtain ⟨hpadded, hlength⟩ := hmeets.padded parse next hhead hround
    rw [(TlvParse.round_padded hround (hmeets.size_eq hhead) hpadded
      hlength).1]
    exact htiled.next

theorem terminates (hmeets : FirmwareMeets fw pieces info) :
    ∃ fuel result, iwlParseTlvFirmware fw pieces info fuel = some result := by
  unfold iwlParseTlvFirmware
  cases hstart : tlvParseStart fw pieces info with
  | none => exact ⟨0, none, rfl⟩
  | some start =>
      refine ⟨start.len + 1, ?_⟩
      apply FuelLoop.run_of_measure TlvParse.len
      · intro parse next hreached hround
        have hhead : AtHead fw pieces info parse := ⟨start, hstart, hreached⟩
        obtain ⟨hpadded, hlength⟩ := hmeets.padded parse next hhead hround
        exact (TlvParse.round_padded hround (hmeets.size_eq hhead) hpadded
          hlength).2.2
      · exact Nat.lt_succ_self _

theorem parsesWithin (hmeets : FirmwareMeets fw pieces info) :
    ParsesWithin fw pieces info := by
  constructor
  · exact hmeets.terminates
  · intro parse hhead hlen
    have hsize := hmeets.size_eq hhead
    omega
  · intro parse hhead hlen hlength
    have hsize := hmeets.size_eq hhead
    show parse.data + 8 + _ ≤ fw.size
    omega
  · intro parse hhead
    exact hmeets.tiled hhead
  · intro fuel result hresult
    unfold iwlParseTlvFirmware at hresult
    cases hstart : tlvParseStart fw pieces info with
    | none =>
        rw [hstart] at hresult
        cases hresult
    | some start =>
        rw [hstart] at hresult
        obtain ⟨parse, hreached, hround⟩ := FuelLoop.reached_of_run hresult
        have hhead : AtHead fw pieces info parse := ⟨start, hstart, hreached⟩
        have hsize := hmeets.size_eq hhead
        rw [TlvParse.round_inl hround, add_zero] at hsize
        rw [← hsize]
        exact hmeets.tiled hhead
  · intro parse next hhead hround
    exact (recordedPieces_inBody (fw.tlv_length_lt _)).mpr
      (hmeets.pieces parse next hhead hround)

end FirmwareMeets

/-! ## To the condition -/

namespace ParsesWithin

theorem debugHeader (hparses : ParsesWithin fw pieces info)
    (hdebug : fw.le32 4 = iwlTlvFwDbgMagic) : 8 ≤ fw.size := by
  by_contra hsize
  obtain ⟨start, hstart⟩ : ∃ start,
      tlvParseStart fw pieces info = some start :=
    ⟨_, if_pos hdebug⟩
  obtain ⟨hdata, ⟨hlen, -⟩ | hwhole⟩ := tlvParseStart_eq hstart
  · rw [headerEnd, if_pos hdebug] at hdata
    have hlong : 8 ≤ start.len := by
      rw [hlen, sizeSub]
      omega
    have hheader := hparses.header start
      ⟨start, hstart, Relation.ReflTransGen.refl⟩ hlong
    omega
  · rw [hdata, headerEnd, if_pos hdebug] at hwhole
    omega

theorem padded (hparses : ParsesWithin fw pieces info) {parse next : TlvParse}
    (hhead : AtHead fw pieces info parse)
    (hround : parse.round fw = .inr next)
    (hsize : parse.data + parse.len = fw.size) :
    (fw.tlv parse.data).paddedLength ≤ parse.len - 8 ∧
      (fw.tlv parse.data).length + 3 < 2 ^ 32 := by
  obtain ⟨hlen, hfits, hdata, hnext⟩ := TlvParse.round_inr hround
  have hafter := hhead.after hround
  have hlength : (fw.tlv parse.data).length + 3 < 2 ^ 32 := by
    by_contra hoverflow
    rw [alignTlvLen_overflow (fw.tlv_length_lt _) (by omega)] at hdata
    have htiled := hparses.tiled next hafter
    have hinside := (hparses.tiled parse hhead).next_le htiled (by omega)
    rw [Firmware.nextTlv, UcodeTlv.paddedLength] at hinside
    omega
  refine ⟨?_, hlength⟩
  by_contra hunpadded
  rw [alignTlvLen_eq hlength] at hdata hnext
  rw [UcodeTlv.paddedLength] at hunpadded
  have hbound := fw.size_lt
  -- what is left has wrapped around
  have hlong : 8 ≤ next.len := by
    rw [hnext, sizeSub]
    omega
  have hheader := hparses.header next hafter hlong
  omega

theorem size_eq (hparses : ParsesWithin fw pieces info) {parse : TlvParse}
    (hhead : AtHead fw pieces info parse) : parse.data + parse.len = fw.size := by
  apply hhead.invariant fun parse => parse.data + parse.len = fw.size
  · intro start hstart
    exact tlvParseStart_size hparses.debugHeader hstart
  · intro parse next hhead hsize hround
    obtain ⟨hpadded, hlength⟩ := hparses.padded hhead hround hsize
    exact (TlvParse.round_padded hround hsize hpadded hlength).2.1

theorem firmwareMeets (hparses : ParsesWithin fw pieces info) :
    FirmwareMeets fw pieces info := by
  constructor
  · exact hparses.debugHeader
  · intro parse next hhead hround
    exact hparses.padded hhead hround (hparses.size_eq hhead)
  · intro parse next hhead hround
    exact (recordedPieces_inBody (fw.tlv_length_lt _)).mp
      (hparses.recorded parse next hhead hround)

end ParsesWithin

/-- The file is parsed within its bounds just when every TLV that is accepted
has its padding and the length that its pointers need. -/
theorem firmware_tlvs_exact (fw : Firmware) (pieces : FirmwarePieces)
    (info : FirmwareInfo) :
    ParsesWithin fw pieces info ↔ FirmwareMeets fw pieces info :=
  ⟨ParsesWithin.firmwareMeets, FirmwareMeets.parsesWithin⟩

/-! ## A file whose last TLV has no padding -/

/-- The file header and a TLV of type 0 with one byte of body. -/
def unpaddedFirmware : Firmware where
  memory := fun position =>
    match position with
    | 4 => 0x49
    | 5 => 0x57
    | 6 => 0x4c
    | 7 => 0x0a
    | 92 => 1
    | _ => 0
  size := 97
  size_lt := by decide

/-- The parser goes on behind the end of the file. -/
theorem firmware_tlvs_unpadded :
    ¬∃ (pieces : FirmwarePieces) (info : FirmwareInfo),
      ParsesWithin unpaddedFirmware pieces info := by
  rintro ⟨pieces, info, hparses⟩
  have htlv : unpaddedFirmware.tlv 88 = ⟨88, .unknown, 1⟩ := by decide
  obtain ⟨start, hstart, hdata, hlen⟩ : ∃ start,
      tlvParseStart unpaddedFirmware pieces info = some start ∧
        start.data = 88 ∧ start.len = 9 := ⟨_, rfl, rfl, rfl⟩
  have hround : start.round unpaddedFirmware =
      .inr ⟨100, 2 ^ 64 - 3, start.pieces, start.info⟩ := by
    simp only [TlvParse.round, hdata, hlen, htlv]
    rfl
  have hhead := AtHead.after ⟨start, hstart, Relation.ReflTransGen.refl⟩ hround
  have hlong : 8 ≤ 2 ^ 64 - 3 := by decide
  have hheader : 100 + 8 ≤ 97 := hparses.header _ hhead hlong
  omega

end IwlwifiStack
