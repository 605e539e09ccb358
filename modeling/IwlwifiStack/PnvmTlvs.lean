import IwlwifiStack.FirmwareTlvParse
import IwlwifiStack.PnvmModel

/-!
# The TLVs of a PNVM image

The loops over an image as passes over the list of its TLVs.  A TLV that the
image holds without its padding is the last one: the length left wraps around,
and the loop goes on behind the image.
-/

namespace IwlwifiStack

namespace PnvmTlv

def Complete (fw : Firmware) (tlv : PnvmTlv) : Prop :=
  tlv.body + tlv.length ≤ fw.size

def Fits (fw : Firmware) (tlv : PnvmTlv) : Prop :=
  tlv.body + tlv.alignedLength ≤ fw.size

instance (fw : Firmware) (tlv : PnvmTlv) : Decidable (tlv.Complete fw) :=
  inferInstanceAs (Decidable (_ ≤ _))

instance (fw : Firmware) (tlv : PnvmTlv) : Decidable (tlv.Fits fw) :=
  inferInstanceAs (Decidable (_ ≤ _))

/-- A TLV of an image. -/
structure InImage (fw : Firmware) (tlv : PnvmTlv) : Prop where
  complete : tlv.Complete fw
  length_lt : tlv.length < 2 ^ 32

end PnvmTlv

/-- The TLVs from a position on, and whether no incomplete TLV follows. -/
def Firmware.pnvmTlvs (fw : Firmware) (position : ℕ) : List PnvmTlv × Bool :=
  if position + 8 ≤ fw.size then
    let tlv := fw.pnvmTlv position
    if tlv.Complete fw then
      let rest := fw.pnvmTlvs (tlv.body + tlv.alignedLength)
      (tlv :: rest.1, rest.2)
    else ([], false)
  else ([], true)
termination_by fw.size - position
decreasing_by
  simp only [Firmware.pnvmTlv, PnvmTlv.body]
  omega

section Lists

variable (fw : Firmware)

/-- A section, as a pass over the TLVs behind its SKU TLV. -/
def sectionPass (handle : PnvmTlv → SectionState → Option TlvAction)
    (finish : SectionState → PnvmRet) (whole : Bool) :
    List PnvmTlv → SectionState → WalkResult (PnvmRet × SectionState)
  | [], st => .ret (if whole then finish st else .einval, st)
  | tlv :: rest, st =>
    match handle tlv st with
    | none => .outside
    | some .fail => .ret (.einval, st)
    | some .done => .ret (finish st, st)
    | some (.next after) =>
      if tlv.Fits fw then sectionPass handle finish whole rest after
      else .outside

def Firmware.skuId (position : ℕ) : SkuId :=
  ⟨fw.le32 position, fw.le32 (position + 4), fw.le32 (position + 8)⟩

def PnvmTlv.startsSection (skuId : SkuId) (tlv : PnvmTlv) : Bool :=
  decide (tlv.type = .pnvmSku ∧ fw.skuId tlv.body = skuId)

/-- The image, as a pass over its TLVs. -/
def parsePass
    (handleSection : List PnvmTlv → List ChunkStore →
      WalkResult (PnvmRet × SectionState))
    (atSku : ParseState → ParseState) (skuId : SkuId) (whole : Bool) :
    List PnvmTlv → ParseState → WalkResult (PnvmRet × ParseState)
  | [], st => .ret (if whole then .enoent else .einval, st)
  | tlv :: rest, st =>
    if ¬tlv.Fits fw ∨ tlv.type = .pnvmSku ∧ fw.size < tlv.body + 12 then .outside
    else if tlv.startsSection fw skuId then
      match handleSection rest st.stores with
      | .outOfFuel => .outOfFuel
      | .outside => .outside
      | .ret (.ok, sec) => .ret (.ok, (atSku st).afterSection sec)
      | .ret (_, sec) =>
        parsePass handleSection atSku skuId whole rest
          ((atSku st).afterSection sec)
    else
      parsePass handleSection atSku skuId whole rest
        (if tlv.type = .pnvmSku then atSku st else st)

end Lists

namespace Firmware

variable {fw : Firmware} {position : ℕ}

theorem pnvmTlvs_complete (hheader : position + 8 ≤ fw.size)
    (hcomplete : (fw.pnvmTlv position).Complete fw) :
    fw.pnvmTlvs position =
      (fw.pnvmTlv position ::
        (fw.pnvmTlvs ((fw.pnvmTlv position).body +
          (fw.pnvmTlv position).alignedLength)).1,
        (fw.pnvmTlvs ((fw.pnvmTlv position).body +
          (fw.pnvmTlv position).alignedLength)).2) := by
  rw [pnvmTlvs, if_pos hheader, if_pos hcomplete]

theorem pnvmTlvs_incomplete (hheader : position + 8 ≤ fw.size)
    (hcomplete : ¬(fw.pnvmTlv position).Complete fw) :
    fw.pnvmTlvs position = ([], false) := by
  rw [pnvmTlvs, if_pos hheader, if_neg hcomplete]

theorem pnvmTlvs_end (hheader : ¬position + 8 ≤ fw.size) :
    fw.pnvmTlvs position = ([], true) := by
  rw [pnvmTlvs, if_neg hheader]

theorem pnvmTlvs_inImage (fw : Firmware) (position : ℕ) :
    ∀ tlv ∈ (fw.pnvmTlvs position).1, tlv.InImage fw := by
  induction hleft : fw.size - position using Nat.strong_induction_on
    generalizing position with
  | _ left ih =>
      by_cases hheader : position + 8 ≤ fw.size
      · by_cases hcomplete : (fw.pnvmTlv position).Complete fw
        · rw [pnvmTlvs_complete hheader hcomplete]
          intro tlv htlv
          rcases List.mem_cons.mp htlv with heq | hrest
          · rw [heq]
            exact ⟨hcomplete, fw.le32_lt _⟩
          · apply ih _ _ _ rfl tlv hrest
            simp only [pnvmTlv, PnvmTlv.body]
            omega
        · rw [pnvmTlvs_incomplete hheader hcomplete]
          simp
      · rw [pnvmTlvs_end hheader]
        simp

theorem readTlv_eq (hheader : position + 8 ≤ fw.size) :
    fw.readTlv position = some (fw.pnvmTlv position) :=
  if_pos hheader

theorem readTlv_outside (hheader : ¬position + 8 ≤ fw.size) :
    fw.readTlv position = none :=
  if_neg hheader

theorem read16_eq (hinside : position + 2 ≤ fw.size) :
    fw.read16 position = some (fw.le16 position) :=
  if_pos hinside

theorem read32_eq (hinside : position + 4 ≤ fw.size) :
    fw.read32 position = some (fw.le32 position) :=
  if_pos hinside

theorem read32_outside (hinside : ¬position + 4 ≤ fw.size) :
    fw.read32 position = none :=
  if_neg hinside

theorem readSkuId_eq (hinside : position + 12 ≤ fw.size) :
    fw.readSkuId position = some (fw.skuId position) := by
  have h0 := read32_eq (by omega : position + 4 ≤ fw.size)
  have h1 := read32_eq (by omega : position + 4 + 4 ≤ fw.size)
  have h2 := read32_eq (by omega : position + 8 + 4 ≤ fw.size)
  simp [readSkuId, h0, h1, h2, skuId]

theorem readSkuId_outside (houtside : fw.size < position + 12) :
    fw.readSkuId position = none := by
  have h2 := read32_outside (by omega : ¬position + 8 + 4 ≤ fw.size)
  simp [readSkuId, h2]

end Firmware

theorem sizeSub_fits {fw : Firmware} {tlv : PnvmTlv} {len : ℕ}
    (hlen : tlv.body + len = fw.size) (hfits : tlv.Fits fw) :
    tlv.body + tlv.alignedLength + sizeSub len tlv.alignedLength = fw.size ∧
      sizeSub len tlv.alignedLength ≤ len := by
  have hsize := fw.size_lt
  unfold PnvmTlv.Fits at hfits
  rw [sizeSub_eq (by omega) (by omega)]
  omega

theorem sizeSub_wraps {fw : Firmware} {tlv : PnvmTlv} {len : ℕ}
    (hlen : tlv.body + len = fw.size) (hcomplete : tlv.Complete fw)
    (hfits : ¬tlv.Fits fw) :
    8 ≤ sizeSub len tlv.alignedLength ∧
      ¬tlv.body + tlv.alignedLength + 8 ≤ fw.size := by
  have hsize := fw.size_lt
  unfold PnvmTlv.Fits PnvmTlv.alignedLength at hfits
  unfold PnvmTlv.Complete at hcomplete
  simp only [PnvmTlv.alignedLength, sizeSub, alignTlvLen] at hfits ⊢
  omega

/-! ## The loops are passes -/

section Loops

variable {fw : Firmware}

theorem Firmware.pnvmTlv_body (data : ℕ) : (fw.pnvmTlv data).body = data + 8 := rfl

theorem PnvmTlv.not_complete_iff {tlv : PnvmTlv} {left : ℕ}
    (hbody : tlv.body + left = fw.size) :
    ¬tlv.Complete fw ↔ left < tlv.length := by
  unfold PnvmTlv.Complete
  omega

theorem PnvmTlv.passed_inside {tlv : PnvmTlv} (hfits : tlv.Fits fw)
    (hsku : tlv.type = .pnvmSku → tlv.body + 12 ≤ fw.size) :
    ¬(¬tlv.Fits fw ∨ tlv.type = .pnvmSku ∧ fw.size < tlv.body + 12) := by
  rintro (hunfit | ⟨htype, houtside⟩)
  · exact hunfit hfits
  · have hinside := hsku htype
    omega

theorem sectionLoop_outside {handle : PnvmTlv → SectionState → Option TlvAction}
    {finish : SectionState → PnvmRet} {fuel data len : ℕ} {st : SectionState}
    (hlen : 8 ≤ len) (hdata : ¬data + 8 ≤ fw.size) :
    sectionLoop fw handle finish (fuel + 1) data len st = .outside := by
  rw [sectionLoop, if_neg (by omega), Firmware.readTlv_outside hdata]

theorem parseLoop_outside {handleSection : HandleSection}
    {atSku : ParseState → ParseState} {skuId : SkuId} {fuel data len : ℕ}
    {st : ParseState} (hlen : 8 ≤ len) (hdata : ¬data + 8 ≤ fw.size) :
    parseLoop fw handleSection atSku skuId (fuel + 1) data len st = .outside := by
  rw [parseLoop, if_neg (by omega), Firmware.readTlv_outside hdata]

theorem sectionLoop_eq (handle : PnvmTlv → SectionState → Option TlvAction)
    (finish : SectionState → PnvmRet) {fuel data len : ℕ} (st : SectionState)
    (hlen : data + len = fw.size) (hfuel : len + 1 < fuel) :
    sectionLoop fw handle finish fuel data len st =
      sectionPass fw handle finish (fw.pnvmTlvs data).2 (fw.pnvmTlvs data).1
        st := by
  induction fuel generalizing data len st with
  | zero => omega
  | succ fuel ih =>
      rw [sectionLoop]
      by_cases hshort : len < 8
      · rw [if_pos hshort, Firmware.pnvmTlvs_end (by omega)]
        rfl
      · have hheader : data + 8 ≤ fw.size := by omega
        rw [if_neg hshort, Firmware.readTlv_eq hheader]
        dsimp only
        generalize htlv : fw.pnvmTlv data = tlv
        have hbody : tlv.body + (len - 8) = fw.size := by
          rw [← htlv, Firmware.pnvmTlv_body]
          omega
        by_cases hcomplete : tlv.Complete fw
        · rw [if_neg (mt (PnvmTlv.not_complete_iff hbody).mpr (not_not.mpr hcomplete)),
            Firmware.pnvmTlvs_complete hheader (by rw [htlv]; exact hcomplete),
            htlv]
          dsimp only
          rw [sectionPass]
          cases handle tlv st with
          | none => rfl
          | some action =>
              cases action with
              | fail => rfl
              | done => rfl
              | next after =>
                  dsimp only
                  by_cases hfits : tlv.Fits fw
                  · rw [if_pos hfits]
                    rcases sizeSub_fits hbody hfits with ⟨hnext, hless⟩
                    exact ih after hnext (by omega)
                  · rw [if_neg hfits]
                    rcases sizeSub_wraps hbody hcomplete hfits with ⟨hleft, hnext⟩
                    cases fuel with
                    | zero => omega
                    | succ fuel => exact sectionLoop_outside hleft hnext
        · rw [if_pos ((PnvmTlv.not_complete_iff hbody).mp hcomplete),
            Firmware.pnvmTlvs_incomplete hheader
            (by rw [htlv]; exact hcomplete)]
          rfl

def sectionAt (fw : Firmware)
    (handle : PnvmTlv → SectionState → Option TlvAction)
    (finish : SectionState → PnvmRet) (whole : Bool) (tlvs : List PnvmTlv)
    (stores : List ChunkStore) : WalkResult (PnvmRet × SectionState) :=
  sectionPass fw handle finish whole tlvs (.start stores)

theorem parseLoop_eq (handle : PnvmTlv → SectionState → Option TlvAction)
    (finish : SectionState → PnvmRet) (atSku : ParseState → ParseState)
    (skuId : SkuId) {fuel data len : ℕ} (st : ParseState)
    (hlen : data + len = fw.size) (hfuel : len + 1 < fuel) :
    parseLoop fw (fun fuel data len stores =>
        sectionLoop fw handle finish fuel data len (.start stores))
        atSku skuId fuel data len st =
      parsePass fw (sectionAt fw handle finish (fw.pnvmTlvs data).2) atSku skuId
        (fw.pnvmTlvs data).2 (fw.pnvmTlvs data).1 st := by
  induction fuel generalizing data len st with
  | zero => omega
  | succ fuel ih =>
      rw [parseLoop]
      by_cases hshort : len < 8
      · rw [if_pos hshort, Firmware.pnvmTlvs_end (by omega)]
        rfl
      · have hheader : data + 8 ≤ fw.size := by omega
        rw [if_neg hshort, Firmware.readTlv_eq hheader]
        dsimp only
        generalize htlv : fw.pnvmTlv data = tlv
        have hbody : tlv.body + (len - 8) = fw.size := by
          rw [← htlv, Firmware.pnvmTlv_body]
          omega
        by_cases hcomplete : tlv.Complete fw
        · rw [if_neg (mt (PnvmTlv.not_complete_iff hbody).mpr (not_not.mpr hcomplete)),
            Firmware.pnvmTlvs_complete hheader (by rw [htlv]; exact hcomplete),
            htlv]
          dsimp only
          rw [parsePass]
          by_cases hfits : tlv.Fits fw
          · rcases sizeSub_fits hbody hfits with ⟨hnext, hless⟩
            by_cases hsku : tlv.type = .pnvmSku
            · rw [if_pos hsku]
              by_cases hid : tlv.body + 12 ≤ fw.size
              · rw [Firmware.readSkuId_eq hid,
                  if_neg (PnvmTlv.passed_inside hfits fun _ => hid)]
                dsimp only
                by_cases hmatch : skuId = fw.skuId tlv.body
                · have hstarts : tlv.startsSection fw skuId = true := by
                    simp [PnvmTlv.startsSection, hsku, hmatch]
                  rw [if_pos hmatch, if_pos hstarts, sectionAt,
                    sectionLoop_eq handle finish _ hnext (by omega)]
                  generalize sectionPass fw handle finish _ _ _ = passed
                  cases passed with
                  | outOfFuel => rfl
                  | outside => rfl
                  | ret result =>
                      rcases result with ⟨ret, sec⟩
                      cases ret with
                      | ok => rfl
                      | einval => exact ih _ hnext (by omega)
                      | enoent => exact ih _ hnext (by omega)
                · have hstarts : ¬tlv.startsSection fw skuId = true := by
                    simp only [PnvmTlv.startsSection, decide_eq_true_eq]
                    exact fun hboth => hmatch hboth.2.symm
                  rw [if_neg hmatch, if_neg hstarts, if_pos hsku]
                  exact ih _ hnext (by omega)
              · have houtside : ¬tlv.Fits fw ∨
                    tlv.type = .pnvmSku ∧ fw.size < tlv.body + 12 :=
                  Or.inr ⟨hsku, by omega⟩
                rw [Firmware.readSkuId_outside (by omega), if_pos houtside]
            · have hinside := PnvmTlv.passed_inside hfits (absurd · hsku)
              have hstarts : ¬tlv.startsSection fw skuId = true := by
                simp [PnvmTlv.startsSection, hsku]
              rw [if_neg hsku, if_neg hinside, if_neg hstarts, if_neg hsku]
              exact ih _ hnext (by omega)
          · rcases sizeSub_wraps hbody hcomplete hfits with ⟨hleft, hnext⟩
            rw [if_pos (Or.inl hfits)]
            rcases (⟨fuel - 1, by omega⟩ : ∃ rest, fuel = rest + 1) with
              ⟨rest, hrest⟩
            rw [hrest]
            by_cases hsku : tlv.type = .pnvmSku
            · rw [if_pos hsku]
              cases fw.readSkuId tlv.body with
              | none => rfl
              | some tlvSkuId =>
                  dsimp only
                  by_cases hmatch : skuId = tlvSkuId
                  · rw [if_pos hmatch, sectionLoop_outside hleft hnext]
                  · rw [if_neg hmatch, parseLoop_outside hleft hnext]
            · rw [if_neg hsku, parseLoop_outside hleft hnext]
        · rw [if_pos ((PnvmTlv.not_complete_iff hbody).mp hcomplete),
            Firmware.pnvmTlvs_incomplete hheader
            (by rw [htlv]; exact hcomplete)]
          rfl

end Loops

end IwlwifiStack
