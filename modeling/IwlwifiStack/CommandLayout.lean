import IwlwifiStack.CommandLayoutModel
import IwlwifiStack.CommandQueuePointers

/-!
# Where the bytes of a host command go

The first loop of `iwl_pcie_enqueue_hcmd` and the second one agree on what is copied, and the
transfer buffers describe the command, as long as neither the size of what is copied nor the
length of a chunk that is mapped is cut off.
-/

namespace IwlwifiStack

def copiedLength : List HcmdChunk → ℕ
  | [] => 0
  | chunk :: rest =>
      (if chunk.mapped then 0 else chunk.data.length) + copiedLength rest

/-- Of each chunk that is mapped, from the given place of the command on, what is not in the first
transfer buffer. -/
def remainders : ℕ → List HcmdChunk → List (List UInt8)
  | _, [] => []
  | place, chunk :: rest =>
      (if chunk.mapped then [chunk.data.drop (iwlFirstTbSize - place)] else []) ++
        remainders (place + chunk.data.length) rest

def mappedRemainders (place : ℕ) (chunks : List HcmdChunk) : List (List UInt8) :=
  (remainders place chunks).filter fun buffer => buffer ≠ []

/-! ## One chunk -/

/-- What the loops have made of `total`: the first `copySize` bytes are in the buffer of the entry,
the others are mapped. -/
structure LaidOut (copySize : ℕ) (hadNocopy : Bool) (slot total : List UInt8)
    (mapped : List (List UInt8)) : Prop where
  copy_le : copySize ≤ slot.length
  described : total = slot.take copySize ++ mapped.flatten
  whole : copySize < iwlFirstTbSize ∨ hadNocopy = false →
    slot = total ∧ slot.length = copySize ∧ mapped = []
  fits : slot.length ≤ max tfdMaxPayloadSize copySize

variable {copySize : ℕ} {hadNocopy : Bool} {slot total : List UInt8}
  {mapped : List (List UInt8)} {chunk : HcmdChunk}

namespace LaidOut

theorem copied (hin : LaidOut copySize false slot total mapped) (data : List UInt8) :
    LaidOut (copySize + data.length) false (slot ++ data) (total ++ data) mapped := by
  rcases hin.whole (Or.inr rfl) with ⟨hslot, hlength, hmapped⟩
  have hnew : (slot ++ data).length = copySize + data.length := by
    rw [List.length_append, hlength]
  constructor
  · exact hnew.ge
  · rw [← hnew, List.take_length, hmapped, hslot]
    exact (List.append_nil _).symm
  · intro _
    rw [hslot]
    rw [hslot] at hnew
    exact ⟨rfl, hnew, hmapped⟩
  · rw [hnew]
    exact le_max_right _ _

theorem room_eq (hin : LaidOut copySize hadNocopy slot total mapped) :
    iwlFirstTbSize - copySize = iwlFirstTbSize - total.length := by
  by_cases hshort : copySize < iwlFirstTbSize
  · rcases hin.whole (Or.inl hshort) with ⟨hslot, hlength, _⟩
    rw [← hslot, hlength]
  · have hcopy := hin.copy_le
    have htotal : copySize ≤ total.length := by
      rw [hin.described, List.length_append, List.length_take]
      omega
    omega

theorem mappedChunk (hin : LaidOut copySize hadNocopy slot total mapped) (data : List UInt8) :
    LaidOut (copySize + min (iwlFirstTbSize - copySize) data.length) true
      (slot ++ data.take (min (tfdMaxPayloadSize - slot.length) data.length)) (total ++ data)
      (mapped ++ [data.drop (iwlFirstTbSize - total.length)].filter fun buffer => buffer ≠ []) := by
  have hfirst : iwlFirstTbSize = 20 := rfl
  have hmax : tfdMaxPayloadSize = 324 := rfl
  have hcopy := hin.copy_le
  have hroom := hin.room_eq
  have hflatten : ([data.drop (iwlFirstTbSize - total.length)].filter
      fun buffer => buffer ≠ []).flatten = data.drop (iwlFirstTbSize - total.length) := by
    by_cases hempty : data.drop (iwlFirstTbSize - total.length) = []
    · simp [hempty]
    · simp [hempty]
  have hlength : (slot ++ data.take (min (tfdMaxPayloadSize - slot.length) data.length)).length =
      slot.length + min (tfdMaxPayloadSize - slot.length) data.length := by
    rw [List.length_append, List.length_take]
    omega
  by_cases hshort : copySize < iwlFirstTbSize
  · rcases hin.whole (Or.inl hshort) with ⟨hslot, hslotLength, hmapped⟩
    constructor
    · omega
    · rw [List.flatten_append, hflatten, hmapped, ← hroom, ← hslot, ← hslotLength,
        List.flatten_nil, List.nil_append, List.take_append, List.take_of_length_le (by omega),
        Nat.add_sub_cancel_left, List.take_take, List.append_assoc]
      congr 1
      have hmin : min (min (iwlFirstTbSize - slot.length) data.length)
          (min (tfdMaxPayloadSize - slot.length) data.length) =
            min (iwlFirstTbSize - slot.length) data.length := by omega
      rw [hmin]
      by_cases hfull : iwlFirstTbSize - slot.length ≤ data.length
      · rw [min_eq_left hfull, List.take_append_drop]
      · rw [min_eq_right (by omega), List.take_length, List.drop_eq_nil_of_le (by omega),
          List.append_nil]
    · intro hagain
      have hless : copySize + min (iwlFirstTbSize - copySize) data.length < iwlFirstTbSize :=
        hagain.resolve_right (by decide)
      have hall : data.length ≤ iwlFirstTbSize - total.length := by omega
      have htake : data.take (min (tfdMaxPayloadSize - slot.length) data.length) = data := by
        apply List.take_of_length_le
        omega
      rw [htake, hslot, hmapped, List.drop_eq_nil_of_le hall]
      constructor
      · rfl
      · constructor
        · rw [List.length_append, ← hslot]
          omega
        · rfl
    · rw [hlength]
      omega
  · have hnone : iwlFirstTbSize - copySize = 0 := by omega
    rw [hnone, Nat.zero_min, Nat.add_zero]
    constructor
    · omega
    · rw [List.flatten_append, hflatten, ← hroom, hnone, List.drop_zero,
        List.take_append_of_le_length hcopy, ← List.append_assoc, ← hin.described]
    · intro hagain
      exact absurd hagain (by simp [hshort])
    · have hfits := hin.fits
      rw [hlength]
      omega

end LaidOut

/-! ## All chunks -/

@[simp] theorem mappedRemainders_nil (place : ℕ) : mappedRemainders place [] = [] := rfl

theorem mappedRemainders_cons (place : ℕ) (chunk : HcmdChunk) (rest : List HcmdChunk) :
    mappedRemainders place (chunk :: rest) =
      (if chunk.mapped then
        [chunk.data.drop (iwlFirstTbSize - place)].filter fun buffer => buffer ≠ [] else []) ++
        mappedRemainders (place + chunk.data.length) rest := by
  unfold mappedRemainders
  rw [remainders, List.filter_append]
  split <;> rfl

theorem mappedChunks_cons (chunk : HcmdChunk) (rest : List HcmdChunk) (room : ℕ) (lens : List ℕ) :
    mappedChunks ((chunk :: rest).zip ((chunk.data.length - min room chunk.data.length) :: lens)) =
      (if chunk.mapped then
        [chunk.data.drop room].filter fun buffer => buffer ≠ [] else []) ++
        mappedChunks (rest.zip lens) := by
  have hdrop : chunk.data.drop (chunk.data.length -
      (chunk.data.length - min room chunk.data.length)) = chunk.data.drop room := by
    by_cases hroom : room ≤ chunk.data.length
    · congr 1
      omega
    · rw [List.drop_eq_nil_of_le (by omega), List.drop_eq_nil_of_le (by omega)]
  have hempty : chunk.data.length - min room chunk.data.length = 0 ↔ chunk.data.drop room = [] := by
    rw [List.drop_eq_nil_iff]
    omega
  unfold mappedChunks
  rw [List.zip_cons_cons, List.filterMap_cons]
  by_cases hmapped : chunk.mapped = true
  · by_cases hnone : chunk.data.drop room = []
    · simp [hmapped, hempty.mpr hnone, hnone]
    · have hsome : chunk.data.length - min room chunk.data.length ≠ 0 :=
        fun hzero => hnone (hempty.mp hzero)
      simp [hmapped, hsome, hdrop, hnone]
  · simp [hmapped]

/-- The outcome of the loops on `chunks`. -/
structure LoopsAgree (layout last : HcmdLayout) (chunks : List HcmdChunk) (slot total : List UInt8)
    (mapped : List (List UInt8)) : Prop where
  laidOut : LaidOut last.copySize last.hadNocopy (copyChunks chunks slot)
    (total ++ chunks.flatMap HcmdChunk.data) (mapped ++ mappedRemainders total.length chunks)
  copied : copiedSize (chunks.map HcmdChunk.fragment) layout.copySize = last.copySize
  cmdlen : ∃ lens, last.cmdlen = layout.cmdlen ++ lens ∧
    mappedChunks (chunks.zip lens) = mappedRemainders total.length chunks

namespace LoopsAgree

variable {layout last : HcmdLayout} {chunks : List HcmdChunk}

/-- One more chunk in front: `next` is what the first loop has made of it, and `room` what it took
of the chunk. -/
theorem cons (next : HcmdLayout) (room : ℕ) (nextSlot : List UInt8)
    (hagree : LoopsAgree next last chunks nextSlot (total ++ chunk.data)
      (mapped ++ if chunk.mapped then
        [chunk.data.drop (iwlFirstTbSize - total.length)].filter fun buffer => buffer ≠ [] else []))
    (hslot : copyChunks (chunk :: chunks) slot = copyChunks chunks nextSlot)
    (hcopied : copiedSize ((chunk :: chunks).map HcmdChunk.fragment) layout.copySize =
      copiedSize (chunks.map HcmdChunk.fragment) next.copySize)
    (hroom : chunk.mapped → room = iwlFirstTbSize - total.length)
    (hcmdlen : next.cmdlen =
      layout.cmdlen ++ [chunk.data.length - min room chunk.data.length]) :
    LoopsAgree layout last (chunk :: chunks) slot total mapped := by
  have hremainders : mappedRemainders total.length (chunk :: chunks) =
      (if chunk.mapped then
        [chunk.data.drop (iwlFirstTbSize - total.length)].filter fun buffer => buffer ≠ [] else []) ++
        mappedRemainders (total ++ chunk.data).length chunks := by
    rw [mappedRemainders_cons, List.length_append]
  constructor
  · rw [hslot, hremainders, List.flatMap_cons, ← List.append_assoc, ← List.append_assoc]
    exact hagree.laidOut
  · rw [hcopied]
    exact hagree.copied
  · rcases hagree.cmdlen with ⟨lens, hlast, hmapped⟩
    refine ⟨(chunk.data.length - min room chunk.data.length) :: lens, ?_, ?_⟩
    · rw [hlast, hcmdlen, List.append_assoc]
      rfl
    · rw [mappedChunks_cons, hremainders, hmapped]
      by_cases hin : chunk.mapped = true
      · rw [hroom hin]
      · rw [if_neg hin, if_neg hin]

end LoopsAgree

theorem layoutFragments_mapped {allocates : Bool} {buf : ℕ} {fragment : HcmdFragment}
    {rest : List HcmdFragment} {layout : HcmdLayout} (hlen : fragment.len ≠ 0)
    (hmapped : (fragment.nocopy || fragment.dup) = true)
    (haccepted : (layoutFragments allocates buf (fragment :: rest) layout).2 = none) :
    ∃ dupBuf, layoutFragments allocates buf (fragment :: rest) layout =
      layoutFragments allocates buf rest
        { copySize := layout.copySize + min (iwlFirstTbSize - layout.copySize) fragment.len
          hadNocopy := true
          dupBuf := dupBuf
          cmdlen := layout.cmdlen ++
            [fragment.len - min (iwlFirstTbSize - layout.copySize) fragment.len] } := by
  rw [layoutFragments, if_neg hlen] at haccepted ⊢
  dsimp only at haccepted ⊢
  by_cases hnocopy : fragment.nocopy = true
  · rw [if_pos hnocopy] at haccepted ⊢
    by_cases hdup : fragment.dup = true
    · rw [if_pos hdup] at haccepted
      cases haccepted
    · rw [if_neg hdup]
      exact ⟨_, rfl⟩
  · have hdup : fragment.dup = true := by simpa [hnocopy] using hmapped
    rw [if_neg hnocopy, if_pos hdup] at haccepted ⊢
    by_cases hsecond : layout.dupBuf.isSome = true
    · rw [if_pos hsecond] at haccepted
      cases haccepted
    · rw [if_neg hsecond] at haccepted ⊢
      by_cases hallocates : allocates = true
      · rw [if_pos hallocates]
        exact ⟨_, rfl⟩
      · rw [if_neg hallocates] at haccepted
        cases haccepted

theorem layoutFragments_plain {allocates : Bool} {buf : ℕ} {fragment : HcmdFragment}
    {rest : List HcmdFragment} {layout : HcmdLayout} (hlen : fragment.len ≠ 0)
    (hplain : ¬(fragment.nocopy || fragment.dup) = true)
    (haccepted : (layoutFragments allocates buf (fragment :: rest) layout).2 = none) :
    layout.hadNocopy = false ∧
      layoutFragments allocates buf (fragment :: rest) layout =
        layoutFragments allocates buf rest
          { layout with
            copySize := (layout.copySize + fragment.len) % 2 ^ 16
            cmdlen := layout.cmdlen ++
              [fragment.len - min (iwlFirstTbSize - layout.copySize) fragment.len] } := by
  rw [Bool.or_eq_true, not_or] at hplain
  rw [layoutFragments, if_neg hlen] at haccepted ⊢
  dsimp only at haccepted ⊢
  rw [if_neg hplain.1, if_neg hplain.2] at haccepted ⊢
  by_cases hbefore : layout.hadNocopy = true
  · rw [if_pos hbefore] at haccepted
    cases haccepted
  · rw [if_neg hbefore]
    have hsum : layout.copySize + min (iwlFirstTbSize - layout.copySize) fragment.len +
        (fragment.len - min (iwlFirstTbSize - layout.copySize) fragment.len) =
          layout.copySize + fragment.len := by omega
    rw [hsum]
    exact ⟨Bool.eq_false_iff.mpr hbefore, rfl⟩

/-- The loops agree on every list of chunks that the first one accepts, if what is copied whole
does not pass the end of `copy_size`. -/
theorem LaidOut.layoutFragments_agree (allocates : Bool) (buf : ℕ) (chunks : List HcmdChunk)
    (layout : HcmdLayout) (hin : LaidOut layout.copySize layout.hadNocopy slot total mapped)
    (hsize : layout.copySize < 2 ^ 16)
    (hwhole : layout.hadNocopy = false → layout.copySize + copiedLength chunks < 2 ^ 16)
    (haccepted : (layoutFragments allocates buf (chunks.map HcmdChunk.fragment) layout).2 = none) :
    LoopsAgree layout (layoutFragments allocates buf (chunks.map HcmdChunk.fragment) layout).1
      chunks slot total mapped := by
  induction chunks generalizing layout slot total mapped with
  | nil =>
      constructor
      · simpa [copyChunks, layoutFragments] using hin
      · rfl
      · exact ⟨[], by simp [layoutFragments, mappedChunks]⟩
  | cons chunk rest ih =>
      have hfirst : iwlFirstTbSize = 20 := rfl
      have hroom := hin.room_eq
      rw [List.map_cons] at haccepted ⊢
      by_cases hempty : chunk.data = []
      · have hlen : chunk.fragment.len = 0 := by
          rw [HcmdChunk.fragment, hempty]
          rfl
        have hnone : (if chunk.mapped then
            [chunk.data.drop (iwlFirstTbSize - total.length)].filter fun buffer => buffer ≠ []
            else []) = [] := by
          simp [hempty]
        have hlist : copiedLength (chunk :: rest) = copiedLength rest := by
          simp [copiedLength, hempty]
        rw [layoutFragments, if_pos hlen] at haccepted ⊢
        apply LoopsAgree.cons { layout with cmdlen := layout.cmdlen ++ [0] }
          (iwlFirstTbSize - total.length) slot
        · rw [hnone, hempty, List.append_nil, List.append_nil]
          rw [hlist] at hwhole
          exact ih _ hin hsize hwhole haccepted
        · rw [copyChunks, if_pos hempty]
        · rw [List.map_cons, copiedSize, hlen]
          split
          · rw [Nat.min_zero, Nat.add_zero]
          · rw [Nat.add_zero, Nat.mod_eq_of_lt hsize]
        · exact fun _ => rfl
        · rw [hempty, List.length_nil, Nat.zero_sub]
      · have hlen : chunk.fragment.len ≠ 0 :=
          fun hzero => hempty (List.length_eq_zero_iff.mp hzero)
        by_cases hmapped : chunk.mapped = true
        · rcases layoutFragments_mapped hlen hmapped haccepted with ⟨dupBuf, hstep⟩
          rw [hstep] at haccepted ⊢
          apply LoopsAgree.cons _ (iwlFirstTbSize - layout.copySize) _ (ih _ ?_ ?_ ?_ haccepted)
          · rw [copyChunks, if_neg hempty, if_neg (not_not.mpr hmapped)]
          · have hflags : (chunk.fragment.nocopy || chunk.fragment.dup) = true := hmapped
            rw [List.map_cons, copiedSize, if_pos hflags]
          · exact fun _ => hroom
          · rfl
          · rw [if_pos hmapped]
            exact hin.mappedChunk chunk.data
          · dsimp only
            omega
          · intro hbefore
            cases hbefore
        · rcases layoutFragments_plain hlen hmapped haccepted with ⟨hbefore, hstep⟩
          have hfits := hwhole hbefore
          rw [copiedLength, if_neg hmapped] at hfits
          have hmod : (layout.copySize + chunk.fragment.len) % 2 ^ 16 =
              layout.copySize + chunk.data.length := by
            apply Nat.mod_eq_of_lt
            change layout.copySize + chunk.data.length < 2 ^ 16
            omega
          rw [hmod] at hstep
          rw [hstep] at haccepted ⊢
          apply LoopsAgree.cons _ (iwlFirstTbSize - layout.copySize) _ (ih _ ?_ ?_ ?_ haccepted)
          · rw [copyChunks, if_neg hempty, if_pos hmapped]
          · have hflags : ¬(chunk.fragment.nocopy || chunk.fragment.dup) = true := hmapped
            rw [List.map_cons, copiedSize, if_neg hflags]
            change copiedSize _ ((layout.copySize + chunk.fragment.len) % 2 ^ 16) = _
            rw [hmod]
          · exact fun hin => absurd hin hmapped
          · rfl
          · rw [if_neg hmapped, List.append_nil]
            dsimp only
            rw [hbefore] at hin ⊢
            exact hin.copied chunk.data
          · dsimp only
            omega
          · intro _
            dsimp only
            omega

/-! ## The transfer buffers -/

namespace HostCmdData

variable (cmd : HostCmdData) (cmdQueue writePtr : ℕ)

@[simp] theorem header_length : (cmd.header cmdQueue writePtr).length = cmd.hostCmd.headerSize := by
  have hgroup : cmd.groupId ≠ 0 ↔ cmd.hostCmd.groupId ≠ 0 := by
    rw [hostCmd, not_iff_not, ← UInt8.toNat_inj]
    rfl
  unfold header IwlHostCmd.headerSize
  by_cases hwide : cmd.groupId ≠ 0
  · rw [if_pos hwide, if_pos (hgroup.mp hwide)]
    rfl
  · rw [if_neg hwide, if_neg fun hin => hwide (hgroup.mpr hin)]
    rfl

theorem header_laidOut :
    LaidOut cmd.hostCmd.headerSize false (cmd.header cmdQueue writePtr)
      (cmd.header cmdQueue writePtr) [] := by
  have hlength := cmd.header_length cmdQueue writePtr
  constructor
  · exact hlength.ge
  · rw [← hlength, List.take_length]
    exact (List.append_nil _).symm
  · exact fun _ => ⟨rfl, hlength, rfl⟩
  · rw [hlength]
    exact le_max_right _ _

end HostCmdData

theorem tfdOctets_eq_flatten {buffers : List (List UInt8)}
    (hshort : ∀ buffer ∈ buffers, buffer.length < 2 ^ 12) :
    tfdOctets buffers = buffers.flatten := by
  induction buffers with
  | nil => rfl
  | cons buffer rest ih =>
      rw [tfdOctets, List.flatMap_cons, Nat.mod_eq_of_lt (hshort buffer List.mem_cons_self),
        List.take_length, List.flatten_cons]
      congr 1
      exact ih fun other hmem => hshort other (List.mem_cons_of_mem _ hmem)

theorem tfdOctets_length_le (buffers : List (List UInt8)) :
    (tfdOctets buffers).length ≤ buffers.flatten.length := by
  induction buffers with
  | nil => exact le_rfl
  | cons buffer rest ih =>
      rw [tfdOctets, List.flatMap_cons, List.length_append, List.flatten_cons, List.length_append]
      apply Nat.add_le_add
      · rw [List.length_take]
        exact min_le_right _ _
      · exact ih

theorem tfdOctets_length_lt {buffers : List (List UInt8)}
    (hlong : ∃ buffer ∈ buffers, 2 ^ 12 ≤ buffer.length) :
    (tfdOctets buffers).length < buffers.flatten.length := by
  induction buffers with
  | nil => simp at hlong
  | cons buffer rest ih =>
      rw [tfdOctets, List.flatMap_cons, List.length_append, List.flatten_cons, List.length_append,
        List.length_take]
      by_cases hfirst : 2 ^ 12 ≤ buffer.length
      · have hrest := tfdOctets_length_le rest
        rw [tfdOctets] at hrest
        have hmod := Nat.mod_lt buffer.length (show 2 ^ 12 > 0 by decide)
        omega
      · have hlater : ∃ other ∈ rest, 2 ^ 12 ≤ other.length := by
          rcases hlong with ⟨other, hmem, hother⟩
          rcases List.mem_cons.mp hmem with heq | hrest
          · rw [heq] at hother
            exact absurd hother hfirst
          · exact ⟨other, hrest, hother⟩
        have hless := ih hlater
        rw [tfdOctets] at hless
        omega

theorem transferBuffers_flatten {slot : List UInt8} {copySize : ℕ} (mapped : List (List UInt8)) :
    (transferBuffers slot copySize mapped).flatten = slot.take copySize ++ mapped.flatten := by
  unfold transferBuffers
  dsimp only
  by_cases hmore : copySize > min copySize iwlFirstTbSize
  · rw [if_pos hmore, List.flatten_append, List.flatten_cons, List.flatten_cons, List.flatten_nil,
      List.append_nil]
    congr 1
    rw [← List.take_add]
    congr 1
    omega
  · have hall : min copySize iwlFirstTbSize = copySize := by omega
    rw [if_neg hmore, hall]
    rfl

theorem transferBuffers_short {slot : List UInt8} {copySize : ℕ} {mapped : List (List UInt8)}
    (hcopy : copySize ≤ tfdMaxPayloadSize) (hmapped : ∀ buffer ∈ mapped, buffer.length < 2 ^ 12) :
    ∀ buffer ∈ transferBuffers slot copySize mapped, buffer.length < 2 ^ 12 := by
  have hmax : tfdMaxPayloadSize = 324 := rfl
  intro buffer hmem
  unfold transferBuffers at hmem
  dsimp only at hmem
  rcases List.mem_append.mp hmem with hcopied | hin
  · rcases List.mem_cons.mp hcopied with hfirst | hsecond
    · rw [hfirst, List.length_take]
      omega
    · split at hsecond
      · rw [List.mem_singleton.mp hsecond, List.length_take]
        omega
      · cases hsecond
  · exact hmapped buffer hin

theorem copyChunks_length_ge (chunks : List HcmdChunk) (slot : List UInt8) :
    slot.length + copiedLength chunks ≤ (copyChunks chunks slot).length := by
  induction chunks generalizing slot with
  | nil => exact le_rfl
  | cons chunk rest ih =>
      rw [copyChunks, copiedLength]
      by_cases hempty : chunk.data = []
      · rw [if_pos hempty, hempty]
        have hrest := ih slot
        split <;> simpa using hrest
      · rw [if_neg hempty]
        by_cases hmapped : chunk.mapped = true
        · rw [if_neg (not_not.mpr hmapped), if_pos hmapped]
          have hrest := ih (slot ++
            chunk.data.take (min (tfdMaxPayloadSize - slot.length) chunk.data.length))
          rw [List.length_append] at hrest
          omega
        · rw [if_pos hmapped, if_neg hmapped]
          have hrest := ih (slot ++ chunk.data)
          rw [List.length_append] at hrest
          omega

/-! ## Commands that are accepted -/

/-- The transfer buffers describe the command, the two sizes are the same, and no byte is copied
behind the end of the buffer of the entry. -/
structure DescribesCommand (cmd : HostCmdData) (layout : HcmdLayout) (cmdQueue writePtr : ℕ) :
    Prop where
  described : tfdOctets (cmd.buffers layout cmdQueue writePtr) = cmd.octets cmdQueue writePtr
  sizes : layout.copySize = copiedSize cmd.hostCmd.fragments cmd.hostCmd.headerSize
  inSlot : (cmd.slot cmdQueue writePtr).length ≤ tfdMaxPayloadSize

/-- Neither `copy_size` nor the length of a transfer buffer is cut off. -/
structure LengthsKept (cmd : HostCmdData) : Prop where
  copied : cmd.hostCmd.headerSize + copiedLength cmd.chunks < 2 ^ 16
  mapped : ∀ buffer ∈ remainders cmd.hostCmd.headerSize cmd.chunks, buffer.length < 2 ^ 12

section Accepted

variable {config : CmdQueueConfig} {queue : CmdQueue} {cmd : HostCmdData} {env : EnqueueEnv}
  {idx : ℕ}

theorem accepted_layout
    (haccepted : (queue.iwlPcieEnqueueHcmd config cmd.hostCmd env).2 = .ok idx) :
    (cmd.hostCmd.layout env.allocates queue.nextBuf).2 = none ∧
      (cmd.hostCmd.layout env.allocates queue.nextBuf).1.copySize ≤ tfdMaxPayloadSize := by
  rcases CmdQueue.iwlPcieEnqueueHcmd_cases config queue cmd.hostCmd env with ⟨dupBuf, _, hcases⟩
  rcases hcases with ⟨error, heq⟩ | ⟨error, heq⟩ | ⟨hreaches, _⟩
  · rw [heq] at haccepted
    cases haccepted
  · rw [heq] at haccepted
    cases haccepted
  · exact ⟨hreaches.2.1, hreaches.2.2.1⟩

theorem accepted_agree
    (haccepted : (queue.iwlPcieEnqueueHcmd config cmd.hostCmd env).2 = .ok idx)
    (hcopied : cmd.hostCmd.headerSize + copiedLength cmd.chunks < 2 ^ 16)
    (cmdQueue writePtr : ℕ) :
    LoopsAgree { copySize := cmd.hostCmd.headerSize }
      (cmd.hostCmd.layout env.allocates queue.nextBuf).1 cmd.chunks
      (cmd.header cmdQueue writePtr) (cmd.header cmdQueue writePtr) [] := by
  apply LaidOut.layoutFragments_agree
  · exact cmd.header_laidOut cmdQueue writePtr
  · dsimp only
    omega
  · exact fun _ => hcopied
  · exact (accepted_layout haccepted).1

theorem accepted_buffers
    (haccepted : (queue.iwlPcieEnqueueHcmd config cmd.hostCmd env).2 = .ok idx)
    (hcopied : cmd.hostCmd.headerSize + copiedLength cmd.chunks < 2 ^ 16)
    (cmdQueue writePtr : ℕ) :
    cmd.buffers (cmd.hostCmd.layout env.allocates queue.nextBuf).1 cmdQueue writePtr =
      transferBuffers (cmd.slot cmdQueue writePtr)
        (cmd.hostCmd.layout env.allocates queue.nextBuf).1.copySize
        (mappedRemainders cmd.hostCmd.headerSize cmd.chunks) := by
  have hagree := accepted_agree haccepted hcopied cmdQueue writePtr
  rcases hagree.cmdlen with ⟨lens, hlast, hmapped⟩
  rw [List.nil_append] at hlast
  rw [cmd.header_length] at hmapped
  rw [HostCmdData.buffers, hlast, hmapped]
  congr 1
  exact hagree.copied

theorem accepted_flatten
    (haccepted : (queue.iwlPcieEnqueueHcmd config cmd.hostCmd env).2 = .ok idx)
    (hcopied : cmd.hostCmd.headerSize + copiedLength cmd.chunks < 2 ^ 16)
    (cmdQueue writePtr : ℕ) :
    (cmd.buffers (cmd.hostCmd.layout env.allocates queue.nextBuf).1 cmdQueue writePtr).flatten =
      cmd.octets cmdQueue writePtr := by
  have hlaid := (accepted_agree haccepted hcopied cmdQueue writePtr).laidOut.described
  rw [cmd.header_length, List.nil_append] at hlaid
  rw [accepted_buffers haccepted hcopied, transferBuffers_flatten]
  exact hlaid.symm

theorem LengthsKept.describesCommand
    (haccepted : (queue.iwlPcieEnqueueHcmd config cmd.hostCmd env).2 = .ok idx)
    (hkept : LengthsKept cmd) (cmdQueue writePtr : ℕ) :
    DescribesCommand cmd (cmd.hostCmd.layout env.allocates queue.nextBuf).1 cmdQueue writePtr := by
  have hagree := accepted_agree haccepted hkept.copied cmdQueue writePtr
  have hsmall := (accepted_layout haccepted).2
  constructor
  · rw [tfdOctets_eq_flatten, accepted_flatten haccepted hkept.copied]
    rw [accepted_buffers haccepted hkept.copied]
    apply transferBuffers_short hsmall
    intro buffer hmem
    exact hkept.mapped buffer (List.mem_of_mem_filter hmem)
  · exact hagree.copied.symm
  · have hfits := hagree.laidOut.fits
    rw [max_eq_left hsmall] at hfits
    exact hfits

theorem copied_lt_of_inSlot {cmdQueue writePtr : ℕ}
    (hslot : (cmd.slot cmdQueue writePtr).length ≤ tfdMaxPayloadSize) :
    cmd.hostCmd.headerSize + copiedLength cmd.chunks < 2 ^ 16 := by
  have hmax : tfdMaxPayloadSize = 324 := rfl
  have hlength := copyChunks_length_ge cmd.chunks (cmd.header cmdQueue writePtr)
  rw [cmd.header_length] at hlength
  rw [HostCmdData.slot] at hslot
  omega

theorem DescribesCommand.lengthsKept {cmdQueue writePtr : ℕ}
    (haccepted : (queue.iwlPcieEnqueueHcmd config cmd.hostCmd env).2 = .ok idx)
    (hdescribes : DescribesCommand cmd (cmd.hostCmd.layout env.allocates queue.nextBuf).1 cmdQueue
      writePtr) :
    LengthsKept cmd := by
  have hcopied := copied_lt_of_inSlot hdescribes.inSlot
  constructor
  · exact hcopied
  · intro buffer hmem
    by_contra hlong
    have hin : buffer ∈ cmd.buffers (cmd.hostCmd.layout env.allocates queue.nextBuf).1 cmdQueue
        writePtr := by
      rw [accepted_buffers haccepted hcopied]
      apply List.mem_append_right
      apply List.mem_filter.mpr
      refine ⟨hmem, ?_⟩
      rw [decide_eq_true_eq]
      intro hempty
      rw [hempty] at hlong
      exact hlong (by decide)
    have hless := tfdOctets_length_lt ⟨buffer, hin, Nat.le_of_not_lt hlong⟩
    rw [hdescribes.described, accepted_flatten haccepted hcopied] at hless
    exact lt_irrefl _ hless

/-- A command that is accepted reaches the device whole and in order exactly if neither
`copy_size` nor the length of a transfer buffer is cut off. -/
theorem accepted_command_described (config : CmdQueueConfig) (queue : CmdQueue) (cmd : HostCmdData)
    (env : EnqueueEnv) (idx : ℕ)
    (haccepted : (queue.iwlPcieEnqueueHcmd config cmd.hostCmd env).2 = .ok idx) :
    DescribesCommand cmd (cmd.hostCmd.layout env.allocates queue.nextBuf).1 config.cmdQueue
        queue.writePtr ↔
      LengthsKept cmd := by
  constructor
  · exact fun hdescribes => hdescribes.lengthsKept haccepted
  · exact fun hkept => hkept.describesCommand haccepted config.cmdQueue queue.writePtr

end Accepted

def twoChunkCmd : HostCmdData where
  opcode := 1
  groupId := 1
  version := 0
  flags := {}
  chunks := [⟨[1, 2, 3], false, false⟩, ⟨List.replicate 30 7, true, false⟩]

theorem two_chunks_described :
    DescribesCommand twoChunkCmd
        (twoChunkCmd.hostCmd.layout true CmdQueue.init.nextBuf).1 0 0 ↔ LengthsKept twoChunkCmd :=
  accepted_command_described CmdqRun.smallCmdQueue CmdQueue.init twoChunkCmd CmdqRun.smoothEnv 0
    (by decide +kernel)

def plainChunkCmd (data : List UInt8) : HostCmdData where
  opcode := 1
  groupId := 1
  version := 0
  flags := {}
  chunks := [⟨data, false, false⟩]

theorem plainChunkCmd_hostCmd (data : List UInt8) :
    (plainChunkCmd data).hostCmd = ⟨1, {}, [⟨data.length, false, false⟩]⟩ := rfl

theorem plainChunkCmd_copiedLength (data : List UInt8) :
    copiedLength (plainChunkCmd data).chunks = data.length := rfl

/-- With the header of eight bytes, 65528 bytes are accepted with a `copy_size` of zero, and
copied behind the end of the buffer. -/
theorem overlong_command_accepted :
    (CmdQueue.init.iwlPcieEnqueueHcmd CmdqRun.smallCmdQueue
        (plainChunkCmd (List.replicate 65528 0)).hostCmd CmdqRun.smoothEnv).2.toOption = some 0 ∧
      ¬DescribesCommand (plainChunkCmd (List.replicate 65528 0))
        ((plainChunkCmd (List.replicate 65528 0)).hostCmd.layout true CmdQueue.init.nextBuf).1
        0 0 := by
  constructor
  · rw [plainChunkCmd_hostCmd, List.length_replicate]
    decide +kernel
  · intro hdescribes
    have hcopied := copied_lt_of_inSlot hdescribes.inSlot
    rw [plainChunkCmd_copiedLength, plainChunkCmd_hostCmd, List.length_replicate] at hcopied
    exact absurd hcopied (by decide)

end IwlwifiStack
