import IwlwifiStack.TsoModel

/-!
# The frames of a TSO packet

Everything about the frames follows from two facts about the number of
subframes: it is at least one, and what is larger than one fits the limits.  The
first one fails for a limit that is not zero and yet shorter than one subframe,
as the limit 1 of a TID without A-MSDUs: then the packet is to be segmented into
frames of no payload.
-/

namespace IwlwifiStack

open ListChunks

/-- A packet that `iwl_mld_tx_tso` passes on: it has more than one segment. -/
structure TsoPacket (skb : TsoSkb) : Prop where
  gsoSize_pos : 0 < skb.gsoSize
  gsoSize_lt : skb.gsoSize < 2 ^ 16
  long : skb.gsoSize < skb.payload.length
  headers : 8 + skb.networkHeaderLen + skb.tcpHdrlen < 2 ^ 16

/-- What `skb_gso_segment` does: it cuts the payload every `gso_size` bytes and
gives every segment the headers of the packet. -/
structure GsoSplits (skbGsoSegment : SkbGsoSegment) : Prop where
  payload : ∀ (skb : TsoSkb) (csum : Bool) (segs : List TsoSkb),
    0 < skb.gsoSize → skb.gsoSize < skb.payload.length →
    skbGsoSegment skb csum = .ok segs →
    segs.map TsoSkb.payload = chunks skb.gsoSize skb.payload
  headers : ∀ (skb : TsoSkb) (csum : Bool) (segs : List TsoSkb),
    0 < skb.gsoSize → skb.gsoSize < skb.payload.length →
    skbGsoSegment skb csum = .ok segs → ∀ seg ∈ segs,
      seg.isDataQos = skb.isDataQos ∧ seg.amsduPresent = skb.amsduPresent ∧
        seg.frags.length ≤ skb.frags.length

/-- The frames of a packet are as they should be. -/
structure TsoFramed (sta : TsoSta) (maxSkbFrags : ℕ) (skb : TsoSkb)
    (frames : List TsoSkb) : Prop where
  count : ∀ frame ∈ frames, sta.maxAmsduSubframes ≠ 0 →
    frame.subframes.length ≤ sta.maxAmsduSubframes
  segment : ∀ frame ∈ frames, ∀ part ∈ frame.subframes,
    part.length ≤ skb.gsoSize
  amsdu : ∀ frame ∈ frames, 1 < frame.subframes.length →
    amsduLength (14 + skb.snapIpTcp) frame.subframes ≤
      sta.cur.maxTidAmsduLen skb.tid
  buffers : ∀ frame ∈ frames, frame.transferBuffers maxSkbFrags ≤ maxSkbFrags
  bit : ∀ frame ∈ frames, (frame.isDataQos && frame.amsduPresent) =
    decide (1 < frame.subframes.length)
  payload : frames.flatMap TsoSkb.payload = skb.payload
  ids : skb.isIpv4 = true → frames.flatMap TsoSkb.airIds =
    (List.range (chunks skb.gsoSize skb.payload).length).map fun k =>
      (skb.ipId + k) % 2 ^ 16

/-- What the driver is to do with a packet, whatever segments it gets. -/
structure TsoSound (sta : TsoSta) (maxSkbFrags : ℕ) (skb : TsoSkb) : Prop where
  counted : ∀ (packet : TsoSkb) (count : ℕ) (csum : Bool),
    tsoDecision sta maxSkbFrags skb = .segment packet count csum → 0 < count
  framed : ∀ skbGsoSegment, GsoSplits skbGsoSegment → ∀ frames,
    iwlMldTxTsoSegment skbGsoSegment sta maxSkbFrags skb = .ok frames →
    TsoFramed sta maxSkbFrags skb frames

/-! ## Lengths and buffers -/

theorem subframePad_lt (len : ℕ) : subframePad len < 4 :=
  Nat.mod_lt _ (by norm_num)

theorem amsduLength_chunks (hdrLen : ℕ) {mss : ℕ} (hmss : 0 < mss)
    (payload : List UInt8) (hpayload : payload ≠ []) :
    amsduLength hdrLen (chunks mss payload) + subframePad (hdrLen + mss) ≤
      (chunks mss payload).length *
        (hdrLen + mss + subframePad (hdrLen + mss)) := by
  induction payload using chunks_induction hmss with
  | hnil => exact absurd rfl hpayload
  | hcons payload hne ih =>
      have htake : (payload.take mss).length ≤ mss := List.length_take_le _ _
      rw [chunks_of_ne_nil hmss hne, List.length_cons, Nat.succ_mul]
      by_cases hlast : payload.drop mss = []
      · rw [hlast, chunks_nil, amsduLength]
        simp only [List.length_nil, Nat.zero_mul]
        omega
      · have hfull : (payload.take mss).length = mss := by
          rw [List.drop_eq_nil_iff] at hlast
          rw [List.length_take]
          omega
        have hrest := ih hlast
        rw [chunks_of_ne_nil hmss hlast] at hrest ⊢
        rw [amsduLength, hfull]
        · omega
        · simp

theorem amsduBuffers_le {mss : ℕ} (hmss : 0 < mss) (left : ℕ) (areas : List ℕ)
    (k : ℕ) (hk : areas.sum ≤ k * mss + left) :
    amsduBuffers mss left areas ≤ 2 * k + areas.countP (fun area => area ≠ 0) +
      if left = 0 then 0 else 1 := by
  induction left, areas using amsduBuffers.induct mss generalizing k with
  | case1 left =>
      rw [amsduBuffers]
      exact Nat.zero_le _
  | case2 left areas ih =>
      rw [amsduBuffers, if_pos rfl]
      simpa using ih k (by simpa using hk)
  | case3 area areas harea hzero =>
      omega
  | case4 area areas harea hnot ih =>
      rw [amsduBuffers, if_neg harea, if_pos rfl, if_neg hnot]
      rw [List.sum_cons] at hk
      obtain ⟨k, rfl⟩ : ∃ m, k = m + 1 := by
        refine ⟨k - 1, ?_⟩
        by_contra hk0
        have hzero : k = 0 := by omega
        subst hzero
        omega
      rw [Nat.succ_mul] at hk
      have hrest := ih k (by rw [List.sum_cons]; omega)
      rw [if_neg hnot] at hrest
      rw [if_pos rfl]
      omega
  | case5 left area areas harea hleft ih =>
      rw [amsduBuffers, if_neg harea, if_neg hleft, if_neg hleft]
      rw [List.sum_cons] at hk
      have hrest := ih k (by rw [List.sum_cons]; omega)
      rw [List.countP_cons] at hrest ⊢
      by_cases hfits : area ≤ left
      · simp only [Nat.min_eq_left hfits, Nat.sub_self, ne_eq,
          not_true_eq_false, decide_false, Bool.false_eq_true, if_false] at hrest
        simp only [Nat.min_eq_left hfits, Nat.sub_self, ne_eq, harea,
          not_false_eq_true, decide_true, if_true]
        split_ifs at hrest <;> omega
      · have hless : left ≤ area := by omega
        have hpart : area - left ≠ 0 := by omega
        simp only [Nat.min_eq_right hless, Nat.sub_self, ne_eq, hpart,
          not_false_eq_true, decide_true, if_true] at hrest
        simp only [Nat.min_eq_right hless, Nat.sub_self, ne_eq, harea,
          not_false_eq_true, decide_true, if_true]
        omega

theorem payload_length (skb : TsoSkb) :
    skb.payload.length = (skb.head.length :: skb.frags.map List.length).sum := by
  rw [TsoSkb.payload, List.length_append, List.length_flatten, List.sum_cons]

theorem transferBuffers_le {frame : TsoSkb} {n maxSkbFrags frags : ℕ}
    (hgso : 0 < frame.gsoSize)
    (hpayload : frame.payload.length ≤ n * frame.gsoSize)
    (hfrags : frame.frags.length ≤ frags)
    (hbuffers : 1 < frame.subframes.length →
      2 * n + frags + 1 ≤ maxSkbFrags) :
    frame.transferBuffers maxSkbFrags ≤ maxSkbFrags := by
  unfold TsoSkb.transferBuffers
  split_ifs with hseveral hmany
  · have hlimit := hbuffers hseveral
    have hbound := amsduBuffers_le hgso 0
      (frame.head.length :: frame.frags.map List.length) n (by
        rw [← payload_length]
        omega)
    have hareas := List.countP_le_length (p := fun area => decide (area ≠ 0))
      (l := frame.head.length :: frame.frags.map List.length)
    rw [List.length_cons, List.length_map] at hareas
    rw [if_pos rfl] at hbound
    omega
  · exact Nat.zero_le _
  · omega

/-! ## One frame -/

/-- The number of subframes fits the limits. -/
structure SubframeLimits (sta : TsoSta) (maxSkbFrags : ℕ) (skb : TsoSkb)
    (n : ℕ) : Prop where
  pos : 0 < n
  count : sta.maxAmsduSubframes ≠ 0 → n ≤ sta.maxAmsduSubframes
  qos : 1 < n → skb.isDataQos = true ∧ skb.amsduPresent = true
  amsdu : 1 < n → n * (skb.subfLen + subframePad skb.subfLen) ≤
    sta.cur.maxTidAmsduLen skb.tid + subframePad skb.subfLen
  buffers : 1 < n → 2 * n + skb.frags.length + 1 ≤ maxSkbFrags

/-- A frame with at most `n` segments of the packet. -/
structure CarriesSegments (skb : TsoSkb) (n : ℕ) (frame : TsoSkb) : Prop where
  subframes : frame.subframes = chunks skb.gsoSize frame.payload
  payload_ne_nil : frame.payload ≠ []
  payload_le : frame.payload.length ≤ n * skb.gsoSize
  frags : frame.frags.length ≤ skb.frags.length
  gsoSize : 1 < frame.subframes.length → frame.gsoSize = skb.gsoSize
  bit : (frame.isDataQos && frame.amsduPresent) =
    decide (1 < frame.subframes.length)

section Frame

variable {sta : TsoSta} {maxSkbFrags n : ℕ} {skb frame : TsoSkb}

theorem CarriesSegments.length_le (hpacket : TsoPacket skb)
    (hframe : CarriesSegments skb n frame) : frame.subframes.length ≤ n := by
  rw [hframe.subframes, chunks_length_le_iff hpacket.gsoSize_pos]
  exact hframe.payload_le

theorem CarriesSegments.amsduLength_le (hpacket : TsoPacket skb)
    (hlimits : SubframeLimits sta maxSkbFrags skb n)
    (hframe : CarriesSegments skb n frame)
    (hseveral : 1 < frame.subframes.length) :
    amsduLength (14 + skb.snapIpTcp) frame.subframes ≤
      sta.cur.maxTidAmsduLen skb.tid := by
  have hle := hframe.length_le hpacket
  have hlength := amsduLength_chunks (14 + skb.snapIpTcp) hpacket.gsoSize_pos
    frame.payload hframe.payload_ne_nil
  rw [← hframe.subframes] at hlength
  have hmul : frame.subframes.length *
      (skb.subfLen + subframePad skb.subfLen) ≤
      n * (skb.subfLen + subframePad skb.subfLen) := Nat.mul_le_mul_right _ hle
  have hamsdu := hlimits.amsdu (by omega)
  unfold TsoSkb.subfLen at hmul hamsdu
  omega

theorem CarriesSegments.transferBuffers_le (hpacket : TsoPacket skb)
    (hlimits : SubframeLimits sta maxSkbFrags skb n)
    (hframe : CarriesSegments skb n frame) :
    frame.transferBuffers maxSkbFrags ≤ maxSkbFrags := by
  have hle := hframe.length_le hpacket
  by_cases hseveral : 1 < frame.subframes.length
  · have hsize := hframe.gsoSize hseveral
    apply IwlwifiStack.transferBuffers_le (hsize ▸ hpacket.gsoSize_pos)
      (hsize ▸ hframe.payload_le) hframe.frags
    intro _
    exact hlimits.buffers (by omega)
  · unfold TsoSkb.transferBuffers
    rw [if_neg hseveral]
    split_ifs <;> omega

theorem framed_of_carries (hpacket : TsoPacket skb)
    (hlimits : SubframeLimits sta maxSkbFrags skb n) {frames : List TsoSkb}
    (hframes : ∀ frame ∈ frames, CarriesSegments skb n frame)
    (hpayload : frames.flatMap TsoSkb.payload = skb.payload)
    (hids : skb.isIpv4 = true → frames.flatMap TsoSkb.airIds =
      (List.range (chunks skb.gsoSize skb.payload).length).map fun k =>
        (skb.ipId + k) % 2 ^ 16) :
    TsoFramed sta maxSkbFrags skb frames where
  count := fun frame hframe hlimit =>
    ((hframes frame hframe).length_le hpacket).trans (hlimits.count hlimit)
  segment := by
    intro frame hframe part hpart
    rw [(hframes frame hframe).subframes] at hpart
    exact length_of_mem_chunks hpacket.gsoSize_pos _ part hpart
  amsdu := fun frame hframe hseveral =>
    (hframes frame hframe).amsduLength_le hpacket hlimits hseveral
  buffers := fun frame hframe =>
    (hframes frame hframe).transferBuffers_le hpacket hlimits
  bit := fun frame hframe => (hframes frame hframe).bit
  payload := hpayload
  ids := hids

/-! ## The segments of `iwl_tx_tso_segment` -/

theorem finish_payload (seg orig : TsoSkb) (count i : ℕ) :
    (seg.finish orig count i).payload = seg.payload := by
  unfold TsoSkb.finish
  simp only
  split_ifs <;> rfl

/-- A segment with more than `mss` bytes stays an A-MSDU, and a shorter one does
not. -/
theorem finish_carries {orig seg : TsoSkb} (hpacket : TsoPacket orig)
    (hne : seg.payload ≠ []) (hle : seg.payload.length ≤ n * orig.gsoSize)
    (hdata : seg.isDataQos = orig.isDataQos)
    (hfrags : seg.frags.length ≤ orig.frags.length)
    (hbit : 1 < n → seg.isDataQos = true ∧ seg.amsduPresent = true) (i : ℕ) :
    CarriesSegments orig n (seg.finish orig n i) := by
  have hmss := hpacket.gsoSize_pos
  by_cases hlong : seg.payload.length > orig.gsoSize
  · have hseveral : 1 < n := by
      by_contra hone
      have hmul : n * orig.gsoSize ≤ 1 * orig.gsoSize :=
        Nat.mul_le_mul_right _ (by omega)
      omega
    obtain ⟨hqos, hpresent⟩ := hbit hseveral
    have hchunks : 1 < (chunks orig.gsoSize seg.payload).length := by
      have hmany := mt (chunks_length_le_iff hmss seg.payload 1).mp (by omega)
      omega
    have hframe : seg.finish orig n i = { seg with
        cb := orig.cb
        ipId := if orig.isIpv4 then
          (orig.ipId + i % 2 ^ 16 * n) % 2 ^ 16 else seg.ipId
        gsoSize := orig.gsoSize
        gsoTcp := true } := by
      unfold TsoSkb.finish
      rw [if_pos hlong]
    have hsub : (seg.finish orig n i).subframes =
        chunks orig.gsoSize seg.payload := by
      rw [hframe]
      simp only [TsoSkb.subframes, hqos, hpresent, Bool.true_and, ne_eq,
        hmss.ne', not_false_eq_true, decide_true, if_true]
      rfl
    rw [← finish_payload seg orig n i] at hne hle hsub
    refine ⟨hsub, hne, hle, ?_, fun _ => ?_, ?_⟩
    · rw [hframe]
      exact hfrags
    · rw [hframe]
    · rw [hsub, finish_payload, decide_eq_true hchunks, hframe]
      simp only [hqos, hpresent, Bool.and_self]
  · have hone : chunks orig.gsoSize seg.payload = [seg.payload] :=
      chunks_eq_singleton hmss hne (by omega)
    have hsize : (seg.finish orig n i).gsoSize = 0 := by
      unfold TsoSkb.finish
      rw [if_neg hlong]
    have hsub : (seg.finish orig n i).subframes = [seg.payload] := by
      rw [TsoSkb.subframes, hsize, finish_payload]
      simp
    refine ⟨?_, ?_, ?_, ?_, ?_, ?_⟩
    · rw [hsub, finish_payload, hone]
    · rw [finish_payload]
      exact hne
    · rw [finish_payload]
      exact hle
    · unfold TsoSkb.finish
      rw [if_neg hlong]
      exact hfrags
    · rw [hsub]
      simp
    · rw [hsub]
      unfold TsoSkb.finish
      rw [if_neg hlong]
      simp only [hdata]
      cases orig.isDataQos <;> rfl

theorem finish_ipId {orig : TsoSkb} (hipv4 : orig.isIpv4 = true) (seg : TsoSkb)
    (count i : ℕ) :
    (seg.finish orig count i).ipId =
      (orig.ipId + i % 2 ^ 16 * count) % 2 ^ 16 := by
  unfold TsoSkb.finish
  simp only [hipv4, if_true]
  split_ifs <;> rfl

theorem finishSegments_payload (orig : TsoSkb) (count i : ℕ)
    (segs : List TsoSkb) :
    (finishSegments orig count i segs).flatMap TsoSkb.payload =
      (segs.map TsoSkb.payload).flatten := by
  induction segs generalizing i with
  | nil => rfl
  | cons seg segs ih =>
      simp only [finishSegments, List.flatMap_cons, ih, finish_payload,
        List.map_cons, List.flatten_cons]

theorem mem_finishSegments {orig frame : TsoSkb} {count i : ℕ}
    {segs : List TsoSkb} (hframe : frame ∈ finishSegments orig count i segs) :
    ∃ seg ∈ segs, ∃ j, frame = seg.finish orig count j := by
  induction segs generalizing i with
  | nil => cases hframe
  | cons seg segs ih =>
      rcases List.mem_cons.mp hframe with rfl | hframe
      · exact ⟨seg, List.mem_cons_self, i, rfl⟩
      · obtain ⟨other, hother, j, rfl⟩ := ih hframe
        exact ⟨other, List.mem_cons_of_mem _ hother, j, rfl⟩

/-- The identifications go on from one frame to the next: every frame but the
last has `n` subframes. -/
theorem finishSegments_ids {orig : TsoSkb} (hpacket : TsoPacket orig)
    (hipv4 : orig.isIpv4 = true) (hn : 0 < n) (segs : List TsoSkb) (i : ℕ)
    (rest : List UInt8)
    (hpayload : segs.map TsoSkb.payload = chunks (n * orig.gsoSize) rest)
    (hframes : ∀ seg ∈ segs, ∀ j,
      CarriesSegments orig n (seg.finish orig n j)) :
    (finishSegments orig n i segs).flatMap TsoSkb.airIds =
      (List.range (chunks orig.gsoSize rest).length).map fun k =>
        (orig.ipId + i * n + k) % 2 ^ 16 := by
  have hmss := hpacket.gsoSize_pos
  have hboth : 0 < n * orig.gsoSize := Nat.mul_pos hn hmss
  induction segs generalizing i rest with
  | nil =>
      have hempty : rest = [] := by
        rw [← chunks_flatten hboth rest, ← hpayload]
        rfl
      rw [hempty]
      rfl
  | cons seg segs ih =>
      have hne : rest ≠ [] := by
        rintro rfl
        cases hpayload
      rw [chunks_of_ne_nil hboth hne, List.map_cons,
        List.cons.injEq] at hpayload
      obtain ⟨hfirst, hlater⟩ := hpayload
      have hframe := hframes seg List.mem_cons_self i
      have hcount : (seg.finish orig n i).subframes.length =
          (chunks orig.gsoSize (rest.take (n * orig.gsoSize))).length := by
        rw [hframe.subframes, finish_payload, hfirst]
      have hids : (seg.finish orig n i).airIds =
          (List.range (chunks orig.gsoSize
            (rest.take (n * orig.gsoSize))).length).map fun k =>
              (orig.ipId + i * n + k) % 2 ^ 16 := by
        rw [TsoSkb.airIds, hcount, finish_ipId hipv4]
        apply List.map_congr_left
        intro k _
        have hwrap : i % 2 ^ 16 * n % 2 ^ 16 = i * n % 2 ^ 16 := by
          rw [Nat.mod_mul_mod]
        omega
      have hpieces : (chunks orig.gsoSize rest).length =
          (chunks orig.gsoSize (rest.take (n * orig.gsoSize))).length +
            (chunks orig.gsoSize (rest.drop (n * orig.gsoSize))).length := by
        have hcut := chunks_chunks hmss hn rest
        rw [chunks_of_ne_nil hboth hne, List.flatMap_cons,
          chunks_chunks hmss hn] at hcut
        rw [← hcut, List.length_append]
      rw [finishSegments, List.flatMap_cons, hids,
        ih (i + 1) (rest.drop (n * orig.gsoSize)) hlater
          (fun other hother => hframes other (List.mem_cons_of_mem _ hother)),
        hpieces, List.range_add, List.map_append, List.map_map]
      congr 1
      by_cases hlast : rest.drop (n * orig.gsoSize) = []
      · rw [hlast]
        rfl
      · have hfull : (chunks orig.gsoSize
            (rest.take (n * orig.gsoSize))).length = n := by
          rw [List.drop_eq_nil_iff, not_le] at hlast
          have htake : (rest.take (n * orig.gsoSize)).length =
              n * orig.gsoSize := by
            rw [List.length_take]
            omega
          have hle := (chunks_length_le_iff hmss
            (rest.take (n * orig.gsoSize)) n).mpr htake.le
          have hmany := mt (chunks_length_le_iff hmss
            (rest.take (n * orig.gsoSize)) (n - 1)).mp (by
              rw [htake, Nat.sub_one_mul]
              omega)
          omega
        apply List.map_congr_left
        intro k _
        simp only [Function.comp_apply, hfull]
        congr 1
        ring

/-! ## The whole packet -/

theorem subframes_fit_gsoSize (hpacket : TsoPacket skb)
    (hlimits : SubframeLimits sta maxSkbFrags skb n) :
    n * skb.gsoSize < 2 ^ 16 := by
  by_cases hseveral : 1 < n
  · have hamsdu := hlimits.amsdu hseveral
    have hlimit := sta.cur.maxTidAmsduLen_lt skb.tid
    have hpad := subframePad_lt skb.subfLen
    have hsplit : n * (skb.subfLen + subframePad skb.subfLen) =
        n * skb.gsoSize +
          n * (14 + skb.snapIpTcp + subframePad skb.subfLen) := by
      simp only [TsoSkb.subfLen]
      ring
    have hheaders : n * 14 ≤
        n * (14 + skb.snapIpTcp + subframePad skb.subfLen) :=
      Nat.mul_le_mul_left n (by omega)
    omega
  · have hone : n = 1 := by
      have hpos := hlimits.pos
      omega
    rw [hone, Nat.one_mul]
    exact hpacket.gsoSize_lt

theorem segments_framed (hpacket : TsoPacket skb)
    (hlimits : SubframeLimits sta maxSkbFrags skb n)
    (hlong : n * skb.gsoSize < skb.payload.length)
    {skbGsoSegment : SkbGsoSegment} (hsplits : GsoSplits skbGsoSegment)
    {csum : Bool} {frames : List TsoSkb}
    (hframes : iwlTxTsoSegment skbGsoSegment skb n csum = .ok frames) :
    TsoFramed sta maxSkbFrags skb frames := by
  have hmss := hpacket.gsoSize_pos
  have hn := hlimits.pos
  have hboth : 0 < n * skb.gsoSize := Nat.mul_pos hn hmss
  unfold iwlTxTsoSegment at hframes
  rw [Nat.mod_eq_of_lt (subframes_fit_gsoSize hpacket hlimits)] at hframes
  cases hsegs : skbGsoSegment { skb with gsoSize := n * skb.gsoSize } csum with
  | error err =>
      rw [hsegs] at hframes
      cases hframes
  | ok segs =>
      rw [hsegs] at hframes
      cases hframes
      have hpayload : segs.map TsoSkb.payload =
          chunks (n * skb.gsoSize) skb.payload :=
        hsplits.payload _ csum segs hboth hlong hsegs
      have hcarries : ∀ seg ∈ segs, ∀ j,
          CarriesSegments skb n (seg.finish skb n j) := by
        intro seg hseg j
        have hmem : seg.payload ∈ chunks (n * skb.gsoSize) skb.payload := by
          rw [← hpayload]
          exact List.mem_map_of_mem hseg
        obtain ⟨hdata, hpresent, hfrags⟩ :=
          hsplits.headers _ csum segs hboth hlong hsegs seg hseg
        apply finish_carries hpacket (ne_nil_of_mem_chunks hboth _ _ hmem)
          (length_of_mem_chunks hboth _ _ hmem) hdata hfrags
        intro hseveral
        obtain ⟨hqos, hset⟩ := hlimits.qos hseveral
        exact ⟨hdata.trans hqos, hpresent.trans hset⟩
      apply framed_of_carries hpacket hlimits
      · intro frame hframe
        obtain ⟨seg, hseg, j, rfl⟩ := mem_finishSegments hframe
        exact hcarries seg hseg j
      · rw [finishSegments_payload, hpayload, chunks_flatten hboth]
      · intro hipv4
        rw [finishSegments_ids hpacket hipv4 hn segs 0 skb.payload hpayload
          hcarries]
        simp only [Nat.zero_mul, Nat.add_zero]

theorem whole_framed (hpacket : TsoPacket skb)
    (hlimits : SubframeLimits sta maxSkbFrags skb n)
    (hfits : skb.payload.length ≤ n * skb.gsoSize) :
    TsoFramed sta maxSkbFrags skb [skb] := by
  have hmss := hpacket.gsoSize_pos
  have hlong := hpacket.long
  have hseveral : 1 < n := by
    by_contra hone
    have hmul : n * skb.gsoSize ≤ 1 * skb.gsoSize :=
      Nat.mul_le_mul_right _ (by omega)
    omega
  obtain ⟨hqos, hset⟩ := hlimits.qos hseveral
  have hsub : skb.subframes = chunks skb.gsoSize skb.payload := by
    simp only [TsoSkb.subframes, hqos, hset, Bool.true_and, ne_eq, hmss.ne',
      not_false_eq_true, decide_true, if_true]
  have hchunks : 1 < skb.subframes.length := by
    have hmany := mt (chunks_length_le_iff hmss skb.payload 1).mp (by omega)
    rw [hsub]
    omega
  have hne : skb.payload ≠ [] := List.ne_nil_of_length_pos (by omega)
  apply framed_of_carries hpacket hlimits
  · intro frame hframe
    rw [List.mem_singleton.mp hframe]
    refine ⟨hsub, hne, hfits, le_rfl, fun _ => rfl, ?_⟩
    rw [hqos, hset, decide_eq_true hchunks]
    rfl
  · simp
  · intro _
    rw [List.flatMap_singleton, TsoSkb.airIds, hsub]

end Frame

/-! ## The number of subframes -/

section Decision

variable {sta : TsoSta} {maxSkbFrags : ℕ} {skb : TsoSkb}

theorem fittingSubframes_eq_zero_iff (maxTidAmsduLen : ℕ) (skb : TsoSkb) :
    fittingSubframes maxTidAmsduLen skb = 0 ↔ maxTidAmsduLen < skb.subfLen := by
  have hpos : 0 < skb.subfLen + subframePad skb.subfLen := by
    unfold TsoSkb.subfLen
    omega
  rw [fittingSubframes, Nat.div_eq_zero_iff_lt hpos]
  omega

theorem numSubframes_eq_zero_iff :
    numSubframes sta maxSkbFrags skb = 0 ↔
      sta.cur.maxTidAmsduLen skb.tid < skb.subfLen ∧
        skb.frags.length < maxSkbFrags := by
  rw [← fittingSubframes_eq_zero_iff]
  obtain ⟨count, hcount⟩ : ∃ count,
    count = numSubframes sta maxSkbFrags skb := ⟨_, rfl⟩
  rw [← hcount]
  simp only [numSubframes] at hcount
  generalize fittingSubframes (sta.cur.maxTidAmsduLen skb.tid) skb = fitting
    at hcount ⊢
  by_cases hover : sta.maxAmsduSubframes ≠ 0 ∧ fitting > sta.maxAmsduSubframes
  · rw [if_pos hover] at hcount
    split_ifs at hcount <;> omega
  · rw [if_neg hover] at hcount
    split_ifs at hcount <;> omega

def TsoSkb.marked (skb : TsoSkb) (count : ℕ) : TsoSkb :=
  if count > 1 then { skb with amsduPresent := true } else skb

theorem marked_eq (skb : TsoSkb) (count : ℕ) : skb.marked count =
    { skb with amsduPresent := skb.amsduPresent || decide (count > 1) } := by
  unfold TsoSkb.marked
  split_ifs with hseveral
  · simp [hseveral]
  · simp [hseveral]

theorem numSubframes_limits (hqos : skb.isDataQos = true)
    (hpos : numSubframes sta maxSkbFrags skb ≠ 0) :
    SubframeLimits sta maxSkbFrags
      (skb.marked (numSubframes sta maxSkbFrags skb))
      (numSubframes sta maxSkbFrags skb) := by
  obtain ⟨count, hcount⟩ : ∃ count,
    count = numSubframes sta maxSkbFrags skb := ⟨_, rfl⟩
  obtain ⟨fitting, hfitting⟩ : ∃ fitting, fitting =
    fittingSubframes (sta.cur.maxTidAmsduLen skb.tid) skb := ⟨_, rfl⟩
  have hbounds : (sta.maxAmsduSubframes ≠ 0 →
      count ≤ sta.maxAmsduSubframes) ∧
      (1 < count → count ≤ fitting ∧
        2 * count + skb.frags.length + 1 ≤ maxSkbFrags) := by
    rw [← hcount] at hpos
    simp only [numSubframes, ← hfitting] at hcount
    by_cases hover : sta.maxAmsduSubframes ≠ 0 ∧
        fitting > sta.maxAmsduSubframes
    · rw [if_pos hover] at hcount
      refine ⟨fun hlimit => ?_, fun hseveral => ?_⟩
      · split_ifs at hcount <;> omega
      · split_ifs at hcount <;> omega
    · rw [if_neg hover] at hcount
      refine ⟨fun hlimit => ?_, fun hseveral => ?_⟩
      · split_ifs at hcount <;> omega
      · split_ifs at hcount <;> omega
  have hroom : fitting * (skb.subfLen + subframePad skb.subfLen) ≤
      sta.cur.maxTidAmsduLen skb.tid + subframePad skb.subfLen := by
    rw [hfitting]
    exact Nat.div_mul_le_self _ _
  rw [← hcount] at hpos ⊢
  rw [marked_eq]
  refine ⟨Nat.pos_of_ne_zero hpos, hbounds.1, ?_, ?_, fun h =>
    (hbounds.2 h).2⟩
  · intro hseveral
    exact ⟨hqos, by simp [hseveral]⟩
  · intro hseveral
    exact (Nat.mul_le_mul_right _ (hbounds.2 hseveral).1).trans hroom

/-- The packets of which the limits are consulted. -/
structure WantsAmsdu (sta : TsoSta) (skb : TsoSkb) : Prop where
  qos : skb.isDataQos = true
  rate : sta.cur.maxRcAmsduLen ≠ 0
  noExtension : skb.hasExtension = false
  tid : skb.tid < 8
  enabled : sta.cur.maxTidAmsduLen skb.tid ≠ 0

theorem tsoDecision_wantsAmsdu (maxSkbFrags : ℕ) (hwants : WantsAmsdu sta skb) :
    tsoDecision sta maxSkbFrags skb =
      let count := numSubframes sta maxSkbFrags skb
      if (skb.marked count).payload.length ≤
          count * (skb.marked count).gsoSize then
        .whole (skb.marked count)
      else .segment (skb.marked count) count true := by
  unfold tsoDecision
  rw [if_neg (by simp [hwants.qos, hwants.rate]),
    if_neg (by simp [hwants.noExtension]),
    if_neg (by have htid := hwants.tid; omega), if_neg hwants.enabled]
  rfl

theorem tsoDecision_cases (sta : TsoSta) (maxSkbFrags : ℕ) (skb : TsoSkb) :
    tsoDecision sta maxSkbFrags skb = .reject (-22) ∨
      (∃ csum, tsoDecision sta maxSkbFrags skb = .segment skb 1 csum) ∨
      WantsAmsdu sta skb := by
  unfold tsoDecision
  by_cases hplain : (!skb.isDataQos ||
      decide (sta.cur.maxRcAmsduLen = 0)) = true
  · exact Or.inr (Or.inl ⟨true, by rw [if_pos hplain]⟩)
  · rw [if_neg hplain]
    by_cases hextension : skb.hasExtension = true
    · exact Or.inr (Or.inl ⟨false, by rw [if_pos hextension]⟩)
    · rw [if_neg hextension]
      by_cases htid : 8 ≤ skb.tid
      · exact Or.inl (by rw [if_pos htid])
      · rw [if_neg htid]
        by_cases hdisabled : sta.cur.maxTidAmsduLen skb.tid = 0
        · exact Or.inr (Or.inl ⟨true, by rw [if_pos hdisabled]⟩)
        · simp only [Bool.or_eq_true, Bool.not_eq_true', decide_eq_true_eq,
            not_or, Bool.not_eq_false] at hplain
          exact Or.inr (Or.inr ⟨hplain.1, hplain.2,
            by simpa using hextension, by omega, hdisabled⟩)

theorem one_subframe_limits (sta : TsoSta) (maxSkbFrags : ℕ) (skb : TsoSkb) :
    SubframeLimits sta maxSkbFrags skb 1 :=
  ⟨Nat.one_pos, Nat.one_le_iff_ne_zero.mpr,
    fun h => absurd h (lt_irrefl 1), fun h => absurd h (lt_irrefl 1),
    fun h => absurd h (lt_irrefl 1)⟩

/-- A packet is sent as it should be unless the limit of its TID is not zero but
less than one subframe takes, and nothing else asks for single subframes. -/
theorem tsoSound_iff (hpacket : TsoPacket skb) :
    TsoSound sta maxSkbFrags skb ↔
      ¬(WantsAmsdu sta skb ∧
        sta.cur.maxTidAmsduLen skb.tid < skb.subfLen ∧
        skb.frags.length < maxSkbFrags) := by
  have hlong := hpacket.long
  constructor
  · rintro hsound ⟨hwants, hshort⟩
    have hzero := numSubframes_eq_zero_iff.mpr hshort
    have hdecision := tsoDecision_wantsAmsdu maxSkbFrags hwants
    simp only [hzero, Nat.zero_mul] at hdecision
    rw [if_neg (by
      rw [marked_eq]
      have hpayload : ({ skb with
          amsduPresent := skb.amsduPresent || decide (0 > 1) } :
          TsoSkb).payload = skb.payload := rfl
      rw [hpayload]
      omega)] at hdecision
    exact lt_irrefl 0 (hsound.counted _ 0 true hdecision)
  · intro hnot
    rcases tsoDecision_cases sta maxSkbFrags skb with hreject |
      ⟨csum, hsegment⟩ | hwants
    · refine ⟨?_, ?_⟩
      · intro packet count csum hdecision
        rw [hreject] at hdecision
        cases hdecision
      · intro skbGsoSegment _ frames hframes
        rw [iwlMldTxTsoSegment, hreject] at hframes
        cases hframes
    · refine ⟨?_, ?_⟩
      · intro packet count csum' hdecision
        rw [hsegment] at hdecision
        cases hdecision
        exact Nat.one_pos
      · intro skbGsoSegment hsplits frames hframes
        rw [iwlMldTxTsoSegment, hsegment] at hframes
        exact segments_framed hpacket (one_subframe_limits sta maxSkbFrags skb)
          (by omega) hsplits hframes
    · have hcount : numSubframes sta maxSkbFrags skb ≠ 0 := fun hzero =>
        hnot ⟨hwants, numSubframes_eq_zero_iff.mp hzero⟩
      have hlimits := numSubframes_limits hwants.qos hcount
      have hdecision := tsoDecision_wantsAmsdu maxSkbFrags hwants
      obtain ⟨count, hsame⟩ : ∃ count,
        numSubframes sta maxSkbFrags skb = count := ⟨_, rfl⟩
      simp only [hsame] at hcount hlimits hdecision
      have hmarked : TsoPacket (skb.marked count) := by
        rw [marked_eq]
        exact ⟨hpacket.gsoSize_pos, hpacket.gsoSize_lt, hpacket.long,
          hpacket.headers⟩
      have hback : ∀ frames,
          TsoFramed sta maxSkbFrags (skb.marked count) frames →
          TsoFramed sta maxSkbFrags skb frames := by
        intro frames hframed
        rw [marked_eq] at hframed
        exact ⟨hframed.count, hframed.segment, hframed.amsdu, hframed.buffers,
          hframed.bit, hframed.payload, hframed.ids⟩
      by_cases hfits : (skb.marked count).payload.length ≤
          count * (skb.marked count).gsoSize
      · rw [if_pos hfits] at hdecision
        refine ⟨?_, ?_⟩
        · intro packet count' csum' hother
          rw [hdecision] at hother
          cases hother
        · intro skbGsoSegment _ frames hframes
          rw [iwlMldTxTsoSegment, hdecision] at hframes
          cases hframes
          exact hback _ (whole_framed hmarked hlimits hfits)
      · rw [if_neg hfits] at hdecision
        refine ⟨?_, ?_⟩
        · intro packet count' csum' hother
          rw [hdecision] at hother
          cases hother
          exact hlimits.pos
        · intro skbGsoSegment hsplits frames hframes
          rw [iwlMldTxTsoSegment, hdecision] at hframes
          exact hback _ (segments_framed hmarked hlimits (by omega) hsplits
            hframes)

/-! ## After a notification -/

end Decision

/-! ## A packet of three segments -/

section Samples

/-- 40 bytes of payload in segments of 16 bytes. -/
def smallTsoSkb (tid : ℕ) : TsoSkb where
  isDataQos := true
  tid := tid
  amsduPresent := false
  protocol := .ipv4
  networkHeaderLen := 20
  tcpHdrlen := 20
  ipId := 0xffff
  checkedId := 0xffff
  gsoSize := 16
  gsoTcp := true
  head := []
  frags := [List.replicate 40 7]
  cb := 0

theorem smallTsoSkb_packet (tid : ℕ) : TsoPacket (smallTsoSkb tid) where
  gsoSize_pos := by norm_num [smallTsoSkb]
  gsoSize_lt := by norm_num [smallTsoSkb]
  long := by norm_num [smallTsoSkb, TsoSkb.payload]
  headers := by norm_num [smallTsoSkb]

/-- A station that takes two subframes, after a notification that allows A-MSDUs
on TID 0 only. -/
def notifiedSta : TsoSta where
  cur := iwlMldHandleTlcNotif
    { hasHe := false
      oneLink := true
      bandLmac := 0
      cdb := false
      txFifo := id
      txfifoSize := fun _ _ => 8192 }
    { maxAmsduLen := 7935
      maxRcAmsduLen := 0
      maxTidAmsduLen := fun _ => 0
      maxTidAmsduLen_lt := fun _ => by norm_num }
    { amsdu := true
      amsduEnabled := 1
      amsduSize := 3839 }
  maxAmsduSubframes := 2

def copyGsoSegment : SkbGsoSegment :=
  fun skb _ => .ok ((chunks skb.gsoSize skb.payload).map fun part =>
    { skb with
      head := part
      frags := [] })

theorem copyGsoSegment_splits : GsoSplits copyGsoSegment := by
  constructor
  · rintro skb csum segs _ _ hsegs
    cases hsegs
    rw [List.map_map]
    refine (List.map_congr_left fun part _ => ?_).trans (List.map_id _)
    exact List.append_nil part
  · rintro skb csum segs _ _ hsegs seg hseg
    cases hsegs
    obtain ⟨part, -, rfl⟩ := List.mem_map.mp hseg
    exact ⟨rfl, rfl, Nat.zero_le _⟩

/-- On TID 0 it goes out as an A-MSDU of two subframes and a single frame. -/
theorem tsoSound_enabled :
    ∃ frames, iwlMldTxTsoSegment copyGsoSegment notifiedSta 17 (smallTsoSkb 0) =
        .ok frames ∧
      frames.map (fun frame => frame.payload.length) = [32, 8] ∧
      TsoFramed notifiedSta 17 (smallTsoSkb 0) frames := by
  have hlimit : ¬notifiedSta.cur.maxTidAmsduLen 0 < (smallTsoSkb 0).subfLen := by
    decide +kernel
  have hsound : TsoSound notifiedSta 17 (smallTsoSkb 0) :=
    (tsoSound_iff (smallTsoSkb_packet 0)).mpr fun hstarved =>
      hlimit hstarved.2.1
  have hframes : iwlMldTxTsoSegment copyGsoSegment notifiedSta 17
      (smallTsoSkb 0) = .ok
        ((iwlMldTxTsoSegment copyGsoSegment notifiedSta 17
          (smallTsoSkb 0)).toOption.getD []) := by
    rfl
  exact ⟨_, hframes, by decide +kernel,
    hsound.framed _ copyGsoSegment_splits _ hframes⟩

/-- On TID 1 it is to be segmented into frames of no subframe. -/
theorem tso_zero_subframes :
    notifiedSta.cur.maxTidAmsduLen 1 = 1 ∧
      tsoDecision notifiedSta 17 (smallTsoSkb 1) =
        .segment (smallTsoSkb 1) 0 true ∧
      ¬TsoSound notifiedSta 17 (smallTsoSkb 1) := by
  have hdecision : tsoDecision notifiedSta 17 (smallTsoSkb 1) =
      .segment (smallTsoSkb 1) 0 true := by
    rfl
  refine ⟨by decide +kernel, hdecision, fun hsound => ?_⟩
  exact lt_irrefl 0 (hsound.counted _ 0 true hdecision)

end Samples

end IwlwifiStack
