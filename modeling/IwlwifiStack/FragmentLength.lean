import IwlwifiStack.FragmentCacheReuse

/-!
# The length of what an entry collects

`extra_len` is a u16, and the receive path bounds no fragment.  The number in
the entry is the sum of the later fragments modulo 65536; where the sum fits,
the buffer of the first fragment is grown enough for all of them.
-/

namespace IwlwifiStack

section Lengths

variable {τ : Type*} {hz : ℕ}

/-! ## One entry -/

def FragmentEntry.laterLength (entry : FragmentEntry τ) : ℕ :=
  (entry.skbList.tail.map fun skb => skb.body.length).sum

/-- What every entry that is not empty keeps. -/
structure LengthKept (entry : FragmentEntry τ) : Prop where
  extra : entry.skbList ≠ [] → entry.extraLen = entry.laterLength % 65536
  parts : entry.skbList ≠ [] → entry.skbList.length = entry.lastFrag + 1
  last : entry.lastFrag < 16

theorem LengthKept.purge {entry : FragmentEntry τ} (hkept : LengthKept entry) :
    LengthKept entry.purge := by
  constructor
  · intro hne
    exact absurd rfl hne
  · intro hne
    exact absurd rfl hne
  · exact hkept.last

theorem protectFirst_length (entry : FragmentEntry τ) (rx : RxData τ) :
    (entry.protectFirst rx).skbList = entry.skbList ∧
      (entry.protectFirst rx).extraLen = entry.extraLen ∧
      (entry.protectFirst rx).lastFrag = entry.lastFrag := by
  unfold FragmentEntry.protectFirst
  cases rx.key with
  | none => exact ⟨rfl, rfl, rfl⟩
  | some key =>
      simp only
      split_ifs <;> exact ⟨rfl, rfl, rfl⟩

theorem LengthKept.first (entry : FragmentEntry τ) (rx : RxData τ)
    (jiffies : ℕ) (hfrag : rx.skb.hdr.frag = 0) :
    LengthKept ((entry.restart rx.skb.hdr.frag rx.skb.hdr.seq
      rx.skb.hdr.seqnoIdx rx.skb jiffies).protectFirst rx) := by
  have hfields := protectFirst_length (entry.restart rx.skb.hdr.frag
    rx.skb.hdr.seq rx.skb.hdr.seqnoIdx rx.skb jiffies) rx
  constructor
  · intro _
    rw [hfields.2.1, FragmentEntry.laterLength, hfields.1]
    rfl
  · intro _
    rw [hfields.1, hfields.2.2]
    change 1 = rx.skb.hdr.frag + 1
    rw [hfrag]
  · rw [hfields.2.2]
    change rx.skb.hdr.frag < 16
    rw [hfrag]
    norm_num

theorem laterLength_append {entry : FragmentEntry τ} (rx : RxData τ)
    (pn : PacketNumber) (hne : entry.skbList ≠ []) :
    (entry.append rx pn).laterLength =
      entry.laterLength + rx.skb.body.length := by
  have hlist : (entry.append rx pn).skbList = entry.skbList ++ [rx.skb] := rfl
  rw [FragmentEntry.laterLength, FragmentEntry.laterLength, hlist,
    List.tail_append_of_ne_nil hne, List.map_append, List.sum_append]
  simp

theorem LengthKept.append {entry : FragmentEntry τ} (hkept : LengthKept entry)
    (rx : RxData τ) (pn : PacketNumber) (hne : entry.skbList ≠ [])
    (hnext : entry.lastFrag + 1 = rx.skb.hdr.frag) :
    LengthKept (entry.append rx pn) := by
  constructor
  · intro _
    have hextra : (entry.append rx pn).extraLen =
        (entry.extraLen + rx.skb.body.length) % 65536 := rfl
    rw [laterLength_append rx pn hne, hextra, hkept.extra hne, Nat.mod_add_mod]
  · intro _
    have hlist : (entry.append rx pn).skbList = entry.skbList ++ [rx.skb] := rfl
    have hlast : (entry.append rx pn).lastFrag = rx.skb.hdr.frag := rfl
    rw [hlist, hlast, List.length_append, hkept.parts hne, hnext]
    rfl
  · exact Nat.mod_lt _ (by norm_num)

/-! ## Every cache of a run -/

def defragCache (hz : ℕ) (frames : List (RxData τ × ℕ)) : FragmentCache τ :=
  frames.foldl
    (fun cache arrival =>
      (ieee80211RxHDefragment hz cache arrival.1 arrival.2).2)
    (ieee80211InitFragCache τ)

/-- The entry a later fragment is admitted to, with the fragment in it. -/
def admitLater (hz : ℕ) (cache : FragmentCache τ) (rx : RxData τ)
    (jiffies : ℕ) : Option (FragmentEntry τ) :=
  let found := ieee80211ReassembleFind hz cache rx.skb.hdr.frag rx.skb.hdr.seq
    rx.skb.hdr.seqnoIdx rx.skb.hdr jiffies
  match found.2 with
  | none => none
  | some idx =>
      match (found.1.entries idx).checkLater rx with
      | .error _ => none
      | .ok pn => some ((found.1.entries idx).append rx pn)

def RxData.isLaterFragment (rx : RxData τ) : Bool :=
  !(rx.skb.hdr.isCtl || rx.skb.hdr.isExt) && !rx.skb.hdr.isMulticast &&
    rx.linearizes && decide (rx.skb.hdr.frag ≠ 0)

theorem RxData.isLaterFragment_step {cache : FragmentCache τ} {rx : RxData τ}
    (hlater : rx.isLaterFragment = true) (jiffies : ℕ) :
    ieee80211RxHDefragment hz cache rx jiffies =
      defragmentLater hz cache rx jiffies := by
  simp only [RxData.isLaterFragment, Bool.and_eq_true, Bool.not_eq_true',
    decide_eq_true_eq] at hlater
  rcases hlater with ⟨⟨⟨hkind, hunicast⟩, hlinear⟩, hfrag⟩
  simp [ieee80211RxHDefragment, hkind, hunicast, hlinear, hfrag]

theorem admitLater_kept {cache : FragmentCache τ} {rx : RxData τ}
    {jiffies : ℕ} {entry : FragmentEntry τ}
    (hcache : ∀ i, LengthKept (cache.entries i))
    (hadmitted : admitLater hz cache rx jiffies = some entry) :
    LengthKept entry ∧ entry.skbList ≠ [] := by
  have hlooked := reassembleFind_spec hz rx.skb.hdr.frag rx.skb.hdr.seq
    rx.skb.hdr.seqnoIdx cache rx.skb.hdr jiffies
  simp only [admitLater] at hadmitted
  generalize ieee80211ReassembleFind hz cache rx.skb.hdr.frag rx.skb.hdr.seq
    rx.skb.hdr.seqnoIdx rx.skb.hdr jiffies = found at hlooked hadmitted
  cases hidx : found.2 with
  | none =>
      rw [hidx] at hadmitted
      cases hadmitted
  | some idx =>
      simp only [hidx] at hadmitted
      cases hcheck : (found.1.entries idx).checkLater rx with
      | error reason =>
          rw [hcheck] at hadmitted
          cases hadmitted
      | ok pn =>
          rw [hcheck] at hadmitted
          cases hadmitted
          have hsame := hlooked.found_kept idx hidx
          have hcontinued := hlooked.found_continued idx hidx
          rcases FragmentEntry.continuedBy_iff.mp hcontinued with
            ⟨first, rest, hlist, -, -, hnext, -⟩
          have hne : (found.1.entries idx).skbList ≠ [] := by
            rw [hsame, hlist]
            exact List.cons_ne_nil first rest
          have hkept : LengthKept (found.1.entries idx) := by
            rw [hsame]
            exact hcache idx
          rw [← hsame] at hnext
          constructor
          · exact hkept.append rx pn hne hnext
          · exact List.append_ne_nil_of_left_ne_nil hne _

/-- A later fragment is queued, completes its entry or leaves the entries as
the lookup does. -/
theorem defragmentLater_kept {cache : FragmentCache τ} (rx : RxData τ)
    (jiffies : ℕ) (hcache : ∀ i, LengthKept (cache.entries i)) (i : ℕ) :
    LengthKept ((defragmentLater hz cache rx jiffies).2.entries i) := by
  have hadmitted := @admitLater_kept τ hz cache rx jiffies
  have hlooked := reassembleFind_spec hz rx.skb.hdr.frag rx.skb.hdr.seq
    rx.skb.hdr.seqnoIdx cache rx.skb.hdr jiffies
  simp only [admitLater] at hadmitted
  simp only [defragmentLater]
  generalize ieee80211ReassembleFind hz cache rx.skb.hdr.frag rx.skb.hdr.seq
    rx.skb.hdr.seqnoIdx rx.skb.hdr jiffies = found at hlooked hadmitted ⊢
  have hfound : ∀ j, LengthKept (found.1.entries j) := by
    intro j
    rcases hlooked.kept j with hsame | ⟨hpurged, -⟩
    · rw [hsame]
      exact hcache j
    · rw [hpurged]
      exact (hcache j).purge
  cases hidx : found.2 with
  | none => exact hfound i
  | some idx =>
      simp only [hidx] at hadmitted ⊢
      cases hcheck : (found.1.entries idx).checkLater rx with
      | error reason => exact hfound i
      | ok pn =>
          simp only [hcheck] at hadmitted ⊢
          have hkept := (hadmitted hcache rfl).1
          by_cases hsame : i = idx
          · rw [hsame]
            split_ifs with hmore <;> simp only [Function.update_self]
            · exact hkept
            · exact hkept.purge
          · split_ifs with hmore <;> simp only [Function.update_of_ne hsame]
            · exact hfound i
            · exact hfound i

theorem defragment_kept {cache : FragmentCache τ} (rx : RxData τ)
    (jiffies : ℕ) (hcache : ∀ i, LengthKept (cache.entries i)) (i : ℕ) :
    LengthKept ((ieee80211RxHDefragment hz cache rx jiffies).2.entries i) := by
  unfold ieee80211RxHDefragment
  simp only
  split_ifs with hctl hwhole hmulticast hmemory hfrag
  · exact hcache i
  · exact hcache i
  · exact hcache i
  · exact hcache i
  · simp only [defragmentFirst, ieee80211ReassembleAdd]
    by_cases hsame : i = cache.next
    · rw [hsame, Function.update_self, Function.update_self]
      exact LengthKept.first _ rx jiffies hfrag
    · rw [Function.update_of_ne hsame, Function.update_of_ne hsame]
      exact hcache i
  · exact defragmentLater_kept rx jiffies hcache i

theorem defragCache_kept (hz : ℕ) (frames : List (RxData τ × ℕ)) (i : ℕ) :
    LengthKept ((defragCache hz frames).entries i) := by
  induction frames using List.reverseRecOn generalizing i with
  | nil =>
      constructor
      · intro hne
        exact absurd rfl hne
      · intro hne
        exact absurd rfl hne
      · norm_num [defragCache, ieee80211InitFragCache]
  | append_singleton frames arrival ih =>
      rw [defragCache, List.foldl_append]
      exact defragment_kept arrival.1 arrival.2 ih i

/-! ## The last fragment -/

/-- The first frame with all others behind it, unless memory for it cannot be
had. -/
def HoldsAll (entry : FragmentEntry τ) (expands : Bool)
    (outcome : DefragOutcome τ) : Prop :=
  (∃ first rest, entry.skbList = first :: rest ∧
      outcome = .completed (first.merge rest)) ∨
    expands = false ∧ outcome = .dropped .oom

theorem laterLength_cons {entry : FragmentEntry τ} {first : FragmentSkb τ}
    {rest : List (FragmentSkb τ)} (hlist : entry.skbList = first :: rest) :
    entry.laterLength = (rest.flatMap FragmentSkb.body).length := by
  rw [FragmentEntry.laterLength, hlist, List.length_flatMap]
  rfl

theorem complete_holdsAll {entry : FragmentEntry τ} (expands : Bool)
    (hne : entry.skbList ≠ []) (hextra : entry.extraLen = entry.laterLength) :
    HoldsAll entry expands (entry.complete expands) := by
  unfold FragmentEntry.complete
  cases hlist : entry.skbList with
  | nil => exact absurd hlist hne
  | cons first rest =>
      have hlength := laterLength_cons hlist
      rw [← hextra] at hlength
      simp only [← hlength]
      by_cases hshort : first.tailroom < entry.extraLen
      · have hroom : ¬ first.tailroom + entry.extraLen < entry.extraLen := by
          omega
        cases expands with
        | false =>
            right
            simp [hshort]
        | true =>
            left
            exact ⟨first, rest, hlist, by simp [hshort]⟩
      · left
        exact ⟨first, rest, hlist, by simp [hshort]⟩

theorem complete_overPanic {entry : FragmentEntry τ} {first : FragmentSkb τ}
    {rest : List (FragmentSkb τ)} (hlist : entry.skbList = first :: rest)
    (hshort : first.tailroom < entry.extraLen)
    (hlong : first.tailroom + entry.extraLen <
      (rest.flatMap FragmentSkb.body).length) :
    entry.complete true = .overPanic := by
  unfold FragmentEntry.complete
  rw [hlist]
  simp only [decide_eq_true hshort, if_true, Bool.not_true, Bool.and_false,
    Bool.false_eq_true, if_false]
  exact if_pos hlong

theorem defragmentLater_complete {cache : FragmentCache τ} {rx : RxData τ}
    {jiffies : ℕ} {entry : FragmentEntry τ}
    (hadmitted : admitLater hz cache rx jiffies = some entry)
    (hend : rx.skb.hdr.hasMorefrags = false) :
    (defragmentLater hz cache rx jiffies).1 = entry.complete rx.expands := by
  simp only [admitLater] at hadmitted
  simp only [defragmentLater]
  generalize ieee80211ReassembleFind hz cache rx.skb.hdr.frag rx.skb.hdr.seq
    rx.skb.hdr.seqnoIdx rx.skb.hdr jiffies = found at hadmitted ⊢
  cases hidx : found.2 with
  | none =>
      rw [hidx] at hadmitted
      cases hadmitted
  | some idx =>
      simp only [hidx] at hadmitted ⊢
      cases hcheck : (found.1.entries idx).checkLater rx with
      | error reason =>
          rw [hcheck] at hadmitted
          cases hadmitted
      | ok pn =>
          rw [hcheck] at hadmitted
          cases hadmitted
          simp [hend]

/-- After any run of frames the entry that admits a later fragment counts its
length exactly, and the last fragment finds room for all of them, if and only
if the later fragments are shorter than 65536 bytes together. -/
theorem extraLen_exact_iff (frames : List (RxData τ × ℕ)) {rx : RxData τ}
    {jiffies : ℕ} {entry : FragmentEntry τ}
    (hlater : rx.isLaterFragment = true)
    (hadmitted :
      admitLater hz (defragCache hz frames) rx jiffies = some entry) :
    entry.extraLen = entry.laterLength ∧
        (rx.skb.hdr.hasMorefrags = false →
          HoldsAll entry rx.expands
            (ieee80211RxHDefragment hz (defragCache hz frames) rx jiffies).1) ↔
      entry.laterLength < 65536 := by
  have hkept := admitLater_kept (defragCache_kept hz frames) hadmitted
  have hextra := hkept.1.extra hkept.2
  constructor
  · intro hexact
    rw [← hexact.1, hextra]
    exact Nat.mod_lt _ (by norm_num)
  · intro hfits
    have hexact : entry.extraLen = entry.laterLength := by
      rw [hextra, Nat.mod_eq_of_lt hfits]
    constructor
    · exact hexact
    · intro hend
      rw [RxData.isLaterFragment_step hlater,
        defragmentLater_complete hadmitted hend]
      exact complete_holdsAll rx.expands hkept.2 hexact

end Lengths

/-! ## Fragments of the longest MPDU -/

section Samples

def bodyFragment (frameControl frag : ℕ) (body : List UInt8) : RxData Unit :=
  { (emptyFragment frameControl frag none : RxData Unit) with
    skb := ⟨fragmentHdr frameControl frag, body, 0, ()⟩ }

/-- An empty first fragment and `n` fragments behind it. -/
def partFragments (body : List UInt8) (n : ℕ) : List (RxData Unit × ℕ) :=
  (bodyFragment 0x0408 0 [], 0) ::
    (List.range n).map fun i => (bodyFragment 0x0408 (i + 1) body, 0)

def partEntry (body : List UInt8) : ℕ → FragmentEntry Unit
  | 0 => ((ieee80211InitFragCache Unit).entries 0).restart 0 0 16
      (bodyFragment 0x0408 0 []).skb 0
  | n + 1 => (partEntry body n).append (bodyFragment 0x0408 (n + 1) body)
      PacketNumber.zero

def firstEntryCache (entry : FragmentEntry Unit) : FragmentCache Unit where
  entries := Function.update (ieee80211InitFragCache Unit).entries 0 entry
  next := 1
  next_lt := by norm_num

theorem partEntry_fields (body : List UInt8) (n : ℕ) :
    (∃ rest, (partEntry body n).skbList =
        (bodyFragment 0x0408 0 []).skb :: rest) ∧
      (partEntry body n).seq = 0 ∧ (partEntry body n).rxQueue = 16 ∧
      (partEntry body n).lastFrag = n % 16 ∧
      (partEntry body n).firstFragTime = 0 ∧
      (partEntry body n).checkSequentialPn = false ∧
      (partEntry body n).isProtected = false ∧
      (partEntry body n).lastPn = PacketNumber.zero := by
  induction n with
  | zero => exact ⟨⟨[], rfl⟩, rfl, rfl, rfl, rfl, rfl, rfl, rfl⟩
  | succ n ih =>
      rcases ih with ⟨⟨rest, hlist⟩, hseq, hqueue, -, htime, hcheck, hplain, -⟩
      constructor
      · exact ⟨rest ++ [(bodyFragment 0x0408 (n + 1) body).skb], by
          rw [partEntry, FragmentEntry.append, hlist, List.cons_append]⟩
      · exact ⟨hseq, hqueue, rfl, htime, hcheck, hplain, rfl⟩

theorem partEntry_continued (body : List UInt8) (frameControl n : ℕ)
    (hn : n + 1 < 16) (hdata : frameControl / 4 % 4 = 2) :
    (partEntry body n).continuedBy
      (bodyFragment frameControl (n + 1) body).skb.hdr.frag 0 16
      (bodyFragment frameControl (n + 1) body).skb.hdr = true := by
  rcases partEntry_fields body n with ⟨⟨rest, hlist⟩, hseq, hqueue, hlast, -⟩
  apply FragmentEntry.continuedBy_iff.mpr
  refine ⟨_, rest, hlist, hseq, hqueue, ?_, hdata, rfl, rfl⟩
  rw [hlast]
  change n % 16 + 1 = (n + 1) % 16
  omega

/-- A data fragment that follows in the entry. -/
structure Follows (frameControl n : ℕ) (body : List UInt8) : Prop where
  inside : n + 1 < 16
  data : frameControl / 4 % 4 = 2
  seq : (bodyFragment frameControl (n + 1) body).skb.hdr.seq = 0
  queue : (bodyFragment frameControl (n + 1) body).skb.hdr.seqnoIdx = 16

theorem follows_of_lt {frameControl n : ℕ} (body : List UInt8)
    (hn : n + 1 < 16) (hdata : frameControl / 4 % 4 = 2)
    (hplain : frameControl / 16 % 16 < 8) : Follows frameControl n body := by
  constructor
  · exact hn
  · exact hdata
  · change (n + 1) / 16 % 4096 = 0
    omega
  · have hnotQos : frameControl / 16 % 16 / 8 ≠ 1 := by omega
    simp [bodyFragment, fragmentHdr, Ieee80211Hdr.seqnoIdx,
      Ieee80211Hdr.isDataQos, Ieee80211Hdr.stype, hnotQos]

theorem firstEntryCache_find {body : List UInt8} {frameControl n : ℕ}
    (hfollows : Follows frameControl n body) :
    ieee80211ReassembleFind 100 (firstEntryCache (partEntry body n))
      (bodyFragment frameControl (n + 1) body).skb.hdr.frag 0 16
      (bodyFragment frameControl (n + 1) body).skb.hdr 0 =
        (firstEntryCache (partEntry body n), some 0) := by
  have hcontinued := partEntry_continued body frameControl n hfollows.inside
    hfollows.data
  rcases partEntry_fields body n with ⟨-, -, -, -, htime, -⟩
  have hlive : (partEntry body n).expired 100 0 = false := by
    simp [FragmentEntry.expired, htime]
  simp [ieee80211ReassembleFind, reassembleFindLoop, firstEntryCache,
    hcontinued, hlive]

theorem partEntry_checked (body : List UInt8) (n : ℕ) (rx : RxData Unit) :
    (partEntry body n).checkLater rx = .ok PacketNumber.zero := by
  rcases partEntry_fields body n with ⟨-, -, -, -, -, hcheck, hplain, hpn⟩
  simp [FragmentEntry.checkLater, hcheck, hplain, hpn]

theorem firstEntryCache_entry (entry : FragmentEntry Unit) :
    (firstEntryCache entry).entries 0 = entry := by
  simp [firstEntryCache]

theorem partEntry_admitted {body : List UInt8} {frameControl n : ℕ}
    (hfollows : Follows frameControl n body) :
    admitLater 100 (firstEntryCache (partEntry body n))
        (bodyFragment frameControl (n + 1) body) 0 =
      some ((partEntry body n).append (bodyFragment frameControl (n + 1) body)
        PacketNumber.zero) := by
  simp only [admitLater, hfollows.seq, hfollows.queue,
    firstEntryCache_find hfollows, firstEntryCache_entry, partEntry_checked]

theorem bodyFragment_later {frameControl frag : ℕ} (body : List UInt8)
    (hfrag : (bodyFragment frameControl frag body).skb.hdr.frag ≠ 0)
    (hdata : frameControl / 4 % 4 = 2) :
    (bodyFragment frameControl frag body).isLaterFragment = true := by
  have hctl : (bodyFragment frameControl frag body).skb.hdr.isCtl = false := by
    simp [bodyFragment, fragmentHdr, Ieee80211Hdr.isCtl, Ieee80211Hdr.ftype,
      hdata]
  have hext : (bodyFragment frameControl frag body).skb.hdr.isExt = false := by
    simp [bodyFragment, fragmentHdr, Ieee80211Hdr.isExt, Ieee80211Hdr.ftype,
      hdata]
  have hunicast :
      (bodyFragment frameControl frag body).skb.hdr.isMulticast = false := by
    simp [bodyFragment, fragmentHdr, Ieee80211Hdr.isMulticast]
  have hlinear : (bodyFragment frameControl frag body).linearizes = true := rfl
  simp only [RxData.isLaterFragment, hctl, hext, hunicast, hlinear,
    decide_eq_true hfrag]
  rfl

theorem firstEntryCache_queued {body : List UInt8} {n : ℕ}
    (hfollows : Follows 0x0408 n body) :
    (ieee80211RxHDefragment 100 (firstEntryCache (partEntry body n))
        (bodyFragment 0x0408 (n + 1) body) 0).2 =
      firstEntryCache (partEntry body (n + 1)) := by
  have hfrag : (bodyFragment 0x0408 (n + 1) body).skb.hdr.frag ≠ 0 := by
    change (n + 1) % 16 ≠ 0
    have hlt := hfollows.inside
    omega
  have hlater := bodyFragment_later body hfrag (by norm_num)
  have hmore : (bodyFragment 0x0408 (n + 1) body).skb.hdr.hasMorefrags =
      true := by
    norm_num [bodyFragment, fragmentHdr, Ieee80211Hdr.hasMorefrags]
  rw [RxData.isLaterFragment_step hlater]
  simp only [defragmentLater, hfollows.seq, hfollows.queue,
    firstEntryCache_find hfollows, firstEntryCache_entry, partEntry_checked,
    if_pos hmore]
  simp [firstEntryCache, partEntry]

theorem firstFragment_hdr :
    ((bodyFragment 0x0408 0 []).skb.hdr.isCtl = false ∧
        (bodyFragment 0x0408 0 []).skb.hdr.isExt = false ∧
        (bodyFragment 0x0408 0 []).skb.hdr.isMulticast = false ∧
        (bodyFragment 0x0408 0 []).skb.hdr.hasMorefrags = true) ∧
      (bodyFragment 0x0408 0 []).skb.hdr.frag = 0 ∧
      (bodyFragment 0x0408 0 []).skb.hdr.seq = 0 ∧
      (bodyFragment 0x0408 0 []).skb.hdr.seqnoIdx = 16 := by
  decide +kernel

theorem partFragments_cache (body : List UInt8) (n : ℕ) (hn : n < 16) :
    defragCache 100 (partFragments body n) =
      firstEntryCache (partEntry body n) := by
  induction n with
  | zero =>
      have hnext : (ieee80211InitFragCache Unit).next = 0 := rfl
      have hlinear : (bodyFragment 0x0408 0 []).linearizes = true := rfl
      have hkey : (bodyFragment 0x0408 0 []).key = none := rfl
      rw [partFragments, List.range_zero, List.map_nil, defragCache,
        List.foldl_cons, List.foldl_nil, ieee80211RxHDefragment]
      simp [firstFragment_hdr, hlinear, defragmentFirst, hkey, hnext, partEntry,
        firstEntryCache, ieee80211ReassembleAdd, FragmentEntry.protectFirst]
  | succ n ih =>
      have hrun : partFragments body (n + 1) = partFragments body n ++
          [(bodyFragment 0x0408 (n + 1) body, 0)] := by
        simp [partFragments, List.range_succ]
      have hprevious := ih (by omega)
      rw [defragCache] at hprevious
      rw [hrun, defragCache, List.foldl_append, hprevious]
      exact firstEntryCache_queued (follows_of_lt body hn rfl (by norm_num))

theorem partEntry_laterLength (body : List UInt8) (n : ℕ) :
    (partEntry body n).laterLength = n * body.length := by
  induction n with
  | zero => rw [Nat.zero_mul]; rfl
  | succ n ih =>
      rcases partEntry_fields body n with ⟨⟨rest, hlist⟩, -⟩
      have hne : (partEntry body n).skbList ≠ [] := by
        rw [hlist]
        exact List.cons_ne_nil _ _
      rw [partEntry, laterLength_append _ _ hne, ih, Nat.succ_mul]
      rfl

theorem lastPart_admitted (body : List UInt8) :
    admitLater 100 (defragCache 100 (partFragments body 5))
        (bodyFragment 0x0008 6 body) 0 =
      some ((partEntry body 5).append (bodyFragment 0x0008 6 body)
        PacketNumber.zero) := by
  rw [partFragments_cache body 5 (by norm_num)]
  exact partEntry_admitted (follows_of_lt body (by norm_num) rfl (by norm_num))

theorem lastPart_laterLength (body : List UInt8) :
    ((partEntry body 5).append (bodyFragment 0x0008 6 body)
      PacketNumber.zero).laterLength = 6 * body.length := by
  rcases partEntry_fields body 5 with ⟨⟨rest, hlist⟩, -⟩
  have hne : (partEntry body 5).skbList ≠ [] := by
    rw [hlist]
    exact List.cons_ne_nil _ _
  have hbody : (bodyFragment 0x0008 6 body).skb.body.length = body.length := rfl
  rw [laterLength_append _ _ hne, partEntry_laterLength, hbody]
  omega

theorem lastPart_later (body : List UInt8) :
    (bodyFragment 0x0008 6 body).isLaterFragment = true :=
  bodyFragment_later body (by
    change 6 % 16 ≠ 0
    norm_num) (by norm_num)

theorem lastPart_end (body : List UInt8) :
    (bodyFragment 0x0008 6 body).skb.hdr.hasMorefrags = false := by
  norm_num [bodyFragment, fragmentHdr, Ieee80211Hdr.hasMorefrags]

/-- Six fragments of 10000 bytes. -/
theorem extraLen_exact_ten_thousand :
    ∃ entry, admitLater 100
        (defragCache 100 (partFragments (List.replicate 10000 0) 5))
        (bodyFragment 0x0008 6 (List.replicate 10000 0)) 0 = some entry ∧
      entry.laterLength = 60000 ∧ entry.extraLen = entry.laterLength := by
  have hadmitted := lastPart_admitted (List.replicate 10000 0)
  have hlater := lastPart_laterLength (List.replicate 10000 0)
  rw [List.length_replicate] at hlater
  have hexact := (extraLen_exact_iff _ (lastPart_later _) hadmitted).mpr
    (by rw [hlater]; norm_num)
  exact ⟨_, hadmitted, hlater, hexact.1⟩

/-- Six fragments of the longest MPDU: room for 3188 bytes is made, and the
copy of 68724 bytes runs over the end of the buffer. -/
theorem extraLen_wraps :
    ∃ entry, admitLater 100
        (defragCache 100 (partFragments (List.replicate 11454 0) 5))
        (bodyFragment 0x0008 6 (List.replicate 11454 0)) 0 = some entry ∧
      entry.laterLength = 68724 ∧ entry.extraLen = 3188 ∧
      (ieee80211RxHDefragment 100
        (defragCache 100 (partFragments (List.replicate 11454 0) 5))
        (bodyFragment 0x0008 6 (List.replicate 11454 0)) 0).1 =
          .overPanic := by
  have hadmitted := lastPart_admitted (List.replicate 11454 0)
  have hlater := lastPart_laterLength (List.replicate 11454 0)
  rw [List.length_replicate] at hlater
  have hkept := admitLater_kept (defragCache_kept 100 _) hadmitted
  have hextra := hkept.1.extra hkept.2
  rw [hlater] at hextra
  rcases partEntry_fields (List.replicate 11454 0) 5 with ⟨⟨rest, hlist⟩, -⟩
  have hparts : ((partEntry (List.replicate 11454 0) 5).append
      (bodyFragment 0x0008 6 (List.replicate 11454 0))
      PacketNumber.zero).skbList = (bodyFragment 0x0408 0 []).skb ::
        (rest ++ [(bodyFragment 0x0008 6 (List.replicate 11454 0)).skb]) := by
    rw [FragmentEntry.append, hlist, List.cons_append]
  have htailroom : (bodyFragment 0x0408 0 []).skb.tailroom = 0 := rfl
  have hpanic : FragmentEntry.complete ((partEntry (List.replicate 11454 0)
      5).append (bodyFragment 0x0008 6 (List.replicate 11454 0))
      PacketNumber.zero) true = .overPanic := by
    apply complete_overPanic hparts
    · rw [hextra, htailroom]
      norm_num
    · rw [← laterLength_cons hparts, hlater, hextra, htailroom]
      norm_num
  refine ⟨_, hadmitted, hlater, hextra, ?_⟩
  rw [RxData.isLaterFragment_step (lastPart_later _),
    defragmentLater_complete hadmitted (lastPart_end _)]
  exact hpanic

end Samples

end IwlwifiStack
