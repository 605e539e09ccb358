import IwlwifiStack.WpaDecryptModel

/-!
# The fragment cache

`ieee80211_rx_h_decrypt`, as far as fragments depend on it, and
`ieee80211_rx_h_defragment` with its cache of four entries.  The keys a frame
may be decrypted with, the time in `jiffies` and the outcome of the memory
functions come with every frame.

A frame in the cache carries a tag of arbitrary type, which the code does not
look at.  Time is a natural number: the wrap of `jiffies` is left out.
-/

namespace IwlwifiStack

/-- The ciphers of `ieee80211_rx_h_decrypt` that concern fragments; the
others are WEP and TKIP. -/
inductive RxCipher
  | aead (cipher : AeadCipher)
  | other
  deriving DecidableEq, Repr

/-- The fields of `struct ieee80211_key` the receive path reads. -/
structure RxKey where
  color : ℕ
  tainted : Bool
  cipher : RxCipher
  aead : Aead
  counters : AeadKey

/-- A frame on its way through defragmentation. -/
structure FragmentSkb (τ : Type*) where
  hdr : Ieee80211Hdr
  body : List UInt8
  tailroom : ℕ
  tag : τ
  deriving DecidableEq

/-- The fields of `struct ieee80211_rx_data` and of the status of its frame
that `ieee80211_rx_h_defragment` reads.  `pn` is `ccm_gcm.pn`, which starts
out as zero. -/
structure RxData (τ : Type*) where
  skb : FragmentSkb τ
  key : Option RxKey
  decrypted : Bool
  pn : PacketNumber
  linearizes : Bool
  /-- `pskb_expand_head`. -/
  expands : Bool

/-- `struct ieee80211_fragment_entry`. -/
structure FragmentEntry (τ : Type*) where
  skbList : List (FragmentSkb τ)
  firstFragTime : ℕ
  seq : ℕ
  extraLen : ℕ
  lastFrag : ℕ
  rxQueue : ℕ
  checkSequentialPn : Bool
  isProtected : Bool
  lastPn : PacketNumber
  keyColor : ℕ

/-- `struct ieee80211_fragment_cache`; `IEEE80211_FRAGMENT_MAX` is 4. -/
structure FragmentCache (τ : Type*) where
  entries : ℕ → FragmentEntry τ
  next : ℕ
  next_lt : next < 4

/-- The cache of a new station. -/
def ieee80211InitFragCache (τ : Type*) : FragmentCache τ where
  entries := fun _ =>
    { skbList := []
      firstFragTime := 0
      seq := 0
      extraLen := 0
      lastFrag := 0
      rxQueue := 0
      checkSequentialPn := false
      isProtected := false
      lastPn := PacketNumber.zero
      keyColor := 0 }
  next := 0
  next_lt := by norm_num

inductive DefragOutcome (τ : Type*)
  /-- Not a fragment. -/
  | passed
  | queued
  | dropped (reason : DropReason)
  | completed (skb : FragmentSkb τ)
  /-- `skb_put_data` beyond the end of the buffer. -/
  | overPanic
  deriving DecidableEq

/-! ## Decryption -/

section Decrypt

variable {τ : Type*}

/-- A frame at `ieee80211_rx_h_decrypt` once the key is looked up, if one was
found.  `plain` is the answer of the WEP and TKIP handlers. -/
structure RxEvent (τ : Type*) where
  frame : RxFrame
  key : Option RxKey
  hasSta : Bool
  plain : Option (List UInt8)
  tailroom : ℕ
  expands : Bool
  tag : τ

def RxEvent.rxData (event : RxEvent τ) (key : Option RxKey)
    (decrypted : Bool) (pn : PacketNumber) (body : List UInt8) : RxData τ where
  skb :=
    { hdr := event.frame.hdr
      body := body
      tailroom := event.tailroom
      tag := event.tag }
  key := key
  decrypted := decrypted
  pn := pn
  linearizes := event.frame.linearizes
  expands := event.expands

/-- Multicast management frames, which may go to the BIP handlers, are not
told apart here: no multicast frame is ever put in the cache. -/
def ieee80211RxHDecrypt (event : RxEvent τ) : Option (RxData τ) :=
  let frame := event.frame
  if (frame.decrypted && frame.ivStripped) || !frame.hdr.hasProtected then
    some (event.rxData event.key frame.decrypted PacketNumber.zero frame.body)
  else
    match event.key with
    | none => none
    | some key =>
        if key.tainted then
          none
        else
          match key.cipher with
          | .aead cipher =>
              let out := cipher.decrypt key.aead event.hasSta key.counters frame
              if out.result = .rxContinue then
                some (event.rxData (some { key with counters := out.key }) true
                  (out.fragPn.getD PacketNumber.zero) out.body)
              else
                none
          | .other =>
              event.plain.map fun body =>
                event.rxData (some key) true PacketNumber.zero body

end Decrypt

/-! ## The cache -/

section Cache

variable {τ : Type*}

def FragmentEntry.purge (entry : FragmentEntry τ) : FragmentEntry τ :=
  { entry with skbList := [] }

/-- The entry after `ieee80211_reassemble_add`; the fields it does not name
stay as they were. -/
def FragmentEntry.restart (entry : FragmentEntry τ) (frag seq rxQueue : ℕ)
    (skb : FragmentSkb τ) (jiffies : ℕ) : FragmentEntry τ :=
  { entry with
    skbList := [skb]
    firstFragTime := jiffies
    seq := seq
    rxQueue := rxQueue
    lastFrag := frag
    checkSequentialPn := false
    extraLen := 0 }

/-- The entry that was `next` is handed out. -/
def ieee80211ReassembleAdd (cache : FragmentCache τ)
    (frag seq rxQueue : ℕ) (skb : FragmentSkb τ) (jiffies : ℕ) :
    FragmentCache τ where
  entries := Function.update cache.entries cache.next
    ((cache.entries cache.next).restart frag seq rxQueue skb jiffies)
  next := if cache.next + 1 ≥ 4 then 0 else cache.next + 1
  next_lt := by split_ifs <;> omega

/-- The frame continues what the entry has collected. -/
def FragmentEntry.continuedBy (entry : FragmentEntry τ) (frag seq rxQueue : ℕ)
    (hdr : Ieee80211Hdr) : Bool :=
  match entry.skbList with
  | [] => false
  | fSkb :: _ =>
      decide (entry.seq = seq) && decide (entry.rxQueue = rxQueue) &&
        decide (entry.lastFrag + 1 = frag) &&
        decide (hdr.ftype = fSkb.hdr.ftype) &&
        decide (hdr.addr1 = fSkb.hdr.addr1) &&
        decide (hdr.addr2 = fSkb.hdr.addr2)

def FragmentEntry.expired (hz : ℕ) (entry : FragmentEntry τ) (jiffies : ℕ) :
    Bool :=
  decide (jiffies > entry.firstFragTime + 2 * hz)

/-- The loop of `ieee80211_reassemble_find`, from the youngest entry to the
oldest. -/
def reassembleFindLoop (hz frag seq rxQueue : ℕ) (hdr : Ieee80211Hdr)
    (jiffies : ℕ) : ℕ → ℕ → (ℕ → FragmentEntry τ) →
    (ℕ → FragmentEntry τ) × Option ℕ
  | 0, _, entries => (entries, none)
  | n + 1, idx, entries =>
      let idx := if idx = 0 then 3 else idx - 1
      if !(entries idx).continuedBy frag seq rxQueue hdr then
        reassembleFindLoop hz frag seq rxQueue hdr jiffies n idx entries
      else if (entries idx).expired hz jiffies then
        reassembleFindLoop hz frag seq rxQueue hdr jiffies n idx
          (Function.update entries idx (entries idx).purge)
      else
        (entries, some idx)

def ieee80211ReassembleFind (hz : ℕ) (cache : FragmentCache τ)
    (frag seq rxQueue : ℕ) (hdr : Ieee80211Hdr) (jiffies : ℕ) :
    FragmentCache τ × Option ℕ :=
  let found := reassembleFindLoop hz frag seq rxQueue hdr jiffies 4 cache.next
    cache.entries
  ({ cache with entries := found.1 }, found.2)

def requiresSequentialPn (key : Option RxKey) (hdr : Ieee80211Hdr) : Bool :=
  match key with
  | some { cipher := .aead _, .. } => hdr.hasProtected
  | _ => false

theorem requiresSequentialPn_iff {key : Option RxKey} {hdr : Ieee80211Hdr} :
    requiresSequentialPn key hdr = true ↔
      ∃ rxKey ∈ key, (∃ cipher, rxKey.cipher = .aead cipher) ∧
        hdr.hasProtected = true := by
  cases key with
  | none => simp [requiresSequentialPn]
  | some rxKey =>
      obtain ⟨color, tainted, cipher, aead, counters⟩ := rxKey
      cases cipher <;> simp [requiresSequentialPn]

theorem requiresSequentialPn_counters (rxKey : RxKey) (counters : AeadKey)
    (hdr : Ieee80211Hdr) :
    requiresSequentialPn (some { rxKey with counters := counters }) hdr =
      requiresSequentialPn (some rxKey) hdr := by
  obtain ⟨color, tainted, cipher, aead, old⟩ := rxKey
  cases cipher <;> rfl

theorem requiresSequentialPn_other {rxKey : RxKey}
    (hother : rxKey.cipher = .other) (hdr : Ieee80211Hdr) :
    requiresSequentialPn (some rxKey) hdr = false := by
  obtain ⟨color, tainted, cipher, aead, counters⟩ := rxKey
  cases hother
  rfl

/-- What the first fragment stores about its protection. -/
def FragmentEntry.protectFirst (entry : FragmentEntry τ) (rx : RxData τ) :
    FragmentEntry τ :=
  match rx.key with
  | none => entry
  | some key =>
      if requiresSequentialPn rx.key rx.skb.hdr then
        { entry with
          checkSequentialPn := true
          isProtected := true
          keyColor := key.color
          lastPn := key.counters.rxPn rx.skb.hdr.securityIdx }
      else if rx.skb.hdr.hasProtected || rx.decrypted then
        { entry with isProtected := true, keyColor := key.color }
      else
        entry

def PacketNumber.increment (pn : PacketNumber) : PacketNumber :=
  ⟨ByteOrder.increment pn.bytes, by
    rw [ByteOrder.increment_length, pn.length_eq]⟩

theorem PacketNumber.value_increment (pn : PacketNumber) :
    pn.increment.value = (pn.value + 1) % 2 ^ 48 := by
  have hvalue := ByteOrder.bigEndian_increment pn.bytes
  rw [pn.length_eq] at hvalue
  exact hvalue

/-- The checks of a later fragment; what is left is the packet number the
entry keeps. -/
def FragmentEntry.checkLater (entry : FragmentEntry τ) (rx : RxData τ) :
    Except DropReason PacketNumber :=
  if entry.checkSequentialPn then
    match rx.key with
    | none => .error .nonseqPn
    | some key =>
        if !requiresSequentialPn rx.key rx.skb.hdr then
          .error .nonseqPn
        else if entry.keyColor ≠ key.color then
          .error .badKeyColor
        else if entry.lastPn.increment.memcmp rx.pn ≠ 0 then
          .error .replay
        else
          .ok entry.lastPn.increment
  else if entry.isProtected then
    match rx.key with
    | none => .error .expectDefragProt
    | some key =>
        if (!rx.skb.hdr.hasProtected && !rx.decrypted) ||
            decide (key.color ≠ entry.keyColor) then
          .error .expectDefragProt
        else if entry.keyColor ≠ key.color && rx.decrypted then
          .error .badKeyColor
        else
          .ok entry.lastPn
  else
    .ok entry.lastPn

/-- The later fragment at the end of the list. -/
def FragmentEntry.append (entry : FragmentEntry τ) (rx : RxData τ)
    (pn : PacketNumber) : FragmentEntry τ :=
  { entry with
    skbList := entry.skbList ++ [rx.skb]
    lastFrag := rx.skb.hdr.frag
    -- a u16
    extraLen := (entry.extraLen + rx.skb.body.length) % 65536
    lastPn := pn }

/-- The first frame with the bodies of the others behind its own. -/
def FragmentSkb.merge (first : FragmentSkb τ) (rest : List (FragmentSkb τ)) :
    FragmentSkb τ :=
  { first with body := first.body ++ rest.flatMap FragmentSkb.body }

/-- The last fragment has come: the list is taken out of the entry. -/
def FragmentEntry.complete (entry : FragmentEntry τ) (expands : Bool) :
    DefragOutcome τ :=
  match entry.skbList with
  | [] => .overPanic
  | first :: rest =>
      let short := decide (first.tailroom < entry.extraLen)
      let room := if short then first.tailroom + entry.extraLen
        else first.tailroom
      if short && !expands then
        .dropped .oom
      else if room < (rest.flatMap FragmentSkb.body).length then
        .overPanic
      else
        .completed (first.merge rest)

/-- The first fragment of a new frame. -/
def defragmentFirst (cache : FragmentCache τ) (rx : RxData τ) (jiffies : ℕ) :
    FragmentCache τ :=
  let added := ieee80211ReassembleAdd cache rx.skb.hdr.frag rx.skb.hdr.seq
    rx.skb.hdr.seqnoIdx rx.skb jiffies
  { added with
    entries := Function.update added.entries cache.next
      ((added.entries cache.next).protectFirst rx) }

/-- A fragment for a frame that should already be pending. -/
def defragmentLater (hz : ℕ) (cache : FragmentCache τ) (rx : RxData τ)
    (jiffies : ℕ) : DefragOutcome τ × FragmentCache τ :=
  let hdr := rx.skb.hdr
  let found := ieee80211ReassembleFind hz cache hdr.frag hdr.seq hdr.seqnoIdx
    hdr jiffies
  match found.2 with
  | none => (.dropped .unspecified, found.1)
  | some idx =>
      let entry := found.1.entries idx
      match entry.checkLater rx with
      | .error reason => (.dropped reason, found.1)
      | .ok pn =>
          let entry := entry.append rx pn
          if hdr.hasMorefrags then
            (.queued, { found.1 with
              entries := Function.update found.1.entries idx entry })
          else
            (entry.complete rx.expands, { found.1 with
              entries := Function.update found.1.entries idx entry.purge })

def ieee80211RxHDefragment (hz : ℕ) (cache : FragmentCache τ) (rx : RxData τ)
    (jiffies : ℕ) : DefragOutcome τ × FragmentCache τ :=
  let hdr := rx.skb.hdr
  if hdr.isCtl || hdr.isExt then
    (.passed, cache)
  else if !hdr.hasMorefrags && decide (hdr.frag = 0) then
    (.passed, cache)
  else if hdr.isMulticast then
    (.dropped .unspecified, cache)
  else if !rx.linearizes then
    (.dropped .oom, cache)
  else if hdr.frag = 0 then
    (.queued, defragmentFirst cache rx jiffies)
  else
    defragmentLater hz cache rx jiffies

/-! ## The lookup -/

theorem FragmentEntry.continuedBy_purge (entry : FragmentEntry τ)
    (frag seq rxQueue : ℕ) (hdr : Ieee80211Hdr) :
    entry.purge.continuedBy frag seq rxQueue hdr = false := rfl

theorem FragmentEntry.continuedBy_iff {entry : FragmentEntry τ}
    {frag seq rxQueue : ℕ} {hdr : Ieee80211Hdr} :
    entry.continuedBy frag seq rxQueue hdr = true ↔
      ∃ first rest, entry.skbList = first :: rest ∧ entry.seq = seq ∧
        entry.rxQueue = rxQueue ∧ entry.lastFrag + 1 = frag ∧
        hdr.ftype = first.hdr.ftype ∧ hdr.addr1 = first.hdr.addr1 ∧
        hdr.addr2 = first.hdr.addr2 := by
  unfold FragmentEntry.continuedBy
  cases hlist : entry.skbList with
  | nil => simp
  | cons first rest =>
      simp only [Bool.and_eq_true, decide_eq_true_eq, List.cons.injEq]
      constructor
      · rintro ⟨⟨⟨⟨⟨hseq, hqueue⟩, hfrag⟩, htype⟩, haddr1⟩, haddr2⟩
        exact ⟨first, rest, ⟨rfl, rfl⟩, hseq, hqueue, hfrag, htype, haddr1,
          haddr2⟩
      · rintro ⟨_, _, ⟨rfl, rfl⟩, hseq, hqueue, hfrag, htype, haddr1, haddr2⟩
        exact ⟨⟨⟨⟨⟨hseq, hqueue⟩, hfrag⟩, htype⟩, haddr1⟩, haddr2⟩

/-- The lookup purges expired entries and nothing else, and what it finds is a
live entry that the frame continues. -/
structure Looked (hz frag seq rxQueue : ℕ) (hdr : Ieee80211Hdr) (jiffies : ℕ)
    (entries after : ℕ → FragmentEntry τ) (found : Option ℕ) : Prop where
  kept : ∀ i, after i = entries i ∨
    after i = (entries i).purge ∧ (entries i).expired hz jiffies = true
  found_lt : ∀ i ∈ found, i < 4
  found_kept : ∀ i ∈ found, after i = entries i
  found_continued : ∀ i ∈ found,
    (entries i).continuedBy frag seq rxQueue hdr = true

theorem reassembleFindLoop_spec (hz frag seq rxQueue : ℕ) (hdr : Ieee80211Hdr)
    (jiffies n : ℕ) {idx : ℕ} (entries : ℕ → FragmentEntry τ)
    (hidx : idx ≤ 4) :
    Looked hz frag seq rxQueue hdr jiffies entries
      (reassembleFindLoop hz frag seq rxQueue hdr jiffies n idx entries).1
      (reassembleFindLoop hz frag seq rxQueue hdr jiffies n idx entries).2 := by
  induction n generalizing idx entries with
  | zero =>
      exact ⟨fun _ => Or.inl rfl, by simp [reassembleFindLoop],
        by simp [reassembleFindLoop], by simp [reassembleFindLoop]⟩
  | succ n ih =>
      simp only [reassembleFindLoop]
      have hprev : (if idx = 0 then 3 else idx - 1) < 4 := by
        split_ifs <;> omega
      generalize (if idx = 0 then 3 else idx - 1) = prev at hprev ⊢
      by_cases hcontinued : (entries prev).continuedBy frag seq rxQueue hdr = true
      · rw [if_neg (by simp [hcontinued])]
        by_cases hexpired : (entries prev).expired hz jiffies = true
        · rw [if_pos hexpired]
          have hrest := ih (Function.update entries prev (entries prev).purge)
            hprev.le
          have hother : ∀ i ∈ (reassembleFindLoop hz frag seq rxQueue hdr jiffies
              n prev (Function.update entries prev (entries prev).purge)).2,
              i ≠ prev := by
            intro i hi heq
            have hbad := hrest.found_continued i hi
            rw [heq, Function.update_self,
              FragmentEntry.continuedBy_purge] at hbad
            cases hbad
          refine ⟨fun i => ?_, hrest.found_lt, fun i hi => ?_, fun i hi => ?_⟩
          · by_cases heq : i = prev
            · subst heq
              refine Or.inr ⟨?_, hexpired⟩
              have hkept := hrest.kept i
              rw [Function.update_self] at hkept
              rcases hkept with hkept | ⟨hkept, -⟩ <;> exact hkept
            · have hkept := hrest.kept i
              rwa [Function.update_of_ne heq] at hkept
          · rw [hrest.found_kept i hi, Function.update_of_ne (hother i hi)]
          · have hfound := hrest.found_continued i hi
            rwa [Function.update_of_ne (hother i hi)] at hfound
        · rw [if_neg hexpired]
          refine ⟨fun _ => Or.inl rfl, ?_, fun _ _ => rfl, ?_⟩
          · rintro i hi
            cases hi
            exact hprev
          · rintro i hi
            cases hi
            exact hcontinued
      · rw [if_pos (by simp [hcontinued])]
        exact ih entries hprev.le

theorem reassembleFind_spec (hz frag seq rxQueue : ℕ)
    (cache : FragmentCache τ) (hdr : Ieee80211Hdr) (jiffies : ℕ) :
    Looked hz frag seq rxQueue hdr jiffies cache.entries
      (ieee80211ReassembleFind hz cache frag seq rxQueue hdr jiffies).1.entries
      (ieee80211ReassembleFind hz cache frag seq rxQueue hdr jiffies).2 :=
  reassembleFindLoop_spec hz frag seq rxQueue hdr jiffies 4 cache.entries
    cache.next_lt.le

end Cache

end IwlwifiStack
