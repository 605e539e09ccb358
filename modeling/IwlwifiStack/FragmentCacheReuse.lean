import IwlwifiStack.DefragmentModel

/-!
# What a reused cache entry carries over

Two caches that agree on their live entries, run on the same fragments.
`ieee80211_reassemble_add` resets every field of the entry it reuses except
`last_pn`, `is_protected` and `key_color`; an unprotected first fragment does
not set them either.  `last_pn` is never read then, but the other two are: the
caches behave alike exactly when they agree on these two fields of their other
entries as well.
-/

namespace IwlwifiStack

section Runs

variable {τ : Type*}

def defragOutcomes (hz : ℕ) :
    FragmentCache τ → List (RxData τ × ℕ) → List (DefragOutcome τ)
  | _, [] => []
  | cache, (rx, jiffies) :: rest =>
      let result := ieee80211RxHDefragment hz cache rx jiffies
      result.1 :: defragOutcomes hz result.2 rest

/-- The fragments arrive from `now` on, one after the other. -/
def ArriveFrom : ℕ → List (RxData τ × ℕ) → Prop
  | _, [] => True
  | now, (_, jiffies) :: rest => now ≤ jiffies ∧ ArriveFrom jiffies rest

def FragmentEntry.Live (hz now : ℕ) (entry : FragmentEntry τ) : Prop :=
  entry.skbList ≠ [] ∧ entry.expired hz now = false

/-- The same live entries and the same next index. -/
structure SameLiveEntries (hz now : ℕ) (cache other : FragmentCache τ) :
    Prop where
  next : cache.next = other.next
  live : ∀ i < 4, (cache.entries i).Live hz now ∨
    (other.entries i).Live hz now → cache.entries i = other.entries i

def SameProtection (entry other : FragmentEntry τ) : Prop :=
  entry.isProtected = other.isProtected ∧
    (entry.isProtected = true → entry.keyColor = other.keyColor)

end Runs

/-! ## Related caches -/

section Related

variable {τ : Type*} {hz : ℕ}

/-- Equal in every field that is read. -/
structure SameEntry (entry other : FragmentEntry τ) : Prop where
  skbList : entry.skbList = other.skbList
  firstFragTime : entry.firstFragTime = other.firstFragTime
  seq : entry.seq = other.seq
  extraLen : entry.extraLen = other.extraLen
  lastFrag : entry.lastFrag = other.lastFrag
  rxQueue : entry.rxQueue = other.rxQueue
  checkSequentialPn : entry.checkSequentialPn = other.checkSequentialPn
  protection : SameProtection entry other
  keyColor : entry.checkSequentialPn = true → entry.keyColor = other.keyColor
  lastPn : entry.checkSequentialPn = true → entry.lastPn = other.lastPn

def RelatedEntries (hz now : ℕ) (entry other : FragmentEntry τ) : Prop :=
  (¬ entry.Live hz now ∧ ¬ other.Live hz now ∧ SameProtection entry other) ∨
    SameEntry entry other

structure RelatedCaches (hz now : ℕ) (cache other : FragmentCache τ) :
    Prop where
  next : cache.next = other.next
  entries : ∀ i < 4,
    RelatedEntries hz now (cache.entries i) (other.entries i)

theorem sameEntry_self (entry : FragmentEntry τ) : SameEntry entry entry :=
  ⟨rfl, rfl, rfl, rfl, rfl, rfl, rfl,
    ⟨rfl, fun _ => rfl⟩, fun _ => rfl, fun _ => rfl⟩

theorem RelatedEntries.protection {now : ℕ} {entry other : FragmentEntry τ}
    (hrelated : RelatedEntries hz now entry other) :
    SameProtection entry other := by
  rcases hrelated with ⟨-, -, hsame⟩ | hsame
  · exact hsame
  · exact hsame.protection

theorem FragmentEntry.not_live_mono {now later : ℕ} {entry : FragmentEntry τ}
    (hdead : ¬ entry.Live hz now) (hle : now ≤ later) :
    ¬ entry.Live hz later := by
  simp only [FragmentEntry.Live, FragmentEntry.expired, decide_eq_false_iff_not,
    not_and, not_not] at hdead ⊢
  intro hlist
  have hexpired := hdead hlist
  omega

theorem RelatedCaches.later {now later : ℕ} {cache other : FragmentCache τ}
    (hrelated : RelatedCaches hz now cache other) (hle : now ≤ later) :
    RelatedCaches hz later cache other := by
  refine ⟨hrelated.next, fun i hi => ?_⟩
  rcases hrelated.entries i hi with ⟨hdead, hdead', hsame⟩ | hsame
  · exact Or.inl ⟨FragmentEntry.not_live_mono hdead hle,
      FragmentEntry.not_live_mono hdead' hle, hsame⟩
  · exact Or.inr hsame

theorem FragmentEntry.purge_dead (now : ℕ) (entry : FragmentEntry τ) :
    ¬ entry.purge.Live hz now := by
  simp [FragmentEntry.Live, FragmentEntry.purge]

theorem SameEntry.purge {entry other : FragmentEntry τ}
    (hsame : SameEntry entry other) : SameEntry entry.purge other.purge :=
  { hsame with
    skbList := rfl
    protection := hsame.protection }

theorem SameEntry.continuedBy {entry other : FragmentEntry τ}
    (hsame : SameEntry entry other) (frag seq rxQueue : ℕ)
    (hdr : Ieee80211Hdr) :
    entry.continuedBy frag seq rxQueue hdr =
      other.continuedBy frag seq rxQueue hdr := by
  simp only [FragmentEntry.continuedBy, hsame.skbList, hsame.seq,
    hsame.rxQueue, hsame.lastFrag]

theorem SameEntry.expired {entry other : FragmentEntry τ}
    (hsame : SameEntry entry other) (now : ℕ) :
    entry.expired hz now = other.expired hz now := by
  simp only [FragmentEntry.expired, hsame.firstFragTime]

theorem FragmentEntry.skipped {now : ℕ} {entry : FragmentEntry τ}
    (hdead : ¬ entry.Live hz now) {frag seq rxQueue : ℕ} {hdr : Ieee80211Hdr}
    (hcontinued : entry.continuedBy frag seq rxQueue hdr = true) :
    entry.expired hz now = true := by
  obtain ⟨first, rest, hlist, -⟩ := FragmentEntry.continuedBy_iff.mp hcontinued
  by_contra hexpired
  exact hdead ⟨by simp [hlist], by simpa using hexpired⟩

theorem reassembleFindLoop_hit {frag seq rxQueue : ℕ} {hdr : Ieee80211Hdr}
    {now n idx prev : ℕ} {entries : ℕ → FragmentEntry τ}
    (hprev : prev = if idx = 0 then 3 else idx - 1)
    (hcontinued : (entries prev).continuedBy frag seq rxQueue hdr = true)
    (hfresh : (entries prev).expired hz now = false) :
    reassembleFindLoop hz frag seq rxQueue hdr now (n + 1) idx entries =
      (entries, some prev) := by
  simp only [reassembleFindLoop, ← hprev]
  rw [if_neg (by simp [hcontinued]), if_neg (by simp [hfresh])]

theorem reassembleFindLoop_dead {frag seq rxQueue : ℕ} {hdr : Ieee80211Hdr}
    {now n idx prev : ℕ} {entries : ℕ → FragmentEntry τ}
    (hprev : prev = if idx = 0 then 3 else idx - 1)
    (hdead : ¬ (entries prev).Live hz now) :
    ∃ entry, (entry = entries prev ∨ entry = (entries prev).purge) ∧
      reassembleFindLoop hz frag seq rxQueue hdr now (n + 1) idx entries =
        reassembleFindLoop hz frag seq rxQueue hdr now n prev
          (Function.update entries prev entry) := by
  simp only [reassembleFindLoop, ← hprev]
  by_cases hcontinued : (entries prev).continuedBy frag seq rxQueue hdr = true
  · refine ⟨(entries prev).purge, Or.inr rfl, ?_⟩
    rw [if_neg (by simp [hcontinued]),
      if_pos (FragmentEntry.skipped hdead hcontinued)]
  · refine ⟨entries prev, Or.inl rfl, ?_⟩
    rw [if_pos (by simpa using hcontinued), Function.update_eq_self]

theorem FragmentEntry.not_live_of_purge {now : ℕ} {entry left : FragmentEntry τ}
    (hdead : ¬ entry.Live hz now) (hleft : left = entry ∨ left = entry.purge) :
    ¬ left.Live hz now := by
  rcases hleft with rfl | rfl
  · exact hdead
  · exact FragmentEntry.purge_dead now entry

theorem SameProtection.purge {entry other left left' : FragmentEntry τ}
    (hsame : SameProtection entry other)
    (hleft : left = entry ∨ left = entry.purge)
    (hleft' : left' = other ∨ left' = other.purge) :
    SameProtection left left' := by
  rcases hleft with rfl | rfl <;> rcases hleft' with rfl | rfl <;> exact hsame

theorem RelatedEntries.update {now : ℕ} {entries others : ℕ → FragmentEntry τ}
    (hrelated : ∀ i < 4, RelatedEntries hz now (entries i) (others i))
    {slot : ℕ} {entry other : FragmentEntry τ}
    (hslot : RelatedEntries hz now entry other) :
    ∀ i < 4, RelatedEntries hz now (Function.update entries slot entry i)
      (Function.update others slot other i) := by
  intro i hi
  by_cases heq : i = slot
  · subst heq
    simpa only [Function.update_self] using hslot
  · simpa only [Function.update_of_ne heq] using hrelated i hi

theorem reassembleFindLoop_related (frag seq rxQueue : ℕ) (hdr : Ieee80211Hdr)
    (now n : ℕ) {idx : ℕ} (hidx : idx ≤ 4)
    {entries others : ℕ → FragmentEntry τ}
    (hrelated : ∀ i < 4, RelatedEntries hz now (entries i) (others i)) :
    (reassembleFindLoop hz frag seq rxQueue hdr now n idx entries).2 =
        (reassembleFindLoop hz frag seq rxQueue hdr now n idx others).2 ∧
      (∀ i < 4, RelatedEntries hz now
        ((reassembleFindLoop hz frag seq rxQueue hdr now n idx entries).1 i)
        ((reassembleFindLoop hz frag seq rxQueue hdr now n idx others).1 i)) ∧
      ∀ i ∈ (reassembleFindLoop hz frag seq rxQueue hdr now n idx entries).2,
        SameEntry
          ((reassembleFindLoop hz frag seq rxQueue hdr now n idx entries).1 i)
          ((reassembleFindLoop hz frag seq rxQueue hdr now n idx others).1 i) := by
  induction n generalizing idx entries others with
  | zero => exact ⟨rfl, hrelated, by simp [reassembleFindLoop]⟩
  | succ n ih =>
      obtain ⟨prev, hprev⟩ : ∃ prev, prev = if idx = 0 then 3 else idx - 1 :=
        ⟨_, rfl⟩
      have hlt : prev < 4 := by
        rw [hprev]
        split_ifs <;> omega
      rcases hrelated prev hlt with ⟨hdead, hdead', hsame⟩ | hsame
      · obtain ⟨left, hleft, hloop⟩ := @reassembleFindLoop_dead _ _ frag
          seq rxQueue hdr _ n _ _ _ hprev hdead
        obtain ⟨left', hleft', hloop'⟩ := @reassembleFindLoop_dead _ _ frag
          seq rxQueue hdr _ n _ _ _ hprev hdead'
        rw [hloop, hloop']
        exact ih hlt.le (RelatedEntries.update hrelated
          (Or.inl ⟨FragmentEntry.not_live_of_purge hdead hleft,
            FragmentEntry.not_live_of_purge hdead' hleft',
            hsame.purge hleft hleft'⟩))
      · simp only [reassembleFindLoop, ← hprev,
          ← hsame.continuedBy frag seq rxQueue hdr, ← hsame.expired now]
        split_ifs with hcontinued hexpired
        · exact ih hlt.le hrelated
        · exact ih hlt.le (RelatedEntries.update hrelated (Or.inr hsame.purge))
        · refine ⟨rfl, hrelated, fun i hi => ?_⟩
          cases hi
          exact hsame

/-! ## One fragment -/

theorem SameEntry.checkLater {entry other : FragmentEntry τ}
    (hsame : SameEntry entry other) (rx : RxData τ) :
    (∃ reason, entry.checkLater rx = .error reason ∧
      other.checkLater rx = .error reason) ∨
    ∃ pn pn', entry.checkLater rx = .ok pn ∧ other.checkLater rx = .ok pn' ∧
      (entry.checkSequentialPn = true → pn = pn') := by
  have hcheck := hsame.checkSequentialPn
  have hprotected := hsame.protection.1
  unfold FragmentEntry.checkLater
  rw [← hcheck, ← hprotected]
  by_cases hseq : entry.checkSequentialPn = true
  · rw [if_pos hseq, if_pos hseq, ← hsame.keyColor hseq, ← hsame.lastPn hseq]
    cases rx.key with
    | none => exact Or.inl ⟨_, rfl, rfl⟩
    | some key =>
        simp only
        split_ifs
        · exact Or.inl ⟨_, rfl, rfl⟩
        · exact Or.inl ⟨_, rfl, rfl⟩
        · exact Or.inl ⟨_, rfl, rfl⟩
        · exact Or.inr ⟨_, _, rfl, rfl, fun _ => rfl⟩
  · rw [if_neg hseq, if_neg hseq]
    by_cases hprot : entry.isProtected = true
    · rw [if_pos hprot, if_pos hprot, ← hsame.protection.2 hprot]
      cases rx.key with
      | none => exact Or.inl ⟨_, rfl, rfl⟩
      | some key =>
          simp only
          split_ifs
          · exact Or.inl ⟨_, rfl, rfl⟩
          · exact Or.inl ⟨_, rfl, rfl⟩
          · exact Or.inr ⟨_, _, rfl, rfl, fun h => absurd h hseq⟩
    · rw [if_neg hprot, if_neg hprot]
      exact Or.inr ⟨_, _, rfl, rfl, fun h => absurd h hseq⟩

theorem SameEntry.append {entry other : FragmentEntry τ}
    (hsame : SameEntry entry other) (rx : RxData τ) {pn pn' : PacketNumber}
    (hpn : entry.checkSequentialPn = true → pn = pn') :
    SameEntry (entry.append rx pn) (other.append rx pn') :=
  { hsame with
    skbList := by simp only [FragmentEntry.append, hsame.skbList]
    lastFrag := rfl
    extraLen := by simp only [FragmentEntry.append, hsame.extraLen]
    lastPn := hpn
    protection := hsame.protection }

theorem SameEntry.complete {entry other : FragmentEntry τ}
    (hsame : SameEntry entry other) (expands : Bool) :
    entry.complete expands = other.complete expands := by
  simp only [FragmentEntry.complete, hsame.skbList, hsame.extraLen]

theorem SameProtection.afterFirst {entry other : FragmentEntry τ}
    (hsame : SameProtection entry other) (frag seq rxQueue : ℕ)
    (rx : RxData τ) (now : ℕ) :
    SameEntry ((entry.restart frag seq rxQueue rx.skb now).protectFirst rx)
      ((other.restart frag seq rxQueue rx.skb now).protectFirst rx) := by
  have hkept : SameEntry (entry.restart frag seq rxQueue rx.skb now)
      (other.restart frag seq rxQueue rx.skb now) :=
    ⟨rfl, rfl, rfl, rfl, rfl, rfl, rfl, hsame,
      (fun h => by cases h), (fun h => by cases h)⟩
  unfold FragmentEntry.protectFirst
  cases rx.key with
  | none => exact hkept
  | some key =>
      simp only
      split_ifs
      · exact { hkept with
          checkSequentialPn := rfl
          protection := ⟨rfl, fun _ => rfl⟩
          keyColor := fun _ => rfl
          lastPn := fun _ => rfl }
      · exact { hkept with
          protection := ⟨rfl, fun _ => rfl⟩
          keyColor := fun h => by cases h
          lastPn := fun h => by cases h }
      · exact hkept

theorem RelatedCaches.afterFirst {now : ℕ} {cache other : FragmentCache τ}
    (hrelated : RelatedCaches hz now cache other) (rx : RxData τ) :
    RelatedCaches hz now (defragmentFirst cache rx now)
      (defragmentFirst other rx now) := by
  have hnext := hrelated.next
  refine ⟨by simp only [defragmentFirst, ieee80211ReassembleAdd, hnext], ?_⟩
  simp only [defragmentFirst, ieee80211ReassembleAdd, ← hnext,
    Function.update_idem, Function.update_self]
  exact RelatedEntries.update hrelated.entries (Or.inr
    ((hrelated.entries _ cache.next_lt).protection.afterFirst _ _ _ rx now))

theorem reassembleFind_related {now : ℕ} {cache other : FragmentCache τ}
    (hrelated : RelatedCaches hz now cache other) (frag seq rxQueue : ℕ)
    (hdr : Ieee80211Hdr) :
    (ieee80211ReassembleFind hz cache frag seq rxQueue hdr now).2 =
        (ieee80211ReassembleFind hz other frag seq rxQueue hdr now).2 ∧
      RelatedCaches hz now
        (ieee80211ReassembleFind hz cache frag seq rxQueue hdr now).1
        (ieee80211ReassembleFind hz other frag seq rxQueue hdr now).1 ∧
      ∀ i ∈ (ieee80211ReassembleFind hz cache frag seq rxQueue hdr now).2,
        SameEntry
          ((ieee80211ReassembleFind hz cache frag seq rxQueue hdr now).1.entries
            i)
          ((ieee80211ReassembleFind hz other frag seq rxQueue hdr now).1.entries
            i) := by
  obtain ⟨hfound, hentries, hidx⟩ := reassembleFindLoop_related frag seq rxQueue
    hdr now 4 cache.next_lt.le hrelated.entries
  simp only [ieee80211ReassembleFind, ← hrelated.next]
  exact ⟨hfound, ⟨rfl, hentries⟩, hidx⟩

theorem RelatedCaches.afterLater {now : ℕ} {cache other : FragmentCache τ}
    (hrelated : RelatedCaches hz now cache other) (rx : RxData τ) :
    (defragmentLater hz cache rx now).1 = (defragmentLater hz other rx now).1 ∧
      RelatedCaches hz now (defragmentLater hz cache rx now).2
        (defragmentLater hz other rx now).2 := by
  obtain ⟨hfound, hafter, hidx⟩ := reassembleFind_related hrelated
    rx.skb.hdr.frag rx.skb.hdr.seq rx.skb.hdr.seqnoIdx rx.skb.hdr
  unfold defragmentLater
  simp only
  generalize ieee80211ReassembleFind hz cache rx.skb.hdr.frag rx.skb.hdr.seq
    rx.skb.hdr.seqnoIdx rx.skb.hdr now = result at hfound hafter hidx ⊢
  generalize ieee80211ReassembleFind hz other rx.skb.hdr.frag rx.skb.hdr.seq
    rx.skb.hdr.seqnoIdx rx.skb.hdr now = result' at hfound hafter hidx ⊢
  rw [← hfound]
  cases hslot : result.2 with
  | none => exact ⟨rfl, hafter⟩
  | some idx =>
      simp only
      have hsame := hidx idx hslot
      rcases hsame.checkLater rx with
        ⟨reason, hleft, hright⟩ | ⟨pn, pn', hleft, hright, hpn⟩
      · rw [hleft, hright]
        exact ⟨rfl, hafter⟩
      · rw [hleft, hright]
        simp only
        have happend := hsame.append rx hpn
        split_ifs
        · exact ⟨rfl, hafter.next, RelatedEntries.update hafter.entries (Or.inr happend)⟩
        · exact ⟨happend.complete _, hafter.next,
            RelatedEntries.update hafter.entries (Or.inr happend.purge)⟩

theorem RelatedCaches.afterFragment {now : ℕ} {cache other : FragmentCache τ}
    (hrelated : RelatedCaches hz now cache other) (rx : RxData τ) :
    (ieee80211RxHDefragment hz cache rx now).1 =
        (ieee80211RxHDefragment hz other rx now).1 ∧
      RelatedCaches hz now (ieee80211RxHDefragment hz cache rx now).2
        (ieee80211RxHDefragment hz other rx now).2 := by
  unfold ieee80211RxHDefragment
  simp only
  split_ifs
  · exact ⟨rfl, hrelated⟩
  · exact ⟨rfl, hrelated⟩
  · exact ⟨rfl, hrelated⟩
  · exact ⟨rfl, hrelated⟩
  · exact ⟨rfl, hrelated.afterFirst rx⟩
  · exact hrelated.afterLater rx

theorem RelatedCaches.outcomes {now : ℕ} {cache other : FragmentCache τ}
    (hrelated : RelatedCaches hz now cache other)
    {events : List (RxData τ × ℕ)} (harrive : ArriveFrom now events) :
    defragOutcomes hz cache events = defragOutcomes hz other events := by
  induction events generalizing now cache other with
  | nil => rfl
  | cons event rest ih =>
      obtain ⟨rx, jiffies⟩ := event
      obtain ⟨hle, hrest⟩ := harrive
      obtain ⟨houtcome, hafter⟩ := (hrelated.later hle).afterFragment rx
      simp only [defragOutcomes]
      rw [houtcome, ih hafter hrest]

theorem SameLiveEntries.related {now : ℕ} {cache other : FragmentCache τ}
    (hsame : SameLiveEntries hz now cache other)
    (hprotection : ∀ i < 4,
      SameProtection (cache.entries i) (other.entries i)) :
    RelatedCaches hz now cache other := by
  refine ⟨hsame.next, fun i hi => ?_⟩
  by_cases hlive : (cache.entries i).Live hz now ∨ (other.entries i).Live hz now
  · rw [hsame.live i hi hlive]
    exact Or.inr (sameEntry_self _)
  · rw [not_or] at hlive
    exact Or.inl ⟨hlive.1, hlive.2, hprotection i hi⟩

end Related

/-! ## Telling two entries apart -/

section Probes

variable {τ : Type*} [Inhabited τ] {hz : ℕ}

def fragmentHdr (frameControl frag : ℕ) : Ieee80211Hdr where
  frameControl := frameControl
  hdrlen := 24
  addr1 := [2, 0, 0, 0, 0, 1]
  addr2 := [2, 0, 0, 0, 0, 2]
  seqCtrl := frag
  qosCtl := 0

def emptyFragment (frameControl frag : ℕ) (key : Option RxKey) : RxData τ where
  skb :=
    { hdr := fragmentHdr frameControl frag
      body := []
      tailroom := 0
      tag := default }
  key := key
  decrypted := key.isSome
  pn := PacketNumber.zero
  linearizes := true
  expands := true

def plainFirst : RxData τ :=
  emptyFragment 0x0408 0 none

def plainLast : RxData τ :=
  emptyFragment 0x0008 1 none

def protectedLast (color : ℕ) : RxData τ :=
  emptyFragment 0x4008 1
    (some
      { color := color
        tainted := false
        cipher := .other
        aead := fun _ _ => none
        counters := ⟨fun _ => PacketNumber.zero, 0⟩ })

theorem plainFirst_queued (cache : FragmentCache τ) (now : ℕ) :
    ieee80211RxHDefragment hz cache plainFirst now =
      (.queued, ieee80211ReassembleAdd cache 0 0 16 plainFirst.skb now) := by
  have hdr : (plainFirst (τ := τ)).skb.hdr = fragmentHdr 0x0408 0 := rfl
  have hlinear : (plainFirst (τ := τ)).linearizes = true := rfl
  have hkey : (plainFirst (τ := τ)).key = none := rfl
  unfold ieee80211RxHDefragment
  simp only [hdr, hlinear]
  rw [if_neg (by decide), if_neg (by decide), if_neg (by decide),
    if_neg (by decide), if_pos (by decide)]
  have hindex : (fragmentHdr 0x0408 0).frag = 0 ∧
      (fragmentHdr 0x0408 0).seq = 0 ∧ (fragmentHdr 0x0408 0).seqnoIdx = 16 := by
    decide
  simp only [defragmentFirst, FragmentEntry.protectFirst, hkey,
    Function.update_eq_self, hdr, hindex]

theorem reassembleFind_reused (cache : FragmentCache τ) (now frameControl : ℕ)
    (htype : (fragmentHdr frameControl 1).ftype = 2) :
    ieee80211ReassembleFind hz
        (ieee80211ReassembleAdd cache 0 0 16 plainFirst.skb now) 1 0 16
        (fragmentHdr frameControl 1) now =
      (ieee80211ReassembleAdd cache 0 0 16 plainFirst.skb now,
        some cache.next) := by
  have hlt := cache.next_lt
  obtain ⟨next, hnext⟩ : ∃ next, next = (ieee80211ReassembleAdd cache 0 0 16
      (plainFirst (τ := τ)).skb now).next := ⟨_, rfl⟩
  have hwrap : next = if cache.next + 1 ≥ 4 then 0 else cache.next + 1 := hnext
  have hprev : cache.next = if next = 0 then 3 else next - 1 := by
    split_ifs at hwrap ⊢ <;> omega
  have hentry : (ieee80211ReassembleAdd cache 0 0 16 plainFirst.skb now).entries
      cache.next = (cache.entries cache.next).restart 0 0 16 plainFirst.skb
        now := Function.update_self _ _ _
  subst hnext
  unfold ieee80211ReassembleFind
  rw [reassembleFindLoop_hit hprev]
  · rw [hentry]
    have hfirst : (fragmentHdr frameControl 1).ftype =
        (fragmentHdr 0x0408 0).ftype := htype.trans (by decide)
    exact FragmentEntry.continuedBy_iff.mpr
      ⟨plainFirst.skb, [], rfl, rfl, rfl, rfl, hfirst, rfl, rfl⟩
  · rw [hentry]
    exact decide_eq_false (by simp [FragmentEntry.restart])

theorem last_afterFirst (cache : FragmentCache τ) (now frameControl : ℕ)
    (key : Option RxKey)
    (hcontrol : frameControl = 0x0008 ∨ frameControl = 0x4008) :
    (ieee80211RxHDefragment hz
        (ieee80211ReassembleAdd cache 0 0 16 plainFirst.skb now)
        (emptyFragment frameControl 1 key) now).1 =
      match ((cache.entries cache.next).restart 0 0 16 plainFirst.skb
          now).checkLater (emptyFragment frameControl 1 key) with
      | .error reason => .dropped reason
      | .ok _ => .completed plainFirst.skb := by
  have hdr : (emptyFragment (τ := τ) frameControl 1 key).skb.hdr =
      fragmentHdr frameControl 1 := rfl
  have hlater : ieee80211RxHDefragment hz
      (ieee80211ReassembleAdd cache 0 0 16 plainFirst.skb now)
      (emptyFragment frameControl 1 key) now =
      defragmentLater hz
        (ieee80211ReassembleAdd cache 0 0 16 plainFirst.skb now)
        (emptyFragment frameControl 1 key) now := by
    have hlinear : (emptyFragment (τ := τ) frameControl 1 key).linearizes =
      true := rfl
    unfold ieee80211RxHDefragment
    simp only [hdr, hlinear]
    rcases hcontrol with rfl | rfl <;>
      rw [if_neg (by decide), if_neg (by decide), if_neg (by decide),
        if_neg (by decide), if_neg (by decide)]
  have hfields : (fragmentHdr frameControl 1).ftype = 2 ∧
      (fragmentHdr frameControl 1).frag = 1 ∧
      (fragmentHdr frameControl 1).seq = 0 ∧
      (fragmentHdr frameControl 1).seqnoIdx = 16 ∧
      (fragmentHdr frameControl 1).hasMorefrags = false := by
    rcases hcontrol with rfl | rfl <;> decide
  obtain ⟨htype, hfrag, hseq, hindex, hlast⟩ := hfields
  rw [hlater]
  unfold defragmentLater
  simp only [hdr, hfrag, hseq, hindex, hlast,
    reassembleFind_reused cache now frameControl htype]
  have hentry : (ieee80211ReassembleAdd cache 0 0 16 plainFirst.skb now).entries
      cache.next = (cache.entries cache.next).restart 0 0 16 plainFirst.skb
        now := Function.update_self _ _ _
  rw [hentry]
  cases ((cache.entries cache.next).restart 0 0 16 plainFirst.skb now).checkLater
      (emptyFragment frameControl 1 key) with
  | error reason => rfl
  | ok pn => rfl

theorem plainLast_afterFirst (cache : FragmentCache τ) (now : ℕ) :
    (ieee80211RxHDefragment hz
        (ieee80211ReassembleAdd cache 0 0 16 plainFirst.skb now)
        plainLast now).1 =
      if (cache.entries cache.next).isProtected then
        .dropped .expectDefragProt
      else
        .completed plainFirst.skb := by
  rw [plainLast, last_afterFirst cache now _ _ (Or.inl rfl)]
  unfold FragmentEntry.checkLater FragmentEntry.restart
  cases (cache.entries cache.next).isProtected <;> rfl

theorem protectedLast_afterFirst (cache : FragmentCache τ) (now color : ℕ)
    (hprotected : (cache.entries cache.next).isProtected = true) :
    (ieee80211RxHDefragment hz
        (ieee80211ReassembleAdd cache 0 0 16 plainFirst.skb now)
        (protectedLast color) now).1 =
      if color = (cache.entries cache.next).keyColor then
        .completed plainFirst.skb
      else
        .dropped .expectDefragProt := by
  rw [protectedLast, last_afterFirst cache now _ _ (Or.inr rfl)]
  unfold FragmentEntry.checkLater FragmentEntry.restart
  rw [hprotected]
  have hfc : (fragmentHdr 0x4008 1).hasProtected = true := by decide
  by_cases hcolor : color = (cache.entries cache.next).keyColor
  · simp [emptyFragment, hfc, hcolor]
  · simp [emptyFragment, hfc, hcolor]

theorem next_distinguished {cache other : FragmentCache τ} (now : ℕ)
    (hnext : cache.next = other.next)
    (hdiffer : ¬ SameProtection (cache.entries cache.next)
      (other.entries cache.next)) :
    ∃ events, ArriveFrom now events ∧
      defragOutcomes hz cache events ≠ defragOutcomes hz other events := by
  suffices hlast : ∃ last : RxData τ,
      (ieee80211RxHDefragment hz
          (ieee80211ReassembleAdd cache 0 0 16 plainFirst.skb now) last now).1 ≠
        (ieee80211RxHDefragment hz
          (ieee80211ReassembleAdd other 0 0 16 plainFirst.skb now) last
          now).1 by
    obtain ⟨last, hlast⟩ := hlast
    refine ⟨[(plainFirst, now), (last, now)], ⟨le_rfl, le_rfl, trivial⟩, ?_⟩
    simp only [defragOutcomes, plainFirst_queued, ne_eq, List.cons.injEq,
      true_and, and_true]
    exact hlast
  by_cases hprotected : (cache.entries cache.next).isProtected =
      (other.entries cache.next).isProtected
  · have hset : (cache.entries cache.next).isProtected = true ∧
        (cache.entries cache.next).keyColor ≠
          (other.entries cache.next).keyColor := by
      by_contra hcolor
      exact hdiffer ⟨hprotected, fun hset =>
        not_not.mp fun hne => hcolor ⟨hset, hne⟩⟩
    refine ⟨protectedLast (cache.entries cache.next).keyColor, ?_⟩
    rw [protectedLast_afterFirst cache now _ hset.1,
      protectedLast_afterFirst other now _
        (by rw [← hnext, ← hprotected]; exact hset.1),
      if_pos rfl, ← hnext, if_neg hset.2]
    exact fun h => by cases h
  · refine ⟨plainLast, ?_⟩
    rw [plainLast_afterFirst, plainLast_afterFirst, ← hnext]
    cases hleft : (cache.entries cache.next).isProtected <;>
      cases hright : (other.entries cache.next).isProtected <;>
      simp_all

theorem entry_distinguished (now distance : ℕ) (hdistance : distance < 4)
    {cache other : FragmentCache τ} (hnext : cache.next = other.next)
    (hdiffer : ¬ SameProtection (cache.entries ((cache.next + distance) % 4))
      (other.entries ((cache.next + distance) % 4))) :
    ∃ events, ArriveFrom now events ∧
      defragOutcomes hz cache events ≠ defragOutcomes hz other events := by
  induction distance generalizing cache other with
  | zero =>
      rw [Nat.add_zero, Nat.mod_eq_of_lt cache.next_lt] at hdiffer
      exact next_distinguished now hnext hdiffer
  | succ distance ih =>
      have hlt := cache.next_lt
      have hslot : (cache.next + (distance + 1)) % 4 ≠ cache.next := by omega
      have hlater : ((if cache.next + 1 ≥ 4 then 0 else cache.next + 1) +
          distance) % 4 = (cache.next + (distance + 1)) % 4 := by
        split_ifs <;> omega
      obtain ⟨events, harrive, houtcomes⟩ := @ih (by omega)
        (ieee80211ReassembleAdd cache 0 0 16 plainFirst.skb now)
        (ieee80211ReassembleAdd other 0 0 16 plainFirst.skb now)
        (by simp only [ieee80211ReassembleAdd, hnext]) (by
          simp only [ieee80211ReassembleAdd, hlater, ← hnext,
            Function.update_of_ne hslot]
          exact hdiffer)
      refine ⟨(plainFirst, now) :: events, ⟨le_rfl, harrive⟩, ?_⟩
      simp only [defragOutcomes, plainFirst_queued, ne_eq, List.cons.injEq,
        true_and]
      exact houtcomes

/-- Caches with the same live entries answer every sequence of fragments alike
exactly when their other entries agree on the protection fields. -/
theorem defragOutcomes_eq_iff {now : ℕ} {cache other : FragmentCache τ}
    (hsame : SameLiveEntries hz now cache other) :
    (∀ events, ArriveFrom now events →
      defragOutcomes hz cache events = defragOutcomes hz other events) ↔
      ∀ i < 4, SameProtection (cache.entries i) (other.entries i) := by
  constructor
  · intro hequal i hi
    by_contra hdiffer
    have hslot : (cache.next + (i + 4 - cache.next) % 4) % 4 = i := by
      have hlt := cache.next_lt
      omega
    obtain ⟨events, harrive, houtcomes⟩ := @entry_distinguished _ _ hz now
      ((i + 4 - cache.next) % 4) (Nat.mod_lt _ (by norm_num)) _ _ hsame.next
      (by rwa [hslot])
    exact houtcomes (hequal events harrive)
  · intro hprotection events harrive
    exact (hsame.related hprotection).outcomes harrive

end Probes

/-! ## A new station's cache after one frame -/

section Samples

def cacheAfter (first last : RxData Unit) (jiffies : ℕ) : FragmentCache Unit :=
  let queued := ieee80211RxHDefragment 100 (ieee80211InitFragCache Unit) first
    jiffies
  (ieee80211RxHDefragment 100 queued.2 last jiffies).2

def protectedFirst (color : ℕ) : RxData Unit :=
  { (protectedLast color : RxData Unit) with
    skb :=
      { (protectedLast color : RxData Unit).skb with
        hdr := fragmentHdr 0x4408 0 } }

theorem cacheAfter_dead (first last : RxData Unit) (jiffies now : ℕ)
    (hempty : ∀ i < 4, ((cacheAfter first last jiffies).entries i).skbList = []) :
    ∀ i < 4, ¬ ((cacheAfter first last jiffies).entries i).Live 100 now :=
  fun i hi hlive => hlive.1 (hempty i hi)

/-- The sequence number and the time of the earlier frame do not matter. -/
theorem defragOutcomes_eq_plain :
    SameLiveEntries 100 300 (cacheAfter plainFirst plainLast 0)
        (cacheAfter plainFirst plainLast 200) ∧
      ∀ events : List (RxData Unit × ℕ), ArriveFrom 300 events →
        defragOutcomes 100 (cacheAfter plainFirst plainLast 0) events =
          defragOutcomes 100 (cacheAfter plainFirst plainLast 200) events := by
  have hdead := cacheAfter_dead plainFirst plainLast 0 300 (by decide +kernel)
  have hdead' := cacheAfter_dead plainFirst plainLast 200 300
    (by decide +kernel)
  have hsame : SameLiveEntries 100 300 (cacheAfter plainFirst plainLast 0)
      (cacheAfter plainFirst plainLast 200) := by
    refine ⟨by decide +kernel, fun i hi hlive => ?_⟩
    rcases hlive with hlive | hlive
    · exact absurd hlive (hdead i hi)
    · exact absurd hlive (hdead' i hi)
  refine ⟨hsame, (defragOutcomes_eq_iff hsame).mpr fun i hi => ⟨?_, ?_⟩⟩
  · revert i
    decide +kernel
  · revert i
    decide +kernel

/-- After a protected frame the first entry is still marked protected: a plain
frame that later lands there is dropped, which it is not after a plain one. -/
theorem defragOutcomes_depend_on_history :
    let events : List (RxData Unit × ℕ) :=
      [(plainFirst, 300), (plainFirst, 300), (plainFirst, 300),
        (plainFirst, 300), (plainLast, 300)]
    SameLiveEntries 100 300 (cacheAfter plainFirst plainLast 0)
        (cacheAfter (protectedFirst 1) (protectedLast 1) 0) ∧
      ArriveFrom 300 events ∧
      defragOutcomes 100 (cacheAfter plainFirst plainLast 0) events =
        [.queued, .queued, .queued, .queued, .completed plainFirst.skb] ∧
      defragOutcomes 100 (cacheAfter (protectedFirst 1) (protectedLast 1) 0)
          events =
        [.queued, .queued, .queued, .queued, .dropped .expectDefragProt] := by
  refine ⟨⟨by decide +kernel, fun i hi hlive => ?_⟩,
    ⟨le_rfl, le_rfl, le_rfl, le_rfl, le_rfl, trivial⟩, by decide +kernel,
    by decide +kernel⟩
  rcases hlive with hlive | hlive
  · exact absurd hlive
      (cacheAfter_dead plainFirst plainLast 0 300 (by decide +kernel) i hi)
  · exact absurd hlive (cacheAfter_dead (protectedFirst 1) (protectedLast 1) 0 300
      (by decide +kernel) i hi)

end Samples

end IwlwifiStack
