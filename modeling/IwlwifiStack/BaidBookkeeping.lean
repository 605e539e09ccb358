import IwlwifiStack.MldBlockAck

/-!
# The BAID table of iwlmld

`iwl_mld_ampdu_rx_start`, `iwl_mld_ampdu_rx_stop` and
`iwl_mld_update_sta_baids` on the table of sessions, the number of sessions and
the BAID every station keeps for each TID.  The firmware's answers and the
outcome of the allocation come with every call.

Three things break the table.  A start may get a BAID that is in use, or come
for a session the last stop of which failed; a stop counts down before it looks
for the session; an update that fails half way keeps the masks it has changed.
-/

namespace IwlwifiStack

open ConditionedRun

section Model

variable {σ α : Type*} [DecidableEq σ]

/-- The fields of `struct iwl_mld` and, for every station, of
`struct iwl_mld_sta`. -/
structure MldBaids (σ α : Type*) where
  fwIdToBa : ℕ → Option (BaidData α)
  numRxBaSessions : ℕ
  tidToBaid : σ → ℕ → ℕ

namespace MldBaids

def setTidToBaid (mld : MldBaids σ α) (sta : σ) (tid baid : ℕ) :
    σ → ℕ → ℕ :=
  Function.update mld.tidToBaid sta
    (Function.update (mld.tidToBaid sta) tid baid)

/-- The result is `true` for 0 and `false` for an error. -/
def ampduRxStart (mld : MldBaids σ α) (sta : σ) (tid ssn bufSize staMask : ℕ)
    (allocates : Bool) (fwBaid : Option ℕ) : Bool × MldBaids σ α :=
  match (iwlMldAmpduRxStart mld.numRxBaSessions staMask tid ssn bufSize
      allocates fwBaid : Option (BaidData α)) with
  | none => (false, mld)
  | some data =>
      (true,
        { fwIdToBa := Function.update mld.fwIdToBa data.baid (some data)
          numRxBaSessions := mld.numRxBaSessions + 1
          tidToBaid := mld.setTidToBaid sta tid data.baid })

def ampduRxStop (mld : MldBaids σ α) (sta : σ) (tid : ℕ)
    (inHwRestart fwAccepts : Bool) : Bool × MldBaids σ α :=
  let baid := mld.tidToBaid sta tid
  if !inHwRestart && !fwAccepts then (false, mld)
  else
    let counted :=
      { mld with
        numRxBaSessions :=
          if mld.numRxBaSessions = 0 then 0 else mld.numRxBaSessions - 1 }
    match mld.fwIdToBa baid with
    | none => (false, counted)
    | some _ =>
        (true,
          { counted with fwIdToBa := Function.update mld.fwIdToBa baid none })

end MldBaids

/-- The loop of `iwl_mld_update_sta_baids` over the BAIDs that are left. -/
def updateBaids (oldStaMask newStaMask : ℕ) (fwAccepts : ℕ → Bool) :
    List ℕ → (ℕ → Option (BaidData α)) →
      Bool × (ℕ → Option (BaidData α))
  | [], table => (true, table)
  | baid :: rest, table =>
      match table baid with
      | none => updateBaids oldStaMask newStaMask fwAccepts rest table
      | some data =>
          if data.staMask &&& oldStaMask = 0 then
            updateBaids oldStaMask newStaMask fwAccepts rest table
          else if !fwAccepts baid then (false, table)
          else
            updateBaids oldStaMask newStaMask fwAccepts rest
              (Function.update table baid
                (some { data with staMask := newStaMask }))

def MldBaids.updateStaBaids (mld : MldBaids σ α) (oldStaMask newStaMask : ℕ)
    (inHwRestart : Bool) (fwAccepts : ℕ → Bool) : Bool × MldBaids σ α :=
  if inHwRestart then (true, mld)
  else
    let result := updateBaids oldStaMask newStaMask fwAccepts (List.range 32)
      mld.fwIdToBa
    (result.1, { mld with fwIdToBa := result.2 })

/-- One call.  `fwBaid` is the BAID the firmware answers, if it does. -/
inductive BaCall (σ : Type*)
  | start (sta : σ) (tid ssn bufSize staMask : ℕ) (allocates : Bool)
      (fwBaid : Option ℕ)
  | stop (sta : σ) (tid : ℕ) (inHwRestart fwAccepts : Bool)
  | update (oldStaMask newStaMask : ℕ) (inHwRestart : Bool)
      (fwAccepts : ℕ → Bool)

/-- The driver with a record of its calls: the station every BAID was last
started for, and the sessions whose last start and no later stop succeeded. -/
structure BaLedger (σ α : Type*) where
  mld : MldBaids σ α
  owner : ℕ → Option σ
  opened : σ → ℕ → Bool

namespace BaLedger

def initial : BaLedger σ α where
  mld := ⟨fun _ => none, 0, fun _ _ => 0⟩
  owner := fun _ => none
  opened := fun _ _ => false

def mark (r : BaLedger σ α) (sta : σ) (tid : ℕ) (state : Bool) :
    σ → ℕ → Bool :=
  Function.update r.opened sta (Function.update (r.opened sta) tid state)

/-- The output is the result of the call. -/
def step (r : BaLedger σ α) : BaCall σ → Option (BaLedger σ α × List Bool)
  | .start sta tid ssn bufSize staMask allocates fwBaid =>
      let result := r.mld.ampduRxStart sta tid ssn bufSize staMask allocates
        fwBaid
      if result.1 then
        some (⟨result.2,
          Function.update r.owner (result.2.tidToBaid sta tid) (some sta),
          r.mark sta tid true⟩, [true])
      else some ({ r with mld := result.2 }, [false])
  | .stop sta tid inHwRestart fwAccepts =>
      let result := r.mld.ampduRxStop sta tid inHwRestart fwAccepts
      if result.1 then
        some ({ r with mld := result.2, opened := r.mark sta tid false },
          [true])
      else some ({ r with mld := result.2 }, [false])
  | .update oldStaMask newStaMask inHwRestart fwAccepts =>
      let result := r.mld.updateStaBaids oldStaMask newStaMask inHwRestart
        fwAccepts
      some ({ r with mld := result.2 }, [result.1])

def Affected (r : BaLedger σ α) (oldStaMask baid : ℕ) : Prop :=
  baid < 32 ∧ ∃ data, r.mld.fwIdToBa baid = some data ∧
    data.staMask &&& oldStaMask ≠ 0

/-- A start that comes so far gets a free BAID for a session that is not open;
a stop the firmware accepts is for an open session; an update that fails has
changed no mask before. -/
def Orderly (r : BaLedger σ α) : BaCall σ → Prop
  | .start sta tid _ _ staMask allocates fwBaid =>
      r.mld.numRxBaSessions < 32 → staMask ≠ 0 → allocates = true →
        ∀ baid < 32, fwBaid = some baid →
          r.mld.fwIdToBa baid = none ∧ r.opened sta tid = false
  | .stop sta tid inHwRestart fwAccepts =>
      (inHwRestart || fwAccepts) = true →
        r.opened sta tid = true ∨ r.mld.numRxBaSessions = 0
  | .update oldStaMask newStaMask inHwRestart fwAccepts =>
      inHwRestart = false → ∀ baid, r.Affected oldStaMask baid →
        fwAccepts baid = false →
          (∃ earlier < baid, r.Affected oldStaMask earlier ∧
            fwAccepts earlier = false) ∨
          ∀ earlier < baid, ∀ data, r.mld.fwIdToBa earlier = some data →
            data.staMask &&& oldStaMask ≠ 0 → data.staMask = newStaMask

def sessions (table : ℕ → Option (BaidData α)) : Finset ℕ :=
  (Finset.range 32).filter fun baid => (table baid).isSome = true

/-- The counter is right, every session in the table is the one its station
names for its TID, and every open session is in the table. -/
structure Bookkept (r : BaLedger σ α) : Prop where
  counted : r.mld.numRxBaSessions = (sessions r.mld.fwIdToBa).card
  entry_named : ∀ baid data, r.mld.fwIdToBa baid = some data →
    baid < 32 ∧ data.baid = baid ∧ ∃ sta, r.owner baid = some sta ∧
      r.opened sta data.tid = true ∧ r.mld.tidToBaid sta data.tid = baid
  session_named : ∀ sta tid, r.opened sta tid = true →
    ∃ data, r.mld.fwIdToBa (r.mld.tidToBaid sta tid) = some data ∧
      data.tid = tid ∧ r.owner (r.mld.tidToBaid sta tid) = some sta

/-- A call that fails leaves the table with its masks, the counter and the
BAIDs of the stations. -/
def FailureKeeps (r : BaLedger σ α) (call : BaCall σ) : Prop :=
  ∀ after, r.step call = some (after, [false]) → after.mld = r.mld

end BaLedger

end Model

/-! ## The number of sessions -/

section Counts

variable {α : Type*} {table : ℕ → Option (BaidData α)}

theorem mem_sessions {baid : ℕ} :
    baid ∈ BaLedger.sessions table ↔ baid < 32 ∧ (table baid).isSome = true := by
  rw [BaLedger.sessions, Finset.mem_filter, Finset.mem_range]

theorem sessions_update_some {baid : ℕ} (hlt : baid < 32)
    (data : BaidData α) :
    BaLedger.sessions (Function.update table baid (some data)) =
      insert baid (BaLedger.sessions table) := by
  ext other
  rw [Finset.mem_insert, mem_sessions, mem_sessions]
  by_cases hsame : other = baid
  · simp [hsame, hlt]
  · simp [hsame]

theorem sessions_update_none (baid : ℕ) :
    BaLedger.sessions (Function.update table baid none) =
      (BaLedger.sessions table).erase baid := by
  ext other
  rw [Finset.mem_erase, mem_sessions, mem_sessions]
  by_cases hsame : other = baid
  · simp [hsame]
  · simp [hsame]

theorem card_sessions_add {baid : ℕ} (hlt : baid < 32)
    (hfree : table baid = none) (data : BaidData α) :
    (BaLedger.sessions (Function.update table baid (some data))).card =
      (BaLedger.sessions table).card + 1 := by
  have hnew : baid ∉ BaLedger.sessions table := by
    intro hmem
    have hsome := (mem_sessions.mp hmem).2
    rw [hfree] at hsome
    cases hsome
  rw [sessions_update_some hlt, Finset.card_insert_of_notMem hnew]

theorem card_sessions_remove {baid : ℕ} (hlt : baid < 32)
    {data : BaidData α} (hused : table baid = some data) :
    (BaLedger.sessions (Function.update table baid none)).card + 1 =
      (BaLedger.sessions table).card := by
  have hold : baid ∈ BaLedger.sessions table := by
    rw [mem_sessions, hused]
    exact ⟨hlt, rfl⟩
  rw [sessions_update_none]
  exact Finset.card_erase_add_one hold

end Counts

/-! ## The loop of an update -/

section Update

variable {α : Type*} {oldStaMask newStaMask : ℕ} {fwAccepts : ℕ → Bool}

def remask (oldStaMask newStaMask : ℕ) (data : BaidData α) : BaidData α :=
  if data.staMask &&& oldStaMask = 0 then data
  else { data with staMask := newStaMask }

/-- The loop has ended at `baid`, behind the entries `front` it has changed. -/
structure EndedAt (oldStaMask newStaMask : ℕ) (fwAccepts : ℕ → Bool)
    (table after : ℕ → Option (BaidData α)) (front : List ℕ) (baid : ℕ) :
    Prop where
  refused : fwAccepts baid = false
  affected : ∃ data, table baid = some data ∧ data.staMask &&& oldStaMask ≠ 0
  accepted : ∀ earlier ∈ front, ∀ data, table earlier = some data →
    data.staMask &&& oldStaMask ≠ 0 → fwAccepts earlier = true
  changed : ∀ other, after other =
    if other ∈ front then (table other).map (remask oldStaMask newStaMask)
    else table other

theorem updateBaids_entry (baids : List ℕ)
    (table : ℕ → Option (BaidData α)) (baid : ℕ) :
    (updateBaids oldStaMask newStaMask fwAccepts baids table).2 baid =
        table baid ∨
      (updateBaids oldStaMask newStaMask fwAccepts baids table).2 baid =
        (table baid).map fun data => { data with staMask := newStaMask } := by
  induction baids generalizing table with
  | nil => exact Or.inl rfl
  | cons first rest ih =>
      rw [updateBaids]
      cases hfirst : table first with
      | none => exact ih table
      | some data =>
          simp only
          split_ifs with hother hrefused
          · exact ih table
          · exact Or.inl rfl
          · have hrest := ih (Function.update table first
              (some { data with staMask := newStaMask }))
            by_cases hsame : baid = first
            · right
              rw [hsame, Function.update_self] at hrest
              rw [hsame, hfirst]
              rcases hrest with hkept | hchanged
              · exact hkept
              · exact hchanged
            · rw [Function.update_of_ne hsame] at hrest
              exact hrest

theorem updateBaids_endedAt {baids : List ℕ} (hnodup : baids.Nodup)
    {table : ℕ → Option (BaidData α)}
    (hfails : (updateBaids oldStaMask newStaMask fwAccepts baids table).1 =
      false) :
    ∃ front baid back, baids = front ++ baid :: back ∧
      EndedAt oldStaMask newStaMask fwAccepts table
        (updateBaids oldStaMask newStaMask fwAccepts baids table).2 front
        baid := by
  induction baids generalizing table with
  | nil => cases hfails
  | cons first rest ih =>
      rcases List.nodup_cons.mp hnodup with ⟨hnew, hrest⟩
      rw [updateBaids] at hfails ⊢
      cases hfirst : table first with
      | none =>
          simp only [hfirst] at hfails ⊢
          rcases ih hrest hfails with ⟨front, baid, back, hsplit, hended⟩
          refine ⟨first :: front, baid, back, by rw [hsplit]; rfl, ?_⟩
          constructor
          · exact hended.refused
          · exact hended.affected
          · intro earlier hearlier data hdata
            rcases List.mem_cons.mp hearlier with hsame | hin
            · rw [hsame, hfirst] at hdata
              cases hdata
            · exact hended.accepted earlier hin data hdata
          · intro other
            rw [hended.changed other]
            by_cases hsame : other = first
            · simp [hsame, hfirst]
            · simp [hsame]
      | some data =>
          simp only [hfirst] at hfails ⊢
          by_cases hother : data.staMask &&& oldStaMask = 0
          · rw [if_pos hother] at hfails ⊢
            rcases ih hrest hfails with ⟨front, baid, back, hsplit, hended⟩
            refine ⟨first :: front, baid, back, by rw [hsplit]; rfl, ?_⟩
            constructor
            · exact hended.refused
            · exact hended.affected
            · intro earlier hearlier data' hdata haffected
              rcases List.mem_cons.mp hearlier with hsame | hin
              · rw [hsame, hfirst] at hdata
                cases hdata
                exact absurd hother haffected
              · exact hended.accepted earlier hin data' hdata haffected
            · intro other
              rw [hended.changed other]
              by_cases hsame : other = first
              · simp [hsame, hfirst, remask, hother]
              · simp [hsame]
          · rw [if_neg hother] at hfails ⊢
            cases haccepts : fwAccepts first with
            | false =>
                refine ⟨[], first, rest, rfl, ?_⟩
                constructor
                · exact haccepts
                · exact ⟨data, hfirst, hother⟩
                · intro earlier hearlier
                  cases hearlier
                · intro other
                  rfl
            | true =>
                simp only [haccepts, Bool.not_true, Bool.false_eq_true,
                  if_false] at hfails ⊢
                rcases ih hrest hfails with ⟨front, baid, back, hsplit, hended⟩
                have hbehind : ∀ other ∈ rest, other ≠ first := by
                  intro other hmem hsame
                  rw [hsame] at hmem
                  exact hnew hmem
                have hfront : ∀ other ∈ front, other ≠ first := by
                  intro other hmem
                  exact hbehind other (hsplit ▸ List.mem_append_left _ hmem)
                have hbaid : baid ≠ first := by
                  apply hbehind
                  rw [hsplit]
                  exact List.mem_append_right _ (List.mem_cons_self)
                refine ⟨first :: front, baid, back, by rw [hsplit]; rfl, ?_⟩
                constructor
                · exact hended.refused
                · have haffected := hended.affected
                  rwa [Function.update_of_ne hbaid] at haffected
                · intro earlier hearlier data' hdata haffected
                  rcases List.mem_cons.mp hearlier with hsame | hin
                  · rw [hsame]
                    exact haccepts
                  · apply hended.accepted earlier hin data' _ haffected
                    rwa [Function.update_of_ne (hfront earlier hin)]
                · intro other
                  rw [hended.changed other]
                  by_cases hsame : other = first
                  · have hnot : first ∉ front := fun h => hfront first h rfl
                    simp [hsame, hfirst, remask, hother, hnot]
                  · simp [hsame]

/-- The loop changes nothing before it fails when all masks before the command
that is refused are the new one already. -/
theorem updateBaids_keeps {table : ℕ → Option (BaidData α)}
    (hfails : (updateBaids oldStaMask newStaMask fwAccepts (List.range 32)
      table).1 = false)
    (horderly : ∀ baid < 32, ∀ data, table baid = some data →
      data.staMask &&& oldStaMask ≠ 0 → fwAccepts baid = false →
        (∃ earlier < baid, (earlier < 32 ∧ ∃ data, table earlier = some data ∧
            data.staMask &&& oldStaMask ≠ 0) ∧ fwAccepts earlier = false) ∨
          ∀ earlier < baid, ∀ data, table earlier = some data →
            data.staMask &&& oldStaMask ≠ 0 → data.staMask = newStaMask) :
    (updateBaids oldStaMask newStaMask fwAccepts (List.range 32) table).2 =
      table := by
  rcases updateBaids_endedAt List.nodup_range hfails with
    ⟨front, baid, back, hsplit, hended⟩
  have hsorted := List.pairwise_lt_range (n := 32)
  rw [hsplit] at hsorted
  have hbefore : ∀ earlier ∈ front, earlier < baid := by
    intro earlier hearlier
    exact (List.pairwise_append.mp hsorted).2.2 earlier hearlier baid
      (List.mem_cons_self)
  have hafter : ∀ later ∈ back, baid < later :=
    (List.pairwise_cons.mp (List.pairwise_append.mp hsorted).2.1).1
  have hlt : baid < 32 := by
    rw [← List.mem_range, hsplit]
    exact List.mem_append_right _ (List.mem_cons_self)
  rcases hended.affected with ⟨data, hdata, haffected⟩
  rcases horderly baid hlt data hdata haffected hended.refused with
    ⟨earlier, hearlier, ⟨hsmall, data', hdata', haffected'⟩, hrefused⟩ | hnew
  · have hfront : earlier ∈ front := by
      rw [← List.mem_range, hsplit] at hsmall
      rcases List.mem_append.mp hsmall with hin | hrest
      · exact hin
      · rcases List.mem_cons.mp hrest with hsame | hback
        · omega
        · have hlater := hafter earlier hback
          omega
    have haccepted := hended.accepted earlier hfront data' hdata' haffected'
    rw [hrefused] at haccepted
    cases haccepted
  · funext other
    rw [hended.changed other]
    split_ifs with hfront
    · cases hother : table other with
      | none => rfl
      | some data' =>
          rw [Option.map_some, remask]
          split_ifs with hunaffected
          · rfl
          · have hmask := hnew other (hbefore other hfront) data' hother
              hunaffected
            rw [← hmask]
    · rfl

end Update

/-! ## What one call keeps -/

section Steps

variable {σ α : Type*} [DecidableEq σ]

theorem ampduRxStart_some {numRxBaSessions staMask tid ssn bufSize : ℕ}
    {allocates : Bool} {fwBaid : Option ℕ} {data : BaidData α}
    (hstart : iwlMldAmpduRxStart numRxBaSessions staMask tid ssn bufSize
      allocates fwBaid = some data) :
    numRxBaSessions < 32 ∧ staMask ≠ 0 ∧ allocates = true ∧
      data.baid < 32 ∧ fwBaid = some data.baid ∧ data.tid = tid := by
  unfold iwlMldAmpduRxStart at hstart
  split_ifs at hstart with hfull hmask halloc
  cases hfw : fwBaid with
  | none =>
      rw [hfw] at hstart
      cases hstart
  | some baid =>
      rw [hfw] at hstart
      simp only at hstart
      split_ifs at hstart with hrange
      rw [Option.some.injEq] at hstart
      rw [← hstart]
      exact ⟨by omega, hmask, by simpa using halloc, by simpa using hrange, rfl,
        rfl⟩

theorem updateTid_self {β : Type*} (f : σ → ℕ → β) (sta : σ)
    (tid : ℕ) (value : β) :
    Function.update f sta (Function.update (f sta) tid value) sta tid =
      value := by
  rw [Function.update_self, Function.update_self]

theorem updateTid_other {β : Type*} (f : σ → ℕ → β) {sta other : σ}
    {tid otherTid : ℕ} (value : β)
    (hother : ¬ (other = sta ∧ otherTid = tid)) :
    Function.update f sta (Function.update (f sta) tid value) other otherTid =
      f other otherTid := by
  by_cases hsta : other = sta
  · have htid : otherTid ≠ tid := fun h => hother ⟨hsta, h⟩
    rw [hsta, Function.update_self, Function.update_of_ne htid]
  · rw [Function.update_of_ne hsta]

namespace BaLedger

variable {r : BaLedger σ α}

theorem Bookkept.started (hbook : r.Bookkept) {sta : σ} {data : BaidData α}
    (hlt : data.baid < 32) (hfree : r.mld.fwIdToBa data.baid = none)
    (hclosed : r.opened sta data.tid = false) :
    Bookkept
      { mld :=
          { fwIdToBa := Function.update r.mld.fwIdToBa data.baid (some data)
            numRxBaSessions := r.mld.numRxBaSessions + 1
            tidToBaid := r.mld.setTidToBaid sta data.tid data.baid }
        owner := Function.update r.owner data.baid (some sta)
        opened := r.mark sta data.tid true } := by
  constructor
  · simp only
    rw [card_sessions_add hlt hfree, hbook.counted]
  · intro baid data' hdata
    simp only at hdata ⊢
    by_cases hsame : baid = data.baid
    · rw [hsame, Function.update_self, Option.some.injEq] at hdata
      rw [hsame, ← hdata, Function.update_self]
      exact ⟨hlt, rfl, sta, rfl, updateTid_self _ _ _ _,
        updateTid_self _ _ _ _⟩
    · rw [Function.update_of_ne hsame] at hdata
      rcases hbook.entry_named baid data' hdata with
        ⟨hsmall, hbaid, owner, howner, hopened, hnamed⟩
      have hother : ¬ (owner = sta ∧ data'.tid = data.tid) := by
        rintro ⟨rfl, htid⟩
        rw [htid, hclosed] at hopened
        cases hopened
      rw [Function.update_of_ne hsame]
      refine ⟨hsmall, hbaid, owner, howner, ?_, ?_⟩
      · rw [mark, updateTid_other _ _ hother]
        exact hopened
      · rw [MldBaids.setTidToBaid, updateTid_other _ _ hother]
        exact hnamed
  · intro other tid hopened
    simp only at hopened ⊢
    by_cases hsame : other = sta ∧ tid = data.tid
    · rw [hsame.1, hsame.2, MldBaids.setTidToBaid, updateTid_self,
        Function.update_self, Function.update_self]
      exact ⟨data, rfl, rfl, rfl⟩
    · rw [mark, updateTid_other _ _ hsame] at hopened
      rcases hbook.session_named other tid hopened with
        ⟨data', hdata, htid, howner⟩
      have hne : r.mld.tidToBaid other tid ≠ data.baid := by
        intro heq
        rw [heq, hfree] at hdata
        cases hdata
      rw [MldBaids.setTidToBaid, updateTid_other _ _ hsame,
        Function.update_of_ne hne, Function.update_of_ne hne]
      exact ⟨data', hdata, htid, howner⟩

theorem Bookkept.stopped (hbook : r.Bookkept) {sta : σ} {tid : ℕ}
    {data : BaidData α} (hopen : r.opened sta tid = true)
    (hdata : r.mld.fwIdToBa (r.mld.tidToBaid sta tid) = some data) :
    Bookkept
      { r with
        mld :=
          { r.mld with
            numRxBaSessions :=
              if r.mld.numRxBaSessions = 0 then 0
              else r.mld.numRxBaSessions - 1
            fwIdToBa := Function.update r.mld.fwIdToBa
              (r.mld.tidToBaid sta tid) none }
        opened := r.mark sta tid false } := by
  rcases hbook.session_named sta tid hopen with ⟨data', hdata', htid, howner⟩
  have hlt := (hbook.entry_named _ data hdata).1
  constructor
  · have hcard := card_sessions_remove hlt hdata
    have hcounted := hbook.counted
    simp only
    split_ifs with hzero <;> omega
  · intro baid other hother
    simp only at hother ⊢
    have hne : baid ≠ r.mld.tidToBaid sta tid := by
      intro hsame
      rw [hsame, Function.update_self] at hother
      cases hother
    rw [Function.update_of_ne hne] at hother
    rcases hbook.entry_named baid other hother with
      ⟨hsmall, hbaid, owner, hown, hopened, hnamed⟩
    refine ⟨hsmall, hbaid, owner, hown, ?_, hnamed⟩
    rw [mark, updateTid_other]
    · exact hopened
    · rintro ⟨rfl, hsame⟩
      rw [hsame] at hnamed
      exact hne hnamed.symm
  · intro other otherTid hopened
    simp only at hopened ⊢
    have hother : ¬ (other = sta ∧ otherTid = tid) := by
      rintro ⟨rfl, rfl⟩
      rw [mark, updateTid_self] at hopened
      cases hopened
    rw [mark, updateTid_other _ _ hother] at hopened
    rcases hbook.session_named other otherTid hopened with
      ⟨entry, hentry, hentryTid, hentryOwner⟩
    have hne : r.mld.tidToBaid other otherTid ≠ r.mld.tidToBaid sta tid := by
      intro hsame
      rw [hsame, hdata', Option.some.injEq] at hentry
      rw [hsame, howner, Option.some.injEq] at hentryOwner
      apply hother
      constructor
      · exact hentryOwner.symm
      · rw [← hentryTid, ← hentry, htid]
    rw [Function.update_of_ne hne]
    exact ⟨entry, hentry, hentryTid, hentryOwner⟩

omit [DecidableEq σ] in
theorem Bookkept.remasked (hbook : r.Bookkept) {newStaMask : ℕ}
    {table : ℕ → Option (BaidData α)}
    (htable : ∀ baid, table baid = r.mld.fwIdToBa baid ∨
      table baid = (r.mld.fwIdToBa baid).map fun data =>
        { data with staMask := newStaMask }) :
    Bookkept { r with mld := { r.mld with fwIdToBa := table } } := by
  have hsome : ∀ baid, (table baid).isSome =
      (r.mld.fwIdToBa baid).isSome := by
    intro baid
    rcases htable baid with heq | heq
    · rw [heq]
    · rw [heq, Option.isSome_map]
  constructor
  · have hsessions : sessions table = sessions r.mld.fwIdToBa := by
      ext baid
      rw [mem_sessions, mem_sessions, hsome]
    simp only
    rw [hsessions]
    exact hbook.counted
  · intro baid data hdata
    simp only at hdata ⊢
    rcases htable baid with heq | heq
    · rw [heq] at hdata
      exact hbook.entry_named baid data hdata
    · rw [heq, Option.map_eq_some_iff] at hdata
      rcases hdata with ⟨before, hbefore, rfl⟩
      exact hbook.entry_named baid before hbefore
  · intro sta tid hopened
    rcases hbook.session_named sta tid hopened with
      ⟨data, hdata, htid, howner⟩
    simp only
    rcases htable (r.mld.tidToBaid sta tid) with heq | heq
    · rw [heq]
      exact ⟨data, hdata, htid, howner⟩
    · rw [heq, hdata, Option.map_some]
      exact ⟨_, rfl, htid, howner⟩

omit [DecidableEq σ] in
theorem Bookkept.stop_finds (hbook : r.Bookkept) {sta : σ} {tid : ℕ}
    (horderly : r.opened sta tid = true ∨ r.mld.numRxBaSessions = 0) :
    (∃ data, r.opened sta tid = true ∧
        r.mld.fwIdToBa (r.mld.tidToBaid sta tid) = some data) ∨
      r.mld.numRxBaSessions = 0 ∧
        r.mld.fwIdToBa (r.mld.tidToBaid sta tid) = none := by
  rcases horderly with hopen | hzero
  · rcases hbook.session_named sta tid hopen with ⟨data, hdata, -⟩
    exact Or.inl ⟨data, hopen, hdata⟩
  · right
    constructor
    · exact hzero
    · cases hentry : r.mld.fwIdToBa (r.mld.tidToBaid sta tid) with
      | none => rfl
      | some data =>
          have hlt := (hbook.entry_named _ data hentry).1
          have hmem : r.mld.tidToBaid sta tid ∈ sessions r.mld.fwIdToBa := by
            rw [mem_sessions, hentry]
            exact ⟨hlt, rfl⟩
          have hpos := Finset.card_pos.mpr ⟨_, hmem⟩
          have hcounted := hbook.counted
          omega

theorem Bookkept.step (hbook : r.Bookkept) {call : BaCall σ}
    (horderly : r.Orderly call) {after : BaLedger σ α} {output : List Bool}
    (hstep : r.step call = some (after, output)) :
    after.Bookkept ∧ (output = [false] → after.mld = r.mld) := by
  cases call with
  | start sta tid ssn bufSize staMask allocates fwBaid =>
      simp only [BaLedger.step, MldBaids.ampduRxStart] at hstep
      cases hstart : (iwlMldAmpduRxStart r.mld.numRxBaSessions staMask tid ssn
          bufSize allocates fwBaid : Option (BaidData α)) with
      | none =>
          simp only [hstart, Bool.false_eq_true, if_false, Option.some.injEq,
            Prod.mk.injEq] at hstep
          rw [← hstep.1]
          exact ⟨hbook, fun _ => rfl⟩
      | some data =>
          rcases ampduRxStart_some hstart with
            ⟨hroom, hmask, halloc, hlt, hfw, htid⟩
          rcases horderly hroom hmask halloc data.baid hlt hfw with
            ⟨hfree, hclosed⟩
          rw [← htid] at hclosed
          simp only [hstart, if_true, Option.some.injEq, Prod.mk.injEq] at hstep
          rw [← hstep.1, ← hstep.2, MldBaids.setTidToBaid, updateTid_self,
            ← htid]
          constructor
          · exact hbook.started hlt hfree hclosed
          · intro hfailed
            cases hfailed
  | stop sta tid inHwRestart fwAccepts =>
      simp only [BaLedger.step, MldBaids.ampduRxStop] at hstep
      by_cases hrefused : (!inHwRestart && !fwAccepts) = true
      · simp only [if_pos hrefused, Bool.false_eq_true, if_false,
          Option.some.injEq, Prod.mk.injEq] at hstep
        rw [← hstep.1]
        exact ⟨hbook, fun _ => rfl⟩
      · have haccepted : (inHwRestart || fwAccepts) = true := by
          cases inHwRestart <;> cases fwAccepts <;> simp at hrefused ⊢
        simp only [if_neg hrefused] at hstep
        rcases hbook.stop_finds (horderly haccepted) with
          ⟨data, hopen, hdata⟩ | ⟨hzero, hnone⟩
        · simp only [hdata, if_true, Option.some.injEq, Prod.mk.injEq] at hstep
          rw [← hstep.1, ← hstep.2]
          constructor
          · exact hbook.stopped hopen hdata
          · intro hfailed
            cases hfailed
        · simp only [hnone, Bool.false_eq_true, if_false, Option.some.injEq,
            Prod.mk.injEq, if_pos hzero] at hstep
          have hsame : ({ r.mld with numRxBaSessions := 0 } : MldBaids σ α) =
              r.mld := by
            rw [← hzero]
          rw [← hstep.1, hsame]
          exact ⟨hbook, fun _ => rfl⟩
  | update oldStaMask newStaMask inHwRestart fwAccepts =>
      simp only [BaLedger.step, MldBaids.updateStaBaids, Option.some.injEq,
        Prod.mk.injEq] at hstep
      cases hrestart : inHwRestart with
      | true =>
          simp only [hrestart, if_true] at hstep
          rw [← hstep.1]
          exact ⟨hbook, fun _ => rfl⟩
      | false =>
          simp only [hrestart, Bool.false_eq_true, if_false] at hstep
          rw [← hstep.1, ← hstep.2]
          constructor
          · exact hbook.remasked (updateBaids_entry _ _)
          · intro hfailed
            have hfails := (List.cons.inj hfailed).1
            have hkept := updateBaids_keeps hfails
              fun baid hlt data hdata haffected hrefused =>
                horderly hrestart baid ⟨hlt, data, hdata, haffected⟩ hrefused
            simp only
            rw [hkept]

omit [DecidableEq σ] in
theorem initial_bookkept : (initial : BaLedger σ α).Bookkept := by
  constructor
  · simp [initial, sessions]
  · intro baid data hdata
    cases hdata
  · intro sta tid hopened
    cases hopened

/-- In every run of orderly calls the table is right in every state, and an
orderly call that fails changes nothing. -/
theorem baids_bookkept
    (hreach : Reachable BaLedger.step BaLedger.Orderly initial r) :
    r.Bookkept ∧ ∀ call, r.Orderly call → r.FailureKeeps call := by
  have hbook : r.Bookkept := hreach.invariant initial_bookkept
    fun _ _ _ _ hgood hallowed hstep => (hgood.step hallowed hstep).1
  constructor
  · exact hbook
  · intro call horderly after hstep
    exact (hbook.step horderly hstep).2 rfl

end BaLedger

end Steps

/-! ## Two sessions of one station -/

section Samples

/-- The station of mask 1 starts a session, for which the firmware answers
`baid`. -/
def startOn (tid baid : ℕ) : BaCall Bool :=
  .start false tid 0 64 1 true (some baid)

def oneSession : BaLedger Bool Unit :=
  (((BaLedger.initial : BaLedger Bool Unit).step (startOn 0 0)).map
    Prod.fst).getD BaLedger.initial

def maskOf (r : BaLedger Bool Unit) (baid : ℕ) : Option ℕ :=
  (r.mld.fwIdToBa baid).map BaidData.staMask

theorem baids_bookkept_one_session :
    oneSession.Bookkept ∧ oneSession.mld.numRxBaSessions = 1 ∧
      oneSession.FailureKeeps (.stop false 0 false false) := by
  have horderly : (BaLedger.initial : BaLedger Bool Unit).Orderly
      (startOn 0 0) := by
    intro _ _ _ baid _ hbaid
    exact ⟨rfl, rfl⟩
  have hreach := ConditionedRun.Reachable.start.after (startOn 0 0) [true]
    horderly (rfl : (BaLedger.initial : BaLedger Bool Unit).step (startOn 0 0) =
      some (oneSession, [true]))
  have hboth := BaLedger.baids_bookkept hreach
  constructor
  · exact hboth.1
  constructor
  · rfl
  · apply hboth.2
    intro haccepted
    cases haccepted

/-- An update from mask 1 to mask 3 fails at the second of two sessions and
leaves the first with mask 3.  A stop without a session counts down although it
fails.  A start after a failed stop leaves a session no TID names. -/
theorem baids_broken :
    (run BaLedger.step (BaLedger.initial : BaLedger Bool Unit)
        [startOn 0 0, startOn 1 1]).map
          (fun result => (result.2, maskOf result.1 0, maskOf result.1 1)) =
        some ([true, true], some 1, some 1) ∧
      (run BaLedger.step (BaLedger.initial : BaLedger Bool Unit)
        [startOn 0 0, startOn 1 1,
          .update 1 3 false fun baid => decide (baid ≠ 1)]).map
          (fun result => (result.2, maskOf result.1 0, maskOf result.1 1)) =
        some ([true, true, false], some 3, some 1) ∧
      (run BaLedger.step (BaLedger.initial : BaLedger Bool Unit)
        [startOn 0 3, .stop true 0 false true]).map
          (fun result => (result.2, result.1.mld.numRxBaSessions,
            maskOf result.1 3)) =
        some ([true, false], 0, some 1) ∧
      (run BaLedger.step (BaLedger.initial : BaLedger Bool Unit)
        [startOn 0 0, .stop false 0 false false, startOn 0 1]).map
          (fun result => (result.2, result.1.mld.tidToBaid false 0,
            maskOf result.1 0, maskOf result.1 1)) =
        some ([true, false, true], 1, some 1, some 1) := by
  decide +kernel

end Samples

end IwlwifiStack
