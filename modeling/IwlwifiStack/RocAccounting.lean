import IwlwifiStack.RocModel

/-!
# Each request is ended once

A walk over the list moves requests from the list to the notifications: what
has been ended and what is still listed stay the same together, and so do the
frames that were transmitted, those whose status was told and those still
waiting.  A request is announced only where its `notified` flag goes up.
-/

namespace IwlwifiStack

namespace RocOutput

def ends (id : ℕ) : RocOutput → Bool
  | .expired roc => roc.id = id
  | _ => false

def endsMgmt (id : ℕ) : RocOutput → Bool
  | .expired roc => roc.id = id && roc.mgmtTxCookie ≠ 0
  | _ => false

def endsFrame (id : ℕ) : RocOutput → Bool
  | .expired roc => roc.id = id && roc.frame
  | _ => false

def tellsStatus (id : ℕ) : RocOutput → Bool
  | .txStatus roc => roc.id = id
  | _ => false

def transmits (id : ℕ) : RocOutput → Bool
  | .transmit roc => roc.id = id
  | _ => false

def takesFrame (id : ℕ) (output : RocOutput) : Bool :=
  output.transmits id || output.endsFrame id

def announces (id : ℕ) : RocOutput → Bool
  | .ready roc => roc.id = id
  | .transmit roc => roc.id = id
  | _ => false

def Sound : RocOutput → Prop
  | .ready roc => roc.started
  | .transmit roc => roc.started
  | .warnFound => False
  | _ => True

end RocOutput

def endedCount (id : ℕ) (outputs : List RocOutput) : ℕ :=
  outputs.countP (RocOutput.ends id)

def announcedCount (id : ℕ) (outputs : List RocOutput) : ℕ :=
  outputs.countP (RocOutput.announces id)

def statusCount (id : ℕ) (outputs : List RocOutput) : ℕ :=
  outputs.countP (RocOutput.tellsStatus id)

def transmitCount (id : ℕ) (outputs : List RocOutput) : ℕ :=
  outputs.countP (RocOutput.transmits id)

def listed (id : ℕ) (rocs : List RocWork) : ℕ :=
  rocs.countP fun roc => roc.id = id

def unnotified (id : ℕ) (rocs : List RocWork) : ℕ :=
  rocs.countP fun roc => roc.id = id && !roc.notified

namespace RocWork

def hasMgmt (id : ℕ) (roc : RocWork) : Bool :=
  roc.id = id && roc.mgmtTxCookie ≠ 0

def hasFrame (id : ℕ) (roc : RocWork) : Bool :=
  roc.id = id && roc.frame

def name (roc : RocWork) : ℕ × ℕ × ℕ :=
  (roc.id, roc.cookie, roc.mgmtTxCookie)

end RocWork

/-! ## What a list gives away and what it holds -/

section Conservation

variable {Item Output : Type*}

def Conserved (gives : Output → Bool) (holds : Item → Bool)
    (before after : List Item) (outputs : List Output) : Prop :=
  outputs.countP gives + after.countP holds = before.countP holds

namespace Conserved

variable {gives : Output → Bool} {holds : Item → Bool}
  {before middle after other rest : List Item} {outputs more : List Output}

theorem refl (items : List Item) : Conserved gives holds items items [] :=
  Nat.zero_add _

theorem append (hfirst : Conserved gives holds before after outputs)
    (hsecond : Conserved gives holds other rest more) :
    Conserved gives holds (before ++ other) (after ++ rest) (outputs ++ more) := by
  simp only [Conserved, List.countP_append] at hfirst hsecond ⊢
  omega

theorem trans (hfirst : Conserved gives holds before middle outputs)
    (hsecond : Conserved gives holds middle after more) :
    Conserved gives holds before after (outputs ++ more) := by
  simp only [Conserved, List.countP_append] at hfirst hsecond ⊢
  omega

theorem of_perm (hperm : before.Perm other)
    (hconserved : Conserved gives holds before after outputs) :
    Conserved gives holds other after outputs := by
  rw [Conserved, ← hperm.countP_eq]
  exact hconserved

theorem map {change : Item → Item}
    (hholds : ∀ item, holds (change item) = holds item) (items : List Item) :
    Conserved gives holds items (items.map change) [] := by
  simp only [Conserved, List.countP_map, Function.comp_def, hholds]
  exact Nat.zero_add _

theorem change {item changed : Item}
    (hconserved : Conserved gives holds [changed] after outputs)
    (hholds : holds changed = holds item) :
    Conserved gives holds [item] after outputs := by
  rw [Conserved, hconserved]
  simp only [List.countP_cons, hholds]

end Conserved

theorem countP_of_once {gives part : Output → Bool} {outputs : List Output}
    {output : Output} (hmem : output ∈ outputs) (hgives : gives output = true)
    (honce : outputs.countP gives ≤ 1)
    (hpart : ∀ output, part output = true → gives output = true) :
    outputs.countP part = if part output then 1 else 0 := by
  obtain ⟨front, back, rfl⟩ := List.append_of_mem hmem
  rw [List.countP_append, List.countP_cons_of_pos hgives] at honce
  have hfront : front.countP part ≤ front.countP gives :=
    List.countP_mono_left fun output _ => hpart output
  have hback : back.countP part ≤ back.countP gives :=
    List.countP_mono_left fun output _ => hpart output
  rw [List.countP_append, List.countP_cons]
  omega

end Conservation

/-! ## The walks -/

/-- A walk that ends and announces requests. -/
structure RocMoves (before after : List RocWork) (outputs : List RocOutput) :
    Prop where
  ended : ∀ id, Conserved (RocOutput.ends id) (fun roc => roc.id = id)
    before after outputs
  mgmt : ∀ id, Conserved (RocOutput.endsMgmt id) (RocWork.hasMgmt id)
    before after outputs
  frames : ∀ id, Conserved (RocOutput.takesFrame id) (RocWork.hasFrame id)
    before after outputs
  status : ∀ id, statusCount id outputs =
    outputs.countP (RocOutput.endsFrame id)
  announced : ∀ id,
    announcedCount id outputs + unnotified id after ≤ unnotified id before
  sound : ∀ output ∈ outputs, output.Sound
  names : ∀ roc ∈ after, ∃ old ∈ before, old.name = roc.name

namespace RocMoves

variable {before middle after other rest : List RocWork} {roc : RocWork}
  {outputs more : List RocOutput}

theorem refl (rocs : List RocWork) : RocMoves rocs rocs [] where
  ended _ := .refl rocs
  mgmt _ := .refl rocs
  frames _ := .refl rocs
  status _ := rfl
  announced _ := (Nat.zero_add _).le
  sound _ hmem := absurd hmem List.not_mem_nil
  names roc hmem := ⟨roc, hmem, rfl⟩

theorem append (hfirst : RocMoves before after outputs)
    (hsecond : RocMoves other rest more) :
    RocMoves (before ++ other) (after ++ rest) (outputs ++ more) := by
  constructor
  · exact fun id => (hfirst.ended id).append (hsecond.ended id)
  · exact fun id => (hfirst.mgmt id).append (hsecond.mgmt id)
  · exact fun id => (hfirst.frames id).append (hsecond.frames id)
  · intro id
    have h1 := hfirst.status id
    have h2 := hsecond.status id
    simp only [statusCount, List.countP_append] at h1 h2 ⊢
    rw [h1, h2]
  · intro id
    have h1 := hfirst.announced id
    have h2 := hsecond.announced id
    simp only [announcedCount, unnotified, List.countP_append] at h1 h2 ⊢
    omega
  · intro output hmem
    rcases List.mem_append.mp hmem with hmem | hmem
    · exact hfirst.sound output hmem
    · exact hsecond.sound output hmem
  · intro roc hmem
    rcases List.mem_append.mp hmem with hmem | hmem
    · obtain ⟨old, hold, hname⟩ := hfirst.names roc hmem
      exact ⟨old, List.mem_append_left _ hold, hname⟩
    · obtain ⟨old, hold, hname⟩ := hsecond.names roc hmem
      exact ⟨old, List.mem_append_right _ hold, hname⟩

theorem trans (hfirst : RocMoves before middle outputs)
    (hsecond : RocMoves middle after more) :
    RocMoves before after (outputs ++ more) := by
  constructor
  · exact fun id => (hfirst.ended id).trans (hsecond.ended id)
  · exact fun id => (hfirst.mgmt id).trans (hsecond.mgmt id)
  · exact fun id => (hfirst.frames id).trans (hsecond.frames id)
  · intro id
    have h1 := hfirst.status id
    have h2 := hsecond.status id
    simp only [statusCount, List.countP_append] at h1 h2 ⊢
    rw [h1, h2]
  · intro id
    have h1 := hfirst.announced id
    have h2 := hsecond.announced id
    simp only [announcedCount, List.countP_append] at h1 h2 ⊢
    omega
  · intro output hmem
    rcases List.mem_append.mp hmem with hmem | hmem
    · exact hfirst.sound output hmem
    · exact hsecond.sound output hmem
  · intro roc hmem
    obtain ⟨between, hbetween, hsame⟩ := hsecond.names roc hmem
    obtain ⟨old, hold, hname⟩ := hfirst.names between hbetween
    exact ⟨old, hold, hname.trans hsame⟩

theorem cons {first : List RocWork} (hfirst : RocMoves [roc] first outputs)
    (hrest : RocMoves other rest more) :
    RocMoves (roc :: other) (first ++ rest) (outputs ++ more) :=
  hfirst.append hrest

theorem of_perm (hperm : before.Perm other)
    (hmoves : RocMoves before after outputs) : RocMoves other after outputs where
  ended id := (hmoves.ended id).of_perm hperm
  mgmt id := (hmoves.mgmt id).of_perm hperm
  frames id := (hmoves.frames id).of_perm hperm
  status := hmoves.status
  announced id := by
    have hannounced := hmoves.announced id
    rwa [unnotified, unnotified, hperm.countP_eq] at hannounced
  sound := hmoves.sound
  names roc hmem := by
    obtain ⟨old, hold, hname⟩ := hmoves.names roc hmem
    exact ⟨old, hperm.subset hold, hname⟩

theorem map {change : RocWork → RocWork}
    (hname : ∀ roc, (change roc).name = roc.name)
    (hframe : ∀ roc, (change roc).frame = roc.frame)
    (hnotified : ∀ roc, (change roc).notified = roc.notified)
    (rocs : List RocWork) : RocMoves rocs (rocs.map change) [] := by
  have hid : ∀ roc, (change roc).id = roc.id :=
    fun roc => congrArg Prod.fst (hname roc)
  have hcookie : ∀ roc, (change roc).mgmtTxCookie = roc.mgmtTxCookie :=
    fun roc => congrArg (fun name => name.2.2) (hname roc)
  constructor
  · intro id
    exact .map (fun roc => by rw [hid]) rocs
  · intro id
    exact .map (fun roc => by rw [RocWork.hasMgmt, hid, hcookie]; rfl) rocs
  · intro id
    exact .map (fun roc => by rw [RocWork.hasFrame, hid, hframe]; rfl) rocs
  · exact fun _ => rfl
  · intro id
    simp only [unnotified, List.countP_map, Function.comp_def, hid, hnotified]
    exact (Nat.zero_add _).le
  · exact fun _ hmem => absurd hmem List.not_mem_nil
  · intro roc hmem
    obtain ⟨old, hold, rfl⟩ := List.mem_map.mp hmem
    exact ⟨old, hold, (hname old).symm⟩

theorem notifyDestroy (roc : RocWork) : RocMoves [roc] [] roc.notifyDestroy := by
  unfold RocWork.notifyDestroy
  constructor
  · intro id
    split_ifs <;> simp [Conserved, RocOutput.ends, List.countP_cons]
  · intro id
    split_ifs <;>
      simp [Conserved, RocOutput.endsMgmt, RocWork.hasMgmt, List.countP_cons]
  · intro id
    split_ifs with hframe <;>
      simp [Conserved, RocOutput.takesFrame, RocOutput.transmits,
        RocOutput.endsFrame, RocWork.hasFrame, List.countP_cons, hframe]
  · intro id
    split_ifs with hframe <;>
      simp [statusCount, RocOutput.tellsStatus, RocOutput.endsFrame,
        List.countP_cons, hframe]
  · intro id
    split_ifs <;>
      simp [announcedCount, unnotified, RocOutput.announces, List.countP_cons]
  · intro output hmem
    split_ifs at hmem
    · rcases List.mem_append.mp hmem with hmem | hmem
      · rw [List.mem_singleton.mp hmem]
        trivial
      · rw [List.mem_singleton.mp hmem]
        trivial
    · rw [List.mem_singleton.mp hmem]
      trivial
  · intro roc hmem
    cases hmem

theorem notifyDestroyAll (rocs : List RocWork) :
    RocMoves rocs [] (rocs.flatMap RocWork.notifyDestroy) := by
  induction rocs with
  | nil => exact refl []
  | cons roc rocs ih => exact (notifyDestroy roc).cons ih

theorem handleRocStarted (roc : RocWork) (startTime : BitVec 64) :
    RocMoves [roc] [(roc.handleRocStarted startTime).1]
      (roc.handleRocStarted startTime).2 := by
  unfold RocWork.handleRocStarted
  dsimp only
  split_ifs with hnotified hcookie hframe
  · exact refl [roc]
  all_goals
    constructor
    · intro id
      simp [Conserved, RocOutput.ends, List.countP_cons]
    · intro id
      simp [Conserved, RocOutput.endsMgmt, RocWork.hasMgmt, List.countP_cons]
    · intro id
      simp [Conserved, RocOutput.takesFrame, RocOutput.transmits,
        RocOutput.endsFrame, RocWork.hasFrame, List.countP_cons, *]
    · intro id
      simp [statusCount, RocOutput.tellsStatus, RocOutput.endsFrame]
    · intro id
      simp [announcedCount, unnotified, RocOutput.announces, List.countP_cons,
        hnotified]
    · simp [RocOutput.Sound]
    · simp [RocWork.name]

theorem change {changed : RocWork} (hmoves : RocMoves [changed] after outputs)
    (hname : changed.name = roc.name) (hframe : changed.frame = roc.frame)
    (hnotified : changed.notified = roc.notified) :
    RocMoves [roc] after outputs := by
  have hid : changed.id = roc.id := congrArg Prod.fst hname
  have hcookie : changed.mgmtTxCookie = roc.mgmtTxCookie :=
    congrArg (fun name => name.2.2) hname
  constructor
  · intro id
    exact (hmoves.ended id).change (by rw [hid])
  · intro id
    exact (hmoves.mgmt id).change (by rw [RocWork.hasMgmt, hid, hcookie]; rfl)
  · intro id
    exact (hmoves.frames id).change (by rw [RocWork.hasFrame, hid, hframe]; rfl)
  · exact hmoves.status
  · intro id
    have hannounced := hmoves.announced id
    simp only [unnotified, List.countP_cons, List.countP_nil, hid,
      hnotified] at hannounced ⊢
    exact hannounced
  · exact hmoves.sound
  · intro after hmem
    obtain ⟨old, hold, hsame⟩ := hmoves.names after hmem
    rw [List.mem_singleton.mp hold, hname] at hsame
    exact ⟨roc, List.mem_singleton_self roc, hsame⟩

end RocMoves

theorem endFinishedRocs_moves (config : RocConfig) (now : BitVec 64)
    (rocs : List RocWork) :
    RocMoves rocs (endFinishedRocs config now rocs).1
      (endFinishedRocs config now rocs).2.2 := by
  induction rocs with
  | nil => exact .refl []
  | cons roc rocs ih =>
      rw [endFinishedRocs]
      dsimp only
      split_ifs with hstarted hended
      · exact .refl _
      · exact (RocMoves.notifyDestroy roc).cons ih
      · exact (RocMoves.refl [roc]).cons ih

theorem hwRocStartList_moves (startTime : BitVec 64) (rocs : List RocWork) :
    RocMoves rocs (hwRocStartList startTime rocs).1
      (hwRocStartList startTime rocs).2 := by
  induction rocs with
  | nil => exact .refl []
  | cons roc rocs ih =>
      rw [hwRocStartList]
      dsimp only
      split_ifs with hstarted
      · exact .refl _
      · have hbegun : RocMoves [roc] _ _ := (RocMoves.handleRocStarted
          { roc with hwBegun := true } startTime).change rfl rfl rfl
        exact hbegun.cons ih

theorem handleAllStarted_moves (startTime : BitVec 64) (rocs : List RocWork) :
    RocMoves rocs (handleAllStarted startTime rocs).1
      (handleAllStarted startTime rocs).2 := by
  induction rocs with
  | nil => exact .refl []
  | cons roc rocs ih =>
      exact (RocMoves.handleRocStarted roc startTime).cons ih

theorem reconfigList_moves (rocs : List RocWork) :
    RocMoves rocs (RocLocal.reconfigList rocs).1
      (RocLocal.reconfigList rocs).2 := by
  induction rocs with
  | nil => exact .refl []
  | cons roc rocs ih =>
      rw [RocLocal.reconfigList]
      dsimp only
      split_ifs with hstarted hbegun
      · exact .refl _
      · have hwaits : RocMoves [roc] _ _ :=
          (RocMoves.refl [{ roc with started := false }]).change rfl rfl rfl
        exact hwaits.cons ih
      · exact (RocMoves.notifyDestroy roc).cons ih

theorem coalesceHwStartedRoc_moves {config : RocConfig} {now : BitVec 64}
    {new cur : RocWork} {coalesced : RocWork × List RocOutput}
    (hcoalesce : coalesceHwStartedRoc config now new cur = some coalesced) :
    RocMoves [new] [coalesced.1] coalesced.2 := by
  unfold coalesceHwStartedRoc at hcoalesce
  dsimp only at hcoalesce
  split_ifs at hcoalesce with hstarted hlonger hfits hbegun
  · cases hcoalesce
    exact (RocMoves.handleRocStarted _ now).change rfl rfl rfl
  · cases hcoalesce
    exact .refl [new]

theorem queueRoc_moves {config : RocConfig} {now : BitVec 64} {new : RocWork}
    {combineStarted combined : Bool} {rocs result : List RocWork}
    {outputs : List RocOutput}
    (hqueue : queueRoc config now new combineStarted rocs =
      some (result, outputs, combined)) :
    RocMoves (new :: rocs) result outputs := by
  induction rocs generalizing combineStarted result with
  | nil => cases hqueue
  | cons tmp rocs ih =>
      have hlater : ∀ combineStarted,
          ((queueRoc config now new combineStarted rocs).map fun queued =>
            (tmp :: queued.1, queued.2)) = some (result, outputs, combined) →
          RocMoves (new :: tmp :: rocs) result outputs := by
        intro combineStarted hmap
        obtain ⟨⟨queued, told, flag⟩, hqueued, heq⟩ :=
          Option.map_eq_some_iff.mp hmap
        cases heq
        exact ((RocMoves.refl [tmp]).cons (ih hqueued)).of_perm
          (List.Perm.swap _ _ _)
      have hinsert : ∀ coalesced : RocWork × List RocOutput,
          RocMoves [new] [coalesced.1] coalesced.2 →
          RocMoves (new :: tmp :: rocs) (tmp :: coalesced.1 :: rocs)
            coalesced.2 := by
        intro coalesced hmoves
        have hnew := (RocMoves.refl [tmp]).cons (hmoves.cons (.refl rocs))
        rw [List.append_nil, List.nil_append] at hnew
        exact hnew.of_perm (List.Perm.swap _ _ _)
      rw [queueRoc] at hqueue
      dsimp only at hqueue
      split_ifs at hqueue with hother hwaiting hcombine hsoftware hlong
      · exact hlater _ hqueue
      · cases hqueue
        exact hinsert (new, []) (.refl [new])
      · exact hlater _ hqueue
      · exact hlater _ hqueue
      · cases hqueue
        exact hinsert _ ((RocMoves.handleRocStarted _ now).change rfl rfl rfl)
      · split at hqueue
        · rename_i coalesced hcoalesce
          cases hqueue
          exact hinsert coalesced (coalesceHwStartedRoc_moves hcoalesce)
        · exact hlater _ hqueue

/-! ## The whole history -/

theorem countP_takesFrame (id : ℕ) (log : List RocOutput) :
    log.countP (RocOutput.takesFrame id) =
      transmitCount id log + log.countP (RocOutput.endsFrame id) := by
  induction log with
  | nil => rfl
  | cons output log ih =>
      rw [transmitCount] at ih ⊢
      rw [List.countP_cons, List.countP_cons, List.countP_cons, ih]
      cases output <;>
        simp [RocOutput.takesFrame, RocOutput.transmits, RocOutput.endsFrame] <;>
        omega

/-- A cookie that one request at most has: not the one of frames whose ACK is
not waited for. -/
def NamesOne (cookie : ℕ) (mgmtTx : Bool) : Prop :=
  cookie ≠ 0 ∧ ¬(mgmtTx = true ∧ cookie = dummyCookie)

/-- Every accepted request is on the list or has been ended, once in all, and
was announced at most once; its frame is on the list with it, was transmitted
or had its status told.  A cookie is never used again. -/
structure RocCounts (rocs : List RocWork) (nextId counter : ℕ)
    (log : List RocOutput) : Prop where
  ended : ∀ id, endedCount id log + listed id rocs = if id < nextId then 1 else 0
  frames : ∀ id, log.countP (RocOutput.takesFrame id) +
      rocs.countP (RocWork.hasFrame id) =
    log.countP (RocOutput.endsMgmt id) + rocs.countP (RocWork.hasMgmt id)
  status : ∀ id, statusCount id log = log.countP (RocOutput.endsFrame id)
  announced : ∀ id, announcedCount id log + unnotified id rocs ≤
    if id < nextId then 1 else 0
  sound : ∀ output ∈ log, output.Sound
  used : ∀ cookie mgmtTx, NamesOne cookie mgmtTx → ∀ roc ∈ rocs,
    RocLocal.cancels cookie mgmtTx roc = true → cookie ≤ counter
  named : ∀ cookie mgmtTx, NamesOne cookie mgmtTx → ∀ roc ∈ rocs,
    ∀ other ∈ rocs, RocLocal.cancels cookie mgmtTx roc = true →
    RocLocal.cancels cookie mgmtTx other = true → other.id = roc.id

theorem cancels_of_name {roc old : RocWork} (hname : old.name = roc.name)
    (cookie : ℕ) (mgmtTx : Bool) :
    RocLocal.cancels cookie mgmtTx old = RocLocal.cancels cookie mgmtTx roc := by
  simp only [RocWork.name, Prod.mk.injEq] at hname
  rw [RocLocal.cancels, RocLocal.cancels, hname.2.1, hname.2.2]

namespace RocCounts

variable {rocs after : List RocWork} {nextId counter : ℕ}
  {log outputs : List RocOutput}

theorem moves (hcounts : RocCounts rocs nextId counter log)
    (hmoves : RocMoves rocs after outputs) :
    RocCounts after nextId counter (log ++ outputs) := by
  constructor
  · intro id
    have h1 := hcounts.ended id
    have h2 := hmoves.ended id
    simp only [endedCount, listed, Conserved, List.countP_append] at h1 h2 ⊢
    omega
  · intro id
    have h1 := hcounts.frames id
    have h2 := hmoves.frames id
    have h3 := hmoves.mgmt id
    simp only [Conserved, List.countP_append] at h1 h2 h3 ⊢
    omega
  · intro id
    have h1 := hcounts.status id
    have h2 := hmoves.status id
    simp only [statusCount, List.countP_append] at h1 h2 ⊢
    rw [h1, h2]
  · intro id
    have h1 := hcounts.announced id
    have h2 := hmoves.announced id
    simp only [announcedCount, List.countP_append] at h1 h2 ⊢
    omega
  · intro output hmem
    rcases List.mem_append.mp hmem with hmem | hmem
    · exact hcounts.sound output hmem
    · exact hmoves.sound output hmem
  · intro cookie mgmtTx hone roc hmem hcancels
    obtain ⟨old, hold, hname⟩ := hmoves.names roc hmem
    rw [← cancels_of_name hname] at hcancels
    exact hcounts.used cookie mgmtTx hone old hold hcancels
  · intro cookie mgmtTx hone roc hmem other hother hcancels hcancelsOther
    obtain ⟨old, hold, hname⟩ := hmoves.names roc hmem
    obtain ⟨oldOther, holdOther, hnameOther⟩ := hmoves.names other hother
    rw [← cancels_of_name hname] at hcancels
    rw [← cancels_of_name hnameOther] at hcancelsOther
    have hsame := hcounts.named cookie mgmtTx hone old hold oldOther holdOther
      hcancels hcancelsOther
    exact (congrArg Prod.fst hnameOther).symm.trans
      (hsame.trans (congrArg Prod.fst hname))

theorem mono (hcounts : RocCounts rocs nextId counter log) {later : ℕ}
    (hlater : counter ≤ later) : RocCounts rocs nextId later log :=
  ⟨hcounts.ended, hcounts.frames, hcounts.status, hcounts.announced,
    hcounts.sound, fun cookie mgmtTx hone roc hmem hcancels =>
      (hcounts.used cookie mgmtTx hone roc hmem hcancels).trans hlater,
    hcounts.named⟩

/-- A new request, with a frame when it has a cookie for one, and with the next
cookie when it has one of its own. -/
theorem accept (hcounts : RocCounts rocs nextId counter log) {new : RocWork}
    {later : ℕ} (hid : new.id = nextId) (hnotified : new.notified = false)
    (hframe : new.frame = decide (new.mgmtTxCookie ≠ 0))
    (hlater : counter ≤ later)
    (hfresh : ∀ cookie mgmtTx, NamesOne cookie mgmtTx →
      RocLocal.cancels cookie mgmtTx new = true →
      counter < cookie ∧ cookie ≤ later) :
    RocCounts (new :: rocs) (nextId + 1) later log := by
  constructor
  · intro id
    have hbefore := hcounts.ended id
    simp only [listed, List.countP_cons, hid, decide_eq_true_eq] at hbefore ⊢
    split_ifs at hbefore ⊢ <;> omega
  · intro id
    have hbefore := hcounts.frames id
    have hnew : new.hasFrame id = new.hasMgmt id := by
      rw [RocWork.hasFrame, RocWork.hasMgmt, hframe]
    rw [List.countP_cons, List.countP_cons, hnew]
    omega
  · exact hcounts.status
  · intro id
    have hbefore := hcounts.announced id
    simp only [unnotified, List.countP_cons, hid, hnotified, Bool.not_false,
      Bool.and_true, decide_eq_true_eq] at hbefore ⊢
    split_ifs at hbefore ⊢ <;> omega
  · exact hcounts.sound
  · intro cookie mgmtTx hone roc hmem hcancels
    rcases List.mem_cons.mp hmem with rfl | hmem
    · exact (hfresh cookie mgmtTx hone hcancels).2
    · exact (hcounts.used cookie mgmtTx hone roc hmem hcancels).trans hlater
  · intro cookie mgmtTx hone roc hmem other hother hcancels hcancelsOther
    rcases List.mem_cons.mp hmem with hroc | hroc <;>
      rcases List.mem_cons.mp hother with hnext | hnext
    · rw [hroc, hnext]
    · have hused := hcounts.used cookie mgmtTx hone other hnext hcancelsOther
      rw [hroc] at hcancels
      have hnew := (hfresh cookie mgmtTx hone hcancels).1
      omega
    · have hused := hcounts.used cookie mgmtTx hone roc hroc hcancels
      rw [hnext] at hcancelsOther
      have hnew := (hfresh cookie mgmtTx hone hcancelsOther).1
      omega
    · exact hcounts.named cookie mgmtTx hone roc hroc other hnext hcancels
        hcancelsOther

theorem of_perm (hcounts : RocCounts rocs nextId counter log)
    (hperm : rocs.Perm after) : RocCounts after nextId counter log := by
  have hafter := hcounts.moves ((RocMoves.refl after).of_perm hperm.symm)
  rwa [List.append_nil] at hafter

theorem nodup (hcounts : RocCounts rocs nextId counter log) :
    (rocs.map RocWork.id).Nodup := by
  rw [List.nodup_iff_count_le_one]
  intro id
  have hended := hcounts.ended id
  have hcount : (rocs.map RocWork.id).count id = listed id rocs := by
    rw [List.count_eq_countP, List.countP_map, listed]
    rfl
  rw [hcount]
  split_ifs at hended <;> omega

/-- An ended request had its frame transmitted before, or its status told with
the end, never both. -/
theorem frame_once (hcounts : RocCounts rocs nextId counter log) {roc : RocWork}
    (hmem : .expired roc ∈ log) :
    statusCount roc.id log = (if roc.frame then 1 else 0) ∧
      transmitCount roc.id log =
        if roc.mgmtTxCookie ≠ 0 ∧ roc.frame = false then 1 else 0 := by
  have hended := hcounts.ended roc.id
  have honce : log.countP (RocOutput.ends roc.id) ≤ 1 := by
    rw [endedCount] at hended
    split_ifs at hended <;> omega
  have hends : RocOutput.ends roc.id (.expired roc) = true := by
    simp [RocOutput.ends]
  have hgone : listed roc.id rocs = 0 := by
    have hsome : 0 < endedCount roc.id log :=
      List.countP_pos_iff.mpr ⟨_, hmem, hends⟩
    split_ifs at hended <;> omega
  have hnone : ∀ {holds : RocWork → Bool},
      (∀ other, holds other = true → other.id = roc.id) →
      rocs.countP holds = 0 := by
    intro holds hholds
    rw [List.countP_eq_zero]
    intro other hother hheld
    rw [listed, List.countP_eq_zero] at hgone
    exact hgone other hother (by simpa using hholds other hheld)
  have hframe := @countP_of_once _ _ (RocOutput.endsFrame roc.id) _ _ hmem hends
    honce (by
      intro output hpart
      cases output <;> simp_all [RocOutput.endsFrame, RocOutput.ends])
  have hmgmt := @countP_of_once _ _ (RocOutput.endsMgmt roc.id) _ _ hmem hends
    honce (by
      intro output hpart
      cases output <;> simp_all [RocOutput.endsMgmt, RocOutput.ends])
  have hwith : RocOutput.endsFrame roc.id (.expired roc) = roc.frame := by
    simp [RocOutput.endsFrame]
  have hcookie : RocOutput.endsMgmt roc.id (.expired roc) =
      decide (roc.mgmtTxCookie ≠ 0) := by
    simp [RocOutput.endsMgmt]
  have hframes := hcounts.frames roc.id
  rw [countP_takesFrame, hframe, hmgmt, hwith, hcookie,
    hnone (by simp +contextual [RocWork.hasFrame]),
    hnone (by simp +contextual [RocWork.hasMgmt])] at hframes
  rw [hcounts.status, hframe, hwith]
  refine ⟨rfl, ?_⟩
  cases hwaits : roc.frame with
  | true =>
      rw [hwaits] at hframes
      split_ifs at hframes ⊢ <;> simp_all
  | false =>
      rw [hwaits] at hframes
      simpa using hframes

end RocCounts

end IwlwifiStack
