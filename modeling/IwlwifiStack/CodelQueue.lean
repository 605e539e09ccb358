import IwlwifiStack.CodelModel
import IwlwifiStack.FlowQueueLimits

/-!
# What controlled delay does to a queue

`codel_should_drop` never asks for a drop when the flow has no backlog left,
so CoDel frees packets from the head of a queue but always returns one of a
queue that is not empty.
-/

namespace IwlwifiStack

variable {α : Type*} {numTins t : ℕ} {fq mid fq' : Fq α} {id : FqFlowId}

theorem Removes.trans {first last : List (FqSkb α)}
    (hfirst : Removes numTins fq mid id first)
    (hlast : Removes numTins mid fq' id last) :
    Removes numTins fq fq' id last := by
  constructor
  · exact hlast.good
  · rw [hlast.flows_eq, hfirst.flows_eq, Function.update_idem,
      Function.update_self]
  · exact fun s => ⟨(hlast.lists_eq s).1.trans (hfirst.lists_eq s).1,
      (hlast.lists_eq s).2.trans (hfirst.lists_eq s).2⟩
  · exact hlast.flowsCnt_eq.trans hfirst.flowsCnt_eq

theorem fqFlowDequeue_quantum {skb : FqSkb α}
    (hdequeue : fq.fqFlowDequeue id = some (some skb, fq')) :
    fq'.quantum = fq.quantum := by
  unfold Fq.fqFlowDequeue at hdequeue
  cases hqueue : (fq.flows id).queue with
  | nil =>
      simp only [hqueue, Option.some.injEq, Prod.mk.injEq] at hdequeue
      cases hdequeue.1
  | cons head rest =>
      simp only [hqueue, Option.map_eq_some_iff, Prod.mk.injEq] at hdequeue
      obtain ⟨after, hadjust, -, rfl⟩ := hdequeue
      exact (adjustRemoval_params hadjust).2.2

namespace CodelEnv

variable {env : CodelEnv α}

theorem shouldDrop_backlog {skb : Option (FqSkb α)} {backlog : ℕ}
    {vars : CodelVars} {stats : CodelStats}
    (hdrop : (env.shouldDrop skb backlog vars stats).1 = true) :
    backlog ≠ 0 := by
  intro hzero
  subst hzero
  cases skb with
  | none => cases hdrop
  | some skb =>
      simp only [shouldDrop, Nat.zero_le, or_true, if_true] at hdrop
      cases hdrop

theorem shouldDrop_dropping (skb : Option (FqSkb α)) (backlog : ℕ)
    (vars : CodelVars) (stats : CodelStats) :
    (env.shouldDrop skb backlog vars stats).2.1.dropping = vars.dropping := by
  cases skb with
  | none => rfl
  | some skb =>
      simp only [shouldDrop]
      split
      · rfl
      · split <;> rfl

end CodelEnv

/-- CoDel has taken `skb` from the flow, with `rest` behind it, and has freed
what was before it. -/
structure CodelHead.Holds (numTins : ℕ) (fq : Fq α) (id : FqFlowId)
    (skb : FqSkb α) (rest : List (FqSkb α)) (head : CodelHead α) :
    Prop where
  removes : Removes numTins fq head.fq id rest
  queue_eq : ∃ dropped, (fq.flows id).queue = dropped ++ skb :: rest ∧
    head.freed = dropped.map fun skb => (id, skb)
  skb_eq : head.skb = some skb
  quantum_eq : head.fq.quantum = fq.quantum

namespace CodelHead.Holds

variable {head : CodelHead α} {skb : FqSkb α} {rest : List (FqSkb α)}

theorem congr {other : CodelHead α} (hholds : head.Holds numTins fq id skb rest)
    (hfq : other.fq = head.fq) (hskb : other.skb = head.skb)
    (hfreed : other.freed = head.freed) :
    other.Holds numTins fq id skb rest := by
  obtain ⟨hremoves, hqueue, heq, hquantum⟩ := hholds
  exact ⟨hfq ▸ hremoves, hfreed ▸ hqueue, hskb.trans heq, hfq ▸ hquantum⟩

theorem rest_of_backlog (hholds : head.Holds numTins fq id skb rest)
    (hid : id ∈ fq.flowIds numTins)
    (hbacklog : (head.fq.flows id).backlog ≠ 0) : rest ≠ [] := by
  intro hempty
  have hgood := hholds.removes.good
  rw [← hholds.removes.links.flowIds_eq numTins] at hid
  rw [hgood.backlog_eq id hid, hholds.removes.queue_self, hempty] at hbacklog
  exact hbacklog rfl

variable {env : CodelEnv α} {next : FqSkb α}

theorem dropNext (hholds : head.Holds numTins fq id skb (next :: rest))
    (hid : id ∈ fq.flowIds numTins) (htin : (fq.flows id).tin = some t) :
    ∃ dropped, env.dropNext id head skb = some dropped ∧
      dropped.2.Holds numTins fq id next rest ∧
      (dropped.1 = true → rest ≠ []) ∧
      dropped.2.vars.dropping = head.vars.dropping := by
  have hlinks := hholds.removes.links
  obtain ⟨fq', hdequeue, hremoves⟩ :=
    hholds.removes.good.fqFlowDequeue
      (by rw [hlinks.flowIds_eq]; exact hid)
      ((hlinks.tin_eq id).trans htin) hholds.removes.queue_self
  have hquantum := fqFlowDequeue_quantum hdequeue
  obtain ⟨dropped, hqueue, hfreed⟩ := hholds.queue_eq
  simp only [CodelEnv.dropNext, hdequeue, Option.map_some,
    Option.some.injEq, exists_eq_left']
  refine ⟨⟨hholds.removes.trans hremoves, ?_, rfl,
    hquantum.trans hholds.quantum_eq⟩, ?_, ?_⟩
  · refine ⟨dropped ++ [skb], ?_, ?_⟩
    · rw [hqueue, List.append_assoc]
      rfl
    · rw [hfreed, List.map_append]
      rfl
  · intro hdrop hempty
    apply CodelEnv.shouldDrop_backlog hdrop
    rw [hremoves.flows_eq, Function.update_self, hempty]
    rfl
  · exact CodelEnv.shouldDrop_dropping _ _ _ _

theorem dropLoop {left : ℕ} (hholds : head.Holds numTins fq id skb rest)
    (hid : id ∈ fq.flowIds numTins) (htin : (fq.flows id).tin = some t)
    (hdropping : head.vars.dropping = true → rest ≠ [])
    (hleft : rest.length < left) :
    ∃ last kept behind, env.dropLoop id left head = some last ∧
      last.Holds numTins fq id kept behind := by
  induction left generalizing head skb rest with
  | zero => omega
  | succ left ih =>
      unfold CodelEnv.dropLoop
      by_cases hround : head.vars.dropping = true ∧
          codelTimeAfterEq env.now head.vars.dropNext = true
      · have hcounted : CodelHead.Holds numTins fq id skb rest
            (CodelEnv.countDrop head) := hholds.congr rfl rfl rfl
        rw [if_pos hround]
        dsimp only
        rw [hcounted.skb_eq]
        dsimp only
        by_cases hmarks : env.ecnMarks skb = true
        · rw [if_pos hmarks]
          exact ⟨_, skb, rest, rfl, hcounted.congr rfl rfl rfl⟩
        · rw [if_neg hmarks]
          cases rest with
          | nil => exact absurd rfl (hdropping hround.1)
          | cons next rest =>
              obtain ⟨dropped, hdrop, hnext, hmore, -⟩ :=
                @dropNext α numTins t fq id _ skb rest env next hcounted hid
                  htin
              rw [hdrop, Option.bind_some]
              rw [List.length_cons] at hleft
              refine @ih _ next rest (hnext.congr rfl rfl rfl) ?_ (by omega)
              intro hagain
              apply hmore
              by_contra hstop
              simp only [hstop, if_false, Bool.false_eq_true] at hagain
      · rw [if_neg hround]
        exact ⟨head, skb, rest, rfl, hholds⟩

theorem enterDropping (hholds : head.Holds numTins fq id skb rest)
    (hid : id ∈ fq.flowIds numTins) (htin : (fq.flows id).tin = some t)
    (hrest : rest ≠ []) :
    ∃ last kept behind, env.enterDropping id head skb = some last ∧
      last.Holds numTins fq id kept behind := by
  unfold CodelEnv.enterDropping
  by_cases hmarks : env.ecnMarks skb = true
  · rw [if_pos hmarks, Option.map_some]
    exact ⟨_, skb, rest, rfl, hholds.congr rfl rfl rfl⟩
  · rw [if_neg hmarks]
    cases rest with
    | nil => exact absurd rfl hrest
    | cons next rest =>
        obtain ⟨dropped, hdrop, hnext, -, -⟩ :=
          @dropNext α numTins t fq id head skb rest env next hholds hid htin
        rw [hdrop, Option.map_some, Option.map_some]
        exact ⟨_, next, rest, rfl, hnext.congr rfl rfl rfl⟩

theorem markCe (hholds : head.Holds numTins fq id skb rest) :
    (env.markCe head).Holds numTins fq id skb rest := by
  simp only [CodelEnv.markCe, hholds.skb_eq]
  split
  · exact hholds.congr rfl hholds.skb_eq.symm rfl
  · exact hholds

end CodelHead.Holds

theorem FqGood.codelDequeue_some (env : CodelEnv α) (vars : CodelVars)
    (stats : CodelStats) (hgood : FqGood numTins fq)
    (hid : id ∈ fq.flowIds numTins) (htin : (fq.flows id).tin = some t)
    (hqueue : (fq.flows id).queue ≠ []) :
    ∃ head skb rest, env.codelDequeue fq id vars stats = some head ∧
      head.Holds numTins fq id skb rest := by
  obtain ⟨skb, rest, hcons⟩ := List.exists_cons_of_ne_nil hqueue
  obtain ⟨fq', hdequeue, hremoves⟩ := hgood.fqFlowDequeue hid htin hcons
  have hquantum := fqFlowDequeue_quantum hdequeue
  simp only [CodelEnv.codelDequeue, hdequeue, Option.bind_some]
  generalize hcheck :
    env.shouldDrop (some skb) (fq'.flows id).backlog vars stats = checked
  have hholds : CodelHead.Holds numTins fq id skb rest
      ⟨fq', some skb, false, [], checked.2.1, checked.2.2⟩ :=
    ⟨hremoves, ⟨[], hcons, rfl⟩, rfl, hquantum⟩
  have hmore : checked.1 = true → rest ≠ [] := by
    intro hdrop
    rw [← hcheck] at hdrop
    exact hholds.rest_of_backlog hid (CodelEnv.shouldDrop_backlog hdrop)
  have hlength : rest.length < (fq.flows id).queue.length + 1 := by
    rw [hcons, List.length_cons]
    omega
  by_cases hdropping : vars.dropping = true
  · rw [if_pos hdropping]
    by_cases hdrop : checked.1 = true
    · rw [if_pos hdrop]
      obtain ⟨last, skb', rest', hlast, hholds'⟩ :=
        @CodelHead.Holds.dropLoop α numTins t fq id _ skb rest env _ hholds
          hid htin (fun _ => hmore hdrop) hlength
      rw [hlast, Option.map_some]
      exact ⟨_, skb', rest', rfl, hholds'.markCe⟩
    · rw [if_neg hdrop, Option.map_some]
      exact ⟨_, skb, rest, rfl,
        @CodelHead.Holds.markCe α numTins fq id _ skb rest env
          (hholds.congr rfl rfl rfl)⟩
  · rw [if_neg hdropping]
    by_cases hdrop : checked.1 = true
    · rw [if_pos hdrop]
      obtain ⟨last, skb', rest', hlast, hholds'⟩ :=
        @CodelHead.Holds.enterDropping α numTins t fq id _ skb rest env
          hholds hid htin (hmore hdrop)
      rw [hlast, Option.map_some]
      exact ⟨_, skb', rest', rfl, hholds'.markCe⟩
    · rw [if_neg hdrop, Option.map_some]
      exact ⟨_, skb, rest, rfl, hholds.markCe⟩

theorem codelDequeue_nil (env : CodelEnv α) (vars : CodelVars)
    (stats : CodelStats) (hqueue : (fq.flows id).queue = []) :
    env.codelDequeue fq id vars stats =
      some ⟨fq, none, false, [], { vars with dropping := false }, stats⟩ := by
  simp only [CodelEnv.codelDequeue, Fq.fqFlowDequeue_nil hqueue,
    Option.bind_some]

end IwlwifiStack
