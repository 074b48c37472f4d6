import Exynos8890.Library.TransitionSystem

/-!
# Handing a queue over to a listener

Messages are posted one after another.  Without a listener they are queued; a
listener is registered, greeted, handed the queue, and from then on gets every
message directly.  The poster holds the message that it has taken and not yet
handed on.

The machine allows a message to be handed on directly only when the queue is empty
and the listener has been greeted, and queued only until the queue has been handed
over.

Main results:

- Theorem `ordered_run`: the greeting comes first, and every message is handed on
  once, in the order of posting.
- Theorems `Ordered.stream_prefix` and `Ordered.stream_eq_of_attached`: what the
  listener has at any time, and when nothing is pending.
-/

universe u v

namespace Handover

/-- How far the listener is. -/
inductive Stage where
  | detached
  | registered
  | draining
  | attached
deriving DecidableEq

/-- The messages posted so far, the one that the poster holds, the queue, and what the
listener has been sent. -/
structure State (α : Type u) (γ : Type v) where
  stage : Stage
  posted : List α
  held : Option α
  queue : List α
  stream : List (γ ⊕ α)

/-- What poster and listener do. -/
inductive Op (α : Type u) where
  | post (a : α)
  | store
  | forward
  | register
  | greet
  | flush
  | finish

variable {α : Type u} {γ : Type v}

/-- The messages that have been sent to the listener. -/
def State.sent (s : State α γ) : List α :=
  s.stream.filterMap Sum.getRight?

/-- Before the first message is posted, with this queue. -/
def initial (queue : List α) : State α γ where
  stage := .detached
  posted := []
  held := none
  queue := queue
  stream := []

def step (greeting : γ) (s : State α γ) : Op α → Option (State α γ)
  | .post a =>
      match s.held with
      | none => some { s with posted := s.posted ++ [a], held := some a }
      | some _ => none
  | .store =>
      match s.held, s.stage with
      | none, _ => none
      | some _, .attached => none
      | some a, _ => some { s with held := none, queue := s.queue ++ [a] }
  | .forward =>
      match s.held, s.queue, s.stage with
      | some a, [], .draining => some { s with held := none, stream := s.stream ++ [.inr a] }
      | some a, [], .attached => some { s with held := none, stream := s.stream ++ [.inr a] }
      | _, _, _ => none
  | .register =>
      match s.stage with
      | .detached => some { s with stage := .registered }
      | _ => none
  | .greet =>
      match s.stage with
      | .registered => some { s with stage := .draining, stream := s.stream ++ [.inl greeting] }
      | _ => none
  | .flush =>
      match s.stage, s.queue with
      | .draining, a :: rest => some { s with queue := rest, stream := s.stream ++ [.inr a] }
      | _, _ => none
  | .finish =>
      match s.stage, s.queue with
      | .draining, [] => some { s with stage := .attached }
      | _, _ => none

/-- The machine for one greeting. -/
def system (greeting : γ) : TransitionSystem (State α γ) (Op α) where
  step := step greeting

/-- What is held is queued, as long as the queue has not been handed over. -/
theorem step_store {greeting : γ} {s : State α γ} {a : α} (hheld : s.held = some a)
    (hstage : s.stage ≠ .attached) :
    step greeting s .store = some { s with held := none, queue := s.queue ++ [a] } := by
  cases h : s.stage with
  | attached => exact absurd h hstage
  | detached | registered | draining => simp only [step, hheld, h]

/-- What is held is handed on directly to a greeted listener behind an empty queue. -/
theorem step_forward {greeting : γ} {s : State α γ} {a : α} (hheld : s.held = some a)
    (hqueue : s.queue = []) (hstage : s.stage = .draining ∨ s.stage = .attached) :
    step greeting s .forward = some { s with held := none, stream := s.stream ++ [.inr a] } := by
  rcases hstage with h | h <;> simp [step, hheld, hqueue, h]

/-! ## The invariant -/

/-- Nothing is lost, doubled or overtaken; `before` is the queue at the start. -/
structure Ordered (greeting : γ) (before : List α) (s : State α γ) : Prop where
  account : s.sent ++ s.queue ++ s.held.toList = before ++ s.posted
  silent : s.stage = .detached ∨ s.stage = .registered → s.stream = []
  greeted : s.stage = .draining ∨ s.stage = .attached →
    s.stream = .inl greeting :: s.sent.map .inr
  drained : s.stage = .attached → s.queue = []

theorem initial_ordered (greeting : γ) (before : List α) :
    Ordered greeting before (initial before) := by
  refine ⟨by simp [State.sent, initial], fun _ => rfl, ?_, ?_⟩
  · rintro (h | h) <;> cases h
  · intro h
    cases h

/-- Handing the first message in line on moves it to the stream. -/
theorem account_shift {sent rest before posted : List α} {held : Option α} {a : α}
    (h : sent ++ a :: rest ++ held.toList = before ++ posted) :
    sent ++ [a] ++ rest ++ held.toList = before ++ posted := by
  simpa using h

theorem step_ordered {greeting : γ} {before : List α} {s t : State α γ} {op : Op α}
    (hs : Ordered greeting before s) (h : step greeting s op = some t) :
    Ordered greeting before t := by
  obtain ⟨account, silent, greeted, drained⟩ := hs
  have hsent : ∀ a : α, (s.stream ++ [Sum.inr a]).filterMap Sum.getRight? = s.sent ++ [a] :=
    fun a => by simp [State.sent]
  cases op with
  | post a =>
      simp only [step] at h
      split at h
      · rename_i hheld
        cases h
        refine ⟨?_, silent, greeted, drained⟩
        rw [hheld, Option.toList_none, List.append_nil] at account
        show s.sent ++ s.queue ++ [a] = before ++ (s.posted ++ [a])
        rw [account, List.append_assoc]
      · cases h
  | store =>
      simp only [step] at h
      split at h
      · cases h
      · cases h
      · rename_i a hheld hstage
        cases h
        refine ⟨?_, silent, greeted, fun h => absurd h hstage⟩
        rw [hheld, Option.toList_some] at account
        show s.sent ++ (s.queue ++ [a]) ++ [] = before ++ s.posted
        rw [← account, List.append_nil, List.append_assoc]
  | forward =>
      have hforward : ∀ a, s.held = some a → s.queue = [] →
          s.stage = .draining ∨ s.stage = .attached →
          Ordered greeting before { s with held := none, stream := s.stream ++ [.inr a] } := by
        intro a hheld hqueue hstage
        refine ⟨?_, ?_, fun _ => ?_, drained⟩
        · rw [hheld, hqueue, Option.toList_some, List.append_nil] at account
          show (s.stream ++ [Sum.inr a]).filterMap Sum.getRight? ++ s.queue ++ [] = _
          rw [hsent, hqueue, account, List.append_nil, List.append_nil]
        · intro h
          rcases h with h | h <;> rcases hstage with hstage | hstage <;>
            exact absurd (hstage.symm.trans h) (by simp)
        · show s.stream ++ [.inr a] =
            .inl greeting :: ((s.stream ++ [Sum.inr a]).filterMap Sum.getRight?).map .inr
          rw [hsent, List.map_append, ← List.cons_append, ← greeted hstage]
          rfl
      simp only [step] at h
      split at h
      · rename_i a hheld hqueue hstage
        cases h
        exact hqueue ▸ hforward a hheld hqueue (Or.inl hstage)
      · rename_i a hheld hqueue hstage
        cases h
        exact hqueue ▸ hforward a hheld hqueue (Or.inr hstage)
      · cases h
  | register =>
      simp only [step] at h
      split at h
      · rename_i hstage
        cases h
        exact ⟨account, fun _ => silent (Or.inl hstage), fun h => by simp at h, fun h => by cases h⟩
      · cases h
  | greet =>
      simp only [step] at h
      split at h
      · rename_i hstage
        cases h
        have hstream := silent (Or.inr hstage)
        refine ⟨?_, fun h => by simp at h, fun _ => ?_, fun h => by cases h⟩
        · simpa [State.sent, List.filterMap_cons] using account
        · simp [State.sent, List.filterMap_cons, hstream]
      · cases h
  | flush =>
      simp only [step] at h
      split at h
      · rename_i a rest hstage hqueue
        cases h
        rw [hqueue] at account
        refine ⟨?_, ?_, fun _ => ?_, ?_⟩
        · show (s.stream ++ [Sum.inr a]).filterMap Sum.getRight? ++ rest ++ s.held.toList = _
          rw [hsent]
          exact account_shift account
        · intro h
          rcases h with h | h <;> exact absurd (hstage.symm.trans h) (by simp)
        · show s.stream ++ [.inr a] =
            .inl greeting :: ((s.stream ++ [Sum.inr a]).filterMap Sum.getRight?).map .inr
          rw [hsent, List.map_append, ← List.cons_append, ← greeted (Or.inl hstage)]
          rfl
        · intro h
          exact absurd (hstage.symm.trans h) (by simp)
      · cases h
  | finish =>
      simp only [step] at h
      split at h
      · rename_i hstage hqueue
        cases h
        refine ⟨account, fun h => by simp at h, fun _ => greeted (Or.inl hstage), fun _ => hqueue⟩
      · cases h

theorem ordered_run {greeting : γ} {before : List α} {ops : List (Op α)} {s : State α γ}
    (h : (system greeting).run (initial before) ops = some s) : Ordered greeting before s :=
  TransitionSystem.run_invariant_of_step (I := Ordered greeting before)
    (fun _ _ _ hs hstep => step_ordered hs hstep) (initial_ordered greeting before) h

/-! ## What the listener has -/

/-- What the listener has is at any time a first part of what it is due. -/
theorem Ordered.stream_prefix {greeting : γ} {before : List α} {s : State α γ}
    (h : Ordered greeting before s) :
    s.stream <+: .inl greeting :: (before ++ s.posted).map .inr := by
  rw [← h.account]
  cases hstage : s.stage with
  | detached =>
      rw [h.silent (Or.inl hstage)]
      exact List.nil_prefix
  | registered =>
      rw [h.silent (Or.inr hstage)]
      exact List.nil_prefix
  | draining | attached =>
      have hgreeted := h.greeted (by simp [hstage])
      rw [hgreeted, List.append_assoc, List.map_append]
      exact List.cons_prefix_cons.mpr ⟨rfl, List.prefix_append _ _⟩

/-- With nothing held, an attached listener has everything that was queued and
posted. -/
theorem Ordered.stream_eq_of_attached {greeting : γ} {before : List α} {s : State α γ}
    (h : Ordered greeting before s) (hstage : s.stage = .attached) (hheld : s.held = none) :
    s.queue = [] ∧ s.stream = .inl greeting :: (before ++ s.posted).map .inr := by
  have hqueue := h.drained hstage
  have haccount := h.account
  rw [hqueue, hheld, Option.toList_none, List.append_nil, List.append_nil] at haccount
  exact ⟨hqueue, haccount ▸ h.greeted (Or.inr hstage)⟩

/-- With nothing held and no listener, everything is in the queue. -/
theorem Ordered.queue_eq_of_detached {greeting : γ} {before : List α} {s : State α γ}
    (h : Ordered greeting before s) (hstage : s.stage = .detached) (hheld : s.held = none) :
    s.queue = before ++ s.posted := by
  have haccount := h.account
  rwa [State.sent, h.silent (Or.inl hstage), hheld, Option.toList_none, List.append_nil,
    List.filterMap_nil, List.nil_append] at haccount

end Handover
