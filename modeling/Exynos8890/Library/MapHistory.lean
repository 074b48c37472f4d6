import Mathlib.Tactic

/-!
# What a map holds after a history

A store is a map from keys to values.  A step puts one value under one key, and it may take
away keys of its own scope; whether it does is not known from outside.  After a history of
steps a key holds what was put last, or it was taken away.

Main results:

- Definition `Effect.Outcome`: what one step may do to a key.
- Theorem `Run.spared`: what no step concerns stays.
- Theorem `Run.of_put`: a value stays until a step concerns its key.
- Theorem `Run.value`: a key holds the value that was put last, or what it held at the
  beginning, or nothing.
-/

namespace MapHistory

variable {K V : Type}

/-- A step: what it puts, and which keys it may take away. -/
structure Effect (K V : Type) where
  put : Option (K × V)
  removes : K → Prop

/-- The step puts nothing under the key. -/
def Effect.Puts (e : Effect K V) (k : K) : Prop :=
  ∃ v, e.put = some (k, v)

/-- The step has nothing to do with the key. -/
def Effect.Spares (e : Effect K V) (k : K) : Prop :=
  ¬ e.Puts k ∧ ¬ e.removes k

/-- What a key holds after a step, from what it held before. -/
inductive Effect.Outcome (e : Effect K V) (k : K) (before : Option V) : Option V → Prop where
  | put {v} (hput : e.put = some (k, v)) : Outcome e k before (some v)
  | kept (hput : ¬ e.Puts k) : Outcome e k before before
  | removed (hput : ¬ e.Puts k) (hscope : e.removes k) : Outcome e k before none

/-- The map after a step. -/
def Effect.Step (e : Effect K V) (m m' : K → Option V) : Prop :=
  ∀ k, e.Outcome k (m k) (m' k)

/-- The maps of a history. -/
inductive Run : List (Effect K V) → (K → Option V) → (K → Option V) → Prop where
  | nil {m} : Run [] m m
  | cons {e es m m' m''} (hstep : e.Step m m') (hrest : Run es m' m'') : Run (e :: es) m m''

/-- The value that the history puts last under a key. -/
def LastPut (k : K) (es : List (Effect K V)) (v : V) : Prop :=
  ∃ before e after, es = before ++ e :: after ∧ e.put = some (k, v) ∧ ∀ e' ∈ after, ¬ e'.Puts k

section Run

variable {e : Effect K V} {es es' : List (Effect K V)} {m m' m'' : K → Option V} {k : K} {v : V}

theorem Effect.Outcome.spared {before after : Option V} (h : e.Outcome k before after)
    (hspares : e.Spares k) : after = before := by
  cases h with
  | put hput => exact absurd ⟨_, hput⟩ hspares.1
  | kept => rfl
  | removed _ hscope => exact absurd hscope hspares.2

theorem Effect.Outcome.of_put {before after : Option V} (h : e.Outcome k before after)
    (hput : e.put = some (k, v)) : after = some v := by
  cases h with
  | put hput' =>
      rw [hput] at hput'
      cases hput'
      rfl
  | kept hnot => exact absurd ⟨v, hput⟩ hnot
  | removed hnot => exact absurd ⟨v, hput⟩ hnot

theorem Run.spared (h : Run es m m') (hspares : ∀ e ∈ es, e.Spares k) : m' k = m k := by
  induction h with
  | nil => rfl
  | cons hstep _ ih =>
      rw [List.forall_mem_cons] at hspares
      rw [ih hspares.2]
      exact (hstep k).spared hspares.1

theorem Run.of_put (h : Run (e :: es) m m') (hput : e.put = some (k, v))
    (hspares : ∀ e ∈ es, e.Spares k) : m' k = some v := by
  cases h with
  | cons hstep hrest =>
      rw [hrest.spared hspares]
      exact (hstep k).of_put hput

theorem LastPut.cons (h : LastPut k es v) (e : Effect K V) : LastPut k (e :: es) v := by
  obtain ⟨before, e', after, rfl, hput, hlast⟩ := h
  exact ⟨e :: before, e', after, rfl, hput, hlast⟩

/-- A key holds the value that was put last, or what it held at the beginning, or nothing. -/
theorem Run.value (h : Run es m m') (k : K) :
    (∃ v, LastPut k es v ∧ m' k = some v) ∨ ((∀ e ∈ es, ¬ e.Puts k) ∧ m' k = m k) ∨
      m' k = none := by
  induction h with
  | nil => exact Or.inr (Or.inl ⟨fun e he => absurd he List.not_mem_nil, rfl⟩)
  | @cons e es m m₁ m₂ hstep hrest ih =>
      rcases ih with ⟨v, hlast, hv⟩ | ⟨hnot, hsame⟩ | hnone
      · exact Or.inl ⟨v, hlast.cons e, hv⟩
      · rw [hsame]
        cases hoff : m₁ k with
        | none => exact Or.inr (Or.inr rfl)
        | some v =>
            have houtcome := hstep k
            rw [hoff] at houtcome
            generalize hbefore : m k = before at houtcome
            cases houtcome with
            | put hput => exact Or.inl ⟨v, ⟨[], e, es, rfl, hput, hnot⟩, rfl⟩
            | kept hput =>
                exact Or.inr (Or.inl ⟨List.forall_mem_cons.mpr ⟨hput, hnot⟩, rfl⟩)
      · exact Or.inr (Or.inr hnone)

end Run

end MapHistory
