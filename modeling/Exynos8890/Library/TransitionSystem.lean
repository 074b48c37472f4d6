import Mathlib.Tactic

/-!
# Labelled transition systems

A deterministic labelled transition system whose labels carry every choice of
the scheduler and of the environment.  A run is a list of labels, so runs can
be evaluated, and a property of all runs is a property of all label lists.

Main results:

- Theorem `run_append`: runs compose.
- Theorem `run_invariant`: a predicate that every step meeting a condition
  preserves holds at the end of every run whose steps all meet the condition.
- Theorem `StepsMeet.of_invariant`: what an invariant says about each step is met by the
  whole run.
- Theorem `stepsMeet_congr`: conditions that agree in the states of an invariant are met
  by the same runs.
- Theorem `stepsMeet_next_iff`: a predicate of the next state at each step is a predicate of
  every state reached.
- Theorem `stepsMeet_iff_reached`: when a condition says which steps keep a predicate, the
  runs that meet it are those along which the predicate holds.
- Theorem `run_length_le`: steps that make a measure smaller are bounded in number.
- Theorem `run_simulation`: when the steps of one system are runs of another, so are
  its runs.
-/

universe u v

/-- A transition system with a partial step function.  A label that is not
enabled in a state has no successor. -/
structure TransitionSystem (σ : Type u) (ℓ : Type v) where
  step : σ → ℓ → Option σ

namespace TransitionSystem

variable {σ : Type u} {ℓ : Type v} (M : TransitionSystem σ ℓ)

/-- Follow a list of labels. -/
def run : σ → List ℓ → Option σ
  | s, [] => some s
  | s, l :: ls =>
      match M.step s l with
      | some t => run t ls
      | none => none

/-- Every step that the run takes meets the condition `C` on the state before
the step and on its label. -/
def StepsMeet (C : σ → ℓ → Prop) : σ → List ℓ → Prop
  | _, [] => True
  | s, l :: ls => C s l ∧ ∀ t, M.step s l = some t → StepsMeet C t ls

/-! ## Composition of runs -/

@[simp]
theorem run_nil (s : σ) : M.run s [] = some s :=
  rfl

theorem run_cons_eq_some {s t : σ} {l : ℓ} {ls : List ℓ} :
    M.run s (l :: ls) = some t ↔ ∃ m, M.step s l = some m ∧ M.run m ls = some t := by
  rw [run]
  cases h : M.step s l with
  | none => simp
  | some m => simp

/-- A run over an appended label list is the composition of two runs. -/
theorem run_append {s t : σ} {ls ms : List ℓ} :
    M.run s (ls ++ ms) = some t ↔ ∃ m, M.run s ls = some m ∧ M.run m ms = some t := by
  induction ls generalizing s with
  | nil => simp
  | cons l ls ih =>
      rw [List.cons_append, run_cons_eq_some]
      constructor
      · rintro ⟨a, hstep, hrest⟩
        obtain ⟨m, hm, hms⟩ := ih.mp hrest
        exact ⟨m, (M.run_cons_eq_some).mpr ⟨a, hstep, hm⟩, hms⟩
      · rintro ⟨m, hls, hms⟩
        obtain ⟨a, hstep, ha⟩ := (M.run_cons_eq_some).mp hls
        exact ⟨a, hstep, ih.mpr ⟨m, ha, hms⟩⟩

/-! ## Conditions on the steps of a run -/

@[simp]
theorem stepsMeet_nil (C : σ → ℓ → Prop) (s : σ) : M.StepsMeet C s [] :=
  trivial

theorem stepsMeet_true (s : σ) (ls : List ℓ) : M.StepsMeet (fun _ _ => True) s ls := by
  induction ls generalizing s with
  | nil => trivial
  | cons l ls ih => exact ⟨trivial, fun t _ => ih t⟩

/-- A decidable condition can be checked along a run. -/
instance decidableStepsMeet (C : σ → ℓ → Prop) [∀ s l, Decidable (C s l)] :
    (s : σ) → (ls : List ℓ) → Decidable (M.StepsMeet C s ls)
  | _, [] => isTrue trivial
  | s, l :: ls =>
      match h : M.step s l with
      | none => decidable_of_iff (C s l) (by simp [StepsMeet, h])
      | some t =>
          have := decidableStepsMeet C t ls
          decidable_of_iff (C s l ∧ M.StepsMeet C t ls) (by simp [StepsMeet, h])

variable {M}

theorem stepsMeet_of_labels {P : ℓ → Prop} {s : σ} {ls : List ℓ} (h : ∀ l ∈ ls, P l) :
    M.StepsMeet (fun _ l => P l) s ls := by
  induction ls generalizing s with
  | nil => trivial
  | cons l ls ih =>
      exact ⟨h l List.mem_cons_self, fun t _ => ih fun m hm => h m (List.mem_cons_of_mem _ hm)⟩

/-! ## The invariant rule -/

/-- An invariant of all steps that meet `C` holds at the end of every run whose
steps meet `C`. -/
theorem run_invariant {C : σ → ℓ → Prop} {I : σ → Prop}
    (hstep : ∀ s l t, I s → C s l → M.step s l = some t → I t)
    {s t : σ} {ls : List ℓ} (hs : I s) (hC : M.StepsMeet C s ls)
    (hrun : M.run s ls = some t) : I t := by
  induction ls generalizing s with
  | nil =>
      cases hrun
      exact hs
  | cons l ls ih =>
      obtain ⟨a, ha, hrest⟩ := M.run_cons_eq_some.mp hrun
      exact ih (hstep s l a hs hC.1 ha) (hC.2 a ha) hrest

/-- What an invariant says about each step is met by the whole run. -/
theorem StepsMeet.of_invariant {C D : σ → ℓ → Prop} {I : σ → Prop}
    (hstep : ∀ s l t, I s → C s l → M.step s l = some t → I t)
    (hmeet : ∀ s l, I s → C s l → D s l) {s : σ} {ls : List ℓ} (hs : I s)
    (hC : M.StepsMeet C s ls) : M.StepsMeet D s ls := by
  induction ls generalizing s with
  | nil => trivial
  | cons l ls ih =>
      exact ⟨hmeet s l hs hC.1, fun t ht => ih (hstep s l t hs hC.1 ht) (hC.2 t ht)⟩

/-- Two conditions that agree in the states of an invariant are met by the same runs. -/
theorem stepsMeet_congr {C D : σ → ℓ → Prop} {I : σ → Prop}
    (hstep : ∀ s l t, I s → C s l → M.step s l = some t → I t)
    (hmeet : ∀ s l, I s → (C s l ↔ D s l)) {s : σ} {ls : List ℓ} (hs : I s) :
    M.StepsMeet C s ls ↔ M.StepsMeet D s ls := by
  induction ls generalizing s with
  | nil => exact Iff.rfl
  | cons l ls ih =>
      constructor
      · rintro ⟨hC, hrest⟩
        refine ⟨(hmeet s l hs).mp hC, fun t ht => ?_⟩
        exact (ih (hstep s l t hs hC ht)).mp (hrest t ht)
      · rintro ⟨hD, hrest⟩
        have hC := (hmeet s l hs).mpr hD
        refine ⟨hC, fun t ht => ?_⟩
        exact (ih (hstep s l t hs hC ht)).mpr (hrest t ht)

/-- A predicate of the state behind each step is a predicate of every state that the run
reaches. -/
theorem stepsMeet_next_iff {P : σ → Prop} {s : σ} {ls : List ℓ} (hs : P s) :
    M.StepsMeet (fun s l => ∀ t, M.step s l = some t → P t) s ls ↔
      ∀ ms t, ms <+: ls → M.run s ms = some t → P t := by
  induction ls generalizing s with
  | nil =>
      refine ⟨fun _ ms t hms hrun => ?_, fun _ => trivial⟩
      cases List.prefix_nil.mp hms
      cases hrun
      exact hs
  | cons l ls ih =>
      constructor
      · rintro ⟨hstep, hrest⟩ ms t hms hrun
        cases ms with
        | nil =>
            cases hrun
            exact hs
        | cons m ms =>
            obtain ⟨hm, hms'⟩ := List.cons_prefix_cons.mp hms
            obtain ⟨a, ha, hrun⟩ := M.run_cons_eq_some.mp hrun
            rw [hm] at ha
            exact (ih (hstep a ha)).mp (hrest a ha) ms t hms' hrun
      · intro h
        have hstep : ∀ t, M.step s l = some t → P t := fun t ht =>
          h [l] t (List.cons_prefix_cons.mpr ⟨rfl, List.nil_prefix⟩)
            (M.run_cons_eq_some.mpr ⟨t, ht, rfl⟩)
        refine ⟨hstep, fun a ha => (ih (hstep a ha)).mpr fun ms t hms hrun => ?_⟩
        exact h (l :: ms) t (List.cons_prefix_cons.mpr ⟨rfl, hms⟩)
          (M.run_cons_eq_some.mpr ⟨a, ha, hrun⟩)

/-- A condition says of each step whether it keeps the predicate `P`: then it is met by a run
if and only if `P` holds in every state that the run reaches. -/
theorem stepsMeet_iff_reached {C : σ → ℓ → Prop} {I P : σ → Prop}
    (hstep : ∀ s l t, I s → P s → M.step s l = some t → I t ∧ (C s l ↔ P t))
    {s t : σ} {ls : List ℓ} (hI : I s) (hP : P s) (hrun : M.run s ls = some t) :
    M.StepsMeet C s ls ↔ ∀ ms u, ms <+: ls → M.run s ms = some u → P u := by
  rw [← stepsMeet_next_iff hP]
  induction ls generalizing s with
  | nil => exact Iff.rfl
  | cons l ls ih =>
      obtain ⟨a, ha, hrest⟩ := M.run_cons_eq_some.mp hrun
      obtain ⟨hIa, hkeep⟩ := hstep s l a hI hP ha
      have hnext (D : σ → ℓ → Prop) : (∀ b, M.step s l = some b → M.StepsMeet D b ls) ↔
          M.StepsMeet D a ls := by
        simp [ha]
      rw [StepsMeet, StepsMeet, hnext, hnext, hkeep]
      constructor
      · rintro ⟨hPa, hC⟩
        refine ⟨fun b hb => ?_, (ih hIa hPa hrest).mp hC⟩
        rw [ha] at hb
        cases hb
        exact hPa
      · rintro ⟨hPa, hD⟩
        exact ⟨hPa a ha, (ih hIa (hPa a ha) hrest).mpr hD⟩

/-- An invariant of all steps holds at the end of every run. -/
theorem run_invariant_of_step {I : σ → Prop}
    (hstep : ∀ s l t, I s → M.step s l = some t → I t)
    {s t : σ} {ls : List ℓ} (hs : I s) (hrun : M.run s ls = some t) : I t :=
  run_invariant (C := fun _ _ => True) (fun s l t hi _ h => hstep s l t hi h) hs
    (M.stepsMeet_true s ls) hrun

/-- The invariant rule for an invariant that also speaks about the labels so far. -/
theorem run_invariant_labels {C : σ → ℓ → Prop} {I : List ℓ → σ → Prop}
    (hstep : ∀ ms s l t, I ms s → C s l → M.step s l = some t → I (ms ++ [l]) t)
    {s t : σ} {ms ls : List ℓ} (hs : I ms s) (hC : M.StepsMeet C s ls)
    (hrun : M.run s ls = some t) : I (ms ++ ls) t := by
  induction ls generalizing s ms with
  | nil =>
      cases hrun
      rwa [List.append_nil]
  | cons l ls ih =>
      obtain ⟨a, ha, hrest⟩ := M.run_cons_eq_some.mp hrun
      rw [List.append_cons]
      exact ih (hstep ms s l a hs hC.1 ha) (hC.2 a ha) hrest

/-- When every step of a kind makes a measure smaller, a run of such steps is no longer than
the measure says. -/
theorem run_length_le {P : ℓ → Prop} {I : σ → Prop} {μ : σ → ℕ}
    (hstep : ∀ s l t, I s → P l → M.step s l = some t → I t ∧ μ t < μ s)
    {s t : σ} {ls : List ℓ} (hs : I s) (hls : ∀ l ∈ ls, P l) (hrun : M.run s ls = some t) :
    I t ∧ ls.length + μ t ≤ μ s := by
  induction ls generalizing s with
  | nil =>
      cases hrun
      exact ⟨hs, by simp⟩
  | cons l ls ih =>
      obtain ⟨a, ha, hrest⟩ := M.run_cons_eq_some.mp hrun
      obtain ⟨hI, hlt⟩ := hstep s l a hs (hls l List.mem_cons_self) ha
      obtain ⟨ht, hle⟩ := ih hI (fun m hm => hls m (List.mem_cons_of_mem _ hm)) hrest
      refine ⟨ht, ?_⟩
      rw [List.length_cons]
      omega

/-! ## Simulation -/

/-- If every step from a related state is matched by a run of the other system, every
run is.  The invariant of the other system may be used for the steps. -/
theorem run_simulation {τ κ : Type*} {N : TransitionSystem τ κ} {C : σ → ℓ → Prop}
    {R : σ → τ → Prop} {I : τ → Prop} (hI : ∀ a k b, I a → N.step a k = some b → I b)
    (hstep : ∀ s l t a, R s a → I a → C s l → M.step s l = some t →
      ∃ ks b, N.run a ks = some b ∧ R t b)
    {s t : σ} {a : τ} {ls : List ℓ} (hR : R s a) (ha : I a) (hC : M.StepsMeet C s ls)
    (hrun : M.run s ls = some t) : ∃ ks b, N.run a ks = some b ∧ R t b := by
  induction ls generalizing s a with
  | nil =>
      cases hrun
      exact ⟨[], a, rfl, hR⟩
  | cons l ls ih =>
      obtain ⟨m, hm, hrest⟩ := M.run_cons_eq_some.mp hrun
      obtain ⟨ks, b, hks, hb⟩ := hstep s l m a hR ha hC.1 hm
      obtain ⟨ks', b', hks', hb'⟩ := ih hb (run_invariant_of_step hI ha hks) (hC.2 m hm) hrest
      exact ⟨ks ++ ks', b', N.run_append.mpr ⟨b, hks, hks'⟩, hb'⟩

end TransitionSystem
