import Mathlib.Data.Multiset.AddSub
import Mathlib.Data.Multiset.UnionInter
import Mathlib.Tactic

/-!
# Cells that are allocated and released

A heap gives out cells one after another.  A cell can be read while it is live, and it can be
released once: to read a released cell, or to release it again, has no result.  What a program
may still read or release is a multiset of cells, so that a cell with two owners is not
forgotten.

Main results:

- Definition `Owns`: the live cells are those of a multiset without duplicates.
- Theorems `Owns.alloc` and `Owns.free`: an allocation adds a cell to what is owned, and a
  release takes one away and leaves all the others as they were.
- Theorem `Owns.released`: when nothing is owned every cell has been released.
- Definition `SameOn`: the cells of a multiset hold what they held before.
-/

universe u

namespace HeapCells

/-! ## Heaps -/

/-- A cell that was never allocated, one that holds a value, or one that was released. -/
inductive Cell (α : Type u) where
  | vacant
  | live (a : α)
  | freed
deriving DecidableEq

/-- The cells, and the address of the next one. -/
structure Heap (α : Type u) where
  cells : Nat → Cell α
  next : Nat

variable {α : Type u}

namespace Heap

def empty : Heap α where
  cells := fun _ => .vacant
  next := 0

/-- The cell of the next allocation, and the heap with it. -/
def alloc (h : Heap α) (a : α) : Nat × Heap α :=
  (h.next, { cells := Function.update h.cells h.next (.live a), next := h.next + 1 })

/-- What a live cell holds. -/
def read (h : Heap α) (n : Nat) : Option α :=
  match h.cells n with
  | .live a => some a
  | .vacant | .freed => none

/-- Give a live cell another value. -/
def write (h : Heap α) (n : Nat) (a : α) : Option (Heap α) :=
  match h.cells n with
  | .live _ => some { h with cells := Function.update h.cells n (.live a) }
  | .vacant | .freed => none

/-- Release a live cell. -/
def free (h : Heap α) (n : Nat) : Option (Heap α) :=
  match h.cells n with
  | .live _ => some { h with cells := Function.update h.cells n .freed }
  | .vacant | .freed => none

/-- Every cell that was allocated has been released. -/
def Released (h : Heap α) : Prop :=
  ∀ n < h.next, h.cells n = .freed

/-- The live cells are those of the multiset, each once. -/
structure Owns (h : Heap α) (m : Multiset Nat) : Prop where
  nodup : m.Nodup
  live : ∀ n, n ∈ m ↔ (h.read n).isSome
  vacant : ∀ n, h.cells n = .vacant ↔ h.next ≤ n

end Heap

/-- The cell of a pointer that may be null. -/
def cell : Option Nat → Multiset Nat
  | none => 0
  | some n => {n}

theorem cell_none : cell none = 0 :=
  rfl

/-! ## What is the same in two heaps -/

/-- The cells of the multiset hold in one heap what they hold in the other. -/
def SameOn (h h' : Heap α) (m : Multiset Nat) : Prop :=
  ∀ n ∈ m, h'.read n = h.read n

section SameOn

variable {h h' h'' : Heap α} {m m' : Multiset Nat}

theorem SameOn.refl (h : Heap α) (m : Multiset Nat) : SameOn h h m :=
  fun _ _ => rfl

theorem SameOn.trans (h₁ : SameOn h h' m) (h₂ : SameOn h' h'' m) : SameOn h h'' m :=
  fun n hn => (h₂ n hn).trans (h₁ n hn)

theorem SameOn.mono (hsame : SameOn h h' m) (hle : ∀ n ∈ m', n ∈ m) : SameOn h h' m' :=
  fun n hn => hsame n (hle n hn)

theorem SameOn.bind_read (hsame : SameOn h h' m) {p : Option Nat} (hp : ∀ n ∈ cell p, n ∈ m) :
    p.bind h'.read = p.bind h.read := by
  cases p with
  | none => rfl
  | some n => exact hsame n (hp n (Multiset.mem_singleton_self n))

end SameOn

namespace Heap

theorem Owns.read_eq_some {h : Heap α} {m : Multiset Nat} (hm : h.Owns m) {n : Nat} (hn : n ∈ m) :
    ∃ a, h.read n = some a :=
  Option.isSome_iff_exists.mp ((hm.live n).mp hn)

theorem Owns.read_eq_none {h : Heap α} {m : Multiset Nat} (hm : h.Owns m) {n : Nat}
    (hn : n ∉ m) : h.read n = none := by
  rw [hm.live] at hn
  exact Option.not_isSome_iff_eq_none.mp hn

/-! ## Allocation -/

theorem read_alloc_self (h : Heap α) (a : α) : (h.alloc a).2.read (h.alloc a).1 = some a := by
  simp [alloc, read]

theorem read_alloc_of_ne (h : Heap α) (a : α) {n : Nat} (hn : n ≠ h.next) :
    (h.alloc a).2.read n = h.read n := by
  simp [alloc, read, hn]

theorem Owns.empty : (empty : Heap α).Owns 0 := by
  constructor
  · exact Multiset.nodup_zero
  · intro n
    exact iff_of_false (Multiset.notMem_zero n) nofun
  · intro n
    exact iff_of_true rfl (Nat.zero_le n)

variable {h h' : Heap α} {m : Multiset Nat} {n : Nat} {a : α}

theorem Owns.read_next (hm : h.Owns m) : h.read h.next = none := by
  rw [read, (hm.vacant h.next).mpr le_rfl]

theorem Owns.next_not_mem (hm : h.Owns m) : h.next ∉ m := by
  rw [hm.live, hm.read_next]
  exact nofun

theorem Owns.ne_next (hm : h.Owns m) (hn : n ∈ m) : n ≠ h.next := by
  rintro rfl
  exact hm.next_not_mem hn

theorem Owns.sameOn_alloc (hm : h.Owns m) (a : α) : SameOn h (h.alloc a).2 m :=
  fun _ hn => h.read_alloc_of_ne a (hm.ne_next hn)

theorem Owns.alloc (hm : h.Owns m) (a : α) : (h.alloc a).2.Owns (h.next ::ₘ m) := by
  constructor
  · exact Multiset.nodup_cons.mpr ⟨hm.next_not_mem, hm.nodup⟩
  · intro k
    rw [Multiset.mem_cons]
    by_cases hk : k = h.next
    · rw [hk]
      exact iff_of_true (Or.inl rfl)
        (by rw [show h.next = (h.alloc a).1 from rfl, read_alloc_self]; rfl)
    · rw [read_alloc_of_ne h a hk, ← hm.live]
      exact or_iff_right hk
  · intro k
    by_cases hk : k = h.next
    · rw [hk]
      simp [Heap.alloc]
    · have hcell : (h.alloc a).2.cells k = h.cells k := Function.update_of_ne hk _ _
      rw [hcell, hm.vacant]
      show h.next ≤ k ↔ h.next + 1 ≤ k
      omega

/-! ## Release -/

theorem free_eq_none_iff : h.free n = none ↔ h.read n = none := by
  unfold free read
  split <;> simp

theorem read_free_of_ne (hfree : h.free n = some h') {k : Nat} (hk : k ≠ n) :
    h'.read k = h.read k := by
  unfold free at hfree
  split at hfree
  · cases hfree
    simp [read, hk]
  · cases hfree
  · cases hfree

theorem read_free_self (hfree : h.free n = some h') : h'.read n = none := by
  unfold free at hfree
  split at hfree
  · cases hfree
    simp [read]
  · cases hfree
  · cases hfree

/-- The owner of a cell can release it, and owns the others from then on. -/
theorem Owns.free (hm : h.Owns (n ::ₘ m)) :
    ∃ h', h.free n = some h' ∧ h'.Owns m ∧ SameOn h h' m := by
  obtain ⟨hn, hnodup⟩ := Multiset.nodup_cons.mp hm.nodup
  have hlive : (h.read n).isSome := (hm.live n).mp (Multiset.mem_cons_self n m)
  cases hfree : h.free n with
  | none =>
      rw [free_eq_none_iff.mp hfree] at hlive
      cases hlive
  | some h' =>
      refine ⟨h', rfl, ⟨hnodup, ?_, ?_⟩, fun k hk => read_free_of_ne hfree ?_⟩
      · intro k
        by_cases hk : k = n
        · rw [hk, read_free_self hfree]
          exact iff_of_false hn nofun
        · rw [read_free_of_ne hfree hk, ← hm.live, Multiset.mem_cons]
          exact (or_iff_right hk).symm
      · intro k
        unfold Heap.free at hfree
        split at hfree
        · rename_i hcell
          cases hfree
          by_cases hk : k = n
          · have hvacant := hm.vacant n
            rw [hcell] at hvacant
            rw [hk]
            simp only [Function.update_self]
            exact iff_of_false nofun (fun hle => nomatch hvacant.mpr hle)
          · simp only [Function.update_of_ne hk]
            exact hm.vacant k
        · cases hfree
        · cases hfree
      · rintro rfl
        exact hn hk

theorem Owns.released (hm : h.Owns 0) : h.Released := by
  intro n hn
  cases hcell : h.cells n with
  | vacant => exact absurd ((hm.vacant n).mp hcell) (by omega)
  | live a =>
      have hmem := (hm.live n).mpr (by rw [read, hcell]; rfl)
      exact absurd hmem (Multiset.notMem_zero n)
  | freed => rfl

end Heap

end HeapCells
