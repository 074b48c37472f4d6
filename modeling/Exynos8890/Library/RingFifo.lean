import Mathlib.Tactic

/-!
# Bounded queues and the rings that store them

A first-in first-out queue that refuses items above its capacity, the history
of its operations, and the storage of such a queue in a ring of slots between
two counters that only grow.

Main results:

- Structure `Fifo.History`: what was returned followed by what is queued is
  what was accepted, kept by every operation.
- Theorems `Stores.push` and `Stores.pop`: writing the slot behind the last item
  appends an item, and advancing the read counter removes the first one.
- Theorems `Stores.setIfInBounds` and `Stores.concat`: a push in two steps.
- Theorem `Stores.window_eq`: reading the slots back yields the queue.
-/

universe u

namespace Fifo

variable {α : Type u} {capacity : Nat}

/-! ## The history of a bounded queue -/

/-- The items ever accepted, ever returned and now queued. -/
structure History (α : Type u) (capacity : Nat) where
  accepted : List α
  returned : List α
  queued : List α
  bounded : queued.length ≤ capacity
  conserved : returned ++ queued = accepted

namespace History

/-- Nothing has happened. -/
def start : History α capacity where
  accepted := []
  returned := []
  queued := []
  bounded := Nat.zero_le capacity
  conserved := rfl

/-- Append an item unless the queue is full. -/
def push (h : History α capacity) (a : α) : History α capacity :=
  if hroom : h.queued.length < capacity then
    { accepted := h.accepted ++ [a]
      returned := h.returned
      queued := h.queued ++ [a]
      bounded := by simpa using hroom
      conserved := by rw [← List.append_assoc, h.conserved] }
  else h

/-- Return the first item, if there is one. -/
def pop (h : History α capacity) : History α capacity :=
  match hq : h.queued with
  | [] => h
  | a :: rest =>
      { accepted := h.accepted
        returned := h.returned ++ [a]
        queued := rest
        bounded := by
          have := h.bounded
          rw [hq, List.length_cons] at this
          omega
        conserved := by
          rw [List.append_assoc, List.singleton_append, ← hq, h.conserved] }

theorem push_of_lt {h : History α capacity} (a : α) (hroom : h.queued.length < capacity) :
    (h.push a).accepted = h.accepted ++ [a] ∧ (h.push a).returned = h.returned ∧
      (h.push a).queued = h.queued ++ [a] := by
  simp [push, hroom]

theorem push_of_full {h : History α capacity} (a : α) (hfull : ¬ h.queued.length < capacity) :
    h.push a = h := by
  simp [push, hfull]

theorem pop_of_nil {h : History α capacity} (hq : h.queued = []) : h.pop = h := by
  unfold pop
  split
  · rfl
  · rename_i a rest hcons
    simp [hq] at hcons

theorem pop_of_cons {h : History α capacity} {a : α} {rest : List α}
    (hq : h.queued = a :: rest) :
    h.pop.accepted = h.accepted ∧ h.pop.returned = h.returned ++ [a] ∧ h.pop.queued = rest := by
  unfold pop
  split
  · rename_i hnil
    simp [hq] at hnil
  · rename_i b rest' hcons
    obtain ⟨rfl, rfl⟩ : b = a ∧ rest' = rest := by simpa [hq] using hcons.symm
    exact ⟨rfl, rfl, rfl⟩

end History

/-! ## Storage in a ring -/

section Ring

variable {size : Nat}

/-- The slots from the read counter `r` on hold the items of `queue`. -/
def Stores (slots : Vector α size) (r : Nat) (queue : List α) : Prop :=
  ∀ i (h : i < queue.length), slots[(r + i) % size]? = some queue[i]

/-- The contents of the `len` slots from the read counter `r` on. -/
def window (slots : Vector α size) (r len : Nat) : List α :=
  (List.range len).filterMap fun i => slots[(r + i) % size]?

theorem Stores.nil (slots : Vector α size) (r : Nat) : Stores slots r [] := by
  intro i h
  exact absurd h (Nat.not_lt_zero i)

theorem Stores.window_eq {slots : Vector α size} {r : Nat} {queue : List α}
    (h : Stores slots r queue) : window slots r queue.length = queue := by
  have hmap : window slots r queue.length =
      (List.range queue.length).filterMap fun i => queue[i]? := by
    refine List.filterMap_congr ?_
    intro i hi
    have hlt := List.mem_range.mp hi
    rw [h i hlt, List.getElem?_eq_getElem hlt]
  rw [hmap]
  clear h hmap
  induction queue using List.reverseRecOn with
  | nil => rfl
  | append_singleton xs x ih =>
      rw [List.length_append, List.length_singleton, List.range_succ, List.filterMap_append]
      have hinit : (List.range xs.length).filterMap (fun i => (xs ++ [x])[i]?) =
          (List.range xs.length).filterMap fun i => xs[i]? := by
        refine List.filterMap_congr ?_
        intro i hi
        rw [List.getElem?_append_left (List.mem_range.mp hi)]
      rw [hinit, ih]
      simp

/-- Two counters less than the size apart use different slots. -/
theorem slot_ne {r i j : Nat} (hij : i < j) (hj : j < size) :
    (r + i) % size ≠ (r + j) % size := by
  intro heq
  have hdvd : size ∣ j - i := by
    have := (Nat.modEq_iff_dvd' (by omega)).mp (show r + i ≡ r + j [MOD size] from heq)
    rwa [Nat.add_sub_add_left] at this
  have := Nat.le_of_dvd (by omega) hdvd
  omega

/-- Writing the slot behind the last item appends an item, while there is room. -/
theorem Stores.push {slots : Vector α size} {r : Nat} {queue : List α}
    (h : Stores slots r queue) (a : α) (hroom : queue.length < size)
    (hslot : (r + queue.length) % size < size) :
    Stores (slots.set ((r + queue.length) % size) a hslot) r (queue ++ [a]) := by
  intro i hi
  rw [List.length_append, List.length_singleton] at hi
  by_cases hlast : i = queue.length
  · subst hlast
    simp [hslot]
  · have hlt : i < queue.length := by omega
    rw [Vector.getElem?_set, if_neg (slot_ne hlt hroom).symm, h i hlt,
      List.getElem_append_left hlt]

/-- The slot behind the last item may be written while there is room. -/
theorem Stores.setIfInBounds {slots : Vector α size} {r : Nat} {queue : List α}
    (h : Stores slots r queue) (a : α) (hroom : queue.length < size) :
    Stores (slots.setIfInBounds ((r + queue.length) % size) a) r queue := by
  intro i hi
  rw [Vector.getElem?_setIfInBounds, if_neg (slot_ne hi hroom).symm]
  exact h i hi

/-- An item that is in the slot behind the last one joins the queue. -/
theorem Stores.concat {slots : Vector α size} {r : Nat} {queue : List α} {a : α}
    (h : Stores slots r queue) (ha : slots[(r + queue.length) % size]? = some a) :
    Stores slots r (queue ++ [a]) := by
  intro i hi
  rw [List.length_append, List.length_singleton] at hi
  rcases Nat.lt_or_eq_of_le (Nat.le_of_lt_succ hi) with hlt | rfl
  · rw [h i hlt, List.getElem_append_left hlt]
  · rw [ha, List.getElem_concat_length rfl]

theorem Stores.pop {slots : Vector α size} {r : Nat} {a : α} {queue : List α}
    (h : Stores slots r (a :: queue)) : Stores slots (r + 1) queue := by
  intro i hi
  have := h (i + 1) (by simpa using hi)
  rwa [← Nat.add_assoc, Nat.add_right_comm, List.getElem_cons_succ] at this

theorem Stores.congr {slots : Vector α size} {r r' : Nat} {queue : List α}
    (h : Stores slots r queue) (hr : r % size = r' % size) : Stores slots r' queue := by
  intro i hi
  rw [← h i hi, Nat.add_mod r' i, ← hr, ← Nat.add_mod]

end Ring

end Fifo
