import Mathlib.Tactic

/-!
# Iterators of a linked list

A doubly linked list is the list of its nodes, and an iterator is a node or the place
behind the last one.  Erasing a node invalidates the iterators on it and no others.  A
reverse iterator is the iterator behind the element that it refers to, its base.

Main results:

- Definition `Valid`: the iterator may be moved, compared and read.
- Theorems `prev_split` and `first_split_iff`: stepping back, and reaching the front, from
  a place in the list.
-/

universe u

namespace NodeList

variable {ν : Type u}

/-- The iterator on the first node, `begin()`. -/
def first (l : List ν) : Option ν :=
  l.head?

/-- The node of the iterator was not erased. -/
def Valid (l : List ν) (it : Option ν) : Prop :=
  ∀ n ∈ it, n ∈ l

instance [DecidableEq ν] (l : List ν) (it : Option ν) : Decidable (Valid l it) :=
  match it with
  | none => isTrue fun _ h => absurd h (Option.not_mem_none _)
  | some n => decidable_of_iff (n ∈ l) (by simp [Valid])

/-- The node in front of an iterator. -/
def prev [DecidableEq ν] (l : List ν) : Option ν → Option ν
  | none => l.getLast?
  | some n => (l.takeWhile fun m => m ≠ n).getLast?

theorem valid_some {l : List ν} {n : ν} : Valid l (some n) ↔ n ∈ l := by
  simp [Valid]

theorem valid_split (l r : List ν) : Valid (l ++ r) r.head? := by
  intro n hn
  exact List.mem_append_right l (List.mem_of_mem_head? hn)

theorem prev_split [DecidableEq ν] {l r : List ν} (h : (l ++ r).Nodup) :
    prev (l ++ r) r.head? = l.getLast? := by
  cases r with
  | nil => rw [List.head?_nil, List.append_nil, prev]
  | cons n r =>
      have hn : ∀ m ∈ l, m ≠ n := by
        intro m hm hmn
        exact List.disjoint_of_nodup_append h hm (hmn ▸ List.mem_cons_self)
      have hfront : (l ++ n :: r).takeWhile (fun m => decide (m ≠ n)) = l := by
        rw [List.takeWhile_append_of_pos (fun m hm => decide_eq_true (hn m hm)),
          List.takeWhile_cons_of_neg (by simp), List.append_nil]
      rw [List.head?_cons, prev, hfront]

/-- The iterator is at the front when nothing is in front of it. -/
theorem first_split_iff {l r : List ν} (h : (l ++ r).Nodup) :
    r.head? = first (l ++ r) ↔ l = [] := by
  cases l with
  | nil => exact iff_of_true rfl rfl
  | cons m l =>
      refine iff_of_false ?_ (List.cons_ne_nil m l)
      intro hfirst
      have hm : m ∈ r := List.mem_of_mem_head? hfirst
      exact (List.nodup_cons.mp h).1 (List.mem_append_right l hm)

end NodeList
