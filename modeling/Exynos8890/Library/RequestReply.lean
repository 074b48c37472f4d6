import Mathlib.Tactic

/-!
# Requests and their answers

One party asks, another one answers, and at most one request waits at a time.  A step of
the system may take a request, answer it at once, answer the one that waits, or do neither.
A history that is built from such steps gives every request one answer, in the order of
the requests.

Main results:

- Definition `Turn`: what one step does to the request that waits.
- Theorem `InOrder.turn`: a step keeps the answers in the order of the requests.
- Theorem `InOrder.forall₂`: with no request waiting, all of them have been answered.
- Theorem `InOrder.length_le`: there are as many answers as requests, or one less.
-/

namespace RequestReply

variable {Q A : Type} {fits : Q → A → Prop} {waits waits' : Option Q → Prop}
  {asked : List Q} {answers : List A}

/-- The answers so far belong to the requests in their order, and what has no answer yet is
a request that may wait. -/
def InOrder (fits : Q → A → Prop) (waits : Option Q → Prop) (asked : List Q)
    (answers : List A) : Prop :=
  ∃ done waiting, asked = done ++ waiting.toList ∧ List.Forall₂ fits done answers ∧ waits waiting

/-- What a step does: the requests it takes, and the answers it gives. -/
inductive Turn (fits : Q → A → Prop) (waits waits' : Option Q → Prop) :
    List Q → List A → Prop where
  | silent (hkept : ∀ w, waits w → waits' w) : Turn fits waits waits' [] []
  | taken {q} (hfree : ∀ w, waits w → w = none) (hwaits : waits' (some q)) :
      Turn fits waits waits' [q] []
  | atOnce {q a} (hfree : ∀ w, waits w → w = none) (hfits : fits q a) (hdone : waits' none) :
      Turn fits waits waits' [q] [a]
  | answered {a} (hfits : ∀ w, waits w → ∃ q, w = some q ∧ fits q a) (hdone : waits' none) :
      Turn fits waits waits' [] [a]

theorem inOrder_nil (h : waits none) : InOrder fits waits [] [] :=
  ⟨[], none, rfl, List.Forall₂.nil, h⟩

theorem forall₂_concat {done : List Q} {q : Q} {a : A} (hdone : List.Forall₂ fits done answers)
    (h : fits q a) : List.Forall₂ fits (done ++ [q]) (answers ++ [a]) :=
  List.rel_append hdone (List.Forall₂.cons h List.Forall₂.nil)

/-- A step keeps the answers in the order of the requests. -/
theorem InOrder.turn {taken : List Q} {given : List A} (h : InOrder fits waits asked answers)
    (hturn : Turn fits waits waits' taken given) :
    InOrder fits waits' (asked ++ taken) (answers ++ given) := by
  obtain ⟨done, waiting, rfl, hdone, hwaiting⟩ := h
  cases hturn with
  | silent hkept =>
      rw [List.append_nil, List.append_nil]
      exact ⟨done, waiting, rfl, hdone, hkept waiting hwaiting⟩
  | @taken q hfree hwaits =>
      obtain rfl := hfree waiting hwaiting
      refine ⟨done, some q, ?_, ?_, hwaits⟩
      · simp
      · rwa [List.append_nil]
  | @atOnce q a hfree hfits hnone =>
      obtain rfl := hfree waiting hwaiting
      refine ⟨done ++ [q], none, ?_, forall₂_concat hdone hfits, hnone⟩
      simp
  | @answered a hfits hnone =>
      obtain ⟨q, rfl, hq⟩ := hfits waiting hwaiting
      refine ⟨done ++ [q], none, ?_, forall₂_concat hdone hq, hnone⟩
      simp

theorem InOrder.forall₂ (h : InOrder fits waits asked answers)
    (hfree : ∀ w, waits w → w = none) : List.Forall₂ fits asked answers := by
  obtain ⟨done, waiting, rfl, hdone, hwaiting⟩ := h
  obtain rfl := hfree waiting hwaiting
  simpa using hdone

theorem InOrder.length_le (h : InOrder fits waits asked answers) :
    answers.length ≤ asked.length ∧ asked.length ≤ answers.length + 1 := by
  obtain ⟨done, waiting, rfl, hdone, -⟩ := h
  rw [List.length_append, hdone.length_eq]
  cases waiting <;> simp

theorem InOrder.take (h : InOrder fits waits asked answers) :
    List.Forall₂ fits (asked.take answers.length) answers := by
  obtain ⟨done, waiting, rfl, hdone, -⟩ := h
  rwa [← hdone.length_eq, List.take_left]

end RequestReply
