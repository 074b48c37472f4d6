import Mathlib.Data.List.Infix
import Mathlib.Tactic

/-!
# Searches in terminated text

A search for a pattern goes through a text until the pattern or the terminator is found.  The
text is what the memory holds from some place on, and a search that finds neither runs off it.

Main results:

- Theorem `search_eq_foundAt_iff`: a search finds the first occurrence that no terminator precedes.
- Theorem `search_eq_beyond_iff`: it runs off a text without the pattern and the terminator.
- Theorem `within_find_bind`: when a computation that starts with a search stays inside a text.
-/

namespace TextSearch

variable {α : Type}

/-! ## Occurrences -/

/-- The pattern stands in the text. -/
def OccursAt (fold : α → α) (pattern text : List α) (i : Nat) : Prop :=
  pattern.map fold <+: (text.drop i).map fold

/-- The first occurrence, in front of any terminator. -/
structure IsFirst (fold : α → α) (nul : α) (pattern text : List α) (i : Nat) : Prop where
  occurs : OccursAt fold pattern text i
  first : ∀ j < i, ¬ OccursAt fold pattern text j
  noNul : nul ∉ text.take i

/-- There is a terminator or the pattern in the text. -/
def Stops (fold : α → α) (nul : α) (pattern text : List α) : Prop :=
  nul ∈ text ∨ ∃ i, OccursAt fold pattern text i

/-- Patterns are not empty, and the terminator is like no character of them. -/
structure Searchable (fold : α → α) (nul : α) (pattern : List α) : Prop where
  nonempty : pattern ≠ []
  noNul : fold nul ∉ pattern.map fold

theorem OccursAt.length_le {fold : α → α} {pattern text : List α} {i : Nat}
    (h : OccursAt fold pattern text i) (hpattern : pattern ≠ []) :
    i + pattern.length ≤ text.length := by
  have hle := List.IsPrefix.length_le h
  rw [List.length_map, List.length_map, List.length_drop] at hle
  have hpos := List.length_pos_iff.mpr hpattern
  omega

/-! ## One search -/

section Search

variable [DecidableEq α]

/-- How the comparison of a pattern with a text ends. -/
inductive Compared where
  | matched
  | different
  | beyond
deriving DecidableEq, Repr

/-- The characters are compared after `fold`, one by one. -/
def compare (fold : α → α) : List α → List α → Compared
  | [], _ => .matched
  | _ :: _, [] => .beyond
  | n :: ns, c :: cs => if fold c = fold n then compare fold ns cs else .different

/-- How a search ends: at the pattern, at the terminator, or behind the text. -/
inductive Found where
  | foundAt (i : Nat)
  | endedAt (i : Nat)
  | beyond
deriving DecidableEq, Repr

/-- The same, seen from one character before. -/
def Found.succ : Found → Found
  | .foundAt i => .foundAt (i + 1)
  | .endedAt i => .endedAt (i + 1)
  | .beyond => .beyond

/-- The search for a pattern. -/
def search (fold : α → α) (nul : α) (pattern : List α) : List α → Found
  | [] => .beyond
  | c :: cs =>
      match compare fold pattern (c :: cs) with
      | .matched => .foundAt 0
      | .different => if c = nul then .endedAt 0 else (search fold nul pattern cs).succ
      | .beyond => .beyond

variable {fold : α → α} {nul : α} {pattern : List α}

theorem compare_eq_matched_iff (text : List α) :
    compare fold pattern text = .matched ↔ OccursAt fold pattern text 0 := by
  rw [OccursAt, List.drop_zero]
  induction pattern generalizing text with
  | nil => simp [compare]
  | cons n ns ih =>
      cases text with
      | nil => simp [compare]
      | cons c cs =>
          rw [compare, List.map_cons, List.map_cons, List.cons_prefix_cons, ← ih]
          by_cases hc : fold c = fold n
          · rw [if_pos hc]
            exact ⟨fun h => ⟨hc.symm, h⟩, fun h => h.2⟩
          · rw [if_neg hc]
            exact ⟨fun h => Compared.noConfusion h, fun h => absurd h.1.symm hc⟩

theorem prefix_of_compare_beyond {text : List α} (h : compare fold pattern text = .beyond) :
    text.length < pattern.length ∧ text.map fold <+: pattern.map fold := by
  induction pattern generalizing text with
  | nil => cases h
  | cons n ns ih =>
      cases text with
      | nil => exact ⟨Nat.succ_pos _, List.nil_prefix⟩
      | cons c cs =>
          rw [compare] at h
          by_cases hc : fold c = fold n
          · rw [if_pos hc] at h
            obtain ⟨hlength, hprefix⟩ := ih h
            refine ⟨Nat.succ_lt_succ hlength, ?_⟩
            rw [List.map_cons, List.map_cons, List.cons_prefix_cons]
            exact ⟨hc, hprefix⟩
          · rw [if_neg hc] at h
            cases h

theorem compare_append {text : List α} (h : compare fold pattern text ≠ .beyond)
    (after : List α) : compare fold pattern (text ++ after) = compare fold pattern text := by
  induction pattern generalizing text with
  | nil => rfl
  | cons n ns ih =>
      cases text with
      | nil => exact absurd rfl h
      | cons c cs =>
          rw [compare] at h
          rw [List.cons_append, compare, compare]
          by_cases hc : fold c = fold n
          · rw [if_pos hc] at h
            rw [if_pos hc, if_pos hc, ih h]
          · rw [if_neg hc, if_neg hc]

/-- A search that runs off the text is the only one that what stands behind can change. -/
theorem search_append {text : List α} (h : search fold nul pattern text ≠ .beyond)
    (after : List α) : search fold nul pattern (text ++ after) = search fold nul pattern text := by
  induction text with
  | nil => exact absurd rfl h
  | cons c cs ih =>
      rw [search] at h
      rw [List.cons_append, search, search]
      cases hcompare : compare fold pattern (c :: cs) with
      | beyond =>
          rw [hcompare] at h
          exact absurd rfl h
      | matched =>
          have happend := compare_append (by rw [hcompare]; decide) after
          rw [List.cons_append, hcompare] at happend
          rw [happend]
      | different =>
          have happend := compare_append (by rw [hcompare]; decide) after
          rw [List.cons_append, hcompare] at happend
          rw [hcompare] at h
          rw [happend]
          dsimp only at h ⊢
          split
          · rfl
          · rename_i hc
            rw [if_neg hc] at h
            rw [ih]
            intro hbeyond
            exact h (by rw [hbeyond]; rfl)

theorem endedAt_lt {text : List α} {i : Nat} (h : search fold nul pattern text = .endedAt i) :
    i < text.length := by
  induction text generalizing i with
  | nil => cases h
  | cons c cs ih =>
      rw [search] at h
      split at h
      · cases h
      · split at h
        · cases h
          exact Nat.succ_pos _
        · cases hrest : search fold nul pattern cs with
          | foundAt j =>
              rw [hrest] at h
              cases h
          | endedAt j =>
              rw [hrest] at h
              cases h
              exact Nat.succ_lt_succ (ih hrest)
          | beyond =>
              rw [hrest] at h
              cases h
      · cases h

theorem search_eq_foundAt_iff (hpattern : Searchable fold nul pattern) (text : List α) (i : Nat) :
    search fold nul pattern text = .foundAt i ↔ IsFirst fold nul pattern text i := by
  induction text generalizing i with
  | nil =>
      refine ⟨fun h => Found.noConfusion h, fun h => ?_⟩
      have hle := h.occurs.length_le hpattern.nonempty
      have hpos := List.length_pos_iff.mpr hpattern.nonempty
      rw [List.length_nil] at hle
      omega
  | cons c cs ih =>
      rw [search]
      cases hcompare : compare fold pattern (c :: cs) with
      | beyond =>
          refine ⟨fun h => Found.noConfusion h, fun h => ?_⟩
          have hle := h.occurs.length_le hpattern.nonempty
          have hlt := (prefix_of_compare_beyond hcompare).1
          omega
      | matched =>
          have hoccurs := (compare_eq_matched_iff _).mp hcompare
          constructor
          · intro h
            cases h
            exact ⟨hoccurs, fun j hj => absurd hj (Nat.not_lt_zero j), List.not_mem_nil⟩
          · intro h
            cases i with
            | zero => rfl
            | succ i => exact absurd hoccurs (h.first 0 (Nat.succ_pos i))
      | different =>
          have hnot : ¬ OccursAt fold pattern (c :: cs) 0 := by
            rw [← compare_eq_matched_iff, hcompare]
            decide
          dsimp only
          cases i with
          | zero =>
              refine ⟨fun h => ?_, fun h => absurd h.occurs hnot⟩
              split at h
              · cases h
              · cases hrest : search fold nul pattern cs <;> rw [hrest] at h <;> cases h
          | succ i =>
              by_cases hc : c = nul
              · rw [if_pos hc]
                refine ⟨fun h => Found.noConfusion h, fun h => absurd ?_ h.noNul⟩
                rw [hc]
                exact List.mem_cons_self
              · have hsucc : (search fold nul pattern cs).succ = .foundAt (i + 1) ↔
                    search fold nul pattern cs = .foundAt i := by
                  cases search fold nul pattern cs <;> simp [Found.succ]
                rw [if_neg hc, hsucc, ih]
                constructor
                · intro h
                  refine ⟨h.occurs, fun j hj => ?_, ?_⟩
                  · cases j with
                    | zero => exact hnot
                    | succ j => exact h.first j (Nat.lt_of_succ_lt_succ hj)
                  · rw [List.take_succ_cons, List.mem_cons]
                    rintro (heq | hmem)
                    · exact hc heq.symm
                    · exact h.noNul hmem
                · intro h
                  refine ⟨h.occurs, fun j hj => ?_, fun hmem => ?_⟩
                  · exact h.first (j + 1) (Nat.succ_lt_succ hj)
                  · exact h.noNul (List.mem_cons_of_mem c hmem)

theorem search_singleton {c : α} (hc : c ≠ nul) {before : List α} (hbefore : c ∉ before)
    (hnul : nul ∉ before) (after : List α) :
    search id nul [c] (before ++ c :: after) = .foundAt before.length := by
  have hpattern : Searchable id nul [c] :=
    ⟨List.cons_ne_nil c [], fun hmem => hc (List.mem_singleton.mp hmem).symm⟩
  refine (search_eq_foundAt_iff hpattern _ _).mpr ⟨?_, fun j hj hoccurs => ?_, ?_⟩
  · rw [OccursAt, List.drop_left, List.map_id, List.map_id]
    exact List.prefix_append [c] after
  · rw [OccursAt, List.drop_append_of_le_length hj.le, List.map_id, List.map_id,
      List.drop_eq_getElem_cons hj, List.cons_append, List.cons_prefix_cons] at hoccurs
    exact hbefore (hoccurs.1 ▸ List.getElem_mem hj)
  · rw [List.take_left]
    exact hnul

/-- A search runs off a text that has nothing to stop it. -/
theorem search_eq_beyond_iff (hpattern : Searchable fold nul pattern) (text : List α) :
    search fold nul pattern text = .beyond ↔ ¬ Stops fold nul pattern text := by
  induction text with
  | nil =>
      refine ⟨fun _ h => ?_, fun _ => rfl⟩
      obtain hmem | ⟨i, hi⟩ := h
      · exact List.not_mem_nil hmem
      · have hle := hi.length_le hpattern.nonempty
        have hpos := List.length_pos_iff.mpr hpattern.nonempty
        rw [List.length_nil] at hle
        omega
  | cons c cs ih =>
      rw [search]
      cases hcompare : compare fold pattern (c :: cs) with
      | beyond =>
          obtain ⟨hlt, hbegins⟩ := prefix_of_compare_beyond hcompare
          refine ⟨fun _ h => ?_, fun _ => rfl⟩
          obtain hmem | ⟨i, hi⟩ := h
          · exact hpattern.noNul (hbegins.subset (List.mem_map_of_mem hmem))
          · have hle := hi.length_le hpattern.nonempty
            omega
      | matched =>
          have hoccurs := (compare_eq_matched_iff _).mp hcompare
          exact ⟨fun h => Found.noConfusion h, fun h => absurd (Or.inr ⟨0, hoccurs⟩) h⟩
      | different =>
          have hnot : ¬ OccursAt fold pattern (c :: cs) 0 := by
            rw [← compare_eq_matched_iff, hcompare]
            decide
          dsimp only
          by_cases hc : c = nul
          · rw [if_pos hc]
            refine ⟨fun h => Found.noConfusion h, fun h => absurd (Or.inl ?_) h⟩
            rw [hc]
            exact List.mem_cons_self
          · have hsucc : (search fold nul pattern cs).succ = .beyond ↔
                search fold nul pattern cs = .beyond := by
              cases search fold nul pattern cs <;> simp [Found.succ]
            rw [if_neg hc, hsucc, ih, not_iff_not]
            constructor
            · rintro (hmem | ⟨i, hi⟩)
              · exact Or.inl (List.mem_cons_of_mem c hmem)
              · exact Or.inr ⟨i + 1, hi⟩
            · rintro (hmem | ⟨i, hi⟩)
              · obtain heq | hmem := List.mem_cons.mp hmem
                · exact absurd heq.symm hc
                · exact Or.inl hmem
              · cases i with
                | zero => exact absurd hi hnot
                | succ i => exact Or.inr ⟨i, hi⟩

end Search

/-! ## Computations over a text -/

/-- How far a computation has read, and its result if it has not run off the memory. -/
structure Scan (β : Type) where
  reach : Nat
  value : Option β

/-- One computation after the other. -/
def Scan.bind {β γ : Type} (x : Scan β) (f : β → Scan γ) : Scan γ :=
  match x.value with
  | none => ⟨x.reach, none⟩
  | some a => ⟨max x.reach (f a).reach, (f a).value⟩

instance : Monad Scan where
  pure a := ⟨0, some a⟩
  bind := Scan.bind

/-- A copy of some characters. -/
def copy (text : List α) (start length : Nat) : Scan (List α) :=
  if start + length ≤ text.length then
    ⟨start + length, some ((text.drop start).take length)⟩
  else ⟨text.length + 1, none⟩

/-- Nothing behind the text is read, and what stands there changes nothing. -/
def Within {β : Type} (text : List α) (f : List α → Scan β) : Prop :=
  ∀ after, (f (text ++ after)).reach ≤ text.length ∧ (f (text ++ after)).value = (f text).value

section Scan

variable {β γ : Type} {text : List α}

theorem bind_value (x : Scan β) (f : β → Scan γ) :
    (x >>= f).value = x.value.bind fun a => (f a).value := by
  show (Scan.bind x f).value = _
  rw [Scan.bind]
  cases x.value <;> rfl

theorem value_bind {x : Scan β} {f : β → Scan γ} {a : β} (h : x.value = some a) :
    (x >>= f).value = (f a).value := by
  rw [bind_value, h, Option.bind_some]

theorem reach_bind {x : Scan β} {f : β → Scan γ} {a : β} (h : x.value = some a) :
    (x >>= f).reach = max x.reach (f a).reach := by
  show (Scan.bind x f).reach = _
  rw [Scan.bind, h]

theorem reach_le_bind (x : Scan β) (f : β → Scan γ) : x.reach ≤ (x >>= f).reach := by
  show _ ≤ (Scan.bind x f).reach
  rw [Scan.bind]
  split
  · exact le_rfl
  · exact Nat.le_max_left _ _

theorem Scan.bind_assoc {β γ δ : Type} (x : Scan β) (f : β → Scan γ) (g : γ → Scan δ) :
    x >>= f >>= g = x >>= fun a => f a >>= g := by
  show Scan.bind (Scan.bind x f) g = Scan.bind x fun a => Scan.bind (f a) g
  cases hx : x.value with
  | none => simp only [Scan.bind, hx]
  | some a =>
      cases hf : (f a).value with
      | none => simp only [Scan.bind, hx, hf]
      | some b => simp only [Scan.bind, hx, hf, Nat.max_assoc]

@[simp]
theorem within_pure (b : β) : Within text fun _ => (pure b : Scan β) :=
  fun _ => ⟨Nat.zero_le _, rfl⟩

/-- When the first part stays inside, it remains to look at the second. -/
theorem within_bind_iff {x : List α → Scan β} {f : List α → β → Scan γ} {a : β}
    (hx : Within text x) (ha : (x text).value = some a) :
    (Within text fun t => x t >>= f t) ↔ Within text fun t => f t a := by
  refine forall_congr' fun after => ?_
  have hafter : (x (text ++ after)).value = some a := (hx after).2.trans ha
  rw [reach_bind hafter, value_bind hafter, value_bind ha, Nat.max_le]
  exact ⟨fun h => ⟨h.1.2, h.2⟩, fun h => ⟨⟨(hx after).1, h.1⟩, h.2⟩⟩

theorem within_copy_bind {start length : Nat} (h : start + length ≤ text.length)
    {f : List α → List α → Scan γ} :
    (Within text fun t => copy t start length >>= f t) ↔
      Within text fun t => f t ((text.drop start).take length) := by
  have hvalue : (copy text start length).value = some ((text.drop start).take length) := by
    rw [copy, if_pos h]
  refine within_bind_iff (fun after => ?_) hvalue
  rw [hvalue, copy, if_pos (h.trans (by rw [List.length_append]; omega))]
  refine ⟨h, congrArg some ?_⟩
  rw [List.drop_append_of_le_length (by omega),
    List.take_append_of_le_length (by rw [List.length_drop]; omega)]

end Scan

/-! ## Searches -/

/-- The search from a place on, and where it found the pattern. -/
def find [DecidableEq α] (fold : α → α) (nul : α) (pattern text : List α)
    (start : Nat) : Scan (Option Nat) :=
  match search fold nul pattern (text.drop start) with
  | .foundAt i => ⟨start + i + pattern.length, some (some (start + i))⟩
  | .endedAt i => ⟨start + i + 1, some none⟩
  | .beyond => ⟨max start text.length + 1, none⟩

section Find

variable [DecidableEq α] {γ : Type} {fold : α → α} {nul : α} {pattern text : List α}
  {start : Nat}

theorem within_find (hpattern : Searchable fold nul pattern)
    (h : Stops fold nul pattern (text.drop start)) :
    Within text fun t => find fold nul pattern t start := by
  intro after
  have hsearch : search fold nul pattern (text.drop start) ≠ .beyond := by
    rw [Ne, search_eq_beyond_iff hpattern, not_not]
    exact h
  have hstart : start < text.length := by
    by_contra hle
    rw [List.drop_eq_nil_of_le (Nat.not_lt.mp hle)] at hsearch
    exact hsearch rfl
  have happend : find fold nul pattern (text ++ after) start =
      find fold nul pattern text start := by
    rw [find, find, List.drop_append_of_le_length hstart.le, search_append hsearch]
    cases hfound : search fold nul pattern (text.drop start) with
    | foundAt i => rfl
    | endedAt i => rfl
    | beyond => exact absurd hfound hsearch
  dsimp only
  rw [happend]
  refine ⟨?_, rfl⟩
  rw [find]
  cases hfound : search fold nul pattern (text.drop start) with
  | foundAt i =>
      have hle := ((search_eq_foundAt_iff hpattern _ i).mp hfound).occurs.length_le
        hpattern.nonempty
      rw [List.length_drop] at hle
      show start + i + pattern.length ≤ text.length
      omega
  | endedAt i =>
      have hlt := endedAt_lt hfound
      rw [List.length_drop] at hlt
      show start + i + 1 ≤ text.length
      omega
  | beyond => exact absurd hfound hsearch

/-- A computation that starts with a search stays inside exactly when the search stops there,
and so does what comes after it. -/
theorem within_find_bind (hpattern : Searchable fold nul pattern)
    {f : List α → Option Nat → Scan γ} (hnone : Within text fun t => f t none) :
    (Within text fun t => find fold nul pattern t start >>= f t) ↔
      Stops fold nul pattern (text.drop start) ∧
        ∀ i, IsFirst fold nul pattern (text.drop start) i →
          Within text fun t => f t (some (start + i)) := by
  by_cases hstops : Stops fold nul pattern (text.drop start)
  · have hfind := within_find hpattern hstops
    rw [and_iff_right hstops]
    cases hfound : search fold nul pattern (text.drop start) with
    | foundAt i =>
        have hvalue : (find fold nul pattern text start).value = some (some (start + i)) := by
          rw [find, hfound]
        rw [within_bind_iff hfind hvalue]
        constructor
        · intro h j hj
          rw [← search_eq_foundAt_iff hpattern, hfound] at hj
          cases hj
          exact h
        · intro h
          exact h i ((search_eq_foundAt_iff hpattern _ i).mp hfound)
    | endedAt i =>
        have hvalue : (find fold nul pattern text start).value = some none := by
          rw [find, hfound]
        rw [within_bind_iff hfind hvalue]
        refine ⟨fun _ j hj => ?_, fun _ => hnone⟩
        rw [← search_eq_foundAt_iff hpattern, hfound] at hj
        cases hj
    | beyond => exact absurd hstops ((search_eq_beyond_iff hpattern _).mp hfound)
  · refine ⟨fun h => absurd (h []).1 ?_, fun h => absurd h.1 hstops⟩
    have hbeyond := (search_eq_beyond_iff hpattern _).mpr hstops
    rw [List.append_nil]
    intro hle
    have hreach := (reach_le_bind (find fold nul pattern text start) (f text)).trans hle
    rw [find, hbeyond] at hreach
    have hmax : max start text.length + 1 ≤ text.length := hreach
    omega

end Find

end TextSearch
