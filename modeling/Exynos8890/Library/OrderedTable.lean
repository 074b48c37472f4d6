import Mathlib.Tactic

/-!
# Ordered tables

A table whose items know their own key, kept as a list in strictly increasing
key order.  It is the value view of a `std::map` from keys to objects that
store their key: iteration is in key order and a key occurs at most once.

Main results:

- Theorem `contains_emplace` and `contains_erase`: how insertion and erasure
  change the keys of a table.
- Theorem `countP_key`: a key is the key of one item or of none.
- Theorem `drain_eq_items`: removing the first item until the table is empty
  visits every item once, in key order.
-/

universe u v

/-- Items in strictly increasing key order. -/
@[ext]
structure OrderedTable {α : Type u} {κ : Type v} [LinearOrder κ] (key : α → κ) where
  items : List α
  sorted : items.Pairwise fun a b => key a < key b

namespace OrderedTable

variable {α : Type u} {κ : Type v} [LinearOrder κ] {key : α → κ}

/-- The table without items. -/
def empty : OrderedTable key where
  items := []
  sorted := List.Pairwise.nil

/-- The item stored under a key. -/
def find? (t : OrderedTable key) (k : κ) : Option α :=
  t.items.find? fun a => key a = k

/-- Whether a key is in use. -/
def contains (t : OrderedTable key) (k : κ) : Bool :=
  t.items.any fun a => key a = k

theorem contains_iff (t : OrderedTable key) (k : κ) :
    t.contains k = true ↔ ∃ a ∈ t.items, key a = k := by
  simp [contains]

/-- A successful search yields an item of the table with that key. -/
theorem contains_of_find? {t : OrderedTable key} {k : κ} {a : α}
    (h : t.find? k = some a) : t.contains k = true := by
  rw [contains_iff]
  exact ⟨a, List.mem_of_find?_eq_some h, by simpa using List.find?_some h⟩

/-! ## Insertion -/

/-- Insert into a key-ordered list, after all smaller keys. -/
def insertItem (key : α → κ) (a : α) : List α → List α
  | [] => [a]
  | b :: bs => if key a < key b then a :: b :: bs else b :: insertItem key a bs

theorem mem_insertItem {a x : α} {l : List α} :
    x ∈ insertItem key a l ↔ x = a ∨ x ∈ l := by
  induction l with
  | nil => simp [insertItem]
  | cons b bs ih =>
      by_cases h : key a < key b
      · simp [insertItem, h]
      · simp only [insertItem, h, if_false, List.mem_cons, ih]
        tauto

theorem pairwise_insertItem {a : α} {l : List α}
    (hl : l.Pairwise fun x y => key x < key y) (ha : ∀ b ∈ l, key b ≠ key a) :
    (insertItem key a l).Pairwise fun x y => key x < key y := by
  induction l with
  | nil => simp [insertItem]
  | cons b bs ih =>
      obtain ⟨hb, hbs⟩ := List.pairwise_cons.mp hl
      by_cases h : key a < key b
      · simp only [insertItem, h, if_true]
        refine List.pairwise_cons.mpr ⟨?_, hl⟩
        intro x hx
        rcases List.mem_cons.mp hx with rfl | hx
        · exact h
        · exact h.trans (hb x hx)
      · simp only [insertItem, h, if_false]
        refine List.pairwise_cons.mpr ⟨?_, ih hbs fun x hx => ha x (List.mem_cons_of_mem b hx)⟩
        intro x hx
        rcases mem_insertItem.mp hx with rfl | hx
        · exact lt_of_le_of_ne (not_lt.mp h) (ha b List.mem_cons_self)
        · exact hb x hx

/-- Store an item unless its key is in use; the flag says whether it was stored. -/
def emplace (t : OrderedTable key) (a : α) : OrderedTable key × Bool :=
  if h : t.contains (key a) = true then (t, false)
  else
    ({ items := insertItem key a t.items
       sorted := pairwise_insertItem t.sorted fun b hb hba =>
         h ((t.contains_iff (key a)).mpr ⟨b, hb, hba⟩) }, true)

theorem emplace_of_contains {t : OrderedTable key} {a : α}
    (h : t.contains (key a) = true) : t.emplace a = (t, false) := by
  simp [emplace, h]

theorem items_emplace_of_not_contains {t : OrderedTable key} {a : α}
    (h : t.contains (key a) = false) :
    (t.emplace a).1.items = insertItem key a t.items := by
  simp [emplace, h]

/-- After an insertion a key is in use when it was or when it is the new one. -/
theorem contains_emplace (t : OrderedTable key) (a : α) (k : κ) :
    (t.emplace a).1.contains k = (decide (key a = k) || t.contains k) := by
  cases h : t.contains (key a) with
  | true =>
      rw [emplace_of_contains h]
      by_cases hk : key a = k
      · subst hk
        simp [h]
      · simp [hk]
  | false =>
      rw [Bool.eq_iff_iff, Bool.or_eq_true, contains_iff, contains_iff,
        items_emplace_of_not_contains h]
      simp only [mem_insertItem, decide_eq_true_eq]
      constructor
      · rintro ⟨x, rfl | hx, hk⟩
        · exact Or.inl hk
        · exact Or.inr ⟨x, hx, hk⟩
      · rintro (hk | ⟨x, hx, hk⟩)
        · exact ⟨a, Or.inl rfl, hk⟩
        · exact ⟨x, Or.inr hx, hk⟩

/-! ## Erasure -/

/-- Remove the item stored under a key. -/
def erase (t : OrderedTable key) (k : κ) : OrderedTable key where
  items := t.items.filter fun a => key a ≠ k
  sorted := t.sorted.filter _

/-- After an erasure a key is in use when it was and is another one. -/
theorem contains_erase (t : OrderedTable key) (k j : κ) :
    (t.erase k).contains j = (decide (j ≠ k) && t.contains j) := by
  rw [Bool.eq_iff_iff, Bool.and_eq_true, contains_iff, contains_iff]
  simp only [erase, List.mem_filter, decide_eq_true_eq]
  constructor
  · rintro ⟨a, ⟨ha, hk⟩, rfl⟩
    exact ⟨hk, a, ha, rfl⟩
  · rintro ⟨hk, a, ha, rfl⟩
    exact ⟨a, ⟨ha, hk⟩, rfl⟩

theorem countP_key (t : OrderedTable key) (k : κ) :
    t.items.countP (fun a => key a = k) = if t.contains k then 1 else 0 := by
  obtain ⟨items, hsorted⟩ := t
  simp only [contains]
  induction items with
  | nil => rfl
  | cons a as ih =>
      obtain ⟨ha, has⟩ := List.pairwise_cons.mp hsorted
      by_cases hk : key a = k
      · have hzero : as.countP (fun b => decide (key b = k)) = 0 := by
          rw [List.countP_eq_zero]
          intro b hb
          simpa [hk] using (ha b hb).ne'
        simp [hk, hzero]
      · simpa [hk] using ih has

theorem eq_of_key (t : OrderedTable key) {a b : α} (ha : a ∈ t.items) (hb : b ∈ t.items)
    (hkey : key a = key b) : a = b := by
  have hnodup : (t.items.map key).Nodup :=
    List.pairwise_map.mpr (t.sorted.imp fun hlt => hlt.ne)
  exact List.inj_on_of_nodup_map hnodup ha hb hkey

/-! ## Emptying a table -/

/-- Take the first item and erase its key, as long as there is one. -/
def drain : Nat → OrderedTable key → List α
  | 0, _ => []
  | n + 1, t =>
      match t.items with
      | [] => []
      | a :: _ => a :: drain n (t.erase (key a))

theorem items_erase_head {t : OrderedTable key} {a : α} {as : List α}
    (h : t.items = a :: as) : (t.erase (key a)).items = as := by
  have hlt : ∀ b ∈ as, key a < key b := by
    have := t.sorted
    rw [h] at this
    exact (List.pairwise_cons.mp this).1
  simp only [erase, h]
  rw [List.filter_cons_of_neg (by simp), List.filter_eq_self]
  intro b hb
  simpa using (hlt b hb).ne'

/-- Emptying a table visits every item once, in key order. -/
theorem drain_eq_items {n : Nat} {t : OrderedTable key} (h : t.items.length ≤ n) :
    drain n t = t.items := by
  induction n generalizing t with
  | zero =>
      rw [drain, List.length_eq_zero_iff.mp (Nat.le_zero.mp h)]
  | succ n ih =>
      rw [drain]
      cases hitems : t.items with
      | nil => rfl
      | cons a as =>
          have herase := items_erase_head hitems
          have hlen : (t.erase (key a)).items.length ≤ n := by
            rw [herase]
            rw [hitems, List.length_cons] at h
            omega
          simp only [ih hlen, herase]

end OrderedTable
