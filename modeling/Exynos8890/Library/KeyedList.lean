import Mathlib.Tactic

/-!
# Lists of objects with distinct names

A list of mutable objects, each known by a name that never changes: changing one
object, deleting one, and what this does to membership, to the names and to the
total of a measure.  The names are assumed distinct where a lemma needs it.

Main results:

- Theorems `mem_update` and `mem_delete`: the objects after a change or deletion.
- Theorems `sum_update` and `sum_delete`: how the total of a measure changes.
- Theorems `update_map` and `delete_map`: the same objects under other names.
-/

universe u v

namespace KeyedList

variable {α : Type u} {κ : Type v} [DecidableEq κ] {key : α → κ}

/-- Change the object with name `k`. -/
def update (key : α → κ) (k : κ) (f : α → α) (l : List α) : List α :=
  l.map fun a => if key a = k then f a else a

/-- Delete the object with name `k`. -/
def delete (key : α → κ) (k : κ) (l : List α) : List α :=
  l.eraseP fun a => key a = k

/-- The object with name `k`. -/
def lookup (key : α → κ) (k : κ) (l : List α) : Option α :=
  l.find? fun a => key a = k

/-! ## Lookup -/

theorem mem_of_lookup {k : κ} {l : List α} {a : α} (h : lookup key k l = some a) :
    a ∈ l ∧ key a = k :=
  ⟨List.mem_of_find?_eq_some h, by simpa using List.find?_some h⟩

/-- With distinct names every object is found under its name. -/
theorem lookup_of_mem {l : List α} {a : α} (hl : (l.map key).Nodup) (ha : a ∈ l) :
    lookup key (key a) l = some a := by
  induction l with
  | nil => exact absurd ha List.not_mem_nil
  | cons b bs ih =>
      rw [List.map_cons, List.nodup_cons] at hl
      rcases List.mem_cons.mp ha with rfl | ha
      · simp [lookup]
      · have hne : key b ≠ key a := fun h => hl.1 (h ▸ List.mem_map_of_mem ha)
        simpa [lookup, hne] using ih hl.2 ha

theorem lookup_append_of_some {k : κ} {l l' : List α} {a : α} (h : lookup key k l = some a) :
    lookup key k (l ++ l') = some a := by
  rw [lookup] at h ⊢
  rw [List.find?_append, h]
  rfl

/-! ## Change -/

theorem mem_update {k : κ} {f : α → α} {l : List α} {b : α} :
    b ∈ update key k f l ↔ (∃ a ∈ l, key a = k ∧ f a = b) ∨ (b ∈ l ∧ key b ≠ k) := by
  simp only [update, List.mem_map]
  constructor
  · rintro ⟨a, ha, rfl⟩
    by_cases hk : key a = k
    · exact Or.inl ⟨a, ha, hk, by rw [if_pos hk]⟩
    · exact Or.inr ⟨by rwa [if_neg hk], by rwa [if_neg hk]⟩
  · rintro (⟨a, ha, hk, rfl⟩ | ⟨hb, hk⟩)
    · exact ⟨a, ha, by rw [if_pos hk]⟩
    · exact ⟨b, hb, by rw [if_neg hk]⟩

/-- A projection that the change keeps is kept for the whole list. -/
theorem map_update {β : Type*} {g : α → β} {k : κ} {f : α → α} (hf : ∀ a, g (f a) = g a)
    (l : List α) : (update key k f l).map g = l.map g := by
  rw [update, List.map_map]
  refine List.map_congr_left ?_
  intro a _
  by_cases hk : key a = k <;> simp [hk, hf]

/-- A search by another name finds the same object after a change that keeps both
names. -/
theorem lookup_update {ι : Type*} [DecidableEq ι] {name : α → ι} {i : ι} {k : κ} {f : α → α}
    (hf : ∀ a, name (f a) = name a ∧ key (f a) = key a) (l : List α) :
    (lookup name i (update key k f l)).map key = (lookup name i l).map key := by
  induction l with
  | nil => rfl
  | cons b bs ih =>
      have hname : name (if key b = k then f b else b) = name b := by
        split
        · exact (hf b).1
        · rfl
      have hkey : key (if key b = k then f b else b) = key b := by
        split
        · exact (hf b).2
        · rfl
      rw [lookup, lookup, update] at ih
      rw [lookup, lookup, update, List.map_cons]
      by_cases hi : name b = i
      · rw [List.find?_cons_of_pos (by simp [hname, hi]), List.find?_cons_of_pos (by simp [hi]),
          Option.map_some, Option.map_some, hkey]
      · rw [List.find?_cons_of_neg (by simp [hname, hi]), List.find?_cons_of_neg (by simp [hi]), ih]

/-- A search by a name that the change keeps finds the changed object. -/
theorem lookup_update_eq {ι : Type*} [DecidableEq ι] {name : α → ι} {i : ι} {k : κ} {f : α → α}
    (hf : ∀ a, name (f a) = name a) (l : List α) :
    lookup name i (update key k f l) =
      (lookup name i l).map fun a => if key a = k then f a else a := by
  rw [lookup, lookup, update, List.find?_map]
  congr 2
  funext a
  simp only [Function.comp_apply]
  split
  · rw [hf]
  · rfl

theorem update_update {k : κ} {f g : α → α} (hg : ∀ a, key a = k → key (g a) = k) (l : List α) :
    update key k f (update key k g l) = update key k (f ∘ g) l := by
  rw [update, update, update, List.map_map]
  apply List.map_congr_left
  intro a _
  by_cases hk : key a = k
  · simp [hk, hg a hk]
  · simp [hk]

theorem lookup_update_self {k : κ} {f : α → α} (hf : ∀ a, key (f a) = key a) {l : List α} {a : α}
    (h : lookup key k l = some a) : lookup key k (update key k f l) = some (f a) := by
  induction l with
  | nil => cases h
  | cons b bs ih =>
      rw [lookup] at h ih
      rw [lookup, update] at ih ⊢
      rw [List.map_cons]
      by_cases hk : key b = k
      · rw [List.find?_cons_of_pos (by simp [hk])] at h
        cases h
        rw [if_pos hk, List.find?_cons_of_pos (by simp [hf, hk])]
      · rw [List.find?_cons_of_neg (by simp [hk])] at h
        rw [if_neg hk, List.find?_cons_of_neg (by simp [hk]), ih h]

theorem lookup_update_of_ne {k k' : κ} {f : α → α} (hf : ∀ a, key (f a) = key a) (hne : k' ≠ k)
    (l : List α) : lookup key k (update key k' f l) = lookup key k l := by
  induction l with
  | nil => rfl
  | cons b bs ih =>
      rw [lookup, lookup, update] at ih
      rw [lookup, lookup, update, List.map_cons]
      by_cases hk' : key b = k'
      · have hk : key b ≠ k := fun hk => hne (hk'.symm.trans hk)
        rw [if_pos hk', List.find?_cons_of_neg (by simp [hf, hk]),
          List.find?_cons_of_neg (by simp [hk]), ih]
      · rw [if_neg hk', List.find?_cons, List.find?_cons, ih]

/-- An object that is put in the place of another is found there. -/
theorem lookup_replace {k : κ} {b : α} (hb : key b = k) (k' : κ) (l : List α) :
    lookup key k' (update key k (fun _ => b) l) =
      if k' = k then (lookup key k l).map fun _ => b else lookup key k' l := by
  induction l with
  | nil => simp [lookup, update]
  | cons c cs ih =>
      rw [lookup, update] at ih
      rw [lookup, update, List.map_cons]
      by_cases hc : key c = k
      · rw [if_pos hc]
        by_cases hk : k' = k
        · rw [List.find?_cons_of_pos (by simp [hb, hk]), if_pos hk, lookup,
            List.find?_cons_of_pos (by simp [hc])]
          rfl
        · rw [List.find?_cons_of_neg (by simpa [hb] using Ne.symm hk), ih, if_neg hk, if_neg hk,
            lookup, lookup, List.find?_cons_of_neg (by simpa [hc] using Ne.symm hk)]
      · rw [if_neg hc, List.find?_cons]
        by_cases hk : k' = k
        · have hne : key c ≠ k' := fun h => hc (h.trans hk)
          rw [if_pos hk, lookup, List.find?_cons_of_neg (by simpa using hc)]
          simp only [hne, decide_false]
          rw [ih, if_pos hk, lookup]
        · rw [if_neg hk, lookup, List.find?_cons]
          split
          · rfl
          · rw [ih, if_neg hk, lookup]

theorem update_of_not_mem {k : κ} {f : α → α} {l : List α} (h : k ∉ l.map key) :
    update key k f l = l := by
  rw [update, List.map_congr_left (g := id) ?_, List.map_id]
  intro a ha
  have hk : key a ≠ k := fun hk => h (hk ▸ List.mem_map_of_mem ha)
  simp [hk]

/-- Changing one object moves the total of a measure by its own share. -/
theorem sum_update {g : α → Nat} {f : α → α} {l : List α} {a : α}
    (hl : (l.map key).Nodup) (ha : a ∈ l) :
    ((update key (key a) f l).map g).sum + g a = (l.map g).sum + g (f a) := by
  induction l with
  | nil => exact absurd ha List.not_mem_nil
  | cons b bs ih =>
      rw [List.map_cons, List.nodup_cons] at hl
      rcases List.mem_cons.mp ha with rfl | ha
      · have hrest : update key (key a) f bs = bs := update_of_not_mem hl.1
        rw [update] at hrest
        simp only [update, List.map_cons, if_true, hrest, List.sum_cons]
        omega
      · have hne : key b ≠ key a := fun h => hl.1 (h ▸ List.mem_map_of_mem ha)
        have := ih hl.2 ha
        simp only [update, List.map_cons, if_neg hne, List.sum_cons] at this ⊢
        omega

/-- A filter that drops the object before and after the change sees no change. -/
theorem filter_update {p : α → Bool} {k : κ} {f : α → α} {l : List α}
    (h : ∀ a ∈ l, key a = k → p a = false ∧ p (f a) = false) :
    (update key k f l).filter p = l.filter p := by
  induction l with
  | nil => rfl
  | cons b bs ih =>
      have hrest := ih fun a ha => h a (List.mem_cons_of_mem _ ha)
      rw [update] at hrest ⊢
      rw [List.map_cons]
      by_cases hk : key b = k
      · obtain ⟨hb, hfb⟩ := h b List.mem_cons_self hk
        rw [if_pos hk, List.filter_cons_of_neg (by simp [hfb]), List.filter_cons_of_neg (by simp [hb]),
          hrest]
      · rw [if_neg hk, List.filter_cons, List.filter_cons, hrest]

/-! ## Deletion -/

theorem delete_eq_filter {k : κ} {l : List α} (hl : (l.map key).Nodup) :
    delete key k l = l.filter fun a => key a ≠ k := by
  induction l with
  | nil => rfl
  | cons b bs ih =>
      rw [List.map_cons, List.nodup_cons] at hl
      by_cases hk : key b = k
      · have hrest : bs.filter (fun a => decide (key a ≠ k)) = bs := by
          rw [List.filter_eq_self]
          intro a ha
          have hne : key a ≠ k := fun h => hl.1 (by rw [hk, ← h]; exact List.mem_map_of_mem ha)
          simpa using hne
        rw [delete, List.eraseP_cons_of_pos (by simpa using hk),
          List.filter_cons_of_neg (by simpa using hk), hrest]
      · have := ih hl.2
        rw [delete] at this
        rw [delete, List.eraseP_cons_of_neg (by simpa using hk),
          List.filter_cons_of_pos (by simpa using hk), this]

theorem mem_delete {k : κ} {l : List α} {a : α} (hl : (l.map key).Nodup) :
    a ∈ delete key k l ↔ a ∈ l ∧ key a ≠ k := by
  rw [delete_eq_filter hl, List.mem_filter]
  simp

theorem nodup_delete {k : κ} {l : List α} (hl : (l.map key).Nodup) :
    ((delete key k l).map key).Nodup :=
  hl.sublist (List.eraseP_sublist.map key)

theorem mem_of_mem_delete {k : κ} {l : List α} {a : α} (h : a ∈ delete key k l) : a ∈ l :=
  List.eraseP_sublist.subset h

theorem delete_of_lookup {k : κ} {l : List α} {a : α} (h : lookup key k l = some a) :
    ∃ l₁ l₂, l = l₁ ++ a :: l₂ ∧ delete key k l = l₁ ++ l₂ := by
  induction l with
  | nil => cases h
  | cons b bs ih =>
      rw [lookup] at h ih
      rw [delete] at ih ⊢
      by_cases hk : key b = k
      · rw [List.find?_cons_of_pos (by simp [hk])] at h
        cases h
        rw [List.eraseP_cons_of_pos (by simp [hk])]
        exact ⟨[], bs, rfl, rfl⟩
      · rw [List.find?_cons_of_neg (by simp [hk])] at h
        obtain ⟨l₁, l₂, hl, hrest⟩ := ih h
        rw [List.eraseP_cons_of_neg (by simp [hk]), hrest, hl]
        exact ⟨b :: l₁, l₂, rfl, rfl⟩

/-- The first object with a name is the one that is deleted. -/
theorem delete_append_cons {l : List α} {a : α} (h : key a ∉ l.map key) (l' : List α) :
    delete key (key a) (l ++ a :: l') = l ++ l' := by
  have hother : ∀ b ∈ l, ¬ decide (key b = key a) = true := fun b hb hsame =>
    h (List.mem_map.mpr ⟨b, hb, of_decide_eq_true hsame⟩)
  rw [delete, List.eraseP_append_right _ hother, List.eraseP_cons_of_pos (by simp)]

/-- A search by another name finds the same object after the deletion of another one. -/
theorem lookup_delete {ι : Type*} [DecidableEq ι] {name : α → ι} {i : ι} {k : κ} {l : List α}
    {a : α} (h : lookup name i l = some a) (ha : key a ≠ k) :
    lookup name i (delete key k l) = some a := by
  induction l with
  | nil => cases h
  | cons b bs ih =>
      rw [lookup] at h ih
      rw [lookup, delete] at ih ⊢
      by_cases hi : name b = i
      · rw [List.find?_cons_of_pos (by simp [hi])] at h
        cases h
        rw [List.eraseP_cons_of_neg (by simp [ha]), List.find?_cons_of_pos (by simp [hi])]
      · rw [List.find?_cons_of_neg (by simp [hi])] at h
        by_cases hk : key b = k
        · rw [List.eraseP_cons_of_pos (by simp [hk]), h]
        · rw [List.eraseP_cons_of_neg (by simp [hk]), List.find?_cons_of_neg (by simp [hi])]
          exact ih h

theorem filter_delete {p : α → Bool} {k : κ} {l : List α}
    (h : ∀ a ∈ l, key a = k → p a = false) : (delete key k l).filter p = l.filter p := by
  induction l with
  | nil => rfl
  | cons b bs ih =>
      have hrest := ih fun a ha => h a (List.mem_cons_of_mem _ ha)
      rw [delete] at hrest ⊢
      by_cases hk : key b = k
      · rw [List.eraseP_cons_of_pos (by simpa using hk),
          List.filter_cons_of_neg (by simp [h b List.mem_cons_self hk])]
      · rw [List.eraseP_cons_of_neg (by simpa using hk), List.filter_cons, List.filter_cons, hrest]

/-- Deleting an object takes its share from the total of a measure. -/
theorem sum_delete {g : α → Nat} {l : List α} {a : α} (hl : (l.map key).Nodup) (ha : a ∈ l) :
    ((delete key (key a) l).map g).sum + g a = (l.map g).sum := by
  induction l with
  | nil => exact absurd ha List.not_mem_nil
  | cons b bs ih =>
      rw [List.map_cons, List.nodup_cons] at hl
      rcases List.mem_cons.mp ha with rfl | ha
      · rw [delete, List.eraseP_cons_of_pos (by simp), List.map_cons, List.sum_cons]
        omega
      · have hne : key b ≠ key a := fun h => hl.1 (h ▸ List.mem_map_of_mem ha)
        have := ih hl.2 ha
        rw [delete] at this
        rw [delete, List.eraseP_cons_of_neg (by simpa using hne), List.map_cons, List.map_cons,
          List.sum_cons, List.sum_cons]
        omega

/-! ## Other names -/

/-- Objects that are known by another name elsewhere are changed there. -/
theorem update_map {β ι : Type*} [DecidableEq ι] {name : β → ι} {g : α → β} {k : κ} {i : ι}
    {f : α → α} {f' : β → β} {l : List α} (hname : ∀ a ∈ l, name (g a) = i ↔ key a = k)
    (hchange : ∀ a ∈ l, key a = k → f' (g a) = g (f a)) :
    update name i f' (l.map g) = (update key k f l).map g := by
  rw [update, update, List.map_map, List.map_map]
  apply List.map_congr_left
  intro a ha
  by_cases hk : key a = k
  · simp [(hname a ha).mpr hk, hk, hchange a ha hk]
  · have hi : name (g a) ≠ i := fun hi => hk ((hname a ha).mp hi)
    simp [hi, hk]

theorem delete_map {β ι : Type*} [DecidableEq ι] {name : β → ι} {g : α → β} {k : κ} {i : ι}
    {l : List α} (hname : ∀ a ∈ l, name (g a) = i ↔ key a = k) :
    delete name i (l.map g) = (delete key k l).map g := by
  induction l with
  | nil => rfl
  | cons b bs ih =>
      have hrest := ih fun a ha => hname a (List.mem_cons_of_mem _ ha)
      have hb := hname b List.mem_cons_self
      rw [delete] at hrest ⊢
      rw [delete] at hrest ⊢
      by_cases hk : key b = k
      · rw [List.map_cons, List.eraseP_cons_of_pos (by simpa using hb.mpr hk),
          List.eraseP_cons_of_pos (by simpa using hk)]
      · have hi : name (g b) ≠ i := fun hi => hk (hb.mp hi)
        rw [List.map_cons, List.eraseP_cons_of_neg (by simpa using hi),
          List.eraseP_cons_of_neg (by simpa using hk), List.map_cons, hrest]

end KeyedList
