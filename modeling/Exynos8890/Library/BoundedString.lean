import Exynos8890.Library.CString

/-!
# Strings in arrays of a fixed size

An array of a fixed size that is written part by part, where a write that does not stay inside
it has no result.  A string that is built in such an array is followed by terminators; it is
appended to as long as they last, and it is a string as long as one of them is left.

Main results:

- Theorem `writeAt_filled`: what can be appended to a string in an array.
- Theorem `writeAt_filled_padded`: what is appended together with terminators.
- Theorems `text_filled` and `text_filled_zero`: when the array holds a string.
- Theorems `strcpy_of_lt`, `Holds.strcat_of_lt` and `Holds.strcat_eq_none`: what fits into the
  array is what is shorter than it.
-/

universe u

namespace BoundedString

open CString

variable {α : Type u}

/-- Write at an offset, inside the array. -/
def writeAt (array : List α) (off : Nat) (cs : List α) : Option (List α) :=
  if off + cs.length ≤ array.length then
    some (array.take off ++ cs ++ array.drop (off + cs.length))
  else none

/-- A string, and the terminators behind it. -/
def filled (nul : α) (s : List α) (n : Nat) : List α :=
  s ++ List.replicate n nul

@[simp]
theorem length_filled (nul : α) (s : List α) (n : Nat) :
    (filled nul s n).length = s.length + n := by
  simp [filled]

theorem length_writeAt {array array' cs : List α} {off : Nat}
    (h : writeAt array off cs = some array') : array'.length = array.length := by
  rw [writeAt] at h
  split at h
  · cases h
    simp only [List.length_append, List.length_take, List.length_drop]
    omega
  · cases h

theorem le_of_writeAt {array array' cs : List α} {off : Nat}
    (h : writeAt array off cs = some array') : off + cs.length ≤ array'.length := by
  rw [length_writeAt h]
  rw [writeAt] at h
  split at h
  · assumption
  · cases h

theorem take_writeAt {array array' cs : List α} {off : Nat}
    (h : writeAt array off cs = some array') :
    array'.take (off + cs.length) = array.take off ++ cs := by
  rw [writeAt] at h
  split at h
  · cases h
    apply List.take_left'
    rw [List.length_append, List.length_take]
    omega
  · cases h

theorem writeAt_of_le {array cs : List α} {off : Nat} (h : off + cs.length ≤ array.length) :
    ∃ array', writeAt array off cs = some array' := by
  rw [writeAt, if_pos h]
  exact ⟨_, rfl⟩

theorem writeAt_nil {array : List α} {off : Nat} (hoff : off ≤ array.length) :
    writeAt array off [] = some array := by
  rw [writeAt, if_pos (by simpa using hoff)]
  simp

theorem writeAt_append (array cs ds : List α) (off : Nat) :
    writeAt array off (cs ++ ds) =
      (writeAt array off cs).bind fun array' => writeAt array' (off + cs.length) ds := by
  rw [writeAt, List.length_append]
  by_cases hcs : off + cs.length ≤ array.length
  · have hlength : (array.take off ++ cs).length = off + cs.length := by
      rw [List.length_append, List.length_take]
      omega
    have hwhole : (array.take off ++ cs ++ array.drop (off + cs.length)).length = array.length := by
      rw [List.length_append, hlength, List.length_drop]
      omega
    rw [writeAt, if_pos hcs, Option.bind_some, writeAt, hwhole, List.take_left' hlength]
    by_cases hds : off + cs.length + ds.length ≤ array.length
    · have hdrop : (array.take off ++ cs ++ array.drop (off + cs.length)).drop
          (off + cs.length + ds.length) = array.drop (off + (cs.length + ds.length)) := by
        rw [← List.drop_drop, List.drop_left' hlength, List.drop_drop, Nat.add_assoc]
      rw [if_pos (by omega), if_pos hds, hdrop]
      simp only [List.append_assoc]
    · rw [if_neg (by omega), if_neg hds]
  · rw [writeAt, if_neg (by omega), if_neg hcs, Option.bind_none]

/-- A string can be appended to as long as there are terminators. -/
theorem writeAt_filled (nul : α) (s cs : List α) (n : Nat) :
    writeAt (filled nul s n) s.length cs =
      if cs.length ≤ n then some (filled nul (s ++ cs) (n - cs.length)) else none := by
  rw [writeAt, length_filled]
  by_cases h : cs.length ≤ n
  · rw [if_pos (by omega), if_pos h, filled, List.take_left, List.drop_append,
      List.drop_replicate, filled]
    simp
  · rw [if_neg (by omega), if_neg h]

theorem writeAt_filled_padded (nul : α) (s cs : List α) {n k : Nat} (h : cs.length + k ≤ n) :
    writeAt (filled nul s n) s.length (cs ++ List.replicate k nul) =
      some (filled nul (s ++ cs) (n - cs.length)) := by
  have hlength : (cs ++ List.replicate k nul).length = cs.length + k := by simp
  have hsplit : n - cs.length = k + (n - (cs.length + k)) := by omega
  rw [writeAt_filled, hlength, if_pos h, hsplit, filled, filled, List.replicate_add]
  simp

/-! ## Strings -/

variable [DecidableEq α] (nul : α)

/-- The string in an array; without a terminator it is read beyond the array. -/
def text (array : List α) : Option (List α) :=
  if nul ∈ array then some (cString nul array) else none

/-- `strlen`. -/
def strlen (array : List α) : Option Nat :=
  (text nul array).map List.length

/-- What `strncpy` writes: the string up to a number of characters, then terminators. -/
def padded (src : List α) (n : Nat) : List α :=
  (cString nul src).take n ++ List.replicate (n - (cString nul src).length) nul

/-- `strncpy` to an offset of an array. -/
def strncpy (array : List α) (off : Nat) (src : List α) (n : Nat) : Option (List α) :=
  writeAt array off (padded nul src n)

variable {nul} {s : List α}

theorem text_filled (hs : nul ∉ s) {n : Nat} (hn : 0 < n) : text nul (filled nul s n) = some s := by
  obtain ⟨m, rfl⟩ := Nat.exists_eq_add_of_lt hn
  rw [text, filled, List.replicate_succ, if_pos (by simp), cString_append_nul hs]

theorem text_filled_zero (hs : nul ∉ s) : text nul (filled nul s 0) = none := by
  rw [text, filled, List.replicate_zero, List.append_nil, if_neg hs]

theorem strlen_filled (hs : nul ∉ s) {n : Nat} (hn : 0 < n) :
    strlen nul (filled nul s n) = some s.length := by
  rw [strlen, text_filled hs hn, Option.map_some]

theorem text_eq_some_iff {array : List α} :
    text nul array = some s ↔ nul ∈ array ∧ cString nul array = s := by
  rw [text]
  split <;> simp_all

theorem nul_not_mem_of_text {array : List α} (h : text nul array = some s) : nul ∉ s := by
  rw [text_eq_some_iff] at h
  exact h.2 ▸ nul_not_mem_cString array

/-- A terminator behind an array ends its string, if nothing before it does. -/
theorem text_append_nul (array : List α) : text nul (array ++ [nul]) = some (cString nul array) := by
  rw [text, if_pos (by simp), cString, List.takeWhile_append]
  split
  · rename_i hwhole
    have hself : cString nul array = array := (List.takeWhile_prefix _).eq_of_length hwhole
    rw [hself]
    simp
  · rfl

/-! ## Copying -/

variable (nul) in
/-- `strcpy` into an array. -/
def strcpy (array src : List α) : Option (List α) :=
  (text nul src).bind fun t => writeAt array 0 (t ++ [nul])

variable (nul) in
/-- `strcat` in an array. -/
def strcat (array src : List α) : Option (List α) :=
  (strlen nul array).bind fun off => (text nul src).bind fun t => writeAt array off (t ++ [nul])

variable (nul) in
/-- An array of a size that holds a string. -/
structure Holds (array s : List α) (size : Nat) : Prop where
  length_eq : array.length = size
  text_eq : text nul array = some s

variable {array array' src t : List α} {n : Nat}

/-- A string stands behind what comes before it in the array. -/
theorem text_writeAt (hs : array.take n = s) (hnul : nul ∉ s ++ t)
    (h : writeAt array n (t ++ [nul]) = some array') : text nul array' = some (s ++ t) := by
  rw [writeAt] at h
  split at h
  · cases h
    rw [hs, List.append_assoc, List.append_assoc, List.singleton_append, ← List.append_assoc,
      text, if_pos (by simp), cString_append_nul hnul]
  · cases h

theorem take_of_text (h : text nul array = some s) : array.take s.length = s := by
  rw [text_eq_some_iff] at h
  rw [← h.2]
  exact (List.prefix_iff_eq_take.mp (List.takeWhile_prefix _)).symm

theorem strcpy_of_lt (hsrc : text nul src = some t) (h : t.length < array.length) :
    ∃ array', strcpy nul array src = some array' ∧ Holds nul array' t array.length := by
  obtain ⟨array', hwrite⟩ : ∃ array', writeAt array 0 (t ++ [nul]) = some array' := by
    rw [writeAt, if_pos (by simpa using h)]
    exact ⟨_, rfl⟩
  have htext := text_writeAt List.take_zero (nul_not_mem_of_text hsrc) hwrite
  exact ⟨array', by rw [strcpy, hsrc, Option.bind_some, hwrite], length_writeAt hwrite, htext⟩

theorem Holds.strcat_of_lt (harray : Holds nul array s n) (hsrc : text nul src = some t)
    (h : s.length + t.length < n) :
    ∃ array', strcat nul array src = some array' ∧ Holds nul array' (s ++ t) n := by
  obtain ⟨array', hwrite⟩ : ∃ array', writeAt array s.length (t ++ [nul]) = some array' := by
    rw [writeAt, if_pos]
    · exact ⟨_, rfl⟩
    · rw [harray.length_eq, List.length_append, List.length_singleton]
      omega
  refine ⟨array', ?_, (length_writeAt hwrite).trans harray.length_eq, ?_⟩
  · rw [strcat, strlen, harray.text_eq, Option.map_some, Option.bind_some, hsrc,
      Option.bind_some, hwrite]
  · apply text_writeAt (take_of_text harray.text_eq) _ hwrite
    simp only [List.mem_append, not_or]
    exact ⟨nul_not_mem_of_text harray.text_eq, nul_not_mem_of_text hsrc⟩

theorem Holds.strcat_eq_none (harray : Holds nul array s n) (hsrc : text nul src = some t)
    (h : n ≤ s.length + t.length) : strcat nul array src = none := by
  rw [strcat, strlen, harray.text_eq, Option.map_some, Option.bind_some, hsrc, Option.bind_some,
    writeAt, if_neg]
  rw [harray.length_eq, List.length_append, List.length_singleton]
  omega

end BoundedString
