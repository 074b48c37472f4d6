import Mathlib.Data.List.TakeWhile
import Mathlib.Tactic

/-!
# Terminated strings in arrays

A string in an array is what stands before its first terminator.  `strcpy` and `strcat`
write a string and its terminator over what the array held; the array is as long as it
needs to be.

Main results:

- Theorem `cString_strcpy`: a copy is the string that was copied, whatever the array held.
- Theorem `cString_strcat`: what is appended follows the string that the array held.
-/

universe u

namespace CString

variable {α : Type u} [DecidableEq α] (nul : α)

/-- The string in an array. -/
def cString (array : List α) : List α :=
  array.takeWhile fun c => c ≠ nul

/-- `strcpy`. -/
def strcpy (dst src : List α) : List α :=
  cString nul src ++ nul :: dst.drop ((cString nul src).length + 1)

/-- `strcat`. -/
def strcat (dst src : List α) : List α :=
  cString nul dst ++ strcpy nul (dst.drop (cString nul dst).length) src

variable {nul}

theorem nul_not_mem_cString (array : List α) : nul ∉ cString nul array := by
  intro h
  have hne := List.mem_takeWhile_imp h
  simp at hne

theorem cString_append_nul {s : List α} (h : nul ∉ s) (rest : List α) :
    cString nul (s ++ nul :: rest) = s := by
  induction s with
  | nil => simp [cString]
  | cons c s ih =>
      have hc : c ≠ nul := fun heq => h (heq ▸ List.mem_cons_self)
      have hrest := ih fun hmem => h (List.mem_cons_of_mem c hmem)
      rw [cString] at hrest ⊢
      rw [List.cons_append, List.takeWhile_cons_of_pos (by simpa using hc), hrest]

/-- The string is followed by its terminator, if by anything. -/
theorem cString_append {s : List α} (h : nul ∉ s) (array : List α) :
    cString nul (s ++ array) = s ++ cString nul array := by
  induction s with
  | nil => rfl
  | cons c s ih =>
      have hc : c ≠ nul := fun heq => h (heq ▸ List.mem_cons_self)
      have hrest := ih fun hmem => h (List.mem_cons_of_mem c hmem)
      rw [cString] at hrest ⊢
      rw [List.cons_append, List.takeWhile_cons_of_pos (by simpa using hc), hrest]
      rfl

@[simp]
theorem cString_strcpy (dst src : List α) : cString nul (strcpy nul dst src) = cString nul src :=
  cString_append_nul (nul_not_mem_cString src) _

@[simp]
theorem cString_strcat (dst src : List α) :
    cString nul (strcat nul dst src) = cString nul dst ++ cString nul src := by
  rw [strcat, cString_append (nul_not_mem_cString dst), cString_strcpy]

end CString
