import Exynos8890.Library.HexText
import Mathlib.Data.List.DropRight

/-!
# UUIDs and their text

The text of a `java.util.UUID` and the way back.  The text has five groups of
hexadecimal digits; reading accepts groups of other widths, too.

Main results:

- Definitions `toText` and `fromText`.
- Theorem `fromText_toText`: every UUID is read back from its text.
-/

namespace JavaUuid

open HexText

/-- A `UUID`. -/
structure Uuid where
  mostSigBits : BitVec 64
  leastSigBits : BitVec 64
  deriving DecidableEq, Repr

/-- The digits of `Long.toHexString`. -/
def hexDigit (n : Nat) : Char :=
  "0123456789abcdef".toList.getD n '0'

/-- The value of a hexadecimal digit in either case. -/
def digitValue (c : Char) : Option Nat :=
  if '0' ≤ c ∧ c ≤ '9' then some (c.toNat - '0'.toNat)
  else if 'a' ≤ c ∧ c ≤ 'f' then some (c.toNat - 'a'.toNat + 10)
  else if 'A' ≤ c ∧ c ≤ 'F' then some (c.toNat - 'A'.toNat + 10)
  else none

/-- `digits(val, digits)`. -/
def digits (value width : Nat) : List Char :=
  (hexDigits hexDigit width value).reverse

/-- The five groups of digits. -/
def groups (u : Uuid) : List (List Char) :=
  let m := u.mostSigBits.toNat
  let l := u.leastSigBits.toNat
  [digits (m / 2 ^ 32) 8, digits (m / 2 ^ 16) 4, digits m 4, digits (l / 2 ^ 48) 4,
    digits l 12]

/-- `toString`. -/
def toText (u : Uuid) : List Char :=
  ['-'].intercalate (groups u)

/-- A nonnegative `long` in hexadecimal digits. -/
def parsePositiveLong (text : List Char) : Option Nat := do
  let n ← if text = [] then none else hexNumber digitValue text
  if n < 2 ^ 63 then some n else none

/-- `split("-")`, which drops empty parts at the end. -/
def split (text : List Char) : List (List Char) :=
  (text.splitOn '-').rdropWhile (· = [])

/-- `fromString`. -/
def fromText (text : List Char) : Option Uuid :=
  match split text with
  | [g₁, g₂, g₃, g₄, g₅] => do
      let m₁ ← parsePositiveLong g₁
      let m₂ ← parsePositiveLong g₂
      let m₃ ← parsePositiveLong g₃
      let l₁ ← parsePositiveLong g₄
      let l₂ ← parsePositiveLong g₅
      some {
        mostSigBits := BitVec.ofNat 64 (m₁ <<< 32 ||| m₂ <<< 16 ||| m₃)
        leastSigBits := BitVec.ofNat 64 (l₁ <<< 48 ||| l₂) }
  | _ => none

/-! ## The way back -/

theorem digitValue_hexDigit : ∀ a < 16, digitValue (hexDigit a) = some a := by
  decide

theorem hexDigit_ne_dash : ∀ a < 16, hexDigit a ≠ '-' := by
  decide

theorem dash_not_mem_digits (value width : Nat) : '-' ∉ digits value width := by
  intro h
  obtain ⟨a, ha, heq⟩ := mem_hexDigits (List.mem_reverse.mp h)
  exact hexDigit_ne_dash a ha heq.symm

theorem digits_ne_nil {value width : Nat} (h : width ≠ 0) : digits value width ≠ [] := by
  intro hnil
  have hlength := congrArg List.length hnil
  rw [digits, List.length_reverse, length_hexDigits] at hlength
  exact h hlength

theorem parsePositiveLong_digits {value width : Nat} (h0 : width ≠ 0) (h : width < 16) :
    parsePositiveLong (digits value width) = some (value % 16 ^ width) := by
  have hlt : value % 16 ^ width < 2 ^ 63 := by
    have hmod : value % 16 ^ width < 16 ^ width := Nat.mod_lt _ (by positivity)
    have hpow : 16 ^ width ≤ 16 ^ 15 := Nat.pow_le_pow_right (by omega) (by omega)
    omega
  rw [parsePositiveLong, if_neg (digits_ne_nil h0), digits,
    hexNumber_hexDigits digitValue_hexDigit]
  exact if_pos hlt

theorem split_toText (u : Uuid) : split (toText u) = groups u := by
  have hdash : ∀ g ∈ groups u, '-' ∉ g := by
    intro g hg
    simp only [groups, List.mem_cons, List.not_mem_nil, or_false] at hg
    rcases hg with rfl | rfl | rfl | rfl | rfl <;> exact dash_not_mem_digits _ _
  rw [split, toText, List.splitOn_intercalate '-' hdash (by simp [groups])]
  refine List.rdropWhile_eq_self_iff.mpr fun _ => ?_
  simpa [groups] using digits_ne_nil (by omega)

theorem shiftLeft_or (a b i : Nat) (h : b < 2 ^ i) : a <<< i ||| b = a * 2 ^ i + b := by
  rw [← Nat.shiftLeft_add_eq_or_of_lt h, Nat.shiftLeft_eq]

theorem ofNat_groups (w : BitVec 64) :
    BitVec.ofNat 64 ((w.toNat / 2 ^ 32 % 16 ^ 8) <<< 32 |||
      (w.toNat / 2 ^ 16 % 16 ^ 4) <<< 16 ||| w.toNat % 16 ^ 4) = w := by
  have hw := w.isLt
  have hlow : w.toNat % 16 ^ 4 < 2 ^ 16 := by omega
  have hmid : (w.toNat / 2 ^ 16 % 16 ^ 4) <<< 16 < 2 ^ 32 := by
    rw [Nat.shiftLeft_eq]
    omega
  rw [shiftLeft_or _ _ _ hmid, Nat.shiftLeft_eq]
  have hregroup : w.toNat / 2 ^ 32 % 16 ^ 8 * 2 ^ 32 + w.toNat / 2 ^ 16 % 16 ^ 4 * 2 ^ 16 =
      (w.toNat / 2 ^ 16) <<< 16 := by
    rw [Nat.shiftLeft_eq]
    omega
  rw [hregroup, shiftLeft_or _ _ _ hlow]
  apply BitVec.eq_of_toNat_eq
  rw [BitVec.toNat_ofNat]
  omega

theorem ofNat_groups' (w : BitVec 64) :
    BitVec.ofNat 64 ((w.toNat / 2 ^ 48 % 16 ^ 4) <<< 48 ||| w.toNat % 16 ^ 12) = w := by
  have hw := w.isLt
  have hlow : w.toNat % 16 ^ 12 < 2 ^ 48 := by omega
  rw [shiftLeft_or _ _ _ hlow]
  apply BitVec.eq_of_toNat_eq
  rw [BitVec.toNat_ofNat]
  omega

theorem fromText_toText (u : Uuid) : fromText (toText u) = some u := by
  rw [fromText, split_toText, groups]
  simp only [parsePositiveLong_digits (by omega : 8 ≠ 0) (by omega : 8 < 16),
    parsePositiveLong_digits (by omega : 4 ≠ 0) (by omega : 4 < 16),
    parsePositiveLong_digits (by omega : 12 ≠ 0) (by omega : 12 < 16),
    Option.bind_eq_bind, Option.bind_some, ofNat_groups, ofNat_groups']

end JavaUuid
