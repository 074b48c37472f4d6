import Mathlib.Data.Nat.ModEq
import Mathlib.Tactic.Common

/-!
# Machine integers

The values of a C program that are never negative, kept as natural numbers.
An `int` computation is checked: it has no result when it overflows.  A
`size_t` computation wraps at the width of the build.

Main results:

- `size_mul_size_left`: reducing an operand early changes nothing.
- `alignSize_eq_of_alignInt`: `ALIGN` computed in a `size_t` is `ALIGN`
  computed in an `int` that does not overflow.
- `alignInt_of_lt` and `alignSize_of_lt`: both are the exact `align` where they
  do not overflow.
-/

namespace Exynos8890
namespace MachineInt

/-- The two builds, with 32-bit and with 64-bit pointers. -/
inductive Abi
  | arm
  | arm64
  deriving DecidableEq, Repr

namespace Abi

/-- The width of a `size_t`. -/
def sizeBits : Abi → Nat
  | arm => 32
  | arm64 => 64

/-- A value stored in a `size_t`. -/
def size (abi : Abi) (x : Nat) : Nat :=
  x % 2 ^ abi.sizeBits

end Abi

/-- The result of a computation in `int`, if it does not overflow. -/
def int (x : Nat) : Option Nat :=
  if x < 2 ^ 31 then some x else none

/-- `ALIGN(x, a)` of an `int`. -/
def alignInt (x a : Nat) : Option Nat := do
  let y ← int (x + (a - 1))
  some (y / a * a)

/-- `ALIGN(x, a)` of a `size_t`. -/
def alignSize (abi : Abi) (x a : Nat) : Nat :=
  abi.size (x + (a - 1)) / a * a

@[simp]
theorem int_eq_some {x y : Nat} : int x = some y ↔ x < 2 ^ 31 ∧ x = y := by
  unfold int
  split <;> rename_i h
  · simp only [Option.some.injEq, h, true_and]
  · simp only [reduceCtorEq, false_iff, not_and]
    exact fun hx => absurd hx h

theorem int_le_size (abi : Abi) : 2 ^ 31 ≤ 2 ^ abi.sizeBits := by
  cases abi <;> decide

theorem size_of_lt (abi : Abi) {x : Nat} (h : x < 2 ^ 31) : abi.size x = x :=
  Nat.mod_eq_of_lt (lt_of_lt_of_le h (int_le_size abi))

@[simp]
theorem size_mul_size_left (abi : Abi) (x y : Nat) :
    abi.size (abi.size x * y) = abi.size (x * y) :=
  (Nat.mod_modEq x _).mul_right y

@[simp]
theorem size_add_size_left (abi : Abi) (x y : Nat) :
    abi.size (abi.size x + y) = abi.size (x + y) :=
  (Nat.mod_modEq x _).add_right y

theorem alignInt_eq_some {x a y : Nat} (h : alignInt x a = some y) :
    x + (a - 1) < 2 ^ 31 ∧ y = (x + (a - 1)) / a * a := by
  unfold alignInt at h
  cases hx : int (x + (a - 1)) with
  | none => simp [hx] at h
  | some z =>
      obtain ⟨hlt, rfl⟩ := int_eq_some.mp hx
      simp only [hx, Option.bind_eq_bind, Option.bind_some, Option.some.injEq] at h
      exact ⟨hlt, h.symm⟩

/-- The two readings of the macro agree where the `int` one is defined. -/
theorem alignSize_eq_of_alignInt (abi : Abi) {x a y : Nat}
    (h : alignInt x a = some y) : alignSize abi x a = y := by
  obtain ⟨hlt, rfl⟩ := alignInt_eq_some h
  rw [alignSize, size_of_lt abi hlt]

/-! ## Exact alignment -/

/-- `ALIGN(x, a)` of an integer without bound. -/
def align (x a : Nat) : Nat :=
  (x + (a - 1)) / a * a

theorem int_of_lt {x : Nat} (h : x < 2 ^ 31) : int x = some x :=
  int_eq_some.mpr ⟨h, rfl⟩

theorem dvd_align (x a : Nat) : a ∣ align x a :=
  Nat.dvd_mul_left a _

/-- An aligned value is the first one of its kind that is not smaller. -/
theorem le_align (x : Nat) {a : Nat} (ha : 0 < a) : x ≤ align x a := by
  have hdiv := Nat.div_add_mod (x + (a - 1)) a
  have hmod := Nat.mod_lt (x + (a - 1)) ha
  rw [Nat.mul_comm] at hdiv
  rw [align]
  omega

theorem align_pos {x a : Nat} (hx : 0 < x) (ha : 0 < a) : 0 < align x a :=
  lt_of_lt_of_le hx (le_align x ha)

theorem align_le_of_dvd {x a b : Nat} (ha : 0 < a) (hb : a ∣ b) (h : x ≤ b) :
    align x a ≤ b := by
  obtain ⟨k, rfl⟩ := hb
  have hk : (x + (a - 1)) / a ≤ k := by
    apply Nat.le_of_lt_succ
    rw [Nat.div_lt_iff_lt_mul ha, Nat.succ_mul, Nat.mul_comm k a]
    omega
  rw [align, Nat.mul_comm a k]
  exact Nat.mul_le_mul_right a hk

/-- An exact alignment below a limit of its kind is computed below it. -/
theorem add_lt_of_align_lt {x a b : Nat} (ha : 0 < a) (hb : a ∣ b)
    (h : align x a < b) : x + (a - 1) < b := by
  have hle := le_align x ha
  obtain ⟨k, hk⟩ := dvd_align x a
  obtain ⟨m, rfl⟩ := hb
  rw [hk] at h hle
  have hlt : k < m := Nat.lt_of_mul_lt_mul_left h
  calc x + (a - 1) < x + a := by omega
    _ ≤ a * k + a := by omega
    _ = a * (k + 1) := by rw [Nat.mul_succ]
    _ ≤ a * m := Nat.mul_le_mul_left a hlt

theorem alignInt_of_lt {x a : Nat} (ha : 0 < a) (hb : a ∣ 2 ^ 31)
    (h : align x a < 2 ^ 31) : alignInt x a = some (align x a) := by
  simp only [alignInt, int_of_lt (add_lt_of_align_lt ha hb h), Option.bind_eq_bind,
    Option.bind_some, align]

theorem alignSize_of_lt (abi : Abi) {x a : Nat} (ha : 0 < a) (hb : a ∣ 2 ^ 31)
    (h : align x a < 2 ^ 31) : alignSize abi x a = align x a := by
  rw [alignSize, size_of_lt abi (add_lt_of_align_lt ha hb h), align]

/-! ## Signed computations -/

/-- The result of a computation in `int` whose operands may be negative. -/
def signedInt (x : Int) : Option Int :=
  if -2 ^ 31 ≤ x ∧ x < 2 ^ 31 then some x else none

@[simp]
theorem signedInt_eq_some {x y : Int} :
    signedInt x = some y ↔ (-2 ^ 31 ≤ x ∧ x < 2 ^ 31) ∧ x = y := by
  unfold signedInt
  split <;> rename_i h
  · simp only [Option.some.injEq, h, and_self, true_and]
  · simp only [reduceCtorEq, h, false_and]

theorem signedInt_of_lt {x : Int} (h₀ : 0 ≤ x) (h : x < 2 ^ 31) : signedInt x = some x :=
  signedInt_eq_some.mpr ⟨⟨by omega, h⟩, rfl⟩

end MachineInt
end Exynos8890
