import Mathlib.Tactic

/-!
# Bytes as groups of six bits

Three bytes are four groups of six bits.  A rest of one or two bytes is two or three groups, of
which the last one is filled up with zeros.

Main results:

- Definitions `sextets` and `octets`: bytes to groups of six bits, and back.
- Theorem `octets_sextets`: the bytes come back.
- Theorem `lt_of_mem_sextets`: a group is smaller than 64.
- Theorems `length_sextets` and `length_octets`: how many there are.
-/

namespace Sextets

/-! ## One block -/

section Block

variable (a b c : UInt8)

def first : UInt8 := a >>> 2

def second : UInt8 := ((a &&& 0x03) <<< 4) ||| ((b &&& 0xf0) >>> 4)

def third : UInt8 := ((b &&& 0x0f) <<< 2) ||| ((c &&& 0xc0) >>> 6)

def fourth : UInt8 := c &&& 0x3f

def octet₁ (s t : UInt8) : UInt8 := (s <<< 2) ||| (t >>> 4)

def octet₂ (t u : UInt8) : UInt8 := (t <<< 4) ||| (u >>> 2)

def octet₃ (u v : UInt8) : UInt8 := ((u <<< 6) &&& 0xc0) ||| v

theorem eq_of_bits {x y : UInt8} (h : ∀ i < 8, x.toBitVec.getLsbD i = y.toBitVec.getLsbD i) :
    x = y :=
  UInt8.toBitVec_inj.mp (BitVec.eq_of_getLsbD_eq h)

theorem octet₁_eq : octet₁ (first a) (second a b) = a := by
  apply eq_of_bits
  intro i hi
  have hbits : (octet₁ (first a) (second a b)).toBitVec = ((a.toBitVec >>> 2) <<< 2) |||
      ((((a.toBitVec &&& 0x03) <<< 4) ||| ((b.toBitVec &&& 0xf0) >>> 4)) >>> 4) := rfl
  rw [hbits]
  interval_cases i <;> simp

theorem octet₂_eq : octet₂ (second a b) (third b c) = b := by
  apply eq_of_bits
  intro i hi
  have hbits : (octet₂ (second a b) (third b c)).toBitVec =
      ((((a.toBitVec &&& 0x03) <<< 4) ||| ((b.toBitVec &&& 0xf0) >>> 4)) <<< 4) |||
        ((((b.toBitVec &&& 0x0f) <<< 2) ||| ((c.toBitVec &&& 0xc0) >>> 6)) >>> 2) := rfl
  rw [hbits]
  interval_cases i <;> simp

theorem octet₃_eq : octet₃ (third b c) (fourth c) = c := by
  apply eq_of_bits
  intro i hi
  have hbits : (octet₃ (third b c) (fourth c)).toBitVec =
      (((((b.toBitVec &&& 0x0f) <<< 2) ||| ((c.toBitVec &&& 0xc0) >>> 6)) <<< 6) &&& 0xc0) |||
        (c.toBitVec &&& 0x3f) := rfl
  rw [hbits]
  interval_cases i <;> simp

theorem lt_of_bits {x : UInt8} (h₆ : x.toBitVec.getLsbD 6 = false)
    (h₇ : x.toBitVec.getLsbD 7 = false) : x < 64 := by
  rw [UInt8.lt_iff_toNat_lt]
  show x.toNat < 2 ^ 6
  apply Nat.lt_pow_two_of_testBit
  intro i hi
  rcases Nat.lt_or_ge i 8 with hlt | hge
  · interval_cases i
    · exact h₆
    · exact h₇
  · exact BitVec.getLsbD_of_ge x.toBitVec i hge

theorem first_lt : first a < 64 := by
  apply lt_of_bits
  all_goals simp [first]

theorem second_lt : second a b < 64 := by
  apply lt_of_bits
  all_goals simp [second]

theorem third_lt : third b c < 64 := by
  apply lt_of_bits
  all_goals simp [third]

theorem fourth_lt : fourth c < 64 := by
  apply lt_of_bits
  all_goals simp [fourth]

end Block

/-! ## Any number of bytes -/

/-- The groups of bytes. -/
def sextets : List UInt8 → List UInt8
  | [] => []
  | [a] => [first a, second a 0]
  | [a, b] => [first a, second a b, third b 0]
  | a :: b :: c :: rest => first a :: second a b :: third b c :: fourth c :: sextets rest

/-- The bytes of groups; a rest of one group is none. -/
def octets : List UInt8 → List UInt8
  | s :: t :: u :: v :: rest => octet₁ s t :: octet₂ t u :: octet₃ u v :: octets rest
  | [s, t, u] => [octet₁ s t, octet₂ t u]
  | [s, t] => [octet₁ s t]
  | _ => []

theorem octets_sextets (bytes : List UInt8) : octets (sextets bytes) = bytes := by
  induction bytes using sextets.induct with
  | case1 => rfl
  | case2 a => rw [sextets, octets, octet₁_eq]
  | case3 a b => rw [sextets, octets, octet₁_eq, octet₂_eq]
  | case4 a b c rest ih => rw [sextets, octets, octet₁_eq, octet₂_eq, octet₃_eq, ih]

theorem lt_of_mem_sextets {bytes : List UInt8} {s : UInt8} (h : s ∈ sextets bytes) : s < 64 := by
  induction bytes using sextets.induct with
  | case1 => exact absurd h List.not_mem_nil
  | case2 a =>
      simp only [sextets, List.mem_cons, List.not_mem_nil, or_false] at h
      rcases h with rfl | rfl
      · exact first_lt a
      · exact second_lt a 0
  | case3 a b =>
      simp only [sextets, List.mem_cons, List.not_mem_nil, or_false] at h
      rcases h with rfl | rfl | rfl
      · exact first_lt a
      · exact second_lt a b
      · exact third_lt b 0
  | case4 a b c rest ih =>
      simp only [sextets, List.mem_cons] at h
      rcases h with rfl | rfl | rfl | rfl | h
      · exact first_lt a
      · exact second_lt a b
      · exact third_lt b c
      · exact fourth_lt c
      · exact ih h

theorem length_sextets (bytes : List UInt8) :
    (sextets bytes).length = (bytes.length * 4 + 2) / 3 := by
  induction bytes using sextets.induct with
  | case1 => rfl
  | case2 a => simp [sextets]
  | case3 a b => simp [sextets]
  | case4 a b c rest ih =>
      rw [sextets]
      simp only [List.length_cons, ih]
      omega

/-- Four groups are three bytes, and a group that is left over is lost. -/
theorem length_octets (groups : List UInt8) : (octets groups).length = groups.length * 3 / 4 := by
  induction groups using octets.induct with
  | case1 s t u v rest ih =>
      rw [octets]
      simp only [List.length_cons, ih]
      omega
  | case2 s t u => simp [octets]
  | case3 s t => simp [octets]
  | case4 groups h₄ h₃ h₂ =>
      match groups with
      | [] => rfl
      | [s] => simp [octets]
      | [s, t] => exact absurd rfl (h₂ s t)
      | [s, t, u] => exact absurd rfl (h₃ s t u)
      | s :: t :: u :: v :: rest => exact absurd rfl (h₄ s t u v rest)

end Sextets
