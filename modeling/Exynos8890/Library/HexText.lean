import Mathlib.Tactic

/-!
# Fixed-width hexadecimal text and separated names

Numbers and byte strings written with a fixed number of hexadecimal digits, and names that
are joined by a separator.  Both can be taken apart again: the digits determine the number
up to the width, and a name that does not contain the separator is what follows its last
occurrence.

Main results:

- Theorems `hexDigits_inj` and `hexBytes_inj`: the text determines what was written.
- Theorem `hexNumber_hexDigits`: reading digits gives the number up to the width.
- Theorem `append_sep_inj`: two texts are split at the last separator.
-/

namespace HexText

/-! ## Digits -/

/-- The lowest `width` hexadecimal digits of a number, the lowest first. -/
def hexDigits (digit : Nat → Char) : Nat → Nat → List Char
  | 0, _ => []
  | width + 1, n => digit (n % 16) :: hexDigits digit width (n / 16)

/-- A byte string, each byte as two digits, the higher first. -/
def hexBytes (digit : Nat → Char) (bytes : List UInt8) : List Char :=
  bytes.flatMap fun b => (hexDigits digit 2 b.toNat).reverse

/-- Different digits are written as different characters. -/
def Distinct (digit : Nat → Char) : Prop :=
  ∀ a < 16, ∀ b < 16, digit a = digit b → a = b

instance (digit : Nat → Char) : Decidable (Distinct digit) :=
  inferInstanceAs (Decidable (∀ a < 16, ∀ b < 16, _))

variable {digit : Nat → Char}

@[simp]
theorem length_hexDigits (width n : Nat) : (hexDigits digit width n).length = width := by
  induction width generalizing n with
  | zero => rfl
  | succ width ih => rw [hexDigits, List.length_cons, ih]

theorem hexDigits_inj (hdigit : Distinct digit) {width a b : Nat}
    (h : hexDigits digit width a = hexDigits digit width b) : a % 16 ^ width = b % 16 ^ width := by
  induction width generalizing a b with
  | zero => simp [Nat.mod_one]
  | succ width ih =>
      rw [hexDigits, hexDigits, List.cons.injEq] at h
      have hlow := hdigit _ (Nat.mod_lt a (by omega)) _ (Nat.mod_lt b (by omega)) h.1
      rw [Nat.pow_succ', Nat.mod_mul, Nat.mod_mul, hlow, ih h.2]

theorem mem_hexDigits {width n : Nat} {c : Char} (h : c ∈ hexDigits digit width n) :
    ∃ a < 16, c = digit a := by
  induction width generalizing n with
  | zero => cases h
  | succ width ih =>
      rw [hexDigits, List.mem_cons] at h
      rcases h with rfl | h
      · exact ⟨n % 16, Nat.mod_lt n (by omega), rfl⟩
      · exact ih h

@[simp]
theorem length_hexBytes (bytes : List UInt8) :
    (hexBytes digit bytes).length = 2 * bytes.length := by
  induction bytes with
  | nil => rfl
  | cons b bytes ih =>
      rw [hexBytes, List.flatMap_cons, List.length_append, List.length_reverse,
        length_hexDigits, List.length_cons]
      rw [hexBytes] at ih
      omega

theorem hexBytes_inj (hdigit : Distinct digit) {as bs : List UInt8}
    (h : hexBytes digit as = hexBytes digit bs) : as = bs := by
  induction as generalizing bs with
  | nil =>
      have hlength := congrArg List.length h
      rw [length_hexBytes, length_hexBytes] at hlength
      exact (List.length_eq_zero_iff.mp (by simpa using hlength.symm)).symm
  | cons a as ih =>
      cases bs with
      | nil =>
          have hlength := congrArg List.length h
          rw [length_hexBytes, length_hexBytes] at hlength
          simp at hlength
      | cons b bs =>
          rw [hexBytes, hexBytes, List.flatMap_cons, List.flatMap_cons] at h
          have hsplit := List.append_inj h (by simp)
          have hmod := hexDigits_inj hdigit (List.reverse_injective hsplit.1)
          have ha := a.toNat_lt
          have hb := b.toNat_lt
          have hbyte : a = b := by
            apply UInt8.toNat_inj.mp
            omega
          rw [hbyte, ih hsplit.2]

theorem mem_hexBytes {bytes : List UInt8} {c : Char} (h : c ∈ hexBytes digit bytes) :
    ∃ a < 16, c = digit a := by
  obtain ⟨b, -, hc⟩ := List.mem_flatMap.mp h
  exact mem_hexDigits (List.mem_reverse.mp hc)

/-! ## Reading digits -/

/-- The number that a text of digits stands for, the highest digit first. -/
def hexNumber (value : Char → Option Nat) (text : List Char) : Option Nat :=
  text.foldlM (fun n c => (value c).map fun v => 16 * n + v) 0

/-- Reading the digits of a number gives the number up to their width. -/
theorem hexNumber_hexDigits {value : Char → Option Nat}
    (hvalue : ∀ a < 16, value (digit a) = some a) (width n : Nat) :
    hexNumber value (hexDigits digit width n).reverse = some (n % 16 ^ width) := by
  induction width generalizing n with
  | zero => simp [hexNumber, hexDigits, Nat.mod_one]
  | succ width ih =>
      have hlow := hvalue (n % 16) (Nat.mod_lt n (by omega))
      have hrest := ih (n / 16)
      rw [hexNumber] at hrest
      rw [hexNumber, hexDigits, List.reverse_cons, List.foldlM_append, hrest, Nat.pow_succ',
        Nat.mod_mul]
      simp [hlow, Nat.add_comm]

/-! ## Separated names -/

variable {α : Type} {sep : α}

theorem eq_nil_of_cons_eq_append {c name name' : List α} (hname : sep ∉ name)
    (h : sep :: name = c ++ sep :: name') : c = [] := by
  cases c with
  | nil => rfl
  | cons a c =>
      rw [List.cons_append, List.cons.injEq] at h
      exact absurd (h.2 ▸ List.mem_append_right c List.mem_cons_self) hname

/-- Behind their last separator two texts have the same name, and before it the same
text. -/
theorem append_sep_inj {x y name name' : List α} (hname : sep ∉ name) (hname' : sep ∉ name')
    (h : x ++ sep :: name = y ++ sep :: name') : x = y ∧ name = name' := by
  rcases List.append_eq_append_iff.mp h with ⟨c, hy, hc⟩ | ⟨c, hx, hc⟩
  · have hnil := eq_nil_of_cons_eq_append hname hc
    rw [hnil] at hy hc
    exact ⟨by rw [hy, List.append_nil], (List.cons.inj hc).2⟩
  · have hnil := eq_nil_of_cons_eq_append hname' hc
    rw [hnil] at hx hc
    exact ⟨by rw [hx, List.append_nil], (List.cons.inj hc).2.symm⟩

/-- What stands before the last separator. -/
def beforeLast [DecidableEq α] (sep : α) (l : List α) : List α :=
  ((l.reverse.dropWhile fun c => c ≠ sep).drop 1).reverse

theorem beforeLast_append [DecidableEq α] {d name : List α} (hname : sep ∉ name) :
    beforeLast sep (d ++ sep :: name) = d := by
  have hrev : (d ++ sep :: name).reverse = name.reverse ++ sep :: d.reverse := by simp
  have hall : ∀ c ∈ name.reverse, (decide (c ≠ sep)) = true := by
    intro c hc
    rw [decide_eq_true_iff]
    exact fun heq => hname (heq ▸ List.mem_reverse.mp hc)
  rw [beforeLast, hrev, List.dropWhile_append_of_pos hall,
    List.dropWhile_cons_of_neg (by simp), List.drop_one, List.tail_cons, List.reverse_reverse]

/-- A prefix that ends with a separator ends before the last name. -/
theorem prefix_of_prefix_name {q d name : List α} (hname : sep ∉ name)
    (h : q ++ [sep] <+: d ++ sep :: name) : q ++ [sep] <+: d ++ [sep] := by
  obtain ⟨rest, hrest⟩ := h
  rcases List.append_eq_append_iff.mp hrest with ⟨c, hd, -⟩ | ⟨c, hq, hc⟩
  · rw [hd, List.append_assoc]
    exact List.prefix_append _ _
  · -- the part of the prefix behind `d` ends with a separator that is not in the name
    cases c with
    | nil =>
        rw [hq, List.append_nil]
        exact List.prefix_append _ _
    | cons a c =>
        rw [List.cons_append, List.cons.injEq] at hc
        have hlast : c = [] := by
          rcases List.eq_nil_or_concat c with hnil | ⟨c', b, rfl⟩
          · exact hnil
          · have hregroup : d ++ a :: c'.concat b = (d ++ a :: c') ++ [b] := by simp
            rw [hregroup, List.append_singleton_inj] at hq
            have hmem : sep ∈ name := by
              rw [hc.2, hq.2]
              simp
            exact absurd hmem hname
        rw [hq, hlast, ← hc.1]

end HexText
