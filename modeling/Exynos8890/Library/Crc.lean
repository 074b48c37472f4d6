import Mathlib.Data.List.GetD
import Mathlib.Data.List.Range
import Mathlib.Tactic

/-!
# Cyclic redundancy checks

A register of any width that divides by a polynomial, one bit of the input after the other.  The
register is reflected: its lowest bit is the next one to leave, and so is the polynomial, whose
highest bit stands for its constant.

Main results:

- Theorem `run_xor`: the register of a sum is the sum of the registers.
- Theorem `run_lowBits`: the bits of the register itself move it down.
- Theorem `getLsbD_eq_of_run_eq_zero`: what brings a register to zero within its width is what
  it holds.
- Theorem `eq_false_of_burst`: an error that lies within the width of the register is detected.
-/

namespace Crc

variable {w : Nat} (poly : BitVec w)

/-! ## The register -/

/-- The register after one bit. -/
def step (r : BitVec w) (b : Bool) : BitVec w :=
  if (r.getLsbD 0 ^^ b) = true then (r >>> 1) ^^^ poly else r >>> 1

/-- The register after some bits. -/
def run (r : BitVec w) (bits : List Bool) : BitVec w :=
  bits.foldl (step poly) r

variable {poly}

@[simp]
theorem run_nil (r : BitVec w) : run poly r [] = r :=
  rfl

@[simp]
theorem run_cons (r : BitVec w) (b : Bool) (bits : List Bool) :
    run poly r (b :: bits) = run poly (step poly r b) bits :=
  rfl

theorem run_append (r : BitVec w) (bits bits' : List Bool) :
    run poly r (bits ++ bits') = run poly (run poly r bits) bits' := by
  rw [run, List.foldl_append]
  rfl

theorem getLsbD_step (r : BitVec w) (b : Bool) (i : Nat) :
    (step poly r b).getLsbD i =
      (r.getLsbD (i + 1) ^^ (poly.getLsbD i && (r.getLsbD 0 ^^ b))) := by
  unfold step
  split
  · rename_i hout
    rw [BitVec.getLsbD_xor, BitVec.getLsbD_ushiftRight, hout, Bool.and_true, Nat.add_comm]
  · rename_i hout
    rw [BitVec.getLsbD_ushiftRight, Bool.eq_false_of_not_eq_true hout, Bool.and_false,
      Bool.xor_false, Nat.add_comm]

/-! ## Sums -/

theorem step_xor (r s : BitVec w) (b c : Bool) :
    step poly (r ^^^ s) (b ^^ c) = step poly r b ^^^ step poly s c := by
  apply BitVec.eq_of_getLsbD_eq
  intro i _
  simp only [getLsbD_step, BitVec.getLsbD_xor]
  cases poly.getLsbD i <;> cases r.getLsbD 0 <;> cases s.getLsbD 0 <;> cases b <;> cases c <;>
    simp

theorem run_xor (f g : Nat → Bool) (n : Nat) (r s : BitVec w) :
    run poly (r ^^^ s) ((List.range n).map fun p => f p ^^ g p) =
      run poly r ((List.range n).map f) ^^^ run poly s ((List.range n).map g) := by
  induction n with
  | zero => rfl
  | succ n ih =>
      simp only [List.range_succ, List.map_append, List.map_cons, List.map_nil, run_append, ih]
      exact step_xor _ _ _ _

/-! ## Zero registers -/

theorem run_zeros (n : Nat) : run poly 0 (List.replicate n false) = 0 := by
  induction n with
  | zero => rfl
  | succ n ih =>
      have hstep : step poly 0 false = 0 := by simp [step]
      rw [List.replicate_succ, run_cons, hstep, ih]

theorem run_lowBits (r : BitVec w) (n : Nat) :
    run poly r ((List.range n).map r.getLsbD) = r >>> n := by
  induction n with
  | zero => simp
  | succ n ih =>
      rw [List.range_succ, List.map_append, run_append, ih]
      show step poly (r >>> n) (r.getLsbD n) = _
      apply BitVec.eq_of_getLsbD_eq
      intro i _
      simp [getLsbD_step, Nat.add_comm, Nat.add_left_comm]

/-- Bits that are fed to the register may be added to it before. -/
theorem run_eq_run_zeros {r b : BitVec w} {n : Nat} (hb : b >>> n = 0) :
    run poly r ((List.range n).map b.getLsbD) = run poly (r ^^^ b) (List.replicate n false) := by
  have hsum := @run_xor w poly (fun _ => false) b.getLsbD n (r ^^^ b) b
  rw [run_lowBits, hb] at hsum
  simpa [BitVec.xor_assoc] using hsum

theorem run_zeros_xor {r s : BitVec w} {n : Nat} (hs : ∀ i < n, s.getLsbD i = false) :
    run poly (r ^^^ s) (List.replicate n false) =
      run poly r (List.replicate n false) ^^^ s >>> n := by
  have hsum := @run_xor w poly (fun _ => false) s.getLsbD n r s
  have hlow : (List.range n).map (fun p => false ^^ s.getLsbD p) = List.replicate n false := by
    apply List.eq_replicate_iff.mpr
    refine ⟨by simp, fun b hb => ?_⟩
    obtain ⟨i, hi, rfl⟩ := List.mem_map.mp hb
    rw [Bool.false_xor, hs i (List.mem_range.mp hi)]
  have hzeros : (List.range n).map (fun _ => false) = List.replicate n false := by simp
  rw [run_lowBits, hlow, hzeros] at hsum
  exact hsum

theorem run_replicate (r : BitVec w) (n : Nat) :
    run poly r (List.replicate n false) = (fun r => step poly r false)^[n] r := by
  induction n generalizing r with
  | zero => rfl
  | succ n ih => rw [List.replicate_succ, run_cons, ih, Function.iterate_succ_apply]

/-- What brings a register to zero within its width is what it holds: as the polynomial has a
constant, a bit that is fed back is not gone before the width of the register is through. -/
theorem getLsbD_eq_of_run_eq_zero (hpoly : poly.getLsbD (w - 1) = true) {bits : List Bool}
    (hlength : bits.length ≤ w) {r : BitVec w} (h : run poly r bits = 0) (i : Nat) :
    r.getLsbD i = bits.getD i false := by
  induction bits generalizing r i with
  | nil =>
      rw [run_nil] at h
      simp [h]
  | cons b bits ih =>
      have hrest := ih (Nat.le_of_succ_le hlength) h
      have hout : (r.getLsbD 0 ^^ b) = false := by
        have hlast := hrest (w - 1)
        rw [getLsbD_step, hpoly, Bool.true_and, BitVec.getLsbD_of_ge r _ (by omega),
          Bool.false_xor] at hlast
        rw [hlast, List.getD_eq_default]
        rw [List.length_cons] at hlength
        omega
      cases i with
      | zero =>
          rw [List.getD_cons_zero]
          revert hout
          cases r.getLsbD 0 <;> cases b <;> simp
      | succ i =>
          rw [List.getD_cons_succ, ← hrest i, getLsbD_step, hout, Bool.and_false, Bool.xor_false]

theorem eq_zero_of_run_zeros (hpoly : poly.getLsbD (w - 1) = true) {n : Nat} {r : BitVec w}
    (h : run poly r (List.replicate n false) = 0) : r = 0 := by
  have hw : 1 ≤ w := by
    by_contra hw
    rw [BitVec.getLsbD_of_ge poly _ (by omega)] at hpoly
    cases hpoly
  induction n generalizing r with
  | zero => exact h
  | succ n ih =>
      have hstep : run poly r [false] = 0 := ih h
      apply BitVec.eq_of_getLsbD_eq
      intro i _
      have hbit := getLsbD_eq_of_run_eq_zero hpoly (by simpa using hw) hstep i
      rw [hbit]
      cases i <;> simp

/-! ## Bursts -/

/-- An error that lies within the width of the register is detected. -/
theorem eq_false_of_burst (hpoly : poly.getLsbD (w - 1) = true) {f : Nat → Bool} {n s : Nat}
    (h : run poly 0 ((List.range n).map f) = 0)
    (hburst : ∀ p < n, f p = true → s ≤ p ∧ p < s + w) : ∀ p < n, f p = false := by
  intro p hp
  by_contra htrue
  have hsn : s < n := Nat.lt_of_le_of_lt (hburst p hp (Bool.eq_true_of_not_eq_false htrue)).1 hp
  have hzero : ∀ q < n, ¬ (s ≤ q ∧ q < s + w) → f q = false := fun q hq hout =>
    Bool.eq_false_of_not_eq_true fun hq' => hout (hburst q hq hq')
  -- before the burst, the burst, and what follows it
  obtain ⟨k, d, hk, hd, rfl⟩ : ∃ k d, k ≤ w ∧ (d = 0 ∨ k = w) ∧ n = s + (k + d) := by
    by_cases hlong : n - s ≤ w
    · exact ⟨n - s, 0, hlong, Or.inl rfl, by omega⟩
    · exact ⟨w, n - s - w, le_rfl, Or.inr rfl, by omega⟩
  have hbefore : (List.range s).map f = List.replicate s false := by
    apply List.eq_replicate_iff.mpr
    refine ⟨by simp, fun b hb => ?_⟩
    obtain ⟨q, hq, rfl⟩ := List.mem_map.mp hb
    have hq : q < s := List.mem_range.mp hq
    exact hzero q (by omega) (by omega)
  have hbehind : (List.range d).map (fun i => f (s + (k + i))) = List.replicate d false := by
    apply List.eq_replicate_iff.mpr
    refine ⟨by simp, fun b hb => ?_⟩
    obtain ⟨q, hq, rfl⟩ := List.mem_map.mp hb
    have hq : q < d := List.mem_range.mp hq
    exact hzero _ (by omega) (by omega)
  have hsplit : (List.range (s + (k + d))).map f = List.replicate s false ++
      ((List.range k).map (fun i => f (s + i)) ++ List.replicate d false) := by
    rw [← hbefore, ← hbehind]
    simp only [List.range_add, List.map_append, List.map_map, Function.comp_def]
  rw [hsplit, run_append, run_zeros, run_append] at h
  have hwindow := eq_zero_of_run_zeros hpoly h
  have hbit := getLsbD_eq_of_run_eq_zero hpoly (by simpa using hk) hwindow (p - s)
  have hplace : s ≤ p ∧ p < s + w := hburst p hp (Bool.eq_true_of_not_eq_false htrue)
  have hp' : p - s < k := by omega
  have hsum : s + (p - s) = p := by omega
  have hnone : (0 : BitVec w).getLsbD (p - s) = false := BitVec.getLsbD_zero
  rw [hnone, List.getD_eq_getElem _ _ (by simpa using hp'), List.getElem_map,
    List.getElem_range, hsum] at hbit
  exact htrue hbit.symm

end Crc
