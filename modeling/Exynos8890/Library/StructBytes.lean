import Exynos8890.Library.CStruct

/-!
# Structures as bytes

A C structure that is written out: each member at its place, and whatever its memory held
before in the gaps.  Who receives the bytes reads the members from the same places.

Main results:

- Theorem `member_le_sizeOf`: every member ends within `sizeof` of the structure.
- Theorem `slice_structBytes`: what is read from the place of a member is what the member
  held, whatever was in the gaps and whatever follows the structure.
-/

namespace CStruct

/-! ## Places -/

theorem le_alignUp {align : Nat} (h : 0 < align) (n : Nat) : n ≤ alignUp n align := by
  have hdiv := Nat.div_add_mod (n + align - 1) align
  have hmod := Nat.mod_lt (n + align - 1) h
  rw [alignUp, Nat.mul_comm]
  omega

/-- The members have an alignment. -/
def Aligned (ts : List CType) : Prop :=
  ∀ t ∈ ts, 0 < t.align

instance (ts : List CType) : Decidable (Aligned ts) :=
  inferInstanceAs (Decidable (∀ t ∈ ts, _))

theorem Aligned.tail {t : CType} {ts : List CType} (h : Aligned (t :: ts)) : Aligned ts :=
  fun u hu => h u (List.mem_cons_of_mem t hu)

theorem length_placeFrom (off : Nat) (ts : List CType) :
    (placeFrom off ts).length = ts.length := by
  induction ts generalizing off with
  | nil => rfl
  | cons t ts ih => rw [placeFrom, List.length_cons, ih, List.length_cons]

/-- The end of the last region, or the offset when there is none. -/
def endFrom (off : Nat) (rs : List Region) : Nat :=
  rs.foldl (fun _ r => r.off + r.size) off

theorem endFrom_cons (off : Nat) (r : Region) (rs : List Region) :
    endFrom off (r :: rs) = endFrom (r.off + r.size) rs :=
  rfl

theorem le_endFrom {off : Nat} {ts : List CType} (h : Aligned ts) :
    off ≤ endFrom off (placeFrom off ts) ∧
      ∀ r ∈ placeFrom off ts, r.off + r.size ≤ endFrom off (placeFrom off ts) := by
  induction ts generalizing off with
  | nil => exact ⟨le_rfl, fun r hr => absurd hr List.not_mem_nil⟩
  | cons t ts ih =>
      have hstart := le_alignUp (h t List.mem_cons_self) off
      obtain ⟨hoff, hmembers⟩ := @ih (alignUp off t.align + t.size) h.tail
      rw [placeFrom, endFrom_cons]
      refine ⟨?_, ?_⟩
      · dsimp only
        omega
      · intro r hr
        rcases List.mem_cons.mp hr with rfl | hr
        · exact hoff
        · exact hmembers r hr

theorem one_le_foldl_max (as : List Nat) (n : Nat) (h : 1 ≤ n) : 1 ≤ as.foldl max n := by
  induction as generalizing n with
  | nil => exact h
  | cons a as ih => exact ih (max n a) (Nat.le_trans h (Nat.le_max_left n a))

/-- Every member ends within `sizeof` of the structure. -/
theorem member_le_sizeOf {ts : List CType} (h : Aligned ts) {i : Nat} (hi : i < ts.length) :
    (member ts i).off + (member ts i).size ≤ sizeOf ts := by
  have hmem : member ts i ∈ placeFrom 0 ts := by
    have hlength : i < (placeFrom 0 ts).length := by rwa [length_placeFrom]
    rw [member, List.getD_eq_getElem?_getD, List.getElem?_eq_getElem hlength, Option.getD_some]
    exact List.getElem_mem hlength
  have hend := (le_endFrom h).2 _ hmem
  have halign : 0 < alignOf ts := one_le_foldl_max _ 1 le_rfl
  exact Nat.le_trans hend (le_alignUp halign _)

/-! ## Writing and reading -/

/-- Store the members at their places. -/
def storeAll : List Region → List (List UInt8) → Memory → Memory
  | r :: rs, bytes :: values, mem => storeAll rs values (store r.off bytes mem)
  | _, _, mem => mem

/-- The members fit their places. -/
def Fits (ts : List CType) (values : List (List UInt8)) : Prop :=
  List.Forall₂ (fun (t : CType) bytes => bytes.length = t.size) ts values

/-- The bytes of a structure with these members, over what its memory held before. -/
def structBytes (ts : List CType) (values : List (List UInt8)) (stale : Memory) : List UInt8 :=
  load ⟨0, sizeOf ts⟩ (storeAll (placeFrom 0 ts) values stale)

@[simp]
theorem length_structBytes (ts : List CType) (values : List (List UInt8)) (stale : Memory) :
    (structBytes ts values stale).length = sizeOf ts :=
  length_load _ _

/-- The bytes of a region in what was received. -/
def slice (r : Region) (bytes : List UInt8) : List UInt8 :=
  (bytes.drop r.off).take r.size

theorem load_storeAll_of_lt {r : Region} {off : Nat} {ts : List CType}
    {values : List (List UInt8)} (h : Aligned ts) (hr : r.off + r.size ≤ off) (mem : Memory) :
    load r (storeAll (placeFrom off ts) values mem) = load r mem := by
  induction ts generalizing off values mem with
  | nil => cases values <;> rfl
  | cons t ts ih =>
      cases values with
      | nil => rfl
      | cons bytes values =>
          have hstart := le_alignUp (h t List.mem_cons_self) off
          rw [placeFrom, storeAll, ih h.tail (by omega)]
          apply load_store_of_disjoint
          left
          dsimp only
          omega

theorem load_storeAll {off : Nat} {ts : List CType} {values : List (List UInt8)}
    (h : Aligned ts) (hfits : Fits ts values) (mem : Memory) {i : Nat} (hi : i < ts.length) :
    load ((placeFrom off ts).getD i ⟨0, 0⟩) (storeAll (placeFrom off ts) values mem) =
      values.getD i [] := by
  induction hfits generalizing off i mem with
  | nil => exact absurd hi (Nat.not_lt_zero i)
  | @cons t bytes ts values hlength _ ih =>
      cases i with
      | zero =>
          show load ⟨alignUp off t.align, t.size⟩
            (storeAll (placeFrom (alignUp off t.align + t.size) ts) values
              (store (alignUp off t.align) bytes mem)) = bytes
          rw [load_storeAll_of_lt h.tail le_rfl]
          exact load_store_self (r := ⟨alignUp off t.align, t.size⟩) hlength mem
      | succ i => exact ih h.tail _ (Nat.lt_of_succ_lt_succ hi)

/-- What is read from the place of a member is what the member held. -/
theorem slice_structBytes {ts : List CType} {values : List (List UInt8)} (h : Aligned ts)
    (hfits : Fits ts values) (stale : Memory) (rest : List UInt8) (i : Nat) :
    slice (member ts i) (structBytes ts values stale ++ rest) = values.getD i [] := by
  by_cases hi : i < ts.length
  · have hend := member_le_sizeOf h hi
    have hlength := length_structBytes ts values stale
    have hdrop : (structBytes ts values stale ++ rest).drop (member ts i).off =
        (structBytes ts values stale).drop (member ts i).off ++ rest :=
      List.drop_append_of_le_length (by omega)
    rw [slice, hdrop, List.take_append_of_le_length (by rw [List.length_drop]; omega), structBytes,
      take_drop_load hend, Nat.zero_add]
    exact load_storeAll h hfits stale hi
  · have hplace : member ts i = ⟨0, 0⟩ := by
      have hlength := length_placeFrom 0 ts
      rw [member, List.getD_eq_getElem?_getD, List.getElem?_eq_none (by omega), Option.getD_none]
    have hvalue : values.getD i [] = [] := by
      have hlength := hfits.length_eq
      rw [List.getD_eq_getElem?_getD, List.getElem?_eq_none (by omega), Option.getD_none]
    rw [hplace, hvalue, slice, List.take_zero]

end CStruct
