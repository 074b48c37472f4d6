import Mathlib.Tactic

/-!
# C structures in byte memory

Integers as little-endian bytes, regions of a byte memory, and the places that a C
compiler gives to the members of a structure: each member at the next offset that is a
multiple of its alignment.

Main results:

- Theorem `ofLittleEndian_littleEndian`: `w` bytes keep a number modulo `256 ^ w`.
- Theorems `load_store_self` and `load_store_of_disjoint`: what a store does to a load.
- Theorem `load_store_independent_iff`: when a load shows nothing of the old memory.
- Theorem `load_assign`: after assignments to disjoint members every member holds what
  was assigned to it, whatever the memory held before.
-/

namespace CStruct

/-! ## Little-endian integers -/

/-- The `w` low bytes of a number, least significant first. -/
def littleEndian : Nat → Nat → List UInt8
  | 0, _ => []
  | w + 1, n => UInt8.ofNat n :: littleEndian w (n / 256)

/-- The number that bytes stand for, least significant first. -/
def ofLittleEndian : List UInt8 → Nat
  | [] => 0
  | b :: bs => b.toNat + 256 * ofLittleEndian bs

@[simp]
theorem length_littleEndian (w n : Nat) : (littleEndian w n).length = w := by
  induction w generalizing n with
  | zero => rfl
  | succ w ih => rw [littleEndian, List.length_cons, ih]

/-- Reading back what was written keeps the number modulo the width. -/
theorem ofLittleEndian_littleEndian (w n : Nat) :
    ofLittleEndian (littleEndian w n) = n % 256 ^ w := by
  induction w generalizing n with
  | zero => rw [littleEndian, ofLittleEndian, pow_zero, Nat.mod_one]
  | succ w ih =>
      have hbyte : (UInt8.ofNat n).toNat = n % 256 := by
        rw [UInt8.toNat_ofNat']
      rw [littleEndian, ofLittleEndian, ih, hbyte, pow_succ', Nat.mod_mul]

theorem ofLittleEndian_lt (bytes : List UInt8) : ofLittleEndian bytes < 256 ^ bytes.length := by
  induction bytes with
  | nil => exact Nat.one_pos
  | cons b bytes ih =>
      have hb := b.toNat_lt
      rw [ofLittleEndian, List.length_cons, pow_succ']
      omega

/-- Bytes are the ones of the number that they stand for. -/
theorem littleEndian_ofLittleEndian (bytes : List UInt8) :
    littleEndian bytes.length (ofLittleEndian bytes) = bytes := by
  induction bytes with
  | nil => rfl
  | cons b bytes ih =>
      have hb := b.toNat_lt
      have hlow : UInt8.ofNat (b.toNat + 256 * ofLittleEndian bytes) = b := by
        apply UInt8.toNat_inj.mp
        rw [UInt8.toNat_ofNat']
        omega
      have hhigh : (b.toNat + 256 * ofLittleEndian bytes) / 256 = ofLittleEndian bytes := by
        omega
      rw [List.length_cons, ofLittleEndian, littleEndian, hlow, hhigh, ih]

theorem testBit_ofLittleEndian (bytes : List UInt8) (i : Nat) :
    (ofLittleEndian bytes).testBit i = (bytes.getD (i / 8) 0).toNat.testBit (i % 8) := by
  induction bytes generalizing i with
  | nil => simp [ofLittleEndian]
  | cons b bytes ih =>
      have hsum : ofLittleEndian (b :: bytes) = 2 ^ 8 * ofLittleEndian bytes + b.toNat := by
        rw [ofLittleEndian]
        omega
      rw [hsum, Nat.testBit_two_pow_mul_add _ b.toNat_lt]
      by_cases hi : i < 8
      · rw [if_pos hi, Nat.div_eq_of_lt hi, Nat.mod_eq_of_lt hi]
        rfl
      · obtain ⟨j, rfl⟩ := Nat.exists_eq_add_of_le' (Nat.le_of_not_lt hi)
        rw [if_neg hi, Nat.add_sub_cancel, ih, Nat.add_div_right _ (by decide), Nat.add_mod_right]
        rfl

/-- A 64-bit value survives a cast to 32 bits exactly when it fits. -/
theorem toNat_toUInt32_eq_iff (n : UInt64) : n.toUInt32.toNat = n.toNat ↔ n < 0x100000000 := by
  rw [UInt64.lt_iff_toNat_lt, UInt64.toNat_toUInt32]
  show _ ↔ _ < 4294967296
  omega

theorem toNat_and_not_three (n : UInt32) : (n &&& ~~~3).toNat = n.toNat / 4 * 4 := by
  have hmask : (~~~3 : UInt32).toNat = (2 ^ 30 - 1) <<< 2 := by decide
  have hn : n.toNat / 4 * 4 = (n.toNat >>> 2) <<< 2 := by
    rw [Nat.shiftLeft_eq, Nat.shiftRight_eq_div_pow]
  rw [UInt32.toNat_and, hmask, hn]
  apply Nat.eq_of_testBit_eq
  intro i
  rw [Nat.testBit_and, Nat.testBit_shiftLeft, Nat.testBit_shiftLeft, Nat.testBit_two_pow_sub_one,
    Nat.testBit_shiftRight]
  by_cases hi : 2 ≤ i
  · rw [Nat.add_sub_cancel' hi]
    by_cases hlt : i < 32
    · simp [hi, show i - 2 < 30 by omega]
    · have hbit : n.toNat.testBit i = false := by
        apply Nat.testBit_lt_two_pow
        exact lt_of_lt_of_le n.toNat_lt (Nat.pow_le_pow_right (by decide) (by omega))
      simp [hbit]
  · simp [hi]

/-! ## Regions of a byte memory -/

/-- A byte memory. -/
abbrev Memory := Nat → UInt8

/-- A region: offset and size. -/
structure Region where
  off : Nat
  size : Nat
deriving DecidableEq, Repr

/-- The regions share no byte. -/
def Region.Disjoint (r s : Region) : Prop :=
  r.off + r.size ≤ s.off ∨ s.off + s.size ≤ r.off

instance (r s : Region) : Decidable (r.Disjoint s) :=
  inferInstanceAs (Decidable (_ ∨ _))

/-- The bytes of a region. -/
def load (r : Region) (m : Memory) : List UInt8 :=
  (List.range r.size).map fun i => m (r.off + i)

/-- Write bytes from an offset on. -/
def store (off : Nat) (bytes : List UInt8) (m : Memory) : Memory :=
  fun i => if off ≤ i then bytes[i - off]?.getD (m i) else m i

/-- The number in a region. -/
def value (r : Region) (m : Memory) : Nat :=
  ofLittleEndian (load r m)

@[simp]
theorem length_load (r : Region) (m : Memory) : (load r m).length = r.size := by
  simp [load]

theorem load_store_self {r : Region} {bytes : List UInt8} (h : bytes.length = r.size)
    (m : Memory) : load r (store r.off bytes m) = bytes := by
  apply List.ext_getElem
  · rw [length_load, h]
  · intro i hi hi'
    simp [load, store, hi']

/-- A load after a store there yields what was written, then what was there before. -/
theorem load_store (off len : Nat) (bytes : List UInt8) (m : Memory) :
    load ⟨off, len⟩ (store off bytes m) =
      (List.range len).map fun i => bytes[i]?.getD (m (off + i)) := by
  apply List.map_congr_left
  intro i _
  show (if off ≤ off + i then bytes[off + i - off]?.getD (m (off + i)) else m (off + i)) = _
  rw [if_pos (Nat.le_add_right off i), Nat.add_sub_cancel_left]

/-- What a load yields after a store there does not depend on what was there before
exactly when the store covers it. -/
theorem load_store_independent_iff (off len : Nat) (bytes : List UInt8) :
    (∀ m m' : Memory,
        load ⟨off, len⟩ (store off bytes m) = load ⟨off, len⟩ (store off bytes m')) ↔
      len ≤ bytes.length := by
  constructor
  · intro h
    by_contra hlt
    have heq := h (fun _ => 0) (fun _ => 1)
    rw [load_store, load_store] at heq
    have hbyte := List.map_eq_map_iff.mp heq bytes.length (List.mem_range.mpr (by omega))
    rw [List.getElem?_eq_none le_rfl, Option.getD_none, Option.getD_none] at hbyte
    exact absurd hbyte (by decide)
  · intro hle m m'
    rw [load_store, load_store]
    apply List.map_congr_left
    intro i hi
    have hi := List.mem_range.mp hi
    rw [List.getElem?_eq_getElem (by omega), Option.getD_some, Option.getD_some]

/-- A byte that is stored does not depend on what was there. -/
theorem store_inside {off i : Nat} {bytes : List UInt8} (h : off ≤ i ∧ i < off + bytes.length)
    (mem mem' : Memory) : store off bytes mem i = store off bytes mem' i := by
  rw [store, store, if_pos h.1, if_pos h.1, List.getElem?_eq_getElem (by omega),
    Option.getD_some, Option.getD_some]

theorem store_outside {off i : Nat} {bytes : List UInt8} (h : ¬ (off ≤ i ∧ i < off + bytes.length))
    (mem : Memory) : store off bytes mem i = mem i := by
  rw [store]
  split
  · rw [List.getElem?_eq_none (by omega), Option.getD_none]
  · rfl

/-- Where they are stored is up to the last of two stores of the same size. -/
theorem store_store {off : Nat} {bytes bytes' : List UInt8} (h : bytes'.length = bytes.length)
    (mem : Memory) : store off bytes (store off bytes' mem) = store off bytes mem := by
  funext i
  by_cases hi : off ≤ i ∧ i < off + bytes.length
  · exact store_inside hi _ _
  · rw [store_outside hi, store_outside hi, store_outside (by rw [h]; exact hi)]

theorem store_comm {off off' : Nat} {bytes bytes' : List UInt8}
    (h : off + bytes.length ≤ off' ∨ off' + bytes'.length ≤ off) (mem : Memory) :
    store off bytes (store off' bytes' mem) = store off' bytes' (store off bytes mem) := by
  funext i
  by_cases hi : off ≤ i ∧ i < off + bytes.length
  · have hi' : ¬ (off' ≤ i ∧ i < off' + bytes'.length) := by omega
    rw [store_outside hi', store_inside hi _ mem]
  · rw [store_outside hi]
    by_cases hi' : off' ≤ i ∧ i < off' + bytes'.length
    · exact store_inside hi' _ _
    · rw [store_outside hi', store_outside hi', store_outside hi]

theorem load_store_of_disjoint {r : Region} {off : Nat} {bytes : List UInt8}
    (h : r.off + r.size ≤ off ∨ off + bytes.length ≤ r.off) (m : Memory) :
    load r (store off bytes m) = load r m := by
  apply List.map_congr_left
  intro i hi
  have hi := List.mem_range.mp hi
  exact store_outside (by omega) m

theorem load_append (off a b : Nat) (m : Memory) :
    load ⟨off, a + b⟩ m = load ⟨off, a⟩ m ++ load ⟨off + a, b⟩ m := by
  simp only [load, List.range_add, List.map_append, List.map_map]
  congr 1
  apply List.map_congr_left
  intro i _
  rw [Function.comp_apply, Nat.add_assoc]

/-- A part of what a region holds is what a part of the region holds. -/
theorem take_drop_load {off n k j : Nat} (h : k + j ≤ n) (m : Memory) :
    ((load ⟨off, n⟩ m).drop k).take j = load ⟨off + k, j⟩ m := by
  obtain ⟨r, rfl⟩ := Nat.exists_eq_add_of_le h
  rw [Nat.add_assoc, load_append, load_append, List.drop_left' (length_load ⟨off, k⟩ m),
    List.take_left' (length_load ⟨off + k, j⟩ m)]

theorem take_load {off n k : Nat} (h : k ≤ n) (m : Memory) :
    (load ⟨off, n⟩ m).take k = load ⟨off, k⟩ m := by
  have hpart := @take_drop_load off n 0 k (by omega) m
  rwa [List.drop_zero, Nat.add_zero] at hpart

/-- Zeros behind an array are memory that nothing has been written to. -/
theorem load_zeros {n k : Nat} {mem : Memory} (hn : n ≤ k) (hzero : ∀ i, n ≤ i → mem i = 0) :
    load ⟨0, n⟩ mem ++ List.replicate (k - n) 0 = load ⟨0, k⟩ mem := by
  obtain ⟨d, rfl⟩ := Nat.exists_eq_add_of_le hn
  have htail : load ⟨0 + n, d⟩ mem = List.replicate d 0 := by
    apply List.eq_replicate_iff.mpr
    refine ⟨length_load _ _, ?_⟩
    intro b hb
    obtain ⟨i, -, rfl⟩ := List.mem_map.mp hb
    exact hzero _ (by dsimp only; omega)
  rw [load_append, Nat.add_sub_cancel_left, htail]

/-! ## Assignments -/

/-- Bytes for a region. -/
structure Assignment where
  region : Region
  bytes : List UInt8
  fits : bytes.length = region.size

/-- Assign an integer. -/
def Region.set (r : Region) (n : Nat) : Assignment where
  region := r
  bytes := littleEndian r.size n
  fits := length_littleEndian r.size n

@[simp]
theorem region_set (r : Region) (n : Nat) : (r.set n).region = r :=
  rfl

/-- Carry out assignments one after the other. -/
def assign (as : List Assignment) (m : Memory) : Memory :=
  as.foldl (fun m a => store a.region.off a.bytes m) m

/-- Assignments to regions that are disjoint from this one leave it alone. -/
theorem load_assign_of_disjoint {r : Region} {as : List Assignment}
    (h : ∀ a ∈ as, r.Disjoint a.region) (m : Memory) : load r (assign as m) = load r m := by
  induction as generalizing m with
  | nil => rfl
  | cons a as ih =>
      rw [assign, List.foldl_cons]
      have hrest := ih (fun b hb => h b (List.mem_cons_of_mem a hb))
        (store a.region.off a.bytes m)
      rw [assign] at hrest
      rw [hrest]
      apply load_store_of_disjoint
      rw [a.fits]
      exact h a List.mem_cons_self

/-- After assignments to disjoint regions every region holds what was assigned to it. -/
theorem load_assign {as : List Assignment}
    (hdisj : (as.map fun a => a.region).Pairwise Region.Disjoint) (m : Memory) :
    ∀ a ∈ as, load a.region (assign as m) = a.bytes := by
  induction as generalizing m with
  | nil =>
      intro a ha
      exact absurd ha List.not_mem_nil
  | cons b bs ih =>
      rw [List.map_cons, List.pairwise_cons] at hdisj
      intro a ha
      rcases List.mem_cons.mp ha with rfl | ha
      · have hrest : ∀ c ∈ bs, a.region.Disjoint c.region :=
          fun c hc => hdisj.1 c.region (List.mem_map_of_mem hc)
        show load a.region (assign bs (store a.region.off a.bytes m)) = a.bytes
        rw [load_assign_of_disjoint hrest]
        exact load_store_self a.fits m
      · exact ih hdisj.2 (store b.region.off b.bytes m) a ha

/-- A region that holds an assigned integer has its value, modulo the width. -/
theorem value_of_load {r : Region} {n : Nat} {m : Memory} (h : load r m = (r.set n).bytes) :
    value r m = n % 256 ^ r.size := by
  rw [value, h]
  exact ofLittleEndian_littleEndian r.size n

theorem value_u32 {r : Region} {n : UInt32} {m : Memory} (h : load r m = (r.set n.toNat).bytes)
    (hr : r.size = 4) : value r m = n.toNat := by
  rw [value_of_load h, hr]
  exact Nat.mod_eq_of_lt n.toNat_lt

theorem value_u64 {r : Region} {n : UInt64} {m : Memory} (h : load r m = (r.set n.toNat).bytes)
    (hr : r.size = 8) : value r m = n.toNat := by
  rw [value_of_load h, hr]
  exact Nat.mod_eq_of_lt n.toNat_lt

theorem assign_append (as bs : List Assignment) (m : Memory) :
    assign bs (assign as m) = assign (as ++ bs) m := by
  rw [assign, assign, assign, List.foldl_append]

/-! ## Members of unsigned integers -/

/-- The integer at an offset. -/
def u32At (m : Memory) (off : Nat) : UInt32 :=
  UInt32.ofNat (value ⟨off, 4⟩ m)

/-- An integer that was stored is read again, as far as it fits. -/
theorem u32At_of_load {m : Memory} {r : Region} {n : Nat} (hr : r.size = 4)
    (h : load r m = (r.set n).bytes) : u32At m r.off = UInt32.ofNat n := by
  rw [u32At, ← hr, value_of_load h, hr]
  apply UInt32.toNat.inj
  rw [UInt32.toNat_ofNat', UInt32.toNat_ofNat']
  exact Nat.mod_mod n _

theorem load_u32 (m : Memory) (off : Nat) :
    load ⟨off, 4⟩ m = littleEndian 4 (u32At m off).toNat := by
  have hlength : (load ⟨off, 4⟩ m).length = 4 := length_load _ _
  have hlt := ofLittleEndian_lt (load ⟨off, 4⟩ m)
  have hbytes := littleEndian_ofLittleEndian (load ⟨off, 4⟩ m)
  rw [hlength] at hlt hbytes
  rw [u32At, value, UInt32.toNat_ofNat_of_lt' hlt, hbytes]

theorem u32At_of_zeros {m : Memory} {off : Nat} (h : load ⟨off, 4⟩ m = List.replicate 4 0) :
    u32At m off = 0 := by
  rw [u32At, value, h]
  rfl

/-! ## Layout -/

/-- What the layout needs to know about a member. -/
structure CType where
  size : Nat
  align : Nat
deriving DecidableEq, Repr

def u8 : CType := ⟨1, 1⟩
def u32 : CType := ⟨4, 4⟩
def u64 : CType := ⟨8, 8⟩

/-- The width of a pointer on the platform. -/
inductive PointerWidth where
  | bits32
  | bits64
deriving DecidableEq, Repr

/-- A pointer, or an integer of its width. -/
def PointerWidth.word : PointerWidth → CType
  | .bits32 => ⟨4, 4⟩
  | .bits64 => ⟨8, 8⟩

/-- An array of bytes. -/
def byteArray (n : Nat) : CType := ⟨n, 1⟩

/-- The next multiple of an alignment. -/
def alignUp (n align : Nat) : Nat :=
  (n + align - 1) / align * align

/-- The places of members from an offset on. -/
def placeFrom : Nat → List CType → List Region
  | _, [] => []
  | off, t :: ts => ⟨alignUp off t.align, t.size⟩ :: placeFrom (alignUp off t.align + t.size) ts

/-- The place of a member of a structure. -/
def member (ts : List CType) (i : Nat) : Region :=
  (placeFrom 0 ts).getD i ⟨0, 0⟩

/-- The alignment of a structure. -/
def alignOf (ts : List CType) : Nat :=
  (ts.map fun t => t.align).foldl max 1

/-- The end of the last member. -/
def endOf (ts : List CType) : Nat :=
  (placeFrom 0 ts).foldl (fun _ r => r.off + r.size) 0

/-- `sizeof` of a structure: padded to its alignment. -/
def sizeOf (ts : List CType) : Nat :=
  alignUp (endOf ts) (alignOf ts)

/-- A structure as a member of another one. -/
def CType.struct (ts : List CType) : CType :=
  ⟨sizeOf ts, alignOf ts⟩

end CStruct
