import Exynos8890.Library.Crc
import Exynos8890.ProvLib.MessageBounds

/-!
# The checksum of provisioning messages

The checksum is computed a byte at a time, with a table that is built of reflected bytes.  It is
the one that is computed a bit at a time, and it stands in the trailer in the order in which the
bits of the message go through the register: what changes no more than 32 consecutive bits is
not validated.

Main results:

- Definition `bitwiseCRC32`: the checksum, a bit at a time.
- Theorem `toBitVec_crctable`: an entry of the table is eight steps of the register.
- Theorem `calcCRC32_eq`: the two ways to compute the checksum.
- Theorem `detectsBursts`: the checksum, and what a validation makes of a burst.
-/

namespace Exynos8890.ProvLib

open Crc CStruct

/-! ## A bit at a time -/

/-- The polynomial of CRC-32, reflected. -/
def crcPoly : BitVec 32 :=
  (0x04C11DB7 : BitVec 32).reverse

theorem crcPoly_constant : crcPoly.getLsbD (32 - 1) = true := by
  rw [crcPoly, BitVec.getLsbD_reverse]
  decide

/-- The bits of a byte, the lowest first. -/
def byteBits (b : UInt8) : List Bool :=
  (List.range 8).map b.toBitVec.getLsbD

/-- CRC-32: the register begins with ones, and its complement is the checksum. -/
def bitwiseCRC32 (data : List UInt8) : UInt32 :=
  UInt32.ofBitVec (~~~ run crcPoly (BitVec.allOnes 32) (data.flatMap byteBits))

example : bitwiseCRC32 [0x31, 0x32, 0x33, 0x34, 0x35, 0x36, 0x37, 0x38, 0x39] = 0xCBF43926 := by
  decide +kernel

/-! ## The table -/

theorem toBitVec_shiftLeft_ofNat (x : UInt32) {k : Nat} (hk : k < 32) :
    (x <<< UInt32.ofNat k).toBitVec = x.toBitVec <<< k := by
  have hshift : (UInt32.ofNat k).toBitVec % 32 = BitVec.ofNat 32 k := by
    apply BitVec.eq_of_toNat_eq
    simp
    omega
  rw [UInt32.toBitVec_shiftLeft, hshift, BitVec.shiftLeft_eq', BitVec.toNat_ofNat,
    Nat.mod_eq_of_lt (by omega)]

theorem and_bit_ne_zero_iff (x : UInt32) {k : Nat} (hk : k < 32) :
    x &&& ((1 : UInt32) <<< UInt32.ofNat k) ≠ 0 ↔ x.toBitVec.getLsbD k = true := by
  have hmask : (x &&& ((1 : UInt32) <<< UInt32.ofNat k)).toBitVec =
      x.toBitVec &&& BitVec.twoPow 32 k := by
    rw [UInt32.toBitVec_and, toBitVec_shiftLeft_ofNat _ hk]
    rfl
  have htwoPow : BitVec.twoPow 32 k ≠ 0 := by
    intro h
    have hbit := congrArg (fun v : BitVec 32 => v.getLsbD k) h
    simp [hk] at hbit
  have hzero : (0 : UInt32).toBitVec = 0 := rfl
  rw [ne_eq, ← UInt32.toBitVec_inj, hmask, BitVec.and_twoPow, hzero]
  split
  · rename_i hbit
    exact iff_of_true htwoPow hbit
  · rename_i hbit
    exact iff_of_false (not_not_intro rfl) hbit

/-- `reflect` writes the lowest bits of a number from the top of its result on. -/
theorem getLsbD_reflectFrom {k : Nat} (hk : k ≤ 32) (refl value : UInt32) (i : Nat) :
    (reflectFrom k refl value).toBitVec.getLsbD i =
      (value.toBitVec.getLsbD i || (decide (i < k) && refl.toBitVec.getLsbD (k - 1 - i))) := by
  induction k generalizing refl value with
  | zero => simp [reflectFrom]
  | succ k ih =>
      have hlow : refl &&& (1 : UInt32) ≠ 0 ↔ refl.toBitVec.getLsbD 0 = true :=
        @and_bit_ne_zero_iff refl 0 (by decide)
      have hvalue : (if refl &&& (1 : UInt32) ≠ 0 then
          value ||| ((1 : UInt32) <<< UInt32.ofNat k) else value).toBitVec.getLsbD i =
            (value.toBitVec.getLsbD i || (decide (k = i) && refl.toBitVec.getLsbD 0)) := by
        by_cases hbit : refl.toBitVec.getLsbD 0 = true
        · have hone : ((1 : UInt32) <<< UInt32.ofNat k).toBitVec = BitVec.twoPow 32 k :=
            toBitVec_shiftLeft_ofNat 1 hk
          rw [if_pos (hlow.mpr hbit), UInt32.toBitVec_or, hone, BitVec.getLsbD_or,
            BitVec.getLsbD_twoPow, hbit]
          simp [show k < 32 from hk]
        · rw [if_neg fun h => hbit (hlow.mp h), Bool.eq_false_of_not_eq_true hbit]
          simp
      have hshift : (refl >>> 1).toBitVec = refl.toBitVec >>> 1 := rfl
      rw [reflectFrom, ih (by omega), hvalue, hshift, BitVec.getLsbD_ushiftRight]
      by_cases hik : i < k
      · have hplace : 1 + (k - 1 - i) = k + 1 - 1 - i := by omega
        simp [hik, Nat.lt_succ_of_lt hik, (Nat.ne_of_lt hik).symm, hplace]
      · by_cases heq : k = i
        · simp [heq]
        · simp [hik, heq, show ¬ i < k + 1 by omega]

theorem getLsbD_reflect {c : Nat} (hc : c ≤ 32) (refl : UInt32) (i : Nat) :
    (reflect refl c).toBitVec.getLsbD i =
      (decide (i < c) && refl.toBitVec.getLsbD (c - 1 - i)) := by
  rw [reflect, getLsbD_reflectFrom hc]
  simp

theorem toBitVec_reflect (x : UInt32) : (reflect x 32).toBitVec = x.toBitVec.reverse := by
  apply BitVec.eq_of_getLsbD_eq
  intro i _
  rw [getLsbD_reflect le_rfl, BitVec.getLsbD_reverse, BitVec.getMsbD_eq_getLsbD]

/-- A shift of `InitCRCTable` is a step of the reflected register. -/
theorem reverse_shiftCRC (x : UInt32) :
    (shiftCRC x).toBitVec.reverse = step crcPoly x.toBitVec.reverse false := by
  have htop : x &&& ((1 : UInt32) <<< 31) ≠ 0 ↔ x.toBitVec.getLsbD 31 = true :=
    @and_bit_ne_zero_iff x 31 (by decide)
  have hshift : (x <<< 1).toBitVec = x.toBitVec <<< 1 := rfl
  have hpoly : (if x &&& ((1 : UInt32) <<< 31) ≠ 0 then (0x04C11DB7 : UInt32) else 0).toBitVec =
      if x.toBitVec.getLsbD 31 = true then (0x04C11DB7 : BitVec 32) else 0 := by
    simp only [htop]
    split <;> rfl
  apply BitVec.eq_of_getLsbD_eq
  intro i hi
  have hplace : 32 - 1 - i - 1 = 32 - 1 - (i + 1) := by omega
  have hfirst : (32 - 1 - i < 1) = ¬ i + 1 < 32 := by
    apply propext
    omega
  rw [getLsbD_step, crcPoly]
  simp only [BitVec.getLsbD_reverse, BitVec.getMsbD_eq_getLsbD]
  rw [shiftCRC, UInt32.toBitVec_xor, hshift, hpoly, BitVec.getLsbD_xor, BitVec.getLsbD_shiftLeft]
  simp only [hfirst, hplace]
  have hlast : (!decide (31 ≤ i)) = decide (i + 1 < 32) := by
    rw [← decide_not]
    exact decide_eq_decide.mpr (by omega)
  cases x.toBitVec.getLsbD 31 <;> simp [hi, hlast, show 31 - i < 32 by omega]

theorem reverse_reflected {i : UInt32} (hi : i.toNat < 256) :
    (reflect i 8 <<< 24).toBitVec.reverse = i.toBitVec := by
  have hshift : (reflect i 8 <<< 24).toBitVec = (reflect i 8).toBitVec <<< 24 :=
    toBitVec_shiftLeft_ofNat (reflect i 8) (by decide : 24 < 32)
  apply BitVec.eq_of_getLsbD_eq
  intro j hj
  rw [BitVec.getLsbD_reverse, BitVec.getMsbD_eq_getLsbD, hshift, BitVec.getLsbD_shiftLeft,
    getLsbD_reflect (by decide)]
  by_cases hlow : j < 8
  · have hplace : 8 - 1 - (32 - 1 - j - 24) = j := by omega
    simp [hj, hplace, show 31 - j < 32 by omega, show ¬ 31 - j < 24 by omega,
      show 31 - j - 24 < 8 by omega]
  · have hzero : i.toBitVec.getLsbD j = false := by
      apply Nat.testBit_lt_two_pow
      exact Nat.lt_of_lt_of_le hi
        (Nat.pow_le_pow_right (by decide : 0 < 2) (Nat.le_of_not_lt hlow))
    simp [hzero, show 31 - j < 24 by omega]

/-- An entry of the table is eight steps of the register. -/
theorem toBitVec_crctable {i : UInt32} (hi : i.toNat < 256) :
    (crctable i).toBitVec = run crcPoly i.toBitVec (List.replicate 8 false) := by
  have hshifts : ∀ (n : Nat) (x : UInt32), (shiftCRC^[n] x).toBitVec.reverse =
      (fun r => step crcPoly r false)^[n] x.toBitVec.reverse := by
    intro n
    induction n with
    | zero => exact fun x => rfl
    | succ n ih =>
        intro x
        rw [Function.iterate_succ_apply, ih, reverse_shiftCRC, Function.iterate_succ_apply]
  rw [crctable, toBitVec_reflect, hshifts, reverse_reflected hi, run_replicate]

/-- The bits of a byte are the lowest ones of a register that holds it. -/
theorem byteBits_eq (b : UInt8) :
    byteBits b = (List.range 8).map (b.toBitVec.setWidth 32).getLsbD := by
  apply List.map_congr_left
  intro i hi
  have hi : i < 8 := List.mem_range.mp hi
  rw [BitVec.getLsbD_setWidth]
  simp [show i < 32 by omega]

/-- The step of the table is eight steps of the register. -/
theorem toBitVec_tableStep (crc : UInt32) (byte : UInt8) :
    ((crc >>> 8) ^^^ crctable ((crc &&& 0xFF) ^^^ byte.toUInt32)).toBitVec =
      run crcPoly crc.toBitVec (byteBits byte) := by
  have hbyte : byte.toBitVec.setWidth 32 >>> 8 = 0 := by
    apply BitVec.eq_of_getLsbD_eq
    intro i _
    simp
  have hindex : ((crc &&& 0xFF) ^^^ byte.toUInt32).toNat < 2 ^ 8 := by
    rw [UInt32.toNat_xor, UInt32.toNat_and, UInt8.toNat_toUInt32]
    exact Nat.xor_lt_two_pow (Nat.lt_of_le_of_lt Nat.and_le_right (by decide)) byte.toNat_lt
  have htable : ((crc &&& 0xFF) ^^^ byte.toUInt32).toBitVec =
      (crc.toBitVec &&& 0xFF) ^^^ byte.toBitVec.setWidth 32 := rfl
  have hmask : ∀ i, (0xFF : BitVec 32).getLsbD i = decide (i < 8) := by
    intro i
    have hones : (0xFF : BitVec 32) = (BitVec.allOnes 8).setWidth 32 := by decide
    rw [hones, BitVec.getLsbD_setWidth, BitVec.getLsbD_allOnes]
    by_cases hi : i < 8
    · simp [hi, show i < 32 by omega]
    · simp [hi]
  have hsplit : crc.toBitVec ^^^ byte.toBitVec.setWidth 32 =
      ((crc.toBitVec &&& 0xFF) ^^^ byte.toBitVec.setWidth 32) ^^^ (crc.toBitVec &&& ~~~0xFF) := by
    apply BitVec.eq_of_getLsbD_eq
    intro i hi
    simp only [BitVec.getLsbD_xor, BitVec.getLsbD_and, BitVec.getLsbD_not, hmask]
    by_cases hlow : i < 8
    · simp [hlow]
    · simp [hlow, hi, Bool.xor_comm]
  have hhigh : ∀ i < 8, (crc.toBitVec &&& ~~~0xFF).getLsbD i = false := by
    intro i hi
    simp only [BitVec.getLsbD_and, BitVec.getLsbD_not, hmask]
    simp [hi]
  have hshift : (crc.toBitVec &&& ~~~0xFF) >>> 8 = crc.toBitVec >>> 8 := by
    apply BitVec.eq_of_getLsbD_eq
    intro i _
    simp only [BitVec.getLsbD_ushiftRight, BitVec.getLsbD_and, BitVec.getLsbD_not, hmask]
    by_cases hi : 8 + i < 32
    · simp [hi]
    · simp [BitVec.getLsbD_of_ge crc.toBitVec (8 + i) (by omega)]
  rw [byteBits_eq, run_eq_run_zeros hbyte, hsplit, run_zeros_xor hhigh, hshift, ← htable,
    ← toBitVec_crctable hindex, UInt32.toBitVec_xor, BitVec.xor_comm]
  rfl

theorem calcCRC32_eq (data : List UInt8) : calcCRC32 data = bitwiseCRC32 data := by
  have hfold : ∀ crc : UInt32, (data.foldl (fun (crc : UInt32) (byte : UInt8) =>
      (crc >>> 8) ^^^ crctable ((crc &&& 0xFF) ^^^ byte.toUInt32)) crc).toBitVec =
        run crcPoly crc.toBitVec (data.flatMap byteBits) := by
    induction data with
    | nil => exact fun crc => rfl
    | cons byte data ih =>
        intro crc
        rw [List.foldl_cons, ih, toBitVec_tableStep, List.flatMap_cons, run_append]
  apply UInt32.toBitVec_inj.mp
  rw [calcCRC32, UInt32.toBitVec_xor, hfold, bitwiseCRC32]
  have hones : (0xFFFFFFFF : UInt32).toBitVec = BitVec.allOnes 32 := rfl
  rw [hones, BitVec.xor_allOnes]

/-! ## The bits of a message -/

/-- A bit of a message, the lowest one of each byte first. -/
def messageBit (msg : Memory) (p : Nat) : Bool :=
  (msg (p / 8)).toBitVec.getLsbD (p % 8)

theorem messageBit_byte (msg : Memory) (n : Nat) {i : Nat} (hi : i < 8) :
    messageBit msg (8 * n + i) = (msg n).toBitVec.getLsbD i := by
  have hdiv : (8 * n + i) / 8 = n := by omega
  have hmod : (8 * n + i) % 8 = i := by omega
  rw [messageBit, hdiv, hmod]

/-- The bits that go through the register are those of the message. -/
theorem flatMap_byteBits_load (msg : Memory) (n : Nat) :
    (load ⟨0, n⟩ msg).flatMap byteBits = (List.range (8 * n)).map (messageBit msg) := by
  induction n with
  | zero => rfl
  | succ n ih =>
      have hload : load ⟨0, n + 1⟩ msg = load ⟨0, n⟩ msg ++ [msg n] := by
        rw [load_append, Nat.zero_add]
        rfl
      have hbits : byteBits (msg n) = (List.range 8).map fun i => messageBit msg (8 * n + i) := by
        apply List.map_congr_left
        intro i hi
        rw [messageBit_byte msg n (List.mem_range.mp hi)]
      rw [hload, List.flatMap_append, ih, Nat.mul_succ, List.range_add, List.map_append,
        List.map_map, List.flatMap_singleton, hbits]
      rfl

/-- The bits of an integer in a message are bits of the message. -/
theorem getLsbD_u32At (msg : Memory) (off : Nat) {i : Nat} (hi : i < 32) :
    (u32At msg off).toBitVec.getLsbD i = messageBit msg (8 * off + i) := by
  have hdiv : (8 * off + i) / 8 = off + i / 8 := by omega
  have hmod : (8 * off + i) % 8 = i % 8 := by omega
  have hbyte : (load ⟨off, 4⟩ msg).getD (i / 8) 0 = msg (off + i / 8) := by
    rw [List.getD_eq_getElem _ _ (by rw [length_load]; show i / 8 < 4; omega)]
    simp [load]
  have hbits : (u32At msg off).toBitVec.getLsbD i = (value ⟨off, 4⟩ msg).testBit i := by
    show (BitVec.ofNat 32 (value ⟨off, 4⟩ msg)).getLsbD i = _
    rw [BitVec.getLsbD_ofNat]
    simp [hi]
  rw [hbits, value, testBit_ofLittleEndian, hbyte, messageBit, hdiv, hmod]
  rfl

/-! ## Bursts -/

theorem trailerOff_of_compared {msg : Memory} {msgsize : UInt32} (h : Compared msg msgsize) :
    trailerOff msg + 4 = msgsize.toNat - 4 := by
  have hleast := h.least
  have hsize := congrArg UInt32.toNat h.size
  have hlt := (((u32At msg 4 + 3) &&& ~~~3) : UInt32).toNat_lt
  rw [UInt32.toNat_add] at hsize
  have hsum : msgsize.toNat = (16 + ((u32At msg 4 + 3) &&& ~~~3).toNat) % 4294967296 := hsize
  show 8 + ((u32At msg 4 + 3) &&& ~~~3).toNat + 4 = msgsize.toNat - 4
  omega

/-- The register of a validated message holds the complement of its checksum. -/
theorem run_of_compared {msg : Memory} {msgsize : UInt32} (h : Compared msg msgsize) :
    run crcPoly (BitVec.allOnes 32)
        ((List.range (8 * (msgsize.toNat - 4))).map (messageBit msg)) =
      ~~~ (u32At msg (msgsize.toNat - 4)).toBitVec := by
  have hcrc := h.crc32
  rw [trailerOff_of_compared h, calcCRC32_eq, bitwiseCRC32, flatMap_byteBits_load] at hcrc
  rw [← hcrc, UInt32.toBitVec_ofBitVec, BitVec.not_not]

/-- The difference of two validated messages of one size leaves nothing in the register. -/
theorem run_difference {msg msg' : Memory} {msgsize : UInt32} (h : Compared msg msgsize)
    (h' : Compared msg' msgsize) :
    run crcPoly 0 ((List.range (8 * msgsize.toNat)).map fun p =>
      messageBit msg p ^^ messageBit msg' p) = 0 := by
  obtain ⟨n, hn⟩ : ∃ n, msgsize.toNat = n + 4 := ⟨msgsize.toNat - 4, by have := h.least; omega⟩
  have hrun := run_of_compared h
  have hrun' := run_of_compared h'
  rw [hn, Nat.add_sub_cancel] at hrun hrun'
  have hfront : run crcPoly 0 ((List.range (8 * n)).map fun p =>
      messageBit msg p ^^ messageBit msg' p) =
        (u32At msg n).toBitVec ^^^ (u32At msg' n).toBitVec := by
    have hsum := @run_xor 32 crcPoly (messageBit msg) (messageBit msg') (8 * n)
      (BitVec.allOnes 32) (BitVec.allOnes 32)
    rw [hrun, hrun', BitVec.xor_self] at hsum
    refine hsum.trans ?_
    apply BitVec.eq_of_getLsbD_eq
    intro i hi
    simp [hi]
  have hback : (List.range 32).map (fun i =>
      messageBit msg (8 * n + i) ^^ messageBit msg' (8 * n + i)) =
        (List.range 32).map ((u32At msg n).toBitVec ^^^ (u32At msg' n).toBitVec).getLsbD := by
    apply List.map_congr_left
    intro i hi
    have hi : i < 32 := List.mem_range.mp hi
    rw [BitVec.getLsbD_xor, getLsbD_u32At msg n hi, getLsbD_u32At msg' n hi]
  have hlength : 8 * (n + 4) = 8 * n + 32 := by omega
  rw [hn, hlength, List.range_add, List.map_append, List.map_map, run_append, hfront]
  show run crcPoly _ ((List.range 32).map fun i =>
    messageBit msg (8 * n + i) ^^ messageBit msg' (8 * n + i)) = 0
  rw [hback, run_lowBits]
  exact BitVec.ushiftRight_eq_zero le_rfl

/-- The messages differ, within 32 consecutive bits. -/
structure Burst (n : Nat) (msg msg' : Memory) : Prop where
  differs : ∃ i < n, msg i ≠ msg' i
  within : ∃ s, ∀ p < 8 * n, messageBit msg p ≠ messageBit msg' p → s ≤ p ∧ p < s + 32

/-- The checksum is CRC-32, and a burst of 32 bits in a validated message is detected, wherever
it lies. -/
theorem detectsBursts :
    (∀ data : List UInt8, calcCRC32 data = bitwiseCRC32 data) ∧
      ∀ (msg msg' : Memory) (msgsize : UInt32), gdmcValidateProvMessage msg msgsize = .ok →
        Burst msgsize.toNat msg msg' → gdmcValidateProvMessage msg' msgsize ≠ .ok := by
  refine ⟨calcCRC32_eq, fun msg msg' msgsize hok hburst hok' => ?_⟩
  have hzero := run_difference (compared_of_validated hok) (compared_of_validated hok')
  obtain ⟨s, hwithin⟩ := hburst.within
  have hplace : ∀ p < 8 * msgsize.toNat, (messageBit msg p ^^ messageBit msg' p) = true →
      s ≤ p ∧ p < s + 32 := fun p hp hbit => hwithin p hp (bne_iff_ne.mp hbit)
  have hequal := eq_false_of_burst crcPoly_constant hzero hplace
  obtain ⟨i, hi, hne⟩ := hburst.differs
  apply hne
  apply UInt8.toBitVec_inj.mp
  apply BitVec.eq_of_getLsbD_eq
  intro j hj
  have hbit := hequal (8 * i + j) (by omega)
  rw [messageBit_byte msg i hj, messageBit_byte msg' i hj] at hbit
  exact bne_eq_false_iff_eq.mp hbit

/-- Another size of the body. -/
theorem detectsBursts_suidRequest :
    gdmcValidateProvMessage (store 4 [1] suidRequest) 16 ≠ .ok := by
  refine detectsBursts.2 suidRequest (store 4 [1] suidRequest) 16 (by decide +kernel)
    ⟨⟨4, by decide, by decide +kernel⟩, 32, fun p _ hne => ?_⟩
  by_contra hout
  have hbyte : store 4 [1] suidRequest (p / 8) = suidRequest (p / 8) := by
    unfold store
    split
    · rw [List.getElem?_eq_none (by simp; omega), Option.getD_none]
    · rfl
  exact hne (by rw [messageBit, messageBit, hbyte])

end Exynos8890.ProvLib
