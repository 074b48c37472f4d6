import Exynos8890.Library.BoundedString
import Exynos8890.Library.CStruct
import Exynos8890.Library.MachineInt
import Exynos8890.Library.Sextets

/-!
# Base64 in memory buffers

Bytes and base64 texts in buffers that are allocated for the result before it is known.  The
encoder fills the last block of a text with `=`.  The decoder skips every character that has no
value, and keeps in its block what the block before it left there.

A computation has no result where an index overflows an `int`, where a buffer is left, or where
a loop does not end in the rounds that it is given.

Main results:

- Definitions `base64DecodeStringRemoveEndZero` and `base64EncodeAddEndZero`.
- Theorem `outerLoop_holds`: a loop over blocks ends, and writes what its rounds write.
- Theorem `fillBlock_holds`: what is in a block, whatever the text has between its characters.
- Theorem `decode_holds`: what comes out of any text, and that it fits.
- Theorem `encode_eq`: the text of any bytes, which fills its buffer.
- Theorem `roundTrip_and_bounds`: the bytes come back, and no buffer is left.
-/

namespace Exynos8890.RootPa

namespace Base64

open BoundedString CStruct MachineInt Sextets

/-! ## Tables -/

/-- The bytes of a string constant. -/
def asBytes (s : String) : List UInt8 :=
  s.toList.map fun c => UInt8.ofNat c.toNat

def cb64 : List UInt8 :=
  asBytes "ABCDEFGHIJKLMNOPQRSTUVWXYZabcdefghijklmnopqrstuvwxyz0123456789+/"

def cd64 : List UInt8 :=
  asBytes "|$$$\x7drstuvwxyz\x7b$$$$$$$>?@ABCDEFGHIJKLMNOPQRSTUVW$$$$$$XYZ[\\]^_`abcdefghijklmnopq"

def encodedSize : Nat := 4
def plainSize : Nat := 3

/-- `FIRSTB64ASCII`. -/
def firstB64Ascii : UInt8 := 43

/-- `LASTB64ASCII`. -/
def lastB64Ascii : UInt8 := 122

def dollar : UInt8 := 36
def padding : UInt8 := 61

/-- What a character sets `v` to. -/
def charValue (c : UInt8) : Nat :=
  let v := if c < firstB64Ascii ∨ lastB64Ascii < c then 0
    else (cd64.getD (c - firstB64Ascii).toNat 0).toNat
  if v ≠ 0 then if v = dollar.toNat then 0 else v - 61 else v

/-- The character of a group of six bits. -/
def digit (s : UInt8) : UInt8 :=
  cb64.getD s.toNat 0

/-! ## Blocks and loops -/

/-- A block `in`, how much of it is in use, and the index of what is read next. -/
structure Block where
  inIndex : Nat
  len : Nat
  bytes : List UInt8
deriving DecidableEq, Repr

/-- `(*resultP)[outIndex++] = out[i]`, for each byte of a block. -/
def writeOut : List UInt8 → Nat → List UInt8 → Option (Nat × List UInt8)
  | [], outIndex, result => some (outIndex, result)
  | b :: out, outIndex, result => do
      let result ← writeAt result outIndex [b]
      let outIndex ← int (outIndex + 1)
      writeOut out outIndex result

/-- The variables of the outer loops. -/
structure Progress where
  inIndex : Nat
  outIndex : Nat
  block : List UInt8
  result : List UInt8
deriving DecidableEq, Repr

/-- The outer loop, given so many rounds. -/
def outerLoop (inSize : Nat) (round : Progress → Option Progress) :
    Nat → Progress → Option Progress
  | 0, s => if s.inIndex < inSize then none else some s
  | rounds + 1, s =>
      if s.inIndex < inSize then (round s).bind fun s => outerLoop inSize round rounds s
      else some s

/-- What rounds have written, and what they leave alone. -/
structure Written (s s' : Progress) (out : List UInt8) : Prop where
  length_block : s'.block.length = s.block.length
  length_result : s'.result.length = s.result.length
  outIndex_eq : s'.outIndex = s.outIndex + out.length
  take_result : s'.result.take s'.outIndex = s.result.take s.outIndex ++ out

theorem Written.refl (s : Progress) : Written s s [] where
  length_block := rfl
  length_result := rfl
  outIndex_eq := rfl
  take_result := (List.append_nil _).symm

theorem Written.trans {s₁ s₂ s₃ : Progress} {out out' : List UInt8} (h : Written s₁ s₂ out)
    (h' : Written s₂ s₃ out') : Written s₁ s₃ (out ++ out') where
  length_block := h'.length_block.trans h.length_block
  length_result := h'.length_result.trans h.length_result
  outIndex_eq := by
    rw [h'.outIndex_eq, h.outIndex_eq, List.length_append, Nat.add_assoc]
  take_result := by
    rw [h'.take_result, h.take_result, List.append_assoc]

/-- There is room for what is still to be written. -/
structure Fits (size : Nat) (out : List UInt8) (s : Progress) : Prop where
  length_block : s.block.length = size
  inside : s.outIndex + out.length ≤ s.result.length
  small : s.outIndex + out.length < 2 ^ 31

theorem Fits.left {size : Nat} {out out' : List UInt8} {s : Progress}
    (h : Fits size (out ++ out') s) : Fits size out s := by
  have hinside := h.inside
  have hsmall := h.small
  rw [List.length_append] at hinside hsmall
  exact ⟨h.length_block, by omega, by omega⟩

theorem Fits.right {size : Nat} {out out' : List UInt8} {s s' : Progress}
    (h : Fits size (out ++ out') s) (hwritten : Written s s' out) : Fits size out' s' := by
  have hinside := h.inside
  have hsmall := h.small
  rw [List.length_append, ← Nat.add_assoc, ← hwritten.outIndex_eq] at hinside hsmall
  exact ⟨hwritten.length_block.trans h.length_block, hwritten.length_result ▸ hinside, hsmall⟩

/-- The bytes of a block are written one behind the other. -/
theorem writeOut_of_fits {size : Nat} {out : List UInt8} {s : Progress} (h : Fits size out s)
    {inIndex : Nat} {block : List UInt8} (hblock : block.length = size) :
    ∃ outIndex result, writeOut out s.outIndex s.result = some (outIndex, result) ∧
      Written s ⟨inIndex, outIndex, block, result⟩ out := by
  induction out generalizing s with
  | nil => exact ⟨s.outIndex, s.result, rfl, hblock.trans h.length_block.symm, rfl, rfl,
      (List.append_nil _).symm⟩
  | cons b out ih =>
      have hsplit : Fits size ([b] ++ out) s := h
      obtain ⟨result, hwrite⟩ := writeAt_of_le hsplit.left.inside
      have hwritten : Written s ⟨s.inIndex, s.outIndex + 1, s.block, result⟩ [b] :=
        ⟨rfl, length_writeAt hwrite, rfl, take_writeAt hwrite⟩
      have hindex : int (s.outIndex + 1) = some (s.outIndex + 1) := int_of_lt hsplit.left.small
      obtain ⟨outIndex, result', hrest, hwritten'⟩ := ih (hsplit.right hwritten)
      refine ⟨outIndex, result', ?_, hwritten.trans hwritten'⟩
      rw [writeOut, hwrite]
      show ((int (s.outIndex + 1)).bind fun outIndex => writeOut out outIndex result) = _
      rw [hindex, Option.bind_some]
      exact hrest

/-- What a round does: it reads on, and writes the beginning of what is still to be written,
which is `rest` of the index. -/
structure RoundHolds (inSize size : Nat) (rest : Nat → List UInt8)
    (round : Progress → Option Progress) : Prop where
  ended : ∀ i, inSize ≤ i → rest i = []
  next : ∀ s : Progress, s.inIndex < inSize → Fits size (rest s.inIndex) s →
    ∃ s' out, round s = some s' ∧ s.inIndex < s'.inIndex ∧ Written s s' out ∧
      rest s.inIndex = out ++ rest s'.inIndex

theorem outerLoop_holds {inSize size : Nat} {rest : Nat → List UInt8}
    {round : Progress → Option Progress} (hround : RoundHolds inSize size rest round)
    {rounds : Nat} {s : Progress} (hrounds : inSize ≤ s.inIndex + rounds)
    (hfits : Fits size (rest s.inIndex) s) :
    ∃ s', outerLoop inSize round rounds s = some s' ∧ Written s s' (rest s.inIndex) := by
  induction rounds generalizing s with
  | zero =>
      refine ⟨s, ?_, ?_⟩
      · rw [outerLoop, if_neg (by omega)]
      · rw [hround.ended s.inIndex hrounds]
        exact Written.refl s
  | succ rounds ih =>
      by_cases hlt : s.inIndex < inSize
      · obtain ⟨s₁, out, hstep, hread, hwritten, hrest⟩ := hround.next s hlt hfits
        rw [hrest] at hfits ⊢
        obtain ⟨s₂, hloop, hwritten'⟩ := ih (by omega) (hfits.right hwritten)
        refine ⟨s₂, ?_, hwritten.trans hwritten'⟩
        rw [outerLoop, if_pos hlt, hstep, Option.bind_some, hloop]
      · refine ⟨s, ?_, ?_⟩
        · rw [outerLoop, if_neg hlt]
        · rw [hround.ended s.inIndex (by omega)]
          exact Written.refl s

/-! ## Values -/

/-- The group that a character stands for, if it is not skipped. -/
def sextetOf (c : UInt8) : Option UInt8 :=
  if charValue c = 0 then none else some (UInt8.ofNat (charValue c - 1))

/-- The groups that the characters of a text stand for. -/
def groups (chars : List UInt8) : List UInt8 :=
  chars.filterMap sextetOf

theorem length_groups_le (chars : List UInt8) : (groups chars).length ≤ chars.length :=
  List.length_filterMap_le sextetOf chars

theorem sextetOf_digit {s : UInt8} (hs : s < 64) : sextetOf (digit s) = some s := by
  have htables : ∀ n < 64, sextetOf (digit (UInt8.ofNat n)) = some (UInt8.ofNat n) := by
    decide +kernel
  have hdigit := htables s.toNat (UInt8.lt_iff_toNat_lt.mp hs)
  rwa [UInt8.ofNat_toNat] at hdigit

theorem sextetOf_padding : sextetOf padding = none := by
  decide +kernel

theorem sextetOf_zero : sextetOf 0 = none := by
  decide +kernel

/-! ## The decoder -/

def decodeblock (block : List UInt8) : List UInt8 :=
  let byte (i : Nat) := block.getD i 0
  [(byte 0 <<< 2) ||| (byte 1 >>> 4), (byte 1 <<< 4) ||| (byte 2 >>> 2),
    ((byte 2 <<< 6) &&& 0xc0) ||| byte 3]

/-- The loop that skips characters; it is given those from `inIndex` on. -/
def nextValue : List UInt8 → Nat → Option (Nat × Nat)
  | [], inIndex => some (0, inIndex)
  | c :: rest, inIndex => do
      let inIndex ← int (inIndex + 1)
      if charValue c = 0 then nextValue rest inIndex else some (charValue c, inIndex)

/-- The rounds of the loop over a block from `i` on. -/
def fillBlock (chars : List UInt8) : Nat → Nat → Block → Option Block
  | 0, _, b => some b
  | rounds + 1, i, b =>
      if b.inIndex < chars.length then do
        let (v, inIndex) ← nextValue (chars.drop b.inIndex) b.inIndex
        if inIndex ≤ chars.length then
          if v ≠ 0 then
            fillBlock chars rounds (i + 1) ⟨inIndex, b.len + 1, b.bytes.set i (UInt8.ofNat (v - 1))⟩
          else fillBlock chars rounds (i + 1) ⟨inIndex, b.len, b.bytes⟩
        else fillBlock chars rounds (i + 1) ⟨inIndex, b.len, b.bytes.set i 0⟩
      else some b

/-- A round of the outer loop. -/
def decodeRound (chars : List UInt8) (s : Progress) : Option Progress := do
  let b ← fillBlock chars encodedSize 0 ⟨s.inIndex, 0, s.block⟩
  if 0 < b.len then
    let (outIndex, result) ← writeOut ((decodeblock b.bytes).take (b.len - 1)) s.outIndex s.result
    some ⟨b.inIndex, outIndex, b.bytes, result⟩
  else some ⟨b.inIndex, s.outIndex, b.bytes, s.result⟩

def decodeLoop (chars : List UInt8) (rounds : Nat) (s : Progress) : Option Progress :=
  outerLoop chars.length (decodeRound chars) rounds s

/-- `outSize` of a text. -/
def plainBufferSize (abi : Abi) (inSize : Nat) : Nat :=
  let n := abi.size (inSize * plainSize)
  abi.size (n / encodedSize + n % encodedSize)

/-- The number of bytes, and the buffer; `heap` and `stack` are what the buffers held before. -/
def base64DecodeStringRemoveEndZero (abi : Abi) (heap stack : Memory)
    (toBeDecoded : List UInt8) : Option (Nat × List UInt8) := do
  let chars ← text 0 toBeDecoded
  let result := load ⟨0, plainBufferSize abi chars.length⟩ heap
  let s ← decodeLoop chars chars.length ⟨0, 0, (load ⟨0, encodedSize⟩ stack).set 0 0, result⟩
  some (s.outIndex, s.result)

/-- What the loop that skips characters finds. -/
structure Found (rest : List UInt8) (v n : Nat) : Prop where
  length_le : n ≤ rest.length
  pos : rest ≠ [] → 0 < n
  skipped : v = 0 → n = rest.length ∧ groups rest = []
  value : v ≠ 0 → groups rest = UInt8.ofNat (v - 1) :: groups (rest.drop n)

theorem nextValue_found (rest : List UInt8) {inIndex : Nat}
    (h : inIndex + rest.length < 2 ^ 31) :
    ∃ v n, nextValue rest inIndex = some (v, inIndex + n) ∧ Found rest v n := by
  induction rest generalizing inIndex with
  | nil => exact ⟨0, 0, rfl, le_rfl, fun hne => absurd rfl hne, fun _ => ⟨rfl, rfl⟩,
      fun hne => absurd rfl hne⟩
  | cons c rest ih =>
      rw [List.length_cons] at h
      have hnext : nextValue (c :: rest) inIndex =
          if charValue c = 0 then nextValue rest (inIndex + 1)
          else some (charValue c, inIndex + 1) := by
        show ((int (inIndex + 1)).bind fun inIndex => _) = _
        rw [int_of_lt (by omega), Option.bind_some]
      by_cases hc : charValue c = 0
      · have hgroups : groups (c :: rest) = groups rest :=
          List.filterMap_cons_none (if_pos hc)
        obtain ⟨v, n, hrest, hfound⟩ := @ih (inIndex + 1) (by omega)
        refine ⟨v, n + 1, ?_, Nat.succ_le_succ hfound.length_le, fun _ => n.succ_pos, ?_, ?_⟩
        · rw [hnext, if_pos hc, hrest, Nat.add_assoc, Nat.add_comm 1]
        · intro hv
          rw [hgroups]
          exact ⟨congrArg Nat.succ (hfound.skipped hv).1, (hfound.skipped hv).2⟩
        · intro hv
          rw [hgroups, List.drop_succ_cons]
          exact hfound.value hv
      · refine ⟨charValue c, 1, ?_, Nat.succ_le_succ rest.length.zero_le, fun _ => Nat.one_pos,
          fun hv => absurd hv hc, fun _ => ?_⟩
        · rw [hnext, if_neg hc]
        · exact List.filterMap_cons_some (if_neg hc)

/-- What rounds of the loop over a block add to it. -/
structure Filled (chars : List UInt8) (rounds : Nat) (b b' : Block) (new : List UInt8) :
    Prop where
  inIndex_le : b'.inIndex ≤ chars.length
  le_inIndex : b.inIndex ≤ b'.inIndex
  reads : 0 < rounds → b.inIndex < chars.length → b.inIndex < b'.inIndex
  length_bytes : b'.bytes.length = b.bytes.length
  len_eq : b'.len = b.len + new.length
  take_bytes : b'.bytes.take b'.len = b.bytes.take b.len ++ new
  groups_eq : groups (chars.drop b.inIndex) = new ++ groups (chars.drop b'.inIndex)
  length_le : new.length ≤ rounds
  full : new.length = rounds ∨ b'.inIndex = chars.length

section FillBlock

variable {chars : List UInt8} {rounds : Nat} {b b' : Block} {new : List UInt8}

theorem fillBlock_of_ended {i : Nat} (h : ¬ b.inIndex < chars.length) :
    fillBlock chars rounds i b = some b := by
  cases rounds with
  | zero => rfl
  | succ rounds => rw [fillBlock, if_neg h]

/-- Nothing is added after the last round, and at the end of the text. -/
theorem Filled.refl (hindex : b.inIndex ≤ chars.length)
    (h : rounds = 0 ∨ b.inIndex = chars.length) : Filled chars rounds b b [] where
  inIndex_le := hindex
  le_inIndex := le_rfl
  reads := by omega
  length_bytes := rfl
  len_eq := rfl
  take_bytes := (List.append_nil _).symm
  groups_eq := rfl
  length_le := Nat.zero_le rounds
  full := h.imp_left Eq.symm

/-- Only the end of the text stops the search without a value. -/
theorem Filled.skip {n : Nat} (hn : 0 < n) (hend : b.inIndex + n = chars.length)
    (hgroups : groups (chars.drop b.inIndex) = []) :
    Filled chars rounds b ⟨b.inIndex + n, b.len, b.bytes⟩ [] where
  inIndex_le := hend.le
  le_inIndex := Nat.le_add_right _ n
  reads := fun _ _ => Nat.lt_add_of_pos_right hn
  length_bytes := rfl
  len_eq := rfl
  take_bytes := (List.append_nil _).symm
  groups_eq := by
    rw [hgroups, hend, List.drop_length]
    rfl
  length_le := Nat.zero_le rounds
  full := Or.inr hend

theorem take_set_succ {α : Type} {l : List α} {i : Nat} (h : i < l.length) (a : α) :
    (l.set i a).take (i + 1) = l.take i ++ [a] := by
  rw [List.take_set, List.take_add_one, List.set_append_right _ _ (by simp)]
  simp [List.getElem?_eq_getElem h, Nat.min_eq_left h.le]

theorem Filled.cons {n : Nat} {x : UInt8} (hn : 0 < n) (hlen : b.len < b.bytes.length)
    (hgroups : groups (chars.drop b.inIndex) = x :: groups (chars.drop (b.inIndex + n)))
    (h : Filled chars rounds ⟨b.inIndex + n, b.len + 1, b.bytes.set b.len x⟩ b' new) :
    Filled chars (rounds + 1) b b' (x :: new) where
  inIndex_le := h.inIndex_le
  le_inIndex := (Nat.le_add_right _ n).trans h.le_inIndex
  reads := fun _ _ => lt_of_lt_of_le (Nat.lt_add_of_pos_right hn) h.le_inIndex
  length_bytes := by rw [h.length_bytes, List.length_set]
  len_eq := by
    rw [h.len_eq, List.length_cons]
    show b.len + 1 + new.length = b.len + (new.length + 1)
    omega
  take_bytes := by
    rw [h.take_bytes, take_set_succ hlen, List.append_assoc, List.singleton_append]
  groups_eq := by rw [hgroups, h.groups_eq, List.cons_append]
  length_le := Nat.succ_le_succ h.length_le
  full := h.full.imp_left (congrArg Nat.succ)

/-- The values of a block stand at its beginning, without gaps; the rest is what it held. -/
theorem fillBlock_holds (hchars : chars.length < 2 ^ 31) (hindex : b.inIndex ≤ chars.length)
    (hlen : b.len + rounds ≤ b.bytes.length) :
    ∃ b' new, fillBlock chars rounds b.len b = some b' ∧ Filled chars rounds b b' new := by
  induction rounds generalizing b with
  | zero => exact ⟨b, [], rfl, Filled.refl hindex (Or.inl rfl)⟩
  | succ rounds ih =>
      rcases Nat.lt_or_ge b.inIndex chars.length with hlt | hge
      · have hrest : (chars.drop b.inIndex).length = chars.length - b.inIndex :=
          List.length_drop
        obtain ⟨v, n, hnext, hfound⟩ := @nextValue_found (chars.drop b.inIndex) b.inIndex
          (by omega)
        have hle := hfound.length_le
        have hpos : 0 < n := hfound.pos (List.ne_nil_of_length_pos (by omega))
        have hround : fillBlock chars (rounds + 1) b.len b =
            if v ≠ 0 then fillBlock chars rounds (b.len + 1)
              ⟨b.inIndex + n, b.len + 1, b.bytes.set b.len (UInt8.ofNat (v - 1))⟩
            else fillBlock chars rounds (b.len + 1) ⟨b.inIndex + n, b.len, b.bytes⟩ := by
          rw [fillBlock, if_pos hlt, hnext]
          exact if_pos (by omega)
        by_cases hv : v = 0
        · obtain ⟨hn, hnone⟩ := hfound.skipped hv
          have hend : b.inIndex + n = chars.length := by omega
          refine ⟨⟨b.inIndex + n, b.len, b.bytes⟩, [], ?_, Filled.skip hpos hend hnone⟩
          rw [hround, if_neg (not_not_intro hv), fillBlock_of_ended hend.not_lt]
        · have hgroups := hfound.value hv
          rw [List.drop_drop] at hgroups
          obtain ⟨b', new, hfill, hfilled⟩ :=
            @ih ⟨b.inIndex + n, b.len + 1, b.bytes.set b.len (UInt8.ofNat (v - 1))⟩
              (show b.inIndex + n ≤ chars.length by omega)
              (show b.len + 1 + rounds ≤ (b.bytes.set b.len _).length by
                rw [List.length_set]
                omega)
          refine ⟨b', _, ?_, Filled.cons hpos (by omega) hgroups hfilled⟩
          rw [hround, if_pos hv, hfill]
      · exact ⟨b, [], fillBlock_of_ended hge.not_gt,
          Filled.refl hindex (Or.inr (le_antisymm hindex hge))⟩

end FillBlock

/-- The bytes of a block that is not full are those of the groups in it. -/
theorem take_decodeblock {block : List UInt8} (hblock : block.length = encodedSize) {n : Nat}
    (hn : n ≤ encodedSize) : (decodeblock block).take (n - 1) = octets (block.take n) := by
  obtain ⟨s, t, u, v, rfl⟩ := List.length_eq_four.mp hblock
  replace hn : n ≤ 4 := hn
  interval_cases n <;> rfl

/-- Groups that are taken off in blocks have the same bytes. -/
theorem octets_append {new rest : List UInt8} (h : new.length = encodedSize ∨ rest = []) :
    octets (new ++ rest) = octets new ++ octets rest := by
  rcases h with hfour | rfl
  · obtain ⟨s, t, u, v, rfl⟩ := List.length_eq_four.mp hfour
    rfl
  · rw [List.append_nil]
    exact (List.append_nil _).symm

/-- What is to be written for the characters from an index on. -/
def plainFrom (chars : List UInt8) (inIndex : Nat) : List UInt8 :=
  octets (groups (chars.drop inIndex))

theorem decodeRound_holds {chars : List UInt8} (hchars : chars.length < 2 ^ 31) :
    RoundHolds chars.length encodedSize (plainFrom chars) (decodeRound chars) where
  ended i hi := by
    rw [plainFrom, List.drop_of_length_le hi]
    rfl
  next s hlt hfits := by
    obtain ⟨b, new, hfill, hfilled⟩ := @fillBlock_holds chars encodedSize ⟨s.inIndex, 0, s.block⟩
      hchars hlt.le (by rw [hfits.length_block, Nat.zero_add])
    have hlen : b.len = new.length := by rw [hfilled.len_eq, Nat.zero_add]
    have hblock : b.bytes.length = encodedSize := hfilled.length_bytes.trans hfits.length_block
    have htake : b.bytes.take b.len = new := hfilled.take_bytes
    have hread : s.inIndex < b.inIndex := hfilled.reads (by decide) hlt
    have hplain : plainFrom chars s.inIndex = octets new ++ plainFrom chars b.inIndex := by
      rw [plainFrom, hfilled.groups_eq]
      apply octets_append
      refine hfilled.full.imp_right fun hend => ?_
      rw [hend, List.drop_length]
      rfl
    rw [hplain] at hfits ⊢
    by_cases hpos : 0 < b.len
    · obtain ⟨outIndex, result, hwrite, hwritten⟩ :=
        @writeOut_of_fits _ _ s hfits.left b.inIndex b.bytes hblock
      refine ⟨⟨b.inIndex, outIndex, b.bytes, result⟩, octets new, ?_, hread, hwritten, rfl⟩
      rw [decodeRound, hfill, Option.bind_eq_bind, Option.bind_some, if_pos hpos,
        take_decodeblock hblock (hlen ▸ hfilled.length_le), htake, hwrite]
      rfl
    · have hnil : new = [] := List.eq_nil_of_length_eq_zero (by omega)
      refine ⟨⟨b.inIndex, s.outIndex, b.bytes, s.result⟩, octets new, ?_, hread, ?_, rfl⟩
      · rw [decodeRound, hfill, Option.bind_eq_bind, Option.bind_some, if_neg hpos]
      · rw [hnil]
        exact ⟨hblock.trans hfits.length_block.symm, rfl, rfl, (List.append_nil _).symm⟩

theorem plainBufferSize_of_lt (abi : Abi) {inSize : Nat} (h : inSize * 3 < 2 ^ 32) :
    inSize * 3 / 4 ≤ plainBufferSize abi inSize := by
  have hsize : ∀ n, n < 2 ^ 32 → abi.size n = n := fun n hn =>
    Nat.mod_eq_of_lt (lt_of_lt_of_le hn (by cases abi <;> decide))
  show _ ≤ abi.size (abi.size (inSize * 3) / 4 + abi.size (inSize * 3) % 4)
  rw [hsize _ h, hsize _ (by omega)]
  exact Nat.le_add_right _ _

/-- What comes out of a text: the bytes of its values, and what the buffer held behind them. -/
theorem decode_holds (abi : Abi) (heap stack : Memory) {toBeDecoded chars : List UInt8}
    (htext : text 0 toBeDecoded = some chars) (h : chars.length * 3 < 2 ^ 32) :
    ∃ plain, base64DecodeStringRemoveEndZero abi heap stack toBeDecoded =
        some ((octets (groups chars)).length, plain) ∧
      plain.length = plainBufferSize abi chars.length ∧
      (octets (groups chars)).length ≤ plain.length ∧
      plain.take (octets (groups chars)).length = octets (groups chars) := by
  have hgroups := length_groups_le chars
  have hroom := plainBufferSize_of_lt abi h
  have hlength := length_octets (groups chars)
  let start : Progress := ⟨0, 0, (load ⟨0, encodedSize⟩ stack).set 0 0,
    load ⟨0, plainBufferSize abi chars.length⟩ heap⟩
  have hresult : start.result.length = plainBufferSize abi chars.length := length_load _ heap
  have hfits : Fits encodedSize (plainFrom chars start.inIndex) start := by
    refine ⟨?_, ?_, ?_⟩
    · exact List.length_set.trans (length_load _ stack)
    · show 0 + (octets (groups chars)).length ≤ start.result.length
      omega
    · show 0 + (octets (groups chars)).length < 2 ^ 31
      omega
  have hchars : chars.length < 2 ^ 31 := by omega
  obtain ⟨s, hloop, hwritten⟩ :=
    outerLoop_holds (decodeRound_holds hchars) (Nat.le_add_left chars.length start.inIndex) hfits
  have hindex : s.outIndex = (octets (groups chars)).length :=
    hwritten.outIndex_eq.trans (Nat.zero_add _)
  have hlength' : s.result.length = plainBufferSize abi chars.length :=
    hwritten.length_result.trans hresult
  refine ⟨s.result, ?_, hlength', by omega, ?_⟩
  · rw [base64DecodeStringRemoveEndZero, htext, Option.bind_eq_bind, Option.bind_some]
    show (outerLoop chars.length (decodeRound chars) chars.length start).bind _ = _
    rw [hloop, ← hindex]
    rfl
  · rw [← hindex]
    exact hwritten.take_result

/-! ## The encoder -/

def encodeblock (block : List UInt8) (len : Nat) : List UInt8 :=
  let byte (i : Nat) := block.getD i 0
  [digit (byte 0 >>> 2), digit (((byte 0 &&& 0x03) <<< 4) ||| ((byte 1 &&& 0xf0) >>> 4)),
    if 1 < len then digit (((byte 1 &&& 0x0f) <<< 2) ||| ((byte 2 &&& 0xc0) >>> 6)) else padding,
    if 2 < len then digit (byte 2 &&& 0x3f) else padding]

/-- The rounds of the loop over a block from `i` on. -/
def readBlock (toBeEncoded : List UInt8) (length : Nat) : Nat → Nat → Block → Option Block
  | 0, _, b => some b
  | rounds + 1, i, b => do
      let inIndex ← int (b.inIndex + 1)
      if b.inIndex < length then
        let c ← toBeEncoded[b.inIndex]?
        readBlock toBeEncoded length rounds (i + 1) ⟨inIndex, b.len + 1, b.bytes.set i c⟩
      else readBlock toBeEncoded length rounds (i + 1) ⟨inIndex, b.len, b.bytes.set i 0⟩

/-- A round of the outer loop. -/
def encodeRound (toBeEncoded : List UInt8) (length : Nat) (s : Progress) : Option Progress := do
  let b ← readBlock toBeEncoded length plainSize 0 ⟨s.inIndex, 0, s.block⟩
  if 0 < b.len then
    let (outIndex, result) ← writeOut (encodeblock b.bytes b.len) s.outIndex s.result
    some ⟨b.inIndex, outIndex, b.bytes, result⟩
  else some ⟨b.inIndex, s.outIndex, b.bytes, s.result⟩

def encodeLoop (toBeEncoded : List UInt8) (length rounds : Nat) (s : Progress) :
    Option Progress :=
  outerLoop length (encodeRound toBeEncoded length) rounds s

/-- `outSize` of a buffer. -/
def textBufferSize (abi : Abi) (length : Nat) : Nat :=
  abi.size ((length / plainSize + if 0 < length % plainSize then 1 else 0) * encodedSize + 1)

/-- The buffer; `heap` and `stack` are what the buffers held before. -/
def base64EncodeAddEndZero (abi : Abi) (heap stack : Memory) (toBeEncoded : List UInt8)
    (length : Nat) : Option (List UInt8) := do
  let outSize := textBufferSize abi length
  let result ← writeAt (load ⟨0, outSize⟩ heap) (outSize - 1) [0]
  let s ← encodeLoop toBeEncoded length length
    ⟨0, 0, (load ⟨0, plainSize⟩ stack).set 0 0, result⟩
  writeAt s.result s.outIndex [0]

/-- What the rounds of the loop over a block read; there is `0` behind the end. -/
structure Read (toBeEncoded : List UInt8) (rounds i : Nat) (b b' : Block) : Prop where
  inIndex_eq : b'.inIndex = b.inIndex + rounds
  len_eq : b'.len = b.len + min rounds (toBeEncoded.drop b.inIndex).length
  length_bytes : b'.bytes.length = b.bytes.length
  take_bytes : b'.bytes.take (i + rounds) =
    b.bytes.take i ++ (toBeEncoded.drop b.inIndex).takeD rounds 0

theorem readBlock_read {toBeEncoded : List UInt8} {rounds i : Nat} {b : Block}
    (hindex : b.inIndex + rounds < 2 ^ 31) (hi : i + rounds ≤ b.bytes.length) :
    ∃ b', readBlock toBeEncoded toBeEncoded.length rounds i b = some b' ∧
      Read toBeEncoded rounds i b b' := by
  induction rounds generalizing i b with
  | zero => exact ⟨b, rfl, rfl, by rw [Nat.zero_min]; rfl, rfl, (List.append_nil _).symm⟩
  | succ rounds ih =>
      have hhead : (toBeEncoded.drop b.inIndex).head? = toBeEncoded[b.inIndex]? :=
        List.head?_drop
      have hround : readBlock toBeEncoded toBeEncoded.length (rounds + 1) i b =
          readBlock toBeEncoded toBeEncoded.length rounds (i + 1)
            ⟨b.inIndex + 1, b.len + min 1 (toBeEncoded.drop b.inIndex).length,
              b.bytes.set i ((toBeEncoded.drop b.inIndex).head?.getD 0)⟩ := by
        rw [readBlock, int_of_lt (by omega), Option.bind_eq_bind, Option.bind_some, hhead,
          List.length_drop]
        split
        · rename_i hlt
          rw [List.getElem?_eq_getElem hlt, Nat.min_eq_left (by omega)]
          rfl
        · rename_i hge
          rw [List.getElem?_eq_none (by omega), Nat.min_eq_right (by omega),
            Nat.sub_eq_zero_of_le (by omega)]
          rfl
      obtain ⟨b', hrest, hread⟩ := @ih (i + 1)
        ⟨b.inIndex + 1, b.len + min 1 (toBeEncoded.drop b.inIndex).length,
          b.bytes.set i ((toBeEncoded.drop b.inIndex).head?.getD 0)⟩
        (show b.inIndex + 1 + rounds < 2 ^ 31 by omega)
        (by rw [List.length_set]; omega)
      have hlen : b'.len = b.len + min 1 (toBeEncoded.drop b.inIndex).length +
        min rounds (toBeEncoded.drop (b.inIndex + 1)).length := hread.len_eq
      have htail : (toBeEncoded.drop b.inIndex).tail = toBeEncoded.drop (b.inIndex + 1) := by
        rw [List.tail_drop]
      refine ⟨b', hround.trans hrest, ?_, ?_, ?_, ?_⟩
      · rw [hread.inIndex_eq]
        show b.inIndex + 1 + rounds = b.inIndex + (rounds + 1)
        omega
      · rw [hlen, List.length_drop, List.length_drop]
        omega
      · rw [hread.length_bytes, List.length_set]
      · rw [show i + (rounds + 1) = i + 1 + rounds by omega, hread.take_bytes,
          take_set_succ (by omega), List.append_assoc, List.takeD_succ, htail]
        rfl

/-! ## Texts -/

/-- The text of bytes. -/
def encoded (bytes : List UInt8) : List UInt8 :=
  (sextets bytes).map digit ++ List.replicate ((3 - bytes.length % 3) % 3) padding

theorem length_encoded (bytes : List UInt8) :
    (encoded bytes).length =
      (bytes.length / 3 + if 0 < bytes.length % 3 then 1 else 0) * 4 := by
  rw [encoded, List.length_append, List.length_map, length_sextets, List.length_replicate]
  split <;> omega

/-- The characters of a text are those of its groups, and padding is skipped. -/
theorem groups_encoded (bytes : List UInt8) : groups (encoded bytes) = sextets bytes := by
  have hdigits : (sextets bytes).filterMap (sextetOf ∘ digit) = sextets bytes := by
    have hsome : ∀ s ∈ sextets bytes, (sextetOf ∘ digit) s = some s :=
      fun s hs => sextetOf_digit (lt_of_mem_sextets hs)
    rw [List.filterMap_congr hsome, List.filterMap_some]
  rw [groups, encoded, List.filterMap_append, List.filterMap_map, hdigits,
    List.filterMap_replicate_of_none sextetOf_padding, List.append_nil]

theorem zero_not_mem_encoded (bytes : List UInt8) : 0 ∉ encoded bytes := by
  rw [encoded, List.mem_append, List.mem_map, List.mem_replicate]
  rintro (⟨s, hs, hzero⟩ | ⟨-, hzero⟩)
  · have hdigit := sextetOf_digit (lt_of_mem_sextets hs)
    rw [hzero, sextetOf_zero] at hdigit
    cases hdigit
  · exact absurd hzero (by decide)

theorem encoded_eq {bytes : List UInt8} (hne : bytes ≠ []) :
    encoded bytes = encodeblock (bytes.takeD plainSize 0) (min plainSize bytes.length) ++
      encoded (bytes.drop plainSize) := by
  match bytes with
  | [] => exact absurd rfl hne
  | [a] => simp [encoded, encodeblock, sextets, plainSize, first, second]
  | [a, b] => simp [encoded, encodeblock, sextets, plainSize, first, second, third]
  | a :: b :: c :: rest =>
      have hlen : 2 < min plainSize (a :: b :: c :: rest).length := by
        rw [List.length_cons, List.length_cons, List.length_cons]
        show 2 < min 3 _
        omega
      have hpadding : (3 - (a :: b :: c :: rest).length % 3) % 3 =
          (3 - rest.length % 3) % 3 := by
        rw [List.length_cons, List.length_cons, List.length_cons]
        omega
      have hblock : encodeblock ((a :: b :: c :: rest).takeD plainSize 0)
          (min plainSize (a :: b :: c :: rest).length) =
            [digit (first a), digit (second a b), digit (third b c), digit (fourth c)] := by
        rw [encodeblock, if_pos (by omega), if_pos hlen]
        rfl
      rw [hblock, encoded, hpadding, sextets]
      rfl

/-- What is to be written for the bytes from an index on. -/
def textFrom (bytes : List UInt8) (inIndex : Nat) : List UInt8 :=
  encoded (bytes.drop inIndex)

theorem encodeRound_holds {bytes : List UInt8} (hbytes : bytes.length + 3 ≤ 2 ^ 31) :
    RoundHolds bytes.length plainSize (textFrom bytes) (encodeRound bytes bytes.length) where
  ended i hi := by
    rw [textFrom, List.drop_of_length_le hi]
    rfl
  next s hlt hfits := by
    obtain ⟨b, hreads, hread⟩ := @readBlock_read bytes plainSize 0 ⟨s.inIndex, 0, s.block⟩
      (show s.inIndex + 3 < 2 ^ 31 by omega)
      (by rw [hfits.length_block, Nat.zero_add])
    have hblock : b.bytes.length = plainSize := hread.length_bytes.trans hfits.length_block
    have hindex : b.inIndex = s.inIndex + plainSize := hread.inIndex_eq
    have hlen : b.len = min plainSize (bytes.drop s.inIndex).length :=
      hread.len_eq.trans (Nat.zero_add _)
    have hcontent : b.bytes = (bytes.drop s.inIndex).takeD plainSize 0 := by
      have htake := hread.take_bytes
      rwa [List.take_of_length_le (by rw [hblock, Nat.zero_add]), List.take_zero,
        List.nil_append] at htake
    have hpos : 0 < (bytes.drop s.inIndex).length := by
      rw [List.length_drop]
      omega
    have htext : textFrom bytes s.inIndex =
        encodeblock b.bytes b.len ++ textFrom bytes b.inIndex := by
      rw [textFrom, encoded_eq (List.ne_nil_of_length_pos hpos), ← hcontent, ← hlen,
        List.drop_drop, ← hindex, textFrom]
    rw [htext] at hfits ⊢
    obtain ⟨outIndex, result, hwrite, hwritten⟩ :=
      @writeOut_of_fits _ _ s hfits.left b.inIndex b.bytes hblock
    refine ⟨⟨b.inIndex, outIndex, b.bytes, result⟩, _, ?_, ?_, hwritten, rfl⟩
    · rw [encodeRound, hreads, Option.bind_eq_bind, Option.bind_some,
        if_pos (by rw [hlen]; exact lt_min (by decide) hpos), hwrite]
      rfl
    · show s.inIndex < b.inIndex
      rw [hindex]
      exact Nat.lt_add_of_pos_right (by decide)

theorem length_encoded_lt {bytes : List UInt8} (h : bytes.length < 2 ^ 30) :
    (encoded bytes).length * 3 < 2 ^ 32 := by
  rw [length_encoded]
  split <;> omega

theorem textBufferSize_eq (abi : Abi) {bytes : List UInt8} (h : bytes.length < 2 ^ 30) :
    textBufferSize abi bytes.length = (encoded bytes).length + 1 := by
  have hlt := length_encoded_lt h
  rw [textBufferSize, plainSize, encodedSize, ← length_encoded]
  exact size_of_lt abi (by omega)

theorem encode_eq (abi : Abi) (heap stack : Memory) {bytes : List UInt8}
    (h : bytes.length < 2 ^ 30) :
    base64EncodeAddEndZero abi heap stack bytes bytes.length = some (encoded bytes ++ [0]) := by
  have hlt := length_encoded_lt h
  have hsize := textBufferSize_eq abi h
  have hroom : textBufferSize abi bytes.length - 1 + [(0 : UInt8)].length ≤
      (load ⟨0, textBufferSize abi bytes.length⟩ heap).length := by
    rw [length_load, hsize]
    exact le_rfl
  obtain ⟨result, hfirst⟩ := writeAt_of_le hroom
  let start : Progress := ⟨0, 0, (load ⟨0, plainSize⟩ stack).set 0 0, result⟩
  have hresult : start.result.length = (encoded bytes).length + 1 :=
    (length_writeAt hfirst).trans ((length_load _ heap).trans hsize)
  have hfits : Fits plainSize (textFrom bytes start.inIndex) start := by
    refine ⟨?_, ?_, ?_⟩
    · exact List.length_set.trans (length_load _ stack)
    · show 0 + (encoded bytes).length ≤ start.result.length
      omega
    · show 0 + (encoded bytes).length < 2 ^ 31
      omega
  have hbytes : bytes.length + 3 ≤ 2 ^ 31 := by omega
  obtain ⟨s, hloop, hwritten⟩ :=
    outerLoop_holds (encodeRound_holds hbytes) (Nat.le_add_left bytes.length start.inIndex) hfits
  have hindex : s.outIndex = (encoded bytes).length :=
    hwritten.outIndex_eq.trans (Nat.zero_add _)
  have htake : s.result.take s.outIndex = encoded bytes := hwritten.take_result
  have hlength : s.result.length = s.outIndex + [(0 : UInt8)].length := by
    rw [hwritten.length_result, hresult, hindex]
    rfl
  obtain ⟨buffer, hlast⟩ := writeAt_of_le hlength.ge
  have hbuffer : buffer = encoded bytes ++ [0] := by
    rw [← htake, ← take_writeAt hlast, ← hlength, ← length_writeAt hlast, List.take_length]
  rw [base64EncodeAddEndZero, hfirst, Option.bind_eq_bind, Option.bind_some]
  show (outerLoop bytes.length (encodeRound bytes bytes.length) bytes.length start).bind _ = _
  rw [hloop, Option.bind_some, hlast, hbuffer]

/-! ## Bytes, texts and bytes -/

/-- For fewer than `2 ^ 30` bytes the text fits its buffer and the bytes come back from it; for
fewer than `2 ^ 30` characters, whatever they are, what comes out fits its buffer. -/
theorem roundTrip_and_bounds (abi : Abi) (heap stack heap' stack' : Memory) :
    (∀ bytes : List UInt8, bytes.length < 2 ^ 30 →
      ∃ buffer n plain,
        base64EncodeAddEndZero abi heap stack bytes bytes.length = some buffer ∧
        buffer.length = textBufferSize abi bytes.length ∧
        base64DecodeStringRemoveEndZero abi heap' stack' buffer = some (n, plain) ∧
        n = bytes.length ∧ plain.take n = bytes) ∧
    (∀ toBeDecoded chars : List UInt8, text 0 toBeDecoded = some chars →
      chars.length < 2 ^ 30 →
      ∃ n plain,
        base64DecodeStringRemoveEndZero abi heap' stack' toBeDecoded = some (n, plain) ∧
        plain.length = plainBufferSize abi chars.length ∧ n ≤ plain.length) := by
  refine ⟨fun bytes h => ?_, fun toBeDecoded chars htext h => ?_⟩
  · have htext : text 0 (encoded bytes ++ [0]) = some (encoded bytes) :=
      text_filled (n := 1) (zero_not_mem_encoded bytes) Nat.one_pos
    obtain ⟨plain, hdecode, -, -, htake⟩ :=
      decode_holds abi heap' stack' htext (length_encoded_lt h)
    rw [groups_encoded, octets_sextets] at hdecode htake
    refine ⟨_, _, plain, encode_eq abi heap stack h, ?_, hdecode, rfl, htake⟩
    rw [textBufferSize_eq abi h, List.length_append, List.length_singleton]
  · obtain ⟨plain, hdecode, hlength, hle, -⟩ := decode_holds abi heap' stack' htext (by omega)
    exact ⟨_, plain, hdecode, hlength, hle⟩

/-- Two bytes, and a text with a line break and a group that is left over. -/
theorem roundTrip_and_bounds_two :
    (∃ buffer n plain,
      base64EncodeAddEndZero .arm (fun _ => 7) (fun _ => 9) [0x4d, 0x61] 2 = some buffer ∧
        base64DecodeStringRemoveEndZero .arm (fun _ => 7) (fun _ => 9) buffer = some (n, plain) ∧
        n = 2 ∧ plain.take n = [0x4d, 0x61]) ∧
    ∃ n plain,
      base64DecodeStringRemoveEndZero .arm (fun _ => 7) (fun _ => 9) [0x51, 0x0a, 0x3d, 0] =
        some (n, plain) ∧ n ≤ plain.length := by
  have hholds := roundTrip_and_bounds .arm (fun _ => 7) (fun _ => 9) (fun _ => 7) (fun _ => 9)
  obtain ⟨buffer, n, plain, hencode, -, hdecode, hn, htake⟩ :=
    hholds.1 [0x4d, 0x61] (by decide)
  obtain ⟨n', plain', hdecode', -, hle⟩ :=
    hholds.2 [0x51, 0x0a, 0x3d, 0] [0x51, 0x0a, 0x3d] (by decide) (by decide)
  exact ⟨⟨buffer, n, plain, hencode, hdecode, hn, htake⟩, n', plain', hdecode', hle⟩

end Base64

end Exynos8890.RootPa
