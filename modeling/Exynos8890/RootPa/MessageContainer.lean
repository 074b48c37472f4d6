import Exynos8890.Library.BoundedString
import Exynos8890.Library.CStruct

/-!
# The container of content management messages

A message of the service is an array of bytes that grows with what is written to it.  When it
grows, the length of the message is written into it, by the same method, and at a place that
depends on the class of the message.  Some messages have no length.

Main results:

- Definitions `setInt` and `setByteArray`: the setters, which call each other.
- Theorem `Holds.setByteArray_holds`: what a setter leaves in the array.
- Theorem `afterCalls_holds`: what is in the array after any calls.
- Theorem `calls_kept_iff`: exactly when each call leaves what was written, and the length.
- Theorem `not_calls_kept`: a new response has another length than it says.
-/

namespace Exynos8890.RootPa

namespace MessageContainer

open BoundedString CStruct

/-! ## Arrays -/

/-- What a call throws. -/
inductive JavaException where
  | nullPointer
  | arrayIndexOutOfBounds
  | negativeArraySize
  | stackOverflow
deriving DecidableEq, Repr

/-- The classes of messages, `CmpCommand` and `CmpResponse`. -/
inductive MessageClass where
  | command
  | response
deriving DecidableEq, Repr

/-- `CmpMsg`; `content` is `null` at first. -/
structure CmpMsg where
  cls : MessageClass
  content : Option (List UInt8)
deriving DecidableEq, Repr

/-- A computation in `int`. -/
def javaInt (n : Int) : Int :=
  Int.bmod n (2 ^ 32)

/-- The bytes that `setInt` writes. -/
def intBytes (value : UInt32) : List UInt8 :=
  [value.toUInt8, (value >>> 8).toUInt8, (value >>> 16).toUInt8, (value >>> 24).toUInt8]

/-- The integer that `getInt` makes of four bytes. -/
def intOfBytes : List UInt8 → UInt32
  | [b₀, b₁, b₂, b₃] =>
      b₀.toUInt32 + (b₁.toUInt32 <<< 8) + (b₂.toUInt32 <<< 16) + (b₃.toUInt32 <<< 24)
  | _ => 0

namespace CmpMsg

def size (m : CmpMsg) : Nat :=
  match m.content with
  | none => 0
  | some content => content.length

/-- The array, if there is one. -/
def array (m : CmpMsg) : Except JavaException (List UInt8) :=
  match m.content with
  | none => .error .nullPointer
  | some content => .ok content

/-- The assignments of `setInt`, or `System.arraycopy` into the array. -/
def put (index : Int) (bytes : List UInt8) (m : CmpMsg) : Except JavaException CmpMsg := do
  let content ← m.array
  if index < 0 then .error .arrayIndexOutOfBounds
  else
    match writeAt content index.toNat bytes with
    | none => .error .arrayIndexOutOfBounds
    | some content => .ok { m with content := some content }

/-- `getByteArray`. -/
def getByteArray (index length : Int) (m : CmpMsg) : Except JavaException (List UInt8) := do
  let content ← m.array
  if length < 0 then .error .negativeArraySize
  else if index < 0 ∨ content.length < index + length then .error .arrayIndexOutOfBounds
  else .ok ((content.drop index.toNat).take length.toNat)

/-- `getInt`. -/
def getInt (index : Int) (m : CmpMsg) : Except JavaException UInt32 := do
  let bytes ← m.getByteArray index 4
  .ok (intOfBytes bytes)

end CmpMsg

/-! ## Lengths -/

def mcCmpCmdGenerateAuthToken : UInt32 := 4
def mcCmpCmdGetVersion : UInt32 := 5
def mcCmpCmdGetSuid : UInt32 := 27

/-- `RSP_ID_MASK`. -/
def rspIdMask : UInt32 := 0x80000000

def responseIdToCommandId (responseId : UInt32) : UInt32 :=
  rspIdMask ^^^ responseId

/-- `COMMAND_LENGTH_IDX` and `RESPONSE_LENGTH_IDX`. -/
def lengthIdx : MessageClass → Nat
  | .command => 4
  | .response => 8

/-- The messages that have a length, by their class and id. -/
def HasLength : MessageClass → UInt32 → Prop
  | .command, id =>
      id ≠ mcCmpCmdGetVersion ∧ id ≠ mcCmpCmdGenerateAuthToken ∧ id ≠ mcCmpCmdGetSuid
  | .response, id =>
      id ≠ responseIdToCommandId mcCmpCmdGetVersion ∧
        id ≠ responseIdToCommandId mcCmpCmdGenerateAuthToken ∧
        id ≠ responseIdToCommandId mcCmpCmdGetSuid

instance : ∀ (cls : MessageClass) (id : UInt32), Decidable (HasLength cls id)
  | .command, _ => inferInstanceAs (Decidable (_ ∧ _ ∧ _))
  | .response, _ => inferInstanceAs (Decidable (_ ∧ _ ∧ _))

/-- The lengths that are not written into a message. -/
def lengthLimit : MessageClass → Nat
  | .command => 4
  | .response => 0

/-- `setLength` of the class; `setInt` is the setter that it calls. -/
def setLength (setInt : Int → UInt32 → CmpMsg → Except JavaException CmpMsg) (length : Nat)
    (m : CmpMsg) : Except JavaException CmpMsg := do
  let id ← m.getInt 0
  if HasLength m.cls id ∧ lengthLimit m.cls < length then
    setInt (lengthIdx m.cls) (UInt32.ofNat length) m
  else .ok m

/-! ## Setters -/

/-- `createEmptyContentIfNeeded`. -/
def createEmptyContentIfNeeded (setLength : Nat → CmpMsg → Except JavaException CmpMsg)
    (index size : Int) (m : CmpMsg) : Except JavaException CmpMsg :=
  match m.content with
  | none =>
      if size < 0 then .error .negativeArraySize
      else setLength size.toNat { m with content := some (List.replicate size.toNat 0) }
  | some content =>
      if content.length < javaInt (index + size) then
        let length := (javaInt (index + size)).toNat
        setLength length
          { m with content := some (content ++ List.replicate (length - content.length) 0) }
      else .ok m

/-- `setInt`, when so many calls fit on the stack. -/
def setInt : Nat → Int → UInt32 → CmpMsg → Except JavaException CmpMsg
  | 0, _, _, _ => .error .stackOverflow
  | depth + 1, index, value, m => do
      let m ← createEmptyContentIfNeeded (setLength (setInt depth)) index 4 m
      m.put index (intBytes value)

/-- `setByteArray`, when so many further calls fit on the stack. -/
def setByteArray (depth : Nat) (index : Int) (addBytes : List UInt8) (m : CmpMsg) :
    Except JavaException CmpMsg := do
  let m ← createEmptyContentIfNeeded (setLength (setInt depth)) index addBytes.length m
  m.put index addBytes

/-- `CmpCommand(commandId)`, or `CmpResponse()` with `setResponseId`. -/
def create (depth : Nat) (cls : MessageClass) (id : UInt32) : Except JavaException CmpMsg :=
  setInt depth 0 id ⟨cls, none⟩

example : create 3 .response 0x80000007 =
    .ok ⟨.response, some [7, 0, 0, 0x80, 0, 0, 0, 0, 4, 0, 0, 0]⟩ := by decide

/-! ## What an array holds -/

theorem intBytes_eq (value : UInt32) : intBytes value = littleEndian 4 value.toNat := by
  have hbyte : ∀ k : UInt32, k.toNat < 32 →
      (value >>> k).toUInt8 = UInt8.ofNat (value.toNat / 2 ^ k.toNat) := by
    intro k hk
    apply UInt8.toNat_inj.mp
    rw [UInt32.toNat_toUInt8, UInt32.toNat_shiftRight, Nat.mod_eq_of_lt hk,
      Nat.shiftRight_eq_div_pow, UInt8.toNat_ofNat']
  have hzero : value.toUInt8 = UInt8.ofNat value.toNat := by
    apply UInt8.toNat_inj.mp
    rw [UInt32.toNat_toUInt8, UInt8.toNat_ofNat']
  have hone := hbyte 8 (by decide)
  have htwo := hbyte 16 (by decide)
  have hthree := hbyte 24 (by decide)
  simp only [intBytes, littleEndian, hzero, hone, htwo, hthree, Nat.div_div_eq_div_mul]
  rfl

theorem length_intBytes (value : UInt32) : (intBytes value).length = 4 :=
  rfl

/-- A byte that `getInt` has shifted. -/
theorem toNat_shiftedByte (b : UInt8) {k : UInt32} (hk : k.toNat ≤ 24) :
    (b.toUInt32 <<< k).toNat = b.toNat * 2 ^ k.toNat := by
  have hb := b.toNat_lt
  have hpow : 2 ^ k.toNat ≤ 2 ^ 24 := Nat.pow_le_pow_right (by decide) hk
  have hlt : b.toNat * 2 ^ k.toNat < 2 ^ 32 :=
    Nat.lt_of_lt_of_le (Nat.mul_lt_mul_of_lt_of_le hb hpow (by decide)) (by decide)
  rw [UInt32.toNat_shiftLeft, UInt8.toNat_toUInt32, Nat.mod_eq_of_lt (by omega : k.toNat < 32),
    Nat.shiftLeft_eq, Nat.mod_eq_of_lt hlt]

/-- `getInt` reads the integer in memory. -/
theorem intOfBytes_load (m : Memory) (off : Nat) : intOfBytes (load ⟨off, 4⟩ m) = u32At m off := by
  have hlow := (m off).toNat_lt
  have hone := (m (off + 1)).toNat_lt
  have htwo := (m (off + 2)).toNat_lt
  have hthree := (m (off + 3)).toNat_lt
  have hvalue : value ⟨off, 4⟩ m = (m off).toNat + 256 * ((m (off + 1)).toNat +
      256 * ((m (off + 2)).toNat + 256 * ((m (off + 3)).toNat + 256 * 0))) := rfl
  have hint : intOfBytes (load ⟨off, 4⟩ m) = (m off).toUInt32 + ((m (off + 1)).toUInt32 <<< 8) +
      ((m (off + 2)).toUInt32 <<< 16) + ((m (off + 3)).toUInt32 <<< 24) := rfl
  have h8 := toNat_shiftedByte (m (off + 1)) (by decide : (8 : UInt32).toNat ≤ 24)
  have h16 := toNat_shiftedByte (m (off + 2)) (by decide : (16 : UInt32).toNat ≤ 24)
  have h24 := toNat_shiftedByte (m (off + 3)) (by decide : (24 : UInt32).toNat ≤ 24)
  rw [hint]
  apply UInt32.toNat.inj
  rw [u32At, hvalue, UInt32.toNat_ofNat_of_lt' (by show _ < 4294967296; omega), UInt32.toNat_add,
    UInt32.toNat_add, UInt32.toNat_add, h8, h16, h24, UInt8.toNat_toUInt32]
  show (((_ + _ * 256) % 4294967296 + _ * 65536) % 4294967296 + _ * 16777216) % 4294967296 = _
  omega

theorem writeAt_load {n off : Nat} {bytes : List UInt8} (h : off + bytes.length ≤ n)
    (mem : Memory) :
    writeAt (load ⟨0, n⟩ mem) off bytes = some (load ⟨0, n⟩ (store off bytes mem)) := by
  obtain ⟨k, rfl⟩ := Nat.exists_eq_add_of_le h
  have hsplit : ∀ mem : Memory, load ⟨0, off + bytes.length + k⟩ mem =
      load ⟨0, off⟩ mem ++ load ⟨off, bytes.length⟩ mem ++ load ⟨off + bytes.length, k⟩ mem := by
    intro mem
    rw [load_append, load_append, Nat.zero_add, Nat.zero_add]
  have hleft : load ⟨0, off⟩ (store off bytes mem) = load ⟨0, off⟩ mem :=
    load_store_of_disjoint (Or.inl (by simp)) mem
  have hself : load ⟨off, bytes.length⟩ (store off bytes mem) = bytes :=
    load_store_self (r := ⟨off, bytes.length⟩) rfl mem
  have hright : load ⟨off + bytes.length, k⟩ (store off bytes mem) =
      load ⟨off + bytes.length, k⟩ mem := load_store_of_disjoint (Or.inr (by simp)) mem
  rw [writeAt, length_load, if_pos h, hsplit, hsplit, hleft, hself, hright]
  rw [List.drop_left' (by simp)]
  simp only [List.append_assoc]
  rw [List.take_left' (length_load ⟨0, off⟩ mem)]

theorem u32At_store_of_disjoint {off i : Nat} {bytes : List UInt8}
    (h : i + 4 ≤ off ∨ off + bytes.length ≤ i) (mem : Memory) :
    u32At (store off bytes mem) i = u32At mem i := by
  have hload : load ⟨i, 4⟩ (store off bytes mem) = load ⟨i, 4⟩ mem := load_store_of_disjoint h mem
  rw [u32At, u32At, value, value, hload]

theorem u32At_store_intBytes (off : Nat) (value : UInt32) (mem : Memory) :
    u32At (store off (intBytes value) mem) off = value := by
  have hload : load ⟨off, 4⟩ (store off (intBytes value) mem) =
      ((Region.mk off 4).set value.toNat).bytes := by
    rw [intBytes_eq]
    exact load_store_self (r := ⟨off, 4⟩) (length_littleEndian 4 _) mem
  rw [u32At_of_load (r := ⟨off, 4⟩) rfl hload, UInt32.ofNat_toNat]

/-- The message has an array of a size, which is the beginning of a memory; behind it nothing
has been written. -/
structure Holds (m : CmpMsg) (cls : MessageClass) (n : Nat) (mem : Memory) : Prop where
  cls_eq : m.cls = cls
  content_eq : m.content = some (load ⟨0, n⟩ mem)
  zero : ∀ i, n ≤ i → mem i = 0

section Holds

variable {m : CmpMsg} {cls : MessageClass} {n : Nat} {mem : Memory}

theorem Holds.size_eq (h : Holds m cls n mem) : m.size = n := by
  rw [CmpMsg.size, h.content_eq]
  exact length_load _ _

theorem Holds.getByteArray_eq (h : Holds m cls n mem) {index length : Nat}
    (hend : index + length ≤ n) :
    m.getByteArray index length = .ok (load ⟨index, length⟩ mem) := by
  have hpart := @take_drop_load 0 n index length hend mem
  rw [Nat.zero_add] at hpart
  have hbound : ¬ ((index : Int) < 0 ∨ (n : Int) < index + length) := by omega
  have hlength : ¬ (length : Int) < 0 := by omega
  simp only [CmpMsg.getByteArray, CmpMsg.array, h.content_eq, bind, Except.bind, length_load,
    Int.toNat_natCast, if_neg hlength, if_neg hbound, hpart]

theorem Holds.getInt_eq (h : Holds m cls n mem) {index : Nat} (hend : index + 4 ≤ n) :
    m.getInt index = .ok (u32At mem index) := by
  have hbytes : m.getByteArray index 4 = .ok (load ⟨index, 4⟩ mem) := h.getByteArray_eq hend
  rw [CmpMsg.getInt, hbytes, ← intOfBytes_load]
  rfl

theorem Holds.put (h : Holds m cls n mem) {index : Nat} {bytes : List UInt8}
    (hend : index + bytes.length ≤ n) :
    ∃ m', m.put index bytes = .ok m' ∧ Holds m' cls n (store index bytes mem) := by
  refine ⟨{ m with content := some (load ⟨0, n⟩ (store index bytes mem)) }, ?_, h.cls_eq, rfl, ?_⟩
  · have hindex : ¬ (index : Int) < 0 := by omega
    simp only [CmpMsg.put, CmpMsg.array, h.content_eq, bind, Except.bind, if_neg hindex,
      Int.toNat_natCast, writeAt_load hend]
  · intro i hi
    have hzero := h.zero i hi
    unfold store
    split
    · rw [List.getElem?_eq_none (by omega), Option.getD_none, hzero]
    · exact hzero

/-! ## Setters -/

theorem javaInt_of_lt {k : Nat} (h : k < 2 ^ 31) : javaInt k = k := by
  apply Int.bmod_eq_of_le
  · omega
  · show (k : Int) < (4294967296 + 1) / 2
    omega

theorem Holds.createEmpty_inside (h : Holds m cls n mem) {index size : Nat}
    (hn : n < 2 ^ 30) (hend : index + size ≤ n)
    (setLength : Nat → CmpMsg → Except JavaException CmpMsg) :
    createEmptyContentIfNeeded setLength index size m = .ok m := by
  have hint : javaInt ((index : Int) + size) = (index + size : Nat) :=
    javaInt_of_lt (by omega)
  have hbound : ¬ (n : Int) < (index + size : Nat) := by omega
  simp only [createEmptyContentIfNeeded, h.content_eq, length_load, hint, if_neg hbound]

/-- An array that is not grows to the end of what is going to be written. -/
theorem Holds.createEmpty_beyond (h : Holds m cls n mem) {index size : Nat}
    (hsize : index + size < 2 ^ 30) (hend : n < index + size)
    (setLength : Nat → CmpMsg → Except JavaException CmpMsg) :
    ∃ m', createEmptyContentIfNeeded setLength index size m = setLength (index + size) m' ∧
      Holds m' cls (index + size) mem := by
  have hint : javaInt ((index : Int) + size) = (index + size : Nat) :=
    javaInt_of_lt (by omega)
  have hbound : (n : Int) < (index + size : Nat) := by omega
  refine ⟨{ m with content := some (load ⟨0, index + size⟩ mem) }, ?_, h.cls_eq, rfl, ?_⟩
  · simp only [createEmptyContentIfNeeded, h.content_eq, length_load, hint, if_pos hbound,
      Int.toNat_natCast, load_zeros (Nat.le_of_lt hend) h.zero]
  · exact fun i hi => h.zero i (by omega)

theorem Holds.setLength_eq (h : Holds m cls n mem) (hn : 4 ≤ n)
    (setInt : Int → UInt32 → CmpMsg → Except JavaException CmpMsg) (length : Nat) :
    setLength setInt length m =
      if HasLength cls (u32At mem 0) ∧ lengthLimit cls < length then
        setInt (lengthIdx cls) (UInt32.ofNat length) m
      else .ok m := by
  have hid : m.getInt 0 = .ok (u32At mem 0) := @Holds.getInt_eq m cls n mem h 0 (by omega)
  simp only [setLength, hid, bind, Except.bind, h.cls_eq]

/-- An integer inside the array is set without a further call. -/
theorem Holds.setInt_inside (h : Holds m cls n mem) (hn : n < 2 ^ 30) {index : Nat}
    (hend : index + 4 ≤ n) (depth : Nat) (value : UInt32) :
    ∃ m', setInt (depth + 1) index value m = .ok m' ∧
      Holds m' cls n (store index (intBytes value) mem) := by
  have hcreate : createEmptyContentIfNeeded (setLength (setInt depth)) index 4 m = .ok m :=
    @Holds.createEmpty_inside m cls n mem h index 4 hn hend _
  have hbytes : index + (intBytes value).length ≤ n := hend
  obtain ⟨m', hput, hholds⟩ := h.put hbytes
  refine ⟨m', ?_, hholds⟩
  simp only [setInt, hcreate, bind, Except.bind, hput]

/-- The length that is written when an array grows to an end. -/
def announce (cls : MessageClass) (n length : Nat) (mem : Memory) : Memory :=
  if n < length ∧ HasLength cls (u32At mem 0) then
    store (lengthIdx cls) (intBytes (UInt32.ofNat length)) mem
  else mem

/-- A setter writes its bytes; where the array has to grow, the length is written before. -/
theorem Holds.setByteArray_holds (h : Holds m cls n mem) (hn : 4 ≤ n) (hlimit : n < 2 ^ 30)
    {index : Nat} {bytes : List UInt8} (hend : index + bytes.length < 2 ^ 30)
    (hfield : n < index + bytes.length → HasLength cls (u32At mem 0) →
      lengthIdx cls + 4 ≤ index + bytes.length) (depth : Nat) :
    ∃ m', setByteArray (depth + 1) index bytes m = .ok m' ∧
      Holds m' cls (max n (index + bytes.length))
        (store index bytes (announce cls n (index + bytes.length) mem)) := by
  obtain ⟨m₁, hcreate, h₁⟩ : ∃ m₁,
      createEmptyContentIfNeeded (setLength (setInt (depth + 1))) index bytes.length m =
        .ok m₁ ∧
      Holds m₁ cls (max n (index + bytes.length))
        (announce cls n (index + bytes.length) mem) := by
    by_cases hgrow : n < index + bytes.length
    · obtain ⟨m₁, hcreate, h₁⟩ := h.createEmpty_beyond hend hgrow (setLength (setInt (depth + 1)))
      have hlength := h₁.setLength_eq (by omega) (setInt (depth + 1)) (index + bytes.length)
      have habove : lengthLimit cls < index + bytes.length := by
        cases cls
        · exact Nat.lt_of_le_of_lt hn hgrow
        · exact Nat.lt_of_le_of_lt (Nat.zero_le _) hgrow
      rw [hcreate, hlength, Nat.max_eq_right (Nat.le_of_lt hgrow), announce]
      by_cases hhas : HasLength cls (u32At mem 0)
      · rw [if_pos ⟨hhas, habove⟩, if_pos ⟨hgrow, hhas⟩]
        exact h₁.setInt_inside hend (hfield hgrow hhas) depth _
      · rw [if_neg fun hboth => hhas hboth.1, if_neg fun hboth => hhas hboth.2]
        exact ⟨m₁, rfl, h₁⟩
    · rw [Nat.max_eq_left (by omega), announce, if_neg fun hboth => hgrow hboth.1]
      exact ⟨m, h.createEmpty_inside hlimit (by omega) _, h⟩
  obtain ⟨m₂, hput, h₂⟩ := h₁.put (Nat.le_max_right n (index + bytes.length))
  refine ⟨m₂, ?_, h₂⟩
  simp only [setByteArray, hcreate, bind, Except.bind, hput]

end Holds

/-! ## Calls -/

/-- A call of a setter. -/
inductive ContainerCall where
  | setInt (index : Nat) (value : UInt32)
  | setByteArray (index : Nat) (addBytes : List UInt8)
deriving DecidableEq, Repr

namespace ContainerCall

/-- `setReturnCode`. -/
def setReturnCode (ret : UInt32) : ContainerCall :=
  .setInt 4 ret

def index : ContainerCall → Nat
  | setInt index _ | setByteArray index _ => index

/-- What is written. -/
def bytes : ContainerCall → List UInt8
  | setInt _ value => intBytes value
  | setByteArray _ addBytes => addBytes

/-- The end of what is written. -/
def stop (c : ContainerCall) : Nat :=
  c.index + c.bytes.length

def perform (depth : Nat) : ContainerCall → CmpMsg → Except JavaException CmpMsg
  | setInt index value => MessageContainer.setInt depth index value
  | setByteArray index addBytes => MessageContainer.setByteArray depth index addBytes

/-- Something is written, within the limit, and neither over the id nor over the length of a
message of this class and id. -/
structure Allowed (cls : MessageClass) (id : UInt32) (c : ContainerCall) : Prop where
  nonempty : c.bytes ≠ []
  limit : c.stop < 2 ^ 30
  behindId : 4 ≤ c.index
  length : HasLength cls id → c.stop ≤ lengthIdx cls ∨ lengthIdx cls + 4 ≤ c.index

/-- The call writes the byte. -/
def Covers (c : ContainerCall) (i : Nat) : Prop :=
  c.index ≤ i ∧ i < c.stop

end ContainerCall

/-- The calls that are made on a message of this class and id. -/
abbrev AllowedCall (cls : MessageClass) (id : UInt32) :=
  { c : ContainerCall // c.Allowed cls id }

section Run

variable {cls : MessageClass} {id : UInt32}

def callAll (depth : Nat) : List (AllowedCall cls id) → CmpMsg → Except JavaException CmpMsg
  | [], m => .ok m
  | c :: cs, m => do
      let m ← c.val.perform depth m
      callAll depth cs m

/-- A new message with its id, and then the calls. -/
def afterCalls (depth : Nat) (cls : MessageClass) (id : UInt32) (cs : List (AllowedCall cls id)) :
    Except JavaException CmpMsg := do
  let m ← create depth cls id
  callAll depth cs m

theorem callAll_append (depth : Nat) (cs ds : List (AllowedCall cls id)) (m : CmpMsg) :
    callAll depth (cs ++ ds) m = callAll depth cs m >>= callAll depth ds := by
  induction cs generalizing m with
  | nil => rfl
  | cons c cs ih =>
      rw [List.cons_append, callAll, callAll]
      cases c.val.perform depth m with
      | error e => rfl
      | ok m' => exact ih m'

/-- What the calls write, one after the other. -/
def writes (mem : Memory) (cs : List (AllowedCall cls id)) : Memory :=
  cs.foldl (fun mem c => store c.val.index c.val.bytes mem) mem

/-- The size of a new message. -/
def initialSize : MessageClass → Nat
  | .command => 4
  | .response => 12

/-- The size that the calls leave. -/
def sizeAfter (cs : List (AllowedCall cls id)) : Nat :=
  cs.foldl (fun n c => max n c.val.stop) (initialSize cls)

/-- What is written before the id: a response that is not yet one gets the length of the id. -/
def leftover : MessageClass → Memory
  | .command => fun _ => 0
  | .response => store (lengthIdx .response) (intBytes 4) fun _ => 0

/-- What the calls leave in a memory. -/
def memoryAfter (cs : List (AllowedCall cls id)) : Memory :=
  if sizeAfter cs ≠ initialSize cls ∧ HasLength cls id then
    store (lengthIdx cls) (intBytes (UInt32.ofNat (sizeAfter cs)))
      (writes (store 0 (intBytes id) (leftover cls)) cs)
  else writes (store 0 (intBytes id) (leftover cls)) cs

theorem create_holds (depth : Nat) (cls : MessageClass) (id : UInt32) :
    ∃ m, create (depth + 3) cls id = .ok m ∧
      Holds m cls (initialSize cls) (store 0 (intBytes id) (leftover cls)) := by
  cases cls with
  | command =>
      refine ⟨⟨.command, some (intBytes id)⟩, rfl, rfl, rfl, fun i hi => ?_⟩
      have hi : 4 ≤ i := hi
      rw [store_outside (by rw [length_intBytes]; omega), leftover]
  | response =>
      refine ⟨⟨.response, some (intBytes id ++ [0, 0, 0, 0] ++ intBytes 4)⟩, rfl, rfl, rfl,
        fun i hi => ?_⟩
      have hi : 12 ≤ i := hi
      have hlength : lengthIdx .response = 8 := rfl
      rw [store_outside (by rw [length_intBytes]; omega), leftover,
        store_outside (by rw [length_intBytes, hlength]; omega)]

theorem writes_append (mem : Memory) (cs : List (AllowedCall cls id)) (c : AllowedCall cls id) :
    writes mem (cs ++ [c]) = store c.val.index c.val.bytes (writes mem cs) := by
  rw [writes, List.foldl_append]
  rfl

theorem sizeAfter_append (cs : List (AllowedCall cls id)) (c : AllowedCall cls id) :
    sizeAfter (cs ++ [c]) = max (sizeAfter cs) c.val.stop := by
  rw [sizeAfter, List.foldl_append]
  rfl

theorem initialSize_le_sizeAfter (cs : List (AllowedCall cls id)) :
    initialSize cls ≤ sizeAfter cs := by
  induction cs using List.reverseRecOn with
  | nil => exact le_rfl
  | append_singleton cs c ih =>
      rw [sizeAfter_append]
      exact ih.trans (Nat.le_max_left _ _)

theorem four_le_sizeAfter (cs : List (AllowedCall cls id)) : 4 ≤ sizeAfter cs := by
  refine Nat.le_trans ?_ (initialSize_le_sizeAfter cs)
  cases cls <;> decide

theorem sizeAfter_lt (cs : List (AllowedCall cls id)) : sizeAfter cs < 2 ^ 30 := by
  induction cs using List.reverseRecOn with
  | nil =>
      show initialSize cls < 2 ^ 30
      cases cls <;> decide
  | append_singleton cs c ih =>
      rw [sizeAfter_append]
      exact Nat.max_lt.mpr ⟨ih, c.property.limit⟩

theorem stop_le_sizeAfter {cs : List (AllowedCall cls id)} {c : AllowedCall cls id}
    (hc : c ∈ cs) : c.val.stop ≤ sizeAfter cs := by
  induction cs using List.reverseRecOn with
  | nil => cases hc
  | append_singleton cs d ih =>
      rw [sizeAfter_append]
      rcases List.mem_append.mp hc with hc | hc
      · exact (ih hc).trans (Nat.le_max_left _ _)
      · rw [List.mem_singleton.mp hc]
        exact Nat.le_max_right _ _

/-- A call that makes a message with a length longer writes behind the length. -/
theorem behind_length (c : AllowedCall cls id) (hhas : HasLength cls id)
    (hgrow : initialSize cls < c.val.stop) : lengthIdx cls + 4 ≤ c.val.index := by
  have hpos : 0 < c.val.bytes.length := List.length_pos_iff.mpr c.property.nonempty
  have hid := c.property.behindId
  have hstop : c.val.stop = c.val.index + c.val.bytes.length := rfl
  rcases c.property.length hhas with hbefore | hbehind
  · cases cls with
    | command =>
        have hidx : lengthIdx .command = 4 := rfl
        omega
    | response =>
        have hidx : lengthIdx .response = 8 := rfl
        have hinitial : initialSize .response = 12 := rfl
        omega
  · exact hbehind

theorem u32At_memoryAfter (cs : List (AllowedCall cls id)) : u32At (memoryAfter cs) 0 = id := by
  have hwrites : u32At (writes (store 0 (intBytes id) (leftover cls)) cs) 0 = id := by
    induction cs using List.reverseRecOn with
    | nil => exact u32At_store_intBytes 0 id _
    | append_singleton cs c ih =>
        have hid := c.property.behindId
        rw [writes_append, u32At_store_of_disjoint (Or.inl (by omega)), ih]
  have hidx : 4 ≤ lengthIdx cls := by cases cls <;> decide
  unfold memoryAfter
  split
  · rw [u32At_store_of_disjoint (Or.inl (by omega)), hwrites]
  · exact hwrites

theorem memoryAfter_append (cs : List (AllowedCall cls id)) (c : AllowedCall cls id) :
    memoryAfter (cs ++ [c]) =
      store c.val.index c.val.bytes (announce cls (sizeAfter cs) c.val.stop (memoryAfter cs)) := by
  have hinitial := initialSize_le_sizeAfter cs
  rw [memoryAfter, announce, u32At_memoryAfter, memoryAfter, sizeAfter_append, writes_append]
  by_cases hhas : HasLength cls id
  · have hcomm : ∀ (value : UInt32) (mem : Memory),
        store (lengthIdx cls) (intBytes value) (store c.val.index c.val.bytes mem) =
          store c.val.index c.val.bytes (store (lengthIdx cls) (intBytes value) mem) :=
      fun _ mem => store_comm (c.property.length hhas).symm mem
    by_cases hgrow : sizeAfter cs < c.val.stop
    · rw [Nat.max_eq_right (Nat.le_of_lt hgrow), if_pos ⟨by omega, hhas⟩, if_pos ⟨hgrow, hhas⟩,
        hcomm]
      split
      · rw [store_store (by simp [length_intBytes])]
      · rfl
    · rw [Nat.max_eq_left (Nat.le_of_not_lt hgrow)]
      by_cases hsize : sizeAfter cs = initialSize cls
      · rw [if_neg fun hboth => hboth.1 hsize, if_neg fun hboth => hgrow hboth.1,
          if_neg fun hboth => hboth.1 hsize]
      · rw [if_pos ⟨hsize, hhas⟩, if_neg fun hboth => hgrow hboth.1, if_pos ⟨hsize, hhas⟩, hcomm]
  · rw [if_neg fun hboth => hhas hboth.2, if_neg fun hboth => hhas hboth.2,
      if_neg fun hboth => hhas hboth.2]

theorem perform_eq (depth : Nat) (c : ContainerCall) (m : CmpMsg) :
    ∃ d, c.perform (depth + 3) m = setByteArray (d + 1) c.index c.bytes m := by
  cases c with
  | setInt index value => exact ⟨depth + 1, rfl⟩
  | setByteArray index addBytes => exact ⟨depth + 2, rfl⟩

/-- No call throws, and the array is as large as the calls need it, and holds what they leave. -/
theorem afterCalls_holds (depth : Nat) (cs : List (AllowedCall cls id)) :
    ∃ m, afterCalls (depth + 3) cls id cs = .ok m ∧
      Holds m cls (sizeAfter cs) (memoryAfter cs) := by
  induction cs using List.reverseRecOn with
  | nil =>
      obtain ⟨m, hcreate, h⟩ := create_holds depth cls id
      have hmem : memoryAfter ([] : List (AllowedCall cls id)) =
          store 0 (intBytes id) (leftover cls) := if_neg fun hboth => hboth.1 rfl
      refine ⟨m, by rw [afterCalls, hcreate]; rfl, ?_⟩
      rw [hmem]
      exact h
  | append_singleton cs c ih =>
      obtain ⟨m, hcalls, h⟩ := ih
      have hinitial := initialSize_le_sizeAfter cs
      have hfield : sizeAfter cs < c.val.index + c.val.bytes.length →
          HasLength cls (u32At (memoryAfter cs) 0) →
            lengthIdx cls + 4 ≤ c.val.index + c.val.bytes.length := by
        intro hgrow hhas
        rw [u32At_memoryAfter] at hhas
        have hbehind := behind_length c hhas (Nat.lt_of_le_of_lt hinitial hgrow)
        omega
      obtain ⟨d, hperform⟩ := perform_eq depth c.val m
      obtain ⟨m', hset, h'⟩ := h.setByteArray_holds (four_le_sizeAfter cs) (sizeAfter_lt cs)
        c.property.limit hfield d
      refine ⟨m', ?_, ?_⟩
      · have hone : callAll (depth + 3) [c] m = .ok m' := by
          rw [callAll, hperform, hset]
          rfl
        have hsplit : afterCalls (depth + 3) cls id (cs ++ [c]) =
            afterCalls (depth + 3) cls id cs >>= callAll (depth + 3) [c] := by
          rw [afterCalls, afterCalls]
          cases create (depth + 3) cls id with
          | error e => rfl
          | ok m => exact callAll_append (depth + 3) cs [c] m
        rw [hsplit, hcalls]
        exact hone
      · rw [sizeAfter_append, memoryAfter_append]
        exact h'

/-! ## What was last written -/

theorem writes_congr {mem mem' : Memory} {i : Nat} (h : mem i = mem' i)
    (cs : List (AllowedCall cls id)) : writes mem cs i = writes mem' cs i := by
  induction cs using List.reverseRecOn with
  | nil => exact h
  | append_singleton cs c ih =>
      rw [writes_append, writes_append]
      by_cases hi : c.val.index ≤ i ∧ i < c.val.index + c.val.bytes.length
      · exact store_inside hi _ _
      · rw [store_outside hi, store_outside hi, ih]

/-- A byte that a call has written does not depend on what was there before. -/
theorem writes_of_covered {cs : List (AllowedCall cls id)} {i : Nat}
    (h : ∃ c ∈ cs, c.val.Covers i) (mem mem' : Memory) : writes mem cs i = writes mem' cs i := by
  induction cs using List.reverseRecOn with
  | nil =>
      obtain ⟨c, hc, -⟩ := h
      cases hc
  | append_singleton cs d ih =>
      rw [writes_append, writes_append]
      by_cases hi : d.val.index ≤ i ∧ i < d.val.index + d.val.bytes.length
      · exact store_inside hi _ _
      · rw [store_outside hi, store_outside hi]
        obtain ⟨c, hc, hcovers⟩ := h
        rcases List.mem_append.mp hc with hc | hc
        · exact ih ⟨c, hc, hcovers⟩
        · rw [List.mem_singleton.mp hc] at hcovers
          exact absurd hcovers hi

theorem writes_of_not_covered {cs : List (AllowedCall cls id)} {i : Nat}
    (h : ∀ c ∈ cs, ¬ c.val.Covers i) (mem : Memory) : writes mem cs i = mem i := by
  induction cs using List.reverseRecOn with
  | nil => rfl
  | append_singleton cs d ih =>
      have hlast : ¬ d.val.Covers i := h d (by simp)
      rw [writes_append, store_outside hlast, ih fun c hc => h c (List.mem_append_left _ hc)]

theorem leftover_eq (cls : MessageClass) (i : Nat) :
    leftover cls i = if cls = .response ∧ i = 8 then 4 else 0 := by
  cases cls with
  | command => rfl
  | response =>
      have hlength : lengthIdx .response = 8 := rfl
      by_cases hi : 8 ≤ i ∧ i < 8 + 4
      · obtain ⟨hle, hlt⟩ := hi
        interval_cases i <;> rfl
      · rw [leftover, hlength, store_outside hi, if_neg fun h => hi (by omega)]

/-- What the bytes of a message of a size are to be: what was last written there, or zero, and
the length, if the message has one and is long enough. -/
def expected (cs : List (AllowedCall cls id)) (n : Nat) : Memory :=
  if lengthIdx cls + 4 ≤ n ∧ HasLength cls id then
    store (lengthIdx cls) (intBytes (UInt32.ofNat n)) (writes (store 0 (intBytes id) fun _ => 0) cs)
  else writes (store 0 (intBytes id) fun _ => 0) cs

/-- The getters return what was last written, and the length is the size. -/
structure Faithful (cs : List (AllowedCall cls id)) (m : CmpMsg) : Prop where
  length : HasLength cls id → lengthIdx cls + 4 ≤ m.size →
    m.getInt (lengthIdx cls) = .ok (UInt32.ofNat m.size)
  getInt : ∀ index : Nat, index + 4 ≤ m.size →
    m.getInt index = .ok (u32At (expected cs m.size) index)
  getByteArray : ∀ index length : Nat, index + length ≤ m.size →
    m.getByteArray index length = .ok (load ⟨index, length⟩ (expected cs m.size))

/-- The getters return what is expected exactly when the array holds it. -/
theorem faithful_iff_memory {m : CmpMsg} {n : Nat} {mem : Memory} (h : Holds m cls n mem)
    (cs : List (AllowedCall cls id)) :
    Faithful cs m ↔ ∀ i < n, mem i = expected cs n i := by
  have hsize := h.size_eq
  constructor
  · intro hfaithful i hi
    have hget := hfaithful.getByteArray i 1 (by omega)
    rw [h.getByteArray_eq hi, hsize] at hget
    have hload : [mem (i + 0)] = [expected cs n (i + 0)] := Except.ok.inj hget
    exact List.head_eq_of_cons_eq hload
  · intro hmem
    have hload : ∀ index length, index + length ≤ n →
        load ⟨index, length⟩ mem = load ⟨index, length⟩ (expected cs n) := by
      intro index length hend
      apply List.map_congr_left
      intro i hi
      have hi : i < length := List.mem_range.mp hi
      exact hmem _ (by dsimp only; omega)
    have hint : ∀ index, index + 4 ≤ n → u32At mem index = u32At (expected cs n) index := by
      intro index hend
      rw [← intOfBytes_load, hload index 4 hend, intOfBytes_load]
    constructor
    · intro hhas hend
      rw [hsize] at hend ⊢
      rw [h.getInt_eq hend, hint _ hend, expected, if_pos ⟨hend, hhas⟩, u32At_store_intBytes]
    · intro index hend
      rw [hsize] at hend ⊢
      rw [h.getInt_eq hend, hint _ hend]
    · intro index length hend
      rw [hsize] at hend ⊢
      rw [h.getByteArray_eq hend, hload _ _ hend]

theorem exists_stop_of_ne {cs : List (AllowedCall cls id)} (h : sizeAfter cs ≠ initialSize cls) :
    ∃ c ∈ cs, initialSize cls < c.val.stop := by
  by_contra hnone
  simp only [not_exists, not_and, not_lt] at hnone
  apply h
  induction cs using List.reverseRecOn with
  | nil => rfl
  | append_singleton cs d ih =>
      have hrest : sizeAfter cs = initialSize cls := by
        by_contra hne
        exact hne (ih hne fun c hc => hnone c (List.mem_append_left _ hc))
      rw [sizeAfter_append, hrest]
      exact Nat.max_eq_left (hnone d (by simp))

/-- A message with a length that has grown is long enough for it. -/
theorem length_le_sizeAfter {cs : List (AllowedCall cls id)} (hhas : HasLength cls id)
    (h : sizeAfter cs ≠ initialSize cls) : lengthIdx cls + 4 ≤ sizeAfter cs := by
  obtain ⟨c, hc, hgrow⟩ := exists_stop_of_ne h
  have hbehind := behind_length c hhas hgrow
  have hstop : c.val.stop = c.val.index + c.val.bytes.length := rfl
  have hle := stop_le_sizeAfter hc
  omega

/-- The call puts right what a new response says: it makes a response with a length longer, or
writes over the byte that a response without one has from its time without an id. -/
def Repairs (cls : MessageClass) (id : UInt32) (c : ContainerCall) : Prop :=
  if HasLength cls id then lengthIdx cls + 4 ≤ c.index else c.Covers (lengthIdx cls)

theorem writes_eq_of_ne {i : Nat} (hi : i ≠ 8) (cs : List (AllowedCall cls id)) :
    writes (store 0 (intBytes id) (leftover cls)) cs i =
      writes (store 0 (intBytes id) fun _ => 0) cs i := by
  apply writes_congr
  by_cases hid : 0 ≤ i ∧ i < 0 + (intBytes id).length
  · exact store_inside hid _ _
  · rw [store_outside hid, store_outside hid, leftover_eq, if_neg fun h => hi h.2]

/-- What a new response has behind its id is not what it is to have. -/
theorem writes_leftover_of_not_covered {cs : List (AllowedCall .response id)}
    (h : ∀ c ∈ cs, ¬ c.val.Covers 8) :
    writes (store 0 (intBytes id) (leftover .response)) cs 8 = 4 ∧
      writes (store 0 (intBytes id) fun _ => 0) cs 8 = 0 := by
  have hid : ¬ (0 ≤ 8 ∧ 8 < 0 + (intBytes id).length) := by
    rw [length_intBytes]
    omega
  rw [writes_of_not_covered h, writes_of_not_covered h, store_outside hid, store_outside hid]
  exact ⟨rfl, rfl⟩

theorem memoryAfter_command (cs : List (AllowedCall .command id)) :
    memoryAfter cs = expected cs (sizeAfter cs) := by
  have hlength : HasLength .command id →
      (sizeAfter cs ≠ initialSize .command ↔ lengthIdx .command + 4 ≤ sizeAfter cs) := by
    intro hhas
    refine ⟨length_le_sizeAfter hhas, ?_⟩
    intro hle heq
    rw [heq] at hle
    exact absurd hle (by decide)
  unfold memoryAfter expected
  by_cases hhas : HasLength .command id
  · simp only [hlength hhas]
    rfl
  · rw [if_neg fun h => hhas h.2, if_neg fun h => hhas h.2]
    rfl

/-- A response with a length has the right one once it has grown. -/
theorem memoryAfter_response_iff (hhas : HasLength .response id)
    (cs : List (AllowedCall .response id)) :
    (∀ i < sizeAfter cs, memoryAfter cs i = expected cs (sizeAfter cs) i) ↔
      ∃ c ∈ cs, lengthIdx .response + 4 ≤ c.val.index := by
  have hinitial : 12 ≤ sizeAfter cs := initialSize_le_sizeAfter cs
  have hidx : lengthIdx .response = 8 := rfl
  rw [expected, if_pos ⟨by omega, hhas⟩, memoryAfter]
  by_cases hsize : sizeAfter cs = 12
  · have hnone : ¬ ∃ c ∈ cs, lengthIdx .response + 4 ≤ c.val.index := by
      rintro ⟨c, hc, hbehind⟩
      have hpos : 0 < c.val.bytes.length := List.length_pos_iff.mpr c.property.nonempty
      have hstop : c.val.stop = c.val.index + c.val.bytes.length := rfl
      have hle := stop_le_sizeAfter hc
      omega
    have huncovered : ∀ c ∈ cs, ¬ c.val.Covers 8 := by
      rintro c hc ⟨hle, hlt⟩
      rcases c.property.length hhas with hbefore | hbehind
      · omega
      · omega
    refine iff_of_false ?_ hnone
    intro h
    have hbyte := h 8 (by omega)
    rw [if_neg fun hboth => hboth.1 hsize, (writes_leftover_of_not_covered huncovered).1, hsize,
      hidx] at hbyte
    have hstored : store 8 (intBytes (UInt32.ofNat 12))
        (writes (store 0 (intBytes id) fun _ => 0) cs) 8 = 12 := rfl
    rw [hstored] at hbyte
    exact absurd hbyte (by decide)
  · have hsome : ∃ c ∈ cs, lengthIdx .response + 4 ≤ c.val.index := by
      obtain ⟨c, hc, hgrow⟩ := exists_stop_of_ne hsize
      exact ⟨c, hc, behind_length c hhas hgrow⟩
    refine iff_of_true ?_ hsome
    intro i _
    rw [if_pos ⟨hsize, hhas⟩]
    by_cases hi : lengthIdx .response ≤ i ∧
        i < lengthIdx .response + (intBytes (UInt32.ofNat (sizeAfter cs))).length
    · exact store_inside hi _ _
    · rw [store_outside hi, store_outside hi]
      apply writes_eq_of_ne
      rintro rfl
      exact hi ⟨le_rfl, by rw [length_intBytes]; decide⟩

/-- A response without a length has what it is to have once the leftover is overwritten. -/
theorem memoryAfter_response_iff_covers (hhas : ¬ HasLength .response id)
    (cs : List (AllowedCall .response id)) :
    (∀ i < sizeAfter cs, memoryAfter cs i = expected cs (sizeAfter cs) i) ↔
      ∃ c ∈ cs, c.val.Covers (lengthIdx .response) := by
  have hinitial : 12 ≤ sizeAfter cs := initialSize_le_sizeAfter cs
  rw [expected, if_neg fun h => hhas h.2, memoryAfter, if_neg fun h => hhas h.2]
  constructor
  · intro h
    by_contra hnone
    simp only [not_exists, not_and] at hnone
    obtain ⟨hfour, hzero⟩ := writes_leftover_of_not_covered hnone
    have hbyte := h 8 (by omega)
    rw [hfour, hzero] at hbyte
    exact absurd hbyte (by decide)
  · intro hcovered i _
    by_cases hi : i = 8
    · rw [hi]
      exact writes_of_covered hcovered _ _
    · exact writes_eq_of_ne hi cs

theorem faithful_iff_repaired {m : CmpMsg} (cs : List (AllowedCall cls id))
    (h : Holds m cls (sizeAfter cs) (memoryAfter cs)) :
    Faithful cs m ↔ (cls = .response → ∃ c ∈ cs, Repairs cls id c.val) := by
  rw [faithful_iff_memory h]
  unfold Repairs
  cases cls with
  | command =>
      refine iff_of_true (fun i _ => ?_) fun heq => ?_
      · rw [memoryAfter_command]
      · cases heq
  | response =>
      by_cases hhas : HasLength .response id
      · simp only [if_pos hhas, true_implies]
        exact memoryAfter_response_iff hhas cs
      · simp only [if_neg hhas, true_implies]
        exact memoryAfter_response_iff_covers hhas cs

/-- Nothing throws, and after every call the getters return what was last written, and the
length is the size. -/
structure Kept (depth : Nat) (cls : MessageClass) (id : UInt32) (cs : List (AllowedCall cls id)) :
    Prop where
  created : ∃ m, create depth cls id = .ok m
  called : ∀ k < cs.length, ∃ m,
    afterCalls depth cls id (cs.take (k + 1)) = .ok m ∧ Faithful (cs.take (k + 1)) m

end Run

/-- Three nested calls are enough.  A command is kept by any calls, and a response exactly when
the first call puts it right. -/
theorem calls_kept_iff (depth : Nat) (cls : MessageClass) (id : UInt32)
    (cs : List (AllowedCall cls id)) :
    Kept (depth + 3) cls id cs ↔
      (cls = .response → ∀ c ∈ cs.head?, Repairs cls id c.val) := by
  constructor
  · intro h hcls c hc
    obtain ⟨cs', rfl⟩ : ∃ cs', cs = c :: cs' := by
      cases cs with
      | nil => cases hc
      | cons d cs' =>
          cases hc
          exact ⟨cs', rfl⟩
    obtain ⟨m, hcalls, hfaithful⟩ := h.called 0 (by simp)
    obtain ⟨m', hcalls', hholds⟩ := afterCalls_holds depth ((c :: cs').take (0 + 1))
    rw [hcalls] at hcalls'
    cases hcalls'
    obtain ⟨d, hd, hrepairs⟩ := (faithful_iff_repaired _ hholds).mp hfaithful hcls
    rw [List.take_succ_cons, List.take_zero, List.mem_singleton] at hd
    exact hd ▸ hrepairs
  · intro h
    obtain ⟨m, hcreate, -⟩ := create_holds depth cls id
    refine ⟨⟨m, hcreate⟩, fun k hk => ?_⟩
    obtain ⟨m, hcalls, hholds⟩ := afterCalls_holds depth (cs.take (k + 1))
    refine ⟨m, hcalls, (faithful_iff_repaired _ hholds).mpr fun hcls => ?_⟩
    cases cs with
    | nil => exact absurd hk (Nat.not_lt_zero k)
    | cons c cs' => exact ⟨c, by simp, h hcls c rfl⟩

/-- The return code of a new response. -/
def returnCodeCall : AllowedCall .response 0x80000007 :=
  ⟨.setReturnCode 0, by decide, by decide, by decide, fun _ => Or.inl (by decide)⟩

/-- A response of twelve bytes says that it has four. -/
theorem not_calls_kept :
    ¬ ∀ (depth : Nat) (cls : MessageClass) (id : UInt32) (cs : List (AllowedCall cls id)),
      Kept (depth + 3) cls id cs := by
  intro h
  obtain ⟨m, hcalls, hfaithful⟩ := (h 0 .response 0x80000007 [returnCodeCall]).called 0 (by simp)
  have hresult : afterCalls 3 .response 0x80000007 [returnCodeCall] =
      .ok ⟨.response, some [7, 0, 0, 0x80, 0, 0, 0, 0, 4, 0, 0, 0]⟩ := by decide
  have hm : m = ⟨.response, some [7, 0, 0, 0x80, 0, 0, 0, 0, 4, 0, 0, 0]⟩ :=
    (Except.ok.inj (hresult.symm.trans hcalls)).symm
  rw [hm] at hfaithful
  exact absurd (hfaithful.length (by decide) (by decide)) (by decide)

end MessageContainer

end Exynos8890.RootPa
