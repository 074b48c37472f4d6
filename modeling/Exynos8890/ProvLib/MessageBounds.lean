import Exynos8890.ProvLib.DeviceBinding

/-!
# What a validated message contains

The size of the body comes with the message.  The validation rounds it up and adds to it in words
of 32 bits, so that a size just below the end of the range looks like an empty body.  Of the
messages with such a size only an error message gets as far as its text, whose length is then read
from the trailer, where the checksum stands; and none of the three messages has that checksum.

Main results:

- Definition `WithinBounds`: what the handlers rely on.
- Theorem `size_not_wrapped`: no message is validated whose size wraps.
- Theorem `validated_withinBounds`: a validated message stands in the given length with all its
  parts, and its body has what the handler of its type reads.
-/

namespace Exynos8890.ProvLib

open CStruct

/-! ## What a handler reads -/

/-- `cmpCmdGenAuthToken_t`: the header of the command, suid, key, key id, signature. -/
def cmpCmdGenAuthToken : List CType :=
  [u32, byteArray suidLength, byteArray kSocAuthLength, u32, byteArray 256]

/-- What the handler of a type reads in the message: the key and the whole command of a request
for a token, and the token that is presented. -/
def handlerReads (msgType : UInt32) : List Region :=
  if msgType = mcGenAuthTokenReq then
    [bodyMember gdmcActmsgReq 0, bodyMember gdmcActmsgReq 2,
      ⟨bodyOff, CStruct.sizeOf cmpCmdGenAuthToken⟩]
  else if msgType = mcValidateAuthTokenReq then [⟨bodyOff, authtokSize⟩]
  else []

/-- The size of the body of each type that has a fixed one. -/
def fixedBodySize (msgType : UInt32) : Option Nat :=
  if msgType = mcGetSuidReq then some 0
  else if msgType = mcGetSuidResp then some suidLength
  else if msgType = mcGenAuthTokenReq then some (CStruct.sizeOf gdmcActmsgReq)
  else if msgType = mcGenAuthTokenResp then some (CStruct.sizeOf gdmcActmsgResp)
  else if msgType = mcValidateAuthTokenReq then some (CStruct.sizeOf gdmcSoAuthtok)
  else none

/-- `*pptrailer`. -/
def trailerOff (msg : Memory) : Nat :=
  bodyOff + ((u32At msg 4 + 3) &&& ~~~3).toNat

/-- The parts of a message stand in `msgsize` bytes one behind the other, in numbers without
wrap-around, and the body is one that the handler of its type can read. -/
structure WithinBounds (msg : Memory) (msgsize : UInt32) : Prop where
  body : bodyOff + (u32At msg 4).toNat ≤ trailerOff msg
  trailer : trailerOff msg + CStruct.sizeOf gdmcMsgtrailer = msgsize.toNat
  type : fixedBodySize (u32At msg 0) ≠ none ∨ u32At msg 0 = mcError
  size : ∀ n ∈ fixedBodySize (u32At msg 0), (u32At msg 4).toNat = n
  errorText : u32At msg 0 = mcError →
    CStruct.sizeOf gdmcErrorMsg + (u32At msg (bodyMember gdmcErrorMsg 1).off).toNat =
      (u32At msg 4).toNat
  command : u32At msg 0 = mcGenAuthTokenReq →
    u32At msg (bodyMember gdmcActmsgReq 0).off = mcCmpCmdGenerateAuthToken
  reads : ∀ r ∈ handlerReads (u32At msg 0),
    bodyOff ≤ r.off ∧ r.off + r.size ≤ bodyOff + (u32At msg 4).toNat

/-! ## The conditions of a validation -/

theorem of_ite_ok {c : Prop} [Decidable c] {error rest : GdError} (herror : error ≠ .ok)
    (h : (if c then error else rest) = .ok) : ¬ c ∧ rest = .ok := by
  by_cases hc : c
  · rw [if_pos hc] at h
    exact absurd h herror
  · rw [if_neg hc] at h
    exact ⟨hc, h⟩

/-- What was compared in a message that was validated. -/
structure Compared (msg : Memory) (msgsize : UInt32) : Prop where
  least : 16 ≤ msgsize.toNat
  size : msgsize = 16 + ((u32At msg 4 + 3) &&& ~~~3)
  magic : u32At msg 0 = ~~~ u32At msg (trailerOff msg)
  crc32 : calcCRC32 (load ⟨0, msgsize.toNat - 4⟩ msg) = u32At msg (trailerOff msg + 4)
  body : validateBody msg (u32At msg 4) (u32At msg 0) = .ok

theorem compared_of_validated {msg : Memory} {msgsize : UInt32}
    (h : gdmcValidateProvMessage msg msgsize = .ok) : Compared msg msgsize := by
  have hformat : GdError.messageFormat ≠ .ok := by decide
  have hcrc : GdError.crc32 ≠ .ok := by decide
  obtain ⟨hleast, h⟩ := of_ite_ok hformat h
  obtain ⟨-, h⟩ := of_ite_ok hformat h
  obtain ⟨hsize, h⟩ := of_ite_ok hformat h
  obtain ⟨hmagic, h⟩ := of_ite_ok hformat h
  obtain ⟨hcrc32, h⟩ := of_ite_ok hcrc h
  constructor
  · rw [UInt32.lt_iff_toNat_lt] at hleast
    exact Nat.not_lt.mp hleast
  · exact not_not.mp hsize
  · exact not_not.mp hmagic
  · exact not_not.mp hcrc32
  · exact h

/-- The body of a validated message has the size for its type, or it is an error message whose
text ends with it. -/
theorem bodySize_of_validateBody {msg : Memory} {bodySize msgType : UInt32}
    (h : validateBody msg bodySize msgType = .ok) :
    (∃ n, fixedBodySize msgType = some n ∧ bodySize.toNat = n) ∨
      fixedBodySize msgType = none ∧ msgType = mcError ∧ 8 ≤ bodySize.toNat ∧
        bodySize = u32At msg (bodyMember gdmcErrorMsg 1).off + 8 := by
  have hformat : GdError.messageFormat ≠ .ok := by decide
  rw [validateBody] at h
  rw [fixedBodySize]
  by_cases hsuidReq : msgType = mcGetSuidReq
  · rw [if_pos hsuidReq] at h ⊢
    have hzero := not_not.mp (of_ite_ok hformat h).1
    exact Or.inl ⟨0, rfl, by rw [hzero]; rfl⟩
  rw [if_neg hsuidReq] at h ⊢
  by_cases hsuidResp : msgType = mcGetSuidResp
  · rw [if_pos hsuidResp] at h ⊢
    exact Or.inl ⟨_, rfl, not_not.mp (of_ite_ok hformat h).1⟩
  rw [if_neg hsuidResp] at h ⊢
  by_cases hgenReq : msgType = mcGenAuthTokenReq
  · rw [if_pos hgenReq] at h ⊢
    exact Or.inl ⟨_, rfl, not_not.mp (of_ite_ok hformat h).1⟩
  rw [if_neg hgenReq] at h ⊢
  by_cases hgenResp : msgType = mcGenAuthTokenResp
  · rw [if_pos hgenResp] at h ⊢
    exact Or.inl ⟨_, rfl, not_not.mp (of_ite_ok hformat h).1⟩
  rw [if_neg hgenResp] at h ⊢
  by_cases hvalidate : msgType = mcValidateAuthTokenReq
  · rw [if_pos hvalidate] at h ⊢
    exact Or.inl ⟨_, rfl, not_not.mp (of_ite_ok hformat h).1⟩
  rw [if_neg hvalidate] at h ⊢
  by_cases herror : msgType = mcError
  · rw [if_pos herror] at h
    obtain ⟨hleast, h⟩ := of_ite_ok hformat h
    exact Or.inr ⟨rfl, herror, Nat.not_lt.mp hleast, not_not.mp (of_ite_ok hformat h).1⟩
  · rw [if_neg herror] at h
    exact absurd h hformat

/-! ## Sizes at the end of the range -/

theorem fixedBodySize_le {msgType : UInt32} {n : Nat} (h : fixedBodySize msgType = some n) :
    n ≤ 312 := by
  simp only [fixedBodySize] at h
  split at h
  · cases h
    decide
  split at h
  · cases h
    decide
  split at h
  · cases h
    decide
  split at h
  · cases h
    decide
  split at h
  · cases h
    decide
  · cases h

/-- No error message without a text has its checksum where the length of the text is read. -/
theorem checksum_ne (k : Fin 3) :
    calcCRC32 (littleEndian 4 mcError.toNat ++ littleEndian 4 (0xFFFFFFFD + k.val) ++
      littleEndian 4 (~~~ mcError).toNat) ≠ UInt32.ofNat (0xFFFFFFF5 + k.val) := by
  revert k
  decide +kernel

/-- The size of a validated body does not wrap when it is rounded up. -/
theorem size_not_wrapped {msg : Memory} {msgsize : UInt32} (h : Compared msg msgsize) :
    (u32At msg 4).toNat + 3 < 2 ^ 32 := by
  by_contra hwrap
  have hlt := (u32At msg 4).toNat_lt
  obtain ⟨k, hk⟩ : ∃ k : Fin 3, (u32At msg 4).toNat = 0xFFFFFFFD + k.val :=
    ⟨⟨(u32At msg 4).toNat - 0xFFFFFFFD, by omega⟩, by simp only; omega⟩
  have haligned : (u32At msg 4 + 3) &&& ~~~3 = 0 := by
    apply UInt32.toNat.inj
    rw [toNat_and_not_three, UInt32.toNat_add]
    show (_ + 3) % 2 ^ 32 / 4 * 4 = 0
    omega
  rcases bodySize_of_validateBody h.body with ⟨n, hfixed, hn⟩ | ⟨-, herror, -, htext⟩
  · have hle := fixedBodySize_le hfixed
    omega
  · -- the checksum and the length of the text stand at the same place
    have hmagic : u32At msg 8 = ~~~ mcError := by
      have hmagic := h.magic
      rw [trailerOff, haligned, herror] at hmagic
      have hcomplement := congrArg (~~~ ·) hmagic
      simp only [UInt32.not_not] at hcomplement
      exact hcomplement.symm
    have hsize : msgsize.toNat - 4 = 4 + 4 + 4 := by
      rw [h.size, haligned]
      rfl
    have hcrc32 := h.crc32
    rw [trailerOff, haligned, hsize, load_append, load_append, load_u32, load_u32, load_u32,
      herror, hk] at hcrc32
    have hplace : bodyOff + (0 : UInt32).toNat + 4 = (bodyMember gdmcErrorMsg 1).off := by
      decide
    rw [show 0 + (4 + 4) = 8 from rfl, hmagic, hplace] at hcrc32
    have hlength : u32At msg (bodyMember gdmcErrorMsg 1).off = UInt32.ofNat (0xFFFFFFF5 + k.val) := by
      have hnat := congrArg UInt32.toNat htext
      rw [UInt32.toNat_add, hk] at hnat
      have hlt' := (u32At msg (bodyMember gdmcErrorMsg 1).off).toNat_lt
      apply UInt32.toNat.inj
      rw [UInt32.toNat_ofNat_of_lt' (by show _ < 4294967296; omega)]
      have hsum : 0xFFFFFFFD + k.val =
          ((u32At msg (bodyMember gdmcErrorMsg 1).off).toNat + 8) % 2 ^ 32 := hnat
      omega
    rw [hlength] at hcrc32
    exact checksum_ne k hcrc32

/-! ## Validated messages -/

theorem toNat_alignedSize {n : UInt32} (hn : n.toNat + 3 < 2 ^ 32) :
    ((n + 3) &&& ~~~3).toNat = (n.toNat + 3) / 4 * 4 := by
  rw [toNat_and_not_three, UInt32.toNat_add]
  show (_ + 3) % 2 ^ 32 / 4 * 4 = _
  rw [Nat.mod_eq_of_lt hn]

/-- What the handler of a type reads stands in a body of the fixed size. -/
theorem handlerReads_inside (msgType : UInt32) :
    ∀ r ∈ handlerReads msgType, ∃ n ∈ fixedBodySize msgType,
      bodyOff ≤ r.off ∧ r.off + r.size ≤ bodyOff + n := by
  rw [handlerReads]
  by_cases hgen : msgType = mcGenAuthTokenReq
  · rw [if_pos hgen, hgen]
    decide
  · rw [if_neg hgen]
    by_cases hvalidate : msgType = mcValidateAuthTokenReq
    · rw [if_pos hvalidate, hvalidate]
      decide
    · rw [if_neg hvalidate]
      exact fun r hr => absurd hr List.not_mem_nil

/-- A validated message stands in the given length, and its body has what is read in it. -/
theorem validated_withinBounds (msg : Memory) (msgsize : UInt32)
    (h : gdmcValidateProvMessage msg msgsize = .ok) : WithinBounds msg msgsize := by
  have hcompared := compared_of_validated h
  have hwrap := size_not_wrapped hcompared
  have haligned := toNat_alignedSize hwrap
  have hsum : msgsize.toNat = 16 + ((u32At msg 4 + 3) &&& ~~~3).toNat := by
    have hnat := congrArg UInt32.toNat hcompared.size
    rw [UInt32.toNat_add] at hnat
    have hlt := ((u32At msg 4 + 3) &&& ~~~3).toNat_lt
    have hmod : msgsize.toNat = (16 + ((u32At msg 4 + 3) &&& ~~~3).toNat) % 2 ^ 32 := hnat
    have hleast := hcompared.least
    omega
  have hbody := bodySize_of_validateBody hcompared.body
  constructor
  · rw [trailerOff, haligned]
    omega
  · rw [trailerOff, hsum]
    show 8 + _ + 8 = _
    omega
  · rcases hbody with ⟨n, hfixed, -⟩ | ⟨-, herror, -⟩
    · exact Or.inl (by rw [hfixed]; exact Option.some_ne_none n)
    · exact Or.inr herror
  · intro n hn
    rcases hbody with ⟨m, hfixed, hm⟩ | ⟨hnone, -⟩
    · rw [hfixed] at hn
      rw [hm, Option.some.inj hn]
    · rw [hnone] at hn
      cases hn
  · intro herror
    rcases hbody with ⟨n, hfixed, -⟩ | ⟨-, -, hleast, htext⟩
    · have hnone : fixedBodySize mcError = none := by decide
      rw [herror, hnone] at hfixed
      cases hfixed
    · have hlt := (u32At msg (bodyMember gdmcErrorMsg 1).off).toNat_lt
      have hnat := congrArg UInt32.toNat htext
      rw [UInt32.toNat_add] at hnat
      have hmod : (u32At msg 4).toNat =
          ((u32At msg (bodyMember gdmcErrorMsg 1).off).toNat + 8) % 2 ^ 32 := hnat
      show 8 + _ = _
      omega
  · intro hgen
    have hcommand := hcompared.body
    rw [hgen, validateBody, if_neg (by decide), if_neg (by decide), if_pos rfl] at hcommand
    have hformat : GdError.messageFormat ≠ .ok := by decide
    exact not_not.mp (of_ite_ok hformat (of_ite_ok hformat hcommand).2).1
  · intro r hr
    obtain ⟨n, hn, hoff, hend⟩ := handlerReads_inside _ r hr
    rcases hbody with ⟨m, hfixed, hm⟩ | ⟨hnone, -⟩
    · rw [hfixed] at hn
      rw [hm, Option.some.inj hn]
      exact ⟨hoff, hend⟩
    · rw [hnone] at hn
      cases hn

/-- A request for the SUID. -/
def suidRequest : Memory :=
  message mcGetSuidReq 0 0 [] fun _ => 0

theorem withinBounds_suidRequest : WithinBounds suidRequest 16 :=
  validated_withinBounds suidRequest 16 (by decide +kernel)

end Exynos8890.ProvLib
