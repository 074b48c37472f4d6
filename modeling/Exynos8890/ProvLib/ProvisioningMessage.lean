import Exynos8890.Library.CString
import Exynos8890.Library.CStruct

/-!
# The messages of the provisioning library

A message is a header with its type and the size of its body, the body rounded up to four bytes,
and a trailer with the complement of the type and a checksum of all that stands before it.  The
library composes its messages in a buffer of the caller, and it validates what it receives.

Main results:

- Definitions `gdmcComposeErrorMessage` and `gdmcValidateProvMessage`: the two sides.
- Theorems `message_framed` and `load_message_body`: what a composed message holds.
- Theorem `validate_framed`: a composed message is validated when its body is.
- Theorem `validate_errorMessage_iff`: an error message is validated when its text fills its
  words.
-/

namespace Exynos8890.ProvLib

open CString CStruct

/-! ## Error codes and message types -/

/-- `gderror`: callbacks may return any value. -/
abbrev GdError := UInt32

namespace GdError

def ok : GdError := 0x00000000
def parameter : GdError := 0x00000001
def cantGetSuid : GdError := 0x00000008
def cantBuildAuthtoken : GdError := 0x00000009
def validationFailure : GdError := 0x0000000D
def insufficientMemory : GdError := 0x0000000E
def messageFormat : GdError := 0x00000011
def crc32 : GdError := 0x00000012
def unknown : GdError := 0x0000001C
def bufferTooSmall : GdError := 0x0000001E
def provisioningDone : GdError := 0x10000001

end GdError

/-- `MC_GETSUID_REQ` -/
def mcGetSuidReq : UInt32 := 0x0100434D
/-- `MC_GETSUID_RESP` -/
def mcGetSuidResp : UInt32 := 0x0200434D
/-- `MC_GENAUTHTOKEN_REQ` -/
def mcGenAuthTokenReq : UInt32 := 0x0300434D
/-- `MC_GENAUTHTOKEN_RESP` -/
def mcGenAuthTokenResp : UInt32 := 0x0400434D
/-- `MC_VALIDATEAUTHTOKEN_REQ` -/
def mcValidateAuthTokenReq : UInt32 := 0x0500434D
/-- `MC_ERROR` -/
def mcError : UInt32 := 0x0600434D

/-- `MC_CMP_CMD_GENERATE_AUTH_TOKEN` -/
def mcCmpCmdGenerateAuthToken : UInt32 := 4

/-- The bit that tells a response from its command. -/
def rspIdMask : UInt32 := 0x80000000

/-! ## Structures -/

def suidLength : Nat := 16
def kSocAuthLength : Nat := 32

/-- `_u32` of a packed structure. -/
def packed32 : CType :=
  ⟨4, 1⟩

/-- `gdmc_msgheader`: type, size of the body. -/
def gdmcMsgheader : List CType :=
  [packed32, packed32]

/-- `gdmc_msgtrailer`: complement of the type, checksum. -/
def gdmcMsgtrailer : List CType :=
  [packed32, packed32]

/-- `gdmc_error_msg`: error code, length of the text that follows. -/
def gdmcErrorMsg : List CType :=
  [packed32, packed32]

/-- `gdmc_so_authtok`: 0 type, 1 version, 2 context, 3 lifetime, 4 `producer_spid`,
5 `producer_uuid`, 6 `plain_length`, 7 `encrypted_length`, 8 `contType`, 9 `contVersion`,
10 `contState`, 11 suid, 12 `kSoCAuth`, 13 md, 14 padding. -/
def gdmcSoAuthtok : List CType :=
  [packed32, packed32, packed32, packed32, packed32, byteArray 16, packed32, packed32, packed32,
    packed32, packed32, byteArray suidLength, byteArray kSocAuthLength, byteArray 32, byteArray 16]

/-- `gdmc_actmsg_req`: 0 `msg_type`, 1 suid, 2 `kSoCAuth`, 3 kid, 4 dsig. -/
def gdmcActmsgReq : List CType :=
  [packed32, byteArray suidLength, byteArray kSocAuthLength, packed32, byteArray 256]

/-- `gdmc_actmsg_resp`: 0 `msg_type`, 1 retcode, 2 authtok. -/
def gdmcActmsgResp : List CType :=
  [packed32, packed32, .struct gdmcSoAuthtok]

/-- The body stands behind the header. -/
def bodyOff : Nat := CStruct.sizeOf gdmcMsgheader

/-- A member of the body. -/
def bodyMember (ts : List CType) (i : Nat) : Region :=
  ⟨bodyOff + (member ts i).off, (member ts i).size⟩

/-- A member of the token in the body of an activation response. -/
def authtokMember (i : Nat) : Region :=
  ⟨bodyOff + (member gdmcActmsgResp 2).off + (member gdmcSoAuthtok i).off,
    (member gdmcSoAuthtok i).size⟩

/-! ## The checksum -/

/-- `reflect`, `k` bits before its end. -/
def reflectFrom : Nat → UInt32 → UInt32 → UInt32
  | 0, _, value => value
  | k + 1, refl, value =>
      reflectFrom k (refl >>> 1)
        (if refl &&& (1 : UInt32) ≠ 0 then value ||| ((1 : UInt32) <<< UInt32.ofNat k) else value)

def reflect (refl : UInt32) (c : Nat) : UInt32 :=
  reflectFrom c refl 0

/-- One of the eight shifts of `InitCRCTable`. -/
def shiftCRC (crc : UInt32) : UInt32 :=
  (crc <<< 1) ^^^ (if crc &&& ((1 : UInt32) <<< 31) ≠ 0 then (0x04C11DB7 : UInt32) else 0)

/-- `crctable`, as `InitCRCTable` fills it. -/
def crctable (i : UInt32) : UInt32 :=
  reflect (shiftCRC^[8] (reflect i 8 <<< 24)) 32

/-- `CalcCRC32`. -/
def calcCRC32 (data : List UInt8) : UInt32 :=
  let step := fun (crc : UInt32) (byte : UInt8) =>
    (crc >>> 8) ^^^ crctable ((crc &&& 0xFF) ^^^ byte.toUInt32)
  data.foldl step 0xFFFFFFFF ^^^ 0xFFFFFFFF

example : calcCRC32 [0x31, 0x32, 0x33, 0x34, 0x35, 0x36, 0x37, 0x38, 0x39] = 0xCBF43926 := by
  decide +kernel

/-! ## Composing -/

/-- The buffer of the caller: `msgout` and `*msgout_size`. -/
structure Buffer where
  bytes : Memory
  size : Nat

/-- What is written before the checksum: the header, members of a body of `length` bytes, and
the complement of the type. -/
def written (msgType : UInt32) (bodySize length : Nat) (body : List Assignment) :
    List Assignment :=
  [(member gdmcMsgheader 0).set msgType.toNat, (member gdmcMsgheader 1).set bodySize] ++ body ++
    [(Region.mk (bodyOff + length) 4).set (~~~msgType).toNat]

/-- A message is completed by its checksum. -/
def message (msgType : UInt32) (bodySize length : Nat) (body : List Assignment) (m : Memory) :
    Memory :=
  let m := assign (written msgType bodySize length body) m
  assign [(Region.mk (bodyOff + length + 4) 4).set
    (calcCRC32 (load ⟨0, bodyOff + length + 4⟩ m)).toNat] m

/-- `MAX_MSGSIZE`. -/
def maxMsgsize : Nat := 4096

/-- The text of an error as it stands in the buffer of `vsnprintf`. -/
def errmsg (text : List UInt8) : List UInt8 :=
  cString 0 (text.take (maxMsgsize - 1))

/-- `errmsgsize`: the text with its terminator, or nothing for an empty text. -/
def errmsgsize (text : List UInt8) : Nat :=
  if errmsg text = [] then 0 else (errmsg text).length + 1

/-- `errmsgsize_aligned`. -/
def errmsgsizeAligned (text : List UInt8) : Nat :=
  alignUp (errmsgsize text) 4

/-- The text in the body of an error message: cleared, then copied with its terminator. -/
def errmsgBytes (text : List UInt8) : List UInt8 :=
  ((errmsg text) ++ [0]).take (errmsgsize text) ++
    List.replicate (errmsgsizeAligned text - errmsgsize text) 0

theorem length_errmsgBytes (text : List UInt8) :
    (errmsgBytes text).length = errmsgsizeAligned text := by
  have hle : errmsgsize text ≤ errmsgsizeAligned text := by
    simp only [errmsgsizeAligned, alignUp]
    omega
  have htake : ((errmsg text ++ [0]).take (errmsgsize text)).length = errmsgsize text := by
    rw [List.length_take, List.length_append, List.length_singleton, errmsgsize]
    split <;> omega
  rw [errmsgBytes, List.length_append, htake, List.length_replicate]
  omega

/-- The members of an error message. -/
def errorBody (error : GdError) (text : List UInt8) : List Assignment :=
  [(bodyMember gdmcErrorMsg 0).set error.toNat,
    (bodyMember gdmcErrorMsg 1).set (errmsgsizeAligned text),
    ⟨⟨bodyOff + CStruct.sizeOf gdmcErrorMsg, errmsgsizeAligned text⟩, errmsgBytes text,
      length_errmsgBytes text⟩]

/-- An error message with its text. -/
def errorMessage (error : GdError) (text : List UInt8) (m : Memory) : Memory :=
  message mcError (CStruct.sizeOf gdmcErrorMsg + errmsgsize text)
    (CStruct.sizeOf gdmcErrorMsg + errmsgsizeAligned text) (errorBody error text) m

/-- `msgsize` of an error message. -/
def errorMsgsize (text : List UInt8) : Nat :=
  bodyOff + CStruct.sizeOf gdmcErrorMsg + errmsgsizeAligned text + CStruct.sizeOf gdmcMsgtrailer

/-- `GDMCComposeErrorMessage`: the text is the one that its format expands to, empty when there
is none. -/
def gdmcComposeErrorMessage (error : GdError) (text : List UInt8) (initialSize : UInt32)
    (out : Buffer) : GdError × Buffer :=
  if initialSize.toNat < errorMsgsize text then (.bufferTooSmall, out)
  else (.ok, ⟨errorMessage error text out.bytes, errorMsgsize text⟩)

/-! ## Validating -/

/-- What the validation asks of the body, for each type of message. -/
def validateBody (msg : Memory) (bodySize msgType : UInt32) : GdError :=
  if msgType = mcGetSuidReq then
    if bodySize ≠ 0 then .messageFormat else .ok
  else if msgType = mcGetSuidResp then
    if bodySize.toNat ≠ suidLength then .messageFormat else .ok
  else if msgType = mcGenAuthTokenReq then
    if bodySize.toNat ≠ CStruct.sizeOf gdmcActmsgReq then .messageFormat
    else if u32At msg (bodyMember gdmcActmsgReq 0).off ≠ mcCmpCmdGenerateAuthToken then
      .messageFormat
    else .ok
  else if msgType = mcGenAuthTokenResp then
    if bodySize.toNat ≠ CStruct.sizeOf gdmcActmsgResp then .messageFormat
    else if u32At msg (bodyMember gdmcActmsgResp 0).off ≠ mcCmpCmdGenerateAuthToken ||| rspIdMask
    then .messageFormat
    else if u32At msg (authtokMember 6).off ≠ 28 then .messageFormat
    else if u32At msg (authtokMember 7).off ≠ 32 then .messageFormat
    else if u32At msg (authtokMember 0).off ≠ 1 then .messageFormat
    else if u32At msg (authtokMember 2).off ≠ 1 then .messageFormat
    else if u32At msg (authtokMember 8).off ≠ 0 then .messageFormat
    else if u32At msg (authtokMember 10).off ≠ 2 then .messageFormat
    else .ok
  else if msgType = mcValidateAuthTokenReq then
    if bodySize.toNat ≠ CStruct.sizeOf gdmcSoAuthtok then .messageFormat else .ok
  else if msgType = mcError then
    if bodySize.toNat < CStruct.sizeOf gdmcErrorMsg then .messageFormat
    else if bodySize ≠ u32At msg (bodyMember gdmcErrorMsg 1).off + 8 then .messageFormat
    else .ok
  else .messageFormat

/-- `GDMCValidateProvMessage`. -/
def gdmcValidateProvMessage (msg : Memory) (msgsize : UInt32) : GdError :=
  if msgsize < 16 then .messageFormat
  else if msgsize &&& 3 ≠ 0 then .messageFormat
  else
    let msgType := u32At msg 0
    let bodySize := u32At msg 4
    let alignedBodySize := (bodySize + 3) &&& ~~~3
    if msgsize ≠ 16 + alignedBodySize then .messageFormat
    else
      let trailer := bodyOff + alignedBodySize.toNat
      if msgType ≠ ~~~ u32At msg trailer then .messageFormat
      else if calcCRC32 (load ⟨0, msgsize.toNat - 4⟩ msg) ≠ u32At msg (trailer + 4) then .crc32
      else validateBody msg bodySize msgType

theorem mem_ite {α : Type*} {c : Prop} [Decidable c] {a b : α} {l : List α} (ha : a ∈ l)
    (hb : b ∈ l) : (if c then a else b) ∈ l := by
  split
  · exact ha
  · exact hb

theorem validateBody_mem (msg : Memory) (bodySize msgType : UInt32) :
    validateBody msg bodySize msgType ∈ [GdError.ok, .messageFormat] := by
  unfold validateBody
  repeat' apply mem_ite
  all_goals decide

theorem gdmcValidateProvMessage_mem (msg : Memory) (msgsize : UInt32) :
    gdmcValidateProvMessage msg msgsize ∈ [GdError.ok, .messageFormat, .crc32] := by
  have hbody : validateBody msg (u32At msg 4) (u32At msg 0) ∈
      [GdError.ok, .messageFormat, .crc32] :=
    List.mem_append_left [GdError.crc32] (validateBody_mem msg (u32At msg 4) (u32At msg 0))
  have hformat : GdError.messageFormat ∈ [GdError.ok, .messageFormat, .crc32] := by decide
  have hcrc : GdError.crc32 ∈ [GdError.ok, .messageFormat, .crc32] := by decide
  exact mem_ite hformat (mem_ite hformat (mem_ite hformat (mem_ite hformat (mem_ite hcrc hbody))))

theorem validateBody_of_validated {msg : Memory} {msgsize : UInt32}
    (h : gdmcValidateProvMessage msg msgsize = .ok) :
    validateBody msg (u32At msg 4) (u32At msg 0) = .ok := by
  have hne : ∀ {c : Prop} [Decidable c] {error rest : GdError}, error ≠ .ok →
      (if c then error else rest) = .ok → rest = .ok := by
    intro c _ error rest herror hite
    split at hite
    · exact absurd hite herror
    · exact hite
  have hformat : GdError.messageFormat ≠ .ok := by decide
  exact hne (by decide) (hne hformat (hne hformat (hne hformat (hne hformat h))))

/-! ## What a composed message holds -/

/-- The members that are written stand in the body and share no byte. -/
structure FitsBody (length : Nat) (body : List Assignment) : Prop where
  inside : ∀ a ∈ body, bodyOff ≤ a.region.off ∧ a.region.off + a.region.size ≤ bodyOff + length
  disjoint : (body.map fun a => a.region).Pairwise Region.Disjoint

/-- The header and the trailer of a message. -/
structure Framed (type size : UInt32) (length : Nat) (msg : Memory) : Prop where
  msgType : u32At msg 0 = type
  bodySize : u32At msg 4 = size
  magic : u32At msg (bodyOff + length) = ~~~type
  crc32 : u32At msg (bodyOff + length + 4) = calcCRC32 (load ⟨0, bodyOff + length + 4⟩ msg)

section Fields

variable {msgType : UInt32} {bodySize length : Nat} {body : List Assignment} {m : Memory}

theorem written_disjoint (hbody : FitsBody length body) :
    ((written msgType bodySize length body).map fun a => a.region).Pairwise Region.Disjoint := by
  have hheader : ∀ r ∈ [member gdmcMsgheader 0, member gdmcMsgheader 1],
      r.off + r.size ≤ bodyOff := by
    decide
  simp only [written, List.map_append, List.map_cons, List.map_nil, region_set]
  rw [List.pairwise_append, List.pairwise_append]
  refine ⟨⟨by decide, hbody.disjoint, ?_⟩, List.pairwise_singleton _ _, ?_⟩
  · intro r hr s hs
    obtain ⟨a, ha, rfl⟩ := List.mem_map.mp hs
    exact Or.inl ((hheader r hr).trans (hbody.inside a ha).1)
  · intro r hr s hs
    rw [List.mem_singleton.mp hs]
    rcases List.mem_append.mp hr with hr | hr
    · exact Or.inl ((hheader r hr).trans (Nat.le_add_right bodyOff length))
    · obtain ⟨a, ha, rfl⟩ := List.mem_map.mp hr
      exact Or.inl (hbody.inside a ha).2

theorem load_message {r : Region} (hr : r.off + r.size ≤ bodyOff + length + 4) :
    load r (message msgType bodySize length body m) =
      load r (assign (written msgType bodySize length body) m) := by
  apply load_assign_of_disjoint
  intro a ha
  rw [List.mem_singleton.mp ha]
  exact Or.inl hr

/-- What is written before the checksum stands in the message. -/
theorem load_message_written (hbody : FitsBody length body) {a : Assignment}
    (ha : a ∈ written msgType bodySize length body)
    (hr : a.region.off + a.region.size ≤ bodyOff + length + 4) :
    load a.region (message msgType bodySize length body m) = a.bytes := by
  rw [load_message hr]
  exact load_assign (written_disjoint hbody) m a ha

theorem load_message_body (hbody : FitsBody length body) {a : Assignment} (ha : a ∈ body) :
    load a.region (message msgType bodySize length body m) = a.bytes := by
  apply load_message_written hbody
  · exact List.mem_append_left _ (List.mem_append_right _ ha)
  · have := (hbody.inside a ha).2
    omega

/-- A part of the body that is not written holds what the buffer held. -/
theorem load_message_rest {r : Region} (hoff : bodyOff ≤ r.off)
    (hend : r.off + r.size ≤ bodyOff + length) (hrest : ∀ a ∈ body, r.Disjoint a.region) :
    load r (message msgType bodySize length body m) = load r m := by
  rw [load_message (by omega)]
  apply load_assign_of_disjoint
  intro a ha
  rcases List.mem_append.mp ha with ha | ha
  · rcases List.mem_append.mp ha with ha | ha
    · have hheader : a.region.off + a.region.size ≤ bodyOff := by
        rcases List.mem_cons.mp ha with rfl | ha
        · rw [region_set]
          decide
        · rw [List.mem_singleton.mp ha, region_set]
          decide
      exact Or.inr (hheader.trans hoff)
    · exact hrest a ha
  · rw [List.mem_singleton.mp ha]
    exact Or.inl hend

/-- An integer that is written before the checksum is read again. -/
theorem u32At_message (hbody : FitsBody length body) {off n : Nat}
    (ha : (Region.mk off 4).set n ∈ written msgType bodySize length body)
    (hoff : off ≤ bodyOff + length) :
    u32At (message msgType bodySize length body m) off = UInt32.ofNat n :=
  u32At_of_load (r := ⟨off, 4⟩) rfl
    (load_message_written hbody ha (Nat.add_le_add_right hoff 4))

theorem message_framed (hbody : FitsBody length body) :
    Framed msgType (UInt32.ofNat bodySize) length (message msgType bodySize length body m) := by
  constructor
  · have htype : (Region.mk 0 4).set msgType.toNat ∈ written msgType bodySize length body :=
      List.mem_cons_self
    rw [u32At_message hbody htype (Nat.zero_le _)]
    exact UInt32.ofNat_toNat
  · have hsize : (Region.mk 4 4).set bodySize ∈ written msgType bodySize length body :=
      List.mem_cons_of_mem _ List.mem_cons_self
    exact u32At_message hbody hsize (Nat.le_trans (by decide) (Nat.le_add_right bodyOff length))
  · rw [u32At_message hbody (List.mem_append_right _ List.mem_cons_self) le_rfl]
    exact UInt32.ofNat_toNat
  · have hcrc : load ⟨bodyOff + length + 4, 4⟩ (message msgType bodySize length body m) = _ :=
      load_assign (List.pairwise_singleton _ _) _ _ List.mem_cons_self
    rw [u32At_of_load (r := ⟨bodyOff + length + 4, 4⟩) rfl hcrc, load_message (by simp)]
    exact UInt32.ofNat_toNat

end Fields

/-- `(n + 3) & ~3`. -/
theorem toNat_aligned {n : Nat} (hn : n + 3 < 0x100000000) :
    ((UInt32.ofNat n + 3) &&& ~~~3).toNat = alignUp n 4 := by
  have hadd : (UInt32.ofNat n + 3).toNat = n + 3 := by
    rw [UInt32.toNat_add, UInt32.toNat_ofNat', Nat.mod_eq_of_lt (show n < 2 ^ 32 by omega)]
    exact Nat.mod_eq_of_lt hn
  rw [toNat_and_not_three, hadd]
  rfl

theorem validate_framed {msgType : UInt32} {bodySize length : Nat} {msg : Memory}
    (hframed : Framed msgType (UInt32.ofNat bodySize) length msg)
    (hlength : alignUp bodySize 4 = length) (hsize : length + 16 < 0x100000000) :
    gdmcValidateProvMessage msg (UInt32.ofNat (length + 16)) =
      validateBody msg (UInt32.ofNat bodySize) msgType := by
  have halign : ((UInt32.ofNat bodySize + 3) &&& ~~~3).toNat = length := by
    rw [toNat_aligned, hlength]
    simp only [alignUp] at hlength
    omega
  have hmsgsize : (UInt32.ofNat (length + 16)).toNat = length + 16 := by
    rw [UInt32.toNat_ofNat']
    exact Nat.mod_eq_of_lt hsize
  have hmod : length % 4 = 0 := by
    simp only [alignUp] at hlength
    omega
  have htrailer : length + 16 - 4 = bodyOff + length + 4 := by
    show length + 16 - 4 = 8 + length + 4
    omega
  unfold gdmcValidateProvMessage
  simp only [hframed.msgType, hframed.bodySize, halign, hframed.magic, hframed.crc32, hmsgsize,
    htrailer]
  rw [if_neg, if_neg, if_neg, if_neg, if_neg]
  · exact not_not_intro rfl
  · exact not_not_intro (by simp)
  · apply not_not_intro
    apply UInt32.toNat.inj
    rw [UInt32.toNat_add, halign, hmsgsize]
    show length + 16 = (16 + length) % 4294967296
    omega
  · apply not_not_intro
    apply UInt32.toNat.inj
    rw [UInt32.toNat_and, hmsgsize]
    show (length + 16) &&& (2 ^ 2 - 1) = 0
    rw [Nat.and_two_pow_sub_one_eq_mod]
    omega
  · rw [UInt32.lt_iff_toNat_lt, hmsgsize]
    show ¬ length + 16 < 16
    omega

/-! ## Error messages -/

section ErrorMessages

variable (error : GdError) (text : List UInt8) (m : Memory)

theorem errorBody_fits :
    FitsBody (CStruct.sizeOf gdmcErrorMsg + errmsgsizeAligned text) (errorBody error text) := by
  constructor
  · intro a ha
    simp only [errorBody, List.mem_cons, List.not_mem_nil, or_false] at ha
    rcases ha with rfl | rfl | rfl
    · show 8 ≤ 8 ∧ 8 + 4 ≤ 8 + (8 + errmsgsizeAligned text)
      omega
    · show 8 ≤ 12 ∧ 12 + 4 ≤ 8 + (8 + errmsgsizeAligned text)
      omega
    · show 8 ≤ 16 ∧ 16 + errmsgsizeAligned text ≤ 8 + (8 + errmsgsizeAligned text)
      omega
  · have hcode : (bodyMember gdmcErrorMsg 0).off + (bodyMember gdmcErrorMsg 0).size ≤ 12 := by
      decide
    have hlength : (bodyMember gdmcErrorMsg 1).off + (bodyMember gdmcErrorMsg 1).size ≤ 16 := by
      decide
    simp only [errorBody, List.map_cons, List.map_nil, region_set, List.pairwise_cons,
      List.mem_cons, List.not_mem_nil, or_false, forall_eq_or_imp, forall_eq]
    refine ⟨⟨Or.inl hcode, Or.inl (hcode.trans (by decide : 12 ≤ 16))⟩, Or.inl hlength, ?_,
      List.Pairwise.nil⟩
    exact fun _ h => h.elim

theorem errorMessage_framed :
    Framed mcError (UInt32.ofNat (CStruct.sizeOf gdmcErrorMsg + errmsgsize text))
      (CStruct.sizeOf gdmcErrorMsg + errmsgsizeAligned text) (errorMessage error text m) :=
  message_framed (errorBody_fits error text)

theorem errorcode_errorMessage :
    u32At (errorMessage error text m) (bodyMember gdmcErrorMsg 0).off = error := by
  have hcode : (bodyMember gdmcErrorMsg 0).set error.toNat ∈ errorBody error text :=
    List.mem_cons_self
  have hsize : (bodyMember gdmcErrorMsg 0).size = 4 := by decide
  rw [errorMessage, u32At_of_load hsize (load_message_body (errorBody_fits error text) hcode)]
  exact UInt32.ofNat_toNat

/-- The length of the text that an error message announces. -/
theorem errmsgLength_errorMessage :
    u32At (errorMessage error text m) (bodyMember gdmcErrorMsg 1).off =
      UInt32.ofNat (errmsgsizeAligned text) := by
  have hlength : (bodyMember gdmcErrorMsg 1).set (errmsgsizeAligned text) ∈
      errorBody error text := List.mem_cons_of_mem _ List.mem_cons_self
  exact u32At_of_load (by decide) (load_message_body (errorBody_fits error text) hlength)

theorem errmsgsize_le : errmsgsize text ≤ maxMsgsize := by
  have hle : (errmsg text).length ≤ maxMsgsize - 1 :=
    (List.takeWhile_sublist _).length_le.trans (List.length_take_le _ _)
  unfold errmsgsize
  split
  · exact Nat.zero_le _
  · exact Nat.add_le_of_le_sub (by decide) hle

/-- The validation compares the size of the body with the length of the text, and only the
length was rounded up. -/
theorem validate_errorMessage_iff :
    gdmcValidateProvMessage (errorMessage error text m) (UInt32.ofNat (errorMsgsize text)) = .ok ↔
      errmsgsize text % 4 = 0 := by
  have hle : errmsgsize text ≤ 4096 := errmsgsize_le text
  have hsize : errorMsgsize text = CStruct.sizeOf gdmcErrorMsg + errmsgsizeAligned text + 16 := by
    show 8 + 8 + _ + 8 = 8 + _ + 16
    omega
  have haligned : errmsgsizeAligned text = (errmsgsize text + 3) / 4 * 4 := rfl
  have hword : UInt32.size = 4294967296 := rfl
  rw [hsize, validate_framed (errorMessage_framed error text m)]
  · have hbody : validateBody (errorMessage error text m)
        (UInt32.ofNat (CStruct.sizeOf gdmcErrorMsg + errmsgsize text)) mcError =
        if (UInt32.ofNat (8 + errmsgsize text)).toNat < 8 then .messageFormat
        else if UInt32.ofNat (8 + errmsgsize text) ≠
          u32At (errorMessage error text m) (bodyMember gdmcErrorMsg 1).off + 8 then .messageFormat
        else .ok := rfl
    have hbodySize : (UInt32.ofNat (8 + errmsgsize text)).toNat = 8 + errmsgsize text :=
      UInt32.toNat_ofNat_of_lt' (by omega)
    have hadd : UInt32.ofNat (errmsgsizeAligned text) + 8 =
        UInt32.ofNat (errmsgsizeAligned text + 8) := (UInt32.ofNat_add _ _).symm
    have hlength : (UInt32.ofNat (errmsgsizeAligned text + 8)).toNat =
        errmsgsizeAligned text + 8 := UInt32.toNat_ofNat_of_lt' (by omega)
    have hiff : UInt32.ofNat (8 + errmsgsize text) =
        UInt32.ofNat (errmsgsizeAligned text + 8) ↔ errmsgsize text % 4 = 0 := by
      rw [← UInt32.toNat_inj, hbodySize, hlength]
      omega
    rw [hbody, errmsgLength_errorMessage, hadd, if_neg (by omega)]
    by_cases hmod : errmsgsize text % 4 = 0
    · rw [if_neg (not_not_intro (hiff.mpr hmod))]
      exact iff_of_true rfl hmod
    · rw [if_pos fun heq => hmod (hiff.mp heq)]
      exact iff_of_false (by decide) hmod
  · show (8 + errmsgsize text + 4 - 1) / 4 * 4 = 8 + errmsgsizeAligned text
    omega
  · show 8 + errmsgsizeAligned text + 16 < 4294967296
    omega

end ErrorMessages

end Exynos8890.ProvLib
