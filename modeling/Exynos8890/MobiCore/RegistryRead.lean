import Exynos8890.Library.CStruct
import Exynos8890.MobiCore.ResultCodes
import Exynos8890.MobiCore.McpMessage

/-!
# Reading containers from the registry

`processRegistryReadData` answers with a response header and, unless the response is
`MC_DRV_ERR_INVALID_OPERATION`, with `len` bytes of a buffer on its stack.  The registry
functions fill the buffer from a file and set `len` on success only.

Main results:

- Definition `processRegistryReadData`: the bytes sent, over what the stack held before.
- Theorem `sentIndependent_iff`: they show nothing of the stack exactly when nothing but
  the header is sent or the file fills the buffer.
- Theorem `not_sentIndependent`: a missing root container sends the whole buffer.
-/

namespace Exynos8890.MobiCore

open CStruct

/-! ## The registry -/

/-- A file that can be opened: what it holds, and how much of it can be read before a
read error. -/
structure RegistryFile where
  content : List UInt8
  readable : Nat
deriving DecidableEq, Repr

/-- `fread`. -/
def RegistryFile.fread (file : RegistryFile) (size : Nat) : List UInt8 :=
  (file.content.take file.readable).take size

/-- `ftell` at the end of the file, as an `int32_t`.  A `long` of 32 bits holds no size
from 2 GiB on. -/
def RegistryFile.filesize (p : PointerWidth) (file : RegistryFile) : Nat :=
  match p with
  | .bits64 => file.content.length % 0x100000000
  | .bits32 => if file.content.length < 0x80000000 then file.content.length else 0xFFFFFFFF

/-- The files of the registry. -/
structure Registry where
  authToken : Option RegistryFile
  rootCont : Option RegistryFile
  spCont : UInt32 → Option RegistryFile
  tlCont : List UInt8 → UInt32 → Option RegistryFile

/-- `mcSoHeader_t`: type, version, context, lifetime, producer, lengths. -/
def mcSoHeader : List CType :=
  [u32, u32, u32, u32, .struct [u32, mcUuid], u32, u32]

/-- `mcCoSocCont_t`: a symmetric key. -/
def mcCoSocCont : CType :=
  .struct (List.replicate 8 u32)

/-- `mcSocCont_t`: type, version, attributes, unique id, secrets. -/
def mcSocCont : List CType :=
  [u32, u32, u32, .struct [u32, byteArray 12], mcCoSocCont]

/-- `MC_SO_ENCRYPT_PADDED_SIZE_F21`. -/
def mcSoEncryptPaddedSizeF21 (netsize : Nat) : Nat :=
  netsize + 16 - netsize % 16

/-- `MC_SO_SIZE_F22`, for lengths below the payload limit. -/
def mcSoSizeF22 (plainLen encryptedLen : Nat) : Nat :=
  CStruct.sizeOf mcSoHeader + plainLen + encryptedLen + 32 + 16

/-- `MC_SO_SIZE_F21`, for lengths below the payload limit. -/
def mcSoSizeF21 (plainLen encryptedLen : Nat) : Nat :=
  CStruct.sizeOf mcSoHeader + plainLen + mcSoEncryptPaddedSizeF21 (encryptedLen + 32)

/-- `SO_CONT_HASH_AND_PAD_SIZE`. -/
def soContHashAndPadSize (contTotalSize contCoSize : Nat) : Nat :=
  max (mcSoSizeF21 (contTotalSize - contCoSize) contCoSize - CStruct.sizeOf mcSoHeader -
      contTotalSize)
    (mcSoSizeF22 (contTotalSize - contCoSize) contCoSize - CStruct.sizeOf mcSoHeader -
      contTotalSize)

/-- `sizeof(mcSoAuthTokenCont_t)`. -/
def mcSoAuthTokenContSize : Nat :=
  CStruct.sizeOf [.struct mcSoHeader, .struct mcSocCont,
    byteArray (soContHashAndPadSize (CStruct.sizeOf mcSocCont) mcCoSocCont.size)]

example : mcSoAuthTokenContSize = 152 := by decide

/-! ## Reading -/

/-- What a registry function returns: the result, the bytes it wrote to the buffer, and
`*size` afterwards. -/
structure RegistryResult where
  ret : McResult
  written : List UInt8
  size : Nat
deriving DecidableEq, Repr

/-- `mcRegistryReadAuthToken`. -/
def mcRegistryReadAuthToken (p : PointerWidth) (r : Registry) : RegistryResult :=
  match r.authToken with
  | none => ⟨mcDrvErrInvalidDeviceFile, [], mcSoAuthTokenContSize⟩
  | some file =>
      if mcSoAuthTokenContSize ≠ file.filesize p then
        ⟨mcDrvErrOutOfResources, [], mcSoAuthTokenContSize⟩
      else
        let bytes := file.fread mcSoAuthTokenContSize
        if bytes.length ≠ mcSoAuthTokenContSize then
          ⟨mcDrvErrInvalidParameter, bytes, mcSoAuthTokenContSize⟩
        else
          ⟨mcDrvOk, bytes, mcSoAuthTokenContSize⟩

/-- Read a container of any size up to `*size`. -/
def readContainer (file : Option RegistryFile) (size : Nat) : RegistryResult :=
  match file with
  | none => ⟨mcDrvErrInvalidDeviceFile, [], size⟩
  | some file =>
      let bytes := file.fread size
      if 0 < bytes.length then
        ⟨mcDrvOk, bytes, bytes.length⟩
      else
        ⟨mcDrvErrInvalidDeviceFile, bytes, size⟩

/-- `mcRegistryReadRoot`. -/
def mcRegistryReadRoot (r : Registry) (size : Nat) : RegistryResult :=
  readContainer r.rootCont size

/-- `mcRegistryReadSp`. -/
def mcRegistryReadSp (r : Registry) (spid : UInt32) (size : Nat) : RegistryResult :=
  if spid = 0 then ⟨mcDrvErrInvalidParameter, [], size⟩ else readContainer (r.spCont spid) size

/-- `mcRegistryReadTrustletCon`. -/
def mcRegistryReadTrustletCon (r : Registry) (uuid : List UInt8) (spid : UInt32)
    (size : Nat) : RegistryResult :=
  readContainer (r.tlCont uuid spid) size

/-- A read request; the fields that `getData` cannot receive are missing. -/
inductive RegistryRead where
  | authToken
  | rootCont
  | spCont (spid : Option UInt32)
  | tlCont (uuid : Option (List UInt8)) (spid : Option UInt32)
deriving DecidableEq, Repr

/-- `MAX_DATA_SIZE`. -/
def maxDataSize : Nat := 512

/-- The switch of `processRegistryReadData`: the registry function is called with the
token structure, or with the buffer of `MAX_DATA_SIZE` bytes. -/
def readRequest (p : PointerWidth) (r : Registry) : RegistryRead → RegistryResult
  | .authToken => mcRegistryReadAuthToken p r
  | .rootCont => mcRegistryReadRoot r maxDataSize
  | .spCont (some spid) => mcRegistryReadSp r spid maxDataSize
  | .tlCont (some uuid) (some spid) => mcRegistryReadTrustletCon r uuid spid maxDataSize
  | .spCont none | .tlCont _ _ => ⟨mcDrvErrInvalidOperation, [], maxDataSize⟩

/-- `processRegistryReadData`: the bytes sent, if the buffer held `stale` before. -/
def processRegistryReadData (p : PointerWidth) (r : Registry) (permitted : Bool)
    (request : RegistryRead) (stale : Memory) : List UInt8 :=
  if permitted then
    let result := readRequest p r request
    littleEndian 4 result.ret.toNat ++
      if result.ret ≠ mcDrvErrInvalidOperation then
        load ⟨0, result.size⟩ (store 0 result.written stale)
      else []
  else littleEndian 4 mcDrvErrInvalidOperation.toNat

/-! ## What is sent -/

/-- Whatever the stack held before, the same bytes are sent. -/
def SentIndependent (p : PointerWidth) (r : Registry) (permitted : Bool)
    (request : RegistryRead) : Prop :=
  ∀ stale stale', processRegistryReadData p r permitted request stale =
    processRegistryReadData p r permitted request stale'

/-- The file has a byte that can be read. -/
def HasByte (file : Option RegistryFile) : Prop :=
  ∃ f ∈ file, f.content ≠ [] ∧ 0 < f.readable

/-- The file is as long as a token, and all of a token can be read from it. -/
def HasToken (p : PointerWidth) (file : Option RegistryFile) : Prop :=
  ∃ f ∈ file, f.filesize p = mcSoAuthTokenContSize ∧ mcSoAuthTokenContSize ≤ f.content.length ∧
    mcSoAuthTokenContSize ≤ f.readable

/-- The request is cut short, or the file that it asks for fills the buffer. -/
def FillsBuffer (p : PointerWidth) (r : Registry) : RegistryRead → Prop
  | .authToken => HasToken p r.authToken
  | .rootCont => HasByte r.rootCont
  | .spCont (some spid) => spid ≠ 0 ∧ HasByte (r.spCont spid)
  | .tlCont (some uuid) (some spid) => HasByte (r.tlCont uuid spid)
  | .spCont none | .tlCont _ _ => True

/-- The bytes sent do not depend on the stack exactly when the buffer is not sent, or only
as much of it as was written. -/
theorem sentIndependent_iff_written (p : PointerWidth) (r : Registry) (permitted : Bool)
    (request : RegistryRead) :
    SentIndependent p r permitted request ↔
      (permitted = true → (readRequest p r request).ret ≠ mcDrvErrInvalidOperation →
        (readRequest p r request).size ≤ (readRequest p r request).written.length) := by
  cases permitted with
  | false => simp [SentIndependent, processRegistryReadData]
  | true =>
      rw [← load_store_independent_iff 0]
      by_cases hret : (readRequest p r request).ret = mcDrvErrInvalidOperation
      · simp [SentIndependent, processRegistryReadData, hret]
      · simp [SentIndependent, processRegistryReadData, hret]

theorem length_fread (file : RegistryFile) (size : Nat) :
    (file.fread size).length = min size (min file.readable file.content.length) := by
  rw [RegistryFile.fread, List.length_take, List.length_take]

/-- A container fills the buffer when a byte of it can be read. -/
theorem readContainer_fills {size : Nat} (hsize : 0 < size) (file : Option RegistryFile) :
    (readContainer file size).ret ≠ mcDrvErrInvalidOperation ∧
      ((readContainer file size).size ≤ (readContainer file size).written.length ↔
        HasByte file) := by
  have hfailed : mcDrvErrInvalidDeviceFile ≠ mcDrvErrInvalidOperation := by decide
  cases file with
  | none =>
      refine ⟨hfailed, iff_of_false (Nat.not_le_of_lt hsize) ?_⟩
      rintro ⟨f, hf, -⟩
      cases hf
  | some file =>
      have hbyte : HasByte (some file) ↔ 0 < (file.fread size).length := by
        rw [length_fread, HasByte]
        simp only [Option.mem_some_iff, exists_eq_left', ← List.length_pos_iff]
        omega
      rw [hbyte]
      simp only [readContainer]
      split
      · rename_i hpos
        exact ⟨(by decide : mcDrvOk ≠ mcDrvErrInvalidOperation), iff_of_true le_rfl hpos⟩
      · rename_i hpos
        refine ⟨hfailed, iff_of_false ?_ hpos⟩
        dsimp only
        omega

/-- A token fills its structure when it is as long as it, and can be read. -/
theorem readAuthToken_fills (p : PointerWidth) (r : Registry) :
    (mcRegistryReadAuthToken p r).ret ≠ mcDrvErrInvalidOperation ∧
      ((mcRegistryReadAuthToken p r).size ≤ (mcRegistryReadAuthToken p r).written.length ↔
        HasToken p r.authToken) := by
  have hpos : 0 < mcSoAuthTokenContSize := by decide
  unfold mcRegistryReadAuthToken
  cases r.authToken with
  | none =>
      refine ⟨(by decide : mcDrvErrInvalidDeviceFile ≠ mcDrvErrInvalidOperation),
        iff_of_false (Nat.not_le_of_lt hpos) ?_⟩
      rintro ⟨f, hf, -⟩
      cases hf
  | some file =>
      have htoken : HasToken p (some file) ↔ file.filesize p = mcSoAuthTokenContSize ∧
          (file.fread mcSoAuthTokenContSize).length = mcSoAuthTokenContSize := by
        rw [length_fread, HasToken]
        simp only [Option.mem_some_iff, exists_eq_left']
        omega
      rw [htoken]
      dsimp only
      split
      · rename_i hsize
        refine ⟨(by decide : mcDrvErrOutOfResources ≠ mcDrvErrInvalidOperation),
          iff_of_false (Nat.not_le_of_lt hpos) ?_⟩
        exact fun h => hsize h.1.symm
      · rename_i hsize
        rw [ne_eq, not_not] at hsize
        have hlen := length_fread file mcSoAuthTokenContSize
        split
        · rename_i hshort
          refine ⟨(by decide : mcDrvErrInvalidParameter ≠ mcDrvErrInvalidOperation),
            iff_of_false ?_ fun h => hshort h.2⟩
          dsimp only
          omega
        · rename_i hfull
          rw [ne_eq, not_not] at hfull
          exact ⟨(by decide : mcDrvOk ≠ mcDrvErrInvalidOperation),
            iff_of_true hfull.ge ⟨hsize.symm, hfull⟩⟩

/-- The bytes that a read request sends do not depend on the old contents of the stack if
and only if the permission is refused, the request is cut short, or the file asked for
fills what is sent of the buffer. -/
theorem sentIndependent_iff (p : PointerWidth) (r : Registry) (permitted : Bool)
    (request : RegistryRead) :
    SentIndependent p r permitted request ↔ (permitted = true → FillsBuffer p r request) := by
  rw [sentIndependent_iff_written]
  apply imp_congr_right
  intro _
  have hmax : 0 < maxDataSize := by decide
  cases request with
  | authToken =>
      obtain ⟨hret, hfills⟩ := readAuthToken_fills p r
      exact (forall_prop_of_true hret).trans hfills
  | rootCont =>
      obtain ⟨hret, hfills⟩ := readContainer_fills hmax r.rootCont
      exact (forall_prop_of_true hret).trans hfills
  | spCont spid =>
      cases spid with
      | none => simp [readRequest, FillsBuffer]
      | some spid =>
          obtain ⟨hret, hfills⟩ := readContainer_fills hmax (r.spCont spid)
          simp only [readRequest, mcRegistryReadSp, FillsBuffer]
          split
          · rename_i hzero
            refine iff_of_false ?_ fun h => h.1 hzero
            intro h
            exact absurd (h (by decide)) (Nat.not_le_of_lt hmax)
          · rename_i hzero
            rw [and_iff_right hzero]
            exact (forall_prop_of_true hret).trans hfills
  | tlCont uuid spid =>
      cases uuid with
      | none => simp [readRequest, FillsBuffer]
      | some uuid =>
          cases spid with
          | none => simp [readRequest, FillsBuffer]
          | some spid =>
              obtain ⟨hret, hfills⟩ := readContainer_fills hmax (r.tlCont uuid spid)
              exact (forall_prop_of_true hret).trans hfills

/-- A registry without files. -/
def emptyRegistry : Registry where
  authToken := none
  rootCont := none
  spCont := fun _ => none
  tlCont := fun _ _ => none

/-- Without a root container the answer to a read of it shows the stack. -/
theorem not_sentIndependent :
    ¬ ∀ (p : PointerWidth) (r : Registry) (permitted : Bool) (request : RegistryRead),
      SentIndependent p r permitted request := by
  intro h
  have hindependent := h .bits64 emptyRegistry true .rootCont
  have hsize := (sentIndependent_iff_written _ _ _ _).mp hindependent rfl (by decide)
  exact absurd hsize (by decide)

end Exynos8890.MobiCore
