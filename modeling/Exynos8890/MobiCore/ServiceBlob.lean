import Exynos8890.Library.ByteCursor
import Exynos8890.MobiCore.RegistryRead

/-!
# The service blob of a trustlet

`mcRegistryMemGetServiceBlob` makes the registry object that is handed to the secure world:
a driver or a system trustlet as it is, and a trustlet of a service provider between a block
with lengths and the three containers that belong to it.

Main results:

- Definition `mcRegistryMemGetServiceBlob`: the object, with all that is read and written on
  the way to it.
- Theorem `safe_iff`: when no write leaves the buffer and no trustlet is shorter than its
  header.
- Theorem `assembled_iff`: when the object is the one that the containers call for.
-/

namespace Exynos8890.MobiCore

namespace ServiceBlob

open CStruct

/-! ## Structures -/

/-- `MC_SERVICE_HEADER_MAGIC_BE`. -/
def mcServiceHeaderMagicBe : UInt32 := 0x464C434D

/-- `MC_TLBLOBLEN_MAGIC`. -/
def mcTlBlobLenMagic : UInt32 := 0x7672746C

/-- `MAX_TL_SIZE`. -/
def maxTlSize : UInt32 := 0x100000

/-- `MAX_SO_CONT_SIZE`. -/
def maxSoContSize : Nat := 512

def serviceTypeDriver : UInt32 := 1
def serviceTypeSpTrustlet : UInt32 := 2
def serviceTypeSystemTrustlet : UInt32 := 3

/-- `mcSymmetricKey_t`, of which the secrets of every container consist. -/
def mcSymmetricKey : CType :=
  .struct (List.replicate 8 u32)

/-- `mcRootCont_t`: type, version, attributes, unique id, root id, children, secrets. -/
def mcRootCont : List CType :=
  [u32, u32, u32, .struct [u32, byteArray 12], u32, .struct (List.replicate 16 u32),
    mcSymmetricKey]

/-- `mcSpCont_t`: type, version, attributes, id, children, secrets. -/
def mcSpCont : List CType :=
  [u32, u32, u32, u32, byteArray (16 * uuidLength), mcSymmetricKey]

/-- `mcTltContCommon_t`: type, version, attributes, parent, uuid, secrets. -/
def mcTltContCommon : List CType :=
  [u32, u32, u32, u32, mcUuid, mcSymmetricKey]

/-- `mcTltCont_2_0_t`. -/
def mcTltCont20 : List CType :=
  [.struct mcTltContCommon]

/-- `mcTltCont_2_1_t`: a key and a version more. -/
def mcTltCont21 : List CType :=
  [.struct mcTltContCommon, byteArray 32, u32]

/-- The size of a container in a secure object. -/
def soContainerSize (cont : List CType) : Nat :=
  CStruct.sizeOf [.struct mcSoHeader, .struct cont,
    byteArray (soContHashAndPadSize (CStruct.sizeOf cont) mcSymmetricKey.size)]

/-- `sizeof(mcSoRootCont_t)`. -/
def mcSoRootContSize : Nat := soContainerSize mcRootCont

/-- `sizeof(mcSoSpCont_t)`. -/
def mcSoSpContSize : Nat := soContainerSize mcSpCont

/-- `sizeof(mcSoTltCont_2_0_t)`. -/
def mcSoTltCont20Size : Nat := soContainerSize mcTltCont20

/-- `sizeof(mcSoTltCont_2_1_t)`. -/
def mcSoTltCont21Size : Nat := soContainerSize mcTltCont21

example : [mcSoRootContSize, mcSoSpContSize, mcSoTltCont20Size, mcSoTltCont21Size] =
    [220, 396, 156, 192] := by
  decide

/-- `mcBlobLenInfo_t`: magic, three sizes, four reserved words. -/
def mcBlobLenInfo : List CType :=
  [u32, u32, u32, u32, .struct (List.replicate 4 u32)]

/-- `sizeof(mcBlobLenInfo_t)`. -/
def mcBlobLenInfoSize : Nat := CStruct.sizeOf mcBlobLenInfo

theorem mcBlobLenInfoSize_eq : mcBlobLenInfoSize = 32 := by
  decide

/-- `regObject_t`, and the memory at its `value`. -/
structure RegObject where
  len : UInt32
  tlStartOffset : Nat
  value : Memory

/-- The bytes of the object. -/
def RegObject.bytes (obj : RegObject) : List UInt8 :=
  load ⟨0, obj.len.toNat⟩ obj.value

/-- `sizeof(regObject_t)`. -/
def regObjectSize : Nat := CStruct.sizeOf [u32, u32]

/-- A value of type `size_t`. -/
def sizeT (p : PointerWidth) (n : Nat) : Nat :=
  n % 256 ^ p.word.size

/-! ## The function -/

/-- A call of the function: the provider, the memory at `trustlet` if it is not null, the
size, whether `malloc` finds memory, and what is in it. -/
structure BlobRequest where
  spid : UInt32
  trustlet : Option Memory
  tlSize : UInt32
  allocated : Bool
  heap : Memory

/-- What a call does: the object it returns, the regions of the trustlet that it uses, the
size of the buffer it has allocated and the regions it writes there, and the lengths it
computes, each with its value without a wrap-around. -/
structure BlobRun where
  object : Option RegObject
  uses : List Region
  capacity : Nat
  writes : List Region
  lengths : List (Nat × Nat)

/-- The call returns without a buffer. -/
def noObject (uses : List Region) : BlobRun where
  object := none
  uses := uses
  capacity := 0
  writes := []
  lengths := []

/-- `pIntro->magic`. -/
def magicRegion (p : PointerWidth) : Region :=
  ⟨(member (mclfHeaderV2 p) 0).off, u32.size⟩

/-- The header, which is used once the magic value was found. -/
def headerRegion (p : PointerWidth) : Region :=
  ⟨0, CStruct.sizeOf (mclfHeaderV2 p)⟩

/-- `pHeader->serviceType`. -/
def serviceType (p : PointerWidth) (trustlet : Memory) : UInt32 :=
  u32At trustlet (member (mclfHeaderV2 p) 3).off

/-- `pHeader->uuid`. -/
def headerUuid (p : PointerWidth) (trustlet : Memory) : List UInt8 :=
  load (member (mclfHeaderV2 p) 5) trustlet

/-- Set a word of the length information. -/
def setLenInfo (i : Nat) (n : Nat) (c : ByteCursor) : ByteCursor :=
  c.setAt (member mcBlobLenInfo i).off (littleEndian u32.size n)

/-- `soTltContSize`: the space that is said to be left for the trustlet container. -/
def soTltContSpace (valueSize tlSize spSize rootSize : Nat) : UInt32 :=
  UInt32.ofNat valueSize - UInt32.ofNat tlSize + UInt32.ofNat mcBlobLenInfoSize -
    UInt32.ofNat spSize - UInt32.ofNat rootSize

/-- What the containers leave: the result, the buffer, and the space left for the last one if
it was computed. -/
structure ContainersRun where
  ret : McResult
  cursor : ByteCursor
  lengths : List (Nat × Nat)

/-- The containers, behind the trustlet.  The switch on the size of the trustlet container
leaves the loop in its last branch, as it does in the others. -/
def appendContainers (r : Registry) (spid : UInt32) (uuid : List UInt8) (valueSize tlSize : Nat)
    (c : ByteCursor) : ContainersRun :=
  let root := mcRegistryReadRoot r mcSoRootContSize
  let c := c.write root.written
  if root.ret ≠ mcDrvOk then ⟨root.ret, c, []⟩
  else
    let c := (setLenInfo 1 root.size c).advance root.size
    let sp := mcRegistryReadSp r spid mcSoSpContSize
    let c := c.write sp.written
    if sp.ret ≠ mcDrvOk then ⟨sp.ret, c, []⟩
    else
      let c := (setLenInfo 2 sp.size c).advance sp.size
      let space := soTltContSpace valueSize tlSize sp.size root.size
      let lengths := [(space.toNat,
        valueSize - tlSize + mcBlobLenInfoSize - sp.size - root.size)]
      let tlt := mcRegistryReadTrustletCon r uuid spid space.toNat
      let c := c.write tlt.written
      if tlt.ret ≠ mcDrvOk then ⟨tlt.ret, c, lengths⟩
      else ⟨mcDrvOk, (setLenInfo 3 tlt.size c).advance tlt.size, lengths⟩

/-- The object of a trustlet of a service provider. -/
def spTrustletBlob (p : PointerWidth) (r : Registry) (request : BlobRequest) (trustlet : Memory)
    (uses : List Region) : BlobRun :=
  let tlSize := request.tlSize.toNat
  let exactSize := tlSize + mcBlobLenInfoSize + 3 * maxSoContSize
  let valueSize := sizeT p exactSize
  let blockSize := sizeT p (regObjectSize + valueSize)
  let lengths := [(valueSize, exactSize), (blockSize, regObjectSize + exactSize)]
  if request.allocated = false then { noObject uses with lengths := lengths }
  else
    let c := (setLenInfo 0 mcTlBlobLenMagic.toNat (ByteCursor.start request.heap)).advance
      mcBlobLenInfoSize
    let c := (c.write (load ⟨0, tlSize⟩ trustlet)).advance tlSize
    let run := appendContainers r request.spid (headerUuid p trustlet) valueSize tlSize c
    { object :=
        if run.ret ≠ mcDrvOk then none
        else
          some
            { len := UInt32.ofNat run.cursor.pos
              tlStartOffset := mcBlobLenInfoSize
              value := run.cursor.memory }
      uses := uses ++ [⟨0, tlSize⟩]
      capacity := blockSize - regObjectSize
      writes := run.cursor.writes
      lengths := lengths ++ run.lengths ++
        [((UInt32.ofNat run.cursor.pos).toNat, run.cursor.pos)] }

/-- The object of a driver or of a system trustlet. -/
def plainBlob (p : PointerWidth) (request : BlobRequest) (trustlet : Memory)
    (uses : List Region) : BlobRun :=
  let tlSize := request.tlSize.toNat
  let blockSize := sizeT p (regObjectSize + tlSize)
  let lengths := [(blockSize, regObjectSize + tlSize)]
  if request.allocated = false then { noObject uses with lengths := lengths }
  else
    let c := (ByteCursor.start request.heap).write (load ⟨0, tlSize⟩ trustlet)
    { object := some { len := request.tlSize, tlStartOffset := 0, value := c.memory }
      uses := uses ++ [⟨0, tlSize⟩]
      capacity := blockSize - regObjectSize
      writes := c.writes
      lengths := lengths }

/-- `mcRegistryMemGetServiceBlob`. -/
def mcRegistryMemGetServiceBlob (p : PointerWidth) (r : Registry) (request : BlobRequest) :
    BlobRun :=
  match request.trustlet with
  | none => noObject []
  | some trustlet =>
      if request.tlSize > maxTlSize then noObject []
      else if u32At trustlet (magicRegion p).off ≠ mcServiceHeaderMagicBe then
        noObject [magicRegion p]
      else
        let uses := [magicRegion p, headerRegion p]
        if serviceType p trustlet = serviceTypeDriver ∨
            serviceType p trustlet = serviceTypeSystemTrustlet then
          plainBlob p request trustlet uses
        else if serviceType p trustlet = serviceTypeSpTrustlet then
          spTrustletBlob p r request trustlet uses
        else noObject uses

/-! ## The containers -/

/-- How many bytes of a file can be read. -/
def readableLength : Option RegistryFile → Nat
  | none => 0
  | some file => min file.readable file.content.length

theorem readContainer_spec {size : Nat} (hsize : 0 < size) (file : Option RegistryFile) :
    (readContainer file size).written.length = min size (readableLength file) ∧
      ((readContainer file size).ret = mcDrvOk ↔ 0 < readableLength file) ∧
      ((readContainer file size).ret = mcDrvOk →
        (readContainer file size).size = (readContainer file size).written.length) := by
  cases file with
  | none =>
      refine ⟨?_, ?_, ?_⟩
      · simp [readContainer, readableLength]
      · exact iff_of_false (by decide : mcDrvErrInvalidDeviceFile ≠ mcDrvOk) (Nat.lt_irrefl 0)
      · exact fun h => absurd h (by decide : mcDrvErrInvalidDeviceFile ≠ mcDrvOk)
  | some file =>
      have hlength := length_fread file size
      simp only [readContainer, readableLength]
      split
      · next hpos =>
          refine ⟨hlength, iff_of_true rfl ?_, fun _ => rfl⟩
          omega
      · next hpos =>
          refine ⟨hlength, iff_of_false (by decide : mcDrvErrInvalidDeviceFile ≠ mcDrvOk) ?_, ?_⟩
          · omega
          · exact fun h => absurd h (by decide : mcDrvErrInvalidDeviceFile ≠ mcDrvOk)

/-- The bytes that are taken of the root container. -/
def rootLength (r : Registry) : Nat :=
  min mcSoRootContSize (readableLength r.rootCont)

/-- The bytes that are taken of the container of a provider; there is none for provider 0. -/
def spLength (r : Registry) (spid : UInt32) : Nat :=
  if spid = 0 then 0 else min mcSoSpContSize (readableLength (r.spCont spid))

theorem readRoot_spec (r : Registry) :
    (mcRegistryReadRoot r mcSoRootContSize).written.length = rootLength r ∧
      ((mcRegistryReadRoot r mcSoRootContSize).ret = mcDrvOk ↔ 0 < rootLength r) ∧
      ((mcRegistryReadRoot r mcSoRootContSize).ret = mcDrvOk →
        (mcRegistryReadRoot r mcSoRootContSize).size = rootLength r) := by
  have hsize : 0 < mcSoRootContSize := by decide
  obtain ⟨hlength, hret, hok⟩ := readContainer_spec hsize r.rootCont
  refine ⟨hlength, hret.trans ?_, fun h => (hok h).trans hlength⟩
  unfold rootLength
  omega

theorem readSp_spec (r : Registry) (spid : UInt32) :
    (mcRegistryReadSp r spid mcSoSpContSize).written.length = spLength r spid ∧
      ((mcRegistryReadSp r spid mcSoSpContSize).ret = mcDrvOk ↔ 0 < spLength r spid) ∧
      ((mcRegistryReadSp r spid mcSoSpContSize).ret = mcDrvOk →
        (mcRegistryReadSp r spid mcSoSpContSize).size = spLength r spid) := by
  have hsize : 0 < mcSoSpContSize := by decide
  unfold mcRegistryReadSp spLength
  split
  · refine ⟨rfl, iff_of_false (by decide : mcDrvErrInvalidParameter ≠ mcDrvOk) (Nat.lt_irrefl 0), ?_⟩
    exact fun h => absurd h (by decide : mcDrvErrInvalidParameter ≠ mcDrvOk)
  · obtain ⟨hlength, hret, hok⟩ := readContainer_spec hsize (r.spCont spid)
    refine ⟨hlength, hret.trans ?_, fun h => (hok h).trans hlength⟩
    omega

theorem rootLength_le (r : Registry) : rootLength r ≤ 220 :=
  min_le_left _ _

theorem spLength_le (r : Registry) (spid : UInt32) : spLength r spid ≤ 396 := by
  unfold spLength
  split
  · decide
  · exact min_le_left _ _

/-- The space that is said to be left: the sum subtracts the size of the trustlet and adds the
size of the length information. -/
theorem soTltContSpace_eq (tlSize : Nat) {sp root : Nat} (hsp : sp ≤ 396) (hroot : root ≤ 220) :
    (soTltContSpace (tlSize + mcBlobLenInfoSize + 3 * maxSoContSize) tlSize sp root).toNat =
      1600 - sp - root := by
  rw [soTltContSpace, mcBlobLenInfoSize_eq, maxSoContSize]
  simp only [UInt32.toNat_sub, UInt32.toNat_add, UInt32.toNat_ofNat']
  omega

/-- The bytes of the trustlet container that are read into the space that is said to be left. -/
def tltLength (r : Registry) (uuid : List UInt8) (spid : UInt32) : Nat :=
  min (1600 - spLength r spid - rootLength r) (readableLength (r.tlCont uuid spid))

section Append

variable {r : Registry} {spid : UInt32} {uuid : List UInt8} {tlSize : Nat} {c : ByteCursor}

/-- The size of the buffer for a trustlet of this size. -/
def blobValueSize (tlSize : Nat) : Nat :=
  tlSize + mcBlobLenInfoSize + 3 * maxSoContSize

theorem inside_setLenInfo {size i n : Nat} (hi : i < 4) (hsize : mcBlobLenInfoSize ≤ size) :
    (setLenInfo i n c).Inside size ↔ c.Inside size := by
  have hoff : ∀ i < 4, (member mcBlobLenInfo i).off + u32.size ≤ 32 := by decide
  have hle := hoff i hi
  rw [mcBlobLenInfoSize_eq] at hsize
  rw [setLenInfo, ByteCursor.inside_setAt, length_littleEndian]
  exact and_iff_left (by omega)

/-- What is read of the root container. -/
def rootBytes (r : Registry) : List UInt8 :=
  (mcRegistryReadRoot r mcSoRootContSize).written

/-- What is read of the container of the provider. -/
def spBytes (r : Registry) (spid : UInt32) : List UInt8 :=
  (mcRegistryReadSp r spid mcSoSpContSize).written

/-- What is read of the trustlet container. -/
def tltBytes (r : Registry) (uuid : List UInt8) (spid : UInt32) : List UInt8 :=
  (mcRegistryReadTrustletCon r uuid spid (1600 - spLength r spid - rootLength r)).written

theorem length_rootBytes : (rootBytes r).length = rootLength r :=
  (readRoot_spec r).1

theorem length_spBytes : (spBytes r spid).length = spLength r spid :=
  (readSp_spec r spid).1

theorem readTlt_spec (r : Registry) (uuid : List UInt8) (spid : UInt32) :
    let tlt := mcRegistryReadTrustletCon r uuid spid (1600 - spLength r spid - rootLength r)
    tlt.written.length = tltLength r uuid spid ∧
      (tlt.ret = mcDrvOk ↔ 0 < tltLength r uuid spid) ∧
      (tlt.ret = mcDrvOk → tlt.size = tltLength r uuid spid) := by
  have hrootLe := rootLength_le r
  have hspLe := spLength_le r spid
  have hpos : 0 < 1600 - spLength r spid - rootLength r := by omega
  obtain ⟨hlength, hret, hok⟩ := readContainer_spec hpos (r.tlCont uuid spid)
  refine ⟨hlength, hret.trans ?_, fun h => (hok h).trans hlength⟩
  unfold tltLength
  omega

theorem length_tltBytes : (tltBytes r uuid spid).length = tltLength r uuid spid :=
  (readTlt_spec r uuid spid).1

/-- The buffer behind the root container. -/
def rootCursor (r : Registry) (c : ByteCursor) : ByteCursor :=
  (setLenInfo 1 (rootLength r) (c.write (rootBytes r))).advance (rootLength r)

/-- The buffer behind the container of the provider. -/
def spCursor (r : Registry) (spid : UInt32) (c : ByteCursor) : ByteCursor :=
  (setLenInfo 2 (spLength r spid) ((rootCursor r c).write (spBytes r spid))).advance
    (spLength r spid)

/-- The buffer behind the trustlet container. -/
def tltCursor (r : Registry) (uuid : List UInt8) (spid : UInt32) (c : ByteCursor) : ByteCursor :=
  (setLenInfo 3 (tltLength r uuid spid) ((spCursor r spid c).write (tltBytes r uuid spid))).advance
    (tltLength r uuid spid)

/-- The loop ends at a container that cannot be read, or behind the last one. -/
inductive Appends (r : Registry) (spid : UInt32) (uuid : List UInt8) (tlSize : Nat)
    (c : ByteCursor) (run : ContainersRun) : Prop
  | noRoot (hroot : rootLength r = 0) (hret : run.ret ≠ mcDrvOk)
      (hcursor : run.cursor = c.write (rootBytes r)) (hlengths : run.lengths = [])
  | noSp (hroot : 0 < rootLength r) (hsp : spLength r spid = 0) (hret : run.ret ≠ mcDrvOk)
      (hcursor : run.cursor = (rootCursor r c).write (spBytes r spid))
      (hlengths : run.lengths = [])
  | noTlt (hroot : 0 < rootLength r) (hsp : 0 < spLength r spid)
      (htlt : tltLength r uuid spid = 0) (hret : run.ret ≠ mcDrvOk)
      (hcursor : run.cursor = (spCursor r spid c).write (tltBytes r uuid spid))
      (hlengths : ∀ pair ∈ run.lengths, pair.1 = pair.2)
  | all (hroot : 0 < rootLength r) (hsp : 0 < spLength r spid)
      (htlt : 0 < tltLength r uuid spid) (hret : run.ret = mcDrvOk)
      (hcursor : run.cursor = tltCursor r uuid spid c)
      (hlengths : ∀ pair ∈ run.lengths, pair.1 = pair.2)

theorem appendContainers_spec (r : Registry) (spid : UInt32) (uuid : List UInt8) (tlSize : Nat)
    (c : ByteCursor) :
    Appends r spid uuid tlSize c
      (appendContainers r spid uuid (blobValueSize tlSize) tlSize c) := by
  obtain ⟨_, hrootRet, hrootSize⟩ := readRoot_spec r
  obtain ⟨_, hspRet, hspSize⟩ := readSp_spec r spid
  obtain ⟨_, htltRet, htltSize⟩ := readTlt_spec r uuid spid
  by_cases hroot : (mcRegistryReadRoot r mcSoRootContSize).ret = mcDrvOk
  · have hrootPos := hrootRet.mp hroot
    have hrootEq := hrootSize hroot
    by_cases hsp : (mcRegistryReadSp r spid mcSoSpContSize).ret = mcDrvOk
    · have hspPos := hspRet.mp hsp
      have hspEq := hspSize hsp
      have hspace := soTltContSpace_eq tlSize (spLength_le r spid) (rootLength_le r)
      have hlengths : ∀ pair ∈ [(1600 - spLength r spid - rootLength r,
          blobValueSize tlSize - tlSize + mcBlobLenInfoSize - spLength r spid - rootLength r)],
            pair.1 = pair.2 := by
        intro pair hpair
        rw [List.mem_singleton.mp hpair, blobValueSize, mcBlobLenInfoSize_eq, maxSoContSize]
        show 1600 - _ - _ = _
        omega
      by_cases htlt : (mcRegistryReadTrustletCon r uuid spid
          (1600 - spLength r spid - rootLength r)).ret = mcDrvOk
      · have htltPos := htltRet.mp htlt
        have htltEq := htltSize htlt
        apply Appends.all hrootPos hspPos htltPos
        · simp [appendContainers, hroot, hsp, hrootEq, hspEq, blobValueSize, hspace, htlt]
        · simp [appendContainers, hroot, hsp, hrootEq, hspEq, blobValueSize, hspace, htlt, htltEq,
            tltCursor, spCursor, rootCursor, rootBytes, spBytes, tltBytes]
        · simpa [appendContainers, hroot, hsp, hrootEq, hspEq, blobValueSize, hspace, htlt]
            using hlengths
      · apply Appends.noTlt hrootPos hspPos
        · by_contra hne
          exact htlt (htltRet.mpr (Nat.pos_of_ne_zero hne))
        · simp [appendContainers, hroot, hsp, hrootEq, hspEq, blobValueSize, hspace, htlt]
        · simp [appendContainers, hroot, hsp, hrootEq, hspEq, blobValueSize, hspace, htlt,
            spCursor, rootCursor, rootBytes, spBytes, tltBytes]
        · simpa [appendContainers, hroot, hsp, hrootEq, hspEq, blobValueSize, hspace, htlt]
            using hlengths
    · apply Appends.noSp hrootPos
      · by_contra hne
        exact hsp (hspRet.mpr (Nat.pos_of_ne_zero hne))
      · simp [appendContainers, hroot, hsp]
      · simp [appendContainers, hroot, hsp, hrootEq, rootCursor, rootBytes, spBytes]
      · simp [appendContainers, hroot, hsp]
  · apply Appends.noRoot
    · by_contra hne
      exact hroot (hrootRet.mpr (Nat.pos_of_ne_zero hne))
    · simp [appendContainers, hroot]
    · simp [appendContainers, hroot, rootBytes]
    · simp [appendContainers, hroot]

end Append

/-! ## Writing inside the buffer -/

section Inside

variable {r : Registry} {spid : UInt32} {uuid : List UInt8} {tlSize : Nat} {c : ByteCursor}

@[simp]
theorem setLenInfo_pos (i n : Nat) (c : ByteCursor) : (setLenInfo i n c).pos = c.pos :=
  rfl

theorem rootCursor_pos : (rootCursor r c).pos = c.pos + rootLength r :=
  rfl

theorem spCursor_pos : (spCursor r spid c).pos = c.pos + rootLength r + spLength r spid :=
  rfl

theorem tltCursor_pos :
    (tltCursor r uuid spid c).pos =
      c.pos + rootLength r + spLength r spid + tltLength r uuid spid :=
  rfl

/-- What the containers write stays inside the buffer when the last one does. -/
theorem inside_appendContainers (hc : c.Inside (blobValueSize tlSize))
    (hpos : c.pos = mcBlobLenInfoSize + tlSize) :
    (appendContainers r spid uuid (blobValueSize tlSize) tlSize c).cursor.Inside
        (blobValueSize tlSize) ↔
      (0 < rootLength r → 0 < spLength r spid →
        rootLength r + spLength r spid + tltLength r uuid spid ≤ 3 * maxSoContSize) := by
  have hrootLe := rootLength_le r
  have hspLe := spLength_le r spid
  have hlen : mcBlobLenInfoSize ≤ blobValueSize tlSize := by
    rw [blobValueSize]
    omega
  have hroot : (rootCursor r c).Inside (blobValueSize tlSize) := by
    rw [rootCursor, ByteCursor.inside_advance, inside_setLenInfo (by decide) hlen,
      ByteCursor.inside_write, length_rootBytes]
    refine ⟨hc, ?_⟩
    rw [hpos, blobValueSize, maxSoContSize]
    omega
  have hspWrite : ((rootCursor r c).write (spBytes r spid)).Inside (blobValueSize tlSize) := by
    rw [ByteCursor.inside_write, length_spBytes, rootCursor_pos]
    refine ⟨hroot, ?_⟩
    rw [hpos, blobValueSize, maxSoContSize]
    omega
  have hsp : (spCursor r spid c).Inside (blobValueSize tlSize) := by
    rw [spCursor, ByteCursor.inside_advance, inside_setLenInfo (by decide) hlen]
    exact hspWrite
  have htlt : ((spCursor r spid c).write (tltBytes r uuid spid)).Inside (blobValueSize tlSize) ↔
      rootLength r + spLength r spid + tltLength r uuid spid ≤ 3 * maxSoContSize := by
    rw [ByteCursor.inside_write, length_tltBytes, spCursor_pos, hpos, and_iff_right hsp,
      blobValueSize]
    omega
  cases appendContainers_spec r spid uuid tlSize c with
  | noRoot hzero hret hcursor hlengths =>
      rw [hcursor]
      apply iff_of_true _ fun h => absurd h (by omega)
      rw [ByteCursor.inside_write, length_rootBytes, hzero, hpos, blobValueSize]
      exact ⟨hc, by omega⟩
  | noSp hrootPos hzero hret hcursor hlengths =>
      rw [hcursor]
      exact iff_of_true hspWrite fun _ h => absurd h (by omega)
  | noTlt hrootPos hspPos hzero hret hcursor hlengths =>
      rw [hcursor, htlt]
      exact ⟨fun h _ _ => h, fun h => h hrootPos hspPos⟩
  | all hrootPos hspPos htltPos hret hcursor hlengths =>
      rw [hcursor, tltCursor, ByteCursor.inside_advance, inside_setLenInfo (by decide) hlen, htlt]
      exact ⟨fun h _ _ => h, fun h => h hrootPos hspPos⟩

end Inside

/-! ## Safety -/

/-- Every byte written lies in the buffer, every byte of the trustlet that is used lies in it,
and no length wraps around. -/
structure Safe (tlSize : Nat) (run : BlobRun) : Prop where
  writes : ∀ w ∈ run.writes, w.off + w.size ≤ run.capacity
  uses : ∀ u ∈ run.uses, u.off + u.size ≤ tlSize
  lengths : ∀ pair ∈ run.lengths, pair.1 = pair.2

/-- The three containers fit behind the trustlet, if they are read. -/
def ContainersFit (r : Registry) (spid : UInt32) (uuid : List UInt8) : Prop :=
  0 < rootLength r → 0 < spLength r spid →
    rootLength r + spLength r spid + readableLength (r.tlCont uuid spid) ≤ 3 * maxSoContSize

/-- A trustlet that is not refused for its size has a magic value; one with the right value has
a header, and the containers fit behind it if it belongs to a provider. -/
def Fits (p : PointerWidth) (r : Registry) (request : BlobRequest) : Prop :=
  ∀ trustlet ∈ request.trustlet, request.tlSize ≤ maxTlSize →
    u32.size ≤ request.tlSize.toNat ∧
    (u32At trustlet (magicRegion p).off = mcServiceHeaderMagicBe →
      CStruct.sizeOf (mclfHeaderV2 p) ≤ request.tlSize.toNat ∧
      (serviceType p trustlet = serviceTypeSpTrustlet → request.allocated = true →
        ContainersFit r request.spid (headerUuid p trustlet)))

/-- The space that is said to be left is more than what is left: all of a container that does
not fit is written, or more than fits. -/
theorem containersFit_iff {r : Registry} {spid : UInt32} {uuid : List UInt8} :
    ContainersFit r spid uuid ↔
      (0 < rootLength r → 0 < spLength r spid →
        rootLength r + spLength r spid + tltLength r uuid spid ≤ 3 * maxSoContSize) := by
  have hrootLe := rootLength_le r
  have hspLe := spLength_le r spid
  apply imp_congr_right
  intro _
  apply imp_congr_right
  intro _
  rw [tltLength, maxSoContSize]
  omega

/-- Sizes up to that of the largest trustlet do not wrap. -/
theorem sizeT_eq (p : PointerWidth) {n : Nat} (h : n < 0x1000000) : sizeT p n = n := by
  cases p with
  | bits32 => exact Nat.mod_eq_of_lt (lt_trans h (by decide))
  | bits64 => exact Nat.mod_eq_of_lt (lt_trans h (by decide))

section Safety

variable {p : PointerWidth} {r : Registry} {request : BlobRequest} {trustlet : Memory}

/-- The cursor behind the trustlet. -/
def trustletCursor (request : BlobRequest) (trustlet : Memory) : ByteCursor :=
  (((setLenInfo 0 mcTlBlobLenMagic.toNat (ByteCursor.start request.heap)).advance
    mcBlobLenInfoSize).write (load ⟨0, request.tlSize.toNat⟩ trustlet)).advance
      request.tlSize.toNat

theorem trustletCursor_pos :
    (trustletCursor request trustlet).pos = mcBlobLenInfoSize + request.tlSize.toNat := by
  simp [trustletCursor]

theorem inside_trustletCursor :
    (trustletCursor request trustlet).Inside (blobValueSize request.tlSize.toNat) := by
  have hlen : mcBlobLenInfoSize ≤ blobValueSize request.tlSize.toNat := by
    rw [blobValueSize]
    omega
  rw [trustletCursor, ByteCursor.inside_advance, ByteCursor.inside_write,
    ByteCursor.inside_advance, inside_setLenInfo (by decide) hlen, length_load]
  refine ⟨ByteCursor.inside_start _ _, ?_⟩
  simp only [ByteCursor.advance_pos, setLenInfo_pos, ByteCursor.start_pos, blobValueSize]
  omega

theorem appendContainers_pos_le (r : Registry) (spid : UInt32) (tlSize : Nat) (uuid : List UInt8)
    (c : ByteCursor) :
    (appendContainers r spid uuid (blobValueSize tlSize) tlSize c).cursor.pos ≤ c.pos + 2216 := by
  have hrootLe := rootLength_le r
  have hspLe := spLength_le r spid
  have htltLe : tltLength r uuid spid ≤ 1600 := by
    unfold tltLength
    omega
  cases appendContainers_spec r spid uuid tlSize c with
  | noRoot hzero hret hcursor hlengths =>
      rw [hcursor, ByteCursor.write_pos]
      omega
  | noSp hrootPos hzero hret hcursor hlengths =>
      rw [hcursor, ByteCursor.write_pos, rootCursor_pos]
      omega
  | noTlt hrootPos hspPos hzero hret hcursor hlengths =>
      rw [hcursor, ByteCursor.write_pos, spCursor_pos]
      omega
  | all hrootPos hspPos htltPos hret hcursor hlengths =>
      rw [hcursor, tltCursor_pos]
      omega

theorem appendContainers_lengths (r : Registry) (spid : UInt32) (tlSize : Nat)
    (uuid : List UInt8) (c : ByteCursor) :
    ∀ pair ∈ (appendContainers r spid uuid (blobValueSize tlSize) tlSize c).lengths,
      pair.1 = pair.2 := by
  cases appendContainers_spec r spid uuid tlSize c with
  | noRoot hzero hret hcursor hlengths =>
      rw [hlengths]
      exact fun pair h => absurd h List.not_mem_nil
  | noSp hrootPos hzero hret hcursor hlengths =>
      rw [hlengths]
      exact fun pair h => absurd h List.not_mem_nil
  | noTlt hrootPos hspPos hzero hret hcursor hlengths => exact hlengths
  | all hrootPos hspPos htltPos hret hcursor hlengths => exact hlengths

/-- Magic value and header lie in a trustlet that is as long as a header. -/
theorem header_inside {tlSize : Nat} (h : CStruct.sizeOf (mclfHeaderV2 p) ≤ tlSize) :
    ∀ u ∈ [magicRegion p, headerRegion p], u.off + u.size ≤ tlSize := by
  have hmagic : (magicRegion p).off + (magicRegion p).size ≤ CStruct.sizeOf (mclfHeaderV2 p) := by
    cases p <;> decide
  intro u hu
  rcases List.mem_cons.mp hu with rfl | hheader
  · exact le_trans hmagic h
  · rw [List.mem_singleton.mp hheader]
    simpa [headerRegion] using h

/-- All that is used of a trustlet that is copied lies in it. -/
theorem uses_inside {tlSize : Nat} (h : CStruct.sizeOf (mclfHeaderV2 p) ≤ tlSize) :
    ∀ u ∈ [magicRegion p, headerRegion p] ++ [⟨0, tlSize⟩], u.off + u.size ≤ tlSize := by
  intro u hu
  rcases List.mem_append.mp hu with hfixed | hcopied
  · exact header_inside h u hfixed
  · rw [List.mem_singleton.mp hcopied]
    exact le_of_eq (Nat.zero_add _)

theorem safe_plainBlob (hmax : request.tlSize.toNat ≤ 0x100000) :
    Safe request.tlSize.toNat (plainBlob p request trustlet [magicRegion p, headerRegion p]) ↔
      CStruct.sizeOf (mclfHeaderV2 p) ≤ request.tlSize.toNat := by
  have hblock : sizeT p (regObjectSize + request.tlSize.toNat) =
      regObjectSize + request.tlSize.toNat := by
    apply sizeT_eq
    have hobj : regObjectSize = 8 := by decide
    omega
  constructor
  · intro hsafe
    have huse := hsafe.uses (headerRegion p) (by
      unfold plainBlob
      split <;> simp [noObject])
    simpa [headerRegion] using huse
  · intro hheader
    unfold plainBlob
    split
    · constructor
      · exact fun w hw => absurd hw List.not_mem_nil
      · exact header_inside hheader
      · intro pair hpair
        rw [List.mem_singleton.mp hpair]
        exact hblock
    · constructor
      · intro w hw
        simp only [ByteCursor.write_writes, ByteCursor.start_writes, List.nil_append,
          List.mem_singleton, length_load] at hw
        rw [hw]
        simp only [hblock, ByteCursor.start_pos]
        omega
      · exact uses_inside hheader
      · intro pair hpair
        rw [List.mem_singleton.mp hpair]
        exact hblock

theorem safe_spTrustletBlob (hmax : request.tlSize.toNat ≤ 0x100000) :
    Safe request.tlSize.toNat
        (spTrustletBlob p r request trustlet [magicRegion p, headerRegion p]) ↔
      CStruct.sizeOf (mclfHeaderV2 p) ≤ request.tlSize.toNat ∧
        (request.allocated = true → ContainersFit r request.spid (headerUuid p trustlet)) := by
  have hobj : regObjectSize = 8 := by decide
  have hinfo := mcBlobLenInfoSize_eq
  have hexact : request.tlSize.toNat + mcBlobLenInfoSize + 3 * maxSoContSize =
      blobValueSize request.tlSize.toNat := rfl
  have hvalue : sizeT p (blobValueSize request.tlSize.toNat) =
      blobValueSize request.tlSize.toNat := by
    apply sizeT_eq
    rw [blobValueSize, maxSoContSize]
    omega
  have hblock : sizeT p (regObjectSize + blobValueSize request.tlSize.toNat) =
      regObjectSize + blobValueSize request.tlSize.toNat := by
    apply sizeT_eq
    rw [blobValueSize, maxSoContSize]
    omega
  have hsizes : ∀ pair ∈ [(blobValueSize request.tlSize.toNat, blobValueSize request.tlSize.toNat),
      (regObjectSize + blobValueSize request.tlSize.toNat,
        regObjectSize + blobValueSize request.tlSize.toNat)], pair.1 = pair.2 := by
    intro pair hpair
    rcases List.mem_cons.mp hpair with rfl | hpair
    · rfl
    · rw [List.mem_singleton.mp hpair]
  unfold spTrustletBlob
  simp only [hexact, hvalue, hblock]
  split
  · next hnone =>
      rw [hnone]
      simp only [Bool.false_eq_true, false_implies, and_true]
      constructor
      · intro hsafe
        have huse := hsafe.uses (headerRegion p) (by simp [noObject])
        simpa [headerRegion] using huse
      · intro hheader
        constructor
        · exact fun w hw => absurd hw List.not_mem_nil
        · exact header_inside hheader
        · exact hsizes
  · next hallocated =>
      rw [Bool.not_eq_false] at hallocated
      have hinside : (appendContainers r request.spid (headerUuid p trustlet)
          (blobValueSize request.tlSize.toNat) request.tlSize.toNat
          (trustletCursor request trustlet)).cursor.Inside (blobValueSize request.tlSize.toNat) ↔
            ContainersFit r request.spid (headerUuid p trustlet) :=
        (inside_appendContainers inside_trustletCursor trustletCursor_pos).trans
          containersFit_iff.symm
      have hcapacity : regObjectSize + blobValueSize request.tlSize.toNat - regObjectSize =
          blobValueSize request.tlSize.toNat := by omega
      constructor
      · intro hsafe
        have huse := hsafe.uses (headerRegion p) (by simp)
        refine ⟨by simpa [headerRegion] using huse, fun _ => hinside.mp ?_⟩
        intro w hw
        have hwrite := hsafe.writes w hw
        rwa [hcapacity] at hwrite
      · rintro ⟨hheader, hfit⟩
        constructor
        · intro w hw
          rw [hcapacity]
          exact hinside.mpr (hfit hallocated) w hw
        · exact uses_inside hheader
        · intro pair hpair
          rcases List.mem_append.mp hpair with hpair | hlast
          · rcases List.mem_append.mp hpair with hfirst | hcontainers
            · exact hsizes pair hfirst
            · exact appendContainers_lengths _ _ _ _ _ pair hcontainers
          · rw [List.mem_singleton.mp hlast]
            have hpos := appendContainers_pos_le r request.spid request.tlSize.toNat
              (headerUuid p trustlet) (trustletCursor request trustlet)
            rw [trustletCursor_pos] at hpos
            apply UInt32.toNat_ofNat_of_lt'
            exact lt_of_le_of_lt hpos (by simp only [UInt32.size]; omega)

/-- When no write leaves the buffer, no length wraps, and no trustlet is used that is shorter
than its header. -/
theorem safe_iff (p : PointerWidth) (r : Registry) (request : BlobRequest) :
    Safe request.tlSize.toNat (mcRegistryMemGetServiceBlob p r request) ↔ Fits p r request := by
  have hoff : (magicRegion p).off = 0 := by
    cases p <;> decide
  have hnothing : ∀ uses, (∀ u ∈ uses, Region.off u + u.size ≤ request.tlSize.toNat) ↔
      Safe request.tlSize.toNat (noObject uses) := by
    intro uses
    constructor
    · intro huses
      exact ⟨fun w hw => absurd hw List.not_mem_nil, huses, fun l hl => absurd hl List.not_mem_nil⟩
    · exact fun hsafe => hsafe.uses
  unfold mcRegistryMemGetServiceBlob Fits
  cases htrustlet : request.trustlet with
  | none =>
      apply iff_of_true
      · exact (hnothing []).mp fun u hu => absurd hu List.not_mem_nil
      · exact fun trustlet h => absurd h (by simp)
  | some trustlet =>
      simp only [Option.mem_def, Option.some.injEq, forall_eq']
      split
      · next hbig =>
          apply iff_of_true
          · exact (hnothing []).mp fun u hu => absurd hu List.not_mem_nil
          · exact fun hle => absurd hbig (UInt32.not_lt.mpr hle)
      · next hsmall =>
          have hle : request.tlSize ≤ maxTlSize := UInt32.not_lt.mp hsmall
          have hmax : request.tlSize.toNat ≤ 0x100000 := UInt32.le_iff_toNat_le.mp hle
          have hmagicLe : u32.size ≤ CStruct.sizeOf (mclfHeaderV2 p) := by
            cases p <;> decide
          rw [forall_prop_of_true hle]
          split
          · next hmagic =>
              rw [← hnothing]
              simp only [List.mem_singleton, forall_eq, hoff]
              have hsize : (magicRegion p).size = u32.size := rfl
              constructor
              · exact fun h => ⟨by omega, fun hfound => absurd hfound (hoff ▸ hmagic)⟩
              · exact fun h => by omega
          · next hmagic =>
              rw [ne_eq, not_not] at hmagic
              rw [forall_prop_of_true hmagic]
              split
              · next hplain =>
                  rw [safe_plainBlob hmax]
                  constructor
                  · intro hheader
                    refine ⟨by omega, hheader, fun hsp => ?_⟩
                    rw [hsp] at hplain
                    exact absurd hplain (by decide)
                  · exact fun h => h.2.1
              · split
                · next hsp =>
                    rw [safe_spTrustletBlob hmax, forall_prop_of_true hsp]
                    constructor
                    · exact fun h => ⟨by omega, h⟩
                    · exact fun h => h.2
                · next hsp =>
                    rw [← hnothing]
                    constructor
                    · intro huses
                      have hheader := huses (headerRegion p) (by simp)
                      simp only [headerRegion, Nat.zero_add] at hheader
                      exact ⟨by omega, hheader, fun h => absurd h hsp⟩
                    · intro h
                      exact header_inside h.2.1

end Safety

/-- An image of a trustlet of a service provider, with the smallest header. -/
def spTrustlet : Memory :=
  store 16 [2] (store 0 [0x4D, 0x43, 0x4C, 0x46] fun _ => 0)

/-- A request with this image. -/
def spRequest : BlobRequest where
  spid := 7
  trustlet := some spTrustlet
  tlSize := 104
  allocated := true
  heap := fun _ => 0

/-- A file whose bytes can all be read. -/
def fileOf (size : Nat) : RegistryFile where
  content := List.replicate size 0
  readable := size

/-- A registry with containers of these sizes. -/
def registryOf (root sp tlt : Nat) : Registry where
  authToken := none
  rootCont := some (fileOf root)
  spCont := fun _ => some (fileOf sp)
  tlCont := fun _ _ => some (fileOf tlt)

/-- The containers are of sizes that the store operations accept. -/
def Accepted (r : Registry) : Prop :=
  (∀ file ∈ r.rootCont, file.content.length ≤ 3 * maxSoContSize) ∧
  (∀ spid, ∀ file ∈ r.spCont spid, file.content.length ≤ 3 * maxSoContSize) ∧
  ∀ uuid spid, ∀ file ∈ r.tlCont uuid spid, file.content.length ≤ 3 * maxSoContSize

/-- A trustlet container of the largest size that the store accepts is written over the end of
the buffer. -/
theorem not_safe :
    ¬ ∀ p r request, Accepted r →
      Safe request.tlSize.toNat (mcRegistryMemGetServiceBlob p r request) := by
  intro hall
  have haccepted : Accepted (registryOf 1 1 1536) := by
    have hfile : ∀ size ≤ 3 * maxSoContSize, ∀ file ∈ some (fileOf size),
        file.content.length ≤ 3 * maxSoContSize := by
      intro size hsize file hfile
      rw [← Option.some.inj hfile, fileOf, List.length_replicate]
      exact hsize
    exact ⟨hfile 1 (by decide), fun _ => hfile 1 (by decide), fun _ _ => hfile 1536 (by decide)⟩
  have hsafe := hall .bits64 (registryOf 1 1 1536) spRequest haccepted
  have hrun : mcRegistryMemGetServiceBlob .bits64 (registryOf 1 1 1536) spRequest =
      spTrustletBlob .bits64 (registryOf 1 1 1536) spRequest spTrustlet
        [magicRegion .bits64, headerRegion .bits64] := rfl
  rw [hrun, safe_spTrustletBlob (by decide)] at hsafe
  have hfit := hsafe.2 rfl
  unfold ContainersFit at hfit
  have htlt : readableLength ((registryOf 1 1 1536).tlCont (headerUuid .bits64 spTrustlet) 7) =
      1536 := by
    show min 1536 (List.replicate 1536 (0 : UInt8)).length = 1536
    rw [List.length_replicate]
    exact Nat.min_self 1536
  have hroot : rootLength (registryOf 1 1 1536) = 1 := by decide
  have hsp : spLength (registryOf 1 1 1536) 7 = 1 := by decide
  rw [show spRequest.spid = 7 from rfl, hroot, hsp, htlt] at hfit
  exact absurd (hfit (by decide) (by decide)) (by decide)

/-! ## The parts of the object -/

section Assembly

variable {p : PointerWidth} {r : Registry} {request : BlobRequest} {trustlet : Memory}
  {spid : UInt32} {uuid : List UInt8} {c : ByteCursor}

/-- A word of the length information. -/
def lenInfo (i : Nat) (value : Memory) : UInt32 :=
  u32At value (member mcBlobLenInfo i).off

theorem member_mcBlobLenInfo {i : Nat} (hi : i < 4) : member mcBlobLenInfo i = ⟨4 * i, 4⟩ := by
  have hall : ∀ i < 4, member mcBlobLenInfo i = ⟨4 * i, 4⟩ := by decide
  exact hall i hi

theorem lenInfo_setLenInfo {i : Nat} (hi : i < 4) (n : Nat) (c : ByteCursor) :
    lenInfo i (setLenInfo i n c).memory = UInt32.ofNat n := by
  have hsize : (member mcBlobLenInfo i).size = 4 := by rw [member_mcBlobLenInfo hi]
  apply u32At_of_load hsize
  rw [setLenInfo, ByteCursor.load_setAt]
  · show littleEndian 4 n = littleEndian (member mcBlobLenInfo i).size n
    rw [hsize]
  · rw [length_littleEndian, hsize]
    rfl

theorem lenInfo_setLenInfo_of_ne {i j : Nat} (hi : i < 4) (hj : j < 4) (hne : i ≠ j) (n : Nat)
    (c : ByteCursor) : lenInfo i (setLenInfo j n c).memory = lenInfo i c.memory := by
  have hload : load ⟨(member mcBlobLenInfo i).off, 4⟩ (setLenInfo j n c).memory =
      load ⟨(member mcBlobLenInfo i).off, 4⟩ c.memory := by
    apply ByteCursor.load_setAt_of_disjoint
    rw [length_littleEndian, member_mcBlobLenInfo hi, member_mcBlobLenInfo hj]
    show 4 * i + 4 ≤ 4 * j ∨ 4 * j + 4 ≤ 4 * i
    omega
  rw [lenInfo, lenInfo, u32At, u32At, value, value, hload]

theorem lenInfo_write {i : Nat} (hi : i < 4) (hc : mcBlobLenInfoSize ≤ c.pos)
    (part : List UInt8) : lenInfo i (c.write part).memory = lenInfo i c.memory := by
  have hload : load ⟨(member mcBlobLenInfo i).off, 4⟩ (c.write part).memory =
      load ⟨(member mcBlobLenInfo i).off, 4⟩ c.memory := by
    apply ByteCursor.load_write
    rw [member_mcBlobLenInfo hi]
    rw [mcBlobLenInfoSize_eq] at hc
    show 4 * i + 4 ≤ c.pos
    omega
  rw [lenInfo, lenInfo, u32At, u32At, value, value, hload]

/-- A part behind those before it, with its length in a word of the length information. -/
def appendPart (i : Nat) (part : List UInt8) (c : ByteCursor) : ByteCursor :=
  (setLenInfo i part.length (c.write part)).advance part.length

@[simp]
theorem appendPart_pos (i : Nat) (part : List UInt8) (c : ByteCursor) :
    (appendPart i part c).pos = c.pos + part.length :=
  rfl

theorem filled_appendPart {i : Nat} (hi : i < 4) (hc : mcBlobLenInfoSize ≤ c.pos)
    (part : List UInt8) :
    (appendPart i part c).filled mcBlobLenInfoSize = c.filled mcBlobLenInfoSize ++ part := by
  have hset : appendPart i part c =
      setLenInfo i part.length ((c.write part).advance part.length) := rfl
  rw [hset, setLenInfo, ByteCursor.filled_setAt, ByteCursor.filled_append _ _ hc]
  rw [length_littleEndian, member_mcBlobLenInfo hi, mcBlobLenInfoSize_eq]
  show 4 * i + 4 ≤ 32
  omega

theorem lenInfo_appendPart {i : Nat} (hi : i < 4) (part : List UInt8) (c : ByteCursor) :
    lenInfo i (appendPart i part c).memory = UInt32.ofNat part.length :=
  lenInfo_setLenInfo hi _ _

theorem lenInfo_appendPart_of_ne {i j : Nat} (hi : i < 4) (hj : j < 4) (hne : i ≠ j)
    (hc : mcBlobLenInfoSize ≤ c.pos) (part : List UInt8) :
    lenInfo i (appendPart j part c).memory = lenInfo i c.memory := by
  show lenInfo i (setLenInfo j part.length (c.write part)).memory = lenInfo i c.memory
  rw [lenInfo_setLenInfo_of_ne hi hj hne, lenInfo_write hi hc]

theorem tltCursor_eq :
    tltCursor r uuid spid c =
      appendPart 3 (tltBytes r uuid spid)
        (appendPart 2 (spBytes r spid) (appendPart 1 (rootBytes r) c)) := by
  simp only [appendPart, length_rootBytes, length_spBytes, length_tltBytes, tltCursor, spCursor,
    rootCursor]

/-- The image of the trustlet. -/
def image (request : BlobRequest) (trustlet : Memory) : List UInt8 :=
  load ⟨0, request.tlSize.toNat⟩ trustlet

theorem length_image : (image request trustlet).length = request.tlSize.toNat :=
  length_load _ _

theorem filled_trustletCursor :
    (trustletCursor request trustlet).filled mcBlobLenInfoSize = image request trustlet := by
  have hbase : mcBlobLenInfoSize ≤
      ((setLenInfo 0 mcTlBlobLenMagic.toNat (ByteCursor.start request.heap)).advance
        mcBlobLenInfoSize).pos := Nat.le_add_left _ _
  have hstart := ByteCursor.filled_append
    ((setLenInfo 0 mcTlBlobLenMagic.toNat (ByteCursor.start request.heap)).advance
      mcBlobLenInfoSize) (image request trustlet) hbase
  rw [length_image] at hstart
  refine hstart.trans ?_
  rw [ByteCursor.filled, ByteCursor.advance_pos, setLenInfo_pos, ByteCursor.start_pos,
    Nat.zero_add, Nat.sub_self]
  rfl

theorem lenInfo_trustletCursor :
    lenInfo 0 (trustletCursor request trustlet).memory = mcTlBlobLenMagic := by
  show lenInfo 0 (((setLenInfo 0 mcTlBlobLenMagic.toNat
    (ByteCursor.start request.heap)).advance mcBlobLenInfoSize).write
      (image request trustlet)).memory = mcTlBlobLenMagic
  rw [lenInfo_write (by decide) (Nat.le_add_left _ _), ByteCursor.advance_memory,
    lenInfo_setLenInfo (by decide)]
  exact UInt32.ofNat_toNat

/-- The object that consists of these parts. -/
structure Layout (image root sp tlt : List UInt8) (obj : RegObject) : Prop where
  bytes : obj.bytes = load ⟨0, mcBlobLenInfoSize⟩ obj.value ++ image ++ root ++ sp ++ tlt
  len : obj.len.toNat =
    mcBlobLenInfoSize + image.length + root.length + sp.length + tlt.length
  start : obj.tlStartOffset = mcBlobLenInfoSize
  magic : lenInfo 0 obj.value = mcTlBlobLenMagic
  rootSize : (lenInfo 1 obj.value).toNat = root.length
  spSize : (lenInfo 2 obj.value).toNat = sp.length
  tltSize : (lenInfo 3 obj.value).toNat = tlt.length

/-- Every container gives at least one byte. -/
def Answers (r : Registry) (spid : UInt32) (uuid : List UInt8) : Prop :=
  0 < rootLength r ∧ 0 < spLength r spid ∧ 0 < readableLength (r.tlCont uuid spid)

theorem tltLength_pos_iff : 0 < tltLength r uuid spid ↔ 0 < readableLength (r.tlCont uuid spid) := by
  have hrootLe := rootLength_le r
  have hspLe := spLength_le r spid
  unfold tltLength
  omega

/-- The object that is made of what was read. -/
def readObject (r : Registry) (request : BlobRequest) (uuid : List UInt8) (trustlet : Memory) :
    RegObject where
  len := UInt32.ofNat (tltCursor r uuid request.spid (trustletCursor request trustlet)).pos
  tlStartOffset := mcBlobLenInfoSize
  value := (tltCursor r uuid request.spid (trustletCursor request trustlet)).memory

theorem layout_readObject (hmax : request.tlSize.toNat ≤ 0x100000) :
    Layout (image request trustlet) (rootBytes r) (spBytes r request.spid)
      (tltBytes r uuid request.spid) (readObject r request uuid trustlet) := by
  have hroot := rootLength_le r
  have hsp := spLength_le r request.spid
  have htlt : tltLength r uuid request.spid ≤ 1600 := by
    unfold tltLength
    omega
  have hinfo := mcBlobLenInfoSize_eq
  have hlen : (readObject r request uuid trustlet).len.toNat =
      mcBlobLenInfoSize + request.tlSize.toNat + rootLength r + spLength r request.spid +
        tltLength r uuid request.spid := by
    have hpos : (tltCursor r uuid request.spid (trustletCursor request trustlet)).pos =
        mcBlobLenInfoSize + request.tlSize.toNat + rootLength r + spLength r request.spid +
          tltLength r uuid request.spid := by
      rw [tltCursor_pos, trustletCursor_pos]
    rw [readObject, hpos]
    apply UInt32.toNat_ofNat_of_lt'
    simp only [UInt32.size]
    omega
  have hsmall : ∀ n ≤ 1600, (UInt32.ofNat n).toNat = n := by
    intro n hn
    apply UInt32.toNat_ofNat_of_lt'
    simp only [UInt32.size]
    omega
  have hbase : mcBlobLenInfoSize ≤ (trustletCursor request trustlet).pos := by
    rw [trustletCursor_pos]
    omega
  have hbaseRoot : mcBlobLenInfoSize ≤
      (appendPart 1 (rootBytes r) (trustletCursor request trustlet)).pos :=
    le_trans hbase (Nat.le_add_right _ _)
  have hbaseSp : mcBlobLenInfoSize ≤ (appendPart 2 (spBytes r request.spid)
      (appendPart 1 (rootBytes r) (trustletCursor request trustlet))).pos :=
    le_trans hbaseRoot (Nat.le_add_right _ _)
  constructor
  · have hsplit : (readObject r request uuid trustlet).len.toNat = mcBlobLenInfoSize +
        ((tltCursor r uuid request.spid (trustletCursor request trustlet)).pos -
          mcBlobLenInfoSize) := by
      rw [hlen, tltCursor_pos, trustletCursor_pos]
      omega
    have hfilled : (tltCursor r uuid request.spid (trustletCursor request trustlet)).filled
        mcBlobLenInfoSize = image request trustlet ++ rootBytes r ++ spBytes r request.spid ++
          tltBytes r uuid request.spid := by
      rw [tltCursor_eq, filled_appendPart (by decide) hbaseSp,
        filled_appendPart (by decide) hbaseRoot, filled_appendPart (by decide) hbase,
        filled_trustletCursor]
    rw [RegObject.bytes, hsplit, load_append, Nat.zero_add]
    simp only [List.append_assoc] at hfilled ⊢
    exact congrArg _ hfilled
  · rw [hlen, length_image, length_rootBytes, length_spBytes, length_tltBytes]
  · rfl
  · rw [readObject, tltCursor_eq, lenInfo_appendPart_of_ne (by decide) (by decide) (by decide) hbaseSp,
      lenInfo_appendPart_of_ne (by decide) (by decide) (by decide) hbaseRoot,
      lenInfo_appendPart_of_ne (by decide) (by decide) (by decide) hbase]
    exact lenInfo_trustletCursor
  · rw [readObject, tltCursor_eq, lenInfo_appendPart_of_ne (by decide) (by decide) (by decide) hbaseSp,
      lenInfo_appendPart_of_ne (by decide) (by decide) (by decide) hbaseRoot,
      lenInfo_appendPart (by decide)]
    exact hsmall _ (by rw [length_rootBytes]; omega)
  · rw [readObject, tltCursor_eq, lenInfo_appendPart_of_ne (by decide) (by decide) (by decide) hbaseSp,
      lenInfo_appendPart (by decide)]
    exact hsmall _ (by rw [length_spBytes]; omega)
  · rw [readObject, tltCursor_eq, lenInfo_appendPart (by decide)]
    exact hsmall _ (by rw [length_tltBytes]; omega)

end Assembly

/-! ## Assembly -/

section Assembled

variable {p : PointerWidth} {r : Registry} {request : BlobRequest} {trustlet : Memory}
  {spid : UInt32} {uuid : List UInt8}

/-- A file that holds these bytes, of which there are some and all can be read. -/
def Readable (file : Option RegistryFile) (content : List UInt8) : Prop :=
  ∃ f ∈ file, f.content = content ∧ content ≠ [] ∧ content.length ≤ f.readable

theorem readableLength_of_readable {file : Option RegistryFile} {content : List UInt8}
    (h : Readable file content) : readableLength file = content.length := by
  obtain ⟨f, hf, rfl, _, hle⟩ := h
  rw [Option.mem_def.mp hf]
  exact Nat.min_eq_right hle

theorem readContainer_written {file : Option RegistryFile} {content : List UInt8} {size : Nat}
    (h : Readable file content) (hsize : content.length ≤ size) :
    (readContainer file size).written = content := by
  obtain ⟨f, hf, rfl, _, hle⟩ := h
  have hread : f.fread size = f.content := by
    rw [RegistryFile.fread, List.take_of_length_le hle, List.take_of_length_le hsize]
  rw [Option.mem_def.mp hf]
  simp only [readContainer, hread]
  split <;> rfl

/-- The three containers of a trustlet. -/
structure Containers where
  root : List UInt8
  sp : List UInt8
  tlt : List UInt8

/-- All containers are there and can be read, and the trustlet container has a size that is
supported. -/
structure Complete (r : Registry) (spid : UInt32) (uuid : List UInt8) (cont : Containers) :
    Prop where
  provider : spid ≠ 0
  root : Readable r.rootCont cont.root
  sp : Readable (r.spCont spid) cont.sp
  tlt : Readable (r.tlCont uuid spid) cont.tlt
  supported : cont.tlt.length = mcSoTltCont20Size ∨ cont.tlt.length = mcSoTltCont21Size

theorem readable_pos {file : Option RegistryFile} {content : List UInt8}
    (h : Readable file content) : 0 < readableLength file := by
  rw [readableLength_of_readable h]
  obtain ⟨_, _, _, hne, _⟩ := h
  exact List.length_pos_iff.mpr hne

theorem Complete.answers {cont : Containers} (h : Complete r spid uuid cont) :
    Answers r spid uuid := by
  have hroot := readable_pos h.root
  have hsp := readable_pos h.sp
  refine ⟨?_, ?_, readable_pos h.tlt⟩
  · exact lt_min (by decide) hroot
  · rw [spLength, if_neg h.provider]
    exact lt_min (by decide) hsp

/-- Root and provider containers have the sizes of the structures at most. -/
def Containers.Fitting (cont : Containers) : Prop :=
  cont.root.length ≤ mcSoRootContSize ∧ cont.sp.length ≤ mcSoSpContSize

theorem rootLength_of_complete {cont : Containers} (h : Complete r spid uuid cont) :
    rootLength r = min mcSoRootContSize cont.root.length := by
  rw [rootLength, readableLength_of_readable h.root]

theorem spLength_of_complete {cont : Containers} (h : Complete r spid uuid cont) :
    spLength r spid = min mcSoSpContSize cont.sp.length := by
  rw [spLength, if_neg h.provider, readableLength_of_readable h.sp]

theorem mcSoSizes : mcSoRootContSize = 220 ∧ mcSoSpContSize = 396 ∧ mcSoTltCont20Size = 156 ∧
    mcSoTltCont21Size = 192 := by
  decide

theorem bytes_of_complete {cont : Containers} (h : Complete r spid uuid cont)
    (hfit : cont.Fitting) :
    rootBytes r = cont.root ∧ spBytes r spid = cont.sp ∧ tltBytes r uuid spid = cont.tlt := by
  obtain ⟨_, _, h20, h21⟩ := mcSoSizes
  refine ⟨?_, ?_, ?_⟩
  · exact readContainer_written h.root hfit.1
  · rw [spBytes, mcRegistryReadSp, if_neg h.provider]
    exact readContainer_written h.sp hfit.2
  · apply readContainer_written h.tlt
    have hroot := rootLength_le r
    have hsp := spLength_le r spid
    have hsupported := h.supported
    omega

/-- When the function makes an object for a trustlet of a provider, and which one. -/
theorem spTrustletBlob_object (p : PointerWidth) (r : Registry) (trustlet : Memory)
    (hmax : request.tlSize.toNat ≤ 0x100000) (uses : List Region) :
    (request.allocated = true ∧ Answers r request.spid (headerUuid p trustlet) ∧
        (spTrustletBlob p r request trustlet uses).object =
          some (readObject r request (headerUuid p trustlet) trustlet)) ∨
      (¬ (request.allocated = true ∧ Answers r request.spid (headerUuid p trustlet)) ∧
        (spTrustletBlob p r request trustlet uses).object = none) := by
  have hvalue : sizeT p (request.tlSize.toNat + mcBlobLenInfoSize + 3 * maxSoContSize) =
      blobValueSize request.tlSize.toNat := by
    apply sizeT_eq
    rw [mcBlobLenInfoSize_eq, maxSoContSize]
    omega
  unfold spTrustletBlob
  simp only [hvalue]
  split
  · next hnone =>
      right
      refine ⟨fun h => ?_, rfl⟩
      rw [hnone] at h
      exact absurd h.1 (by decide)
  · next hallocated =>
      rw [Bool.not_eq_false] at hallocated
      have hspec := appendContainers_spec r request.spid (headerUuid p trustlet)
        request.tlSize.toNat (trustletCursor request trustlet)
      simp only [trustletCursor] at hspec
      cases hspec with
      | noRoot hzero hret hcursor hlengths =>
          right
          refine ⟨fun h => absurd h.2.1 (by omega), if_pos hret⟩
      | noSp hrootPos hzero hret hcursor hlengths =>
          right
          refine ⟨fun h => absurd h.2.2.1 (by omega), if_pos hret⟩
      | noTlt hrootPos hspPos hzero hret hcursor hlengths =>
          right
          refine ⟨fun h => ?_, if_pos hret⟩
          exact absurd (tltLength_pos_iff.mpr h.2.2.2) (by omega)
      | all hrootPos hspPos htltPos hret hcursor hlengths =>
          left
          refine ⟨hallocated, ⟨hrootPos, hspPos, tltLength_pos_iff.mp htltPos⟩, ?_⟩
          rw [if_neg (not_not.mpr hret), hcursor]
          rfl

/-- The object is the image itself, or is there exactly when the containers are complete and
then consists of the length information, the image and the containers. -/
def Assembled (p : PointerWidth) (r : Registry) (request : BlobRequest) (trustlet : Memory)
    (run : BlobRun) : Prop :=
  if serviceType p trustlet = serviceTypeSpTrustlet then
    (run.object.isSome = true ↔ ∃ cont, Complete r request.spid (headerUuid p trustlet) cont) ∧
    ∀ obj ∈ run.object, ∃ cont, Complete r request.spid (headerUuid p trustlet) cont ∧
      Layout (image request trustlet) cont.root cont.sp cont.tlt obj
  else
    ∃ obj ∈ run.object, obj.bytes = image request trustlet ∧ obj.tlStartOffset = 0

/-- An image with a header of one of the three types of services. -/
structure WellFormed (p : PointerWidth) (request : BlobRequest) (trustlet : Memory) : Prop where
  given : request.trustlet = some trustlet
  size : request.tlSize ≤ maxTlSize
  header : CStruct.sizeOf (mclfHeaderV2 p) ≤ request.tlSize.toNat
  magic : u32At trustlet (magicRegion p).off = mcServiceHeaderMagicBe
  service : serviceType p trustlet = serviceTypeDriver ∨
    serviceType p trustlet = serviceTypeSpTrustlet ∨
    serviceType p trustlet = serviceTypeSystemTrustlet

/-- There is memory for the object; if there is and every container gives a byte, the
containers are complete, and those of root and provider are not longer than their structures. -/
def Assembles (p : PointerWidth) (r : Registry) (request : BlobRequest) (trustlet : Memory) :
    Prop :=
  if serviceType p trustlet = serviceTypeSpTrustlet then
    (request.allocated = true → Answers r request.spid (headerUuid p trustlet) →
      ∃ cont, Complete r request.spid (headerUuid p trustlet) cont ∧ cont.Fitting) ∧
    ((∃ cont, Complete r request.spid (headerUuid p trustlet) cont) → request.allocated = true)
  else request.allocated = true

theorem assembled_plainBlob (uses : List Region) :
    (∃ obj ∈ (plainBlob p request trustlet uses).object,
        obj.bytes = image request trustlet ∧ obj.tlStartOffset = 0) ↔
      request.allocated = true := by
  unfold plainBlob
  split
  · next hnone =>
      simp [hnone, noObject]
  · next hallocated =>
      rw [Bool.not_eq_false] at hallocated
      apply iff_of_true _ hallocated
      refine ⟨_, rfl, ?_, rfl⟩
      exact load_store_self (r := ⟨0, request.tlSize.toNat⟩) (length_load _ _) request.heap

/-- The lengths of an object that is laid out tell that the containers were not cut. -/
theorem fitting_of_layout {cont : Containers} (hmax : request.tlSize.toNat ≤ 0x100000)
    (h : Complete r request.spid uuid cont)
    (hlayout : Layout (image request trustlet) cont.root cont.sp cont.tlt
      (readObject r request uuid trustlet)) : cont.Fitting := by
  have hread : Layout (image request trustlet) (rootBytes r) (spBytes r request.spid)
    (tltBytes r uuid request.spid) (readObject r request uuid trustlet) := layout_readObject hmax
  have hroot := hlayout.rootSize.symm.trans hread.rootSize
  have hsp := hlayout.spSize.symm.trans hread.spSize
  rw [length_rootBytes, rootLength_of_complete h] at hroot
  rw [length_spBytes, spLength_of_complete h] at hsp
  exact ⟨hroot ▸ min_le_left _ _, hsp ▸ min_le_left _ _⟩

/-- When the object is the one that the containers call for. -/
theorem assembled_iff (p : PointerWidth) (r : Registry) (request : BlobRequest)
    (trustlet : Memory) (h : WellFormed p request trustlet) :
    Assembled p r request trustlet (mcRegistryMemGetServiceBlob p r request) ↔
      Assembles p r request trustlet := by
  have hmax : request.tlSize.toNat ≤ 0x100000 := UInt32.le_iff_toNat_le.mp h.size
  have hsize : ¬ request.tlSize > maxTlSize := UInt32.not_lt.mpr h.size
  unfold mcRegistryMemGetServiceBlob Assembled Assembles
  rw [h.given]
  simp only [if_neg hsize, h.magic, ne_eq, not_true_eq_false, if_false]
  by_cases hsp : serviceType p trustlet = serviceTypeSpTrustlet
  · have hplain : ¬ (serviceType p trustlet = serviceTypeDriver ∨
        serviceType p trustlet = serviceTypeSystemTrustlet) := by
      rw [hsp]
      decide
    rw [if_pos hsp, if_pos hsp, if_neg hplain, if_pos hsp]
    rcases spTrustletBlob_object p r trustlet hmax
        [magicRegion p, headerRegion p] with ⟨hallocated, hanswers, hobject⟩ | ⟨hfails, hobject⟩
    · rw [hobject]
      constructor
      · rintro ⟨_, hlayout⟩
        obtain ⟨cont, hcomplete, hparts⟩ := hlayout _ rfl
        exact ⟨fun _ _ => ⟨cont, hcomplete, fitting_of_layout hmax hcomplete hparts⟩,
          fun _ => hallocated⟩
      · rintro ⟨hcomplete, _⟩
        obtain ⟨cont, hcont, hfit⟩ := hcomplete hallocated hanswers
        refine ⟨iff_of_true rfl ⟨cont, hcont⟩, fun obj hobj => ⟨cont, hcont, ?_⟩⟩
        obtain ⟨hrootBytes, hspBytes, htltBytes⟩ := bytes_of_complete hcont hfit
        rw [← Option.some.inj hobj, ← hrootBytes, ← hspBytes, ← htltBytes]
        exact layout_readObject hmax
    · rw [hobject]
      constructor
      · rintro ⟨hnone, _⟩
        refine ⟨fun hallocated hanswers => absurd ⟨hallocated, hanswers⟩ hfails, fun hcomplete => ?_⟩
        exact absurd (hnone.mpr hcomplete) (by decide)
      · rintro ⟨_, hallocated⟩
        refine ⟨⟨fun hsome => absurd hsome (by decide), fun hcomplete => ?_⟩, fun obj hobj => ?_⟩
        · obtain ⟨cont, hcont⟩ := hcomplete
          exact absurd ⟨hallocated ⟨cont, hcont⟩, hcont.answers⟩ hfails
        · exact absurd hobj (by simp)
  · have hplain : serviceType p trustlet = serviceTypeDriver ∨
        serviceType p trustlet = serviceTypeSystemTrustlet := by
      rcases h.service with hdriver | hsp' | hsystem
      · exact Or.inl hdriver
      · exact absurd hsp' hsp
      · exact Or.inr hsystem
    rw [if_pos hplain, if_neg hsp, if_neg hsp]
    exact assembled_plainBlob _

theorem wellFormed_spTrustlet : WellFormed .bits64 spRequest spTrustlet where
  given := rfl
  size := by decide
  header := by decide
  magic := by decide
  service := Or.inr (Or.inl (by decide))

theorem assembled_iff_spTrustlet :
    WellFormed .bits64 spRequest spTrustlet ∧
      (Assembled .bits64 (registryOf 220 396 156) spRequest spTrustlet
          (mcRegistryMemGetServiceBlob .bits64 (registryOf 220 396 156) spRequest) ↔
        Assembles .bits64 (registryOf 220 396 156) spRequest spTrustlet) :=
  ⟨wellFormed_spTrustlet,
    assembled_iff .bits64 (registryOf 220 396 156) spRequest spTrustlet wellFormed_spTrustlet⟩

/-- A trustlet container of 2 bytes makes an object. -/
theorem not_assembled :
    ¬ ∀ p r request trustlet, WellFormed p request trustlet →
      Assembled p r request trustlet (mcRegistryMemGetServiceBlob p r request) := by
  intro hall
  have hassembled := hall .bits64 (registryOf 1 1 2) spRequest spTrustlet wellFormed_spTrustlet
  have hsp : serviceType .bits64 spTrustlet = serviceTypeSpTrustlet := by decide
  have hrun : mcRegistryMemGetServiceBlob .bits64 (registryOf 1 1 2) spRequest =
      spTrustletBlob .bits64 (registryOf 1 1 2) spRequest spTrustlet
        [magicRegion .bits64, headerRegion .bits64] := rfl
  have hanswers : Answers (registryOf 1 1 2) spRequest.spid (headerUuid .bits64 spTrustlet) := by
    refine ⟨?_, ?_, ?_⟩ <;> decide
  have hmax : spRequest.tlSize.toNat ≤ 0x100000 := by decide
  rw [Assembled, if_pos hsp, hrun] at hassembled
  rcases spTrustletBlob_object .bits64 (registryOf 1 1 2) spTrustlet
      hmax [magicRegion .bits64, headerRegion .bits64] with ⟨_, _, hobject⟩ | ⟨hfails, _⟩
  · rw [hobject] at hassembled
    obtain ⟨cont, hcomplete⟩ := hassembled.1.mp rfl
    have hlength : readableLength (some (fileOf 2)) = cont.tlt.length :=
      readableLength_of_readable hcomplete.tlt
    have htwo : readableLength (some (fileOf 2)) = 2 := by decide
    obtain ⟨_, _, h20, h21⟩ := mcSoSizes
    have hsupported := hcomplete.supported
    omega
  · exact hfails ⟨rfl, hanswers⟩

end Assembled

end ServiceBlob

end Exynos8890.MobiCore
