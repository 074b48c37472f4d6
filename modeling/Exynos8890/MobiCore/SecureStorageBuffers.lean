import Exynos8890.Library.BoundedString
import Exynos8890.Library.CStruct
import Exynos8890.MobiCore.SecureStorageFaults

/-!
# The arrays of secure storage

Each command puts its paths together in local arrays, whose sizes it computes from the
lengths of the parts, and moves the payload between a file and the rest of the shared
buffer.  A write outside an array, or outside the shared buffer, has no result.

Main results:

- Definition `Bounded.fsdExecuteCommand`: the four commands, in arrays of the declared sizes.
- Theorem `Bounded.makeFilePath_holds`: the path of the file fits.
- Theorem `Bounded.makeFilePathNew_eq_none`: the path of the new file does not.
- Theorem `Bounded.staysInside_iff`: exactly when a command stays inside its arrays and the
  buffer.
- Theorem `Bounded.not_staysInside`: a write with an empty payload does not.
- Theorem `Bounded.fsdExecuteCommand_eq`: a command that stays inside does what it does in
  arrays as long as it needs them.
-/

namespace Exynos8890.MobiCore

namespace SecureStorage

namespace Bounded

open BoundedString CStruct FileSystem HexText

open CString (cString)

/-! ## The shared buffer -/

/-- `DCI_BUFF_SIZE`. -/
def dciBuffSize : Nat := 1000 * 1024

def dciCommandHeader : List CType := [u32]

def dciResponseHeader : List CType := [u32, u32]

/-- `cmd_t`. -/
def cmd : List CType := [.struct dciCommandHeader, u32]

/-- `rsp_t`. -/
def rsp : List CType := [.struct dciResponseHeader, u32]

/-- `TEE_UUID`. -/
def teeUuid : List CType := [u32, ⟨2, 2⟩, ⟨2, 2⟩, byteArray 8]

/-- `STH_FSD_message_t`; the payload has no size of its own. -/
def sthFsdMessage : List CType :=
  [u32, u8, u8, ⟨2, 2⟩, u32, .struct teeUuid, byteArray fileNameSize, byteArray 0]

/-- `dciMessage_t`, with the union of the command and the response. -/
def dciMessage : List CType :=
  [⟨max (CStruct.sizeOf cmd) (CStruct.sizeOf rsp), max (alignOf cmd) (alignOf rsp)⟩,
    .struct sthFsdMessage]

/-- The place of the payload in the shared buffer. -/
def payloadOffset : Nat :=
  (member dciMessage 1).off + (member sthFsdMessage 7).off

/-- What the shared buffer has for a payload. -/
def payloadSize : Nat :=
  dciBuffSize - payloadOffset

example : payloadOffset = 60 := by decide

/-- A request in the shared buffer, which is not checked. -/
structure DciRequest where
  status : McResult
  type : UInt8
  flags : UInt16
  payloadLen : UInt32
  key : StorageKey
  payload : { bytes : List UInt8 // bytes.length = payloadSize }

/-- A request whose payload lies in the buffer. -/
def DciRequest.message (r : DciRequest) (h : r.payloadLen.toNat ≤ payloadSize) :
    StorageMessage where
  status := r.status
  type := r.type
  flags := r.flags
  payloadLen := r.payloadLen
  key := r.key
  payload := r.payload.val
  fits := r.payload.property.symm ▸ h

/-! ## The local arrays -/

/-- `TEE_UUID_STRING_SIZE`. -/
def teeUuidStringSize : Nat := 32

/-- The local arrays of a command, and of the functions that write names, with the sizes they
are declared with; the arrays of the two names hold empty strings. -/
structure LocalArrays (tbstpath : Text) where
  stack : Locals
  tmpDirName : { tmp : Text // tmp.length = CStruct.sizeOf teeUuid * 2 + 1 }
  tmpFileName : { tmp : Text // tmp.length = fileNameSize * 2 + 1 }
  tadirname : Holds nul stack.tadirname [] (teeUuidStringSize + 1)
  filename : Holds nul stack.filename [] (2 * fileNameSize + 1)
  taDirPath : stack.taDirPath.length =
    (cString nul tbstpath).length + 1 + teeUuidStringSize + 1
  filePath : stack.filePath.length =
    (cString nul tbstpath).length + 1 + teeUuidStringSize + 1 + 2 * fileNameSize + 1
  filePathNew : stack.filePathNew.length =
    (cString nul tbstpath).length + teeUuidStringSize + 2 * fileNameSize + newExt.length + 1

/-- The loop of `FSD_HexFileName` and of `FSD_CreateTaDirName`: `sprintf` ends what it
writes. -/
def sprintHex : List UInt8 → Nat → Text → Option Text
  | [], _, tmp => some tmp
  | b :: fn, i, tmp => do
      let tmp ← writeAt tmp (i * 2) (byteArrayToString [b] ++ [nul])
      sprintHex fn (i + 1) tmp

/-- `FSD_HexFileName`. -/
def fsdHexFileName (fn : List UInt8) (tmp fileName : Text) : Option Text := do
  let tmp ← sprintHex fn 0 tmp
  strcpy nul fileName tmp

/-- `FSD_CreateTaDirName`. -/
def fsdCreateTaDirName (taUuid : List UInt8) (tmp dirName : Text) : Option Text := do
  let tmp ← sprintHex taUuid 0 tmp
  strcat nul dirName tmp

section Commands

variable {tbstpath : Text} (calls : StorageCalls) (arrays : LocalArrays tbstpath)
  (r : DciRequest) (fs : Files)

/-- What each command begins with: `TAdirpath`, and the name of the file. -/
def makeTaDirPath (key : StorageKey) : Option (Text × Text) := do
  let tadirname ←
    fsdCreateTaDirName key.uuid.val arrays.tmpDirName.val arrays.stack.tadirname
  let filename ← fsdHexFileName key.filename.val arrays.tmpFileName.val arrays.stack.filename
  let taDirPath ← strcpy nul arrays.stack.taDirPath (tbstpath ++ [nul])
  let taDirPath ← strcat nul taDirPath ['/', nul]
  let taDirPath ← strcat nul taDirPath tadirname
  return (taDirPath, filename)

/-- `Filepath`. -/
def makeFilePath (taDirPath filename : Text) : Option Text := do
  let filePath ← strcpy nul arrays.stack.filePath taDirPath
  let filePath ← strcat nul filePath ['/', nul]
  strcat nul filePath filename

/-- `Filepath_new`. -/
def makeFilePathNew (filePath : Text) : Option Text := do
  let filePathNew ← strcpy nul arrays.stack.filePathNew filePath
  strcat nul filePathNew (newExt ++ [nul])

/-- What `fread` finds in the file. -/
def freadBytes (content : List UInt8) : List UInt8 :=
  (content.take (calls.readable.getD content.length)).take r.payloadLen.toNat

/-- How much of a file can be read, and is asked for. -/
def readLength (content : List UInt8) : Nat :=
  min r.payloadLen.toNat (min (calls.readable.getD content.length) content.length)

theorem length_freadBytes (content : List UInt8) :
    (freadBytes calls r content).length = readLength calls r content := by
  rw [freadBytes, List.length_take, List.length_take, readLength]

/-- `FSD_LookFile`, and `FSD_ReadFile`. -/
def fsdReadFile : Option (McResult × List UInt8) := do
  let (taDirPath, filename) ← makeTaDirPath arrays r.key
  let filePath ← makeFilePath arrays taDirPath filename
  match attempt calls.fopen (fs.openRead (cString nul filePath)) with
  | .error _ => return (teeErrorItemNotFound, r.payload.val)
  | .ok content =>
      let read := freadBytes calls r content
      let payload ← writeAt r.payload.val 0 read
      if read.length ≠ r.payloadLen.toNat then return (teeErrorItemNotFound, payload)
      else return (teeSuccess, payload)

/-- The end of `FSD_WriteFile`: the payload is read once the new file is open. -/
def writeNew (names : StorageNames) (fs : Files) : Option (McResult × Files) :=
  if h : r.payloadLen.toNat ≤ payloadSize then
    some (SecureStorage.writeNew calls names (r.message h) fs)
  else
    match attempt calls.fopen (fs.write names.filePathNew []) with
    | .error _ =>
        some (teeErrorStorageNoSpace, after fs (attempt calls.remove (fs.remove names.filePath)))
    | .ok _ => none

/-- `FSD_WriteFile`. -/
def fsdWriteFile : Option (McResult × Files) := do
  let (taDirPath, filename) ← makeTaDirPath arrays r.key
  let made := attempt calls.mkdir (fs.mkdir (cString nul taDirPath))
  let fs := after fs made
  let exclusive : Option (McResult × Files) := do
    let filePath ← makeFilePath arrays taDirPath filename
    let filePathNew ← makeFilePathNew arrays filePath
    let names : StorageNames :=
      ⟨cString nul taDirPath, cString nul filePath, cString nul filePathNew⟩
    if r.flags = teeDataFlagExclusive then
      match attempt calls.openExcl (fs.openExcl names.filePath) with
      | .error _ => return (teeErrorAccessConflict, fs)
      | .ok fs => writeNew calls r names fs
    else writeNew calls r names fs
  match made with
  | .error errno => if errno ≠ .eexist then return (teeErrorStorageNoSpace, fs) else exclusive
  | .ok _ => exclusive

/-- `FSD_DeleteFile`. -/
def fsdDeleteFile : Option (McResult × Files) := do
  let (taDirPath, filename) ← makeTaDirPath arrays r.key
  let filePath ← makeFilePath arrays taDirPath filename
  return SecureStorage.fsdDeleteFile calls ⟨cString nul taDirPath, cString nul filePath, []⟩ fs

/-- `FSD_ExecuteCommand`. -/
def fsdExecuteCommand : Option (StorageAnswer × Files) :=
  if r.type = sthMessageTypeLook ∨ r.type = sthMessageTypeRead then
    (fsdReadFile calls arrays r fs).map fun (status, payload) => (⟨status, payload⟩, fs)
  else if r.type = sthMessageTypeWrite then
    (fsdWriteFile calls arrays r fs).map fun (status, fs) => (⟨status, r.payload.val⟩, fs)
  else if r.type = sthMessageTypeDelete then
    (fsdDeleteFile calls arrays r fs).map fun (status, fs) => (⟨status, r.payload.val⟩, fs)
  else some (⟨r.status, r.payload.val⟩, fs)

end Commands

/-! ## What fits -/

theorem length_byteArrayToString (bytes : List UInt8) :
    (byteArrayToString bytes).length = 2 * bytes.length :=
  length_hexBytes bytes

theorem text_byteArrayToString (bytes : List UInt8) :
    text nul (byteArrayToString bytes ++ [nul]) = some (byteArrayToString bytes) :=
  text_filled (nul_not_mem_byteArrayToString bytes) Nat.one_pos

/-- The digits of a name and one terminator fill the array that they are printed to. -/
theorem sprintHex_eq {fn : List UInt8} {i : Nat} {tmp : Text} (hne : fn ≠ [])
    (hlength : tmp.length = 2 * (i + fn.length) + 1) :
    sprintHex fn i tmp = some (tmp.take (i * 2) ++ byteArrayToString fn ++ [nul]) := by
  induction fn generalizing i tmp with
  | nil => exact absurd rfl hne
  | cons b fn ih =>
      rw [List.length_cons] at hlength
      have htwo : (byteArrayToString [b]).length = 2 := length_byteArrayToString [b]
      have hcons : byteArrayToString (b :: fn) = byteArrayToString [b] ++ byteArrayToString fn :=
        by simp [byteArrayToString, hexBytes]
      obtain ⟨tmp₁, hwrite⟩ := @writeAt_of_le _ tmp (byteArrayToString [b] ++ [nul]) (i * 2)
        (by rw [List.length_append, htwo, List.length_singleton]; omega)
      have hlength₁ : tmp₁.length = tmp.length := length_writeAt hwrite
      have htake := take_writeAt hwrite
      rw [List.length_append, htwo, List.length_singleton] at htake
      have hround : sprintHex (b :: fn) i tmp = sprintHex fn (i + 1) tmp₁ := by
        rw [sprintHex, hwrite]
        rfl
      rw [hround, hcons]
      by_cases hlast : fn = []
      · have hwhole : tmp₁.take (i * 2 + (2 + 1)) = tmp₁ := by
          rw [List.take_of_length_le]
          rw [hlength₁, hlength, hlast]
          show 2 * (i + 1) + 1 ≤ _
          omega
        rw [hwhole] at htake
        rw [hlast, sprintHex, htake, ← List.append_assoc]
        rfl
      · have hdigits : (tmp.take (i * 2) ++ byteArrayToString [b]).length = (i + 1) * 2 := by
          rw [List.length_append, List.length_take, htwo]
          omega
        have hbefore : tmp₁.take ((i + 1) * 2) = tmp.take (i * 2) ++ byteArrayToString [b] := by
          calc tmp₁.take ((i + 1) * 2) = (tmp₁.take (i * 2 + (2 + 1))).take ((i + 1) * 2) := by
                rw [List.take_take, Nat.min_eq_left (by omega)]
            _ = (tmp.take (i * 2) ++ byteArrayToString [b] ++ [nul]).take ((i + 1) * 2) := by
                rw [htake, List.append_assoc]
            _ = tmp.take (i * 2) ++ byteArrayToString [b] := List.take_left' hdigits
        rw [ih hlast (by omega), hbefore, List.append_assoc (tmp.take (i * 2))]

theorem fsdHexFileName_holds {fn : List UInt8} {tmp fileName : Text} (hne : fn ≠ [])
    (htmp : tmp.length = fn.length * 2 + 1) (hfile : 2 * fn.length < fileName.length) :
    ∃ array, fsdHexFileName fn tmp fileName = some array ∧
      Holds nul array (byteArrayToString fn) fileName.length := by
  have hfits : (byteArrayToString fn).length < fileName.length := by
    rwa [length_byteArrayToString]
  obtain ⟨array, hcopy, hholds⟩ := strcpy_of_lt (text_byteArrayToString fn) hfits
  refine ⟨array, ?_, hholds⟩
  rw [fsdHexFileName, sprintHex_eq hne (by omega), Nat.zero_mul, List.take_zero,
    List.nil_append]
  exact hcopy

theorem fsdCreateTaDirName_holds {taUuid : List UInt8} {tmp dirName : Text} {n : Nat}
    (hne : taUuid ≠ []) (htmp : tmp.length = taUuid.length * 2 + 1)
    (hdir : Holds nul dirName [] n) (hn : 2 * taUuid.length < n) :
    ∃ array, fsdCreateTaDirName taUuid tmp dirName = some array ∧
      Holds nul array (byteArrayToString taUuid) n := by
  obtain ⟨array, hcat, hholds⟩ := hdir.strcat_of_lt (text_byteArrayToString taUuid)
    (by rw [length_byteArrayToString, List.length_nil]; omega)
  refine ⟨array, ?_, hholds⟩
  rw [fsdCreateTaDirName, sprintHex_eq hne (by omega), Nat.zero_mul, List.take_zero,
    List.nil_append]
  exact hcat

section Paths

variable {tbstpath : Text} (arrays : LocalArrays tbstpath) (key : StorageKey)

theorem text_slash : text nul ['/', nul] = some ['/'] := by
  decide

theorem length_taDirectory : (taDirectory (cString nul tbstpath) key).length =
    (cString nul tbstpath).length + 1 + teeUuidStringSize := by
  rw [taDirectory, List.length_append, List.length_cons, length_byteArrayToString,
    key.uuid.property]
  rfl

theorem length_keyPath : (keyPath (cString nul tbstpath) key).length =
    (cString nul tbstpath).length + 1 + teeUuidStringSize + 1 + 2 * fileNameSize := by
  rw [keyPath, List.length_append, length_taDirectory, List.length_cons,
    length_byteArrayToString, key.filename.property]
  rfl

theorem makeTaDirPath_holds :
    ∃ taDirPath filename, makeTaDirPath arrays key = some (taDirPath, filename) ∧
      text nul taDirPath = some (taDirectory (cString nul tbstpath) key) ∧
      text nul filename = some (byteArrayToString key.filename.val) := by
  have huuid : key.uuid.val.length = 16 := key.uuid.property
  have hname : key.filename.val.length = 20 := key.filename.property
  have huuid' : key.uuid.val ≠ [] := List.ne_nil_of_length_pos (by omega)
  have hname' : key.filename.val ≠ [] := List.ne_nil_of_length_pos (by omega)
  have htmpDir : arrays.tmpDirName.val.length = key.uuid.val.length * 2 + 1 := by
    rw [arrays.tmpDirName.property, huuid]
    rfl
  have htmpFile : arrays.tmpFileName.val.length = key.filename.val.length * 2 + 1 := by
    rw [arrays.tmpFileName.property, hname]
    rfl
  obtain ⟨tadirname, hcreate, htadirname⟩ :=
    fsdCreateTaDirName_holds huuid' htmpDir arrays.tadirname (by rw [huuid]; decide)
  have hroom : 2 * key.filename.val.length < arrays.stack.filename.length := by
    rw [arrays.filename.length_eq, hname]
    decide
  obtain ⟨filename, hhex, hfilename⟩ := fsdHexFileName_holds hname' htmpFile hroom
  have hsize := arrays.taDirPath
  have hroot : text nul (tbstpath ++ [nul]) = some (cString nul tbstpath) :=
    text_append_nul tbstpath
  have hfirst : (cString nul tbstpath).length < arrays.stack.taDirPath.length := by omega
  obtain ⟨path₁, hcopy, hpath₁⟩ := strcpy_of_lt hroot hfirst
  obtain ⟨path₂, hslash, hpath₂⟩ := hpath₁.strcat_of_lt text_slash
    (by rw [List.length_singleton]; omega)
  obtain ⟨path₃, hdir, hpath₃⟩ := hpath₂.strcat_of_lt htadirname.text_eq
    (by rw [List.length_append, List.length_singleton, length_byteArrayToString, huuid, hsize]
        show _ < _ + 1 + 32 + 1
        omega)
  refine ⟨path₃, filename, ?_, ?_, hfilename.text_eq⟩
  · simp only [makeTaDirPath, hcreate, hhex, hcopy, hslash, hdir, Option.bind_eq_bind,
      Option.bind_some]
    rfl
  · rw [hpath₃.text_eq, List.append_assoc]
    rfl

variable {taDirPath filename : Text}

theorem makeFilePath_holds
    (hdir : text nul taDirPath = some (taDirectory (cString nul tbstpath) key))
    (hname : text nul filename = some (byteArrayToString key.filename.val)) :
    ∃ filePath, makeFilePath arrays taDirPath filename = some filePath ∧
      text nul filePath = some (keyPath (cString nul tbstpath) key) := by
  have hsize := arrays.filePath
  have hlength := @length_taDirectory tbstpath key
  have hfile : (byteArrayToString key.filename.val).length = 2 * fileNameSize := by
    rw [length_byteArrayToString, key.filename.property]
  obtain ⟨path₁, hcopy, hpath₁⟩ :=
    strcpy_of_lt hdir (show _ < arrays.stack.filePath.length by omega)
  obtain ⟨path₂, hslash, hpath₂⟩ := hpath₁.strcat_of_lt text_slash
    (by rw [List.length_singleton]; omega)
  obtain ⟨path₃, hcat, hpath₃⟩ := hpath₂.strcat_of_lt hname
    (by rw [List.length_append, List.length_singleton]; omega)
  refine ⟨path₃, ?_, ?_⟩
  · simp only [makeFilePath, hcopy, hslash, hcat, Option.bind_eq_bind, Option.bind_some]
  · rw [hpath₃.text_eq, List.append_assoc]
    rfl

/-- The path of the new file does not fit: neither of the two separators is counted. -/
theorem makeFilePathNew_eq_none {filePath : Text}
    (hfile : text nul filePath = some (keyPath (cString nul tbstpath) key)) :
    makeFilePathNew arrays filePath = none := by
  have hsize := arrays.filePathNew
  have hlength := @length_keyPath tbstpath key
  have hext : text nul (newExt ++ [nul]) = some newExt := by decide
  have hnew : newExt.length = 4 := rfl
  obtain ⟨path, hcopy, hpath⟩ :=
    strcpy_of_lt hfile (show _ < arrays.stack.filePathNew.length by omega)
  rw [makeFilePathNew, hcopy]
  exact hpath.strcat_eq_none hext (by omega)

end Paths

/-! ## Commands that stay inside -/

section StaysInside

variable {tbstpath : Text} (calls : StorageCalls) (arrays : LocalArrays tbstpath)
  (r : DciRequest) (fs : Files)

/-- The paths of the request. -/
def requestNames : StorageNames :=
  storageNames tbstpath arrays.stack r.key

theorem requestNames_eq :
    (requestNames arrays r).taDirPath = taDirectory (cString nul tbstpath) r.key ∧
      (requestNames arrays r).filePath = keyPath (cString nul tbstpath) r.key :=
  storageNames_of_empty (text_eq_some_iff.mp arrays.tadirname.text_eq).2 tbstpath r.key

theorem cString_of_text {array s : Text} (h : text nul array = some s) : cString nul array = s :=
  (text_eq_some_iff.mp h).2

/-- Which requests for the payload stay inside: what is read has room in the buffer. -/
theorem fsdReadFile_isSome_iff :
    (fsdReadFile calls arrays r fs).isSome ↔
      ∀ content, attempt calls.fopen (fs.openRead (requestNames arrays r).filePath) = .ok content →
        readLength calls r content ≤ payloadSize := by
  obtain ⟨taDirPath, filename, hmake, hdir, hname⟩ := makeTaDirPath_holds arrays r.key
  obtain ⟨filePath, hmake', hfile⟩ := makeFilePath_holds arrays r.key hdir hname
  simp only [fsdReadFile, hmake, hmake', Option.bind_eq_bind, Option.bind_some,
    cString_of_text hfile, (requestNames_eq arrays r).2]
  cases attempt calls.fopen (fs.openRead (keyPath (cString nul tbstpath) r.key)) with
  | error errno => exact iff_of_true rfl (fun content h => absurd h (by simp))
  | ok content =>
      have hpayload := r.payload.property
      have hlength := length_freadBytes calls r content
      by_cases hfits : readLength calls r content ≤ payloadSize
      · obtain ⟨payload, hwrite⟩ := @writeAt_of_le _ r.payload.val (freadBytes calls r content) 0
          (by omega)
        refine iff_of_true ?_ (fun content' h => by cases h; exact hfits)
        simp only [hwrite, Option.bind_some]
        split <;> rfl
      · have hwrite : writeAt r.payload.val 0 (freadBytes calls r content) = none := by
          rw [writeAt, if_neg (by omega)]
        refine iff_of_false ?_ (fun h => hfits (h content rfl))
        simp only [hwrite, Option.bind_none]
        simp

/-- A write goes wrong as soon as there is a directory for the file. -/
theorem fsdWriteFile_isSome_iff :
    (fsdWriteFile calls arrays r fs).isSome ↔
      ¬ DirectoryReady calls (requestNames arrays r) fs := by
  obtain ⟨taDirPath, filename, hmake, hdir, hname⟩ := makeTaDirPath_holds arrays r.key
  obtain ⟨filePath, hmake', hfile⟩ := makeFilePath_holds arrays r.key hdir hname
  have hnew := makeFilePathNew_eq_none arrays r.key hfile
  have hmade := made_mkdir calls (requestNames arrays r) fs
  simp only [fsdWriteFile, hmake, hmake', hnew, Option.bind_eq_bind, Option.bind_some,
    Option.bind_none, cString_of_text hdir, ← (requestNames_eq arrays r).1]
  generalize attempt calls.mkdir (fs.mkdir (requestNames arrays r).taDirPath) = made at hmade ⊢
  cases hmade with
  | made fs' hready => exact iff_of_false (by simp) (not_not_intro hready)
  | found hready => exact iff_of_false (by simp) (not_not_intro hready)
  | failed errno herrno hready =>
      dsimp only
      rw [if_pos herrno]
      exact iff_of_true rfl hready

theorem fsdDeleteFile_isSome : (fsdDeleteFile calls arrays r fs).isSome := by
  obtain ⟨taDirPath, filename, hmake, hdir, hname⟩ := makeTaDirPath_holds arrays r.key
  obtain ⟨filePath, hmake', -⟩ := makeFilePath_holds arrays r.key hdir hname
  simp only [fsdDeleteFile, hmake, hmake', Option.bind_eq_bind, Option.bind_some]
  rfl

/-- No write leaves an array or the shared buffer. -/
def StaysInside : Prop :=
  (fsdExecuteCommand calls arrays r fs).isSome

/-- What is read has room in the buffer, and a write is refused before the path of the new
file is made. -/
structure HasRoom : Prop where
  read : r.type = sthMessageTypeLook ∨ r.type = sthMessageTypeRead → calls.fopen = none →
    ∀ content, fs.content (requestNames arrays r).filePath = some content →
      readLength calls r content ≤ payloadSize
  write : r.type = sthMessageTypeWrite → ¬ DirectoryReady calls (requestNames arrays r) fs

theorem forall_openRead_iff (path : Text) :
    (∀ content, attempt calls.fopen (fs.openRead path) = .ok content →
        readLength calls r content ≤ payloadSize) ↔
      (calls.fopen = none → ∀ content, fs.content path = some content →
        readLength calls r content ≤ payloadSize) := by
  have hempty : readLength calls r [] ≤ payloadSize := by
    simp [readLength]
  cases hcall : calls.fopen with
  | some errno => simp [attempt]
  | none =>
      cases hnode : fs.node path with
      | none => simp [attempt, Tree.openRead, Tree.content, hnode]
      | some node =>
          cases node with
          | dir => simp [attempt, Tree.openRead, Tree.content, hnode, hempty]
          | file content => simp [attempt, Tree.openRead, Tree.content, hnode]

/-- A command stays inside its arrays and the buffer exactly when it looks for or reads what
has room, when it is a write that is refused before the path of the new file is made, and when
it is another command. -/
theorem staysInside_iff : StaysInside calls arrays r fs ↔ HasRoom calls arrays r fs := by
  have hread := fsdReadFile_isSome_iff calls arrays r fs
  have hwrite := fsdWriteFile_isSome_iff calls arrays r fs
  have hdelete := fsdDeleteFile_isSome calls arrays r fs
  rw [forall_openRead_iff] at hread
  unfold StaysInside fsdExecuteCommand
  by_cases hlook : r.type = sthMessageTypeLook ∨ r.type = sthMessageTypeRead
  · have hother : r.type ≠ sthMessageTypeWrite := by
      rcases hlook with h | h <;> rw [h] <;> decide
    rw [if_pos hlook, Option.isSome_map, hread]
    exact ⟨fun h => ⟨fun _ => h, fun heq => absurd heq hother⟩, fun h => h.read hlook⟩
  · rw [if_neg hlook]
    by_cases htype : r.type = sthMessageTypeWrite
    · rw [if_pos htype, Option.isSome_map, hwrite]
      exact ⟨fun h => ⟨fun heq => absurd heq hlook, fun _ => h⟩, fun h => h.write htype⟩
    · rw [if_neg htype]
      refine iff_of_true ?_ ⟨fun heq => absurd heq hlook, fun heq => absurd heq htype⟩
      split
      · rw [Option.isSome_map, hdelete]
      · rfl

end StaysInside

/-- Local arrays that hold only terminators. -/
def emptyArrays : LocalArrays "/TbStorage".toList where
  stack :=
    { tadirname := List.replicate 33 nul
      filename := List.replicate 41 nul
      taDirPath := List.replicate 44 nul
      filePath := List.replicate 85 nul
      filePathNew := List.replicate 87 nul }
  tmpDirName := ⟨List.replicate 33 nul, by decide⟩
  tmpFileName := ⟨List.replicate 41 nul, by decide⟩
  tadirname := ⟨by decide, by decide⟩
  filename := ⟨by decide, by decide⟩
  taDirPath := by decide
  filePath := by decide
  filePathNew := by decide

/-- A request to write nothing to a file. -/
def emptyWrite : DciRequest where
  status := 0
  type := sthMessageTypeWrite
  flags := 0
  payloadLen := 0
  key :=
    { uuid := ⟨List.replicate 16 7, List.length_replicate⟩,
      filename := ⟨List.replicate 20 9, List.length_replicate⟩ }
  payload := ⟨List.replicate payloadSize 0, List.length_replicate⟩

/-- The path of the new file leaves its array. -/
theorem not_staysInside :
    ¬ ∀ (tbstpath : Text) (calls : StorageCalls) (arrays : LocalArrays tbstpath)
      (r : DciRequest) (fs : Files), StaysInside calls arrays r fs := by
  intro h
  have hinside := h "/TbStorage".toList {} emptyArrays emptyWrite emptyStorage
  have hready : DirectoryReady {} (requestNames emptyArrays emptyWrite) emptyStorage := by
    rw [DirectoryReady, (requestNames_eq emptyArrays emptyWrite).1]
    exact Or.inr ⟨rfl, Or.inr (emptyStorage_dirname emptyWrite.key)⟩
  rw [StaysInside, fsdExecuteCommand, if_neg (by decide),
    if_pos (show emptyWrite.type = sthMessageTypeWrite from rfl), Option.isSome_map,
    fsdWriteFile_isSome_iff] at hinside
  exact hinside hready

/-! ## Arrays that are long enough -/

section Simulates

variable {tbstpath : Text} {calls : StorageCalls} {arrays : LocalArrays tbstpath}
  {r : DciRequest} {fs : Files}

theorem fsdReadFile_eq (h : r.payloadLen.toNat ≤ payloadSize) :
    fsdReadFile calls arrays r fs =
      some (readPayload calls (requestNames arrays r) (r.message h) fs) := by
  obtain ⟨taDirPath, filename, hmake, hdir, hname⟩ := makeTaDirPath_holds arrays r.key
  obtain ⟨filePath, hmake', hfile⟩ := makeFilePath_holds arrays r.key hdir hname
  simp only [fsdReadFile, hmake, hmake', Option.bind_eq_bind, Option.bind_some,
    cString_of_text hfile, readPayload, (requestNames_eq arrays r).2]
  cases attempt calls.fopen (fs.openRead (keyPath (cString nul tbstpath) r.key)) with
  | error errno => rfl
  | ok content =>
      have hlength := length_freadBytes calls r content
      have hfits : (freadBytes calls r content).length ≤ r.payload.val.length := by
        rw [hlength, r.payload.property]
        exact (Nat.min_le_left _ _).trans h
      have hwrite : writeAt r.payload.val 0 (freadBytes calls r content) =
          some (freadBytes calls r content ++
            r.payload.val.drop (freadBytes calls r content).length) := by
        rw [writeAt, if_pos (by omega), Nat.zero_add]
        rfl
      simp only [hwrite, Option.bind_some]
      exact (apply_ite some _ _ _).symm

theorem fsdDeleteFile_eq :
    fsdDeleteFile calls arrays r fs =
      some (SecureStorage.fsdDeleteFile calls (requestNames arrays r) fs) := by
  obtain ⟨taDirPath, filename, hmake, hdir, hname⟩ := makeTaDirPath_holds arrays r.key
  obtain ⟨filePath, hmake', hfile⟩ := makeFilePath_holds arrays r.key hdir hname
  simp only [fsdDeleteFile, hmake, hmake', Option.bind_eq_bind, Option.bind_some,
    cString_of_text hdir, cString_of_text hfile, ← (requestNames_eq arrays r).1,
    ← (requestNames_eq arrays r).2]
  rfl

theorem fsdWriteFile_eq (hready : ¬ DirectoryReady calls (requestNames arrays r) fs)
    (m : StorageMessage) :
    fsdWriteFile calls arrays r fs =
      some (SecureStorage.fsdWriteFile calls (requestNames arrays r) m fs) := by
  obtain ⟨taDirPath, filename, hmake, hdir, hname⟩ := makeTaDirPath_holds arrays r.key
  have hmade := made_mkdir calls (requestNames arrays r) fs
  simp only [fsdWriteFile_eq_openAndWrite, fsdWriteFile, hmake, Option.bind_eq_bind,
    Option.bind_some, cString_of_text hdir, ← (requestNames_eq arrays r).1]
  generalize attempt calls.mkdir (fs.mkdir (requestNames arrays r).taDirPath) = made at hmade ⊢
  cases hmade with
  | made fs' hready' => exact absurd hready' hready
  | found hready' => exact absurd hready' hready
  | failed errno herrno =>
      dsimp only
      rw [if_pos herrno, if_pos herrno]
      rfl

/-- A command that stays inside does what it does in arrays as long as it needs them. -/
theorem fsdExecuteCommand_eq (h : r.payloadLen.toNat ≤ payloadSize)
    (hroom : HasRoom calls arrays r fs) :
    fsdExecuteCommand calls arrays r fs =
      some (SecureStorage.fsdExecuteCommand tbstpath calls arrays.stack (r.message h) fs) := by
  unfold fsdExecuteCommand SecureStorage.fsdExecuteCommand
  by_cases hlook : r.type = sthMessageTypeLook
  · rw [if_pos (Or.inl hlook), fsdReadFile_eq h]
    exact congrArg some (if_pos hlook).symm
  · by_cases hread : r.type = sthMessageTypeRead
    · rw [if_pos (Or.inr hread), fsdReadFile_eq h]
      exact congrArg some ((if_neg hlook).trans (if_pos hread)).symm
    · rw [if_neg (not_or_intro hlook hread)]
      refine Eq.trans ?_ (congrArg some ((if_neg hlook).trans (if_neg hread)).symm)
      by_cases hwrite : r.type = sthMessageTypeWrite
      · rw [if_pos hwrite, fsdWriteFile_eq (hroom.write hwrite) (r.message h)]
        exact congrArg some (if_pos hwrite).symm
      · rw [if_neg hwrite]
        refine Eq.trans ?_ (congrArg some (if_neg hwrite).symm)
        by_cases hdelete : r.type = sthMessageTypeDelete
        · rw [if_pos hdelete, fsdDeleteFile_eq]
          exact congrArg some (if_pos hdelete).symm
        · rw [if_neg hdelete]
          exact congrArg some (if_neg hdelete).symm

/-- A request to look for a file of three bytes. -/
def lookThree : DciRequest :=
  { emptyWrite with type := sthMessageTypeLook, payloadLen := 3 }

theorem fsdExecuteCommand_eq_lookThree :
    fsdExecuteCommand {} emptyArrays lookThree emptyStorage =
      some (SecureStorage.fsdExecuteCommand "/TbStorage".toList {} emptyArrays.stack
        (lookThree.message (by decide)) emptyStorage) := by
  apply fsdExecuteCommand_eq
  constructor
  · intro _ _ content _
    exact (Nat.min_le_left _ _).trans (by decide)
  · intro hwrite
    exact absurd hwrite (by decide)

end Simulates

end Bounded

end SecureStorage

end Exynos8890.MobiCore
