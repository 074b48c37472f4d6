import Exynos8890.Library.CString
import Exynos8890.Library.FileSystem
import Exynos8890.MobiCore.RegistryPaths

/-!
# The file storage daemon

Trusted applications keep files in the normal world.  The storage daemon takes a request
from the shared buffer, puts the path of the file together in local arrays, and looks for,
reads, writes or deletes the file.  The name of the directory is appended to an array that
nothing has been written to.

Main results:

- Definition `fsdExecuteCommand`: the four commands, on the file system.
- Theorem `filePath_inj`: different keys have different paths, whatever the arrays held.
- Theorem `wellNamed_iff`: the commands agree on the path of a key exactly when they find
  empty strings in their arrays.
- Theorem `not_wellNamed`: an array that is not empty gives another path.
-/

namespace Exynos8890.MobiCore

namespace SecureStorage

open CString FileSystem HexText

/-! ## Requests -/

/-- `STH_PUBLIC_FILE_NAME_SIZE`, and `FILENAMESIZE`. -/
def fileNameSize : Nat := 20

/-- What names a file: the application, and its name for the file. -/
structure StorageKey where
  uuid : McUuid
  filename : { bytes : List UInt8 // bytes.length = fileNameSize }
deriving DecidableEq

/-- `STH_FSD_message_t`; `payload` is the part of the shared buffer behind the fields. -/
structure StorageMessage where
  status : McResult
  type : UInt8
  flags : UInt16
  payloadLen : UInt32
  key : StorageKey
  payload : List UInt8
  fits : payloadLen.toNat ≤ payload.length

def sthMessageTypeLook : UInt8 := 0
def sthMessageTypeRead : UInt8 := 1
def sthMessageTypeWrite : UInt8 := 2
def sthMessageTypeDelete : UInt8 := 3

def teeSuccess : McResult := 0
def teeErrorItemNotFound : McResult := 0xFFFF0008
def teeErrorAccessConflict : McResult := 0xFFFF0003
def teeErrorStorageNoSpace : McResult := 0xFFFF3041

/-- `TEE_DATA_FLAG_EXCLUSIVE`. -/
def teeDataFlagExclusive : UInt16 := 0x400

/-! ## Names -/

/-- The character that ends a string. -/
def nul : Char := Char.ofNat 0

/-- `NEW_EXT`. -/
def newExt : Text := ".new".toList

/-- What the local arrays of a command hold before anything is written to them. -/
structure Locals where
  tadirname : Text
  filename : Text
  taDirPath : Text
  filePath : Text
  filePathNew : Text

/-- `FSD_HexFileName`. -/
def fsdHexFileName (fn : List UInt8) (fileName : Text) : Text :=
  strcpy nul fileName (byteArrayToString fn ++ [nul])

/-- `FSD_CreateTaDirName`. -/
def fsdCreateTaDirName (taUuid : List UInt8) (dirName : Text) : Text :=
  strcat nul dirName (byteArrayToString taUuid ++ [nul])

/-- The paths that a command puts together in its arrays. -/
structure StorageNames where
  taDirPath : Text
  filePath : Text
  filePathNew : Text

/-- How each of the four commands puts its paths together; `Filepath_new` is made by
`FSD_WriteFile` alone. -/
def storageNames (tbstpath : Text) (stack : Locals) (key : StorageKey) : StorageNames :=
  let tadirname := fsdCreateTaDirName key.uuid.val stack.tadirname
  let filename := fsdHexFileName key.filename.val stack.filename
  let taDirPath := strcat nul (strcat nul (strcpy nul stack.taDirPath tbstpath) ['/', nul])
    tadirname
  let filePath := strcat nul (strcat nul (strcpy nul stack.filePath taDirPath) ['/', nul])
    filename
  let filePathNew := strcat nul (strcpy nul stack.filePathNew filePath) (newExt ++ [nul])
  { taDirPath := cString nul taDirPath
    filePath := cString nul filePath
    filePathNew := cString nul filePathNew }

/-! ## Commands -/

/-- The directory that a path lies in. -/
def dirname (path : Text) : Text :=
  beforeLast '/' path

/-- The file system of the device. -/
abbrev Files := Tree dirname

/-- Which calls of a command fail, and how far `fread` and `fwrite` come; `closed` is how
much of a file is kept when `fclose` fails. -/
structure StorageCalls where
  mkdir : Option Errno := none
  openExcl : Option Errno := none
  fopen : Option Errno := none
  readable : Option Nat := none
  written : Option Nat := none
  closed : Option Nat := none
  rename : Option Errno := none
  remove : Option Errno := none
  removeNew : Option Errno := none
  rmdir : Option Errno := none

/-- A call that may fail for a reason of its own. -/
def attempt {α : Type} (failure : Option Errno) (result : Except Errno α) : Except Errno α :=
  match failure with
  | some errno => .error errno
  | none => result

/-- The files after a call: a call that fails leaves them as they are. -/
def after (fs : Files) : Except Errno Files → Files
  | .ok fs' => fs'
  | .error _ => fs

/-- The result of a call, in a `uint32_t`. -/
def callResult {α : Type} : Except Errno α → UInt32
  | .ok _ => 0
  | .error _ => 0xFFFFFFFF

/-- What `FSD_LookFile` and `FSD_ReadFile` both do with the path of the file: the status,
and the payload of the shared buffer. -/
def readPayload (calls : StorageCalls) (names : StorageNames) (m : StorageMessage)
    (fs : Files) : McResult × List UInt8 :=
  match attempt calls.fopen (fs.openRead names.filePath) with
  | .error _ => (teeErrorItemNotFound, m.payload)
  | .ok content =>
      let read := (content.take (calls.readable.getD content.length)).take m.payloadLen.toNat
      let payload := read ++ m.payload.drop read.length
      if read.length ≠ m.payloadLen.toNat then (teeErrorItemNotFound, payload)
      else (teeSuccess, payload)

def fsdLookFile (calls : StorageCalls) (names : StorageNames) (m : StorageMessage)
    (fs : Files) : McResult × List UInt8 :=
  readPayload calls names m fs

def fsdReadFile (calls : StorageCalls) (names : StorageNames) (m : StorageMessage)
    (fs : Files) : McResult × List UInt8 :=
  readPayload calls names m fs

/-- `FSD_WriteFile` from the opening of the new file on. -/
def writeNew (calls : StorageCalls) (names : StorageNames) (m : StorageMessage)
    (fs : Files) : McResult × Files :=
  let removed (fs : Files) := after fs (attempt calls.remove (fs.remove names.filePath))
  let removedNew (fs : Files) := after fs (attempt calls.removeNew (fs.remove names.filePathNew))
  let fill (bytes : List UInt8) (fs : Files) := after fs (fs.write names.filePathNew bytes)
  match attempt calls.fopen (fs.write names.filePathNew []) with
  | .error _ => (teeErrorStorageNoSpace, removed fs)
  | .ok fs =>
      let bytes := m.payload.take m.payloadLen.toNat
      let written := bytes.take (calls.written.getD bytes.length)
      if written.length ≠ m.payloadLen.toNat then
        (teeErrorItemNotFound, removedNew (removed (fill written fs)))
      else
        let fs := fill (written.take (calls.closed.getD written.length)) fs
        -- `res` is unsigned here
        let res : UInt32 := if calls.closed = none then 0 else 0xFFFFFFFF
        if res < 0 then (teeErrorStorageNoSpace, removedNew (removed fs))
        else
          let renamed := attempt calls.rename (fs.renameFile names.filePathNew names.filePath)
          let fs := after fs renamed
          if callResult renamed < 0 then (teeErrorStorageNoSpace, removedNew (removed fs))
          else (teeSuccess, fs)

/-- `FSD_WriteFile`. -/
def fsdWriteFile (calls : StorageCalls) (names : StorageNames) (m : StorageMessage)
    (fs : Files) : McResult × Files :=
  let made := attempt calls.mkdir (fs.mkdir names.taDirPath)
  let fs := after fs made
  let exclusive (fs : Files) : McResult × Files :=
    if m.flags = teeDataFlagExclusive then
      match attempt calls.openExcl (fs.openExcl names.filePath) with
      | .error _ => (teeErrorAccessConflict, fs)
      | .ok fs => writeNew calls names m fs
    else writeNew calls names m fs
  match made with
  | .error errno => if errno ≠ .eexist then (teeErrorStorageNoSpace, fs) else exclusive fs
  | .ok _ => exclusive fs

/-- The errors of `rmdir` that `FSD_DeleteFile` does not report. -/
def ignoredErrno : Errno → Bool
  | .enotempty | .eexist | .enoent => true
  | _ => false

/-- The status of `FSD_DeleteFile`, by the result of `rmdir`. -/
def deleteStatus (removed : Except Errno Files) : McResult :=
  match removed with
  | .error errno =>
      if callResult removed < 0 ∧ ¬ ignoredErrno errno then teeErrorStorageNoSpace else teeSuccess
  | .ok _ => teeSuccess

/-- `FSD_DeleteFile`. -/
def fsdDeleteFile (calls : StorageCalls) (names : StorageNames) (fs : Files) :
    McResult × Files :=
  let fs :=
    match attempt calls.fopen (fs.openRead names.filePath) with
    | .error _ => fs
    | .ok _ => after fs (attempt calls.remove (fs.remove names.filePath))
  -- the result of `remove` is overwritten by the one of `rmdir`
  let removed := attempt calls.rmdir (fs.rmdir names.taDirPath)
  (deleteStatus removed, after fs removed)

/-- The answer to a request: the status, and the payload of the shared buffer. -/
structure StorageAnswer where
  status : McResult
  payload : List UInt8
deriving DecidableEq

/-- `FSD_ExecuteCommand`; `stack` is what the local arrays of the command hold. -/
def fsdExecuteCommand (tbstpath : Text) (calls : StorageCalls) (stack : Locals)
    (m : StorageMessage) (fs : Files) : StorageAnswer × Files :=
  let names := storageNames tbstpath stack m.key
  if m.type = sthMessageTypeLook then
    let (status, payload) := fsdLookFile calls names m fs
    (⟨status, payload⟩, fs)
  else if m.type = sthMessageTypeRead then
    let (status, payload) := fsdReadFile calls names m fs
    (⟨status, payload⟩, fs)
  else if m.type = sthMessageTypeWrite then
    let (status, fs) := fsdWriteFile calls names m fs
    (⟨status, m.payload⟩, fs)
  else if m.type = sthMessageTypeDelete then
    let (status, fs) := fsdDeleteFile calls names fs
    (⟨status, m.payload⟩, fs)
  else (⟨m.status, m.payload⟩, fs)

/-! ## Paths -/

/-- `root/hex(uuid)`. -/
def taDirectory (root : Text) (key : StorageKey) : Text :=
  root ++ '/' :: byteArrayToString key.uuid.val

/-- `root/hex(uuid)/hex(file name)`. -/
def keyPath (root : Text) (key : StorageKey) : Text :=
  taDirectory root key ++ '/' :: byteArrayToString key.filename.val

theorem nul_not_mem_byteArrayToString (bytes : List UInt8) :
    nul ∉ byteArrayToString bytes := by
  intro h
  obtain ⟨a, ha, hc⟩ := mem_hexBytes h
  exact absurd hc ((by decide : ∀ a < 16, nul ≠ lowerDigit a) a ha)

theorem cString_hexFileName (fn : List UInt8) (fileName : Text) :
    cString nul (fsdHexFileName fn fileName) = byteArrayToString fn := by
  rw [fsdHexFileName, cString_strcpy,
    cString_append_nul (nul_not_mem_byteArrayToString fn)]

theorem cString_createTaDirName (taUuid : List UInt8) (dirName : Text) :
    cString nul (fsdCreateTaDirName taUuid dirName) =
      cString nul dirName ++ byteArrayToString taUuid := by
  rw [fsdCreateTaDirName, cString_strcat,
    cString_append_nul (nul_not_mem_byteArrayToString taUuid)]

/-- The directory of the path that a command puts together: what the array held comes
before the digits of the application. -/
theorem taDirPath_eq (tbstpath : Text) (stack : Locals) (key : StorageKey) :
    (storageNames tbstpath stack key).taDirPath =
      cString nul tbstpath ++ '/' ::
        (cString nul stack.tadirname ++ byteArrayToString key.uuid.val) := by
  have hslash : cString nul ['/', nul] = ['/'] := by decide
  simp only [storageNames, cString_strcat, cString_strcpy, hslash, cString_createTaDirName]
  rw [List.append_assoc, List.singleton_append]

theorem filePath_eq (tbstpath : Text) (stack : Locals) (key : StorageKey) :
    (storageNames tbstpath stack key).filePath =
      (storageNames tbstpath stack key).taDirPath ++ '/' ::
        byteArrayToString key.filename.val := by
  have hslash : cString nul ['/', nul] = ['/'] := by decide
  simp only [storageNames, cString_strcat, cString_strcpy, hslash, cString_hexFileName]
  rw [List.append_assoc, List.singleton_append]

theorem filePathNew_eq (tbstpath : Text) (stack : Locals) (key : StorageKey) :
    (storageNames tbstpath stack key).filePathNew =
      (storageNames tbstpath stack key).taDirPath ++ '/' ::
        (byteArrayToString key.filename.val ++ newExt) := by
  have hslash : cString nul ['/', nul] = ['/'] := by decide
  have hext : cString nul (newExt ++ [nul]) = newExt := by decide
  simp only [storageNames, cString_strcat, cString_strcpy, hslash, hext, cString_hexFileName]
  simp only [List.append_assoc, List.cons_append, List.nil_append]

/-- The paths of a command that finds an empty string in the array of the directory. -/
theorem storageNames_of_empty {stack : Locals} (h : cString nul stack.tadirname = [])
    (tbstpath : Text) (key : StorageKey) :
    (storageNames tbstpath stack key).taDirPath = taDirectory (cString nul tbstpath) key ∧
      (storageNames tbstpath stack key).filePath = keyPath (cString nul tbstpath) key := by
  have hdir : (storageNames tbstpath stack key).taDirPath =
      taDirectory (cString nul tbstpath) key := by
    rw [taDirPath_eq, h]
    rfl
  refine ⟨hdir, ?_⟩
  rw [filePath_eq, hdir]
  rfl

/-! ## Different keys -/

/-- What the applications are called determines them, whatever the arrays held. -/
theorem uuid_eq_of_taDirPath {tbstpath : Text} {stack stack' : Locals} {key key' : StorageKey}
    (h : (storageNames tbstpath stack key).taDirPath =
      (storageNames tbstpath stack' key').taDirPath) : key.uuid = key'.uuid := by
  rw [taDirPath_eq, taDirPath_eq] at h
  have htail := List.append_cancel_left h
  rw [List.cons.injEq] at htail
  have hlength : (byteArrayToString key.uuid.val).length =
      (byteArrayToString key'.uuid.val).length := by
    rw [byteArrayToString, byteArrayToString, length_hexBytes, length_hexBytes, key.uuid.property,
      key'.uuid.property]
  exact Subtype.ext (byteArrayToString_inj (List.append_inj_right' htail.2 hlength))

/-- The path of a file determines its key, whatever the arrays of the two commands held. -/
theorem filePath_inj {tbstpath : Text} {stack stack' : Locals} {key key' : StorageKey}
    (h : (storageNames tbstpath stack key).filePath =
      (storageNames tbstpath stack' key').filePath) : key = key' := by
  rw [filePath_eq, filePath_eq] at h
  obtain ⟨hdir, hname⟩ := append_sep_inj (not_mem_byteArrayToString _).1
    (not_mem_byteArrayToString _).1 h
  obtain ⟨uuid, filename⟩ := key
  obtain ⟨uuid', filename'⟩ := key'
  have huuid : uuid = uuid' := uuid_eq_of_taDirPath hdir
  have hfilename : filename = filename' := Subtype.ext (byteArrayToString_inj hname)
  rw [huuid, hfilename]

theorem slash_not_mem_newName (bytes : List UInt8) :
    '/' ∉ byteArrayToString bytes ++ newExt := by
  intro h
  rcases List.mem_append.mp h with h | h
  · exact (not_mem_byteArrayToString bytes).1 h
  · exact absurd h (by decide)

theorem filePath_ne_filePathNew (tbstpath : Text) (stack stack' : Locals)
    (key key' : StorageKey) :
    (storageNames tbstpath stack key).filePath ≠
      (storageNames tbstpath stack' key').filePathNew := by
  intro h
  rw [filePath_eq, filePathNew_eq] at h
  obtain ⟨-, hname⟩ := append_sep_inj (not_mem_byteArrayToString _).1
    (slash_not_mem_newName _) h
  have hdot : '.' ∈ byteArrayToString key'.filename.val ++ newExt :=
    List.mem_append_right _ (by decide)
  rw [← hname] at hdot
  exact (not_mem_byteArrayToString _).2 hdot

/-! ## Naming -/

/-- The four commands. -/
inductive StorageCommand where
  | look
  | read
  | write
  | delete
deriving DecidableEq

/-- The commands use one path for the key, which no other key has for its file or for its
temporary file. -/
structure WellNamed (tbstpath : Text) (stack : StorageCommand → Locals) (key : StorageKey) :
    Prop where
  path : ∀ c, (storageNames tbstpath (stack c) key).filePath =
    keyPath (cString nul tbstpath) key
  apart : ∀ c, ∀ key' ≠ key, ∀ stack' : Locals,
    (storageNames tbstpath (stack c) key).filePath ≠
        (storageNames tbstpath stack' key').filePath ∧
      (storageNames tbstpath (stack c) key).filePath ≠
        (storageNames tbstpath stack' key').filePathNew

/-- The path is the one of the key exactly when the array of the directory holds an empty
string. -/
theorem filePath_eq_keyPath_iff (tbstpath : Text) (stack : Locals) (key : StorageKey) :
    (storageNames tbstpath stack key).filePath = keyPath (cString nul tbstpath) key ↔
      cString nul stack.tadirname = [] := by
  constructor
  · intro h
    have hlength := congrArg List.length h
    rw [filePath_eq, taDirPath_eq, keyPath, taDirectory] at hlength
    simp only [List.length_append, List.length_cons] at hlength
    apply List.eq_nil_of_length_eq_zero
    omega
  · exact fun h => (storageNames_of_empty h tbstpath key).2

/-- The commands agree on a path of its own for the key if and only if the arrays for the
name of the directory hold empty strings when they start. -/
theorem wellNamed_iff (tbstpath : Text) (stack : StorageCommand → Locals) (key : StorageKey) :
    WellNamed tbstpath stack key ↔ ∀ c, cString nul (stack c).tadirname = [] := by
  constructor
  · intro h c
    exact (filePath_eq_keyPath_iff tbstpath (stack c) key).mp (h.path c)
  · intro h
    constructor
    · intro c
      exact (filePath_eq_keyPath_iff tbstpath (stack c) key).mpr (h c)
    · intro c key' hne stack'
      constructor
      · exact fun heq => hne (filePath_inj heq).symm
      · exact filePath_ne_filePathNew tbstpath (stack c) stack' key key'

/-- Arrays of which the first holds `x`. -/
def usedStack : Locals where
  tadirname := ['x', nul]
  filename := []
  taDirPath := []
  filePath := []
  filePathNew := []

/-- The path has the old character of the array before the digits. -/
theorem not_wellNamed :
    ¬ ∀ (tbstpath : Text) (stack : StorageCommand → Locals) (key : StorageKey),
      WellNamed tbstpath stack key := by
  intro h
  have hnamed := h "/data".toList (fun _ => usedStack)
    { uuid := ⟨List.replicate 16 0, rfl⟩, filename := ⟨List.replicate 20 0, rfl⟩ }
  exact absurd (hnamed.path .look) (by decide)

end SecureStorage

end Exynos8890.MobiCore
