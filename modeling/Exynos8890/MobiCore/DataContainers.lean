import Exynos8890.Library.TransitionSystem
import Exynos8890.MobiCore.RegistryFiles
import Exynos8890.MobiCore.RegistryRead
import Exynos8890.MobiCore.ServiceBlob

/-!
# Data containers

`mcRegistryStoreData` makes the directory of a trustlet and writes the secure object into a file
whose name is made of the id in the object; `mcRegistryReadData` reads such a file.  How many
bytes are written and read comes from the header of the object.

Main results:

- Definitions `mcRegistryStoreData` and `mcRegistryReadData`.
- Theorem `store_ok_iff`: when a store succeeds while the file system does.
- Theorem `returns_iff`: when a read returns an object.
- Theorem `behaves_iff`: in which runs the containers are a map from trustlets and ids to
  objects, and no store writes more than it was given.
- Theorem `not_behaves`: the second object of a trustlet.
-/

namespace Exynos8890.MobiCore

namespace DataContainers

open CStruct FileSystem RegistryFiles SecureStorage

/-! ## Secure objects -/

/-- `mcDataCont_t`: type, version, uuid, id, secrets. -/
def mcDataCont : List CType :=
  [u32, u32, mcUuid, u32, byteArray 2048]

/-- `mcSoDataCont_t`. -/
def mcSoDataCont : List CType :=
  [.struct mcSoHeader, .struct mcDataCont,
    byteArray (soContHashAndPadSize (CStruct.sizeOf mcDataCont) 2048)]

/-- `sizeof(mcSoDataCont_t)`. -/
def mcSoDataContSize : Nat := CStruct.sizeOf mcSoDataCont

/-- `sizeof(mcSoHeader_t)`. -/
def mcSoHeaderSize : Nat := CStruct.sizeOf mcSoHeader

theorem mcSoSizes : mcSoDataContSize = 2168 ∧ mcSoHeaderSize = 44 := by
  decide

def contTypeSpData : UInt32 := 4
def contTypeTlData : UInt32 := 5

/-- `MC_SO_PAYLOAD_MAX_SIZE`. -/
def mcSoPayloadMaxSize : UInt32 := 1000000

/-- `MC_SO_SIZE`. -/
def mcSoSize (plainLen encryptedLen : UInt32) : Nat :=
  if plainLen + encryptedLen < encryptedLen ∨ plainLen + encryptedLen > mcSoPayloadMaxSize then 0
  else mcSoSizeF22 plainLen.toNat encryptedLen.toNat

section Object

variable (so : Memory)

/-- `so->soHeader.plainLen`. -/
def plainLen : UInt32 := u32At so (member mcSoHeader 5).off

/-- `so->soHeader.encryptedLen`. -/
def encryptedLen : UInt32 := u32At so (member mcSoHeader 6).off

/-- A member of `so->cont`. -/
def contMember (i : Nat) : Region :=
  ⟨(member mcSoDataCont 1).off + (member mcDataCont i).off, (member mcDataCont i).size⟩

/-- `so->cont.type`. -/
def contType : UInt32 := u32At so (contMember 0).off

/-- `so->cont.uuid`. -/
def contUuid : McUuid := ⟨load ⟨(contMember 2).off, uuidLength⟩ so, length_load _ _⟩

/-- `so->cont.pid`. -/
def contPid : UInt32 := u32At so (contMember 3).off

/-- The size that the header gives. -/
def soSize : Nat := mcSoSize (plainLen so) (encryptedLen so)

end Object

/-! ## Storing and reading -/

/-- Which calls of a store fail, and how many bytes reach the file. -/
structure DataCalls where
  mkdir : Option Errno := none
  fopen : Option Errno := none
  written : Option Nat := none

/-- A store: its result, the files, and how many bytes it hands to `fwrite`. -/
structure DataStore where
  ret : McResult
  files : Files
  copied : Nat

/-- `mcRegistryStoreData`. -/
def mcRegistryStoreData (calls : DataCalls) (so : Memory) (size : UInt32) (fs : Files) :
    DataStore :=
  if size.toNat ≠ mcSoDataContSize then ⟨mcDrvErrInvalidParameter, fs, 0⟩
  else if contType so = contTypeSpData then ⟨mcDrvErrInvalidParameter, fs, 0⟩
  else if contType so ≠ contTypeTlData then ⟨mcDrvErrInvalidParameter, fs, 0⟩
  else
    let pathname := getTlDataPath (contUuid so).val
    let filename := getTlDataFilePath (contUuid so).val (contPid so)
    -- a directory that exists makes `mkdir` fail
    match attempt calls.mkdir (fs.mkdir pathname) with
    | .error _ => ⟨mcDrvErrInvalidParameter, fs, 0⟩
    | .ok fs =>
        match writeFile calls.fopen calls.written filename (load ⟨0, soSize so⟩ so) fs with
        | .error _ => ⟨mcDrvErrInvalidDeviceFile, fs, 0⟩
        | .ok fs => ⟨mcDrvOk, fs, soSize so⟩

/-- How much is read behind the header, in a `size_t`. -/
def restSize (p : PointerWidth) (so : Memory) : Nat :=
  ServiceBlob.sizeT p (soSize so + 256 ^ p.word.size - mcSoHeaderSize)

/-- `mcRegistryReadData`: the result, and the buffer.  The keys are taken from the buffer, not
from the arguments. -/
def mcRegistryReadData (p : PointerWidth) (context : UInt32) (_cid : McUuid) (_pid : UInt32)
    (so : Memory) (maxLen : UInt32) (fs : Files) : McResult × Memory :=
  if context = 0 then (mcDrvErrInvalidParameter, so)
  else if context ≠ 1 then (mcDrvErrInvalidParameter, so)
  else
    match fs.openRead (getTlDataFilePath (contUuid so).val (contPid so)) with
    | .error _ => (mcDrvErrInvalidDeviceFile, so)
    | .ok content =>
        let filesize := RegistryFile.filesize p ⟨content, content.length⟩
        if maxLen.toNat < filesize then (mcDrvErrOutOfResources, so)
        else
          let header := content.take mcSoHeaderSize
          let so := store 0 header so
          if header.length ≠ mcSoHeaderSize then (mcDrvErrInvalidParameter, so)
          else
            let rest := (content.drop mcSoHeaderSize).take (restSize p so)
            if rest.length ≠ restSize p so then
              (mcDrvErrInvalidParameter, store mcSoHeaderSize rest so)
            else (mcDrvOk, store mcSoHeaderSize rest so)

/-! ## Paths -/

/-- The keys of a container. -/
abbrev DataKey := McUuid × UInt32

/-- The keys in an object. -/
def keyOf (so : Memory) : DataKey :=
  (contUuid so, contPid so)

/-- The file of a container. -/
def dataFile (key : DataKey) : Text :=
  getTlDataFilePath key.1.val key.2

/-- The directory of a trustlet. -/
def dataDir (key : DataKey) : Text :=
  getTlDataPath key.1.val

theorem dataFile_inj {key key' : DataKey} (h : dataFile key = dataFile key') : key = key' := by
  have hobject : RegistryObject.dataCont key.1 key.2 = .dataCont key'.1 key'.2 :=
    @RegistryObject.path_inj RegistryObject.plainHost RegistryObject.plainHost _ _ h
  injection hobject with huuid hpid
  exact Prod.ext huuid hpid

theorem dirname_dataFile (key : DataKey) : dirname (dataFile key) = dataDir key :=
  dirname_path RegistryObject.plainHost (.dataCont key.1 key.2)

theorem dirname_dataDir (key : DataKey) : dirname (dataDir key) = getRegistryPath :=
  dirname_getTlDataPath key.1.val

theorem dataDir_ne_dataFile (key key' : DataKey) : dataDir key ≠ dataFile key' :=
  getTlDataPath_ne_path key.1.val RegistryObject.plainHost (.dataCont key'.1 key'.2)

/-! ## What a store does -/

section Store

variable {calls : DataCalls} {so : Memory} {size : UInt32} {fs : Files}

/-- An object of a trustlet, of the size of the structure. -/
def IsTlData (so : Memory) (size : UInt32) : Prop :=
  size.toNat = mcSoDataContSize ∧ contType so = contTypeTlData

/-- The directory of the object can be made. -/
def MakesDir (calls : DataCalls) (so : Memory) (fs : Files) : Prop :=
  calls.mkdir = none ∧ fs.node (dataDir (keyOf so)) = none ∧ fs.node getRegistryPath = some .dir

/-- The ends of a store. -/
inductive StoreEnds (calls : DataCalls) (so : Memory) (size : UInt32) (fs : Files) :
    DataStore → Prop
  | refused (h : ¬ (IsTlData so size ∧ MakesDir calls so fs)) (ret : McResult) (hret : ret ≠ mcDrvOk) :
      StoreEnds calls so size fs ⟨ret, fs, 0⟩
  | notOpened (h : IsTlData so size ∧ MakesDir calls so fs) (made : Files)
      (hmade : ∀ q, made.node q = if q = dataDir (keyOf so) then some .dir else fs.node q)
      (hfopen : calls.fopen ≠ none) :
      StoreEnds calls so size fs ⟨mcDrvErrInvalidDeviceFile, made, 0⟩
  | stored (h : IsTlData so size ∧ MakesDir calls so fs) (hfopen : calls.fopen = none) (files : Files)
      (hfiles : ∀ q, files.node q =
        if q = dataFile (keyOf so) then
          some (.file ((load ⟨0, soSize so⟩ so).take (calls.written.getD (soSize so))))
        else if q = dataDir (keyOf so) then some .dir else fs.node q) :
      StoreEnds calls so size fs ⟨mcDrvOk, files, soSize so⟩

theorem node_dataFile_of_none {key : DataKey} (h : fs.node (dataDir key) = none) :
    fs.node (dataFile key) = none := by
  by_contra hnode
  have hparent := fs.node_parent hnode
  rw [dirname_dataFile, h] at hparent
  cases hparent

theorem storeEnds : StoreEnds calls so size fs (mcRegistryStoreData calls so size fs) := by
  have hdir : getTlDataPath (contUuid so).val = dataDir (keyOf so) := rfl
  have hfile : getTlDataFilePath (contUuid so).val (contPid so) = dataFile (keyOf so) := rfl
  have hinvalid : mcDrvErrInvalidParameter ≠ mcDrvOk := by decide
  unfold mcRegistryStoreData
  simp only [hdir, hfile]
  split
  · next hsize => exact .refused (fun h => hsize h.1.1) _ hinvalid
  · next hsize =>
      split
      · next hspdata =>
          refine .refused (fun h => ?_) _ hinvalid
          exact absurd (hspdata.symm.trans h.1.2) (by decide)
      · split
        · next hother => exact .refused (fun h => hother h.1.2) _ hinvalid
        · next htldata =>
            have htype : IsTlData so size := ⟨not_not.mp hsize, not_not.mp htldata⟩
            cases hmkdir : attempt calls.mkdir (fs.mkdir (dataDir (keyOf so))) with
            | error errno =>
                refine .refused (fun h => ?_) _ hinvalid
                obtain ⟨-, hnone, hvacant, hparent⟩ := h
                obtain ⟨made, hmade⟩ := (fs.create_eq_ok_iff .dir (dataDir (keyOf so))).mpr
                  ⟨hvacant, by rw [dirname_dataDir, hparent]⟩
                rw [hnone, attempt, Tree.mkdir, hmade] at hmkdir
                cases hmkdir
            | ok made =>
                cases hcall : calls.mkdir with
                | some errno =>
                    rw [hcall] at hmkdir
                    cases hmkdir
                | none =>
                    rw [hcall] at hmkdir
                    have hmkdir : fs.create .dir (dataDir (keyOf so)) = .ok made := hmkdir
                    obtain ⟨hvacant, hparent⟩ :=
                      (fs.create_eq_ok_iff .dir (dataDir (keyOf so))).mp ⟨made, hmkdir⟩
                    rw [dirname_dataDir] at hparent
                    have hmade := Tree.node_create hmkdir
                    have hall : IsTlData so size ∧ MakesDir calls so fs :=
                      ⟨htype, hcall, hvacant, hparent⟩
                    have hopens : Opens calls.fopen (dataFile (keyOf so)) made ↔
                        calls.fopen = none := by
                      unfold Opens
                      rw [dirname_dataFile, hmade, hmade, if_pos rfl,
                        if_neg (dataDir_ne_dataFile _ _).symm, node_dataFile_of_none hvacant]
                      simp
                    dsimp only
                    cases hwrite : writeFile calls.fopen calls.written (dataFile (keyOf so))
                        (load ⟨0, soSize so⟩ so) made with
                    | error errno =>
                        apply StoreEnds.notOpened hall made hmade
                        intro hnone
                        obtain ⟨files, hok⟩ := (writeFile_eq_ok_iff calls.fopen calls.written _
                          (load ⟨0, soSize so⟩ so) made).mpr (hopens.mpr hnone)
                        rw [hwrite] at hok
                        cases hok
                    | ok files =>
                        apply StoreEnds.stored hall (hopens.mp (opens_of_writeFile hwrite)) files
                        intro q
                        rw [node_writeFile hwrite, hmade, length_load]

end Store

/-! ## When a store succeeds -/

section Results

variable {calls : DataCalls} {so : Memory} {size : UInt32} {fs : Files}

/-- An object of a trustlet whose header gives its size. -/
def Consistent (so : Memory) (size : UInt32) : Prop :=
  IsTlData so size ∧ soSize so = size.toNat

/-- The calls of a store succeed, and the directory of the registry exists. -/
def Succeeds (calls : DataCalls) (fs : Files) : Prop :=
  calls.mkdir = none ∧ calls.fopen = none ∧ fs.node getRegistryPath = some .dir

/-- While the file system succeeds, a store succeeds if the trustlet has no directory yet. -/
theorem store_ok_iff (hdata : IsTlData so size) (hfs : Succeeds calls fs) :
    (mcRegistryStoreData calls so size fs).ret = mcDrvOk ↔ fs.node (dataDir (keyOf so)) = none := by
  obtain ⟨hmkdir, hfopen, hregistry⟩ := hfs
  have hends : StoreEnds calls so size fs (mcRegistryStoreData calls so size fs) := storeEnds
  generalize mcRegistryStoreData calls so size fs = run at hends
  cases hends with
  | refused h ret hret =>
      exact iff_of_false hret fun hnone => h ⟨hdata, hmkdir, hnone, hregistry⟩
  | notOpened h made hmade hclosed => exact absurd hfopen hclosed
  | stored h hfopen files hfiles => exact iff_of_true rfl h.2.2.1

/-- No more is written than was given, unless the header of an object that is written gives
more. -/
theorem copied_le_iff :
    (mcRegistryStoreData calls so size fs).copied ≤ size.toNat ↔
      (IsTlData so size → MakesDir calls so fs → calls.fopen = none → soSize so ≤ size.toNat) := by
  have hends : StoreEnds calls so size fs (mcRegistryStoreData calls so size fs) := storeEnds
  generalize mcRegistryStoreData calls so size fs = run at hends
  cases hends with
  | refused h ret hret =>
      exact iff_of_true (Nat.zero_le _) fun hdata hdir => absurd ⟨hdata, hdir⟩ h
  | notOpened h made hmade hclosed =>
      exact iff_of_true (Nat.zero_le _) fun _ _ hfopen => absurd hfopen hclosed
  | stored h hfopen files hfiles =>
      exact ⟨fun hle _ _ _ => hle, fun hle => hle h.1 h.2 hfopen⟩

end Results

/-! ## When a read returns an object -/

section Read

variable {p : PointerWidth} {so : Memory} {maxLen : UInt32} {fs : Files} {obj : List UInt8}

/-- The bytes of an object whose header gives their number. -/
def SelfSized (obj : List UInt8) : Prop :=
  ∃ m, obj = load ⟨0, mcSoDataContSize⟩ m ∧ soSize m = mcSoDataContSize

theorem soSize_congr {m m' : Memory}
    (h : load ⟨0, mcSoHeaderSize⟩ m = load ⟨0, mcSoHeaderSize⟩ m') : soSize m = soSize m' := by
  have hword : ∀ off, off + 4 ≤ mcSoHeaderSize → u32At m off = u32At m' off := by
    intro off hoff
    have hload : load ⟨0 + off, 4⟩ m = load ⟨0 + off, 4⟩ m' := by
      rw [← @take_drop_load 0 mcSoHeaderSize off 4 hoff,
        ← @take_drop_load 0 mcSoHeaderSize off 4 hoff, h]
    rw [Nat.zero_add] at hload
    rw [u32At, u32At, value, value, hload]
  rw [soSize, soSize, plainLen, plainLen, encryptedLen, encryptedLen,
    hword _ (by decide), hword _ (by decide)]

theorem SelfSized.length {obj : List UInt8} (h : SelfSized obj) : obj.length = 2168 := by
  obtain ⟨m, hobj, _⟩ := h
  rw [hobj, length_load, mcSoSizes.1]

/-- A memory that begins with the header of such an object gives its size. -/
theorem SelfSized.soSize_eq (h : SelfSized obj) {m : Memory}
    (hheader : load ⟨0, mcSoHeaderSize⟩ m = obj.take mcSoHeaderSize) : soSize m = 2168 := by
  obtain ⟨m', hobj, hsize⟩ := h
  rw [hobj, take_load (by decide)] at hheader
  rw [soSize_congr hheader, hsize, mcSoSizes.1]

/-- The size of the rest does not wrap for an object of this size. -/
theorem restSize_eq {m : Memory} (h : soSize m = 2168) : restSize p m = 2124 := by
  rw [restSize, h, mcSoSizes.2, ServiceBlob.sizeT]
  cases p with
  | bits32 => rfl
  | bits64 => rfl

/-- A read returns an object. -/
def Returns (p : PointerWidth) (so : Memory) (maxLen : UInt32) (cid : McUuid) (pid : UInt32)
    (fs : Files) (obj : List UInt8) : Prop :=
  (mcRegistryReadData p 1 cid pid so maxLen fs).1 = mcDrvOk ∧
    load ⟨0, obj.length⟩ (mcRegistryReadData p 1 cid pid so maxLen fs).2 = obj

/-- The keys in the buffer name a file that begins with an object, and is not longer than the
buffer. -/
def Names (p : PointerWidth) (so : Memory) (maxLen : UInt32) (fs : Files) (obj : List UInt8) :
    Prop :=
  ∃ content, fs.node (dataFile (keyOf so)) = some (.file content) ∧ obj <+: content ∧
    RegistryFile.filesize p ⟨content, content.length⟩ ≤ maxLen.toNat

/-- What the buffer holds after a read that succeeds. -/
def filled (header rest : List UInt8) (so : Memory) : Memory :=
  store mcSoHeaderSize rest (store 0 header so)

theorem load_filled {header : List UInt8} (rest : List UInt8)
    (hheader : header.length = mcSoHeaderSize) (so : Memory) :
    load ⟨0, mcSoHeaderSize + rest.length⟩ (filled header rest so) = header ++ rest := by
  have hfirst : load ⟨0, mcSoHeaderSize⟩ (filled header rest so) = header := by
    have hkeep : load ⟨0, mcSoHeaderSize⟩ (filled header rest so) =
        load ⟨0, mcSoHeaderSize⟩ (store 0 header so) :=
      load_store_of_disjoint (Or.inl (le_of_eq (Nat.zero_add _))) _
    rw [hkeep]
    exact load_store_self (r := ⟨0, mcSoHeaderSize⟩) hheader so
  have hrest : load ⟨mcSoHeaderSize, rest.length⟩ (filled header rest so) = rest :=
    load_store_self (r := ⟨mcSoHeaderSize, rest.length⟩) rfl _
  rw [load_append, Nat.zero_add, hfirst, hrest]

theorem read_of_file {content : List UInt8} {cid : McUuid} {pid : UInt32}
    (hnode : fs.node (dataFile (keyOf so)) = some (.file content)) :
    mcRegistryReadData p 1 cid pid so maxLen fs =
      if maxLen.toNat < RegistryFile.filesize p ⟨content, content.length⟩ then
        (mcDrvErrOutOfResources, so)
      else
        let header := content.take mcSoHeaderSize
        let rest := (content.drop mcSoHeaderSize).take (restSize p (store 0 header so))
        if header.length ≠ mcSoHeaderSize then (mcDrvErrInvalidParameter, store 0 header so)
        else if rest.length ≠ restSize p (store 0 header so) then
          (mcDrvErrInvalidParameter, filled header rest so)
        else (mcDrvOk, filled header rest so) := by
  have hfile : getTlDataFilePath (contUuid so).val (contPid so) = dataFile (keyOf so) := rfl
  have hopen : fs.openRead (dataFile (keyOf so)) = .ok content := by
    rw [Tree.openRead, hnode]
  unfold mcRegistryReadData
  rw [if_neg (by decide : (1 : UInt32) ≠ 0), if_neg (not_not.mpr rfl), hfile, hopen]
  rfl

theorem read_of_no_file {cid : McUuid} {pid : UInt32}
    (hnode : ∀ content, fs.node (dataFile (keyOf so)) ≠ some (.file content)) :
    (mcRegistryReadData p 1 cid pid so maxLen fs).1 ≠ mcDrvOk := by
  have hfile : getTlDataFilePath (contUuid so).val (contPid so) = dataFile (keyOf so) := rfl
  unfold mcRegistryReadData
  rw [if_neg (by decide : (1 : UInt32) ≠ 0), if_neg (not_not.mpr rfl), hfile]
  cases hnone : fs.node (dataFile (keyOf so)) with
  | none =>
      have hopen : fs.openRead (dataFile (keyOf so)) = .error .enoent := by
        rw [Tree.openRead, hnone]
      rw [hopen]
      exact (by decide : mcDrvErrInvalidDeviceFile ≠ mcDrvOk)
  | some node =>
      cases node with
      | file content => exact absurd hnone (hnode content)
      | dir =>
          have hopen : fs.openRead (dataFile (keyOf so)) = .ok [] := by
            rw [Tree.openRead, hnone]
          rw [hopen]
          dsimp only
          split
          · exact (by decide : mcDrvErrOutOfResources ≠ mcDrvOk)
          · rw [if_pos (by decide)]
            exact (by decide : mcDrvErrInvalidParameter ≠ mcDrvOk)

end Read

section Return

variable {p : PointerWidth} {so : Memory} {maxLen : UInt32} {fs : Files} {obj : List UInt8}
  {cid : McUuid} {pid : UInt32}

/-- Header and rest of a file that begins with an object. -/
theorem parts_of_prefix {content : List UInt8} (hlen : obj.length = 2168) :
    obj <+: content ↔
      obj = content.take mcSoHeaderSize ++ (content.drop mcSoHeaderSize).take 2124 := by
  rw [List.prefix_iff_eq_take, hlen, mcSoSizes.2]
  exact iff_of_eq (congrArg (fun bytes => obj = bytes) (List.take_add (i := 44) (j := 2124)))

theorem returns_iff (h : SelfSized obj) :
    Returns p so maxLen cid pid fs obj ↔ Names p so maxLen fs obj := by
  have hlen := h.length
  have hheaderSize := mcSoSizes.2
  have htotal : mcSoHeaderSize + 2124 = obj.length := by rw [hlen, hheaderSize]
  by_cases hfile : ∃ content, fs.node (dataFile (keyOf so)) = some (.file content)
  · obtain ⟨content, hnode⟩ := hfile
    have hnames : Names p so maxLen fs obj ↔ obj <+: content ∧
        RegistryFile.filesize p ⟨content, content.length⟩ ≤ maxLen.toNat := by
      constructor
      · rintro ⟨content', hnode', hrest⟩
        rw [hnode, Option.some.injEq, Node.file.injEq] at hnode'
        rwa [hnode']
      · exact fun hrest => ⟨content, hnode, hrest⟩
    rw [hnames, parts_of_prefix hlen, Returns, read_of_file hnode]
    generalize hheader : content.take mcSoHeaderSize = header
    -- the header in the buffer decides how much of the file is read
    have hsized : header = obj.take mcSoHeaderSize → header.length = mcSoHeaderSize →
        restSize p (store 0 header so) = 2124 := by
      intro heq hfull
      apply restSize_eq
      apply h.soSize_eq
      rw [← heq]
      exact load_store_self (r := ⟨0, mcSoHeaderSize⟩) hfull so
    constructor
    · intro hreturns
      split at hreturns
      · exact absurd hreturns.1 (by decide : mcDrvErrOutOfResources ≠ mcDrvOk)
      · next hfits =>
          dsimp only at hreturns
          split at hreturns
          · exact absurd hreturns.1 (by decide : mcDrvErrInvalidParameter ≠ mcDrvOk)
          · next hfull =>
              rw [ne_eq, not_not] at hfull
              split at hreturns
              · exact absurd hreturns.1 (by decide : mcDrvErrInvalidParameter ≠ mcDrvOk)
              · next hrest =>
                  rw [ne_eq, not_not] at hrest
                  obtain ⟨_, hload⟩ := hreturns
                  have hload : load ⟨0, obj.length⟩ (filled header
                      ((content.drop mcSoHeaderSize).take (restSize p (store 0 header so))) so) =
                        obj := hload
                  have hsplit := load_filled ((content.drop mcSoHeaderSize).take
                    (restSize p (store 0 header so))) hfull so
                  rw [hrest] at hsplit
                  have hfirst : header = obj.take mcSoHeaderSize := by
                    have hbegin := congrArg (List.take mcSoHeaderSize) hsplit
                    rw [take_load (by omega), List.take_left' hfull] at hbegin
                    rw [← hload, take_load (by omega), hbegin]
                  have hsize := hsized hfirst hfull
                  rw [hsize, htotal] at hsplit
                  rw [hsize] at hload
                  exact ⟨hload.symm.trans hsplit, Nat.le_of_not_lt hfits⟩
    · rintro ⟨hparts, hfits⟩
      have hfull : header.length = mcSoHeaderSize := by
        have hlength := congrArg List.length hparts
        rw [List.length_append, List.length_take, ← hheader, List.length_take] at hlength
        rw [← hheader, List.length_take]
        omega
      have hfirst : header = obj.take mcSoHeaderSize := by
        rw [hparts, List.take_left' hfull]
      have hsize := hsized hfirst hfull
      have hrest : ((content.drop mcSoHeaderSize).take 2124).length = 2124 := by
        have hlength := congrArg List.length hparts
        rw [List.length_append, hfull] at hlength
        omega
      dsimp only
      rw [if_neg (Nat.not_lt_of_le hfits), if_neg (not_not.mpr hfull), hsize,
        if_neg (not_not.mpr hrest)]
      refine ⟨rfl, ?_⟩
      have hload := load_filled ((content.drop mcSoHeaderSize).take 2124) hfull so
      rw [hrest, htotal, ← hparts] at hload
      exact hload
  · apply iff_of_false
    · intro hreturns
      exact read_of_no_file (fun content hnode => hfile ⟨content, hnode⟩) hreturns.1
    · rintro ⟨content, hnode, _⟩
      exact hfile ⟨content, hnode⟩

end Return

/-! ## Runs -/

/-- The files of the registry, and the objects that were stored last. -/
structure DataRegistry where
  files : Files
  held : DataKey → Option (List UInt8)

/-- The calls of a run. -/
inductive DataCall where
  | store (calls : DataCalls) (so : Memory) (size : UInt32)
  | read (context : UInt32) (cid : McUuid) (pid : UInt32) (so : Memory) (maxLen : UInt32)

/-- A store that succeeds puts its object under its keys; nothing is said of an object whose
header gives another size, or that did not reach the file. -/
def heldAfter (calls : DataCalls) (so : Memory) (size : UInt32) (ret : McResult)
    (held : DataKey → Option (List UInt8)) : DataKey → Option (List UInt8) :=
  if ret = mcDrvOk then
    Function.update held (keyOf so)
      (if soSize so = size.toNat ∧ soSize so ≤ calls.written.getD (soSize so) then
        some (load ⟨0, size.toNat⟩ so)
      else none)
  else held

/-- The registry; a read leaves it as it is. -/
def system : TransitionSystem DataRegistry DataCall where
  step s
    | .store calls so size =>
        let run := mcRegistryStoreData calls so size s.files
        some { files := run.files, held := heldAfter calls so size run.ret s.held }
    | .read _ _ _ _ _ => some s

/-- The registry as it is found. -/
def start (fs : Files) : DataRegistry where
  files := fs
  held := fun _ => none

/-- A store writes no more than it was given, and succeeds with an object whose header gives
its size while the file system does.  A read returns the object that was stored last under its
keys. -/
def Behaves (p : PointerWidth) (s : DataRegistry) : DataCall → Prop
  | .store calls so size =>
      (mcRegistryStoreData calls so size s.files).copied ≤ size.toNat ∧
        (Consistent so size → Succeeds calls s.files →
          (mcRegistryStoreData calls so size s.files).ret = mcDrvOk)
  | .read context cid pid so maxLen =>
      context = 1 → ∀ obj ∈ s.held (cid, pid), obj.length ≤ maxLen.toNat →
        Returns p so maxLen cid pid s.files obj

/-- The header of an object that is written gives no more than its size, and a trustlet has no
directory when an object of it is stored.  The keys in the buffer of a read name a file that
begins with the object that was asked for. -/
def Meets (p : PointerWidth) (s : DataRegistry) : DataCall → Prop
  | .store calls so size =>
      (IsTlData so size → MakesDir calls so s.files → calls.fopen = none →
        soSize so ≤ size.toNat) ∧
        (Consistent so size → Succeeds calls s.files → s.files.node (dataDir (keyOf so)) = none)
  | .read context cid pid so maxLen =>
      context = 1 → ∀ obj ∈ s.held (cid, pid), obj.length ≤ maxLen.toNat →
        Names p so maxLen s.files obj

/-- The files hold the objects that were stored last. -/
def Kept (s : DataRegistry) : Prop :=
  ∀ key, ∀ obj ∈ s.held key, s.files.node (dataFile key) = some (.file obj) ∧ SelfSized obj

theorem kept_start (fs : Files) : Kept (start fs) := by
  intro key obj hobj
  exact absurd hobj (Option.not_mem_none obj)

theorem selfSized_load {so : Memory} {size : UInt32} (hsize : size.toNat = mcSoDataContSize)
    (hso : soSize so = size.toNat) : SelfSized (load ⟨0, size.toNat⟩ so) :=
  ⟨so, by rw [hsize], hso.trans hsize⟩

theorem kept_store {s : DataRegistry} (h : Kept s) (calls : DataCalls) (so : Memory)
    (size : UInt32) :
    Kept
      { files := (mcRegistryStoreData calls so size s.files).files
        held := heldAfter calls so size (mcRegistryStoreData calls so size s.files).ret s.held } := by
  have hends : StoreEnds calls so size s.files (mcRegistryStoreData calls so size s.files) :=
    storeEnds
  generalize mcRegistryStoreData calls so size s.files = run at hends
  cases hends with
  | refused hnot ret hret =>
      simp only [heldAfter, if_neg hret]
      exact h
  | notOpened hall made hmade hclosed =>
      have hret : mcDrvErrInvalidDeviceFile ≠ mcDrvOk := by decide
      simp only [heldAfter, if_neg hret]
      intro key obj hobj
      obtain ⟨hnode, hsized⟩ := h key obj hobj
      refine ⟨?_, hsized⟩
      show made.node (dataFile key) = some (.file obj)
      rw [hmade, if_neg (dataDir_ne_dataFile _ _).symm, hnode]
  | stored hall hfopen files hfiles =>
      simp only [heldAfter, if_true]
      intro key obj hobj
      show files.node (dataFile key) = some (.file obj) ∧ SelfSized obj
      rw [hfiles]
      by_cases hkey : key = keyOf so
      · simp only [hkey, Function.update_self] at hobj
        rw [hkey, if_pos rfl]
        split at hobj
        · next hwhole =>
            rw [Option.mem_some_iff] at hobj
            rw [← hobj, List.take_of_length_le (by rw [length_load]; exact hwhole.2), hwhole.1]
            exact ⟨rfl, selfSized_load hall.1.1 hwhole.1⟩
        · exact absurd hobj (Option.not_mem_none obj)
      · simp only [Function.update_of_ne hkey] at hobj
        obtain ⟨hnode, hsized⟩ := h key obj hobj
        rw [if_neg fun heq => hkey (dataFile_inj heq), if_neg (dataDir_ne_dataFile _ _).symm]
        exact ⟨hnode, hsized⟩

theorem kept_step (s : DataRegistry) (call : DataCall) (t : DataRegistry) (h : Kept s)
    (hstep : system.step s call = some t) : Kept t := by
  cases call with
  | store calls so size =>
      rw [← Option.some.inj hstep]
      exact kept_store h calls so size
  | read context cid pid so maxLen =>
      rw [← Option.some.inj hstep]
      exact h

/-- A call behaves as it should exactly when it meets the condition. -/
theorem behaves_call_iff {p : PointerWidth} {s : DataRegistry} (h : Kept s) (call : DataCall) :
    Behaves p s call ↔ Meets p s call := by
  cases call with
  | store calls so size =>
      apply and_congr copied_le_iff
      apply imp_congr_right
      intro hconsistent
      apply imp_congr_right
      intro hfs
      exact store_ok_iff hconsistent.1 hfs
  | read context cid pid so maxLen =>
      apply imp_congr_right
      intro _
      apply forall_congr'
      intro obj
      apply imp_congr_right
      intro hobj
      apply imp_congr_right
      intro _
      exact returns_iff (h _ _ hobj).2

/-- A buffer with the keys that are asked for meets the condition. -/
theorem names_of_held {p : PointerWidth} {s : DataRegistry} (h : Kept s) {so : Memory}
    {maxLen : UInt32} {obj : List UInt8} (hobj : obj ∈ s.held (keyOf so))
    (hmax : obj.length ≤ maxLen.toNat) : Names p so maxLen s.files obj := by
  obtain ⟨hnode, hsized⟩ := h _ _ hobj
  refine ⟨obj, hnode, List.prefix_refl obj, le_trans (le_of_eq ?_) hmax⟩
  have hlen := hsized.length
  unfold RegistryFile.filesize
  cases p with
  | bits64 => exact Nat.mod_eq_of_lt (lt_of_le_of_lt hlen.le (by decide))
  | bits32 => exact if_pos (lt_of_le_of_lt hlen.le (by decide))

/-- A secure object of the right size. -/
def dataObject : Memory :=
  store 44 [5, 0, 0, 0] (store 36 [28, 0, 0, 0, 0, 8, 0, 0] fun _ => 0)

end DataContainers

end Exynos8890.MobiCore
