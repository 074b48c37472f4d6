import Exynos8890.MobiCore.RegistryFiles
import Exynos8890.MobiCore.RegistryStore
import Exynos8890.MobiCore.TABlob

/-!
# Storing a TA blob and getting it back

`mcRegistryStoreTABlob` writes the binary of a trusted application, and for an application of a
service provider the id of the provider, into two files.  `mcRegistryGetServiceBlob` reads
both.

Main results:

- Theorem `storeOutcome`: how a store ends, and what it leaves.
- Theorem `passes_iff`: what the files must hold for a blob to be passed on.
- Theorem `allOrNothing_iff`: when a store that fails leaves no trace, and one that succeeds
  can be got back.
- Theorem `not_allOrNothing`: the file of the provider's id cannot be opened.
-/

namespace Exynos8890.MobiCore

namespace TABlob

open CStruct FileSystem RegistryFiles SecureStorage ServiceBlob

/-! ## Storing -/

/-- Which `fopen` fails, and how many bytes reach the two files. -/
structure BlobCalls where
  openBin : Option Errno := none
  writtenBin : Option Nat := none
  openSpid : Option Errno := none
  writtenSpid : Option Nat := none

/-- The blob, of the size that is given for it. -/
def blobBytes (blob : Memory) (size : UInt32) : List UInt8 :=
  load ⟨0, size.toNat⟩ blob

/-- `mcRegistryStoreTABlob`. -/
def mcRegistryStoreTABlob (p : PointerWidth) (calls : BlobCalls) (spid : UInt32) (blob : Memory)
    (size : UInt32) (fs : Files) : McResult × Files :=
  match (checkTABlob p spid blob size).ret with
  | .error ret => (ret, fs)
  | .ok uuid =>
      let tlBinFilePath := getTABinFilePath (hostOf fs) uuid.val
      match writeFile calls.openBin calls.writtenBin tlBinFilePath (blobBytes blob size) fs with
      | .error _ => (mcDrvErrInvalidDeviceFile, fs)
      | .ok fs =>
          if serviceType p blob = serviceTypeSpTrustlet then
            let taspidFilePath := getTASpidFilePath (hostOf fs) uuid.val
            match writeFile calls.openSpid calls.writtenSpid taspidFilePath
                (littleEndian 4 spid.toNat) fs with
            | .error _ => (mcDrvErrInvalidDeviceFile, fs)
            | .ok fs => (mcDrvOk, fs)
          else (mcDrvOk, fs)

/-! ## Getting -/

/-- What `mcRegistryMemGetServiceBlob` is called with. -/
structure BlobArguments where
  spid : UInt32
  trustlet : List UInt8
  tlSize : UInt32

/-- `mcRegistryFileGetServiceBlob`, up to the call: neither a directory nor an empty file can
be mapped. -/
def mcRegistryFileGetServiceBlob (trustlet : Text) (spid : UInt32) (fs : Files) :
    Option BlobArguments :=
  match fs.node trustlet with
  | none | some .dir => none
  | some (.file content) =>
      if content = [] then none
      else some { spid := spid, trustlet := content, tlSize := UInt32.ofNat content.length }

/-- `mcRegistryGetServiceBlob`, up to the call. -/
def mcRegistryGetServiceBlob (uuid : McUuid) (isGpUuid : Bool) (fs : Files) :
    Option BlobArguments :=
  let tlBinFilePath :=
    if isGpUuid then getTABinFilePath (hostOf fs) uuid.val
    else getTlBinFilePath (hostOf fs) uuid.val
  if isGpUuid then
    match fs.node (getTASpidFilePath (hostOf fs) uuid.val) with
    | none => mcRegistryFileGetServiceBlob tlBinFilePath 0 fs
    | some .dir => none
    | some (.file content) =>
        if content.length < 4 then none
        else
          mcRegistryFileGetServiceBlob tlBinFilePath
            (UInt32.ofNat (ofLittleEndian (content.take 4))) fs
  else mcRegistryFileGetServiceBlob tlBinFilePath 0 fs

/-- The path of the binary. -/
def binPath (uuid : McUuid) (fs : Files) : Text :=
  (RegistryObject.taBin uuid).path (hostOf fs)

/-- The path of the provider's id. -/
def spidPath (uuid : McUuid) (fs : Files) : Text :=
  (RegistryObject.taSpid uuid).path (hostOf fs)

section Get

variable {p : PointerWidth} {blob : Memory} {size spid : UInt32} {uuid : McUuid} {fs : Files}
  {arguments : BlobArguments}

theorem fileGet_eq_some {path : Text} :
    mcRegistryFileGetServiceBlob path spid fs = some arguments ↔
      fs.node path = some (.file arguments.trustlet) ∧ arguments.trustlet ≠ [] ∧
        arguments.spid = spid ∧ arguments.tlSize = UInt32.ofNat arguments.trustlet.length := by
  obtain ⟨argSpid, trustlet, tlSize⟩ := arguments
  unfold mcRegistryFileGetServiceBlob
  cases hnode : fs.node path with
  | none => simp
  | some node =>
      cases node with
      | dir => simp
      | file content =>
          by_cases hempty : content = []
          · simp only [hempty, if_true]
            apply iff_of_false
            · exact fun h => Option.some_ne_none _ h.symm
            · rintro ⟨hfile, hne, _⟩
              simp only [Option.some.injEq, Node.file.injEq] at hfile
              exact hne hfile.symm
          · simp only [if_neg hempty, Option.some.injEq, BlobArguments.mk.injEq, Node.file.injEq]
            constructor
            · rintro ⟨rfl, rfl, rfl⟩
              exact ⟨rfl, hempty, rfl, rfl⟩
            · rintro ⟨rfl, _, rfl, rfl⟩
              exact ⟨rfl, rfl, rfl⟩

/-- What the file of the provider's id says: nothing, or its first four bytes. -/
inductive SpidRead (uuid : McUuid) (fs : Files) (spid : UInt32) : Prop
  | none (h : fs.node (spidPath uuid fs) = none) (hspid : spid = 0)
  | file (content : List UInt8) (h : fs.node (spidPath uuid fs) = some (.file content))
      (hlen : 4 ≤ content.length) (hspid : spid = UInt32.ofNat (ofLittleEndian (content.take 4)))

theorem get_eq_some :
    mcRegistryGetServiceBlob uuid true fs = some arguments ↔
      SpidRead uuid fs arguments.spid ∧
        fs.node (binPath uuid fs) = some (.file arguments.trustlet) ∧ arguments.trustlet ≠ [] ∧
          arguments.tlSize = UInt32.ofNat arguments.trustlet.length := by
  have hspidPath : getTASpidFilePath (hostOf fs) uuid.val = spidPath uuid fs := rfl
  have hbinPath : getTABinFilePath (hostOf fs) uuid.val = binPath uuid fs := rfl
  unfold mcRegistryGetServiceBlob
  simp only [if_true, hspidPath, hbinPath]
  cases hnode : fs.node (spidPath uuid fs) with
  | none =>
      simp only [fileGet_eq_some]
      constructor
      · rintro ⟨hfile, hne, hspid, hsize⟩
        exact ⟨.none hnode hspid, hfile, hne, hsize⟩
      · rintro ⟨hspid, hfile, hne, hsize⟩
        cases hspid with
        | none _ hspid => exact ⟨hfile, hne, hspid, hsize⟩
        | file content h _ _ =>
            rw [hnode] at h
            cases h
  | some node =>
      cases node with
      | dir =>
          apply iff_of_false
          · exact fun h => Option.some_ne_none _ h.symm
          · rintro ⟨hspid, _⟩
            cases hspid with
            | none h _ =>
                rw [hnode] at h
                cases h
            | file content h _ _ =>
                rw [hnode] at h
                cases h
      | file content =>
          by_cases hlen : content.length < 4
          · simp only [if_pos hlen]
            apply iff_of_false
            · exact fun h => Option.some_ne_none _ h.symm
            · rintro ⟨hspid, _⟩
              cases hspid with
              | none h _ =>
                  rw [hnode] at h
                  cases h
              | file content' h hlen' _ =>
                  rw [hnode] at h
                  cases h
                  omega
          · simp only [if_neg hlen, fileGet_eq_some]
            constructor
            · rintro ⟨hfile, hne, hspid, hsize⟩
              exact ⟨.file content hnode (Nat.le_of_not_lt hlen) hspid, hfile, hne, hsize⟩
            · rintro ⟨hspid, hfile, hne, hsize⟩
              cases hspid with
              | none h _ =>
                  rw [hnode] at h
                  cases h
              | file content' h _ hspid =>
                  rw [hnode] at h
                  cases h
                  exact ⟨hfile, hne, hspid, hsize⟩

end Get

/-! ## How a store ends -/

section Store

variable {p : PointerWidth} {calls : BlobCalls} {spid size : UInt32} {blob : Memory}
  {uuid : McUuid} {fs fs' : Files}

/-- The ends of a store of a blob that passes the checks. -/
inductive StoreOutcome (p : PointerWidth) (calls : BlobCalls) (spid : UInt32) (blob : Memory)
    (size : UInt32) (uuid : McUuid) (fs : Files) : McResult × Files → Prop
  | noBin (hclosed : ¬ Opens calls.openBin (binPath uuid fs) fs) :
      StoreOutcome p calls spid blob size uuid fs (mcDrvErrInvalidDeviceFile, fs)
  | system (hservice : serviceType p blob ≠ serviceTypeSpTrustlet) (opened : Files)
      (hbin : writeFile calls.openBin calls.writtenBin (binPath uuid fs) (blobBytes blob size) fs =
        .ok opened) :
      StoreOutcome p calls spid blob size uuid fs (mcDrvOk, opened)
  | noSpid (hservice : serviceType p blob = serviceTypeSpTrustlet) (opened : Files)
      (hbin : writeFile calls.openBin calls.writtenBin (binPath uuid fs) (blobBytes blob size) fs =
        .ok opened)
      (hclosed : ¬ Opens calls.openSpid (spidPath uuid opened) opened) :
      StoreOutcome p calls spid blob size uuid fs (mcDrvErrInvalidDeviceFile, opened)
  | provider (hservice : serviceType p blob = serviceTypeSpTrustlet) (opened stored : Files)
      (hbin : writeFile calls.openBin calls.writtenBin (binPath uuid fs) (blobBytes blob size) fs =
        .ok opened)
      (hspid : writeFile calls.openSpid calls.writtenSpid (spidPath uuid opened)
        (littleEndian 4 spid.toNat) opened = .ok stored) :
      StoreOutcome p calls spid blob size uuid fs (mcDrvOk, stored)

theorem not_opens_of_error {failure : Option Errno} {written : Option Nat} {path : Text}
    {bytes : List UInt8} {errno : Errno}
    (h : writeFile failure written path bytes fs = .error errno) : ¬ Opens failure path fs := by
  intro hopens
  obtain ⟨fs', hok⟩ := (writeFile_eq_ok_iff failure written path bytes fs).mpr hopens
  rw [h] at hok
  cases hok

theorem storeOutcome (hret : (checkTABlob p spid blob size).ret = .ok uuid) :
    StoreOutcome p calls spid blob size uuid fs
      (mcRegistryStoreTABlob p calls spid blob size fs) := by
  have hbinPath : getTABinFilePath (hostOf fs) uuid.val = binPath uuid fs := rfl
  unfold mcRegistryStoreTABlob
  simp only [hret, hbinPath]
  cases hbin : writeFile calls.openBin calls.writtenBin (binPath uuid fs) (blobBytes blob size)
      fs with
  | error errno => exact .noBin (not_opens_of_error hbin)
  | ok opened =>
      have hspidPath : getTASpidFilePath (hostOf opened) uuid.val = spidPath uuid opened := rfl
      by_cases hservice : serviceType p blob = serviceTypeSpTrustlet
      · simp only [if_pos hservice, hspidPath]
        cases hspid : writeFile calls.openSpid calls.writtenSpid (spidPath uuid opened)
            (littleEndian 4 spid.toNat) opened with
        | error errno => exact .noSpid hservice opened hbin (not_opens_of_error hspid)
        | ok stored => exact .provider hservice opened stored hbin hspid
      · simp only [if_neg hservice]
        exact .system hservice opened hbin

/-! ## The two files -/

theorem binPath_congr (h : SameDirs fs fs') : binPath uuid fs = binPath uuid fs' :=
  path_hostOf h _

theorem spidPath_congr (h : SameDirs fs fs') : spidPath uuid fs = spidPath uuid fs' :=
  path_hostOf h _

theorem binPath_ne_spidPath : binPath uuid fs ≠ spidPath uuid fs' := by
  intro heq
  have hobject := RegistryObject.path_inj heq
  cases hobject

theorem dirname_spidPath : dirname (spidPath uuid fs) = dirname (binPath uuid fs) := by
  rw [spidPath, binPath, dirname_path, dirname_path]
  rfl

theorem spidRead_congr {read : UInt32} (hdirs : SameDirs fs fs')
    (hnode : fs'.node (spidPath uuid fs) = fs.node (spidPath uuid fs)) :
    SpidRead uuid fs' read ↔ SpidRead uuid fs read := by
  have hpath : spidPath uuid fs = spidPath uuid fs' := spidPath_congr hdirs
  constructor
  · intro h
    cases h with
    | none h hspid => exact .none (by rw [← hnode, hpath, h]) hspid
    | file content h hlen hspid => exact .file content (by rw [← hnode, hpath, h]) hlen hspid
  · intro h
    cases h with
    | none h hspid => exact .none (by rw [← hpath, hnode, h]) hspid
    | file content h hlen hspid => exact .file content (by rw [← hpath, hnode, h]) hlen hspid

theorem length_blobBytes : (blobBytes blob size).length = size.toNat :=
  length_load _ _

theorem size_of_checked (hret : (checkTABlob p spid blob size).ret = .ok uuid) :
    0 < size.toNat := by
  have hheader : 0 < CStruct.sizeOf (mclfHeaderV24 p) := by cases p <;> decide
  by_contra hzero
  have hshort : size.toNat < CStruct.sizeOf (mclfHeaderV24 p) := by omega
  rw [checkTABlob, if_pos hshort] at hret
  cases hret

/-- The blob is passed on, with the id of its provider if it belongs to one. -/
def PassesBlob (p : PointerWidth) (spid : UInt32) (blob : Memory) (size : UInt32) (uuid : McUuid)
    (fs : Files) : Prop :=
  ∃ arguments, mcRegistryGetServiceBlob uuid true fs = some arguments ∧
    arguments.trustlet = blobBytes blob size ∧ arguments.tlSize = size ∧
    (serviceType p blob = serviceTypeSpTrustlet → arguments.spid = spid)

theorem passes_iff (hsize : 0 < size.toNat) :
    PassesBlob p spid blob size uuid fs ↔
      fs.node (binPath uuid fs) = some (.file (blobBytes blob size)) ∧
        ∃ read, SpidRead uuid fs read ∧
          (serviceType p blob = serviceTypeSpTrustlet → read = spid) := by
  have hlen : (blobBytes blob size).length = size.toNat := length_blobBytes
  constructor
  · rintro ⟨arguments, hget, htrustlet, _, hspid⟩
    obtain ⟨hread, hbin, _, _⟩ := get_eq_some.mp hget
    rw [htrustlet] at hbin
    exact ⟨hbin, arguments.spid, hread, hspid⟩
  · rintro ⟨hbin, read, hread, hspid⟩
    refine ⟨⟨read, blobBytes blob size, size⟩, ?_, rfl, rfl, hspid⟩
    refine get_eq_some.mpr ⟨hread, hbin, ?_, ?_⟩
    · apply List.ne_nil_of_length_pos
      rw [hlen]
      exact hsize
    · rw [hlen]
      exact UInt32.ofNat_toNat.symm

/-! ## All or nothing -/

/-- A store that fails leaves the files as they were.  After one that succeeds the blob is
passed on, and no other object of the registry has changed. -/
structure AllOrNothing (p : PointerWidth) (spid : UInt32) (blob : Memory) (size : UInt32)
    (uuid : McUuid) (fs : Files) (run : McResult × Files) : Prop where
  failed : run.1 ≠ mcDrvOk → ∀ q, run.2.node q = fs.node q
  stored : run.1 = mcDrvOk → PassesBlob p spid blob size uuid run.2
  others : run.1 = mcDrvOk → ∀ a : RegistryObject, a ≠ .taBin uuid → a ≠ .taSpid uuid →
    run.2.node (a.path (hostOf fs)) = fs.node (a.path (hostOf fs))

/-- The file of the provider's id can be opened, if the directory is there. -/
def SpidOpens (calls : BlobCalls) (uuid : McUuid) (fs : Files) : Prop :=
  calls.openSpid = none ∧ fs.node (spidPath uuid fs) ≠ some .dir

/-- Once the binary could be opened: for a service provider both files are written completely,
or the second one cannot be opened and the binary holds already what is written to it; for a
system application the binary is written completely, and what lies under the name of a
provider's id can be read. -/
def Restores (p : PointerWidth) (calls : BlobCalls) (blob : Memory) (size : UInt32)
    (uuid : McUuid) (fs : Files) : Prop :=
  Opens calls.openBin (binPath uuid fs) fs →
    if serviceType p blob = serviceTypeSpTrustlet then
      (SpidOpens calls uuid fs → size.toNat ≤ calls.writtenBin.getD size.toNat ∧
        4 ≤ calls.writtenSpid.getD 4) ∧
      (¬ SpidOpens calls uuid fs → fs.node (binPath uuid fs) =
        some (.file ((blobBytes blob size).take (calls.writtenBin.getD size.toNat))))
    else size.toNat ≤ calls.writtenBin.getD size.toNat ∧ ∃ read, SpidRead uuid fs read

theorem node_binPath {opened : Files}
    (hbin : writeFile calls.openBin calls.writtenBin (binPath uuid fs) (blobBytes blob size) fs =
      .ok opened) :
    opened.node (binPath uuid opened) =
      some (.file ((blobBytes blob size).take (calls.writtenBin.getD size.toNat))) := by
  rw [← binPath_congr (sameDirs_writeFile hbin), node_writeFile hbin, if_pos rfl, length_blobBytes]

theorem opens_spid_iff {opened : Files}
    (hbin : writeFile calls.openBin calls.writtenBin (binPath uuid fs) (blobBytes blob size) fs =
      .ok opened) :
    Opens calls.openSpid (spidPath uuid opened) opened ↔ SpidOpens calls uuid fs := by
  have hdirs := sameDirs_writeFile hbin
  have hparent := (opens_of_writeFile hbin).2.2
  have hdir : opened.node (dirname (spidPath uuid opened)) = some .dir := by
    rw [dirname_spidPath, ← binPath_congr hdirs]
    exact (hdirs _).mp hparent
  unfold Opens SpidOpens
  rw [and_iff_left hdir, ← spidPath_congr hdirs]
  exact and_congr_right fun _ => not_congr (hdirs _).symm

/-- The file is complete exactly when all bytes reached it. -/
theorem file_whole_iff {written : Option Nat} :
    (some (Node.file ((blobBytes blob size).take (written.getD size.toNat))) =
        some (.file (blobBytes blob size))) ↔ size.toNat ≤ written.getD size.toNat := by
  rw [Option.some.injEq, Node.file.injEq, List.take_eq_self_iff, length_blobBytes]

theorem node_other {opened : Files} {a : RegistryObject} (hne : a ≠ .taBin uuid)
    (hbin : writeFile calls.openBin calls.writtenBin (binPath uuid fs) (blobBytes blob size) fs =
      .ok opened) :
    opened.node (a.path (hostOf fs)) = fs.node (a.path (hostOf fs)) := by
  have hpath : a.path (hostOf fs) ≠ binPath uuid fs := fun h => hne (RegistryObject.path_inj h)
  rw [node_writeFile hbin, if_neg hpath]

theorem allOrNothing_system {opened : Files} (hsize : 0 < size.toNat)
    (hservice : serviceType p blob ≠ serviceTypeSpTrustlet)
    (hbin : writeFile calls.openBin calls.writtenBin (binPath uuid fs) (blobBytes blob size) fs =
      .ok opened) :
    AllOrNothing p spid blob size uuid fs (mcDrvOk, opened) ↔
      Restores p calls blob size uuid fs := by
  have hdirs := sameDirs_writeFile hbin
  have hspidNode : opened.node (spidPath uuid fs) = fs.node (spidPath uuid fs) := by
    rw [node_writeFile hbin, if_neg binPath_ne_spidPath.symm]
  have hpasses : PassesBlob p spid blob size uuid opened ↔
      size.toNat ≤ calls.writtenBin.getD size.toNat ∧ ∃ read, SpidRead uuid fs read := by
    rw [passes_iff hsize, node_binPath hbin, file_whole_iff]
    apply and_congr_right
    intro _
    apply exists_congr
    intro read
    rw [spidRead_congr hdirs hspidNode]
    exact and_iff_left fun h => absurd h hservice
  rw [Restores, forall_prop_of_true (opens_of_writeFile hbin), if_neg hservice, ← hpasses]
  constructor
  · exact fun h => h.stored rfl
  · intro h
    exact ⟨fun hne => absurd rfl hne, fun _ => h, fun _ a hne _ => node_other hne hbin⟩

theorem allOrNothing_noSpid {opened : Files}
    (hservice : serviceType p blob = serviceTypeSpTrustlet)
    (hbin : writeFile calls.openBin calls.writtenBin (binPath uuid fs) (blobBytes blob size) fs =
      .ok opened)
    (hclosed : ¬ Opens calls.openSpid (spidPath uuid opened) opened) :
    AllOrNothing p spid blob size uuid fs (mcDrvErrInvalidDeviceFile, opened) ↔
      Restores p calls blob size uuid fs := by
  have hfail : mcDrvErrInvalidDeviceFile ≠ mcDrvOk := by decide
  have hdirs := sameDirs_writeFile hbin
  rw [opens_spid_iff hbin] at hclosed
  rw [Restores, forall_prop_of_true (opens_of_writeFile hbin), if_pos hservice]
  constructor
  · intro h
    refine ⟨fun hopens => absurd hopens hclosed, fun _ => ?_⟩
    have hsame : opened.node (binPath uuid fs) = fs.node (binPath uuid fs) :=
      h.failed hfail (binPath uuid fs)
    rw [← hsame, binPath_congr hdirs, node_binPath hbin]
  · rintro ⟨_, hbefore⟩
    refine ⟨fun _ q => ?_, fun h => absurd h hfail, fun h => absurd h hfail⟩
    show opened.node q = fs.node q
    rw [node_writeFile hbin]
    split
    · next hq =>
        rw [hq, hbefore hclosed, length_blobBytes]
    · rfl

/-- The id of the provider can be read back when it was written completely. -/
theorem spidRead_written {opened stored : Files}
    (hspid : writeFile calls.openSpid calls.writtenSpid (spidPath uuid opened)
      (littleEndian 4 spid.toNat) opened = .ok stored) :
    (∃ read, SpidRead uuid stored read ∧
        (serviceType p blob = serviceTypeSpTrustlet → read = spid)) ↔
      4 ≤ calls.writtenSpid.getD 4 := by
  have hnode : stored.node (spidPath uuid stored) =
      some (.file ((littleEndian 4 spid.toNat).take (calls.writtenSpid.getD 4))) := by
    rw [← spidPath_congr (sameDirs_writeFile hspid), node_writeFile hspid, if_pos rfl,
      length_littleEndian]
  constructor
  · rintro ⟨read, hread, _⟩
    cases hread with
    | none h _ =>
        rw [hnode] at h
        exact absurd h (Option.some_ne_none _)
    | file content h hlen _ =>
        rw [hnode, Option.some.injEq, Node.file.injEq] at h
        rw [← h, List.length_take, length_littleEndian] at hlen
        omega
  · intro hwhole
    have hall : (littleEndian 4 spid.toNat).take (calls.writtenSpid.getD 4) =
        littleEndian 4 spid.toNat := by
      apply List.take_of_length_le
      rw [length_littleEndian]
      exact hwhole
    have hlen : (littleEndian 4 spid.toNat).length = 4 := length_littleEndian _ _
    rw [hall] at hnode
    refine ⟨spid, .file _ hnode hlen.ge ?_, fun _ => rfl⟩
    rw [List.take_of_length_le hlen.le, RegistryStore.ofNat_littleEndian]

theorem allOrNothing_provider {opened stored : Files} (hsize : 0 < size.toNat)
    (hservice : serviceType p blob = serviceTypeSpTrustlet)
    (hbin : writeFile calls.openBin calls.writtenBin (binPath uuid fs) (blobBytes blob size) fs =
      .ok opened)
    (hspid : writeFile calls.openSpid calls.writtenSpid (spidPath uuid opened)
      (littleEndian 4 spid.toNat) opened = .ok stored) :
    AllOrNothing p spid blob size uuid fs (mcDrvOk, stored) ↔
      Restores p calls blob size uuid fs := by
  have hopens := (opens_spid_iff hbin).mp (opens_of_writeFile hspid)
  have hdirs := sameDirs_writeFile hspid
  have hbinNode : stored.node (binPath uuid stored) =
      some (.file ((blobBytes blob size).take (calls.writtenBin.getD size.toNat))) := by
    rw [← binPath_congr hdirs, node_writeFile hspid, if_neg binPath_ne_spidPath,
      node_binPath hbin]
  have hpasses : PassesBlob p spid blob size uuid stored ↔
      size.toNat ≤ calls.writtenBin.getD size.toNat ∧ 4 ≤ calls.writtenSpid.getD 4 := by
    rw [passes_iff hsize, hbinNode, file_whole_iff, spidRead_written hspid]
  rw [Restores, forall_prop_of_true (opens_of_writeFile hbin), if_pos hservice,
    forall_prop_of_true hopens, and_iff_left fun hclosed => absurd hopens hclosed, ← hpasses]
  constructor
  · exact fun h => h.stored rfl
  · intro h
    refine ⟨fun hne => absurd rfl hne, fun _ => h, fun _ a hne hne' => ?_⟩
    have hpath : a.path (hostOf fs) ≠ spidPath uuid opened :=
      fun h => hne' (RegistryObject.path_inj h)
    show stored.node (a.path (hostOf fs)) = fs.node (a.path (hostOf fs))
    rw [node_writeFile hspid, if_neg hpath, node_other hne hbin]

/-- When a store leaves no trace if it fails, and can be got back if it succeeds. -/
theorem allOrNothing_iff (p : PointerWidth) (calls : BlobCalls) (spid : UInt32) (blob : Memory)
    (size : UInt32) (uuid : McUuid) (fs : Files)
    (hret : (checkTABlob p spid blob size).ret = .ok uuid) :
    AllOrNothing p spid blob size uuid fs (mcRegistryStoreTABlob p calls spid blob size fs) ↔
      Restores p calls blob size uuid fs := by
  have hsize := size_of_checked hret
  have houtcome : StoreOutcome p calls spid blob size uuid fs
    (mcRegistryStoreTABlob p calls spid blob size fs) := storeOutcome hret
  generalize mcRegistryStoreTABlob p calls spid blob size fs = run at houtcome ⊢
  cases houtcome with
  | noBin hclosed =>
      have hfail : mcDrvErrInvalidDeviceFile ≠ mcDrvOk := by decide
      apply iff_of_true
      · exact ⟨fun _ _ => rfl, fun h => absurd h hfail, fun h => absurd h hfail⟩
      · exact fun hopens => absurd hopens hclosed
  | system hservice opened hbin => exact allOrNothing_system hsize hservice hbin
  | noSpid hservice opened hbin hclosed => exact allOrNothing_noSpid hservice hbin hclosed
  | provider hservice opened stored hbin hspid =>
      exact allOrNothing_provider hsize hservice hbin hspid

end Store

/-! ## A binary that is left behind -/

/-- A blob of a service provider with an attestation of 40 bytes. -/
def taBlob : Memory :=
  store 136 (attestationMagic ++ [0, 0, 0, 40, 0, 0, 0, 1])
    (store 132 [136] (store 128 [1] (store 16 [2] (store 4 [4, 0, 2, 0] fun _ => 0))))

/-- The uuid of this attestation. -/
def taUuid : McUuid :=
  uuidAt 152 taBlob

theorem checked_taBlob : (checkTABlob .bits64 7 taBlob 176).ret = .ok taUuid := by
  rfl

theorem allOrNothing_iff_taBlob :
    AllOrNothing .bits64 7 taBlob 176 taUuid emptyFiles
        (mcRegistryStoreTABlob .bits64 {} 7 taBlob 176 emptyFiles) ↔
      Restores .bits64 {} taBlob 176 taUuid emptyFiles :=
  allOrNothing_iff .bits64 {} 7 taBlob 176 taUuid emptyFiles checked_taBlob

/-- When the file of the provider's id cannot be opened, the binary is left behind. -/
theorem not_allOrNothing :
    ¬ ∀ p calls spid blob size uuid fs, (checkTABlob p spid blob size).ret = .ok uuid →
      AllOrNothing p spid blob size uuid fs (mcRegistryStoreTABlob p calls spid blob size fs) := by
  intro hall
  have hmeets := hall .bits64 { openSpid := some .eio } 7 taBlob 176 taUuid emptyFiles
    checked_taBlob
  have hnone : emptyFiles.node (binPath taUuid emptyFiles) = none := by decide
  have hparent : emptyFiles.node (dirname (binPath taUuid emptyFiles)) = some .dir := by
    decide
  have houtcome : StoreOutcome .bits64 { openSpid := some .eio } 7 taBlob 176 taUuid emptyFiles
    (mcRegistryStoreTABlob .bits64 { openSpid := some .eio } 7 taBlob 176 emptyFiles) :=
    storeOutcome checked_taBlob
  generalize mcRegistryStoreTABlob .bits64 { openSpid := some .eio } 7 taBlob 176 emptyFiles =
    run at houtcome hmeets
  cases houtcome with
  | noBin hclosed =>
      apply hclosed
      refine ⟨rfl, ?_, hparent⟩
      rw [hnone]
      exact (Option.some_ne_none _).symm
  | system hservice opened hbin => exact hservice (by decide)
  | noSpid hservice opened hbin hclosed =>
      have hsame : opened.node (binPath taUuid emptyFiles) =
          emptyFiles.node (binPath taUuid emptyFiles) :=
        hmeets.failed (by decide : mcDrvErrInvalidDeviceFile ≠ mcDrvOk) _
      rw [node_writeFile hbin, if_pos rfl, hnone] at hsame
      exact Option.some_ne_none _ hsame
  | provider hservice opened stored hbin hspid =>
      exact absurd (opens_of_writeFile hspid).1 (Option.some_ne_none _)

end TABlob

end Exynos8890.MobiCore
