import Exynos8890.MobiCore.DataContainers
import Exynos8890.MobiCore.TABlobStore

/-!
# What the registry can hold

The store operations put files under the paths of registry objects and directories under those
of trustlets, and nothing else.

Main results:

- Definition `storeAll`: any sequence of store operations, with calls that may fail.
- Theorem `puts_run`: what a store operation changes.
- Theorem `orderly_storeAll`: what can be relied on afterwards.
-/

namespace Exynos8890.MobiCore

namespace RegistryContents

open CStruct DataContainers FileSystem RegistryFiles RegistryStore SecureStorage TABlob

/-! ## Store operations -/

/-- `mcRegistryStoreAuthToken`, `mcRegistryStoreRoot`, `mcRegistryStoreSp` and
`mcRegistryStoreTrustletCon`. -/
def storeContainer (key : ContainerKey) (fopen : Option Errno) (written : Option Nat)
    (so : List UInt8) (fs : Files) : McResult × Files :=
  if key = .spCont 0 ∨ so.length > 3 * maxSoContSize then (mcDrvErrInvalidParameter, fs)
  else
    match writeFile fopen written (key.object.path (hostOf fs)) so fs with
    | .error _ => (mcDrvErrInvalidDeviceFile, fs)
    | .ok fs => (mcDrvOk, fs)

/-- A store operation, with the calls that fail in it. -/
inductive StoreCall where
  | container (key : ContainerKey) (fopen : Option Errno) (written : Option Nat) (so : List UInt8)
  | taBlob (calls : BlobCalls) (spid : UInt32) (blob : Memory) (size : UInt32)
  | data (calls : DataCalls) (so : Memory) (size : UInt32)

/-- The files after a store operation. -/
def StoreCall.run (p : PointerWidth) (fs : Files) : StoreCall → Files
  | container key fopen written so => (storeContainer key fopen written so fs).2
  | taBlob calls spid blob size => (mcRegistryStoreTABlob p calls spid blob size fs).2
  | data calls so size => (mcRegistryStoreData calls so size fs).files

/-- The files after a sequence of store operations. -/
def storeAll (p : PointerWidth) (calls : List StoreCall) (fs : Files) : Files :=
  calls.foldl (StoreCall.run p) fs

/-! ## What they change -/

/-- Only files of objects and directories of trustlets are put. -/
def Puts (fs fs' : Files) : Prop :=
  ∀ q, fs'.node q = fs.node q ∨
    (∃ host a content, host.authTokenPath = none ∧ q = RegistryObject.path host a ∧
      fs'.node q = some (.file content)) ∨
    ∃ uuid : McUuid, q = getTlDataPath uuid.val ∧ fs'.node q = some .dir

section Puts

variable {fs fs' fs'' : Files}

theorem puts_refl (fs : Files) : Puts fs fs :=
  fun _ => Or.inl rfl

theorem Puts.trans (h : Puts fs fs') (h' : Puts fs' fs'') : Puts fs fs'' := by
  intro q
  rcases h' q with hsame | hput
  · rw [hsame]
    exact h q
  · exact Or.inr hput

theorem puts_writeFile {failure : Option Errno} {written : Option Nat} {host : RegistryHost}
    {a : RegistryObject} {bytes : List UInt8} (hhost : host.authTokenPath = none)
    (h : writeFile failure written (a.path host) bytes fs = .ok fs') : Puts fs fs' := by
  intro q
  rw [node_writeFile h]
  split
  · next hq => exact Or.inr (Or.inl ⟨host, a, _, hhost, hq, rfl⟩)
  · exact Or.inl rfl

theorem puts_storeContainer (key : ContainerKey) (fopen : Option Errno) (written : Option Nat)
    (so : List UInt8) (fs : Files) : Puts fs (storeContainer key fopen written so fs).2 := by
  unfold storeContainer
  split
  · exact puts_refl fs
  · cases hwrite : writeFile fopen written (key.object.path (hostOf fs)) so fs with
    | error errno => exact puts_refl fs
    | ok fs' => exact puts_writeFile rfl hwrite

theorem puts_storeTABlob (p : PointerWidth) (calls : BlobCalls) (spid : UInt32) (blob : Memory)
    (size : UInt32) (fs : Files) : Puts fs (mcRegistryStoreTABlob p calls spid blob size fs).2 := by
  cases hret : (checkTABlob p spid blob size).ret with
  | error ret =>
      have hrun : mcRegistryStoreTABlob p calls spid blob size fs = (ret, fs) := by
        unfold mcRegistryStoreTABlob
        rw [hret]
      rw [hrun]
      exact puts_refl fs
  | ok uuid =>
      have houtcome : StoreOutcome p calls spid blob size uuid fs
        (mcRegistryStoreTABlob p calls spid blob size fs) := storeOutcome hret
      generalize mcRegistryStoreTABlob p calls spid blob size fs = run at houtcome
      cases houtcome with
      | noBin hclosed => exact puts_refl fs
      | system hservice opened hbin => exact puts_writeFile rfl hbin
      | noSpid hservice opened hbin hclosed => exact puts_writeFile rfl hbin
      | provider hservice opened stored hbin hspid =>
          exact (puts_writeFile rfl hbin).trans (puts_writeFile rfl hspid)

theorem puts_storeData (calls : DataCalls) (so : Memory) (size : UInt32) (fs : Files) :
    Puts fs (mcRegistryStoreData calls so size fs).files := by
  have hends : StoreEnds calls so size fs (mcRegistryStoreData calls so size fs) := storeEnds
  generalize mcRegistryStoreData calls so size fs = run at hends
  cases hends with
  | refused hnot ret hret => exact puts_refl fs
  | notOpened h made hmade hclosed =>
      intro q
      have hnode := hmade q
      by_cases hdir : q = dataDir (keyOf so)
      · rw [if_pos hdir] at hnode
        exact Or.inr (Or.inr ⟨contUuid so, hdir, hnode⟩)
      · rw [if_neg hdir] at hnode
        exact Or.inl hnode
  | stored h hfopen files hfiles =>
      intro q
      have hnode := hfiles q
      by_cases hfile : q = dataFile (keyOf so)
      · rw [if_pos hfile] at hnode
        exact Or.inr (Or.inl ⟨RegistryObject.plainHost, .dataCont (contUuid so) (contPid so), _, rfl,
          hfile, hnode⟩)
      · rw [if_neg hfile] at hnode
        by_cases hdir : q = dataDir (keyOf so)
        · rw [if_pos hdir] at hnode
          exact Or.inr (Or.inr ⟨contUuid so, hdir, hnode⟩)
        · rw [if_neg hdir] at hnode
          exact Or.inl hnode

theorem puts_run (p : PointerWidth) (fs : Files) (call : StoreCall) : Puts fs (call.run p fs) := by
  cases call with
  | container key fopen written so => exact puts_storeContainer key fopen written so fs
  | taBlob calls spid blob size => exact puts_storeTABlob p calls spid blob size fs
  | data calls so size => exact puts_storeData calls so size fs

end Puts

/-! ## What can be relied on -/

/-- Objects are no directories; a trustlet has a directory or nothing, and in the directory
there are files without a dot in front. -/
structure Orderly (fs : Files) : Prop where
  object : ∀ (host : RegistryHost) (a : RegistryObject), host.authTokenPath = none →
    fs.node (a.path host) ≠ some .dir
  dataDir : ∀ uuid : McUuid, fs.node (getTlDataPath uuid.val) = none ∨
    fs.node (getTlDataPath uuid.val) = some .dir
  dataFile : ∀ (uuid : McUuid) (name : Text), '/' ∉ name →
    fs.node (getTlDataPath uuid.val ++ '/' :: name) = none ∨
      (∃ content, fs.node (getTlDataPath uuid.val ++ '/' :: name) = some (.file content)) ∧
        name.head? ≠ some '.'

section Orderly

variable {fs fs' : Files}

/-- The directory of a trustlet lies in the registry and is not the registry. -/
theorem getTlDataPath_ne_getRegistryPath (uuid : List UInt8) :
    getTlDataPath uuid ≠ getRegistryPath := by
  intro h
  have hlength := congrArg List.length h
  rw [getTlDataPath, List.length_append, List.length_cons] at hlength
  omega

theorem dir_authToken {host : RegistryHost} (hhost : host.authTokenPath = none) :
    RegistryObject.authToken.dir host = getRegistryPath := by
  show authTokenDir host = getRegistryPath
  rw [authTokenDir, hhost]

/-- In the directory of a trustlet there are only its data containers. -/
theorem eq_dataCont_of_dir {host : RegistryHost} (hhost : host.authTokenPath = none)
    {a : RegistryObject} {uuid : McUuid} (h : a.dir host = getTlDataPath uuid.val) :
    ∃ pid, a = .dataCont uuid pid := by
  have hregistry : getRegistryPath ≠ getTlDataPath uuid.val :=
    (getTlDataPath_ne_getRegistryPath uuid.val).symm
  have hdefault : mcRegistryDefaultPath ≠ getTlDataPath uuid.val := by
    intro heq
    have hbegin : ['/', 's'] = ['/', 'd'] := congrArg (List.take 2) heq
    exact absurd hbegin (by decide)
  have htl : getTlRegistryPath host ≠ getTlDataPath uuid.val := by
    unfold getTlRegistryPath
    split
    · exact hdefault
    · split <;> exact hregistry
  cases a with
  | authToken => exact absurd ((dir_authToken hhost).symm.trans h) hregistry
  | rootCont | spCont | tlCont => exact absurd h hregistry
  | tlBin | taBin | taSpid => exact absurd h htl
  | dataCont uuid' pid =>
      obtain ⟨_, hname⟩ := HexText.append_sep_inj (not_mem_byteArrayToString uuid'.val).1
        (not_mem_byteArrayToString uuid.val).1 h
      exact ⟨pid, by rw [Subtype.ext (byteArrayToString_inj hname)]⟩

theorem head_dataCont (uuid : McUuid) (pid : UInt32) :
    ((RegistryObject.dataCont uuid pid).stem ++ '.' :: (RegistryObject.dataCont uuid pid).ext).head? ≠
      some '.' := by
  have hlength : (uint32ToString pid).length = 8 := by
    rw [uint32ToString, List.reverse_reverse, HexText.length_hexDigits]
  intro hhead
  have hstem : (RegistryObject.dataCont uuid pid).stem = uint32ToString pid := rfl
  rw [hstem, List.head?_append_of_ne_nil _ (List.ne_nil_of_length_pos (by omega))] at hhead
  exact (not_mem_uint32ToString pid).2 (List.mem_of_head? hhead)

theorem Orderly.of_puts (h : Orderly fs) (hputs : Puts fs fs') : Orderly fs' := by
  constructor
  · intro host a hhost
    rcases hputs (a.path host) with hsame | ⟨_, _, content, _, _, hfile⟩ | ⟨uuid, hq, _⟩
    · rw [hsame]
      exact h.object host a hhost
    · rw [hfile]
      simp
    · exact absurd hq.symm (getTlDataPath_ne_path uuid.val host a)
  · intro uuid
    rcases hputs (getTlDataPath uuid.val) with hsame | ⟨host, a, _, _, hq, _⟩ | ⟨_, _, hdir⟩
    · rw [hsame]
      exact h.dataDir uuid
    · exact absurd hq (getTlDataPath_ne_path uuid.val host a)
    · exact Or.inr hdir
  · intro uuid name hname
    rcases hputs (getTlDataPath uuid.val ++ '/' :: name) with
      hsame | ⟨host, a, content, hhost, hq, hfile⟩ | ⟨uuid', hq, _⟩
    · rw [hsame]
      exact h.dataFile uuid name hname
    · right
      refine ⟨⟨content, hfile⟩, ?_⟩
      obtain ⟨hdir, hstem⟩ := (path_eq_iff hname).mp hq.symm
      obtain ⟨pid, ha⟩ := eq_dataCont_of_dir hhost hdir
      rw [← hstem, ha]
      exact head_dataCont uuid pid
    · have hdir := congrArg dirname hq
      rw [dirname_getTlDataPath, dirname, HexText.beforeLast_append hname] at hdir
      exact absurd hdir (getTlDataPath_ne_getRegistryPath uuid.val)

theorem orderly_storeAll (p : PointerWidth) (calls : List StoreCall) (h : Orderly fs) :
    Orderly (storeAll p calls fs) := by
  induction calls generalizing fs with
  | nil => exact h
  | cons call calls ih => exact ih (h.of_puts (puts_run p fs call))

end Orderly

end RegistryContents

end Exynos8890.MobiCore
