import Exynos8890.Library.HexText
import Exynos8890.MobiCore.McpMessage

/-!
# The paths of the registry

Every registry object has a file whose path is put together from a directory, the object's
keys in hexadecimal digits and an extension.  The directory of the authentication token may
come from the environment, and the binaries lie in the first of two directories that
exists.

Main results:

- Definition `RegistryObject.path`: the path of an object, as the helper functions compute
  it.
- Theorem `path_inj`: the path determines the object.
- Theorem `not_prefix_of_isFile`: a path that is a plain file is no directory on the way to
  another.
- Theorem `registryPaths_apart`: both together.
-/

namespace Exynos8890.MobiCore

open HexText

/-- A path or file name. -/
abbrev Text := List Char

/-- `mcUuid_t`. -/
abbrev McUuid := { bytes : List UInt8 // bytes.length = uuidLength }

/-! ## Names -/

/-- A digit of `%02x`. -/
def lowerDigit (n : Nat) : Char :=
  Nat.digitChar n

/-- A digit of `%08X`. -/
def upperDigit (n : Nat) : Char :=
  if n < 10 then Nat.digitChar n else Char.ofNat (55 + n)

/-- `byteArrayToString`. -/
def byteArrayToString (bytes : List UInt8) : Text :=
  hexBytes lowerDigit bytes

/-- `uint32ToString`: the digits of `%08X`, in the reverse order. -/
def uint32ToString (value : UInt32) : Text :=
  let str := (hexDigits upperDigit 8 value.toNat).reverse
  str.reverse

def mcRegistryContainerPath : Text := "/data/app/mcRegistry".toList
def mcRegistryDefaultPath : Text := "/system/app/mcRegistry".toList
def mcRegistryFallbackPath : Text := "/data/app/mcRegistry".toList

def authTokenFileName : Text := "00000000.authtokcont".toList
def rootFileName : Text := "00000000.rootcont".toList
def spContFileExt : Text := ".spcont".toList
def tlContFileExt : Text := ".tlcont".toList
def dataContFileExt : Text := ".datacont".toList
def tlBinFileExt : Text := ".tlbin".toList
def gpTaBinFileExt : Text := ".tabin".toList
def gpTaSpidFileExt : Text := ".spid".toList

/-! ## The host -/

/-- What `stat` says of a path.  On the way to a directory there is no plain file. -/
structure FileTree where
  isDir : Text → Bool
  isFile : Text → Bool
  not_isFile_of_isDir : ∀ p, isDir p = true → isFile p = false
  not_isFile_of_prefix : ∀ p q, isDir p = true → q ++ ['/'] <+: p → isFile q = false

/-- The environment variable `MC_AUTH_TOKEN_PATH`, and the files. -/
structure RegistryHost where
  authTokenPath : Option Text
  tree : FileTree

/-- `doesDirExist`. -/
def RegistryHost.doesDirExist (host : RegistryHost) (path : Option Text) : Bool :=
  match path with
  | none => false
  | some path => host.tree.isDir path

/-- `getRegistryPath`. -/
def getRegistryPath : Text :=
  mcRegistryContainerPath

/-- `getTlRegistryPath`. -/
def getTlRegistryPath (host : RegistryHost) : Text :=
  if host.doesDirExist (some mcRegistryDefaultPath) then mcRegistryDefaultPath
  else if host.doesDirExist (some mcRegistryFallbackPath) then mcRegistryFallbackPath
  else mcRegistryContainerPath

/-! ## Paths -/

/-- The directory of `getAuthTokenFilePath`. -/
def authTokenDir (host : RegistryHost) : Text :=
  match host.authTokenPath with
  | some path => if host.doesDirExist (some path) then path else getRegistryPath
  | none => getRegistryPath

def getAuthTokenFilePath (host : RegistryHost) : Text :=
  authTokenDir host ++ '/' :: authTokenFileName

def getRootContFilePath : Text :=
  getRegistryPath ++ '/' :: rootFileName

def getSpContFilePath (spid : UInt32) : Text :=
  getRegistryPath ++ '/' :: (uint32ToString spid ++ spContFileExt)

def getTlContFilePath (uuid : List UInt8) (spid : UInt32) : Text :=
  getRegistryPath ++ '/' ::
    (byteArrayToString uuid ++ '.' :: (uint32ToString spid ++ tlContFileExt))

def getTlDataPath (uuid : List UInt8) : Text :=
  getRegistryPath ++ '/' :: byteArrayToString uuid

def getTlDataFilePath (uuid : List UInt8) (pid : UInt32) : Text :=
  getTlDataPath uuid ++ '/' :: (uint32ToString pid ++ dataContFileExt)

def getTlBinFilePath (host : RegistryHost) (uuid : List UInt8) : Text :=
  getTlRegistryPath host ++ '/' :: (byteArrayToString uuid ++ tlBinFileExt)

def getTABinFilePath (host : RegistryHost) (uuid : List UInt8) : Text :=
  getTlRegistryPath host ++ '/' :: (byteArrayToString uuid ++ gpTaBinFileExt)

def getTASpidFilePath (host : RegistryHost) (uuid : List UInt8) : Text :=
  getTlRegistryPath host ++ '/' :: (byteArrayToString uuid ++ gpTaSpidFileExt)

/-- The kinds of registry objects. -/
inductive RegistryKind where
  | authToken
  | rootCont
  | spCont
  | tlCont
  | dataCont
  | tlBin
  | taBin
  | taSpid
deriving DecidableEq

/-- The extension of a kind, without its dot. -/
def RegistryKind.ext : RegistryKind → Text
  | authToken => "authtokcont".toList
  | rootCont => "rootcont".toList
  | spCont => "spcont".toList
  | tlCont => "tlcont".toList
  | dataCont => "datacont".toList
  | tlBin => "tlbin".toList
  | taBin => "tabin".toList
  | taSpid => "spid".toList

/-- The objects of the registry. -/
inductive RegistryObject where
  | authToken
  | rootCont
  | spCont (spid : UInt32)
  | tlCont (uuid : McUuid) (spid : UInt32)
  | dataCont (uuid : McUuid) (pid : UInt32)
  | tlBin (uuid : McUuid)
  | taBin (uuid : McUuid)
  | taSpid (uuid : McUuid)
deriving DecidableEq

namespace RegistryObject

/-- The path of an object. -/
def path (host : RegistryHost) : RegistryObject → Text
  | authToken => getAuthTokenFilePath host
  | rootCont => getRootContFilePath
  | spCont spid => getSpContFilePath spid
  | tlCont uuid spid => getTlContFilePath uuid.val spid
  | dataCont uuid pid => getTlDataFilePath uuid.val pid
  | tlBin uuid => getTlBinFilePath host uuid.val
  | taBin uuid => getTABinFilePath host uuid.val
  | taSpid uuid => getTASpidFilePath host uuid.val

/-- The directory of an object. -/
def dir (host : RegistryHost) : RegistryObject → Text
  | authToken => authTokenDir host
  | rootCont | spCont _ | tlCont _ _ => getRegistryPath
  | dataCont uuid _ => getTlDataPath uuid.val
  | tlBin _ | taBin _ | taSpid _ => getTlRegistryPath host

/-- The file name without its extension. -/
def stem : RegistryObject → Text
  | authToken | rootCont => "00000000".toList
  | spCont spid => uint32ToString spid
  | tlCont uuid spid => byteArrayToString uuid.val ++ '.' :: uint32ToString spid
  | dataCont _ pid => uint32ToString pid
  | tlBin uuid | taBin uuid | taSpid uuid => byteArrayToString uuid.val

def kind : RegistryObject → RegistryKind
  | authToken => .authToken
  | rootCont => .rootCont
  | spCont _ => .spCont
  | tlCont _ _ => .tlCont
  | dataCont _ _ => .dataCont
  | tlBin _ => .tlBin
  | taBin _ => .taBin
  | taSpid _ => .taSpid

/-- The extension, without its dot. -/
def ext (a : RegistryObject) : Text :=
  a.kind.ext

theorem path_eq (host : RegistryHost) (a : RegistryObject) :
    a.path host = a.dir host ++ '/' :: (a.stem ++ '.' :: a.ext) := by
  cases a with
  | tlCont uuid spid =>
      apply congrArg fun name => getRegistryPath ++ '/' :: name
      exact (List.append_assoc (byteArrayToString uuid.val) ('.' :: uint32ToString spid) _).symm
  | _ => rfl

end RegistryObject

/-! ## The characters of a path -/

theorem distinct_lowerDigit : Distinct lowerDigit := by
  decide

theorem distinct_upperDigit : Distinct upperDigit := by
  decide

theorem byteArrayToString_inj {as bs : List UInt8}
    (h : byteArrayToString as = byteArrayToString bs) : as = bs :=
  hexBytes_inj distinct_lowerDigit h

theorem uint32ToString_inj {a b : UInt32} (h : uint32ToString a = uint32ToString b) :
    a = b := by
  simp only [uint32ToString, List.reverse_reverse] at h
  have hmod := hexDigits_inj distinct_upperDigit h
  have ha := a.toNat_lt
  have hb := b.toNat_lt
  apply UInt32.toNat_inj.mp
  omega

theorem digits_ne : ∀ a < 16, lowerDigit a ≠ '/' ∧ lowerDigit a ≠ '.' ∧ upperDigit a ≠ '/' ∧
    upperDigit a ≠ '.' := by
  decide

theorem not_mem_byteArrayToString (bytes : List UInt8) :
    '/' ∉ byteArrayToString bytes ∧ '.' ∉ byteArrayToString bytes := by
  constructor
  · intro h
    obtain ⟨a, ha, hc⟩ := mem_hexBytes h
    exact (digits_ne a ha).1 hc.symm
  · intro h
    obtain ⟨a, ha, hc⟩ := mem_hexBytes h
    exact (digits_ne a ha).2.1 hc.symm

theorem not_mem_uint32ToString (value : UInt32) :
    '/' ∉ uint32ToString value ∧ '.' ∉ uint32ToString value := by
  simp only [uint32ToString, List.reverse_reverse]
  constructor
  · intro h
    obtain ⟨a, ha, hc⟩ := mem_hexDigits h
    exact (digits_ne a ha).2.2.1 hc.symm
  · intro h
    obtain ⟨a, ha, hc⟩ := mem_hexDigits h
    exact (digits_ne a ha).2.2.2 hc.symm

namespace RegistryObject

theorem not_mem_ext (a : RegistryObject) : '/' ∉ a.ext ∧ '.' ∉ a.ext := by
  unfold ext
  cases a.kind <;> decide

theorem kind_eq_of_ext {a b : RegistryObject} (h : a.ext = b.ext) : a.kind = b.kind := by
  unfold ext at h
  cases ha : a.kind <;> cases hb : b.kind <;> first | rfl | exact absurd (ha ▸ hb ▸ h) (by decide)

theorem slash_not_mem_stem (a : RegistryObject) : '/' ∉ a.stem := by
  cases a with
  | authToken | rootCont => exact (by decide : '/' ∉ "00000000".toList)
  | spCont spid => exact (not_mem_uint32ToString spid).1
  | dataCont uuid pid => exact (not_mem_uint32ToString pid).1
  | tlBin uuid | taBin uuid | taSpid uuid => exact (not_mem_byteArrayToString uuid.val).1
  | tlCont uuid spid =>
      intro h
      rcases List.mem_append.mp h with h | h
      · exact (not_mem_byteArrayToString uuid.val).1 h
      · rcases List.mem_cons.mp h with h | h
        · exact absurd h (by decide)
        · exact (not_mem_uint32ToString spid).1 h

theorem slash_not_mem_name (a : RegistryObject) : '/' ∉ a.stem ++ '.' :: a.ext := by
  intro h
  rcases List.mem_append.mp h with h | h
  · exact a.slash_not_mem_stem h
  · rcases List.mem_cons.mp h with h | h
    · exact absurd h (by decide)
    · exact a.not_mem_ext.1 h

/-! ## Paths do not collide -/

/-- Objects of one kind in one directory have different names. -/
theorem eq_of_dir_stem_kind {h h' : RegistryHost} {a b : RegistryObject}
    (hdir : a.dir h = b.dir h') (hstem : a.stem = b.stem) (hkind : a.kind = b.kind) : a = b := by
  cases a with
  | authToken =>
      cases b with
      | authToken => rfl
      | _ => cases hkind
  | rootCont =>
      cases b with
      | rootCont => rfl
      | _ => cases hkind
  | spCont spid =>
      cases b with
      | spCont spid' => exact congrArg spCont (uint32ToString_inj hstem)
      | _ => cases hkind
  | tlCont uuid spid =>
      cases b with
      | tlCont uuid' spid' =>
          obtain ⟨huuid, hspid⟩ := append_sep_inj (not_mem_uint32ToString spid).2
            (not_mem_uint32ToString spid').2 hstem
          rw [Subtype.ext (byteArrayToString_inj huuid), uint32ToString_inj hspid]
      | _ => cases hkind
  | dataCont uuid pid =>
      cases b with
      | dataCont uuid' pid' =>
          obtain ⟨-, huuid⟩ := append_sep_inj (not_mem_byteArrayToString uuid.val).1
            (not_mem_byteArrayToString uuid'.val).1 hdir
          rw [Subtype.ext (byteArrayToString_inj huuid), uint32ToString_inj hstem]
      | _ => cases hkind
  | tlBin uuid =>
      cases b with
      | tlBin uuid' => exact congrArg tlBin (Subtype.ext (byteArrayToString_inj hstem))
      | _ => cases hkind
  | taBin uuid =>
      cases b with
      | taBin uuid' => exact congrArg taBin (Subtype.ext (byteArrayToString_inj hstem))
      | _ => cases hkind
  | taSpid uuid =>
      cases b with
      | taSpid uuid' => exact congrArg taSpid (Subtype.ext (byteArrayToString_inj hstem))
      | _ => cases hkind

/-- The path determines the object, whatever directories exist when it is computed. -/
theorem path_inj {h h' : RegistryHost} {a b : RegistryObject} (heq : a.path h = b.path h') :
    a = b := by
  rw [path_eq, path_eq] at heq
  obtain ⟨hdir, hname⟩ := append_sep_inj a.slash_not_mem_name b.slash_not_mem_name heq
  obtain ⟨hstem, hext⟩ := append_sep_inj a.not_mem_ext.2 b.not_mem_ext.2 hname
  exact eq_of_dir_stem_kind hdir hstem (kind_eq_of_ext hext)

/-- A directory of the registry has no dot in its path, unless it comes from the
environment and exists. -/
theorem dir_cases (h : RegistryHost) (a : RegistryObject) :
    '.' ∉ a.dir h ∨ h.tree.isDir (a.dir h) = true := by
  have hregistry : '.' ∉ getRegistryPath := by decide
  cases a with
  | rootCont | spCont | tlCont => exact Or.inl hregistry
  | dataCont uuid pid =>
      left
      intro hdot
      rcases List.mem_append.mp hdot with hdot | hdot
      · exact hregistry hdot
      · rcases List.mem_cons.mp hdot with hdot | hdot
        · exact absurd hdot (by decide)
        · exact (not_mem_byteArrayToString uuid.val).2 hdot
  | tlBin | taBin | taSpid =>
      left
      show '.' ∉ getTlRegistryPath h
      unfold getTlRegistryPath
      split
      · exact (by decide : '.' ∉ mcRegistryDefaultPath)
      · split <;> exact hregistry
  | authToken =>
      show '.' ∉ authTokenDir h ∨ h.tree.isDir (authTokenDir h) = true
      unfold authTokenDir
      split
      · split
        · rename_i hdir
          exact Or.inr hdir
        · exact Or.inl hregistry
      · exact Or.inl hregistry

/-- The path of a plain file is no directory on the way to another path. -/
theorem not_prefix_of_isFile {h h' : RegistryHost} {a : RegistryObject}
    (hfile : h'.tree.isFile (a.path h) = true) (b : RegistryObject) :
    ¬ a.path h ++ ['/'] <+: b.path h' := by
  intro hprefix
  rw [b.path_eq] at hprefix
  have hdir := prefix_of_prefix_name b.slash_not_mem_name hprefix
  rcases dir_cases h' b with hdot | hisDir
  · -- the path ends with an extension, and the directory has no dot
    have hmem : '.' ∈ a.path h ++ ['/'] := by
      rw [path_eq]
      simp
    rcases List.mem_append.mp (hdir.subset hmem) with hmem | hmem
    · exact hdot hmem
    · exact absurd hmem (by decide)
  · rcases List.prefix_concat_iff.mp hdir with hsame | hbefore
    · rw [List.append_left_inj] at hsame
      rw [← hsame] at hisDir
      exact absurd hfile (by rw [h'.tree.not_isFile_of_isDir _ hisDir]; decide)
    · exact absurd hfile (by rw [h'.tree.not_isFile_of_prefix _ _ hisDir hbefore]; decide)

/-- Two objects of different keys have different paths, and the path of the one, while it
is a plain file, is no directory on the way to the other, for whatever environment and
directories there are when the two are computed. -/
theorem registryPaths_apart (h h' : RegistryHost) {a b : RegistryObject} (hne : a ≠ b) :
    a.path h ≠ b.path h' ∧
      (h'.tree.isFile (a.path h) = true → ¬ a.path h ++ ['/'] <+: b.path h') := by
  constructor
  · exact fun heq => hne (path_inj heq)
  · exact fun hfile => not_prefix_of_isFile hfile b

/-- Nothing but the container directory, and no environment variable. -/
def plainHost : RegistryHost where
  authTokenPath := none
  tree :=
    { isDir := fun p => p = mcRegistryContainerPath
      isFile := fun _ => false
      not_isFile_of_isDir := fun _ _ => rfl
      not_isFile_of_prefix := fun _ _ _ _ => rfl }

/-- The root container and the container of service provider 1. -/
theorem registryPaths_apart_root :
    rootCont.path plainHost ≠ (spCont 1).path plainHost ∧
      (plainHost.tree.isFile (rootCont.path plainHost) = true →
        ¬ rootCont.path plainHost ++ ['/'] <+: (spCont 1).path plainHost) :=
  registryPaths_apart plainHost plainHost (by decide)

end RegistryObject

end Exynos8890.MobiCore
