import Exynos8890.MobiCore.RegistryPaths
import Exynos8890.MobiCore.SecureStorage

/-!
# The files of the registry

The registry functions work on the file system of the device: which directory the binaries lie
in depends on the directories that exist, and files are written with `fopen`, `fwrite` and
`fclose`, of which the first alone is checked.

Main results:

- Definition `hostOf`: the directories that the paths depend on, in a file system.
- Definition `writeFile`: how the registry writes a file.
- Theorem `node_writeFile`: what a path holds afterwards.
- Theorem `path_hostOf`: the paths are the same while the directories are.
-/

namespace Exynos8890.MobiCore

open FileSystem HexText SecureStorage

namespace RegistryFiles

/-! ## Directories -/

theorem exists_last_sep {α : Type} {sep : α} {l : List α} (h : sep ∈ l) :
    ∃ d name, l = d ++ sep :: name ∧ sep ∉ name := by
  obtain ⟨before, behind, hsplit, hnot⟩ := List.eq_append_cons_of_mem (List.mem_reverse.mpr h)
  refine ⟨behind.reverse, before.reverse, ?_, fun hmem => hnot (List.mem_reverse.mp hmem)⟩
  have hl := congrArg List.reverse hsplit
  rw [List.reverse_reverse] at hl
  simpa using hl

theorem node_of_way {fs : Files} {q : Text} (rest : Text)
    (h : fs.node (q ++ '/' :: rest) ≠ none) : fs.node q = some .dir := by
  induction hn : rest.length using Nat.strong_induction_on generalizing rest with
  | _ n ih =>
      by_cases hsep : '/' ∈ rest
      · obtain ⟨way, name, hsplit, hname⟩ := exists_last_sep hsep
        have hpath : q ++ '/' :: rest = (q ++ '/' :: way) ++ '/' :: name := by
          rw [hsplit, List.append_assoc, List.cons_append]
        have hparent := fs.node_parent h
        rw [dirname, hpath, beforeLast_append hname] at hparent
        have hshort : way.length < n := by
          rw [← hn, hsplit, List.length_append, List.length_cons]
          omega
        apply ih way.length hshort way _ rfl
        rw [hparent]
        exact Option.some_ne_none _
      · have hparent := fs.node_parent h
        rwa [dirname, beforeLast_append hsep] at hparent

/-- What `stat` says of a path. -/
def treeOf (fs : Files) : FileTree where
  isDir p := decide (fs.node p = some .dir)
  isFile p := decide (fs.node p ≠ none ∧ fs.node p ≠ some .dir)
  not_isFile_of_isDir := by
    intro p hdir
    rw [decide_eq_true_iff] at hdir
    rw [decide_eq_false_iff_not]
    exact fun hfile => hfile.2 hdir
  not_isFile_of_prefix := by
    intro p q hdir hprefix
    rw [decide_eq_true_iff] at hdir
    rw [decide_eq_false_iff_not]
    obtain ⟨rest, rfl⟩ := hprefix
    rw [List.append_assoc, List.singleton_append] at hdir
    have hway : fs.node q = some .dir := by
      apply node_of_way rest
      rw [hdir]
      exact Option.some_ne_none _
    exact fun hfile => hfile.2 hway

/-- The host of the registry; `MC_AUTH_TOKEN_PATH` is not set. -/
def hostOf (fs : Files) : RegistryHost where
  authTokenPath := none
  tree := treeOf fs

/-- Two file systems have the same directories. -/
def SameDirs (fs fs' : Files) : Prop :=
  ∀ p, fs.node p = some .dir ↔ fs'.node p = some .dir

theorem tlRegistryPath_hostOf {fs fs' : Files} (h : SameDirs fs fs') :
    getTlRegistryPath (hostOf fs) = getTlRegistryPath (hostOf fs') := by
  have hdir : ∀ path, (hostOf fs).doesDirExist path = (hostOf fs').doesDirExist path := by
    intro path
    cases path with
    | none => rfl
    | some path =>
        show decide (fs.node path = some .dir) = decide (fs'.node path = some .dir)
        exact decide_eq_decide.mpr (h path)
  rw [getTlRegistryPath, getTlRegistryPath, hdir, hdir]

/-- The path of an object depends on the directories only. -/
theorem path_hostOf {fs fs' : Files} (h : SameDirs fs fs') (a : RegistryObject) :
    a.path (hostOf fs) = a.path (hostOf fs') := by
  have htl := tlRegistryPath_hostOf h
  cases a with
  | tlBin | taBin | taSpid =>
      simp only [RegistryObject.path, getTlBinFilePath, getTABinFilePath, getTASpidFilePath, htl]
  | _ => rfl

theorem dirname_path (host : RegistryHost) (a : RegistryObject) :
    dirname (a.path host) = a.dir host := by
  rw [dirname, a.path_eq, beforeLast_append a.slash_not_mem_name]

theorem dot_mem_path (host : RegistryHost) (a : RegistryObject) : '.' ∈ a.path host := by
  rw [a.path_eq]
  simp

theorem dot_not_mem_getTlDataPath (uuid : List UInt8) : '.' ∉ getTlDataPath uuid := by
  intro hdot
  rcases List.mem_append.mp hdot with hdot | hdot
  · exact absurd hdot (by decide)
  · rcases List.mem_cons.mp hdot with hdot | hdot
    · exact absurd hdot (by decide)
    · exact (not_mem_byteArrayToString uuid).2 hdot

/-- The directory of a trustlet is not named like an object. -/
theorem getTlDataPath_ne_path (uuid : List UInt8) (host : RegistryHost) (a : RegistryObject) :
    getTlDataPath uuid ≠ a.path host :=
  fun heq => dot_not_mem_getTlDataPath uuid (heq ▸ dot_mem_path host a)

theorem dirname_getTlDataPath (uuid : List UInt8) : dirname (getTlDataPath uuid) = getRegistryPath :=
  beforeLast_append (not_mem_byteArrayToString uuid).1

theorem path_eq_iff {host : RegistryHost} {a : RegistryObject} {dir name : Text} (h : '/' ∉ name) :
    a.path host = dir ++ '/' :: name ↔ a.dir host = dir ∧ a.stem ++ '.' :: a.ext = name := by
  rw [a.path_eq]
  constructor
  · exact append_sep_inj a.slash_not_mem_name h
  · rintro ⟨rfl, rfl⟩
    rfl

/-! ## Writing -/

/-- `fopen(path, "wb")`, `fwrite`, `fflush` and `fclose`: `failure` makes `fopen` fail, and
`written` is how many of the bytes reach the file; the calls do not say how many. -/
def writeFile (failure : Option Errno) (written : Option Nat) (path : Text) (bytes : List UInt8)
    (fs : Files) : Except Errno Files :=
  attempt failure (fs.write path (bytes.take (written.getD bytes.length)))

/-- The file can be opened for writing. -/
def Opens (failure : Option Errno) (path : Text) (fs : Files) : Prop :=
  failure = none ∧ fs.node path ≠ some .dir ∧ fs.node (dirname path) = some .dir

variable {failure : Option Errno} {written : Option Nat} {path : Text} {bytes : List UInt8}
  {fs fs' : Files}

theorem writeFile_eq_ok_iff (failure : Option Errno) (written : Option Nat) (path : Text)
    (bytes : List UInt8) (fs : Files) :
    (∃ fs', writeFile failure written path bytes fs = .ok fs') ↔ Opens failure path fs := by
  cases failure with
  | none =>
      rw [Opens, eq_self_iff_true, true_and]
      exact fs.write_eq_ok_iff path _
  | some errno =>
      apply iff_of_false
      · rintro ⟨fs', h⟩
        cases h
      · exact fun h => absurd h.1 (Option.some_ne_none errno)

theorem node_writeFile (h : writeFile failure written path bytes fs = .ok fs') (q : Text) :
    fs'.node q =
      if q = path then some (.file (bytes.take (written.getD bytes.length))) else fs.node q := by
  cases failure with
  | none => exact Tree.node_write h q
  | some errno => cases h

theorem opens_of_writeFile (h : writeFile failure written path bytes fs = .ok fs') :
    Opens failure path fs :=
  (writeFile_eq_ok_iff failure written path bytes fs).mp ⟨fs', h⟩

theorem sameDirs_writeFile (h : writeFile failure written path bytes fs = .ok fs') :
    SameDirs fs fs' := by
  intro q
  rw [node_writeFile h]
  split
  · next hq =>
      rw [hq]
      exact iff_of_false (opens_of_writeFile h).2.1 (by simp)
  · exact Iff.rfl

theorem dirname_nil : dirname [] = [] := by
  decide

/-- A device with the directory of the registry, and nothing in it. -/
def emptyFiles : Files :=
  (((Tree.top [] dirname_nil).put "/data".toList .dir (by decide) (fun _ => by rfl)).put
    "/data/app".toList .dir (by decide) (fun _ => by rfl)).put
      mcRegistryContainerPath .dir (by decide) (fun _ => by rfl)

end RegistryFiles

end Exynos8890.MobiCore
