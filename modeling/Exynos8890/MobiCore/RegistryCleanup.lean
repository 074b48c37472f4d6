import Exynos8890.MobiCore.RegistryContents

/-!
# Cleaning up a trustlet

`mcRegistryCleanupTrustlet` removes the directory with the data of a trustlet, its binaries and
its container.  The binary of a trusted application is looked for among all files with the id of
a provider: the right one has the id of the provider in it, and the uuid in the header of the
binary beside it.

Main results:

- Definition `mcRegistryCleanupTrustlet`, for a `readdir` that lists directories in any order.
- Definition `Removes`: nothing changes but that some of the paths are gone.
- Theorem `removeDir_dataPath`: the data of a trustlet are removed without an error.
- Theorem `deleteSPTA_cases`: an application that matches is removed, or nothing is.
-/

namespace Exynos8890.MobiCore

namespace RegistryCleanup

open CStruct FileSystem RegistryContents RegistryFiles SecureStorage TABlob

/-! ## Directories -/

/-- The names that `readdir` returns, without the two that every directory has. -/
abbrev Readdir := Files → Text → List Text

/-- The names are those of what lies in the directory, each once and in any order. -/
structure Lists (readdir : Readdir) : Prop where
  nodup : ∀ fs dir, (readdir fs dir).Nodup
  mem_iff : ∀ fs dir name,
    name ∈ readdir fs dir ↔ '/' ∉ name ∧ fs.node (dir ++ '/' :: name) ≠ none

/-- What a loop over a directory removes: the names without a dot in front. -/
def removeEntries (dir : Text) (names : List Text) (fs : Files) : Files :=
  names.foldl
    (fun fs name =>
      if name.head? = some '.' then fs else after fs (fs.remove (dir ++ '/' :: name)))
    fs

/-- A directory is emptied and removed, if it can be opened; the result is the one of `rmdir`. -/
def removeDir (readdir : Readdir) (dir : Text) (fs : Files) : Option Errno × Files :=
  if fs.node dir = some .dir then
    let fs := removeEntries dir (readdir fs dir) fs
    match fs.rmdir dir with
    | .error errno => (some errno, fs)
    | .ok fs => (none, fs)
  else (none, fs)

/-! ## Trusted applications of a provider -/

/-- The content of a file in memory. -/
def memoryOf (content : List UInt8) : Memory :=
  store 0 content fun _ => 0

/-- `mcCheckUuid`: the uuid in the header of a binary. -/
def mcCheckUuid (p : PointerWidth) (uuid : McUuid) (filename : Text) (fs : Files) : Bool :=
  match fs.node filename with
  | none | some .dir => false
  | some (.file content) =>
      let nTASize := content.length % 0x100000000
      if nTASize = 0 then false
      else if nTASize < CStruct.sizeOf (mclfHeaderV24 p) then false
      else if headerVersion p (memoryOf content) < mcMakeVersion 2 4 then false
      else decide (ServiceBlob.headerUuid p (memoryOf content) = uuid.val)

/-- The id of the provider in a file; 0 if it cannot be read. -/
def readSpid (spidFile : Text) (fs : Files) : UInt32 :=
  match fs.node spidFile with
  | none | some .dir => 0
  | some (.file content) =>
      if content.length < 4 then 0 else UInt32.ofNat (ofLittleEndian (content.take 4))

/-- The path of a `.spid` file without its extension. -/
def spidStem (spidFile : Text) : Option Text :=
  if '.' ∉ spidFile then none
  else
    let stem := HexText.beforeLast '.' spidFile
    let suffix := spidFile.drop stem.length
    if '/' ∈ suffix then none
    else if suffix ≠ gpTaSpidFileExt then none
    else some stem

/-- The directory of `CleanupGPTAStorage`; of two separators in a row one does not count. -/
def storagePath (host : RegistryHost) (basename : Text) : Text :=
  getTlRegistryPath host ++ "/TbStorage".toList ++
    (if basename.head? = some '/' then basename else '/' :: basename)

/-- `CleanupGPTAStorage`. -/
def cleanupGPTAStorage (readdir : Readdir) (basename : Text) (fs : Files) : Option Errno × Files :=
  removeDir readdir (storagePath (hostOf fs) basename) fs

/-- What `deleteSPTA` removes of an application: `tabinUuid` is a path. -/
def removeTA (readdir : Readdir) (tabinUuid : Text) (fs : Files) : Files :=
  let fs := (cleanupGPTAStorage readdir tabinUuid fs).2
  let fs := after fs (fs.remove (tabinUuid ++ gpTaBinFileExt))
  after fs (fs.remove (tabinUuid ++ gpTaSpidFileExt))

/-- The loop of `deleteSPTA`. -/
def deleteLoop (p : PointerWidth) (readdir : Readdir) (uuid : McUuid) (spid : UInt32)
    (checkUuid : Bool) : List Text → Files → Files
  | [], fs => fs
  | name :: names, fs =>
      let spidFile := getRegistryPath ++ '/' :: name
      match spidStem spidFile with
      | none => deleteLoop p readdir uuid spid checkUuid names fs
      | some stem =>
          if readSpid spidFile fs = spid ∧
              (checkUuid = false ∨ mcCheckUuid p uuid (stem ++ gpTaBinFileExt) fs = true) then
            let fs := removeTA readdir stem fs
            if checkUuid then fs else deleteLoop p readdir uuid spid checkUuid names fs
          else deleteLoop p readdir uuid spid checkUuid names fs

/-- `deleteSPTA`. -/
def deleteSPTA (p : PointerWidth) (readdir : Readdir) (uuid : McUuid) (spid : UInt32)
    (checkUuid : Bool) (fs : Files) : Files :=
  if fs.node getRegistryPath = some .dir then
    deleteLoop p readdir uuid spid checkUuid (readdir fs getRegistryPath) fs
  else fs

/-- `mcRegistryCleanupTrustlet`. -/
def mcRegistryCleanupTrustlet (p : PointerWidth) (readdir : Readdir) (uuid : McUuid)
    (spid : UInt32) (fs : Files) : McResult × Files :=
  let (error, fs) := removeDir readdir (getTlDataPath uuid.val) fs
  if error ≠ none then (mcDrvErrUnknown, fs)
  else
    let fs := after fs (fs.remove (getTlBinFilePath (hostOf fs) uuid.val))
    let fs := deleteSPTA p readdir uuid spid true fs
    match fs.remove (getTlContFilePath uuid.val spid) with
    | .error _ => (mcDrvErrUnknown, fs)
    | .ok fs => (mcDrvOk, fs)

/-! ## What can change -/

/-- Nothing changes but that some of the paths are gone. -/
def Removes (touched : Text → Prop) (fs fs' : Files) : Prop :=
  ∀ q, fs'.node q = fs.node q ∨ touched q ∧ fs'.node q = none

/-- The directory and what lies in it. -/
def Within (dir q : Text) : Prop :=
  q = dir ∨ ∃ name, '/' ∉ name ∧ q = dir ++ '/' :: name

section Removes

variable {touched touched' : Text → Prop} {fs fs' fs'' : Files} {readdir : Readdir} {dir : Text}

theorem removes_refl (touched : Text → Prop) (fs : Files) : Removes touched fs fs :=
  fun _ => Or.inl rfl

theorem Removes.trans (h : Removes touched fs fs') (h' : Removes touched fs' fs'') :
    Removes touched fs fs'' := by
  intro q
  rcases h' q with hsame | hgone
  · rw [hsame]
    exact h q
  · exact Or.inr hgone

theorem Removes.mono (h : Removes touched fs fs') (hsub : ∀ q, touched q → touched' q) :
    Removes touched' fs fs' :=
  fun q => (h q).imp id fun hgone => ⟨hsub q hgone.1, hgone.2⟩

theorem Removes.node_eq (h : Removes touched fs fs') {q : Text} (hq : ¬ touched q) :
    fs'.node q = fs.node q :=
  (h q).resolve_right fun hgone => hq hgone.1

theorem Removes.node_none (h : Removes touched fs fs') {q : Text} (hq : fs.node q = none) :
    fs'.node q = none := by
  rcases h q with hsame | hgone
  · rw [hsame, hq]
  · exact hgone.2

theorem Removes.ne_dir (h : Removes touched fs fs') {q : Text} (hq : fs.node q ≠ some .dir) :
    fs'.node q ≠ some .dir := by
  rcases h q with hsame | hgone
  · rw [hsame]
    exact hq
  · rw [hgone.2]
    exact (Option.some_ne_none _).symm

theorem removes_remove (path : Text) (fs : Files) :
    Removes (fun q => q = path) fs (after fs (fs.remove path)) := by
  cases hremove : fs.remove path with
  | error errno => exact removes_refl _ fs
  | ok fs' =>
      intro q
      have hnode := Tree.node_remove hremove q
      by_cases hq : q = path
      · rw [if_pos hq] at hnode
        exact Or.inr ⟨hq, hnode⟩
      · rw [if_neg hq] at hnode
        exact Or.inl hnode

/-- What is no directory is gone after it has been removed. -/
theorem node_after_remove {path : Text} (h : fs.node path ≠ some .dir) :
    (after fs (fs.remove path)).node path = none := by
  cases hnode : fs.node path with
  | none =>
      rw [Tree.remove_eq_enoent hnode]
      exact hnode
  | some node =>
      cases node with
      | dir => exact absurd hnode h
      | file content =>
          obtain ⟨fs', hremove⟩ := Tree.remove_eq_ok hnode
          rw [hremove]
          show fs'.node path = none
          rw [Tree.node_remove hremove, if_pos rfl]

theorem removes_removeEntries (dir : Text) (names : List Text) (fs : Files) :
    Removes (fun q => ∃ name ∈ names, q = dir ++ '/' :: name) fs (removeEntries dir names fs) := by
  induction names generalizing fs with
  | nil => exact removes_refl _ fs
  | cons name names ih =>
      rw [removeEntries, List.foldl_cons]
      refine Removes.trans ?_ ((ih _).mono ?_)
      · split
        · exact removes_refl _ fs
        · apply (removes_remove (dir ++ '/' :: name) fs).mono
          exact fun q hq => ⟨name, List.mem_cons_self, hq⟩
      · rintro q ⟨name', hname', hq⟩
        exact ⟨name', List.mem_cons_of_mem _ hname', hq⟩

/-- Files without a dot in front are gone after the loop. -/
theorem node_removeEntries {names : List Text} {name : Text} (hmem : name ∈ names)
    (hhead : name.head? ≠ some '.') (hfile : fs.node (dir ++ '/' :: name) ≠ some .dir) :
    (removeEntries dir names fs).node (dir ++ '/' :: name) = none := by
  induction names generalizing fs with
  | nil => exact absurd hmem List.not_mem_nil
  | cons first names ih =>
      rw [removeEntries, List.foldl_cons]
      by_cases hfirst : name = first
      · have hgone : (after fs (fs.remove (dir ++ '/' :: name))).node (dir ++ '/' :: name) = none :=
          node_after_remove hfile
        rw [← hfirst, if_neg hhead]
        exact (removes_removeEntries dir names _).node_none hgone
      · apply ih ((List.mem_cons.mp hmem).resolve_left hfirst)
        split
        · exact hfile
        · exact (removes_remove (dir ++ '/' :: first) fs).ne_dir hfile

theorem removes_removeDir (hlists : Lists readdir) (dir : Text) (fs : Files) :
    Removes (Within dir) fs (removeDir readdir dir fs).2 := by
  unfold removeDir
  split
  · have hentries : Removes (Within dir) fs (removeEntries dir (readdir fs dir) fs) := by
      apply (removes_removeEntries dir (readdir fs dir) fs).mono
      rintro q ⟨name, hname, hq⟩
      exact Or.inr ⟨name, ((hlists.mem_iff fs dir name).mp hname).1, hq⟩
    dsimp only
    cases hrmdir : (removeEntries dir (readdir fs dir) fs).rmdir dir with
    | error errno => exact hentries
    | ok fs' =>
        refine hentries.trans fun q => ?_
        have hnode := Tree.node_rmdir hrmdir q
        by_cases hq : q = dir
        · rw [if_pos hq] at hnode
          exact Or.inr ⟨Or.inl hq, hnode⟩
        · rw [if_neg hq] at hnode
          exact Or.inl hnode
  · exact removes_refl _ fs

end Removes

/-! ## The data of the trustlet -/

section DataDirectory

variable {fs : Files} {readdir : Readdir}

theorem beforeLast_of_not_mem {sep : Char} {l : Text} (h : sep ∉ l) :
    HexText.beforeLast sep l = [] := by
  have hall : l.reverse.dropWhile (fun c => c ≠ sep) = [] := by
    rw [List.dropWhile_eq_nil_iff]
    intro c hc
    rw [decide_eq_true_iff]
    exact fun heq => h (heq ▸ List.mem_reverse.mp hc)
  rw [HexText.beforeLast, hall]
  rfl

theorem eq_of_dirname {dir q : Text} (h : dirname q = dir) (hdir : dir ≠ []) :
    ∃ name, '/' ∉ name ∧ q = dir ++ '/' :: name := by
  by_cases hsep : '/' ∈ q
  · obtain ⟨d, name, hsplit, hname⟩ := exists_last_sep hsep
    refine ⟨name, hname, ?_⟩
    rw [dirname, hsplit, HexText.beforeLast_append hname] at h
    rw [hsplit, h]
  · rw [dirname, beforeLast_of_not_mem hsep] at h
    exact absurd h.symm hdir

theorem ne_append_name (dir name : Text) : dir ≠ dir ++ '/' :: name := by
  intro h
  have hlength := congrArg List.length h
  rw [List.length_append, List.length_cons] at hlength
  omega

theorem removeDir_dataPath (hlists : Lists readdir) (h : Orderly fs) (uuid : McUuid) :
    (removeDir readdir (getTlDataPath uuid.val) fs).1 = none ∧
      (removeDir readdir (getTlDataPath uuid.val) fs).2.node (getTlDataPath uuid.val) = none := by
  rcases h.dataDir uuid with hnone | hdir
  · have hclosed : fs.node (getTlDataPath uuid.val) ≠ some .dir := by
      rw [hnone]
      exact (Option.some_ne_none _).symm
    rw [removeDir, if_neg hclosed]
    exact ⟨rfl, hnone⟩
  · have hentries := removes_removeEntries (getTlDataPath uuid.val)
      (readdir fs (getTlDataPath uuid.val)) fs
    have hstill : (removeEntries (getTlDataPath uuid.val) (readdir fs (getTlDataPath uuid.val))
        fs).node (getTlDataPath uuid.val) = some .dir := by
      rw [hentries.node_eq, hdir]
      rintro ⟨name, _, hq⟩
      exact ne_append_name _ name hq
    have hempty : ∀ q, q ≠ getTlDataPath uuid.val → dirname q = getTlDataPath uuid.val →
        (removeEntries (getTlDataPath uuid.val) (readdir fs (getTlDataPath uuid.val)) fs).node q =
          none := by
      intro q _ hq
      have hpath : getTlDataPath uuid.val ≠ [] := List.cons_ne_nil _ _
      obtain ⟨name, hname, rfl⟩ := eq_of_dirname hq hpath
      rcases h.dataFile uuid name hname with hnone | ⟨⟨content, hfile⟩, hhead⟩
      · exact hentries.node_none hnone
      · apply node_removeEntries _ hhead
        · rw [hfile]
          simp
        · rw [hlists.mem_iff, hfile]
          exact ⟨hname, Option.some_ne_none _⟩
    have hparent : dirname (getTlDataPath uuid.val) ≠ getTlDataPath uuid.val := by
      rw [dirname_getTlDataPath]
      exact (getTlDataPath_ne_getRegistryPath uuid.val).symm
    obtain ⟨fs', hrmdir⟩ := Tree.rmdir_eq_ok hstill hparent hempty
    rw [removeDir, if_pos hdir]
    simp only [hrmdir]
    exact ⟨trivial, by rw [Tree.node_rmdir hrmdir, if_pos rfl]⟩

end DataDirectory

/-! ## The binary of the provider -/

/-- The files that the loop looks at. -/
def spidFile (x : Text) : Text :=
  getRegistryPath ++ '/' :: (x ++ gpTaSpidFileExt)

def tabinFile (x : Text) : Text :=
  getRegistryPath ++ '/' :: (x ++ gpTaBinFileExt)

/-- The loop takes these files for those of the application. -/
structure Matches (p : PointerWidth) (uuid : McUuid) (spid : UInt32) (fs : Files) (x : Text) :
    Prop where
  name : '/' ∉ x
  present : fs.node (spidFile x) ≠ none
  spid : readSpid (spidFile x) fs = spid
  uuid : mcCheckUuid p uuid (tabinFile x) fs = true

section Loop

variable {p : PointerWidth} {uuid : McUuid} {spid : UInt32} {fs fs' : Files} {readdir : Readdir}
  {x : Text}

theorem not_mem_exts : '/' ∉ gpTaSpidFileExt ∧ '/' ∉ gpTaBinFileExt := by
  decide

theorem slash_not_mem_append {ext : Text} (hx : '/' ∉ x) (hext : '/' ∉ ext) : '/' ∉ x ++ ext := by
  intro h
  rcases List.mem_append.mp h with h | h
  · exact hx h
  · exact hext h

/-- The stem of a `.spid` file. -/
theorem spidStem_spidFile (x : Text) :
    spidStem (getRegistryPath ++ '/' :: (x ++ gpTaSpidFileExt)) =
      some (getRegistryPath ++ '/' :: x) := by
  have hpath : getRegistryPath ++ '/' :: (x ++ gpTaSpidFileExt) =
      (getRegistryPath ++ '/' :: x) ++ '.' :: "spid".toList := by
    rw [List.append_assoc]
    rfl
  have hdot : '.' ∈ (getRegistryPath ++ '/' :: x) ++ '.' :: "spid".toList := by simp
  have hstem : HexText.beforeLast '.' ((getRegistryPath ++ '/' :: x) ++ '.' :: "spid".toList) =
      getRegistryPath ++ '/' :: x := HexText.beforeLast_append (by decide)
  rw [hpath, spidStem, if_neg (not_not.mpr hdot)]
  simp only [hstem, List.drop_left]
  rw [if_neg (by decide), if_neg (by decide)]

/-- A file with a stem is a `.spid` file. -/
theorem eq_of_spidStem {name stem : Text}
    (h : spidStem (getRegistryPath ++ '/' :: name) = some stem) :
    ∃ x, name = x ++ gpTaSpidFileExt ∧ stem = getRegistryPath ++ '/' :: x := by
  have hregistry : '.' ∉ getRegistryPath := by decide
  unfold spidStem at h
  split at h
  · cases h
  · next hdot =>
      rw [not_not] at hdot
      have hname : '.' ∈ name := by
        rcases List.mem_append.mp hdot with hdot | hdot
        · exact absurd hdot hregistry
        · exact (List.mem_cons.mp hdot).resolve_left (by decide)
      obtain ⟨x, ext, hsplit, hext⟩ := exists_last_sep hname
      have hpath : getRegistryPath ++ '/' :: name =
          (getRegistryPath ++ '/' :: x) ++ '.' :: ext := by
        rw [hsplit, List.append_assoc]
        rfl
      rw [hpath, HexText.beforeLast_append hext] at h
      simp only [List.drop_left] at h
      split at h
      · cases h
      · split at h
        · cases h
        · next hspid =>
            rw [ne_eq, not_not] at hspid
            rw [Option.some.injEq] at h
            exact ⟨x, by rw [hsplit, hspid], h.symm⟩

theorem tabinFile_eq (x : Text) : getRegistryPath ++ '/' :: x ++ gpTaBinFileExt = tabinFile x := by
  rw [tabinFile, List.append_assoc, List.cons_append]

theorem spidFile_eq (x : Text) : getRegistryPath ++ '/' :: x ++ gpTaSpidFileExt = spidFile x := by
  rw [spidFile, List.append_assoc, List.cons_append]

theorem deleteLoop_cons_of_matches (h : Matches p uuid spid fs x) (names : List Text) :
    deleteLoop p readdir uuid spid true ((x ++ gpTaSpidFileExt) :: names) fs =
      removeTA readdir (getRegistryPath ++ '/' :: x) fs := by
  rw [deleteLoop]
  simp only [spidStem_spidFile, tabinFile_eq]
  rw [if_pos ⟨h.spid, Or.inr h.uuid⟩, if_pos trivial]

theorem deleteLoop_cases (p : PointerWidth) (uuid : McUuid) (spid : UInt32) (readdir : Readdir)
    {names : List Text}
    (hnames : ∀ name ∈ names, '/' ∉ name ∧ fs.node (getRegistryPath ++ '/' :: name) ≠ none) :
    (∃ x, Matches p uuid spid fs x ∧ deleteLoop p readdir uuid spid true names fs =
        removeTA readdir (getRegistryPath ++ '/' :: x) fs) ∨
      (∀ x, x ++ gpTaSpidFileExt ∈ names → ¬ Matches p uuid spid fs x) ∧
        deleteLoop p readdir uuid spid true names fs = fs := by
  induction names with
  | nil => exact Or.inr ⟨fun x hx => absurd hx List.not_mem_nil, rfl⟩
  | cons name names ih =>
      obtain ⟨hslash, hpresent⟩ := hnames name List.mem_cons_self
      by_cases hmatch : ∃ x, name = x ++ gpTaSpidFileExt ∧ Matches p uuid spid fs x
      · obtain ⟨x, rfl, hx⟩ := hmatch
        exact Or.inl ⟨x, hx, deleteLoop_cons_of_matches hx names⟩
      · have hskip : deleteLoop p readdir uuid spid true (name :: names) fs =
            deleteLoop p readdir uuid spid true names fs := by
          rw [deleteLoop]
          cases hstem : spidStem (getRegistryPath ++ '/' :: name) with
          | none => rfl
          | some stem =>
              obtain ⟨x, rfl, rfl⟩ := eq_of_spidStem hstem
              simp only [tabinFile_eq]
              rw [if_neg]
              rintro ⟨hspid, huuid⟩
              have hx : '/' ∉ x := fun h => hslash (List.mem_append_left _ h)
              exact hmatch ⟨x, rfl, hx, hpresent, hspid, huuid.resolve_left (by decide)⟩
        rw [hskip]
        have hothers := ih fun name' h => hnames name' (List.mem_cons_of_mem _ h)
        rcases hothers with hfound | ⟨hnone, hrest⟩
        · exact Or.inl hfound
        · refine Or.inr ⟨fun x hx => ?_, hrest⟩
          rcases List.mem_cons.mp hx with hx | hx
          · exact fun h => hmatch ⟨x, hx.symm, h⟩
          · exact hnone x hx

theorem deleteSPTA_cases (p : PointerWidth) (uuid : McUuid) (spid : UInt32)
    (fs : Files) (hlists : Lists readdir) :
    (∃ x, Matches p uuid spid fs x ∧ deleteSPTA p readdir uuid spid true fs =
        removeTA readdir (getRegistryPath ++ '/' :: x) fs) ∨
      (∀ x, ¬ Matches p uuid spid fs x) ∧ deleteSPTA p readdir uuid spid true fs = fs := by
  unfold deleteSPTA
  split
  · have hcases := deleteLoop_cases p uuid spid readdir
      fun name h => (hlists.mem_iff fs getRegistryPath name).mp h
    rcases hcases with hfound | ⟨hnone, hrest⟩
    · exact Or.inl hfound
    · refine Or.inr ⟨fun x hx => ?_, hrest⟩
      apply hnone x _ hx
      rw [hlists.mem_iff]
      exact ⟨slash_not_mem_append hx.name not_mem_exts.1, hx.present⟩
  · next hclosed =>
      refine Or.inr ⟨fun x hx => ?_, rfl⟩
      have hparent := fs.node_parent hx.present
      rw [dirname, spidFile, HexText.beforeLast_append
        (slash_not_mem_append hx.name not_mem_exts.1)] at hparent
      exact hclosed hparent

end Loop

end RegistryCleanup

end Exynos8890.MobiCore
