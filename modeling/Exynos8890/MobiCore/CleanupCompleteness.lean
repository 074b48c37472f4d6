import Exynos8890.MobiCore.CleanupPaths

/-!
# When a cleanup is complete

A cleanup that returns `MC_DRV_OK` should leave nothing of a trusted application behind and
everything else as it was.  Whether it does depends on what has been stored: the loop looks in
one directory, for the uuid in the header of a binary, and takes the first that it finds.

Main results:

- Theorem `removes_cleanup`: what a cleanup can change.
- Theorem `cleanup_ret_iff`: when it returns `MC_DRV_OK`.
- Theorem `cleansUp_iff`: when nothing of a trusted application remains and nothing else has
  changed.
- Theorem `not_cleansUp`: the directory with the trusted storage is left behind.
-/

namespace Exynos8890.MobiCore

namespace RegistryCleanup

open CStruct FileSystem RegistryContents RegistryFiles SecureStorage TABlob

/-! ## The whole cleanup -/

/-- What goes with an application that the loop has found. -/
def OfFound (x q : Text) : Prop :=
  (∃ host, Within (storagePath host (getRegistryPath ++ '/' :: x)) q) ∨ q = tabinFile x ∨
    q = spidFile x

/-- The files without the data of the trustlet. -/
def afterData (readdir : Readdir) (uuid : McUuid) (fs : Files) : Files :=
  (removeDir readdir (getTlDataPath uuid.val) fs).2

/-- They without its binary. -/
def afterBin (readdir : Readdir) (uuid : McUuid) (fs : Files) : Files :=
  after (afterData readdir uuid fs)
    ((afterData readdir uuid fs).remove
      (getTlBinFilePath (hostOf (afterData readdir uuid fs)) uuid.val))

/-- They without the application of the provider. -/
def afterTA (p : PointerWidth) (readdir : Readdir) (uuid : McUuid) (spid : UInt32) (fs : Files) :
    Files :=
  deleteSPTA p readdir uuid spid true (afterBin readdir uuid fs)

section Cleanup

variable {p : PointerWidth} {uuid : McUuid} {spid : UInt32} {fs fs' : Files} {readdir : Readdir}
  {x q : Text}

theorem removes_removeTA (hlists : Lists readdir) (x : Text) (fs : Files) :
    Removes (OfFound x) fs (removeTA readdir (getRegistryPath ++ '/' :: x) fs) := by
  have hstorage : Removes (OfFound x) fs
      (cleanupGPTAStorage readdir (getRegistryPath ++ '/' :: x) fs).2 :=
    (removes_removeDir hlists _ fs).mono fun q hq => Or.inl ⟨hostOf fs, hq⟩
  have hbin : ∀ fs : Files, Removes (OfFound x) fs (after fs (fs.remove (tabinFile x))) :=
    fun fs => (removes_remove (tabinFile x) fs).mono fun q hq => Or.inr (Or.inl hq)
  have hspid : ∀ fs : Files, Removes (OfFound x) fs (after fs (fs.remove (spidFile x))) :=
    fun fs => (removes_remove (spidFile x) fs).mono fun q hq => Or.inr (Or.inr hq)
  unfold removeTA
  dsimp only
  rw [tabinFile_eq, spidFile_eq]
  exact (hstorage.trans (hbin _)).trans (hspid _)

theorem node_removeTA (hlists : Lists readdir) (hbin : fs.node (tabinFile x) ≠ some .dir)
    (hspid : fs.node (spidFile x) ≠ some .dir) :
    (removeTA readdir (getRegistryPath ++ '/' :: x) fs).node (tabinFile x) = none ∧
      (removeTA readdir (getRegistryPath ++ '/' :: x) fs).node (spidFile x) = none := by
  have hstorage := removes_removeDir hlists
    (storagePath (hostOf fs) (getRegistryPath ++ '/' :: x)) fs
  unfold removeTA
  dsimp only
  rw [tabinFile_eq, spidFile_eq]
  constructor
  · apply (removes_remove (spidFile x) _).node_none
    exact node_after_remove (hstorage.ne_dir hbin)
  · apply node_after_remove
    exact (removes_remove (tabinFile x) _).ne_dir (hstorage.ne_dir hspid)

/-- The registry of the binaries is one of two directories. -/
theorem getTlRegistryPath_hostOf (fs : Files) :
    getTlRegistryPath (hostOf fs) =
      if fs.node mcRegistryDefaultPath = some .dir then mcRegistryDefaultPath
      else getRegistryPath := by
  have hdefault : (hostOf fs).doesDirExist (some mcRegistryDefaultPath) =
      decide (fs.node mcRegistryDefaultPath = some .dir) := rfl
  rw [getTlRegistryPath, hdefault, if_congr decide_eq_true_iff rfl rfl]
  split
  · rfl
  · split <;> rfl

theorem getTlRegistryPath_eq (h : fs'.node mcRegistryDefaultPath = fs.node mcRegistryDefaultPath) :
    getTlRegistryPath (hostOf fs') = getTlRegistryPath (hostOf fs) := by
  rw [getTlRegistryPath_hostOf, getTlRegistryPath_hostOf, h]

theorem not_within_default (uuid : McUuid) :
    ¬ Within (getTlDataPath uuid.val) mcRegistryDefaultPath := by
  have hbegin : ∀ rest, mcRegistryDefaultPath ≠ getTlDataPath uuid.val ++ rest := by
    intro rest heq
    have htwo : ['/', 's'] = ['/', 'd'] := congrArg (List.take 2) heq
    exact absurd htwo (by decide)
  rintro (hq | ⟨name, _, hq⟩)
  · exact hbegin [] (by rw [hq, List.append_nil])
  · exact hbegin _ hq

theorem removes_afterData (hlists : Lists readdir) (uuid : McUuid) (fs : Files) :
    Removes (Within (getTlDataPath uuid.val)) fs (afterData readdir uuid fs) :=
  removes_removeDir hlists _ fs

theorem tlBinPath_afterData (hlists : Lists readdir) (uuid : McUuid) (fs : Files) :
    getTlBinFilePath (hostOf (afterData readdir uuid fs)) uuid.val =
      getTlBinFilePath (hostOf fs) uuid.val := by
  have hsame := (removes_afterData hlists uuid fs).node_eq (not_within_default uuid)
  rw [getTlBinFilePath, getTlBinFilePath, getTlRegistryPath_eq hsame]

theorem removes_afterBin (hlists : Lists readdir) (uuid : McUuid) (fs : Files) :
    Removes (fun q => Within (getTlDataPath uuid.val) q ∨ q = getTlBinFilePath (hostOf fs) uuid.val)
      fs (afterBin readdir uuid fs) := by
  have hbin := removes_remove (getTlBinFilePath (hostOf (afterData readdir uuid fs)) uuid.val)
    (afterData readdir uuid fs)
  refine ((removes_afterData hlists uuid fs).mono fun q hq => Or.inl hq).trans
    (hbin.mono fun q hq => Or.inr ?_)
  rw [hq, tlBinPath_afterData hlists]

/-- Files beside the data with another extension than the binary's are still there. -/
theorem node_afterBin (hlists : Lists readdir) {ext : Text} (hx : '/' ∉ x)
    (hext : '.' ∉ ext ∧ '/' ∉ ext) (hne : ext ≠ "tlbin".toList) :
    (afterBin readdir uuid fs).node (getRegistryPath ++ '/' :: (x ++ '.' :: ext)) =
      fs.node (getRegistryPath ++ '/' :: (x ++ '.' :: ext)) := by
  have hname : '/' ∉ x ++ '.' :: ext := by
    apply slash_not_mem_append hx
    intro h
    exact hext.2 ((List.mem_cons.mp h).resolve_left (by decide))
  apply (removes_afterBin hlists uuid fs).node_eq
  rintro ((hq | ⟨name, hname', hq⟩) | hq)
  · have hdot : '.' ∈ getRegistryPath ++ '/' :: (x ++ '.' :: ext) := by simp
    rw [hq] at hdot
    exact dot_not_mem_getTlDataPath uuid.val hdot
  · obtain ⟨hdir, _⟩ := HexText.append_sep_inj hname hname' hq
    exact getTlDataPath_ne_getRegistryPath uuid.val hdir.symm
  · obtain ⟨_, _, hext'⟩ := eq_of_path_ext ext hx hext (a := .tlBin uuid) hq.symm
    exact hne hext'.symm

theorem node_spidFile_afterBin (hlists : Lists readdir) (hx : '/' ∉ x) :
    (afterBin readdir uuid fs).node (spidFile x) = fs.node (spidFile x) :=
  node_afterBin hlists hx (by decide) (by decide)

theorem node_tabinFile_afterBin (hlists : Lists readdir) (hx : '/' ∉ x) :
    (afterBin readdir uuid fs).node (tabinFile x) = fs.node (tabinFile x) :=
  node_afterBin hlists hx (by decide) (by decide)

/-- The loop finds what it would have found at the beginning. -/
theorem matches_afterBin_iff (hlists : Lists readdir) :
    Matches p uuid spid (afterBin readdir uuid fs) x ↔ Matches p uuid spid fs x := by
  have hread : '/' ∉ x →
      readSpid (spidFile x) (afterBin readdir uuid fs) = readSpid (spidFile x) fs := by
    intro hx
    rw [readSpid, readSpid, node_spidFile_afterBin hlists hx]
  have hcheck : '/' ∉ x →
      mcCheckUuid p uuid (tabinFile x) (afterBin readdir uuid fs) =
        mcCheckUuid p uuid (tabinFile x) fs := by
    intro hx
    rw [mcCheckUuid, mcCheckUuid, node_tabinFile_afterBin hlists hx]
  constructor
  · rintro ⟨hx, hpresent, hspid, huuid⟩
    rw [node_spidFile_afterBin hlists hx] at hpresent
    exact ⟨hx, hpresent, hread hx ▸ hspid, hcheck hx ▸ huuid⟩
  · rintro ⟨hx, hpresent, hspid, huuid⟩
    refine ⟨hx, ?_, (hread hx).trans hspid, (hcheck hx).trans huuid⟩
    rw [node_spidFile_afterBin hlists hx]
    exact hpresent

theorem afterTA_cases (p : PointerWidth) (uuid : McUuid) (spid : UInt32) (fs : Files)
    (hlists : Lists readdir) :
    (∃ x, Matches p uuid spid fs x ∧ afterTA p readdir uuid spid fs =
        removeTA readdir (getRegistryPath ++ '/' :: x) (afterBin readdir uuid fs)) ∨
      (∀ x, ¬ Matches p uuid spid fs x) ∧
        afterTA p readdir uuid spid fs = afterBin readdir uuid fs := by
  rcases deleteSPTA_cases p uuid spid (afterBin readdir uuid fs) hlists with
    ⟨x, hx, hrun⟩ | ⟨hnone, hrun⟩
  · exact Or.inl ⟨x, (matches_afterBin_iff hlists).mp hx, hrun⟩
  · exact Or.inr ⟨fun x hx => hnone x ((matches_afterBin_iff hlists).mpr hx), hrun⟩

theorem cleanup_eq (hlists : Lists readdir) (h : Orderly fs) :
    mcRegistryCleanupTrustlet p readdir uuid spid fs =
      match (afterTA p readdir uuid spid fs).remove (getTlContFilePath uuid.val spid) with
      | .error _ => (mcDrvErrUnknown, afterTA p readdir uuid spid fs)
      | .ok fs => (mcDrvOk, fs) := by
  have hnone : (removeDir readdir (getTlDataPath uuid.val) fs).1 = none :=
    (removeDir_dataPath hlists h uuid).1
  unfold mcRegistryCleanupTrustlet
  dsimp only
  rw [if_neg (not_not.mpr hnone)]
  rfl

end Cleanup

section Run

variable {p : PointerWidth} {uuid : McUuid} {spid : UInt32} {fs fs' : Files} {readdir : Readdir}
  {x : Text} {found : Text → Prop} {a : RegistryObject}

/-- What is removed before the container, when these applications can be found. -/
def Touched (uuid : McUuid) (fs : Files) (found : Text → Prop) (q : Text) : Prop :=
  Within (getTlDataPath uuid.val) q ∨ q = getTlBinFilePath (hostOf fs) uuid.val ∨
    ∃ x, '/' ∉ x ∧ found x ∧ OfFound x q

theorem removes_afterTA_of_removeTA (hlists : Lists readdir) (hname : '/' ∉ x) (hfound : found x)
    (hrun : afterTA p readdir uuid spid fs =
      removeTA readdir (getRegistryPath ++ '/' :: x) (afterBin readdir uuid fs)) :
    Removes (Touched uuid fs found) fs (afterTA p readdir uuid spid fs) := by
  rw [hrun]
  refine ((removes_afterBin hlists uuid fs).mono ?_).trans
    ((removes_removeTA hlists x (afterBin readdir uuid fs)).mono ?_)
  · rintro q (hdata | hbin)
    · exact Or.inl hdata
    · exact Or.inr (Or.inl hbin)
  · exact fun q hq => Or.inr (Or.inr ⟨x, hname, hfound, hq⟩)

theorem removes_afterTA (hlists : Lists readdir) :
    Removes (Touched uuid fs (Matches p uuid spid fs)) fs (afterTA p readdir uuid spid fs) := by
  rcases afterTA_cases p uuid spid fs hlists with
    ⟨x, hx, hrun⟩ | ⟨_, hrun⟩
  · exact removes_afterTA_of_removeTA hlists hx.name hx hrun
  · rw [hrun]
    apply (removes_afterBin hlists uuid fs).mono
    rintro q (hdata | hbin)
    · exact Or.inl hdata
    · exact Or.inr (Or.inl hbin)

theorem object_of_touched (h : Touched uuid fs found (a.path (hostOf fs))) :
    (∃ pid, a = .dataCont uuid pid) ∨ a = .tlBin uuid ∨
      ∃ v : McUuid, found (byteArrayToString v.val) ∧
        getTlRegistryPath (hostOf fs) = getRegistryPath ∧ (a = .taBin v ∨ a = .taSpid v) := by
  rcases h with hdata | hbin | ⟨x, hx, hfound, ⟨host, hstorage⟩ | htabin | hspid⟩
  · refine Or.inl ?_
    by_contra hnone
    exact not_within_dataPath rfl (not_exists.mp hnone) hdata
  · have hpath : a.path (hostOf fs) = (RegistryObject.tlBin uuid).path (hostOf fs) := hbin
    exact Or.inr (Or.inl (RegistryObject.path_inj hpath))
  · exact absurd hstorage (not_within_storagePath rfl a _)
  · obtain ⟨v, ha, rfl, hregistry⟩ := eq_taBin_of_path hx htabin
    exact Or.inr (Or.inr ⟨v, hfound, hregistry, Or.inl ha⟩)
  · obtain ⟨v, ha, rfl, hregistry⟩ := eq_taSpid_of_path hx hspid
    exact Or.inr (Or.inr ⟨v, hfound, hregistry, Or.inr ha⟩)

/-- The trusted storage of an application is not among it. -/
theorem not_touched_of_inStorage {host : RegistryHost} {v : McUuid} {q : Text}
    (h : InStorage host v q) : ¬ Touched uuid fs found q := by
  rintro (hdata | hbin | ⟨x, hx, _, ⟨host', hstorage⟩ | htabin | hspid⟩)
  · exact not_within_dataPath_of_inStorage h hdata
  · have hpath : q = (RegistryObject.tlBin uuid).path (hostOf fs) := hbin
    have hletter := letter_mem_of_inStorage h
    rw [hpath] at hletter
    exact letter_not_mem_path rfl _ hletter
  · exact not_within_storagePath_of_inStorage hx h hstorage
  · rw [htabin] at h
    exact not_inStorage_of_dir (by decide) (slash_not_mem_append hx not_mem_exts.2) h
  · rw [hspid] at h
    exact not_inStorage_of_dir (by decide) (slash_not_mem_append hx not_mem_exts.1) h

theorem dot_mem_exts : '.' ∈ gpTaSpidFileExt ∧ '.' ∈ gpTaBinFileExt := by decide

theorem dot_mem_entry (x : Text) {ext : Text} (h : '.' ∈ ext) :
    '.' ∈ getRegistryPath ++ '/' :: (x ++ ext) :=
  List.mem_append_right _ (List.mem_cons_of_mem _ (List.mem_append_right x h))

/-- Nor is the directory with the data of another trustlet. -/
theorem not_touched_dataPath {v : McUuid} (hv : v ≠ uuid) :
    ¬ Touched uuid fs found (getTlDataPath v.val) := by
  have hdot := dot_not_mem_getTlDataPath v.val
  rintro (hdata | hbin | ⟨x, hx, _, ⟨host', hstorage⟩ | htabin | hspid⟩)
  · rcases hdata with hq | ⟨name, hname, hq⟩
    · obtain ⟨_, hhex⟩ := HexText.append_sep_inj (not_mem_byteArrayToString v.val).1
        (not_mem_byteArrayToString uuid.val).1 hq
      exact hv (Subtype.ext (byteArrayToString_inj hhex))
    · obtain ⟨hdir, _⟩ := HexText.append_sep_inj (not_mem_byteArrayToString v.val).1 hname hq
      exact getTlDataPath_ne_getRegistryPath uuid.val hdir.symm
  · exact getTlDataPath_ne_path v.val (hostOf fs) (.tlBin uuid) hbin
  · exact letter_not_mem_getTlDataPath v.val
      (letter_mem_of_within (letter_mem_storage host' _) hstorage)
  · rw [htabin] at hdot
    exact hdot (dot_mem_entry x dot_mem_exts.2)
  · rw [hspid] at hdot
    exact hdot (dot_mem_entry x dot_mem_exts.1)

/-- The container is removed last, if there is one; this alone decides the result. -/
theorem cleanup_cases (p : PointerWidth) (uuid : McUuid) (spid : UInt32)
    (hlists : Lists readdir) (h : Orderly fs) :
    (fs.node (getTlContFilePath uuid.val spid) = none ∧
        mcRegistryCleanupTrustlet p readdir uuid spid fs =
          (mcDrvErrUnknown, afterTA p readdir uuid spid fs)) ∨
      fs.node (getTlContFilePath uuid.val spid) ≠ none ∧
        (mcRegistryCleanupTrustlet p readdir uuid spid fs).1 = mcDrvOk ∧
        ∀ q, (mcRegistryCleanupTrustlet p readdir uuid spid fs).2.node q =
          if q = getTlContFilePath uuid.val spid then none
          else (afterTA p readdir uuid spid fs).node q := by
  have hpath : getTlContFilePath uuid.val spid =
      (RegistryObject.tlCont uuid spid).path (hostOf fs) := rfl
  have hsame : (afterTA p readdir uuid spid fs).node (getTlContFilePath uuid.val spid) =
      fs.node (getTlContFilePath uuid.val spid) := by
    apply (removes_afterTA hlists).node_eq
    intro htouched
    rcases object_of_touched (a := .tlCont uuid spid) (hpath ▸ htouched) with
      ⟨pid, ha⟩ | ha | ⟨v, _, _, ha | ha⟩ <;> cases ha
  have hfile := h.object (hostOf fs) (.tlCont uuid spid) rfl
  rw [← hpath] at hfile
  rw [cleanup_eq hlists h]
  cases hnode : fs.node (getTlContFilePath uuid.val spid) with
  | none =>
      rw [Tree.remove_eq_enoent (hsame.trans hnode)]
      exact Or.inl ⟨rfl, rfl⟩
  | some node =>
      cases node with
      | dir => exact absurd hnode hfile
      | file content =>
          obtain ⟨fs', hremove⟩ := Tree.remove_eq_ok (hsame.trans hnode)
          rw [hremove]
          exact Or.inr ⟨Option.some_ne_none _, rfl, Tree.node_remove hremove⟩

theorem cleanup_ret_iff (hlists : Lists readdir) (h : Orderly fs) :
    (mcRegistryCleanupTrustlet p readdir uuid spid fs).1 = mcDrvOk ↔
      fs.node (getTlContFilePath uuid.val spid) ≠ none := by
  rcases cleanup_cases p uuid spid hlists h with
    ⟨hnone, hrun⟩ | ⟨hsome, hret, _⟩
  · rw [hrun]
    exact iff_of_false (by decide : mcDrvErrUnknown ≠ mcDrvOk) (not_not.mpr hnone)
  · exact iff_of_true hret hsome

theorem removes_cleanup (p : PointerWidth) (uuid : McUuid) (spid : UInt32)
    (hlists : Lists readdir) (h : Orderly fs) :
    Removes (fun q => Touched uuid fs (Matches p uuid spid fs) q ∨
        q = getTlContFilePath uuid.val spid)
      fs (mcRegistryCleanupTrustlet p readdir uuid spid fs).2 := by
  have hbefore : Removes (fun q => Touched uuid fs (Matches p uuid spid fs) q ∨
      q = getTlContFilePath uuid.val spid) fs (afterTA p readdir uuid spid fs) :=
    (removes_afterTA hlists).mono fun q hq => Or.inl hq
  rcases cleanup_cases p uuid spid hlists h with
    ⟨_, hrun⟩ | ⟨_, _, hfiles⟩
  · rw [hrun]
    exact hbefore
  · refine hbefore.trans fun q => ?_
    rw [hfiles q]
    split
    · next hq => exact Or.inr ⟨Or.inr hq, rfl⟩
    · exact Or.inl rfl

end Run

/-! ## Nothing remains and nothing else changes -/

/-- The objects of an application of a provider. -/
def Belongs (uuid : McUuid) (spid : UInt32) (a : RegistryObject) : Prop :=
  a = .tlBin uuid ∨ a = .taBin uuid ∨ a = .taSpid uuid ∨ a = .tlCont uuid spid ∨
    ∃ pid, a = .dataCont uuid pid

/-- Nothing of the application is there. -/
structure Gone (host : RegistryHost) (uuid : McUuid) (spid : UInt32) (fs' : Files) : Prop where
  object : ∀ a, Belongs uuid spid a → fs'.node (a.path host) = none
  dataDir : fs'.node (getTlDataPath uuid.val) = none
  storage : fs'.node (storageDir host uuid) = none

/-- What belongs to others is as before. -/
structure Untouched (uuid : McUuid) (spid : UInt32) (fs fs' : Files) : Prop where
  object : ∀ a, ¬ Belongs uuid spid a →
    fs'.node (a.path (hostOf fs)) = fs.node (a.path (hostOf fs))
  dataDir : ∀ v : McUuid, v ≠ uuid →
    fs'.node (getTlDataPath v.val) = fs.node (getTlDataPath v.val)
  storage : ∀ v ≠ uuid, ∀ q, InStorage (hostOf fs) v q → fs'.node q = fs.node q

/-- A cleanup that returns `MC_DRV_OK` is complete and changes nothing else, in whatever order
the directories are listed. -/
def CleansUp (p : PointerWidth) (fs : Files) (uuid : McUuid) (spid : UInt32) : Prop :=
  ∀ readdir, Lists readdir → (mcRegistryCleanupTrustlet p readdir uuid spid fs).1 = mcDrvOk →
    Gone (hostOf fs) uuid spid (mcRegistryCleanupTrustlet p readdir uuid spid fs).2 ∧
      Untouched uuid spid fs (mcRegistryCleanupTrustlet p readdir uuid spid fs).2

/-- The application has no trusted storage; it has no files with the id of a provider, or the
loop finds them and no others; and it finds the files of no other application. -/
structure Cleanable (p : PointerWidth) (fs : Files) (uuid : McUuid) (spid : UInt32) : Prop where
  storage : fs.node (storageDir (hostOf fs) uuid) = none
  found : (∀ a : RegistryObject, a = .taBin uuid ∨ a = .taSpid uuid →
      fs.node (a.path (hostOf fs)) = none) ∨
    getTlRegistryPath (hostOf fs) = getRegistryPath ∧
      Matches p uuid spid fs (byteArrayToString uuid.val) ∧
        ∀ x, Matches p uuid spid fs x → x = byteArrayToString uuid.val
  others : getTlRegistryPath (hostOf fs) = getRegistryPath →
    ∀ v : McUuid, v ≠ uuid → ¬ Matches p uuid spid fs (byteArrayToString v.val)

/-! ## Orders of a directory -/

/-- What lies in a directory, in the order of the paths. -/
def entries : Readdir := fun fs dir =>
  ((fs.nodes.keys.map fun q => q.drop (dir.length + 1)).filter fun name =>
    '/' ∉ name ∧ fs.node (dir ++ '/' :: name) ≠ none).dedup

/-- The same, with a name in front if it is there. -/
def entriesFrom (name : Text) : Readdir := fun fs dir =>
  if name ∈ entries fs dir then name :: (entries fs dir).erase name else entries fs dir

theorem lists_entries : Lists entries := by
  constructor
  · intro fs dir
    exact List.nodup_dedup _
  · intro fs dir name
    rw [entries, List.mem_dedup, List.mem_filter, decide_eq_true_iff]
    constructor
    · exact fun h => h.2
    · intro h
      refine ⟨List.mem_map.mpr ⟨dir ++ '/' :: name, ?_, ?_⟩, h⟩
      · exact AList.mem_keys.mpr ((fs.mem_nodes_iff _).mpr h.2)
      · have hlength : (dir ++ ['/']).length = dir.length + 1 := List.length_append
        rw [List.append_cons, ← hlength, List.drop_left]

theorem entriesFrom_perm (name : Text) (fs : Files) (dir : Text) :
    (entriesFrom name fs dir).Perm (entries fs dir) := by
  unfold entriesFrom
  split
  · next hmem => exact (List.perm_cons_erase hmem).symm
  · exact List.Perm.refl _

theorem lists_entriesFrom (name : Text) : Lists (entriesFrom name) := by
  constructor
  · intro fs dir
    exact (entriesFrom_perm name fs dir).nodup_iff.mpr (lists_entries.nodup fs dir)
  · intro fs dir name'
    rw [(entriesFrom_perm name fs dir).mem_iff]
    exact lists_entries.mem_iff fs dir name'

section Orders

variable {p : PointerWidth} {uuid : McUuid} {spid : UInt32} {fs : Files} {x : Text}

/-- Each application that can be found is found in some order. -/
theorem afterTA_entriesFrom (hx : Matches p uuid spid fs x) :
    afterTA p (entriesFrom (x ++ gpTaSpidFileExt)) uuid spid fs =
      removeTA (entriesFrom (x ++ gpTaSpidFileExt)) (getRegistryPath ++ '/' :: x)
        (afterBin (entriesFrom (x ++ gpTaSpidFileExt)) uuid fs) := by
  have hlists := lists_entriesFrom (x ++ gpTaSpidFileExt)
  have hbefore : Matches p uuid spid (afterBin (entriesFrom (x ++ gpTaSpidFileExt)) uuid fs) x :=
    (matches_afterBin_iff hlists).mpr hx
  have hslash := slash_not_mem_append hx.name not_mem_exts.1
  generalize hfs : afterBin (entriesFrom (x ++ gpTaSpidFileExt)) uuid fs = fs1 at hbefore ⊢
  have hdir : fs1.node getRegistryPath = some .dir := by
    have hparent := fs1.node_parent hbefore.present
    rwa [dirname, spidFile, HexText.beforeLast_append hslash] at hparent
  have hmem : x ++ gpTaSpidFileExt ∈ entries fs1 getRegistryPath :=
    (lists_entries.mem_iff fs1 getRegistryPath _).mpr ⟨hslash, hbefore.present⟩
  have hfirst : entriesFrom (x ++ gpTaSpidFileExt) fs1 getRegistryPath =
      (x ++ gpTaSpidFileExt) :: (entries fs1 getRegistryPath).erase (x ++ gpTaSpidFileExt) :=
    if_pos hmem
  rw [afterTA, hfs, deleteSPTA, if_pos hdir, hfirst]
  exact deleteLoop_cons_of_matches hbefore _

end Orders

/-! ## When a cleanup is complete -/

section Complete

variable {p : PointerWidth} {uuid : McUuid} {spid : UInt32} {fs : Files} {readdir : Readdir}
  {x : Text} {found : Text → Prop} {a : RegistryObject}

/-- A file of the application that is gone has been found under this name. -/
theorem eq_of_gone (hrun : Removes (Touched uuid fs (fun y => found y)) fs
      (afterTA p readdir uuid spid fs))
    (ha : a = .taBin uuid ∨ a = .taSpid uuid) (hbefore : fs.node (a.path (hostOf fs)) ≠ none)
    (hgone : (afterTA p readdir uuid spid fs).node (a.path (hostOf fs)) = none) :
    found (byteArrayToString uuid.val) ∧ getTlRegistryPath (hostOf fs) = getRegistryPath := by
  rcases hrun (a.path (hostOf fs)) with hsame | ⟨htouched, _⟩
  · exact absurd (hsame.symm.trans hgone) hbefore
  · rcases object_of_touched htouched with ⟨pid, hdata⟩ | hbin | ⟨v, hfound, hregistry, hv⟩
    · rcases ha with ha | ha <;> cases ha.symm.trans hdata
    · rcases ha with ha | ha <;> cases ha.symm.trans hbin
    · have huuid : v = uuid := by
        rcases ha with rfl | rfl
        · rcases hv with hv | hv
          · cases hv
            rfl
          · cases hv
        · rcases hv with hv | hv
          · cases hv
          · cases hv
            rfl
      exact ⟨huuid ▸ hfound, hregistry⟩

/-- What is gone at the end and not the container was gone before. -/
theorem node_afterTA_of_gone (hlists : Lists readdir) (h : Orderly fs)
    (hcont : fs.node (getTlContFilePath uuid.val spid) ≠ none) {q : Text}
    (hq : q ≠ getTlContFilePath uuid.val spid) :
    (mcRegistryCleanupTrustlet p readdir uuid spid fs).2.node q =
      (afterTA p readdir uuid spid fs).node q := by
  rcases cleanup_cases p uuid spid hlists h with
    ⟨hnone, _⟩ | ⟨_, _, hfiles⟩
  · exact absurd hnone hcont
  · rw [hfiles q, if_neg hq]

theorem ne_tlContPath {host : RegistryHost} (ha : a ≠ .tlCont uuid spid) :
    a.path host ≠ getTlContFilePath uuid.val spid := by
  have hpath : getTlContFilePath uuid.val spid =
      (RegistryObject.tlCont uuid spid).path host := rfl
  rw [hpath]
  exact fun hq => ha (RegistryObject.path_inj hq)

theorem node_storageDir (p : PointerWidth) (uuid : McUuid) (spid : UInt32)
    (hlists : Lists readdir) (h : Orderly fs) {host : RegistryHost} {v : McUuid} {q : Text}
    (hq : InStorage host v q) :
    (mcRegistryCleanupTrustlet p readdir uuid spid fs).2.node q = fs.node q := by
  apply (removes_cleanup p uuid spid hlists h).node_eq
  rintro (htouched | hcont)
  · exact not_touched_of_inStorage hq htouched
  · have hpath : q = (RegistryObject.tlCont uuid spid).path (hostOf fs) := hcont
    have hletter := letter_mem_of_inStorage hq
    rw [hpath] at hletter
    exact letter_not_mem_path rfl _ hletter

theorem tabinFile_eq_path {v : McUuid} (h : getTlRegistryPath (hostOf fs) = getRegistryPath) :
    tabinFile (byteArrayToString v.val) = (RegistryObject.taBin v).path (hostOf fs) := by
  show _ = getTABinFilePath (hostOf fs) v.val
  rw [getTABinFilePath, h, tabinFile]

theorem spidFile_eq_path {v : McUuid} (h : getTlRegistryPath (hostOf fs) = getRegistryPath) :
    spidFile (byteArrayToString v.val) = (RegistryObject.taSpid v).path (hostOf fs) := by
  show _ = getTASpidFilePath (hostOf fs) v.val
  rw [getTASpidFilePath, h, spidFile]

/-- The files of an application that has been found are gone. -/
theorem node_afterTA_of_found (hlists : Lists readdir) (h : Orderly fs) {v : McUuid}
    (hregistry : getTlRegistryPath (hostOf fs) = getRegistryPath)
    (hrun : afterTA p readdir uuid spid fs = removeTA readdir
      (getRegistryPath ++ '/' :: byteArrayToString v.val) (afterBin readdir uuid fs)) :
    (afterTA p readdir uuid spid fs).node ((RegistryObject.taBin v).path (hostOf fs)) = none ∧
      (afterTA p readdir uuid spid fs).node ((RegistryObject.taSpid v).path (hostOf fs)) =
        none := by
  have hbefore := removes_afterBin hlists uuid fs
  have hbin := hbefore.ne_dir (h.object (hostOf fs) (.taBin v) rfl)
  have hspid := hbefore.ne_dir (h.object (hostOf fs) (.taSpid v) rfl)
  rw [← tabinFile_eq_path hregistry] at hbin ⊢
  rw [← spidFile_eq_path hregistry] at hspid ⊢
  rw [hrun]
  exact node_removeTA hlists hbin hspid

theorem removes_deleteSPTA (p : PointerWidth) (uuid : McUuid) (spid : UInt32)
    (fs : Files) (hlists : Lists readdir) :
    Removes (fun _ => True) (afterBin readdir uuid fs) (afterTA p readdir uuid spid fs) := by
  rcases afterTA_cases p uuid spid fs hlists with
    ⟨x, _, hrun⟩ | ⟨_, hrun⟩
  · rw [hrun]
    exact (removes_removeTA hlists x _).mono fun _ _ => trivial
  · rw [hrun]
    exact removes_refl _ _

theorem cleanable_of_cleansUp (h : Orderly fs)
    (hcont : fs.node (getTlContFilePath uuid.val spid) ≠ none)
    (hcleans : CleansUp p fs uuid spid) : Cleanable p fs uuid spid := by
  have hends : ∀ readdir, Lists readdir →
      Gone (hostOf fs) uuid spid (mcRegistryCleanupTrustlet p readdir uuid spid fs).2 ∧
        Untouched uuid spid fs (mcRegistryCleanupTrustlet p readdir uuid spid fs).2 :=
    fun readdir hlists => hcleans readdir hlists ((cleanup_ret_iff hlists h).mpr hcont)
  -- the application that is found first is the only one
  have hfirst : ∀ x, Matches p uuid spid fs x →
      Removes (Touched uuid fs fun y => y = x) fs
        (afterTA p (entriesFrom (x ++ gpTaSpidFileExt)) uuid spid fs) := by
    intro x hx
    exact removes_afterTA_of_removeTA (lists_entriesFrom _) hx.name rfl (afterTA_entriesFrom hx)
  constructor
  · rw [← node_storageDir p uuid spid lists_entries h (Or.inl rfl)]
    exact (hends entries lists_entries).1.storage
  · by_cases hnone : ∀ a : RegistryObject, a = .taBin uuid ∨ a = .taSpid uuid →
        fs.node (a.path (hostOf fs)) = none
    · exact Or.inl hnone
    · push Not at hnone
      obtain ⟨a, ha, hbefore⟩ := hnone
      have hother : a ≠ .tlCont uuid spid := by
        rcases ha with rfl | rfl <;> simp
      have hbelongs : Belongs uuid spid a := by
        rcases ha with rfl | rfl
        · exact Or.inr (Or.inl rfl)
        · exact Or.inr (Or.inr (Or.inl rfl))
      have hgone : ∀ readdir, Lists readdir →
          (afterTA p readdir uuid spid fs).node (a.path (hostOf fs)) = none := by
        intro readdir hlists
        rw [← node_afterTA_of_gone hlists h hcont (ne_tlContPath hother)]
        exact (hends readdir hlists).1.object a hbelongs
      obtain ⟨hmatch, hregistry⟩ := eq_of_gone (removes_afterTA lists_entries) ha hbefore
        (hgone entries lists_entries)
      refine Or.inr ⟨hregistry, hmatch, fun x hx => ?_⟩
      exact (eq_of_gone (hfirst x hx) ha hbefore (hgone _ (lists_entriesFrom _))).1.symm
  · intro hregistry v hv hmatch
    have hlists := lists_entriesFrom (byteArrayToString v.val ++ gpTaSpidFileExt)
    have hgone := (node_afterTA_of_found hlists h hregistry (afterTA_entriesFrom hmatch)).2
    have hsame := (hends _ hlists).2.object (.taSpid v) (by simp [Belongs, hv])
    rw [node_afterTA_of_gone hlists h hcont (ne_tlContPath (by simp)), hgone] at hsame
    have hpresent := hmatch.present
    rw [spidFile_eq_path hregistry] at hpresent
    exact hpresent hsame.symm

/-- The data of the trustlet and its binary are gone before the container is removed. -/
theorem node_afterTA_data (p : PointerWidth) (uuid : McUuid) (spid : UInt32)
    (hlists : Lists readdir) (h : Orderly fs) :
    (afterTA p readdir uuid spid fs).node (getTlDataPath uuid.val) = none ∧
      (afterTA p readdir uuid spid fs).node ((RegistryObject.tlBin uuid).path (hostOf fs)) =
        none := by
  have hbefore := removes_afterData hlists uuid fs
  have hlater := removes_deleteSPTA p uuid spid fs hlists
  have hbin := removes_remove (getTlBinFilePath (hostOf (afterData readdir uuid fs)) uuid.val)
    (afterData readdir uuid fs)
  constructor
  · exact hlater.node_none (hbin.node_none (removeDir_dataPath hlists h uuid).2)
  · apply hlater.node_none
    show (afterBin readdir uuid fs).node (getTlBinFilePath (hostOf fs) uuid.val) = none
    have hfile := hbefore.ne_dir (h.object (hostOf fs) (.tlBin uuid) rfl)
    unfold afterBin
    rw [tlBinPath_afterData hlists]
    exact node_after_remove hfile

theorem node_of_dir_none {dir : Text} (name : Text) (h : fs.node dir = none) :
    fs.node (dir ++ '/' :: name) = none := by
  by_contra hsome
  rw [node_of_way name hsome] at h
  cases h

theorem gone_of_cleanable (hlists : Lists readdir) (h : Orderly fs)
    (hcont : fs.node (getTlContFilePath uuid.val spid) ≠ none)
    (hclean : Cleanable p fs uuid spid) :
    Gone (hostOf fs) uuid spid (mcRegistryCleanupTrustlet p readdir uuid spid fs).2 := by
  have hsame : ∀ {q}, q ≠ getTlContFilePath uuid.val spid →
      (mcRegistryCleanupTrustlet p readdir uuid spid fs).2.node q =
        (afterTA p readdir uuid spid fs).node q := node_afterTA_of_gone hlists h hcont
  obtain ⟨hdata, hbin⟩ := node_afterTA_data p uuid spid hlists h
  have hdataEnd : (mcRegistryCleanupTrustlet p readdir uuid spid fs).2.node
      (getTlDataPath uuid.val) = none := by
    rw [hsame (getTlDataPath_ne_path uuid.val (hostOf fs) (.tlCont uuid spid))]
    exact hdata
  have hfound : ∀ a : RegistryObject, a = .taBin uuid ∨ a = .taSpid uuid →
      (afterTA p readdir uuid spid fs).node (a.path (hostOf fs)) = none := by
    intro a ha
    rcases hclean.found with hnone | ⟨hregistry, hmatch, honly⟩
    · exact (removes_afterTA hlists).node_none (hnone a ha)
    · rcases afterTA_cases p uuid spid fs hlists with
        ⟨x, hx, hrun⟩ | ⟨hnot, _⟩
      · rw [honly x hx] at hrun
        have hgone := node_afterTA_of_found hlists h hregistry hrun
        rcases ha with rfl | rfl
        · exact hgone.1
        · exact hgone.2
      · exact absurd hmatch (hnot _)
  constructor
  · rintro a (rfl | rfl | rfl | rfl | ⟨pid, rfl⟩)
    · rw [hsame (ne_tlContPath (by simp))]
      exact hbin
    · rw [hsame (ne_tlContPath (by simp))]
      exact hfound _ (Or.inl rfl)
    · rw [hsame (ne_tlContPath (by simp))]
      exact hfound _ (Or.inr rfl)
    · rcases cleanup_cases p uuid spid hlists h with
        ⟨hnone, _⟩ | ⟨_, _, hfiles⟩
      · exact absurd hnone hcont
      · exact (hfiles _).trans (if_pos rfl)
    · exact node_of_dir_none _ hdataEnd
  · exact hdataEnd
  · rw [node_storageDir p uuid spid hlists h (Or.inl rfl)]
    exact hclean.storage

theorem untouched_of_cleanable (hlists : Lists readdir) (h : Orderly fs)
    (hclean : Cleanable p fs uuid spid) :
    Untouched uuid spid fs (mcRegistryCleanupTrustlet p readdir uuid spid fs).2 := by
  have hremoves := removes_cleanup p uuid spid hlists h
  constructor
  · intro a hother
    apply hremoves.node_eq
    rintro (htouched | hcont)
    · apply hother
      rcases object_of_touched htouched with hdata | hbin | ⟨v, hmatch, hregistry, hv⟩
      · exact Or.inr (Or.inr (Or.inr (Or.inr hdata)))
      · exact Or.inl hbin
      · have huuid : v = uuid := by
          by_contra hne
          exact hclean.others hregistry v hne hmatch
        rw [huuid] at hv
        rcases hv with hv | hv
        · exact Or.inr (Or.inl hv)
        · exact Or.inr (Or.inr (Or.inl hv))
    · have hpath : a.path (hostOf fs) = (RegistryObject.tlCont uuid spid).path (hostOf fs) := hcont
      exact hother (Or.inr (Or.inr (Or.inr (Or.inl (RegistryObject.path_inj hpath)))))
  · intro v hv
    apply hremoves.node_eq
    rintro (htouched | hcont)
    · exact not_touched_dataPath hv htouched
    · exact getTlDataPath_ne_path v.val (hostOf fs) (.tlCont uuid spid) hcont
  · exact fun v _ q hq => node_storageDir p uuid spid hlists h hq

/-- After any sequence of store operations, a cleanup is complete and changes nothing else if
and only if there is no container or the files of the application are as the loop needs them. -/
theorem cleansUp_iff (p : PointerWidth) {start : Files} (h : Orderly start)
    (calls : List RegistryContents.StoreCall) (uuid : McUuid) (spid : UInt32) :
    CleansUp p (storeAll p calls start) uuid spid ↔
      ((storeAll p calls start).node (getTlContFilePath uuid.val spid) ≠ none →
        Cleanable p (storeAll p calls start) uuid spid) := by
  have horderly : Orderly (storeAll p calls start) := orderly_storeAll p calls h
  constructor
  · exact fun hcleans hcont => cleanable_of_cleansUp horderly hcont hcleans
  · intro hclean readdir hlists hret
    have hcont := (cleanup_ret_iff hlists horderly).mp hret
    exact ⟨gone_of_cleanable hlists horderly hcont (hclean hcont),
      untouched_of_cleanable hlists horderly (hclean hcont)⟩

end Complete

/-! ## Trusted storage that is left behind -/

/-- Directories that are apart from those of trustlets and from objects. -/
theorem orderly_of_dirs {fs : Files} (h : ∀ q ∈ fs.nodes.keys,
    fs.node q = some .dir ∧ '.' ∉ q ∧ (dirname q).length < 53) : Orderly fs := by
  have hnode : ∀ q, fs.node q ≠ none →
      fs.node q = some .dir ∧ '.' ∉ q ∧ (dirname q).length < 53 :=
    fun q hq => h q (AList.mem_keys.mpr ((fs.mem_nodes_iff q).mpr hq))
  constructor
  · intro host a _ hdir
    have hsome : fs.node (a.path host) ≠ none := hdir ▸ Option.some_ne_none _
    exact (hnode _ hsome).2.1 (dot_mem_path host a)
  · intro uuid
    by_cases hnone : fs.node (getTlDataPath uuid.val) = none
    · exact Or.inl hnone
    · exact Or.inr (hnode _ hnone).1
  · intro uuid name hname
    refine Or.inl ?_
    by_contra hsome
    have hlength : (byteArrayToString uuid.val).length = 32 := by
      rw [byteArrayToString, HexText.length_hexBytes, uuid.property]
      rfl
    have hregistry : getRegistryPath.length = 20 := rfl
    have hshort := (hnode _ hsome).2.2
    rw [dirname, HexText.beforeLast_append hname, getTlDataPath, List.length_append,
      List.length_cons, hlength, hregistry] at hshort
    omega

/-- A device on which a trusted application has stored something. -/
def storageFiles : Files :=
  (emptyFiles.put (getRegistryPath ++ "/TbStorage".toList) .dir (by decide) (fun _ => by rfl)).put
    (getRegistryPath ++ "/TbStorage".toList ++ '/' :: byteArrayToString taUuid.val) .dir
    (by decide) (fun _ => by rfl)

theorem orderly_storageFiles : Orderly storageFiles :=
  orderly_of_dirs (by decide)

theorem cleansUp_iff_storageFiles :
    CleansUp .bits64 (storeAll .bits64 [] storageFiles) taUuid 7 ↔
      ((storeAll .bits64 [] storageFiles).node (getTlContFilePath taUuid.val 7) ≠ none →
        Cleanable .bits64 (storeAll .bits64 [] storageFiles) taUuid 7) :=
  cleansUp_iff .bits64 orderly_storageFiles [] taUuid 7

/-- The application and its container are stored; the cleanup returns `MC_DRV_OK`, and the
directory with the trusted storage is still there. -/
theorem not_cleansUp :
    ¬ ∀ p start, Orderly start → ∀ calls uuid spid,
      CleansUp p (storeAll p calls start) uuid spid := by
  intro hall
  have hcleans := hall .bits64 storageFiles orderly_storageFiles
    [.taBlob {} 7 taBlob 176, .container (.tlCont taUuid 7) none none [0]] taUuid 7
  have horderly := orderly_storeAll .bits64
    [.taBlob {} 7 taBlob 176, .container (.tlCont taUuid 7) none none [0]] orderly_storageFiles
  generalize hstored : storeAll .bits64 [.taBlob {} 7 taBlob 176,
    .container (.tlCont taUuid 7) none none [0]] storageFiles = fs at hcleans horderly
  have hcont : fs.node (getTlContFilePath taUuid.val 7) ≠ none := by
    rw [← hstored]
    decide
  have hstorage : fs.node (storageDir (hostOf fs) taUuid) = some .dir := by
    rw [← hstored]
    decide
  have hgone := (hcleans entries lists_entries
    ((cleanup_ret_iff lists_entries horderly).mpr hcont)).1.storage
  rw [node_storageDir .bits64 taUuid 7 lists_entries horderly (Or.inl rfl), hstorage] at hgone
  cases hgone

end RegistryCleanup

end Exynos8890.MobiCore
