import Exynos8890.MobiCore.RegistryCleanup

/-!
# Paths of a cleanup

What a cleanup looks for is named after a uuid, after the name of another file or after a whole
path.  The letter of the directory with the trusted storage keeps it apart from the objects of
the registry.

Main results:

- Definition `storageDir`: the directory with the trusted storage of an application.
- Theorem `not_within_storagePath`: objects are not where the loop looks for the storage.
- Theorem `not_within_storagePath_of_inStorage`: nor is the storage.
- Theorems `eq_taBin_of_path` and `eq_taSpid_of_path`: the objects that the loop removes.
-/

namespace Exynos8890.MobiCore

namespace RegistryCleanup

open FileSystem RegistryContents RegistryFiles SecureStorage

/-- The directory with the trusted storage of an application. -/
def storageDir (host : RegistryHost) (uuid : McUuid) : Text :=
  getTlRegistryPath host ++ "/TbStorage".toList ++ '/' :: byteArrayToString uuid.val

section Apart

variable {host host' : RegistryHost} {a : RegistryObject} {uuid v : McUuid} {x q : Text}

theorem letter_not_mem_byteArrayToString (bytes : List UInt8) : 'T' ∉ byteArrayToString bytes := by
  have hdigit : ∀ n < 16, lowerDigit n ≠ 'T' := by decide
  intro h
  obtain ⟨n, hn, hc⟩ := HexText.mem_hexBytes h
  exact hdigit n hn hc.symm

theorem letter_not_mem_uint32ToString (value : UInt32) : 'T' ∉ uint32ToString value := by
  have hdigit : ∀ n < 16, upperDigit n ≠ 'T' := by decide
  intro h
  rw [uint32ToString, List.reverse_reverse] at h
  obtain ⟨n, hn, hc⟩ := HexText.mem_hexDigits h
  exact hdigit n hn hc.symm

theorem letter_not_mem_append {s t : Text} (hs : 'T' ∉ s) (ht : 'T' ∉ t) : 'T' ∉ s ++ t := by
  intro h
  rcases List.mem_append.mp h with h | h
  · exact hs h
  · exact ht h

theorem letter_not_mem_getTlRegistryPath (host : RegistryHost) : 'T' ∉ getTlRegistryPath host := by
  unfold getTlRegistryPath
  split
  · exact (by decide : 'T' ∉ mcRegistryDefaultPath)
  · split <;> exact (by decide : 'T' ∉ mcRegistryContainerPath)

theorem letter_not_mem_getTlDataPath (bytes : List UInt8) : 'T' ∉ getTlDataPath bytes := by
  apply letter_not_mem_append (by decide)
  intro h
  rcases List.mem_cons.mp h with h | h
  · exact absurd h (by decide)
  · exact letter_not_mem_byteArrayToString bytes h

theorem letter_not_mem_dir (hhost : host.authTokenPath = none) (a : RegistryObject) :
    'T' ∉ a.dir host := by
  cases a with
  | authToken =>
      rw [dir_authToken hhost]
      decide
  | rootCont | spCont | tlCont => exact (by decide : 'T' ∉ getRegistryPath)
  | tlBin | taBin | taSpid => exact letter_not_mem_getTlRegistryPath host
  | dataCont uuid pid => exact letter_not_mem_getTlDataPath uuid.val

theorem letter_not_mem_stem (a : RegistryObject) : 'T' ∉ a.stem := by
  cases a with
  | authToken | rootCont => exact (by decide : 'T' ∉ "00000000".toList)
  | spCont spid => exact letter_not_mem_uint32ToString spid
  | dataCont uuid pid => exact letter_not_mem_uint32ToString pid
  | tlBin uuid | taBin uuid | taSpid uuid => exact letter_not_mem_byteArrayToString uuid.val
  | tlCont uuid spid =>
      apply letter_not_mem_append (letter_not_mem_byteArrayToString uuid.val)
      intro h
      rcases List.mem_cons.mp h with h | h
      · exact absurd h (by decide)
      · exact letter_not_mem_uint32ToString spid h

theorem letter_not_mem_path (hhost : host.authTokenPath = none) (a : RegistryObject) :
    'T' ∉ a.path host := by
  have hext : 'T' ∉ a.ext := by
    unfold RegistryObject.ext
    cases a.kind <;> decide
  rw [a.path_eq]
  intro h
  rcases List.mem_append.mp h with h | h
  · exact letter_not_mem_dir hhost a h
  · rcases List.mem_cons.mp h with h | h
    · exact absurd h (by decide)
    · rcases List.mem_append.mp h with h | h
      · exact letter_not_mem_stem a h
      · rcases List.mem_cons.mp h with h | h
        · exact absurd h (by decide)
        · exact hext h

theorem letter_mem_storage (host : RegistryHost) (rest : Text) :
    'T' ∈ getTlRegistryPath host ++ "/TbStorage".toList ++ rest := by
  apply List.mem_append_left
  apply List.mem_append_right
  decide

theorem letter_mem_of_within {dir : Text} (h : 'T' ∈ dir) (hq : Within dir q) : 'T' ∈ q := by
  rcases hq with rfl | ⟨name, _, rfl⟩
  · exact h
  · exact List.mem_append_left _ h

theorem not_within_storagePath (hhost : host.authTokenPath = none) (a : RegistryObject)
    (basename : Text) : ¬ Within (storagePath host' basename) (a.path host) :=
  fun h => letter_not_mem_path hhost a (letter_mem_of_within (letter_mem_storage host' _) h)

/-- Only the data containers of a trustlet lie in its directory. -/
theorem not_within_dataPath (hhost : host.authTokenPath = none)
    (h : ∀ pid, a ≠ .dataCont uuid pid) : ¬ Within (getTlDataPath uuid.val) (a.path host) := by
  rintro (hq | ⟨name, hname, hq⟩)
  · exact getTlDataPath_ne_path uuid.val host a hq.symm
  · obtain ⟨hdir, _⟩ := (path_eq_iff hname).mp hq
    obtain ⟨pid, ha⟩ := eq_dataCont_of_dir hhost hdir
    exact h pid ha

/-- A path in the storage of an application. -/
def InStorage (host : RegistryHost) (v : McUuid) (q : Text) : Prop :=
  q = storageDir host v ∨ ∃ file, '/' ∉ file ∧ q = storageDir host v ++ '/' :: file

theorem letter_mem_storageDir (host : RegistryHost) (v : McUuid) : 'T' ∈ storageDir host v :=
  letter_mem_storage host _

theorem letter_mem_of_inStorage (h : InStorage host v q) : 'T' ∈ q := by
  rcases h with rfl | ⟨file, _, rfl⟩
  · exact letter_mem_storageDir host v
  · exact List.mem_append_left _ (letter_mem_storageDir host v)

/-- What lies in a directory without the letter is not in the storage. -/
theorem not_inStorage_of_dir {dir name : Text} (hdir : 'T' ∉ dir) (hname : '/' ∉ name) :
    ¬ InStorage host v (dir ++ '/' :: name) := by
  rintro (hq | ⟨file, hfile, hq⟩)
  · obtain ⟨hdir', _⟩ := HexText.append_sep_inj hname (not_mem_byteArrayToString v.val).1 hq
    apply hdir
    rw [hdir']
    exact List.mem_append_right _ (by decide)
  · obtain ⟨hdir', _⟩ := HexText.append_sep_inj hname hfile hq
    rw [hdir'] at hdir
    exact hdir (letter_mem_storageDir host v)

theorem not_within_dataPath_of_inStorage (h : InStorage host v q) :
    ¬ Within (getTlDataPath uuid.val) q := by
  rintro (rfl | ⟨name, hname, rfl⟩)
  · exact letter_not_mem_getTlDataPath uuid.val (letter_mem_of_inStorage h)
  · exact not_inStorage_of_dir (letter_not_mem_getTlDataPath uuid.val) hname h

/-- The directory that is cleaned is not that of an application: its path goes on behind the one
of the storage with the path of the registry. -/
theorem storagePath_registry (host : RegistryHost) (x : Text) :
    storagePath host (getRegistryPath ++ '/' :: x) =
      (getTlRegistryPath host ++ "/TbStorage".toList ++ getRegistryPath) ++ '/' :: x := by
  have hhead : (getRegistryPath ++ '/' :: x).head? = some '/' := rfl
  rw [storagePath, if_pos hhead, ← List.append_assoc]

theorem length_getTlRegistryPath (host : RegistryHost) :
    (getTlRegistryPath host).length = 20 ∨ (getTlRegistryPath host).length = 22 := by
  unfold getTlRegistryPath
  split
  · exact Or.inr rfl
  · split <;> exact Or.inl rfl

/-- The storage of an application is apart from the directory that is cleaned. -/
theorem not_within_storagePath_of_inStorage (hx : '/' ∉ x) (h : InStorage host v q) :
    ¬ Within (storagePath host' (getRegistryPath ++ '/' :: x)) q := by
  have hhex := (not_mem_byteArrayToString v.val).1
  have hlength := length_getTlRegistryPath host
  have hlength' := length_getTlRegistryPath host'
  have hstorage : "/TbStorage".toList.length = 10 := rfl
  have hregistry : getRegistryPath.length = 20 := rfl
  have happ : "/data/app".toList.length = 9 := rfl
  have hbelow : getTlRegistryPath host' ++ "/TbStorage".toList ++ getRegistryPath =
      (getTlRegistryPath host' ++ "/TbStorage".toList ++ "/data/app".toList) ++
        '/' :: "mcRegistry".toList := by
    rw [List.append_assoc _ "/data/app".toList]
    rfl
  -- neither the directory of an application nor a file in it has this path
  have hapart : storageDir host v ≠ getTlRegistryPath host' ++ "/TbStorage".toList ++
      getRegistryPath ++ '/' :: x := by
    intro heq
    obtain ⟨hdir, _⟩ := HexText.append_sep_inj hhex hx heq
    have hsame := congrArg List.length hdir
    simp only [List.length_append] at hsame
    omega
  rw [storagePath_registry]
  rintro (hq | ⟨name, hname, hq⟩)
  · rcases h with hq' | ⟨file, hfile, hq'⟩
    · exact hapart (hq'.symm.trans hq)
    · obtain ⟨hdir, _⟩ := HexText.append_sep_inj hfile hx (hq'.symm.trans hq)
      rw [hbelow] at hdir
      obtain ⟨hdir', _⟩ := HexText.append_sep_inj hhex (by decide) hdir
      have hsame := congrArg List.length hdir'
      simp only [List.length_append] at hsame
      omega
  · rcases h with hq' | ⟨file, hfile, hq'⟩
    · obtain ⟨hdir, _⟩ := HexText.append_sep_inj hhex hname (hq'.symm.trans hq)
      have hsame := congrArg List.length hdir
      simp only [List.length_append, List.length_cons] at hsame
      omega
    · obtain ⟨hdir, _⟩ := HexText.append_sep_inj hfile hname (hq'.symm.trans hq)
      exact hapart hdir

theorem eq_of_path_ext (ext : Text) (hx : '/' ∉ x) (hext : '.' ∉ ext ∧ '/' ∉ ext)
    (h : a.path host = getRegistryPath ++ '/' :: (x ++ '.' :: ext)) :
    a.dir host = getRegistryPath ∧ a.stem = x ∧ a.ext = ext := by
  have hname : '/' ∉ x ++ '.' :: ext := by
    intro hmem
    rcases List.mem_append.mp hmem with hmem | hmem
    · exact hx hmem
    · exact hext.2 ((List.mem_cons.mp hmem).resolve_left (by decide))
  obtain ⟨hdir, hrest⟩ := (path_eq_iff hname).mp h
  obtain ⟨hstem, hext'⟩ := HexText.append_sep_inj a.not_mem_ext.2 hext.1 hrest
  exact ⟨hdir, hstem, hext'⟩

theorem eq_taBin_of_path (hx : '/' ∉ x) (h : a.path host = tabinFile x) :
    ∃ v, a = .taBin v ∧ x = byteArrayToString v.val ∧
      getTlRegistryPath host = getRegistryPath := by
  obtain ⟨hdir, hstem, hext⟩ := eq_of_path_ext "tabin".toList hx (by decide) h
  have hkind : a.kind = .taBin := by
    unfold RegistryObject.ext at hext
    cases hk : a.kind <;> first | rfl | exact absurd (hk ▸ hext) (by decide)
  cases a with
  | taBin v => exact ⟨v, rfl, hstem.symm, hdir⟩
  | _ => cases hkind

theorem eq_taSpid_of_path (hx : '/' ∉ x) (h : a.path host = spidFile x) :
    ∃ v, a = .taSpid v ∧ x = byteArrayToString v.val ∧
      getTlRegistryPath host = getRegistryPath := by
  obtain ⟨hdir, hstem, hext⟩ := eq_of_path_ext "spid".toList hx (by decide) h
  have hkind : a.kind = .taSpid := by
    unfold RegistryObject.ext at hext
    cases hk : a.kind <;> first | rfl | exact absurd (hk ▸ hext) (by decide)
  cases a with
  | taSpid v => exact ⟨v, rfl, hstem.symm, hdir⟩
  | _ => cases hkind

end Apart

end RegistryCleanup

end Exynos8890.MobiCore
