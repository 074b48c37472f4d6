import Exynos8890.MobiCore.CleanupCompleteness

/-!
# Entries of the registry

Everything in the registry lies below one entry of its directory.  A cleanup changes what lies
below some of the entries and leaves the others alone, so that what can be said of one of them
does not depend on what has been cleaned before.

Main results:

- Definition `Below`: an entry and what lies in it, at any depth.
- Definition `Confined`: files are removed below some of the entries only.
- Theorem `removeDir_eq_none_iff`: when a directory is removed without an error.
- Theorems `cleanupTrustlet_ret_iff`, `confined_cleanupTrustlet` and
  `trustletGone_of_cleanupTrustlet`: the cleanup of a trustlet, for any contents of the files.
-/

namespace Exynos8890.MobiCore

namespace RegistryCleanup

open CStruct FileSystem RegistryContents RegistryFiles SecureStorage

/-! ## What lies below a path -/

/-- The path and what lies in it, at any depth. -/
def Below (top q : Text) : Prop :=
  q = top ∨ ∃ rest, q = top ++ '/' :: rest

/-- An entry of the directory of the registry. -/
def entry (name : Text) : Text :=
  getRegistryPath ++ '/' :: name

section Below

variable {dir name name' q : Text} {fs fs' fs'' : Files}

theorem path_ne_nil (dir name : Text) : dir ++ '/' :: name ≠ [] := by
  simp

theorem below_self (top : Text) : Below top top :=
  Or.inl rfl

theorem takeWhile_of_below (hname : '/' ∉ name) (h : Below (dir ++ '/' :: name) q) :
    ((q.drop (dir.length + 1)).takeWhile fun c => c ≠ '/') = name := by
  have hdrop : ∀ rest : Text, (dir ++ '/' :: rest).drop (dir.length + 1) = rest := by
    intro rest
    have hlength : dir.length + 1 = (dir ++ ['/']).length := by simp
    rw [List.append_cons, hlength, List.drop_left]
  have hall : ∀ c ∈ name, decide (c ≠ '/') = true := by
    intro c hc
    rw [decide_eq_true_iff]
    exact fun heq => hname (heq ▸ hc)
  rcases h with rfl | ⟨rest, rfl⟩
  · rw [hdrop]
    exact List.takeWhile_eq_self_iff.mpr hall
  · rw [List.append_assoc, List.cons_append, hdrop, List.takeWhile_append_of_pos hall]
    simp

theorem eq_of_below (hname : '/' ∉ name) (hname' : '/' ∉ name')
    (h : Below (dir ++ '/' :: name) q) (h' : Below (dir ++ '/' :: name') q) : name = name' :=
  (takeWhile_of_below hname h).symm.trans (takeWhile_of_below hname' h')

theorem below_of_dirname {p : Text} (hp : p ≠ []) (h : dirname q = p) : Below p q := by
  obtain ⟨name, _, rfl⟩ := eq_of_dirname h hp
  exact Or.inr ⟨name, rfl⟩

theorem below_trans {top : Text} {rest : Text} (h : Below (top ++ '/' :: rest) q) :
    Below top q := by
  rcases h with rfl | ⟨rest', rfl⟩
  · exact Or.inr ⟨rest, rfl⟩
  · exact Or.inr ⟨rest ++ '/' :: rest', by simp⟩

theorem below_of_within (h : Within dir q) : Below dir q :=
  h.imp id fun ⟨name, _, hq⟩ => ⟨name, hq⟩

/-- Two trees are the same below a path. -/
def SameBelow (top : Text) (fs fs' : Files) : Prop :=
  ∀ q, Below top q → fs'.node q = fs.node q

/-- Whether something can be removed depends on what lies below it. -/
theorem removable_iff_of_sameBelow {p : Text} (hp : p ≠ []) (h : SameBelow p fs fs') :
    fs'.Removable p ↔ fs.Removable p := by
  have hchildren : ∀ q, dirname q = p → fs'.node q = fs.node q :=
    fun q hq => h q (below_of_dirname hp hq)
  unfold Tree.Removable
  rw [h p (below_self p)]
  refine and_congr_right fun _ => and_congr_right fun _ => forall_congr' fun q => ?_
  exact forall_congr' fun _ => forall_congr' fun hq => by rw [hchildren q hq]

end Below

/-! ## Directories that can be emptied -/

/-- What lies in the directory has no dot in front and can be removed. -/
def Emptiable (fs : Files) (dir : Text) : Prop :=
  fs.node dir = some .dir → ∀ name, '/' ∉ name → fs.node (dir ++ '/' :: name) ≠ none →
    name.head? ≠ some '.' ∧ fs.Removable (dir ++ '/' :: name)

section RemoveDir

variable {readdir : Readdir} {dir name : Text} {names : List Text} {fs fs' : Files}

theorem emptiable_iff_of_sameBelow (h : SameBelow dir fs fs') :
    Emptiable fs' dir ↔ Emptiable fs dir := by
  unfold Emptiable
  rw [h dir (below_self dir)]
  refine imp_congr_right fun _ => forall_congr' fun name => forall_congr' fun hname => ?_
  have hentry : SameBelow (dir ++ '/' :: name) fs fs' := fun q hq => h q (below_trans hq)
  rw [hentry _ (below_self _), removable_iff_of_sameBelow (by simp) hentry]

theorem emptiable_of_ne_dir (h : fs.node dir ≠ some .dir) : Emptiable fs dir :=
  fun hdir => absurd hdir h

theorem sameBelow_of_remove (hname : '/' ∉ name) {first : Text} (hfirst : '/' ∉ first)
    (hne : name ≠ first) :
    SameBelow (dir ++ '/' :: name) fs (after fs (fs.remove (dir ++ '/' :: first))) := by
  intro q hq
  apply (removes_remove (dir ++ '/' :: first) fs).node_eq
  intro heq
  exact hne (eq_of_below hname hfirst hq (heq ▸ below_self _))

/-- What can be removed is gone after it has been removed. -/
theorem node_after_remove_iff {path : Text} (h : fs.node path ≠ none) :
    (after fs (fs.remove path)).node path = none ↔ fs.Removable path := by
  rw [← Tree.remove_eq_ok_iff]
  cases hremove : fs.remove path with
  | error errno =>
      refine iff_of_false h ?_
      rintro ⟨fs', hok⟩
      cases hok
  | ok fs' =>
      refine iff_of_true ?_ ⟨fs', rfl⟩
      show fs'.node path = none
      rw [Tree.node_remove hremove, if_pos rfl]

theorem Removes.ne_file {touched : Text → Prop} (h : Removes touched fs fs') {q : Text}
    (hq : ∀ content, fs.node q ≠ some (.file content)) (content : List UInt8) :
    fs'.node q ≠ some (.file content) := by
  rcases h q with hsame | ⟨_, hgone⟩
  · rw [hsame]
    exact hq content
  · rw [hgone]
    simp

theorem ne_file_after_remove (path : Text) (fs : Files) (content : List UInt8) :
    (after fs (fs.remove path)).node path ≠ some (.file content) := by
  intro hfile
  by_cases hdir : fs.node path = some .dir
  · have hkeeps := (removes_remove path fs).ne_file (q := path) (by simp [hdir]) content
    exact hkeeps hfile
  · rw [node_after_remove hdir] at hfile
    cases hfile

/-- An entry is gone after the loop if it was listed, has no dot in front and can be removed. -/
theorem node_removeEntries_iff (hname : '/' ∉ name) (hnames : ∀ first ∈ names, '/' ∉ first)
    (hsome : fs.node (dir ++ '/' :: name) ≠ none) :
    (removeEntries dir names fs).node (dir ++ '/' :: name) = none ↔
      name ∈ names ∧ name.head? ≠ some '.' ∧ fs.Removable (dir ++ '/' :: name) := by
  induction names generalizing fs with
  | nil => simp [removeEntries, hsome]
  | cons first names ih =>
      have hfirst : '/' ∉ first := hnames first List.mem_cons_self
      have hrest : ∀ n ∈ names, '/' ∉ n := fun n hn => hnames n (List.mem_cons_of_mem _ hn)
      rw [removeEntries, List.foldl_cons, ← removeEntries, List.mem_cons]
      by_cases hdot : first.head? = some '.'
      · rw [if_pos hdot, ih hrest hsome]
        constructor
        · exact fun h => ⟨Or.inr h.1, h.2⟩
        · rintro ⟨rfl | hmem, hhead, hremovable⟩
          · exact absurd hdot hhead
          · exact ⟨hmem, hhead, hremovable⟩
      · rw [if_neg hdot]
        by_cases heq : name = first
        · subst heq
          by_cases hremovable : fs.Removable (dir ++ '/' :: name)
          · have hgone := (node_after_remove_iff hsome).mpr hremovable
            exact iff_of_true ((removes_removeEntries dir names _).node_none hgone)
              ⟨Or.inl rfl, hdot, hremovable⟩
          · -- the removal fails, and so does every later one
            have hsame : after fs (fs.remove (dir ++ '/' :: name)) = fs := by
              cases hremove : fs.remove (dir ++ '/' :: name) with
              | error errno => rfl
              | ok fs' => exact absurd ((fs.remove_eq_ok_iff _).mp ⟨fs', hremove⟩) hremovable
            rw [hsame, ih hrest hsome]
            exact iff_of_false (fun h => hremovable h.2.2) fun h => hremovable h.2.2
        · have hsame : SameBelow (dir ++ '/' :: name) fs
              (after fs (fs.remove (dir ++ '/' :: first))) := sameBelow_of_remove hname hfirst heq
          have hsome' := hsome
          rw [← hsame _ (below_self _)] at hsome'
          rw [ih hrest hsome', removable_iff_of_sameBelow (by simp) hsame, or_iff_right heq]

/-- A directory is removed without an error if everything in it can be removed. -/
theorem removeDir_eq_none_iff (hlists : Lists readdir) (hdir : dir ≠ [])
    (hparent : dirname dir ≠ dir) (fs : Files) :
    (removeDir readdir dir fs).1 = none ↔ Emptiable fs dir := by
  unfold removeDir
  split
  · next hnode =>
      have hslash : ∀ first ∈ readdir fs dir, '/' ∉ first :=
        fun first hfirst => ((hlists.mem_iff fs dir first).mp hfirst).1
      have hentries := removes_removeEntries dir (readdir fs dir) fs
      have hstill : (removeEntries dir (readdir fs dir) fs).node dir = some .dir := by
        rw [hentries.node_eq, hnode]
        rintro ⟨name, _, hq⟩
        exact ne_append_name _ name hq
      have hgone : ∀ name, '/' ∉ name → fs.node (dir ++ '/' :: name) ≠ none →
          ((removeEntries dir (readdir fs dir) fs).node (dir ++ '/' :: name) = none ↔
            name.head? ≠ some '.' ∧ fs.Removable (dir ++ '/' :: name)) := by
        intro name hname hsome
        rw [node_removeEntries_iff hname hslash hsome]
        exact and_iff_right ((hlists.mem_iff fs dir name).mpr ⟨hname, hsome⟩)
      have hempties : (removeEntries dir (readdir fs dir) fs).Removable dir ↔ Emptiable fs dir := by
        constructor
        · intro h _ name hname hsome
          apply (hgone name hname hsome).mp
          exact h.2.2 _ (ne_append_name dir name).symm (HexText.beforeLast_append hname)
        · intro h
          refine ⟨by simp [hstill], hparent, fun q _ hq => ?_⟩
          obtain ⟨name, hname, rfl⟩ := eq_of_dirname hq hdir
          by_cases hsome : fs.node (dir ++ '/' :: name) = none
          · exact hentries.node_none hsome
          · exact (hgone name hname hsome).mpr (h hnode name hname hsome)
      rw [← hempties, ← Tree.rmdir_eq_ok_iff hstill]
      dsimp only
      cases hrmdir : (removeEntries dir (readdir fs dir) fs).rmdir dir with
      | error errno =>
          refine iff_of_false (Option.some_ne_none errno) ?_
          rintro ⟨fs', hok⟩
          cases hok
      | ok fs' => exact iff_of_true rfl ⟨fs', rfl⟩
  · next hnode => exact iff_of_true rfl (emptiable_of_ne_dir hnode)

theorem node_removeDir (h : (removeDir readdir dir fs).1 = none) :
    (removeDir readdir dir fs).2.node dir ≠ some .dir := by
  unfold removeDir at h ⊢
  split
  · next hnode =>
      rw [if_pos hnode] at h
      dsimp only at h ⊢
      split at h
      · cases h
      · next fs' hrmdir =>
          show fs'.node dir ≠ some .dir
          rw [Tree.node_rmdir hrmdir, if_pos rfl]
          simp
  · next hnode => exact hnode

end RemoveDir

/-! ## What a cleanup leaves alone -/

/-- Files are removed, and only below entries with these names; the directory that decides where
the binaries lie stays. -/
structure Confined (names : Text → Prop) (fs fs' : Files) : Prop where
  removes : Removes (fun _ => True) fs fs'
  spares : ∀ name, '/' ∉ name → ¬ names name → SameBelow (entry name) fs fs'
  host : fs'.node mcRegistryDefaultPath = fs.node mcRegistryDefaultPath

section Confined

variable {names names' : Text → Prop} {fs fs' fs'' : Files}

theorem confined_refl (names : Text → Prop) (fs : Files) : Confined names fs fs :=
  ⟨removes_refl _ fs, fun _ _ _ _ _ => rfl, rfl⟩

theorem Confined.trans (h : Confined names fs fs') (h' : Confined names fs' fs'') :
    Confined names fs fs'' where
  removes := h.removes.trans h'.removes
  spares name hname hother q hq :=
    (h'.spares name hname hother q hq).trans (h.spares name hname hother q hq)
  host := h'.host.trans h.host

theorem Confined.mono (h : Confined names fs fs') (hsub : ∀ n, names n → names' n) :
    Confined names' fs fs' where
  removes := h.removes
  spares name hname hother := h.spares name hname fun hn => hother (hsub name hn)
  host := h.host

theorem confined_of_removes {touched : Text → Prop} (h : Removes touched fs fs')
    (hnames : ∀ q name, '/' ∉ name → touched q → Below (entry name) q → names name)
    (hhost : ¬ touched mcRegistryDefaultPath) : Confined names fs fs' where
  removes := h.mono fun _ _ => trivial
  spares name hname hother q hq :=
    h.node_eq fun htouched => hother (hnames q name hname htouched hq)
  host := h.node_eq hhost

theorem Confined.getTlRegistryPath_eq (h : Confined names fs fs') :
    getTlRegistryPath (hostOf fs') = getTlRegistryPath (hostOf fs) :=
  RegistryCleanup.getTlRegistryPath_eq h.host

/-- Other places of the device do not begin like the registry. -/
theorem not_below_default (name rest : Text) :
    ¬ Below (entry name) (mcRegistryDefaultPath ++ rest) := by
  intro h
  have hbegin : (mcRegistryDefaultPath ++ rest).take 2 = ['/', 'd'] := by
    rcases h with h | ⟨rest', h⟩
    · rw [h]
      rfl
    · rw [h]
      rfl
  have hdefault : (mcRegistryDefaultPath ++ rest).take 2 = ['/', 's'] := rfl
  exact absurd (hdefault.symm.trans hbegin) (by decide)

theorem entry_ne_default (name : Text) : entry name ≠ mcRegistryDefaultPath := by
  intro h
  apply not_below_default name []
  rw [List.append_nil, ← h]
  exact below_self _

end Confined

/-! ## The names of the entries -/

/-- The names with which a registry entry can belong to an application: the directory of the
trusted storage, a binary or a `.spid` file. -/
def OfApplication (name : Text) : Prop :=
  name = "TbStorage".toList ∨
    ∃ x, name = x ++ gpTaBinFileExt ∨ name = x ++ gpTaSpidFileExt ∨ name = x ++ tlBinFileExt

def tlDataName (uuid : McUuid) : Text :=
  byteArrayToString uuid.val

def tlContName (uuid : McUuid) (spid : UInt32) : Text :=
  byteArrayToString uuid.val ++ '.' :: (uint32ToString spid ++ tlContFileExt)

/-- The entries of a trustlet. -/
def OfTrustlet (uuid : McUuid) (spid : UInt32) (name : Text) : Prop :=
  name = tlDataName uuid ∨ name = tlContName uuid spid ∨ OfApplication name

section Names

variable {uuid v : McUuid} {spid spid' : UInt32} {name x : Text}

theorem slash_not_mem_tlDataName (uuid : McUuid) : '/' ∉ tlDataName uuid :=
  (not_mem_byteArrayToString uuid.val).1

theorem tlContName_eq (uuid : McUuid) (spid : UInt32) :
    tlContName uuid spid = (RegistryObject.tlCont uuid spid).stem ++ '.' :: "tlcont".toList := by
  show byteArrayToString uuid.val ++ '.' :: (uint32ToString spid ++ tlContFileExt) =
    (byteArrayToString uuid.val ++ '.' :: uint32ToString spid) ++ '.' :: "tlcont".toList
  rw [List.append_assoc]
  rfl

theorem slash_not_mem_tlContName (uuid : McUuid) (spid : UInt32) : '/' ∉ tlContName uuid spid := by
  rw [tlContName_eq]
  exact (RegistryObject.tlCont uuid spid).slash_not_mem_name

/-- A name with another extension is not that of an application. -/
theorem not_ofApplication_of_ext {ext : Text} (hdot : '.' ∉ ext)
    (hbin : ext ≠ "tabin".toList) (hspid : ext ≠ "spid".toList) (htl : ext ≠ "tlbin".toList) :
    ¬ OfApplication (x ++ '.' :: ext) := by
  rintro (hstorage | ⟨y, h | h | h⟩)
  · have hmem : '.' ∈ x ++ '.' :: ext := by simp
    rw [hstorage] at hmem
    exact absurd hmem (by decide)
  · exact hbin (HexText.append_sep_inj hdot (by decide : '.' ∉ "tabin".toList) h).2
  · exact hspid (HexText.append_sep_inj hdot (by decide : '.' ∉ "spid".toList) h).2
  · exact htl (HexText.append_sep_inj hdot (by decide : '.' ∉ "tlbin".toList) h).2

/-- Nor is one without an extension, unless it has the letter. -/
theorem not_ofApplication_of_digits (hdot : '.' ∉ name) (hletter : 'T' ∉ name) :
    ¬ OfApplication name := by
  rintro (rfl | ⟨y, h | h | h⟩)
  · exact absurd (by decide) hletter
  all_goals
    rw [h] at hdot
    exact hdot (List.mem_append_right _ (by decide))

theorem not_ofApplication_tlDataName (uuid : McUuid) : ¬ OfApplication (tlDataName uuid) :=
  not_ofApplication_of_digits (not_mem_byteArrayToString uuid.val).2
    (letter_not_mem_byteArrayToString uuid.val)

theorem not_ofApplication_tlContName (uuid : McUuid) (spid : UInt32) :
    ¬ OfApplication (tlContName uuid spid) := by
  rw [tlContName_eq]
  exact not_ofApplication_of_ext (by decide) (by decide) (by decide) (by decide)

theorem dot_mem_tlContName (uuid : McUuid) (spid : UInt32) : '.' ∈ tlContName uuid spid := by
  simp [tlContName]

theorem dot_not_mem_tlDataName (uuid : McUuid) : '.' ∉ tlDataName uuid :=
  (not_mem_byteArrayToString uuid.val).2

theorem eq_of_ofTrustlet_data (h : OfTrustlet uuid spid (tlDataName v)) : v = uuid := by
  rcases h with h | h | h
  · exact Subtype.ext (byteArrayToString_inj h)
  · exact absurd (h ▸ dot_mem_tlContName uuid spid) (dot_not_mem_tlDataName v)
  · exact absurd h (not_ofApplication_tlDataName v)

theorem eq_of_ofTrustlet_cont (h : OfTrustlet uuid spid (tlContName v spid')) :
    v = uuid ∧ spid' = spid := by
  rcases h with h | h | h
  · exact absurd (h ▸ dot_mem_tlContName v spid') (dot_not_mem_tlDataName uuid)
  · rw [tlContName_eq, tlContName_eq] at h
    obtain ⟨hstem, _⟩ := HexText.append_sep_inj (by decide : '.' ∉ "tlcont".toList) (by decide) h
    obtain ⟨huuid, hspid⟩ := HexText.append_sep_inj (not_mem_uint32ToString spid').2
      (not_mem_uint32ToString spid).2 hstem
    exact ⟨Subtype.ext (byteArrayToString_inj huuid), uint32ToString_inj hspid⟩
  · exact absurd h (not_ofApplication_tlContName v spid')

end Names

/-! ## The steps of a cleanup -/

section Steps

variable {p : PointerWidth} {readdir : Readdir} {uuid v : McUuid} {spid : UInt32} {fs fs' : Files}
  {name x q : Text}

theorem getTlRegistryPath_cases (host : RegistryHost) :
    getTlRegistryPath host = mcRegistryDefaultPath ∨ getTlRegistryPath host = getRegistryPath := by
  unfold getTlRegistryPath
  split
  · exact Or.inl rfl
  · split <;> exact Or.inr rfl

theorem ofApplication_of_found (hx : '/' ∉ x) (hname : '/' ∉ name) (hfound : OfFound x q)
    (hbelow : Below (entry name) q) : OfApplication name := by
  rcases hfound with ⟨host, hstorage⟩ | rfl | rfl
  · obtain ⟨rest, hrest⟩ : ∃ rest, q = getTlRegistryPath host ++ "/TbStorage".toList ++
        '/' :: rest := by
      have hpath := storagePath_registry host x
      rw [List.append_assoc _ getRegistryPath] at hpath
      rcases hstorage with rfl | ⟨file, _, rfl⟩
      · exact ⟨_, hpath⟩
      · rw [hpath, List.append_assoc]
        exact ⟨_, rfl⟩
    rcases getTlRegistryPath_cases host with hdefault | hregistry
    · rw [hrest, hdefault, List.append_assoc] at hbelow
      exact absurd hbelow (not_below_default name _)
    · refine Or.inl (eq_of_below hname (by decide) hbelow (Or.inr ⟨rest, ?_⟩))
      rw [hrest, hregistry]
      rfl
  · have hslash := slash_not_mem_append hx not_mem_exts.2
    exact Or.inr ⟨x, Or.inl (eq_of_below hname hslash hbelow (below_self _))⟩
  · have hslash := slash_not_mem_append hx not_mem_exts.1
    exact Or.inr ⟨x, Or.inr (Or.inl (eq_of_below hname hslash hbelow (below_self _)))⟩

theorem not_found_default (x : Text) : ¬ OfFound x mcRegistryDefaultPath := by
  rintro (⟨host, hstorage⟩ | hbin | hspid)
  · have hletter : 'T' ∉ mcRegistryDefaultPath := by decide
    exact hletter (letter_mem_of_within (letter_mem_storage host _) hstorage)
  · exact entry_ne_default _ hbin.symm
  · exact entry_ne_default _ hspid.symm

theorem confined_removeTA (hlists : Lists readdir) (hx : '/' ∉ x) (fs : Files) :
    Confined OfApplication fs (removeTA readdir (getRegistryPath ++ '/' :: x) fs) :=
  confined_of_removes (removes_removeTA hlists x fs)
    (fun _ _ hname hfound hbelow => ofApplication_of_found hx hname hfound hbelow)
    (not_found_default x)

/-- The loop removes applications, of one uuid or of any. -/
theorem confined_deleteLoop (p : PointerWidth) (hlists : Lists readdir) (uuid : McUuid)
    (spid : UInt32) (checkUuid : Bool) {names : List Text} (hnames : ∀ name ∈ names, '/' ∉ name)
    (fs : Files) :
    Confined OfApplication fs (deleteLoop p readdir uuid spid checkUuid names fs) := by
  induction names generalizing fs with
  | nil => exact confined_refl _ fs
  | cons first names ih =>
      have hrest := ih fun name hname => hnames name (List.mem_cons_of_mem _ hname)
      rw [deleteLoop]
      cases hstem : spidStem (getRegistryPath ++ '/' :: first) with
      | none => exact hrest fs
      | some stem =>
          obtain ⟨x, rfl, rfl⟩ := eq_of_spidStem hstem
          have hx : '/' ∉ x := fun h =>
            hnames _ List.mem_cons_self (List.mem_append_left _ h)
          have hremoved := confined_removeTA hlists hx fs
          dsimp only
          split
          · split
            · exact hremoved
            · exact hremoved.trans (hrest _)
          · exact hrest fs

theorem confined_deleteSPTA (p : PointerWidth) (hlists : Lists readdir) (uuid : McUuid)
    (spid : UInt32) (checkUuid : Bool) (fs : Files) :
    Confined OfApplication fs (deleteSPTA p readdir uuid spid checkUuid fs) := by
  unfold deleteSPTA
  split
  · apply confined_deleteLoop p hlists
    exact fun name hname => ((hlists.mem_iff fs getRegistryPath name).mp hname).1
  · exact confined_refl _ fs

theorem confined_removeDir (hlists : Lists readdir) (hname : '/' ∉ name) (fs : Files) :
    Confined (fun n => n = name) fs (removeDir readdir (entry name) fs).2 := by
  apply confined_of_removes (removes_removeDir hlists (entry name) fs)
  · intro q n hn hwithin hbelow
    exact eq_of_below hn hname hbelow (below_of_within hwithin)
  · rintro (h | ⟨file, _, h⟩)
    · exact entry_ne_default name h.symm
    · apply not_below_default name []
      rw [List.append_nil, h]
      exact Or.inr ⟨file, rfl⟩

theorem confined_remove (hname : '/' ∉ name) (fs : Files) :
    Confined (fun n => n = name) fs (after fs (fs.remove (entry name))) := by
  apply confined_of_removes (removes_remove (entry name) fs)
  · rintro q n hn rfl hbelow
    exact eq_of_below hn hname hbelow (below_self _)
  · exact fun h => entry_ne_default name h.symm

/-- The binary of a trustlet is removed, wherever it lies. -/
theorem confined_removeBin (uuid : McUuid) (fs : Files) :
    Confined OfApplication fs
      (after fs (fs.remove (getTlBinFilePath (hostOf fs) uuid.val))) := by
  have hslash : '/' ∉ byteArrayToString uuid.val ++ tlBinFileExt :=
    slash_not_mem_append (not_mem_byteArrayToString uuid.val).1 (by decide)
  apply confined_of_removes (removes_remove _ fs)
  · rintro q name hname rfl hbelow
    rcases getTlRegistryPath_cases (hostOf fs) with hdefault | hregistry
    · rw [getTlBinFilePath, hdefault] at hbelow
      exact absurd hbelow (not_below_default name _)
    · rw [getTlBinFilePath, hregistry] at hbelow
      exact Or.inr ⟨_, Or.inr (Or.inr (eq_of_below hname hslash hbelow (below_self _)))⟩
  · intro h
    have hdot := dot_mem_path (hostOf fs) (.tlBin uuid)
    rw [← show mcRegistryDefaultPath = (RegistryObject.tlBin uuid).path (hostOf fs) from h] at hdot
    exact absurd hdot (by decide)

end Steps

/-! ## The cleanup of a trustlet -/

/-- What the cleanup of a trustlet needs: its data can be removed, and its container. -/
def TrustletCleanable (fs : Files) (spid : UInt32) (uuid : McUuid) : Prop :=
  Emptiable fs (getTlDataPath uuid.val) ∧ fs.Removable (getTlContFilePath uuid.val spid)

/-- A trustlet has no container, no data and no binary. -/
structure TrustletGone (host : RegistryHost) (spid : UInt32) (fs : Files) (uuid : McUuid) :
    Prop where
  container : fs.node (getTlContFilePath uuid.val spid) = none
  data : fs.node (getTlDataPath uuid.val) ≠ some .dir
  binary : ∀ content, fs.node (getTlBinFilePath host uuid.val) ≠ some (.file content)

section Trustlet

variable {p : PointerWidth} {readdir : Readdir} {uuid v : McUuid} {spid spid' : UInt32}
  {fs fs' : Files}

theorem TrustletGone.confined {host : RegistryHost} {names : Text → Prop}
    (h : TrustletGone host spid fs uuid) (hconfined : Confined names fs fs') :
    TrustletGone host spid fs' uuid where
  container := hconfined.removes.node_none h.container
  data := hconfined.removes.ne_dir h.data
  binary := hconfined.removes.ne_file h.binary

/-- The files after the steps before the container is removed. -/
theorem confined_afterData (hlists : Lists readdir) (uuid : McUuid) (fs : Files) :
    Confined (fun n => n = tlDataName uuid) fs (afterData readdir uuid fs) :=
  confined_removeDir hlists (slash_not_mem_tlDataName uuid) fs

theorem confined_afterTA (p : PointerWidth) (hlists : Lists readdir) (uuid : McUuid)
    (spid : UInt32) (fs : Files) :
    Confined (fun n => n = tlDataName uuid ∨ OfApplication n) fs
      (afterTA p readdir uuid spid fs) := by
  have hdata : Confined (fun n => n = tlDataName uuid ∨ OfApplication n) fs
      (afterData readdir uuid fs) :=
    (confined_afterData hlists uuid fs).mono fun _ hn => Or.inl hn
  have hbin : Confined (fun n => n = tlDataName uuid ∨ OfApplication n)
      (afterData readdir uuid fs) (afterBin readdir uuid fs) :=
    (confined_removeBin uuid (afterData readdir uuid fs)).mono fun _ hn => Or.inr hn
  have hta : Confined (fun n => n = tlDataName uuid ∨ OfApplication n)
      (afterBin readdir uuid fs) (afterTA p readdir uuid spid fs) :=
    (confined_deleteSPTA p hlists uuid spid true _).mono fun _ hn => Or.inr hn
  exact (hdata.trans hbin).trans hta

theorem sameBelow_container (p : PointerWidth) (hlists : Lists readdir) (uuid : McUuid)
    (spid : UInt32) (fs : Files) :
    SameBelow (getTlContFilePath uuid.val spid) fs (afterTA p readdir uuid spid fs) := by
  apply (confined_afterTA p hlists uuid spid fs).spares (tlContName uuid spid)
    (slash_not_mem_tlContName uuid spid)
  rintro (hdata | happlication)
  · exact dot_not_mem_tlDataName uuid (hdata ▸ dot_mem_tlContName uuid spid)
  · exact not_ofApplication_tlContName uuid spid happlication

theorem removeDir_data_iff (hlists : Lists readdir) (uuid : McUuid) (fs : Files) :
    (removeDir readdir (getTlDataPath uuid.val) fs).1 = none ↔
      Emptiable fs (getTlDataPath uuid.val) := by
  have hpath : getTlDataPath uuid.val ≠ [] := path_ne_nil _ _
  have hparent : dirname (getTlDataPath uuid.val) ≠ getTlDataPath uuid.val := by
    rw [dirname_getTlDataPath]
    exact (getTlDataPath_ne_getRegistryPath uuid.val).symm
  exact removeDir_eq_none_iff hlists hpath hparent fs

theorem cleanupTrustlet_eq (p : PointerWidth) (uuid : McUuid) (spid : UInt32)
    (hlists : Lists readdir) (fs : Files) :
    (¬ Emptiable fs (getTlDataPath uuid.val) ∧
        mcRegistryCleanupTrustlet p readdir uuid spid fs =
          (mcDrvErrUnknown, afterData readdir uuid fs)) ∨
      Emptiable fs (getTlDataPath uuid.val) ∧
        mcRegistryCleanupTrustlet p readdir uuid spid fs =
          match (afterTA p readdir uuid spid fs).remove (getTlContFilePath uuid.val spid) with
          | .error _ => (mcDrvErrUnknown, afterTA p readdir uuid spid fs)
          | .ok fs => (mcDrvOk, fs) := by
  have hdata := removeDir_data_iff hlists uuid fs
  unfold mcRegistryCleanupTrustlet
  dsimp only
  by_cases hempty : Emptiable fs (getTlDataPath uuid.val)
  · refine Or.inr ⟨hempty, ?_⟩
    rw [if_neg (not_not.mpr (hdata.mpr hempty))]
    rfl
  · refine Or.inl ⟨hempty, ?_⟩
    rw [if_pos fun h => hempty (hdata.mp h)]
    rfl

/-- When the cleanup of a trustlet returns `MC_DRV_OK`. -/
theorem cleanupTrustlet_ret_iff (p : PointerWidth) (uuid : McUuid) (spid : UInt32)
    (hlists : Lists readdir) (fs : Files) :
    (mcRegistryCleanupTrustlet p readdir uuid spid fs).1 = mcDrvOk ↔
      TrustletCleanable fs spid uuid := by
  have hunknown : mcDrvErrUnknown ≠ mcDrvOk := by decide
  rcases cleanupTrustlet_eq p uuid spid hlists fs with ⟨hnot, hrun⟩ | ⟨hempty, hrun⟩
  · rw [hrun]
    exact iff_of_false hunknown fun h => hnot h.1
  · have hsame := sameBelow_container p hlists uuid spid fs
    have hpath : getTlContFilePath uuid.val spid ≠ [] := path_ne_nil _ _
    rw [hrun, TrustletCleanable, and_iff_right hempty,
      ← removable_iff_of_sameBelow hpath hsame, ← Tree.remove_eq_ok_iff]
    cases (afterTA p readdir uuid spid fs).remove (getTlContFilePath uuid.val spid) with
    | error errno =>
        refine iff_of_false hunknown ?_
        rintro ⟨fs', hok⟩
        cases hok
    | ok fs' => exact iff_of_true rfl ⟨fs', rfl⟩

theorem confined_cleanupTrustlet (p : PointerWidth) (uuid : McUuid) (spid : UInt32)
    (hlists : Lists readdir) (fs : Files) :
    Confined (OfTrustlet uuid spid) fs (mcRegistryCleanupTrustlet p readdir uuid spid fs).2 := by
  have hdata : Confined (OfTrustlet uuid spid) fs (afterData readdir uuid fs) :=
    (confined_afterData hlists uuid fs).mono fun _ hn => Or.inl hn
  have hta : Confined (OfTrustlet uuid spid) fs (afterTA p readdir uuid spid fs) :=
    (confined_afterTA p hlists uuid spid fs).mono fun _ hn => hn.imp id Or.inr
  have hcont : Confined (OfTrustlet uuid spid) (afterTA p readdir uuid spid fs)
      (after (afterTA p readdir uuid spid fs)
        ((afterTA p readdir uuid spid fs).remove (getTlContFilePath uuid.val spid))) :=
    (confined_remove (slash_not_mem_tlContName uuid spid) _).mono fun _ hn => Or.inr (Or.inl hn)
  rcases cleanupTrustlet_eq p uuid spid hlists fs with ⟨_, hrun⟩ | ⟨_, hrun⟩
  · rw [hrun]
    exact hdata
  · rw [hrun]
    revert hcont
    cases (afterTA p readdir uuid spid fs).remove (getTlContFilePath uuid.val spid) with
    | error errno => exact fun _ => hta
    | ok fs' => exact fun hcont => hta.trans hcont

/-- What a cleanup that returns `MC_DRV_OK` has removed. -/
theorem trustletGone_of_cleanupTrustlet (p : PointerWidth) (uuid : McUuid) (spid : UInt32)
    (hlists : Lists readdir) (fs : Files)
    (hok : (mcRegistryCleanupTrustlet p readdir uuid spid fs).1 = mcDrvOk) :
    TrustletGone (hostOf fs) spid (mcRegistryCleanupTrustlet p readdir uuid spid fs).2 uuid := by
  have hunknown : mcDrvErrUnknown ≠ mcDrvOk := by decide
  have hdata := confined_afterData hlists uuid fs
  have hlater := confined_deleteSPTA p hlists uuid spid true (afterBin readdir uuid fs)
  rcases cleanupTrustlet_eq p uuid spid hlists fs with ⟨_, hrun⟩ | ⟨hempty, hrun⟩
  · rw [hrun] at hok
    exact absurd hok hunknown
  · have hnone := (removeDir_data_iff hlists uuid fs).mpr hempty
    have hpath : getTlBinFilePath (hostOf (afterData readdir uuid fs)) uuid.val =
        getTlBinFilePath (hostOf fs) uuid.val := tlBinPath_afterData hlists uuid fs
    -- what holds of the files before the container is removed
    have hdir : (afterTA p readdir uuid spid fs).node (getTlDataPath uuid.val) ≠ some .dir :=
      hlater.removes.ne_dir ((removes_remove _ _).ne_dir (node_removeDir hnone))
    have hbin : ∀ content, (afterTA p readdir uuid spid fs).node
        (getTlBinFilePath (hostOf fs) uuid.val) ≠ some (.file content) := by
      apply hlater.removes.ne_file
      unfold afterBin
      rw [hpath]
      exact ne_file_after_remove _ _
    rw [hrun] at hok ⊢
    cases hremove : (afterTA p readdir uuid spid fs).remove (getTlContFilePath uuid.val spid) with
    | error errno =>
        rw [hremove] at hok
        exact absurd hok hunknown
    | ok fs' =>
        have hremoves := removes_remove (getTlContFilePath uuid.val spid)
          (afterTA p readdir uuid spid fs)
        rw [hremove] at hremoves
        refine ⟨?_, hremoves.ne_dir hdir, hremoves.ne_file hbin⟩
        show fs'.node _ = none
        rw [Tree.node_remove hremove, if_pos rfl]

end Trustlet

end RegistryCleanup

end Exynos8890.MobiCore
