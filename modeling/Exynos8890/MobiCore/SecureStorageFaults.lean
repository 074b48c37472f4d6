import Exynos8890.MobiCore.SecureStorageMap

/-!
# Secure storage when calls fail

A write goes to a new file, which then takes the place of the old one; the error branches
remove the file all the same.  Results are compared with zero in unsigned variables, or
overwritten by the next call.  Each call may fail, and then leaves the files as they are.

Main results:

- Definition `HonestStorage`: success and failure are what the answer says they are.
- Theorems `writeNew_unfilled`, `writeNew_renamed` and `writeNew_unrenamed`: the three ways
  in which the writing of the new file ends.
- Theorem `honestStorage_iff`: exactly when a write and a delete are honest.
- Theorem `not_honestStorage`: a write that fails removes the file that was there.
-/

namespace Exynos8890.MobiCore

namespace SecureStorage

open CString FileSystem HexText

/-! ## Calls that fail -/

section Calls

variable (failure : Option Errno) (fs : Files) (p q : Text)

theorem content_after_mkdir :
    (after fs (attempt failure (fs.mkdir p))).content q = fs.content q := by
  cases failure with
  | some errno => rfl
  | none =>
      cases hmade : fs.mkdir p with
      | error errno => simp [attempt, after]
      | ok fs' => exact Tree.content_mkdir hmade q

theorem content_after_rmdir :
    (after fs (attempt failure (fs.rmdir p))).content q = fs.content q := by
  cases failure with
  | some errno => rfl
  | none =>
      cases hremoved : fs.rmdir p with
      | error errno => simp [attempt, after]
      | ok fs' => exact Tree.content_rmdir hremoved q

/-- A file that can be removed is gone; what cannot be removed is no file. -/
theorem content_after_remove :
    (after fs (attempt failure (fs.remove p))).content q =
      if failure = none ∧ q = p then none else fs.content q := by
  cases failure with
  | some errno => simp [attempt, after]
  | none =>
      cases hremoved : fs.remove p with
      | error errno =>
          have hnone : fs.content p = none := by
            cases hcontent : fs.content p with
            | none => rfl
            | some bytes =>
                obtain ⟨fs', hok⟩ := Tree.remove_eq_ok (Tree.content_eq_some_iff.mp hcontent)
                rw [hok] at hremoved
                cases hremoved
          by_cases hq : q = p
          · simp [attempt, after, hq, hnone]
          · simp [attempt, after, hq]
      | ok fs' => simp [attempt, after, Tree.content_remove hremoved]

end Calls

/-! ## Paths -/

/-- The file and the new file lie in the directory of the application, under different
names. -/
structure Placed (names : StorageNames) : Prop where
  filePath : dirname names.filePath = names.taDirPath
  filePathNew : dirname names.filePathNew = names.taDirPath
  filePath_ne : names.taDirPath ≠ names.filePath
  filePathNew_ne : names.taDirPath ≠ names.filePathNew
  apart : names.filePath ≠ names.filePathNew

theorem placed_storageNames (tbstpath : Text) (stack : Locals) (key : StorageKey) :
    Placed (storageNames tbstpath stack key) := by
  have hlonger : ∀ d name : Text, d ≠ d ++ '/' :: name := by
    intro d name h
    have hlength := congrArg List.length h
    rw [List.length_append, List.length_cons] at hlength
    omega
  constructor
  · rw [filePath_eq]
    exact beforeLast_append (not_mem_byteArrayToString _).1
  · rw [filePathNew_eq]
    exact beforeLast_append (slash_not_mem_newName _)
  · rw [filePath_eq]
    exact hlonger _ _
  · rw [filePathNew_eq]
    exact hlonger _ _
  · exact filePath_ne_filePathNew tbstpath stack stack key key

/-! ## The new file -/

section WriteNew

variable {calls : StorageCalls} {names : StorageNames} {m : StorageMessage} {fs : Files}

/-- The whole payload comes into the new file. -/
structure Filled (calls : StorageCalls) (names : StorageNames) (m : StorageMessage)
    (fs : Files) : Prop where
  fopen : calls.fopen = none
  free : fs.node names.filePathNew ≠ some .dir
  written : m.payloadLen.toNat ≤ calls.written.getD m.payloadLen.toNat

/-- The new file can take the place of the file. -/
structure Renamable (calls : StorageCalls) (names : StorageNames) (fs : Files) : Prop where
  rename : calls.rename = none
  free : fs.node names.filePath ≠ some .dir

/-- What is left of the payload once `fclose` has been called. -/
def keptPayload (calls : StorageCalls) (m : StorageMessage) : List UInt8 :=
  m.written.take (calls.closed.getD m.payloadLen.toNat)

/-- The result of `rename`, and the one of `fclose`, are never found to be negative. -/
theorem writeNew_eq (calls : StorageCalls) (names : StorageNames) (m : StorageMessage)
    (fs : Files) :
    writeNew calls names m fs =
      match attempt calls.fopen (fs.write names.filePathNew []) with
      | .error _ =>
          (teeErrorStorageNoSpace, after fs (attempt calls.remove (fs.remove names.filePath)))
      | .ok fs =>
          let written := m.written.take (calls.written.getD m.payloadLen.toNat)
          let fill (bytes : List UInt8) := after fs (fs.write names.filePathNew bytes)
          if written.length ≠ m.payloadLen.toNat then
            let fs := after (fill written) (attempt calls.remove
              ((fill written).remove names.filePath))
            (teeErrorItemNotFound,
              after fs (attempt calls.removeNew (fs.remove names.filePathNew)))
          else
            let fs := fill (written.take (calls.closed.getD written.length))
            (teeSuccess, after fs (attempt calls.rename
              (fs.renameFile names.filePathNew names.filePath))) := by
  unfold writeNew
  have hlength : (m.payload.take m.payloadLen.toNat).length = m.payloadLen.toNat :=
    m.length_written
  simp only [UInt32.not_lt_zero, if_false, hlength]
  rfl

/-- A write that does not fill the new file removes the file. -/
theorem writeNew_unfilled (hplaced : Placed names)
    (h : ¬ (fs.node names.taDirPath = some .dir ∧ Filled calls names m fs)) :
    (writeNew calls names m fs).1 ≠ teeSuccess ∧
      ∀ q ≠ names.filePathNew, (writeNew calls names m fs).2.content q =
        if calls.remove = none ∧ q = names.filePath then none else fs.content q := by
  rw [writeNew_eq]
  cases hopened : attempt calls.fopen (fs.write names.filePathNew []) with
  | error errno =>
      constructor
      · exact fun heq => absurd heq (by decide : teeErrorStorageNoSpace ≠ teeSuccess)
      · exact fun q _ => content_after_remove calls.remove fs names.filePath q
  | ok fs₁ =>
      have hfopen : calls.fopen = none := by
        cases hcall : calls.fopen with
        | none => rfl
        | some errno =>
            rw [hcall] at hopened
            cases hopened
      have hwrite : fs.write names.filePathNew [] = .ok fs₁ := by
        rw [hfopen] at hopened
        exact hopened
      obtain ⟨hfree, hdir⟩ := (Tree.write_eq_ok_iff _ _ _).mp ⟨fs₁, hwrite⟩
      rw [hplaced.filePathNew] at hdir
      have hshort : calls.written.getD m.payloadLen.toNat < m.payloadLen.toNat := by
        by_contra hall
        exact h ⟨hdir, hfopen, hfree, Nat.le_of_not_lt hall⟩
      have hlength : (m.written.take (calls.written.getD m.payloadLen.toNat)).length ≠
          m.payloadLen.toNat := by
        rw [List.length_take, m.length_written]
        omega
      dsimp only
      rw [if_pos hlength]
      constructor
      · exact fun heq => absurd heq (by decide : teeErrorItemNotFound ≠ teeSuccess)
      · intro q hq
        dsimp only
        rw [content_after_remove, if_neg fun hnew => hq hnew.2, content_after_remove]
        congr 1
        cases hfill : fs₁.write names.filePathNew
            (m.written.take (calls.written.getD m.payloadLen.toNat)) with
        | error errno => rw [after, Tree.content_write hwrite, if_neg hq]
        | ok fs₂ =>
            rw [after, Tree.content_write hfill, if_neg hq, Tree.content_write hwrite, if_neg hq]

/-- A write that fills the new file goes on to rename it. -/
theorem writeNew_filled (hplaced : Placed names) (hdir : fs.node names.taDirPath = some .dir)
    (h : Filled calls names m fs) :
    ∃ fs' : Files, (∀ q, fs'.node q =
        if q = names.filePathNew then some (.file (keptPayload calls m)) else fs.node q) ∧
      writeNew calls names m fs = (teeSuccess, after fs' (attempt calls.rename
        (fs'.renameFile names.filePathNew names.filePath))) := by
  have hok : ∀ (fs₁ : Files) (bytes : List UInt8), fs₁.node names.taDirPath = some .dir →
      fs₁.node names.filePathNew ≠ some .dir →
        ∃ fs₂, fs₁.write names.filePathNew bytes = .ok fs₂ := by
    intro fs₁ bytes hdir₁ hfree₁
    apply (Tree.write_eq_ok_iff _ _ _).mpr
    rw [hplaced.filePathNew]
    exact ⟨hfree₁, hdir₁⟩
  obtain ⟨fs₁, hopened⟩ := hok fs [] hdir h.free
  have hnode₁ := Tree.node_write hopened
  obtain ⟨fs₂, hfilled⟩ := hok fs₁ (keptPayload calls m)
    (by rw [hnode₁, if_neg hplaced.filePathNew_ne, hdir]) (by simp [hnode₁])
  refine ⟨fs₂, ?_, ?_⟩
  · intro q
    rw [Tree.node_write hfilled, hnode₁]
    split <;> rfl
  · have hall : m.written.take (calls.written.getD m.payloadLen.toNat) = m.written := by
      apply List.take_of_length_le
      rw [m.length_written]
      exact h.written
    have hkept : m.written.take (calls.closed.getD m.payloadLen.toNat) = keptPayload calls m := rfl
    rw [writeNew_eq, h.fopen]
    simp only [attempt, hopened, hall, m.length_written, ne_eq, not_true_eq_false, if_false,
      hkept, hfilled]
    rfl

/-- The new file takes the place of the file, with what is left of the payload. -/
theorem writeNew_renamed (hplaced : Placed names) (hdir : fs.node names.taDirPath = some .dir)
    (h : Filled calls names m fs) (hrename : Renamable calls names fs) :
    (writeNew calls names m fs).1 = teeSuccess ∧
      ∀ q ≠ names.filePathNew, (writeNew calls names m fs).2.content q =
        if q = names.filePath then some (keptPayload calls m) else fs.content q := by
  obtain ⟨fs', hnode, heq⟩ := writeNew_filled hplaced hdir h
  have hnew : fs'.node names.filePathNew = some (.file (keptPayload calls m)) := by
    rw [hnode, if_pos rfl]
  obtain ⟨fs'', hok⟩ := Tree.renameFile_eq_ok hnew
    (by rw [hnode, if_neg hplaced.apart]; exact hrename.free)
    (by rw [hplaced.filePath, hnode, if_neg hplaced.filePathNew_ne, hdir])
  rw [heq, hrename.rename, attempt, hok]
  refine ⟨rfl, fun q hq => ?_⟩
  have hsame : fs'.content q = fs.content q := Tree.content_congr (by rw [hnode, if_neg hq])
  dsimp only [after]
  rw [Tree.content_renameFile hok, Tree.content_eq_some_iff.mpr hnew, if_neg hq, hsame]

/-- Success is reported also when the new file does not take the place of the file. -/
theorem writeNew_unrenamed (hplaced : Placed names)
    (hdir : fs.node names.taDirPath = some .dir) (h : Filled calls names m fs)
    (hrename : ¬ Renamable calls names fs) :
    (writeNew calls names m fs).1 = teeSuccess ∧
      ∀ q ≠ names.filePathNew, (writeNew calls names m fs).2.content q = fs.content q := by
  obtain ⟨fs', hnode, heq⟩ := writeNew_filled hplaced hdir h
  have hfailed : ∃ errno, attempt calls.rename
      (fs'.renameFile names.filePathNew names.filePath) = .error errno := by
    cases hcall : calls.rename with
    | some errno => exact ⟨errno, rfl⟩
    | none =>
        have hisDir : fs.node names.filePath = some .dir := by
          by_contra hfree
          exact hrename ⟨hcall, hfree⟩
        cases hrenamed : fs'.renameFile names.filePathNew names.filePath with
        | error errno => exact ⟨errno, rfl⟩
        | ok fs'' =>
            have hfree := Tree.node_ne_dir_of_renameFile hplaced.apart hrenamed
            rw [hnode, if_neg hplaced.apart] at hfree
            exact absurd hisDir hfree
  obtain ⟨errno, hfailed⟩ := hfailed
  rw [heq, hfailed]
  exact ⟨rfl, fun q hq => Tree.content_congr (by rw [after, hnode, if_neg hq])⟩

end WriteNew

/-! ## Before the new file is opened -/

section Write

variable {calls : StorageCalls} {names : StorageNames} {m : StorageMessage} {fs : Files}

/-- `mkdir` makes the directory, or finds something under its name. -/
def DirectoryReady (calls : StorageCalls) (names : StorageNames) (fs : Files) : Prop :=
  calls.mkdir = some .eexist ∨ calls.mkdir = none ∧
    (fs.node names.taDirPath ≠ none ∨ fs.node (dirname names.taDirPath) = some .dir)

/-- Once `mkdir` has been called there is a directory. -/
def HasDirectory (calls : StorageCalls) (names : StorageNames) (fs : Files) : Prop :=
  fs.node names.taDirPath = some .dir ∨ calls.mkdir = none ∧
    fs.node names.taDirPath = none ∧ fs.node (dirname names.taDirPath) = some .dir

/-- The new file is going to be opened. -/
structure Reached (calls : StorageCalls) (names : StorageNames) (m : StorageMessage)
    (fs : Files) : Prop where
  mkdir : DirectoryReady calls names fs
  exclusive : m.flags = teeDataFlagExclusive → calls.openExcl = none ∧
    fs.node names.filePath = none ∧ HasDirectory calls names fs

/-- What the file holds when the new file is opened: an exclusive write has made it. -/
def openedContent (names : StorageNames) (m : StorageMessage) (fs : Files) :
    Option (List UInt8) :=
  if m.flags = teeDataFlagExclusive then some [] else fs.content names.filePath

/-- What `mkdir` leaves. -/
inductive Made (calls : StorageCalls) (names : StorageNames) (fs : Files) :
    Except Errno Files → Prop where
  | made (fs' : Files) (hready : DirectoryReady calls names fs)
      (hdir : HasDirectory calls names fs) (hnode : ∀ q, fs'.node q =
        if q = names.taDirPath then some .dir else fs.node q) : Made calls names fs (.ok fs')
  | found (hready : DirectoryReady calls names fs)
      (hdir : HasDirectory calls names fs ↔ fs.node names.taDirPath = some .dir) :
      Made calls names fs (.error .eexist)
  | failed (errno : Errno) (herrno : errno ≠ .eexist)
      (hready : ¬ DirectoryReady calls names fs) : Made calls names fs (.error errno)

theorem made_mkdir (calls : StorageCalls) (names : StorageNames) (fs : Files) :
    Made calls names fs (attempt calls.mkdir (fs.mkdir names.taDirPath)) := by
  cases hcall : calls.mkdir with
  | some errno =>
      by_cases herrno : errno = .eexist
      · rw [herrno] at hcall ⊢
        refine .found (Or.inl hcall) ⟨?_, Or.inl⟩
        rintro (hdir | ⟨hnone, -⟩)
        · exact hdir
        · rw [hcall] at hnone
          cases hnone
      · refine .failed errno herrno ?_
        rintro (hexist | ⟨hnone, -⟩)
        · rw [hcall] at hexist
          exact herrno (Option.some.inj hexist)
        · rw [hcall] at hnone
          cases hnone
  | none =>
      rw [attempt]
      cases hmade : fs.mkdir names.taDirPath with
      | ok fs' =>
          obtain ⟨hnone, hparent⟩ := (Tree.create_eq_ok_iff _ _ _).mp ⟨fs', hmade⟩
          exact .made fs' (Or.inr ⟨hcall, Or.inr hparent⟩) (Or.inr ⟨hcall, hnone, hparent⟩)
            (Tree.node_create hmade)
      | error errno =>
          by_cases hnode : fs.node names.taDirPath = none
          · have hparent : fs.node (dirname names.taDirPath) ≠ some .dir := by
              intro hparent
              obtain ⟨fs', hok⟩ := (Tree.create_eq_ok_iff fs .dir _).mpr ⟨hnode, hparent⟩
              rw [Tree.mkdir, hok] at hmade
              cases hmade
            refine .failed errno ?_ ?_
            · intro heq
              exact Tree.create_ne_eexist hnode .dir (heq ▸ hmade)
            · rintro (hexist | ⟨-, hsome | hdir⟩)
              · rw [hcall] at hexist
                cases hexist
              · exact hsome hnode
              · exact hparent hdir
          · rw [Tree.mkdir, Tree.create_eq_eexist hnode] at hmade
            cases hmade
            refine .found (Or.inr ⟨hcall, Or.inl hnode⟩) ⟨?_, Or.inl⟩
            rintro (hdir | ⟨-, hnone, -⟩)
            · exact hdir
            · exact absurd hnone hnode

/-- The part of `FSD_WriteFile` behind `mkdir`. -/
def openAndWrite (calls : StorageCalls) (names : StorageNames) (m : StorageMessage)
    (fs : Files) : McResult × Files :=
  if m.flags = teeDataFlagExclusive then
    match attempt calls.openExcl (fs.openExcl names.filePath) with
    | .error _ => (teeErrorAccessConflict, fs)
    | .ok fs => writeNew calls names m fs
  else writeNew calls names m fs

theorem fsdWriteFile_eq_openAndWrite (calls : StorageCalls) (names : StorageNames)
    (m : StorageMessage) (fs : Files) :
    fsdWriteFile calls names m fs =
      match attempt calls.mkdir (fs.mkdir names.taDirPath) with
      | .error errno =>
          if errno ≠ .eexist then (teeErrorStorageNoSpace, fs)
          else openAndWrite calls names m fs
      | .ok fs' => openAndWrite calls names m fs' := by
  unfold fsdWriteFile openAndWrite
  cases attempt calls.mkdir (fs.mkdir names.taDirPath) <;> rfl

/-- The files when the new file is opened. -/
structure Started (calls : StorageCalls) (names : StorageNames) (m : StorageMessage)
    (fs fs' : Files) : Prop where
  dir : fs'.node names.taDirPath = some .dir ↔ HasDirectory calls names fs
  new : fs'.node names.filePathNew = fs.node names.filePathNew
  file : fs'.node names.filePath = some .dir ↔ fs.node names.filePath = some .dir
  content : ∀ q, fs'.content q =
    if q = names.filePath then openedContent names m fs else fs.content q

/-- How `FSD_WriteFile` begins: it is refused, or goes on to the new file. -/
inductive Beginning (calls : StorageCalls) (names : StorageNames) (m : StorageMessage)
    (fs : Files) : McResult × Files → Prop where
  | refused (status : McResult) (fs' : Files) (hreached : ¬ Reached calls names m fs)
      (hstatus : status ≠ teeSuccess) (hcontent : ∀ q, fs'.content q = fs.content q) :
      Beginning calls names m fs (status, fs')
  | started (fs' : Files) (hreached : Reached calls names m fs)
      (hstarted : Started calls names m fs fs') :
      Beginning calls names m fs (writeNew calls names m fs')

theorem beginning_openAndWrite (hplaced : Placed names) {fs' : Files}
    (hready : DirectoryReady calls names fs)
    (hdir : fs'.node names.taDirPath = some .dir ↔ HasDirectory calls names fs)
    (hnode : ∀ q ≠ names.taDirPath, fs'.node q = fs.node q)
    (hcontent : ∀ q, fs'.content q = fs.content q) :
    Beginning calls names m fs (openAndWrite calls names m fs') := by
  have hfile := hnode names.filePath hplaced.filePath_ne.symm
  have hnew := hnode names.filePathNew hplaced.filePathNew_ne.symm
  unfold openAndWrite
  by_cases hflags : m.flags = teeDataFlagExclusive
  · rw [if_pos hflags]
    cases hopened : attempt calls.openExcl (fs'.openExcl names.filePath) with
    | error errno =>
        refine .refused _ fs' ?_ (by decide) hcontent
        intro hreached
        obtain ⟨hcall, hnone, hhas⟩ := hreached.exclusive hflags
        obtain ⟨fs'', hok⟩ := (Tree.create_eq_ok_iff fs' (.file []) names.filePath).mpr
          ⟨by rw [hfile, hnone], by rw [hplaced.filePath]; exact hdir.mpr hhas⟩
        rw [hcall, attempt, Tree.openExcl, hok] at hopened
        cases hopened
    | ok fs'' =>
        have hcall : calls.openExcl = none := by
          cases hcall : calls.openExcl with
          | none => rfl
          | some errno =>
              rw [hcall] at hopened
              cases hopened
        have hok : fs'.openExcl names.filePath = .ok fs'' := by
          rw [hcall] at hopened
          exact hopened
        have hnode'' := Tree.node_create hok
        obtain ⟨hnone, hparent⟩ := (Tree.create_eq_ok_iff _ _ _).mp ⟨fs'', hok⟩
        rw [hplaced.filePath] at hparent
        rw [hfile] at hnone
        refine .started fs'' ⟨hready, fun _ => ⟨hcall, hnone, hdir.mp hparent⟩⟩ ?_
        constructor
        · rw [hnode'', if_neg hplaced.filePath_ne]
          exact hdir
        · rw [hnode'', if_neg hplaced.apart.symm, hnew]
        · rw [hnode'', if_pos rfl, hnone]
          simp
        · intro q
          rw [Tree.content_openExcl hok, openedContent, if_pos hflags, hcontent]
  · rw [if_neg hflags]
    refine .started fs' ⟨hready, fun h => absurd h hflags⟩ ⟨hdir, hnew, by rw [hfile], ?_⟩
    intro q
    rw [hcontent, openedContent, if_neg hflags]
    split
    · rename_i hq
      rw [hq]
    · rfl

theorem beginning_fsdWriteFile (hplaced : Placed names) :
    Beginning calls names m fs (fsdWriteFile calls names m fs) := by
  rw [fsdWriteFile_eq_openAndWrite]
  have hmade := made_mkdir calls names fs
  have hcontent := content_after_mkdir calls.mkdir fs names.taDirPath
  generalize attempt calls.mkdir (fs.mkdir names.taDirPath) = made at hmade hcontent ⊢
  cases hmade with
  | made fs' hready hdir hnode =>
      apply beginning_openAndWrite hplaced hready
      · rw [hnode, if_pos rfl]
        exact iff_of_true rfl hdir
      · intro q hq
        rw [hnode, if_neg hq]
      · exact hcontent
  | found hready hdir =>
      exact beginning_openAndWrite hplaced hready hdir.symm (fun _ _ => rfl) fun _ => rfl
  | failed errno herrno hready =>
      dsimp only
      rw [if_pos herrno]
      exact .refused _ fs (fun hreached => hready hreached.mkdir) (by decide) fun _ => rfl

end Write

/-! ## Honest answers -/

/-- Success leaves the file as the request asks for, and an error as it was; the files of
other keys stay as they are. -/
structure Honest (tbstpath : Text) (stack : Locals) (key : StorageKey)
    (goal : Option (List UInt8)) (fs : Files) (result : McResult × Files) : Prop where
  done : result.1 = teeSuccess →
    result.2.content (storageNames tbstpath stack key).filePath = goal
  kept : result.1 ≠ teeSuccess →
    result.2.content (storageNames tbstpath stack key).filePath =
      fs.content (storageNames tbstpath stack key).filePath
  others : ∀ key' ≠ key, ∀ stack' : Locals,
    result.2.content (storageNames tbstpath stack' key').filePath =
      fs.content (storageNames tbstpath stack' key').filePath

/-- A write leaves the payload, and a delete leaves nothing. -/
structure HonestStorage (tbstpath : Text) (stack : Locals) (calls : StorageCalls)
    (m : StorageMessage) (fs : Files) : Prop where
  write : Honest tbstpath stack m.key (some m.written) fs
    (fsdWriteFile calls (storageNames tbstpath stack m.key) m fs)
  delete : Honest tbstpath stack m.key none fs
    (fsdDeleteFile calls (storageNames tbstpath stack m.key) fs)

/-- The error branches find nothing to lose, or fail to remove it; an exclusive write takes
its empty file away again; and a new file that is renamed is whole, as is what stands there
when it is not. -/
structure WriteSpares (calls : StorageCalls) (names : StorageNames) (m : StorageMessage)
    (fs : Files) : Prop where
  lost : Reached calls names m fs → ¬ (HasDirectory calls names fs ∧ Filled calls names m fs) →
    m.flags ≠ teeDataFlagExclusive → fs.content names.filePath = none ∨ calls.remove ≠ none
  left : Reached calls names m fs → ¬ (HasDirectory calls names fs ∧ Filled calls names m fs) →
    m.flags = teeDataFlagExclusive → calls.remove = none
  cut : Reached calls names m fs → HasDirectory calls names fs → Filled calls names m fs →
    Renamable calls names fs → m.payloadLen.toNat ≤ calls.closed.getD m.payloadLen.toNat
  stale : Reached calls names m fs → HasDirectory calls names fs → Filled calls names m fs →
    ¬ Renamable calls names fs → openedContent names m fs = some m.written

/-- There is nothing to delete, or the file can be opened and removed. -/
def DeleteSpares (calls : StorageCalls) (names : StorageNames) (fs : Files) : Prop :=
  fs.content names.filePath = none ∨ calls.fopen = none ∧ calls.remove = none

section Honest

variable {tbstpath : Text} {stack : Locals} {calls : StorageCalls} {m : StorageMessage}
  {fs : Files}

/-- A command that changes its own file, or its new file, and no other. -/
theorem honest_iff_content {key : StorageKey} {goal c : Option (List UInt8)}
    {result : McResult × Files}
    (h : ∀ q ≠ (storageNames tbstpath stack key).filePathNew, result.2.content q =
      if q = (storageNames tbstpath stack key).filePath then c else fs.content q) :
    Honest tbstpath stack key goal fs result ↔ (result.1 = teeSuccess → c = goal) ∧
      (result.1 ≠ teeSuccess →
        c = fs.content (storageNames tbstpath stack key).filePath) := by
  have hfile := h _ (filePath_ne_filePathNew tbstpath stack stack key key)
  rw [if_pos rfl] at hfile
  constructor
  · rintro ⟨hdone, hkept, -⟩
    rw [hfile] at hdone hkept
    exact ⟨hdone, hkept⟩
  · rintro ⟨hdone, hkept⟩
    refine ⟨by rwa [hfile], by rwa [hfile], ?_⟩
    intro key' hne stack'
    rw [h _ (filePath_ne_filePathNew tbstpath stack' stack key' key),
      if_neg fun heq => hne (filePath_inj heq)]

theorem keptPayload_eq_iff (calls : StorageCalls) (m : StorageMessage) :
    keptPayload calls m = m.written ↔
      m.payloadLen.toNat ≤ calls.closed.getD m.payloadLen.toNat := by
  rw [keptPayload, List.take_eq_self_iff, m.length_written]

theorem content_of_exclusive {names : StorageNames} (hreached : Reached calls names m fs)
    (hflags : m.flags = teeDataFlagExclusive) : fs.content names.filePath = none := by
  have hnone := (hreached.exclusive hflags).2.1
  simp [Tree.content, hnone]

theorem honest_unfilled_iff {fs' : Files}
    (hreached : Reached calls (storageNames tbstpath stack m.key) m fs)
    (hstarted : Started calls (storageNames tbstpath stack m.key) m fs fs')
    (hfilled : ¬ (HasDirectory calls (storageNames tbstpath stack m.key) fs ∧
      Filled calls (storageNames tbstpath stack m.key) m fs)) :
    Honest tbstpath stack m.key (some m.written) fs
        (writeNew calls (storageNames tbstpath stack m.key) m fs') ↔
      WriteSpares calls (storageNames tbstpath stack m.key) m fs := by
  have hfilled' : ¬ (fs'.node (storageNames tbstpath stack m.key).taDirPath = some .dir ∧
      Filled calls (storageNames tbstpath stack m.key) m fs') := by
    intro h
    exact hfilled ⟨hstarted.dir.mp h.1,
      ⟨h.2.fopen, by rw [← hstarted.new]; exact h.2.free, h.2.written⟩⟩
  obtain ⟨herror, hcontent⟩ :=
    writeNew_unfilled (placed_storageNames tbstpath stack m.key) hfilled'
  rw [honest_iff_content (c := if calls.remove = none then none
    else openedContent (storageNames tbstpath stack m.key) m fs)]
  · constructor
    · rintro ⟨-, hkept⟩
      have hleft := hkept herror
      refine ⟨fun _ _ hflags => ?_, fun _ _ hflags => ?_,
        fun _ hdir hfill => absurd ⟨hdir, hfill⟩ hfilled,
        fun _ hdir hfill => absurd ⟨hdir, hfill⟩ hfilled⟩
      · by_cases hremove : calls.remove = none
        · rw [if_pos hremove] at hleft
          exact Or.inl hleft.symm
        · exact Or.inr hremove
      · by_contra hremove
        rw [if_neg hremove, openedContent, if_pos hflags,
          content_of_exclusive hreached hflags] at hleft
        cases hleft
    · intro hspares
      refine ⟨fun h => absurd h herror, fun _ => ?_⟩
      by_cases hflags : m.flags = teeDataFlagExclusive
      · rw [if_pos (hspares.left hreached hfilled hflags), content_of_exclusive hreached hflags]
      · rw [openedContent, if_neg hflags]
        rcases hspares.lost hreached hfilled hflags with hnone | hremove
        · rw [hnone]
          exact ite_self none
        · rw [if_neg hremove]
  · intro q hq
    rw [hcontent q hq, hstarted.content]
    by_cases hfile : q = (storageNames tbstpath stack m.key).filePath
    · simp [hfile]
    · simp [hfile]

theorem honest_filled_iff {fs' : Files}
    (hreached : Reached calls (storageNames tbstpath stack m.key) m fs)
    (hstarted : Started calls (storageNames tbstpath stack m.key) m fs fs')
    (hhas : HasDirectory calls (storageNames tbstpath stack m.key) fs)
    (hfilled : Filled calls (storageNames tbstpath stack m.key) m fs) :
    Honest tbstpath stack m.key (some m.written) fs
        (writeNew calls (storageNames tbstpath stack m.key) m fs') ↔
      WriteSpares calls (storageNames tbstpath stack m.key) m fs := by
  have hplaced := placed_storageNames tbstpath stack m.key
  have hdir := hstarted.dir.mpr hhas
  have hfilled' : Filled calls (storageNames tbstpath stack m.key) m fs' :=
    ⟨hfilled.fopen, by rw [hstarted.new]; exact hfilled.free, hfilled.written⟩
  by_cases hrename : Renamable calls (storageNames tbstpath stack m.key) fs
  · obtain ⟨hok, hcontent⟩ := writeNew_renamed hplaced hdir hfilled'
      ⟨hrename.rename, fun h => hrename.free (hstarted.file.mp h)⟩
    have hkept := keptPayload_eq_iff calls m
    rw [honest_iff_content (c := keptPayload calls m)]
    · constructor
      · rintro ⟨hdone, -⟩
        exact ⟨fun _ h => absurd ⟨hhas, hfilled⟩ h, fun _ h => absurd ⟨hhas, hfilled⟩ h,
          fun _ _ _ _ => hkept.mp (Option.some.inj (hdone hok)), fun _ _ _ h => absurd hrename h⟩
      · intro hspares
        refine ⟨fun _ => congrArg some (hkept.mpr ?_), fun h => absurd hok h⟩
        exact hspares.cut hreached hhas hfilled hrename
    · intro q hq
      rw [hcontent q hq, hstarted.content]
      split <;> rfl
  · obtain ⟨hok, hcontent⟩ := writeNew_unrenamed hplaced hdir hfilled'
      fun h => hrename ⟨h.rename, fun hfile => h.free (hstarted.file.mpr hfile)⟩
    rw [honest_iff_content fun q hq => (hcontent q hq).trans (hstarted.content q)]
    constructor
    · rintro ⟨hdone, -⟩
      exact ⟨fun _ h => absurd ⟨hhas, hfilled⟩ h, fun _ h => absurd ⟨hhas, hfilled⟩ h,
        fun _ _ _ h => absurd h hrename, fun _ _ _ _ => hdone hok⟩
    · intro hspares
      exact ⟨fun _ => hspares.stale hreached hhas hfilled hrename, fun h => absurd hok h⟩

theorem honest_write_iff :
    Honest tbstpath stack m.key (some m.written) fs
        (fsdWriteFile calls (storageNames tbstpath stack m.key) m fs) ↔
      WriteSpares calls (storageNames tbstpath stack m.key) m fs := by
  have hbegin : Beginning calls (storageNames tbstpath stack m.key) m fs
      (fsdWriteFile calls (storageNames tbstpath stack m.key) m fs) :=
    beginning_fsdWriteFile (placed_storageNames tbstpath stack m.key)
  generalize fsdWriteFile calls (storageNames tbstpath stack m.key) m fs = result at hbegin ⊢
  cases hbegin with
  | refused status fs' hreached hstatus hcontent =>
      apply iff_of_true
      · exact ⟨fun h => absurd h hstatus, fun _ => hcontent _, fun _ _ _ => hcontent _⟩
      · exact ⟨fun h => absurd h hreached, fun h => absurd h hreached, fun h => absurd h hreached,
          fun h => absurd h hreached⟩
  | started fs' hreached hstarted =>
      by_cases hfilled : HasDirectory calls (storageNames tbstpath stack m.key) fs ∧
          Filled calls (storageNames tbstpath stack m.key) m fs
      · exact honest_filled_iff hreached hstarted hfilled.1 hfilled.2
      · exact honest_unfilled_iff hreached hstarted hfilled

theorem content_fsdDeleteFile (calls : StorageCalls) (names : StorageNames) (fs : Files)
    (q : Text) :
    (fsdDeleteFile calls names fs).2.content q =
      if q = names.filePath ∧ calls.fopen = none ∧ calls.remove = none then none
      else fs.content q := by
  unfold fsdDeleteFile
  dsimp only
  rw [content_after_rmdir]
  cases hcall : calls.fopen with
  | some errno => simp [attempt]
  | none =>
      cases hopened : fs.openRead names.filePath with
      | error errno =>
          have hnone : fs.content names.filePath = none := by
            unfold Tree.openRead at hopened
            split at hopened
            · rename_i hnode
              simp [Tree.content, hnode]
            · cases hopened
            · cases hopened
          by_cases hq : q = names.filePath
          · simp [attempt, hq, hnone]
          · simp [attempt, hq]
      | ok bytes =>
          have hfound : attempt (none : Option Errno) (.ok bytes) = .ok bytes := rfl
          rw [hfound]
          dsimp only
          rw [content_after_remove]
          by_cases hq : q = names.filePath
          · simp [hq]
          · simp [hq]

/-- A delete reports success, also when the file could not be removed. -/
theorem honest_delete_iff :
    Honest tbstpath stack m.key none fs
        (fsdDeleteFile calls (storageNames tbstpath stack m.key) fs) ↔
      DeleteSpares calls (storageNames tbstpath stack m.key) fs := by
  have hstatus : (fsdDeleteFile calls (storageNames tbstpath stack m.key) fs).1 = teeSuccess :=
    deleteStatus_eq _
  have hcontent := content_fsdDeleteFile calls (storageNames tbstpath stack m.key) fs
  rw [honest_iff_content (c := if calls.fopen = none ∧ calls.remove = none then none
    else fs.content (storageNames tbstpath stack m.key).filePath)]
  · unfold DeleteSpares
    constructor
    · rintro ⟨hdone, -⟩
      have hleft := hdone hstatus
      by_cases hremoved : calls.fopen = none ∧ calls.remove = none
      · exact Or.inr hremoved
      · rw [if_neg hremoved] at hleft
        exact Or.inl hleft
    · intro hspares
      refine ⟨fun _ => ?_, fun h => absurd hstatus h⟩
      rcases hspares with hnone | hremoved
      · rw [hnone]
        exact ite_self none
      · rw [if_pos hremoved]
  · intro q _
    rw [hcontent]
    by_cases hq : q = (storageNames tbstpath stack m.key).filePath
    · simp [hq]
    · simp [hq]

end Honest

/-- A write and a delete are honest if and only if no error branch of the write removes what
was there, or fails to remove the empty file of an exclusive write; what is renamed, or
stands there when nothing is renamed, is the payload; and what is deleted can be opened and
removed. -/
theorem honestStorage_iff (tbstpath : Text) (stack : Locals) (calls : StorageCalls)
    (m : StorageMessage) (fs : Files) :
    HonestStorage tbstpath stack calls m fs ↔
      WriteSpares calls (storageNames tbstpath stack m.key) m fs ∧
        DeleteSpares calls (storageNames tbstpath stack m.key) fs := by
  constructor
  · exact fun h => ⟨honest_write_iff.mp h.write, honest_delete_iff.mp h.delete⟩
  · exact fun h => ⟨honest_write_iff.mpr h.1, honest_delete_iff.mpr h.2⟩

theorem emptyStorage_dirname (key : StorageKey) :
    emptyStorage.node (dirname (taDirectory (cString nul "/TbStorage".toList) key)) =
      some .dir := by
  have hname : dirname (taDirectory (cString nul "/TbStorage".toList) key) =
      cString nul "/TbStorage".toList :=
    beforeLast_append (not_mem_byteArrayToString _).1
  rw [hname]
  exact (Tree.node_put _ _ _ _ _ _).trans (if_pos (by decide))

theorem exists_content (key : StorageKey) (bytes : List UInt8) :
    ∃ fs : Files, fs.content (keyPath (cString nul "/TbStorage".toList) key) = some bytes := by
  generalize hroot : cString nul "/TbStorage".toList = root
  have hnone : emptyStorage.node (taDirectory root key) = none := by
    rw [← hroot]
    exact emptyStorage_taDirectory key
  have hparent : emptyStorage.node (dirname (taDirectory root key)) = some .dir := by
    rw [← hroot]
    exact emptyStorage_dirname key
  obtain ⟨fs₁, hmade⟩ := (Tree.create_eq_ok_iff _ .dir _).mpr ⟨hnone, hparent⟩
  have hfree : emptyStorage.node (keyPath root key) = none := by
    by_contra hnode
    have hdir := emptyStorage.node_parent hnode
    rw [dirname_keyPath, hnone] at hdir
    cases hdir
  obtain ⟨fs₂, hwritten⟩ : ∃ fs₂, fs₁.write (keyPath root key) bytes = .ok fs₂ := by
    apply (Tree.write_eq_ok_iff _ _ _).mpr
    rw [dirname_keyPath, Tree.node_create hmade, Tree.node_create hmade, if_pos rfl,
      if_neg (keyPath_ne_taDirectory root key key), hfree]
    exact ⟨by simp, rfl⟩
  exact ⟨fs₂, by rw [Tree.content_write hwritten, if_pos rfl]⟩

/-- A new file that cannot be opened costs the file that was there. -/
theorem not_honestStorage :
    ¬ ∀ (tbstpath : Text) (stack : Locals) (calls : StorageCalls) (m : StorageMessage)
      (fs : Files), HonestStorage tbstpath stack calls m fs := by
  intro h
  let r := threeBytes sthMessageTypeWrite [1, 2, 3] (by decide)
  obtain ⟨fs, hcontent⟩ := exists_content r.msg.key [4, 5]
  have hhonest := h "/TbStorage".toList r.stack { fopen := some .eio } r.msg fs
  have hspares := honest_write_iff.mp hhonest.write
  have hfile := (storageNames_of_empty r.empty "/TbStorage".toList r.msg.key).2
  have hdir := (storageNames_of_empty r.empty "/TbStorage".toList r.msg.key).1
  have hnode : fs.node (taDirectory (cString nul "/TbStorage".toList) r.msg.key) ≠ none := by
    rw [← dirname_keyPath, fs.node_parent]
    · simp
    · rw [Tree.content_eq_some_iff.mp hcontent]
      simp
  have hflags : r.msg.flags ≠ teeDataFlagExclusive := by decide
  have hready : DirectoryReady { fopen := some .eio }
      (storageNames "/TbStorage".toList r.stack r.msg.key) fs := by
    rw [DirectoryReady, hdir]
    exact Or.inr ⟨rfl, Or.inl hnode⟩
  rcases hspares.lost ⟨hready, fun heq => absurd heq hflags⟩
    (fun hfilled => absurd hfilled.2.fopen (by simp)) hflags with hnone | hremove
  · rw [hfile, hcontent] at hnone
    cases hnone
  · exact hremove rfl

end SecureStorage

end Exynos8890.MobiCore
