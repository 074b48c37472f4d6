import Exynos8890.MobiCore.SecureStorage

/-!
# Secure storage as a map

While the calls of the file system succeed, and the arrays of the commands hold empty
strings when they start, the files of the storage are a map from keys to contents: the
directories of the applications come and go without being noticed.

Main results:

- Definition `lastWritten`: what a sequence of requests and their results leaves under a
  key.
- Theorem `fsdExecuteCommand_keeps`: one request changes the files as it changes the map.
- Theorem `serveAll_keeps`: after any requests the files are what was last written.
- Theorem `behavesAsMap`: what the answer to the next request is.
-/

namespace Exynos8890.MobiCore

namespace SecureStorage

open CString FileSystem HexText

/-! ## Paths of the storage -/

/-- The temporary file of a key. -/
def tempPath (root : Text) (key : StorageKey) : Text :=
  taDirectory root key ++ '/' :: (byteArrayToString key.filename.val ++ newExt)

theorem dirname_keyPath (root : Text) (key : StorageKey) :
    dirname (keyPath root key) = taDirectory root key :=
  beforeLast_append (not_mem_byteArrayToString _).1

theorem dirname_tempPath (root : Text) (key : StorageKey) :
    dirname (tempPath root key) = taDirectory root key :=
  beforeLast_append (slash_not_mem_newName _)

theorem taDirectory_inj {root : Text} {key key' : StorageKey}
    (h : taDirectory root key = taDirectory root key') : key.uuid = key'.uuid := by
  have hname := (append_sep_inj (not_mem_byteArrayToString _).1
    (not_mem_byteArrayToString _).1 h).2
  exact Subtype.ext (byteArrayToString_inj hname)

theorem keyPath_inj {root : Text} {key key' : StorageKey}
    (h : keyPath root key = keyPath root key') : key = key' := by
  obtain ⟨hdir, hname⟩ := append_sep_inj (not_mem_byteArrayToString _).1
    (not_mem_byteArrayToString _).1 h
  obtain ⟨uuid, filename⟩ := key
  obtain ⟨uuid', filename'⟩ := key'
  have huuid : uuid = uuid' := taDirectory_inj hdir
  have hfilename : filename = filename' := Subtype.ext (byteArrayToString_inj hname)
  rw [huuid, hfilename]

/-- A path that has the extension of temporary files is not made of digits alone. -/
theorem newName_ne (bytes bytes' : List UInt8) :
    byteArrayToString bytes ++ newExt ≠ byteArrayToString bytes' := by
  intro h
  have hdot : '.' ∈ byteArrayToString bytes ++ newExt :=
    List.mem_append_right _ (by decide)
  exact (not_mem_byteArrayToString bytes').2 (h ▸ hdot)

theorem tempPath_ne_keyPath (root : Text) (key key' : StorageKey) :
    tempPath root key ≠ keyPath root key' := by
  intro h
  have hname := (append_sep_inj (slash_not_mem_newName _) (not_mem_byteArrayToString _).1 h).2
  exact newName_ne _ _ hname

theorem tempPath_ne_taDirectory (root : Text) (key key' : StorageKey) :
    tempPath root key ≠ taDirectory root key' := by
  intro h
  have hname := (append_sep_inj (slash_not_mem_newName _) (not_mem_byteArrayToString _).1 h).2
  exact newName_ne _ _ hname

/-- The name of a file has more digits than the name of a directory. -/
theorem keyPath_ne_taDirectory (root : Text) (key key' : StorageKey) :
    keyPath root key ≠ taDirectory root key' := by
  intro h
  have hname := (append_sep_inj (not_mem_byteArrayToString _).1
    (not_mem_byteArrayToString _).1 h).2
  have hlength := congrArg List.length hname
  rw [byteArrayToString, byteArrayToString, length_hexBytes, length_hexBytes,
    key.filename.property, key'.uuid.property] at hlength
  exact absurd hlength (by decide)

/-! ## What the files hold -/

/-- What every key holds. -/
abbrev Contents := StorageKey → Option (List UInt8)

/-- The files of the storage hold these contents, and nothing stands where a directory or a
temporary file is to be made. -/
structure Keeps (root : Text) (held : Contents) (fs : Files) : Prop where
  files : ∀ key, fs.node (keyPath root key) = (held key).map Node.file
  dirs : ∀ key, fs.node (taDirectory root key) = none ∨ fs.node (taDirectory root key) = some .dir
  temps : ∀ key, fs.node (tempPath root key) ≠ some .dir

namespace Keeps

variable {root : Text} {held : Contents} {fs fs' : Files} {key : StorageKey}

/-- Where a key holds something, the application has a directory. -/
theorem dir_of_held (h : Keeps root held fs) (hheld : held key ≠ none) :
    fs.node (taDirectory root key) = some .dir := by
  rw [← dirname_keyPath]
  apply fs.node_parent
  rw [h.files]
  simpa using hheld

theorem of_dir (h : Keeps root held fs) {n : Option Node} (hn : n = none ∨ n = some .dir)
    (hnode : ∀ q, fs'.node q = if q = taDirectory root key then n else fs.node q) :
    Keeps root held fs' := by
  constructor
  · intro key'
    rw [hnode, if_neg (keyPath_ne_taDirectory root key' key), h.files]
  · intro key'
    rw [hnode]
    split
    · exact hn
    · exact h.dirs key'
  · intro key'
    rw [hnode, if_neg (tempPath_ne_taDirectory root key' key)]
    exact h.temps key'

theorem of_file (h : Keeps root held fs) {content : Option (List UInt8)}
    (hnode : ∀ q, fs'.node q =
      if q = keyPath root key then content.map Node.file else fs.node q) :
    Keeps root (Function.update held key content) fs' := by
  constructor
  · intro key'
    rw [hnode]
    by_cases hkey : key' = key
    · rw [if_pos (congrArg (keyPath root) hkey), hkey, Function.update_self]
    · rw [if_neg fun heq => hkey (keyPath_inj heq), Function.update_of_ne hkey, h.files]
  · intro key'
    rw [hnode, if_neg fun heq => keyPath_ne_taDirectory root key key' heq.symm]
    exact h.dirs key'
  · intro key'
    rw [hnode, if_neg (tempPath_ne_keyPath root key' key)]
    exact h.temps key'

theorem of_temp (h : Keeps root held fs) {n : Option Node} (hn : n ≠ some .dir)
    (hnode : ∀ q, fs'.node q = if q = tempPath root key then n else fs.node q) :
    Keeps root held fs' := by
  constructor
  · intro key'
    rw [hnode, if_neg fun heq => tempPath_ne_keyPath root key key' heq.symm, h.files]
  · intro key'
    rw [hnode, if_neg fun heq => tempPath_ne_taDirectory root key key' heq.symm]
    exact h.dirs key'
  · intro key'
    rw [hnode]
    split
    · exact hn
    · exact h.temps key'

/-- The temporary file of a key takes the place of its file. -/
theorem of_rename (h : Keeps root held fs) {content : Option (List UInt8)}
    (hnode : ∀ q, fs'.node q =
      if q = keyPath root key then content.map Node.file
      else if q = tempPath root key then none
      else fs.node q) :
    Keeps root (Function.update held key content) fs' := by
  constructor
  · intro key'
    rw [hnode]
    by_cases hkey : key' = key
    · rw [if_pos (congrArg (keyPath root) hkey), hkey, Function.update_self]
    · rw [if_neg fun heq => hkey (keyPath_inj heq),
        if_neg fun heq => tempPath_ne_keyPath root key key' heq.symm,
        Function.update_of_ne hkey, h.files]
  · intro key'
    rw [hnode, if_neg fun heq => keyPath_ne_taDirectory root key key' heq.symm,
      if_neg fun heq => tempPath_ne_taDirectory root key key' heq.symm]
    exact h.dirs key'
  · intro key'
    rw [hnode, if_neg (tempPath_ne_keyPath root key' key)]
    split
    · simp
    · exact h.temps key'

end Keeps

/-! ## Reading -/

/-- Paths that are made from empty arrays. -/
structure Named (root : Text) (key : StorageKey) (names : StorageNames) : Prop where
  taDirPath : names.taDirPath = taDirectory root key
  filePath : names.filePath = keyPath root key
  filePathNew : names.filePathNew = tempPath root key

theorem named_of_empty {stack : Locals} (h : cString nul stack.tadirname = [])
    (tbstpath : Text) (key : StorageKey) :
    Named (cString nul tbstpath) key (storageNames tbstpath stack key) := by
  obtain ⟨hdir, hfile⟩ := storageNames_of_empty h tbstpath key
  refine ⟨hdir, hfile, ?_⟩
  rw [filePathNew_eq, hdir]
  rfl

variable {root : Text} {held : Contents} {fs : Files} {names : StorageNames}
  {m : StorageMessage}

/-- A read returns as much as was asked for, of what the key holds. -/
theorem readPayload_spec (h : Keeps root held fs) (hnames : Named root m.key names) :
    ((readPayload {} names m fs).1 = teeSuccess ↔
        ∃ content ∈ held m.key, m.payloadLen.toNat ≤ content.length) ∧
      ∀ content ∈ held m.key, m.payloadLen.toNat ≤ content.length →
        (readPayload {} names m fs).2 =
          content.take m.payloadLen.toNat ++ m.payload.drop m.payloadLen.toNat := by
  have hne : teeErrorItemNotFound ≠ teeSuccess := by decide
  have hnode := h.files m.key
  rw [← hnames.filePath] at hnode
  cases hheld : held m.key with
  | none =>
      have hread : readPayload {} names m fs = (teeErrorItemNotFound, m.payload) := by
        rw [hheld] at hnode
        simp only [readPayload, attempt, Tree.openRead, hnode, Option.map_none]
      rw [hread]
      constructor
      · apply iff_of_false hne
        rintro ⟨content, hcontent, -⟩
        cases hcontent
      · intro content hcontent
        cases hcontent
  | some content =>
      have hread : readPayload {} names m fs =
          if (content.take m.payloadLen.toNat).length ≠ m.payloadLen.toNat then
            (teeErrorItemNotFound, content.take m.payloadLen.toNat ++
              m.payload.drop (content.take m.payloadLen.toNat).length)
          else
            (teeSuccess, content.take m.payloadLen.toNat ++
              m.payload.drop (content.take m.payloadLen.toNat).length) := by
        rw [hheld] at hnode
        simp only [readPayload, attempt, Tree.openRead, hnode, Option.map_some, Option.getD_none,
          List.take_length]
      rw [hread]
      simp only [Option.mem_some_iff, exists_eq_left', forall_eq']
      rw [List.length_take]
      by_cases hlen : m.payloadLen.toNat ≤ content.length
      · rw [if_neg (by omega), Nat.min_eq_left hlen]
        exact ⟨iff_of_true rfl hlen, fun _ => rfl⟩
      · rw [if_pos (by omega)]
        exact ⟨iff_of_false hne hlen, fun h => absurd h hlen⟩

/-! ## Writing -/

/-- The bytes that a request writes. -/
def StorageMessage.written (m : StorageMessage) : List UInt8 :=
  m.payload.take m.payloadLen.toNat

theorem StorageMessage.length_written (m : StorageMessage) :
    m.written.length = m.payloadLen.toNat := by
  rw [written, List.length_take, Nat.min_eq_left m.fits]

/-- In the directory of the application the new file is written and renamed. -/
theorem writeNew_spec (h : Keeps root held fs) (hnames : Named root m.key names)
    (hdir : fs.node (taDirectory root m.key) = some .dir) :
    ∃ fs', writeNew {} names m fs = (teeSuccess, fs') ∧
      Keeps root (Function.update held m.key (some m.written)) fs' := by
  obtain ⟨fs₁, h₁⟩ : ∃ fs₁, fs.write (tempPath root m.key) [] = .ok fs₁ := by
    apply (Tree.write_eq_ok_iff _ _ _).mpr
    rw [dirname_tempPath]
    exact ⟨h.temps m.key, hdir⟩
  have hnode₁ := Tree.node_write h₁
  obtain ⟨fs₂, h₂⟩ : ∃ fs₂, fs₁.write (tempPath root m.key) m.written = .ok fs₂ := by
    apply (Tree.write_eq_ok_iff _ _ _).mpr
    rw [dirname_tempPath, hnode₁, hnode₁, if_pos rfl,
      if_neg fun heq => tempPath_ne_taDirectory root m.key m.key heq.symm]
    exact ⟨by simp, hdir⟩
  have hnode₂ := Tree.node_write h₂
  have hkeeps₂ : Keeps root held fs₂ := by
    have hnode : ∀ q, fs₂.node q =
        if q = tempPath root m.key then some (.file m.written) else fs.node q := by
      intro q
      rw [hnode₂, hnode₁]
      split <;> rfl
    exact h.of_temp (by simp) hnode
  obtain ⟨fs₃, h₃⟩ : ∃ fs₃, fs₂.renameFile (tempPath root m.key) (keyPath root m.key) =
      .ok fs₃ := by
    have hsrc : fs₂.node (tempPath root m.key) = some (.file m.written) := by
      rw [hnode₂, if_pos rfl]
    apply Tree.renameFile_eq_ok hsrc
    · rw [hkeeps₂.files]
      simp
    · rw [dirname_keyPath, hnode₂, if_neg fun heq => tempPath_ne_taDirectory root m.key m.key
        heq.symm, hnode₁, if_neg fun heq => tempPath_ne_taDirectory root m.key m.key heq.symm]
      exact hdir
  have hnode₃ := Tree.node_renameFile h₃
  refine ⟨fs₃, ?_, ?_⟩
  · have hlength := m.length_written
    unfold StorageMessage.written at hlength h₂
    simp only [writeNew, attempt, hnames.filePath, hnames.filePathNew, h₁, Option.getD_none,
      List.take_take, Nat.min_self, hlength, ne_eq, not_true_eq_false, if_false, after, h₂, h₃,
      if_true, callResult, UInt32.lt_irrefl]
  · apply hkeeps₂.of_rename
    intro q
    rw [hnode₃, hnode₂, if_pos rfl]
    rfl

/-- What `FSD_WriteFile` does to a storage: without a directory it fails, an exclusive write
on a key that holds something is refused, and any other write stores the payload. -/
inductive WriteOutcome (root : Text) (held : Contents) (m : StorageMessage) (fs : Files) :
    McResult × Files → Prop where
  | noDirectory (hheld : held m.key = none) :
      WriteOutcome root held m fs (teeErrorStorageNoSpace, fs)
  | refused (hflags : m.flags = teeDataFlagExclusive) (hheld : held m.key ≠ none) :
      WriteOutcome root held m fs (teeErrorAccessConflict, fs)
  | stored (hfree : m.flags = teeDataFlagExclusive → held m.key = none) (fs' : Files)
      (hkeeps : Keeps root (Function.update held m.key (some m.written)) fs') :
      WriteOutcome root held m fs (teeSuccess, fs')

/-- The part of `FSD_WriteFile` behind `mkdir`. -/
def writeInDirectory (names : StorageNames) (m : StorageMessage) (fs : Files) :
    McResult × Files :=
  if m.flags = teeDataFlagExclusive then
    match fs.openExcl names.filePath with
    | .error _ => (teeErrorAccessConflict, fs)
    | .ok fs => writeNew {} names m fs
  else writeNew {} names m fs

/-- Without faults, `mkdir` fails when the directory is there, or its parent is not. -/
theorem fsdWriteFile_eq (names : StorageNames) (m : StorageMessage) (fs : Files) :
    fsdWriteFile {} names m fs =
      match fs.mkdir names.taDirPath with
      | .error errno =>
          if errno ≠ .eexist then (teeErrorStorageNoSpace, fs) else writeInDirectory names m fs
      | .ok fs' => writeInDirectory names m fs' := by
  simp only [fsdWriteFile, attempt, writeInDirectory]
  cases fs.mkdir names.taDirPath <;> rfl

/-- In the directory of the application, an exclusive write on a key that holds something
is refused, and any other write stores the payload. -/
theorem writeInDirectory_spec (h : Keeps root held fs) (hnames : Named root m.key names)
    (hdir : fs.node (taDirectory root m.key) = some .dir) :
    (m.flags = teeDataFlagExclusive ∧ held m.key ≠ none ∧
        writeInDirectory names m fs = (teeErrorAccessConflict, fs)) ∨
      ((m.flags = teeDataFlagExclusive → held m.key = none) ∧
        ∃ fs', writeInDirectory names m fs = (teeSuccess, fs') ∧
          Keeps root (Function.update held m.key (some m.written)) fs') := by
  unfold writeInDirectory
  by_cases hflags : m.flags = teeDataFlagExclusive
  · rw [if_pos hflags, hnames.filePath, Tree.openExcl]
    by_cases hheld : held m.key = none
    · obtain ⟨fs₁, h₁⟩ : ∃ fs₁, fs.create (.file []) (keyPath root m.key) = .ok fs₁ := by
        apply (Tree.create_eq_ok_iff _ _ _).mpr
        rw [h.files, hheld, dirname_keyPath]
        exact ⟨rfl, hdir⟩
      have hnode₁ := Tree.node_create h₁
      have hkeeps₁ : Keeps root (Function.update held m.key (some [])) fs₁ := h.of_file hnode₁
      have hdir₁ : fs₁.node (taDirectory root m.key) = some .dir := by
        rw [hnode₁, if_neg fun heq => keyPath_ne_taDirectory root m.key m.key heq.symm]
        exact hdir
      obtain ⟨fs', hwrite, hkeeps⟩ := writeNew_spec hkeeps₁ hnames hdir₁
      rw [Function.update_idem] at hkeeps
      rw [h₁]
      exact Or.inr ⟨fun _ => hheld, fs', hwrite, hkeeps⟩
    · have hexists : fs.node (keyPath root m.key) ≠ none := by
        rw [h.files]
        simpa using hheld
      rw [Tree.create_eq_eexist hexists]
      exact Or.inl ⟨hflags, hheld, rfl⟩
  · rw [if_neg hflags]
    exact Or.inr ⟨fun heq => absurd heq hflags, writeNew_spec h hnames hdir⟩

theorem fsdWriteFile_spec (h : Keeps root held fs) (hnames : Named root m.key names) :
    WriteOutcome root held m fs (fsdWriteFile {} names m fs) := by
  rw [fsdWriteFile_eq, hnames.taDirPath]
  by_cases hdir : fs.node (taDirectory root m.key) = some .dir
  · have hexists : fs.node (taDirectory root m.key) ≠ none := by
      rw [hdir]
      exact Option.some_ne_none _
    rw [Tree.mkdir, Tree.create_eq_eexist hexists]
    show WriteOutcome root held m fs (writeInDirectory names m fs)
    rcases writeInDirectory_spec h hnames hdir with ⟨hflags, hheld, hres⟩ | ⟨hfree, fs', hres, hk⟩
    · rw [hres]
      exact .refused hflags hheld
    · rw [hres]
      exact .stored hfree fs' hk
  · have hnone : fs.node (taDirectory root m.key) = none := (h.dirs m.key).resolve_right hdir
    have hheld : held m.key = none := by
      by_contra hheld
      exact hdir (h.dir_of_held hheld)
    cases hmade : fs.mkdir (taDirectory root m.key) with
    | error errno =>
        have herrno : errno ≠ .eexist := by
          intro heq
          exact Tree.create_ne_eexist hnone _ (heq ▸ hmade)
        dsimp only
        rw [if_pos herrno]
        exact .noDirectory hheld
    | ok fs₁ =>
        have hnode := Tree.node_create hmade
        have hspec := writeInDirectory_spec (h.of_dir (Or.inr rfl) hnode) hnames
          (by rw [hnode, if_pos rfl])
        dsimp only
        rcases hspec with ⟨-, hsome, -⟩ | ⟨hfree, fs', hres, hk⟩
        · exact absurd hheld hsome
        · rw [hres]
          exact .stored hfree fs' hk

/-! ## Deleting -/

/-- The files after `FSD_DeleteFile` has removed the file. -/
theorem removeFile_keeps (h : Keeps root held fs) (key : StorageKey) :
    Keeps root (Function.update held key none)
      (match fs.openRead (keyPath root key) with
        | .error _ => fs
        | .ok _ => after fs (fs.remove (keyPath root key))) := by
  have hnode := h.files key
  cases hheld : held key with
  | none =>
      rw [hheld] at hnode
      have hsame : Function.update held key none = held := by
        rw [← hheld]
        exact Function.update_eq_self key held
      simp only [Tree.openRead, hnode, Option.map_none]
      rw [hsame]
      exact h
  | some content =>
      rw [hheld, Option.map_some] at hnode
      have hremove : fs.remove (keyPath root key) =
          .ok (fs.drop (keyPath root key) (Tree.vacant_of_file hnode)) := by
        rw [Tree.remove, hnode]
        exact Tree.unlink_eq_ok hnode
      simp only [Tree.openRead, hnode, hremove, after]
      apply h.of_file
      exact fun q => Tree.node_drop fs _ q _

theorem rmdir_keeps (h : Keeps root held fs) (key : StorageKey) :
    Keeps root held (after fs (fs.rmdir (taDirectory root key))) := by
  cases hremoved : fs.rmdir (taDirectory root key) with
  | error errno => exact h
  | ok fs' => exact h.of_dir (Or.inl rfl) (Tree.node_rmdir hremoved)

/-- The result of `rmdir` is never negative. -/
theorem deleteStatus_eq (removed : Except Errno Files) : deleteStatus removed = teeSuccess := by
  unfold deleteStatus
  split
  · rw [if_neg fun hreported => absurd hreported.1 UInt32.not_lt_zero]
  · rfl

/-- A deleted key holds nothing, whether or not its directory goes with it. -/
theorem fsdDeleteFile_spec {key : StorageKey} (h : Keeps root held fs)
    (hnames : Named root key names) :
    ∃ fs', fsdDeleteFile {} names fs = (teeSuccess, fs') ∧
      Keeps root (Function.update held key none) fs' := by
  have hkeeps := rmdir_keeps (removeFile_keeps h key) key
  refine ⟨_, ?_, hkeeps⟩
  simp only [fsdDeleteFile, attempt, hnames.filePath, hnames.taDirPath]
  exact Prod.ext (deleteStatus_eq _) rfl

/-! ## Requests -/

/-- A request, and the arrays of its command. -/
structure StorageRequest where
  msg : StorageMessage
  stack : Locals
  empty : cString nul stack.tadirname = []

/-- `FSD_ExecuteCommand`, while no call fails for a reason of its own. -/
def serve (tbstpath : Text) (r : StorageRequest) (fs : Files) : StorageAnswer × Files :=
  fsdExecuteCommand tbstpath {} r.stack r.msg fs

/-- A request and the status of its answer. -/
structure Exchange where
  msg : StorageMessage
  status : McResult

/-- A successful write stores its payload, and a delete makes its key absent. -/
def Exchange.effect (e : Exchange) (held : Contents) : Contents :=
  if e.msg.type = sthMessageTypeWrite ∧ e.status = teeSuccess then
    Function.update held e.msg.key (some e.msg.written)
  else if e.msg.type = sthMessageTypeDelete then Function.update held e.msg.key none
  else held

/-- The last successful write under each key since its last delete. -/
def lastWritten (es : List Exchange) : Contents :=
  es.foldl (fun held e => e.effect held) fun _ => none

/-- Serve requests one after the other. -/
def serveAll (tbstpath : Text) (fs : Files) (rs : List StorageRequest) : List Exchange × Files :=
  rs.foldl (fun (es, fs) r =>
    let (answer, fs') := serve tbstpath r fs
    (es ++ [⟨r.msg, answer.status⟩], fs')) ([], fs)

section Serve

variable {tbstpath : Text} {r : StorageRequest}

theorem serve_read (htype : r.msg.type = sthMessageTypeLook ∨ r.msg.type = sthMessageTypeRead)
    (fs : Files) :
    serve tbstpath r fs =
      (⟨(readPayload {} (storageNames tbstpath r.stack r.msg.key) r.msg fs).1,
        (readPayload {} (storageNames tbstpath r.stack r.msg.key) r.msg fs).2⟩, fs) := by
  unfold serve fsdExecuteCommand
  rcases htype with htype | htype
  · simp only [htype, if_true]
    rfl
  · have hne : sthMessageTypeRead ≠ sthMessageTypeLook := by decide
    simp only [htype, if_neg hne, if_true]
    rfl

theorem serve_write (htype : r.msg.type = sthMessageTypeWrite) (fs : Files) :
    serve tbstpath r fs =
      (⟨(fsdWriteFile {} (storageNames tbstpath r.stack r.msg.key) r.msg fs).1, r.msg.payload⟩,
        (fsdWriteFile {} (storageNames tbstpath r.stack r.msg.key) r.msg fs).2) := by
  have hlook : sthMessageTypeWrite ≠ sthMessageTypeLook := by decide
  have hread : sthMessageTypeWrite ≠ sthMessageTypeRead := by decide
  simp only [serve, fsdExecuteCommand, htype, if_neg hlook, if_neg hread, if_true]

theorem serve_delete (htype : r.msg.type = sthMessageTypeDelete) (fs : Files) :
    serve tbstpath r fs =
      (⟨(fsdDeleteFile {} (storageNames tbstpath r.stack r.msg.key) fs).1, r.msg.payload⟩,
        (fsdDeleteFile {} (storageNames tbstpath r.stack r.msg.key) fs).2) := by
  have hlook : sthMessageTypeDelete ≠ sthMessageTypeLook := by decide
  have hread : sthMessageTypeDelete ≠ sthMessageTypeRead := by decide
  have hwrite : sthMessageTypeDelete ≠ sthMessageTypeWrite := by decide
  simp only [serve, fsdExecuteCommand, htype, if_neg hlook, if_neg hread, if_neg hwrite, if_true]

/-- A request that neither writes nor deletes leaves the files alone. -/
theorem serve_files (hwrite : r.msg.type ≠ sthMessageTypeWrite)
    (hdelete : r.msg.type ≠ sthMessageTypeDelete) (fs : Files) :
    (serve tbstpath r fs).2 = fs := by
  unfold serve fsdExecuteCommand
  simp only [if_neg hwrite, if_neg hdelete]
  split
  · rfl
  · split <;> rfl

theorem serve_keeps (h : Keeps (cString nul tbstpath) held fs) :
    Keeps (cString nul tbstpath)
      (Exchange.effect ⟨r.msg, (serve tbstpath r fs).1.status⟩ held) (serve tbstpath r fs).2 := by
  have hnames := named_of_empty r.empty tbstpath r.msg.key
  have hne : sthMessageTypeDelete ≠ sthMessageTypeWrite := by decide
  unfold Exchange.effect
  by_cases hwrite : r.msg.type = sthMessageTypeWrite
  · have hdelete : r.msg.type ≠ sthMessageTypeDelete := fun heq => hne (heq ▸ hwrite)
    rw [serve_write hwrite]
    have houtcome := fsdWriteFile_spec h hnames
    generalize fsdWriteFile {} (storageNames tbstpath r.stack r.msg.key) r.msg fs = result
      at houtcome ⊢
    cases houtcome with
    | noDirectory =>
        have hfailed : teeErrorStorageNoSpace ≠ teeSuccess := by decide
        rw [if_neg fun hok => hfailed hok.2, if_neg hdelete]
        exact h
    | refused =>
        have hfailed : teeErrorAccessConflict ≠ teeSuccess := by decide
        rw [if_neg fun hok => hfailed hok.2, if_neg hdelete]
        exact h
    | stored hfree fs' hkeeps =>
        rw [if_pos ⟨hwrite, rfl⟩]
        exact hkeeps
  · rw [if_neg fun hok => hwrite hok.1]
    by_cases hdelete : r.msg.type = sthMessageTypeDelete
    · obtain ⟨fs', hdeleted, hkeeps⟩ := fsdDeleteFile_spec h hnames
      rw [if_pos hdelete, serve_delete hdelete, hdeleted]
      exact hkeeps
    · rw [if_neg hdelete, serve_files hwrite hdelete]
      exact h

end Serve

theorem Exchange.effect_of_ne (e : Exchange) {key : StorageKey} (h : key ≠ e.msg.key) :
    e.effect held key = held key := by
  unfold Exchange.effect
  split
  · exact Function.update_of_ne h _ _
  · split
    · exact Function.update_of_ne h _ _
    · rfl

/-- After any requests the files are what was last written. -/
theorem serveAll_keeps (tbstpath : Text) {fs₀ : Files}
    (h₀ : Keeps (cString nul tbstpath) (fun _ => none) fs₀) (rs : List StorageRequest) :
    Keeps (cString nul tbstpath) (lastWritten (serveAll tbstpath fs₀ rs).1)
      (serveAll tbstpath fs₀ rs).2 := by
  induction rs using List.reverseRecOn with
  | nil => exact h₀
  | append_singleton rs r ih =>
      have hlast : serveAll tbstpath fs₀ (rs ++ [r]) =
          ((serveAll tbstpath fs₀ rs).1 ++
            [⟨r.msg, (serve tbstpath r (serveAll tbstpath fs₀ rs).2).1.status⟩],
            (serve tbstpath r (serveAll tbstpath fs₀ rs).2).2) := by
        rw [serveAll, List.foldl_append]
        rfl
      rw [hlast]
      dsimp only
      rw [lastWritten, List.foldl_append]
      exact serve_keeps ih

/-! ## The storage as a map -/

/-- The answer to a request, and the files behind it, are those of a map that holds these
contents. -/
structure BehavesAsMap (root : Text) (held : Contents) (fs : Files) (m : StorageMessage)
    (answer : StorageAnswer) (fs' : Files) : Prop where
  found : m.type = sthMessageTypeLook ∨ m.type = sthMessageTypeRead →
    (answer.status = teeSuccess ↔
      ∃ content ∈ held m.key, m.payloadLen.toNat ≤ content.length)
  returned : m.type = sthMessageTypeLook ∨ m.type = sthMessageTypeRead →
    ∀ content ∈ held m.key, m.payloadLen.toNat ≤ content.length →
      answer.payload = content.take m.payloadLen.toNat ++ m.payload.drop m.payloadLen.toNat
  refused : m.type = sthMessageTypeWrite → m.flags = teeDataFlagExclusive →
    held m.key ≠ none → answer.status = teeErrorAccessConflict ∧ fs' = fs
  deleted : m.type = sthMessageTypeDelete → fs'.node (keyPath root m.key) = none
  kept : ∀ key ≠ m.key, fs'.node (keyPath root key) = fs.node (keyPath root key)

theorem serve_behaves {tbstpath : Text} {r : StorageRequest}
    (h : Keeps (cString nul tbstpath) held fs) :
    BehavesAsMap (cString nul tbstpath) held fs r.msg (serve tbstpath r fs).1
      (serve tbstpath r fs).2 := by
  have hnames := named_of_empty r.empty tbstpath r.msg.key
  have hkeeps := serve_keeps (r := r) h
  have hread := readPayload_spec h hnames
  constructor
  · intro htype
    rw [serve_read htype]
    exact hread.1
  · intro htype
    rw [serve_read htype]
    exact hread.2
  · intro htype hflags hheld
    have houtcome := fsdWriteFile_spec h hnames
    rw [serve_write htype]
    generalize fsdWriteFile {} (storageNames tbstpath r.stack r.msg.key) r.msg fs = result
      at houtcome ⊢
    cases houtcome with
    | noDirectory hnone => exact absurd hnone hheld
    | refused => exact ⟨rfl, rfl⟩
    | stored hfree => exact absurd (hfree hflags) hheld
  · intro htype
    have hne : sthMessageTypeDelete ≠ sthMessageTypeWrite := by decide
    rw [hkeeps.files, Exchange.effect, if_neg fun hok => hne (htype ▸ hok.1), if_pos htype,
      Function.update_self]
    rfl
  · intro key hkey
    rw [hkeeps.files, Exchange.effect_of_ne _ hkey, h.files]

/-- From a storage in which no application has a directory: after any requests, the next
one is answered as by a map that holds under each key the last successful write since its
last delete, and leaves every other key alone. -/
theorem behavesAsMap (tbstpath : Text) {fs₀ : Files}
    (h₀ : ∀ key, fs₀.node (taDirectory (cString nul tbstpath) key) = none)
    (rs : List StorageRequest) (r : StorageRequest) :
    BehavesAsMap (cString nul tbstpath) (lastWritten (serveAll tbstpath fs₀ rs).1)
      (serveAll tbstpath fs₀ rs).2 r.msg (serve tbstpath r (serveAll tbstpath fs₀ rs).2).1
      (serve tbstpath r (serveAll tbstpath fs₀ rs).2).2 := by
  apply serve_behaves
  apply serveAll_keeps
  have hnone : ∀ p key, dirname p = taDirectory (cString nul tbstpath) key →
      fs₀.node p = none := by
    intro p key hp
    by_contra hnode
    have hdir := fs₀.node_parent hnode
    rw [hp, h₀] at hdir
    cases hdir
  constructor
  · exact fun key => hnone _ key (dirname_keyPath _ key)
  · exact fun key => Or.inl (h₀ key)
  · intro key
    rw [hnone _ key (dirname_tempPath _ key)]
    exact fun heq => by cases heq

/-- A storage directory with nothing in it. -/
def emptyStorage : Files :=
  (Tree.top [] (by decide)).put "/TbStorage".toList .dir (by decide) (fun _ => by rfl)

theorem emptyStorage_taDirectory (key : StorageKey) :
    emptyStorage.node (taDirectory (cString nul "/TbStorage".toList) key) = none := by
  have hroot : cString nul "/TbStorage".toList = "/TbStorage".toList := by decide
  have hlength : 10 < (taDirectory "/TbStorage".toList key).length := by
    rw [taDirectory, List.length_append, List.length_cons]
    exact Nat.lt_of_lt_of_le (by decide : 10 < "/TbStorage".toList.length + 1) (by omega)
  rw [hroot, emptyStorage, Tree.node_put, Tree.node_top, if_neg, if_neg]
  · intro heq
    rw [heq] at hlength
    exact absurd hlength (by decide)
  · intro heq
    rw [heq] at hlength
    exact absurd hlength (by decide)

/-- A request for three bytes of one file of one application, or to write them. -/
def threeBytes (type : UInt8) (payload : List UInt8) (h : 3 ≤ payload.length) :
    StorageRequest where
  msg :=
    { status := 0
      type := type
      flags := 0
      payloadLen := 3
      key := { uuid := ⟨List.replicate 16 7, rfl⟩, filename := ⟨List.replicate 20 9, rfl⟩ }
      payload := payload
      fits := h }
  stack :=
    { tadirname := []
      filename := []
      taDirPath := []
      filePath := []
      filePathNew := [] }
  empty := rfl

theorem behavesAsMap_threeBytes :
    BehavesAsMap "/TbStorage".toList
      (lastWritten (serveAll "/TbStorage".toList emptyStorage
        [threeBytes sthMessageTypeWrite [1, 2, 3] (by decide)]).1)
      (serveAll "/TbStorage".toList emptyStorage
        [threeBytes sthMessageTypeWrite [1, 2, 3] (by decide)]).2
      (threeBytes sthMessageTypeRead [0, 0, 0, 0] (by decide)).msg
      (serve "/TbStorage".toList (threeBytes sthMessageTypeRead [0, 0, 0, 0] (by decide))
        (serveAll "/TbStorage".toList emptyStorage
          [threeBytes sthMessageTypeWrite [1, 2, 3] (by decide)]).2).1
      (serve "/TbStorage".toList (threeBytes sthMessageTypeRead [0, 0, 0, 0] (by decide))
        (serveAll "/TbStorage".toList emptyStorage
          [threeBytes sthMessageTypeWrite [1, 2, 3] (by decide)]).2).2 :=
  behavesAsMap "/TbStorage".toList emptyStorage_taDirectory _ _

end SecureStorage

end Exynos8890.MobiCore
