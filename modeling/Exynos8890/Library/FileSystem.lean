import Mathlib.Data.List.AList
import Mathlib.Tactic

/-!
# A tree of directories and files

A file system as a finite map from paths to nodes, in which everything lies in a
directory.  The operations are the system calls: each of them says what fails, and leaves
the tree as it is when it fails.

Main results:

- Structure `Tree`: a finite map of paths in which the parent of a path is a directory.
- Theorems `node_create`, `node_write`, `node_rmdir` and `node_renameFile`: what a path
  holds after a call that succeeds.
- Theorems `content_write`, `content_remove` and `content_renameFile`: what a file holds then.
- Theorems `create_eq_ok_iff`, `write_eq_ok_iff`, `remove_eq_ok_iff` and `renameFile_eq_ok`:
  when a call succeeds.
-/

universe u

namespace FileSystem

/-- What a path holds. -/
inductive Node where
  | dir
  | file (content : List UInt8)
deriving DecidableEq, Repr

/-- Why a call fails. -/
inductive Errno where
  | enoent
  | eexist
  | enotdir
  | eisdir
  | enotempty
  | ebusy
  | eio
deriving DecidableEq, Repr

variable {P : Type u} [DecidableEq P]

/-- A file system: everything in it lies in a directory. -/
structure Tree (parent : P → P) where
  nodes : AList fun _ : P => Node
  inDirectory : ∀ p ∈ nodes, nodes.lookup (parent p) = some .dir

namespace Tree

variable {parent : P → P}

/-- What a path holds. -/
def node (fs : Tree parent) (p : P) : Option Node :=
  fs.nodes.lookup p

theorem mem_nodes_iff (fs : Tree parent) (p : P) : p ∈ fs.nodes ↔ fs.node p ≠ none := by
  rw [node, ne_eq, AList.lookup_eq_none, not_not]

theorem node_parent (fs : Tree parent) {p : P} (h : fs.node p ≠ none) :
    fs.node (parent p) = some .dir :=
  fs.inDirectory p ((fs.mem_nodes_iff p).mpr h)

/-- The directory holds nothing. -/
def Vacant (fs : Tree parent) (p : P) : Prop :=
  ∀ q ∈ fs.nodes.keys, q ≠ p → parent q ≠ p

instance (fs : Tree parent) (p : P) : Decidable (fs.Vacant p) :=
  inferInstanceAs (Decidable (∀ q ∈ fs.nodes.keys, _))

theorem vacant_of_forall {fs : Tree parent} {p : P}
    (h : ∀ q, q ≠ p → parent q = p → fs.node q = none) : fs.Vacant p := by
  intro q hq hne hparent
  exact (fs.mem_nodes_iff q).mp (AList.mem_keys.mpr hq) (h q hne hparent)

/-! ## Putting and dropping nodes -/

/-- Put a node at a path: in a directory, and a directory stays one. -/
def put (fs : Tree parent) (p : P) (n : Node) (hparent : fs.node (parent p) = some .dir)
    (hdir : fs.node p = some .dir → n = .dir) : Tree parent where
  nodes := fs.nodes.insert p n
  inDirectory := by
    intro q hq
    have hq : fs.node (parent q) = some .dir := by
      rcases (AList.mem_insert _).mp hq with rfl | hq
      · exact hparent
      · exact fs.inDirectory q hq
    by_cases hp : parent q = p
    · rw [hp, AList.lookup_insert, hdir (hp ▸ hq)]
    · rw [AList.lookup_insert_ne hp]
      exact hq

@[simp]
theorem node_put (fs : Tree parent) (p q : P) (n : Node) (hparent hdir) :
    (fs.put p n hparent hdir).node q = if q = p then some n else fs.node q := by
  split
  · rename_i h
    rw [h]
    exact AList.lookup_insert _
  · rename_i h
    exact AList.lookup_insert_ne h

/-- The file system that holds its root directory alone. -/
def top (root : P) (h : parent root = root) : Tree parent where
  nodes := (∅ : AList fun _ : P => Node).insert root .dir
  inDirectory := by
    intro p hp
    rcases (AList.mem_insert _).mp hp with rfl | hp
    · rw [h]
      exact AList.lookup_insert _
    · exact absurd hp (AList.notMem_empty p)

@[simp]
theorem node_top (root q : P) (h : parent root = root) :
    (top root h).node q = if q = root then some .dir else none := by
  split
  · rename_i hq
    rw [hq]
    exact AList.lookup_insert _
  · rename_i hq
    exact AList.lookup_insert_ne hq

/-- Drop a path that holds nothing below it. -/
def drop (fs : Tree parent) (p : P) (hvacant : fs.Vacant p) : Tree parent where
  nodes := fs.nodes.erase p
  inDirectory := by
    intro q hq
    obtain ⟨hne, hq⟩ := AList.mem_erase.mp hq
    have hp : parent q ≠ p := hvacant q (AList.mem_keys.mp hq) hne
    rw [AList.lookup_erase_ne hp]
    exact fs.inDirectory q hq

@[simp]
theorem node_drop (fs : Tree parent) (p q : P) (hvacant) :
    (fs.drop p hvacant).node q = if q = p then none else fs.node q := by
  split
  · rename_i h
    rw [h]
    exact AList.lookup_erase p _
  · rename_i h
    exact AList.lookup_erase_ne h

theorem vacant_of_file {fs : Tree parent} {p : P} {content : List UInt8}
    (h : fs.node p = some (.file content)) : fs.Vacant p := by
  apply vacant_of_forall
  intro q _ hparent
  by_contra hnode
  have hdir := fs.node_parent hnode
  rw [hparent, h] at hdir
  cases hdir

/-! ## Calls that create -/

/-- Why nothing can be created at a path: its parent is no directory. -/
def parentError (fs : Tree parent) (p : P) : Errno :=
  match fs.node (parent p) with
  | none => .enoent
  | some _ => .enotdir

/-- Create a node where there is none. -/
def create (n : Node) (p : P) (fs : Tree parent) : Except Errno (Tree parent) :=
  if hnone : fs.node p = none then
    if hparent : fs.node (parent p) = some .dir then
      .ok (fs.put p n hparent fun hdir => absurd (hnone.symm.trans hdir) (by simp))
    else .error (fs.parentError p)
  else .error .eexist

/-- `mkdir`. -/
def mkdir (p : P) (fs : Tree parent) : Except Errno (Tree parent) :=
  fs.create .dir p

/-- `open` with `O_CREAT | O_EXCL`. -/
def openExcl (p : P) (fs : Tree parent) : Except Errno (Tree parent) :=
  fs.create (.file []) p

/-- A file is created or emptied, and holds these bytes. -/
def write (p : P) (bytes : List UInt8) (fs : Tree parent) : Except Errno (Tree parent) :=
  if hdir : fs.node p = some .dir then .error .eisdir
  else if hparent : fs.node (parent p) = some .dir then
    .ok (fs.put p (.file bytes) hparent fun h => absurd h hdir)
  else .error (fs.parentError p)

theorem node_create {fs fs' : Tree parent} {n : Node} {p : P} (h : fs.create n p = .ok fs')
    (q : P) : fs'.node q = if q = p then some n else fs.node q := by
  unfold create at h
  split at h
  · split at h
    · cases h
      exact node_put fs p q n _ _
    · cases h
  · cases h

theorem create_eq_ok_iff (fs : Tree parent) (n : Node) (p : P) :
    (∃ fs', fs.create n p = .ok fs') ↔ fs.node p = none ∧ fs.node (parent p) = some .dir := by
  unfold create
  split
  · rename_i hnone
    split
    · rename_i hparent
      exact iff_of_true ⟨_, rfl⟩ ⟨hnone, hparent⟩
    · rename_i hparent
      apply iff_of_false
      · rintro ⟨fs', h⟩
        cases h
      · exact fun h => hparent h.2
  · rename_i hsome
    apply iff_of_false
    · rintro ⟨fs', h⟩
      cases h
    · exact fun h => hsome h.1

theorem create_eq_eexist {fs : Tree parent} {p : P} (h : fs.node p ≠ none) (n : Node) :
    fs.create n p = .error .eexist :=
  dif_neg h

theorem create_ne_eexist {fs : Tree parent} {p : P} (h : fs.node p = none) (n : Node) :
    fs.create n p ≠ .error .eexist := by
  unfold create
  rw [dif_pos h]
  split
  · exact fun heq => by cases heq
  · unfold parentError
    split
    · exact fun heq => by cases heq
    · exact fun heq => by cases heq

theorem node_write {fs fs' : Tree parent} {p : P} {bytes : List UInt8}
    (h : fs.write p bytes = .ok fs') (q : P) :
    fs'.node q = if q = p then some (.file bytes) else fs.node q := by
  unfold write at h
  split at h
  · cases h
  · split at h
    · cases h
      exact node_put fs p q _ _ _
    · cases h

theorem write_eq_ok_iff (fs : Tree parent) (p : P) (bytes : List UInt8) :
    (∃ fs', fs.write p bytes = .ok fs') ↔
      fs.node p ≠ some .dir ∧ fs.node (parent p) = some .dir := by
  unfold write
  split
  · rename_i hdir
    apply iff_of_false
    · rintro ⟨fs', h⟩
      cases h
    · exact fun h => h.1 hdir
  · rename_i hdir
    split
    · rename_i hparent
      exact iff_of_true ⟨_, rfl⟩ ⟨hdir, hparent⟩
    · rename_i hparent
      apply iff_of_false
      · rintro ⟨fs', h⟩
        cases h
      · exact fun h => hparent h.2

/-! ## Reading -/

/-- `fopen` for reading and `fread` to the end: a directory can be opened, and nothing can
be read from it. -/
def openRead (p : P) (fs : Tree parent) : Except Errno (List UInt8) :=
  match fs.node p with
  | none => .error .enoent
  | some .dir => .ok []
  | some (.file content) => .ok content

/-! ## Calls that remove -/

/-- `unlink`. -/
def unlink (p : P) (fs : Tree parent) : Except Errno (Tree parent) :=
  match h : fs.node p with
  | none => .error .enoent
  | some .dir => .error .eisdir
  | some (.file _) => .ok (fs.drop p (vacant_of_file h))

/-- `rmdir`. -/
def rmdir (p : P) (fs : Tree parent) : Except Errno (Tree parent) :=
  match fs.node p with
  | none => .error .enoent
  | some (.file _) => .error .enotdir
  | some .dir =>
      if parent p = p then .error .ebusy
      else if hvacant : fs.Vacant p then .ok (fs.drop p hvacant)
      else .error .enotempty

/-- `remove`. -/
def remove (p : P) (fs : Tree parent) : Except Errno (Tree parent) :=
  match fs.node p with
  | some .dir => fs.rmdir p
  | _ => fs.unlink p

theorem unlink_eq_ok {fs : Tree parent} {p : P} {content : List UInt8}
    (h : fs.node p = some (.file content)) :
    fs.unlink p = .ok (fs.drop p (vacant_of_file h)) := by
  unfold unlink
  split
  · rename_i hnone
    exact absurd (h.symm.trans hnone) (by simp)
  · rename_i hdir
    exact absurd (h.symm.trans hdir) (by simp)
  · rfl

/-- What a path holds after a directory has been removed: it was empty. -/
theorem node_rmdir {fs fs' : Tree parent} {p : P} (h : fs.rmdir p = .ok fs') (q : P) :
    fs'.node q = if q = p then none else fs.node q := by
  unfold rmdir at h
  split at h
  · cases h
  · cases h
  · split at h
    · cases h
    · split at h
      · cases h
        exact node_drop fs p q _
      · cases h

theorem rmdir_eq_ok {fs : Tree parent} {p : P} (hdir : fs.node p = some .dir) (hp : parent p ≠ p)
    (hvacant : ∀ q, q ≠ p → parent q = p → fs.node q = none) : ∃ fs', fs.rmdir p = .ok fs' := by
  unfold rmdir
  rw [hdir]
  simp only [if_neg hp, dif_pos (vacant_of_forall hvacant)]
  exact ⟨_, rfl⟩

theorem node_remove {fs fs' : Tree parent} {p : P} (h : fs.remove p = .ok fs') (q : P) :
    fs'.node q = if q = p then none else fs.node q := by
  unfold remove at h
  split at h
  · exact node_rmdir h q
  · unfold unlink at h
    split at h
    · cases h
    · cases h
    · cases h
      exact node_drop fs p q _

theorem remove_eq_ok {fs : Tree parent} {p : P} {content : List UInt8}
    (h : fs.node p = some (.file content)) : ∃ fs', fs.remove p = .ok fs' := by
  refine ⟨fs.drop p (vacant_of_file h), ?_⟩
  unfold remove
  rw [h]
  exact unlink_eq_ok h

theorem remove_eq_enoent {fs : Tree parent} {p : P} (h : fs.node p = none) :
    fs.remove p = .error .enoent := by
  unfold remove
  rw [h]
  dsimp only
  unfold unlink
  split
  · rfl
  · rename_i hdir
    exact absurd (h.symm.trans hdir) (by simp)
  · rename_i hfile
    exact absurd (h.symm.trans hfile) (by simp)

/-- Something is there that `remove` can take away: nothing lies in it. -/
def Removable (fs : Tree parent) (p : P) : Prop :=
  fs.node p ≠ none ∧ parent p ≠ p ∧ ∀ q, q ≠ p → parent q = p → fs.node q = none

theorem forall_none_of_vacant {fs : Tree parent} {p : P} (h : fs.Vacant p) :
    ∀ q, q ≠ p → parent q = p → fs.node q = none := by
  intro q hne hparent
  by_contra hnode
  exact h q (AList.mem_keys.mpr ((fs.mem_nodes_iff q).mpr hnode)) hne hparent

theorem removable_of_file {fs : Tree parent} {p : P} {content : List UInt8}
    (h : fs.node p = some (.file content)) : fs.Removable p := by
  refine ⟨by simp [h], fun hp => ?_, forall_none_of_vacant (vacant_of_file h)⟩
  have hdir := fs.node_parent (p := p) (by simp [h])
  rw [hp, h] at hdir
  cases hdir

theorem rmdir_eq_ok_iff {fs : Tree parent} {p : P} (hdir : fs.node p = some .dir) :
    (∃ fs', fs.rmdir p = .ok fs') ↔ fs.Removable p := by
  constructor
  · rintro ⟨fs', h⟩
    unfold rmdir at h
    rw [hdir] at h
    dsimp only at h
    split at h
    · cases h
    · next hp =>
        split at h
        · next hvacant => exact ⟨by simp [hdir], hp, forall_none_of_vacant hvacant⟩
        · cases h
  · exact fun h => rmdir_eq_ok hdir h.2.1 h.2.2

/-- When `remove` succeeds. -/
theorem remove_eq_ok_iff (fs : Tree parent) (p : P) :
    (∃ fs', fs.remove p = .ok fs') ↔ fs.Removable p := by
  cases hnode : fs.node p with
  | none =>
      rw [remove_eq_enoent hnode]
      apply iff_of_false
      · rintro ⟨fs', h⟩
        cases h
      · exact fun h => h.1 hnode
  | some node =>
      cases node with
      | dir =>
          have hrmdir : fs.remove p = fs.rmdir p := by rw [remove, hnode]
          rw [hrmdir]
          exact rmdir_eq_ok_iff hnode
      | file content => exact iff_of_true (remove_eq_ok hnode) (removable_of_file hnode)

/-! ## Renaming -/

/-- `rename` of a file.  Directories are not moved. -/
def renameFile (src dst : P) (fs : Tree parent) : Except Errno (Tree parent) :=
  match hsrc : fs.node src with
  | none => .error .enoent
  | some .dir => .error .eisdir
  | some (.file content) => (fs.drop src (vacant_of_file hsrc)).write dst content

theorem node_renameFile {fs fs' : Tree parent} {src dst : P}
    (h : fs.renameFile src dst = .ok fs') (q : P) :
    fs'.node q = if q = dst then fs.node src else if q = src then none else fs.node q := by
  unfold renameFile at h
  split at h
  · cases h
  · cases h
  · rename_i content hsrc
    rw [node_write h, node_drop, hsrc]

/-- A file can be renamed within a directory, if no directory has the new name. -/
theorem renameFile_eq_ok {fs : Tree parent} {src dst : P} {content : List UInt8}
    (hsrc : fs.node src = some (.file content)) (hdst : fs.node dst ≠ some .dir)
    (hparent : fs.node (parent dst) = some .dir) : ∃ fs', fs.renameFile src dst = .ok fs' := by
  have hne : ∀ q, fs.node q = some .dir → q ≠ src := by
    intro q hq heq
    rw [heq, hsrc] at hq
    cases hq
  have hwrite : ∃ fs', (fs.drop src (vacant_of_file hsrc)).write dst content = .ok fs' := by
    apply (write_eq_ok_iff _ _ _).mpr
    rw [node_drop, node_drop, if_neg (hne _ hparent)]
    refine ⟨?_, hparent⟩
    split
    · simp
    · exact hdst
  obtain ⟨fs', h⟩ := hwrite
  refine ⟨fs', ?_⟩
  unfold renameFile
  split
  · rename_i hnone
    exact absurd (hsrc.symm.trans hnone) (by simp)
  · rename_i hdir
    exact absurd (hsrc.symm.trans hdir) (by simp)
  · rename_i content' hsrc'
    cases hsrc.symm.trans hsrc'
    exact h

theorem node_ne_dir_of_renameFile {fs fs' : Tree parent} {src dst : P} (hne : dst ≠ src)
    (h : fs.renameFile src dst = .ok fs') : fs.node dst ≠ some .dir := by
  unfold renameFile at h
  split at h
  · cases h
  · cases h
  · have hdst := ((write_eq_ok_iff _ _ _).mp ⟨fs', h⟩).1
    rw [node_drop, if_neg hne] at hdst
    exact hdst

/-! ## Contents -/

/-- What the file holds, if there is one. -/
def content (fs : Tree parent) (p : P) : Option (List UInt8) :=
  match fs.node p with
  | some (.file bytes) => some bytes
  | _ => none

theorem content_eq_some_iff {fs : Tree parent} {p : P} {bytes : List UInt8} :
    fs.content p = some bytes ↔ fs.node p = some (.file bytes) := by
  unfold content
  split
  · rename_i hnode
    simp [hnode]
  · rename_i hnode
    exact iff_of_false (by simp) (hnode bytes)

theorem content_congr {fs fs' : Tree parent} {p : P} (h : fs'.node p = fs.node p) :
    fs'.content p = fs.content p := by
  unfold content
  rw [h]

theorem content_mkdir {fs fs' : Tree parent} {p : P} (h : fs.mkdir p = .ok fs') (q : P) :
    fs'.content q = fs.content q := by
  have hnone := ((create_eq_ok_iff fs .dir p).mp ⟨fs', h⟩).1
  by_cases hq : q = p
  · simp [content, node_create h, hq, hnone]
  · exact content_congr (by rw [node_create h, if_neg hq])

theorem content_rmdir {fs fs' : Tree parent} {p : P} (h : fs.rmdir p = .ok fs') (q : P) :
    fs'.content q = fs.content q := by
  by_cases hq : q = p
  · have hdir : fs.node p = some .dir := by
      unfold rmdir at h
      split at h
      · cases h
      · cases h
      · assumption
    simp [content, node_rmdir h, hq, hdir]
  · exact content_congr (by rw [node_rmdir h, if_neg hq])

theorem content_openExcl {fs fs' : Tree parent} {p : P} (h : fs.openExcl p = .ok fs') (q : P) :
    fs'.content q = if q = p then some [] else fs.content q := by
  by_cases hq : q = p
  · simp [content, node_create h, hq]
  · simp [content, node_create h, hq]

theorem content_write {fs fs' : Tree parent} {p : P} {bytes : List UInt8}
    (h : fs.write p bytes = .ok fs') (q : P) :
    fs'.content q = if q = p then some bytes else fs.content q := by
  by_cases hq : q = p
  · simp [content, node_write h, hq]
  · simp [content, node_write h, hq]

theorem content_remove {fs fs' : Tree parent} {p : P} (h : fs.remove p = .ok fs') (q : P) :
    fs'.content q = if q = p then none else fs.content q := by
  by_cases hq : q = p
  · simp [content, node_remove h, hq]
  · simp [content, node_remove h, hq]

theorem content_renameFile {fs fs' : Tree parent} {src dst : P}
    (h : fs.renameFile src dst = .ok fs') (q : P) :
    fs'.content q =
      if q = dst then fs.content src else if q = src then none else fs.content q := by
  by_cases hdst : q = dst
  · simp [content, node_renameFile h, hdst]
  · have hnode := node_renameFile h q
    rw [if_neg hdst] at hnode ⊢
    by_cases hsrc : q = src
    · rw [if_pos hsrc] at hnode ⊢
      simp [content, hnode]
    · rw [if_neg hsrc] at hnode ⊢
      exact content_congr hnode

end Tree

end FileSystem
