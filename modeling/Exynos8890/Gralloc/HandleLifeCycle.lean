import Exynos8890.Gralloc.Mapper
import Exynos8890.Library.KeyedList
import Exynos8890.Library.TransitionSystem

/-!
# The life of a buffer handle

A process imports the planes of a buffer into its ion client when it registers
the buffer, and frees them when it unregisters the buffer.  The kernel counts
references, so importing a buffer twice gives one ion handle with two
references.

Main results:

- Definitions `grallocRegisterBuffer`, `grallocUnregisterBuffer`,
  `grallocLock` and `grallocUnlock`.
- Definition `HandleSystem`: every sequence of calls in any number of processes.
- Theorem `handlesBalanced_run`: runs in which every call keeps the account of
  the references.
-/

namespace Exynos8890
namespace Gralloc

open MachineInt

/-! ## The calls -/

/-- What `ion_import` answers; ion numbers its handles from one. -/
inductive ImportAnswer
  | failed (errno : Nat)
  | imported (n : Nat)
  deriving DecidableEq, Repr

namespace ImportAnswer

/-- The ion handle that an import obtains. -/
def obtained : ImportAnswer → Option Int
  | failed _ => none
  | imported n => some (n + 1)

/-- The status of an import. -/
def status : ImportAnswer → Int
  | failed errno => -(errno + 1)
  | imported _ => 0

/-- The field that the import writes to, unless it fails. -/
def store (answer : ImportAnswer) (field : Int) : Int :=
  answer.obtained.getD field

end ImportAnswer

/-- The answers for the planes of a buffer. -/
structure ImportAnswers where
  plane0 : ImportAnswer
  plane1 : ImportAnswer
  plane2 : ImportAnswer
  deriving DecidableEq, Repr

/-- `gralloc_register_buffer`: status, handle and the imports that it made.  The
status is the one of the last import. -/
def grallocRegisterBuffer (answers : ImportAnswers) (hnd : PrivateHandle) :
    Int × PrivateHandle × List ImportAnswer :=
  let ret := answers.plane0.status
  let made := [answers.plane0]
  let hnd := { hnd with handle := answers.plane0.store hnd.handle }
  let (ret, hnd, made) :=
    if 0 ≤ hnd.fd1 then
      (answers.plane1.status,
        { hnd with handle1 := answers.plane1.store hnd.handle1 },
        made ++ [answers.plane1])
    else (ret, hnd, made)
  if 0 ≤ hnd.fd2 then
    (answers.plane2.status,
      { hnd with handle2 := answers.plane2.store hnd.handle2 },
      made ++ [answers.plane2])
  else (ret, hnd, made)

/-- The ion handles that are stored in a handle; zero stands for none. -/
def PrivateHandle.stored (hnd : PrivateHandle) : List Int :=
  [hnd.handle, hnd.handle1, hnd.handle2].filter (· ≠ 0)

/-- `gralloc_unregister_buffer`: handle and the calls of `ion_free`.  The fields
keep what was freed. -/
def grallocUnregisterBuffer (abi : Abi) (hnd : PrivateHandle) :
    Option (PrivateHandle × List Int) := do
  let (hnd, _) ← grallocUnmap abi hnd
  some (hnd, hnd.stored)

/-- `gralloc_lock`: handle and the addresses of the planes. -/
def grallocLock (abi : Abi) (mmap : MmapAnswers) (hnd : PrivateHandle) :
    Option (PrivateHandle × List Nat) := do
  let hnd ←
    if hnd.base = 0 then do
      let (_, hnd, _) ← grallocMap abi mmap hnd
      some hnd
    else some hnd
  some (hnd, hnd.base ::
    ((if 0 ≤ hnd.fd1 then [hnd.base1] else []) ++
      if 0 ≤ hnd.fd2 then [hnd.base2] else []))

/-- `gralloc_unlock`: the descriptors that are synchronized. -/
def grallocUnlock (bits : UsageBits) (hnd : PrivateHandle) : List Int :=
  if hnd.flags &&& bits.swReadMask = bits.swReadOften then hnd.descriptors else []

/-! ## Processes -/

/-- A handle of a process.  It is registered from a call of
`gralloc_register_buffer` on until the next call of
`gralloc_unregister_buffer`. -/
structure Buffer where
  name : Nat
  pid : Nat
  hnd : PrivateHandle
  registered : Bool
  deriving DecidableEq

/-- The handles of all processes and the references of their ion clients, with a
record of the statuses that registering returned. -/
structure Handles where
  buffers : List Buffer
  live : List (Nat × Int)
  stale : Bool
  results : List (Int × List ImportAnswer)
  deriving DecidableEq

/-- No handle exists. -/
def Handles.init : Handles where
  buffers := []
  live := []
  stale := false
  results := []

/-- `ion_free`; `stale` records a handle that the client does not hold. -/
def Handles.ionFree (pid : Nat) (s : Handles) (handle : Int) : Handles :=
  if (pid, handle) ∈ s.live then { s with live := s.live.erase (pid, handle) }
  else { s with stale := true }

/-- Calls of `ion_free`, one after another. -/
def Handles.ionFreeAll (pid : Nat) (s : Handles) (handles : List Int) : Handles :=
  handles.foldl (Handles.ionFree pid) s

/-- Find a handle. -/
def Handles.lookup (s : Handles) (name : Nat) : Option Buffer :=
  KeyedList.lookup Buffer.name name s.buffers

/-- Change a handle. -/
def Handles.update (s : Handles) (name : Nat) (f : Buffer → Buffer) : Handles :=
  { s with buffers := KeyedList.update Buffer.name name f s.buffers }

/-- One call, or a handle that is received from another process. -/
inductive HandleLabel
  | alloc (name pid : Nat) (w h : Int) (format : PixelFormat) (usage : UInt32)
      (answers : IonAnswers)
  | receive (source name pid : Nat) (fd fd1 fd2 : Int)
  | register (name : Nat) (answers : ImportAnswers)
  | lock (name : Nat) (mmap : MmapAnswers)
  | unlock (name : Nat)
  | unregister (name : Nat)
  | free (name : Nat)

variable (p : Platform)

/-- A received handle has new descriptors and the integers of its source, the
addresses and ion handles of the sender included. -/
def Buffer.received (source : Buffer) (name pid : Nat) (fd fd1 fd2 : Int) : Buffer where
  name := name
  pid := pid
  hnd := { source.hnd with fd := fd, fd1 := fd1, fd2 := fd2 }
  registered := false

/-- Unregister a buffer in its process. -/
def Handles.unregister (s : Handles) (b : Buffer) : Option Handles := do
  let (hnd, freed) ← grallocUnregisterBuffer p.abi b.hnd
  some ((s.update b.name fun b => { b with hnd, registered := false }).ionFreeAll
    b.pid freed)

/-- One step.  A call on a handle that does not exist, or one in which an `int`
computation overflows, is not enabled. -/
def handleStep (s : Handles) : HandleLabel → Option Handles
  | .alloc name pid w h format usage answers =>
      if name ∈ s.buffers.map Buffer.name then none
      else do
        match ← grallocAlloc p answers w h format usage ⟨0, []⟩ with
        | (.error _, _) => some s
        | (.ok (hnd, _), _) =>
            some { s with buffers := s.buffers ++ [⟨name, pid, hnd, false⟩] }
  | .receive source name pid fd fd1 fd2 =>
      if name ∈ s.buffers.map Buffer.name then none
      else do
        let b ← s.lookup source
        if (0 ≤ fd1 ↔ 0 ≤ b.hnd.fd1) ∧ (0 ≤ fd2 ↔ 0 ≤ b.hnd.fd2) then
          some { s with buffers := s.buffers ++ [b.received name pid fd fd1 fd2] }
        else none
  | .register name answers => do
      let b ← s.lookup name
      let (status, hnd, made) := grallocRegisterBuffer answers b.hnd
      some { s.update name fun b => { b with hnd, registered := true } with
        live := (made.filterMap ImportAnswer.obtained).map (b.pid, ·) ++ s.live
        results := (status, made) :: s.results }
  | .lock name mmap => do
      let b ← s.lookup name
      let (hnd, _) ← grallocLock p.abi mmap b.hnd
      some (s.update name fun b => { b with hnd })
  | .unlock name => do
      let _ ← s.lookup name
      some s
  | .unregister name => do
      let b ← s.lookup name
      s.unregister p b
  | .free name => do
      let b ← s.lookup name
      let s ← s.unregister p b
      some { s with buffers := KeyedList.delete Buffer.name name s.buffers }

/-- All sequences of calls. -/
def HandleSystem : TransitionSystem Handles HandleLabel where
  step := handleStep p

/-! ## The property -/

/-- The references that a handle stands for. -/
def Buffer.held (b : Buffer) : List (Nat × Int) :=
  if b.registered then b.hnd.stored.map (b.pid, ·) else []

/-- Every reference that an import obtained is held by one registered handle or
has been freed, once, and registering succeeds only with all its imports. -/
structure HandlesBalanced (s : Handles) : Prop where
  freedOnce : s.stale = false
  accounted : ∀ r, s.live.count r = (s.buffers.map fun b => b.held.count r).sum
  truthful : ∀ result ∈ s.results, result.1 = 0 →
    ∀ answer ∈ result.2, answer.obtained ≠ none

/-! ## Calls that keep the account -/

/-- The imports that registering makes, each with the field that it writes to. -/
def importsOf (answers : ImportAnswers) (hnd : PrivateHandle) :
    List (ImportAnswer × Int) :=
  (answers.plane0, hnd.handle) ::
    ((if 0 ≤ hnd.fd1 then [(answers.plane1, hnd.handle1)] else []) ++
      if 0 ≤ hnd.fd2 then [(answers.plane2, hnd.handle2)] else [])

/-- If an import fails, its field is zero and the last import fails, too. -/
structure FailsCleanly (imports : List (ImportAnswer × Int)) : Prop where
  fields : ∀ i ∈ imports, i.1.obtained = none → i.2 = 0
  last : ∀ i ∈ imports, i.1.obtained = none →
    ∃ j ∈ imports.getLast?, j.1.obtained = none

instance (imports : List (ImportAnswer × Int)) : Decidable (FailsCleanly imports) :=
  decidable_of_iff
    ((∀ i ∈ imports, i.1.obtained = none → i.2 = 0) ∧
      ∀ i ∈ imports, i.1.obtained = none → ∃ j ∈ imports.getLast?, j.1.obtained = none)
    ⟨fun h => ⟨h.1, h.2⟩, fun h => ⟨h.fields, h.last⟩⟩

/-- A buffer is registered while it is not, and its imports fail cleanly; it is
unregistered and freed while it is registered or has no ion handles. -/
def KeepsAccount (s : Handles) : HandleLabel → Prop
  | .register name answers => ∀ b ∈ s.lookup name,
      b.registered = false ∧ FailsCleanly (importsOf answers b.hnd)
  | .unregister name => ∀ b ∈ s.lookup name, b.registered = true ∨ b.hnd.stored = []
  | .free name => ∀ b ∈ s.lookup name, b.registered = true ∨ b.hnd.stored = []
  | _ => True

instance (s : Handles) (label : HandleLabel) : Decidable (KeepsAccount s label) :=
  match label with
  | .register name answers => inferInstanceAs (Decidable (∀ b ∈ s.lookup name,
      b.registered = false ∧ FailsCleanly (importsOf answers b.hnd)))
  | .unregister name => inferInstanceAs (Decidable (∀ b ∈ s.lookup name,
      b.registered = true ∨ b.hnd.stored = []))
  | .free name => inferInstanceAs (Decidable (∀ b ∈ s.lookup name,
      b.registered = true ∨ b.hnd.stored = []))
  | .alloc .. | .receive .. | .lock .. | .unlock .. => isTrue trivial

/-! ## Single calls -/

theorem ImportAnswer.filter_store {answer : ImportAnswer} {field : Int}
    (h : answer.obtained = none → field = 0) :
    [answer.store field].filter (· ≠ 0) = [answer].filterMap ImportAnswer.obtained := by
  cases answer with
  | failed errno => simp [ImportAnswer.store, ImportAnswer.obtained, h rfl]
  | imported n =>
      have hne : ((n : Int) + 1) ≠ 0 := by omega
      simp [ImportAnswer.store, ImportAnswer.obtained, hne]

theorem ImportAnswer.obtained_of_status {answer : ImportAnswer}
    (h : answer.status = 0) : answer.obtained ≠ none := by
  cases answer with
  | failed errno =>
      simp only [ImportAnswer.status] at h
      omega
  | imported n => simp [ImportAnswer.obtained]

/-- A plane that the buffer does not have has no ion handle. -/
structure PrivateHandle.Plain (hnd : PrivateHandle) : Prop where
  handle1 : ¬ 0 ≤ hnd.fd1 → hnd.handle1 = 0
  handle2 : ¬ 0 ≤ hnd.fd2 → hnd.handle2 = 0

/-- Two handles with the same ion handles for the same planes. -/
structure PrivateHandle.SameIon (x hnd : PrivateHandle) : Prop where
  fd1 : x.fd1 = hnd.fd1
  fd2 : x.fd2 = hnd.fd2
  stored : x.stored = hnd.stored
  handle1 : x.handle1 = hnd.handle1
  handle2 : x.handle2 = hnd.handle2

theorem PrivateHandle.SameIon.plain {x hnd : PrivateHandle} (h : x.SameIon hnd)
    (hplain : hnd.Plain) : x.Plain where
  handle1 := by
    rw [h.fd1, h.handle1]
    exact hplain.handle1
  handle2 := by
    rw [h.fd2, h.handle2]
    exact hplain.handle2

/-- After clean imports the handle stores what they obtained. -/
theorem grallocRegisterBuffer_stored {answers : ImportAnswers} {hnd : PrivateHandle}
    (hplain : hnd.Plain) (hclean : FailsCleanly (importsOf answers hnd)) :
    (grallocRegisterBuffer answers hnd).2.1.stored =
      (grallocRegisterBuffer answers hnd).2.2.filterMap ImportAnswer.obtained := by
  have h0 := ImportAnswer.filter_store (hclean.fields (answers.plane0, hnd.handle)
    List.mem_cons_self)
  have hsplit : ∀ a b c : Int, [a, b, c].filter (· ≠ 0) =
      [a].filter (· ≠ 0) ++ ([b].filter (· ≠ 0) ++ [c].filter (· ≠ 0)) := by
    intro a b c
    rw [← List.filter_append, ← List.filter_append]
    rfl
  by_cases h1 : 0 ≤ hnd.fd1 <;> by_cases h2 : 0 ≤ hnd.fd2
  · have h1' := ImportAnswer.filter_store (hclean.fields (answers.plane1, hnd.handle1)
      (by simp [importsOf, h1]))
    have h2' := ImportAnswer.filter_store (hclean.fields (answers.plane2, hnd.handle2)
      (by simp [importsOf, h1, h2]))
    simp only [grallocRegisterBuffer, PrivateHandle.stored, h1, h2, if_true, hsplit, h0,
      h1', h2', ← List.filterMap_append]
    rfl
  · have h1' := ImportAnswer.filter_store (hclean.fields (answers.plane1, hnd.handle1)
      (by simp [importsOf, h1]))
    simp only [grallocRegisterBuffer, PrivateHandle.stored, h1, h2, if_true, if_false,
      hsplit, h0, h1', hplain.handle2 h2, List.filterMap_append]
    simp
  · have h2' := ImportAnswer.filter_store (hclean.fields (answers.plane2, hnd.handle2)
      (by simp [importsOf, h1, h2]))
    simp only [grallocRegisterBuffer, PrivateHandle.stored, h1, h2, if_true, if_false,
      hsplit, h0, h2', hplain.handle1 h1]
    simp [← List.filterMap_append]
  · simp only [grallocRegisterBuffer, PrivateHandle.stored, h1, h2, if_false,
      hsplit, h0, hplain.handle1 h1, hplain.handle2 h2]
    simp

/-- The imports that were made, in the order of the planes. -/
theorem grallocRegisterBuffer_made (answers : ImportAnswers) (hnd : PrivateHandle) :
    (grallocRegisterBuffer answers hnd).2.2 = (importsOf answers hnd).map Prod.fst := by
  by_cases h1 : 0 ≤ hnd.fd1 <;> by_cases h2 : 0 ≤ hnd.fd2 <;>
    simp [grallocRegisterBuffer, importsOf, h1, h2]

theorem grallocRegisterBuffer_status (answers : ImportAnswers) (hnd : PrivateHandle) :
    (importsOf answers hnd).getLast?.map (fun i => i.1.status) =
      some (grallocRegisterBuffer answers hnd).1 := by
  by_cases h1 : 0 ≤ hnd.fd1 <;> by_cases h2 : 0 ≤ hnd.fd2 <;>
    simp [grallocRegisterBuffer, importsOf, h1, h2]

/-- With clean imports a success means that all of them succeeded. -/
theorem grallocRegisterBuffer_truthful {answers : ImportAnswers} {hnd : PrivateHandle}
    (hclean : FailsCleanly (importsOf answers hnd))
    (hok : (grallocRegisterBuffer answers hnd).1 = 0) :
    ∀ answer ∈ (grallocRegisterBuffer answers hnd).2.2, answer.obtained ≠ none := by
  rw [grallocRegisterBuffer_made]
  intro answer hanswer hfailed
  obtain ⟨i, hi, rfl⟩ := List.mem_map.mp hanswer
  obtain ⟨j, hj, hjfailed⟩ := hclean.last i hi hfailed
  have hstatus := grallocRegisterBuffer_status answers hnd
  rw [Option.mem_def.mp hj, hok, Option.map_some, Option.some.injEq] at hstatus
  exact ImportAnswer.obtained_of_status hstatus hjfailed

theorem grallocRegisterBuffer_plain {answers : ImportAnswers} {hnd : PrivateHandle}
    (h : hnd.Plain) : (grallocRegisterBuffer answers hnd).2.1.Plain := by
  by_cases h1 : 0 ≤ hnd.fd1 <;> by_cases h2 : 0 ≤ hnd.fd2 <;>
    constructor <;> simp [grallocRegisterBuffer, h1, h2, h.handle1, h.handle2]

theorem grallocMap_sameIon {abi : Abi} {mmap : MmapAnswers} {hnd hnd' : PrivateHandle}
    {status : Int} {mapped : List Mapping}
    (h : grallocMap abi mmap hnd = some (status, hnd', mapped)) : hnd'.SameIon hnd := by
  obtain ⟨c, -, h⟩ := Option.bind_eq_some_iff.mp h
  cases h0 : mmap.plane0 with
  | error errno =>
      simp only [h0, Option.some.injEq, Prod.mk.injEq] at h
      obtain ⟨-, rfl, -⟩ := h
      exact ⟨rfl, rfl, rfl, rfl, rfl⟩
  | ok address =>
      by_cases h1 : 0 ≤ hnd.fd1 <;> by_cases h2 : 0 ≤ hnd.fd2 <;>
        simp only [h0, h1, h2, if_true, if_false, Option.some.injEq, Prod.mk.injEq] at h <;>
        obtain ⟨-, rfl, -⟩ := h <;> exact ⟨rfl, rfl, rfl, rfl, rfl⟩

theorem grallocLock_sameIon {abi : Abi} {mmap : MmapAnswers} {hnd hnd' : PrivateHandle}
    {addresses : List Nat}
    (h : grallocLock abi mmap hnd = some (hnd', addresses)) : hnd'.SameIon hnd := by
  unfold grallocLock at h
  split at h
  · obtain ⟨⟨status, hnd₁, _⟩, hmap, h⟩ := Option.bind_eq_some_iff.mp h
    cases h
    exact grallocMap_sameIon hmap
  · cases h
    exact ⟨rfl, rfl, rfl, rfl, rfl⟩

theorem grallocUnmap_sameIon {abi : Abi} {hnd hnd' : PrivateHandle}
    {unmapped : List (Nat × Nat)}
    (h : grallocUnmap abi hnd = some (hnd', unmapped)) : hnd'.SameIon hnd := by
  obtain ⟨c, -, h⟩ := Option.bind_eq_some_iff.mp h
  by_cases h0 : hnd.base = 0
  · simp only [h0, if_true, Option.some.injEq, Prod.mk.injEq] at h
    obtain ⟨rfl, -⟩ := h
    exact ⟨rfl, rfl, rfl, rfl, rfl⟩
  · by_cases h1 : 0 ≤ hnd.fd1 <;> by_cases h2 : 0 ≤ hnd.fd2 <;>
      by_cases hb1 : hnd.base1 = 0 <;> by_cases hb2 : hnd.base2 = 0 <;>
      simp [h0, h1, h2, hb1, hb2] at h <;>
      obtain ⟨rfl, -⟩ := h <;> exact ⟨rfl, rfl, rfl, rfl, rfl⟩

/-- Unregistering frees what the handle stores, and keeps it stored. -/
theorem grallocUnregisterBuffer_eq {abi : Abi} {hnd hnd' : PrivateHandle}
    {freed : List Int} (h : grallocUnregisterBuffer abi hnd = some (hnd', freed)) :
    hnd'.SameIon hnd ∧ freed = hnd.stored := by
  obtain ⟨⟨hnd₁, _⟩, hunmap, h₁⟩ := Option.bind_eq_some_iff.mp h
  cases h₁
  have hsame := grallocUnmap_sameIon hunmap
  exact ⟨hsame, hsame.stored⟩

/-! ## New handles -/

theorem PrivateHandle.new_handles {fd fd1 fd2 : Int} {size w h : Nat} {flags : UInt32}
    {format : PixelFormat} {stride vstride : Nat} {hnd : PrivateHandle}
    (hnew : PrivateHandle.new fd fd1 fd2 size flags w h format stride vstride =
      some hnd) : hnd.handle = 0 ∧ hnd.handle1 = 0 ∧ hnd.handle2 = 0 := by
  simp only [PrivateHandle.new, Option.bind_eq_bind, Option.bind_eq_some_iff,
    Option.some.injEq] at hnew
  obtain ⟨_, -, _, -, rfl⟩ := hnew
  exact ⟨rfl, rfl, rfl⟩

theorem grallocAllocRgb_handles {answers : IonAnswers} {w h : Nat}
    {format : PixelFormat} {usage ionFlags : UInt32} {ion ion' : Ion}
    {hnd : PrivateHandle} {stride : Nat}
    (halloc : grallocAllocRgb p answers w h format usage ionFlags ion =
      some (.ok (hnd, stride), ion')) :
    hnd.handle = 0 ∧ hnd.handle1 = 0 ∧ hnd.handle2 = 0 := by
  obtain ⟨_, _, _, _, -, -, -, hnew, -⟩ := grallocAllocRgb_eq_ok halloc
  exact PrivateHandle.new_handles hnew

theorem grallocAllocYuv_handles {answers : IonAnswers} {w h : Nat}
    {format : PixelFormat} {usage ionFlags : UInt32} {ion ion' : Ion}
    {hnd : PrivateHandle} {stride : Nat}
    (halloc : grallocAllocYuv p answers w h format usage ionFlags ion =
      some (.ok (hnd, stride), ion')) :
    hnd.handle = 0 ∧ hnd.handle1 = 0 ∧ hnd.handle2 = 0 := by
  rcases grallocAllocYuv_eq_ok halloc with ⟨_, _, -, -, hframework⟩ |
    ⟨_, _, _, _, _, -, -, hnew, -⟩
  · obtain ⟨_, _, -, -, hnew⟩ := grallocAllocFrameworkYuv_eq_ok hframework
    exact PrivateHandle.new_handles hnew
  · exact PrivateHandle.new_handles hnew

theorem grallocAlloc_handles {answers : IonAnswers} {w h : Int}
    {format : PixelFormat} {usage : UInt32} {ion ion' : Ion}
    {hnd : PrivateHandle} {stride : Nat}
    (halloc : grallocAlloc p answers w h format usage ion =
      some (.ok (hnd, stride), ion')) :
    hnd.handle = 0 ∧ hnd.handle1 = 0 ∧ hnd.handle2 = 0 := by
  obtain ⟨-, -, usage', -, hrgb | ⟨err, ion₁, -, hyuv⟩⟩ := grallocAlloc_eq_ok halloc
  · exact grallocAllocRgb_handles p hrgb
  · exact grallocAllocYuv_handles p hyuv

/-! ## The account -/

/-- Frees of references that are held take them from the client. -/
theorem Handles.ionFreeAll_eq {s : Handles} {pid : Nat} {ids : List Int}
    (h : ∀ r, (ids.map (pid, ·)).count r ≤ s.live.count r) :
    ∃ live, s.ionFreeAll pid ids = { s with live := live } ∧
      ∀ r, live.count r + (ids.map (pid, ·)).count r = s.live.count r := by
  induction ids generalizing s with
  | nil => exact ⟨s.live, rfl, fun r => rfl⟩
  | cons i ids ih =>
      have hmem : (pid, i) ∈ s.live := by
        have := h (pid, i)
        rw [List.map_cons, List.count_cons_self] at this
        exact List.count_pos_iff.mp (by omega)
      have hfree : s.ionFree pid i = { s with live := s.live.erase (pid, i) } := by
        rw [Handles.ionFree, if_pos hmem]
      have hrest : ∀ r, (s.live.erase (pid, i)).count r + [(pid, i)].count r =
          s.live.count r := by
        intro r
        rw [← List.count_append]
        exact ((List.perm_append_singleton _ _).trans (List.perm_cons_erase hmem).symm).count_eq r
      have hcons : ∀ r, ((i :: ids).map (pid, ·)).count r =
          [(pid, i)].count r + (ids.map (pid, ·)).count r := by
        intro r
        rw [List.map_cons, ← List.singleton_append, List.count_append]
      obtain ⟨live, hlive, hcount⟩ := ih (s := s.ionFree pid i) (by
        intro r
        have := h r
        rw [hcons, ← hrest] at this
        rw [hfree]
        dsimp only
        omega)
      refine ⟨live, ?_, fun r => ?_⟩
      · rw [Handles.ionFreeAll, List.foldl_cons]
        rw [Handles.ionFreeAll] at hlive
        rw [hlive, hfree]
      · have := hcount r
        rw [hfree] at this
        dsimp only at this
        rw [hcons, ← hrest]
        omega

/-- What holds between the calls. -/
structure Accounted (s : Handles) : Prop where
  balanced : HandlesBalanced s
  names : (s.buffers.map Buffer.name).Nodup
  plain : ∀ b ∈ s.buffers, b.hnd.Plain

theorem init_accounted : Accounted Handles.init where
  balanced := ⟨rfl, fun _ => rfl, fun _ h => absurd h List.not_mem_nil⟩
  names := List.nodup_nil
  plain := fun _ h => absurd h List.not_mem_nil

variable {s : Handles}

theorem Accounted.add (hs : Accounted s) {b : Buffer}
    (hname : b.name ∉ s.buffers.map Buffer.name) (hplain : b.hnd.Plain)
    (hfresh : b.registered = false) :
    Accounted { s with buffers := s.buffers ++ [b] } where
  balanced := by
    refine ⟨hs.balanced.freedOnce, fun r => ?_, hs.balanced.truthful⟩
    simp [hs.balanced.accounted, Buffer.held, hfresh]
  names := by
    rw [List.map_append]
    refine List.Nodup.append hs.names (List.nodup_singleton _) ?_
    simpa using hname
  plain := by
    intro b' hb'
    rcases List.mem_append.mp hb' with hb' | hb'
    · exact hs.plain b' hb'
    · rw [List.mem_singleton.mp hb']
      exact hplain

/-- One handle changes, with the references that it holds. -/
theorem Accounted.change (hs : Accounted s) {b : Buffer} (hb : b ∈ s.buffers)
    {f : Buffer → Buffer} {live : List (Nat × Int)}
    {results : List (Int × List ImportAnswer)} (hname : ∀ b, (f b).name = b.name)
    (hplain : (f b).hnd.Plain)
    (hlive : ∀ r, live.count r + b.held.count r = s.live.count r + (f b).held.count r)
    (hresults : ∀ result ∈ results, result.1 = 0 →
      ∀ answer ∈ result.2, answer.obtained ≠ none) :
    Accounted { s.update b.name f with live := live, results := results } where
  balanced := by
    refine ⟨hs.balanced.freedOnce, fun r => ?_, hresults⟩
    have hsum := @KeyedList.sum_update _ _ _ Buffer.name (fun b => b.held.count r) f _ _
      hs.names hb
    have hcount := hlive r
    rw [hs.balanced.accounted] at hcount
    simp only [Handles.update]
    omega
  names := by
    rw [Handles.update, KeyedList.map_update hname]
    exact hs.names
  plain := by
    intro b' hb'
    rcases KeyedList.mem_update.mp hb' with ⟨a, ha, hk, rfl⟩ | ⟨hb', -⟩
    · obtain rfl : a = b := List.inj_on_of_nodup_map hs.names ha hb hk
      exact hplain
    · exact hs.plain b' hb'

theorem Accounted.keep (hs : Accounted s) {b : Buffer} (hb : b ∈ s.buffers)
    {hnd : PrivateHandle} (hsame : hnd.SameIon b.hnd) :
    Accounted (s.update b.name fun b => { b with hnd }) := by
  refine hs.change hb (fun _ => rfl) (hsame.plain (hs.plain b hb)) (fun r => ?_)
    hs.balanced.truthful
  simp [Buffer.held, hsame.stored]

/-- What an unregistered handle without ion handles, or a registered one, holds. -/
theorem Buffer.held_eq {b : Buffer} (h : b.registered = true ∨ b.hnd.stored = []) :
    b.held = b.hnd.stored.map (b.pid, ·) := by
  rw [Buffer.held]
  split
  · rfl
  · rename_i hnot
    rw [h.resolve_left hnot, List.map_nil]

theorem Accounted.unregister (hs : Accounted s) {b : Buffer} (hb : b ∈ s.buffers)
    (hkeep : b.registered = true ∨ b.hnd.stored = []) {t : Handles}
    (h : s.unregister p b = some t) :
    Accounted t ∧ ∃ b' ∈ t.buffers, b'.name = b.name ∧ b'.held = [] := by
  obtain ⟨⟨hnd, freed⟩, hcall, h⟩ := Option.bind_eq_some_iff.mp h
  obtain ⟨hsame, rfl⟩ := grallocUnregisterBuffer_eq hcall
  have hheld := Buffer.held_eq hkeep
  set f : Buffer → Buffer := fun b => { b with hnd, registered := false }
  have hnone : (f b).held = [] := rfl
  have hle : ∀ r, (b.hnd.stored.map (b.pid, ·)).count r ≤ s.live.count r := by
    intro r
    have hsum := @KeyedList.sum_update _ _ _ Buffer.name (fun b => b.held.count r) f _ _
      hs.names hb
    simp only [hnone, hheld, List.count_nil] at hsum
    rw [hs.balanced.accounted]
    omega
  obtain ⟨live, hfree, hcount⟩ := (s.update b.name f).ionFreeAll_eq hle
  simp only [Option.some.injEq] at h
  obtain rfl := hfree.symm.trans h
  refine ⟨?_, f b, KeyedList.mem_update.mpr (Or.inl ⟨b, hb, rfl, rfl⟩), rfl, hnone⟩
  refine hs.change hb (fun _ => rfl) (hsame.plain (hs.plain b hb)) (fun r => ?_)
    hs.balanced.truthful
  rw [hheld, hnone, List.count_nil]
  exact hcount r

theorem Accounted.remove (hs : Accounted s) {b : Buffer} (hb : b ∈ s.buffers)
    (hnone : b.held = []) :
    Accounted { s with buffers := KeyedList.delete Buffer.name b.name s.buffers } where
  balanced := by
    refine ⟨hs.balanced.freedOnce, fun r => ?_, hs.balanced.truthful⟩
    have hsum := @KeyedList.sum_delete _ _ _ Buffer.name (fun b => b.held.count r) _ _
      hs.names hb
    rw [hs.balanced.accounted]
    simp only [hnone, List.count_nil, Nat.add_zero] at hsum
    exact hsum.symm
  names := KeyedList.nodup_delete hs.names
  plain := fun b' hb' => hs.plain b' (KeyedList.mem_of_mem_delete hb')

/-- Registering adds the references that the handle holds from then on. -/
theorem Accounted.register (hs : Accounted s) {b : Buffer} (hb : b ∈ s.buffers)
    {answers : ImportAnswers} (hnot : b.registered = false)
    (hclean : FailsCleanly (importsOf answers b.hnd)) :
    Accounted { s.update b.name (fun x =>
        { x with hnd := (grallocRegisterBuffer answers b.hnd).2.1, registered := true }) with
      live := ((grallocRegisterBuffer answers b.hnd).2.2.filterMap
        ImportAnswer.obtained).map (b.pid, ·) ++ s.live
      results := ((grallocRegisterBuffer answers b.hnd).1,
        (grallocRegisterBuffer answers b.hnd).2.2) :: s.results } := by
  have hplain := hs.plain b hb
  refine hs.change hb (fun _ => rfl) (grallocRegisterBuffer_plain hplain) (fun r => ?_) ?_
  · rw [← grallocRegisterBuffer_stored hplain hclean, List.count_append]
    simp only [Buffer.held, hnot, if_true, Bool.false_eq_true, if_false, List.count_nil]
    omega
  · intro result hresult hok
    rcases List.mem_cons.mp hresult with rfl | hresult
    · exact grallocRegisterBuffer_truthful hclean hok
    · exact hs.balanced.truthful result hresult hok

/-! ## Runs -/

theorem Handles.mem_of_lookup {name : Nat} {b : Buffer} (h : s.lookup name = some b) :
    b ∈ s.buffers ∧ b.name = name :=
  KeyedList.mem_of_lookup h

/-- A step that keeps the account, one case for each call. -/
theorem handleStep_accounted {label : HandleLabel} {t : Handles} (hs : Accounted s)
    (hkeep : KeepsAccount s label) (hstep : handleStep p s label = some t) :
    Accounted t := by
  cases label with
  | alloc name pid w h format usage answers =>
      simp only [handleStep] at hstep
      split at hstep
      · cases hstep
      · rename_i hname
        obtain ⟨⟨result, ion⟩, halloc, hstep⟩ := Option.bind_eq_some_iff.mp hstep
        cases result with
        | error err =>
            cases hstep
            exact hs
        | ok allocated =>
            cases hstep
            obtain ⟨-, h1, h2⟩ := grallocAlloc_handles p halloc
            exact hs.add hname ⟨fun _ => h1, fun _ => h2⟩ rfl
  | receive source name pid fd fd1 fd2 =>
      simp only [handleStep] at hstep
      split at hstep
      · cases hstep
      · rename_i hname
        obtain ⟨b, hb, hstep⟩ := Option.bind_eq_some_iff.mp hstep
        split at hstep
        · rename_i hfds
          cases hstep
          have hplain := hs.plain b (Handles.mem_of_lookup hb).1
          refine hs.add hname ⟨?_, ?_⟩ rfl
          · exact fun h1 => hplain.handle1 fun h => h1 (hfds.1.mpr h)
          · exact fun h2 => hplain.handle2 fun h => h2 (hfds.2.mpr h)
        · cases hstep
  | register name answers =>
      obtain ⟨b, hb, hstep⟩ := Option.bind_eq_some_iff.mp hstep
      obtain ⟨hnot, hclean⟩ := hkeep b hb
      obtain ⟨hmem, rfl⟩ := Handles.mem_of_lookup hb
      rw [← Option.some.inj hstep]
      exact hs.register hmem hnot hclean
  | lock name mmap =>
      obtain ⟨b, hb, hstep⟩ := Option.bind_eq_some_iff.mp hstep
      obtain ⟨⟨hnd, _⟩, hlock, hstep⟩ := Option.bind_eq_some_iff.mp hstep
      cases hstep
      obtain ⟨hmem, rfl⟩ := Handles.mem_of_lookup hb
      exact hs.keep hmem (grallocLock_sameIon hlock)
  | unlock name =>
      obtain ⟨b, hb, hstep⟩ := Option.bind_eq_some_iff.mp hstep
      cases hstep
      exact hs
  | unregister name =>
      obtain ⟨b, hb, hstep⟩ := Option.bind_eq_some_iff.mp hstep
      exact (hs.unregister p (Handles.mem_of_lookup hb).1 (hkeep b hb) hstep).1
  | free name =>
      obtain ⟨b, hb, hstep⟩ := Option.bind_eq_some_iff.mp hstep
      obtain ⟨u, hu, hstep⟩ := Option.bind_eq_some_iff.mp hstep
      cases hstep
      obtain ⟨hmem, rfl⟩ := Handles.mem_of_lookup hb
      obtain ⟨hacc, b', hb', hname, hnone⟩ := hs.unregister p hmem (hkeep b hb) hu
      rw [← hname]
      exact hacc.remove hb' hnone

/-- In a run whose calls keep the account, every imported reference is freed once
or still held by one registered handle, and no success hides a failed import. -/
theorem handlesBalanced_run {labels : List HandleLabel} {t : Handles}
    (hkeep : (HandleSystem p).StepsMeet KeepsAccount Handles.init labels)
    (hrun : (HandleSystem p).run Handles.init labels = some t) : HandlesBalanced t :=
  (TransitionSystem.run_invariant (fun _ _ _ => handleStep_accounted p) init_accounted
    hkeep hrun).balanced

/-- A buffer of the encoder, allocated in process 10. -/
def encoderAlloc : HandleLabel :=
  .alloc 1 10 70 40 .implementationDefined 0x10000 fun n _ => .ok (40 + n)

/-- The handle of a process that received and released the buffer. -/
def receivedHandle : PrivateHandle :=
  { encoderHandle with fd := 7, fd1 := 8, handle := 5, handle1 := 6 }

theorem handlesBalanced_run_shared :
    HandlesBalanced {
      buffers := [⟨2, 20, receivedHandle, false⟩], live := [], stale := false
      results := [(0, [.imported 4, .imported 5]), (0, [.imported 0, .imported 1])] } :=
  @handlesBalanced_run platform
    [encoderAlloc, .register 1 ⟨.imported 0, .imported 1, .failed 21⟩,
      .receive 1 2 20 7 8 (-1), .register 2 ⟨.imported 4, .imported 5, .failed 21⟩,
      .lock 2 ⟨.ok 4096, .ok 8192, .error 12⟩, .unlock 2, .unregister 2, .free 1]
    _ (by decide) rfl

/-- Registering succeeds although the first plane is not imported. -/
theorem not_handlesBalanced :
    ¬ ∀ (labels : List HandleLabel) (t : Handles),
      (HandleSystem platform).run Handles.init labels = some t → HandlesBalanced t := by
  intro h
  have hbalanced := h [encoderAlloc, .register 1 ⟨.failed 21, .imported 0, .failed 21⟩]
    { buffers := [⟨1, 10, { encoderHandle with handle1 := 1 }, true⟩]
      live := [(10, 1)], stale := false
      results := [(0, [.failed 21, .imported 0])] } rfl
  exact hbalanced.truthful _ List.mem_cons_self rfl (.failed 21) List.mem_cons_self rfl

end Gralloc
end Exynos8890
