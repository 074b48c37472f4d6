import Exynos8890.Library.HeapCells
import Exynos8890.Library.TransitionSystem
import Exynos8890.RootPa.ContainerStore

/-!
# The start of a provisioning run

A call from Java that starts a run keeps a global reference to the object it is made on, and it
hands a block with the parameters to a thread of its own.  The thread makes its callbacks on the
object, and with the last one it gives everything back.  What a call has allocated and cannot
hand over has to be undone before the call returns.

Main results:

- Definition `Wrapper.call`: the calls of the wrapper, with what can fail in them.
- Definition `Wrapper.threadEnd`: the last callback, and what the thread releases.
- Theorem `balanced_run`: under what conditions everything is released once, by the one that
  fits.
- Theorem `not_balanced`: a call that has failed leaves its global reference behind.
-/

namespace Exynos8890.RootPa

open HeapCells

/-! ## Blocks -/

/-- Where a block comes from, and the way it has to be released. -/
inductive Allocator where
  | globalRef
  | newArray
  | malloc
deriving DecidableEq, Repr

/-- `trustletInstallationData_t`, as far as the start of a run reads it. -/
structure TrustletInstallationData where
  data : Option Nat
  dataLength : Nat
  dataType : Int32
  tltPukHash : Option Nat
  tltPukHashLength : Nat
  uuid : List UInt8
deriving DecidableEq

/-- `initialRel_t`. -/
inductive InitialRel where
  | post
  | delete
deriving DecidableEq, Repr

/-- `provisioningparams_t`. -/
structure ProvisioningParams where
  spid : UInt32
  initialRel : InitialRel
  tltInstallationData : Option Nat
deriving DecidableEq

/-- What is allocated. -/
inductive Block where
  | reference (object : Nat)
  | bytes (allocator : Allocator) (content : List UInt8)
  | tltData (data : TrustletInstallationData)
  | params (params : ProvisioningParams)
deriving DecidableEq

def Block.allocator : Block → Allocator
  | reference _ => .globalRef
  | bytes allocator _ => allocator
  | tltData _ | params _ => .malloc

/-! ## Calls -/

/-- The calls of the wrapper, each with the object that it is made on. -/
inductive WrapperCall where
  | doProvisioning (obj : Nat) (spid : UInt32) (seAddress : Option (List UInt8))
  | installTrustlet (obj : Nat) (spid : UInt32) (uuid : Option (List UInt8))
      (requestDataType : Int32) (tltOrKeyData tltPukHash seAddress : Option (List UInt8))
  | unregisterRootContainer (obj : Nat) (seAddress : Option (List UInt8))
deriving DecidableEq

def WrapperCall.seAddress : WrapperCall → Option (List UInt8)
  | doProvisioning _ _ seAddress => seAddress
  | installTrustlet _ _ _ _ _ _ seAddress => seAddress
  | unregisterRootContainer _ seAddress => seAddress

def WrapperCall.obj : WrapperCall → Nat
  | doProvisioning obj _ _ => obj
  | installTrustlet obj _ _ _ _ _ _ => obj
  | unregisterRootContainer obj _ => obj

/-- What fails in a call: the allocations of `provision`, `getSuid`, and what the thread needs. -/
structure StartFailures where
  params : Bool
  tltData : Bool
  data : Bool
  tltPukHash : Bool
  suid : RootPaError
  attributes : Bool
  create : Bool
deriving DecidableEq

/-- A thread that runs: its parameters, and the object of the call that has started it. -/
structure RunThread where
  params : Nat
  starter : Nat
deriving DecidableEq

/-- The wrapper: `obj_`, the thread, the callbacks with the object that has started the run and
the one they were made on, and the blocks that were not released as they had to be. -/
structure Wrapper where
  heap : Heap Block
  obj : Option Nat
  thread : Option RunThread
  callbacks : List (Nat × Option Nat)
  wrong : List Nat

namespace Wrapper

def init : Wrapper :=
  ⟨Heap.empty, none, none, [], []⟩

def alloc (w : Wrapper) (block : Block) : Nat × Wrapper :=
  let (n, heap) := w.heap.alloc block
  (n, { w with heap := heap })

/-- `free`, `delete[]` or `DeleteGlobalRef` of a pointer that may be null. -/
def release (w : Wrapper) (allocator : Allocator) : Option Nat → Option Wrapper
  | none => some w
  | some n => do
      let block ← w.heap.read n
      let heap ← w.heap.free n
      some { w with
        heap := heap
        wrong := if block.allocator = allocator then w.wrong else w.wrong ++ [n] }

/-- `jByteArrayToCByteArray`. -/
def jByteArrayToCByteArray (w : Wrapper) : Option (List UInt8) → Option Nat × Nat × Wrapper
  | none => (none, 0, w)
  | some jBytes =>
      let (n, w) := w.alloc (.bytes .newArray jBytes)
      (some n, jBytes.length, w)

/-- `setInitialAddress`. -/
def setInitialAddress (addr : Option Nat) (length : Nat) : RootPaError :=
  if addr = none ∨ length = 0 then .internal
  else if 255 < length + 1 then .illegalArgument
  else .ok

/-- The check of the address, which is copied and released. -/
def setSeAddress (w : Wrapper) : Option (List UInt8) → Option (RootPaError × Wrapper)
  | none => some (.ok, w)
  | some seAddress => do
      let (addr, length, w) := w.jByteArrayToCByteArray (some seAddress)
      let w ← w.release .newArray addr
      some (setInitialAddress addr length, w)

/-- The global reference for the callbacks. -/
def newGlobalRef (w : Wrapper) (obj : Nat) : Wrapper :=
  let (n, w) := w.alloc (.reference obj)
  { w with obj := some n }

/-- What a pointer to bytes points to. -/
def content (w : Wrapper) : Option Nat → Option (List UInt8)
  | none => some []
  | some n =>
      match w.heap.read n with
      | some (.bytes _ content) => some content
      | _ => none

def write (w : Wrapper) (n : Nat) (block : Block) : Option Wrapper := do
  let heap ← w.heap.write n block
  some { w with heap := heap }

/-! ## The parameters of a run -/

/-- The copies of the data of a trustlet, or nothing when there is no memory for them. -/
def copyTrustletData (w : Wrapper) (d : TrustletInstallationData) (f : StartFailures) :
    Option (Option Nat × Wrapper) :=
  if f.tltData then some (none, w)
  else
    let (tlt, w) := w.alloc (.tltData d)
    if f.data then do
      let w ← w.release .malloc (some tlt)
      some (none, w)
    else do
      let dataContent ← w.content d.data
      let (data, w) := w.alloc (.bytes .malloc dataContent)
      if f.tltPukHash then do
        let w ← w.release .malloc (some data)
        let w ← w.release .malloc (some tlt)
        some (none, w)
      else do
        let hashContent ← w.content d.tltPukHash
        let (tltPukHash, w) := w.alloc (.bytes .malloc hashContent)
        let w ← w.write tlt (.tltData { d with data := some data, tltPukHash := some tltPukHash })
        some (some tlt, w)

/-- The thread is started when the SUID is known. -/
def startThread (w : Wrapper) (starter params : Nat) (f : StartFailures) :
    Option (RootPaError × Wrapper) :=
  if f.suid ≠ .ok then some (f.suid, w)
  else if f.attributes then some (.internal, w)
  else if f.create then do
    let w ← w.release .malloc (some params)
    some (.internal, w)
  else some (.ok, { w with thread := some ⟨params, starter⟩ })

/-- `provision`. -/
def provision (w : Wrapper) (starter : Nat) (spid : UInt32)
    (tltData : Option TrustletInstallationData) (initialRel : InitialRel) (f : StartFailures) :
    Option (RootPaError × Wrapper) :=
  if f.params then some (.outOfMemory, w)
  else
    let (params, w) := w.alloc (.params ⟨spid, initialRel, none⟩)
    match tltData with
    | none => w.startThread starter params f
    | some d => do
        let (tlt, w) ← w.copyTrustletData d f
        if tlt = none then do
          let w ← w.release .malloc (some params)
          some (.outOfMemory, w)
        else do
          let w ← w.write params (.params ⟨spid, initialRel, tlt⟩)
          w.startThread starter params f

/-! ## The calls of the wrapper -/

/-- A call that starts a run without a trustlet. -/
def startRun (w : Wrapper) (obj : Nat) (spid : UInt32) (initialRel : InitialRel)
    (seAddress : Option (List UInt8)) (f : StartFailures) : Option (RootPaError × Wrapper) := do
  let (ret, w) ← w.setSeAddress seAddress
  if ret ≠ .ok then some (ret, w)
  else (w.newGlobalRef obj).provision obj spid none initialRel f

def doProvisioning (w : Wrapper) (obj : Nat) (spid : UInt32) (seAddress : Option (List UInt8))
    (f : StartFailures) : Option (RootPaError × Wrapper) :=
  w.startRun obj spid .post seAddress f

def unregisterRootContainer (w : Wrapper) (obj : Nat) (seAddress : Option (List UInt8))
    (f : StartFailures) : Option (RootPaError × Wrapper) :=
  w.startRun obj 0 .delete seAddress f

/-- `installTrustlet` of the command handler. -/
def installTrustletData (w : Wrapper) (starter : Nat) (spid : UInt32)
    (d : TrustletInstallationData) (f : StartFailures) : Option (RootPaError × Wrapper) :=
  if d.data = none ∨ d.dataLength = 0 ∨ (d.dataType ≠ 1 ∧ d.dataType ≠ 2) then
    some (.illegalArgument, w)
  else w.provision starter spid (some d) .post f

def uuidLength : Nat := 16

def installTrustlet (w : Wrapper) (obj : Nat) (spid : UInt32) (uuid : Option (List UInt8))
    (requestDataType : Int32) (tltOrKeyData tltPukHash seAddress : Option (List UInt8))
    (f : StartFailures) : Option (RootPaError × Wrapper) := do
  let (ret, w) ← w.setSeAddress seAddress
  if ret ≠ .ok then some (ret, w)
  else
    let w := w.newGlobalRef obj
    let (data, dataLength, w) := w.jByteArrayToCByteArray tltOrKeyData
    let (hash, hashLength, w) := w.jByteArrayToCByteArray tltPukHash
    let (uuidP, length, w) := w.jByteArrayToCByteArray uuid
    if length ≠ uuidLength then do
      let w ← w.release .malloc uuidP
      some (.illegalArgument, w)
    else do
      let value ← w.content uuidP
      let w ← w.release .malloc uuidP
      w.installTrustletData obj spid ⟨data, dataLength, requestDataType, hash, hashLength, value⟩ f

def call (w : Wrapper) (c : WrapperCall) (f : StartFailures) : Option (RootPaError × Wrapper) :=
  match c with
  | .doProvisioning obj spid seAddress => w.doProvisioning obj spid seAddress f
  | .installTrustlet obj spid uuid requestDataType tltOrKeyData tltPukHash seAddress =>
      w.installTrustlet obj spid uuid requestDataType tltOrKeyData tltPukHash seAddress f
  | .unregisterRootContainer obj seAddress => w.unregisterRootContainer obj seAddress f

/-! ## The thread -/

/-- `stateUpdateCallback`, unless the thread exits. -/
def callback (w : Wrapper) (thread : RunThread) : Option Wrapper :=
  match w.obj with
  | none => some { w with callbacks := w.callbacks ++ [(thread.starter, none)] }
  | some n =>
      match w.heap.read n with
      | some (.reference object) =>
          some { w with callbacks := w.callbacks ++ [(thread.starter, some object)] }
      | _ => none

/-- The copies of the data of a trustlet are released. -/
def releaseTrustletData (w : Wrapper) : Option Nat → Option Wrapper
  | none => some w
  | some tlt =>
      match w.heap.read tlt with
      | some (.tltData d) => do
          let w ← w.release .malloc d.data
          let w ← w.release .malloc d.tltPukHash
          w.release .malloc (some tlt)
      | _ => none

/-- What the thread releases. -/
def releaseParams (w : Wrapper) (n : Nat) : Option Wrapper :=
  match w.heap.read n with
  | some (.params params) => do
      let w ← w.releaseTrustletData params.tltInstallationData
      w.release .malloc (some n)
  | _ => none

/-- The last callback, with which the global reference is deleted, and the end of the thread. -/
def threadEnd (w : Wrapper) (thread : RunThread) : Option Wrapper := do
  let w ← w.callback thread
  let w ← w.release .globalRef w.obj
  { w with obj := none, thread := none }.releaseParams thread.params

/-- A call, a callback of the thread, or its end. -/
inductive Label where
  | call (c : WrapperCall) (f : StartFailures)
  | callback
  | threadEnd
deriving DecidableEq

/-- A call is made only when no run is active. -/
def step (w : Wrapper) : Label → Option Wrapper
  | .call c f => if w.thread = none then (w.call c f).map Prod.snd else none
  | .callback => w.thread.bind w.callback
  | .threadEnd => w.thread.bind w.threadEnd

def system : TransitionSystem Wrapper Label where
  step := step

/-! ## What has to be released -/

/-- Everything is released once and by the one that fits, at the latest when no run is active,
and each callback is made on the object that has started the run. -/
structure Balanced (w : Wrapper) : Prop where
  released : w.thread = none → w.heap.Released
  fitting : w.wrong = []
  callbacks : ∀ p ∈ w.callbacks, p.2 = some p.1

/-- The result of the check of an address. -/
def addressResult : Option (List UInt8) → RootPaError
  | none => .ok
  | some seAddress =>
      if seAddress.length = 0 then .internal
      else if 255 < seAddress.length + 1 then .illegalArgument
      else .ok

/-- A call that starts a run without a trustlet. -/
def WrapperCall.IsRun : WrapperCall → Prop
  | .doProvisioning _ _ _ | .unregisterRootContainer _ _ => True
  | .installTrustlet _ _ _ _ _ _ _ => False

/-- Nothing fails that a run without a trustlet needs. -/
structure Succeeds (f : StartFailures) : Prop where
  params : f.params = false
  suid : f.suid = .ok
  attributes : f.attributes = false
  create : f.create = false

/-- A call is refused because of its address, or it starts a run without a trustlet. -/
def Proper : Label → Prop
  | .call c f => addressResult c.seAddress ≠ .ok ∨ WrapperCall.IsRun c ∧ Succeeds f
  | .callback | .threadEnd => True

/-- What is allocated belongs to the active run. -/
structure Sound (w : Wrapper) : Prop where
  fitting : w.wrong = []
  callbacks : ∀ p ∈ w.callbacks, p.2 = some p.1
  idle : w.thread = none → w.heap.Owns 0
  running : ∀ t, w.thread = some t → ∃ n params, w.obj = some n ∧
    w.heap.Owns (n ::ₘ {t.params}) ∧ w.heap.read n = some (.reference t.starter) ∧
    w.heap.read t.params = some (.params params) ∧ params.tltInstallationData = none

theorem sound_init : Sound init := by
  refine ⟨rfl, ?_, fun _ => Heap.Owns.empty, nofun⟩
  intro p hp
  cases hp

section Steps

variable {w : Wrapper} {m : Multiset Nat}

/-- The owner of a block can release it as it has to be released. -/
theorem release_spec {n : Nat} {block : Block} (hm : w.heap.Owns (n ::ₘ m))
    (hread : w.heap.read n = some block) :
    ∃ heap, w.release block.allocator (some n) = some { w with heap := heap } ∧ heap.Owns m ∧
      SameOn w.heap heap m := by
  obtain ⟨heap, hfree, howns, hsame⟩ := hm.free
  refine ⟨heap, ?_, howns, hsame⟩
  simp only [release, hread, hfree, Option.bind_eq_bind, Option.bind_some, if_true]

theorem setInitialAddress_some (n : Nat) (seAddress : List UInt8) :
    setInitialAddress (some n) seAddress.length = addressResult (some seAddress) := by
  simp [setInitialAddress, addressResult]

/-- The copy of the address is released before its check is over. -/
theorem setSeAddress_spec (hm : w.heap.Owns m) (seAddress : Option (List UInt8)) :
    ∃ heap, w.setSeAddress seAddress = some (addressResult seAddress, { w with heap := heap }) ∧
      heap.Owns m := by
  cases seAddress with
  | none => exact ⟨w.heap, rfl, hm⟩
  | some seAddress =>
      obtain ⟨heap, hrelease, howns, -⟩ := release_spec
        (w := { w with heap := (w.heap.alloc (.bytes .newArray seAddress)).2 })
        (hm.alloc (.bytes .newArray seAddress)) (w.heap.read_alloc_self _)
      refine ⟨heap, ?_, howns⟩
      have hstep : w.setSeAddress (some seAddress) =
          (({ w with heap := (w.heap.alloc (.bytes .newArray seAddress)).2 } : Wrapper).release
            .newArray (some w.heap.next)).bind
          fun w' => some (setInitialAddress (some w.heap.next) seAddress.length, w') := rfl
      have hrelease' : ({ w with heap := (w.heap.alloc (.bytes .newArray seAddress)).2 } :
          Wrapper).release .newArray (some w.heap.next) = some { w with heap := heap } := hrelease
      rw [hstep, hrelease', Option.bind_some, setInitialAddress_some]

/-- A call with a bad address leaves everything as it was. -/
theorem call_refused {c : WrapperCall} (hm : w.heap.Owns m)
    (hrefused : addressResult c.seAddress ≠ .ok) (f : StartFailures) :
    ∃ heap, w.call c f = some (addressResult c.seAddress, { w with heap := heap }) ∧
      heap.Owns m := by
  obtain ⟨heap, heq, howns⟩ := setSeAddress_spec hm c.seAddress
  refine ⟨heap, ?_, howns⟩
  cases c with
  | doProvisioning obj spid seAddress =>
      simp only [WrapperCall.seAddress] at heq hrefused ⊢
      simp [call, doProvisioning, startRun, heq, hrefused]
  | installTrustlet obj spid uuid requestDataType tltOrKeyData tltPukHash seAddress =>
      simp only [WrapperCall.seAddress] at heq hrefused ⊢
      simp [call, installTrustlet, heq, hrefused]
  | unregisterRootContainer obj seAddress =>
      simp only [WrapperCall.seAddress] at heq hrefused ⊢
      simp [call, unregisterRootContainer, startRun, heq, hrefused]

theorem provision_started (w : Wrapper) (starter : Nat) (spid : UInt32)
    (initialRel : InitialRel) {f : StartFailures} (hf : Succeeds f) :
    w.provision starter spid none initialRel f =
      some (.ok, { w with
        heap := (w.heap.alloc (.params ⟨spid, initialRel, none⟩)).2
        thread := some ⟨w.heap.next, starter⟩ }) := by
  simp [provision, startThread, hf.params, hf.suid, hf.attributes, hf.create, alloc, Heap.alloc]

/-- A run that has been started owns its parameters and the reference to its object. -/
theorem startRun_started (hs : Sound w) (hidle : w.thread = none) (obj : Nat) (spid : UInt32)
    (initialRel : InitialRel) {seAddress : Option (List UInt8)} {f : StartFailures}
    (haddress : addressResult seAddress = .ok) (hf : Succeeds f) :
    ∃ w', w.startRun obj spid initialRel seAddress f = some (.ok, w') ∧ Sound w' := by
  obtain ⟨heap, heq, howns⟩ := setSeAddress_spec (hs.idle hidle) seAddress
  have hreference := howns.alloc (.reference obj)
  set heap₁ := (heap.alloc (.reference obj)).2 with hheap₁
  set params : ProvisioningParams := ⟨spid, initialRel, none⟩ with hparams
  have hboth := hreference.alloc (.params params)
  have hread : heap₁.read heap.next = some (.reference obj) := heap.read_alloc_self _
  refine ⟨{ w with
    heap := (heap₁.alloc (.params params)).2
    obj := some heap.next
    thread := some ⟨heap₁.next, obj⟩ }, ?_, hs.fitting, hs.callbacks, ?_, ?_⟩
  · unfold startRun
    rw [heq, haddress]
    exact provision_started _ obj spid initialRel hf
  · exact fun h => absurd h (Option.some_ne_none _)
  · intro t ht
    cases ht
    refine ⟨heap.next, params, rfl, ?_, ?_, heap₁.read_alloc_self _, rfl⟩
    · rw [Multiset.cons_swap] at hboth
      exact hboth
    · have hsame := hreference.sameOn_alloc (.params params) heap.next
        (Multiset.mem_cons_self heap.next 0)
      exact hsame.trans hread

/-- A proper call has a result, and what it has allocated belongs to the run. -/
theorem call_sound (hs : Sound w) (hidle : w.thread = none) {c : WrapperCall} {f : StartFailures}
    (hproper : Proper (.call c f)) : ∃ ret w', w.call c f = some (ret, w') ∧ Sound w' := by
  by_cases haddress : addressResult c.seAddress = .ok
  · obtain hrefused | ⟨hrun, hf⟩ := hproper
    · exact absurd haddress hrefused
    · cases c with
      | doProvisioning obj spid seAddress =>
          exact ⟨.ok, startRun_started hs hidle obj spid .post haddress hf⟩
      | installTrustlet obj spid uuid requestDataType tltOrKeyData tltPukHash seAddress =>
          exact absurd hrun not_false
      | unregisterRootContainer obj seAddress =>
          exact ⟨.ok, startRun_started hs hidle obj 0 .delete haddress hf⟩
  · obtain ⟨heap, heq, howns⟩ := call_refused (hs.idle hidle) haddress f
    refine ⟨_, _, heq, hs.fitting, hs.callbacks, fun _ => howns, fun t ht => ?_⟩
    exact absurd (ht.symm.trans hidle) (Option.some_ne_none t)

variable {t : RunThread}

/-- A callback is made on the object that has started the run. -/
theorem callback_eq (hs : Sound w) (ht : w.thread = some t) :
    w.callback t =
      some { w with callbacks := w.callbacks ++ [(t.starter, some t.starter)] } := by
  obtain ⟨n, params, hobj, -, hreference, -, -⟩ := hs.running t ht
  simp only [callback, hobj, hreference]

theorem callback_sound (hs : Sound w) :
    Sound { w with callbacks := w.callbacks ++ [(t.starter, some t.starter)] } := by
  refine ⟨hs.fitting, ?_, hs.idle, hs.running⟩
  intro p hp
  obtain hp | hp := List.mem_append.mp hp
  · exact hs.callbacks p hp
  · rw [List.mem_singleton.mp hp]

theorem releaseParams_spec {n : Nat} {params : ProvisioningParams}
    (hm : w.heap.Owns (n ::ₘ m)) (hread : w.heap.read n = some (.params params))
    (hnone : params.tltInstallationData = none) :
    ∃ heap, w.releaseParams n = some { w with heap := heap } ∧ heap.Owns m := by
  obtain ⟨heap, hrelease, howns, -⟩ := release_spec hm hread
  refine ⟨heap, ?_, howns⟩
  simp only [releaseParams, hread, hnone]
  exact hrelease

/-- The last callback gives the reference back, and the thread its parameters. -/
theorem threadEnd_sound (hs : Sound w) (ht : w.thread = some t) :
    ∃ w', w.threadEnd t = some w' ∧ Sound w' := by
  obtain ⟨n, params, hobj, howns, hreference, hparams, hnone⟩ := hs.running t ht
  have hcallback := callback_eq hs ht
  have hcallbacks := (callback_sound (t := t) hs).callbacks
  set w₁ : Wrapper := { w with callbacks := w.callbacks ++ [(t.starter, some t.starter)] }
  have hobj₁ : w₁.obj = some n := hobj
  obtain ⟨heap, hrelease, howns', hsame⟩ := release_spec (w := w₁) howns hreference
  rw [← hobj₁] at hrelease
  have hread : heap.read t.params = some (.params params) :=
    (hsame t.params (Multiset.mem_singleton_self _)).trans hparams
  obtain ⟨heap', hreleaseParams, howns''⟩ := releaseParams_spec
    (w := { w₁ with heap := heap, obj := none, thread := none }) (m := 0) howns' hread hnone
  refine ⟨{ w₁ with heap := heap', obj := none, thread := none }, ?_, hs.fitting, hcallbacks,
    fun _ => howns'', ?_⟩
  · unfold threadEnd
    rw [hcallback, Option.bind_eq_bind, Option.bind_some]
    exact (congrArg (Option.bind · _) hrelease).trans hreleaseParams
  · exact fun t ht => absurd ht.symm (Option.some_ne_none t)

end Steps

/-! ## Runs -/

/-- A call is made when no run is active, and the thread goes on when one is. -/
def Enabled (w : Wrapper) : Label → Prop
  | .call _ _ => w.thread = none
  | .callback | .threadEnd => w.thread ≠ none

/-- A proper step has a result: nothing is read behind its release or released again. -/
theorem step_sound {w : Wrapper} (hs : Sound w) {l : Label} (henabled : Enabled w l)
    (hproper : Proper l) : ∃ w', w.step l = some w' ∧ Sound w' := by
  cases l with
  | call c f =>
      obtain ⟨ret, w', hcall, hsound⟩ := call_sound hs henabled hproper
      refine ⟨w', ?_, hsound⟩
      show (if w.thread = none then (w.call c f).map Prod.snd else none) = some w'
      have hidle : w.thread = none := henabled
      rw [if_pos hidle, hcall, Option.map_some]
  | callback =>
      obtain ⟨t, ht⟩ := Option.ne_none_iff_exists'.mp henabled
      refine ⟨_, ?_, callback_sound (t := t) hs⟩
      have hstep : w.step .callback = (some t).bind w.callback := congrArg (Option.bind · _) ht
      rw [hstep, Option.bind_some, callback_eq hs ht]
  | threadEnd =>
      obtain ⟨t, ht⟩ := Option.ne_none_iff_exists'.mp henabled
      obtain ⟨w', hend, hsound⟩ := threadEnd_sound hs ht
      refine ⟨w', ?_, hsound⟩
      show w.thread.bind w.threadEnd = some w'
      rw [ht, Option.bind_some, hend]

theorem enabled_of_step {w w' : Wrapper} {l : Label} (hstep : w.step l = some w') :
    Enabled w l := by
  cases l with
  | call c f =>
      by_contra hthread
      exact Option.some_ne_none w' (hstep.symm.trans (if_neg hthread))
  | callback =>
      intro hthread
      rw [step, hthread] at hstep
      exact Option.some_ne_none w' hstep.symm
  | threadEnd =>
      intro hthread
      rw [step, hthread] at hstep
      exact Option.some_ne_none w' hstep.symm

theorem sound_run {w : Wrapper} {ls : List Label}
    (hproper : system.StepsMeet (fun _ l => Proper l) init ls)
    (hrun : system.run init ls = some w) : Sound w := by
  refine TransitionSystem.run_invariant (I := Sound) ?_ sound_init hproper hrun
  intro w l w' hs hl hstep
  obtain ⟨w'', hstep', hsound⟩ := step_sound hs (enabled_of_step hstep) hl
  rw [Option.some.inj (hstep.symm.trans hstep')]
  exact hsound

theorem Sound.balanced {w : Wrapper} (hs : Sound w) : Balanced w :=
  ⟨fun hidle => (hs.idle hidle).released, hs.fitting, hs.callbacks⟩

/-- When the calls are proper everything is released once and by the one that fits, callbacks
are made on the object that has started the run, and no step reads or releases what is gone. -/
theorem balanced_run (ls : List Label) (w : Wrapper)
    (hproper : system.StepsMeet (fun _ l => Proper l) init ls)
    (hrun : system.run init ls = some w) :
    Balanced w ∧ ∀ l, Enabled w l → Proper l → ∃ w', w.step l = some w' := by
  have hs : Sound w := sound_run hproper hrun
  refine ⟨hs.balanced, fun l henabled hl => ?_⟩
  obtain ⟨w', hstep, -⟩ := step_sound hs henabled hl
  exact ⟨w', hstep⟩

/-- Nothing fails. -/
def noFailures : StartFailures :=
  ⟨false, false, false, false, .ok, false, false⟩

/-- A run that makes one callback before its end, and a call with an empty address. -/
def properRun : List Label :=
  [.call (.doProvisioning 7 1 (some [10, 0, 0, 1])) noFailures, .callback, .threadEnd,
    .call (.unregisterRootContainer 8 (some [])) noFailures]

theorem balanced_properRun :
    ∃ w, system.run init properRun = some w ∧ w.callbacks = [(7, some 7), (7, some 7)] ∧
      Balanced w ∧ ∀ l, Enabled w l → Proper l → ∃ w', w.step l = some w' := by
  have hproper : system.StepsMeet (fun _ l => Proper l) init properRun := by
    apply TransitionSystem.stepsMeet_of_labels
    intro l hl
    simp only [properRun, List.mem_cons, List.not_mem_nil, or_false] at hl
    rcases hl with rfl | rfl | rfl | rfl
    · exact Or.inr ⟨trivial, rfl, rfl, rfl, rfl⟩
    · trivial
    · trivial
    · exact Or.inl (by decide)
  obtain ⟨w, hrun, hcallbacks⟩ : ∃ w, system.run init properRun = some w ∧
      w.callbacks = [(7, some 7), (7, some 7)] := ⟨_, rfl, by decide⟩
  exact ⟨w, hrun, hcallbacks, balanced_run properRun w hproper hrun⟩

/-- A call whose SUID is not known returns its error and leaves the reference to its object. -/
theorem not_balanced : ¬ ∀ (ls : List Label) (w : Wrapper), system.run init ls = some w →
    Balanced w := by
  intro h
  obtain ⟨w, hrun, hidle, hnext, hcell⟩ : ∃ w, system.run init
      [.call (.doProvisioning 7 1 none) { noFailures with suid := .internal }] = some w ∧
      w.thread = none ∧ 0 < w.heap.next ∧ w.heap.cells 0 = .live (.reference 7) :=
    ⟨_, rfl, by decide, by decide, by decide⟩
  have hfreed := (h _ w hrun).released hidle 0 hnext
  rw [hcell] at hfreed
  cases hfreed

end Wrapper

end Exynos8890.RootPa
