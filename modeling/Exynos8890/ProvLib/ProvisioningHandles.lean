import Exynos8890.Library.KeyedList
import Exynos8890.Library.MachineInt
import Exynos8890.ProvLib.DeviceBinding

/-!
# The handles of provisioning instances

An instance is a block of memory, and its handle is the address of the block as
a number of 32 bits, also in a build with 64-bit pointers.

Main results:

- Definition `HandleSystem`: every sequence of calls on any number of instances.
- Theorem `keptApart_run_iff`: exactly when each handle stays with its own
  instance, in every state of a run.
-/

namespace Exynos8890.ProvLib

open MachineInt Provisioning

/-! ## State -/

/-- `gdhandle` -/
abbrev GdHandle := UInt32

/-- `(gdhandle)(uintptr_t)inst` -/
def handleOf (address : Nat) : GdHandle :=
  UInt32.ofNat address

/-- `(gdmcinst*)(uintptr_t)provhandle` -/
def addressOf (handle : GdHandle) : Nat :=
  handle.toNat

/-- `sizeof(gdmcinst)` -/
def gdmcInstSize : Nat :=
  4 + suidLength + kSocAuthLength + authtokSize

/-- A block of the heap that holds an instance. -/
structure Block where
  address : Nat
  content : Provisioning

/-- An instance that has begun and not ended: the handle that its caller has,
its address, and what its own calls have made of it. -/
structure Begun where
  handle : GdHandle
  address : Nat
  own : Provisioning

/-- The heap, the instances as their callers see them, whether a call has used or
freed memory that is not an instance, and the status of the last call. -/
structure Instances where
  heap : List Block
  begun : List Begun
  foreign : Bool
  returned : GdError

/-- No instance has begun. -/
def Instances.init : Instances where
  heap := []
  begun := []
  foreign := false
  returned := .ok

namespace Instances

/-! ## Calls -/

/-- `malloc` fails, or gives a block of the address space that does not overlap a
live instance. -/
def MayMalloc (abi : Abi) (s : Instances) : Option Nat → Prop
  | none => True
  | some address => 0 < address ∧ address + gdmcInstSize ≤ 2 ^ abi.sizeBits ∧
      ∀ b ∈ s.heap, b.address + gdmcInstSize ≤ address ∨ address + gdmcInstSize ≤ b.address

instance (abi : Abi) (s : Instances) (malloc : Option Nat) :
    Decidable (s.MayMalloc abi malloc) :=
  match malloc with
  | none => isTrue trivial
  | some _ => inferInstanceAs (Decidable (_ ∧ _ ∧ _))

/-- `_GDMCProvBeginProvisioning`. -/
def beginProvisioning (malloc : Option Nat) (s : Instances) : Instances :=
  match malloc with
  | none => { s with returned := .insufficientMemory }
  | some address =>
      { s with
        heap := s.heap ++ [⟨address, gdmcProvBeginProvisioning⟩]
        begun := s.begun ++ [⟨handleOf address, address, gdmcProvBeginProvisioning⟩]
        returned := .ok }

/-- `_GDMCProvExecuteProvisioningStep` on the block at the address that the handle
gives. -/
def executeStep (handle : GdHandle) (st : ProvisioningStep) (s : Instances) : Instances :=
  if addressOf handle = 0 then { s with returned := .parameter }
  else
    match KeyedList.lookup Block.address (addressOf handle) s.heap with
    | none => { s with foreign := true }
    | some block =>
        let (error, content) := block.content.gdmcProvExecuteProvisioningStep st
        { s with
          heap := KeyedList.update Block.address (addressOf handle)
            (fun b => { b with content }) s.heap
          returned := error }

/-- `_GDMCProvEndProvisioning`. -/
def endProvisioning (handle : GdHandle) (s : Instances) : Instances :=
  if addressOf handle = 0 then { s with returned := .parameter }
  else
    match KeyedList.lookup Block.address (addressOf handle) s.heap with
    | none => { s with foreign := true }
    | some _ =>
        { s with
          heap := KeyedList.delete Block.address (addressOf handle) s.heap
          returned := .ok }

/-- The caller of a handle has made a step. -/
def ownStep (handle : GdHandle) (st : ProvisioningStep) (s : Instances) : Instances :=
  { s with
    begun := KeyedList.update Begun.handle handle
      (fun b => { b with own := (b.own.gdmcProvExecuteProvisioningStep st).2 }) s.begun }

/-- The caller of a handle has given it back. -/
def ownEnd (handle : GdHandle) (s : Instances) : Instances :=
  { s with begun := KeyedList.delete Begun.handle handle s.begun }

end Instances

/-- One call. -/
inductive HandleCall
  | beginProvisioning (malloc : Option Nat)
  | executeStep (handle : GdHandle) (st : ProvisioningStep)
  | endProvisioning (handle : GdHandle)

/-- One step: a handle that is passed was returned by begin and not ended. -/
def handleStep (abi : Abi) (s : Instances) : HandleCall → Option Instances
  | .beginProvisioning malloc =>
      if s.MayMalloc abi malloc then some (s.beginProvisioning malloc) else none
  | .executeStep handle st =>
      if handle ∈ s.begun.map Begun.handle then
        some ((s.executeStep handle st).ownStep handle st)
      else none
  | .endProvisioning handle =>
      if handle ∈ s.begun.map Begun.handle then
        some ((s.endProvisioning handle).ownEnd handle)
      else none

/-- All sequences of calls on any number of instances. -/
def HandleSystem (abi : Abi) : TransitionSystem Instances HandleCall where
  step := handleStep abi

/-! ## The property -/

/-- Live instances have different handles, each handle gives the address of its
own instance, the heap holds the live instances as their own calls have left
them, and nothing else is used or freed. -/
structure KeptApart (s : Instances) : Prop where
  handles : (s.begun.map Begun.handle).Nodup
  own : ∀ b ∈ s.begun, addressOf b.handle = b.address
  heap : s.heap = s.begun.map fun b => ⟨b.address, b.own⟩
  memory : s.foreign = false

/-- A block that `malloc` gives has an address of 32 bits. -/
def LowAddress (abi : Abi) (s : Instances) : HandleCall → Prop
  | .beginProvisioning (some address) =>
      s.MayMalloc abi (some address) → address < 2 ^ 32
  | _ => True

/-! ## Calls keep the instances apart -/

theorem addressOf_handleOf (address : Nat) :
    addressOf (handleOf address) = address ↔ address < 2 ^ 32 := by
  rw [addressOf, handleOf, UInt32.toNat_ofNat']
  exact ⟨fun h => by omega, fun h => Nat.mod_eq_of_lt h⟩

theorem addressOf_inj {a b : GdHandle} : addressOf a = addressOf b ↔ a = b :=
  UInt32.toNat_inj

section Calls

variable {s : Instances}

/-- The block of an instance. -/
def Begun.block (b : Begun) : Block :=
  ⟨b.address, b.own⟩

/-- A block has the address of a handle exactly if the instance has the handle. -/
theorem KeptApart.address_iff (hs : KeptApart s) (handle : GdHandle) :
    ∀ b ∈ s.begun, Block.address b.block = addressOf handle ↔ b.handle = handle := by
  intro b hb
  rw [← addressOf_inj, hs.own b hb]
  rfl

/-- The call finds the instance that its handle was returned for. -/
theorem KeptApart.lookup (hs : KeptApart s) {b : Begun} (hb : b ∈ s.begun) :
    KeyedList.lookup Block.address (addressOf b.handle) s.heap = some b.block := by
  have haddresses : (s.heap.map Block.address).Nodup := by
    have heq : s.heap.map Block.address = (s.begun.map Begun.handle).map addressOf := by
      rw [hs.heap, List.map_map, List.map_map]
      exact List.map_congr_left fun b hb => (hs.own b hb).symm
    rw [heq]
    exact hs.handles.map fun a b => addressOf_inj.mp
  have hmem : b.block ∈ s.heap := by
    rw [hs.heap]
    exact List.mem_map_of_mem hb
  have hfound := KeyedList.lookup_of_mem haddresses hmem
  rwa [hs.own b hb]

/-- What holds between the calls. -/
structure Addressed (s : Instances) : Prop extends KeptApart s where
  positive : ∀ b ∈ s.begun, 0 < b.address

theorem init_addressed : Addressed Instances.init where
  handles := List.nodup_nil
  own := fun _ h => absurd h List.not_mem_nil
  heap := rfl
  memory := rfl
  positive := fun _ h => absurd h List.not_mem_nil

/-- An instance begins; its handle is its own exactly if its address is low. -/
theorem Addressed.begin_iff (hs : Addressed s) {abi : Abi} {address : Nat}
    (hmay : s.MayMalloc abi (some address)) :
    KeptApart (s.beginProvisioning (some address)) ↔ address < 2 ^ 32 := by
  constructor
  · intro h
    exact (addressOf_handleOf address).mp (h.own _ (List.mem_append_right _ List.mem_cons_self))
  · intro hlow
    have haddress := (addressOf_handleOf address).mpr hlow
    have hnew : handleOf address ∉ s.begun.map Begun.handle := by
      intro hmem
      obtain ⟨b, hb, hhandle⟩ := List.mem_map.mp hmem
      have hsame : b.address = address := by
        rw [← hs.own b hb, hhandle, haddress]
      have hblock : b.block ∈ s.heap := by
        rw [hs.heap]
        exact List.mem_map_of_mem hb
      have hsize : 0 < gdmcInstSize := by decide
      have hdisjoint := hmay.2.2 b.block hblock
      simp only [Begun.block] at hdisjoint
      omega
    constructor
    case handles =>
      simp only [Instances.beginProvisioning, List.map_append, List.map_cons, List.map_nil]
      refine List.Nodup.append hs.handles (List.nodup_singleton _) ?_
      simpa using hnew
    case own =>
      intro b hb
      rcases List.mem_append.mp hb with hb | hb
      · exact hs.own b hb
      · rw [List.mem_singleton.mp hb]
        exact haddress
    case heap =>
      simp [Instances.beginProvisioning, hs.heap]
    case memory => exact hs.memory

/-- A step changes the instance of its handle, and no other. -/
theorem Addressed.executeStep (hs : Addressed s) {b : Begun} (hb : b ∈ s.begun)
    (st : ProvisioningStep) :
    KeptApart ((s.executeStep b.handle st).ownStep b.handle st) := by
  have hpos : addressOf b.handle ≠ 0 := by
    have := hs.positive b hb
    rw [hs.own b hb]
    omega
  have hunique : ∀ x ∈ s.begun, x.handle = b.handle → x = b := fun x hx h =>
    List.inj_on_of_nodup_map hs.handles hx hb h
  have hnames : ∀ x : Begun, Begun.handle { x with
      own := (x.own.gdmcProvExecuteProvisioningStep st).2 } = x.handle := fun _ => rfl
  simp only [Instances.executeStep, if_neg hpos, hs.lookup hb, Instances.ownStep]
  constructor
  case handles =>
    simp only [KeyedList.map_update hnames]
    exact hs.handles
  case own =>
    intro x hx
    rcases KeyedList.mem_update.mp hx with ⟨a, ha, -, rfl⟩ | ⟨hx, -⟩
    · exact hs.own a ha
    · exact hs.own x hx
  case heap =>
    simp only [hs.heap]
    refine KeyedList.update_map (hs.address_iff b.handle) fun x hx hhandle => ?_
    rw [hunique x hx hhandle]
    rfl
  case memory => exact hs.memory

theorem Addressed.endProvisioning (hs : Addressed s) {b : Begun} (hb : b ∈ s.begun) :
    KeptApart ((s.endProvisioning b.handle).ownEnd b.handle) := by
  have hpos : addressOf b.handle ≠ 0 := by
    have := hs.positive b hb
    rw [hs.own b hb]
    omega
  simp only [Instances.endProvisioning, if_neg hpos, hs.lookup hb, Instances.ownEnd]
  constructor
  case handles => exact KeyedList.nodup_delete hs.handles
  case own => exact fun x hx => hs.own x (KeyedList.mem_of_mem_delete hx)
  case heap =>
    simp only [hs.heap]
    exact KeyedList.delete_map (hs.address_iff b.handle)
  case memory => exact hs.memory

theorem handleStep_positive {abi : Abi} {call : HandleCall} {t : Instances}
    (hs : ∀ b ∈ s.begun, 0 < b.address) (hstep : handleStep abi s call = some t) :
    ∀ b ∈ t.begun, 0 < b.address := by
  cases call with
  | beginProvisioning malloc =>
      simp only [handleStep] at hstep
      split at hstep
      · rename_i hmay
        cases hstep
        cases malloc with
        | none => exact hs
        | some address =>
            intro b hb
            rcases List.mem_append.mp hb with hb | hb
            · exact hs b hb
            · rw [List.mem_singleton.mp hb]
              exact hmay.1
      · cases hstep
  | executeStep handle st =>
      simp only [handleStep] at hstep
      split at hstep
      · cases hstep
        have hbegun : (s.executeStep handle st).begun = s.begun := by
          unfold Instances.executeStep
          split
          · rfl
          · split <;> rfl
        intro b hb
        simp only [Instances.ownStep, hbegun] at hb
        rcases KeyedList.mem_update.mp hb with ⟨a, ha, -, rfl⟩ | ⟨hb, -⟩
        · exact hs a ha
        · exact hs b hb
      · cases hstep
  | endProvisioning handle =>
      simp only [handleStep] at hstep
      split at hstep
      · cases hstep
        have hbegun : (s.endProvisioning handle).begun = s.begun := by
          unfold Instances.endProvisioning
          split
          · rfl
          · split <;> rfl
        intro b hb
        simp only [Instances.ownEnd, hbegun] at hb
        exact hs b (KeyedList.mem_of_mem_delete hb)
      · cases hstep

/-- A call keeps the instances apart exactly if it does not begin one at a high
address. -/
theorem handleStep_keptApart_iff {abi : Abi} (hs : Addressed s) (call : HandleCall) :
    (∀ t, handleStep abi s call = some t → KeptApart t) ↔ LowAddress abi s call := by
  cases call with
  | beginProvisioning malloc =>
      cases malloc with
      | none =>
          refine ⟨fun _ => trivial, fun _ t hstep => ?_⟩
          simp only [handleStep] at hstep
          split at hstep
          · cases hstep
            exact ⟨hs.handles, hs.own, hs.heap, hs.memory⟩
          · cases hstep
      | some address =>
          constructor
          · intro h hmay
            exact (hs.begin_iff hmay).mp (h _ (if_pos hmay))
          · intro hlow t hstep
            simp only [handleStep] at hstep
            split at hstep
            · rename_i hmay
              cases hstep
              exact (hs.begin_iff hmay).mpr (hlow hmay)
            · cases hstep
  | executeStep handle st =>
      refine ⟨fun _ => trivial, fun _ t hstep => ?_⟩
      simp only [handleStep] at hstep
      split at hstep
      · rename_i hmem
        cases hstep
        obtain ⟨b, hb, rfl⟩ := List.mem_map.mp hmem
        exact hs.executeStep hb st
      · cases hstep
  | endProvisioning handle =>
      refine ⟨fun _ => trivial, fun _ t hstep => ?_⟩
      simp only [handleStep] at hstep
      split at hstep
      · rename_i hmem
        cases hstep
        obtain ⟨b, hb, rfl⟩ := List.mem_map.mp hmem
        exact hs.endProvisioning hb
      · cases hstep

end Calls

/-! ## Runs -/

/-- In a run the instances are kept apart in every state exactly if every
instance begins at an address of 32 bits. -/
theorem keptApart_run_iff (abi : Abi) (calls : List HandleCall) :
    (∀ calls' t, calls' <+: calls →
      (HandleSystem abi).run Instances.init calls' = some t → KeptApart t) ↔
      (HandleSystem abi).StepsMeet (LowAddress abi) Instances.init calls := by
  rw [← TransitionSystem.stepsMeet_next_iff init_addressed.toKeptApart]
  refine TransitionSystem.stepsMeet_congr ?_
    (fun s call hs => handleStep_keptApart_iff hs call) init_addressed
  intro s call t hs hkept hstep
  exact ⟨hkept t hstep, handleStep_positive hs.positive hstep⟩

/-- Two instances of a 64-bit build have the same handle. -/
theorem shared_handle :
    ¬ ∀ (abi : Abi) (calls : List HandleCall) (t : Instances),
      (HandleSystem abi).run Instances.init calls = some t → KeptApart t := by
  intro h
  have hkept := h .arm64 [.beginProvisioning (some 0x7f00001000),
    .beginProvisioning (some 0x8000001000)] _ rfl
  exact absurd hkept.handles (by decide)

end Exynos8890.ProvLib
