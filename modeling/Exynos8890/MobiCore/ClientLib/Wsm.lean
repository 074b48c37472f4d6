import Exynos8890.Library.TransitionSystem
import Exynos8890.MobiCore.ClientLib.Device

/-!
# World-shared memory in the client library

Blocks of contiguous memory from the map request over the list of their device to
the two requests that end them, `munmap` and the free request of the kernel
module.  A call carries what the kernel answers.

Main results:

- Definitions `mcMallocWsm`, `mcFreeWsm` and `removeDevice`, and the transition system
  `WsmClient.system`.
- Theorem `Apart.freeAll_eq`: freeing listed blocks changes these blocks and no others.
-/

namespace Exynos8890.MobiCore.ClientLib

/-! ## The kernel's side -/

/-- The bytes of the pages that a mapping of this length occupies. -/
def pageBytes (len : UInt32) : Nat :=
  (len.toNat + 4095) / 4096 * 4096

/-- Two mappings share a page. -/
def PagesMeet (a : UInt64) (lenA : UInt32) (b : UInt64) (lenB : UInt32) : Prop :=
  a.toNat < b.toNat + pageBytes lenB ∧ b.toNat < a.toNat + pageBytes lenA

instance (a : UInt64) (lenA : UInt32) (b : UInt64) (lenB : UInt32) :
    Decidable (PagesMeet a lenA b lenB) :=
  inferInstanceAs (Decidable (_ ∧ _))

theorem pagesMeet_self (a : UInt64) {len : UInt32} (hlen : len ≠ 0) : PagesMeet a len a len := by
  have hpos : 0 < len.toNat := by
    rw [Nat.pos_iff_ne_zero]
    intro h
    exact hlen (UInt32.toNat_inj.mp h)
  have hbytes : 0 < pageBytes len := by
    unfold pageBytes
    omega
  constructor <;> omega

theorem PagesMeet.symm {a b : UInt64} {lenA lenB : UInt32} (h : PagesMeet a lenA b lenB) :
    PagesMeet b lenB a lenA :=
  ⟨h.2, h.1⟩

/-- What one successful map request has obtained: the handle, the address range that
`mmap` has returned for it, whether all of that range is mapped, and what was
answered to the requests that were made for the block since. -/
structure KernelWsm where
  ref : ObjectRef
  pMcKMod : ObjectRef
  handle : UInt32
  len : UInt32
  virtAddr : Option UInt64
  mapped : Bool
  munmaps : List Bool
  frees : Nat
deriving DecidableEq, Repr

/-- The answers to `munmap` and to the free request, the latter with `errno`. -/
structure FreeAnswer where
  munmap : Bool
  free : Option UInt32
deriving DecidableEq, Repr

namespace KernelWsm

/-- The range of a block, where it has one, shares a page with this range. -/
def Meets (virtAddr : UInt64) (len : UInt32) (k : KernelWsm) : Prop :=
  ∃ a ∈ k.virtAddr, PagesMeet a k.len virtAddr len

instance (virtAddr : UInt64) (len : UInt32) (k : KernelWsm) : Decidable (k.Meets virtAddr len) :=
  inferInstanceAs (Decidable (∃ a ∈ k.virtAddr, _))

/-- `munmap` of the range of a descriptor takes the pages from whoever has them. -/
def munmapped (wsm : WsmPtr) (ok : Bool) (k : KernelWsm) : KernelWsm :=
  { k with
    mapped := k.mapped && !(ok && decide (k.Meets wsm.pWsm.virtAddr wsm.pWsm.len))
    munmaps := if k.ref = wsm.ref then k.munmaps ++ [ok] else k.munmaps }

/-- The free request for the handle of a descriptor. -/
def freed (wsm : WsmPtr) (errno : Option UInt32) (k : KernelWsm) : KernelWsm :=
  { k with frees := if k.ref = wsm.ref ∧ errno = none then k.frees + 1 else k.frees }

/-- A block after both requests were made for it. -/
def finish (answer : FreeAnswer) (k : KernelWsm) : KernelWsm :=
  { k with
    mapped := k.mapped && !answer.munmap
    munmaps := k.munmaps ++ [answer.munmap]
    frees := if answer.free = none then k.frees + 1 else k.frees }

/-- The mapped block of a descriptor. -/
structure LiesAt (wsm : WsmPtr) (k : KernelWsm) : Prop where
  ref : k.ref = wsm.ref
  virtAddr : k.virtAddr = some wsm.pWsm.virtAddr
  len : k.len = wsm.pWsm.len
  nonempty : wsm.pWsm.len ≠ 0
  mapped : k.mapped = true

end KernelWsm

/-- `CMcKMod::free`: the free request is made even when `munmap` fails. -/
def kmodFree (wsm : WsmPtr) (answer : FreeAnswer) (kernel : List KernelWsm) :
    McResult × List KernelWsm :=
  let kernel := kernel.map (KernelWsm.munmapped wsm answer.munmap)
  let kernel := kernel.map (KernelWsm.freed wsm answer.free)
  match answer.free with
  | some errno => (makeMcDrvKmodWithErrno errno, kernel)
  | none => (mcDrvOk, kernel)

/-- The loop of `Device::~Device` over the blocks; the results are not used. -/
def freeAll (answers : ObjectRef → FreeAnswer) (wsmL2List : List WsmPtr)
    (kernel : List KernelWsm) : List KernelWsm :=
  wsmL2List.foldl (fun kernel wsm => (kmodFree wsm (answers wsm.ref) kernel).2) kernel

/-! ## The client's side -/

/-- The client library and the kernel objects it has obtained.  `nextRef` numbers the
objects. -/
structure WsmClient where
  devices : List Device
  kernel : List KernelWsm
  nextRef : ObjectRef
deriving DecidableEq, Repr

/-- The answers of the kernel to a map request and to the `mmap` that follows it. -/
inductive MapAnswer where
  | mapFailed (errno : UInt32)
  | mmapFailed (handle errno : UInt32)
  | mapped (handle : UInt32) (virtAddr physAddr : UInt64)
deriving DecidableEq, Repr

/-- The map request has succeeded and `mmap` has not. -/
def MapAnswer.leaks : MapAnswer → Bool
  | .mmapFailed .. => true
  | _ => false

namespace WsmClient

/-- No device is open. -/
def init : WsmClient where
  devices := []
  kernel := []
  nextRef := 0

/-- Change a device object through its pointer. -/
def updateDevice (deviceId : UInt32) (f : Device → Device) (c : WsmClient) : WsmClient :=
  { c with devices := KeyedList.update Device.deviceId deviceId f c.devices }

/-- A map request has succeeded. -/
def obtain (pMcKMod : ObjectRef) (handle len : UInt32) (virtAddr : Option UInt64)
    (c : WsmClient) : WsmClient :=
  { c with
    kernel := c.kernel ++
      [{ ref := c.nextRef, pMcKMod := pMcKMod, handle := handle, len := len
         virtAddr := virtAddr, mapped := virtAddr.isSome, munmaps := [], frees := 0 }]
    nextRef := c.nextRef + 1 }

/-- `CMcKMod::mapWsm`.  When `mmap` fails the handle is kept nowhere. -/
def mapWsm (pMcKMod : ObjectRef) (len : UInt32) (answer : MapAnswer) (c : WsmClient) :
    Except McResult CWsm × WsmClient :=
  match answer with
  | .mapFailed errno => (.error (makeMcDrvKmodWithErrno errno), c)
  | .mmapFailed handle errno =>
      (.error (makeMcDrvKmodWithErrno errno), c.obtain pMcKMod handle len none)
  | .mapped handle virtAddr physAddr =>
      (.ok { virtAddr := virtAddr, len := len, handle := handle, physAddr := physAddr },
        c.obtain pMcKMod handle len (some virtAddr))

/-- `Device::allocateContiguousWsm`. -/
def allocateContiguousWsm (device : Device) (len : UInt32) (answer : MapAnswer)
    (c : WsmClient) : McResult × WsmClient :=
  if len = 0 then (mcDrvErrInvalidLength, c)
  else
    match c.mapWsm device.pMcKMod len answer with
    | (.error ret, c') => (ret, c')
    | (.ok pWsm, c') =>
        (mcDrvOk, c'.updateDevice device.deviceId
          (Device.pushWsm { ref := c.nextRef, pWsm := pWsm }))

/-- `mcMallocWsm`; `wsm` says whether the caller's pointer is not null. -/
def mcMallocWsm (deviceId len : UInt32) (wsm : Bool) (answer : MapAnswer) (c : WsmClient) :
    McResult × WsmClient :=
  match resolveDeviceId deviceId c.devices with
  | none => (checkDeviceClosed deviceId, c)
  | some device =>
      if wsm = false then (mcDrvErrNullPointer, c)
      else c.allocateContiguousWsm device len answer

/-- `Device::freeContiguousWsm`: the block stays listed when its free request fails. -/
def freeContiguousWsm (device : Device) (wsm : WsmPtr) (answer : FreeAnswer) (c : WsmClient) :
    McResult × WsmClient :=
  let result := kmodFree wsm answer c.kernel
  if result.1 ≠ mcDrvOk then (result.1, { c with kernel := result.2 })
  else
    (result.1,
      { c with kernel := result.2 }.updateDevice device.deviceId (Device.eraseWsm wsm))

/-- `mcFreeWsm`. -/
def mcFreeWsm (deviceId : UInt32) (virtAddr : UInt64) (answer : FreeAnswer) (c : WsmClient) :
    McResult × WsmClient :=
  match resolveDeviceId deviceId c.devices with
  | none => (mcDrvErrUnknownDevice, c)
  | some device =>
      match device.findContiguousWsm virtAddr with
      | none => (mcDrvErrWsmNotFound, c)
      | some wsm => c.freeContiguousWsm device wsm answer

/-- `mcOpenDevice`; `result` is what connecting, the version check, the daemon and the
opening of the kernel module come to. -/
def mcOpenDevice (deviceId : UInt32) (connection : ConnPtr) (result : McResult)
    (c : WsmClient) : McResult × WsmClient :=
  match resolveDeviceId deviceId c.devices with
  | some _ => (mcDrvErrDeviceAlreadyOpen, c)
  | none =>
      if result ≠ mcDrvOk then (result, c)
      else
        (mcDrvOk,
          { c with
            devices := c.devices ++ [Device.new deviceId connection c.nextRef]
            nextRef := c.nextRef + 1 })

/-- `removeDevice`, with the destructor of the device. -/
def removeDevice (deviceId : UInt32) (answers : ObjectRef → FreeAnswer) (c : WsmClient) :
    WsmClient :=
  match resolveDeviceId deviceId c.devices with
  | none => c
  | some device =>
      { c with
        devices := KeyedList.delete Device.deviceId deviceId c.devices
        kernel := freeAll answers device.wsmL2List c.kernel }

/-- `mcCloseDevice`; `alive` is the answer of `isConnectionAlive`, and `reply` what the
close command comes to. -/
def mcCloseDevice (deviceId : UInt32) (alive : Bool) (reply : McResult)
    (answers : ObjectRef → FreeAnswer) (c : WsmClient) : McResult × WsmClient :=
  match resolveDeviceId deviceId c.devices with
  | none => (checkDeviceClosed deviceId, c)
  | some device =>
      if alive = false then (mcDrvErrDaemonUnreachable, c.removeDevice deviceId answers)
      else if device.hasSessions then (mcDrvErrSessionPending, c)
      else if reply ≠ mcDrvOk then (reply, c)
      else (mcDrvOk, c.removeDevice deviceId answers)

/-- The calls.  `deadConnection` is any call on a session that finds the connection to
the daemon dead, `sessions` any other call that opens or closes sessions. -/
inductive Call where
  | mcOpenDevice (deviceId : UInt32) (connection : ConnPtr) (result : McResult)
  | mcMallocWsm (deviceId len : UInt32) (wsm : Bool) (answer : MapAnswer)
  | mcFreeWsm (deviceId : UInt32) (virtAddr : UInt64) (answer : FreeAnswer)
  | mcCloseDevice (deviceId : UInt32) (alive : Bool) (reply : McResult)
      (answers : ObjectRef → FreeAnswer)
  | deadConnection (deviceId : UInt32) (answers : ObjectRef → FreeAnswer)
  | sessions (deviceId : UInt32) (sessionList : List Session)

/-- `mmap` returns a range that is not in use, never the null address. -/
def Possible (c : WsmClient) : Call → Prop
  | .mcMallocWsm _ len _ (.mapped _ virtAddr _) =>
      virtAddr ≠ 0 ∧ ∀ k ∈ c.kernel, k.mapped = true → ¬ k.Meets virtAddr len
  | _ => True

instance (c : WsmClient) (call : Call) : Decidable (c.Possible call) :=
  match call with
  | .mcMallocWsm _ len _ (.mapped _ virtAddr _) =>
      inferInstanceAs (Decidable (virtAddr ≠ 0 ∧
        ∀ k ∈ c.kernel, k.mapped = true → ¬ k.Meets virtAddr len))
  | .mcMallocWsm _ _ _ (.mapFailed _) => isTrue trivial
  | .mcMallocWsm _ _ _ (.mmapFailed _ _) => isTrue trivial
  | .mcOpenDevice .. => isTrue trivial
  | .mcFreeWsm .. => isTrue trivial
  | .mcCloseDevice .. => isTrue trivial
  | .deadConnection .. => isTrue trivial
  | .sessions .. => isTrue trivial

/-- The client after a call. -/
def perform (c : WsmClient) : Call → WsmClient
  | .mcOpenDevice deviceId connection result => (c.mcOpenDevice deviceId connection result).2
  | .mcMallocWsm deviceId len wsm answer => (c.mcMallocWsm deviceId len wsm answer).2
  | .mcFreeWsm deviceId virtAddr answer => (c.mcFreeWsm deviceId virtAddr answer).2
  | .mcCloseDevice deviceId alive reply answers =>
      (c.mcCloseDevice deviceId alive reply answers).2
  | .deadConnection deviceId answers => c.removeDevice deviceId answers
  | .sessions deviceId sessionList =>
      c.updateDevice deviceId fun device => { device with sessionList := sessionList }

/-- The client library under every sequence of calls and answers. -/
def system : TransitionSystem WsmClient Call where
  step c call := if c.Possible call then some (c.perform call) else none

end WsmClient

/-! ## Freeing listed blocks -/

/-- Mapped ranges do not share pages, and every block has its own number. -/
structure Apart (kernel : List KernelWsm) : Prop where
  refs : (kernel.map KernelWsm.ref).Nodup
  ranges : ∀ k ∈ kernel, ∀ k' ∈ kernel, k.mapped = true → k'.mapped = true →
    ∀ a ∈ k'.virtAddr, k.Meets a k'.len → k = k'

theorem Apart.eq_of_ref {kernel : List KernelWsm} (h : Apart kernel) {k k' : KernelWsm}
    (hk : k ∈ kernel) (hk' : k' ∈ kernel) (href : k.ref = k'.ref) : k = k' := by
  have hfound := KeyedList.lookup_of_mem h.refs hk
  rw [href, KeyedList.lookup_of_mem h.refs hk', Option.some.injEq] at hfound
  exact hfound.symm

/-- The mapped block of a descriptor shares pages with no other mapped block. -/
theorem Apart.eq_of_meets {kernel : List KernelWsm} (h : Apart kernel) {wsm : WsmPtr}
    {k k' : KernelWsm} (hk : k ∈ kernel) (hk' : k' ∈ kernel) (hlies : k'.LiesAt wsm)
    (hmapped : k.mapped = true) (hmeets : k.Meets wsm.pWsm.virtAddr wsm.pWsm.len) : k = k' := by
  apply h.ranges k hk k' hk' hmapped hlies.mapped wsm.pWsm.virtAddr hlies.virtAddr
  rw [hlies.len]
  exact hmeets

/-- The two requests reach the block of the descriptor and no other one. -/
theorem Apart.freed_munmapped {kernel : List KernelWsm} (h : Apart kernel) {wsm : WsmPtr}
    {k₀ : KernelWsm} (hk₀ : k₀ ∈ kernel) (hlies : k₀.LiesAt wsm) (answer : FreeAnswer)
    {k : KernelWsm} (hk : k ∈ kernel) :
    (k.munmapped wsm answer.munmap).freed wsm answer.free =
      if k.ref = wsm.ref then k.finish answer else k := by
  by_cases href : k.ref = wsm.ref
  · have heq : k = k₀ := h.eq_of_ref hk hk₀ (href.trans hlies.ref.symm)
    subst heq
    have hself : k.Meets wsm.pWsm.virtAddr wsm.pWsm.len := by
      refine ⟨wsm.pWsm.virtAddr, hlies.virtAddr, ?_⟩
      rw [hlies.len]
      exact pagesMeet_self _ hlies.nonempty
    simp [KernelWsm.munmapped, KernelWsm.freed, KernelWsm.finish, href, hself]
  · have hmapped : (k.mapped && !(answer.munmap &&
        decide (k.Meets wsm.pWsm.virtAddr wsm.pWsm.len))) = k.mapped := by
      cases hm : k.mapped with
      | false => simp
      | true =>
          have hmiss : ¬ k.Meets wsm.pWsm.virtAddr wsm.pWsm.len := by
            intro hmeets
            have heq := h.eq_of_meets hk hk₀ hlies hm hmeets
            exact href (heq ▸ hlies.ref)
          simp [hmiss]
    rw [if_neg href, KernelWsm.freed, KernelWsm.munmapped, hmapped, if_neg href]
    simp [href]

theorem kmodFree_snd (wsm : WsmPtr) (answer : FreeAnswer) (kernel : List KernelWsm) :
    (kmodFree wsm answer kernel).2 =
      (kernel.map (KernelWsm.munmapped wsm answer.munmap)).map
        (KernelWsm.freed wsm answer.free) := by
  unfold kmodFree
  cases answer.free <;> rfl

/-- Freeing the block of one descriptor changes that block alone. -/
theorem Apart.kmodFree_eq {kernel : List KernelWsm} (h : Apart kernel) {wsm : WsmPtr}
    {k₀ : KernelWsm} (hk₀ : k₀ ∈ kernel) (hlies : k₀.LiesAt wsm) (answer : FreeAnswer) :
    (kmodFree wsm answer kernel).2 =
      kernel.map fun k => if k.ref = wsm.ref then k.finish answer else k := by
  rw [kmodFree_snd, List.map_map]
  apply List.map_congr_left
  intro k hk
  exact h.freed_munmapped hk₀ hlies answer hk

/-- Finishing some of the blocks keeps the mapped ranges apart. -/
theorem Apart.finish {kernel : List KernelWsm} (h : Apart kernel) (p : KernelWsm → Prop)
    [DecidablePred p] (answers : ObjectRef → FreeAnswer) :
    Apart (kernel.map fun k => if p k then k.finish (answers k.ref) else k) := by
  have hfield : ∀ k : KernelWsm,
      (if p k then k.finish (answers k.ref) else k).ref = k.ref ∧
      (if p k then k.finish (answers k.ref) else k).virtAddr = k.virtAddr ∧
      (if p k then k.finish (answers k.ref) else k).len = k.len ∧
      ((if p k then k.finish (answers k.ref) else k).mapped = true → k.mapped = true) := by
    intro k
    split
    · refine ⟨rfl, rfl, rfl, ?_⟩
      intro hm
      exact (Bool.and_eq_true_iff.mp hm).1
    · exact ⟨rfl, rfl, rfl, id⟩
  constructor
  · rw [List.map_map]
    have hrefs : (KernelWsm.ref ∘ fun k => if p k then k.finish (answers k.ref) else k) =
        KernelWsm.ref := by
      funext k
      exact (hfield k).1
    rw [hrefs]
    exact h.refs
  · intro k hk k' hk' hm hm' a ha hmeets
    obtain ⟨k₁, hk₁, rfl⟩ := List.mem_map.mp hk
    obtain ⟨k₂, hk₂, rfl⟩ := List.mem_map.mp hk'
    rw [(hfield k₂).2.1] at ha
    obtain ⟨b, hb, hpages⟩ := hmeets
    rw [(hfield k₁).2.1] at hb
    rw [(hfield k₁).2.2.1, (hfield k₂).2.2.1] at hpages
    rw [h.ranges k₁ hk₁ k₂ hk₂ ((hfield k₁).2.2.2 hm) ((hfield k₂).2.2.2 hm') a ha
      ⟨b, hb, hpages⟩]

/-- Freeing listed blocks finishes these blocks and no others. -/
theorem Apart.freeAll_eq {kernel : List KernelWsm} (h : Apart kernel)
    {wsmL2List : List WsmPtr} (hnodup : (wsmL2List.map WsmPtr.ref).Nodup)
    (hlies : ∀ wsm ∈ wsmL2List, ∃ k ∈ kernel, k.LiesAt wsm)
    (answers : ObjectRef → FreeAnswer) :
    freeAll answers wsmL2List kernel =
      kernel.map fun k =>
        if k.ref ∈ wsmL2List.map WsmPtr.ref then k.finish (answers k.ref) else k := by
  induction wsmL2List generalizing kernel with
  | nil => simp [freeAll]
  | cons wsm rest ih =>
      rw [List.map_cons, List.nodup_cons] at hnodup
      obtain ⟨k₀, hk₀, hlies₀⟩ := hlies wsm List.mem_cons_self
      have hfirst : (kmodFree wsm (answers wsm.ref) kernel).2 =
          kernel.map fun k => if k.ref = wsm.ref then k.finish (answers k.ref) else k := by
        rw [h.kmodFree_eq hk₀ hlies₀]
        apply List.map_congr_left
        intro k _
        split
        · next href => rw [href]
        · rfl
      have hrest : ∀ w ∈ rest, ∃ k ∈ (kernel.map fun k =>
          if k.ref = wsm.ref then k.finish (answers k.ref) else k), k.LiesAt w := by
        intro w hw
        obtain ⟨k, hk, hkw⟩ := hlies w (List.mem_cons_of_mem _ hw)
        have hne : k.ref ≠ wsm.ref := by
          intro href
          apply hnodup.1
          rw [← href, hkw.ref]
          exact List.mem_map_of_mem hw
        exact ⟨k, List.mem_map.mpr ⟨k, hk, by rw [if_neg hne]⟩, hkw⟩
      have hstep : freeAll answers (wsm :: rest) kernel =
          freeAll answers rest (kmodFree wsm (answers wsm.ref) kernel).2 := by
        rfl
      rw [hstep, hfirst, ih (h.finish _ answers) hnodup.2 hrest, List.map_map]
      apply List.map_congr_left
      intro k _
      by_cases href : k.ref = wsm.ref
      · have hnot : wsm.ref ∉ rest.map WsmPtr.ref := hnodup.1
        have hkeep : (k.finish (answers wsm.ref)).ref = wsm.ref := href
        simp only [Function.comp_apply, href, hkeep, hnot, List.map_cons, List.mem_cons,
          true_or, if_true, if_false]
      · simp [href]

end Exynos8890.MobiCore.ClientLib
