import Exynos8890.MobiCore.ProviderCleanup
import Exynos8890.RootPa.ContainerStore

/-!
# The trustlets that a provider has installed

`getSpContainerStructure` reads the container of a service provider and, for each of its
children that is not free, the container of the trustlet.  The result of each read is
looked at, and the number of bytes that were read is not.

Main results:

- Definition `getSpContainerStructure`: the structure that is filled.
- Theorem `extends_listChildren`: what the loop over the children adds to the structure.
- Theorem `listsInstalled_iff`: the structure lists what is installed exactly when the
  containers are read as far as the fields that are used.
- Theorem `not_listsInstalled`: the container of a trustlet has one byte.
-/

namespace Exynos8890.RootPa

open CStruct MobiCore MobiCore.RegistryCleanup MobiCore.ServiceBlob

/-! ## Reading containers -/

/-- A container that is read into a new buffer: the result, the bytes that are written,
and what the buffer held before. -/
structure ContainerReading where
  ret : McResult
  written : List UInt8
  heap : Memory

/-- The buffer behind the read. -/
def ContainerReading.buffer (c : ContainerReading) : Memory :=
  store 0 c.written c.heap

/-- What the registry answers: the container of the provider, and the container of the
trustlet in each slot. -/
structure ContainerReadings where
  sp : ContainerReading
  tlt : Nat → ContainerReading

/-- `cont.attribs.state` of the container of a provider. -/
def spStateOff : Nat :=
  (member (mcSoCont mcSpCont) 1).off + (member mcSpCont 2).off

/-- `cont.children[i]` of the container of a provider. -/
def childOff (i : Nat) : Nat :=
  (member (mcSoCont mcSpCont) 1).off + (member mcSpCont 4).off + uuidLength * i

/-- `attribs.state` behind the header of the container of a trustlet. -/
def tltStateOff : Nat :=
  CStruct.sizeOf mcSoHeader + (member mcTltContCommon 2).off

example : (spStateOff, childOff 0, childOff mcContChildrenCount, tltStateOff) =
    (52, 60, 316, 52) := by
  decide

def childAt (m : Memory) (i : Nat) : McUuid :=
  ⟨load ⟨childOff i, uuidLength⟩ m, length_load _ _⟩

/-! ## The structure -/

/-- `TltContainerData`. -/
structure TltContainerData where
  uuid : McUuid
  state : UInt32
deriving DecidableEq

/-- `SpContainerStructure`. -/
structure SpContainerStructure where
  state : UInt32
  nbrOfTlts : Nat
  tltContainers : List TltContainerData
deriving DecidableEq

/-- The structure before anything is read: bytes of 0xFF and no trustlet. -/
def SpContainerStructure.cleared : SpContainerStructure where
  state := 0xFFFFFFFF
  nbrOfTlts := 0
  tltContainers := List.replicate mcContChildrenCount ⟨mcUuidFree, 0xFFFFFFFF⟩

/-- `containerExists`. -/
def containerExists (uuid : McUuid) : Bool :=
  uuid ≠ mcUuidFree

/-- Assign to `tltContainers[nbrOfTlts]`, which must be an element. -/
def SpContainerStructure.assign (s : SpContainerStructure)
    (f : TltContainerData → TltContainerData) : Option SpContainerStructure :=
  s.tltContainers[s.nbrOfTlts]?.map fun data =>
    { s with tltContainers := s.tltContainers.set s.nbrOfTlts (f data) }

/-- The body of the loop.  The id of a child is copied even behind a failure. -/
def listChild (r : ContainerReadings) (i : Nat) (acc : RootPaError × SpContainerStructure) :
    Option (RootPaError × SpContainerStructure) :=
  let uuid := childAt r.sp.buffer i
  if containerExists uuid then do
    let s ← acc.2.assign fun data => { data with uuid }
    if acc.1 = .ok then
      if (r.tlt i).ret = mcDrvOk then
        let s ← s.assign fun data => { data with state := u32At (r.tlt i).buffer tltStateOff }
        some (.ok, { s with nbrOfTlts := s.nbrOfTlts + 1 })
      else some (.registry, s)
    else some (acc.1, s)
  else some acc

/-- The loop over the children. -/
def listChildren (r : ContainerReadings) : List Nat → RootPaError × SpContainerStructure →
    Option (RootPaError × SpContainerStructure)
  | [], acc => some acc
  | i :: is, acc => do
      let acc ← listChild r i acc
      listChildren r is acc

/-- `getSpContainerStructure`. -/
def getSpContainerStructure (r : ContainerReadings) :
    Option (RootPaError × SpContainerStructure) :=
  if r.sp.ret = mcDrvOk then
    listChildren r (List.range mcContChildrenCount)
      (.ok, { SpContainerStructure.cleared with state := u32At r.sp.buffer spStateOff })
  else if r.sp.ret = mcDrvErrInvalidDeviceFile then
    some (.internalNoContainer, SpContainerStructure.cleared)
  else some (.registry, SpContainerStructure.cleared)

/-! ## What is installed -/

/-- An integer of a container, if it was read. -/
def ContainerReading.u32 (c : ContainerReading) (off : Nat) : Option UInt32 :=
  if c.ret = mcDrvOk ∧ off + 4 ≤ c.written.length then some (u32At (memoryOf c.written) off)
  else none

/-- The slots with a child. -/
def usedSlots (children : Nat → McUuid) : List Nat :=
  (List.range mcContChildrenCount).filter fun i => containerExists (children i)

/-- The structure lists the children of the container in the order of the slots, each
with the state in its own container. -/
structure ListsChildren (r : ContainerReadings) (s : SpContainerStructure) : Prop where
  read : r.sp.ret = mcDrvOk ∧ childOff mcContChildrenCount ≤ r.sp.written.length
  state : r.sp.u32 spStateOff = some s.state
  children : List.Forall₂
    (fun data i => data.uuid = childAt (memoryOf r.sp.written) i ∧
      (r.tlt i).u32 tltStateOff = some data.state)
    (s.tltContainers.take s.nbrOfTlts) (usedSlots (childAt (memoryOf r.sp.written)))

/-- The call never leaves the array, and what it fills on success lists the children. -/
def ListsInstalled (r : ContainerReadings) : Prop :=
  ∃ ret s, getSpContainerStructure r = some (ret, s) ∧
    s.tltContainers.length = mcContChildrenCount ∧ s.nbrOfTlts ≤ mcContChildrenCount ∧
    (ret = .ok → ListsChildren r s)

/-- If no read fails, the container of the provider was read up to its last child, and
the container of each child up to its state. -/
def ReadFarEnough (r : ContainerReadings) : Prop :=
  r.sp.ret = mcDrvOk → (∀ i ∈ usedSlots (childAt r.sp.buffer), (r.tlt i).ret = mcDrvOk) →
    childOff mcContChildrenCount ≤ r.sp.written.length ∧
      ∀ i ∈ usedSlots (childAt r.sp.buffer), tltStateOff + 4 ≤ (r.tlt i).written.length

/-! ## The loop -/

/-- The slots of a list that have a child. -/
def ContainerReadings.used (r : ContainerReadings) (is : List Nat) : List Nat :=
  is.filter fun i => containerExists (childAt r.sp.buffer i)

/-- What the buffers say of a child. -/
def ContainerReadings.entry (r : ContainerReadings) (i : Nat) : TltContainerData where
  uuid := childAt r.sp.buffer i
  state := u32At (r.tlt i).buffer tltStateOff

/-- The listed part of the array. -/
def SpContainerStructure.listed (s : SpContainerStructure) : List TltContainerData :=
  s.tltContainers.take s.nbrOfTlts

/-- What the loop adds over some slots. -/
structure Extends (r : ContainerReadings) (is : List Nat)
    (acc acc' : RootPaError × SpContainerStructure) : Prop where
  state : acc'.2.state = acc.2.state
  length : acc'.2.tltContainers.length = acc.2.tltContainers.length
  count : acc'.2.nbrOfTlts ≤ acc.2.nbrOfTlts + is.length
  ret : acc'.1 = .ok ↔ acc.1 = .ok ∧ ∀ i ∈ r.used is, (r.tlt i).ret = mcDrvOk
  listed : acc'.1 = .ok → acc'.2.listed = acc.2.listed ++ (r.used is).map r.entry

variable {r : ContainerReadings} {i : Nat} {is js : List Nat}
  {acc acc' acc'' : RootPaError × SpContainerStructure}

theorem used_append (is js : List Nat) : r.used (is ++ js) = r.used is ++ r.used js :=
  List.filter_append is js

theorem Extends.refl (acc : RootPaError × SpContainerStructure) : Extends r [] acc acc where
  state := rfl
  length := rfl
  count := le_rfl
  ret := by simp [ContainerReadings.used]
  listed := by simp [ContainerReadings.used]

theorem Extends.append (h : Extends r is acc acc') (h' : Extends r js acc' acc'') :
    Extends r (is ++ js) acc acc'' where
  state := h'.state.trans h.state
  length := h'.length.trans h.length
  count := by
    have hcount := h.count
    have hcount' := h'.count
    rw [List.length_append]
    omega
  ret := by rw [h'.ret, h.ret, used_append, List.forall_mem_append, and_assoc]
  listed := by
    intro hok
    rw [h'.listed hok, h.listed (h'.ret.mp hok).1, used_append, List.map_append,
      List.append_assoc]

theorem assign_spec {s : SpContainerStructure} (f : TltContainerData → TltContainerData)
    {data : TltContainerData} (hdata : s.tltContainers[s.nbrOfTlts]? = some data) :
    ∃ s', s.assign f = some s' ∧ s'.state = s.state ∧ s'.nbrOfTlts = s.nbrOfTlts ∧
      s'.tltContainers.length = s.tltContainers.length ∧ s'.listed = s.listed ∧
      s'.tltContainers[s'.nbrOfTlts]? = some (f data) := by
  have hroom : s.nbrOfTlts < s.tltContainers.length := (List.getElem?_eq_some_iff.mp hdata).1
  refine ⟨{ s with tltContainers := s.tltContainers.set s.nbrOfTlts (f data) }, ?_, rfl, rfl,
    List.length_set, List.take_set_of_le le_rfl, List.getElem?_set_self hroom⟩
  simp only [SpContainerStructure.assign, hdata, Option.map_some]

theorem extends_listChild (hroom : acc.2.nbrOfTlts < acc.2.tltContainers.length) :
    ∃ acc', listChild r i acc = some acc' ∧ Extends r [i] acc acc' := by
  obtain ⟨ret, s⟩ := acc
  by_cases hused : containerExists (childAt r.sp.buffer i)
  · have hlist : r.used [i] = [i] := by simp [ContainerReadings.used, hused]
    -- the id is copied in any case
    obtain ⟨s₁, hs₁, hstate₁, hcount₁, hlength₁, hlisted₁, hdata₁⟩ :=
      assign_spec (fun data => { data with uuid := childAt r.sp.buffer i })
        (List.getElem?_eq_getElem hroom)
    by_cases hret : ret = .ok
    · subst hret
      by_cases hread : (r.tlt i).ret = mcDrvOk
      · obtain ⟨s₂, hs₂, hstate₂, hcount₂, hlength₂, hlisted₂, hdata₂⟩ :=
          assign_spec (fun data => { data with state := u32At (r.tlt i).buffer tltStateOff })
            hdata₁
        refine ⟨(.ok, { s₂ with nbrOfTlts := s₂.nbrOfTlts + 1 }), ?_, ?_⟩
        · simp only [listChild, hused, if_true, hs₁, hread, hs₂, Option.bind_eq_bind,
            Option.bind_some]
        · constructor
          case state => exact hstate₂.trans hstate₁
          case length => exact hlength₂.trans hlength₁
          case count =>
            rw [hcount₂, hcount₁]
            exact le_rfl
          case ret => simp [hlist, hread]
          case listed =>
            intro _
            have htake : (s₂.tltContainers.take (s₂.nbrOfTlts + 1)) =
                s₂.listed ++ [r.entry i] := by
              rw [List.take_add_one, hdata₂]
              rfl
            rw [hlist, SpContainerStructure.listed, htake, hlisted₂, hlisted₁]
            rfl
      · refine ⟨(.registry, s₁), ?_, hstate₁, hlength₁, ?_, ?_, ?_⟩
        · simp only [listChild, hused, if_true, hs₁, hread, if_false, Option.bind_eq_bind,
            Option.bind_some]
        · exact hcount₁.le.trans (Nat.le_add_right _ _)
        · simp [hlist, hread]
        · exact fun hok => RootPaError.noConfusion hok
    · refine ⟨(ret, s₁), ?_, hstate₁, hlength₁, ?_, ?_, ?_⟩
      · simp only [listChild, hused, if_true, hs₁, hret, if_false, Option.bind_eq_bind,
          Option.bind_some]
      · exact hcount₁.le.trans (Nat.le_add_right _ _)
      · simp [hret]
      · exact fun hok => absurd hok hret
  · have hlist : r.used [i] = [] := by simp [ContainerReadings.used, hused]
    refine ⟨(ret, s), ?_, rfl, rfl, Nat.le_add_right _ _, ?_, ?_⟩
    · simp only [listChild, hused, Bool.false_eq_true, if_false]
    · simp [hlist]
    · simp [hlist]

/-- The output index follows the slot index, so that there is room for every slot. -/
theorem extends_listChildren (is : List Nat) {acc : RootPaError × SpContainerStructure}
    (hroom : acc.2.nbrOfTlts + is.length ≤ acc.2.tltContainers.length) :
    ∃ acc', listChildren r is acc = some acc' ∧ Extends r is acc acc' := by
  induction is generalizing acc with
  | nil => exact ⟨acc, rfl, .refl acc⟩
  | cons i is ih =>
      rw [List.length_cons] at hroom
      obtain ⟨acc₁, hfirst, hext⟩ := @extends_listChild r i acc (by omega)
      have hcount := hext.count
      obtain ⟨acc', hrest, hext'⟩ := @ih acc₁ (by
        rw [hext.length]
        rw [List.length_singleton] at hcount
        omega)
      refine ⟨acc', ?_, hext.append hext'⟩
      rw [listChildren, hfirst, Option.bind_eq_bind, Option.bind_some, hrest]

/-! ## What was read -/

/-- A field behind a read that covers it does not show the old buffer. -/
theorem load_buffer {c : ContainerReading} {off len : Nat}
    (hle : off + len ≤ c.written.length) :
    load ⟨off, len⟩ c.buffer = load ⟨off, len⟩ (memoryOf c.written) := by
  apply List.map_congr_left
  intro k hk
  have hk := List.mem_range.mp hk
  have hlt : off + k < c.written.length := by
    have hk : k < len := hk
    omega
  simp only [ContainerReading.buffer, memoryOf, store, Nat.zero_le, if_true, Nat.sub_zero,
    List.getElem?_eq_getElem hlt, Option.getD_some]

theorem u32_of_le {c : ContainerReading} {off : Nat} (hret : c.ret = mcDrvOk)
    (hle : off + 4 ≤ c.written.length) : c.u32 off = some (u32At c.buffer off) := by
  rw [ContainerReading.u32, if_pos ⟨hret, hle⟩, u32At, u32At, value, value,
    load_buffer hle]

theorem le_of_u32 {c : ContainerReading} {off : Nat} {n : UInt32} (h : c.u32 off = some n) :
    c.ret = mcDrvOk ∧ off + 4 ≤ c.written.length := by
  unfold ContainerReading.u32 at h
  split at h
  · rename_i hread
    exact hread
  · cases h

theorem childOff_le {i : Nat} (hi : i < mcContChildrenCount) :
    childOff i + uuidLength ≤ childOff mcContChildrenCount := by
  simp only [childOff, mcContChildrenCount, uuidLength] at hi ⊢
  omega

theorem childAt_buffer {c : ContainerReading}
    (hle : childOff mcContChildrenCount ≤ c.written.length) (hi : i < mcContChildrenCount) :
    childAt c.buffer i = childAt (memoryOf c.written) i :=
  Subtype.ext (load_buffer ((childOff_le hi).trans hle))

/-- The slots that the loop uses are those of the container. -/
theorem usedSlots_buffer {c : ContainerReading}
    (hle : childOff mcContChildrenCount ≤ c.written.length) :
    usedSlots (childAt (memoryOf c.written)) = usedSlots (childAt c.buffer) :=
  List.filter_congr fun i hi => by
    rw [childAt_buffer hle (List.mem_range.mp hi)]

theorem getSpContainerStructure_spec (r : ContainerReadings) :
    ∃ ret s, getSpContainerStructure r = some (ret, s) ∧
      s.tltContainers.length = mcContChildrenCount ∧ s.nbrOfTlts ≤ mcContChildrenCount ∧
      (ret = .ok ↔ r.sp.ret = mcDrvOk ∧
        ∀ i ∈ usedSlots (childAt r.sp.buffer), (r.tlt i).ret = mcDrvOk) ∧
      (ret = .ok → s.state = u32At r.sp.buffer spStateOff ∧
        s.listed = (usedSlots (childAt r.sp.buffer)).map r.entry) := by
  by_cases hsp : r.sp.ret = mcDrvOk
  · obtain ⟨⟨ret, s⟩, hloop, hext⟩ := @extends_listChildren r (List.range mcContChildrenCount)
      (.ok, { SpContainerStructure.cleared with state := u32At r.sp.buffer spStateOff })
      le_rfl
    refine ⟨ret, s, ?_, hext.length, ?_, ?_, fun hok => ⟨hext.state, hext.listed hok⟩⟩
    · rw [getSpContainerStructure, if_pos hsp, hloop]
    · exact hext.count
    · rw [hext.ret]
      simp only [hsp, true_and]
      rfl
  · by_cases hfile : r.sp.ret = mcDrvErrInvalidDeviceFile
    · refine ⟨.internalNoContainer, .cleared, ?_, rfl, Nat.zero_le _, ?_, ?_⟩
      · rw [getSpContainerStructure, if_neg hsp, if_pos hfile]
      · simp only [reduceCtorEq, hsp, false_and]
      · exact fun hok => RootPaError.noConfusion hok
    · refine ⟨.registry, .cleared, ?_, rfl, Nat.zero_le _, ?_, ?_⟩
      · rw [getSpContainerStructure, if_neg hsp, if_neg hfile]
      · simp only [reduceCtorEq, hsp, false_and]
      · exact fun hok => RootPaError.noConfusion hok

/-- A successful call that lists what is installed has read all the fields. -/
theorem readFarEnough_of_listsInstalled (h : ListsInstalled r) : ReadFarEnough r := by
  intro hsp htlts
  obtain ⟨ret, s, hcall, -, -, hlists⟩ := h
  obtain ⟨ret', s', hcall', -, -, hok, -⟩ := getSpContainerStructure_spec r
  obtain ⟨rfl, rfl⟩ := Prod.mk.inj (Option.some.inj (hcall.symm.trans hcall'))
  obtain ⟨⟨-, hread⟩, -, hchildren⟩ := hlists (hok.mpr ⟨hsp, htlts⟩)
  refine ⟨hread, fun i hi => ?_⟩
  rw [usedSlots_buffer hread] at hchildren
  obtain ⟨n, hn, hget⟩ := List.getElem_of_mem hi
  have hdata := (List.forall₂_iff_get.mp hchildren).2 n (by
    rw [hchildren.length_eq]
    exact hn) hn
  rw [List.get_eq_getElem, List.get_eq_getElem, hget] at hdata
  exact (le_of_u32 hdata.2).2

/-- The structure lists what is installed exactly when the containers are read as far as
the fields that are used, or a read fails. -/
theorem listsInstalled_iff (r : ContainerReadings) : ListsInstalled r ↔ ReadFarEnough r := by
  constructor
  · exact readFarEnough_of_listsInstalled
  · intro hfar
    obtain ⟨ret, s, hcall, hlength, hcount, hok, hfilled⟩ := getSpContainerStructure_spec r
    refine ⟨ret, s, hcall, hlength, hcount, fun hret => ?_⟩
    obtain ⟨hsp, htlts⟩ := hok.mp hret
    obtain ⟨hread, hstates⟩ := hfar hsp htlts
    obtain ⟨hstate, hlisted⟩ := hfilled hret
    constructor
    case read => exact ⟨hsp, hread⟩
    case state =>
      rw [hstate]
      exact u32_of_le hsp (le_trans (by decide) hread)
    case children =>
      rw [show s.tltContainers.take s.nbrOfTlts = s.listed from rfl, hlisted,
        usedSlots_buffer hread, List.forall₂_map_left_iff, List.forall₂_same]
      intro i hi
      refine ⟨childAt_buffer hread (List.mem_range.mp (List.mem_of_mem_filter hi)), ?_⟩
      exact u32_of_le (htlts i hi) (hstates i hi)

/-- A provider with one trustlet in its fourth slot, whose container has one byte. -/
def truncatedTrustlet : ContainerReadings where
  sp := {
    ret := mcDrvOk
    written := List.replicate (childOff 0) 0 ++ List.replicate (3 * uuidLength) 0xFF ++
      List.replicate uuidLength 7 ++ List.replicate (12 * uuidLength) 0xFF ++
      List.replicate (mcSoSpContSize - childOff mcContChildrenCount) 0
    heap := fun _ => 0 }
  tlt _ := { ret := mcDrvOk, written := [0], heap := fun _ => 2 }

/-- The container of the trustlet ends before its state, and the call succeeds. -/
theorem not_listsInstalled : ¬ ListsInstalled truncatedTrustlet := by
  intro h
  have hstate := (readFarEnough_of_listsInstalled h rfl fun _ _ => rfl).2 3 (by decide +kernel)
  exact absurd hstate (by decide)

end Exynos8890.RootPa
