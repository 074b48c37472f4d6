import Exynos8890.MobiCore.ClientLib.Wsm

/-!
# The life cycle of world-shared memory

The list of a device, the address space and the handles of the kernel module fit
together, over every sequence of calls that allocate, free and remove devices.

Main results:

- Theorem `step_accounted`: every listed block is mapped memory that was never
  freed, and every other block was freed once.
- Theorem `wsmLifeCycle_run`: the life cycle of all blocks, over runs in which the
  kernel's answers leave nothing half done.
-/

namespace Exynos8890.MobiCore.ClientLib

/-! ## The invariant -/

/-- A block that its device still lists: mapped, and never freed. -/
structure KernelWsm.Backs (device : Device) (wsm : WsmPtr) (k : KernelWsm) : Prop
    extends k.LiesAt wsm where
  pMcKMod : k.pMcKMod = device.pMcKMod
  nonnull : wsm.pWsm.virtAddr ≠ 0
  munmaps : true ∉ k.munmaps
  frees : k.frees = 0

/-- A block that was freed once; where it is still mapped its device is gone. -/
structure KernelWsm.Released (devices : List Device) (k : KernelWsm) : Prop where
  frees : k.frees = 1
  munmaps : true ∉ k.munmaps.dropLast
  mapped : k.mapped = true → ∀ device ∈ devices, device.pMcKMod ≠ k.pMcKMod

namespace WsmClient

/-- Lists, address space and handles fit together. -/
structure Accounted (c : WsmClient) : Prop extends Apart c.kernel where
  ids : (c.devices.map Device.deviceId).Nodup
  files : (c.devices.map Device.pMcKMod).Nodup
  files_lt : ∀ device ∈ c.devices, device.pMcKMod < c.nextRef
  refs_lt : ∀ k ∈ c.kernel, k.ref < c.nextRef ∧ k.pMcKMod < c.nextRef
  lists : ∀ device ∈ c.devices, (device.wsmL2List.map WsmPtr.ref).Nodup
  listed : ∀ device ∈ c.devices, ∀ wsm ∈ device.wsmL2List, ∃ k ∈ c.kernel, k.Backs device wsm
  blocks : ∀ k ∈ c.kernel,
    (∃ device ∈ c.devices, ∃ wsm ∈ device.wsmL2List, wsm.ref = k.ref) ∨ k.Released c.devices

theorem init_accounted : Accounted init where
  refs := List.nodup_nil
  ranges := by simp [init]
  ids := List.nodup_nil
  files := List.nodup_nil
  files_lt := by simp [init]
  refs_lt := by simp [init]
  lists := by simp [init]
  listed := by simp [init]
  blocks := by simp [init]

theorem Accounted.eq_of_file {c : WsmClient} (h : Accounted c) {device device' : Device}
    (hd : device ∈ c.devices) (hd' : device' ∈ c.devices)
    (hfile : device.pMcKMod = device'.pMcKMod) : device = device' := by
  have hfound := KeyedList.lookup_of_mem h.files hd
  rw [hfile, KeyedList.lookup_of_mem h.files hd', Option.some.injEq] at hfound
  exact hfound.symm

/-- The block of a listed descriptor is the block with its number. -/
theorem Accounted.backs {c : WsmClient} (h : Accounted c) {device : Device} {wsm : WsmPtr}
    {k : KernelWsm} (hd : device ∈ c.devices) (hw : wsm ∈ device.wsmL2List) (hk : k ∈ c.kernel)
    (href : wsm.ref = k.ref) : k.Backs device wsm := by
  obtain ⟨k', hk', hbacks⟩ := h.listed device hd wsm hw
  have heq : k = k' := h.eq_of_ref hk hk' (href.symm.trans hbacks.ref.symm)
  rw [heq]
  exact hbacks

theorem Accounted.eq_of_wsm {c : WsmClient} (h : Accounted c) {device device' : Device}
    {wsm wsm' : WsmPtr} (hd : device ∈ c.devices) (hd' : device' ∈ c.devices)
    (hw : wsm ∈ device.wsmL2List) (hw' : wsm' ∈ device'.wsmL2List) (href : wsm.ref = wsm'.ref) :
    device = device' := by
  obtain ⟨k, hk, hbacks⟩ := h.listed device hd wsm hw
  have hbacks' := h.backs hd' hw' hk (href.symm.trans hbacks.ref.symm)
  exact h.eq_of_file hd hd' (hbacks.pMcKMod.symm.trans hbacks'.pMcKMod)

/-! ## What the invariant says -/

/-- What the life cycle promises.  A range is unmapped at most once, and no request
follows the one that has unmapped it; a block that was not freed is memory; a
handle is freed once; and the search finds the mapped blocks. -/
structure WsmSound (c : WsmClient) : Prop where
  unmappedOnce : ∀ k ∈ c.kernel, true ∉ k.munmaps.dropLast
  usable : ∀ k ∈ c.kernel, ∀ device ∈ c.devices, device.pMcKMod = k.pMcKMod →
    k.virtAddr ≠ none → k.frees = 0 → k.mapped = true
  freedAtMostOnce : ∀ k ∈ c.kernel, k.frees ≤ 1
  freedAtRemoval : ∀ k ∈ c.kernel, (∀ device ∈ c.devices, device.pMcKMod ≠ k.pMcKMod) →
    k.frees = 1
  found : ∀ device ∈ c.devices, ∀ virtAddr ref,
    (∃ wsm, device.findContiguousWsm virtAddr = some wsm ∧ wsm.ref = ref) ↔
      ∃ k ∈ c.kernel, k.ref = ref ∧ k.pMcKMod = device.pMcKMod ∧ k.mapped = true ∧
        k.virtAddr = some virtAddr

theorem Accounted.addresses_distinct {c : WsmClient} (h : Accounted c) {device : Device}
    (hd : device ∈ c.devices) {wsm wsm' : WsmPtr} (hw : wsm ∈ device.wsmL2List)
    (hw' : wsm' ∈ device.wsmL2List) (haddr : wsm.pWsm.virtAddr = wsm'.pWsm.virtAddr) :
    wsm = wsm' := by
  obtain ⟨k, hk, hbacks⟩ := h.listed device hd wsm hw
  obtain ⟨k', hk', hbacks'⟩ := h.listed device hd wsm' hw'
  have hmeets : k.Meets wsm'.pWsm.virtAddr wsm'.pWsm.len := by
    refine ⟨wsm.pWsm.virtAddr, hbacks.virtAddr, ?_⟩
    have hlen : k.len ≠ 0 := by
      rw [hbacks.len]
      exact hbacks.nonempty
    have hself := pagesMeet_self wsm.pWsm.virtAddr hbacks.nonempty
    have hself' := pagesMeet_self wsm.pWsm.virtAddr hbacks'.nonempty
    rw [hbacks.len, ← haddr]
    unfold PagesMeet at hself hself' ⊢
    omega
  have heq : k = k' := h.eq_of_meets hk hk' hbacks'.toLiesAt hbacks.mapped hmeets
  have href : wsm.ref = wsm'.ref := by
    rw [← hbacks.ref, heq, hbacks'.ref]
  have hfound := KeyedList.lookup_of_mem (h.lists device hd) hw
  rw [href, KeyedList.lookup_of_mem (h.lists device hd) hw', Option.some.injEq] at hfound
  exact hfound.symm

/-- The search finds the blocks of the device that are mapped. -/
theorem Accounted.found {c : WsmClient} (h : Accounted c) {device : Device}
    (hd : device ∈ c.devices) (virtAddr : UInt64) (ref : ObjectRef) :
    (∃ wsm, device.findContiguousWsm virtAddr = some wsm ∧ wsm.ref = ref) ↔
      ∃ k ∈ c.kernel, k.ref = ref ∧ k.pMcKMod = device.pMcKMod ∧ k.mapped = true ∧
        k.virtAddr = some virtAddr := by
  constructor
  · rintro ⟨wsm, hfound, rfl⟩
    obtain ⟨_, hw, haddr⟩ := Device.findContiguousWsm_eq_some hfound
    obtain ⟨k, hk, hbacks⟩ := h.listed device hd wsm hw
    refine ⟨k, hk, hbacks.ref, hbacks.pMcKMod, hbacks.mapped, ?_⟩
    rw [hbacks.virtAddr, haddr]
  · rintro ⟨k, hk, rfl, hfile, hmapped, haddr⟩
    rcases h.blocks k hk with ⟨device', hd', wsm, hw, href⟩ | hreleased
    · have hbacks := h.backs hd' hw hk href
      have hdevice : device' = device :=
        h.eq_of_file hd' hd (hbacks.pMcKMod.symm.trans hfile)
      subst hdevice
      have hvirt : wsm.pWsm.virtAddr = virtAddr := by
        have := hbacks.virtAddr
        rw [haddr, Option.some.injEq] at this
        exact this.symm
      refine ⟨wsm, ?_, href⟩
      rw [← hvirt]
      apply Device.findContiguousWsm_of_mem
      · intro w hw' haddr'
        exact h.addresses_distinct hd' hw' hw haddr'
      · exact hbacks.nonnull
      · exact hw
    · exact absurd hfile.symm (hreleased.mapped hmapped device hd)

theorem Accounted.wsmSound {c : WsmClient} (h : Accounted c) : WsmSound c where
  unmappedOnce k hk hmem := by
    rcases h.blocks k hk with ⟨device, hd, wsm, hw, href⟩ | hreleased
    · exact (h.backs hd hw hk href).munmaps (List.dropLast_subset _ hmem)
    · exact hreleased.munmaps hmem
  usable k hk device hd hfile hrange hfrees := by
    rcases h.blocks k hk with ⟨device', hd', wsm, hw, href⟩ | hreleased
    · exact (h.backs hd' hw hk href).mapped
    · rw [hreleased.frees] at hfrees
      cases hfrees
  freedAtMostOnce k hk := by
    rcases h.blocks k hk with ⟨device, hd, wsm, hw, href⟩ | hreleased
    · have := (h.backs hd hw hk href).frees
      omega
    · exact le_of_eq hreleased.frees
  freedAtRemoval k hk hgone := by
    rcases h.blocks k hk with ⟨device, hd, wsm, hw, href⟩ | hreleased
    · exact absurd (h.backs hd hw hk href).pMcKMod.symm (hgone device hd)
    · exact hreleased.frees
  found device hd virtAddr ref := h.found hd virtAddr ref

/-! ## What a call preserves -/

/-- Requests for listed blocks.  What stays listed was refused both requests, and what
leaves its list was freed and either unmapped or listed by a device that is gone. -/
theorem Accounted.finish {c t : WsmClient} (h : Accounted c) (refs : List ObjectRef)
    (answers : ObjectRef → FreeAnswer) (hnext : t.nextRef = c.nextRef)
    (hkernel : t.kernel =
      c.kernel.map fun k => if k.ref ∈ refs then k.finish (answers k.ref) else k)
    (hrefs : ∀ ref ∈ refs, ∃ device ∈ c.devices, ∃ wsm ∈ device.wsmL2List, wsm.ref = ref)
    (hids : (t.devices.map Device.deviceId).Nodup)
    (hfiles : (t.devices.map Device.pMcKMod).Nodup)
    (hlists : ∀ device ∈ t.devices, (device.wsmL2List.map WsmPtr.ref).Nodup)
    (hfrom : ∀ device' ∈ t.devices, ∃ device ∈ c.devices, device.pMcKMod = device'.pMcKMod ∧
      ∀ wsm ∈ device'.wsmL2List, wsm ∈ device.wsmL2List ∧ (wsm.ref ∈ refs →
        (answers wsm.ref).munmap = false ∧ (answers wsm.ref).free ≠ none))
    (hto : ∀ device ∈ c.devices, ∀ wsm ∈ device.wsmL2List,
      (∃ device' ∈ t.devices, wsm ∈ device'.wsmL2List) ∨
      (wsm.ref ∈ refs ∧ (answers wsm.ref).free = none ∧
        ((answers wsm.ref).munmap = true ∨
          ∀ device' ∈ t.devices, device'.pMcKMod ≠ device.pMcKMod))) :
    Accounted t := by
  have hkeep : ∀ k : KernelWsm,
      (if k.ref ∈ refs then k.finish (answers k.ref) else k).ref = k.ref ∧
      (if k.ref ∈ refs then k.finish (answers k.ref) else k).pMcKMod = k.pMcKMod := by
    intro k
    split <;> exact ⟨rfl, rfl⟩
  constructor
  · rw [hkernel]
    exact h.toApart.finish _ answers
  · exact hids
  · exact hfiles
  · intro device' hd'
    obtain ⟨device, hd, hfile, _⟩ := hfrom device' hd'
    rw [hnext, ← hfile]
    exact h.files_lt device hd
  · intro k' hk'
    rw [hkernel] at hk'
    obtain ⟨k, hk, rfl⟩ := List.mem_map.mp hk'
    rw [(hkeep k).1, (hkeep k).2, hnext]
    exact h.refs_lt k hk
  · exact hlists
  · intro device' hd' wsm hw'
    obtain ⟨device, hd, hfile, hwsm⟩ := hfrom device' hd'
    obtain ⟨hw, hrefused⟩ := hwsm wsm hw'
    obtain ⟨k, hk, hbacks⟩ := h.listed device hd wsm hw
    rw [hkernel]
    refine ⟨_, List.mem_map_of_mem hk, ?_⟩
    by_cases href : k.ref ∈ refs
    · rw [if_pos href]
      rw [hbacks.ref] at href ⊢
      obtain ⟨hmunmap, hfree⟩ := hrefused href
      refine ⟨⟨hbacks.ref, hbacks.virtAddr, hbacks.len, hbacks.nonempty, ?_⟩,
        hbacks.pMcKMod.trans hfile, hbacks.nonnull, ?_, ?_⟩
      · simp [KernelWsm.finish, hmunmap, hbacks.mapped]
      · simp [KernelWsm.finish, hmunmap, hbacks.munmaps]
      · simp [KernelWsm.finish, hfree, hbacks.frees]
    · rw [if_neg href]
      exact ⟨hbacks.toLiesAt, hbacks.pMcKMod.trans hfile, hbacks.nonnull, hbacks.munmaps,
        hbacks.frees⟩
  · intro k' hk'
    rw [hkernel] at hk'
    obtain ⟨k, hk, rfl⟩ := List.mem_map.mp hk'
    rcases h.blocks k hk with ⟨device, hd, wsm, hw, href⟩ | hreleased
    · rcases hto device hd wsm hw with ⟨device', hd', hw'⟩ | ⟨hin, hfree, hgone⟩
      · exact Or.inl ⟨device', hd', wsm, hw', href.trans (hkeep k).1.symm⟩
      · right
        have hbacks := h.backs hd hw hk href
        rw [href] at hin hfree hgone
        rw [if_pos hin]
        constructor
        · simp [KernelWsm.finish, hfree, hbacks.frees]
        · simp [KernelWsm.finish, hbacks.munmaps]
        · intro hmapped device' hd'
          rcases hgone with hmunmap | hgone
          · simp [KernelWsm.finish, hmunmap] at hmapped
          · intro hfile
            exact hgone device' hd' (hfile.trans hbacks.pMcKMod)
    · right
      have hnot : k.ref ∉ refs := by
        intro hin
        obtain ⟨device, hd, wsm, hw, href⟩ := hrefs k.ref hin
        have hfrees := (h.backs hd hw hk href).frees
        rw [hreleased.frees] at hfrees
        cases hfrees
      rw [if_neg hnot]
      refine ⟨hreleased.frees, hreleased.munmaps, ?_⟩
      intro hmapped device' hd'
      obtain ⟨device, hd, hfile, _⟩ := hfrom device' hd'
      rw [← hfile]
      exact hreleased.mapped hmapped device hd

/-- A device that is found is open, and the only one with its id. -/
theorem resolveDeviceId_eq_some {deviceId : UInt32} {devices : List Device} {device : Device}
    (h : resolveDeviceId deviceId devices = some device) :
    device ∈ devices ∧ device.deviceId = deviceId :=
  KeyedList.mem_of_lookup h

/-- With distinct ids a change of the device that was found changes no other. -/
theorem Accounted.mem_updateDevice {c : WsmClient} (h : Accounted c) {device d : Device}
    (hd : device ∈ c.devices) {f : Device → Device} :
    d ∈ (c.updateDevice device.deviceId f).devices ↔
      d = f device ∨ (d ∈ c.devices ∧ d.deviceId ≠ device.deviceId) := by
  rw [updateDevice, KeyedList.mem_update]
  constructor
  · rintro (⟨a, ha, hid, rfl⟩ | hrest)
    · have hfound := KeyedList.lookup_of_mem h.ids ha
      rw [hid, KeyedList.lookup_of_mem h.ids hd, Option.some.injEq] at hfound
      exact Or.inl (by rw [hfound])
    · exact Or.inr hrest
  · rintro (rfl | hrest)
    · exact Or.inl ⟨device, hd, rfl, rfl⟩
    · exact Or.inr hrest

/-- What a change of a device keeps of it, it keeps of the list of devices. -/
theorem map_updateDevice {β : Type*} {g : Device → β} {f : Device → Device}
    (hf : ∀ device, g (f device) = g device) (deviceId : UInt32) (c : WsmClient) :
    (c.updateDevice deviceId f).devices.map g = c.devices.map g :=
  KeyedList.map_update hf c.devices

theorem Accounted.sessions {c : WsmClient} (h : Accounted c) (deviceId : UInt32)
    (sessionList : List Session) :
    Accounted (c.updateDevice deviceId fun device =>
      { device with sessionList := sessionList }) := by
  apply h.finish [] fun _ => ⟨false, none⟩
  · rfl
  · simp [updateDevice]
  · simp
  · rw [map_updateDevice (by intro d; rfl)]
    exact h.ids
  · rw [map_updateDevice (by intro d; rfl)]
    exact h.files
  · intro d hd
    rcases KeyedList.mem_update.mp hd with ⟨a, ha, _, rfl⟩ | ⟨hd, _⟩
    · exact h.lists a ha
    · exact h.lists d hd
  · intro d hd
    rcases KeyedList.mem_update.mp hd with ⟨a, ha, _, rfl⟩ | ⟨hd, _⟩
    · exact ⟨a, ha, rfl, fun wsm hw => ⟨hw, by simp⟩⟩
    · exact ⟨d, hd, rfl, fun wsm hw => ⟨hw, by simp⟩⟩
  · intro d hd wsm hw
    left
    by_cases hid : d.deviceId = deviceId
    · exact ⟨_, KeyedList.mem_update.mpr (Or.inl ⟨d, hd, hid, rfl⟩), hw⟩
    · exact ⟨d, KeyedList.mem_update.mpr (Or.inr ⟨hd, hid⟩), hw⟩

theorem mcOpenDevice_accounted {c : WsmClient} (h : Accounted c) (deviceId : UInt32)
    (connection : ConnPtr) (result : McResult) :
    Accounted (c.mcOpenDevice deviceId connection result).2 := by
  unfold mcOpenDevice
  cases hresolve : resolveDeviceId deviceId c.devices with
  | some _ => exact h
  | none =>
      by_cases hresult : result ≠ mcDrvOk
      · simpa [hresult] using h
      · simp only [hresult, if_false]
        have hnew : deviceId ∉ c.devices.map Device.deviceId := by
          intro hmem
          obtain ⟨device, hd, hid⟩ := List.mem_map.mp hmem
          have hfound := KeyedList.lookup_of_mem h.ids hd
          rw [hid] at hfound
          rw [resolveDeviceId, hfound] at hresolve
          cases hresolve
        have hfile : ∀ device ∈ c.devices, device.pMcKMod ≠ c.nextRef := by
          intro device hd
          exact Nat.ne_of_lt (h.files_lt device hd)
        constructor
        · exact h.toApart
        · rw [List.map_append, List.nodup_append]
          refine ⟨h.ids, by simp, ?_⟩
          intro id hid id' hid' heq
          simp only [List.map_cons, List.map_nil, List.mem_singleton] at hid'
          rw [heq, hid'] at hid
          exact hnew hid
        · rw [List.map_append, List.nodup_append]
          refine ⟨h.files, by simp, ?_⟩
          intro file hf file' hf' heq
          obtain ⟨device, hd, rfl⟩ := List.mem_map.mp hf
          simp only [List.map_cons, List.map_nil, List.mem_singleton] at hf'
          rw [hf'] at heq
          exact hfile device hd heq
        · intro device hd
          rcases List.mem_append.mp hd with hd | hd
          · exact Nat.lt_succ_of_lt (h.files_lt device hd)
          · rw [List.mem_singleton.mp hd]
            exact Nat.lt_succ_self _
        · intro k hk
          exact ⟨Nat.lt_succ_of_lt (h.refs_lt k hk).1, Nat.lt_succ_of_lt (h.refs_lt k hk).2⟩
        · intro device hd
          rcases List.mem_append.mp hd with hd | hd
          · exact h.lists device hd
          · rw [List.mem_singleton.mp hd]
            exact List.nodup_nil
        · intro device hd wsm hw
          rcases List.mem_append.mp hd with hd | hd
          · exact h.listed device hd wsm hw
          · rw [List.mem_singleton.mp hd] at hw
            cases hw
        · intro k hk
          rcases h.blocks k hk with ⟨device, hd, hlisted⟩ | hreleased
          · exact Or.inl ⟨device, List.mem_append_left _ hd, hlisted⟩
          · right
            refine ⟨hreleased.frees, hreleased.munmaps, ?_⟩
            intro hmapped device hd
            rcases List.mem_append.mp hd with hd | hd
            · exact hreleased.mapped hmapped device hd
            · rw [List.mem_singleton.mp hd]
              exact (Nat.ne_of_lt (h.refs_lt k hk).2).symm

theorem Accounted.obtain {c : WsmClient} (h : Accounted c) {device : Device}
    (hd : device ∈ c.devices) {handle len : UInt32} {virtAddr physAddr : UInt64}
    (hlen : len ≠ 0) (hnull : virtAddr ≠ 0)
    (hfree : ∀ k ∈ c.kernel, k.mapped = true → ¬ k.Meets virtAddr len) :
    Accounted ((c.obtain device.pMcKMod handle len (some virtAddr)).updateDevice device.deviceId
      (Device.pushWsm
        { ref := c.nextRef
          pWsm := { virtAddr := virtAddr, len := len, handle := handle
                    physAddr := physAddr } })) := by
  have hfresh : ∀ d ∈ c.devices, ∀ wsm ∈ d.wsmL2List, wsm.ref ≠ c.nextRef := by
    intro d hd wsm hw
    obtain ⟨k, hk, hbacks⟩ := h.listed d hd wsm hw
    rw [← hbacks.ref]
    exact Nat.ne_of_lt (h.refs_lt k hk).1
  have hdevices : ∀ d : Device,
      d ∈ ((c.obtain device.pMcKMod handle len (some virtAddr)).updateDevice device.deviceId
        (Device.pushWsm
          { ref := c.nextRef
            pWsm := { virtAddr := virtAddr, len := len, handle := handle
                      physAddr := physAddr } })).devices ↔
      d = device.pushWsm
        { ref := c.nextRef
          pWsm := { virtAddr := virtAddr, len := len, handle := handle
                    physAddr := physAddr } } ∨
      (d ∈ c.devices ∧ d.deviceId ≠ device.deviceId) := by
    intro d
    exact h.mem_updateDevice hd
  constructor
  · constructor
    · show ((c.kernel ++ [_]).map KernelWsm.ref).Nodup
      rw [List.map_append, List.nodup_append]
      refine ⟨h.refs, by simp, ?_⟩
      intro ref href ref' href' heq
      obtain ⟨k, hk, rfl⟩ := List.mem_map.mp href
      simp only [List.map_cons, List.map_nil, List.mem_singleton] at href'
      rw [href'] at heq
      exact Nat.ne_of_lt (h.refs_lt k hk).1 heq
    · intro k hk k' hk' hm hm' a ha hmeets
      rcases List.mem_append.mp hk with hk | hk <;> rcases List.mem_append.mp hk' with hk' | hk'
      · exact h.ranges k hk k' hk' hm hm' a ha hmeets
      · rw [List.mem_singleton.mp hk'] at ha hmeets
        cases ha
        exact absurd hmeets (hfree k hk hm)
      · rw [List.mem_singleton.mp hk] at hmeets
        obtain ⟨b, hb, hpages⟩ := hmeets
        cases hb
        exact absurd ⟨a, ha, hpages.symm⟩ (hfree k' hk' hm')
      · rw [List.mem_singleton.mp hk, List.mem_singleton.mp hk']
  · rw [map_updateDevice (by intro d; rfl)]
    exact h.ids
  · rw [map_updateDevice (by intro d; rfl)]
    exact h.files
  · intro d hd'
    rcases (hdevices d).mp hd' with rfl | ⟨hd', _⟩
    · exact Nat.lt_succ_of_lt (h.files_lt device hd)
    · exact Nat.lt_succ_of_lt (h.files_lt d hd')
  · intro k hk
    rcases List.mem_append.mp hk with hk | hk
    · exact ⟨Nat.lt_succ_of_lt (h.refs_lt k hk).1, Nat.lt_succ_of_lt (h.refs_lt k hk).2⟩
    · rw [List.mem_singleton.mp hk]
      exact ⟨Nat.lt_succ_self _, Nat.lt_succ_of_lt (h.files_lt device hd)⟩
  · intro d hd'
    rcases (hdevices d).mp hd' with rfl | ⟨hd', _⟩
    · rw [Device.pushWsm, List.map_append, List.nodup_append]
      refine ⟨h.lists device hd, by simp, ?_⟩
      intro ref href ref' href' heq
      obtain ⟨wsm, hw, rfl⟩ := List.mem_map.mp href
      simp only [List.map_cons, List.map_nil, List.mem_singleton] at href'
      rw [href'] at heq
      exact hfresh device hd wsm hw heq
    · exact h.lists d hd'
  · intro d hd' wsm hw
    have hold : ∀ d' ∈ c.devices, wsm ∈ d'.wsmL2List →
        ∃ k ∈ (c.obtain device.pMcKMod handle len (some virtAddr)).kernel, k.Backs d' wsm := by
      intro d' hd' hw
      obtain ⟨k, hk, hbacks⟩ := h.listed d' hd' wsm hw
      exact ⟨k, List.mem_append_left _ hk, hbacks⟩
    rcases (hdevices d).mp hd' with rfl | ⟨hd', _⟩
    · rcases List.mem_append.mp hw with hw | hw
      · obtain ⟨k, hk, hbacks⟩ := hold device hd hw
        exact ⟨k, hk, hbacks.toLiesAt, hbacks.pMcKMod, hbacks.nonnull, hbacks.munmaps,
          hbacks.frees⟩
      · rw [List.mem_singleton.mp hw]
        refine ⟨_, List.mem_append_right _ (List.mem_singleton_self _), ?_⟩
        exact ⟨⟨rfl, rfl, rfl, hlen, rfl⟩, rfl, hnull, List.not_mem_nil, rfl⟩
    · exact hold d hd' hw
  · intro k hk
    rcases List.mem_append.mp hk with hk | hk
    · rcases h.blocks k hk with ⟨d, hd', wsm, hw, href⟩ | hreleased
      · left
        by_cases hid : d.deviceId = device.deviceId
        · have hfound := KeyedList.lookup_of_mem h.ids hd'
          rw [hid, KeyedList.lookup_of_mem h.ids hd, Option.some.injEq] at hfound
          subst hfound
          exact ⟨_, (hdevices _).mpr (Or.inl rfl), wsm, List.mem_append_left _ hw, href⟩
        · exact ⟨d, (hdevices d).mpr (Or.inr ⟨hd', hid⟩), wsm, hw, href⟩
      · right
        refine ⟨hreleased.frees, hreleased.munmaps, ?_⟩
        intro hmapped d hd'
        rcases (hdevices d).mp hd' with rfl | ⟨hd', _⟩
        · exact hreleased.mapped hmapped device hd
        · exact hreleased.mapped hmapped d hd'
    · left
      rw [List.mem_singleton.mp hk]
      exact ⟨_, (hdevices _).mpr (Or.inl rfl), _,
        List.mem_append_right _ (List.mem_singleton_self _), rfl⟩

/-- A block of memory is requested; `mmap` does not fail after the map request. -/
theorem mcMallocWsm_accounted {c : WsmClient} (h : Accounted c) {deviceId len : UInt32}
    {wsm : Bool} {answer : MapAnswer} (hpossible : c.Possible (.mcMallocWsm deviceId len wsm answer))
    (hmmap : ∀ device ∈ resolveDeviceId deviceId c.devices, wsm = true → len ≠ 0 →
      ∀ handle errno, answer ≠ .mmapFailed handle errno) :
    Accounted (c.mcMallocWsm deviceId len wsm answer).2 := by
  unfold mcMallocWsm
  cases hresolve : resolveDeviceId deviceId c.devices with
  | none => exact h
  | some device =>
      cases wsm with
      | false => exact h
      | true =>
          by_cases hlen : len = 0
          · simpa [allocateContiguousWsm, hlen] using h
          · simp only [Bool.true_eq_false, if_false, allocateContiguousWsm, if_neg hlen]
            cases answer with
            | mapFailed errno => exact h
            | mmapFailed handle errno =>
                exact absurd rfl (hmmap device hresolve rfl hlen handle errno)
            | mapped handle virtAddr physAddr =>
                exact h.obtain (resolveDeviceId_eq_some hresolve).1 hlen hpossible.1 hpossible.2

theorem Accounted.refuse {c : WsmClient} (h : Accounted c) {device : Device} {wsm : WsmPtr}
    (hd : device ∈ c.devices) (hw : wsm ∈ device.wsmL2List) {answer : FreeAnswer}
    (hmunmap : answer.munmap = false) (hfree : answer.free ≠ none) :
    Accounted { c with kernel := (kmodFree wsm answer c.kernel).2 } := by
  obtain ⟨k, hk, hbacks⟩ := h.listed device hd wsm hw
  apply h.finish [wsm.ref] fun _ => answer
  · rfl
  · rw [h.kmodFree_eq hk hbacks.toLiesAt]
    simp only [List.mem_singleton]
  · intro ref href
    exact ⟨device, hd, wsm, hw, (List.mem_singleton.mp href).symm⟩
  · exact h.ids
  · exact h.files
  · exact h.lists
  · intro d hd'
    exact ⟨d, hd', rfl, fun w hw' => ⟨hw', fun _ => ⟨hmunmap, hfree⟩⟩⟩
  · intro d hd' w hw'
    exact Or.inl ⟨d, hd', hw'⟩

/-- A listed block is unmapped, freed and taken off the list. -/
theorem Accounted.erase {c : WsmClient} (h : Accounted c) {device : Device} {wsm : WsmPtr}
    (hd : device ∈ c.devices) (hw : wsm ∈ device.wsmL2List) {answer : FreeAnswer}
    (hmunmap : answer.munmap = true) (hfree : answer.free = none) :
    Accounted ({ c with kernel := (kmodFree wsm answer c.kernel).2 }.updateDevice
      device.deviceId (Device.eraseWsm wsm)) := by
  obtain ⟨k, hk, hbacks⟩ := h.listed device hd wsm hw
  have hdevices : ∀ d : Device,
      d ∈ ({ c with kernel := (kmodFree wsm answer c.kernel).2 }.updateDevice
        device.deviceId (Device.eraseWsm wsm)).devices ↔
      d = device.eraseWsm wsm ∨ (d ∈ c.devices ∧ d.deviceId ≠ device.deviceId) := by
    intro d
    exact h.mem_updateDevice hd
  have herased : ∀ w : WsmPtr, w ∈ (device.eraseWsm wsm).wsmL2List ↔
      w ∈ device.wsmL2List ∧ w.ref ≠ wsm.ref := by
    intro w
    exact KeyedList.mem_delete (h.lists device hd)
  have hother : ∀ d ∈ c.devices, d.deviceId ≠ device.deviceId → ∀ w ∈ d.wsmL2List,
      w.ref ≠ wsm.ref := by
    intro d hd' hid w hw' href
    exact hid (congrArg Device.deviceId (h.eq_of_wsm hd' hd hw' hw href))
  apply h.finish [wsm.ref] fun _ => answer
  · rfl
  · show (kmodFree wsm answer c.kernel).2 = _
    rw [h.kmodFree_eq hk hbacks.toLiesAt]
    simp only [List.mem_singleton]
  · intro ref href
    exact ⟨device, hd, wsm, hw, (List.mem_singleton.mp href).symm⟩
  · rw [map_updateDevice (by intro d; rfl)]
    exact h.ids
  · rw [map_updateDevice (by intro d; rfl)]
    exact h.files
  · intro d hd'
    rcases (hdevices d).mp hd' with rfl | ⟨hd', _⟩
    · exact KeyedList.nodup_delete (h.lists device hd)
    · exact h.lists d hd'
  · intro d hd'
    rcases (hdevices d).mp hd' with rfl | ⟨hd', hid⟩
    · refine ⟨device, hd, rfl, ?_⟩
      intro w hw'
      obtain ⟨hw', hne⟩ := (herased w).mp hw'
      exact ⟨hw', fun href => absurd (List.mem_singleton.mp href) hne⟩
    · refine ⟨d, hd', rfl, ?_⟩
      intro w hw'
      exact ⟨hw', fun href => absurd (List.mem_singleton.mp href) (hother d hd' hid w hw')⟩
  · intro d hd' w hw'
    by_cases href : w.ref = wsm.ref
    · exact Or.inr ⟨List.mem_singleton.mpr href, hfree, Or.inl hmunmap⟩
    · left
      by_cases hid : d.deviceId = device.deviceId
      · have hfound := KeyedList.lookup_of_mem h.ids hd'
        rw [hid, KeyedList.lookup_of_mem h.ids hd, Option.some.injEq] at hfound
        subst hfound
        exact ⟨_, (hdevices _).mpr (Or.inl rfl), (herased w).mpr ⟨hw', href⟩⟩
      · exact ⟨d, (hdevices d).mpr (Or.inr ⟨hd', hid⟩), hw'⟩

/-- A call to free a block, whose two requests succeed or fail together. -/
theorem mcFreeWsm_accounted {c : WsmClient} (h : Accounted c) {deviceId : UInt32}
    {virtAddr : UInt64} {answer : FreeAnswer}
    (htogether : ∀ device ∈ resolveDeviceId deviceId c.devices,
      (device.findContiguousWsm virtAddr).isSome = true →
        (answer.munmap = true ↔ answer.free = none)) :
    Accounted (c.mcFreeWsm deviceId virtAddr answer).2 := by
  unfold mcFreeWsm
  cases hresolve : resolveDeviceId deviceId c.devices with
  | none => exact h
  | some device =>
      cases hfind : device.findContiguousWsm virtAddr with
      | none => simpa [hfind] using h
      | some wsm =>
          obtain ⟨hd, _⟩ := resolveDeviceId_eq_some hresolve
          obtain ⟨_, hw, _⟩ := Device.findContiguousWsm_eq_some hfind
          have hiff := htogether device hresolve (by rw [hfind]; rfl)
          simp only [hfind]
          cases hfree : answer.free with
          | none =>
              have hret : (kmodFree wsm answer c.kernel).1 = mcDrvOk := by
                simp [kmodFree, hfree]
              simp only [freeContiguousWsm, hret, ne_eq, not_true_eq_false, if_false]
              exact h.erase hd hw (hiff.mpr hfree) hfree
          | some errno =>
              have hret : (kmodFree wsm answer c.kernel).1 ≠ mcDrvOk := by
                simp only [kmodFree, hfree]
                exact makeMcDrvKmodWithErrno_ne_ok errno
              have hsome : answer.free ≠ none := by
                rw [hfree]
                exact Option.some_ne_none errno
              simp only [freeContiguousWsm, hret, ne_eq, not_false_eq_true, if_true]
              exact h.refuse hd hw (Bool.eq_false_iff.mpr fun ht => hsome (hiff.mp ht)) hsome

/-- A device is removed, and all free requests of its destructor succeed. -/
theorem removeDevice_accounted {c : WsmClient} (h : Accounted c) {deviceId : UInt32}
    {answers : ObjectRef → FreeAnswer}
    (hfree : ∀ device ∈ resolveDeviceId deviceId c.devices, ∀ wsm ∈ device.wsmL2List,
      (answers wsm.ref).free = none) :
    Accounted (c.removeDevice deviceId answers) := by
  unfold removeDevice
  cases hresolve : resolveDeviceId deviceId c.devices with
  | none => exact h
  | some device =>
      obtain ⟨hd, rfl⟩ := resolveDeviceId_eq_some hresolve
      have hlies : ∀ wsm ∈ device.wsmL2List, ∃ k ∈ c.kernel, k.LiesAt wsm := by
        intro wsm hw
        obtain ⟨k, hk, hbacks⟩ := h.listed device hd wsm hw
        exact ⟨k, hk, hbacks.toLiesAt⟩
      have hleft : ∀ d ∈ KeyedList.delete Device.deviceId device.deviceId c.devices,
          d ∈ c.devices ∧ d ≠ device := by
        intro d hd'
        obtain ⟨hd', hid⟩ := (KeyedList.mem_delete h.ids).mp hd'
        exact ⟨hd', fun heq => hid (congrArg Device.deviceId heq)⟩
      apply h.finish (device.wsmL2List.map WsmPtr.ref) answers
      · rfl
      · exact h.freeAll_eq (h.lists device hd) hlies answers
      · intro ref href
        obtain ⟨wsm, hw, rfl⟩ := List.mem_map.mp href
        exact ⟨device, hd, wsm, hw, rfl⟩
      · exact KeyedList.nodup_delete h.ids
      · exact h.files.sublist (List.eraseP_sublist.map Device.pMcKMod)
      · intro d hd'
        exact h.lists d (hleft d hd').1
      · intro d hd'
        obtain ⟨hd', hne⟩ := hleft d hd'
        refine ⟨d, hd', rfl, ?_⟩
        intro wsm hw
        refine ⟨hw, ?_⟩
        intro href
        obtain ⟨wsm', hw', href'⟩ := List.mem_map.mp href
        exact absurd (h.eq_of_wsm hd' hd hw hw' href'.symm) hne
      · intro d hd' wsm hw
        by_cases hid : d.deviceId = device.deviceId
        · have hfound := KeyedList.lookup_of_mem h.ids hd'
          rw [hid, KeyedList.lookup_of_mem h.ids hd, Option.some.injEq] at hfound
          subst hfound
          right
          refine ⟨List.mem_map_of_mem hw, hfree device hresolve wsm hw, Or.inr ?_⟩
          intro d' hd' hfile
          obtain ⟨hd', hne⟩ := hleft d' hd'
          exact hne (h.eq_of_file hd' hd hfile)
        · exact Or.inl ⟨d, (KeyedList.mem_delete h.ids).mpr ⟨hd', hid⟩, hw⟩

/-! ## Runs -/

/-- Every free request succeeds when the device with this id is removed. -/
def FreesAll (c : WsmClient) (deviceId : UInt32) (answers : ObjectRef → FreeAnswer) : Prop :=
  ∀ device ∈ resolveDeviceId deviceId c.devices, ∀ wsm ∈ device.wsmL2List,
    (answers wsm.ref).free = none

instance (c : WsmClient) (deviceId : UInt32) (answers : ObjectRef → FreeAnswer) :
    Decidable (c.FreesAll deviceId answers) :=
  inferInstanceAs (Decidable (∀ device ∈ resolveDeviceId deviceId c.devices, _))

/-- The kernel's answers leave nothing half done: no `mmap` fails behind a map request
that has succeeded, `munmap` and the free request of `mcFreeWsm` succeed or fail
together, and no free request fails while a device is removed. -/
def AnswersWhole (c : WsmClient) : Call → Prop
  | .mcMallocWsm deviceId len wsm answer =>
      ∀ device ∈ resolveDeviceId deviceId c.devices, wsm = true → len ≠ 0 →
        answer.leaks = false
  | .mcFreeWsm deviceId virtAddr answer =>
      ∀ device ∈ resolveDeviceId deviceId c.devices,
        (device.findContiguousWsm virtAddr).isSome = true →
          (answer.munmap = true ↔ answer.free = none)
  | .mcCloseDevice deviceId alive reply answers =>
      (alive = false ∨ (reply = mcDrvOk ∧
        ∀ device ∈ resolveDeviceId deviceId c.devices, device.hasSessions = false)) →
          c.FreesAll deviceId answers
  | .deadConnection deviceId answers => c.FreesAll deviceId answers
  | .mcOpenDevice .. => True
  | .sessions .. => True

instance (c : WsmClient) (call : Call) : Decidable (c.AnswersWhole call) :=
  match call with
  | .mcMallocWsm deviceId _ _ _ =>
      inferInstanceAs (Decidable (∀ device ∈ resolveDeviceId deviceId c.devices, _))
  | .mcFreeWsm deviceId _ _ =>
      inferInstanceAs (Decidable (∀ device ∈ resolveDeviceId deviceId c.devices, _))
  | .mcCloseDevice deviceId alive reply answers =>
      inferInstanceAs (Decidable ((alive = false ∨ (reply = mcDrvOk ∧
        ∀ device ∈ resolveDeviceId deviceId c.devices, device.hasSessions = false)) →
          c.FreesAll deviceId answers))
  | .deadConnection deviceId answers => inferInstanceAs (Decidable (c.FreesAll deviceId answers))
  | .mcOpenDevice .. => isTrue trivial
  | .sessions .. => isTrue trivial

/-- A call keeps lists, address space and handles together. -/
theorem step_accounted (c : WsmClient) (call : Call) (t : WsmClient) (h : Accounted c)
    (hwhole : c.AnswersWhole call) (hstep : system.step c call = some t) : Accounted t := by
  have hpossible : c.Possible call := by
    by_contra hnot
    simp [system, hnot] at hstep
  have ht : t = c.perform call := by
    simpa [system, hpossible] using hstep.symm
  subst ht
  cases call with
  | mcOpenDevice deviceId connection result =>
      exact mcOpenDevice_accounted h deviceId connection result
  | mcMallocWsm deviceId len wsm answer =>
      apply mcMallocWsm_accounted h hpossible
      intro device hd hwsm hlen handle errno heq
      have hleaks := hwhole device hd hwsm hlen
      rw [heq] at hleaks
      cases hleaks
  | mcFreeWsm deviceId virtAddr answer => exact mcFreeWsm_accounted h hwhole
  | mcCloseDevice deviceId alive reply answers =>
      show Accounted (c.mcCloseDevice deviceId alive reply answers).2
      unfold mcCloseDevice
      cases hresolve : resolveDeviceId deviceId c.devices with
      | none => exact h
      | some device =>
          simp only
          split
          · next halive => exact removeDevice_accounted h (hwhole (Or.inl halive))
          · split
            · exact h
            · next hsessions =>
                split
                · exact h
                · next hreply =>
                    apply removeDevice_accounted h
                    apply hwhole
                    right
                    constructor
                    · exact not_not.mp hreply
                    · intro d hd
                      rw [hresolve] at hd
                      cases hd
                      exact Bool.eq_false_iff.mpr hsessions
  | deadConnection deviceId answers => exact removeDevice_accounted h hwhole
  | sessions deviceId sessionList => exact h.sessions deviceId sessionList

/-- While the kernel's answers leave nothing half done, every address range is unmapped
at most once, a block that was not freed stays memory, every handle is freed once by
the time its device is removed, and the search finds the mapped blocks. -/
theorem wsmLifeCycle_run (calls : List Call) (c : WsmClient)
    (hwhole : system.StepsMeet AnswersWhole init calls)
    (hrun : system.run init calls = some c) : WsmSound c :=
  (TransitionSystem.run_invariant step_accounted init_accounted hwhole hrun).wsmSound

/-- Two blocks; freeing the first one is refused and tried again, and the second one is
left to the destructor. -/
def freeAgain : List Call :=
  [.mcOpenDevice 0 1 mcDrvOk, .mcMallocWsm 0 0x1000 true (.mapped 5 0x10000 0x80000),
    .mcMallocWsm 0 100 true (.mapped 6 0x11000 0x81000), .mcFreeWsm 0 0x10000 ⟨false, some 16⟩,
    .mcFreeWsm 0 0x10000 ⟨true, none⟩, .mcCloseDevice 0 true mcDrvOk fun _ => ⟨true, none⟩]

theorem wsmLifeCycle_run_freeAgain :
    ∃ c, system.run init freeAgain = some c ∧ WsmSound c :=
  ⟨_, rfl, wsmLifeCycle_run freeAgain _ (by decide) rfl⟩

/-- The free request fails behind a `munmap` that has succeeded, and the client tries
again. -/
def freeHalfway : List Call :=
  [.mcOpenDevice 0 1 mcDrvOk, .mcMallocWsm 0 0x1000 true (.mapped 5 0x10000 0x80000),
    .mcFreeWsm 0 0x10000 ⟨true, some 16⟩, .mcFreeWsm 0 0x10000 ⟨true, some 16⟩]

/-- The block stays listed although it is no memory any more, and its range is unmapped
a second time. -/
theorem not_wsmLifeCycle :
    ¬ ∀ calls c, system.run init calls = some c → WsmSound c := by
  intro hsound
  have hbroken := hsound freeHalfway _ rfl
  have honce := hbroken.unmappedOnce _ List.mem_cons_self
  exact honce (by decide)

end WsmClient

end Exynos8890.MobiCore.ClientLib
