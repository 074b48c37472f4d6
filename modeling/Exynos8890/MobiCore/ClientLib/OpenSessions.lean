import Exynos8890.MobiCore.ClientLib.Process

/-!
# The open sessions of a process

The sessions that the devices of a process list, and what each call on a session does to
them.  A call that loses the connection to the daemon removes the device with all of its
sessions.

Main results:

- Definitions `HasDevice`, `IsOpen` and `Distinct`.
- Definition `Fewer`: devices have been removed with their sessions, and nothing else has
  happened.
- Theorems `mcMap_fewer`, `mcUnmap_fewer`, `mcNotify_fewer` and `mcWaitNotification_fewer`.
- Theorems `mcCloseSession_closes` and `mcOpenGPTA_cases`.
-/

namespace Exynos8890.MobiCore.ClientLib

/-- The ids of the sessions of a device. -/
def Device.sessionIds (device : Device) : List UInt32 :=
  device.sessionList.map Session.sessionId

@[simp]
theorem Device.sessionIds_updateSession {sessionId : UInt32} {f : Session → Session}
    (hf : ∀ session, (f session).sessionId = session.sessionId) (device : Device) :
    (device.updateSession sessionId f).sessionIds = device.sessionIds :=
  KeyedList.map_update hf device.sessionList

namespace Process

/-- The ids of the devices, each with the ids of its sessions. -/
def table (p : Process) : List (UInt32 × List UInt32) :=
  p.devices.map fun device => (device.deviceId, device.sessionIds)

/-- A device with this id is open. -/
def HasDevice (p : Process) (deviceId : UInt32) : Prop :=
  deviceId ∈ p.table.map Prod.fst

/-- The device of the handle lists its session. -/
def IsOpen (p : Process) (handle : SessionHandle) : Prop :=
  ∃ entry ∈ p.table, entry.1 = handle.deviceId ∧ handle.sessionId ∈ entry.2

instance (p : Process) (deviceId : UInt32) : Decidable (p.HasDevice deviceId) :=
  inferInstanceAs (Decidable (deviceId ∈ p.table.map Prod.fst))

instance (p : Process) (handle : SessionHandle) : Decidable (p.IsOpen handle) :=
  inferInstanceAs (Decidable (∃ entry ∈ p.table, _))

/-- The ids of the devices differ, and so do those of the sessions of a device. -/
structure Distinct (p : Process) : Prop where
  devices : (p.table.map Prod.fst).Nodup
  sessions : ∀ entry ∈ p.table, entry.2.Nodup

theorem IsOpen.hasDevice {p : Process} {handle : SessionHandle} (h : p.IsOpen handle) :
    p.HasDevice handle.deviceId := by
  obtain ⟨entry, hentry, hdevice, -⟩ := h
  exact hdevice ▸ List.mem_map_of_mem hentry

/-! ## Devices and sessions that are found -/

section Resolve

variable {p : Process} {handle : SessionHandle} {device : Device}

theorem table_of_resolve {deviceId : UInt32}
    (hdevice : resolveDeviceId deviceId p.devices = some device) :
    (deviceId, device.sessionIds) ∈ p.table := by
  obtain ⟨hmem, hid⟩ := KeyedList.mem_of_lookup hdevice
  exact List.mem_map.mpr ⟨device, hmem, by rw [hid]⟩

theorem resolveDeviceId_eq_none {deviceId : UInt32} :
    resolveDeviceId deviceId p.devices = none ↔ ¬ p.HasDevice deviceId := by
  simp [resolveDeviceId, KeyedList.lookup, HasDevice, table]

theorem resolveSessionId_eq_none {sessionId : UInt32} :
    device.resolveSessionId sessionId = none ↔ sessionId ∉ device.sessionIds := by
  simp [Device.resolveSessionId, KeyedList.lookup, Device.sessionIds]

theorem isOpen_of_resolve {session : Session}
    (hdevice : resolveDeviceId handle.deviceId p.devices = some device)
    (hsession : device.resolveSessionId handle.sessionId = some session) : p.IsOpen handle := by
  refine ⟨_, table_of_resolve hdevice, rfl, ?_⟩
  by_contra hnone
  rw [resolveSessionId_eq_none.mpr hnone] at hsession
  cases hsession

/-- A session that is not found on its device is not open. -/
theorem Distinct.not_isOpen (hp : p.Distinct)
    (hdevice : resolveDeviceId handle.deviceId p.devices = some device)
    (hsession : device.resolveSessionId handle.sessionId = none) : ¬ p.IsOpen handle := by
  rintro ⟨entry, hentry, hid, hmem⟩
  have hsame : entry = (handle.deviceId, device.sessionIds) :=
    List.inj_on_of_nodup_map hp.devices hentry (table_of_resolve hdevice) hid
  exact resolveSessionId_eq_none.mp hsession (by simpa [hsame] using hmem)

end Resolve

/-! ## Losing devices -/

/-- The process `q` has lost devices with their sessions, and nothing else. -/
structure Fewer (p q : Process) : Prop where
  distinct : q.Distinct
  devices : ∀ deviceId, q.HasDevice deviceId → p.HasDevice deviceId
  sessions : ∀ handle, q.IsOpen handle ↔ p.IsOpen handle ∧ q.HasDevice handle.deviceId

section Fewer

variable {p q r : Process}

theorem Fewer.of_table (hp : p.Distinct) (h : q.table = p.table) : Fewer p q where
  distinct := ⟨h ▸ hp.devices, h ▸ hp.sessions⟩
  devices := fun deviceId hdevice => by rwa [HasDevice, ← h]
  sessions := fun handle => by
    have hopen : q.IsOpen handle ↔ p.IsOpen handle := by rw [IsOpen, IsOpen, h]
    rw [hopen, HasDevice, h]
    exact ⟨fun hp => ⟨hp, hp.hasDevice⟩, And.left⟩

theorem Fewer.refl (hp : p.Distinct) : Fewer p p :=
  Fewer.of_table hp rfl

theorem Fewer.trans (h : Fewer p q) (h' : Fewer q r) : Fewer p r where
  distinct := h'.distinct
  devices := fun deviceId hdevice => h.devices deviceId (h'.devices deviceId hdevice)
  sessions := fun handle => by
    rw [h'.sessions, h.sessions]
    have hdevice := h'.devices handle.deviceId
    tauto

theorem table_updateDevice {deviceId : UInt32} {f : Device → Device}
    (hid : ∀ device, (f device).deviceId = device.deviceId)
    (hsessions : ∀ device, (f device).sessionIds = device.sessionIds) (p : Process) :
    (p.updateDevice deviceId f).table = p.table :=
  KeyedList.map_update (fun device => by rw [hid, hsessions]) p.devices

theorem table_updateSession {sessionId deviceId : UInt32} {f : Session → Session} (p : Process)
    (hf : ∀ session, (f session).sessionId = session.sessionId) :
    (p.updateDevice deviceId (Device.updateSession sessionId f)).table = p.table :=
  table_updateDevice (fun _ => by rw [Device.updateSession]) (Device.sessionIds_updateSession hf) p

theorem devices_removeDevice {deviceId : UInt32} {device : Device}
    (hdevice : resolveDeviceId deviceId p.devices = some device) :
    (p.removeDevice deviceId).devices = KeyedList.delete Device.deviceId deviceId p.devices := by
  simp [Process.removeDevice, hdevice, Process.unregister, WsmClient.removeDevice]

theorem table_removeDevice (deviceId : UInt32) (hdevice : p.HasDevice deviceId) :
    (p.removeDevice deviceId).table = KeyedList.delete Prod.fst deviceId p.table := by
  cases hresolve : resolveDeviceId deviceId p.devices with
  | none => exact absurd hdevice (resolveDeviceId_eq_none.mp hresolve)
  | some device =>
      rw [table, devices_removeDevice hresolve, table]
      symm
      refine KeyedList.delete_map ?_
      exact fun _ _ => Iff.rfl

theorem mem_table_removeDevice (hp : p.Distinct) (deviceId : UInt32)
    {entry : UInt32 × List UInt32} :
    entry ∈ (p.removeDevice deviceId).table ↔ entry ∈ p.table ∧ entry.1 ≠ deviceId := by
  by_cases hdevice : p.HasDevice deviceId
  · rw [table_removeDevice deviceId hdevice]
    exact KeyedList.mem_delete hp.devices
  · have hsame : p.removeDevice deviceId = p := by
      rw [Process.removeDevice, resolveDeviceId_eq_none.mpr hdevice]
    rw [hsame]
    exact ⟨fun hentry => ⟨hentry, fun hid => hdevice (hid ▸ List.mem_map_of_mem hentry)⟩,
      And.left⟩

theorem hasDevice_removeDevice (hp : p.Distinct) (deviceId : UInt32) {other : UInt32} :
    (p.removeDevice deviceId).HasDevice other ↔ p.HasDevice other ∧ other ≠ deviceId := by
  simp only [HasDevice, List.mem_map, mem_table_removeDevice hp]
  constructor
  · rintro ⟨entry, ⟨hentry, hne⟩, rfl⟩
    exact ⟨⟨entry, hentry, rfl⟩, hne⟩
  · rintro ⟨⟨entry, hentry, rfl⟩, hne⟩
    exact ⟨entry, ⟨hentry, hne⟩, rfl⟩

theorem removeDevice_fewer (hp : p.Distinct) (deviceId : UInt32) :
    Fewer p (p.removeDevice deviceId) where
  distinct := by
    by_cases hdevice : p.HasDevice deviceId
    · constructor
      · rw [table_removeDevice deviceId hdevice]
        exact KeyedList.nodup_delete hp.devices
      · exact fun entry hentry => hp.sessions entry ((mem_table_removeDevice hp deviceId).mp hentry).1
    · rw [Process.removeDevice, resolveDeviceId_eq_none.mpr hdevice]
      exact hp
  devices := fun other hother => ((hasDevice_removeDevice hp deviceId).mp hother).1
  sessions := fun handle => by
    rw [hasDevice_removeDevice hp]
    constructor
    · rintro ⟨entry, hentry, hid, hmem⟩
      obtain ⟨hentry, hne⟩ := (mem_table_removeDevice hp deviceId).mp hentry
      exact ⟨⟨entry, hentry, hid, hmem⟩, hid ▸ List.mem_map_of_mem hentry, hid ▸ hne⟩
    · rintro ⟨⟨entry, hentry, hid, hmem⟩, -, hne⟩
      exact ⟨entry, (mem_table_removeDevice hp deviceId).mpr ⟨hentry, hid ▸ hne⟩, hid, hmem⟩

end Fewer

/-! ## The calls on a session -/

section Calls

variable {p : Process} {handle : SessionHandle}

theorem table_removeBulkBuf (deviceId : UInt32) (session : Session) (buf : UInt64) :
    (p.removeBulkBuf deviceId session buf).2.table = p.table := by
  unfold Process.removeBulkBuf
  split
  · rfl
  · refine table_updateSession p fun session => ?_
    unfold Session.removeBulkBuf
    split <;> rfl

theorem table_exchangeMap (deviceId : UInt32) (session : Session) (buf : UInt64)
    (bufLen : UInt32) (reply : Reply UInt32) :
    (p.exchangeMap deviceId session buf bufLen reply).2.2.table = p.table := by
  unfold Process.exchangeMap
  cases reply with
  | lost => rfl
  | answered code secureVirtualAdr =>
      dsimp only
      split
      · exact table_removeBulkBuf deviceId session buf
      · exact table_updateSession p fun session => by rw [Session.setSVirtualAddr]

theorem mcMap_fewer (hp : p.Distinct) (buf : UInt64) (bufLen : UInt32) (answers : MapAnswers) :
    Fewer p (p.mcMap handle buf bufLen answers).2.2 := by
  refine Fewer.of_table hp ?_
  unfold Process.mcMap
  split
  · rfl
  split
  · rfl
  split
  · rfl
  split
  · rfl
  · rw [table_exchangeMap]
    exact table_updateSession _ fun session => session.pushBulkBuf_sessionId _

theorem removeIfDead_fewer {q : Process} (h : Fewer p q) (deviceId : UInt32) (code : McResult) :
    Fewer p (removeIfDead deviceId (code, q)).2 := by
  unfold Process.removeIfDead
  split
  · exact h.trans (removeDevice_fewer h.distinct deviceId)
  · exact h

theorem table_exchangeUnmap (device : Device) (session : Session) (buf : UInt64)
    (mapInfo : BulkMap) (reply : Reply Unit) :
    (p.exchangeUnmap device session buf mapInfo reply).2.table = p.table := by
  unfold Process.exchangeUnmap
  split
  · rfl
  cases reply with
  | lost => rfl
  | answered code _ =>
      dsimp only
      split
      · rfl
      · exact table_removeBulkBuf _ _ _

theorem mcUnmap_fewer (hp : p.Distinct) (buf : UInt64) (mapInfo : BulkMap) (reply : Reply Unit) :
    Fewer p (p.mcUnmap handle buf mapInfo reply).2 := by
  unfold Process.mcUnmap
  split
  · exact Fewer.refl hp
  split
  · exact Fewer.refl hp
  split
  · exact Fewer.refl hp
  exact removeIfDead_fewer (Fewer.of_table hp (table_exchangeUnmap _ _ _ _ _)) _ _

theorem mcNotify_fewer (hp : p.Distinct) (sent : Bool) : Fewer p (p.mcNotify handle sent).2 := by
  unfold Process.mcNotify
  split
  · exact Fewer.refl hp
  split
  · exact Fewer.refl hp
  split
  · exact removeDevice_fewer hp _
  · exact Fewer.refl hp

theorem mcWaitNotification_fewer (hp : p.Distinct) (answer : WaitAnswer) :
    Fewer p (p.mcWaitNotification handle answer).2 := by
  unfold Process.mcWaitNotification
  split
  · exact Fewer.refl hp
  split
  · exact Fewer.refl hp
  cases answer with
  | dead => exact removeDevice_fewer hp _
  | notified => exact Fewer.refl hp
  | exited => exact Fewer.refl hp
  | timeout => exact Fewer.refl hp
  | failed => exact Fewer.refl hp

end Calls

/-! ## Opening and closing a session -/

section Change

variable {p : Process} {deviceId : UInt32} {f : Device → Device} {g : List UInt32 → List UInt32}

theorem hasDevice_updateDevice (hid : ∀ device, (f device).deviceId = device.deviceId)
    {other : UInt32} : (p.updateDevice deviceId f).HasDevice other ↔ p.HasDevice other := by
  have hdevices : (p.updateDevice deviceId f).devices.map Device.deviceId =
      p.devices.map Device.deviceId := KeyedList.map_update hid p.devices
  simpa [HasDevice, table] using iff_of_eq (congrArg (other ∈ ·) hdevices)

/-- The table behind a change of one device that keeps its id. -/
theorem mem_table_updateDevice (hid : ∀ device, (f device).deviceId = device.deviceId)
    (hsessions : ∀ device, (f device).sessionIds = g device.sessionIds)
    {entry : UInt32 × List UInt32} :
    entry ∈ (p.updateDevice deviceId f).table ↔
      (∃ before ∈ p.table, before.1 = deviceId ∧ (before.1, g before.2) = entry) ∨
        (entry ∈ p.table ∧ entry.1 ≠ deviceId) := by
  rw [← KeyedList.mem_update]
  have htable : KeyedList.update Prod.fst deviceId (fun entry => (entry.1, g entry.2)) p.table =
      (p.updateDevice deviceId f).table := by
    refine KeyedList.update_map (fun _ _ => Iff.rfl) ?_
    intro device _ _
    rw [hid, hsessions]
  rw [htable]

theorem Distinct.updateDevice (hp : p.Distinct)
    (hid : ∀ device, (f device).deviceId = device.deviceId)
    (hsessions : ∀ device, (f device).sessionIds = g device.sessionIds)
    (hg : ∀ ids, (deviceId, ids) ∈ p.table → (g ids).Nodup) :
    (p.updateDevice deviceId f).Distinct where
  devices := by
    have hdevices : (p.updateDevice deviceId f).devices.map Device.deviceId =
        p.devices.map Device.deviceId := KeyedList.map_update hid p.devices
    have hnodup := hp.devices
    simp only [table, List.map_map] at hnodup ⊢
    exact hdevices ▸ hnodup
  sessions := by
    intro entry hentry
    rcases (mem_table_updateDevice hid hsessions).mp hentry with
      ⟨⟨_, ids⟩, hmem, rfl, rfl⟩ | ⟨hmem, -⟩
    · exact hg ids hmem
    · exact hp.sessions entry hmem

/-- The sessions of the changed device are those of the change, and the others stay. -/
theorem isOpen_updateDevice (hid : ∀ device, (f device).deviceId = device.deviceId)
    (hsessions : ∀ device, (f device).sessionIds = g device.sessionIds)
    {handle : SessionHandle} :
    (p.updateDevice deviceId f).IsOpen handle ↔
      (handle.deviceId = deviceId ∧ ∃ ids, (deviceId, ids) ∈ p.table ∧
        handle.sessionId ∈ g ids) ∨ (handle.deviceId ≠ deviceId ∧ p.IsOpen handle) := by
  constructor
  · rintro ⟨entry, hentry, hdevice, hmem⟩
    rcases (mem_table_updateDevice hid hsessions).mp hentry with
      ⟨⟨_, ids⟩, hbefore, rfl, rfl⟩ | ⟨hbefore, hne⟩
    · exact Or.inl ⟨hdevice.symm, ids, hbefore, hmem⟩
    · exact Or.inr ⟨hdevice ▸ hne, entry, hbefore, hdevice, hmem⟩
  · rintro (⟨hdevice, ids, hbefore, hmem⟩ | ⟨hne, entry, hbefore, hdevice, hmem⟩)
    · exact ⟨(deviceId, g ids), (mem_table_updateDevice hid hsessions).mpr
        (Or.inl ⟨(deviceId, ids), hbefore, rfl, rfl⟩), hdevice.symm, hmem⟩
    · exact ⟨entry, (mem_table_updateDevice hid hsessions).mpr
        (Or.inr ⟨hbefore, hdevice ▸ hne⟩), hdevice, hmem⟩

/-- A session that is open is listed by every entry of its device. -/
theorem Distinct.isOpen_iff (hp : p.Distinct) {handle : SessionHandle} {ids : List UInt32}
    (hentry : (handle.deviceId, ids) ∈ p.table) : p.IsOpen handle ↔ handle.sessionId ∈ ids := by
  constructor
  · rintro ⟨entry, hmem, hdevice, hsession⟩
    have hsame : entry = (handle.deviceId, ids) :=
      List.inj_on_of_nodup_map hp.devices hmem hentry hdevice
    rwa [hsame] at hsession
  · exact fun hsession => ⟨_, hentry, rfl, hsession⟩

end Change

/-- The session of the handle has been closed, and nothing else has happened. -/
structure Closes (p q : Process) (handle : SessionHandle) : Prop where
  distinct : q.Distinct
  devices : ∀ deviceId, q.HasDevice deviceId ↔ p.HasDevice deviceId
  sessions : ∀ other, q.IsOpen other ↔ p.IsOpen other ∧ other ≠ handle

/-- A session with this handle has been opened, and nothing else has happened. -/
structure Opens (p q : Process) (handle : SessionHandle) : Prop where
  distinct : q.Distinct
  device : p.HasDevice handle.deviceId
  fresh : ¬ p.IsOpen handle
  devices : ∀ deviceId, q.HasDevice deviceId ↔ p.HasDevice deviceId
  sessions : ∀ other, q.IsOpen other ↔ p.IsOpen other ∨ other = handle

section OpenClose

variable {p : Process} {handle : SessionHandle}

theorem Closes.of_not_isOpen (hp : p.Distinct) (h : ¬ p.IsOpen handle) : Closes p p handle where
  distinct := hp
  devices := fun _ => Iff.rfl
  sessions := fun _ =>
    ⟨fun hopen => ⟨hopen, fun heq => h (heq ▸ hopen)⟩, And.left⟩

@[simp]
theorem deviceId_removeSession (sessionId : UInt32) (device : Device) :
    (device.removeSession sessionId).deviceId = device.deviceId :=
  rfl

theorem sessionIds_removeSession (sessionId : UInt32) (device : Device) :
    (device.removeSession sessionId).sessionIds =
      KeyedList.delete id sessionId device.sessionIds := by
  symm
  refine KeyedList.delete_map ?_
  exact fun _ _ => Iff.rfl

/-- `Device::removeSession` through the pointer to the device. -/
theorem removeSession_closes (hp : p.Distinct) (handle : SessionHandle) :
    Closes p (p.updateDevice handle.deviceId (Device.removeSession handle.sessionId)) handle := by
  have hnodup : ∀ {ids}, (handle.deviceId, ids) ∈ p.table → (ids.map id).Nodup := fun hmem => by
    rw [List.map_id]
    exact hp.sessions _ hmem
  refine ⟨?_, fun _ => hasDevice_updateDevice (deviceId_removeSession _), fun other => ?_⟩
  · refine hp.updateDevice (deviceId_removeSession _)
      (sessionIds_removeSession handle.sessionId) fun ids hmem => ?_
    rw [← List.map_id (KeyedList.delete id handle.sessionId ids)]
    exact KeyedList.nodup_delete (hnodup hmem)
  · rw [isOpen_updateDevice (deviceId_removeSession _)
      (sessionIds_removeSession handle.sessionId)]
    constructor
    · rintro (⟨hdevice, ids, hmem, hsession⟩ | ⟨hdevice, hopen⟩)
      · obtain ⟨hin, hne⟩ := (KeyedList.mem_delete (hnodup hmem)).mp hsession
        refine ⟨⟨_, hmem, hdevice.symm, hin⟩, ?_⟩
        rintro rfl
        exact hne rfl
      · refine ⟨hopen, ?_⟩
        rintro rfl
        exact hdevice rfl
    · rintro ⟨hopen, hne⟩
      by_cases hdevice : other.deviceId = handle.deviceId
      · obtain ⟨⟨_, ids⟩, hmem, rfl, hsession⟩ := hopen
        refine Or.inl ⟨hdevice, ids, hdevice ▸ hmem, ?_⟩
        refine (KeyedList.mem_delete (hnodup (hdevice ▸ hmem))).mpr ⟨hsession, fun heq => hne ?_⟩
        obtain ⟨otherSession, otherDevice⟩ := other
        obtain ⟨sessionId, deviceId⟩ := handle
        cases hdevice
        cases heq
        rfl
      · exact Or.inr ⟨hdevice, hopen⟩

/-- `mcCloseSession`, when the daemon agrees. -/
theorem mcCloseSession_closes (hp : p.Distinct) :
    Closes p (p.mcCloseSession handle (.answered mcDrvOk ())).2 handle := by
  cases hdevice : resolveDeviceId handle.deviceId p.devices with
  | none =>
      have hresult : p.mcCloseSession handle (.answered mcDrvOk ()) =
          (mcDrvErrUnknownDevice, p) := by
        simp only [Process.mcCloseSession, hdevice]
      rw [hresult]
      exact Closes.of_not_isOpen hp fun hopen =>
        resolveDeviceId_eq_none.mp hdevice hopen.hasDevice
  | some device =>
      cases hsession : device.resolveSessionId handle.sessionId with
      | none =>
          have hresult : p.mcCloseSession handle (.answered mcDrvOk ()) =
              (mcDrvErrUnknownSession, p) := by
            simp only [Process.mcCloseSession, hdevice, hsession]
          rw [hresult]
          exact Closes.of_not_isOpen hp (hp.not_isOpen hdevice hsession)
      | some session =>
          have hid : device.deviceId = handle.deviceId := (KeyedList.mem_of_lookup hdevice).2
          have hsid : session.sessionId = handle.sessionId := (KeyedList.mem_of_lookup hsession).2
          have hcode : ¬ (mcDrvOk = mcDrvErrSocketWrite ∨ mcDrvOk = mcDrvErrSocketRead) := by
            decide
          have hresult : p.mcCloseSession handle (.answered mcDrvOk ()) =
              (mcDrvOk, (p.updateDevice handle.deviceId
                (Device.removeSession handle.sessionId)).unregister session.handles) := by
            simp only [Process.mcCloseSession, hdevice, hsession, exchangeClose, removeIfDead, hcode,
              ne_eq, not_true_eq_false, if_false, hid, hsid]
          have hcloses := removeSession_closes hp handle
          rw [hresult]
          exact ⟨⟨hcloses.distinct.devices, hcloses.distinct.sessions⟩, hcloses.devices,
            hcloses.sessions⟩

/-- `mcOpenGPTA`: the command names a trusted application, which only the daemon looks at. -/
def mcOpenGPTA (args : OpenArgs) (answers : SessionAnswers) (p : Process) :
    McResult × Option UInt32 × Process :=
  p.mcOpenSession args answers

@[simp]
theorem deviceId_createNewSession (session : Session) (device : Device) :
    (device.createNewSession session).deviceId = device.deviceId :=
  rfl

theorem sessionIds_createNewSession (session : Session) (device : Device) :
    (device.createNewSession session).sessionIds = device.sessionIds ++ [session.sessionId] := by
  simp [Device.createNewSession, Device.sessionIds]

/-- `Device::createNewSession` through the pointer to the device. -/
theorem createNewSession_opens (hp : p.Distinct) (hdevice : p.HasDevice handle.deviceId)
    (hfresh : ¬ p.IsOpen handle) {session : Session} (hid : session.sessionId = handle.sessionId) :
    Opens p (p.updateDevice handle.deviceId (Device.createNewSession session)) handle := by
  refine ⟨?_, hdevice, hfresh, fun _ => hasDevice_updateDevice (deviceId_createNewSession _),
    fun other => ?_⟩
  · refine hp.updateDevice (g := fun ids => ids ++ [session.sessionId])
      (deviceId_createNewSession _) (sessionIds_createNewSession session) fun ids hmem => ?_
    have hnew : session.sessionId ∉ ids := hid ▸ fun hin => hfresh ((hp.isOpen_iff hmem).mpr hin)
    rw [← List.concat_eq_append]
    exact List.Nodup.concat hnew (hp.sessions _ hmem)
  · rw [isOpen_updateDevice (g := fun ids => ids ++ [session.sessionId])
      (deviceId_createNewSession _) (sessionIds_createNewSession session)]
    constructor
    · rintro (⟨hother, ids, hmem, hsession⟩ | ⟨-, hopen⟩)
      · rcases List.mem_append.mp hsession with hin | hnew
        · exact Or.inl ⟨_, hmem, hother.symm, hin⟩
        · refine Or.inr ?_
          obtain ⟨otherSession, otherDevice⟩ := other
          obtain ⟨sessionId, deviceId⟩ := handle
          cases hother
          cases (List.mem_singleton.mp hnew).trans hid
          rfl
      · exact Or.inl hopen
    · rintro (hopen | rfl)
      · by_cases hother : other.deviceId = handle.deviceId
        · obtain ⟨⟨_, ids⟩, hmem, rfl, hsession⟩ := hopen
          exact Or.inl ⟨hother, ids, hother ▸ hmem, List.mem_append_left _ hsession⟩
        · exact Or.inr ⟨hother, hopen⟩
      · obtain ⟨⟨_, ids⟩, hmem, rfl⟩ := List.mem_map.mp hdevice
        exact Or.inl ⟨rfl, ids, hmem, List.mem_append_right _ (by simp [hid])⟩

theorem Opens.of_table {q r : Process} (h : Opens q r handle) (htable : q.table = p.table) :
    Opens p r handle where
  distinct := h.distinct
  device := by
    rw [HasDevice, ← htable]
    exact h.device
  fresh := by
    rw [IsOpen, ← htable]
    exact h.fresh
  devices := fun deviceId => by
    rw [h.devices, HasDevice, htable, HasDevice]
  sessions := fun other => by
    rw [h.sessions, IsOpen, htable, IsOpen]

/-- The session is open when daemon and second channel accept it, and otherwise the call
fails. -/
theorem mcOpenGPTA_cases (hp : p.Distinct) (args : OpenArgs) (answers : SessionAnswers)
    (hfresh : ∀ sessionId, acceptedId answers = some sessionId →
      ¬ p.IsOpen ⟨sessionId, args.deviceId⟩) :
    (∃ sessionId q, p.mcOpenGPTA args answers = (mcDrvOk, some sessionId, q) ∧
      Opens p q ⟨sessionId, args.deviceId⟩) ∨
    ∃ code sessionId q, code ≠ mcDrvOk ∧ p.mcOpenGPTA args answers = (code, sessionId, q) ∧
      q.table = p.table := by
  unfold mcOpenGPTA Process.mcOpenSession
  cases hcheck : Client.checkOpen false args with
  | some code => exact Or.inr ⟨code, none, p, Client.checkOpen_ne_ok hcheck, rfl, rfl⟩
  | none =>
      cases hdevice : resolveDeviceId args.deviceId p.devices with
      | none => exact Or.inr ⟨mcDrvErrUnknownDevice, none, p, by decide, rfl, rfl⟩
      | some device =>
          dsimp only
          cases hhandle : Client.tciHandle false args answers.registered device with
          | error code => exact Or.inr ⟨code, none, p, Client.tciHandle_ne_ok hhandle, rfl, rfl⟩
          | ok tci =>
              obtain ⟨tciHandle, bulkBuf⟩ := tci
              dsimp only
              cases hreply : answers.reply with
              | lost => exact Or.inr ⟨mcDrvErrSocketRead, none, _, by decide, rfl, rfl⟩
              | answered code sessionId =>
                  by_cases hcode : code = mcDrvOk
                  · subst hcode
                    simp only [ne_eq, not_true_eq_false, if_false, connectNq]
                    cases hnq : answers.nq with
                    | none => exact Or.inr ⟨_, _, _, by decide, rfl, rfl⟩
                    | some reply =>
                        cases reply with
                        | lost => exact Or.inr ⟨_, _, _, by decide, rfl, rfl⟩
                        | answered code _ =>
                            by_cases hcode : code = mcDrvOk
                            · subst hcode
                              have haccepted : acceptedId answers = some sessionId :=
                                acceptedId_eq_some.mpr ⟨hreply, hnq⟩
                              have hregistered : (p.register bulkBuf).Distinct :=
                                ⟨hp.devices, hp.sessions⟩
                              have hdevice' : (p.register bulkBuf).HasDevice args.deviceId :=
                                List.mem_map_of_mem (f := Prod.fst) (table_of_resolve hdevice)
                              refine Or.inl ⟨sessionId, _, rfl, ?_⟩
                              exact (createNewSession_opens hregistered hdevice'
                                (hfresh sessionId haccepted) rfl).of_table rfl
                            · exact Or.inr ⟨code, _, _, hcode, if_pos hcode, rfl⟩
                  · exact Or.inr ⟨openError code, none, _, openError_ne_ok hcode, if_pos hcode, rfl⟩

end OpenClose

end Process

end Exynos8890.MobiCore.ClientLib
