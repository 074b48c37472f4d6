import Exynos8890.MobiCore.ClientLib.OpenSessions

/-!
# The buffers that are mapped into a session

A session lists a descriptor for each buffer that is mapped into it.  What the calls of the
client library do to all of these lists is stated for the lists alone: a call that fails leaves
them as they are, and the loss of a device takes the lists of its sessions.

Main results:

- Definition `Process.mappings`: the list of the session that a handle names.
- Theorem `Process.mcMap_cases`: a buffer is listed, or the call fails.
- Theorem `Process.mcUnmap_agreed`: a buffer leaves the list of its session.
- Theorems `Process.mcUnmap_mapsFewer`, `Process.mcNotify_mapsFewer`,
  `Process.mcWaitNotification_mapsFewer` and `Process.mcCloseSession_mapsFewer`.
-/

namespace Exynos8890.MobiCore.ClientLib

theorem SessionHandle.ext {handle other : SessionHandle}
    (hsession : handle.sessionId = other.sessionId) (hdevice : handle.deviceId = other.deviceId) :
    handle = other := by
  obtain ⟨sessionId, deviceId⟩ := handle
  cases hsession
  cases hdevice
  rfl

/-- The map information is that of a descriptor. -/
def BulkMap.Names (mapInfo : BulkMap) (blkBuf : BulkBufferDescriptor) : Prop :=
  blkBuf.sVirtualAddr = mapInfo.sVirtualAddr ∧ blkBuf.len = mapInfo.sVirtualLen

instance (mapInfo : BulkMap) (blkBuf : BulkBufferDescriptor) : Decidable (mapInfo.Names blkBuf) :=
  inferInstanceAs (Decidable (_ ∧ _))

namespace Process

/-- The descriptors of the session that a handle names. -/
def mappings (p : Process) (handle : SessionHandle) : Option (List BulkBufferDescriptor) :=
  (resolveDeviceId handle.deviceId p.devices).bind fun device =>
    (device.resolveSessionId handle.sessionId).map Session.bulkBufferDescriptors

section Mappings

variable {p : Process} {handle other : SessionHandle} {device : Device} {session : Session}

@[simp]
theorem mappings_register (bulkBuf : Option BulkBufferDescriptor) (p : Process) :
    (p.register bulkBuf).mappings = p.mappings :=
  rfl

@[simp]
theorem mappings_unregister (handles : List UInt32) (p : Process) :
    (p.unregister handles).mappings = p.mappings :=
  rfl

theorem mappings_of_resolve (hdevice : resolveDeviceId handle.deviceId p.devices = some device)
    (hsession : device.resolveSessionId handle.sessionId = some session) :
    p.mappings handle = some session.bulkBufferDescriptors := by
  rw [mappings, hdevice, Option.bind_some, hsession, Option.map_some]

theorem mappings_eq_none (hdevice : resolveDeviceId handle.deviceId p.devices = none) :
    p.mappings handle = none := by
  rw [mappings, hdevice, Option.bind_none]

theorem mappings_of_unresolved (hdevice : resolveDeviceId handle.deviceId p.devices = some device)
    (hsession : device.resolveSessionId handle.sessionId = none) : p.mappings handle = none := by
  rw [mappings, hdevice, Option.bind_some, hsession, Option.map_none]

/-- A device changes its sessions, and no other device does. -/
theorem mappings_updateDevice {f : Device → Device}
    (hf : ∀ device, (f device).deviceId = device.deviceId) (deviceId : UInt32) :
    (p.updateDevice deviceId f).mappings other =
      if other.deviceId = deviceId then
        (resolveDeviceId deviceId p.devices).bind fun device =>
          ((f device).resolveSessionId other.sessionId).map Session.bulkBufferDescriptors
      else p.mappings other := by
  have hlookup : resolveDeviceId other.deviceId (p.updateDevice deviceId f).devices =
      (resolveDeviceId other.deviceId p.devices).map fun device =>
        if device.deviceId = deviceId then f device else device :=
    KeyedList.lookup_update_eq hf p.devices
  rw [mappings, hlookup]
  cases hdevice : resolveDeviceId other.deviceId p.devices with
  | none =>
      by_cases hsame : other.deviceId = deviceId
      · rw [if_pos hsame, ← hsame, hdevice]
        rfl
      · rw [if_neg hsame, mappings_eq_none hdevice]
        rfl
  | some device =>
      have hid : device.deviceId = other.deviceId := (KeyedList.mem_of_lookup hdevice).2
      by_cases hsame : other.deviceId = deviceId
      · rw [if_pos hsame, ← hsame, hdevice, Option.map_some, if_pos hid]
        rfl
      · rw [if_neg hsame, Option.map_some, if_neg (hid ▸ hsame), mappings, hdevice]

theorem mappings_updateSession {f : Session → Session}
    {g : List BulkBufferDescriptor → List BulkBufferDescriptor}
    (hf : ∀ session, (f session).sessionId = session.sessionId)
    (hg : ∀ session, (f session).bulkBufferDescriptors = g session.bulkBufferDescriptors)
    (p : Process) (handle : SessionHandle) :
    (p.updateDevice handle.deviceId (Device.updateSession handle.sessionId f)).mappings =
      Function.update p.mappings handle ((p.mappings handle).map g) := by
  funext other
  rw [Function.update_apply]
  have hupdate : ∀ device : Device,
      ((device.updateSession handle.sessionId f).resolveSessionId other.sessionId).map
          Session.bulkBufferDescriptors =
        if other.sessionId = handle.sessionId then
          ((device.resolveSessionId handle.sessionId).map Session.bulkBufferDescriptors).map g
        else (device.resolveSessionId other.sessionId).map Session.bulkBufferDescriptors := by
    intro device
    have hlookup : (device.updateSession handle.sessionId f).resolveSessionId other.sessionId =
        (device.resolveSessionId other.sessionId).map fun session =>
          if session.sessionId = handle.sessionId then f session else session :=
      KeyedList.lookup_update_eq hf device.sessionList
    rw [hlookup]
    by_cases hsame : other.sessionId = handle.sessionId
    · rw [if_pos hsame, hsame]
      cases hsession : device.resolveSessionId handle.sessionId with
      | none => rfl
      | some session =>
          have hid : session.sessionId = handle.sessionId := (KeyedList.mem_of_lookup hsession).2
          simp only [Option.map_some, hid, if_true, hg]
    · rw [if_neg hsame]
      cases hsession : device.resolveSessionId other.sessionId with
      | none => rfl
      | some session =>
          have hid : session.sessionId = other.sessionId := (KeyedList.mem_of_lookup hsession).2
          simp only [Option.map_some, hid, hsame, if_false]
  rw [mappings_updateDevice (f := Device.updateSession handle.sessionId f) fun _ => rfl]
  by_cases hdeviceId : other.deviceId = handle.deviceId
  · rw [if_pos hdeviceId]
    cases hdevice : resolveDeviceId handle.deviceId p.devices with
    | none =>
        rw [mappings_eq_none hdevice, mappings_eq_none (hdeviceId ▸ hdevice)]
        split <;> rfl
    | some device =>
        rw [Option.bind_some, hupdate, mappings, mappings, hdeviceId, hdevice, Option.bind_some,
          Option.bind_some]
        by_cases hsessionId : other.sessionId = handle.sessionId
        · rw [if_pos hsessionId, if_pos (SessionHandle.ext hsessionId hdeviceId)]
        · rw [if_neg hsessionId, if_neg fun hsame : other = handle => hsessionId (hsame ▸ rfl)]
  · rw [if_neg hdeviceId, if_neg fun hsame : other = handle => hdeviceId (hsame ▸ rfl)]

theorem mappings_removeDevice (hp : p.Distinct) (deviceId : UInt32) (handle : SessionHandle) :
    (p.removeDevice deviceId).mappings handle =
      if handle.deviceId = deviceId then none else p.mappings handle := by
  have hdevices : ∀ other, (p.removeDevice deviceId).HasDevice other ↔
      p.HasDevice other ∧ other ≠ deviceId := fun _ => hasDevice_removeDevice hp deviceId
  by_cases hsame : handle.deviceId = deviceId
  · rw [if_pos hsame]
    apply mappings_eq_none
    rw [resolveDeviceId_eq_none, hdevices]
    exact fun hdevice => hdevice.2 hsame
  · rw [if_neg hsame]
    cases hdevice : resolveDeviceId handle.deviceId p.devices with
    | none =>
        rw [mappings_eq_none hdevice, mappings_eq_none]
        rw [resolveDeviceId_eq_none, hdevices]
        exact fun hafter => resolveDeviceId_eq_none.mp hdevice hafter.1
    | some device =>
        have hafter : resolveDeviceId handle.deviceId (p.removeDevice deviceId).devices =
            some device := by
          cases hremoved : resolveDeviceId deviceId p.devices with
          | none =>
              rw [Process.removeDevice, hremoved]
              exact hdevice
          | some removed =>
              have hid : device.deviceId = handle.deviceId := (KeyedList.mem_of_lookup hdevice).2
              rw [devices_removeDevice hremoved]
              exact KeyedList.lookup_delete hdevice (hid ▸ hsame)
        rw [mappings, mappings, hdevice, hafter]

theorem isOpen_iff_mappings (hp : p.Distinct) (handle : SessionHandle) :
    p.IsOpen handle ↔ ∃ list, p.mappings handle = some list := by
  constructor
  · intro hopen
    cases hdevice : resolveDeviceId handle.deviceId p.devices with
    | none => exact absurd hopen.hasDevice (resolveDeviceId_eq_none.mp hdevice)
    | some device =>
        cases hsession : device.resolveSessionId handle.sessionId with
        | none => exact absurd hopen (hp.not_isOpen hdevice hsession)
        | some session => exact ⟨_, mappings_of_resolve hdevice hsession⟩
  · rintro ⟨list, hlist⟩
    obtain ⟨device, hdevice, hlist⟩ := Option.bind_eq_some_iff.mp hlist
    obtain ⟨session, hsession, -⟩ := Option.map_eq_some_iff.mp hlist
    exact isOpen_of_resolve hdevice hsession

end Mappings

/-! ## Mapping a buffer -/

/-- Kernel and daemon map a buffer that the session does not list yet. -/
structure Grants (p : Process) (handle : SessionHandle) (buf : UInt64) (answers : MapAnswers)
    (wsm addr : UInt32) : Prop where
  buf_ne : buf ≠ 0
  unlisted : ∃ list, p.mappings handle = some list ∧
    buf ∉ list.map BulkBufferDescriptor.virtAddr
  registered : answers.registered = .ok wsm
  reply : answers.reply = .answered mcDrvOk addr

/-- The connection is lost behind the registering of the buffer. -/
structure Loses (p : Process) (handle : SessionHandle) (buf : UInt64) (answers : MapAnswers) :
    Prop where
  buf_ne : buf ≠ 0
  unlisted : ∃ list, p.mappings handle = some list ∧
    buf ∉ list.map BulkBufferDescriptor.virtAddr
  registered : ∃ wsm, answers.registered = .ok wsm
  reply : answers.reply = .lost

section Map

variable {p : Process} {handle : SessionHandle}

theorem bulkBufferDescriptors_removeBulkBuf (buf : UInt64) (session : Session) :
    (session.removeBulkBuf buf mcDrvOk).2.bulkBufferDescriptors =
      KeyedList.delete BulkBufferDescriptor.virtAddr buf session.bulkBufferDescriptors := by
  unfold Session.removeBulkBuf
  split
  next hlookup => exact (List.eraseP_of_forall_not (List.find?_eq_none.mp hlookup)).symm
  next => rfl

theorem sessionId_removeBulkBuf (buf : UInt64) (session : Session) :
    (session.removeBulkBuf buf mcDrvOk).2.sessionId = session.sessionId := by
  unfold Session.removeBulkBuf
  split <;> rfl

theorem mappings_removeBulkBuf {session : Session} (hid : session.sessionId = handle.sessionId)
    (hlist : p.mappings handle = some session.bulkBufferDescriptors) (buf : UInt64) :
    (p.removeBulkBuf handle.deviceId session buf).2.mappings =
      Function.update p.mappings handle
        (some (KeyedList.delete BulkBufferDescriptor.virtAddr buf
          session.bulkBufferDescriptors)) := by
  unfold Process.removeBulkBuf
  split
  next hlookup =>
    have hsame : KeyedList.delete BulkBufferDescriptor.virtAddr buf session.bulkBufferDescriptors =
        session.bulkBufferDescriptors :=
      List.eraseP_of_forall_not (List.find?_eq_none.mp hlookup)
    rw [hsame, ← hlist, Function.update_eq_self]
  next =>
    rw [mappings_unregister, hid, mappings_updateSession (sessionId_removeBulkBuf buf)
      (bulkBufferDescriptors_removeBulkBuf buf), hlist, Option.map_some]

theorem mappings_pushBulkBuf (blkBuf : BulkBufferDescriptor) (p : Process)
    (handle : SessionHandle) :
    ((p.register (some blkBuf)).updateDevice handle.deviceId
        (Device.updateSession handle.sessionId (Session.pushBulkBuf blkBuf))).mappings =
      Function.update p.mappings handle
        ((p.mappings handle).map fun list => list ++ [blkBuf]) :=
  mappings_updateSession (g := fun list => list ++ [blkBuf])
    (fun session => session.pushBulkBuf_sessionId blkBuf) (fun _ => rfl)
    (p.register (some blkBuf)) handle

section Exchange

variable {session : Session} {list : List BulkBufferDescriptor} {blkBuf : BulkBufferDescriptor}

theorem exchangeMap_refused (hid : session.sessionId = handle.sessionId)
    (hsession : session.bulkBufferDescriptors = list ++ [blkBuf])
    (hunlisted : blkBuf.virtAddr ∉ list.map BulkBufferDescriptor.virtAddr)
    (hlist : p.mappings handle = some (list ++ [blkBuf])) (bufLen : UInt32) {code : McResult}
    (hcode : code ≠ mcDrvOk) (addr : UInt32) :
    ∃ q, p.exchangeMap handle.deviceId session blkBuf.virtAddr bufLen (.answered code addr) =
        (mcDrvErrDaemonUnreachable, none, q) ∧
      q.mappings = Function.update p.mappings handle (some list) := by
  refine ⟨_, if_pos hcode, ?_⟩
  rw [mappings_removeBulkBuf hid (hlist.trans (congrArg some hsession.symm)), hsession,
    KeyedList.delete_append_cons hunlisted, List.append_nil]

/-- The buffer that was just listed gets its secure address. -/
theorem exchangeMap_granted (hid : session.sessionId = handle.sessionId)
    (hunlisted : blkBuf.virtAddr ∉ list.map BulkBufferDescriptor.virtAddr)
    (hlist : p.mappings handle = some (list ++ [blkBuf])) (bufLen addr : UInt32) :
    ∃ q, p.exchangeMap handle.deviceId session blkBuf.virtAddr bufLen
          (.answered mcDrvOk addr) =
        (mcDrvOk, some { sVirtualAddr := addr.toUInt64, sVirtualLen := bufLen }, q) ∧
      q.mappings = Function.update p.mappings handle
        (some (list ++ [{ blkBuf with sVirtualAddr := addr.toUInt64 }])) := by
  refine ⟨_, rfl, ?_⟩
  rw [hid, mappings_updateSession (f := Session.setSVirtualAddr blkBuf.virtAddr addr.toUInt64)
    (g := KeyedList.update BulkBufferDescriptor.virtAddr blkBuf.virtAddr
      fun blkBuf => { blkBuf with sVirtualAddr := addr.toUInt64 })
    (fun _ => rfl) (fun _ => rfl), hlist, Option.map_some]
  have hold := KeyedList.update_of_not_mem hunlisted
    (f := fun blkBuf => { blkBuf with sVirtualAddr := addr.toUInt64 })
  rw [KeyedList.update] at hold
  rw [KeyedList.update, List.map_append, hold, List.map_singleton, if_pos rfl]

end Exchange

/-- `mcMap` lists the buffer in the session, or it fails. -/
theorem mcMap_cases (p : Process) (handle : SessionHandle) (buf : UInt64) (len : UInt32)
    {answers : MapAnswers} (herror : answers.registered ≠ .error mcDrvOk) :
    (∃ wsm addr q, Grants p handle buf answers wsm addr ∧
      p.mcMap handle buf len answers =
        (mcDrvOk, some { sVirtualAddr := addr.toUInt64, sVirtualLen := len }, q) ∧
      q.mappings = Function.update p.mappings handle ((p.mappings handle).map fun list =>
        list ++ [{ virtAddr := buf, sVirtualAddr := addr.toUInt64, len := len, handle := wsm }])) ∨
    ∃ code info q, code ≠ mcDrvOk ∧ p.mcMap handle buf len answers = (code, info, q) ∧
      (∀ wsm addr, ¬ Grants p handle buf answers wsm addr) ∧
      (¬ Loses p handle buf answers → q.mappings = p.mappings) := by
  unfold Process.mcMap
  by_cases hbuf : buf = 0
  · rw [if_pos hbuf]
    exact Or.inr ⟨_, _, _, by decide, rfl, fun _ _ hgrants => hgrants.buf_ne hbuf, fun _ => rfl⟩
  rw [if_neg hbuf]
  cases hdevice : resolveDeviceId handle.deviceId p.devices with
  | none =>
      have hnone := mappings_eq_none hdevice
      refine Or.inr ⟨_, _, _, by decide, rfl, fun _ _ hgrants => ?_, fun _ => rfl⟩
      obtain ⟨list, hlist, -⟩ := hgrants.unlisted
      rw [hnone] at hlist
      cases hlist
  | some device =>
      dsimp only
      have hdid : device.deviceId = handle.deviceId := (KeyedList.mem_of_lookup hdevice).2
      cases hsession : device.resolveSessionId handle.sessionId with
      | none =>
          have hnone := mappings_of_unresolved hdevice hsession
          refine Or.inr ⟨_, _, _, by decide, rfl, fun _ _ hgrants => ?_, fun _ => rfl⟩
          obtain ⟨list, hlist, -⟩ := hgrants.unlisted
          rw [hnone] at hlist
          cases hlist
      | some session =>
          dsimp only
          have hid : session.sessionId = handle.sessionId := (KeyedList.mem_of_lookup hsession).2
          have hlist := mappings_of_resolve hdevice hsession
          by_cases hlisted : ∃ blkBuf ∈ session.bulkBufferDescriptors, blkBuf.virtAddr = buf
          · simp only [Session.addBulkBuf, if_pos hlisted]
            refine Or.inr ⟨_, _, _, by decide, rfl, fun _ _ hgrants => ?_, fun _ => rfl⟩
            obtain ⟨list, hlist', hunlisted⟩ := hgrants.unlisted
            rw [hlist] at hlist'
            cases hlist'
            obtain ⟨blkBuf, hmem, rfl⟩ := hlisted
            exact hunlisted (List.mem_map_of_mem hmem)
          · simp only [Session.addBulkBuf, if_neg hlisted]
            have hunlisted : buf ∉
                session.bulkBufferDescriptors.map BulkBufferDescriptor.virtAddr := by
              intro hmem
              obtain ⟨blkBuf, hblkBuf, hvirt⟩ := List.mem_map.mp hmem
              exact hlisted ⟨blkBuf, hblkBuf, hvirt⟩
            cases hregistered : answers.registered with
            | error ret =>
                have hret : ret ≠ mcDrvOk := by
                  rintro rfl
                  exact herror hregistered
                refine Or.inr ⟨_, _, _, hret, rfl, fun _ _ hgrants => ?_, fun _ => rfl⟩
                rw [hgrants.registered] at hregistered
                cases hregistered
            | ok wsm =>
                dsimp only
                rw [hdid, hid]
                have hpush := mappings_pushBulkBuf
                  { virtAddr := buf, sVirtualAddr := 0, len := len, handle := wsm } p handle
                have hpushedId : (session.pushBulkBuf
                    { virtAddr := buf, sVirtualAddr := 0, len := len
                      handle := wsm }).sessionId = handle.sessionId := hid
                rw [hlist, Option.map_some] at hpush
                have hpushed := congrFun hpush handle
                rw [Function.update_self] at hpushed
                cases hreply : answers.reply with
                | lost =>
                    refine Or.inr ⟨_, _, _, by decide, rfl, fun _ _ hgrants => ?_, fun hkept => ?_⟩
                    · rw [hgrants.reply] at hreply
                      cases hreply
                    · exact absurd ⟨hbuf, ⟨_, hlist, hunlisted⟩, ⟨wsm, hregistered⟩, hreply⟩ hkept
                | answered code addr =>
                    by_cases hcode : code = mcDrvOk
                    · subst hcode
                      obtain ⟨q, hq, hmappings⟩ := exchangeMap_granted hpushedId hunlisted
                        hpushed len addr
                      refine Or.inl ⟨wsm, addr, q,
                        ⟨hbuf, ⟨_, hlist, hunlisted⟩, hregistered, hreply⟩, hq, ?_⟩
                      rw [hmappings, hpush, Function.update_idem, hlist, Option.map_some]
                    · obtain ⟨q, hq, hmappings⟩ := exchangeMap_refused hpushedId rfl hunlisted
                        hpushed len hcode addr
                      refine Or.inr ⟨_, _, q, by decide, hq, fun _ _ hgrants => ?_, fun _ => ?_⟩
                      · rw [hgrants.reply] at hreply
                        cases hreply
                        exact hcode rfl
                      · rw [hmappings, hpush, Function.update_idem, ← hlist,
                          Function.update_eq_self]

end Map

/-! ## Unmapping a buffer -/

/-- The process `q` lists nothing that `p` does not list. -/
def MapsFewer (p q : Process) : Prop :=
  ∀ handle list', q.mappings handle = some list' →
    ∃ list, p.mappings handle = some list ∧ list'.Sublist list

theorem MapsFewer.of_eq {p q : Process} (h : q.mappings = p.mappings) : MapsFewer p q :=
  fun _ list' hlist => ⟨list', h ▸ hlist, List.Sublist.refl list'⟩

theorem MapsFewer.refl (p : Process) : MapsFewer p p :=
  MapsFewer.of_eq rfl

theorem MapsFewer.trans {p q r : Process} (h : MapsFewer p q) (h' : MapsFewer q r) :
    MapsFewer p r := by
  intro handle list'' hlist''
  obtain ⟨list', hlist', hsub'⟩ := h' handle list'' hlist''
  obtain ⟨list, hlist, hsub⟩ := h handle list' hlist'
  exact ⟨list, hlist, hsub'.trans hsub⟩

theorem MapsFewer.eq_none {p q : Process} {handle : SessionHandle} (h : MapsFewer p q)
    (hp : p.mappings handle = none) : q.mappings handle = none := by
  rw [Option.eq_none_iff_forall_ne_some]
  intro list' hlist'
  obtain ⟨list, hlist, -⟩ := h handle list' hlist'
  rw [hp] at hlist
  cases hlist

section Unmap

variable {p : Process} {handle : SessionHandle} {buf : UInt64} {mapInfo : BulkMap}

theorem removeDevice_mapsFewer (hp : p.Distinct) (deviceId : UInt32) :
    MapsFewer p (p.removeDevice deviceId) := by
  intro other list' hlist'
  rw [mappings_removeDevice hp] at hlist'
  split at hlist'
  · cases hlist'
  · exact ⟨list', hlist', List.Sublist.refl list'⟩

theorem removeBulkBuf_code (deviceId : UInt32) (session : Session) (buf : UInt64) (p : Process) :
    (p.removeBulkBuf deviceId session buf).1 = mcDrvOk ∨
      (p.removeBulkBuf deviceId session buf).1 = mcDrvErrBlkBuffNotFound := by
  unfold Process.removeBulkBuf
  split
  · exact Or.inr rfl
  · exact Or.inl rfl

theorem getBufHandle_ne_zero {session : Session}
    (hlisted : ∃ blkBuf ∈ session.bulkBufferDescriptors, mapInfo.Names blkBuf)
    (hhandles : ∀ blkBuf ∈ session.bulkBufferDescriptors, blkBuf.handle ≠ 0) :
    session.getBufHandle mapInfo.sVirtualAddr mapInfo.sVirtualLen ≠ 0 := by
  obtain ⟨found, hfound⟩ : ∃ found,
      session.findBulkBuf mapInfo.sVirtualAddr mapInfo.sVirtualLen = some found := by
    rw [← Option.isSome_iff_exists, Session.findBulkBuf, List.find?_isSome]
    obtain ⟨blkBuf, hmem, hnames⟩ := hlisted
    exact ⟨blkBuf, hmem, decide_eq_true hnames⟩
  rw [Session.getBufHandle, hfound]
  exact hhandles found (List.mem_of_find?_eq_some hfound)

theorem getBufHandle_eq_zero {session : Session}
    (hunlisted : ∀ blkBuf ∈ session.bulkBufferDescriptors, ¬ mapInfo.Names blkBuf) :
    session.getBufHandle mapInfo.sVirtualAddr mapInfo.sVirtualLen = 0 := by
  have hnone : session.findBulkBuf mapInfo.sVirtualAddr mapInfo.sVirtualLen = none :=
    List.find?_eq_none.mpr fun blkBuf hmem hnames =>
      hunlisted blkBuf hmem (of_decide_eq_true hnames)
  rw [Session.getBufHandle, hnone]

/-- Nothing happens when the map information names nothing that is listed. -/
theorem mcUnmap_unnamed (reply : Reply Unit) (h : mapInfo.sVirtualAddr ≠ 0 → buf ≠ 0 →
      ∀ list, p.mappings handle = some list → ∀ blkBuf ∈ list, ¬ mapInfo.Names blkBuf) :
    (p.mcUnmap handle buf mapInfo reply).2 = p := by
  unfold Process.mcUnmap
  split
  next => rfl
  next hnonzero =>
    obtain ⟨haddr, hbuf⟩ := not_or.mp hnonzero
    cases hdevice : resolveDeviceId handle.deviceId p.devices with
    | none => rfl
    | some device =>
        dsimp only
        cases hsession : device.resolveSessionId handle.sessionId with
        | none => rfl
        | some session =>
            have hzero : session.getBufHandle mapInfo.sVirtualAddr mapInfo.sVirtualLen = 0 :=
              getBufHandle_eq_zero (h haddr hbuf _ (mappings_of_resolve hdevice hsession))
            dsimp only [exchangeUnmap]
            rw [if_pos hzero]
            rfl

section Named

variable {list : List BulkBufferDescriptor} (hlist : p.mappings handle = some list)
  (hbuf : buf ≠ 0) (haddr : mapInfo.sVirtualAddr ≠ 0)
  (hlisted : ∃ blkBuf ∈ list, mapInfo.Names blkBuf)
  (hhandles : ∀ blkBuf ∈ list, blkBuf.handle ≠ 0)

include hlist hbuf haddr hlisted hhandles

/-- The daemon is asked to unmap what the map information names. -/
theorem mcUnmap_named (reply : Reply Unit) : ∃ device session,
    resolveDeviceId handle.deviceId p.devices = some device ∧
      device.resolveSessionId handle.sessionId = some session ∧
      session.bulkBufferDescriptors = list ∧
      (p.mcUnmap handle buf mapInfo reply).2 = (removeIfDead handle.deviceId
        (match reply with
        | .lost => (mcDrvErrSocketRead, p)
        | .answered code _ =>
            if code ≠ mcDrvOk then (mcDrvErrDaemonUnreachable, p)
            else p.removeBulkBuf device.deviceId session buf)).2 := by
  obtain ⟨device, hdevice, hlist'⟩ := Option.bind_eq_some_iff.mp hlist
  obtain ⟨session, hsession, rfl⟩ := Option.map_eq_some_iff.mp hlist'
  refine ⟨device, session, hdevice, hsession, rfl, ?_⟩
  rw [Process.mcUnmap, if_neg (not_or_intro haddr hbuf), hdevice]
  dsimp only
  rw [hsession]
  dsimp only
  unfold exchangeUnmap
  have hhandle := getBufHandle_ne_zero hlisted hhandles
  cases reply <;>
    exact congrArg (fun result => (removeIfDead handle.deviceId result).2) (if_neg hhandle)

/-- A buffer whose unmapping the daemon agrees to leaves its list. -/
theorem mcUnmap_agreed :
    (p.mcUnmap handle buf mapInfo (.answered mcDrvOk ())).2.mappings =
      Function.update p.mappings handle
        (some (KeyedList.delete BulkBufferDescriptor.virtAddr buf list)) := by
  obtain ⟨device, session, hdevice, hsession, rfl, hunmap⟩ :=
    mcUnmap_named hlist hbuf haddr hlisted hhandles (.answered mcDrvOk ())
  have hdid : device.deviceId = handle.deviceId := (KeyedList.mem_of_lookup hdevice).2
  have hid : session.sessionId = handle.sessionId := (KeyedList.mem_of_lookup hsession).2
  have halive : ¬ ((p.removeBulkBuf device.deviceId session buf).1 = mcDrvErrSocketWrite ∨
      (p.removeBulkBuf device.deviceId session buf).1 = mcDrvErrSocketRead) := by
    rcases removeBulkBuf_code device.deviceId session buf p with h | h
    · rw [h]
      decide
    · rw [h]
      decide
  rw [hunmap]
  dsimp only
  rw [if_neg (not_not_intro rfl), removeIfDead, if_neg halive, hdid,
    mappings_removeBulkBuf hid hlist]

/-- Without the agreement of the daemon the device is removed. -/
theorem mcUnmap_refused (hp : p.Distinct) {reply : Reply Unit}
    (hreply : reply ≠ .answered mcDrvOk ()) :
    (p.mcUnmap handle buf mapInfo reply).2.mappings handle = none := by
  obtain ⟨device, session, -, -, -, hunmap⟩ :=
    mcUnmap_named hlist hbuf haddr hlisted hhandles reply
  have hremoved : (p.mcUnmap handle buf mapInfo reply).2 = p.removeDevice handle.deviceId := by
    rw [hunmap]
    cases reply with
    | lost => rfl
    | answered code payload =>
        have hcode : code ≠ mcDrvOk := by
          rintro rfl
          exact hreply rfl
        dsimp only
        rw [if_pos hcode]
        rfl
  rw [hremoved, mappings_removeDevice hp, if_pos rfl]

end Named

theorem mapsFewer_update_delete (p : Process) (handle : SessionHandle) (buf : UInt64)
    {q : Process} (h : q.mappings = Function.update p.mappings handle ((p.mappings handle).map
      (KeyedList.delete BulkBufferDescriptor.virtAddr buf))) : MapsFewer p q := by
  intro other list' hlist'
  rw [h, Function.update_apply] at hlist'
  split at hlist'
  · rename_i hsame
    obtain ⟨list, hlist, rfl⟩ := Option.map_eq_some_iff.mp hlist'
    exact ⟨list, hsame ▸ hlist, List.eraseP_sublist⟩
  · exact ⟨list', hlist', List.Sublist.refl list'⟩

theorem removeIfDead_mapsFewer {result : McResult × Process} (h : MapsFewer p result.2)
    (hresult : result.2.Distinct) (deviceId : UInt32) :
    MapsFewer p (removeIfDead deviceId result).2 := by
  unfold removeIfDead
  split
  · exact h.trans (removeDevice_mapsFewer hresult deviceId)
  · exact h

/-- Whatever the daemon answers, nothing is listed in addition. -/
theorem mcUnmap_mapsFewer (hp : p.Distinct) (buf : UInt64) (mapInfo : BulkMap)
    (reply : Reply Unit) : MapsFewer p (p.mcUnmap handle buf mapInfo reply).2 := by
  unfold Process.mcUnmap
  split
  · exact MapsFewer.refl p
  cases hdevice : resolveDeviceId handle.deviceId p.devices with
  | none => exact MapsFewer.refl p
  | some device =>
      dsimp only
      cases hsession : device.resolveSessionId handle.sessionId with
      | none => exact MapsFewer.refl p
      | some session =>
          have hdid : device.deviceId = handle.deviceId := (KeyedList.mem_of_lookup hdevice).2
          have hid : session.sessionId = handle.sessionId := (KeyedList.mem_of_lookup hsession).2
          have hlist := mappings_of_resolve hdevice hsession
          have hdistinct := (Fewer.of_table hp
            (table_exchangeUnmap device session buf mapInfo reply)).distinct
          refine removeIfDead_mapsFewer ?_ hdistinct handle.deviceId
          unfold exchangeUnmap
          split
          · exact MapsFewer.refl p
          cases reply with
          | lost => exact MapsFewer.refl p
          | answered code payload =>
              dsimp only
              split
              · exact MapsFewer.refl p
              · apply mapsFewer_update_delete p handle buf
                rw [hdid, mappings_removeBulkBuf hid hlist, hlist, Option.map_some]

end Unmap

/-! ## The other calls of a session -/

section OtherCalls

variable {p : Process} {handle : SessionHandle}

theorem mcNotify_mapsFewer (hp : p.Distinct) (sent : Bool) :
    MapsFewer p (p.mcNotify handle sent).2 := by
  unfold Process.mcNotify
  split
  · exact MapsFewer.refl p
  split
  · exact MapsFewer.refl p
  split
  · exact removeDevice_mapsFewer hp handle.deviceId
  · exact MapsFewer.refl p

theorem mcWaitNotification_mapsFewer (hp : p.Distinct) (answer : WaitAnswer) :
    MapsFewer p (p.mcWaitNotification handle answer).2 := by
  unfold Process.mcWaitNotification
  split
  · exact MapsFewer.refl p
  split
  · exact MapsFewer.refl p
  cases answer with
  | dead => exact removeDevice_mapsFewer hp handle.deviceId
  | notified | exited | timeout | failed => exact MapsFewer.refl p

theorem removeSession_mapsFewer (hp : p.Distinct) (handle : SessionHandle) :
    MapsFewer p (p.updateDevice handle.deviceId (Device.removeSession handle.sessionId)) := by
  intro other list' hlist'
  rw [mappings_updateDevice (deviceId_removeSession handle.sessionId)] at hlist'
  split at hlist'
  next hsame =>
    obtain ⟨device, hdevice, hlist'⟩ := Option.bind_eq_some_iff.mp hlist'
    obtain ⟨session, hsession, rfl⟩ := Option.map_eq_some_iff.mp hlist'
    obtain ⟨hmem, hid⟩ := KeyedList.mem_of_lookup hsession
    have hnodup : (device.sessionList.map Session.sessionId).Nodup :=
      hp.sessions _ (table_of_resolve hdevice)
    have hlookup : device.resolveSessionId other.sessionId = some session := by
      rw [← hid]
      exact KeyedList.lookup_of_mem hnodup (KeyedList.mem_of_mem_delete hmem)
    exact ⟨_, mappings_of_resolve (hsame ▸ hdevice) hlookup, List.Sublist.refl _⟩
  next => exact ⟨list', hlist', List.Sublist.refl list'⟩

/-- The daemon keeps the session open. -/
def Refuses : Reply Unit → Prop
  | .lost => False
  | .answered code _ => code ≠ mcDrvOk

instance : DecidablePred Refuses
  | .lost => isFalse id
  | .answered code _ => inferInstanceAs (Decidable (code ≠ mcDrvOk))

/-- A call to close a session changes nothing, loses the device, or removes the session. -/
theorem mcCloseSession_cases (handle : SessionHandle) (reply : Reply Unit) (p : Process) :
    (p.mcCloseSession handle reply).2 = p ∧ (p.mappings handle = none ∨ Refuses reply) ∨
      reply = .lost ∧ (p.mcCloseSession handle reply).2 = p.removeDevice handle.deviceId ∨
      reply = .answered mcDrvOk () ∧ ∃ handles, (p.mcCloseSession handle reply).2 =
        (p.updateDevice handle.deviceId (Device.removeSession handle.sessionId)).unregister
          handles := by
  unfold Process.mcCloseSession
  cases hdevice : resolveDeviceId handle.deviceId p.devices with
  | none => exact Or.inl ⟨rfl, Or.inl (mappings_eq_none hdevice)⟩
  | some device =>
      dsimp only
      cases hsession : device.resolveSessionId handle.sessionId with
      | none => exact Or.inl ⟨rfl, Or.inl (mappings_of_unresolved hdevice hsession)⟩
      | some session =>
          have hdid : device.deviceId = handle.deviceId := (KeyedList.mem_of_lookup hdevice).2
          have hid : session.sessionId = handle.sessionId := (KeyedList.mem_of_lookup hsession).2
          cases reply with
          | lost => exact Or.inr (Or.inl ⟨rfl, rfl⟩)
          | answered code payload =>
              by_cases hcode : code = mcDrvOk
              · subst hcode
                refine Or.inr (Or.inr ⟨rfl, session.handles, ?_⟩)
                rw [← hdid, ← hid]
                rfl
              · dsimp only [exchangeClose]
                rw [if_pos hcode]
                exact Or.inl ⟨rfl, Or.inr hcode⟩

theorem mcCloseSession_mapsFewer (hp : p.Distinct) (reply : Reply Unit) :
    MapsFewer p (p.mcCloseSession handle reply).2 := by
  rcases mcCloseSession_cases handle reply p with ⟨hsame, -⟩ | ⟨-, hlost⟩ | ⟨-, handles, hclosed⟩
  · rw [hsame]
    exact MapsFewer.refl p
  · rw [hlost]
    exact removeDevice_mapsFewer hp handle.deviceId
  · rw [hclosed]
    exact removeSession_mapsFewer hp handle

/-- A session has no list when it is closed, or with its device when the reply is lost. -/
theorem mappings_mcCloseSession (hp : p.Distinct) {reply : Reply Unit} (hreply : ¬ Refuses reply) :
    (p.mcCloseSession handle reply).2.mappings handle = none := by
  rcases mcCloseSession_cases handle reply p with ⟨hsame, hnone | hrefuses⟩ | ⟨-, hlost⟩ |
    ⟨rfl, -⟩
  · rw [hsame]
    exact hnone
  · exact absurd hrefuses hreply
  · rw [hlost, mappings_removeDevice hp, if_pos rfl]
  · have hcloses : Closes p (p.mcCloseSession handle (.answered mcDrvOk ())).2 handle :=
      mcCloseSession_closes hp
    rw [Option.eq_none_iff_forall_ne_some]
    intro list hlist
    have hopen := (isOpen_iff_mappings hcloses.distinct handle).mpr ⟨list, hlist⟩
    exact ((hcloses.sessions handle).mp hopen).2 rfl

theorem mcCloseSession_distinct (hp : p.Distinct) (reply : Reply Unit) :
    (p.mcCloseSession handle reply).2.Distinct := by
  rcases mcCloseSession_cases handle reply p with ⟨hsame, -⟩ | ⟨-, hlost⟩ | ⟨rfl, -⟩
  · rw [hsame]
    exact hp
  · rw [hlost]
    exact (removeDevice_fewer hp handle.deviceId).distinct
  · exact (mcCloseSession_closes hp).distinct

/-- A notification is sent, or the session has no list any more. -/
theorem mcNotify_cases (handle : SessionHandle) (hp : p.Distinct) (sent : Bool) :
    sent = true ∧ p.mcNotify handle sent = (mcDrvOk, p) ∨
      (p.mcNotify handle sent).2.mappings handle = none := by
  unfold Process.mcNotify
  cases hdevice : resolveDeviceId handle.deviceId p.devices with
  | none => exact Or.inr (mappings_eq_none hdevice)
  | some device =>
      dsimp only
      cases hsession : device.resolveSessionId handle.sessionId with
      | none => exact Or.inr (mappings_of_unresolved hdevice hsession)
      | some session =>
          cases sent with
          | false =>
              refine Or.inr ?_
              show (p.removeDevice handle.deviceId).mappings handle = none
              rw [mappings_removeDevice hp, if_pos rfl]
          | true => exact Or.inl ⟨rfl, rfl⟩

/-- What `mcWaitNotification` returns for an open session. -/
def waitCode : WaitAnswer → McResult
  | .notified => mcDrvOk
  | .exited => mcDrvInfoNotification
  | .timeout => mcDrvErrTimeout
  | .dead | .failed => mcDrvErrNotification

theorem mcWaitNotification_cases (handle : SessionHandle) (hp : p.Distinct)
    (answer : WaitAnswer) :
    answer ≠ .dead ∧ p.mcWaitNotification handle answer = (waitCode answer, p) ∨
      (p.mcWaitNotification handle answer).2.mappings handle = none := by
  unfold Process.mcWaitNotification
  cases hdevice : resolveDeviceId handle.deviceId p.devices with
  | none => exact Or.inr (mappings_eq_none hdevice)
  | some device =>
      dsimp only
      cases hsession : device.resolveSessionId handle.sessionId with
      | none => exact Or.inr (mappings_of_unresolved hdevice hsession)
      | some session =>
          cases answer with
          | dead =>
              refine Or.inr ?_
              show (p.removeDevice handle.deviceId).mappings handle = none
              rw [mappings_removeDevice hp, if_pos rfl]
          | notified | exited | timeout | failed =>
              refine Or.inl ⟨?_, rfl⟩
              intro hdead
              cases hdead

end OtherCalls

end Process

end Exynos8890.MobiCore.ClientLib
