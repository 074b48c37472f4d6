import Exynos8890.MobiCore.ClientLib.BufferLists

/-!
# Client and daemon agree on the mapped buffers

The calls of one client, with the daemon that serves them: every call keeps the buffer
lists of the client in step with the tables of the daemon, but for two.

Main results:

- Definition `BuffersAgree`: both sides list the same handles, the TCI apart.
- Theorem `step_consistent`: what a call does to the lists of both sides.
- Theorem `buffersAgree_run`: both sides agree, over runs in which no map command fails in
  the secure world and every buffer is unmapped under its own address.
-/

namespace Exynos8890.MobiCore.ClientLib

namespace Client

/-- The client has one device at most, and is in step with the daemon. -/
def Consistent (c : Client) : Prop :=
  c.devices = [] ∨
    ∃ device, c.devices = [device] ∧ InStep device.sessionList c.registrations c.daemon

theorem resolve_singleton {deviceId : UInt32} {c : Client} {device : Device}
    (h : c.Consistent) (hresolve : resolveDeviceId deviceId c.devices = some device) :
    device.deviceId = deviceId ∧ c.devices = [device] ∧
      InStep device.sessionList c.registrations c.daemon := by
  obtain ⟨hmem, hid⟩ := KeyedList.mem_of_lookup hresolve
  rcases h with hnil | ⟨only, hdevices, hin⟩
  · rw [hnil] at hmem
    cases hmem
  · rw [hdevices] at hmem
    have heq := List.mem_singleton.mp hmem
    rw [heq] at hid ⊢
    exact ⟨hid, hdevices, hin⟩

theorem devices_updateSession {c : Client} {device : Device} (hdevices : c.devices = [device])
    (sessionId : UInt32) (f : Session → Session) :
    (c.updateSession device.deviceId sessionId f).devices =
      [device.updateSession sessionId f] := by
  simp [updateSession, KeyedList.update, hdevices]

theorem Consistent.removeDevice {c : Client} (h : c.Consistent) (deviceId : UInt32)
    (answer : UInt32 → McResult) : (c.removeDevice deviceId answer).Consistent := by
  unfold Client.removeDevice
  cases hresolve : resolveDeviceId deviceId c.devices with
  | none => exact h
  | some device =>
      obtain ⟨hid, hdevices, _⟩ := resolve_singleton h hresolve
      left
      simp [unregister, KeyedList.delete, hdevices, hid]

theorem Consistent.removeIfDead {result : McResult × Client} (h : result.2.Consistent)
    (deviceId : UInt32) (answer : UInt32 → McResult) :
    (Client.removeIfDead deviceId answer result).2.Consistent := by
  unfold Client.removeIfDead
  split
  · exact h.removeDevice deviceId answer
  · exact h

theorem mem_unregister {c : Client} {answer : UInt32 → McResult} {handles : List UInt32}
    {handle : UInt32} (hmem : handle ∈ c.registrations) (hnot : handle ∉ handles) :
    handle ∈ (c.unregister answer handles).registrations := by
  unfold unregister
  rw [List.mem_filter]
  exact ⟨hmem, by simp [hnot]⟩

/-- What has to be shown of `removeBulkBuf`. -/
theorem removeBulkBuf_consistent {c : Client} {device : Device} {session : Session} {buf : UInt64}
    {blkBuf : BulkBufferDescriptor} {answer : UInt32 → McResult} (hdevices : c.devices = [device])
    (hfind : KeyedList.lookup BulkBufferDescriptor.virtAddr buf session.bulkBufferDescriptors =
      some blkBuf)
    (hin : InStep (KeyedList.update Session.sessionId session.sessionId
      (fun _ => (session.removeBulkBuf buf (answer blkBuf.handle)).2) device.sessionList)
      (c.unregister answer [blkBuf.handle]).registrations c.daemon) :
    (c.removeBulkBuf device.deviceId session buf answer).2.Consistent := by
  unfold removeBulkBuf
  rw [hfind]
  right
  exact ⟨_, devices_updateSession hdevices _ _, hin⟩

/-! ## Mapping -/

/-- `mcMap` reaches the secure world, which fails. -/
def MapFails (args : MapArgs) (env : MapEnvironment) (c : Client) : Prop :=
  args.sessionHandle = true ∧ args.mapInfo = true ∧ args.buf ≠ 0 ∧
    ∃ device ∈ resolveDeviceId args.deviceId c.devices,
      ∃ session ∈ device.resolveSessionId args.sessionId,
        (session.addBulkBuf args.buf args.bufLen env.registered).isOk = true ∧
        c.daemon.MapAccepted device.connection session.sessionId env.wsm ∧
        env.r.mcResult mcMcpCmdMap ≠ mcDrvOk

instance (args : MapArgs) (env : MapEnvironment) (c : Client) : Decidable (c.MapFails args env) :=
  inferInstanceAs (Decidable (_ ∧ _ ∧ _ ∧ ∃ device ∈ resolveDeviceId args.deviceId c.devices,
    ∃ session ∈ device.resolveSessionId args.sessionId, _))

/-- The exchange of `mcMap`: an error of the daemon takes the buffer from the list again,
whether the daemon has listed it or not. -/
theorem exchangeMap_cases {args : MapArgs} {env : MapEnvironment} {device : Device}
    {session : Session} {bulkBuf : BulkBufferDescriptor} {c : Client}
    {result : McResult × Option BulkMap × Client} (hdelivers : env.exchange.Delivers)
    (hrun : c.exchangeMap args env device session bulkBuf = some result) :
    (∃ t, (Daemon.AnsweredError device.connection c.daemon t ∨
        (c.daemon.MapAccepted device.connection session.sessionId env.wsm ∧
          env.r.mcResult mcMcpCmdMap ≠ mcDrvOk)) ∧
      result.2.2 = ({ c with daemon := t }.removeBulkBuf device.deviceId session args.buf
        env.unregister).2) ∨
    (∃ found t value,
      Daemon.MapServed device.connection (mapCommand session bulkBuf) env.wsm env.r found
        c.daemon t ∧
      result.2.2 = { c with daemon := t }.updateSession device.deviceId session.sessionId
        (Session.setSVirtualAddr bulkBuf.virtAddr value)) := by
  obtain ⟨hsent, hheader, hpayload⟩ := hdelivers
  simp only [exchangeMap, hsent, hheader, hpayload, Bool.true_eq_false, if_false] at hrun
  rcases Daemon.serveMapBulkBuf_spec device.connection (mapCommand session bulkBuf) env.wsm env.r
    c.daemon with ⟨_, herror⟩ | ⟨haccepted, found, hserved⟩
  · left
    obtain ⟨code, _, hanswer⟩ := herror.answered
    rw [hanswer] at hrun
    cases hrun
    exact ⟨_, Or.inl herror, rfl⟩
  · have hanswer := hserved.answered
    by_cases hret : env.r.mcResult mcMcpCmdMap = mcDrvOk
    · right
      rw [hanswer, if_pos hret] at hrun
      cases hrun
      exact ⟨found, _, _, hserved, rfl⟩
    · left
      rw [hanswer, if_neg hret] at hrun
      cases hrun
      exact ⟨_, Or.inr ⟨haccepted, hret⟩, rfl⟩

/-- A change of a session object that was put in the place of another. -/
theorem sessionList_replaced {device : Device} {session : Session} {f : Session → Session}
    (bulkBuf : BulkBufferDescriptor) :
    KeyedList.update Session.sessionId session.sessionId f
        (device.updateSession session.sessionId fun _ => session.pushBulkBuf bulkBuf).sessionList =
      KeyedList.update Session.sessionId session.sessionId
        (fun _ => f (session.pushBulkBuf bulkBuf)) device.sessionList := by
  have hkeep : ∀ a : Session, a.sessionId = session.sessionId →
      (session.pushBulkBuf bulkBuf).sessionId = session.sessionId := fun _ _ => rfl
  exact KeyedList.update_update hkeep device.sessionList

theorem exchangeMap_undone {buf : UInt64} {device : Device} {session : Session}
    {bulkBuf : BulkBufferDescriptor} {c m : Client} {t : Daemon} {answer : UInt32 → McResult}
    (hin : InStep device.sessionList c.registrations c.daemon)
    (hs : session ∈ device.sessionList) (hbuf : bulkBuf.virtAddr = buf)
    (hnew : buf ∉ session.bulkBufferDescriptors.map BulkBufferDescriptor.virtAddr)
    (hfresh : bulkBuf.handle ∉ c.registrations)
    (hm : m.devices = [device.updateSession session.sessionId
      fun _ => session.pushBulkBuf bulkBuf])
    (hregistrations : m.registrations = c.registrations ++ [bulkBuf.handle])
    (ht : Daemon.SameSessions c.daemon t) :
    ({ m with daemon := t }.removeBulkBuf device.deviceId (session.pushBulkBuf bulkBuf) buf
      answer).2.Consistent := by
  subst hbuf
  obtain ⟨hlookup, hdelete⟩ := lookup_pushBulkBuf hnew
  have hremoved : ((session.pushBulkBuf bulkBuf).removeBulkBuf bulkBuf.virtAddr
      (answer bulkBuf.handle)).2 = session := by
    unfold Session.removeBulkBuf
    rw [hlookup, hdelete]
    rfl
  have htables : t.trustletSessions.map Daemon.sessionTable =
      c.daemon.trustletSessions.map Daemon.sessionTable := by
    rw [ht.trustletSessions]
  have hkept : ∀ handle ∈ c.registrations,
      handle ∈ (unregister answer [bulkBuf.handle] { m with daemon := t }).registrations := by
    intro handle hhandle
    apply mem_unregister
    · rw [hregistrations]
      exact List.mem_append_left _ hhandle
    · intro heq
      rw [List.mem_singleton.mp heq] at hhandle
      exact hfresh hhandle
  apply removeBulkBuf_consistent (c := { m with daemon := t }) hm hlookup
  rw [hremoved]
  rw [Session.pushBulkBuf_sessionId, sessionList_replaced]
  apply hin.update hs rfl (hin.handles session hs)
  · intro handle hhandle
    exact ⟨hkept handle (hin.registered session hs handle hhandle), Or.inr hhandle⟩
  · exact fun handle hhandle _ => hkept handle hhandle
  · exact hin.tables.congr htables ht.nextRef
  · exact fun id _ => Daemon.buffersOf_congr htables id
  · rw [Daemon.buffersOf_congr htables]
    exact hin.agree session hs

theorem exchangeMap_consistent {args : MapArgs} {env : MapEnvironment} {device : Device}
    {session : Session} {bulkBuf : BulkBufferDescriptor} {c : Client}
    {result : McResult × Option BulkMap × Client} (hdevices : c.devices = [device])
    (hin : InStep device.sessionList c.registrations c.daemon)
    (hs : session ∈ device.sessionList) (hbuf : bulkBuf.virtAddr = args.buf)
    (hnew : args.buf ∉ session.bulkBufferDescriptors.map BulkBufferDescriptor.virtAddr)
    (hfresh : bulkBuf.handle ∉ c.registrations) (hdelivers : env.exchange.Delivers)
    (hok : c.daemon.MapAccepted device.connection session.sessionId env.wsm →
      env.r.mcResult mcMcpCmdMap = mcDrvOk)
    (hrun : ((c.register (some bulkBuf)).updateSession device.deviceId session.sessionId
      fun _ => session.pushBulkBuf bulkBuf).exchangeMap args env device
        (session.pushBulkBuf bulkBuf) bulkBuf = some result) : result.2.2.Consistent := by
  have hpushed := devices_updateSession (c := c.register (some bulkBuf)) hdevices
    session.sessionId fun _ => session.pushBulkBuf bulkBuf
  rcases exchangeMap_cases hdelivers hrun with
    ⟨t, herror | ⟨haccepted, hfails⟩, hclient⟩ | ⟨found, t, value, hserved, hclient⟩
  · rw [hclient]
    exact exchangeMap_undone hin hs hbuf hnew hfresh hpushed rfl herror.toSameSessions
  · exact absurd (hok haccepted) hfails
  · rw [hclient]
    right
    refine ⟨_, devices_updateSession hpushed _ _, ?_⟩
    have hlist : (Device.updateSession session.sessionId
        (Session.setSVirtualAddr bulkBuf.virtAddr value)
        (device.updateSession session.sessionId fun _ =>
          session.pushBulkBuf bulkBuf)).sessionList =
        KeyedList.update Session.sessionId session.sessionId (fun _ =>
          (session.pushBulkBuf bulkBuf).setSVirtualAddr bulkBuf.virtAddr value)
            device.sessionList := sessionList_replaced bulkBuf
    have hget := Daemon.getTrustletSession_of_findSession hserved.found
    obtain ⟨htables, hbuffers⟩ := hserved.tables hin.tables
    have hhandles : ∀ handle,
        handle ∈ ((session.pushBulkBuf bulkBuf).setSVirtualAddr bulkBuf.virtAddr value).handles ↔
          handle ∈ session.handles ∨ handle = bulkBuf.handle := by
      intro handle
      rw [handles_setSVirtualAddr]
      exact mem_handles_pushBulkBuf
    have hsame : ((session.pushBulkBuf bulkBuf).setSVirtualAddr bulkBuf.virtAddr value).sessionId =
        session.sessionId := rfl
    rw [Session.pushBulkBuf_sessionId, hlist]
    apply hin.update hs hsame
    · rw [handles_setSVirtualAddr, Session.handles, Session.pushBulkBuf, List.map_append]
      apply (hin.handles session hs).append (List.nodup_singleton _)
      intro handle hlisted hadded
      rw [List.mem_singleton.mp hadded] at hlisted
      exact hfresh (hin.registered session hs _ hlisted)
    · intro handle hhandle
      rcases (hhandles handle).mp hhandle with hlisted | hadded
      · exact ⟨List.mem_append_left _ (hin.registered session hs handle hlisted), Or.inr hlisted⟩
      · rw [hadded]
        exact ⟨List.mem_append_right _ (List.mem_singleton_self _), Or.inl hfresh⟩
    · exact fun handle hhandle _ => List.mem_append_left _ hhandle
    · exact htables
    · exact fun id hne => (hbuffers id).trans (if_neg hne)
    · exact ⟨_, (hbuffers session.sessionId).trans (if_pos rfl),
        (hin.handlesAgree hs hget).add _ hhandles⟩

/-- `mcMap` keeps client and daemon in step when the secure world does not fail. -/
theorem mcMap_consistent {args : MapArgs} {env : MapEnvironment} {c : Client}
    {result : McResult × Option BulkMap × Client} (h : c.Consistent)
    (hdelivers : env.exchange.Delivers) (hfresh : c.FreshHandle env.registered)
    (hok : ¬ c.MapFails args env) (hrun : c.mcMap args env = some result) :
    result.2.2.Consistent := by
  unfold mcMap at hrun
  split at hrun
  · cases hrun
    exact h
  · next hargs =>
      split at hrun
      · cases hrun
        exact h
      · next device hdevice =>
          obtain ⟨hid, hdevices, hin⟩ := resolve_singleton h hdevice
          split at hrun
          · cases hrun
            exact h
          · next session hsession =>
              obtain ⟨hs, hsid⟩ := KeyedList.mem_of_lookup hsession
              split at hrun
              · cases hrun
                exact h
              · next bulkBuf pushed hadd =>
                  obtain ⟨hnew, hregistered, hbuf, rfl⟩ := Session.addBulkBuf_eq_ok hadd
                  rw [hregistered] at hfresh
                  apply exchangeMap_consistent hdevices hin hs hbuf hnew hfresh.2 hdelivers _ hrun
                  intro haccepted
                  by_contra hfails
                  apply hok
                  simp only [not_or, Bool.not_eq_false] at hargs
                  refine ⟨hargs.1, hargs.2.1, hargs.2.2, device, hdevice, session, hsession, ?_,
                    haccepted, hfails⟩
                  rw [hadd]
                  rfl

/-! ## Opening -/

/-- A call that has passed its tests has found its device, and has registered nothing or the
buffer of the TCI. -/
theorem prepare_eq_ok {needsTci : Bool} {args : OpenArgs} {registered : Except McResult UInt32}
    {c : Client} {device : Device} {handle : UInt32} {bulkBuf : Option BulkBufferDescriptor}
    (h : c.prepare needsTci args registered = .ok (device, handle, bulkBuf)) :
    resolveDeviceId args.deviceId c.devices = some device ∧
      ∀ blkBuf ∈ bulkBuf, registered = .ok handle ∧ blkBuf.handle = handle := by
  unfold prepare at h
  split at h
  · cases h
  · split at h
    · cases h
    · next found hdevice =>
        split at h
        · cases h
        · next htci =>
            cases h
            constructor
            · exact hdevice
            · intro blkBuf hblkBuf
              unfold tciHandle at htci
              repeat' split at htci
              all_goals cases htci
              all_goals cases hblkBuf
              exact ⟨rfl, rfl⟩

/-- What the daemon has behind a call that may have opened a session. -/
theorem DaemonAfter.tables {args : OpenArgs} {env : OpenEnvironment} {device : Device}
    {handle : UInt32} {c : Client} {t : Daemon} (h : c.DaemonAfter args env device handle t)
    (hd : c.daemon.TablesOk) (hfresh : c.FreshSessionId env.service.r) :
    t.TablesOk ∧ ((¬ c.DaemonOpens args env device handle ∧
        ∀ id, t.buffersOf id = c.daemon.buffersOf id) ∨
      (c.DaemonOpens args env device handle ∧ env.service.r.value ∉
        c.daemon.trustletSessions.map TrustletSession.sessionId ∧
        ∃ frame : OpenFrame, frame.tciHandle = handle ∧ frame.tciLen = args.len ∧
          ∀ id, t.buffersOf id = if id = env.service.r.value then
            some (c.daemon.newSession frame env.service.r.value env.service.host.addr
              env.service.host.magic).buffers else c.daemon.buffersOf id)) := by
  obtain ⟨_, ⟨hnot, hnext, hcores⟩ | ⟨hopens, hnext, frame, _, hhandle, hlen, hcores⟩⟩ := h
  · have htables := Daemon.tables_of_cores hcores
    exact ⟨hd.congr htables hnext, Or.inl ⟨hnot, Daemon.buffersOf_congr htables⟩⟩
  · have hnew := hfresh hopens.2.2.2
    have hnames := Daemon.newSession_names frame env.service.r.value env.service.host.addr
      env.service.host.magic c.daemon
    have happend : t.trustletSessions.map Daemon.sessionCore =
        (c.daemon.trustletSessions ++ [c.daemon.newSession frame env.service.r.value
          env.service.host.addr env.service.host.magic]).map Daemon.sessionCore := by
      rw [hcores, List.map_append]
      rfl
    have htables := Daemon.tables_of_cores happend
    rw [List.map_append] at htables
    have hid : (c.daemon.newSession frame env.service.r.value env.service.host.addr
        env.service.host.magic).sessionId ∉
          c.daemon.trustletSessions.map TrustletSession.sessionId := by
      rw [hnames.2]
      exact hnew
    constructor
    · exact hd.append hnames.1 hid htables hnext
    · right
      refine ⟨hopens, hnew, frame, hhandle, hlen, ?_⟩
      have hbuffers := Daemon.buffersOf_append hid htables
      rw [hnames.2] at hbuffers
      exact hbuffers

/-- The sessions of the client when the daemon may have opened another one. -/
theorem inStep_openFailed {args : OpenArgs} {env : OpenEnvironment} {device : Device}
    {handle : UInt32} {bulkBuf : Option BulkBufferDescriptor} {c : Client} {result : OpenResult}
    {sessions : List Session} (hin : InStep sessions c.registrations c.daemon)
    (hfresh : c.FreshSessionId env.service.r)
    (h : OpenFailed args env device handle (c.register bulkBuf) result) :
    InStep sessions result.client.registrations result.client.daemon := by
  obtain ⟨htables, hbuffers⟩ := h.daemon.tables hin.tables hfresh
  apply hin.congr htables
  · intro s hs
    rcases hbuffers with ⟨_, hsame⟩ | ⟨_, hnew, frame, _, _, hif⟩
    · exact hsame s.sessionId
    · refine (hif s.sessionId).trans (if_neg ?_)
      intro hid
      apply hnew
      rw [← hid]
      exact hin.listed hs
  · intro handle hhandle
    rw [h.registrations]
    exact List.mem_append_left _ hhandle

theorem inStep_openSucceeded {args : OpenArgs} {env : OpenEnvironment} {device : Device}
    {handle : UInt32} {bulkBuf : Option BulkBufferDescriptor} {c : Client} {result : OpenResult}
    {sessions : List Session} (hin : InStep sessions c.registrations c.daemon)
    (hhandle : ∀ blkBuf ∈ bulkBuf, env.registered = .ok handle ∧ blkBuf.handle = handle)
    (hregistered : c.FreshHandle env.registered) (hfresh : c.FreshSessionId env.service.r)
    (h : OpenSucceeded args env device handle bulkBuf (c.register bulkBuf) result) :
    InStep (sessions ++ [{ sessionId := env.service.r.value
                           bulkBufferDescriptors := bulkBuf.toList }])
      result.client.registrations result.client.daemon := by
  obtain ⟨htables, ⟨hnot, _⟩ | ⟨hopens, hnew, frame, htci, hlen, hbuffers⟩⟩ :=
    h.daemon.tables hin.tables hfresh
  · exact absurd h.completes.opens hnot
  · have hblkBuf : ∀ blkBuf ∈ bulkBuf, blkBuf.handle = handle ∧ handle ≠ 0 ∧
        handle ∉ c.registrations := by
      intro blkBuf hmem
      obtain ⟨hok, hsame⟩ := hhandle blkBuf hmem
      rw [hok] at hregistered
      exact ⟨hsame, hregistered⟩
    have hothers : ∀ s ∈ sessions, s.sessionId ≠ env.service.r.value := by
      intro s hs hid
      apply hnew
      rw [← hid]
      exact hin.listed hs
    apply hin.change { sessionId := env.service.r.value, bulkBufferDescriptors := bulkBuf.toList }
    · rw [List.map_append]
      apply hin.ids.append (List.nodup_singleton _)
      intro id hold hadded
      obtain ⟨s, hs, hid⟩ := List.mem_map.mp hold
      exact hothers s hs (hid.trans (List.mem_singleton.mp hadded))
    · intro s hs
      rcases List.mem_append.mp hs with hs | hs
      · exact Or.inr ⟨hs, hothers s hs⟩
      · exact Or.inl (List.mem_singleton.mp hs)
    · cases bulkBuf with
      | none => exact List.nodup_nil
      | some blkBuf => exact List.nodup_singleton _
    · intro listed hlisted
      obtain ⟨blkBuf, hmem, rfl⟩ := List.mem_map.mp hlisted
      rw [h.registrations]
      constructor
      · exact List.mem_append_right _ hlisted
      · left
        obtain ⟨hsame, _, hunused⟩ := hblkBuf blkBuf (Option.mem_toList.mp hmem)
        rw [hsame]
        exact hunused
    · intro s hs _ listed hlisted
      rw [h.registrations]
      exact List.mem_append_left _ (hin.registered s hs listed hlisted)
    · exact htables
    · exact fun id hne => (hbuffers id).trans (if_neg hne)
    · refine ⟨_, (hbuffers _).trans (if_pos rfl), ?_⟩
      apply handlesAgree_newSession
      intro listed hlisted
      obtain ⟨blkBuf, hmem, rfl⟩ := List.mem_map.mp hlisted
      obtain ⟨hsame, hzero, _⟩ := hblkBuf blkBuf (Option.mem_toList.mp hmem)
      constructor
      · exact hsame.trans htci.symm
      · constructor
        · rw [htci]
          exact hzero
        · rw [hlen]
          rcases hopens.2.2.1.2.2 with ⟨hnone, _⟩ | ⟨_, hlen, _⟩
          · exact absurd hnone hzero
          · exact hlen

/-- The calls that open a session keep client and daemon in step. -/
theorem mcOpen_consistent {kind : OpenKind} {args : OpenArgs} {env : OpenEnvironment} {c : Client}
    {result : OpenResult} (h : c.Consistent) (hregistered : c.FreshHandle env.registered)
    (hfresh : c.FreshSessionId env.service.r) (hrun : c.mcOpen kind args env = some result) :
    result.client.Consistent := by
  rcases mcOpen_cases hrun with
    ⟨code, _, _, rfl⟩ | ⟨device, handle, bulkBuf, hprepare, hresult⟩
  · exact h
  · obtain ⟨hdevice, hhandle⟩ := prepare_eq_ok hprepare
    obtain ⟨hid, hdevices, hin⟩ := resolve_singleton h hdevice
    right
    rcases hresult with hok | hfailed
    · refine ⟨device.createNewSession { sessionId := env.service.r.value
                                        bulkBufferDescriptors := bulkBuf.toList }, ?_,
        inStep_openSucceeded hin hhandle hregistered hfresh hok⟩
      rw [hok.devices]
      simp [addSession, register, KeyedList.update, hdevices, hid]
    · refine ⟨device, ?_, inStep_openFailed hin hfresh hfailed⟩
      rw [hfailed.devices]
      exact hdevices

/-! ## Unmapping -/

/-- `mcUnmap` unmaps a buffer in the secure world, and another one or none is listed under the
address of the call. -/
def UnmapsOther (args : UnmapArgs) (env : UnmapEnvironment) (c : Client) : Prop :=
  args.sessionHandle = true ∧ args.buf ≠ 0 ∧
    ∃ mapInfo ∈ args.mapInfo, mapInfo.sVirtualAddr ≠ 0 ∧
      ∃ device ∈ resolveDeviceId args.deviceId c.devices,
        ∃ session ∈ device.resolveSessionId args.sessionId,
          session.getBufHandle mapInfo.sVirtualAddr mapInfo.sVirtualLen ≠ 0 ∧
          c.daemon.UnmapDone device.connection (unmapCommand session mapInfo
            (session.getBufHandle mapInfo.sVirtualAddr mapInfo.sVirtualLen)) env.r ∧
          session.findBulkBuf mapInfo.sVirtualAddr mapInfo.sVirtualLen ≠
            KeyedList.lookup BulkBufferDescriptor.virtAddr args.buf session.bulkBufferDescriptors

instance (args : UnmapArgs) (env : UnmapEnvironment) (c : Client) :
    Decidable (c.UnmapsOther args env) :=
  inferInstanceAs (Decidable (_ ∧ _ ∧ ∃ mapInfo ∈ args.mapInfo, _ ∧
    ∃ device ∈ resolveDeviceId args.deviceId c.devices,
      ∃ session ∈ device.resolveSessionId args.sessionId, _))

/-- The exchange of `mcUnmap`. -/
theorem exchangeUnmap_cases {args : UnmapArgs} {env : UnmapEnvironment} {mapInfo : BulkMap}
    {device : Device} {session : Session} {c : Client} {result : McResult × Client}
    (hdelivers : env.exchange.Delivers)
    (hrun : c.exchangeUnmap args env mapInfo device session = some result) :
    (∃ t, Daemon.SameSessions c.daemon t ∧ result.2 = { c with daemon := t }) ∨
    (∃ blkBuf found t,
      session.findBulkBuf mapInfo.sVirtualAddr mapInfo.sVirtualLen = some blkBuf ∧
      session.getBufHandle mapInfo.sVirtualAddr mapInfo.sVirtualLen ≠ 0 ∧
      c.daemon.UnmapDone device.connection (unmapCommand session mapInfo
        (session.getBufHandle mapInfo.sVirtualAddr mapInfo.sVirtualLen)) env.r ∧
      Daemon.UnmapServed device.connection (unmapCommand session mapInfo blkBuf.handle) found
        c.daemon t ∧
      result.2 = ({ c with daemon := t }.removeBulkBuf device.deviceId session args.buf
        env.unregister).2) := by
  obtain ⟨hsent, hheader, hpayload⟩ := hdelivers
  unfold exchangeUnmap at hrun
  by_cases hzero : session.getBufHandle mapInfo.sVirtualAddr mapInfo.sVirtualLen = 0
  · rw [if_pos hzero] at hrun
    cases hrun
    exact Or.inl ⟨c.daemon, ⟨rfl, rfl, rfl⟩, rfl⟩
  · simp only [hzero, hsent, hheader, Bool.true_eq_false, if_false] at hrun
    cases hfind : session.findBulkBuf mapInfo.sVirtualAddr mapInfo.sVirtualLen with
    | none =>
        rw [Session.getBufHandle, hfind] at hzero
        exact absurd rfl hzero
    | some blkBuf =>
        have hhandle : session.getBufHandle mapInfo.sVirtualAddr mapInfo.sVirtualLen =
            blkBuf.handle := by
          rw [Session.getBufHandle, hfind]
        rw [hhandle] at hrun hzero ⊢
        rcases Daemon.serveUnmapBulkBuf_spec device.connection
          (unmapCommand session mapInfo blkBuf.handle) env.r c.daemon with
            ⟨_, herror⟩ | ⟨hdone, found, hserved⟩
        · left
          obtain ⟨code, hcode, hanswer⟩ := herror.answered
          rw [hanswer] at hrun
          simp only [hcode, ne_eq, not_false_eq_true, if_true, Option.some.injEq] at hrun
          rw [← hrun]
          exact ⟨_, herror.toSameSessions, rfl⟩
        · right
          rw [hserved.answered] at hrun
          simp only [ne_eq, not_true_eq_false, if_false, Option.some.injEq] at hrun
          rw [← hrun]
          exact ⟨blkBuf, found, _, rfl, hzero, hdone, hserved, rfl⟩

/-- `mcUnmap` keeps client and daemon in step when it unmaps what its address names. -/
theorem exchangeUnmap_consistent {args : UnmapArgs} {env : UnmapEnvironment} {mapInfo : BulkMap}
    {device : Device} {session : Session} {c : Client} {result : McResult × Client}
    (hdevices : c.devices = [device])
    (hin : InStep device.sessionList c.registrations c.daemon)
    (hs : session ∈ device.sessionList) (hdelivers : env.exchange.Delivers)
    (hsame : session.getBufHandle mapInfo.sVirtualAddr mapInfo.sVirtualLen ≠ 0 →
      c.daemon.UnmapDone device.connection (unmapCommand session mapInfo
        (session.getBufHandle mapInfo.sVirtualAddr mapInfo.sVirtualLen)) env.r →
      session.findBulkBuf mapInfo.sVirtualAddr mapInfo.sVirtualLen =
        KeyedList.lookup BulkBufferDescriptor.virtAddr args.buf session.bulkBufferDescriptors)
    (hrun : c.exchangeUnmap args env mapInfo device session = some result) :
    result.2.Consistent := by
  rcases exchangeUnmap_cases hdelivers hrun with
    ⟨t, hsessions, hclient⟩ | ⟨blkBuf, found, t, hfind, hzero, hdone, hserved, hclient⟩
  · rw [hclient]
    have htables : t.trustletSessions.map Daemon.sessionTable =
        c.daemon.trustletSessions.map Daemon.sessionTable := by
      rw [hsessions.trustletSessions]
    exact Or.inr ⟨device, hdevices, hin.sameTables htables hsessions.nextRef⟩
  · have hlookup := (hsame hzero hdone).symm.trans hfind
    have hget := Daemon.getTrustletSession_of_findSession hserved.found
    obtain ⟨htables, hbuffers⟩ := hserved.tables hin.tables
    have hremoved := removeBulkBuf_of_lookup hlookup (hin.handles session hs)
      (env.unregister blkBuf.handle)
    have hid : (session.removeBulkBuf args.buf (env.unregister blkBuf.handle)).2.sessionId =
        session.sessionId := by
      rw [Session.removeBulkBuf, hlookup]
    have hlisted : blkBuf.handle ∈ session.handles :=
      List.mem_map_of_mem (KeyedList.mem_of_lookup hlookup).1
    rw [hclient]
    apply removeBulkBuf_consistent (c := { c with daemon := t }) hdevices hlookup
    apply hin.update hs hid hremoved.1
    · intro handle hhandle
      obtain ⟨hbefore, hne⟩ := (hremoved.2 handle).mp hhandle
      constructor
      · apply mem_unregister (hin.registered session hs handle hbefore)
        simpa using hne
      · exact Or.inr hbefore
    · intro handle hhandle hnot
      apply mem_unregister hhandle
      intro heq
      rw [List.mem_singleton.mp heq] at hnot
      exact hnot hlisted
    · exact htables
    · exact fun id hne => (hbuffers id).trans (if_neg hne)
    · exact ⟨_, (hbuffers session.sessionId).trans (if_pos rfl),
        (hin.handlesAgree hs hget).remove blkBuf.handle hremoved.2⟩

theorem mcUnmap_consistent {args : UnmapArgs} {env : UnmapEnvironment} {c : Client}
    {result : McResult × Client} (h : c.Consistent) (hdelivers : env.exchange.Delivers)
    (hsame : ¬ c.UnmapsOther args env) (hrun : c.mcUnmap args env = some result) :
    result.2.Consistent := by
  unfold mcUnmap at hrun
  split at hrun
  · cases hrun
    exact h
  · next mapInfo hmapInfo =>
      split at hrun
      · cases hrun
        exact h
      · next hargs =>
          split at hrun
          · cases hrun
            exact h
          · next device hdevice =>
              obtain ⟨hid, hdevices, hin⟩ := resolve_singleton h hdevice
              split at hrun
              · cases hrun
                exact h
              · next session hsession =>
                  obtain ⟨hs, hsid⟩ := KeyedList.mem_of_lookup hsession
                  obtain ⟨before, hexchange, rfl⟩ := Option.map_eq_some_iff.mp hrun
                  apply Consistent.removeIfDead
                  apply exchangeUnmap_consistent hdevices hin hs hdelivers _ hexchange
                  intro hzero hdone
                  by_contra hother
                  apply hsame
                  simp only [not_or, Bool.not_eq_false] at hargs
                  exact ⟨hargs.1, hargs.2.2, mapInfo, hmapInfo, hargs.2.1, device, hdevice, session,
                    hsession, hzero, hdone, hother⟩

/-! ## Closing -/

/-- The exchange of `mcCloseSession`. -/
theorem exchangeClose_cases {env : CloseEnvironment} {device : Device} {session : Session}
    {c : Client} {result : McResult × Client} (hdelivers : env.exchange.Delivers)
    (hrun : c.exchangeClose env device session = some result) :
    ∃ t, Daemon.CloseServed device.connection session.sessionId c.daemon t ∧
      ((t.trustletSessions.map Daemon.sessionTable =
          c.daemon.trustletSessions.map Daemon.sessionTable ∧
        result.2 = { c with daemon := t }) ∨
      result.2 = { c with
        daemon := t
        devices := KeyedList.update Device.deviceId device.deviceId
          (Device.removeSession session.sessionId) c.devices }.unregister env.unregister
            session.handles) := by
  obtain ⟨hsent, hheader, hpayload⟩ := hdelivers
  simp only [exchangeClose, hsent, hheader, Bool.true_eq_false, if_false] at hrun
  split at hrun
  · cases hrun
  · next t hserve =>
      have hserved := Daemon.serveCloseSession_spec hserve
      split at hrun
      · next code hanswer =>
          refine ⟨t, hserved, ?_⟩
          split at hrun
          · next hcode =>
              cases hrun
              left
              rcases hserved.served with ⟨htables, _⟩ | ⟨found, _, _, hok⟩
              · exact ⟨htables, rfl⟩
              · rw [hok, Option.some.injEq, Response.result.injEq] at hanswer
                exact absurd hanswer.symm hcode
          · cases hrun
            exact Or.inr rfl
      · cases hrun

theorem exchangeClose_consistent {env : CloseEnvironment} {device : Device} {session : Session}
    {c : Client} {result : McResult × Client} (hdevices : c.devices = [device])
    (hin : InStep device.sessionList c.registrations c.daemon)
    (hs : session ∈ device.sessionList) (hdelivers : env.exchange.Delivers)
    (hrun : c.exchangeClose env device session = some result) : result.2.Consistent := by
  obtain ⟨t, hserved, ⟨htables, hclient⟩ | hclient⟩ := exchangeClose_cases hdelivers hrun
  · rw [hclient]
    exact Or.inr ⟨device, hdevices, hin.sameTables htables hserved.nextRef⟩
  · have hothers : t.TablesOk ∧
        ∀ id, id ≠ session.sessionId → t.buffersOf id = c.daemon.buffersOf id := by
      rcases hserved.served with ⟨htables, _⟩ | ⟨found, hfound, htables, _⟩
      · constructor
        · exact hin.tables.congr htables hserved.nextRef
        · exact fun id _ => Daemon.buffersOf_congr htables id
      · obtain ⟨hmem, hid⟩ := Daemon.getTrustletSession_mem
          (Daemon.getTrustletSession_of_findSession hfound)
        constructor
        · exact hin.tables.delete htables hserved.nextRef
        · intro id hne
          rw [← hid] at hne
          exact Daemon.buffersOf_delete hin.tables hmem htables hne
    have hremoved : ({ c with
        daemon := t
        devices := KeyedList.update Device.deviceId device.deviceId
          (Device.removeSession session.sessionId) c.devices }.unregister env.unregister
            session.handles).devices = [device.removeSession session.sessionId] := by
      simp [unregister, KeyedList.update, hdevices]
    rw [hclient]
    right
    refine ⟨_, hremoved, ?_⟩
    apply hin.delete session.sessionId _ hothers.1 hothers.2
    intro s hmem hne handle hhandle
    apply mem_unregister (hin.registered s hmem handle hhandle)
    intro hlisted
    exact hne (hin.apart s hmem session hs handle hhandle hlisted)

theorem mcCloseSession_consistent {sessionHandle : Bool} {deviceId sessionId : UInt32}
    {env : CloseEnvironment} {c : Client} {result : McResult × Client} (h : c.Consistent)
    (hdelivers : env.exchange.Delivers)
    (hrun : c.mcCloseSession sessionHandle deviceId sessionId env = some result) :
    result.2.Consistent := by
  unfold mcCloseSession at hrun
  split at hrun
  · cases hrun
    exact h
  · split at hrun
    · cases hrun
      exact h
    · next device hdevice =>
        obtain ⟨hid, hdevices, hin⟩ := resolve_singleton h hdevice
        split at hrun
        · cases hrun
          exact h
        · next session hsession =>
            obtain ⟨hs, hsid⟩ := KeyedList.mem_of_lookup hsession
            obtain ⟨before, hexchange, rfl⟩ := Option.map_eq_some_iff.mp hrun
            apply Consistent.removeIfDead
            exact exchangeClose_consistent hdevices hin hs hdelivers hexchange

/-! ## Every sequence of calls -/

/-- Both sides list the same handles for every open session of the client. -/
def BuffersAgree (c : Client) : Prop :=
  ∀ device ∈ c.devices, ∀ session ∈ device.sessionList,
    ∃ buffers, c.daemon.buffersOf session.sessionId = some buffers ∧ HandlesAgree session buffers

/-- No map command fails in the secure world, and every buffer is unmapped under its own
address. -/
def ChangesBoth (c : Client) : Call → Prop
  | .mcMap args env => ¬ c.MapFails args env
  | .mcUnmap args env => ¬ c.UnmapsOther args env
  | .mcOpen _ _ _ | .mcCloseSession _ _ _ _ => True

instance (c : Client) (call : Call) : Decidable (c.ChangesBoth call) :=
  match call with
  | .mcMap args env => inferInstanceAs (Decidable (¬ c.MapFails args env))
  | .mcUnmap args env => inferInstanceAs (Decidable (¬ c.UnmapsOther args env))
  | .mcOpen _ _ _ => isTrue trivial
  | .mcCloseSession _ _ _ _ => isTrue trivial

theorem step_consistent (c : Client) (call : Call) (t : Client) (h : c.Consistent)
    (hboth : c.ChangesBoth call) (hstep : system.step c call = some t) : t.Consistent := by
  have hpossible : c.Possible call ∧ c.perform call = some t := by
    by_cases hpossible : c.Possible call
    · exact ⟨hpossible, by simpa [system, hpossible] using hstep⟩
    · simp [system, hpossible] at hstep
  obtain ⟨hpossible, hperform⟩ := hpossible
  cases call with
  | mcOpen kind args env =>
      obtain ⟨result, hresult, rfl⟩ := Option.map_eq_some_iff.mp hperform
      exact mcOpen_consistent h hpossible.2.1 hpossible.2.2 hresult
  | mcMap args env =>
      obtain ⟨result, hresult, rfl⟩ := Option.map_eq_some_iff.mp hperform
      exact mcMap_consistent h hpossible.1 hpossible.2 hboth hresult
  | mcUnmap args env =>
      obtain ⟨result, hresult, rfl⟩ := Option.map_eq_some_iff.mp hperform
      exact mcUnmap_consistent h hpossible hboth hresult
  | mcCloseSession sessionHandle deviceId sessionId env =>
      obtain ⟨result, hresult, rfl⟩ := Option.map_eq_some_iff.mp hperform
      exact mcCloseSession_consistent h hpossible hresult

/-- A client that has opened its device has no session yet. -/
theorem consistent_opened (conn : ConnPtr) (wsmL2List : List WsmPtr) :
    (opened conn wsmL2List).Consistent := by
  right
  refine ⟨_, rfl, ?_⟩
  constructor
  · constructor
    · exact List.nodup_nil
    · exact fun _ href => absurd href List.not_mem_nil
    · exact List.nodup_nil
  · exact List.nodup_nil
  all_goals exact fun _ hs => absurd hs List.not_mem_nil

/-- Client and daemon agree on the mapped buffers after every call of every sequence in
which each step changes both lists. -/
theorem buffersAgree_run (conn : ConnPtr) (wsmL2List : List WsmPtr) (calls : List Call)
    (c : Client) (hboth : system.StepsMeet ChangesBoth (opened conn wsmL2List) calls)
    (hrun : system.run (opened conn wsmL2List) calls = some c) : c.BuffersAgree := by
  have hconsistent : c.Consistent :=
    TransitionSystem.run_invariant step_consistent (consistent_opened conn wsmL2List) hboth hrun
  intro device hdevice session hsession
  rcases hconsistent with hnil | ⟨only, hdevices, hin⟩
  · rw [hnil] at hdevice
    cases hdevice
  · rw [hdevices] at hdevice
    rw [List.mem_singleton.mp hdevice] at hsession
    exact hin.agree session hsession

/-! ## Mapping one buffer -/

/-- A session without a TCI is opened. -/
def openPlain : Call :=
  .mcOpen .session { ordinaryTci with tci := 0, len := 0 } allSucceeds

/-- The buffer at 0x8000 is mapped into session 3, its table being registered under
handle 11. -/
def mapBuffer (r : McpReply) : Call :=
  .mcMap
    { sessionHandle := true
      mapInfo := true
      deviceId := mcDeviceIdDefault
      sessionId := 3
      buf := 0x8000
      bufLen := 0x200 }
    { registered := .ok 11
      exchange := { sent := true, header := true, payload := true }
      wsm := { contiguous := none, l2 := 0x9000, lock := true }
      r := r
      unregister := fun _ => mcDrvOk }

/-- The buffer that the secure world has mapped at 0x30000 is unmapped. -/
def unmapBuffer : Call :=
  .mcUnmap
    { sessionHandle := true
      mapInfo := some { sVirtualAddr := 0x30000, sVirtualLen := 0x200 }
      deviceId := mcDeviceIdDefault
      sessionId := 3
      buf := 0x8000 }
    { exchange := { sent := true, header := true, payload := true }
      r := Daemon.successReply mcMcpCmdUnmap 0
      unregister := fun _ => mcDrvOk }

theorem buffersAgree_run_mapUnmap :
    ∃ c, system.run (opened 1 [])
        [openPlain, mapBuffer (Daemon.successReply mcMcpCmdMap 0x30000), unmapBuffer] = some c ∧
      c.BuffersAgree :=
  ⟨_, rfl, buffersAgree_run 1 []
    [openPlain, mapBuffer (Daemon.successReply mcMcpCmdMap 0x30000), unmapBuffer] _
    (by decide) rfl⟩

/-- The secure world does not map the buffer: the client drops its handle, and the daemon
keeps it. -/
theorem not_buffersAgree :
    ¬ ∀ conn wsmL2List calls c, system.run (opened conn wsmL2List) calls = some c →
      c.BuffersAgree := by
  intro hagree
  obtain ⟨buffers, hbuffers, hsame⟩ := hagree 1 []
    [openPlain, mapBuffer (Daemon.failureReply mcMcpCmdMap 1)] _ rfl _ List.mem_cons_self _
    List.mem_cons_self
  cases hbuffers
  have hlisted := (hsame 11 (by decide)).mpr (by decide)
  exact absurd hlisted (by decide)

end Client

end Exynos8890.MobiCore.ClientLib
