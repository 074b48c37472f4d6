import Exynos8890.MobiCore.ClientLib.BufferAgreement

/-!
# One call to map or unmap a buffer

What `mcMap` and `mcUnmap` do to the descriptors of the sessions and to the tables that are
registered with the kernel module, however far the exchange with the daemon gets.

Main results:

- Definition `UnmapsAsked`: what is removed is what the daemon was asked to unmap.
- Definition `Undone`: descriptors and registrations are as before the call.
- Theorem `callMeets_iff`: when `mcUnmap` removes what it unmaps, and when `mcMap` undoes what
  it fails to do.
-/

namespace Exynos8890.MobiCore.ClientLib

namespace Client

/-! ## The descriptors of a session -/

/-- The session that a handle names. -/
def session (deviceId sessionId : UInt32) (c : Client) : Option Session :=
  (resolveDeviceId deviceId c.devices).bind (Device.resolveSessionId sessionId)

/-- The descriptors of the session that a handle names. -/
def descriptors (deviceId sessionId : UInt32) (c : Client) : Option (List BulkBufferDescriptor) :=
  (c.session deviceId sessionId).map Session.bulkBufferDescriptors

@[simp]
theorem descriptors_register (deviceId sessionId : UInt32) (bulkBuf : Option BulkBufferDescriptor)
    (c : Client) : (c.register bulkBuf).descriptors deviceId sessionId =
      c.descriptors deviceId sessionId :=
  rfl

@[simp]
theorem descriptors_unregister (deviceId sessionId : UInt32) (answer : UInt32 → McResult)
    (handles : List UInt32) (c : Client) :
    (c.unregister answer handles).descriptors deviceId sessionId =
      c.descriptors deviceId sessionId :=
  rfl

@[simp]
theorem descriptors_daemon (deviceId sessionId : UInt32) (d : Daemon) (c : Client) :
    { c with daemon := d }.descriptors deviceId sessionId = c.descriptors deviceId sessionId :=
  rfl

theorem descriptors_of_resolve {deviceId sessionId : UInt32} {c : Client} {device : Device}
    {session : Session} (hdevice : resolveDeviceId deviceId c.devices = some device)
    (hsession : device.resolveSessionId sessionId = some session) :
    c.descriptors deviceId sessionId = some session.bulkBufferDescriptors := by
  simp [descriptors, Client.session, hdevice, hsession]

/-- A session is put in the place of another, and no other session changes. -/
theorem descriptors_updateSession {deviceId sessionId : UInt32} {c : Client} {t : Session}
    (ht : t.sessionId = sessionId) (deviceId' sessionId' : UInt32) :
    (c.updateSession deviceId sessionId fun _ => t).descriptors deviceId' sessionId' =
      if deviceId' = deviceId ∧ sessionId' = sessionId then
        (c.descriptors deviceId sessionId).map fun _ => t.bulkBufferDescriptors
      else c.descriptors deviceId' sessionId' := by
  have hkey : ∀ device : Device,
      (device.updateSession sessionId fun _ => t).deviceId = device.deviceId := fun _ => rfl
  by_cases hdeviceId : deviceId' = deviceId
  · subst hdeviceId
    cases hdevice : resolveDeviceId deviceId' c.devices with
    | none =>
        have hnone : resolveDeviceId deviceId' (KeyedList.update Device.deviceId deviceId'
            (Device.updateSession sessionId fun _ => t) c.devices) = none := by
          rw [resolveDeviceId, KeyedList.lookup_update_eq hkey]
          rw [resolveDeviceId] at hdevice
          rw [hdevice, Option.map_none]
        simp [descriptors, Client.session, updateSession, hdevice, hnone]
    | some device =>
        have hsome : resolveDeviceId deviceId' (KeyedList.update Device.deviceId deviceId'
            (Device.updateSession sessionId fun _ => t) c.devices) =
              some (device.updateSession sessionId fun _ => t) :=
          KeyedList.lookup_update_self hkey hdevice
        have hreplace := KeyedList.lookup_replace ht sessionId' device.sessionList
        simp only [descriptors, Client.session, updateSession, hdevice, hsome, Option.bind_some,
          Device.resolveSessionId, Device.updateSession, hreplace]
        by_cases hsessionId : sessionId' = sessionId
        · simp [hsessionId, Function.comp_def]
        · simp [hsessionId]
  · have hother : resolveDeviceId deviceId' (KeyedList.update Device.deviceId deviceId
        (Device.updateSession sessionId fun _ => t) c.devices) =
          resolveDeviceId deviceId' c.devices :=
      KeyedList.lookup_update_of_ne hkey (Ne.symm hdeviceId) c.devices
    simp [descriptors, Client.session, updateSession, hother, hdeviceId]

/-! ## Unmapping -/

/-- The exchange of `mcUnmap` gets past its tests: `asked` is found by the mapping info, and
`listed` by the address of the buffer. -/
structure ExchangePasses (args : UnmapArgs) (env : UnmapEnvironment) (c : Client)
    (mapInfo : BulkMap) (device : Device) (session : Session)
    (asked listed : BulkBufferDescriptor) : Prop where
  asked_eq : session.findBulkBuf mapInfo.sVirtualAddr mapInfo.sVirtualLen = some asked
  handle_ne : asked.handle ≠ 0
  sent : env.exchange.sent = true
  header : env.exchange.header = true
  done : c.daemon.UnmapDone device.connection (unmapCommand session mapInfo asked.handle) env.r
  listed_eq : KeyedList.lookup BulkBufferDescriptor.virtAddr args.buf
    session.bulkBufferDescriptors = some listed
  unregistered : env.unregister listed.handle = mcDrvOk

/-- `mcUnmap` gets past all of its tests. -/
structure UnmapPasses (args : UnmapArgs) (env : UnmapEnvironment) (c : Client) (mapInfo : BulkMap)
    (device : Device) (session : Session) (asked listed : BulkBufferDescriptor) : Prop
    extends ExchangePasses args env c mapInfo device session asked listed where
  sessionHandle : args.sessionHandle = true
  buf_ne : args.buf ≠ 0
  mapInfo_eq : args.mapInfo = some mapInfo
  sVirtualAddr_ne : mapInfo.sVirtualAddr ≠ 0
  device_eq : resolveDeviceId args.deviceId c.devices = some device
  session_eq : device.resolveSessionId args.sessionId = some session

section Unmap

variable {args : UnmapArgs} {env : UnmapEnvironment} {c : Client} {mapInfo : BulkMap}
  {device : Device} {session : Session} {asked listed : BulkBufferDescriptor}

theorem getBufHandle_of_find
    (hasked : session.findBulkBuf mapInfo.sVirtualAddr mapInfo.sVirtualLen = some asked) :
    session.getBufHandle mapInfo.sVirtualAddr mapInfo.sVirtualLen = asked.handle := by
  rw [Session.getBufHandle, hasked]

/-- What the exchange leaves when it gets past its tests. -/
theorem ExchangePasses.run (h : c.ExchangePasses args env mapInfo device session asked listed) :
    ∃ t, c.exchangeUnmap args env mapInfo device session = some (mcDrvOk,
      ({ c with daemon := t }.removeBulkBuf device.deviceId session args.buf env.unregister).2) := by
  have hanswer : (c.daemon.serveUnmapBulkBuf device.connection
      (unmapCommand session mapInfo asked.handle) env.r).answered device.connection =
        some (.result mcDrvOk) := by
    rcases Daemon.serveUnmapBulkBuf_spec device.connection
      (unmapCommand session mapInfo asked.handle) env.r c.daemon with ⟨hnot, _⟩ | ⟨_, found, hserved⟩
    · exact absurd h.done hnot
    · exact hserved.answered
  have hok : ∀ t, ({ c with daemon := t }.removeBulkBuf device.deviceId session args.buf
      env.unregister).1 = mcDrvOk := by
    intro t
    rw [removeBulkBuf, h.listed_eq]
    simp only [Session.removeBulkBuf, h.listed_eq]
    exact h.unregistered
  refine ⟨c.daemon.serveUnmapBulkBuf device.connection
    (unmapCommand session mapInfo asked.handle) env.r, ?_⟩
  rw [exchangeUnmap, getBufHandle_of_find h.asked_eq]
  simp only [h.handle_ne, h.sent, h.header, hanswer, Bool.true_eq_false, if_false, ne_eq,
    not_true_eq_false]
  rw [← hok]

theorem exists_passes_of_exchange {result : McResult × Client}
    (hrun : c.exchangeUnmap args env mapInfo device session = some result)
    (hok : result.1 = mcDrvOk) :
    ∃ asked listed, c.ExchangePasses args env mapInfo device session asked listed := by
  have hfailed : ∀ {code : McResult} {t : Client}, code ≠ mcDrvOk → some (code, t) ≠ some result := by
    rintro code t hcode hsome
    rw [← Option.some.inj hsome] at hok
    exact hcode hok
  unfold exchangeUnmap at hrun
  by_cases hzero : session.getBufHandle mapInfo.sVirtualAddr mapInfo.sVirtualLen = 0
  · rw [if_pos hzero] at hrun
    exact absurd hrun (hfailed (by decide))
  · cases hasked : session.findBulkBuf mapInfo.sVirtualAddr mapInfo.sVirtualLen with
    | none =>
        rw [Session.getBufHandle, hasked] at hzero
        exact absurd rfl hzero
    | some asked =>
        rw [getBufHandle_of_find hasked] at hrun hzero
        cases hsent : env.exchange.sent with
        | false =>
            simp only [hzero, hsent, if_false, if_true] at hrun
            exact absurd hrun (hfailed (by decide))
        | true =>
            cases hheader : env.exchange.header with
            | false =>
                simp only [hzero, hsent, hheader, Bool.true_eq_false, if_false, if_true] at hrun
                exact absurd hrun (hfailed (by decide))
            | true =>
                simp only [hzero, hsent, hheader, Bool.true_eq_false, if_false] at hrun
                rcases Daemon.serveUnmapBulkBuf_spec device.connection
                  (unmapCommand session mapInfo asked.handle) env.r c.daemon with
                    ⟨_, herror⟩ | ⟨hdone, found, hserved⟩
                · obtain ⟨code, hcode, hanswer⟩ := herror.answered
                  simp only [hanswer, ne_eq, hcode, not_false_eq_true, if_true] at hrun
                  exact absurd hrun (hfailed (by decide))
                · simp only [hserved.answered, ne_eq, not_true_eq_false, if_false,
                    removeBulkBuf] at hrun
                  split at hrun
                  · exact absurd hrun (hfailed (by decide))
                  · next listed hlisted =>
                      rw [← Option.some.inj hrun] at hok
                      simp only [Session.removeBulkBuf, hlisted] at hok
                      exact ⟨asked, listed, hasked, hzero, hsent, hheader, hdone, hlisted, hok⟩

/-- What `mcUnmap` leaves when it gets past all of its tests. -/
theorem UnmapPasses.run (h : c.UnmapPasses args env mapInfo device session asked listed) :
    ∃ t, c.mcUnmap args env = some (mcDrvOk,
      ({ c with daemon := t }.removeBulkBuf device.deviceId session args.buf env.unregister).2) := by
  obtain ⟨t, hexchange⟩ := h.toExchangePasses.run
  refine ⟨t, ?_⟩
  rw [mcUnmap, h.mapInfo_eq]
  simp only [h.sessionHandle, h.sVirtualAddr_ne, h.buf_ne, h.device_eq, h.session_eq,
    Bool.true_eq_false, or_self, if_false, hexchange, Option.map_some, removeIfDead]
  rw [if_neg (by decide)]

theorem exists_passes_of_mcUnmap {result : McResult × Client}
    (hrun : c.mcUnmap args env = some result) (hok : result.1 = mcDrvOk) :
    ∃ mapInfo device session asked listed,
      c.UnmapPasses args env mapInfo device session asked listed := by
  unfold mcUnmap at hrun
  split at hrun
  · cases hrun
    cases hok
  · next mapInfo hmapInfo =>
      split at hrun
      · cases hrun
        cases hok
      · next hargs =>
          simp only [not_or, Bool.not_eq_false] at hargs
          split at hrun
          · cases hrun
            cases hok
          · next device hdevice =>
              split at hrun
              · cases hrun
                cases hok
              · next session hsession =>
                  obtain ⟨before, hexchange, rfl⟩ := Option.map_eq_some_iff.mp hrun
                  have hbefore : before.1 = mcDrvOk := by
                    rw [removeIfDead] at hok
                    split at hok
                    · exact hok
                    · exact hok
                  obtain ⟨asked, listed, hpasses⟩ := exists_passes_of_exchange hexchange hbefore
                  exact ⟨mapInfo, device, session, asked, listed, hpasses, hargs.1, hargs.2.2,
                    hmapInfo, hargs.2.1, hdevice, hsession⟩

/-- One descriptor leaves its list, and one table its registration. -/
theorem removeBulkBuf_of_listed {deviceId sessionId : UInt32} {buf : UInt64}
    {answer : UInt32 → McResult} (hdevice : resolveDeviceId deviceId c.devices = some device)
    (hsession : device.resolveSessionId sessionId = some session)
    (hlisted : KeyedList.lookup BulkBufferDescriptor.virtAddr buf session.bulkBufferDescriptors =
      some listed) (hanswer : answer listed.handle = mcDrvOk) (d : Daemon) :
    let t := ({ c with daemon := d }.removeBulkBuf device.deviceId session buf answer).2
    t.registrations = c.registrations.filter (fun handle => handle ≠ listed.handle) ∧
      ∀ deviceId' sessionId', t.descriptors deviceId' sessionId' =
        if deviceId' = deviceId ∧ sessionId' = sessionId then
          some (KeyedList.delete BulkBufferDescriptor.virtAddr buf session.bulkBufferDescriptors)
        else c.descriptors deviceId' sessionId' := by
  have hdeviceId := (KeyedList.mem_of_lookup hdevice).2
  have hsessionId := (KeyedList.mem_of_lookup hsession).2
  have hremoved : (session.removeBulkBuf buf (answer listed.handle)).2 =
      { session with
        bulkBufferDescriptors := KeyedList.delete BulkBufferDescriptor.virtAddr buf
          session.bulkBufferDescriptors } := by
    rw [Session.removeBulkBuf, hlisted]
  simp only [removeBulkBuf, hlisted, hremoved, descriptors_unregister]
  constructor
  · rw [unregister]
    apply List.filter_congr
    intro handle _
    by_cases hsame : handle = listed.handle
    · simp [hsame, hanswer]
    · simp [hsame]
  · intro deviceId' sessionId'
    have hsame : (session.removeBulkBuf buf (answer listed.handle)).2.sessionId =
        session.sessionId := by
      rw [hremoved]
    rw [hremoved] at hsame
    rw [descriptors_updateSession hsame, descriptors_daemon, descriptors_daemon, hdeviceId,
      hsessionId, descriptors_of_resolve hdevice hsession]
    rfl

end Unmap

/-- What is removed is what the daemon was asked to unmap: one descriptor with the handle of
the command leaves its list, its table is no longer registered, and nothing else changes. -/
def UnmapsAsked (args : UnmapArgs) (c t : Client) : Prop :=
  ∃ mapInfo ∈ args.mapInfo, ∃ session ∈ c.session args.deviceId args.sessionId,
    ∃ front removed back,
      session.bulkBufferDescriptors = front ++ removed :: back ∧
      removed.handle = session.getBufHandle mapInfo.sVirtualAddr mapInfo.sVirtualLen ∧
      t.registrations = c.registrations.filter (fun handle => handle ≠ removed.handle) ∧
      ∀ deviceId sessionId, t.descriptors deviceId sessionId =
        if deviceId = args.deviceId ∧ sessionId = args.sessionId then some (front ++ back)
        else c.descriptors deviceId sessionId

/-- The two searches find the same handle, if the call gets past all of its tests. -/
def NamesOne (args : UnmapArgs) (env : UnmapEnvironment) (c : Client) : Prop :=
  ∀ mapInfo device session asked listed,
    c.UnmapPasses args env mapInfo device session asked listed → listed.handle = asked.handle

/-- Two ways to take one element from a list that leave the same take the same element. -/
theorem eq_of_removed {α : Type*} {front back front' back' : List α} {a b : α}
    (h : front ++ a :: back = front' ++ b :: back') (hrest : front ++ back = front' ++ back') :
    a = b := by
  have hperm : (a :: (front ++ back)).Perm (b :: (front ++ back)) := by
    calc (a :: (front ++ back)).Perm (front ++ a :: back) := List.perm_middle.symm
      _ = front' ++ b :: back' := h
      (front' ++ b :: back').Perm (b :: (front' ++ back')) := List.perm_middle
      _ = b :: (front ++ back) := by rw [hrest]
  have hsame : a ::ₘ (front ++ back : Multiset α) = b ::ₘ (front ++ back : Multiset α) :=
    Multiset.coe_eq_coe.mpr hperm
  exact (Multiset.cons_inj_left _).mp hsame

/-- `mcUnmap` removes what it unmaps exactly when the two searches agree. -/
theorem mcUnmap_asked_iff (args : UnmapArgs) (env : UnmapEnvironment) (c : Client) :
    (∀ result, c.mcUnmap args env = some result → result.1 = mcDrvOk →
      c.UnmapsAsked args result.2) ↔ c.NamesOne args env := by
  constructor
  · intro hasked mapInfo device session asked listed hpasses
    obtain ⟨d, hrun⟩ := hpasses.run
    obtain ⟨mapInfo', hmapInfo', session', hsession', front, removed, back, hlist, hhandle, _,
      hafter⟩ := hasked _ hrun rfl
    have hsession : c.session args.deviceId args.sessionId = some session := by
      rw [Client.session, hpasses.device_eq, Option.bind_some, hpasses.session_eq]
    cases hpasses.mapInfo_eq.symm.trans hmapInfo'
    cases hsession.symm.trans hsession'
    obtain ⟨front', back', hlist', hdelete⟩ := KeyedList.delete_of_lookup hpasses.listed_eq
    have hleft := (removeBulkBuf_of_listed hpasses.device_eq hpasses.session_eq hpasses.listed_eq
      hpasses.unregistered d).2 args.deviceId args.sessionId
    rw [hafter, if_pos ⟨rfl, rfl⟩, if_pos ⟨rfl, rfl⟩, hdelete, Option.some.injEq] at hleft
    rw [← getBufHandle_of_find hpasses.asked_eq, ← hhandle,
      eq_of_removed (hlist.symm.trans hlist') hleft]
  · intro hone result hrun hok
    obtain ⟨mapInfo, device, session, asked, listed, hpasses⟩ := exists_passes_of_mcUnmap hrun hok
    obtain ⟨d, hrun'⟩ := hpasses.run
    cases hrun.symm.trans hrun'
    obtain ⟨front, back, hlist, hdelete⟩ := KeyedList.delete_of_lookup hpasses.listed_eq
    obtain ⟨hregistrations, hafter⟩ := removeBulkBuf_of_listed hpasses.device_eq
      hpasses.session_eq hpasses.listed_eq hpasses.unregistered d
    refine ⟨mapInfo, hpasses.mapInfo_eq, session, ?_, front, listed, back, hlist, ?_,
      hregistrations, ?_⟩
    · rw [Client.session, hpasses.device_eq, Option.bind_some]
      exact hpasses.session_eq
    · rw [getBufHandle_of_find hpasses.asked_eq]
      exact hone mapInfo device session asked listed hpasses
    · intro deviceId sessionId
      rw [hafter, hdelete]

/-! ## Mapping -/

/-- Descriptors and registrations are as before. -/
def Undone (c t : Client) : Prop :=
  t.registrations = c.registrations ∧
    ∀ deviceId sessionId, t.descriptors deviceId sessionId = c.descriptors deviceId sessionId

/-- `mcMap` registers its buffer. -/
structure MapRegisters (args : MapArgs) (env : MapEnvironment) (c : Client) (device : Device)
    (session : Session) (bulkBuf : BulkBufferDescriptor) : Prop where
  sessionHandle : args.sessionHandle = true
  mapInfo : args.mapInfo = true
  buf_ne : args.buf ≠ 0
  device_eq : resolveDeviceId args.deviceId c.devices = some device
  session_eq : device.resolveSessionId args.sessionId = some session
  added : session.addBulkBuf args.buf args.bufLen env.registered =
    .ok (bulkBuf, session.pushBulkBuf bulkBuf)

/-- The exchange that follows maps the buffer, or is one that `mcMap` undoes: it gets as far as
an answer, and the kernel module unregisters the table if the answer is an error. -/
def MapSettles (env : MapEnvironment) (device : Device) (session : Session)
    (bulkBuf : BulkBufferDescriptor) (c : Client) : Prop :=
  env.exchange.sent = true ∧ env.exchange.header = true ∧
    if c.daemon.MapAccepted device.connection session.sessionId env.wsm ∧
        env.r.mcResult mcMcpCmdMap = mcDrvOk then env.exchange.payload = true
    else env.unregister bulkBuf.handle = mcDrvOk

section Map

variable {args : MapArgs} {env : MapEnvironment} {c : Client} {device : Device}
  {session : Session} {bulkBuf : BulkBufferDescriptor}

/-- The client behind `addBulkBuf`. -/
def added (device : Device) (session : Session) (bulkBuf : BulkBufferDescriptor) (c : Client) :
    Client :=
  (c.register (some bulkBuf)).updateSession device.deviceId session.sessionId
    fun _ => session.pushBulkBuf bulkBuf

/-- A call registers nothing and changes nothing, or goes on with its exchange. -/
theorem mcMap_cases {result : McResult × Option BulkMap × Client}
    (hrun : c.mcMap args env = some result) :
    result.2.2 = c ∨ ∃ device session bulkBuf,
      c.MapRegisters args env device session bulkBuf ∧
      (c.added device session bulkBuf).exchangeMap args env device
        (session.pushBulkBuf bulkBuf) bulkBuf = some result := by
  unfold mcMap at hrun
  split at hrun
  · cases hrun
    exact Or.inl rfl
  · next hargs =>
      simp only [not_or, Bool.not_eq_false] at hargs
      split at hrun
      · cases hrun
        exact Or.inl rfl
      · next device hdevice =>
          split at hrun
          · cases hrun
            exact Or.inl rfl
          · next session hsession =>
              split at hrun
              · cases hrun
                exact Or.inl rfl
              · next bulkBuf pushed hadd =>
                  obtain ⟨_, _, _, rfl⟩ := Session.addBulkBuf_eq_ok hadd
                  right
                  exact ⟨device, session, bulkBuf,
                    ⟨hargs.1, hargs.2.1, hargs.2.2, hdevice, hsession, hadd⟩, hrun⟩

theorem MapRegisters.run (h : c.MapRegisters args env device session bulkBuf) :
    c.mcMap args env = (c.added device session bulkBuf).exchangeMap args env device
      (session.pushBulkBuf bulkBuf) bulkBuf := by
  unfold mcMap
  simp only [h.sessionHandle, h.mapInfo, h.buf_ne, h.device_eq, h.session_eq, h.added,
    Bool.true_eq_false, or_self, if_false, Client.added]

/-- While the table is registered the registrations are not those before the call. -/
theorem not_undone_of_registered {t : Client}
    (ht : t.registrations = c.registrations ++ [bulkBuf.handle]) : ¬ c.Undone t := by
  intro hundone
  have hlength := congrArg List.length (ht.symm.trans hundone.1)
  simp at hlength

theorem registrations_added :
    (c.added device session bulkBuf).registrations = c.registrations ++ [bulkBuf.handle] :=
  rfl

theorem descriptors_added (h : c.MapRegisters args env device session bulkBuf)
    (deviceId sessionId : UInt32) :
    (c.added device session bulkBuf).descriptors deviceId sessionId =
      if deviceId = device.deviceId ∧ sessionId = session.sessionId then
        some (session.pushBulkBuf bulkBuf).bulkBufferDescriptors
      else c.descriptors deviceId sessionId := by
  have hdeviceId := (KeyedList.mem_of_lookup h.device_eq).2
  have hsessionId := (KeyedList.mem_of_lookup h.session_eq).2
  rw [Client.added, descriptors_updateSession (Session.pushBulkBuf_sessionId _ _),
    descriptors_register, descriptors_register, hdeviceId, hsessionId,
    descriptors_of_resolve h.device_eq h.session_eq]
  rfl

/-- `removeBulkBuf` on what was just added: the descriptors are as before, and so are the
registrations if the kernel module unregisters the table. -/
theorem removeBulkBuf_added (h : c.MapRegisters args env device session bulkBuf)
    (hfresh : bulkBuf.handle ∉ c.registrations) (d : Daemon) :
    let t := ({ c.added device session bulkBuf with daemon := d }.removeBulkBuf device.deviceId
      (session.pushBulkBuf bulkBuf) args.buf env.unregister).2
    if env.unregister bulkBuf.handle = mcDrvOk then c.Undone t
    else t.registrations = c.registrations ++ [bulkBuf.handle] := by
  obtain ⟨hnew, _, hbuf, _⟩ := Session.addBulkBuf_eq_ok h.added
  have hdeviceId := (KeyedList.mem_of_lookup h.device_eq).2
  have hsessionId := (KeyedList.mem_of_lookup h.session_eq).2
  rw [← hbuf] at hnew ⊢
  obtain ⟨hlookup, hdelete⟩ := lookup_pushBulkBuf hnew
  have hremoved : ((session.pushBulkBuf bulkBuf).removeBulkBuf bulkBuf.virtAddr
      (env.unregister bulkBuf.handle)).2 = session := by
    unfold Session.removeBulkBuf
    rw [hlookup, hdelete]
    rfl
  have hkept : ∀ handle ∈ c.registrations, handle ≠ bulkBuf.handle := by
    rintro handle hmem rfl
    exact hfresh hmem
  simp only [removeBulkBuf, hlookup, hremoved]
  split
  · next hanswer =>
      constructor
      · simp only [unregister, updateSession, registrations_added, List.filter_append]
        rw [List.filter_eq_self.mpr]
        · simp [hanswer]
        · intro handle hmem
          simp [hkept handle hmem]
      · intro deviceId sessionId
        have hself := descriptors_added h device.deviceId session.sessionId
        rw [if_pos ⟨rfl, rfl⟩] at hself
        rw [descriptors_unregister, Session.pushBulkBuf_sessionId, descriptors_updateSession rfl,
          descriptors_daemon, descriptors_daemon deviceId, hself, descriptors_added h]
        by_cases hsame : deviceId = device.deviceId ∧ sessionId = session.sessionId
        · rw [if_pos hsame, hsame.1, hsame.2, hdeviceId, hsessionId,
            descriptors_of_resolve h.device_eq h.session_eq]
          rfl
        · rw [if_neg hsame, if_neg hsame]
  · next hanswer =>
      simp only [unregister, updateSession, registrations_added]
      rw [List.filter_eq_self.mpr]
      intro handle _
      by_cases hsame : handle = bulkBuf.handle
      · simp [hsame, hanswer]
      · simp [hsame]

theorem exchangeMap_undone_iff {result : McResult × Option BulkMap × Client}
    (h : c.MapRegisters args env device session bulkBuf) (hfresh : bulkBuf.handle ∉ c.registrations)
    (hrun : (c.added device session bulkBuf).exchangeMap args env device
      (session.pushBulkBuf bulkBuf) bulkBuf = some result) :
    (result.1 ≠ mcDrvOk → c.Undone result.2.2) ↔ c.MapSettles env device session bulkBuf := by
  have hlost : ∀ {code : McResult} {t : Client}, code ≠ mcDrvOk →
      t.registrations = c.registrations ++ [bulkBuf.handle] → some (code, none, t) = some result →
        ¬ (result.1 ≠ mcDrvOk → c.Undone result.2.2) := by
    rintro code t hcode ht hsome hundone
    cases hsome
    exact not_undone_of_registered ht (hundone hcode)
  have hremoved : ∀ {code : McResult} {d : Daemon}, code ≠ mcDrvOk →
      some (code, none, ({ c.added device session bulkBuf with daemon := d }.removeBulkBuf
        device.deviceId (session.pushBulkBuf bulkBuf) args.buf env.unregister).2) = some result →
      ((result.1 ≠ mcDrvOk → c.Undone result.2.2) ↔ env.unregister bulkBuf.handle = mcDrvOk) := by
    intro code d hcode hsome
    have hleft := removeBulkBuf_added h hfresh d
    cases hsome
    by_cases hanswer : env.unregister bulkBuf.handle = mcDrvOk
    · rw [if_pos hanswer] at hleft
      exact iff_of_true (fun _ => hleft) hanswer
    · rw [if_neg hanswer] at hleft
      exact iff_of_false (fun hundone => not_undone_of_registered hleft (hundone hcode)) hanswer
  unfold exchangeMap at hrun
  cases hsent : env.exchange.sent with
  | false =>
      rw [hsent, if_pos rfl] at hrun
      apply iff_of_false (hlost (by decide) rfl hrun)
      simp [MapSettles, hsent]
  | true =>
      cases hheader : env.exchange.header with
      | false =>
          simp only [hsent, hheader, Bool.true_eq_false, if_false, if_true] at hrun
          apply iff_of_false (hlost (by decide) rfl hrun)
          simp [MapSettles, hheader]
      | true =>
          simp only [hsent, hheader, Bool.true_eq_false, if_false] at hrun
          simp only [MapSettles, hsent, hheader, true_and]
          rcases Daemon.serveMapBulkBuf_spec device.connection
            (mapCommand (session.pushBulkBuf bulkBuf) bulkBuf) env.wsm env.r
            (c.added device session bulkBuf).daemon with ⟨hnot, herror⟩ | ⟨haccepted, found, hserved⟩
          · obtain ⟨code, _, hanswer⟩ := herror.answered
            rw [hanswer] at hrun
            rw [if_neg fun hdone => hnot hdone.1]
            exact hremoved (by decide) hrun
          · have hanswer := hserved.answered
            by_cases hret : env.r.mcResult mcMcpCmdMap = mcDrvOk
            · rw [if_pos hret] at hanswer
              rw [if_pos ⟨haccepted, hret⟩]
              simp only [hanswer] at hrun
              cases hpayload : env.exchange.payload with
              | false =>
                  rw [hpayload, if_pos rfl] at hrun
                  exact iff_of_false (hlost (by decide) rfl hrun) (by decide)
              | true =>
                  rw [hpayload, if_neg (by decide)] at hrun
                  cases hrun
                  exact iff_of_true (fun hcode => absurd rfl hcode) rfl
            · rw [if_neg hret] at hanswer
              rw [hanswer] at hrun
              rw [if_neg fun hdone => hret hdone.2]
              exact hremoved (by decide) hrun

theorem mcMap_isSome (h : c.MapRegisters args env device session bulkBuf) :
    (c.mcMap args env).isSome = true := by
  rw [h.run]
  unfold exchangeMap
  cases hsent : env.exchange.sent with
  | false => rfl
  | true =>
      cases hheader : env.exchange.header with
      | false => rfl
      | true =>
          simp only [Bool.true_eq_false, if_false]
          rcases Daemon.serveMapBulkBuf_spec device.connection
            (mapCommand (session.pushBulkBuf bulkBuf) bulkBuf) env.wsm env.r
            (c.added device session bulkBuf).daemon with ⟨_, herror⟩ | ⟨_, found, hserved⟩
          · obtain ⟨code, _, hanswer⟩ := herror.answered
            simp [hanswer]
          · rw [hserved.answered]
            by_cases hret : env.r.mcResult mcMcpCmdMap = mcDrvOk
            · simp only [hret, if_true]
              split <;> rfl
            · simp [hret]

end Map

/-- Whatever `mcMap` registers is mapped in the end, or can be undone. -/
def SettlesMapping (args : MapArgs) (env : MapEnvironment) (c : Client) : Prop :=
  ∀ device session bulkBuf, c.MapRegisters args env device session bulkBuf →
    c.MapSettles env device session bulkBuf

/-- `mcMap` undoes what it fails to do exactly when its exchange settles. -/
theorem mcMap_undone_iff (args : MapArgs) (env : MapEnvironment) (c : Client)
    (hfresh : c.FreshHandle env.registered) :
    (∀ result, c.mcMap args env = some result → result.1 ≠ mcDrvOk → c.Undone result.2.2) ↔
      c.SettlesMapping args env := by
  have hunused : ∀ {device session bulkBuf}, c.MapRegisters args env device session bulkBuf →
      bulkBuf.handle ∉ c.registrations := by
    intro device session bulkBuf h
    obtain ⟨_, hregistered, _, _⟩ := Session.addBulkBuf_eq_ok h.added
    rw [hregistered] at hfresh
    exact hfresh.2
  constructor
  · intro hundone device session bulkBuf h
    obtain ⟨result, hrun⟩ := Option.isSome_iff_exists.mp (mcMap_isSome h)
    have hexchange := h.run.symm.trans hrun
    exact (exchangeMap_undone_iff h (hunused h) hexchange).mp (hundone result hrun)
  · intro hsettles result hrun hfailed
    rcases mcMap_cases hrun with hsame | ⟨device, session, bulkBuf, h, hexchange⟩
    · rw [hsame]
      exact ⟨rfl, fun _ _ => rfl⟩
    · exact (exchangeMap_undone_iff h (hunused h) hexchange).mpr
        (hsettles device session bulkBuf h) hfailed

/-! ## Both calls -/

/-- A call that unmaps a buffer removes what it unmaps, and a call that fails to map one
undoes what it has done. -/
def CallMeets (c : Client) : Call → Prop
  | .mcMap args env =>
      ∀ result, c.mcMap args env = some result → result.1 ≠ mcDrvOk → c.Undone result.2.2
  | .mcUnmap args env =>
      ∀ result, c.mcUnmap args env = some result → result.1 = mcDrvOk →
        UnmapsAsked args c result.2
  | .mcOpen _ _ _ | .mcCloseSession _ _ _ _ => True

/-- The searches of an unmap call agree, and the exchange of a map call settles. -/
def CallSettles (c : Client) : Call → Prop
  | .mcMap args env => c.SettlesMapping args env
  | .mcUnmap args env => NamesOne args env c
  | .mcOpen _ _ _ | .mcCloseSession _ _ _ _ => True

/-- The kernel module registers a buffer under a handle that is not in use. -/
def RegistersFresh (c : Client) : Call → Prop
  | .mcMap _ env => c.FreshHandle env.registered
  | .mcOpen _ _ _ | .mcUnmap _ _ | .mcCloseSession _ _ _ _ => True

/-- When `mcUnmap` removes what it unmaps, and when `mcMap` undoes what it fails to do. -/
theorem callMeets_iff (c : Client) (call : Call) (hfresh : c.RegistersFresh call) :
    c.CallMeets call ↔ c.CallSettles call := by
  cases call with
  | mcMap args env => exact mcMap_undone_iff args env c hfresh
  | mcUnmap args env => exact mcUnmap_asked_iff args env c
  | mcOpen kind args env => exact Iff.rfl
  | mcCloseSession sessionHandle deviceId sessionId env => exact Iff.rfl

/-- Session 3 is open, and the buffer at 0x8000 is mapped into it. -/
theorem callMeets_iff_mapBuffer :
    ∃ c, system.run (opened 1 []) [openPlain] = some c ∧
      c.CallMeets (mapBuffer (Daemon.successReply mcMcpCmdMap 0x30000)) := by
  refine ⟨_, rfl, (callMeets_iff _ (mapBuffer (Daemon.successReply mcMcpCmdMap 0x30000)) ?_).mpr ?_⟩
  · exact ⟨by decide, List.not_mem_nil⟩
  · intro device session bulkBuf _
    refine ⟨rfl, rfl, ?_⟩
    split
    · rfl
    · rfl

/-- A second buffer, at 0x9000, under handle 12. -/
def mapSecond (exchange : Exchange) : Call :=
  .mcMap
    { sessionHandle := true
      mapInfo := true
      deviceId := mcDeviceIdDefault
      sessionId := 3
      buf := 0x9000
      bufLen := 0x200 }
    { registered := .ok 12
      exchange := exchange
      wsm := { contiguous := none, l2 := 0xA000, lock := true }
      r := Daemon.successReply mcMcpCmdMap 0x40000
      unregister := fun _ => mcDrvOk }

/-- The mapping of the first buffer with the address of the second one. -/
def unmapCrossed : Call :=
  .mcUnmap
    { sessionHandle := true
      mapInfo := some { sVirtualAddr := 0x30000, sVirtualLen := 0x200 }
      deviceId := mcDeviceIdDefault
      sessionId := 3
      buf := 0x9000 }
    { exchange := { sent := true, header := true, payload := true }
      r := Daemon.successReply mcMcpCmdUnmap 0
      unregister := fun _ => mcDrvOk }

/-- With two buffers mapped the client drops the one that is still mapped; and when no answer
comes, the second buffer stays listed and registered though `mcMap` has failed. -/
theorem not_callMeets :
    (∃ c, system.run (opened 1 [])
        [openPlain, mapBuffer (Daemon.successReply mcMcpCmdMap 0x30000),
          mapSecond { sent := true, header := true, payload := true }] = some c ∧
      ¬ c.CallMeets unmapCrossed) ∧
    ∃ c, system.run (opened 1 [])
        [openPlain, mapBuffer (Daemon.successReply mcMcpCmdMap 0x30000)] = some c ∧
      ¬ c.CallMeets (mapSecond { sent := true, header := false, payload := false }) := by
  constructor
  · refine ⟨_, rfl, ?_⟩
    intro hmeets
    have hsame := (mcUnmap_asked_iff _ _ _).mp hmeets _ _ _ _ _
      ⟨⟨rfl, by decide, rfl, rfl, by decide, rfl, rfl⟩, rfl, by decide, rfl, by decide, rfl, rfl⟩
    exact absurd hsame (by decide)
  · refine ⟨_, rfl, ?_⟩
    intro hmeets
    have hsettles := fun hfresh => (mcMap_undone_iff _ _ _ hfresh).mp hmeets _ _ _
      ⟨rfl, rfl, by decide, rfl, rfl, rfl⟩
    exact absurd (hsettles (by decide)).2.1 (by decide)

end Client

end Exynos8890.MobiCore.ClientLib
