import Exynos8890.MobiCore.ClientLib.BufferLists
import Exynos8890.MobiCore.ClientLib.Wsm

/-!
# The calls of the client library, as their caller sees them

A process that uses the client library: its open devices and what it has obtained from the
kernel module.  What kernel module, sockets and daemon answer is an argument of each call;
what the library asks the kernel module to release is released.

Main results:

- Definitions `mcOpenDevice`, `mcMallocWsm`, `mcOpenSession`, `mcMap`, `mcUnmap`, `mcNotify`,
  `mcWaitNotification`, `mcCloseSession`, `mcFreeWsm` and `mcCloseDevice`.
- Definitions `Closed` and `Opened`: nothing is held, or one device holds everything.
- Theorem `Opened.removeDevice`: removing the only device releases everything.
-/

namespace Exynos8890.MobiCore.ClientLib

/-- `mcSessionHandle_t`. -/
structure SessionHandle where
  sessionId : UInt32
  deviceId : UInt32
deriving DecidableEq, Repr

/-- How an exchange with the daemon ends.  The three failures of the socket have one code. -/
inductive Reply (α : Type) where
  | lost
  | answered (mcResult : McResult) (payload : α)
deriving DecidableEq

/-- How the first read of a notification ends, or the drain of the queue behind it. -/
inductive WaitAnswer where
  | notified
  | exited
  | timeout
  | dead
  | failed
deriving DecidableEq

def mcDrvErrNotification : McResult := 0x02
def mcDrvErrTimeout : McResult := 0x0b
def mcDrvInfoNotification : McResult := 0x15

/-- What happens while a session is opened: the answer of `registerWsmL2`, that of the daemon,
and the channel for notifications, when it can be connected. -/
structure SessionAnswers where
  registered : Except McResult UInt32
  reply : Reply UInt32
  nq : Option (Reply Unit)

/-- What happens while a buffer is mapped. -/
structure MapAnswers where
  registered : Except McResult UInt32
  reply : Reply UInt32

/-- A process that uses the client library. -/
structure Process extends WsmClient where
  registrations : List UInt32
deriving DecidableEq, Repr

namespace Process

/-- No device was opened yet. -/
def init : Process where
  toWsmClient := WsmClient.init
  registrations := []

/-! ## Devices and their memory -/

/-- The requests to free a block succeed. -/
def released : ObjectRef → FreeAnswer :=
  fun _ => { munmap := true, free := none }

/-- `unregisterWsmL2` for these handles. -/
def unregister (handles : List UInt32) (p : Process) : Process :=
  { p with registrations := p.registrations.filter fun handle => handle ∉ handles }

/-- `removeDevice`, with the destructors of the device and of its sessions. -/
def removeDevice (deviceId : UInt32) (p : Process) : Process :=
  match resolveDeviceId deviceId p.devices with
  | none => p
  | some device =>
      { p with toWsmClient := p.toWsmClient.removeDevice deviceId released }.unregister
        (device.sessionList.flatMap Session.handles)

/-- `mcOpenDevice`; `result` is what connecting, the version check, the daemon and the opening
of the kernel module come to. -/
def mcOpenDevice (deviceId : UInt32) (connection : ConnPtr) (result : McResult) (p : Process) :
    McResult × Process :=
  let answer := p.toWsmClient.mcOpenDevice deviceId connection result
  (answer.1, { p with toWsmClient := answer.2 })

/-- The address that `mcMallocWsm` writes. -/
def mappedAt : MapAnswer → UInt64
  | .mapped _ virtAddr _ => virtAddr
  | _ => 0

/-- `mcMallocWsm`, with the address it writes when it succeeds. -/
def mcMallocWsm (deviceId len : UInt32) (answer : MapAnswer) (p : Process) :
    McResult × Option UInt64 × Process :=
  let result := p.toWsmClient.mcMallocWsm deviceId len true answer
  (result.1, if result.1 = mcDrvOk then some (mappedAt answer) else none,
    { p with toWsmClient := result.2 })

/-- `mcFreeWsm`. -/
def mcFreeWsm (deviceId : UInt32) (wsm : UInt64) (answer : FreeAnswer) (p : Process) :
    McResult × Process :=
  let result := p.toWsmClient.mcFreeWsm deviceId wsm answer
  (result.1, { p with toWsmClient := result.2 })

/-- `mcCloseDevice`; `alive` is the answer of `isConnectionAlive`. -/
def mcCloseDevice (deviceId : UInt32) (alive : Bool) (reply : Reply Unit) (p : Process) :
    McResult × Process :=
  match resolveDeviceId deviceId p.devices with
  | none => (checkDeviceClosed deviceId, p)
  | some device =>
      if alive = false then (mcDrvErrDaemonUnreachable, p.removeDevice deviceId)
      else if device.hasSessions then (mcDrvErrSessionPending, p)
      else
        match reply with
        | .lost => (mcDrvErrSocketRead, p)
        | .answered code _ =>
            if code ≠ mcDrvOk then (code, p) else (mcDrvOk, p.removeDevice deviceId)

/-! ## Sessions -/

/-- Change a device object through its pointer. -/
def updateDevice (deviceId : UInt32) (f : Device → Device) (p : Process) : Process :=
  { p with toWsmClient := p.toWsmClient.updateDevice deviceId f }

/-- `registerWsmL2` has succeeded. -/
def register (bulkBuf : Option BulkBufferDescriptor) (p : Process) : Process :=
  { p with
    registrations := p.registrations ++ bulkBuf.toList.map BulkBufferDescriptor.handle }

/-- The second channel, for notifications. -/
def connectNq (deviceId sessionId : UInt32) (bulkBuf : Option BulkBufferDescriptor)
    (nq : Option (Reply Unit)) (p : Process) : McResult × Option UInt32 × Process :=
  match nq with
  | none => (mcDrvErrSocketConnect, some sessionId, p)
  | some .lost => (mcDrvErrSocketRead, some sessionId, p)
  | some (.answered code _) =>
      if code ≠ mcDrvOk then (code, some sessionId, p)
      else
        (mcDrvOk, some sessionId,
          p.updateDevice deviceId (Device.createNewSession
            { sessionId := sessionId, bulkBufferDescriptors := bulkBuf.toList }))

/-- `mcOpenSession`, with what it writes to the session id.  The descriptor of a registered
buffer is deleted when the call fails, and nothing else is undone. -/
def mcOpenSession (args : OpenArgs) (answers : SessionAnswers) (p : Process) :
    McResult × Option UInt32 × Process :=
  match Client.checkOpen false args with
  | some code => (code, none, p)
  | none =>
      match resolveDeviceId args.deviceId p.devices with
      | none => (mcDrvErrUnknownDevice, none, p)
      | some device =>
          match Client.tciHandle false args answers.registered device with
          | .error code => (code, none, p)
          | .ok (_, bulkBuf) =>
              match answers.reply with
              | .lost => (mcDrvErrSocketRead, none, p.register bulkBuf)
              | .answered code sessionId =>
                  if code ≠ mcDrvOk then (openError code, none, p.register bulkBuf)
                  else (p.register bulkBuf).connectNq args.deviceId sessionId bulkBuf answers.nq

/-- `Session::removeBulkBuf` on a session of a device. -/
def removeBulkBuf (deviceId : UInt32) (session : Session) (buf : UInt64) (p : Process) :
    McResult × Process :=
  match KeyedList.lookup BulkBufferDescriptor.virtAddr buf session.bulkBufferDescriptors with
  | none => (mcDrvErrBlkBuffNotFound, p)
  | some blkBuf =>
      (mcDrvOk,
        (p.updateDevice deviceId (Device.updateSession session.sessionId fun session =>
          (session.removeBulkBuf buf mcDrvOk).2)).unregister [blkBuf.handle])

/-- `mcMap` behind the registering of the buffer; `session` lists the buffer. -/
def exchangeMap (deviceId : UInt32) (session : Session) (buf : UInt64) (bufLen : UInt32)
    (reply : Reply UInt32) (p : Process) : McResult × Option BulkMap × Process :=
  match reply with
  | .lost => (mcDrvErrSocketRead, none, p)
  | .answered code secureVirtualAdr =>
      if code ≠ mcDrvOk then
        (mcDrvErrDaemonUnreachable, none, (p.removeBulkBuf deviceId session buf).2)
      else
        (mcDrvOk, some { sVirtualAddr := secureVirtualAdr.toUInt64, sVirtualLen := bufLen },
          p.updateDevice deviceId (Device.updateSession session.sessionId
            (Session.setSVirtualAddr buf secureVirtualAdr.toUInt64)))

/-- `mcMap`, with what it writes to `mapInfo`. -/
def mcMap (handle : SessionHandle) (buf : UInt64) (bufLen : UInt32) (answers : MapAnswers)
    (p : Process) : McResult × Option BulkMap × Process :=
  if buf = 0 then (mcDrvErrNullPointer, none, p)
  else
    match resolveDeviceId handle.deviceId p.devices with
    | none => (mcDrvErrUnknownDevice, none, p)
    | some device =>
        match device.resolveSessionId handle.sessionId with
        | none => (mcDrvErrUnknownSession, none, p)
        | some session =>
            match session.addBulkBuf buf bufLen answers.registered with
            | .error ret => (ret, none, p)
            | .ok (bulkBuf, session') =>
                ((p.register (some bulkBuf)).updateDevice device.deviceId
                  (Device.updateSession session.sessionId
                    (Session.pushBulkBuf bulkBuf))).exchangeMap device.deviceId session' buf bufLen
                      answers.reply

/-- `MC_DRV_ERR_SOCKET_WRITE` and `MC_DRV_ERR_SOCKET_READ` remove the device. -/
def removeIfDead (deviceId : UInt32) (result : McResult × Process) : McResult × Process :=
  if result.1 = mcDrvErrSocketWrite ∨ result.1 = mcDrvErrSocketRead then
    (result.1, result.2.removeDevice deviceId)
  else result

/-- `mcUnmap` up to the removal of the device. -/
def exchangeUnmap (device : Device) (session : Session) (buf : UInt64) (mapInfo : BulkMap)
    (reply : Reply Unit) (p : Process) : McResult × Process :=
  if session.getBufHandle mapInfo.sVirtualAddr mapInfo.sVirtualLen = 0 then
    (mcDrvErrBlkBuffNotFound, p)
  else
    match reply with
    | .lost => (mcDrvErrSocketRead, p)
    | .answered code _ =>
        if code ≠ mcDrvOk then (mcDrvErrDaemonUnreachable, p)
        else p.removeBulkBuf device.deviceId session buf

/-- `mcUnmap`. -/
def mcUnmap (handle : SessionHandle) (buf : UInt64) (mapInfo : BulkMap) (reply : Reply Unit)
    (p : Process) : McResult × Process :=
  if mapInfo.sVirtualAddr = 0 ∨ buf = 0 then (mcDrvErrNullPointer, p)
  else
    match resolveDeviceId handle.deviceId p.devices with
    | none => (mcDrvErrUnknownDevice, p)
    | some device =>
        match device.resolveSessionId handle.sessionId with
        | none => (mcDrvErrUnknownSession, p)
        | some session =>
            removeIfDead handle.deviceId (p.exchangeUnmap device session buf mapInfo reply)

/-- `mcNotify`; `sent` says whether the command can be written. -/
def mcNotify (handle : SessionHandle) (sent : Bool) (p : Process) : McResult × Process :=
  match resolveDeviceId handle.deviceId p.devices with
  | none => (mcDrvErrUnknownDevice, p)
  | some device =>
      match device.resolveSessionId handle.sessionId with
      | none => (mcDrvErrUnknownSession, p)
      | some _ =>
          if sent = false then (mcDrvErrSocketWrite, p.removeDevice handle.deviceId)
          else (mcDrvOk, p)

/-- `mcWaitNotification`. -/
def mcWaitNotification (handle : SessionHandle) (answer : WaitAnswer) (p : Process) :
    McResult × Process :=
  match resolveDeviceId handle.deviceId p.devices with
  | none => (mcDrvErrUnknownDevice, p)
  | some device =>
      match device.resolveSessionId handle.sessionId with
      | none => (mcDrvErrUnknownSession, p)
      | some _ =>
          match answer with
          | .notified => (mcDrvOk, p)
          | .exited => (mcDrvInfoNotification, p)
          | .timeout => (mcDrvErrTimeout, p)
          | .dead => (mcDrvErrNotification, p.removeDevice handle.deviceId)
          | .failed => (mcDrvErrNotification, p)

/-- `mcCloseSession` up to the removal of the device. -/
def exchangeClose (device : Device) (session : Session) (reply : Reply Unit) (p : Process) :
    McResult × Process :=
  match reply with
  | .lost => (mcDrvErrSocketRead, p)
  | .answered code _ =>
      if code ≠ mcDrvOk then (mcDrvErrUnknownDevice, p)
      else
        (mcDrvOk,
          (p.updateDevice device.deviceId (Device.removeSession session.sessionId)).unregister
            session.handles)

/-- `mcCloseSession`. -/
def mcCloseSession (handle : SessionHandle) (reply : Reply Unit) (p : Process) :
    McResult × Process :=
  match resolveDeviceId handle.deviceId p.devices with
  | none => (mcDrvErrUnknownDevice, p)
  | some device =>
      match device.resolveSessionId handle.sessionId with
      | none => (mcDrvErrUnknownSession, p)
      | some session =>
          removeIfDead handle.deviceId (p.exchangeClose device session reply)

/-- The session id, when daemon and second channel accept the session. -/
def acceptedId (answers : SessionAnswers) : Option UInt32 :=
  match answers.reply, answers.nq with
  | .answered code sessionId, some (.answered code' _) =>
      if code = mcDrvOk ∧ code' = mcDrvOk then some sessionId else none
  | _, _ => none

/-! ## What is held -/

/-- No device is open, and what was obtained from the kernel module has been released, each
block once. -/
structure Closed (p : Process) : Prop where
  devices : p.devices = []
  registrations : p.registrations = []
  frees : ∀ k ∈ p.kernel, k.frees = 1
  fresh : ∀ k ∈ p.kernel, k.ref < p.nextRef

/-- One device is open, and it lists what is held at the kernel module. -/
structure Opened (p : Process) (device : Device) : Prop where
  devices : p.devices = [device]
  registrations : ∀ handle ∈ p.registrations, handle ∈ device.sessionList.flatMap Session.handles
  lists : (device.wsmL2List.map WsmPtr.ref).Nodup
  listed : ∀ wsm ∈ device.wsmL2List, wsm.ref < p.nextRef
  frees : ∀ k ∈ p.kernel, k.frees = if k.ref ∈ device.wsmL2List.map WsmPtr.ref then 0 else 1
  fresh : ∀ k ∈ p.kernel, k.ref < p.nextRef

theorem init_closed : init.Closed where
  devices := rfl
  registrations := rfl
  frees := by simp [init, WsmClient.init]
  fresh := by simp [init, WsmClient.init]

/-- The destructor of a device frees each block of its list once. -/
theorem freeAll_frees {wsmL2List : List WsmPtr} (hlists : (wsmL2List.map WsmPtr.ref).Nodup)
    (kernel : List KernelWsm) :
    ∀ k' ∈ freeAll released wsmL2List kernel, ∃ k ∈ kernel, k'.ref = k.ref ∧
      k'.frees = k.frees + if k.ref ∈ wsmL2List.map WsmPtr.ref then 1 else 0 := by
  induction wsmL2List generalizing kernel with
  | nil => exact fun k' hk' => ⟨k', hk', rfl, by simp⟩
  | cons wsm wsmL2List ih =>
      obtain ⟨hwsm, hlists⟩ := List.nodup_cons.mp hlists
      intro k' hk'
      rw [freeAll, List.foldl_cons] at hk'
      obtain ⟨m, hm, href, hfrees⟩ := ih hlists _ k' hk'
      simp only [kmodFree, released, List.mem_map] at hm
      obtain ⟨_, ⟨k, hk, rfl⟩, rfl⟩ := hm
      refine ⟨k, hk, href, hfrees.trans ?_⟩
      simp only [KernelWsm.freed, KernelWsm.munmapped, List.map_cons, List.mem_cons, and_true]
      by_cases hself : k.ref = wsm.ref
      · simp [hself, hwsm]
      · simp [hself]

section OneDevice

variable {p : Process} {device : Device}

theorem Opened.resolve (h : p.Opened device) :
    resolveDeviceId device.deviceId p.devices = some device := by
  simp [resolveDeviceId, h.devices, KeyedList.lookup]

theorem Opened.removeDevice (h : p.Opened device) : (p.removeDevice device.deviceId).Closed := by
  have hresolve := h.resolve
  have hkernel : (p.removeDevice device.deviceId).kernel =
      freeAll released device.wsmL2List p.kernel := by
    simp [Process.removeDevice, hresolve, Process.unregister, WsmClient.removeDevice]
  constructor
  · simp [Process.removeDevice, Process.unregister, WsmClient.removeDevice, h.devices,
      resolveDeviceId, KeyedList.lookup, KeyedList.delete]
  · simp only [Process.removeDevice, hresolve, Process.unregister]
    refine List.filter_eq_nil_iff.mpr fun handle hmem => ?_
    simpa using h.registrations handle hmem
  · intro k' hk'
    rw [hkernel] at hk'
    obtain ⟨k, hk, _, hfrees⟩ := freeAll_frees h.lists p.kernel k' hk'
    rw [hfrees, h.frees k hk]
    split <;> rfl
  · intro k' hk'
    rw [hkernel] at hk'
    obtain ⟨k, hk, href, _⟩ := freeAll_frees h.lists p.kernel k' hk'
    have hnext : (p.removeDevice device.deviceId).nextRef = p.nextRef := by
      simp [Process.removeDevice, hresolve, Process.unregister, WsmClient.removeDevice]
    rw [hnext, href]
    exact h.fresh k hk

theorem Closed.mcOpenDevice (h : p.Closed) (deviceId : UInt32) (connection : ConnPtr) :
    ∃ t, p.mcOpenDevice deviceId connection mcDrvOk = (mcDrvOk, t) ∧
      t.Opened (Device.new deviceId connection p.nextRef) := by
  refine ⟨{ p with
    devices := [Device.new deviceId connection p.nextRef], nextRef := p.nextRef + 1 }, ?_, ?_⟩
  · simp [Process.mcOpenDevice, WsmClient.mcOpenDevice, h.devices, resolveDeviceId,
      KeyedList.lookup]
  constructor
  · rfl
  · simp [h.registrations]
  · exact List.nodup_nil
  · exact fun _ hw => absurd hw List.not_mem_nil
  · simpa [Device.new] using h.frees
  · exact fun k hk => Nat.lt_succ_of_lt (h.fresh k hk)

theorem Closed.mcOpenDevice_refused (h : p.Closed) (deviceId : UInt32) (connection : ConnPtr)
    {result : McResult} (hresult : result ≠ mcDrvOk) :
    p.mcOpenDevice deviceId connection result = (result, p) := by
  simp [Process.mcOpenDevice, WsmClient.mcOpenDevice, h.devices, resolveDeviceId,
    KeyedList.lookup, hresult]

theorem Closed.mcMallocWsm (h : p.Closed) (deviceId len : UInt32) (answer : MapAnswer) :
    ∃ code, code ≠ mcDrvOk ∧ p.mcMallocWsm deviceId len answer = (code, none, p) := by
  have hcode : checkDeviceClosed deviceId ≠ mcDrvOk := by
    unfold checkDeviceClosed
    split
    · decide
    · decide
  refine ⟨checkDeviceClosed deviceId, hcode, ?_⟩
  simp [Process.mcMallocWsm, WsmClient.mcMallocWsm, h.devices, resolveDeviceId, KeyedList.lookup,
    hcode]

theorem mcMallocWsm_failed {deviceId len : UInt32} {answer : MapAnswer}
    (hanswer : ∀ handle virtAddr physAddr, answer ≠ .mapped handle virtAddr physAddr) :
    ∃ code t, p.mcMallocWsm deviceId len answer = (code, none, t) ∧ t.devices = p.devices := by
  have hdevices : (p.mcMallocWsm deviceId len answer).2.2.devices = p.devices ∧
      (p.toWsmClient.mcMallocWsm deviceId len true answer).1 ≠ mcDrvOk := by
    unfold Process.mcMallocWsm WsmClient.mcMallocWsm
    cases resolveDeviceId deviceId p.devices with
    | none =>
        refine ⟨rfl, ?_⟩
        show checkDeviceClosed deviceId ≠ mcDrvOk
        unfold checkDeviceClosed
        split
        · decide
        · decide
    | some device =>
        by_cases hlen : len = 0
        · simp [WsmClient.allocateContiguousWsm, hlen]
          decide
        · cases answer with
          | mapFailed errno =>
              simp [WsmClient.allocateContiguousWsm, hlen, WsmClient.mapWsm,
                makeMcDrvKmodWithErrno_ne_ok]
          | mmapFailed handle errno =>
              simp [WsmClient.allocateContiguousWsm, hlen, WsmClient.mapWsm, WsmClient.obtain,
                makeMcDrvKmodWithErrno_ne_ok]
          | mapped handle virtAddr physAddr => exact absurd rfl (hanswer handle virtAddr physAddr)
  refine ⟨(p.mcMallocWsm deviceId len answer).1, (p.mcMallocWsm deviceId len answer).2.2, ?_,
    hdevices.1⟩
  simp only [Process.mcMallocWsm, hdevices.2, if_false]

theorem Opened.mcMallocWsm (h : p.Opened device) {len : UInt32} (hlen : len ≠ 0)
    (handle : UInt32) (virtAddr physAddr : UInt64) :
    ∃ t, p.mcMallocWsm device.deviceId len (.mapped handle virtAddr physAddr) =
        (mcDrvOk, some virtAddr, t) ∧
      t.Opened (device.pushWsm { ref := p.nextRef, pWsm := { virtAddr, len, handle, physAddr } }) := by
  have hresolve := h.resolve
  have hnew : p.nextRef ∉ device.wsmL2List.map WsmPtr.ref := by
    intro hmem
    obtain ⟨wsm, hw, href⟩ := List.mem_map.mp hmem
    exact absurd href (Nat.ne_of_lt (h.listed wsm hw))
  refine ⟨{ p with
    toWsmClient := (p.toWsmClient.obtain device.pMcKMod handle len (some virtAddr)).updateDevice
      device.deviceId (Device.pushWsm { ref := p.nextRef
                                        pWsm := { virtAddr, len, handle, physAddr } }) }, ?_, ?_⟩
  · simp [Process.mcMallocWsm, WsmClient.mcMallocWsm, hresolve, WsmClient.allocateContiguousWsm,
      hlen, WsmClient.mapWsm, mappedAt]
  constructor
  · simp [WsmClient.updateDevice, WsmClient.obtain, h.devices, KeyedList.update]
  · exact h.registrations
  · simp only [Device.pushWsm, List.map_append, List.map_cons, List.map_nil]
    exact List.nodup_append.mpr ⟨h.lists, List.nodup_singleton _, by simpa using hnew⟩
  · intro wsm hw
    rcases List.mem_append.mp hw with hw | hw
    · exact Nat.lt_succ_of_lt (h.listed wsm hw)
    · rw [List.mem_singleton.mp hw]
      exact Nat.lt_succ_self _
  · intro k hk
    rcases List.mem_append.mp hk with hk | hk
    · rw [h.frees k hk]
      simp [Device.pushWsm, Nat.ne_of_lt (h.fresh k hk)]
    · rw [List.mem_singleton.mp hk]
      simp [Device.pushWsm]
  · intro k hk
    rcases List.mem_append.mp hk with hk | hk
    · exact Nat.lt_succ_of_lt (h.fresh k hk)
    · rw [List.mem_singleton.mp hk]
      exact Nat.lt_succ_self _

theorem Opened.updateDevice (h : p.Opened device) {f : Device → Device}
    (hwsm : (f device).wsmL2List = device.wsmL2List)
    (hhandles : ∀ handle ∈ p.registrations,
      handle ∈ (f device).sessionList.flatMap Session.handles) :
    (p.updateDevice device.deviceId f).Opened (f device) where
  devices := by simp [Process.updateDevice, WsmClient.updateDevice, h.devices, KeyedList.update]
  registrations := hhandles
  lists := hwsm ▸ h.lists
  listed := hwsm ▸ h.listed
  frees := hwsm ▸ h.frees
  fresh := h.fresh

end OneDevice

/-! ## A session that is the only one -/

/-- The only device has one session. -/
structure OneSession (p : Process) (device : Device) (session : Session) : Prop
    extends p.Opened device where
  sessions : device.sessionList = [session]

/-- The session of the handle is open, and nothing else. -/
def InSession (p : Process) (handle : SessionHandle) : Prop :=
  ∃ device session, p.OneSession device session ∧ device.deviceId = handle.deviceId ∧
    session.sessionId = handle.sessionId

/-- The session of the handle is open, or nothing is held. -/
def InSessionOrClosed (p : Process) (handle : SessionHandle) : Prop :=
  p.InSession handle ∨ p.Closed

section Sessions

variable {p : Process} {device : Device} {session : Session} {handle : SessionHandle}

theorem Closed.resolve (h : p.Closed) (deviceId : UInt32) :
    resolveDeviceId deviceId p.devices = none := by
  simp [resolveDeviceId, h.devices, KeyedList.lookup]

theorem OneSession.resolveSession (h : p.OneSession device session) :
    device.resolveSessionId session.sessionId = some session := by
  simp [Device.resolveSessionId, h.sessions, KeyedList.lookup]

/-- The device with this session and no other. -/
def withSession (device : Device) (session : Session) : Device :=
  { device with sessionList := [session] }

theorem OneSession.withSession_eq (h : p.OneSession device session) :
    withSession device session = device := by
  rw [withSession, ← h.sessions]

/-- A change of the only session, and of what is registered. -/
theorem OneSession.update (h : p.OneSession device session) {f : Session → Session}
    {registrations : List UInt32}
    (hhandles : ∀ handle ∈ registrations, handle ∈ (f session).handles) :
    OneSession { p.updateDevice device.deviceId (Device.updateSession session.sessionId f) with
      registrations := registrations } (withSession device (f session)) (f session) := by
  refine ⟨⟨?_, ?_, h.lists, h.listed, h.frees, h.fresh⟩, rfl⟩
  · simp [Process.updateDevice, WsmClient.updateDevice, h.devices, KeyedList.update, withSession,
      Device.updateSession, h.sessions]
  · simpa [withSession] using hhandles

theorem OneSession.inSession (h : p.OneSession device session)
    (hdevice : device.deviceId = handle.deviceId) (hid : session.sessionId = handle.sessionId) :
    p.InSession handle :=
  ⟨device, session, h, hdevice, hid⟩

/-- What is registered belongs to a descriptor of the session. -/
theorem OneSession.mem_handles (h : p.OneSession device session) {registered : UInt32}
    (hmem : registered ∈ p.registrations) : registered ∈ session.handles := by
  have hlisted := h.registrations registered hmem
  rwa [h.sessions, List.flatMap_singleton] at hlisted

/-- `removeBulkBuf` takes a descriptor from the list together with its registration. -/
theorem OneSession.removeBulkBuf (h : p.OneSession device session) (buf : UInt64) :
    ∃ session', session'.sessionId = session.sessionId ∧
      OneSession (p.removeBulkBuf device.deviceId session buf).2 (withSession device session')
        session' := by
  unfold Process.removeBulkBuf
  cases hlookup : KeyedList.lookup BulkBufferDescriptor.virtAddr buf
      session.bulkBufferDescriptors with
  | none => exact ⟨session, rfl, h.withSession_eq.symm ▸ h⟩
  | some blkBuf =>
      obtain ⟨l₁, l₂, hlist, hdelete⟩ := KeyedList.delete_of_lookup hlookup
      refine ⟨(session.removeBulkBuf buf mcDrvOk).2, ?_, h.update ?_⟩
      · simp [Session.removeBulkBuf, hlookup]
      · intro registered hmem
        obtain ⟨hmem, hother⟩ := List.mem_filter.mp hmem
        obtain ⟨b, hb, hhandle⟩ := List.mem_map.mp (h.mem_handles hmem)
        simp only [Session.handles, Session.removeBulkBuf, hlookup, hdelete]
        refine List.mem_map.mpr ⟨b, ?_, hhandle⟩
        rw [hlist] at hb
        have hne : b ≠ blkBuf := by
          rintro rfl
          simp [hhandle] at hother
        simpa [hne] using hb

/-- The exchange of `mcMap` changes the session only. -/
theorem OneSession.exchangeMap (h : p.OneSession device session)
    (hdevice : device.deviceId = handle.deviceId) (hid : session.sessionId = handle.sessionId)
    (buf : UInt64) (bufLen : UInt32) (reply : Reply UInt32) :
    InSession (p.exchangeMap device.deviceId session buf bufLen reply).2.2 handle := by
  cases reply with
  | lost => exact h.inSession hdevice hid
  | answered code secureVirtualAdr =>
      unfold Process.exchangeMap
      by_cases hcode : code = mcDrvOk
      · simp only [hcode, ne_eq, not_true_eq_false, if_false]
        have hlisted : ∀ registered ∈ p.registrations,
            registered ∈ (session.setSVirtualAddr buf secureVirtualAdr.toUInt64).handles :=
          by
          intro registered hmem
          rw [handles_setSVirtualAddr]
          exact h.mem_handles hmem
        exact (h.update hlisted).inSession hdevice hid
      · simp only [hcode, ne_eq, not_false_eq_true, if_true]
        obtain ⟨session', hid', hremoved⟩ := h.removeBulkBuf buf
        exact hremoved.inSession hdevice (hid'.trans hid)

/-- `mcMap` stays in the session. -/
theorem InSession.mcMap (h : p.InSession handle) (buf : UInt64) (bufLen : UInt32)
    (answers : MapAnswers) : InSession (p.mcMap handle buf bufLen answers).2.2 handle := by
  obtain ⟨device, session, h, hdevice, hid⟩ := h
  have hresolve := h.resolve
  have hsession := h.resolveSession
  unfold Process.mcMap
  rw [← hdevice, hresolve, ← hid]
  simp only [hsession]
  split
  · exact h.inSession hdevice hid
  cases hadd : session.addBulkBuf buf bufLen answers.registered with
  | error ret => exact h.inSession hdevice hid
  | ok added =>
      obtain ⟨bulkBuf, session'⟩ := added
      obtain ⟨_, _, _, hpush⟩ := Session.addBulkBuf_eq_ok hadd
      subst hpush
      have hpushed : ∀ registered ∈ p.registrations ++ [bulkBuf.handle],
          registered ∈ (session.pushBulkBuf bulkBuf).handles := by
        intro registered hmem
        rw [Session.handles, Session.pushBulkBuf, List.map_append]
        refine (List.mem_append.mp hmem).elim (fun hmem => ?_) fun hnew => ?_
        · exact List.mem_append_left _ (h.mem_handles hmem)
        · exact List.mem_append_right _ hnew
      exact (h.update hpushed).exchangeMap hdevice hid buf bufLen answers.reply

/-- A call whose failure removes the device either stays in the session or closes all. -/
theorem InSession.removeIfDead {result : McResult × Process} (h : result.2.InSession handle) :
    InSessionOrClosed (removeIfDead handle.deviceId result).2 handle := by
  unfold Process.removeIfDead
  split
  · obtain ⟨device, session, h, hdevice, hid⟩ := h
    exact Or.inr (hdevice ▸ h.removeDevice)
  · exact Or.inl h

theorem InSession.mcUnmap (h : p.InSession handle) (buf : UInt64) (mapInfo : BulkMap)
    (reply : Reply Unit) : InSessionOrClosed (p.mcUnmap handle buf mapInfo reply).2 handle := by
  obtain ⟨device, session, h, hdevice, hid⟩ := h
  have hresolve := h.resolve
  have hsession := h.resolveSession
  have hin := h.inSession hdevice hid
  unfold Process.mcUnmap
  split
  · exact Or.inl hin
  rw [← hdevice, hresolve, ← hid]
  simp only [hsession]
  rw [hdevice]
  apply InSession.removeIfDead
  unfold exchangeUnmap
  split
  · exact hin
  cases reply with
  | lost => exact hin
  | answered code _ =>
      by_cases hcode : code = mcDrvOk
      · simp only [hcode, ne_eq, not_true_eq_false, if_false]
        obtain ⟨session', hid', hremoved⟩ := h.removeBulkBuf buf
        exact hremoved.inSession hdevice (hid'.trans hid)
      · simp only [hcode, ne_eq, not_false_eq_true, if_true]
        exact hin

theorem InSession.removeDevice (h : p.InSession handle) :
    (p.removeDevice handle.deviceId).Closed := by
  obtain ⟨device, session, h, hdevice, hid⟩ := h
  exact hdevice ▸ h.removeDevice

theorem InSession.resolve (h : p.InSession handle) :
    ∃ device session, resolveDeviceId handle.deviceId p.devices = some device ∧
      device.resolveSessionId handle.sessionId = some session := by
  obtain ⟨device, session, h, hdevice, hid⟩ := h
  exact ⟨device, session, hdevice ▸ h.resolve, hid ▸ h.resolveSession⟩

/-- A notification is sent, or the connection is dead and the device removed. -/
theorem InSession.mcNotify_eq (h : p.InSession handle) (sent : Bool) :
    p.mcNotify handle sent =
      if sent = false then (mcDrvErrSocketWrite, p.removeDevice handle.deviceId)
      else (mcDrvOk, p) := by
  obtain ⟨device, session, hdevice, hsession⟩ := h.resolve
  simp only [Process.mcNotify, hdevice, hsession]

theorem InSession.mcNotify (h : p.InSession handle) (sent : Bool) :
    InSessionOrClosed (p.mcNotify handle sent).2 handle := by
  rw [h.mcNotify_eq]
  split
  · exact Or.inr h.removeDevice
  · exact Or.inl h

theorem InSession.mcWaitNotification_eq (h : p.InSession handle) (answer : WaitAnswer) :
    p.mcWaitNotification handle answer =
      match answer with
      | .notified => (mcDrvOk, p)
      | .exited => (mcDrvInfoNotification, p)
      | .timeout => (mcDrvErrTimeout, p)
      | .dead => (mcDrvErrNotification, p.removeDevice handle.deviceId)
      | .failed => (mcDrvErrNotification, p) := by
  obtain ⟨device, session, hdevice, hsession⟩ := h.resolve
  simp only [Process.mcWaitNotification, hdevice, hsession]

theorem InSession.mcWaitNotification (h : p.InSession handle) (answer : WaitAnswer) :
    InSessionOrClosed (p.mcWaitNotification handle answer).2 handle := by
  rw [h.mcWaitNotification_eq]
  cases answer with
  | dead => exact Or.inr h.removeDevice
  | notified => exact Or.inl h
  | exited => exact Or.inl h
  | timeout => exact Or.inl h
  | failed => exact Or.inl h

/-- No session is found under the handle. -/
def Unopened (p : Process) (handle : SessionHandle) : Prop :=
  ∀ device, resolveDeviceId handle.deviceId p.devices = some device →
    device.resolveSessionId handle.sessionId = none

theorem Closed.unopened (h : p.Closed) (handle : SessionHandle) : p.Unopened handle := by
  intro device hdevice
  rw [h.resolve] at hdevice
  cases hdevice

/-- The calls on a session that is not found leave the process as it is, and fail. -/
theorem Unopened.mcMap (h : p.Unopened handle) (buf : UInt64) (bufLen : UInt32)
    (answers : MapAnswers) :
    ∃ code, code ≠ mcDrvOk ∧ p.mcMap handle buf bufLen answers = (code, none, p) := by
  unfold Process.mcMap
  by_cases hbuf : buf = 0
  · exact ⟨mcDrvErrNullPointer, by decide, if_pos hbuf⟩
  · rw [if_neg hbuf]
    cases hdevice : resolveDeviceId handle.deviceId p.devices with
    | none => exact ⟨mcDrvErrUnknownDevice, by decide, rfl⟩
    | some device => exact ⟨mcDrvErrUnknownSession, by decide, by simp only [h device hdevice]⟩

theorem Unopened.mcNotify (h : p.Unopened handle) (sent : Bool) :
    ∃ code, code ≠ mcDrvOk ∧ p.mcNotify handle sent = (code, p) := by
  unfold Process.mcNotify
  cases hdevice : resolveDeviceId handle.deviceId p.devices with
  | none => exact ⟨mcDrvErrUnknownDevice, by decide, rfl⟩
  | some device => exact ⟨mcDrvErrUnknownSession, by decide, by simp only [h device hdevice]⟩

theorem Unopened.mcWaitNotification (h : p.Unopened handle) (answer : WaitAnswer) :
    ∃ code, code ≠ mcDrvOk ∧ p.mcWaitNotification handle answer = (code, p) := by
  unfold Process.mcWaitNotification
  cases hdevice : resolveDeviceId handle.deviceId p.devices with
  | none => exact ⟨mcDrvErrUnknownDevice, by decide, rfl⟩
  | some device => exact ⟨mcDrvErrUnknownSession, by decide, by simp only [h device hdevice]⟩

theorem Unopened.mcUnmap (h : p.Unopened handle) (buf : UInt64) (mapInfo : BulkMap)
    (reply : Reply Unit) :
    ∃ code, code ≠ mcDrvOk ∧ p.mcUnmap handle buf mapInfo reply = (code, p) := by
  unfold Process.mcUnmap
  by_cases hnull : mapInfo.sVirtualAddr = 0 ∨ buf = 0
  · exact ⟨mcDrvErrNullPointer, by decide, if_pos hnull⟩
  · rw [if_neg hnull]
    cases hdevice : resolveDeviceId handle.deviceId p.devices with
    | none => exact ⟨mcDrvErrUnknownDevice, by decide, rfl⟩
    | some device => exact ⟨mcDrvErrUnknownSession, by decide, by simp only [h device hdevice]⟩

theorem Unopened.mcCloseSession (h : p.Unopened handle) (reply : Reply Unit) :
    ∃ code, code ≠ mcDrvOk ∧ p.mcCloseSession handle reply = (code, p) := by
  unfold Process.mcCloseSession
  cases hdevice : resolveDeviceId handle.deviceId p.devices with
  | none => exact ⟨mcDrvErrUnknownDevice, by decide, rfl⟩
  | some device => exact ⟨mcDrvErrUnknownSession, by decide, by simp only [h device hdevice]⟩

theorem acceptedId_eq_some {answers : SessionAnswers} {sessionId : UInt32} :
    acceptedId answers = some sessionId ↔ answers.reply = .answered mcDrvOk sessionId ∧
      answers.nq = some (.answered mcDrvOk ()) := by
  unfold acceptedId
  cases answers.reply with
  | lost => simp
  | answered code payload =>
      cases answers.nq with
      | none => simp
      | some reply =>
          cases reply with
          | lost => simp
          | answered code' _ =>
              by_cases hcode : code = mcDrvOk <;> by_cases hcode' : code' = mcDrvOk <;>
                simp [hcode, hcode']

section Contiguous

variable {args : OpenArgs} {wsm : WsmPtr} {answers : SessionAnswers}

/-- A session whose TCI is a block of the device registers nothing. -/
theorem mcOpenSession_contiguous (hcheck : Client.checkOpen false args = none)
    (hdevice : resolveDeviceId args.deviceId p.devices = some device)
    (hfind : device.findContiguousWsm args.tci = some wsm) (hlen : ¬ wsm.pWsm.len < args.len) :
    p.mcOpenSession args answers =
      match answers.reply with
      | .lost => (mcDrvErrSocketRead, none, p)
      | .answered code sessionId =>
          if code ≠ mcDrvOk then (openError code, none, p)
          else p.connectNq args.deviceId sessionId none answers.nq := by
  have hhandle : Client.tciHandle false args answers.registered device =
      .ok (wsm.pWsm.handle, none) := by
    simp [Client.tciHandle, hfind, hlen]
  have hregister : p.register none = p := by
    simp [register]
  simp only [Process.mcOpenSession, hcheck, hdevice, hhandle, hregister]

/-- The session is opened when daemon and second channel accept it. -/
theorem mcOpenSession_accepted (hcheck : Client.checkOpen false args = none)
    (hdevice : resolveDeviceId args.deviceId p.devices = some device)
    (hfind : device.findContiguousWsm args.tci = some wsm) (hlen : ¬ wsm.pWsm.len < args.len)
    {sessionId : UInt32} (haccepted : acceptedId answers = some sessionId) :
    p.mcOpenSession args answers = (mcDrvOk, some sessionId,
      p.updateDevice args.deviceId (Device.createNewSession (Session.new sessionId))) := by
  obtain ⟨hreply, hnq⟩ := acceptedId_eq_some.mp haccepted
  rw [mcOpenSession_contiguous hcheck hdevice hfind hlen, hreply, hnq]
  rfl

/-- Otherwise the call fails and leaves the process as it is. -/
theorem mcOpenSession_refused (hcheck : Client.checkOpen false args = none)
    (hdevice : resolveDeviceId args.deviceId p.devices = some device)
    (hfind : device.findContiguousWsm args.tci = some wsm) (hlen : ¬ wsm.pWsm.len < args.len)
    (hrefused : acceptedId answers = none) :
    ∃ code sessionId, code ≠ mcDrvOk ∧ p.mcOpenSession args answers = (code, sessionId, p) := by
  rw [mcOpenSession_contiguous hcheck hdevice hfind hlen]
  cases hreply : answers.reply with
  | lost => exact ⟨mcDrvErrSocketRead, none, by decide, rfl⟩
  | answered code sessionId =>
      by_cases hcode : code = mcDrvOk
      · simp only [hcode, ne_eq, not_true_eq_false, if_false, connectNq]
        cases hnq : answers.nq with
        | none => exact ⟨mcDrvErrSocketConnect, some sessionId, by decide, rfl⟩
        | some reply =>
            cases reply with
            | lost => exact ⟨mcDrvErrSocketRead, some sessionId, by decide, rfl⟩
            | answered code' _ =>
                have hcode' : code' ≠ mcDrvOk := by
                  rintro rfl
                  have haccepted := acceptedId_eq_some.mpr ⟨hcode ▸ hreply, hnq⟩
                  rw [hrefused] at haccepted
                  cases haccepted
                exact ⟨code', some sessionId, hcode', if_pos hcode'⟩
      · exact ⟨openError code, none, openError_ne_ok hcode, if_pos hcode⟩

end Contiguous

/-! ## A device with a page -/

/-- The only device has one block and no session. -/
structure OnePage (p : Process) (device : Device) (wsm : WsmPtr) : Prop
    extends p.Opened device where
  sessions : device.sessionList = []
  page : device.wsmL2List = [wsm]

theorem Closed.onePage (h : p.Closed) (deviceId : UInt32) (connection : ConnPtr) {len : UInt32}
    (hlen : len ≠ 0) (wsmHandle : UInt32) (virtAddr physAddr : UInt64) :
    ∃ t m device wsm, p.mcOpenDevice deviceId connection mcDrvOk = (mcDrvOk, t) ∧
      t.mcMallocWsm deviceId len (.mapped wsmHandle virtAddr physAddr) =
        (mcDrvOk, some virtAddr, m) ∧
      m.OnePage device wsm ∧ device.deviceId = deviceId ∧ wsm.pWsm.virtAddr = virtAddr ∧
      wsm.pWsm.len = len := by
  obtain ⟨t, hdevice, hopened⟩ := h.mcOpenDevice deviceId connection
  obtain ⟨m, hmapped, hm⟩ := hopened.mcMallocWsm hlen wsmHandle virtAddr physAddr
  exact ⟨t, m, _, _, hdevice, hmapped, ⟨hm, rfl, rfl⟩, rfl, rfl, rfl⟩

section OnePage

variable {wsm : WsmPtr} {args : OpenArgs} {answers : SessionAnswers}

theorem OnePage.findContiguousWsm (h : p.OnePage device wsm) (hnull : args.tci ≠ 0)
    (htci : args.tci = wsm.pWsm.virtAddr) : device.findContiguousWsm args.tci = some wsm := by
  rw [htci] at hnull ⊢
  simp [Device.findContiguousWsm, hnull, h.page]

theorem OnePage.mcOpenSession_accepted (h : p.OnePage device wsm)
    (hcheck : Client.checkOpen false args = none) (hid : args.deviceId = device.deviceId)
    (hnull : args.tci ≠ 0) (htci : args.tci = wsm.pWsm.virtAddr) (hlen : args.len = wsm.pWsm.len)
    {sessionId : UInt32} (haccepted : acceptedId answers = some sessionId) :
    ∃ t, p.mcOpenSession args answers = (mcDrvOk, some sessionId, t) ∧
      t.InSession ⟨sessionId, device.deviceId⟩ := by
  have hfits : ¬ wsm.pWsm.len < args.len := hlen ▸ UInt32.lt_irrefl _
  refine ⟨_, Process.mcOpenSession_accepted hcheck (hid ▸ h.resolve)
    (h.findContiguousWsm hnull htci) hfits haccepted, ?_⟩
  refine ⟨device.createNewSession (Session.new sessionId), Session.new sessionId, ⟨?_, ?_⟩, rfl,
    rfl⟩
  · have hregistrations : p.registrations = [] := by
      refine List.eq_nil_iff_forall_not_mem.mpr fun registered hmem => ?_
      simpa [h.sessions] using h.registrations registered hmem
    rw [hid]
    exact h.updateDevice rfl (by simp [hregistrations])
  · simp [Device.createNewSession, h.sessions]

theorem OnePage.mcOpenSession_refused (h : p.OnePage device wsm)
    (hcheck : Client.checkOpen false args = none) (hid : args.deviceId = device.deviceId)
    (htci : args.tci = wsm.pWsm.virtAddr) (hlen : args.len = wsm.pWsm.len) (hempty : args.len ≠ 0)
    (hrefused : args.tci = 0 ∨ acceptedId answers = none) :
    ∃ code sessionId, code ≠ mcDrvOk ∧ p.mcOpenSession args answers = (code, sessionId, p) := by
  have hresolve : resolveDeviceId args.deviceId p.devices = some device := hid ▸ h.resolve
  by_cases hnull : args.tci = 0
  · have hhandle : Client.tciHandle false args answers.registered device =
        .error mcDrvErrTciGreaterThanWsm := by
      simp [Client.tciHandle, Device.findContiguousWsm, hnull, hempty]
    exact ⟨mcDrvErrTciGreaterThanWsm, none, by decide, by
      simp only [Process.mcOpenSession, hcheck, hresolve, hhandle]⟩
  · have hfits : ¬ wsm.pWsm.len < args.len := hlen ▸ UInt32.lt_irrefl _
    exact Process.mcOpenSession_refused hcheck hresolve (h.findContiguousWsm hnull htci) hfits
      (hrefused.resolve_left hnull)

end OnePage

/-- A block whose free request is refused stays where it is. -/
theorem InSession.mcFreeWsm_refused (h : p.InSession handle) {wsm : UInt64} {answer : FreeAnswer}
    (hrefused : answer.free ≠ none) :
    (p.mcFreeWsm handle.deviceId wsm answer).1 ≠ mcDrvOk ∧
      (p.mcFreeWsm handle.deviceId wsm answer).2.InSession handle := by
  obtain ⟨errno, herrno⟩ := Option.ne_none_iff_exists'.mp hrefused
  obtain ⟨device, session, h, hdevice, hid⟩ := h
  have hresolve := hdevice ▸ h.resolve
  cases hfind : device.findContiguousWsm wsm with
  | none =>
      have hresult : p.mcFreeWsm handle.deviceId wsm answer = (mcDrvErrWsmNotFound, p) := by
        simp only [Process.mcFreeWsm, WsmClient.mcFreeWsm, hresolve, hfind]
      rw [hresult]
      exact ⟨(by decide : mcDrvErrWsmNotFound ≠ mcDrvOk), h.inSession hdevice hid⟩
  | some block =>
      have hcode : (kmodFree block answer p.kernel).1 ≠ mcDrvOk := by
        simp only [kmodFree, herrno]
        exact makeMcDrvKmodWithErrno_ne_ok errno
      have hresult : p.mcFreeWsm handle.deviceId wsm answer = ((kmodFree block answer p.kernel).1,
          { p with kernel := (kmodFree block answer p.kernel).2 }) := by
        simp only [Process.mcFreeWsm, WsmClient.mcFreeWsm, hresolve, hfind,
          WsmClient.freeContiguousWsm, hcode, ne_eq, not_false_eq_true, if_true]
      rw [hresult]
      refine ⟨hcode, device, session, ⟨⟨h.devices, h.registrations, h.lists, h.listed, ?_, ?_⟩,
        h.sessions⟩, hdevice, hid⟩
      · intro k' hk'
        simp only [kmodFree, herrno, List.mem_map] at hk'
        obtain ⟨_, ⟨k, hk, rfl⟩, rfl⟩ := hk'
        simpa [KernelWsm.freed, KernelWsm.munmapped] using h.frees k hk
      · intro k' hk'
        simp only [kmodFree, herrno, List.mem_map] at hk'
        obtain ⟨_, ⟨k, hk, rfl⟩, rfl⟩ := hk'
        exact h.fresh k hk

theorem InSession.mcCloseSession (h : p.InSession handle) :
    ∃ t device, p.mcCloseSession handle (.answered mcDrvOk ()) = (mcDrvOk, t) ∧
      t.Opened device ∧ device.deviceId = handle.deviceId ∧ device.sessionList = [] := by
  obtain ⟨device, session, h, hdevice, hid⟩ := h
  have hempty : (device.removeSession session.sessionId).sessionList = [] := by
    simp [Device.removeSession, h.sessions, KeyedList.delete]
  refine ⟨(p.updateDevice device.deviceId (Device.removeSession session.sessionId)).unregister
    session.handles, device.removeSession session.sessionId, ?_, ?_, hdevice, hempty⟩
  · rw [Process.mcCloseSession, ← hdevice, h.resolve, ← hid]
    simp only [h.resolveSession, exchangeClose]
    rfl
  · refine ⟨?_, ?_, h.lists, h.listed, h.frees, h.fresh⟩
    · simp [Process.updateDevice, WsmClient.updateDevice, h.devices, KeyedList.update,
        Process.unregister]
    · intro registered hmem
      obtain ⟨hmem, hother⟩ := List.mem_filter.mp hmem
      have hlisted := h.mem_handles hmem
      simp [hlisted] at hother

/-- A device without sessions is closed, or removed as its connection is dead. -/
theorem Opened.mcCloseDevice (h : p.Opened device) (hempty : device.sessionList = [])
    {alive : Bool} {reply : Reply Unit} (hreply : alive = false ∨ reply = .answered mcDrvOk ()) :
    (p.mcCloseDevice device.deviceId alive reply).2.Closed := by
  have hsessions : device.hasSessions = false := by
    simp [Device.hasSessions, hempty]
  simp only [Process.mcCloseDevice, h.resolve, hsessions]
  by_cases halive : alive = false
  · rw [if_pos halive]
    exact h.removeDevice
  · rw [if_neg halive, hreply.resolve_left halive]
    exact h.removeDevice

end Sessions

end Process

end Exynos8890.MobiCore.ClientLib
