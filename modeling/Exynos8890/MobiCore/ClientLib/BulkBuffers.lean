import Exynos8890.Library.TransitionSystem
import Exynos8890.MobiCore.ClientLib.OpenSession

/-!
# Bulk buffers of client and daemon

The calls that map a buffer into an open session, unmap it and close the session, over
the daemon that serves them.  Both sides keep a list of the buffers of a session, and
each changes its own one before or behind the remote step.

Main results:

- Definitions `mcMap`, `mcUnmap` and `mcCloseSession`.
- Definition `Client.system`: a client under every sequence of calls, with sockets that
  deliver every message.
-/

namespace Exynos8890.MobiCore.ClientLib

/-- `mcBulkMap_t`. -/
structure BulkMap where
  sVirtualAddr : UInt64
  sVirtualLen : UInt32
deriving DecidableEq, Repr

/-- The arguments of `mcMap`; `sessionHandle` and `mapInfo` say whether the pointers are not
null. -/
structure MapArgs where
  sessionHandle : Bool
  mapInfo : Bool
  deviceId : UInt32
  sessionId : UInt32
  buf : UInt64
  bufLen : UInt32
deriving DecidableEq

/-- The arguments of `mcUnmap`; a null `mapInfo` is `none`. -/
structure UnmapArgs where
  sessionHandle : Bool
  mapInfo : Option BulkMap
  deviceId : UInt32
  sessionId : UInt32
  buf : UInt64
deriving DecidableEq

/-- How far the exchange with the daemon gets. -/
structure Exchange where
  sent : Bool
  header : Bool
  payload : Bool
deriving DecidableEq

/-- Every message is delivered. -/
def Exchange.Delivers (exchange : Exchange) : Prop :=
  exchange.sent = true ∧ exchange.header = true ∧ exchange.payload = true

instance (exchange : Exchange) : Decidable exchange.Delivers :=
  inferInstanceAs (Decidable (_ ∧ _ ∧ _))

/-- What kernel module, sockets and daemon do during `mcMap`. -/
structure MapEnvironment where
  registered : Except McResult UInt32
  exchange : Exchange
  wsm : WsmAnswers
  r : McpReply
  unregister : UInt32 → McResult

/-- What kernel module, sockets and daemon do during `mcUnmap`. -/
structure UnmapEnvironment where
  exchange : Exchange
  r : McpReply
  unregister : UInt32 → McResult

/-- What kernel module, sockets and daemon do during `mcCloseSession`. -/
structure CloseEnvironment where
  exchange : Exchange
  r : McpReply
  retry : McpReply
  ndebug : Bool
  unregister : UInt32 → McResult

namespace Session

/-- `bulkBuf->sVirtualAddr = ...` through the pointer to the descriptor of `buf`. -/
def setSVirtualAddr (buf sVirtualAddr : UInt64) (session : Session) : Session :=
  { session with
    bulkBufferDescriptors :=
      KeyedList.update BulkBufferDescriptor.virtAddr buf
        (fun blkBuf => { blkBuf with sVirtualAddr := sVirtualAddr })
        session.bulkBufferDescriptors }

/-- The handles of the listed buffers. -/
def handles (session : Session) : List UInt32 :=
  session.bulkBufferDescriptors.map BulkBufferDescriptor.handle

end Session

namespace Client

/-! ## The calls -/

/-- Change a session object through its pointer. -/
def updateSession (deviceId sessionId : UInt32) (f : Session → Session) (c : Client) : Client :=
  { c with
    devices := KeyedList.update Device.deviceId deviceId (Device.updateSession sessionId f)
      c.devices }

/-- `unregisterWsmL2` for these handles, each with its answer. -/
def unregister (answer : UInt32 → McResult) (handles : List UInt32) (c : Client) : Client :=
  { c with
    registrations := c.registrations.filter fun handle =>
      ¬ (handle ∈ handles ∧ answer handle = mcDrvOk) }

/-- `removeDevice`: the destructors unregister the buffers of all sessions. -/
def removeDevice (deviceId : UInt32) (answer : UInt32 → McResult) (c : Client) : Client :=
  match resolveDeviceId deviceId c.devices with
  | none => c
  | some device =>
      { c with devices := KeyedList.delete Device.deviceId deviceId c.devices }.unregister answer
        (device.sessionList.flatMap Session.handles)

/-- `MC_DRV_ERR_SOCKET_WRITE` and `MC_DRV_ERR_SOCKET_READ` remove the device. -/
def removeIfDead (deviceId : UInt32) (answer : UInt32 → McResult)
    (result : McResult × Client) : McResult × Client :=
  if result.1 = mcDrvErrSocketWrite ∨ result.1 = mcDrvErrSocketRead then
    (result.1, result.2.removeDevice deviceId answer)
  else result

/-- `Session::removeBulkBuf` on a session of a device. -/
def removeBulkBuf (deviceId : UInt32) (session : Session) (buf : UInt64)
    (answer : UInt32 → McResult) (c : Client) : McResult × Client :=
  match KeyedList.lookup BulkBufferDescriptor.virtAddr buf session.bulkBufferDescriptors with
  | none => (mcDrvErrBlkBuffNotFound, c)
  | some blkBuf =>
      let removed := session.removeBulkBuf buf (answer blkBuf.handle)
      (removed.1,
        (c.updateSession deviceId session.sessionId fun _ => removed.2).unregister answer
          [blkBuf.handle])

/-- The map command for a buffer of a session. -/
def mapCommand (session : Session) (bulkBuf : BulkBufferDescriptor) : CmdMapBulkBuf where
  sessionId := session.sessionId
  handle := bulkBuf.handle
  offsetPayload := bulkBuf.virtAddr &&& 0xFFF
  lenBulkMem := bulkBuf.len

/-- `mcMap` behind the registering of the buffer; `session` lists the buffer. -/
def exchangeMap (args : MapArgs) (env : MapEnvironment) (device : Device) (session : Session)
    (bulkBuf : BulkBufferDescriptor) (c : Client) :
    Option (McResult × Option BulkMap × Client) :=
  if env.exchange.sent = false then some (mcDrvErrSocketWrite, none, c)
  else
    let daemon := c.daemon.serveMapBulkBuf device.connection (mapCommand session bulkBuf) env.wsm
      env.r
    let c := { c with daemon := daemon }
    if env.exchange.header = false then some (mcDrvErrSocketRead, none, c)
    else
      match daemon.answered device.connection with
      | some (.mapBulkMem _ secureVirtualAdr) =>
          if env.exchange.payload = false then some (mcDrvErrSocketRead, none, c)
          else
            some (mcDrvOk,
              some { sVirtualAddr := secureVirtualAdr.toUInt64, sVirtualLen := args.bufLen },
              c.updateSession device.deviceId session.sessionId
                (Session.setSVirtualAddr bulkBuf.virtAddr secureVirtualAdr.toUInt64))
      | some (.result _) =>
          some (mcDrvErrDaemonUnreachable, none,
            (c.removeBulkBuf device.deviceId session args.buf env.unregister).2)
      | _ => none

/-- `mcMap`, with what it writes to `mapInfo`. -/
def mcMap (args : MapArgs) (env : MapEnvironment) (c : Client) :
    Option (McResult × Option BulkMap × Client) :=
  if args.sessionHandle = false ∨ args.mapInfo = false ∨ args.buf = 0 then
    some (mcDrvErrNullPointer, none, c)
  else
    match resolveDeviceId args.deviceId c.devices with
    | none => some (mcDrvErrUnknownDevice, none, c)
    | some device =>
        match device.resolveSessionId args.sessionId with
        | none => some (mcDrvErrUnknownSession, none, c)
        | some session =>
            match session.addBulkBuf args.buf args.bufLen env.registered with
            | .error ret => some (ret, none, c)
            | .ok (bulkBuf, session') =>
                ((c.register (some bulkBuf)).updateSession device.deviceId session.sessionId
                  fun _ => session').exchangeMap args env device session' bulkBuf

/-- The unmap command for a mapping. -/
def unmapCommand (session : Session) (mapInfo : BulkMap) (handle : UInt32) : CmdUnmapBulkBuf where
  sessionId := session.sessionId
  handle := handle
  secureVirtualAdr := mapInfo.sVirtualAddr
  lenBulkMem := mapInfo.sVirtualLen

/-- `mcUnmap` up to the removal of the device. -/
def exchangeUnmap (args : UnmapArgs) (env : UnmapEnvironment) (mapInfo : BulkMap)
    (device : Device) (session : Session) (c : Client) : Option (McResult × Client) :=
  let handle := session.getBufHandle mapInfo.sVirtualAddr mapInfo.sVirtualLen
  if handle = 0 then some (mcDrvErrBlkBuffNotFound, c)
  else if env.exchange.sent = false then some (mcDrvErrSocketWrite, c)
  else
    let daemon := c.daemon.serveUnmapBulkBuf device.connection
      (unmapCommand session mapInfo handle) env.r
    let c := { c with daemon := daemon }
    if env.exchange.header = false then some (mcDrvErrSocketRead, c)
    else
      match daemon.answered device.connection with
      | some (.result code) =>
          if code ≠ mcDrvOk then some (mcDrvErrDaemonUnreachable, c)
          else some (c.removeBulkBuf device.deviceId session args.buf env.unregister)
      | _ => none

/-- `mcUnmap`. -/
def mcUnmap (args : UnmapArgs) (env : UnmapEnvironment) (c : Client) :
    Option (McResult × Client) :=
  match args.mapInfo with
  | none => some (mcDrvErrNullPointer, c)
  | some mapInfo =>
      if args.sessionHandle = false ∨ mapInfo.sVirtualAddr = 0 ∨ args.buf = 0 then
        some (mcDrvErrNullPointer, c)
      else
        match resolveDeviceId args.deviceId c.devices with
        | none => some (mcDrvErrUnknownDevice, c)
        | some device =>
            match device.resolveSessionId args.sessionId with
            | none => some (mcDrvErrUnknownSession, c)
            | some session =>
                (c.exchangeUnmap args env mapInfo device session).map
                  (removeIfDead args.deviceId env.unregister)

/-- `mcCloseSession` up to the removal of the device. -/
def exchangeClose (env : CloseEnvironment) (device : Device) (session : Session) (c : Client) :
    Option (McResult × Client) :=
  if env.exchange.sent = false then some (mcDrvErrSocketWrite, c)
  else
    match c.daemon.serveCloseSession device.connection session.sessionId env.r env.retry
        env.ndebug with
    | none => none
    | some daemon =>
        let c := { c with daemon := daemon }
        if env.exchange.header = false then some (mcDrvErrSocketRead, c)
        else
          match daemon.answered device.connection with
          | some (.result code) =>
              if code ≠ mcDrvOk then some (mcDrvErrUnknownDevice, c)
              else
                some (mcDrvOk,
                  { c with
                    devices := KeyedList.update Device.deviceId device.deviceId
                      (Device.removeSession session.sessionId) c.devices }.unregister
                        env.unregister session.handles)
          | _ => none

/-- `mcCloseSession`; `sessionHandle` says whether the pointer is not null. -/
def mcCloseSession (sessionHandle : Bool) (deviceId sessionId : UInt32) (env : CloseEnvironment)
    (c : Client) : Option (McResult × Client) :=
  if sessionHandle = false then some (mcDrvErrNullPointer, c)
  else
    match resolveDeviceId deviceId c.devices with
    | none => some (mcDrvErrUnknownDevice, c)
    | some device =>
        match device.resolveSessionId sessionId with
        | none => some (mcDrvErrUnknownSession, c)
        | some session =>
            (c.exchangeClose env device session).map (removeIfDead deviceId env.unregister)

/-! ## Sequences of calls -/

/-- The calls of the client on its sessions, with what happens during each. -/
inductive Call where
  | mcOpen (kind : OpenKind) (args : OpenArgs) (env : OpenEnvironment)
  | mcMap (args : MapArgs) (env : MapEnvironment)
  | mcUnmap (args : UnmapArgs) (env : UnmapEnvironment)
  | mcCloseSession (sessionHandle : Bool) (deviceId sessionId : UInt32) (env : CloseEnvironment)

/-- `registerWsmL2` returns a handle that is not in use, and never 0. -/
def FreshHandle (c : Client) (registered : Except McResult UInt32) : Prop :=
  match registered with
  | .error _ => True
  | .ok handle => handle ≠ 0 ∧ handle ∉ c.registrations

instance (c : Client) (registered : Except McResult UInt32) :
    Decidable (c.FreshHandle registered) :=
  match registered with
  | .error _ => isTrue trivial
  | .ok handle => inferInstanceAs (Decidable (handle ≠ 0 ∧ handle ∉ c.registrations))

/-- The secure world gives a new session an id that no listed session has. -/
def FreshSessionId (c : Client) (r : McpReply) : Prop :=
  r.mcResult mcMcpCmdOpenSession = mcDrvOk →
    r.value ∉ c.daemon.trustletSessions.map TrustletSession.sessionId

instance (c : Client) (r : McpReply) : Decidable (c.FreshSessionId r) :=
  inferInstanceAs (Decidable (_ → _))

/-- The sockets deliver every message, and kernel module and secure world hand out what is
not in use. -/
def Possible (c : Client) : Call → Prop
  | .mcOpen _ _ env =>
      (env.sent = true ∧ env.header = true ∧ env.payload = true ∧ env.nqSent = true ∧
        env.nqReceived = true) ∧
      c.FreshHandle env.registered ∧ c.FreshSessionId env.service.r
  | .mcMap _ env => env.exchange.Delivers ∧ c.FreshHandle env.registered
  | .mcUnmap _ env => env.exchange.Delivers
  | .mcCloseSession _ _ _ env => env.exchange.Delivers

instance (c : Client) (call : Call) : Decidable (c.Possible call) :=
  match call with
  | .mcOpen _ _ _ => inferInstanceAs (Decidable ((_ ∧ _ ∧ _ ∧ _ ∧ _) ∧ _ ∧ _))
  | .mcMap _ _ => inferInstanceAs (Decidable (_ ∧ _))
  | .mcUnmap _ env => inferInstanceAs (Decidable env.exchange.Delivers)
  | .mcCloseSession _ _ _ env => inferInstanceAs (Decidable env.exchange.Delivers)

/-- The client behind a call. -/
def perform (c : Client) : Call → Option Client
  | .mcOpen kind args env => (c.mcOpen kind args env).map OpenResult.client
  | .mcMap args env => (c.mcMap args env).map fun result => result.2.2
  | .mcUnmap args env => (c.mcUnmap args env).map Prod.snd
  | .mcCloseSession sessionHandle deviceId sessionId env =>
      (c.mcCloseSession sessionHandle deviceId sessionId env).map Prod.snd

/-- The client under every sequence of calls. -/
def system : TransitionSystem Client Call where
  step c call := if c.Possible call then c.perform call else none

end Client

end Exynos8890.MobiCore.ClientLib
