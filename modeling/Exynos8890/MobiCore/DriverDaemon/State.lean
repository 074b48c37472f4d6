import Exynos8890.Library.KeyedList
import Exynos8890.MobiCore.TrustletSession

/-!
# The state of the driver daemon

The device, its sessions, the client connections, and the two places where the
daemon can stand between atomic steps: the one thread that holds `mutex_mcp`
(a server working on a command or dropping a connection, or the TA-exit handler)
and the IRQ thread.

A step ends where the code waits for the secure world, releases a lock, or makes
a change that another thread can see.

Main results:

- Definition `Daemon`: the state, with the trace of what the daemon has done.
- Section "Lookups": `getTrustletSession`, `findSession` and the resolution of a
  session pointer.
-/

namespace Exynos8890.MobiCore

/-! ## Commands and responses -/

/-- `mclfHeader`: the fields of a trustlet's header that the daemon reads. -/
structure MclfHeader where
  uuid : BitVec 128
  gpLevel : UInt32
deriving DecidableEq

/-- `regObject_t`: a service blob from the registry. -/
structure RegObject where
  len : UInt32
  value : UInt64
  tlHeader : MclfHeader
deriving DecidableEq

/-- `loadDataOpenSession_t`. -/
structure LoadDataOpenSession where
  baseAddr : UInt64
  offs : UInt32
  len : UInt32
  tlHeader : MclfHeader
deriving DecidableEq

/-- `MC_DRV_CMD_OPEN_SESSION_struct` without the uuid, which only selects the
service blob. -/
structure CmdOpenSession where
  tci : UInt64
  handle : UInt32
  len : UInt32
deriving DecidableEq

/-- `MC_DRV_CMD_NQ_CONNECT_struct`. -/
structure CmdNqConnect where
  deviceId : UInt32
  sessionId : UInt32
  deviceSessionId : UInt32
  sessionMagic : UInt32
deriving DecidableEq

/-- `MC_DRV_CMD_MAP_BULK_BUF_struct`. -/
structure CmdMapBulkBuf where
  sessionId : UInt32
  handle : UInt32
  offsetPayload : UInt64
  lenBulkMem : UInt32
deriving DecidableEq

/-- `MC_DRV_CMD_UNMAP_BULK_BUF_struct`. -/
structure CmdUnmapBulkBuf where
  sessionId : UInt32
  handle : UInt32
  secureVirtualAdr : UInt64
  lenBulkMem : UInt32
deriving DecidableEq

/-- What the kernel module answers about a handle of shared memory: a contiguous
block, the table of a scattered one (0 when there is none), and the result of
`lockWsmL2`. -/
structure WsmAnswers where
  contiguous : Option (UInt64 × UInt32)
  l2 : UInt64
  lock : Bool
deriving DecidableEq

/-- What registry and kernel module answer while a session is opened: the service
blob, and the physical address of the table it is registered under. -/
structure OpenAnswers where
  regObj : Option RegObject
  load : Option UInt64
  wsm : WsmAnswers
deriving DecidableEq

/-- The commands of a client, with the answers of registry and kernel module.
`openTrustlet` carries whether the blob of the client was received. -/
inductive Command where
  | openDevice (deviceId : UInt32)
  | closeDevice
  | openSession (cmd : CmdOpenSession) (answers : OpenAnswers)
  | openTrustlet (cmd : CmdOpenSession) (received : Bool) (answers : OpenAnswers)
  | closeSession (sessionId : UInt32)
  | nqConnect (cmd : CmdNqConnect)
  | notify (sessionId : UInt32)
  | mapBulkBuf (cmd : CmdMapBulkBuf) (wsm : WsmAnswers)
  | unmapBulkBuf (cmd : CmdUnmapBulkBuf)
deriving DecidableEq

/-- What is written to a client: a result code, or the payload of a success. -/
inductive Response where
  | result (code : McResult)
  | openSession (sessionId deviceSessionId sessionMagic : UInt32)
  | mapBulkMem (sessionId secureVirtualAdr : UInt32)
deriving DecidableEq

/-- The response id is `MC_DRV_OK`. -/
def Response.isOk : Response → Bool
  | .result code => code == mcDrvOk
  | .openSession .. => true
  | .mapBulkMem .. => true

/-! ## The secure world -/

/-- Where the TCI of a session lies. -/
structure TciBuffer where
  wsmType : UInt32
  adr : UInt64
  ofs : UInt32
  len : UInt32
deriving DecidableEq

/-- The commands written to the MCP buffer. -/
inductive McpCommand where
  | openSession (tci : TciBuffer) (lenTciBuffer : UInt32) (load : LoadDataOpenSession)
  | closeSession (sessionId : UInt32)
  | map (sessionId : UInt32) (adrBuffer : UInt64) (ofsBuffer lenBuffer : UInt32)
  | unmap (sessionId secureVirtualAdr lenVirtualBuffer : UInt32)
deriving DecidableEq

/-- What comes back for an MCP command: whether `mshNotifyAndWait` succeeded, the
response in the buffer, and whether the secure world did what it was told when
the response does not say so.  `value` is the session id of a new session or the
secure virtual address of a new mapping. -/
structure McpReply where
  answered : Bool
  rspId : UInt32
  result : McResult
  value : UInt32
  performed : Bool
deriving DecidableEq

namespace McpReply

/-- The tests that follow `mshNotifyAndWait` for every command but close. -/
def mcResult (r : McpReply) (cmdId : UInt32) : McResult :=
  if r.answered = false then mcDrvErrDaemonMciError
  else if r.rspId ≠ cmdId ||| flagResponse then mcDrvErrDaemonMciError
  else if r.result ≠ mcMcpRetOk then makeMcDrvMcpError r.result
  else mcDrvOk

/-- `sendSessionCloseCmd`, from the answer on. -/
def sessionCloseResult (r : McpReply) : McResult :=
  if r.answered = false then mcDrvErrDaemonMciError
  else if r.rspId ≠ mcMcpCmdCloseSession ||| flagResponse then mcDrvErrDaemonMciError
  else r.result

/-- `closeSessionInternal`, from the answer on. -/
def closeResult (r : McpReply) : McResult :=
  if r.sessionCloseResult ≠ mcMcpRetOk then makeMcDrvMcpError r.sessionCloseResult
  else mcDrvOk

/-- Whether the secure world carried out the command: a valid response says so,
otherwise either may be the case. -/
def carriedOut (r : McpReply) (cmdId : UInt32) : Bool :=
  if r.answered = true ∧ r.rspId = cmdId ||| flagResponse then r.result == mcMcpRetOk
  else r.performed

end McpReply

/-- Memory that the secure world has mapped for a session. -/
structure SecureMapping where
  sessionId : UInt32
  adr : UInt64
  ofs : UInt32
  len : UInt32
  secureVirtualAdr : Option UInt32
deriving DecidableEq

/-! ## The trace -/

/-- What the daemon does and what it is answered, in the order it happens.
`lockWsmL2` stands for a call that succeeded. -/
inductive Event where
  | lockWsmL2 (handle : UInt32)
  | unlockWsmL2 (handle : UInt32)
  | cleanupWsmL2
  | unregisterWsmL2 (ok : Bool)
  | mcp (cmd : McpCommand)
  | replied (r : McpReply)
  | notified (sessionId : UInt32)
  | opened (conn : ConnPtr) (sessionId : UInt32) (ref : SessionRef)
  | closeReturned (conn : ConnPtr) (sessionId : UInt32) (ret : McResult)
  | registered (ref : SessionRef) (conn : ConnPtr)
  | answer (conn : ConnPtr) (rsp : Response)
  | closedConnection (conn : ConnPtr)
  | received (n : Notification)
  | stored (ref : SessionRef) (n : Notification)
  | forwarded (ref : SessionRef) (sessionId : UInt32) (conn : ConnPtr) (n : Notification)
  | parked (n : Notification) (listed : Option SessionRef)
  | drained (ref : SessionRef) (n : Notification)
  | flushed (ref : SessionRef) (sessionId : UInt32) (conn : ConnPtr) (n : Notification)
  | danglingAccess (n : Notification)
  | erasedIterator
deriving DecidableEq

/-! ## Places in the code -/

/-- `openSession` while its command is in the MCP buffer. -/
structure OpenFrame where
  conn : ConnPtr
  load : LoadDataOpenSession
  tciHandle : UInt32
  tciLen : UInt32
  tci : TciBuffer
deriving DecidableEq

/-- `tciHandle != 0 && tciLen != 0`. -/
def OpenFrame.usesTci (frame : OpenFrame) : Prop :=
  frame.tciHandle ≠ 0 ∧ frame.tciLen ≠ 0

instance (frame : OpenFrame) : Decidable frame.usesTci :=
  inferInstanceAs (Decidable (_ ∧ _))

/-- Who called `MobiCoreDevice::closeSession`: the close command, or the loop of
`close`, with the session it visits, those before it, and whether the connection
is being dropped. -/
inductive CloseCaller where
  | processCloseSession
  | deviceClose (cur : SessionRef) (before : List SessionRef) (dropping : Bool)
deriving DecidableEq

/-- Where the holder of `mutex_mcp` stands. -/
inductive ServerPc where
  | idle
  | openWait (frame : OpenFrame)
  | openDrain (conn : ConnPtr) (ref : SessionRef) (rsp : Response)
  | openReturn (conn : ConnPtr) (rsp : Response)
  | closeWait (conn : ConnPtr) (sessionId : UInt32) (ref : SessionRef) (caller : CloseCaller)
  | closeRetryWait (conn : ConnPtr) (sessionId : UInt32) (ref : SessionRef)
      (caller : CloseCaller)
  | mapWait (conn : ConnPtr) (cmd : CmdMapBulkBuf) (pAddrL2 : UInt64)
  | unmapWait (conn : ConnPtr) (cmd : CmdUnmapBulkBuf) (ref : SessionRef)
  | closeLoop (conn : ConnPtr) (before : List SessionRef) (erased dropping : Bool)
  | nqRegistered (conn : ConnPtr) (ref : SessionRef)
  | nqDrain (ref : SessionRef)
  | taExit (rest : List SessionRef)
  | taExitWait (ref : SessionRef) (rest : List SessionRef)
  | halted
deriving DecidableEq

/-- A `TrustletSession *`: the object it was obtained for and its address. -/
structure SessionPtr where
  ref : SessionRef
  addr : UInt64
deriving DecidableEq

/-- Where the IRQ thread stands in `handleIrq`; `locked` holds `mutex_connection`
and the notification connection that was read under it. -/
inductive IrqPc where
  | idle
  | unknown (n : Notification)
  | found (n : Notification) (ts : SessionPtr)
  | locked (n : Notification) (ts : SessionPtr) (connection : Option ConnPtr)
deriving DecidableEq

/-- Whether the IRQ thread holds `mutex_connection`. -/
def IrqPc.holdsMutex : IrqPc → Bool
  | .locked .. => true
  | _ => false

/-! ## The state -/

/-- The daemon.  `connections` are the allocated `Connection` objects, `opened` those
whose `connectionData` is the device, `mapped` is the memory the secure world has
mapped, and `nextRef` numbers the session objects. -/
structure Daemon where
  trustletSessions : List TrustletSession
  notifications : List Notification
  taExitNotification : Nat
  connections : List ConnPtr
  opened : List ConnPtr
  peerConnections : List ConnPtr
  nextRef : SessionRef
  mapped : List SecureMapping
  trace : List Event
  srv : ServerPc
  irq : IrqPc

namespace Daemon

/-- The daemon after start-up. -/
def init : Daemon where
  trustletSessions := []
  notifications := []
  taExitNotification := 0
  connections := []
  opened := []
  peerConnections := []
  nextRef := 0
  mapped := []
  trace := []
  srv := .idle
  irq := .idle

/-- Append an event to the trace. -/
@[simps]
def emit (e : Event) (d : Daemon) : Daemon :=
  { d with trace := d.trace ++ [e] }

/-- Continue at another place. -/
@[simps]
def goto (pc : ServerPc) (d : Daemon) : Daemon :=
  { d with srv := pc }

/-- Write a response to a client and finish its command. -/
@[simps!]
def respond (conn : ConnPtr) (rsp : Response) (d : Daemon) : Daemon :=
  (d.emit (.answer conn rsp)).goto .idle

/-- `writeResult`, as the last thing a command does. -/
@[simps!]
def writeResult (conn : ConnPtr) (code : McResult) (d : Daemon) : Daemon :=
  d.respond conn (.result code)

/-! ## Lookups -/

/-- The listed object a pointer was obtained for. -/
def sessionAt (d : Daemon) (ref : SessionRef) : Option TrustletSession :=
  KeyedList.lookup TrustletSession.ref ref d.trustletSessions

/-- `MobiCoreDevice::getTrustletSession`. -/
def getTrustletSession (d : Daemon) (sessionId : UInt32) : Option TrustletSession :=
  KeyedList.lookup TrustletSession.sessionId sessionId d.trustletSessions

/-- `MobiCoreDevice::findSession`. -/
def findSession (d : Daemon) (deviceConnection : ConnPtr) (sessionId : UInt32) :
    Option TrustletSession :=
  match d.getTrustletSession sessionId with
  | none => none
  | some session =>
      if session.deviceConnection ≠ some deviceConnection then none else some session

/-- What a pointer leads to: its own object while that is listed, else the object
that has since been built at the same address. -/
def resolve (d : Daemon) (ts : SessionPtr) : Option TrustletSession :=
  match d.sessionAt ts.ref with
  | some session => some session
  | none => KeyedList.lookup TrustletSession.addr ts.addr d.trustletSessions

/-! ## Session updates -/

/-- Change the session object with this number. -/
@[simps]
def updateSession (ref : SessionRef) (f : TrustletSession → TrustletSession) (d : Daemon) :
    Daemon :=
  { d with trustletSessions := KeyedList.update TrustletSession.ref ref f d.trustletSessions }

/-- `delete notificationConnection`. -/
@[simps]
def deleteConnection (connection : Option ConnPtr) (d : Daemon) : Daemon :=
  { d with
    connections := d.connections.filter fun conn => some conn ≠ connection
    trace := d.trace ++ connection.toList.map .closedConnection }

/-- `trustletSessions.erase(iterator); delete session;`. -/
@[simps!]
def deleteSession (session : TrustletSession) (d : Daemon) : Daemon :=
  { d.deleteConnection session.notificationConnection with
    trustletSessions := KeyedList.delete TrustletSession.ref session.ref d.trustletSessions }

end Daemon

end Exynos8890.MobiCore
