import Exynos8890.Library.TransitionSystem
import Exynos8890.MobiCore.DriverDaemon.Device

/-!
# The daemon as a transition system

The commands of `MobiCoreDriverDaemon`, the dropping of connections, the TA-exit
handler and the IRQ handler, put together into one step function.  A label names
the thread that moves and carries what the environment decides: the command of a
client, the answer of the secure world or of the kernel module, the next
notification.

Main results:

- Definition `step` and the transition system `system`.
- Definitions `Label.startsServer` and `Label.byIrq`: which labels begin the work
  of a thread that takes `mutex_mcp`, and which are steps of the IRQ thread.
-/

namespace Exynos8890.MobiCore

namespace Daemon

/-! ## The commands of a client -/

/-- `getDevice`. -/
def hasDevice (deviceId : UInt32) : Bool :=
  mcDeviceIdDefault == deviceId

/-- `processOpenDevice`. -/
def processOpenDevice (conn : ConnPtr) (deviceId : UInt32) (d : Daemon) : Daemon :=
  if conn ∈ d.opened then d.writeResult conn mcDrvErrDeviceAlreadyOpen
  else if hasDevice deviceId = false then d.writeResult conn mcDrvErrUnknownDevice
  else { d with opened := conn :: d.opened }.writeResult conn mcDrvOk

/-- `processCloseDevice`. -/
def processCloseDevice (conn : ConnPtr) (d : Daemon) : Daemon :=
  if conn ∉ d.opened then d.writeResult conn mcDrvErrDaemonDeviceNotOpen
  else d.close conn false

/-- `processOpenSession` and `processOpenTrustlet` from the service blob on. -/
def openServiceBlob (conn : ConnPtr) (cmd : CmdOpenSession) (answers : OpenAnswers)
    (d : Daemon) : Daemon :=
  match answers.regObj with
  | none => d.writeResult conn mcDrvErrTrustletNotFound
  | some regObj =>
      if regObj.len = 0 then d.writeResult conn mcDrvErrTrustletNotFound
      else
        match answers.load with
        | none => d.writeResult conn mcDrvErrDaemonKmodError
        | some physAddr =>
            d.openSession conn
              { baseAddr := physAddr
                offs := (regObj.value &&& 0xFFF).toUInt32
                len := regObj.len
                tlHeader := regObj.tlHeader }
              answers.wsm cmd.handle cmd.len cmd.tci.toUInt32

/-- `processOpenSession`, for both kinds of uuid. -/
def processOpenSession (conn : ConnPtr) (cmd : CmdOpenSession) (answers : OpenAnswers)
    (d : Daemon) : Daemon :=
  if conn ∉ d.opened then d.writeResult conn mcDrvErrDaemonDeviceNotOpen
  else d.openServiceBlob conn cmd answers

/-- `processOpenTrustlet`: the blob comes from the client. -/
def processOpenTrustlet (conn : ConnPtr) (cmd : CmdOpenSession) (received : Bool)
    (answers : OpenAnswers) (d : Daemon) : Daemon :=
  if conn ∉ d.opened then d.writeResult conn mcDrvErrDaemonDeviceNotOpen
  else if received = false then d.writeResult conn mcDrvErrDaemonSocket
  else d.openServiceBlob conn cmd answers

/-- `processOpenSession` from the unregistering of the service blob on. -/
def processOpenReturn (conn : ConnPtr) (rsp : Response) (unregistered : Bool) (d : Daemon) :
    Daemon :=
  let d := d.emit (.unregisterWsmL2 unregistered)
  if unregistered = false then d.writeResult conn mcDrvErrDaemonKmodError
  else d.respond conn rsp

/-- `processCloseSession`. -/
def processCloseSession (conn : ConnPtr) (sessionId : UInt32) (d : Daemon) : Option Daemon :=
  if conn ∉ d.opened then some (d.writeResult conn mcDrvErrDaemonDeviceNotOpen)
  else d.closeSession conn sessionId .processCloseSession

/-- `processNqConnect` up to the response. -/
def processNqConnect (conn : ConnPtr) (cmd : CmdNqConnect) (d : Daemon) : Daemon :=
  if conn ∈ d.opened then d.writeResult conn mcDrvErrNqFailed
  else
    let d := { d with peerConnections := d.peerConnections.erase conn }
    if hasDevice cmd.deviceId = false then d.writeResult conn mcDrvErrUnknownDevice
    else
      match d.findTrustletConnection cmd with
      | none => d.writeResult conn mcDrvErrUnknown
      | some session =>
          (d.registerTrustletConnection conn session).goto (.nqRegistered conn session.ref)

/-- `processNqConnect`: the response. -/
@[simps!]
def nqConnectRespond (conn : ConnPtr) (ref : SessionRef) (d : Daemon) : Daemon :=
  (d.emit (.answer conn (.result mcDrvOk))).goto (.nqDrain ref)

/-- `processNotify`: there is no response at all. -/
def processNotify (conn : ConnPtr) (sessionId : UInt32) (d : Daemon) : Daemon :=
  if conn ∉ d.opened then d else d.notify conn sessionId

/-- `processMapBulkBuf` up to the wait. -/
def processMapBulkBuf (conn : ConnPtr) (cmd : CmdMapBulkBuf) (wsm : WsmAnswers) (d : Daemon) :
    Daemon :=
  if conn ∉ d.opened then d.writeResult conn mcDrvErrDaemonDeviceNotOpen
  else if wsm.lock = false then d.writeResult conn mcDrvErrDaemonWsmHandleNotFound
  else
    let d := d.emit (.lockWsmL2 cmd.handle)
    if wsm.l2 = 0 then d.writeResult conn mcDrvErrDaemonWsmHandleNotFound
    else d.mapBulk conn cmd wsm.l2

/-- `processUnmapBulkBuf` up to the wait. -/
def processUnmapBulkBuf (conn : ConnPtr) (cmd : CmdUnmapBulkBuf) (d : Daemon) : Daemon :=
  if conn ∉ d.opened then d.writeResult conn mcDrvErrDaemonDeviceNotOpen
  else d.unmapBulk conn cmd

/-- The switch of `handleConnection`. -/
def process (conn : ConnPtr) (d : Daemon) : Command → Option Daemon
  | .openDevice deviceId => some (d.processOpenDevice conn deviceId)
  | .closeDevice => some (d.processCloseDevice conn)
  | .openSession cmd answers => some (d.processOpenSession conn cmd answers)
  | .openTrustlet cmd received answers => some (d.processOpenTrustlet conn cmd received answers)
  | .closeSession sessionId => d.processCloseSession conn sessionId
  | .nqConnect cmd => some (d.processNqConnect conn cmd)
  | .notify sessionId => some (d.processNotify conn sessionId)
  | .mapBulkBuf cmd wsm => some (d.processMapBulkBuf conn cmd wsm)
  | .unmapBulkBuf cmd => some (d.processUnmapBulkBuf conn cmd)

/-! ## The server -/

/-- `new Connection`, at an address that no other object uses. -/
def accept (conn : ConnPtr) (d : Daemon) : Option Daemon :=
  if conn ∈ d.connections then none
  else
    some
      { d with
        connections := conn :: d.connections
        peerConnections := conn :: d.peerConnections }

/-- `dropConnection`, and the deletion of the connection by the server. -/
def dropConnection (conn : ConnPtr) (d : Daemon) : Daemon :=
  if conn ∈ d.opened then d.close conn true else d.forgetConnection conn

/-! ## The TA-exit handler -/

/-- `handleTaExit` is woken and takes `mutex_mcp`. -/
def handleTaExit (d : Daemon) : Option Daemon :=
  if d.taExitNotification = 0 then none
  else
    some ({ d with taExitNotification := d.taExitNotification - 1 }.goto (.taExit d.refs))

/-- One round of its loop over the sessions, up to the wait. -/
def taExitStep (rest : List SessionRef) (d : Daemon) : Option Daemon :=
  match rest with
  | [] => some (d.goto .idle)
  | ref :: rest =>
      match d.sessionAt ref with
      | none => none
      | some ts =>
          if ts.sessionState = .taDead then
            some (d.sendSessionCloseCmd ts.sessionId (.taExitWait ref rest))
          else some (d.goto (.taExit rest))

/-- The round from the answer on. -/
def taExitReply (ref : SessionRef) (rest : List SessionRef) (r : McpReply) (d : Daemon) :
    Option Daemon :=
  match d.sessionAt ref with
  | none => none
  | some ts =>
      let d := d.unmapClosed r ts.sessionId
      if r.closeResult = mcDrvOk then some ((d.deleteSession ts).goto (.taExit rest))
      else some (d.goto (.taExit rest))

/-! ## The IRQ handler -/

/-- `handleIrq` takes a notification from the ring and looks up its session. -/
def irqReceive (n : Notification) (d : Daemon) : Option Daemon :=
  if d.irq ≠ .idle ∨ n.sessionId = sidMcp then none
  else
    let d := d.emit (.received n)
    match d.getTrustletSession n.sessionId with
    | none => some { d with irq := .unknown n }
    | some ts => some { d with irq := .found n { ref := ts.ref, addr := ts.addr } }

/-- `queueUnknownNotification`; the event records the session that is listed under
the id by now. -/
def irqPark (d : Daemon) : Option Daemon :=
  match d.irq with
  | .unknown n =>
      some
        { d.emit (.parked n ((d.getTrustletSession n.sessionId).map fun s => s.ref)) with
          notifications := d.notifications ++ [n]
          irq := .idle }
  | _ => none

/-- An access through a pointer whose object is no longer listed is on record. -/
@[simps]
def access (n : Notification) (ts : SessionPtr) (d : Daemon) : Daemon :=
  { d with
    trace := d.trace ++ if (d.sessionAt ts.ref).isNone then [.danglingAccess n] else [] }

/-- `mutex_connection.lock()`, and the notification connection read through the
pointer.  Freed memory that no session has taken over keeps the notification. -/
def irqLock (d : Daemon) : Option Daemon :=
  match d.irq with
  | .found n ts =>
      match d.resolve ts with
      | none => some { d.access n ts with irq := .idle }
      | some session =>
          some { d.access n ts with irq := .locked n ts session.notificationConnection }
  | _ => none

/-- `queueNotification` by the IRQ thread, and the signal to the TA-exit handler;
then the lock is released. -/
@[simps!]
def storeNotification (n : Notification) (session : TrustletSession) (d : Daemon) : Daemon :=
  { (d.emit (.stored session.ref n)).updateSession session.ref
      (TrustletSession.queueNotification n) with
    taExitNotification :=
      if session.deviceConnection = none then d.taExitNotification + 1
      else d.taExitNotification
    irq := .idle }

/-- `connection->writeData` by the IRQ thread. -/
@[simps]
def forwardNotification (n : Notification) (session : TrustletSession) (conn : ConnPtr)
    (d : Daemon) : Daemon :=
  { d with
    trace := d.trace ++ [.forwarded session.ref session.sessionId conn n]
    irq := .idle }

/-- The section under `mutex_connection`, up to its release. -/
def irqDeliver (d : Daemon) : Option Daemon :=
  match d.irq with
  | .locked n ts connection =>
      match d.resolve ts with
      | none => some { d.access n ts with irq := .idle }
      | some session =>
          match connection with
          | none => some ((d.access n ts).storeNotification n session)
          | some conn => some ((d.access n ts).forwardNotification n session conn)
  | _ => none

/-! ## The transition system -/

/-- What the environment decides when an MCP command comes back: the address of a
new session object, the value of `rand`, and whether assertions are compiled out. -/
structure HostChoice where
  addr : UInt64
  magic : UInt32
  ndebug : Bool
deriving DecidableEq

inductive Label where
  | accept (conn : ConnPtr)
  | command (conn : ConnPtr) (cmd : Command)
  | drop (conn : ConnPtr)
  | taExit
  | reply (r : McpReply) (host : HostChoice)
  | drain
  | unregister (ok : Bool)
  | nextSession (crash : Bool)
  | respond
  | irqReceive (n : Notification)
  | irqPark
  | irqLock
  | irqDeliver
deriving DecidableEq

/-- An MCP command comes back. -/
def reply (r : McpReply) (host : HostChoice) (d : Daemon) : Option Daemon :=
  match d.srv with
  | .openWait frame => d.openSessionReply frame r host.addr host.magic
  | .closeWait conn sessionId ref caller => d.closeSessionReply conn sessionId ref caller r
  | .closeRetryWait conn sessionId ref caller =>
      d.closeSessionRetryReply conn sessionId ref caller r host.ndebug
  | .mapWait conn cmd pAddrL2 => some (d.mapBulkReply conn cmd pAddrL2 r)
  | .unmapWait conn cmd ref => some (d.unmapBulkReply conn cmd ref r)
  | .taExitWait ref rest => d.taExitReply ref rest r
  | _ => none

/-- One round of a loop that drains a queue. -/
def drain (d : Daemon) : Option Daemon :=
  match d.srv with
  | .openDrain conn ref rsp => some (d.openDrainStep conn ref rsp)
  | .nqDrain ref => d.processQueuedNotifications ref
  | _ => none

/-- One round of a loop over the sessions. -/
def nextSession (crash : Bool) (d : Daemon) : Option Daemon :=
  match d.srv with
  | .closeLoop conn before erased dropping => d.closeLoopStep conn before erased dropping crash
  | .taExit rest => d.taExitStep rest
  | _ => none

def step (d : Daemon) : Label → Option Daemon
  | .accept conn => d.accept conn
  | .command conn cmd =>
      if d.srv = .idle ∧ conn ∈ d.peerConnections then d.process conn cmd else none
  | .drop conn =>
      if d.srv = .idle ∧ conn ∈ d.peerConnections then some (d.dropConnection conn) else none
  | .taExit => if d.srv = .idle then d.handleTaExit else none
  | .reply r host => d.reply r host
  | .drain => d.drain
  | .unregister ok =>
      match d.srv with
      | .openReturn conn rsp => some (d.processOpenReturn conn rsp ok)
      | _ => none
  | .nextSession crash => d.nextSession crash
  | .respond =>
      match d.srv with
      | .nqRegistered conn ref => some (d.nqConnectRespond conn ref)
      | _ => none
  | .irqReceive n => d.irqReceive n
  | .irqPark => d.irqPark
  | .irqLock => d.irqLock
  | .irqDeliver => d.irqDeliver

/-- The daemon under every interleaving of its threads. -/
def system : TransitionSystem Daemon Label where
  step := step

/-- The label takes `mutex_mcp` for new work. -/
def Label.startsServer : Label → Bool
  | .command .. | .drop _ | .taExit => true
  | _ => false

/-- The label is a step of the IRQ thread. -/
def Label.byIrq : Label → Bool
  | .irqReceive _ | .irqPark | .irqLock | .irqDeliver => true
  | _ => false

/-! ## Small runs -/

/-- The valid response of success. -/
def successReply (cmdId value : UInt32) : McpReply where
  answered := true
  rspId := cmdId ||| flagResponse
  result := mcMcpRetOk
  value := value
  performed := true

/-- The valid response of failure. -/
def failureReply (cmdId : UInt32) (result : McResult) : McpReply where
  answered := true
  rspId := cmdId ||| flagResponse
  result := result
  value := 0
  performed := false

/-- No response, and nothing done. -/
def noReply : McpReply where
  answered := false
  rspId := 0
  result := mcMcpRetOk
  value := 0
  performed := false

/-- A host that returns this address for a new object. -/
def hostAt (addr : UInt64) : HostChoice where
  addr := addr
  magic := 7
  ndebug := false

/-- A service blob and a contiguous block for the TCI. -/
def blobAnswers (gpLevel : UInt32) (tciLen : UInt32) : OpenAnswers where
  regObj := some { len := 0x80, value := 0x5000, tlHeader := { uuid := 1, gpLevel := gpLevel } }
  load := some 0x6000
  wsm := { contiguous := some (0x7000, tciLen), l2 := 0, lock := true }

/-- A client connects and opens the device. -/
def clientLabels (conn : ConnPtr) : List Label :=
  [.accept conn, .command conn (.openDevice mcDeviceIdDefault)]

/-- The client opens a session without a TCI. -/
def openLabels (conn : ConnPtr) (gpLevel sessionId : UInt32) (addr : UInt64) : List Label :=
  [.command conn (.openSession { tci := 0, handle := 0, len := 0 } (blobAnswers gpLevel 0)),
    .reply (successReply mcMcpCmdOpenSession sessionId) (hostAt addr), .drain, .unregister true]

end Daemon

end Exynos8890.MobiCore
