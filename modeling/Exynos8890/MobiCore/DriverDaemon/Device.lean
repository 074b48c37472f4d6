import Exynos8890.MobiCore.DriverDaemon.State

/-!
# The device operations

`MobiCoreDevice`: opening, closing, notifying, mapping and unmapping, each cut
where it waits for the secure world.  An operation that blocks on
`mutex_connection` has no successor until the IRQ thread releases it.

Main results:

- Definitions `openSession` and `openSessionReply`: the two halves of opening.
- Definitions `closeSession`, `closeSessionReply` and `closeSessionRetryReply`:
  closing with its second attempt.
- Definition `closeLoopStep`: one round of the loop of `close`.
-/

namespace Exynos8890.MobiCore

namespace Daemon

/-! ## Opening a session -/

/-- `openSession` returns to the process function, which unregisters the service
blob next. -/
@[simps!]
def openReturn (conn : ConnPtr) (code : McResult) (d : Daemon) : Daemon :=
  d.goto (.openReturn conn (.result code))

/-- The search for the TCI: a contiguous block, or the table of a scattered one. -/
def findTci (wsm : WsmAnswers) (tciLen tciOffset : UInt32) : Option TciBuffer :=
  match wsm.contiguous with
  | some (phys, len) => some { wsmType := wsmContiguous, adr := phys, ofs := 0, len := len }
  | none =>
      if wsm.l2 ≠ 0 then
        -- the length is not checked: the trustlet faults outside the table
        some { wsmType := wsmL2, adr := wsm.l2, ofs := tciOffset, len := tciLen }
      else none

/-- Send the open command; the notifications parked so far are dropped. -/
@[simps!]
def sendOpen (frame : OpenFrame) (d : Daemon) : Daemon :=
  ({ d with notifications := [] }.emit
    (.mcp (.openSession frame.tci frame.tciLen frame.load))).goto (.openWait frame)

/-- `openSession` from the test of the TCI length to the wait. -/
def openSessionTci (frame : OpenFrame) (d : Daemon) : Daemon :=
  if (frame.tciHandle ≠ 0 ∧ frame.tciLen = 0) ∨ frame.tciLen > frame.tci.len then
    d.openReturn frame.conn mcDrvErrTciGreaterThanWsm
  else d.sendOpen frame

/-- `MobiCoreDevice::openSession` up to the wait. -/
def openSession (conn : ConnPtr) (load : LoadDataOpenSession) (wsm : WsmAnswers)
    (tciHandle tciLen tciOffset : UInt32) (d : Daemon) : Daemon :=
  if tciHandle ≠ 0 ∧ tciLen ≠ 0 then
    match findTci wsm tciLen tciOffset with
    | none => d.openReturn conn mcDrvErrDaemonWsmHandleNotFound
    | some tci =>
        if wsm.lock = false then d.openReturn conn mcDrvErrDaemonWsmHandleNotFound
        else
          (d.emit (.lockWsmL2 tciHandle)).openSessionTci
            { conn := conn, load := load, tciHandle := tciHandle, tciLen := tciLen, tci := tci }
  else
    d.openSessionTci
      { conn := conn
        load := load
        tciHandle := tciHandle
        tciLen := tciLen
        tci := { wsmType := wsmInvalid, adr := 0, ofs := tciOffset, len := 0 } }

/-- `if (tciHandle != 0 && tciLen != 0) unlockWsmL2(tciHandle);`. -/
@[simps]
def unlockTci (frame : OpenFrame) (d : Daemon) : Daemon :=
  { d with
    trace := d.trace ++
      if frame.usesTci then [.unlockWsmL2 frame.tciHandle] else [] }

/-- The new session object, with its TCI in the table of buffers. -/
def newSession (frame : OpenFrame) (sessionId : UInt32) (addr : UInt64) (magic : UInt32)
    (d : Daemon) : TrustletSession :=
  let trustletSession :=
    { TrustletSession.new d.nextRef addr magic frame.conn sessionId with
      gpLevel := frame.load.tlHeader.gpLevel
      sessionState := .taRunning }
  if frame.usesTci then
    trustletSession.addBulkBuff
      { virtAddr := frame.load.offs.toUInt64
        len := frame.load.len
        handle := frame.tciHandle
        physAddr := 0 }
  else trustletSession

/-- `trustletSessions.push_back(trustletSession)`. -/
@[simps]
def pushSession (frame : OpenFrame) (sessionId : UInt32) (trustletSession : TrustletSession)
    (d : Daemon) : Daemon :=
  { d with
    trustletSessions := d.trustletSessions ++ [trustletSession]
    nextRef := d.nextRef + 1
    trace := d.trace ++ [.opened frame.conn sessionId d.nextRef] }

/-- The answer to an open command; the secure world maps the TCI of a session it
opens. -/
@[simps]
def mapTci (frame : OpenFrame) (r : McpReply) (d : Daemon) : Daemon :=
  { d with
    trace := d.trace ++ [.replied r]
    mapped := d.mapped ++
      if r.carriedOut mcMcpCmdOpenSession = true ∧ frame.tci.wsmType ≠ wsmInvalid then
        [{ sessionId := r.value, adr := frame.tci.adr, ofs := frame.tci.ofs
           len := frame.tciLen, secureVirtualAdr := none }]
      else [] }

/-- `openSession` from the answer on, up to the loop that drains the parked
notifications; `addr` and `magic` are what `new` and `rand` return. -/
def openSessionReply (frame : OpenFrame) (r : McpReply) (addr : UInt64) (magic : UInt32)
    (d : Daemon) : Option Daemon :=
  let d := d.mapTci frame r
  let mcRet := r.mcResult mcMcpCmdOpenSession
  if mcRet ≠ mcDrvOk then some ((d.unlockTci frame).openReturn frame.conn mcRet)
  else if addr = 0 ∨ ∃ s ∈ d.trustletSessions, s.addr = addr then none
  else
    some
      ((d.pushSession frame r.value (d.newSession frame r.value addr magic)).goto
        (.openDrain frame.conn d.nextRef (.openSession r.value addr.toUInt32 magic)))

/-- Hand the first parked notification to the new session. -/
@[simps!]
def drainFront (ref : SessionRef) (front : Notification) (rest : List Notification)
    (d : Daemon) : Daemon :=
  ({ d with notifications := rest }.emit (.drained ref front)).updateSession ref
    (TrustletSession.queueNotification front)

/-- One round of `while (!notifications.empty())`. -/
def openDrainStep (conn : ConnPtr) (ref : SessionRef) (rsp : Response) (d : Daemon) : Daemon :=
  match d.notifications with
  | [] => d.goto (.openReturn conn rsp)
  | front :: rest => d.drainFront ref front rest

/-! ## Closing a session -/

/-- Where the caller of `closeSession` goes on: the close command is answered, the
loop of `close` goes on before the session it has visited. -/
def resumeCaller (conn : ConnPtr) (caller : CloseCaller) (d : Daemon) : ServerPc :=
  match caller with
  | .processCloseSession => .idle
  | .deviceClose cur before dropping =>
      .closeLoop conn (before.filter fun ref => (d.sessionAt ref).isSome)
        (d.sessionAt cur).isNone dropping

/-- What the caller of `closeSession` writes to its client. -/
def callerAnswer (conn : ConnPtr) (caller : CloseCaller) (ret : McResult) : List Event :=
  match caller with
  | .processCloseSession => [.answer conn (.result ret)]
  | .deviceClose .. => []

/-- `closeSession` returns to its caller. -/
@[simps]
def closeReturn (conn : ConnPtr) (sessionId : UInt32) (caller : CloseCaller) (ret : McResult)
    (d : Daemon) : Daemon :=
  { d with
    trace := d.trace ++ .closeReturned conn sessionId ret :: callerAnswer conn caller ret
    srv := d.resumeCaller conn caller }

/-- `sendSessionCloseCmd` up to the wait. -/
@[simps!]
def sendSessionCloseCmd (sessionId : UInt32) (pc : ServerPc) (d : Daemon) : Daemon :=
  (d.emit (.mcp (.closeSession sessionId))).goto pc

/-- The section of `closeSession` under `mutex_connection`, for GP sessions. -/
@[simps!]
def disconnectClient (session : TrustletSession) (d : Daemon) : Daemon :=
  (d.deleteConnection session.notificationConnection).updateSession session.ref
    TrustletSession.disconnect

/-- `MobiCoreDevice::closeSession` up to the wait. -/
def closeSession (conn : ConnPtr) (sessionId : UInt32) (caller : CloseCaller) (d : Daemon) :
    Option Daemon :=
  match d.findSession conn sessionId with
  | none => some (d.closeReturn conn sessionId caller mcDrvErrDaemonUnknownSession)
  | some session =>
      let pc := ServerPc.closeWait conn sessionId session.ref caller
      if session.gpLevel = 1 then
        if d.irq.holdsMutex then none
        else some ((d.disconnectClient session).sendSessionCloseCmd sessionId pc)
      else some (d.sendSessionCloseCmd sessionId pc)

/-- The answer to a close command; one that was carried out ends all mappings of
the session. -/
@[simps]
def unmapClosed (r : McpReply) (sessionId : UInt32) (d : Daemon) : Daemon :=
  { d with
    trace := d.trace ++ [.replied r]
    mapped := d.mapped.filter fun m =>
      ¬ (r.carriedOut mcMcpCmdCloseSession = true ∧ m.sessionId = sessionId) }

/-- `while (pWsm) unlockWsmL2(pWsm->handle)` over the popped buffers. -/
@[simps]
def unlockBuffers (session : TrustletSession) (d : Daemon) : Daemon :=
  { d with
    trace := d.trace ++ session.popBulkBuffs.map fun pWsm => .unlockWsmL2 pWsm.handle }

/-- `closeSession` from its last test on. -/
def closeSessionFinish (conn : ConnPtr) (sessionId : UInt32) (session : TrustletSession)
    (caller : CloseCaller) (mcRet : McResult) (d : Daemon) : Daemon :=
  if mcRet ≠ mcMcpRetOk then d.closeReturn conn sessionId caller (makeMcDrvMcpError mcRet)
  else
    ((d.unlockBuffers session).deleteSession session).closeReturn conn sessionId caller
      mcMcpRetOk

/-- `closeSession` from the answer on. -/
def closeSessionReply (conn : ConnPtr) (sessionId : UInt32) (ref : SessionRef)
    (caller : CloseCaller) (r : McpReply) (d : Daemon) : Option Daemon :=
  let d := d.unmapClosed r sessionId
  let mcRet := r.closeResult
  match d.sessionAt ref with
  | none => none
  | some session =>
      if session.gpLevel = 1 ∧ mcRet = makeMcDrvMcpError mcMcpRetErrCloseTaskFailed then
        if session.sessionState = .taDead then
          some (d.sendSessionCloseCmd sessionId (.closeRetryWait conn sessionId ref caller))
        else
          -- the clean-up is left to the TA-exit handler
          some (d.closeReturn conn sessionId caller mcMcpRetOk)
      else some (d.closeSessionFinish conn sessionId session caller mcRet)

/-- `closeSession` from the second answer on; `ndebug` says whether the assertion
is compiled out. -/
def closeSessionRetryReply (conn : ConnPtr) (sessionId : UInt32) (ref : SessionRef)
    (caller : CloseCaller) (r : McpReply) (ndebug : Bool) (d : Daemon) : Option Daemon :=
  let d := d.unmapClosed r sessionId
  let mcRet := r.closeResult
  match d.sessionAt ref with
  | none => none
  | some session =>
      if mcRet ≠ mcMcpRetOk ∧ ndebug = false then some (d.goto .halted)
      else some (d.closeSessionFinish conn sessionId session caller mcRet)

/-! ## Closing the device -/

/-- The numbers of the listed sessions. -/
def refs (d : Daemon) : List SessionRef :=
  d.trustletSessions.map fun s => s.ref

/-- `delete connection`, by the server. -/
@[simps]
def forgetConnection (conn : ConnPtr) (d : Daemon) : Daemon :=
  { d with
    trace := d.trace ++ [.closedConnection conn]
    connections := d.connections.filter fun c => c ≠ conn
    peerConnections := d.peerConnections.erase conn
    srv := .idle }

/-- `close` behind its loop. -/
@[simps]
def closeCleanup (conn : ConnPtr) (d : Daemon) : Daemon :=
  { d with trace := d.trace ++ [.cleanupWsmL2], opened := d.opened.erase conn }

/-- `close` returns: the command is answered, or the connection deleted. -/
def closeFinish (conn : ConnPtr) (dropping : Bool) (d : Daemon) : Daemon :=
  if dropping then (d.closeCleanup conn).forgetConnection conn
  else (d.closeCleanup conn).writeResult conn mcDrvOk

/-- Step the reverse iterator back from its base. -/
@[simps]
def stepBack (erased : Bool) (d : Daemon) : Daemon :=
  { d with trace := d.trace ++ if erased then [.erasedIterator] else [] }

/-- One round of the loop of `close`.  `before` are the elements before the base of
the reverse iterator, and `erased` says that the base is the node of a session
that the last round has erased: stepping back from it reads freed memory, which
the daemon may not survive (`crash`) or whose links are still there.  From the
node of the first session the step leads to the head of the list, which is no
session of this connection, and from there to the last session again. -/
def closeLoopStep (conn : ConnPtr) (before : List SessionRef) (erased dropping crash : Bool)
    (d : Daemon) : Option Daemon :=
  if erased = true ∧ crash = true then some (d.goto .halted)
  else
    let d := d.stepBack erased
    match before.getLast? with
    | none =>
        if erased = true ∧ d.trustletSessions ≠ [] then
          some (d.goto (.closeLoop conn d.refs false dropping))
        else some (d.closeFinish conn dropping)
    | some cur =>
        match d.sessionAt cur with
        | none => none
        | some session =>
            if session.deviceConnection = some conn then
              d.closeSession conn session.sessionId
                (.deviceClose cur before.dropLast dropping)
            else some (d.goto (.closeLoop conn before.dropLast false dropping))

/-- `MobiCoreDevice::close` up to its loop. -/
@[simps!]
def close (conn : ConnPtr) (dropping : Bool) (d : Daemon) : Daemon :=
  d.goto (.closeLoop conn d.refs false dropping)

/-! ## Notifications to the secure world -/

/-- `TrustZoneDevice::notify` for a session. -/
def notifySession (sessionId : UInt32) (d : Daemon) : Daemon :=
  if sessionId ≠ sidMcp then
    match d.getTrustletSession sessionId with
    | none => d
    | some _ => d.emit (.notified sessionId)
  else d.emit (.notified sessionId)

/-- `MobiCoreDevice::notify`; its result is not used. -/
def notify (conn : ConnPtr) (sessionId : UInt32) (d : Daemon) : Daemon :=
  match d.findSession conn sessionId with
  | none => d
  | some _ => d.notifySession sessionId

/-! ## Bulk memory -/

/-- The buffer object of a map command. -/
def bulkBuffer (cmd : CmdMapBulkBuf) (pAddrL2 : UInt64) : CWsm where
  virtAddr := cmd.offsetPayload.toUInt32.toUInt64
  len := cmd.lenBulkMem
  handle := cmd.handle
  physAddr := pAddrL2

/-- Record the buffer and send the map command; the result of `addBulkBuff` is not
used. -/
@[simps!]
def sendMap (conn : ConnPtr) (cmd : CmdMapBulkBuf) (pAddrL2 : UInt64)
    (session : TrustletSession) (d : Daemon) : Daemon :=
  ((d.updateSession session.ref (TrustletSession.addBulkBuff (bulkBuffer cmd pAddrL2))).emit
    (.mcp (.map cmd.sessionId pAddrL2 cmd.offsetPayload.toUInt32 cmd.lenBulkMem))).goto
      (.mapWait conn cmd pAddrL2)

/-- `MobiCoreDevice::mapBulk` up to the wait. -/
def mapBulk (conn : ConnPtr) (cmd : CmdMapBulkBuf) (pAddrL2 : UInt64) (d : Daemon) : Daemon :=
  match d.findSession conn cmd.sessionId with
  | none => d.writeResult conn mcDrvErrDaemonUnknownSession
  | some session => d.sendMap conn cmd pAddrL2 session

/-- The answer to a map command; the secure world may have mapped the buffer. -/
@[simps]
def mapBuffer (cmd : CmdMapBulkBuf) (pAddrL2 : UInt64) (r : McpReply) (d : Daemon) : Daemon :=
  { d with
    trace := d.trace ++ [.replied r]
    mapped := d.mapped ++
      if r.carriedOut mcMcpCmdMap = true then
        [{ sessionId := cmd.sessionId, adr := pAddrL2, ofs := cmd.offsetPayload.toUInt32
           len := cmd.lenBulkMem, secureVirtualAdr := some r.value }]
      else [] }

/-- `mapBulk` and `processMapBulkBuf` from the answer on. -/
def mapBulkReply (conn : ConnPtr) (cmd : CmdMapBulkBuf) (pAddrL2 : UInt64) (r : McpReply)
    (d : Daemon) : Daemon :=
  let d := d.mapBuffer cmd pAddrL2 r
  let mcResult := r.mcResult mcMcpCmdMap
  if mcResult ≠ mcDrvOk then d.writeResult conn mcResult
  else d.respond conn (.mapBulkMem cmd.sessionId r.value)

/-- Send the unmap command. -/
@[simps!]
def sendUnmap (conn : ConnPtr) (cmd : CmdUnmapBulkBuf) (session : TrustletSession)
    (d : Daemon) : Daemon :=
  (d.emit (.mcp (.unmap cmd.sessionId cmd.secureVirtualAdr.toUInt32 cmd.lenBulkMem))).goto
    (.unmapWait conn cmd session.ref)

/-- `MobiCoreDevice::unmapBulk` up to the wait. -/
def unmapBulk (conn : ConnPtr) (cmd : CmdUnmapBulkBuf) (d : Daemon) : Daemon :=
  match d.findSession conn cmd.sessionId with
  | none => d.writeResult conn mcDrvErrDaemonUnknownSession
  | some session =>
      if session.findBulkBuff cmd.handle cmd.lenBulkMem = false then
        d.writeResult conn mcDrvErrDaemonWsmHandleNotFound
      else d.sendUnmap conn cmd session

/-- The answer to an unmap command; the secure world may have unmapped the buffer. -/
@[simps]
def unmapBuffer (cmd : CmdUnmapBulkBuf) (r : McpReply) (d : Daemon) : Daemon :=
  { d with
    trace := d.trace ++ [.replied r]
    mapped := d.mapped.filter fun m =>
      ¬ (r.carriedOut mcMcpCmdUnmap = true ∧ m.sessionId = cmd.sessionId ∧
        m.secureVirtualAdr = some cmd.secureVirtualAdr.toUInt32) }

/-- Remove the buffer and its lock. -/
@[simps!]
def removeBuffer (handle : UInt32) (ref : SessionRef) (d : Daemon) : Daemon :=
  (d.updateSession ref (TrustletSession.removeBulkBuff handle)).emit (.unlockWsmL2 handle)

/-- `unmapBulk` and `processUnmapBulkBuf` from the answer on. -/
def unmapBulkReply (conn : ConnPtr) (cmd : CmdUnmapBulkBuf) (ref : SessionRef) (r : McpReply)
    (d : Daemon) : Daemon :=
  let d := d.unmapBuffer cmd r
  let mcResult := r.mcResult mcMcpCmdUnmap
  if mcResult ≠ mcDrvOk then d.writeResult conn mcResult
  else (d.removeBuffer cmd.handle ref).writeResult conn mcDrvOk

/-! ## Notification connections -/

/-- The search of `MobiCoreDevice::registerTrustletConnection`. -/
def findTrustletConnection (cmd : CmdNqConnect) (d : Daemon) : Option TrustletSession :=
  d.trustletSessions.find? fun session =>
    session.addr = cmd.deviceSessionId.toUInt64 ∧ session.sessionMagic = cmd.sessionMagic ∧
      session.sessionId = cmd.sessionId

/-- `registerTrustletConnection` for the session it has found; a connection that was
registered before is neither closed nor deleted. -/
@[simps!]
def registerTrustletConnection (conn : ConnPtr) (session : TrustletSession) (d : Daemon) :
    Daemon :=
  (d.emit (.registered session.ref conn)).updateSession session.ref
    (TrustletSession.connect conn)

/-- Write the first queued notification of a session to its connection. -/
@[simps!]
def flushFront (session : TrustletSession) (conn : ConnPtr) (front : Notification)
    (d : Daemon) : Daemon :=
  (d.emit (.flushed session.ref session.sessionId conn front)).updateSession session.ref
    TrustletSession.popNotification

/-- One round of `TrustletSession::processQueuedNotifications`. -/
def processQueuedNotifications (ref : SessionRef) (d : Daemon) : Option Daemon :=
  match d.sessionAt ref with
  | none => none
  | some session =>
      match session.notificationConnection, session.notifications with
      | some conn, front :: _ => some (d.flushFront session conn front)
      | _, _ => some (d.goto .idle)

end Daemon

end Exynos8890.MobiCore
