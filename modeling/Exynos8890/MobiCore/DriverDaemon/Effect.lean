import Exynos8890.MobiCore.DriverDaemon.Daemon

/-!
# What a step of the daemon can do

The step function taken apart once: each constructor of `Effect` is one branch of
the code, with the tests that lead to it and the state it leaves.  Invariants of
the daemon are proved by cases over `Effect`.

Main results:

- Theorem `step_effect`: every step is one of these effects.
- Theorem `effect_trace`: the trace only grows.
-/

namespace Exynos8890.MobiCore

namespace Daemon

/-- The load data that the process functions build from a service blob. -/
def loadData (regObj : RegObject) (physAddr : UInt64) : LoadDataOpenSession where
  baseAddr := physAddr
  offs := (regObj.value &&& 0xFFF).toUInt32
  len := regObj.len
  tlHeader := regObj.tlHeader

/-- The command opens a session and reaches `MobiCoreDevice::openSession` with this
load data. -/
inductive Command.Opens : Command → CmdOpenSession → LoadDataOpenSession → WsmAnswers → Prop where
  | openSession {cmd answers regObj physAddr} (hobj : answers.regObj = some regObj)
      (hlen : regObj.len ≠ 0) (hload : answers.load = some physAddr) :
      Command.Opens (.openSession cmd answers) cmd (loadData regObj physAddr) answers.wsm
  | openTrustlet {cmd answers regObj physAddr} (hobj : answers.regObj = some regObj)
      (hlen : regObj.len ≠ 0) (hload : answers.load = some physAddr) :
      Command.Opens (.openTrustlet cmd true answers) cmd (loadData regObj physAddr) answers.wsm

/-- A call of `MobiCoreDevice::closeSession`, by the close command or by the loop of
`close`, and the state in which it starts. -/
inductive CloseCall (d : Daemon) :
    Label → Daemon → ConnPtr → UInt32 → CloseCaller → Prop where
  | command {conn sessionId} (hidle : d.srv = .idle) (hopen : conn ∈ d.opened) :
      CloseCall d (.command conn (.closeSession sessionId)) d conn sessionId
        .processCloseSession
  | loop {conn before erased dropping crash cur session}
      (hpc : d.srv = .closeLoop conn before erased dropping)
      (hlast : before.getLast? = some cur) (hcur : d.sessionAt cur = some session)
      (howner : session.deviceConnection = some conn) :
      CloseCall d (.nextSession crash) (d.stepBack erased) conn session.sessionId
        (.deviceClose cur before.dropLast dropping)

/-- The answer to a close command is due, for the first or for the second time. -/
def ClosePending (d : Daemon) (conn : ConnPtr) (sessionId : UInt32) (ref : SessionRef)
    (caller : CloseCaller) : Prop :=
  d.srv = .closeWait conn sessionId ref caller ∨ d.srv = .closeRetryWait conn sessionId ref caller

/-- The branches of the daemon. -/
inductive Effect (d : Daemon) : Label → Daemon → Prop where
  -- the commands of a client, up to the answer or the wait
  | accepted {conn} (hnew : conn ∉ d.connections) :
      Effect d (.accept conn)
        { d with
          connections := conn :: d.connections
          peerConnections := conn :: d.peerConnections }
  | refused {conn cmd code} (hidle : d.srv = .idle) (hpeer : conn ∈ d.peerConnections)
      (hcode : code ≠ mcDrvOk) (hnotify : ∀ sessionId, cmd ≠ .notify sessionId)
      (hnq : ∀ c, cmd = .nqConnect c → conn ∈ d.opened) :
      Effect d (.command conn cmd) (d.writeResult conn code)
  | deviceOpened {conn deviceId} (hidle : d.srv = .idle) (hpeer : conn ∈ d.peerConnections)
      (hnew : conn ∉ d.opened) :
      Effect d (.command conn (.openDevice deviceId))
        ({ d with opened := conn :: d.opened }.writeResult conn mcDrvOk)
  | deviceClosing {conn} (hidle : d.srv = .idle) (hopen : conn ∈ d.opened) :
      Effect d (.command conn .closeDevice) (d.close conn false)
  | openRefused {conn cmd c load wsm code} (hidle : d.srv = .idle) (hopen : conn ∈ d.opened)
      (hcmd : Command.Opens cmd c load wsm) (hcode : code ≠ mcDrvOk) :
      Effect d (.command conn cmd) (d.openReturn conn code)
  | openLeaked {conn cmd c load wsm tci code} (hidle : d.srv = .idle) (hopen : conn ∈ d.opened)
      (hcmd : Command.Opens cmd c load wsm) (huses : c.handle ≠ 0 ∧ c.len ≠ 0)
      (htci : findTci wsm c.len c.tci.toUInt32 = some tci) (hlock : wsm.lock = true)
      (hlen : c.len > tci.len) (hcode : code ≠ mcDrvOk) :
      Effect d (.command conn cmd) ((d.emit (.lockWsmL2 c.handle)).openReturn conn code)
  | openSent {conn cmd c load wsm frame} (hidle : d.srv = .idle) (hopen : conn ∈ d.opened)
      (hcmd : Command.Opens cmd c load wsm)
      (hframe : frame.conn = conn ∧ frame.tciHandle = c.handle ∧ frame.tciLen = c.len)
      (huses : ¬ frame.usesTci) (hwsm : frame.tci.wsmType = wsmInvalid) :
      Effect d (.command conn cmd) (d.sendOpen frame)
  | openSentTci {conn cmd c load wsm frame} (hidle : d.srv = .idle) (hopen : conn ∈ d.opened)
      (hcmd : Command.Opens cmd c load wsm)
      (hframe : frame.conn = conn ∧ frame.tciHandle = c.handle ∧ frame.tciLen = c.len)
      (huses : frame.usesTci) (hwsm : frame.tci.wsmType ≠ wsmInvalid) :
      Effect d (.command conn cmd) ((d.emit (.lockWsmL2 frame.tciHandle)).sendOpen frame)
  | closeRefused {l d₀ conn sessionId caller} (hcall : CloseCall d l d₀ conn sessionId caller)
      (hnone : d.findSession conn sessionId = none) :
      Effect d l (d₀.closeReturn conn sessionId caller mcDrvErrDaemonUnknownSession)
  | closeSent {l d₀ conn sessionId caller session}
      (hcall : CloseCall d l d₀ conn sessionId caller)
      (hsome : d.findSession conn sessionId = some session) (hgp : session.gpLevel ≠ 1) :
      Effect d l (d₀.sendSessionCloseCmd sessionId
        (.closeWait conn sessionId session.ref caller))
  | closeSentGp {l d₀ conn sessionId caller session}
      (hcall : CloseCall d l d₀ conn sessionId caller)
      (hsome : d.findSession conn sessionId = some session) (hgp : session.gpLevel = 1)
      (hmutex : d.irq.holdsMutex = false) :
      Effect d l ((d₀.disconnectClient session).sendSessionCloseCmd sessionId
        (.closeWait conn sessionId session.ref caller))
  | nqRefused {conn cmd code} (hidle : d.srv = .idle) (hpeer : conn ∈ d.peerConnections)
      (hclosed : conn ∉ d.opened) (hcode : code ≠ mcDrvOk) :
      Effect d (.command conn (.nqConnect cmd))
        ({ d with peerConnections := d.peerConnections.erase conn }.writeResult conn code)
  | nqConnected {conn cmd session} (hidle : d.srv = .idle) (hpeer : conn ∈ d.peerConnections)
      (hclosed : conn ∉ d.opened) (hfind : d.findTrustletConnection cmd = some session) :
      Effect d (.command conn (.nqConnect cmd))
        ((({ d with
            peerConnections := d.peerConnections.erase conn }).registerTrustletConnection conn
              session).goto (.nqRegistered conn session.ref))
  | notifyIgnored {conn sessionId} (hidle : d.srv = .idle) (hpeer : conn ∈ d.peerConnections) :
      Effect d (.command conn (.notify sessionId)) d
  | notifySent {conn sessionId session} (hidle : d.srv = .idle) (hopen : conn ∈ d.opened)
      (hsome : d.findSession conn sessionId = some session) :
      Effect d (.command conn (.notify sessionId)) (d.emit (.notified sessionId))
  | mapLeaked {conn cmd wsm code} (hidle : d.srv = .idle) (hopen : conn ∈ d.opened)
      (hlock : wsm.lock = true) (hwhy : wsm.l2 = 0 ∨ d.findSession conn cmd.sessionId = none)
      (hcode : code ≠ mcDrvOk) :
      Effect d (.command conn (.mapBulkBuf cmd wsm))
        ((d.emit (.lockWsmL2 cmd.handle)).writeResult conn code)
  | mapSent {conn cmd wsm session} (hidle : d.srv = .idle) (hopen : conn ∈ d.opened)
      (hlock : wsm.lock = true) (hl2 : wsm.l2 ≠ 0)
      (hsome : d.findSession conn cmd.sessionId = some session) :
      Effect d (.command conn (.mapBulkBuf cmd wsm))
        ((d.emit (.lockWsmL2 cmd.handle)).sendMap conn cmd wsm.l2 session)
  | unmapSent {conn cmd session} (hidle : d.srv = .idle) (hopen : conn ∈ d.opened)
      (hsome : d.findSession conn cmd.sessionId = some session)
      (hfind : session.findBulkBuff cmd.handle cmd.lenBulkMem = true) :
      Effect d (.command conn (.unmapBulkBuf cmd)) (d.sendUnmap conn cmd session)
  -- the other starters
  | dropped {conn} (hidle : d.srv = .idle) (hpeer : conn ∈ d.peerConnections)
      (hclosed : conn ∉ d.opened) :
      Effect d (.drop conn) (d.forgetConnection conn)
  | dropping {conn} (hidle : d.srv = .idle) (hpeer : conn ∈ d.peerConnections)
      (hopen : conn ∈ d.opened) :
      Effect d (.drop conn) (d.close conn true)
  | taExitWoken (hidle : d.srv = .idle) (hsignal : d.taExitNotification ≠ 0) :
      Effect d .taExit
        ({ d with taExitNotification := d.taExitNotification - 1 }.goto (.taExit d.refs))
  -- the answers of the secure world
  | openFailed {frame r host code} (hpc : d.srv = .openWait frame)
      (hret : r.mcResult mcMcpCmdOpenSession = code) (hcode : code ≠ mcDrvOk) :
      Effect d (.reply r host) (((d.mapTci frame r).unlockTci frame).openReturn frame.conn code)
  | openSucceeded {frame r host} (hpc : d.srv = .openWait frame)
      (hret : r.mcResult mcMcpCmdOpenSession = mcDrvOk)
      (haddr : ∀ s ∈ d.trustletSessions, s.addr ≠ host.addr) :
      Effect d (.reply r host)
        (((d.mapTci frame r).pushSession frame r.value
          (d.newSession frame r.value host.addr host.magic)).goto
            (.openDrain frame.conn d.nextRef
              (.openSession r.value host.addr.toUInt32 host.magic)))
  | closeRetried {conn sessionId ref caller session r host}
      (hpc : d.srv = .closeWait conn sessionId ref caller)
      (hat : d.sessionAt ref = some session) (hgp : session.gpLevel = 1)
      (hret : r.closeResult = makeMcDrvMcpError mcMcpRetErrCloseTaskFailed)
      (hdead : session.sessionState = .taDead) :
      Effect d (.reply r host) ((d.unmapClosed r sessionId).sendSessionCloseCmd sessionId
        (.closeRetryWait conn sessionId ref caller))
  | closeDeferred {conn sessionId ref caller session r host}
      (hpc : d.srv = .closeWait conn sessionId ref caller)
      (hat : d.sessionAt ref = some session) (hgp : session.gpLevel = 1)
      (hret : r.closeResult = makeMcDrvMcpError mcMcpRetErrCloseTaskFailed)
      (hdead : session.sessionState ≠ .taDead) :
      Effect d (.reply r host) ((d.unmapClosed r sessionId).closeReturn conn sessionId caller
        mcMcpRetOk)
  | closeFailed {conn sessionId ref caller session r host}
      (hpc : d.ClosePending conn sessionId ref caller)
      (hat : d.sessionAt ref = some session) (hret : r.closeResult ≠ mcDrvOk) :
      Effect d (.reply r host) ((d.unmapClosed r sessionId).closeReturn conn sessionId caller
        (makeMcDrvMcpError r.closeResult))
  | closeAborted {conn sessionId ref caller r host}
      (hpc : d.srv = .closeRetryWait conn sessionId ref caller) :
      Effect d (.reply r host) ((d.unmapClosed r sessionId).goto .halted)
  | closeDone {conn sessionId ref caller session r host}
      (hpc : d.ClosePending conn sessionId ref caller)
      (hat : d.sessionAt ref = some session) (hret : r.closeResult = mcDrvOk) :
      Effect d (.reply r host)
        ((((d.unmapClosed r sessionId).unlockBuffers session).deleteSession session).closeReturn
          conn sessionId caller mcMcpRetOk)
  | mapFailed {conn cmd pAddrL2 r host code} (hpc : d.srv = .mapWait conn cmd pAddrL2)
      (hret : r.mcResult mcMcpCmdMap = code) (hcode : code ≠ mcDrvOk) :
      Effect d (.reply r host) ((d.mapBuffer cmd pAddrL2 r).writeResult conn code)
  | mapSucceeded {conn cmd pAddrL2 r host} (hpc : d.srv = .mapWait conn cmd pAddrL2)
      (hret : r.mcResult mcMcpCmdMap = mcDrvOk) :
      Effect d (.reply r host)
        ((d.mapBuffer cmd pAddrL2 r).respond conn (.mapBulkMem cmd.sessionId r.value))
  | unmapFailed {conn cmd ref r host code} (hpc : d.srv = .unmapWait conn cmd ref)
      (hcode : code ≠ mcDrvOk) :
      Effect d (.reply r host) ((d.unmapBuffer cmd r).writeResult conn code)
  | unmapSucceeded {conn cmd ref r host} (hpc : d.srv = .unmapWait conn cmd ref) :
      Effect d (.reply r host)
        (((d.unmapBuffer cmd r).removeBuffer cmd.handle ref).writeResult conn mcDrvOk)
  | reaped {ref rest ts r host} (hpc : d.srv = .taExitWait ref rest)
      (hat : d.sessionAt ref = some ts) (hret : r.closeResult = mcDrvOk) :
      Effect d (.reply r host)
        (((d.unmapClosed r ts.sessionId).deleteSession ts).goto (.taExit rest))
  | reapFailed {ref rest ts r host} (hpc : d.srv = .taExitWait ref rest)
      (hat : d.sessionAt ref = some ts) (hret : r.closeResult ≠ mcDrvOk) :
      Effect d (.reply r host) ((d.unmapClosed r ts.sessionId).goto (.taExit rest))
  -- the loops and what follows them
  | drainDone {conn ref rsp} (hpc : d.srv = .openDrain conn ref rsp)
      (hempty : d.notifications = []) :
      Effect d .drain (d.goto (.openReturn conn rsp))
  | drainedFront {conn ref rsp front rest} (hpc : d.srv = .openDrain conn ref rsp)
      (hqueue : d.notifications = front :: rest) :
      Effect d .drain (d.drainFront ref front rest)
  | unregisterFailed {conn rsp} (hpc : d.srv = .openReturn conn rsp) :
      Effect d (.unregister false)
        ((d.emit (.unregisterWsmL2 false)).writeResult conn mcDrvErrDaemonKmodError)
  | unregistered {conn rsp} (hpc : d.srv = .openReturn conn rsp) :
      Effect d (.unregister true) ((d.emit (.unregisterWsmL2 true)).respond conn rsp)
  | nqAnswered {conn ref} (hpc : d.srv = .nqRegistered conn ref) :
      Effect d .respond (d.nqConnectRespond conn ref)
  | flushDone {ref session} (hpc : d.srv = .nqDrain ref) (hat : d.sessionAt ref = some session)
      (hwhy : session.notificationConnection = none ∨ session.notifications = []) :
      Effect d .drain (d.goto .idle)
  | flushedFront {ref session conn front rest} (hpc : d.srv = .nqDrain ref)
      (hat : d.sessionAt ref = some session)
      (hconn : session.notificationConnection = some conn)
      (hqueue : session.notifications = front :: rest) :
      Effect d .drain (d.flushFront session conn front)
  | loopCrashed {conn before dropping} (hpc : d.srv = .closeLoop conn before true dropping) :
      Effect d (.nextSession true) (d.goto .halted)
  | loopRestarted {conn dropping crash} (hpc : d.srv = .closeLoop conn [] true dropping) :
      Effect d (.nextSession crash)
        ((d.stepBack true).goto (.closeLoop conn d.refs false dropping))
  | loopFinished {conn erased dropping crash} (hpc : d.srv = .closeLoop conn [] erased dropping)
      (hwhy : erased = false ∨ d.trustletSessions = []) :
      Effect d (.nextSession crash) ((d.stepBack erased).closeFinish conn dropping)
  | loopSkipped {conn before erased dropping crash cur session}
      (hpc : d.srv = .closeLoop conn before erased dropping)
      (hlast : before.getLast? = some cur) (hcur : d.sessionAt cur = some session)
      (hother : session.deviceConnection ≠ some conn) :
      Effect d (.nextSession crash)
        ((d.stepBack erased).goto (.closeLoop conn before.dropLast false dropping))
  | taExitDone {crash} (hpc : d.srv = .taExit []) : Effect d (.nextSession crash) (d.goto .idle)
  | taExitSkipped {crash ref rest ts} (hpc : d.srv = .taExit (ref :: rest))
      (hat : d.sessionAt ref = some ts) (halive : ts.sessionState ≠ .taDead) :
      Effect d (.nextSession crash) (d.goto (.taExit rest))
  | taExitSent {crash ref rest ts} (hpc : d.srv = .taExit (ref :: rest))
      (hat : d.sessionAt ref = some ts) (hdead : ts.sessionState = .taDead) :
      Effect d (.nextSession crash)
        (d.sendSessionCloseCmd ts.sessionId (.taExitWait ref rest))
  -- the IRQ thread
  | receivedUnknown {n} (hirq : d.irq = .idle) (hnone : d.getTrustletSession n.sessionId = none) :
      Effect d (.irqReceive n) { d.emit (.received n) with irq := .unknown n }
  | receivedFound {n ts} (hirq : d.irq = .idle)
      (hsome : d.getTrustletSession n.sessionId = some ts) :
      Effect d (.irqReceive n)
        { d.emit (.received n) with irq := .found n { ref := ts.ref, addr := ts.addr } }
  | parked {n} (hirq : d.irq = .unknown n) :
      Effect d .irqPark
        { d.emit (.parked n ((d.getTrustletSession n.sessionId).map fun s => s.ref)) with
          notifications := d.notifications ++ [n]
          irq := .idle }
  | lockLost {n ts} (hirq : d.irq = .found n ts) (hnone : d.resolve ts = none) :
      Effect d .irqLock { d.access n ts with irq := .idle }
  | locked {n ts session} (hirq : d.irq = .found n ts) (hsome : d.resolve ts = some session) :
      Effect d .irqLock
        { d.access n ts with irq := .locked n ts session.notificationConnection }
  | deliverLost {n ts connection} (hirq : d.irq = .locked n ts connection)
      (hnone : d.resolve ts = none) :
      Effect d .irqDeliver { d.access n ts with irq := .idle }
  | stored {n ts session} (hirq : d.irq = .locked n ts none)
      (hsome : d.resolve ts = some session) :
      Effect d .irqDeliver ((d.access n ts).storeNotification n session)
  | forwarded {n ts conn session} (hirq : d.irq = .locked n ts (some conn))
      (hsome : d.resolve ts = some session) :
      Effect d .irqDeliver ((d.access n ts).forwardNotification n session conn)

/-! ## The commands -/

theorem findTci_wsmType {wsm : WsmAnswers} {tciLen tciOffset : UInt32} {tci : TciBuffer}
    (h : findTci wsm tciLen tciOffset = some tci) : tci.wsmType ≠ wsmInvalid := by
  unfold findTci at h
  split at h
  · cases h
    exact (by decide : wsmContiguous ≠ wsmInvalid)
  · split at h
    · cases h
      exact (by decide : wsmL2 ≠ wsmInvalid)
    · cases h

theorem openSession_effect {d : Daemon} {conn : ConnPtr} {cmd : Command} {c : CmdOpenSession}
    {load : LoadDataOpenSession} {wsm : WsmAnswers} (hidle : d.srv = .idle)
    (hopen : conn ∈ d.opened) (hcmd : Command.Opens cmd c load wsm) :
    Effect d (.command conn cmd)
      (d.openSession conn load wsm c.handle c.len c.tci.toUInt32) := by
  unfold openSession
  by_cases huses : c.handle ≠ 0 ∧ c.len ≠ 0
  · rw [if_pos huses]
    cases htci : findTci wsm c.len c.tci.toUInt32 with
    | none => exact .openRefused hidle hopen hcmd (by decide)
    | some tci =>
        by_cases hlock : wsm.lock = false
        · simp only [hlock, if_true]
          exact .openRefused hidle hopen hcmd (by decide)
        · have hlock' : wsm.lock = true := by simpa using hlock
          simp only [hlock, openSessionTci]
          by_cases hlen : c.len > tci.len
          · rw [if_pos (Or.inr hlen)]
            exact .openLeaked hidle hopen hcmd huses htci hlock' hlen (by decide)
          · have hok : ¬ ((c.handle ≠ 0 ∧ c.len = 0) ∨ c.len > tci.len) := by
              rintro (⟨-, hzero⟩ | hgt)
              · exact huses.2 hzero
              · exact hlen hgt
            rw [if_neg hok]
            refine Effect.openSentTci hidle hopen hcmd ?_ ?_ ?_
            · exact ⟨rfl, rfl, rfl⟩
            · exact huses
            · exact findTci_wsmType htci
  · rw [if_neg huses, openSessionTci]
    split
    · exact .openRefused hidle hopen hcmd (by decide)
    · exact .openSent hidle hopen hcmd ⟨rfl, rfl, rfl⟩ huses rfl

theorem openServiceBlob_effect {d : Daemon} {conn : ConnPtr} {cmd : Command}
    {c : CmdOpenSession} {answers : OpenAnswers} (hidle : d.srv = .idle)
    (hpeer : conn ∈ d.peerConnections) (hopen : conn ∈ d.opened)
    (hcmd : ∀ regObj physAddr, answers.regObj = some regObj → regObj.len ≠ 0 →
      answers.load = some physAddr → Command.Opens cmd c (loadData regObj physAddr) answers.wsm)
    (hnotify : ∀ sessionId, cmd ≠ .notify sessionId) :
    Effect d (.command conn cmd) (d.openServiceBlob conn c answers) := by
  unfold openServiceBlob
  cases hobj : answers.regObj with
  | none => exact .refused hidle hpeer (by decide) hnotify fun _ _ => hopen
  | some regObj =>
      by_cases hlen : regObj.len = 0
      · simp only [hlen, if_true]
        exact .refused hidle hpeer (by decide) hnotify fun _ _ => hopen
      · simp only [hlen, if_false]
        cases hload : answers.load with
        | none => exact .refused hidle hpeer (by decide) hnotify fun _ _ => hopen
        | some physAddr =>
            exact openSession_effect hidle hopen (hcmd regObj physAddr hobj hlen hload)

theorem closeSession_effect {d d₀ t : Daemon} {l : Label} {conn : ConnPtr} {sessionId : UInt32}
    {caller : CloseCaller} (hcall : CloseCall d l d₀ conn sessionId caller)
    (hsame : d₀.findSession conn sessionId = d.findSession conn sessionId)
    (hirq : d₀.irq = d.irq) (h : d₀.closeSession conn sessionId caller = some t) :
    Effect d l t := by
  unfold closeSession at h
  rw [hsame, hirq] at h
  cases hfind : d.findSession conn sessionId with
  | none =>
      simp only [hfind, Option.some.injEq] at h
      cases h
      exact .closeRefused hcall hfind
  | some session =>
      simp only [hfind] at h
      split at h
      · rename_i hgp
        split at h
        · cases h
        · rename_i hmutex
          cases h
          exact .closeSentGp hcall hfind hgp (by simpa using hmutex)
      · rename_i hgp
        cases h
        exact .closeSent hcall hfind hgp

theorem nqConnect_effect {d : Daemon} {conn : ConnPtr} {cmd : CmdNqConnect}
    (hidle : d.srv = .idle) (hpeer : conn ∈ d.peerConnections) :
    Effect d (.command conn (.nqConnect cmd)) (d.processNqConnect conn cmd) := by
  unfold processNqConnect
  by_cases hopen : conn ∈ d.opened
  · rw [if_pos hopen]
    exact .refused hidle hpeer (by decide) (by simp) fun _ _ => hopen
  · rw [if_neg hopen]
    by_cases hdevice : hasDevice cmd.deviceId = false
    · simp only [hdevice, if_true]
      exact .nqRefused hidle hpeer hopen (by decide)
    · simp only [hdevice]
      cases hfind : d.findTrustletConnection cmd with
      | none =>
          have hfind' : findTrustletConnection cmd
              { d with peerConnections := d.peerConnections.erase conn } = none := hfind
          simp only [hfind']
          exact .nqRefused hidle hpeer hopen (by decide)
      | some session =>
          have hfind' : findTrustletConnection cmd
              { d with peerConnections := d.peerConnections.erase conn } = some session := hfind
          simp only [hfind']
          exact .nqConnected hidle hpeer hopen hfind

theorem notify_effect {d : Daemon} {conn : ConnPtr} {sessionId : UInt32}
    (hidle : d.srv = .idle) (hpeer : conn ∈ d.peerConnections) :
    Effect d (.command conn (.notify sessionId)) (d.processNotify conn sessionId) := by
  unfold processNotify notify
  by_cases hopen : conn ∈ d.opened
  · rw [if_neg (not_not.mpr hopen)]
    cases hfind : d.findSession conn sessionId with
    | none => exact .notifyIgnored hidle hpeer
    | some session =>
        have hsent : d.notifySession sessionId = d.emit (.notified sessionId) := by
          unfold notifySession
          unfold findSession at hfind
          cases hget : d.getTrustletSession sessionId with
          | none => simp [hget] at hfind
          | some s => simp
        simp only [hsent]
        exact .notifySent hidle hopen hfind
  · rw [if_pos hopen]
    exact .notifyIgnored hidle hpeer

theorem mapBulkBuf_effect {d : Daemon} {conn : ConnPtr} {cmd : CmdMapBulkBuf}
    {wsm : WsmAnswers} (hidle : d.srv = .idle) (hpeer : conn ∈ d.peerConnections) :
    Effect d (.command conn (.mapBulkBuf cmd wsm)) (d.processMapBulkBuf conn cmd wsm) := by
  unfold processMapBulkBuf
  by_cases hopen : conn ∈ d.opened
  · rw [if_neg (not_not.mpr hopen)]
    by_cases hlock : wsm.lock = false
    · rw [if_pos hlock]
      exact .refused hidle hpeer (by decide) (by simp) (by simp)
    · have hlock' : wsm.lock = true := by simpa using hlock
      rw [if_neg hlock]
      by_cases hl2 : wsm.l2 = 0
      · simp only [hl2, if_true]
        exact .mapLeaked hidle hopen hlock' (Or.inl hl2) (by decide)
      · simp only [hl2, if_false, mapBulk]
        cases hfind : d.findSession conn cmd.sessionId with
        | none =>
            have hfind' : (d.emit (.lockWsmL2 cmd.handle)).findSession conn cmd.sessionId = none :=
              hfind
            simp only [hfind']
            exact .mapLeaked hidle hopen hlock' (Or.inr hfind) (by decide)
        | some session =>
            have hfind' : (d.emit (.lockWsmL2 cmd.handle)).findSession conn cmd.sessionId =
                some session := hfind
            simp only [hfind']
            exact .mapSent hidle hopen hlock' hl2 hfind
  · rw [if_pos hopen]
    exact .refused hidle hpeer (by decide) (by simp) (by simp)

theorem unmapBulkBuf_effect {d : Daemon} {conn : ConnPtr} {cmd : CmdUnmapBulkBuf}
    (hidle : d.srv = .idle) (hpeer : conn ∈ d.peerConnections) :
    Effect d (.command conn (.unmapBulkBuf cmd)) (d.processUnmapBulkBuf conn cmd) := by
  unfold processUnmapBulkBuf unmapBulk
  by_cases hopen : conn ∈ d.opened
  · rw [if_neg (not_not.mpr hopen)]
    cases hfind : d.findSession conn cmd.sessionId with
    | none => exact .refused hidle hpeer (by decide) (by simp) (by simp)
    | some session =>
        by_cases hbuff : session.findBulkBuff cmd.handle cmd.lenBulkMem = false
        · simp only [hbuff, if_true]
          exact .refused hidle hpeer (by decide) (by simp) (by simp)
        · simp only [hbuff]
          exact .unmapSent hidle hopen hfind (by simpa using hbuff)
  · rw [if_pos hopen]
    exact .refused hidle hpeer (by decide) (by simp) (by simp)

theorem process_effect {d t : Daemon} {conn : ConnPtr} {cmd : Command} (hidle : d.srv = .idle)
    (hpeer : conn ∈ d.peerConnections) (h : d.process conn cmd = some t) :
    Effect d (.command conn cmd) t := by
  cases cmd with
  | openDevice deviceId =>
      cases h
      unfold processOpenDevice
      split
      · exact .refused hidle hpeer (by decide) (by simp) (by simp)
      · rename_i hnew
        split
        · exact .refused hidle hpeer (by decide) (by simp) (by simp)
        · exact .deviceOpened hidle hpeer hnew
  | closeDevice =>
      cases h
      unfold processCloseDevice
      split
      · exact .refused hidle hpeer (by decide) (by simp) (by simp)
      · rename_i hopen
        exact .deviceClosing hidle (not_not.mp hopen)
  | openSession cmd answers =>
      cases h
      unfold processOpenSession
      split
      · exact .refused hidle hpeer (by decide) (by simp) (by simp)
      · rename_i hopen
        exact openServiceBlob_effect hidle hpeer (not_not.mp hopen)
          (fun _ _ hobj hlen hload => .openSession hobj hlen hload) (by simp)
  | openTrustlet cmd received answers =>
      cases h
      unfold processOpenTrustlet
      split
      · exact .refused hidle hpeer (by decide) (by simp) (by simp)
      · rename_i hopen
        split
        · exact .refused hidle hpeer (by decide) (by simp) (by simp)
        · rename_i hreceived
          obtain rfl : received = true := by simpa using hreceived
          exact openServiceBlob_effect hidle hpeer (not_not.mp hopen)
            (fun _ _ hobj hlen hload => .openTrustlet hobj hlen hload) (by simp)
  | closeSession sessionId =>
      simp only [process, processCloseSession] at h
      split at h
      · cases h
        exact .refused hidle hpeer (by decide) (by simp) (by simp)
      · rename_i hopen
        exact closeSession_effect (.command hidle (not_not.mp hopen)) rfl rfl h
  | nqConnect cmd =>
      cases h
      exact nqConnect_effect hidle hpeer
  | notify sessionId =>
      cases h
      exact notify_effect hidle hpeer
  | mapBulkBuf cmd wsm =>
      cases h
      exact mapBulkBuf_effect hidle hpeer
  | unmapBulkBuf cmd =>
      cases h
      exact unmapBulkBuf_effect hidle hpeer

/-! ## The answers of the secure world -/

theorem openSessionReply_effect {d t : Daemon} {frame : OpenFrame} {r : McpReply}
    {host : HostChoice} (hpc : d.srv = .openWait frame)
    (h : d.openSessionReply frame r host.addr host.magic = some t) :
    Effect d (.reply r host) t := by
  unfold openSessionReply at h
  by_cases hret : r.mcResult mcMcpCmdOpenSession = mcDrvOk
  · simp only [hret, ne_eq, not_true_eq_false, if_false] at h
    split at h
    · cases h
    · rename_i haddr
      cases h
      refine .openSucceeded hpc hret ?_
      intro s hs heq
      exact haddr (Or.inr ⟨s, hs, heq⟩)
  · simp only [ne_eq, hret, not_false_eq_true, if_true, Option.some.injEq] at h
    cases h
    exact .openFailed hpc rfl hret

theorem closeSessionFinish_effect {d : Daemon} {conn : ConnPtr} {sessionId : UInt32}
    {ref : SessionRef} {caller : CloseCaller} {session : TrustletSession} {r : McpReply}
    {host : HostChoice} (hpc : d.ClosePending conn sessionId ref caller)
    (hat : d.sessionAt ref = some session) :
    Effect d (.reply r host)
      ((d.unmapClosed r sessionId).closeSessionFinish conn sessionId session caller
        r.closeResult) := by
  unfold closeSessionFinish
  by_cases hret : r.closeResult = mcMcpRetOk
  · rw [if_neg (not_not.mpr hret)]
    exact .closeDone hpc hat hret
  · rw [if_pos hret]
    exact .closeFailed hpc hat hret

theorem closeSessionReply_effect {d t : Daemon} {conn : ConnPtr} {sessionId : UInt32}
    {ref : SessionRef} {caller : CloseCaller} {r : McpReply} {host : HostChoice}
    (hpc : d.srv = .closeWait conn sessionId ref caller)
    (h : d.closeSessionReply conn sessionId ref caller r = some t) :
    Effect d (.reply r host) t := by
  unfold closeSessionReply at h
  have hsame : (d.unmapClosed r sessionId).sessionAt ref = d.sessionAt ref := rfl
  simp only [hsame] at h
  cases hat : d.sessionAt ref with
  | none =>
      simp only [hat] at h
      cases h
  | some session =>
      simp only [hat] at h
      split at h
      · rename_i htask
        split at h
        · rename_i hdead
          cases h
          exact .closeRetried hpc hat htask.1 htask.2 hdead
        · rename_i hdead
          cases h
          exact .closeDeferred hpc hat htask.1 htask.2 hdead
      · cases h
        exact closeSessionFinish_effect (Or.inl hpc) hat

theorem closeSessionRetryReply_effect {d t : Daemon} {conn : ConnPtr} {sessionId : UInt32}
    {ref : SessionRef} {caller : CloseCaller} {r : McpReply} {host : HostChoice}
    (hpc : d.srv = .closeRetryWait conn sessionId ref caller)
    (h : d.closeSessionRetryReply conn sessionId ref caller r host.ndebug = some t) :
    Effect d (.reply r host) t := by
  unfold closeSessionRetryReply at h
  have hsame : (d.unmapClosed r sessionId).sessionAt ref = d.sessionAt ref := rfl
  simp only [hsame] at h
  cases hat : d.sessionAt ref with
  | none =>
      simp only [hat] at h
      cases h
  | some session =>
      simp only [hat] at h
      split at h
      · cases h
        exact .closeAborted hpc
      · cases h
        exact closeSessionFinish_effect (Or.inr hpc) hat

theorem taExitReply_effect {d t : Daemon} {ref : SessionRef} {rest : List SessionRef}
    {r : McpReply} {host : HostChoice} (hpc : d.srv = .taExitWait ref rest)
    (h : d.taExitReply ref rest r = some t) : Effect d (.reply r host) t := by
  unfold taExitReply at h
  cases hat : d.sessionAt ref with
  | none =>
      simp only [hat] at h
      cases h
  | some ts =>
      simp only [hat] at h
      split at h
      · rename_i hret
        cases h
        exact .reaped hpc hat hret
      · rename_i hret
        cases h
        exact .reapFailed hpc hat hret

theorem reply_effect {d t : Daemon} {r : McpReply} {host : HostChoice}
    (h : d.reply r host = some t) : Effect d (.reply r host) t := by
  unfold reply at h
  split at h
  · rename_i frame hpc
    exact openSessionReply_effect hpc h
  · rename_i hpc
    exact closeSessionReply_effect hpc h
  · rename_i hpc
    exact closeSessionRetryReply_effect hpc h
  · rename_i conn cmd pAddrL2 hpc
    cases h
    unfold mapBulkReply
    by_cases hret : r.mcResult mcMcpCmdMap = mcDrvOk
    · simp only [hret, ne_eq, not_true_eq_false, if_false]
      exact .mapSucceeded hpc hret
    · simp only [ne_eq, hret, not_false_eq_true, if_true]
      exact .mapFailed hpc rfl hret
  · rename_i conn cmd ref hpc
    cases h
    unfold unmapBulkReply
    by_cases hret : r.mcResult mcMcpCmdUnmap = mcDrvOk
    · simp only [hret, ne_eq, not_true_eq_false, if_false]
      exact .unmapSucceeded hpc
    · simp only [ne_eq, hret, not_false_eq_true, if_true]
      exact .unmapFailed hpc hret
  · rename_i ref rest hpc
    exact taExitReply_effect hpc h
  · cases h

/-! ## The loops -/

theorem drain_effect {d t : Daemon} (h : d.drain = some t) : Effect d .drain t := by
  unfold drain at h
  split at h
  · rename_i conn ref rsp hpc
    cases h
    unfold openDrainStep
    cases hqueue : d.notifications with
    | nil => exact .drainDone hpc hqueue
    | cons front rest => exact .drainedFront hpc hqueue
  · rename_i ref hpc
    unfold processQueuedNotifications at h
    cases hat : d.sessionAt ref with
    | none =>
        simp only [hat] at h
        cases h
    | some session =>
        simp only [hat] at h
        cases hconn : session.notificationConnection with
        | none =>
            simp only [hconn] at h
            cases h
            exact .flushDone hpc hat (Or.inl hconn)
        | some conn =>
            cases hqueue : session.notifications with
            | nil =>
                simp only [hconn, hqueue] at h
                cases h
                exact .flushDone hpc hat (Or.inr hqueue)
            | cons front rest =>
                simp only [hconn, hqueue] at h
                cases h
                exact .flushedFront hpc hat hconn hqueue
  · cases h

theorem closeLoopStep_effect {d t : Daemon} {conn : ConnPtr} {before : List SessionRef}
    {erased dropping crash : Bool} (hpc : d.srv = .closeLoop conn before erased dropping)
    (h : d.closeLoopStep conn before erased dropping crash = some t) :
    Effect d (.nextSession crash) t := by
  unfold closeLoopStep at h
  split at h
  · rename_i hcrash
    obtain ⟨rfl, rfl⟩ := hcrash
    cases h
    exact .loopCrashed hpc
  · cases hlast : before.getLast? with
    | none =>
        obtain rfl : before = [] := List.getLast?_eq_none_iff.mp hlast
        simp only [hlast] at h
        split at h
        · rename_i hagain
          obtain ⟨rfl, -⟩ := hagain
          cases h
          exact .loopRestarted hpc
        · rename_i hend
          cases h
          refine .loopFinished hpc ?_
          by_cases herased : erased = false
          · exact Or.inl herased
          · right
            by_contra hne
            exact hend ⟨by simpa using herased, hne⟩
    | some cur =>
        have hsame : (d.stepBack erased).sessionAt cur = d.sessionAt cur := rfl
        simp only [hlast, hsame] at h
        cases hcur : d.sessionAt cur with
        | none =>
            simp only [hcur] at h
            cases h
        | some session =>
            simp only [hcur] at h
            split at h
            · rename_i howner
              exact closeSession_effect (.loop hpc hlast hcur howner) rfl rfl h
            · rename_i hother
              cases h
              exact .loopSkipped hpc hlast hcur hother

theorem nextSession_effect {d t : Daemon} {crash : Bool} (h : d.nextSession crash = some t) :
    Effect d (.nextSession crash) t := by
  unfold nextSession at h
  split at h
  · rename_i conn before erased dropping hpc
    exact closeLoopStep_effect hpc h
  · rename_i rest hpc
    unfold taExitStep at h
    cases rest with
    | nil =>
        cases h
        exact .taExitDone hpc
    | cons ref rest =>
        cases hat : d.sessionAt ref with
        | none =>
            simp only [hat] at h
            cases h
        | some ts =>
            simp only [hat] at h
            split at h
            · rename_i hdead
              cases h
              exact .taExitSent hpc hat hdead
            · rename_i halive
              cases h
              exact .taExitSkipped hpc hat halive
  · cases h

/-! ## The IRQ thread -/

theorem irqReceive_effect {d t : Daemon} {n : Notification} (h : d.irqReceive n = some t) :
    Effect d (.irqReceive n) t := by
  unfold irqReceive at h
  split at h
  · cases h
  · rename_i hidle
    have hirq : d.irq = .idle := by
      by_contra hne
      exact hidle (Or.inl hne)
    have hsame : (d.emit (.received n)).getTrustletSession n.sessionId =
        d.getTrustletSession n.sessionId := rfl
    simp only [hsame] at h
    cases hget : d.getTrustletSession n.sessionId with
    | none =>
        simp only [hget] at h
        cases h
        exact .receivedUnknown hirq hget
    | some ts =>
        simp only [hget] at h
        cases h
        exact .receivedFound hirq hget

theorem irqLock_effect {d t : Daemon} (h : d.irqLock = some t) : Effect d .irqLock t := by
  unfold irqLock at h
  split at h
  · rename_i n ts hirq
    cases hres : d.resolve ts with
    | none =>
        simp only [hres] at h
        cases h
        exact .lockLost hirq hres
    | some session =>
        simp only [hres] at h
        cases h
        exact .locked hirq hres
  · cases h

theorem irqDeliver_effect {d t : Daemon} (h : d.irqDeliver = some t) :
    Effect d .irqDeliver t := by
  unfold irqDeliver at h
  split at h
  · rename_i n ts connection hirq
    cases hres : d.resolve ts with
    | none =>
        simp only [hres] at h
        cases h
        exact .deliverLost hirq hres
    | some session =>
        simp only [hres] at h
        cases connection with
        | none =>
            cases h
            exact .stored hirq hres
        | some conn =>
            cases h
            exact .forwarded hirq hres
  · cases h

/-! ## The step -/

theorem step_effect {d t : Daemon} {l : Label} (h : system.step d l = some t) :
    Effect d l t := by
  cases l with
  | accept conn =>
      simp only [system, step, accept] at h
      split at h
      · cases h
      · rename_i hnew
        cases h
        exact .accepted hnew
  | command conn cmd =>
      simp only [system, step] at h
      split at h
      · rename_i hready
        exact process_effect hready.1 hready.2 h
      · cases h
  | drop conn =>
      simp only [system, step, dropConnection] at h
      split at h
      · rename_i hready
        cases h
        split
        · rename_i hopen
          exact .dropping hready.1 hready.2 hopen
        · rename_i hclosed
          exact .dropped hready.1 hready.2 hclosed
      · cases h
  | taExit =>
      simp only [system, step, handleTaExit] at h
      split at h
      · rename_i hidle
        split at h
        · cases h
        · rename_i hsignal
          cases h
          exact .taExitWoken hidle hsignal
      · cases h
  | reply r host => exact reply_effect h
  | drain => exact drain_effect h
  | unregister ok =>
      simp only [system, step] at h
      split at h
      · rename_i conn rsp hpc
        cases h
        cases ok with
        | false => exact .unregisterFailed hpc
        | true => exact .unregistered hpc
      · cases h
  | nextSession crash => exact nextSession_effect h
  | respond =>
      simp only [system, step] at h
      split at h
      · rename_i conn ref hpc
        cases h
        exact .nqAnswered hpc
      · cases h
  | irqReceive n => exact irqReceive_effect h
  | irqPark =>
      simp only [system, step, irqPark] at h
      split at h
      · rename_i n hirq
        cases h
        exact .parked hirq
      · cases h
  | irqLock => exact irqLock_effect h
  | irqDeliver => exact irqDeliver_effect h

theorem effect_trace {d t : Daemon} {l : Label} (h : Effect d l t) : d.trace <+: t.trace := by
  cases h with
  | closeRefused hcall => cases hcall <;> simp
  | closeSent hcall => cases hcall <;> simp
  | closeSentGp hcall => cases hcall <;> simp
  | @loopFinished conn erased dropping => cases dropping <;> simp [closeFinish]
  | _ => simp

end Daemon

end Exynos8890.MobiCore
