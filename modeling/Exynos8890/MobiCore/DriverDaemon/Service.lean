import Exynos8890.MobiCore.DriverDaemon.Daemon

/-!
# Commands served without interruption

What a client sees of a command when no other thread of the daemon runs in between:
the daemon from the command to its answer, with the answers of the secure world as
arguments.

Main results:

- Definitions `serveOpen`, `serveNqConnect`, `serveMapBulkBuf`, `serveUnmapBulkBuf` and
  `serveCloseSession`.
- Theorems `serveOpen_spec`, `serveMapBulkBuf_spec`, `serveUnmapBulkBuf_spec` and
  `serveCloseSession_spec`: the sessions and the answer that a command leaves.
-/

namespace Exynos8890.MobiCore

namespace Daemon

/-- The response that was last written to a connection. -/
def answered (conn : ConnPtr) (d : Daemon) : Option Response :=
  d.trace.reverse.findSome? fun
    | .answer c rsp => if c = conn then some rsp else none
    | _ => none

@[simp]
theorem answered_respond (conn : ConnPtr) (rsp : Response) (d : Daemon) :
    (d.respond conn rsp).answered conn = some rsp := by
  simp [answered]

@[simp]
theorem answered_writeResult (conn : ConnPtr) (code : McResult) (d : Daemon) :
    (d.writeResult conn code).answered conn = some (.result code) :=
  answered_respond conn (.result code) d

/-- The trace grows by these events. -/
@[simps]
def emits (es : List Event) (d : Daemon) : Daemon :=
  { d with trace := d.trace ++ es }

theorem emits_nil (d : Daemon) : d.emits [] = d := by
  simp [emits]

theorem emit_eq_emits (e : Event) (d : Daemon) : d.emit e = d.emits [e] :=
  rfl

/-! ## Opening a session -/

/-- What the environment decides while a session is opened: the answers of registry and
kernel module, of the secure world and of the allocator, and whether the service
blob can be unregistered. -/
structure OpenService where
  answers : OpenAnswers
  r : McpReply
  host : HostChoice
  unregistered : Bool
deriving DecidableEq

/-- `processOpenSession` behind `openSession`. -/
def finishOpen (unregistered : Bool) (d : Daemon) : Daemon :=
  match d.srv with
  | .openReturn conn rsp => d.processOpenReturn conn rsp unregistered
  | _ => d

/-- The drain of the parked notifications, of which there are none when no interrupt
has come in between. -/
def drainOpen (d : Daemon) : Daemon :=
  match d.srv with
  | .openDrain conn ref rsp => d.openDrainStep conn ref rsp
  | _ => d

/-- An open command from the wait for the secure world to its answer. -/
def finishService (service : OpenService) (d : Daemon) : Option Daemon :=
  match d.srv with
  | .openWait frame =>
      (d.openSessionReply frame service.r service.host.addr service.host.magic).map fun d =>
        d.drainOpen.finishOpen service.unregistered
  | _ => some (d.finishOpen service.unregistered)

/-- `processOpenSession` from end to end. -/
def serveOpenSession (conn : ConnPtr) (cmd : CmdOpenSession) (service : OpenService)
    (d : Daemon) : Option Daemon :=
  (d.processOpenSession conn cmd service.answers).finishService service

/-- `processOpenTrustlet` from end to end, with the blob of the client. -/
def serveOpenTrustlet (conn : ConnPtr) (cmd : CmdOpenSession) (service : OpenService)
    (d : Daemon) : Option Daemon :=
  (d.processOpenTrustlet conn cmd true service.answers).finishService service

/-- The tests of `MobiCoreDevice::openSession`. -/
def TciAccepted (cmd : CmdOpenSession) (wsm : WsmAnswers) : Prop :=
  (cmd.handle = 0 ∧ cmd.len = 0) ∨
  (cmd.handle ≠ 0 ∧ cmd.len ≠ 0 ∧ wsm.lock = true ∧
    ∃ tci ∈ findTci wsm cmd.len cmd.tci.toUInt32, cmd.len ≤ tci.len)

instance (cmd : CmdOpenSession) (wsm : WsmAnswers) : Decidable (TciAccepted cmd wsm) :=
  inferInstanceAs (Decidable (_ ∨ (_ ∧ _ ∧ _ ∧
    ∃ tci ∈ findTci wsm cmd.len cmd.tci.toUInt32, _)))

/-- The tests of the daemon that come before the command to the secure world. -/
def OpenService.Accepts (service : OpenService) (cmd : CmdOpenSession) : Prop :=
  (∃ regObj ∈ service.answers.regObj, regObj.len ≠ 0) ∧ service.answers.load ≠ none ∧
    TciAccepted cmd service.answers.wsm

instance (service : OpenService) (cmd : CmdOpenSession) : Decidable (service.Accepts cmd) :=
  inferInstanceAs (Decidable ((∃ regObj ∈ service.answers.regObj, _) ∧ _ ∧ _))

/-- The secure world opens the session. -/
def OpenService.Opens (service : OpenService) (cmd : CmdOpenSession) : Prop :=
  service.Accepts cmd ∧ service.r.mcResult mcMcpCmdOpenSession = mcDrvOk

instance (service : OpenService) (cmd : CmdOpenSession) : Decidable (service.Opens cmd) :=
  inferInstanceAs (Decidable (_ ∧ _))

/-- An open command is refused, at once or behind the unregistering of the service blob. -/
inductive OpenCommandRefused (conn : ConnPtr) (d : Daemon) : Daemon → Prop where
  | answered {code} (hcode : code ≠ mcDrvOk) : OpenCommandRefused conn d (d.writeResult conn code)
  | returned {es code} (hcode : code ≠ mcDrvOk) :
      OpenCommandRefused conn d ((d.emits es).openReturn conn code)

/-- An open command is sent. -/
inductive OpenCommandSent (conn : ConnPtr) (cmd : CmdOpenSession) (d : Daemon) : Daemon → Prop where
  | sent {es frame} (hconn : frame.conn = conn) (hhandle : frame.tciHandle = cmd.handle)
      (hlen : frame.tciLen = cmd.len) : OpenCommandSent conn cmd d ((d.emits es).sendOpen frame)

theorem OpenCommandRefused.returned_now {conn : ConnPtr} {d : Daemon} {code : McResult}
    (hcode : code ≠ mcDrvOk) : OpenCommandRefused conn d (d.openReturn conn code) := by
  have h : OpenCommandRefused conn d ((d.emits []).openReturn conn code) := .returned hcode
  rwa [emits_nil] at h

theorem OpenCommandSent.now {conn : ConnPtr} {cmd : CmdOpenSession} {d : Daemon} {frame : OpenFrame}
    (hconn : frame.conn = conn) (hhandle : frame.tciHandle = cmd.handle)
    (hlen : frame.tciLen = cmd.len) : OpenCommandSent conn cmd d (d.sendOpen frame) := by
  have h : OpenCommandSent conn cmd d ((d.emits []).sendOpen frame) := .sent hconn hhandle hlen
  rwa [emits_nil] at h

/-- `openSession` sends the command when its tests accept it, and else refuses it. -/
theorem openSession_cases (conn : ConnPtr) (cmd : CmdOpenSession) (load : LoadDataOpenSession)
    (wsm : WsmAnswers) (d : Daemon) :
    (TciAccepted cmd wsm ∧ OpenCommandSent conn cmd d
      (d.openSession conn load wsm cmd.handle cmd.len cmd.tci.toUInt32)) ∨
    (¬ TciAccepted cmd wsm ∧ OpenCommandRefused conn d
      (d.openSession conn load wsm cmd.handle cmd.len cmd.tci.toUInt32)) := by
  unfold openSession
  by_cases huses : cmd.handle ≠ 0 ∧ cmd.len ≠ 0
  · rw [if_pos huses]
    cases htci : findTci wsm cmd.len cmd.tci.toUInt32 with
    | none =>
        right
        constructor
        · simp [TciAccepted, huses.1, htci]
        · exact .returned_now (by decide)
    | some tci =>
        by_cases hlock : wsm.lock = false
        · right
          constructor
          · simp [TciAccepted, huses.1, hlock]
          · simp only [hlock, if_true]
            exact .returned_now (by decide)
        · have hlock' : wsm.lock = true := by simpa using hlock
          simp only [hlock, openSessionTci, huses.2, and_false, false_or, emit_eq_emits]
          by_cases hlen : cmd.len > tci.len
          · right
            constructor
            · simpa [TciAccepted, huses.1, htci, hlock'] using fun _ => hlen
            · rw [if_pos hlen]
              exact .returned (by decide)
          · left
            constructor
            · exact Or.inr ⟨huses.1, huses.2, hlock', tci, htci, UInt32.not_lt.mp hlen⟩
            · rw [if_neg hlen]
              exact .sent rfl rfl rfl
  · rw [if_neg huses, openSessionTci]
    by_cases hnone : cmd.handle = 0 ∧ cmd.len = 0
    · left
      constructor
      · exact Or.inl hnone
      · have hok : ¬ ((cmd.handle ≠ 0 ∧ cmd.len = 0) ∨ cmd.len > 0) := by
          simp [hnone.1, hnone.2]
        rw [if_neg hok]
        exact .now rfl rfl rfl
    · right
      constructor
      · rintro (hzero | ⟨hhandle, hlen, _⟩)
        · exact hnone hzero
        · exact huses ⟨hhandle, hlen⟩
      · have hbad : (cmd.handle ≠ 0 ∧ cmd.len = 0) ∨ cmd.len > 0 := by
          by_cases hlen : cmd.len = 0
          · exact Or.inl ⟨fun hhandle => hnone ⟨hhandle, hlen⟩, hlen⟩
          · exact Or.inr (UInt32.pos_iff_ne_zero.mpr hlen)
        rw [if_pos hbad]
        exact .returned_now (by decide)

/-- The commands that open a session send theirs when all tests accept it. -/
theorem openServiceBlob_cases (conn : ConnPtr) (cmd : CmdOpenSession) (service : OpenService)
    (d : Daemon) :
    (service.Accepts cmd ∧ OpenCommandSent conn cmd d (d.openServiceBlob conn cmd service.answers)) ∨
    (¬ service.Accepts cmd ∧
      OpenCommandRefused conn d (d.openServiceBlob conn cmd service.answers)) := by
  unfold openServiceBlob
  cases hobj : service.answers.regObj with
  | none =>
      right
      constructor
      · simp [OpenService.Accepts, hobj]
      · exact .answered (by decide)
  | some regObj =>
      by_cases hlen : regObj.len = 0
      · right
        constructor
        · simp [OpenService.Accepts, hobj, hlen]
        · simp only [hlen, if_true]
          exact .answered (by decide)
      · simp only [hlen, if_false]
        cases hload : service.answers.load with
        | none =>
            right
            constructor
            · simp [OpenService.Accepts, hload]
            · exact .answered (by decide)
        | some physAddr =>
            rcases openSession_cases conn cmd _ service.answers.wsm d with
              ⟨htci, hsent⟩ | ⟨htci, hrefused⟩
            · left
              constructor
              · refine ⟨⟨regObj, hobj, hlen⟩, ?_, htci⟩
                rw [hload]
                exact Option.some_ne_none physAddr
              · exact hsent
            · right
              constructor
              · exact fun haccepts => htci haccepts.2.2
              · exact hrefused

/-- Sessions and open connections stay as they are. -/
structure SameSessions (d t : Daemon) : Prop where
  trustletSessions : t.trustletSessions = d.trustletSessions
  opened : t.opened = d.opened
  nextRef : t.nextRef = d.nextRef

/-- A command is answered with an error, and no session changes. -/
structure AnsweredError (conn : ConnPtr) (d t : Daemon) : Prop extends SameSessions d t where
  answered : ∃ code, code ≠ mcDrvOk ∧ t.answered conn = some (.result code)

/-- An open command has opened a session, and says so when the service blob could be
unregistered. -/
structure Opened (conn : ConnPtr) (cmd : CmdOpenSession) (service : OpenService)
    (d t : Daemon) : Prop where
  session : ∃ frame : OpenFrame, frame.conn = conn ∧ frame.tciHandle = cmd.handle ∧
    frame.tciLen = cmd.len ∧
    t.trustletSessions = d.trustletSessions ++
      [d.newSession frame service.r.value service.host.addr service.host.magic]
  opened : t.opened = d.opened
  nextRef : t.nextRef = d.nextRef + 1
  answered : t.answered conn = some (
    if service.unregistered = true then
      .openSession service.r.value service.host.addr.toUInt32 service.host.magic
    else .result mcDrvErrDaemonKmodError)

/-- Behind the unregistering of the service blob an error stays an error. -/
theorem answeredError_processOpenReturn {conn : ConnPtr} {d m : Daemon} (h : SameSessions d m)
    {code : McResult} (hcode : code ≠ mcDrvOk) (unregistered : Bool) :
    AnsweredError conn d (m.processOpenReturn conn (.result code) unregistered) := by
  unfold processOpenReturn
  cases unregistered with
  | false =>
      exact ⟨⟨h.trustletSessions, h.opened, h.nextRef⟩,
        mcDrvErrDaemonKmodError, by decide, answered_writeResult _ _ _⟩
  | true =>
      exact ⟨⟨h.trustletSessions, h.opened, h.nextRef⟩,
        code, hcode, answered_respond _ _ _⟩

theorem OpenCommandRefused.answeredError {conn : ConnPtr} {d m t : Daemon}
    (h : OpenCommandRefused conn d m)
    {service : OpenService} (ht : m.finishService service = some t) : AnsweredError conn d t := by
  cases h with
  | @answered code hcode =>
      have htd : t = d.writeResult conn code := by
        simpa [finishService, finishOpen] using ht.symm
      rw [htd]
      exact ⟨⟨rfl, rfl, rfl⟩, code, hcode, answered_writeResult _ _ _⟩
  | @returned es code hcode =>
      have htd : t = ((d.emits es).openReturn conn code).processOpenReturn conn (.result code)
          service.unregistered := by
        simpa [finishService, finishOpen] using ht.symm
      have hsame : SameSessions d ((d.emits es).openReturn conn code) := ⟨rfl, rfl, rfl⟩
      rw [htd]
      exact answeredError_processOpenReturn hsame hcode service.unregistered

theorem OpenCommandSent.cases {conn : ConnPtr} {cmd : CmdOpenSession} {d m t : Daemon}
    (h : OpenCommandSent conn cmd d m) {service : OpenService}
    (ht : m.finishService service = some t) :
    (service.r.mcResult mcMcpCmdOpenSession ≠ mcDrvOk ∧ AnsweredError conn d t) ∨
    (service.r.mcResult mcMcpCmdOpenSession = mcDrvOk ∧ Opened conn cmd service d t) := by
  obtain ⟨hconn, hhandle, hlen⟩ := h
  rename_i es frame
  subst hconn
  simp only [finishService, sendOpen_srv, openSessionReply] at ht
  by_cases hret : service.r.mcResult mcMcpCmdOpenSession = mcDrvOk
  · right
    refine ⟨hret, ?_⟩
    simp only [hret, ne_eq, not_true_eq_false, if_false] at ht
    split at ht
    · cases ht
    · simp only [Option.map_some, drainOpen, goto_srv, openDrainStep, goto_notifications,
        pushSession_notifications, mapTci_notifications, sendOpen_notifications, finishOpen,
        Option.some.injEq] at ht
      subst ht
      unfold processOpenReturn
      constructor
      · refine ⟨frame, rfl, hhandle, hlen, ?_⟩
        split <;> rfl
      · split <;> rfl
      · split <;> rfl
      · cases service.unregistered with
        | false => exact answered_writeResult _ _ _
        | true => exact answered_respond _ _ _
  · left
    refine ⟨hret, ?_⟩
    simp only [hret, ne_eq, not_false_eq_true, if_true, Option.map_some, drainOpen,
      openReturn_srv, finishOpen, Option.some.injEq] at ht
    have hsame : SameSessions d (((((d.emits es).sendOpen frame).mapTci frame service.r).unlockTci
        frame).openReturn frame.conn (service.r.mcResult mcMcpCmdOpenSession)) :=
      ⟨rfl, rfl, rfl⟩
    subst ht
    exact answeredError_processOpenReturn hsame hret service.unregistered

/-- An open command of a client that has opened the device. -/
theorem openServiceBlob_spec {conn : ConnPtr} {cmd : CmdOpenSession} {service : OpenService}
    {d t : Daemon}
    (ht : (d.openServiceBlob conn cmd service.answers).finishService service = some t) :
    (¬ service.Opens cmd ∧ AnsweredError conn d t) ∨
    (service.Opens cmd ∧ Opened conn cmd service d t) := by
  rcases openServiceBlob_cases conn cmd service d with ⟨haccepts, hsent⟩ | ⟨hnot, hrefused⟩
  · rcases hsent.cases ht with ⟨hret, hrefused⟩ | ⟨hret, hopened⟩
    · exact Or.inl ⟨fun hopens => hret hopens.2, hrefused⟩
    · exact Or.inr ⟨⟨haccepts, hret⟩, hopened⟩
  · exact Or.inl ⟨fun hopens => hnot hopens.1, hrefused.answeredError ht⟩

/-- `processOpenSession` from end to end. -/
theorem serveOpenSession_spec {conn : ConnPtr} {cmd : CmdOpenSession} {service : OpenService}
    {d t : Daemon} (ht : d.serveOpenSession conn cmd service = some t) :
    (¬ (conn ∈ d.opened ∧ service.Opens cmd) ∧ AnsweredError conn d t) ∨
    ((conn ∈ d.opened ∧ service.Opens cmd) ∧ Opened conn cmd service d t) := by
  unfold serveOpenSession processOpenSession at ht
  split at ht
  · next hclosed =>
      left
      constructor
      · exact fun hopens => hclosed hopens.1
      · exact (OpenCommandRefused.answered (by decide)).answeredError ht
  · next hopen =>
      rcases openServiceBlob_spec ht with ⟨hnot, hrefused⟩ | ⟨hopens, hopened⟩
      · exact Or.inl ⟨fun hboth => hnot hboth.2, hrefused⟩
      · exact Or.inr ⟨⟨not_not.mp hopen, hopens⟩, hopened⟩

/-- `processOpenTrustlet` from end to end. -/
theorem serveOpenTrustlet_spec {conn : ConnPtr} {cmd : CmdOpenSession} {service : OpenService}
    {d t : Daemon} (ht : d.serveOpenTrustlet conn cmd service = some t) :
    (¬ (conn ∈ d.opened ∧ service.Opens cmd) ∧ AnsweredError conn d t) ∨
    ((conn ∈ d.opened ∧ service.Opens cmd) ∧ Opened conn cmd service d t) := by
  have hsame : d.processOpenTrustlet conn cmd true service.answers =
      d.processOpenSession conn cmd service.answers := by
    simp [processOpenTrustlet, processOpenSession]
  unfold serveOpenTrustlet at ht
  rw [hsame] at ht
  exact serveOpenSession_spec ht

/-! ## Connecting for notifications -/

/-- What a notification does not change of a session. -/
def sessionCore (s : TrustletSession) : SessionRef × UInt32 × BulkBuffers × Option ConnPtr :=
  (s.ref, s.sessionId, s.buffers, s.deviceConnection)

/-- Sessions and open connections stay as they are, but for what notifications change. -/
structure SameCores (d t : Daemon) : Prop where
  cores : t.trustletSessions.map sessionCore = d.trustletSessions.map sessionCore
  opened : t.opened = d.opened
  nextRef : t.nextRef = d.nextRef

theorem SameCores.trans {d m t : Daemon} (h : SameCores d m) (h' : SameCores m t) :
    SameCores d t where
  cores := h'.cores.trans h.cores
  opened := h'.opened.trans h.opened
  nextRef := h'.nextRef.trans h.nextRef

/-- `processQueuedNotifications`: as many rounds as there are queued notifications, and
one that finds none. -/
def flushQueued (ref : SessionRef) : Nat → Daemon → Daemon
  | 0, d => d
  | rounds + 1, d =>
      match d.processQueuedNotifications ref with
      | some t => if t.srv = .idle then t else flushQueued ref rounds t
      | none => d

/-- `processNqConnect` from end to end. -/
def serveNqConnect (conn : ConnPtr) (cmd : CmdNqConnect) (d : Daemon) : Daemon :=
  let d := d.processNqConnect conn cmd
  match d.srv with
  | .nqRegistered conn ref =>
      (d.nqConnectRespond conn ref).flushQueued ref
        (((d.sessionAt ref).map fun s => s.notifications.length).getD 0 + 1)
  | _ => d

/-- One round of the flush changes neither the cores nor what was answered. -/
theorem processQueuedNotifications_frame {ref : SessionRef} {d t : Daemon}
    (h : d.processQueuedNotifications ref = some t) (conn : ConnPtr) :
    SameCores d t ∧ t.answered conn = d.answered conn := by
  unfold processQueuedNotifications at h
  split at h
  · cases h
  · split at h
    · cases h
      constructor
      · have hpop : ∀ s, sessionCore (TrustletSession.popNotification s) = sessionCore s :=
          fun _ => rfl
        exact ⟨KeyedList.map_update hpop d.trustletSessions, rfl, rfl⟩
      · simp [answered]
    · cases h
      exact ⟨⟨rfl, rfl, rfl⟩, rfl⟩

theorem flushQueued_frame (ref : SessionRef) (rounds : Nat) (d : Daemon) (conn : ConnPtr) :
    SameCores d (d.flushQueued ref rounds) ∧
      (d.flushQueued ref rounds).answered conn = d.answered conn := by
  induction rounds generalizing d with
  | zero => exact ⟨⟨rfl, rfl, rfl⟩, rfl⟩
  | succ rounds ih =>
      rw [flushQueued]
      cases hround : d.processQueuedNotifications ref with
      | none => exact ⟨⟨rfl, rfl, rfl⟩, rfl⟩
      | some t =>
          obtain ⟨hcores, hanswered⟩ := processQueuedNotifications_frame hround conn
          by_cases hidle : t.srv = .idle
          · simp only [hidle, if_true]
            exact ⟨hcores, hanswered⟩
          · simp only [hidle, if_false]
            exact ⟨hcores.trans (ih t).1, (ih t).2.trans hanswered⟩

/-- The connection may be registered, and the session is found. -/
def NqAccepted (conn : ConnPtr) (cmd : CmdNqConnect) (d : Daemon) : Prop :=
  conn ∉ d.opened ∧ hasDevice cmd.deviceId = true ∧ (d.findTrustletConnection cmd).isSome = true

instance (conn : ConnPtr) (cmd : CmdNqConnect) (d : Daemon) : Decidable (d.NqAccepted conn cmd) :=
  inferInstanceAs (Decidable (_ ∧ _ ∧ _))

theorem processNqConnect_cases (conn : ConnPtr) (cmd : CmdNqConnect) (d : Daemon) :
    (¬ d.NqAccepted conn cmd ∧ ∃ conns code, code ≠ mcDrvOk ∧
      d.processNqConnect conn cmd = { d with peerConnections := conns }.writeResult conn code) ∨
    (d.NqAccepted conn cmd ∧ ∃ conns session,
      d.processNqConnect conn cmd =
        ({ d with peerConnections := conns }.registerTrustletConnection conn session).goto
          (.nqRegistered conn session.ref)) := by
  unfold processNqConnect
  by_cases hopen : conn ∈ d.opened
  · left
    rw [if_pos hopen]
    exact ⟨fun h => h.1 hopen, d.peerConnections, mcDrvErrNqFailed, by decide, rfl⟩
  · rw [if_neg hopen]
    by_cases hdevice : hasDevice cmd.deviceId = false
    · left
      constructor
      · rintro ⟨_, htrue, _⟩
        rw [hdevice] at htrue
        cases htrue
      · exact ⟨_, mcDrvErrUnknownDevice, by decide, if_pos hdevice⟩
    · have hfind : ({ d with peerConnections := d.peerConnections.erase conn
          }).findTrustletConnection cmd = d.findTrustletConnection cmd := rfl
      simp only [if_neg hdevice, hfind]
      cases hsession : d.findTrustletConnection cmd with
      | none =>
          left
          constructor
          · rintro ⟨_, _, hsome⟩
            rw [hsession] at hsome
            cases hsome
          · exact ⟨_, mcDrvErrUnknown, by decide, rfl⟩
      | some session =>
          right
          constructor
          · refine ⟨hopen, by simpa using hdevice, ?_⟩
            rw [hsession]
            rfl
          · exact ⟨_, session, rfl⟩

/-- Registering a connection changes no core, and is answered with success exactly when it
is accepted. -/
theorem serveNqConnect_spec (conn : ConnPtr) (cmd : CmdNqConnect) (d : Daemon) :
    SameCores d (d.serveNqConnect conn cmd) ∧
      ((d.NqAccepted conn cmd ∧
        (d.serveNqConnect conn cmd).answered conn = some (.result mcDrvOk)) ∨
      (¬ d.NqAccepted conn cmd ∧ ∃ code, code ≠ mcDrvOk ∧
        (d.serveNqConnect conn cmd).answered conn = some (.result code))) := by
  unfold serveNqConnect
  rcases processNqConnect_cases conn cmd d with
    ⟨hnot, conns, code, hcode, heq⟩ | ⟨haccepted, conns, session, heq⟩
  · rw [heq]
    simp only [writeResult_srv]
    refine ⟨⟨rfl, rfl, rfl⟩, Or.inr ⟨hnot, code, hcode, ?_⟩⟩
    exact answered_writeResult _ _ _
  · rw [heq]
    simp only [goto_srv]
    have hregistered : SameCores d
        ((({ d with peerConnections := conns }.registerTrustletConnection conn session).goto
          (.nqRegistered conn session.ref)).nqConnectRespond conn session.ref) := by
      have hconnect : ∀ s, sessionCore (TrustletSession.connect conn s) = sessionCore s :=
        fun _ => rfl
      exact ⟨KeyedList.map_update hconnect d.trustletSessions, rfl, rfl⟩
    constructor
    · exact hregistered.trans (flushQueued_frame _ _ _ conn).1
    · left
      refine ⟨haccepted, ?_⟩
      rw [(flushQueued_frame _ _ _ conn).2]
      simp [answered, nqConnectRespond]

/-! ## Bulk memory -/

/-- `processMapBulkBuf` from end to end. -/
def serveMapBulkBuf (conn : ConnPtr) (cmd : CmdMapBulkBuf) (wsm : WsmAnswers) (r : McpReply)
    (d : Daemon) : Daemon :=
  let d := d.processMapBulkBuf conn cmd wsm
  match d.srv with
  | .mapWait conn cmd pAddrL2 => d.mapBulkReply conn cmd pAddrL2 r
  | _ => d

/-- The tests that come before the map command. -/
def MapAccepted (conn : ConnPtr) (sessionId : UInt32) (wsm : WsmAnswers) (d : Daemon) : Prop :=
  conn ∈ d.opened ∧ wsm.lock = true ∧ wsm.l2 ≠ 0 ∧ (d.findSession conn sessionId).isSome = true

instance (conn : ConnPtr) (sessionId : UInt32) (wsm : WsmAnswers) (d : Daemon) :
    Decidable (d.MapAccepted conn sessionId wsm) :=
  inferInstanceAs (Decidable (_ ∧ _ ∧ _ ∧ _))

/-- A map command that has reached the secure world: the buffer is in the table of the
session whatever the secure world has answered. -/
structure MapServed (conn : ConnPtr) (cmd : CmdMapBulkBuf) (wsm : WsmAnswers) (r : McpReply)
    (session : TrustletSession) (d t : Daemon) : Prop where
  found : d.findSession conn cmd.sessionId = some session
  trustletSessions : t.trustletSessions = KeyedList.update TrustletSession.ref session.ref
    (TrustletSession.addBulkBuff (bulkBuffer cmd wsm.l2)) d.trustletSessions
  opened : t.opened = d.opened
  nextRef : t.nextRef = d.nextRef
  answered : t.answered conn = some (
    if r.mcResult mcMcpCmdMap = mcDrvOk then .mapBulkMem cmd.sessionId r.value
    else .result (r.mcResult mcMcpCmdMap))

/-- `processMapBulkBuf` refuses the command, or sends it. -/
theorem serveMapBulkBuf_spec (conn : ConnPtr) (cmd : CmdMapBulkBuf) (wsm : WsmAnswers)
    (r : McpReply) (d : Daemon) :
    (¬ d.MapAccepted conn cmd.sessionId wsm ∧
      AnsweredError conn d (d.serveMapBulkBuf conn cmd wsm r)) ∨
    (d.MapAccepted conn cmd.sessionId wsm ∧
      ∃ session, MapServed conn cmd wsm r session d (d.serveMapBulkBuf conn cmd wsm r)) := by
  unfold serveMapBulkBuf processMapBulkBuf MapAccepted
  by_cases hopen : conn ∈ d.opened
  · by_cases hlock : wsm.lock = false
    · left
      simp only [hopen, not_true_eq_false, if_false, hlock, if_true, writeResult_srv]
      refine ⟨by simp, ⟨rfl, rfl, rfl⟩, mcDrvErrDaemonWsmHandleNotFound, by decide, ?_⟩
      exact answered_writeResult _ _ _
    · by_cases hl2 : wsm.l2 = 0
      · left
        simp only [hopen, not_true_eq_false, if_false, hlock, hl2, if_true]
        refine ⟨by simp, ⟨rfl, rfl, rfl⟩, mcDrvErrDaemonWsmHandleNotFound, by decide, ?_⟩
        exact answered_writeResult _ _ _
      · have hemit : (d.emit (.lockWsmL2 cmd.handle)).findSession conn cmd.sessionId =
            d.findSession conn cmd.sessionId := rfl
        simp only [hopen, not_true_eq_false, if_false, hlock, hl2, mapBulk, hemit]
        cases hfind : d.findSession conn cmd.sessionId with
        | none =>
            left
            refine ⟨by simp, ⟨rfl, rfl, rfl⟩, mcDrvErrDaemonUnknownSession, by decide, ?_⟩
            exact answered_writeResult _ _ _
        | some session =>
            right
            refine ⟨⟨trivial, trivial, hl2, rfl⟩, session, ?_⟩
            simp only [mapBulkReply]
            by_cases hret : r.mcResult mcMcpCmdMap = mcDrvOk
            · simp only [hret, ne_eq, not_true_eq_false, if_false]
              refine ⟨hfind, rfl, rfl, rfl, ?_⟩
              rw [if_pos hret]
              exact answered_respond _ _ _
            · simp only [hret, ne_eq, not_false_eq_true, if_true]
              refine ⟨hfind, rfl, rfl, rfl, ?_⟩
              rw [if_neg hret]
              exact answered_writeResult _ _ _
  · left
    simp only [hopen, not_false_eq_true, if_true, writeResult_srv]
    refine ⟨by simp, ⟨rfl, rfl, rfl⟩, mcDrvErrDaemonDeviceNotOpen, by decide, ?_⟩
    exact answered_writeResult _ _ _

/-- `processUnmapBulkBuf` from end to end. -/
def serveUnmapBulkBuf (conn : ConnPtr) (cmd : CmdUnmapBulkBuf) (r : McpReply) (d : Daemon) :
    Daemon :=
  let d := d.processUnmapBulkBuf conn cmd
  match d.srv with
  | .unmapWait conn cmd ref => d.unmapBulkReply conn cmd ref r
  | _ => d

/-- The tests that come before the unmap command, and the answer to it. -/
def UnmapDone (conn : ConnPtr) (cmd : CmdUnmapBulkBuf) (r : McpReply) (d : Daemon) : Prop :=
  conn ∈ d.opened ∧
    (∃ session ∈ d.findSession conn cmd.sessionId,
      session.findBulkBuff cmd.handle cmd.lenBulkMem = true) ∧
    r.mcResult mcMcpCmdUnmap = mcDrvOk

instance (conn : ConnPtr) (cmd : CmdUnmapBulkBuf) (r : McpReply) (d : Daemon) :
    Decidable (d.UnmapDone conn cmd r) :=
  inferInstanceAs (Decidable (_ ∧ (∃ session ∈ d.findSession conn cmd.sessionId, _) ∧ _))

/-- An unmap command that was carried out. -/
structure UnmapServed (conn : ConnPtr) (cmd : CmdUnmapBulkBuf) (session : TrustletSession)
    (d t : Daemon) : Prop where
  found : d.findSession conn cmd.sessionId = some session
  trustletSessions : t.trustletSessions = KeyedList.update TrustletSession.ref session.ref
    (TrustletSession.removeBulkBuff cmd.handle) d.trustletSessions
  opened : t.opened = d.opened
  nextRef : t.nextRef = d.nextRef
  answered : t.answered conn = some (.result mcDrvOk)

/-- `processUnmapBulkBuf` answers an error and keeps the buffer, or removes it. -/
theorem serveUnmapBulkBuf_spec (conn : ConnPtr) (cmd : CmdUnmapBulkBuf) (r : McpReply)
    (d : Daemon) :
    (¬ d.UnmapDone conn cmd r ∧ AnsweredError conn d (d.serveUnmapBulkBuf conn cmd r)) ∨
    (d.UnmapDone conn cmd r ∧
      ∃ session, UnmapServed conn cmd session d (d.serveUnmapBulkBuf conn cmd r)) := by
  unfold serveUnmapBulkBuf processUnmapBulkBuf UnmapDone
  by_cases hopen : conn ∈ d.opened
  · simp only [hopen, not_true_eq_false, if_false, unmapBulk]
    cases hfind : d.findSession conn cmd.sessionId with
    | none =>
        left
        refine ⟨by simp, ⟨rfl, rfl, rfl⟩, mcDrvErrDaemonUnknownSession, by decide, ?_⟩
        exact answered_writeResult _ _ _
    | some session =>
        by_cases hbuffer : session.findBulkBuff cmd.handle cmd.lenBulkMem = false
        · left
          simp only [hbuffer, if_true, writeResult_srv]
          refine ⟨by simp [hbuffer], ⟨rfl, rfl, rfl⟩, mcDrvErrDaemonWsmHandleNotFound, by decide, ?_⟩
          exact answered_writeResult _ _ _
        · have hbuffer' : session.findBulkBuff cmd.handle cmd.lenBulkMem = true := by
            simpa using hbuffer
          simp only [hbuffer', Bool.true_eq_false, if_false, sendUnmap_srv, unmapBulkReply]
          by_cases hret : r.mcResult mcMcpCmdUnmap = mcDrvOk
          · right
            simp only [hret, ne_eq, not_true_eq_false, if_false]
            refine ⟨⟨trivial, ⟨session, rfl, hbuffer'⟩, trivial⟩, session, ?_⟩
            exact ⟨hfind, rfl, rfl, rfl, answered_writeResult _ _ _⟩
          · left
            simp only [hret, ne_eq, not_false_eq_true, if_true]
            refine ⟨by simp, ⟨by simp, by simp, by simp⟩, r.mcResult mcMcpCmdUnmap, hret, ?_⟩
            exact answered_writeResult _ _ _
  · left
    simp only [hopen, not_false_eq_true, if_true, writeResult_srv]
    refine ⟨by simp, ⟨rfl, rfl, rfl⟩, mcDrvErrDaemonDeviceNotOpen, by decide, ?_⟩
    exact answered_writeResult _ _ _

/-! ## Closing a session -/

/-- The second attempt to close a session, where there is one.  There is no answer when the
assertion stops the daemon. -/
def finishClose (retry : McpReply) (ndebug : Bool) (d : Daemon) : Option Daemon :=
  match d.srv with
  | .closeRetryWait conn sessionId ref caller =>
      if retry.closeResult ≠ mcMcpRetOk ∧ ndebug = false then none
      else d.closeSessionRetryReply conn sessionId ref caller retry ndebug
  | _ => some d

/-- `processCloseSession` from end to end, with the answer of the secure world and the
one to a second attempt. -/
def serveCloseSession (conn : ConnPtr) (sessionId : UInt32) (r retry : McpReply) (ndebug : Bool)
    (d : Daemon) : Option Daemon :=
  match d.processCloseSession conn sessionId with
  | none => none
  | some d =>
      match d.srv with
      | .closeWait conn sessionId ref caller =>
          (d.closeSessionReply conn sessionId ref caller r).bind (finishClose retry ndebug)
      | _ => some d

/-- What closing does not change of a session that stays. -/
def sessionTable (s : TrustletSession) : SessionRef × UInt32 × BulkBuffers :=
  (s.ref, s.sessionId, s.buffers)

/-- What a close command leaves: all tables of buffers, or all but that of the session that
was found; an error leaves them all. -/
structure CloseServed (conn : ConnPtr) (sessionId : UInt32) (d t : Daemon) : Prop where
  opened : t.opened = d.opened
  nextRef : t.nextRef = d.nextRef
  served : (t.trustletSessions.map sessionTable = d.trustletSessions.map sessionTable ∧
      ∃ code, t.answered conn = some (.result code)) ∨
    (∃ session, d.findSession conn sessionId = some session ∧
      t.trustletSessions.map sessionTable =
        (KeyedList.delete TrustletSession.ref session.ref d.trustletSessions).map sessionTable ∧
      t.answered conn = some (.result mcDrvOk))

@[simp]
theorem answered_closeReturn (conn : ConnPtr) (sessionId : UInt32) (ret : McResult) (d : Daemon) :
    (d.closeReturn conn sessionId .processCloseSession ret).answered conn =
      some (.result ret) := by
  simp [answered, callerAnswer]

theorem map_sessionTable_delete (ref : SessionRef) (l : List TrustletSession) :
    (KeyedList.delete TrustletSession.ref ref l).map sessionTable =
      KeyedList.delete Prod.fst ref (l.map sessionTable) := by
  rw [KeyedList.delete, KeyedList.delete, List.eraseP_map]
  rfl

/-- `closeSession` behind its last test. -/
theorem closeSessionFinish_served {conn : ConnPtr} {sessionId : UInt32} {d m : Daemon}
    {session listed : TrustletSession} {ret : McResult}
    (hfind : d.findSession conn sessionId = some session) (href : listed.ref = session.ref)
    (hkept : m.opened = d.opened ∧ m.nextRef = d.nextRef)
    (htables : m.trustletSessions.map sessionTable = d.trustletSessions.map sessionTable) :
    CloseServed conn sessionId d
      (m.closeSessionFinish conn sessionId listed .processCloseSession ret) := by
  have hdelete : (KeyedList.delete TrustletSession.ref listed.ref m.trustletSessions).map
      sessionTable =
      (KeyedList.delete TrustletSession.ref session.ref d.trustletSessions).map sessionTable := by
    rw [href, map_sessionTable_delete, map_sessionTable_delete, htables]
  unfold closeSessionFinish
  by_cases hret : ret = mcMcpRetOk
  · simp only [hret, ne_eq, not_true_eq_false, if_false]
    constructor
    · exact hkept.1
    · exact hkept.2
    · right
      exact ⟨session, hfind, hdelete, answered_closeReturn _ _ _ _⟩
  · simp only [hret, ne_eq, not_false_eq_true, if_true]
    constructor
    · exact hkept.1
    · exact hkept.2
    · exact Or.inl ⟨htables, _, answered_closeReturn _ _ _ _⟩

theorem closeSessionFinish_srv (conn : ConnPtr) (sessionId : UInt32) (session : TrustletSession)
    (ret : McResult) (d : Daemon) :
    (d.closeSessionFinish conn sessionId session .processCloseSession ret).srv = .idle := by
  unfold closeSessionFinish
  split <;> rfl

theorem closeSessionReply_served {conn : ConnPtr} {sessionId : UInt32} {d m t : Daemon}
    {session : TrustletSession} {r retry : McpReply} {ndebug : Bool}
    (hfind : d.findSession conn sessionId = some session)
    (hkept : m.opened = d.opened ∧ m.nextRef = d.nextRef)
    (htables : m.trustletSessions.map sessionTable = d.trustletSessions.map sessionTable)
    (h : (m.closeSessionReply conn sessionId session.ref .processCloseSession r).bind
      (finishClose retry ndebug) = some t) : CloseServed conn sessionId d t := by
  unfold closeSessionReply at h
  have hat : (m.unmapClosed r sessionId).sessionAt session.ref = m.sessionAt session.ref := rfl
  simp only [hat] at h
  cases hlisted : m.sessionAt session.ref with
  | none =>
      simp only [hlisted] at h
      cases h
  | some listed =>
      have href : listed.ref = session.ref := (KeyedList.mem_of_lookup hlisted).2
      simp only [hlisted] at h
      by_cases hdeferred : listed.gpLevel = 1 ∧
          r.closeResult = makeMcDrvMcpError mcMcpRetErrCloseTaskFailed
      · rw [if_pos hdeferred] at h
        by_cases hdead : listed.sessionState = .taDead
        · simp only [hdead, if_true, Option.bind_some, finishClose, sendSessionCloseCmd_srv] at h
          split at h
          · cases h
          · unfold closeSessionRetryReply at h
            have hat' : (((m.unmapClosed r sessionId).sendSessionCloseCmd sessionId
                (.closeRetryWait conn sessionId session.ref .processCloseSession)).unmapClosed
                  retry sessionId).sessionAt session.ref = m.sessionAt session.ref := rfl
            simp only [hat', hlisted] at h
            split at h
            · next hnot hassert => exact absurd hassert hnot
            · cases h
              exact closeSessionFinish_served hfind href hkept htables
        · simp only [hdead, if_false, Option.bind_some, finishClose, closeReturn_srv, resumeCaller,
            Option.some.injEq] at h
          rw [← h]
          constructor
          · exact hkept.1
          · exact hkept.2
          · exact Or.inl ⟨htables, _, answered_closeReturn _ _ _ _⟩
      · rw [if_neg hdeferred] at h
        simp only [Option.bind_some, finishClose, closeSessionFinish_srv, Option.some.injEq] at h
        rw [← h]
        exact closeSessionFinish_served hfind href hkept htables

/-- `processCloseSession` from end to end. -/
theorem serveCloseSession_spec {conn : ConnPtr} {sessionId : UInt32} {r retry : McpReply}
    {ndebug : Bool} {d t : Daemon}
    (h : d.serveCloseSession conn sessionId r retry ndebug = some t) :
    CloseServed conn sessionId d t := by
  unfold serveCloseSession processCloseSession at h
  by_cases hopen : conn ∈ d.opened
  · simp only [hopen, not_true_eq_false, if_false, closeSession] at h
    cases hfind : d.findSession conn sessionId with
    | none =>
        simp only [hfind, closeReturn_srv, resumeCaller, Option.some.injEq] at h
        rw [← h]
        constructor
        · rfl
        · rfl
        · exact Or.inl ⟨rfl, _, answered_closeReturn _ _ _ _⟩
    | some session =>
        simp only [hfind] at h
        by_cases hgp : session.gpLevel = 1
        · by_cases hmutex : d.irq.holdsMutex = true
          · simp only [hgp, hmutex, if_true] at h
            cases h
          · simp only [hgp, hmutex, if_true, Bool.false_eq_true, if_false,
              sendSessionCloseCmd_srv] at h
            have hdisconnect : ∀ s, sessionTable (TrustletSession.disconnect s) = sessionTable s :=
              fun _ => rfl
            have hkept : ((d.disconnectClient session).sendSessionCloseCmd sessionId
                (.closeWait conn sessionId session.ref .processCloseSession)).opened = d.opened ∧
                ((d.disconnectClient session).sendSessionCloseCmd sessionId
                (.closeWait conn sessionId session.ref .processCloseSession)).nextRef =
                  d.nextRef := ⟨rfl, rfl⟩
            exact closeSessionReply_served hfind hkept
              (KeyedList.map_update hdisconnect d.trustletSessions) h
        · simp only [hgp, if_false, sendSessionCloseCmd_srv] at h
          have hkept : (d.sendSessionCloseCmd sessionId
              (.closeWait conn sessionId session.ref .processCloseSession)).opened = d.opened ∧
              (d.sendSessionCloseCmd sessionId
              (.closeWait conn sessionId session.ref .processCloseSession)).nextRef =
                d.nextRef := ⟨rfl, rfl⟩
          exact closeSessionReply_served hfind hkept rfl h
  · simp only [hopen, not_false_eq_true, if_true, writeResult_srv, Option.some.injEq] at h
    rw [← h]
    constructor
    · rfl
    · rfl
    · exact Or.inl ⟨rfl, _, answered_writeResult _ _ _⟩

end Daemon

end Exynos8890.MobiCore
