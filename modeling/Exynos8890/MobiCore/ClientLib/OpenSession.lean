import Exynos8890.MobiCore.ClientLib.Device
import Exynos8890.MobiCore.DriverDaemon.Service
import Exynos8890.MobiCore.DriverDaemon.WellFormed

/-!
# Opening a session from the client library

The three calls that open a session, over the daemon that serves them.  The calls
differ in the tests of their arguments and in the command they send; the rest is one
definition.

Main results:

- Definitions `mcOpenSession`, `mcOpenTrustlet` and `mcOpenGPTA`.
- Theorem `openCall_cases`: what a call leaves when it succeeds and when it fails.
- Theorem `mcOpen_atomic_iff`: when a call that fails leaves nothing behind.
-/

namespace Exynos8890.MobiCore.ClientLib

/-- A client and the daemon that it talks to.  `registrations` are the handles of the
tables that the client has registered with the kernel module. -/
structure Client where
  devices : List Device
  registrations : List UInt32
  daemon : Daemon

/-- The arguments of a call that opens a session; `session` and `service` say whether the
pointers to the session handle and to the uuid or the trustlet are not null. -/
structure OpenArgs where
  session : Bool
  deviceId : UInt32
  service : Bool
  tci : UInt64
  len : UInt32
deriving DecidableEq

/-- What kernel, sockets and daemon do during the call: the answer of `registerWsmL2`,
how far the exchange with the daemon gets, and the connection for notifications with
how far that gets. -/
structure OpenEnvironment where
  registered : Except McResult UInt32
  sent : Bool
  service : Daemon.OpenService
  header : Bool
  payload : Bool
  connected : Bool
  nqConn : ConnPtr
  nqSent : Bool
  nqReceived : Bool

/-- What a call returns, what it writes to the session handle, and the client behind it. -/
structure OpenResult where
  mcResult : McResult
  sessionId : Option UInt32
  client : Client

/-- `MC_MAX_TCI_LEN`. -/
def mcMaxTciLen : UInt32 := 0x100000

/-- The result for an error of the daemon; those of the secure world have their own. -/
def openError (mcResult : McResult) : McResult :=
  if mcDrvErrorMajor mcResult ≠ mcDrvErrMcpError then mcResult
  else if mcDrvErrorMcp mcResult = mcMcpRetErrWrongPublicKey then mcDrvErrWrongPublicKey
  else if mcDrvErrorMcp mcResult = mcMcpRetErrContainerTypeMismatch then
    mcDrvErrContainerTypeMismatch
  else if mcDrvErrorMcp mcResult = mcMcpRetErrContainerLocked then mcDrvErrContainerLocked
  else if mcDrvErrorMcp mcResult = mcMcpRetErrSpNoChild then mcDrvErrSpNoChild
  else if mcDrvErrorMcp mcResult = mcMcpRetErrTlNoChild then mcDrvErrTlNoChild
  else if mcDrvErrorMcp mcResult = mcMcpRetErrUnwrapRootFailed then mcDrvErrUnwrapRootFailed
  else if mcDrvErrorMcp mcResult = mcMcpRetErrUnwrapSpFailed then mcDrvErrUnwrapSpFailed
  else if mcDrvErrorMcp mcResult = mcMcpRetErrUnwrapTrustletFailed then
    mcDrvErrUnwrapTrustletFailed
  else mcDrvErrMcpError

theorem openError_ne_ok {mcResult : McResult} (h : mcResult ≠ mcDrvOk) :
    openError mcResult ≠ mcDrvOk := by
  unfold openError
  repeat' split
  · exact h
  all_goals decide

namespace Client

/-! ## The call -/

/-- The tests of the arguments; `needsTci` is the test that only `mcOpenTrustlet` makes. -/
def checkOpen (needsTci : Bool) (args : OpenArgs) : Option McResult :=
  if args.session = false then some mcDrvErrNullPointer
  else if args.service = false then some mcDrvErrNullPointer
  else if needsTci = true ∧ args.tci = 0 then some mcDrvErrNullPointer
  else if args.len > mcMaxTciLen then some mcDrvErrTciTooBig
  else none

/-- The handle of the TCI: that of a contiguous block, that of a buffer which is
registered for the call, or 0 for no TCI.  `mcOpenTrustlet` registers whatever is not
contiguous. -/
def tciHandle (needsTci : Bool) (args : OpenArgs) (registered : Except McResult UInt32)
    (device : Device) : Except McResult (UInt32 × Option BulkBufferDescriptor) :=
  match device.findContiguousWsm args.tci with
  | some wsm =>
      if wsm.pWsm.len < args.len then .error mcDrvErrTciGreaterThanWsm
      else .ok (wsm.pWsm.handle, none)
  | none =>
      if needsTci = true ∨ (args.tci ≠ 0 ∧ args.len ≠ 0) then
        match registered with
        | .error _ => .error mcDrvErrWsmNotFound
        | .ok handle =>
            .ok (handle,
              some { virtAddr := args.tci, sVirtualAddr := 0, len := args.len
                     handle := handle })
      else if args.len ≠ 0 then .error mcDrvErrTciGreaterThanWsm
      else .ok (0, none)

/-- The call up to its command: the device, the handle of the TCI, and the buffer that was
registered. -/
def prepare (needsTci : Bool) (args : OpenArgs) (registered : Except McResult UInt32)
    (c : Client) : Except McResult (Device × UInt32 × Option BulkBufferDescriptor) :=
  match checkOpen needsTci args with
  | some code => .error code
  | none =>
      match resolveDeviceId args.deviceId c.devices with
      | none => .error mcDrvErrUnknownDevice
      | some device =>
          match tciHandle needsTci args registered device with
          | .error code => .error code
          | .ok (handle, bulkBuf) => .ok (device, handle, bulkBuf)

/-- The open command. -/
def openCommand (args : OpenArgs) (handle : UInt32) : CmdOpenSession where
  tci := args.tci &&& 0xFFF
  handle := handle
  len := args.len

/-- `registerWsmL2` has succeeded. -/
def register (bulkBuf : Option BulkBufferDescriptor) (c : Client) : Client :=
  { c with
    registrations := c.registrations ++ bulkBuf.toList.map BulkBufferDescriptor.handle }

/-- `createNewSession`, and the buffer of the TCI in its list. -/
def addSession (deviceId sessionId : UInt32) (bulkBuf : Option BulkBufferDescriptor)
    (c : Client) : Client :=
  { c with
    devices := KeyedList.update Device.deviceId deviceId
      (Device.createNewSession
        { sessionId := sessionId, bulkBufferDescriptors := bulkBuf.toList }) c.devices }

/-- The call fails behind its command: the descriptor of the registered buffer is deleted,
and nothing else is undone. -/
def failOpen (code : McResult) (sessionId : Option UInt32) (c : Client) : OpenResult where
  mcResult := code
  sessionId := sessionId
  client := c

/-- The second channel, for notifications. -/
def connectNq (args : OpenArgs) (env : OpenEnvironment)
    (bulkBuf : Option BulkBufferDescriptor) (sessionId deviceSessionId sessionMagic : UInt32)
    (c : Client) : Option OpenResult :=
  if env.connected = false then some (failOpen mcDrvErrSocketConnect (some sessionId) c)
  else
    match c.daemon.accept env.nqConn with
    | none => none
    | some daemon =>
        if env.nqSent = false then
          some (failOpen mcDrvErrSocketWrite (some sessionId) { c with daemon := daemon })
        else
          let c := { c with
            daemon := daemon.serveNqConnect env.nqConn
              { deviceId := args.deviceId, sessionId := sessionId
                deviceSessionId := deviceSessionId, sessionMagic := sessionMagic } }
          if env.nqReceived = false then
            some (failOpen mcDrvErrSocketRead (some sessionId) c)
          else
            match c.daemon.answered env.nqConn with
            | some (.result code) =>
                if code ≠ mcDrvOk then some (failOpen code (some sessionId) c)
                else
                  some
                    { mcResult := mcDrvOk
                      sessionId := some sessionId
                      client := c.addSession args.deviceId sessionId bulkBuf }
            | _ => none

/-- The exchange with the daemon. -/
def exchangeOpen (serve : ConnPtr → CmdOpenSession → Daemon.OpenService → Daemon → Option Daemon)
    (args : OpenArgs) (env : OpenEnvironment) (device : Device) (handle : UInt32)
    (bulkBuf : Option BulkBufferDescriptor) (c : Client) : Option OpenResult :=
  if env.sent = false then some (failOpen mcDrvErrSocketWrite none c)
  else
    match serve device.connection (openCommand args handle) env.service c.daemon with
    | none => none
    | some daemon =>
        let c := { c with daemon := daemon }
        if env.header = false then some (failOpen mcDrvErrSocketRead none c)
        else
          match daemon.answered device.connection with
          | some (.openSession sessionId deviceSessionId sessionMagic) =>
              if env.payload = false then some (failOpen mcDrvErrSocketRead none c)
              else c.connectNq args env bulkBuf sessionId deviceSessionId sessionMagic
          | some (.result code) => some (failOpen (openError code) none c)
          | _ => none

/-- What the three calls have in common.  A trustlet whose blob is not sent completely
leaves the daemon waiting for the rest, which is as good as no command. -/
def openCall (needsTci : Bool)
    (serve : ConnPtr → CmdOpenSession → Daemon.OpenService → Daemon → Option Daemon)
    (args : OpenArgs) (env : OpenEnvironment) (c : Client) : Option OpenResult :=
  match c.prepare needsTci args env.registered with
  | .error code => some (failOpen code none c)
  | .ok (device, handle, bulkBuf) =>
      (c.register bulkBuf).exchangeOpen serve args env device handle bulkBuf

/-- `mcOpenSession`. -/
def mcOpenSession (args : OpenArgs) (env : OpenEnvironment) (c : Client) : Option OpenResult :=
  c.openCall false Daemon.serveOpenSession args env

/-- `mcOpenTrustlet`. -/
def mcOpenTrustlet (args : OpenArgs) (env : OpenEnvironment) (c : Client) : Option OpenResult :=
  c.openCall true Daemon.serveOpenTrustlet args env

/-- `mcOpenGPTA`: the daemon looks for a trusted application of this uuid. -/
def mcOpenGPTA (args : OpenArgs) (env : OpenEnvironment) (c : Client) : Option OpenResult :=
  c.openCall false Daemon.serveOpenSession args env

/-! ## What the daemon does -/

/-- The daemon opens a session for the call. -/
def DaemonOpens (args : OpenArgs) (env : OpenEnvironment) (device : Device) (handle : UInt32)
    (c : Client) : Prop :=
  env.sent = true ∧ device.connection ∈ c.daemon.opened ∧
    env.service.Opens (openCommand args handle)

instance (args : OpenArgs) (env : OpenEnvironment) (device : Device) (handle : UInt32)
    (c : Client) : Decidable (c.DaemonOpens args env device handle) :=
  inferInstanceAs (Decidable (_ ∧ _ ∧ _))

/-- The connect command carries a triple that the daemon finds: the new session under an
address that fits into 32 bits, or a session that was there before. -/
def NqFinds (args : OpenArgs) (env : OpenEnvironment) (c : Client) : Prop :=
  env.nqConn ∉ c.daemon.opened ∧ Daemon.hasDevice args.deviceId = true ∧
    (env.service.host.addr.toUInt32.toUInt64 = env.service.host.addr ∨
      ∃ s ∈ c.daemon.trustletSessions, s.addr = env.service.host.addr.toUInt32.toUInt64 ∧
        s.sessionMagic = env.service.host.magic ∧ s.sessionId = env.service.r.value)

instance (args : OpenArgs) (env : OpenEnvironment) (c : Client) :
    Decidable (c.NqFinds args env) :=
  inferInstanceAs (Decidable (_ ∧ _ ∧ (_ ∨ ∃ s ∈ c.daemon.trustletSessions, _)))

/-- Every step of the exchange succeeds. -/
structure Completes (args : OpenArgs) (env : OpenEnvironment) (device : Device)
    (handle : UInt32) (c : Client) : Prop where
  opens : c.DaemonOpens args env device handle
  unregistered : env.service.unregistered = true
  header : env.header = true
  payload : env.payload = true
  connected : env.connected = true
  nqSent : env.nqSent = true
  nqReceived : env.nqReceived = true
  nqFinds : c.NqFinds args env

instance (args : OpenArgs) (env : OpenEnvironment) (device : Device) (handle : UInt32)
    (c : Client) : Decidable (c.Completes args env device handle) :=
  decidable_of_iff (c.DaemonOpens args env device handle ∧ env.service.unregistered = true ∧
      env.header = true ∧ env.payload = true ∧ env.connected = true ∧ env.nqSent = true ∧
      env.nqReceived = true ∧ c.NqFinds args env)
    ⟨fun ⟨h₁, h₂, h₃, h₄, h₅, h₆, h₇, h₈⟩ => ⟨h₁, h₂, h₃, h₄, h₅, h₆, h₇, h₈⟩,
      fun ⟨h₁, h₂, h₃, h₄, h₅, h₆, h₇, h₈⟩ => ⟨h₁, h₂, h₃, h₄, h₅, h₆, h₇, h₈⟩⟩

/-- What a daemon's open command leaves, for either of the two commands. -/
def ServesOpen
    (serve : ConnPtr → CmdOpenSession → Daemon.OpenService → Daemon → Option Daemon) : Prop :=
  ∀ conn cmd service d t, serve conn cmd service d = some t →
    (¬ (conn ∈ d.opened ∧ service.Opens cmd) ∧ Daemon.AnsweredError conn d t) ∨
    ((conn ∈ d.opened ∧ service.Opens cmd) ∧ Daemon.Opened conn cmd service d t)

theorem servesOpen_serveOpenSession : ServesOpen Daemon.serveOpenSession :=
  fun _ _ _ _ _ h => Daemon.serveOpenSession_spec h

theorem servesOpen_serveOpenTrustlet : ServesOpen Daemon.serveOpenTrustlet :=
  fun _ _ _ _ _ h => Daemon.serveOpenTrustlet_spec h

/-- The daemon's sessions behind a call that may have opened one: those from before, and
the new one when it was opened. -/
def DaemonAfter (args : OpenArgs) (env : OpenEnvironment) (device : Device) (handle : UInt32)
    (c : Client) (t : Daemon) : Prop :=
  t.opened = c.daemon.opened ∧
    ((¬ c.DaemonOpens args env device handle ∧ t.nextRef = c.daemon.nextRef ∧
      t.trustletSessions.map Daemon.sessionCore =
        c.daemon.trustletSessions.map Daemon.sessionCore) ∨
    (c.DaemonOpens args env device handle ∧ t.nextRef = c.daemon.nextRef + 1 ∧
      ∃ frame : OpenFrame, frame.conn = device.connection ∧ frame.tciHandle = handle ∧
        frame.tciLen = args.len ∧
        t.trustletSessions.map Daemon.sessionCore =
          c.daemon.trustletSessions.map Daemon.sessionCore ++
            [Daemon.sessionCore (c.daemon.newSession frame env.service.r.value
              env.service.host.addr env.service.host.magic)]))

/-- The connect command finds the session that was just opened, or another one. -/
theorem nqAccepted_iff {args : OpenArgs} {env : OpenEnvironment} {device : Device}
    {handle : UInt32} {c : Client} {t m : Daemon}
    (hopened : Daemon.Opened device.connection (openCommand args handle) env.service c.daemon t)
    (haccept : t.accept env.nqConn = some m) :
    m.NqAccepted env.nqConn
      { deviceId := args.deviceId, sessionId := env.service.r.value
        deviceSessionId := env.service.host.addr.toUInt32
        sessionMagic := env.service.host.magic } ↔ c.NqFinds args env := by
  have hm : m.opened = c.daemon.opened ∧ m.trustletSessions = t.trustletSessions := by
    unfold Daemon.accept at haccept
    split at haccept
    · cases haccept
    · cases haccept
      exact ⟨hopened.opened, rfl⟩
  obtain ⟨frame, _, _, _, hlist⟩ := hopened.session
  unfold Daemon.NqAccepted NqFinds
  rw [hm.1, Daemon.findTrustletConnection, hm.2, hlist, List.find?_isSome]
  have hnew : (c.daemon.newSession frame env.service.r.value env.service.host.addr
      env.service.host.magic).addr = env.service.host.addr ∧
      (c.daemon.newSession frame env.service.r.value env.service.host.addr
      env.service.host.magic).sessionMagic = env.service.host.magic ∧
      (c.daemon.newSession frame env.service.r.value env.service.host.addr
      env.service.host.magic).sessionId = env.service.r.value := by
    unfold Daemon.newSession
    split <;> exact ⟨rfl, rfl, rfl⟩
  constructor
  · rintro ⟨hconn, hdevice, s, hs, hmatch⟩
    refine ⟨hconn, hdevice, ?_⟩
    simp only [decide_eq_true_eq] at hmatch
    rcases List.mem_append.mp hs with hs | hs
    · exact Or.inr ⟨s, hs, hmatch⟩
    · rw [List.mem_singleton.mp hs, hnew.1] at hmatch
      exact Or.inl hmatch.1.symm
  · rintro ⟨hconn, hdevice, hlow | ⟨s, hs, hmatch⟩⟩
    · refine ⟨hconn, hdevice, _, List.mem_append_right _ (List.mem_singleton_self _), ?_⟩
      simp [hnew.2.1, hlow]
    · exact ⟨hconn, hdevice, s, List.mem_append_left _ hs, by simpa using hmatch⟩

/-! ## What a call leaves -/

/-- The call has succeeded. -/
structure OpenSucceeded (args : OpenArgs) (env : OpenEnvironment) (device : Device)
    (handle : UInt32) (bulkBuf : Option BulkBufferDescriptor) (c : Client)
    (result : OpenResult) : Prop where
  completes : c.Completes args env device handle
  mcResult : result.mcResult = mcDrvOk
  devices : result.client.devices =
    (c.addSession args.deviceId env.service.r.value bulkBuf).devices
  registrations : result.client.registrations = c.registrations
  daemon : c.DaemonAfter args env device handle result.client.daemon

/-- The call has failed behind the registering of the TCI. -/
structure OpenFailed (args : OpenArgs) (env : OpenEnvironment) (device : Device)
    (handle : UInt32) (c : Client) (result : OpenResult) : Prop where
  incomplete : ¬ c.Completes args env device handle
  mcResult : result.mcResult ≠ mcDrvOk
  devices : result.client.devices = c.devices
  registrations : result.client.registrations = c.registrations
  daemon : c.DaemonAfter args env device handle result.client.daemon

theorem daemonAfter_opened {args : OpenArgs} {env : OpenEnvironment} {device : Device}
    {handle : UInt32} {c : Client} {t m : Daemon}
    (hopens : c.DaemonOpens args env device handle)
    (hopened : Daemon.Opened device.connection (openCommand args handle) env.service c.daemon t)
    (hcores : Daemon.SameCores t m) : c.DaemonAfter args env device handle m := by
  obtain ⟨frame, hconn, hhandle, hlen, hlist⟩ := hopened.session
  refine ⟨hcores.opened.trans hopened.opened, Or.inr ⟨hopens,
    hcores.nextRef.trans hopened.nextRef, frame, hconn, hhandle, hlen, ?_⟩⟩
  rw [hcores.cores, hlist, List.map_append]
  rfl

theorem daemonAfter_error {args : OpenArgs} {env : OpenEnvironment} {device : Device}
    {handle : UInt32} {c : Client} {t : Daemon}
    (hnot : ¬ c.DaemonOpens args env device handle)
    (hsame : Daemon.SameSessions c.daemon t) : c.DaemonAfter args env device handle t := by
  refine ⟨hsame.opened, Or.inl ⟨hnot, hsame.nextRef, ?_⟩⟩
  rw [hsame.trustletSessions]

theorem openFailed {args : OpenArgs} {env : OpenEnvironment} {device : Device}
    {handle : UInt32} {c : Client} {t : Daemon} {code : McResult} {sessionId : Option UInt32}
    (hafter : c.DaemonAfter args env device handle t) (hcode : code ≠ mcDrvOk)
    (hincomplete : ¬ c.Completes args env device handle) :
    OpenFailed args env device handle c (failOpen code sessionId { c with daemon := t }) :=
  ⟨hincomplete, hcode, rfl, rfl, hafter⟩

/-- `accept` changes no session. -/
theorem sameCores_accept {conn : ConnPtr} {d t : Daemon} (h : d.accept conn = some t) :
    Daemon.SameCores d t := by
  unfold Daemon.accept at h
  split at h
  · cases h
  · cases h
    exact ⟨rfl, rfl, rfl⟩

theorem connectNq_cases {args : OpenArgs} {env : OpenEnvironment} {device : Device}
    {handle : UInt32} {bulkBuf : Option BulkBufferDescriptor} {c : Client} {t : Daemon}
    {result : OpenResult} (hopens : c.DaemonOpens args env device handle)
    (hopened : Daemon.Opened device.connection (openCommand args handle) env.service c.daemon t)
    (hunregistered : env.service.unregistered = true) (hheader : env.header = true)
    (hpayload : env.payload = true)
    (h : { c with daemon := t }.connectNq args env bulkBuf env.service.r.value
      env.service.host.addr.toUInt32 env.service.host.magic = some result) :
    OpenSucceeded args env device handle bulkBuf c result ∨
      OpenFailed args env device handle c result := by
  unfold connectNq at h
  by_cases hconnected : env.connected = false
  · rw [if_pos hconnected] at h
    cases h
    right
    refine openFailed (daemonAfter_opened hopens hopened ⟨rfl, rfl, rfl⟩) (by decide) ?_
    intro hall
    exact absurd (hconnected.symm.trans hall.connected) (by decide)
  · rw [if_neg hconnected] at h
    cases haccept : t.accept env.nqConn with
    | none =>
        simp only [haccept] at h
        cases h
    | some m =>
        have hcores := sameCores_accept haccept
        simp only [haccept] at h
        by_cases hsent : env.nqSent = false
        · rw [if_pos hsent] at h
          cases h
          right
          refine openFailed (daemonAfter_opened hopens hopened hcores) (by decide) ?_
          intro hall
          exact absurd (hsent.symm.trans hall.nqSent) (by decide)
        · rw [if_neg hsent] at h
          obtain ⟨hserved, hanswer⟩ := Daemon.serveNqConnect_spec env.nqConn
            { deviceId := args.deviceId, sessionId := env.service.r.value
              deviceSessionId := env.service.host.addr.toUInt32
              sessionMagic := env.service.host.magic } m
          have hafter := daemonAfter_opened hopens hopened (hcores.trans hserved)
          by_cases hreceived : env.nqReceived = false
          · rw [if_pos hreceived] at h
            cases h
            right
            refine openFailed hafter (by decide) ?_
            intro hall
            exact absurd (hreceived.symm.trans hall.nqReceived) (by decide)
          · rw [if_neg hreceived] at h
            rcases hanswer with ⟨haccepted, hanswer⟩ | ⟨hrefused, code, hcode, hanswer⟩
            · simp only [hanswer, ne_eq, not_true_eq_false, if_false, Option.some.injEq] at h
              left
              have hcompletes : c.Completes args env device handle := by
                constructor
                · exact hopens
                · exact hunregistered
                · exact hheader
                · exact hpayload
                · simpa using hconnected
                · simpa using hsent
                · simpa using hreceived
                · exact (nqAccepted_iff hopened haccept).mp haccepted
              rw [← h]
              exact ⟨hcompletes, rfl, rfl, rfl, hafter⟩
            · simp only [hanswer, ne_eq, hcode, not_false_eq_true, if_true,
                Option.some.injEq] at h
              right
              rw [← h]
              refine openFailed hafter hcode ?_
              intro hall
              exact hrefused ((nqAccepted_iff hopened haccept).mpr hall.nqFinds)

theorem exchangeOpen_cases
    {serve : ConnPtr → CmdOpenSession → Daemon.OpenService → Daemon → Option Daemon}
    (hserve : ServesOpen serve) {args : OpenArgs} {env : OpenEnvironment} {device : Device}
    {handle : UInt32} {bulkBuf : Option BulkBufferDescriptor} {c : Client} {result : OpenResult}
    (h : c.exchangeOpen serve args env device handle bulkBuf = some result) :
    OpenSucceeded args env device handle bulkBuf c result ∨
      OpenFailed args env device handle c result := by
  unfold exchangeOpen at h
  by_cases hsent : env.sent = false
  · rw [if_pos hsent] at h
    cases h
    have hnot : ¬ c.DaemonOpens args env device handle := by
      intro hopens
      exact absurd (hsent.symm.trans hopens.1) (by decide)
    right
    exact openFailed (daemonAfter_error hnot ⟨rfl, rfl, rfl⟩) (by decide) fun hall => hnot hall.opens
  · rw [if_neg hsent] at h
    cases hserved : serve device.connection (openCommand args handle) env.service c.daemon with
    | none =>
        simp only [hserved] at h
        cases h
    | some t =>
        simp only [hserved] at h
        rcases hserve _ _ _ _ _ hserved with ⟨hnot, herror⟩ | ⟨hopens, hopened⟩
        · have hnotopens : ¬ c.DaemonOpens args env device handle := fun hopens => hnot hopens.2
          have hafter := daemonAfter_error hnotopens herror.toSameSessions
          obtain ⟨code, hcode, hanswer⟩ := herror.answered
          right
          by_cases hheader : env.header = false
          · rw [if_pos hheader] at h
            cases h
            exact openFailed hafter (by decide) fun hall => hnotopens hall.opens
          · rw [if_neg hheader, hanswer] at h
            cases h
            exact openFailed hafter (openError_ne_ok hcode) fun hall => hnotopens hall.opens
        · have hdaemon : c.DaemonOpens args env device handle :=
            ⟨by simpa using hsent, hopens.1, hopens.2⟩
          have hafter := daemonAfter_opened hdaemon hopened ⟨rfl, rfl, rfl⟩
          by_cases hheader : env.header = false
          · rw [if_pos hheader] at h
            cases h
            right
            refine openFailed hafter (by decide) ?_
            intro hall
            exact absurd (hheader.symm.trans hall.header) (by decide)
          · rw [if_neg hheader, hopened.answered] at h
            cases hunregistered : env.service.unregistered with
            | false =>
                simp only [hunregistered, Bool.false_eq_true, if_false] at h
                cases h
                right
                refine openFailed hafter (openError_ne_ok (by decide)) ?_
                intro hall
                exact absurd (hunregistered.symm.trans hall.unregistered) (by decide)
            | true =>
                simp only [hunregistered, if_true] at h
                by_cases hpayload : env.payload = false
                · rw [if_pos hpayload] at h
                  cases h
                  right
                  refine openFailed hafter (by decide) ?_
                  intro hall
                  exact absurd (hpayload.symm.trans hall.payload) (by decide)
                · rw [if_neg hpayload] at h
                  exact connectNq_cases hdaemon hopened hunregistered (by simpa using hheader)
                    (by simpa using hpayload) h

theorem checkOpen_ne_ok {needsTci : Bool} {args : OpenArgs} {code : McResult}
    (h : checkOpen needsTci args = some code) : code ≠ mcDrvOk := by
  unfold checkOpen at h
  intro hok
  rw [hok] at h
  repeat' split at h
  all_goals exact absurd h (by decide)

theorem tciHandle_ne_ok {needsTci : Bool} {args : OpenArgs} {registered : Except McResult UInt32}
    {device : Device} {code : McResult}
    (h : tciHandle needsTci args registered device = .error code) : code ≠ mcDrvOk := by
  unfold tciHandle at h
  intro hok
  rw [hok] at h
  repeat' split at h
  all_goals cases h

theorem prepare_error_ne_ok {needsTci : Bool} {args : OpenArgs}
    {registered : Except McResult UInt32} {c : Client} {code : McResult}
    (h : c.prepare needsTci args registered = .error code) : code ≠ mcDrvOk := by
  unfold prepare at h
  cases hcheck : checkOpen needsTci args with
  | some code' =>
      simp only [hcheck, Except.error.injEq] at h
      exact h ▸ checkOpen_ne_ok hcheck
  | none =>
      simp only [hcheck] at h
      cases hdevice : resolveDeviceId args.deviceId c.devices with
      | none =>
          simp only [hdevice, Except.error.injEq] at h
          rw [← h]
          decide
      | some device =>
          simp only [hdevice] at h
          cases htci : tciHandle needsTci args registered device with
          | ok found =>
              simp only [htci] at h
              cases h
          | error code' =>
              simp only [htci, Except.error.injEq] at h
              exact h ▸ tciHandle_ne_ok htci

/-- A call fails before its command, or its exchange with the daemon succeeds or fails. -/
theorem openCall_cases {needsTci : Bool}
    {serve : ConnPtr → CmdOpenSession → Daemon.OpenService → Daemon → Option Daemon}
    (hserve : ServesOpen serve) {args : OpenArgs} {env : OpenEnvironment} {c : Client}
    {result : OpenResult} (h : c.openCall needsTci serve args env = some result) :
    (∃ code, c.prepare needsTci args env.registered = .error code ∧ code ≠ mcDrvOk ∧
      result = failOpen code none c) ∨
    (∃ device handle bulkBuf,
      c.prepare needsTci args env.registered = .ok (device, handle, bulkBuf) ∧
        (OpenSucceeded args env device handle bulkBuf (c.register bulkBuf) result ∨
          OpenFailed args env device handle (c.register bulkBuf) result)) := by
  unfold openCall at h
  cases hprepare : c.prepare needsTci args env.registered with
  | error code =>
      simp only [hprepare, Option.some.injEq] at h
      exact Or.inl ⟨code, rfl, prepare_error_ne_ok hprepare, h.symm⟩
  | ok found =>
      obtain ⟨device, handle, bulkBuf⟩ := found
      simp only [hprepare] at h
      exact Or.inr ⟨device, handle, bulkBuf, rfl, exchangeOpen_cases hserve h⟩

/-! ## Atomicity -/

/-- The three calls. -/
inductive OpenKind where
  | session
  | trustlet
  | gpta
deriving DecidableEq

/-- A call that opens a session. -/
def mcOpen : OpenKind → OpenArgs → OpenEnvironment → Client → Option OpenResult
  | .session => mcOpenSession
  | .trustlet => mcOpenTrustlet
  | .gpta => mcOpenGPTA

/-- Whether the call insists on a TCI. -/
def OpenKind.needsTci : OpenKind → Bool
  | .trustlet => true
  | .session | .gpta => false

/-- Each of the three calls fails before its command, or its exchange succeeds or fails. -/
theorem mcOpen_cases {kind : OpenKind} {args : OpenArgs} {env : OpenEnvironment} {c : Client}
    {result : OpenResult} (h : c.mcOpen kind args env = some result) :
    (∃ code, c.prepare kind.needsTci args env.registered = .error code ∧ code ≠ mcDrvOk ∧
      result = failOpen code none c) ∨
    (∃ device handle bulkBuf,
      c.prepare kind.needsTci args env.registered = .ok (device, handle, bulkBuf) ∧
        (OpenSucceeded args env device handle bulkBuf (c.register bulkBuf) result ∨
          OpenFailed args env device handle (c.register bulkBuf) result)) := by
  cases kind with
  | session => exact openCall_cases servesOpen_serveOpenSession h
  | trustlet => exact openCall_cases servesOpen_serveOpenTrustlet h
  | gpta => exact openCall_cases servesOpen_serveOpenSession h

/-- Client and daemon have the sessions of before, and the kernel module the
registrations of before. -/
structure Unchanged (c t : Client) : Prop where
  devices : t.devices = c.devices
  registrations : t.registrations = c.registrations
  sessions : t.daemon.refs = c.daemon.refs

/-- The call is refused before it registers anything, or it registers nothing and the
daemon opens no session, or every step succeeds. -/
def FailsClean (needsTci : Bool) (args : OpenArgs) (env : OpenEnvironment) (c : Client) : Prop :=
  match c.prepare needsTci args env.registered with
  | .error _ => True
  | .ok (device, handle, bulkBuf) =>
      (bulkBuf = none ∧ ¬ c.DaemonOpens args env device handle) ∨
        c.Completes args env device handle

instance (needsTci : Bool) (args : OpenArgs) (env : OpenEnvironment) (c : Client) :
    Decidable (c.FailsClean needsTci args env) :=
  match h : c.prepare needsTci args env.registered with
  | .error _ => isTrue (by simp [FailsClean, h])
  | .ok (device, handle, bulkBuf) =>
      decidable_of_iff ((bulkBuf = none ∧ ¬ c.DaemonOpens args env device handle) ∨
        c.Completes args env device handle) (by simp [FailsClean, h])

/-- The numbers of the daemon's sessions change exactly when one is opened. -/
theorem DaemonAfter.refs_eq_iff {args : OpenArgs} {env : OpenEnvironment} {device : Device}
    {handle : UInt32} {c : Client} {t : Daemon} (h : c.DaemonAfter args env device handle t) :
    t.refs = c.daemon.refs ↔ ¬ c.DaemonOpens args env device handle := by
  have hrefs : ∀ d : Daemon, d.refs = (d.trustletSessions.map Daemon.sessionCore).map Prod.fst := by
    intro d
    rw [Daemon.refs, List.map_map]
    rfl
  obtain ⟨_, ⟨hnot, _, hcores⟩ | ⟨hopens, _, frame, _, _, _, hcores⟩⟩ := h
  · rw [hrefs t, hcores, ← hrefs c.daemon]
    exact ⟨fun _ => hnot, fun _ => rfl⟩
  · rw [hrefs t, hcores, List.map_append, ← hrefs c.daemon]
    constructor
    · intro heq
      have hlength := congrArg List.length heq
      simp at hlength
    · exact fun hnot => absurd hopens hnot

/-- Registering a buffer decides nothing about the exchange. -/
theorem completes_register {args : OpenArgs} {env : OpenEnvironment} {device : Device}
    {handle : UInt32} {bulkBuf : Option BulkBufferDescriptor} {c : Client} :
    (c.register bulkBuf).Completes args env device handle ↔
      c.Completes args env device handle := by
  constructor <;>
  · rintro ⟨hopens, hunregistered, hheader, hpayload, hconnected, hsent, hreceived, hfinds⟩
    exact ⟨hopens, hunregistered, hheader, hpayload, hconnected, hsent, hreceived, hfinds⟩

theorem OpenFailed.unchanged_iff {args : OpenArgs} {env : OpenEnvironment} {device : Device}
    {handle : UInt32} {bulkBuf : Option BulkBufferDescriptor} {c : Client} {result : OpenResult}
    (h : OpenFailed args env device handle (c.register bulkBuf) result) :
    Unchanged c result.client ↔ bulkBuf = none ∧ ¬ c.DaemonOpens args env device handle := by
  have hregistrations : result.client.registrations = c.registrations ↔ bulkBuf = none := by
    rw [h.registrations, register]
    cases bulkBuf with
    | none => simp
    | some blkBuf => simp
  have hrefs : result.client.daemon.refs = c.daemon.refs ↔
      ¬ c.DaemonOpens args env device handle := h.daemon.refs_eq_iff
  constructor
  · intro hsame
    exact ⟨hregistrations.mp hsame.registrations, hrefs.mp hsame.sessions⟩
  · rintro ⟨hnone, hnot⟩
    exact ⟨h.devices, hregistrations.mpr hnone, hrefs.mpr hnot⟩

/-- A call that opens a session and fails leaves nothing behind, exactly when it is
refused before it registers anything, or registers nothing and opens nothing, or does
not fail. -/
theorem mcOpen_atomic_iff (kind : OpenKind) (args : OpenArgs) (env : OpenEnvironment)
    (c : Client) (result : OpenResult) (h : c.mcOpen kind args env = some result) :
    (result.mcResult ≠ mcDrvOk → Unchanged c result.client) ↔
      c.FailsClean kind.needsTci args env := by
  unfold FailsClean
  rcases mcOpen_cases h with ⟨code, hprepare, _, rfl⟩ | ⟨device, handle, bulkBuf, hprepare, hresult⟩
  · rw [hprepare]
    exact ⟨fun _ => trivial, fun _ _ => ⟨rfl, rfl, rfl⟩⟩
  · rw [hprepare]
    rcases hresult with hok | hfailed
    · constructor
      · exact fun _ => Or.inr (completes_register.mp hok.completes)
      · exact fun _ hne => absurd hok.mcResult hne
    · constructor
      · intro hatomic
        exact Or.inl (hfailed.unchanged_iff.mp (hatomic hfailed.mcResult))
      · rintro (hclean | hcompletes) _
        · exact hfailed.unchanged_iff.mpr hclean
        · exact absurd (completes_register.mpr hcompletes) hfailed.incomplete

/-! ## Two calls -/

/-- A client that has opened the device over this connection, with the blocks that it has
allocated so far. -/
def opened (conn : ConnPtr) (wsmL2List : List WsmPtr) : Client where
  devices := [{ Device.new mcDeviceIdDefault conn 0 with wsmL2List := wsmL2List }]
  registrations := []
  daemon :=
    { Daemon.init with connections := [conn], opened := [conn], peerConnections := [conn] }

/-- A TCI in ordinary memory. -/
def ordinaryTci : OpenArgs where
  session := true
  deviceId := mcDeviceIdDefault
  service := true
  tci := 0x5000
  len := 0x100

/-- Everything succeeds: the table is registered under handle 9, and the new session has
id 3. -/
def allSucceeds : OpenEnvironment where
  registered := .ok 9
  sent := true
  service :=
    { answers := Daemon.blobAnswers 0 0x100
      r := Daemon.successReply mcMcpCmdOpenSession 3
      host := Daemon.hostAt 0x4000
      unregistered := true }
  header := true
  payload := true
  connected := true
  nqConn := 2
  nqSent := true
  nqReceived := true

theorem mcOpen_atomic_iff_unregistered :
    ∃ result, (opened 1 []).mcOpen .session ordinaryTci
        { allSucceeds with registered := .error (makeMcDrvKmodWithErrno 12) } = some result ∧
      result.mcResult ≠ mcDrvOk ∧ Unchanged (opened 1 []) result.client :=
  ⟨_, rfl, by decide, (mcOpen_atomic_iff .session ordinaryTci
    { allSucceeds with registered := .error (makeMcDrvKmodWithErrno 12) } (opened 1 []) _ rfl).mpr
      (by decide) (by decide)⟩

/-- The daemon has opened the session, and the second channel cannot be connected: the
table stays registered, and the session stays open. -/
theorem not_mcOpen_atomic :
    ¬ ∀ kind args env c result, mcOpen kind args env c = some result →
      result.mcResult ≠ mcDrvOk → Unchanged c result.client := by
  intro hatomic
  have hsame := hatomic .session ordinaryTci { allSucceeds with connected := false } (opened 1 []) _
    rfl (by decide)
  exact absurd hsame.sessions (by decide)

end Client

end Exynos8890.MobiCore.ClientLib
