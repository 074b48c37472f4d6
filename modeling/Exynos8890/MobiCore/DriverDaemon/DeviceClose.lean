import Exynos8890.Library.NodeList
import Exynos8890.MobiCore.DriverDaemon.Service
import Exynos8890.MobiCore.DriverDaemon.WellFormed

/-!
# Closing the sessions of a connection

`MobiCoreDevice::close` walks the list of sessions from its end with a reverse iterator,
and `closeSession` erases the node of the session that it closes.  The iterator was stepped
before, so its base is the node of the session that is being closed.

Main results:

- Definition `closeRun`: the loop with its iterator, which stops where the iterator is used
  behind the erasure of its base.
- Theorem `closesOwned_iff`: the loop ends and has closed each session of the connection
  once, newest first, if and only if no session of the connection is erased or closed a
  second time.
-/

namespace Exynos8890.MobiCore

namespace Daemon

/-! ## One session -/

/-- What happens while `closeSession` closes a session: the answer of the secure world, the
notifications that the IRQ thread queues for the session before it, the answer to a second
attempt, and whether assertions are compiled out. -/
structure CloseAnswer where
  r : McpReply
  received : List Notification
  retry : McpReply
  ndebug : Bool

/-- The notifications that the IRQ thread queues for a session. -/
def receive (ref : SessionRef) (received : List Notification) (d : Daemon) : Daemon :=
  d.updateSession ref fun s => received.foldl (fun s n => s.queueNotification n) s

/-- `closeSession` from end to end, for a session that the loop has read.  There is no result
when an assertion stops the daemon. -/
def closeSessionCall (conn : ConnPtr) (session : TrustletSession) (answer : CloseAnswer)
    (d : Daemon) : Option Daemon :=
  match d.closeSession conn session.sessionId (.deviceClose session.ref [] false) with
  | none => none
  | some d =>
      match d.srv with
      | .closeWait conn sessionId ref caller =>
          ((d.receive ref answer.received).closeSessionReply conn sessionId ref caller
            answer.r).bind (finishClose answer.retry answer.ndebug)
      | _ => some d

/-! ## The loop -/

/-- How the loop of `close` ends. -/
inductive CloseRun where
  | finished (d : Daemon)
  /-- The iterator is compared or read although its base was erased. -/
  | erasedIterator
  | halted
  | outOfFuel

/-- The loop of `close`, from the base of its reverse iterator on. -/
def closeLoop (conn : ConnPtr) (answers : SessionRef → CloseAnswer) :
    Nat → Option SessionRef → Daemon → CloseRun
  | 0, _, _ => .outOfFuel
  | n + 1, base, d =>
      if ¬ NodeList.Valid d.refs base then .erasedIterator
      else if base = NodeList.first d.refs then .finished d
      else
        match (NodeList.prev d.refs base).bind d.sessionAt with
        | none => .halted
        | some session =>
            -- the iterator is stepped before the session is closed
            if session.deviceConnection = some conn then
              match d.closeSessionCall conn session (answers session.ref) with
              | none => .halted
              | some d => closeLoop conn answers n (some session.ref) d
            else closeLoop conn answers n (some session.ref) d

/-- The loop of `close`, from `rbegin()` on. -/
def closeRun (conn : ConnPtr) (answers : SessionRef → CloseAnswer) (d : Daemon) : CloseRun :=
  closeLoop conn answers (d.refs.length + 1) none d

/-! ## What it should do -/

/-- The close commands that were sent to the secure world. -/
def closesSent (d : Daemon) : List UInt32 :=
  d.trace.filterMap fun
    | .mcp (.closeSession sessionId) => some sessionId
    | _ => none

/-- The ids of the sessions of the connection. -/
def ownedIds (conn : ConnPtr) (sessions : List TrustletSession) : List UInt32 :=
  (sessions.filter fun s => s.deviceConnection = some conn).map TrustletSession.sessionId

/-- The loop ends, has sent one close command for each session of the connection, the newest
first, and has left the sessions of other connections as they were. -/
def ClosesOwned (conn : ConnPtr) (answers : SessionRef → CloseAnswer) (d : Daemon) : Prop :=
  ∃ t, closeRun conn answers d = .finished t ∧
    t.closesSent = d.closesSent ++ (ownedIds conn d.trustletSessions).reverse ∧
    ∀ s ∈ d.trustletSessions, s.deviceConnection ≠ some conn → s ∈ t.trustletSessions

/-- The session stays in the list and is closed with one command: the secure world refuses
the close, and it does not fail for a GP session whose TA died in the meantime. -/
def Stays (s : TrustletSession) (answer : CloseAnswer) : Prop :=
  answer.r.closeResult ≠ mcMcpRetOk ∧
    (s.gpLevel = 1 → answer.r.closeResult = makeMcDrvMcpError mcMcpRetErrCloseTaskFailed →
      ∀ n ∈ answer.received, n.payload = 0)

instance (s : TrustletSession) (answer : CloseAnswer) : Decidable (Stays s answer) :=
  inferInstanceAs (Decidable (_ ∧ _))

/-! ## Closing one session -/

/-- A change of a session object that keeps what identifies it. -/
structure Keeps (f : TrustletSession → TrustletSession) : Prop where
  ref : ∀ s, (f s).ref = s.ref
  sessionId : ∀ s, (f s).sessionId = s.sessionId
  gpLevel : ∀ s, (f s).gpLevel = s.gpLevel

theorem keeps_receive (received : List Notification) :
    Keeps fun s => received.foldl (fun s n => s.queueNotification n) s := by
  induction received with
  | nil => exact ⟨fun _ => rfl, fun _ => rfl, fun _ => rfl⟩
  | cons n received ih =>
      constructor
      · intro s
        rw [List.foldl_cons, ih.ref, TrustletSession.queueNotification_ref]
      · intro s
        rw [List.foldl_cons, ih.sessionId, TrustletSession.queueNotification_sessionId]
      · intro s
        rw [List.foldl_cons, ih.gpLevel, TrustletSession.queueNotification_gpLevel]

theorem Keeps.comp {f g : TrustletSession → TrustletSession} (hf : Keeps f) (hg : Keeps g) :
    Keeps (f ∘ g) where
  ref s := (hf.ref (g s)).trans (hg.ref s)
  sessionId s := (hf.sessionId (g s)).trans (hg.sessionId s)
  gpLevel s := (hf.gpLevel (g s)).trans (hg.gpLevel s)

/-- A GP session that is being closed is dead behind an exit notification, and only then. -/
theorem foldl_receive_dead_iff {s : TrustletSession} (hgp : s.gpLevel = 1)
    (hclose : s.sessionState = .closeSend) (received : List Notification) :
    (received.foldl (fun s n => s.queueNotification n) s).sessionState = .taDead ↔
      ∃ n ∈ received, n.payload ≠ 0 := by
  have hstays : ∀ (received : List Notification) (s : TrustletSession), s.sessionState = .taDead →
      (received.foldl (fun s n => s.queueNotification n) s).sessionState = .taDead := by
    intro received
    induction received with
    | nil => exact fun s hdead => hdead
    | cons n received ih =>
        intro s hdead
        rw [List.foldl_cons, TrustletSession.queueNotification_dead hdead]
        exact ih s hdead
  induction received with
  | nil => simp [hclose]
  | cons n received ih =>
      rw [List.foldl_cons]
      by_cases hn : n.payload = 0
      · have hexit : ¬ s.isExit n := fun h => h.2 hn
        have hsame : s.queueNotification n = s := by
          simp [TrustletSession.queueNotification, hclose, hexit]
        rw [hsame]
        exact ih.trans (by simp [hn])
      · refine iff_of_true ?_ ⟨n, List.mem_cons_self, hn⟩
        exact hstays received _ (TrustletSession.queueNotification_exit ⟨hgp, hn⟩)

/-- `closeSession` has sent its command: the session object has changed, and for a GP session
it is dead when an exit notification has arrived. -/
structure CloseSent (s : TrustletSession) (received : List Notification) (d m : Daemon) : Prop where
  changed : ∃ f, Keeps f ∧
    m.trustletSessions = KeyedList.update TrustletSession.ref s.ref f d.trustletSessions ∧
    (s.gpLevel = 1 → ((f s).sessionState = .taDead ↔ ∃ n ∈ received, n.payload ≠ 0))
  irq : m.irq = d.irq
  sent : m.closesSent = d.closesSent ++ [s.sessionId]

/-! ### The commands on the trace -/

@[simp]
theorem closesSent_sendSessionCloseCmd (sessionId : UInt32) (pc : ServerPc) (d : Daemon) :
    (d.sendSessionCloseCmd sessionId pc).closesSent = d.closesSent ++ [sessionId] := by
  rw [closesSent, sendSessionCloseCmd_trace, List.filterMap_append]
  rfl

@[simp]
theorem closesSent_deleteConnection (connection : Option ConnPtr) (d : Daemon) :
    (d.deleteConnection connection).closesSent = d.closesSent := by
  rw [closesSent, deleteConnection_trace, List.filterMap_append]
  cases connection <;> exact List.append_nil _

@[simp]
theorem closesSent_unmapClosed (r : McpReply) (sessionId : UInt32) (d : Daemon) :
    (d.unmapClosed r sessionId).closesSent = d.closesSent := by
  rw [closesSent, unmapClosed_trace, List.filterMap_append]
  exact List.append_nil _

@[simp]
theorem closesSent_unlockBuffers (s : TrustletSession) (d : Daemon) :
    (d.unlockBuffers s).closesSent = d.closesSent := by
  rw [closesSent, unlockBuffers_trace, List.filterMap_append]
  have hnone : (s.popBulkBuffs.map fun pWsm => Event.unlockWsmL2 pWsm.handle).filterMap (fun
      | .mcp (.closeSession sessionId) => some sessionId
      | _ => none) = [] := by
    rw [List.filterMap_map]
    exact List.filterMap_eq_nil_iff.mpr fun _ _ => rfl
  rw [hnone]
  exact List.append_nil _

@[simp]
theorem closesSent_deleteSession (s : TrustletSession) (d : Daemon) :
    (d.deleteSession s).closesSent = d.closesSent :=
  closesSent_deleteConnection s.notificationConnection d

@[simp]
theorem closesSent_updateSession (ref : SessionRef) (f : TrustletSession → TrustletSession)
    (d : Daemon) : (d.updateSession ref f).closesSent = d.closesSent :=
  rfl

theorem closesSent_closeReturn (conn : ConnPtr) (sessionId : UInt32) (cur : SessionRef)
    (ret : McResult) (d : Daemon) :
    (d.closeReturn conn sessionId (.deviceClose cur [] false) ret).closesSent = d.closesSent := by
  rw [closesSent, closeReturn_trace, List.filterMap_append]
  exact List.append_nil _

/-! ### The call -/

section OneSession

variable {conn : ConnPtr} {s : TrustletSession} {d : Daemon}

theorem keeps_disconnect : Keeps TrustletSession.disconnect :=
  ⟨fun _ => rfl, fun _ => rfl, fun _ => rfl⟩

/-- The notifications come to the session as the command has left it. -/
theorem receive_sessions {f : TrustletSession → TrustletSession} (hf : Keeps f) {m : Daemon}
    (hm : m.trustletSessions = KeyedList.update TrustletSession.ref s.ref f d.trustletSessions)
    (received : List Notification) :
    (m.receive s.ref received).trustletSessions = KeyedList.update TrustletSession.ref s.ref
      ((fun s => received.foldl (fun s n => s.queueNotification n) s) ∘ f) d.trustletSessions := by
  rw [receive, updateSession_trustletSessions, hm]
  exact KeyedList.update_update (fun a ha => (hf.ref a).trans ha) _

/-- `closeSession` up to the answer. -/
theorem closeSession_sent (hfind : d.findSession conn s.sessionId = some s)
    (hirq : d.irq.holdsMutex = false) (caller : CloseCaller) (received : List Notification) :
    ∃ m, d.closeSession conn s.sessionId caller = some m ∧
      m.srv = .closeWait conn s.sessionId s.ref caller ∧
      CloseSent s received d (m.receive s.ref received) := by
  have hreceive := keeps_receive received
  by_cases hgp : s.gpLevel = 1
  · refine ⟨(d.disconnectClient s).sendSessionCloseCmd s.sessionId
      (.closeWait conn s.sessionId s.ref caller), ?_, rfl, ?_, rfl, ?_⟩
    · simp [closeSession, hfind, hgp, hirq]
    · refine ⟨_, hreceive.comp keeps_disconnect, receive_sessions keeps_disconnect rfl received, ?_⟩
      intro _
      exact @foldl_receive_dead_iff s.disconnect hgp rfl received
    · rw [receive, closesSent_updateSession, closesSent_sendSessionCloseCmd, disconnectClient,
        closesSent_updateSession, closesSent_deleteConnection]
  · refine ⟨d.sendSessionCloseCmd s.sessionId (.closeWait conn s.sessionId s.ref caller), ?_, rfl,
      ?_, rfl, ?_⟩
    · simp [closeSession, hfind, hgp]
    · have hid : Keeps (fun s : TrustletSession => s) := ⟨fun _ => rfl, fun _ => rfl, fun _ => rfl⟩
      refine ⟨_, hreceive.comp hid, receive_sessions hid ?_ received, ?_⟩
      · simp [KeyedList.update, sendSessionCloseCmd]
      · exact fun hgp' => absurd hgp' hgp
    · rw [receive, closesSent_updateSession, closesSent_sendSessionCloseCmd]

/-- What is left when the call returns: the session is listed or not, and one or two commands
were sent. -/
structure CloseReturned (s : TrustletSession) (d t : Daemon) (erased : Bool) (again : Bool) :
    Prop where
  sessions : ∃ f, Keeps f ∧ t.trustletSessions =
    if erased then KeyedList.delete TrustletSession.ref s.ref
      (KeyedList.update TrustletSession.ref s.ref f d.trustletSessions)
    else KeyedList.update TrustletSession.ref s.ref f d.trustletSessions
  irq : t.irq = d.irq
  sent : t.closesSent = d.closesSent ++ s.sessionId :: if again then [s.sessionId] else []

theorem closeReturn_stays {received : List Notification} {m t : Daemon}
    (hsent : CloseSent s received d m) (hsessions : t.trustletSessions = m.trustletSessions)
    (hirq : t.irq = m.irq) (hcloses : t.closesSent = m.closesSent) :
    CloseReturned s d t false false := by
  obtain ⟨f, hf, hm, _⟩ := hsent.changed
  exact ⟨⟨f, hf, hsessions.trans hm⟩, hirq.trans hsent.irq, hcloses.trans hsent.sent⟩

/-- The test of the answer of the secure world, behind the first command or the second. -/
theorem closeSessionFinish_returned {received : List Notification} {m m' : Daemon}
    (hsent : CloseSent s received d m) {again : Bool} {listed : TrustletSession} {ret : McResult}
    (hsessions : m'.trustletSessions = m.trustletSessions) (hirq : m'.irq = m.irq)
    (hcloses : m'.closesSent = m.closesSent ++ if again then [s.sessionId] else [])
    (href : listed.ref = s.ref) :
    CloseReturned s d (m'.closeSessionFinish conn s.sessionId listed (.deviceClose s.ref [] false)
      ret) (ret = mcMcpRetOk) again := by
  obtain ⟨f, hf, hm, _⟩ := hsent.changed
  have hall : m'.closesSent = d.closesSent ++ s.sessionId :: if again then [s.sessionId] else [] := by
    rw [hcloses, hsent.sent, List.append_assoc]
    rfl
  unfold closeSessionFinish
  by_cases hret : ret = mcMcpRetOk
  · rw [if_neg (not_not.mpr hret), decide_eq_true hret]
    refine ⟨⟨f, hf, ?_⟩, hirq.trans hsent.irq, ?_⟩
    · simp [hsessions, hm, href]
    · rw [closesSent_closeReturn, closesSent_deleteSession, closesSent_unlockBuffers, hall]
  · rw [if_pos hret, decide_eq_false hret]
    refine ⟨⟨f, hf, hsessions.trans hm⟩, hirq.trans hsent.irq, ?_⟩
    rw [closesSent_closeReturn, hall]

theorem finishClose_finish (retry : McpReply) (ndebug : Bool) (m : Daemon)
    (sessionId : UInt32) (listed : TrustletSession) (cur : SessionRef) (ret : McResult) :
    finishClose retry ndebug (m.closeSessionFinish conn sessionId listed
      (.deviceClose cur [] false) ret) =
      some (m.closeSessionFinish conn sessionId listed (.deviceClose cur [] false) ret) := by
  unfold closeSessionFinish
  split
  · rfl
  · rfl

/-- What a call leaves: the session stays listed behind one command if and only if it stays;
otherwise it is erased, or a second command was sent. -/
theorem closeSessionCall_returned (hd : d.refs.Nodup) (hs : s ∈ d.trustletSessions)
    (hfind : d.findSession conn s.sessionId = some s) (hirq : d.irq.holdsMutex = false)
    (answer : CloseAnswer) :
    (Stays s answer →
        ∃ t, d.closeSessionCall conn s answer = some t ∧ CloseReturned s d t false false) ∧
      (¬ Stays s answer → ∀ t, d.closeSessionCall conn s answer = some t →
        CloseReturned s d t true false ∨ ∃ erased, CloseReturned s d t erased true) := by
  obtain ⟨m, hm, hsrv, hsent⟩ :=
    closeSession_sent hfind hirq (.deviceClose s.ref [] false) answer.received
  obtain ⟨f, hf, hsessions, hdead⟩ := hsent.changed
  have hat : (m.receive s.ref answer.received).sessionAt s.ref = some (f s) := by
    rw [sessionAt, hsessions]
    exact KeyedList.lookup_update_self hf.ref (sessionAt_of_mem hd hs)
  have hcall : d.closeSessionCall conn s answer =
      ((m.receive s.ref answer.received).closeSessionReply conn s.sessionId s.ref
        (.deviceClose s.ref [] false) answer.r).bind (finishClose answer.retry answer.ndebug) := by
    simp only [closeSessionCall, hm, hsrv]
  rw [hcall]
  set sent := m.receive s.ref answer.received with hsentdef
  have hlisted : (sent.unmapClosed answer.r s.sessionId).sessionAt s.ref = some (f s) := hat
  by_cases hfails : s.gpLevel = 1 ∧
      answer.r.closeResult = makeMcDrvMcpError mcMcpRetErrCloseTaskFailed
  · have hok : answer.r.closeResult ≠ mcMcpRetOk := hfails.2 ▸ makeMcDrvMcpError_ne_ok _
    by_cases hstate : (f s).sessionState = .taDead
    · -- the second attempt
      obtain ⟨n, hn, hpayload⟩ := (hdead hfails.1).mp hstate
      have hleaves : ¬ Stays s answer := fun h => hpayload (h.2 hfails.1 hfails.2 n hn)
      refine ⟨fun h => absurd h hleaves, fun _ t ht => Or.inr ?_⟩
      have hreply : sent.closeSessionReply conn s.sessionId s.ref (.deviceClose s.ref [] false)
          answer.r = some ((sent.unmapClosed answer.r s.sessionId).sendSessionCloseCmd s.sessionId
            (.closeRetryWait conn s.sessionId s.ref (.deviceClose s.ref [] false))) := by
        simp only [closeSessionReply, hlisted, hf.gpLevel, hfails, hstate, and_self, if_true]
      rw [hreply, Option.bind_some] at ht
      simp only [finishClose, sendSessionCloseCmd_srv] at ht
      by_cases hhalts : answer.retry.closeResult ≠ mcMcpRetOk ∧ answer.ndebug = false
      · rw [if_pos hhalts] at ht
        cases ht
      · rw [if_neg hhalts] at ht
        have hlisted' : (((sent.unmapClosed answer.r s.sessionId).sendSessionCloseCmd s.sessionId
            (.closeRetryWait conn s.sessionId s.ref (.deviceClose s.ref [] false))).unmapClosed
              answer.retry s.sessionId).sessionAt s.ref = some (f s) := hat
        simp only [closeSessionRetryReply, hlisted', if_neg hhalts, Option.some.injEq] at ht
        rw [← ht]
        refine ⟨_, closeSessionFinish_returned hsent rfl rfl ?_ (hf.ref s)⟩
        simp
    · have hpayload : ∀ n ∈ answer.received, n.payload = 0 := by
        intro n hn
        by_contra hne
        exact hstate ((hdead hfails.1).mpr ⟨n, hn, hne⟩)
      have hreply : sent.closeSessionReply conn s.sessionId s.ref (.deviceClose s.ref [] false)
          answer.r = some ((sent.unmapClosed answer.r s.sessionId).closeReturn conn s.sessionId
            (.deviceClose s.ref [] false) mcMcpRetOk) := by
        simp only [closeSessionReply, hlisted, hf.gpLevel, hfails, hstate, and_self, if_true,
          if_false]
      refine ⟨fun _ => ⟨_, by rw [hreply]; rfl, ?_⟩, fun h => absurd ⟨hok, fun _ _ => hpayload⟩ h⟩
      refine closeReturn_stays hsent rfl rfl ?_
      rw [closesSent_closeReturn, closesSent_unmapClosed]
  · have hreply : sent.closeSessionReply conn s.sessionId s.ref (.deviceClose s.ref [] false)
        answer.r = some ((sent.unmapClosed answer.r s.sessionId).closeSessionFinish conn
          s.sessionId (f s) (.deviceClose s.ref [] false) answer.r.closeResult) := by
      simp only [closeSessionReply, hlisted, hf.gpLevel, hfails, if_false]
    have hreturned : CloseReturned s d ((sent.unmapClosed answer.r s.sessionId).closeSessionFinish
        conn s.sessionId (f s) (.deviceClose s.ref [] false) answer.r.closeResult)
        (answer.r.closeResult = mcMcpRetOk) false :=
      closeSessionFinish_returned hsent rfl rfl (by simp) (hf.ref s)
    rw [hreply, Option.bind_some, finishClose_finish]
    by_cases hok : answer.r.closeResult = mcMcpRetOk
    · rw [decide_eq_true hok] at hreturned
      refine ⟨fun h => absurd hok h.1, fun _ t ht => Or.inl ?_⟩
      rwa [← Option.some.inj ht]
    · rw [decide_eq_false hok] at hreturned
      refine ⟨fun _ => ⟨_, rfl, hreturned⟩, fun h => absurd ⟨hok, fun hgp hret => ?_⟩ h⟩
      exact absurd ⟨hgp, hret⟩ hfails

theorem closeSessionCall_prefix (hd : d.refs.Nodup) (hs : s ∈ d.trustletSessions)
    (hfind : d.findSession conn s.sessionId = some s) (hirq : d.irq.holdsMutex = false)
    {answer : CloseAnswer} {t : Daemon} (ht : d.closeSessionCall conn s answer = some t) :
    ∃ erased again, CloseReturned s d t erased again := by
  obtain ⟨hstays, hleaves⟩ := closeSessionCall_returned hd hs hfind hirq answer
  by_cases h : Stays s answer
  · obtain ⟨t', ht', hreturned⟩ := hstays h
    cases ht.symm.trans ht'
    exact ⟨false, false, hreturned⟩
  · rcases hleaves h t ht with hreturned | ⟨erased, hreturned⟩
    · exact ⟨true, false, hreturned⟩
    · exact ⟨erased, true, hreturned⟩

end OneSession

/-! ## The list of sessions -/

/-- The sessions are distinct objects with distinct ids, and the IRQ thread is outside of its
critical section. -/
structure Closable (d : Daemon) : Prop where
  refs : d.refs.Nodup
  ids : (d.trustletSessions.map TrustletSession.sessionId).Nodup
  irq : d.irq.holdsMutex = false

section Lists

variable {conn : ConnPtr} {s : TrustletSession} {d t : Daemon} {erased again : Bool}

theorem Closable.findSession (hd : d.Closable) (hs : s ∈ d.trustletSessions)
    (howner : s.deviceConnection = some conn) : d.findSession conn s.sessionId = some s := by
  have hfound : d.getTrustletSession s.sessionId = some s := KeyedList.lookup_of_mem hd.ids hs
  simp [Daemon.findSession, hfound, howner]

theorem CloseReturned.closable (h : CloseReturned s d t erased again) (hd : d.Closable) :
    t.Closable := by
  obtain ⟨f, hf, hsessions⟩ := h.sessions
  have hrefs : (KeyedList.update TrustletSession.ref s.ref f d.trustletSessions).map
      TrustletSession.ref = d.refs := KeyedList.map_update hf.ref _
  have hids : (KeyedList.update TrustletSession.ref s.ref f d.trustletSessions).map
      TrustletSession.sessionId = d.trustletSessions.map TrustletSession.sessionId :=
    KeyedList.map_update hf.sessionId _
  have hkept : (KeyedList.update TrustletSession.ref s.ref f d.trustletSessions |>.map
      TrustletSession.ref).Nodup := hrefs ▸ hd.refs
  refine ⟨?_, ?_, h.irq ▸ hd.irq⟩
  · rw [Daemon.refs, hsessions]
    cases erased with
    | false => exact hkept
    | true => exact KeyedList.nodup_delete hkept
  · rw [hsessions]
    cases erased with
    | false => exact hids ▸ hd.ids
    | true => exact (hids ▸ hd.ids).sublist (List.eraseP_sublist.map _)

theorem CloseReturned.not_mem_refs (h : CloseReturned s d t true again) (hd : d.Closable) :
    s.ref ∉ t.refs := by
  obtain ⟨f, hf, hsessions⟩ := h.sessions
  have hrefs : (KeyedList.update TrustletSession.ref s.ref f d.trustletSessions).map
      TrustletSession.ref = d.refs := KeyedList.map_update hf.ref _
  intro hmem
  rw [Daemon.refs, hsessions, if_pos rfl] at hmem
  obtain ⟨x, hx, href⟩ := List.mem_map.mp hmem
  exact ((KeyedList.mem_delete (hrefs ▸ hd.refs)).mp hx).2 href

theorem CloseReturned.split (h : CloseReturned s d t false again) (hd : d.Closable)
    {pre post : List TrustletSession} (hlist : d.trustletSessions = pre ++ s :: post) :
    ∃ f : TrustletSession → TrustletSession, (f s).ref = s.ref ∧
      t.trustletSessions = pre ++ f s :: post := by
  obtain ⟨f, hf, hsessions⟩ := h.sessions
  have hrefs := hd.refs
  rw [Daemon.refs, hlist, List.map_append, List.map_cons] at hrefs
  have hpre : s.ref ∉ pre.map TrustletSession.ref := by
    intro hmem
    exact List.disjoint_of_nodup_append hrefs hmem List.mem_cons_self
  have hpost := (List.nodup_cons.mp (List.nodup_append.mp hrefs).2.1).1
  refine ⟨f, hf.ref s, ?_⟩
  rw [hsessions, if_neg Bool.false_ne_true, hlist, KeyedList.update, List.map_append,
    List.map_cons, if_pos rfl]
  exact congrArg₂ (fun l r => l ++ f s :: r) (KeyedList.update_of_not_mem hpre)
    (KeyedList.update_of_not_mem hpost)

end Lists

/-! ## The loop -/

section Loop

variable {conn : ConnPtr} {answers : SessionRef → CloseAnswer} {s : TrustletSession}
  {pre post : List TrustletSession} {d t : Daemon} {n : Nat}

theorem refs_split (hlist : d.trustletSessions = pre ++ post) :
    d.refs = pre.map TrustletSession.ref ++ post.map TrustletSession.ref := by
  rw [refs, hlist, List.map_append]

theorem closeLoop_front :
    closeLoop conn answers (n + 1) d.refs.head? d = .finished d := by
  have hvalid : NodeList.Valid d.refs d.refs.head? := NodeList.valid_split [] d.refs
  have hfront : d.refs.head? = NodeList.first d.refs := rfl
  rw [closeLoop, if_neg (not_not.mpr hvalid), if_pos hfront]

/-- A round reads the session in front of the base, and the base is then its node. -/
theorem closeLoop_round (hd : d.Closable) (hlist : d.trustletSessions = pre ++ s :: post) :
    closeLoop conn answers (n + 1) (post.map TrustletSession.ref).head? d =
      if s.deviceConnection = some conn then
        match d.closeSessionCall conn s (answers s.ref) with
        | none => .halted
        | some d => closeLoop conn answers n (some s.ref) d
      else closeLoop conn answers n (some s.ref) d := by
  have hlist' : d.trustletSessions = (pre ++ [s]) ++ post := by
    rw [hlist, List.append_assoc, List.singleton_append]
  have hsplit := refs_split hlist'
  have hnodup := hsplit ▸ hd.refs
  have hvalid : NodeList.Valid d.refs (post.map TrustletSession.ref).head? :=
    hsplit ▸ NodeList.valid_split _ _
  have hfront : (post.map TrustletSession.ref).head? ≠ NodeList.first d.refs := by
    rw [hsplit, Ne, NodeList.first_split_iff hnodup]
    simp
  have hprev : NodeList.prev d.refs (post.map TrustletSession.ref).head? = some s.ref := by
    rw [hsplit, NodeList.prev_split hnodup]
    simp
  have hs : s ∈ d.trustletSessions := by
    rw [hlist]
    exact List.mem_append_right pre List.mem_cons_self
  rw [closeLoop, if_neg (not_not.mpr hvalid), if_neg hfront, hprev, Option.bind_some,
    sessionAt_of_mem hd.refs hs]

/-- The loop uses its iterator behind the erasure of its base. -/
theorem closeLoop_erased (h : s.ref ∉ d.refs) :
    closeLoop conn answers (n + 1) (some s.ref) d = .erasedIterator := by
  rw [closeLoop, if_pos (fun hvalid => h (NodeList.valid_some.mp hvalid))]

/-- A loop that ends has only added to the commands, by induction over its rounds. -/
theorem closeLoop_prefix (hd : d.Closable) {base : Option SessionRef}
    (h : closeLoop conn answers n base d = .finished t) :
    ∃ ids, t.closesSent = d.closesSent ++ ids := by
  induction n generalizing d base with
  | zero => cases h
  | succ n ih =>
      rw [closeLoop] at h
      split at h
      · cases h
      · split at h
        · cases h
          exact ⟨[], (List.append_nil _).symm⟩
        · split at h
          · cases h
          · rename_i session hsession
            obtain ⟨cur, _, hat⟩ := Option.bind_eq_some_iff.mp hsession
            have hs := (sessionAt_mem hat).1
            split at h
            · rename_i howner
              split at h
              · cases h
              · rename_i d' hcall
                obtain ⟨erased, again, hreturned⟩ :=
                  closeSessionCall_prefix hd.refs hs (hd.findSession hs howner) hd.irq hcall
                obtain ⟨ids, hids⟩ := ih (hreturned.closable hd) h
                exact ⟨_, by rw [hids, hreturned.sent, List.append_assoc]⟩
            · exact ih hd h

theorem ownedIds_concat (pre : List TrustletSession) (s : TrustletSession) :
    (ownedIds conn (pre ++ [s])).reverse =
      (if s.deviceConnection = some conn then [s.sessionId] else []) ++
        (ownedIds conn pre).reverse := by
  by_cases howner : s.deviceConnection = some conn <;> simp [ownedIds, howner]

/-- The last session before the iterator is the one that the next round looks at. -/
theorem split_concat {s : TrustletSession} (hlist : d.trustletSessions = pre ++ [s] ++ post)
    (hn : (pre ++ [s]).length < n) :
    ∃ m, n = m + 1 ∧ d.trustletSessions = pre ++ s :: post ∧ s ∈ d.trustletSessions ∧
      pre.length < m := by
  obtain ⟨m, rfl⟩ := Nat.exists_eq_succ_of_ne_zero (Nat.ne_of_gt (Nat.zero_lt_of_lt hn))
  have hlist' : d.trustletSessions = pre ++ s :: post := by
    rw [hlist, List.append_assoc, List.singleton_append]
  refine ⟨m, rfl, hlist', ?_, ?_⟩
  · rw [hlist']
    exact List.mem_append_right pre List.mem_cons_self
  · rw [List.length_append, List.length_singleton] at hn
    omega

/-- When every session of the connection stays, the loop ends with one command for each and
the other sessions as they were. -/
theorem closeLoop_of_stays (hd : d.Closable) (hlist : d.trustletSessions = pre ++ post)
    (hn : pre.length < n)
    (hstays : ∀ s ∈ pre, s.deviceConnection = some conn → Stays s (answers s.ref)) :
    ∃ t, closeLoop conn answers n (post.map TrustletSession.ref).head? d = .finished t ∧
      t.closesSent = d.closesSent ++ (ownedIds conn pre).reverse ∧
      ∀ s ∈ pre ++ post, (s ∈ pre → s.deviceConnection ≠ some conn) → s ∈ t.trustletSessions := by
  induction pre using List.reverseRecOn generalizing post d n with
  | nil =>
      obtain ⟨n, rfl⟩ := Nat.exists_eq_succ_of_ne_zero (Nat.ne_of_gt hn)
      have hrefs : d.refs = post.map TrustletSession.ref := refs_split hlist
      refine ⟨d, hrefs ▸ closeLoop_front, (List.append_nil _).symm, ?_⟩
      intro s hs _
      rwa [hlist]
  | append_singleton pre s ih =>
      obtain ⟨n, rfl, hlist', hs, hshorter⟩ := split_concat hlist hn
      have hrest : ∀ x ∈ pre, x.deviceConnection = some conn → Stays x (answers x.ref) :=
        fun x hx => hstays x (List.mem_append_left [s] hx)
      rw [closeLoop_round hd hlist', ownedIds_concat]
      by_cases howner : s.deviceConnection = some conn
      · have hstay := hstays s (List.mem_append_right pre (List.mem_singleton_self s)) howner
        obtain ⟨m, hm, hreturned⟩ := (closeSessionCall_returned hd.refs hs
          (hd.findSession hs howner) hd.irq (answers s.ref)).1 hstay
        obtain ⟨f, href, hsplit⟩ := hreturned.split hd hlist'
        obtain ⟨t, ht, hsent, hkept⟩ := ih (hreturned.closable hd) hsplit hshorter hrest
        rw [List.map_cons, List.head?_cons, href] at ht
        simp only [howner, if_true, hm]
        refine ⟨t, ht, ?_, ?_⟩
        · rw [hsent, hreturned.sent, List.append_assoc]
          rfl
        · intro x hx hother
          rcases List.mem_append.mp hx with hx | hx
          · rcases List.mem_append.mp hx with hx | hx
            · exact hkept x (List.mem_append_left _ hx) fun _ =>
                hother (List.mem_append_left [s] hx)
            · rw [List.mem_singleton.mp hx] at hother
              exact absurd howner (hother (List.mem_append_right pre (List.mem_singleton_self s)))
          · refine hkept x (List.mem_append_right pre (List.mem_cons_of_mem _ hx)) fun hpre => ?_
            exact hother (List.mem_append_left [s] hpre)
      · obtain ⟨t, ht, hsent, hkept⟩ := ih hd hlist' hshorter hrest
        simp only [howner, if_false]
        refine ⟨t, ht, hsent, ?_⟩
        intro x hx hother
        rw [List.append_assoc, List.singleton_append] at hx
        exact hkept x hx fun hpre => hother (List.mem_append_left [s] hpre)

/-- Behind a session that is erased or closed a second time, the loop does not end with one
command for each session. -/
theorem not_finished_of_leaves {m : Daemon} (hd : d.Closable)
    (hlist : d.trustletSessions = pre ++ s :: post)
    (hleaves : CloseReturned s d m true false ∨ ∃ erased, CloseReturned s d m erased true)
    (hrun : closeLoop conn answers n (some s.ref) m = .finished t)
    (hsent : t.closesSent = d.closesSent ++ ([s.sessionId] ++ (ownedIds conn pre).reverse)) :
    False := by
  obtain _ | n := n
  · cases hrun
  rcases hleaves with hreturned | ⟨erased, hreturned⟩
  · rw [closeLoop_erased (hreturned.not_mem_refs hd)] at hrun
    cases hrun
  · obtain ⟨ids, hids⟩ := closeLoop_prefix (hreturned.closable hd) hrun
    -- the second command is not one of an older session
    rw [hids, hreturned.sent, List.append_assoc] at hsent
    have hsame := List.append_cancel_left hsent
    simp only [if_true, List.cons_append, List.nil_append, List.cons.injEq, true_and] at hsame
    have hid : s.sessionId ∈ (ownedIds conn pre).reverse := hsame ▸ List.mem_cons_self
    have hpre : s.sessionId ∈ pre.map TrustletSession.sessionId := by
      obtain ⟨x, hx, hxid⟩ := List.mem_map.mp (List.mem_reverse.mp hid)
      exact hxid ▸ List.mem_map_of_mem (List.mem_filter.mp hx).1
    have hids := hd.ids
    rw [hlist, List.map_append, List.map_cons] at hids
    exact List.disjoint_of_nodup_append hids hpre List.mem_cons_self

/-- When the loop ends with one command for each session of the connection, they all stay. -/
theorem stays_of_closeLoop (hd : d.Closable) (hlist : d.trustletSessions = pre ++ post)
    (hn : pre.length < n)
    (hrun : closeLoop conn answers n (post.map TrustletSession.ref).head? d = .finished t)
    (hsent : t.closesSent = d.closesSent ++ (ownedIds conn pre).reverse) :
    ∀ s ∈ pre, s.deviceConnection = some conn → Stays s (answers s.ref) := by
  induction pre using List.reverseRecOn generalizing post d n with
  | nil => exact fun s hs => absurd hs List.not_mem_nil
  | append_singleton pre s ih =>
      obtain ⟨n, rfl, hlist', hs, hshorter⟩ := split_concat hlist hn
      rw [closeLoop_round hd hlist'] at hrun
      rw [ownedIds_concat] at hsent
      by_cases howner : s.deviceConnection = some conn
      · rw [if_pos howner] at hrun hsent
        have hmem := hd.findSession hs howner
        obtain ⟨hreturns, hleaves⟩ :=
          closeSessionCall_returned hd.refs hs hmem hd.irq (answers s.ref)
        by_cases hstay : Stays s (answers s.ref)
        · obtain ⟨m, hm, hreturned⟩ := hreturns hstay
          obtain ⟨f, href, hsplit⟩ := hreturned.split hd hlist'
          have hsent' : t.closesSent = m.closesSent ++ (ownedIds conn pre).reverse := by
            rw [hsent, hreturned.sent, List.append_assoc]
            rfl
          simp only [hm] at hrun
          rw [← href] at hrun
          have hrest := ih (hreturned.closable hd) hsplit hshorter hrun hsent'
          intro x hx hxowner
          rcases List.mem_append.mp hx with hx | hx
          · exact hrest x hx hxowner
          · rwa [List.mem_singleton.mp hx]
        · exfalso
          rcases hcall : d.closeSessionCall conn s (answers s.ref) with _ | m
          · simp only [hcall] at hrun
            cases hrun
          · simp only [hcall] at hrun
            exact not_finished_of_leaves hd hlist' (hleaves hstay m hcall) hrun hsent
      · rw [if_neg howner] at hrun hsent
        have hrest := ih hd hlist' hshorter hrun hsent
        intro x hx hxowner
        rcases List.mem_append.mp hx with hx | hx
        · exact hrest x hx hxowner
        · exact absurd (List.mem_singleton.mp hx ▸ hxowner) howner

end Loop

/-- The loop of `close` ends and has closed each session of the connection once, newest first,
and the others are untouched, if and only if each session of the connection stays in the list
behind one command. -/
theorem closesOwned_iff {conn : ConnPtr} {answers : SessionRef → CloseAnswer} {d : Daemon}
    (hd : d.Closable) : ClosesOwned conn answers d ↔
      ∀ s ∈ d.trustletSessions, s.deviceConnection = some conn → Stays s (answers s.ref) := by
  have hlist : d.trustletSessions = d.trustletSessions ++ [] := (List.append_nil _).symm
  have hlength : d.trustletSessions.length < d.refs.length + 1 := by
    rw [refs, List.length_map]
    exact Nat.lt_succ_self _
  constructor
  · rintro ⟨t, hrun, hsent, _⟩
    exact stays_of_closeLoop hd hlist hlength hrun hsent
  · intro hstays
    obtain ⟨t, hrun, hsent, hkept⟩ := closeLoop_of_stays hd hlist hlength hstays
    refine ⟨t, hrun, hsent, fun s hs hother => ?_⟩
    exact hkept s (List.mem_append_left [] hs) fun _ => hother

/-- The secure world answers a close, and nothing is received. -/
def plainAnswer (r : McpReply) : CloseAnswer where
  r := r
  received := []
  retry := r
  ndebug := false

/-- A client with an older session and a GP session. -/
def closingLabels : List Label :=
  clientLabels 1 ++ openLabels 1 0 10 0x200 ++ openLabels 1 1 11 0x300

theorem closing_closable : ∃ d, system.run init closingLabels = some d ∧ d.Closable ∧
    d.trustletSessions.map TrustletSession.sessionId = [10, 11] :=
  ⟨_, rfl, ⟨by decide, by decide, rfl⟩, rfl⟩

/-- The closes are refused, and the loop gets to its end. -/
theorem closesOwned_closing : ∃ d, system.run init closingLabels = some d ∧
    ClosesOwned 1 (fun _ => plainAnswer noReply) d :=
  ⟨_, rfl, (closesOwned_iff ⟨by decide, by decide, rfl⟩).mpr (by decide)⟩

/-- The secure world closes the newest session, and the iterator of the loop is on its node. -/
theorem not_closesOwned : ¬ ∀ (conn : ConnPtr) (answers : SessionRef → CloseAnswer) (d : Daemon),
    d.Closable → ClosesOwned conn answers d := by
  intro h
  obtain ⟨d, hrun, hd, _⟩ := closing_closable
  obtain ⟨t, hfinished, _⟩ :=
    h 1 (fun _ => plainAnswer (successReply mcMcpCmdCloseSession 0)) d hd
  have herased : ∀ d, system.run init closingLabels = some d →
      closeRun 1 (fun _ => plainAnswer (successReply mcMcpCmdCloseSession 0)) d =
        .erasedIterator := by
    intro d hrun
    cases hrun
    rfl
  rw [herased d hrun] at hfinished
  cases hfinished

end Daemon

end Exynos8890.MobiCore
