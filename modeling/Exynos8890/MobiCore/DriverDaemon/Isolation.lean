import Exynos8890.MobiCore.DriverDaemon.DeadConnections

/-!
# Isolation of the clients

A close, notify, map or unmap command names a session by its id.  Whose session
that is follows from the trace: the connection that opened it last, while the
connection lives and has not closed it.

Main results:

- Theorem `step_owned`: the `deviceConnection` of a session is its owner.
- Theorems `effect_starts` and `effect_continues`: a command touches the session it
  names and no other.
- Theorem `isolation`: a client that does not own the session is refused, and
  nothing changes.
-/

namespace Exynos8890.MobiCore

/-- The session id that a command names. -/
def Command.target : Command → Option UInt32
  | .closeSession sessionId => some sessionId
  | .notify sessionId => some sessionId
  | .mapBulkBuf cmd _ => some cmd.sessionId
  | .unmapBulkBuf cmd => some cmd.sessionId
  | _ => none

/-- The connection that opens a session. -/
def Event.opener : Event → Option ConnPtr
  | .opened conn _ _ => some conn
  | _ => none

/-- The event reaches the secure world. -/
def Event.reachesSecureWorld : Event → Bool
  | .mcp _ => true
  | .notified _ => true
  | _ => false

/-- What the event sends to the secure world, if anything, is for this session. -/
def Event.Concerns (sessionId : UInt32) : Event → Prop
  | .mcp (.openSession ..) => False
  | .mcp (.closeSession id) => id = sessionId
  | .mcp (.map id ..) => id = sessionId
  | .mcp (.unmap id ..) => id = sessionId
  | .notified id => id = sessionId
  | _ => True

namespace Daemon

/-! ## Owners -/

/-- How an event changes the owner of a session id. -/
def ownerAfter (sessionId : UInt32) (owner : Option ConnPtr) : Event → Option ConnPtr
  | .opened conn id _ => if id = sessionId then some conn else owner
  | .closeReturned conn id ret =>
      if id = sessionId ∧ ret = mcDrvOk ∧ owner = some conn then none else owner
  | .closedConnection conn => if owner = some conn then none else owner
  | _ => owner

/-- The connection through which the session of this id was opened last, unless
that connection has closed the session since or has been deleted itself. -/
def owner (trace : List Event) (sessionId : UInt32) : Option ConnPtr :=
  trace.foldl (ownerAfter sessionId) none

theorem owner_append (trace es : List Event) (sessionId : UInt32) :
    owner (trace ++ es) sessionId = es.foldl (ownerAfter sessionId) (owner trace sessionId) := by
  rw [owner, List.foldl_append]
  rfl

theorem owner_append_eq {trace es : List Event} {sessionId : UInt32}
    (h : ∀ e ∈ es, ownerAfter sessionId (owner trace sessionId) e = owner trace sessionId) :
    owner (trace ++ es) sessionId = owner trace sessionId := by
  rw [owner_append]
  induction es with
  | nil => rfl
  | cons e es ih =>
      rw [List.foldl_cons, h e List.mem_cons_self]
      exact ih fun e' he' => h e' (List.mem_cons_of_mem _ he')

theorem exists_opener {trace : List Event} {sessionId : UInt32} {conn : ConnPtr}
    (h : owner trace sessionId = some conn) : ∃ e ∈ trace, e.opener = some conn := by
  induction trace using List.reverseRecOn with
  | nil => cases h
  | append_singleton trace e ih =>
      have hprev : owner trace sessionId = some conn → ∃ e' ∈ trace ++ [e], e'.opener = some conn :=
        fun h => (ih h).imp fun e' he' => ⟨List.mem_append_left _ he'.1, he'.2⟩
      rw [owner_append, List.foldl_cons, List.foldl_nil] at h
      cases e with
      | opened conn' id ref =>
          rw [ownerAfter] at h
          split at h
          · exact ⟨_, List.mem_append_right _ (List.mem_singleton_self _), h⟩
          · exact hprev h
      | closeReturned conn' id ret =>
          rw [ownerAfter] at h
          split at h
          · cases h
          · exact hprev h
      | closedConnection conn' =>
          rw [ownerAfter] at h
          split at h
          · cases h
          · exact hprev h
      | _ => exact hprev h

/-! ## The conditions on the steps -/

/-- The secure world returns a session id that is not in the list. -/
def FreshIds (d : Daemon) (l : Label) : Prop :=
  ∀ r ∈ d.openAnswer l, ∀ s ∈ d.trustletSessions, s.sessionId ≠ r.value

/-- The connection of no client is deleted, a client being who has opened a session. -/
def KeepsClients (d : Daemon) (l : Label) : Prop :=
  ∀ t ∈ system.step d l, ∀ e ∈ d.trace, ∀ c ∈ e.opener, c ∈ d.connections → c ∈ t.connections

instance (d : Daemon) (l : Label) : Decidable (FreshIds d l) :=
  inferInstanceAs (Decidable (∀ r ∈ d.openAnswer l, _))

instance (d : Daemon) (l : Label) : Decidable (KeepsClients d l) :=
  inferInstanceAs (Decidable (∀ t ∈ system.step d l, _))

/-! ## The invariant -/

/-- The ids of the listed sessions. -/
def ids (d : Daemon) : List UInt32 :=
  d.trustletSessions.map fun s => s.sessionId

/-- The ids are distinct, and the `deviceConnection` of a session is its owner. -/
structure Owned (d : Daemon) : Prop where
  distinct : d.ids.Nodup
  owners : ∀ s ∈ d.trustletSessions, ∀ c, s.deviceConnection = some c →
    owner d.trace s.sessionId = some c

theorem init_owned : Owned init :=
  ⟨List.nodup_nil, fun _ hs => absurd hs List.not_mem_nil⟩

/-- With distinct ids, a listed session is determined by its id. -/
theorem Owned.eq_of_id_eq {d : Daemon} (ho : Owned d) {s s' : TrustletSession}
    (hs : s ∈ d.trustletSessions) (hs' : s' ∈ d.trustletSessions)
    (h : s.sessionId = s'.sessionId) : s = s' :=
  List.inj_on_of_nodup_map ho.distinct hs hs' h

theorem ids_sublist {d t : Daemon} {l : Label} (hd : d.refs.Nodup) (h : Effect d l t)
    (hl : d.openAnswer l = none) : t.ids.Sublist d.ids := by
  cases effect_sessionsChange hd h with
  | same hlist => rw [ids, ids, hlist]
  | changed hid hrun hlist => rw [ids, ids, hlist, KeyedList.map_update fun s => (hid s).2.2.1]
  | pushed _ hopen =>
      rw [hl] at hopen
      cases hopen
  | deleted hremoved hlist =>
      rw [ids, ids, hlist]
      exact List.eraseP_sublist.map _

/-- A step that gives no session an owner keeps the invariant if the sessions that
stay keep theirs. -/
theorem Owned.of_kept {d t : Daemon} {l : Label} (ho : Owned d) (hd : d.refs.Nodup)
    (h : Effect d l t) (hl : d.openAnswer l = none)
    (hkept : ∀ s ∈ t.trustletSessions, ∀ c, s.deviceConnection = some c →
      owner d.trace s.sessionId = some c → owner t.trace s.sessionId = some c) : Owned t := by
  refine ⟨ho.distinct.sublist (ids_sublist hd h hl), ?_⟩
  intro s' hs' c hc
  obtain ⟨s, hs, -, -, hid, hsc⟩ := effect_deviceConnection h hl s' hs' c hc
  exact hkept s' hs' c hc (hid ▸ ho.owners s hs c hsc)

/-- A step whose events concern no owner keeps the invariant. -/
theorem Owned.of_owner_eq {d t : Daemon} {l : Label} (ho : Owned d) (hd : d.refs.Nodup)
    (h : Effect d l t) (hl : d.openAnswer l = none)
    (howner : ∀ sessionId, owner t.trace sessionId = owner d.trace sessionId) : Owned t :=
  ho.of_kept hd h hl fun s _ _ _ hs => (howner s.sessionId).trans hs

theorem owner_ne_of_deleted {d t : Daemon} {l : Label} {conn : ConnPtr}
    (hC : KeepsClients d l) (hstep : system.step d l = some t) (halloc : conn ∈ d.connections)
    (hgone : conn ∉ t.connections) (sessionId : UInt32) :
    owner d.trace sessionId ≠ some conn := by
  intro howner
  obtain ⟨e, he, hopener⟩ := exists_opener howner
  exact hgone (hC t hstep e he conn hopener halloc)

theorem CloseCall.owner_eq {d d₀ : Daemon} {l : Label} {conn : ConnPtr}
    {sessionId : UInt32} {caller : CloseCaller} (hcall : CloseCall d l d₀ conn sessionId caller)
    (id : UInt32) : owner d₀.trace id = owner d.trace id := by
  cases hcall with
  | command => rfl
  | @loop _ before erased => cases erased <;> simp [owner_append, ownerAfter]

theorem CloseCall.openAnswer_eq_none {d d₀ : Daemon} {l : Label} {conn : ConnPtr}
    {sessionId : UInt32} {caller : CloseCaller}
    (hcall : CloseCall d l d₀ conn sessionId caller) : d.openAnswer l = none := by
  cases hcall <;> simp [openAnswer]

theorem ClosePending.openAnswer_eq_none {d : Daemon} {conn : ConnPtr} {sessionId : UInt32}
    {ref : SessionRef} {caller : CloseCaller} (hpc : d.ClosePending conn sessionId ref caller)
    (l : Label) : d.openAnswer l = none := by
  rcases hpc with hpc | hpc <;> simp [openAnswer, hpc]

theorem foldl_callerAnswer (conn : ConnPtr) (caller : CloseCaller) (ret : McResult)
    (sessionId : UInt32) (o : Option ConnPtr) :
    (callerAnswer conn caller ret).foldl (ownerAfter sessionId) o = o := by
  cases caller <;> rfl

/-- A close that fails, or that closes another session, changes no owner. -/
theorem owner_closeReturned {trace : List Event} {conn : ConnPtr} {sessionId : UInt32}
    {caller : CloseCaller} {ret : McResult} {id : UInt32} (h : ret ≠ mcDrvOk ∨ sessionId ≠ id) :
    owner (trace ++ .closeReturned conn sessionId ret :: callerAnswer conn caller ret) id =
      owner trace id := by
  have hkeep : ¬ (sessionId = id ∧ ret = mcDrvOk ∧ owner trace id = some conn) := by
    rintro ⟨hid, hret, -⟩
    exact h.elim (fun hne => hne hret) (fun hne => hne hid)
  rw [owner_append, List.foldl_cons, ownerAfter, if_neg hkeep, foldl_callerAnswer]

/-- Deleting connections that own nothing changes no owner. -/
theorem owner_closedConnection {trace : List Event} {connection : Option ConnPtr}
    {sessionId : UInt32} (h : ∀ conn ∈ connection, owner trace sessionId ≠ some conn) :
    owner (trace ++ connection.toList.map .closedConnection) sessionId =
      owner trace sessionId := by
  cases connection with
  | none => simp
  | some conn =>
      rw [Option.toList_some, List.map_singleton, owner_append, List.foldl_cons, List.foldl_nil,
        ownerAfter, if_neg (h conn rfl)]

/-- The notification connection that the step deletes owns nothing. -/
theorem owner_ne_notificationConnection {d t : Daemon} {l : Label} {session : TrustletSession}
    (hc : ConnectionsHeld d) (hmem : session ∈ d.trustletSessions) (hC : KeepsClients d l)
    (hstep : system.step d l = some t)
    (hconns : t.connections =
      d.connections.filter fun conn => some conn ≠ session.notificationConnection)
    (sessionId : UInt32) :
    ∀ conn ∈ session.notificationConnection, owner d.trace sessionId ≠ some conn := by
  intro conn hconn
  refine owner_ne_of_deleted hC hstep (hc.nqDetached session hmem conn hconn).1 ?_ sessionId
  rw [hconns, List.mem_filter]
  rintro ⟨-, hne⟩
  simp [hconn.symm] at hne

/-- Every step with a fresh id, in which no client's connection is deleted, keeps the
invariant. -/
theorem step_owned {d t : Daemon} {l : Label} (hw : WellFormed d) (hc : ConnectionsHeld d)
    (ho : Owned d) (hfresh : FreshIds d l) (hC : KeepsClients d l)
    (hstep : system.step d l = some t) : Owned t := by
  have h := step_effect hstep
  have hframe := ho.of_owner_eq hw.distinct h
  have hkept := ho.of_kept hw.distinct h
  cases h with
  | @openFailed frame r host code hpc hret hcode =>
      refine hframe (by simp [openAnswer, hpc, hret, hcode]) fun _ => ?_
      by_cases huses : frame.usesTci <;> simp [huses, owner_append, ownerAfter]
  | @openSucceeded frame r host hpc hret haddr =>
      have hnew : ∀ s ∈ d.trustletSessions, s.sessionId ≠ r.value :=
        hfresh r (by simp [openAnswer, hpc, hret])
      refine ⟨?_, ?_⟩
      · simp only [ids, goto_trustletSessions, pushSession_trustletSessions,
          mapTci_trustletSessions, List.map_append, List.map_singleton, newSession_sessionId]
        refine List.nodup_append.mpr ⟨ho.distinct, List.nodup_singleton _, ?_⟩
        intro a ha b hb
        obtain ⟨s, hs, rfl⟩ := List.mem_map.mp ha
        rw [List.mem_singleton.mp hb]
        exact hnew s hs
      · intro s hs c hsc
        rcases List.mem_append.mp hs with hs | hs
        · have hne : r.value ≠ s.sessionId := fun heq => hnew s hs heq.symm
          simpa [owner_append, ownerAfter, hne] using ho.owners s hs c hsc
        · rw [List.mem_singleton.mp hs, newSession_deviceConnection] at hsc
          rw [List.mem_singleton.mp hs, newSession_sessionId]
          simpa [owner_append, ownerAfter] using hsc
  | closeRefused hcall hnone =>
      refine hframe hcall.openAnswer_eq_none fun id => ?_
      rw [closeReturn_trace, owner_closeReturned (Or.inl (by decide)), hcall.owner_eq]
  | closeSent hcall hsome hgp =>
      refine hframe hcall.openAnswer_eq_none fun id => ?_
      simp [owner_append, ownerAfter, hcall.owner_eq]
  | @closeSentGp _ d₀ conn sessionId caller session hcall hsome hgp hmutex =>
      refine hframe hcall.openAnswer_eq_none fun id => ?_
      have hne := owner_ne_notificationConnection hc (findSession_spec hsome).1 hC hstep
        (by cases hcall <;> rfl) id
      rw [← hcall.owner_eq] at hne
      rw [sendSessionCloseCmd_trace, disconnectClient_trace, owner_append,
        owner_closedConnection hne, hcall.owner_eq]
      rfl
  | @closeDeferred conn sessionId ref caller session r host hpc hat hgp hret hdead =>
      have hpending : d.ClosePending conn sessionId ref caller := Or.inl hpc
      refine hkept (hpending.openAnswer_eq_none _) fun s hs c hsc howner => ?_
      have hid : sessionId ≠ s.sessionId := by
        intro hid
        have hlisted : d.Lists ref fun s => s.sessionId = sessionId ∧
            (s.gpLevel = 1 → s.deviceConnection = none) := by
          simpa only [Placed, hpc] using hw.placed
        obtain ⟨hsession, hnone⟩ := hlisted.sessionAt hw.distinct hat
        obtain rfl := ho.eq_of_id_eq hs (sessionAt_mem hat).1 (hid.symm.trans hsession.symm)
        rw [hnone hgp] at hsc
        cases hsc
      rw [closeReturn_trace, owner_closeReturned (Or.inr hid)]
      simpa [owner_append, ownerAfter] using howner
  | @closeFailed conn sessionId ref caller session r host hpending hat hret =>
      refine hframe (hpending.openAnswer_eq_none _) fun id => ?_
      rw [closeReturn_trace, owner_closeReturned (Or.inl (makeMcDrvMcpError_ne_ok _))]
      simp [owner_append, ownerAfter]
  | @closeDone conn sessionId ref caller session r host hpending hat hret =>
      refine hkept (hpending.openAnswer_eq_none _) fun s hs c hsc howner => ?_
      obtain ⟨hs, hne⟩ := (KeyedList.mem_delete hw.distinct).mp hs
      have hid : sessionId ≠ s.sessionId := by
        intro hid
        have hsession := hpending.sessionId_eq hw hat
        exact hne (congrArg TrustletSession.ref
          (ho.eq_of_id_eq hs (sessionAt_mem hat).1 (hid.symm.trans hsession.symm)))
      have hgone := owner_ne_notificationConnection hc (sessionAt_mem hat).1 hC hstep rfl
        s.sessionId
      have hunlock : owner ((d.unmapClosed r sessionId).unlockBuffers session).trace s.sessionId =
          owner d.trace s.sessionId := by
        rw [unlockBuffers_trace, unmapClosed_trace, List.append_assoc]
        refine owner_append_eq fun e he => ?_
        rcases List.mem_append.mp he with he | he
        · rw [List.mem_singleton.mp he]
          rfl
        · obtain ⟨pWsm, -, rfl⟩ := List.mem_map.mp he
          rfl
      rw [← hunlock] at hgone
      rw [closeReturn_trace, owner_closeReturned (Or.inr hid), deleteSession_trace,
        owner_closedConnection hgone, hunlock]
      exact howner
  | @reaped ref rest ts r host hpc hat hret =>
      refine hframe (by simp [openAnswer, hpc]) fun id => ?_
      have hgone := owner_ne_notificationConnection hc (sessionAt_mem hat).1 hC hstep rfl id
      have hreplied : owner (d.unmapClosed r ts.sessionId).trace id = owner d.trace id := by
        simp [owner_append, ownerAfter]
      rw [← hreplied] at hgone
      rw [goto_trace, deleteSession_trace, owner_closedConnection hgone, hreplied]
  | @dropped conn hidle hpeer hclosed =>
      refine hframe (by simp [openAnswer]) fun id => ?_
      have hne := owner_ne_of_deleted hC hstep (hc.peerAllocated conn hpeer) (by simp) id
      simp [owner_append, ownerAfter, hne]
  | @loopFinished conn erased dropping crash hpc hwhy =>
      refine hframe (by simp [openAnswer]) fun id => ?_
      cases dropping with
      | false => cases erased <;> simp [closeFinish, owner_append, ownerAfter]
      | true =>
          have hopen := hc.served conn (by rw [hpc]; rfl)
          have hne := owner_ne_of_deleted hC hstep
            (hc.peerAllocated conn (hc.openedPeer conn hopen)) (by simp [closeFinish]) id
          cases erased <;> simp [closeFinish, owner_append, ownerAfter, hne]
  | @loopSkipped _ before erased dropping crash cur session hpc =>
      refine hframe (by simp [openAnswer]) fun _ => ?_
      cases erased <;> simp [owner_append, ownerAfter]
  | lockLost | locked | deliverLost | stored | forwarded =>
      refine hframe (by simp [openAnswer]) fun _ => ?_
      simp only [access_trace, forwardNotification_trace, storeNotification_trace]
      split <;> simp [owner_append, ownerAfter]
  | notifyIgnored => exact ho
  | _ => exact hframe (by simp [openAnswer, *]) (fun _ => by simp [owner_append, ownerAfter])

/-! ## Refused commands -/

/-- The command is over and has changed nothing: its client has an error, or for
notify no answer, and nothing has reached the secure world. -/
def Refused (d : Daemon) (conn : ConnPtr) (cmd : Command) (t : Daemon) : Prop :=
  ∃ es, t = { d with trace := d.trace ++ es } ∧ (∀ e ∈ es, e.reachesSecureWorld = false) ∧
    match cmd with
    | .notify _ => es = []
    | _ => ∃ code, code ≠ mcDrvOk ∧ es.getLast? = some (.answer conn (.result code))

/-- An error that ends a command at once changes nothing. -/
theorem refused_writeResult {d : Daemon} {conn : ConnPtr} {cmd : Command} {code : McResult}
    (es : List Event) (hidle : d.srv = .idle) (hcode : code ≠ mcDrvOk)
    (hnotify : ∀ id, cmd ≠ .notify id) (hes : ∀ e ∈ es, e.reachesSecureWorld = false) {t : Daemon}
    (ht : t = { d with trace := d.trace ++ (es ++ [.answer conn (.result code)])
                       srv := .idle }) :
    Refused d conn cmd t := by
  refine ⟨es ++ [.answer conn (.result code)], ?_, ?_, ?_⟩
  · rw [ht, ← hidle]
  · intro e he
    rcases List.mem_append.mp he with he | he
    · exact hes e he
    · rw [List.mem_singleton.mp he]
      rfl
  · cases cmd with
    | notify id => exact absurd rfl (hnotify id)
    | _ => exact ⟨code, hcode, by simp⟩

/-- A command on a session that its client does not find is refused. -/
theorem effect_refused {d t : Daemon} {conn : ConnPtr} {cmd : Command} {sessionId : UInt32}
    (h : Effect d (.command conn cmd) t) (htarget : cmd.target = some sessionId)
    (hnone : d.findSession conn sessionId = none) : Refused d conn cmd t := by
  cases h with
  | refused hidle hpeer hcode hnotify =>
      exact refused_writeResult [] hidle hcode hnotify (fun _ h => by cases h) rfl
  | @closeRefused _ _ _ id caller hcall =>
      cases hcall with
      | command hidle =>
          have hunknown : mcDrvErrDaemonUnknownSession ≠ mcDrvOk := by decide
          refine refused_writeResult
            [.closeReturned conn id mcDrvErrDaemonUnknownSession] hidle hunknown (by simp) ?_ rfl
          intro e he
          rw [List.mem_singleton.mp he]
          rfl
  | @mapLeaked _ cmd wsm code hidle hopen hlock hwhy hcode =>
      refine refused_writeResult [.lockWsmL2 cmd.handle] hidle hcode (by simp) ?_ ?_
      · intro e he
        rw [List.mem_singleton.mp he]
        rfl
      · simp [writeResult, respond, emit, goto]
  | notifyIgnored => exact ⟨[], by simp, by simp, rfl⟩
  | closeSent hcall hsome =>
      cases hcall
      cases htarget
      rw [hnone] at hsome
      cases hsome
  | closeSentGp hcall hsome =>
      cases hcall
      cases htarget
      rw [hnone] at hsome
      cases hsome
  | notifySent hidle hopen hsome =>
      cases htarget
      rw [hnone] at hsome
      cases hsome
  | mapSent hidle hopen hlock hl2 hsome =>
      cases htarget
      rw [hnone] at hsome
      cases hsome
  | unmapSent hidle hopen hsome =>
      cases htarget
      rw [hnone] at hsome
      cases hsome
  | openRefused _ _ hcmd | openLeaked _ _ hcmd | openSent _ _ hcmd | openSentTci _ _ hcmd =>
      cases hcmd <;> cases htarget
  | deviceOpened | deviceClosing | nqRefused | nqConnected => cases htarget

/-! ## Confined commands -/

/-- The records of the other sessions. -/
def others (sessionId : UInt32) (d : Daemon) : List TrustletSession :=
  d.trustletSessions.filter fun s => s.sessionId ≠ sessionId

/-- A step, unless it is one of the IRQ thread, keeps the records of the other
sessions and sends nothing for them. -/
def Confined (sessionId : UInt32) (d : Daemon) (l : Label) : Prop :=
  ∀ t, system.step d l = some t → l.byIrq = false →
    t.others sessionId = d.others sessionId ∧
      ∃ es, t.trace = d.trace ++ es ∧ ∀ e ∈ es, e.Concerns sessionId

/-- The server works on a command for this session or on none. -/
def Serves (sessionId : UInt32) : ServerPc → Prop
  | .idle => True
  | .closeWait _ id _ .processCloseSession => id = sessionId
  | .closeRetryWait _ id _ .processCloseSession => id = sessionId
  | .mapWait _ cmd _ => cmd.sessionId = sessionId
  | .unmapWait _ cmd _ => cmd.sessionId = sessionId
  | .halted => True
  | _ => False

theorem others_update {d t : Daemon} {ref : SessionRef} {sessionId : UInt32}
    {f : TrustletSession → TrustletSession} (hid : KeepsIdentity f)
    (hsession : ∀ s ∈ d.trustletSessions, s.ref = ref → s.sessionId = sessionId)
    (hlist : t.trustletSessions = KeyedList.update TrustletSession.ref ref f d.trustletSessions) :
    t.others sessionId = d.others sessionId := by
  rw [others, others, hlist]
  refine KeyedList.filter_update fun s hs href => ?_
  have heq := hsession s hs href
  simp [(hid s).2.2.1, heq]

theorem others_delete {d t : Daemon} {ref : SessionRef} {sessionId : UInt32}
    (hsession : ∀ s ∈ d.trustletSessions, s.ref = ref → s.sessionId = sessionId)
    (hlist : t.trustletSessions = KeyedList.delete TrustletSession.ref ref d.trustletSessions) :
    t.others sessionId = d.others sessionId := by
  rw [others, others, hlist]
  refine KeyedList.filter_delete fun s hs href => ?_
  simp [hsession s hs href]

theorem others_of_list_eq {d t : Daemon} {sessionId : UInt32}
    (hlist : t.trustletSessions = d.trustletSessions) :
    t.others sessionId = d.others sessionId := by
  rw [others, others, hlist]

/-- A listed session determines the id of every session with its number. -/
theorem sessionId_of_ref {d : Daemon} (hd : d.refs.Nodup) {session : TrustletSession}
    (hmem : session ∈ d.trustletSessions) {sessionId : UInt32}
    (hid : session.sessionId = sessionId) :
    ∀ s ∈ d.trustletSessions, s.ref = session.ref → s.sessionId = sessionId :=
  fun _ hs href => eq_of_ref_eq hd hs hmem href ▸ hid

theorem effect_starts {d t : Daemon} {conn : ConnPtr} {cmd : Command} {sessionId : UInt32}
    (hw : WellFormed d) (h : Effect d (.command conn cmd) t)
    (htarget : cmd.target = some sessionId) :
    Serves sessionId t.srv ∧ t.others sessionId = d.others sessionId ∧
      ∃ es, t.trace = d.trace ++ es ∧ ∀ e ∈ es, e.Concerns sessionId := by
  cases h with
  | refused hidle hpeer hcode hnotify =>
      exact ⟨trivial, others_of_list_eq rfl, [_], rfl, by simp [Event.Concerns]⟩
  | closeRefused hcall =>
      cases hcall with
      | command => exact ⟨trivial, others_of_list_eq rfl, [_, _], rfl, by simp [Event.Concerns]⟩
  | closeSent hcall =>
      cases hcall with
      | command =>
          cases htarget
          exact ⟨rfl, others_of_list_eq rfl, [_], rfl, by simp [Event.Concerns]⟩
  | @closeSentGp _ _ _ _ _ session hcall hsome =>
      cases hcall with
      | command =>
          cases htarget
          obtain ⟨hmem, hid, -⟩ := findSession_spec hsome
          refine ⟨rfl, others_update keepsIdentity_disconnect
            (sessionId_of_ref hw.distinct hmem hid) rfl, _ ++ [_], List.append_assoc .., ?_⟩
          intro e he
          rcases List.mem_append.mp he with he | he
          · obtain ⟨c, -, rfl⟩ := List.mem_map.mp he
            trivial
          · rw [List.mem_singleton.mp he]
            rfl
  | notifyIgnored hidle =>
      rw [hidle]
      exact ⟨trivial, rfl, [], by simp, by simp⟩
  | notifySent hidle =>
      cases htarget
      refine ⟨?_, others_of_list_eq rfl, [_], rfl, by simp [Event.Concerns]⟩
      rw [emit_srv, hidle]
      trivial
  | mapLeaked =>
      refine ⟨trivial, others_of_list_eq rfl, [_, _], List.append_assoc .., ?_⟩
      simp [Event.Concerns]
  | @mapSent _ cmd wsm session hidle hopen hlock hl2 hsome =>
      cases htarget
      obtain ⟨hmem, hid, -⟩ := findSession_spec hsome
      refine ⟨rfl, others_update (keepsIdentity_addBulkBuff _)
        (sessionId_of_ref hw.distinct hmem hid) rfl, [_, _], List.append_assoc .., ?_⟩
      simp [Event.Concerns]
  | unmapSent hidle hopen hsome =>
      cases htarget
      exact ⟨rfl, others_of_list_eq rfl, [_], rfl, by simp [Event.Concerns]⟩
  | openRefused _ _ hcmd | openLeaked _ _ hcmd | openSent _ _ hcmd | openSentTci _ _ hcmd =>
      cases hcmd <;> cases htarget
  | deviceOpened | deviceClosing | nqRefused | nqConnected => cases htarget

/-- A close command that is being answered is for the served session. -/
theorem ClosePending.of_serves {d : Daemon} {conn : ConnPtr} {id sessionId : UInt32}
    {ref : SessionRef} {caller : CloseCaller} (hpc : d.ClosePending conn id ref caller)
    (hs : Serves sessionId d.srv) : caller = .processCloseSession ∧ id = sessionId := by
  cases caller with
  | processCloseSession =>
      rcases hpc with hpc | hpc <;> rw [hpc] at hs <;> exact ⟨rfl, hs⟩
  | deviceClose => rcases hpc with hpc | hpc <;> rw [hpc] at hs <;> exact hs.elim

/-- A later step of a command works for the same session. -/
theorem effect_continues {d t : Daemon} {l : Label} {sessionId : UInt32} (hw : WellFormed d)
    (hs : Serves sessionId d.srv) (h : Effect d l t) (hl : l.startsServer = false)
    (hirq : l.byIrq = false) :
    Serves sessionId t.srv ∧ t.others sessionId = d.others sessionId ∧
      ∃ es, t.trace = d.trace ++ es ∧ ∀ e ∈ es, e.Concerns sessionId := by
  cases h with
  | accepted => exact ⟨hs, rfl, [], by simp, by simp⟩
  | @closeRetried conn id ref caller session r host hpc =>
      obtain ⟨rfl, rfl⟩ := ClosePending.of_serves (Or.inl hpc) hs
      refine ⟨rfl, others_of_list_eq rfl, [_, _], List.append_assoc .., ?_⟩
      simp [Event.Concerns]
  | closeDeferred hpc =>
      obtain ⟨rfl, rfl⟩ := ClosePending.of_serves (Or.inl hpc) hs
      refine ⟨trivial, others_of_list_eq rfl, [_, _, _], List.append_assoc .., ?_⟩
      simp [Event.Concerns]
  | closeFailed hpc =>
      obtain ⟨rfl, rfl⟩ := hpc.of_serves hs
      refine ⟨trivial, others_of_list_eq rfl, [_, _, _], List.append_assoc .., ?_⟩
      simp [Event.Concerns]
  | closeAborted hpc => exact ⟨trivial, others_of_list_eq rfl, [_], rfl, by simp [Event.Concerns]⟩
  | @closeDone conn id ref caller session r host hpc hat hret =>
      obtain ⟨rfl, rfl⟩ := hpc.of_serves hs
      have hsession := sessionId_of_ref hw.distinct (sessionAt_mem hat).1 (hpc.sessionId_eq hw hat)
      refine ⟨trivial, others_delete hsession rfl,
        .replied r :: (session.popBulkBuffs.map (fun pWsm => .unlockWsmL2 pWsm.handle) ++
          (session.notificationConnection.toList.map .closedConnection ++
            [.closeReturned conn id mcMcpRetOk, .answer conn (.result mcMcpRetOk)])), ?_, ?_⟩
      · simp [callerAnswer]
      · simp only [List.mem_append, List.mem_cons, List.mem_map, List.not_mem_nil, or_false]
        rintro e (rfl | ⟨pWsm, -, rfl⟩ | ⟨c, -, rfl⟩ | rfl | rfl) <;> trivial
  | mapFailed =>
      refine ⟨trivial, others_of_list_eq rfl, [_, _], List.append_assoc .., ?_⟩
      simp [Event.Concerns]
  | mapSucceeded =>
      refine ⟨trivial, others_of_list_eq rfl, [_, _], List.append_assoc .., ?_⟩
      simp [Event.Concerns]
  | unmapFailed =>
      refine ⟨trivial, others_of_list_eq rfl, [_, _], List.append_assoc .., ?_⟩
      simp [Event.Concerns]
  | @unmapSucceeded conn cmd ref r host hpc =>
      have hid : cmd.sessionId = sessionId := by
        rwa [hpc] at hs
      obtain ⟨session, hmem, rfl, hsession, -⟩ : d.Lists ref fun s =>
          s.sessionId = cmd.sessionId ∧ s.holds cmd.handle = true := by
        simpa only [Placed, hpc] using hw.placed
      refine ⟨trivial, others_update (keepsIdentity_removeBulkBuff _)
        (sessionId_of_ref hw.distinct hmem (hsession.trans hid)) rfl,
        [.replied r, .unlockWsmL2 cmd.handle, .answer conn (.result mcDrvOk)], ?_, ?_⟩
      · simp
      · simp [Event.Concerns]
  | closeRefused hcall =>
      cases hcall with
      | command => cases hl
      | loop hpc =>
          rw [hpc] at hs
          exact hs.elim
  | closeSent hcall =>
      cases hcall with
      | command => cases hl
      | loop hpc =>
          rw [hpc] at hs
          exact hs.elim
  | closeSentGp hcall =>
      cases hcall with
      | command => cases hl
      | loop hpc =>
          rw [hpc] at hs
          exact hs.elim
  | openFailed hpc | openSucceeded hpc | reaped hpc | reapFailed hpc | drainDone hpc
  | drainedFront hpc | unregisterFailed hpc | unregistered hpc | nqAnswered hpc | flushDone hpc
  | flushedFront hpc | loopCrashed hpc | loopRestarted hpc | loopFinished hpc | loopSkipped hpc
  | taExitDone hpc | taExitSkipped hpc | taExitSent hpc =>
      rw [hpc] at hs
      exact hs.elim
  | receivedUnknown | receivedFound | parked | lockLost | locked | deliverLost | stored
  | forwarded => cases hirq
  | _ => cases hl

/-- The steps of a command from its start on, with those of the IRQ thread between
them. -/
theorem confined_run {d : Daemon} {conn : ConnPtr} {cmd : Command} {sessionId : UInt32}
    (hw : WellFormed d) (htarget : cmd.target = some sessionId) {ms : List Label}
    (hms : ∀ l ∈ ms, l.startsServer = false) :
    system.StepsMeet (Confined sessionId) d (.command conn cmd :: ms) := by
  refine ⟨fun t hstep _ => (effect_starts hw (step_effect hstep) htarget).2, fun t hstep => ?_⟩
  refine TransitionSystem.StepsMeet.of_invariant
    (I := fun d => WellFormed d ∧ Serves sessionId d.srv)
    (C := fun _ l => l.startsServer = false) ?_ ?_
    ⟨effect_wellFormed hw (step_effect hstep),
      (effect_starts hw (step_effect hstep) htarget).1⟩ (TransitionSystem.stepsMeet_of_labels hms)
  · rintro u l v ⟨hw, hs⟩ hl huv
    refine ⟨effect_wellFormed hw (step_effect huv), ?_⟩
    cases hirq : l.byIrq with
    | true =>
        rw [(effect_irq_frame (step_effect huv) hirq).1]
        exact hs
    | false => exact (effect_continues hw hs (step_effect huv) hl hirq).1
  · rintro u l ⟨hw, hs⟩ hl v huv hirq
    exact (effect_continues hw hs (step_effect huv) hl hirq).2

/-! ## Runs -/

/-- In a run in which the secure world returns fresh session ids and no connection of
a client is deleted: a command that names a session its client does not own is refused,
and every step that serves a command keeps the records of all sessions but the one it
names, and sends nothing for them. -/
theorem isolation {ls : List Label} {d : Daemon}
    (hmeet : system.StepsMeet (fun d l => FreshIds d l ∧ KeepsClients d l) init ls)
    (hrun : system.run init ls = some d) (conn : ConnPtr) (cmd : Command) (sessionId : UInt32)
    (htarget : cmd.target = some sessionId) :
    (owner d.trace sessionId ≠ some conn →
      ∀ t, system.step d (.command conn cmd) = some t → Refused d conn cmd t) ∧
    ∀ ms : List Label, (∀ l ∈ ms, l.startsServer = false) →
      system.StepsMeet (Confined sessionId) d (.command conn cmd :: ms) := by
  obtain ⟨hw, -, ho⟩ := run_rule (I := Owned)
    (fun _ _ _ hw hc ho hC h => step_owned hw hc ho hC.1 hC.2 h)
    init_wellFormed init_connectionsHeld init_owned hmeet hrun
  refine ⟨fun hother t hstep => ?_, fun ms hms => confined_run hw htarget hms⟩
  refine effect_refused (step_effect hstep) htarget ?_
  cases hfind : d.findSession conn sessionId with
  | none => rfl
  | some s =>
      obtain ⟨hmem, hid, hconn⟩ := findSession_spec hfind
      exact absurd (hid ▸ ho.owners s hmem conn hconn) hother

/-- Two clients; the first opens a session. -/
def twoClients : List Label :=
  clientLabels 1 ++ openLabels 1 0 10 0x200 ++ clientLabels 2

theorem isolation_twoClients :
    ∃ d t, system.run init twoClients = some d ∧
      system.step d (.command 2 (.closeSession 10)) = some t ∧
        Refused d 2 (.closeSession 10) t ∧
        system.StepsMeet (Confined 10) d
          [.command 1 (.closeSession 10), .reply (successReply mcMcpCmdCloseSession 0) (hostAt 0)] :=
  ⟨_, _, rfl, rfl,
    (@isolation twoClients _ (by decide) rfl 2 (.closeSession 10) 10 rfl).1 (by decide) _ rfl,
    (@isolation twoClients _ (by decide) rfl 1 (.closeSession 10) 10 rfl).2 _ (by decide)⟩

end Daemon

end Exynos8890.MobiCore
