import Exynos8890.MobiCore.DriverDaemon.Effect

/-!
# Well-formed daemon states

How a step can change the list of sessions, and the invariant that every result
about the daemon rests on: the objects in the list are distinct, a session that
is not a GP session runs, and the place of the server refers to an object that
is still listed.

Main results:

- Theorem `effect_sessionsChange`: a step leaves the list, changes one object,
  appends one or deletes one.
- Theorem `effect_wellFormed` and `wellFormed_run`: the invariant holds in every
  reachable state.
- Theorem `effect_irq_frame`: what a step of the IRQ thread leaves alone.
-/

namespace Exynos8890.MobiCore

namespace Daemon

/-! ## Changes of the session list -/

/-- The fields of a session object that never change. -/
def KeepsIdentity (f : TrustletSession → TrustletSession) : Prop :=
  ∀ s, (f s).ref = s.ref ∧ (f s).addr = s.addr ∧ (f s).sessionId = s.sessionId ∧
    (f s).sessionMagic = s.sessionMagic ∧ (f s).gpLevel = s.gpLevel

/-- A session that is not a GP session is in the state running. -/
def Runs (s : TrustletSession) : Prop :=
  s.gpLevel ≠ 1 → s.sessionState = .taRunning

/-- The answer with which an open command succeeds. -/
def openAnswer (d : Daemon) (l : Label) : Option McpReply :=
  match d.srv, l with
  | .openWait _, .reply r _ => if r.mcResult mcMcpCmdOpenSession = mcDrvOk then some r else none
  | _, _ => none

/-- The session that the answer to a close command removes. -/
def removed (d : Daemon) (l : Label) : Option SessionRef :=
  match d.srv, l with
  | .closeWait _ _ ref _, .reply r _ => if r.closeResult = mcDrvOk then some ref else none
  | .closeRetryWait _ _ ref _, .reply r _ => if r.closeResult = mcDrvOk then some ref else none
  | .taExitWait ref _, .reply r _ => if r.closeResult = mcDrvOk then some ref else none
  | _, _ => none

/-- The possible changes of the session list. -/
inductive SessionsChange (d : Daemon) (l : Label) (t : Daemon) : Prop where
  | same (hlist : t.trustletSessions = d.trustletSessions) (hnext : t.nextRef = d.nextRef)
  | changed {ref f} (hid : KeepsIdentity f)
      (hrun : ∀ s ∈ d.trustletSessions, s.ref = ref → Runs s → Runs (f s))
      (hlist : t.trustletSessions = KeyedList.update TrustletSession.ref ref f d.trustletSessions)
      (hnext : t.nextRef = d.nextRef)
  | pushed {frame r host} (hl : l = .reply r host) (hopen : d.openAnswer l = some r)
      (haddr : ∀ s ∈ d.trustletSessions, s.addr ≠ host.addr)
      (hlist : t.trustletSessions =
        d.trustletSessions ++ [d.newSession frame r.value host.addr host.magic])
      (hnext : t.nextRef = d.nextRef + 1)
  | deleted {ref} (hremoved : d.removed l = some ref)
      (hlist : t.trustletSessions = KeyedList.delete TrustletSession.ref ref d.trustletSessions)
      (hnext : t.nextRef = d.nextRef)

theorem keepsIdentity_queueNotification (n : Notification) :
    KeepsIdentity (TrustletSession.queueNotification n) := by
  intro s
  simp

theorem keepsIdentity_disconnect : KeepsIdentity TrustletSession.disconnect :=
  fun _ => ⟨rfl, rfl, rfl, rfl, rfl⟩

theorem keepsIdentity_connect (conn : ConnPtr) : KeepsIdentity (TrustletSession.connect conn) :=
  fun _ => ⟨rfl, rfl, rfl, rfl, rfl⟩

theorem keepsIdentity_popNotification : KeepsIdentity TrustletSession.popNotification :=
  fun _ => ⟨rfl, rfl, rfl, rfl, rfl⟩

theorem keepsIdentity_addBulkBuff (pWsm : CWsm) :
    KeepsIdentity (TrustletSession.addBulkBuff pWsm) :=
  fun _ => ⟨rfl, rfl, rfl, rfl, rfl⟩

theorem keepsIdentity_removeBulkBuff (handle : UInt32) :
    KeepsIdentity (TrustletSession.removeBulkBuff handle) :=
  fun _ => ⟨rfl, rfl, rfl, rfl, rfl⟩

theorem runs_queueNotification {n : Notification} {s : TrustletSession} (h : Runs s) :
    Runs (s.queueNotification n) := by
  intro hgp
  rw [TrustletSession.queueNotification_gpLevel] at hgp
  rw [TrustletSession.queueNotification_sessionState hgp]
  exact h hgp

theorem sessionAt_mem {d : Daemon} {ref : SessionRef} {s : TrustletSession}
    (h : d.sessionAt ref = some s) : s ∈ d.trustletSessions ∧ s.ref = ref :=
  KeyedList.mem_of_lookup h

theorem getTrustletSession_mem {d : Daemon} {sessionId : UInt32} {s : TrustletSession}
    (h : d.getTrustletSession sessionId = some s) :
    s ∈ d.trustletSessions ∧ s.sessionId = sessionId :=
  KeyedList.mem_of_lookup h

/-- `findSession` finds a listed session of this id that the connection owns. -/
theorem findSession_spec {d : Daemon} {conn : ConnPtr} {sessionId : UInt32}
    {s : TrustletSession} (h : d.findSession conn sessionId = some s) :
    s ∈ d.trustletSessions ∧ s.sessionId = sessionId ∧ s.deviceConnection = some conn := by
  unfold findSession at h
  cases hget : d.getTrustletSession sessionId with
  | none => simp [hget] at h
  | some session =>
      simp only [hget] at h
      split at h
      · cases h
      · rename_i howner
        cases h
        exact ⟨(getTrustletSession_mem hget).1, (getTrustletSession_mem hget).2,
          not_not.mp howner⟩

theorem resolve_mem {d : Daemon} {ts : SessionPtr} {s : TrustletSession}
    (h : d.resolve ts = some s) : s ∈ d.trustletSessions := by
  unfold resolve at h
  cases hat : d.sessionAt ts.ref with
  | none =>
      simp only [hat] at h
      exact (KeyedList.mem_of_lookup h).1
  | some session =>
      simp only [hat, Option.some.injEq] at h
      exact h ▸ (sessionAt_mem hat).1

@[simp]
theorem newSession_ref (frame : OpenFrame) (sessionId : UInt32) (addr : UInt64)
    (magic : UInt32) (d : Daemon) : (d.newSession frame sessionId addr magic).ref = d.nextRef := by
  unfold newSession
  split <;> rfl

@[simp]
theorem newSession_addr (frame : OpenFrame) (sessionId : UInt32) (addr : UInt64)
    (magic : UInt32) (d : Daemon) :
    (d.newSession frame sessionId addr magic).addr = addr := by
  unfold newSession
  split <;> rfl

@[simp]
theorem newSession_sessionId (frame : OpenFrame) (sessionId : UInt32) (addr : UInt64)
    (magic : UInt32) (d : Daemon) :
    (d.newSession frame sessionId addr magic).sessionId = sessionId := by
  unfold newSession
  split <;> rfl

@[simp]
theorem newSession_sessionState (frame : OpenFrame) (sessionId : UInt32) (addr : UInt64)
    (magic : UInt32) (d : Daemon) :
    (d.newSession frame sessionId addr magic).sessionState = .taRunning := by
  unfold newSession
  split <;> rfl

@[simp]
theorem newSession_notifications (frame : OpenFrame) (sessionId : UInt32) (addr : UInt64)
    (magic : UInt32) (d : Daemon) :
    (d.newSession frame sessionId addr magic).notifications = [] := by
  unfold newSession
  split <;> rfl

@[simp]
theorem newSession_deviceConnection (frame : OpenFrame) (sessionId : UInt32) (addr : UInt64)
    (magic : UInt32) (d : Daemon) :
    (d.newSession frame sessionId addr magic).deviceConnection = some frame.conn := by
  unfold newSession
  split <;> rfl

@[simp]
theorem newSession_notificationConnection (frame : OpenFrame) (sessionId : UInt32)
    (addr : UInt64) (magic : UInt32) (d : Daemon) :
    (d.newSession frame sessionId addr magic).notificationConnection = none := by
  unfold newSession
  split <;> rfl

/-- With distinct objects, a listed object is determined by its number. -/
theorem eq_of_ref_eq {d : Daemon} (hd : d.refs.Nodup) {s s' : TrustletSession}
    (hs : s ∈ d.trustletSessions) (hs' : s' ∈ d.trustletSessions) (h : s.ref = s'.ref) :
    s = s' :=
  List.inj_on_of_nodup_map hd hs hs' h

/-- Every step leaves the list, changes one object, appends one or deletes one. -/
theorem effect_sessionsChange {d t : Daemon} {l : Label} (hd : d.refs.Nodup)
    (h : Effect d l t) : SessionsChange d l t := by
  cases h with
  | closeRefused hcall => cases hcall <;> exact .same rfl rfl
  | closeSent hcall => cases hcall <;> exact .same rfl rfl
  | @closeSentGp _ _ conn sessionId caller session hcall hsome hgp =>
      have hrun : ∀ s ∈ d.trustletSessions, s.ref = session.ref → Runs s → Runs s.disconnect := by
        intro s hs href _ hne
        rw [eq_of_ref_eq hd hs (findSession_spec hsome).1 href] at hne
        exact absurd hgp hne
      cases hcall <;> exact .changed keepsIdentity_disconnect hrun rfl rfl
  | nqConnected =>
      exact .changed (keepsIdentity_connect _) (fun _ _ _ hs => hs) rfl rfl
  | mapSent =>
      exact .changed (keepsIdentity_addBulkBuff _) (fun _ _ _ hs => hs) rfl rfl
  | openSucceeded hpc hret haddr =>
      exact .pushed rfl (by simp [openAnswer, hpc, hret]) haddr rfl rfl
  | @closeDone conn sessionId ref caller session r host hpc hat hret =>
      refine .deleted ?_ rfl rfl
      rw [(sessionAt_mem hat).2]
      rcases hpc with hpc | hpc <;> simp [removed, hpc, hret]
  | unmapSucceeded =>
      exact .changed (keepsIdentity_removeBulkBuff _) (fun _ _ _ hs => hs) rfl rfl
  | @reaped ref rest ts r host hpc hat hret =>
      refine .deleted ?_ rfl rfl
      rw [(sessionAt_mem hat).2]
      simp [removed, hpc, hret]
  | drainedFront =>
      exact .changed (keepsIdentity_queueNotification _) (fun _ _ _ hs => runs_queueNotification hs)
        rfl rfl
  | flushedFront =>
      exact .changed keepsIdentity_popNotification (fun _ _ _ hs => hs) rfl rfl
  | stored =>
      exact .changed (keepsIdentity_queueNotification _) (fun _ _ _ hs => runs_queueNotification hs)
        rfl rfl
  | @loopFinished conn erased dropping crash hpc hwhy =>
      cases dropping <;> exact .same rfl rfl
  | _ => exact .same rfl rfl

/-- Every session after a step was listed before it, or has just been opened. -/
theorem SessionsChange.origin {d t : Daemon} {l : Label} (h : SessionsChange d l t) :
    ∀ s' ∈ t.trustletSessions,
      (∃ s ∈ d.trustletSessions,
        s'.ref = s.ref ∧ s'.addr = s.addr ∧ s'.sessionId = s.sessionId) ∨
      ∃ frame r host, l = .reply r host ∧ d.openAnswer l = some r ∧
        s' = d.newSession frame r.value host.addr host.magic := by
  intro s' hs'
  cases h with
  | same hlist =>
      rw [hlist] at hs'
      exact Or.inl ⟨s', hs', rfl, rfl, rfl⟩
  | changed hid hrun hlist =>
      rw [hlist] at hs'
      rcases KeyedList.mem_update.mp hs' with ⟨s, hs, -, rfl⟩ | ⟨hs, -⟩
      · exact Or.inl ⟨s, hs, (hid s).1, (hid s).2.1, (hid s).2.2.1⟩
      · exact Or.inl ⟨s', hs, rfl, rfl, rfl⟩
  | @pushed frame r host hl hopen haddr hlist =>
      rw [hlist] at hs'
      rcases List.mem_append.mp hs' with hs | hs
      · exact Or.inl ⟨s', hs, rfl, rfl, rfl⟩
      · exact Or.inr ⟨frame, r, host, hl, hopen, List.mem_singleton.mp hs⟩
  | deleted hremoved hlist =>
      rw [hlist] at hs'
      exact Or.inl ⟨s', KeyedList.mem_of_mem_delete hs', rfl, rfl, rfl⟩

theorem SessionsChange.nextRef_le {d t : Daemon} {l : Label} (h : SessionsChange d l t) :
    d.nextRef ≤ t.nextRef := by
  cases h with
  | same _ hnext => exact hnext.ge
  | changed _ _ _ hnext => exact hnext.ge
  | pushed _ _ _ _ hnext => exact hnext ▸ Nat.le_succ _
  | deleted _ _ hnext => exact hnext.ge

/-! ## The IRQ thread -/

/-- A step of the IRQ thread leaves the server and the connections alone, and at
most queues a notification. -/
theorem effect_irq_frame {d t : Daemon} {l : Label} (h : Effect d l t) (hl : l.byIrq = true) :
    t.srv = d.srv ∧ t.connections = d.connections ∧ t.opened = d.opened ∧
      t.peerConnections = d.peerConnections ∧ t.mapped = d.mapped ∧ t.nextRef = d.nextRef ∧
      (t.trustletSessions = d.trustletSessions ∨
        ∃ ref n, t.trustletSessions =
          KeyedList.update TrustletSession.ref ref (TrustletSession.queueNotification n)
            d.trustletSessions) := by
  cases h with
  | stored => exact ⟨rfl, rfl, rfl, rfl, rfl, rfl, Or.inr ⟨_, _, rfl⟩⟩
  | receivedUnknown | receivedFound | parked | lockLost | locked | deliverLost | forwarded =>
      exact ⟨rfl, rfl, rfl, rfl, rfl, rfl, Or.inl rfl⟩
  | closeRefused hcall | closeSent hcall | closeSentGp hcall => cases hcall <;> cases hl
  | _ => cases hl

theorem effect_irq_eq {d t : Daemon} {l : Label} (h : Effect d l t) (hl : l.byIrq = false) :
    t.irq = d.irq := by
  cases h with
  | closeRefused hcall => cases hcall <;> rfl
  | closeSent hcall => cases hcall <;> rfl
  | closeSentGp hcall => cases hcall <;> rfl
  | @loopFinished conn erased dropping crash hpc hwhy => cases dropping <;> rfl
  | receivedUnknown | receivedFound | parked | lockLost | locked | deliverLost | stored
  | forwarded => cases hl
  | _ => rfl

/-! ## The invariant -/

/-- An object with this number and this property is listed. -/
def Lists (d : Daemon) (ref : SessionRef) (p : TrustletSession → Prop) : Prop :=
  ∃ s ∈ d.trustletSessions, s.ref = ref ∧ p s

/-- The place of the server refers to listed objects. -/
def Placed (d : Daemon) : Prop :=
  match d.srv with
  | .closeWait _ sessionId ref _ =>
      d.Lists ref fun s => s.sessionId = sessionId ∧ (s.gpLevel = 1 → s.deviceConnection = none)
  | .closeRetryWait _ sessionId ref _ =>
      d.Lists ref fun s => s.sessionId = sessionId ∧ s.gpLevel = 1 ∧
        s.deviceConnection = none ∧ s.sessionState = .taDead
  | .unmapWait _ cmd ref =>
      d.Lists ref fun s => s.sessionId = cmd.sessionId ∧ s.holds cmd.handle = true
  | .openDrain _ ref _ => d.Lists ref fun _ => True
  | .nqRegistered conn ref => d.Lists ref fun s => s.notificationConnection = some conn
  | .nqDrain ref => d.Lists ref fun _ => True
  | _ => True

/-- The invariant of the daemon. -/
structure WellFormed (d : Daemon) : Prop where
  distinct : d.refs.Nodup
  numbered : ∀ s ∈ d.trustletSessions, s.ref < d.nextRef
  runs : ∀ s ∈ d.trustletSessions, Runs s
  placed : d.Placed

theorem init_wellFormed : WellFormed init := by
  refine ⟨List.nodup_nil, ?_, ?_, trivial⟩
  · intro s hs
    exact absurd hs List.not_mem_nil
  · intro s hs
    exact absurd hs List.not_mem_nil

/-- A listed object with this number is the one that is found. -/
theorem sessionAt_of_mem {d : Daemon} (hd : d.refs.Nodup) {s : TrustletSession}
    (hs : s ∈ d.trustletSessions) : d.sessionAt s.ref = some s :=
  KeyedList.lookup_of_mem hd hs

theorem Lists.of_sessionAt {d : Daemon} {ref : SessionRef} {s : TrustletSession}
    {p : TrustletSession → Prop} (h : d.sessionAt ref = some s) (hp : p s) : d.Lists ref p :=
  ⟨s, (sessionAt_mem h).1, (sessionAt_mem h).2, hp⟩

/-- What is listed under a number is what is found there. -/
theorem Lists.sessionAt {d : Daemon} {ref : SessionRef} {s : TrustletSession}
    {p : TrustletSession → Prop} (h : d.Lists ref p) (hd : d.refs.Nodup)
    (hat : d.sessionAt ref = some s) : p s := by
  obtain ⟨s', hs', rfl, hp⟩ := h
  rw [sessionAt_of_mem hd hs'] at hat
  cases hat
  exact hp

theorem Lists.update {d t : Daemon} {ref k : SessionRef} {p q : TrustletSession → Prop}
    {f : TrustletSession → TrustletSession} (h : d.Lists ref p)
    (hlist : t.trustletSessions = KeyedList.update TrustletSession.ref k f d.trustletSessions)
    (hid : KeepsIdentity f) (hf : ∀ s, s.ref = ref → ref = k → p s → q (f s))
    (hkeep : ∀ s, s.ref = ref → ref ≠ k → p s → q s) : t.Lists ref q := by
  obtain ⟨s, hs, href, hp⟩ := h
  by_cases hk : ref = k
  · refine ⟨f s, ?_, by rw [(hid s).1, href], hf s href hk hp⟩
    rw [hlist, KeyedList.mem_update]
    exact Or.inl ⟨s, hs, by rw [href, hk], rfl⟩
  · refine ⟨s, ?_, href, hkeep s href hk hp⟩
    rw [hlist, KeyedList.mem_update]
    exact Or.inr ⟨hs, by rwa [href]⟩

theorem Lists.of_list_eq {d t : Daemon} {ref : SessionRef} {p : TrustletSession → Prop}
    (h : d.Lists ref p) (hlist : t.trustletSessions = d.trustletSessions) : t.Lists ref p := by
  rw [Lists, hlist]
  exact h

/-- Queueing a notification keeps what the server relies on. -/
theorem Placed.of_queued {d t : Daemon} (h : d.Placed) (hsrv : t.srv = d.srv)
    {ref : SessionRef} {n : Notification}
    (hlist : t.trustletSessions =
      KeyedList.update TrustletSession.ref ref (TrustletSession.queueNotification n)
        d.trustletSessions) : t.Placed := by
  have hkeep : ∀ {k} {p : TrustletSession → Prop},
      (∀ s, p s → p (s.queueNotification n)) → d.Lists k p → t.Lists k p :=
    fun hp hlisted => hlisted.update hlist (keepsIdentity_queueNotification n)
      (fun s _ _ hs => hp s hs) (fun _ _ _ hs => hs)
  unfold Placed at h ⊢
  rw [hsrv]
  cases hpc : d.srv with
  | closeWait conn sessionId k caller =>
      simp only [hpc] at h
      exact hkeep (fun s hs => by simpa using hs) h
  | closeRetryWait conn sessionId k caller =>
      simp only [hpc] at h
      refine hkeep (fun s hs => ?_) h
      rw [TrustletSession.queueNotification_dead hs.2.2.2]
      exact hs
  | unmapWait conn cmd k =>
      simp only [hpc] at h
      exact hkeep (fun s hs => by simpa [TrustletSession.holds] using hs) h
  | openDrain conn k rsp =>
      simp only [hpc] at h
      exact hkeep (fun _ _ => trivial) h
  | nqRegistered conn k =>
      simp only [hpc] at h
      exact hkeep (fun s hs => by simpa using hs) h
  | nqDrain k =>
      simp only [hpc] at h
      exact hkeep (fun _ _ => trivial) h
  | idle | openWait | openReturn | mapWait | closeLoop | taExit | taExitWait | halted => trivial

theorem Placed.of_eq {d t : Daemon} (h : d.Placed) (hsrv : t.srv = d.srv)
    (hlist : t.trustletSessions = d.trustletSessions) : t.Placed := by
  unfold Placed Lists at h ⊢
  rwa [hsrv, hlist]

theorem placed_closeReturn (conn : ConnPtr) (sessionId : UInt32) (caller : CloseCaller)
    (ret : McResult) (d : Daemon) : (d.closeReturn conn sessionId caller ret).Placed := by
  cases caller <;> exact trivial

/-- The server refers to listed objects after every step. -/
theorem effect_placed {d t : Daemon} {l : Label} (hd : d.refs.Nodup) (hp : d.Placed)
    (h : Effect d l t) : t.Placed := by
  cases h with
  | accepted => exact hp.of_eq rfl rfl
  | closeRefused hcall => exact placed_closeReturn ..
  | @closeSent _ d₀ conn sessionId caller session hcall hsome hgp =>
      obtain ⟨hmem, hid, -⟩ := findSession_spec hsome
      cases hcall <;> exact ⟨session, hmem, rfl, hid, fun hgp' => absurd hgp' hgp⟩
  | @closeSentGp _ d₀ conn sessionId caller session hcall hsome hgp =>
      obtain ⟨hmem, hid, -⟩ := findSession_spec hsome
      have hmem' : session.disconnect ∈ KeyedList.update TrustletSession.ref session.ref
          TrustletSession.disconnect d.trustletSessions :=
        KeyedList.mem_update.mpr (Or.inl ⟨session, hmem, rfl, rfl⟩)
      cases hcall <;> exact ⟨session.disconnect, hmem', rfl, hid, fun _ => rfl⟩
  | @nqConnected conn cmd session hidle hpeer hclosed hfind =>
      have hmem : session ∈ d.trustletSessions := List.mem_of_find?_eq_some hfind
      exact ⟨session.connect conn,
        KeyedList.mem_update.mpr (Or.inl ⟨session, hmem, rfl, rfl⟩), rfl, rfl⟩
  | notifyIgnored => exact hp
  | notifySent => exact hp.of_eq rfl rfl
  | @unmapSent conn cmd session hidle hopen hsome hfind =>
      obtain ⟨hmem, hid, -⟩ := findSession_spec hsome
      exact ⟨session, hmem, rfl, hid, TrustletSession.holds_of_findBulkBuff hfind⟩
  | @openSucceeded frame r host =>
      exact ⟨d.newSession frame r.value host.addr host.magic,
        List.mem_append_right _ (List.mem_singleton.mpr rfl), newSession_ref .., trivial⟩
  | @closeRetried conn sessionId ref caller session r host hpc hat hgp hret hdead =>
      have hlisted : d.Lists ref fun s => s.sessionId = sessionId ∧
          (s.gpLevel = 1 → s.deviceConnection = none) := by
        simpa only [Placed, hpc] using hp
      obtain ⟨hid, hconn⟩ := hlisted.sessionAt hd hat
      exact Lists.of_sessionAt (d := d) hat ⟨hid, hgp, hconn hgp, hdead⟩
  | closeDeferred => exact placed_closeReturn ..
  | closeFailed => exact placed_closeReturn ..
  | closeDone => exact placed_closeReturn ..
  | @drainedFront conn ref rsp front rest hpc hqueue => exact hp.of_queued rfl rfl
  | @nqAnswered conn ref hpc =>
      have hlisted : d.Lists ref fun s => s.notificationConnection = some conn := by
        simpa only [Placed, hpc] using hp
      obtain ⟨s, hs, href, -⟩ := hlisted
      exact ⟨s, hs, href, trivial⟩
  | @flushedFront ref session conn front rest hpc hat hconn hqueue =>
      have hlisted : d.Lists ref fun _ => True := by
        simpa only [Placed, hpc] using hp
      have hlisted' : (d.flushFront session conn front).Lists ref fun _ => True :=
        hlisted.update rfl keepsIdentity_popNotification (fun _ _ _ _ => trivial)
          (fun _ _ _ _ => trivial)
      have hsrv : (d.flushFront session conn front).srv = .nqDrain ref := hpc
      simpa only [Placed, hsrv] using hlisted'
  | @loopFinished conn erased dropping crash hpc hwhy => cases dropping <;> exact trivial
  | receivedUnknown | receivedFound | parked | lockLost | locked | deliverLost | forwarded =>
      exact hp.of_eq rfl rfl
  | stored => exact hp.of_queued rfl rfl
  | _ => trivial

theorem effect_wellFormed {d t : Daemon} {l : Label} (hw : WellFormed d) (h : Effect d l t) :
    WellFormed t := by
  have hplaced := effect_placed hw.distinct hw.placed h
  cases effect_sessionsChange hw.distinct h with
  | same hlist hnext =>
      refine ⟨?_, ?_, ?_, hplaced⟩
      · rw [refs, hlist]
        exact hw.distinct
      · rw [hlist, hnext]
        exact hw.numbered
      · rw [hlist]
        exact hw.runs
  | @changed ref f hid hrun hlist hnext =>
      refine ⟨?_, ?_, ?_, hplaced⟩
      · rw [refs, hlist, KeyedList.map_update fun s => (hid s).1]
        exact hw.distinct
      · rw [hlist, hnext]
        intro s hs
        rcases KeyedList.mem_update.mp hs with ⟨s', hs', -, rfl⟩ | ⟨hs, -⟩
        · rw [(hid s').1]
          exact hw.numbered s' hs'
        · exact hw.numbered s hs
      · rw [hlist]
        intro s hs
        rcases KeyedList.mem_update.mp hs with ⟨s', hs', href, rfl⟩ | ⟨hs, -⟩
        · exact hrun s' hs' href (hw.runs s' hs')
        · exact hw.runs s hs
  | @pushed frame r host hl hopen haddr hlist hnext =>
      refine ⟨?_, ?_, ?_, hplaced⟩
      · rw [refs, hlist, List.map_append, List.map_singleton]
        refine List.nodup_append.mpr ⟨hw.distinct, List.nodup_singleton _, ?_⟩
        intro a ha b hb
        obtain ⟨s', hs', rfl⟩ := List.mem_map.mp ha
        rw [List.mem_singleton.mp hb, newSession_ref]
        exact (hw.numbered s' hs').ne
      · rw [hlist, hnext]
        intro s' hs'
        rcases List.mem_append.mp hs' with hs' | hs'
        · exact Nat.lt_succ_of_lt (hw.numbered s' hs')
        · rw [List.mem_singleton.mp hs', newSession_ref]
          exact Nat.lt_succ_self _
      · rw [hlist]
        intro s' hs'
        rcases List.mem_append.mp hs' with hs' | hs'
        · exact hw.runs s' hs'
        · rw [List.mem_singleton.mp hs']
          exact fun _ => newSession_sessionState ..
  | @deleted ref hremoved hlist hnext =>
      refine ⟨?_, ?_, ?_, hplaced⟩
      · rw [refs, hlist]
        exact KeyedList.nodup_delete hw.distinct
      · rw [hlist, hnext]
        exact fun s hs => hw.numbered s (KeyedList.mem_of_mem_delete hs)
      · rw [hlist]
        exact fun s hs => hw.runs s (KeyedList.mem_of_mem_delete hs)

/-- The session that is being closed has the id it is closed under. -/
theorem ClosePending.sessionId_eq {d : Daemon} {conn : ConnPtr} {sessionId : UInt32}
    {ref : SessionRef} {caller : CloseCaller} (hpc : d.ClosePending conn sessionId ref caller)
    (hw : WellFormed d) {s : TrustletSession} (hat : d.sessionAt ref = some s) :
    s.sessionId = sessionId := by
  have hp := hw.placed
  unfold Placed at hp
  rcases hpc with hpc | hpc <;> simp only [hpc] at hp
  · exact (hp.sessionAt hw.distinct hat).1
  · exact (hp.sessionAt hw.distinct hat).1

theorem step_wellFormed (d : Daemon) (l : Label) (t : Daemon) (hw : WellFormed d)
    (h : system.step d l = some t) : WellFormed t :=
  effect_wellFormed hw (step_effect h)

theorem wellFormed_run {ls : List Label} {d : Daemon} (h : system.run init ls = some d) :
    WellFormed d :=
  TransitionSystem.run_invariant_of_step step_wellFormed init_wellFormed h

end Daemon

end Exynos8890.MobiCore
