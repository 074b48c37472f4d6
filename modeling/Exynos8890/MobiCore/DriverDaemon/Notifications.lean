import Exynos8890.MobiCore.DriverDaemon.Connections

/-!
# Steps that hand on no notification

Notifications are moved by the IRQ thread, by the two loops that drain a queue, and
by the registration of a notification connection.  Every other step leaves the
queues alone, and writes neither about notifications nor to a connection that the
server does not listen on.

Main results:

- Theorem `effect_quiet`: what the other steps add to the trace.
- Theorem `effect_quietSessions` and `Lists.of_quiet`: what they do to a session.
-/

namespace Exynos8890.MobiCore

/-- The event is about a notification or the place where notifications go, or it is
an answer on the watched connection. -/
def Event.noted (watched : Option ConnPtr) : Event → Bool
  | .received _ => true
  | .stored .. => true
  | .forwarded .. => true
  | .parked .. => true
  | .drained .. => true
  | .flushed .. => true
  | .registered .. => true
  | .danglingAccess _ => true
  | .answer conn _ => watched = some conn
  | _ => false

/-- The notification that the IRQ thread works on, and the session it has found. -/
def IrqPc.target : IrqPc → Option (Notification × SessionPtr)
  | .found n ts => some (n, ts)
  | .locked n ts _ => some (n, ts)
  | _ => none

/-- The session to which parked notifications are being handed over. -/
def ServerPc.draining : ServerPc → Option SessionRef
  | .openDrain _ ref _ => some ref
  | _ => none

namespace Daemon

theorem target_of_found {d : Daemon} {n : Notification} {ts : SessionPtr}
    (h : d.irq = .found n ts) : d.irq.target = some (n, ts) := by
  rw [h]
  rfl

theorem target_of_locked {d : Daemon} {n : Notification} {ts : SessionPtr}
    {connection : Option ConnPtr} (h : d.irq = .locked n ts connection) :
    d.irq.target = some (n, ts) := by
  rw [h]
  rfl

/-- The step can hand on notifications or answer an NQ connect. -/
def notifies (d : Daemon) : Label → Bool
  | .irqReceive _ => true
  | .irqPark => true
  | .irqLock => true
  | .irqDeliver => true
  | .drain => true
  | .respond => true
  | .command conn (.nqConnect _) => conn ∉ d.opened
  | _ => false

theorem byIrq_of_not_notifies {d : Daemon} {l : Label} (h : d.notifies l = false) :
    l.byIrq = false := by
  cases l <;> first | rfl | cases h

theorem notifies_of_refused {d : Daemon} {conn : ConnPtr} {cmd : Command}
    (hnq : ∀ c, cmd = .nqConnect c → conn ∈ d.opened) : d.notifies (.command conn cmd) = false := by
  cases cmd with
  | nqConnect c => simp [notifies, hnq c rfl]
  | _ => rfl

/-! ## Events -/

theorem filter_callerAnswer {watched : Option ConnPtr} {conn : ConnPtr}
    (h : watched ≠ some conn) (caller : CloseCaller) (ret : McResult) :
    (callerAnswer conn caller ret).filter (Event.noted watched) = [] := by
  cases caller <;> simp [callerAnswer, Event.noted, h]

theorem filter_closedConnection (watched connection : Option ConnPtr) :
    (connection.toList.map .closedConnection).filter (Event.noted watched) = [] := by
  cases connection <;> rfl

theorem filter_unlockWsmL2 (watched : Option ConnPtr) (buffers : List CWsm) :
    (buffers.map fun pWsm => .unlockWsmL2 pWsm.handle).filter (Event.noted watched) = [] := by
  rw [List.filter_eq_nil_iff]
  intro e he
  obtain ⟨pWsm, -, rfl⟩ := List.mem_map.mp he
  simp [Event.noted]

theorem CloseCall.filter_noted {d d₀ : Daemon} {l : Label} {conn : ConnPtr}
    {sessionId : UInt32} {caller : CloseCaller} (hcall : CloseCall d l d₀ conn sessionId caller)
    (watched : Option ConnPtr) :
    d₀.trace.filter (Event.noted watched) = d.trace.filter (Event.noted watched) := by
  cases hcall with
  | command => rfl
  | @loop _ before erased => cases erased <;> simp [Event.noted]

/-- A step that hands on no notification adds no event about one, and no answer on a
connection that the server does not listen on. -/
theorem effect_quiet {d t : Daemon} {l : Label} (hc : ConnectionsHeld d) (h : Effect d l t)
    (hl : d.notifies l = false) {watched : Option ConnPtr}
    (hwatched : ∀ conn ∈ watched, conn ∉ d.peerConnections) :
    t.trace.filter (Event.noted watched) = d.trace.filter (Event.noted watched) := by
  have hpeer : ∀ {conn}, conn ∈ d.peerConnections → watched ≠ some conn :=
    fun hmem heq => hwatched _ heq hmem
  have hopened : ∀ {conn}, conn ∈ d.opened → watched ≠ some conn :=
    fun hmem => hpeer (hc.openedPeer _ hmem)
  have hserved : ∀ {conn}, servedConn d.srv = some conn → watched ≠ some conn :=
    fun h => hopened (hc.served _ h)
  cases h with
  | refused hidle hconn => simp [Event.noted, hpeer hconn]
  | deviceOpened hidle hconn => simp [Event.noted, hpeer hconn]
  | closeRefused hcall =>
      simp [Event.noted, filter_callerAnswer (hopened (hcall.conn_opened hc)), hcall.filter_noted]
  | closeSent hcall => simp [Event.noted, hcall.filter_noted]
  | closeSentGp hcall => simp [Event.noted, filter_closedConnection, hcall.filter_noted]
  | mapLeaked hidle hopen => simp [Event.noted, hopened hopen]
  | @openFailed frame => by_cases huses : frame.usesTci <;> simp [huses, Event.noted]
  | @closeDeferred conn sessionId ref caller session r host hpc =>
      have hconn : watched ≠ some conn := hserved (by rw [hpc]; rfl)
      simp [Event.noted, filter_callerAnswer hconn]
  | closeFailed hpc => simp [Event.noted, filter_callerAnswer (hopened (hpc.served hc))]
  | closeDone hpc =>
      simp [Event.noted, filter_unlockWsmL2, filter_closedConnection,
        filter_callerAnswer (hopened (hpc.served hc))]
  | @mapFailed conn cmd pAddrL2 r host code hpc =>
      have hconn : watched ≠ some conn := hserved (by rw [hpc]; rfl)
      simp [Event.noted, hconn]
  | @mapSucceeded conn cmd pAddrL2 r host hpc =>
      have hconn : watched ≠ some conn := hserved (by rw [hpc]; rfl)
      simp [Event.noted, hconn]
  | @unmapFailed conn cmd ref r host code hpc =>
      have hconn : watched ≠ some conn := hserved (by rw [hpc]; rfl)
      simp [Event.noted, hconn]
  | @unmapSucceeded conn cmd ref r host hpc =>
      have hconn : watched ≠ some conn := hserved (by rw [hpc]; rfl)
      simp [Event.noted, hconn]
  | reaped => simp [Event.noted, filter_closedConnection]
  | @unregisterFailed conn rsp hpc =>
      have hconn : watched ≠ some conn := hserved (by rw [hpc]; rfl)
      simp [Event.noted, hconn]
  | @unregistered conn rsp hpc =>
      have hconn : watched ≠ some conn := hserved (by rw [hpc]; rfl)
      simp [Event.noted, hconn]
  | @loopFinished conn erased dropping crash hpc =>
      have hconn : watched ≠ some conn := hserved (by rw [hpc]; rfl)
      cases dropping <;> cases erased <;> simp [closeFinish, Event.noted, hconn]
  | @loopSkipped conn before erased => cases erased <;> simp [Event.noted]
  | nqRefused _ _ hclosed | nqConnected _ _ hclosed => simp [notifies, hclosed] at hl
  | drainDone | drainedFront | nqAnswered | flushDone | flushedFront
  | receivedUnknown | receivedFound | parked | lockLost | locked | deliverLost | stored
  | forwarded => cases hl
  | _ => simp [Event.noted]

theorem filterMap_of_noted {β : Type} {f : Event → Option β} {watched : Option ConnPtr}
    (hf : ∀ e, e.noted watched = false → f e = none) {trace trace' : List Event}
    (h : trace'.filter (Event.noted watched) = trace.filter (Event.noted watched)) :
    trace'.filterMap f = trace.filterMap f := by
  have hfilter : ∀ es : List Event,
      es.filterMap f = (es.filter (Event.noted watched)).filterMap f := by
    intro es
    rw [List.filterMap_filter]
    refine List.filterMap_congr fun e _ => ?_
    cases he : e.noted watched with
    | true => simp
    | false => simp [hf e he]
  rw [hfilter, h, ← hfilter]

/-! ## Sessions -/

/-- What a step that hands on no notification can do to a session. -/
inductive QuietChange (s : TrustletSession) : TrustletSession → Prop where
  | buffers (buffers : BulkBuffers) : QuietChange s { s with buffers := buffers }
  | disconnected (hgp : s.gpLevel = 1) : QuietChange s s.disconnect

/-- Every session of `t` is new or one of `d`, quietly changed. -/
def QuietSessions (d : Daemon) (l : Label) (t : Daemon) : Prop :=
  ∀ s' ∈ t.trustletSessions,
    (∃ s ∈ d.trustletSessions, QuietChange s s') ∨
      ∃ frame r host, l = .reply r host ∧ d.openAnswer l = some r ∧
        s' = d.newSession frame r.value host.addr host.magic

theorem QuietSessions.of_list_eq {d t : Daemon} {l : Label}
    (h : t.trustletSessions = d.trustletSessions) : QuietSessions d l t := by
  intro s hs
  rw [h] at hs
  exact Or.inl ⟨s, hs, .buffers s.buffers⟩

theorem QuietSessions.of_update {d t : Daemon} {l : Label} {ref : SessionRef}
    {f : TrustletSession → TrustletSession}
    (hf : ∀ s ∈ d.trustletSessions, s.ref = ref → QuietChange s (f s))
    (h : t.trustletSessions = KeyedList.update TrustletSession.ref ref f d.trustletSessions) :
    QuietSessions d l t := by
  intro s' hs'
  rw [h] at hs'
  rcases KeyedList.mem_update.mp hs' with ⟨s, hs, href, rfl⟩ | ⟨hs, -⟩
  · exact Or.inl ⟨s, hs, hf s hs href⟩
  · exact Or.inl ⟨s', hs, .buffers s'.buffers⟩

theorem QuietSessions.of_delete {d t : Daemon} {l : Label} {ref : SessionRef}
    (h : t.trustletSessions = KeyedList.delete TrustletSession.ref ref d.trustletSessions) :
    QuietSessions d l t := by
  intro s hs
  rw [h] at hs
  exact Or.inl ⟨s, KeyedList.mem_of_mem_delete hs, .buffers s.buffers⟩

/-- A step that hands on no notification changes sessions quietly. -/
theorem effect_quietSessions {d t : Daemon} {l : Label} (hw : WellFormed d) (h : Effect d l t)
    (hl : d.notifies l = false) : QuietSessions d l t := by
  cases h with
  | closeRefused hcall => cases hcall <;> exact .of_list_eq rfl
  | closeSent hcall => cases hcall <;> exact .of_list_eq rfl
  | @closeSentGp _ _ _ _ _ session hcall hsome hgp =>
      have hf : ∀ s ∈ d.trustletSessions, s.ref = session.ref → QuietChange s s.disconnect := by
        intro s hs href
        obtain rfl := eq_of_ref_eq hw.distinct hs (findSession_spec hsome).1 href
        exact .disconnected hgp
      cases hcall <;> exact .of_update hf rfl
  | mapSent => exact .of_update (fun _ _ _ => .buffers _) rfl
  | @openSucceeded frame r host hpc hret haddr =>
      intro s hs
      rcases List.mem_append.mp hs with hs | hs
      · exact Or.inl ⟨s, hs, .buffers s.buffers⟩
      · exact Or.inr ⟨frame, r, host, rfl, by simp [openAnswer, hpc, hret],
          List.mem_singleton.mp hs⟩
  | closeDone => exact .of_delete rfl
  | reaped => exact .of_delete rfl
  | unmapSucceeded => exact .of_update (fun _ _ _ => .buffers _) rfl
  | @loopFinished conn erased dropping => cases dropping <;> exact .of_list_eq rfl
  | nqRefused _ _ hclosed | nqConnected _ _ hclosed => simp [notifies, hclosed] at hl
  | drainDone | drainedFront | nqAnswered | flushDone | flushedFront
  | receivedUnknown | receivedFound | parked | lockLost | locked | deliverLost | stored
  | forwarded => cases hl
  | _ => exact .of_list_eq rfl

theorem QuietChange.ref_eq {s s' : TrustletSession} (h : QuietChange s s') : s'.ref = s.ref := by
  cases h <;> rfl

theorem QuietChange.sessionId_eq {s s' : TrustletSession} (h : QuietChange s s') :
    s'.sessionId = s.sessionId := by
  cases h <;> rfl

theorem QuietChange.notifications_eq {s s' : TrustletSession} (h : QuietChange s s') :
    s'.notifications = s.notifications := by
  cases h <;> rfl

/-- A listed property of the fixed fields survives every change but the removal. -/
theorem Lists.of_change {d t : Daemon} {l : Label} {ref : SessionRef}
    {p : TrustletSession → Prop} (h : d.Lists ref p) (hd : d.refs.Nodup)
    (hchange : SessionsChange d l t) (hkeep : d.removed l ≠ some ref)
    (hp : ∀ f, KeepsIdentity f → ∀ s, p s → p (f s)) : t.Lists ref p := by
  cases hchange with
  | same hlist => exact h.of_list_eq hlist
  | changed hid hrun hlist =>
      exact h.update hlist hid (fun s _ _ hs => hp _ hid s hs) (fun _ _ _ hs => hs)
  | pushed hl hopen haddr hlist =>
      obtain ⟨s, hs, hsref, hps⟩ := h
      refine ⟨s, ?_, hsref, hps⟩
      rw [hlist]
      exact List.mem_append_left _ hs
  | deleted hremoved hlist =>
      obtain ⟨s, hs, hsref, hps⟩ := h
      refine ⟨s, ?_, hsref, hps⟩
      rw [hlist, KeyedList.mem_delete hd]
      refine ⟨hs, fun heq => hkeep ?_⟩
      rw [hremoved, ← heq, hsref]

/-- A listed property that quiet changes keep survives a step that hands on no
notification and does not remove the session. -/
theorem Lists.of_quiet {d t : Daemon} {l : Label} {ref : SessionRef}
    {p q : TrustletSession → Prop} (hlisted : d.Lists ref p) (hw : WellFormed d)
    (h : Effect d l t) (hl : d.notifies l = false) (hkeep : d.removed l ≠ some ref)
    (hpq : ∀ s s', QuietChange s s' → p s → q s') : t.Lists ref q := by
  have hstill : t.Lists ref fun _ => True :=
    Lists.of_change (p := fun _ => True) (hlisted.imp fun _ hs => ⟨hs.1, hs.2.1, trivial⟩)
      hw.distinct (effect_sessionsChange hw.distinct h) hkeep fun _ _ _ _ => trivial
  obtain ⟨s, hs, hsref, hps⟩ := hlisted
  obtain ⟨s', hs', href', -⟩ := hstill
  refine ⟨s', hs', href', ?_⟩
  rcases effect_quietSessions hw h hl s' hs' with ⟨s₀, hs₀, hchange⟩ | ⟨frame, r, host, -, -, rfl⟩
  · obtain rfl : s₀ = s :=
      eq_of_ref_eq hw.distinct hs₀ hs (hchange.ref_eq.symm.trans (href'.trans hsref.symm))
    exact hpq s₀ s' hchange hps
  · rw [newSession_ref] at href'
    exact absurd (hsref.trans href'.symm) (hw.numbered s hs).ne

end Daemon

end Exynos8890.MobiCore
