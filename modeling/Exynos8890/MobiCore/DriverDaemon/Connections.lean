import Exynos8890.MobiCore.DriverDaemon.WellFormed

/-!
# Connection objects

Which connection objects are allocated, which of them the server listens on, and
which belong to a session as its notification connection.

Main results:

- Theorem `effect_notificationConnection`: only an NQ connect gives a session a
  notification connection.
- Theorem `effect_connectionsHeld` and `connectionsHeld_run`: a connection is
  listened on or a notification connection, never both, and belongs to one
  session at most.
-/

namespace Exynos8890.MobiCore

namespace Daemon

/-- Every notification connection of `t` was the one of the same object in `d`. -/
def NotificationsFrom (d t : Daemon) : Prop :=
  ∀ s' ∈ t.trustletSessions, ∀ c, s'.notificationConnection = some c →
    ∃ s ∈ d.trustletSessions, s.ref = s'.ref ∧ s.notificationConnection = some c

theorem NotificationsFrom.of_list_eq {d t : Daemon}
    (h : t.trustletSessions = d.trustletSessions) : NotificationsFrom d t := by
  intro s hs c hc
  rw [h] at hs
  exact ⟨s, hs, rfl, hc⟩

theorem NotificationsFrom.of_update {d t : Daemon} {ref : SessionRef}
    {f : TrustletSession → TrustletSession} (hid : KeepsIdentity f)
    (hf : ∀ s c, (f s).notificationConnection = some c → s.notificationConnection = some c)
    (h : t.trustletSessions = KeyedList.update TrustletSession.ref ref f d.trustletSessions) :
    NotificationsFrom d t := by
  intro s' hs' c hc
  rw [h] at hs'
  rcases KeyedList.mem_update.mp hs' with ⟨s, hs, -, rfl⟩ | ⟨hs, -⟩
  · exact ⟨s, hs, (hid s).1.symm, hf s c hc⟩
  · exact ⟨s', hs, rfl, hc⟩

theorem NotificationsFrom.of_delete {d t : Daemon} {ref : SessionRef}
    (h : t.trustletSessions = KeyedList.delete TrustletSession.ref ref d.trustletSessions) :
    NotificationsFrom d t := by
  intro s hs c hc
  rw [h] at hs
  exact ⟨s, KeyedList.mem_of_mem_delete hs, rfl, hc⟩

/-- Only an NQ connect gives a session a notification connection. -/
theorem effect_notificationConnection {d t : Daemon} {l : Label} (h : Effect d l t)
    (hl : ∀ conn cmd, l ≠ .command conn (.nqConnect cmd)) : NotificationsFrom d t := by
  cases h with
  | closeRefused hcall => cases hcall <;> exact .of_list_eq rfl
  | closeSent hcall => cases hcall <;> exact .of_list_eq rfl
  | closeSentGp hcall =>
      cases hcall <;>
        exact .of_update keepsIdentity_disconnect (fun _ _ hc => by cases hc) rfl
  | nqRefused => exact absurd rfl (hl _ _)
  | nqConnected => exact absurd rfl (hl _ _)
  | mapSent => exact .of_update (keepsIdentity_addBulkBuff _) (fun _ _ hc => hc) rfl
  | openSucceeded =>
      intro s hs c hc
      rcases List.mem_append.mp hs with hs | hs
      · exact ⟨s, hs, rfl, hc⟩
      · rw [List.mem_singleton.mp hs, newSession_notificationConnection] at hc
        cases hc
  | closeDone => exact .of_delete rfl
  | reaped => exact .of_delete rfl
  | unmapSucceeded => exact .of_update (keepsIdentity_removeBulkBuff _) (fun _ _ hc => hc) rfl
  | drainedFront =>
      exact .of_update (keepsIdentity_queueNotification _) (fun _ _ hc => by simpa using hc) rfl
  | flushedFront => exact .of_update keepsIdentity_popNotification (fun _ _ hc => hc) rfl
  | stored =>
      exact .of_update (keepsIdentity_queueNotification _) (fun _ _ hc => by simpa using hc) rfl
  | @loopFinished conn erased dropping crash hpc hwhy =>
      cases dropping <;> exact .of_list_eq rfl
  | _ => exact .of_list_eq rfl

/-! ## The invariant -/

/-- The client whose open, close, map or unmap the server works on. -/
def servedConn : ServerPc → Option ConnPtr
  | .openWait frame => some frame.conn
  | .openDrain conn _ _ => some conn
  | .openReturn conn _ => some conn
  | .closeWait conn _ _ _ => some conn
  | .closeRetryWait conn _ _ _ => some conn
  | .mapWait conn _ _ => some conn
  | .unmapWait conn _ _ => some conn
  | .closeLoop conn _ _ _ => some conn
  | _ => none

/-- The use of the connection objects. -/
structure ConnectionsHeld (d : Daemon) : Prop where
  peersNodup : d.peerConnections.Nodup
  openedNodup : d.opened.Nodup
  openedPeer : ∀ c ∈ d.opened, c ∈ d.peerConnections
  peerAllocated : ∀ c ∈ d.peerConnections, c ∈ d.connections
  served : ∀ c, servedConn d.srv = some c → c ∈ d.opened
  nqDetached : ∀ s ∈ d.trustletSessions, ∀ c, s.notificationConnection = some c →
    c ∈ d.connections ∧ c ∉ d.peerConnections
  nqDistinct : ∀ s ∈ d.trustletSessions, ∀ s' ∈ d.trustletSessions, ∀ c,
    s.notificationConnection = some c → s'.notificationConnection = some c → s.ref = s'.ref

theorem init_connectionsHeld : ConnectionsHeld init := by
  refine ⟨List.nodup_nil, List.nodup_nil, ?_, ?_, ?_, ?_, ?_⟩
  all_goals
    intro c hc
    simp [init, servedConn] at hc

/-- Two notification connections of `t` come from two of `d`. -/
theorem NotificationsFrom.distinct {d t : Daemon} (hn : NotificationsFrom d t)
    (hc : ConnectionsHeld d) : ∀ s ∈ t.trustletSessions, ∀ s' ∈ t.trustletSessions, ∀ c,
      s.notificationConnection = some c → s'.notificationConnection = some c →
        s.ref = s'.ref := by
  intro s hs s' hs' c h h'
  obtain ⟨u, hu, huref, huc⟩ := hn s hs c h
  obtain ⟨u', hu', huref', huc'⟩ := hn s' hs' c h'
  rw [← huref, ← huref']
  exact hc.nqDistinct u hu u' hu' c huc huc'

/-- A step that creates and detaches no connection keeps the use of those that it leaves. -/
theorem ConnectionsHeld.of_kept {d t : Daemon} (hc : ConnectionsHeld d)
    (hpeers : t.peerConnections = d.peerConnections) (hopened : t.opened = d.opened)
    (hn : NotificationsFrom d t) (hserved : ∀ c, servedConn t.srv = some c → c ∈ d.opened)
    (hpeerKept : ∀ c ∈ d.peerConnections, c ∈ t.connections)
    (hnqKept : ∀ s ∈ t.trustletSessions, ∀ c,
      s.notificationConnection = some c → c ∈ t.connections) : ConnectionsHeld t := by
  refine ⟨?_, ?_, ?_, ?_, ?_, ?_, hn.distinct hc⟩
  · rw [hpeers]
    exact hc.peersNodup
  · rw [hopened]
    exact hc.openedNodup
  · rw [hopened, hpeers]
    exact hc.openedPeer
  · rw [hpeers]
    exact hpeerKept
  · rw [hopened]
    exact hserved
  · intro s' hs' c h
    obtain ⟨s, hs, -, hsc⟩ := hn s' hs' c h
    rw [hpeers]
    exact ⟨hnqKept s' hs' c h, (hc.nqDetached s hs c hsc).2⟩

/-- A step that creates, detaches and deletes no connection keeps their use. -/
theorem ConnectionsHeld.of_frame {d t : Daemon} (hc : ConnectionsHeld d)
    (hpeers : t.peerConnections = d.peerConnections) (hopened : t.opened = d.opened)
    (hconns : t.connections = d.connections) (hn : NotificationsFrom d t)
    (hserved : ∀ c, servedConn t.srv = some c → c ∈ d.opened) : ConnectionsHeld t := by
  refine hc.of_kept hpeers hopened hn hserved ?_ ?_
  · rw [hconns]
    exact hc.peerAllocated
  · intro s' hs' c h
    obtain ⟨s, hs, -, hsc⟩ := hn s' hs' c h
    rw [hconns]
    exact (hc.nqDetached s hs c hsc).1

/-- Deleting the notification connection of an object that no longer has one keeps
the use of the others. -/
theorem ConnectionsHeld.of_deleteConnection {d t : Daemon} (hc : ConnectionsHeld d)
    {session : TrustletSession} (hmem : session ∈ d.trustletSessions)
    (hpeers : t.peerConnections = d.peerConnections) (hopened : t.opened = d.opened)
    (hconns : t.connections =
      d.connections.filter fun conn => some conn ≠ session.notificationConnection)
    (hn : NotificationsFrom d t)
    (hgone : ∀ s ∈ t.trustletSessions, s.ref = session.ref → s.notificationConnection = none)
    (hserved : ∀ c, servedConn t.srv = some c → c ∈ d.opened) : ConnectionsHeld t := by
  have hkept : ∀ c ∈ d.connections, session.notificationConnection ≠ some c →
      c ∈ t.connections := by
    intro c halloc hne
    rw [hconns, List.mem_filter]
    exact ⟨halloc, decide_eq_true (Ne.symm hne)⟩
  refine hc.of_kept hpeers hopened hn hserved ?_ ?_
  · intro c hpeer
    exact hkept c (hc.peerAllocated c hpeer) fun h => (hc.nqDetached session hmem c h).2 hpeer
  · intro s' hs' c h
    obtain ⟨s, hs, href, hsc⟩ := hn s' hs' c h
    refine hkept c (hc.nqDetached s hs c hsc).1 fun hsame => ?_
    have hrefs := hc.nqDistinct s hs session hmem c hsc hsame
    rw [hgone s' hs' (href ▸ hrefs)] at h
    cases h

/-- Forgetting a client connection keeps the use of the others. -/
theorem ConnectionsHeld.forget {d t : Daemon} (hc : ConnectionsHeld d) {conn : ConnPtr}
    (hpeer : conn ∈ d.peerConnections)
    (hpeers : t.peerConnections = d.peerConnections.erase conn)
    (hopened : ∀ c, c ∈ t.opened ↔ c ∈ d.opened ∧ c ≠ conn) (hnodup : t.opened.Nodup)
    (hconns : t.connections = d.connections.filter fun c => c ≠ conn)
    (hlist : t.trustletSessions = d.trustletSessions) (hsrv : t.srv = .idle) :
    ConnectionsHeld t := by
  have herase : ∀ c, c ∈ t.peerConnections ↔ c ≠ conn ∧ c ∈ d.peerConnections := by
    intro c
    rw [hpeers]
    exact hc.peersNodup.mem_erase_iff
  have halloc : ∀ c, c ∈ t.connections ↔ c ∈ d.connections ∧ c ≠ conn := by
    intro c
    rw [hconns, List.mem_filter]
    simp
  refine ⟨?_, hnodup, ?_, ?_, ?_, ?_, (NotificationsFrom.of_list_eq hlist).distinct hc⟩
  · rw [hpeers]
    exact hc.peersNodup.erase conn
  · intro c h
    obtain ⟨hopen, hne⟩ := (hopened c).mp h
    exact (herase c).mpr ⟨hne, hc.openedPeer c hopen⟩
  · intro c h
    obtain ⟨hne, hpeer⟩ := (herase c).mp h
    exact (halloc c).mpr ⟨hc.peerAllocated c hpeer, hne⟩
  · rw [hsrv]
    exact fun c h => by cases h
  · intro s hs c h
    rw [hlist] at hs
    obtain ⟨hmem, hdetached⟩ := hc.nqDetached s hs c h
    refine ⟨(halloc c).mpr ⟨hmem, ?_⟩, fun hin => hdetached ((herase c).mp hin).2⟩
    rintro rfl
    exact hdetached hpeer

/-- The start of `closeSession` changes no connection; its client has opened the
device. -/
theorem CloseCall.conn_opened {d d₀ : Daemon} {l : Label} {conn : ConnPtr}
    {sessionId : UInt32} {caller : CloseCaller} (hcall : CloseCall d l d₀ conn sessionId caller)
    (hc : ConnectionsHeld d) : conn ∈ d.opened := by
  cases hcall with
  | command hidle hopen => exact hopen
  | loop hpc => exact hc.served _ (by rw [hpc]; rfl)

theorem servedConn_resumeCaller {conn c : ConnPtr} {caller : CloseCaller} {d : Daemon}
    (h : servedConn (d.resumeCaller conn caller) = some c) : c = conn := by
  cases caller with
  | processCloseSession => cases h
  | deviceClose cur before dropping =>
      cases h
      rfl

theorem ClosePending.served {d : Daemon} {conn : ConnPtr} {sessionId : UInt32}
    {ref : SessionRef} {caller : CloseCaller} (hpc : d.ClosePending conn sessionId ref caller)
    (hc : ConnectionsHeld d) : conn ∈ d.opened := by
  rcases hpc with hpc | hpc <;> exact hc.served _ (by rw [hpc]; rfl)

theorem effect_connectionsHeld {d t : Daemon} {l : Label} (hw : WellFormed d)
    (hc : ConnectionsHeld d) (h : Effect d l t) : ConnectionsHeld t := by
  have hserved : ∀ {c c' : ConnPtr}, c ∈ d.opened → some c = some c' → c' ∈ d.opened := by
    rintro c c' hmem ⟨⟩
    exact hmem
  cases h with
  | @accepted conn hnew =>
      refine ⟨?_, hc.openedNodup, ?_, ?_, hc.served, ?_, hc.nqDistinct⟩
      · exact List.nodup_cons.mpr ⟨fun h => hnew (hc.peerAllocated conn h), hc.peersNodup⟩
      · exact fun c hmem => List.mem_cons_of_mem _ (hc.openedPeer c hmem)
      · intro c hmem
        rcases List.mem_cons.mp hmem with rfl | hmem
        · exact List.mem_cons_self
        · exact List.mem_cons_of_mem _ (hc.peerAllocated c hmem)
      · intro s hs c h
        obtain ⟨halloc, hdetached⟩ := hc.nqDetached s hs c h
        refine ⟨List.mem_cons_of_mem _ halloc, fun hmem => ?_⟩
        rcases List.mem_cons.mp hmem with rfl | hmem
        · exact hnew halloc
        · exact hdetached hmem
  | @deviceOpened conn deviceId hidle hpeer hnew =>
      refine ⟨hc.peersNodup, List.nodup_cons.mpr ⟨hnew, hc.openedNodup⟩, ?_, hc.peerAllocated,
        fun c h => (by cases h), hc.nqDetached, hc.nqDistinct⟩
      intro c hmem
      rcases List.mem_cons.mp hmem with rfl | hmem
      · exact hpeer
      · exact hc.openedPeer c hmem
  | deviceClosing hidle hopen =>
      exact hc.of_frame rfl rfl rfl (.of_list_eq rfl) (fun _ => hserved hopen)
  | openRefused hidle hopen =>
      exact hc.of_frame rfl rfl rfl (.of_list_eq rfl) (fun _ => hserved hopen)
  | openLeaked hidle hopen =>
      exact hc.of_frame rfl rfl rfl (.of_list_eq rfl) (fun _ => hserved hopen)
  | openSent hidle hopen hcmd hframe =>
      exact hc.of_frame rfl rfl rfl (.of_list_eq rfl) (fun _ => hserved (hframe.1 ▸ hopen))
  | openSentTci hidle hopen hcmd hframe =>
      exact hc.of_frame rfl rfl rfl (.of_list_eq rfl) (fun _ => hserved (hframe.1 ▸ hopen))
  | closeRefused hcall hnone =>
      have hopen := hcall.conn_opened hc
      cases hcall with
      | command => exact hc.of_frame rfl rfl rfl (.of_list_eq rfl) (fun c h => by cases h)
      | loop => exact hc.of_frame rfl rfl rfl (.of_list_eq rfl) (fun _ => hserved hopen)
  | closeSent hcall hsome hgp =>
      have hopen := hcall.conn_opened hc
      cases hcall <;> exact hc.of_frame rfl rfl rfl (.of_list_eq rfl) (fun _ => hserved hopen)
  | @closeSentGp _ d₀ conn sessionId caller session hcall hsome hgp hmutex =>
      have hopen := hcall.conn_opened hc
      have hmem := (findSession_spec hsome).1
      have hn := effect_notificationConnection (.closeSentGp hcall hsome hgp hmutex)
        (by cases hcall <;> simp)
      have hgone : ∀ s ∈ KeyedList.update TrustletSession.ref session.ref
          TrustletSession.disconnect d.trustletSessions,
          s.ref = session.ref → s.notificationConnection = none := by
        intro s hs href
        rcases KeyedList.mem_update.mp hs with ⟨s', -, -, rfl⟩ | ⟨-, hne⟩
        · rfl
        · exact absurd href hne
      cases hcall <;>
        exact hc.of_deleteConnection hmem rfl rfl rfl hn hgone (fun _ => hserved hopen)
  | @nqRefused conn cmd code hidle hpeer hclosed hcode =>
      refine ⟨hc.peersNodup.erase conn, hc.openedNodup, ?_, ?_, fun c h => (by cases h),
        ?_, hc.nqDistinct⟩
      · intro c hmem
        have hne : c ≠ conn := fun h => hclosed (h ▸ hmem)
        exact (List.mem_erase_of_ne hne).mpr (hc.openedPeer c hmem)
      · exact fun c hmem => hc.peerAllocated c (List.mem_of_mem_erase hmem)
      · intro s hs c h
        exact ⟨(hc.nqDetached s hs c h).1,
          fun hmem => (hc.nqDetached s hs c h).2 (List.mem_of_mem_erase hmem)⟩
  | @nqConnected conn cmd session hidle hpeer hclosed hfind =>
      have hother : ∀ s ∈ d.trustletSessions, s.notificationConnection ≠ some conn :=
        fun s hs h => (hc.nqDetached s hs conn h).2 hpeer
      refine ⟨hc.peersNodup.erase conn, hc.openedNodup, ?_, ?_, fun c h => (by cases h),
        ?_, ?_⟩
      · intro c hmem
        have hne : c ≠ conn := fun h => hclosed (h ▸ hmem)
        exact (List.mem_erase_of_ne hne).mpr (hc.openedPeer c hmem)
      · exact fun c hmem => hc.peerAllocated c (List.mem_of_mem_erase hmem)
      · intro s hs c h
        rcases KeyedList.mem_update.mp hs with ⟨s', -, -, rfl⟩ | ⟨hs, -⟩
        · cases h
          exact ⟨hc.peerAllocated conn hpeer, hc.peersNodup.not_mem_erase⟩
        · exact ⟨(hc.nqDetached s hs c h).1,
            fun hmem => (hc.nqDetached s hs c h).2 (List.mem_of_mem_erase hmem)⟩
      · intro s hs s' hs' c h h'
        rcases KeyedList.mem_update.mp hs with ⟨u, -, hu, rfl⟩ | ⟨hs, -⟩
        · cases h
          rcases KeyedList.mem_update.mp hs' with ⟨u', -, hu', rfl⟩ | ⟨hs', -⟩
          · exact hu.trans hu'.symm
          · exact absurd h' (hother s' hs')
        · rcases KeyedList.mem_update.mp hs' with ⟨u', -, -, rfl⟩ | ⟨hs', -⟩
          · cases h'
            exact absurd h (hother s hs)
          · exact hc.nqDistinct s hs s' hs' c h h'
  | mapSent hidle hopen =>
      exact hc.of_frame rfl rfl rfl
        (.of_update (keepsIdentity_addBulkBuff _) (fun _ _ h => h) rfl) (fun _ => hserved hopen)
  | unmapSent hidle hopen =>
      exact hc.of_frame rfl rfl rfl (.of_list_eq rfl) (fun _ => hserved hopen)
  | @dropped conn hidle hpeer hclosed =>
      refine hc.forget hpeer rfl (fun c => ?_) hc.openedNodup rfl rfl rfl
      exact ⟨fun h => ⟨h, fun heq => hclosed (heq ▸ h)⟩, fun h => h.1⟩
  | dropping hidle hpeer hopen =>
      exact hc.of_frame rfl rfl rfl (.of_list_eq rfl) (fun _ => hserved hopen)
  | openFailed hpc =>
      have hopen := hc.served _ (by rw [hpc]; rfl)
      exact hc.of_frame rfl rfl rfl (.of_list_eq rfl) (fun _ => hserved hopen)
  | openSucceeded hpc hret haddr =>
      have hopen := hc.served _ (by rw [hpc]; rfl)
      exact hc.of_frame rfl rfl rfl
        (effect_notificationConnection (.openSucceeded hpc hret haddr) (by simp))
        (fun _ => hserved hopen)
  | closeRetried hpc =>
      have hopen := hc.served _ (by rw [hpc]; rfl)
      exact hc.of_frame rfl rfl rfl (.of_list_eq rfl) (fun _ => hserved hopen)
  | closeDeferred hpc =>
      have hopen := hc.served _ (by rw [hpc]; rfl)
      exact hc.of_frame rfl rfl rfl (.of_list_eq rfl)
        (fun c h => servedConn_resumeCaller h ▸ hopen)
  | closeFailed hpc =>
      have hopen := hpc.served hc
      exact hc.of_frame rfl rfl rfl (.of_list_eq rfl)
        (fun c h => servedConn_resumeCaller h ▸ hopen)
  | @closeDone conn sessionId ref caller session r host hpc hat hret =>
      have hopen := hpc.served hc
      refine hc.of_deleteConnection (sessionAt_mem hat).1 rfl rfl rfl (.of_delete rfl) ?_
        (fun c h => servedConn_resumeCaller h ▸ hopen)
      intro s hs href
      exact absurd href ((KeyedList.mem_delete hw.distinct).mp hs).2
  | mapFailed => exact hc.of_frame rfl rfl rfl (.of_list_eq rfl) (fun c h => by cases h)
  | mapSucceeded =>
      exact hc.of_frame rfl rfl rfl (.of_list_eq rfl) (fun c h => by cases h)
  | unmapSucceeded =>
      exact hc.of_frame rfl rfl rfl
        (.of_update (keepsIdentity_removeBulkBuff _) (fun _ _ h => h) rfl)
        (fun c h => by cases h)
  | @reaped ref rest ts r host hpc hat hret =>
      refine hc.of_deleteConnection (sessionAt_mem hat).1 rfl rfl rfl (.of_delete rfl) ?_
        (fun c h => by cases h)
      intro s hs href
      exact absurd href ((KeyedList.mem_delete hw.distinct).mp hs).2
  | drainDone hpc =>
      have hopen := hc.served _ (by rw [hpc]; rfl)
      exact hc.of_frame rfl rfl rfl (.of_list_eq rfl) (fun _ => hserved hopen)
  | drainedFront =>
      exact hc.of_frame rfl rfl rfl
        (.of_update (keepsIdentity_queueNotification _) (fun _ _ h => by simpa using h) rfl)
        hc.served
  | flushedFront =>
      exact hc.of_frame rfl rfl rfl
        (.of_update keepsIdentity_popNotification (fun _ _ h => h) rfl) hc.served
  | loopRestarted hpc =>
      have hopen := hc.served _ (by rw [hpc]; rfl)
      exact hc.of_frame rfl rfl rfl (.of_list_eq rfl) (fun _ => hserved hopen)
  | @loopFinished conn erased dropping crash hpc hwhy =>
      have hopen := hc.served _ (by rw [hpc]; rfl)
      have herase : ∀ c, c ∈ d.opened.erase conn ↔ c ≠ conn ∧ c ∈ d.opened :=
        fun c => hc.openedNodup.mem_erase_iff
      cases dropping with
      | true =>
          refine hc.forget (hc.openedPeer _ hopen) rfl (fun c => ?_) (hc.openedNodup.erase _)
            rfl rfl rfl
          exact (herase c).trans and_comm
      | false =>
          refine ⟨hc.peersNodup, hc.openedNodup.erase _, ?_, hc.peerAllocated,
            fun c h => (by cases h), hc.nqDetached, hc.nqDistinct⟩
          exact fun c hmem => hc.openedPeer c ((herase c).mp hmem).2
  | loopSkipped hpc =>
      have hopen := hc.served _ (by rw [hpc]; rfl)
      exact hc.of_frame rfl rfl rfl (.of_list_eq rfl) (fun _ => hserved hopen)
  | stored =>
      exact hc.of_frame rfl rfl rfl
        (.of_update (keepsIdentity_queueNotification _) (fun _ _ h => by simpa using h) rfl)
        hc.served
  | notifyIgnored => exact hc
  | notifySent | receivedUnknown | receivedFound | parked | lockLost | locked | deliverLost
  | forwarded => exact hc.of_frame rfl rfl rfl (.of_list_eq rfl) hc.served
  | _ => exact hc.of_frame rfl rfl rfl (.of_list_eq rfl) (fun c h => by cases h)

/-! ## Runs -/

/-- The invariant rule of the daemon: what every step that meets the condition
keeps, in states that are well-formed and use their connections properly, holds
at the end of every run. -/
theorem run_rule {C : Daemon → Label → Prop} {I : Daemon → Prop}
    (hstep : ∀ d l t, WellFormed d → ConnectionsHeld d → I d → C d l →
      system.step d l = some t → I t)
    {d₀ d : Daemon} {ls : List Label} (hw : WellFormed d₀) (hc : ConnectionsHeld d₀)
    (hinit : I d₀) (hmeet : system.StepsMeet C d₀ ls) (hrun : system.run d₀ ls = some d) :
    WellFormed d ∧ ConnectionsHeld d ∧ I d :=
  TransitionSystem.run_invariant (I := fun d => WellFormed d ∧ ConnectionsHeld d ∧ I d)
    (fun s l t ⟨hw, hc, hI⟩ hC h =>
      ⟨step_wellFormed s l t hw h, effect_connectionsHeld hw hc (step_effect h),
        hstep s l t hw hc hI hC h⟩)
    ⟨hw, hc, hinit⟩ hmeet hrun

theorem connectionsHeld_run {ls : List Label} {d : Daemon} (h : system.run init ls = some d) :
    ConnectionsHeld d :=
  (run_rule (C := fun _ _ => True) (I := fun _ => True) (fun _ _ _ _ _ _ _ _ => trivial)
    init_wellFormed init_connectionsHeld trivial (system.stepsMeet_true init ls) h).2.1

end Daemon

end Exynos8890.MobiCore
