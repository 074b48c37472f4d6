import Exynos8890.MobiCore.DriverDaemon.Connections

/-!
# Owners of sessions and dropped connections

`dropConnection` closes the sessions of a connection in the loop of `close` and
then deletes the connection.  A close that fails leaves a session that is not a
GP session in the list, with its `deviceConnection`.

Main results:

- Theorem `effect_ownersOpened`: what the loop has visited is closed.
- Theorem `ownersConnected_run`: when the closes of the loop succeed, the owner
  of every session is a connection that the server still has.
- Theorem `not_ownersConnected`: otherwise a session can keep a deleted owner.
-/

namespace Exynos8890.MobiCore

namespace Daemon

/-- The owner of every session is a connection that the server still has. -/
def OwnersConnected (d : Daemon) : Prop :=
  ∀ s ∈ d.trustletSessions, ∀ c, s.deviceConnection = some c → c ∈ d.peerConnections

/-! ## The condition on the closes of the loop -/

/-- The connection that the loop of `close` works for and the session it is about
to visit. -/
def visiting (d : Daemon) (l : Label) : Option (ConnPtr × SessionRef) :=
  match d.srv, l with
  | .closeLoop conn before _ _, .nextSession _ => before.getLast?.map fun cur => (conn, cur)
  | _, _ => none

/-- The session whose close in the loop of `close` is being answered, and the
answer. -/
def loopAnswer (d : Daemon) (l : Label) : Option (SessionRef × McpReply) :=
  match d.srv, l with
  | .closeWait _ _ ref (.deviceClose ..), .reply r _ => some (ref, r)
  | _, _ => none

/-- For sessions of the levels in `p`: a session that the loop visits is the one
found under its id, and a session that is not a GP session is closed with
success. -/
def LoopCloses (p : UInt32 → Prop) (d : Daemon) (l : Label) : Prop :=
  (∀ v ∈ d.visiting l, ∀ s ∈ d.sessionAt v.2, p s.gpLevel → s.deviceConnection = some v.1 →
    (d.getTrustletSession s.sessionId).map TrustletSession.ref = some s.ref) ∧
  ∀ v ∈ d.loopAnswer l, ∀ s ∈ d.sessionAt v.1, p s.gpLevel → s.gpLevel ≠ 1 →
    v.2.closeResult = mcDrvOk

instance (p : UInt32 → Prop) [DecidablePred p] (d : Daemon) (l : Label) :
    Decidable (LoopCloses p d l) :=
  inferInstanceAs (Decidable (_ ∧ _))

/-! ## The invariant -/

/-- While the server works for a client: the sessions of this client that the loop
has still to visit, and the one it is closing. -/
def LoopCovers (p : UInt32 → Prop) (d : Daemon) : Prop :=
  match d.srv with
  | .closeLoop conn before _ _ =>
      ∀ s ∈ d.trustletSessions, p s.gpLevel → s.deviceConnection = some conn → s.ref ∈ before
  | .closeWait conn _ ref (.deviceClose _ before _) =>
      ∀ s ∈ d.trustletSessions, p s.gpLevel → s.deviceConnection = some conn →
        s.ref ∈ before ∨ s.ref = ref
  | .closeRetryWait conn _ ref (.deviceClose _ before _) =>
      ∀ s ∈ d.trustletSessions, p s.gpLevel → s.deviceConnection = some conn →
        s.ref ∈ before ∨ s.ref = ref
  | _ => True

/-- The owner of every session of a level in `p` has the device open. -/
structure OwnersOpened (p : UInt32 → Prop) (d : Daemon) : Prop where
  owned : ∀ s ∈ d.trustletSessions, p s.gpLevel → ∀ c, s.deviceConnection = some c → c ∈ d.opened
  covered : LoopCovers p d

/-- Every owner in `t` owned the same object in `d`. -/
def OwnersFrom (d t : Daemon) : Prop :=
  ∀ s' ∈ t.trustletSessions, ∀ c, s'.deviceConnection = some c →
    ∃ s ∈ d.trustletSessions, s.ref = s'.ref ∧ s.gpLevel = s'.gpLevel ∧
      s.sessionId = s'.sessionId ∧ s.deviceConnection = some c

theorem OwnersFrom.of_list_eq {d t : Daemon} (h : t.trustletSessions = d.trustletSessions) :
    OwnersFrom d t := by
  intro s hs c hc
  rw [h] at hs
  exact ⟨s, hs, rfl, rfl, rfl, hc⟩

theorem OwnersFrom.of_update {d t : Daemon} {ref : SessionRef}
    {f : TrustletSession → TrustletSession} (hid : KeepsIdentity f)
    (hf : ∀ s c, (f s).deviceConnection = some c → s.deviceConnection = some c)
    (h : t.trustletSessions = KeyedList.update TrustletSession.ref ref f d.trustletSessions) :
    OwnersFrom d t := by
  intro s' hs' c hc
  rw [h] at hs'
  rcases KeyedList.mem_update.mp hs' with ⟨s, hs, -, rfl⟩ | ⟨hs, -⟩
  · obtain ⟨href, -, hsid, -, hgp⟩ := hid s
    exact ⟨s, hs, href.symm, hgp.symm, hsid.symm, hf s c hc⟩
  · exact ⟨s', hs, rfl, rfl, rfl, hc⟩

theorem OwnersFrom.of_delete {d t : Daemon} {ref : SessionRef}
    (h : t.trustletSessions = KeyedList.delete TrustletSession.ref ref d.trustletSessions) :
    OwnersFrom d t := by
  intro s hs c hc
  rw [h] at hs
  exact ⟨s, KeyedList.mem_of_mem_delete hs, rfl, rfl, rfl, hc⟩

/-- Only the answer to an open command gives a session an owner. -/
theorem effect_deviceConnection {d t : Daemon} {l : Label} (h : Effect d l t)
    (hl : d.openAnswer l = none) : OwnersFrom d t := by
  cases h with
  | closeRefused hcall => cases hcall <;> exact .of_list_eq rfl
  | closeSent hcall => cases hcall <;> exact .of_list_eq rfl
  | closeSentGp hcall =>
      cases hcall <;> exact .of_update keepsIdentity_disconnect (fun _ _ hc => by cases hc) rfl
  | nqConnected => exact .of_update (keepsIdentity_connect _) (fun _ _ hc => hc) rfl
  | mapSent => exact .of_update (keepsIdentity_addBulkBuff _) (fun _ _ hc => hc) rfl
  | openSucceeded hpc hret => simp [openAnswer, hpc, hret] at hl
  | closeDone => exact .of_delete rfl
  | reaped => exact .of_delete rfl
  | unmapSucceeded => exact .of_update (keepsIdentity_removeBulkBuff _) (fun _ _ hc => hc) rfl
  | drainedFront =>
      exact .of_update (keepsIdentity_queueNotification _) (fun _ _ hc => by simpa using hc) rfl
  | flushedFront => exact .of_update keepsIdentity_popNotification (fun _ _ hc => hc) rfl
  | stored =>
      exact .of_update (keepsIdentity_queueNotification _) (fun _ _ hc => by simpa using hc) rfl
  | @loopFinished conn erased dropping crash hpc hwhy =>
      cases dropping <;> exact .of_list_eq rfl
  | _ => exact .of_list_eq rfl

variable {p : UInt32 → Prop}

theorem OwnersFrom.owned {d t : Daemon} (hfrom : OwnersFrom d t) (ho : OwnersOpened p d)
    (hopened : t.opened = d.opened) : ∀ s ∈ t.trustletSessions, p s.gpLevel →
      ∀ c, s.deviceConnection = some c → c ∈ t.opened := by
  intro s' hs' hp c hc
  obtain ⟨s, hs, -, hgp, -, hsc⟩ := hfrom s' hs' c hc
  rw [hopened]
  exact ho.owned s hs (hgp ▸ hp) c hsc

/-- A step that creates no owner keeps the invariant if it keeps what the loop covers. -/
theorem OwnersOpened.of_frame {d t : Daemon} (ho : OwnersOpened p d) (hfrom : OwnersFrom d t)
    (hopened : t.opened = d.opened) (hcov : LoopCovers p t) : OwnersOpened p t :=
  ⟨hfrom.owned ho hopened, hcov⟩

/-- A step that creates no owner and stays in its place keeps the invariant. -/
theorem OwnersOpened.of_same_place {d t : Daemon} (ho : OwnersOpened p d)
    (hfrom : OwnersFrom d t) (hopened : t.opened = d.opened) (hsrv : t.srv = d.srv) :
    OwnersOpened p t := by
  refine ⟨hfrom.owned ho hopened, ?_⟩
  have hcov := ho.covered
  have hback : ∀ {conn : ConnPtr} {q : SessionRef → Prop},
      (∀ s ∈ d.trustletSessions, p s.gpLevel → s.deviceConnection = some conn → q s.ref) →
      ∀ s ∈ t.trustletSessions, p s.gpLevel → s.deviceConnection = some conn → q s.ref := by
    intro conn q hq s' hs' hp hc
    obtain ⟨s, hs, href, hgp, -, hsc⟩ := hfrom s' hs' conn hc
    exact href ▸ hq s hs (hgp ▸ hp) hsc
  unfold LoopCovers at hcov ⊢
  rw [hsrv]
  cases hpc : d.srv with
  | closeLoop conn before erased dropping =>
      simp only [hpc] at hcov
      exact hback hcov
  | closeWait conn sessionId ref caller =>
      cases caller with
      | processCloseSession => trivial
      | deviceClose cur before dropping =>
          simp only [hpc] at hcov
          exact hback (q := fun r => r ∈ before ∨ r = ref) hcov
  | closeRetryWait conn sessionId ref caller =>
      cases caller with
      | processCloseSession => trivial
      | deviceClose cur before dropping =>
          simp only [hpc] at hcov
          exact hback (q := fun r => r ∈ before ∨ r = ref) hcov
  | _ => trivial

/-- When the loop goes on, what it has still to visit is listed before its place. -/
theorem loopCovers_closeReturn {d : Daemon} {conn : ConnPtr} {sessionId : UInt32}
    {caller : CloseCaller} {ret : McResult} (hd : d.refs.Nodup)
    (h : ∀ cur before dropping, caller = .deviceClose cur before dropping →
      ∀ s ∈ d.trustletSessions, p s.gpLevel → s.deviceConnection = some conn → s.ref ∈ before) :
    LoopCovers p (d.closeReturn conn sessionId caller ret) := by
  cases caller with
  | processCloseSession => trivial
  | deviceClose cur before dropping =>
      intro s hs hp hc
      refine List.mem_filter.mpr ⟨h cur before dropping rfl s hs hp hc, ?_⟩
      rw [sessionAt_of_mem hd hs]
      rfl

theorem LoopCovers.of_answer {d : Daemon} (hcov : LoopCovers p d) {conn : ConnPtr}
    {sessionId : UInt32} {ref : SessionRef} {caller : CloseCaller}
    (hpc : d.ClosePending conn sessionId ref caller) {cur : SessionRef}
    {before : List SessionRef} {dropping : Bool}
    (hcaller : caller = .deviceClose cur before dropping) :
    ∀ s ∈ d.trustletSessions, p s.gpLevel → s.deviceConnection = some conn →
      s.ref ∈ before ∨ s.ref = ref := by
  subst hcaller
  rcases hpc with hpc | hpc <;> simpa only [LoopCovers, hpc] using hcov

/-- While its close is being answered a GP session has no owner. -/
theorem ClosePending.gp_disowned {d : Daemon} {conn : ConnPtr} {sessionId : UInt32}
    {ref : SessionRef} {caller : CloseCaller} (hpc : d.ClosePending conn sessionId ref caller)
    (hw : WellFormed d) {s : TrustletSession} (hat : d.sessionAt ref = some s)
    (hgp : s.gpLevel = 1) : s.deviceConnection = none := by
  have hp := hw.placed
  rcases hpc with hpc | hpc
  · have hlisted : d.Lists ref fun s => s.sessionId = sessionId ∧
        (s.gpLevel = 1 → s.deviceConnection = none) := by
      simpa only [Placed, hpc] using hp
    exact (hlisted.sessionAt hw.distinct hat).2 hgp
  · have hlisted : d.Lists ref fun s => s.sessionId = sessionId ∧ s.gpLevel = 1 ∧
        s.deviceConnection = none ∧ s.sessionState = .taDead := by
      simpa only [Placed, hpc] using hp
    exact (hlisted.sessionAt hw.distinct hat).2.2.1

/-- The session that the loop visits is before its place. -/
theorem mem_dropLast_or_eq {before : List SessionRef} {cur r : SessionRef}
    (hlast : before.getLast? = some cur) (h : r ∈ before) : r ∈ before.dropLast ∨ r = cur := by
  obtain ⟨init, rfl⟩ := List.getLast?_eq_some_iff.mp hlast
  simpa using h

/-- The loop calls `closeSession` for the session it visits. -/
theorem found_of_loopCloses {d : Daemon} {conn : ConnPtr} {before : List SessionRef}
    {erased dropping crash : Bool} {cur : SessionRef} {session : TrustletSession}
    (hw : WellFormed d) (hC : LoopCloses p d (.nextSession crash))
    (hpc : d.srv = .closeLoop conn before erased dropping) (hlast : before.getLast? = some cur)
    (hcur : d.sessionAt cur = some session) (hp : p session.gpLevel)
    (howner : session.deviceConnection = some conn) :
    d.findSession conn session.sessionId = some session := by
  have hvisit : d.visiting (.nextSession crash) = some (conn, cur) := by
    simp [visiting, hpc, hlast]
  have hget := hC.1 (conn, cur) hvisit session hcur hp howner
  obtain ⟨found, hfound, href⟩ := Option.map_eq_some_iff.mp hget
  obtain rfl : found = session :=
    eq_of_ref_eq hw.distinct (getTrustletSession_mem hfound).1 (sessionAt_mem hcur).1 href
  simp [findSession, hfound, howner]

/-- Every step whose closes in the loop succeed keeps the owners alive. -/
theorem effect_ownersOpened {d t : Daemon} {l : Label} (hw : WellFormed d)
    (hc : ConnectionsHeld d) (ho : OwnersOpened p d) (hC : LoopCloses p d l)
    (h : Effect d l t) : OwnersOpened p t := by
  have hcov := ho.covered
  cases h with
  | @deviceOpened conn deviceId hidle hpeer hnew =>
      exact ⟨fun s hs hp c hsc => List.mem_cons_of_mem _ (ho.owned s hs hp c hsc), trivial⟩
  | deviceClosing =>
      exact ⟨ho.owned, fun s hs _ _ => List.mem_map_of_mem hs⟩
  | dropping =>
      exact ⟨ho.owned, fun s hs _ _ => List.mem_map_of_mem hs⟩
  | @closeRefused l d₀ conn sessionId caller hcall hnone =>
      cases hcall with
      | command => exact ⟨ho.owned, trivial⟩
      | @loop _ before erased dropping crash cur session hpc hlast hcur howner =>
          have hcov' : ∀ s ∈ d.trustletSessions, p s.gpLevel →
              s.deviceConnection = some conn → s.ref ∈ before := by
            simpa only [LoopCovers, hpc] using hcov
          refine ⟨ho.owned, loopCovers_closeReturn hw.distinct ?_⟩
          rintro _ _ _ ⟨⟩ s hs hp hsc
          rcases mem_dropLast_or_eq hlast (hcov' s hs hp hsc) with hmem | href
          · exact hmem
          · obtain ⟨hmem, hcurref⟩ := sessionAt_mem hcur
            obtain rfl := eq_of_ref_eq hw.distinct hs hmem (href.trans hcurref.symm)
            rw [found_of_loopCloses hw hC hpc hlast hcur hp howner] at hnone
            cases hnone
  | @closeSent l d₀ conn sessionId caller session hcall hsome hgp =>
      cases hcall with
      | command => exact ⟨ho.owned, trivial⟩
      | @loop _ before erased dropping crash cur visited hpc hlast hcur howner =>
          have hcov' : ∀ s ∈ d.trustletSessions, p s.gpLevel →
              s.deviceConnection = some conn → s.ref ∈ before := by
            simpa only [LoopCovers, hpc] using hcov
          refine ⟨ho.owned, fun s hs hp hsc => ?_⟩
          refine (mem_dropLast_or_eq hlast (hcov' s hs hp hsc)).imp_right fun href => ?_
          obtain ⟨hmem, hcurref⟩ := sessionAt_mem hcur
          obtain rfl := eq_of_ref_eq hw.distinct hs hmem (href.trans hcurref.symm)
          rw [found_of_loopCloses hw hC hpc hlast hcur hp howner] at hsome
          cases hsome
          rfl
  | @closeSentGp l d₀ conn sessionId caller session hcall hsome hgp =>
      have hfrom : OwnersFrom d ((d.disconnectClient session).sendSessionCloseCmd sessionId
          (.closeWait conn sessionId session.ref caller)) :=
        .of_update keepsIdentity_disconnect (fun _ _ hc => by cases hc) rfl
      cases hcall with
      | command => exact ⟨hfrom.owned ho rfl, trivial⟩
      | @loop _ before erased dropping crash cur visited hpc hlast hcur howner =>
          have hcov' : ∀ s ∈ d.trustletSessions, p s.gpLevel →
              s.deviceConnection = some conn → s.ref ∈ before := by
            simpa only [LoopCovers, hpc] using hcov
          refine ⟨hfrom.owned ho rfl, fun s' hs' hp hsc => ?_⟩
          obtain ⟨s, hs, href', hgp', -, hsc'⟩ := hfrom s' hs' conn hsc
          rw [← hgp'] at hp
          rw [← href']
          refine (mem_dropLast_or_eq hlast (hcov' s hs hp hsc')).imp_right fun href => ?_
          obtain ⟨hmem, hcurref⟩ := sessionAt_mem hcur
          obtain rfl := eq_of_ref_eq hw.distinct hs hmem (href.trans hcurref.symm)
          rw [found_of_loopCloses hw hC hpc hlast hcur hp howner] at hsome
          cases hsome
          rfl
  | nqConnected =>
      exact ho.of_frame (.of_update (keepsIdentity_connect _) (fun _ _ h => h) rfl) rfl trivial
  | mapSent =>
      exact ho.of_frame (.of_update (keepsIdentity_addBulkBuff _) (fun _ _ h => h) rfl) rfl trivial
  | unmapSucceeded =>
      exact ho.of_frame (.of_update (keepsIdentity_removeBulkBuff _) (fun _ _ h => h) rfl) rfl
        trivial
  | @openSucceeded frame r host hpc hret haddr =>
      have hopen := hc.served frame.conn (by rw [hpc]; rfl)
      refine ⟨fun s hs hp c hsc => ?_, trivial⟩
      rcases List.mem_append.mp hs with hs | hs
      · exact ho.owned s hs hp c hsc
      · rw [List.mem_singleton.mp hs, newSession_deviceConnection] at hsc
        cases hsc
        exact hopen
  | @closeRetried conn sessionId ref caller session r host hpc hat hgp hret hdead =>
      refine ⟨ho.owned, ?_⟩
      cases caller with
      | processCloseSession => trivial
      | deviceClose cur before dropping =>
          have hcov' := hcov.of_answer (Or.inl hpc) rfl
          exact hcov'
  | @closeDeferred conn sessionId ref caller session r host hpc hat hgp hret hdead =>
      have hpending : d.ClosePending conn sessionId ref caller := Or.inl hpc
      refine ⟨ho.owned, loopCovers_closeReturn hw.distinct ?_⟩
      intro cur before dropping hcaller s hs hp hsc
      refine (hcov.of_answer hpending hcaller s hs hp hsc).resolve_right fun href => ?_
      obtain ⟨hmem, hatref⟩ := sessionAt_mem hat
      obtain rfl := eq_of_ref_eq hw.distinct hs hmem (href.trans hatref.symm)
      rw [hpending.gp_disowned hw hat hgp] at hsc
      cases hsc
  | @closeFailed conn sessionId ref caller session r host hpending hat hret =>
      refine ⟨ho.owned, loopCovers_closeReturn hw.distinct ?_⟩
      intro cur before dropping hcaller s hs hp hsc
      refine (hcov.of_answer hpending hcaller s hs hp hsc).resolve_right fun href => ?_
      obtain ⟨hmem, hatref⟩ := sessionAt_mem hat
      obtain rfl := eq_of_ref_eq hw.distinct hs hmem (href.trans hatref.symm)
      by_cases hgp : s.gpLevel = 1
      · rw [hpending.gp_disowned hw hat hgp] at hsc
        cases hsc
      · subst hcaller
        rcases hpending with hpc | hpc
        · have hanswer : d.loopAnswer (.reply r host) = some (ref, r) := by
            simp [loopAnswer, hpc]
          exact hret (hC.2 (ref, r) hanswer s hat hp hgp)
        · have hlisted : d.Lists ref fun s => s.sessionId = sessionId ∧ s.gpLevel = 1 ∧
              s.deviceConnection = none ∧ s.sessionState = .taDead := by
            simpa only [Placed, hpc] using hw.placed
          exact hgp (hlisted.sessionAt hw.distinct hat).2.1
  | @closeDone conn sessionId ref caller session r host hpending hat hret =>
      have hfrom : OwnersFrom d (((d.unmapClosed r sessionId).unlockBuffers session).deleteSession
          session) := .of_delete rfl
      refine ⟨hfrom.owned ho rfl, loopCovers_closeReturn (KeyedList.nodup_delete hw.distinct) ?_⟩
      intro cur before dropping hcaller s' hs' hp hsc
      obtain ⟨hs, hne⟩ := (KeyedList.mem_delete hw.distinct).mp hs'
      refine (hcov.of_answer hpending hcaller s' hs hp hsc).resolve_right fun href => ?_
      exact hne (href.trans (sessionAt_mem hat).2.symm)
  | reaped => exact ho.of_frame (.of_delete rfl) rfl trivial
  | drainedFront =>
      exact ho.of_same_place
        (.of_update (keepsIdentity_queueNotification _) (fun _ _ h => by simpa using h) rfl)
        rfl rfl
  | flushedFront =>
      exact ho.of_same_place (.of_update keepsIdentity_popNotification (fun _ _ h => h) rfl)
        rfl rfl
  | stored =>
      exact ho.of_same_place
        (.of_update (keepsIdentity_queueNotification _) (fun _ _ h => by simpa using h) rfl)
        rfl rfl
  | loopRestarted =>
      exact ⟨ho.owned, fun s hs _ _ => List.mem_map_of_mem hs⟩
  | @loopFinished conn erased dropping crash hpc hwhy =>
      have hnone : ∀ s ∈ d.trustletSessions, p s.gpLevel → s.deviceConnection ≠ some conn := by
        intro s hs hp hsc
        have hcov' : ∀ s ∈ d.trustletSessions, p s.gpLevel →
            s.deviceConnection = some conn → s.ref ∈ [] := by
          simpa only [LoopCovers, hpc] using hcov
        exact List.not_mem_nil (hcov' s hs hp hsc)
      have hkeep : ∀ s ∈ d.trustletSessions, p s.gpLevel → ∀ c, s.deviceConnection = some c →
          c ∈ d.opened.erase conn := by
        intro s hs hp c hsc
        have hne : c ≠ conn := fun heq => hnone s hs hp (heq ▸ hsc)
        exact (List.mem_erase_of_ne hne).mpr (ho.owned s hs hp c hsc)
      cases dropping <;> exact ⟨hkeep, trivial⟩
  | @loopSkipped conn before erased dropping crash cur session hpc hlast hcur hother =>
      refine ⟨ho.owned, fun s hs hp hsc => ?_⟩
      have hcov' : ∀ s ∈ d.trustletSessions, p s.gpLevel →
          s.deviceConnection = some conn → s.ref ∈ before := by
        simpa only [LoopCovers, hpc] using hcov
      refine (mem_dropLast_or_eq hlast (hcov' s hs hp hsc)).resolve_right fun href => ?_
      obtain ⟨hmem, hcurref⟩ := sessionAt_mem hcur
      obtain rfl := eq_of_ref_eq hw.distinct hs hmem (href.trans hcurref.symm)
      exact hother hsc
  | notifyIgnored => exact ho
  | accepted | notifySent | receivedUnknown | receivedFound | parked | lockLost | locked
  | deliverLost | forwarded => exact ho.of_same_place (.of_list_eq rfl) rfl rfl
  | _ => exact ⟨ho.owned, trivial⟩

theorem init_ownersOpened : OwnersOpened p init :=
  ⟨fun _ hs => absurd hs List.not_mem_nil, trivial⟩

/-! ## Runs -/

/-- In every run in which the loop of `close` finds each session it visits under its
own id, and closes those that are not GP sessions with success, the owner of every
session is a connection that the server still has, and a connection that is accepted
next owns nothing. -/
theorem ownersConnected_run {ls : List Label} {d : Daemon}
    (hmeet : system.StepsMeet (LoopCloses fun _ => True) init ls)
    (hrun : system.run init ls = some d) :
    d.OwnersConnected ∧ ∀ conn t, system.step d (.accept conn) = some t →
      ∀ s ∈ t.trustletSessions, s.deviceConnection ≠ some conn := by
  obtain ⟨hw, hc, ho⟩ := run_rule (I := OwnersOpened fun _ => True)
    (fun _ _ _ hw hc ho hC h => effect_ownersOpened hw hc ho hC (step_effect h))
    init_wellFormed init_connectionsHeld init_ownersOpened hmeet hrun
  have hconnected : d.OwnersConnected :=
    fun s hs c hsc => hc.openedPeer c (ho.owned s hs trivial c hsc)
  refine ⟨hconnected, ?_⟩
  intro conn t hstep s hs hsc
  cases step_effect hstep with
  | accepted hnew => exact hnew (hc.peerAllocated conn (hconnected s hs conn hsc))
  | closeRefused hcall => cases hcall
  | closeSent hcall => cases hcall
  | closeSentGp hcall => cases hcall

/-- Two clients; the first is dropped with two sessions open, and all closes succeed. -/
def dropWithSessions : List Label :=
  clientLabels 1 ++ clientLabels 2 ++ openLabels 2 0 9 0x100 ++ openLabels 1 0 10 0x200 ++
    openLabels 1 1 11 0x300 ++
    [.drop 1, .nextSession false, .reply (successReply mcMcpCmdCloseSession 0) (hostAt 0),
      .nextSession false, .reply (successReply mcMcpCmdCloseSession 0) (hostAt 0),
      .nextSession false, .nextSession false]

theorem ownersConnected_run_dropWithSessions :
    ∃ d, system.run init dropWithSessions = some d ∧ d.OwnersConnected :=
  ⟨_, rfl, (@ownersConnected_run dropWithSessions _ (by decide) rfl).1⟩

/-- The close of the only session fails while its connection is dropped. -/
def dropWithFailure : List Label :=
  clientLabels 1 ++ openLabels 1 0 10 0x200 ++
    [.drop 1, .nextSession false, .reply noReply (hostAt 0), .nextSession false]

/-- The session stays, with an owner that has been deleted. -/
theorem not_ownersConnected :
    ¬ ∀ (ls : List Label) (d : Daemon), system.run init ls = some d → d.OwnersConnected := by
  intro h
  have hrun : ∃ d, system.run init dropWithFailure = some d ∧
      d.trustletSessions.map TrustletSession.deviceConnection = [some 1] ∧
      d.peerConnections = [] :=
    ⟨_, rfl, rfl, rfl⟩
  obtain ⟨d, hrun, howners, hpeers⟩ := hrun
  obtain ⟨s, hs, hsc⟩ := List.mem_map.mp (howners ▸ List.mem_singleton_self (some 1))
  have := h dropWithFailure d hrun s hs 1 hsc
  rw [hpeers] at this
  exact List.not_mem_nil this

end Daemon

end Exynos8890.MobiCore
