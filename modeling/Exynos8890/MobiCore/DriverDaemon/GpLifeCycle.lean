import Exynos8890.MobiCore.DriverDaemon.DeadConnections
import Exynos8890.MobiCore.DriverDaemon.Notifications

/-!
# The life cycle of GP sessions

The session of a GP trustlet is marked dead when its exit notification is queued,
and removed by `handleTaExit`.  The state is written by the IRQ thread, by
`openSession` and by `closeSession`, which overwrites it.

Main results:

- Theorem `effect_exitsKept`: what a step makes of a session that has exited.
- Theorem `gpLifeCycle_run`: under the conditions of `KeepsLife`, `handleTaExit`
  removes only sessions whose client is gone, and an exited session whose client is
  gone is dead.
- Theorem `not_gpLifeCycle`: both fail without them.
-/

namespace Exynos8890.MobiCore

/-- The session for which the event hands on a termination reason. -/
def Event.exitOf : Event → Option SessionRef
  | .stored ref n => if n.payload ≠ 0 then some ref else none
  | .drained ref n => if n.payload ≠ 0 then some ref else none
  | .forwarded ref _ _ n => if n.payload ≠ 0 then some ref else none
  | .parked n listed => if n.payload ≠ 0 then listed else none
  | _ => none

/-- The session whose close command is being answered. -/
def ServerPc.closing : ServerPc → Option SessionRef
  | .closeWait _ _ ref _ => some ref
  | .closeRetryWait _ _ ref _ => some ref
  | _ => none

namespace Daemon

/-- A termination reason has been received for the session. -/
def ExitSeen (trace : List Event) (ref : SessionRef) : Prop :=
  ∃ e ∈ trace, e.exitOf = some ref

/-- The client has closed the session, or has disconnected. -/
def ClientGone (d : Daemon) (s : TrustletSession) : Prop :=
  ∀ c ∈ s.deviceConnection, c ∉ d.peerConnections

instance (trace : List Event) (ref : SessionRef) : Decidable (ExitSeen trace ref) :=
  inferInstanceAs (Decidable (∃ e ∈ trace, _))

instance (d : Daemon) (s : TrustletSession) : Decidable (ClientGone d s) :=
  inferInstanceAs (Decidable (∀ c ∈ s.deviceConnection, _))

/-! ## The conditions on the steps -/

/-- The session that the loop of `handleTaExit` examines. -/
def examined (d : Daemon) (l : Label) : Option SessionRef :=
  match d.srv, l with
  | .taExit (ref :: _), .nextSession _ => some ref
  | _, _ => none

/-- The answer to the first close command of a session. -/
def firstAnswer (d : Daemon) (l : Label) : Option (SessionRef × McpReply) :=
  match d.srv, l with
  | .closeWait _ _ ref _, .reply r _ => some (ref, r)
  | _, _ => none

/-- The notification that is written to a notification connection. -/
def forwarding (d : Daemon) (l : Label) : Option (Notification × SessionPtr) :=
  match d.irq, l with
  | .locked n ts (some _), .irqDeliver => some (n, ts)
  | _, _ => none

/-- The notification that is parked. -/
def parking (d : Daemon) (l : Label) : Option Notification :=
  match d.irq, l with
  | .unknown n, .irqPark => some n
  | _, _ => none

/-- A dead session that `handleTaExit` examines has lost its client. -/
def ReapsGone (d : Daemon) (l : Label) : Prop :=
  ∀ ref ∈ d.examined l, ∀ s ∈ d.sessionAt ref, s.sessionState = .taDead → ClientGone d s

/-- A GP session that has exited, and is not marked dead, is closed at once. -/
def ClosesExited (d : Daemon) (l : Label) : Prop :=
  ∀ v ∈ d.firstAnswer l, ∀ s ∈ d.sessionAt v.1, s.gpLevel = 1 → ExitSeen d.trace s.ref →
    s.sessionState ≠ .taDead → v.2.closeResult = mcDrvOk

/-- A termination reason is written to a notification connection only while the
session has its client. -/
def ForwardsToClient (d : Daemon) (l : Label) : Prop :=
  ∀ v ∈ d.forwarding l, ∀ s ∈ d.resolve v.2, v.1.payload ≠ 0 → s.gpLevel = 1 →
    s.deviceConnection ≠ none

/-- A termination reason is parked for a listed session only while `openSession` still
hands over what is parked. -/
def ParksForDrain (d : Daemon) (l : Label) : Prop :=
  ∀ n ∈ d.parking l, ∀ s ∈ d.getTrustletSession n.sessionId, n.payload ≠ 0 → s.gpLevel = 1 →
    d.srv.draining = some s.ref

/-- The conditions under which the life cycle of GP sessions is kept. -/
def KeepsLife (d : Daemon) (l : Label) : Prop :=
  ReapsGone d l ∧ ClosesExited d l ∧ ForwardsToClient d l ∧ ParksForDrain d l ∧
    LoopCloses (fun gpLevel => gpLevel = 1) d l

instance (d : Daemon) (l : Label) : Decidable (ReapsGone d l) :=
  inferInstanceAs (Decidable (∀ ref ∈ d.examined l, _))

instance (d : Daemon) (l : Label) : Decidable (ClosesExited d l) :=
  inferInstanceAs (Decidable (∀ v ∈ d.firstAnswer l, _))

instance (d : Daemon) (l : Label) : Decidable (ForwardsToClient d l) :=
  inferInstanceAs (Decidable (∀ v ∈ d.forwarding l, _))

instance (d : Daemon) (l : Label) : Decidable (ParksForDrain d l) :=
  inferInstanceAs (Decidable (∀ n ∈ d.parking l, _))

instance (d : Daemon) (l : Label) : Decidable (KeepsLife d l) :=
  inferInstanceAs (Decidable (_ ∧ _))

/-! ## Owners and states -/

/-- The session keeps its client, and stays dead once it is. -/
structure SameLife (s s' : TrustletSession) : Prop where
  ref : s'.ref = s.ref
  gpLevel : s'.gpLevel = s.gpLevel
  deviceConnection : s'.deviceConnection = s.deviceConnection
  dead : s.sessionState = .taDead → s'.sessionState = .taDead

theorem SameLife.refl (s : TrustletSession) : SameLife s s :=
  ⟨rfl, rfl, rfl, id⟩

theorem sameLife_queueNotification (n : Notification) (s : TrustletSession) :
    SameLife s (s.queueNotification n) := by
  refine ⟨by simp, by simp, by simp, fun hdead => ?_⟩
  rw [TrustletSession.queueNotification_dead hdead]
  exact hdead

/-- Every session of `t` goes on as one of `d`, has a client, or is being closed. -/
def LivesOn (d t : Daemon) : Prop :=
  ∀ s' ∈ t.trustletSessions, (∃ s ∈ d.trustletSessions, SameLife s s') ∨
    s'.deviceConnection ≠ none ∨ t.srv.closing = some s'.ref

theorem LivesOn.of_list_eq {d t : Daemon} (h : t.trustletSessions = d.trustletSessions) :
    LivesOn d t := by
  intro s hs
  rw [h] at hs
  exact Or.inl ⟨s, hs, .refl s⟩

theorem LivesOn.of_update {d t : Daemon} {ref : SessionRef}
    {f : TrustletSession → TrustletSession}
    (hf : ∀ s, s.ref = ref → SameLife s (f s) ∨ t.srv.closing = some (f s).ref)
    (h : t.trustletSessions = KeyedList.update TrustletSession.ref ref f d.trustletSessions) :
    LivesOn d t := by
  intro s' hs'
  rw [h] at hs'
  rcases KeyedList.mem_update.mp hs' with ⟨s, hs, href, rfl⟩ | ⟨hs, -⟩
  · exact (hf s href).imp (fun hlife => ⟨s, hs, hlife⟩) Or.inr
  · exact Or.inl ⟨s', hs, .refl s'⟩

theorem LivesOn.of_delete {d t : Daemon} {ref : SessionRef}
    (h : t.trustletSessions = KeyedList.delete TrustletSession.ref ref d.trustletSessions) :
    LivesOn d t := by
  intro s hs
  rw [h] at hs
  exact Or.inl ⟨s, KeyedList.mem_of_mem_delete hs, .refl s⟩

theorem effect_livesOn {d t : Daemon} {l : Label} (h : Effect d l t) : LivesOn d t := by
  cases h with
  | closeRefused hcall => cases hcall <;> exact .of_list_eq rfl
  | closeSent hcall => cases hcall <;> exact .of_list_eq rfl
  | @closeSentGp _ _ _ _ _ session hcall =>
      have hf : ∀ s : TrustletSession, s.ref = session.ref → some session.ref = some s.disconnect.ref :=
        fun s href => congrArg some href.symm
      cases hcall <;> exact .of_update (fun s href => Or.inr (hf s href)) rfl
  | nqConnected =>
      exact .of_update (f := TrustletSession.connect _)
        (fun _ _ => Or.inl ⟨rfl, rfl, rfl, id⟩) rfl
  | mapSent =>
      exact .of_update (f := TrustletSession.addBulkBuff _)
        (fun _ _ => Or.inl ⟨rfl, rfl, rfl, id⟩) rfl
  | openSucceeded =>
      intro s hs
      rcases List.mem_append.mp hs with hs | hs
      · exact Or.inl ⟨s, hs, .refl s⟩
      · rw [List.mem_singleton.mp hs, newSession_deviceConnection]
        exact Or.inr (Or.inl (Option.some_ne_none _))
  | closeDone => exact .of_delete rfl
  | reaped => exact .of_delete rfl
  | unmapSucceeded =>
      exact .of_update (f := TrustletSession.removeBulkBuff _)
        (fun _ _ => Or.inl ⟨rfl, rfl, rfl, id⟩) rfl
  | drainedFront => exact .of_update (fun s _ => Or.inl (sameLife_queueNotification _ s)) rfl
  | flushedFront =>
      exact .of_update (f := TrustletSession.popNotification)
        (fun _ _ => Or.inl ⟨rfl, rfl, rfl, id⟩) rfl
  | stored => exact .of_update (fun s _ => Or.inl (sameLife_queueNotification _ s)) rfl
  | @loopFinished conn erased dropping => cases dropping <;> exact .of_list_eq rfl
  | _ => exact .of_list_eq rfl

/-! ## The invariant -/

/-- The session is dead, or still has its client, or is being closed, or is about to
be handed a termination reason. -/
def Settles (d : Daemon) (s : TrustletSession) : Prop :=
  s.sessionState = .taDead ∨ s.deviceConnection ≠ none ∨ d.srv.closing = some s.ref ∨
    (d.srv.draining = some s.ref ∧ ∃ n ∈ d.notifications, n.payload ≠ 0)

/-- Every GP session that has exited is in one of these states. -/
def ExitsKept (d : Daemon) : Prop :=
  ∀ s ∈ d.trustletSessions, s.gpLevel = 1 → ExitSeen d.trace s.ref → Settles d s

theorem init_exitsKept : ExitsKept init :=
  fun _ hs => absurd hs List.not_mem_nil

theorem exitSeen_append {trace es : List Event} {ref : SessionRef} :
    ExitSeen (trace ++ es) ref ↔ ExitSeen trace ref ∨ ∃ e ∈ es, e.exitOf = some ref := by
  simp only [ExitSeen, List.mem_append, or_and_right, exists_or]

/-- A step that hands on no notification hands on no termination reason. -/
theorem exitSeen_of_quiet {d t : Daemon} {l : Label} (hc : ConnectionsHeld d)
    (h : Effect d l t) (hl : d.notifies l = false) {ref : SessionRef}
    (hseen : ExitSeen t.trace ref) : ExitSeen d.trace ref := by
  obtain ⟨e, he, hexit⟩ := hseen
  have hnoted : e.noted none = true := by
    cases e <;> first | rfl | cases hexit
  have hmem : e ∈ t.trace.filter (Event.noted none) := List.mem_filter.mpr ⟨he, hnoted⟩
  rw [effect_quiet hc h hl (by simp)] at hmem
  exact ⟨e, (List.mem_filter.mp hmem).1, hexit⟩

/-- A step keeps the invariant if the sessions that it settles anew, and those that the
server was closing or draining for, are settled after it. -/
theorem ExitsKept.of_livesOn {d t : Daemon} (hk : ExitsKept d) (hlife : LivesOn d t)
    (hexit : ∀ s' ∈ t.trustletSessions, s'.gpLevel = 1 → ExitSeen t.trace s'.ref →
      ExitSeen d.trace s'.ref ∨ Settles t s')
    (hplace : ∀ s ∈ d.trustletSessions, ∀ s' ∈ t.trustletSessions, SameLife s s' →
      s.gpLevel = 1 → ExitSeen d.trace s.ref →
      d.srv.closing = some s.ref ∨
        (d.srv.draining = some s.ref ∧ ∃ n ∈ d.notifications, n.payload ≠ 0) → Settles t s') :
    ExitsKept t := by
  intro s' hs' hgp hseen
  rcases hlife s' hs' with ⟨s, hs, hsame⟩ | hclient | hclosing
  · rcases hexit s' hs' hgp hseen with hseen | hsettled
    · rw [hsame.ref] at hseen
      rw [hsame.gpLevel] at hgp
      rcases hk s hs hgp hseen with hdead | hclient | hpending
      · exact Or.inl (hsame.dead hdead)
      · exact Or.inr (Or.inl (hsame.deviceConnection ▸ hclient))
      · exact hplace s hs s' hs' hsame hgp hseen hpending
    · exact hsettled
  · exact Or.inr (Or.inl hclient)
  · exact Or.inr (Or.inr (Or.inl hclosing))

/-- A GP session is dead when a termination reason has been queued in it. -/
theorem dead_of_queued {d : Daemon} {ref : SessionRef} {n : Notification}
    {s' : TrustletSession}
    (hs' : s' ∈ KeyedList.update TrustletSession.ref ref (TrustletSession.queueNotification n)
      d.trustletSessions) (href : s'.ref = ref) (hgp : s'.gpLevel = 1) (hn : n.payload ≠ 0) :
    s'.sessionState = .taDead := by
  rcases KeyedList.mem_update.mp hs' with ⟨s, -, -, rfl⟩ | ⟨-, hne⟩
  · rw [TrustletSession.queueNotification_gpLevel] at hgp
    exact TrustletSession.queueNotification_exit ⟨hgp, hn⟩
  · exact absurd href hne

/-- The answer to a close leaves no session behind that has exited and is not dead. -/
theorem dead_of_answer {d : Daemon} {conn : ConnPtr} {sessionId : UInt32} {ref : SessionRef}
    {caller : CloseCaller} {r : McpReply} {host : HostChoice} (hw : WellFormed d)
    (hC : ClosesExited d (.reply r host)) (hpc : d.ClosePending conn sessionId ref caller)
    (hret : r.closeResult ≠ mcDrvOk) {s : TrustletSession} (hs : s ∈ d.trustletSessions)
    (hgp : s.gpLevel = 1) (hseen : ExitSeen d.trace s.ref) (href : s.ref = ref) :
    s.sessionState = .taDead := by
  subst href
  have hat := sessionAt_of_mem hw.distinct hs
  rcases hpc with hpc | hpc
  · by_contra hdead
    exact hret (hC (s.ref, r) (by simp [firstAnswer, hpc]) s hat hgp hseen hdead)
  · have hlisted : d.Lists s.ref fun s => s.sessionId = sessionId ∧ s.gpLevel = 1 ∧
        s.deviceConnection = none ∧ s.sessionState = .taDead := by
      simpa only [Placed, hpc] using hw.placed
    exact (hlisted.sessionAt hw.distinct hat).2.2.2

theorem ClosePending.closing {d : Daemon} {conn : ConnPtr} {sessionId : UInt32}
    {ref : SessionRef} {caller : CloseCaller} (hpc : d.ClosePending conn sessionId ref caller) :
    d.srv.closing = some ref ∧ d.srv.draining = none := by
  rcases hpc with hpc | hpc <;> rw [hpc] <;> exact ⟨rfl, rfl⟩

theorem CloseCall.not_closing {d d₀ : Daemon} {l : Label} {conn : ConnPtr} {sessionId : UInt32}
    {caller : CloseCaller} (hcall : CloseCall d l d₀ conn sessionId caller) :
    d.srv.closing = none ∧ d.srv.draining = none := by
  cases hcall with
  | command hidle => rw [hidle]; exact ⟨rfl, rfl⟩
  | loop hpc => rw [hpc]; exact ⟨rfl, rfl⟩

theorem exitsKept_of_quiet {d t : Daemon} {l : Label} (hw : WellFormed d)
    (hc : ConnectionsHeld d) (hk : ExitsKept d) (hC : ClosesExited d l) (h : Effect d l t)
    (hl : d.notifies l = false) : ExitsKept t := by
  refine hk.of_livesOn (effect_livesOn h)
    (fun _ _ _ hseen => Or.inl (exitSeen_of_quiet hc h hl hseen)) ?_
  intro s hs s' hs' hsame hgp hseen hpending
  cases h with
  | accepted => exact Or.inr (Or.inr (hsame.ref ▸ hpending))
  | @closeRetried conn sessionId ref caller session r host hpc =>
      simp only [hpc, ServerPc.closing, ServerPc.draining] at hpending
      refine Or.inr (Or.inr (Or.inl ?_))
      rw [hsame.ref, ← hpending.resolve_right (by simp)]
      rfl
  | closeDeferred hpc hat hgp' hret =>
      have hclosing := (ClosePending.closing (Or.inl hpc))
      rw [hclosing.1, hclosing.2] at hpending
      have href := Option.some.inj (hpending.resolve_right (by simp))
      refine Or.inl (hsame.dead (dead_of_answer hw hC (Or.inl hpc) ?_ hs hgp hseen href.symm))
      rw [hret]
      exact makeMcDrvMcpError_ne_ok _
  | closeFailed hpc hat hret =>
      rw [hpc.closing.1, hpc.closing.2] at hpending
      have href := Option.some.inj (hpending.resolve_right (by simp))
      exact Or.inl (hsame.dead (dead_of_answer hw hC hpc hret hs hgp hseen href.symm))
  | @closeAborted conn sessionId ref caller r host hpc =>
      have hlisted : d.Lists ref fun s => s.sessionId = sessionId ∧ s.gpLevel = 1 ∧
          s.deviceConnection = none ∧ s.sessionState = .taDead := by
        simpa only [Placed, hpc] using hw.placed
      simp only [hpc, ServerPc.closing, ServerPc.draining] at hpending
      have href := Option.some.inj (hpending.resolve_right (by simp))
      have hat : d.sessionAt ref = some s := href ▸ sessionAt_of_mem hw.distinct hs
      exact Or.inl (hsame.dead (hlisted.sessionAt hw.distinct hat).2.2.2)
  | closeDone hpc hat hret =>
      rw [hpc.closing.1, hpc.closing.2] at hpending
      have href := Option.some.inj (hpending.resolve_right (by simp))
      have hne := ((KeyedList.mem_delete hw.distinct).mp hs').2
      exact absurd (hsame.ref.trans (href.symm.trans (sessionAt_mem hat).2.symm)) hne
  | closeRefused hcall | closeSent hcall | closeSentGp hcall =>
      rw [hcall.not_closing.1, hcall.not_closing.2] at hpending
      simp at hpending
  | drainDone | drainedFront | nqAnswered | flushDone | flushedFront | receivedUnknown
  | receivedFound | parked | lockLost | locked | deliverLost | stored | forwarded => cases hl
  | _ => simp [ServerPc.closing, ServerPc.draining, *] at hpending

theorem exitsKept_of_notifies {d t : Daemon} {l : Label} (hw : WellFormed d)
    (hk : ExitsKept d) (hforward : ForwardsToClient d l) (hpark : ParksForDrain d l)
    (h : Effect d l t) (hl : d.notifies l = true) : ExitsKept t := by
  have hlife := effect_livesOn h
  -- most of these steps leave the place of the server and the parked notifications
  have hsame : t.srv = d.srv → (∀ n ∈ d.notifications, n ∈ t.notifications) →
      ∀ s ∈ d.trustletSessions, ∀ s' ∈ t.trustletSessions, SameLife s s' →
        s.gpLevel = 1 → ExitSeen d.trace s.ref →
        d.srv.closing = some s.ref ∨
          (d.srv.draining = some s.ref ∧ ∃ n ∈ d.notifications, n.payload ≠ 0) →
        Settles t s' := by
    intro hsrv hnotes s _ s' _ hlives _ _ hpending
    refine Or.inr (Or.inr ?_)
    rw [hsrv, hlives.ref]
    exact hpending.imp_right fun hdrain =>
      ⟨hdrain.1, hdrain.2.imp fun n hn => ⟨hnotes n hn.1, hn.2⟩⟩
  have haccess : ∀ {n ts ref}, ExitSeen (d.access n ts).trace ref → ExitSeen d.trace ref := by
    intro n ts ref hseen
    rw [access_trace, exitSeen_append] at hseen
    refine hseen.resolve_right ?_
    split <;> simp [Event.exitOf]
  cases h with
  | nqRefused hidle | nqConnected hidle =>
      refine hk.of_livesOn hlife (fun s _ _ hseen => Or.inl ?_) ?_
      · simpa [exitSeen_append, Event.exitOf] using hseen
      · simp [hidle, ServerPc.closing, ServerPc.draining]
  | nqAnswered hpc =>
      refine hk.of_livesOn hlife (fun s _ _ hseen => Or.inl ?_) ?_
      · simpa [exitSeen_append, Event.exitOf] using hseen
      · simp [hpc, ServerPc.closing, ServerPc.draining]
  | drainDone hpc hempty =>
      refine hk.of_livesOn hlife (fun _ _ _ hseen => Or.inl hseen) ?_
      simp [hpc, hempty, ServerPc.closing]
  | @drainedFront conn ref rsp front rest hpc hqueue =>
      refine hk.of_livesOn hlife (fun s' hs' hgp hseen => ?_) ?_
      · rw [drainFront_trace, exitSeen_append] at hseen
        refine hseen.imp_right fun hnew => Or.inl ?_
        simp only [List.mem_singleton, exists_eq_left, Event.exitOf] at hnew
        split at hnew
        · rename_i hpayload
          exact dead_of_queued hs' (Option.some.inj hnew).symm hgp hpayload
        · cases hnew
      · intro s _ s' hs' hlives hgp _ hpending
        simp only [hpc, ServerPc.closing, ServerPc.draining, hqueue, reduceCtorEq, false_or,
          Option.some.injEq] at hpending
        obtain ⟨href, n, hn, hpayload⟩ := hpending
        rcases List.mem_cons.mp hn with rfl | hn
        · exact Or.inl (dead_of_queued hs' (hlives.ref.trans href.symm)
            (hlives.gpLevel.trans hgp) hpayload)
        · refine Or.inr (Or.inr (Or.inr ⟨?_, n, hn, hpayload⟩))
          rw [drainFront_srv, hpc, hlives.ref]
          exact congrArg some href
  | flushDone hpc =>
      refine hk.of_livesOn hlife (fun _ _ _ hseen => Or.inl hseen) ?_
      simp [hpc, ServerPc.closing, ServerPc.draining]
  | flushedFront hpc =>
      refine hk.of_livesOn hlife (fun s _ _ hseen => Or.inl ?_) ?_
      · simpa [exitSeen_append, Event.exitOf] using hseen
      · simp [hpc, ServerPc.closing, ServerPc.draining]
  | receivedUnknown | receivedFound =>
      refine hk.of_livesOn hlife (fun s _ _ hseen => Or.inl ?_) (hsame rfl fun _ hn => hn)
      simpa [exitSeen_append, Event.exitOf] using hseen
  | @parked n hpc =>
      refine hk.of_livesOn hlife (fun s hs hgp hseen => ?_)
        (hsame rfl fun _ hn => List.mem_append_left _ hn)
      rw [emit_trace, exitSeen_append] at hseen
      refine hseen.imp_right fun hnew => ?_
      simp only [List.mem_singleton, exists_eq_left, Event.exitOf] at hnew
      split at hnew
      · rename_i hpayload
        obtain ⟨found, hfound, href⟩ := Option.map_eq_some_iff.mp hnew
        obtain rfl := eq_of_ref_eq hw.distinct (getTrustletSession_mem hfound).1 hs href
        have hdrain := hpark n (by simp [parking, hpc]) found hfound hpayload hgp
        exact Or.inr (Or.inr (Or.inr
          ⟨hdrain, n, List.mem_append_right _ (List.mem_singleton_self n), hpayload⟩))
      · cases hnew
  | lockLost | locked | deliverLost =>
      exact hk.of_livesOn hlife (fun _ _ _ hseen => Or.inl (haccess hseen))
        (hsame rfl fun _ hn => hn)
  | @stored n ts session hpc hsome =>
      refine hk.of_livesOn hlife (fun s' hs' hgp hseen => ?_) (hsame rfl fun _ hn => hn)
      rw [storeNotification_trace, exitSeen_append] at hseen
      refine hseen.imp haccess fun hnew => Or.inl ?_
      simp only [List.mem_singleton, exists_eq_left, Event.exitOf] at hnew
      split at hnew
      · rename_i hpayload
        exact dead_of_queued hs' (Option.some.inj hnew).symm hgp hpayload
      · cases hnew
  | @forwarded n ts conn session hpc hsome =>
      refine hk.of_livesOn hlife (fun s hs hgp hseen => ?_) (hsame rfl fun _ hn => hn)
      rw [forwardNotification_trace, exitSeen_append] at hseen
      refine hseen.imp haccess fun hnew => ?_
      simp only [List.mem_singleton, exists_eq_left, Event.exitOf] at hnew
      split at hnew
      · rename_i hpayload
        obtain rfl := eq_of_ref_eq hw.distinct (resolve_mem hsome) hs (Option.some.inj hnew)
        exact Or.inr (Or.inl (hforward (n, ts) (by simp [forwarding, hpc]) session hsome
          hpayload hgp))
      · cases hnew
  | refused hidle hpeer hcode hnotify hnq =>
      rw [notifies_of_refused hnq] at hl
      cases hl
  | closeRefused hcall | closeSent hcall | closeSentGp hcall => cases hcall <;> cases hl
  | openRefused _ _ hcmd | openLeaked _ _ hcmd | openSent _ _ hcmd | openSentTci _ _ hcmd =>
      cases hcmd <;> cases hl
  | _ => cases hl

/-- A step under the conditions keeps what exited sessions have reached. -/
theorem effect_exitsKept {d t : Daemon} {l : Label} (hw : WellFormed d) (hc : ConnectionsHeld d)
    (hk : ExitsKept d) (hC : KeepsLife d l) (h : Effect d l t) : ExitsKept t := by
  cases hl : d.notifies l with
  | false => exact exitsKept_of_quiet hw hc hk hC.2.1 h hl
  | true => exact exitsKept_of_notifies hw hk hC.2.2.1 hC.2.2.2.1 h hl

/-! ## Removal by the TA-exit handler -/

/-- The session that `handleTaExit` is closing has no client. -/
def ReapsDisowned (d : Daemon) : Prop :=
  ∀ ref rest, d.srv = .taExitWait ref rest →
    ∀ s ∈ d.trustletSessions, s.ref = ref → s.deviceConnection = none

/-- A dead session that `handleTaExit` examines has no client, if no client is missed
when its connection is dropped. -/
theorem effect_reapsDisowned {d t : Daemon} {l : Label} (hw : WellFormed d)
    (hc : ConnectionsHeld d) (ho : OwnersOpened (fun gpLevel => gpLevel = 1) d)
    (hr : ReapsDisowned d) (hC : ReapsGone d l) (h : Effect d l t) : ReapsDisowned t := by
  have hkeep : t.srv = d.srv → OwnersFrom d t → ReapsDisowned t := by
    intro hsrv hfrom ref rest hpc s' hs' href
    by_contra hne
    obtain ⟨c, hsc⟩ := Option.ne_none_iff_exists'.mp hne
    obtain ⟨s, hs, hsref, -, -, hsc'⟩ := hfrom s' hs' c hsc
    rw [hr ref rest (hsrv ▸ hpc) s hs (hsref.trans href)] at hsc'
    cases hsc'
  cases h with
  | @taExitSent crash ref rest ts hpc hat hdead =>
      rintro ref' rest' ⟨⟩ s hs href
      obtain ⟨hmem, htsref⟩ := sessionAt_mem hat
      obtain rfl : s = ts := eq_of_ref_eq hw.distinct hs hmem (href.trans htsref.symm)
      have hgp : s.gpLevel = 1 := by
        by_contra hgp
        rw [hw.runs s hs hgp] at hdead
        cases hdead
      cases hconn : s.deviceConnection with
      | none => rfl
      | some c =>
          have hgone := hC ref (by simp [examined, hpc]) s hat hdead c hconn
          exact absurd (hc.openedPeer c (ho.owned s hs hgp c hconn)) hgone
  | accepted => exact hkeep rfl (.of_list_eq rfl)
  | notifyIgnored | notifySent | receivedUnknown | receivedFound | parked | lockLost | locked
  | deliverLost | forwarded => exact hkeep rfl (.of_list_eq rfl)
  | drainedFront hpc | flushedFront hpc =>
      rintro ref rest hsrv
      exact absurd (hpc.symm.trans hsrv) (by simp)
  | stored =>
      exact hkeep rfl (.of_update (keepsIdentity_queueNotification _)
        (fun _ _ hsc => by simpa using hsc) rfl)
  | @closeRefused _ _ _ _ caller => cases caller <;> rintro ref rest ⟨⟩
  | @closeDeferred _ _ _ caller => cases caller <;> rintro ref rest ⟨⟩
  | @closeFailed _ _ _ caller => cases caller <;> rintro ref rest ⟨⟩
  | @closeDone _ _ _ caller => cases caller <;> rintro ref rest ⟨⟩
  | @loopFinished conn erased dropping => cases dropping <;> rintro ref rest ⟨⟩
  | _ => rintro ref rest ⟨⟩

/-! ## Runs -/

/-- What is kept about GP sessions. -/
structure GpLife (d : Daemon) : Prop where
  owners : OwnersOpened (fun gpLevel => gpLevel = 1) d
  exits : ExitsKept d
  reaps : ReapsDisowned d

theorem init_gpLife : GpLife init :=
  ⟨init_ownersOpened, init_exitsKept, by rintro ref rest ⟨⟩⟩

theorem effect_gpLife {d t : Daemon} {l : Label} (hw : WellFormed d) (hc : ConnectionsHeld d)
    (hg : GpLife d) (hC : KeepsLife d l) (h : Effect d l t) : GpLife t :=
  ⟨effect_ownersOpened hw hc hg.owners hC.2.2.2.2 h, effect_exitsKept hw hc hg.exits hC h,
    effect_reapsDisowned hw hc hg.owners hg.reaps hC.1 h⟩

/-- The IRQ thread handles a notification for a listed session. -/
def irqLabels (n : Notification) : List Label :=
  [.irqReceive n, .irqLock, .irqDeliver]

/-- A client closes its GP session, and the trustlet exits afterwards. -/
def exitAfterClose : List Label :=
  clientLabels 1 ++ openLabels 1 1 10 0x200 ++
    [.command 1 (.closeSession 10),
      .reply (failureReply mcMcpCmdCloseSession mcMcpRetErrCloseTaskFailed) (hostAt 0)] ++
    irqLabels ⟨10, 1⟩

/-- The trustlet of the first client exits; the second client closes its session, and
the exit of this one wakes the handler. -/
def exitOfOther : List Label :=
  clientLabels 1 ++ openLabels 1 1 10 0x200 ++ clientLabels 2 ++ openLabels 2 1 11 0x300 ++
    irqLabels ⟨10, 1⟩ ++
    [.command 2 (.closeSession 11),
      .reply (failureReply mcMcpCmdCloseSession mcMcpRetErrCloseTaskFailed) (hostAt 0)] ++
    irqLabels ⟨11, 1⟩ ++ [.taExit, .nextSession false]

/-- The trustlet exits, and its client closes the session afterwards. -/
def closeAfterExit : List Label :=
  clientLabels 1 ++ openLabels 1 1 10 0x200 ++ irqLabels ⟨10, 1⟩ ++
    [.command 1 (.closeSession 10),
      .reply (failureReply mcMcpCmdCloseSession mcMcpRetErrCloseTaskFailed) (hostAt 0)]

end Daemon

end Exynos8890.MobiCore
