import Exynos8890.Library.Handover
import Exynos8890.MobiCore.DriverDaemon.SessionLifetime

/-!
# Connecting for notifications

The server registers a notification connection, writes the response and drains the
queue of the session in separate steps; the IRQ thread reads the connection under a
lock that the server does not take.  What a session sees of this is the handing over
of its queue to a listener.

Main results:

- Theorem `effect_watched`: the IRQ thread holds the session for the notifications of
  its id only.
- Theorem `effect_views`: where the two threads keep their order, the daemon takes the
  steps of the handover.
- Theorem `nqConnect_run`: then the connection gets the response and every
  notification once, in the order of posting.
- Theorem `not_nqConnect`: a notification overtakes the response.
-/

namespace Exynos8890.MobiCore

/-- How far the server is with the notification connection of a session that has one. -/
def ServerPc.stageOf (ref : SessionRef) : ServerPc → Handover.Stage
  | .nqRegistered _ r => if r = ref then .registered else .attached
  | .nqDrain r => if r = ref then .draining else .attached
  | _ => .attached

theorem ServerPc.stageOf_ne_detached (ref : SessionRef) (pc : ServerPc) :
    pc.stageOf ref ≠ .detached := by
  unfold stageOf
  split
  · split <;> simp
  · split <;> simp
  · simp

/-- A notification posted for this session id. -/
def Event.postedTo (sessionId : UInt32) : Event → Option Notification
  | .received n => if n.sessionId = sessionId then some n else none
  | _ => none

namespace Daemon

/-! ## What is posted and what is written -/

/-- The notifications posted for a session id. -/
def posted (sessionId : UInt32) (trace : List Event) : List Notification :=
  trace.filterMap (Event.postedTo sessionId)

/-- How an event changes the notification connection registered last for a session, and
what has been written to it since. -/
def streamAfter (ref : SessionRef) (stream : Option (ConnPtr × List (Response ⊕ Notification))) :
    Event → Option (ConnPtr × List (Response ⊕ Notification))
  | .registered r conn => if r = ref then some (conn, []) else stream
  | .answer conn rsp =>
      stream.map fun st => if conn = st.1 then (st.1, st.2 ++ [.inl rsp]) else st
  | .forwarded _ _ conn n =>
      stream.map fun st => if conn = st.1 then (st.1, st.2 ++ [.inr n]) else st
  | .flushed _ _ conn n =>
      stream.map fun st => if conn = st.1 then (st.1, st.2 ++ [.inr n]) else st
  | _ => stream

/-- The byte stream on the notification connection of a session. -/
def streamOf (ref : SessionRef) (trace : List Event) :
    Option (ConnPtr × List (Response ⊕ Notification)) :=
  trace.foldl (streamAfter ref) none

/-- The stage of a session's notification connection. -/
def stage (d : Daemon) (s : TrustletSession) : Handover.Stage :=
  match s.notificationConnection with
  | none => .detached
  | some _ => d.srv.stageOf s.ref

/-! ## The condition on the steps -/

/-- The session that an NQ connect registers for. -/
def registering (d : Daemon) (l : Label) : Option TrustletSession :=
  match l with
  | .command _ (.nqConnect cmd) => d.findTrustletConnection cmd
  | _ => none

/-- The session to which the IRQ thread hands on, and the connection it has read. -/
def delivering (d : Daemon) (l : Label) : Option (SessionPtr × Option ConnPtr) :=
  match d.irq, l with
  | .locked _ ts connection, .irqDeliver => some (ts, connection)
  | _, _ => none

/-- A notification is queued only until the queue has been handed over, and written only
behind the response and the queue. -/
def InTurn (d : Daemon) (s : TrustletSession) : Option ConnPtr → Prop
  | none => d.stage s ≠ .attached
  | some _ => d.stage s ≠ .registered ∧ (d.stage s = .draining → s.notifications = [])

/-- The session stays, gets one notification connection, and what the IRQ thread hands
on is in turn. -/
def HandsOver (ref : SessionRef) (d : Daemon) (l : Label) : Prop :=
  SparesHeld d l ∧ d.removed l ≠ some ref ∧
  (∀ s ∈ d.registering l, s.ref = ref → s.notificationConnection = none) ∧
  ∀ v ∈ d.delivering l, v.1.ref = ref → ∀ s ∈ d.sessionAt ref, InTurn d s v.2

instance (d : Daemon) (s : TrustletSession) : (c : Option ConnPtr) → Decidable (InTurn d s c)
  | none => inferInstanceAs (Decidable (_ ≠ _))
  | some _ => inferInstanceAs (Decidable (_ ∧ _))

instance (ref : SessionRef) (d : Daemon) (l : Label) : Decidable (HandsOver ref d l) :=
  inferInstanceAs (Decidable (_ ∧ _))

/-! ## The connection that the IRQ thread has read -/

/-- The connection that the IRQ thread has read is allocated, is no client that the
server listens on, and belongs to no other session. -/
def LockedConnection (d : Daemon) : Prop :=
  ∀ n ts c, d.irq = .locked n ts (some c) →
    c ∈ d.connections ∧ c ∉ d.peerConnections ∧
      ∀ s ∈ d.trustletSessions, s.notificationConnection = some c → s.ref = ts.ref

/-- No two sessions of `t` share a connection that no two of `d` shared. -/
theorem NotificationsFrom.locked {d t : Daemon} (hn : NotificationsFrom d t) {c : ConnPtr}
    {ref : SessionRef}
    (h : ∀ s ∈ d.trustletSessions, s.notificationConnection = some c → s.ref = ref) :
    ∀ s ∈ t.trustletSessions, s.notificationConnection = some c → s.ref = ref := by
  intro s' hs' hc
  obtain ⟨s, hs, href, hsc⟩ := hn s' hs' c hc
  exact href ▸ h s hs hsc

theorem LockedConnection.of_frame {d t : Daemon} (hlock : LockedConnection d)
    (hirq : t.irq = d.irq) (hn : NotificationsFrom d t)
    (hconns : ∀ c ∈ d.connections, c ∉ d.peerConnections →
      (∀ n ts, d.irq = .locked n ts (some c) → c ∈ t.connections))
    (hpeers : ∀ c ∈ t.peerConnections, c ∈ d.connections → c ∈ d.peerConnections) :
    LockedConnection t := by
  intro n ts c hlocked
  rw [hirq] at hlocked
  obtain ⟨halloc, hpeer, hown⟩ := hlock n ts c hlocked
  exact ⟨hconns c halloc hpeer n ts hlocked, fun hmem => hpeer (hpeers c hmem halloc),
    hn.locked hown⟩

/-- While the IRQ thread uses a session that is not removed, its connection stays. -/
theorem effect_lockedConnection {d t : Daemon} {l : Label} (hw : WellFormed d)
    (hc : ConnectionsHeld d) (hh : Held d) (hlock : LockedConnection d) (hC : SparesHeld d l)
    (h : Effect d l t) : LockedConnection t := by
  have hframe : t.irq = d.irq → NotificationsFrom d t → t.connections = d.connections →
      t.peerConnections = d.peerConnections → LockedConnection t := by
    intro hirq hn hconns hpeers
    refine hlock.of_frame hirq hn (fun c hmem _ _ _ _ => hconns ▸ hmem) (fun c hmem _ => ?_)
    exact hpeers ▸ hmem
  have hfrom := effect_notificationConnection h
  -- the connection of a session that is removed is not the one the IRQ thread has read
  have hspared : ∀ {session : TrustletSession} {connections : List ConnPtr},
      d.removed l = some session.ref → session ∈ d.trustletSessions →
      connections = (d.connections.filter fun conn => some conn ≠ session.notificationConnection) →
      ∀ c ∈ d.connections, c ∉ d.peerConnections →
        ∀ n ts, d.irq = .locked n ts (some c) → c ∈ connections := by
    intro session connections hremoved hmem hconns c halloc _ n ts hirq
    rw [hconns, List.mem_filter]
    refine ⟨halloc, decide_eq_true fun hsame => ?_⟩
    exact hC session.ref hremoved (n, ts) (by rw [hirq]; rfl)
      ((hlock n ts c hirq).2.2 session hmem hsame.symm).symm
  have hforgot : ∀ {conn : ConnPtr} {connections : List ConnPtr}, conn ∈ d.peerConnections →
      connections = (d.connections.filter fun c => c ≠ conn) →
      ∀ c ∈ d.connections, c ∉ d.peerConnections →
        ∀ n ts, d.irq = .locked n ts (some c) → c ∈ connections := by
    intro conn connections hpeer hconns c halloc hdetached _ _ _
    rw [hconns, List.mem_filter]
    exact ⟨halloc, decide_eq_true fun heq => hdetached (heq ▸ hpeer)⟩
  cases h with
  | @accepted conn hnew =>
      refine hlock.of_frame rfl (.of_list_eq rfl)
        (fun c hmem _ _ _ _ => List.mem_cons_of_mem _ hmem) (fun c hmem halloc => ?_)
      exact (List.mem_cons.mp hmem).resolve_left fun heq => hnew (heq ▸ halloc)
  | nqRefused =>
      exact hlock.of_frame rfl (.of_list_eq rfl) (fun c hmem _ _ _ _ => hmem)
        (fun c hmem _ => List.mem_of_mem_erase hmem)
  | @nqConnected conn cmd session hidle hpeer hclosed hfind =>
      intro n ts c hlocked
      obtain ⟨halloc, hdetached, hown⟩ := hlock n ts c hlocked
      refine ⟨halloc, fun hmem => hdetached (List.mem_of_mem_erase hmem), ?_⟩
      intro s' hs' hsc
      rcases KeyedList.mem_update.mp hs' with ⟨s, hs, -, rfl⟩ | ⟨hs, -⟩
      · cases hsc
        exact absurd hpeer hdetached
      · exact hown s' hs hsc
  | closeSentGp hcall hsome hgp hmutex =>
      intro n ts c hlocked
      have hirq : d.irq = .locked n ts (some c) := by
        cases hcall <;> exact hlocked
      rw [hirq] at hmutex
      cases hmutex
  | @closeDone conn sessionId ref caller session r host hpc hat hret =>
      refine hlock.of_frame rfl (.of_delete rfl) (hspared ?_ (sessionAt_mem hat).1 rfl)
        (fun c hmem _ => hmem)
      rw [(sessionAt_mem hat).2]
      rcases hpc with hpc | hpc <;> simp [removed, hpc, hret]
  | @reaped ref rest ts r host hpc hat hret =>
      refine hlock.of_frame rfl (.of_delete rfl) (hspared ?_ (sessionAt_mem hat).1 rfl)
        (fun c hmem _ => hmem)
      rw [(sessionAt_mem hat).2]
      simp [removed, hpc, hret]
  | @dropped conn hidle hpeer hclosed =>
      refine hlock.of_frame rfl (.of_list_eq rfl) (hforgot hpeer rfl)
        (fun c hmem _ => List.mem_of_mem_erase hmem)
  | @loopFinished conn erased dropping crash hpc hwhy =>
      have hpeer := hc.openedPeer conn (hc.served conn (by rw [hpc]; rfl))
      cases dropping with
      | false => exact hframe rfl (.of_list_eq rfl) rfl rfl
      | true =>
          exact hlock.of_frame rfl (.of_list_eq rfl) (hforgot hpeer rfl)
            (fun c hmem _ => List.mem_of_mem_erase hmem)
  | @locked n ts session hirq hsome =>
      intro n' ts' c hlocked
      obtain ⟨rfl, rfl, hconn⟩ : n = n' ∧ ts = ts' ∧ session.notificationConnection = some c := by
        simpa using hlocked
      obtain ⟨s, -, hres, href, -⟩ := hh.resolve hw (target_of_found hirq)
      obtain rfl : session = s := Option.some.inj (hsome.symm.trans hres)
      have hmem := resolve_mem hsome
      obtain ⟨halloc, hdetached⟩ := hc.nqDetached session hmem c hconn
      refine ⟨halloc, hdetached, fun s' hs' hsc => ?_⟩
      exact (hc.nqDistinct s' hs' session hmem c hsc hconn).trans href
  | receivedUnknown | receivedFound | parked | lockLost | deliverLost | stored | forwarded =>
      rintro n ts c ⟨⟩
  | closeRefused hcall => cases hcall <;> exact hframe rfl (.of_list_eq rfl) rfl rfl
  | closeSent hcall => cases hcall <;> exact hframe rfl (.of_list_eq rfl) rfl rfl
  | mapSent | openSucceeded | unmapSucceeded | drainedFront | flushedFront =>
      exact hframe rfl (hfrom (by simp)) rfl rfl
  | _ => exact hframe rfl (.of_list_eq rfl) rfl rfl

/-! ## The watched session -/

/-- The session stays the one that is found under its id. -/
theorem SessionsChange.found {d t : Daemon} {l : Label} {ref : SessionRef} {sessionId : UInt32}
    (h : SessionsChange d l t) (hkeep : d.removed l ≠ some ref)
    (hfound : (d.getTrustletSession sessionId).map TrustletSession.ref = some ref) :
    (t.getTrustletSession sessionId).map TrustletSession.ref = some ref := by
  cases h with
  | same hlist => rwa [getTrustletSession, hlist]
  | changed hid hrun hlist =>
      rwa [getTrustletSession, hlist, KeyedList.lookup_update fun s => ⟨(hid s).2.2.1, (hid s).1⟩]
  | pushed hl hopen haddr hlist =>
      obtain ⟨s, hs, hsref⟩ := Option.map_eq_some_iff.mp hfound
      rw [getTrustletSession, hlist, KeyedList.lookup_append_of_some hs, Option.map_some, hsref]
  | @deleted ref' hremoved hlist =>
      obtain ⟨s, hs, hsref⟩ := Option.map_eq_some_iff.mp hfound
      have hne : s.ref ≠ ref' := fun heq => hkeep (by rw [hremoved, ← heq, hsref])
      rw [getTrustletSession, hlist, KeyedList.lookup_delete hs hne, Option.map_some, hsref]

/-- Parked notifications are handed to a session that is new. -/
theorem effect_draining {d t : Daemon} {l : Label} (h : Effect d l t) :
    t.srv = d.srv ∨ t.srv.draining = none ∨ t.srv.draining = some d.nextRef := by
  cases h with
  | accepted | notifyIgnored | notifySent | drainedFront | flushedFront | receivedUnknown
  | receivedFound | parked | lockLost | locked | deliverLost | stored | forwarded =>
      exact Or.inl rfl
  | openSucceeded => exact Or.inr (Or.inr rfl)
  | closeRefused hcall => cases hcall <;> exact Or.inr (Or.inl rfl)
  | @closeDeferred conn sessionId ref caller => cases caller <;> exact Or.inr (Or.inl rfl)
  | @closeFailed conn sessionId ref caller => cases caller <;> exact Or.inr (Or.inl rfl)
  | @closeDone conn sessionId ref caller => cases caller <;> exact Or.inr (Or.inl rfl)
  | @loopFinished conn erased dropping => cases dropping <;> exact Or.inr (Or.inl rfl)
  | _ => exact Or.inr (Or.inl rfl)

/-- A session that is not a GP session, is listed and found under its id, and that the
IRQ thread uses for the notifications of this id. -/
structure Watched (ref : SessionRef) (sessionId : UInt32) (d : Daemon) : Prop where
  held : Held d
  locked : LockedConnection d
  listed : d.Lists ref fun s => s.sessionId = sessionId ∧ s.gpLevel ≠ 1
  found : (d.getTrustletSession sessionId).map TrustletSession.ref = some ref
  target : ∀ p ∈ d.irq.target, p.1.sessionId = sessionId → p.2.ref = ref
  known : ∀ n, d.irq = .unknown n → n.sessionId ≠ sessionId
  /-- The connection that the IRQ thread has read for the session is the session's. -/
  current : ∀ n ts c, d.irq = .locked n ts (some c) → ts.ref = ref →
    d.Lists ref fun s => s.notificationConnection = some c
  settled : d.srv.draining ≠ some ref

/-- A session that is not a GP session keeps its notification connection. -/
theorem effect_keepsConnection {d t : Daemon} {l : Label} {ref : SessionRef} {c : ConnPtr}
    (hw : WellFormed d) (hgp : d.Lists ref fun s => s.gpLevel ≠ 1) (hC : HandsOver ref d l)
    (h : Effect d l t) (hlisted : d.Lists ref fun s => s.notificationConnection = some c) :
    t.Lists ref fun s => s.notificationConnection = some c := by
  obtain ⟨-, hkeep, hregister, -⟩ := hC
  have hupdate : ∀ {k : SessionRef} {f : TrustletSession → TrustletSession}, KeepsIdentity f →
      (∀ s, (f s).notificationConnection = s.notificationConnection) →
      t.trustletSessions = KeyedList.update TrustletSession.ref k f d.trustletSessions →
      t.Lists ref fun s => s.notificationConnection = some c :=
    fun hid hf hlist => hlisted.update hlist hid (fun s _ _ hs => (hf s).trans hs)
      (fun _ _ _ hs => hs)
  cases hl : d.notifies l with
  | false =>
      obtain ⟨s, hs, hsref, hconn⟩ := hlisted
      have hat : d.sessionAt ref = some s := hsref ▸ sessionAt_of_mem hw.distinct hs
      have hboth : d.Lists ref fun s => s.notificationConnection = some c ∧ s.gpLevel ≠ 1 :=
        .of_sessionAt hat ⟨hconn, hgp.sessionAt hw.distinct hat⟩
      refine hboth.of_quiet hw h hl hkeep ?_
      rintro s s' hchange ⟨hconn, hgp⟩
      cases hchange with
      | buffers => exact hconn
      | disconnected hgp' => exact absurd hgp' hgp
  | true =>
      cases h with
      | @nqConnected conn cmd session hidle hpeer hclosed hfind =>
          refine hlisted.update rfl (keepsIdentity_connect conn) ?_ (fun _ _ _ hs => hs)
          intro s hsref hsame hconn
          have hnone := hregister session (by simp [registering, hfind]) hsame.symm
          have hat : d.sessionAt session.ref = some session :=
            sessionAt_of_mem hw.distinct (List.mem_of_find?_eq_some hfind)
          rw [hsame] at hlisted
          rw [hlisted.sessionAt hw.distinct hat] at hnone
          cases hnone
      | drainedFront =>
          exact hupdate (keepsIdentity_queueNotification _) (fun _ => by simp) rfl
      | flushedFront => exact hupdate keepsIdentity_popNotification (fun _ => rfl) rfl
      | stored => exact hupdate (keepsIdentity_queueNotification _) (fun _ => by simp) rfl
      | nqRefused | drainDone | nqAnswered | flushDone | receivedUnknown | receivedFound | parked
      | lockLost | locked | deliverLost | forwarded => exact hlisted
      | refused hidle hpeer hcode hnotify hnq =>
          rw [notifies_of_refused hnq] at hl
          cases hl
      | closeRefused hcall | closeSent hcall | closeSentGp hcall => cases hcall <;> cases hl
      | openRefused _ _ hcmd | openLeaked _ _ hcmd | openSent _ _ hcmd | openSentTci _ _ hcmd =>
          cases hcmd <;> cases hl
      | _ => cases hl

theorem effect_watched {d t : Daemon} {l : Label} {ref : SessionRef} {sessionId : UInt32}
    (hw : WellFormed d) (hc : ConnectionsHeld d) (hwatched : Watched ref sessionId d)
    (hC : HandsOver ref d l) (h : Effect d l t) : Watched ref sessionId t := by
  have hchange := effect_sessionsChange hw.distinct h
  have hgp : d.Lists ref fun s => s.gpLevel ≠ 1 :=
    hwatched.listed.imp fun s hs => ⟨hs.1, hs.2.1, hs.2.2.2⟩
  have hheld := effect_held hw hwatched.held hC.1 h
  have hlocked := effect_lockedConnection hw hc hwatched.held hwatched.locked hC.1 h
  have hlisted : t.Lists ref fun s => s.sessionId = sessionId ∧ s.gpLevel ≠ 1 := by
    refine hwatched.listed.of_change hw.distinct hchange hC.2.1 fun f hf s hs => ?_
    rwa [(hf s).2.2.1, (hf s).2.2.2.2]
  have hfound := hchange.found hC.2.1 hwatched.found
  have hsettled : t.srv.draining ≠ some ref := by
    rcases effect_draining h with hsrv | hnone | hnew
    · rw [hsrv]
      exact hwatched.settled
    · simp [hnone]
    · obtain ⟨s, hs, hsref, -⟩ := hwatched.listed
      have hlt := hw.numbered s hs
      rw [hnew, ← hsref]
      simpa using hlt.ne'
  suffices hirq : (∀ p ∈ t.irq.target, p.1.sessionId = sessionId → p.2.ref = ref) ∧
      (∀ n, t.irq = .unknown n → n.sessionId ≠ sessionId) ∧
      ∀ n ts c, t.irq = .locked n ts (some c) → ts.ref = ref →
        t.Lists ref fun s => s.notificationConnection = some c from
    ⟨hheld, hlocked, hlisted, hfound, hirq.1, hirq.2.1, hirq.2.2, hsettled⟩
  cases hirq : l.byIrq with
  | false =>
      rw [effect_irq_eq h hirq]
      exact ⟨hwatched.target, hwatched.known, fun n ts c hpc hts =>
        effect_keepsConnection hw hgp hC h (hwatched.current n ts c hpc hts)⟩
  | true =>
      cases h with
      | @receivedUnknown n hidle hnone =>
          refine ⟨by rintro p ⟨⟩, ?_, by rintro n ts c ⟨⟩⟩
          rintro n' ⟨⟩ rfl
          have hfound := hwatched.found
          rw [hnone] at hfound
          cases hfound
      | @receivedFound n ts hidle hsome =>
          refine ⟨?_, by rintro n ⟨⟩, by rintro n ts c ⟨⟩⟩
          rintro p ⟨⟩ hid
          have hfound := hwatched.found
          rw [← hid, hsome] at hfound
          exact Option.some.inj hfound
      | @locked n ts session hpc hsome =>
          refine ⟨?_, by rintro n ⟨⟩, ?_⟩
          · rintro p ⟨⟩
            exact hwatched.target (n, ts) (by rw [hpc]; rfl)
          · rintro n' ts' c hirq hts
            obtain ⟨rfl, rfl, hconn⟩ :
                n = n' ∧ ts = ts' ∧ session.notificationConnection = some c := by
              simpa using hirq
            obtain ⟨s, hat, hres, -⟩ :=
              hwatched.held.resolve hw (target_of_found hpc)
            obtain rfl : session = s := Option.some.inj (hsome.symm.trans hres)
            exact hts ▸ Lists.of_sessionAt (d := d) hat hconn
      | parked | lockLost | deliverLost | stored | forwarded =>
          exact ⟨by rintro p ⟨⟩, by rintro n ⟨⟩, by rintro n ts c ⟨⟩⟩
      | closeRefused hcall | closeSent hcall | closeSentGp hcall => cases hcall <;> cases hirq
      | _ => cases hirq

/-! ## The handover -/

/-- The notification for the session that the IRQ thread has not handed on yet. -/
def holding (ref : SessionRef) (d : Daemon) : Option Notification :=
  (d.irq.target.filter fun p => p.2.ref = ref).map Prod.fst

/-- The event is neither a posting for the id nor part of the stream on the connection. -/
def Foreign (ref : SessionRef) (sessionId : UInt32) (connection : Option ConnPtr) (e : Event) :
    Prop :=
  e.postedTo sessionId = none ∧
    ∀ stream, streamAfter ref (connection.map fun c => (c, stream)) e =
      connection.map fun c => (c, stream)

/-- The handover as the session shows it, `es` being the events since its start. -/
structure Views (ref : SessionRef) (sessionId : UInt32) (d : Daemon) (es : List Event)
    (s : TrustletSession) (a : Handover.State Notification Response) : Prop where
  session : d.sessionAt ref = some s
  stage : d.stage s = a.stage
  posted : posted sessionId es = a.posted
  held : d.holding ref = a.held
  queue : s.notifications = a.queue
  stream : streamOf ref es = s.notificationConnection.map fun c => (c, a.stream)

/-- The step from `d` to `t` is a run of the handover. -/
def Matched (ref : SessionRef) (sessionId : UInt32) (es : List Event)
    (a : Handover.State Notification Response) (d t : Daemon) : Prop :=
  ∃ ops b added s, (Handover.system (.result mcDrvOk)).run a ops = some b ∧
    t.trace = d.trace ++ added ∧ Views ref sessionId t (es ++ added) s b

theorem posted_append (sessionId : UInt32) (es added : List Event) :
    posted sessionId (es ++ added) = posted sessionId es ++ posted sessionId added :=
  List.filterMap_append

theorem streamOf_append (ref : SessionRef) (es added : List Event) :
    streamOf ref (es ++ added) = added.foldl (streamAfter ref) (streamOf ref es) :=
  List.foldl_append

theorem foldl_foreign {ref : SessionRef} {sessionId : UInt32} {connection : Option ConnPtr}
    {added : List Event} (h : ∀ e ∈ added, Foreign ref sessionId connection e)
    (stream : List (Response ⊕ Notification)) :
    added.foldl (streamAfter ref) (connection.map fun c => (c, stream)) =
      connection.map fun c => (c, stream) := by
  induction added with
  | nil => rfl
  | cons e rest ih =>
      rw [List.foldl_cons, (h e List.mem_cons_self).2]
      exact ih fun e he => h e (List.mem_cons_of_mem _ he)

theorem posted_foreign {ref : SessionRef} {sessionId : UInt32} {connection : Option ConnPtr}
    {added : List Event} (h : ∀ e ∈ added, Foreign ref sessionId connection e) :
    posted sessionId added = [] :=
  List.filterMap_eq_nil_iff.mpr fun e he => (h e he).1

theorem foreign_of_not_noted {ref : SessionRef} {sessionId : UInt32}
    {connection : Option ConnPtr} {e : Event} (h : e.noted connection = false) :
    Foreign ref sessionId connection e := by
  refine ⟨?_, fun stream => ?_⟩
  · cases e <;> first | rfl | cases h
  · cases e with
    | answer conn rsp =>
        cases connection with
        | none => rfl
        | some c =>
            have hne : conn ≠ c := by
              rintro rfl
              simp [Event.noted] at h
            simp [streamAfter, hne]
    | received | stored | forwarded | parked | drained | flushed | registered
    | danglingAccess => cases h
    | _ => rfl

/-- A step that changes the session in no respect of the handover. -/
theorem Views.unchanged {ref : SessionRef} {sessionId : UInt32} {d t : Daemon}
    {es : List Event} {s s' : TrustletSession}
    {a : Handover.State Notification Response} (hv : Views ref sessionId d es s a)
    (added : List Event) (hsession : t.sessionAt ref = some s')
    (hconn : s'.notificationConnection = s.notificationConnection)
    (hqueue : s'.notifications = s.notifications) (hstage : t.stage s' = d.stage s)
    (hheld : t.holding ref = d.holding ref) (htrace : t.trace = d.trace ++ added)
    (hadded : ∀ e ∈ added, Foreign ref sessionId s.notificationConnection e) :
    Matched ref sessionId es a d t := by
  refine ⟨[], a, added, s', rfl, htrace, hsession, hstage.trans hv.stage, ?_,
    hheld.trans hv.held, hqueue.trans hv.queue, ?_⟩
  · rw [posted_append, posted_foreign hadded, List.append_nil, hv.posted]
  · rw [streamOf_append, hv.stream, foldl_foreign hadded, hconn]

theorem stage_congr {d t : Daemon} {s s' : TrustletSession} (href : s'.ref = s.ref)
    (hconn : s'.notificationConnection = s.notificationConnection)
    (hsrv : t.srv.stageOf s.ref = d.srv.stageOf s.ref) : t.stage s' = d.stage s := by
  rw [stage, stage, hconn, href, hsrv]

/-! ## Steps that hand on no notification -/

theorem stageOf_resumeCaller (ref : SessionRef) (conn : ConnPtr) (caller : CloseCaller)
    (d : Daemon) : (d.resumeCaller conn caller).stageOf ref = .attached := by
  cases caller <;> rfl

theorem stageOf_of_closePending {d : Daemon} {conn : ConnPtr} {sessionId : UInt32}
    {ref : SessionRef} {caller : CloseCaller} (hpc : d.ClosePending conn sessionId ref caller)
    (watched : SessionRef) : d.srv.stageOf watched = .attached := by
  rcases hpc with hpc | hpc <;> rw [hpc] <;> rfl

theorem CloseCall.stageOf {d d₀ : Daemon} {l : Label} {conn : ConnPtr} {sessionId : UInt32}
    {caller : CloseCaller} (hcall : CloseCall d l d₀ conn sessionId caller) (ref : SessionRef) :
    d.srv.stageOf ref = .attached := by
  cases hcall with
  | command hidle => rw [hidle]; rfl
  | loop hpc => rw [hpc]; rfl

/-- A step that hands on no notification moves no notification connection on. -/
theorem effect_stageOf {d t : Daemon} {l : Label} (h : Effect d l t) (hl : d.notifies l = false)
    (ref : SessionRef) : t.srv.stageOf ref = d.srv.stageOf ref := by
  cases h with
  | closeRefused hcall =>
      rw [closeReturn_srv, stageOf_resumeCaller, hcall.stageOf]
  | closeSent hcall | closeSentGp hcall => rw [hcall.stageOf]; rfl
  | closeDeferred hpc =>
      rw [closeReturn_srv, stageOf_resumeCaller, hpc]
      rfl
  | closeFailed hpc | closeDone hpc =>
      rw [closeReturn_srv, stageOf_resumeCaller, stageOf_of_closePending hpc]
  | @loopFinished conn erased dropping crash hpc => cases dropping <;> rw [hpc] <;> rfl
  | drainDone | drainedFront | nqAnswered | flushDone | flushedFront
  | receivedUnknown | receivedFound | parked | lockLost | locked | deliverLost | stored
  | forwarded => cases hl
  | nqRefused _ _ hclosed | nqConnected _ _ hclosed => simp [notifies, hclosed] at hl
  | accepted | notifyIgnored | notifySent => rfl
  | _ => simp [ServerPc.stageOf, *]

/-- A step that hands on no notification is no step of the handover. -/
theorem quiet_views {d t : Daemon} {l : Label} {ref : SessionRef} {sessionId : UInt32}
    {es : List Event} {s : TrustletSession} {a : Handover.State Notification Response}
    (hw : WellFormed d) (hc : ConnectionsHeld d) (hwatched : Watched ref sessionId d)
    (hv : Views ref sessionId d es s a) (hkeep : d.removed l ≠ some ref) (h : Effect d l t)
    (hl : d.notifies l = false) : Matched ref sessionId es a d t := by
  obtain ⟨hmem, hsref⟩ := sessionAt_mem hv.session
  have hgp : s.gpLevel ≠ 1 := (hwatched.listed.sessionAt hw.distinct hv.session).2
  have hlisted : d.Lists ref fun u => u = s := .of_sessionAt hv.session rfl
  obtain ⟨s', hs', hsref', hchange⟩ : t.Lists ref (QuietChange s) := by
    refine hlisted.of_quiet hw h hl hkeep ?_
    rintro u u' hchange rfl
    exact hchange
  have hsession : t.sessionAt ref = some s' :=
    hsref' ▸ sessionAt_of_mem (effect_wellFormed hw h).distinct hs'
  have hconn : s'.notificationConnection = s.notificationConnection := by
    cases hchange with
    | buffers => rfl
    | disconnected hgp' => exact absurd hgp' hgp
  have hirq := effect_irq_eq h (byIrq_of_not_notifies hl)
  obtain ⟨added, htrace⟩ := effect_trace h
  have hdetached : ∀ c ∈ s.notificationConnection, c ∉ d.peerConnections :=
    fun c hsc => (hc.nqDetached s hmem c hsc).2
  have hquiet := effect_quiet hc h hl hdetached
  rw [← htrace, List.filter_append, List.append_right_eq_self, List.filter_eq_nil_iff] at hquiet
  exact hv.unchanged added hsession hconn hchange.notifications_eq
    (stage_congr hchange.ref_eq hconn (effect_stageOf h hl s.ref)) (by rw [holding, hirq]; rfl)
    htrace.symm fun e he => foreign_of_not_noted (Bool.eq_false_iff.mpr (hquiet e he))

/-! ## Steps that hand on notifications -/

theorem sessionAt_update_self {d t : Daemon} {ref : SessionRef}
    {f : TrustletSession → TrustletSession} {s : TrustletSession} (hid : KeepsIdentity f)
    (hat : d.sessionAt ref = some s)
    (hlist : t.trustletSessions = KeyedList.update TrustletSession.ref ref f d.trustletSessions) :
    t.sessionAt ref = some (f s) := by
  rw [sessionAt, hlist]
  exact KeyedList.lookup_update_self (fun s => (hid s).1) hat

theorem sessionAt_update_of_ne {d t : Daemon} {ref k : SessionRef}
    {f : TrustletSession → TrustletSession} (hid : KeepsIdentity f) (hne : k ≠ ref)
    (hlist : t.trustletSessions = KeyedList.update TrustletSession.ref k f d.trustletSessions) :
    t.sessionAt ref = d.sessionAt ref := by
  rw [sessionAt, sessionAt, hlist]
  exact KeyedList.lookup_update_of_ne (fun s => (hid s).1) hne _

theorem foreign_answer {ref : SessionRef} {sessionId : UInt32} {connection : Option ConnPtr}
    {conn : ConnPtr} (h : connection ≠ some conn) (rsp : Response) :
    Foreign ref sessionId connection (.answer conn rsp) :=
  foreign_of_not_noted (by simp [Event.noted, h])

theorem foreign_forwarded {ref k : SessionRef} {sessionId id : UInt32}
    {connection : Option ConnPtr} {conn : ConnPtr} (h : connection ≠ some conn)
    (n : Notification) : Foreign ref sessionId connection (.forwarded k id conn n) := by
  refine ⟨rfl, fun stream => ?_⟩
  cases connection with
  | none => rfl
  | some c =>
      have hne : conn ≠ c := fun heq => h (heq ▸ rfl)
      simp [streamAfter, hne]

theorem foreign_flushed {ref k : SessionRef} {sessionId id : UInt32}
    {connection : Option ConnPtr} {conn : ConnPtr} (h : connection ≠ some conn)
    (n : Notification) : Foreign ref sessionId connection (.flushed k id conn n) := by
  refine ⟨rfl, fun stream => ?_⟩
  cases connection with
  | none => rfl
  | some c =>
      have hne : conn ≠ c := fun heq => h (heq ▸ rfl)
      simp [streamAfter, hne]

section

variable {d t : Daemon} {l : Label} {ref : SessionRef} {sessionId : UInt32} {es : List Event}
  {s s' : TrustletSession} {a : Handover.State Notification Response}

theorem Matched.of_step (op : Handover.Op Notification)
    (b : Handover.State Notification Response)
    (added : List Event) (hop : Handover.step (.result mcDrvOk) a op = some b)
    (htrace : t.trace = d.trace ++ added)
    (hv : Views ref sessionId t (es ++ added) s' b) : Matched ref sessionId es a d t :=
  ⟨[op], b, added, s', TransitionSystem.run_cons_eq_some _ |>.mpr ⟨b, hop, rfl⟩, htrace, hv⟩

/-- The session that is registered for gets its first connection. -/
theorem registered_views {before : List Notification} {conn : ConnPtr}
    (hv : Views ref sessionId d es s a)
    (ha : Handover.Ordered (.result mcDrvOk) before a) (hnone : s.notificationConnection = none)
    (hsrv : t.srv = .nqRegistered conn ref) (hirq : t.irq = d.irq)
    (hlist : t.trustletSessions =
      KeyedList.update TrustletSession.ref ref (TrustletSession.connect conn) d.trustletSessions)
    (htrace : t.trace = d.trace ++ [.registered ref conn]) : Matched ref sessionId es a d t := by
  have hstage : a.stage = .detached := by
    rw [← hv.stage, stage, hnone]
  refine Matched.of_step .register { a with stage := .registered } _ ?_ htrace
    ⟨sessionAt_update_self (keepsIdentity_connect conn) hv.session hlist, ?_, ?_, ?_, hv.queue, ?_⟩
  · simp [Handover.step, hstage]
  · have hsref : (s.connect conn).ref = ref := (sessionAt_mem hv.session).2
    simp [stage, TrustletSession.connect, hsrv, ServerPc.stageOf, (sessionAt_mem hv.session).2]
  · rw [posted_append, hv.posted]
    exact List.append_nil _
  · rw [← hv.held, holding, hirq]
    rfl
  · rw [streamOf_append, ha.silent (Or.inl hstage)]
    simp [streamAfter, TrustletSession.connect]

theorem answered_views {conn : ConnPtr} (hv : Views ref sessionId d es s a)
    (hconn : s.notificationConnection = some conn) (hpc : d.srv = .nqRegistered conn ref) :
    Matched ref sessionId es a d (d.nqConnectRespond conn ref) := by
  have hsref : s.ref = ref := (sessionAt_mem hv.session).2
  have hstage : a.stage = .registered := by
    simp [← hv.stage, stage, hconn, hpc, ServerPc.stageOf, hsref]
  refine Matched.of_step .greet
    { a with stage := .draining, stream := a.stream ++ [.inl (.result mcDrvOk)] }
    [.answer conn (.result mcDrvOk)] ?_ rfl ⟨hv.session, ?_, ?_, hv.held, hv.queue, ?_⟩
  · simp [Handover.step, hstage]
  · simp [stage, hconn, ServerPc.stageOf, hsref]
  · rw [posted_append, hv.posted]
    exact List.append_nil _
  · rw [streamOf_append, hv.stream, hconn]
    simp [streamAfter]

theorem flushDone_views (hv : Views ref sessionId d es s a) (hpc : d.srv = .nqDrain ref)
    (hwhy : s.notificationConnection = none ∨ s.notifications = []) :
    Matched ref sessionId es a d (d.goto .idle) := by
  have hsref : s.ref = ref := (sessionAt_mem hv.session).2
  cases hconn : s.notificationConnection with
  | none =>
      refine hv.unchanged [] hv.session rfl rfl ?_ rfl (List.append_nil _).symm ?_
      · rw [stage, stage, hconn]
      · exact fun e he => absurd he List.not_mem_nil
  | some conn =>
      have hempty : s.notifications = [] := hwhy.resolve_left (by simp [hconn])
      have hstage : a.stage = .draining := by
        simp [← hv.stage, stage, hconn, hpc, ServerPc.stageOf, hsref]
      refine Matched.of_step .finish { a with stage := .attached } [] ?_
        (List.append_nil _).symm ⟨hv.session, ?_, ?_, hv.held, hv.queue, ?_⟩
      · simp [Handover.step, hstage, ← hv.queue, hempty]
      · simp [stage, hconn, ServerPc.stageOf]
      · rw [List.append_nil, hv.posted]
      · rw [List.append_nil, hv.stream]

theorem flushedFront_views {conn : ConnPtr} {front : Notification} {rest : List Notification}
    (hv : Views ref sessionId d es s a) (hpc : d.srv = .nqDrain ref)
    (hconn : s.notificationConnection = some conn) (hqueue : s.notifications = front :: rest) :
    Matched ref sessionId es a d (d.flushFront s conn front) := by
  have hsref : s.ref = ref := (sessionAt_mem hv.session).2
  have hstage : a.stage = .draining := by
    simp [← hv.stage, stage, hconn, hpc, ServerPc.stageOf, hsref]
  refine Matched.of_step .flush { a with queue := rest, stream := a.stream ++ [.inr front] }
    [.flushed s.ref s.sessionId conn front] ?_ rfl
    ⟨sessionAt_update_self keepsIdentity_popNotification hv.session (hsref ▸ rfl), ?_, ?_,
      hv.held, ?_, ?_⟩
  · simp [Handover.step, hstage, ← hv.queue, hqueue]
  · simp [stage, TrustletSession.popNotification, hconn, hpc, ServerPc.stageOf, hsref, hstage]
  · rw [posted_append, hv.posted]
    exact List.append_nil _
  · simp [TrustletSession.popNotification, hqueue]
  · rw [streamOf_append, hv.stream, hconn]
    simp [streamAfter, TrustletSession.popNotification, hconn]

/-- The IRQ thread receives a notification for the session. -/
theorem received_views {n : Notification} {ts : TrustletSession}
    (hv : Views ref sessionId d es s a) (hidle : d.irq = .idle) (hid : n.sessionId = sessionId)
    (href : ts.ref = ref) :
    Matched ref sessionId es a d
      { d.emit (.received n) with irq := .found n { ref := ts.ref, addr := ts.addr } } := by
  have hheld : a.held = none := by
    rw [← hv.held, holding, hidle]
    rfl
  refine Matched.of_step (.post n) { a with posted := a.posted ++ [n], held := some n }
    [.received n] ?_ rfl ⟨hv.session, hv.stage, ?_, ?_, hv.queue, ?_⟩
  · simp [Handover.step, hheld]
  · rw [posted_append, hv.posted]
    simp [posted, Event.postedTo, hid]
  · simp [holding, IrqPc.target, href]
  · rw [streamOf_append, hv.stream]
    rfl

theorem stored_views {n : Notification} {ts : SessionPtr} (hw : WellFormed d)
    (hwatched : Watched ref sessionId d) (hv : Views ref sessionId d es s a)
    (hpc : d.irq = .locked n ts none) (hts : ts.ref = ref) (hturn : InTurn d s none) :
    Matched ref sessionId es a d ((d.access n ts).storeNotification n s) := by
  obtain ⟨hmem, hsref⟩ := sessionAt_mem hv.session
  have hgp : s.gpLevel ≠ 1 := (hwatched.listed.sessionAt hw.distinct hv.session).2
  have hqueued : (s.queueNotification n).notifications = s.notifications ++ [n] := by
    simp [TrustletSession.queueNotification, TrustletSession.isExit, hgp, hw.runs s hmem hgp]
  have hheld : a.held = some n := by
    rw [← hv.held, holding, hpc]
    simp [IrqPc.target, hts]
  have htrace := hwatched.held.access_trace hw (target_of_locked hpc)
  refine Matched.of_step .store { a with held := none, queue := a.queue ++ [n] }
    [.stored s.ref n] (Handover.step_store hheld ?_) (by rw [storeNotification_trace, htrace])
    ⟨sessionAt_update_self (d := d) (keepsIdentity_queueNotification n) hv.session (hsref ▸ rfl),
      ?_, ?_, rfl, ?_, ?_⟩
  · rw [← hv.stage]
    exact hturn
  · rw [← hv.stage]
    exact stage_congr (by simp) (by simp) rfl
  · rw [posted_append, hv.posted]
    exact List.append_nil _
  · rw [hqueued, hv.queue]
  · rw [streamOf_append, hv.stream, TrustletSession.queueNotification_notificationConnection]
    rfl

theorem forwarded_views {n : Notification} {ts : SessionPtr} {conn : ConnPtr}
    {before : List Notification} (hw : WellFormed d) (hwatched : Watched ref sessionId d)
    (hv : Views ref sessionId d es s a) (ha : Handover.Ordered (.result mcDrvOk) before a)
    (hpc : d.irq = .locked n ts (some conn)) (hts : ts.ref = ref)
    (hturn : InTurn d s (some conn)) :
    Matched ref sessionId es a d ((d.access n ts).forwardNotification n s conn) := by
  have hconn : s.notificationConnection = some conn :=
    (hwatched.current n ts conn hpc hts).sessionAt hw.distinct hv.session
  have hheld : a.held = some n := by
    rw [← hv.held, holding, hpc]
    simp [IrqPc.target, hts]
  have htrace := hwatched.held.access_trace hw (target_of_locked hpc)
  obtain ⟨hregistered, hdrained⟩ := hturn
  rw [hv.stage] at hregistered hdrained
  have hstage : a.stage = .draining ∨ a.stage = .attached := by
    have hdetached : a.stage ≠ .detached := by
      rw [← hv.stage, stage, hconn]
      exact d.srv.stageOf_ne_detached s.ref
    cases h : a.stage with
    | detached => exact absurd h hdetached
    | registered => exact absurd h hregistered
    | draining => exact Or.inl rfl
    | attached => exact Or.inr rfl
  have hqueue : a.queue = [] := by
    rcases hstage with h | h
    · rw [← hv.queue, hdrained h]
    · exact ha.drained h
  refine Matched.of_step .forward { a with held := none, stream := a.stream ++ [.inr n] }
    [.forwarded s.ref s.sessionId conn n] (Handover.step_forward hheld hqueue hstage)
    (by rw [forwardNotification_trace, htrace]) ⟨hv.session, hv.stage, ?_, rfl, hv.queue, ?_⟩
  · rw [posted_append, hv.posted]
    exact List.append_nil _
  · rw [streamOf_append, hv.stream, hconn]
    simp [streamAfter]

/-- Where the two threads keep their order, every step is a run of the handover. -/
theorem effect_views {before : List Notification} (hw : WellFormed d) (hc : ConnectionsHeld d)
    (hwatched : Watched ref sessionId d) (hv : Views ref sessionId d es s a)
    (ha : Handover.Ordered (.result mcDrvOk) before a) (hC : HandsOver ref d l)
    (h : Effect d l t) : Matched ref sessionId es a d t := by
  obtain ⟨-, hkeep, hregister, hturn⟩ := hC
  obtain ⟨hmem, hsref⟩ := sessionAt_mem hv.session
  have hpeer : ∀ conn ∈ d.peerConnections, s.notificationConnection ≠ some conn :=
    fun conn hpeer hconn => (hc.nqDetached s hmem conn hconn).2 hpeer
  have hother : ∀ {k u conn}, d.sessionAt k = some u → u.notificationConnection = some conn →
      k ≠ ref → s.notificationConnection ≠ some conn := by
    intro k u conn hat huconn hne hconn
    obtain ⟨humem, rfl⟩ := sessionAt_mem hat
    exact hne ((hc.nqDistinct u humem s hmem conn huconn hconn).trans hsref)
  cases hl : d.notifies l with
  | false => exact quiet_views hw hc hwatched hv hkeep h hl
  | true =>
      cases h with
      | @nqRefused conn cmd code hidle hconn hclosed hcode =>
          refine hv.unchanged [.answer conn (.result code)] hv.session rfl rfl
            (stage_congr rfl rfl ?_) rfl rfl ?_
          · rw [hidle]
            rfl
          · simpa using foreign_answer (hpeer conn hconn) _
      | @nqConnected conn cmd session hidle hconn hclosed hfind =>
          have hat : d.sessionAt session.ref = some session :=
            sessionAt_of_mem hw.distinct (List.mem_of_find?_eq_some hfind)
          by_cases href : session.ref = ref
          · have hnone := hregister session (by simp [registering, hfind]) href
            obtain rfl : session = s := Option.some.inj (hat.symm.trans (href ▸ hv.session))
            subst href
            exact registered_views hv ha hnone rfl rfl rfl rfl
          · refine hv.unchanged [.registered session.ref conn]
              ((sessionAt_update_of_ne (keepsIdentity_connect conn) href rfl).trans hv.session)
              rfl rfl (stage_congr rfl rfl ?_) rfl rfl ?_
            · simp [ServerPc.stageOf, hidle, hsref, href]
            · simp [Foreign, Event.postedTo, streamAfter, href]
      | @nqAnswered conn k hpc =>
          have hlisted : d.Lists k fun u => u.notificationConnection = some conn := by
            have hp := hw.placed
            simpa only [Placed, hpc] using hp
          by_cases href : k = ref
          · subst href
            exact answered_views hv (hlisted.sessionAt hw.distinct hv.session) hpc
          · obtain ⟨u, hu, rfl, huconn⟩ := hlisted
            refine hv.unchanged [.answer conn (.result mcDrvOk)] hv.session rfl rfl
              (stage_congr rfl rfl ?_) rfl rfl ?_
            · simp [ServerPc.stageOf, hpc, hsref, href]
            · simpa using foreign_answer (hother (sessionAt_of_mem hw.distinct hu) huconn href) _
      | @drainDone conn k rsp hpc =>
          refine hv.unchanged [] hv.session rfl rfl (stage_congr rfl rfl ?_) rfl
            (List.append_nil _).symm (by simp)
          rw [hpc]
          rfl
      | @drainedFront conn k rsp front rest hpc =>
          have href : k ≠ ref := by
            have hsettled := hwatched.settled
            simpa [hpc, ServerPc.draining] using hsettled
          refine hv.unchanged [.drained k front]
            ((sessionAt_update_of_ne (keepsIdentity_queueNotification front) href rfl).trans
              hv.session) rfl rfl rfl rfl rfl ?_
          simp [Foreign, Event.postedTo, streamAfter]
      | @flushDone k session hpc hat hwhy =>
          by_cases href : k = ref
          · subst href
            obtain rfl : session = s := Option.some.inj (hat.symm.trans hv.session)
            exact flushDone_views hv hpc hwhy
          · refine hv.unchanged [] hv.session rfl rfl (stage_congr rfl rfl ?_) rfl
              (List.append_nil _).symm (by simp)
            simp [ServerPc.stageOf, hpc, hsref, href]
      | @flushedFront k session conn front rest hpc hat hconn hqueue =>
          by_cases href : k = ref
          · subst href
            obtain rfl : session = s := Option.some.inj (hat.symm.trans hv.session)
            exact flushedFront_views hv hpc hconn hqueue
          · have hne : session.ref ≠ ref := (sessionAt_mem hat).2.symm ▸ href
            refine hv.unchanged [.flushed session.ref session.sessionId conn front]
              ((sessionAt_update_of_ne keepsIdentity_popNotification hne rfl).trans hv.session)
              rfl rfl rfl rfl rfl ?_
            simpa using foreign_flushed (hother hat hconn href) front
      | @receivedUnknown n hidle hnone =>
          refine hv.unchanged [.received n] hv.session rfl rfl rfl ?_ rfl ?_
          · rw [holding, holding, hidle]
            rfl
          · have hid : n.sessionId ≠ sessionId := by
              rintro rfl
              have hfound := hwatched.found
              rw [hnone] at hfound
              cases hfound
            simp [Foreign, Event.postedTo, streamAfter, hid]
      | @receivedFound n ts hidle hsome =>
          by_cases hid : n.sessionId = sessionId
          · have hfound := hwatched.found
            rw [← hid, hsome] at hfound
            exact received_views hv hidle hid (Option.some.inj hfound)
          · have href : ts.ref ≠ ref := by
              intro href
              obtain ⟨htmem, htid⟩ := getTrustletSession_mem hsome
              have hat : d.sessionAt ref = some ts := href ▸ sessionAt_of_mem hw.distinct htmem
              exact hid (htid.symm.trans (hwatched.listed.sessionAt hw.distinct hat).1)
            refine hv.unchanged [.received n] hv.session rfl rfl rfl ?_ rfl ?_
            · simp [holding, hidle, IrqPc.target, href]
            · simp [Foreign, Event.postedTo, streamAfter, hid]
      | @parked n hpc =>
          refine hv.unchanged
            [.parked n ((d.getTrustletSession n.sessionId).map fun s => s.ref)]
            hv.session rfl rfl rfl ?_ rfl ?_
          · simp [holding, hpc, IrqPc.target]
          · simp [Foreign, Event.postedTo, streamAfter]
      | @lockLost n ts hpc hnone =>
          exact absurd hnone (hwatched.held.resolve_ne_none hw (target_of_found hpc))
      | @locked n ts session hpc hsome =>
          have htrace := hwatched.held.access_trace hw (target_of_found hpc)
          refine hv.unchanged [] hv.session rfl rfl rfl ?_ (htrace.trans (List.append_nil _).symm)
            (by simp)
          rw [holding, holding, hpc]
          rfl
      | @deliverLost n ts connection hpc hnone =>
          exact absurd hnone (hwatched.held.resolve_ne_none hw (target_of_locked hpc))
      | @stored n ts session hpc hsome =>
          obtain ⟨u, hat, hres, huref, -⟩ :=
            hwatched.held.resolve hw (target_of_locked hpc)
          obtain rfl : session = u := Option.some.inj (hsome.symm.trans hres)
          by_cases href : ts.ref = ref
          · obtain rfl : session = s := Option.some.inj (hat.symm.trans (href ▸ hv.session))
            refine stored_views hw hwatched hv hpc href ?_
            exact hturn (ts, none) (by simp [delivering, hpc]) href session hv.session
          · have htrace := hwatched.held.access_trace hw (target_of_locked hpc)
            have hne : session.ref ≠ ref := huref.symm ▸ href
            refine hv.unchanged [.stored session.ref n]
              ((sessionAt_update_of_ne (d := d) (keepsIdentity_queueNotification n) hne rfl).trans
                hv.session) rfl rfl rfl ?_ (by rw [storeNotification_trace, htrace]) ?_
            · simp [holding, hpc, IrqPc.target, href]
            · simp [Foreign, Event.postedTo, streamAfter]
      | @forwarded n ts conn session hpc hsome =>
          obtain ⟨u, hat, hres, huref, -⟩ :=
            hwatched.held.resolve hw (target_of_locked hpc)
          obtain rfl : session = u := Option.some.inj (hsome.symm.trans hres)
          by_cases href : ts.ref = ref
          · obtain rfl : session = s := Option.some.inj (hat.symm.trans (href ▸ hv.session))
            refine forwarded_views hw hwatched hv ha hpc href ?_
            exact hturn (ts, some conn) (by simp [delivering, hpc]) href session hv.session
          · have htrace := hwatched.held.access_trace hw (target_of_locked hpc)
            have hne : s.notificationConnection ≠ some conn := by
              intro hconn
              exact href (((hwatched.locked n ts conn hpc).2.2 s hmem hconn).symm.trans hsref)
            refine hv.unchanged [.forwarded session.ref session.sessionId conn n] hv.session
              rfl rfl rfl ?_ (by rw [forwardNotification_trace, htrace]) ?_
            · simp [holding, hpc, IrqPc.target, href]
            · simpa using foreign_forwarded hne n
      | refused hidle hpeer hcode hnotify hnq =>
          rw [notifies_of_refused hnq] at hl
          cases hl
      | closeRefused hcall | closeSent hcall | closeSentGp hcall => cases hcall <;> cases hl
      | openRefused _ _ hcmd | openLeaked _ _ hcmd | openSent _ _ hcmd | openSentTci _ _ hcmd =>
          cases hcmd <;> cases hl
      | _ => cases hl

end

/-! ## Runs -/

/-- The daemon and the handover for one session, from the trace `base` on. -/
structure HandsOverTo (ref : SessionRef) (sessionId : UInt32) (base : List Event) (d : Daemon)
    (a : Handover.State Notification Response) : Prop where
  wellFormed : WellFormed d
  connections : ConnectionsHeld d
  watched : Watched ref sessionId d
  views : ∃ es s, d.trace = base ++ es ∧ Views ref sessionId d es s a

theorem step_handsOverTo {ref : SessionRef} {sessionId : UInt32} {base : List Event}
    {before : List Notification} {d t : Daemon} {l : Label}
    {a : Handover.State Notification Response} (hd : HandsOverTo ref sessionId base d a)
    (ha : Handover.Ordered (.result mcDrvOk) before a) (hC : HandsOver ref d l)
    (h : system.step d l = some t) :
    ∃ ops b, (Handover.system (.result mcDrvOk)).run a ops = some b ∧
      HandsOverTo ref sessionId base t b := by
  obtain ⟨hw, hc, hwatched, es, s, hbase, hv⟩ := hd
  have heffect := step_effect h
  obtain ⟨ops, b, added, s', hops, htrace, hv'⟩ := effect_views hw hc hwatched hv ha hC heffect
  refine ⟨ops, b, hops, effect_wellFormed hw heffect, effect_connectionsHeld hw hc heffect,
    effect_watched hw hc hwatched hC heffect, es ++ added, s', ?_, hv'⟩
  rw [htrace, hbase, List.append_assoc]

/-- A session without a notification connection, with both threads idle. -/
theorem handsOverTo_initial {d : Daemon} {s : TrustletSession} (hw : WellFormed d)
    (hc : ConnectionsHeld d) (hsrv : d.srv = .idle) (hirq : d.irq = .idle)
    (hsession : d.getTrustletSession s.sessionId = some s) (hgp : s.gpLevel ≠ 1)
    (hnone : s.notificationConnection = none) :
    HandsOverTo s.ref s.sessionId d.trace d (Handover.initial s.notifications) := by
  have hmem := (getTrustletSession_mem hsession).1
  have hat := sessionAt_of_mem hw.distinct hmem
  refine ⟨hw, hc, ⟨?_, ?_, ⟨s, hmem, rfl, rfl, hgp⟩, ?_, ?_, ?_, ?_, ?_⟩,
    [], s, (List.append_nil _).symm, hat, ?_, rfl, ?_, rfl, ?_⟩
  · rw [Held, hirq]
    rintro p ⟨⟩
  · rw [LockedConnection, hirq]
    rintro n ts c ⟨⟩
  · rw [hsession]
    rfl
  · rw [hirq]
    rintro p ⟨⟩
  · rw [hirq]
    rintro n ⟨⟩
  · rw [hirq]
    rintro n ts c ⟨⟩
  · rw [hsrv]
    rintro ⟨⟩
  · rw [stage, hnone]
    rfl
  · rw [holding, hirq]
    rfl
  · rw [hnone]
    rfl

/-- Take a session that is not a GP session and has no notification connection, while
both threads are idle, and any run from there in which every step meets the condition.
At every time the notification connection has got a first part of what it is due: the
response, the notifications that were queued, and those posted since, in order.  When
both threads are idle it has got all of it and the queue is empty; a session without
connection has everything queued. -/
theorem nqConnect_run {ls₀ ls : List Label} {d₀ d : Daemon} {s₀ : TrustletSession}
    (hreach : system.run init ls₀ = some d₀) (hsrv : d₀.srv = .idle) (hirq : d₀.irq = .idle)
    (hsession : d₀.getTrustletSession s₀.sessionId = some s₀) (hgp : s₀.gpLevel ≠ 1)
    (hnone : s₀.notificationConnection = none)
    (hmeet : system.StepsMeet (HandsOver s₀.ref) d₀ ls) (hrun : system.run d₀ ls = some d) :
    ∃ es s, d.trace = d₀.trace ++ es ∧ d.sessionAt s₀.ref = some s ∧
      (∀ c, s.notificationConnection = some c →
        ∃ stream, streamOf s₀.ref es = some (c, stream) ∧
          stream <+: .inl (.result mcDrvOk) ::
            (s₀.notifications ++ posted s₀.sessionId es).map .inr) ∧
      (d.srv = .idle → d.irq = .idle →
        (s.notificationConnection = none →
          s.notifications = s₀.notifications ++ posted s₀.sessionId es) ∧
        ∀ c, s.notificationConnection = some c → s.notifications = [] ∧
          streamOf s₀.ref es = some (c, .inl (.result mcDrvOk) ::
            (s₀.notifications ++ posted s₀.sessionId es).map .inr)) := by
  have hstart := handsOverTo_initial (wellFormed_run hreach) (connectionsHeld_run hreach) hsrv hirq
    hsession hgp hnone
  obtain ⟨ops, a, hops, hd⟩ := TransitionSystem.run_simulation
    (fun _ _ _ ha h => Handover.step_ordered ha h)
    (fun _ _ _ _ hd ha hC h => step_handsOverTo hd ha hC h) hstart
    (Handover.initial_ordered _ _) hmeet hrun
  have ha := Handover.ordered_run hops
  obtain ⟨es, s, hbase, hv⟩ := hd.views
  refine ⟨es, s, hbase, hv.session, fun c hconn => ⟨a.stream, ?_, ?_⟩, fun hsrv hirq =>
    ⟨fun hnone => ?_, fun c hconn => ?_⟩⟩
  · rw [hv.stream, hconn]
    rfl
  · rw [hv.posted]
    exact ha.stream_prefix
  · have hheld : a.held = none := by
      rw [← hv.held, holding, hirq]
      rfl
    have hstage : a.stage = .detached := by
      rw [← hv.stage, stage, hnone]
    rw [hv.queue, hv.posted, ha.queue_eq_of_detached hstage hheld]
  · have hheld : a.held = none := by
      rw [← hv.held, holding, hirq]
      rfl
    have hstage : a.stage = .attached := by
      rw [← hv.stage, stage, hconn, hsrv]
      rfl
    obtain ⟨hqueue, hstream⟩ := ha.stream_eq_of_attached hstage hheld
    rw [hv.queue, hv.stream, hv.posted, hconn, hqueue, hstream]
    exact ⟨rfl, rfl⟩

/-- The session of `sessionAndPeer`. -/
def listedSession : TrustletSession :=
  TrustletSession.new 0 0x200 7 1 10

/-- A client has a session, and another connection is open. -/
def sessionAndPeer : List Label :=
  clientLabels 1 ++ openLabels 1 0 10 0x200 ++ [.accept 2]

/-- The NQ connect for the session of `sessionAndPeer`. -/
def connectLabel : Label :=
  .command 2 (.nqConnect
    { deviceId := mcDeviceIdDefault, sessionId := 10, deviceSessionId := 0x200, sessionMagic := 7 })

/-- A notification is queued, the connection registered, and another one forwarded. -/
def queueAndForward : List Label :=
  [.irqReceive ⟨10, 3⟩, .irqLock, .irqDeliver, connectLabel, .respond, .drain, .drain,
    .irqReceive ⟨10, 4⟩, .irqLock, .irqDeliver]

theorem nqConnect_run_queueAndForward :
    ∃ d₀ d es s, system.run init sessionAndPeer = some d₀ ∧
      system.run d₀ queueAndForward = some d ∧ d.trace = d₀.trace ++ es ∧
      d.sessionAt 0 = some s ∧ s.notifications = [] ∧
      streamOf 0 es = some (2, .inl (.result mcDrvOk) :: (posted 10 es).map .inr) := by
  obtain ⟨es, s, htrace, hat, -, hidle⟩ :=
    @nqConnect_run sessionAndPeer queueAndForward _ _ listedSession rfl rfl rfl rfl (by decide) rfl
      (by decide) rfl
  have hconn : s.notificationConnection = some 2 := by
    obtain rfl := Option.some.inj hat
    rfl
  obtain ⟨hqueue, hstream⟩ := (hidle rfl rfl).2 2 hconn
  exact ⟨_, _, es, s, rfl, rfl, htrace, hat, hqueue, hstream⟩

/-- A notification is forwarded before the response is written. -/
def forwardBeforeResponse : List Label :=
  [connectLabel, .irqReceive ⟨10, 3⟩, .irqLock, .irqDeliver, .respond, .drain]

/-- The notification overtakes the response. -/
theorem not_nqConnect :
    ¬ ∀ (ls₀ ls : List Label) (d₀ d : Daemon) (s₀ : TrustletSession),
      system.run init ls₀ = some d₀ → d₀.srv = .idle → d₀.irq = .idle →
      d₀.getTrustletSession s₀.sessionId = some s₀ → s₀.gpLevel ≠ 1 →
      s₀.notificationConnection = none → system.run d₀ ls = some d → d.srv = .idle →
      d.irq = .idle → ∀ es c stream, d.trace = d₀.trace ++ es →
        streamOf s₀.ref es = some (c, stream) →
        stream = .inl (.result mcDrvOk) ::
          (s₀.notifications ++ posted s₀.sessionId es).map .inr := by
  intro h
  obtain ⟨d₀, d, es, hreach, hrun, hrest⟩ : ∃ d₀ d es,
      system.run init sessionAndPeer = some d₀ ∧
      system.run d₀ forwardBeforeResponse = some d ∧
      d₀.srv = .idle ∧ d₀.irq = .idle ∧ d₀.getTrustletSession 10 = some listedSession ∧
      d.srv = .idle ∧ d.irq = .idle ∧ d.trace = d₀.trace ++ es ∧
      streamOf 0 es = some (2, [.inr ⟨10, 3⟩, .inl (.result mcDrvOk)]) :=
    ⟨_, _, [.registered 0 2, .received ⟨10, 3⟩, .forwarded 0 10 2 ⟨10, 3⟩,
      .answer 2 (.result mcDrvOk)], rfl, rfl, rfl, rfl, rfl, rfl, rfl, rfl, rfl⟩
  obtain ⟨hsrv₀, hirq₀, hsession, hsrv, hirq, htrace, hstream⟩ := hrest
  have := h sessionAndPeer forwardBeforeResponse d₀ d listedSession hreach hsrv₀ hirq₀ hsession
    (by decide) rfl hrun hsrv hirq es 2 _ htrace hstream
  cases this

end Daemon

end Exynos8890.MobiCore
