import Exynos8890.MobiCore.DriverDaemon.Notifications

/-!
# Notifications reach their own session

A notification is queued in a session by the IRQ thread, by `openSession`, which
hands over everything that was parked, or written to the notification connection.

Main results:

- Theorem `effect_routed`: a step that drains notifications of the new session only
  keeps every notification with its session.
- Theorem `routed_run`: so it is in every run of such steps.
- Theorem `not_routed`: a notification parked for one id is handed to a session that
  is opened under another.
-/

namespace Exynos8890.MobiCore

/-- What the event writes to a notification connection is for the session of that
connection. -/
def Event.Routed : Event → Prop
  | .forwarded _ sessionId _ n => n.sessionId = sessionId
  | .flushed _ sessionId _ n => n.sessionId = sessionId
  | _ => True

namespace Daemon

/-! ## The condition on the steps -/

/-- The parked notification that `openSession` hands over, and the new session. -/
def handedOver (d : Daemon) (l : Label) : Option (Notification × SessionRef) :=
  match d.srv, l with
  | .openDrain _ ref _, .drain => d.notifications.head?.map fun front => (front, ref)
  | _, _ => none

/-- The id and the address of the session that is built. -/
def built (d : Daemon) (l : Label) : Option (UInt32 × UInt64) :=
  match l with
  | .reply _ host => (d.openAnswer l).map fun r => (r.value, host.addr)
  | _ => none

/-- A parked notification is handed over to the session it is for, and no session is
built at the address of a session that the IRQ thread has found, but under the id of
its notification. -/
def RoutesOwn (d : Daemon) (l : Label) : Prop :=
  (∀ p ∈ d.handedOver l, ∀ s ∈ d.sessionAt p.2, p.1.sessionId = s.sessionId) ∧
  ∀ b ∈ d.built l, ∀ p ∈ d.irq.target, b.2 = p.2.addr → b.1 = p.1.sessionId

-- the search is over the option, never over all pairs of machine words
instance (d : Daemon) (l : Label) : Decidable (RoutesOwn d l) :=
  @instDecidableAnd _ _ inferInstance (Option.decidableForallMem _)

/-! ## The invariant -/

/-- Every notification is with its session. -/
structure Routed (d : Daemon) : Prop where
  addresses : (d.trustletSessions.map fun s => s.addr).Nodup
  queued : ∀ s ∈ d.trustletSessions, ∀ n ∈ s.notifications, n.sessionId = s.sessionId
  written : ∀ e ∈ d.trace, e.Routed
  /-- A pointer of the IRQ thread leads to sessions of the id it was looked up by. -/
  held : ∀ p ∈ d.irq.target, p.2.ref < d.nextRef ∧
    ∀ s ∈ d.trustletSessions, s.ref = p.2.ref ∨ s.addr = p.2.addr →
      s.sessionId = p.1.sessionId

theorem init_routed : Routed init := by
  refine ⟨List.nodup_nil, ?_, ?_, ?_⟩
  · exact fun _ hs => absurd hs List.not_mem_nil
  · exact fun _ he => absurd he List.not_mem_nil
  · rintro p ⟨⟩

/-- The pointer of the IRQ thread leads to a session of its notification. -/
theorem Routed.resolve {d : Daemon} (hr : Routed d) {n : Notification} {ts : SessionPtr}
    (htarget : d.irq.target = some (n, ts)) {s : TrustletSession}
    (hs : d.resolve ts = some s) : s.sessionId = n.sessionId := by
  refine (hr.held (n, ts) htarget).2 s (resolve_mem hs) ?_
  unfold Daemon.resolve at hs
  cases hat : d.sessionAt ts.ref with
  | some session =>
      simp only [hat, Option.some.injEq] at hs
      exact Or.inl (hs ▸ (sessionAt_mem hat).2)
  | none =>
      simp only [hat] at hs
      exact Or.inr (KeyedList.mem_of_lookup hs).2

theorem SessionsChange.addresses {d t : Daemon} {l : Label} (h : SessionsChange d l t)
    (hd : (d.trustletSessions.map fun s => s.addr).Nodup) :
    (t.trustletSessions.map fun s => s.addr).Nodup := by
  cases h with
  | same hlist =>
      rw [hlist]
      exact hd
  | changed hid hrun hlist =>
      rw [hlist, KeyedList.map_update fun s => (hid s).2.1]
      exact hd
  | @pushed frame r host hl hopen haddr hlist =>
      rw [hlist, List.map_append, List.map_singleton, newSession_addr]
      refine List.nodup_append.mpr ⟨hd, List.nodup_singleton _, ?_⟩
      intro a ha b hb
      obtain ⟨s, hs, rfl⟩ := List.mem_map.mp ha
      rw [List.mem_singleton.mp hb]
      exact haddr s hs
  | deleted hremoved hlist =>
      rw [hlist]
      exact hd.sublist (List.eraseP_sublist.map _)

/-- A pointer that the IRQ thread keeps still leads to sessions of its notification. -/
theorem Routed.held_of_target {d t : Daemon} {l : Label} (hr : Routed d) (hw : WellFormed d)
    (hC : RoutesOwn d l) (h : Effect d l t) (htarget : t.irq.target = d.irq.target) :
    ∀ p ∈ t.irq.target, p.2.ref < t.nextRef ∧
      ∀ s ∈ t.trustletSessions, s.ref = p.2.ref ∨ s.addr = p.2.addr →
        s.sessionId = p.1.sessionId := by
  have hchange := effect_sessionsChange hw.distinct h
  rw [htarget]
  intro p hp
  obtain ⟨hlt, hids⟩ := hr.held p hp
  refine ⟨hlt.trans_le hchange.nextRef_le, fun s' hs' hsame => ?_⟩
  rcases hchange.origin s' hs' with ⟨s, hs, href, haddr, hid⟩ | ⟨frame, r, host, rfl, hopen, rfl⟩
  · rw [hid]
    exact hids s hs (hsame.imp (fun h => href ▸ h) fun h => haddr ▸ h)
  · rw [newSession_ref, newSession_addr] at hsame
    rw [newSession_sessionId]
    refine hC.2 (r.value, host.addr) (by simp [built, hopen]) p hp (hsame.resolve_left ?_)
    exact hlt.ne'

/-- The queues of `t` after one session has changed. -/
theorem queued_update {d t : Daemon} {ref : SessionRef} {f : TrustletSession → TrustletSession}
    (hqueued : ∀ s ∈ d.trustletSessions, ∀ n ∈ s.notifications, n.sessionId = s.sessionId)
    (hid : KeepsIdentity f)
    (hf : ∀ s ∈ d.trustletSessions, s.ref = ref →
      ∀ n ∈ (f s).notifications, n ∈ s.notifications ∨ n.sessionId = s.sessionId)
    (hlist : t.trustletSessions = KeyedList.update TrustletSession.ref ref f d.trustletSessions) :
    ∀ s ∈ t.trustletSessions, ∀ n ∈ s.notifications, n.sessionId = s.sessionId := by
  intro s' hs' n hn
  rw [hlist] at hs'
  rcases KeyedList.mem_update.mp hs' with ⟨s, hs, href, rfl⟩ | ⟨hs, -⟩
  · rw [(hid s).2.2.1]
    exact (hf s hs href n hn).elim (hqueued s hs n) id
  · exact hqueued s' hs n hn

theorem mem_queueNotification {n m : Notification} {s : TrustletSession}
    (h : m ∈ (s.queueNotification n).notifications) : m ∈ s.notifications ∨ m = n := by
  rcases TrustletSession.queueNotification_cases n s with hs | ⟨-, -, -, hs⟩ | ⟨-, -, hs⟩ <;>
    rw [hs] at h
  · exact Or.inl h
  · simpa using h
  · simpa using h

/-! ## Steps -/

theorem effect_queued {d t : Daemon} {l : Label} (hw : WellFormed d) (hr : Routed d)
    (hC : RoutesOwn d l) (h : Effect d l t) :
    ∀ s ∈ t.trustletSessions, ∀ n ∈ s.notifications, n.sessionId = s.sessionId := by
  have hq := hr.queued
  cases hl : d.notifies l with
  | false =>
      intro s' hs' n hn
      rcases effect_quietSessions hw h hl s' hs' with ⟨s, hs, hchange⟩ | ⟨frame, r, host, -, -, rfl⟩
      · rw [hchange.notifications_eq] at hn
        rw [hchange.sessionId_eq]
        exact hq s hs n hn
      · rw [newSession_notifications] at hn
        exact absurd hn List.not_mem_nil
  | true =>
      cases h with
      | nqConnected =>
          exact queued_update hq (keepsIdentity_connect _) (fun _ _ _ _ hn => Or.inl hn) rfl
      | @drainedFront conn ref rsp front rest hpc hqueue =>
          refine queued_update hq (keepsIdentity_queueNotification front) ?_ rfl
          intro s hs href n hn
          refine (mem_queueNotification hn).imp_right ?_
          rintro rfl
          have hover : d.handedOver .drain = some (n, ref) := by
            simp [handedOver, hpc, hqueue]
          exact hC.1 _ hover s (href ▸ sessionAt_of_mem hw.distinct hs)
      | flushedFront =>
          exact queued_update hq keepsIdentity_popNotification
            (fun _ _ _ _ hn => Or.inl (List.mem_of_mem_tail hn)) rfl
      | @stored n ts session hpc hsome =>
          refine queued_update hq (keepsIdentity_queueNotification n) ?_ rfl
          intro s hs href m hm
          refine (mem_queueNotification hm).imp_right ?_
          rintro rfl
          obtain rfl := eq_of_ref_eq hw.distinct hs (resolve_mem hsome) href
          exact (hr.resolve (target_of_locked hpc) hsome).symm
      | nqRefused | drainDone | nqAnswered | flushDone | receivedUnknown | receivedFound | parked
      | lockLost | locked | deliverLost | forwarded => exact hq
      | refused hidle hpeer hcode hnotify hnq =>
          rw [notifies_of_refused hnq] at hl
          cases hl
      | closeRefused hcall | closeSent hcall | closeSentGp hcall => cases hcall <;> cases hl
      | openRefused _ _ hcmd | openLeaked _ _ hcmd | openSent _ _ hcmd | openSentTci _ _ hcmd =>
          cases hcmd <;> cases hl
      | _ => cases hl

theorem effect_written {d t : Daemon} {l : Label} (hc : ConnectionsHeld d) (hr : Routed d)
    (h : Effect d l t) : ∀ e ∈ t.trace, e.Routed := by
  have hold := hr.written
  cases hl : d.notifies l with
  | false =>
      intro e he
      cases hnoted : e.noted none with
      | false => cases e <;> trivial
      | true =>
          have hmem : e ∈ t.trace.filter (Event.noted none) := List.mem_filter.mpr ⟨he, hnoted⟩
          rw [effect_quiet hc h hl (by simp)] at hmem
          exact hold e (List.mem_filter.mp hmem).1
  | true =>
      have haccess : ∀ {n ts e}, e ∈ (d.access n ts).trace → e.Routed := by
        intro n ts e he
        rw [access_trace] at he
        rcases List.mem_append.mp he with he | he
        · exact hold e he
        · split at he
          · rw [List.mem_singleton.mp he]
            trivial
          · exact absurd he List.not_mem_nil
      have hadd : ∀ {trace : List Event} {e' : Event}, (∀ e ∈ trace, e.Routed) → e'.Routed →
          ∀ e ∈ trace ++ [e'], e.Routed := by
        intro trace e' htrace he' e he
        rcases List.mem_append.mp he with he | he
        · exact htrace e he
        · exact List.mem_singleton.mp he ▸ he'
      cases h with
      | drainDone | flushDone => exact hold
      | nqRefused | nqConnected | nqAnswered | drainedFront | receivedUnknown | receivedFound
      | parked => exact hadd hold trivial
      | @flushedFront ref session conn front rest hpc hat hconn hqueue =>
          exact hadd hold (hr.queued session (sessionAt_mem hat).1 front (by simp [hqueue]))
      | lockLost | locked | deliverLost => exact fun _ => haccess
      | stored => exact hadd (fun _ => haccess) trivial
      | @forwarded n ts conn session hpc hsome =>
          exact hadd (fun _ => haccess) (hr.resolve (target_of_locked hpc) hsome).symm
      | refused hidle hpeer hcode hnotify hnq =>
          rw [notifies_of_refused hnq] at hl
          cases hl
      | closeRefused hcall | closeSent hcall | closeSentGp hcall => cases hcall <;> cases hl
      | openRefused _ _ hcmd | openLeaked _ _ hcmd | openSent _ _ hcmd | openSentTci _ _ hcmd =>
          cases hcmd <;> cases hl
      | _ => cases hl

/-- A step that hands notifications only to their own session keeps the invariant. -/
theorem effect_routed {d t : Daemon} {l : Label} (hw : WellFormed d) (hc : ConnectionsHeld d)
    (hr : Routed d) (hC : RoutesOwn d l) (h : Effect d l t) : Routed t := by
  have hchange := effect_sessionsChange hw.distinct h
  refine ⟨hchange.addresses hr.addresses, effect_queued hw hr hC h, effect_written hc hr h, ?_⟩
  have hkeep := hr.held_of_target hw hC h
  cases hirq : l.byIrq with
  | false => exact hkeep (by rw [effect_irq_eq h hirq])
  | true =>
      cases h with
      | @receivedFound n ts hidle hsome =>
          obtain ⟨hmem, hid⟩ := getTrustletSession_mem hsome
          rintro p ⟨⟩
          refine ⟨hw.numbered ts hmem, fun s hs hsame => ?_⟩
          rcases hsame with href | haddr
          · exact eq_of_ref_eq hw.distinct hs hmem href ▸ hid
          · exact List.inj_on_of_nodup_map hr.addresses hs hmem haddr ▸ hid
      | locked hpc =>
          refine hkeep ?_
          rw [hpc]
          rfl
      | receivedUnknown | parked | lockLost | deliverLost | stored | forwarded => rintro p ⟨⟩
      | closeRefused hcall | closeSent hcall | closeSentGp hcall => cases hcall <;> cases hirq
      | _ => cases hirq

/-! ## Runs -/

/-- A client opens a session, which gets id 10; before it is listed, a notification is
parked. -/
def parkedWhileOpening (sessionId : UInt32) : List Label :=
  clientLabels 1 ++
    [.command 1 (.openSession { tci := 0, handle := 0, len := 0 } (blobAnswers 0 0)),
      .irqReceive ⟨sessionId, 3⟩, .irqPark,
      .reply (successReply mcMcpCmdOpenSession 10) (hostAt 0x200), .drain, .drain,
      .unregister true]

end Daemon

end Exynos8890.MobiCore
