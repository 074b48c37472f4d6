import Exynos8890.MobiCore.DriverDaemon.Connections

/-!
# Owners of the connection objects

Which connection objects have an owner, the list of the server or a session, over all
interleavings of the daemon.

Main results:

- Theorem `step_hasOwners`: every step keeps the owners but an NQ connect that detaches its
  connection and does not give it to a session without one.
- Theorem `hasOwners_run`: every connection object has an owner, over runs without such an
  NQ connect.
-/

namespace Exynos8890.MobiCore

namespace Daemon

/-! ## Owners -/

/-- The connection is the notification connection of a session. -/
def HeldBySession (d : Daemon) (c : ConnPtr) : Prop :=
  ∃ s ∈ d.trustletSessions, s.notificationConnection = some c

/-- Every connection object has an owner. -/
def HasOwners (d : Daemon) : Prop :=
  ∀ c ∈ d.connections, c ∈ d.peerConnections ∨ d.HeldBySession c

/-- An NQ connect detaches its connection only when it finds a session without a
notification connection. -/
def NqKeeps (d : Daemon) : Label → Prop
  | .command conn (.nqConnect cmd) =>
      conn ∈ d.opened ∨ (hasDevice cmd.deviceId = true ∧
        ∃ session ∈ d.findTrustletConnection cmd, session.notificationConnection = none)
  | _ => True

/-- The notification connections of `d` but `gone` are still those of listed sessions. -/
def HeldStays (gone : Option ConnPtr) (d t : Daemon) : Prop :=
  ∀ c, some c ≠ gone → d.HeldBySession c → t.HeldBySession c

theorem HeldStays.of_list_eq {d t : Daemon} (gone : Option ConnPtr)
    (h : t.trustletSessions = d.trustletSessions) : HeldStays gone d t := by
  intro c _ hheld
  unfold HeldBySession
  rw [h]
  exact hheld

theorem HeldStays.of_update {d t : Daemon} (gone : Option ConnPtr) {ref : SessionRef}
    {f : TrustletSession → TrustletSession}
    (h : t.trustletSessions = KeyedList.update TrustletSession.ref ref f d.trustletSessions)
    (hf : ∀ s, (f s).notificationConnection = s.notificationConnection) :
    HeldStays gone d t := by
  rintro c _ ⟨s, hs, hc⟩
  unfold HeldBySession
  rw [h]
  by_cases href : s.ref = ref
  · refine ⟨f s, KeyedList.mem_update.mpr (Or.inl ⟨s, hs, href, rfl⟩), ?_⟩
    rw [hf]
    exact hc
  · exact ⟨s, KeyedList.mem_update.mpr (Or.inr ⟨hs, href⟩), hc⟩

theorem HasOwners.of_frame {d t : Daemon} (ho : HasOwners d) (hconns : t.connections = d.connections)
    (hpeers : t.peerConnections = d.peerConnections) (hstays : HeldStays none d t) :
    HasOwners t := by
  intro c hc
  rw [hconns] at hc
  rw [hpeers]
  rcases ho c hc with hpeer | hheld
  · exact Or.inl hpeer
  · exact Or.inr (hstays c (Option.some_ne_none c) hheld)

theorem HasOwners.of_deleteConnection {d t : Daemon} (ho : HasOwners d) {gone : Option ConnPtr}
    (hconns : t.connections = d.connections.filter fun conn => some conn ≠ gone)
    (hpeers : t.peerConnections = d.peerConnections) (hstays : HeldStays gone d t) :
    HasOwners t := by
  intro c hc
  rw [hconns, List.mem_filter] at hc
  rw [hpeers]
  rcases ho c hc.1 with hpeer | hheld
  · exact Or.inl hpeer
  · exact Or.inr (hstays c (by simpa using hc.2) hheld)

theorem HasOwners.forget {d t : Daemon} (ho : HasOwners d) {conn : ConnPtr}
    (hconns : t.connections = d.connections.filter fun c => c ≠ conn)
    (hpeers : t.peerConnections = d.peerConnections.erase conn)
    (hlist : t.trustletSessions = d.trustletSessions) : HasOwners t := by
  intro c hc
  rw [hconns, List.mem_filter] at hc
  have hne : c ≠ conn := by simpa using hc.2
  rw [hpeers, List.mem_erase_of_ne hne]
  rcases ho c hc.1 with hpeer | hheld
  · exact Or.inl hpeer
  · exact Or.inr (HeldStays.of_list_eq none hlist c (Option.some_ne_none c) hheld)

/-- Deleting a session leaves the connections of the others. -/
theorem heldStays_delete {d t : Daemon} (hw : WellFormed d) {session : TrustletSession}
    (hmem : session ∈ d.trustletSessions)
    (h : t.trustletSessions = KeyedList.delete TrustletSession.ref session.ref d.trustletSessions) :
    HeldStays session.notificationConnection d t := by
  rintro c hne ⟨s, hs, hc⟩
  unfold HeldBySession
  rw [h]
  refine ⟨s, (KeyedList.mem_delete hw.distinct).mpr ⟨hs, ?_⟩, hc⟩
  intro href
  rw [eq_of_ref_eq hw.distinct hs hmem href] at hc
  exact hne hc.symm

/-- Disconnecting a session leaves the connections of the others. -/
theorem heldStays_disconnect {d t : Daemon} (hw : WellFormed d) {session : TrustletSession}
    (hmem : session ∈ d.trustletSessions)
    (h : t.trustletSessions = KeyedList.update TrustletSession.ref session.ref
      TrustletSession.disconnect d.trustletSessions) :
    HeldStays session.notificationConnection d t := by
  rintro c hne ⟨s, hs, hc⟩
  unfold HeldBySession
  rw [h]
  refine ⟨s, KeyedList.mem_update.mpr (Or.inr ⟨hs, ?_⟩), hc⟩
  intro href
  rw [eq_of_ref_eq hw.distinct hs hmem href] at hc
  exact hne hc.symm

theorem effect_hasOwners {d t : Daemon} {l : Label} (hw : WellFormed d) (ho : HasOwners d)
    (h : Effect d l t) (hl : ∀ conn cmd, l ≠ .command conn (.nqConnect cmd)) : HasOwners t := by
  cases h with
  | @accepted conn hnew =>
      intro c hc
      rcases List.mem_cons.mp hc with rfl | hc
      · exact Or.inl List.mem_cons_self
      · rcases ho c hc with hpeer | hheld
        · exact Or.inl (List.mem_cons_of_mem _ hpeer)
        · exact Or.inr hheld
  | nqRefused | nqConnected => exact absurd rfl (hl _ _)
  | closeRefused hcall => cases hcall <;> exact ho.of_frame rfl rfl (.of_list_eq none rfl)
  | closeSent hcall => cases hcall <;> exact ho.of_frame rfl rfl (.of_list_eq none rfl)
  | @closeSentGp _ d₀ conn sessionId caller session hcall hsome hgp hmutex =>
      have hmem := (findSession_spec hsome).1
      cases hcall <;> exact ho.of_deleteConnection rfl rfl (heldStays_disconnect hw hmem rfl)
  | dropped => exact ho.forget rfl rfl rfl
  | @loopFinished conn erased dropping crash hpc hwhy =>
      cases dropping with
      | true => exact ho.forget rfl rfl rfl
      | false => exact ho.of_frame rfl rfl (.of_list_eq none rfl)
  | @closeDone conn sessionId ref caller session r host hpc hat hret =>
      exact ho.of_deleteConnection rfl rfl (heldStays_delete hw (sessionAt_mem hat).1 rfl)
  | @reaped ref rest ts r host hpc hat hret =>
      exact ho.of_deleteConnection rfl rfl (heldStays_delete hw (sessionAt_mem hat).1 rfl)
  | mapSent | unmapSucceeded | flushedFront =>
      exact ho.of_frame rfl rfl (.of_update none rfl fun _ => rfl)
  | drainedFront | stored =>
      exact ho.of_frame rfl rfl (.of_update none rfl (by simp))
  | openSucceeded hpc hret haddr =>
      refine ho.of_frame rfl rfl ?_
      rintro c _ ⟨s, hs, hc⟩
      exact ⟨s, List.mem_append_left _ hs, hc⟩
  | notifyIgnored => exact ho
  | _ => exact ho.of_frame rfl rfl (.of_list_eq none rfl)

/-- A connection that is registered with a session without one goes from the list to the
session. -/
theorem hasOwners_registered {d : Daemon} (hw : WellFormed d) (ho : HasOwners d) {conn : ConnPtr}
    {session : TrustletSession} (hmem : session ∈ d.trustletSessions)
    (hnone : session.notificationConnection = none) :
    (({ d with peerConnections := d.peerConnections.erase conn
        }.registerTrustletConnection conn session).goto (.nqRegistered conn session.ref)).HasOwners := by
  intro c hc
  by_cases heq : c = conn
  · right
    rw [heq]
    exact ⟨TrustletSession.connect conn session,
      KeyedList.mem_update.mpr (Or.inl ⟨session, hmem, rfl, rfl⟩), rfl⟩
  · rcases ho c hc with hpeer | ⟨s, hs, hheld⟩
    · left
      exact (List.mem_erase_of_ne heq).mpr hpeer
    · right
      refine ⟨s, KeyedList.mem_update.mpr (Or.inr ⟨hs, ?_⟩), hheld⟩
      intro href
      rw [eq_of_ref_eq hw.distinct hs hmem href, hnone] at hheld
      cases hheld

theorem step_hasOwners {d t : Daemon} {l : Label} (hw : WellFormed d) (ho : HasOwners d)
    (hkeeps : NqKeeps d l) (h : system.step d l = some t) : HasOwners t := by
  by_cases hnq : ∃ conn cmd, l = .command conn (.nqConnect cmd)
  · obtain ⟨conn, cmd, rfl⟩ := hnq
    have hprocess : t = d.processNqConnect conn cmd := by
      simp only [system, step, process] at h
      split at h
      · exact (Option.some.inj h).symm
      · cases h
    rw [hprocess]
    by_cases hopen : conn ∈ d.opened
    · rw [processNqConnect, if_pos hopen]
      exact ho.of_frame rfl rfl (.of_list_eq none rfl)
    · obtain ⟨hdevice, session, hfind, hnone⟩ := hkeeps.resolve_left hopen
      have hmem : session ∈ d.trustletSessions := List.mem_of_find?_eq_some hfind
      have hfound : ({ d with peerConnections := d.peerConnections.erase conn
          }).findTrustletConnection cmd = some session := hfind
      simp only [processNqConnect, if_neg hopen, hdevice, Bool.true_eq_false, if_false, hfound]
      exact hasOwners_registered hw ho hmem hnone
  · apply effect_hasOwners hw ho (step_effect h)
    intro conn cmd heq
    exact hnq ⟨conn, cmd, heq⟩

theorem init_hasOwners : HasOwners init :=
  fun _ hc => absurd hc List.not_mem_nil

/-- Every connection object has an owner, when every NQ connect that detaches its connection
finds a session without a notification connection. -/
theorem hasOwners_run {ls : List Label} {d : Daemon} (hkeeps : system.StepsMeet NqKeeps init ls)
    (h : system.run init ls = some d) : HasOwners d :=
  (run_rule (fun _ _ _ hw _ ho hkeeps hstep => step_hasOwners hw ho hkeeps hstep)
    init_wellFormed init_connectionsHeld init_hasOwners hkeeps h).2.2

end Daemon

end Exynos8890.MobiCore
