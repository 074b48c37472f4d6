import Exynos8890.MobiCore.DriverDaemon.ConnectionOwners
import Exynos8890.MobiCore.DriverDaemon.Server

/-!
# Rounds of the server

What one round of `select` does to the ready connections and to the list of the server,
whatever the commands are and whatever the other threads do in between.

Main results:

- Theorem `step_served`: an iterator always leads through the rest of the list, and what
  is left of a round are the ready connections behind it.
- Theorem `served_run`: a round hands every ready connection to the handler once.
- Theorem `connectionOwnership_run`: every connection has one owner and no iterator is
  advanced from an erased node, over runs without an NQ connect on a new connection.
-/

namespace Exynos8890.MobiCore

namespace Server

open Daemon (ConnectionsHeld HasOwners NqKeeps)

/-! ## The list under its iterators -/

/-- The nodes behind a connection stay the end of the list when the connection is erased. -/
theorem suffix_erase {l next : List ConnPtr} {c : ConnPtr} (hl : l.Nodup)
    (hnext : c :: next <:+ l.reverse) :
    c ∉ (l.erase c).reverse ∧ next <:+ (l.erase c).reverse := by
  obtain ⟨front, hfront⟩ := hnext
  have hnodup : l.reverse.Nodup := List.nodup_reverse.mpr hl
  have herase : (l.erase c).reverse = l.reverse.erase c := by
    rw [hl.erase_eq_filter, hnodup.erase_eq_filter, List.filter_reverse]
  rw [← hfront] at hnodup herase
  have hnot : c ∉ front := by
    intro hmem
    exact (List.nodup_append.mp hnodup).2.2 c hmem c List.mem_cons_self rfl
  rw [List.erase_append_right _ hnot, List.erase_cons_head] at herase
  constructor
  · rw [List.mem_reverse]
    exact hl.not_mem_erase
  · rw [herase]
    exact List.suffix_append front next

/-- The ready connections among these. -/
def readyIn (s : Server) (iterator : List ConnPtr) : List ConnPtr :=
  iterator.filter fun c => c ∈ s.ready

/-- The connections that were handled and the ready ones from the iterator on are the ready
ones of the round, and `numSockets` counts those that are left. -/
def Left (s : Server) (iterator : List ConnPtr) (numSockets : Nat) : Prop :=
  (s.handled ++ s.readyIn iterator).Perm s.ready ∧ (s.readyIn iterator).length = numSockets

/-- The nodes behind the one of this connection, which may have been erased. -/
def Behind (s : Server) (connection : ConnPtr) (next : List ConnPtr) : Prop :=
  connection :: next <:+ s.peerConnections ∨
    (connection ∉ s.peerConnections ∧ next <:+ s.peerConnections)

/-- Where a round stands. -/
def RoundAt (s : Server) : Prop :=
  match s.pc with
  | .select => s.handled.Perm s.ready
  | .accepting numSockets =>
      s.handled = [] ∧ numSockets = s.ready.length + 1 ∧ ∀ c ∈ s.ready, c ∈ s.peerConnections
  | .loop iterator numSockets => s.Left iterator numSockets ∧ iterator <:+ s.peerConnections
  | .handling connection next numSockets => s.Left next numSockets ∧ s.Behind connection next
  | .dropping connection next numSockets => s.Left next numSockets ∧ s.Behind connection next
  | .exited => s.handled.Subperm s.ready

/-- What holds of the server in every state. -/
structure Served (s : Server) : Prop where
  ready : s.ready.Nodup
  round : s.RoundAt
  dropping : ∀ c, droppingConn s.daemon.srv = some c →
    ∃ next numSockets, s.pc = .dropping c next numSockets

/-- At its beginning, a round has all ready connections before it. -/
theorem left_begin {s : Server} (hpeers : s.peerConnections.Nodup) (hready : s.ready.Nodup)
    (hlisted : ∀ c ∈ s.ready, c ∈ s.peerConnections) (hhandled : s.handled = []) :
    s.Left s.peerConnections s.ready.length := by
  have hperm : (s.readyIn s.peerConnections).Perm s.ready := by
    apply (List.perm_ext_iff_of_nodup (hpeers.filter _) hready).mpr
    intro c
    rw [List.mem_filter, decide_eq_true_eq]
    exact ⟨fun h => h.2, fun h => ⟨hlisted c h, h⟩⟩
  constructor
  · rw [hhandled]
    exact hperm
  · exact hperm.length_eq

theorem Left.skip {s : Server} {connection : ConnPtr} {next : List ConnPtr} {numSockets : Nat}
    (h : s.Left (connection :: next) numSockets) (hnot : connection ∉ s.ready) :
    s.Left next numSockets := by
  have hrest : s.readyIn (connection :: next) = s.readyIn next :=
    List.filter_cons_of_neg (by simpa using hnot)
  unfold Left at h ⊢
  rwa [hrest] at h

theorem Left.handle {s : Server} {connection : ConnPtr} {next : List ConnPtr} {numSockets : Nat}
    (h : s.Left (connection :: next) (numSockets + 1)) (hready : connection ∈ s.ready)
    (pc : ServerLoop) (d : Daemon) : (s.handle connection pc d).Left next numSockets := by
  have hrest : s.readyIn (connection :: next) = connection :: s.readyIn next :=
    List.filter_cons_of_pos (by simpa using hready)
  obtain ⟨hperm, hlength⟩ := h
  rw [hrest] at hperm hlength
  constructor
  · have happend : (s.handled ++ [connection]) ++ s.readyIn next =
        s.handled ++ connection :: s.readyIn next := List.append_cons _ _ _ ▸ rfl
    show ((s.handled ++ [connection]) ++ s.readyIn next).Perm s.ready
    rw [happend]
    exact hperm
  · exact Nat.succ.inj hlength

theorem Left.finished {s : Server} {iterator : List ConnPtr} {numSockets : Nat}
    (h : s.Left iterator numSockets) (hend : iterator = [] ∨ numSockets = 0) :
    s.handled.Perm s.ready := by
  have hnone : s.readyIn iterator = [] := by
    rcases hend with hnil | hzero
    · rw [hnil]
      rfl
    · exact List.length_eq_zero_iff.mp (h.2.trans hzero)
  have hperm := h.1
  rwa [hnone, List.append_nil] at hperm

theorem current_eq_some {s : Server} {connection : ConnPtr} {next : List ConnPtr}
    {numSockets : Nat} (h : s.current = some (connection, next, numSockets)) :
    s.pc = .loop (connection :: next) (numSockets + 1) ∧ connection ∈ s.ready := by
  unfold current at h
  split at h
  · next hpc =>
      split at h
      · next hready =>
          cases h
          exact ⟨hpc, hready⟩
      · cases h
  · cases h

/-! ## The steps of a round -/

/-- The daemon drops a connection only while the server waits for it. -/
theorem Served.free {s : Server} (hs : Served s) {pc : ServerLoop} (hpc : s.pc = pc)
    (hother : ∀ c next numSockets, pc ≠ .dropping c next numSockets) (c : ConnPtr) :
    droppingConn s.daemon.srv ≠ some c := by
  intro hdropping
  obtain ⟨next, numSockets, heq⟩ := hs.dropping c hdropping
  exact hother c next numSockets (hpc.symm.trans heq)

theorem nodup_peerConnections {s : Server} (hc : ConnectionsHeld s.daemon) :
    s.peerConnections.Nodup :=
  List.nodup_reverse.mpr hc.peersNodup

theorem select_served {s t : Server} {ready : List ConnPtr} {serverSock : Bool} (hs : Served s)
    (hc : ConnectionsHeld s.daemon) (h : s.select ready serverSock = some t) : Served t := by
  unfold select at h
  split at h
  · next hguard =>
      obtain ⟨hselect, hready, hlisted⟩ := hguard
      have hfree := hs.free hselect fun _ _ _ => ServerLoop.noConfusion
      split at h
      · cases h
        exact ⟨hready, ⟨rfl, rfl, hlisted⟩, fun c hd => absurd hd (hfree c)⟩
      · split at h
        · next hempty =>
            cases h
            refine ⟨hready, ?_, fun c hd => absurd hd (hfree c)⟩
            rw [RoundAt, hselect, hempty]
        · cases h
          refine ⟨hready, ⟨?_, List.suffix_rfl⟩, fun c hd => absurd hd (hfree c)⟩
          exact left_begin (s := { s with ready := ready, handled := [] })
            (nodup_peerConnections hc) hready hlisted rfl
  · cases h

theorem accept_served {s t : Server} {conn : Option ConnPtr} (hs : Served s)
    (hc : ConnectionsHeld t.daemon) (h : s.accept conn = some t) : Served t := by
  have hround := hs.round
  unfold accept at h
  split at h
  · next numSockets hpc =>
      rw [RoundAt, hpc] at hround
      obtain ⟨hhandled, hcount, hlisted⟩ := hround
      have hfree := hs.free hpc fun _ _ _ => ServerLoop.noConfusion
      have hready : numSockets - 1 = s.ready.length := by
        omega
      cases conn with
      | none =>
          cases h
          rw [hready]
          refine ⟨hs.ready, ⟨?_, List.suffix_rfl⟩, fun c hd => absurd hd (hfree c)⟩
          exact left_begin (s := s) (nodup_peerConnections hc) hs.ready hlisted hhandled
      | some conn =>
          obtain ⟨d, hd, rfl⟩ := Option.map_eq_some_iff.mp h
          have haccepted : d.peerConnections = conn :: s.daemon.peerConnections ∧
              d.srv = s.daemon.srv := by
            unfold Daemon.accept at hd
            split at hd
            · cases hd
            · cases hd
              exact ⟨rfl, rfl⟩
          rw [hready]
          refine ⟨hs.ready, ⟨?_, List.suffix_rfl⟩, ?_⟩
          · apply left_begin (s := { s with daemon := d }) (nodup_peerConnections hc) hs.ready _
              hhandled
            intro c hmem
            rw [peerConnections, haccepted.1, List.reverse_cons]
            exact List.mem_append_left _ (hlisted c hmem)
          · intro c hdrop
            have hsrv : droppingConn d.srv = some c := hdrop
            rw [haccepted.2] at hsrv
            exact absurd hsrv (hfree c)
  · cases h

theorem iterate_served {s t : Server} (hs : Served s) (h : s.iterate = some t) : Served t := by
  have hround := hs.round
  unfold iterate at h
  split at h
  · next iterator numSockets hpc =>
      rw [RoundAt, hpc] at hround
      obtain ⟨hleft, hsuffix⟩ := hround
      have hfree := hs.free hpc fun _ _ _ => ServerLoop.noConfusion
      split at h
      · cases h
        exact ⟨hs.ready, hleft.finished (Or.inl rfl), fun c hd => absurd hd (hfree c)⟩
      · next connection next =>
          split at h
          · next hzero =>
              cases h
              exact ⟨hs.ready, hleft.finished (Or.inr hzero), fun c hd => absurd hd (hfree c)⟩
          · split at h
            · cases h
            · next hnot =>
                cases h
                refine ⟨hs.ready, ⟨hleft.skip hnot, ?_⟩, fun c hd => absurd hd (hfree c)⟩
                exact (List.suffix_cons connection next).trans hsuffix
  · cases h

/-- What a command does to the list: only an NQ connect of a connection that has not opened
the device takes it off. -/
theorem effect_peers_command {d t : Daemon} {conn : ConnPtr} {cmd : Command}
    (h : Daemon.Effect d (.command conn cmd) t) :
    (t.peerConnections = d.peerConnections ∨
      ((∃ nq, cmd = .nqConnect nq) ∧ conn ∉ d.opened ∧
        t.peerConnections = d.peerConnections.erase conn)) ∧
    droppingConn t.srv = none := by
  cases h with
  | nqRefused hidle hpeer hclosed hcode => exact ⟨Or.inr ⟨⟨_, rfl⟩, hclosed, rfl⟩, rfl⟩
  | nqConnected hidle hpeer hclosed hfind => exact ⟨Or.inr ⟨⟨_, rfl⟩, hclosed, rfl⟩, rfl⟩
  | closeRefused hcall => cases hcall; exact ⟨Or.inl rfl, rfl⟩
  | closeSent hcall => cases hcall; exact ⟨Or.inl rfl, rfl⟩
  | closeSentGp hcall => cases hcall; exact ⟨Or.inl rfl, rfl⟩
  | notifyIgnored hidle | notifySent hidle =>
      refine ⟨Or.inl rfl, ?_⟩
      simp only [Daemon.emit_srv, hidle]
      rfl
  | _ => exact ⟨Or.inl rfl, rfl⟩

theorem effect_peers_drop {d t : Daemon} {conn : ConnPtr} (h : Daemon.Effect d (.drop conn) t) :
    (t.peerConnections = d.peerConnections ∨
      t.peerConnections = d.peerConnections.erase conn) ∧
    ∀ c, droppingConn t.srv = some c → c = conn := by
  cases h with
  | closeRefused hcall | closeSent hcall | closeSentGp hcall => cases hcall
  | dropped => exact ⟨Or.inr rfl, fun c hc => by cases hc⟩
  | dropping =>
      refine ⟨Or.inl rfl, ?_⟩
      rintro c ⟨⟩
      rfl

/-- The connection that is to be handled, with what is left of the round. -/
theorem Served.current {s : Server} (hs : Served s) {connection : ConnPtr} {next : List ConnPtr}
    {numSockets : Nat} (h : s.current = some (connection, next, numSockets)) :
    connection ∈ s.ready ∧ s.Left (connection :: next) (numSockets + 1) ∧
      connection :: next <:+ s.peerConnections ∧
      ∀ c, droppingConn s.daemon.srv ≠ some c := by
  obtain ⟨hpc, hready⟩ := current_eq_some h
  have hround := hs.round
  rw [RoundAt, hpc] at hround
  exact ⟨hready, hround.1, hround.2, hs.free hpc fun _ _ _ => ServerLoop.noConfusion⟩

/-- The nodes behind a connection when the daemon has kept it or taken it off the list. -/
theorem behind_of_peers {s : Server} {connection : ConnPtr} {next : List ConnPtr} {d : Daemon}
    (hc : ConnectionsHeld s.daemon) (hbehind : connection :: next <:+ s.peerConnections)
    (hpeers : d.peerConnections = s.daemon.peerConnections ∨
      d.peerConnections = s.daemon.peerConnections.erase connection) (pc : ServerLoop) :
    (s.handle connection pc d).Behind connection next := by
  rcases hpeers with hsame | herased
  · left
    show connection :: next <:+ d.peerConnections.reverse
    rw [hsame]
    exact hbehind
  · right
    show connection ∉ d.peerConnections.reverse ∧ next <:+ d.peerConnections.reverse
    rw [herased]
    exact suffix_erase hc.peersNodup hbehind

theorem command_served {s t : Server} {cmd : Command} (hs : Served s)
    (hc : ConnectionsHeld s.daemon) (h : s.command cmd = some t) : Served t := by
  unfold command at h
  split at h
  · cases h
  · next connection next numSockets hcurrent =>
      obtain ⟨hready, hleft, hsuffix, hfree⟩ := hs.current hcurrent
      obtain ⟨d, hd, rfl⟩ := Option.map_eq_some_iff.mp h
      obtain ⟨hpeers, hnone⟩ := effect_peers_command (Daemon.step_effect hd)
      refine ⟨hs.ready, ⟨hleft.handle hready _ d, ?_⟩, ?_⟩
      · apply behind_of_peers hc hsuffix
        rcases hpeers with hsame | ⟨_, _, herased⟩
        · exact Or.inl hsame
        · exact Or.inr herased
      · intro c hdropping
        have hsome : droppingConn d.srv = some c := hdropping
        rw [hnone] at hsome
        cases hsome

theorem ignore_served {s t : Server} (hs : Served s) (hc : ConnectionsHeld s.daemon)
    (h : s.ignore = some t) : Served t := by
  unfold ignore at h
  split at h
  · cases h
  · next connection next numSockets hcurrent =>
      obtain ⟨hready, hleft, hsuffix, hfree⟩ := hs.current hcurrent
      cases h
      refine ⟨hs.ready, ⟨hleft.handle hready _ s.daemon, ?_⟩, fun c hd => absurd hd (hfree c)⟩
      exact behind_of_peers hc hsuffix (Or.inl rfl) _

theorem fail_served {s t : Server} (hs : Served s) (hc : ConnectionsHeld s.daemon)
    (h : s.fail = some t) : Served t := by
  unfold fail at h
  split at h
  · cases h
  · next connection next numSockets hcurrent =>
      obtain ⟨hready, hleft, hsuffix, hfree⟩ := hs.current hcurrent
      obtain ⟨d, hd, rfl⟩ := Option.map_eq_some_iff.mp h
      obtain ⟨hpeers, hconn⟩ := effect_peers_drop (Daemon.step_effect hd)
      refine ⟨hs.ready, ⟨hleft.handle hready _ d, behind_of_peers hc hsuffix hpeers _⟩, ?_⟩
      intro c hdropping
      rw [hconn c hdropping]
      exact ⟨next, numSockets, rfl⟩

/-- Behind the handler, the iterator leads to the next node whether or not its own is erased. -/
theorem Behind.suffix {s : Server} {connection : ConnPtr} {next : List ConnPtr}
    (h : s.Behind connection next) : next <:+ s.peerConnections := by
  rcases h with hsuffix | ⟨_, hsuffix⟩
  · exact (List.suffix_cons connection next).trans hsuffix
  · exact hsuffix

theorem advance_served {s t : Server} {crash : Bool} (hs : Served s)
    (h : s.advance crash = some t) : Served t := by
  have hround := hs.round
  unfold advance at h
  split at h
  · next connection next numSockets hpc =>
      rw [RoundAt, hpc] at hround
      obtain ⟨hleft, hbehind⟩ := hround
      have hfree := hs.free hpc fun _ _ _ => ServerLoop.noConfusion
      split at h
      · cases h
      · split at h
        · cases h
          exact ⟨hs.ready, ⟨hleft, hbehind.suffix⟩, fun c hd => absurd hd (hfree c)⟩
        · cases crash with
          | true =>
              cases h
              refine ⟨hs.ready, ?_, fun c hd => absurd hd (hfree c)⟩
              exact (List.sublist_append_left s.handled _).subperm.trans hleft.1.subperm
          | false =>
              cases h
              exact ⟨hs.ready, ⟨hleft, hbehind.suffix⟩, fun c hd => absurd hd (hfree c)⟩
  · cases h

theorem mem_of_droppingConn {d : Daemon} (hc : ConnectionsHeld d) {c : ConnPtr}
    (h : droppingConn d.srv = some c) : c ∈ d.peerConnections := by
  apply hc.openedPeer
  apply hc.served
  unfold droppingConn at h
  split at h
  · next hpc =>
      cases h
      rw [hpc]
      rfl
  · next hpc =>
      cases h
      rw [hpc]
      rfl
  · next hpc =>
      cases h
      rw [hpc]
      rfl
  · cases h

theorem erase_served {s t : Server} (hs : Served s) (hc : ConnectionsHeld s.daemon)
    (h : s.erase = some t) : Served t := by
  have hround := hs.round
  unfold erase at h
  split at h
  · next connection next numSockets hpc =>
      rw [RoundAt, hpc] at hround
      obtain ⟨hleft, hbehind⟩ := hround
      split at h
      · cases h
      · next hgone =>
          cases h
          refine ⟨hs.ready, ⟨hleft, hbehind.suffix⟩, ?_⟩
          intro c hdropping
          obtain ⟨next', numSockets', heq⟩ := hs.dropping c hdropping
          rw [hpc] at heq
          cases heq
          exact absurd (List.mem_reverse.mpr (mem_of_droppingConn hc hdropping)) hgone
  · cases h

/-- Where a round stands depends on the daemon only through the list. -/
theorem RoundAt.of_peers {s : Server} {d : Daemon} (h : s.RoundAt)
    (hpeers : d.peerConnections = s.daemon.peerConnections) : { s with daemon := d }.RoundAt := by
  have hlist : { s with daemon := d }.peerConnections = s.peerConnections := by
    rw [peerConnections, hpeers, peerConnections]
  simp only [RoundAt, Left, Behind, readyIn, hlist] at h ⊢
  exact h

theorem daemon_served {s t : Server} {l : Daemon.Label} (hs : Served s)
    (hc : ConnectionsHeld s.daemon) (h : step s (.daemon l) = some t) : Served t := by
  simp only [step] at h
  split at h
  · cases h
  · next hloop =>
      obtain ⟨d, hd, rfl⟩ := Option.map_eq_some_iff.mp h
      rcases effect_peers (Daemon.step_effect hd) (by simpa using hloop) with
        ⟨hpeers, hdropping⟩ | ⟨c, hdrop, hpeers, hnone⟩
      · exact ⟨hs.ready, hs.round.of_peers hpeers, fun c hc => hs.dropping c (hdropping c hc)⟩
      · obtain ⟨next, numSockets, hpc⟩ := hs.dropping c hdrop
        have hround := hs.round
        rw [RoundAt, hpc] at hround
        obtain ⟨hleft, hbehind⟩ := hround
        have hsuffix : c :: next <:+ s.peerConnections := by
          rcases hbehind with hsuffix | ⟨hgone, _⟩
          · exact hsuffix
          · exact absurd (List.mem_reverse.mpr (mem_of_droppingConn hc hdrop)) hgone
        refine ⟨hs.ready, ?_, ?_⟩
        · simp only [RoundAt, hpc]
          constructor
          · exact hleft
          · right
            rw [peerConnections, hpeers]
            exact suffix_erase hc.peersNodup hsuffix
        · intro c' hdrop'
          have hsome : droppingConn d.srv = some c' := hdrop'
          rw [hnone] at hsome
          cases hsome

/-! ## Every run -/

/-- In every state of a round the connections that were handled are ready ones, each once. -/
theorem Served.handledOnce {s : Server} (hs : Served s) :
    s.handled.Subperm s.ready ∧ s.ready.Nodup ∧ (s.pc = .select → s.handled.Perm s.ready) := by
  have hround := hs.round
  have hleft : ∀ {iterator numSockets}, s.Left iterator numSockets →
      s.handled.Subperm s.ready := by
    intro iterator numSockets hleft
    exact (List.sublist_append_left s.handled _).subperm.trans hleft.1.subperm
  cases hpc : s.pc with
  | select =>
      rw [RoundAt, hpc] at hround
      exact ⟨hround.subperm, hs.ready, fun _ => hround⟩
  | accepting numSockets =>
      rw [RoundAt, hpc] at hround
      refine ⟨?_, hs.ready, fun h => by cases h⟩
      rw [hround.1]
      exact List.nil_subperm
  | loop iterator numSockets | handling connection iterator numSockets
  | dropping connection iterator numSockets =>
      rw [RoundAt, hpc] at hround
      exact ⟨hleft hround.1, hs.ready, fun h => by cases h⟩
  | exited =>
      rw [RoundAt, hpc] at hround
      exact ⟨hround, hs.ready, fun h => by cases h⟩

/-- What the invariants of the daemon say about the daemon of a server. -/
structure DaemonInvariants (s : Server) : Prop where
  wellFormed : Daemon.WellFormed s.daemon
  held : ConnectionsHeld s.daemon

theorem step_daemonInvariants {s t : Server} {l : Label} (hd : DaemonInvariants s)
    (h : step s l = some t) : DaemonInvariants t := by
  rcases step_daemon h with hsame | ⟨l', hstep, _⟩
  · exact ⟨hsame ▸ hd.wellFormed, hsame ▸ hd.held⟩
  · constructor
    · exact Daemon.step_wellFormed s.daemon l' t.daemon hd.wellFormed hstep
    · exact Daemon.effect_connectionsHeld hd.wellFormed hd.held (Daemon.step_effect hstep)

/-- Every step keeps the round, whatever the commands are. -/
theorem step_served {s t : Server} {l : Label} (hs : Served s) (hd : DaemonInvariants s)
    (h : step s l = some t) : Served t := by
  cases l with
  | select ready serverSock => exact select_served hs hd.held h
  | selectFailed =>
      have hround := hs.round
      simp only [step, selectFailed] at h
      split at h
      · next hpc =>
          rw [RoundAt, hpc] at hround
          cases h
          refine ⟨hs.ready, hround.subperm, fun c hdropping => ?_⟩
          exact absurd hdropping (hs.free hpc (fun _ _ _ => ServerLoop.noConfusion) c)
      · cases h
  | accept conn => exact accept_served hs (step_daemonInvariants hd h).held h
  | iterate => exact iterate_served hs h
  | command cmd => exact command_served hs hd.held h
  | ignore => exact ignore_served hs hd.held h
  | fail => exact fail_served hs hd.held h
  | advance crash => exact advance_served hs h
  | erase => exact erase_served hs hd.held h
  | daemon l => exact daemon_served hs hd.held h

theorem init_served : Served init := by
  constructor
  · exact List.nodup_nil
  · exact List.Perm.nil
  · exact fun c hdropping => by cases hdropping

theorem init_daemonInvariants : DaemonInvariants init :=
  ⟨Daemon.init_wellFormed, Daemon.init_connectionsHeld⟩

/-- Whatever happens, a round hands each ready connection to the handler once: no connection
twice, and behind the round every one. -/
theorem served_run {ls : List Label} {s : Server} (h : system.run init ls = some s) :
    s.handled.Subperm s.ready ∧ s.ready.Nodup ∧
      (s.pc = .select → s.handled.Perm s.ready) := by
  obtain ⟨hs, _⟩ := TransitionSystem.run_invariant_of_step
    (I := fun s => Served s ∧ DaemonInvariants s)
    (fun _ _ _ hI hstep => ⟨step_served hI.1 hI.2 hstep, step_daemonInvariants hI.2 hstep⟩)
    ⟨init_served, init_daemonInvariants⟩ h
  exact hs.handledOnce

/-! ## Owners and iterators -/

/-- Who may own a connection object. -/
inductive Holder where
  | peerConnections
  | session (ref : SessionRef)

/-- The list of the server, or a session as its notification connection, holds `c`. -/
def Holds (s : Server) (c : ConnPtr) : Holder → Prop
  | .peerConnections => c ∈ s.peerConnections
  | .session ref => ∃ session ∈ s.daemon.trustletSessions,
      session.ref = ref ∧ session.notificationConnection = some c

/-- Every connection object has one owner, the handler gets every ready connection of a round
once, and no iterator is advanced from an erased node. -/
structure Orderly (s : Server) : Prop where
  oneOwner : ∀ c ∈ s.daemon.connections, ∃! holder, s.Holds c holder
  listedOnce : s.peerConnections.Nodup
  handledOnce : s.handled.Subperm s.ready ∧ s.ready.Nodup
  roundDone : s.pc = .select → s.handled.Perm s.ready
  noErased : s.erased = []

/-- No NQ connect is handled for a connection that has not opened the device. -/
def NoDetach (s : Server) : Label → Prop
  | .command (.nqConnect _) => ∀ found ∈ s.current, found.1 ∈ s.daemon.opened
  | _ => True

instance (s : Server) (l : Label) : Decidable (s.NoDetach l) :=
  match l with
  | .command (.nqConnect _) =>
      inferInstanceAs (Decidable (∀ found ∈ s.current, found.1 ∈ s.daemon.opened))
  | .command (.openDevice _) | .command .closeDevice | .command (.openSession ..)
  | .command (.openTrustlet ..) | .command (.closeSession _) | .command (.notify _)
  | .command (.mapBulkBuf ..) | .command (.unmapBulkBuf _) => isTrue trivial
  | .select .. | .selectFailed | .accept _ | .iterate | .ignore | .fail | .advance _ | .erase
  | .daemon _ => isTrue trivial

theorem oneOwner_of_hasOwners {s : Server} (hc : ConnectionsHeld s.daemon)
    (ho : HasOwners s.daemon) : ∀ c ∈ s.daemon.connections, ∃! holder, s.Holds c holder := by
  intro c hmem
  rcases ho c hmem with hpeer | ⟨session, hsession, hheld⟩
  · refine ⟨.peerConnections, List.mem_reverse.mpr hpeer, ?_⟩
    rintro (_ | ref) hholds
    · rfl
    · obtain ⟨other, hother, _, hconn⟩ := hholds
      exact absurd hpeer (hc.nqDetached other hother c hconn).2
  · refine ⟨.session session.ref, ⟨session, hsession, rfl, hheld⟩, ?_⟩
    rintro (_ | ref) hholds
    · exact absurd (List.mem_reverse.mp hholds) (hc.nqDetached session hsession c hheld).2
    · obtain ⟨other, hother, rfl, hconn⟩ := hholds
      rw [hc.nqDistinct other hother session hsession c hconn hheld]

/-- The node of the connection that is handled is still on the list. -/
structure Attached (s : Server) : Prop where
  noErased : s.erased = []
  handling : ∀ c next numSockets, s.pc = .handling c next numSockets → c ∈ s.peerConnections

theorem command_attached {s t : Server} {cmd : Command} (ha : Attached s) (hs : Served s)
    (hno : NoDetach s (.command cmd)) (h : s.command cmd = some t) : Attached t := by
  unfold command at h
  split at h
  · cases h
  · next connection next numSockets hcurrent =>
      obtain ⟨_, _, hsuffix, _⟩ := hs.current hcurrent
      obtain ⟨d, hd, rfl⟩ := Option.map_eq_some_iff.mp h
      constructor
      · exact ha.noErased
      · rintro c next' numSockets' ⟨⟩
        show connection ∈ d.peerConnections.reverse
        rcases (effect_peers_command (Daemon.step_effect hd)).1 with
          hsame | ⟨⟨nq, rfl⟩, hclosed, _⟩
        · rw [hsame]
          exact hsuffix.subset List.mem_cons_self
        · exact absurd (hno _ hcurrent) hclosed

theorem step_attached {s t : Server} {l : Label} (ha : Attached s) (hs : Served s)
    (hno : NoDetach s l) (h : step s l = some t) : Attached t := by
  cases l with
  | command cmd => exact command_attached ha hs hno h
  | ignore =>
      simp only [step, ignore] at h
      split at h
      · cases h
      · next connection next numSockets hcurrent =>
          obtain ⟨_, _, hsuffix, _⟩ := hs.current hcurrent
          cases h
          constructor
          · exact ha.noErased
          · rintro c next' numSockets' ⟨⟩
            exact hsuffix.subset List.mem_cons_self
  | advance crash =>
      simp only [step, advance] at h
      split at h
      · next connection next numSockets hpc =>
          split at h
          · cases h
          · split at h
            · cases h
              exact ⟨ha.noErased, fun _ _ _ hpc => by cases hpc⟩
            · next hgone => exact absurd (ha.handling _ _ _ hpc) hgone
      · cases h
  | daemon l =>
      simp only [step] at h
      split at h
      · cases h
      · next hloop =>
          obtain ⟨d, hd, rfl⟩ := Option.map_eq_some_iff.mp h
          constructor
          · exact ha.noErased
          · intro c next numSockets hpc
            have hfree := hs.free hpc fun _ _ _ => ServerLoop.noConfusion
            rcases effect_peers (Daemon.step_effect hd) (by simpa using hloop) with
              ⟨hpeers, _⟩ | ⟨c', hdrop, _⟩
            · rw [peerConnections, hpeers]
              exact ha.handling c next numSockets hpc
            · exact absurd hdrop (hfree c')
  | select ready serverSock =>
      simp only [step, select] at h
      split at h
      · next hguard =>
          repeat' split at h
          all_goals
            cases h
            refine ⟨ha.noErased, fun _ _ _ hpc => ?_⟩
          · cases hpc
          · rw [hguard.1] at hpc
            cases hpc
          · cases hpc
      · cases h
  | selectFailed =>
      simp only [step, selectFailed] at h
      split at h
      · cases h
        exact ⟨ha.noErased, fun _ _ _ hpc => by cases hpc⟩
      · cases h
  | accept conn =>
      simp only [step, accept] at h
      split at h
      · cases conn with
        | none =>
            cases h
            exact ⟨ha.noErased, fun _ _ _ hpc => by cases hpc⟩
        | some conn =>
            obtain ⟨d, hd, rfl⟩ := Option.map_eq_some_iff.mp h
            exact ⟨ha.noErased, fun _ _ _ hpc => by cases hpc⟩
      · cases h
  | iterate =>
      simp only [step, iterate] at h
      repeat' split at h
      all_goals cases h
      all_goals exact ⟨ha.noErased, fun _ _ _ hpc => by cases hpc⟩
  | fail =>
      simp only [step, fail] at h
      split at h
      · cases h
      · obtain ⟨d, hd, rfl⟩ := Option.map_eq_some_iff.mp h
        exact ⟨ha.noErased, fun _ _ _ hpc => by cases hpc⟩
  | erase =>
      simp only [step, erase] at h
      repeat' split at h
      all_goals cases h
      exact ⟨ha.noErased, fun _ _ _ hpc => by cases hpc⟩

theorem step_server_hasOwners {s t : Server} {l : Label} (hd : DaemonInvariants s)
    (ho : HasOwners s.daemon) (hno : NoDetach s l) (h : step s l = some t) :
    HasOwners t.daemon := by
  rcases step_daemon h with hsame | ⟨l', hstep, hcommand⟩
  · rw [hsame]
    exact ho
  · apply Daemon.step_hasOwners hd.wellFormed ho _ hstep
    unfold NqKeeps
    split
    · next conn nq =>
        obtain ⟨rfl, next, numSockets, hcurrent⟩ := hcommand conn (.nqConnect nq) rfl
        exact Or.inl (hno _ hcurrent)
    · trivial

/-- Every connection object has one owner, every ready connection is handled once and no
iterator is advanced from an erased node, in every state of every run in which no NQ
connect comes over a connection that has not opened the device. -/
theorem connectionOwnership_run (ls : List Label) (s : Server)
    (hno : system.StepsMeet NoDetach init ls) (h : system.run init ls = some s) : Orderly s := by
  have hinit : Attached init := ⟨rfl, fun _ _ _ hpc => by cases hpc⟩
  obtain ⟨hs, hd, ho, ha⟩ := TransitionSystem.run_invariant
    (I := fun s => Served s ∧ DaemonInvariants s ∧ HasOwners s.daemon ∧ Attached s)
    (fun _ _ _ ⟨hs, hd, ho, ha⟩ hno hstep =>
      ⟨step_served hs hd hstep, step_daemonInvariants hd hstep,
        step_server_hasOwners hd ho hno hstep, step_attached ha hs hno hstep⟩)
    ⟨init_served, init_daemonInvariants, Daemon.init_hasOwners, hinit⟩ hno h
  obtain ⟨hsub, hready, hdone⟩ := hs.handledOnce
  constructor
  · exact oneOwner_of_hasOwners hd.held ho
  · exact nodup_peerConnections hd.held
  · exact ⟨hsub, hready⟩
  · exact hdone
  · exact ha.noErased

/-- The condition cannot be weaker: behind such an NQ connect the node of the connection is
erased, and the iterator is advanced from it. -/
theorem detached_of_nqConnect {s t : Server} {cmd : CmdNqConnect} {connection : ConnPtr}
    {next : List ConnPtr} {numSockets : Nat} (hc : ConnectionsHeld s.daemon)
    (hcurrent : s.current = some (connection, next, numSockets))
    (hclosed : connection ∉ s.daemon.opened) (h : s.command (.nqConnect cmd) = some t) :
    t.pc = .handling connection next numSockets ∧ connection ∉ t.peerConnections := by
  simp only [command, hcurrent] at h
  obtain ⟨d, hd, rfl⟩ := Option.map_eq_some_iff.mp h
  have hpeers : d.peerConnections = s.daemon.peerConnections.erase connection := by
    have heffect : Daemon.Effect s.daemon (.command connection (.nqConnect cmd)) d :=
      Daemon.step_effect hd
    cases heffect with
    | refused hidle hpeer hcode hnotify hnq => exact absurd (hnq cmd rfl) hclosed
    | openRefused hidle hopen | openLeaked hidle hopen | openSent hidle hopen
    | openSentTci hidle hopen => exact absurd hopen hclosed
    | closeRefused hcall | closeSent hcall | closeSentGp hcall => cases hcall
    | nqRefused => rfl
    | nqConnected => rfl
  constructor
  · rfl
  · show connection ∉ d.peerConnections.reverse
    rw [hpeers, List.mem_reverse]
    exact hc.peersNodup.not_mem_erase

/-! ## One client -/

/-- A client connects. -/
def connectLabels (conn : ConnPtr) : List Label :=
  [.select [] true, .accept (some conn), .iterate]

/-- The client opens the device and closes its socket. -/
theorem connectionOwnership_run_dropped :
    ∃ s, system.run init (connectLabels 1 ++
        [.select [1] false, .command (.openDevice mcDeviceIdDefault), .advance false, .iterate,
          .select [1] false, .fail, .daemon (.nextSession false), .erase, .iterate]) = some s ∧
      Orderly s :=
  ⟨_, rfl, connectionOwnership_run (connectLabels 1 ++
    [.select [1] false, .command (.openDevice mcDeviceIdDefault), .advance false, .iterate,
      .select [1] false, .fail, .daemon (.nextSession false), .erase, .iterate]) _
    (by decide) rfl⟩

/-- An NQ connect for a session that does not exist is refused: its connection is on no list and
belongs to no session. -/
theorem not_connectionOwnership :
    ¬ ∀ ls s, system.run init ls = some s → Orderly s := by
  intro horderly
  have h := horderly (connectLabels 1 ++ [.select [1] false, .command (.nqConnect
    { deviceId := mcDeviceIdDefault, sessionId := 3, deviceSessionId := 0x4000
      sessionMagic := 7 })]) _ rfl
  obtain ⟨holder, hholds, _⟩ := h.oneOwner 1 (by decide)
  cases holder with
  | peerConnections => exact absurd hholds List.not_mem_nil
  | session ref =>
      obtain ⟨session, hsession, _⟩ := hholds
      exact absurd hsession List.not_mem_nil

end Server

end Exynos8890.MobiCore
