import Exynos8890.MobiCore.DriverDaemon.Connections

/-!
# The server loop

`Server::run` over the daemon: rounds of `select`, the acceptance of a new connection,
and the loop over the list of connections.  The handler that the loop calls may take the
connection of the current iterator off the list.

Main results:

- Definition `Server.system`: the server thread, interleaved with the other threads.
- Theorem `step_daemon`: a step of the server is a step of the daemon, or leaves the
  daemon alone.
- Theorem `effect_peers`: what the other threads do to the list of the server.
-/

namespace Exynos8890.MobiCore

/-- Where the server thread stands.  An iterator is given by the connections from its node
to the end of the list; `numSockets` are the ready sockets that are still to be handled. -/
inductive ServerLoop where
  | select
  | accepting (numSockets : Nat)
  | loop (iterator : List ConnPtr) (numSockets : Nat)
  | handling (connection : ConnPtr) (next : List ConnPtr) (numSockets : Nat)
  | dropping (connection : ConnPtr) (next : List ConnPtr) (numSockets : Nat)
  | exited
deriving DecidableEq

/-- The server and its daemon.  `ready` are the connections in `fdReadSockets`, `handled` those
that were given to the handler in this round, and `erased` those whose erased node an
iterator was advanced from. -/
structure Server where
  daemon : Daemon
  pc : ServerLoop
  ready : List ConnPtr
  handled : List ConnPtr
  erased : List ConnPtr

namespace Server

/-- The server after start-up. -/
def init : Server where
  daemon := Daemon.init
  pc := .select
  ready := []
  handled := []
  erased := []

/-- The list of connections: the daemon has the one that was accepted last in front. -/
def peerConnections (s : Server) : List ConnPtr :=
  s.daemon.peerConnections.reverse

/-! ## The loop -/

/-- `iterator = peerConnections.begin()`. -/
def begin (numSockets : Nat) (s : Server) : Server :=
  { s with pc := .loop s.peerConnections numSockets }

/-- `select` returns these connections, and perhaps the socket of the server. -/
def select (ready : List ConnPtr) (serverSock : Bool) (s : Server) : Option Server :=
  if s.pc = .select ∧ ready.Nodup ∧ ∀ c ∈ ready, c ∈ s.peerConnections then
    let s := { s with ready := ready, handled := [] }
    if serverSock = true then some { s with pc := .accepting (ready.length + 1) }
    else if ready = [] then some s
    else some (s.begin ready.length)
  else none

/-- `select` fails. -/
def selectFailed (s : Server) : Option Server :=
  if s.pc = .select then some { s with pc := .exited } else none

/-- `accept`, which may fail. -/
def accept (conn : Option ConnPtr) (s : Server) : Option Server :=
  match s.pc with
  | .accepting numSockets =>
      match conn with
      | none => some (s.begin (numSockets - 1))
      | some conn =>
          (s.daemon.accept conn).map fun d => { s with daemon := d }.begin (numSockets - 1)
  | _ => none

/-- The loop ends, or passes over a connection that is not ready. -/
def iterate (s : Server) : Option Server :=
  match s.pc with
  | .loop iterator numSockets =>
      match iterator with
      | [] => some { s with pc := .select }
      | connection :: next =>
          if numSockets = 0 then some { s with pc := .select }
          else if connection ∈ s.ready then none
          else some { s with pc := .loop next numSockets }
  | _ => none

/-- The connection that is to be handled, the nodes behind it, and the decremented count. -/
def current (s : Server) : Option (ConnPtr × List ConnPtr × Nat) :=
  match s.pc with
  | .loop (connection :: next) (numSockets + 1) =>
      if connection ∈ s.ready then some (connection, next, numSockets) else none
  | _ => none

/-- `handleConnection` is called, and goes on at `pc` with this daemon. -/
def handle (connection : ConnPtr) (pc : ServerLoop) (s : Server) (d : Daemon) : Server :=
  { s with
    daemon := d
    pc := pc
    handled := s.handled ++ [connection] }

/-- `handleConnection` reads a command. -/
def command (cmd : Command) (s : Server) : Option Server :=
  match s.current with
  | none => none
  | some (connection, next, numSockets) =>
      (Daemon.step s.daemon (.command connection cmd)).map
        (s.handle connection (.handling connection next numSockets))

/-- `handleConnection` reads a command of the registry, an unknown one, or one whose payload is
missing: no session and no connection changes. -/
def ignore (s : Server) : Option Server :=
  match s.current with
  | none => none
  | some (connection, next, numSockets) =>
      some (s.handle connection (.handling connection next numSockets) s.daemon)

/-- `handleConnection` returns `false`, and `dropConnection` is called. -/
def fail (s : Server) : Option Server :=
  match s.current with
  | none => none
  | some (connection, next, numSockets) =>
      (Daemon.step s.daemon (.drop connection)).map
        (s.handle connection (.dropping connection next numSockets))

/-- Whether `mutex_mcp` is held for a command or for the dropping of a connection. -/
def serving : ServerPc → Bool
  | .idle | .taExit _ | .taExitWait _ _ => false
  | _ => true

/-- `++iterator` behind the handler.  When the handler has erased the node, its memory may have
been reused (`crash`), or still leads to the next node. -/
def advance (crash : Bool) (s : Server) : Option Server :=
  match s.pc with
  | .handling connection next numSockets =>
      if serving s.daemon.srv = true then none
      else if connection ∈ s.peerConnections then some { s with pc := .loop next numSockets }
      else
        some
          { s with
            erased := s.erased ++ [connection]
            pc := if crash = true then .exited else .loop next numSockets }
  | _ => none

/-- `iterator = peerConnections.erase(iterator)`, when the connection is deleted. -/
def erase (s : Server) : Option Server :=
  match s.pc with
  | .dropping connection next numSockets =>
      if connection ∈ s.peerConnections then none
      else some { s with pc := .loop next numSockets }
  | _ => none

/-! ## The transition system -/

inductive Label where
  | select (ready : List ConnPtr) (serverSock : Bool)
  | selectFailed
  | accept (conn : Option ConnPtr)
  | iterate
  | command (cmd : Command)
  | ignore
  | fail
  | advance (crash : Bool)
  | erase
  | daemon (l : Daemon.Label)
deriving DecidableEq

/-- The labels of the daemon that stand for steps of the server loop. -/
def fromLoop : Daemon.Label → Bool
  | .accept _ | .command _ _ | .drop _ => true
  | _ => false

def step (s : Server) : Label → Option Server
  | .select ready serverSock => s.select ready serverSock
  | .selectFailed => s.selectFailed
  | .accept conn => s.accept conn
  | .iterate => s.iterate
  | .command cmd => s.command cmd
  | .ignore => s.ignore
  | .fail => s.fail
  | .advance crash => s.advance crash
  | .erase => s.erase
  | .daemon l =>
      if fromLoop l = true then none
      else (Daemon.step s.daemon l).map fun d => { s with daemon := d }

/-- The server under every interleaving with the other threads. -/
def system : TransitionSystem Server Label where
  step := step

/-- A step of the server is a step of the daemon, or leaves the daemon alone. -/
theorem step_daemon {s t : Server} {l : Label} (h : step s l = some t) :
    t.daemon = s.daemon ∨ ∃ l', Daemon.step s.daemon l' = some t.daemon ∧
      ∀ conn cmd, l' = .command conn cmd → l = .command cmd ∧
        ∃ next numSockets, s.current = some (conn, next, numSockets) := by
  cases l with
  | select ready serverSock =>
      left
      simp only [step, select] at h
      repeat' split at h
      all_goals cases h
      all_goals rfl
  | selectFailed =>
      left
      simp only [step, selectFailed] at h
      split at h
      · cases h
        rfl
      · cases h
  | accept conn =>
      simp only [step, accept] at h
      split at h
      · cases conn with
        | none =>
            cases h
            exact Or.inl rfl
        | some conn =>
            obtain ⟨d, hd, rfl⟩ := Option.map_eq_some_iff.mp h
            exact Or.inr ⟨.accept conn, hd, fun _ _ hl => by cases hl⟩
      · cases h
  | iterate =>
      left
      simp only [step, iterate] at h
      repeat' split at h
      all_goals cases h
      all_goals rfl
  | command cmd =>
      simp only [step, command] at h
      split at h
      · cases h
      · next connection next numSockets hcurrent =>
          obtain ⟨d, hd, rfl⟩ := Option.map_eq_some_iff.mp h
          refine Or.inr ⟨_, hd, ?_⟩
          rintro _ _ ⟨⟩
          exact ⟨rfl, next, numSockets, hcurrent⟩
  | ignore =>
      simp only [step, ignore] at h
      split at h
      · cases h
      · cases h
        exact Or.inl rfl
  | fail =>
      simp only [step, fail] at h
      split at h
      · cases h
      · obtain ⟨d, hd, rfl⟩ := Option.map_eq_some_iff.mp h
        exact Or.inr ⟨_, hd, fun _ _ hl => by cases hl⟩
  | advance crash =>
      left
      simp only [step, advance] at h
      repeat' split at h
      all_goals cases h
      all_goals rfl
  | erase =>
      left
      simp only [step, erase] at h
      repeat' split at h
      all_goals cases h
      all_goals rfl
  | daemon l =>
      simp only [step] at h
      split at h
      · cases h
      · next hloop =>
          obtain ⟨d, hd, rfl⟩ := Option.map_eq_some_iff.mp h
          refine Or.inr ⟨l, hd, ?_⟩
          rintro _ _ rfl
          exact absurd rfl hloop

/-! ## The list of the server -/

/-- The connection that is being dropped. -/
def droppingConn : ServerPc → Option ConnPtr
  | .closeLoop conn _ _ true => some conn
  | .closeWait conn _ _ (.deviceClose _ _ true) => some conn
  | .closeRetryWait conn _ _ (.deviceClose _ _ true) => some conn
  | _ => none

theorem droppingConn_resumeCaller (conn : ConnPtr) (sessionId : UInt32) (ref : SessionRef)
    (caller : CloseCaller) (d : Daemon) :
    droppingConn (d.resumeCaller conn caller) =
      droppingConn (.closeWait conn sessionId ref caller) := by
  cases caller with
  | processCloseSession => rfl
  | deviceClose cur before dropping => cases dropping <;> rfl

theorem droppingConn_retry (conn : ConnPtr) (sessionId : UInt32) (ref : SessionRef)
    (caller : CloseCaller) :
    droppingConn (.closeRetryWait conn sessionId ref caller) =
      droppingConn (.closeWait conn sessionId ref caller) := by
  rcases caller with _ | ⟨_, _, _ | _⟩ <;> rfl

theorem droppingConn_pending {d : Daemon} {conn : ConnPtr} {sessionId : UInt32} {ref : SessionRef}
    {caller : CloseCaller} (h : d.ClosePending conn sessionId ref caller) :
    droppingConn d.srv = droppingConn (.closeWait conn sessionId ref caller) := by
  rcases h with h | h
  · rw [h]
  · rw [h, droppingConn_retry]

/-- A call of `closeSession` by the loop of `close` drops what the loop drops. -/
theorem droppingConn_call {d d₀ : Daemon} {l : Daemon.Label} {conn : ConnPtr}
    {sessionId : UInt32} {caller : CloseCaller} (h : d.CloseCall l d₀ conn sessionId caller)
    (hl : fromLoop l = false) (ref : SessionRef) :
    d₀.peerConnections = d.peerConnections ∧
      droppingConn (.closeWait conn sessionId ref caller) = droppingConn d.srv := by
  cases h with
  | command => cases hl
  | @loop conn before erased dropping crash cur session hpc hlast hcur howner =>
      rw [hpc]
      cases dropping with
      | false => exact ⟨rfl, rfl⟩
      | true => exact ⟨rfl, rfl⟩

/-- What a step of the other threads, or the rest of a command, does to the list: nothing, or
the connection that is being dropped leaves it. -/
theorem effect_peers {d t : Daemon} {l : Daemon.Label} (h : Daemon.Effect d l t)
    (hl : fromLoop l = false) :
    (t.peerConnections = d.peerConnections ∧
      ∀ c, droppingConn t.srv = some c → droppingConn d.srv = some c) ∨
    (∃ c, droppingConn d.srv = some c ∧ t.peerConnections = d.peerConnections.erase c ∧
      droppingConn t.srv = none) := by
  cases h with
  | accepted | refused | deviceOpened | deviceClosing | openRefused | openLeaked | openSent
  | openSentTci | nqRefused | nqConnected | notifyIgnored | notifySent | mapLeaked | mapSent
  | unmapSent | dropped | dropping => cases hl
  | @closeRefused _ d₀ conn sessionId caller hcall hnone =>
      left
      obtain ⟨hpeers, hdropping⟩ := droppingConn_call hcall hl 0
      refine ⟨hpeers, fun c hc => ?_⟩
      rw [Daemon.closeReturn_srv, droppingConn_resumeCaller conn sessionId 0, hdropping] at hc
      exact hc
  | @closeSent _ d₀ conn sessionId caller session hcall hsome hgp =>
      left
      obtain ⟨hpeers, hdropping⟩ := droppingConn_call hcall hl session.ref
      exact ⟨hpeers, fun c hc => hdropping ▸ hc⟩
  | @closeSentGp _ d₀ conn sessionId caller session hcall hsome hgp hmutex =>
      left
      obtain ⟨hpeers, hdropping⟩ := droppingConn_call hcall hl session.ref
      exact ⟨hpeers, fun c hc => hdropping ▸ hc⟩
  | @closeRetried conn sessionId ref caller session r host hpc =>
      left
      refine ⟨rfl, fun c hc => ?_⟩
      rw [hpc, ← droppingConn_retry]
      exact hc
  | closeDeferred hpc =>
      left
      refine ⟨rfl, fun c hc => ?_⟩
      rw [droppingConn_pending (Or.inl hpc)]
      rwa [Daemon.closeReturn_srv, droppingConn_resumeCaller] at hc
  | closeFailed hpc =>
      left
      refine ⟨rfl, fun c hc => ?_⟩
      rw [droppingConn_pending hpc]
      rwa [Daemon.closeReturn_srv, droppingConn_resumeCaller] at hc
  | closeDone hpc =>
      left
      refine ⟨rfl, fun c hc => ?_⟩
      rw [droppingConn_pending hpc]
      rwa [Daemon.closeReturn_srv, droppingConn_resumeCaller] at hc
  | @loopRestarted conn dropping crash hpc =>
      left
      rw [hpc]
      cases dropping with
      | false => exact ⟨rfl, fun c hc => hc⟩
      | true => exact ⟨rfl, fun c hc => hc⟩
  | @loopFinished conn erased dropping crash hpc hwhy =>
      rw [hpc]
      cases dropping with
      | false => exact Or.inl ⟨rfl, fun c hc => by cases hc⟩
      | true => exact Or.inr ⟨conn, rfl, rfl, rfl⟩
  | @loopSkipped conn before erased dropping crash cur session hpc =>
      left
      rw [hpc]
      cases dropping with
      | false => exact ⟨rfl, fun c hc => hc⟩
      | true => exact ⟨rfl, fun c hc => hc⟩
  | drainedFront | flushedFront | receivedUnknown | receivedFound | parked | lockLost | locked
  | deliverLost | stored | forwarded => exact Or.inl ⟨rfl, fun c hc => hc⟩
  | _ => exact Or.inl ⟨rfl, fun c hc => by cases hc⟩

end Server

end Exynos8890.MobiCore
