import Exynos8890.Library.TransitionSystem
import Exynos8890.MobiCore.ResultCodes

/-!
# The channel for MCP commands

The one MCP buffer of the daemon, the semaphore that announces a response, and
the threads that touch them: the holders of `mutex_mcp`, which write a command
and wait, the IRQ thread, which turns `SID_MCP` notifications into signals, the
scheduler thread, and the secure world.  Commands carry a serial number so that
a response can be told from the response of another command.

Main results:

- Theorem `step_paired`: every step keeps the account of commands, responses,
  notifications and signals in flight.
- Theorem `mshNotifyAndWait_paired`: a wait that succeeds finds the response of
  its own command in the buffer.
-/

namespace Exynos8890.MobiCore

/-- The threads that issue MCP commands. -/
inductive Issuer where
  | socketServer
  | netlinkServer
  | taExitHandler
deriving DecidableEq, Repr

/-- What the MCP buffer holds. -/
inductive McpContent where
  | empty
  | command (serial : Nat)
  | response (serial : Nat)
deriving DecidableEq, Repr

/-- Where the holder of `mutex_mcp` stands in `mshNotifyAndWait`. -/
inductive WaitPc where
  | idle
  | waiting (serial counter : Nat)
  | checkIrqHandler (serial : Nat)
  | checkScheduler (serial : Nat)
  | checkTaExitHandler (serial : Nat)
  | returned (serial : Nat) (ok : Bool)
deriving DecidableEq, Repr

/-- Where the IRQ thread stands in `handleIrq`. -/
inductive IrqThread where
  | running
  | signalling (serial : Nat)
  | breaking
  | lastSignal
  | dead
deriving DecidableEq, Repr

/-- One completed `mshNotifyAndWait`: the serial of its command, whether it
returned `MC_DRV_OK`, and what the buffer held then. -/
structure Completion where
  serial : Nat
  ok : Bool
  content : McpContent
deriving DecidableEq, Repr

/-- The channel.  `pending` are the commands the secure world has been notified
of and has not answered, `written` the responses it has not announced yet, and
`posted` the `SID_MCP` notifications in the ring. -/
structure McpChannel where
  admitted : List Issuer
  mutexMcp : Option Issuer
  pc : WaitPc
  nextSerial : Nat
  buffer : McpContent
  mcFault : Bool
  mcpSessionNotification : Nat
  irqExiting : Bool
  schedulerExiting : Bool
  taExitExiting : Bool
  irq : IrqThread
  pending : List Nat
  written : List Nat
  posted : List Nat
  completions : List Completion

namespace McpChannel

/-- The channel after start-up: nothing has been sent. -/
def init : McpChannel where
  admitted := []
  mutexMcp := none
  pc := .idle
  nextSerial := 0
  buffer := .empty
  mcFault := false
  mcpSessionNotification := 0
  irqExiting := false
  schedulerExiting := false
  taExitExiting := false
  irq := .running
  pending := []
  written := []
  posted := []
  completions := []

/-! ## The issuing threads -/

/-- The test of `getMcFault` at the head of `handleConnection`, before any lock. -/
def handleConnection (th : Issuer) (s : McpChannel) : Option McpChannel :=
  if s.mcFault then some s else some { s with admitted := th :: s.admitted }

/-- `mutex_mcp.lock()`: in `handleConnection` after the fault test, in
`dropConnection` and `handleTaExit` without one. -/
def lockMcp (th : Issuer) (afterFaultTest : Bool) (s : McpChannel) : Option McpChannel :=
  if s.mutexMcp ≠ none then none
  else if afterFaultTest then
    if th ∈ s.admitted then
      some { s with mutexMcp := some th, admitted := s.admitted.erase th }
    else none
  else some { s with mutexMcp := some th }

/-- `mutex_mcp.unlock()`. -/
def unlockMcp (s : McpChannel) : Option McpChannel :=
  match s.mutexMcp, s.pc with
  | some _, .idle => some { s with mutexMcp := none }
  | some _, .returned _ _ => some { s with mutexMcp := none, pc := .idle }
  | _, _ => none

/-- `notify(SID_MCP)` for the command with the next serial number. -/
def notifyMcp (s : McpChannel) : McpChannel :=
  { s with
    buffer := .command s.nextSerial
    pending := s.pending ++ [s.nextSerial]
    nextSerial := s.nextSerial + 1
    pc := .waiting s.nextSerial 5 }

/-- Write a command and enter `mshNotifyAndWait`. -/
def sendCommand (s : McpChannel) : Option McpChannel :=
  match s.mutexMcp, s.pc with
  | some _, .idle => some s.notifyMcp
  | some _, .returned _ _ => some s.notifyMcp
  | _, _ => none

/-- `mshNotifyAndWait` returns. -/
def complete (serial : Nat) (ok : Bool) (s : McpChannel) : McpChannel :=
  { s with
    pc := .returned serial ok
    completions := s.completions ++ [{ serial := serial, ok := ok, content := s.buffer }] }

/-- How one `mcpSessionNotification.wait(10)` ends. -/
inductive WaitOutcome where
  | signalled
  | timeout (halted : Bool)
deriving DecidableEq, Repr

/-- One round of the loop of `waitMcpNotification`. -/
def waitRound (outcome : WaitOutcome) (s : McpChannel) : Option McpChannel :=
  match s.pc with
  | .waiting serial counter =>
      if s.mcFault then some (s.complete serial false)
      else
        match outcome with
        | .signalled =>
            if s.mcpSessionNotification = 0 then none
            else
              some
                { s with
                  mcpSessionNotification := s.mcpSessionNotification - 1
                  pc := .checkIrqHandler serial }
        | .timeout halted =>
            if halted then some ({ s with mcFault := true }.complete serial false)
            else if counter - 1 < 1 then some ({ s with mcFault := true }.complete serial false)
            else some { s with pc := .waiting serial (counter - 1) }
  | _ => none

/-- The tests of `waitMcpNotification` after its loop, one at a time. -/
def checkThread (s : McpChannel) : Option McpChannel :=
  match s.pc with
  | .checkIrqHandler serial =>
      if s.irqExiting then some (s.complete serial false)
      else some { s with pc := .checkScheduler serial }
  | .checkScheduler serial =>
      if s.schedulerExiting then some (s.complete serial false)
      else some { s with pc := .checkTaExitHandler serial }
  | .checkTaExitHandler serial =>
      if s.taExitExiting then some (s.complete serial false)
      else some (s.complete serial true)
  | _ => none

/-! ## The secure world -/

/-- The secure world writes the response of a command it was notified of. -/
def writeResponse (serial : Nat) (s : McpChannel) : Option McpChannel :=
  if serial ∈ s.pending then
    some
      { s with
        buffer := .response serial
        pending := s.pending.erase serial
        written := s.written ++ [serial] }
  else none

/-- The secure world posts the notification for a response it has written. -/
def postNotification (serial : Nat) (s : McpChannel) : Option McpChannel :=
  if serial ∈ s.written then
    some { s with written := s.written.erase serial, posted := s.posted ++ [serial] }
  else none

/-! ## The other threads of the daemon -/

/-- `signalMcpNotification`. -/
def signalMcpNotification (s : McpChannel) : McpChannel :=
  { s with mcpSessionNotification := s.mcpSessionNotification + 1 }

/-- One step of `handleIrq`: take a `SID_MCP` notification, signal it, or go
through the three steps after the loop. -/
def handleIrq (waitFailed : Bool) (s : McpChannel) : Option McpChannel :=
  match s.irq with
  | .running =>
      if waitFailed then some { s with irq := .breaking }
      else
        match s.posted with
        | [] => none
        | serial :: rest => some { s with posted := rest, irq := .signalling serial }
  | .signalling _ => some { s.signalMcpNotification with irq := .running }
  | .breaking => some { s with irqExiting := true, irq := .lastSignal }
  | .lastSignal => some { s.signalMcpNotification with irq := .dead }
  | .dead => none

/-- The scheduler thread leaves its loop. -/
def schedulerExit (s : McpChannel) : McpChannel :=
  { s with schedulerExiting := true }

/-! ## The transition system -/

inductive Label where
  | handleConnection (th : Issuer)
  | lockMcp (th : Issuer) (afterFaultTest : Bool)
  | unlockMcp
  | sendCommand
  | waitRound (outcome : WaitOutcome)
  | checkThread
  | writeResponse (serial : Nat)
  | postNotification (serial : Nat)
  | handleIrq (waitFailed : Bool)
  | schedulerExit
deriving DecidableEq, Repr

def step (s : McpChannel) : Label → Option McpChannel
  | .handleConnection th => s.handleConnection th
  | .lockMcp th afterFaultTest => s.lockMcp th afterFaultTest
  | .unlockMcp => s.unlockMcp
  | .sendCommand => s.sendCommand
  | .waitRound outcome => s.waitRound outcome
  | .checkThread => s.checkThread
  | .writeResponse serial => s.writeResponse serial
  | .postNotification serial => s.postNotification serial
  | .handleIrq waitFailed => s.handleIrq waitFailed
  | .schedulerExit => some s.schedulerExit

/-- The channel under every interleaving of its threads. -/
def system : TransitionSystem McpChannel Label where
  step := step

/-! ## What is in flight -/

/-- Signals that the IRQ thread owes for a notification it has taken. -/
def IrqThread.owed : IrqThread → Nat
  | .signalling _ => 1
  | _ => 0

/-- Responses on their way from the buffer to the waiting thread. -/
def announced (s : McpChannel) : Nat :=
  s.written.length + s.posted.length + IrqThread.owed s.irq + s.mcpSessionNotification

/-- The device no longer answers commands. -/
def Broken (s : McpChannel) : Prop :=
  s.mcFault = true ∨ s.irqExiting = true

/-- The response of this command is in the buffer and nobody will overwrite it. -/
def Answered (s : McpChannel) (serial : Nat) : Prop :=
  s.buffer = .response serial ∧ s.pending = []

/-- The account of the commands in flight, for each place of the waiting thread. -/
def InFlight (s : McpChannel) : Prop :=
  match s.pc with
  | .waiting serial _ =>
      (s.pending = [serial] ∧ s.announced = 0) ∨ (s.Answered serial ∧ s.announced = 1)
  | _ => s.pending = [] ∧ s.announced = 0

/-- The response is there at every place behind the test of the IRQ thread. -/
def OwnResponse (s : McpChannel) : Prop :=
  match s.pc with
  | .checkIrqHandler serial => s.irqExiting = false → s.Answered serial
  | .checkScheduler serial => s.Answered serial
  | .checkTaExitHandler serial => s.Answered serial
  | .returned serial ok => ok = true → s.Answered serial
  | _ => True

/-- Some wait has failed. -/
def Failed (s : McpChannel) : Prop :=
  ∃ c ∈ s.completions, c.ok = false

/-- A sticky flag that the waiting thread has still to test is set. -/
def Doomed (s : McpChannel) : Prop :=
  match s.pc with
  | .checkIrqHandler _ =>
      s.irqExiting = true ∨ s.schedulerExiting = true ∨ s.taExitExiting = true
  | .checkScheduler _ => s.schedulerExiting = true ∨ s.taExitExiting = true
  | .checkTaExitHandler _ => s.taExitExiting = true
  | _ => s.mcFault = true ∨ s.irqExiting = true ∨ s.schedulerExiting = true ∨
      s.taExitExiting = true

/-- The invariant of the channel. -/
structure Paired (s : McpChannel) : Prop where
  inFlight : ¬ s.Broken → s.InFlight
  ownResponse : s.OwnResponse
  lastWords : s.irq = .lastSignal ∨ s.irq = .dead → s.irqExiting = true
  doomed : s.Failed → s.Doomed
  completed : ∀ c ∈ s.completions, c.ok = true → c.content = .response c.serial
  ordered : s.completions.Pairwise fun a b => a.ok = false → b.ok = false

theorem init_paired : Paired init := by
  refine ⟨?_, trivial, ?_, ?_, ?_, ?_⟩
  · intro _
    exact ⟨rfl, rfl⟩
  · simp [init]
  · simp [Failed, init]
  · simp [init]
  · simp [init]

/-! ## One lemma for each operation -/

theorem handleConnection_paired {s t : McpChannel} {th : Issuer} (h : Paired s)
    (hstep : s.handleConnection th = some t) : Paired t := by
  unfold handleConnection at hstep
  split at hstep
  · cases hstep
    exact h
  · cases hstep
    exact ⟨h.inFlight, h.ownResponse, h.lastWords, h.doomed, h.completed, h.ordered⟩

theorem lockMcp_paired {s t : McpChannel} {th : Issuer} {afterFaultTest : Bool} (h : Paired s)
    (hstep : s.lockMcp th afterFaultTest = some t) : Paired t := by
  unfold lockMcp at hstep
  split at hstep
  · cases hstep
  · split at hstep
    · split at hstep
      · cases hstep
        exact ⟨h.inFlight, h.ownResponse, h.lastWords, h.doomed, h.completed, h.ordered⟩
      · cases hstep
    · cases hstep
      exact ⟨h.inFlight, h.ownResponse, h.lastWords, h.doomed, h.completed, h.ordered⟩

theorem unlockMcp_paired {s t : McpChannel} (h : Paired s) (hstep : s.unlockMcp = some t) :
    Paired t := by
  obtain ⟨hin, hown, hlast, hdoom, hcomp, hord⟩ := h
  unfold unlockMcp at hstep
  split at hstep
  · cases hstep
    exact ⟨hin, hown, hlast, hdoom, hcomp, hord⟩
  · rename_i hpc
    cases hstep
    refine ⟨fun hok => ?_, trivial, hlast, fun hf => ?_, hcomp, hord⟩
    · simpa [InFlight, hpc, announced] using hin hok
    · simpa [Doomed, hpc] using hdoom hf
  · cases hstep

/-- A command is sent only when nothing else is in flight. -/
theorem sendCommand_paired {s t : McpChannel} (h : Paired s) (hstep : s.sendCommand = some t) :
    Paired t := by
  obtain ⟨hin, hown, hlast, hdoom, hcomp, hord⟩ := h
  have hnotify : (∀ hok : ¬ s.Broken, s.pending = [] ∧ s.announced = 0) →
      (s.Failed → s.mcFault = true ∨ s.irqExiting = true ∨ s.schedulerExiting = true ∨
        s.taExitExiting = true) → Paired s.notifyMcp := by
    intro hquiet hfail
    refine ⟨fun hok => ?_, trivial, hlast, hfail, hcomp, hord⟩
    obtain ⟨hpending, hann⟩ := hquiet hok
    left
    exact ⟨by simp [notifyMcp, hpending], hann⟩
  unfold sendCommand at hstep
  split at hstep
  · rename_i hpc
    cases hstep
    refine hnotify (fun hok => ?_) (fun hf => ?_)
    · simpa [InFlight, hpc] using hin hok
    · simpa [Doomed, hpc] using hdoom hf
  · rename_i hpc
    cases hstep
    refine hnotify (fun hok => ?_) (fun hf => ?_)
    · simpa [InFlight, hpc] using hin hok
    · simpa [Doomed, hpc] using hdoom hf
  · cases hstep

theorem complete_false_paired {s : McpChannel} {serial : Nat}
    (hin : ¬ s.Broken → s.pending = [] ∧ s.announced = 0)
    (hlast : s.irq = .lastSignal ∨ s.irq = .dead → s.irqExiting = true)
    (hflag : s.mcFault = true ∨ s.irqExiting = true ∨ s.schedulerExiting = true ∨
      s.taExitExiting = true)
    (hcomp : ∀ c ∈ s.completions, c.ok = true → c.content = .response c.serial)
    (hord : s.completions.Pairwise fun a b => a.ok = false → b.ok = false) :
    Paired (s.complete serial false) := by
  refine ⟨hin, fun hok => Bool.noConfusion hok, hlast, fun _ => hflag, ?_, ?_⟩
  · intro c hc hok
    rcases List.mem_append.mp hc with hc | hc
    · exact hcomp c hc hok
    · rw [List.mem_singleton.mp hc] at hok
      cases hok
  · refine List.pairwise_append.mpr ⟨hord, List.pairwise_singleton _ _, ?_⟩
    intro a _ b hb _
    rw [List.mem_singleton.mp hb]

/-- A wait that succeeds found its own response, and none had failed before. -/
theorem complete_true_paired {s : McpChannel} {serial : Nat}
    (hin : ¬ s.Broken → s.pending = [] ∧ s.announced = 0)
    (hlast : s.irq = .lastSignal ∨ s.irq = .dead → s.irqExiting = true)
    (hanswered : s.Answered serial) (hfailed : ¬ s.Failed)
    (hcomp : ∀ c ∈ s.completions, c.ok = true → c.content = .response c.serial)
    (hord : s.completions.Pairwise fun a b => a.ok = false → b.ok = false) :
    Paired (s.complete serial true) := by
  refine ⟨hin, fun _ => hanswered, hlast, ?_, ?_, ?_⟩
  · rintro ⟨c, hc, hbad⟩
    rcases List.mem_append.mp hc with hc | hc
    · exact absurd ⟨c, hc, hbad⟩ hfailed
    · rw [List.mem_singleton.mp hc] at hbad
      cases hbad
  · intro c hc hok
    rcases List.mem_append.mp hc with hc | hc
    · exact hcomp c hc hok
    · rw [List.mem_singleton.mp hc]
      exact hanswered.1
  · refine List.pairwise_append.mpr ⟨hord, List.pairwise_singleton _ _, ?_⟩
    intro a ha b _ hbad
    exact absurd ⟨a, ha, hbad⟩ hfailed

theorem waitRound_paired {s t : McpChannel} {outcome : WaitOutcome} (h : Paired s)
    (hstep : s.waitRound outcome = some t) : Paired t := by
  obtain ⟨hin, hown, hlast, hdoom, hcomp, hord⟩ := h
  unfold waitRound at hstep
  split at hstep
  · rename_i serial counter hpc
    split at hstep
    · rename_i hfault
      cases hstep
      exact complete_false_paired (fun hok => absurd (Or.inl hfault) hok) hlast (Or.inl hfault)
        hcomp hord
    · rename_i hfault
      have hflight : ¬ s.Broken → (s.pending = [serial] ∧ s.announced = 0) ∨
          (s.Answered serial ∧ s.announced = 1) := by
        simpa [InFlight, hpc] using hin
      have hdoom' : s.Failed → s.irqExiting = true ∨ s.schedulerExiting = true ∨
          s.taExitExiting = true := by
        simpa [Doomed, hpc, hfault] using hdoom
      split at hstep
      · split at hstep
        · cases hstep
        · rename_i hcount
          cases hstep
          -- the signal that was taken is the only one in flight, unless a thread died
          have htaken : s.irqExiting = false → s.Answered serial ∧ s.announced = 1 := by
            intro halive
            have hok : ¬ s.Broken := by simp [Broken, hfault, halive]
            rcases hflight hok with ⟨-, hann⟩ | hdone
            · simp only [announced] at hann
              omega
            · exact hdone
          refine ⟨fun hok => ?_, fun halive => (htaken halive).1, hlast, hdoom', hcomp, hord⟩
          have halive : s.irqExiting = false := by
            simpa [Broken, hfault] using hok
          obtain ⟨⟨-, hpending⟩, hann⟩ := htaken halive
          refine ⟨hpending, ?_⟩
          simp only [announced] at hann ⊢
          omega
      · have hfaulted : ∀ {u : McpChannel}, u = { s with mcFault := true } →
            Paired (u.complete serial false) := by
          rintro u rfl
          exact complete_false_paired (fun hok => absurd (Or.inl rfl) hok) hlast (Or.inl rfl)
            hcomp hord
        split at hstep
        · cases hstep
          exact hfaulted rfl
        · split at hstep
          · cases hstep
            exact hfaulted rfl
          · cases hstep
            exact ⟨hflight, trivial, hlast, fun hf => Or.inr (hdoom' hf), hcomp, hord⟩
  · cases hstep

theorem checkThread_paired {s t : McpChannel} (h : Paired s) (hstep : s.checkThread = some t) :
    Paired t := by
  obtain ⟨hin, hown, hlast, hdoom, hcomp, hord⟩ := h
  unfold checkThread at hstep
  split at hstep
  · rename_i serial hpc
    have hquiet : ¬ s.Broken → s.pending = [] ∧ s.announced = 0 := by
      simpa [InFlight, hpc] using hin
    split at hstep
    · rename_i hexit
      cases hstep
      exact complete_false_paired hquiet hlast (Or.inr (Or.inl hexit)) hcomp hord
    · rename_i hexit
      cases hstep
      refine ⟨hquiet, ?_, hlast, fun hf => ?_, hcomp, hord⟩
      · have hanswered : s.Answered serial := by
          simpa [OwnResponse, hpc, hexit] using hown
        exact hanswered
      · simpa [Doomed, hpc, hexit] using hdoom hf
  · rename_i serial hpc
    have hquiet : ¬ s.Broken → s.pending = [] ∧ s.announced = 0 := by
      simpa [InFlight, hpc] using hin
    split at hstep
    · rename_i hexit
      cases hstep
      exact complete_false_paired hquiet hlast (Or.inr (Or.inr (Or.inl hexit))) hcomp hord
    · rename_i hexit
      cases hstep
      refine ⟨hquiet, ?_, hlast, fun hf => ?_, hcomp, hord⟩
      · have hanswered : s.Answered serial := by
          simpa [OwnResponse, hpc] using hown
        exact hanswered
      · simpa [Doomed, hpc, hexit] using hdoom hf
  · rename_i serial hpc
    have hquiet : ¬ s.Broken → s.pending = [] ∧ s.announced = 0 := by
      simpa [InFlight, hpc] using hin
    split at hstep
    · rename_i hexit
      cases hstep
      exact complete_false_paired hquiet hlast (Or.inr (Or.inr (Or.inr hexit))) hcomp hord
    · rename_i hexit
      cases hstep
      refine complete_true_paired hquiet hlast ?_ ?_ hcomp hord
      · simpa [OwnResponse, hpc] using hown
      · intro hf
        exact hexit (by simpa [Doomed, hpc] using hdoom hf)
  · cases hstep

/-- The response that is written is the one the waiting thread waits for. -/
theorem writeResponse_paired {s t : McpChannel} {serial : Nat} (h : Paired s)
    (hstep : s.writeResponse serial = some t) : Paired t := by
  obtain ⟨hin, hown, hlast, hdoom, hcomp, hord⟩ := h
  unfold writeResponse at hstep
  split at hstep
  · rename_i hmem
    cases hstep
    -- no thread has an answer yet: a command is still pending
    have hnot : ∀ k, ¬ s.Answered k := by
      rintro k ⟨-, hnil⟩
      rw [hnil] at hmem
      exact List.not_mem_nil hmem
    refine ⟨fun hok => ?_, ?_, hlast, hdoom, hcomp, hord⟩
    · have hflight := hin hok
      cases hpc : s.pc with
      | waiting k counter =>
          simp only [InFlight, hpc] at hflight ⊢
          rcases hflight with ⟨hpending, hann⟩ | ⟨hanswered, -⟩
          · obtain rfl : serial = k := by simpa [hpending] using hmem
            right
            refine ⟨⟨rfl, by simp [hpending]⟩, ?_⟩
            simp only [announced, List.length_append, List.length_singleton] at hann ⊢
            omega
          · exact absurd hanswered (hnot k)
      | idle | checkIrqHandler | checkScheduler | checkTaExitHandler | returned =>
          simp only [InFlight, hpc] at hflight
          rw [hflight.1] at hmem
          exact absurd hmem List.not_mem_nil
    · cases hpc : s.pc with
      | idle | waiting => simp [OwnResponse]
      | checkIrqHandler k =>
          simp only [OwnResponse, hpc] at hown ⊢
          exact fun halive => absurd (hown halive) (hnot k)
      | checkScheduler k | checkTaExitHandler k =>
          simp only [OwnResponse, hpc] at hown
          exact absurd hown (hnot k)
      | returned k ok =>
          simp only [OwnResponse, hpc] at hown ⊢
          exact fun hok => absurd (hown hok) (hnot k)
  · cases hstep

/-- Moving an announcement from one place to the next keeps the account. -/
theorem Paired.of_moved {s t : McpChannel} (h : Paired s)
    (hpc : t.pc = s.pc) (hfault : t.mcFault = s.mcFault)
    (hirq : t.irqExiting = s.irqExiting) (hsched : t.schedulerExiting = s.schedulerExiting)
    (hta : t.taExitExiting = s.taExitExiting) (hbuffer : t.buffer = s.buffer)
    (hpending : t.pending = s.pending) (hcompl : t.completions = s.completions)
    (hann : t.announced = s.announced)
    (hlast : t.irq = .lastSignal ∨ t.irq = .dead → t.irqExiting = true) : Paired t := by
  obtain ⟨hin, hown, -, hdoom, hcomp, hord⟩ := h
  refine ⟨?_, ?_, hlast, ?_, ?_, ?_⟩
  · simpa only [Broken, InFlight, Answered, hpc, hfault, hirq, hpending, hbuffer, hann] using hin
  · simpa only [OwnResponse, Answered, hpc, hirq, hpending, hbuffer] using hown
  · simpa only [Failed, Doomed, hpc, hfault, hirq, hsched, hta, hcompl] using hdoom
  · rwa [hcompl]
  · rwa [hcompl]

theorem postNotification_paired {s t : McpChannel} {serial : Nat} (h : Paired s)
    (hstep : s.postNotification serial = some t) : Paired t := by
  unfold postNotification at hstep
  split at hstep
  · rename_i hmem
    cases hstep
    refine h.of_moved rfl rfl rfl rfl rfl rfl rfl rfl ?_ h.lastWords
    have hpos := List.length_pos_of_mem hmem
    simp only [announced, List.length_append, List.length_singleton,
      List.length_erase_of_mem hmem]
    omega
  · cases hstep

/-- A dying IRQ thread announces its death before its last signal. -/
theorem handleIrq_paired {s t : McpChannel} {waitFailed : Bool} (h : Paired s)
    (hstep : s.handleIrq waitFailed = some t) : Paired t := by
  unfold handleIrq at hstep
  cases hirq : s.irq with
  | running =>
      simp only [hirq] at hstep
      split at hstep
      · cases hstep
        refine h.of_moved rfl rfl rfl rfl rfl rfl rfl rfl ?_ (by simp)
        simp [announced, hirq, IrqThread.owed]
      · split at hstep
        · cases hstep
        · rename_i serial rest hposted
          cases hstep
          refine h.of_moved rfl rfl rfl rfl rfl rfl rfl rfl ?_ (by simp)
          simp only [announced, hirq, hposted, IrqThread.owed, List.length_cons]
          omega
  | signalling serial =>
      simp only [hirq, Option.some.injEq] at hstep
      cases hstep
      refine h.of_moved rfl rfl rfl rfl rfl rfl rfl rfl ?_ (by simp)
      simp only [announced, hirq, IrqThread.owed, signalMcpNotification]
      omega
  | breaking =>
      simp only [hirq, Option.some.injEq] at hstep
      cases hstep
      obtain ⟨hin, hown, hlast, hdoom, hcomp, hord⟩ := h
      refine ⟨fun hok => absurd (Or.inr rfl) hok, ?_, fun _ => rfl, fun hf => ?_, hcomp, hord⟩
      · cases hpc : s.pc with
        | idle | waiting | checkIrqHandler => simp [OwnResponse]
        | checkScheduler | checkTaExitHandler | returned =>
            simpa only [OwnResponse, Answered, hpc] using hown
      · have hdoom' := hdoom hf
        cases hpc : s.pc <;> simp_all [Doomed]
  | lastSignal =>
      simp only [hirq, Option.some.injEq] at hstep
      cases hstep
      have hexit := h.lastWords (Or.inl hirq)
      obtain ⟨hin, hown, hlast, hdoom, hcomp, hord⟩ := h
      exact ⟨fun hok => absurd (Or.inr hexit) hok, hown, fun _ => hexit, hdoom, hcomp, hord⟩
  | dead =>
      simp only [hirq] at hstep
      cases hstep

theorem schedulerExit_paired {s : McpChannel} (h : Paired s) : Paired s.schedulerExit := by
  obtain ⟨hin, hown, hlast, hdoom, hcomp, hord⟩ := h
  refine ⟨hin, hown, hlast, fun hf => ?_, hcomp, hord⟩
  have hdoom' := hdoom hf
  cases hpc : s.pc <;> simp_all [Doomed, schedulerExit]

/-! ## Runs -/

theorem step_paired (s : McpChannel) (l : Label) (t : McpChannel) (h : Paired s)
    (hstep : system.step s l = some t) : Paired t := by
  cases l with
  | handleConnection th => exact handleConnection_paired h hstep
  | lockMcp th afterFaultTest => exact lockMcp_paired h hstep
  | unlockMcp => exact unlockMcp_paired h hstep
  | sendCommand => exact sendCommand_paired h hstep
  | waitRound outcome => exact waitRound_paired h hstep
  | checkThread => exact checkThread_paired h hstep
  | writeResponse serial => exact writeResponse_paired h hstep
  | postNotification serial => exact postNotification_paired h hstep
  | handleIrq waitFailed => exact handleIrq_paired h hstep
  | schedulerExit =>
      cases hstep
      exact schedulerExit_paired h

/-- In every interleaving of the issuing threads, the IRQ thread and the secure
world: while a wait has returned success and its thread has not gone on, the
buffer holds the response of its own command; so it did whenever a wait returned
success; and after a failed wait no later one succeeds. -/
theorem mshNotifyAndWait_paired {labels : List Label} {s : McpChannel}
    (hrun : system.run init labels = some s) :
    (∀ serial, s.pc = .returned serial true → s.buffer = .response serial) ∧
    (∀ c ∈ s.completions, c.ok = true → c.content = .response c.serial) ∧
    s.completions.Pairwise (fun a b => a.ok = false → b.ok = false) := by
  have h : Paired s := TransitionSystem.run_invariant_of_step step_paired init_paired hrun
  refine ⟨?_, h.completed, h.ordered⟩
  intro serial hpc
  have hown := h.ownResponse
  simp only [OwnResponse, hpc, forall_const] at hown
  exact hown.1

/-- One answered command, and one given up whose answer arrives during the next. -/
def lateAnswer : List Label :=
  [.handleConnection .socketServer, .lockMcp .socketServer true, .sendCommand,
    .writeResponse 0, .postNotification 0, .handleIrq false, .handleIrq false,
    .waitRound .signalled, .checkThread, .checkThread, .checkThread, .unlockMcp,
    .lockMcp .taExitHandler false, .sendCommand, .waitRound (.timeout true), .unlockMcp,
    .lockMcp .netlinkServer false, .sendCommand, .writeResponse 1, .postNotification 1,
    .handleIrq false, .handleIrq false, .waitRound .signalled]

theorem mshNotifyAndWait_paired_lateAnswer :
    ∃ s, system.run init lateAnswer = some s ∧
      s.completions = [⟨0, true, .response 0⟩, ⟨1, false, .command 1⟩, ⟨2, false, .response 1⟩] ∧
      ∀ c ∈ s.completions, c.ok = true → c.content = .response c.serial :=
  ⟨_, rfl, rfl, (@mshNotifyAndWait_paired lateAnswer _ rfl).2.1⟩

end McpChannel

end Exynos8890.MobiCore
