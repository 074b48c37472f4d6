import Exynos8890.Library.RequestReply
import Exynos8890.MobiCore.DriverDaemon.ErrorCodes

/-!
# Every command has its answer

A client that has written a command reads one response before it writes the next one, and
takes what it reads for the response to what it wrote.  The server works for many clients,
drops connections, shares its sessions with the thread that handles interrupts, and leaves
a command through many exits.

Main results:

- Theorem `effect_exchange`: what each step does to the command a client waits for.
- Theorem `answers_inOrder`: each client has been answered its commands in their order, with
  responses of the right kind, but for the one that the server works on.
-/

namespace Exynos8890.MobiCore

/-- `processNotify` is the one handler without a response. -/
def Command.isAnswered : Command → Bool
  | .notify _ => false
  | _ => true

/-- The response belongs to the command: an error, or what its success writes. -/
inductive Command.AnsweredBy : Command → Response → Prop where
  | refused {cmd code} (hcmd : cmd.isAnswered = true) (hcode : code ≠ mcDrvOk) :
      Command.AnsweredBy cmd (.result code)
  | opened {cmd sessionId deviceSessionId sessionMagic} (hcmd : cmd.opened.isSome) :
      Command.AnsweredBy cmd (.openSession sessionId deviceSessionId sessionMagic)
  | mapped {cmd c secureVirtualAdr} (hcmd : cmd.mapped = some c) :
      Command.AnsweredBy cmd (.mapBulkMem c.sessionId secureVirtualAdr)
  | done {cmd} (hcmd : cmd.isAnswered = true) (hopened : cmd.opened = none)
      (hmapped : cmd.mapped = none) : Command.AnsweredBy cmd (.result mcDrvOk)

theorem Command.isAnswered_of_opened {cmd : Command} (h : cmd.opened.isSome) :
    cmd.isAnswered = true := by
  cases cmd <;> simp_all [Command.opened, Command.isAnswered]

theorem Command.isAnswered_of_mapped {cmd : Command} {c : CmdMapBulkBuf}
    (h : cmd.mapped = some c) : cmd.isAnswered = true := by
  cases cmd <;> simp_all [Command.mapped, Command.isAnswered]

namespace Daemon

open RequestReply

/-! ## Who waits for what -/

/-- The command that this client has written, when it waits for a response. -/
def Label.asks (conn : ConnPtr) : Label → Option Command
  | .command client cmd => if client = conn ∧ cmd.isAnswered = true then some cmd else none
  | _ => none

/-- The commands of a client that have a response. -/
def asked (conn : ConnPtr) (ls : List Label) : List Command :=
  ls.filterMap (Label.asks conn)

theorem asked_append (conn : ConnPtr) (ls : List Label) (l : Label) :
    asked conn (ls ++ [l]) = asked conn ls ++ (Label.asks conn l).toList :=
  filterMap_concat (Label.asks conn) ls l

/-- Only this client waits, for the answer to such a command. -/
def Owed (client conn : ConnPtr) (P : Command → Prop) (w : Option Command) : Prop :=
  if client = conn then ∃ cmd, w = some cmd ∧ P cmd else w = none

/-- Behind `close`: the close command waits, a client that is dropped does not. -/
def OwedClose (client conn : ConnPtr) (dropping : Bool) (w : Option Command) : Prop :=
  if dropping then w = none else Owed client conn (· = .closeDevice) w

/-- Behind `closeSession`. -/
def OwedCaller (client conn : ConnPtr) (sessionId : UInt32) (w : Option Command) :
    CloseCaller → Prop
  | .processCloseSession => Owed client conn (· = .closeSession sessionId) w
  | .deviceClose _ _ dropping => OwedClose client conn dropping w

/-- The command that a client may wait for, at each place of the server.  A daemon that has
halted answers nobody. -/
def Pending (pc : ServerPc) (conn : ConnPtr) (w : Option Command) : Prop :=
  match pc with
  | .openWait frame => Owed frame.conn conn (fun cmd => cmd.opened.isSome) w
  | .openDrain client _ rsp | .openReturn client rsp =>
      Owed client conn (fun cmd => cmd.opened.isSome ∧ cmd.AnsweredBy rsp) w
  | .closeWait client sessionId _ caller | .closeRetryWait client sessionId _ caller =>
      OwedCaller client conn sessionId w caller
  | .closeLoop client _ _ dropping => OwedClose client conn dropping w
  | .mapWait client c _ => Owed client conn (fun cmd => cmd.mapped = some c) w
  | .unmapWait client c _ => Owed client conn (· = .unmapBulkBuf c) w
  | .nqRegistered client _ => Owed client conn (fun cmd => ∃ c, cmd = .nqConnect c) w
  | .halted => True
  | .idle | .nqDrain _ | .taExit _ | .taExitWait .. => w = none

/-- What a step does to the exchange with a client. -/
def Exchange (conn : ConnPtr) (d : Daemon) (l : Label) (t : Daemon) : Prop :=
  ∃ given, answersTo conn t = answersTo conn d ++ given ∧
    Turn Command.AnsweredBy (Pending d.srv conn) (Pending t.srv conn)
      (Label.asks conn l).toList given

/-! ## Kinds of steps -/

variable {conn client : ConnPtr} {d t : Daemon} {l : Label} {cmd : Command} {rsp : Response}

/-- A step of another thread, or one that leaves the client waiting. -/
theorem exchange_silent (hl : Label.asks conn l = none)
    (hans : answersTo conn t = answersTo conn d)
    (hkept : ∀ w, Pending d.srv conn w → Pending t.srv conn w) : Exchange conn d l t := by
  refine ⟨[], ?_, ?_⟩
  · rw [hans, List.append_nil]
  · rw [hl]
    exact Turn.silent hkept

theorem exchange_atOnce (hidle : d.srv = .idle) (hsrv : t.srv = .idle)
    (hfits : cmd.AnsweredBy rsp) (hcmd : cmd.isAnswered = true)
    (hans : answersTo conn t = answersTo conn d ++ if client = conn then [rsp] else []) :
    Exchange conn d (.command client cmd) t := by
  by_cases hconn : client = conn
  · rw [if_pos hconn] at hans
    refine ⟨[rsp], hans, ?_⟩
    simp only [Label.asks, hconn, hcmd, hidle, hsrv]
    exact Turn.atOnce (fun _ hw => hw) hfits rfl
  · rw [if_neg hconn, List.append_nil] at hans
    refine exchange_silent ?_ hans ?_
    · simp [Label.asks, hconn]
    · rw [hidle, hsrv]
      exact fun _ hw => hw

theorem exchange_taken {P : Command → Prop} (hidle : d.srv = .idle)
    (hpending : ∀ w, Owed client conn P w → Pending t.srv conn w) (hP : P cmd)
    (hcmd : cmd.isAnswered = true) (hans : answersTo conn t = answersTo conn d) :
    Exchange conn d (.command client cmd) t := by
  by_cases hconn : client = conn
  · refine ⟨[], ?_, ?_⟩
    · rw [hans, List.append_nil]
    · simp only [Label.asks, hconn, hcmd, hidle]
      refine Turn.taken (fun _ hw => hw) (hpending _ ?_)
      rw [Owed, if_pos hconn]
      exact ⟨cmd, rfl, hP⟩
  · refine exchange_silent ?_ hans ?_
    · simp [Label.asks, hconn]
    · rintro w hw
      rw [hidle] at hw
      obtain rfl : w = none := hw
      exact hpending none (by simp [Owed, hconn])

/-- The server writes the response to the command it has worked on. -/
theorem exchange_answered {P : Command → Prop} (hl : Label.asks conn l = none)
    (hpending : ∀ w, Pending d.srv conn w → Owed client conn P w)
    (hfits : ∀ cmd, P cmd → cmd.AnsweredBy rsp) (hdone : Pending t.srv conn none)
    (hans : answersTo conn t = answersTo conn d ++ if client = conn then [rsp] else []) :
    Exchange conn d l t := by
  by_cases hconn : client = conn
  · rw [if_pos hconn] at hans
    refine ⟨[rsp], hans, ?_⟩
    rw [hl]
    refine Turn.answered (fun w hw => ?_) hdone
    have howed := hpending w hw
    rw [Owed, if_pos hconn] at howed
    obtain ⟨cmd, rfl, hP⟩ := howed
    exact ⟨cmd, rfl, hfits cmd hP⟩
  · rw [if_neg hconn, List.append_nil] at hans
    refine exchange_silent hl hans fun w hw => ?_
    have howed := hpending w hw
    rw [Owed, if_neg hconn] at howed
    rwa [howed]

/-! ## The commands -/

theorem Owed.mono {P Q : Command → Prop} {w : Option Command} (h : ∀ cmd, P cmd → Q cmd)
    (hw : Owed client conn P w) : Owed client conn Q w := by
  unfold Owed at hw ⊢
  split at hw
  · rename_i hconn
    rw [if_pos hconn]
    obtain ⟨cmd, rfl, hP⟩ := hw
    exact ⟨cmd, rfl, h cmd hP⟩
  · rename_i hconn
    rwa [if_neg hconn]

theorem answersTo_respond {d' : Daemon} (hans : answersTo conn d' = answersTo conn d)
    (rsp : Response) :
    answersTo conn (d'.respond client rsp) =
      answersTo conn d ++ if client = conn then [rsp] else [] := by
  rw [← hans]
  by_cases hconn : client = conn <;> simp [answersTo, Event.answerTo, hconn]

/-- Any result answers a command that has nothing else to return. -/
theorem answeredBy_result (hcmd : cmd.isAnswered = true) (hopened : cmd.opened = none)
    (hmapped : cmd.mapped = none) (code : McResult) : cmd.AnsweredBy (.result code) := by
  by_cases hcode : code = mcDrvOk
  · rw [hcode]
    exact .done hcmd hopened hmapped
  · exact .refused hcmd hcode

/-- `closeSession` returns: the close command is answered, the loop of `close` goes on. -/
theorem closeReturn_exchange {d' : Daemon} {sessionId : UInt32} {caller : CloseCaller}
    (hl : Label.asks conn l = none)
    (hpending : ∀ w, Pending d.srv conn w → OwedCaller client conn sessionId w caller)
    (hans : answersTo conn d' = answersTo conn d) (ret : McResult) :
    Exchange conn d l (d'.closeReturn client sessionId caller ret) := by
  cases caller with
  | processCloseSession =>
      have hfits : ∀ cmd, cmd = Command.closeSession sessionId → cmd.AnsweredBy (.result ret) := by
        rintro _ rfl
        exact answeredBy_result rfl rfl rfl ret
      refine exchange_answered hl hpending hfits rfl ?_
      · rw [← hans]
        by_cases hconn : client = conn <;>
          simp [answersTo, callerAnswer, List.filterMap_cons, Event.answerTo, hconn]
  | deviceClose cur before dropping =>
      refine exchange_silent hl ?_ hpending
      rw [← hans]
      simp [answersTo, callerAnswer, List.filterMap_cons, Event.answerTo]

theorem command_exchange (h : Effect d (.command client cmd) t) :
    Exchange conn d (.command client cmd) t := by
  cases h with
  | refused hidle hpeer hcode hnotify =>
      have hcmd : cmd.isAnswered = true := by
        cases cmd with
        | notify sessionId => exact absurd rfl (hnotify sessionId)
        | _ => rfl
      exact exchange_atOnce hidle rfl (.refused hcmd hcode) hcmd (answersTo_respond rfl _)
  | deviceOpened hidle =>
      exact exchange_atOnce hidle rfl (.done rfl rfl rfl) rfl (answersTo_respond rfl _)
  | deviceClosing hidle =>
      exact exchange_taken hidle (fun w hw => hw) rfl rfl rfl
  | openRefused hidle hopen hopens hcode =>
      have hopened := hopens.opened_isSome
      have hcmd := cmd.isAnswered_of_opened hopened
      exact exchange_taken hidle (fun w hw => hw) ⟨hopened, .refused hcmd hcode⟩ hcmd rfl
  | openLeaked hidle hopen hopens huses htci hlock hlen hcode =>
      have hopened := hopens.opened_isSome
      have hcmd := cmd.isAnswered_of_opened hopened
      refine exchange_taken hidle (fun w hw => hw) ⟨hopened, .refused hcmd hcode⟩ hcmd ?_
      simp [answersTo, List.filterMap_cons, Event.answerTo]
  | openSent hidle hopen hopens hframe | openSentTci hidle hopen hopens hframe =>
      have hopened := hopens.opened_isSome
      obtain ⟨rfl, -⟩ := hframe
      refine exchange_taken hidle (fun w hw => hw) hopened (cmd.isAnswered_of_opened hopened) ?_
      simp [answersTo, List.filterMap_cons, Event.answerTo]
  | closeRefused hcall =>
      cases hcall with
      | command hidle =>
          refine exchange_atOnce hidle rfl
            (answeredBy_result rfl rfl rfl mcDrvErrDaemonUnknownSession) rfl ?_
          by_cases hconn : client = conn <;>
            simp [answersTo, callerAnswer, List.filterMap_cons, Event.answerTo, hconn]
  | closeSent hcall | closeSentGp hcall =>
      cases hcall with
      | command hidle =>
          refine exchange_taken hidle (fun w hw => hw) rfl rfl ?_
          simp [answersTo, List.filterMap_cons, List.filterMap_append, List.filterMap_map,
            Function.comp_def, Event.answerTo]
  | nqRefused hidle hpeer hclosed hcode =>
      exact exchange_atOnce hidle rfl (.refused rfl hcode) rfl (answersTo_respond rfl _)
  | nqConnected hidle =>
      refine exchange_taken hidle (fun w hw => hw) ⟨_, rfl⟩ rfl ?_
      simp [answersTo, List.filterMap_cons, Event.answerTo]
  | notifyIgnored =>
      refine exchange_silent ?_ rfl (fun w hw => hw)
      simp [Label.asks, Command.isAnswered]
  | notifySent =>
      refine exchange_silent ?_ ?_ (fun w hw => hw)
      · simp [Label.asks, Command.isAnswered]
      · simp [answersTo, Event.answerTo]
  | mapLeaked hidle hopen hlock hwhy hcode =>
      refine exchange_atOnce hidle rfl (.refused rfl hcode) rfl (answersTo_respond ?_ _)
      simp [answersTo, Event.answerTo]
  | mapSent hidle | unmapSent hidle =>
      refine exchange_taken hidle (fun w hw => hw) rfl rfl ?_
      simp [answersTo, List.filterMap_cons, Event.answerTo]

/-! ## The answers of the secure world -/

theorem reply_exchange {r : McpReply} {host : HostChoice} (h : Effect d (.reply r host) t) :
    Exchange conn d (.reply r host) t := by
  have hl : Label.asks conn (.reply r host) = none := rfl
  cases h with
  | @openFailed frame _ _ _ hpc hret hcode =>
      refine exchange_silent hl ?_ ?_
      · by_cases huses : frame.usesTci <;>
          simp [answersTo, List.filterMap_cons, Event.answerTo, huses]
      · rw [hpc]
        exact fun w hw => hw.mono fun cmd hopened =>
          ⟨hopened, .refused (cmd.isAnswered_of_opened hopened) hcode⟩
  | openSucceeded hpc =>
      refine exchange_silent hl ?_ ?_
      · simp [answersTo, List.filterMap_cons, Event.answerTo]
      · rw [hpc]
        exact fun w hw => hw.mono fun cmd hopened => ⟨hopened, .opened hopened⟩
  | closeRetried hpc =>
      refine exchange_silent hl ?_ ?_
      · simp [answersTo, List.filterMap_cons, Event.answerTo]
      · rw [hpc]
        exact fun w hw => hw
  | closeDeferred hpc =>
      refine closeReturn_exchange hl ?_ ?_ _
      · rw [hpc]
        exact fun w hw => hw
      · simp [answersTo, List.filterMap_cons, Event.answerTo]
  | closeFailed hpc =>
      refine closeReturn_exchange hl ?_ ?_ _
      · rcases hpc with hpc | hpc <;>
          (rw [hpc]; exact fun w hw => hw)
      · simp [answersTo, List.filterMap_cons, Event.answerTo]
  | closeAborted =>
      refine exchange_silent hl ?_ fun w hw => trivial
      simp [answersTo, List.filterMap_cons, Event.answerTo]
  | closeDone hpc =>
      refine closeReturn_exchange hl ?_ ?_ _
      · rcases hpc with hpc | hpc <;>
          (rw [hpc]; exact fun w hw => hw)
      · simp [answersTo, List.filterMap_cons, List.filterMap_map, Function.comp_def,
          Event.answerTo]
  | mapFailed hpc hret hcode =>
      refine exchange_answered hl (fun w hw => by rwa [hpc] at hw) ?_ rfl
        (answersTo_respond ?_ _)
      · exact fun cmd hmapped => .refused (cmd.isAnswered_of_mapped hmapped) hcode
      · simp [answersTo, Event.answerTo]
  | mapSucceeded hpc =>
      refine exchange_answered hl (fun w hw => by rwa [hpc] at hw) ?_ rfl
        (answersTo_respond ?_ _)
      · exact fun cmd hmapped => .mapped hmapped
      · simp [answersTo, Event.answerTo]
  | unmapFailed hpc hcode =>
      refine exchange_answered hl (fun w hw => by rwa [hpc] at hw) ?_ rfl
        (answersTo_respond ?_ _)
      · rintro _ rfl
        exact .refused rfl hcode
      · simp [answersTo, Event.answerTo]
  | unmapSucceeded hpc =>
      refine exchange_answered hl (fun w hw => by rwa [hpc] at hw) ?_ rfl
        (answersTo_respond ?_ _)
      · rintro _ rfl
        exact .done rfl rfl rfl
      · simp [answersTo, List.filterMap_cons, Event.answerTo]
  | reaped hpc | reapFailed hpc =>
      refine exchange_silent hl ?_ ?_
      · simp [answersTo, List.filterMap_cons, List.filterMap_append, List.filterMap_map,
          Function.comp_def, Event.answerTo]
      · rw [hpc]
        exact fun w hw => hw
  | closeRefused hcall | closeSent hcall | closeSentGp hcall => cases hcall

/-! ## The loops, and every step -/

/-- `close` returns: the command is answered, or the connection deleted. -/
theorem closeFinish_exchange {erased dropping crash : Bool}
    (hpc : d.srv = .closeLoop client [] erased dropping) :
    Exchange conn d (.nextSession crash) ((d.stepBack erased).closeFinish client dropping) := by
  have hstep : answersTo conn (d.stepBack erased) = answersTo conn d := by
    cases erased <;> simp [answersTo, Event.answerTo]
  cases dropping with
  | false =>
      refine exchange_answered rfl (fun w hw => by rwa [hpc] at hw) ?_ rfl
        (answersTo_respond ?_ _)
      · rintro _ rfl
        exact .done rfl rfl rfl
      · rw [← hstep]
        simp [answersTo, Event.answerTo]
  | true =>
      refine exchange_silent rfl ?_ ?_
      · rw [← hstep]
        simp [answersTo, closeFinish, List.filterMap_cons, Event.answerTo]
      · rw [hpc]
        exact fun w hw => hw

/-- A call of `closeSession` by the loop of `close`. -/
theorem closeCall_exchange {crash : Bool} {d₀ : Daemon} {sessionId : UInt32}
    {caller : CloseCaller} (hcall : CloseCall d (.nextSession crash) d₀ client sessionId caller) :
    answersTo conn d₀ = answersTo conn d ∧
      ∀ w, Pending d.srv conn w → OwedCaller client conn sessionId w caller := by
  cases hcall with
  | @loop _ _ erased _ _ _ _ hpc =>
      refine ⟨?_, ?_⟩
      · cases erased <;> simp [answersTo, Event.answerTo]
      · rw [hpc]
        exact fun w hw => hw

/-- What each step does to the command that a client waits for. -/
theorem effect_exchange (h : Effect d l t) : Exchange conn d l t := by
  cases hserver : l.byServer with
  | false =>
      obtain ⟨hsrv, -, hans⟩ := effect_otherThreads h hserver conn
      have hl : Label.asks conn l = none := by
        cases l <;> first | rfl | cases hserver
      refine exchange_silent hl hans ?_
      rw [hsrv]
      exact fun w hw => hw
  | true =>
      cases l with
      | command client cmd => exact command_exchange h
      | reply r host => exact reply_exchange h
      | accept | irqReceive | irqPark | irqLock | irqDeliver => cases hserver
      | drop client =>
          cases h with
          | dropped hidle | dropping hidle =>
              refine exchange_silent rfl ?_ ?_
              · simp [answersTo, Event.answerTo]
              · rw [hidle]
                exact fun w hw => hw
          | closeRefused hcall | closeSent hcall | closeSentGp hcall => cases hcall
      | taExit =>
          cases h with
          | taExitWoken hidle =>
              refine exchange_silent rfl rfl ?_
              rw [hidle]
              exact fun w hw => hw
          | closeRefused hcall | closeSent hcall | closeSentGp hcall => cases hcall
      | drain =>
          cases h with
          | drainDone hpc | flushDone hpc =>
              refine exchange_silent rfl rfl ?_
              rw [hpc]
              exact fun w hw => hw
          | drainedFront | flushedFront =>
              refine exchange_silent rfl ?_ fun w hw => hw
              simp [answersTo, Event.answerTo]
          | closeRefused hcall | closeSent hcall | closeSentGp hcall => cases hcall
      | unregister ok =>
          cases h with
          | unregisterFailed hpc =>
              refine exchange_answered rfl (fun w hw => by rwa [hpc] at hw) ?_ rfl
                (answersTo_respond ?_ _)
              · exact fun cmd hcmd => .refused (cmd.isAnswered_of_opened hcmd.1) (by decide)
              · simp [answersTo, Event.answerTo]
          | unregistered hpc =>
              refine exchange_answered rfl (fun w hw => by rwa [hpc] at hw) ?_ rfl
                (answersTo_respond ?_ _)
              · exact fun cmd hcmd => hcmd.2
              · simp [answersTo, Event.answerTo]
          | closeRefused hcall | closeSent hcall | closeSentGp hcall => cases hcall
      | respond =>
          cases h with
          | @nqAnswered client ref hpc =>
              have hfits : ∀ cmd : Command, (∃ c, cmd = .nqConnect c) →
                  cmd.AnsweredBy (.result mcDrvOk) := by
                rintro _ ⟨c, rfl⟩
                exact .done rfl rfl rfl
              refine exchange_answered rfl (fun w hw => by rwa [hpc] at hw) hfits rfl ?_
              by_cases hconn : client = conn <;> simp [answersTo, Event.answerTo, hconn]
          | closeRefused hcall | closeSent hcall | closeSentGp hcall => cases hcall
      | nextSession crash =>
          cases h with
          | loopCrashed => exact exchange_silent rfl rfl fun w hw => trivial
          | loopRestarted hpc =>
              refine exchange_silent rfl ?_ ?_
              · simp [answersTo, Event.answerTo]
              · rw [hpc]
                exact fun w hw => hw
          | loopFinished hpc => exact closeFinish_exchange hpc
          | @loopSkipped _ _ erased _ _ _ _ hpc =>
              refine exchange_silent rfl ?_ ?_
              · cases erased <;> simp [answersTo, Event.answerTo]
              · rw [hpc]
                exact fun w hw => hw
          | taExitDone hpc | taExitSkipped hpc =>
              refine exchange_silent rfl rfl ?_
              rw [hpc]
              exact fun w hw => hw
          | taExitSent hpc =>
              refine exchange_silent rfl ?_ ?_
              · simp [answersTo, Event.answerTo]
              · rw [hpc]
                exact fun w hw => hw
          | closeRefused hcall =>
              obtain ⟨hans, hpending⟩ := closeCall_exchange hcall
              exact closeReturn_exchange rfl hpending hans _
          | closeSent hcall =>
              obtain ⟨hans, hpending⟩ := closeCall_exchange hcall
              refine exchange_silent rfl ?_ hpending
              rw [← hans]
              simp [answersTo, Event.answerTo]
          | closeSentGp hcall =>
              obtain ⟨hans, hpending⟩ := closeCall_exchange hcall
              refine exchange_silent rfl ?_ hpending
              rw [← hans]
              simp [answersTo, List.filterMap_cons, List.filterMap_map, Function.comp_def,
                Event.answerTo]

/-! ## Runs -/

theorem inOrder_run {ls : List Label} {d : Daemon} (hrun : system.run init ls = some d)
    (conn : ConnPtr) :
    InOrder Command.AnsweredBy (Pending d.srv conn) (asked conn ls) (answersTo conn d) := by
  have hinit : InOrder Command.AnsweredBy (Pending init.srv conn) (asked conn [])
      (answersTo conn init) := inOrder_nil rfl
  refine TransitionSystem.run_invariant_labels (C := fun _ _ => True)
    (I := fun ls d => InOrder Command.AnsweredBy (Pending d.srv conn) (asked conn ls)
      (answersTo conn d)) ?_ hinit (system.stepsMeet_true init ls) hrun
  intro ms s l t hs _ hstep
  obtain ⟨given, hans, hturn⟩ := effect_exchange (step_effect hstep)
  rw [asked_append, hans]
  exact hs.turn hturn

/-- In every interleaving, each client has been answered its commands in the order in which
it wrote them, each with a response of its own kind; at most one is without an answer,
and none when the server waits for work. -/
theorem answers_inOrder {ls : List Label} {d : Daemon} (hrun : system.run init ls = some d)
    (conn : ConnPtr) :
    List.Forall₂ Command.AnsweredBy ((asked conn ls).take (answersTo conn d).length)
        (answersTo conn d) ∧
      (asked conn ls).length ≤ (answersTo conn d).length + 1 ∧
      (d.srv = .idle → (asked conn ls).length = (answersTo conn d).length) := by
  have horder := inOrder_run hrun conn
  refine ⟨horder.take, horder.length_le.2, fun hidle => ?_⟩
  rw [hidle] at horder
  exact (horder.forall₂ fun w hw => hw).length_eq

/-- Two clients, one of which maps a buffer while the other one is refused. -/
def mapBesideRefusal : List Label :=
  oneSession ++ [.accept 2, .command 2 (.closeSession 10), .command 1 mapCommand,
    .reply (successReply mcMcpCmdMap 0x9000) (hostAt 0)]

theorem answers_inOrder_mapBesideRefusal :
    ∃ d, system.run init mapBesideRefusal = some d ∧
      answersTo 1 d =
        [.result mcDrvOk, .openSession 10 0x200 7, .mapBulkMem 10 0x9000] ∧
      (asked 1 mapBesideRefusal).length = 3 ∧
      answersTo 2 d = [.result mcDrvErrDaemonDeviceNotOpen] ∧
      (asked 2 mapBesideRefusal).length = 1 :=
  ⟨_, rfl, rfl, (@answers_inOrder mapBesideRefusal _ rfl 1).2.2 rfl, rfl,
    (@answers_inOrder mapBesideRefusal _ rfl 2).2.2 rfl⟩


end Daemon

end Exynos8890.MobiCore
