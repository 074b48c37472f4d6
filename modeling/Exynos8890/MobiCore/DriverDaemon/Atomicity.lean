import Exynos8890.MobiCore.DriverDaemon.WellFormed

/-!
# Commands that fail

Opening a session and mapping a buffer record what they do, wait for the secure world
and return through many exits.  What a failed command leaves behind is the session
that the secure world has opened before the service blob could not be unregistered,
the buffer recorded before the map command failed, and what the secure world has
mapped although it did not say so.

Main results:

- Theorem `run_progress`: how far an open or map command is, at each place of the
  server.
- Theorem `failedCommand_unchanged_iff`: a failed command changes nothing exactly when
  it leaves nothing behind.
- Theorem `not_failedCommand_unchanged`: a map command that fails leaves its buffer
  recorded.
-/

namespace Exynos8890.MobiCore

/-- The command opens a session. -/
def Command.opened : Command → Option CmdOpenSession
  | .openSession cmd _ => some cmd
  | .openTrustlet cmd _ _ => some cmd
  | _ => none

/-- The command maps a buffer. -/
def Command.mapped : Command → Option CmdMapBulkBuf
  | .mapBulkBuf cmd _ => some cmd
  | _ => none

/-- An answer to this client. -/
def Event.answerTo (conn : ConnPtr) : Event → Option Response
  | .answer c rsp => if c = conn then some rsp else none
  | _ => none

namespace Daemon

/-- The answer of the secure world. -/
def Label.reply? : Label → Option McpReply
  | .reply r _ => some r
  | _ => none

/-- The answer of the kernel module to the unregistering of the service blob. -/
def Label.unregister? : Label → Option Bool
  | .unregister ok => some ok
  | _ => none

/-- The label is a step of the server. -/
def Label.byServer : Label → Bool
  | .accept _ => false
  | l => !l.byIrq

/-! ## What a command leaves behind -/

/-- The sessions with their buffers, and what the secure world has mapped. -/
def booking (d : Daemon) : List (SessionRef × BulkBuffers) × List SecureMapping :=
  (d.trustletSessions.map fun s => (s.ref, s.buffers), d.mapped)

/-- The answers to a client so far. -/
def answersTo (conn : ConnPtr) (d : Daemon) : List Response :=
  d.trace.filterMap (Event.answerTo conn)

def replies (ls : List Label) : List McpReply :=
  ls.filterMap Label.reply?

def unregisters (ls : List Label) : List Bool :=
  ls.filterMap Label.unregister?

/-- The session was opened, and the service blob could not be unregistered. -/
def LeavesSession (ls : List Label) : Prop :=
  (∃ r ∈ replies ls, r.mcResult mcMcpCmdOpenSession = mcDrvOk) ∧ false ∈ unregisters ls

/-- The session was opened with its TCI, and the answer does not say so. -/
def LeavesTci (cmd : CmdOpenSession) (ls : List Label) : Prop :=
  (cmd.handle ≠ 0 ∧ cmd.len ≠ 0) ∧
    ∃ r ∈ replies ls, r.mcResult mcMcpCmdOpenSession ≠ mcDrvOk ∧
      r.carriedOut mcMcpCmdOpenSession = true

/-- The map command failed, with the buffer recorded for the first time or mapped all the
same. -/
def LeavesBuffer (d : Daemon) (conn : ConnPtr) (cmd : CmdMapBulkBuf) (ls : List Label) : Prop :=
  ∃ r ∈ replies ls, r.mcResult mcMcpCmdMap ≠ mcDrvOk ∧
    (r.carriedOut mcMcpCmdMap = true ∨
      ∀ s ∈ d.findSession conn cmd.sessionId, s.holds cmd.handle = false)

/-- What kernel module and secure world answer makes the command leave something
behind. -/
def LeavesBehind (d : Daemon) (conn : ConnPtr) (cmd : Command) (ls : List Label) : Prop :=
  (∃ c ∈ cmd.opened, LeavesSession ls ∨ LeavesTci c ls) ∨
    ∃ c ∈ cmd.mapped, LeavesBuffer d conn c ls

instance (cmd : CmdOpenSession) (ls : List Label) : Decidable (LeavesTci cmd ls) :=
  inferInstanceAs (Decidable (_ ∧ _))

instance (d : Daemon) (conn : ConnPtr) (cmd : CmdMapBulkBuf) (ls : List Label) :
    Decidable (LeavesBuffer d conn cmd ls) :=
  inferInstanceAs (Decidable (∃ r ∈ replies ls, _))

instance (ls : List Label) : Decidable (LeavesSession ls) :=
  inferInstanceAs (Decidable (_ ∧ _))

instance (d : Daemon) (conn : ConnPtr) (cmd : Command) (ls : List Label) :
    Decidable (LeavesBehind d conn cmd ls) :=
  inferInstanceAs (Decidable (_ ∨ _))

/-! ## How far the command is -/

/-- The command has been answered once; on failure nothing has changed exactly when
nothing was left behind. -/
def Answered (d₀ : Daemon) (conn : ConnPtr) (cmd : Command) (ls : List Label) (d : Daemon) :
    Prop :=
  ∃ rsp, answersTo conn d = answersTo conn d₀ ++ [rsp] ∧
    ((rsp.isOk = false → booking d = booking d₀) ↔ ¬ LeavesBehind d₀ conn cmd ls)

/-- The open command has been sent. -/
structure OpenSent (d₀ : Daemon) (conn : ConnPtr) (cmd : Command) (ls : List Label) (d : Daemon)
    (frame : OpenFrame) : Prop where
  client : frame.conn = conn
  command : ∃ c, cmd.opened = some c ∧ frame.tciHandle = c.handle ∧ frame.tciLen = c.len
  buffer : frame.tci.wsmType ≠ wsmInvalid ↔ frame.usesTci
  unanswered : answersTo conn d = answersTo conn d₀
  first : replies ls = [] ∧ unregisters ls = []
  unchanged : booking d = booking d₀

/-- `openSession` has decided on its result. -/
structure OpenDecided (d₀ : Daemon) (conn : ConnPtr) (cmd : Command) (ls : List Label)
    (d : Daemon) (client : ConnPtr) (rsp : Response) : Prop where
  client : client = conn
  command : ∃ c, cmd.opened = some c ∧
    (rsp.isOk = false → (booking d = booking d₀ ↔ ¬ LeavesTci c ls))
  unanswered : answersTo conn d = answersTo conn d₀
  blob : unregisters ls = []
  opened : rsp.isOk = true → booking d ≠ booking d₀ ∧
    ∃ r, replies ls = [r] ∧ r.mcResult mcMcpCmdOpenSession = mcDrvOk
  failed : rsp.isOk = false → ∀ r ∈ replies ls, r.mcResult mcMcpCmdOpenSession ≠ mcDrvOk

/-- The map command has been sent. -/
structure MapSent (d₀ : Daemon) (conn : ConnPtr) (cmd : Command) (ls : List Label) (d : Daemon)
    (client : ConnPtr) (c : CmdMapBulkBuf) : Prop where
  client : client = conn
  command : cmd.mapped = some c
  unanswered : answersTo conn d = answersTo conn d₀
  first : replies ls = [] ∧ unregisters ls = []
  unmapped : d.mapped = d₀.mapped
  recorded : ∃ s, d₀.findSession conn c.sessionId = some s ∧
    ((booking d).1 = (booking d₀).1 ↔ s.holds c.handle = true)

/-- How far the command is that was received in the state `d₀`. -/
def Progress (d₀ : Daemon) (conn : ConnPtr) (cmd : Command) (ls : List Label) (d : Daemon) :
    Prop :=
  match d.srv with
  | .idle => Answered d₀ conn cmd ls d
  | .openWait frame => OpenSent d₀ conn cmd ls d frame
  | .openDrain client _ rsp => OpenDecided d₀ conn cmd ls d client rsp
  | .openReturn client rsp => OpenDecided d₀ conn cmd ls d client rsp
  | .mapWait client c _ => MapSent d₀ conn cmd ls d client c
  | _ => False

/-! ## The other threads -/

/-- Accepting a connection and the IRQ thread touch nothing that a command books. -/
theorem effect_otherThreads {d t : Daemon} {l : Label} (h : Effect d l t)
    (hl : l.byServer = false) (conn : ConnPtr) :
    t.srv = d.srv ∧ booking t = booking d ∧ answersTo conn t = answersTo conn d := by
  have haccess : ∀ n ts, (d.access n ts).trace.filterMap (Event.answerTo conn) =
      d.trace.filterMap (Event.answerTo conn) := by
    intro n ts
    by_cases hnone : (d.sessionAt ts.ref).isNone <;> simp [hnone, Event.answerTo]
  cases h with
  | accepted => exact ⟨rfl, rfl, rfl⟩
  | receivedUnknown | receivedFound | parked =>
      refine ⟨rfl, rfl, ?_⟩
      simp [answersTo, Event.answerTo]
  | lockLost | locked | deliverLost => exact ⟨rfl, rfl, haccess _ _⟩
  | @stored n ts session hpc hsome =>
      refine ⟨rfl, ?_, ?_⟩
      · rw [booking, storeNotification_trustletSessions,
          KeyedList.map_update fun s => by simp]
        rfl
      · rw [answersTo, storeNotification_trace, List.filterMap_append, haccess]
        simp [answersTo, Event.answerTo]
  | @forwarded n ts c session hpc hsome =>
      refine ⟨rfl, rfl, ?_⟩
      rw [answersTo, forwardNotification_trace, List.filterMap_append, haccess]
      simp [answersTo, Event.answerTo]
  | closeRefused hcall | closeSent hcall | closeSentGp hcall => cases hcall <;> cases hl
  | _ => cases hl

/-- Progress depends on the server, on what is booked and on the answers. -/
theorem Progress.of_frame {d₀ d t : Daemon} {conn : ConnPtr} {cmd : Command} {ls ms : List Label}
    (hp : Progress d₀ conn cmd ls d)
    (hframe : t.srv = d.srv ∧ booking t = booking d ∧ answersTo conn t = answersTo conn d)
    (hreplies : replies ms = replies ls) (hunregisters : unregisters ms = unregisters ls) :
    Progress d₀ conn cmd ms t := by
  obtain ⟨hsrv, hbooking, hanswers⟩ := hframe
  have hmapped : t.mapped = d.mapped := congrArg Prod.snd hbooking
  have hsession : LeavesSession ms ↔ LeavesSession ls := by
    rw [LeavesSession, LeavesSession, hreplies, hunregisters]
  have htci : ∀ c, LeavesTci c ms ↔ LeavesTci c ls := fun c => by
    rw [LeavesTci, LeavesTci, hreplies]
  have hleaves : LeavesBehind d₀ conn cmd ms ↔ LeavesBehind d₀ conn cmd ls := by
    simp only [LeavesBehind, LeavesBuffer, hsession, htci, hreplies]
  unfold Progress at hp ⊢
  rw [hsrv]
  cases hpc : d.srv with
  | idle =>
      simp only [hpc] at hp
      simp only [Answered, hanswers, hbooking, hleaves]
      exact hp
  | openWait frame =>
      simp only [hpc] at hp
      exact ⟨hp.client, hp.command, hp.buffer, hanswers.trans hp.unanswered,
        ⟨hreplies.trans hp.first.1, hunregisters.trans hp.first.2⟩, hbooking.trans hp.unchanged⟩
  | openDrain client ref rsp | openReturn client rsp =>
      simp only [hpc] at hp
      refine ⟨hp.client, ?_, hanswers.trans hp.unanswered, hunregisters.trans hp.blob, ?_, ?_⟩
      · simp only [hbooking, htci]
        exact hp.command
      · rw [hbooking, hreplies]
        exact hp.opened
      · rw [hreplies]
        exact hp.failed
  | mapWait client c pAddrL2 =>
      simp only [hpc] at hp
      refine ⟨hp.client, hp.command, hanswers.trans hp.unanswered,
        ⟨hreplies.trans hp.first.1, hunregisters.trans hp.first.2⟩, hmapped.trans hp.unmapped, ?_⟩
      rw [hbooking]
      exact hp.recorded
  | closeWait | closeRetryWait | unmapWait | closeLoop | nqRegistered | nqDrain | taExit
  | taExitWait | halted => simp only [hpc] at hp

/-! ## The command itself -/

theorem filterMap_concat {β : Type} (f : Label → Option β) (ls : List Label) (l : Label) :
    (ls ++ [l]).filterMap f = ls.filterMap f ++ (f l).toList := by
  rw [List.filterMap_append]
  cases hl : f l <;> simp [hl]

theorem replies_append (ls : List Label) (l : Label) :
    replies (ls ++ [l]) = replies ls ++ l.reply?.toList :=
  filterMap_concat Label.reply? ls l

theorem unregisters_append (ls : List Label) (l : Label) :
    unregisters (ls ++ [l]) = unregisters ls ++ l.unregister?.toList :=
  filterMap_concat Label.unregister? ls l

theorem not_leavesBehind_nil (d : Daemon) (conn : ConnPtr) (cmd : Command) :
    ¬ LeavesBehind d conn cmd [] := by
  simp [LeavesBehind, LeavesSession, LeavesTci, LeavesBuffer, replies]

theorem Command.Opens.opened_eq {cmd : Command} {c : CmdOpenSession} {load : LoadDataOpenSession}
    {wsm : WsmAnswers} (h : Command.Opens cmd c load wsm) : cmd.opened = some c := by
  cases h <;> rfl

/-- Recording a buffer changes the tables of a session unless the handle is known. -/
theorem buffers_addBulkBuff {d : Daemon} (hd : d.refs.Nodup) {s : TrustletSession}
    (hs : s ∈ d.trustletSessions) (pWsm : CWsm) :
    (KeyedList.update TrustletSession.ref s.ref (TrustletSession.addBulkBuff pWsm)
        d.trustletSessions).map (fun s => (s.ref, s.buffers)) =
      d.trustletSessions.map (fun s => (s.ref, s.buffers)) ↔ s.holds pWsm.handle = true := by
  constructor
  · intro heq
    have hmem : (s.ref, (s.addBulkBuff pWsm).buffers) ∈
        (KeyedList.update TrustletSession.ref s.ref (TrustletSession.addBulkBuff pWsm)
          d.trustletSessions).map fun s => (s.ref, s.buffers) :=
      List.mem_map.mpr ⟨s.addBulkBuff pWsm,
        KeyedList.mem_update.mpr (Or.inl ⟨s, hs, rfl, rfl⟩), rfl⟩
    rw [heq] at hmem
    obtain ⟨s', hs', hpair⟩ := List.mem_map.mp hmem
    obtain ⟨href, hbuffers⟩ := Prod.mk.inj hpair
    obtain rfl := eq_of_ref_eq hd hs' hs href
    have hholds := TrustletSession.holds_addBulkBuff pWsm s' pWsm.handle
    rw [TrustletSession.holds, ← hbuffers] at hholds
    rw [TrustletSession.holds, hholds]
    simp
  · intro hholds
    rw [KeyedList.update, List.map_map]
    refine List.map_congr_left fun s' hs' => ?_
    by_cases href : s'.ref = s.ref
    · obtain rfl := eq_of_ref_eq hd hs' hs href
      have hsame : s'.addBulkBuff pWsm = s' := by
        rw [TrustletSession.addBulkBuff, OrderedTable.emplace_of_contains hholds]
      rw [Function.comp_apply, if_pos rfl, hsame]
    · simp [href]

/-- A command that is refused at once has changed nothing. -/
theorem answered_of_refused {d₀ d : Daemon} {conn : ConnPtr} {cmd : Command} (code : McResult)
    (hanswers : answersTo conn d = answersTo conn d₀ ++ [.result code])
    (hbooking : booking d = booking d₀) : Answered d₀ conn cmd [] d :=
  ⟨.result code, hanswers, fun _ => not_leavesBehind_nil d₀ conn cmd, fun _ _ => hbooking⟩

/-- An open command that fails early has changed nothing. -/
theorem openDecided_of_refused {d₀ d : Daemon} {conn : ConnPtr} {cmd : Command}
    {c : CmdOpenSession} {code : McResult} (hcmd : cmd.opened = some c) (hcode : code ≠ mcDrvOk)
    (hanswers : answersTo conn d = answersTo conn d₀) (hbooking : booking d = booking d₀) :
    OpenDecided d₀ conn cmd [] d conn (.result code) := by
  refine ⟨rfl, ⟨c, hcmd, fun _ => ?_⟩, hanswers, rfl, fun hok => ?_, fun _ => ?_⟩
  · simp [hbooking, LeavesTci, replies]
  · simp [Response.isOk, hcode] at hok
  · simp [replies]

/-- How far an open or map command is after its first step. -/
theorem command_progress {d₀ t : Daemon} {conn : ConnPtr} {cmd : Command} (hw : WellFormed d₀)
    (hcmd : cmd.opened.isSome ∨ cmd.mapped.isSome) (h : Effect d₀ (.command conn cmd) t) :
    Progress d₀ conn cmd [] t := by
  cases h with
  | @refused _ _ code =>
      refine answered_of_refused code ?_ rfl
      simp [answersTo, Event.answerTo]
  | openRefused hidle hopen hopens hcode =>
      exact openDecided_of_refused hopens.opened_eq hcode rfl rfl
  | openLeaked hidle hopen hopens huses htci hlock hlen hcode =>
      refine openDecided_of_refused hopens.opened_eq hcode ?_ rfl
      simp [answersTo, List.filterMap_cons, Event.answerTo]
  | openSent hidle hopen hopens hframe huses hwsm =>
      refine ⟨hframe.1, ⟨_, hopens.opened_eq, hframe.2⟩, ?_, ?_, ⟨rfl, rfl⟩, rfl⟩
      · simp [huses, hwsm]
      · simp [answersTo, List.filterMap_cons, Event.answerTo]
  | openSentTci hidle hopen hopens hframe huses hwsm =>
      refine ⟨hframe.1, ⟨_, hopens.opened_eq, hframe.2⟩, ?_, ?_, ⟨rfl, rfl⟩, rfl⟩
      · simp [huses, hwsm]
      · simp [answersTo, List.filterMap_cons, Event.answerTo]
  | @mapLeaked _ c wsm code =>
      refine answered_of_refused code ?_ rfl
      simp [answersTo, List.filterMap_cons, Event.answerTo]
  | @mapSent _ c wsm session hidle hopen hlock hl2 hsome =>
      refine ⟨rfl, rfl, ?_, ⟨rfl, rfl⟩, rfl, session, hsome, ?_⟩
      · simp [answersTo, List.filterMap_cons, Event.answerTo]
      · exact buffers_addBulkBuff hw.distinct (findSession_spec hsome).1 _
  | deviceOpened | deviceClosing | nqRefused | nqConnected | notifyIgnored | notifySent
  | unmapSent => simp [Command.opened, Command.mapped] at hcmd
  | closeRefused hcall | closeSent hcall | closeSentGp hcall =>
      cases hcall
      simp [Command.opened, Command.mapped] at hcmd

/-! ## The answers -/

theorem append_eq_self_iff {α : Type} {p : Prop} [Decidable p] {l : List α} {a : α} :
    l ++ (if p then [a] else []) = l ↔ ¬ p := by
  by_cases hp : p <;> simp [hp]

theorem openReply_progress {d₀ d t : Daemon} {conn : ConnPtr} {cmd : Command} {ls : List Label}
    {frame : OpenFrame} {r : McpReply} {host : HostChoice}
    (hp : OpenSent d₀ conn cmd ls d frame)
    (h : d.openSessionReply frame r host.addr host.magic = some t) :
    Progress d₀ conn cmd (ls ++ [.reply r host]) t := by
  obtain ⟨hclient, ⟨c, hcmd, hhandle, hlen⟩, hbuffer, hanswers, ⟨hreplies, hunregisters⟩,
    hbooking⟩ := hp
  have hreplies' : replies (ls ++ [.reply r host]) = [r] := by
    rw [replies_append, hreplies]
    rfl
  have hunregisters' : unregisters (ls ++ [.reply r host]) = [] := by
    rw [unregisters_append, hunregisters]
    rfl
  have huses : frame.usesTci ↔ c.handle ≠ 0 ∧ c.len ≠ 0 := by
    rw [OpenFrame.usesTci, hhandle, hlen]
  have hmapTci : answersTo conn (d.mapTci frame r) = answersTo conn d := by
    simp [answersTo, List.filterMap_cons, Event.answerTo]
  unfold openSessionReply at h
  simp only at h
  split at h
  · -- the secure world did not answer with success
    rename_i hcode
    cases h
    refine ⟨hclient, ⟨c, hcmd, fun _ => ?_⟩, ?_, hunregisters', fun hok => ?_, fun _ => ?_⟩
    · rw [← hbooking, booking, booking, Prod.mk.injEq]
      simp only [LeavesTci, hreplies', List.mem_singleton, exists_eq_left, ← huses]
      simp [hcode, hbuffer, and_comm]
    · rw [← hanswers, ← hmapTci]
      by_cases huse : frame.usesTci <;>
        simp [answersTo, List.filterMap_cons, Event.answerTo, huse]
    · simp [Response.isOk, hcode] at hok
    · simpa [hreplies'] using hcode
  · rename_i hcode
    split at h
    · cases h
    · cases h
      refine ⟨hclient, ⟨c, hcmd, fun hfail => ?_⟩, ?_, hunregisters',
        fun _ => ⟨?_, r, hreplies', not_not.mp hcode⟩, fun hfail => ?_⟩
      · cases hfail
      · rw [← hanswers, ← hmapTci]
        simp [answersTo, List.filterMap_cons, Event.answerTo]
      · rw [← hbooking]
        intro heq
        have hlength := congrArg (fun b => b.1.length) heq
        simp [booking] at hlength
      · cases hfail

theorem mapReply_progress {d₀ d : Daemon} {conn client : ConnPtr} {cmd : Command}
    {ls : List Label} {c : CmdMapBulkBuf} {pAddrL2 : UInt64} {r : McpReply} {host : HostChoice}
    (hp : MapSent d₀ conn cmd ls d client c) :
    Progress d₀ conn cmd (ls ++ [.reply r host]) (d.mapBulkReply client c pAddrL2 r) := by
  obtain ⟨rfl, hcmd, hanswers, ⟨hreplies, -⟩, hunmapped, s, hsome, hrecorded⟩ := hp
  have hleaves : LeavesBehind d₀ client cmd (ls ++ [.reply r host]) ↔
      r.mcResult mcMcpCmdMap ≠ mcDrvOk ∧
        (r.carriedOut mcMcpCmdMap = true ∨ s.holds c.handle = false) := by
    have hopened : cmd.opened = none := by
      cases cmd <;> first | rfl | cases hcmd
    simp [LeavesBehind, LeavesBuffer, replies_append, hreplies, Label.reply?, hopened, hcmd, hsome]
  unfold mapBulkReply
  simp only
  split
  · rename_i hcode
    refine ⟨.result (r.mcResult mcMcpCmdMap), ?_, ?_⟩
    · rw [← hanswers]
      simp [answersTo, List.filterMap_cons, Event.answerTo]
    · have hfailed : (Response.result (r.mcResult mcMcpCmdMap)).isOk = false := by
        simp [Response.isOk, hcode]
      have hbooking : booking ((d.mapBuffer c pAddrL2 r).writeResult client
          (r.mcResult mcMcpCmdMap)) = booking d₀ ↔
            s.holds c.handle = true ∧ ¬ r.carriedOut mcMcpCmdMap = true := by
        rw [Prod.ext_iff, ← hrecorded]
        refine and_congr Iff.rfl ?_
        show d.mapped ++ _ = d₀.mapped ↔ _
        rw [← hunmapped]
        exact append_eq_self_iff
      rw [hleaves, hbooking]
      simp [hfailed, hcode, and_comm]
  · rename_i hcode
    refine ⟨.mapBulkMem c.sessionId r.value, ?_, ?_⟩
    · rw [← hanswers]
      simp [answersTo, List.filterMap_cons, Event.answerTo]
    · rw [hleaves]
      simp [Response.isOk, not_not.mp hcode]

/-- One more notification is handed to the new session, or the loop ends. -/
theorem openDrain_progress {d₀ d : Daemon} {conn client : ConnPtr} {cmd : Command}
    {ls : List Label} {ref : SessionRef} {rsp : Response}
    (hp : OpenDecided d₀ conn cmd ls d client rsp) (hpc : d.srv = .openDrain client ref rsp) :
    Progress d₀ conn cmd (ls ++ [.drain]) (d.openDrainStep client ref rsp) := by
  have hreplies : replies (ls ++ [.drain]) = replies ls := by
    rw [replies_append]
    exact List.append_nil _
  have hunregisters : unregisters (ls ++ [.drain]) = unregisters ls := by
    rw [unregisters_append]
    exact List.append_nil _
  have hdecided : Progress d₀ conn cmd ls (d.goto (.openReturn client rsp)) :=
    ⟨hp.client, hp.command, hp.unanswered, hp.blob, hp.opened, hp.failed⟩
  unfold openDrainStep
  split
  · exact hdecided.of_frame ⟨rfl, rfl, rfl⟩ hreplies hunregisters
  · rename_i front rest hqueue
    have hdraining : Progress d₀ conn cmd ls d := by
      unfold Progress
      rw [hpc]
      exact hp
    refine hdraining.of_frame ⟨rfl, ?_, ?_⟩ hreplies hunregisters
    · rw [booking, drainFront_trustletSessions, KeyedList.map_update fun s => by simp]
      rfl
    · simp [answersTo, Event.answerTo]

theorem leavesBehind_of_opened {d : Daemon} {conn : ConnPtr} {cmd : Command} {c : CmdOpenSession}
    {ls : List Label} (hcmd : cmd.opened = some c) :
    LeavesBehind d conn cmd ls ↔ LeavesSession ls ∨ LeavesTci c ls := by
  have hmapped : cmd.mapped = none := by
    cases cmd <;> first | rfl | cases hcmd
  simp [LeavesBehind, hcmd, hmapped]

/-- The service blob is unregistered, and the command answered. -/
theorem openReturn_progress {d₀ d : Daemon} {conn client : ConnPtr} {cmd : Command}
    {ls : List Label} {rsp : Response} {ok : Bool} (hp : OpenDecided d₀ conn cmd ls d client rsp) :
    Progress d₀ conn cmd (ls ++ [.unregister ok]) (d.processOpenReturn client rsp ok) := by
  obtain ⟨rfl, ⟨c, hc, hbooking⟩, hanswers, hblob, hopened, hfailed⟩ := hp
  have hreplies : replies (ls ++ [.unregister ok]) = replies ls := by
    rw [replies_append]
    exact List.append_nil _
  have hunregisters : unregisters (ls ++ [.unregister ok]) = [ok] := by
    rw [unregisters_append, hblob]
    rfl
  have hleaves : LeavesBehind d₀ client cmd (ls ++ [.unregister ok]) ↔
      ((∃ r ∈ replies ls, r.mcResult mcMcpCmdOpenSession = mcDrvOk) ∧ ok = false) ∨
        LeavesTci c ls := by
    rw [leavesBehind_of_opened hc, LeavesSession, LeavesTci, LeavesTci, hreplies, hunregisters]
    simp
  -- whatever is written, it follows the answers so far
  have hwritten : ∀ rsp', answersTo client ((d.emit (.unregisterWsmL2 ok)).respond client rsp') =
      answersTo client d₀ ++ [rsp'] := by
    intro rsp'
    rw [← hanswers]
    simp [answersTo, List.filterMap_cons, Event.answerTo]
  have hkmod : (Response.result mcDrvErrDaemonKmodError).isOk = false := rfl
  cases hrsp : rsp.isOk with
  | true =>
      obtain ⟨hchanged, r, hr, hok⟩ := hopened hrsp
      have htci : ¬ LeavesTci c ls := by
        simp [LeavesTci, hr, hok]
      cases ok with
      | false =>
          refine ⟨_, hwritten (.result mcDrvErrDaemonKmodError), ?_⟩
          rw [hleaves]
          simp only [hkmod, hr, List.mem_singleton, exists_eq_left, hok, htci, and_self, or_false,
            not_true_eq_false, iff_false, true_implies]
          exact hchanged
      | true =>
          refine ⟨_, hwritten rsp, ?_⟩
          rw [hleaves]
          simp [hrsp, htci]
  | false =>
      have hsession : ¬ ((∃ r ∈ replies ls, r.mcResult mcMcpCmdOpenSession = mcDrvOk) ∧
          ok = false) := by
        rintro ⟨⟨r, hr, hok⟩, -⟩
        exact hfailed hrsp r hr hok
      rw [or_iff_right hsession] at hleaves
      cases ok with
      | false =>
          refine ⟨_, hwritten (.result mcDrvErrDaemonKmodError), ?_⟩
          rw [hleaves, ← hbooking hrsp]
          simp only [hkmod, true_implies]
          exact Iff.rfl
      | true =>
          refine ⟨_, hwritten rsp, ?_⟩
          rw [hleaves, ← hbooking hrsp]
          simp only [hrsp, true_implies]
          exact Iff.rfl

/-- Every step of the server on the command, and every step of the other threads. -/
theorem step_progress {d₀ d t : Daemon} {conn : ConnPtr} {cmd : Command} {ls : List Label}
    {l : Label} (hp : Progress d₀ conn cmd ls d) (hl : l.startsServer = false)
    (h : system.step d l = some t) :
    Progress d₀ conn cmd (ls ++ [l]) t := by
  cases hserver : l.byServer with
  | false =>
      refine hp.of_frame (effect_otherThreads (step_effect h) hserver conn) ?_ ?_
      · rw [replies_append]
        cases l <;> first | exact List.append_nil _ | cases hserver
      · rw [unregisters_append]
        cases l <;> first | exact List.append_nil _ | cases hserver
  | true =>
      unfold Progress at hp
      cases hpc : d.srv with
      | openWait frame =>
          simp only [hpc] at hp
          cases l with
          | reply r host =>
              simp only [system, step, reply, hpc] at h
              exact openReply_progress hp h
          | command | drop | taExit => cases hl
          | accept | irqReceive | irqPark | irqLock | irqDeliver => cases hserver
          | drain | unregister | nextSession | respond =>
              simp [system, step, drain, nextSession, hpc] at h
      | openDrain client ref rsp =>
          simp only [hpc] at hp
          cases l with
          | drain =>
              simp only [system, step, drain, hpc, Option.some.injEq] at h
              exact h ▸ openDrain_progress hp hpc
          | command | drop | taExit => cases hl
          | accept | irqReceive | irqPark | irqLock | irqDeliver => cases hserver
          | reply | unregister | nextSession | respond =>
              simp [system, step, reply, nextSession, hpc] at h
      | openReturn client rsp =>
          simp only [hpc] at hp
          cases l with
          | unregister ok =>
              simp only [system, step, hpc, Option.some.injEq] at h
              exact h ▸ openReturn_progress hp
          | command | drop | taExit => cases hl
          | accept | irqReceive | irqPark | irqLock | irqDeliver => cases hserver
          | reply | drain | nextSession | respond =>
              simp [system, step, reply, drain, nextSession, hpc] at h
      | mapWait client c pAddrL2 =>
          simp only [hpc] at hp
          cases l with
          | reply r host =>
              simp only [system, step, reply, hpc, Option.some.injEq] at h
              exact h ▸ mapReply_progress hp
          | command | drop | taExit => cases hl
          | accept | irqReceive | irqPark | irqLock | irqDeliver => cases hserver
          | drain | unregister | nextSession | respond =>
              simp [system, step, drain, nextSession, hpc] at h
      | idle =>
          cases l with
          | command | drop | taExit => cases hl
          | accept | irqReceive | irqPark | irqLock | irqDeliver => cases hserver
          | reply | drain | unregister | nextSession | respond =>
              simp [system, step, reply, drain, nextSession, hpc] at h
      | closeWait | closeRetryWait | unmapWait | closeLoop | nqRegistered | nqDrain | taExit
      | taExitWait | halted => simp only [hpc] at hp

/-! ## Runs -/

/-- How far an open or map command is after any steps of its server and of the other
threads. -/
theorem run_progress {ls : List Label} {d₀ d : Daemon} {conn : ConnPtr} {cmd : Command}
    (hw : WellFormed d₀) (hcmd : cmd.opened.isSome ∨ cmd.mapped.isSome)
    (hls : ∀ l ∈ ls, l.startsServer = false)
    (hrun : system.run d₀ (.command conn cmd :: ls) = some d) : Progress d₀ conn cmd ls d := by
  obtain ⟨m, hm, hrest⟩ := system.run_cons_eq_some.mp hrun
  have hfirst := command_progress hw hcmd (step_effect hm)
  exact TransitionSystem.run_invariant_labels (I := Progress d₀ conn cmd)
    (fun _ _ _ _ hp hl h => step_progress hp hl h) hfirst
    (TransitionSystem.stepsMeet_of_labels hls) hrest

/-- An open or map command, received in any reachable state and followed to its end, is
answered once.  If the answer is not success, sessions, buffers and mappings are as they
were exactly when the command has left nothing behind. -/
theorem failedCommand_unchanged_iff {ls₀ ls : List Label} {d₀ d : Daemon} {conn : ConnPtr}
    {cmd : Command} (hreach : system.run init ls₀ = some d₀)
    (hcmd : cmd.opened.isSome ∨ cmd.mapped.isSome) (hls : ∀ l ∈ ls, l.startsServer = false)
    (hrun : system.run d₀ (.command conn cmd :: ls) = some d) (hdone : d.srv = .idle) :
    ∃ rsp, answersTo conn d = answersTo conn d₀ ++ [rsp] ∧
      ((rsp.isOk = false → booking d = booking d₀) ↔ ¬ LeavesBehind d₀ conn cmd ls) := by
  have hprogress := run_progress (wellFormed_run hreach) hcmd hls hrun
  unfold Progress at hprogress
  rwa [hdone] at hprogress

/-- A client with a session. -/
def oneSession : List Label :=
  clientLabels 1 ++ openLabels 1 0 10 0x200

/-- A map command for handle 5 of the session. -/
def mapCommand : Command :=
  .mapBulkBuf { sessionId := 10, handle := 5, offsetPayload := 0, lenBulkMem := 0x100 }
    { contiguous := none, l2 := 0x8000, lock := true }

/-- The handle has been mapped before, and mapping it again is refused. -/
theorem failedCommand_unchanged_iff_mapTwice :
    ∃ d₀ d,
      system.run init
        (oneSession ++
          [.command 1 mapCommand, .reply (successReply mcMcpCmdMap 0x9000) (hostAt 0)]) =
        some d₀ ∧
      system.run d₀ [.command 1 mapCommand, .reply (failureReply mcMcpCmdMap 3) (hostAt 0)] =
        some d ∧
      (answersTo 1 d).getLast? = some (.result (makeMcDrvMcpError 3)) ∧
      booking d = booking d₀ := by
  obtain ⟨rsp, hanswers, hiff⟩ := @failedCommand_unchanged_iff
    (oneSession ++ [.command 1 mapCommand, .reply (successReply mcMcpCmdMap 0x9000) (hostAt 0)])
    [.reply (failureReply mcMcpCmdMap 3) (hostAt 0)] _ _ 1 mapCommand rfl (by decide) (by decide)
    rfl rfl
  refine ⟨_, _, rfl, rfl, rfl, hiff.mpr (by decide) ?_⟩
  have hlast := congrArg List.getLast? hanswers
  rw [List.getLast?_concat] at hlast
  obtain rfl := Option.some.inj hlast
  rfl

/-- A map command that is refused leaves its buffer recorded. -/
theorem not_failedCommand_unchanged :
    ¬ ∀ (ls₀ ls : List Label) (d₀ d : Daemon) (conn : ConnPtr) (cmd : Command) (rsp : Response),
      system.run init ls₀ = some d₀ → cmd.opened.isSome ∨ cmd.mapped.isSome →
      (∀ l ∈ ls, l.startsServer = false) →
      system.run d₀ (.command conn cmd :: ls) = some d → d.srv = .idle →
      answersTo conn d = answersTo conn d₀ ++ [rsp] → rsp.isOk = false →
      booking d = booking d₀ := by
  intro h
  obtain ⟨d₀, d, hreach, hrun, hdone, hanswers, hbefore, hafter⟩ : ∃ d₀ d,
      system.run init oneSession = some d₀ ∧
      system.run d₀ [.command 1 mapCommand, .reply (failureReply mcMcpCmdMap 3) (hostAt 0)] =
        some d ∧ d.srv = .idle ∧
      answersTo 1 d = answersTo 1 d₀ ++ [.result (makeMcDrvMcpError 3)] ∧
      ((booking d₀).1.map fun s => s.2.items.length) = [0] ∧
      ((booking d).1.map fun s => s.2.items.length) = [1] :=
    ⟨_, _, rfl, rfl, rfl, rfl, rfl, rfl⟩
  have hsame := h oneSession [.reply (failureReply mcMcpCmdMap 3) (hostAt 0)] d₀ d 1 mapCommand _
    hreach (by decide) (by decide) hrun hdone hanswers rfl
  rw [hsame, hbefore] at hafter
  cases hafter

end Daemon

end Exynos8890.MobiCore
