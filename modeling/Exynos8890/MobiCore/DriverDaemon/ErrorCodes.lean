import Exynos8890.MobiCore.DriverDaemon.Atomicity

/-!
# Error codes of the secure world

A command that the secure world refuses is answered with the result code of the control
protocol, wrapped by `MAKE_MC_DRV_MCP_ERROR`.  `openSession`, `mapBulk` and `unmapBulk`
wrap it once.  `closeSessionInternal` wraps it, and `closeSession` wraps what
`closeSessionInternal` returns.

Main results:

- Theorem `toNat_makeMcDrvMcpError`: what the macro computes, as a number.
- Theorem `run_errorProgress`: what the answer to a session command will be, at each place
  of the server.
- Theorem `errorSurvives_iff`: for which commands a refusal is wrapped exactly once.
- Theorem `not_errorSurvives`: a refused close command is answered with another code.
-/

namespace Exynos8890.MobiCore

/-! ## Wrapping a result -/

/-- `MAKE_MC_DRV_MCP_ERROR` keeps twenty bits of the code, above the major code. -/
theorem toNat_makeMcDrvMcpError (mcpCode : McResult) :
    (makeMcDrvMcpError mcpCode).toNat = mcpCode.toNat % 2 ^ 20 * 256 + 15 := by
  have hmask : (mcpCode &&& 0x000FFFFF).toNat = mcpCode.toNat % 2 ^ 20 := by
    rw [UInt32.toNat_and]
    exact Nat.and_two_pow_sub_one_eq_mod _ 20
  have hlt : mcpCode.toNat % 2 ^ 20 < 2 ^ 20 := Nat.mod_lt _ (by decide)
  have hshift : ((mcpCode &&& 0x000FFFFF) <<< 8).toNat = mcpCode.toNat % 2 ^ 20 * 256 := by
    rw [UInt32.toNat_shiftLeft, hmask]
    show (mcpCode.toNat % 2 ^ 20) <<< 8 % 2 ^ 32 = _
    rw [Nat.shiftLeft_eq]
    omega
  rw [makeMcDrvMcpError, UInt32.toNat_or, hshift]
  show 15 ||| mcpCode.toNat % 2 ^ 20 * 256 = _
  have hor := Nat.shiftLeft_add_eq_or_of_lt (show 15 < 2 ^ 8 by decide) (mcpCode.toNat % 2 ^ 20)
  rw [Nat.shiftLeft_eq] at hor
  rw [Nat.or_comm]
  exact hor.symm

/-- `MC_DRV_ERROR_MCP` of a wrapped result is the low byte of what was wrapped. -/
theorem mcDrvErrorMcp_makeMcDrvMcpError (mcpCode : McResult) :
    mcDrvErrorMcp (makeMcDrvMcpError mcpCode) = mcpCode &&& 0xFF := by
  apply UInt32.toNat_inj.mp
  rw [mcDrvErrorMcp, UInt32.toNat_and, UInt32.toNat_and, UInt32.toNat_shiftRight,
    toNat_makeMcDrvMcpError]
  show (mcpCode.toNat % 2 ^ 20 * 256 + 15) >>> 8 &&& 2 ^ 8 - 1 = mcpCode.toNat &&& 2 ^ 8 - 1
  rw [Nat.and_two_pow_sub_one_eq_mod, Nat.and_two_pow_sub_one_eq_mod, Nat.shiftRight_eq_div_pow]
  omega

/-- Two codes are wrapped alike when they agree on twenty bits. -/
theorem makeMcDrvMcpError_inj {a b : McResult} :
    makeMcDrvMcpError a = makeMcDrvMcpError b ↔ a.toNat % 2 ^ 20 = b.toNat % 2 ^ 20 := by
  rw [← UInt32.toNat_inj, toNat_makeMcDrvMcpError, toNat_makeMcDrvMcpError]
  omega

/-- The codes for which it makes no difference to wrap them twice. -/
def WrapsAlike (mcpCode : McResult) : Prop :=
  mcpCode &&& 0x000FFFFF = 0xF0F0F

instance (mcpCode : McResult) : Decidable (WrapsAlike mcpCode) :=
  inferInstanceAs (Decidable (_ = _))

theorem wrapsAlike_iff_mod (mcpCode : McResult) :
    WrapsAlike mcpCode ↔ mcpCode.toNat % 2 ^ 20 = 0xF0F0F := by
  rw [WrapsAlike, ← UInt32.toNat_inj, UInt32.toNat_and]
  show mcpCode.toNat &&& 2 ^ 20 - 1 = _ ↔ _
  rw [Nat.and_two_pow_sub_one_eq_mod]
  exact Iff.rfl

/-- A code without any of the twenty bits is wrapped to the bare major code. -/
theorem makeMcDrvMcpError_eq_major_iff (mcpCode : McResult) :
    mcDrvErrMcpError = makeMcDrvMcpError mcpCode ↔ mcpCode &&& 0x000FFFFF = 0 := by
  rw [← UInt32.toNat_inj, ← UInt32.toNat_inj, toNat_makeMcDrvMcpError, UInt32.toNat_and]
  show 15 = _ ↔ mcpCode.toNat &&& 2 ^ 20 - 1 = 0
  rw [Nat.and_two_pow_sub_one_eq_mod]
  omega

/-- Wrapping twice gives the same as wrapping once for one pattern of twenty bits. -/
theorem makeMcDrvMcpError_twice_iff (mcpCode : McResult) :
    makeMcDrvMcpError (makeMcDrvMcpError mcpCode) = makeMcDrvMcpError mcpCode ↔
      WrapsAlike mcpCode := by
  rw [makeMcDrvMcpError_inj, toNat_makeMcDrvMcpError, wrapsAlike_iff_mod]
  omega

/-- A code whose low byte is not that of the major code is never what two wrappings give. -/
theorem makeMcDrvMcpError_twice_ne {mcpCode : McResult}
    (h : mcpCode.toNat % 256 ≠ 15) (other : McResult) :
    makeMcDrvMcpError (makeMcDrvMcpError other) ≠ makeMcDrvMcpError mcpCode := by
  rw [Ne, makeMcDrvMcpError_inj, toNat_makeMcDrvMcpError]
  omega

/-- The codes that `closeSession` takes for `MC_MCP_RET_ERR_CLOSE_TASK_FAILED`. -/
theorem low_byte_of_closeTaskFailed {mcpCode : McResult}
    (h : makeMcDrvMcpError mcpCode = makeMcDrvMcpError mcMcpRetErrCloseTaskFailed) :
    mcpCode.toNat % 256 = 28 := by
  have hbits : mcpCode.toNat % 2 ^ 20 = 28 := makeMcDrvMcpError_inj.mp h
  omega

theorem not_wrapsAlike_of_closeTaskFailed {mcpCode : McResult}
    (h : makeMcDrvMcpError mcpCode = makeMcDrvMcpError mcMcpRetErrCloseTaskFailed) :
    ¬ WrapsAlike mcpCode := by
  have hlow := low_byte_of_closeTaskFailed h
  rw [wrapsAlike_iff_mod]
  omega

/-! ## Refusals -/

/-- The command that goes to the secure world for a command of a client. -/
def Command.mcpCmd : Command → Option UInt32
  | .openSession .. | .openTrustlet .. => some mcMcpCmdOpenSession
  | .closeSession _ => some mcMcpCmdCloseSession
  | .mapBulkBuf .. => some mcMcpCmdMap
  | .unmapBulkBuf _ => some mcMcpCmdUnmap
  | _ => none

namespace McpReply

/-- A valid response with a result that is not success. -/
structure Refuses (r : McpReply) (cmdId : UInt32) : Prop where
  answered : r.answered = true
  rspId : r.rspId = cmdId ||| flagResponse
  result : r.result ≠ mcMcpRetOk

instance (r : McpReply) (cmdId : UInt32) : Decidable (r.Refuses cmdId) :=
  decidable_of_iff (r.answered = true ∧ r.rspId = cmdId ||| flagResponse ∧ r.result ≠ mcMcpRetOk)
    ⟨fun h => ⟨h.1, h.2.1, h.2.2⟩, fun h => ⟨h.answered, h.rspId, h.result⟩⟩

theorem Refuses.mcResult {r : McpReply} {cmdId : UInt32} (h : r.Refuses cmdId) :
    r.mcResult cmdId = makeMcDrvMcpError r.result := by
  simp [McpReply.mcResult, h.answered, h.rspId, h.result]

theorem Refuses.closeResult {r : McpReply} (h : r.Refuses mcMcpCmdCloseSession) :
    r.closeResult = makeMcDrvMcpError r.result := by
  simp [McpReply.closeResult, sessionCloseResult, h.answered, h.rspId, h.result]

end McpReply

/-- The response id is the result of the secure world, wrapped once, and
`MC_DRV_ERROR_MCP` gives its low byte back. -/
def ErrorSurvives (result : McResult) (rsp : Response) : Prop :=
  ∃ code, rsp = .result code ∧ code = makeMcDrvMcpError result ∧
    mcDrvErrorMcp code = result &&& 0xFF

theorem errorSurvives_result_iff (result code : McResult) :
    ErrorSurvives result (.result code) ↔ code = makeMcDrvMcpError result := by
  constructor
  · rintro ⟨code', hrsp, hcode, -⟩
    cases hrsp
    exact hcode
  · intro hcode
    exact ⟨code, rfl, hcode, hcode ▸ mcDrvErrorMcp_makeMcDrvMcpError result⟩

namespace Daemon

/-- The result is wrapped once: by a map or unmap command, by an open command whose service
blob is unregistered (the error of the kernel module is the major code alone), and by a
close command only where wrapping twice gives the same. -/
def WrapsOnce (cmd : Command) (result : McResult) (ls : List Label) : Prop :=
  match cmd with
  | .openSession .. | .openTrustlet .. => false ∉ unregisters ls ∨ result &&& 0x000FFFFF = 0
  | .closeSession _ => WrapsAlike result
  | _ => True

instance (cmd : Command) (result : McResult) (ls : List Label) :
    Decidable (WrapsOnce cmd result ls) := by
  unfold WrapsOnce
  cases cmd <;> infer_instance

/-! ## How far a session command is -/

/-- The command has been answered, and what it says of a refusal. -/
def ErrorReported (d₀ : Daemon) (conn : ConnPtr) (cmd : Command) (ls : List Label) (d : Daemon) :
    Prop :=
  ∃ rsp, answersTo conn d = answersTo conn d₀ ++ [rsp] ∧
    ∀ r ∈ replies ls, ∀ cmdId, cmd.mcpCmd = some cmdId → r.Refuses cmdId →
      (ErrorSurvives r.result rsp ↔ WrapsOnce cmd r.result ls)

/-- Neither the client nor the daemon has an answer yet. -/
structure Waiting (d₀ : Daemon) (conn client : ConnPtr) (ls : List Label) (d : Daemon) :
    Prop where
  client : client = conn
  unanswered : answersTo conn d = answersTo conn d₀
  first : replies ls = [] ∧ unregisters ls = []

/-- `openSession` has decided on its result. -/
structure OpenResult (d₀ : Daemon) (conn client : ConnPtr) (cmd : Command) (ls : List Label)
    (d : Daemon) (rsp : Response) : Prop where
  client : client = conn
  command : cmd.opened.isSome
  unanswered : answersTo conn d = answersTo conn d₀
  blob : unregisters ls = []
  wrapped : ∀ r ∈ replies ls, r.Refuses mcMcpCmdOpenSession →
    rsp = .result (makeMcDrvMcpError r.result)

/-- A close command waits for its second answer. -/
structure CloseRetried (d₀ : Daemon) (conn client : ConnPtr) (ls : List Label) (d : Daemon) :
    Prop where
  client : client = conn
  unanswered : answersTo conn d = answersTo conn d₀
  first : ∃ r, replies ls = [r] ∧
    r.closeResult = makeMcDrvMcpError mcMcpRetErrCloseTaskFailed

/-- How far the session command is that was received in the state `d₀`. -/
def ErrorProgress (d₀ : Daemon) (conn : ConnPtr) (cmd : Command) (ls : List Label)
    (d : Daemon) : Prop :=
  match d.srv with
  | .idle => ErrorReported d₀ conn cmd ls d
  | .openWait frame => Waiting d₀ conn frame.conn ls d ∧ cmd.opened.isSome
  | .openDrain client _ rsp | .openReturn client rsp => OpenResult d₀ conn client cmd ls d rsp
  | .closeWait client _ _ caller =>
      Waiting d₀ conn client ls d ∧ caller = .processCloseSession ∧
        ∃ sessionId, cmd = .closeSession sessionId
  | .closeRetryWait client _ _ caller =>
      CloseRetried d₀ conn client ls d ∧ caller = .processCloseSession ∧
        ∃ sessionId, cmd = .closeSession sessionId
  | .mapWait client _ _ => Waiting d₀ conn client ls d ∧ cmd.mcpCmd = some mcMcpCmdMap
  | .unmapWait client _ _ => Waiting d₀ conn client ls d ∧ cmd.mcpCmd = some mcMcpCmdUnmap
  | .halted => True
  | _ => False

theorem ErrorProgress.of_frame {d₀ d t : Daemon} {conn : ConnPtr} {cmd : Command}
    {ls ms : List Label} (hp : ErrorProgress d₀ conn cmd ls d) (hsrv : t.srv = d.srv)
    (hanswers : answersTo conn t = answersTo conn d) (hreplies : replies ms = replies ls)
    (hunregisters : unregisters ms = unregisters ls) : ErrorProgress d₀ conn cmd ms t := by
  have hwrapsOnce : ∀ result, WrapsOnce cmd result ms ↔ WrapsOnce cmd result ls := by
    intro result
    unfold WrapsOnce
    rw [hunregisters]
  unfold ErrorProgress at hp ⊢
  rw [hsrv]
  cases hpc : d.srv with
  | idle =>
      simp only [hpc] at hp
      simp only [ErrorReported, hanswers, hreplies, hwrapsOnce]
      exact hp
  | openWait | mapWait | unmapWait | closeWait =>
      simp only [hpc] at hp
      constructor
      · constructor
        · exact hp.1.client
        · exact hanswers.trans hp.1.unanswered
        · exact ⟨hreplies.trans hp.1.first.1, hunregisters.trans hp.1.first.2⟩
      · exact hp.2
  | openDrain | openReturn =>
      simp only [hpc] at hp
      constructor
      · exact hp.client
      · exact hp.command
      · exact hanswers.trans hp.unanswered
      · exact hunregisters.trans hp.blob
      · rw [hreplies]
        exact hp.wrapped
  | closeRetryWait =>
      simp only [hpc] at hp
      constructor
      · constructor
        · exact hp.1.client
        · exact hanswers.trans hp.1.unanswered
        · rw [hreplies]
          exact hp.1.first
      · exact hp.2
  | halted => trivial
  | closeLoop | nqRegistered | nqDrain | taExit | taExitWait => simp only [hpc] at hp

/-! ## The command itself -/

/-- A command that is answered at once has reached no secure world. -/
theorem errorReported_of_refused {d₀ d : Daemon} {conn : ConnPtr} {cmd : Command}
    {code : McResult} (hanswers : answersTo conn d = answersTo conn d₀ ++ [.result code]) :
    ErrorReported d₀ conn cmd [] d := by
  refine ⟨.result code, hanswers, ?_⟩
  intro r hr
  exact absurd hr List.not_mem_nil

theorem openResult_of_refused {d₀ d : Daemon} {conn : ConnPtr} {cmd : Command} {rsp : Response}
    (hcmd : cmd.opened.isSome) (hanswers : answersTo conn d = answersTo conn d₀) :
    OpenResult d₀ conn conn cmd [] d rsp := by
  constructor
  · rfl
  · exact hcmd
  · exact hanswers
  · rfl
  · intro r hr
    exact absurd hr List.not_mem_nil

theorem Command.Opens.opened_isSome {cmd : Command} {c : CmdOpenSession}
    {load : LoadDataOpenSession} {wsm : WsmAnswers} (h : Command.Opens cmd c load wsm) :
    cmd.opened.isSome := by
  rw [h.opened_eq]
  rfl

theorem command_errorProgress {d₀ t : Daemon} {conn : ConnPtr} {cmd : Command}
    (hcmd : cmd.mcpCmd.isSome) (h : Effect d₀ (.command conn cmd) t) :
    ErrorProgress d₀ conn cmd [] t := by
  cases h with
  | refused =>
      apply errorReported_of_refused
      simp [answersTo, Event.answerTo]
      rfl
  | openRefused hidle hopen hopens hcode =>
      exact openResult_of_refused hopens.opened_isSome rfl
  | openLeaked hidle hopen hopens huses htci hlock hlen hcode =>
      apply openResult_of_refused hopens.opened_isSome
      simp [answersTo, List.filterMap_cons, Event.answerTo]
  | openSent hidle hopen hopens hframe =>
      refine ⟨⟨hframe.1, ?_, rfl, rfl⟩, hopens.opened_isSome⟩
      simp [answersTo, List.filterMap_cons, Event.answerTo]
  | openSentTci hidle hopen hopens hframe =>
      refine ⟨⟨hframe.1, ?_, rfl, rfl⟩, hopens.opened_isSome⟩
      simp [answersTo, List.filterMap_cons, Event.answerTo]
  | mapLeaked =>
      apply errorReported_of_refused
      simp [answersTo, List.filterMap_cons, Event.answerTo]
      rfl
  | mapSent | unmapSent =>
      refine ⟨⟨rfl, ?_, rfl, rfl⟩, rfl⟩
      simp [answersTo, List.filterMap_cons, Event.answerTo]
  | closeRefused hcall =>
      cases hcall
      apply errorReported_of_refused
      simp [answersTo, callerAnswer, List.filterMap_cons, Event.answerTo]
      rfl
  | closeSent hcall =>
      cases hcall
      refine ⟨⟨rfl, ?_, rfl, rfl⟩, rfl, _, rfl⟩
      simp [answersTo, List.filterMap_cons, Event.answerTo]
  | closeSentGp hcall =>
      cases hcall
      refine ⟨⟨rfl, ?_, rfl, rfl⟩, rfl, _, rfl⟩
      simp [answersTo, List.filterMap_cons, List.filterMap_append, Event.answerTo,
        List.filterMap_map, Function.comp_def]
  | deviceOpened | deviceClosing | nqRefused | nqConnected | notifyIgnored | notifySent =>
      cases hcmd

/-! ## The answers -/

theorem openReply_errorProgress {d₀ d t : Daemon} {conn : ConnPtr} {cmd : Command}
    {ls : List Label} {frame : OpenFrame} {r : McpReply} {host : HostChoice}
    (hp : Waiting d₀ conn frame.conn ls d) (hcmd : cmd.opened.isSome)
    (h : d.openSessionReply frame r host.addr host.magic = some t) :
    ErrorProgress d₀ conn cmd (ls ++ [.reply r host]) t := by
  have hreplies : replies (ls ++ [.reply r host]) = [r] := by
    rw [replies_append, hp.first.1]
    rfl
  have hunregisters : unregisters (ls ++ [.reply r host]) = [] := by
    rw [unregisters_append, hp.first.2]
    rfl
  have hmapTci : answersTo conn (d.mapTci frame r) = answersTo conn d := by
    simp [answersTo, List.filterMap_cons, Event.answerTo]
  unfold openSessionReply at h
  simp only at h
  split at h
  · cases h
    constructor
    · exact hp.client
    · exact hcmd
    · rw [← hp.unanswered, ← hmapTci]
      by_cases huse : frame.usesTci <;>
        simp [answersTo, List.filterMap_cons, Event.answerTo, huse]
    · exact hunregisters
    · rw [hreplies]
      intro r' hr' hrefuses
      cases List.mem_singleton.mp hr'
      rw [hrefuses.mcResult]
  · rename_i hcode
    split at h
    · cases h
    · cases h
      constructor
      · exact hp.client
      · exact hcmd
      · rw [← hp.unanswered, ← hmapTci]
        simp [answersTo, List.filterMap_cons, Event.answerTo]
      · exact hunregisters
      · -- an answer of success is no refusal
        rw [hreplies]
        intro r' hr' hrefuses
        cases List.mem_singleton.mp hr'
        rw [hrefuses.mcResult] at hcode
        exact absurd (not_not.mp hcode) (makeMcDrvMcpError_ne_ok _)

/-- What is reported when the command is answered with a wrapped result. -/
theorem errorReported_of_replies {d₀ d : Daemon} {conn : ConnPtr} {cmd : Command}
    {ls : List Label} {cmdId : UInt32} {rsp : Response} (hcmd : cmd.mcpCmd = some cmdId)
    (hanswers : answersTo conn d = answersTo conn d₀ ++ [rsp])
    (hrsp : ∀ r ∈ replies ls, r.Refuses cmdId →
      (ErrorSurvives r.result rsp ↔ WrapsOnce cmd r.result ls)) :
    ErrorReported d₀ conn cmd ls d := by
  refine ⟨rsp, hanswers, ?_⟩
  intro r hr cmdId' hcmd'
  cases hcmd.symm.trans hcmd'
  exact hrsp r hr

theorem bulkReply_errorProgress {d₀ d t : Daemon} {conn : ConnPtr} {cmd : Command}
    {ls : List Label} {cmdId : UInt32} {r : McpReply} {host : HostChoice} {rsp : Response}
    (hp : replies ls = []) (hcmd : cmd.mcpCmd = some cmdId)
    (honce : ∀ result, WrapsOnce cmd result (ls ++ [.reply r host]))
    (hidle : t.srv = .idle) (hanswers : answersTo conn t = answersTo conn d ++ [rsp])
    (hunanswered : answersTo conn d = answersTo conn d₀)
    (hrsp : r.mcResult cmdId ≠ mcDrvOk → rsp = .result (r.mcResult cmdId)) :
    ErrorProgress d₀ conn cmd (ls ++ [.reply r host]) t := by
  unfold ErrorProgress
  rw [hidle]
  apply errorReported_of_replies hcmd (hunanswered ▸ hanswers)
  intro r' hr' hrefuses
  rw [replies_append, hp] at hr'
  cases List.mem_singleton.mp hr'
  have hcode := hrefuses.mcResult
  have hwrapped : rsp = .result (makeMcDrvMcpError r.result) := by
    rw [hrsp (hcode ▸ makeMcDrvMcpError_ne_ok _), hcode]
  rw [hwrapped, errorSurvives_result_iff]
  exact iff_of_true rfl (honce _)

/-! ## The answers to a close command -/

/-- What `closeSession` returns for a result of `closeSessionInternal`. -/
def closeCode (mcRet : McResult) : McResult :=
  if mcRet ≠ mcMcpRetOk then makeMcDrvMcpError mcRet else mcMcpRetOk

theorem answersTo_closeReturn (conn : ConnPtr) (sessionId : UInt32) (ret : McResult)
    (d : Daemon) :
    answersTo conn (d.closeReturn conn sessionId .processCloseSession ret) =
      answersTo conn d ++ [.result ret] := by
  simp [answersTo, callerAnswer, List.filterMap_cons, Event.answerTo]

theorem answersTo_unmapClosed (conn : ConnPtr) (r : McpReply) (sessionId : UInt32)
    (d : Daemon) : answersTo conn (d.unmapClosed r sessionId) = answersTo conn d := by
  simp [answersTo, List.filterMap_cons, Event.answerTo]

theorem closeSessionFinish_answer (conn : ConnPtr) (sessionId : UInt32)
    (session : TrustletSession) (mcRet : McResult) (d : Daemon) :
    (d.closeSessionFinish conn sessionId session .processCloseSession mcRet).srv = .idle ∧
      answersTo conn (d.closeSessionFinish conn sessionId session .processCloseSession mcRet) =
        answersTo conn d ++ [.result (closeCode mcRet)] := by
  unfold closeSessionFinish closeCode
  split
  · exact ⟨rfl, answersTo_closeReturn _ _ _ _⟩
  · constructor
    · rfl
    · rw [answersTo_closeReturn]
      simp [answersTo, List.filterMap_map, Function.comp_def, Event.answerTo]

/-- `closeSession` answers the client, and its code is compared with each refusal. -/
theorem closeSessionFinish_errorProgress {d₀ : Daemon} {conn : ConnPtr} {ls : List Label}
    {sessionId : UInt32} (sessionId' : UInt32) (session : TrustletSession) (mcRet : McResult)
    {d : Daemon} (hunanswered : answersTo conn d = answersTo conn d₀)
    (hcode : ∀ r ∈ replies ls, r.Refuses mcMcpCmdCloseSession →
      (ErrorSurvives r.result (.result (closeCode mcRet)) ↔ WrapsAlike r.result)) :
    ErrorProgress d₀ conn (.closeSession sessionId') ls
      (d.closeSessionFinish conn sessionId session .processCloseSession mcRet) := by
  obtain ⟨hidle, hanswers⟩ := closeSessionFinish_answer conn sessionId session mcRet d
  unfold ErrorProgress
  rw [hidle]
  exact errorReported_of_replies rfl (hanswers.trans (by rw [hunanswered])) hcode

/-- A refused close command is answered with a code that is wrapped twice. -/
theorem errorSurvives_closeCode_iff {r : McpReply} (h : r.Refuses mcMcpCmdCloseSession) :
    ErrorSurvives r.result (.result (closeCode r.closeResult)) ↔ WrapsAlike r.result := by
  have hne : makeMcDrvMcpError r.result ≠ mcMcpRetOk := makeMcDrvMcpError_ne_ok _
  rw [errorSurvives_result_iff, h.closeResult, closeCode, if_pos hne]
  exact makeMcDrvMcpError_twice_iff _

/-- What a first answer of `CLOSE_TASK_FAILED` said is lost, whatever the second says. -/
theorem not_errorSurvives_of_retried {r : McpReply} (h : r.Refuses mcMcpCmdCloseSession)
    (hfailed : r.closeResult = makeMcDrvMcpError mcMcpRetErrCloseTaskFailed)
    (second : McpReply) :
    ¬ ErrorSurvives r.result (.result (closeCode second.closeResult)) := by
  rw [h.closeResult] at hfailed
  have hlow := low_byte_of_closeTaskFailed hfailed
  rw [errorSurvives_result_iff]
  unfold closeCode
  split
  · rename_i hne
    have hwrapped : second.closeResult = makeMcDrvMcpError second.sessionCloseResult := by
      unfold McpReply.closeResult at hne ⊢
      split
      · rfl
      · rename_i hok
        rw [if_neg hok] at hne
        exact absurd rfl hne
    rw [hwrapped]
    apply makeMcDrvMcpError_twice_ne
    omega
  · exact (makeMcDrvMcpError_ne_ok _).symm

theorem not_wrapsAlike_of_closeResult {r : McpReply} (h : r.Refuses mcMcpCmdCloseSession)
    (hfailed : r.closeResult = makeMcDrvMcpError mcMcpRetErrCloseTaskFailed) :
    ¬ WrapsAlike r.result :=
  not_wrapsAlike_of_closeTaskFailed (h.closeResult ▸ hfailed)

theorem closeReply_errorProgress {d₀ d t : Daemon} {conn : ConnPtr} {ls : List Label}
    {sessionId sessionId' : UInt32} {ref : SessionRef} {r : McpReply} {host : HostChoice}
    (hp : Waiting d₀ conn conn ls d)
    (h : d.closeSessionReply conn sessionId ref .processCloseSession r = some t) :
    ErrorProgress d₀ conn (.closeSession sessionId') (ls ++ [.reply r host]) t := by
  have hreplies : replies (ls ++ [.reply r host]) = [r] := by
    rw [replies_append, hp.first.1]
    rfl
  have hunmapped : answersTo conn (d.unmapClosed r sessionId) = answersTo conn d₀ := by
    rw [answersTo_unmapClosed, hp.unanswered]
  unfold closeSessionReply at h
  simp only at h
  split at h
  · cases h
  · rename_i session hsession
    split at h
    · rename_i hgp
      split at h
      · -- the TA has died in the meantime: the command is sent again
        cases h
        refine ⟨⟨rfl, ?_, r, hreplies, hgp.2⟩, rfl, _, rfl⟩
        rw [← hunmapped]
        simp [answersTo, List.filterMap_cons, Event.answerTo]
      · cases h
        unfold ErrorProgress
        apply errorReported_of_replies rfl
        · rw [answersTo_closeReturn, hunmapped]
        · rw [hreplies]
          intro r' hr' hrefuses
          cases List.mem_singleton.mp hr'
          rw [errorSurvives_result_iff]
          apply iff_of_false
          · exact (makeMcDrvMcpError_ne_ok _).symm
          · exact not_wrapsAlike_of_closeResult hrefuses hgp.2
    · cases h
      apply closeSessionFinish_errorProgress sessionId' session r.closeResult hunmapped
      rw [hreplies]
      intro r' hr' hrefuses
      cases List.mem_singleton.mp hr'
      exact errorSurvives_closeCode_iff hrefuses

theorem closeRetryReply_errorProgress {d₀ d t : Daemon} {conn : ConnPtr} {ls : List Label}
    {sessionId sessionId' : UInt32} {ref : SessionRef} {r : McpReply} {host : HostChoice}
    (hp : CloseRetried d₀ conn conn ls d)
    (h : d.closeSessionRetryReply conn sessionId ref .processCloseSession r host.ndebug =
      some t) :
    ErrorProgress d₀ conn (.closeSession sessionId') (ls ++ [.reply r host]) t := by
  obtain ⟨first, hfirst, hfailed⟩ := hp.first
  have hreplies : replies (ls ++ [.reply r host]) = [first, r] := by
    rw [replies_append, hfirst]
    rfl
  have hunmapped : answersTo conn (d.unmapClosed r sessionId) = answersTo conn d₀ := by
    rw [answersTo_unmapClosed, hp.unanswered]
  unfold closeSessionRetryReply at h
  simp only at h
  split at h
  · cases h
  · rename_i session hsession
    split at h
    · cases h
      trivial
    · cases h
      apply closeSessionFinish_errorProgress sessionId' session r.closeResult hunmapped
      rw [hreplies]
      intro r' hr' hrefuses
      rcases List.mem_pair.mp hr' with rfl | rfl
      · apply iff_of_false
        · exact not_errorSurvives_of_retried hrefuses hfailed r
        · exact not_wrapsAlike_of_closeResult hrefuses hfailed
      · exact errorSurvives_closeCode_iff hrefuses

/-! ## What follows an open command -/

/-- One more notification is handed to the new session, or the loop ends. -/
theorem openDrain_errorProgress {d₀ d : Daemon} {conn client : ConnPtr} {cmd : Command}
    {ls : List Label} {ref : SessionRef} {rsp : Response}
    (hp : OpenResult d₀ conn client cmd ls d rsp) (hpc : d.srv = .openDrain client ref rsp) :
    ErrorProgress d₀ conn cmd (ls ++ [.drain]) (d.openDrainStep client ref rsp) := by
  have hreplies : replies (ls ++ [.drain]) = replies ls := by
    rw [replies_append]
    exact List.append_nil _
  have hunregisters : unregisters (ls ++ [.drain]) = unregisters ls := by
    rw [unregisters_append]
    exact List.append_nil _
  have hdraining : ErrorProgress d₀ conn cmd ls d := by
    unfold ErrorProgress
    rw [hpc]
    exact hp
  have hdone : ErrorProgress d₀ conn cmd ls (d.goto (.openReturn client rsp)) :=
    ⟨hp.client, hp.command, hp.unanswered, hp.blob, hp.wrapped⟩
  unfold openDrainStep
  split
  · exact hdone.of_frame rfl rfl hreplies hunregisters
  · refine hdraining.of_frame rfl ?_ hreplies hunregisters
    simp [answersTo, Event.answerTo]

/-- The service blob is unregistered, and the command answered. -/
theorem openReturn_errorProgress {d₀ d : Daemon} {conn client : ConnPtr} {cmd : Command}
    {ls : List Label} {rsp : Response} {ok : Bool}
    (hp : OpenResult d₀ conn client cmd ls d rsp) :
    ErrorProgress d₀ conn cmd (ls ++ [.unregister ok]) (d.processOpenReturn client rsp ok) := by
  have hreplies : replies (ls ++ [.unregister ok]) = replies ls := by
    rw [replies_append]
    exact List.append_nil _
  have hunregisters : unregisters (ls ++ [.unregister ok]) = [ok] := by
    rw [unregisters_append, hp.blob]
    rfl
  have hcmdId : cmd.mcpCmd = some mcMcpCmdOpenSession := by
    have hcmd := hp.command
    cases cmd <;> first | rfl | cases hcmd
  have honce : ∀ result, WrapsOnce cmd result (ls ++ [.unregister ok]) ↔
      ok = true ∨ result &&& 0x000FFFFF = 0 := by
    intro result
    have hcmd := hp.command
    cases cmd with
    | openSession | openTrustlet =>
        rw [WrapsOnce, hunregisters]
        cases ok <;> simp
    | _ => cases hcmd
  have hwritten : ∀ rsp', answersTo conn ((d.emit (.unregisterWsmL2 ok)).respond client rsp') =
      answersTo conn d₀ ++ [rsp'] := by
    intro rsp'
    rw [← hp.unanswered, hp.client]
    simp [answersTo, List.filterMap_cons, Event.answerTo]
  have hreported : ∀ rsp', (∀ r ∈ replies ls, r.Refuses mcMcpCmdOpenSession →
      (ErrorSurvives r.result rsp' ↔ ok = true ∨ r.result &&& 0x000FFFFF = 0)) →
      ErrorProgress d₀ conn cmd (ls ++ [.unregister ok])
        ((d.emit (.unregisterWsmL2 ok)).respond client rsp') := by
    intro rsp' hrsp
    apply errorReported_of_replies hcmdId (hwritten rsp')
    intro r hr hrefuses
    rw [hreplies] at hr
    rw [honce]
    exact hrsp r hr hrefuses
  unfold processOpenReturn
  cases ok with
  | false =>
      apply hreported
      intro r hr hrefuses
      rw [errorSurvives_result_iff]
      rw [or_iff_right Bool.false_ne_true]
      exact makeMcDrvMcpError_eq_major_iff r.result
  | true =>
      apply hreported
      intro r hr hrefuses
      rw [hp.wrapped r hr hrefuses, errorSurvives_result_iff]
      exact iff_of_true rfl (Or.inl rfl)

/-! ## Runs -/

theorem server_errorProgress {d₀ d t : Daemon} {conn : ConnPtr} {cmd : Command}
    {ls : List Label} {l : Label} (hp : ErrorProgress d₀ conn cmd ls d)
    (hl : l.startsServer = false) (hserver : l.byServer = true)
    (h : system.step d l = some t) : ErrorProgress d₀ conn cmd (ls ++ [l]) t := by
  unfold ErrorProgress at hp
  cases l with
  | command | drop | taExit => cases hl
  | accept | irqReceive | irqPark | irqLock | irqDeliver => cases hserver
  | reply r host =>
      simp only [system, step, reply] at h
      cases hpc : d.srv with
      | openWait frame =>
          simp only [hpc] at hp h
          exact openReply_errorProgress hp.1 hp.2 h
      | closeWait client sessionId ref caller =>
          simp only [hpc] at hp h
          obtain ⟨hwait, rfl, sessionId', rfl⟩ := hp
          cases hwait.client
          exact closeReply_errorProgress hwait h
      | closeRetryWait client sessionId ref caller =>
          simp only [hpc] at hp h
          obtain ⟨hretried, rfl, sessionId', rfl⟩ := hp
          cases hretried.client
          exact closeRetryReply_errorProgress hretried h
      | mapWait client c pAddrL2 =>
          simp only [hpc, Option.some.injEq] at hp h
          obtain ⟨hwait, hcmd⟩ := hp
          cases hwait.client
          subst h
          have hidle : (d.mapBulkReply conn c pAddrL2 r).srv = .idle := by
            unfold mapBulkReply
            dsimp only
            split <;> rfl
          have hanswers : answersTo conn (d.mapBulkReply conn c pAddrL2 r) =
              answersTo conn d ++ [if r.mcResult mcMcpCmdMap ≠ mcDrvOk then
                .result (r.mcResult mcMcpCmdMap) else .mapBulkMem c.sessionId r.value] := by
            unfold mapBulkReply
            split <;> simp_all [answersTo, List.filterMap_cons, Event.answerTo]
          apply bulkReply_errorProgress hwait.first.1 hcmd _ hidle hanswers hwait.unanswered
          · exact fun hne => if_pos hne
          · intro result
            cases cmd with
            | mapBulkBuf => trivial
            | _ => cases hcmd
      | unmapWait client c ref =>
          simp only [hpc, Option.some.injEq] at hp h
          obtain ⟨hwait, hcmd⟩ := hp
          cases hwait.client
          subst h
          have hidle : (d.unmapBulkReply conn c ref r).srv = .idle := by
            unfold unmapBulkReply
            dsimp only
            split <;> rfl
          have hanswers : answersTo conn (d.unmapBulkReply conn c ref r) =
              answersTo conn d ++ [.result (if r.mcResult mcMcpCmdUnmap ≠ mcDrvOk then
                r.mcResult mcMcpCmdUnmap else mcDrvOk)] := by
            unfold unmapBulkReply
            split <;> simp_all [answersTo, List.filterMap_cons, Event.answerTo]
          apply bulkReply_errorProgress hwait.first.1 hcmd _ hidle hanswers hwait.unanswered
          · exact fun hne => congrArg Response.result (if_pos hne)
          · intro result
            cases cmd with
            | unmapBulkBuf => trivial
            | _ => cases hcmd
      | taExitWait => simp only [hpc] at hp
      | idle | openDrain | openReturn | closeLoop | nqRegistered | nqDrain | taExit | halted =>
          simp only [hpc] at h
          cases h
  | drain =>
      simp only [system, step, drain] at h
      cases hpc : d.srv with
      | openDrain client ref rsp =>
          simp only [hpc, Option.some.injEq] at hp h
          have hclient := hp.client
          exact h ▸ openDrain_errorProgress hp hpc
      | nqDrain => simp only [hpc] at hp
      | _ =>
          simp only [hpc] at h
          cases h
  | unregister ok =>
      simp only [system, step] at h
      cases hpc : d.srv with
      | openReturn client rsp =>
          simp only [hpc, Option.some.injEq] at hp h
          exact h ▸ openReturn_errorProgress hp
      | _ =>
          simp only [hpc] at h
          cases h
  | nextSession crash =>
      simp only [system, step, nextSession] at h
      cases hpc : d.srv with
      | closeLoop | taExit => simp only [hpc] at hp
      | _ =>
          simp only [hpc] at h
          cases h
  | respond =>
      simp only [system, step] at h
      cases hpc : d.srv with
      | nqRegistered => simp only [hpc] at hp
      | _ =>
          simp only [hpc] at h
          cases h

/-- Every step of the server on the command, and every step of the other threads. -/
theorem step_errorProgress {d₀ d t : Daemon} {conn : ConnPtr} {cmd : Command}
    {ls : List Label} {l : Label} (hp : ErrorProgress d₀ conn cmd ls d)
    (hl : l.startsServer = false) (h : system.step d l = some t) :
    ErrorProgress d₀ conn cmd (ls ++ [l]) t := by
  cases hserver : l.byServer with
  | false =>
      obtain ⟨hsrv, -, hanswers⟩ := effect_otherThreads (step_effect h) hserver conn
      apply hp.of_frame hsrv hanswers
      · rw [replies_append]
        cases l <;> first | exact List.append_nil _ | cases hserver
      · rw [unregisters_append]
        cases l <;> first | exact List.append_nil _ | cases hserver
  | true => exact server_errorProgress hp hl hserver h

/-- What the answer to a session command will be, after any steps of its server and of the
other threads. -/
theorem run_errorProgress {ls : List Label} {d₀ d : Daemon} {conn : ConnPtr} {cmd : Command}
    (hcmd : cmd.mcpCmd.isSome) (hls : ∀ l ∈ ls, l.startsServer = false)
    (hrun : system.run d₀ (.command conn cmd :: ls) = some d) :
    ErrorProgress d₀ conn cmd ls d := by
  obtain ⟨m, hm, hrest⟩ := system.run_cons_eq_some.mp hrun
  have hfirst := command_errorProgress hcmd (step_effect hm)
  exact TransitionSystem.run_invariant_labels (I := ErrorProgress d₀ conn cmd)
    (fun _ _ _ _ hp hl h => step_errorProgress hp hl h) hfirst
    (TransitionSystem.stepsMeet_of_labels hls) hrest

/-- A session command, received in any state and followed to its end, is answered once.  A
result with which the secure world has refused it is in the answer, wrapped exactly once,
if and only if the command is a map or unmap command, an open command whose service blob
could be unregistered, or wrapping twice makes no difference. -/
theorem errorSurvives_iff {ls : List Label} {d₀ d : Daemon} {conn : ConnPtr} {cmd : Command}
    {cmdId : UInt32} {r : McpReply} (hcmd : cmd.mcpCmd = some cmdId)
    (hls : ∀ l ∈ ls, l.startsServer = false)
    (hrun : system.run d₀ (.command conn cmd :: ls) = some d) (hdone : d.srv = .idle)
    (hr : r ∈ replies ls) (hrefuses : r.Refuses cmdId) :
    ∃ rsp, answersTo conn d = answersTo conn d₀ ++ [rsp] ∧
      (ErrorSurvives r.result rsp ↔ WrapsOnce cmd r.result ls) := by
  have hprogress := run_errorProgress (by rw [hcmd]; rfl) hls hrun
  unfold ErrorProgress at hprogress
  rw [hdone] at hprogress
  obtain ⟨rsp, hanswers, hreplies⟩ := hprogress
  exact ⟨rsp, hanswers, hreplies r hr cmdId hcmd hrefuses⟩

/-- The secure world refuses a map command with its code 3. -/
theorem errorSurvives_iff_map :
    ∃ d₀ d, system.run init oneSession = some d₀ ∧
      system.run d₀ [.command 1 mapCommand, .reply (failureReply mcMcpCmdMap 3) (hostAt 0)] =
        some d ∧
      ∃ rsp, answersTo 1 d = answersTo 1 d₀ ++ [rsp] ∧
        (ErrorSurvives 3 rsp ↔
          WrapsOnce mapCommand 3 [.reply (failureReply mcMcpCmdMap 3) (hostAt 0)]) :=
  ⟨_, _, rfl, rfl, errorSurvives_iff (r := failureReply mcMcpCmdMap 3) rfl (by decide) rfl rfl
    List.mem_cons_self (by decide)⟩

/-- The secure world refuses to close a session with its code 3: the client is told of
code 15. -/
theorem not_errorSurvives :
    ¬ ∀ (ls : List Label) (d₀ d : Daemon) (conn : ConnPtr) (cmd : Command) (cmdId : UInt32)
      (r : McpReply), cmd.mcpCmd = some cmdId → (∀ l ∈ ls, l.startsServer = false) →
      system.run d₀ (.command conn cmd :: ls) = some d → d.srv = .idle → r ∈ replies ls →
      r.Refuses cmdId → false ∉ unregisters ls →
      ∃ rsp, answersTo conn d = answersTo conn d₀ ++ [rsp] ∧ ErrorSurvives r.result rsp := by
  intro h
  obtain ⟨d₀, d, -, hrun, hdone, hanswers⟩ : ∃ d₀ d,
      system.run init oneSession = some d₀ ∧
      system.run d₀ [.command 1 (.closeSession 10),
        .reply (failureReply mcMcpCmdCloseSession 3) (hostAt 0)] = some d ∧ d.srv = .idle ∧
      answersTo 1 d = answersTo 1 d₀ ++ [.result 0x30F0F] :=
    ⟨_, _, rfl, rfl, rfl, rfl⟩
  obtain ⟨rsp, hanswers', code, hrsp, hcode, -⟩ :=
    h [.reply (failureReply mcMcpCmdCloseSession 3) (hostAt 0)] d₀ d 1 (.closeSession 10) _
      (failureReply mcMcpCmdCloseSession 3) rfl (by decide) hrun hdone List.mem_cons_self
      (by decide) (by decide)
  rw [hanswers] at hanswers'
  cases List.singleton_inj.mp (List.append_cancel_left hanswers')
  cases hrsp
  exact absurd hcode (by decide)

end Daemon

end Exynos8890.MobiCore
