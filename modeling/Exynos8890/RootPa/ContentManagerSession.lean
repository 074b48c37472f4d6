import Exynos8890.Library.TransitionSystem
import Exynos8890.MobiCore.ClientLib.Holdings
import Exynos8890.RootPa.CommandDocument

/-!
# The session of the content manager

The agent has one session with the content manager trustlet, in a global handle.  Commands that
come without a session open one for themselves, and are to close it again.

Main results:

- Definitions `tltChannelOpen`, `tltChannelClose` and `executeContentManagementCommands`.
- Theorem `sessionKept_iff`: when the commands leave the session, the device and the shared memory as
  they were.
- Theorem `not_sessionKept`: a command that fails leaves the session open.
-/

namespace Exynos8890.RootPa

namespace CmtlSession

open MobiCore MobiCore.ClientLib

/-! ## The channel -/

def tltChannelDeviceId : UInt32 := mcDeviceIdDefault

/-- `sizeof(cmp_t)`, where pointers have 64 bits. -/
def sizeOfCmp : UInt32 := 48

/-- `CMTSTRUCT`, without what one command uses. -/
structure CmtHandle where
  wsmP : UInt64
  session : SessionHandle
deriving DecidableEq, Repr

/-- What happens while the channel is opened, and while the opening is undone. -/
structure OpenAnswers where
  allocated : Bool
  connection : ConnPtr
  openDevice : McResult
  mallocWsm : MapAnswer
  openSession : SessionAnswers
  freeWsm : FreeAnswer
  alive : Bool
  closeDevice : Reply Unit

/-- What happens while the channel is closed. -/
structure CloseAnswers where
  closeSession : Reply Unit
  freeWsm : FreeAnswer
  alive : Bool
  closeDevice : Reply Unit

/-- The arguments for the session; the handle was set to zero. -/
def sessionArgs (wsmP : UInt64) : OpenArgs where
  session := true
  deviceId := 0
  service := true
  tci := wsmP
  len := sizeOfCmp

/-- `tltChannelOpen`. -/
def tltChannelOpen (answers : OpenAnswers) (p : Process) : Option CmtHandle × McResult × Process :=
  if answers.allocated = false then (none, mcDrvErrNoFreeMemory, p)
  else
    match p.mcOpenDevice tltChannelDeviceId answers.connection answers.openDevice with
    | (result, p) =>
        if result ≠ mcDrvOk then (none, result, p)
        else
          match p.mcMallocWsm tltChannelDeviceId sizeOfCmp answers.mallocWsm with
          | (result, none, p) =>
              (none, result,
                (p.mcCloseDevice tltChannelDeviceId answers.alive answers.closeDevice).2)
          | (_, some wsmP, p) =>
              match p.mcOpenSession (sessionArgs wsmP) answers.openSession with
              | (result, sessionId, p) =>
                  if result ≠ mcDrvOk then
                    let p := (p.mcFreeWsm tltChannelDeviceId wsmP answers.freeWsm).2
                    (none, result,
                      (p.mcCloseDevice tltChannelDeviceId answers.alive answers.closeDevice).2)
                  else (some ⟨wsmP, ⟨sessionId.getD 0, 0⟩⟩, result, p)

/-- `tltChannelClose`; the results are only logged. -/
def tltChannelClose (answers : CloseAnswers) (handle : Option CmtHandle) (p : Process) :
    Process :=
  match handle with
  | none => p
  | some handle =>
      let p := (p.mcCloseSession handle.session answers.closeSession).2
      let p :=
        if handle.wsmP ≠ 0 then
          (p.mcFreeWsm tltChannelDeviceId handle.wsmP answers.freeWsm).2
        else p
      (p.mcCloseDevice tltChannelDeviceId answers.alive answers.closeDevice).2

/-! ## The session -/

/-- `handle_`, and the process. -/
structure CmtlState where
  handle : Option CmtHandle
  process : Process
deriving DecidableEq

namespace CmtlState

def init : CmtlState where
  handle := none
  process := Process.init

def closeCmtlSession (answers : CloseAnswers) (s : CmtlState) : CmtlState where
  handle := none
  process := tltChannelClose answers s.handle s.process

/-- `openCmtlSession`: a session that is open is closed first. -/
def openCmtlSession (closing : CloseAnswers) (opening : OpenAnswers) (s : CmtlState) :
    RootPaError × CmtlState :=
  let s := if s.handle.isSome then s.closeCmtlSession closing else s
  let (handle, error, process) := tltChannelOpen opening s.process
  (if handle.isSome then .ok
    else if error = mcDrvErrNoFreeMemory then .outOfMemory else .mobicoreConnection,
    ⟨handle, process⟩)

end CmtlState

/-- The executions of the commands, by their places: what they come to, and whether one of their
calls finds the connection to the daemon dead. -/
structure Executions where
  outcomes : Outcomes
  lost : Nat → Bool
  lost_fails : ∀ node, lost node = true → (outcomes node).ret ≠ .ok

/-- The process after some executions.  The client library removes the device when it finds the
connection dead. -/
def Executions.process (executions : Executions) (session : SessionHandle) (nodes : List Nat)
    (p : Process) : Process :=
  nodes.foldl
    (fun p node => if executions.lost node then p.removeDevice session.deviceId else p) p

/-- `executeContentManagementCommands`. -/
def executeContentManagementCommands (executions : Executions) (opening : OpenAnswers)
    (closing : CloseAnswers) (commands : List CmpMessage) (s : CmtlState) : CmpRun × CmtlState :=
  let selfOpened := s.handle.isNone
  let t := if selfOpened then (s.openCmtlSession closing opening).2 else s
  match t.handle with
  | some handle =>
      let run := executeCommands executions.outcomes commands .ok
      let t := { t with process := executions.process handle.session run.executed t.process }
      if run.returned then (run, t)
      else (run, if selfOpened then t.closeCmtlSession closing else t)
  | none =>
      let run := ⟨.mobicoreConnection, commands.map fun c => .blank c.hdr.node, [], [], false⟩
      (run, if selfOpened then t.closeCmtlSession closing else t)

/-! ## What the answers come to -/

/-- The device is opened. -/
def OpenAnswers.Starts (answers : OpenAnswers) : Prop :=
  answers.allocated = true ∧ answers.openDevice = mcDrvOk

/-- Device, shared memory and session are opened. -/
structure OpenAnswers.Opens (answers : OpenAnswers) : Prop where
  starts : answers.Starts
  mapped : Process.mappedAt answers.mallocWsm ≠ 0
  accepted : (Process.acceptedId answers.openSession).isSome = true

/-- A device without sessions can be closed, or its connection is found dead. -/
def ClosesDevice (alive : Bool) (reply : Reply Unit) : Prop :=
  alive = false ∨ reply = .answered mcDrvOk ()

/-- Session and device can be closed, or the connection is found dead. -/
def CloseAnswers.Closes (answers : CloseAnswers) : Prop :=
  answers.closeSession = .lost ∨ answers.alive = false ∨
    (answers.closeSession = .answered mcDrvOk () ∧ answers.closeDevice = .answered mcDrvOk ())

instance (answers : OpenAnswers) : Decidable answers.Starts :=
  inferInstanceAs (Decidable (_ ∧ _))

instance (answers : OpenAnswers) : Decidable answers.Opens :=
  decidable_of_iff (answers.Starts ∧ Process.mappedAt answers.mallocWsm ≠ 0 ∧
      (Process.acceptedId answers.openSession).isSome = true)
    ⟨fun h => ⟨h.1, h.2.1, h.2.2⟩, fun h => ⟨h.starts, h.mapped, h.accepted⟩⟩

instance (alive : Bool) (reply : Reply Unit) : Decidable (ClosesDevice alive reply) :=
  inferInstanceAs (Decidable (_ ∨ _))

instance (answers : CloseAnswers) : Decidable answers.Closes :=
  inferInstanceAs (Decidable (_ ∨ _ ∨ (_ ∧ _)))

/-! ## Opening and closing -/

section Channel

variable {p : Process}

/-- Everything that is held is one device of the agent. -/
def OneDevice (p : Process) : Prop :=
  ∃ held, p.holdings = [held] ∧ held.deviceId = tltChannelDeviceId

/-- The session of the handle is open. -/
structure InSession (handle : CmtHandle) (p : Process) : Prop where
  deviceId : handle.session.deviceId = tltChannelDeviceId
  holdings : ∃ wsms, p.holdings = [⟨tltChannelDeviceId, [handle.session.sessionId], wsms⟩]

theorem InSession.oneDevice {handle : CmtHandle} (h : InSession handle p) : OneDevice p := by
  obtain ⟨wsms, hheld⟩ := h.holdings
  exact ⟨_, hheld, rfl⟩

theorem OneDevice.ne_nil (h : OneDevice p) : p.holdings ≠ [] := by
  obtain ⟨held, hheld, -⟩ := h
  rw [hheld]
  exact List.cons_ne_nil _ _

theorem closeDevice_ends {held : Holding} (h : p.holdings = [held])
    (hid : held.deviceId = tltChannelDeviceId) (hempty : held.sessions = []) (alive : Bool)
    (reply : Reply Unit) :
    (ClosesDevice alive reply → (p.mcCloseDevice tltChannelDeviceId alive reply).2.holdings = []) ∧
      (¬ ClosesDevice alive reply →
        OneDevice (p.mcCloseDevice tltChannelDeviceId alive reply).2) := by
  have hleft := Process.mcCloseDevice_holdings h alive reply
  rw [hid] at hleft
  constructor
  · intro hcloses
    rw [hleft, if_pos (hcloses.imp_right fun hreply => ⟨hempty, hreply⟩)]
  · intro hstays
    refine ⟨held, ?_, hid⟩
    rw [hleft, if_neg fun hor => hstays (hor.imp_right And.right)]

theorem tltChannelOpen_refused (h : p.holdings = []) {answers : OpenAnswers}
    (hstarts : ¬ answers.Starts) :
    ∃ code t, tltChannelOpen answers p = (none, code, t) ∧ t.holdings = [] := by
  unfold tltChannelOpen
  by_cases hallocated : answers.allocated = false
  · exact ⟨_, _, if_pos hallocated, h⟩
  have hopen : answers.openDevice ≠ mcDrvOk := fun hopen =>
    hstarts ⟨Bool.eq_true_of_not_eq_false hallocated, hopen⟩
  obtain ⟨hcode, hleft⟩ := Process.mcOpenDevice_nil h tltChannelDeviceId answers.connection
    answers.openDevice
  rw [if_neg hopen] at hleft
  rw [if_neg hallocated]
  dsimp only
  rw [hcode, if_pos hopen]
  exact ⟨_, _, rfl, hleft⟩

/-- The device is opened, and no shared memory is mapped. -/
theorem tltChannelOpen_unmapped (h : p.holdings = []) {answers : OpenAnswers}
    (hstarts : answers.Starts)
    (hmalloc : ∀ handle virtAddr physAddr, answers.mallocWsm ≠ .mapped handle virtAddr physAddr) :
    ∃ (code : McResult) (t : Process), t.holdings = [⟨tltChannelDeviceId, [], []⟩] ∧
      tltChannelOpen answers p = (none, code,
        (t.mcCloseDevice tltChannelDeviceId answers.alive answers.closeDevice).2) := by
  obtain ⟨hcode, hleft⟩ := Process.mcOpenDevice_nil h tltChannelDeviceId answers.connection
    answers.openDevice
  rw [if_pos hstarts.2] at hleft
  obtain ⟨code, t, hfailed, ht⟩ := Process.mcMallocWsm_unmapped hleft tltChannelDeviceId
    sizeOfCmp hmalloc
  refine ⟨code, t, ht, ?_⟩
  rw [tltChannelOpen, if_neg (by simp [hstarts.1])]
  dsimp only
  rw [hcode, if_neg (not_not.mpr hstarts.2), hfailed]

/-- Device and shared memory are there, and the session is what is left to open. -/
theorem tltChannelOpen_mapped (h : p.holdings = []) {answers : OpenAnswers}
    (hstarts : answers.Starts) {handle : UInt32} {wsmP physAddr : UInt64}
    (hmalloc : answers.mallocWsm = .mapped handle wsmP physAddr) :
    ∃ (t : Process) (wsm : WsmPtr), t.holdings = [⟨tltChannelDeviceId, [], [wsm]⟩] ∧
      wsmP = wsm.pWsm.virtAddr ∧ sizeOfCmp = wsm.pWsm.len ∧
      ∀ result sessionId u, t.mcOpenSession (sessionArgs wsmP) answers.openSession =
          (result, sessionId, u) →
        tltChannelOpen answers p =
          if result ≠ mcDrvOk then
            (none, result, (((u.mcFreeWsm tltChannelDeviceId wsmP answers.freeWsm).2).mcCloseDevice
              tltChannelDeviceId answers.alive answers.closeDevice).2)
          else (some ⟨wsmP, ⟨sessionId.getD 0, 0⟩⟩, result, u) := by
  obtain ⟨hcode, hleft⟩ := Process.mcOpenDevice_nil h tltChannelDeviceId answers.connection
    answers.openDevice
  rw [if_pos hstarts.2] at hleft
  have hlen : sizeOfCmp ≠ 0 := by decide
  obtain ⟨t, wsm, hmapped, ht, haddr, hsize⟩ :=
    Process.mcMallocWsm_mapped hleft hlen handle wsmP physAddr
  refine ⟨t, wsm, ht, haddr.symm, hsize.symm, fun result sessionId u hsession => ?_⟩
  rw [tltChannelOpen, if_neg (by simp [hstarts.1])]
  dsimp only
  rw [hcode, if_neg (not_not.mpr hstarts.2), hmalloc, hmapped]
  dsimp only
  rw [hsession]

/-- The session is the last to be opened, and it is the only reason to undo the others. -/
theorem tltChannelOpen_session (h : p.holdings = []) {answers : OpenAnswers}
    (hstarts : answers.Starts) {handle : UInt32} {wsmP physAddr : UInt64}
    (hmalloc : answers.mallocWsm = .mapped handle wsmP physAddr) :
    (answers.Opens → ∃ handle code t,
      tltChannelOpen answers p = (some handle, code, t) ∧ InSession handle t) ∧
    (¬ answers.Opens → ∃ (code : McResult) (t : Process) (wsms : List WsmPtr),
      t.holdings = [⟨tltChannelDeviceId, [], wsms⟩] ∧
      tltChannelOpen answers p = (none, code,
        (t.mcCloseDevice tltChannelDeviceId answers.alive answers.closeDevice).2)) := by
  obtain ⟨t, wsm, ht, haddr, hsize, hrest⟩ := tltChannelOpen_mapped h hstarts hmalloc
  have hargs : (sessionArgs wsmP).tci = wsm.pWsm.virtAddr := haddr
  have haddress : Process.mappedAt answers.mallocWsm = wsmP := by
    rw [hmalloc]
    rfl
  constructor
  · intro hopens
    have hnull : (sessionArgs wsmP).tci ≠ 0 := haddress ▸ hopens.mapped
    obtain ⟨sessionId, hsession⟩ := Option.isSome_iff_exists.mp hopens.accepted
    obtain ⟨u, hopened, hu⟩ := Process.mcOpenSession_opened ht rfl hnull hargs hsize hsession
    refine ⟨_, _, u, hrest _ _ _ hopened, rfl, [wsm], hu⟩
  · intro hopens
    have hrefused : (sessionArgs wsmP).tci = 0 ∨ Process.acceptedId answers.openSession = none := by
      by_contra hnot
      obtain ⟨hnull, haccepted⟩ := not_or.mp hnot
      exact hopens ⟨hstarts, haddress ▸ hnull, Option.isSome_iff_ne_none.mpr haccepted⟩
    obtain ⟨code, sessionId, hcode, hfails⟩ := Process.mcOpenSession_unopened ht rfl hargs hsize
      (by decide : sizeOfCmp ≠ 0) hrefused
    obtain ⟨wsms, hfreed⟩ :=
      Process.mcFreeWsm_holdings ht tltChannelDeviceId wsmP answers.freeWsm
    refine ⟨code, _, wsms, hfreed, ?_⟩
    rw [hrest _ _ _ hfails, if_pos hcode]

theorem tltChannelOpen_opens (h : p.holdings = []) {answers : OpenAnswers}
    (hopens : answers.Opens) :
    ∃ handle code t, tltChannelOpen answers p = (some handle, code, t) ∧ InSession handle t := by
  cases hmalloc : answers.mallocWsm with
  | mapFailed errno => exact absurd (congrArg Process.mappedAt hmalloc) hopens.mapped
  | mmapFailed handle errno => exact absurd (congrArg Process.mappedAt hmalloc) hopens.mapped
  | mapped handle wsmP physAddr =>
      exact (tltChannelOpen_session h hopens.starts hmalloc).1 hopens

/-- When the opening fails behind the device, what is left is to close the device. -/
theorem tltChannelOpen_undone (h : p.holdings = []) {answers : OpenAnswers}
    (hstarts : answers.Starts) (hopens : ¬ answers.Opens) :
    ∃ (code : McResult) (t : Process) (wsms : List WsmPtr),
      t.holdings = [⟨tltChannelDeviceId, [], wsms⟩] ∧
      tltChannelOpen answers p = (none, code,
        (t.mcCloseDevice tltChannelDeviceId answers.alive answers.closeDevice).2) := by
  have hunmapped (hmalloc : ∀ handle virtAddr physAddr,
      answers.mallocWsm ≠ .mapped handle virtAddr physAddr) := by
    exact tltChannelOpen_unmapped h hstarts hmalloc
  cases hmalloc : answers.mallocWsm with
  | mapFailed errno =>
      obtain ⟨code, t, ht, hopen⟩ := hunmapped (by simp [hmalloc])
      exact ⟨code, t, [], ht, hopen⟩
  | mmapFailed handle errno =>
      obtain ⟨code, t, ht, hopen⟩ := hunmapped (by simp [hmalloc])
      exact ⟨code, t, [], ht, hopen⟩
  | mapped handle wsmP physAddr => exact (tltChannelOpen_session h hstarts hmalloc).2 hopens

theorem tltChannelOpen_oneDevice (h : OneDevice p) (answers : OpenAnswers) :
    ∃ code, tltChannelOpen answers p = (none, code, p) := by
  obtain ⟨held, hheld, hid⟩ := h
  have hopen := Process.mcOpenDevice_single hheld answers.connection answers.openDevice
  rw [hid] at hopen
  unfold tltChannelOpen
  by_cases hallocated : answers.allocated = false
  · exact ⟨_, if_pos hallocated⟩
  · rw [if_neg hallocated, hopen]
    exact ⟨mcDrvErrDeviceAlreadyOpen, rfl⟩

theorem tltChannelClose_nil (h : p.holdings = []) (answers : CloseAnswers)
    (handle : Option CmtHandle) : tltChannelClose answers handle p = p := by
  cases handle with
  | none => rfl
  | some handle =>
      rw [tltChannelClose, Process.mcCloseSession_nil h, Process.mcFreeWsm_nil h, ite_self,
        Process.mcCloseDevice_nil h]

theorem exists_freed {held : Holding} (h : p.holdings = [held]) (wsmP : UInt64)
    (answer : FreeAnswer) :
    ∃ wsms, (if wsmP ≠ 0 then (p.mcFreeWsm tltChannelDeviceId wsmP answer).2 else p).holdings =
      [{ held with wsms := wsms }] := by
  split
  · exact Process.mcFreeWsm_holdings h _ _ _
  · exact ⟨held.wsms, h⟩

theorem tltChannelClose_inSession {handle : CmtHandle} (h : InSession handle p)
    (answers : CloseAnswers) :
    (answers.Closes → (tltChannelClose answers (some handle) p).holdings = []) ∧
      (¬ answers.Closes → OneDevice (tltChannelClose answers (some handle) p)) := by
  obtain ⟨wsms, hheld⟩ := h.holdings
  have hsession := Process.mcCloseSession_holdings hheld h.deviceId.symm rfl answers.closeSession
  rw [tltChannelClose]
  cases hreply : answers.closeSession with
  | lost =>
      rw [hreply] at hsession
      have hcloses : answers.Closes := Or.inl hreply
      refine ⟨fun _ => ?_, fun hnot => absurd hcloses hnot⟩
      rw [Process.mcFreeWsm_nil hsession, ite_self, Process.mcCloseDevice_nil hsession]
      exact hsession
  | answered code payload =>
      rw [hreply] at hsession
      by_cases hcode : code = mcDrvOk
      · obtain ⟨freed, hfreed⟩ :=
          exists_freed (hsession.trans (if_pos hcode)) handle.wsmP answers.freeWsm
        have hcloses : answers.Closes ↔ ClosesDevice answers.alive answers.closeDevice := by
          simp [CloseAnswers.Closes, ClosesDevice, hreply, hcode]
        rw [hcloses]
        exact closeDevice_ends hfreed rfl rfl _ _
      · obtain ⟨freed, hfreed⟩ :=
          exists_freed (hsession.trans (if_neg hcode)) handle.wsmP answers.freeWsm
        have hcloses : answers.Closes ↔ answers.alive = false := by
          simp [CloseAnswers.Closes, hreply, hcode]
        have hleft := Process.mcCloseDevice_holdings hfreed answers.alive answers.closeDevice
        rw [hcloses]
        constructor
        · intro halive
          exact hleft.trans (if_pos (Or.inl halive))
        · intro halive
          refine ⟨_, hleft.trans (if_neg ?_), rfl⟩
          rintro (hdead | ⟨hempty, -⟩)
          · exact halive hdead
          · exact absurd hempty (List.cons_ne_nil _ _)

end Channel

/-! ## The commands -/

/-- The command fails, and its failure is not ignored. -/
def Fails (outcomes : Outcomes) (c : CmpMessage) : Prop :=
  0 < c.length ∧ (outcomes c.hdr.node).ret ≠ .ok ∧ c.hdr.ignoreError = false

instance (outcomes : Outcomes) (c : CmpMessage) : Decidable (Fails outcomes c) :=
  inferInstanceAs (Decidable (_ ∧ _ ∧ _))

/-- The commands up to the first that fails. -/
def reached (outcomes : Outcomes) : List CmpMessage → List CmpMessage
  | [] => []
  | c :: rest => c :: if Fails outcomes c then [] else reached outcomes rest

/-- One of the commands finds the connection to the daemon dead. -/
def FindsDead (executions : Executions) (commands : List CmpMessage) : Prop :=
  ∃ c ∈ reached executions.outcomes commands,
    0 < c.length ∧ executions.lost c.hdr.node = true

instance (executions : Executions) (commands : List CmpMessage) :
    Decidable (FindsDead executions commands) :=
  inferInstanceAs (Decidable (∃ c ∈ _, _ ∧ _))

theorem returned_iff (outcomes : Outcomes) (commands : List CmpMessage) (ret : RootPaError) :
    (executeCommands outcomes commands ret).returned = true ↔
      ∃ c ∈ commands, Fails outcomes c := by
  induction commands generalizing ret with
  | nil => simp [executeCommands]
  | cons c rest ih =>
      rw [executeCommands]
      simp only [List.exists_mem_cons_iff]
      by_cases hlength : c.length > 0
      · rw [if_pos hlength]
        by_cases hfails : (outcomes c.hdr.node).ret ≠ .ok ∧ c.hdr.ignoreError = false
        · rw [if_pos hfails]
          exact iff_of_true rfl (Or.inl ⟨hlength, hfails⟩)
        · rw [if_neg hfails]
          exact (ih _).trans (or_iff_right fun h => hfails h.2).symm
      · rw [if_neg hlength]
        exact (ih _).trans (or_iff_right fun h => hlength h.1).symm

theorem mem_executed {outcomes : Outcomes} {commands : List CmpMessage} {ret : RootPaError}
    {node : Nat} :
    node ∈ (executeCommands outcomes commands ret).executed ↔
      ∃ c ∈ reached outcomes commands, 0 < c.length ∧ c.hdr.node = node := by
  induction commands generalizing ret with
  | nil => simp [executeCommands, reached]
  | cons c rest ih =>
      rw [executeCommands, reached]
      simp only [List.exists_mem_cons_iff]
      by_cases hlength : c.length > 0
      · rw [if_pos hlength]
        by_cases hfails : (outcomes c.hdr.node).ret ≠ .ok ∧ c.hdr.ignoreError = false
        · rw [if_pos hfails, if_pos (show Fails outcomes c from ⟨hlength, hfails⟩)]
          simp [hlength, eq_comm]
        · rw [if_neg hfails, if_neg (fun h : Fails outcomes c => hfails h.2), List.mem_cons, ih]
          simp [hlength, eq_comm]
      · rw [if_neg hlength, if_neg (fun h : Fails outcomes c => hlength h.1)]
        exact ih.trans (or_iff_right fun h => hlength h.1).symm

namespace Executions

variable (executions : Executions) {p : Process}

theorem process_nil (h : p.holdings = []) (session : SessionHandle) (nodes : List Nat) :
    executions.process session nodes p = p := by
  induction nodes with
  | nil => rfl
  | cons node nodes ih =>
      have hsame : (if executions.lost node then p.removeDevice session.deviceId else p) = p := by
        simp only [Process.removeDevice, Process.resolve_eq_none h, ite_self]
      rw [process, List.foldl_cons, hsame]
      exact ih

/-- The session stays open, unless a command finds the connection dead. -/
theorem process_inSession {handle : CmtHandle} (h : InSession handle p) (nodes : List Nat) :
    (∃ node ∈ nodes, executions.lost node = true) ∧
        (executions.process handle.session nodes p).holdings = [] ∨
      (¬ ∃ node ∈ nodes, executions.lost node = true) ∧
        executions.process handle.session nodes p = p := by
  induction nodes with
  | nil => exact Or.inr ⟨by simp, rfl⟩
  | cons node nodes ih =>
      simp only [List.exists_mem_cons_iff]
      rw [process, List.foldl_cons]
      by_cases hlost : executions.lost node = true
      · obtain ⟨wsms, hheld⟩ := h.holdings
        have hremoved := Process.holdings_removeDevice hheld handle.session.deviceId
        rw [if_pos h.deviceId.symm] at hremoved
        rw [if_pos hlost]
        refine Or.inl ⟨Or.inl hlost, ?_⟩
        have hsame := executions.process_nil hremoved handle.session nodes
        rw [process] at hsame
        rw [hsame]
        exact hremoved
      · rw [if_neg hlost, or_iff_right hlost]
        exact ih

/-- Whatever calls an execution makes, what is held behind them is what the model says. -/
theorem of_calls {handle : CmtHandle} (h : InSession handle p)
    (calls : List Process.SessionCall) :
    ∃ lost, (calls.foldl (fun p call => call.perform handle.session p) p).holdings =
      (if lost = true then p.removeDevice handle.session.deviceId else p).holdings := by
  obtain ⟨wsms, hheld⟩ := h.holdings
  rcases Process.holdings_perform (Or.inl hheld) handle.session calls with hkept | hnothing
  · exact ⟨false, hkept.trans hheld.symm⟩
  · have hremoved := Process.holdings_removeDevice hheld handle.session.deviceId
    rw [if_pos h.deviceId.symm] at hremoved
    exact ⟨true, hnothing.trans hremoved.symm⟩

end Executions

/-! ## Runs of the agent -/

/-- What the agent does with the session. -/
inductive Call where
  | openCmtlSession (closing : CloseAnswers) (opening : OpenAnswers)
  | closeCmtlSession (closing : CloseAnswers)
  | executeContentManagementCommands (executions : Executions) (opening : OpenAnswers)
      (closing : CloseAnswers) (commands : List CmpMessage)

def CmtlState.perform (s : CmtlState) : Call → CmtlState
  | .openCmtlSession closing opening => (s.openCmtlSession closing opening).2
  | .closeCmtlSession closing => s.closeCmtlSession closing
  | .executeContentManagementCommands executions opening closing commands =>
      (CmtlSession.executeContentManagementCommands executions opening closing commands s).2

/-- The agent, whatever is called and whatever fails. -/
def system : TransitionSystem CmtlState Call where
  step s call := some (s.perform call)

/-- Nothing is held, or a device without a handle, or the session of the handle is open. -/
inductive Sound (s : CmtlState) : Prop
  | nothing (h : s.process.holdings = [])
  | left (hhandle : s.handle = none) (h : OneDevice s.process)
  | inSession (handle : CmtHandle) (hhandle : s.handle = some handle)
      (h : InSession handle s.process)

theorem tltChannelOpen_sound {p : Process} (h : p.holdings = [] ∨ OneDevice p)
    (answers : OpenAnswers) :
    Sound ⟨(tltChannelOpen answers p).1, (tltChannelOpen answers p).2.2⟩ := by
  rcases h with h | h
  · by_cases hopens : answers.Opens
    · obtain ⟨handle, code, t, hopen, ht⟩ := tltChannelOpen_opens h hopens
      rw [hopen]
      exact .inSession handle rfl ht
    · by_cases hstarts : answers.Starts
      · obtain ⟨code, t, wsms, ht, hopen⟩ := tltChannelOpen_undone h hstarts hopens
        obtain ⟨hcloses, hstays⟩ := closeDevice_ends ht rfl rfl answers.alive answers.closeDevice
        rw [hopen]
        by_cases hdevice : ClosesDevice answers.alive answers.closeDevice
        · exact .nothing (hcloses hdevice)
        · exact .left rfl (hstays hdevice)
      · obtain ⟨code, t, hopen, ht⟩ := tltChannelOpen_refused h hstarts
        rw [hopen]
        exact .nothing ht
  · obtain ⟨code, hopen⟩ := tltChannelOpen_oneDevice h answers
    rw [hopen]
    exact .left rfl h

theorem Sound.closeCmtlSession {s : CmtlState} (h : Sound s) (answers : CloseAnswers) :
    (s.closeCmtlSession answers).process.holdings = [] ∨
      OneDevice (s.closeCmtlSession answers).process := by
  rw [CmtlState.closeCmtlSession]
  cases h with
  | nothing h =>
      left
      rw [tltChannelClose_nil h]
      exact h
  | left hhandle h =>
      rw [hhandle]
      exact Or.inr h
  | inSession handle hhandle h =>
      obtain ⟨hcloses, hstays⟩ := tltChannelClose_inSession h answers
      rw [hhandle]
      by_cases hclosing : answers.Closes
      · exact Or.inl (hcloses hclosing)
      · exact Or.inr (hstays hclosing)

theorem Sound.of_handle_none {s : CmtlState} (h : Sound s) (hhandle : s.handle = none) :
    s.process.holdings = [] ∨ OneDevice s.process := by
  cases h with
  | nothing h => exact Or.inl h
  | left _ h => exact Or.inr h
  | inSession handle hsome h =>
      rw [hhandle] at hsome
      cases hsome

theorem Sound.openCmtlSession {s : CmtlState} (h : Sound s) (closing : CloseAnswers)
    (opening : OpenAnswers) : Sound (s.openCmtlSession closing opening).2 := by
  refine tltChannelOpen_sound ?_ opening
  split
  · exact h.closeCmtlSession closing
  · rename_i hhandle
    exact h.of_handle_none (Option.not_isSome_iff_eq_none.mp hhandle)

section Execute

variable (executions : Executions) (opening : OpenAnswers) (closing : CloseAnswers)
  (commands : List CmpMessage) {s : CmtlState} {handle : CmtHandle} {p : Process}

/-- The state behind the loop over the commands. -/
def looped (handle : CmtHandle) (p : Process) : CmtlState where
  handle := some handle
  process := executions.process handle.session
    (executeCommands executions.outcomes commands .ok).executed p

/-- The loop leaves the session open, or a command has found the connection dead. -/
theorem looped_ends (h : InSession handle p) :
    FindsDead executions commands ∧
        (looped executions commands handle p).process.holdings = [] ∨
      ¬ FindsDead executions commands ∧ looped executions commands handle p = ⟨some handle, p⟩ := by
  have hdead : FindsDead executions commands ↔
      ∃ node ∈ (executeCommands executions.outcomes commands .ok).executed,
        executions.lost node = true := by
    constructor
    · rintro ⟨c, hc, hlength, hlost⟩
      exact ⟨c.hdr.node, mem_executed.mpr ⟨c, hc, hlength, rfl⟩, hlost⟩
    · rintro ⟨node, hnode, hlost⟩
      obtain ⟨c, hc, hlength, rfl⟩ := mem_executed.mp hnode
      exact ⟨c, hc, hlength, hlost⟩
  rw [hdead]
  rcases executions.process_inSession h
    (executeCommands executions.outcomes commands .ok).executed with hlost | ⟨hnot, hsame⟩
  · exact Or.inl hlost
  · exact Or.inr ⟨hnot, congrArg (CmtlState.mk (some handle)) hsame⟩

theorem execute_of_some (hhandle : s.handle = some handle) :
    (executeContentManagementCommands executions opening closing commands s).2 =
      looped executions commands handle s.process := by
  unfold executeContentManagementCommands looped
  simp only [hhandle, Option.isNone_some, Bool.false_eq_true, if_false]
  split <;> rfl

theorem openCmtlSession_of_none (hhandle : s.handle = none) :
    (s.openCmtlSession closing opening).2 =
      ⟨(tltChannelOpen opening s.process).1, (tltChannelOpen opening s.process).2.2⟩ := by
  simp only [CmtlState.openCmtlSession, hhandle, Option.isSome_none, Bool.false_eq_true, if_false]

theorem execute_of_opened (hhandle : s.handle = none) {code : McResult}
    (hopen : tltChannelOpen opening s.process = (some handle, code, p)) :
    (executeContentManagementCommands executions opening closing commands s).2 =
      if ∃ c ∈ commands, Fails executions.outcomes c then looped executions commands handle p
      else (looped executions commands handle p).closeCmtlSession closing := by
  unfold executeContentManagementCommands
  simp only [hhandle, Option.isNone_none, if_true, openCmtlSession_of_none opening closing hhandle,
    hopen]
  simp only [← returned_iff executions.outcomes commands .ok]
  split <;> rfl

theorem execute_of_unopened (hhandle : s.handle = none) {code : McResult}
    (hopen : tltChannelOpen opening s.process = (none, code, p)) :
    (executeContentManagementCommands executions opening closing commands s).2 = ⟨none, p⟩ := by
  unfold executeContentManagementCommands
  simp only [hhandle, Option.isNone_none, if_true, openCmtlSession_of_none opening closing hhandle,
    hopen]
  rfl

end Execute

/-! ## Every run is sound -/

section Run

variable {executions : Executions} {opening : OpenAnswers} {closing : CloseAnswers}
  {commands : List CmpMessage} {s : CmtlState}

theorem looped_sound {handle : CmtHandle} {p : Process} (h : InSession handle p) :
    Sound (looped executions commands handle p) := by
  rcases looped_ends executions commands h with ⟨-, hnothing⟩ | ⟨-, hsame⟩
  · exact .nothing hnothing
  · rw [hsame]
    exact .inSession handle rfl h

theorem sound_of_none (hhandle : s.handle = none)
    (h : s.process.holdings = [] ∨ OneDevice s.process) : Sound s := by
  rcases h with h | h
  · exact .nothing h
  · exact .left hhandle h

theorem Sound.execute (h : Sound s) :
    Sound (executeContentManagementCommands executions opening closing commands s).2 := by
  cases hhandle : s.handle with
  | some handle =>
      rw [execute_of_some executions opening closing commands hhandle]
      cases h with
      | nothing h =>
          refine .nothing ?_
          rw [looped, executions.process_nil h]
          exact h
      | left hnone h =>
          rw [hhandle] at hnone
          cases hnone
      | inSession handle' hsome h =>
          rw [hhandle, Option.some.injEq] at hsome
          rw [hsome]
          exact looped_sound h
  | none =>
      have hopened := tltChannelOpen_sound (h.of_handle_none hhandle) opening
      obtain ⟨⟨opened, code, p⟩, hopen⟩ : ∃ r, tltChannelOpen opening s.process = r := ⟨_, rfl⟩
      rw [hopen] at hopened
      cases opened with
      | none =>
          rw [execute_of_unopened executions opening closing commands hhandle hopen]
          exact hopened
      | some handle =>
          have hlooped : Sound (looped executions commands handle p) := by
            cases hopened with
            | nothing h =>
                refine .nothing ?_
                rw [looped, executions.process_nil h]
                exact h
            | left hnone h => cases hnone
            | inSession handle' hsome h =>
                cases hsome
                exact looped_sound h
          rw [execute_of_opened executions opening closing commands hhandle hopen]
          split
          · exact hlooped
          · exact sound_of_none rfl (hlooped.closeCmtlSession closing)

theorem sound_of_run {calls : List Call} (h : system.run .init calls = some s) : Sound s := by
  refine TransitionSystem.run_invariant (C := fun _ _ => True) (I := Sound) ?_ (.nothing rfl)
    (TransitionSystem.stepsMeet_true _ _ _) h
  intro s call t hs _ hstep
  cases hstep
  cases call with
  | openCmtlSession closing opening => exact hs.openCmtlSession closing opening
  | closeCmtlSession closing => exact sound_of_none rfl (hs.closeCmtlSession closing)
  | executeContentManagementCommands executions opening closing commands => exact hs.execute

end Run

/-- The results, and whether there is a session behind the commands, are those of the document
that they belong to. -/
theorem execute_eq (executions : Executions) (opening : OpenAnswers) (closing : CloseAnswers)
    (commands : List CmpMessage) (s : CmtlState) :
    ((executeContentManagementCommands executions opening closing commands s).1,
        (executeContentManagementCommands executions opening closing commands s).2.handle.isSome) =
      RootPa.executeContentManagementCommands executions.outcomes
        ⟨s.handle.isSome, (tltChannelOpen opening s.process).1.isSome⟩ commands := by
  unfold executeContentManagementCommands RootPa.executeContentManagementCommands
    ContentManager.session
  cases hhandle : s.handle with
  | some handle =>
      simp only [Option.isNone_some, Bool.false_eq_true, if_false, hhandle, Option.isSome_some,
        Bool.true_or, if_true]
      split <;> rfl
  | none =>
      simp only [Option.isNone_none, if_true, openCmtlSession_of_none opening closing hhandle,
        Option.isSome_none, Bool.false_or]
      cases (tltChannelOpen opening s.process).1 with
      | none => rfl
      | some handle =>
          simp only [Option.isSome_some, if_true]
          split
          · rename_i hreturned
            simp only [hreturned, Option.isSome_some]
          · rename_i hreturned
            simp only [hreturned, CmtlState.closeCmtlSession, Option.isSome_none]

/-! ## The balance -/

/-- The handle is the same, and what is held. -/
structure Kept (s t : CmtlState) : Prop where
  handle : t.handle = s.handle
  holdings : t.process.holdings = s.process.holdings

/-- When commands leave the session as it was: they find a session, which does not die; there is a
device that nobody can close; nothing is opened, or the device alone, and closed again; or all is
opened, no failure ends the loop, and all is closed, or found dead. -/
inductive Keeps (executions : Executions) (opening : OpenAnswers) (closing : CloseAnswers)
    (commands : List CmpMessage) (s : CmtlState) : Prop
  | found (hhandle : s.handle ≠ none)
      (halive : s.process.holdings = [] ∨ ¬ FindsDead executions commands)
  | left (hhandle : s.handle = none) (hleft : s.process.holdings ≠ [])
  | undone (hhandle : s.handle = none) (hopens : ¬ opening.Opens)
      (hundone : ¬ opening.Starts ∨ ClosesDevice opening.alive opening.closeDevice)
  | closed (hhandle : s.handle = none) (hopens : opening.Opens)
      (hfails : ¬ ∃ c ∈ commands, Fails executions.outcomes c)
      (hcloses : closing.Closes ∨ FindsDead executions commands)

section Balance

variable {executions : Executions} {opening : OpenAnswers} {closing : CloseAnswers}
  {commands : List CmpMessage} {s : CmtlState}

theorem kept_of_some (h : Sound s) {handle : CmtHandle} (hhandle : s.handle = some handle) :
    Kept s (looped executions commands handle s.process) ↔
      (s.process.holdings = [] ∨ ¬ FindsDead executions commands) := by
  cases h with
  | nothing h =>
      refine iff_of_true ⟨hhandle.symm, ?_⟩ (Or.inl h)
      rw [looped, executions.process_nil h]
  | left hnone h =>
      rw [hhandle] at hnone
      cases hnone
  | inSession handle' hsome h =>
      rw [hhandle, Option.some.injEq] at hsome
      subst hsome
      have hheld := h.oneDevice.ne_nil
      rcases looped_ends executions commands h with ⟨hdead, hnothing⟩ | ⟨halive, hsame⟩
      · refine iff_of_false (fun hkept => ?_) (not_or.mpr ⟨hheld, not_not.mpr hdead⟩)
        exact hheld (hkept.holdings.symm.trans hnothing)
      · rw [hsame]
        exact iff_of_true ⟨hhandle.symm, rfl⟩ (Or.inr halive)

/-- What is left of a session that the commands have opened, when no failure ends the loop. -/
theorem kept_of_closed (hhandle : s.handle = none) (hnothing : s.process.holdings = [])
    {handle : CmtHandle} {p : Process} (h : InSession handle p) :
    Kept s ((looped executions commands handle p).closeCmtlSession closing) ↔
      (closing.Closes ∨ FindsDead executions commands) := by
  have hkept (t : CmtlState) (ht : t.handle = none) : Kept s t ↔ t.process.holdings = [] :=
    ⟨fun hkept => hkept.holdings.trans hnothing,
      fun hheld => ⟨ht.trans hhandle.symm, hheld.trans hnothing.symm⟩⟩
  rw [hkept _ rfl, CmtlState.closeCmtlSession]
  rcases looped_ends executions commands h with ⟨hdead, hheld⟩ | ⟨halive, hsame⟩
  · rw [tltChannelClose_nil hheld]
    exact iff_of_true hheld (Or.inr hdead)
  · rw [hsame, or_iff_left halive]
    obtain ⟨hcloses, hstays⟩ := tltChannelClose_inSession h closing
    refine ⟨fun hheld => ?_, hcloses⟩
    by_contra hclosing
    exact (hstays hclosing).ne_nil hheld

/-- Commands that find nothing open and cannot open a session. -/
theorem kept_of_unopened (hhandle : s.handle = none) (hnothing : s.process.holdings = [])
    (hopens : ¬ opening.Opens) :
    Kept s (executeContentManagementCommands executions opening closing commands s).2 ↔
      (¬ opening.Starts ∨ ClosesDevice opening.alive opening.closeDevice) := by
  by_cases hstarts : opening.Starts
  · obtain ⟨code, t, wsms, ht, hopen⟩ := tltChannelOpen_undone hnothing hstarts hopens
    obtain ⟨hcloses, hstays⟩ := closeDevice_ends ht rfl rfl opening.alive opening.closeDevice
    rw [execute_of_unopened executions opening closing commands hhandle hopen,
      or_iff_right (not_not.mpr hstarts)]
    constructor
    · intro hkept
      by_contra hdevice
      exact (hstays hdevice).ne_nil (hkept.holdings.trans hnothing)
    · intro hdevice
      exact ⟨hhandle.symm, (hcloses hdevice).trans hnothing.symm⟩
  · obtain ⟨code, t, hopen, ht⟩ := tltChannelOpen_refused hnothing hstarts
    rw [execute_of_unopened executions opening closing commands hhandle hopen]
    exact iff_of_true ⟨hhandle.symm, ht.trans hnothing.symm⟩ (Or.inl hstarts)

theorem kept_of_opened (hhandle : s.handle = none) (hnothing : s.process.holdings = [])
    (hopens : opening.Opens) :
    Kept s (executeContentManagementCommands executions opening closing commands s).2 ↔
      (¬ ∃ c ∈ commands, Fails executions.outcomes c) ∧
        (closing.Closes ∨ FindsDead executions commands) := by
  obtain ⟨handle, code, p, hopen, hsession⟩ := tltChannelOpen_opens hnothing hopens
  rw [execute_of_opened executions opening closing commands hhandle hopen]
  by_cases hfails : ∃ c ∈ commands, Fails executions.outcomes c
  · rw [if_pos hfails]
    refine iff_of_false (fun hkept => ?_) fun hnot => hnot.1 hfails
    have hsome := hkept.handle.trans hhandle
    cases hsome
  · rw [if_neg hfails, kept_of_closed hhandle hnothing hsession]
    exact (and_iff_right hfails).symm

/-- In every state that is reached, commands leave the handle, the session, the device and the
shared memory as they were, exactly when nothing keeps them from it. -/
theorem sessionKept_iff {calls : List Call} (hrun : system.run .init calls = some s) :
    Kept s (executeContentManagementCommands executions opening closing commands s).2 ↔
      Keeps executions opening closing commands s := by
  have hsound := sound_of_run hrun
  cases hhandle : s.handle with
  | some handle =>
      rw [execute_of_some executions opening closing commands hhandle, kept_of_some hsound hhandle]
      have hne : s.handle ≠ none := by simp [hhandle]
      refine ⟨fun halive => .found hne halive, fun hkeeps => ?_⟩
      cases hkeeps with
      | found _ halive => exact halive
      | left hnone _ => exact absurd hnone hne
      | undone hnone _ _ => exact absurd hnone hne
      | closed hnone _ _ _ => exact absurd hnone hne
  | none =>
      rcases hsound.of_handle_none hhandle with hnothing | hleft
      · by_cases hopens : opening.Opens
        · rw [kept_of_opened hhandle hnothing hopens]
          refine ⟨fun h => .closed hhandle hopens h.1 h.2, fun hkeeps => ?_⟩
          cases hkeeps with
          | found hsome _ => exact absurd hhandle hsome
          | left _ hleft => exact absurd hnothing hleft
          | undone _ hunopened _ => exact absurd hopens hunopened
          | closed _ _ hfails hcloses => exact ⟨hfails, hcloses⟩
        · rw [kept_of_unopened hhandle hnothing hopens]
          refine ⟨fun hundone => .undone hhandle hopens hundone, fun hkeeps => ?_⟩
          cases hkeeps with
          | found hsome _ => exact absurd hhandle hsome
          | left _ hleft => exact absurd hnothing hleft
          | undone _ _ hundone => exact hundone
          | closed _ hopened _ _ => exact absurd hopened hopens
      · obtain ⟨code, hopen⟩ := tltChannelOpen_oneDevice hleft opening
        rw [execute_of_unopened executions opening closing commands hhandle hopen]
        exact iff_of_true ⟨hhandle.symm, rfl⟩ (.left hhandle hleft.ne_nil)

end Balance

/-! ## One command that fails -/

/-- Everything can be opened. -/
def opens : OpenAnswers where
  allocated := true
  connection := 1
  openDevice := mcDrvOk
  mallocWsm := .mapped 5 0x10000 0x80000
  openSession := { registered := .ok 0, reply := .answered mcDrvOk 9
                   nq := some (.answered mcDrvOk ()) }
  freeWsm := { munmap := true, free := none }
  alive := true
  closeDevice := .answered mcDrvOk ()

/-- Everything can be closed. -/
def closes : CloseAnswers where
  closeSession := .answered mcDrvOk ()
  freeWsm := { munmap := true, free := none }
  alive := true
  closeDevice := .answered mcDrvOk ()

theorem reportsError_hdrRet :
    RootPaError.commandExecution = .ok → RootPaError.commandExecution = .ok :=
  id

/-- The outcome of a command when the trustlet reports an error. -/
def reportsError : Outcomes :=
  fun _ => ⟨.commandExecution, .commandExecution, 0, none, reportsError_hdrRet⟩

theorem reportsError_fails (node : Nat) (_ : false = true) : (reportsError node).ret ≠ .ok :=
  (by decide : RootPaError.commandExecution ≠ .ok)

/-- The trustlet reports an error, and the connection is there. -/
def commandFails : Executions where
  outcomes := reportsError
  lost _ := false
  lost_fails := reportsError_fails

/-- A command whose failure is not ignored. -/
def oneCommand : List CmpMessage :=
  [⟨⟨0, 1, false, .ok, 0⟩, some [1]⟩]

theorem sessionKept_iff_oneCommand :
    Kept .init (executeContentManagementCommands commandFails opens closes oneCommand .init).2 ↔
      Keeps commandFails opens closes oneCommand .init :=
  @sessionKept_iff commandFails opens closes oneCommand .init [] rfl

/-- The command fails, and the session that was opened for it stays open. -/
theorem not_sessionKept : ¬ ∀ executions opening closing commands, Kept .init
    (executeContentManagementCommands executions opening closing commands .init).2 := by
  intro h
  have hleft := (h commandFails opens closes oneCommand).handle
  have hhandle : (executeContentManagementCommands commandFails opens closes oneCommand
      .init).2.handle ≠ none := by
    decide
  exact hhandle hleft

end CmtlSession

end Exynos8890.RootPa
