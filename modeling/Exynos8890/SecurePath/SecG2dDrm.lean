import Exynos8890.Library.ResourceLog
import Exynos8890.MobiCore.ClientLib.Process

/-!
# The session of the secure 2D engine

The library keeps one context with the session of its trustlet and one descriptor of the
secure-memory device, both global.  Initializing opens them step by step, and terminating closes
them in another order.

Main results:

- Definitions `tlcOpen`, `tlcClose`, `g2ddrmInitialize`, `g2ddrmBlit` and
  `g2ddrmTerminate`.
- Definition `G2dSystem`: every sequence of calls with every answer.
- Theorem `sessionBalanced_run`: runs in which no call comes to a path that leaves something
  open, closes it twice, or frees the TCI under its session.
-/

namespace Exynos8890.SecurePath

open MobiCore MobiCore.ClientLib

/-! ## State -/

/-- `mc_comm_ctx`; device id and uuid are constants. -/
structure McCommCtx where
  handle : SessionHandle
  tciMsg : UInt64
  initialized : Bool
deriving DecidableEq, Repr

/-- `memset(&ctx, 0x00, sizeof(ctx))`. -/
def McCommCtx.zero : McCommCtx where
  handle := ⟨0, 0⟩
  tciMsg := 0
  initialized := false

/-- `g2ddrmResult_t`. -/
inductive G2dResult where
  | success
  | errorInitFailed
  | errorBlitFailed
  | errorExitFailed
deriving DecidableEq, Repr

/-- The calls of the library. -/
inductive G2dCall where
  | init
  | blit
  | terminate
deriving DecidableEq, Repr

/-- The process with the globals of the library.  `log` records what happens to descriptors of
the secure-memory device, `freedInUse` whether a TCI was freed while its session was open, and
`returned` the last call with its result. -/
structure G2d where
  process : Process
  ctx : McCommCtx
  fdSecmem : Int
  log : List (ResourceLog.Event Int)
  freedInUse : Bool
  returned : Option (G2dCall × G2dResult)
deriving DecidableEq, Repr

/-! ## Answers -/

/-- What `sec_g2d_activate` comes to: the open of the device and its control request. -/
structure ActivateAnswer where
  opened : Bool
  ioctl : Bool
deriving DecidableEq, Repr

/-- The response of the trustlet. -/
structure TciResponse where
  id : UInt32
  returnCode : UInt32
deriving DecidableEq, Repr

/-- What happens while the library talks to the trustlet. -/
structure CommunicateAnswers where
  notify : Bool
  wait : WaitAnswer
  response : TciResponse
deriving DecidableEq

/-- What happens during `G2DDRM_Initialize`. -/
structure InitializeAnswers where
  activate : ActivateAnswer
  smem : Int
  connection : ConnPtr
  openDevice : McResult
  mallocWsm : MapAnswer
  openSession : SessionAnswers
  communicate : CommunicateAnswers

/-- What happens during `G2DDRM_Blit`: the physical addresses, where the kernel gives them. -/
structure BlitAnswers where
  src : Option UInt64
  dst : Option UInt64
  plane2 : Option UInt64
  communicate : CommunicateAnswers
deriving DecidableEq

/-- What happens during `G2DDRM_Terminate`. -/
structure TerminateAnswers where
  communicate : CommunicateAnswers
  freeWsm : FreeAnswer
  closeSession : Reply Unit
  alive : Bool
  closeDevice : Reply Unit
  activate : ActivateAnswer
deriving DecidableEq

/-- The addresses of a `fimg2d_blit_raw`: descriptors that are replaced by physical addresses. -/
structure BlitRaw where
  srcStart : UInt64
  dstStart : UInt64
  plane2Start : UInt64
deriving DecidableEq, Repr

def cmdG2ddrmInitialize : UInt32 := 6
def cmdG2ddrmBlit : UInt32 := 7
def cmdG2ddrmTerminate : UInt32 := 8

/-- `RSP_ID`. -/
def rspId (cmdId : UInt32) : UInt32 :=
  cmdId ||| 0x80000000

/-- `RET_TL_G2DDRM_OK`. -/
def retTlG2ddrmOk : UInt32 := 0

/-- `MC_DEVICE_ID_DEFAULT` for `ctx.device_id`. -/
def deviceId : UInt32 := mcDeviceIdDefault

/-! ## The trustlet connector -/

section Connector

-- `sizeof(tciMessage_t)`, whose blit part is declared outside of the sources
variable (sizeofTciMessage : UInt32)

/-- The arguments of `mcOpenSession` for a TCI. -/
def sessionArgs (tciMsg : UInt64) : OpenArgs where
  session := true
  deviceId := deviceId
  service := true
  tci := tciMsg
  len := sizeofTciMessage

/-- `tlc_open`.  The result of `mcOpenDevice` is logged only. -/
def tlcOpen (answers : InitializeAnswers) (ctx : McCommCtx) (p : Process) :
    McResult × McCommCtx × Process :=
  match p.mcOpenDevice deviceId answers.connection answers.openDevice with
  | (_, p) =>
      match p.mcMallocWsm deviceId sizeofTciMessage answers.mallocWsm with
      | (mcRet, none, p) => (mcRet, ctx, p)
      | (_, some tciMsg, p) =>
          match p.mcOpenSession (sessionArgs sizeofTciMessage tciMsg) answers.openSession with
          | (mcRet, sessionId, p) =>
              (mcRet, { ctx with tciMsg := tciMsg, handle := ⟨sessionId.getD 0, deviceId⟩ }, p)

/-- `tlc_initialize`. -/
def tlcInitialize (answers : InitializeAnswers) (p : Process) : McResult × McCommCtx × Process :=
  match tlcOpen sizeofTciMessage answers McCommCtx.zero p with
  | (mcRet, ctx, p) =>
      if mcRet ≠ mcDrvOk then (mcRet, ctx, p)
      else (mcDrvOk, { ctx with initialized := true }, p)

end Connector

/-- `tlc_communicate`. -/
def tlcCommunicate (answers : CommunicateAnswers) (ctx : McCommCtx) (p : Process) :
    McResult × Process :=
  match p.mcNotify ctx.handle answers.notify with
  | (mcRet, p) =>
      if mcRet ≠ mcDrvOk then (mcRet, p) else p.mcWaitNotification ctx.handle answers.wait

/-- The session of the context is open. -/
def sessionOpen (ctx : McCommCtx) (p : Process) : Bool :=
  ((resolveDeviceId ctx.handle.deviceId p.devices).bind
    (Device.resolveSessionId ctx.handle.sessionId)).isSome

/-- `tlc_close`, and whether it has freed the TCI of an open session. -/
def tlcClose (answers : TerminateAnswers) (ctx : McCommCtx) (p : Process) :
    McResult × Bool × Process :=
  match p.mcFreeWsm deviceId ctx.tciMsg answers.freeWsm with
  | (mcRet, t) =>
      if mcRet ≠ mcDrvOk then (mcRet, false, t)
      else
        match t.mcCloseSession ctx.handle answers.closeSession with
        | (mcRet, t) =>
            if mcRet ≠ mcDrvOk then (mcRet, sessionOpen ctx p, t)
            else
              match t.mcCloseDevice deviceId answers.alive answers.closeDevice with
              | (mcRet, t) => (mcRet, sessionOpen ctx p, t)

/-- `tlc_terminate`. -/
def tlcTerminate (answers : TerminateAnswers) (s : G2d) : McResult × G2d :=
  if s.ctx.initialized = true then
    match tlcClose answers s.ctx s.process with
    | (mcRet, freed, p) =>
        let s := { s with process := p, freedInUse := s.freedInUse || freed }
        if mcRet ≠ mcDrvOk then (mcRet, s) else (mcDrvOk, { s with ctx := McCommCtx.zero })
  else (mcDrvOk, s)

/-- `sec_g2d_activate`: its own descriptor is closed on every path. -/
def secG2dActivate (answer : ActivateAnswer) : G2dResult :=
  if answer.opened = false then .errorInitFailed
  else if answer.ioctl = false then .errorInitFailed
  else .success

/-! ## The calls -/

/-- Something happens to a descriptor of the secure-memory device. -/
def G2d.record (event : ResourceLog.Event Int) (s : G2d) : G2d :=
  { s with log := s.log ++ [event] }

/-- `close(g_fd_secmem)`. -/
def G2d.closeSecmem (s : G2d) : G2d :=
  s.record (.closed s.fdSecmem)

/-- A response of the trustlet to a command. -/
def TciResponse.Completes (response : TciResponse) (cmdId : UInt32) : Prop :=
  response.id = rspId cmdId ∧ response.returnCode = retTlG2ddrmOk

instance (response : TciResponse) (cmdId : UInt32) : Decidable (response.Completes cmdId) :=
  inferInstanceAs (Decidable (_ ∧ _))

/-- `G2DDRM_Initialize`. -/
def g2ddrmInitialize (sizeofTciMessage : UInt32) (answers : InitializeAnswers) (s : G2d) :
    G2dResult × G2d :=
  if secG2dActivate answers.activate ≠ .success then (.errorInitFailed, s)
  else
    let s := { s with fdSecmem := answers.smem }
    if answers.smem < 0 then (.errorInitFailed, s)
    else
      let s := s.record (.opened answers.smem)
      match tlcInitialize sizeofTciMessage answers s.process with
      | (mcRet, ctx, p) =>
          let s := { s with ctx := ctx, process := p }
          if mcRet ≠ mcDrvOk then (.errorInitFailed, s.closeSecmem)
          else if ctx.tciMsg = 0 then (.errorInitFailed, s.closeSecmem)
          else
            match tlcCommunicate answers.communicate ctx p with
            | (mcRet, p) =>
                let s := { s with process := p }
                if mcRet ≠ mcDrvOk then (.errorInitFailed, s.closeSecmem)
                else if answers.communicate.response.id ≠ rspId cmdG2ddrmInitialize then
                  (.errorInitFailed, s.closeSecmem)
                else if answers.communicate.response.returnCode ≠ retTlG2ddrmOk then
                  (.errorInitFailed, s.closeSecmem)
                else (.success, s)

/-- `get_fd_phyaddr_from_kernel`. -/
def G2d.getFdPhyaddr (s : G2d) : G2d :=
  s.record (.used s.fdSecmem)

/-- `G2DDRM_Blit`, with what it writes to its argument. -/
def g2ddrmBlit (answers : BlitAnswers) (cmd : BlitRaw) (s : G2d) : G2dResult × BlitRaw × G2d :=
  let s := s.getFdPhyaddr
  match answers.src with
  | none => (.errorBlitFailed, cmd, s)
  | some phys =>
      let cmd := { cmd with srcStart := phys }
      let s := s.getFdPhyaddr
      match answers.dst with
      | none => (.errorBlitFailed, cmd, s)
      | some phys =>
          let cmd := { cmd with dstStart := phys }
          let s := s.getFdPhyaddr
          match answers.plane2 with
          | none => (.errorBlitFailed, cmd, s)
          | some phys =>
              let cmd := { cmd with plane2Start := phys }
              if s.ctx.tciMsg = 0 then (.errorBlitFailed, cmd, s.closeSecmem)
              else
                match tlcCommunicate answers.communicate s.ctx s.process with
                | (mcRet, p) =>
                    let s := { s with process := p }
                    if mcRet ≠ mcDrvOk then (.errorBlitFailed, cmd, s)
                    else if ¬ answers.communicate.response.Completes cmdG2ddrmBlit then
                      (.errorBlitFailed, cmd, s)
                    else (.success, cmd, s)

/-- `G2DDRM_Terminate`. -/
def g2ddrmTerminate (answers : TerminateAnswers) (s : G2d) : G2dResult × G2d :=
  if s.ctx.tciMsg = 0 then (.errorExitFailed, s.closeSecmem)
  else
    match tlcCommunicate answers.communicate s.ctx s.process with
    | (mcRet, p) =>
        let s := { s with process := p }
        if mcRet ≠ mcDrvOk then (.errorExitFailed, s)
        else if ¬ answers.communicate.response.Completes cmdG2ddrmTerminate then
          (.errorExitFailed, s)
        else
          match tlcTerminate answers s with
          | (mcRet, s) =>
              if mcRet ≠ mcDrvOk then (.errorExitFailed, s)
              else
                let s := s.closeSecmem
                if secG2dActivate answers.activate ≠ .success then (.errorExitFailed, s)
                else (.success, s)

/-! ## Sequences of calls -/

/-- A call, with what happens during it. -/
inductive G2dLabel where
  | init (answers : InitializeAnswers)
  | blit (answers : BlitAnswers) (cmd : BlitRaw)
  | terminate (answers : TerminateAnswers)

/-- The state behind a call. -/
def perform (sizeofTciMessage : UInt32) (s : G2d) : G2dLabel → G2d
  | .init answers =>
      match g2ddrmInitialize sizeofTciMessage answers s with
      | (ret, s) => { s with returned := some (.init, ret) }
  | .blit answers cmd =>
      match g2ddrmBlit answers cmd s with
      | (ret, _, s) => { s with returned := some (.blit, ret) }
  | .terminate answers =>
      match g2ddrmTerminate answers s with
      | (ret, s) => { s with returned := some (.terminate, ret) }

/-- The library under every sequence of calls. -/
def g2dSystem (sizeofTciMessage : UInt32) : TransitionSystem G2d G2dLabel where
  step s label := some (perform sizeofTciMessage s label)

/-- The globals before the first call. -/
def G2d.init : G2d where
  process := Process.init
  ctx := McCommCtx.zero
  fdSecmem := 0
  log := []
  freedInUse := false
  returned := none

/-- The last call was to leave nothing open. -/
def G2d.Ended (s : G2d) : Prop :=
  s.returned = some (.init, .errorInitFailed) ∨ s.returned = some (.terminate, .success)

/-- What the library promises: descriptors are used and closed only while they are open, and
where nothing is to be left open, session and device are closed, the TCI is freed, but not under
its session, and each descriptor is closed. -/
structure SessionBalanced (s : G2d) : Prop where
  sound : ResourceLog.Sound s.log
  closed : s.Ended → s.process.Closed
  freed : s.Ended → s.freedInUse = false
  descriptors : s.Ended → ResourceLog.Balanced s.log

/-! ## Answers that do no harm -/

/-- The trustlet is not reached because the connection is dead, or it completes the command. -/
def CommunicateAnswers.AllOrNothing (answers : CommunicateAnswers) (cmdId : UInt32) : Prop :=
  answers.notify = false ∨ answers.wait = .dead ∨
    (answers.wait = .notified ∧ answers.response.Completes cmdId)

instance (answers : CommunicateAnswers) (cmdId : UInt32) :
    Decidable (answers.AllOrNothing cmdId) :=
  inferInstanceAs (Decidable (_ ∨ _ ∨ (_ ∧ _)))

/-- The calls fail before the device is open or with the connection, or all succeed. -/
def InitializeAnswers.AllOrNothing (answers : InitializeAnswers) : Prop :=
  secG2dActivate answers.activate ≠ .success ∨ answers.smem < 0 ∨ answers.openDevice ≠ mcDrvOk ∨
    (Process.mappedAt answers.mallocWsm ≠ 0 ∧
      (Process.acceptedId answers.openSession).isSome = true ∧
      answers.communicate.AllOrNothing cmdG2ddrmInitialize)

instance (answers : InitializeAnswers) : Decidable answers.AllOrNothing :=
  inferInstanceAs (Decidable (_ ∨ _ ∨ _ ∨ (_ ∧ _ ∧ _)))

/-- Terminating does not come to the end of freeing the TCI. -/
def TerminateAnswers.KeepsTci (answers : TerminateAnswers) : Prop :=
  answers.communicate.notify = false ∨ answers.communicate.wait ≠ .notified ∨
    ¬ answers.communicate.response.Completes cmdG2ddrmTerminate ∨ answers.freeWsm.free ≠ none

instance (answers : TerminateAnswers) : Decidable answers.KeepsTci :=
  inferInstanceAs (Decidable (_ ∨ _ ∨ _ ∨ _))

/-- The library is initialized while no descriptor is open and all or nothing is opened; it is
used while its descriptor is open; and terminating does not free the TCI. -/
def Harmless (s : G2d) : G2dLabel → Prop
  | .init answers =>
      ResourceLog.openAfter [] s.log = some [] ∧ answers.AllOrNothing
  | .blit _ _ => ResourceLog.openAfter [] s.log = some [s.fdSecmem]
  | .terminate answers =>
      ResourceLog.openAfter [] s.log = some [s.fdSecmem] ∧ answers.KeepsTci

instance (s : G2d) (label : G2dLabel) : Decidable (Harmless s label) :=
  match label with
  | .init _ => inferInstanceAs (Decidable (_ ∧ _))
  | .blit _ _ => inferInstanceAs (Decidable (_ = _))
  | .terminate _ => inferInstanceAs (Decidable (_ ∧ _))

/-! ## The two states of the library -/

/-- Nothing is open. -/
structure Idle (s : G2d) : Prop where
  closed : s.process.Closed
  descriptors : ResourceLog.openAfter [] s.log = some []
  freedInUse : s.freedInUse = false

/-- The session is open, unless the connection has died, and so is the descriptor. -/
structure Active (s : G2d) : Prop where
  session : s.process.InSessionOrClosed s.ctx.handle
  deviceId : s.ctx.handle.deviceId = SecurePath.deviceId
  tciMsg : s.ctx.tciMsg ≠ 0
  initialized : s.ctx.initialized = true
  descriptors : ResourceLog.openAfter [] s.log = some [s.fdSecmem]
  freedInUse : s.freedInUse = false

theorem init_idle : Idle G2d.init where
  closed := Process.init_closed
  descriptors := rfl
  freedInUse := rfl

section Communicate

variable {p : Process} {ctx : McCommCtx} {answers : CommunicateAnswers}

theorem tlcCommunicate_stays (h : p.InSessionOrClosed ctx.handle) :
    (tlcCommunicate answers ctx p).2.InSessionOrClosed ctx.handle := by
  rcases h with h | h
  · have hnotified := h.mcNotify answers.notify
    unfold tlcCommunicate
    dsimp only
    split
    · exact hnotified
    · rcases hnotified with hin | hclosed
      · exact hin.mcWaitNotification answers.wait
      · obtain ⟨code, _, hsame⟩ := (hclosed.unopened ctx.handle).mcWaitNotification answers.wait
        rw [hsame]
        exact Or.inr hclosed
  · obtain ⟨code, hcode, hsame⟩ := (h.unopened ctx.handle).mcNotify answers.notify
    simp only [tlcCommunicate, hsame, hcode, ne_eq, not_false_eq_true, if_true]
    exact Or.inr h

/-- What talking to the trustlet of an open session comes to. -/
theorem tlcCommunicate_eq (h : p.InSession ctx.handle) :
    tlcCommunicate answers ctx p =
      if answers.notify = false then (mcDrvErrSocketWrite, p.removeDevice ctx.handle.deviceId)
      else p.mcWaitNotification ctx.handle answers.wait := by
  unfold tlcCommunicate
  rw [h.mcNotify_eq]
  have hcode : mcDrvErrSocketWrite ≠ mcDrvOk := by decide
  by_cases hnotify : answers.notify = false
  · simp only [if_pos hnotify, hcode, ne_eq, not_false_eq_true, if_true]
  · simp only [if_neg hnotify, ne_eq, not_true_eq_false, if_false]

theorem tlcCommunicate_dead (h : p.InSession ctx.handle)
    (hdead : answers.notify = false ∨ answers.wait = .dead) :
    (tlcCommunicate answers ctx p).1 ≠ mcDrvOk ∧ (tlcCommunicate answers ctx p).2.Closed := by
  rw [tlcCommunicate_eq h]
  by_cases hnotify : answers.notify = false
  · rw [if_pos hnotify]
    exact ⟨(by decide : mcDrvErrSocketWrite ≠ mcDrvOk), h.removeDevice⟩
  · rw [if_neg hnotify, h.mcWaitNotification_eq, hdead.resolve_left hnotify]
    exact ⟨(by decide : mcDrvErrNotification ≠ mcDrvOk), h.removeDevice⟩

theorem tlcCommunicate_notified (h : p.InSession ctx.handle) (hnotify : answers.notify ≠ false)
    (hwait : answers.wait = .notified) : tlcCommunicate answers ctx p = (mcDrvOk, p) := by
  rw [tlcCommunicate_eq h, if_neg hnotify, h.mcWaitNotification_eq, hwait]

theorem tlcCommunicate_ok (h : p.InSessionOrClosed ctx.handle)
    (hok : (tlcCommunicate answers ctx p).1 = mcDrvOk) :
    answers.notify ≠ false ∧ answers.wait = .notified ∧ p.InSession ctx.handle := by
  rcases h with h | h
  · rw [tlcCommunicate_eq h] at hok
    by_cases hnotify : answers.notify = false
    · rw [if_pos hnotify] at hok
      exact absurd hok (by decide : mcDrvErrSocketWrite ≠ mcDrvOk)
    · rw [if_neg hnotify, h.mcWaitNotification_eq] at hok
      cases hwait : answers.wait with
      | notified => exact ⟨hnotify, rfl, h⟩
      | exited =>
          rw [hwait] at hok
          exact absurd hok (by decide : mcDrvInfoNotification ≠ mcDrvOk)
      | timeout =>
          rw [hwait] at hok
          exact absurd hok (by decide : mcDrvErrTimeout ≠ mcDrvOk)
      | dead =>
          rw [hwait] at hok
          exact absurd hok (by decide : mcDrvErrNotification ≠ mcDrvOk)
      | failed =>
          rw [hwait] at hok
          exact absurd hok (by decide : mcDrvErrNotification ≠ mcDrvOk)
  · obtain ⟨code, hcode, hsame⟩ := (h.unopened ctx.handle).mcNotify answers.notify
    simp only [tlcCommunicate, hsame, hcode, ne_eq, not_false_eq_true, if_true] at hok

end Communicate

section Opening

variable {sizeofTciMessage : UInt32} {p : Process} {answers : InitializeAnswers}

/-- A device that cannot be opened is noticed when the page is mapped. -/
theorem tlcInitialize_refused (h : p.Closed) (hopen : answers.openDevice ≠ mcDrvOk) :
    ∃ code, code ≠ mcDrvOk ∧
      tlcInitialize sizeofTciMessage answers p = (code, McCommCtx.zero, p) := by
  obtain ⟨code, hcode, hmalloc⟩ := h.mcMallocWsm deviceId sizeofTciMessage answers.mallocWsm
  refine ⟨code, hcode, ?_⟩
  simp only [tlcInitialize, tlcOpen, h.mcOpenDevice_refused deviceId answers.connection hopen,
    hmalloc, hcode, ne_eq, not_false_eq_true, if_true]

theorem tlcInitialize_opened (hsize : sizeofTciMessage ≠ 0)
    (hmax : ¬ sizeofTciMessage > mcMaxTciLen) (h : p.Closed)
    (hopen : answers.openDevice = mcDrvOk) (htci : Process.mappedAt answers.mallocWsm ≠ 0)
    (haccepted : (Process.acceptedId answers.openSession).isSome = true) :
    ∃ sessionId t, tlcInitialize sizeofTciMessage answers p =
        (mcDrvOk, ⟨⟨sessionId, deviceId⟩, Process.mappedAt answers.mallocWsm, true⟩, t) ∧
      t.InSession ⟨sessionId, deviceId⟩ := by
  cases hmalloc : answers.mallocWsm with
  | mapFailed errno => exact absurd (congrArg Process.mappedAt hmalloc) htci
  | mmapFailed wsmHandle errno => exact absurd (congrArg Process.mappedAt hmalloc) htci
  | mapped wsmHandle tciMsg physAddr =>
      rw [hmalloc] at htci
      obtain ⟨t, m, device, wsm, hdevice, hmapped, hm, hid, haddr, hlen⟩ :=
        h.onePage deviceId answers.connection hsize wsmHandle tciMsg physAddr
      obtain ⟨sessionId, hsession⟩ := Option.isSome_iff_exists.mp haccepted
      have hcheck : Client.checkOpen false (sessionArgs sizeofTciMessage tciMsg) = none := by
        simp [Client.checkOpen, sessionArgs, hmax]
      obtain ⟨t', hopened, ht'⟩ :=
        hm.mcOpenSession_accepted hcheck hid.symm htci haddr.symm hlen.symm hsession
      refine ⟨sessionId, t', ?_, hid ▸ ht'⟩
      simp only [tlcInitialize, tlcOpen, hopen, hdevice, hmalloc, hmapped, hopened, ne_eq,
        not_true_eq_false, if_false]
      rfl

end Opening

/-! ## One call -/

section Calls

variable {sizeofTciMessage : UInt32} {s : G2d}

/-- A descriptor that was opened behind an idle log is closed again. -/
theorem openAfter_opened_closed {log : List (ResourceLog.Event Int)}
    (h : ResourceLog.openAfter [] log = some []) (fd : Int) :
    ResourceLog.openAfter [] (log ++ [.opened fd]) = some [fd] ∧
      ResourceLog.openAfter [] (log ++ [.opened fd] ++ [.closed fd]) = some [] := by
  have hopened : ResourceLog.openAfter [] (log ++ [.opened fd]) = some [fd] := by
    rw [ResourceLog.openAfter_append_of h]
    rfl
  refine ⟨hopened, ?_⟩
  rw [ResourceLog.openAfter_append_of hopened]
  simp [ResourceLog.openAfter]

/-- What initializing leaves: nothing open, or everything. -/
def Leaves (result : G2dResult × G2d) : Prop :=
  (result.1 = .errorInitFailed ∧ Idle result.2) ∨ (result.1 = .success ∧ Active result.2)

theorem g2ddrmInitialize_leaves (hsize : sizeofTciMessage ≠ 0)
    (hmax : ¬ sizeofTciMessage > mcMaxTciLen) (h : Idle s) {answers : InitializeAnswers}
    (hwhole : answers.AllOrNothing) : Leaves (g2ddrmInitialize sizeofTciMessage answers s) := by
  obtain ⟨hopened, hclosed⟩ := openAfter_opened_closed h.descriptors answers.smem
  unfold g2ddrmInitialize
  by_cases hactivate : secG2dActivate answers.activate ≠ .success
  · rw [if_pos hactivate]
    exact Or.inl ⟨rfl, h⟩
  rw [if_neg hactivate]
  by_cases hsmem : answers.smem < 0
  · simp only [if_pos hsmem]
    exact Or.inl ⟨rfl, h.closed, h.descriptors, h.freedInUse⟩
  simp only [if_neg hsmem]
  by_cases hopen : answers.openDevice = mcDrvOk
  · obtain ⟨htci, haccepted, hcommunicate⟩ := ((hwhole.resolve_left hactivate).resolve_left
      hsmem).resolve_left (not_not.mpr hopen)
    obtain ⟨sessionId, t, hinit, ht⟩ :=
      tlcInitialize_opened hsize hmax h.closed hopen htci haccepted
    simp only [G2d.record, hinit, ne_eq, not_true_eq_false, if_false, htci]
    set ctx : McCommCtx :=
      ⟨⟨sessionId, deviceId⟩, Process.mappedAt answers.mallocWsm, true⟩ with hctx
    by_cases hdead : answers.communicate.notify = false ∨ answers.communicate.wait = .dead
    · -- the device is removed with everything that was opened
      obtain ⟨hcode, hremoved⟩ := @tlcCommunicate_dead t ctx answers.communicate ht hdead
      rw [if_pos hcode]
      exact Or.inl ⟨rfl, hremoved, hclosed, h.freedInUse⟩
    · obtain ⟨hnotify, hwait⟩ := not_or.mp hdead
      obtain ⟨hnotified, hid, hret⟩ := (hcommunicate.resolve_left hnotify).resolve_left hwait
      rw [@tlcCommunicate_notified t ctx answers.communicate ht hnotify hnotified]
      simp only [hid, hret, not_true_eq_false, if_false]
      exact Or.inr ⟨rfl, Or.inl ht, rfl, htci, rfl, hopened, h.freedInUse⟩
  · obtain ⟨code, hcode, hinit⟩ := @tlcInitialize_refused sizeofTciMessage _ _ h.closed hopen
    simp only [G2d.record, hinit, hcode, ne_eq, not_false_eq_true, if_true, G2d.closeSecmem]
    exact Or.inl ⟨rfl, h.closed, hclosed, h.freedInUse⟩

theorem openAfter_used {log : List (ResourceLog.Event Int)} {fd : Int}
    (h : ResourceLog.openAfter [] log = some [fd]) :
    ResourceLog.openAfter [] (log ++ [.used fd]) = some [fd] := by
  rw [ResourceLog.openAfter_append_of h]
  simp [ResourceLog.openAfter]

theorem Active.getFdPhyaddr (h : Active s) : Active s.getFdPhyaddr :=
  ⟨h.session, h.deviceId, h.tciMsg, h.initialized, openAfter_used h.descriptors, h.freedInUse⟩

theorem Active.communicate (h : Active s) (answers : CommunicateAnswers) :
    Active { s with process := (tlcCommunicate answers s.ctx s.process).2 } :=
  ⟨tlcCommunicate_stays h.session, h.deviceId, h.tciMsg, h.initialized, h.descriptors,
    h.freedInUse⟩

theorem g2ddrmBlit_active (h : Active s) (answers : BlitAnswers) (cmd : BlitRaw) :
    Active (g2ddrmBlit answers cmd s).2.2 := by
  have hsrc := h.getFdPhyaddr
  have hdst := hsrc.getFdPhyaddr
  have hplane2 := hdst.getFdPhyaddr
  have htalked := hplane2.communicate answers.communicate
  unfold g2ddrmBlit
  cases answers.src with
  | none => exact hsrc
  | some _ =>
      cases answers.dst with
      | none => exact hdst
      | some _ =>
          cases answers.plane2 with
          | none => exact hplane2
          | some _ =>
              simp only
              split
              · next hnull => exact absurd hnull h.tciMsg
              · split
                · exact htalked
                · split
                  · exact htalked
                  · exact htalked

theorem tlcTerminate_refused (h : Active s) (hin : s.process.InSession s.ctx.handle)
    {answers : TerminateAnswers} (hrefused : answers.freeWsm.free ≠ none) :
    (tlcTerminate answers s).1 ≠ mcDrvOk ∧ Active (tlcTerminate answers s).2 := by
  have hfree := @Process.InSession.mcFreeWsm_refused _ _ hin s.ctx.tciMsg _ hrefused
  rw [h.deviceId] at hfree
  have hclose : tlcClose answers s.ctx s.process =
      ((s.process.mcFreeWsm deviceId s.ctx.tciMsg answers.freeWsm).1, false,
        (s.process.mcFreeWsm deviceId s.ctx.tciMsg answers.freeWsm).2) := by
    simp only [tlcClose, hfree.1, ne_eq, not_false_eq_true, if_true]
  simp only [tlcTerminate, h.initialized, if_true, hclose, Bool.or_false, hfree.1, ne_eq,
    not_false_eq_true]
  exact ⟨trivial, Or.inl hfree.2, h.deviceId, h.tciMsg, h.initialized, h.descriptors, h.freedInUse⟩

/-- Terminating that does not free the TCI fails and keeps the session. -/
theorem g2ddrmTerminate_active (h : Active s) {answers : TerminateAnswers}
    (hkeeps : answers.KeepsTci) :
    (g2ddrmTerminate answers s).1 ≠ .success ∧ Active (g2ddrmTerminate answers s).2 := by
  have htalked := h.communicate answers.communicate
  unfold g2ddrmTerminate
  rw [if_neg h.tciMsg]
  dsimp only
  split
  · exact ⟨by simp, htalked⟩
  next hok =>
    obtain ⟨hnotify, hwait, hin⟩ := tlcCommunicate_ok h.session (not_not.mp hok)
    split
    · exact ⟨by simp, htalked⟩
    next hcompletes =>
      have hrefused := ((hkeeps.resolve_left hnotify).resolve_left (not_not.mpr hwait)).resolve_left
        hcompletes
      have hsame := tlcCommunicate_notified hin hnotify hwait
      obtain ⟨hcode, hactive⟩ := tlcTerminate_refused htalked (by rwa [hsame]) hrefused
      simp only [hcode, ne_eq, not_false_eq_true, if_true]
      exact ⟨by simp, hactive⟩

end Calls

/-! ## Runs -/

/-- Nothing is open, or everything is and the last call was not to close it. -/
def Settled (s : G2d) : Prop :=
  Idle s ∨ (Active s ∧ ¬ s.Ended)

theorem Settled.sessionBalanced {s : G2d} (h : Settled s) : SessionBalanced s := by
  rcases h with h | ⟨h, hended⟩
  · have hbalanced : ResourceLog.Balanced s.log := h.descriptors
    exact ⟨hbalanced.sound, fun _ => h.closed, fun _ => h.freedInUse, fun _ => hbalanced⟩
  · refine ⟨?_, fun h' => absurd h' hended, fun h' => absurd h' hended, fun h' => absurd h' hended⟩
    rw [ResourceLog.Sound, h.descriptors]
    exact Option.some_ne_none _

theorem Settled.idle {s : G2d} (h : Settled s) (hnone : ResourceLog.openAfter [] s.log = some []) :
    Idle s := by
  rcases h with h | ⟨h, _⟩
  · exact h
  · rw [h.descriptors] at hnone
    simp at hnone

theorem Settled.active {s : G2d}
    (h : Settled s) (hopen : ResourceLog.openAfter [] s.log = some [s.fdSecmem]) : Active s := by
  rcases h with h | ⟨h, _⟩
  · rw [h.descriptors] at hopen
    simp at hopen
  · exact h

section Runs

variable {sizeofTciMessage : UInt32}

theorem perform_settled (hsize : sizeofTciMessage ≠ 0) (hmax : ¬ sizeofTciMessage > mcMaxTciLen)
    {s : G2d} (h : Settled s) {label : G2dLabel} (hlabel : Harmless s label) :
    Settled (perform sizeofTciMessage s label) := by
  cases label with
  | init answers =>
      have hleaves := g2ddrmInitialize_leaves hsize hmax (h.idle hlabel.1) hlabel.2
      rcases hleaves with ⟨_, hidle⟩ | ⟨hret, hactive⟩
      · exact Or.inl ⟨hidle.closed, hidle.descriptors, hidle.freedInUse⟩
      · refine Or.inr ⟨⟨hactive.session, hactive.deviceId, hactive.tciMsg, hactive.initialized,
          hactive.descriptors, hactive.freedInUse⟩, ?_⟩
        simp [G2d.Ended, perform, hret]
  | blit answers cmd =>
      have hactive := g2ddrmBlit_active (h.active hlabel) answers cmd
      refine Or.inr ⟨⟨hactive.session, hactive.deviceId, hactive.tciMsg, hactive.initialized,
        hactive.descriptors, hactive.freedInUse⟩, ?_⟩
      simp [G2d.Ended, perform]
  | terminate answers =>
      obtain ⟨hret, hactive⟩ := g2ddrmTerminate_active (h.active hlabel.1) hlabel.2
      refine Or.inr ⟨⟨hactive.session, hactive.deviceId, hactive.tciMsg, hactive.initialized,
        hactive.descriptors, hactive.freedInUse⟩, ?_⟩
      simp [G2d.Ended, perform, hret]

/-- In every run of harmless calls, descriptors are used and closed only while they are open, and
where nothing is to be left open, session, device and descriptor are closed and the TCI is freed,
not under its session. -/
theorem sessionBalanced_run (hsize : sizeofTciMessage ≠ 0)
    (hmax : ¬ sizeofTciMessage > mcMaxTciLen) {labels : List G2dLabel} {s : G2d}
    (hmeet : (g2dSystem sizeofTciMessage).StepsMeet Harmless G2d.init labels)
    (hrun : (g2dSystem sizeofTciMessage).run G2d.init labels = some s) : SessionBalanced s := by
  have hsettled : Settled s := by
    refine TransitionSystem.run_invariant (fun s label t h hlabel hstep => ?_)
      (Or.inl init_idle) hmeet hrun
    have ht : perform sizeofTciMessage s label = t := Option.some.inj hstep
    exact ht ▸ perform_settled hsize hmax h hlabel
  exact hsettled.sessionBalanced

end Runs

/-- The trustlet completes a command. -/
def completes (cmdId : UInt32) : CommunicateAnswers where
  notify := true
  wait := .notified
  response := { id := rspId cmdId, returnCode := retTlG2ddrmOk }

/-- Initializing succeeds. -/
def initSucceeds : InitializeAnswers where
  activate := { opened := true, ioctl := true }
  smem := 5
  connection := 1
  openDevice := mcDrvOk
  mallocWsm := .mapped 6 0x10000 0x80000
  openSession := { registered := .ok 0, reply := .answered mcDrvOk 9
                   nq := some (.answered mcDrvOk ()) }
  communicate := completes cmdG2ddrmInitialize

/-- Terminating succeeds. -/
def terminateSucceeds : TerminateAnswers where
  communicate := completes cmdG2ddrmTerminate
  freeWsm := { munmap := true, free := none }
  closeSession := .answered mcDrvOk ()
  alive := true
  closeDevice := .answered mcDrvOk ()
  activate := { opened := true, ioctl := true }

/-- The daemon is not there at first; later the library is initialized, blits, and cannot
terminate. -/
def retried : List G2dLabel :=
  [.init { initSucceeds with openDevice := mcDrvErrSocketConnect }, .init initSucceeds,
    .blit { src := some 1, dst := some 2, plane2 := some 3, communicate := completes cmdG2ddrmBlit }
      { srcStart := 7, dstStart := 8, plane2Start := 9 },
    .terminate { terminateSucceeds with freeWsm := { munmap := false, free := some 16 } }]

theorem sessionBalanced_run_retried :
    ∃ s, (g2dSystem 600).run G2d.init retried = some s ∧ SessionBalanced s :=
  ⟨_, rfl, @sessionBalanced_run 600 (by decide) (by decide) retried _ (by decide) rfl⟩

/-- Initializing and terminating succeed: the TCI is freed while its session is open. -/
theorem not_sessionBalanced : ¬ ∀ (labels : List G2dLabel) (s : G2d),
    (g2dSystem 600).run G2d.init labels = some s → SessionBalanced s := by
  intro h
  have hfreed := (h [.init initSucceeds, .terminate terminateSucceeds] _ rfl).freed (Or.inr rfl)
  exact absurd hfreed (by decide)

end Exynos8890.SecurePath
