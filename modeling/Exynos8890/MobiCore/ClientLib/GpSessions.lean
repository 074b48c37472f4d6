import Exynos8890.Library.ResourceLog
import Exynos8890.Library.TransitionSystem
import Exynos8890.MobiCore.ClientLib.GpOperation

/-!
# Sessions of the GlobalPlatform client

A session object holds the handle of a session of the client library and the page that is
shared with the trusted application.  Opening a session can fail behind each of its steps, and a
call that fails later ends the session.

Main results:

- Definitions `callTA`, `openSession`, `invokeCommand` and `closeSession`.
- Definition `Gp.system`: any sequence of calls on any number of session objects.
-/

namespace Exynos8890.MobiCore.ClientLib

namespace Gp

open CStruct Process ResourceLog

/-! ## Objects -/

/-- `TEEC_Session`: the page, with its address, and whether the session is active. -/
structure TeecSession where
  handle : SessionHandle
  tci : Option (UInt64 × TeecTci)
  active : Bool

/-- The session objects of a process, by their addresses.  The logs say which pages were mapped
and unmapped, and which sessions were opened and given to `mcCloseSession`. -/
structure GpClient where
  process : Process
  sessions : ObjectRef → TeecSession
  pageLog : List (ResourceLog.Event UInt64)
  sessionLog : List (ResourceLog.Event SessionHandle)

namespace GpClient

/-- Change a session object. -/
def setSession (o : ObjectRef) (session : TeecSession) (c : GpClient) : GpClient :=
  { c with sessions := Function.update c.sessions o session }

def withProcess (process : Process) (c : GpClient) : GpClient :=
  { c with process := process }

/-- The page of an object is written. -/
def setTci (o : ObjectRef) (addr : UInt64) (tci : TeecTci) (c : GpClient) : GpClient :=
  c.setSession o { c.sessions o with tci := some (addr, tci) }

def setHandle (o : ObjectRef) (handle : SessionHandle) (c : GpClient) : GpClient :=
  c.setSession o { c.sessions o with handle := handle }

/-- `session->imp.active = false`. -/
def setInactive (o : ObjectRef) (c : GpClient) : GpClient :=
  c.setSession o { c.sessions o with active := false }

/-- The page of an object is unmapped, if it has one. -/
def munmap (o : ObjectRef) (c : GpClient) : GpClient :=
  match (c.sessions o).tci with
  | none => c
  | some (addr, _) =>
      { c.setSession o { c.sessions o with tci := none } with
        pageLog := c.pageLog ++ [.closed addr] }

/-- The session of an object is closed. -/
def close (o : ObjectRef) (reply : Reply Unit) (c : GpClient) : GpClient :=
  { c with
    process := (c.process.mcCloseSession (c.sessions o).handle reply).2
    sessionLog := c.sessionLog ++ [.closed (c.sessions o).handle] }

end GpClient

/-! ## The trusted application is called -/

/-- What happens during a call of the application: the answers while the operation is set up and
unwound, those of `mcNotify` and `mcWaitNotification`, the error code of the session, what the
page holds behind the wait, and the answer of `mcCloseSession`. -/
structure CallEnvironment extends SetupEnvironment where
  sent : Bool
  wait : WaitAnswer
  lastErr : Int
  answer : TeecTci
  close : Reply Unit

def taExitCodeFinished : Int := 303
def errInvalidSid : Int := -4
def errSidNotActive : Int := -5

/-- What a call returns, writes to `returnOrigin` and to the operation, and the client behind
it. -/
structure CallResult where
  result : TeecResult
  origin : Option Origin
  operation : Option Operation
  client : GpClient

/-- The error for the result of `mcWaitNotification`. -/
def waitError (mcRet : McResult) (lastErr : Int) : TeecResult :=
  if mcRet = mcDrvOk then teecSuccess
  else if mcRet = mcDrvInfoNotification then
    if lastErr = taExitCodeFinished then teecSuccess
    else if lastErr ≠ errInvalidSid ∧ lastErr ≠ errSidNotActive then teeErrorTargetDead
    else teecErrorCommunication
  else teecErrorCommunication

/-- The application is notified and answers: the error, the page and the process. -/
def exchange (handle : SessionHandle) (tci : TeecTci) (env : CallEnvironment)
    (process : Process) : TeecResult × TeecTci × Process :=
  match process.mcNotify handle env.sent with
  | (mcRet, process) =>
      if mcRet ≠ mcDrvOk then (teecErrorCommunication, tci, process)
      else
        match process.mcWaitNotification handle env.wait with
        | (mcRet, process) => (waitError mcRet env.lastErr, env.answer, process)

/-- Previous interactions failed: session and page are released. -/
def cleanup (o : ObjectRef) (reply : Reply Unit) (c : GpClient) : GpClient :=
  ((c.close o reply).setInactive o).munmap o

/-- `_TEEC_CallTA` for the object with this page. -/
def callTA (w : PointerWidth) (o : ObjectRef) (addr : UInt64) (tci : TeecTci)
    (operation : Option Operation) (env : CallEnvironment) (c : GpClient) : CallResult :=
  let handle := (c.sessions o).handle
  let setUp := setupOperation w tci handle operation env.toSetupEnvironment c.process
  if setUp.result ≠ teecSuccess then
    { result := setUp.result
      origin := setUp.origin
      operation := operation
      client := (c.withProcess setUp.process).setTci o addr setUp.tci }
  else
    match exchange handle setUp.tci env setUp.process with
    | (teecError, tci, process) =>
        let unwound := unwindOperation w tci handle operation (teecError = teecSuccess) env.unmap
          process
        let c := (c.withProcess unwound.process).setTci o addr tci
        if teecError ≠ teecSuccess then
          { result := teecError
            origin :=
              if teecError = teecErrorCommunication then some teecOriginComms
              else unwound.origin.or (some teecOriginTee)
            operation := unwound.operation
            client := cleanup o env.close c }
        else
          { result := teecSuccess
            origin := unwound.origin
            operation := unwound.operation
            client := c }

/-! ## The calls of the client -/

/-- The arguments of `TEEC_OpenSession`: the device of the context, if there is a context. -/
structure OpenSessionArgs where
  context : Option UInt32
  connectionMethod : UInt32

def teecLoginPublic : UInt32 := 0

def mcDrvErrTrustedApplicationNotFound : McResult := mcDrvErrTrustletNotFound

/-- `sizeof(_TEEC_TCI)`. -/
def sizeofTci : PointerWidth → UInt32
  | .bits32 => 100
  | .bits64 => 160

/-- What happens while a session is opened: the address that `mmap` finds, the answers of
`mcOpenGPTA`, and what happens when the application is called. -/
structure OpenSessionEnvironment extends CallEnvironment where
  mmap : Option UInt64
  answers : SessionAnswers

/-- The error path of `TEEC_OpenSession`. -/
def openFailed (o : ObjectRef) (reply : Reply Unit) (c : GpClient) : GpClient :=
  (if (c.sessions o).active then (c.close o reply).setInactive o else c).munmap o

/-- The session has been opened, and its application is called for the first time. -/
def enter (w : PointerWidth) (o : ObjectRef) (addr : UInt64) (operation : Option Operation)
    (env : OpenSessionEnvironment) (c : GpClient) : CallResult :=
  let called := callTA w o addr TeecTci.zero operation env.toCallEnvironment c
  if called.result ≠ teecSuccess then
    { called with client := openFailed o env.close called.client }
  else
    match (called.client.sessions o).tci with
    | none => called
    | some (_, tci) =>
        if tci.returnStatus ≠ teecSuccess then
          { called with
            result := tci.returnStatus
            origin := some tci.returnOrigin
            client := openFailed o env.close called.client }
        else { called with origin := some teecOriginTrustedApp }

/-- The page has been mapped. -/
def openPage (o : ObjectRef) (deviceId : UInt32) (addr : UInt64) (c : GpClient) : GpClient :=
  { c.setSession o
      { handle := { sessionId := 0, deviceId := deviceId }
        tci := some (addr, TeecTci.zero)
        active := false } with
    pageLog := c.pageLog ++ [.opened addr] }

/-- `mcOpenGPTA` has opened the session. -/
def activate (o : ObjectRef) (handle : SessionHandle) (process : Process) (c : GpClient) :
    GpClient :=
  { c.setSession o { c.sessions o with handle := handle, active := true } with
    process := process
    sessionLog := c.sessionLog ++ [.opened handle] }

/-- `TEEC_OpenSession`. -/
def openSession (w : PointerWidth) (o : ObjectRef) (args : OpenSessionArgs)
    (operation : Option Operation) (env : OpenSessionEnvironment) (c : GpClient) : CallResult :=
  match args.context with
  | none =>
      { result := teecErrorBadParameters
        origin := some teecOriginApi
        operation := operation
        client := c }
  | some deviceId =>
      if args.connectionMethod ≠ teecLoginPublic then
        { result := teecErrorNotImplemented
          origin := some teecOriginApi
          operation := operation
          client := c }
      else
        match env.mmap with
        | none =>
            { result := teecErrorOutOfMemory
              origin := some teecOriginApi
              operation := operation
              client := c.setSession o { c.sessions o with tci := none, active := false } }
        | some addr =>
            let c := openPage o deviceId addr c
            let openArgs : OpenArgs :=
              { session := true, deviceId := deviceId, service := true, tci := addr
                len := sizeofTci w }
            match c.process.mcOpenGPTA openArgs env.answers with
            | (mcRet, sessionId, process) =>
                let handle : SessionHandle :=
                  { sessionId := sessionId.getD 0, deviceId := deviceId }
                if mcRet ≠ mcDrvOk then
                  { result :=
                      if mcRet = mcDrvErrTrustedApplicationNotFound then teecErrorItemNotFound
                      else teecErrorGeneric
                    origin := some teecOriginComms
                    operation := operation
                    client :=
                      openFailed o env.close ((c.withProcess process).setHandle o handle) }
                else enter w o addr operation env (activate o handle process c)

/-- `TEEC_InvokeCommand`; it reads the page of an active object. -/
def invokeCommand (w : PointerWidth) (o : ObjectRef) (operation : Option Operation)
    (env : CallEnvironment) (c : GpClient) : Option CallResult :=
  if (c.sessions o).active = false then
    some
      { result := teecErrorBadState
        origin := some teecOriginApi
        operation := operation
        client := c }
  else
    (c.sessions o).tci.map fun page =>
      let called := callTA w o page.1 page.2 operation env c
      if called.result ≠ teecSuccess then called
      else
        match (called.client.sessions o).tci with
        | none => called
        | some (_, tci) =>
            { called with result := tci.returnStatus, origin := some tci.returnOrigin }

/-- What `TEEC_CloseSession` does at its end. -/
def closeEnd (o : ObjectRef) (c : GpClient) : GpClient :=
  (c.munmap o).setInactive o

/-- `TEEC_CloseSession`; it writes to the page of an active object. -/
def closeSession (w : PointerWidth) (o : ObjectRef) (env : CallEnvironment) (c : GpClient) :
    Option GpClient :=
  if (c.sessions o).active = false then some (closeEnd o c)
  else
    (c.sessions o).tci.map fun page =>
      let c := (callTA w o page.1 page.2 none env c).client
      closeEnd o (if (c.sessions o).active then c.close o env.close else c)

/-! ## Sequences of calls -/

/-- The calls of a client on its session objects, with what happens during each. -/
inductive Call where
  | openSession (o : ObjectRef) (args : OpenSessionArgs) (operation : Option Operation)
      (env : OpenSessionEnvironment)
  | invokeCommand (o : ObjectRef) (operation : Option Operation) (env : CallEnvironment)
  | closeSession (o : ObjectRef) (env : CallEnvironment)

/-- The client behind a call. -/
def perform (w : PointerWidth) (c : GpClient) : Call → Option GpClient
  | .openSession o args operation env => some (openSession w o args operation env c).client
  | .invokeCommand o operation env => (invokeCommand w o operation env c).map CallResult.client
  | .closeSession o env => closeSession w o env c

/-- `mmap` finds an address where nothing is mapped. -/
def FreshPage (c : GpClient) (mmap : Option UInt64) : Prop :=
  ∀ addr ∈ mmap, addr ≠ 0 ∧ ∀ pages ∈ openAfter [] c.pageLog, addr ∉ pages

instance (c : GpClient) (mmap : Option UInt64) : Decidable (FreshPage c mmap) :=
  Option.decidableForallMem mmap

/-- The secure world gives a new session an id that no session of the device has. -/
def FreshSession (c : GpClient) (args : OpenSessionArgs) (answers : SessionAnswers) : Prop :=
  ∀ deviceId ∈ args.context, ∀ sessionId ∈ acceptedId answers,
    ¬ c.process.IsOpen { sessionId := sessionId, deviceId := deviceId }

instance (c : GpClient) (args : OpenSessionArgs) (answers : SessionAnswers) :
    Decidable (FreshSession c args answers) :=
  have (deviceId : UInt32) : Decidable (∀ sessionId ∈ acceptedId answers,
      ¬ c.process.IsOpen { sessionId := sessionId, deviceId := deviceId }) :=
    Option.decidableForallMem (acceptedId answers)
  Option.decidableForallMem args.context

/-- Kernel and secure world hand out what is not in use. -/
def Possible (c : GpClient) : Call → Prop
  | .openSession _ args _ env => FreshPage c env.mmap ∧ FreshSession c args env.answers
  | .invokeCommand .. | .closeSession .. => True

instance (c : GpClient) (call : Call) : Decidable (Possible c call) :=
  match call with
  | .openSession .. => inferInstanceAs (Decidable (_ ∧ _))
  | .invokeCommand .. => isTrue trivial
  | .closeSession .. => isTrue trivial

/-- A client under every sequence of calls. -/
def system (w : PointerWidth) : TransitionSystem GpClient Call where
  step c call := if Possible c call then perform w c call else none

/-- No object has been used yet. -/
def start (process : Process) : GpClient where
  process := process
  sessions := fun _ => { handle := { sessionId := 0, deviceId := 0 }, tci := none, active := false }
  pageLog := []
  sessionLog := []

end Gp

end Exynos8890.MobiCore.ClientLib
