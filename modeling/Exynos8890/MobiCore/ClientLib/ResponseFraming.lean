import Exynos8890.Library.StreamReader
import Exynos8890.MobiCore.ClientLib.BulkBuffers

/-!
# The responses on the connection to the daemon

The calls of the client library that read a response with a payload, over the bytes that
come from the daemon.  One macro receives headers and payloads, and takes what is as long
as a header for either.

Main results:

- Definitions `recvFromDaemon` and `receiveResponse`.
- Definitions `mcOpenSession`, `mcOpenTrustlet`, `mcOpenGPTA`, `mcMap` and
  `mcGetMobiCoreVersion`: what each call makes of the bytes.
- Theorem `framed_iff`: a call that succeeds has taken its response, unless its payload came
  with the length of a header.
- Theorem `framed_run_iff`: the same over every sequence of calls on one connection.
-/

namespace Exynos8890.MobiCore.ClientLib

namespace ResponseFraming

open CStruct StreamReader

/-! ## Receiving -/

/-- `sizeof(mcDrvResponseHeader_t)`. -/
def responseHeaderSize : Nat := CStruct.sizeOf [u32]

/-- `mcDrvRspOpenSessionPayload_t`: the id, the address and the magic of the session. -/
def openSessionPayload : List CType := [u32, u32, u32]

/-- `mcDrvRspMapBulkMemPayload_t`: the id of the session and the secure virtual address. -/
def mapBulkMemPayload : List CType := [u32, u32]

/-- `mcVersionInfo_t`: the product id and eight versions. -/
def mcVersionInfo : List CType :=
  byteArray 64 :: List.replicate 8 u32

/-- `RECV_FROM_DAEMON` into a structure of this size, which holds what was on the stack. -/
def recvFromDaemon (size : Nat) (stack : Memory) (s : Socket) :
    Except McResult (List UInt8) × Socket :=
  match s.receive size with
  | (none, t) => (.error mcDrvErrSocketRead, t)
  | (some bytes, t) =>
      if bytes = [] then (.error mcDrvErrSocketRead, t)
      else if bytes.length ≠ size ∧ bytes.length ≠ responseHeaderSize then
        (.error mcDrvErrSocketLength, t)
      else (.ok (load ⟨0, size⟩ (store 0 bytes stack)), t)

/-- The result in a response header. -/
def responseId (header : List UInt8) : McResult :=
  UInt32.ofNat (ofLittleEndian header)

/-- The header and the payload of a response; `error` is the result for an error of the
daemon. -/
def receiveResponse (size : Nat) (error : McResult → McResult) (stack : Memory) (s : Socket) :
    Except McResult (List UInt8) × Socket :=
  match recvFromDaemon responseHeaderSize stack s with
  | (.error code, t) => (.error code, t)
  | (.ok header, t) =>
      if responseId header ≠ mcDrvOk then (.error (error (responseId header)), t)
      else recvFromDaemon size stack t

/-! ## The calls -/

/-- What happens to a call: whether its command is sent, what is on its stack, and the second
connection of a session. -/
structure Wire where
  sent : Bool
  stack : Memory
  connected : Bool
  nqSent : Bool
  nq : Socket

/-- What a call returns, the structure from which it takes its results, and what is left on
the connections. -/
structure Answer where
  mcResult : McResult
  payload : Option (List UInt8)
  connection : Socket
  sessionConnection : Socket

/-- A call that ends before its response. -/
def refuse (code : McResult) (wire : Wire) (s : Socket) : Answer where
  mcResult := code
  payload := none
  connection := s
  sessionConnection := wire.nq

/-- The exchange on the connection for notifications. -/
def connectNq (payload : List UInt8) (wire : Wire) (s : Socket) : Answer :=
  if wire.connected = false then
    { refuse mcDrvErrSocketConnect wire s with payload := some payload }
  else if wire.nqSent = false then
    { refuse mcDrvErrSocketWrite wire s with payload := some payload }
  else
    match recvFromDaemon responseHeaderSize wire.stack wire.nq with
    | (.error code, u) =>
        { mcResult := code, payload := some payload, connection := s, sessionConnection := u }
    | (.ok header, u) =>
        { mcResult := responseId header, payload := some payload, connection := s
          sessionConnection := u }

/-- `registerWsmL2`, with its result and the handle that it sets. -/
def registerWsmL2 (answer : McResult × UInt32) : Except McResult UInt32 :=
  if answer.1 ≠ mcDrvOk then .error answer.1 else .ok answer.2

/-- What the calls have in common behind their tests: `refused` is the result of a test that
fails. -/
def exchange (refused : Option McResult) (payload : List CType) (error : McResult → McResult)
    (finish : List UInt8 → Wire → Socket → Answer) (wire : Wire) (s : Socket) : Answer :=
  match refused with
  | some code => refuse code wire s
  | none =>
      if wire.sent = false then refuse mcDrvErrSocketWrite wire s
      else
        match receiveResponse (CStruct.sizeOf payload) error wire.stack s with
        | (.error code, t) => refuse code wire t
        | (.ok payload, t) => finish payload wire t

/-- The response is all that the call waits for. -/
def finish (payload : List UInt8) (wire : Wire) (s : Socket) : Answer where
  mcResult := mcDrvOk
  payload := some payload
  connection := s
  sessionConnection := wire.nq

/-- The tests of a call that opens a session. -/
def checkOpen (needsTci : Bool) (args : OpenArgs) (registered : McResult × UInt32) (c : Client) :
    Option McResult :=
  match c.prepare needsTci args (registerWsmL2 registered) with
  | .error code => some code
  | .ok _ => none

/-- `mcOpenSession`. -/
def mcOpenSession (args : OpenArgs) (registered : McResult × UInt32) (c : Client) (wire : Wire)
    (s : Socket) : Answer :=
  exchange (checkOpen false args registered c) openSessionPayload openError connectNq wire s

/-- `mcOpenTrustlet`. -/
def mcOpenTrustlet (args : OpenArgs) (registered : McResult × UInt32) (c : Client) (wire : Wire)
    (s : Socket) : Answer :=
  exchange (checkOpen true args registered c) openSessionPayload openError connectNq wire s

/-- `mcOpenGPTA`. -/
def mcOpenGPTA (args : OpenArgs) (registered : McResult × UInt32) (c : Client) (wire : Wire)
    (s : Socket) : Answer :=
  exchange (checkOpen false args registered c) openSessionPayload openError connectNq wire s

/-- The tests of `mcMap`, the registering of the buffer included. -/
def checkMap (args : MapArgs) (registered : McResult × UInt32) (c : Client) : Option McResult :=
  if args.sessionHandle = false ∨ args.mapInfo = false ∨ args.buf = 0 then
    some mcDrvErrNullPointer
  else
    match resolveDeviceId args.deviceId c.devices with
    | none => some mcDrvErrUnknownDevice
    | some device =>
        match device.resolveSessionId args.sessionId with
        | none => some mcDrvErrUnknownSession
        | some session =>
            match session.addBulkBuf args.buf args.bufLen (registerWsmL2 registered) with
            | .error ret => some ret
            | .ok _ => none

/-- `mcMap`. -/
def mcMap (args : MapArgs) (registered : McResult × UInt32) (c : Client) (wire : Wire)
    (s : Socket) : Answer :=
  exchange (checkMap args registered c) mapBulkMemPayload (fun _ => mcDrvErrDaemonUnreachable)
    finish wire s

/-- The tests of `mcGetMobiCoreVersion`; `versionInfo` says whether the pointer is not null. -/
def checkVersion (deviceId : UInt32) (versionInfo : Bool) (c : Client) : Option McResult :=
  if resolveDeviceId deviceId c.devices = none then some mcDrvErrUnknownDevice
  else if versionInfo = false then some mcDrvErrNullPointer
  else none

/-- `mcGetMobiCoreVersion`. -/
def mcGetMobiCoreVersion (deviceId : UInt32) (versionInfo : Bool) (c : Client) (wire : Wire)
    (s : Socket) : Answer :=
  exchange (checkVersion deviceId versionInfo c) mcVersionInfo
    (fun _ => mcDrvErrDaemonUnreachable) finish wire s

/-- The calls with a payload in their response. -/
inductive PayloadCall where
  | mcOpenSession (args : OpenArgs) (registered : McResult × UInt32)
  | mcOpenTrustlet (args : OpenArgs) (registered : McResult × UInt32)
  | mcOpenGPTA (args : OpenArgs) (registered : McResult × UInt32)
  | mcMap (args : MapArgs) (registered : McResult × UInt32)
  | mcGetMobiCoreVersion (deviceId : UInt32) (versionInfo : Bool)

namespace PayloadCall

/-- Carry out a call. -/
def perform : PayloadCall → Client → Wire → Socket → Answer
  | mcOpenSession args registered => ResponseFraming.mcOpenSession args registered
  | mcOpenTrustlet args registered => ResponseFraming.mcOpenTrustlet args registered
  | mcOpenGPTA args registered => ResponseFraming.mcOpenGPTA args registered
  | mcMap args registered => ResponseFraming.mcMap args registered
  | mcGetMobiCoreVersion deviceId versionInfo =>
      ResponseFraming.mcGetMobiCoreVersion deviceId versionInfo

/-- The tests of a call. -/
def check : PayloadCall → Client → Option McResult
  | mcOpenSession args registered => checkOpen false args registered
  | mcOpenTrustlet args registered => checkOpen true args registered
  | mcOpenGPTA args registered => checkOpen false args registered
  | mcMap args registered => checkMap args registered
  | mcGetMobiCoreVersion deviceId versionInfo => checkVersion deviceId versionInfo

/-- The payload of the response. -/
def payload : PayloadCall → List CType
  | mcOpenSession _ _ | mcOpenTrustlet _ _ | mcOpenGPTA _ _ => openSessionPayload
  | mcMap _ _ => mapBulkMemPayload
  | mcGetMobiCoreVersion _ _ => mcVersionInfo

/-- The result for an error of the daemon. -/
def error : PayloadCall → McResult → McResult
  | mcOpenSession _ _ | mcOpenTrustlet _ _ | mcOpenGPTA _ _ => openError
  | mcMap _ _ | mcGetMobiCoreVersion _ _ => fun _ => mcDrvErrDaemonUnreachable

/-- Whether the call connects for notifications. -/
def connects : PayloadCall → Bool
  | mcOpenSession _ _ | mcOpenTrustlet _ _ | mcOpenGPTA _ _ => true
  | mcMap _ _ | mcGetMobiCoreVersion _ _ => false

end PayloadCall

/-! ## What is received -/

section Receive

variable {size : Nat} {stack : Memory} {s t : Socket} {out : List UInt8}

/-- What is taken for a structure is as long as the structure or as a header. -/
theorem recvFromDaemon_eq_ok :
    recvFromDaemon size stack s = (.ok out, t) ↔
      ∃ bytes, s.receive size = (some bytes, t) ∧ bytes ≠ [] ∧
        (bytes.length = size ∨ bytes.length = responseHeaderSize) ∧
        out = load ⟨0, size⟩ (store 0 bytes stack) := by
  unfold recvFromDaemon
  constructor
  · intro h
    split at h
    · cases h
    · next bytes u hreceive =>
        split at h
        · cases h
        · next hbytes =>
            split at h
            · cases h
            · next hlength =>
                cases h
                refine ⟨bytes, hreceive, hbytes, ?_, rfl⟩
                omega
  · rintro ⟨bytes, hreceive, hbytes, hlength, rfl⟩
    rw [hreceive]
    simp only [hbytes, if_false]
    rw [if_neg (by omega)]

theorem recvFromDaemon_error_ne_ok {code : McResult}
    (h : recvFromDaemon size stack s = (.error code, t)) : code ≠ mcDrvOk := by
  unfold recvFromDaemon at h
  split at h
  · cases h
    decide
  · split at h
    · cases h
      decide
    · split at h
      · cases h
        decide
      · cases h

/-- A structure that was received whole holds what was received. -/
theorem load_of_whole {bytes : List UInt8} (h : bytes.length = size) :
    load ⟨0, size⟩ (store 0 bytes stack) = bytes :=
  load_store_self (r := ⟨0, size⟩) h stack

theorem recvFromDaemon_header (stack : Memory) :
    recvFromDaemon responseHeaderSize stack s = (.ok out, t) ↔
      s.receive responseHeaderSize = (some out, t) ∧ out.length = responseHeaderSize := by
  rw [recvFromDaemon_eq_ok]
  constructor
  · rintro ⟨bytes, hreceive, _, hlength, rfl⟩
    have hwhole : bytes.length = responseHeaderSize := hlength.elim id id
    rw [load_of_whole hwhole]
    exact ⟨hreceive, hwhole⟩
  · rintro ⟨hreceive, hwhole⟩
    refine ⟨out, hreceive, ?_, Or.inl hwhole, (load_of_whole hwhole).symm⟩
    rintro rfl
    exact absurd hwhole (by decide)

/-- A header that says success is received, and these bytes behind it. -/
def Arrives (size : Nat) (s : Socket) (bytes : List UInt8) (u : Socket) : Prop :=
  ∃ header t, s.receive responseHeaderSize = (some header, t) ∧
    header.length = responseHeaderSize ∧ responseId header = mcDrvOk ∧
    t.receive size = (some bytes, u)

/-- The payload is received whole, or with the length of a header. -/
theorem receiveResponse_eq_ok (error : McResult → McResult) (stack : Memory) :
    receiveResponse size error stack s = (.ok out, t) ↔
      ∃ bytes, Arrives size s bytes t ∧ bytes ≠ [] ∧
        (bytes.length = size ∨ bytes.length = responseHeaderSize) ∧
        out = load ⟨0, size⟩ (store 0 bytes stack) := by
  unfold receiveResponse
  constructor
  · intro h
    split at h
    · cases h
    · next header u hheader =>
        obtain ⟨hreceive, hwhole⟩ := (recvFromDaemon_header stack).mp hheader
        split at h
        · cases h
        · next hok =>
            obtain ⟨bytes, hbytes, hrest⟩ := recvFromDaemon_eq_ok.mp h
            exact ⟨bytes, ⟨header, u, hreceive, hwhole, not_not.mp hok, hbytes⟩, hrest⟩
  · rintro ⟨bytes, ⟨header, u, hreceive, hwhole, hok, hbytes⟩, hrest⟩
    rw [(recvFromDaemon_header stack).mpr ⟨hreceive, hwhole⟩]
    simp only [hok, ne_eq, not_true_eq_false, if_false]
    exact recvFromDaemon_eq_ok.mpr ⟨bytes, hbytes, hrest⟩

theorem receiveResponse_error_ne_ok {error : McResult → McResult} {code : McResult}
    (herror : ∀ code, code ≠ mcDrvOk → error code ≠ mcDrvOk)
    (h : receiveResponse size error stack s = (.error code, t)) : code ≠ mcDrvOk := by
  unfold receiveResponse at h
  split at h
  · next hheader =>
      cases h
      exact recvFromDaemon_error_ne_ok hheader
  · split at h
    · next hfailed =>
        cases h
        exact herror _ hfailed
    · exact recvFromDaemon_error_ne_ok h

end Receive

/-! ## Calls that succeed -/

/-- The exchange on the connection for notifications succeeds. -/
def NqAccepts (wire : Wire) : Prop :=
  wire.connected = true ∧ wire.nqSent = true ∧
    ∃ header u, wire.nq.receive responseHeaderSize = (some header, u) ∧
      header.length = responseHeaderSize ∧ responseId header = mcDrvOk

namespace PayloadCall

variable {call : PayloadCall} {c : Client} {wire : Wire} {s t : Socket}

/-- What a call does behind its payload. -/
def behind (call : PayloadCall) : List UInt8 → Wire → Socket → Answer :=
  if call.connects = true then connectNq else finish

theorem perform_eq (call : PayloadCall) (c : Client) (wire : Wire) (s : Socket) :
    call.perform c wire s =
      exchange (call.check c) call.payload call.error call.behind wire s := by
  cases call <;> rfl

theorem check_ne_ok {code : McResult} (h : call.check c = some code) : code ≠ mcDrvOk := by
  have hopen : ∀ {needsTci : Bool} {args : OpenArgs} {registered : McResult × UInt32},
      checkOpen needsTci args registered c = some code → code ≠ mcDrvOk := by
    intro needsTci args registered hcheck
    unfold checkOpen at hcheck
    split at hcheck
    · next hprepare =>
        cases hcheck
        exact Client.prepare_error_ne_ok hprepare
    · cases hcheck
  cases call with
  | mcOpenSession args registered => exact hopen h
  | mcOpenTrustlet args registered => exact hopen h
  | mcOpenGPTA args registered => exact hopen h
  | mcMap args registered =>
      simp only [check, checkMap] at h
      split at h
      · cases h
        decide
      · split at h
        · cases h
          decide
        · split at h
          · cases h
            decide
          · split at h
            · next hadd =>
                cases h
                unfold Session.addBulkBuf registerWsmL2 at hadd
                split at hadd
                · cases hadd
                  decide
                · by_cases hret : registered.1 = mcDrvOk
                  · simp [hret] at hadd
                  · simp only [ne_eq, hret, not_false_eq_true, if_true] at hadd
                    cases hadd
                    exact hret
            · cases h
  | mcGetMobiCoreVersion deviceId versionInfo =>
      simp only [check, checkVersion] at h
      split at h
      · cases h
        decide
      · split at h
        · cases h
          decide
        · cases h

theorem error_ne_ok (call : PayloadCall) (code : McResult) (h : code ≠ mcDrvOk) :
    call.error code ≠ mcDrvOk := by
  cases call with
  | mcOpenSession args registered => exact openError_ne_ok h
  | mcOpenTrustlet args registered => exact openError_ne_ok h
  | mcOpenGPTA args registered => exact openError_ne_ok h
  | mcMap args registered => exact (by decide : mcDrvErrDaemonUnreachable ≠ mcDrvOk)
  | mcGetMobiCoreVersion deviceId versionInfo =>
      exact (by decide : mcDrvErrDaemonUnreachable ≠ mcDrvOk)

/-- Behind the payload neither the payload nor the connection to the daemon changes. -/
theorem behind_frame (call : PayloadCall) (out : List UInt8) (wire : Wire) (s : Socket) :
    (call.behind out wire s).payload = some out ∧ (call.behind out wire s).connection = s := by
  unfold behind
  split
  · unfold connectNq
    repeat' split
    all_goals exact ⟨rfl, rfl⟩
  · exact ⟨rfl, rfl⟩

/-- Behind the payload a call succeeds if its second connection does; then it has taken one
header from it. -/
theorem behind_ok_iff (call : PayloadCall) (out : List UInt8) (wire : Wire) (s : Socket) :
    (call.behind out wire s).mcResult = mcDrvOk ↔ (call.connects = true → NqAccepts wire) := by
  unfold behind
  cases call.connects with
  | false => exact iff_of_true rfl fun h => absurd h (by decide)
  | true =>
      rw [if_pos rfl]
      refine Iff.trans ?_ ⟨fun h _ => h, fun h => h rfl⟩
      unfold connectNq NqAccepts
      split
      · next hconnected =>
          apply iff_of_false (by decide : mcDrvErrSocketConnect ≠ mcDrvOk)
          intro h
          simp [hconnected] at h
      · next hconnected =>
          split
          · next hsent =>
              apply iff_of_false (by decide : mcDrvErrSocketWrite ≠ mcDrvOk)
              intro h
              simp [hsent] at h
          · next hsent =>
              rw [Bool.not_eq_false] at hconnected hsent
              split
              · next code u hreceive =>
                  apply iff_of_false (recvFromDaemon_error_ne_ok hreceive)
                  rintro ⟨_, _, header, v, hheader, hwhole, _⟩
                  have hok := (recvFromDaemon_header wire.stack).mpr ⟨hheader, hwhole⟩
                  rw [hreceive] at hok
                  cases hok
              · next header u hreceive =>
                  obtain ⟨hheader, hwhole⟩ := (recvFromDaemon_header wire.stack).mp hreceive
                  constructor
                  · intro hok
                    exact ⟨hconnected, hsent, header, u, hheader, hwhole, hok⟩
                  · rintro ⟨_, _, header', v, hheader', _, hok⟩
                    rw [hheader] at hheader'
                    cases hheader'
                    exact hok

/-- A call succeeds when its tests, its command, its response and its second connection do. -/
theorem perform_ok_iff (call : PayloadCall) (c : Client) (wire : Wire) (s : Socket) :
    (call.perform c wire s).mcResult = mcDrvOk ↔
      call.check c = none ∧ wire.sent = true ∧ (call.connects = true → NqAccepts wire) ∧
        ∃ bytes t, Arrives (CStruct.sizeOf call.payload) s bytes t ∧ bytes ≠ [] ∧
          (bytes.length = CStruct.sizeOf call.payload ∨ bytes.length = responseHeaderSize) := by
  rw [perform_eq]
  unfold exchange
  split
  · next code hcheck =>
      apply iff_of_false (check_ne_ok hcheck)
      intro h
      simp [hcheck] at h
  · next hcheck =>
      split
      · next hsent =>
          apply iff_of_false (by decide : mcDrvErrSocketWrite ≠ mcDrvOk)
          intro h
          simp [hsent] at h
      · next hsent =>
          rw [Bool.not_eq_false] at hsent
          split
          · next code t hreceive =>
              apply iff_of_false (receiveResponse_error_ne_ok call.error_ne_ok hreceive)
              rintro ⟨_, _, _, bytes, u, harrives, hbytes, hlength⟩
              have hok := (receiveResponse_eq_ok call.error wire.stack).mpr
                ⟨bytes, harrives, hbytes, hlength, rfl⟩
              rw [hreceive] at hok
              cases hok
          · next out t hreceive =>
              obtain ⟨bytes, harrives, hbytes, hlength, _⟩ :=
                (receiveResponse_eq_ok call.error wire.stack).mp hreceive
              have hbehind := call.behind_ok_iff out wire t
              constructor
              · intro hok
                exact ⟨hcheck, hsent, hbehind.mp hok, bytes, t, harrives, hbytes, hlength⟩
              · exact fun h => hbehind.mpr h.2.2.1

end PayloadCall

/-! ## Framing -/

/-- A call has taken its response and nothing else: a header that says success, and the whole
payload behind it. -/
structure Framed (size : Nat) (s : Socket) (answer : Answer) : Prop where
  complete : responseHeaderSize + size ≤ s.unread.length
  header : responseId (s.unread.take responseHeaderSize) = mcDrvOk
  payload : answer.payload = some ((s.unread.drop responseHeaderSize).take size)
  connection : answer.connection.unread = s.unread.drop (responseHeaderSize + size)

/-- A call of the client with what happens to it. -/
structure Step where
  call : PayloadCall
  client : Client
  wire : Wire

/-- The size of the payload. -/
def Step.size (step : Step) : Nat :=
  CStruct.sizeOf step.call.payload

/-- What the call of a step leaves. -/
def Step.answer (step : Step) (s : Socket) : Answer :=
  step.call.perform step.client step.wire s

/-- A call that succeeds has taken its response. -/
def Step.Frames (s : Socket) (step : Step) : Prop :=
  (step.answer s).mcResult = mcDrvOk → Framed step.size s (step.answer s)

/-- Nothing but the payload can fail, and the payload comes with the length of a header. -/
def Step.CutsPayload (s : Socket) (step : Step) : Prop :=
  step.call.check step.client = none ∧ step.wire.sent = true ∧
    (step.call.connects = true → NqAccepts step.wire) ∧
    ∃ bytes t, Arrives step.size s bytes t ∧ bytes.length = responseHeaderSize

theorem Step.header_lt_size (step : Step) : responseHeaderSize < step.size := by
  have hopen : responseHeaderSize < CStruct.sizeOf openSessionPayload := by decide
  unfold Step.size
  cases step.call with
  | mcOpenSession args registered => exact hopen
  | mcOpenTrustlet args registered => exact hopen
  | mcOpenGPTA args registered => exact hopen
  | mcMap args registered =>
      exact (by decide : responseHeaderSize < CStruct.sizeOf mapBulkMemPayload)
  | mcGetMobiCoreVersion deviceId versionInfo =>
      exact (by decide : responseHeaderSize < CStruct.sizeOf mcVersionInfo)

theorem Arrives.append {size : Nat} {s u : Socket} {bytes : List UInt8}
    (h : Arrives size s bytes u) :
    ∃ header, header.length = responseHeaderSize ∧ responseId header = mcDrvOk ∧
      s.unread = header ++ (bytes ++ u.unread) := by
  obtain ⟨header, t, hheader, hlength, hok, hbytes⟩ := h
  refine ⟨header, hlength, hok, ?_⟩
  rw [(Socket.receive_append hheader).1, (Socket.receive_append hbytes).1]

theorem Step.answer_of_arrives {step : Step} {s t : Socket} {bytes : List UInt8}
    (hcheck : step.call.check step.client = none) (hsent : step.wire.sent = true)
    (harrives : Arrives step.size s bytes t) (hbytes : bytes ≠ [])
    (hlength : bytes.length = step.size ∨ bytes.length = responseHeaderSize) :
    (step.answer s).payload = some (load ⟨0, step.size⟩ (store 0 bytes step.wire.stack)) ∧
      (step.answer s).connection = t := by
  have hresponse := (receiveResponse_eq_ok step.call.error step.wire.stack).mpr
    ⟨bytes, harrives, hbytes, hlength, rfl⟩
  rw [Step.answer, PayloadCall.perform_eq]
  unfold exchange
  simp only [hcheck, hsent, Bool.true_eq_false, if_false]
  rw [Step.size] at hresponse
  rw [hresponse]
  exact PayloadCall.behind_frame _ _ _ _

/-- A call that succeeds has taken its response exactly when its payload does not come with
the length of a header. -/
theorem framed_iff (s : Socket) (step : Step) : step.Frames s ↔ ¬ step.CutsPayload s := by
  have hlt := step.header_lt_size
  constructor
  · rintro hframes ⟨hcheck, hsent, hnq, bytes, t, harrives, hlength⟩
    have hbytes : bytes ≠ [] := by
      rintro rfl
      exact absurd hlength (by decide)
    have hok := (step.call.perform_ok_iff step.client step.wire s).mpr
      ⟨hcheck, hsent, hnq, bytes, t, harrives, hbytes, Or.inr hlength⟩
    have hframed := hframes hok
    have hleft := (Step.answer_of_arrives hcheck hsent harrives hbytes (Or.inr hlength)).2
    obtain ⟨header, hheader, _, hunread⟩ := harrives.append
    -- the stream is further on than the call has read
    have hrest := congrArg List.length hframed.connection
    have hcomplete := hframed.complete
    rw [hleft, List.length_drop] at hrest
    rw [hunread, List.length_append, List.length_append] at hrest hcomplete
    omega
  · intro hwhole hok
    obtain ⟨hcheck, hsent, hnq, bytes, t, harrives, hbytes, hlength⟩ :=
      (step.call.perform_ok_iff step.client step.wire s).mp hok
    have hsize : bytes.length = step.size := by
      rcases hlength with hsize | hcut
      · exact hsize
      · exact absurd ⟨hcheck, hsent, hnq, bytes, t, harrives, hcut⟩ hwhole
    obtain ⟨hpayload, hleft⟩ :=
      Step.answer_of_arrives hcheck hsent harrives hbytes (Or.inl hsize)
    obtain ⟨header, hheader, hheaderOk, hunread⟩ := harrives.append
    have hdrop : s.unread.drop responseHeaderSize = bytes ++ t.unread := by
      rw [hunread, ← hheader, List.drop_left]
    constructor
    · rw [hunread, List.length_append, List.length_append]
      omega
    · rw [hunread, ← hheader, List.take_left]
      exact hheaderOk
    · rw [hpayload, hdrop, load_of_whole hsize, ← hsize, List.take_left]
    · rw [hleft, ← List.drop_drop, hdrop, ← hsize, List.drop_left]

/-- The connection to the daemon under every sequence of calls. -/
def system : TransitionSystem Socket Step where
  step s step := some (step.answer s).connection

/-- In every sequence of calls on one connection, those that succeed have taken their
responses exactly when no payload comes with the length of a header. -/
theorem framed_run_iff (s : Socket) (steps : List Step) :
    system.StepsMeet (fun s step => step.Frames s) s steps ↔
      system.StepsMeet (fun s step => ¬ step.CutsPayload s) s steps :=
  TransitionSystem.stepsMeet_congr (I := fun _ => True) (fun _ _ _ _ _ _ => trivial)
    (fun s step _ => framed_iff s step) trivial

/-! ## A payload in two pieces -/

/-- `mcGetMobiCoreVersion` of an open device. -/
def getVersion : Step where
  call := .mcGetMobiCoreVersion mcDeviceIdDefault true
  client := Client.opened 1 []
  wire :=
    { sent := true
      stack := fun _ => 0xAA
      connected := false
      nqSent := false
      nq := ⟨[], []⟩ }

/-- A response with a version in which every byte is 1, and the kernel returns the payload in
two pieces. -/
def splitVersion : Socket where
  unread := List.replicate 4 0 ++ List.replicate 96 1
  receives := [some 0, some 92]

/-- The call takes four bytes for the version, and what is left of it for the next header. -/
theorem not_framed_run : ¬ ∀ s steps, system.StepsMeet (fun s step => step.Frames s) s steps := by
  intro hframed
  have hframes : getVersion.Frames splitVersion := (hframed splitVersion [getVersion]).1
  exact absurd (hframes rfl).connection (by decide)

end ResponseFraming

end Exynos8890.MobiCore.ClientLib
