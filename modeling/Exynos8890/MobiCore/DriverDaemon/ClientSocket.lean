import Exynos8890.Library.StreamReader
import Exynos8890.Library.TransitionSystem
import Exynos8890.MobiCore.McpMessage

/-!
# The commands on a client socket

`handleConnection` receives a command header and dispatches; every handler then receives
its own fixed and variable parts.  The kernel decides how many bytes each receive
returns.

Main results:

- Definitions `plan` and `handleConnection`: what the daemon receives for a command, and
  one round of a connection.
- Definition `frames`: the commands of a byte stream, from their encodings alone.
- Theorem `framed_run`: when no receive inside a command is partial, no guard fails
  before the command's last byte and the stream does not end inside a header, the
  commands handled are the commands of the stream.
- Theorem `not_framed`: a header that comes in two pieces is dispatched twice.
-/

namespace Exynos8890.MobiCore

open CStruct StreamReader

/-! ## Commands -/

/-- The commands of `mcDrvCmd_t` that `handleConnection` dispatches. -/
inductive McDrvCmd where
  | openDevice
  | closeDevice
  | nqConnect
  | openSession
  | closeSession
  | notify
  | mapBulkBuf
  | unmapBulkBuf
  | getVersion
  | getMobiCoreVersion
  | openTrustlet
  | openTrustedApp
  | regStoreAuthToken
  | regReadAuthToken
  | regDeleteAuthToken
  | regReadRootCont
  | regWriteRootCont
  | regDeleteRootCont
  | regReadSpCont
  | regWriteSpCont
  | regDeleteSpCont
  | regReadTlCont
  | regWriteTlCont
  | regDeleteTlCont
  | regWriteSoData
  | regStoreTaBlob
deriving DecidableEq, Repr

namespace McDrvCmd

/-- The value in the header. -/
def commandId : McDrvCmd → Nat
  | openDevice => 2
  | closeDevice => 3
  | nqConnect => 4
  | openSession => 5
  | closeSession => 6
  | notify => 7
  | mapBulkBuf => 8
  | unmapBulkBuf => 9
  | getVersion => 10
  | getMobiCoreVersion => 11
  | openTrustlet => 12
  | openTrustedApp => 13
  | regStoreAuthToken => 0x100000
  | regReadAuthToken => 0x100001
  | regDeleteAuthToken => 0x100002
  | regReadRootCont => 0x100003
  | regWriteRootCont => 0x100004
  | regDeleteRootCont => 0x100005
  | regReadSpCont => 0x100006
  | regWriteSpCont => 0x100007
  | regDeleteSpCont => 0x100008
  | regReadTlCont => 0x100009
  | regWriteTlCont => 0x10000A
  | regDeleteTlCont => 0x10000B
  | regWriteSoData => 0x10000C
  | regStoreTaBlob => 0x10000D

def all : List McDrvCmd :=
  [openDevice, closeDevice, nqConnect, openSession, closeSession, notify, mapBulkBuf,
    unmapBulkBuf, getVersion, getMobiCoreVersion, openTrustlet, openTrustedApp,
    regStoreAuthToken, regReadAuthToken, regDeleteAuthToken, regReadRootCont,
    regWriteRootCont, regDeleteRootCont, regReadSpCont, regWriteSpCont, regDeleteSpCont,
    regReadTlCont, regWriteTlCont, regDeleteTlCont, regWriteSoData, regStoreTaBlob]

/-- The command of a header. -/
def ofId (id : Nat) : Option McDrvCmd :=
  all.find? fun cmd => cmd.commandId == id

theorem ofId_commandId (cmd : McDrvCmd) : ofId cmd.commandId = some cmd := by
  cases cmd <;> rfl

theorem commandId_lt (cmd : McDrvCmd) : cmd.commandId < 256 ^ 4 := by
  cases cmd <;> decide

end McDrvCmd

namespace ClientSocket

/-- `sizeof(mcDrvCommandHeader_t)`. -/
def headerSize : Nat := 4

/-- The fixed part of a command: its structure in `MobiCoreDriverCmd.h`, or the fields
that a registry command has before its data. -/
def commandStruct (p : PointerWidth) : McDrvCmd → List CType
  | .openDevice => [u32, u32]
  | .closeDevice | .getVersion | .getMobiCoreVersion => [u32]
  | .nqConnect => [u32, u32, u32, u32, u32]
  | .openSession | .openTrustedApp => [u32, u32, mcUuid, p.word, u32, u32]
  | .openTrustlet => [u32, u32, u32, u32, p.word, u32, u32]
  | .closeSession | .notify => [u32, u32]
  | .mapBulkBuf => [u32, u32, u32, u32, p.word, u32]
  | .unmapBulkBuf => [u32, u32, u32, p.word, u32]
  | .regReadAuthToken | .regDeleteAuthToken | .regReadRootCont | .regDeleteRootCont => [u32]
  | .regReadSpCont | .regDeleteSpCont => [u32, u32]
  | .regReadTlCont | .regDeleteTlCont => [u32, mcUuid, u32]
  | .regStoreAuthToken | .regWriteRootCont | .regWriteSoData => [u32, u32]
  | .regWriteSpCont | .regStoreTaBlob => [u32, u32, u32]
  | .regWriteTlCont => [u32, u32, mcUuid, u32]

/-- Where a command announces how much data follows the fixed part: `trustlet_len` or
`soSize`. -/
def dataLength (p : PointerWidth) : McDrvCmd → Option Size
  | .openTrustlet => some (.announced (member (commandStruct p .openTrustlet) 3).off)
  | .regStoreAuthToken | .regWriteRootCont | .regWriteSoData | .regWriteSpCont
  | .regStoreTaBlob | .regWriteTlCont => some (.announced headerSize)
  | _ => none

/-- The length of the encoding of a command that begins with these bytes. -/
def commandLength (p : PointerWidth) (cmd : McDrvCmd) (bytes : List UInt8) : Nat :=
  CStruct.sizeOf (commandStruct p cmd) +
    match dataLength p cmd with
    | none => 0
    | some size => size.eval bytes

/-! ## Handlers -/

/-- What decides the guards of the handlers: whether the connection has a device, whether
`checkPermission` lets the peer in, and whether the allocations succeed. -/
structure HandlerHost where
  device : Bool
  permitted : Bool
  allocated : Bool
  blobAllocated : Bool
deriving DecidableEq, Repr

/-- `RECV_PAYLOAD_FROM_CLIENT`.  The handlers compare the count with the length, as
signed and unsigned numbers of 32 bits; no receive is that long. -/
def recvPayload (p : PointerWidth) (cmd : McDrvCmd) : Part :=
  .receive (.bytes (CStruct.sizeOf (commandStruct p cmd) - headerSize))

/-- `getData`. -/
def getData (size : Size) : Part :=
  .receive size

/-- `RECV_PAYLOAD_FROM_CLIENT` and `CHECK_DEVICE`. -/
def deviceCommand (p : PointerWidth) (host : HandlerHost) (cmd : McDrvCmd) : Plan where
  parts := [recvPayload p cmd, .check host.device]
  rest := none

/-- `processOpenDevice`: no device may be set. -/
def processOpenDevice (p : PointerWidth) (host : HandlerHost) : Plan where
  parts := [recvPayload p .openDevice, .check (!host.device)]
  rest := none

/-- `processCloseDevice`. -/
def processCloseDevice (host : HandlerHost) : Plan where
  parts := [.check host.device]
  rest := none

/-- `processOpenSession`. -/
def processOpenSession (p : PointerWidth) (host : HandlerHost) (isGpUuid : Bool) : Plan :=
  deviceCommand p host (if isGpUuid then .openTrustedApp else .openSession)

/-- `processCloseSession`. -/
def processCloseSession (p : PointerWidth) (host : HandlerHost) : Plan :=
  deviceCommand p host .closeSession

/-- `processNotify` checks as the others do, and answers nothing. -/
def processNotify (p : PointerWidth) (host : HandlerHost) : Plan :=
  deviceCommand p host .notify

/-- `processMapBulkBuf`. -/
def processMapBulkBuf (p : PointerWidth) (host : HandlerHost) : Plan :=
  deviceCommand p host .mapBulkBuf

/-- `processUnmapBulkBuf`. -/
def processUnmapBulkBuf (p : PointerWidth) (host : HandlerHost) : Plan :=
  deviceCommand p host .unmapBulkBuf

/-- `processNqConnect`: no device may be set. -/
def processNqConnect (p : PointerWidth) (host : HandlerHost) : Plan where
  parts := [recvPayload p .nqConnect, .check (!host.device)]
  rest := none

/-- `processOpenTrustlet` receives the trustlet in a loop. -/
def processOpenTrustlet (p : PointerWidth) (host : HandlerHost) : Plan where
  parts := [recvPayload p .openTrustlet, .check host.device, .check host.allocated]
  rest := some (.announced (member (commandStruct p .openTrustlet) 3).off)

/-- `processGetVersion`. -/
def processGetVersion : Plan where
  parts := []
  rest := none

/-- `processGetMobiCoreVersion`. -/
def processGetMobiCoreVersion (host : HandlerHost) : Plan where
  parts := [.check host.device]
  rest := none

/-- `processRegistryReadData` and `processRegistryDeleteData`, with the fields of the
command. -/
def processRegistryQuery (host : HandlerHost) (fields : List CType) : Plan where
  parts := .check host.permitted :: fields.map fun t => getData (.bytes t.size)
  rest := none

/-- `processRegistryWriteData`, with the fields before the data. -/
def processRegistryWriteData (host : HandlerHost) (fields : List CType) : Plan where
  parts := [.check host.permitted, getData (.bytes 4), .check host.allocated] ++
    (fields.map fun t => getData (.bytes t.size)) ++ [getData (.announced headerSize)]
  rest := none

/-- `processRegistryWriteData` for `MC_DRV_REG_STORE_TA_BLOB`: a second buffer is
allocated between the provider id and the blob. -/
def storeTaBlob (host : HandlerHost) : Plan where
  parts := [.check host.permitted, getData (.bytes 4), .check host.allocated,
    getData (.bytes 4), .check host.blobAllocated, getData (.announced headerSize)]
  rest := none

/-- What the handler of a command receives after the header, and its guards. -/
def plan (p : PointerWidth) (host : HandlerHost) : McDrvCmd → Plan
  | .openDevice => processOpenDevice p host
  | .closeDevice => processCloseDevice host
  | .nqConnect => processNqConnect p host
  | .openTrustlet => processOpenTrustlet p host
  | .getVersion => processGetVersion
  | .getMobiCoreVersion => processGetMobiCoreVersion host
  | .openSession => processOpenSession p host false
  | .openTrustedApp => processOpenSession p host true
  | .closeSession => processCloseSession p host
  | .notify => processNotify p host
  | .mapBulkBuf => processMapBulkBuf p host
  | .unmapBulkBuf => processUnmapBulkBuf p host
  | .regReadAuthToken | .regDeleteAuthToken | .regReadRootCont | .regDeleteRootCont =>
      processRegistryQuery host []
  | .regReadSpCont | .regDeleteSpCont => processRegistryQuery host [u32]
  | .regReadTlCont | .regDeleteTlCont => processRegistryQuery host [mcUuid, u32]
  | .regStoreAuthToken | .regWriteRootCont | .regWriteSoData => processRegistryWriteData host []
  | .regWriteSpCont => processRegistryWriteData host [u32]
  | .regWriteTlCont => processRegistryWriteData host [mcUuid, u32]
  | .regStoreTaBlob => storeTaBlob host

/-- The parts of a handler add up to the encoding of its command. -/
theorem plan_extent (p : PointerWidth) (host : HandlerHost) (cmd : McDrvCmd)
    (bytes : List UInt8) :
    (plan p host cmd).extent headerSize bytes = commandLength p cmd bytes := by
  cases cmd <;> cases p <;> rfl

theorem plan_known (p : PointerWidth) (host : HandlerHost) (cmd : McDrvCmd) :
    (plan p host cmd).Known headerSize := by
  cases cmd <;> cases p <;>
  simp +decide [plan, Plan.Known, PartsKnown, processOpenDevice, processCloseDevice,
    processNqConnect, processOpenTrustlet, processOpenSession, processCloseSession,
    processNotify, processMapBulkBuf, processUnmapBulkBuf, processGetVersion,
    processGetMobiCoreVersion, deviceCommand, processRegistryQuery, processRegistryWriteData,
    storeTaBlob, recvPayload, getData, headerSize]

/-! ## The commands of a stream -/

/-- The command that a stream begins with, and its length, if all of it is there. -/
def firstCommand (p : PointerWidth) (bytes : List UInt8) : Option (McDrvCmd × Nat) :=
  if headerSize ≤ bytes.length then
    match McDrvCmd.ofId (ofLittleEndian (bytes.take headerSize)) with
    | none => none
    | some cmd =>
        if commandLength p cmd bytes ≤ bytes.length then
          some (cmd, commandLength p cmd bytes)
        else none
  else none

theorem headerSize_le_commandLength (p : PointerWidth) (cmd : McDrvCmd) (bytes : List UInt8) :
    headerSize ≤ commandLength p cmd bytes := by
  have hstruct : headerSize ≤ CStruct.sizeOf (commandStruct p cmd) := by
    cases cmd <;> cases p <;> decide
  exact Nat.le_trans hstruct (Nat.le_add_right _ _)

theorem firstCommand_eq_some {p : PointerWidth} {bytes : List UInt8} {cmd : McDrvCmd} {n : Nat} :
    firstCommand p bytes = some (cmd, n) ↔
      McDrvCmd.ofId (ofLittleEndian (bytes.take headerSize)) = some cmd ∧
        n = commandLength p cmd bytes ∧ n ≤ bytes.length := by
  unfold firstCommand
  constructor
  · intro h
    split at h
    · split at h
      · cases h
      · rename_i cmd' hcmd
        split at h
        · rename_i hle
          cases h
          exact ⟨hcmd, rfl, hle⟩
        · cases h
    · cases h
  · rintro ⟨hcmd, rfl, hle⟩
    have hheader := headerSize_le_commandLength p cmd bytes
    rw [if_pos (by omega)]
    simp only [hcmd, hle, if_true]

/-- The commands of a stream, up to the first one that is unknown or cut short. -/
def frames (p : PointerWidth) (bytes : List UInt8) : List (McDrvCmd × List UInt8) :=
  match _h : firstCommand p bytes with
  | none => []
  | some (cmd, n) => (cmd, bytes.take n) :: frames p (bytes.drop n)
termination_by bytes.length
decreasing_by
  obtain ⟨-, hn, hle⟩ := firstCommand_eq_some.mp _h
  have := headerSize_le_commandLength p cmd bytes
  rw [List.length_drop]
  unfold headerSize at this
  omega

theorem frames_of_none {p : PointerWidth} {bytes : List UInt8}
    (h : firstCommand p bytes = none) : frames p bytes = [] := by
  rw [frames]
  split
  · rfl
  · rename_i hsome
    rw [h] at hsome
    cases hsome

theorem frames_of_some {p : PointerWidth} {bytes : List UInt8} {cmd : McDrvCmd} {n : Nat}
    (h : firstCommand p bytes = some (cmd, n)) :
    frames p bytes = (cmd, bytes.take n) :: frames p (bytes.drop n) := by
  rw [frames]
  split
  · rename_i hnone
    rw [h] at hnone
    cases hnone
  · rename_i hsome
    rw [h] at hsome
    cases hsome
    rfl

/-- A stream that ends before its first command does has no command. -/
theorem firstCommand_of_lt {p : PointerWidth} {bytes : List UInt8} {cmd : McDrvCmd}
    (hcmd : McDrvCmd.ofId (ofLittleEndian (bytes.take headerSize)) = some cmd)
    (hlt : bytes.length < commandLength p cmd bytes) : firstCommand p bytes = none := by
  cases h : firstCommand p bytes with
  | none => rfl
  | some found =>
      obtain ⟨cmd', n⟩ := found
      obtain ⟨hcmd', rfl, hle⟩ := firstCommand_eq_some.mp h
      rw [hcmd, Option.some_inj] at hcmd'
      subst hcmd'
      omega

/-- The length of a command depends on its fixed part only. -/
theorem commandLength_take {p : PointerWidth} {cmd : McDrvCmd} {bytes : List UInt8}
    {n : Nat} (hn : n = commandLength p cmd bytes) (hle : n ≤ bytes.length) :
    commandLength p cmd (bytes.take n) = n := by
  have hsize : ∀ size ∈ dataLength p cmd,
      size.Known (CStruct.sizeOf (commandStruct p cmd)) := by
    cases cmd <;> cases p <;> simp +decide
  rw [hn] at hle ⊢
  unfold commandLength at hle ⊢
  cases hdata : dataLength p cmd with
  | none => rfl
  | some size =>
      simp only [hdata] at hle ⊢
      congr 1
      have hknown := (hsize size hdata).mono
        (Nat.le_add_right _ (size.eval bytes))
      have := @Size.eval_append size (bytes.take (CStruct.sizeOf (commandStruct p cmd) +
        size.eval bytes)) (by rwa [List.length_take, Nat.min_eq_left hle])
        (bytes.drop (CStruct.sizeOf (commandStruct p cmd) + size.eval bytes))
      rw [List.take_append_drop] at this
      exact this.symm

theorem frames_take {p : PointerWidth} {bytes : List UInt8} {cmd : McDrvCmd} {n : Nat}
    (h : firstCommand p bytes = some (cmd, n)) :
    frames p (bytes.take n) = [(cmd, bytes.take n)] := by
  obtain ⟨hcmd, hn, hle⟩ := firstCommand_eq_some.mp h
  have hheader := headerSize_le_commandLength p cmd bytes
  have hlength : (bytes.take n).length = n := by
    rw [List.length_take]
    omega
  have hfirst : firstCommand p (bytes.take n) = some (cmd, n) := by
    rw [firstCommand_eq_some]
    refine ⟨?_, (commandLength_take hn hle).symm, hlength.ge⟩
    rw [List.take_take, Nat.min_eq_left (by omega)]
    exact hcmd
  rw [frames_of_some hfirst, List.take_take, Nat.min_self, List.drop_of_length_le hlength.le]
  rw [frames_of_none rfl]

/-! ## Rounds of a connection -/

/-- What became of a connection: the server listens to it, it has ended, it was given up
before a command, or the daemon never leaves a handler. -/
inductive Status where
  | listening
  | closed
  | dropped
  | stuck
deriving DecidableEq, Repr

/-- A command that was dispatched: the bytes of its header that were received, all bytes
received for it, and how its handler ended. -/
structure Handled where
  cmd : McDrvCmd
  header : Nat
  consumed : List UInt8
  outcome : Outcome
deriving DecidableEq, Repr

/-- A connection: the bytes of the client that are not yet received, and what was
dispatched. -/
structure ClientConnection where
  unread : List UInt8
  handled : List Handled
  status : Status
deriving DecidableEq, Repr

/-- What the environment decides in a round: whether the secure world has faulted, what
the receives do, what is on the stack where the header goes, and the guards. -/
structure Round where
  mcFault : Bool
  receives : List (Option Nat)
  stale : Fin headerSize → UInt8
  host : HandlerHost

/-- The header as the switch sees it: what was received, over what was there before. -/
def commandHeader (stale : Fin headerSize → UInt8) (received : List UInt8) : List UInt8 :=
  List.ofFn fun i : Fin headerSize => received[i.val]?.getD (stale i)

/-- `handleConnection`, and what the server makes of its result. -/
def handleConnection (p : PointerWidth) (c : ClientConnection) (l : Round) : ClientConnection :=
  if l.mcFault then
    { c with status := .dropped }
  else
    match (Socket.mk c.unread l.receives).receive headerSize with
    | (none, _) => { c with status := .dropped }
    | (some [], _) => { c with status := .closed }
    | (some (b :: received), s) =>
        let header := commandHeader l.stale (b :: received)
        match McDrvCmd.ofId (ofLittleEndian header) with
        | none => { c with unread := s.unread, status := .closed }
        | some cmd =>
            let r := (plan p l.host cmd).run header s
            let consumed := c.unread.take (c.unread.length - r.socket.unread.length)
            { unread := r.socket.unread
              handled := c.handled ++ [⟨cmd, received.length + 1, consumed, r.outcome⟩]
              status := if r.outcome = .stuck then .stuck else .listening }

/-- The server calls `handleConnection` for a connection it listens to. -/
def step (p : PointerWidth) (c : ClientConnection) (l : Round) : Option ClientConnection :=
  if c.status = .listening then some (handleConnection p c l) else none

def system (p : PointerWidth) : TransitionSystem ClientConnection Round where
  step := step p

/-- A client that sends this stream and closes. -/
def accept (stream : List UInt8) : ClientConnection where
  unread := stream
  handled := []
  status := .listening

/-- The commands that are still to come: none once the connection has ended. -/
def ClientConnection.remaining (p : PointerWidth) (c : ClientConnection) :
    List (McDrvCmd × List UInt8) :=
  if c.status = .closed then [] else frames p c.unread

/-- The commands dispatched are those of the stream: each after a complete header, with
exactly its bytes; what is cut short is not acted upon. -/
structure Framed (p : PointerWidth) (stream : List UInt8) (c : ClientConnection) : Prop where
  header : ∀ h ∈ c.handled, h.header = headerSize
  parse : c.handled.flatMap (fun h => frames p h.consumed) ++ c.remaining p = frames p stream
  exact : ∀ h ∈ c.handled,
    frames p h.consumed = [(h.cmd, h.consumed)] ∧
        (h.outcome = .received ∨ h.outcome = .refused) ∨
      frames p h.consumed = [] ∧ h.outcome ≠ .received

/-- The stream does not end inside the header, the receives of the round before a looped
rest return all they can, and no guard fails before the last byte of the command. -/
def WellBehaved (p : PointerWidth) (c : ClientConnection) (l : Round) : Prop :=
  (c.unread = [] ∨ headerSize ≤ c.unread.length) ∧ Whole l.receives 1 ∧
    ∀ cmd ∈ McDrvCmd.ofId (ofLittleEndian (c.unread.take headerSize)),
      Whole l.receives (receiveCount (plan p l.host cmd).parts + 1) ∧
        (plan p l.host cmd).Proper headerSize c.unread

instance (p : PointerWidth) (c : ClientConnection) (l : Round) : Decidable (WellBehaved p c l) :=
  have : Decidable (∀ cmd ∈ McDrvCmd.ofId (ofLittleEndian (c.unread.take headerSize)),
      Whole l.receives (receiveCount (plan p l.host cmd).parts + 1) ∧
        (plan p l.host cmd).Proper headerSize c.unread) :=
    Option.decidableForallMem _
  inferInstanceAs (Decidable (_ ∧ _ ∧ _))

theorem commandHeader_of_length {stale : Fin headerSize → UInt8} {received : List UInt8}
    (h : received.length = headerSize) : commandHeader stale received = received := by
  apply List.ext_getElem
  · rw [commandHeader, List.length_ofFn, h]
  · intro i hi hi'
    simp [commandHeader, hi']

theorem receive_header {unread : List UInt8} {receives : List (Option Nat)}
    (hheader : headerSize ≤ unread.length) (hwhole : receives.headD (some 0) = some 0) :
    ∃ b received, unread.take headerSize = b :: received ∧ received.length + 1 = headerSize ∧
      (Socket.mk unread receives).receive headerSize =
        (some (b :: received), ⟨unread.drop headerSize, receives.tail⟩) := by
  have hreceive := Socket.receive_whole (s := ⟨unread, receives⟩) hwhole headerSize
  have hoffered : Socket.offered ⟨unread, receives⟩ headerSize = headerSize :=
    Nat.min_eq_left hheader
  rw [hoffered] at hreceive
  have htake : (unread.take headerSize).length = headerSize := by
    rw [List.length_take, Nat.min_eq_left hheader]
  cases hbytes : unread.take headerSize with
  | nil =>
      rw [hbytes] at htake
      cases htake
  | cons b received =>
      refine ⟨b, received, rfl, ?_, ?_⟩
      · rw [← htake, hbytes, List.length_cons]
      · rw [hreceive, hbytes]

/-- A complete header is dispatched to the handler of its command. -/
theorem handleConnection_dispatch {p : PointerWidth} {c : ClientConnection} {l : Round}
    {cmd : McDrvCmd} (hfault : l.mcFault = false) (hheader : headerSize ≤ c.unread.length)
    (hwhole : l.receives.headD (some 0) = some 0)
    (hcmd : McDrvCmd.ofId (ofLittleEndian (c.unread.take headerSize)) = some cmd) :
    handleConnection p c l =
      let r := (plan p l.host cmd).run (c.unread.take headerSize)
        ⟨c.unread.drop headerSize, l.receives.tail⟩
      { unread := r.socket.unread
        handled := c.handled ++ [⟨cmd, headerSize,
          c.unread.take (c.unread.length - r.socket.unread.length), r.outcome⟩]
        status := if r.outcome = .stuck then .stuck else .listening } := by
  obtain ⟨b, received, hbytes, hlen, hreceive⟩ := receive_header hheader hwhole
  have hfull : commandHeader l.stale (b :: received) = b :: received :=
    commandHeader_of_length hlen
  rw [hbytes] at hcmd
  simp only [handleConnection, hfault, hreceive, hbytes, hfull, hlen, hcmd]
  rfl

/-- A complete header of no known command ends the connection. -/
theorem handleConnection_unknown {p : PointerWidth} {c : ClientConnection} {l : Round}
    (hfault : l.mcFault = false) (hheader : headerSize ≤ c.unread.length)
    (hwhole : l.receives.headD (some 0) = some 0)
    (hcmd : McDrvCmd.ofId (ofLittleEndian (c.unread.take headerSize)) = none) :
    handleConnection p c l = { c with unread := c.unread.drop headerSize, status := .closed } := by
  obtain ⟨b, received, hbytes, hlen, hreceive⟩ := receive_header hheader hwhole
  have hfull : commandHeader l.stale (b :: received) = b :: received :=
    commandHeader_of_length hlen
  rw [hbytes] at hcmd
  simp only [handleConnection, hfault, hreceive, hfull, hcmd]
  rfl

/-- What a handler received after a complete header is the command at the head of the
stream, however it came. -/
theorem handled_received {p : PointerWidth} {c : ClientConnection} {l : Round} {h : Handled}
    (hhandled : (handleConnection p c l).handled = c.handled ++ [h])
    (hheader : h.header = headerSize) (hreceived : h.outcome = .received) :
    (plan p l.host h.cmd).Proper headerSize c.unread ∧
      h.consumed.length = commandLength p h.cmd c.unread := by
  have hsame : c.handled ≠ c.handled ++ [h] := by simp
  unfold handleConnection at hhandled
  split at hhandled
  · exact absurd hhandled hsame
  · split at hhandled
    · exact absurd hhandled hsame
    · exact absurd hhandled hsame
    · rename_i b received s hreceive
      have hunread : b :: received ++ s.unread = c.unread :=
        (Socket.receive_eq_some hreceive).1
      dsimp only at hhandled
      split at hhandled
      · exact absurd hhandled hsame
      · rename_i cmd hcmd
        rw [List.append_cancel_left_eq, List.singleton_inj] at hhandled
        subst hhandled
        dsimp only at hheader hreceived ⊢
        have hlen : (b :: received).length = headerSize := hheader
        rw [commandHeader_of_length hlen] at hreceived ⊢
        have hrun := Plan.run_received hunread (by rw [hlen]; exact plan_known p l.host cmd)
          hreceived
        rw [hlen, plan_extent] at hrun
        obtain ⟨hproper, happend, hlength⟩ := hrun
        refine ⟨hproper, ?_⟩
        have htotal := congrArg List.length happend
        rw [List.length_append] at htotal
        rw [List.length_take]
        omega

/-- A round that dispatches nothing, or one command as the stream has it. -/
inductive RoundEnd (p : PointerWidth) (c t : ClientConnection) : Prop
  | idle (hhandled : t.handled = c.handled) (hremaining : t.remaining p = frames p c.unread)
  | dispatched (h : Handled) (hhandled : t.handled = c.handled ++ [h])
      (hheader : h.header = headerSize)
      (hparse : frames p h.consumed ++ t.remaining p = frames p c.unread)
      (hexact : frames p h.consumed = [(h.cmd, h.consumed)] ∧
          (h.outcome = .received ∨ h.outcome = .refused) ∨
        frames p h.consumed = [] ∧ h.outcome ≠ .received)

/-- A handler that took the command's bytes, or what there was of them. -/
theorem roundEnd_of_run {p : PointerWidth} {c : ClientConnection} {cmd : McDrvCmd} {r : Run}
    (hcmd : McDrvCmd.ofId (ofLittleEndian (c.unread.take headerSize)) = some cmd)
    (hunread : r.socket.unread = c.unread.drop (commandLength p cmd c.unread))
    (houtcome : if commandLength p cmd c.unread ≤ c.unread.length then
        r.outcome = .received ∨ r.outcome = .refused
      else r.outcome ≠ .received) :
    RoundEnd p c
      { unread := r.socket.unread
        handled := c.handled ++ [⟨cmd, headerSize,
          c.unread.take (c.unread.length - r.socket.unread.length), r.outcome⟩]
        status := if r.outcome = .stuck then .stuck else .listening } := by
  have hleft : ClientConnection.remaining p
      { unread := r.socket.unread
        handled := c.handled ++ [⟨cmd, headerSize,
          c.unread.take (c.unread.length - r.socket.unread.length), r.outcome⟩]
        status := if r.outcome = .stuck then .stuck else .listening } =
      frames p r.socket.unread := by
    unfold ClientConnection.remaining
    rw [if_neg]
    split <;> exact Status.noConfusion
  rw [hunread, List.length_drop] at hleft ⊢
  rcases Nat.lt_or_ge c.unread.length (commandLength p cmd c.unread) with hlt | hle
  · -- the client has closed within the command
    have hfirst := frames_of_none (firstCommand_of_lt hcmd hlt)
    rw [if_neg (Nat.not_le_of_lt hlt)] at houtcome
    rw [Nat.sub_eq_zero_of_le hlt.le, List.drop_of_length_le hlt.le, Nat.sub_zero,
      List.take_length] at hleft ⊢
    apply RoundEnd.dispatched _ rfl rfl
    · rw [hleft, hfirst, frames_of_none rfl]
      rfl
    · exact Or.inr ⟨hfirst, houtcome⟩
  · -- the whole command is there
    have hfirst := firstCommand_eq_some.mpr ⟨hcmd, rfl, hle⟩
    rw [if_pos hle] at houtcome
    rw [Nat.sub_sub_self hle] at hleft ⊢
    apply RoundEnd.dispatched _ rfl rfl
    · rw [hleft, frames_take hfirst, frames_of_some hfirst]
      rfl
    · exact Or.inl ⟨frames_take hfirst, houtcome⟩

theorem handleConnection_spec {p : PointerWidth} {c : ClientConnection} {l : Round}
    (hround : WellBehaved p c l) : RoundEnd p c (handleConnection p c l) := by
  obtain ⟨hstream, hwhole, hcommand⟩ := hround
  cases hfault : l.mcFault with
  | true =>
      apply RoundEnd.idle
      · simp [handleConnection, hfault]
      · simp [handleConnection, hfault, ClientConnection.remaining]
  | false =>
      rcases hstream with hempty | hheader
      · -- the client has closed
        have hreceive := Socket.receive_whole (s := ⟨c.unread, l.receives⟩) hwhole.head headerSize
        rw [hempty] at hreceive
        have ht : handleConnection p c l = { c with status := .closed } := by
          simp [handleConnection, hfault, hempty, hreceive]
        rw [ht]
        apply RoundEnd.idle
        · rfl
        · rw [hempty, frames_of_none rfl]
          exact if_pos rfl
      cases hcmd : McDrvCmd.ofId (ofLittleEndian (c.unread.take headerSize)) with
      | none =>
          have hfirst : firstCommand p c.unread = none := by
            simp [firstCommand, hheader, hcmd]
          rw [handleConnection_unknown hfault hheader hwhole.head hcmd]
          apply RoundEnd.idle
          · rfl
          · rw [frames_of_none hfirst]
            exact if_pos rfl
      | some cmd =>
          have htake : (c.unread.take headerSize).length = headerSize := by
            rw [List.length_take, Nat.min_eq_left hheader]
          obtain ⟨hparts, hproper⟩ := hcommand cmd hcmd
          have hspec := @Plan.run_spec (plan p l.host cmd) (c.unread.take headerSize)
            ⟨c.unread.drop headerSize, l.receives.tail⟩ c.unread
            (List.take_append_drop headerSize c.unread)
            (by rw [htake]; exact plan_known p l.host cmd)
            (by rw [htake]; exact hproper) hparts.tail
          rw [htake, plan_extent] at hspec
          rw [handleConnection_dispatch hfault hheader hwhole.head hcmd]
          exact roundEnd_of_run hcmd hspec.2.1 hspec.2.2

theorem step_framed (p : PointerWidth) (stream : List UInt8) (c : ClientConnection) (l : Round)
    (t : ClientConnection) (hc : Framed p stream c) (hround : WellBehaved p c l)
    (hstep : (system p).step c l = some t) : Framed p stream t := by
  have hlistening : c.status = .listening := by
    by_contra hne
    simp [system, step, hne] at hstep
  have ht : handleConnection p c l = t := by
    simpa [system, step, hlistening] using hstep
  have hremaining : c.remaining p = frames p c.unread := by
    simp [ClientConnection.remaining, hlistening]
  have hspec := handleConnection_spec hround
  rw [ht] at hspec
  have hparse := hc.parse
  rw [hremaining] at hparse
  cases hspec with
  | idle hhandled hleft =>
      constructor
      · rw [hhandled]
        exact hc.header
      · rw [hhandled, hleft]
        exact hparse
      · rw [hhandled]
        exact hc.exact
  | dispatched h hhandled hheader hleft hexact =>
      constructor
      · rw [hhandled]
        intro h' hh'
        rcases List.mem_append.mp hh' with hh' | hh'
        · exact hc.header h' hh'
        · rw [List.mem_singleton.mp hh']
          exact hheader
      · rw [hhandled, List.flatMap_append, List.append_assoc, List.flatMap_singleton, hleft]
        exact hparse
      · rw [hhandled]
        intro h' hh'
        rcases List.mem_append.mp hh' with hh' | hh'
        · exact hc.exact h' hh'
        · rw [List.mem_singleton.mp hh']
          exact hexact

/-- In every run whose rounds are well behaved, the commands dispatched are those of the
stream. -/
theorem framed_run (p : PointerWidth) (stream : List UInt8) (ls : List Round)
    (c : ClientConnection) (hC : (system p).StepsMeet (WellBehaved p) (accept stream) ls)
    (hrun : (system p).run (accept stream) ls = some c) : Framed p stream c := by
  have hinit : Framed p stream (accept stream) := by
    constructor
    · simp [accept]
    · simp [accept, ClientConnection.remaining]
    · simp [accept]
  exact TransitionSystem.run_invariant (step_framed p stream) hinit hC hrun

/-- A round in which every guard passes. -/
def roundWith (receives : List (Option Nat)) : Round where
  mcFault := false
  receives := receives
  stale := fun _ => 0
  host := { device := true, permitted := true, allocated := true, blobAllocated := true }

/-- A trustlet of three bytes, and a query of the version. -/
def trustletStream : List UInt8 :=
  littleEndian 4 12 ++ littleEndian 8 0 ++ littleEndian 4 3 ++ List.replicate 16 0 ++
    [1, 2, 3] ++ littleEndian 4 10

/-- The trustlet comes byte by byte. -/
theorem framed_run_trustlet :
    ∃ c, (system .bits64).run (accept trustletStream)
        [roundWith [some 0, some 0, some 2, some 1], roundWith [], roundWith []] = some c ∧
      c.handled.length = 2 ∧ Framed .bits64 trustletStream c :=
  ⟨_, rfl, by decide, framed_run .bits64 trustletStream
    [roundWith [some 0, some 0, some 2, some 1], roundWith [], roundWith []] _
    (by decide) rfl⟩

/-- A query of the version whose header comes in two pieces. -/
def splitHeader : List Round :=
  [roundWith [some 2], roundWith []]

/-- Both pieces of the header are dispatched. -/
theorem not_framed :
    ¬ ∀ (p : PointerWidth) (stream : List UInt8) (ls : List Round) (c : ClientConnection),
      (system p).run (accept stream) ls = some c → Framed p stream c := by
  intro h
  obtain ⟨c, hrun, e, he, hheader⟩ : ∃ c,
      (system .bits64).run (accept (littleEndian 4 10)) splitHeader = some c ∧
        ∃ e ∈ c.handled, e.header = 2 :=
    ⟨_, rfl, _, List.mem_cons_self, rfl⟩
  have hfour := (h .bits64 (littleEndian 4 10) splitHeader c hrun).header e he
  rw [hheader] at hfour
  exact absurd hfour (by decide)

end ClientSocket

end Exynos8890.MobiCore
