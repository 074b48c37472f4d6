import Exynos8890.Library.CStruct
import Exynos8890.MobiCore.DriverDaemon.Device

/-!
# The messages in the MCP buffer

`mcpMessage_t` is a union: every command of `MobiCoreDevice` assigns the members of its
own structure over whatever the last command, or its response, left there.  The secure
world reads the command id and then the members of that command's structure.

Main results:

- Definitions `send` and `decode`: what the daemon writes for a request, and what the
  secure world reads.
- Theorem `decode_send_iff`: the message read is the one requested exactly when no
  value of the request is wider than the member it is assigned to.
- Theorem `not_decode_send`: a token above 4 GiB is loaded from another address.
-/

namespace Exynos8890.MobiCore

open CStruct

/-! ## Structures -/

/-- `UUID_LENGTH`. -/
def uuidLength : Nat := 16

/-- `mcUuid_t`. -/
def mcUuid : CType :=
  byteArray uuidLength

/-- `segmentDescriptor_t`. -/
def segmentDescriptor (p : PointerWidth) : CType :=
  .struct [p.word, u32]

/-- `mclfHeaderV2_t`: intro, flags, memory type, service type, number of instances, uuid,
driver id, number of threads, text, data, length of BSS, entry, service version. -/
def mclfHeaderV2 (p : PointerWidth) : List CType :=
  [.struct [u32, u32], u32, u32, u32, u32, mcUuid, u32, u32, segmentDescriptor p,
    segmentDescriptor p, u32, p.word, u32]

/-- `mclfHeader_t`. -/
def mclfHeader (p : PointerWidth) : CType :=
  .struct (mclfHeaderV2 p)

/-- The bytes of a `mclfHeader_t`. -/
structure MclfHeaderBytes (p : PointerWidth) where
  bytes : List UInt8
  length_eq : bytes.length = (mclfHeader p).size

/-- `mclfHeaderV2.uuid`. -/
def MclfHeaderBytes.uuid {p : PointerWidth} (header : MclfHeaderBytes p) : List UInt8 :=
  let r := member (mclfHeaderV2 p) 5
  (header.bytes.drop r.off).take r.size

theorem MclfHeaderBytes.length_uuid {p : PointerWidth} (header : MclfHeaderBytes p) :
    header.uuid.length = uuidLength := by
  cases p <;>
  · simp only [uuid, List.length_take, List.length_drop, header.length_eq]
    decide

/-- `commandHeader_t`: the first member of every command. -/
def cmdIdAt : Region :=
  member [u32] 0

/-- `mcpCmdOpen_t`. -/
structure McpCmdOpen where
  uuid : List UInt8
  adrTciBuffer : Nat
  adrLoadData : Nat
  ofsTciBuffer : Nat
  lenTciBuffer : Nat
  wsmTypeTci : Nat
  wsmTypeLoadData : Nat
  ofsLoadData : Nat
  lenLoadData : Nat
  tlHeader : List UInt8
deriving DecidableEq

/-- Where the members of `mcpCmdOpen_t` lie: 0 `cmdHeader`, 1 `uuid`, 2 `adrTciBuffer`,
3 `adrLoadData`, 4 `ofsTciBuffer`, 5 `lenTciBuffer`, 6 `wsmTypeTci`, 7 `wsmTypeLoadData`,
8 `ofsLoadData`, 9 `lenLoadData`, 10 `tlHeader`. -/
def McpCmdOpen.at (p : PointerWidth) (i : Nat) : Region :=
  member [u32, mcUuid, u64, u64, u32, u32, u32, u32, u32, u32, mclfHeader p] i

/-- `mcpCmdCheckLoad_t`. -/
structure McpCmdCheckLoad where
  uuid : List UInt8
  adrLoadData : Nat
  wsmTypeLoadData : Nat
  ofsLoadData : Nat
  lenLoadData : Nat
  tlHeader : List UInt8
deriving DecidableEq

/-- Where the members of `mcpCmdCheckLoad_t` lie: 0 `cmdHeader`, 1 `uuid`,
2 `adrLoadData`, 3 `wsmTypeLoadData`, 4 `ofsLoadData`, 5 `lenLoadData`, 6 `tlHeader`. -/
def McpCmdCheckLoad.at (p : PointerWidth) (i : Nat) : Region :=
  member [u32, mcUuid, u64, u32, u32, u32, mclfHeader p] i

/-- `mcpCmdClose_t`. -/
structure McpCmdClose where
  sessionId : Nat
deriving DecidableEq

/-- Where the members of `mcpCmdClose_t` lie: 0 `cmdHeader`, 1 `sessionId`. -/
def McpCmdClose.at (i : Nat) : Region :=
  member [u32, u32] i

/-- `mcpCmdMap_t`. -/
structure McpCmdMap where
  sessionId : Nat
  wsmType : Nat
  ofsBuffer : Nat
  adrBuffer : Nat
  lenBuffer : Nat
deriving DecidableEq

/-- Where the members of `mcpCmdMap_t` lie: 0 `cmdHeader`, 1 `sessionId`, 2 `wsmType`,
3 `ofsBuffer`, 4 `adrBuffer`, 5 `lenBuffer`. -/
def McpCmdMap.at (i : Nat) : Region :=
  member [u32, u32, u32, u32, u64, u32] i

/-- `mcpCmdUnmap_t`. -/
structure McpCmdUnmap where
  sessionId : Nat
  wsmType : Nat
  secureVirtualAdr : Nat
  lenVirtualBuffer : Nat
deriving DecidableEq

/-- Where the members of `mcpCmdUnmap_t` lie: 0 `cmdHeader`, 1 `sessionId`, 2 `wsmType`,
3 `secureVirtualAdr`, 4 `lenVirtualBuffer`. -/
def McpCmdUnmap.at (i : Nat) : Region :=
  member [u32, u32, u32, u32, u32] i

/-- `mcpCmdLoadToken_t`. -/
structure McpCmdLoadToken where
  wsmTypeLoadData : Nat
  adrLoadData : Nat
  ofsLoadData : Nat
  lenLoadData : Nat
deriving DecidableEq

/-- Where the members of `mcpCmdLoadToken_t` lie: 0 `cmdHeader`, 1 `wsmTypeLoadData`,
2 `adrLoadData`, 3 `ofsLoadData`, 4 `lenLoadData`. -/
def McpCmdLoadToken.at (i : Nat) : Region :=
  member [u32, u32, u64, u64, u64] i

/-! ## What the secure world reads -/

/-- The commands of `mcpMessage_t` that carry a request of the daemon. -/
inductive McpMessage where
  | openSession (m : McpCmdOpen)
  | checkLoad (m : McpCmdCheckLoad)
  | closeSession (m : McpCmdClose)
  | map (m : McpCmdMap)
  | unmap (m : McpCmdUnmap)
  | loadToken (m : McpCmdLoadToken)
deriving DecidableEq

def McpCmdOpen.read (p : PointerWidth) (m : Memory) : McpCmdOpen where
  uuid := load (McpCmdOpen.at p 1) m
  adrTciBuffer := value (McpCmdOpen.at p 2) m
  adrLoadData := value (McpCmdOpen.at p 3) m
  ofsTciBuffer := value (McpCmdOpen.at p 4) m
  lenTciBuffer := value (McpCmdOpen.at p 5) m
  wsmTypeTci := value (McpCmdOpen.at p 6) m
  wsmTypeLoadData := value (McpCmdOpen.at p 7) m
  ofsLoadData := value (McpCmdOpen.at p 8) m
  lenLoadData := value (McpCmdOpen.at p 9) m
  tlHeader := load (McpCmdOpen.at p 10) m

def McpCmdCheckLoad.read (p : PointerWidth) (m : Memory) : McpCmdCheckLoad where
  uuid := load (McpCmdCheckLoad.at p 1) m
  adrLoadData := value (McpCmdCheckLoad.at p 2) m
  wsmTypeLoadData := value (McpCmdCheckLoad.at p 3) m
  ofsLoadData := value (McpCmdCheckLoad.at p 4) m
  lenLoadData := value (McpCmdCheckLoad.at p 5) m
  tlHeader := load (McpCmdCheckLoad.at p 6) m

def McpCmdClose.read (m : Memory) : McpCmdClose where
  sessionId := value (McpCmdClose.at 1) m

def McpCmdMap.read (m : Memory) : McpCmdMap where
  sessionId := value (McpCmdMap.at 1) m
  wsmType := value (McpCmdMap.at 2) m
  ofsBuffer := value (McpCmdMap.at 3) m
  adrBuffer := value (McpCmdMap.at 4) m
  lenBuffer := value (McpCmdMap.at 5) m

def McpCmdUnmap.read (m : Memory) : McpCmdUnmap where
  sessionId := value (McpCmdUnmap.at 1) m
  wsmType := value (McpCmdUnmap.at 2) m
  secureVirtualAdr := value (McpCmdUnmap.at 3) m
  lenVirtualBuffer := value (McpCmdUnmap.at 4) m

def McpCmdLoadToken.read (m : Memory) : McpCmdLoadToken where
  wsmTypeLoadData := value (McpCmdLoadToken.at 1) m
  adrLoadData := value (McpCmdLoadToken.at 2) m
  ofsLoadData := value (McpCmdLoadToken.at 3) m
  lenLoadData := value (McpCmdLoadToken.at 4) m

/-- The command in the buffer: its id selects the structure. -/
def McpMessage.decode (p : PointerWidth) (m : Memory) : Option McpMessage :=
  let cmdId := value cmdIdAt m
  if cmdId = mcMcpCmdOpenSession.toNat then some (.openSession (.read p m))
  else if cmdId = mcMcpCmdCheckLoadTa.toNat then some (.checkLoad (.read p m))
  else if cmdId = mcMcpCmdCloseSession.toNat then some (.closeSession (.read m))
  else if cmdId = mcMcpCmdMap.toNat then some (.map (.read m))
  else if cmdId = mcMcpCmdUnmap.toNat then some (.unmap (.read m))
  else if cmdId = mcMcpCmdLoadToken.toNat then some (.loadToken (.read m))
  else none

/-! ## What the daemon writes -/

/-- `loadDataOpenSession_t`, with the whole header. -/
structure LoadData (p : PointerWidth) where
  baseAddr : UInt64
  offs : UInt32
  len : UInt32
  tlHeader : MclfHeaderBytes p

/-- `loadTokenData_t`. -/
structure LoadTokenData where
  addr : UInt64
  offs : UInt64
  len : UInt64

/-- The assignments of `openSession` on the branch that found this TCI. -/
def tciAssignments (p : PointerWidth) (tci : TciBuffer) : List Assignment :=
  [(McpCmdOpen.at p 6).set tci.wsmType.toNat,
    (McpCmdOpen.at p 2).set tci.adr.toNat,
    (McpCmdOpen.at p 4).set tci.ofs.toNat]

/-- The other assignments of `openSession`. -/
def openAssignments (p : PointerWidth) (load : LoadData p) (tciLen : UInt32) :
    List Assignment :=
  [cmdIdAt.set mcMcpCmdOpenSession.toNat,
    { region := McpCmdOpen.at p 1
      bytes := load.tlHeader.uuid
      fits := by cases p <;> exact load.tlHeader.length_uuid },
    (McpCmdOpen.at p 5).set tciLen.toNat,
    (McpCmdOpen.at p 7).set wsmL2.toNat,
    (McpCmdOpen.at p 3).set load.baseAddr.toNat,
    (McpCmdOpen.at p 8).set load.offs.toNat,
    (McpCmdOpen.at p 9).set load.len.toNat,
    { region := McpCmdOpen.at p 10
      bytes := load.tlHeader.bytes
      fits := by cases p <;> exact load.tlHeader.length_eq }]

/-- `MobiCoreDevice::openSession` from the test of the TCI length to the notification;
`len` is the length that was found. -/
def sendOpenTci (p : PointerWidth) (load : LoadData p) (tciHandle tciLen len : UInt32)
    (buf : Memory) : Option Memory :=
  if (tciHandle ≠ 0 ∧ tciLen = 0) ∨ tciLen > len then none
  else some (assign (openAssignments p load tciLen) buf)

/-- `MobiCoreDevice::openSession` up to the notification; a request that it refuses
leaves no message. -/
def sendOpen (p : PointerWidth) (load : LoadData p) (wsm : WsmAnswers)
    (tciHandle tciLen tciOffset : UInt32) (buf : Memory) : Option Memory :=
  if tciHandle ≠ 0 ∧ tciLen ≠ 0 then
    match Daemon.findTci wsm tciLen tciOffset with
    | none => none
    | some tci =>
        if wsm.lock = false then none
        else
          sendOpenTci p load tciHandle tciLen tci.len (assign (tciAssignments p tci) buf)
  else if tciHandle = 0 ∧ tciLen = 0 then
    sendOpenTci p load tciHandle tciLen 0
      (assign
        (tciAssignments p { wsmType := wsmInvalid, adr := 0, ofs := tciOffset, len := 0 }) buf)
  else sendOpenTci p load tciHandle tciLen 0 buf

/-- `MobiCoreDevice::checkLoad`. -/
def checkLoadAssignments (p : PointerWidth) (load : LoadData p) : List Assignment :=
  [cmdIdAt.set mcMcpCmdCheckLoadTa.toNat,
    { region := McpCmdCheckLoad.at p 1
      bytes := load.tlHeader.uuid
      fits := by cases p <;> exact load.tlHeader.length_uuid },
    (McpCmdCheckLoad.at p 3).set wsmL2.toNat,
    (McpCmdCheckLoad.at p 2).set load.baseAddr.toNat,
    (McpCmdCheckLoad.at p 4).set load.offs.toNat,
    (McpCmdCheckLoad.at p 5).set load.len.toNat,
    { region := McpCmdCheckLoad.at p 6
      bytes := load.tlHeader.bytes
      fits := by cases p <;> exact load.tlHeader.length_eq }]

/-- `MobiCoreDevice::sendSessionCloseCmd`. -/
def closeAssignments (sessionId : UInt32) : List Assignment :=
  [cmdIdAt.set mcMcpCmdCloseSession.toNat, (McpCmdClose.at 1).set sessionId.toNat]

/-- `MobiCoreDevice::mapBulk`. -/
def mapAssignments (sessionId : UInt32) (pAddrL2 : UInt64) (offsetPayload lenBulkMem : UInt32) :
    List Assignment :=
  [cmdIdAt.set mcMcpCmdMap.toNat,
    (McpCmdMap.at 1).set sessionId.toNat,
    (McpCmdMap.at 2).set wsmL2.toNat,
    (McpCmdMap.at 4).set pAddrL2.toNat,
    (McpCmdMap.at 3).set offsetPayload.toNat,
    (McpCmdMap.at 5).set lenBulkMem.toNat]

/-- `MobiCoreDevice::unmapBulk`. -/
def unmapAssignments (sessionId secureVirtualAdr lenBulkMem : UInt32) : List Assignment :=
  [cmdIdAt.set mcMcpCmdUnmap.toNat,
    (McpCmdUnmap.at 1).set sessionId.toNat,
    (McpCmdUnmap.at 2).set wsmL2.toNat,
    (McpCmdUnmap.at 3).set secureVirtualAdr.toNat,
    (McpCmdUnmap.at 4).set lenBulkMem.toNat]

/-- `MobiCoreDevice::loadToken`: the address is cast to 32 bits. -/
def loadTokenAssignments (token : LoadTokenData) : List Assignment :=
  [cmdIdAt.set mcMcpCmdLoadToken.toNat,
    (McpCmdLoadToken.at 1).set wsmL2.toNat,
    (McpCmdLoadToken.at 2).set token.addr.toUInt32.toNat,
    (McpCmdLoadToken.at 3).set token.offs.toNat,
    (McpCmdLoadToken.at 4).set token.len.toNat]

/-- The requests for which the daemon sends a message, with what the process functions
pass on: the command of the client, the service blob, the answers of the kernel
module. -/
inductive McpRequest (p : PointerWidth) where
  | openSession (cmd : CmdOpenSession) (load : LoadData p) (wsm : WsmAnswers)
  | checkLoad (load : LoadData p)
  | closeSession (sessionId : UInt32)
  | map (cmd : CmdMapBulkBuf) (pAddrL2 : UInt64)
  | unmap (cmd : CmdUnmapBulkBuf)
  | loadToken (token : LoadTokenData)

namespace McpRequest

variable {p : PointerWidth}

/-- The buffer when the secure world is notified; the parameters of the device functions
that take the offsets and the secure address have 32 bits. -/
def send (buf : Memory) : McpRequest p → Option Memory
  | .openSession cmd load wsm =>
      sendOpen p load wsm cmd.handle cmd.len cmd.tci.toUInt32 buf
  | .checkLoad load => some (assign (checkLoadAssignments p load) buf)
  | .closeSession sessionId => some (assign (closeAssignments sessionId) buf)
  | .map cmd pAddrL2 =>
      some (assign (mapAssignments cmd.sessionId pAddrL2 cmd.offsetPayload.toUInt32
        cmd.lenBulkMem) buf)
  | .unmap cmd =>
      some (assign (unmapAssignments cmd.sessionId cmd.secureVirtualAdr.toUInt32
        cmd.lenBulkMem) buf)
  | .loadToken token => some (assign (loadTokenAssignments token) buf)

/-! ## What was requested -/

/-- Type, address and offset of the TCI that a client asks for.  A contiguous block begins
with the TCI. -/
def requestedTci (cmd : CmdOpenSession) (wsm : WsmAnswers) : UInt32 × UInt64 × UInt64 :=
  if cmd.handle = 0 then (wsmInvalid, 0, cmd.tci)
  else
    match wsm.contiguous with
    | some (phys, _) => (wsmContiguous, phys, 0)
    | none => (wsmL2, wsm.l2, cmd.tci)

/-- The message that carries every value of the request in full. -/
def requested : McpRequest p → McpMessage
  | .openSession cmd load wsm =>
      .openSession
        { uuid := load.tlHeader.uuid
          adrTciBuffer := (requestedTci cmd wsm).2.1.toNat
          adrLoadData := load.baseAddr.toNat
          ofsTciBuffer := (requestedTci cmd wsm).2.2.toNat
          lenTciBuffer := cmd.len.toNat
          wsmTypeTci := (requestedTci cmd wsm).1.toNat
          wsmTypeLoadData := wsmL2.toNat
          ofsLoadData := load.offs.toNat
          lenLoadData := load.len.toNat
          tlHeader := load.tlHeader.bytes }
  | .checkLoad load =>
      .checkLoad
        { uuid := load.tlHeader.uuid
          adrLoadData := load.baseAddr.toNat
          wsmTypeLoadData := wsmL2.toNat
          ofsLoadData := load.offs.toNat
          lenLoadData := load.len.toNat
          tlHeader := load.tlHeader.bytes }
  | .closeSession sessionId => .closeSession { sessionId := sessionId.toNat }
  | .map cmd pAddrL2 =>
      .map
        { sessionId := cmd.sessionId.toNat
          wsmType := wsmL2.toNat
          ofsBuffer := cmd.offsetPayload.toNat
          adrBuffer := pAddrL2.toNat
          lenBuffer := cmd.lenBulkMem.toNat }
  | .unmap cmd =>
      .unmap
        { sessionId := cmd.sessionId.toNat
          wsmType := wsmL2.toNat
          secureVirtualAdr := cmd.secureVirtualAdr.toNat
          lenVirtualBuffer := cmd.lenBulkMem.toNat }
  | .loadToken token =>
      .loadToken
        { wsmTypeLoadData := wsmL2.toNat
          adrLoadData := token.addr.toNat
          ofsLoadData := token.offs.toNat
          lenLoadData := token.len.toNat }

/-- Every value of the request fits the member it is assigned to. -/
def Fits : McpRequest p → Prop
  | .openSession cmd _ wsm =>
      (cmd.handle ≠ 0 ∧ wsm.contiguous.isSome = true) ∨ cmd.tci < 0x100000000
  | .checkLoad _ => True
  | .closeSession _ => True
  | .map cmd _ => cmd.offsetPayload < 0x100000000
  | .unmap cmd => cmd.secureVirtualAdr < 0x100000000
  | .loadToken token => token.addr < 0x100000000

end McpRequest

/-! ## One command at a time -/

section Commands

variable (p : PointerWidth) (buf : Memory)

/-- `openSession` leaves its own members in the buffer, whatever was there before. -/
theorem decode_open (load : LoadData p) (tci : TciBuffer) (tciLen : UInt32) :
    McpMessage.decode p
        (assign (openAssignments p load tciLen) (assign (tciAssignments p tci) buf)) =
      some
        (.openSession
          { uuid := load.tlHeader.uuid
            adrTciBuffer := tci.adr.toNat
            adrLoadData := load.baseAddr.toNat
            ofsTciBuffer := tci.ofs.toNat
            lenTciBuffer := tciLen.toNat
            wsmTypeTci := tci.wsmType.toNat
            wsmTypeLoadData := wsmL2.toNat
            ofsLoadData := load.offs.toNat
            lenLoadData := load.len.toNat
            tlHeader := load.tlHeader.bytes }) := by
  rw [assign_append]
  have hdisj : ((tciAssignments p tci ++ openAssignments p load tciLen).map
      fun a => a.region).Pairwise Region.Disjoint := by
    show List.Pairwise Region.Disjoint
      [McpCmdOpen.at p 6, McpCmdOpen.at p 2, McpCmdOpen.at p 4, cmdIdAt, McpCmdOpen.at p 1,
        McpCmdOpen.at p 5, McpCmdOpen.at p 7, McpCmdOpen.at p 3, McpCmdOpen.at p 8,
        McpCmdOpen.at p 9, McpCmdOpen.at p 10]
    cases p <;> decide
  have hload := load_assign hdisj buf
  generalize assign (tciAssignments p tci ++ openAssignments p load tciLen) buf = m at hload ⊢
  simp only [tciAssignments, openAssignments, List.cons_append, List.nil_append,
    List.forall_mem_cons, region_set] at hload
  obtain ⟨htype, hadr, hofs, hid, huuid, hlen, hload2, hbase, hoffs, hllen, hheader, -⟩ := hload
  have hcmd := value_u32 hid rfl
  rw [McpMessage.decode, hcmd, if_pos rfl, McpCmdOpen.read, huuid, hheader,
    value_u64 hadr (by cases p <;> rfl), value_u64 hbase (by cases p <;> rfl),
    value_u32 hofs (by cases p <;> rfl), value_u32 hlen (by cases p <;> rfl),
    value_u32 htype (by cases p <;> rfl), value_u32 hload2 (by cases p <;> rfl),
    value_u32 hoffs (by cases p <;> rfl), value_u32 hllen (by cases p <;> rfl)]

theorem decode_checkLoad (load : LoadData p) :
    McpMessage.decode p (assign (checkLoadAssignments p load) buf) =
      some (McpRequest.checkLoad load).requested := by
  have hdisj : ((checkLoadAssignments p load).map fun a => a.region).Pairwise
      Region.Disjoint := by
    show List.Pairwise Region.Disjoint
      [cmdIdAt, McpCmdCheckLoad.at p 1, McpCmdCheckLoad.at p 3, McpCmdCheckLoad.at p 2,
        McpCmdCheckLoad.at p 4, McpCmdCheckLoad.at p 5, McpCmdCheckLoad.at p 6]
    cases p <;> decide
  have hload := load_assign hdisj buf
  generalize assign (checkLoadAssignments p load) buf = m at hload ⊢
  simp only [checkLoadAssignments, List.forall_mem_cons, region_set] at hload
  obtain ⟨hid, huuid, htype, hbase, hoffs, hlen, hheader, -⟩ := hload
  have hcmd := value_u32 hid rfl
  rw [McpMessage.decode, hcmd, if_neg (by decide), if_pos rfl, McpCmdCheckLoad.read, huuid,
    hheader, value_u64 hbase (by cases p <;> rfl), value_u32 htype (by cases p <;> rfl),
    value_u32 hoffs (by cases p <;> rfl), value_u32 hlen (by cases p <;> rfl)]
  rfl

theorem decode_close (sessionId : UInt32) :
    McpMessage.decode p (assign (closeAssignments sessionId) buf) =
      some (.closeSession { sessionId := sessionId.toNat }) := by
  have hdisj : ((closeAssignments sessionId).map fun a => a.region).Pairwise
      Region.Disjoint := by
    show List.Pairwise Region.Disjoint [cmdIdAt, McpCmdClose.at 1]
    decide
  have hload := load_assign hdisj buf
  generalize assign (closeAssignments sessionId) buf = m at hload ⊢
  simp only [closeAssignments, List.forall_mem_cons, region_set] at hload
  obtain ⟨hid, hsession, -⟩ := hload
  have hcmd := value_u32 hid rfl
  rw [McpMessage.decode, hcmd, if_neg (by decide), if_neg (by decide), if_pos rfl,
    McpCmdClose.read, value_u32 hsession rfl]

theorem decode_map (sessionId : UInt32) (pAddrL2 : UInt64) (offsetPayload lenBulkMem : UInt32) :
    McpMessage.decode p (assign (mapAssignments sessionId pAddrL2 offsetPayload lenBulkMem) buf) =
      some
        (.map
          { sessionId := sessionId.toNat
            wsmType := wsmL2.toNat
            ofsBuffer := offsetPayload.toNat
            adrBuffer := pAddrL2.toNat
            lenBuffer := lenBulkMem.toNat }) := by
  have hdisj : ((mapAssignments sessionId pAddrL2 offsetPayload lenBulkMem).map
      fun a => a.region).Pairwise Region.Disjoint := by
    show List.Pairwise Region.Disjoint
      [cmdIdAt, McpCmdMap.at 1, McpCmdMap.at 2, McpCmdMap.at 4, McpCmdMap.at 3, McpCmdMap.at 5]
    decide
  have hload := load_assign hdisj buf
  generalize assign (mapAssignments sessionId pAddrL2 offsetPayload lenBulkMem) buf = m
    at hload ⊢
  simp only [mapAssignments, List.forall_mem_cons, region_set] at hload
  obtain ⟨hid, hsession, htype, hadr, hofs, hlen, -⟩ := hload
  have hcmd := value_u32 hid rfl
  rw [McpMessage.decode, hcmd, if_neg (by decide), if_neg (by decide), if_neg (by decide),
    if_pos rfl, McpCmdMap.read, value_u32 hsession rfl, value_u32 htype rfl,
    value_u32 hofs rfl, value_u64 hadr rfl, value_u32 hlen rfl]

theorem decode_unmap (sessionId secureVirtualAdr lenBulkMem : UInt32) :
    McpMessage.decode p (assign (unmapAssignments sessionId secureVirtualAdr lenBulkMem) buf) =
      some
        (.unmap
          { sessionId := sessionId.toNat
            wsmType := wsmL2.toNat
            secureVirtualAdr := secureVirtualAdr.toNat
            lenVirtualBuffer := lenBulkMem.toNat }) := by
  have hdisj : ((unmapAssignments sessionId secureVirtualAdr lenBulkMem).map
      fun a => a.region).Pairwise Region.Disjoint := by
    show List.Pairwise Region.Disjoint
      [cmdIdAt, McpCmdUnmap.at 1, McpCmdUnmap.at 2, McpCmdUnmap.at 3, McpCmdUnmap.at 4]
    decide
  have hload := load_assign hdisj buf
  generalize assign (unmapAssignments sessionId secureVirtualAdr lenBulkMem) buf = m at hload ⊢
  simp only [unmapAssignments, List.forall_mem_cons, region_set] at hload
  obtain ⟨hid, hsession, htype, hadr, hlen, -⟩ := hload
  have hcmd := value_u32 hid rfl
  rw [McpMessage.decode, hcmd, if_neg (by decide), if_neg (by decide), if_neg (by decide),
    if_neg (by decide), if_pos rfl, McpCmdUnmap.read, value_u32 hsession rfl,
    value_u32 htype rfl, value_u32 hadr rfl, value_u32 hlen rfl]

theorem decode_loadToken (token : LoadTokenData) :
    McpMessage.decode p (assign (loadTokenAssignments token) buf) =
      some
        (.loadToken
          { wsmTypeLoadData := wsmL2.toNat
            adrLoadData := token.addr.toUInt32.toNat
            ofsLoadData := token.offs.toNat
            lenLoadData := token.len.toNat }) := by
  have hdisj : ((loadTokenAssignments token).map fun a => a.region).Pairwise
      Region.Disjoint := by
    show List.Pairwise Region.Disjoint
      [cmdIdAt, McpCmdLoadToken.at 1, McpCmdLoadToken.at 2, McpCmdLoadToken.at 3,
        McpCmdLoadToken.at 4]
    decide
  have hload := load_assign hdisj buf
  generalize assign (loadTokenAssignments token) buf = m at hload ⊢
  simp only [loadTokenAssignments, List.forall_mem_cons, region_set] at hload
  obtain ⟨hid, htype, hadr, hofs, hlen, -⟩ := hload
  have hcmd := value_u32 hid rfl
  -- the 32-bit address fills an 8-byte member
  have hsmall : token.addr.toUInt32.toNat < 256 ^ 8 :=
    token.addr.toUInt32.toNat_lt.trans (by decide)
  have haddr : value (McpCmdLoadToken.at 2) m = token.addr.toUInt32.toNat := by
    rw [value_of_load hadr]
    exact Nat.mod_eq_of_lt hsmall
  rw [McpMessage.decode, hcmd, if_neg (by decide), if_neg (by decide), if_neg (by decide),
    if_neg (by decide), if_neg (by decide), if_pos rfl, McpCmdLoadToken.read,
    value_u32 htype rfl, haddr, value_u64 hofs rfl, value_u64 hlen rfl]

end Commands

/-! ## Every request -/

/-- An open request that is sent has found the TCI it asks for. -/
theorem sendOpen_eq_some {p : PointerWidth} {load : LoadData p} {wsm : WsmAnswers}
    {cmd : CmdOpenSession} {buf buf' : Memory}
    (h : sendOpen p load wsm cmd.handle cmd.len cmd.tci.toUInt32 buf = some buf') :
    ∃ tci : TciBuffer,
      buf' = assign (openAssignments p load cmd.len) (assign (tciAssignments p tci) buf) ∧
      tci.wsmType = (McpRequest.requestedTci cmd wsm).1 ∧
      tci.adr = (McpRequest.requestedTci cmd wsm).2.1 ∧
      tci.ofs = (McpRequest.requestedTci cmd wsm).2.2.toUInt32 := by
  have htail : ∀ {len : UInt32} {b : Memory},
      sendOpenTci p load cmd.handle cmd.len len b = some buf' →
        ¬ ((cmd.handle ≠ 0 ∧ cmd.len = 0) ∨ cmd.len > len) ∧
          buf' = assign (openAssignments p load cmd.len) b := by
    intro len b hsend
    unfold sendOpenTci at hsend
    split at hsend
    · cases hsend
    · rename_i hok
      exact ⟨hok, (Option.some_inj.mp hsend).symm⟩
  unfold sendOpen at h
  by_cases huses : cmd.handle ≠ 0 ∧ cmd.len ≠ 0
  · rw [if_pos huses] at h
    cases hcont : wsm.contiguous with
    | some found =>
        obtain ⟨phys, len⟩ := found
        simp only [Daemon.findTci, hcont] at h
        split at h
        · cases h
        · obtain ⟨-, rfl⟩ := htail h
          refine ⟨_, rfl, ?_⟩
          rw [McpRequest.requestedTci, if_neg huses.1, hcont]
          exact ⟨rfl, rfl, rfl⟩
    | none =>
        by_cases hl2 : wsm.l2 = 0
        · simp [Daemon.findTci, hcont, hl2] at h
        · simp only [Daemon.findTci, hcont, ne_eq, hl2, not_false_eq_true, if_true] at h
          split at h
          · cases h
          · obtain ⟨-, rfl⟩ := htail h
            refine ⟨_, rfl, ?_⟩
            rw [McpRequest.requestedTci, if_neg huses.1, hcont]
            exact ⟨rfl, rfl, rfl⟩
  · rw [if_neg huses] at h
    by_cases hnone : cmd.handle = 0 ∧ cmd.len = 0
    · rw [if_pos hnone] at h
      obtain ⟨-, rfl⟩ := htail h
      refine ⟨_, rfl, ?_⟩
      rw [McpRequest.requestedTci, if_pos hnone.1]
      exact ⟨rfl, rfl, rfl⟩
    · -- a handle without a length and a length without a handle are both refused
      rw [if_neg hnone] at h
      obtain ⟨hok, -⟩ := htail h
      refine absurd ?_ hok
      by_cases hhandle : cmd.handle = 0
      · right
        have hlen : cmd.len ≠ 0 := fun hzero => hnone ⟨hhandle, hzero⟩
        exact UInt32.pos_iff_ne_zero.mpr hlen
      · left
        exact ⟨hhandle, not_not.mp fun hlen => huses ⟨hhandle, hlen⟩⟩

/-- The offset of the TCI is the only value of an open request that can be cut. -/
theorem requestedTci_ofs_iff (cmd : CmdOpenSession) (wsm : WsmAnswers) :
    (McpRequest.requestedTci cmd wsm).2.2.toUInt32.toNat =
        (McpRequest.requestedTci cmd wsm).2.2.toNat ↔
      (cmd.handle ≠ 0 ∧ wsm.contiguous.isSome = true) ∨ cmd.tci < 0x100000000 := by
  rw [toNat_toUInt32_eq_iff, McpRequest.requestedTci]
  by_cases hhandle : cmd.handle = 0
  · simp [hhandle]
  · cases hcont : wsm.contiguous with
    | none => simp [hhandle]
    | some found => simp [hhandle]

/-- Whatever the buffer held before: the message that the secure world reads is the one
requested, member by member, if and only if every value of the request fits the member it
is assigned to. -/
theorem decode_send_iff (p : PointerWidth) (req : McpRequest p) (buf buf' : Memory)
    (hsend : req.send buf = some buf') :
    McpMessage.decode p buf' = some req.requested ↔ req.Fits := by
  cases req with
  | openSession cmd load wsm =>
      obtain ⟨tci, rfl, htype, hadr, hofs⟩ := sendOpen_eq_some hsend
      rw [decode_open, htype, hadr, hofs, McpRequest.requested, McpRequest.Fits,
        ← requestedTci_ofs_iff]
      simp
  | checkLoad load =>
      simp only [McpRequest.send, Option.some.injEq] at hsend
      subst hsend
      rw [decode_checkLoad]
      exact iff_of_true rfl trivial
  | closeSession sessionId =>
      simp only [McpRequest.send, Option.some.injEq] at hsend
      subst hsend
      rw [decode_close, McpRequest.requested]
      exact iff_of_true rfl trivial
  | map cmd pAddrL2 =>
      simp only [McpRequest.send, Option.some.injEq] at hsend
      subst hsend
      rw [decode_map, McpRequest.requested, McpRequest.Fits, ← toNat_toUInt32_eq_iff]
      simp
  | unmap cmd =>
      simp only [McpRequest.send, Option.some.injEq] at hsend
      subst hsend
      rw [decode_unmap, McpRequest.requested, McpRequest.Fits, ← toNat_toUInt32_eq_iff]
      simp
  | loadToken token =>
      simp only [McpRequest.send, Option.some.injEq] at hsend
      subst hsend
      rw [decode_loadToken, McpRequest.requested, McpRequest.Fits, ← toNat_toUInt32_eq_iff]
      simp

/-- A token just below 4 GiB, over a buffer that is all ones. -/
def lowToken : McpRequest .bits64 :=
  .loadToken { addr := 0xFFFFF000, offs := 0x10, len := 0x40 }

theorem decode_send_iff_lowToken :
    ∃ buf', lowToken.send (fun _ => 0xFF) = some buf' ∧
      (McpMessage.decode .bits64 buf' = some lowToken.requested ↔ lowToken.Fits) :=
  ⟨_, rfl, decode_send_iff .bits64 lowToken (fun _ => 0xFF) _ rfl⟩

/-- A token just above 4 GiB. -/
def highToken : McpRequest .bits64 :=
  .loadToken { addr := 0x100001000, offs := 0x10, len := 0x40 }

/-- The secure world is told another address. -/
theorem not_decode_send :
    ¬ ∀ (p : PointerWidth) (req : McpRequest p) (buf buf' : Memory),
      req.send buf = some buf' → McpMessage.decode p buf' = some req.requested := by
  intro h
  have hdecode := h .bits64 highToken (fun _ => 0) _ rfl
  rw [decode_loadToken] at hdecode
  exact absurd hdecode (by decide)

end Exynos8890.MobiCore
