import Exynos8890.MobiCore.ClientLib.ResponseFraming
import Exynos8890.MobiCore.CommandWire
import Exynos8890.MobiCore.DriverDaemon.Answers

/-!
# The responses of the daemon, as the client library takes them

The daemon writes a result, or the structure of a response whose first member is the result
`MC_DRV_OK`.  The client library receives a result first, and the payload only when the
result is `MC_DRV_OK`: how much a call takes from the connection depends on what it asked
and on what it was answered.

Main results:

- Definitions `Response.write` and `Command.receive`: both sides of a connection.
- Theorem `receive_write`: a call takes the response that belongs to it and no more.
- Theorem `responses_received`: over every run of the daemon, the calls of a client take
  the responses to their own commands, one by one.
-/

namespace Exynos8890.MobiCore

open CStruct StreamReader RequestReply
open DaemonCommand (length_u32Bytes)
open ClientLib (openError)
open ClientLib.ResponseFraming

/-! ## Both sides -/

/-- `writeResult`, or a response with its payload. -/
def Response.write (stack : Memory) : Response → List UInt8
  | .result code => u32Bytes code
  | .openSession sessionId deviceSessionId sessionMagic =>
      u32Bytes mcDrvOk ++ structBytes openSessionPayload
        [u32Bytes sessionId, u32Bytes deviceSessionId, u32Bytes sessionMagic] stack
  | .mapBulkMem sessionId secureVirtualAdr =>
      u32Bytes mcDrvOk ++ structBytes mapBulkMemPayload
        [u32Bytes sessionId, u32Bytes secureVirtualAdr] stack

/-- The payload that the call behind a command receives. -/
def Command.payload : Command → Option (List CType)
  | .openSession .. | .openTrustlet .. => some openSessionPayload
  | .mapBulkBuf .. => some mapBulkMemPayload
  | _ => none

/-- The result of the call for an error of the daemon. -/
def Command.error : Command → McResult → McResult
  | .openSession .. | .openTrustlet .. => openError
  | .mapBulkBuf .. | .unmapBulkBuf _ => fun _ => mcDrvErrDaemonUnreachable
  | .closeSession _ => fun _ => mcDrvErrUnknownDevice
  | _ => id

/-- The members of a payload of `uint32_t`. -/
def payloadMembers (ts : List CType) (payload : List UInt8) : List UInt32 :=
  (List.range ts.length).map fun i =>
    UInt32.ofNat (ofLittleEndian (slice (member ts i) payload))

/-- What a call receives after its command: the error it returns, or the payload. -/
def Command.receive (cmd : Command) (stack : Memory) (s : Socket) :
    Except McResult (List UInt32) × Socket :=
  match cmd.payload with
  | none =>
      match recvFromDaemon responseHeaderSize stack s with
      | (.error code, t) => (.error code, t)
      | (.ok header, t) =>
          if responseId header ≠ mcDrvOk then (.error (cmd.error (responseId header)), t)
          else (.ok [], t)
  | some ts =>
      match receiveResponse (CStruct.sizeOf ts) cmd.error stack s with
      | (.error code, t) => (.error code, t)
      | (.ok payload, t) => (.ok (payloadMembers ts payload), t)

/-- What a response says to a call. -/
def Response.toCall (cmd : Command) : Response → Except McResult (List UInt32)
  | .result code => if code ≠ mcDrvOk then .error (cmd.error code) else .ok []
  | .openSession sessionId deviceSessionId sessionMagic =>
      .ok [sessionId, deviceSessionId, sessionMagic]
  | .mapBulkMem sessionId secureVirtualAdr => .ok [sessionId, secureVirtualAdr]

/-! ## One call -/

section Call

variable {stack : Memory} {rest : List UInt8}

/-- A receive that is not interrupted takes what was asked for. -/
theorem receive_append {bytes : List UInt8} (hlength : bytes.length ≤ maxReceive)
    (rest : List UInt8) :
    (Socket.mk (bytes ++ rest) []).receive bytes.length = (some bytes, ⟨rest, []⟩) := by
  have hoffered : (Socket.mk (bytes ++ rest) []).offered bytes.length = bytes.length := by
    rw [Socket.offered, List.length_append]
    omega
  rw [Socket.receive_whole rfl, hoffered, List.take_left, List.drop_left, List.tail_nil]

theorem recvFromDaemon_append {size : Nat} {bytes : List UInt8} (hlength : bytes.length = size)
    (hpos : 0 < size) (hsize : size ≤ maxReceive) (rest : List UInt8) :
    recvFromDaemon size stack ⟨bytes ++ rest, []⟩ = (.ok bytes, ⟨rest, []⟩) := by
  refine recvFromDaemon_eq_ok.mpr ⟨bytes, ?_, ?_, Or.inl hlength, (load_of_whole hlength).symm⟩
  · rw [← hlength] at hsize ⊢
    exact receive_append hsize rest
  · rintro rfl
    rw [← hlength] at hpos
    exact absurd hpos (Nat.lt_irrefl 0)

theorem responseId_u32Bytes (code : McResult) : responseId (u32Bytes code) = code := by
  have hlt : code.toNat < 256 ^ 4 := code.toNat_lt
  rw [responseId, u32Bytes, ofLittleEndian_littleEndian, Nat.mod_eq_of_lt hlt,
    UInt32.ofNat_toNat]

theorem recvFromDaemon_u32Bytes (code : McResult) (rest : List UInt8) :
    recvFromDaemon responseHeaderSize stack ⟨u32Bytes code ++ rest, []⟩ =
      (.ok (u32Bytes code), ⟨rest, []⟩) :=
  recvFromDaemon_append (length_u32Bytes code) (by decide) (by decide) rest

theorem receiveResponse_error {size : Nat} {error : McResult → McResult} {code : McResult}
    (hcode : code ≠ mcDrvOk) (rest : List UInt8) :
    receiveResponse size error stack ⟨u32Bytes code ++ rest, []⟩ =
      (.error (error code), ⟨rest, []⟩) := by
  simp only [receiveResponse, recvFromDaemon_u32Bytes, responseId_u32Bytes, ne_eq, hcode,
    not_false_eq_true, if_true]

/-- A payload behind `MC_DRV_OK` is received with it. -/
theorem receiveResponse_payload {size : Nat} {error : McResult → McResult} {bytes : List UInt8}
    (hlength : bytes.length = size) (hpos : 0 < size) (hsize : size ≤ maxReceive)
    (rest : List UInt8) :
    receiveResponse size error stack ⟨u32Bytes mcDrvOk ++ bytes ++ rest, []⟩ =
      (.ok bytes, ⟨rest, []⟩) := by
  rw [List.append_assoc]
  simp only [receiveResponse, recvFromDaemon_u32Bytes, responseId_u32Bytes, ne_eq,
    not_true_eq_false, if_false]
  exact recvFromDaemon_append hlength hpos hsize rest

theorem payloadMembers_structBytes {ts : List CType} {values : List UInt32} (h : Aligned ts)
    (hfits : Fits ts (values.map u32Bytes)) (stack : Memory) :
    payloadMembers ts (structBytes ts (values.map u32Bytes) stack) = values := by
  have hcount : ts.length = values.length := by
    have hlength := hfits.length_eq
    rwa [List.length_map] at hlength
  apply List.ext_getElem
  · rw [payloadMembers, List.length_map, List.length_range, hcount]
  · intro i hi hi'
    have hslice := slice_structBytes h hfits stack [] i
    have hlt : values[i].toNat < 256 ^ 4 := values[i].toNat_lt
    rw [List.append_nil, List.getD_eq_getElem?_getD, List.getElem?_map,
      List.getElem?_eq_getElem hi', Option.map_some, Option.getD_some] at hslice
    simp only [payloadMembers, List.getElem_map, List.getElem_range]
    rw [hslice, u32Bytes, ofLittleEndian_littleEndian, Nat.mod_eq_of_lt hlt, UInt32.ofNat_toNat]

/-- `uint32_t` values fill a structure of that many members. -/
theorem fits_u32 (values : List UInt32) :
    Fits (List.replicate values.length u32) (values.map u32Bytes) := by
  induction values with
  | nil => exact List.Forall₂.nil
  | cons n values ih => exact List.Forall₂.cons (length_u32Bytes n) ih

theorem aligned_u32 (n : Nat) : Aligned (List.replicate n u32) := by
  intro t ht
  rw [List.eq_of_mem_replicate ht]
  decide

theorem receive_payload {cmd : Command} {ts : List CType} {values : List UInt32}
    (hpayload : cmd.payload = some ts) (hts : ts = List.replicate values.length u32)
    (hpos : 0 < CStruct.sizeOf ts) (hsize : CStruct.sizeOf ts ≤ maxReceive)
    (written stack : Memory) (rest : List UInt8) :
    cmd.receive stack
        ⟨u32Bytes mcDrvOk ++ structBytes ts (values.map u32Bytes) written ++ rest, []⟩ =
      (.ok values, ⟨rest, []⟩) := by
  subst hts
  have hmembers := payloadMembers_structBytes (aligned_u32 _) (fits_u32 values) written
  simp only [Command.receive, hpayload, receiveResponse_payload (length_structBytes _ _ _) hpos
    hsize, hmembers]

/-- A call takes the response that belongs to it, and no more. -/
theorem receive_write {cmd : Command} {rsp : Response} (h : cmd.AnsweredBy rsp)
    (written stack : Memory) (rest : List UInt8) :
    cmd.receive stack ⟨rsp.write written ++ rest, []⟩ = (rsp.toCall cmd, ⟨rest, []⟩) := by
  cases h with
  | refused hcmd hcode =>
      unfold Command.receive
      cases cmd.payload with
      | none =>
          simp only [Response.write, recvFromDaemon_u32Bytes, responseId_u32Bytes,
            Response.toCall]
          rw [if_pos hcode, if_pos hcode]
      | some ts =>
          simp only [Response.write, receiveResponse_error hcode, Response.toCall]
          rw [if_pos hcode]
  | @opened sessionId deviceSessionId sessionMagic hcmd =>
      have hpayload : cmd.payload = some openSessionPayload := by
        cases cmd with
        | openSession | openTrustlet => rfl
        | _ => cases hcmd
      exact @receive_payload cmd _ [sessionId, deviceSessionId, sessionMagic] hpayload rfl
        (by decide) (by decide) written stack rest
  | @mapped c secureVirtualAdr hcmd =>
      have hpayload : cmd.payload = some mapBulkMemPayload := by
        cases cmd with
        | mapBulkBuf => rfl
        | _ => cases hcmd
      exact @receive_payload cmd _ [c.sessionId, secureVirtualAdr] hpayload rfl (by decide)
        (by decide) written stack rest
  | done hcmd hopened hmapped =>
      have hpayload : cmd.payload = none := by
        cases cmd with
        | openSession | openTrustlet => cases hopened
        | mapBulkBuf => cases hmapped
        | _ => rfl
      simp only [Command.receive, hpayload, Response.write, recvFromDaemon_u32Bytes,
        responseId_u32Bytes, Response.toCall]
      rfl

end Call

/-! ## A connection -/

/-- The calls of a client, one behind the other. -/
def receiveAll (stack : Memory) : List Command → Socket →
    List (Except McResult (List UInt32)) × Socket
  | [], s => ([], s)
  | cmd :: cmds, s =>
      let (result, t) := cmd.receive stack s
      let (results, u) := receiveAll stack cmds t
      (result :: results, u)

theorem receiveAll_writes {cmds : List Command} {rsps : List Response}
    (h : List.Forall₂ Command.AnsweredBy cmds rsps) (written stack : Memory)
    (rest : List UInt8) :
    receiveAll stack cmds ⟨rsps.flatMap (Response.write written) ++ rest, []⟩ =
      (List.zipWith (fun cmd rsp => rsp.toCall cmd) cmds rsps, ⟨rest, []⟩) := by
  induction h with
  | nil => rfl
  | @cons cmd rsp cmds rsps hanswer hrest ih =>
      rw [List.flatMap_cons, List.append_assoc, receiveAll, receive_write hanswer]
      simp only [ih]
      rfl

/-- In every interleaving, what the daemon has written to a client is what its calls take:
each one the response to its own command, and nothing is left of them on the connection. -/
theorem responses_received {ls : List Daemon.Label} {d : Daemon}
    (hrun : Daemon.system.run Daemon.init ls = some d) (conn : ConnPtr)
    (written stack : Memory) (rest : List UInt8) :
    let answers := Daemon.answersTo conn d
    let calls := (Daemon.asked conn ls).take answers.length
    receiveAll stack calls ⟨answers.flatMap (Response.write written) ++ rest, []⟩ =
      (List.zipWith (fun cmd rsp => rsp.toCall cmd) calls answers, ⟨rest, []⟩) :=
  receiveAll_writes (Daemon.inOrder_run hrun conn).take written stack rest

/-- A device is opened, a session in it, and a buffer mapped. -/
theorem responses_received_mapBesideRefusal :
    ∃ d, Daemon.system.run Daemon.init Daemon.mapBesideRefusal = some d ∧
      (receiveAll (fun _ => 0xee) ((Daemon.asked 1 Daemon.mapBesideRefusal).take 3)
        ⟨(Daemon.answersTo 1 d).flatMap (Response.write fun _ => 0xcc) ++ [7], []⟩).2.unread =
          [7] ∧
      (receiveAll (fun _ => 0xee) ((Daemon.asked 1 Daemon.mapBesideRefusal).take 3)
        ⟨(Daemon.answersTo 1 d).flatMap (Response.write fun _ => 0xcc) ++ [7], []⟩).1.length =
          3 := by
  refine ⟨_, rfl, ?_⟩
  have h := @responses_received Daemon.mapBesideRefusal _ rfl 1 (fun _ => 0xcc) (fun _ => 0xee)
    [7]
  exact ⟨congrArg (fun r => r.2.unread) h, congrArg (fun r => r.1.length) h⟩

end Exynos8890.MobiCore
