import Exynos8890.Library.StructBytes
import Exynos8890.MobiCore.DriverDaemon.ClientSocket

/-!
# The commands of the client library

The client library fills the structure of a command on its stack and writes it to the
daemon; `mcOpenTrustlet` writes the trustlet behind it.  The daemon cuts the byte stream
into commands again and reads the members from the structure of its own build.

Main results:

- Definition `DaemonCommand.write`: the bytes of a command, over whatever was on the stack.
- Theorem `read_write`: the daemon reads back every member.
- Theorem `frames_writes`: the stream of any commands is cut where they end.
- Theorem `commands_arrive`: in a well-behaved run the commands handled are those that the
  client has sent, in their order and with their arguments.
-/

namespace Exynos8890.MobiCore

open CStruct StreamReader ClientSocket

/-! ## Commands with their arguments -/

/-- A `uintptr_t` of the build. -/
structure Uintptr (p : PointerWidth) where
  value : Nat
  fits : value < 256 ^ p.word.size

/-- A trustlet whose length is a `uint32_t`. -/
structure TrustletImage where
  bytes : List UInt8
  fits : bytes.length < 256 ^ 4

/-- The commands of `SEND_TO_DAEMON` in the client library. -/
inductive DaemonCommand (p : PointerWidth) where
  | openDevice (deviceId : UInt32)
  | closeDevice
  | openSession (deviceId : UInt32) (uuid : { bytes : List UInt8 // bytes.length = uuidLength })
      (tci : Uintptr p) (handle len : UInt32)
  | openTrustlet (deviceId spid : UInt32) (trustlet : TrustletImage) (tci : Uintptr p)
      (handle len : UInt32)
  | openTrustedApp (deviceId : UInt32)
      (uuid : { bytes : List UInt8 // bytes.length = uuidLength }) (tci : Uintptr p)
      (handle len : UInt32)
  | closeSession (sessionId : UInt32)
  | nqConnect (deviceId sessionId deviceSessionId sessionMagic : UInt32)
  | notify (sessionId : UInt32)
  | mapBulkBuf (sessionId handle rfu : UInt32) (offsetPayload : Uintptr p) (lenBulkMem : UInt32)
  | unmapBulkBuf (sessionId handle : UInt32) (secureVirtualAdr : Uintptr p)
      (lenBulkMem : UInt32)
  | getVersion
  | getMobiCoreVersion

/-- The bytes of a `uint32_t`. -/
def u32Bytes (n : UInt32) : List UInt8 :=
  littleEndian 4 n.toNat

/-- The bytes of a `uintptr_t`. -/
def Uintptr.bytes {p : PointerWidth} (w : Uintptr p) : List UInt8 :=
  littleEndian p.word.size w.value

namespace DaemonCommand

variable {p : PointerWidth}

def cmd : DaemonCommand p → McDrvCmd
  | openDevice _ => .openDevice
  | closeDevice => .closeDevice
  | openSession .. => .openSession
  | openTrustlet .. => .openTrustlet
  | openTrustedApp .. => .openTrustedApp
  | closeSession _ => .closeSession
  | nqConnect .. => .nqConnect
  | notify _ => .notify
  | mapBulkBuf .. => .mapBulkBuf
  | unmapBulkBuf .. => .unmapBulkBuf
  | getVersion => .getVersion
  | getMobiCoreVersion => .getMobiCoreVersion

/-- The arguments of `SEND_TO_DAEMON`, in their order. -/
def arguments : DaemonCommand p → List (List UInt8)
  | openDevice deviceId => [u32Bytes deviceId]
  | closeDevice | getVersion | getMobiCoreVersion => []
  | openSession deviceId uuid tci handle len | openTrustedApp deviceId uuid tci handle len =>
      [u32Bytes deviceId, uuid.val, tci.bytes, u32Bytes handle, u32Bytes len]
  | openTrustlet deviceId spid trustlet tci handle len =>
      [u32Bytes deviceId, u32Bytes spid, littleEndian 4 trustlet.bytes.length, tci.bytes,
        u32Bytes handle, u32Bytes len]
  | closeSession sessionId | notify sessionId => [u32Bytes sessionId]
  | nqConnect deviceId sessionId deviceSessionId sessionMagic =>
      [u32Bytes deviceId, u32Bytes sessionId, u32Bytes deviceSessionId, u32Bytes sessionMagic]
  | mapBulkBuf sessionId handle rfu offsetPayload lenBulkMem =>
      [u32Bytes sessionId, u32Bytes handle, u32Bytes rfu, offsetPayload.bytes,
        u32Bytes lenBulkMem]
  | unmapBulkBuf sessionId handle secureVirtualAdr lenBulkMem =>
      [u32Bytes sessionId, u32Bytes handle, secureVirtualAdr.bytes, u32Bytes lenBulkMem]

/-- What is written behind the structure. -/
def data : DaemonCommand p → List UInt8
  | openTrustlet _ _ trustlet _ _ _ => trustlet.bytes
  | _ => []

/-- The members of the structure. -/
def members (x : DaemonCommand p) : List (List UInt8) :=
  littleEndian 4 x.cmd.commandId :: x.arguments

/-- `SEND_TO_DAEMON`, and the trustlet; `stack` is what is in the gaps of the structure. -/
def write (stack : Memory) (x : DaemonCommand p) : List UInt8 :=
  structBytes (commandStruct p x.cmd) x.members stack ++ x.data

/-! ## What the daemon reads -/

/-- A `uint32_t` member of the command. -/
def u32Member (p : PointerWidth) (cmd : McDrvCmd) (bytes : List UInt8) (i : Nat) : UInt32 :=
  UInt32.ofNat (ofLittleEndian (slice (member (commandStruct p cmd) i) bytes))

/-- A `uintptr_t` member of the command. -/
def wordMember (p : PointerWidth) (cmd : McDrvCmd) (bytes : List UInt8) (i : Nat) : Uintptr p where
  value := ofLittleEndian (slice (member (commandStruct p cmd) i) bytes) % 256 ^ p.word.size
  fits := Nat.mod_lt _ (Nat.pow_pos (by decide))

/-- The `mcUuid_t` member of the command, if all of it was received. -/
def uuidMember (p : PointerWidth) (cmd : McDrvCmd) (bytes : List UInt8) (i : Nat) :
    Option { bytes : List UInt8 // bytes.length = uuidLength } :=
  if h : (slice (member (commandStruct p cmd) i) bytes).length = uuidLength then
    some ⟨slice (member (commandStruct p cmd) i) bytes, h⟩
  else none

/-- The trustlet behind the structure. -/
def trustletImage (p : PointerWidth) (bytes : List UInt8) : Option TrustletImage :=
  let trustlet := bytes.drop (CStruct.sizeOf (commandStruct p .openTrustlet))
  if h : trustlet.length < 256 ^ 4 then some ⟨trustlet, h⟩ else none

/-- The command with the members that the handlers read. -/
def read (p : PointerWidth) (cmd : McDrvCmd) (bytes : List UInt8) : Option (DaemonCommand p) :=
  match cmd with
  | .openDevice => some (openDevice (u32Member p cmd bytes 1))
  | .closeDevice => some closeDevice
  | .openSession =>
      (uuidMember p cmd bytes 2).map fun uuid =>
        openSession (u32Member p cmd bytes 1) uuid (wordMember p cmd bytes 3)
          (u32Member p cmd bytes 4) (u32Member p cmd bytes 5)
  | .openTrustedApp =>
      (uuidMember p cmd bytes 2).map fun uuid =>
        openTrustedApp (u32Member p cmd bytes 1) uuid (wordMember p cmd bytes 3)
          (u32Member p cmd bytes 4) (u32Member p cmd bytes 5)
  | .openTrustlet =>
      (trustletImage p bytes).map fun trustlet =>
        openTrustlet (u32Member p cmd bytes 1) (u32Member p cmd bytes 2) trustlet
          (wordMember p cmd bytes 4) (u32Member p cmd bytes 5) (u32Member p cmd bytes 6)
  | .closeSession => some (closeSession (u32Member p cmd bytes 1))
  | .notify => some (notify (u32Member p cmd bytes 1))
  | .nqConnect =>
      some (nqConnect (u32Member p cmd bytes 1) (u32Member p cmd bytes 2)
        (u32Member p cmd bytes 3) (u32Member p cmd bytes 4))
  | .mapBulkBuf =>
      some (mapBulkBuf (u32Member p cmd bytes 1) (u32Member p cmd bytes 2)
        (u32Member p cmd bytes 3) (wordMember p cmd bytes 4) (u32Member p cmd bytes 5))
  | .unmapBulkBuf =>
      some (unmapBulkBuf (u32Member p cmd bytes 1) (u32Member p cmd bytes 2)
        (wordMember p cmd bytes 3) (u32Member p cmd bytes 4))
  | .getVersion => some getVersion
  | .getMobiCoreVersion => some getMobiCoreVersion
  | _ => none

/-! ## The way back -/

theorem aligned_commandStruct (p : PointerWidth) (cmd : McDrvCmd) :
    Aligned (commandStruct p cmd) := by
  cases cmd <;> cases p <;> decide

theorem length_u32Bytes (n : UInt32) : (u32Bytes n).length = 4 :=
  length_littleEndian 4 n.toNat

theorem length_bytes (w : Uintptr p) : w.bytes.length = p.word.size :=
  length_littleEndian _ _

theorem members_fit (x : DaemonCommand p) : Fits (commandStruct p x.cmd) x.members := by
  unfold Fits
  cases x <;>
    simp [cmd, members, arguments, commandStruct, u32, length_u32Bytes, length_bytes, mcUuid,
      byteArray] <;>
    grind

section Members

variable {x : DaemonCommand p} {stack : Memory} {i : Nat}

theorem slice_write (x : DaemonCommand p) (stack : Memory) (rest : List UInt8) (i : Nat) :
    slice (member (commandStruct p x.cmd) i) (x.write stack ++ rest) = x.members.getD i [] := by
  rw [write, List.append_assoc]
  exact slice_structBytes (aligned_commandStruct p x.cmd) x.members_fit stack _ i

theorem slice_write_self (x : DaemonCommand p) (stack : Memory) (i : Nat) :
    slice (member (commandStruct p x.cmd) i) (x.write stack) = x.members.getD i [] := by
  have h := slice_write x stack [] i
  rwa [List.append_nil] at h

theorem u32Member_write {n : UInt32} (h : x.members.getD i [] = u32Bytes n) :
    u32Member p x.cmd (x.write stack) i = n := by
  have hlt : n.toNat < 256 ^ 4 := n.toNat_lt
  rw [u32Member, slice_write_self, h, u32Bytes, ofLittleEndian_littleEndian,
    Nat.mod_eq_of_lt hlt, UInt32.ofNat_toNat]

theorem wordMember_write {w : Uintptr p} (h : x.members.getD i [] = w.bytes) :
    wordMember p x.cmd (x.write stack) i = w := by
  obtain ⟨value, hfits⟩ := w
  simp only [wordMember, slice_write_self, h, Uintptr.bytes, ofLittleEndian_littleEndian,
    Nat.mod_eq_of_lt hfits]

theorem uuidMember_write {uuid : { bytes : List UInt8 // bytes.length = uuidLength }}
    (h : x.members.getD i [] = uuid.val) :
    uuidMember p x.cmd (x.write stack) i = some uuid := by
  have hslice := slice_write_self x stack i
  rw [h] at hslice
  simp only [uuidMember, hslice]
  rw [dif_pos uuid.property]

theorem trustletImage_write {trustlet : TrustletImage} (hcmd : x.cmd = .openTrustlet)
    (h : x.data = trustlet.bytes) : trustletImage p (x.write stack) = some trustlet := by
  have hdrop : (x.write stack).drop (CStruct.sizeOf (commandStruct p .openTrustlet)) =
      trustlet.bytes := by
    rw [write, hcmd, h]
    exact List.drop_left' (length_structBytes _ _ _)
  simp only [trustletImage, hdrop]
  rw [dif_pos trustlet.fits]

end Members

/-- The daemon reads back every member, whatever is in the gaps. -/
theorem read_write (x : DaemonCommand p) (stack : Memory) :
    read p x.cmd (x.write stack) = some x := by
  have hu32 := @u32Member_write p x stack
  have hword := @wordMember_write p x stack
  have huuid := @uuidMember_write p x stack
  have htrustlet := @trustletImage_write p x stack
  generalize x.write stack = bytes at *
  cases x with
  | closeDevice | getVersion | getMobiCoreVersion => rfl
  | openDevice n | closeSession n | notify n =>
      simp only [cmd] at hu32
      simp only [read, cmd, @hu32 1 n rfl]
  | openSession deviceId uuid tci handle len | openTrustedApp deviceId uuid tci handle len =>
      simp only [cmd] at hu32 hword huuid
      simp only [read, cmd, @huuid 2 uuid rfl, @hu32 1 deviceId rfl, @hword 3 tci rfl,
        @hu32 4 handle rfl, @hu32 5 len rfl, Option.map_some]
  | openTrustlet deviceId spid trustlet tci handle len =>
      simp only [cmd] at hu32 hword
      simp only [read, cmd, htrustlet rfl rfl, @hu32 1 deviceId rfl, @hu32 2 spid rfl,
        @hword 4 tci rfl, @hu32 5 handle rfl, @hu32 6 len rfl, Option.map_some]
  | nqConnect deviceId sessionId deviceSessionId sessionMagic =>
      simp only [cmd] at hu32
      simp only [read, cmd, @hu32 1 deviceId rfl, @hu32 2 sessionId rfl,
        @hu32 3 deviceSessionId rfl, @hu32 4 sessionMagic rfl]
  | mapBulkBuf sessionId handle rfu offsetPayload lenBulkMem =>
      simp only [cmd] at hu32 hword
      simp only [read, cmd, @hu32 1 sessionId rfl, @hu32 2 handle rfl, @hu32 3 rfu rfl,
        @hword 4 offsetPayload rfl, @hu32 5 lenBulkMem rfl]
  | unmapBulkBuf sessionId handle secureVirtualAdr lenBulkMem =>
      simp only [cmd] at hu32 hword
      simp only [read, cmd, @hu32 1 sessionId rfl, @hu32 2 handle rfl,
        @hword 3 secureVirtualAdr rfl, @hu32 4 lenBulkMem rfl]

/-! ## The stream -/

/-- What the daemon finds at the head of the stream is the command that was written. -/
theorem firstCommand_write (x : DaemonCommand p) (stack : Memory) (rest : List UInt8) :
    firstCommand p (x.write stack ++ rest) = some (x.cmd, (x.write stack).length) := by
  have hlength : (x.write stack).length =
      CStruct.sizeOf (commandStruct p x.cmd) + x.data.length := by
    rw [write, List.length_append, length_structBytes]
  have hheader : ofLittleEndian ((x.write stack ++ rest).take headerSize) = x.cmd.commandId := by
    have hslice := slice_write x stack rest 0
    have hplace : member (commandStruct p x.cmd) 0 = ⟨0, headerSize⟩ := by
      cases x <;> rfl
    rw [hplace] at hslice
    have htake : (x.write stack ++ rest).take headerSize = littleEndian 4 x.cmd.commandId :=
      hslice
    rw [htake, ofLittleEndian_littleEndian, Nat.mod_eq_of_lt x.cmd.commandId_lt]
  have hcommand : commandLength p x.cmd (x.write stack ++ rest) = (x.write stack).length := by
    rw [hlength, commandLength]
    cases x with
    | openTrustlet deviceId spid trustlet tci handle len =>
        have hslice := slice_write (openTrustlet deviceId spid trustlet tci handle len) stack rest 3
        have hannounced : ofLittleEndian (slice (member (commandStruct p .openTrustlet) 3)
            ((openTrustlet deviceId spid trustlet tci handle len).write stack ++ rest)) =
              trustlet.bytes.length := by
          refine (congrArg ofLittleEndian hslice).trans ?_
          exact (ofLittleEndian_littleEndian 4 _).trans (Nat.mod_eq_of_lt trustlet.fits)
        exact congrArg _ hannounced
    | _ => rfl
  rw [firstCommand_eq_some]
  refine ⟨?_, hcommand.symm, ?_⟩
  · rw [hheader, McDrvCmd.ofId_commandId]
  · rw [List.length_append]
    omega

theorem frames_writes (sent : List (DaemonCommand p × Memory)) :
    frames p (sent.flatMap fun x => x.1.write x.2) =
      sent.map fun x => (x.1.cmd, x.1.write x.2) := by
  induction sent with
  | nil =>
      apply frames_of_none
      rfl
  | cons x sent ih =>
      rw [List.flatMap_cons, frames_of_some (firstCommand_write x.1 x.2 _), List.take_left,
        List.drop_left, ih, List.map_cons]

/-! ## The run -/

/-- The commands that a stretch of the stream holds, as the handlers read them. -/
def readAll (p : PointerWidth) (frames : List (McDrvCmd × List UInt8)) :
    List (Option (DaemonCommand p)) :=
  frames.map fun frame => read p frame.1 frame.2

theorem readAll_writes (sent : List (DaemonCommand p × Memory)) :
    readAll p (frames p (sent.flatMap fun x => x.1.write x.2)) =
      sent.map fun x => some x.1 := by
  rw [frames_writes, readAll, List.map_map]
  exact List.map_congr_left fun x _ => read_write x.1 x.2

/-- In every run whose rounds are well behaved, the commands handled and those still to come
are the ones that the client has sent, in their order and with their arguments. -/
theorem commands_arrive (sent : List (DaemonCommand p × Memory)) (ls : List Round)
    (c : ClientConnection)
    (hbehaved : (system p).StepsMeet (WellBehaved p)
      (accept (sent.flatMap fun x => x.1.write x.2)) ls)
    (hrun : (system p).run (accept (sent.flatMap fun x => x.1.write x.2)) ls = some c) :
    readAll p (c.handled.flatMap fun h => frames p h.consumed) ++ readAll p (c.remaining p) =
      sent.map fun x => some x.1 := by
  have hinit : Framed p (sent.flatMap fun x => x.1.write x.2)
      (accept (sent.flatMap fun x => x.1.write x.2)) := by
    constructor
    · simp [accept]
    · simp [accept, ClientConnection.remaining]
    · simp [accept]
  have hframed := TransitionSystem.run_invariant (step_framed p _) hinit hbehaved hrun
  rw [readAll, readAll, ← List.map_append, hframed.parse]
  exact readAll_writes sent

/-- A session is opened and a version asked for. -/
def openAndQuery : List (DaemonCommand .bits64 × Memory) :=
  [(openSession 0 ⟨List.replicate 16 7, by decide⟩ ⟨0x10000, by decide⟩ 9 4096, fun _ => 0xee),
    (getMobiCoreVersion, fun _ => 0)]

theorem commands_arrive_openAndQuery :
    ∃ c, (system .bits64).run (accept (openAndQuery.flatMap fun x => x.1.write x.2))
        [roundWith [], roundWith []] = some c ∧ c.handled.length = 2 ∧
      readAll .bits64 (c.handled.flatMap fun h => frames .bits64 h.consumed) ++
          readAll .bits64 (c.remaining .bits64) =
        openAndQuery.map fun x => some x.1 :=
  ⟨_, rfl, by decide, commands_arrive openAndQuery [roundWith [], roundWith []] _
    (by decide) rfl⟩

end DaemonCommand

end Exynos8890.MobiCore
