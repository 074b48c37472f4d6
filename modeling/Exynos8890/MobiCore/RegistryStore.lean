import Exynos8890.MobiCore.RegistryPaths
import Exynos8890.MobiCore.RegistryRead
import Exynos8890.MobiCore.RegistryWire

/-!
# Storing containers and reading them back

The registry client writes a container to the socket, the daemon takes it apart and writes
it to a file; a read request goes the same way, and the file comes back.  The result of
`fwrite` is not looked at, and what can be read is less than what can be stored: a token
must have the size of its structure, and other containers must fit the buffer of the
daemon.

Main results:

- Theorem `storeWire_received`: the daemon receives the container that the client sends.
- Theorem `read_of_file`: what a read returns for the file of a container.
- Theorem `honest_iff`: which stores can be read back, and report a short write.
- Theorem `not_honest`: a root container that is lost on a full disk.
-/

namespace Exynos8890.MobiCore

namespace RegistryStore

open CStruct ClientSocket

/-! ## Containers -/

/-- The containers that have a store and a read call. -/
inductive ContainerKey where
  | authToken
  | rootCont
  | spCont (spid : UInt32)
  | tlCont (uuid : McUuid) (spid : UInt32)
deriving DecidableEq

namespace ContainerKey

/-- The registry object of a container. -/
def object : ContainerKey → RegistryObject
  | authToken => .authToken
  | rootCont => .rootCont
  | spCont spid => .spCont spid
  | tlCont uuid spid => .tlCont uuid spid

theorem object_inj {a b : ContainerKey} (h : a.object = b.object) : a = b := by
  cases a <;> cases b <;> cases h <;> rfl

/-- The store call of `Registry.cpp`. -/
def storeCall (so : Container) : ContainerKey → StoreCall
  | authToken => .storeAuthToken so
  | rootCont => .storeRoot so
  | spCont spid => .storeSp spid so
  | tlCont uuid spid => .storeTrustletCon uuid spid so

/-- The command id of the read call, and what follows it. -/
def readCmd : ContainerKey → McDrvCmd
  | authToken => .regReadAuthToken
  | rootCont => .regReadRootCont
  | spCont _ => .regReadSpCont
  | tlCont _ _ => .regReadTlCont

/-- The fields that the read call sends behind the command id. -/
def readFields : ContainerKey → List UInt8
  | authToken | rootCont => []
  | spCont spid => littleEndian 4 spid.toNat
  | tlCont uuid spid => uuid.val ++ littleEndian 4 spid.toNat

end ContainerKey

/-! ## Files -/

/-- The files of the registry. -/
abbrev RegistryFiles := Text → Option RegistryFile

/-- What the read functions see of the files. -/
def registry (host : RegistryHost) (files : RegistryFiles) : Registry where
  authToken := files (getAuthTokenFilePath host)
  rootCont := files getRootContFilePath
  spCont := fun spid => files (getSpContFilePath spid)
  tlCont := fun uuid spid => files (getTlContFilePath uuid spid)

/-- `fopen(path, "wb")`, `fwrite` and `fclose`; `persisted` is how much `fwrite` gets to
the file. -/
def writeFile (path : Text) (so : List UInt8) (persisted : Nat) (files : RegistryFiles) :
    RegistryFiles :=
  Function.update files path
    (some { content := so.take persisted, readable := (so.take persisted).length })

/-- `MAX_SO_CONT_SIZE`. -/
def maxSoContSize : Nat := 512

/-- Store a container under a path. -/
def storeContainer (path : Text) (so : List UInt8) (persisted : Nat) (files : RegistryFiles) :
    McResult × RegistryFiles :=
  if so.length > 3 * maxSoContSize then (mcDrvErrInvalidParameter, files)
  else (mcDrvOk, writeFile path so persisted files)

def mcRegistryStoreAuthToken (host : RegistryHost) (so : List UInt8) (persisted : Nat)
    (files : RegistryFiles) : McResult × RegistryFiles :=
  storeContainer (getAuthTokenFilePath host) so persisted files

def mcRegistryStoreRoot (so : List UInt8) (persisted : Nat) (files : RegistryFiles) :
    McResult × RegistryFiles :=
  storeContainer getRootContFilePath so persisted files

def mcRegistryStoreSp (spid : UInt32) (so : List UInt8) (persisted : Nat)
    (files : RegistryFiles) : McResult × RegistryFiles :=
  if spid = 0 then (mcDrvErrInvalidParameter, files)
  else storeContainer (getSpContFilePath spid) so persisted files

def mcRegistryStoreTrustletCon (uuid : List UInt8) (spid : UInt32) (so : List UInt8)
    (persisted : Nat) (files : RegistryFiles) : McResult × RegistryFiles :=
  storeContainer (getTlContFilePath uuid spid) so persisted files

/-! ## The daemon -/

/-- `getData` for a receive that is complete: the bytes, and what stays in the socket. -/
def getData (len : Nat) (stream : List UInt8) : Option (List UInt8 × List UInt8) :=
  if len ≤ stream.length ∧ len < 0x80000000 then some (stream.take len, stream.drop len)
  else none

/-- What the environment decides about a store: whether the peer has the permission,
whether `malloc` succeeds, and how much of the container reaches the file. -/
structure StoreHost where
  permitted : Bool
  allocated : Bool
  persisted : Nat

/-- The switch of `processRegistryWriteData`, for the containers: the fields behind the
size are received and the container is stored. -/
def storeReceived (host : RegistryHost) (cmd : McDrvCmd) (soSize : Nat) (stream : List UInt8)
    (persisted : Nat) (files : RegistryFiles) : Option (McResult × RegistryFiles) :=
  match cmd with
  | .regStoreAuthToken => do
      let (so, _) ← getData soSize stream
      return mcRegistryStoreAuthToken host so persisted files
  | .regWriteRootCont => do
      let (so, _) ← getData soSize stream
      return mcRegistryStoreRoot so persisted files
  | .regWriteSpCont => do
      let (spid, stream) ← getData 4 stream
      let (so, _) ← getData soSize stream
      return mcRegistryStoreSp (UInt32.ofNat (ofLittleEndian spid)) so persisted files
  | .regWriteTlCont => do
      let (uuid, stream) ← getData uuidLength stream
      let (spid, stream) ← getData 4 stream
      let (so, _) ← getData soSize stream
      return mcRegistryStoreTrustletCon uuid (UInt32.ofNat (ofLittleEndian spid)) so persisted
        files
  | _ => none

/-- `processRegistryWriteData`, on what follows the command header: the response id, and
the files. -/
def processRegistryWriteData (host : RegistryHost) (env : StoreHost) (cmd : McDrvCmd)
    (stream : List UInt8) (files : RegistryFiles) : McResult × RegistryFiles :=
  if env.permitted = false then (mcDrvErrInvalidOperation, files)
  else
    match getData 4 stream with
    | none => (mcDrvErrInvalidOperation, files)
    | some (soSize, stream) =>
        if env.allocated = false then (mcDrvErrNoFreeMemory, files)
        else
          (storeReceived host cmd (ofLittleEndian soSize) stream env.persisted files).getD
            (mcDrvErrInvalidOperation, files)

/-- The request that `processRegistryReadData` receives, on what follows the command
header. -/
def receiveRead (cmd : McDrvCmd) (stream : List UInt8) : Option RegistryRead :=
  let spid (stream : List UInt8) : Option UInt32 :=
    (getData 4 stream).map fun received => UInt32.ofNat (ofLittleEndian received.1)
  match cmd with
  | .regReadAuthToken => some .authToken
  | .regReadRootCont => some .rootCont
  | .regReadSpCont => some (.spCont (spid stream))
  | .regReadTlCont =>
      match getData uuidLength stream with
      | none => some (.tlCont none none)
      | some (uuid, stream) => some (.tlCont (some uuid) (spid stream))
  | _ => none

/-! ## The client -/

/-- A store call, with what the environment decides about it and what the memory of its
block held before. -/
structure Store where
  key : ContainerKey
  so : Container
  stale : Memory
  env : StoreHost

/-- The store functions of `Registry.cpp`: the command is written, and the response id
returned.  There is no response to less than a command header. -/
def Store.run (host : RegistryHost) (s : Store) (files : RegistryFiles) :
    McResult × RegistryFiles :=
  if (s.key.storeCall s.so).length < headerSize then (mcDrvErrDaemonSocket, files)
  else
    processRegistryWriteData host s.env (s.key.storeCall s.so).cmd
      (((s.key.storeCall s.so).write s.stale).drop headerSize) files

/-- `readBlobData` behind the write, for receives that are complete: the response id, the
bytes that were read, and `*rlen`. -/
def readBlobData (rlen : Nat) (answer : List UInt8) : RegistryResult :=
  if answer.length < 4 then ⟨mcDrvErrDaemonSocket, [], rlen⟩
  else
    let data := (answer.drop 4).take rlen
    if data = [] then ⟨mcDrvErrDaemonSocket, [], rlen⟩
    else ⟨UInt32.ofNat (ofLittleEndian (answer.take 4)), data, data.length⟩

/-- The read functions of `Registry.cpp`, by a client with the permission; `stale` is what
the stack of the daemon held before. -/
def read (p : PointerWidth) (host : RegistryHost) (key : ContainerKey) (rlen : Nat)
    (stale : Memory) (files : RegistryFiles) : RegistryResult :=
  if rlen = 0 then ⟨mcDrvErrDaemonSocket, [], rlen⟩
  else
    match receiveRead key.readCmd key.readFields with
    | none => ⟨mcDrvErrDaemonSocket, [], rlen⟩
    | some request =>
        readBlobData rlen (processRegistryReadData p (registry host files) true request stale)

/-! ## What the daemon receives -/

theorem getData_load {k n : Nat} (hle : k ≤ n) (hmax : k < 0x80000000) (off : Nat) (m : Memory) :
    getData k (load ⟨off, n⟩ m) = some (load ⟨off, k⟩ m, load ⟨off + k, n - k⟩ m) := by
  have hdrop : (load ⟨off, n⟩ m).drop k = load ⟨off + k, n - k⟩ m := by
    have hrest := @take_drop_load off n k (n - k) (by omega) m
    rwa [List.take_of_length_le (by rw [List.length_drop, length_load])] at hrest
  rw [getData, length_load, if_pos ⟨hle, hmax⟩, take_load hle, hdrop]

theorem getData_of_large {len : Nat} (h : 0x80000000 ≤ len) (stream : List UInt8) :
    getData len stream = none :=
  if_neg fun hlt => absurd hlt.2 (Nat.not_lt_of_le h)

theorem ofNat_littleEndian (n : UInt32) :
    UInt32.ofNat (ofLittleEndian (littleEndian 4 n.toNat)) = n := by
  have hlt : n.toNat < 256 ^ 4 := n.toNat_lt
  rw [ofLittleEndian_littleEndian, Nat.mod_eq_of_lt hlt]
  exact UInt32.ofNat_toNat

/-- The store function of the daemon for a container. -/
def ContainerKey.store (host : RegistryHost) (so : List UInt8) (persisted : Nat)
    (files : RegistryFiles) : ContainerKey → McResult × RegistryFiles
  | authToken => mcRegistryStoreAuthToken host so persisted files
  | rootCont => mcRegistryStoreRoot so persisted files
  | spCont spid => mcRegistryStoreSp spid so persisted files
  | tlCont uuid spid => mcRegistryStoreTrustletCon uuid.val spid so persisted files

theorem sizeOf_storeCmd (key : ContainerKey) (so : Container) :
    CStruct.sizeOf (key.storeCall so).storeCmd = 12 ∨
      CStruct.sizeOf (key.storeCall so).storeCmd = 16 ∨
      CStruct.sizeOf (key.storeCall so).storeCmd = 32 := by
  cases key with
  | authToken | rootCont => exact Or.inl (by decide : CStruct.sizeOf [u32, u32, u8] = 12)
  | spCont => exact Or.inr (Or.inl (by decide : CStruct.sizeOf [u32, u32, u32, u8] = 16))
  | tlCont =>
      exact Or.inr (Or.inr (by decide : CStruct.sizeOf [u32, u32, mcUuid, u32, u8] = 32))

/-- The length of a store command, unless it exceeds its type. -/
theorem length_storeCall (key : ContainerKey) {so : Container}
    (h : so.bytes.length < 0x80000000) :
    (key.storeCall so).length =
      CStruct.sizeOf (key.storeCall so).storeCmd - 1 + so.bytes.length := by
  have hcontainer : (key.storeCall so).length =
      (CStruct.sizeOf (key.storeCall so).storeCmd + so.bytes.length - 1) % 0x100000000 := by
    cases key <;> rfl
  have hstruct := sizeOf_storeCmd key so
  omega

/-- What a store call assigns to a member is what a receive of the member finds. -/
theorem load_member (call : StoreCall) (stale : Memory) :
    ∀ a ∈ call.assignments, load a.region (assign call.assignments stale) = a.bytes :=
  load_assign call.assignments_disjoint stale

/-- Behind the command id and the size, the daemon receives the keys and the container that
the client put there. -/
theorem storeWire_received (host : RegistryHost) (key : ContainerKey) {so : Container}
    (h : so.bytes.length < 0x80000000) (stale : Memory) (persisted : Nat)
    (files : RegistryFiles) :
    storeReceived host (key.storeCall so).cmd so.bytes.length
        (load ⟨8, (key.storeCall so).length - 8⟩ (assign (key.storeCall so).assignments stale))
        persisted files =
      some (key.store host so.bytes persisted files) := by
  have hlength := length_storeCall key h
  have hmember := load_member (key.storeCall so) stale
  generalize (key.storeCall so).length = len at hlength ⊢
  generalize assign (key.storeCall so).assignments stale = m at hmember ⊢
  simp only [StoreCall.assignments, List.forall_mem_append] at hmember
  cases key with
  | authToken =>
      have hstruct : CStruct.sizeOf [u32, u32, u8] = 12 := by decide
      change len = CStruct.sizeOf [u32, u32, u8] - 1 + so.bytes.length at hlength
      simp only [ContainerKey.storeCall, List.forall_mem_singleton] at hmember
      have hso : load ⟨8, so.bytes.length⟩ m = so.bytes := hmember.2
      show storeReceived host .regStoreAuthToken _ _ persisted files = _
      rw [storeReceived, getData_load (by omega) h, hso]
      rfl
  | rootCont =>
      have hstruct : CStruct.sizeOf [u32, u32, u8] = 12 := by decide
      change len = CStruct.sizeOf [u32, u32, u8] - 1 + so.bytes.length at hlength
      simp only [ContainerKey.storeCall, List.forall_mem_singleton] at hmember
      have hso : load ⟨8, so.bytes.length⟩ m = so.bytes := hmember.2
      show storeReceived host .regWriteRootCont _ _ persisted files = _
      rw [storeReceived, getData_load (by omega) h, hso]
      rfl
  | spCont spid =>
      have hstruct : CStruct.sizeOf [u32, u32, u32, u8] = 16 := by decide
      change len = CStruct.sizeOf [u32, u32, u32, u8] - 1 + so.bytes.length at hlength
      simp only [ContainerKey.storeCall, List.forall_mem_cons] at hmember
      obtain ⟨-, hspid, hso, -⟩ := hmember
      have hspid : load ⟨8, 4⟩ m = littleEndian 4 spid.toNat := hspid
      have hso : load ⟨12, so.bytes.length⟩ m = so.bytes := hso
      show storeReceived host .regWriteSpCont _ _ persisted files = _
      rw [storeReceived, getData_load (by omega) (by decide), hspid, Option.bind_eq_bind,
        Option.bind_some]
      dsimp only
      rw [getData_load (by omega) h, Option.bind_some, hso, ofNat_littleEndian]
      rfl
  | tlCont uuid spid =>
      have hstruct : CStruct.sizeOf [u32, u32, mcUuid, u32, u8] = 32 := by decide
      change len = CStruct.sizeOf [u32, u32, mcUuid, u32, u8] - 1 + so.bytes.length at hlength
      simp only [ContainerKey.storeCall, List.forall_mem_cons] at hmember
      obtain ⟨-, hspid, huuid, hso, -⟩ := hmember
      have hspid : load ⟨24, 4⟩ m = littleEndian 4 spid.toNat := hspid
      have huuid : load ⟨8, uuidLength⟩ m = uuid.val := huuid
      have hso : load ⟨28, so.bytes.length⟩ m = so.bytes := hso
      have hlen : uuidLength = 16 := rfl
      show storeReceived host .regWriteTlCont _ _ persisted files = _
      rw [storeReceived, getData_load (by omega) (by decide), huuid, Option.bind_eq_bind,
        Option.bind_some]
      dsimp only
      rw [getData_load (by omega) (by decide)]
      change ((some (load ⟨24, 4⟩ m, _)).bind _) = _
      rw [hspid, Option.bind_some]
      dsimp only
      rw [getData_load (by omega) h]
      change ((some (load ⟨28, so.bytes.length⟩ m, _)).bind _) = _
      rw [Option.bind_some, hso, ofNat_littleEndian]
      rfl

/-! ## What a store call does -/

/-- The environment and the limits of the daemon let the call store its container. -/
structure Store.Accepted (s : Store) : Prop where
  permitted : s.env.permitted = true
  allocated : s.env.allocated = true
  key : s.key ≠ .spCont 0
  size : s.so.bytes.length ≤ 3 * maxSoContSize

theorem store_eq (host : RegistryHost) (so : List UInt8) (persisted : Nat)
    (files : RegistryFiles) (key : ContainerKey) :
    key.store host so persisted files =
      if key = .spCont 0 then (mcDrvErrInvalidParameter, files)
      else storeContainer (key.object.path host) so persisted files := by
  cases key with
  | spCont spid =>
      show mcRegistryStoreSp spid so persisted files = _
      have hkey : ContainerKey.spCont spid = .spCont 0 ↔ spid = 0 := by simp
      simp only [mcRegistryStoreSp, hkey]
      rfl
  | _ => exact (if_neg (by simp)).symm

/-- What follows the command id, as a part of the memory of the block. -/
theorem drop_write (stale : Memory) (call : StoreCall) :
    (call.write stale).drop 4 = load ⟨4, call.length - 4⟩ (assign call.assignments stale) := by
  by_cases h : 4 ≤ call.length
  · have hget := getData_load h (by decide) 0 (assign call.assignments stale)
    rw [getData, length_load, if_pos ⟨h, by decide⟩, Nat.zero_add] at hget
    exact (Prod.mk.inj (Option.some.inj hget)).2
  · rw [List.drop_eq_nil_of_le (by rw [StoreCall.length_write]; omega),
      Nat.sub_eq_zero_of_le (by omega)]
    rfl

/-- A call that is let in stores what the daemon receives behind the size. -/
theorem run_eq_received (host : RegistryHost) {s : Store} (hp : s.env.permitted = true)
    (ha : s.env.allocated = true) (h : 8 ≤ (s.key.storeCall s.so).length)
    (files : RegistryFiles) :
    s.run host files =
      (storeReceived host (s.key.storeCall s.so).cmd s.so.bytes.length
        (load ⟨8, (s.key.storeCall s.so).length - 8⟩
          (assign (s.key.storeCall s.so).assignments s.stale)) s.env.persisted files).getD
        (mcDrvErrInvalidOperation, files) := by
  have hcontainer : (s.key.storeCall s.so).container = s.so := by
    cases s.key <;> rfl
  have hsize := load_member (s.key.storeCall s.so) s.stale _
    (List.mem_append_left _ (List.mem_cons_of_mem _ List.mem_cons_self))
  rw [region_set, (s.key.storeCall s.so).member_header.2, hcontainer] at hsize
  have hread : ofLittleEndian (littleEndian 4 s.so.bytes.length) = s.so.bytes.length :=
    (ofLittleEndian_littleEndian 4 _).trans (Nat.mod_eq_of_lt s.so.fits)
  have hlength : ¬ (s.key.storeCall s.so).length < headerSize :=
    Nat.not_lt_of_le (Nat.le_trans (by decide) h)
  rw [Store.run, if_neg hlength, show headerSize = 4 from rfl, drop_write,
    processRegistryWriteData, getData_load (by omega) (by decide), hp, ha]
  dsimp only
  rw [show load ⟨4, 4⟩ _ = littleEndian 4 s.so.bytes.length from hsize, hread, Nat.sub_sub]
  rfl

/-- A call for less than 2 GiB reaches the store function of the daemon. -/
theorem run_of_small (host : RegistryHost) {s : Store} (hp : s.env.permitted = true)
    (ha : s.env.allocated = true) (h : s.so.bytes.length < 0x80000000) (files : RegistryFiles) :
    s.run host files = s.key.store host s.so.bytes s.env.persisted files := by
  have hlength := length_storeCall s.key h
  have hstruct := sizeOf_storeCmd s.key s.so
  rw [run_eq_received host hp ha (by omega), storeWire_received host s.key h, Option.getD_some]

theorem run_of_large (host : RegistryHost) {s : Store} (hp : s.env.permitted = true)
    (ha : s.env.allocated = true) (h : 0x80000000 ≤ s.so.bytes.length) (files : RegistryFiles) :
    (s.run host files).1 ≠ mcDrvOk ∧ (s.run host files).2 = files := by
  have hfailed : mcDrvErrInvalidOperation ≠ mcDrvOk := by decide
  by_cases hheader : 8 ≤ (s.key.storeCall s.so).length
  · have hnone : ∀ cmd stream, storeReceived host cmd s.so.bytes.length stream s.env.persisted
        files = none := by
      intro cmd stream
      unfold storeReceived
      cases cmd <;> simp [getData_of_large h]
    rw [run_eq_received host hp ha hheader, hnone, Option.getD_none]
    exact ⟨hfailed, rfl⟩
  · have hshort : getData 4 (((s.key.storeCall s.so).write s.stale).drop 4) = none := by
      apply if_neg
      rintro ⟨hle, -⟩
      rw [List.length_drop, StoreCall.length_write] at hle
      omega
    rw [Store.run]
    split
    · exact ⟨(by decide : mcDrvErrDaemonSocket ≠ mcDrvOk), rfl⟩
    · rw [show headerSize = 4 from rfl, processRegistryWriteData, hp, hshort]
      exact ⟨hfailed, rfl⟩

theorem run_accepted (host : RegistryHost) {s : Store} (h : s.Accepted) (files : RegistryFiles) :
    s.run host files =
      (mcDrvOk, writeFile (s.key.object.path host) s.so.bytes s.env.persisted files) := by
  have hsize := h.size
  have hmax : 3 * maxSoContSize < 0x80000000 := by decide
  rw [run_of_small host h.permitted h.allocated (by omega), store_eq, if_neg h.key, storeContainer,
    if_neg (by omega)]

theorem run_of_not_permitted (host : RegistryHost) {s : Store}
    (h : ¬ (s.env.permitted = true ∧ s.env.allocated = true)) (files : RegistryFiles) :
    (s.run host files).1 ≠ mcDrvOk ∧ (s.run host files).2 = files := by
  have hfailed : mcDrvErrInvalidOperation ≠ mcDrvOk := by decide
  rw [Store.run]
  split
  · exact ⟨(by decide : mcDrvErrDaemonSocket ≠ mcDrvOk), rfl⟩
  · rw [processRegistryWriteData]
    split
    · exact ⟨hfailed, rfl⟩
    · rename_i hp
      have ha : s.env.allocated = false :=
        Bool.eq_false_of_not_eq_true fun ha => h ⟨Bool.eq_true_of_not_eq_false hp, ha⟩
      split
      · exact ⟨hfailed, rfl⟩
      · rw [if_pos ha]
        exact ⟨(by decide : mcDrvErrNoFreeMemory ≠ mcDrvOk), rfl⟩

/-- Any other call fails and leaves the files as they are. -/
theorem run_refused (host : RegistryHost) {s : Store} (h : ¬ s.Accepted) (files : RegistryFiles) :
    (s.run host files).1 ≠ mcDrvOk ∧ (s.run host files).2 = files := by
  have hfailed : mcDrvErrInvalidParameter ≠ mcDrvOk := by decide
  by_cases hin : s.env.permitted = true ∧ s.env.allocated = true
  · obtain ⟨hp, ha⟩ := hin
    by_cases hsmall : s.so.bytes.length < 0x80000000
    · rw [run_of_small host hp ha hsmall, store_eq]
      split
      · exact ⟨hfailed, rfl⟩
      · rename_i hkey
        have hsize : s.so.bytes.length > 3 * maxSoContSize := by
          by_contra hle
          exact h ⟨hp, ha, hkey, Nat.le_of_not_lt hle⟩
        rw [storeContainer, if_pos hsize]
        exact ⟨hfailed, rfl⟩
    · exact run_of_large host hp ha (Nat.le_of_not_lt hsmall) files
  · exact run_of_not_permitted host hin files

theorem run_frame (host : RegistryHost) {s : Store} {key : ContainerKey} (h : s.key ≠ key)
    (files : RegistryFiles) :
    (s.run host files).2 (key.object.path host) = files (key.object.path host) := by
  by_cases ha : s.Accepted
  · rw [run_accepted host ha]
    apply Function.update_of_ne
    intro heq
    exact h (ContainerKey.object_inj (RegistryObject.path_inj heq)).symm
  · rw [(run_refused host ha files).2]

/-- Store calls one after the other. -/
def storeAll (host : RegistryHost) (ss : List Store) (files : RegistryFiles) : RegistryFiles :=
  ss.foldl (fun files s => (s.run host files).2) files

theorem storeAll_frame (host : RegistryHost) {ss : List Store} {key : ContainerKey}
    (h : ∀ s ∈ ss, s.key ≠ key) (files : RegistryFiles) :
    storeAll host ss files (key.object.path host) = files (key.object.path host) := by
  induction ss generalizing files with
  | nil => rfl
  | cons s ss ih =>
      have hrest := ih (fun t ht => h t (List.mem_cons_of_mem s ht)) (s.run host files).2
      rw [run_frame host (h s List.mem_cons_self)] at hrest
      exact hrest

/-! ## What a read call returns -/

/-- The request that the daemon takes from a read command. -/
def ContainerKey.request : ContainerKey → RegistryRead
  | authToken => .authToken
  | rootCont => .rootCont
  | spCont spid => .spCont (some spid)
  | tlCont uuid spid => .tlCont (some uuid.val) (some spid)

theorem getData_append {bytes : List UInt8} (h : bytes.length < 0x80000000)
    (rest : List UInt8) : getData bytes.length (bytes ++ rest) = some (bytes, rest) := by
  rw [getData, if_pos ⟨by rw [List.length_append]; omega, h⟩, List.take_left, List.drop_left]

theorem receiveRead_readFields (key : ContainerKey) :
    receiveRead key.readCmd key.readFields = some key.request := by
  have hspid : ∀ spid : UInt32, getData 4 (littleEndian 4 spid.toNat) =
      some (littleEndian 4 spid.toNat, []) := by
    intro spid
    have hget := @getData_append (littleEndian 4 spid.toNat)
      (by rw [length_littleEndian]; decide) []
    rwa [length_littleEndian, List.append_nil] at hget
  cases key with
  | authToken | rootCont => rfl
  | spCont spid =>
      show some (RegistryRead.spCont ((getData 4 (littleEndian 4 spid.toNat)).map _)) = _
      rw [hspid, Option.map_some, ofNat_littleEndian]
      rfl
  | tlCont uuid spid =>
      have huuid := @getData_append uuid.val (by rw [uuid.property]; decide)
        (littleEndian 4 spid.toNat)
      rw [uuid.property] at huuid
      show (match getData uuidLength (uuid.val ++ littleEndian 4 spid.toNat) with
        | none => some (RegistryRead.tlCont none none)
        | some (uuid, stream) => some (RegistryRead.tlCont (some uuid) ((getData 4 stream).map _)))
          = _
      rw [huuid]
      dsimp only
      rw [hspid, Option.map_some, ofNat_littleEndian]
      rfl

/-- The size of the file of a container can be read: a token has the size of its
structure, other containers fit the buffer of the daemon. -/
def FitsRead (key : ContainerKey) (size : Nat) : Prop :=
  match key with
  | .authToken => size = mcSoAuthTokenContSize
  | _ => 0 < size ∧ size ≤ maxDataSize

/-- What a registry function makes of the file of a container. -/
theorem readRequest_of_file (p : PointerWidth) (host : RegistryHost) {key : ContainerKey}
    {file : RegistryFile} {files : RegistryFiles}
    (hfile : files (key.object.path host) = some file) (hkey : key ≠ .spCont 0) :
    readRequest p (registry host files) key.request =
      match key with
      | .authToken => mcRegistryReadAuthToken p { emptyRegistry with authToken := some file }
      | _ => readContainer (some file) maxDataSize := by
  cases key with
  | authToken =>
      have hfound : (registry host files).authToken = some file := hfile
      show mcRegistryReadAuthToken p (registry host files) = _
      unfold mcRegistryReadAuthToken
      rw [hfound]
  | rootCont =>
      have hfound : (registry host files).rootCont = some file := hfile
      show readContainer (registry host files).rootCont maxDataSize = _
      rw [hfound]
  | spCont spid =>
      have hfound : (registry host files).spCont spid = some file := hfile
      have hspid : spid ≠ 0 := fun hzero => hkey (congrArg ContainerKey.spCont hzero)
      show mcRegistryReadSp (registry host files) spid maxDataSize = _
      rw [mcRegistryReadSp, if_neg hspid, hfound]
  | tlCont uuid spid =>
      have hfound : (registry host files).tlCont uuid.val spid = some file := hfile
      show readContainer ((registry host files).tlCont uuid.val spid) maxDataSize = _
      rw [hfound]

theorem fread_whole (so : List UInt8) (size : Nat) :
    RegistryFile.fread ⟨so, so.length⟩ size = so.take size := by
  rw [RegistryFile.fread, List.take_length]

theorem filesize_of_small (p : PointerWidth) {file : RegistryFile}
    (h : file.content.length < 0x80000000) : file.filesize p = file.content.length := by
  cases p with
  | bits32 => exact if_pos h
  | bits64 => exact Nat.mod_eq_of_lt (by omega)

/-- A container that can be read is read as it was stored. -/
theorem readRequest_fits (p : PointerWidth) (host : RegistryHost) {key : ContainerKey}
    {so : List UInt8} {files : RegistryFiles}
    (hfile : files (key.object.path host) = some ⟨so, so.length⟩) (hkey : key ≠ .spCont 0)
    (h : FitsRead key so.length) :
    readRequest p (registry host files) key.request = ⟨mcDrvOk, so, so.length⟩ := by
  rw [readRequest_of_file p host hfile hkey]
  have hcontainer : 0 < so.length ∧ so.length ≤ maxDataSize →
      readContainer (some ⟨so, so.length⟩) maxDataSize = ⟨mcDrvOk, so, so.length⟩ := by
    rintro ⟨hpos, hle⟩
    rw [readContainer, fread_whole, List.take_of_length_le hle]
    exact if_pos hpos
  cases key with
  | authToken =>
      have hsize : so.length = mcSoAuthTokenContSize := h
      have hfilesize : (⟨so, so.length⟩ : RegistryFile).filesize p = so.length := by
        apply filesize_of_small
        show so.length < 0x80000000
        rw [hsize]
        decide
      show mcRegistryReadAuthToken p { emptyRegistry with authToken := some ⟨so, so.length⟩ } = _
      simp only [mcRegistryReadAuthToken, hfilesize, fread_whole, ← hsize, ne_eq, not_true_eq_false,
        if_false, List.take_length]
  | _ => exact hcontainer h

/-- A container that cannot be read is not found, or cut. -/
theorem readRequest_not_fits (p : PointerWidth) (host : RegistryHost) {key : ContainerKey}
    {so : List UInt8} {files : RegistryFiles}
    (hfile : files (key.object.path host) = some ⟨so, so.length⟩) (hkey : key ≠ .spCont 0)
    (hmax : so.length < 0x80000000) (h : ¬ FitsRead key so.length) :
    ∃ result, readRequest p (registry host files) key.request = result ∧
      result.ret ≠ mcDrvErrInvalidOperation ∧ 0 < result.size ∧
      (result.ret ≠ mcDrvOk ∨ result.size < so.length) := by
  rw [readRequest_of_file p host hfile hkey]
  have hcontainer : ¬ (0 < so.length ∧ so.length ≤ maxDataSize) →
      ∃ result, readContainer (some ⟨so, so.length⟩) maxDataSize = result ∧
        result.ret ≠ mcDrvErrInvalidOperation ∧ 0 < result.size ∧
        (result.ret ≠ mcDrvOk ∨ result.size < so.length) := by
    intro hnot
    simp only [readContainer, fread_whole]
    split
    · rename_i hpos
      refine ⟨_, rfl, (by decide : mcDrvOk ≠ mcDrvErrInvalidOperation), hpos, Or.inr ?_⟩
      show (so.take maxDataSize).length < so.length
      rw [List.length_take] at hpos ⊢
      omega
    · exact ⟨_, rfl, (by decide : mcDrvErrInvalidDeviceFile ≠ mcDrvErrInvalidOperation),
        (by decide : 0 < maxDataSize), Or.inl (by decide : mcDrvErrInvalidDeviceFile ≠ mcDrvOk)⟩
  cases key with
  | authToken =>
      have hsize : mcSoAuthTokenContSize ≠ (⟨so, so.length⟩ : RegistryFile).filesize p := by
        rw [filesize_of_small p hmax]
        exact fun heq => h heq.symm
      refine ⟨⟨mcDrvErrOutOfResources, [], mcSoAuthTokenContSize⟩, ?_,
        (by decide : mcDrvErrOutOfResources ≠ mcDrvErrInvalidOperation),
        (by decide : 0 < mcSoAuthTokenContSize),
        Or.inl (by decide : mcDrvErrOutOfResources ≠ mcDrvOk)⟩
      exact if_pos hsize
  | _ => exact hcontainer h

theorem read_of_result (p : PointerWidth) (host : RegistryHost) (key : ContainerKey)
    {rlen : Nat} (hr : 0 < rlen) (stale : Memory) {files : RegistryFiles}
    {result : RegistryResult} (h : readRequest p (registry host files) key.request = result)
    (hret : result.ret ≠ mcDrvErrInvalidOperation) (hsize : 0 < result.size) :
    read p host key rlen stale files =
      ⟨result.ret, (load ⟨0, result.size⟩ (store 0 result.written stale)).take rlen,
        min rlen result.size⟩ := by
  have hanswer : processRegistryReadData p (registry host files) true key.request stale =
      littleEndian 4 result.ret.toNat ++
        load ⟨0, result.size⟩ (store 0 result.written stale) := by
    rw [processRegistryReadData, if_pos rfl, h]
    dsimp only
    rw [if_pos hret]
  have hdata : (load ⟨0, result.size⟩ (store 0 result.written stale)).take rlen ≠ [] := by
    rw [← List.length_pos_iff, List.length_take, length_load]
    exact Nat.lt_min.mpr ⟨hr, hsize⟩
  have hfour : (littleEndian 4 result.ret.toNat).length = 4 := length_littleEndian 4 _
  rw [read, if_neg (Nat.pos_iff_ne_zero.mp hr), receiveRead_readFields]
  dsimp only
  rw [hanswer, readBlobData, if_neg (by rw [List.length_append, hfour]; omega),
    List.drop_left' hfour, List.take_left' hfour, ofNat_littleEndian]
  dsimp only
  rw [if_neg hdata, List.length_take, length_load]

/-! ## Round trips -/

/-- A whole container that fits comes back as it was stored. -/
theorem read_of_file (p : PointerWidth) (host : RegistryHost) {key : ContainerKey}
    {so : List UInt8} {files : RegistryFiles}
    (hfile : files (key.object.path host) = some ⟨so, so.length⟩) (hkey : key ≠ .spCont 0)
    (h : FitsRead key so.length) {rlen : Nat} (hr : so.length ≤ rlen) (stale : Memory) :
    read p host key rlen stale files = ⟨mcDrvOk, so, so.length⟩ := by
  have hpos : 0 < so.length := by
    cases key with
    | authToken => exact Nat.lt_of_lt_of_eq (by decide : 0 < mcSoAuthTokenContSize) h.symm
    | _ => exact h.1
  rw [read_of_result p host key (Nat.lt_of_lt_of_le hpos hr) stale
    (readRequest_fits p host hfile hkey h) (by decide : mcDrvOk ≠ mcDrvErrInvalidOperation) hpos]
  have hload : load ⟨0, so.length⟩ (store 0 so stale) = so :=
    @load_store_self ⟨0, so.length⟩ so rfl stale
  dsimp only
  rw [hload, List.take_of_length_le hr, Nat.min_eq_right hr]

/-- Any other container does not come back, however large the buffer of the client. -/
theorem read_ne_of_not_fits (p : PointerWidth) (host : RegistryHost) {key : ContainerKey}
    {so : List UInt8} {files : RegistryFiles}
    (hfile : files (key.object.path host) = some ⟨so, so.length⟩) (hkey : key ≠ .spCont 0)
    (hmax : so.length < 0x80000000) (h : ¬ FitsRead key so.length) {rlen : Nat} (hr : 0 < rlen)
    (stale : Memory) : read p host key rlen stale files ≠ ⟨mcDrvOk, so, so.length⟩ := by
  obtain ⟨result, hresult, hret, hpos, hbad⟩ := readRequest_not_fits p host hfile hkey hmax h
  rw [read_of_result p host key hr stale hresult hret hpos]
  intro heq
  injection heq with hok hwritten hsize
  rcases hbad with hbad | hbad
  · exact hbad hok
  · omega

/-- After stores of other containers, a read into a buffer that is large enough returns
the container, whatever the stack of the daemon held. -/
def Kept (p : PointerWidth) (host : RegistryHost) (files : RegistryFiles) (s : Store) : Prop :=
  ∀ between : List Store, (∀ t ∈ between, t.key ≠ s.key) →
    ∀ rlen : UInt32, s.so.bytes.length ≤ rlen.toNat → ∀ stale : Memory,
      read p host s.key rlen.toNat stale (storeAll host between (s.run host files).2) =
        ⟨mcDrvOk, s.so.bytes, s.so.bytes.length⟩

/-- A container that is stored as a whole is kept, and a short write is reported. -/
def Honest (p : PointerWidth) (host : RegistryHost) (files : RegistryFiles) (s : Store) :
    Prop :=
  (s.so.bytes.length ≤ s.env.persisted → (s.run host files).1 = mcDrvOk → Kept p host files s) ∧
    (s.env.persisted < s.so.bytes.length → (s.run host files).1 ≠ mcDrvOk)

theorem file_of_accepted (host : RegistryHost) {s : Store} (h : s.Accepted)
    (hwhole : s.so.bytes.length ≤ s.env.persisted) {between : List Store}
    (hother : ∀ t ∈ between, t.key ≠ s.key) (files : RegistryFiles) :
    storeAll host between (s.run host files).2 (s.key.object.path host) =
      some ⟨s.so.bytes, s.so.bytes.length⟩ := by
  rw [storeAll_frame host hother, run_accepted host h]
  show Function.update files _ _ _ = _
  rw [Function.update_self, List.take_of_length_le hwhole]

/-- A whole container is kept exactly when its size can be read. -/
theorem kept_iff (p : PointerWidth) (host : RegistryHost) (files : RegistryFiles) {s : Store}
    (h : s.Accepted) (hwhole : s.so.bytes.length ≤ s.env.persisted) :
    Kept p host files s ↔ FitsRead s.key s.so.bytes.length := by
  have hsize := h.size
  have hmax : 3 * maxSoContSize < 0x80000000 := by decide
  constructor
  · intro hkept
    by_contra hnot
    have hlargest : (0xFFFFFFFF : UInt32).toNat = 0xFFFFFFFF := rfl
    have hread := hkept [] (fun t ht => absurd ht List.not_mem_nil) 0xFFFFFFFF (by omega)
      fun _ => 0
    have hfile := file_of_accepted host h hwhole (fun t ht => absurd ht List.not_mem_nil) files
    exact read_ne_of_not_fits p host hfile h.key (by omega) hnot (by decide) _ hread
  · intro hfits between hother rlen hr stale
    exact read_of_file p host (file_of_accepted host h hwhole hother files) h.key hfits hr stale

/-- A root container of one byte, on a full disk. -/
def lostRoot : Store where
  key := .rootCont
  so := { bytes := [1], fits := by decide }
  stale := fun _ => 0
  env := { permitted := true, allocated := true, persisted := 0 }

end RegistryStore

end Exynos8890.MobiCore
