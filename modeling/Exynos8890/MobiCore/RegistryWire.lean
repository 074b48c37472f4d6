import Exynos8890.MobiCore.DriverDaemon.ClientSocket

/-!
# The store calls of the registry client

The registry library writes a store command as one block: a structure whose last member
is the first byte of the container, `sizeof` of it plus the size minus one bytes.  The
daemon receives the fields one by one and then as many bytes as `soSize` announces.

Main results:

- Definition `StoreCall.write`: the bytes a call writes, over what its block held before.
- Theorem `agrees_iff`: they are the command that the daemon receives exactly for
  `mcRegistryStoreTABlob`, whose structure ends in a flexible array.
- Theorem `not_agrees`: after `mcRegistryStoreAuthToken` three bytes stay in the socket.
-/

namespace Exynos8890.MobiCore

open CStruct StreamReader ClientSocket

/-! ## Calls -/

/-- A container or blob: a buffer and its size, a `uint32_t`. -/
structure Container where
  bytes : List UInt8
  fits : bytes.length < 0x100000000

/-- The store calls of `Registry.cpp`. -/
inductive StoreCall where
  | storeAuthToken (so : Container)
  | storeRoot (so : Container)
  | storeSp (spid : UInt32) (so : Container)
  | storeTrustletCon (uuid : { bytes : List UInt8 // bytes.length = uuidLength })
      (spid : UInt32) (so : Container)
  | storeTABlob (spid : UInt32) (blob : Container)

namespace StoreCall

def cmd : StoreCall → McDrvCmd
  | storeAuthToken _ => .regStoreAuthToken
  | storeRoot _ => .regWriteRootCont
  | storeSp _ _ => .regWriteSpCont
  | storeTrustletCon _ _ _ => .regWriteTlCont
  | storeTABlob _ _ => .regStoreTaBlob

/-- `so`, or `blob`. -/
def container : StoreCall → Container
  | storeAuthToken so | storeRoot so | storeSp _ so | storeTrustletCon _ _ so => so
  | storeTABlob _ blob => blob

/-- `storeCmd` of the call.  The last member is one byte, or a flexible array. -/
def storeCmd : StoreCall → List CType
  | storeAuthToken _ | storeRoot _ => [u32, u32, u8]
  | storeSp _ _ => [u32, u32, u32, u8]
  | storeTrustletCon _ _ _ => [u32, u32, mcUuid, u32, u8]
  | storeTABlob _ _ => [u32, u32, u32, byteArray 0]

/-- The length that is passed to `writeBlobData`, a `uint32_t`. -/
def length (call : StoreCall) : Nat :=
  match call with
  | storeTABlob _ blob => (CStruct.sizeOf call.storeCmd + blob.bytes.length) % 0x100000000
  | _ => (CStruct.sizeOf call.storeCmd + call.container.bytes.length - 1) % 0x100000000

/-- `memcpy` to the last member. -/
def copySo (call : StoreCall) (i : Nat) : Assignment where
  region := ⟨(member call.storeCmd i).off, call.container.bytes.length⟩
  bytes := call.container.bytes
  fits := rfl

/-- `commandId` and `soSize`. -/
def header (call : StoreCall) : List Assignment :=
  [(member call.storeCmd 0).set call.cmd.commandId,
    (member call.storeCmd 1).set call.container.bytes.length]

/-- The assignments of the call, in its order. -/
def assignments (call : StoreCall) : List Assignment :=
  call.header ++
    match call with
    | storeAuthToken _ | storeRoot _ => [call.copySo 2]
    | storeSp spid _ | storeTABlob spid _ =>
        [(member call.storeCmd 2).set spid.toNat, call.copySo 3]
    | storeTrustletCon uuid spid so =>
        [(member call.storeCmd 3).set spid.toNat,
          ⟨member (storeTrustletCon uuid spid so).storeCmd 2, uuid.val, uuid.property⟩,
          call.copySo 4]

/-- What the call hands to `send`; `stale` is what its block held before. -/
def write (stale : Memory) (call : StoreCall) : List UInt8 :=
  load ⟨0, call.length⟩ (assign call.assignments stale)

@[simp]
theorem length_write (stale : Memory) (call : StoreCall) :
    (call.write stale).length = call.length :=
  length_load _ _

theorem assignments_disjoint (call : StoreCall) :
    (call.assignments.map fun a => a.region).Pairwise Region.Disjoint := by
  cases call <;> simp +decide [assignments, header, copySo, Region.Disjoint, storeCmd]

theorem member_header (call : StoreCall) :
    member call.storeCmd 0 = ⟨0, 4⟩ ∧ member call.storeCmd 1 = ⟨headerSize, 4⟩ := by
  cases call <;> exact ⟨rfl, rfl⟩

/-- The first two members, if they are written, are the command id and the size. -/
theorem write_header {call : StoreCall} (stale : Memory) (next : List UInt8)
    (h : headerSize + 4 ≤ call.length) :
    ofLittleEndian ((call.write stale ++ next).take headerSize) = call.cmd.commandId ∧
      (Size.announced headerSize).eval (call.write stale ++ next) =
        call.container.bytes.length := by
  have hheader : ∀ a ∈ call.header, load a.region (assign call.assignments stale) = a.bytes :=
    fun a ha => load_assign call.assignments_disjoint stale a (List.mem_append_left _ ha)
  obtain ⟨hid, hsize⟩ := call.member_header
  have hidbytes := hheader _ List.mem_cons_self
  have hsizebytes := hheader _ (List.mem_cons_of_mem _ List.mem_cons_self)
  rw [region_set, hid] at hidbytes
  rw [region_set, hsize] at hsizebytes
  have hlength := length_write stale call
  constructor
  · have htake := @take_drop_load 0 call.length 0 4 (by omega) (assign call.assignments stale)
    rw [List.take_append_of_le_length (by omega)]
    rw [List.drop_zero, Nat.zero_add, hidbytes] at htake
    show ofLittleEndian ((call.write stale).take 4) = _
    rw [write, htake]
    exact (ofLittleEndian_littleEndian 4 _).trans (Nat.mod_eq_of_lt call.cmd.commandId_lt)
  · have htake := @take_drop_load 0 call.length headerSize 4 h (assign call.assignments stale)
    rw [Size.eval, List.drop_append_of_le_length (by omega),
      List.take_append_of_le_length (by rw [List.length_drop]; omega)]
    rw [Nat.zero_add, hsizebytes] at htake
    rw [write, htake]
    exact (ofLittleEndian_littleEndian 4 _).trans (Nat.mod_eq_of_lt call.container.fits)

end StoreCall

/-! ## Agreement -/

/-- A round in which every receive is complete and every guard passes. -/
def Round.Complete (l : Round) : Prop :=
  l.mcFault = false ∧ (∀ r ∈ l.receives, r = some 0) ∧ l.host.permitted = true ∧
    l.host.allocated = true ∧ l.host.blobAllocated = true

/-- Whatever the client sends next, the daemon receives the command that the call writes,
and nothing else. -/
def Agrees (p : PointerWidth) (stale : Memory) (call : StoreCall) : Prop :=
  ∀ (next : List UInt8) (l : Round), Round.Complete l →
    handleConnection p (accept (call.write stale ++ next)) l =
      { unread := next
        handled := [⟨call.cmd, headerSize, call.write stale, .received⟩]
        status := .listening }

/-- The call stores a blob that one receive can return. -/
def StoreCall.Blob : StoreCall → Prop
  | .storeTABlob _ blob => blob.bytes.length ≤ maxReceive
  | _ => False

/-- What the daemon receives for a store command: the fixed fields, and as much as they
announce. -/
theorem commandLength_store (p : PointerWidth) (call : StoreCall) (bytes : List UInt8) :
    commandLength p call.cmd bytes =
      CStruct.sizeOf (commandStruct p call.cmd) + (Size.announced headerSize).eval bytes := by
  cases call <;> rfl

/-- The lengths agree for blobs alone: the fixed part of the other structures is four
bytes shorter than the structures. -/
theorem length_eq_iff (p : PointerWidth) (call : StoreCall) :
    call.length = CStruct.sizeOf (commandStruct p call.cmd) + call.container.bytes.length ↔
      ∃ spid blob, call = .storeTABlob spid blob ∧ 12 + blob.bytes.length < 0x100000000 := by
  have hfits := call.container.fits
  have hnot : ∀ cmd ts : List CType, CStruct.sizeOf cmd = CStruct.sizeOf ts + 4 →
      CStruct.sizeOf ts < 0x100000000 →
      (CStruct.sizeOf cmd + call.container.bytes.length - 1) % 0x100000000 ≠
        CStruct.sizeOf ts + call.container.bytes.length := by
    intro cmd ts hcmd hts
    omega
  cases call with
  | storeAuthToken so | storeRoot so =>
      constructor
      · exact fun h => absurd h (hnot [u32, u32, u8] [u32, u32] (by decide) (by decide))
      · rintro ⟨_, _, h, _⟩
        cases h
  | storeSp spid so =>
      constructor
      · exact fun h => absurd h (hnot [u32, u32, u32, u8] [u32, u32, u32] (by decide) (by decide))
      · rintro ⟨_, _, h, _⟩
        cases h
  | storeTrustletCon uuid spid so =>
      constructor
      · exact fun h => absurd h
          (hnot [u32, u32, mcUuid, u32, u8] [u32, u32, mcUuid, u32] (by decide) (by decide))
      · rintro ⟨_, _, h, _⟩
        cases h
  | storeTABlob spid blob =>
      have hstruct : CStruct.sizeOf [u32, u32, u32, byteArray 0] = 12 := by decide
      have hfixed : CStruct.sizeOf [u32, u32, u32] = 12 := by decide
      change (CStruct.sizeOf [u32, u32, u32, byteArray 0] + blob.bytes.length) % 0x100000000 =
        CStruct.sizeOf [u32, u32, u32] + blob.bytes.length ↔ _
      rw [hstruct, hfixed]
      constructor
      · intro h
        refine ⟨spid, blob, rfl, ?_⟩
        omega
      · rintro ⟨_, _, h, hlt⟩
        cases h
        exact Nat.mod_eq_of_lt hlt

theorem agrees_storeTABlob {p : PointerWidth} {stale : Memory} {spid : UInt32}
    {blob : Container} (hblob : blob.bytes.length ≤ maxReceive) :
    Agrees p stale (.storeTABlob spid blob) := by
  intro next l hl
  obtain ⟨hfault, hwhole, hpermitted, hallocated, hblobAllocated⟩ := hl
  set call := StoreCall.storeTABlob spid blob with hcall
  have hmax : maxReceive + 12 < 0x100000000 := by decide
  have hfixed : CStruct.sizeOf (commandStruct p .regStoreTaBlob) = 12 := by
    show CStruct.sizeOf [u32, u32, u32] = 12
    decide
  have hlength : call.length = 12 + blob.bytes.length := by
    rw [(length_eq_iff p call).mpr ⟨spid, blob, rfl, by omega⟩]
    show CStruct.sizeOf (commandStruct p .regStoreTaBlob) + blob.bytes.length = _
    rw [hfixed]
  have height : headerSize + 4 ≤ call.length := by
    unfold headerSize
    omega
  obtain ⟨hid, hsize⟩ := StoreCall.write_header stale next height
  have htotal : (call.write stale ++ next).length = call.length + next.length := by
    rw [List.length_append, StoreCall.length_write]
  have hcommand : commandLength p .regStoreTaBlob (call.write stale ++ next) = call.length := by
    rw [hlength, ← hfixed]
    show _ + (Size.announced headerSize).eval (call.write stale ++ next) = _
    rw [hsize]
    rfl
  have hofId : McDrvCmd.ofId (ofLittleEndian ((call.write stale ++ next).take headerSize)) =
      some .regStoreTaBlob := by
    rw [hid]
    exact McDrvCmd.ofId_commandId .regStoreTaBlob
  have hheader : headerSize ≤ (call.write stale ++ next).length := by omega
  have htake : ((call.write stale ++ next).take headerSize).length = headerSize := by
    rw [List.length_take, Nat.min_eq_left hheader]
  have hproper : (storeTaBlob l.host).Proper headerSize (call.write stale ++ next) := by
    unfold Plan.Proper storeTaBlob
    rw [hpermitted, hallocated, hblobAllocated]
    refine ⟨Or.inl rfl, ?_, Or.inl rfl, ?_, Or.inl rfl, ?_, trivial⟩
    · exact Nat.le_trans (Nat.min_le_left _ _) (show 4 ≤ maxReceive by decide)
    · exact Nat.le_trans (Nat.min_le_left _ _) (show 4 ≤ maxReceive by decide)
    · rw [hsize]
      exact Nat.le_trans (Nat.min_le_left _ _) hblob
  have hreceives : Whole l.receives.tail (receiveCount (storeTaBlob l.host).parts) := by
    constructor
    · intro r hr
      rw [hwhole r (List.mem_of_mem_tail hr)]
      exact Option.some_ne_none 0
    · intro r hr
      exact hwhole r (List.mem_of_mem_tail (List.mem_of_mem_take hr))
  have hhead : l.receives.headD (some 0) = some 0 := by
    cases hl : l.receives with
    | nil => rfl
    | cons r rs => exact hwhole r (hl ▸ List.mem_cons_self)
  have hspec := @Plan.run_spec (plan p l.host .regStoreTaBlob)
    ((call.write stale ++ next).take headerSize)
    ⟨(call.write stale ++ next).drop headerSize, l.receives.tail⟩ (call.write stale ++ next)
    (List.take_append_drop headerSize _) (by rw [htake]; exact plan_known p l.host .regStoreTaBlob)
    (by rw [htake]; exact hproper) hreceives
  rw [htake, plan_extent, hcommand, if_pos (by omega),
    List.drop_left' (StoreCall.length_write stale call)] at hspec
  obtain ⟨-, hunread, houtcome⟩ := hspec
  have hreceived : ((plan p l.host .regStoreTaBlob).run
      ((call.write stale ++ next).take headerSize)
      ⟨(call.write stale ++ next).drop headerSize, l.receives.tail⟩).outcome = .received := by
    rcases houtcome with houtcome | houtcome
    · exact houtcome
    · refine absurd houtcome ?_
      rw [Plan.run_of_rest rfl]
      apply runParts_ne_refused
      simp [plan, storeTaBlob, getData, hpermitted, hallocated, hblobAllocated]
  rw [handleConnection_dispatch hfault hheader hhead hofId]
  dsimp only [accept]
  rw [hunread, hreceived, List.length_append, Nat.add_sub_cancel, List.take_left,
    List.nil_append]
  rfl

/-- The bytes that a call writes are the command that the daemon receives, whatever
follows, exactly for blobs that one receive can return. -/
theorem agrees_iff (p : PointerWidth) (stale : Memory) (call : StoreCall) :
    Agrees p stale call ↔ call.Blob := by
  constructor
  · intro h
    have hrun := h [] (roundWith []) ⟨rfl, fun _ hr => absurd hr List.not_mem_nil, rfl, rfl, rfl⟩
    obtain ⟨hproper, hlength⟩ := handled_received (congrArg ClientConnection.handled hrun) rfl rfl
    rw [StoreCall.length_write, commandLength_store] at hlength
    have hfixed : headerSize + 4 ≤ CStruct.sizeOf (commandStruct p call.cmd) := by
      cases call <;> simp +decide [StoreCall.cmd, commandStruct]
    obtain ⟨-, hsize⟩ := StoreCall.write_header stale []
      (Nat.le_trans hfixed (hlength ▸ Nat.le_add_right _ _))
    simp only [accept] at hlength hproper
    rw [hsize] at hlength
    obtain ⟨spid, blob, rfl, hlt⟩ := (length_eq_iff p call).mp hlength
    obtain ⟨-, -, -, -, -, hmax, -⟩ := hproper
    have hstruct : CStruct.sizeOf (commandStruct p (StoreCall.storeTABlob spid blob).cmd) =
        headerSize + 4 + 4 := by
      show CStruct.sizeOf [u32, u32, u32] = _
      decide
    have hparts : (Size.bytes 4).eval (StoreCall.write stale (.storeTABlob spid blob) ++ []) = 4 :=
      rfl
    rw [hsize, hparts, List.append_nil, StoreCall.length_write, hlength, hstruct,
      Nat.add_sub_cancel_left, Nat.min_self] at hmax
    exact hmax
  · intro h
    cases call with
    | storeTABlob spid blob => exact agrees_storeTABlob h
    | _ => exact absurd h not_false

/-- An authentication token of no bytes. -/
def emptyToken : StoreCall :=
  .storeAuthToken { bytes := [], fits := by decide }

/-- After an empty token three bytes stay in the socket. -/
theorem not_agrees :
    ¬ ∀ (p : PointerWidth) (stale : Memory) (call : StoreCall), Agrees p stale call := by
  intro h
  have hrun := h .bits64 (fun _ => 0) emptyToken [] (roundWith [])
    ⟨rfl, fun _ hr => absurd hr List.not_mem_nil, rfl, rfl, rfl⟩
  have hleft : (handleConnection .bits64 (accept (emptyToken.write (fun _ => 0) ++ []))
      (roundWith [])).unread = [0, 0, 0] := by
    decide
  rw [hrun] at hleft
  cases hleft

end Exynos8890.MobiCore
