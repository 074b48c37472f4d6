import Exynos8890.Library.KeyedList
import Exynos8890.MobiCore.ResultCodes

/-!
# Sessions of the client library

The session object that the client library keeps for an open session: the list of
the buffers that the client has mapped into it.  What the kernel module answers is
an argument of the operation that asks it.

Main results:

- Definitions `addBulkBuf`, `getBufHandle` and `removeBulkBuf`.
- Theorem `addBulkBuf_eq_ok`: what a successful registration says about the list.
-/

namespace Exynos8890.MobiCore.ClientLib

/-- `BulkBufferDescriptor`. -/
structure BulkBufferDescriptor where
  virtAddr : UInt64
  sVirtualAddr : UInt64
  len : UInt32
  handle : UInt32
deriving DecidableEq, Repr

/-- `Session`. -/
structure Session where
  sessionId : UInt32
  bulkBufferDescriptors : List BulkBufferDescriptor
deriving DecidableEq, Repr

namespace Session

/-- `Session::Session`. -/
def new (sessionId : UInt32) : Session where
  sessionId := sessionId
  bulkBufferDescriptors := []

/-- `Session::addBulkBuf` for a descriptor that is registered already. -/
def pushBulkBuf (blkBuf : BulkBufferDescriptor) (session : Session) : Session :=
  { session with bulkBufferDescriptors := session.bulkBufferDescriptors ++ [blkBuf] }

@[simp]
theorem pushBulkBuf_sessionId (blkBuf : BulkBufferDescriptor) (session : Session) :
    (session.pushBulkBuf blkBuf).sessionId = session.sessionId :=
  rfl

/-- `Session::addBulkBuf`; `registered` is the answer of `registerWsmL2`.  The secure
virtual address is not known yet. -/
def addBulkBuf (buf : UInt64) (len : UInt32) (registered : Except McResult UInt32)
    (session : Session) : Except McResult (BulkBufferDescriptor × Session) :=
  if ∃ blkBuf ∈ session.bulkBufferDescriptors, blkBuf.virtAddr = buf then
    .error mcDrvErrBufferAlreadyMapped
  else
    match registered with
    | .error ret => .error ret
    | .ok handle =>
        let blkBuf := { virtAddr := buf, sVirtualAddr := 0, len := len, handle := handle }
        .ok (blkBuf, session.pushBulkBuf blkBuf)

/-- The search of `Session::getBufHandle`. -/
def findBulkBuf (sVirtAddr : UInt64) (sVirtualLen : UInt32) (session : Session) :
    Option BulkBufferDescriptor :=
  session.bulkBufferDescriptors.find? fun blkBuf =>
    blkBuf.sVirtualAddr = sVirtAddr ∧ blkBuf.len = sVirtualLen

/-- `Session::getBufHandle`: 0 stands for a failure. -/
def getBufHandle (sVirtAddr : UInt64) (sVirtualLen : UInt32) (session : Session) : UInt32 :=
  match session.findBulkBuf sVirtAddr sVirtualLen with
  | none => 0
  | some blkBuf => blkBuf.handle

/-- `Session::removeBulkBuf`; `unregistered` is the answer of `unregisterWsmL2`.  The
descriptor leaves the list whatever the kernel module answers. -/
def removeBulkBuf (virtAddr : UInt64) (unregistered : McResult) (session : Session) :
    McResult × Session :=
  match KeyedList.lookup BulkBufferDescriptor.virtAddr virtAddr
      session.bulkBufferDescriptors with
  | none => (mcDrvErrBlkBuffNotFound, session)
  | some _ =>
      (unregistered,
        { session with
          bulkBufferDescriptors :=
            KeyedList.delete BulkBufferDescriptor.virtAddr virtAddr
              session.bulkBufferDescriptors })

/-! ## What the operations say about the list -/

/-- A buffer is added at the end, and only when its address is not in the list. -/
theorem addBulkBuf_eq_ok {buf : UInt64} {len : UInt32} {registered : Except McResult UInt32}
    {blkBuf : BulkBufferDescriptor} {session t : Session}
    (h : session.addBulkBuf buf len registered = .ok (blkBuf, t)) :
    buf ∉ session.bulkBufferDescriptors.map BulkBufferDescriptor.virtAddr ∧
      registered = .ok blkBuf.handle ∧ blkBuf.virtAddr = buf ∧
        t = session.pushBulkBuf blkBuf := by
  unfold addBulkBuf at h
  split at h
  · cases h
  · rename_i hnew
    cases registered with
    | error ret => cases h
    | ok handle =>
        cases h
        constructor
        · intro hmem
          obtain ⟨listed, hlisted, hbuf⟩ := List.mem_map.mp hmem
          exact hnew ⟨listed, hlisted, hbuf⟩
        · exact ⟨rfl, rfl, rfl⟩

end Session

end Exynos8890.MobiCore.ClientLib
