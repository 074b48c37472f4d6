import Mathlib.Tactic

/-!
# Result codes of the daemon and of the secure world

The 32-bit result codes of the driver API, the result codes and command ids of
the MobiCore control protocol, and the macro that wraps a control-protocol
result into a driver result.

Main results:

- Theorem `makeMcDrvMcpError_ne_ok`: a wrapped result is never the success code.
-/

namespace Exynos8890.MobiCore

/-- `mcResult_t`. -/
abbrev McResult := UInt32

/-! ## Driver results -/

def mcDrvOk : McResult := 0x00
def mcDrvErrOutOfResources : McResult := 0x04
def mcDrvErrUnknown : McResult := 0x06
def mcDrvErrUnknownDevice : McResult := 0x07
def mcDrvErrUnknownSession : McResult := 0x08
def mcDrvErrInvalidOperation : McResult := 0x09
def mcDrvErrNoFreeMemory : McResult := 0x0c
def mcDrvErrSessionPending : McResult := 0x0e
def mcDrvErrDaemonUnreachable : McResult := 0x0f
def mcDrvErrInvalidDeviceFile : McResult := 0x10
def mcDrvErrInvalidParameter : McResult := 0x11
def mcDrvErrKernelModule : McResult := 0x12
def mcDrvErrBulkMapping : McResult := 0x13
def mcDrvErrBulkUnmapping : McResult := 0x14
def mcDrvErrNqFailed : McResult := 0x16
def mcDrvErrWrongPublicKey : McResult := 0x19
def mcDrvErrContainerTypeMismatch : McResult := 0x1a
def mcDrvErrContainerLocked : McResult := 0x1b
def mcDrvErrSpNoChild : McResult := 0x1c
def mcDrvErrTlNoChild : McResult := 0x1d
def mcDrvErrUnwrapRootFailed : McResult := 0x1e
def mcDrvErrUnwrapSpFailed : McResult := 0x1f
def mcDrvErrUnwrapTrustletFailed : McResult := 0x20
def mcDrvErrDaemonDeviceNotOpen : McResult := 0x21
def mcDrvErrTaHeaderError : McResult := 0x21
def mcDrvErrTaAttestationError : McResult := 0x22

def mcDrvErrDeviceAlreadyOpen : McResult := mcDrvErrInvalidOperation
def mcDrvErrSocketConnect : McResult := mcDrvErrDaemonUnreachable
def mcDrvErrSocketWrite : McResult := mcDrvErrDaemonUnreachable
def mcDrvErrSocketRead : McResult := mcDrvErrDaemonUnreachable
def mcDrvErrSocketLength : McResult := mcDrvErrDaemonUnreachable
def mcDrvErrDaemonSocket : McResult := mcDrvErrDaemonUnreachable
def mcDrvErrNullPointer : McResult := mcDrvErrInvalidParameter
def mcDrvErrTciTooBig : McResult := mcDrvErrInvalidParameter
def mcDrvErrInvalidLength : McResult := mcDrvErrNoFreeMemory
def mcDrvErrBufferAlreadyMapped : McResult := mcDrvErrBulkMapping
def mcDrvErrBlkBuffNotFound : McResult := mcDrvErrBulkUnmapping
def mcDrvErrDaemonKmodError : McResult := mcDrvErrDaemonUnreachable
def mcDrvErrDaemonMciError : McResult := mcDrvErrDaemonUnreachable
def mcDrvErrMcpError : McResult := mcDrvErrDaemonUnreachable
def mcDrvErrTrustletNotFound : McResult := mcDrvErrInvalidDeviceFile
def mcDrvErrTciGreaterThanWsm : McResult := mcDrvErrInvalidParameter
def mcDrvErrWsmNotFound : McResult := mcDrvErrInvalidParameter
def mcDrvErrDaemonWsmHandleNotFound : McResult := mcDrvErrWsmNotFound
def mcDrvErrDaemonUnknownSession : McResult := mcDrvErrUnknownSession

/-- `MAKE_MC_DRV_MCP_ERROR`: put a control-protocol result above the major code. -/
def makeMcDrvMcpError (mcpCode : McResult) : McResult :=
  mcDrvErrMcpError ||| ((mcpCode &&& 0x000FFFFF) <<< 8)

/-- `MAKE_MC_DRV_KMOD_WITH_ERRNO`. -/
def makeMcDrvKmodWithErrno (theErrno : UInt32) : McResult :=
  mcDrvErrKernelModule ||| ((theErrno &&& 0x0000FFFF) <<< 16)

/-- A failure of the kernel module is an error whatever `errno` says. -/
theorem makeMcDrvKmodWithErrno_ne_ok (theErrno : UInt32) :
    makeMcDrvKmodWithErrno theErrno ≠ mcDrvOk := by
  intro h
  have hmajor := (UInt32.or_eq_zero_iff.mp h).1
  exact absurd hmajor (by decide)

/-- `MC_DRV_ERROR_MAJOR`. -/
def mcDrvErrorMajor (ecode : McResult) : McResult :=
  ecode &&& 0xFF

/-- `MC_DRV_ERROR_MCP`. -/
def mcDrvErrorMcp (ecode : McResult) : McResult :=
  (ecode >>> 8) &&& 0xFF

/-- A wrapped control-protocol result is an error whatever it wraps. -/
theorem makeMcDrvMcpError_ne_ok (mcpCode : McResult) :
    makeMcDrvMcpError mcpCode ≠ mcDrvOk := by
  intro h
  have hmajor := (UInt32.or_eq_zero_iff.mp h).1
  exact absurd hmajor (by decide)

/-! ## Control protocol -/

def mcMcpRetOk : McResult := 0
def mcMcpRetErrWrongPublicKey : McResult := 16
def mcMcpRetErrContainerTypeMismatch : McResult := 17
def mcMcpRetErrContainerLocked : McResult := 18
def mcMcpRetErrSpNoChild : McResult := 19
def mcMcpRetErrTlNoChild : McResult := 20
def mcMcpRetErrUnwrapRootFailed : McResult := 21
def mcMcpRetErrUnwrapSpFailed : McResult := 22
def mcMcpRetErrUnwrapTrustletFailed : McResult := 23
def mcMcpRetErrCloseTaskFailed : McResult := 28

def mcMcpCmdOpenSession : UInt32 := 0x01
def mcMcpCmdCloseSession : UInt32 := 0x03
def mcMcpCmdMap : UInt32 := 0x04
def mcMcpCmdUnmap : UInt32 := 0x05
def mcMcpCmdLoadToken : UInt32 := 0x0B
def mcMcpCmdCheckLoadTa : UInt32 := 0x0C

/-- `FLAG_RESPONSE`: set in the id of a response. -/
def flagResponse : UInt32 := 0x80000000

def wsmInvalid : UInt32 := 0
def wsmContiguous : UInt32 := 1
def wsmL2 : UInt32 := 2

/-- `SID_MCP`: the session id of the control protocol itself. -/
def sidMcp : UInt32 := 0

/-- `MC_DEVICE_ID_DEFAULT`: the only device id the daemon serves. -/
def mcDeviceIdDefault : UInt32 := 0

end Exynos8890.MobiCore
