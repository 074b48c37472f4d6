import Exynos8890.Library.CStruct
import Exynos8890.RootPa.ContainerStore

/-!
# Messages of the content manager

The agent and the content manager trustlet share two buffers.  The smaller one has the header of
a command or a response and the places of its elements, which lie in the larger one.  How large
that has to be depends on the command.

Main results:

- Definition `getTotalMappedBufferSize`: the size that a command is given at first.
- Definition `getNeededBytesFromResponse`: what the trustlet asks for, or an error value.
-/

namespace Exynos8890.RootPa

namespace CmTrustlet

open CStruct MobiCore

/-! ## Commands -/

/-- The number of a command. -/
def toWord : CmpCommandId → UInt32
  | .authenticate => 0
  | .beginRootAuthentication => 1
  | .beginSocAuthentication => 2
  | .beginSpAuthentication => 3
  | .generateAuthToken => 4
  | .getVersion => 5
  | .rootContLockByRoot => 7
  | .rootContRegisterActivate => 9
  | .rootContUnlockByRoot => 10
  | .rootContUnregister => 11
  | .spContActivate => 12
  | .spContLockByRoot => 13
  | .spContLockBySp => 14
  | .spContRegister => 15
  | .spContRegisterActivate => 16
  | .spContUnlockByRoot => 17
  | .spContUnlockBySp => 18
  | .spContUnregister => 19
  | .tltContActivate => 20
  | .tltContLockBySp => 21
  | .tltContPersonalize => 22
  | .tltContRegister => 23
  | .tltContRegisterActivate => 24
  | .tltContUnlockBySp => 25
  | .tltContUnregister => 26
  | .getSuid => 27
  | .authenticateTerminate => 28

/-- `sizeof` of the containers. -/
def sizeOfAuthTokenContainer : UInt32 := 152

def sizeOfRootContainer : UInt32 := 220

def sizeOfSpContainer : UInt32 := 396

def sizeOfTltContainer : UInt32 := 192

/-- `cmpSizes_t`. -/
structure CmpSizes where
  cmdRspSize : UInt32
  cmdContainerSize : UInt32
  rspContainerSize : UInt32
deriving DecidableEq, Repr

/-- `sizeTable_`, which has every command. -/
def getCmpSizeInfo : CmpCommandId → CmpSizes
  | .authenticate => ⟨132, 0, 0⟩
  | .beginRootAuthentication => ⟨72, sizeOfRootContainer, 0⟩
  | .beginSocAuthentication => ⟨72, sizeOfAuthTokenContainer, 0⟩
  | .beginSpAuthentication => ⟨76, sizeOfRootContainer + sizeOfSpContainer, 0⟩
  | .generateAuthToken => ⟨312, 0, 0⟩
  | .getVersion => ⟨108, 0, 0⟩
  | .rootContLockByRoot => ⟨272, 0, sizeOfRootContainer⟩
  | .rootContRegisterActivate => ⟨272, 0, sizeOfRootContainer⟩
  | .rootContUnlockByRoot => ⟨272, 0, sizeOfRootContainer⟩
  | .rootContUnregister => ⟨84, 0, 0⟩
  | .spContActivate => ⟨448, 0, sizeOfSpContainer⟩
  | .spContLockByRoot => ⟨448, sizeOfSpContainer, sizeOfSpContainer⟩
  | .spContLockBySp => ⟨448, 0, sizeOfSpContainer⟩
  | .spContRegister => ⟨672, 0, sizeOfRootContainer + sizeOfSpContainer⟩
  | .spContRegisterActivate => ⟨672, 0, sizeOfRootContainer + sizeOfSpContainer⟩
  | .spContUnlockByRoot => ⟨448, sizeOfSpContainer, sizeOfSpContainer⟩
  | .spContUnlockBySp => ⟨448, 0, sizeOfSpContainer⟩
  | .spContUnregister => ⟨272, 0, sizeOfRootContainer⟩
  | .tltContActivate => ⟨244, sizeOfTltContainer, sizeOfTltContainer⟩
  | .tltContLockBySp => ⟨244, sizeOfTltContainer, sizeOfTltContainer⟩
  | .tltContPersonalize => ⟨2220, sizeOfTltContainer, 0⟩
  | .tltContRegister => ⟨644, 0, sizeOfSpContainer + sizeOfTltContainer⟩
  | .tltContRegisterActivate => ⟨644, 0, sizeOfSpContainer + sizeOfTltContainer⟩
  | .tltContUnlockBySp => ⟨244, sizeOfTltContainer, sizeOfTltContainer⟩
  | .tltContUnregister => ⟨448, 0, sizeOfSpContainer⟩
  | .getSuid => ⟨24, 0, 0⟩
  | .authenticateTerminate => ⟨48, 0, 0⟩

def bigger (first second : UInt32) : UInt32 :=
  if first > second then first else second

/-- `getTotalMappedBufferSize`, for a command of some length. -/
def getTotalMappedBufferSize (commandId : CmpCommandId) (length : UInt32) : UInt32 :=
  let sizes := getCmpSizeInfo commandId
  bigger sizes.cmdRspSize length + bigger sizes.cmdContainerSize sizes.rspContainerSize

/-! ## The header of a response -/

/-- A 32-bit word of a buffer. -/
def word (m : Memory) (off : Nat) : UInt32 :=
  UInt32.ofNat (value ⟨off, 4⟩ m)

def cmpVersion : UInt32 := 0x00030000

def getRspCmpVersion (wsmP : Memory) : UInt32 :=
  word wsmP 0

def getRspCmpId (wsmP : Memory) : UInt32 :=
  word wsmP 4

/-- `RSP_ID_MASK`. -/
def rspIdMask : UInt32 := 0x80000000

/-- `isValidResponse`: the version, and an identifier with the bit of responses. -/
def isValidResponse (wsmP : Memory) : Bool :=
  getRspCmpVersion wsmP = cmpVersion ∧ getRspCmpId wsmP &&& rspIdMask = rspIdMask

def isValidResponseTo (commandId : CmpCommandId) (wsmP : Memory) : Bool :=
  isValidResponse wsmP ∧ getRspCmpId wsmP = toWord commandId ||| rspIdMask

/-- `getNeededBytesFromResponse`: `-1`, or the length in the response. -/
def getNeededBytesFromResponse (wsmP : Memory) : UInt32 :=
  if isValidResponse wsmP = false then 0xFFFFFFFF else word wsmP 8

end CmTrustlet

end Exynos8890.RootPa
