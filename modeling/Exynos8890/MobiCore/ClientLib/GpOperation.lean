import Exynos8890.Library.CStruct
import Exynos8890.MobiCore.ClientLib.OpenSessions

/-!
# Operations of the GlobalPlatform client

The parameters of an operation are laid down in a page that client and trusted application
share.  Memory references are mapped into the session before the application is notified, and
what was mapped is found again in the page when the operation is unwound.

Main results:

- Definitions `setupOperation` and `unwindOperation`, over the calls `mcMap` and `mcUnmap`.
- Theorems `setupOperation_fewer` and `unwindOperation_fewer`: they open no session, and close
  one only with its device.
-/

namespace Exynos8890.MobiCore.ClientLib

namespace Gp

open CStruct Process

/-! ## Results -/

/-- `TEEC_Result`. -/
abbrev TeecResult := UInt32

def teecSuccess : TeecResult := 0x00000000
def teecErrorGeneric : TeecResult := 0xFFFF0000
def teecErrorCancel : TeecResult := 0xFFFF0002
def teecErrorBadParameters : TeecResult := 0xFFFF0006
def teecErrorBadState : TeecResult := 0xFFFF0007
def teecErrorItemNotFound : TeecResult := 0xFFFF0008
def teecErrorNotImplemented : TeecResult := 0xFFFF0009
def teecErrorOutOfMemory : TeecResult := 0xFFFF000C
def teecErrorCommunication : TeecResult := 0xFFFF000E
def teeErrorTargetDead : TeecResult := 0xFFFF3024

/-- `TEEC_ORIGIN_API` and the others. -/
abbrev Origin := UInt32

def teecOriginApi : Origin := 1
def teecOriginComms : Origin := 2
def teecOriginTee : Origin := 3
def teecOriginTrustedApp : Origin := 4

/-! ## Parameters -/

/-- `TEEC_SharedMemory`, without the flag for its release. -/
structure SharedMemory where
  buffer : UInt64
  size : UInt64
  flags : UInt32
deriving DecidableEq, Repr

def teecMemInput : UInt32 := 1
def teecMemOutput : UInt32 := 2

inductive Direction where
  | input
  | output
  | inout
deriving DecidableEq, Repr

/-- `TEEC_Parameter`, with its type in `paramTypes`.  Five of the sixteen types are not used. -/
inductive Parameter where
  | none
  | value (direction : Direction) (a b : UInt32)
  | memrefTemp (direction : Direction) (buffer size : UInt64)
  | memrefWhole (parent : SharedMemory) (size : UInt64)
  | memrefPartial (direction : Direction) (parent : SharedMemory) (size offset : UInt64)
  | unused (type : Fin 5)
deriving DecidableEq, Repr

/-- `TEEC_Operation`. -/
abbrev Operation := Fin 4 → Parameter

/-- `_TEEC_ParameterInternal`: a value lies over the map information. -/
structure ParameterInternal where
  mapInfo : BulkMap
  outputSize : UInt32
deriving DecidableEq, Repr

namespace ParameterInternal

/-- `imp->value.a` and `imp->value.b` are written.  With pointers of 32 bits they are the address
and the length. -/
def setValue (w : PointerWidth) (a b : UInt32) (imp : ParameterInternal) : ParameterInternal :=
  match w with
  | .bits32 => { imp with mapInfo := { sVirtualAddr := a.toUInt64, sVirtualLen := b } }
  | .bits64 =>
      { imp with
        mapInfo :=
          { sVirtualAddr := a.toUInt64 ||| b.toUInt64 <<< 32
            sVirtualLen := imp.mapInfo.sVirtualLen } }

def valueA (imp : ParameterInternal) : UInt32 :=
  imp.mapInfo.sVirtualAddr.toUInt32

def valueB (w : PointerWidth) (imp : ParameterInternal) : UInt32 :=
  match w with
  | .bits32 => imp.mapInfo.sVirtualLen
  | .bits64 => (imp.mapInfo.sVirtualAddr >>> 32).toUInt32

/-- `imp->memref.mapInfo.sVirtualLen = 0`. -/
def clear (imp : ParameterInternal) : ParameterInternal :=
  { imp with mapInfo := { imp.mapInfo with sVirtualLen := 0 } }

end ParameterInternal

/-- `_TEEC_TCI`: what the client reads of it. -/
structure TeecTci where
  params : Fin 4 → ParameterInternal
  isCancelled : Bool
  returnOrigin : Origin
  returnStatus : TeecResult
deriving DecidableEq

/-- The page is zeroed. -/
def TeecTci.zero : TeecTci where
  params := fun _ => { mapInfo := { sVirtualAddr := 0, sVirtualLen := 0 }, outputSize := 0 }
  isCancelled := false
  returnOrigin := 0
  returnStatus := 0

/-- `memset(&tci->operation, 0, sizeof(TEEC_Operation))`, which ends before `isCancelled`. -/
def TeecTci.clearOperation (tci : TeecTci) : TeecTci :=
  { tci with params := TeecTci.zero.params }

/-! ## Unwinding -/

/-- The buffer that is unmapped for a parameter. -/
def Parameter.buffer : Parameter → UInt64
  | .memrefTemp _ buffer _ => buffer
  | .memrefWhole parent _ => parent.buffer
  | .memrefPartial _ parent _ offset => parent.buffer + offset
  | .none | .value .. | .unused _ => 0

/-- What the application has written is copied to the parameter. -/
def Parameter.copyBack (w : PointerWidth) (imp : ParameterInternal) : Parameter → Parameter
  | .value .output _ _ => .value .output imp.valueA (imp.valueB w)
  | .value .inout _ _ => .value .inout imp.valueA (imp.valueB w)
  | .memrefTemp .output buffer _ => .memrefTemp .output buffer imp.outputSize.toUInt64
  | .memrefTemp .inout buffer _ => .memrefTemp .inout buffer imp.outputSize.toUInt64
  | .memrefWhole parent _ => .memrefWhole parent imp.outputSize.toUInt64
  | .memrefPartial .output parent _ offset =>
      .memrefPartial .output parent imp.outputSize.toUInt64 offset
  | .memrefPartial .inout parent _ offset =>
      .memrefPartial .inout parent imp.outputSize.toUInt64 offset
  | ext => ext

/-- A parameter is unmapped, when there is something in the page to unmap. -/
def unwindParam (handle : SessionHandle) (ext : Parameter) (imp : ParameterInternal)
    (reply : Reply Unit) (process : Process) : Process :=
  if ext.buffer ≠ 0 ∧ imp.mapInfo.sVirtualLen ≠ 0 then
    (process.mcUnmap handle ext.buffer imp.mapInfo reply).2
  else process

/-- The loop over the parameters. -/
def unwindLoop (handle : SessionHandle) (operation : Operation)
    (params : Fin 4 → ParameterInternal) (replies : Fin 4 → Reply Unit) :
    List (Fin 4) → Process → Process
  | [], process => process
  | i :: is, process =>
      unwindLoop handle operation params replies is
        (unwindParam handle (operation i) (params i) (replies i) process)

/-- What `_TEEC_UnwindOperation` returns, writes to `returnOrigin` and to the operation, and the
process behind it. -/
structure Unwound where
  result : TeecResult
  origin : Option Origin
  operation : Option Operation
  process : Process

/-- The sanity check: the page says where its status comes from. -/
def TeecTci.Reports (tci : TeecTci) : Prop :=
  ¬ (tci.returnOrigin = 0 ∨
    (tci.returnOrigin ≠ teecOriginTrustedApp ∧ tci.returnStatus ≠ teecSuccess))

instance (tci : TeecTci) : Decidable tci.Reports :=
  inferInstanceAs (Decidable (¬ (_ ∨ _)))

/-- `_TEEC_UnwindOperation`. -/
def unwindOperation (w : PointerWidth) (tci : TeecTci) (handle : SessionHandle)
    (operation : Option Operation) (copyValues : Bool) (replies : Fin 4 → Reply Unit)
    (process : Process) : Unwound :=
  match operation with
  | none =>
      { result := teecSuccess, origin := none, operation := none, process := process }
  | some ext =>
      if tci.Reports then
        { result := tci.returnStatus
          origin := some tci.returnOrigin
          operation :=
            some (if copyValues then fun i => (ext i).copyBack w (tci.params i) else ext)
          process := unwindLoop handle ext tci.params replies (List.finRange 4) process }
      else
        { result := teecErrorCommunication
          origin := some teecOriginComms
          operation := some ext
          process := process }

/-! ## Setting up -/

/-- An error of a parameter, and its origin. -/
abbrev SetupError := TeecResult × Origin

/-- A buffer of a parameter is mapped. -/
def mapMemref (handle : SessionHandle) (buffer size : UInt64) (answers : MapAnswers)
    (imp : ParameterInternal) (process : Process) :
    Option SetupError × ParameterInternal × Process :=
  match process.mcMap handle buffer size.toUInt32 answers with
  | (code, mapInfo, process) =>
      if code ≠ mcDrvOk then (some (teecErrorGeneric, teecOriginComms), imp, process)
      else (none, { imp with mapInfo := mapInfo.getD imp.mapInfo }, process)

/-- The data flow of a partial reference is not that of its memory. -/
def Inconsistent (direction : Direction) (flags : UInt32) : Prop :=
  (flags &&& (teecMemInput ||| teecMemOutput) = teecMemInput ∧ direction = .output) ∨
    (flags &&& (teecMemInput ||| teecMemOutput) = teecMemOutput ∧ direction = .input)

instance (direction : Direction) (flags : UInt32) : Decidable (Inconsistent direction flags) :=
  inferInstanceAs (Decidable (_ ∨ _))

/-- The sum of two values of type `size_t`. -/
def sizeAdd (w : PointerWidth) (x y : UInt64) : Nat :=
  (x.toNat + y.toNat) % 256 ^ w.word.size

/-- A parameter is set up. -/
def setupParam (w : PointerWidth) (handle : SessionHandle) (ext : Parameter)
    (answers : MapAnswers) (imp : ParameterInternal) (process : Process) :
    Option SetupError × ParameterInternal × Process :=
  match ext with
  | .none | .value .output _ _ => (none, imp, process)
  | .value .input a b | .value .inout a b => (none, imp.setValue w a b, process)
  | .memrefTemp _ buffer size =>
      if size ≠ 0 ∧ buffer ≠ 0 then mapMemref handle buffer size answers imp.clear process
      else (none, imp.clear, process)
  | .memrefWhole parent _ =>
      if parent.size ≠ 0 then
        mapMemref handle parent.buffer parent.size answers imp.clear process
      else (none, imp.clear, process)
  | .memrefPartial direction parent size offset =>
      if Inconsistent direction parent.flags then
        (some (teecErrorBadParameters, teecOriginApi), imp, process)
      else if parent.size.toNat < sizeAdd w offset size then
        (some (teecErrorBadParameters, teecOriginApi), imp, process)
      else if size ≠ 0 then
        mapMemref handle (parent.buffer + offset) size answers imp.clear process
      else (none, imp.clear, process)
  | .unused _ => (some (teecErrorBadParameters, teecOriginApi), imp, process)

/-- The loop over the parameters, which an error ends. -/
def setupLoop (w : PointerWidth) (handle : SessionHandle) (operation : Operation)
    (answers : Fin 4 → MapAnswers) :
    List (Fin 4) → (Fin 4 → ParameterInternal) → Process →
      Option SetupError × (Fin 4 → ParameterInternal) × Process
  | [], params, process => (none, params, process)
  | i :: is, params, process =>
      match setupParam w handle (operation i) (answers i) (params i) process with
      | (some error, imp, process) => (some error, Function.update params i imp, process)
      | (none, imp, process) =>
          setupLoop w handle operation answers is (Function.update params i imp) process

/-- What happens while an operation is set up: the answers to its mappings, whether it is
cancelled meanwhile, and the replies when it is unwound. -/
structure SetupEnvironment where
  map : Fin 4 → MapAnswers
  cancelled : Bool
  unmap : Fin 4 → Reply Unit

/-- What `_TEEC_SetupOperation` returns and writes to `returnOrigin`, the page and the process
behind it. -/
structure SetUp where
  result : TeecResult
  origin : Option Origin
  tci : TeecTci
  process : Process

/-- The request is complete. -/
def TeecTci.ready (tci : TeecTci) : TeecTci :=
  { tci with returnStatus := teecErrorBadState }

/-- `_TEEC_SetupOperation`. -/
def setupOperation (w : PointerWidth) (tci : TeecTci) (handle : SessionHandle)
    (operation : Option Operation) (env : SetupEnvironment) (process : Process) : SetUp :=
  let tci := { tci with isCancelled := false }
  match operation with
  | none => { result := teecSuccess, origin := none, tci := tci.ready, process := process }
  | some ext =>
      match setupLoop w handle ext env.map (List.finRange 4) tci.params process with
      | (error, params, process) =>
          let tci := { tci with params := params, isCancelled := env.cancelled }
          match if env.cancelled then some (teecErrorCancel, teecOriginComms) else error with
          | some (result, origin) =>
              { result := result
                origin := some origin
                tci := tci.clearOperation
                process :=
                  (unwindOperation w tci handle (some ext) false env.unmap process).process }
          | none => { result := teecSuccess, origin := none, tci := tci.ready, process := process }

/-! ## Sessions stay -/

section Fewer

variable {w : PointerWidth} {p : Process} (handle : SessionHandle)

theorem unwindParam_fewer (hp : p.Distinct) (ext : Parameter) (imp : ParameterInternal)
    (reply : Reply Unit) : Fewer p (unwindParam handle ext imp reply p) := by
  unfold unwindParam
  split
  · exact mcUnmap_fewer hp _ _ _
  · exact Fewer.refl hp

theorem unwindLoop_fewer (hp : p.Distinct) (operation : Operation)
    (params : Fin 4 → ParameterInternal)
    (replies : Fin 4 → Reply Unit) (is : List (Fin 4)) :
    Fewer p (unwindLoop handle operation params replies is p) := by
  induction is generalizing p with
  | nil => exact Fewer.refl hp
  | cons i is ih =>
      have hparam := unwindParam_fewer handle hp (operation i) (params i) (replies i)
      exact hparam.trans (ih hparam.distinct)

theorem unwindOperation_fewer (hp : p.Distinct) (tci : TeecTci) (operation : Option Operation)
    (copyValues : Bool) (replies : Fin 4 → Reply Unit) :
    Fewer p (unwindOperation w tci handle operation copyValues replies p).process := by
  cases operation with
  | none => exact Fewer.refl hp
  | some ext =>
      unfold unwindOperation
      dsimp only
      split
      · exact unwindLoop_fewer handle hp _ _ _ _
      · exact Fewer.refl hp

theorem mapMemref_fewer (hp : p.Distinct) (buffer size : UInt64) (answers : MapAnswers)
    (imp : ParameterInternal) : Fewer p (mapMemref handle buffer size answers imp p).2.2 := by
  have hmap : Fewer p (p.mcMap handle buffer size.toUInt32 answers).2.2 :=
    mcMap_fewer hp buffer size.toUInt32 answers
  unfold mapMemref
  split
  next code mapInfo q hresult =>
    rw [hresult] at hmap
    split
    · exact hmap
    · exact hmap

theorem setupParam_fewer (hp : p.Distinct) (ext : Parameter) (answers : MapAnswers)
    (imp : ParameterInternal) : Fewer p (setupParam w handle ext answers imp p).2.2 := by
  unfold setupParam
  repeat' split
  all_goals first
    | exact Fewer.refl hp
    | exact mapMemref_fewer handle hp _ _ _ _

theorem setupLoop_fewer (hp : p.Distinct) (operation : Operation)
    (answers : Fin 4 → MapAnswers) (is : List (Fin 4)) (params : Fin 4 → ParameterInternal) :
    Fewer p (setupLoop w handle operation answers is params p).2.2 := by
  induction is generalizing p params with
  | nil => exact Fewer.refl hp
  | cons i is ih =>
      have hparam := setupParam_fewer (w := w) handle hp (operation i) (answers i) (params i)
      rw [setupLoop]
      split
      next error imp q hresult =>
        rw [hresult] at hparam
        exact hparam
      next imp q hresult =>
        rw [hresult] at hparam
        exact hparam.trans (ih hparam.distinct _)

theorem setupOperation_fewer (hp : p.Distinct) (tci : TeecTci) (operation : Option Operation)
    (env : SetupEnvironment) :
    Fewer p (setupOperation w tci handle operation env p).process := by
  cases operation with
  | none => exact Fewer.refl hp
  | some ext =>
      have hloop := setupLoop_fewer (w := w) handle hp ext env.map (List.finRange 4) tci.params
      unfold setupOperation
      dsimp only
      split
      · exact hloop.trans (unwindOperation_fewer handle hloop.distinct _ _ _ _)
      · exact hloop

end Fewer

end Gp

end Exynos8890.MobiCore.ClientLib
