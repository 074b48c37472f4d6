import Exynos8890.Library.TransitionSystem
import Exynos8890.ProvLib.ProvisioningMessage

/-!
# The device binding

An instance of the library gets the SUID of the device from the secure world, has it wrap the
key of a request into an authentication token, and validates the token that the production
station presents at the end.  The requests come in any order, and each call of the secure world
and each callback can fail.

Main results:

- Definition `gdmcProvExecuteProvisioningStep`: one message, and the answer to it.
- Theorem `bound_run`: under what conditions what the instance says that it holds is what the
  secure world has given to it, and provisioning is done only for that token.
- Theorem `not_bound`: a token without a SUID.
-/

namespace Exynos8890.ProvLib

open CStruct

/-! ## The instance -/

/-- An array of bytes. -/
abbrev Bytes (n : Nat) :=
  { bytes : List UInt8 // bytes.length = n }

def zeros (n : Nat) : Bytes n :=
  ⟨List.replicate n 0, List.length_replicate⟩

/-- What `memcpy` takes from a message. -/
def bytesAt (m : Memory) (r : Region) : Bytes r.size :=
  ⟨load r m, length_load r m⟩

/-- `memcpy` to a message. -/
def Bytes.copyTo {n : Nat} (bytes : Bytes n) (off : Nat) : Assignment where
  region := ⟨off, n⟩
  bytes := bytes.1
  fits := bytes.2

def authtokSize : Nat :=
  CStruct.sizeOf gdmcSoAuthtok

/-- `GDMC_STATE_*`. -/
inductive GdmcState where
  | initial
  | haveSuid
  | haveAuthtok
deriving DecidableEq, Repr

/-- `gdmcinst`. -/
structure GdmcInst where
  state : GdmcState
  suid : Bytes suidLength
  kSoCAuth : Bytes kSocAuthLength
  authTok : Bytes authtokSize
deriving DecidableEq

/-- A call of the secure world that has succeeded: the SUID that it returned, or the token for
the key of a request, with what the write callback has said to it. -/
inductive SecureCall where
  | getSuid (suid : Bytes suidLength)
  | generateAuthToken (kSoCAuth : Bytes kSocAuthLength) (authtok : Bytes authtokSize)
      (writecb : Option GdError)
deriving DecidableEq

/-- An instance with the buffer of the caller and its calls so far. -/
structure Provisioning where
  inst : GdmcInst
  out : Buffer
  calls : List SecureCall

/-! ## One step -/

/-- What happens to a command in the TCI buffer: `mcNotify` and `mcWaitNotification` succeed or
not, and the buffer holds a response. -/
structure CmpAnswer (n : Nat) where
  notified : Bool
  waited : Bool
  responseId : UInt32
  returnCode : UInt32
  data : Bytes n
deriving DecidableEq

/-- `MC_CMP_CMD_GET_SUID` -/
def mcCmpCmdGetSuid : UInt32 := 27

/-- `mccmGetSuid` and `mccmGenerateAuthToken` return true. -/
def CmpAnswer.Succeeds {n : Nat} (answer : CmpAnswer n) (commandId : UInt32) : Prop :=
  answer.notified = true ∧ answer.waited = true ∧ answer.responseId = commandId ||| rspIdMask ∧
    answer.returnCode = 0

instance {n : Nat} (answer : CmpAnswer n) (commandId : UInt32) :
    Decidable (answer.Succeeds commandId) :=
  inferInstanceAs (Decidable (_ ∧ _ ∧ _ ∧ _))

/-- The read callback: its result, and the size and the bytes that it has left. -/
structure ReadBack where
  error : GdError
  size : UInt32
  authtok : Bytes authtokSize
deriving DecidableEq

/-- The arguments of a step, with what the secure world and the callbacks answer in it.  A
callback that is not installed has no answer. -/
structure ProvisioningStep where
  msgin : Memory
  msginSize : UInt32
  msgout : Memory
  msgoutSize : UInt32
  getSuid : CmpAnswer suidLength
  genAuthToken : CmpAnswer authtokSize
  writecb : Option GdError
  readcb : Option ReadBack

namespace ProvisioningStep

variable (st : ProvisioningStep)

/-- `req->kSoCAuth` -/
def kSoCAuth : Bytes kSocAuthLength :=
  bytesAt st.msgin (bodyMember gdmcActmsgReq 2)

/-- `validateSoAuthTok` -/
def validateSoAuthTok : Bytes authtokSize :=
  bytesAt st.msgin ⟨bodyOff, authtokSize⟩

end ProvisioningStep

/-! ## Texts -/

def ascii (text : String) : List UInt8 :=
  text.toList.map fun c => UInt8.ofNat c.toNat

/-- `%u` -/
def decimal (n : Nat) : List UInt8 :=
  (Nat.toDigits 10 n).map fun c => UInt8.ofNat c.toNat

def errmsg0005 (size required : Nat) : List UInt8 :=
  ascii "Message output buffer too small (" ++ decimal size ++ ascii " but " ++ decimal required ++
    ascii " required to store message)."

def errmsg0006 : List UInt8 :=
  ascii "Message validation failed."

def errmsg0007 : List UInt8 :=
  ascii "Unexpected message received. Cannot evaluate message (ignored)."

def errmsg000C : List UInt8 :=
  ascii "Unable to dump SO.AuthToken (MobiCore)."

def errmsg000D : List UInt8 :=
  ascii "Unable to retrieve SUID from SoC."

def errmsg000E : List UInt8 :=
  ascii "Unable to generate SO.AuthToken."

def errmsg000F : List UInt8 :=
  ascii "Validation of SO.AuthToken failed because no SO.AuthToken available."

/-! ## Handlers -/

namespace Provisioning

/-- Report an error with its text. -/
def compose (p : Provisioning) (error : GdError) (text : List UInt8) (st : ProvisioningStep) :
    GdError × Provisioning :=
  let (ret, out) := gdmcComposeErrorMessage error text st.msgoutSize p.out
  (ret, { p with out := out })

/-- A message whose body is `bodySize` bytes long. -/
def respond (p : Provisioning) (msgType : UInt32) (bodySize : Nat) (body : List Assignment) :
    Provisioning :=
  { p with out := ⟨message msgType bodySize bodySize body p.out.bytes,
      bodyOff + bodySize + CStruct.sizeOf gdmcMsgtrailer⟩ }

/-- The size of a message with a body of `bodySize` bytes. -/
def messageSize (bodySize : Nat) : Nat :=
  bodyOff + bodySize + CStruct.sizeOf gdmcMsgtrailer

/-- `memset(msgout,0,initial_msgout_size)`, and no message in it. -/
def clear (msgout : Memory) (size : UInt32) : Buffer :=
  ⟨store 0 (List.replicate size.toNat 0) msgout, 0⟩

/-- `MCGetSUID`. -/
def mcGetSUID (p : Provisioning) (st : ProvisioningStep) : GdError × Provisioning :=
  if st.getSuid.Succeeds mcCmpCmdGetSuid then
    (.ok, { p with
      inst := { p.inst with suid := st.getSuid.data }
      calls := p.calls ++ [.getSuid st.getSuid.data] })
  else (.cantGetSuid, { p with inst := { p.inst with suid := zeros suidLength } })

/-- The token is cleared. -/
def clearToken (p : Provisioning) : Provisioning :=
  { p with inst := { p.inst with authTok := zeros authtokSize } }

/-- The token of the secure world is taken. -/
def takeToken (p : Provisioning) (st : ProvisioningStep) : Provisioning :=
  { p with
    inst := { p.inst with authTok := st.genAuthToken.data }
    calls := p.calls ++ [.generateAuthToken st.kSoCAuth st.genAuthToken.data st.writecb] }

/-- `MCGenerateAuthToken`. -/
def mcGenerateAuthToken (p : Provisioning) (st : ProvisioningStep) : GdError × Provisioning :=
  if u32At st.msgin (bodyMember gdmcActmsgReq 0).off ≠ mcCmpCmdGenerateAuthToken then
    (.messageFormat, p.clearToken)
  else if st.genAuthToken.Succeeds mcCmpCmdGenerateAuthToken then (.ok, p.takeToken st)
  else (.cantBuildAuthtoken, p.clearToken)

def suidResponse (p : Provisioning) : Provisioning :=
  p.respond mcGetSuidResp suidLength [p.inst.suid.copyTo bodyOff]

def authtokResponse (p : Provisioning) : Provisioning :=
  p.respond mcGenAuthTokenResp (CStruct.sizeOf gdmcActmsgResp)
    [(bodyMember gdmcActmsgResp 0).set (mcCmpCmdGenerateAuthToken ||| rspIdMask).toNat,
      p.inst.authTok.copyTo (bodyMember gdmcActmsgResp 2).off]

/-- `GDMCHandleGetSUID`. -/
def gdmcHandleGetSUID (p : Provisioning) (st : ProvisioningStep) : GdError × Provisioning :=
  let msgsize := messageSize suidLength
  if st.msgoutSize.toNat < msgsize then
    p.compose .bufferTooSmall (errmsg0005 st.msgoutSize.toNat msgsize) st
  else if p.inst.state = .initial then
    let (error, p) := p.mcGetSUID st
    if error ≠ .ok then p.compose error errmsg000D st
    else (.ok, { p with inst := { p.inst with state := .haveSuid } }.suidResponse)
  else (.ok, p.suidResponse)

/-- The write callback accepts the token, if there is one. -/
def WriteAccepts (writecb : Option GdError) : Prop :=
  writecb = none ∨ writecb = some .ok

instance (writecb : Option GdError) : Decidable (WriteAccepts writecb) :=
  inferInstanceAs (Decidable (_ ∨ _))

/-- The key of a request is kept. -/
def keepKey (p : Provisioning) (st : ProvisioningStep) : Provisioning :=
  { p with inst := { p.inst with kSoCAuth := st.kSoCAuth } }

/-- The response with a new token. -/
def haveAuthtok (p : Provisioning) : Provisioning :=
  let p := p.authtokResponse
  { p with inst := { p.inst with state := .haveAuthtok } }

/-- A new token, at the label `GenerateAuthToken`. -/
def generateAuthToken (p : Provisioning) (st : ProvisioningStep) : GdError × Provisioning :=
  let (error, p) := (p.keepKey st).mcGenerateAuthToken st
  if error ≠ .ok then p.compose error errmsg000E st
  else
    match st.writecb with
    | none => (.ok, p.haveAuthtok)
    | some error => if error ≠ .ok then p.compose error errmsg000C st else (.ok, p.haveAuthtok)

/-- `GDMCHandleGenAuthToken`. -/
def gdmcHandleGenAuthToken (p : Provisioning) (st : ProvisioningStep) : GdError × Provisioning :=
  let msgsize := messageSize (CStruct.sizeOf gdmcActmsgResp)
  if st.msgoutSize.toNat < msgsize then
    p.compose .bufferTooSmall (errmsg0005 st.msgoutSize.toNat msgsize) st
  else
    match p.inst.state with
    | .initial =>
        -- the SUID is fetched with its message, which is discarded
        let (error, p) := p.gdmcHandleGetSUID st
        if error ≠ .ok then (error, p)
        else { p with out := clear p.out.bytes st.msgoutSize }.generateAuthToken st
    | .haveSuid => p.generateAuthToken st
    | .haveAuthtok =>
        if p.inst.kSoCAuth ≠ st.kSoCAuth then
          { p with inst := { p.inst with
            authTok := zeros authtokSize
            state := .haveSuid } }.generateAuthToken st
        else (.ok, p.authtokResponse)

/-- The error code of a validation. -/
def validationResult (p : Provisioning) (st : ProvisioningStep) : GdError :=
  if st.validateSoAuthTok ≠ p.inst.authTok then .validationFailure
  else
    match st.readcb with
    | none => .provisioningDone
    | some rb =>
        if rb.error ≠ .ok then rb.error
        else if rb.size.toNat ≠ authtokSize ∨ st.validateSoAuthTok ≠ rb.authtok then
          .validationFailure
        else .provisioningDone

/-- `GDMCHandleValidateAuthToken`. -/
def gdmcHandleValidateAuthToken (p : Provisioning) (st : ProvisioningStep) :
    GdError × Provisioning :=
  let msgsize := messageSize (CStruct.sizeOf gdmcErrorMsg)
  if st.msgoutSize.toNat < msgsize then
    p.compose .bufferTooSmall (errmsg0005 st.msgoutSize.toNat msgsize) st
  else if p.inst.state ≠ .haveAuthtok then p.compose .validationFailure errmsg000F st
  else
    (.provisioningDone, p.respond mcError (CStruct.sizeOf gdmcErrorMsg)
      [(bodyMember gdmcErrorMsg 0).set (p.validationResult st).toNat])

/-- `_GDMCProvExecuteProvisioningStep`. -/
def gdmcProvExecuteProvisioningStep (p : Provisioning) (st : ProvisioningStep) :
    GdError × Provisioning :=
  let p := { p with out := clear st.msgout st.msgoutSize }
  let error := gdmcValidateProvMessage st.msgin st.msginSize
  if error ≠ .ok then p.compose error errmsg0006 st
  else
    let msgType := u32At st.msgin 0
    if msgType = mcGetSuidReq then p.gdmcHandleGetSUID st
    else if msgType = mcGenAuthTokenReq then p.gdmcHandleGenAuthToken st
    else if msgType = mcValidateAuthTokenReq then p.gdmcHandleValidateAuthToken st
    else p.compose .unknown errmsg0007 st

/-- `_GDMCProvBeginProvisioning`. -/
def gdmcProvBeginProvisioning : Provisioning where
  inst := ⟨.initial, zeros suidLength, zeros kSocAuthLength, zeros authtokSize⟩
  out := ⟨fun _ => 0, 0⟩
  calls := []

/-- The steps of an instance. -/
def system : TransitionSystem Provisioning ProvisioningStep where
  step p st := some (p.gdmcProvExecuteProvisioningStep st).2

/-! ## What an instance says that it holds -/

/-- The SUID that an instance holds was returned by the secure world. -/
def SuidHeld (p : Provisioning) : Prop :=
  p.inst.state ≠ .initial → .getSuid p.inst.suid ∈ p.calls

/-- The token that an instance holds was generated for the key that it holds, and the write
callback has accepted it, if there was one. -/
def TokenHeld (p : Provisioning) : Prop :=
  p.inst.state = .haveAuthtok → ∃ writecb, WriteAccepts writecb ∧
    .generateAuthToken p.inst.kSoCAuth p.inst.authTok writecb ∈ p.calls

structure Bound (p : Provisioning) : Prop where
  suid : p.SuidHeld
  token : p.TokenHeld

/-- A message that says that provisioning is done. -/
structure IsDone (out : Buffer) : Prop where
  size : out.size ≠ 0
  msgType : u32At out.bytes 0 = mcError
  errorcode : u32At out.bytes (bodyMember gdmcErrorMsg 0).off = GdError.provisioningDone

/-- The token that is presented is the one of the instance, and the one that is read back. -/
structure Presented (p : Provisioning) (st : ProvisioningStep) : Prop where
  request : u32At st.msgin 0 = mcValidateAuthTokenReq
  token : p.inst.state = .haveAuthtok ∧ st.validateSoAuthTok = p.inst.authTok
  readBack : ∀ rb, st.readcb = some rb →
    rb.error = .ok ∧ rb.size.toNat = authtokSize ∧ rb.authtok = st.validateSoAuthTok

/-- A step says that provisioning is done only for the token of the instance. -/
def DoneOnlyIfPresented (p : Provisioning) (st : ProvisioningStep) : Prop :=
  IsDone (p.gdmcProvExecuteProvisioningStep st).2.out → p.Presented st

/-! ### Proper steps -/

/-- A request of the type has been validated. -/
def IsRequest (st : ProvisioningStep) (msgType : UInt32) : Prop :=
  gdmcValidateProvMessage st.msgin st.msginSize = .ok ∧ u32At st.msgin 0 = msgType

/-- A step asks for a token that the instance does not hold, and gets it. -/
structure Generates (p : Provisioning) (st : ProvisioningStep) : Prop where
  request : IsRequest st mcGenAuthTokenReq
  size : messageSize (CStruct.sizeOf gdmcActmsgResp) ≤ st.msgoutSize.toNat
  new : p.inst.state = .haveAuthtok → p.inst.kSoCAuth ≠ st.kSoCAuth
  succeeds : st.genAuthToken.Succeeds mcCmpCmdGenerateAuthToken

/-- A step presents the token of the instance. -/
structure Presents (p : Provisioning) (st : ProvisioningStep) : Prop where
  request : IsRequest st mcValidateAuthTokenReq
  size : messageSize (CStruct.sizeOf gdmcErrorMsg) ≤ st.msgoutSize.toNat
  token : p.inst.state = .haveAuthtok ∧ st.validateSoAuthTok = p.inst.authTok

/-- No token is generated and accepted behind a SUID that could not be had, and no callback
returns the code for the end as its error. -/
structure Proper (p : Provisioning) (st : ProvisioningStep) : Prop where
  suid : p.inst.state = .initial → p.Generates st → WriteAccepts st.writecb →
    st.getSuid.Succeeds mcCmpCmdGetSuid
  write : p.Generates st → st.writecb ≠ some .provisioningDone
  read : p.Presents st → ∀ rb, st.readcb = some rb → rb.error ≠ .provisioningDone

section Steps

variable {p : Provisioning} {st : ProvisioningStep}

/-! ### Messages -/

/-- A report of an error leaves the instance and its calls alone. -/
@[simp]
theorem compose_inst (error : GdError) (text : List UInt8) :
    (p.compose error text st).2.inst = p.inst :=
  rfl

@[simp]
theorem compose_calls (error : GdError) (text : List UInt8) :
    (p.compose error text st).2.calls = p.calls :=
  rfl

/-- A report has the code of its error, when there is room for it. -/
theorem compose_isDone {error : GdError} {text : List UInt8} (hout : p.out.size = 0)
    (hdone : IsDone (p.compose error text st).2.out) : error = .provisioningDone := by
  have hcode := hdone.errorcode
  have hsize := hdone.size
  simp only [compose, gdmcComposeErrorMessage] at hcode hsize
  by_cases hlt : st.msgoutSize.toNat < errorMsgsize text
  · rw [if_pos hlt] at hsize
    exact absurd hout hsize
  · rw [if_neg hlt, errorcode_errorMessage] at hcode
    exact hcode

/-- A message of another type does not say that provisioning is done. -/
theorem respond_not_isDone {msgType : UInt32} {bodySize : Nat} {body : List Assignment}
    (hbody : FitsBody bodySize body) (htype : msgType ≠ mcError) :
    ¬ IsDone (p.respond msgType bodySize body).out := by
  intro hdone
  exact htype ((message_framed hbody).msgType.symm.trans hdone.msgType)

theorem suidBody_fits (suid : Bytes suidLength) : FitsBody suidLength [suid.copyTo bodyOff] := by
  refine ⟨?_, List.pairwise_singleton _ _⟩
  intro a ha
  rw [List.mem_singleton.mp ha]
  exact ⟨le_rfl, le_rfl⟩

theorem authtokBody_fits (authTok : Bytes authtokSize) :
    FitsBody (CStruct.sizeOf gdmcActmsgResp)
      [(bodyMember gdmcActmsgResp 0).set (mcCmpCmdGenerateAuthToken ||| rspIdMask).toNat,
        authTok.copyTo (bodyMember gdmcActmsgResp 2).off] := by
  constructor
  · intro a ha
    rcases List.mem_cons.mp ha with rfl | ha
    · rw [region_set]
      decide
    · have hinside : bodyOff ≤ (bodyMember gdmcActmsgResp 2).off ∧
          (bodyMember gdmcActmsgResp 2).off + authtokSize ≤
            bodyOff + CStruct.sizeOf gdmcActmsgResp := by
        decide
      rw [List.mem_singleton.mp ha]
      exact hinside
  · have hdisjoint : (bodyMember gdmcActmsgResp 0).Disjoint
        ⟨(bodyMember gdmcActmsgResp 2).off, authtokSize⟩ := by
      decide
    rw [List.map_cons, List.map_singleton, region_set]
    exact List.pairwise_pair.mpr hdisjoint

theorem errorcodeBody_fits (error : GdError) :
    FitsBody (CStruct.sizeOf gdmcErrorMsg) [(bodyMember gdmcErrorMsg 0).set error.toNat] := by
  refine ⟨?_, List.pairwise_singleton _ _⟩
  intro a ha
  rw [List.mem_singleton.mp ha, region_set]
  decide

/-! ### The SUID -/

/-- A SUID is held when it has been fetched, and nothing else changes. -/
theorem gdmcHandleGetSUID_bound (hp : p.Bound) : (p.gdmcHandleGetSUID st).2.Bound := by
  unfold gdmcHandleGetSUID mcGetSUID
  by_cases hsize : st.msgoutSize.toNat < messageSize suidLength
  · rw [if_pos hsize]
    exact ⟨hp.suid, hp.token⟩
  · rw [if_neg hsize]
    by_cases hstate : p.inst.state = .initial
    · rw [if_pos hstate]
      by_cases hsuid : st.getSuid.Succeeds mcCmpCmdGetSuid
      · rw [if_pos hsuid]
        refine ⟨fun _ => ?_, fun h => GdmcState.noConfusion h⟩
        exact List.mem_append_right p.calls (List.mem_singleton_self _)
      · rw [if_neg hsuid]
        refine ⟨fun h => absurd hstate h, fun h => ?_⟩
        exact GdmcState.noConfusion (hstate.symm.trans h)
    · rw [if_neg hstate]
      exact ⟨hp.suid, hp.token⟩

/-- Behind a call that has succeeded the instance says that it has a SUID. -/
theorem gdmcHandleGetSUID_state (hsize : messageSize suidLength ≤ st.msgoutSize.toNat)
    (hstate : p.inst.state = .initial) :
    (p.gdmcHandleGetSUID st).2.inst.state =
      if st.getSuid.Succeeds mcCmpCmdGetSuid then .haveSuid else .initial := by
  unfold gdmcHandleGetSUID mcGetSUID
  rw [if_neg (Nat.not_lt.mpr hsize), if_pos hstate]
  by_cases hsuid : st.getSuid.Succeeds mcCmpCmdGetSuid
  · rw [if_pos hsuid, if_pos hsuid]
    rfl
  · rw [if_neg hsuid, if_neg hsuid]
    exact hstate

theorem gdmcHandleGetSUID_calls (hsize : messageSize suidLength ≤ st.msgoutSize.toNat)
    (hstate : p.inst.state = .initial) :
    (p.gdmcHandleGetSUID st).2.calls = p.calls ++
      if st.getSuid.Succeeds mcCmpCmdGetSuid then [.getSuid st.getSuid.data] else [] := by
  unfold gdmcHandleGetSUID mcGetSUID
  rw [if_neg (Nat.not_lt.mpr hsize), if_pos hstate]
  by_cases hsuid : st.getSuid.Succeeds mcCmpCmdGetSuid
  · rw [if_pos hsuid, if_pos hsuid]
    rfl
  · rw [if_neg hsuid, if_neg hsuid, List.append_nil]
    rfl

theorem gdmcHandleGetSUID_not_isDone (hout : p.out.size = 0) :
    ¬ IsDone (p.gdmcHandleGetSUID st).2.out := by
  have hresponse : ∀ p : Provisioning, ¬ IsDone p.suidResponse.out := fun p =>
    respond_not_isDone (suidBody_fits p.inst.suid) (by decide)
  unfold gdmcHandleGetSUID mcGetSUID
  by_cases hsize : st.msgoutSize.toNat < messageSize suidLength
  · rw [if_pos hsize]
    exact fun hdone => absurd (compose_isDone hout hdone) (by decide)
  · rw [if_neg hsize]
    by_cases hstate : p.inst.state = .initial
    · rw [if_pos hstate]
      by_cases hsuid : st.getSuid.Succeeds mcCmpCmdGetSuid
      · rw [if_pos hsuid]
        exact hresponse _
      · rw [if_neg hsuid]
        exact fun hdone => absurd (compose_isDone (p := { p with
          inst := { p.inst with suid := zeros suidLength } }) hout hdone) (by decide)
    · rw [if_neg hstate]
      exact hresponse p

/-! ### The token -/

/-- What becomes of a request for a token: none is generated, the write callback refuses it, or
it is held. -/
theorem generateAuthToken_cases (p : Provisioning) (st : ProvisioningStep) :
    (¬ (u32At st.msgin (bodyMember gdmcActmsgReq 0).off = mcCmpCmdGenerateAuthToken ∧
        st.genAuthToken.Succeeds mcCmpCmdGenerateAuthToken) ∧
      ∃ error, error ≠ GdError.provisioningDone ∧ p.generateAuthToken st =
        (p.keepKey st).clearToken.compose error errmsg000E st) ∨
    (st.genAuthToken.Succeeds mcCmpCmdGenerateAuthToken ∧ ∃ error, st.writecb = some error ∧
      error ≠ .ok ∧ p.generateAuthToken st =
        ((p.keepKey st).takeToken st).compose error errmsg000C st) ∨
    (st.genAuthToken.Succeeds mcCmpCmdGenerateAuthToken ∧ WriteAccepts st.writecb ∧
      p.generateAuthToken st = (.ok, ((p.keepKey st).takeToken st).haveAuthtok)) := by
  unfold generateAuthToken mcGenerateAuthToken
  by_cases htype : u32At st.msgin (bodyMember gdmcActmsgReq 0).off ≠ mcCmpCmdGenerateAuthToken
  · rw [if_pos htype]
    exact Or.inl ⟨fun h => htype h.1, .messageFormat, by decide, rfl⟩
  · rw [if_neg htype]
    by_cases hgen : st.genAuthToken.Succeeds mcCmpCmdGenerateAuthToken
    · rw [if_pos hgen]
      cases hwrite : st.writecb with
      | none => exact Or.inr (Or.inr ⟨hgen, Or.inl rfl, rfl⟩)
      | some error =>
          by_cases herror : error = .ok
          · refine Or.inr (Or.inr ⟨hgen, Or.inr (congrArg some herror), ?_⟩)
            exact if_neg (not_not_intro herror)
          · exact Or.inr (Or.inl ⟨hgen, error, rfl, herror, if_pos herror⟩)
    · rw [if_neg hgen]
      exact Or.inl ⟨fun h => hgen h.2, .cantBuildAuthtoken, by decide, rfl⟩

theorem generateAuthToken_held
    (htype : u32At st.msgin (bodyMember gdmcActmsgReq 0).off = mcCmpCmdGenerateAuthToken)
    (hgen : st.genAuthToken.Succeeds mcCmpCmdGenerateAuthToken)
    (haccepts : WriteAccepts st.writecb) :
    p.generateAuthToken st = (.ok, ((p.keepKey st).takeToken st).haveAuthtok) := by
  rcases generateAuthToken_cases p st with ⟨h, -⟩ | ⟨-, error, hwrite, herror, -⟩ | ⟨-, -, heq⟩
  · exact absurd ⟨htype, hgen⟩ h
  · rw [hwrite] at haccepts
    rcases haccepts with h | h
    · exact absurd h (Option.some_ne_none error)
    · exact absurd (Option.some.inj h) herror
  · exact heq

theorem generateAuthToken_bound (hp : p.SuidHeld) (hstate : p.inst.state ≠ .haveAuthtok)
    (hsuid : st.genAuthToken.Succeeds mcCmpCmdGenerateAuthToken → WriteAccepts st.writecb →
      p.inst.state ≠ .initial) : (p.generateAuthToken st).2.Bound := by
  have hcalls : p.inst.state ≠ .initial → .getSuid p.inst.suid ∈
      p.calls ++ [.generateAuthToken st.kSoCAuth st.genAuthToken.data st.writecb] :=
    fun hne => List.mem_append_left _ (hp hne)
  rcases generateAuthToken_cases p st with ⟨-, error, -, heq⟩ | ⟨-, error, -, -, heq⟩ |
    ⟨hgen, haccepts, heq⟩
  · rw [heq]
    exact ⟨hp, fun h => absurd h hstate⟩
  · rw [heq]
    exact ⟨hcalls, fun h => absurd h hstate⟩
  · rw [heq]
    refine ⟨fun _ => hcalls (hsuid hgen haccepts), fun _ => ⟨st.writecb, haccepts, ?_⟩⟩
    exact List.mem_append_right p.calls (List.mem_singleton_self _)

/-- The write callback is the only one whose error may be the code for the end. -/
theorem generateAuthToken_isDone (hout : p.out.size = 0)
    (hdone : IsDone (p.generateAuthToken st).2.out) :
    st.genAuthToken.Succeeds mcCmpCmdGenerateAuthToken ∧
      st.writecb = some GdError.provisioningDone := by
  rcases generateAuthToken_cases p st with ⟨-, error, herror, heq⟩ |
    ⟨hgen, error, hwrite, -, heq⟩ | ⟨hgen, haccepts, heq⟩
  · rw [heq] at hdone
    exact absurd (compose_isDone (p := (p.keepKey st).clearToken) hout hdone) herror
  · rw [heq] at hdone
    refine ⟨hgen, ?_⟩
    rw [hwrite, compose_isDone (p := (p.keepKey st).takeToken st) hout hdone]
  · rw [heq] at hdone
    exact absurd hdone (respond_not_isDone (authtokBody_fits _) (by decide))

/-! ### Requests -/

/-- The buffer of a token has room for the report of a SUID that could not be fetched. -/
theorem gdmcHandleGetSUID_ok
    (hroom : messageSize (CStruct.sizeOf gdmcActmsgResp) ≤ st.msgoutSize.toNat) :
    (p.gdmcHandleGetSUID st).1 = .ok := by
  have hsize : ¬ st.msgoutSize.toNat < messageSize suidLength :=
    Nat.not_lt.mpr (le_trans (by decide) hroom)
  have hreport : ¬ st.msgoutSize.toNat < errorMsgsize errmsg000D :=
    Nat.not_lt.mpr (le_trans (by decide) hroom)
  unfold gdmcHandleGetSUID mcGetSUID
  rw [if_neg hsize]
  by_cases hstate : p.inst.state = .initial
  · rw [if_pos hstate]
    by_cases hsuid : st.getSuid.Succeeds mcCmpCmdGetSuid
    · rw [if_pos hsuid]
      rfl
    · rw [if_neg hsuid]
      simp only [compose, gdmcComposeErrorMessage, if_neg hreport]
      rfl
  · rw [if_neg hstate]

/-- The instance at the label `GenerateAuthToken`. -/
def atGenerate (p : Provisioning) (st : ProvisioningStep) : Provisioning :=
  match p.inst.state with
  | .initial =>
      { (p.gdmcHandleGetSUID st).2 with
        out := clear (p.gdmcHandleGetSUID st).2.out.bytes st.msgoutSize }
  | .haveSuid => p
  | .haveAuthtok => { p with inst := { p.inst with
      authTok := zeros authtokSize
      state := .haveSuid } }

/-- The token of the instance is sent again when the key is still the same. -/
theorem gdmcHandleGenAuthToken_eq
    (hroom : messageSize (CStruct.sizeOf gdmcActmsgResp) ≤ st.msgoutSize.toNat) :
    p.gdmcHandleGenAuthToken st =
      if p.inst.state = .haveAuthtok ∧ p.inst.kSoCAuth = st.kSoCAuth then (.ok, p.authtokResponse)
      else (p.atGenerate st).generateAuthToken st := by
  unfold gdmcHandleGenAuthToken atGenerate
  rw [if_neg (Nat.not_lt.mpr hroom)]
  cases hstate : p.inst.state with
  | initial => simp [gdmcHandleGetSUID_ok hroom]
  | haveSuid => simp
  | haveAuthtok =>
      by_cases hkey : p.inst.kSoCAuth = st.kSoCAuth
      · simp [hkey]
      · simp [hkey]

theorem atGenerate_state
    (hroom : messageSize (CStruct.sizeOf gdmcActmsgResp) ≤ st.msgoutSize.toNat) :
    (p.atGenerate st).inst.state ≠ .haveAuthtok := by
  have hroom' : messageSize suidLength ≤ st.msgoutSize.toNat := le_trans (by decide) hroom
  unfold atGenerate
  cases hstate : p.inst.state with
  | initial =>
      show (p.gdmcHandleGetSUID st).2.inst.state ≠ .haveAuthtok
      rw [gdmcHandleGetSUID_state hroom' hstate]
      split <;> decide
  | haveSuid =>
      rw [hstate]
      decide
  | haveAuthtok => exact GdmcState.noConfusion

/-- The SUID is held then, unless it could not be fetched. -/
theorem atGenerate_suid (hp : p.Bound)
    (hroom : messageSize (CStruct.sizeOf gdmcActmsgResp) ≤ st.msgoutSize.toNat) :
    (p.atGenerate st).SuidHeld ∧ ((p.atGenerate st).inst.state = .initial →
      p.inst.state = .initial ∧ ¬ st.getSuid.Succeeds mcCmpCmdGetSuid) := by
  have hroom' : messageSize suidLength ≤ st.msgoutSize.toNat := le_trans (by decide) hroom
  unfold atGenerate
  cases hstate : p.inst.state with
  | initial =>
      refine ⟨(gdmcHandleGetSUID_bound hp).suid, ?_⟩
      show (p.gdmcHandleGetSUID st).2.inst.state = .initial → _
      rw [gdmcHandleGetSUID_state hroom' hstate]
      intro h
      refine ⟨rfl, fun hsuid => ?_⟩
      rw [if_pos hsuid] at h
      cases h
  | haveSuid =>
      refine ⟨hp.suid, fun h => ?_⟩
      rw [hstate] at h
      cases h
  | haveAuthtok =>
      refine ⟨fun _ => hp.suid ?_, GdmcState.noConfusion⟩
      rw [hstate]
      decide

theorem atGenerate_out (hout : p.out.size = 0) : (p.atGenerate st).out.size = 0 := by
  unfold atGenerate
  cases p.inst.state with
  | initial => rfl
  | haveSuid => exact hout
  | haveAuthtok => exact hout

theorem gdmcHandleGenAuthToken_bound (hp : p.Bound)
    (hsuid : p.inst.state = .initial →
      messageSize (CStruct.sizeOf gdmcActmsgResp) ≤ st.msgoutSize.toNat →
      st.genAuthToken.Succeeds mcCmpCmdGenerateAuthToken → WriteAccepts st.writecb →
      st.getSuid.Succeeds mcCmpCmdGetSuid) : (p.gdmcHandleGenAuthToken st).2.Bound := by
  by_cases hsize : st.msgoutSize.toNat < messageSize (CStruct.sizeOf gdmcActmsgResp)
  · unfold gdmcHandleGenAuthToken
    rw [if_pos hsize]
    exact ⟨hp.suid, hp.token⟩
  · have hroom := Nat.not_lt.mp hsize
    rw [gdmcHandleGenAuthToken_eq hroom]
    split
    · exact ⟨hp.suid, hp.token⟩
    · obtain ⟨hheld, hinitial⟩ := atGenerate_suid hp hroom
      refine generateAuthToken_bound hheld (atGenerate_state hroom) fun hgen haccepts h => ?_
      exact (hinitial h).2 (hsuid (hinitial h).1 hroom hgen haccepts)

theorem gdmcHandleGenAuthToken_isDone (hout : p.out.size = 0)
    (hdone : IsDone (p.gdmcHandleGenAuthToken st).2.out) :
    messageSize (CStruct.sizeOf gdmcActmsgResp) ≤ st.msgoutSize.toNat ∧
      (p.inst.state = .haveAuthtok → p.inst.kSoCAuth ≠ st.kSoCAuth) ∧
      st.genAuthToken.Succeeds mcCmpCmdGenerateAuthToken ∧
      st.writecb = some GdError.provisioningDone := by
  by_cases hsize : st.msgoutSize.toNat < messageSize (CStruct.sizeOf gdmcActmsgResp)
  · unfold gdmcHandleGenAuthToken at hdone
    rw [if_pos hsize] at hdone
    exact absurd (compose_isDone hout hdone) (by decide)
  · have hroom := Nat.not_lt.mp hsize
    rw [gdmcHandleGenAuthToken_eq hroom] at hdone
    split at hdone
    · exact absurd hdone (respond_not_isDone (authtokBody_fits _) (by decide))
    · rename_i hkey
      obtain ⟨hgen, hwrite⟩ := generateAuthToken_isDone (atGenerate_out hout) hdone
      exact ⟨hroom, fun hstate heq => hkey ⟨hstate, heq⟩, hgen, hwrite⟩

/-- The result of a validation is the code for the end when both tokens are equal, or the read
callback returns it. -/
theorem validationResult_done (hresult : p.validationResult st = .provisioningDone) :
    st.validateSoAuthTok = p.inst.authTok ∧ ∀ rb, st.readcb = some rb →
      rb.error = .provisioningDone ∨
      rb.error = .ok ∧ rb.size.toNat = authtokSize ∧ rb.authtok = st.validateSoAuthTok := by
  unfold validationResult at hresult
  by_cases htoken : st.validateSoAuthTok ≠ p.inst.authTok
  · rw [if_pos htoken] at hresult
    exact absurd hresult (by decide)
  · rw [if_neg htoken] at hresult
    refine ⟨not_not.mp htoken, ?_⟩
    intro rb hrb
    rw [hrb] at hresult
    by_cases herror : rb.error = .ok
    · right
      simp only [herror, ne_eq, not_true_eq_false, if_false] at hresult
      split at hresult
      · exact absurd hresult (by decide)
      · rename_i hback
        rw [not_or, not_not, not_not] at hback
        exact ⟨herror, hback.1, hback.2.symm⟩
    · left
      simpa only [if_pos herror] using hresult

theorem gdmcHandleValidateAuthToken_isDone (hout : p.out.size = 0)
    (hdone : IsDone (p.gdmcHandleValidateAuthToken st).2.out) :
    messageSize (CStruct.sizeOf gdmcErrorMsg) ≤ st.msgoutSize.toNat ∧
      p.inst.state = .haveAuthtok ∧ p.validationResult st = .provisioningDone := by
  unfold gdmcHandleValidateAuthToken at hdone
  by_cases hsize : st.msgoutSize.toNat < messageSize (CStruct.sizeOf gdmcErrorMsg)
  · rw [if_pos hsize] at hdone
    exact absurd (compose_isDone hout hdone) (by decide)
  · rw [if_neg hsize] at hdone
    by_cases hstate : p.inst.state ≠ .haveAuthtok
    · rw [if_pos hstate] at hdone
      exact absurd (compose_isDone hout hdone) (by decide)
    · rw [if_neg hstate] at hdone
      refine ⟨Nat.not_lt.mp hsize, not_not.mp hstate, ?_⟩
      have hsize : (bodyMember gdmcErrorMsg 0).size = 4 := by decide
      have hload : load (bodyMember gdmcErrorMsg 0) (message mcError (CStruct.sizeOf gdmcErrorMsg)
          (CStruct.sizeOf gdmcErrorMsg)
          [(bodyMember gdmcErrorMsg 0).set (p.validationResult st).toNat] p.out.bytes) = _ :=
        load_message_body (errorcodeBody_fits (p.validationResult st)) List.mem_cons_self
      have hcode := u32At_of_load hsize hload
      exact (UInt32.ofNat_toNat.symm.trans hcode.symm).trans hdone.errorcode

theorem gdmcHandleValidateAuthToken_bound (hp : p.Bound) :
    (p.gdmcHandleValidateAuthToken st).2.Bound := by
  unfold gdmcHandleValidateAuthToken
  by_cases hsize : st.msgoutSize.toNat < messageSize (CStruct.sizeOf gdmcErrorMsg)
  · rw [if_pos hsize]
    exact ⟨hp.suid, hp.token⟩
  · rw [if_neg hsize]
    by_cases hstate : p.inst.state ≠ .haveAuthtok
    · rw [if_pos hstate]
      exact ⟨hp.suid, hp.token⟩
    · rw [if_neg hstate]
      exact ⟨hp.suid, hp.token⟩

/-! ### Steps -/

theorem execute_genAuthToken (hrequest : IsRequest st mcGenAuthTokenReq) :
    p.gdmcProvExecuteProvisioningStep st =
      { p with out := clear st.msgout st.msgoutSize }.gdmcHandleGenAuthToken st := by
  unfold gdmcProvExecuteProvisioningStep
  rw [if_neg (not_not_intro hrequest.1)]
  simp only [hrequest.2]
  rw [if_neg (by decide), if_pos True.intro]

/-- The first request for a token, when the secure world answers it. -/
theorem execute_firstToken (hrequest : IsRequest st mcGenAuthTokenReq)
    (htype : u32At st.msgin (bodyMember gdmcActmsgReq 0).off = mcCmpCmdGenerateAuthToken)
    (hroom : messageSize (CStruct.sizeOf gdmcActmsgResp) ≤ st.msgoutSize.toNat)
    (hstate : p.inst.state = .initial)
    (hgen : st.genAuthToken.Succeeds mcCmpCmdGenerateAuthToken)
    (haccepts : WriteAccepts st.writecb) :
    (p.gdmcProvExecuteProvisioningStep st).2.inst.state = .haveAuthtok ∧
      (p.gdmcProvExecuteProvisioningStep st).2.calls =
        (p.calls ++ if st.getSuid.Succeeds mcCmpCmdGetSuid then [.getSuid st.getSuid.data]
          else []) ++ [.generateAuthToken st.kSoCAuth st.genAuthToken.data st.writecb] := by
  have hroom' : messageSize suidLength ≤ st.msgoutSize.toNat := le_trans (by decide) hroom
  rw [execute_genAuthToken hrequest, gdmcHandleGenAuthToken_eq hroom, if_neg,
    generateAuthToken_held htype hgen haccepts]
  · refine ⟨rfl, ?_⟩
    rw [← gdmcHandleGetSUID_calls (p := { p with out := clear st.msgout st.msgoutSize }) hroom'
      hstate]
    show (atGenerate _ st).calls ++ _ = _
    rw [atGenerate]
    simp only [hstate]
  · rw [hstate]
    exact fun h => GdmcState.noConfusion h.1

/-- A proper step keeps what the instance says that it holds. -/
theorem step_bound (hp : p.Bound) (hproper : p.Proper st) :
    (p.gdmcProvExecuteProvisioningStep st).2.Bound := by
  have hcleared : Bound { p with out := clear st.msgout st.msgoutSize } := ⟨hp.suid, hp.token⟩
  unfold gdmcProvExecuteProvisioningStep
  by_cases hvalid : gdmcValidateProvMessage st.msgin st.msginSize = .ok
  · rw [if_neg (not_not_intro hvalid)]
    by_cases hgetSuid : u32At st.msgin 0 = mcGetSuidReq
    · rw [if_pos hgetSuid]
      exact gdmcHandleGetSUID_bound hcleared
    · rw [if_neg hgetSuid]
      by_cases hgen : u32At st.msgin 0 = mcGenAuthTokenReq
      · rw [if_pos hgen]
        refine gdmcHandleGenAuthToken_bound hcleared fun hstate hroom hsucceeds haccepts => ?_
        refine hproper.suid hstate ⟨⟨hvalid, hgen⟩, hroom, fun h => ?_, hsucceeds⟩ haccepts
        exact GdmcState.noConfusion (hstate.symm.trans h)
      · rw [if_neg hgen]
        split
        · exact gdmcHandleValidateAuthToken_bound hcleared
        · exact ⟨hp.suid, hp.token⟩
  · rw [if_pos hvalid]
    exact ⟨hp.suid, hp.token⟩

/-- A proper step says that provisioning is done only for the token of the instance. -/
theorem step_doneOnlyIfPresented (hproper : p.Proper st) : p.DoneOnlyIfPresented st := by
  have hout : (clear st.msgout st.msgoutSize).size = 0 := rfl
  unfold DoneOnlyIfPresented gdmcProvExecuteProvisioningStep
  intro hdone
  by_cases hvalid : gdmcValidateProvMessage st.msgin st.msginSize = .ok
  · rw [if_neg (not_not_intro hvalid)] at hdone
    by_cases hgetSuid : u32At st.msgin 0 = mcGetSuidReq
    · rw [if_pos hgetSuid] at hdone
      exact absurd hdone (gdmcHandleGetSUID_not_isDone hout)
    · rw [if_neg hgetSuid] at hdone
      by_cases hgen : u32At st.msgin 0 = mcGenAuthTokenReq
      · rw [if_pos hgen] at hdone
        obtain ⟨hroom, hnew, hsucceeds, hwrite⟩ := gdmcHandleGenAuthToken_isDone hout hdone
        exact absurd hwrite (hproper.write ⟨⟨hvalid, hgen⟩, hroom, hnew, hsucceeds⟩)
      · rw [if_neg hgen] at hdone
        by_cases hvalidate : u32At st.msgin 0 = mcValidateAuthTokenReq
        · rw [if_pos hvalidate] at hdone
          obtain ⟨hroom, hstate, hresult⟩ := gdmcHandleValidateAuthToken_isDone hout hdone
          obtain ⟨htoken, hback⟩ := validationResult_done hresult
          refine ⟨hvalidate, ⟨hstate, htoken⟩, fun rb hrb => ?_⟩
          refine (hback rb hrb).resolve_left ?_
          exact hproper.read ⟨⟨hvalid, hvalidate⟩, hroom, hstate, htoken⟩ rb hrb
        · rw [if_neg hvalidate] at hdone
          exact absurd (compose_isDone hout hdone) (by decide)
  · rw [if_pos hvalid] at hdone
    have hmem := gdmcValidateProvMessage_mem st.msgin st.msginSize
    rw [compose_isDone hout hdone] at hmem
    exact absurd hmem (by decide)

end Steps

/-! ## Runs -/

theorem begin_bound : gdmcProvBeginProvisioning.Bound :=
  ⟨fun h => absurd rfl h, GdmcState.noConfusion⟩

/-- In a run of proper steps the instance holds what the secure world has given to it, and
provisioning is done only for the token that it holds. -/
theorem bound_run (sts : List ProvisioningStep) (p : Provisioning)
    (hproper : system.StepsMeet Proper gdmcProvBeginProvisioning sts)
    (hrun : system.run gdmcProvBeginProvisioning sts = some p) :
    p.Bound ∧ system.StepsMeet DoneOnlyIfPresented gdmcProvBeginProvisioning sts := by
  have hstep : ∀ p st p', Bound p → Proper p st → system.step p st = some p' → Bound p' := by
    intro p st p' hp hst hstep
    cases hstep
    exact step_bound hp hst
  constructor
  · exact TransitionSystem.run_invariant hstep begin_bound hproper hrun
  · exact TransitionSystem.StepsMeet.of_invariant hstep
      (fun p st _ hst => step_doneOnlyIfPresented hst) begin_bound hproper

/-- A request for a token. -/
def keyRequest (kSoCAuth : Bytes kSocAuthLength) : Memory :=
  message mcGenAuthTokenReq (CStruct.sizeOf gdmcActmsgReq) (CStruct.sizeOf gdmcActmsgReq)
    [(bodyMember gdmcActmsgReq 0).set mcCmpCmdGenerateAuthToken.toNat,
      kSoCAuth.copyTo (bodyMember gdmcActmsgReq 2).off] fun _ => 0

theorem keyRequestBody_fits (kSoCAuth : Bytes kSocAuthLength) :
    FitsBody (CStruct.sizeOf gdmcActmsgReq)
      [(bodyMember gdmcActmsgReq 0).set mcCmpCmdGenerateAuthToken.toNat,
        kSoCAuth.copyTo (bodyMember gdmcActmsgReq 2).off] := by
  constructor
  · intro a ha
    rcases List.mem_cons.mp ha with rfl | ha
    · rw [region_set]
      decide
    · have hinside : bodyOff ≤ (bodyMember gdmcActmsgReq 2).off ∧
          (bodyMember gdmcActmsgReq 2).off + kSocAuthLength ≤
            bodyOff + CStruct.sizeOf gdmcActmsgReq := by
        decide
      rw [List.mem_singleton.mp ha]
      exact hinside
  · have hdisjoint : (bodyMember gdmcActmsgReq 0).Disjoint
        ⟨(bodyMember gdmcActmsgReq 2).off, kSocAuthLength⟩ := by
      decide
    rw [List.map_cons, List.map_singleton, region_set]
    exact List.pairwise_pair.mpr hdisjoint

theorem keyRequest_msgType (kSoCAuth : Bytes kSocAuthLength) :
    u32At (keyRequest kSoCAuth) (bodyMember gdmcActmsgReq 0).off = mcCmpCmdGenerateAuthToken := by
  have hsize : (bodyMember gdmcActmsgReq 0).size = 4 := by decide
  exact u32At_of_load hsize (load_message_body (keyRequestBody_fits kSoCAuth) List.mem_cons_self)

theorem keyRequest_validated (kSoCAuth : Bytes kSocAuthLength) :
    gdmcValidateProvMessage (keyRequest kSoCAuth) 328 = .ok := by
  have hframed : Framed mcGenAuthTokenReq (UInt32.ofNat (CStruct.sizeOf gdmcActmsgReq)) _
      (keyRequest kSoCAuth) :=
    message_framed (keyRequestBody_fits kSoCAuth)
  refine (validate_framed hframed (by decide) (by decide)).trans ?_
  show (if u32At (keyRequest kSoCAuth) (bodyMember gdmcActmsgReq 0).off ≠
    mcCmpCmdGenerateAuthToken then GdError.messageFormat else .ok) = .ok
  rw [if_neg (not_not_intro (keyRequest_msgType kSoCAuth))]

/-- The secure world answers a command. -/
def answered {n : Nat} (commandId : UInt32) (data : Bytes n) : CmpAnswer n :=
  ⟨true, true, commandId ||| rspIdMask, 0, data⟩

/-- A request for a token with what the secure world says to the SUID. -/
def keyStep (getSuid : CmpAnswer suidLength) : ProvisioningStep where
  msgin := keyRequest (zeros kSocAuthLength)
  msginSize := 328
  msgout := fun _ => 0
  msgoutSize := 176
  getSuid := getSuid
  genAuthToken := answered mcCmpCmdGenerateAuthToken (zeros authtokSize)
  writecb := none
  readcb := none

theorem keyStep_isRequest (getSuid : CmpAnswer suidLength) :
    IsRequest (keyStep getSuid) mcGenAuthTokenReq := by
  refine ⟨keyRequest_validated _, ?_⟩
  exact (message_framed (keyRequestBody_fits (zeros kSocAuthLength))).msgType

/-- A token is held behind the request, with or without a SUID. -/
theorem keyStep_eq (getSuid : CmpAnswer suidLength) :
    ∃ p, system.step gdmcProvBeginProvisioning (keyStep getSuid) = some p ∧
      p.inst.state = .haveAuthtok ∧
      p.calls = ([] ++ if getSuid.Succeeds mcCmpCmdGetSuid then [.getSuid getSuid.data] else []) ++
        [.generateAuthToken (keyStep getSuid).kSoCAuth (zeros authtokSize) none] := by
  have hroom : messageSize (CStruct.sizeOf gdmcActmsgResp) ≤ (176 : UInt32).toNat := by decide
  have hgen : (answered mcCmpCmdGenerateAuthToken (zeros authtokSize)).Succeeds
      mcCmpCmdGenerateAuthToken := ⟨rfl, rfl, rfl, rfl⟩
  exact ⟨_, rfl, execute_firstToken (keyStep_isRequest getSuid) (keyRequest_msgType _) hroom rfl
    hgen (Or.inl rfl)⟩

/-- A run that fetches the SUID with its first token. -/
theorem bound_keyStep :
    ∃ p, system.run gdmcProvBeginProvisioning
        [keyStep (answered mcCmpCmdGetSuid (zeros suidLength))] = some p ∧
      p.inst.state = .haveAuthtok ∧ p.Bound ∧
      system.StepsMeet DoneOnlyIfPresented gdmcProvBeginProvisioning
        [keyStep (answered mcCmpCmdGetSuid (zeros suidLength))] := by
  obtain ⟨p, hstep, hstate, -⟩ := keyStep_eq (answered mcCmpCmdGetSuid (zeros suidLength))
  have hrun := (system.run_cons_eq_some).mpr ⟨p, hstep, system.run_nil p⟩
  refine ⟨p, hrun, hstate, bound_run _ p ⟨⟨?_, ?_, ?_⟩, fun _ _ => trivial⟩ hrun⟩
  · exact fun _ _ _ => by decide
  · exact fun _ => Option.some_ne_none _ |>.symm
  · exact fun _ rb hrb => absurd hrb.symm (Option.some_ne_none rb)

/-- A token is held without a SUID when the secure world has refused it. -/
theorem not_bound : ¬ ∀ (sts : List ProvisioningStep) (p : Provisioning),
    system.run gdmcProvBeginProvisioning sts = some p →
      p.Bound ∧ system.StepsMeet DoneOnlyIfPresented gdmcProvBeginProvisioning sts := by
  intro h
  obtain ⟨p, hstep, hstate, hcalls⟩ :=
    keyStep_eq ⟨true, true, mcCmpCmdGetSuid ||| rspIdMask, 1, zeros suidLength⟩
  have hrun := (system.run_cons_eq_some).mpr ⟨p, hstep, system.run_nil p⟩
  have hheld := (h _ p hrun).1.suid (by rw [hstate]; decide)
  rw [hcalls, if_neg (by decide), List.nil_append, List.nil_append, List.mem_singleton] at hheld
  exact SecureCall.noConfusion hheld

end Provisioning

end Exynos8890.ProvLib
