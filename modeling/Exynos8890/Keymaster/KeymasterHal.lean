import Exynos8890.Keymaster.TeeResults
import Exynos8890.Library.CStruct

/-!
# The functions of the keymaster HAL

The HAL takes lengths in `size_t` and a public exponent of 64 bits, and hands them on in arguments
of 32 bits.  The lengths that come back from the trustlet replace those of the buffers.

Main results:

- Definitions `exynosKmGenerateKeypair`, `exynosKmGetKeypairPublic`, `exynosKmSignData` and
  `exynosKmVerifyData`.
- Theorem `run_of_accepted`: what a function comes to when everything that it needs succeeds.
- Theorem `accepted_of_run`: it returns 0 in no other case.
- Theorem `request_kept_iff`: when the trustlet gets the caller's values, and every length fits its buffer.
- Theorem `not_request_kept`: an exponent of more than 32 bits, and a length that is greater than the
  buffer.
-/

namespace Exynos8890.Keymaster

open MobiCore MobiCore.ClientLib

/-! ## What a function is given and returns -/

/-- `keymaster_keypair_t`. -/
inductive KeymasterKeypair where
  | rsa
  | dsa
  | ec
deriving DecidableEq, Repr

/-- `keymaster_rsa_keygen_params_t`. -/
structure RsaKeygenParams where
  modulusSize : UInt32
  publicExponent : UInt64
deriving DecidableEq, Repr

/-- `keymaster_rsa_sign_params_t`; `DIGEST_NONE` and `PADDING_NONE` are 0. -/
structure RsaSignParams where
  digestType : UInt32
  paddingType : UInt32
deriving DecidableEq, Repr

/-- What libcrypto answers when a public key is encoded: whether its objects can be allocated and
assigned, and the results of the two calls of `i2d_PUBKEY`. -/
structure PublicKeyAnswers where
  bnMod : Bool
  bnExp : Bool
  rsa : Bool
  pkey : Bool
  assigned : Bool
  len : Int
  written : Int
deriving DecidableEq, Repr

/-- What happens during a call: the answers to the TEE operation, the addresses of the buffers
that are allocated, in this order, and what libcrypto answers. -/
structure KmAnswers where
  tee : TeeAnswers
  malloc : Nat → UInt64
  publicKey : PublicKeyAnswers

/-- What a function comes to: its result, the message that the trustlet was notified of, and the
size and the length of each buffer that the caller gets or that the function reads itself. -/
structure KmOutcome where
  code : Int
  command : Option TciMessage
  buffers : List (Nat × Nat)
  process : Process

def KmOutcome.failed (command : Option TciMessage) (p : Process) : KmOutcome where
  code := -1
  command := command
  buffers := []
  process := p

/-- The message that the trustlet is notified of. -/
def TeeOperation.notified (operation : TeeOperation) (answers : TeeAnswers) (p : Process) :
    Option TciMessage :=
  match teeOpen answers p with
  | (pTci, handle, p) =>
      if pTci = 0 then none
      else
        match mapBuffers handle answers.map 0 operation.buffers p with
        | (none, _) => none
        | (some mapInfos, p) =>
            if (p.mcNotify handle answers.notify).1 ≠ mcDrvOk then none
            else some (operation.message (secureAddresses mapInfos))

/-! ## The functions -/

/-- `RSA_KEY_BUFFER_SIZE`. -/
def rsaKeyBufferSize : UInt32 := 1536

/-- `RSA_KEY_MAX_SIZE`. -/
def rsaKeyMaxSize : UInt32 := 256

/-- `TEE_KEYPAIR_RSACRT`. -/
def teeKeypairRsacrt : UInt32 := 2

/-- `TEE_RSA_NODIGEST_NOPADDING`. -/
def teeRsaNodigestNopadding : UInt32 := 6

/-- The sizes of a modulus that are supported. -/
def SupportedModulus (modulusSize : UInt32) : Prop :=
  modulusSize = 512 ∨ modulusSize = 1024 ∨ modulusSize = 2048

instance (modulusSize : UInt32) : Decidable (SupportedModulus modulusSize) :=
  inferInstanceAs (Decidable (_ ∨ _ ∨ _))

/-- The operation of a generated key pair. -/
def generateOperation (params : RsaKeygenParams) (keyDataPtr : UInt64) : TeeOperation :=
  teeRsaGenerateKeyPair teeKeypairRsacrt keyDataPtr rsaKeyBufferSize params.modulusSize
    params.publicExponent.toUInt32

/-- `exynos_km_generate_keypair`. -/
def exynosKmGenerateKeypair (keyType : KeymasterKeypair) (keyParams : Option RsaKeygenParams)
    (answers : KmAnswers) (p : Process) : KmOutcome :=
  if keyType ≠ .rsa then .failed none p
  else
    match keyParams with
    | none => .failed none p
    | some params =>
        if ¬ SupportedModulus params.modulusSize then .failed none p
        else if answers.malloc 0 = 0 then .failed none p
        else
          let operation := generateOperation params (answers.malloc 0)
          let command := operation.notified answers.tee p
          match operation.run answers.tee p with
          | (ret, outputs, p) =>
              if ret ≠ .errNone then .failed command p
              else ⟨0, command, [(rsaKeyBufferSize.toNat, (outputs.getD 0 0).toNat)], p⟩

/-- The operation of a public key. -/
def publicOperation (keyBlob keyBlobLength binModPtr binExpPtr : UInt64) : TeeOperation :=
  teeGetPubKey keyBlob keyBlobLength.toUInt32 binModPtr rsaKeyMaxSize binExpPtr 4

/-- `exynos_km_get_keypair_public` behind the call of the TEE: the two numbers are read, and the
key is encoded. -/
def encodePublicKey (answers : KmAnswers) (command : Option TciMessage)
    (binModLen binExpLen : UInt64) (p : Process) : KmOutcome :=
  let publicKey := answers.publicKey
  if publicKey.bnMod = false then .failed command p
  else if publicKey.bnExp = false then .failed command p
  else if publicKey.rsa = false then .failed command p
  else if publicKey.pkey = false then .failed command p
  else if publicKey.assigned = false then .failed command p
  else if publicKey.len ≤ 0 then .failed command p
  else if answers.malloc 2 = 0 then .failed command p
  else if publicKey.written ≠ publicKey.len then .failed command p
  else ⟨0, command, [(rsaKeyMaxSize.toNat, binModLen.toNat), (4, binExpLen.toNat),
    (publicKey.len.toNat, publicKey.len.toNat)], p⟩

/-- `exynos_km_get_keypair_public`. -/
def exynosKmGetKeypairPublic (keyBlob keyBlobLength x509Data x509DataLength : UInt64)
    (answers : KmAnswers) (p : Process) : KmOutcome :=
  if x509Data = 0 ∨ x509DataLength = 0 then .failed none p
  else if answers.malloc 0 = 0 then .failed none p
  else if answers.malloc 1 = 0 then .failed none p
  else
    let operation := publicOperation keyBlob keyBlobLength (answers.malloc 0) (answers.malloc 1)
    let command := operation.notified answers.tee p
    match operation.run answers.tee p with
    | (ret, outputs, p) =>
        if ret ≠ .errNone then .failed command p
        else encodePublicKey answers command (outputs.getD 0 0) (outputs.getD 1 0) p

/-- The operation of a signature. -/
def signOperation (keyBlob keyBlobLength tmpData dataLength signedDataPtr : UInt64) :
    TeeOperation :=
  teeRsaSign keyBlob keyBlobLength.toUInt32 tmpData dataLength.toUInt32 signedDataPtr
    rsaKeyMaxSize.toUInt64 teeRsaNodigestNopadding

/-- `exynos_km_sign_data`.  There is no result where a null pointer is used: the parameters are not
checked, and neither is the copy of the data. -/
def exynosKmSignData (params : Option RsaSignParams)
    (keyBlob keyBlobLength data dataLength signedData signedDataLength : UInt64)
    (answers : KmAnswers) (p : Process) : Option KmOutcome :=
  if data = 0 then some (.failed none p)
  else if signedData = 0 ∨ signedDataLength = 0 then some (.failed none p)
  else do
    let signParams ← params
    if signParams.digestType ≠ 0 then some (.failed none p)
    else if signParams.paddingType ≠ 0 then some (.failed none p)
    else if answers.malloc 0 = 0 then some (.failed none p)
    else if answers.malloc 1 = 0 then none
    else
      let operation := signOperation keyBlob keyBlobLength (answers.malloc 1) dataLength
        (answers.malloc 0)
      let command := operation.notified answers.tee p
      match operation.run answers.tee p with
      | (ret, outputs, p) =>
          if ret ≠ .errNone then some (.failed command p)
          else some ⟨0, command, [(dataLength.toNat, dataLength.toNat),
            (rsaKeyMaxSize.toNat, (outputs.getD 0 0).toNat)], p⟩

/-- The operation of a verification. -/
def verifyOperation (keyBlob keyBlobLength tmpSignedData signedDataLength tmpSig
    signatureLength : UInt64) : TeeOperation :=
  teeRsaVerify keyBlob keyBlobLength.toUInt32 tmpSignedData signedDataLength.toUInt32 tmpSig
    signatureLength teeRsaNodigestNopadding

/-- `exynos_km_verify_data`. -/
def exynosKmVerifyData (params : Option RsaSignParams)
    (keyBlob keyBlobLength signedData signedDataLength signature signatureLength : UInt64)
    (answers : KmAnswers) (p : Process) : Option KmOutcome :=
  if signedData = 0 ∨ signature = 0 then some (.failed none p)
  else do
    let signParams ← params
    if signParams.digestType ≠ 0 then some (.failed none p)
    else if signParams.paddingType ≠ 0 then some (.failed none p)
    else if signatureLength ≠ signedDataLength then some (.failed none p)
    else if answers.malloc 0 = 0 then none
    else if answers.malloc 1 = 0 then none
    else
      let operation := verifyOperation keyBlob keyBlobLength (answers.malloc 0) signedDataLength
        (answers.malloc 1) signatureLength
      let command := operation.notified answers.tee p
      match operation.run answers.tee p with
      | (ret, outputs, p) =>
          if ret ≠ .errNone then some (.failed command p)
          else some ⟨if outputs.getD 0 0 = 1 then 0 else -1, command,
            [(signedDataLength.toNat, signedDataLength.toNat),
              (signatureLength.toNat, signatureLength.toNat)], p⟩

/-! ## Calls of the HAL -/

/-- A call of one of the four functions. -/
inductive KmRequest where
  | generateKeypair (keyType : KeymasterKeypair) (keyParams : Option RsaKeygenParams)
  | getKeypairPublic (keyBlob keyBlobLength x509Data x509DataLength : UInt64)
  | signData (params : Option RsaSignParams)
      (keyBlob keyBlobLength data dataLength signedData signedDataLength : UInt64)
  | verifyData (params : Option RsaSignParams)
      (keyBlob keyBlobLength signedData signedDataLength signature signatureLength : UInt64)
deriving DecidableEq, Repr

namespace KmRequest

def run (answers : KmAnswers) (p : Process) : KmRequest → Option KmOutcome
  | .generateKeypair keyType keyParams =>
      some (exynosKmGenerateKeypair keyType keyParams answers p)
  | .getKeypairPublic keyBlob keyBlobLength x509Data x509DataLength =>
      some (exynosKmGetKeypairPublic keyBlob keyBlobLength x509Data x509DataLength answers p)
  | .signData params keyBlob keyBlobLength data dataLength signedData signedDataLength =>
      exynosKmSignData params keyBlob keyBlobLength data dataLength signedData signedDataLength
        answers p
  | .verifyData params keyBlob keyBlobLength signedData signedDataLength signature
      signatureLength =>
      exynosKmVerifyData params keyBlob keyBlobLength signedData signedDataLength signature
        signatureLength answers p

/-! ### What a call needs -/

/-- The operation of the TEE that a call comes to. -/
def operation (answers : KmAnswers) : KmRequest → TeeOperation
  | .generateKeypair _ keyParams =>
      generateOperation (keyParams.getD ⟨0, 0⟩) (answers.malloc 0)
  | .getKeypairPublic keyBlob keyBlobLength _ _ =>
      publicOperation keyBlob keyBlobLength (answers.malloc 0) (answers.malloc 1)
  | .signData _ keyBlob keyBlobLength _ dataLength _ _ =>
      signOperation keyBlob keyBlobLength (answers.malloc 1) dataLength (answers.malloc 0)
  | .verifyData _ keyBlob keyBlobLength _ signedDataLength _ signatureLength =>
      verifyOperation keyBlob keyBlobLength (answers.malloc 0) signedDataLength (answers.malloc 1)
        signatureLength

/-- The public key can be encoded. -/
def Encodes (answers : KmAnswers) : Prop :=
  answers.publicKey.bnMod = true ∧ answers.publicKey.bnExp = true ∧
    answers.publicKey.rsa = true ∧ answers.publicKey.pkey = true ∧
    answers.publicKey.assigned = true ∧ 0 < answers.publicKey.len ∧ answers.malloc 2 ≠ 0 ∧
    answers.publicKey.written = answers.publicKey.len

/-- The parameters of a signature are supported. -/
def Supported (params : Option RsaSignParams) : Prop :=
  params = some ⟨0, 0⟩

/-- The arguments are in order, and everything but the operation of the TEE succeeds. -/
def Checked (answers : KmAnswers) : KmRequest → Prop
  | .generateKeypair keyType keyParams =>
      keyType = .rsa ∧ (∃ params, keyParams = some params ∧ SupportedModulus params.modulusSize) ∧
        answers.malloc 0 ≠ 0
  | .getKeypairPublic _ _ x509Data x509DataLength =>
      x509Data ≠ 0 ∧ x509DataLength ≠ 0 ∧ answers.malloc 0 ≠ 0 ∧ answers.malloc 1 ≠ 0 ∧
        Encodes answers
  | .signData params _ _ data _ signedData signedDataLength =>
      data ≠ 0 ∧ signedData ≠ 0 ∧ signedDataLength ≠ 0 ∧ Supported params ∧
        answers.malloc 0 ≠ 0 ∧ answers.malloc 1 ≠ 0
  | .verifyData params _ _ signedData signedDataLength signature signatureLength =>
      signedData ≠ 0 ∧ signature ≠ 0 ∧ Supported params ∧ signatureLength = signedDataLength ∧
        answers.malloc 0 ≠ 0 ∧ answers.malloc 1 ≠ 0

/-- A signature that is verified is valid. -/
def Valid (response : TciResponse) : KmRequest → Prop
  | .verifyData .. => response.validity = true
  | _ => True

/-- Everything that a call needs succeeds, and this is what the trustlet answers. -/
def Accepted (request : KmRequest) (answers : KmAnswers) (p : Process) (response : TciResponse) :
    Prop :=
  request.Checked answers ∧ Answered (request.operation answers) answers.tee p response ∧
    response.returnCode = retOk ∧ request.Valid response

/-- The sizes and lengths of the buffers for an answer of the trustlet. -/
def buffers (answers : KmAnswers) (response : TciResponse) : KmRequest → List (Nat × Nat)
  | .generateKeypair _ _ => [(1536, response.solen.toNat)]
  | .getKeypairPublic _ _ _ _ =>
      [(256, response.moduluslen.toNat), (4, response.exponentlen.toNat),
        (answers.publicKey.len.toNat, answers.publicKey.len.toNat)]
  | .signData _ _ _ _ dataLength _ _ =>
      [(dataLength.toNat, dataLength.toNat), (256, response.signaturedatalen.toNat)]
  | .verifyData _ _ _ _ signedDataLength _ signatureLength =>
      [(signedDataLength.toNat, signedDataLength.toNat),
        (signatureLength.toNat, signatureLength.toNat)]

end KmRequest

/-! ## What a call comes to -/

section Calls

variable {operation : TeeOperation} {answers : TeeAnswers} {p : Process} {response : TciResponse}

/-- An operation that succeeds, with the message that the trustlet was notified of. -/
theorem run_succeeds (h : Answered operation answers p response)
    (hcode : response.returnCode = retOk) :
    ∃ q addr, operation.run answers p = (.errNone, operation.outputs response, q) ∧
      operation.notified answers p = some (operation.message addr) := by
  have hrun := run_of_answered h
  rw [TeeOperation.reported, if_pos hcode, Prod.mk.injEq] at hrun
  obtain ⟨pTci, handle, q, ⟨p₁, p₂, sessionId, hdevice, hmalloc, hsession, rfl⟩, htci, mapInfos, p₃,
    p₄, -, -, hmapped, -, hnotify, -⟩ := h
  refine ⟨(operation.run answers p).2.2, secureAddresses mapInfos, ?_, ?_⟩
  · rw [← hrun.1, ← hrun.2]
  · rw [tciArgs] at hsession
    simp only [TeeOperation.notified, teeOpen, hdevice, hmalloc, hsession, ne_eq,
      not_true_eq_false, if_false, htci, mapBuffers_eq_some_iff.mpr hmapped, hnotify]

end Calls

section Requests

variable {request : KmRequest} {answers : KmAnswers} {p : Process} {response : TciResponse}

/-- What a call comes to when everything that it needs succeeds. -/
theorem run_of_accepted (h : request.Accepted answers p response) :
    ∃ q addr, request.run answers p = some
      ⟨0, some ((request.operation answers).message addr), request.buffers answers response, q⟩ := by
  obtain ⟨hchecked, hanswered, hcode, hvalid⟩ := h
  obtain ⟨q, addr, hrun, hnotified⟩ := run_succeeds hanswered hcode
  refine ⟨q, addr, ?_⟩
  cases request with
  | generateKeypair keyType keyParams =>
      obtain ⟨rfl, ⟨params, rfl, hsize⟩, hmalloc⟩ := hchecked
      simp only [KmRequest.operation, Option.getD_some] at hrun hnotified ⊢
      simp only [KmRequest.run, exynosKmGenerateKeypair, hsize, hmalloc, hrun, hnotified, ne_eq,
        not_true_eq_false, if_false]
      rfl
  | getKeypairPublic keyBlob keyBlobLength x509Data x509DataLength =>
      obtain ⟨hdata, hlength, hmod, hexp, hmodBn, hexpBn, hrsa, hpkey, hassigned, hlen, hkey,
        hwritten⟩ := hchecked
      simp only [KmRequest.operation] at hrun hnotified ⊢
      simp only [KmRequest.run, exynosKmGetKeypairPublic, hdata, hlength, or_self, hmod, hexp, hrun,
        hnotified, ne_eq, not_true_eq_false, if_false, encodePublicKey, hmodBn, hexpBn, hrsa, hpkey,
        hassigned, not_le.mpr hlen, hkey, hwritten, Bool.true_eq_false]
      simp only [publicOperation, teeGetPubKey, List.getD_cons_zero, List.getD_cons_succ,
        UInt32.toNat_toUInt64, KmRequest.buffers]
      rfl
  | signData params keyBlob keyBlobLength data dataLength signedData signedDataLength =>
      obtain ⟨hdata, hsigned, hlength, rfl, hsignedPtr, htmp⟩ := hchecked
      simp only [KmRequest.operation] at hrun hnotified ⊢
      simp only [KmRequest.run, exynosKmSignData, hdata, hsigned, hlength, or_self, hsignedPtr, htmp,
        hrun, hnotified, ne_eq, not_true_eq_false, if_false]
      rfl
  | verifyData params keyBlob keyBlobLength signedData signedDataLength signature
      signatureLength =>
      obtain ⟨hdata, hsignature, rfl, rfl, hsignedPtr, hsigPtr⟩ := hchecked
      simp only [KmRequest.operation] at hrun hnotified ⊢
      simp only [KmRequest.run, exynosKmVerifyData, hdata, hsignature, or_self, hsignedPtr, hsigPtr,
        hrun, hnotified, ne_eq, not_true_eq_false, if_false]
      have hvalidity : response.validity = true := hvalid
      simp only [verifyOperation, teeRsaVerify, List.getD_cons_zero, hvalidity]
      rfl

theorem of_ite_code {c : Prop} [Decidable c] {command : Option TciMessage} {q : Process}
    {rest : KmOutcome} (h : (if c then KmOutcome.failed command q else rest).code = 0) :
    ¬ c ∧ rest.code = 0 := by
  by_cases hc : c
  · rw [if_pos hc] at h
    cases h
  · rw [if_neg hc] at h
    exact ⟨hc, h⟩

theorem of_ite_some {c : Prop} [Decidable c] {command : Option TciMessage} {q : Process}
    {rest : Option KmOutcome} {outcome : KmOutcome} (hcode : outcome.code = 0)
    (h : (if c then some (KmOutcome.failed command q) else rest) = some outcome) :
    ¬ c ∧ rest = some outcome := by
  by_cases hc : c
  · rw [if_pos hc, Option.some.injEq] at h
    rw [← h] at hcode
    cases hcode
  · rw [if_neg hc] at h
    exact ⟨hc, h⟩

theorem of_ite_none {c : Prop} [Decidable c] {rest : Option KmOutcome} {outcome : KmOutcome}
    (h : (if c then none else rest) = some outcome) : ¬ c ∧ rest = some outcome := by
  by_cases hc : c
  · rw [if_pos hc] at h
    cases h
  · rw [if_neg hc] at h
    exact ⟨hc, h⟩

theorem answered_of_ret {operation : TeeOperation} {tee : TeeAnswers} {ret : TeeResult}
    {rest : List UInt64 × Process} (hrun : operation.run tee p = (ret, rest))
    (hret : ¬ ret ≠ .errNone) :
    ∃ response, Answered operation tee p response ∧ response.returnCode = retOk := by
  apply run_errNone_iff.mp
  rw [hrun]
  exact not_not.mp hret

theorem generateKeypair_accepted {keyType : KeymasterKeypair}
    {keyParams : Option RsaKeygenParams}
    (hcode : (exynosKmGenerateKeypair keyType keyParams answers p).code = 0) :
    ∃ response, (KmRequest.generateKeypair keyType keyParams).Accepted answers p response := by
  unfold exynosKmGenerateKeypair at hcode
  obtain ⟨htype, hcode⟩ := of_ite_code hcode
  cases keyParams with
  | none => cases hcode
  | some params =>
      obtain ⟨hsize, hcode⟩ := of_ite_code hcode
      obtain ⟨hmalloc, hcode⟩ := of_ite_code hcode
      obtain ⟨hret, -⟩ := of_ite_code hcode
      obtain ⟨response, hanswered, hreturned⟩ := run_errNone_iff.mp (not_not.mp hret)
      exact ⟨response, ⟨not_not.mp htype, ⟨params, rfl, not_not.mp hsize⟩, hmalloc⟩, hanswered,
        hreturned, trivial⟩

theorem getKeypairPublic_accepted {keyBlob keyBlobLength x509Data x509DataLength : UInt64}
    (hcode : (exynosKmGetKeypairPublic keyBlob keyBlobLength x509Data x509DataLength answers
      p).code = 0) :
    ∃ response, (KmRequest.getKeypairPublic keyBlob keyBlobLength x509Data
      x509DataLength).Accepted answers p response := by
  unfold exynosKmGetKeypairPublic at hcode
  obtain ⟨hnull, hcode⟩ := of_ite_code hcode
  obtain ⟨hmod, hcode⟩ := of_ite_code hcode
  obtain ⟨hexp, hcode⟩ := of_ite_code hcode
  obtain ⟨hret, hcode⟩ := of_ite_code hcode
  obtain ⟨response, hanswered, hreturned⟩ := run_errNone_iff.mp (not_not.mp hret)
  unfold encodePublicKey at hcode
  obtain ⟨hmodBn, hcode⟩ := of_ite_code hcode
  obtain ⟨hexpBn, hcode⟩ := of_ite_code hcode
  obtain ⟨hrsa, hcode⟩ := of_ite_code hcode
  obtain ⟨hpkey, hcode⟩ := of_ite_code hcode
  obtain ⟨hassigned, hcode⟩ := of_ite_code hcode
  obtain ⟨hlen, hcode⟩ := of_ite_code hcode
  obtain ⟨hkey, hcode⟩ := of_ite_code hcode
  obtain ⟨hwritten, -⟩ := of_ite_code hcode
  rw [not_or] at hnull
  simp only [Bool.not_eq_false] at hmodBn hexpBn hrsa hpkey hassigned
  have hencodes : KmRequest.Encodes answers :=
    ⟨hmodBn, hexpBn, hrsa, hpkey, hassigned, not_le.mp hlen, hkey, not_not.mp hwritten⟩
  exact ⟨response, ⟨hnull.1, hnull.2, hmod, hexp, hencodes⟩, hanswered, hreturned, trivial⟩

theorem supported_of_checks {signParams : RsaSignParams} (hdigest : ¬ signParams.digestType ≠ 0)
    (hpadding : ¬ signParams.paddingType ≠ 0) : KmRequest.Supported (some signParams) := by
  obtain ⟨digestType, paddingType⟩ := signParams
  obtain rfl : digestType = 0 := not_not.mp hdigest
  obtain rfl : paddingType = 0 := not_not.mp hpadding
  rfl

theorem signData_accepted {params : Option RsaSignParams}
    {keyBlob keyBlobLength data dataLength signedData signedDataLength : UInt64}
    {outcome : KmOutcome} (hcode : outcome.code = 0)
    (hrun : exynosKmSignData params keyBlob keyBlobLength data dataLength signedData
      signedDataLength answers p = some outcome) :
    ∃ response, (KmRequest.signData params keyBlob keyBlobLength data dataLength signedData
      signedDataLength).Accepted answers p response := by
  unfold exynosKmSignData at hrun
  obtain ⟨hdata, hrun⟩ := of_ite_some hcode hrun
  obtain ⟨hnull, hrun⟩ := of_ite_some hcode hrun
  obtain ⟨signParams, rfl, hrun⟩ := Option.bind_eq_some_iff.mp hrun
  obtain ⟨hdigest, hrun⟩ := of_ite_some hcode hrun
  obtain ⟨hpadding, hrun⟩ := of_ite_some hcode hrun
  obtain ⟨hsigned, hrun⟩ := of_ite_some hcode hrun
  obtain ⟨htmp, hrun⟩ := of_ite_none hrun
  dsimp only at hrun
  cases hop : (signOperation keyBlob keyBlobLength (answers.malloc 1) dataLength
      (answers.malloc 0)).run answers.tee p with
  | mk ret rest =>
      rw [hop] at hrun
      obtain ⟨response, hanswered, hreturned⟩ :=
        answered_of_ret hop (of_ite_some hcode hrun).1
      rw [not_or] at hnull
      have hsupported := supported_of_checks hdigest hpadding
      exact ⟨response, ⟨hdata, hnull.1, hnull.2, hsupported, hsigned, htmp⟩, hanswered, hreturned,
        trivial⟩

theorem verifyData_accepted {params : Option RsaSignParams}
    {keyBlob keyBlobLength signedData signedDataLength signature signatureLength : UInt64}
    {outcome : KmOutcome} (hcode : outcome.code = 0)
    (hrun : exynosKmVerifyData params keyBlob keyBlobLength signedData signedDataLength signature
      signatureLength answers p = some outcome) :
    ∃ response, (KmRequest.verifyData params keyBlob keyBlobLength signedData signedDataLength
      signature signatureLength).Accepted answers p response := by
  unfold exynosKmVerifyData at hrun
  obtain ⟨hnull, hrun⟩ := of_ite_some hcode hrun
  obtain ⟨signParams, rfl, hrun⟩ := Option.bind_eq_some_iff.mp hrun
  obtain ⟨hdigest, hrun⟩ := of_ite_some hcode hrun
  obtain ⟨hpadding, hrun⟩ := of_ite_some hcode hrun
  obtain ⟨hlength, hrun⟩ := of_ite_some hcode hrun
  obtain ⟨hdata, hrun⟩ := of_ite_none hrun
  obtain ⟨hsig, hrun⟩ := of_ite_none hrun
  dsimp only at hrun
  cases hop : (verifyOperation keyBlob keyBlobLength (answers.malloc 0) signedDataLength
      (answers.malloc 1) signatureLength).run answers.tee p with
  | mk ret rest =>
      rw [hop] at hrun
      obtain ⟨hret, hrun⟩ := of_ite_some hcode hrun
      obtain ⟨response, hanswered, hreturned⟩ := answered_of_ret hop hret
      rw [not_or] at hnull
      have hsupported := supported_of_checks hdigest hpadding
      refine ⟨response, ⟨hnull.1, hnull.2, hsupported, not_not.mp hlength, hdata, hsig⟩, hanswered,
        hreturned, ?_⟩
      show response.validity = true
      -- the function returns 0 for a valid signature only
      by_contra hinvalid
      obtain ⟨q, addr, hsucceeds, -⟩ := run_succeeds hanswered hreturned
      rw [hop, Prod.mk.injEq] at hsucceeds
      rw [hsucceeds.2, Option.some.injEq] at hrun
      subst hrun
      simp only [verifyOperation, teeRsaVerify, List.getD_cons_zero,
        Bool.eq_false_of_not_eq_true hinvalid] at hcode
      cases hcode

/-- A call returns 0 only when everything that it needs succeeds. -/
theorem accepted_of_run {outcome : KmOutcome} (hrun : request.run answers p = some outcome)
    (hcode : outcome.code = 0) : ∃ response, request.Accepted answers p response := by
  cases request with
  | generateKeypair keyType keyParams =>
      rw [KmRequest.run, Option.some.injEq] at hrun
      exact generateKeypair_accepted (hrun ▸ hcode)
  | getKeypairPublic keyBlob keyBlobLength x509Data x509DataLength =>
      rw [KmRequest.run, Option.some.injEq] at hrun
      exact getKeypairPublic_accepted (hrun ▸ hcode)
  | signData params keyBlob keyBlobLength data dataLength signedData signedDataLength =>
      exact signData_accepted hcode hrun
  | verifyData params keyBlob keyBlobLength signedData signedDataLength signature
      signatureLength =>
      exact verifyData_accepted hcode hrun

end Requests

/-! ## Lengths -/

namespace KmRequest

/-- The message has the caller's exponent, key size and lengths. -/
def CarriedBy : KmRequest → TciMessage → Prop
  | .generateKeypair _ keyParams, .rsagenkey _ keysize _ _ exponent =>
      ∀ params ∈ keyParams, keysize = params.modulusSize ∧
        exponent.toNat = params.publicExponent.toNat
  | .getKeypairPublic _ keyBlobLength _ _, .getpubkey _ keydatalen _ _ _ _ =>
      keydatalen.toNat = keyBlobLength.toNat
  | .signData _ _ keyBlobLength _ dataLength _ _, .rsasign _ keydatalen _ plaindatalen _ _ _ =>
      keydatalen.toNat = keyBlobLength.toNat ∧ plaindatalen.toNat = dataLength.toNat
  | .verifyData _ _ keyBlobLength _ signedDataLength _ signatureLength,
      .rsaverify _ keydatalen _ plaindatalen _ signaturedatalen _ _ =>
      keydatalen.toNat = keyBlobLength.toNat ∧ plaindatalen.toNat = signedDataLength.toNat ∧
        signaturedatalen = signatureLength
  | _, _ => False

/-- When the function returns 0, the message that the trustlet was notified of has the caller's
values, and no length is greater than its buffer. -/
def Kept (request : KmRequest) (answers : KmAnswers) (p : Process) : Prop :=
  ∀ outcome, request.run answers p = some outcome → outcome.code = 0 →
    (∃ message, outcome.command = some message ∧ request.CarriedBy message) ∧
      ∀ buffer ∈ outcome.buffers, buffer.2 ≤ buffer.1

/-- The exponent and the lengths of the input have 32 bits. -/
def Narrow : KmRequest → Prop
  | .generateKeypair _ keyParams =>
      ∀ params ∈ keyParams, params.publicExponent < 0x100000000
  | .getKeypairPublic _ keyBlobLength _ _ => keyBlobLength < 0x100000000
  | .signData _ _ keyBlobLength _ dataLength _ _ =>
      keyBlobLength < 0x100000000 ∧ dataLength < 0x100000000
  | .verifyData _ _ keyBlobLength _ signedDataLength _ _ =>
      keyBlobLength < 0x100000000 ∧ signedDataLength < 0x100000000

/-- The lengths that the trustlet returns are those of the buffers, or less. -/
def Fits (response : TciResponse) : KmRequest → Prop
  | .generateKeypair _ _ => response.solen.toNat ≤ 1536
  | .getKeypairPublic _ _ _ _ =>
      response.moduluslen.toNat ≤ 256 ∧ response.exponentlen.toNat ≤ 4
  | .signData _ _ _ _ _ _ _ => response.signaturedatalen.toNat ≤ 256
  | .verifyData _ _ _ _ _ _ _ => True

theorem carriedBy_iff (request : KmRequest) (answers : KmAnswers) (addr : Nat → UInt32) :
    request.CarriedBy ((request.operation answers).message addr) ↔ request.Narrow := by
  cases request with
  | generateKeypair keyType keyParams =>
      cases keyParams with
      | none => simp [CarriedBy, operation, generateOperation, teeRsaGenerateKeyPair, Narrow]
      | some params =>
          simp only [CarriedBy, operation, generateOperation, teeRsaGenerateKeyPair, Narrow,
            Option.getD_some, Option.mem_some_iff, forall_eq', true_and]
          exact CStruct.toNat_toUInt32_eq_iff params.publicExponent
  | getKeypairPublic keyBlob keyBlobLength x509Data x509DataLength =>
      exact CStruct.toNat_toUInt32_eq_iff keyBlobLength
  | signData params keyBlob keyBlobLength data dataLength signedData signedDataLength =>
      exact and_congr (CStruct.toNat_toUInt32_eq_iff keyBlobLength)
        (CStruct.toNat_toUInt32_eq_iff dataLength)
  | verifyData params keyBlob keyBlobLength signedData signedDataLength signature
      signatureLength =>
      simp only [CarriedBy, operation, verifyOperation, teeRsaVerify, Narrow, and_true]
      exact and_congr (CStruct.toNat_toUInt32_eq_iff keyBlobLength)
        (CStruct.toNat_toUInt32_eq_iff signedDataLength)

theorem buffers_iff (request : KmRequest) (answers : KmAnswers) (response : TciResponse) :
    (∀ buffer ∈ request.buffers answers response, buffer.2 ≤ buffer.1) ↔
      request.Fits response := by
  cases request <;> simp [buffers, Fits]

/-- The caller's values get to the trustlet, and every length fits its buffer, if and only if both
is the case for each answer of the trustlet with which the call succeeds. -/
theorem request_kept_iff (request : KmRequest) (answers : KmAnswers) (p : Process) :
    request.Kept answers p ↔
      ∀ response, request.Accepted answers p response → request.Narrow ∧ request.Fits response := by
  constructor
  · intro hkept response haccepted
    obtain ⟨q, addr, hrun⟩ := run_of_accepted haccepted
    obtain ⟨⟨message, hmessage, hcarried⟩, hbuffers⟩ := hkept _ hrun rfl
    cases hmessage
    exact ⟨(carriedBy_iff request answers addr).mp hcarried,
      (buffers_iff request answers response).mp hbuffers⟩
  · intro h outcome hrun hcode
    obtain ⟨response, haccepted⟩ := accepted_of_run hrun hcode
    obtain ⟨hnarrow, hfits⟩ := h response haccepted
    obtain ⟨q, addr, hrun'⟩ := run_of_accepted haccepted
    rw [hrun] at hrun'
    cases hrun'
    exact ⟨⟨_, rfl, (carriedBy_iff request answers addr).mpr hnarrow⟩,
      (buffers_iff request answers response).mpr hfits⟩

/-- The caller asks for an exponent whose low half is 3. -/
def wideExponent : KmRequest :=
  .generateKeypair .rsa (some ⟨2048, 0x100000003⟩)

/-- Everything succeeds, and every allocation has its place. -/
def everythingSucceeds : KmAnswers where
  tee := allSucceeds
  malloc i := 0x20000 + 0x1000 * UInt64.ofNat i
  publicKey := { bnMod := true, bnExp := true, rsa := true, pkey := true, assigned := true
                 len := 294, written := 294 }

/-- The trustlet returns a longer signature than the buffer has room for. -/
def longSignature : KmAnswers :=
  { everythingSucceeds with
    tee := { allSucceeds with
      response := fun _ _ =>
        { allSucceeds.response 0 (.hmacgenkey 0 0) with signaturedatalen := 4096 } } }

def plainSignature : KmRequest :=
  .signData (some ⟨0, 0⟩) 0x10000 640 0x11000 256 0x12000 0x13000

/-- The trustlet generates a key with the exponent 3; and a caller gets 256 bytes with the length
4096. -/
theorem not_request_kept : ¬ wideExponent.Kept everythingSucceeds Process.init ∧
    ¬ plainSignature.Kept longSignature Process.init := by
  constructor
  · intro hkept
    obtain ⟨⟨message, hmessage, hcarried⟩, -⟩ := hkept _ rfl (by decide)
    have hcommand : (exynosKmGenerateKeypair .rsa (some ⟨2048, 0x100000003⟩) everythingSucceeds
        Process.init).command = some (.rsagenkey 2 2048 0x100000 1536 3) := by
      decide
    rw [hcommand, Option.some.injEq] at hmessage
    subst hmessage
    exact absurd (hcarried ⟨2048, 0x100000003⟩ rfl).2 (by decide)
  · intro hkept
    have hbuffers : (plainSignature.run longSignature Process.init).map
        (fun outcome => (outcome.code, outcome.buffers)) =
          some (0, [(256, 256), (256, 4096)]) := by
      decide
    obtain ⟨outcome, hrun, houtcome⟩ := Option.map_eq_some_iff.mp hbuffers
    rw [Prod.mk.injEq] at houtcome
    have hfits := (hkept outcome hrun houtcome.1).2 (256, 4096) (by simp [houtcome.2])
    exact absurd hfits (by decide)

end KmRequest

end Exynos8890.Keymaster
