import Exynos8890.Keymaster.TeeKeymaster

/-!
# What the keymaster's calls of its trustlet report

An operation reports success, and writes to its caller, behind calls of the client library that
have all succeeded and an answer of the trustlet that says so.  Only the generation of an HMAC key
goes on behind an error of the trustlet.

Main results:

- Definition `Answered`: every call that an operation needs succeeds, and what the trustlet
  answers.
- Theorem `run_of_answered`: what an operation comes to then.
- Theorem `answered_of_run`: it reports success or writes in no other case.
- Theorem `faithful_iff`: when an operation reports faithfully.
- Theorem `not_faithful`: the trustlet fails to generate an HMAC key.
-/

namespace Exynos8890.Keymaster

open MobiCore MobiCore.ClientLib

/-! ## The calls of the keymaster -/

/-- A call of one of the eight operations. -/
inductive TeeCall where
  | rsaGenerateKeyPair (keyType : UInt32) (keyData : UInt64)
      (keyDataLength keySize exponent : UInt32)
  | rsaSign (keyData : UInt64) (keyDataLength : UInt32) (plainData : UInt64)
      (plainDataLength : UInt32) (signatureData signatureDataLength : UInt64) (algorithm : UInt32)
  | rsaVerify (keyData : UInt64) (keyDataLength : UInt32) (plainData : UInt64)
      (plainDataLength : UInt32) (signatureData signatureDataLength : UInt64) (algorithm : UInt32)
  | hmacKeyGenerate (keyData : UInt64) (keyDataLength : UInt32)
  | hmacSign (keyData : UInt64) (keyDataLength : UInt32) (plainData : UInt64)
      (plainDataLength : UInt32) (signatureData signatureDataLength : UInt64) (digest : UInt32)
  | hmacVerify (keyData : UInt64) (keyDataLength : UInt32) (plainData : UInt64)
      (plainDataLength : UInt32) (signatureData signatureDataLength : UInt64) (digest : UInt32)
  | keyImport (keyData : UInt64) (keyDataLength : UInt32) (soData soDataLength : UInt64)
  | getPubKey (keyData : UInt64) (keyDataLength : UInt32) (modulus : UInt64)
      (modulusLength : UInt32) (exponent : UInt64) (exponentLength : UInt32)
deriving DecidableEq, Repr

def TeeCall.operation : TeeCall → TeeOperation
  | .rsaGenerateKeyPair keyType keyData keyDataLength keySize exponent =>
      teeRsaGenerateKeyPair keyType keyData keyDataLength keySize exponent
  | .rsaSign keyData keyDataLength plainData plainDataLength signatureData signatureDataLength
      algorithm =>
      teeRsaSign keyData keyDataLength plainData plainDataLength signatureData signatureDataLength
        algorithm
  | .rsaVerify keyData keyDataLength plainData plainDataLength signatureData signatureDataLength
      algorithm =>
      teeRsaVerify keyData keyDataLength plainData plainDataLength signatureData
        signatureDataLength algorithm
  | .hmacKeyGenerate keyData keyDataLength => teeHmacKeyGenerate keyData keyDataLength
  | .hmacSign keyData keyDataLength plainData plainDataLength signatureData signatureDataLength
      digest =>
      teeHmacSign keyData keyDataLength plainData plainDataLength signatureData
        signatureDataLength digest
  | .hmacVerify keyData keyDataLength plainData plainDataLength signatureData signatureDataLength
      digest =>
      teeHmacVerify keyData keyDataLength plainData plainDataLength signatureData
        signatureDataLength digest
  | .keyImport keyData keyDataLength soData soDataLength =>
      teeKeyImport keyData keyDataLength soData soDataLength
  | .getPubKey keyData keyDataLength modulus modulusLength exponent exponentLength =>
      teeGetPubKey keyData keyDataLength modulus modulusLength exponent exponentLength

/-- The call generates an HMAC key. -/
def TeeCall.GeneratesHmacKey : TeeCall → Prop
  | .hmacKeyGenerate _ _ => True
  | _ => False

instance (call : TeeCall) : Decidable call.GeneratesHmacKey := by
  cases call <;> unfold TeeCall.GeneratesHmacKey <;> infer_instance

theorem outputsOnFailure_iff (call : TeeCall) :
    call.operation.outputsOnFailure = true ↔ call.GeneratesHmacKey := by
  cases call <;> simp [TeeCall.operation, TeeCall.GeneratesHmacKey, teeRsaGenerateKeyPair,
    teeRsaSign, teeRsaVerify, teeHmacKeyGenerate, teeHmacSign, teeHmacVerify, teeKeyImport,
    teeGetPubKey]

/-- Every operation has something to write to its caller. -/
theorem outputs_ne_nil (call : TeeCall) (response : TciResponse) :
    call.operation.outputs response ≠ [] := by
  cases call <;> exact List.cons_ne_nil _ _

/-! ## Calls that succeed -/

/-- Device, page and session are opened. -/
def TeeOpened (answers : TeeAnswers) (p : Process) (pTci : UInt64) (handle : SessionHandle)
    (q : Process) : Prop :=
  ∃ p₁ p₂ sessionId,
    p.mcOpenDevice gDeviceId answers.connection answers.openDevice = (mcDrvOk, p₁) ∧
    p₁.mcMallocWsm gDeviceId sizeofTciMessage answers.mallocWsm = (mcDrvOk, some pTci, p₂) ∧
    p₂.mcOpenSession (tciArgs pTci) answers.openSession = (mcDrvOk, sessionId, q) ∧
    handle = ⟨sessionId.getD 0, gDeviceId⟩

/-- Every buffer is mapped. -/
inductive BuffersMapped (handle : SessionHandle) (answers : Nat → MapAnswers) :
    Nat → List (UInt64 × UInt32) → Process → List BulkMap → Process → Prop where
  | nil (i : Nat) (p : Process) : BuffersMapped handle answers i [] p [] p
  | cons {i : Nat} {buf : UInt64} {len : UInt32} {buffers : List (UInt64 × UInt32)}
      {p q r : Process} {mapInfo : Option BulkMap} {mapInfos : List BulkMap}
      (mapped : p.mcMap handle buf len (answers i) = (mcDrvOk, mapInfo, q))
      (rest : BuffersMapped handle answers (i + 1) buffers q mapInfos r) :
      BuffersMapped handle answers i ((buf, len) :: buffers) p
        (mapInfo.getD ⟨0, 0⟩ :: mapInfos) r

/-- Every buffer is unmapped. -/
inductive BuffersUnmapped (handle : SessionHandle) (answers : Nat → Reply Unit) :
    Nat → List (UInt64 × BulkMap) → Process → Process → Prop where
  | nil (i : Nat) (p : Process) : BuffersUnmapped handle answers i [] p p
  | cons {i : Nat} {buf : UInt64} {mapInfo : BulkMap} {mapped : List (UInt64 × BulkMap)}
      {p q r : Process} (unmapped : p.mcUnmap handle buf mapInfo (answers i) = (mcDrvOk, q))
      (rest : BuffersUnmapped handle answers (i + 1) mapped q r) :
      BuffersUnmapped handle answers i ((buf, mapInfo) :: mapped) p r

/-- The calls between opening and closing succeed, and this is what the trustlet answers. -/
def Worked (operation : TeeOperation) (answers : TeeAnswers) (handle : SessionHandle) (p : Process)
    (response : TciResponse) : Prop :=
  ∃ mapInfos p₁ p₂ p₃ p₄,
    BuffersMapped handle answers.map 0 operation.buffers p mapInfos p₁ ∧
    response = answers.response (operation.message (secureAddresses mapInfos)).commandId
      (operation.message (secureAddresses mapInfos)) ∧
    p₁.mcNotify handle answers.notify = (mcDrvOk, p₂) ∧
    p₂.mcWaitNotification handle answers.wait = (mcDrvOk, p₃) ∧
    BuffersUnmapped handle answers.unmap 0 ((operation.buffers.map Prod.fst).zip mapInfos) p₃ p₄

/-- Every call that an operation needs succeeds, and this is what the trustlet answers. -/
def Answered (operation : TeeOperation) (answers : TeeAnswers) (p : Process)
    (response : TciResponse) : Prop :=
  ∃ pTci handle q, TeeOpened answers p pTci handle q ∧ pTci ≠ 0 ∧
    Worked operation answers handle q response

section Buffers

variable {handle : SessionHandle} {p q : Process} {i : Nat}

theorem mapBuffers_eq_some_iff {answers : Nat → MapAnswers} {buffers : List (UInt64 × UInt32)}
    {mapInfos : List BulkMap} :
    mapBuffers handle answers i buffers p = (some mapInfos, q) ↔
      BuffersMapped handle answers i buffers p mapInfos q := by
  constructor
  · intro h
    induction buffers generalizing i p mapInfos with
    | nil =>
        cases h
        exact .nil _ _
    | cons buffer buffers ih =>
        rw [mapBuffers] at h
        cases hmap : p.mcMap handle buffer.1 buffer.2 (answers i) with
        | mk code rest =>
            simp only [hmap] at h
            by_cases hcode : code = mcDrvOk
            · subst hcode
              rw [if_neg (not_not.mpr rfl)] at h
              cases hrest : mapBuffers handle answers (i + 1) buffers rest.2 with
              | mk mapped t =>
                  simp only [hrest, Prod.mk.injEq, Option.map_eq_some_iff] at h
                  obtain ⟨⟨mapInfos, rfl, rfl⟩, rfl⟩ := h
                  exact .cons hmap (ih hrest)
            · rw [if_pos hcode] at h
              cases h
  · intro h
    induction h with
    | nil i p => rfl
    | cons mapped rest ih => simp [mapBuffers, mapped, ih]

theorem unmapBuffers_eq_true_iff {answers : Nat → Reply Unit} {mapped : List (UInt64 × BulkMap)} :
    unmapBuffers handle answers i mapped p = (true, q) ↔
      BuffersUnmapped handle answers i mapped p q := by
  constructor
  · intro h
    induction mapped generalizing i p with
    | nil =>
        cases h
        exact .nil _ _
    | cons buffer mapped ih =>
        rw [unmapBuffers] at h
        cases hunmap : p.mcUnmap handle buffer.1 buffer.2 (answers i) with
        | mk code t =>
            simp only [hunmap] at h
            by_cases hcode : code = mcDrvOk
            · subst hcode
              rw [if_neg (not_not.mpr rfl)] at h
              exact .cons hunmap (ih h)
            · rw [if_pos hcode] at h
              cases h
  · intro h
    induction h with
    | nil i p => rfl
    | cons unmapped rest ih => simp [unmapBuffers, unmapped, ih]

end Buffers

/-! ## What an operation comes to -/

section Results

variable {operation : TeeOperation} {answers : TeeAnswers} {p : Process} {handle : SessionHandle}
  {response : TciResponse}

/-- The result and the outputs that an operation has for an answer of the trustlet. -/
def TeeOperation.reported (operation : TeeOperation) (response : TciResponse) :
    TeeResult × List UInt64 :=
  if response.returnCode = retOk then (.errNone, operation.outputs response)
  else (.errFail, if operation.outputsOnFailure = true then operation.outputs response else [])

theorem body_of_worked (h : Worked operation answers handle p response) {pTci : UInt64}
    (htci : pTci ≠ 0) :
    ((operation.body answers pTci handle p).1, (operation.body answers pTci handle p).2.1) =
      operation.reported response := by
  obtain ⟨mapInfos, p₁, p₂, p₃, p₄, hmapped, rfl, hnotify, hwait, hunmapped⟩ := h
  rw [← mapBuffers_eq_some_iff] at hmapped
  rw [← unmapBuffers_eq_true_iff] at hunmapped
  simp only [TeeOperation.body, htci, if_false, hmapped, hnotify, hwait, hunmapped, ne_eq,
    not_true_eq_false, TeeOperation.reported]
  by_cases hcode : (answers.response (operation.message (secureAddresses mapInfos)).commandId
      (operation.message (secureAddresses mapInfos))).returnCode = retOk
  · simp only [hcode, not_true_eq_false, if_false, if_true]
  · simp only [hcode, not_false_eq_true, if_false, if_true]

/-- The body reports success or writes only when its calls have succeeded. -/
theorem worked_of_body {pTci : UInt64}
    (h : (operation.body answers pTci handle p).1 = .errNone ∨
      (operation.body answers pTci handle p).2.1 ≠ []) :
    pTci ≠ 0 ∧ ∃ response, Worked operation answers handle p response := by
  unfold TeeOperation.body at h
  by_cases htci : pTci = 0
  · simp [htci] at h
  refine ⟨htci, ?_⟩
  rw [if_neg htci] at h
  cases hmap : mapBuffers handle answers.map 0 operation.buffers p with
  | mk mapped p₁ =>
      cases mapped with
      | none => simp [hmap] at h
      | some mapInfos =>
          simp only [hmap] at h
          cases hnotify : p₁.mcNotify handle answers.notify with
          | mk code p₂ =>
              by_cases hcode : code = mcDrvOk
              · subst hcode
                simp only [hnotify, ne_eq, not_true_eq_false, if_false] at h
                cases hwait : p₂.mcWaitNotification handle answers.wait with
                | mk code p₃ =>
                    by_cases hcode : code = mcDrvOk
                    · subst hcode
                      simp only [hwait, not_true_eq_false, if_false] at h
                      cases hunmap : unmapBuffers handle answers.unmap 0
                          ((operation.buffers.map Prod.fst).zip mapInfos) p₃ with
                      | mk unmapped p₄ =>
                          cases unmapped with
                          | false => simp [hunmap] at h
                          | true =>
                              exact ⟨_, mapInfos, p₁, p₂, p₃, p₄,
                                mapBuffers_eq_some_iff.mp hmap, rfl, hnotify, hwait,
                                unmapBuffers_eq_true_iff.mp hunmap⟩
                    · simp [hwait, hcode] at h
              · simp [hnotify, hcode] at h

/-- What an operation comes to when the calls that it needs succeed. -/
theorem run_of_answered (h : Answered operation answers p response) :
    ((operation.run answers p).1, (operation.run answers p).2.1) =
      operation.reported response := by
  obtain ⟨pTci, handle, q, ⟨p₁, p₂, sessionId, hdevice, hmalloc, hsession, rfl⟩, htci, hworked⟩ := h
  have hopen : teeOpen answers p = (pTci, ⟨sessionId.getD 0, gDeviceId⟩, q) := by
    rw [tciArgs] at hsession
    simp only [teeOpen, hdevice, hmalloc, hsession, ne_eq, not_true_eq_false, if_false]
  rw [← body_of_worked hworked htci]
  simp only [TeeOperation.run, hopen]

/-! ## A session that was not opened -/

/-- The device has no session. -/
def NoSession (p : Process) : Prop :=
  ∀ device, resolveDeviceId gDeviceId p.devices = some device → device.sessionList = []

theorem NoSession.unopened (h : NoSession p) (sessionId : UInt32) :
    p.Unopened ⟨sessionId, gDeviceId⟩ := by
  intro device hdevice
  rw [Device.resolveSessionId, h device hdevice]
  rfl

theorem noSession_of_mcOpenDevice {connection : ConnPtr} {result : McResult} {q : Process}
    (h : p.mcOpenDevice gDeviceId connection result = (mcDrvOk, q)) : NoSession q := by
  unfold Process.mcOpenDevice WsmClient.mcOpenDevice at h
  intro device hdevice
  cases hresolve : resolveDeviceId gDeviceId p.devices with
  | some other =>
      simp only [hresolve] at h
      cases h
  | none =>
      by_cases hresult : result = mcDrvOk
      · simp only [hresolve, hresult, ne_eq, not_true_eq_false, if_false, Prod.mk.injEq,
          true_and] at h
        subst h
        have hnew : KeyedList.lookup Device.deviceId gDeviceId
            (p.devices ++ [Device.new gDeviceId connection p.nextRef]) = some device := hdevice
        rw [KeyedList.lookup, List.find?_append, show List.find? _ p.devices = none from hresolve,
          Option.none_or] at hnew
        have hmem := List.mem_of_find?_eq_some hnew
        rw [List.mem_singleton.mp hmem]
        rfl
      · simp [hresolve, hresult] at h

/-- A page is listed with its device, or the devices stay as they are. -/
theorem mcMallocWsm_devices (p : Process) (len : UInt32) (answer : MapAnswer) :
    (p.mcMallocWsm gDeviceId len answer).2.2.devices = p.devices ∨
      ∃ device wsm, resolveDeviceId gDeviceId p.devices = some device ∧
        (p.mcMallocWsm gDeviceId len answer).2.2.devices =
          KeyedList.update Device.deviceId gDeviceId (Device.pushWsm wsm) p.devices := by
  unfold Process.mcMallocWsm WsmClient.mcMallocWsm
  cases hresolve : resolveDeviceId gDeviceId p.devices with
  | none => exact Or.inl rfl
  | some device =>
      have hid : device.deviceId = gDeviceId := (KeyedList.mem_of_lookup hresolve).2
      by_cases hlen : len = 0
      · simp [WsmClient.allocateContiguousWsm, hlen]
      · cases answer with
        | mapFailed errno => simp [WsmClient.allocateContiguousWsm, hlen, WsmClient.mapWsm]
        | mmapFailed wsmHandle errno =>
            simp [WsmClient.allocateContiguousWsm, hlen, WsmClient.mapWsm, WsmClient.obtain]
        | mapped wsmHandle virtAddr physAddr =>
            let pWsm : CWsm := { virtAddr := virtAddr, len := len, handle := wsmHandle
                                 physAddr := physAddr }
            refine Or.inr ⟨device, { ref := p.nextRef, pWsm := pWsm }, rfl, ?_⟩
            simp only [WsmClient.allocateContiguousWsm, hlen, if_false, WsmClient.mapWsm,
              WsmClient.obtain, WsmClient.updateDevice, hid]
            rfl

theorem NoSession.mcMallocWsm (h : NoSession p) (len : UInt32) (answer : MapAnswer) :
    NoSession (p.mcMallocWsm gDeviceId len answer).2.2 := by
  intro device hdevice
  rcases mcMallocWsm_devices p len answer with hsame | ⟨found, wsm, hfound, hpushed⟩
  · rw [hsame] at hdevice
    exact h device hdevice
  · have hpush := KeyedList.lookup_update_self (f := Device.pushWsm wsm) (fun _ => rfl) hfound
    rw [hpushed, resolveDeviceId, hpush] at hdevice
    cases hdevice
    exact h found hfound

/-- A session that cannot be opened leaves the devices as they are. -/
theorem mcOpenSession_failed {args : OpenArgs} {sessionAnswers : SessionAnswers}
    (h : (p.mcOpenSession args sessionAnswers).1 ≠ mcDrvOk) :
    (p.mcOpenSession args sessionAnswers).2.2.devices = p.devices := by
  unfold Process.mcOpenSession at h ⊢
  cases hcheck : Client.checkOpen false args with
  | some code => rfl
  | none =>
      simp only [hcheck] at h ⊢
      cases hresolve : resolveDeviceId args.deviceId p.devices with
      | none => rfl
      | some device =>
          simp only [hresolve] at h ⊢
          cases hhandle : Client.tciHandle false args sessionAnswers.registered device with
          | error code => rfl
          | ok found =>
              simp only [hhandle] at h ⊢
              cases hreply : sessionAnswers.reply with
              | lost => rfl
              | answered code sessionId =>
                  simp only [hreply] at h ⊢
                  by_cases hcode : code = mcDrvOk
                  · rw [if_neg (not_not.mpr hcode)] at h ⊢
                    unfold Process.connectNq at h ⊢
                    split
                    · rfl
                    · rfl
                    · split
                      · rfl
                      · next hnq hcode' => simp [hnq, not_not.mp hcode'] at h
                  · rw [if_pos hcode]
                    rfl

theorem mcMallocWsm_ok {len : UInt32} {answer : MapAnswer} {code : McResult} {pTci : UInt64}
    {q : Process} (h : p.mcMallocWsm gDeviceId len answer = (code, some pTci, q)) :
    code = mcDrvOk := by
  simp only [Process.mcMallocWsm, Prod.mk.injEq, Option.ite_none_right_eq_some] at h
  exact h.1 ▸ h.2.1.1

/-- Everything is opened, or the page is missing, or the device has no session. -/
theorem opened_of_teeOpen {pTci : UInt64} {q : Process}
    (h : teeOpen answers p = (pTci, handle, q)) :
    TeeOpened answers p pTci handle q ∨ pTci = 0 ∨ q.Unopened handle := by
  unfold teeOpen at h
  cases hdevice : p.mcOpenDevice gDeviceId answers.connection answers.openDevice with
  | mk code p₁ =>
      simp only [hdevice] at h
      by_cases hcode : code = mcDrvOk
      · subst hcode
        have hnone := noSession_of_mcOpenDevice hdevice
        simp only [ne_eq, not_true_eq_false, if_false] at h
        cases hmalloc : p₁.mcMallocWsm gDeviceId sizeofTciMessage answers.mallocWsm with
        | mk code rest =>
            have hmapped := hnone.mcMallocWsm sizeofTciMessage answers.mallocWsm
            obtain ⟨mapped, p₂⟩ := rest
            rw [hmalloc] at hmapped
            cases mapped with
            | none =>
                simp only [hmalloc, Prod.mk.injEq] at h
                exact Or.inr (Or.inl h.1.symm)
            | some tci =>
                have hok := mcMallocWsm_ok hmalloc
                subst hok
                simp only [hmalloc] at h
                cases hsession : p₂.mcOpenSession (tciArgs tci) answers.openSession with
                | mk code rest =>
                    obtain ⟨sessionId, p₃⟩ := rest
                    have hsession' := hsession
                    rw [tciArgs] at hsession'
                    simp only [hsession', Prod.mk.injEq] at h
                    obtain ⟨rfl, rfl, rfl⟩ := h
                    by_cases hcode : code = mcDrvOk
                    · subst hcode
                      exact Or.inl ⟨p₁, p₂, sessionId, hdevice, hmalloc, hsession, rfl⟩
                    · have hsame := @mcOpenSession_failed p₂ (tciArgs tci) answers.openSession
                        (by rwa [hsession])
                      rw [hsession] at hsame
                      refine Or.inr (Or.inr (NoSession.unopened ?_ _))
                      intro device hfound
                      exact hmapped device (hsame ▸ hfound)
      · rw [if_pos hcode] at h
        cases h
        exact Or.inr (Or.inl rfl)

/-- An operation reports success or writes only when the calls that it needs have succeeded. -/
theorem answered_of_run
    (h : (operation.run answers p).1 = .errNone ∨ (operation.run answers p).2.1 ≠ []) :
    ∃ response, Answered operation answers p response := by
  cases hopen : teeOpen answers p with
  | mk pTci rest =>
      obtain ⟨handle, q⟩ := rest
      simp only [TeeOperation.run, hopen] at h
      obtain ⟨htci, response, hworked⟩ := worked_of_body h
      rcases opened_of_teeOpen hopen with hopened | hnull | hunopened
      · exact ⟨response, pTci, handle, q, hopened, htci, hworked⟩
      · exact absurd hnull htci
      · -- without a session the trustlet cannot be notified
        obtain ⟨mapInfos, p₁, p₂, -, -, hmapped, -, hnotify, -⟩ := hworked
        have hsame := mapBuffers_unopened hunopened answers.map 0 operation.buffers
        rw [mapBuffers_eq_some_iff.mpr hmapped] at hsame
        obtain ⟨code, hcode, hfails⟩ := hunopened.mcNotify answers.notify
        rw [show p₁ = q from hsame, hfails] at hnotify
        exact absurd (congrArg Prod.fst hnotify) hcode

theorem run_errNone_iff :
    (operation.run answers p).1 = .errNone ↔
      ∃ response, Answered operation answers p response ∧ response.returnCode = retOk := by
  constructor
  · intro hret
    obtain ⟨response, hanswered⟩ := answered_of_run (Or.inl hret)
    refine ⟨response, hanswered, ?_⟩
    by_contra hcode
    have hrun := run_of_answered hanswered
    rw [TeeOperation.reported, if_neg hcode, hret] at hrun
    cases (Prod.mk.inj hrun).1
  · rintro ⟨response, hanswered, hcode⟩
    have hrun := run_of_answered hanswered
    rw [TeeOperation.reported, if_pos hcode] at hrun
    exact (Prod.mk.inj hrun).1

/-! ## Faithful reports -/

/-- The operation reports success, and writes to its caller, only when every call that it needs has
succeeded and the trustlet's return code is success. -/
structure Faithful (operation : TeeOperation) (answers : TeeAnswers) (p : Process) : Prop where
  result : (operation.run answers p).1 = .errNone →
    ∃ response, Answered operation answers p response ∧ response.returnCode = retOk
  outputs : (operation.run answers p).2.1 ≠ [] →
    ∃ response, Answered operation answers p response ∧ response.returnCode = retOk

/-- The trustlet fails to generate an HMAC key. -/
def HmacKeyRefused (call : TeeCall) (answers : TeeAnswers) (p : Process) : Prop :=
  call.GeneratesHmacKey ∧
    ∃ response, Answered call.operation answers p response ∧ response.returnCode ≠ retOk

/-- An operation reports faithfully unless the trustlet fails to generate an HMAC key. -/
theorem faithful_iff (call : TeeCall) (answers : TeeAnswers) (p : Process) :
    Faithful call.operation answers p ↔ ¬ HmacKeyRefused call answers p := by
  constructor
  · rintro hfaithful ⟨hhmac, response, hanswered, hcode⟩
    have hrun := run_of_answered hanswered
    rw [TeeOperation.reported, if_neg hcode, if_pos ((outputsOnFailure_iff call).mpr hhmac),
      Prod.mk.injEq] at hrun
    obtain ⟨response', hanswered', hcode'⟩ := hfaithful.outputs
      (hrun.2 ▸ outputs_ne_nil call response)
    have hrun' := run_of_answered hanswered'
    rw [TeeOperation.reported, if_pos hcode', Prod.mk.injEq, hrun.1] at hrun'
    cases hrun'.1
  · intro hnot
    refine ⟨run_errNone_iff.mp, fun houtputs => ?_⟩
    obtain ⟨response, hanswered⟩ := answered_of_run (Or.inr houtputs)
    refine ⟨response, hanswered, ?_⟩
    by_contra hcode
    have hhmac : ¬ call.operation.outputsOnFailure = true := fun htrue =>
      hnot ⟨(outputsOnFailure_iff call).mp htrue, response, hanswered, hcode⟩
    have hrun := run_of_answered hanswered
    rw [TeeOperation.reported, if_neg hcode, if_neg hhmac, Prod.mk.injEq] at hrun
    exact houtputs hrun.2

/-- The trustlet answers the request for an HMAC key with an error, and writes a length. -/
def keyRefused : TeeAnswers :=
  { allSucceeds with
    response := fun _ _ => { allSucceeds.response 0 (.hmacgenkey 0 0) with returnCode := 1 } }

/-- Then the operation fails, and its caller gets the length. -/
theorem not_faithful :
    ((teeHmacKeyGenerate 0x20000 100).run keyRefused Process.init).1 = .errFail ∧
      ((teeHmacKeyGenerate 0x20000 100).run keyRefused Process.init).2.1 = [64] ∧
      ¬ Faithful (teeHmacKeyGenerate 0x20000 100) keyRefused Process.init := by
  have hret : ((teeHmacKeyGenerate 0x20000 100).run keyRefused Process.init).1 = .errFail := by
    decide
  have houtputs : ((teeHmacKeyGenerate 0x20000 100).run keyRefused Process.init).2.1 = [64] := by
    decide
  refine ⟨hret, houtputs, fun hfaithful => ?_⟩
  obtain ⟨response, hanswered, hcode⟩ := hfaithful.outputs (by simp [houtputs])
  have hrun := run_of_answered hanswered
  rw [TeeOperation.reported, if_pos hcode, Prod.mk.injEq, hret] at hrun
  cases hrun.1

end Results

end Exynos8890.Keymaster
