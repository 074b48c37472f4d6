import Exynos8890.MobiCore.ClientLib.Process

/-!
# The keymaster's calls of its trustlet

Each keymaster operation opens the device, a page for the TCI and a session, maps its
buffers, lets the trustlet do the work and closes again.  The eight operations differ in
their buffers, in the message for the trustlet and in what they read from its answer.

Main results:

- Definitions `teeOpen`, `teeClose` and `TeeOperation.run`, and the eight operations.
- Theorem `run_closed_iff`: when an operation leaves nothing open.
- Theorem `balanced_iff`: when each operation of a sequence leaves nothing open.
-/

namespace Exynos8890.Keymaster

open MobiCore MobiCore.ClientLib

/-- `teeResult_t`. -/
inductive TeeResult where
  | errNone
  | errFail
  | errInvalidBuffer
  | errBufferTooSmall
  | errNotImplemented
  | errSession
  | errMcDevice
  | errNotification
  | errMemory
  | errMap
deriving DecidableEq, Repr

/-- The part of `tciMessage_t` that a command writes. -/
inductive TciMessage where
  | rsagenkey (type keysize keydata keydatalen exponent : UInt32)
  | rsasign (keydata keydatalen plaindata plaindatalen signaturedata : UInt32)
      (signaturedatalen : UInt64) (algorithm : UInt32)
  | rsaverify (keydata keydatalen plaindata plaindatalen signaturedata : UInt32)
      (signaturedatalen : UInt64) (algorithm : UInt32) (validity : Bool)
  | hmacgenkey (keydata keydatalen : UInt32)
  | hmacsign (keydata keydatalen plaindata plaindatalen signaturedata : UInt32)
      (signaturedatalen : UInt64) (digest : UInt32)
  | hmacverify (keydata keydatalen plaindata plaindatalen signaturedata : UInt32)
      (signaturedatalen : UInt64) (digest : UInt32) (validity : Bool)
  | keyimport (keydata keydatalen sodata : UInt32) (sodatalen : UInt64)
  | getpubkey (keydata keydatalen modulus moduluslen exponent exponentlen : UInt32)
deriving DecidableEq, Repr

/-- The command id in the header of a message. -/
def TciMessage.commandId : TciMessage → UInt32
  | .rsagenkey .. => 1
  | .rsasign .. => 2
  | .rsaverify .. => 3
  | .hmacgenkey .. => 4
  | .hmacsign .. => 5
  | .hmacverify .. => 6
  | .keyimport .. => 7
  | .getpubkey .. => 8

/-- What the trustlet leaves in the TCI. -/
structure TciResponse where
  returnCode : UInt32
  solen : UInt64
  signaturedatalen : UInt64
  validity : Bool
  sodatalen : UInt64
  moduluslen : UInt32
  exponentlen : UInt32
deriving DecidableEq, Repr

/-- `RET_OK`. -/
def retOk : UInt32 := 0

/-- `sizeof(tciMessage_t)`, where pointers and `size_t` have 64 bits. -/
def sizeofTciMessage : UInt32 := 56

/-- `gDeviceId`. -/
def gDeviceId : UInt32 := mcDeviceIdDefault

/-- What happens during an operation: the answers to its calls, those for the buffers by
their position. -/
structure TeeAnswers where
  connection : ConnPtr
  openDevice : McResult
  mallocWsm : MapAnswer
  openSession : SessionAnswers
  map : Nat → MapAnswers
  notify : Bool
  wait : WaitAnswer
  response : UInt32 → TciMessage → TciResponse
  unmap : Nat → Reply Unit
  closeSession : Reply Unit
  alive : Bool
  closeDevice : Reply Unit

/-! ## Opening and closing -/

/-- `TEE_Open`: the TCI, the session handle, and the process.  The TCI is returned whatever
the opening of the session comes to. -/
def teeOpen (answers : TeeAnswers) (p : Process) : UInt64 × SessionHandle × Process :=
  match p.mcOpenDevice gDeviceId answers.connection answers.openDevice with
  | (mcRet, p) =>
      if mcRet ≠ mcDrvOk then (0, ⟨0, 0⟩, p)
      else
        match p.mcMallocWsm gDeviceId sizeofTciMessage answers.mallocWsm with
        | (_, none, p) => (0, ⟨0, 0⟩, p)
        | (_, some pTci, p) =>
            match p.mcOpenSession { session := true, deviceId := gDeviceId, service := true
                                    tci := pTci, len := sizeofTciMessage }
              answers.openSession with
            | (_, sessionId, p) => (pTci, ⟨sessionId.getD 0, gDeviceId⟩, p)

/-- `TEE_Close`. -/
def teeClose (answers : TeeAnswers) (handle : SessionHandle) (p : Process) : Process :=
  match p.mcCloseSession handle answers.closeSession with
  | (mcRet, p) =>
      if mcRet ≠ mcDrvOk then p
      else (p.mcCloseDevice gDeviceId answers.alive answers.closeDevice).2

/-! ## The operations -/

/-- What an operation does between opening and closing: the buffers it maps in this order,
the message with the secure addresses of the buffers, and what it hands to its caller.  Only
the generation of an HMAC key hands it over behind an error of the trustlet as well. -/
structure TeeOperation where
  buffers : List (UInt64 × UInt32)
  message : (Nat → UInt32) → TciMessage
  outputs : TciResponse → List UInt64
  outputsOnFailure : Bool

/-- Map the buffers in order, up to the first that fails. -/
def mapBuffers (handle : SessionHandle) (answers : Nat → MapAnswers) :
    Nat → List (UInt64 × UInt32) → Process → Option (List BulkMap) × Process
  | _, [], p => (some [], p)
  | i, (buf, len) :: buffers, p =>
      match p.mcMap handle buf len (answers i) with
      | (mcRet, mapInfo, p) =>
          if mcRet ≠ mcDrvOk then (none, p)
          else
            match mapBuffers handle answers (i + 1) buffers p with
            | (mapInfos, p) => (mapInfos.map (mapInfo.getD ⟨0, 0⟩ :: ·), p)

/-- Unmap the buffers in order, up to the first that fails. -/
def unmapBuffers (handle : SessionHandle) (answers : Nat → Reply Unit) :
    Nat → List (UInt64 × BulkMap) → Process → Bool × Process
  | _, [], p => (true, p)
  | i, (buf, mapInfo) :: mapped, p =>
      match p.mcUnmap handle buf mapInfo (answers i) with
      | (mcRet, p) =>
          if mcRet ≠ mcDrvOk then (false, p)
          else unmapBuffers handle answers (i + 1) mapped p

/-- The addresses of the buffers in the message, cut to 32 bits. -/
def secureAddresses (mapInfos : List BulkMap) (i : Nat) : UInt32 :=
  (mapInfos.getD i ⟨0, 0⟩).sVirtualAddr.toUInt32

/-- The operation behind `TEE_Open`. -/
def TeeOperation.body (operation : TeeOperation) (answers : TeeAnswers) (pTci : UInt64)
    (handle : SessionHandle) (p : Process) : TeeResult × List UInt64 × Process :=
  if pTci = 0 then (.errMemory, [], p)
  else
    match mapBuffers handle answers.map 0 operation.buffers p with
    | (none, p) => (.errMap, [], p)
    | (some mapInfos, p) =>
        let message := operation.message (secureAddresses mapInfos)
        let response := answers.response message.commandId message
        match p.mcNotify handle answers.notify with
        | (mcRet, p) =>
            if mcRet ≠ mcDrvOk then (.errNotification, [], p)
            else
              match p.mcWaitNotification handle answers.wait with
              | (mcRet, p) =>
                  if mcRet ≠ mcDrvOk then (.errNotification, [], p)
                  else
                    match unmapBuffers handle answers.unmap 0
                      ((operation.buffers.map Prod.fst).zip mapInfos) p with
                    | (false, p) => (.errMap, [], p)
                    | (true, p) =>
                        if response.returnCode ≠ retOk then
                          (.errFail, if operation.outputsOnFailure = true then
                            operation.outputs response else [], p)
                        else (.errNone, operation.outputs response, p)

/-- An operation from end to end. -/
def TeeOperation.run (operation : TeeOperation) (answers : TeeAnswers) (p : Process) :
    TeeResult × List UInt64 × Process :=
  match teeOpen answers p with
  | (pTci, handle, p) =>
      match operation.body answers pTci handle p with
      | (ret, outputs, p) => (ret, outputs, teeClose answers handle p)

/-- `TEE_RSAGenerateKeyPair`. -/
def teeRsaGenerateKeyPair (keyType : UInt32) (keyData : UInt64)
    (keyDataLength keySize exponent : UInt32) : TeeOperation where
  buffers := [(keyData, keyDataLength)]
  message addr := .rsagenkey keyType keySize (addr 0) keyDataLength exponent
  outputs response := [response.solen]
  outputsOnFailure := false

/-- `TEE_RSASign`. -/
def teeRsaSign (keyData : UInt64) (keyDataLength : UInt32) (plainData : UInt64)
    (plainDataLength : UInt32) (signatureData signatureDataLength : UInt64)
    (algorithm : UInt32) : TeeOperation where
  buffers := [(keyData, keyDataLength), (plainData, plainDataLength),
    (signatureData, signatureDataLength.toUInt32)]
  message addr := .rsasign (addr 0) keyDataLength (addr 1) plainDataLength (addr 2)
    signatureDataLength algorithm
  outputs response := [response.signaturedatalen]
  outputsOnFailure := false

/-- `TEE_RSAVerify`. -/
def teeRsaVerify (keyData : UInt64) (keyDataLength : UInt32) (plainData : UInt64)
    (plainDataLength : UInt32) (signatureData signatureDataLength : UInt64)
    (algorithm : UInt32) : TeeOperation where
  buffers := [(keyData, keyDataLength), (plainData, plainDataLength),
    (signatureData, signatureDataLength.toUInt32)]
  message addr := .rsaverify (addr 0) keyDataLength (addr 1) plainDataLength (addr 2)
    signatureDataLength algorithm false
  outputs response := [response.validity.toUInt64]
  outputsOnFailure := false

/-- `TEE_HMACKeyGenerate`. -/
def teeHmacKeyGenerate (keyData : UInt64) (keyDataLength : UInt32) : TeeOperation where
  buffers := [(keyData, keyDataLength)]
  message addr := .hmacgenkey (addr 0) keyDataLength
  outputs response := [response.solen]
  outputsOnFailure := true

/-- `TEE_HMACSign`. -/
def teeHmacSign (keyData : UInt64) (keyDataLength : UInt32) (plainData : UInt64)
    (plainDataLength : UInt32) (signatureData signatureDataLength : UInt64)
    (digest : UInt32) : TeeOperation where
  buffers := [(keyData, keyDataLength), (plainData, plainDataLength),
    (signatureData, signatureDataLength.toUInt32)]
  message addr := .hmacsign (addr 0) keyDataLength (addr 1) plainDataLength (addr 2)
    signatureDataLength digest
  outputs response := [response.signaturedatalen]
  outputsOnFailure := false

/-- `TEE_HMACVerify`. -/
def teeHmacVerify (keyData : UInt64) (keyDataLength : UInt32) (plainData : UInt64)
    (plainDataLength : UInt32) (signatureData signatureDataLength : UInt64)
    (digest : UInt32) : TeeOperation where
  buffers := [(keyData, keyDataLength), (plainData, plainDataLength),
    (signatureData, signatureDataLength.toUInt32)]
  message addr := .hmacverify (addr 0) keyDataLength (addr 1) plainDataLength (addr 2)
    signatureDataLength digest false
  outputs response := [response.validity.toUInt64]
  outputsOnFailure := false

/-- `TEE_KeyImport`. -/
def teeKeyImport (keyData : UInt64) (keyDataLength : UInt32) (soData soDataLength : UInt64) :
    TeeOperation where
  buffers := [(keyData, keyDataLength), (soData, soDataLength.toUInt32)]
  message addr := .keyimport (addr 0) keyDataLength (addr 1) soDataLength
  outputs response := [response.sodatalen]
  outputsOnFailure := false

/-- `TEE_GetPubKey`. -/
def teeGetPubKey (keyData : UInt64) (keyDataLength : UInt32) (modulus : UInt64)
    (modulusLength : UInt32) (exponent : UInt64) (exponentLength : UInt32) : TeeOperation where
  buffers := [(keyData, keyDataLength), (modulus, modulusLength), (exponent, exponentLength)]
  message addr := .getpubkey (addr 0) keyDataLength (addr 1) modulusLength (addr 2)
    exponentLength
  outputs response := [response.moduluslen.toUInt64, response.exponentlen.toUInt64]
  outputsOnFailure := false

/-! ## What the answers come to -/

/-- The closes succeed: the daemon closes the session, and the device unless the connection is
found dead. -/
def TeeAnswers.Closes (answers : TeeAnswers) : Prop :=
  answers.closeSession = .answered mcDrvOk () ∧
    (answers.alive = false ∨ answers.closeDevice = .answered mcDrvOk ())

instance (answers : TeeAnswers) : Decidable answers.Closes :=
  inferInstanceAs (Decidable (_ ∧ (_ ∨ _)))

/-- The device cannot be opened, or the page and the session are opened as well. -/
def TeeAnswers.OpensAllOrNothing (answers : TeeAnswers) : Prop :=
  answers.openDevice ≠ mcDrvOk ∨
    (Process.mappedAt answers.mallocWsm ≠ 0 ∧
      (Process.acceptedId answers.openSession).isSome = true)

instance (answers : TeeAnswers) : Decidable answers.OpensAllOrNothing :=
  inferInstanceAs (Decidable (_ ∨ (_ ∧ _)))

/-! ## In the session -/

section Body

variable {p : Process} {handle : SessionHandle}

theorem mapBuffers_inSession (h : p.InSession handle) (answers : Nat → MapAnswers) (i : Nat)
    (buffers : List (UInt64 × UInt32)) :
    (mapBuffers handle answers i buffers p).2.InSession handle := by
  induction buffers generalizing i p with
  | nil => exact h
  | cons buffer buffers ih =>
      have hmapped := h.mcMap buffer.1 buffer.2 (answers i)
      rw [mapBuffers]
      dsimp only
      split
      · exact hmapped
      · exact ih hmapped (i + 1)

theorem mcUnmap_stays (h : p.InSessionOrClosed handle) (buf : UInt64) (mapInfo : BulkMap)
    (reply : Reply Unit) : (p.mcUnmap handle buf mapInfo reply).2.InSessionOrClosed handle := by
  rcases h with h | h
  · exact h.mcUnmap buf mapInfo reply
  · obtain ⟨code, _, hsame⟩ := (h.unopened handle).mcUnmap buf mapInfo reply
    rw [hsame]
    exact Or.inr h

theorem unmapBuffers_stays (h : p.InSessionOrClosed handle) (answers : Nat → Reply Unit) (i : Nat)
    (mapped : List (UInt64 × BulkMap)) :
    (unmapBuffers handle answers i mapped p).2.InSessionOrClosed handle := by
  induction mapped generalizing i p with
  | nil => exact h
  | cons buffer mapped ih =>
      have hunmapped := mcUnmap_stays h buffer.1 buffer.2 (answers i)
      rw [unmapBuffers]
      dsimp only
      split
      · exact hunmapped
      · exact ih hunmapped (i + 1)

theorem mcWaitNotification_stays (h : p.InSessionOrClosed handle) (answer : WaitAnswer) :
    (p.mcWaitNotification handle answer).2.InSessionOrClosed handle := by
  rcases h with h | h
  · exact h.mcWaitNotification answer
  · obtain ⟨code, _, hsame⟩ := (h.unopened handle).mcWaitNotification answer
    rw [hsame]
    exact Or.inr h

/-- The operation stays in its session, or the device is removed. -/
theorem body_stays (h : p.InSession handle) (operation : TeeOperation) (answers : TeeAnswers)
    (pTci : UInt64) :
    (operation.body answers pTci handle p).2.2.InSessionOrClosed handle := by
  have hmapped := mapBuffers_inSession h answers.map 0 operation.buffers
  have hnotified := hmapped.mcNotify answers.notify
  have hwaited := mcWaitNotification_stays hnotified answers.wait
  unfold TeeOperation.body
  dsimp only
  split
  · exact Or.inl h
  split
  · next hmap =>
      rw [hmap] at hmapped
      exact Or.inl hmapped
  next mapInfos t hmap =>
    rw [hmap] at hnotified hwaited
    split
    · exact hnotified
    split
    · exact hwaited
    have hunmapped := unmapBuffers_stays hwaited answers.unmap 0
      ((operation.buffers.map Prod.fst).zip mapInfos)
    split
    · next hunmap =>
        rw [hunmap] at hunmapped
        exact hunmapped
    · next hunmap =>
        rw [hunmap] at hunmapped
        split
        · exact hunmapped
        · exact hunmapped

theorem mapBuffers_unopened (h : p.Unopened handle) (answers : Nat → MapAnswers) (i : Nat)
    (buffers : List (UInt64 × UInt32)) : (mapBuffers handle answers i buffers p).2 = p := by
  cases buffers with
  | nil => rfl
  | cons buffer buffers =>
      obtain ⟨code, hcode, hfails⟩ := h.mcMap buffer.1 buffer.2 (answers i)
      rw [mapBuffers]
      simp only [hfails, hcode, ne_eq, not_false_eq_true, if_true]

/-- Without a session the operation leaves the process as it is. -/
theorem body_unopened (h : p.Unopened handle) (operation : TeeOperation) (answers : TeeAnswers)
    (pTci : UInt64) : (operation.body answers pTci handle p).2.2 = p := by
  have hmapped := mapBuffers_unopened h answers.map 0 operation.buffers
  obtain ⟨code, hcode, hnotify⟩ := h.mcNotify answers.notify
  unfold TeeOperation.body
  split
  · rfl
  split
  · next hmap => exact (congrArg Prod.snd hmap).symm.trans hmapped
  · next mapInfos t hmap =>
      have ht : t = p := (congrArg Prod.snd hmap).symm.trans hmapped
      simp only [ht, hnotify, hcode, ne_eq, not_false_eq_true, if_true]

end Body

/-! ## Opening and closing -/

section OpenClose

variable {p : Process} {handle : SessionHandle} {answers : TeeAnswers}

theorem teeClose_closed (h : p.InSessionOrClosed handle) (hdevice : handle.deviceId = gDeviceId)
    (hcloses : answers.Closes) : (teeClose answers handle p).Closed := by
  obtain ⟨hsession, hclose⟩ := hcloses
  unfold teeClose
  rcases h with h | h
  · obtain ⟨t, device, hclosed, hopened, hid, hempty⟩ := h.mcCloseSession
    rw [hsession, hclosed]
    simp only [ne_eq, not_true_eq_false, if_false, ← hdevice, ← hid]
    exact hopened.mcCloseDevice hempty hclose
  · obtain ⟨code, hcode, hsame⟩ := (h.unopened handle).mcCloseSession answers.closeSession
    rw [hsame]
    simpa only [hcode, ne_eq, not_false_eq_true, if_true] using h

/-- Without a session `TEE_Close` does not come to the device. -/
theorem teeClose_unopened (h : p.Unopened handle) : teeClose answers handle p = p := by
  obtain ⟨code, hcode, hsame⟩ := h.mcCloseSession answers.closeSession
  simp only [teeClose, hsame, hcode, ne_eq, not_false_eq_true, if_true]

/-- A device without sessions is open. -/
def DeviceOnly (p : Process) : Prop :=
  ∃ device, p.devices = [device] ∧ device.sessionList = []

theorem DeviceOnly.unopened (h : DeviceOnly p) : p.Unopened handle := by
  obtain ⟨device, hdevices, hempty⟩ := h
  intro d hd
  have hmem := (KeyedList.mem_of_lookup hd).1
  rw [hdevices, List.mem_singleton] at hmem
  simp [hmem, Device.resolveSessionId, hempty, KeyedList.lookup]

theorem DeviceOnly.not_closed (h : DeviceOnly p) : ¬ p.Closed := by
  obtain ⟨device, hdevices, _⟩ := h
  intro hclosed
  rw [hclosed.devices] at hdevices
  cases hdevices

theorem teeOpen_refused (h : p.Closed) (hopen : answers.openDevice ≠ mcDrvOk) :
    teeOpen answers p = (0, ⟨0, 0⟩, p) := by
  simp only [teeOpen, h.mcOpenDevice_refused gDeviceId answers.connection hopen, ne_eq, hopen,
    not_false_eq_true, if_true]

/-- The arguments of the session. -/
def tciArgs (pTci : UInt64) : OpenArgs where
  session := true
  deviceId := gDeviceId
  service := true
  tci := pTci
  len := sizeofTciMessage

/-- Device and page are there, and the session is what is left to open. -/
theorem teeOpen_mapped (h : p.Closed) (hopen : answers.openDevice = mcDrvOk)
    {wsmHandle : UInt32} {pTci physAddr : UInt64}
    (hmalloc : answers.mallocWsm = .mapped wsmHandle pTci physAddr) :
    ∃ m device wsm, Process.OnePage m device wsm ∧ device.deviceId = gDeviceId ∧
      wsm.pWsm.virtAddr = pTci ∧ wsm.pWsm.len = sizeofTciMessage ∧
      teeOpen answers p = (pTci,
        ⟨(m.mcOpenSession (tciArgs pTci) answers.openSession).2.1.getD 0, gDeviceId⟩,
        (m.mcOpenSession (tciArgs pTci) answers.openSession).2.2) := by
  obtain ⟨t, m, device, wsm, hdevice, hmapped, hm, hid, haddr, hlen⟩ :=
    h.onePage gDeviceId answers.connection (by decide : sizeofTciMessage ≠ 0) wsmHandle pTci
      physAddr
  refine ⟨m, device, wsm, hm, hid, haddr, hlen, ?_⟩
  simp only [teeOpen, hopen, hdevice, hmalloc, hmapped, ne_eq, not_true_eq_false, if_false]
  rfl

theorem teeOpen_unmapped (h : p.Closed) (hopen : answers.openDevice = mcDrvOk)
    (hmalloc : ∀ wsmHandle pTci physAddr, answers.mallocWsm ≠ .mapped wsmHandle pTci physAddr) :
    DeviceOnly (teeOpen answers p).2.2 := by
  obtain ⟨t, hdevice, hopened⟩ := h.mcOpenDevice gDeviceId answers.connection
  obtain ⟨code, m, hfailed, hdevices⟩ :=
    @Process.mcMallocWsm_failed t gDeviceId sizeofTciMessage answers.mallocWsm hmalloc
  simp only [teeOpen, hopen, hdevice, hfailed, ne_eq, not_true_eq_false, if_false]
  exact ⟨_, hdevices.trans hopened.devices, rfl⟩

/-- `TEE_Open` leaves nothing or the session of its handle. -/
theorem teeOpen_allOrNothing (h : p.Closed) (hopens : answers.OpensAllOrNothing) :
    ((teeOpen answers p).2.2.InSession (teeOpen answers p).2.1 ∧
      (teeOpen answers p).2.1.deviceId = gDeviceId) ∨ teeOpen answers p = (0, ⟨0, 0⟩, p) := by
  by_cases hopen : answers.openDevice = mcDrvOk
  · left
    obtain ⟨htci, haccepted⟩ := hopens.resolve_left (not_not.mpr hopen)
    cases hmalloc : answers.mallocWsm with
    | mapFailed errno => exact absurd (congrArg Process.mappedAt hmalloc) htci
    | mmapFailed wsmHandle errno => exact absurd (congrArg Process.mappedAt hmalloc) htci
    | mapped wsmHandle pTci physAddr =>
        obtain ⟨m, device, wsm, hm, hid, haddr, hlen, heq⟩ := teeOpen_mapped h hopen hmalloc
        obtain ⟨sessionId, hsession⟩ := Option.isSome_iff_exists.mp haccepted
        have hnull : (tciArgs pTci).tci ≠ 0 := by
          rwa [hmalloc] at htci
        obtain ⟨t, hopened, ht⟩ := hm.mcOpenSession_accepted rfl hid.symm hnull haddr.symm hlen.symm
          hsession
        rw [heq, hopened]
        exact ⟨hid ▸ ht, rfl⟩
  · exact Or.inr (teeOpen_refused h hopen)

/-- `TEE_Open` leaves a device without a session. -/
theorem teeOpen_deviceOnly (h : p.Closed) (hopens : ¬ answers.OpensAllOrNothing) :
    DeviceOnly (teeOpen answers p).2.2 := by
  have hopen : answers.openDevice = mcDrvOk := by
    by_contra hopen
    exact hopens (Or.inl hopen)
  cases hmalloc : answers.mallocWsm with
  | mapFailed errno => exact teeOpen_unmapped h hopen (by simp [hmalloc])
  | mmapFailed wsmHandle errno => exact teeOpen_unmapped h hopen (by simp [hmalloc])
  | mapped wsmHandle pTci physAddr =>
      obtain ⟨m, device, wsm, hm, hid, haddr, hlen, heq⟩ := teeOpen_mapped h hopen hmalloc
      have hrefused : (tciArgs pTci).tci = 0 ∨ Process.acceptedId answers.openSession = none := by
        by_contra hnot
        obtain ⟨htci, haccepted⟩ := not_or.mp hnot
        refine hopens (Or.inr ⟨?_, Option.isSome_iff_ne_none.mpr haccepted⟩)
        rwa [hmalloc]
      obtain ⟨code, sessionId, _, hfails⟩ := hm.mcOpenSession_refused rfl hid.symm haddr.symm
        hlen.symm (by decide : sizeofTciMessage ≠ 0) hrefused
      rw [heq, hfails]
      exact ⟨device, hm.devices, hm.sessions⟩

end OpenClose

/-! ## Operations and sequences of them -/

section Balance

variable {p : Process}

theorem run_process (operation : TeeOperation) (answers : TeeAnswers) (p : Process) :
    (operation.run answers p).2.2 = teeClose answers (teeOpen answers p).2.1
      (operation.body answers (teeOpen answers p).1 (teeOpen answers p).2.1
        (teeOpen answers p).2.2).2.2 := by
  unfold TeeOperation.run
  dsimp only

/-- An operation leaves nothing open if and only if it opens all or nothing. -/
theorem run_closed_iff (h : p.Closed) (operation : TeeOperation) {answers : TeeAnswers}
    (hcloses : answers.Closes) :
    (operation.run answers p).2.2.Closed ↔ answers.OpensAllOrNothing := by
  rw [run_process]
  constructor
  · intro hclosed
    by_contra hopens
    have hdevice := teeOpen_deviceOnly h hopens
    rw [body_unopened hdevice.unopened, teeClose_unopened hdevice.unopened] at hclosed
    exact hdevice.not_closed hclosed
  · intro hopens
    rcases teeOpen_allOrNothing h hopens with ⟨hsession, hid⟩ | hnothing
    · exact teeClose_closed (body_stays hsession operation answers _) hid hcloses
    · rw [hnothing, body_unopened (h.unopened _), teeClose_unopened (h.unopened _)]
      exact h

/-- The process behind a sequence of operations. -/
def runAll (operations : List (TeeOperation × TeeAnswers)) (p : Process) : Process :=
  operations.foldl (fun p operation => (operation.1.run operation.2 p).2.2) p

/-- Each operation of a sequence leaves the device, the session and the page closed, and
nothing mapped. -/
def Balanced (operations : List (TeeOperation × TeeAnswers)) (p : Process) : Prop :=
  ∀ done, done <+: operations → (runAll done p).Closed

theorem runAll_cons (operation : TeeOperation × TeeAnswers)
    (operations : List (TeeOperation × TeeAnswers)) (p : Process) :
    runAll (operation :: operations) p = runAll operations (operation.1.run operation.2 p).2.2 :=
  List.foldl_cons

theorem balanced_cons (operation : TeeOperation × TeeAnswers)
    (operations : List (TeeOperation × TeeAnswers)) (p : Process) :
    Balanced (operation :: operations) p ↔
      p.Closed ∧ Balanced operations (operation.1.run operation.2 p).2.2 := by
  constructor
  · intro hbalanced
    refine ⟨hbalanced [] List.nil_prefix, fun done hdone => ?_⟩
    rw [← runAll_cons]
    exact hbalanced (operation :: done) (List.cons_prefix_cons.mpr ⟨rfl, hdone⟩)
  · rintro ⟨hclosed, hrest⟩ done hdone
    cases done with
    | nil => exact hclosed
    | cons o done =>
        obtain ⟨rfl, hprefix⟩ := List.cons_prefix_cons.mp hdone
        rw [runAll_cons]
        exact hrest done hprefix

theorem balanced_of_closed_iff (h : p.Closed) (operations : List (TeeOperation × TeeAnswers))
    (hcloses : ∀ operation ∈ operations, operation.2.Closes) :
    Balanced operations p ↔ ∀ operation ∈ operations, operation.2.OpensAllOrNothing := by
  induction operations generalizing p with
  | nil =>
      refine iff_of_true (fun done hdone => ?_) (fun _ hmem => absurd hmem List.not_mem_nil)
      rw [List.prefix_nil.mp hdone]
      exact h
  | cons operation operations ih =>
      have hfirst := run_closed_iff h operation.1 (hcloses operation List.mem_cons_self)
      rw [balanced_cons, List.forall_mem_cons, ← hfirst]
      generalize (operation.1.run operation.2 p).2.2 = q
      have hothers : ∀ o ∈ operations, o.2.Closes :=
        fun o ho => hcloses o (List.mem_cons_of_mem operation ho)
      constructor
      · rintro ⟨-, hbalanced⟩
        have hclosed : q.Closed := hbalanced [] List.nil_prefix
        exact ⟨hclosed, (ih hclosed hothers).mp hbalanced⟩
      · rintro ⟨hclosed, hopens⟩
        exact ⟨h, (ih hclosed hothers).mpr hopens⟩

end Balance

/-- In a sequence of operations whose closes succeed, each operation leaves the device, the
session and the page closed and nothing mapped, if and only if each opens all or nothing. -/
theorem balanced_iff (operations : List (TeeOperation × TeeAnswers))
    (hcloses : ∀ operation ∈ operations, operation.2.Closes) :
    Balanced operations Process.init ↔
      ∀ operation ∈ operations, operation.2.OpensAllOrNothing :=
  balanced_of_closed_iff Process.init_closed operations hcloses

/-- Everything is answered with success. -/
def allSucceeds : TeeAnswers where
  connection := 1
  openDevice := mcDrvOk
  mallocWsm := .mapped 5 0x10000 0x80000
  openSession := { registered := .ok 0, reply := .answered mcDrvOk 9
                   nq := some (.answered mcDrvOk ()) }
  map i := { registered := .ok (6 + UInt32.ofNat i), reply := .answered mcDrvOk 0x100000 }
  notify := true
  wait := .notified
  response _ _ := { returnCode := retOk, solen := 64, signaturedatalen := 64, validity := true
                    sodatalen := 64, moduluslen := 256, exponentlen := 3 }
  unmap _ := .answered mcDrvOk ()
  closeSession := .answered mcDrvOk ()
  alive := true
  closeDevice := .answered mcDrvOk ()

/-- The daemon refuses the session. -/
def sessionRefused : TeeAnswers :=
  { allSucceeds with
    openSession := { allSucceeds.openSession with
      reply := .answered mcDrvErrInvalidDeviceFile 0 } }

/-- The second buffer cannot be mapped. -/
def secondMapFails : TeeAnswers :=
  { allSucceeds with
    map := fun i => if i = 1 then { registered := .error 0x12, reply := .lost }
      else allSucceeds.map i }

theorem balanced_iff_mapFails : Balanced [(teeHmacKeyGenerate 0x20000 100, allSucceeds),
    (teeKeyImport 0x30000 80 0x40000 100, secondMapFails)] Process.init :=
  (balanced_iff _ (by decide)).mpr (by decide)

/-- The first operation leaves the device open, and the second cannot open it. -/
theorem device_left_open : ¬ ∀ operations : List (TeeOperation × TeeAnswers),
    (∀ operation ∈ operations, operation.2.Closes) → Balanced operations Process.init := by
  intro h
  have hleft : (runAll [(teeHmacKeyGenerate 0x20000 100, sessionRefused)]
      Process.init).devices ≠ [] := by
    decide
  exact hleft (h [(teeHmacKeyGenerate 0x20000 100, sessionRefused)] (by decide) _
    (List.prefix_refl _)).devices

end Exynos8890.Keymaster
