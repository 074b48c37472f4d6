import Exynos8890.MobiCore.ClientLib.Process

/-!
# What a process holds

The devices that a process has open at the client library, with their sessions and their blocks of
shared memory.  Buffers that are mapped to a session are not counted.

Main results:

- Theorem `holdings_perform`: the calls on a session keep what is held, or remove the device when
  they find the connection to the daemon dead.
- Theorems `mcCloseSession_holdings`, `mcFreeWsm_holdings` and `mcCloseDevice_holdings`: what is
  left of a single device.
- Theorem `mcOpenSession_holdings`: when a session is added to it.
-/

namespace Exynos8890.MobiCore.ClientLib

/-- A device with its sessions and its blocks. -/
structure Holding where
  deviceId : UInt32
  sessions : List UInt32
  wsms : List WsmPtr
deriving DecidableEq, Repr

def Device.holding (device : Device) : Holding where
  deviceId := device.deviceId
  sessions := device.sessionList.map Session.sessionId
  wsms := device.wsmL2List

namespace Process

def holdings (p : Process) : List Holding :=
  p.devices.map Device.holding

/-! ## Calls on a session -/

/-- A call on an open session, with its answer. -/
inductive SessionCall where
  | mcMap (buf : UInt64) (bufLen : UInt32) (answers : MapAnswers)
  | mcUnmap (buf : UInt64) (mapInfo : BulkMap) (reply : Reply Unit)
  | mcNotify (sent : Bool)
  | mcWaitNotification (answer : WaitAnswer)

/-- The process after a call. -/
def SessionCall.perform (handle : SessionHandle) (p : Process) : SessionCall → Process
  | .mcMap buf bufLen answers => (p.mcMap handle buf bufLen answers).2.2
  | .mcUnmap buf mapInfo reply => (p.mcUnmap handle buf mapInfo reply).2
  | .mcNotify sent => (p.mcNotify handle sent).2
  | .mcWaitNotification answer => (p.mcWaitNotification handle answer).2

section Session

variable {p : Process}

@[simp]
theorem holdings_register (bulkBuf : Option BulkBufferDescriptor) (p : Process) :
    (p.register bulkBuf).holdings = p.holdings :=
  rfl

@[simp]
theorem holdings_unregister (handles : List UInt32) (p : Process) :
    (p.unregister handles).holdings = p.holdings :=
  rfl

theorem holdings_updateSession {f : Session → Session}
    (hf : ∀ session, (f session).sessionId = session.sessionId) (deviceId sessionId : UInt32)
    (p : Process) :
    (p.updateDevice deviceId (Device.updateSession sessionId f)).holdings = p.holdings := by
  refine KeyedList.map_update (fun device => ?_) p.devices
  simp only [Device.holding, Device.updateSession, KeyedList.map_update hf]

theorem holdings_removeBulkBuf (deviceId : UInt32) (session : Session) (buf : UInt64)
    (p : Process) : (p.removeBulkBuf deviceId session buf).2.holdings = p.holdings := by
  unfold removeBulkBuf
  split
  · rfl
  · refine holdings_updateSession (fun session => ?_) deviceId session.sessionId p
    unfold Session.removeBulkBuf
    split <;> rfl

theorem holdings_exchangeMap (deviceId : UInt32) (session : Session) (buf : UInt64)
    (bufLen : UInt32) (reply : Reply UInt32) (p : Process) :
    (p.exchangeMap deviceId session buf bufLen reply).2.2.holdings = p.holdings := by
  unfold exchangeMap
  split
  · rfl
  split
  · exact holdings_removeBulkBuf _ _ _ _
  · exact holdings_updateSession (f := Session.setSVirtualAddr buf _) (fun _ => rfl) _ _ _

theorem holdings_mcMap (handle : SessionHandle) (buf : UInt64) (bufLen : UInt32)
    (answers : MapAnswers) (p : Process) :
    (p.mcMap handle buf bufLen answers).2.2.holdings = p.holdings := by
  unfold mcMap
  split
  · rfl
  cases resolveDeviceId handle.deviceId p.devices with
  | none => rfl
  | some device =>
      cases hsession : device.resolveSessionId handle.sessionId with
      | none => simp only [hsession]
      | some session =>
          cases hadd : session.addBulkBuf buf bufLen answers.registered with
          | error ret => simp only [hsession, hadd]
          | ok added =>
              simp only [hsession, hadd]
              have hpushed : ((p.register (some added.1)).updateDevice device.deviceId
                  (Device.updateSession session.sessionId
                    (Session.pushBulkBuf added.1))).holdings = p.holdings :=
                holdings_updateSession (Session.pushBulkBuf_sessionId added.1) _ _ _
              exact (holdings_exchangeMap _ _ _ _ _ _).trans hpushed

theorem holdings_exchangeUnmap (device : Device) (session : Session) (buf : UInt64)
    (mapInfo : BulkMap) (reply : Reply Unit) (p : Process) :
    (p.exchangeUnmap device session buf mapInfo reply).2.holdings = p.holdings := by
  unfold exchangeUnmap
  split
  · rfl
  split
  · rfl
  split
  · rfl
  · exact holdings_removeBulkBuf _ _ _ _

theorem holdings_removeIfDead (deviceId : UInt32) {result : McResult × Process}
    (h : result.2.holdings = p.holdings) :
    (removeIfDead deviceId result).2.holdings = p.holdings ∨
      (removeIfDead deviceId result).2 = result.2.removeDevice deviceId := by
  unfold removeIfDead
  split
  · exact Or.inr rfl
  · exact Or.inl h

end Session

/-! ## A single device -/

section Single

variable {p : Process} {held : Holding}

theorem exists_device (h : p.holdings = [held]) :
    ∃ device, p.devices = [device] ∧ device.holding = held :=
  List.map_eq_singleton_iff.mp h

theorem holdings_removeDevice (h : p.holdings = [held]) (deviceId : UInt32) :
    (p.removeDevice deviceId).holdings = if held.deviceId = deviceId then [] else [held] := by
  obtain ⟨device, hdevices, rfl⟩ := exists_device h
  have hid : device.holding.deviceId = device.deviceId := rfl
  rw [hid]
  by_cases hsame : device.deviceId = deviceId
  · have hresolve : resolveDeviceId deviceId p.devices = some device := by
      simp [resolveDeviceId, hdevices, KeyedList.lookup, hsame]
    have hleft : (p.removeDevice deviceId).devices =
        KeyedList.delete Device.deviceId deviceId p.devices := by
      simp only [removeDevice, unregister, WsmClient.removeDevice, hresolve]
    rw [if_pos hsame, holdings, hleft, hdevices]
    simp [KeyedList.delete, hsame]
  · have hresolve : resolveDeviceId deviceId p.devices = none := by
      simp [resolveDeviceId, hdevices, KeyedList.lookup, hsame]
    rw [if_neg hsame, removeDevice, hresolve]
    exact h

/-- Nothing is held, or the same. -/
def KeptOrNothing (held : Holding) (p : Process) : Prop :=
  p.holdings = [held] ∨ p.holdings = []

theorem keptOrNothing_removeDevice (h : p.holdings = [held]) (deviceId : UInt32) :
    (p.removeDevice deviceId).KeptOrNothing held := by
  rw [KeptOrNothing, holdings_removeDevice h]
  split
  · exact Or.inr rfl
  · exact Or.inl rfl

theorem SessionCall.perform_single (h : p.holdings = [held]) (handle : SessionHandle)
    (call : SessionCall) : (call.perform handle p).KeptOrNothing held := by
  cases call with
  | mcMap buf bufLen answers => exact Or.inl ((holdings_mcMap _ _ _ _ _).trans h)
  | mcUnmap buf mapInfo reply =>
      show (p.mcUnmap handle buf mapInfo reply).2.KeptOrNothing held
      unfold Process.mcUnmap
      split
      · exact Or.inl h
      split
      · exact Or.inl h
      split
      · exact Or.inl h
      rename_i device _ _ session _
      have hkept := holdings_exchangeUnmap device session buf mapInfo reply p
      rcases holdings_removeIfDead handle.deviceId hkept with hkept' | hremoved
      · exact Or.inl (hkept'.trans h)
      · rw [hremoved]
        exact keptOrNothing_removeDevice (hkept.trans h) _
  | mcNotify sent =>
      show (p.mcNotify handle sent).2.KeptOrNothing held
      unfold Process.mcNotify
      split
      · exact Or.inl h
      split
      · exact Or.inl h
      split
      · exact keptOrNothing_removeDevice h _
      · exact Or.inl h
  | mcWaitNotification answer =>
      show (p.mcWaitNotification handle answer).2.KeptOrNothing held
      unfold Process.mcWaitNotification
      split
      · exact Or.inl h
      split
      · exact Or.inl h
      split
      all_goals first
        | exact Or.inl h
        | exact keptOrNothing_removeDevice h _

/-! ## Without a device -/

theorem devices_eq_nil (h : p.holdings = []) : p.devices = [] :=
  List.map_eq_nil_iff.mp h

theorem resolve_eq_none (h : p.holdings = []) (deviceId : UInt32) :
    resolveDeviceId deviceId p.devices = none := by
  rw [devices_eq_nil h]
  rfl

theorem unopened_of_nil (h : p.holdings = []) (handle : SessionHandle) : p.Unopened handle := by
  intro device hdevice
  rw [resolve_eq_none h] at hdevice
  cases hdevice

theorem SessionCall.perform_nil (h : p.holdings = []) (handle : SessionHandle)
    (call : SessionCall) : call.perform handle p = p := by
  have hunopened := unopened_of_nil h handle
  cases call with
  | mcMap buf bufLen answers =>
      obtain ⟨code, -, hsame⟩ := hunopened.mcMap buf bufLen answers
      exact congrArg (fun r => r.2.2) hsame
  | mcUnmap buf mapInfo reply =>
      obtain ⟨code, -, hsame⟩ := hunopened.mcUnmap buf mapInfo reply
      exact congrArg Prod.snd hsame
  | mcNotify sent =>
      obtain ⟨code, -, hsame⟩ := hunopened.mcNotify sent
      exact congrArg Prod.snd hsame
  | mcWaitNotification answer =>
      obtain ⟨code, -, hsame⟩ := hunopened.mcWaitNotification answer
      exact congrArg Prod.snd hsame

/-- Any calls on a session keep what is held, or find the connection dead: then nothing is
left. -/
theorem holdings_perform (h : p.KeptOrNothing held) (handle : SessionHandle)
    (calls : List SessionCall) :
    (calls.foldl (fun p call => call.perform handle p) p).KeptOrNothing held := by
  induction calls generalizing p with
  | nil => exact h
  | cons call calls ih =>
      refine ih ?_
      show (call.perform handle p).KeptOrNothing held
      rcases h with hkept | hnothing
      · exact call.perform_single hkept handle
      · rw [call.perform_nil hnothing]
        exact Or.inr hnothing

/-! ## Closing -/

theorem mcCloseSession_nil (h : p.holdings = []) (handle : SessionHandle) (reply : Reply Unit) :
    (p.mcCloseSession handle reply).2 = p := by
  obtain ⟨code, -, hsame⟩ := (unopened_of_nil h handle).mcCloseSession reply
  exact congrArg Prod.snd hsame

theorem mcFreeWsm_nil (h : p.holdings = []) (deviceId : UInt32) (wsm : UInt64)
    (answer : FreeAnswer) : (p.mcFreeWsm deviceId wsm answer).2 = p := by
  simp only [Process.mcFreeWsm, WsmClient.mcFreeWsm, resolve_eq_none h]

theorem mcCloseDevice_nil (h : p.holdings = []) (deviceId : UInt32) (alive : Bool)
    (reply : Reply Unit) : (p.mcCloseDevice deviceId alive reply).2 = p := by
  simp only [Process.mcCloseDevice, resolve_eq_none h]

theorem resolve_of_single {device : Device} (h : p.devices = [device]) :
    resolveDeviceId device.deviceId p.devices = some device := by
  simp [resolveDeviceId, h, KeyedList.lookup]

/-- What is left when the only session of the device is closed. -/
theorem mcCloseSession_holdings {handle : SessionHandle} (h : p.holdings = [held])
    (hdevice : held.deviceId = handle.deviceId) (hsession : held.sessions = [handle.sessionId])
    (reply : Reply Unit) :
    (p.mcCloseSession handle reply).2.holdings =
      match reply with
      | .lost => []
      | .answered code _ => if code = mcDrvOk then [{ held with sessions := [] }] else [held] := by
  obtain ⟨device, hdevices, rfl⟩ := exists_device h
  have hid : device.deviceId = handle.deviceId := hdevice
  obtain ⟨session, hsessions, hsessionId⟩ := List.map_eq_singleton_iff.mp hsession
  have hfound : device.resolveSessionId handle.sessionId = some session := by
    simp [Device.resolveSessionId, hsessions, KeyedList.lookup, hsessionId]
  have hcall : p.mcCloseSession handle reply =
      removeIfDead handle.deviceId (p.exchangeClose device session reply) := by
    rw [mcCloseSession, ← hid, resolve_of_single hdevices]
    simp only [hfound]
  rw [hcall]
  cases reply with
  | lost =>
      have hremoved := holdings_removeDevice h handle.deviceId
      rw [if_pos hdevice] at hremoved
      exact hremoved
  | answered code payload =>
      by_cases hcode : code = mcDrvOk
      · have hclosed : p.exchangeClose device session (.answered code payload) = (mcDrvOk,
            (p.updateDevice device.deviceId
              (Device.removeSession session.sessionId)).unregister session.handles) := by
          simp only [exchangeClose, hcode, ne_eq, not_true_eq_false, if_false]
        have hleft : (p.updateDevice device.deviceId
            (Device.removeSession session.sessionId)).holdings =
              [{ device.holding with sessions := [] }] := by
          simp [holdings, updateDevice, WsmClient.updateDevice, hdevices, KeyedList.update,
            Device.holding, Device.removeSession, hsessions, KeyedList.delete]
        rw [hclosed]
        simp only [hcode, if_true]
        exact hleft
      · simp only [hcode, if_false]
        rw [exchangeClose]
        simp only [hcode, ne_eq, not_false_eq_true, if_true]
        exact h

theorem mcFreeWsm_holdings (h : p.holdings = [held]) (deviceId : UInt32) (wsm : UInt64)
    (answer : FreeAnswer) :
    ∃ wsms, (p.mcFreeWsm deviceId wsm answer).2.holdings = [{ held with wsms := wsms }] := by
  obtain ⟨device, hdevices, rfl⟩ := exists_device h
  simp only [Process.mcFreeWsm, WsmClient.mcFreeWsm]
  split
  · exact ⟨_, h⟩
  split
  · exact ⟨_, h⟩
  rename_i found _ _ block _
  unfold WsmClient.freeContiguousWsm
  dsimp only
  split
  · exact ⟨_, h⟩
  · by_cases hid : device.deviceId = found.deviceId
    · refine ⟨(device.eraseWsm block).wsmL2List, ?_⟩
      simp [holdings, WsmClient.updateDevice, hdevices, KeyedList.update, hid, Device.holding,
        Device.eraseWsm]
    · refine ⟨device.wsmL2List, ?_⟩
      simp [holdings, WsmClient.updateDevice, hdevices, KeyedList.update, hid, Device.holding]

theorem mcCloseDevice_holdings (h : p.holdings = [held]) (alive : Bool) (reply : Reply Unit) :
    (p.mcCloseDevice held.deviceId alive reply).2.holdings =
      if alive = false ∨ (held.sessions = [] ∧ reply = .answered mcDrvOk ()) then []
      else [held] := by
  have hremoved := holdings_removeDevice h held.deviceId
  rw [if_pos rfl] at hremoved
  obtain ⟨device, hdevices, rfl⟩ := exists_device h
  have hresolve : resolveDeviceId device.holding.deviceId p.devices = some device :=
    resolve_of_single hdevices
  have hsessions : device.hasSessions = true ↔ ¬ device.holding.sessions = [] := by
    simp [Device.hasSessions, Device.holding]
  simp only [Process.mcCloseDevice, hresolve]
  by_cases halive : alive = false
  · rw [if_pos halive, if_pos (Or.inl halive)]
    exact hremoved
  rw [if_neg halive]
  by_cases hempty : device.holding.sessions = []
  · rw [if_neg (fun hhas => hsessions.mp hhas hempty)]
    cases reply with
    | lost => simpa [halive] using h
    | answered code payload =>
        by_cases hcode : code = mcDrvOk
        · simpa [halive, hcode, hempty] using hremoved
        · simpa [halive, hcode, hempty] using h
  · rw [if_pos (hsessions.mpr hempty)]
    simpa [halive, hempty] using h

/-! ## Opening -/

theorem mcOpenDevice_nil (h : p.holdings = []) (deviceId : UInt32) (connection : ConnPtr)
    (result : McResult) :
    (p.mcOpenDevice deviceId connection result).1 = result ∧
      (p.mcOpenDevice deviceId connection result).2.holdings =
        if result = mcDrvOk then [⟨deviceId, [], []⟩] else [] := by
  have hdevices := devices_eq_nil h
  simp only [Process.mcOpenDevice, WsmClient.mcOpenDevice, resolve_eq_none h]
  by_cases hresult : result = mcDrvOk
  · simp [hresult, holdings, hdevices, Device.holding, Device.new]
  · simpa [hresult] using h

theorem mcOpenDevice_single (h : p.holdings = [held]) (connection : ConnPtr)
    (result : McResult) :
    p.mcOpenDevice held.deviceId connection result = (mcDrvErrDeviceAlreadyOpen, p) := by
  obtain ⟨device, hdevices, rfl⟩ := exists_device h
  have hresolve : resolveDeviceId device.holding.deviceId p.devices = some device :=
    resolve_of_single hdevices
  simp only [Process.mcOpenDevice, WsmClient.mcOpenDevice, hresolve]

theorem mcMallocWsm_unmapped (h : p.holdings = [held]) (deviceId len : UInt32)
    {answer : MapAnswer}
    (hanswer : ∀ handle virtAddr physAddr, answer ≠ .mapped handle virtAddr physAddr) :
    ∃ code t, p.mcMallocWsm deviceId len answer = (code, none, t) ∧ t.holdings = [held] := by
  obtain ⟨code, t, hfailed, hdevices⟩ := @mcMallocWsm_failed p deviceId len answer hanswer
  refine ⟨code, t, hfailed, ?_⟩
  rw [holdings, hdevices]
  exact h

theorem mcMallocWsm_mapped (h : p.holdings = [held]) {len : UInt32} (hlen : len ≠ 0)
    (handle : UInt32) (virtAddr physAddr : UInt64) :
    ∃ t wsm, p.mcMallocWsm held.deviceId len (.mapped handle virtAddr physAddr) =
        (mcDrvOk, some virtAddr, t) ∧
      t.holdings = [{ held with wsms := held.wsms ++ [wsm] }] ∧
      wsm.pWsm.virtAddr = virtAddr ∧ wsm.pWsm.len = len := by
  obtain ⟨device, hdevices, rfl⟩ := exists_device h
  have hresolve : resolveDeviceId device.holding.deviceId p.devices = some device :=
    resolve_of_single hdevices
  have hid : device.holding.deviceId = device.deviceId := rfl
  refine ⟨{ p with
    toWsmClient := (p.toWsmClient.obtain device.pMcKMod handle len (some virtAddr)).updateDevice
      device.deviceId (Device.pushWsm { ref := p.nextRef
                                        pWsm := { virtAddr, len, handle, physAddr } }) },
    { ref := p.nextRef, pWsm := { virtAddr, len, handle, physAddr } }, ?_, ?_, rfl, rfl⟩
  · simp [Process.mcMallocWsm, WsmClient.mcMallocWsm, hresolve, WsmClient.allocateContiguousWsm,
      hlen, WsmClient.mapWsm, mappedAt]
  · simp [holdings, WsmClient.updateDevice, WsmClient.obtain, hdevices, KeyedList.update,
      Device.holding, Device.pushWsm]

section Page

variable {wsm : WsmPtr} {args : OpenArgs} {answers : SessionAnswers}

theorem mcOpenSession_opened (h : p.holdings = [⟨args.deviceId, [], [wsm]⟩])
    (hcheck : Client.checkOpen false args = none) (hnull : args.tci ≠ 0)
    (htci : args.tci = wsm.pWsm.virtAddr) (hlen : args.len = wsm.pWsm.len) {sessionId : UInt32}
    (haccepted : acceptedId answers = some sessionId) :
    ∃ t, p.mcOpenSession args answers = (mcDrvOk, some sessionId, t) ∧
      t.holdings = [⟨args.deviceId, [sessionId], [wsm]⟩] := by
  obtain ⟨device, hdevices, hheld⟩ := exists_device h
  obtain ⟨hid, hsessions, hwsms⟩ := Holding.mk.inj hheld
  have hfind : device.findContiguousWsm args.tci = some wsm := by
    rw [htci] at hnull ⊢
    simp [Device.findContiguousWsm, hnull, hwsms]
  have hfits : ¬ wsm.pWsm.len < args.len := hlen ▸ UInt32.lt_irrefl _
  refine ⟨_, mcOpenSession_accepted hcheck (hid ▸ resolve_of_single hdevices) hfind hfits
    haccepted, ?_⟩
  have hempty : device.sessionList = [] := List.map_eq_nil_iff.mp hsessions
  simp [holdings, Process.updateDevice, WsmClient.updateDevice, hdevices, KeyedList.update,
    Device.holding, Device.createNewSession, hid, hempty, hwsms, Session.new]

theorem mcOpenSession_unopened (h : p.holdings = [⟨args.deviceId, [], [wsm]⟩])
    (hcheck : Client.checkOpen false args = none) (htci : args.tci = wsm.pWsm.virtAddr)
    (hlen : args.len = wsm.pWsm.len) (hempty : args.len ≠ 0)
    (hrefused : args.tci = 0 ∨ acceptedId answers = none) :
    ∃ code sessionId, code ≠ mcDrvOk ∧ p.mcOpenSession args answers = (code, sessionId, p) := by
  obtain ⟨device, hdevices, hheld⟩ := exists_device h
  obtain ⟨hid, hsessions, hwsms⟩ := Holding.mk.inj hheld
  have hresolve : resolveDeviceId args.deviceId p.devices = some device :=
    hid ▸ resolve_of_single hdevices
  by_cases hnull : args.tci = 0
  · have hhandle : Client.tciHandle false args answers.registered device =
        .error mcDrvErrTciGreaterThanWsm := by
      simp [Client.tciHandle, Device.findContiguousWsm, hnull, hempty]
    exact ⟨mcDrvErrTciGreaterThanWsm, none, by decide, by
      simp only [Process.mcOpenSession, hcheck, hresolve, hhandle]⟩
  · have hfind : device.findContiguousWsm args.tci = some wsm := by
      rw [htci] at hnull ⊢
      simp [Device.findContiguousWsm, hnull, hwsms]
    have hfits : ¬ wsm.pWsm.len < args.len := hlen ▸ UInt32.lt_irrefl _
    exact mcOpenSession_refused hcheck hresolve hfind hfits (hrefused.resolve_left hnull)

end Page

end Single

end Process

end Exynos8890.MobiCore.ClientLib
