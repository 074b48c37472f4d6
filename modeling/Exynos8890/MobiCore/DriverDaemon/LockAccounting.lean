import Exynos8890.MobiCore.DriverDaemon.Connections

/-!
# Locks on shared memory

The daemon locks a handle when a session is opened with a TCI or a buffer is
mapped, and unlocks it when the session or the mapping ends.  The account: locks
taken less locks released, against the buffers that the sessions hold.

Main results:

- Theorem `effect_ledger`: a step that records the lock it takes keeps the account.
- Theorem `locks_run`: the account is exact between commands in every run of such
  steps.
- Theorem `not_locks_exact`: a TCI that does not fit its block leaves a lock behind.
-/

namespace Exynos8890.MobiCore

namespace Daemon

/-- What an event adds to the locks on a handle. -/
def Event.locks (handle : UInt32) : Event → Int
  | .lockWsmL2 h => if h = handle then 1 else 0
  | .unlockWsmL2 h => if h = handle then -1 else 0
  | _ => 0

/-- Successful `lockWsmL2` calls less `unlockWsmL2` calls. -/
def outstandingLocks (trace : List Event) (handle : UInt32) : Int :=
  (trace.map (Event.locks handle)).sum

@[simp]
theorem outstandingLocks_append (a b : List Event) (handle : UInt32) :
    outstandingLocks (a ++ b) handle = outstandingLocks a handle + outstandingLocks b handle := by
  simp [outstandingLocks]

@[simp]
theorem outstandingLocks_nil (handle : UInt32) : outstandingLocks [] handle = 0 :=
  rfl

@[simp]
theorem outstandingLocks_cons (e : Event) (es : List Event) (handle : UInt32) :
    outstandingLocks (e :: es) handle = Event.locks handle e + outstandingLocks es handle := by
  simp [outstandingLocks]

/-- The buffers of a session with this handle. -/
def bufferCount (handle : UInt32) (s : TrustletSession) : Nat :=
  s.buffers.items.countP fun pWsm => pWsm.handle = handle

/-- The (session, buffer) entries with this handle. -/
def bufferEntries (d : Daemon) (handle : UInt32) : Nat :=
  (d.trustletSessions.map (bufferCount handle)).sum

/-- The lock that an open command in flight has taken and not recorded yet. -/
def pendingLock (handle : UInt32) : ServerPc → Int
  | .openWait frame => if frame.usesTci ∧ frame.tciHandle = handle then 1 else 0
  | _ => 0

/-- The account of the locks. -/
def Ledger (d : Daemon) : Prop :=
  ∀ handle, outstandingLocks d.trace handle = d.bufferEntries handle + pendingLock handle d.srv

/-! ## The condition on the steps -/

/-- A TCI that is found and locked is not longer than its block. -/
def TciFits (cmd : CmdOpenSession) (answers : OpenAnswers) : Prop :=
  ∀ regObj ∈ answers.regObj, regObj.len ≠ 0 → answers.load.isSome = true →
    cmd.handle ≠ 0 → cmd.len ≠ 0 → answers.wsm.lock = true →
      ∀ tci ∈ findTci answers.wsm cmd.len cmd.tci.toUInt32, cmd.len ≤ tci.len

/-- A buffer that is locked is resolved, and a session of the client takes it as a
new buffer. -/
def BufferRecorded (d : Daemon) (conn : ConnPtr) (cmd : CmdMapBulkBuf) (wsm : WsmAnswers) :
    Prop :=
  wsm.lock = true →
    wsm.l2 ≠ 0 ∧ ∃ s ∈ d.findSession conn cmd.sessionId, s.holds cmd.handle = false

/-- The session that the TA-exit handler removes holds no buffer. -/
def ReapsEmpty (d : Daemon) (r : McpReply) : Prop :=
  ∀ s ∈ (match d.srv with
    | .taExitWait ref _ => d.sessionAt ref
    | _ => none), r.closeResult = mcDrvOk → s.buffers.items = []

instance (cmd : CmdOpenSession) (answers : OpenAnswers) : Decidable (TciFits cmd answers) :=
  inferInstanceAs (Decidable (∀ regObj ∈ answers.regObj, _))

instance (d : Daemon) (conn : ConnPtr) (cmd : CmdMapBulkBuf) (wsm : WsmAnswers) :
    Decidable (BufferRecorded d conn cmd wsm) :=
  inferInstanceAs (Decidable (_ → _))

instance (d : Daemon) (r : McpReply) : Decidable (ReapsEmpty d r) :=
  inferInstanceAs (Decidable (∀ s ∈ _, _))

/-- The step records the lock it takes, or removes no lock from the records. -/
def RecordsLocks (d : Daemon) : Label → Prop
  | .command conn (.openSession cmd answers) => conn ∈ d.opened → TciFits cmd answers
  | .command conn (.openTrustlet cmd received answers) =>
      conn ∈ d.opened → received = true → TciFits cmd answers
  | .command conn (.mapBulkBuf cmd wsm) => conn ∈ d.opened → BufferRecorded d conn cmd wsm
  | .reply r _ => ReapsEmpty d r
  | _ => True

instance (d : Daemon) : (l : Label) → Decidable (RecordsLocks d l)
  | .command _ (.openSession ..) => inferInstanceAs (Decidable (_ → _))
  | .command _ (.openTrustlet ..) => inferInstanceAs (Decidable (_ → _))
  | .command _ (.mapBulkBuf ..) => inferInstanceAs (Decidable (_ → _))
  | .reply .. => inferInstanceAs (Decidable (ReapsEmpty ..))
  | .command _ (.openDevice _) | .command _ .closeDevice | .command _ (.closeSession _)
  | .command _ (.nqConnect _) | .command _ (.notify _) | .command _ (.unmapBulkBuf _)
  | .accept _ | .drop _ | .taExit | .drain | .unregister _ | .nextSession _ | .respond
  | .irqReceive _ | .irqPark | .irqLock | .irqDeliver => isTrue trivial

/-! ## Buffers of one session -/

/-- A handle is the handle of one buffer of a session or of none. -/
theorem bufferCount_eq (handle : UInt32) (s : TrustletSession) :
    bufferCount handle s = if s.holds handle then 1 else 0 := by
  rw [TrustletSession.holds, ← s.buffers.countP_key handle.toNat, bufferCount]
  refine List.countP_congr ?_
  intro pWsm _
  simp [CWsm.key, UInt32.toNat_inj]

theorem bufferCount_queueNotification (handle : UInt32) (n : Notification)
    (s : TrustletSession) : bufferCount handle (s.queueNotification n) = bufferCount handle s := by
  simp [bufferCount]

theorem bufferCount_addBulkBuff {pWsm : CWsm} {s : TrustletSession} (handle : UInt32)
    (hnew : s.holds pWsm.handle = false) :
    bufferCount handle (s.addBulkBuff pWsm) =
      bufferCount handle s + if pWsm.handle = handle then 1 else 0 := by
  rw [bufferCount_eq, bufferCount_eq, TrustletSession.holds_addBulkBuff]
  by_cases h : pWsm.handle = handle
  · subst h
    simp [hnew]
  · simp [h]

/-- Removing a buffer takes one from the entries of its handle. -/
theorem bufferCount_removeBulkBuff {h : UInt32} {s : TrustletSession} (handle : UInt32)
    (hheld : s.holds h = true) :
    bufferCount handle (s.removeBulkBuff h) + (if h = handle then 1 else 0) =
      bufferCount handle s := by
  rw [bufferCount_eq, bufferCount_eq, TrustletSession.holds_removeBulkBuff]
  by_cases heq : h = handle
  · subst heq
    simp [hheld]
  · have hne : handle ≠ h := fun h' => heq h'.symm
    simp [heq, hne]

/-- Unlocking all buffers of a session releases its entries. -/
theorem outstandingLocks_unlockBuffers (handle : UInt32) (s : TrustletSession) :
    outstandingLocks (s.popBulkBuffs.map fun pWsm => .unlockWsmL2 pWsm.handle) handle =
      -(bufferCount handle s : Int) := by
  rw [TrustletSession.popBulkBuffs_eq, bufferCount]
  induction s.buffers.items with
  | nil => rfl
  | cons pWsm rest ih =>
      rw [List.map_cons, outstandingLocks_cons, ih, List.countP_cons]
      by_cases h : pWsm.handle = handle <;> simp [Event.locks, h]

theorem bufferCount_newSession (handle : UInt32) (frame : OpenFrame) (sessionId : UInt32)
    (addr : UInt64) (magic : UInt32) (d : Daemon) :
    (bufferCount handle (d.newSession frame sessionId addr magic) : Int) =
      pendingLock handle (.openWait frame) := by
  unfold newSession
  by_cases huses : frame.usesTci
  · rw [if_pos huses, bufferCount_addBulkBuff handle rfl]
    by_cases h : frame.tciHandle = handle
    · simp [pendingLock, huses, h, bufferCount, TrustletSession.new, OrderedTable.empty]
    · simp [pendingLock, huses, h, bufferCount, TrustletSession.new, OrderedTable.empty]
  · rw [if_neg huses]
    simp [pendingLock, huses, bufferCount, TrustletSession.new, OrderedTable.empty]

/-! ## The account after a step -/

/-- Changing one object so that its buffers stay keeps all entries. -/
theorem bufferEntries_update {d t : Daemon} {ref : SessionRef} {handle : UInt32}
    {f : TrustletSession → TrustletSession}
    (hf : ∀ s, bufferCount handle (f s) = bufferCount handle s)
    (hlist : t.trustletSessions = KeyedList.update TrustletSession.ref ref f d.trustletSessions) :
    t.bufferEntries handle = d.bufferEntries handle := by
  rw [bufferEntries, hlist, KeyedList.map_update hf]
  rfl

theorem bufferEntries_change {d t : Daemon} {s : TrustletSession} (handle : UInt32)
    {f : TrustletSession → TrustletSession} (hd : d.refs.Nodup) (hs : s ∈ d.trustletSessions)
    (hlist : t.trustletSessions = KeyedList.update TrustletSession.ref s.ref f d.trustletSessions) :
    t.bufferEntries handle + bufferCount handle s =
      d.bufferEntries handle + bufferCount handle (f s) := by
  rw [bufferEntries, hlist]
  exact KeyedList.sum_update hd hs

theorem bufferEntries_delete {d t : Daemon} {s : TrustletSession} (handle : UInt32)
    (hd : d.refs.Nodup) (hs : s ∈ d.trustletSessions)
    (hlist : t.trustletSessions = KeyedList.delete TrustletSession.ref s.ref d.trustletSessions) :
    t.bufferEntries handle + bufferCount handle s = d.bufferEntries handle := by
  rw [bufferEntries, hlist]
  exact KeyedList.sum_delete hd hs

theorem bufferEntries_push {d t : Daemon} {s : TrustletSession} {handle : UInt32}
    (hlist : t.trustletSessions = d.trustletSessions ++ [s]) :
    t.bufferEntries handle = d.bufferEntries handle + bufferCount handle s := by
  simp [bufferEntries, hlist]

/-- A step that neither locks nor unlocks, and moves no buffer, keeps the account. -/
theorem Ledger.of_frame {d t : Daemon} (hL : Ledger d)
    (htrace : ∀ handle, outstandingLocks t.trace handle = outstandingLocks d.trace handle)
    (hentries : ∀ handle, t.bufferEntries handle = d.bufferEntries handle)
    (hpc : ∀ handle, pendingLock handle t.srv = pendingLock handle d.srv) : Ledger t := by
  intro handle
  rw [htrace, hentries, hpc]
  exact hL handle

theorem pendingLock_resumeCaller (handle : UInt32) (conn : ConnPtr) (caller : CloseCaller)
    (d : Daemon) : pendingLock handle (d.resumeCaller conn caller) = 0 := by
  cases caller <;> rfl

theorem outstandingLocks_callerAnswer (handle : UInt32) (conn : ConnPtr) (caller : CloseCaller)
    (ret : McResult) : outstandingLocks (callerAnswer conn caller ret) handle = 0 := by
  cases caller <;> simp [callerAnswer, Event.locks]

theorem outstandingLocks_deleteConnection (handle : UInt32) (connection : Option ConnPtr) :
    outstandingLocks (connection.toList.map .closedConnection) handle = 0 := by
  cases connection <;> simp [Event.locks]

/-- The place where `closeSession` starts holds no lock. -/
theorem CloseCall.pendingLock {d d₀ : Daemon} {l : Label} {conn : ConnPtr}
    {sessionId : UInt32} {caller : CloseCaller} (hcall : CloseCall d l d₀ conn sessionId caller)
    (handle : UInt32) : pendingLock handle d.srv = 0 := by
  cases hcall with
  | command hidle => rw [hidle]; rfl
  | loop hpc => rw [hpc]; rfl

theorem CloseCall.locks {d d₀ : Daemon} {l : Label} {conn : ConnPtr}
    {sessionId : UInt32} {caller : CloseCaller} (hcall : CloseCall d l d₀ conn sessionId caller)
    (handle : UInt32) : outstandingLocks d₀.trace handle = outstandingLocks d.trace handle := by
  cases hcall with
  | command => rfl
  | @loop _ _ erased => cases erased <;> simp [Event.locks]

theorem CloseCall.trustletSessions {d d₀ : Daemon} {l : Label} {conn : ConnPtr}
    {sessionId : UInt32} {caller : CloseCaller} (hcall : CloseCall d l d₀ conn sessionId caller) :
    d₀.trustletSessions = d.trustletSessions := by
  cases hcall <;> rfl

theorem ClosePending.pendingLock {d : Daemon} {conn : ConnPtr} {sessionId : UInt32}
    {ref : SessionRef} {caller : CloseCaller} (hpc : d.ClosePending conn sessionId ref caller)
    (handle : UInt32) : pendingLock handle d.srv = 0 := by
  rcases hpc with hpc | hpc <;> rw [hpc] <;> rfl

/-- An open command whose TCI does not fit does not record the lock it takes. -/
theorem not_recordsLocks_of_opens {d : Daemon} {conn : ConnPtr} {cmd : Command}
    {c : CmdOpenSession} {load : LoadDataOpenSession} {wsm : WsmAnswers} {tci : TciBuffer}
    (hopen : conn ∈ d.opened) (hcmd : Command.Opens cmd c load wsm)
    (huses : c.handle ≠ 0 ∧ c.len ≠ 0) (htci : findTci wsm c.len c.tci.toUInt32 = some tci)
    (hlock : wsm.lock = true) (hlen : c.len > tci.len) :
    ¬ RecordsLocks d (.command conn cmd) := by
  intro hC
  have hfits : ∀ {answers : OpenAnswers} {regObj : RegObject} {physAddr : UInt64},
      answers.regObj = some regObj → regObj.len ≠ 0 → answers.load = some physAddr →
      answers.wsm = wsm → ¬ TciFits c answers := by
    rintro answers regObj physAddr hobj hobjlen hload rfl hfits
    exact absurd hlen (UInt32.not_lt.mpr
      (hfits regObj hobj hobjlen (by rw [hload]; rfl) huses.1 huses.2 hlock tci htci))
  cases hcmd with
  | openSession hobj hobjlen hload => exact hfits hobj hobjlen hload rfl (hC hopen)
  | openTrustlet hobj hobjlen hload => exact hfits hobj hobjlen hload rfl (hC hopen rfl)

/-- Every step that records the lock it takes keeps the account. -/
theorem effect_ledger {d t : Daemon} {l : Label} (hw : WellFormed d) (hL : Ledger d)
    (hC : RecordsLocks d l) (h : Effect d l t) : Ledger t := by
  cases h with
  | openLeaked hidle hopen hcmd huses htci hlock hlen =>
      exact absurd hC (not_recordsLocks_of_opens hopen hcmd huses htci hlock hlen)
  | @openSentTci conn cmd c load wsm frame hidle hopen hcmd hframe huses =>
      intro handle
      have := hL handle
      simp only [hidle, pendingLock] at this
      by_cases heq : frame.tciHandle = handle <;>
        simp [Event.locks, pendingLock, huses, heq, this, bufferEntries]
  | openSent hidle hopen hcmd hframe huses =>
      refine hL.of_frame (fun _ => by simp [Event.locks]) (fun _ => rfl) (fun handle => ?_)
      simp [pendingLock, huses, hidle]
  | @openFailed frame r host code hpc =>
      intro handle
      have := hL handle
      simp only [hpc, pendingLock] at this
      by_cases huses : frame.usesTci
      · by_cases heq : frame.tciHandle = handle
        · simp [Event.locks, pendingLock, huses, heq, bufferEntries] at this ⊢
          omega
        · simp [Event.locks, pendingLock, huses, heq, bufferEntries] at this ⊢
          omega
      · simp [Event.locks, pendingLock, huses, bufferEntries] at this ⊢
        omega
  | @openSucceeded frame r host hpc hret haddr =>
      intro handle
      have := hL handle
      have hnew := bufferCount_newSession handle frame r.value host.addr host.magic d
      rw [hpc] at this
      rw [bufferEntries_push (d := d) rfl]
      simp only [goto_trace, pushSession_trace, mapTci_trace, outstandingLocks_append,
        outstandingLocks_cons, outstandingLocks_nil, Event.locks, goto_srv,
        pendingLock] at this hnew ⊢
      omega
  | closeRefused hcall hnone =>
      refine hL.of_frame (fun handle => ?_) (fun handle => ?_) (fun handle => ?_)
      · simp [Event.locks, outstandingLocks_callerAnswer, hcall.locks]
      · simp only [bufferEntries, closeReturn_trustletSessions, hcall.trustletSessions]
      · rw [hcall.pendingLock, closeReturn_srv, pendingLock_resumeCaller]
  | closeSent hcall =>
      refine hL.of_frame (fun handle => ?_) (fun handle => ?_) (fun handle => ?_)
      · simp [Event.locks, hcall.locks]
      · simp only [bufferEntries, sendSessionCloseCmd_trustletSessions, hcall.trustletSessions]
      · rw [hcall.pendingLock]
        rfl
  | @closeSentGp l d₀ conn sessionId caller session hcall =>
      refine hL.of_frame (fun handle => ?_) (fun handle => ?_) (fun handle => ?_)
      · simp [Event.locks, outstandingLocks_deleteConnection, hcall.locks]
      · refine @bufferEntries_update d _ session.ref handle TrustletSession.disconnect
          (fun _ => rfl) ?_
        simp only [sendSessionCloseCmd_trustletSessions, disconnectClient_trustletSessions,
          hcall.trustletSessions]
      · rw [hcall.pendingLock]
        rfl
  | nqConnected hidle =>
      exact hL.of_frame (fun _ => by simp [Event.locks])
        (fun _ => bufferEntries_update (f := TrustletSession.connect _) (fun _ => rfl) rfl)
        (fun _ => by rw [hidle]; rfl)
  | @mapLeaked conn cmd wsm code hidle hopen hlock hwhy =>
      obtain ⟨hl2, s, hs, -⟩ := hC hopen hlock
      rcases hwhy with hzero | hnone
      · exact absurd hzero hl2
      · rw [hnone] at hs
        cases hs
  | @mapSent conn cmd wsm session hidle hopen hlock hl2 hsome =>
      obtain ⟨-, s, hs, hnew⟩ := hC hopen hlock
      obtain rfl : session = s := Option.some.inj (hsome.symm.trans hs)
      intro handle
      have := hL handle
      have hchange := bufferEntries_change (d := d) handle
        (t := (d.emit (.lockWsmL2 cmd.handle)).sendMap conn cmd wsm.l2 session) hw.distinct
        (findSession_spec hsome).1 rfl
      have hadd : bufferCount handle (session.addBulkBuff (bulkBuffer cmd wsm.l2)) =
          bufferCount handle session + if cmd.handle = handle then 1 else 0 :=
        bufferCount_addBulkBuff handle hnew
      rw [hadd] at hchange
      rw [hidle] at this
      simp only [sendMap_trace, emit_trace, outstandingLocks_append, outstandingLocks_cons,
        outstandingLocks_nil, Event.locks, sendMap_srv, pendingLock] at this ⊢
      by_cases heq : cmd.handle = handle
      · rw [if_pos heq] at hchange ⊢
        omega
      · rw [if_neg heq] at hchange ⊢
        omega
  | @unmapSucceeded conn cmd ref r host hpc =>
      obtain ⟨s, hs, href, -, hheld⟩ : d.Lists ref fun s =>
          s.sessionId = cmd.sessionId ∧ s.holds cmd.handle = true := by
        simpa only [Placed, hpc] using hw.placed
      subst href
      intro handle
      have := hL handle
      have hchange := bufferEntries_change (d := d) handle
        (t := ((d.unmapBuffer cmd r).removeBuffer cmd.handle s.ref).writeResult conn mcDrvOk)
        hw.distinct hs rfl
      have hremove := bufferCount_removeBulkBuff handle hheld
      rw [hpc] at this
      simp only [writeResult_trace, removeBuffer_trace, unmapBuffer_trace, outstandingLocks_append,
        outstandingLocks_cons, outstandingLocks_nil, Event.locks, writeResult_srv,
        pendingLock] at this ⊢
      by_cases heq : cmd.handle = handle
      · rw [if_pos heq] at hremove ⊢
        omega
      · rw [if_neg heq] at hremove ⊢
        omega
  | closeRetried hpc =>
      exact hL.of_frame (fun _ => by simp [Event.locks]) (fun _ => rfl) (fun _ => by rw [hpc]; rfl)
  | closeDeferred hpc =>
      refine hL.of_frame (fun handle => ?_) (fun _ => rfl) (fun handle => ?_)
      · simp [Event.locks, outstandingLocks_callerAnswer]
      · rw [hpc, closeReturn_srv, pendingLock_resumeCaller]
        rfl
  | closeFailed hpc =>
      refine hL.of_frame (fun handle => ?_) (fun _ => rfl) (fun handle => ?_)
      · simp [Event.locks, outstandingLocks_callerAnswer]
      · rw [hpc.pendingLock, closeReturn_srv, pendingLock_resumeCaller]
  | closeAborted hpc =>
      exact hL.of_frame (fun _ => by simp [Event.locks]) (fun _ => rfl) (fun _ => by rw [hpc]; rfl)
  | @closeDone conn sessionId ref caller session r host hpc hat hret =>
      intro handle
      have := hL handle
      have hdelete := bufferEntries_delete (d := d) handle
        (t := ((d.unmapClosed r sessionId).unlockBuffers session).deleteSession session)
        hw.distinct (sessionAt_mem hat).1 rfl
      have hunlock := outstandingLocks_unlockBuffers handle session
      rw [hpc.pendingLock] at this
      simp only [closeReturn_trace, deleteSession_trace, unlockBuffers_trace, unmapClosed_trace,
        outstandingLocks_append, outstandingLocks_cons, outstandingLocks_nil, Event.locks,
        outstandingLocks_callerAnswer, outstandingLocks_deleteConnection, hunlock,
        closeReturn_srv, pendingLock_resumeCaller]
      show _ = ((((d.unmapClosed r sessionId).unlockBuffers session).deleteSession
        session).bufferEntries handle : Int) + 0
      omega
  | @reaped ref rest ts r host hpc hat hret =>
      have hempty : ts.buffers.items = [] := by
        refine hC ts ?_ hret
        rw [hpc]
        exact hat
      refine hL.of_frame (fun handle => ?_) (fun handle => ?_) (fun handle => ?_)
      · simp [Event.locks, outstandingLocks_deleteConnection]
      · have hdelete := bufferEntries_delete (d := d) handle
          (t := ((d.unmapClosed r ts.sessionId).deleteSession ts).goto (.taExit rest))
          hw.distinct (sessionAt_mem hat).1 rfl
        simpa [bufferCount, hempty] using hdelete
      · rw [hpc]
        rfl
  | drainedFront =>
      exact hL.of_frame (fun _ => by simp [Event.locks])
        (fun _ => bufferEntries_update (bufferCount_queueNotification _ _) rfl) (fun _ => rfl)
  | flushedFront =>
      exact hL.of_frame (fun _ => by simp [Event.locks])
        (fun _ => bufferEntries_update (f := TrustletSession.popNotification) (fun _ => rfl) rfl)
        (fun _ => rfl)
  | @stored n ts session hirq hsome =>
      refine hL.of_frame (fun _ => ?_)
        (fun _ => bufferEntries_update (bufferCount_queueNotification _ _) rfl) (fun _ => rfl)
      simp only [storeNotification_trace, access_trace, outstandingLocks_append]
      split <;> simp [Event.locks]
  | @loopFinished conn erased dropping crash hpc hwhy =>
      refine hL.of_frame (fun _ => ?_) (fun _ => ?_) (fun _ => ?_)
      · cases dropping <;> cases erased <;> simp [closeFinish, Event.locks]
      · cases dropping <;> rfl
      · rw [hpc]
        cases dropping <;> rfl
  | @loopSkipped conn before erased dropping crash cur session hpc =>
      refine hL.of_frame (fun _ => ?_) (fun _ => rfl) (fun _ => by rw [hpc]; rfl)
      cases erased <;> simp [Event.locks]
  | loopRestarted hpc =>
      exact hL.of_frame (fun _ => by simp [Event.locks]) (fun _ => rfl) (fun _ => by rw [hpc]; rfl)
  | lockLost | locked | deliverLost | forwarded =>
      refine hL.of_frame (fun _ => ?_) (fun _ => rfl) (fun _ => rfl)
      simp only [access_trace, forwardNotification_trace, outstandingLocks_append]
      split <;> simp [Event.locks]
  | notifyIgnored => exact hL
  | accepted | notifySent | receivedUnknown | receivedFound | parked =>
      exact hL.of_frame (fun _ => by simp [Event.locks]) (fun _ => rfl) (fun _ => rfl)
  | deviceOpened | refused | deviceClosing | openRefused | nqRefused | unmapSent | dropped
  | dropping | taExitWoken | mapFailed | mapSucceeded | unmapFailed | reapFailed | drainDone
  | unregisterFailed | unregistered | nqAnswered | flushDone | loopCrashed | taExitDone
  | taExitSkipped | taExitSent =>
      exact hL.of_frame (fun _ => by simp [Event.locks]) (fun _ => rfl)
        (fun _ => by simp [pendingLock, *])

theorem init_ledger : Ledger init :=
  fun _ => rfl

/-! ## Runs -/

/-- Between commands, in every run in which no open command brings a TCI longer than
its block, every buffer that is locked becomes a new buffer of a session, and the
TA-exit handler removes only sessions without buffers, the locks on each handle are
the entries with this handle. -/
theorem locks_run {ls : List Label} {d : Daemon} (hmeet : system.StepsMeet RecordsLocks init ls)
    (hrun : system.run init ls = some d) (hidle : d.srv = .idle) :
    ∀ handle, outstandingLocks d.trace handle = d.bufferEntries handle := by
  obtain ⟨-, -, hL⟩ := run_rule (I := Ledger)
    (fun _ _ _ hw _ hL hC h => effect_ledger hw hL hC (step_effect h))
    init_wellFormed init_connectionsHeld init_ledger hmeet hrun
  intro handle
  have := hL handle
  rw [hidle] at this
  simpa [pendingLock] using this

/-- A table for a bulk buffer. -/
def mapAnswers : WsmAnswers where
  contiguous := none
  l2 := 0x8000
  lock := true

/-- A session is opened with a TCI under handle 5, maps a buffer under handle 6, is
closed, and a second one keeps its buffer under handle 6. -/
def mapAndClose : List Label :=
  clientLabels 1 ++
    [.command 1 (.openSession { tci := 0, handle := 5, len := 64 } (blobAnswers 0 64)),
      .reply (successReply mcMcpCmdOpenSession 10) (hostAt 0x200), .drain, .unregister true,
      .command 1 (.mapBulkBuf ⟨10, 6, 0, 32⟩ mapAnswers),
      .reply (successReply mcMcpCmdMap 3) (hostAt 0), .command 1 (.closeSession 10),
      .reply (successReply mcMcpCmdCloseSession 0) (hostAt 0)] ++
    openLabels 1 0 11 0x300 ++
    [.command 1 (.mapBulkBuf ⟨11, 6, 0, 32⟩ mapAnswers),
      .reply (successReply mcMcpCmdMap 3) (hostAt 0)]

theorem locks_run_mapAndClose :
    ∃ d, system.run init mapAndClose = some d ∧ outstandingLocks d.trace 6 = d.bufferEntries 6 :=
  ⟨_, rfl, @locks_run mapAndClose _ (by decide) rfl rfl 6⟩

/-- An open command with a TCI of 64 bytes in a block of 32. -/
def openTciTooLong : List Label :=
  clientLabels 1 ++
    [.command 1 (.openSession { tci := 0, handle := 5, len := 64 } (blobAnswers 0 32)),
      .unregister true]

/-- The command is refused and its lock stays. -/
theorem not_locks_exact :
    ¬ ∀ (ls : List Label) (d : Daemon), system.run init ls = some d → d.srv = .idle →
      ∀ handle, outstandingLocks d.trace handle = d.bufferEntries handle := by
  intro h
  have hrun : ∃ d, system.run init openTciTooLong = some d ∧ d.srv = .idle ∧
      outstandingLocks d.trace 5 = 1 ∧ d.bufferEntries 5 = 0 :=
    ⟨_, rfl, rfl, rfl, rfl⟩
  obtain ⟨d, hrun, hidle, hlocks, hentries⟩ := hrun
  have := h openTciTooLong d hrun hidle 5
  rw [hlocks, hentries] at this
  cases this

end Daemon

end Exynos8890.MobiCore
