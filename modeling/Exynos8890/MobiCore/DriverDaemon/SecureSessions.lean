import Exynos8890.MobiCore.DriverDaemon.WellFormed

/-!
# The sessions of the secure world

The daemon learns from the answers to its commands which sessions the secure world
has opened and closed.  Beside the daemon stands the table of the secure world
itself, which changes when a command is carried out, whether or not its answer
gets back.

Main results:

- Definition `coupled`: the daemon with the session table of the secure world.
- Theorem `sessionsAgree_iff`: along a run both have the same sessions if and only
  if every command that was carried out was answered.
-/

namespace Exynos8890.MobiCore

namespace Daemon

/-! ## The two tables -/

/-- The session that the secure world opens in this step. -/
def secureOpened (d : Daemon) (l : Label) : Option UInt32 :=
  match d.srv, l with
  | .openWait _, .reply r _ =>
      if r.carriedOut mcMcpCmdOpenSession = true then some r.value else none
  | _, _ => none

/-- The id in a close command that is waited for. -/
def closingId (d : Daemon) : Option UInt32 :=
  match d.srv with
  | .closeWait _ sessionId _ _ => some sessionId
  | .closeRetryWait _ sessionId _ _ => some sessionId
  | .taExitWait ref _ => (d.sessionAt ref).map TrustletSession.sessionId
  | _ => none

/-- The session that the secure world closes in this step. -/
def secureClosed (d : Daemon) (l : Label) : Option UInt32 :=
  match l with
  | .reply r _ => if r.carriedOut mcMcpCmdCloseSession = true then d.closingId else none
  | _ => none

/-- The session ids that the daemon lists. -/
def sessionIds (d : Daemon) : Multiset UInt32 :=
  ↑(d.trustletSessions.map TrustletSession.sessionId)

/-- The daemon, and the sessions that are open in the secure world. -/
structure Coupled where
  daemon : Daemon
  secure : Multiset UInt32

namespace Coupled

/-- Nothing has been opened. -/
def init : Coupled where
  daemon := Daemon.init
  secure := 0

/-- What a step does to the table of the secure world. -/
def secureStep (s : Coupled) (l : Label) : Multiset UInt32 :=
  match s.daemon.secureOpened l, s.daemon.secureClosed l with
  | some sessionId, _ => sessionId ::ₘ s.secure
  | none, some sessionId => s.secure.erase sessionId
  | none, none => s.secure

def step (s : Coupled) (l : Label) : Option Coupled :=
  (system.step s.daemon l).map fun d => { daemon := d, secure := s.secureStep l }

/-- The two have the same sessions. -/
def Agree (s : Coupled) : Prop :=
  s.secure = s.daemon.sessionIds

end Coupled

/-- The daemon and the secure world. -/
def coupled : TransitionSystem Coupled Label where
  step := Coupled.step

/-- A command that the secure world carries out is answered, and the answer says so. -/
def OutcomeTold (s : Coupled) (l : Label) : Prop :=
  match l with
  | .reply r _ =>
      ((s.daemon.secureOpened l).isSome → r.mcResult mcMcpCmdOpenSession = mcDrvOk) ∧
        ((s.daemon.secureClosed l).isSome → r.closeResult = mcDrvOk)
  | _ => True

instance (s : Coupled) (l : Label) : Decidable (OutcomeTold s l) :=
  match l with
  | .reply _ _ => inferInstanceAs (Decidable (_ ∧ _))
  | .accept _ | .command .. | .drop _ | .taExit | .drain | .unregister _ | .nextSession _
  | .respond | .irqReceive _ | .irqPark | .irqLock | .irqDeliver =>
      inferInstanceAs (Decidable True)

/-! ## The answers -/

/-- An answer of success is that of a command that was carried out. -/
theorem carriedOut_of_mcResult {r : McpReply} {cmdId : UInt32}
    (h : r.mcResult cmdId = mcDrvOk) : r.carriedOut cmdId = true := by
  unfold McpReply.mcResult at h
  split at h
  · exact absurd h (by decide)
  · rename_i hanswered
    split at h
    · exact absurd h (by decide)
    · rename_i hrsp
      split at h
      · exact absurd h (makeMcDrvMcpError_ne_ok _)
      · rename_i hret
        simp [McpReply.carriedOut, not_not.mp hrsp, not_not.mp hret, hanswered]

theorem carriedOut_of_closeResult {r : McpReply} (h : r.closeResult = mcDrvOk) :
    r.carriedOut mcMcpCmdCloseSession = true := by
  unfold McpReply.closeResult at h
  split at h
  · exact absurd h (makeMcDrvMcpError_ne_ok _)
  · rename_i hclose
    have hret := not_not.mp hclose
    unfold McpReply.sessionCloseResult at hret
    split at hret
    · exact absurd hret (by decide)
    · rename_i hanswered
      split at hret
      · exact absurd hret (by decide)
      · rename_i hrsp
        simp [McpReply.carriedOut, not_not.mp hrsp, hret, hanswered]

/-! ## What a step does to the two tables -/

theorem ClosePending.exists_session {d : Daemon} (hw : WellFormed d) {conn : ConnPtr}
    {sessionId : UInt32} {ref : SessionRef} {caller : CloseCaller}
    (h : d.ClosePending conn sessionId ref caller) : ∃ session, d.sessionAt ref = some session := by
  have hp := hw.placed
  unfold Placed at hp
  rcases h with h | h <;> simp only [h] at hp <;> obtain ⟨s, hs, rfl, -⟩ := hp
  · exact ⟨s, sessionAt_of_mem hw.distinct hs⟩
  · exact ⟨s, sessionAt_of_mem hw.distinct hs⟩

/-- Only the answer to a close command removes a session. -/
theorem removed_eq_none {d : Daemon} {l : Label} (hl : ∀ r host, l ≠ .reply r host) :
    d.removed l = none := by
  unfold removed
  split
  all_goals first
    | exact absurd rfl (hl _ _)
    | rfl

theorem sessionIds_eq {d t : Daemon} {ref : SessionRef} {f : TrustletSession → TrustletSession}
    (hid : KeepsIdentity f)
    (hlist : t.trustletSessions = KeyedList.update TrustletSession.ref ref f d.trustletSessions) :
    t.sessionIds = d.sessionIds := by
  rw [sessionIds, sessionIds, hlist, KeyedList.map_update fun s => (hid s).2.2.1]

theorem sessionIds_push {d t : Daemon} {session : TrustletSession}
    (hlist : t.trustletSessions = d.trustletSessions ++ [session]) :
    t.sessionIds = session.sessionId ::ₘ d.sessionIds := by
  rw [sessionIds, sessionIds, hlist, List.map_append, List.map_singleton]
  exact Multiset.coe_eq_coe.mpr (List.perm_append_singleton _ _)

theorem sessionIds_delete {d t : Daemon} {ref : SessionRef} {session : TrustletSession}
    (hat : d.sessionAt ref = some session)
    (hlist : t.trustletSessions =
      KeyedList.delete TrustletSession.ref session.ref d.trustletSessions) :
    t.sessionIds = d.sessionIds.erase session.sessionId := by
  obtain ⟨hmem, rfl⟩ := sessionAt_mem hat
  obtain ⟨l₁, l₂, hd, ht⟩ := KeyedList.delete_of_lookup hat
  have hperm : (d.trustletSessions.map TrustletSession.sessionId).Perm
      (session.sessionId :: (l₁ ++ l₂).map TrustletSession.sessionId) := by
    rw [hd, List.map_append, List.map_cons, List.map_append]
    exact List.perm_middle
  rw [sessionIds, sessionIds, hlist, ht, Multiset.coe_eq_coe.mpr hperm, Multiset.coe_erase,
    List.erase_cons_head]

theorem mem_sessionIds {d : Daemon} {ref : SessionRef} {session : TrustletSession}
    (hat : d.sessionAt ref = some session) : session.sessionId ∈ d.sessionIds :=
  List.mem_map_of_mem (sessionAt_mem hat).1

theorem sessionIds_of_no_reply {d t : Daemon} {l : Label} (hw : WellFormed d)
    (h : Effect d l t) (hl : ∀ r host, l ≠ .reply r host) : t.sessionIds = d.sessionIds := by
  cases effect_sessionsChange hw.distinct h with
  | same hlist => rw [sessionIds, sessionIds, hlist]
  | changed hid hrun hlist => exact sessionIds_eq hid hlist
  | pushed heq => exact absurd heq (hl _ _)
  | deleted hremoved =>
      rw [removed_eq_none hl] at hremoved
      cases hremoved

/-- The second close command fails only when it is not answered with success. -/
theorem closeResult_of_halted {d t : Daemon} {conn : ConnPtr} {sessionId : UInt32}
    {ref : SessionRef} {caller : CloseCaller} {r : McpReply} {host : HostChoice}
    (hpc : d.srv = .closeRetryWait conn sessionId ref caller)
    (h : system.step d (.reply r host) = some t) (hhalted : t.srv = .halted) :
    r.closeResult ≠ mcDrvOk := by
  intro hret
  have hreply : d.closeSessionRetryReply conn sessionId ref caller r host.ndebug = some t := by
    simpa only [system, step, reply, hpc] using h
  unfold closeSessionRetryReply at hreply
  have hok : ¬ (r.closeResult ≠ mcMcpRetOk ∧ host.ndebug = false) := fun hne => hne.1 hret
  cases hat : (d.unmapClosed r sessionId).sessionAt ref with
  | none => simp [hat] at hreply
  | some session =>
      simp only [hat, if_neg hok, Option.some.injEq] at hreply
      rw [← hreply] at hhalted
      unfold closeSessionFinish at hhalted
      split at hhalted <;> cases caller <;> simp [resumeCaller] at hhalted

section Step

variable {d t : Daemon} {m : Multiset UInt32} {r : McpReply} {host : HostChoice}

/-- A step in which the secure world is not told to open or close anything. -/
theorem answered_iff_of_quiet {l : Label} (ha : m = d.sessionIds)
    (hopened : d.secureOpened l = none) (hclosed : d.secureClosed l = none)
    (hids : t.sessionIds = d.sessionIds) :
    OutcomeTold ⟨d, m⟩ l ↔ Coupled.Agree ⟨t, Coupled.secureStep ⟨d, m⟩ l⟩ := by
  have hagree : Coupled.Agree ⟨t, Coupled.secureStep ⟨d, m⟩ l⟩ := by
    simp only [Coupled.Agree, Coupled.secureStep, hopened, hclosed, hids, ha]
  refine iff_of_true ?_ hagree
  cases l <;> simp [OutcomeTold, hopened, hclosed]

/-- A close command whose answer is not taken for success leaves the session listed. -/
theorem answered_iff_of_kept (ha : m = d.sessionIds) (hopened : d.secureOpened (.reply r host) = none)
    {sessionId : UInt32} (hid : d.closingId = some sessionId) (hmem : sessionId ∈ d.sessionIds)
    (hret : r.closeResult ≠ mcDrvOk) (hids : t.sessionIds = d.sessionIds) :
    OutcomeTold ⟨d, m⟩ (.reply r host) ↔
      Coupled.Agree ⟨t, Coupled.secureStep ⟨d, m⟩ (.reply r host)⟩ := by
  cases hcarried : r.carriedOut mcMcpCmdCloseSession with
  | false =>
      have hclosed : d.secureClosed (.reply r host) = none := by simp [secureClosed, hcarried]
      exact answered_iff_of_quiet ha hopened hclosed hids
  | true =>
      have hclosed : d.secureClosed (.reply r host) = some sessionId := by
        simp [secureClosed, hcarried, hid]
      refine iff_of_false (fun h => hret (h.2 (by simp [hclosed]))) fun hagree => ?_
      simp only [Coupled.Agree, Coupled.secureStep, hopened, hclosed, hids, ha] at hagree
      have hcard := Multiset.card_erase_lt_of_mem hmem
      rw [hagree] at hcard
      exact lt_irrefl _ hcard

/-- A close command whose answer is taken for success removes the session. -/
theorem answered_iff_of_deleted (ha : m = d.sessionIds)
    (hopened : d.secureOpened (.reply r host) = none) {sessionId : UInt32}
    (hid : d.closingId = some sessionId) (hret : r.closeResult = mcDrvOk)
    (hids : t.sessionIds = d.sessionIds.erase sessionId) :
    OutcomeTold ⟨d, m⟩ (.reply r host) ↔
      Coupled.Agree ⟨t, Coupled.secureStep ⟨d, m⟩ (.reply r host)⟩ := by
  have hclosed : d.secureClosed (.reply r host) = some sessionId := by
    simp [secureClosed, carriedOut_of_closeResult hret, hid]
  refine iff_of_true ⟨by simp [hopened], fun _ => hret⟩ ?_
  simp only [Coupled.Agree, Coupled.secureStep, hopened, hclosed, hids, ha]

end Step

theorem closingId_of_pending {d : Daemon} {conn : ConnPtr} {sessionId : UInt32}
    {ref : SessionRef} {caller : CloseCaller} (h : d.ClosePending conn sessionId ref caller) :
    d.closingId = some sessionId := by
  rcases h with h | h <;> simp only [closingId, h]

theorem secureOpened_of_pending {d : Daemon} {conn : ConnPtr} {sessionId : UInt32}
    {ref : SessionRef} {caller : CloseCaller} (h : d.ClosePending conn sessionId ref caller)
    (l : Label) : d.secureOpened l = none := by
  rcases h with h | h <;> simp only [secureOpened, h]

/-- A step keeps the agreement of the two tables if and only if it is not the loss of an
answer. -/
theorem answered_iff_agree {d t : Daemon} {m : Multiset UInt32} {l : Label} (hw : WellFormed d)
    (ha : m = d.sessionIds) (h : system.step d l = some t) :
    OutcomeTold ⟨d, m⟩ l ↔ Coupled.Agree ⟨t, Coupled.secureStep ⟨d, m⟩ l⟩ := by
  have heffect := step_effect h
  by_cases hl : ∀ r host, l ≠ .reply r host
  · refine answered_iff_of_quiet ha ?_ ?_ (sessionIds_of_no_reply hw heffect hl)
    · unfold secureOpened
      split
      · exact absurd rfl (hl _ _)
      · rfl
    · unfold secureClosed
      split
      · exact absurd rfl (hl _ _)
      · rfl
  · obtain ⟨r, host, rfl⟩ : ∃ r host, l = .reply r host := by simpa using hl
    -- a pending close and the session that it names
    have hkept {conn sessionId ref caller} (hpc : d.ClosePending conn sessionId ref caller)
        {session} (hat : d.sessionAt ref = some session) (hret : r.closeResult ≠ mcDrvOk)
        (hids : t.sessionIds = d.sessionIds) :=
      @answered_iff_of_kept d t m r host ha (secureOpened_of_pending hpc _) _
        (closingId_of_pending hpc) (hpc.sessionId_eq hw hat ▸ mem_sessionIds hat) hret hids
    cases heffect with
    | @openFailed frame _ _ code hpc hret hcode =>
        have hclosed : d.secureClosed (.reply r host) = none := by
          simp [secureClosed, closingId, hpc]
        cases hcarried : r.carriedOut mcMcpCmdOpenSession with
        | false =>
            refine answered_iff_of_quiet ha ?_ hclosed rfl
            simp [secureOpened, hpc, hcarried]
        | true =>
            have hopened : d.secureOpened (.reply r host) = some r.value := by
              simp [secureOpened, hpc, hcarried]
            have hids : (((d.mapTci frame r).unlockTci frame).openReturn frame.conn
                code).sessionIds = d.sessionIds := rfl
            refine iff_of_false (fun h => hcode (hret ▸ h.1 (by simp [hopened]))) fun hagree => ?_
            simp only [Coupled.Agree, Coupled.secureStep, hopened, ha, hids] at hagree
            have hcard := congrArg Multiset.card hagree
            rw [Multiset.card_cons] at hcard
            omega
    | @openSucceeded frame _ _ hpc hret haddr =>
        have hclosed : d.secureClosed (.reply r host) = none := by
          simp [secureClosed, closingId, hpc]
        have hopened : d.secureOpened (.reply r host) = some r.value := by
          simp [secureOpened, hpc, carriedOut_of_mcResult hret]
        refine iff_of_true ⟨fun _ => hret, by simp [hclosed]⟩ ?_
        have hlist : (((d.mapTci frame r).pushSession frame r.value
            (d.newSession frame r.value host.addr host.magic)).goto (.openDrain frame.conn d.nextRef
              (.openSession r.value host.addr.toUInt32 host.magic))).trustletSessions =
            d.trustletSessions ++ [d.newSession frame r.value host.addr host.magic] := rfl
        have hids := sessionIds_push hlist
        simp only [Coupled.Agree, Coupled.secureStep, hopened, ha, hids, newSession_sessionId]
    | closeRetried hpc hat hgp hret hdead =>
        have hfailed : r.closeResult ≠ mcDrvOk := by rw [hret]; decide
        exact hkept (Or.inl hpc) hat hfailed rfl
    | closeDeferred hpc hat hgp hret hdead =>
        have hfailed : r.closeResult ≠ mcDrvOk := by rw [hret]; decide
        exact hkept (Or.inl hpc) hat hfailed rfl
    | closeFailed hpc hat hret => exact hkept hpc hat hret rfl
    | closeAborted hpc =>
        obtain ⟨session, hat⟩ := ClosePending.exists_session hw (Or.inr hpc)
        exact hkept (Or.inr hpc) hat (closeResult_of_halted hpc h rfl) rfl
    | @closeDone conn sessionId ref caller session _ _ hpc hat hret =>
        have hids := sessionIds_delete (t := (((d.unmapClosed r sessionId).unlockBuffers
          session).deleteSession session).closeReturn conn sessionId caller mcMcpRetOk) hat rfl
        refine answered_iff_of_deleted ha (secureOpened_of_pending hpc _)
          (closingId_of_pending hpc) hret ?_
        rw [hids, hpc.sessionId_eq hw hat]
    | mapFailed hpc | mapSucceeded hpc | unmapFailed hpc =>
        refine answered_iff_of_quiet ha ?_ ?_ rfl
        · simp only [secureOpened, hpc]
        · simp [secureClosed, closingId, hpc]
    | unmapSucceeded hpc =>
        refine answered_iff_of_quiet ha ?_ ?_ ?_
        · simp only [secureOpened, hpc]
        · simp [secureClosed, closingId, hpc]
        · exact sessionIds_eq (keepsIdentity_removeBulkBuff _) rfl
    | @reaped ref rest ts _ _ hpc hat hret =>
        refine answered_iff_of_deleted ha ?_ ?_ hret (sessionIds_delete hat rfl)
        · simp only [secureOpened, hpc]
        · simp [closingId, hpc, hat]
    | @reapFailed ref rest ts _ _ hpc hat hret =>
        refine answered_iff_of_kept ha ?_ ?_ (mem_sessionIds hat) hret rfl
        · simp only [secureOpened, hpc]
        · simp [closingId, hpc, hat]
    | closeRefused hcall | closeSent hcall | closeSentGp hcall => cases hcall

/-- Along every run, the secure world and the daemon have the same sessions in each state
that is reached if and only if no answer to a command that was carried out is lost or
refused. -/
theorem sessionsAgree_iff {ls : List Label} {t : Coupled}
    (hrun : coupled.run Coupled.init ls = some t) :
    (∀ ms u, ms <+: ls → coupled.run Coupled.init ms = some u → u.Agree) ↔
      coupled.StepsMeet OutcomeTold Coupled.init ls := by
  have hinit : Coupled.init.Agree := rfl
  refine (TransitionSystem.stepsMeet_iff_reached (I := fun s => WellFormed s.daemon)
    (P := Coupled.Agree) ?_ init_wellFormed hinit hrun).symm
  rintro ⟨d, m⟩ l t hw ha hstep
  obtain ⟨d', hd', rfl⟩ := Option.map_eq_some_iff.mp hstep
  exact ⟨step_wellFormed d l d' hw hd', answered_iff_agree hw ha hd'⟩

/-- A session is opened and closed, and another one is opened whose answer is lost. -/
def lostAnswer : List Label :=
  clientLabels 1 ++ openLabels 1 0 10 0x200 ++
    [.command 1 (.closeSession 10), .reply (successReply mcMcpCmdCloseSession 0) (hostAt 0),
      .command 1 (.openSession { tci := 0, handle := 0, len := 0 } (blobAnswers 0 0)),
      .reply { noReply with value := 11, performed := true } (hostAt 0)]

/-- Only the last answer breaks the agreement. -/
theorem sessionsAgree_iff_lostAnswer :
    (∃ t, coupled.run Coupled.init lostAnswer = some t ∧ t.secure = {11} ∧
      t.daemon.trustletSessions.isEmpty) ∧
    (∃ t, coupled.run Coupled.init (lostAnswer.take 8) = some t ∧
      ∀ ms u, ms <+: lostAnswer.take 8 → coupled.run Coupled.init ms = some u → u.Agree) :=
  ⟨⟨_, rfl, rfl, rfl⟩, _, rfl, (sessionsAgree_iff rfl).mpr (by decide)⟩

end Daemon

end Exynos8890.MobiCore
