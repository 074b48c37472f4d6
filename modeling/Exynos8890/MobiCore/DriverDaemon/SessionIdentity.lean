import Exynos8890.MobiCore.DriverDaemon.Connections

/-!
# The identity of a session on the wire

`openSession` answers with the id of a session, the address of its object and its
magic; `registerTrustletConnection` compares the three values of an NQ_CONNECT command
with every listed session.  The wire field of the address has 32 bits, the address has
as many as a pointer of the daemon.

Main results:

- Theorem `announcedBy_run`: the response that opened a listed session is the one
  made of its fields.
- Theorem `sessionIdentity_run`: the triples of the responses select their sessions
  exactly when no session lies above 4 GiB.
- Theorem `not_sessionIdentity`: a session above 4 GiB cannot be connected.
-/

namespace Exynos8890.MobiCore

/-- The response that announces a session to its client. -/
def TrustletSession.openResponse (s : TrustletSession) : Response :=
  .openSession s.sessionId s.addr.toUInt32 s.sessionMagic

/-- The command carries the triple of a response. -/
def CmdNqConnect.Carries (cmd : CmdNqConnect) (rsp : Response) : Prop :=
  rsp = .openSession cmd.sessionId cmd.deviceSessionId cmd.sessionMagic

namespace Daemon

/-! ## Addresses -/

/-- No two sessions share an address. -/
def AddressesDistinct (d : Daemon) : Prop :=
  (d.trustletSessions.map TrustletSession.addr).Nodup

theorem init_addressesDistinct : AddressesDistinct init :=
  List.nodup_nil

theorem SessionsChange.addressesDistinct {d t : Daemon} {l : Label} (h : SessionsChange d l t)
    (hd : AddressesDistinct d) : AddressesDistinct t := by
  unfold AddressesDistinct at hd ⊢
  cases h with
  | same hlist => rwa [hlist]
  | changed hid hrun hlist => rwa [hlist, KeyedList.map_update fun s => (hid s).2.1]
  | @pushed frame r host hl hopen haddr hlist =>
      rw [hlist, List.map_append, List.map_singleton, newSession_addr, ← List.concat_eq_append]
      apply List.Nodup.concat _ hd
      intro hmem
      obtain ⟨s, hs, heq⟩ := List.mem_map.mp hmem
      exact haddr s hs heq
  | deleted hremoved hlist =>
      rw [hlist]
      exact hd.sublist (List.Sublist.map _ List.eraseP_sublist)

/-! ## Announcements -/

/-- In the run, the session with this number was opened with this response. -/
def AnnouncedBy (ls : List Label) (ref : SessionRef) (rsp : Response) : Prop :=
  ∃ ms d conn, ms <+: ls ∧ system.run init ms = some d ∧ d.srv = .openDrain conn ref rsp

/-- One step adds at most the response of the session that it opens. -/
theorem announcedBy_concat {ms : List Label} {l : Label} {t : Daemon} {ref : SessionRef}
    {rsp : Response} (hrun : system.run init (ms ++ [l]) = some t) :
    AnnouncedBy (ms ++ [l]) ref rsp ↔
      AnnouncedBy ms ref rsp ∨ ∃ conn, t.srv = .openDrain conn ref rsp := by
  constructor
  · rintro ⟨ns, d, conn, hpre, hd, hsrv⟩
    rcases List.prefix_concat_iff.mp hpre with rfl | hpre
    · rw [hrun, Option.some_inj] at hd
      exact Or.inr ⟨conn, hd ▸ hsrv⟩
    · exact Or.inl ⟨ns, d, conn, hpre, hd, hsrv⟩
  · rintro (⟨ns, d, conn, hpre, hd, hsrv⟩ | ⟨conn, hsrv⟩)
    · exact ⟨ns, d, conn, hpre.trans (List.prefix_append ms [l]), hd, hsrv⟩
    · exact ⟨ms ++ [l], t, conn, List.prefix_rfl, hrun, hsrv⟩

/-- A step that does not open a session makes no new announcement. -/
theorem effect_openDrain {d t : Daemon} {l : Label} (h : Effect d l t) {conn : ConnPtr}
    {ref : SessionRef} {rsp : Response} (hsrv : t.srv = .openDrain conn ref rsp) :
    d.srv = .openDrain conn ref rsp ∨
      ∃ (frame : OpenFrame) (r : McpReply) (host : HostChoice), ref = d.nextRef ∧
        t.trustletSessions =
          d.trustletSessions ++ [d.newSession frame r.value host.addr host.magic] ∧
        rsp = .openSession r.value host.addr.toUInt32 host.magic ∧
        t.nextRef = d.nextRef + 1 := by
  cases h with
  | @openSucceeded frame r host hpc hret haddr =>
      right
      have heq : ServerPc.openDrain frame.conn d.nextRef
          (.openSession r.value host.addr.toUInt32 host.magic) = .openDrain conn ref rsp := hsrv
      cases heq
      exact ⟨frame, r, host, rfl, rfl, rfl, rfl⟩
  | drainedFront | notifyIgnored | notifySent | receivedUnknown | receivedFound | parked
  | lockLost | locked | deliverLost | stored | forwarded | accepted | flushedFront =>
      exact Or.inl hsrv
  | closeRefused hcall | closeSent hcall | closeSentGp hcall =>
      cases hcall <;> cases hsrv
  | @closeFailed c sid k caller | @closeDone c sid k caller | @closeDeferred c sid k caller =>
      cases caller <;> cases hsrv
  | @loopFinished c erased dropping => cases dropping <;> cases hsrv
  | _ => cases hsrv

@[simp]
theorem newSession_openResponse (frame : OpenFrame) (sessionId : UInt32) (addr : UInt64)
    (magic : UInt32) (d : Daemon) :
    (d.newSession frame sessionId addr magic).openResponse =
      .openSession sessionId addr.toUInt32 magic := by
  unfold newSession
  split <;> rfl

/-- Every listed session has been announced once, with its own fields. -/
structure Announced (ls : List Label) (d : Daemon) : Prop where
  run : system.run init ls = some d
  numbered : ∀ ref rsp, AnnouncedBy ls ref rsp → ref < d.nextRef
  listed : ∀ s ∈ d.trustletSessions, ∀ rsp, AnnouncedBy ls s.ref rsp ↔ rsp = s.openResponse

theorem init_announced : Announced [] init := by
  refine ⟨rfl, ?_, ?_⟩
  · rintro ref rsp ⟨ms, d, conn, hpre, hd, hsrv⟩
    rw [List.prefix_nil.mp hpre] at hd
    cases hd
    cases hsrv
  · intro s hs
    exact absurd hs List.not_mem_nil

/-- A session that a step leaves in the list keeps its response. -/
theorem SessionsChange.openResponse {d t : Daemon} {l : Label} (h : SessionsChange d l t)
    (hnext : t.nextRef = d.nextRef) :
    ∀ s' ∈ t.trustletSessions, ∃ s ∈ d.trustletSessions, s'.ref = s.ref ∧
      s'.openResponse = s.openResponse := by
  intro s' hs'
  cases h with
  | same hlist =>
      rw [hlist] at hs'
      exact ⟨s', hs', rfl, rfl⟩
  | @changed ref f hid hrun hlist =>
      rw [hlist] at hs'
      rcases KeyedList.mem_update.mp hs' with ⟨s, hs, -, rfl⟩ | ⟨hs, -⟩
      · obtain ⟨href, haddr, hsid, hmagic, -⟩ := hid s
        refine ⟨s, hs, href, ?_⟩
        rw [TrustletSession.openResponse, haddr, hsid, hmagic, TrustletSession.openResponse]
      · exact ⟨s', hs, rfl, rfl⟩
  | pushed _ _ _ _ hpushed =>
      rw [hpushed] at hnext
      exact absurd hnext (Nat.succ_ne_self _)
  | deleted _ hlist =>
      rw [hlist] at hs'
      exact ⟨s', KeyedList.mem_of_mem_delete hs', rfl, rfl⟩

theorem step_announced (ms : List Label) (d : Daemon) (l : Label) (t : Daemon)
    (ha : Announced ms d) (hstep : system.step d l = some t) : Announced (ms ++ [l]) t := by
  have hw := wellFormed_run ha.run
  have heffect := step_effect hstep
  have hchange := effect_sessionsChange hw.distinct heffect
  have hrun : system.run init (ms ++ [l]) = some t := by
    rw [TransitionSystem.run_append]
    refine ⟨d, ha.run, ?_⟩
    rw [TransitionSystem.run_cons_eq_some]
    exact ⟨t, hstep, rfl⟩
  by_cases hnext : t.nextRef = d.nextRef
  · -- no session is opened: nothing is announced that was not announced before
    have hsame : ∀ ref rsp, AnnouncedBy (ms ++ [l]) ref rsp ↔ AnnouncedBy ms ref rsp := by
      intro ref rsp
      rw [announcedBy_concat hrun]
      constructor
      · rintro (h | ⟨conn, hsrv⟩)
        · exact h
        · rcases effect_openDrain heffect hsrv with hsrv | ⟨_, _, _, _, _, _, hsucc⟩
          · exact ⟨ms, d, conn, List.prefix_rfl, ha.run, hsrv⟩
          · exact absurd (hsucc.symm.trans hnext) (Nat.succ_ne_self _)
      · exact Or.inl
    refine ⟨hrun, ?_, ?_⟩
    · intro ref rsp h
      rw [hnext]
      exact ha.numbered ref rsp ((hsame ref rsp).mp h)
    · intro s' hs' rsp
      obtain ⟨s, hs, href, hrsp⟩ := hchange.openResponse hnext s' hs'
      rw [hsame, href, hrsp]
      exact ha.listed s hs rsp
  · -- the only step that numbers an object opens a session
    cases heffect with
    | @openSucceeded frame r host hpc hret haddr =>
        have hnew : ∀ ref rsp, AnnouncedBy (ms ++ [.reply r host]) ref rsp ↔
            AnnouncedBy ms ref rsp ∨
              ref = d.nextRef ∧ rsp = .openSession r.value host.addr.toUInt32 host.magic := by
          intro ref rsp
          rw [announcedBy_concat hrun]
          apply or_congr_right
          constructor
          · rintro ⟨conn, hsrv⟩
            have heq : ServerPc.openDrain frame.conn d.nextRef
                (.openSession r.value host.addr.toUInt32 host.magic) =
                  .openDrain conn ref rsp := hsrv
            cases heq
            exact ⟨rfl, rfl⟩
          · rintro ⟨rfl, rfl⟩
            exact ⟨frame.conn, rfl⟩
        refine ⟨hrun, ?_, ?_⟩
        · intro ref rsp h
          apply Nat.lt_succ_of_le
          rcases (hnew ref rsp).mp h with h | ⟨rfl, -⟩
          · exact (ha.numbered ref rsp h).le
          · exact le_rfl
        · intro s hs rsp
          rw [hnew]
          rcases List.mem_append.mp hs with hs | hs
          · have hne : s.ref ≠ d.nextRef := (hw.numbered s hs).ne
            rw [ha.listed s hs rsp]
            simp [hne]
          · rw [List.mem_singleton.mp hs, newSession_ref, newSession_openResponse]
            constructor
            · rintro (h | ⟨-, h⟩)
              · exact absurd (ha.numbered _ rsp h) (lt_irrefl _)
              · exact h
            · exact fun h => Or.inr ⟨rfl, h⟩
    | closeRefused hcall | closeSent hcall | closeSentGp hcall =>
        cases hcall <;> exact absurd rfl hnext
    | @loopFinished c erased dropping => cases dropping <;> exact absurd rfl hnext
    | _ => exact absurd rfl hnext

/-- The response that opened a listed session is the one made of its fields. -/
theorem announcedBy_run {ls : List Label} {d : Daemon} (hrun : system.run init ls = some d) :
    Announced ls d ∧ AddressesDistinct d := by
  have hinv := @TransitionSystem.run_invariant_labels _ _ system (fun _ _ => True)
    (fun ms d => Announced ms d ∧ AddressesDistinct d)
    (fun ms s l t hI _ hstep =>
      ⟨step_announced ms s l t hI.1 hstep,
        (effect_sessionsChange (wellFormed_run hI.1.run).distinct
          (step_effect hstep)).addressesDistinct hI.2⟩)
    init d [] ls ⟨init_announced, init_addressesDistinct⟩ (system.stepsMeet_true init ls) hrun
  exact hinv

/-! ## The search -/

/-- Every triple of a response selects its session, and every other triple none. -/
structure TriplesMatch (ls : List Label) (d : Daemon) : Prop where
  found : ∀ s ∈ d.trustletSessions, ∀ rsp cmd, AnnouncedBy ls s.ref rsp →
    CmdNqConnect.Carries cmd rsp → d.findTrustletConnection cmd = some s
  others : ∀ cmd, (∀ s ∈ d.trustletSessions, ∀ rsp, AnnouncedBy ls s.ref rsp →
    ¬ CmdNqConnect.Carries cmd rsp) → d.findTrustletConnection cmd = none

/-- What the search finds is listed and has the three values of the command. -/
theorem findTrustletConnection_spec {d : Daemon} {cmd : CmdNqConnect} {s : TrustletSession}
    (h : d.findTrustletConnection cmd = some s) :
    s ∈ d.trustletSessions ∧ s.addr = cmd.deviceSessionId.toUInt64 ∧
      s.sessionMagic = cmd.sessionMagic ∧ s.sessionId = cmd.sessionId := by
  refine ⟨List.mem_of_find?_eq_some h, ?_⟩
  simpa using List.find?_some h

/-- A listed session with the three values of the command is found. -/
theorem findTrustletConnection_of_mem {d : Daemon} (hd : AddressesDistinct d)
    {cmd : CmdNqConnect} {s : TrustletSession} (hs : s ∈ d.trustletSessions)
    (haddr : s.addr = cmd.deviceSessionId.toUInt64) (hmagic : s.sessionMagic = cmd.sessionMagic)
    (hid : s.sessionId = cmd.sessionId) : d.findTrustletConnection cmd = some s := by
  cases hfind : d.findTrustletConnection cmd with
  | none =>
      have := List.find?_eq_none.mp hfind s hs
      simp [haddr, hmagic, hid] at this
  | some s' =>
      obtain ⟨hs', haddr', -, -⟩ := findTrustletConnection_spec hfind
      rw [List.inj_on_of_nodup_map hd hs' hs (haddr'.trans haddr.symm)]

/-- An address survives the wire field exactly when it lies below 4 GiB. -/
theorem addr_roundTrip_iff (addr : UInt64) :
    addr.toUInt32.toUInt64 = addr ↔ addr < 0x100000000 := by
  rw [← UInt64.toNat_inj, UInt64.lt_iff_toNat_lt, UInt32.toNat_toUInt64, UInt64.toNat_toUInt32]
  show _ ↔ _ < 4294967296
  omega

/-- In every run: the triple of each open-session response selects the session it was
written for, and every other triple selects none, if and only if every listed session
lies below 4 GiB. -/
theorem sessionIdentity_run (ls : List Label) (d : Daemon)
    (hrun : system.run init ls = some d) :
    TriplesMatch ls d ↔ ∀ s ∈ d.trustletSessions, s.addr < 0x100000000 := by
  obtain ⟨hannounced, hdistinct⟩ := announcedBy_run hrun
  constructor
  · intro hmatch s hs
    have hfind := hmatch.found s hs s.openResponse
      { deviceId := mcDeviceIdDefault
        sessionId := s.sessionId
        deviceSessionId := s.addr.toUInt32
        sessionMagic := s.sessionMagic }
      ((hannounced.listed s hs _).mpr rfl) rfl
    exact (addr_roundTrip_iff s.addr).mp (findTrustletConnection_spec hfind).2.1.symm
  · intro hlow
    refine ⟨?_, ?_⟩
    · intro s hs rsp cmd hrsp hcarries
      rw [(hannounced.listed s hs rsp).mp hrsp, CmdNqConnect.Carries,
        TrustletSession.openResponse, Response.openSession.injEq] at hcarries
      obtain ⟨hid, haddr, hmagic⟩ := hcarries
      apply findTrustletConnection_of_mem hdistinct hs _ hmagic hid
      rw [← haddr]
      exact ((addr_roundTrip_iff s.addr).mpr (hlow s hs)).symm
    · intro cmd hother
      cases hfind : d.findTrustletConnection cmd with
      | none => rfl
      | some s =>
          obtain ⟨hs, haddr, hmagic, hid⟩ := findTrustletConnection_spec hfind
          refine absurd ?_ (hother s hs s.openResponse ((hannounced.listed s hs _).mpr rfl))
          rw [CmdNqConnect.Carries, TrustletSession.openResponse, hid, hmagic, haddr]
          simp

/-- A session below 4 GiB. -/
theorem sessionIdentity_run_low :
    ∃ d, system.run init (clientLabels 1 ++ openLabels 1 0 10 0x200) = some d ∧
      (TriplesMatch (clientLabels 1 ++ openLabels 1 0 10 0x200) d ↔
        ∀ s ∈ d.trustletSessions, s.addr < 0x100000000) :=
  ⟨_, rfl, sessionIdentity_run (clientLabels 1 ++ openLabels 1 0 10 0x200) _ rfl⟩

/-- A client opens a session whose object lies just above 4 GiB. -/
def openHigh : List Label :=
  clientLabels 1 ++ openLabels 1 0 10 0x100000200

/-- The triple of its response selects no session. -/
theorem not_sessionIdentity :
    ¬ ∀ (ls : List Label) (d : Daemon), system.run init ls = some d → TriplesMatch ls d := by
  intro h
  obtain ⟨d, hrun, s, hs, haddr⟩ : ∃ d, system.run init openHigh = some d ∧
      ∃ s ∈ d.trustletSessions, s.addr = 0x100000200 :=
    ⟨_, rfl, _, List.mem_singleton.mpr rfl, rfl⟩
  obtain ⟨hannounced, -⟩ := announcedBy_run hrun
  have hfind := (h openHigh d hrun).found s hs s.openResponse
    { deviceId := mcDeviceIdDefault
      sessionId := s.sessionId
      deviceSessionId := s.addr.toUInt32
      sessionMagic := s.sessionMagic }
    ((hannounced.listed s hs _).mpr rfl) rfl
  have heq := (findTrustletConnection_spec hfind).2.1
  rw [haddr] at heq
  have hne : (0x100000200 : UInt64) ≠ (0x100000200 : UInt64).toUInt32.toUInt64 := by decide
  exact hne heq

end Daemon

end Exynos8890.MobiCore
