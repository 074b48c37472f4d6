import Exynos8890.MobiCore.ClientLib.SessionsHeld

/-!
# The life cycle of a session of the GlobalPlatform client

Which objects are active behind any sequence of calls, and which pages and sessions they hold.
A connection to the daemon that is lost takes the device with all of its sessions, while the
objects of these sessions stay active until they are closed.

Main results:

- Theorems `LifeCycle.openSession`, `LifeCycle.invokeCommand` and `LifeCycle.closeSession`.
- Theorem `lifeCycle_run`: it holds behind every call, and every end releases what was held.
- Theorem `not_lifeCycle`: an object stays active when another one has lost their device.
-/

namespace Exynos8890.MobiCore.ClientLib

namespace Gp

open CStruct Process ResourceLog

/-! ## Ending a session -/

section Ending

variable {p : Process} {c : GpClient} {o : ObjectRef} {addr : UInt64}

/-- The object is not active, and it has no page. -/
def Ended (c : GpClient) (o : ObjectRef) : Prop :=
  (c.sessions o).active = false ∧ (c.sessions o).tci = none

theorem LifeCycle.tci_of_inactive (h : LifeCycle p c) (ho : (c.sessions o).active = false) :
    (c.sessions o).tci = none := by
  cases htci : (c.sessions o).tci with
  | none => rfl
  | some page =>
      have hactive := (h.paired o).mpr ⟨page.1, page.2, htci⟩
      rw [ho] at hactive
      cases hactive

theorem LifeCycle.of_munmap (hpages : PagesHeld c) (hsessions : SessionsHeld p c)
    (ho : (c.sessions o).active = false) (hpaired : ∀ o', o' ≠ o → Paired c o') :
    LifeCycle p (c.munmap o) ∧ Ended (c.munmap o) o := by
  have hself := munmap_self c o
  have hother : ∀ {o'}, o' ≠ o → (c.munmap o).sessions o' = c.sessions o' :=
    fun hne => munmap_sessions_of_ne c hne
  have hactive : ∀ o', ((c.munmap o).sessions o').active = (c.sessions o').active := by
    intro o'
    by_cases hne : o' = o
    · rw [hne, hself]
    · rw [hother hne]
  have hhandle : ∀ o', ((c.munmap o).sessions o').handle = (c.sessions o').handle := by
    intro o'
    by_cases hne : o' = o
    · rw [hne, hself]
    · rw [hother hne]
  have hfewer : Fewer c.process (c.munmap o).process := by
    rw [munmap_process]
    exact Fewer.refl hsessions.distinct
  refine ⟨⟨hpages.munmap o, ?_, fun o' => ?_⟩, ?_⟩
  · exact hsessions.of_fewer hfewer hactive (fun o' _ => hhandle o') (munmap_sessionLog c o)
  · by_cases hne : o' = o
    · rw [hne]
      simp [Paired, HasPage, hself, ho]
    · rw [Paired, hother hne]
      simp only [HasPage, hother hne]
      exact hpaired o' hne
  · rw [Ended, hself]
    exact ⟨ho, rfl⟩

/-- What the end of an active object does. -/
structure Ends (p : Process) (c d : GpClient) (o : ObjectRef) (addr : UInt64) : Prop where
  lifeCycle : LifeCycle p d
  ended : Ended d o
  pageLog : d.pageLog = c.pageLog ++ [.closed addr]
  sessionLog : d.sessionLog = c.sessionLog ++ [.closed (c.sessions o).handle]

theorem LifeCycle.cleanup (h : LifeCycle p c) (ho : (c.sessions o).active = true)
    (hpage : HasPage c o addr) : Ends p c (cleanup o (.answered mcDrvOk ()) c) o addr := by
  obtain ⟨tci, htci⟩ := hpage
  have hself : ((c.close o (.answered mcDrvOk ())).setInactive o).sessions o =
      { c.sessions o with active := false } := setSession_self _ o _
  have hother : ∀ {o'}, o' ≠ o →
      ((c.close o (.answered mcDrvOk ())).setInactive o).sessions o' = c.sessions o' :=
    fun hne => setSession_of_ne _ _ hne
  have hpages : PagesHeld ((c.close o (.answered mcDrvOk ())).setInactive o) := by
    refine h.pages.congr ?_ rfl
    intro o' addr'
    by_cases hne : o' = o
    · rw [hne, HasPage, HasPage, hself]
    · rw [HasPage, HasPage, hother hne]
  have htci' : (((c.close o (.answered mcDrvOk ())).setInactive o).sessions o).tci =
      some (addr, tci) := by
    rw [hself, htci]
  obtain ⟨hlife, hended⟩ := LifeCycle.of_munmap hpages (h.sessions.close ho) (by rw [hself])
    fun o' hne => by
      rw [Paired, hother hne]
      simp only [HasPage, hother hne]
      exact h.paired o'
  refine ⟨hlife, hended, ?_, munmap_sessionLog _ o⟩
  rw [Gp.cleanup, munmap_eq htci']
  rfl

/-- The page of an object is written while its devices can be lost. -/
theorem LifeCycle.setTci (h : LifeCycle p c) {q : Process} (hfewer : Fewer c.process q)
    (hpage : HasPage c o addr) (tci : TeecTci) :
    LifeCycle p ((c.withProcess q).setTci o addr tci) := by
  obtain ⟨old, hold⟩ := hpage
  have hself : ((c.withProcess q).setTci o addr tci).sessions o =
      { c.sessions o with tci := some (addr, tci) } := setSession_self _ o _
  have hother : ∀ {o'}, o' ≠ o → ((c.withProcess q).setTci o addr tci).sessions o' =
      c.sessions o' := fun hne => setSession_of_ne _ _ hne
  have hpages : ∀ o' addr', HasPage ((c.withProcess q).setTci o addr tci) o' addr' ↔
      HasPage c o' addr' := by
    intro o' addr'
    by_cases hne : o' = o
    · rw [hne, HasPage, HasPage, hself, hold]
      simp
    · rw [HasPage, HasPage, hother hne]
  have hactive : ∀ o', (((c.withProcess q).setTci o addr tci).sessions o').active =
      (c.sessions o').active := by
    intro o'
    by_cases hne : o' = o
    · rw [hne, hself]
    · rw [hother hne]
  have hhandle : ∀ o', (((c.withProcess q).setTci o addr tci).sessions o').handle =
      (c.sessions o').handle := by
    intro o'
    by_cases hne : o' = o
    · rw [hne, hself]
    · rw [hother hne]
  refine ⟨h.pages.congr hpages rfl, h.sessions.of_fewer hfewer hactive (fun o' _ => hhandle o') rfl,
    fun o' => ?_⟩
  rw [Paired, hactive]
  simp only [hpages]
  exact h.paired o'

end Ending

/-! ## Calls of the application -/

section Exchange

variable {p : Process}

theorem exchange_fewer (hp : p.Distinct) (handle : SessionHandle) (tci : TeecTci)
    (env : CallEnvironment) :
    Fewer p (exchange handle tci env p).2.2 := by
  have hnotify : Fewer p (p.mcNotify handle env.sent).2 := mcNotify_fewer hp env.sent
  unfold exchange
  split
  next mcRet q hq =>
    rw [hq] at hnotify
    split
    · exact hnotify
    · exact hnotify.trans (mcWaitNotification_fewer hnotify.distinct env.wait)

end Exchange

/-- What a call of the application does when it does not end the session. -/
structure Stays (p : Process) (c d : GpClient) (o : ObjectRef) (addr : UInt64) : Prop where
  lifeCycle : LifeCycle p d
  active : (d.sessions o).active = true
  page : HasPage d o addr
  handle : (d.sessions o).handle = (c.sessions o).handle
  pageLog : d.pageLog = c.pageLog
  sessionLog : d.sessionLog = c.sessionLog

section CallTA

variable {p : Process} {c d : GpClient} {o : ObjectRef} {addr : UInt64}

theorem LifeCycle.stays_setTci (h : LifeCycle p c) (ho : (c.sessions o).active = true)
    (hpage : HasPage c o addr) {q : Process} (hfewer : Fewer c.process q) (tci : TeecTci) :
    Stays p c ((c.withProcess q).setTci o addr tci) o addr := by
  have hself : ((c.withProcess q).setTci o addr tci).sessions o =
      { c.sessions o with tci := some (addr, tci) } := setSession_self _ o _
  exact
    { lifeCycle := h.setTci hfewer hpage tci
      active := by rw [hself, ho]
      page := ⟨tci, by rw [hself]⟩
      handle := by rw [hself]
      pageLog := rfl
      sessionLog := rfl }

/-- The session of an object that is still active is ended. -/
theorem Stays.ends (h : Stays p c d o addr) :
    Ends p c (cleanup o (.answered mcDrvOk ()) d) o addr := by
  have hends := h.lifeCycle.cleanup h.active h.page
  exact
    { lifeCycle := hends.lifeCycle
      ended := hends.ended
      pageLog := by rw [hends.pageLog, h.pageLog]
      sessionLog := by rw [hends.sessionLog, h.sessionLog, h.handle] }

/-- A call of the application ends the session, or the object stays active. -/
theorem LifeCycle.callTA (h : LifeCycle p c) (ho : (c.sessions o).active = true)
    (hpage : HasPage c o addr) (w : PointerWidth) (tci : TeecTci) (operation : Option Operation)
    {env : CallEnvironment} (hclose : env.close = .answered mcDrvOk ()) :
    Stays p c (callTA w o addr tci operation env c).client o addr ∨
      (callTA w o addr tci operation env c).result ≠ teecSuccess ∧
        Ends p c (callTA w o addr tci operation env c).client o addr := by
  have hsetUp := setupOperation_fewer (w := w) (c.sessions o).handle h.sessions.distinct tci
    operation env.toSetupEnvironment
  unfold Gp.callTA
  dsimp only
  split
  · exact Or.inl (h.stays_setTci ho hpage hsetUp _)
  · have hexchange := hsetUp.trans (exchange_fewer hsetUp.distinct (c.sessions o).handle
      (setupOperation w tci (c.sessions o).handle operation env.toSetupEnvironment c.process).tci
      env)
    have hunwound := fun tci copyValues => hexchange.trans (unwindOperation_fewer (w := w)
      (c.sessions o).handle hexchange.distinct tci operation copyValues env.unmap)
    split
    next herror =>
      rw [hclose]
      exact Or.inr ⟨herror, (h.stays_setTci ho hpage (hunwound _ _) _).ends⟩
    next => exact Or.inl (h.stays_setTci ho hpage (hunwound _ _) _)

end CallTA

/-! ## Opening a session -/

/-- What was opened has been closed once. -/
def Once {α : Type} (log : List (ResourceLog.Event α)) : Prop :=
  log = [] ∨ ∃ a, log = [.opened a, .closed a]

/-- What a failed `TEEC_OpenSession` leaves. -/
structure OpenFails (p : Process) (c d : GpClient) (o : ObjectRef) : Prop where
  lifeCycle : LifeCycle p d
  ended : Ended d o
  pageLog : ∃ log, d.pageLog = c.pageLog ++ log ∧ Once log
  sessionLog : ∃ log, d.sessionLog = c.sessionLog ++ log ∧ Once log

section Opening

variable {p : Process} {c d : GpClient} {o : ObjectRef} {addr : UInt64}

theorem openFailed_of_active (reply : Reply Unit) (ho : (c.sessions o).active = true) :
    openFailed o reply c = cleanup o reply c := by
  rw [openFailed, if_pos ho]
  rfl

theorem openFailed_of_inactive (reply : Reply Unit) (ho : (c.sessions o).active = false) :
    openFailed o reply c = c.munmap o := by
  rw [openFailed, ho]
  rfl

theorem openFailed_of_ended (reply : Reply Unit) (h : Ended c o) : openFailed o reply c = c := by
  rw [openFailed_of_inactive reply h.1, munmap_of_none h.2]

theorem openPage_self (o : ObjectRef) (deviceId : UInt32) (addr : UInt64) (c : GpClient) :
    (openPage o deviceId addr c).sessions o =
      { handle := { sessionId := 0, deviceId := deviceId }
        tci := some (addr, TeecTci.zero)
        active := false } :=
  setSession_self c o _

theorem openPage_of_ne {o' : ObjectRef} (hne : o' ≠ o) (deviceId : UInt32) (addr : UInt64)
    (c : GpClient) : (openPage o deviceId addr c).sessions o' = c.sessions o' :=
  setSession_of_ne c _ hne

theorem SessionsHeld.openPage (h : SessionsHeld p c) (ho : (c.sessions o).active = false)
    (deviceId : UInt32) (addr : UInt64) : SessionsHeld p (openPage o deviceId addr c) := by
  have hactive : ∀ o', ((Gp.openPage o deviceId addr c).sessions o').active =
      (c.sessions o').active := by
    intro o'
    by_cases hne : o' = o
    · rw [hne, openPage_self, ho]
    · rw [openPage_of_ne hne]
  refine h.of_fewer (Fewer.refl h.distinct) hactive (fun o' ho' => ?_) rfl
  have hne : o' ≠ o := by
    rintro rfl
    rw [ho] at ho'
    cases ho'
  rw [openPage_of_ne hne]

theorem LifeCycle.activate (h : LifeCycle p c) (ho : (c.sessions o).active = false)
    (hfresh : FreshPage c (some addr)) {handle : SessionHandle} {q : Process}
    (hopens : Opens c.process q handle) :
    LifeCycle p (activate o handle q (openPage o handle.deviceId addr c)) := by
  have hself : (Gp.activate o handle q (openPage o handle.deviceId addr c)).sessions o =
      { handle := handle, tci := some (addr, TeecTci.zero), active := true } :=
    (setSession_self _ o _).trans (by rw [openPage_self])
  have hother : ∀ {o'}, o' ≠ o →
      (Gp.activate o handle q (openPage o handle.deviceId addr c)).sessions o' = c.sessions o' :=
    fun hne => (setSession_of_ne _ _ hne).trans (openPage_of_ne hne _ _ _)
  refine ⟨?_, ?_, fun o' => ?_⟩
  · refine (h.pages.openPage (h.tci_of_inactive ho) hfresh handle.deviceId).congr ?_ rfl
    intro o' addr'
    by_cases hne : o' = o
    · rw [hne, HasPage, HasPage, hself, openPage_self]
    · rw [HasPage, HasPage, hother hne, openPage_of_ne hne]
  · refine (h.sessions.openPage ho handle.deviceId addr).activate ?_ hopens
    rw [openPage_self]
  · by_cases hne : o' = o
    · rw [hne]
      simp [Paired, HasPage, hself]
    · rw [Paired, hother hne]
      simp only [HasPage, hother hne]
      exact h.paired o'

theorem LifeCycle.refused (h : LifeCycle p c) (ho : (c.sessions o).active = false)
    (hfresh : FreshPage c (some addr)) (handle : SessionHandle) {q : Process}
    (htable : q.table = c.process.table) (reply : Reply Unit) :
    OpenFails p c (openFailed o reply
      (((openPage o handle.deviceId addr c).withProcess q).setHandle o handle)) o := by
  have hpaged := h.sessions.openPage ho handle.deviceId addr
  generalize hd : ((openPage o handle.deviceId addr c).withProcess q).setHandle o handle = d
  have hprocess : d.process = q := by
    rw [← hd]
    rfl
  have hpageLog : d.pageLog = c.pageLog ++ [.opened addr] := by
    rw [← hd]
    rfl
  have hsessionLog : d.sessionLog = c.sessionLog := by
    rw [← hd]
    rfl
  have hself : d.sessions o =
      { handle := handle, tci := some (addr, TeecTci.zero), active := false } := by
    rw [← hd, GpClient.setHandle, setSession_self]
    simp only [GpClient.withProcess, openPage_self]
  have hother : ∀ {o'}, o' ≠ o →
      d.sessions o' = (openPage o handle.deviceId addr c).sessions o' := by
    intro o' hne
    rw [← hd]
    exact setSession_of_ne _ _ hne
  have hinactive : (d.sessions o).active = false := by rw [hself]
  have hpages : PagesHeld d := by
    have hopened := h.pages.openPage (h.tci_of_inactive ho) hfresh handle.deviceId
    refine hopened.congr ?_ hpageLog
    intro o' addr'
    by_cases hne : o' = o
    · rw [hne, HasPage, HasPage, hself, openPage_self]
    · rw [HasPage, HasPage, hother hne]
  have hsessions : SessionsHeld p d := by
    refine hpaged.of_fewer ?_ ?_ ?_ hsessionLog
    · rw [hprocess]
      exact Fewer.of_table h.sessions.distinct htable
    · intro o'
      by_cases hne : o' = o
      · rw [hne, hself, openPage_self]
      · rw [hother hne]
    · intro o' ho'
      have hne : o' ≠ o := by
        rintro rfl
        rw [openPage_self] at ho'
        cases ho'
      rw [hother hne]
  obtain ⟨hlife, hended⟩ := LifeCycle.of_munmap hpages hsessions hinactive fun o' hne => by
    rw [Paired, hother hne, openPage_of_ne hne]
    simp only [HasPage, hother hne, openPage_of_ne hne]
    exact h.paired o'
  rw [openFailed_of_inactive reply hinactive]
  refine ⟨hlife, hended, ⟨[.opened addr, .closed addr], ?_, Or.inr ⟨addr, rfl⟩⟩,
    ⟨[], ?_, Or.inl rfl⟩⟩
  · have htci : (d.sessions o).tci = some (addr, TeecTci.zero) := by rw [hself]
    rw [munmap_eq htci]
    show d.pageLog ++ [.closed addr] = c.pageLog ++ [.opened addr, .closed addr]
    rw [hpageLog]
    exact List.append_assoc c.pageLog [.opened addr] [.closed addr]
  · rw [munmap_sessionLog, hsessionLog, List.append_nil]

end Opening

section Calls

variable {p : Process} {c : GpClient} {o : ObjectRef} {addr : UInt64} {w : PointerWidth}

/-- The application is called for the first time: an error ends the session. -/
theorem LifeCycle.enter (h : LifeCycle p c) (ho : (c.sessions o).active = true)
    (hpage : HasPage c o addr) (operation : Option Operation) {env : OpenSessionEnvironment}
    (hclose : env.close = .answered mcDrvOk ()) :
    (enter w o addr operation env c).result = teecSuccess ∧
        LifeCycle p (enter w o addr operation env c).client ∨
      Ends p c (enter w o addr operation env c).client o addr := by
  have hcall := h.callTA ho hpage w TeecTci.zero operation hclose
  unfold Gp.enter
  dsimp only
  rw [hclose]
  split
  next herror =>
    rcases hcall with hstays | ⟨-, hends⟩
    · rw [openFailed_of_active _ hstays.active]
      exact Or.inr hstays.ends
    · rw [openFailed_of_ended _ hends.ended]
      exact Or.inr hends
  next hok =>
    have hstays := hcall.resolve_right fun hends => hok hends.1
    split
    next => exact Or.inl ⟨not_not.mp hok, hstays.lifeCycle⟩
    next =>
      split
      · rw [openFailed_of_active _ hstays.active]
        exact Or.inr hstays.ends
      · exact Or.inl ⟨not_not.mp hok, hstays.lifeCycle⟩

theorem OpenFails.refl (h : LifeCycle p c) (ho : (c.sessions o).active = false) :
    OpenFails p c c o where
  lifeCycle := h
  ended := ⟨ho, h.tci_of_inactive ho⟩
  pageLog := ⟨[], (List.append_nil _).symm, Or.inl rfl⟩
  sessionLog := ⟨[], (List.append_nil _).symm, Or.inl rfl⟩

/-- `TEEC_OpenSession` on an inactive object. -/
theorem LifeCycle.openSession (h : LifeCycle p c) (ho : (c.sessions o).active = false)
    (args : OpenSessionArgs) (operation : Option Operation) {env : OpenSessionEnvironment}
    (hclose : env.close = .answered mcDrvOk ()) (hpage : FreshPage c env.mmap)
    (hfresh : FreshSession c args env.answers) :
    (openSession w o args operation env c).result = teecSuccess ∧
        LifeCycle p (openSession w o args operation env c).client ∨
      OpenFails p c (openSession w o args operation env c).client o := by
  unfold Gp.openSession
  split
  next => exact Or.inr (OpenFails.refl h ho)
  next deviceId hcontext =>
    split
    · exact Or.inr (OpenFails.refl h ho)
    split
    next hmmap =>
      have hsame : c.setSession o { c.sessions o with tci := none, active := false } = c := by
        rw [GpClient.setSession, ← ho, ← h.tci_of_inactive ho, Function.update_eq_self]
      dsimp only
      rw [hsame]
      exact Or.inr (OpenFails.refl h ho)
    next addr hmmap =>
      rw [hmmap] at hpage
      dsimp only
      have hprocess : (openPage o deviceId addr c).process = c.process := rfl
      rw [hprocess]
      rcases mcOpenGPTA_cases (p := c.process) h.sessions.distinct
        { session := true, deviceId := deviceId, service := true, tci := addr
          len := sizeofTci w } env.answers (hfresh deviceId hcontext) with
        ⟨sessionId, q, hopen, hopens⟩ | ⟨code, sessionId, q, hcode, hopen, htable⟩
      · have hactive := h.activate ho hpage hopens
        rw [hopen]
        dsimp only
        rw [if_neg (not_not.mpr rfl)]
        have hself : (Gp.activate o { sessionId := sessionId, deviceId := deviceId } q
            (openPage o deviceId addr c)).sessions o =
            { handle := { sessionId := sessionId, deviceId := deviceId }
              tci := some (addr, TeecTci.zero), active := true } :=
          (setSession_self _ o _).trans (by rw [openPage_self])
        rcases hactive.enter (w := w) (by rw [hself]) ⟨TeecTci.zero, by rw [hself]⟩ operation hclose
          with hentered | hends
        · exact Or.inl hentered
        · refine Or.inr ⟨hends.lifeCycle, hends.ended,
            ⟨[.opened addr, .closed addr], ?_, Or.inr ⟨addr, rfl⟩⟩,
            ⟨[.opened _, .closed { sessionId := sessionId, deviceId := deviceId }], ?_,
              Or.inr ⟨_, rfl⟩⟩⟩
          · rw [Option.getD_some, hends.pageLog]
            exact List.append_assoc c.pageLog [.opened addr] [.closed addr]
          · rw [Option.getD_some, hends.sessionLog, hself]
            exact List.append_assoc c.sessionLog [.opened _] [.closed _]
      · rw [hopen]
        dsimp only
        rw [if_pos hcode]
        exact Or.inr (h.refused ho hpage { sessionId := sessionId.getD 0, deviceId := deviceId }
          htable env.close)

end Calls

/-! ## Invoking and closing -/

section Calls

variable {p : Process} {c : GpClient} {o : ObjectRef} {addr : UInt64} {w : PointerWidth}

theorem LifeCycle.hasPage (h : LifeCycle p c) (ho : (c.sessions o).active = true) :
    ∃ addr tci, (c.sessions o).tci = some (addr, tci) :=
  (h.paired o).mp ho

/-- `TEEC_InvokeCommand` finds the page of an active object. -/
theorem LifeCycle.invokeCommand (h : LifeCycle p c) (operation : Option Operation)
    {env : CallEnvironment} (hclose : env.close = .answered mcDrvOk ()) :
    ∃ called, invokeCommand w o operation env c = some called ∧ LifeCycle p called.client := by
  unfold Gp.invokeCommand
  split
  next => exact ⟨_, rfl, h⟩
  next ho =>
    have hactive : (c.sessions o).active = true := by simpa using ho
    obtain ⟨addr, tci, htci⟩ := h.hasPage hactive
    have hlife : LifeCycle p (Gp.callTA w o addr tci operation env c).client := by
      rcases h.callTA hactive ⟨tci, htci⟩ w tci operation hclose with hstays | ⟨-, hends⟩
      · exact hstays.lifeCycle
      · exact hends.lifeCycle
    rw [htci, Option.map_some]
    refine ⟨_, rfl, ?_⟩
    dsimp only
    split
    · exact hlife
    split
    · exact hlife
    · exact hlife

/-- What `TEEC_CloseSession` does: an active object ends, and any other object has ended. -/
structure Closed (p : Process) (c d : GpClient) (o : ObjectRef) : Prop where
  lifeCycle : LifeCycle p d
  ended : Ended d o
  logs : (c.sessions o).active = false ∧ d.pageLog = c.pageLog ∧ d.sessionLog = c.sessionLog ∨
    (c.sessions o).active = true ∧ ∃ addr, HasPage c o addr ∧
      d.pageLog = c.pageLog ++ [.closed addr] ∧
      d.sessionLog = c.sessionLog ++ [.closed (c.sessions o).handle]

theorem setInactive_munmap (o : ObjectRef) (c : GpClient) :
    (c.munmap o).setInactive o = (c.setInactive o).munmap o := by
  have hself : (c.setInactive o).sessions o = { c.sessions o with active := false } :=
    setSession_self c o _
  cases htci : (c.sessions o).tci with
  | none =>
      rw [munmap_of_none htci, munmap_of_none]
      rw [hself, htci]
  | some page =>
      obtain ⟨addr, tci⟩ := page
      have htci' : ((c.setInactive o).sessions o).tci = some (addr, tci) := by rw [hself, htci]
      rw [munmap_eq htci, munmap_eq htci', hself]
      simp [GpClient.setInactive, GpClient.setSession]

/-- The end of `TEEC_CloseSession` behind `mcCloseSession`. -/
theorem closeEnd_close (o : ObjectRef) (reply : Reply Unit) (c : GpClient) :
    closeEnd o (c.close o reply) = cleanup o reply c :=
  setInactive_munmap o (c.close o reply)

theorem closeEnd_of_ended (h : Ended c o) : closeEnd o c = c := by
  rw [closeEnd, munmap_of_none h.2, GpClient.setInactive, GpClient.setSession, ← h.1,
    Function.update_eq_self]

/-- `TEEC_CloseSession`. -/
theorem LifeCycle.closeSession (h : LifeCycle p c) {env : CallEnvironment}
    (hclose : env.close = .answered mcDrvOk ()) :
    ∃ d, closeSession w o env c = some d ∧ Closed p c d o := by
  unfold Gp.closeSession
  split
  next ho =>
    have hended : Ended c o := ⟨ho, h.tci_of_inactive ho⟩
    rw [closeEnd_of_ended hended]
    exact ⟨c, rfl, h, hended, Or.inl ⟨ho, rfl, rfl⟩⟩
  next ho =>
    have hactive : (c.sessions o).active = true := by simpa using ho
    obtain ⟨addr, tci, htci⟩ := h.hasPage hactive
    have hcall := h.callTA hactive ⟨tci, htci⟩ w tci none hclose
    rw [htci, Option.map_some]
    refine ⟨_, rfl, ?_⟩
    have hends : Ends p c (closeEnd o
        (if ((Gp.callTA w o addr tci none env c).client.sessions o).active then
          (Gp.callTA w o addr tci none env c).client.close o env.close
        else (Gp.callTA w o addr tci none env c).client)) o addr := by
      rcases hcall with hstays | ⟨-, hends⟩
      · rw [if_pos hstays.active, hclose, closeEnd_close]
        exact hstays.ends
      · rw [hends.ended.1, if_neg Bool.false_ne_true, closeEnd_of_ended hends.ended]
        exact hends
    exact ⟨hends.lifeCycle, hends.ended,
      Or.inr ⟨hactive, addr, ⟨tci, htci⟩, hends.pageLog, hends.sessionLog⟩⟩

end Calls

/-! ## Every sequence of calls -/

/-- Sessions are opened on inactive objects only, and `mcCloseSession` of an open session
succeeds. -/
def Assumed (c : GpClient) : Call → Prop
  | .openSession o _ _ env => (c.sessions o).active = false ∧ env.close = .answered mcDrvOk ()
  | .invokeCommand _ _ env => env.close = .answered mcDrvOk ()
  | .closeSession _ env => env.close = .answered mcDrvOk ()

instance (c : GpClient) (call : Call) : Decidable (Assumed c call) :=
  match call with
  | .openSession .. => inferInstanceAs (Decidable (_ ∧ _))
  | .invokeCommand .. => inferInstanceAs (Decidable (_ = _))
  | .closeSession .. => inferInstanceAs (Decidable (_ = _))

/-- What a call leaves, besides the life cycle of all objects. -/
def Leaves (p : Process) (w : PointerWidth) (c : GpClient) : Call → GpClient → Prop
  | .openSession o args operation env, d =>
      (openSession w o args operation env c).result ≠ teecSuccess → OpenFails p c d o
  | .invokeCommand .., _ => True
  | .closeSession o _, d => Closed p c d o

/-- A call that kernel and secure world make possible returns. -/
def Settles (p : Process) (w : PointerWidth) (c : GpClient) (call : Call) : Prop :=
  LifeCycle p c ∧ (Possible c call →
    ∃ d, perform w c call = some d ∧ LifeCycle p d ∧ Leaves p w c call d)

section Run

variable {p : Process} {c d : GpClient} {w : PointerWidth}

theorem LifeCycle.settles (h : LifeCycle p c) {call : Call} (hassumed : Assumed c call) :
    Settles p w c call := by
  refine ⟨h, fun hpossible => ?_⟩
  cases call with
  | openSession o args operation env =>
      obtain ⟨ho, hclose⟩ := hassumed
      refine ⟨_, rfl, ?_⟩
      rcases h.openSession (w := w) ho args operation hclose hpossible.1 hpossible.2 with
        ⟨hok, hlife⟩ | hfails
      · exact ⟨hlife, fun herror => absurd hok herror⟩
      · exact ⟨hfails.lifeCycle, fun _ => hfails⟩
  | invokeCommand o operation env =>
      obtain ⟨called, hcalled, hlife⟩ := h.invokeCommand (o := o) (w := w) operation hassumed
      refine ⟨called.client, ?_, hlife, trivial⟩
      rw [perform, hcalled, Option.map_some]
  | closeSession o env =>
      obtain ⟨d, hd, hclosed⟩ := h.closeSession (o := o) (w := w) hassumed
      exact ⟨d, hd, hclosed.lifeCycle, hclosed⟩

theorem LifeCycle.step (h : LifeCycle p c) {call : Call} (hassumed : Assumed c call)
    (hstep : (system w).step c call = some d) : LifeCycle p d := by
  have hpossible : Possible c call := by
    by_contra hnot
    have hnone : (system w).step c call = none := if_neg hnot
    rw [hnone] at hstep
    cases hstep
  have hperform : (system w).step c call = perform w c call := if_pos hpossible
  obtain ⟨d', hd', hlife, -⟩ := (h.settles (w := w) hassumed).2 hpossible
  rw [hperform, hd'] at hstep
  cases hstep
  exact hlife

theorem LifeCycle.start (hp : p.Distinct) : LifeCycle p (start p) where
  pages :=
    { mapped := ⟨[], rfl, by simp [HasPage, Gp.start]⟩
      apart := by simp [HasPage, Gp.start] }
  sessions :=
    { distinct := hp
      opened := ⟨[], rfl, by simp [Gp.start]⟩
      apart := by simp [Gp.start]
      isOpen := by simp [Gp.start]
      owned := fun _ hopen => Or.inl hopen }
  paired := by simp [Paired, HasPage, Gp.start]

/-- Behind every call an object is active exactly when its page is mapped, and its session is
open exactly when moreover its device has not been lost.  An object whose open failed, or which
was closed, is inactive, and its page and session have been given back once. -/
theorem lifeCycle_run (w : PointerWidth) (p : Process) (hp : p.Distinct) (calls : List Call)
    (hassumed : (system w).StepsMeet Assumed (start p) calls) :
    (system w).StepsMeet (Settles p w) (start p) calls :=
  TransitionSystem.StepsMeet.of_invariant (fun _ _ _ h hC hstep => h.step hC hstep)
    (fun _ _ h hC => h.settles hC) (LifeCycle.start hp) hassumed

end Run

/-! ## Two objects on one device -/

/-- A process that has opened the device. -/
def opened : Process :=
  { Process.init with devices := [Device.new mcDeviceIdDefault 1 0] }

def publicLogin : OpenSessionArgs where
  context := some mcDeviceIdDefault
  connectionMethod := teecLoginPublic

/-- Everything succeeds: the page is at `addr`, and the session has this id. -/
def allSucceeds (sessionId : UInt32) (addr : UInt64) : OpenSessionEnvironment where
  map := fun _ => { registered := .ok 1, reply := .answered mcDrvOk 0x100000 }
  cancelled := false
  unmap := fun _ => .answered mcDrvOk ()
  sent := true
  wait := .notified
  lastErr := 0
  answer := { TeecTci.zero with returnOrigin := teecOriginTrustedApp }
  close := .answered mcDrvOk ()
  mmap := some addr
  answers :=
    { registered := .ok 9
      reply := .answered mcDrvOk sessionId
      nq := some (.answered mcDrvOk ()) }

/-- Two sessions are opened, and the application of the first cannot be notified. -/
def lostDevice : List Call :=
  [.openSession 1 publicLogin none (allSucceeds 1 0x1000),
    .openSession 2 publicLogin none (allSucceeds 2 0x2000),
    .invokeCommand 1 none { (allSucceeds 1 0x1000).toCallEnvironment with sent := false }]

theorem opened_distinct : opened.Distinct :=
  ⟨by decide, by decide⟩

theorem assumed_lostDevice :
    (system .bits64).StepsMeet Assumed (start opened) lostDevice := by
  decide

theorem lifeCycle_run_lostDevice :
    (system .bits64).StepsMeet (Settles opened .bits64) (start opened) lostDevice :=
  lifeCycle_run .bits64 opened opened_distinct lostDevice assumed_lostDevice

/-- The second object stays active, and its session went with the device. -/
theorem not_lifeCycle :
    ¬ ∀ (w : PointerWidth) (p : Process) (calls : List Call) (c : GpClient), p.Distinct →
      (system w).StepsMeet Assumed (start p) calls → (system w).run (start p) calls = some c →
        ∀ o, ((c.sessions o).active = true ↔ ∃ addr, HasPage c o addr) ∧
          ((c.sessions o).active = true ↔ c.process.IsOpen (c.sessions o).handle) := by
  intro hclaim
  have hsecond := (hclaim .bits64 opened lostDevice _ opened_distinct assumed_lostDevice rfl 2).2
  exact absurd (hsecond.mp (by decide)) (by decide)

end Gp

end Exynos8890.MobiCore.ClientLib
