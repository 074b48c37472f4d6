import Exynos8890.MobiCore.ClientLib.GpSessions

/-!
# Pages and sessions of the GlobalPlatform client

What the objects of a process hold: a mapped page each, and a session that was opened and not
closed.  Opening, unmapping and closing move one page or one session.

Main results:

- Definitions `PagesHeld`, `SessionsHeld` and `LifeCycle`: pages, sessions and active objects
  belong together.
- Theorems `PagesHeld.openPage` and `PagesHeld.munmap`.
- Theorems `SessionsHeld.of_fewer`, `SessionsHeld.activate` and `SessionsHeld.close`.
-/

namespace Exynos8890.MobiCore.ClientLib

namespace Gp

open CStruct Process ResourceLog

/-! ## Pages and sessions that are held -/

/-- The object has this page. -/
def HasPage (c : GpClient) (o : ObjectRef) (addr : UInt64) : Prop :=
  ∃ tci, (c.sessions o).tci = some (addr, tci)

/-- The mapped pages are those of the objects, each of one object. -/
structure PagesHeld (c : GpClient) : Prop where
  mapped : ∃ pages, openAfter [] c.pageLog = some pages ∧
    ∀ addr, addr ∈ pages ↔ ∃ o, HasPage c o addr
  apart : ∀ o o' addr, HasPage c o addr → HasPage c o' addr → o = o'

/-- The sessions that were opened and not closed are those of the active objects, each of one
object.  Such a session is open while the process has its device, and no other session is open
that was not open in `p`. -/
structure SessionsHeld (p : Process) (c : GpClient) : Prop where
  distinct : c.process.Distinct
  opened : ∃ handles, openAfter [] c.sessionLog = some handles ∧
    ∀ handle, handle ∈ handles ↔
      ∃ o, (c.sessions o).active = true ∧ (c.sessions o).handle = handle
  apart : ∀ o o', (c.sessions o).active = true → (c.sessions o').active = true →
    (c.sessions o).handle = (c.sessions o').handle → o = o'
  isOpen : ∀ o, (c.sessions o).active = true →
    (c.process.IsOpen (c.sessions o).handle ↔ c.process.HasDevice (c.sessions o).handle.deviceId)
  owned : ∀ handle, c.process.IsOpen handle →
    p.IsOpen handle ∨ ∃ o, (c.sessions o).active = true ∧ (c.sessions o).handle = handle

/-- An object is active if and only if it has a page. -/
def Paired (c : GpClient) (o : ObjectRef) : Prop :=
  (c.sessions o).active = true ↔ ∃ addr, HasPage c o addr

/-- What holds behind every call. -/
structure LifeCycle (p : Process) (c : GpClient) : Prop where
  pages : PagesHeld c
  sessions : SessionsHeld p c
  paired : ∀ o, Paired c o

section Objects

variable {c d : GpClient} {o o' : ObjectRef} {session : TeecSession} {addr : UInt64}

@[simp]
theorem setSession_self (c : GpClient) (o : ObjectRef) (session : TeecSession) :
    (c.setSession o session).sessions o = session := by
  simp [GpClient.setSession]

theorem setSession_of_ne (c : GpClient) (session : TeecSession) (hne : o' ≠ o) :
    (c.setSession o session).sessions o' = c.sessions o' := by
  simp [GpClient.setSession, hne]

theorem munmap_eq {tci : TeecTci} (h : (c.sessions o).tci = some (addr, tci)) :
    c.munmap o = { c.setSession o { c.sessions o with tci := none } with
      pageLog := c.pageLog ++ [.closed addr] } := by
  unfold GpClient.munmap
  rw [h]

theorem munmap_of_none (h : (c.sessions o).tci = none) : c.munmap o = c := by
  unfold GpClient.munmap
  rw [h]

theorem munmap_sessions_of_ne (c : GpClient) (hne : o' ≠ o) :
    (c.munmap o).sessions o' = c.sessions o' := by
  unfold GpClient.munmap
  split
  · rfl
  · exact setSession_of_ne c _ hne

theorem munmap_self (c : GpClient) (o : ObjectRef) :
    (c.munmap o).sessions o = { c.sessions o with tci := none } := by
  cases htci : (c.sessions o).tci with
  | none =>
      rw [munmap_of_none htci, ← htci]
  | some page =>
      rw [munmap_eq htci]
      exact setSession_self c o _

@[simp]
theorem munmap_process (c : GpClient) (o : ObjectRef) : (c.munmap o).process = c.process := by
  unfold GpClient.munmap
  split <;> rfl

@[simp]
theorem munmap_sessionLog (c : GpClient) (o : ObjectRef) :
    (c.munmap o).sessionLog = c.sessionLog := by
  unfold GpClient.munmap
  split <;> rfl

end Objects

section Pages

variable {c d : GpClient} {o : ObjectRef} {addr : UInt64}

theorem PagesHeld.congr (h : PagesHeld c) (hpage : ∀ o addr, HasPage d o addr ↔ HasPage c o addr)
    (hlog : d.pageLog = c.pageLog) : PagesHeld d where
  mapped := by
    obtain ⟨pages, hopen, hmem⟩ := h.mapped
    refine ⟨pages, by rw [hlog, hopen], fun addr => ?_⟩
    simp only [hmem, hpage]
  apart := by
    intro o o' addr ho ho'
    exact h.apart o o' addr ((hpage o addr).mp ho) ((hpage o' addr).mp ho')

theorem PagesHeld.openPage (h : PagesHeld c) (hnone : (c.sessions o).tci = none)
    (hfresh : FreshPage c (some addr)) (deviceId : UInt32) :
    PagesHeld (openPage o deviceId addr c) := by
  obtain ⟨pages, hopen, hmem⟩ := h.mapped
  have hnew : addr ∉ pages := (hfresh addr rfl).2 pages hopen
  have hpage : ∀ o' addr', HasPage (Gp.openPage o deviceId addr c) o' addr' ↔
      (o' = o ∧ addr' = addr) ∨ HasPage c o' addr' := by
    intro o' addr'
    by_cases hne : o' = o
    · subst hne
      simp [HasPage, Gp.openPage, hnone, eq_comm]
    · have hsame : (Gp.openPage o deviceId addr c).sessions o' = c.sessions o' :=
        setSession_of_ne c _ hne
      simp [HasPage, hsame, hne]
  constructor
  · refine ⟨addr :: pages, openAfter_opened hopen hnew, fun addr' => ?_⟩
    rw [List.mem_cons, hmem]
    constructor
    · rintro (rfl | ⟨o', ho'⟩)
      · exact ⟨o, (hpage o addr').mpr (Or.inl ⟨rfl, rfl⟩)⟩
      · exact ⟨o', (hpage o' addr').mpr (Or.inr ho')⟩
    · rintro ⟨o', ho'⟩
      rcases (hpage o' addr').mp ho' with ⟨_, rfl⟩ | ho'
      · exact Or.inl rfl
      · exact Or.inr ⟨o', ho'⟩
  · intro o₁ o₂ addr' h₁ h₂
    have hold : ∀ {o'}, HasPage c o' addr → False :=
      fun {o'} ho' => hnew ((hmem addr).mpr ⟨o', ho'⟩)
    rcases (hpage o₁ addr').mp h₁ with ⟨ho₁, haddr⟩ | hown₁
    · rcases (hpage o₂ addr').mp h₂ with ⟨ho₂, _⟩ | hown₂
      · rw [ho₁, ho₂]
      · exact (hold (haddr ▸ hown₂)).elim
    · rcases (hpage o₂ addr').mp h₂ with ⟨_, haddr⟩ | hown₂
      · exact (hold (haddr ▸ hown₁)).elim
      · exact h.apart o₁ o₂ addr' hown₁ hown₂

theorem PagesHeld.munmap (h : PagesHeld c) (o : ObjectRef) : PagesHeld (c.munmap o) := by
  cases htci : (c.sessions o).tci with
  | none =>
      rw [munmap_of_none htci]
      exact h
  | some page =>
      obtain ⟨addr, tci⟩ := page
      obtain ⟨pages, hopen, hmem⟩ := h.mapped
      have hown : HasPage c o addr := ⟨tci, htci⟩
      have hin : addr ∈ pages := (hmem addr).mpr ⟨o, hown⟩
      have hnodup := nodup_openAfter List.nodup_nil hopen
      have hpage : ∀ o' addr', HasPage (c.munmap o) o' addr' ↔ o' ≠ o ∧ HasPage c o' addr' := by
        intro o' addr'
        by_cases hne : o' = o
        · subst hne
          rw [munmap_eq htci]
          simp [HasPage]
        · rw [HasPage, munmap_sessions_of_ne c hne]
          simp [HasPage, hne]
      constructor
      · refine ⟨pages.erase addr, ?_, fun addr' => ?_⟩
        · rw [munmap_eq htci]
          exact openAfter_closed hopen hin
        · rw [hnodup.mem_erase_iff, hmem]
          constructor
          · rintro ⟨hne, o', ho'⟩
            refine ⟨o', (hpage o' addr').mpr ⟨?_, ho'⟩⟩
            rintro rfl
            obtain ⟨tci', htci'⟩ := ho'
            rw [htci] at htci'
            cases htci'
            exact hne rfl
          · rintro ⟨o', ho'⟩
            obtain ⟨hne, ho'⟩ := (hpage o' addr').mp ho'
            refine ⟨?_, o', ho'⟩
            rintro rfl
            exact hne (h.apart o' o addr' ho' hown)
      · intro o₁ o₂ addr' h₁ h₂
        exact h.apart o₁ o₂ addr' ((hpage o₁ addr').mp h₁).2 ((hpage o₂ addr').mp h₂).2

end Pages

section Sessions

variable {p : Process} {c d : GpClient} {o : ObjectRef} {addr : UInt64}

/-- Devices were lost at most, and the active objects are the same. -/
theorem SessionsHeld.of_fewer (h : SessionsHeld p c) (hfewer : Fewer c.process d.process)
    (hactive : ∀ o, (d.sessions o).active = (c.sessions o).active)
    (hhandle : ∀ o, (c.sessions o).active = true → (d.sessions o).handle = (c.sessions o).handle)
    (hlog : d.sessionLog = c.sessionLog) : SessionsHeld p d where
  distinct := hfewer.distinct
  opened := by
    obtain ⟨handles, hopen, hmem⟩ := h.opened
    refine ⟨handles, by rw [hlog, hopen], fun handle => ?_⟩
    rw [hmem]
    constructor
    · rintro ⟨o, ho, rfl⟩
      exact ⟨o, (hactive o).trans ho, hhandle o ho⟩
    · rintro ⟨o, ho, rfl⟩
      rw [hactive] at ho
      exact ⟨o, ho, (hhandle o ho).symm⟩
  apart := by
    intro o o' ho ho' heq
    rw [hactive] at ho ho'
    rw [hhandle o ho, hhandle o' ho'] at heq
    exact h.apart o o' ho ho' heq
  isOpen := by
    intro o ho
    rw [hactive] at ho
    rw [hhandle o ho, hfewer.sessions, h.isOpen o ho, and_iff_right_iff_imp]
    exact hfewer.devices _
  owned := by
    intro handle hopen
    refine (h.owned handle ((hfewer.sessions handle).mp hopen).1).imp_right ?_
    rintro ⟨o, ho, rfl⟩
    exact ⟨o, (hactive o).trans ho, hhandle o ho⟩

/-- A session was opened for an object that is not active. -/
theorem SessionsHeld.activate (h : SessionsHeld p c) {handle : SessionHandle} {q : Process}
    (hidle : (c.sessions o).active = false) (hopens : Opens c.process q handle) :
    SessionsHeld p (activate o handle q c) := by
  obtain ⟨handles, hopen, hmem⟩ := h.opened
  have hself : (Gp.activate o handle q c).sessions o =
      { c.sessions o with handle := handle, active := true } := setSession_self c o _
  have hother : ∀ {o'}, o' ≠ o → (Gp.activate o handle q c).sessions o' = c.sessions o' :=
    fun hne => setSession_of_ne c _ hne
  -- an active object with this handle would have an open session
  have hunused : ∀ o', (c.sessions o').active = true → (c.sessions o').handle ≠ handle := by
    rintro o' ho' rfl
    exact hopens.fresh ((h.isOpen o' ho').mpr hopens.device)
  have hactive : ∀ o', ((Gp.activate o handle q c).sessions o').active = true ↔
      o' = o ∨ (c.sessions o').active = true := by
    intro o'
    by_cases hne : o' = o
    · rw [hne, hself]
      simp
    · rw [hother hne]
      simp [hne]
  have hne_of_active : ∀ {o'}, (c.sessions o').active = true → o' ≠ o := by
    rintro o' ho' rfl
    rw [hidle] at ho'
    cases ho'
  refine ⟨hopens.distinct, ⟨handle :: handles, ?_, fun handle' => ?_⟩, ?_, ?_, ?_⟩
  · apply openAfter_opened hopen
    intro hin
    obtain ⟨o', ho', heq⟩ := (hmem handle).mp hin
    exact hunused o' ho' heq
  · rw [List.mem_cons, hmem]
    constructor
    · rintro (rfl | ⟨o', ho', heq⟩)
      · exact ⟨o, (hactive o).mpr (Or.inl rfl), by rw [hself]⟩
      · refine ⟨o', (hactive o').mpr (Or.inr ho'), ?_⟩
        rw [hother (hne_of_active ho'), heq]
    · rintro ⟨o', ho', heq⟩
      by_cases hne : o' = o
      · rw [hne, hself] at heq
        exact Or.inl heq.symm
      · rw [hother hne] at ho' heq
        exact Or.inr ⟨o', ho', heq⟩
  · intro o₁ o₂ h₁ h₂ heq
    by_cases hne₁ : o₁ = o
    · by_cases hne₂ : o₂ = o
      · rw [hne₁, hne₂]
      · rw [hne₁, hself, hother hne₂] at heq
        rw [hother hne₂] at h₂
        exact absurd heq.symm (hunused o₂ h₂)
    · by_cases hne₂ : o₂ = o
      · rw [hne₂, hself, hother hne₁] at heq
        rw [hother hne₁] at h₁
        exact absurd heq (hunused o₁ h₁)
      · rw [hother hne₁] at h₁ heq
        rw [hother hne₂] at h₂ heq
        exact h.apart o₁ o₂ h₁ h₂ heq
  · intro o' ho'
    show q.IsOpen _ ↔ q.HasDevice _
    rw [hopens.sessions, hopens.devices]
    by_cases hne : o' = o
    · rw [hne, hself]
      exact iff_of_true (Or.inr rfl) hopens.device
    · rw [hother hne] at ho' ⊢
      rw [or_iff_left (hunused o' ho')]
      exact h.isOpen o' ho'
  · intro handle' hopen'
    rcases (hopens.sessions handle').mp hopen' with hold | rfl
    · refine (h.owned handle' hold).imp_right ?_
      rintro ⟨o', ho', heq⟩
      refine ⟨o', (hactive o').mpr (Or.inr ho'), ?_⟩
      rw [hother (hne_of_active ho'), heq]
    · exact Or.inr ⟨o, (hactive o).mpr (Or.inl rfl), by rw [hself]⟩

theorem SessionsHeld.close (h : SessionsHeld p c) (ho : (c.sessions o).active = true) :
    SessionsHeld p ((c.close o (.answered mcDrvOk ())).setInactive o) := by
  obtain ⟨handles, hopen, hmem⟩ := h.opened
  have hcloses : Closes c.process (c.process.mcCloseSession (c.sessions o).handle
      (.answered mcDrvOk ())).2 (c.sessions o).handle := mcCloseSession_closes h.distinct
  have hnodup := nodup_openAfter List.nodup_nil hopen
  have hactive : ∀ o', (((c.close o (.answered mcDrvOk ())).setInactive o).sessions o').active =
      true ↔ o' ≠ o ∧ (c.sessions o').active = true := by
    intro o'
    by_cases hne : o' = o
    · rw [hne, GpClient.setInactive, setSession_self]
      simp
    · rw [GpClient.setInactive, setSession_of_ne _ _ hne]
      simp [hne, GpClient.close]
  have hhandle : ∀ o', (((c.close o (.answered mcDrvOk ())).setInactive o).sessions o').handle =
      (c.sessions o').handle := by
    intro o'
    by_cases hne : o' = o
    · rw [hne, GpClient.setInactive, setSession_self]
      rfl
    · rw [GpClient.setInactive, setSession_of_ne _ _ hne]
      rfl
  refine ⟨hcloses.distinct, ⟨handles.erase (c.sessions o).handle, ?_, fun handle => ?_⟩, ?_, ?_, ?_⟩
  · exact openAfter_closed hopen ((hmem _).mpr ⟨o, ho, rfl⟩)
  · rw [hnodup.mem_erase_iff, hmem]
    constructor
    · rintro ⟨hne, o', ho', rfl⟩
      refine ⟨o', (hactive o').mpr ⟨?_, ho'⟩, hhandle o'⟩
      rintro rfl
      exact hne rfl
    · rintro ⟨o', ho', rfl⟩
      obtain ⟨hne, ho'⟩ := (hactive o').mp ho'
      rw [hhandle]
      exact ⟨fun heq => hne (h.apart o' o ho' ho heq), o', ho', rfl⟩
  · intro o₁ o₂ h₁ h₂ heq
    rw [hhandle, hhandle] at heq
    exact h.apart o₁ o₂ ((hactive o₁).mp h₁).2 ((hactive o₂).mp h₂).2 heq
  · intro o' ho'
    obtain ⟨hne, ho'⟩ := (hactive o').mp ho'
    have hprocess : ((c.close o (.answered mcDrvOk ())).setInactive o).process =
        (c.process.mcCloseSession (c.sessions o).handle (.answered mcDrvOk ())).2 := rfl
    rw [hhandle, hprocess, hcloses.sessions, hcloses.devices,
      and_iff_left fun heq => hne (h.apart o' o ho' ho heq)]
    exact h.isOpen o' ho'
  · intro handle hopen'
    obtain ⟨hold, hne⟩ := (hcloses.sessions handle).mp hopen'
    refine (h.owned handle hold).imp_right ?_
    rintro ⟨o', ho', rfl⟩
    refine ⟨o', (hactive o').mpr ⟨?_, ho'⟩, hhandle o'⟩
    rintro rfl
    exact hne rfl

end Sessions

end Gp

end Exynos8890.MobiCore.ClientLib
