import Exynos8890.Library.TransitionSystem
import Exynos8890.RootPa.ContainerStore

/-!
# The lease lock of the services

A service gives the content manager to one client at a time.  The lock is a lease of 60
seconds: each `acquireLock` of the owner cancels the timer task of the one before and
schedules a new one.  The task takes no lock of the service: it sets the lock free, whoever
holds it, and closes the session in a second step.

Main results:

- Definition `BaseService.step`: the calls, the steps of the tasks and the time.
- Theorem `leaseHolds_run`: while no lock is acquired between the start of a task and its
  steps, a lease keeps every other client out until it ends.
- Theorem `not_leaseHolds`: a task that was late takes the lock from a renewed lease.
-/

namespace Exynos8890.RootPa

/-! ## The service -/

/-- `LOCK_FREE`. -/
def lockFree : Int32 := 0

/-- `LOCK_TIMEOUT_MS`. -/
def lockTimeoutMs : Nat := 60000

/-- What a timer task is doing.  A task that has started remembers how often the lock had been
acquired by then. -/
inductive TaskPhase where
  | virgin
  | scheduled
  | cancelled
  | started (acquired : Nat)
  | freed (acquired : Nat)
  | finished
deriving DecidableEq, Repr

/-- A timer task, and the time from which it may start. -/
structure TimerTask where
  due : Nat
  phase : TaskPhase
deriving DecidableEq, Repr

/-- `TimerTask.cancel`: a task that has started goes on. -/
def TimerTask.cancel (task : TimerTask) : TimerTask :=
  if task.phase = .scheduled then { task with phase := .cancelled } else task

/-- A service with its timer tasks, the session of the content manager and the time, how often
the lock was acquired, and when it was last granted to each client that has not released it
since. -/
structure BaseService where
  lock : Int32
  sessionOpened : Bool
  timerTask : Option Nat
  tasks : Nat → TimerTask
  created : Nat
  session : Bool
  now : Nat
  acquired : Nat
  granted : Int32 → Option Nat

namespace BaseService

/-- The service before the first call. -/
def init : BaseService where
  lock := lockFree
  sessionOpened := false
  timerTask := none
  tasks := fun _ => ⟨0, .virgin⟩
  created := 0
  session := false
  now := 0
  acquired := 0
  granted := fun _ => none

/-- The tasks when the current one is cancelled. -/
def cancelTimer (s : BaseService) : Nat → TimerTask :=
  match s.timerTask with
  | none => s.tasks
  | some i => Function.update s.tasks i (s.tasks i).cancel

/-- Open the session when there is none.  Opening succeeds. -/
def openSession (s : BaseService) : BaseService :=
  if s.sessionOpened then s else { s with session := true, sessionOpened := true }

def closeSession (s : BaseService) : BaseService :=
  if s.sessionOpened then { s with session := false, sessionOpened := false } else s

/-- `acquireLock`. -/
def acquireLock (s : BaseService) (uid : Int32) (openSession : Bool) :
    RootPaError × BaseService :=
  if uid = lockFree then (.illegalArgument, s)
  else if s.lock = lockFree ∨ s.lock = uid then
    let s := if s.lock = lockFree ∧ openSession then s.openSession else s
    (.ok, { s with
      lock := uid
      timerTask := some s.created
      tasks := Function.update s.cancelTimer s.created ⟨s.now + lockTimeoutMs, .scheduled⟩
      created := s.created + 1 })
  else (.lock, s)

/-- `releaseLock`. -/
def releaseLock (s : BaseService) (uid : Int32) (closeSession : Bool) :
    RootPaError × BaseService :=
  if uid = lockFree then (.illegalArgument, s)
  else if s.lock = lockFree ∨ s.lock = uid then
    let s := if closeSession then s.closeSession else s
    (.ok, { s with lock := lockFree, timerTask := none, tasks := s.cancelTimer })
  else (.lock, s)

/-- A call, a step of a timer task, or time that passes. -/
inductive Label where
  | acquireLock (uid : Int32)
  | releaseLock (uid : Int32) (closeSession : Bool)
  | startTask (i : Nat)
  | freeLock (i : Nat)
  | closeSession (i : Nat)
  | wait (ms : Nat)
deriving DecidableEq, Repr

/-- The task goes on to another phase. -/
def setPhase (s : BaseService) (i : Nat) (phase : TaskPhase) : BaseService :=
  { s with tasks := Function.update s.tasks i { s.tasks i with phase } }

/-- One step; `asks` says which clients ask for a session. -/
def step (asks : Int32 → Bool) (s : BaseService) : Label → Option BaseService
  | .acquireLock uid =>
      let (ret, s) := s.acquireLock uid (asks uid)
      if ret = .ok then
        some { s with
          acquired := s.acquired + 1
          granted := Function.update s.granted uid (some s.now) }
      else some s
  | .releaseLock uid closeSession =>
      let (ret, s) := s.releaseLock uid closeSession
      if ret = .ok then some { s with granted := Function.update s.granted uid none }
      else some s
  | .startTask i =>
      if (s.tasks i).phase = .scheduled ∧ (s.tasks i).due ≤ s.now then
        some (s.setPhase i (.started s.acquired))
      else none
  | .freeLock i =>
      match (s.tasks i).phase with
      | .started n => some { s.setPhase i (.freed n) with lock := lockFree }
      | _ => none
  | .closeSession i =>
      match (s.tasks i).phase with
      | .freed _ => some (s.setPhase i .finished).closeSession
      | _ => none
  | .wait ms => some { s with now := s.now + ms }

/-- The service as a transition system. -/
def system (asks : Int32 → Bool) : TransitionSystem BaseService Label where
  step := step asks

/-! ## Leases -/

/-- The client has a lease: the lock was granted to it less than 60 seconds ago, and it has
not released it. -/
def Leased (s : BaseService) (uid : Int32) : Prop :=
  ∃ g, s.granted uid = some g ∧ s.now < g + lockTimeoutMs

/-- A lease keeps the lock and every other client out, and has the session it asked for. -/
structure LeaseHolds (asks : Int32 → Bool) (s : BaseService) : Prop where
  lock : ∀ uid, s.Leased uid → s.lock = uid
  others : ∀ uid, s.Leased uid → ∀ other flag, other ≠ uid → (s.acquireLock other flag).1 ≠ .ok
  session : ∀ uid, s.Leased uid → asks uid → s.session

/-- A task sets the lock free or closes the session only when no lock was acquired since the
task has started. -/
def InTime (s : BaseService) : Label → Prop
  | .freeLock i => (s.tasks i).phase = .started s.acquired
  | .closeSession i => (s.tasks i).phase = .freed s.acquired
  | _ => True

instance (s : BaseService) (l : Label) : Decidable (s.InTime l) := by
  cases l <;> unfold InTime <;> infer_instance

/-- The lock, the tasks and the leases while the tasks are in time. -/
structure Sound (asks : Int32 → Bool) (s : BaseService) : Prop where
  current : ∀ i, (s.tasks i).phase = .scheduled → s.timerTask = some i
  due : ∀ i, (s.tasks i).phase = .scheduled → ∀ uid g, s.granted uid = some g →
    g + lockTimeoutMs ≤ (s.tasks i).due
  expired : ∀ i, (s.tasks i).phase = .started s.acquired ∨ (s.tasks i).phase = .freed s.acquired →
    ∀ uid, ¬ s.Leased uid
  counted : ∀ i n, (s.tasks i).phase = .started n ∨ (s.tasks i).phase = .freed n →
    n ≤ s.acquired
  freed : ∀ i, (s.tasks i).phase = .freed s.acquired → s.lock = lockFree
  past : ∀ uid g, s.granted uid = some g → g ≤ s.now
  owner : ∀ uid, s.Leased uid → s.lock = uid ∧ uid ≠ lockFree
  flag : s.session = s.sessionOpened
  session : s.lock ≠ lockFree → asks s.lock → s.session

/-! ## Sound states -/

section Sound

variable {asks : Int32 → Bool} {s : BaseService}

theorem cancelTimer_apply (s : BaseService) (i : Nat) :
    s.cancelTimer i = if s.timerTask = some i then (s.tasks i).cancel else s.tasks i := by
  unfold cancelTimer
  cases s.timerTask with
  | none => rfl
  | some j =>
      by_cases h : j = i
      · simp [h]
      · simp [h, Function.update_of_ne (Ne.symm h)]

theorem phase_cancelTimer {i : Nat} {phase : TaskPhase} (hne : phase ≠ .cancelled)
    (h : (s.cancelTimer i).phase = phase) : (s.tasks i).phase = phase := by
  rw [cancelTimer_apply] at h
  split at h
  · unfold TimerTask.cancel at h
    split at h
    · exact absurd h.symm hne
    · exact h
  · exact h

/-- No task is scheduled any more when the current one is cancelled. -/
theorem Sound.not_scheduled (hs : Sound asks s) (i : Nat) :
    (s.cancelTimer i).phase ≠ .scheduled := by
  intro h
  have hcurrent := hs.current i (phase_cancelTimer nofun h)
  rw [cancelTimer_apply, if_pos hcurrent] at h
  unfold TimerTask.cancel at h
  split at h
  · cases h
  · rename_i hscheduled
    exact hscheduled h

theorem phase_setPhase (i j : Nat) (phase : TaskPhase) :
    ((s.setPhase i phase).tasks j).phase = if j = i then phase else (s.tasks j).phase := by
  unfold setPhase
  by_cases h : j = i
  · simp [h]
  · simp [h]

theorem due_setPhase (i j : Nat) (phase : TaskPhase) :
    ((s.setPhase i phase).tasks j).due = (s.tasks j).due := by
  unfold setPhase
  by_cases h : j = i
  · simp [h]
  · simp [h]

theorem Sound.acquire (hs : Sound asks s) {uid : Int32} {s' : BaseService}
    (huid : uid ≠ lockFree) (hlock : s.lock = lockFree ∨ s.lock = uid)
    (hlock' : s'.lock = uid) (htimer : s'.timerTask = some s.created)
    (htasks : s'.tasks =
      Function.update s.cancelTimer s.created ⟨s.now + lockTimeoutMs, .scheduled⟩)
    (hnow : s'.now = s.now) (hacquired : s'.acquired = s.acquired + 1)
    (hgranted : s'.granted = Function.update s.granted uid (some s.now))
    (hflag : s'.session = s'.sessionOpened) (hsession : asks uid → s'.session) :
    Sound asks s' := by
  have hold : ∀ i n, (s'.tasks i).phase = .started n ∨ (s'.tasks i).phase = .freed n →
      n ≤ s.acquired := by
    intro i n h
    rw [htasks] at h
    by_cases hi : i = s.created
    · simp [hi] at h
    · rw [Function.update_of_ne hi] at h
      exact hs.counted i n (h.imp (phase_cancelTimer nofun) (phase_cancelTimer nofun))
  have hpast : ∀ v g, s'.granted v = some g → g ≤ s.now := by
    intro v g h
    rw [hgranted] at h
    by_cases hv : v = uid
    · rw [hv, Function.update_self] at h
      exact (Option.some.inj h).ge
    · rw [Function.update_of_ne hv] at h
      exact hs.past v g h
  have hscheduled : ∀ i, (s'.tasks i).phase = .scheduled → i = s.created := by
    intro i h
    by_contra hi
    rw [htasks, Function.update_of_ne hi] at h
    exact hs.not_scheduled i h
  constructor
  · intro i h
    rw [htimer, hscheduled i h]
  · intro i h v g hv
    rw [htasks, hscheduled i h, Function.update_self]
    exact Nat.add_le_add_right (hpast v g hv) _
  · intro i h
    have hle := hold i _ h
    omega
  · intro i n h
    have hle := hold i n h
    omega
  · intro i h
    have hle := hold i _ (Or.inr h)
    omega
  · intro v g h
    rw [hnow]
    exact hpast v g h
  · intro v hv
    by_cases hvu : v = uid
    · rw [hlock', hvu]
      exact ⟨rfl, huid⟩
    · obtain ⟨g, hg, hlt⟩ := hv
      rw [hgranted, Function.update_of_ne hvu] at hg
      rw [hnow] at hlt
      obtain ⟨hown, hfree⟩ := hs.owner v ⟨g, hg, hlt⟩
      rcases hlock with h | h
      · exact absurd (hown.symm.trans h) hfree
      · exact absurd (hown.symm.trans h) hvu
  · exact hflag
  · intro _
    rw [hlock']
    exact hsession

theorem Sound.release (hs : Sound asks s) {uid : Int32} {s' : BaseService}
    (hlock : s.lock = lockFree ∨ s.lock = uid) (hlock' : s'.lock = lockFree)
    (htasks : s'.tasks = s.cancelTimer) (hnow : s'.now = s.now)
    (hacquired : s'.acquired = s.acquired)
    (hgranted : s'.granted = Function.update s.granted uid none)
    (hflag : s'.session = s'.sessionOpened) : Sound asks s' := by
  have hgrant : ∀ v g, s'.granted v = some g → v ≠ uid ∧ s.granted v = some g := by
    intro v g h
    rw [hgranted] at h
    by_cases hv : v = uid
    · rw [hv, Function.update_self] at h
      cases h
    · rw [Function.update_of_ne hv] at h
      exact ⟨hv, h⟩
  have hleased : ∀ v, s'.Leased v → v ≠ uid ∧ s.Leased v := by
    rintro v ⟨g, hg, hlt⟩
    rw [hnow] at hlt
    exact ⟨(hgrant v g hg).1, g, (hgrant v g hg).2, hlt⟩
  have hnone : ∀ v, ¬ s'.Leased v := by
    intro v hv
    obtain ⟨hown, hfree⟩ := hs.owner v (hleased v hv).2
    rcases hlock with h | h
    · exact hfree (hown.symm.trans h)
    · exact (hleased v hv).1 (hown.symm.trans h)
  constructor
  · intro i h
    rw [htasks] at h
    exact absurd h (hs.not_scheduled i)
  · intro i h
    rw [htasks] at h
    exact absurd h (hs.not_scheduled i)
  · exact fun _ _ => hnone
  · intro i n h
    rw [htasks] at h
    rw [hacquired]
    exact hs.counted i n (h.imp (phase_cancelTimer nofun) (phase_cancelTimer nofun))
  · exact fun _ _ => hlock'
  · intro v g h
    rw [hnow]
    exact hs.past v g (hgrant v g h).2
  · exact fun v hv => absurd hv (hnone v)
  · exact hflag
  · exact fun h => absurd hlock' h

theorem Sound.start (hs : Sound asks s) {i : Nat} (hphase : (s.tasks i).phase = .scheduled)
    (hdue : (s.tasks i).due ≤ s.now) : Sound asks (s.setPhase i (.started s.acquired)) := by
  have hother : ∀ j phase, ((s.setPhase i (.started s.acquired)).tasks j).phase = phase →
      phase ≠ .started s.acquired → (s.tasks j).phase = phase := by
    intro j phase h hne
    rw [phase_setPhase] at h
    split at h
    · exact absurd h.symm hne
    · exact h
  constructor
  · intro j h
    exact hs.current j (hother j _ h nofun)
  · intro j h uid g hg
    rw [due_setPhase]
    exact hs.due j (hother j _ h nofun) uid g hg
  · rintro j - uid ⟨g, hg, hlt⟩
    have hend := hs.due i hphase uid g hg
    exact absurd (hend.trans hdue) (not_le.mpr hlt)
  · intro j n h
    rw [phase_setPhase] at h
    split at h
    · rcases h with h | h
      · cases h
        exact Nat.le_refl _
      · cases h
    · exact hs.counted j n h
  · intro j h
    exact hs.freed j (hother j _ h nofun)
  · exact hs.past
  · exact hs.owner
  · exact hs.flag
  · exact hs.session

/-- A task in time sets the lock free when no lease is left. -/
theorem Sound.free (hs : Sound asks s) {i : Nat}
    (hphase : (s.tasks i).phase = .started s.acquired) :
    Sound asks { s.setPhase i (.freed s.acquired) with lock := lockFree } := by
  have hnone := hs.expired i (Or.inl hphase)
  constructor
  · intro j h
    rw [phase_setPhase] at h
    split at h
    · cases h
    · exact hs.current j h
  · intro j h uid g hg
    rw [due_setPhase]
    rw [phase_setPhase] at h
    split at h
    · cases h
    · exact hs.due j h uid g hg
  · exact fun _ _ => hnone
  · intro j n h
    rw [phase_setPhase] at h
    split at h
    · rcases h with h | h
      · cases h
      · cases h
        exact Nat.le_refl _
    · exact hs.counted j n h
  · exact fun _ _ => rfl
  · exact hs.past
  · exact fun uid h => absurd h (hnone uid)
  · exact hs.flag
  · exact fun h => absurd rfl h

/-- A task in time closes the session while the lock is free. -/
theorem Sound.close (hs : Sound asks s) {i : Nat}
    (hphase : (s.tasks i).phase = .freed s.acquired) :
    Sound asks (s.setPhase i .finished).closeSession := by
  have hnone := hs.expired i (Or.inr hphase)
  have hfree : s.lock = lockFree := hs.freed i hphase
  set t := s.setPhase i .finished with ht
  have hother : ∀ j phase, (t.tasks j).phase = phase → phase ≠ .finished →
      (s.tasks j).phase = phase := by
    intro j phase h hne
    rw [ht, phase_setPhase] at h
    split at h
    · exact absurd h.symm hne
    · exact h
  have hclosed : t.closeSession = { t with
      session := t.closeSession.session, sessionOpened := t.closeSession.sessionOpened } := by
    unfold closeSession
    split <;> rfl
  have hflag : t.closeSession.session = t.closeSession.sessionOpened := by
    unfold closeSession
    split
    · rfl
    · exact hs.flag
  rw [hclosed]
  constructor
  · intro j h
    exact hs.current j (hother j _ h nofun)
  · intro j h uid g hg
    have hdue : (t.tasks j).due = (s.tasks j).due := due_setPhase i j _
    rw [hdue]
    exact hs.due j (hother j _ h nofun) uid g hg
  · exact fun _ _ => hnone
  · intro j n h
    exact hs.counted j n (h.imp (hother j _ · nofun) (hother j _ · nofun))
  · exact fun _ _ => hfree
  · exact hs.past
  · exact fun uid h => absurd h (hnone uid)
  · exact hflag
  · exact fun h => absurd hfree h

theorem Sound.wait (hs : Sound asks s) (ms : Nat) : Sound asks { s with now := s.now + ms } := by
  have hleased : ∀ uid, Leased { s with now := s.now + ms } uid → s.Leased uid := by
    rintro uid ⟨g, hg, hlt⟩
    exact ⟨g, hg, (Nat.le_add_right _ _).trans_lt hlt⟩
  constructor
  · exact hs.current
  · exact hs.due
  · exact fun i h uid hl => hs.expired i h uid (hleased uid hl)
  · exact hs.counted
  · exact hs.freed
  · exact fun uid g h => (hs.past uid g h).trans (Nat.le_add_right _ _)
  · exact fun uid h => hs.owner uid (hleased uid h)
  · exact hs.flag
  · exact hs.session

end Sound

/-- The session is open behind `openSession`. -/
theorem session_openSession {s : BaseService} (hflag : s.session = s.sessionOpened) :
    s.openSession.session = true ∧ s.openSession.sessionOpened = true := by
  unfold openSession
  split
  · rename_i h
    exact ⟨hflag.trans h, h⟩
  · exact ⟨rfl, rfl⟩

theorem session_closeSession {s : BaseService} (hflag : s.session = s.sessionOpened) :
    s.closeSession.session = s.closeSession.sessionOpened := by
  unfold closeSession
  split
  · rfl
  · exact hflag

theorem sound_init (asks : Int32 → Bool) : Sound asks init := by
  constructor
  · exact nofun
  · exact nofun
  · exact nofun
  · exact nofun
  · exact nofun
  · exact nofun
  · rintro uid ⟨g, hg, -⟩
    cases hg
  · rfl
  · exact fun h => absurd rfl h

section Calls

variable {s : BaseService} {uid : Int32}

theorem acquireLock_refused (flag : Bool)
    (h : uid = lockFree ∨ (s.lock ≠ lockFree ∧ s.lock ≠ uid)) :
    (s.acquireLock uid flag).1 ≠ .ok ∧ (s.acquireLock uid flag).2 = s := by
  unfold acquireLock
  by_cases huid : uid = lockFree
  · rw [if_pos huid]
    exact ⟨nofun, rfl⟩
  · have hlock := h.resolve_left huid
    rw [if_neg huid, if_neg (not_or.mpr hlock)]
    exact ⟨nofun, rfl⟩

/-- The call is granted: the session may be opened, a new task is scheduled. -/
theorem acquireLock_granted (flag : Bool) (huid : uid ≠ lockFree)
    (hlock : s.lock = lockFree ∨ s.lock = uid) :
    s.acquireLock uid flag =
      (.ok, { s with
        lock := uid
        sessionOpened := (if s.lock = lockFree ∧ flag then s.openSession else s).sessionOpened
        timerTask := some s.created
        tasks := Function.update s.cancelTimer s.created ⟨s.now + lockTimeoutMs, .scheduled⟩
        created := s.created + 1
        session := (if s.lock = lockFree ∧ flag then s.openSession else s).session }) := by
  unfold acquireLock
  rw [if_neg huid, if_pos hlock]
  by_cases hopen : s.lock = lockFree ∧ flag
  · rw [if_pos hopen]
    unfold openSession
    split <;> rfl
  · rw [if_neg hopen]

theorem releaseLock_refused (flag : Bool)
    (h : uid = lockFree ∨ (s.lock ≠ lockFree ∧ s.lock ≠ uid)) :
    (s.releaseLock uid flag).1 ≠ .ok ∧ (s.releaseLock uid flag).2 = s := by
  unfold releaseLock
  by_cases huid : uid = lockFree
  · rw [if_pos huid]
    exact ⟨nofun, rfl⟩
  · have hlock := h.resolve_left huid
    rw [if_neg huid, if_neg (not_or.mpr hlock)]
    exact ⟨nofun, rfl⟩

theorem releaseLock_granted (flag : Bool) (huid : uid ≠ lockFree)
    (hlock : s.lock = lockFree ∨ s.lock = uid) :
    s.releaseLock uid flag =
      (.ok, { s with
        lock := lockFree
        sessionOpened := (if flag then s.closeSession else s).sessionOpened
        timerTask := none
        tasks := s.cancelTimer
        session := (if flag then s.closeSession else s).session }) := by
  unfold releaseLock
  rw [if_neg huid, if_pos hlock]
  cases flag with
  | false => rfl
  | true =>
      by_cases hopened : s.sessionOpened
      · simp only [closeSession, hopened, if_true]
        rfl
      · simp only [closeSession, hopened, if_true]
        rfl

theorem refused_or_granted (s : BaseService) (uid : Int32) :
    (uid = lockFree ∨ (s.lock ≠ lockFree ∧ s.lock ≠ uid)) ∨
      (uid ≠ lockFree ∧ (s.lock = lockFree ∨ s.lock = uid)) := by
  tauto

end Calls

/-- Every step of a task in time, every call and every wait keeps the state sound. -/
theorem sound_step {asks : Int32 → Bool} {s t : BaseService} {l : Label} (hs : Sound asks s)
    (htime : s.InTime l) (hstep : step asks s l = some t) : Sound asks t := by
  cases l with
  | acquireLock uid =>
      rw [step] at hstep
      rcases refused_or_granted s uid with hrefused | ⟨huid, hlock⟩
      · obtain ⟨hret, hsame⟩ := acquireLock_refused (asks uid) hrefused
        simp only [hret, hsame, if_false] at hstep
        cases hstep
        exact hs
      · rw [acquireLock_granted _ huid hlock] at hstep
        cases hstep
        refine hs.acquire huid hlock rfl rfl rfl rfl rfl rfl ?_ ?_
        · dsimp only
          split
          · have hopened := session_openSession hs.flag
            exact hopened.1.trans hopened.2.symm
          · exact hs.flag
        · intro hasks
          dsimp only
          by_cases hfree : s.lock = lockFree
          · rw [if_pos ⟨hfree, hasks⟩]
            exact (session_openSession hs.flag).1
          · have howner : s.lock = uid := hlock.resolve_left hfree
            rw [if_neg (fun h => hfree h.1)]
            apply hs.session hfree
            rw [howner]
            exact hasks
  | releaseLock uid closeSession =>
      rw [step] at hstep
      rcases refused_or_granted s uid with hrefused | ⟨huid, hlock⟩
      · obtain ⟨hret, hsame⟩ := releaseLock_refused closeSession hrefused
        simp only [hret, hsame, if_false] at hstep
        cases hstep
        exact hs
      · rw [releaseLock_granted _ huid hlock] at hstep
        cases hstep
        refine hs.release hlock rfl rfl rfl rfl rfl ?_
        dsimp only
        split
        · exact session_closeSession hs.flag
        · exact hs.flag
  | startTask i =>
      rw [step] at hstep
      split at hstep
      · rename_i h
        cases hstep
        exact hs.start h.1 h.2
      · cases hstep
  | freeLock i =>
      have hphase : (s.tasks i).phase = .started s.acquired := htime
      simp only [step, hphase] at hstep
      cases hstep
      exact hs.free hphase
  | closeSession i =>
      have hphase : (s.tasks i).phase = .freed s.acquired := htime
      simp only [step, hphase] at hstep
      cases hstep
      exact hs.close hphase
  | wait ms =>
      cases hstep
      exact hs.wait ms

theorem Sound.leaseHolds {asks : Int32 → Bool} {s : BaseService} (hs : Sound asks s) :
    LeaseHolds asks s := by
  constructor
  · exact fun uid h => (hs.owner uid h).1
  · intro uid h other flag hother
    obtain ⟨howner, hfree⟩ := hs.owner uid h
    apply (acquireLock_refused flag (Or.inr ⟨?_, ?_⟩)).1
    · rw [howner]
      exact hfree
    · rw [howner]
      exact hother.symm
  · intro uid h hasks
    obtain ⟨howner, hfree⟩ := hs.owner uid h
    apply hs.session
    · rw [howner]
      exact hfree
    · rw [howner]
      exact hasks

/-- In every run in which no lock is acquired between the start of a task and its steps, every
lease holds until it ends. -/
theorem leaseHolds_run (asks : Int32 → Bool) (ls : List Label) (s : BaseService)
    (htime : (system asks).StepsMeet InTime init ls) (hrun : (system asks).run init ls = some s) :
    LeaseHolds asks s := by
  have hs : Sound asks s := TransitionSystem.run_invariant (I := Sound asks)
    (fun _ _ _ hs htime hstep => sound_step hs htime hstep) (sound_init asks) htime hrun
  exact hs.leaseHolds

/-- A lease that ends by itself, and the client that comes next. -/
def takeOver : List Label :=
  [.acquireLock 1, .wait 60000, .startTask 0, .freeLock 0, .closeSession 0, .acquireLock 2]

theorem leaseHolds_takeOver :
    ∃ s, (system fun _ => true).run init takeOver = some s ∧ s.lock = 2 ∧
      LeaseHolds (fun _ => true) s := by
  refine ⟨_, rfl, rfl, ?_⟩
  exact leaseHolds_run (fun _ => true) takeOver _ (by decide) rfl

/-- The lease is renewed when its task has started already. -/
def lateRenewal : List Label :=
  [.acquireLock 1, .wait 60000, .startTask 0, .acquireLock 1, .freeLock 0, .acquireLock 2]

/-- The task takes the lock from the renewed lease, and another client gets it. -/
theorem not_leaseHolds :
    ¬ ∀ (asks : Int32 → Bool) (ls : List Label) (s : BaseService),
      (system asks).run init ls = some s → LeaseHolds asks s := by
  intro h
  have hholds := h (fun _ => true) lateRenewal _ rfl
  have hlock := hholds.lock 1 ⟨60000, by decide, by decide⟩
  exact absurd hlock (by decide)

end BaseService

end Exynos8890.RootPa
