import Exynos8890.Library.TransitionSystem

/-!
# The start-up of server and file storage daemon

The file storage daemon is a client of the server in the same process.  Its thread waits
on `syncCondition` until the server listens; the server signals the condition in each
round of its loop, and releases `syncMutex` in each round although it has taken it only
once.  The wait stands outside of a loop, so a spurious wakeup is taken for the signal.

Main results:

- Theorem `opensListening_iff`: the file storage daemon finds a server that listens if
  and only if it does not get the mutex back before the server has taken it.
- Theorem `canOpen_iff`: when the file storage daemon can still get to `FSD_Open`.
-/

namespace Exynos8890.MobiCore

/-- The threads that share `syncMutex`. -/
inductive SyncThread where
  | server
  | fsd
deriving DecidableEq

/-- Where `Server::run` stands. -/
inductive ServerStart where
  | begin
  | startingUp
  | signalling
  | signalled
  | synced
  | selecting
  | exited
deriving DecidableEq

/-- Where `FSD::run` stands. -/
inductive FsdStart where
  | begin
  | locked
  | waiting
  | woken
  | resumed
  | opened
deriving DecidableEq

/-- The two threads with what they share.  `threadSync` is `Th_sync`, and `listening` says
that `listen` has succeeded. -/
structure StartUp where
  syncMutex : Option SyncThread
  threadSync : Bool
  listening : Bool
  server : ServerStart
  fsd : FsdStart
deriving DecidableEq

namespace StartUp

/-- Both threads have been created. -/
def init : StartUp where
  syncMutex := none
  threadSync := false
  listening := false
  server := .begin
  fsd := .begin

inductive Label where
  | serverLock
  | socketFails
  | listenFails
  | listens
  | signal
  | setSync
  | serverUnlock
  | nextRound
  | selectFails
  | fsdLock
  | fsdWaits
  | spuriousWakeup
  | fsdRelocks
  | fsdUnlocks
deriving DecidableEq

/-! ## The server -/

/-- `pthread_mutex_lock`. -/
def serverLock (s : StartUp) : Option StartUp :=
  if s.server = .begin ∧ s.syncMutex = none then
    some { s with server := .startingUp, syncMutex := some .server }
  else none

/-- `socket` or `listen` fails: the thread leaves with the mutex. -/
def startFails (s : StartUp) : Option StartUp :=
  if s.server = .startingUp then some { s with server := .exited } else none

/-- The socket is bound and listens; a failed `bind` shows in `listen`. -/
def listens (s : StartUp) : Option StartUp :=
  if s.server = .startingUp then some { s with server := .signalling, listening := true }
  else none

/-- `pthread_cond_signal`. -/
def signal (s : StartUp) : Option StartUp :=
  if s.server = .signalling then
    some { s with server := .signalled, fsd := if s.fsd = .waiting then .woken else s.fsd }
  else none

/-- `Th_sync = true`. -/
def setSync (s : StartUp) : Option StartUp :=
  if s.server = .signalled then some { s with server := .synced, threadSync := true } else none

/-- `pthread_mutex_unlock`, in every round; a mutex of the default type does not check who
holds it. -/
def serverUnlock (s : StartUp) : Option StartUp :=
  if s.server = .synced then some { s with server := .selecting, syncMutex := none } else none

/-- `select` returns, the sockets are handled, and the loop begins its next round. -/
def nextRound (s : StartUp) : Option StartUp :=
  if s.server = .selecting then some { s with server := .signalling } else none

/-- `select` fails. -/
def selectFails (s : StartUp) : Option StartUp :=
  if s.server = .selecting then some { s with server := .exited } else none

/-! ## The file storage daemon -/

def fsdLock (s : StartUp) : Option StartUp :=
  if s.fsd = .begin ∧ s.syncMutex = none then
    some { s with fsd := .locked, syncMutex := some .fsd }
  else none

/-- `pthread_cond_wait` releases the mutex. -/
def fsdWaits (s : StartUp) : Option StartUp :=
  if s.fsd = .locked then some { s with fsd := .waiting, syncMutex := none } else none

def spuriousWakeup (s : StartUp) : Option StartUp :=
  if s.fsd = .waiting then some { s with fsd := .woken } else none

/-- `pthread_cond_wait` takes the mutex again before it returns. -/
def fsdRelocks (s : StartUp) : Option StartUp :=
  if s.fsd = .woken ∧ s.syncMutex = none then
    some { s with fsd := .resumed, syncMutex := some .fsd }
  else none

/-- The mutex is released, whatever `Th_sync` says, and `FSD_Open` is called. -/
def fsdUnlocks (s : StartUp) : Option StartUp :=
  if s.fsd = .resumed then some { s with fsd := .opened, syncMutex := none } else none

def step (s : StartUp) : Label → Option StartUp
  | .serverLock => s.serverLock
  | .socketFails => s.startFails
  | .listenFails => s.startFails
  | .listens => s.listens
  | .signal => s.signal
  | .setSync => s.setSync
  | .serverUnlock => s.serverUnlock
  | .nextRound => s.nextRound
  | .selectFails => s.selectFails
  | .fsdLock => s.fsdLock
  | .fsdWaits => s.fsdWaits
  | .spuriousWakeup => s.spuriousWakeup
  | .fsdRelocks => s.fsdRelocks
  | .fsdUnlocks => s.fsdUnlocks

/-- The start-up under every interleaving. -/
def system : TransitionSystem StartUp Label where
  step := step

/-! ## What a step can do -/

/-- The branches of the two threads. -/
inductive Effect (s : StartUp) : Label → StartUp → Prop where
  | serverLock (hpc : s.server = .begin) (hfree : s.syncMutex = none) :
      Effect s .serverLock { s with server := .startingUp, syncMutex := some .server }
  | startFails {l} (hpc : s.server = .startingUp) (hl : l = .socketFails ∨ l = .listenFails) :
      Effect s l { s with server := .exited }
  | listens (hpc : s.server = .startingUp) :
      Effect s .listens { s with server := .signalling, listening := true }
  | signal (hpc : s.server = .signalling) :
      Effect s .signal
        { s with server := .signalled, fsd := if s.fsd = .waiting then .woken else s.fsd }
  | setSync (hpc : s.server = .signalled) :
      Effect s .setSync { s with server := .synced, threadSync := true }
  | serverUnlock (hpc : s.server = .synced) :
      Effect s .serverUnlock { s with server := .selecting, syncMutex := none }
  | nextRound (hpc : s.server = .selecting) :
      Effect s .nextRound { s with server := .signalling }
  | selectFails (hpc : s.server = .selecting) :
      Effect s .selectFails { s with server := .exited }
  | fsdLock (hpc : s.fsd = .begin) (hfree : s.syncMutex = none) :
      Effect s .fsdLock { s with fsd := .locked, syncMutex := some .fsd }
  | fsdWaits (hpc : s.fsd = .locked) :
      Effect s .fsdWaits { s with fsd := .waiting, syncMutex := none }
  | spuriousWakeup (hpc : s.fsd = .waiting) : Effect s .spuriousWakeup { s with fsd := .woken }
  | fsdRelocks (hpc : s.fsd = .woken) (hfree : s.syncMutex = none) :
      Effect s .fsdRelocks { s with fsd := .resumed, syncMutex := some .fsd }
  | fsdUnlocks (hpc : s.fsd = .resumed) :
      Effect s .fsdUnlocks { s with fsd := .opened, syncMutex := none }

theorem step_effect {s t : StartUp} {l : Label} (h : system.step s l = some t) :
    Effect s l t := by
  cases l <;>
    simp only [system, step, serverLock, startFails, listens, signal, setSync, serverUnlock,
      nextRound, selectFails, fsdLock, fsdWaits, spuriousWakeup, fsdRelocks, fsdUnlocks,
      Option.ite_none_right_eq_some, Option.some.injEq] at h <;>
    obtain ⟨hpc, rfl⟩ := h
  case serverLock => exact .serverLock hpc.1 hpc.2
  case socketFails => exact .startFails hpc (Or.inl rfl)
  case listenFails => exact .startFails hpc (Or.inr rfl)
  case listens => exact .listens hpc
  case signal => exact .signal hpc
  case setSync => exact .setSync hpc
  case serverUnlock => exact .serverUnlock hpc
  case nextRound => exact .nextRound hpc
  case selectFails => exact .selectFails hpc
  case fsdLock => exact .fsdLock hpc.1 hpc.2
  case fsdWaits => exact .fsdWaits hpc
  case spuriousWakeup => exact .spuriousWakeup hpc
  case fsdRelocks => exact .fsdRelocks hpc.1 hpc.2
  case fsdUnlocks => exact .fsdUnlocks hpc

/-! ## The invariant -/

/-- The first round of the server is a critical section: until `Th_sync` is set, the mutex
is held by the thread that has taken it. -/
structure Orderly (s : StartUp) : Prop where
  fsdHolds : s.syncMutex = some .fsd → s.fsd = .locked ∨ s.fsd = .resumed
  serverHolds : s.syncMutex = some .server → s.server ≠ .begin ∧ s.server ≠ .selecting
  synced : s.server = .synced ∨ s.server = .selecting → s.threadSync = true
  unsynced : s.server = .begin ∨ s.server = .startingUp → s.threadSync = false
  listening : s.server = .signalling ∨ s.server = .signalled ∨ s.threadSync = true →
    s.listening = true
  firstFsd : s.threadSync = false → s.fsd = .locked ∨ s.fsd = .resumed →
    s.syncMutex = some .fsd
  firstServer : s.threadSync = false → s.server ≠ .begin → s.syncMutex = some .server

theorem init_orderly : Orderly init := by
  constructor <;> simp [init]

/-- The signal wakes a thread that waits, and no other. -/
theorem woken_eq_iff {pc pc' : FsdStart} (hwaiting : pc' ≠ .waiting) (hwoken : pc' ≠ .woken) :
    (if pc = .waiting then .woken else pc) = pc' ↔ pc = pc' := by
  by_cases h : pc = .waiting
  · rw [if_pos h, h]
    exact iff_of_false hwoken.symm hwaiting.symm
  · rw [if_neg h]

theorem effect_orderly {s t : StartUp} {l : Label} (ho : Orderly s) (h : Effect s l t) :
    Orderly t := by
  obtain ⟨hfsd, hserver, hsynced, hunsynced, hlistening, hfirst, hfirst'⟩ := ho
  cases h with
  | signal hpc =>
      have hlocked : (if s.fsd = .waiting then .woken else s.fsd) = .locked ↔ s.fsd = .locked :=
        woken_eq_iff (by decide) (by decide)
      have hresumed : (if s.fsd = .waiting then .woken else s.fsd) = .resumed ↔ s.fsd = .resumed :=
        woken_eq_iff (by decide) (by decide)
      constructor <;> simp_all
  | _ => constructor <;> simp_all

theorem orderly_run {ls : List Label} {s : StartUp} (h : system.run init ls = some s) :
    Orderly s :=
  TransitionSystem.run_invariant_of_step
    (fun _ _ _ ho hstep => effect_orderly ho (step_effect hstep)) init_orderly h

/-! ## The file storage daemon finds a server that listens -/

/-- The wait is over. -/
def Past (s : StartUp) : Prop :=
  s.fsd = .resumed ∨ s.fsd = .opened

instance (s : StartUp) : Decidable s.Past :=
  inferInstanceAs (Decidable (_ ∨ _))

/-- Behind its wait, the file storage daemon finds what it has waited for. -/
def FindsServer (s : StartUp) : Prop :=
  s.Past → s.threadSync = true ∧ s.listening = true

/-- The file storage daemon does not get the mutex back before the server has taken it. -/
def ServerFirst (s : StartUp) (l : Label) : Prop :=
  l = .fsdRelocks → s.server ≠ .begin

instance (s : StartUp) (l : Label) : Decidable (ServerFirst s l) :=
  inferInstanceAs (Decidable (_ → _))

theorem serverFirst_iff {s t : StartUp} {l : Label} (ho : Orderly s) (hf : FindsServer s)
    (h : Effect s l t) : ServerFirst s l ↔ FindsServer t := by
  -- the flags are never taken back
  have hkept {t : StartUp} (hpast : t.Past → s.Past) (hl : l ≠ .fsdRelocks)
      (hsync : s.threadSync = true → t.threadSync = true)
      (hlisten : s.listening = true → t.listening = true) : ServerFirst s l ↔ FindsServer t :=
    iff_of_true (fun heq => absurd heq hl) fun hp => (hf (hpast hp)).imp hsync hlisten
  cases h with
  | fsdRelocks hpc hfree =>
      have hpast : Past { s with fsd := .resumed, syncMutex := some .fsd } := Or.inl rfl
      constructor
      · intro hfirst _
        -- a server that has not set the flag still holds the mutex
        have hsync : s.threadSync = true := by
          by_contra hne
          have hheld := ho.firstServer (by simpa using hne) (hfirst rfl)
          rw [hfree] at hheld
          cases hheld
        exact ⟨hsync, ho.listening (Or.inr (Or.inr hsync))⟩
      · intro hfound _ hbegin
        have hsync := (hfound hpast).1
        rw [ho.unsynced (Or.inl hbegin)] at hsync
        cases hsync
  | fsdUnlocks hpc =>
      exact hkept (fun _ => Or.inl hpc) (by simp) id id
  | startFails hpc hl => exact hkept id (by rcases hl with rfl | rfl <;> simp) id id
  | listens => exact hkept id (by simp) id fun _ => rfl
  | setSync => exact hkept id (by simp) (fun _ => rfl) id
  | signal =>
      refine hkept (fun hp => ?_) (by simp) id id
      unfold Past at hp ⊢
      by_cases hwait : s.fsd = .waiting
      · simp [hwait] at hp
      · simpa [hwait] using hp
  | serverLock | serverUnlock | nextRound | selectFails => exact hkept id (by simp) id id
  | fsdLock | fsdWaits | spuriousWakeup =>
      exact hkept (fun hp => by simp [Past] at hp) (by simp) id id

/-- In every run, the file storage daemon finds a server that listens if and only if it
does not get the mutex back, on a spurious wakeup, before the server has taken it. -/
theorem opensListening_iff {ls : List Label} {t : StartUp} (hrun : system.run init ls = some t) :
    (∀ ms s, ms <+: ls → system.run init ms = some s → FindsServer s) ↔
      system.StepsMeet ServerFirst init ls := by
  refine (TransitionSystem.stepsMeet_iff_reached (I := Orderly) (P := FindsServer) ?_
    init_orderly (by simp [FindsServer, Past, init]) hrun).symm
  intro s l t ho hf hstep
  have heffect := step_effect hstep
  exact ⟨effect_orderly ho heffect, serverFirst_iff ho hf heffect⟩

/-! ## The file storage daemon may wait for ever -/

/-- The file storage daemon can get to `FSD_Open`, without a spurious wakeup. -/
def CanOpen (s : StartUp) : Prop :=
  ∃ ls t, system.run s ls = some t ∧ t.fsd = .opened ∧ .spuriousWakeup ∉ ls

/-- Nobody is left to wake the file storage daemon, or to release the mutex. -/
def Stuck (s : StartUp) : Prop :=
  s.server = .exited ∧ (s.fsd = .begin ∨ s.fsd = .locked ∨ s.fsd = .waiting ∨
    s.fsd = .woken ∧ s.syncMutex = some .server)

theorem effect_stuck {s t : StartUp} {l : Label} (hs : Stuck s) (h : Effect s l t)
    (hl : l ≠ .spuriousWakeup) : Stuck t := by
  obtain ⟨hexit, hfsd⟩ := hs
  cases h <;> grind [Stuck]

theorem Stuck.not_canOpen {s : StartUp} (hs : Stuck s) : ¬ CanOpen s := by
  rintro ⟨ls, t, hrun, hopened, hnone⟩
  have hstuck : Stuck t :=
    TransitionSystem.run_invariant (M := system) (C := fun _ l => l ≠ .spuriousWakeup)
      (fun _ _ _ hs hl hstep => effect_stuck hs (step_effect hstep) hl) hs
      (TransitionSystem.stepsMeet_of_labels fun l hmem heq => hnone (heq ▸ hmem)) hrun
  rcases hstuck.2 with h | h | h | h <;> simp [hopened] at h

/-- One step on the way, if it is not the spurious wakeup. -/
theorem CanOpen.cons {s t : StartUp} {l : Label} (hstep : system.step s l = some t)
    (hl : l ≠ .spuriousWakeup) (ht : CanOpen t) : CanOpen s := by
  obtain ⟨ls, u, hrun, hopened, hnone⟩ := ht
  refine ⟨l :: ls, u, (system.run_cons_eq_some).mpr ⟨t, hstep, hrun⟩, hopened, ?_⟩
  simp [Ne.symm hl, hnone]

/-- The steps of the server until it has released the mutex. -/
def ServerStart.untilUnlock : ServerStart → ℕ
  | .begin => 5
  | .startingUp => 4
  | .signalling => 3
  | .signalled => 2
  | .synced => 1
  | .selecting | .exited => 0

/-- The steps of the server until it has signalled. -/
def ServerStart.untilSignal : ServerStart → ℕ
  | .signalled => 4
  | .begin | .synced => 3
  | .startingUp | .selecting => 2
  | .signalling => 1
  | .exited => 0

/-- The steps that are left, when each thread moves as soon as the other one waits for it. -/
def left (s : StartUp) : ℕ :=
  match s.fsd with
  | .begin => 14 + ServerStart.untilUnlock s.server
  | .locked => 13
  | .waiting => 8 + ServerStart.untilSignal s.server
  | .woken => 2 + ServerStart.untilUnlock s.server
  | .resumed => 1
  | .opened => 0

/-- A step on the way, while the server runs. -/
def Advances (s : StartUp) : Prop :=
  ∃ l t, system.step s l = some t ∧ l ≠ .spuriousWakeup ∧ t.server ≠ .exited ∧ t.left < s.left

/-- A server that holds the mutex goes on until it releases it. -/
theorem advances_of_held {s : StartUp} (ho : Orderly s) (hheld : s.syncMutex = some .server)
    (hlive : s.server ≠ .exited) (hfsd : s.fsd = .begin ∨ s.fsd = .woken) : Advances s := by
  obtain ⟨hbegin, hselect⟩ := ho.serverHolds hheld
  have hwait : s.fsd ≠ .waiting := by rcases hfsd with h | h <;> simp [h]
  have hleft {t : StartUp} (hsame : t.fsd = s.fsd)
      (hlt : ServerStart.untilUnlock t.server < ServerStart.untilUnlock s.server) :
      t.left < s.left := by
    rcases hfsd with h | h <;> simp only [left, hsame, h] <;> omega
  cases hpc : s.server with
  | begin => exact absurd hpc hbegin
  | selecting => exact absurd hpc hselect
  | exited => exact absurd hpc hlive
  | startingUp =>
      exact ⟨.listens, _, if_pos hpc, by simp, by simp,
        hleft rfl (by simp [hpc, ServerStart.untilUnlock])⟩
  | signalling =>
      exact ⟨.signal, _, if_pos hpc, by simp, by simp,
        hleft (if_neg hwait) (by simp [hpc, ServerStart.untilUnlock])⟩
  | signalled =>
      exact ⟨.setSync, _, if_pos hpc, by simp, by simp,
        hleft rfl (by simp [hpc, ServerStart.untilUnlock])⟩
  | synced =>
      exact ⟨.serverUnlock, _, if_pos hpc, by simp, by simp,
        hleft rfl (by simp [hpc, ServerStart.untilUnlock])⟩

theorem advances_of_waiting {s : StartUp} (ho : Orderly s) (hwait : s.fsd = .waiting)
    (hlive : s.server ≠ .exited) : Advances s := by
  cases hpc : s.server with
  | exited => exact absurd hpc hlive
  | begin =>
      have hfree : s.syncMutex = none := by
        cases hmutex : s.syncMutex with
        | none => rfl
        | some thread =>
            cases thread with
            | server => exact absurd hpc (ho.serverHolds hmutex).1
            | fsd => simpa [hwait] using ho.fsdHolds hmutex
      exact ⟨.serverLock, _, if_pos ⟨hpc, hfree⟩, by simp, by simp,
        by simp [left, hwait, hpc, ServerStart.untilSignal]⟩
  | startingUp =>
      exact ⟨.listens, _, if_pos hpc, by simp, by simp,
        by simp [left, hwait, hpc, ServerStart.untilSignal]⟩
  | signalling =>
      exact ⟨.signal, _, if_pos hpc, by simp, by simp,
        by simp [left, hwait, hpc, ServerStart.untilSignal, ServerStart.untilUnlock]⟩
  | signalled =>
      exact ⟨.setSync, _, if_pos hpc, by simp, by simp,
        by simp [left, hwait, hpc, ServerStart.untilSignal]⟩
  | synced =>
      exact ⟨.serverUnlock, _, if_pos hpc, by simp, by simp,
        by simp [left, hwait, hpc, ServerStart.untilSignal]⟩
  | selecting =>
      exact ⟨.nextRound, _, if_pos hpc, by simp, by simp,
        by simp [left, hwait, hpc, ServerStart.untilSignal]⟩

/-- While the server runs, there is always a step on the way. -/
theorem advances {s : StartUp} (ho : Orderly s) (hlive : s.server ≠ .exited)
    (hfsd : s.fsd ≠ .opened) : Advances s := by
  have hmutex (h : s.fsd = .begin ∨ s.fsd = .woken) :
      s.syncMutex = none ∨ s.syncMutex = some .server := by
    cases hmutex : s.syncMutex with
    | none => exact Or.inl rfl
    | some thread =>
        cases thread with
        | server => exact Or.inr rfl
        | fsd => rcases h with h | h <;> simpa [h] using ho.fsdHolds hmutex
  cases hpc : s.fsd with
  | opened => exact absurd hpc hfsd
  | begin =>
      rcases hmutex (Or.inl hpc) with hfree | hheld
      · exact ⟨.fsdLock, _, if_pos ⟨hpc, hfree⟩, by simp, hlive, by simp [left, hpc]; omega⟩
      · exact advances_of_held ho hheld hlive (Or.inl hpc)
  | locked =>
      have hle : ServerStart.untilSignal s.server ≤ 4 := by
        cases s.server <;> simp [ServerStart.untilSignal]
      exact ⟨.fsdWaits, _, if_pos hpc, by simp, hlive, by simp only [left, hpc]; omega⟩
  | waiting => exact advances_of_waiting ho hpc hlive
  | woken =>
      rcases hmutex (Or.inr hpc) with hfree | hheld
      · exact ⟨.fsdRelocks, _, if_pos ⟨hpc, hfree⟩, by simp, hlive, by simp [left, hpc]; omega⟩
      · exact advances_of_held ho hheld hlive (Or.inr hpc)
  | resumed => exact ⟨.fsdUnlocks, _, if_pos hpc, by simp, hlive, by simp [left, hpc]⟩

theorem canOpen_opened {s : StartUp} (h : s.fsd = .opened) : CanOpen s :=
  ⟨[], s, rfl, h, List.not_mem_nil⟩

theorem canOpen_resumed {s : StartUp} (h : s.fsd = .resumed) : CanOpen s :=
  .cons (l := .fsdUnlocks) (if_pos h) (by simp) (canOpen_opened rfl)

theorem canOpen_woken {s : StartUp} (h : s.fsd = .woken) (hfree : s.syncMutex = none) :
    CanOpen s :=
  .cons (l := .fsdRelocks) (if_pos ⟨h, hfree⟩) (by simp) (canOpen_resumed rfl)

/-- While the server runs, the file storage daemon can get on. -/
theorem canOpen_of_live {s : StartUp} (ho : Orderly s) (hlive : s.server ≠ .exited) :
    CanOpen s := by
  -- the induction is on the steps that are left
  induction hn : s.left using Nat.strong_induction_on generalizing s with
  | _ n ih =>
      subst hn
      by_cases hopened : s.fsd = .opened
      · exact canOpen_opened hopened
      · obtain ⟨l, t, hstep, hl, hlive', hlt⟩ := advances ho hlive hopened
        exact .cons hstep hl
          (ih t.left hlt (effect_orderly ho (step_effect hstep)) hlive' rfl)

/-- The file storage daemon can get to `FSD_Open` unless the server has left and the daemon
is not yet woken, or the server has left with the mutex. -/
theorem canOpen_iff {ls : List Label} {s : StartUp} (hrun : system.run init ls = some s) :
    CanOpen s ↔ s.server ≠ .exited ∨ s.fsd = .resumed ∨ s.fsd = .opened ∨
      s.fsd = .woken ∧ s.syncMutex ≠ some .server := by
  have ho := orderly_run hrun
  constructor
  · intro hcan
    by_contra hnot
    refine Stuck.not_canOpen ?_ hcan
    unfold Stuck
    cases hpc : s.fsd <;> simp_all
  · rintro (hlive | hfsd | hfsd | ⟨hfsd, hmutex⟩)
    · exact canOpen_of_live ho hlive
    · exact canOpen_resumed hfsd
    · exact canOpen_opened hfsd
    · refine canOpen_woken hfsd ?_
      cases hheld : s.syncMutex with
      | none => rfl
      | some thread =>
          cases thread with
          | server => exact absurd hheld hmutex
          | fsd => simpa [hfsd] using ho.fsdHolds hheld

/-- The server is ready before the file storage daemon gets to its wait, and wakes it in
its second round. -/
def wokenLater : List Label :=
  [.serverLock, .listens, .signal, .setSync, .serverUnlock, .fsdLock, .fsdWaits, .nextRound,
    .signal, .fsdRelocks, .fsdUnlocks]

theorem opensListening_iff_wokenLater : ∃ t, system.run init wokenLater = some t ∧
    t.fsd = .opened ∧
      ∀ ms s, ms <+: wokenLater → system.run init ms = some s → FindsServer s :=
  ⟨_, rfl, rfl, (opensListening_iff rfl).mpr (by decide)⟩

/-- The server cannot open its socket, and keeps the mutex. -/
theorem canOpen_iff_socketFails : ∃ s, system.run init [.serverLock, .socketFails] = some s ∧
    ¬ CanOpen s :=
  ⟨_, rfl, fun h => absurd ((canOpen_iff (show system.run init [.serverLock, .socketFails] =
    some _ from rfl)).mp h) (by decide)⟩

end StartUp

end Exynos8890.MobiCore
