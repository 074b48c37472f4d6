import Exynos8890.Library.TransitionSystem

/-!
# The counting semaphore

The semaphore of the daemon: a counter under a mutex, with a condition variable for the
threads that find it zero.  Every critical section is one step.  A thread that sleeps on
the condition variable may wake up at any time, because it was signalled or for no reason,
and a timed one may also run into its time-out.

Main results:

- Theorem `step_balance`: every step keeps the count equal to the initial count plus the
  signals minus the successful waits.
- Theorem `accounted_iff`: the count stays nonnegative in a run if and only if no timed
  wait is resumed while the count is zero.
-/

namespace Exynos8890.MobiCore

/-! ## The operations -/

/-- `CSemaphore`. -/
structure CSemaphore where
  mWaitersCount : Int
  mCount : Int
deriving DecidableEq

namespace CSemaphore

/-- `CSemaphore::CSemaphore`. -/
def new (size : Int) : CSemaphore where
  mWaitersCount := 0
  mCount := size

/-- The test of the count, inside the critical section: the thread goes to sleep on the
condition variable, or it takes one and leaves. -/
def test (sem : CSemaphore) : CSemaphore × Bool :=
  if sem.mCount = 0 then (sem, false)
  else ({ mWaitersCount := sem.mWaitersCount - 1, mCount := sem.mCount - 1 }, true)

/-- `wait()` and `wait(int)` up to the condition wait. -/
def enter (sem : CSemaphore) : CSemaphore × Bool :=
  test { sem with mWaitersCount := sem.mWaitersCount + 1 }

/-- `wait(int)` behind the condition wait: the count is not tested again. -/
def leaveTimed (timedOut : Bool) (sem : CSemaphore) : CSemaphore where
  mWaitersCount := sem.mWaitersCount - 1
  mCount := if timedOut then sem.mCount else sem.mCount - 1

/-- `wouldWait`. -/
def wouldWait (sem : CSemaphore) : Bool :=
  sem.mCount = 0

/-- `signal`. -/
def signal (sem : CSemaphore) : CSemaphore :=
  { sem with mCount := sem.mCount + 1 }

end CSemaphore

/-! ## Threads -/

/-- Where a thread stands between two critical sections. -/
inductive SemaphorePhase where
  | outside
  /-- In the condition wait of `wait()`. -/
  | waiting
  /-- In the condition wait of `wait(int)`. -/
  | timedWaiting
deriving DecidableEq

/-- A semaphore that threads share, and how often it was signalled and waited for. -/
structure SharedSemaphore (θ : Type) where
  sem : CSemaphore
  threads : θ → SemaphorePhase
  signals : Nat
  waits : Nat

namespace SharedSemaphore

/-- A critical section of a thread. -/
inductive Label (θ : Type) where
  | wait (thread : θ)
  | resume (thread : θ)
  | waitTimed (thread : θ)
  | resumeTimed (thread : θ) (timedOut : Bool)
  | wouldWait (thread : θ)
  | signal (thread : θ)

variable {θ : Type} [DecidableEq θ]

/-- A new semaphore with no thread inside. -/
def new (size : Nat) : SharedSemaphore θ where
  sem := CSemaphore.new size
  threads := fun _ => .outside
  signals := 0
  waits := 0

/-- Behind a test a thread sleeps or its wait has succeeded. -/
def tested (s : SharedSemaphore θ) (thread : θ) (asleep : SemaphorePhase)
    (result : CSemaphore × Bool) : SharedSemaphore θ :=
  { s with
    sem := result.1
    threads := Function.update s.threads thread (if result.2 then .outside else asleep)
    waits := if result.2 then s.waits + 1 else s.waits }

/-- Where the thread of a critical section comes from. -/
def Label.stands : Label θ → θ × SemaphorePhase
  | .wait thread | .waitTimed thread | .wouldWait thread | .signal thread => (thread, .outside)
  | .resume thread => (thread, .waiting)
  | .resumeTimed thread _ => (thread, .timedWaiting)

/-- What a critical section does. -/
def effect (s : SharedSemaphore θ) : Label θ → SharedSemaphore θ
  | .wait thread => s.tested thread .waiting s.sem.enter
  | .resume thread => s.tested thread .waiting s.sem.test
  | .waitTimed thread => s.tested thread .timedWaiting s.sem.enter
  | .resumeTimed thread timedOut =>
      { s with
        sem := s.sem.leaveTimed timedOut
        threads := Function.update s.threads thread .outside
        waits := if timedOut then s.waits else s.waits + 1 }
  | .wouldWait _ => s
  | .signal _ => { s with sem := s.sem.signal, signals := s.signals + 1 }

/-- Threads on a semaphore. -/
def system : TransitionSystem (SharedSemaphore θ) (Label θ) where
  step s l := if s.threads l.stands.1 = l.stands.2 then some (s.effect l) else none

theorem step_eq_some {s t : SharedSemaphore θ} {l : Label θ} :
    system.step s l = some t ↔ s.threads l.stands.1 = l.stands.2 ∧ s.effect l = t := by
  simp [system]

/-! ## The count -/

/-- No signal is lost. -/
def Balanced (size : Nat) (s : SharedSemaphore θ) : Prop :=
  s.sem.mCount + s.waits = size + s.signals

/-- No signal is lost, and no wait succeeded without one. -/
structure Accounted (size : Nat) (s : SharedSemaphore θ) : Prop where
  balanced : s.Balanced size
  nonneg : 0 ≤ s.sem.mCount
  bounded : s.waits ≤ size + s.signals

/-- No timed wait is resumed, other than by its time-out, while the count is zero. -/
def FindsCount (s : SharedSemaphore θ) : Label θ → Prop
  | .resumeTimed thread false => s.threads thread = .timedWaiting → s.sem.mCount ≠ 0
  | _ => True

omit [DecidableEq θ] in
theorem Balanced.accounted {size : Nat} {s : SharedSemaphore θ} (h : s.Balanced size)
    (hnonneg : 0 ≤ s.sem.mCount) : s.Accounted size := by
  refine ⟨h, hnonneg, ?_⟩
  unfold Balanced at h
  omega

omit [DecidableEq θ] in
theorem accounted_new (size : Nat) : (new size : SharedSemaphore θ).Accounted size := by
  refine Balanced.accounted ?_ (Int.natCast_nonneg size)
  simp [Balanced, new, CSemaphore.new]

section Steps

variable {s : SharedSemaphore θ}

theorem tested_test (thread : θ) (asleep : SemaphorePhase) (sem : CSemaphore) :
    (s.tested thread asleep sem.test).sem.mCount + (s.tested thread asleep sem.test).waits =
      sem.mCount + s.waits := by
  by_cases hzero : sem.mCount = 0
  · simp [tested, CSemaphore.test, hzero]
  · simp only [tested, CSemaphore.test, hzero, if_false, if_true]
    omega

theorem step_balance {size : Nat} (h : s.Balanced size) (l : Label θ) :
    (s.effect l).Balanced size := by
  cases l with
  | wait thread => exact (tested_test thread _ _).trans h
  | resume thread => exact (tested_test thread _ _).trans h
  | waitTimed thread => exact (tested_test thread _ _).trans h
  | resumeTimed thread timedOut =>
      unfold Balanced at h ⊢
      cases timedOut with
      | true => exact h
      | false =>
          simp only [effect, CSemaphore.leaveTimed, Bool.false_eq_true, if_false]
          omega
  | wouldWait thread => exact h
  | signal thread =>
      unfold Balanced at h ⊢
      simp only [effect, CSemaphore.signal]
      omega

theorem test_nonneg {sem : CSemaphore} (h : 0 ≤ sem.mCount) : 0 ≤ sem.test.1.mCount := by
  unfold CSemaphore.test
  split
  · exact h
  · change 0 ≤ sem.mCount - 1
    omega

/-- A step leads below zero exactly when it resumes a timed wait at a count of zero. -/
theorem step_nonneg_iff (h : 0 ≤ s.sem.mCount) (l : Label θ) :
    (∀ t, system.step s l = some t → 0 ≤ t.sem.mCount) ↔ s.FindsCount l := by
  have heffect : (∀ t, system.step s l = some t → 0 ≤ t.sem.mCount) ↔
      (s.threads l.stands.1 = l.stands.2 → 0 ≤ (s.effect l).sem.mCount) := by
    simp [step_eq_some]
  rw [heffect]
  cases l with
  | wait thread | resume thread | waitTimed thread =>
      exact iff_of_true (fun _ => test_nonneg h) trivial
  | resumeTimed thread timedOut =>
      cases timedOut with
      | true => exact iff_of_true (fun _ => h) trivial
      | false =>
          simp only [effect, CSemaphore.leaveTimed, Bool.false_eq_true, if_false]
          constructor
          · intro hnonneg hstands hzero
            have := hnonneg hstands
            omega
          · intro hfinds hstands
            have := hfinds hstands
            omega
  | wouldWait thread => exact iff_of_true (fun _ => h) trivial
  | signal thread =>
      refine iff_of_true (fun _ => ?_) trivial
      simp only [effect, CSemaphore.signal]
      omega

end Steps

/-- In every run the count accounts for all signals and successful waits, and is not
negative, if and only if no timed wait is resumed by a wake-up while the count is zero. -/
theorem accounted_iff (size : Nat) (ls : List (Label θ)) :
    system.StepsMeet (fun s l => ∀ t, system.step s l = some t → t.Accounted size) (new size) ls ↔
      system.StepsMeet FindsCount (new size) ls := by
  apply system.stepsMeet_congr (I := fun s => s.Accounted size)
  · intro s l t _ hmeet hstep
    exact hmeet t hstep
  · intro s l hs
    rw [← step_nonneg_iff hs.nonneg l]
    constructor
    · intro hmeet t hstep
      exact (hmeet t hstep).nonneg
    · intro hmeet t hstep
      refine Balanced.accounted ?_ (hmeet t hstep)
      rw [← (step_eq_some.mp hstep).2]
      exact step_balance hs.balanced l
  · exact accounted_new size

/-- A signal that is taken by another thread before the sleeping one is resumed. -/
def stolen : List (Label Nat) :=
  [.waitTimed 1, .signal 2, .wait 3, .resumeTimed 1 false]

/-- Two waits succeed after one signal. -/
theorem not_accounted :
    ∃ t, system.run (new 0) stolen = some t ∧ t.signals = 1 ∧ t.waits = 2 ∧ t.sem.mCount = -1 :=
  ⟨_, rfl, rfl, rfl, rfl⟩

end SharedSemaphore

end Exynos8890.MobiCore
