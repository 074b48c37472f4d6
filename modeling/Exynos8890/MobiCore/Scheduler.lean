import Exynos8890.Library.TransitionSystem
import Exynos8890.MobiCore.Common.CSemaphore

/-!
# Scheduling of the secure world

The secure world has no processor of its own.  The scheduler thread hands it time slices
while its scheduling flag is not idle, and sleeps on a semaphore otherwise.  The secure
world leaves the idle state in two ways: a thread sends it an N-SIQ and signals the
semaphore behind the call, or an interrupt of its own makes it run and it raises an
S-SIQ, on which the interrupt handler signals the semaphore.

A step ends where a thread has read the flag, enters or leaves the secure world, or leaves
a critical section of the semaphore.

Main results:

- Theorem `step_attentive`: the scheduler never sleeps on a flag that nobody will tell it
  about.
- Theorem `handsOver_run`: whenever the secure world is not idle, the threads of the normal
  world lead the scheduler to a fast call, in whatever order they move.
- Theorem `handovers_periodic`: every sixth fast call of the scheduler is an N-SIQ, however
  often it has slept in between.
-/

namespace Exynos8890.MobiCore

namespace TrustZone

/-- `MC_FLAG_SCHEDULE_IDLE`. -/
def mcFlagScheduleIdle : UInt32 := 0

/-- `SCHEDULING_FREQ`. -/
def schedulingFreq : Nat := 5

/-- What the secure world leaves behind when it has run: the flag, and whether it has
raised an S-SIQ. -/
structure SecureRun where
  schedule : UInt32
  ssiq : Bool
deriving DecidableEq

/-- The result of a fast call; one that fails has not entered the secure world. -/
abbrev FastCall := Option SecureRun

/-- The fast calls of the scheduler thread. -/
inductive Handover where
  | yield
  | nsiq
deriving DecidableEq

/-- Where the scheduler thread stands in `schedule`. -/
inductive SchedulerPc where
  | decide
  /-- The flag was idle. -/
  | idle
  /-- In the condition wait of `schedSync.wait()`. -/
  | asleep
  | yield
  | nsiq
  /-- In `nsiq`, behind the fast call. -/
  | nsiqSent
  | terminated
deriving DecidableEq

/-- The steps of the scheduler up to its next fast call. -/
def SchedulerPc.distance : SchedulerPc → Nat
  | .nsiqSent => 4
  | .idle => 3
  | .asleep => 2
  | .decide => 1
  | .yield | .nsiq | .terminated => 0

/-- Where the interrupt handler stands in `handleIrq`. -/
inductive IrqHandlerPc where
  | waiting
  /-- Behind `waitSsiq`. -/
  | handling
  | terminated
deriving DecidableEq

/-- The scheduler with what wakes it.  `woken` says that the condition variable has been
signalled since the scheduler sleeps on it, `callers` are the threads that are in `nsiq`
behind the fast call, `ssiqs` the interrupts that are not handled yet, and `handovers`
the fast calls the scheduler has decided on. -/
structure Scheduling where
  schedule : UInt32
  schedSync : CSemaphore
  woken : Bool
  timeslice : Nat
  pc : SchedulerPc
  callers : Nat
  ssiqs : Nat
  irq : IrqHandlerPc
  handovers : List Handover
deriving DecidableEq

namespace Scheduling

/-- The state when the threads are started: the secure world has run, and the semaphore has
been signalled, in `initDevice`. -/
def start (schedule : UInt32) (signals ssiqs : Nat) : Scheduling where
  schedule := schedule
  schedSync := CSemaphore.new signals
  woken := false
  timeslice := schedulingFreq
  pc := .decide
  callers := 0
  ssiqs := ssiqs
  irq := .waiting
  handovers := []

/-- The secure world runs. -/
@[simps]
def secure (run : SecureRun) (s : Scheduling) : Scheduling :=
  { s with
    schedule := run.schedule
    ssiqs := if run.ssiq then s.ssiqs + 1 else s.ssiqs }

/-- `schedSync.signal()`: a scheduler that sleeps on the condition variable is woken. -/
@[simps]
def signal (s : Scheduling) : Scheduling :=
  { s with
    schedSync := s.schedSync.signal
    woken := s.woken || (s.pc == .asleep && s.schedSync.mWaitersCount > 0) }

/-- Behind the test of the count in `schedSync.wait()`. -/
@[simps]
def tested (result : CSemaphore × Bool) (s : Scheduling) : Scheduling :=
  { s with
    schedSync := result.1
    woken := false
    pc := if result.2 then .decide else .asleep }

/-- One decision of the loop of `schedule`. -/
def scheduleDecision (s : Scheduling) : Scheduling :=
  if mcFlagScheduleIdle = s.schedule then { s with pc := .idle }
  else if s.timeslice = 0 then
    { s with
      timeslice := schedulingFreq
      pc := .nsiq
      handovers := s.handovers ++ [.nsiq] }
  else
    { s with
      timeslice := s.timeslice - 1
      pc := .yield
      handovers := s.handovers ++ [.yield] }

inductive Label where
  /-- Another thread calls `nsiq`. -/
  | nsiq (call : FastCall)
  | nsiqSignal
  /-- The secure world runs on an interrupt of its own. -/
  | fiq (run : SecureRun)
  | decide
  | wait
  | wake (spurious : Bool)
  | yield (call : FastCall)
  | schedulerNsiq (call : FastCall)
  | schedulerSignal
  /-- `waitSsiq` returns for some pending interrupts, or fails. -/
  | waitSsiq (count : Option Nat)
  | handled
deriving DecidableEq

/-- One step.  When the secure world leaves the idle state on an interrupt of its own, it
raises an S-SIQ. -/
def step (s : Scheduling) : Label → Option Scheduling
  | .nsiq none => some s
  | .nsiq (some run) => some { s.secure run with callers := s.callers + 1 }
  | .nsiqSignal => if s.callers = 0 then none else some { s.signal with callers := s.callers - 1 }
  | .fiq run =>
      if run.schedule = mcFlagScheduleIdle ∨ s.schedule ≠ mcFlagScheduleIdle ∨ run.ssiq = true then
        some (s.secure run)
      else none
  | .decide => if s.pc = .decide then some s.scheduleDecision else none
  | .wait => if s.pc = .idle then some (s.tested s.schedSync.enter) else none
  | .wake spurious =>
      if s.pc = .asleep ∧ (s.woken = true ∨ spurious = true) then
        some (s.tested s.schedSync.test)
      else none
  | .yield call =>
      if s.pc = .yield then
        match call with
        | none => some { s with pc := .terminated }
        | some run => some { s.secure run with pc := .decide }
      else none
  | .schedulerNsiq call =>
      if s.pc = .nsiq then
        match call with
        | none => some { s with pc := .terminated }
        | some run => some { s.secure run with pc := .nsiqSent }
      else none
  | .schedulerSignal => if s.pc = .nsiqSent then some { s.signal with pc := .decide } else none
  | .waitSsiq none =>
      if s.irq = .waiting then some { s with irq := .terminated } else none
  | .waitSsiq (some count) =>
      if s.irq = .waiting ∧ 0 < count ∧ count ≤ s.ssiqs then
        some { s with irq := .handling, ssiqs := s.ssiqs - count }
      else none
  | .handled => if s.irq = .handling then some { s.signal with irq := .waiting } else none

/-- The scheduler, the callers of `nsiq`, the interrupt handler and the secure world. -/
def system : TransitionSystem Scheduling Label where
  step := step

/-! ## Nobody is forgotten -/

/-- A signal of the semaphore is there, or some thread is about to give one. -/
def SignalDue (s : Scheduling) : Prop :=
  s.schedSync.mCount ≠ 0 ∨ 0 < s.callers ∨ 0 < s.ssiqs ∨ s.irq = .handling

/-- The scheduler is not forgotten in its sleep. -/
structure Attentive (s : Scheduling) : Prop where
  counted : 0 ≤ s.schedSync.mCount
  waiters : s.schedSync.mWaitersCount = if s.pc = .asleep then 1 else 0
  /-- The scheduler is woken exactly when it would find a count. -/
  wakes : s.pc = .asleep → (s.woken = true ↔ s.schedSync.mCount ≠ 0)
  told : s.schedule ≠ mcFlagScheduleIdle → s.pc = .idle ∨ s.pc = .asleep → s.SignalDue

section Steps

variable {s t : Scheduling}

theorem start_attentive (schedule : UInt32) (signals ssiqs : Nat) :
    (start schedule signals ssiqs).Attentive := by
  constructor
  · exact Int.natCast_nonneg signals
  · rfl
  · intro h
    cases h
  · intro _ h
    cases h with
    | inl h => cases h
    | inr h => cases h

theorem signal_mCount (s : Scheduling) :
    s.signal.schedSync.mCount = s.schedSync.mCount + 1 :=
  rfl

/-- A signal leaves a count, and wakes the scheduler if it sleeps. -/
theorem Attentive.signal (h : s.Attentive) :
    s.signal.Attentive ∧ s.signal.schedSync.mCount ≠ 0 := by
  have hcount : s.signal.schedSync.mCount ≠ 0 := by
    have := h.counted
    rw [signal_mCount]
    omega
  refine ⟨⟨?_, h.waiters, ?_, fun _ _ => Or.inl hcount⟩, hcount⟩
  · have := h.counted
    rw [signal_mCount]
    omega
  · intro hpc
    have hpc' : s.pc = .asleep := hpc
    have hwaiters : s.schedSync.mWaitersCount > 0 := by
      rw [h.waiters, if_pos hpc']
      decide
    exact iff_of_true (by simp [hpc', hwaiters]) hcount

/-- A signal, and the progress of the thread that gives it. -/
theorem Attentive.signalled (h : s.Attentive) (hsync : t.schedSync = s.signal.schedSync)
    (hwoken : t.woken = s.signal.woken) (hpc : t.pc = s.pc) : t.Attentive := by
  obtain ⟨hsignal, hcount⟩ := h.signal
  constructor
  · rw [hsync]
    exact hsignal.counted
  · rw [hsync, hpc]
    exact hsignal.waiters
  · rw [hsync, hwoken, hpc]
    exact hsignal.wakes
  · intro _ _
    left
    rwa [hsync]

/-- The test of the count leads on, or back to sleep with nothing to be had. -/
theorem Attentive.tested {sem : CSemaphore} (h : s.Attentive)
    (hcount : sem.mCount = s.schedSync.mCount) (hwaiters : sem.mWaitersCount = 1)
    (hpc : s.pc = .idle ∨ s.pc = .asleep) : (s.tested sem.test).Attentive := by
  by_cases hzero : sem.mCount = 0
  · have htest : sem.test = (sem, false) := by
      rw [CSemaphore.test, if_pos hzero]
    rw [htest]
    constructor
    · exact (hcount ▸ h.counted : 0 ≤ sem.mCount)
    · exact hwaiters
    · intro _
      simp [hzero]
    · intro hflag _
      rcases h.told hflag hpc with hne | hdue
      · rw [← hcount] at hne
        exact absurd hzero hne
      · exact Or.inr hdue
  · have htest : sem.test =
        ({ mWaitersCount := sem.mWaitersCount - 1, mCount := sem.mCount - 1 }, true) := by
      rw [CSemaphore.test, if_neg hzero]
    rw [htest]
    have hnonneg := h.counted
    constructor
    · show 0 ≤ sem.mCount - 1
      omega
    · show sem.mWaitersCount - 1 = _
      simp [hwaiters]
    · intro hasleep
      cases hasleep
    · intro _ hasleep
      simp at hasleep

theorem Attentive.awake (h : s.Attentive) (hsync : t.schedSync = s.schedSync)
    (hpc : s.pc ≠ .asleep) (hidle : t.pc ≠ .idle) (hawake : t.pc ≠ .asleep) : t.Attentive := by
  constructor
  · rw [hsync]
    exact h.counted
  · rw [hsync, h.waiters, if_neg hpc, if_neg hawake]
  · exact fun hasleep => absurd hasleep hawake
  · intro _ hplace
    cases hplace with
    | inl hplace => exact absurd hplace hidle
    | inr hplace => exact absurd hplace hawake

/-- The secure world or another thread moves, and does not take back a signal. -/
theorem Attentive.others (h : s.Attentive) (hsync : t.schedSync = s.schedSync)
    (hwoken : t.woken = s.woken) (hpc : t.pc = s.pc)
    (hdue : t.schedule ≠ mcFlagScheduleIdle → t.SignalDue ∨
      (s.schedule ≠ mcFlagScheduleIdle ∧ (s.SignalDue → t.SignalDue))) : t.Attentive := by
  constructor
  · rw [hsync]
    exact h.counted
  · rw [hsync, hpc]
    exact h.waiters
  · rw [hsync, hwoken, hpc]
    exact h.wakes
  · intro hflag hplace
    rw [hpc] at hplace
    rcases hdue hflag with hsignal | ⟨hbefore, hkept⟩
    · exact hsignal
    · exact hkept (h.told hbefore hplace)

theorem scheduleDecision_spec (s : Scheduling) :
    s.scheduleDecision.schedSync = s.schedSync ∧ s.scheduleDecision.pc ≠ .asleep ∧
      (s.scheduleDecision.pc = .idle → s.scheduleDecision.schedule = mcFlagScheduleIdle) := by
  unfold scheduleDecision
  split
  · rename_i hidle
    exact ⟨rfl, by simp, fun _ => hidle.symm⟩
  · split <;> exact ⟨rfl, by simp, by simp⟩

theorem Attentive.decision (h : s.Attentive) (hpc : s.pc = .decide) :
    s.scheduleDecision.Attentive := by
  obtain ⟨hsync, hawake, hidle⟩ := scheduleDecision_spec s
  constructor
  · rw [hsync]
    exact h.counted
  · rw [hsync, h.waiters, hpc, if_neg hawake]
    rfl
  · exact fun hasleep => absurd hasleep hawake
  · intro hflag hplace
    rcases hplace with hplace | hplace
    · exact absurd (hidle hplace) hflag
    · exact absurd hplace hawake

theorem step_attentive {l : Label} (h : s.Attentive) (hstep : system.step s l = some t) :
    t.Attentive := by
  cases l with
  | nsiq call =>
      cases call with
      | none =>
          cases hstep
          exact h
      | some run =>
          cases hstep
          refine h.others rfl rfl rfl fun _ => Or.inl ?_
          exact Or.inr (Or.inl (Nat.succ_pos _))
  | nsiqSignal =>
      simp only [system, step] at hstep
      split at hstep <;> cases hstep
      exact h.signalled rfl rfl rfl
  | fiq run =>
      simp only [system, step] at hstep
      split at hstep <;> cases hstep
      rename_i hraised
      refine h.others rfl rfl rfl fun hflag => ?_
      have hdue : s.SignalDue → (s.secure run).SignalDue := by
        rintro (hcount | hcallers | hssiqs | hirq)
        · exact Or.inl hcount
        · exact Or.inr (Or.inl hcallers)
        · right; right; left
          rw [secure_ssiqs]
          split <;> omega
        · exact Or.inr (Or.inr (Or.inr hirq))
      rcases hraised with hidle | hbefore | hssiq
      · exact absurd hidle hflag
      · exact Or.inr ⟨hbefore, hdue⟩
      · left
        simp [SignalDue, hssiq]
  | decide =>
      simp only [system, step] at hstep
      split at hstep <;> cases hstep
      rename_i hpc
      exact h.decision hpc
  | wait =>
      simp only [system, step] at hstep
      split at hstep <;> cases hstep
      rename_i hpc
      refine h.tested rfl ?_ (Or.inl hpc)
      have hwaiters := h.waiters
      rw [hpc] at hwaiters
      simp [hwaiters]
  | wake spurious =>
      simp only [system, step] at hstep
      split at hstep <;> cases hstep
      rename_i hpc
      refine h.tested rfl ?_ (Or.inr hpc.1)
      rw [h.waiters, if_pos hpc.1]
  | yield call | schedulerNsiq call =>
      simp only [system, step] at hstep
      split at hstep
      · rename_i hpc
        cases call <;>
        · cases hstep
          exact h.awake rfl (by simp [hpc]) (by simp) (by simp)
      · cases hstep
  | schedulerSignal =>
      simp only [system, step] at hstep
      split at hstep <;> cases hstep
      rename_i hpc
      exact h.signal.1.awake rfl (by simp [hpc]) (by simp) (by simp)
  | waitSsiq count =>
      cases count with
      | none =>
          simp only [system, step] at hstep
          split at hstep <;> cases hstep
          rename_i hirq
          refine h.others rfl rfl rfl fun hflag => Or.inr ⟨hflag, ?_⟩
          simp [SignalDue, hirq]
      | some count =>
          simp only [system, step] at hstep
          split at hstep <;> cases hstep
          refine h.others rfl rfl rfl fun _ => Or.inl ?_
          exact Or.inr (Or.inr (Or.inr rfl))
  | handled =>
      simp only [system, step] at hstep
      split at hstep <;> cases hstep
      exact h.signalled rfl rfl rfl

/-! ## The secure world gets its time -/

/-- The step is one of a thread of the normal world that gets the processor, and enters
neither the secure world nor the kernel's error paths. -/
def Label.own : Label → Bool
  | .nsiqSignal | .decide | .wait | .wake false | .schedulerSignal | .waitSsiq (some _)
  | .handled => true
  | _ => false

/-- The scheduler is about to enter the secure world. -/
def HandsOver (s : Scheduling) : Prop :=
  s.pc = .yield ∨ s.pc = .nsiq

/-- A bound on the steps of the normal world before the scheduler enters the secure world. -/
def delay (s : Scheduling) : Nat :=
  2 * s.ssiqs + s.callers + (if s.irq = .handling then 1 else 0) + s.pc.distance

/-- The secure world is not idle, and the threads of the daemon live. -/
structure Busy (s : Scheduling) : Prop where
  attentive : s.Attentive
  flag : s.schedule ≠ mcFlagScheduleIdle
  scheduler : s.pc ≠ .terminated
  irqHandler : s.irq ≠ .terminated

/-- Every step of the normal world brings the scheduler closer to a fast call. -/
theorem Busy.step {l : Label} (h : s.Busy) (hl : l.own = true)
    (hstep : system.step s l = some t) : t.Busy ∧ t.delay < s.delay := by
  have hattentive := step_attentive h.attentive hstep
  cases l with
  | nsiq | fiq | yield | schedulerNsiq => cases hl
  | nsiqSignal =>
      simp only [system, Scheduling.step] at hstep
      split at hstep <;> cases hstep
      refine ⟨⟨hattentive, h.flag, h.scheduler, h.irqHandler⟩, ?_⟩
      simp only [delay, signal_ssiqs, signal_irq, signal_pc]
      omega
  | decide =>
      simp only [system, Scheduling.step] at hstep
      split at hstep <;> cases hstep
      rename_i hpc
      have hbusy : ¬ mcFlagScheduleIdle = s.schedule := fun hidle => h.flag hidle.symm
      by_cases hslice : s.timeslice = 0
      · have hnext : s.scheduleDecision =
            { s with
              timeslice := schedulingFreq
              pc := .nsiq
              handovers := s.handovers ++ [.nsiq] } := by
          rw [scheduleDecision, if_neg hbusy, if_pos hslice]
        rw [hnext] at hattentive ⊢
        refine ⟨⟨hattentive, h.flag, by simp, h.irqHandler⟩, ?_⟩
        simp [delay, hpc, SchedulerPc.distance]
      · have hnext : s.scheduleDecision =
            { s with
              timeslice := s.timeslice - 1
              pc := .yield
              handovers := s.handovers ++ [.yield] } := by
          rw [scheduleDecision, if_neg hbusy, if_neg hslice]
        rw [hnext] at hattentive ⊢
        refine ⟨⟨hattentive, h.flag, by simp, h.irqHandler⟩, ?_⟩
        simp [delay, hpc, SchedulerPc.distance]
  | wait =>
      simp only [system, Scheduling.step] at hstep
      split at hstep <;> cases hstep
      rename_i hpc
      refine ⟨⟨hattentive, h.flag, ?_, h.irqHandler⟩, ?_⟩
      · rw [tested_pc]
        split <;> simp
      · simp only [delay, tested_ssiqs, tested_callers, tested_irq, tested_pc, hpc]
        cases s.schedSync.enter.2 <;> simp [SchedulerPc.distance]
  | wake spurious =>
      cases spurious with
      | true => cases hl
      | false =>
          simp only [system, Scheduling.step] at hstep
          split at hstep <;> cases hstep
          rename_i hpc
          obtain ⟨hasleep, hwoken⟩ := hpc
          have hcount := (h.attentive.wakes hasleep).mp (by simpa using hwoken)
          have htest : s.schedSync.test.2 = true := by
            rw [CSemaphore.test, if_neg hcount]
          refine ⟨⟨hattentive, h.flag, ?_, h.irqHandler⟩, ?_⟩
          · rw [tested_pc, htest]
            simp
          · simp only [delay, tested_ssiqs, tested_callers, tested_irq, tested_pc, htest, hasleep]
            simp [SchedulerPc.distance]
  | schedulerSignal =>
      simp only [system, Scheduling.step] at hstep
      split at hstep <;> cases hstep
      rename_i hpc
      refine ⟨⟨hattentive, h.flag, by simp, h.irqHandler⟩, ?_⟩
      simp [delay, hpc, SchedulerPc.distance]
  | waitSsiq count =>
      cases count with
      | none => cases hl
      | some count =>
          simp only [system, Scheduling.step] at hstep
          split at hstep <;> cases hstep
          rename_i hpending
          refine ⟨⟨hattentive, h.flag, h.scheduler, by simp⟩, ?_⟩
          simp only [delay, hpending.1]
          simp
          omega
  | handled =>
      simp only [system, Scheduling.step] at hstep
      split at hstep <;> cases hstep
      rename_i hirq
      refine ⟨⟨hattentive, h.flag, h.scheduler, by simp⟩, ?_⟩
      simp [delay, hirq]

/-- As long as the scheduler has not reached a fast call, a thread can move. -/
theorem Busy.enabled (h : s.Busy) (hpc : ¬ s.HandsOver) :
    ∃ l t, Label.own l = true ∧ system.step s l = some t := by
  rw [HandsOver, not_or] at hpc
  cases hplace : s.pc with
  | decide => exact ⟨.decide, _, rfl, if_pos hplace⟩
  | idle => exact ⟨.wait, _, rfl, if_pos hplace⟩
  | nsiqSent => exact ⟨.schedulerSignal, _, rfl, if_pos hplace⟩
  | yield => exact absurd hplace hpc.1
  | nsiq => exact absurd hplace hpc.2
  | terminated => exact absurd hplace h.scheduler
  | asleep =>
      rcases h.attentive.told h.flag (Or.inr hplace) with hcount | hcallers | hssiqs | hirq
      · have hwoken := (h.attentive.wakes hplace).mpr hcount
        exact ⟨.wake false, _, rfl, if_pos ⟨hplace, Or.inl hwoken⟩⟩
      · exact ⟨.nsiqSignal, _, rfl, if_neg (Nat.pos_iff_ne_zero.mp hcallers)⟩
      · cases hirq : s.irq with
        | waiting => exact ⟨.waitSsiq (some 1), _, rfl, if_pos ⟨hirq, Nat.one_pos, hssiqs⟩⟩
        | handling => exact ⟨.handled, _, rfl, if_pos hirq⟩
        | terminated => exact absurd hirq h.irqHandler
      · exact ⟨.handled, _, rfl, if_pos hirq⟩

/-- Whenever the secure world is not idle, the threads of the normal world lead the scheduler
to a fast call: whatever order they move in, there are no more steps than `delay`, and
they do not come to a stop before. -/
theorem handsOver_run {schedule : UInt32} {signals ssiqs : Nat} {ls ms : List Label}
    (hrun : system.run (start schedule signals ssiqs) ls = some s)
    (hflag : s.schedule ≠ mcFlagScheduleIdle) (hscheduler : s.pc ≠ .terminated)
    (hirq : s.irq ≠ .terminated) (hms : ∀ m ∈ ms, Label.own m = true)
    (hown : system.run s ms = some t) :
    ms.length ≤ s.delay ∧
      (t.HandsOver ∨ ∃ l u, Label.own l = true ∧ system.step t l = some u) := by
  have hattentive : s.Attentive :=
    TransitionSystem.run_invariant_of_step (fun _ _ _ => step_attentive)
      (start_attentive schedule signals ssiqs) hrun
  have hbusy : s.Busy := ⟨hattentive, hflag, hscheduler, hirq⟩
  have hlength := TransitionSystem.run_length_le (fun _ _ _ h hl hstep => h.step hl hstep) hbusy hms
    hown
  obtain ⟨hbusy', hle⟩ := hlength
  refine ⟨by omega, ?_⟩
  by_cases hpc : t.HandsOver
  · exact Or.inl hpc
  · exact Or.inr (hbusy'.enabled hpc)

/-- The scheduler sleeps, and a thread has just sent an N-SIQ that has made the secure world
busy. -/
def sleepsBehindNsiq : List Label :=
  [.decide, .wait, .nsiq (some { schedule := 1, ssiq := false })]

/-- The thread signals the semaphore, and the scheduler wakes up. -/
def wakesUp : List Label :=
  [.nsiqSignal, .wake false]

theorem handsOver_run_sleepsBehindNsiq :
    ∃ s t, system.run (start mcFlagScheduleIdle 0 0) sleepsBehindNsiq = some s ∧
      s.pc = .asleep ∧ system.run s wakesUp = some t ∧ wakesUp.length ≤ s.delay ∧
      (t.HandsOver ∨ ∃ l u, Label.own l = true ∧ system.step t l = some u) := by
  refine ⟨_, _, rfl, rfl, rfl, ?_⟩
  exact handsOver_run (rfl : system.run (start mcFlagScheduleIdle 0 0) sleepsBehindNsiq = some _)
    (by decide) (by decide) (by decide) (by decide) rfl

/-! ## The time slices -/

/-- The fast calls so far: every sixth one is an N-SIQ, and the slice says how many are left
before the next one. -/
structure Sliced (s : Scheduling) : Prop where
  timeslice : s.timeslice + s.handovers.length % (schedulingFreq + 1) = schedulingFreq
  periodic : ∀ i handover, s.handovers[i]? = some handover →
    (handover = .nsiq ↔ i % (schedulingFreq + 1) = schedulingFreq)

theorem start_sliced (schedule : UInt32) (signals ssiqs : Nat) :
    (start schedule signals ssiqs).Sliced := by
  constructor
  · rfl
  · intro i handover h
    simp [start] at h

/-- One more fast call, of the kind that its place asks for. -/
theorem Sliced.append {handover : Handover} (h : s.Sliced)
    (hkind : handover = .nsiq ↔ s.handovers.length % (schedulingFreq + 1) = schedulingFreq) :
    ∀ i other, (s.handovers ++ [handover])[i]? = some other →
      (other = .nsiq ↔ i % (schedulingFreq + 1) = schedulingFreq) := by
  intro i other hi
  by_cases hlt : i < s.handovers.length
  · rw [List.getElem?_append_left hlt] at hi
    exact h.periodic i other hi
  · rw [List.getElem?_append_right (Nat.le_of_not_lt hlt), List.getElem?_singleton] at hi
    split at hi
    · rename_i hzero
      cases hi
      have hlast : i = s.handovers.length := by omega
      rwa [hlast]
    · cases hi

theorem Sliced.decision (h : s.Sliced) : s.scheduleDecision.Sliced := by
  have hslice := h.timeslice
  unfold scheduleDecision
  unfold schedulingFreq at hslice
  split
  · exact ⟨h.timeslice, h.periodic⟩
  · split
    · rename_i hzero
      constructor
      · simp only [List.length_append, List.length_singleton, schedulingFreq]
        omega
      · refine h.append (iff_of_true rfl ?_)
        unfold schedulingFreq
        omega
    · rename_i hzero
      constructor
      · simp only [List.length_append, List.length_singleton, schedulingFreq]
        omega
      · refine h.append (iff_of_false (by simp) ?_)
        unfold schedulingFreq
        omega

theorem step_slice {l : Label} (hl : l ≠ .decide) (hstep : system.step s l = some t) :
    t.timeslice = s.timeslice ∧ t.handovers = s.handovers := by
  cases l with
  | decide => exact absurd rfl hl
  | nsiq call =>
      cases call <;>
      · cases hstep
        exact ⟨rfl, rfl⟩
  | nsiqSignal | fiq | wait | wake | schedulerSignal | handled =>
      simp only [system, step] at hstep
      split at hstep <;> cases hstep
      exact ⟨rfl, rfl⟩
  | yield call | schedulerNsiq call =>
      simp only [system, step] at hstep
      split at hstep
      · cases call <;>
        · cases hstep
          exact ⟨rfl, rfl⟩
      · cases hstep
  | waitSsiq count =>
      cases count <;>
      · simp only [system, step] at hstep
        split at hstep <;> cases hstep
        exact ⟨rfl, rfl⟩

theorem step_sliced {l : Label} (h : s.Sliced) (hstep : system.step s l = some t) :
    t.Sliced := by
  by_cases hl : l = .decide
  · subst hl
    simp only [system, step] at hstep
    split at hstep <;> cases hstep
    exact h.decision
  · obtain ⟨hslice, hhandovers⟩ := step_slice hl hstep
    constructor
    · rw [hslice, hhandovers]
      exact h.timeslice
    · rw [hhandovers]
      exact h.periodic

/-- In every run, with any pauses in which the secure world is idle and the scheduler sleeps,
the fast calls of the scheduler are five yields and an N-SIQ, again and again. -/
theorem handovers_periodic {schedule : UInt32} {signals ssiqs : Nat} {ls : List Label}
    (hrun : system.run (start schedule signals ssiqs) ls = some s) {i : Nat}
    {handover : Handover} (hi : s.handovers[i]? = some handover) :
    handover = .nsiq ↔ i % (schedulingFreq + 1) = schedulingFreq := by
  have hsliced : s.Sliced :=
    TransitionSystem.run_invariant_of_step (fun _ _ _ => step_sliced)
      (start_sliced schedule signals ssiqs) hrun
  exact hsliced.periodic i handover hi

end Steps

/-- Five time slices, with a sleep before the last one, and the next decision. -/
def fiveSlices : List Label :=
  [.decide, .yield (some { schedule := 1, ssiq := false }),
    .decide, .yield (some { schedule := 1, ssiq := false }),
    .decide, .yield (some { schedule := 1, ssiq := false }),
    .decide, .yield (some { schedule := 0, ssiq := false }),
    .decide, .wait, .fiq { schedule := 1, ssiq := true }, .waitSsiq (some 1), .handled,
    .wake false, .decide, .yield (some { schedule := 1, ssiq := false }), .decide]

theorem handovers_periodic_fiveSlices :
    ∃ s, system.run (start 1 0 0) fiveSlices = some s ∧ s.handovers[5]? = some .nsiq ∧
      5 % (schedulingFreq + 1) = schedulingFreq := by
  refine ⟨_, rfl, rfl, ?_⟩
  exact (handovers_periodic (rfl : system.run (start 1 0 0) fiveSlices = some _)
    (show _ = some Handover.nsiq from rfl)).mp rfl

end Scheduling

end TrustZone

end Exynos8890.MobiCore
