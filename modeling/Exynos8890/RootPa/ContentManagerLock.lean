import Exynos8890.RootPa.LeaseLock

/-!
# Exclusive use of the content manager

Three services share the lock.  A client that has acquired it executes batches of commands.
A query takes the lock with a random uid for its own time.  A provisioning, an installation and
an unregistration take it with a random uid that they leave in a field of the service; the
native thread they start renews the lock through this field in its callbacks, and its last
callback releases it.  No lease expires here.

Main results:

- Definition `Services.step`: the calls and the callbacks, one access to the lock or to the
  field at a time.
- Theorem `exclusive_run`: under what conditions native work runs under the lock of the uid it
  uses, and a failed start gives the lock back.
- Theorem `not_exclusive`: the unregistration of a root container runs without the lock.
-/

namespace Exynos8890.RootPa

/-! ## The services -/

/-- `ProvisioningService`, `DeveloperService` and `OemService`. -/
inductive Service where
  | provisioning
  | developer
  | oem
deriving DecidableEq, Repr

/-- What a call does: `executeCmpCommands`, one of the queries of a container, of the version
or of the device, or the call of a service that starts a thread: `doProvisioning`,
`installTrustlet` and `installTrustletOrKey`, or `unregisterRootContainer`. -/
inductive CallKind where
  | batch
  | query
  | start (service : Service)
deriving DecidableEq, Repr

/-- Where a call is: it has passed the lock, has set the field, is in native code, is back from
it, is about to reset the field, or has returned. -/
inductive CallPhase where
  | entered
  | ready
  | native
  | back (ret : RootPaError)
  | resetting (ret : RootPaError)
  | returned (ret : RootPaError)
deriving DecidableEq, Repr

/-- Where the thread is that a call has started: at work, or in its exiting callback. -/
inductive ThreadPhase where
  | running
  | releasing
  | resetting
  | exited
deriving DecidableEq, Repr

/-- A call, the uid that it uses for the lock, and the thread that it has started. -/
structure Call where
  kind : CallKind
  uid : Int32
  phase : CallPhase
  thread : Option ThreadPhase
deriving DecidableEq, Repr

/-- Who has taken the lock: a client, or a call or its thread. -/
inductive Holder where
  | client (uid : Int32)
  | call (i : Nat)
deriving DecidableEq, Repr

/-- The lock and who has taken it, `doProvisioningLockSuid_` of each service, and the calls. -/
structure Services where
  lock : Int32
  holder : Option Holder
  doProvisioningLockSuid : Service → Int32
  calls : Nat → Option Call

namespace Services

def init : Services where
  lock := lockFree
  holder := none
  doProvisioningLockSuid := fun _ => 0
  calls := fun _ => none

/-- `acquireLock`, without the timer and the session. -/
def acquireLock (s : Services) (uid : Int32) (holder : Holder) : RootPaError × Services :=
  if uid = lockFree then (.illegalArgument, s)
  else if s.lock = lockFree then (.ok, { s with lock := uid, holder := some holder })
  else if s.lock = uid then (.ok, s)
  else (.lock, s)

/-- `releaseLock`, without the timer and the session. -/
def releaseLock (s : Services) (uid : Int32) : RootPaError × Services :=
  if uid = lockFree then (.illegalArgument, s)
  else if s.lock = lockFree then (.ok, s)
  else if s.lock = uid then (.ok, { s with lock := lockFree, holder := none })
  else (.lock, s)

/-- `locked`. -/
def locked (s : Services) (uid : Int32) : Bool :=
  s.lock ≠ uid ∧ uid ≠ lockFree

def setCall (s : Services) (i : Nat) (c : Call) : Services :=
  { s with calls := Function.update s.calls i (some c) }

def setSuid (s : Services) (service : Service) (uid : Int32) : Services :=
  { s with doProvisioningLockSuid := Function.update s.doProvisioningLockSuid service uid }

/-- A call that takes the lock for itself. -/
def enter (s : Services) (i : Nat) (kind : CallKind) (uid : Int32) : Option Services :=
  if s.calls i = none then
    let (ret, t) := s.acquireLock uid (.call i)
    if ret = .ok then some (t.setCall i ⟨kind, uid, .entered, none⟩)
    else some (s.setCall i ⟨kind, uid, .returned .lock, none⟩)
  else none

/-- What happens in a call, and in the thread that it has started. -/
inductive CallStep where
  | setSuid
  | begin
  | done (ret : RootPaError)
  | finish
  | reset
  | callback
  | exit
  | exitRelease
  | exitReset
deriving DecidableEq, Repr

/-- The calls of the clients, and their steps. -/
inductive Label where
  | acquireLock (uid : Int32)
  | releaseLock (uid : Int32)
  | executeCmpCommands (i : Nat) (uid : Int32)
  | query (i : Nat) (uid : Int32)
  | start (i : Nat) (service : Service) (uid : Int32)
  | call (i : Nat) (what : CallStep)
deriving DecidableEq, Repr

/-- The native code returns.  A start that succeeds has a thread. -/
def backFrom (c : Call) (ret : RootPaError) : Call :=
  match c.kind with
  | .batch => { c with phase := .returned ret }
  | .query => { c with phase := .back ret }
  | .start _ => { c with phase := .back ret, thread := if ret = .ok then some .running else none }

/-- What a call does behind its native code. -/
def finishCall (s : Services) (i : Nat) (c : Call) (ret : RootPaError) : Services :=
  match c.kind with
  | .batch | .start .developer => s.setCall i { c with phase := .returned ret }
  | .query => (s.releaseLock c.uid).2.setCall i { c with phase := .returned ret }
  | .start .provisioning =>
      if ret ≠ .ok then
        (s.releaseLock (s.doProvisioningLockSuid .provisioning)).2.setCall i
          { c with phase := .resetting ret }
      else s.setCall i { c with phase := .returned ret }
  | .start .oem =>
      (s.releaseLock (s.doProvisioningLockSuid .oem)).2.setCall i { c with phase := .returned ret }

/-- A step of a call or of its thread. -/
def stepCall (s : Services) (i : Nat) (c : Call) : CallStep → Option Services
  | .setSuid =>
      match c.kind, c.phase with
      | .start service, .entered =>
          some ((s.setSuid service c.uid).setCall i { c with phase := .ready })
      | _, _ => none
  | .begin =>
      match c.kind, c.phase with
      | .batch, .entered | .query, .entered | .start _, .ready =>
          some (s.setCall i { c with phase := .native })
      | _, _ => none
  | .done ret => if c.phase = .native then some (s.setCall i (backFrom c ret)) else none
  | .finish =>
      match c.phase with
      | .back ret => some (s.finishCall i c ret)
      | _ => none
  | .reset =>
      match c.kind, c.phase with
      | .start service, .resetting ret =>
          some ((s.setSuid service 0).setCall i { c with phase := .returned ret })
      | _, _ => none
  | .callback =>
      match c.kind, c.thread with
      | .start service, some .running =>
          some (s.acquireLock (s.doProvisioningLockSuid service) (.call i)).2
      | _, _ => none
  | .exit =>
      match c.kind, c.thread with
      | .start service, some .running =>
          some ((s.acquireLock (s.doProvisioningLockSuid service) (.call i)).2.setCall i
            { c with thread := some .releasing })
      | _, _ => none
  | .exitRelease =>
      match c.kind, c.thread with
      | .start service, some .releasing =>
          some ((s.releaseLock (s.doProvisioningLockSuid service)).2.setCall i
            { c with thread := some .resetting })
      | _, _ => none
  | .exitReset =>
      match c.kind, c.thread with
      | .start service, some .resetting =>
          some ((s.setSuid service 0).setCall i { c with thread := some .exited })
      | _, _ => none

def step (s : Services) : Label → Option Services
  | .acquireLock uid => some (s.acquireLock uid (.client uid)).2
  | .releaseLock uid => some (s.releaseLock uid).2
  | .executeCmpCommands i uid =>
      if s.calls i = none then
        some (s.setCall i
          ⟨.batch, uid, if s.locked uid then .returned .lock else .entered, none⟩)
      else none
  | .query i uid => s.enter i .query uid
  | .start i service uid => s.enter i (.start service) uid
  | .call i what =>
      match s.calls i with
      | some c => s.stepCall i c what
      | none => none

/-- The services as a transition system. -/
def system : TransitionSystem Services Label where
  step := step

/-! ## Exclusive use -/

/-- Native work runs that uses the uid: a batch, a query or the start of a thread, or the
thread until its exiting callback. -/
def Works (s : Services) (uid : Int32) : Prop :=
  ∃ i c, s.calls i = some c ∧ c.uid = uid ∧ (c.phase = .native ∨ c.thread = some .running)

/-- Native work runs under the lock of the uid that it uses, and a call that has failed to
start a thread has not kept the lock. -/
structure Exclusive (s : Services) : Prop where
  work : ∀ uid, s.Works uid → s.lock = uid ∧ uid ≠ lockFree
  error : ∀ i c service ret, s.calls i = some c → c.kind = .start service →
    c.phase = .returned ret → ret ≠ .ok → s.holder ≠ some (.call i)

end Services

/-- A call that starts a thread will still read the field, or reset it. -/
def CallPhase.usesSuid (service : Service) : CallPhase → Prop
  | .ready | .native | .resetting _ => True
  | .back ret => service = .oem ∨ (service = .provisioning ∧ ret ≠ .ok)
  | .entered | .returned _ => False

/-- The call or its thread will still read the field of the service, or reset it. -/
def Call.usesSuid (c : Call) (service : Service) : Prop :=
  c.kind = .start service ∧
    (c.phase.usesSuid service ∨ ∃ t, c.thread = some t ∧ t ≠ .exited)

namespace Services

/-- A batch has a uid, and it is not one that a call has taken the lock with.  A client
releases neither a lock that a call has taken nor one that its batch still needs.  A random uid
is not the one that owns the lock.  A call sets the field of its service when nobody else uses
it any more.  An installation does not fail in native code, and an unregistration that has
started its thread goes on when the thread has exited. -/
def Proper (s : Services) : Label → Prop
  | .acquireLock _ => True
  | .releaseLock uid => uid ≠ lockFree → s.lock = uid →
      (∀ i, s.holder ≠ some (.call i)) ∧
        ∀ i c, s.calls i = some c → c.kind = .batch → c.uid = uid →
          c.phase ≠ .entered ∧ c.phase ≠ .native
  | .executeCmpCommands _ uid =>
      uid ≠ lockFree ∧ (s.lock = uid → ∀ i, s.holder ≠ some (.call i))
  | .query _ uid | .start _ _ uid => uid ≠ lockFree → s.lock ≠ uid
  | .call i .setSuid => ∀ c service, s.calls i = some c → c.kind = .start service →
      ∀ j d, s.calls j = some d → ¬ d.usesSuid service
  | .call i .finish => ∀ c ret, s.calls i = some c → c.phase = .back ret →
      (c.kind = .start .developer → ret = .ok) ∧
        (c.kind = .start .oem → ret = .ok → c.thread = some .exited)
  | .call _ _ => True

end Services

/-! ## Sound states -/

/-- The field of the service has the uid of the call. -/
def CallPhase.needsSuid (service : Service) : CallPhase → Prop
  | .ready | .native => True
  | .back ret => service ≠ .developer ∧ ret ≠ .ok
  | .entered | .resetting _ | .returned _ => False

def Call.needsSuid (c : Call) (service : Service) : Prop :=
  c.kind = .start service ∧
    (c.phase.needsSuid service ∨ c.thread = some .running ∨ c.thread = some .releasing)

/-- The call, or its thread, has the lock. -/
def Call.hasLock (c : Call) : Prop :=
  match c.kind, c.phase with
  | .batch, _ => False
  | .query, .entered | .query, .native | .query, .back _ => True
  | .start _, .entered | .start _, .ready | .start _, .native => True
  | .start _, .back ret => ret ≠ .ok ∨ c.thread = some .running ∨ c.thread = some .releasing
  | .start _, .returned _ => c.thread = some .running ∨ c.thread = some .releasing
  | _, _ => False

section Exiting

variable {c : Call} (hphase : c.phase = .back .ok ∨ c.phase = .returned .ok)
  (hrunning : c.thread ≠ some .running) (hreleasing : c.thread ≠ some .releasing)

include hphase hrunning hreleasing

/-- A call whose thread has released the lock does not have it. -/
theorem Call.not_hasLock {service : Service} (hkind : c.kind = .start service) : ¬ c.hasLock := by
  unfold Call.hasLock
  rw [hkind]
  rcases hphase with hphase | hphase
  · rw [hphase]
    rintro (h | h | h)
    · exact h rfl
    · exact hrunning h
    · exact hreleasing h
  · rw [hphase]
    exact not_or.mpr ⟨hrunning, hreleasing⟩

theorem Call.not_needsSuid (service : Service) : ¬ c.needsSuid service := by
  rintro ⟨-, h | h⟩
  · rcases hphase with hphase | hphase
    · rw [hphase] at h
      exact h.2 rfl
    · rw [hphase] at h
      exact h
  · exact not_or.mpr ⟨hrunning, hreleasing⟩ h

end Exiting

theorem Call.usesSuid_of_needsSuid {c : Call} {service : Service} (h : c.needsSuid service) :
    c.usesSuid service := by
  obtain ⟨hkind, hneeds⟩ := h
  refine ⟨hkind, ?_⟩
  rcases hneeds with hphase | hthread | hthread
  · left
    cases hc : c.phase with
    | ready | native => trivial
    | back ret =>
        rw [hc] at hphase
        cases service with
        | developer => exact absurd rfl hphase.1
        | provisioning => exact Or.inr ⟨rfl, hphase.2⟩
        | oem => exact Or.inl rfl
    | entered | resetting ret | returned ret =>
        rw [hc] at hphase
        exact hphase.elim
  · exact Or.inr ⟨_, hthread, nofun⟩
  · exact Or.inr ⟨_, hthread, nofun⟩

namespace Services

/-- A call with the lock, the field and its thread. -/
structure CallSound (s : Services) (i : Nat) (c : Call) : Prop where
  lock : c.hasLock → s.holder = some (.call i) ∧ s.lock = c.uid
  batch : c.kind = .batch → c.phase = .entered ∨ c.phase = .native →
    s.holder = some (.client c.uid)
  thread : c.thread ≠ none → (∃ service, c.kind = .start service) ∧
    (c.phase = .back .ok ∨ c.phase = .returned .ok)
  suid : ∀ service, c.needsSuid service → s.doProvisioningLockSuid service = c.uid
  cleared : c.kind = .start .oem → c.phase = .back .ok → c.thread = some .exited →
    s.doProvisioningLockSuid .oem = lockFree
  error : ∀ service ret, c.kind = .start service →
    c.phase = .resetting ret ∨ (c.phase = .returned ret ∧ ret ≠ .ok) →
      s.holder ≠ some (.call i)

/-- The lock and its holder, and the calls, of which one at most uses the field of a service. -/
structure Sound (s : Services) : Prop where
  free : s.holder = none ↔ s.lock = lockFree
  client : ∀ uid, s.holder = some (.client uid) → s.lock = uid
  call : ∀ i c, s.calls i = some c → CallSound s i c
  idle : ∀ i, s.holder = some (.call i) → s.calls i ≠ none
  alone : ∀ service i j c d, s.calls i = some c → s.calls j = some d → c.usesSuid service →
    d.usesSuid service → i = j

theorem Sound.update {s s' : Services} {i : Nat} {c : Call} (hs : Sound s)
    (hcalls : s'.calls = Function.update s.calls i (some c))
    (hfree : s'.holder = none ↔ s'.lock = lockFree)
    (hclient : ∀ uid, s'.holder = some (.client uid) → s'.lock = uid)
    (hholder : ∀ j, s'.holder = some (.call j) → j = i ∨ s.holder = some (.call j))
    (hcall : CallSound s' i c)
    (hothers : ∀ j d, j ≠ i → s.calls j = some d → CallSound s j d → CallSound s' j d)
    (halone : ∀ service, c.usesSuid service → ∀ j d, j ≠ i → s.calls j = some d →
      ¬ d.usesSuid service) : Sound s' := by
  have hself : s'.calls i = some c := by
    rw [hcalls, Function.update_self]
  have hother : ∀ j, j ≠ i → s'.calls j = s.calls j := by
    intro j hj
    rw [hcalls, Function.update_of_ne hj]
  constructor
  · exact hfree
  · exact hclient
  · intro j d hd
    by_cases hj : j = i
    · rw [hj, hself] at hd
      cases hd
      rw [hj]
      exact hcall
    · rw [hother j hj] at hd
      exact hothers j d hj hd (hs.call j d hd)
  · intro j hj
    by_cases hji : j = i
    · rw [hji, hself]
      exact Option.some_ne_none c
    · rw [hother j hji]
      exact hs.idle j ((hholder j hj).resolve_left hji)
  · intro service j k d e hd he hdu heu
    by_cases hj : j = i
    · by_cases hk : k = i
      · exact hj.trans hk.symm
      · rw [hj, hself] at hd
        rw [hother k hk] at he
        cases hd
        exact absurd heu (halone service hdu k e hk he)
    · rw [hother j hj] at hd
      by_cases hk : k = i
      · rw [hk, hself] at he
        cases he
        exact absurd hdu (halone service heu j d hj hd)
      · rw [hother k hk] at he
        exact hs.alone service j k d e hd he hdu heu

section Frames

variable {s s' : Services} {j : Nat} {d : Call}

theorem CallSound.congr (hd : CallSound s j d) (hlock : s'.lock = s.lock)
    (hholder : s'.holder = s.holder)
    (hsuid : s'.doProvisioningLockSuid = s.doProvisioningLockSuid) : CallSound s' j d := by
  obtain ⟨hdlock, hbatch, hthread, hneeds, hcleared, herror⟩ := hd
  constructor
  · rw [hlock, hholder]
    exact hdlock
  · rw [hholder]
    exact hbatch
  · exact hthread
  · rw [hsuid]
    exact hneeds
  · rw [hsuid]
    exact hcleared
  · rw [hholder]
    exact herror

/-- The holder of the lock changes: the call does not have the lock and is no batch that needs
it. -/
theorem CallSound.holder (hd : CallSound s j d) (hlock : ¬ d.hasLock)
    (hbatch : d.kind = .batch → d.phase ≠ .entered ∧ d.phase ≠ .native)
    (hholder : s'.holder ≠ some (.call j))
    (hsuid : s'.doProvisioningLockSuid = s.doProvisioningLockSuid) : CallSound s' j d := by
  constructor
  · exact fun h => absurd h hlock
  · rintro hkind (h | h)
    · exact absurd h (hbatch hkind).1
    · exact absurd h (hbatch hkind).2
  · exact hd.thread
  · rw [hsuid]
    exact hd.suid
  · rw [hsuid]
    exact hd.cleared
  · exact fun _ _ _ _ => hholder

/-- The field of a service is set that the call does not use. -/
theorem CallSound.setSuid (hd : CallSound s j d) {service : Service} (uid : Int32)
    (huses : ¬ d.usesSuid service) : CallSound (s.setSuid service uid) j d := by
  constructor
  · exact hd.lock
  · exact hd.batch
  · exact hd.thread
  · intro other hneeds
    have hne : other ≠ service := by
      rintro rfl
      exact huses (Call.usesSuid_of_needsSuid hneeds)
    simp only [Services.setSuid, Function.update_of_ne hne]
    exact hd.suid other hneeds
  · intro hkind hphase hthread
    have hne : Service.oem ≠ service := by
      rintro rfl
      apply huses
      refine ⟨hkind, Or.inl ?_⟩
      rw [hphase]
      exact Or.inl rfl
    simp only [Services.setSuid, Function.update_of_ne hne]
    exact hd.cleared hkind hphase hthread
  · exact hd.error

/-- Nobody has the lock, and no batch needs it, when it is free. -/
theorem CallSound.holder_of_free (hd : CallSound s j d) (hfree : s.holder = none)
    (hholder : s'.holder ≠ some (.call j))
    (hsuid : s'.doProvisioningLockSuid = s.doProvisioningLockSuid) : CallSound s' j d := by
  apply hd.holder _ _ hholder hsuid
  · intro h
    have hheld := (hd.lock h).1
    rw [hfree] at hheld
    cases hheld
  · intro hkind
    have hnone : ¬ (d.phase = .entered ∨ d.phase = .native) := by
      intro h
      have hheld := hd.batch hkind h
      rw [hfree] at hheld
      cases hheld
    exact not_or.mp hnone

/-- When a call has the lock, no other call has it, and no batch needs it. -/
theorem CallSound.holder_of_call (hd : CallSound s j d) {i : Nat} (hj : j ≠ i)
    (hheld : s.holder = some (.call i)) (hholder : s'.holder = none)
    (hsuid : s'.doProvisioningLockSuid = s.doProvisioningLockSuid) : CallSound s' j d := by
  apply hd.holder _ _ _ hsuid
  · intro h
    have hown := (hd.lock h).1
    rw [hheld] at hown
    cases hown
    exact hj rfl
  · intro hkind
    have hnone : ¬ (d.phase = .entered ∨ d.phase = .native) := by
      intro h
      have hown := hd.batch hkind h
      rw [hheld] at hown
      cases hown
    exact not_or.mp hnone
  · rw [hholder]
    exact nofun

end Frames

section Lock

variable {s : Services} {uid : Int32}

theorem acquireLock_self (hlock : s.lock = uid) (huid : uid ≠ lockFree) (holder : Holder) :
    s.acquireLock uid holder = (.ok, s) := by
  unfold Services.acquireLock
  rw [if_neg huid, if_neg (fun h => huid (hlock.symm.trans h)), if_pos hlock]

theorem acquireLock_free (hlock : s.lock = lockFree) (huid : uid ≠ lockFree) (holder : Holder) :
    s.acquireLock uid holder = (.ok, { s with lock := uid, holder := some holder }) := by
  unfold Services.acquireLock
  rw [if_neg huid, if_pos hlock]

theorem acquireLock_other (hlock : s.lock ≠ lockFree) (hne : s.lock ≠ uid) (holder : Holder) :
    (s.acquireLock uid holder).1 ≠ .ok ∧ (s.acquireLock uid holder).2 = s := by
  unfold Services.acquireLock
  by_cases huid : uid = lockFree
  · rw [if_pos huid]
    exact ⟨nofun, rfl⟩
  · rw [if_neg huid, if_neg hlock, if_neg hne]
    exact ⟨nofun, rfl⟩

theorem acquireLock_illegal (holder : Holder) :
    s.acquireLock lockFree holder = (.illegalArgument, s) :=
  rfl

theorem releaseLock_self (hlock : s.lock = uid) (huid : uid ≠ lockFree) :
    s.releaseLock uid = (.ok, { s with lock := lockFree, holder := none }) := by
  unfold Services.releaseLock
  rw [if_neg huid, if_neg (fun h => huid (hlock.symm.trans h)), if_pos hlock]

/-- A release with another uid, or of a free lock, changes nothing. -/
theorem releaseLock_other (h : uid = lockFree ∨ s.lock ≠ uid) : (s.releaseLock uid).2 = s := by
  unfold Services.releaseLock
  split
  · rfl
  · rename_i huid
    split
    · rfl
    · rw [if_neg (h.resolve_left huid)]

/-- A service acquires the lock with the same result, and leaves the same lock. -/
theorem acquireLock_eq {b : BaseService} (hlock : b.lock = s.lock) (flag : Bool)
    (holder : Holder) :
    (b.acquireLock uid flag).1 = (s.acquireLock uid holder).1 ∧
      (b.acquireLock uid flag).2.lock = (s.acquireLock uid holder).2.lock := by
  unfold BaseService.acquireLock Services.acquireLock
  by_cases huid : uid = lockFree
  · simp [huid, hlock]
  · by_cases hfree : s.lock = lockFree
    · simp [huid, hlock, hfree]
    · by_cases hown : s.lock = uid
      · simp [huid, hlock, hown]
      · simp [huid, hlock, hfree, hown]

/-- It releases the lock with the same result, and leaves the same lock. -/
theorem releaseLock_eq {b : BaseService} (hlock : b.lock = s.lock) (flag : Bool) :
    (b.releaseLock uid flag).1 = (s.releaseLock uid).1 ∧
      (b.releaseLock uid flag).2.lock = (s.releaseLock uid).2.lock := by
  unfold BaseService.releaseLock Services.releaseLock
  by_cases huid : uid = lockFree
  · simp [huid, hlock]
  · by_cases hfree : s.lock = lockFree
    · simp [huid, hlock, hfree]
    · by_cases hown : s.lock = uid
      · simp [huid, hlock, hown]
      · simp [huid, hlock, hfree, hown]

end Lock

/-- The lock is free again. -/
def freed (s : Services) : Services :=
  { s with lock := lockFree, holder := none }

section Calls

variable {s : Services} {i : Nat} {c c' : Call}

theorem Sound.others (hs : Sound s) (hc : s.calls i = some c) {service : Service}
    (huses : c.usesSuid service) : ∀ j d, j ≠ i → s.calls j = some d → ¬ d.usesSuid service :=
  fun j d hj hd hdu => hj (hs.alone service j i d c hd hc hdu huses)

theorem Sound.setCall (hs : Sound s) (hc : s.calls i = some c) (hcall : CallSound s i c')
    (huses : ∀ service, c'.usesSuid service → c.usesSuid service) : Sound (s.setCall i c') := by
  refine hs.update rfl hs.free hs.client (fun j hj => Or.inr hj) (hcall.congr rfl rfl rfl) ?_ ?_
  · exact fun j d _ _ hd => hd.congr rfl rfl rfl
  · exact fun service h => hs.others hc (huses service h)

theorem Sound.release (hs : Sound s) (hc : s.calls i = some c)
    (hheld : s.holder = some (.call i)) (hcall : CallSound s.freed i c')
    (huses : ∀ service, c'.usesSuid service → c.usesSuid service) :
    Sound (s.freed.setCall i c') := by
  refine hs.update rfl (iff_of_true rfl rfl) nofun nofun (hcall.congr rfl rfl rfl) ?_ ?_
  · exact fun j d hj _ hd => hd.holder_of_call hj hheld rfl rfl
  · exact fun service h => hs.others hc (huses service h)

/-- A call sets the field of its service, which nobody else uses. -/
theorem Sound.setSuid (hs : Sound s) {service : Service} {uid : Int32}
    (hothers : ∀ j d, j ≠ i → s.calls j = some d → ¬ d.usesSuid service)
    (hcall : CallSound (s.setSuid service uid) i c')
    (huses : ∀ other, c'.usesSuid other → other = service) :
    Sound ((s.setSuid service uid).setCall i c') := by
  refine hs.update rfl hs.free hs.client (fun j hj => Or.inr hj) (hcall.congr rfl rfl rfl) ?_ ?_
  · exact fun j d hj hd hdsound => (hdsound.setSuid uid (hothers j d hj hd)).congr rfl rfl rfl
  · intro other h
    rw [huses other h]
    exact hothers

/-- The field of the service of a call is the one it uses. -/
theorem service_eq_of_usesSuid {service other : Service} (hkind : c.kind = .start service)
    (h : c.usesSuid other) : other = service := by
  have := h.1
  rw [hkind] at this
  cases this
  rfl

end Calls

/-! ## Steps -/

section Steps

variable {s t : Services} {i : Nat} {c : Call}

/-- A thread runs only behind a start that has succeeded. -/
theorem CallSound.thread_eq_none (hc : CallSound s i c) (hback : c.phase ≠ .back .ok)
    (hreturned : c.phase ≠ .returned .ok) : c.thread = none := by
  by_contra hthread
  rcases (hc.thread hthread).2 with hphase | hphase
  · exact hback hphase
  · exact hreturned hphase

theorem sound_begin (hs : Sound s) (hc : s.calls i = some c)
    (hstep : s.stepCall i c .begin = some t) : Sound t := by
  have hsound := hs.call i c hc
  obtain ⟨kind, uid, phase, thread⟩ := c
  simp only [stepCall] at hstep
  split at hstep
  · cases hstep
    have hthread : thread = none := hsound.thread_eq_none nofun nofun
    subst hthread
    apply hs.setCall hc
    · constructor
      · exact nofun
      · exact fun _ _ => hsound.batch rfl (Or.inl rfl)
      · exact fun h => absurd rfl h
      · exact fun _ h => nomatch h.1
      · exact nofun
      · exact nofun
    · exact fun _ h => nomatch h.1
  · cases hstep
    have hthread : thread = none := hsound.thread_eq_none nofun nofun
    subst hthread
    apply hs.setCall hc
    · constructor
      · exact fun _ => hsound.lock trivial
      · exact nofun
      · exact fun h => absurd rfl h
      · exact fun _ h => nomatch h.1
      · exact nofun
      · exact nofun
    · exact fun _ h => nomatch h.1
  · cases hstep
    have hthread : thread = none := hsound.thread_eq_none nofun nofun
    subst hthread
    apply hs.setCall hc
    · constructor
      · exact fun _ => hsound.lock trivial
      · exact nofun
      · exact fun h => absurd rfl h
      · exact fun other h => hsound.suid other ⟨h.1, Or.inl trivial⟩
      · exact nofun
      · rintro _ _ - (h | ⟨h, -⟩) <;> cases h
    · exact fun other h => ⟨h.1, Or.inl trivial⟩
  · cases hstep

theorem sound_done (hs : Sound s) (hc : s.calls i = some c) {ret : RootPaError}
    (hstep : s.stepCall i c (.done ret) = some t) : Sound t := by
  have hsound := hs.call i c hc
  obtain ⟨kind, uid, phase, thread⟩ := c
  simp only [stepCall] at hstep
  split at hstep
  · rename_i hphase
    cases hphase
    cases hstep
    have hthread : thread = none := hsound.thread_eq_none nofun nofun
    subst hthread
    apply hs.setCall hc
    · cases kind with
      | batch =>
          constructor
          · exact nofun
          · rintro - (h | h) <;> cases h
          · exact fun h => absurd rfl h
          · exact fun _ h => nomatch h.1
          · exact nofun
          · exact nofun
      | query =>
          constructor
          · exact fun _ => hsound.lock trivial
          · exact nofun
          · exact fun h => absurd rfl h
          · exact fun _ h => nomatch h.1
          · exact nofun
          · exact nofun
      | start service =>
          have hsuid : ∀ other, service = other → s.doProvisioningLockSuid other = uid :=
            fun other h => hsound.suid other ⟨congrArg CallKind.start h, Or.inl trivial⟩
          constructor
          · exact fun _ => hsound.lock trivial
          · exact nofun
          · intro h
            have hok : ret = .ok := by
              by_contra hret
              exact h (if_neg hret)
            exact ⟨⟨service, rfl⟩, Or.inl (congrArg CallPhase.back hok)⟩
          · rintro other ⟨h, -⟩
            cases h
            exact hsuid _ rfl
          · intro _ hback hexited
            have hok : ret = .ok := CallPhase.back.inj hback
            rw [backFrom, if_pos hok] at hexited
            cases hexited
          · rintro _ _ - (h | ⟨h, -⟩) <;> cases h
    · intro other h
      cases kind with
      | batch => exact nomatch h.1
      | query => exact nomatch h.1
      | start service => exact ⟨h.1, Or.inl trivial⟩
  · cases hstep

theorem sound_setSuid (hs : Sound s) (hc : s.calls i = some c)
    (hproper : s.Proper (.call i .setSuid)) (hstep : s.stepCall i c .setSuid = some t) :
    Sound t := by
  have hsound := hs.call i c hc
  have hothers := hproper c
  obtain ⟨kind, uid, phase, thread⟩ := c
  simp only [stepCall] at hstep
  split at hstep
  · rename_i service
    cases hstep
    have hthread : thread = none := hsound.thread_eq_none nofun nofun
    subst hthread
    apply hs.setSuid (fun j d _ hd => hothers service hc rfl j d hd)
    · constructor
      · exact fun _ => hsound.lock trivial
      · exact nofun
      · exact fun h => absurd rfl h
      · rintro other ⟨h, -⟩
        cases h
        exact Function.update_self _ _ _
      · exact nofun
      · rintro _ _ - (h | ⟨h, -⟩) <;> cases h
    · exact fun other h => service_eq_of_usesSuid rfl h
  · cases hstep

theorem sound_reset (hs : Sound s) (hc : s.calls i = some c)
    (hstep : s.stepCall i c .reset = some t) : Sound t := by
  have hsound := hs.call i c hc
  obtain ⟨kind, uid, phase, thread⟩ := c
  simp only [stepCall] at hstep
  split at hstep
  · rename_i service ret
    cases hstep
    have hthread : thread = none := hsound.thread_eq_none nofun nofun
    subst hthread
    apply hs.setSuid (hs.others hc ⟨rfl, Or.inl trivial⟩)
    · constructor
      · rintro (h | h) <;> cases h
      · exact nofun
      · exact fun h => absurd rfl h
      · rintro other ⟨-, h | h | h⟩
        · exact h.elim
        · cases h
        · cases h
      · exact nofun
      · exact fun _ _ _ _ => hsound.error service ret rfl (Or.inl rfl)
    · exact fun other h => service_eq_of_usesSuid rfl h
  · cases hstep

theorem Sound.lock_ne_free (hs : Sound s) {holder : Holder} (hheld : s.holder = some holder) :
    s.lock ≠ lockFree := by
  intro hfree
  rw [hs.free.mpr hfree] at hheld
  cases hheld

/-- A thread that has not released the lock has it, through the field of the service. -/
theorem Sound.threadHasLock (hs : Sound s) (hc : s.calls i = some c) {service : Service}
    (hkind : c.kind = .start service)
    (hthread : c.thread = some .running ∨ c.thread = some .releasing) :
    s.holder = some (.call i) ∧ s.lock = s.doProvisioningLockSuid service ∧
      s.doProvisioningLockSuid service ≠ lockFree := by
  have hsound := hs.call i c hc
  have hne : c.thread ≠ none := by
    rintro h
    rcases hthread with h' | h' <;> rw [h] at h' <;> cases h'
  have hlock : c.hasLock := by
    unfold Call.hasLock
    rw [hkind]
    rcases (hsound.thread hne).2 with hphase | hphase
    · rw [hphase]
      exact Or.inr hthread
    · rw [hphase]
      exact hthread
  obtain ⟨hholder, huid⟩ := hsound.lock hlock
  have hsuid := hsound.suid service ⟨hkind, Or.inr hthread⟩
  refine ⟨hholder, huid.trans hsuid.symm, ?_⟩
  rw [hsuid, ← huid]
  exact hs.lock_ne_free hholder

theorem sound_callback (hs : Sound s) (hc : s.calls i = some c)
    (hstep : s.stepCall i c .callback = some t) : Sound t := by
  simp only [stepCall] at hstep
  split at hstep
  · rename_i service hkind hthread
    cases hstep
    obtain ⟨-, hlock, hsuid⟩ := hs.threadHasLock hc hkind (Or.inl hthread)
    rw [acquireLock_self hlock hsuid]
    exact hs
  · cases hstep

theorem sound_exit (hs : Sound s) (hc : s.calls i = some c)
    (hstep : s.stepCall i c .exit = some t) : Sound t := by
  have hsound := hs.call i c hc
  simp only [stepCall] at hstep
  split at hstep
  · rename_i service hkind hthread
    cases hstep
    obtain ⟨hheld, hlock, hsuid⟩ := hs.threadHasLock hc hkind (Or.inl hthread)
    rw [acquireLock_self hlock hsuid]
    have hneeds := hsound.suid service ⟨hkind, Or.inr (Or.inl hthread)⟩
    obtain ⟨⟨_, -⟩, hphase⟩ := hsound.thread (by rw [hthread]; exact nofun)
    apply hs.setCall hc
    · constructor
      · exact fun _ => ⟨hheld, hlock.trans hneeds⟩
      · intro h
        rw [hkind] at h
        cases h
      · exact fun _ => ⟨⟨service, hkind⟩, hphase⟩
      · rintro other ⟨h, -⟩
        rw [hkind] at h
        cases h
        exact hneeds
      · exact nofun
      · intro other ret h hret
        exact hsound.error other ret h hret
    · exact fun other h => ⟨h.1, Or.inr ⟨.running, hthread, nofun⟩⟩
  · cases hstep

theorem sound_exitRelease (hs : Sound s) (hc : s.calls i = some c)
    (hstep : s.stepCall i c .exitRelease = some t) : Sound t := by
  have hsound := hs.call i c hc
  simp only [stepCall] at hstep
  split at hstep
  · rename_i service hkind hthread
    cases hstep
    obtain ⟨hheld, hlock, hsuid⟩ := hs.threadHasLock hc hkind (Or.inr hthread)
    rw [releaseLock_self hlock hsuid]
    obtain ⟨-, hphase⟩ := hsound.thread (by rw [hthread]; exact nofun)
    apply hs.release hc hheld
    · constructor
      · exact fun h => absurd h (Call.not_hasLock hphase nofun nofun hkind)
      · intro h
        rw [hkind] at h
        cases h
      · exact fun _ => ⟨⟨service, hkind⟩, hphase⟩
      · exact fun other h => absurd h
          (Call.not_needsSuid (c := { c with thread := some .resetting }) hphase nofun nofun other)
      · exact nofun
      · exact nofun
    · exact fun other h => ⟨h.1, Or.inr ⟨.releasing, hthread, nofun⟩⟩
  · cases hstep

theorem sound_exitReset (hs : Sound s) (hc : s.calls i = some c)
    (hstep : s.stepCall i c .exitReset = some t) : Sound t := by
  have hsound := hs.call i c hc
  simp only [stepCall] at hstep
  split at hstep
  · rename_i service hkind hthread
    cases hstep
    obtain ⟨-, hphase⟩ := hsound.thread (by rw [hthread]; exact nofun)
    have huses : c.usesSuid service := ⟨hkind, Or.inr ⟨.resetting, hthread, nofun⟩⟩
    apply hs.setSuid (hs.others hc huses)
    · constructor
      · exact fun h => absurd h (Call.not_hasLock hphase nofun nofun hkind)
      · intro h
        rw [hkind] at h
        cases h
      · exact fun _ => ⟨⟨service, hkind⟩, hphase⟩
      · exact fun other h => absurd h
          (Call.not_needsSuid (c := { c with thread := some .exited }) hphase nofun nofun other)
      · intro h _ _
        rw [hkind] at h
        cases h
        show Function.update s.doProvisioningLockSuid .oem 0 .oem = 0
        exact Function.update_self _ _ _
      · exact fun other ret h hret => hsound.error other ret h hret
    · exact fun other h => service_eq_of_usesSuid (c := { c with thread := some .exited }) hkind h
  · cases hstep

theorem Sound.returned (hs : Sound s) (hc : s.calls i = some c) {service : Service}
    (hkind : c.kind = .start service) (hphase : c.phase = .back .ok) :
    Sound (s.setCall i { c with phase := .returned .ok }) := by
  have hsound := hs.call i c hc
  apply hs.setCall hc
  · constructor
    · intro h
      apply hsound.lock
      unfold Call.hasLock at h ⊢
      rw [hkind] at h ⊢
      rw [hphase]
      exact Or.inr h
    · intro h
      rw [hkind] at h
      cases h
    · exact fun _ => ⟨⟨service, hkind⟩, Or.inr rfl⟩
    · rintro other ⟨h, hfield | hthread⟩
      · exact hfield.elim
      · exact hsound.suid other ⟨h, Or.inr hthread⟩
    · exact nofun
    · rintro _ ret - (h | ⟨h, hne⟩)
      · cases h
      · exact absurd (CallPhase.returned.inj h).symm hne
  · rintro other ⟨h, hfield | hthread⟩
    · exact hfield.elim
    · exact ⟨h, Or.inr hthread⟩

/-- A start that has failed in native code has the lock, and no thread. -/
theorem Sound.failed (hs : Sound s) (hc : s.calls i = some c) {service : Service}
    (hkind : c.kind = .start service) {ret : RootPaError} (hphase : c.phase = .back ret)
    (hret : ret ≠ .ok) : s.holder = some (.call i) ∧ s.lock = c.uid ∧ c.thread = none ∧
      (service ≠ .developer → s.doProvisioningLockSuid service = c.uid) := by
  have hsound := hs.call i c hc
  have hlock : c.hasLock := by
    unfold Call.hasLock
    rw [hkind, hphase]
    exact Or.inl hret
  obtain ⟨hheld, huid⟩ := hsound.lock hlock
  refine ⟨hheld, huid, ?_, ?_⟩
  · apply hsound.thread_eq_none
    · rw [hphase]
      exact fun h => hret (CallPhase.back.inj h)
    · rw [hphase]
      exact nofun
  · intro hservice
    apply hsound.suid service ⟨hkind, Or.inl ?_⟩
    rw [hphase]
    exact ⟨hservice, hret⟩

theorem sound_finish_query (hs : Sound s) (hc : s.calls i = some c) (hkind : c.kind = .query)
    {ret : RootPaError} (hphase : c.phase = .back ret) : Sound (s.finishCall i c ret) := by
  have hsound := hs.call i c hc
  have hlock : c.hasLock := by
    unfold Call.hasLock
    rw [hkind, hphase]
    trivial
  obtain ⟨hheld, huid⟩ := hsound.lock hlock
  have hfree : c.uid ≠ lockFree := by
    rw [← huid]
    exact hs.lock_ne_free hheld
  have hnot : ∀ service, c.kind ≠ .start service := by
    intro service h
    rw [hkind] at h
    cases h
  simp only [finishCall, hkind, releaseLock_self huid hfree]
  apply hs.release hc hheld
  · constructor
    · exact False.elim
    · exact nofun
    · intro h
      obtain ⟨⟨service, hstart⟩, -⟩ := hsound.thread h
      exact absurd hstart (hnot service)
    · exact fun _ h => nomatch h.1
    · exact nofun
    · exact nofun
  · exact fun _ h => nomatch h.1

/-- A provisioning that has failed releases the lock through the field. -/
theorem sound_finish_provisioning (hs : Sound s) (hc : s.calls i = some c)
    (hkind : c.kind = .start .provisioning) {ret : RootPaError} (hphase : c.phase = .back ret) :
    Sound (s.finishCall i c ret) := by
  by_cases hret : ret = .ok
  · subst hret
    have hreturned := hs.returned hc hkind hphase
    simpa only [finishCall, hkind, ne_eq, not_true_eq_false, if_false] using hreturned
  · obtain ⟨hheld, huid, hthread, hsuid⟩ := hs.failed hc hkind hphase hret
    have hlock : s.lock = s.doProvisioningLockSuid .provisioning :=
      huid.trans (hsuid nofun).symm
    have hfree : s.doProvisioningLockSuid .provisioning ≠ lockFree := by
      rw [← hlock]
      exact hs.lock_ne_free hheld
    have huses : c.usesSuid .provisioning := by
      refine ⟨hkind, Or.inl ?_⟩
      rw [hphase]
      exact Or.inr ⟨rfl, hret⟩
    simp only [finishCall, hkind, ne_eq, hret, not_false_eq_true, if_true,
      releaseLock_self hlock hfree]
    apply hs.release hc hheld
    · constructor
      · exact False.elim
      · exact nofun
      · exact fun h => absurd hthread h
      · rintro _ ⟨-, h | h | h⟩
        · exact h.elim
        · rw [hthread] at h
          cases h
        · rw [hthread] at h
          cases h
      · exact nofun
      · exact nofun
    · intro other h
      rw [service_eq_of_usesSuid rfl h]
      exact huses

/-- An unregistration releases the lock through the field, which is reset when its thread has
exited. -/
theorem sound_finish_oem (hs : Sound s) (hc : s.calls i = some c) (hkind : c.kind = .start .oem)
    {ret : RootPaError} (hphase : c.phase = .back ret)
    (hexited : ret = .ok → c.thread = some .exited) : Sound (s.finishCall i c ret) := by
  have hsound := hs.call i c hc
  by_cases hret : ret = .ok
  · have hreturned := hs.returned hc hkind (hret ▸ hphase)
    have hcleared := hsound.cleared hkind (hret ▸ hphase) (hexited hret)
    simp only [finishCall, hkind, hcleared, releaseLock_other (Or.inl rfl), hret]
    simpa only [hkind] using hreturned
  · obtain ⟨hheld, huid, hthread, hsuid⟩ := hs.failed hc hkind hphase hret
    have hlock : s.lock = s.doProvisioningLockSuid .oem := huid.trans (hsuid nofun).symm
    have hfree : s.doProvisioningLockSuid .oem ≠ lockFree := by
      rw [← hlock]
      exact hs.lock_ne_free hheld
    have huses : c.usesSuid .oem := by
      refine ⟨hkind, Or.inl ?_⟩
      rw [hphase]
      exact Or.inl rfl
    simp only [finishCall, hkind, releaseLock_self hlock hfree]
    apply hs.release hc hheld
    · constructor
      · intro h
        rcases h with h | h
        · rw [hthread] at h
          cases h
        · rw [hthread] at h
          cases h
      · exact nofun
      · exact fun h => absurd hthread h
      · rintro _ ⟨-, h | h | h⟩
        · exact h.elim
        · rw [hthread] at h
          cases h
        · rw [hthread] at h
          cases h
      · exact nofun
      · exact nofun
    · intro other h
      rw [service_eq_of_usesSuid rfl h]
      exact huses

theorem sound_finish (hs : Sound s) (hc : s.calls i = some c)
    (hproper : s.Proper (.call i .finish)) (hstep : s.stepCall i c .finish = some t) :
    Sound t := by
  simp only [stepCall] at hstep
  split at hstep
  · rename_i ret hphase
    cases hstep
    obtain ⟨hdeveloper, hoem⟩ := hproper c ret hc hphase
    cases hkind : c.kind with
    | batch =>
        have hsound := hs.call i c hc
        obtain ⟨kind, uid, phase, thread⟩ := c
        cases hkind
        apply hs.setCall hc
        · constructor
          · exact False.elim
          · rintro - (h | h) <;> cases h
          · exact fun h => nomatch (hsound.thread h).1
          · exact fun _ h => nomatch h.1
          · exact nofun
          · exact nofun
        · exact fun _ h => nomatch h.1
    | query => exact sound_finish_query hs hc hkind hphase
    | start service =>
        cases service with
        | provisioning => exact sound_finish_provisioning hs hc hkind hphase
        | developer =>
            have hok := hdeveloper hkind
            subst hok
            have hreturned := hs.returned hc hkind hphase
            simpa only [finishCall, hkind] using hreturned
        | oem => exact sound_finish_oem hs hc hkind hphase (hoem hkind)
  · cases hstep

theorem sound_stepCall (hs : Sound s) (hc : s.calls i = some c) {what : CallStep}
    (hproper : s.Proper (.call i what)) (hstep : s.stepCall i c what = some t) : Sound t := by
  cases what with
  | setSuid => exact sound_setSuid hs hc hproper hstep
  | begin => exact sound_begin hs hc hstep
  | done ret => exact sound_done hs hc hstep
  | finish => exact sound_finish hs hc hproper hstep
  | reset => exact sound_reset hs hc hstep
  | callback => exact sound_callback hs hc hstep
  | exit => exact sound_exit hs hc hstep
  | exitRelease => exact sound_exitRelease hs hc hstep
  | exitReset => exact sound_exitReset hs hc hstep

theorem sound_acquireLock (hs : Sound s) (uid : Int32) :
    Sound (s.acquireLock uid (.client uid)).2 := by
  by_cases huid : uid = lockFree
  · rw [huid, acquireLock_illegal]
    exact hs
  · by_cases hfree : s.lock = lockFree
    · rw [acquireLock_free hfree huid]
      have hnone := hs.free.mpr hfree
      constructor
      · exact iff_of_false nofun huid
      · intro other h
        cases h
        rfl
      · intro j d hd
        exact (hs.call j d hd).holder_of_free hnone nofun rfl
      · exact nofun
      · exact hs.alone
    · by_cases hown : s.lock = uid
      · rw [acquireLock_self hown huid]
        exact hs
      · rw [(acquireLock_other hfree hown _).2]
        exact hs

theorem sound_releaseLock (hs : Sound s) (uid : Int32) (hproper : s.Proper (.releaseLock uid)) :
    Sound (s.releaseLock uid).2 := by
  by_cases h : uid = lockFree ∨ s.lock ≠ uid
  · rw [releaseLock_other h]
    exact hs
  · have huid : uid ≠ lockFree := fun h' => h (Or.inl h')
    have hown : s.lock = uid := by
      by_contra h'
      exact h (Or.inr h')
    obtain ⟨hcall, hbatch⟩ := hproper huid hown
    rw [releaseLock_self hown huid]
    constructor
    · exact iff_of_true rfl rfl
    · exact nofun
    · intro j d hd
      have hsound := hs.call j d hd
      refine hsound.holder ?_ ?_ nofun rfl
      · exact fun hlock => hcall j (hsound.lock hlock).1
      · intro hkind
        have hnone : ¬ (d.phase = .entered ∨ d.phase = .native) := by
          intro hphase
          have hclient := hs.client _ (hsound.batch hkind hphase)
          have hactive := hbatch j d hd hkind (hclient.symm.trans hown)
          rcases hphase with hphase | hphase
          · exact hactive.1 hphase
          · exact hactive.2 hphase
        exact not_or.mp hnone
    · exact nofun
    · exact hs.alone

/-- A call that is new has returned at once, or is a batch under the lock of its client. -/
theorem Sound.newCall (hs : Sound s) (hcall : CallSound s i c)
    (huses : ∀ service, ¬ c.usesSuid service) : Sound (s.setCall i c) := by
  refine hs.update rfl hs.free hs.client (fun j hj => Or.inr hj) (hcall.congr rfl rfl rfl) ?_ ?_
  · exact fun j d _ _ hd => hd.congr rfl rfl rfl
  · exact fun service h => absurd h (huses service)

theorem Sound.refused (hs : Sound s) (hnone : s.calls i = none) (kind : CallKind) (uid : Int32) :
    Sound (s.setCall i ⟨kind, uid, .returned .lock, none⟩) := by
  apply hs.newCall
  · constructor
    · intro h
      cases kind with
      | batch | query => exact h.elim
      | start service => rcases h with h | h <;> cases h
    · rintro - (h | h) <;> cases h
    · exact fun h => absurd rfl h
    · rintro _ ⟨-, h | h | h⟩
      · exact h.elim
      · cases h
      · cases h
    · exact nofun
    · exact fun _ _ _ _ hheld => hs.idle i hheld hnone
  · rintro _ ⟨-, h | ⟨t, h, -⟩⟩
    · exact h.elim
    · cases h

theorem sound_executeCmpCommands (hs : Sound s) (hnone : s.calls i = none) {uid : Int32}
    (hproper : s.Proper (.executeCmpCommands i uid)) :
    Sound (s.setCall i
      ⟨.batch, uid, if s.locked uid then .returned .lock else .entered, none⟩) := by
  obtain ⟨huid, hclient⟩ := hproper
  by_cases hlocked : s.locked uid
  · rw [if_pos hlocked]
    exact hs.refused hnone .batch uid
  · rw [if_neg hlocked]
    have hown : s.lock = uid := by
      by_contra h
      exact hlocked (decide_eq_true ⟨h, huid⟩)
    have hheld : s.holder = some (.client uid) := by
      cases hholder : s.holder with
      | none => exact absurd (hown.symm.trans (hs.free.mp hholder)) huid
      | some holder =>
          cases holder with
          | client other =>
              have hother := hs.client other hholder
              rw [hown] at hother
              rw [hother]
          | call j => exact absurd hholder (hclient hown j)
    apply hs.newCall
    · constructor
      · exact False.elim
      · exact fun _ _ => hheld
      · exact fun h => absurd rfl h
      · exact fun _ h => nomatch h.1
      · exact nofun
      · exact nofun
    · exact fun _ h => nomatch h.1

theorem sound_enter (hs : Sound s) (kind : CallKind) (hkind : kind ≠ .batch) {uid : Int32}
    (hproper : uid ≠ lockFree → s.lock ≠ uid) (hstep : s.enter i kind uid = some t) :
    Sound t := by
  unfold enter at hstep
  split at hstep
  · rename_i hnone
    by_cases huid : uid = lockFree
    · rw [huid, acquireLock_illegal] at hstep
      cases hstep
      exact hs.refused hnone kind lockFree
    · by_cases hfree : s.lock = lockFree
      · rw [acquireLock_free hfree huid] at hstep
        cases hstep
        have hholder := hs.free.mpr hfree
        refine hs.update rfl (iff_of_false nofun huid) nofun ?_ ?_ ?_ ?_
        · intro j h
          cases h
          exact Or.inl rfl
        · constructor
          · exact fun _ => ⟨rfl, rfl⟩
          · exact fun h => absurd h hkind
          · exact fun h => absurd rfl h
          · rintro _ ⟨-, h | h | h⟩
            · exact h.elim
            · cases h
            · cases h
          · exact nofun
          · rintro _ _ - (h | ⟨h, -⟩) <;> cases h
        · intro j d hj _ hd
          refine hd.holder_of_free hholder ?_ rfl
          intro h
          cases h
          exact hj rfl
        · rintro _ ⟨-, h | ⟨_, h, -⟩⟩
          · exact h.elim
          · cases h
      · obtain ⟨hret, -⟩ := acquireLock_other hfree (hproper huid) (.call i)
        simp only [hret, if_false] at hstep
        cases hstep
        exact hs.refused hnone kind uid
  · cases hstep

end Steps

theorem sound_init : Sound init := by
  constructor
  · exact iff_of_true rfl rfl
  · intro uid h
    cases h
  · intro i c h
    cases h
  · intro i h
    cases h
  · intro service i j c d h
    cases h

theorem sound_step {s t : Services} {l : Label} (hs : Sound s) (hproper : s.Proper l)
    (hstep : step s l = some t) : Sound t := by
  cases l with
  | acquireLock uid =>
      cases hstep
      exact sound_acquireLock hs uid
  | releaseLock uid =>
      cases hstep
      exact sound_releaseLock hs uid hproper
  | executeCmpCommands i uid =>
      rw [step] at hstep
      split at hstep
      · rename_i hnone
        cases hstep
        exact sound_executeCmpCommands hs hnone hproper
      · cases hstep
  | query i uid => exact sound_enter hs .query nofun hproper hstep
  | start i service uid => exact sound_enter hs (.start service) nofun hproper hstep
  | call i what =>
      rw [step] at hstep
      split at hstep
      · rename_i c hc
        exact sound_stepCall hs hc hproper hstep
      · cases hstep

/-- In a sound state the content manager is used exclusively. -/
theorem Sound.exclusive {s : Services} (hs : Sound s) : Exclusive s := by
  constructor
  · rintro uid ⟨i, c, hc, rfl, hphase | hthread⟩
    · have hsound := hs.call i c hc
      cases hkind : c.kind with
      | batch =>
          have hheld := hsound.batch hkind (Or.inr hphase)
          have hlock := hs.client _ hheld
          refine ⟨hlock, ?_⟩
          rw [← hlock]
          exact hs.lock_ne_free hheld
      | query | start =>
          have hlock : c.hasLock := by
            unfold Call.hasLock
            rw [hkind, hphase]
            trivial
          obtain ⟨hheld, huid⟩ := hsound.lock hlock
          refine ⟨huid, ?_⟩
          rw [← huid]
          exact hs.lock_ne_free hheld
    · have hsound := hs.call i c hc
      have hne : c.thread ≠ none := by
        rw [hthread]
        exact nofun
      obtain ⟨⟨service, hkind⟩, -⟩ := hsound.thread hne
      obtain ⟨-, hlock, hfree⟩ := hs.threadHasLock hc hkind (Or.inl hthread)
      have hsuid := hsound.suid service ⟨hkind, Or.inr (Or.inl hthread)⟩
      rw [hsuid] at hlock hfree
      exact ⟨hlock, hfree⟩
  · intro i c service ret hc hkind hphase hret
    exact (hs.call i c hc).error service ret hkind (Or.inr ⟨hphase, hret⟩)

/-- In every run of proper steps the content manager is used exclusively. -/
theorem exclusive_run (ls : List Label) (s : Services) (hproper : system.StepsMeet Proper init ls)
    (hrun : system.run init ls = some s) : Exclusive s := by
  have hs : Sound s := TransitionSystem.run_invariant (I := Sound)
    (fun _ _ _ hs hproper hstep => sound_step hs hproper hstep) sound_init hproper hrun
  exact hs.exclusive

/-- A client executes a batch under its lock. -/
def clientBatch : List Label :=
  [.acquireLock 1, .executeCmpCommands 0 1, .call 0 .begin]

theorem exclusive_clientBatch :
    ∃ s, system.run init clientBatch = some s ∧ s.Works 1 ∧ Exclusive s := by
  refine ⟨_, rfl, ⟨0, _, rfl, rfl, Or.inl rfl⟩, ?_⟩
  apply exclusive_run clientBatch
  · constructor
    · trivial
    · intro s hs
      cases hs
      constructor
      · constructor
        · decide
        · intro _ i h
          cases h
      · intro t ht
        cases ht
        constructor
        · trivial
        · intro _ _
          trivial
  · rfl

/-- The call of an unregistration returns as soon as its thread is there. -/
def unregisterRootContainer : List Label :=
  [.start 0 .oem 5, .call 0 .setSuid, .call 0 .begin, .call 0 (.done .ok), .call 0 .finish]

/-- It has released the lock, and its thread goes on without it. -/
theorem not_exclusive : ¬ ∀ ls s, system.run init ls = some s → Exclusive s := by
  intro h
  have hexclusive := h unregisterRootContainer _ rfl
  have hworks := hexclusive.work 5 ⟨0, _, rfl, rfl, Or.inr rfl⟩
  exact absurd hworks.1 (by decide)

end Services

end Exynos8890.RootPa
