import Exynos8890.Library.OrderedTable
import Exynos8890.MobiCore.ResultCodes

/-!
# Trustlet sessions

The session record of the daemon: its notification queue, its table of bulk
buffers and its two connections.  Objects that the daemon reaches through
pointers carry their address and an allocation number that is never reused, so
that a stale pointer can be told from a new object at the same address.

Main results:

- Theorem `queueNotification_cases`: what queueing can do to a record.
- Theorem `popBulkBuffs_eq`: popping until the table is empty visits every
  buffer of a session once.
-/

namespace Exynos8890.MobiCore

/-- `notification_t`. -/
structure Notification where
  sessionId : UInt32
  payload : Int32
deriving DecidableEq, Repr

/-- `CWsm`: a registered block of world-shared memory. -/
structure CWsm where
  virtAddr : UInt64
  len : UInt32
  handle : UInt32
  physAddr : UInt64
deriving DecidableEq, Repr

/-- The key of a buffer in `std::map<uint32_t, CWsm_ptr>`. -/
def CWsm.key (pWsm : CWsm) : Nat :=
  pWsm.handle.toNat

/-- `TrustletSession::buffers`. -/
abbrev BulkBuffers := OrderedTable CWsm.key

/-- `TrustletSession::TS_STATE`. -/
inductive TsState where
  | taRunning
  | taDead
  | closeSend
  | closed
deriving DecidableEq, Repr

/-- A `Connection *`; `NULL` is `none` of `Option ConnPtr`. -/
abbrev ConnPtr := Nat

/-- Allocation number of a session object: what a `TrustletSession *` refers to. -/
abbrev SessionRef := Nat

/-- `TrustletSession`, with the allocation number and the address of the object. -/
structure TrustletSession where
  ref : SessionRef
  addr : UInt64
  notifications : List Notification
  buffers : BulkBuffers
  sessionId : UInt32
  sessionMagic : UInt32
  deviceConnection : Option ConnPtr
  notificationConnection : Option ConnPtr
  gpLevel : UInt32
  sessionState : TsState

namespace TrustletSession

/-- The constructor; `sessionMagic` is the value `rand()` returned. -/
def new (ref : SessionRef) (addr : UInt64) (sessionMagic : UInt32)
    (deviceConnection : ConnPtr) (sessionId : UInt32) : TrustletSession where
  ref := ref
  addr := addr
  notifications := []
  buffers := OrderedTable.empty
  sessionId := sessionId
  sessionMagic := sessionMagic
  deviceConnection := some deviceConnection
  notificationConnection := none
  gpLevel := 0
  sessionState := .taRunning

/-! ## Connections -/

/-- The client has closed the session. -/
def disconnect (s : TrustletSession) : TrustletSession :=
  { s with deviceConnection := none, notificationConnection := none, sessionState := .closeSend }

/-- `session->notificationConnection = connection`. -/
def connect (connection : ConnPtr) (s : TrustletSession) : TrustletSession :=
  { s with notificationConnection := some connection }

/-! ## Notifications -/

/-- `notifications.pop()`. -/
def popNotification (s : TrustletSession) : TrustletSession :=
  { s with notifications := s.notifications.tail }

/-- A notification whose payload is a termination reason of a GP session. -/
def isExit (s : TrustletSession) (n : Notification) : Prop :=
  s.gpLevel = 1 ∧ n.payload ≠ 0

instance (s : TrustletSession) (n : Notification) : Decidable (s.isExit n) :=
  inferInstanceAs (Decidable (_ ∧ _))

/-- `TrustletSession::queueNotification`. -/
def queueNotification (n : Notification) (s : TrustletSession) : TrustletSession :=
  if s.sessionState = .taDead then s
  else
    let s := if s.isExit n then { s with sessionState := .taDead } else s
    -- another thread could soon delete a session that is being closed
    if s.sessionState = .closeSend then s
    else { s with notifications := s.notifications ++ [n] }

/-- Queueing drops the notification, appends it, or appends it and marks the
session dead; every other field stays. -/
theorem queueNotification_cases (n : Notification) (s : TrustletSession) :
    queueNotification n s = s ∨
    (¬ s.isExit n ∧ s.sessionState ≠ .taDead ∧ s.sessionState ≠ .closeSend ∧
      queueNotification n s = { s with notifications := s.notifications ++ [n] }) ∨
    (s.isExit n ∧ s.sessionState ≠ .taDead ∧
      queueNotification n s =
        { s with sessionState := .taDead, notifications := s.notifications ++ [n] }) := by
  by_cases hdead : s.sessionState = .taDead
  · left
    simp [queueNotification, hdead]
  · by_cases hexit : s.isExit n
    · right; right
      simp [queueNotification, hdead, hexit]
    · by_cases hclose : s.sessionState = .closeSend
      · left
        simp [queueNotification, hexit, hclose]
      · right; left
        simp [queueNotification, hdead, hexit, hclose]

@[simp]
theorem queueNotification_ref (n : Notification) (s : TrustletSession) :
    (queueNotification n s).ref = s.ref := by
  rcases queueNotification_cases n s with h | ⟨-, -, -, h⟩ | ⟨-, -, h⟩ <;> simp [h]

@[simp]
theorem queueNotification_addr (n : Notification) (s : TrustletSession) :
    (queueNotification n s).addr = s.addr := by
  rcases queueNotification_cases n s with h | ⟨-, -, -, h⟩ | ⟨-, -, h⟩ <;> simp [h]

@[simp]
theorem queueNotification_sessionMagic (n : Notification) (s : TrustletSession) :
    (queueNotification n s).sessionMagic = s.sessionMagic := by
  rcases queueNotification_cases n s with h | ⟨-, -, -, h⟩ | ⟨-, -, h⟩ <;> simp [h]

@[simp]
theorem queueNotification_sessionId (n : Notification) (s : TrustletSession) :
    (queueNotification n s).sessionId = s.sessionId := by
  rcases queueNotification_cases n s with h | ⟨-, -, -, h⟩ | ⟨-, -, h⟩ <;> simp [h]

@[simp]
theorem queueNotification_buffers (n : Notification) (s : TrustletSession) :
    (queueNotification n s).buffers = s.buffers := by
  rcases queueNotification_cases n s with h | ⟨-, -, -, h⟩ | ⟨-, -, h⟩ <;> simp [h]

@[simp]
theorem queueNotification_deviceConnection (n : Notification) (s : TrustletSession) :
    (queueNotification n s).deviceConnection = s.deviceConnection := by
  rcases queueNotification_cases n s with h | ⟨-, -, -, h⟩ | ⟨-, -, h⟩ <;> simp [h]

@[simp]
theorem queueNotification_notificationConnection (n : Notification) (s : TrustletSession) :
    (queueNotification n s).notificationConnection = s.notificationConnection := by
  rcases queueNotification_cases n s with h | ⟨-, -, -, h⟩ | ⟨-, -, h⟩ <;> simp [h]

@[simp]
theorem queueNotification_gpLevel (n : Notification) (s : TrustletSession) :
    (queueNotification n s).gpLevel = s.gpLevel := by
  rcases queueNotification_cases n s with h | ⟨-, -, -, h⟩ | ⟨-, -, h⟩ <;> simp [h]

theorem queueNotification_sessionState {n : Notification} {s : TrustletSession}
    (hgp : s.gpLevel ≠ 1) : (queueNotification n s).sessionState = s.sessionState := by
  rcases queueNotification_cases n s with h | ⟨-, -, -, h⟩ | ⟨hexit, -, -⟩
  · rw [h]
  · rw [h]
  · exact absurd hexit.1 hgp

theorem queueNotification_dead {n : Notification} {s : TrustletSession}
    (hdead : s.sessionState = .taDead) : queueNotification n s = s := by
  simp [queueNotification, hdead]

/-- Queueing an exit notification leaves the session dead. -/
theorem queueNotification_exit {n : Notification} {s : TrustletSession} (h : s.isExit n) :
    (queueNotification n s).sessionState = .taDead := by
  by_cases hdead : s.sessionState = .taDead <;> simp [queueNotification, hdead, h]

/-! ## Bulk buffers -/

/-- `TrustletSession::addBulkBuff`: a second buffer with the same handle is
deleted and the table stays as it is. -/
def addBulkBuff (pWsm : CWsm) (s : TrustletSession) : TrustletSession :=
  { s with buffers := (s.buffers.emplace pWsm).1 }

/-- `TrustletSession::removeBulkBuff`. -/
def removeBulkBuff (handle : UInt32) (s : TrustletSession) : TrustletSession :=
  { s with buffers := s.buffers.erase handle.toNat }

/-- `TrustletSession::findBulkBuff`: the handle is known with this length. -/
def findBulkBuff (s : TrustletSession) (handle lenBulkMem : UInt32) : Bool :=
  match s.buffers.find? handle.toNat with
  | none => false
  | some pWsm => pWsm.len == lenBulkMem

/-- Whether the session holds a buffer with this handle. -/
def holds (s : TrustletSession) (handle : UInt32) : Bool :=
  s.buffers.contains handle.toNat

/-- The loop `while ((pWsm = session->popBulkBuff()))`: the buffers in the order
in which they are popped. -/
def popBulkBuffs (s : TrustletSession) : List CWsm :=
  s.buffers.drain s.buffers.items.length

/-- Popping until the table is empty visits every buffer once. -/
theorem popBulkBuffs_eq (s : TrustletSession) : s.popBulkBuffs = s.buffers.items :=
  OrderedTable.drain_eq_items le_rfl

theorem holds_addBulkBuff (pWsm : CWsm) (s : TrustletSession) (handle : UInt32) :
    (addBulkBuff pWsm s).holds handle = (decide (pWsm.handle = handle) || s.holds handle) := by
  simp only [holds, addBulkBuff, OrderedTable.contains_emplace, CWsm.key, UInt32.toNat_inj]

theorem holds_removeBulkBuff (handle h : UInt32) (s : TrustletSession) :
    (removeBulkBuff handle s).holds h = (decide (h ≠ handle) && s.holds h) := by
  simp only [holds, removeBulkBuff, OrderedTable.contains_erase, ne_eq, UInt32.toNat_inj]

theorem holds_of_findBulkBuff {s : TrustletSession} {handle len : UInt32}
    (h : s.findBulkBuff handle len = true) : s.holds handle = true := by
  unfold findBulkBuff at h
  cases hfind : s.buffers.find? handle.toNat with
  | none => simp [hfind] at h
  | some pWsm => exact OrderedTable.contains_of_find? hfind

end TrustletSession

end Exynos8890.MobiCore
