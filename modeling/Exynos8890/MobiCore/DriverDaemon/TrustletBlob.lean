import Exynos8890.Library.ReceiveAll
import Exynos8890.Library.StreamReader
import Exynos8890.MobiCore.DriverDaemon.Daemon

/-!
# Receiving a trustlet

A client that opens a trustlet announces its size and sends it.  The daemon receives it in a
loop that ends when nothing is missing or a receive fails.  A peer that has closed the
connection is neither: its receives return no bytes, again and again.

Main results:

- Definition `receiveTrustlet`: `processOpenTrustlet` after a number of receives.
- Theorem `receivesTrustlet_iff`: the command ends, with the announced bytes when it opens the
  session, exactly when the peer does not fall silent too early.
- Theorem `not_receivesTrustlet`: a peer that closes at once is waited for forever.
-/

namespace Exynos8890.MobiCore

/-- The results of `Connection::readData` for one receive after another.  A negative result is
`none`, and a positive one the bytes that are there for the receive. -/
abbrev ReadResults := Nat → Option (List UInt8)

/-- `recv` transfers no more than fits a positive `int32_t`. -/
def ReadResults.received (results : ReadResults) : Nat → Option (List UInt8) :=
  fun i => (results i).map (List.take StreamReader.maxReceive)

/-- A client that sends a trustlet: the fields of the command, whether the buffer can be
allocated, the receives, and what registry and kernel module make of the trustlet. -/
structure TrustletSender where
  conn : ConnPtr
  cmd : CmdOpenSession
  trustletLen : UInt32
  allocated : Bool
  results : ReadResults
  answers : List UInt8 → OpenAnswers

namespace Daemon

/-- The loop of `processOpenTrustlet` after `k` receives. -/
def receiveLoop (sender : TrustletSender) (k : Nat) : ReceiveAll.Status UInt8 :=
  ReceiveAll.loop sender.results.received sender.trustletLen.toNat k

/-- `processOpenTrustlet` after `k` receives: there is no result while it is in its loop. -/
def receiveTrustlet (sender : TrustletSender) (d : Daemon) (k : Nat) : Option Daemon :=
  if sender.conn ∉ d.opened then some (d.writeResult sender.conn mcDrvErrDaemonDeviceNotOpen)
  else if sender.allocated = false then some (d.writeResult sender.conn mcDrvErrDaemonSocket)
  else
    match receiveLoop sender k with
    | .receiving _ => none
    | .failed received =>
        some (d.processOpenTrustlet sender.conn sender.cmd false (sender.answers received))
    | .complete payload =>
        some (d.processOpenTrustlet sender.conn sender.cmd true (sender.answers payload))

/-- The command ends, everything is stored in the buffer, and behind the loop the session is
opened with as many bytes as were announced, or the command is refused. -/
structure ReceivesTrustlet (sender : TrustletSender) (d : Daemon) : Prop where
  ends : ∃ k t, d.receiveTrustlet sender k = some t
  inside : ∀ k, (receiveLoop sender k).received.length ≤ sender.trustletLen.toNat
  opens : ∀ k t, d.receiveTrustlet sender k = some t →
    (∃ code, t = d.writeResult sender.conn code) ∨
      ∃ payload, payload.length = sender.trustletLen.toNat ∧
        t = d.openServiceBlob sender.conn sender.cmd (sender.answers payload)

/-- The peer falls silent while the daemon waits for the rest of the trustlet. -/
def WaitsForever (sender : TrustletSender) (d : Daemon) : Prop :=
  sender.conn ∈ d.opened ∧ sender.allocated = true ∧
    ReceiveAll.Starved sender.results.received sender.trustletLen.toNat

section

variable {sender : TrustletSender} {d : Daemon}

/-- Before the loop, and for a loop that has ended, there is a result. -/
theorem receiveTrustlet_isSome {k : Nat} :
    (∃ t, d.receiveTrustlet sender k = some t) ↔
      (sender.conn ∈ d.opened → sender.allocated = true → (receiveLoop sender k).Ended) := by
  unfold receiveTrustlet
  by_cases hopened : sender.conn ∈ d.opened
  · by_cases hallocated : sender.allocated = true
    · cases hloop : receiveLoop sender k <;>
        simp [hopened, hallocated, ReceiveAll.Status.Ended]
    · simp [hopened, hallocated]
  · simp [hopened]

theorem receiveTrustlet_opens {k : Nat} {t : Daemon} (h : d.receiveTrustlet sender k = some t) :
    (∃ code, t = d.writeResult sender.conn code) ∨
      ∃ payload, payload.length = sender.trustletLen.toNat ∧
        t = d.openServiceBlob sender.conn sender.cmd (sender.answers payload) := by
  unfold receiveTrustlet at h
  by_cases hopened : sender.conn ∈ d.opened
  · rw [if_neg (not_not_intro hopened)] at h
    by_cases hallocated : sender.allocated = false
    · rw [if_pos hallocated] at h
      cases h
      exact Or.inl ⟨_, rfl⟩
    · rw [if_neg hallocated] at h
      cases hloop : receiveLoop sender k with
      | receiving received => simp [hloop] at h
      | failed received =>
          simp only [hloop, processOpenTrustlet, hopened, not_true_eq_false, if_false, if_true,
            Option.some.injEq] at h
          exact Or.inl ⟨_, h.symm⟩
      | complete payload =>
          simp only [hloop, processOpenTrustlet, hopened, not_true_eq_false, if_false,
            Bool.true_eq_false, Option.some.injEq] at h
          exact Or.inr ⟨payload, ReceiveAll.length_eq_of_complete hloop, h.symm⟩
  · rw [if_pos hopened] at h
    cases h
    exact Or.inl ⟨_, rfl⟩

end

/-- The command ends exactly when the peer does not fall silent while the daemon waits. -/
theorem receivesTrustlet_iff (sender : TrustletSender) (d : Daemon) :
    ReceivesTrustlet sender d ↔ ¬ WaitsForever sender d := by
  have hends : (∃ k t, d.receiveTrustlet sender k = some t) ↔ ¬ WaitsForever sender d := by
    simp only [receiveTrustlet_isSome, WaitsForever, not_and, ← ReceiveAll.ends_iff]
    constructor
    · rintro ⟨k, hk⟩ hopened hallocated
      exact ⟨k, hk hopened hallocated⟩
    · intro h
      by_cases hloop : sender.conn ∈ d.opened ∧ sender.allocated = true
      · obtain ⟨k, hk⟩ := h hloop.1 hloop.2
        exact ⟨k, fun _ _ => hk⟩
      · exact ⟨0, fun hopened hallocated => absurd ⟨hopened, hallocated⟩ hloop⟩
  constructor
  · exact fun h => hends.mp h.ends
  · exact fun h => ⟨hends.mpr h, ReceiveAll.length_received_le _ _, fun _ _ =>
      receiveTrustlet_opens⟩

/-- A client that announces one byte and closes the connection. -/
def closingSender : TrustletSender where
  conn := 0
  cmd := { tci := 0, handle := 0, len := 0 }
  trustletLen := 1
  allocated := true
  results := fun _ => some []
  answers := fun _ =>
    { regObj := none, load := none, wsm := { contiguous := none, l2 := 0, lock := false } }

/-- The daemon waits for a byte of a peer that has closed the connection. -/
theorem not_receivesTrustlet :
    ¬ ∀ (sender : TrustletSender) (d : Daemon), ReceivesTrustlet sender d := by
  intro h
  obtain ⟨k, hended⟩ := (h closingSender { init with opened := [0] }).ends
  have hloop : ∀ k, receiveLoop closingSender k = .receiving [] := by
    intro k
    induction k with
    | zero => rfl
    | succ k ih =>
        have hturn : receiveLoop closingSender (k + 1) =
            ReceiveAll.turn 1 (some []) (receiveLoop closingSender k) := rfl
        rw [hturn, ih]
        rfl
  have hdone := receiveTrustlet_isSome.mp hended List.mem_cons_self rfl
  rw [hloop k] at hdone
  exact hdone

end Daemon

end Exynos8890.MobiCore
