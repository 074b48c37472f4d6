import Exynos8890.Library.TransitionSystem
import Exynos8890.MobiCore.NotificationQueue

/-!
# Slots after their release

`getNotification` returns a pointer into the ring and advances the read counter;
`handleIrq` reads the notification through the pointer later, field by field, while the
secure world may already write the next one.

Main results:

- Definition `Slots.step`: the two worlds, one access to the ring at a time.
- Theorem `untorn_run`: while no slot is written that is still being read, every value
  read for a dequeued notification is the one posted.
- Theorem `not_untorn`: a ring that is full but for the slot being read.
-/

namespace Exynos8890.MobiCore

open Fifo

/-! ## Accesses -/

/-- What the secure world does next: it posts notifications one after the other. -/
inductive PostPc where
  | idle
  | writeSessionId (n : Notification) (slot : Nat)
  | writePayload (n : Notification) (slot : Nat)
  | advance (n : Notification)
deriving DecidableEq, Repr

/-- What `handleIrq` reads a notification for. -/
inductive IrqUse where
  | mcpTest
  | lookup
  | exitTest (state : TsState)
  | copySessionId
  | copyPayload
deriving DecidableEq, Repr

/-- What the IRQ thread does next: advance the read counter, or read the slot of the
`i`-th notification. -/
inductive DequeuePc where
  | idle
  | release (slot : Nat)
  | use (i slot : Nat) (what : IrqUse)
deriving DecidableEq, Repr

/-- What the session id of a notification stands for. -/
inductive IrqTarget where
  | unknown
  | connected
  | queued (state : TsState) (gpLevel : UInt32)
deriving DecidableEq, Repr

/-- A value that `handleIrq` acts on for the `i`-th notification. -/
inductive IrqRead where
  | sessionId (i : Nat) (value : UInt32)
  | payload (i : Nat) (value : Int32)
deriving DecidableEq, Repr

/-- The value that a use reads. -/
def IrqUse.read (i : Nat) (n : Notification) : IrqUse → IrqRead
  | .mcpTest | .lookup | .copySessionId => .sessionId i n.sessionId
  | .exitTest _ | .copyPayload => .payload i n.payload

/-- The next use, if any.  `queueNotification` drops the notification of a dead session,
tests the payload for a GP session and drops the notification of a session whose close is
sent; whoever keeps or forwards the notification copies it. -/
def IrqUse.next (n : Notification) (target : IrqTarget) : IrqUse → Option IrqUse
  | .mcpTest => if n.sessionId = sidMcp then none else some .lookup
  | .lookup =>
      match target with
      | .unknown | .connected => some .copySessionId
      | .queued state gpLevel =>
          if state = .taDead then none
          else if gpLevel = 1 then some (.exitTest state)
          else if state = .closeSend then none
          else some .copySessionId
  | .exitTest state =>
      if n.payload ≠ 0 then some .copySessionId
      else if state = .closeSend then none
      else some .copySessionId
  | .copySessionId => some .copyPayload
  | .copyPayload => none

/-- The incoming ring, its two users, and what they have done. -/
structure Slots (elems : Nat) where
  ring : NotificationRing elems
  post : PostPc
  irq : DequeuePc
  posted : List Notification
  dequeued : Nat
  reads : List IrqRead

/-- A step of the secure world or of the IRQ thread. -/
inductive SlotLabel where
  | post (n : Notification)
  | produce
  | dequeue
  | consume (target : IrqTarget)
deriving DecidableEq, Repr

namespace NotificationRing

variable {elems : Nat}

/-- Write one field of a slot. -/
def modify (ring : NotificationRing elems) (slot : Nat) (f : Notification → Notification) :
    NotificationRing elems :=
  match ring.notification[slot]? with
  | none => ring
  | some n => { ring with notification := ring.notification.setIfInBounds slot (f n) }

end NotificationRing

namespace Slots

variable {elems : Nat}

/-- The secure world tests for room and selects the slot. -/
def postStart (s : Slots elems) (n : Notification) : Option (Slots elems) :=
  match s.post with
  | .idle =>
      if s.ring.hdr.writeCnt - s.ring.hdr.readCnt < s.ring.hdr.queueSize then
        some { s with post := .writeSessionId n (s.ring.hdr.slot s.ring.hdr.writeCnt) }
      else some s
  | _ => none

/-- The secure world writes the slot, then advances the write counter. -/
def postNext (s : Slots elems) : Option (Slots elems) :=
  match s.post with
  | .idle => none
  | .writeSessionId n slot =>
      some
        { s with
          ring := s.ring.modify slot fun m => { m with sessionId := n.sessionId }
          post := .writePayload n slot }
  | .writePayload n slot =>
      some
        { s with
          ring := s.ring.modify slot fun m => { m with payload := n.payload }
          post := .advance n }
  | .advance n =>
      some
        { s with
          ring := { s.ring with hdr.writeCnt := s.ring.hdr.writeCnt + 1 }
          post := .idle
          posted := s.posted ++ [n] }

/-- `getNotification` up to the pointer it returns. -/
def dequeue (s : Slots elems) : Option (Slots elems) :=
  match s.irq with
  | .idle =>
      if s.ring.hdr.writeCnt - s.ring.hdr.readCnt > 0 then
        some { s with irq := .release (s.ring.hdr.slot s.ring.hdr.readCnt) }
      else some s
  | _ => none

/-- The rest of `getNotification`, and the reads of `handleIrq`. -/
def consume (s : Slots elems) (target : IrqTarget) : Option (Slots elems) :=
  match s.irq with
  | .idle => none
  | .release slot =>
      some
        { s with
          ring := { s.ring with hdr.readCnt := s.ring.hdr.readCnt + 1 }
          irq := .use s.dequeued slot .mcpTest
          dequeued := s.dequeued + 1 }
  | .use i slot what =>
      match s.ring.notification[slot]? with
      | none => none
      | some n =>
          some
            { s with
              irq :=
                match what.next n target with
                | none => .idle
                | some what' => .use i slot what'
              reads := s.reads ++ [what.read i n] }

/-- One access to the ring. -/
def step (s : Slots elems) : SlotLabel → Option (Slots elems)
  | .post n => s.postStart n
  | .produce => s.postNext
  | .dequeue => s.dequeue
  | .consume target => s.consume target

end Slots

def slotSystem (elems : Nat) : TransitionSystem (Slots elems) SlotLabel where
  step := Slots.step

/-- A ring of `2 ^ k` slots with equal counters. -/
def Slots.start (k : Fin 32) (cnt : UInt32) (slots : Vector Notification (2 ^ k.val)) :
    Slots (2 ^ k.val) where
  ring :=
    { hdr := { writeCnt := cnt, readCnt := cnt, queueSize := ringSize k }
      notification := slots }
  post := .idle
  irq := .idle
  posted := []
  dequeued := 0
  reads := []

/-- The value belongs to the notification that was posted at its place. -/
def IrqRead.PostedIn (posted : List Notification) : IrqRead → Prop
  | .sessionId i value => ∃ n, posted[i]? = some n ∧ n.sessionId = value
  | .payload i value => ∃ n, posted[i]? = some n ∧ n.payload = value

/-- The secure world writes a slot next. -/
def PostPc.isWriting : PostPc → Bool
  | .writeSessionId _ _ | .writePayload _ _ => true
  | _ => false

/-- The IRQ thread still reads a slot. -/
def DequeuePc.isUsing : DequeuePc → Bool
  | .use _ _ _ => true
  | _ => false

/-- No slot is written while the IRQ thread still reads one and all the others are full. -/
def SlotKept {elems : Nat} (s : Slots elems) (l : SlotLabel) : Prop :=
  l = .produce → s.post.isWriting = true → s.irq.isUsing = true →
    s.ring.hdr.writeCnt - s.ring.hdr.readCnt ≠ s.ring.hdr.queueSize - 1

instance {elems : Nat} (s : Slots elems) (l : SlotLabel) : Decidable (SlotKept s l) :=
  inferInstanceAs (Decidable (_ → _ → _ → _))

/-! ## What the slots hold -/

section Invariant

variable {k : Fin 32} {cnt : UInt32} {s : Slots (2 ^ k.val)}

/-- The first notification that the IRQ thread still needs. -/
def Slots.held {elems : Nat} (s : Slots elems) : Nat :=
  match s.irq with
  | .use i _ _ => i
  | _ => s.dequeued

/-- What is true of a post between its steps. -/
def PostOk (cnt : UInt32) (s : Slots (2 ^ k.val)) : PostPc → Prop
  | .idle => True
  | .writeSessionId _ slot =>
      s.posted.length < s.dequeued + 2 ^ k.val ∧
        slot = (cnt.toNat + s.posted.length) % 2 ^ k.val
  | .writePayload n slot =>
      s.posted.length < s.dequeued + 2 ^ k.val ∧
        slot = (cnt.toNat + s.posted.length) % 2 ^ k.val ∧
        ∃ m, s.ring.notification[slot]? = some m ∧ m.sessionId = n.sessionId
  | .advance n =>
      s.posted.length < s.dequeued + 2 ^ k.val ∧
        s.ring.notification[(cnt.toNat + s.posted.length) % 2 ^ k.val]? = some n

/-- What is true of the IRQ thread between its steps. -/
def IrqOk (cnt : UInt32) (s : Slots (2 ^ k.val)) : DequeuePc → Prop
  | .idle => True
  | .release slot =>
      s.dequeued < s.posted.length ∧ slot = (cnt.toNat + s.dequeued) % 2 ^ k.val
  | .use i slot _ => i + 1 = s.dequeued ∧ slot = (cnt.toNat + i) % 2 ^ k.val

/-- The counters count, and every notification that is posted and still needed is in its
slot. -/
structure InStep (cnt : UInt32) (s : Slots (2 ^ k.val)) : Prop where
  queueSize : s.ring.hdr.queueSize = ringSize k
  writeCnt : s.ring.hdr.writeCnt = cnt + UInt32.ofNat s.posted.length
  readCnt : s.ring.hdr.readCnt = cnt + UInt32.ofNat s.dequeued
  ordered : s.dequeued ≤ s.posted.length
  bounded : s.posted.length ≤ s.dequeued + 2 ^ k.val
  stores : Stores s.ring.notification (cnt.toNat + s.held) (s.posted.drop s.held)
  post : PostOk cnt s s.post
  irq : IrqOk cnt s s.irq
  reads : ∀ r ∈ s.reads, r.PostedIn s.posted

theorem InStep.start (k : Fin 32) (cnt : UInt32) (slots : Vector Notification (2 ^ k.val)) :
    InStep cnt (Slots.start k cnt slots) where
  queueSize := rfl
  writeCnt := (UInt32.add_zero cnt).symm
  readCnt := (UInt32.add_zero cnt).symm
  ordered := le_rfl
  bounded := Nat.zero_le _
  stores := Stores.nil _ _
  post := trivial
  irq := trivial
  reads := fun _ hr => absurd hr List.not_mem_nil

/-- The difference of the counters is the number of notifications in the ring. -/
theorem InStep.outstanding (h : InStep cnt s) :
    (s.ring.hdr.writeCnt - s.ring.hdr.readCnt).toNat = s.posted.length - s.dequeued := by
  have hsplit : s.ring.hdr.writeCnt - s.ring.hdr.readCnt =
      UInt32.ofNat (s.posted.length - s.dequeued) := by
    obtain ⟨d, hd⟩ := Nat.exists_eq_add_of_le h.ordered
    rw [h.writeCnt, h.readCnt, hd, Nat.add_sub_cancel_left, UInt32.ofNat_add]
    grind
  rw [hsplit, UInt32.toNat_ofNat']
  apply Nat.mod_eq_of_lt
  have := h.bounded
  have := two_pow_lt_size k
  omega

theorem InStep.slot_eq (h : InStep cnt s) (n : Nat) :
    s.ring.hdr.slot (cnt + UInt32.ofNat n) = (cnt.toNat + n) % 2 ^ k.val := by
  rw [slot_eq_mod h.queueSize, toNat_add_mod_ring, UInt32.toNat_ofNat']
  have hdvd : 2 ^ k.val ∣ 2 ^ 32 := Nat.pow_dvd_pow 2 k.isLt.le
  rw [Nat.add_mod, Nat.mod_mod_of_dvd n hdvd, ← Nat.add_mod]

/-- The IRQ thread needs nothing that was not posted, and nothing before the last
notification it took. -/
theorem InStep.held_bounds (h : InStep cnt s) :
    s.held ≤ s.posted.length ∧ s.held ≤ s.dequeued ∧ s.dequeued ≤ s.held + 1 := by
  have hordered := h.ordered
  have hirq := h.irq
  unfold Slots.held
  cases hpc : s.irq with
  | idle | release slot =>
      dsimp only
      omega
  | use i slot what =>
      rw [hpc] at hirq
      have := hirq.1
      dsimp only
      omega

theorem IrqRead.PostedIn.append {posted : List Notification} {r : IrqRead}
    (h : r.PostedIn posted) (n : Notification) : r.PostedIn (posted ++ [n]) := by
  cases r with
  | sessionId i value | payload i value =>
      obtain ⟨m, hm, hvalue⟩ := h
      refine ⟨m, ?_, hvalue⟩
      rw [List.getElem?_append_left (List.getElem?_eq_some_iff.mp hm).1]
      exact hm

/-- The slot that is being read holds the notification posted at its place. -/
theorem InStep.current {i slot : Nat} {what : IrqUse} (h : InStep cnt s)
    (hpc : s.irq = .use i slot what) :
    ∃ n, s.posted[i]? = some n ∧ s.ring.notification[slot]? = some n := by
  have hirq := h.irq
  have hordered := h.ordered
  have hstores := h.stores
  have hheld : s.held = i := by
    unfold Slots.held
    rw [hpc]
  rw [hpc] at hirq
  rw [hheld] at hstores
  obtain ⟨hi, rfl⟩ := hirq
  have hlt : i < s.posted.length := by omega
  have hread := hstores 0 (by rw [List.length_drop]; omega)
  rw [Nat.add_zero, List.getElem_drop] at hread
  exact ⟨s.posted[i], List.getElem?_eq_getElem hlt, hread⟩

/-- The slot that is written next is not needed any more. -/
theorem InStep.room (h : InStep cnt s) (hlt : s.posted.length < s.dequeued + 2 ^ k.val)
    (hkept : s.irq.isUsing = true →
      s.ring.hdr.writeCnt - s.ring.hdr.readCnt ≠ s.ring.hdr.queueSize - 1) :
    (s.posted.drop s.held).length < 2 ^ k.val := by
  have hirq := h.irq
  have hordered := h.ordered
  rw [List.length_drop]
  unfold Slots.held
  cases hpc : s.irq with
  | idle | release slot =>
      dsimp only
      omega
  | use i slot what =>
      rw [hpc] at hirq hkept
      have hdiff := hkept rfl
      rw [ne_eq, ← UInt32.toNat_inj, h.outstanding, h.queueSize, toNat_ringSize_sub_one] at hdiff
      have := hirq.1
      dsimp only
      omega

/-- A write to the slot behind the last notification keeps what is still needed. -/
theorem InStep.modify {slot : Nat} (h : InStep cnt s)
    (hslot : slot = (cnt.toNat + s.posted.length) % 2 ^ k.val)
    (hroom : (s.posted.drop s.held).length < 2 ^ k.val) (f : Notification → Notification) :
    Stores (s.ring.modify slot f).notification (cnt.toNat + s.held) (s.posted.drop s.held) ∧
      (s.ring.modify slot f).hdr = s.ring.hdr ∧
      ∃ m, s.ring.notification[slot]? = some m ∧
        (s.ring.modify slot f).notification[slot]? = some (f m) := by
  have hbehind : slot = (cnt.toNat + s.held + (s.posted.drop s.held).length) % 2 ^ k.val := by
    rw [hslot, List.length_drop, Nat.add_assoc, Nat.add_sub_cancel' h.held_bounds.1]
  have hlt : slot < 2 ^ k.val := by
    rw [hslot]
    exact Nat.mod_lt _ (Nat.two_pow_pos _)
  have hstores := h.stores.setIfInBounds (f s.ring.notification[slot]) hroom
  rw [← hbehind] at hstores
  unfold NotificationRing.modify
  rw [Vector.getElem?_eq_getElem hlt]
  refine ⟨hstores, rfl, s.ring.notification[slot], rfl, ?_⟩
  dsimp only
  rw [Vector.getElem?_setIfInBounds, if_pos rfl, if_pos hlt]

theorem InStep.postStart {n : Notification} {t : Slots (2 ^ k.val)} (h : InStep cnt s)
    (hstep : s.postStart n = some t) : InStep cnt t := by
  unfold Slots.postStart at hstep
  split at hstep
  · split at hstep
    · rename_i hroom
      cases hstep
      refine { h with post := ⟨?_, ?_⟩ }
      · rw [UInt32.lt_iff_toNat_lt, h.outstanding, h.queueSize, toNat_ringSize] at hroom
        have := h.ordered
        show s.posted.length < s.dequeued + 2 ^ k.val
        omega
      · rw [h.writeCnt]
        exact h.slot_eq s.posted.length
    · cases hstep
      exact h
  · cases hstep

theorem InStep.postNext {t : Slots (2 ^ k.val)} (h : InStep cnt s) (hkept : SlotKept s .produce)
    (hstep : s.postNext = some t) : InStep cnt t := by
  have hkept := hkept rfl
  have hpost := h.post
  unfold Slots.postNext at hstep
  split at hstep
  · cases hstep
  · rename_i n slot hpc
    rw [hpc] at hpost hkept
    obtain ⟨hlt, hslot⟩ := hpost
    obtain ⟨hstores, hhdr, m, -, hwritten⟩ := h.modify hslot (h.room hlt (hkept rfl))
      fun m => { m with sessionId := n.sessionId }
    cases hstep
    refine { h with
      queueSize := ?_, writeCnt := ?_, readCnt := ?_, stores := hstores
      post := ⟨hlt, hslot, _, hwritten, rfl⟩ }
    · rw [hhdr]
      exact h.queueSize
    · rw [hhdr]
      exact h.writeCnt
    · rw [hhdr]
      exact h.readCnt
  · rename_i n slot hpc
    rw [hpc] at hpost hkept
    obtain ⟨hlt, hslot, m, hm, hsession⟩ := hpost
    obtain ⟨hstores, hhdr, m', hm', hwritten⟩ := h.modify hslot (h.room hlt (hkept rfl))
      fun m => { m with payload := n.payload }
    rw [hm, Option.some_inj] at hm'
    subst hm'
    have hcomplete : { m with payload := n.payload } = n := by
      rw [hsession]
    cases hstep
    refine { h with
      queueSize := ?_, writeCnt := ?_, readCnt := ?_, stores := hstores, post := ⟨hlt, ?_⟩ }
    · rw [hhdr]
      exact h.queueSize
    · rw [hhdr]
      exact h.writeCnt
    · rw [hhdr]
      exact h.readCnt
    · rw [← hslot]
      dsimp only at hwritten ⊢
      rw [hwritten, hcomplete]
  · rename_i n hpc
    rw [hpc] at hpost
    obtain ⟨hlt, hread⟩ := hpost
    obtain ⟨hheld, -⟩ := h.held_bounds
    cases hstep
    refine ⟨h.queueSize, ?_, h.readCnt, ?_, ?_, ?_, trivial, ?_, ?_⟩
    · show s.ring.hdr.writeCnt + 1 = cnt + UInt32.ofNat (s.posted ++ [n]).length
      rw [h.writeCnt, List.length_append, List.length_singleton, UInt32.ofNat_add, UInt32.add_assoc]
      rfl
    · have := h.ordered
      show s.dequeued ≤ (s.posted ++ [n]).length
      rw [List.length_append]
      omega
    · show (s.posted ++ [n]).length ≤ _
      rw [List.length_append, List.length_singleton]
      exact hlt
    · show Stores s.ring.notification (cnt.toNat + s.held) ((s.posted ++ [n]).drop s.held)
      rw [List.drop_append_of_le_length hheld]
      apply h.stores.concat
      rw [List.length_drop, Nat.add_assoc, Nat.add_sub_cancel' hheld]
      exact hread
    · have hirq := h.irq
      show IrqOk cnt _ s.irq
      cases hirqpc : s.irq with
      | idle => trivial
      | release slot =>
          rw [hirqpc] at hirq
          refine ⟨?_, hirq.2⟩
          show s.dequeued < (s.posted ++ [n]).length
          rw [List.length_append]
          exact Nat.lt_add_right _ hirq.1
      | use i slot what =>
          rw [hirqpc] at hirq
          exact hirq
    · exact fun r hr => (h.reads r hr).append n

theorem InStep.dequeue {t : Slots (2 ^ k.val)} (h : InStep cnt s) (hstep : s.dequeue = some t) :
    InStep cnt t := by
  unfold Slots.dequeue at hstep
  split at hstep
  · rename_i hpc
    have hheld : s.held = s.dequeued := by
      unfold Slots.held
      rw [hpc]
    split at hstep
    · rename_i hsome
      cases hstep
      have hstores := h.stores
      rw [hheld] at hstores
      refine { h with stores := hstores, irq := ⟨?_, ?_⟩ }
      · rw [gt_iff_lt, UInt32.lt_iff_toNat_lt, h.outstanding] at hsome
        exact Nat.lt_of_sub_pos hsome
      · rw [h.readCnt]
        exact h.slot_eq s.dequeued
    · cases hstep
      exact h
  · cases hstep

theorem InStep.consume {target : IrqTarget} {t : Slots (2 ^ k.val)} (h : InStep cnt s)
    (hstep : s.consume target = some t) : InStep cnt t := by
  have hirq := h.irq
  unfold Slots.consume at hstep
  split at hstep
  · cases hstep
  · rename_i slot hpc
    rw [hpc] at hirq
    obtain ⟨hlt, hslot⟩ := hirq
    have hheld : s.held = s.dequeued := by
      unfold Slots.held
      rw [hpc]
    have hstores := h.stores
    rw [hheld] at hstores
    cases hstep
    refine { h with readCnt := ?_, ordered := hlt, bounded := ?_, stores := hstores, post := ?_
                    irq := ⟨rfl, hslot⟩ }
    · show s.ring.hdr.readCnt + 1 = cnt + UInt32.ofNat (s.dequeued + 1)
      rw [h.readCnt, UInt32.ofNat_add, UInt32.add_assoc]
      rfl
    · have := h.bounded
      show s.posted.length ≤ s.dequeued + 1 + _
      omega
    · have hpost := h.post
      show PostOk cnt _ s.post
      cases hpostpc : s.post with
      | idle => trivial
      | writeSessionId n slot | writePayload n slot | advance n =>
          rw [hpostpc] at hpost
          refine ⟨?_, hpost.2⟩
          have := hpost.1
          show s.posted.length < s.dequeued + 1 + _
          omega
  · rename_i i slot what hpc
    obtain ⟨n, hn, hread⟩ := h.current hpc
    rw [hpc] at hirq
    have hheld : s.held = i := by
      unfold Slots.held
      rw [hpc]
    have hstores := h.stores
    rw [hheld] at hstores
    have hreads : ∀ r ∈ s.reads ++ [what.read i n], r.PostedIn s.posted := by
      intro r hr
      rcases List.mem_append.mp hr with hr | hr
      · exact h.reads r hr
      · rw [List.mem_singleton.mp hr]
        cases what <;> exact ⟨n, hn, rfl⟩
    rw [hread] at hstep
    cases hstep
    cases hnext : what.next n target with
    | some what' =>
        exact { h with stores := hstores, irq := hirq, reads := hreads }
    | none =>
        -- the notification is done: its slot is not needed any more
        refine { h with stores := ?_, irq := trivial, reads := hreads }
        obtain ⟨hlt, hget⟩ := List.getElem?_eq_some_iff.mp hn
        rw [List.drop_eq_getElem_cons hlt] at hstores
        have hpop := hstores.pop
        rw [Nat.add_assoc, hirq.1] at hpop
        exact hpop

end Invariant

theorem step_inStep (k : Fin 32) (cnt : UInt32) (s : Slots (2 ^ k.val)) (l : SlotLabel)
    (t : Slots (2 ^ k.val)) (h : InStep cnt s) (hkept : SlotKept s l)
    (hstep : (slotSystem (2 ^ k.val)).step s l = some t) : InStep cnt t := by
  cases l with
  | post n => exact h.postStart hstep
  | produce => exact h.postNext hkept hstep
  | dequeue => exact h.dequeue hstep
  | consume target => exact h.consume hstep

/-- In every run in which no slot is written while it is still being read, every value that
the IRQ thread read for its `i`-th notification is that of the `i`-th posted one. -/
theorem untorn_run (k : Fin 32) (cnt : UInt32) (slots : Vector Notification (2 ^ k.val))
    (ls : List SlotLabel) (s : Slots (2 ^ k.val))
    (hC : (slotSystem (2 ^ k.val)).StepsMeet SlotKept (Slots.start k cnt slots) ls)
    (hrun : (slotSystem (2 ^ k.val)).run (Slots.start k cnt slots) ls = some s) :
    ∀ r ∈ s.reads, r.PostedIn s.posted :=
  (TransitionSystem.run_invariant (step_inStep k cnt) (InStep.start k cnt slots) hC hrun).reads

/-- One post of the secure world. -/
def postLabels (sessionId : UInt32) : List SlotLabel :=
  [.post ⟨sessionId, 0⟩, .produce, .produce, .produce]

/-- A second post while the first notification is forwarded. -/
theorem untorn_run_two :
    ∃ s, (slotSystem 16).run (Slots.start 4 0 (Vector.replicate 16 ⟨0, 0⟩))
        (postLabels 1 ++ [.dequeue, .consume .connected] ++ postLabels 2 ++
          List.replicate 4 (.consume .connected)) = some s ∧
      s.reads.length = 4 ∧ ∀ r ∈ s.reads, r.PostedIn s.posted :=
  ⟨_, rfl, rfl, untorn_run 4 0 (Vector.replicate 16 ⟨0, 0⟩)
    (postLabels 1 ++ [.dequeue, .consume .connected] ++ postLabels 2 ++
      List.replicate 4 (.consume .connected)) _ (by decide) rfl⟩

/-- The ring is filled, its first notification is taken, and a seventeenth is posted
before `handleIrq` has read the session id of the first one. -/
def overwriteLabels : List SlotLabel :=
  (List.range 16).flatMap (fun i => postLabels (UInt32.ofNat (i + 1))) ++
    [.dequeue, .consume .connected, .post ⟨17, 0⟩, .produce, .consume .connected]

set_option maxRecDepth 2000 in
/-- `handleIrq` acts on the session id of the seventeenth notification. -/
theorem not_untorn :
    ¬ ∀ (k : Fin 32) (cnt : UInt32) (slots : Vector Notification (2 ^ k.val))
      (ls : List SlotLabel) (s : Slots (2 ^ k.val)),
      (slotSystem (2 ^ k.val)).run (Slots.start k cnt slots) ls = some s →
      ∀ r ∈ s.reads, r.PostedIn s.posted := by
  intro h
  obtain ⟨s, hrun, hreads, hposted⟩ : ∃ s,
      (slotSystem 16).run (Slots.start 4 0 (Vector.replicate 16 ⟨0, 0⟩)) overwriteLabels = some s ∧
        s.reads = [.sessionId 0 17] ∧ s.posted[0]? = some ⟨1, 0⟩ :=
    ⟨_, rfl, rfl, rfl⟩
  have hread := h 4 0 (Vector.replicate 16 ⟨0, 0⟩) overwriteLabels s hrun (.sessionId 0 17)
    (by rw [hreads]; exact List.mem_singleton_self _)
  obtain ⟨n, hn, hvalue⟩ := hread
  rw [hposted, Option.some_inj] at hn
  subst hn
  exact absurd hvalue (by decide)

end Exynos8890.MobiCore
