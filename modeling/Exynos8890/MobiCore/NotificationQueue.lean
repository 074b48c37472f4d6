import Exynos8890.Library.RingFifo
import Exynos8890.MobiCore.TrustletSession

/-!
# The notification rings of the MCI

`NotificationQueue` and the two rings it works on, one for each direction
between the worlds.  The counters are 32-bit and wrap around; a slot is chosen
by masking a counter with the queue size less one.

Main results:

- Theorem `Represents.put` and `Represents.get`: one operation of the code is
  one operation of a bounded queue.
- Theorem `traffic_represents`: every ring refines a bounded queue in every run
  of both worlds.
- Theorem `notificationQueue_fifo`: nothing that a ring accepted is lost,
  duplicated or reordered, across any number of counter wrap-arounds.
-/

namespace Exynos8890.MobiCore

open Fifo

/-- `NQ_NUM_ELEMS`. -/
def nqNumElems : UInt32 := 16

/-- `notificationQueueHeader_t`. -/
structure NotificationQueueHeader where
  writeCnt : UInt32
  readCnt : UInt32
  queueSize : UInt32
deriving DecidableEq, Repr

/-- `notificationQueue_t` with room for `elems` notifications. -/
structure NotificationRing (elems : Nat) where
  hdr : NotificationQueueHeader
  notification : Vector Notification elems

/-- The index of the slot that a counter selects. -/
def NotificationQueueHeader.slot (hdr : NotificationQueueHeader) (cnt : UInt32) : Nat :=
  (cnt &&& (hdr.queueSize - 1)).toNat

/-- `NotificationQueue`: the incoming and the outgoing ring. -/
structure NotificationQueue (elems : Nat) where
  inq : NotificationRing elems
  out : NotificationRing elems

namespace NotificationQueue

variable {elems : Nat}

/-- The constructor. -/
def new (i o : NotificationRing elems) (size : UInt32) : NotificationQueue elems where
  inq := { i with hdr.queueSize := size }
  out := { o with hdr.queueSize := size }

/-- `NotificationQueue::putNotification`. -/
def putNotification (notification : Notification) (nq : NotificationQueue elems) :
    NotificationQueue elems :=
  let out := nq.out
  if out.hdr.writeCnt - out.hdr.readCnt < out.hdr.queueSize then
    { nq with
      out :=
        { notification :=
            out.notification.setIfInBounds (out.hdr.slot out.hdr.writeCnt) notification
          hdr := { out.hdr with writeCnt := out.hdr.writeCnt + 1 } } }
  else nq

/-- `NotificationQueue::getNotification`; the pointer it returns is the index of
a slot. -/
def getNotification (nq : NotificationQueue elems) : Option Nat × NotificationQueue elems :=
  let inq := nq.inq
  if inq.hdr.writeCnt - inq.hdr.readCnt > 0 then
    (some (inq.hdr.slot inq.hdr.readCnt),
      { nq with inq := { inq with hdr.readCnt := inq.hdr.readCnt + 1 } })
  else (none, nq)

/-- The object of the other world, which works on the same two rings. -/
def peer (nq : NotificationQueue elems) : NotificationQueue elems where
  inq := nq.out
  out := nq.inq

end NotificationQueue

/-! ## Traffic between the worlds -/

/-- The two users of the rings. -/
inductive World where
  | normal
  | secure
deriving DecidableEq, Repr

/-- What one world has put into its outgoing ring and the other has taken out. -/
structure RingLog where
  accepted : List Notification
  returned : List Notification
  slots : List Nat

/-- The rings and what has passed through them; `nq` is the object of the normal
world. -/
structure Traffic (elems : Nat) where
  nq : NotificationQueue elems
  fromNormal : RingLog
  fromSecure : RingLog

/-- One operation of one world. -/
inductive RingOp where
  | put (notification : Notification)
  | get

namespace RingLog

variable {elems : Nat}

def empty : RingLog where
  accepted := []
  returned := []
  slots := []

/-- Record a `putNotification`: it accepted the notification when it advanced the
write counter. -/
def recordPut (log : RingLog) (before after : NotificationRing elems)
    (notification : Notification) : RingLog :=
  if after.hdr.writeCnt = before.hdr.writeCnt then log
  else
    { log with
      accepted := log.accepted ++ [notification]
      slots := log.slots ++ [before.hdr.slot before.hdr.writeCnt] }

/-- Record a `getNotification`: the caller reads the slot it was given. -/
def recordGet (log : RingLog) (ring : NotificationRing elems) (ret : Option Nat) : RingLog :=
  match ret with
  | none => log
  | some i =>
      { log with
        returned := log.returned ++ ring.notification[i]?.toList
        slots := log.slots ++ [i] }

end RingLog

namespace Traffic

variable {elems : Nat}

/-- Both rings idle with equal counters. -/
def start (inCnt outCnt size : UInt32) (inSlots outSlots : Vector Notification elems) :
    Traffic elems where
  nq := NotificationQueue.new
    { hdr := { writeCnt := inCnt, readCnt := inCnt, queueSize := 0 }, notification := inSlots }
    { hdr := { writeCnt := outCnt, readCnt := outCnt, queueSize := 0 }
      notification := outSlots }
    size
  fromNormal := RingLog.empty
  fromSecure := RingLog.empty

/-- The ring that a world writes. -/
def ring (t : Traffic elems) : World → NotificationRing elems
  | .normal => t.nq.out
  | .secure => t.nq.inq

/-- The log of the ring that a world writes. -/
def log (t : Traffic elems) : World → RingLog
  | .normal => t.fromNormal
  | .secure => t.fromSecure

/-- One operation of one world on the object it holds. -/
def step (t : Traffic elems) : World × RingOp → Traffic elems
  | (.normal, .put n) =>
      let nq := t.nq.putNotification n
      { t with nq := nq, fromNormal := t.fromNormal.recordPut t.nq.out nq.out n }
  | (.secure, .put n) =>
      let nq := (t.nq.peer.putNotification n).peer
      { t with nq := nq, fromSecure := t.fromSecure.recordPut t.nq.inq nq.inq n }
  | (.normal, .get) =>
      let (ret, nq) := t.nq.getNotification
      { t with nq := nq, fromSecure := t.fromSecure.recordGet nq.inq ret }
  | (.secure, .get) =>
      let (ret, nq) := t.nq.peer.getNotification
      { t with nq := nq.peer, fromNormal := t.fromNormal.recordGet nq.inq ret }

/-- Follow a list of operations. -/
def run (t : Traffic elems) (ops : List (World × RingOp)) : Traffic elems :=
  ops.foldl step t

end Traffic

namespace NotificationRing

variable {elems : Nat}

/-- `writeCnt - readCnt`. -/
def outstandingCnt (q : NotificationRing elems) : UInt32 :=
  q.hdr.writeCnt - q.hdr.readCnt

/-- The notifications between the two counters. -/
def outstanding (q : NotificationRing elems) : List Notification :=
  (List.range q.outstandingCnt.toNat).filterMap fun i =>
    q.notification[q.hdr.slot (q.hdr.readCnt + UInt32.ofNat i)]?

end NotificationRing

/-! ## The ring refines a bounded queue -/

section Refinement

variable {k : Fin 32}

/-- The size of a ring whose indices have `k` bits. -/
def ringSize (k : Fin 32) : UInt32 :=
  UInt32.ofNat (2 ^ k.val)

theorem two_pow_lt_size (k : Fin 32) : 2 ^ k.val < 2 ^ 32 :=
  Nat.pow_lt_pow_right (by decide) k.isLt

theorem toNat_ringSize (k : Fin 32) : (ringSize k).toNat = 2 ^ k.val := by
  rw [ringSize, UInt32.toNat_ofNat']
  exact Nat.mod_eq_of_lt (two_pow_lt_size k)

theorem toNat_ringSize_sub_one (k : Fin 32) : (ringSize k - 1).toNat = 2 ^ k.val - 1 := by
  have hle : (1 : UInt32) ≤ ringSize k := by
    rw [UInt32.le_iff_toNat_le, toNat_ringSize]
    exact Nat.one_le_two_pow
  rw [UInt32.toNat_sub_of_le _ _ hle, toNat_ringSize]
  rfl

/-- Masking with a power of two less one is the remainder. -/
theorem slot_eq_mod {hdr : NotificationQueueHeader} (h : hdr.queueSize = ringSize k)
    (cnt : UInt32) : hdr.slot cnt = cnt.toNat % 2 ^ k.val := by
  rw [NotificationQueueHeader.slot, UInt32.toNat_and, h, toNat_ringSize_sub_one,
    Nat.and_two_pow_sub_one_eq_mod]

/-- The counters wrap around at a multiple of the ring size. -/
theorem toNat_add_mod_ring (cnt d : UInt32) :
    (cnt + d).toNat % 2 ^ k.val = (cnt.toNat + d.toNat) % 2 ^ k.val := by
  rw [UInt32.toNat_add]
  exact Nat.mod_mod_of_dvd _ (Nat.pow_dvd_pow 2 k.isLt.le)

/-- The ring holds the queue of the history, the log agrees with the history,
and every slot used so far lies in the ring. -/
structure Represents (ring : NotificationRing (2 ^ k.val)) (log : RingLog)
    (h : History Notification (2 ^ k.val)) : Prop where
  queueSize : ring.hdr.queueSize = ringSize k
  accepted : log.accepted = h.accepted
  returned : log.returned = h.returned
  length : ring.outstandingCnt.toNat = h.queued.length
  stores : Stores ring.notification ring.hdr.readCnt.toNat h.queued
  inBounds : ∀ i ∈ log.slots, i < 2 ^ k.val

/-- The fullness test of the code is the bound of the queue. -/
theorem Represents.room_iff {ring : NotificationRing (2 ^ k.val)} {log : RingLog}
    {h : History Notification (2 ^ k.val)} (hr : Represents ring log h) :
    ring.hdr.writeCnt - ring.hdr.readCnt < ring.hdr.queueSize ↔
      h.queued.length < 2 ^ k.val := by
  rw [UInt32.lt_iff_toNat_lt, hr.queueSize, toNat_ringSize, ← hr.length]
  rfl

/-- The slot that the write counter selects is the one behind the last item. -/
theorem Represents.slot_writeCnt {ring : NotificationRing (2 ^ k.val)} {log : RingLog}
    {h : History Notification (2 ^ k.val)} (hr : Represents ring log h) :
    ring.hdr.slot ring.hdr.writeCnt =
      (ring.hdr.readCnt.toNat + h.queued.length) % 2 ^ k.val := by
  have hcnt : ring.hdr.writeCnt = ring.hdr.readCnt + ring.outstandingCnt := by
    rw [NotificationRing.outstandingCnt, UInt32.add_comm, UInt32.sub_add_cancel]
  rw [slot_eq_mod hr.queueSize, hcnt, toNat_add_mod_ring, hr.length]

/-- `putNotification` is one push. -/
theorem Represents.put {nq : NotificationQueue (2 ^ k.val)} {log : RingLog}
    {h : History Notification (2 ^ k.val)} (hr : Represents nq.out log h)
    (n : Notification) :
    Represents (nq.putNotification n).out
      (log.recordPut nq.out (nq.putNotification n).out n) (h.push n) := by
  by_cases hroom : h.queued.length < 2 ^ k.val
  · have hput : (nq.putNotification n).out =
        { notification :=
            nq.out.notification.setIfInBounds (nq.out.hdr.slot nq.out.hdr.writeCnt) n
          hdr := { nq.out.hdr with writeCnt := nq.out.hdr.writeCnt + 1 } } := by
      simp only [NotificationQueue.putNotification, hr.room_iff.mpr hroom, if_true]
    have hlog : log.recordPut nq.out (nq.putNotification n).out n =
        { log with
          accepted := log.accepted ++ [n]
          slots := log.slots ++ [nq.out.hdr.slot nq.out.hdr.writeCnt] } := by
      rw [hput, RingLog.recordPut, if_neg]
      simp
    obtain ⟨hacc, hret, hqueue⟩ := History.push_of_lt n hroom
    have hslot := hr.slot_writeCnt
    have hlt : (nq.out.hdr.readCnt.toNat + h.queued.length) % 2 ^ k.val < 2 ^ k.val :=
      Nat.mod_lt _ (Nat.two_pow_pos _)
    rw [hlog, hput]
    refine ⟨hr.queueSize, ?_, ?_, ?_, ?_, ?_⟩
    · rw [hacc, hr.accepted]
    · rw [hret, hr.returned]
    · rw [hqueue, List.length_append, List.length_singleton, ← hr.length]
      -- the counter cannot have wrapped past the reader: there was room
      have hsmall : nq.out.outstandingCnt.toNat + 1 < 2 ^ 32 := by
        have := two_pow_lt_size k
        rw [hr.length]
        omega
      have hsub : nq.out.hdr.writeCnt + 1 - nq.out.hdr.readCnt = nq.out.outstandingCnt + 1 := by
        rw [NotificationRing.outstandingCnt]
        grind
      show (nq.out.hdr.writeCnt + 1 - nq.out.hdr.readCnt).toNat = _
      rw [hsub, UInt32.toNat_add]
      exact Nat.mod_eq_of_lt hsmall
    · rw [hqueue]
      have := hr.stores.push n hroom hlt
      simpa only [hslot, Vector.setIfInBounds, Vector.set, Array.setIfInBounds,
        Vector.size_toArray, hlt, dite_true] using this
    · intro i hi
      rcases List.mem_append.mp hi with hi | hi
      · exact hr.inBounds i hi
      · rw [List.mem_singleton.mp hi, hslot]
        exact hlt
  · have hput : (nq.putNotification n).out = nq.out := by
      simp only [NotificationQueue.putNotification, mt hr.room_iff.mp hroom, if_false]
    rw [hput, History.push_of_full n hroom, RingLog.recordPut, if_pos rfl]
    exact hr

/-- `getNotification` is one pop. -/
theorem Represents.get {nq : NotificationQueue (2 ^ k.val)} {log : RingLog}
    {h : History Notification (2 ^ k.val)} (hr : Represents nq.inq log h) :
    Represents nq.getNotification.2.inq
      (log.recordGet nq.getNotification.2.inq nq.getNotification.1) h.pop := by
  cases hqueue : h.queued with
  | nil =>
      have hempty : ¬ nq.inq.hdr.writeCnt - nq.inq.hdr.readCnt > 0 := by
        have hlen := hr.length
        rw [hqueue, List.length_nil] at hlen
        rw [gt_iff_lt, UInt32.lt_iff_toNat_lt]
        show ¬ 0 < nq.inq.outstandingCnt.toNat
        omega
      simp only [NotificationQueue.getNotification, hempty, if_false, RingLog.recordGet]
      rw [History.pop_of_nil hqueue]
      exact hr
  | cons a rest =>
      have hlen := hr.length
      rw [hqueue, List.length_cons] at hlen
      have hsome : nq.inq.hdr.writeCnt - nq.inq.hdr.readCnt > 0 := by
        rw [gt_iff_lt, UInt32.lt_iff_toNat_lt]
        show 0 < nq.inq.outstandingCnt.toNat
        omega
      obtain ⟨hacc, hret, hrest⟩ := History.pop_of_cons hqueue
      have hstores := hr.stores
      rw [hqueue] at hstores
      have hslot := slot_eq_mod hr.queueSize nq.inq.hdr.readCnt
      have hread : nq.inq.notification[nq.inq.hdr.slot nq.inq.hdr.readCnt]? = some a := by
        have := hstores 0 (Nat.succ_pos _)
        rwa [Nat.add_zero, ← hslot] at this
      simp only [NotificationQueue.getNotification, hsome, if_true, RingLog.recordGet, hread,
        Option.toList_some]
      refine ⟨hr.queueSize, ?_, ?_, ?_, ?_, ?_⟩
      · rw [hacc, hr.accepted]
      · rw [hret, hr.returned]
      · have hsub : nq.inq.hdr.writeCnt - (nq.inq.hdr.readCnt + 1) =
            nq.inq.outstandingCnt - 1 := by
          rw [NotificationRing.outstandingCnt]
          grind
        show (nq.inq.hdr.writeCnt - (nq.inq.hdr.readCnt + 1)).toNat = _
        rw [hsub, hrest, UInt32.toNat_sub_of_le, hlen]
        · simp
        · rw [UInt32.le_iff_toNat_le, hlen]
          simp
      · rw [hrest]
        refine hstores.pop.congr ?_
        rw [toNat_add_mod_ring]
        simp
      · intro i hi
        rcases List.mem_append.mp hi with hi | hi
        · exact hr.inBounds i hi
        · rw [List.mem_singleton.mp hi, hslot]
          exact Nat.mod_lt _ (Nat.two_pow_pos _)

/-- Two equal counters represent the empty queue, whatever the slots contain. -/
theorem represents_start (cnt : UInt32) (slots : Vector Notification (2 ^ k.val)) :
    Represents
      { hdr := { writeCnt := cnt, readCnt := cnt, queueSize := ringSize k }
        notification := slots }
      RingLog.empty History.start := by
  refine ⟨rfl, rfl, rfl, ?_, Stores.nil _ _, ?_⟩
  · simp [NotificationRing.outstandingCnt, History.start]
  · intro i hi
    exact absurd hi List.not_mem_nil

/-- Reading the slots between the counters yields the queue. -/
theorem Represents.outstanding_eq {ring : NotificationRing (2 ^ k.val)} {log : RingLog}
    {h : History Notification (2 ^ k.val)} (hr : Represents ring log h) :
    ring.outstanding = h.queued := by
  rw [← hr.stores.window_eq, NotificationRing.outstanding, window, hr.length]
  refine List.filterMap_congr ?_
  intro i hi
  have hlt : i < 2 ^ 32 := by
    have := List.mem_range.mp hi
    have := h.bounded
    have := two_pow_lt_size k
    omega
  rw [slot_eq_mod hr.queueSize, toNat_add_mod_ring, UInt32.toNat_ofNat', Nat.mod_eq_of_lt hlt]

/-- An operation of either world keeps both rings in step with their histories. -/
theorem step_represents {t : Traffic (2 ^ k.val)} (op : World × RingOp)
    (ht : ∀ w, ∃ h, Represents (t.ring w) (t.log w) h) :
    ∀ w, ∃ h, Represents ((t.step op).ring w) ((t.step op).log w) h := by
  have put_inq : ∀ (nq : NotificationQueue (2 ^ k.val)) n, (nq.putNotification n).inq = nq.inq := by
    intro nq n
    simp only [NotificationQueue.putNotification]
    split <;> rfl
  have get_out : ∀ nq : NotificationQueue (2 ^ k.val), nq.getNotification.2.out = nq.out := by
    intro nq
    simp only [NotificationQueue.getNotification]
    split <;> rfl
  obtain ⟨hn, hnormal⟩ := ht .normal
  obtain ⟨hs, hsecure⟩ := ht .secure
  obtain ⟨world, op⟩ := op
  intro w
  cases world with
  | normal =>
      cases op with
      | put n =>
          cases w with
          | normal => exact ⟨_, hnormal.put n⟩
          | secure =>
              refine ⟨hs, ?_⟩
              show Represents (t.nq.putNotification n).inq t.fromSecure hs
              rw [put_inq]
              exact hsecure
      | get =>
          cases w with
          | normal =>
              refine ⟨hn, ?_⟩
              show Represents t.nq.getNotification.2.out t.fromNormal hn
              rw [get_out]
              exact hnormal
          | secure => exact ⟨_, hsecure.get⟩
  | secure =>
      cases op with
      | put n =>
          cases w with
          | normal =>
              refine ⟨hn, ?_⟩
              show Represents (t.nq.peer.putNotification n).inq t.fromNormal hn
              rw [put_inq]
              exact hnormal
          | secure => exact ⟨_, @Represents.put k t.nq.peer _ _ hsecure n⟩
      | get =>
          cases w with
          | normal => exact ⟨_, @Represents.get k t.nq.peer _ _ hnormal⟩
          | secure =>
              refine ⟨hs, ?_⟩
              show Represents t.nq.peer.getNotification.2.out t.fromSecure hs
              rw [get_out]
              exact hsecure

theorem traffic_represents (t : Traffic (2 ^ k.val)) (ops : List (World × RingOp))
    (ht : ∀ w, ∃ h, Represents (t.ring w) (t.log w) h) :
    ∀ w, ∃ h, Represents ((t.run ops).ring w) ((t.run ops).log w) h := by
  induction ops generalizing t with
  | nil => exact ht
  | cons op ops ih => exact ih (t.step op) (step_represents op ht)

theorem start_represents (inCnt outCnt : UInt32)
    (inSlots outSlots : Vector Notification (2 ^ k.val)) :
    ∀ w, ∃ h, Represents
      ((Traffic.start inCnt outCnt (ringSize k) inSlots outSlots).ring w)
      ((Traffic.start inCnt outCnt (ringSize k) inSlots outSlots).log w) h := by
  intro w
  cases w with
  | normal => exact ⟨_, represents_start outCnt outSlots⟩
  | secure => exact ⟨_, represents_start inCnt inSlots⟩

/-- A put of either world acts on its ring as `putNotification`. -/
theorem log_put {t : Traffic (2 ^ k.val)} {w : World} {h : History Notification (2 ^ k.val)}
    (hr : Represents (t.ring w) (t.log w) h) (n : Notification) :
    ((t.step (w, .put n)).log w).accepted = (h.push n).accepted := by
  cases w with
  | normal => exact (@Represents.put k t.nq _ _ hr n).accepted
  | secure => exact (@Represents.put k t.nq.peer _ _ hr n).accepted

end Refinement

/-- From any equal counters and under any interleaving of the two worlds: what a
ring returned followed by what is outstanding is what it accepted; the number
outstanding is the difference of the counters and never above the size; a put is
dropped only when the ring is full; every slot used is inside the array. -/
theorem notificationQueue_fifo (k : Fin 32) (inCnt outCnt : UInt32)
    (inSlots outSlots : Vector Notification (2 ^ k.val)) (ops : List (World × RingOp))
    (w : World) :
    let t := (Traffic.start inCnt outCnt (ringSize k) inSlots outSlots).run ops
    (t.log w).returned ++ (t.ring w).outstanding = (t.log w).accepted ∧
    (t.ring w).outstanding.length =
      ((t.ring w).hdr.writeCnt - (t.ring w).hdr.readCnt).toNat ∧
    (t.ring w).outstanding.length ≤ (t.ring w).hdr.queueSize.toNat ∧
    (t.ring w).hdr.queueSize = ringSize k ∧
    (∀ n, ((t.step (w, .put n)).log w).accepted =
      if (t.ring w).outstanding.length < (t.ring w).hdr.queueSize.toNat then
        (t.log w).accepted ++ [n]
      else (t.log w).accepted) ∧
    ∀ i ∈ (t.log w).slots, i < 2 ^ k.val := by
  intro t
  obtain ⟨h, hr⟩ := traffic_represents _ ops
    (start_represents inCnt outCnt inSlots outSlots) w
  have hout : (t.ring w).outstanding = h.queued := hr.outstanding_eq
  have hsize : (t.ring w).hdr.queueSize.toNat = 2 ^ k.val := by
    rw [hr.queueSize, toNat_ringSize]
  refine ⟨?_, ?_, ?_, hr.queueSize, ?_, hr.inBounds⟩
  · rw [hout, hr.returned, hr.accepted, h.conserved]
  · rw [hout]
    exact hr.length.symm
  · rw [hout, hsize]
    exact h.bounded
  · intro n
    rw [hout, hsize, log_put hr n, hr.accepted]
    by_cases hroom : h.queued.length < 2 ^ k.val
    · rw [if_pos hroom, (History.push_of_lt n hroom).1]
    · rw [if_neg hroom, History.push_of_full n hroom]

/-- The ring of the device is one of them. -/
example : ringSize 4 = nqNumElems :=
  rfl

end Exynos8890.MobiCore
