import Exynos8890.MobiCore.Common.CSemaphore

/-!
# The receive side of a netlink connection

A connection takes over the buffer of the message that is delivered to it, and readers take
bytes out of this one buffer.  A semaphore tells them that data is left.  The semaphore and
the buffer are changed in separate critical sections, so between them calls of other
threads may come.

Main results:

- Theorem `Consistent.step`: every step keeps the semaphore and the buffer consistent, when
  a message comes after the one before it was consumed and the semaphore behaves.
- Theorem `byteStream_run`: then the bytes that were read and the bytes left are the
  payloads in the order of their delivery.
-/

namespace Exynos8890.MobiCore

/-! ## The calls -/

/-- What `readData` returns: it ran into its time-out, it found no data behind the
semaphore, or it copied bytes.  The first two are both -2. -/
inductive ReadResult where
  | timedOut
  | noData
  | read (bytes : List UInt8)
deriving DecidableEq

def ReadResult.bytes : ReadResult → List UInt8
  | .timedOut | .noData => []
  | .read bytes => bytes

/-- A connection with the calls that are inside it: `handleMessage` calls that have not
signalled yet, and `readData` calls, by their length, asleep in the semaphore or behind
it. -/
structure NetlinkReceiver where
  dataLeft : CSemaphore
  dataMsg : Option (List UInt8)
  dataStart : Option Nat
  dataLen : Nat
  signalling : Nat
  sleeping : List Nat
  entered : List Nat
  delivered : List (List UInt8)
  results : List ReadResult
deriving DecidableEq

namespace NetlinkReceiver

/-- `NetlinkConnection::NetlinkConnection`. -/
def new : NetlinkReceiver where
  dataLeft := CSemaphore.new 0
  dataMsg := none
  dataStart := none
  dataLen := 0
  signalling := 0
  sleeping := []
  entered := []
  delivered := []
  results := []

/-- `handleMessage` under the mutex: take over the buffer. -/
def takeOver (s : NetlinkReceiver) (payload : List UInt8) : NetlinkReceiver :=
  { s with
    dataMsg := some payload
    dataStart := some 0
    dataLen := payload.length
    signalling := s.signalling + 1
    delivered := s.delivered ++ [payload] }

/-- `dataLeft.wait(timeout)` up to its condition wait. -/
def waitData (s : NetlinkReceiver) (len : Nat) : NetlinkReceiver :=
  let waited := s.dataLeft.enter
  if waited.2 then { s with dataLeft := waited.1, entered := len :: s.entered }
  else { s with dataLeft := waited.1, sleeping := len :: s.sleeping }

/-- `dataLeft.wait(timeout)` behind its condition wait. -/
def resumeWait (s : NetlinkReceiver) (len : Nat) (timedOut : Bool) : NetlinkReceiver :=
  let s := { s with
    dataLeft := s.dataLeft.leaveTimed timedOut
    sleeping := s.sleeping.erase len }
  if timedOut then { s with results := s.results ++ [.timedOut] }
  else { s with entered := len :: s.entered }

/-- The bytes that were not read yet. -/
def remaining (s : NetlinkReceiver) : List UInt8 :=
  match s.dataMsg, s.dataStart with
  | some payload, some start => (payload.drop start).take s.dataLen
  | _, _ => []

/-- `readData` under the mutex. -/
def readData (s : NetlinkReceiver) (len : Nat) : NetlinkReceiver :=
  let s := { s with entered := s.entered.erase len }
  if s.dataLen = 0 then { s with results := s.results ++ [.noData] }
  else
    let ret := if len > s.dataLen then s.dataLen else len
    let s := { s with
      results := s.results ++ [ReadResult.read (s.remaining.take ret)]
      dataLen := s.dataLen - ret
      dataStart := s.dataStart.map (· + ret) }
    if s.dataLen = 0 then { s with dataStart := none, dataMsg := none }
    else { s with dataLeft := s.dataLeft.signal }

inductive Label where
  | handleMessage (payload : List UInt8)
  | signal
  | wait (len : Nat)
  | resume (len : Nat) (timedOut : Bool)
  | read (len : Nat)

def step (s : NetlinkReceiver) : Label → Option NetlinkReceiver
  | .handleMessage payload => some (s.takeOver payload)
  | .signal =>
      if 0 < s.signalling then
        some { s with dataLeft := s.dataLeft.signal, signalling := s.signalling - 1 }
      else none
  | .wait len => some (s.waitData len)
  | .resume len timedOut => if len ∈ s.sleeping then some (s.resumeWait len timedOut) else none
  | .read len => if len ∈ s.entered then some (s.readData len) else none

/-- A connection under deliveries and reads. -/
def system : TransitionSystem NetlinkReceiver Label where
  step := step

/-! ## The byte stream -/

/-- All bytes that `readData` calls returned. -/
def returned (s : NetlinkReceiver) : List UInt8 :=
  s.results.flatMap ReadResult.bytes

/-- No call is between its two critical sections. -/
def Quiet (s : NetlinkReceiver) : Prop :=
  s.signalling = 0 ∧ s.entered = []

/-- The connection is a byte stream: what was read and what is left are the payloads in
order, no call found the buffer empty behind the semaphore, and the semaphore is positive
exactly when data is left. -/
structure ByteStream (s : NetlinkReceiver) : Prop where
  stream : s.returned ++ s.remaining = s.delivered.flatten
  found : .noData ∉ s.results
  positive : s.Quiet → (0 < s.dataLeft.mCount ↔ s.remaining ≠ [])

/-- A call that comes while no other is inside blocks, or times out, exactly when no byte
is available. -/
def BlocksWhenEmpty (s : NetlinkReceiver) : Label → Prop
  | .wait len => s.Quiet → ((s.waitData len).sleeping = len :: s.sleeping ↔ s.remaining = [])
  | .resume len true => len ∈ s.sleeping → s.Quiet → s.remaining = []
  | _ => True

/-- A message has a payload and comes when the one before it was consumed; a sleeping reader
wakes up when it was signalled, and times out when it was not. -/
def InTurn (s : NetlinkReceiver) : Label → Prop
  | .handleMessage payload => payload ≠ [] ∧ s.dataLen = 0
  | .resume len false => len ∈ s.sleeping → s.dataLeft.mCount ≠ 0
  | .resume len true => len ∈ s.sleeping → s.dataLeft.mCount = 0
  | _ => True

instance (s : NetlinkReceiver) (l : Label) : Decidable (s.InTurn l) :=
  match l with
  | .handleMessage payload => inferInstanceAs (Decidable (payload ≠ [] ∧ s.dataLen = 0))
  | .signal | .wait _ | .read _ => isTrue trivial
  | .resume len false => inferInstanceAs (Decidable (len ∈ s.sleeping → s.dataLeft.mCount ≠ 0))
  | .resume len true => inferInstanceAs (Decidable (len ∈ s.sleeping → s.dataLeft.mCount = 0))

/-- One token is on its way from the delivery to the reader as long as data is left. -/
structure Consistent (s : NetlinkReceiver) : Prop where
  nonneg : 0 ≤ s.dataLeft.mCount
  tokens : s.dataLeft.mCount + s.signalling + s.entered.length = if s.dataLen = 0 then 0 else 1
  left : s.remaining.length = s.dataLen
  stream : s.returned ++ s.remaining = s.delivered.flatten
  found : .noData ∉ s.results

theorem consistent_new : new.Consistent where
  nonneg := le_refl 0
  tokens := rfl
  left := rfl
  stream := rfl
  found := List.not_mem_nil

section Steps

variable {s : NetlinkReceiver}

theorem Consistent.remaining_eq_nil_iff (h : s.Consistent) : s.remaining = [] ↔ s.dataLen = 0 := by
  rw [← h.left, List.length_eq_zero_iff]

/-- While no call is inside, the semaphore carries the token. -/
theorem Consistent.positive_iff (h : s.Consistent) (hquiet : s.Quiet) :
    0 < s.dataLeft.mCount ↔ s.remaining ≠ [] := by
  have htokens := h.tokens
  rw [hquiet.1, hquiet.2] at htokens
  rw [Ne, h.remaining_eq_nil_iff]
  by_cases hempty : s.dataLen = 0
  · rw [if_pos hempty] at htokens
    simp at htokens
    omega
  · rw [if_neg hempty] at htokens
    simp at htokens
    omega

theorem Consistent.byteStream (h : s.Consistent) : s.ByteStream where
  stream := h.stream
  found := h.found
  positive := h.positive_iff

theorem Consistent.takeOver (h : s.Consistent) {payload : List UInt8} (hpayload : payload ≠ [])
    (hconsumed : s.dataLen = 0) : (s.takeOver payload).Consistent := by
  have htokens := h.tokens
  rw [if_pos hconsumed] at htokens
  have hlength : payload.length ≠ 0 := by
    rwa [Ne, List.length_eq_zero_iff]
  have hreturned : s.returned = s.delivered.flatten := by
    have hstream := h.stream
    rwa [h.remaining_eq_nil_iff.mpr hconsumed, List.append_nil] at hstream
  have hremaining : (s.takeOver payload).remaining = payload := by
    simp [remaining, NetlinkReceiver.takeOver]
  refine ⟨h.nonneg, ?_, ?_, ?_, h.found⟩
  · simp only [NetlinkReceiver.takeOver]
    push_cast
    omega
  · rw [hremaining]
    rfl
  · rw [hremaining]
    simp only [NetlinkReceiver.takeOver, List.flatten_append, List.flatten_singleton]
    exact congrArg (· ++ payload) hreturned

theorem Consistent.signal (h : s.Consistent) (hsignalling : 0 < s.signalling) :
    ({ s with dataLeft := s.dataLeft.signal, signalling := s.signalling - 1 } :
      NetlinkReceiver).Consistent := by
  have hnonneg := h.nonneg
  have htokens := h.tokens
  refine ⟨?_, ?_, h.left, h.stream, h.found⟩
  · simp only [CSemaphore.signal]
    omega
  · simp only [CSemaphore.signal]
    omega

theorem waitData_eq (len : Nat) :
    s.waitData len = if s.dataLeft.mCount = 0 then
      { s with
        dataLeft := { s.dataLeft with mWaitersCount := s.dataLeft.mWaitersCount + 1 }
        sleeping := len :: s.sleeping }
    else
      { s with
        dataLeft := { s.dataLeft with mCount := s.dataLeft.mCount - 1 }
        entered := len :: s.entered } := by
  by_cases hzero : s.dataLeft.mCount = 0
  · simp [waitData, CSemaphore.enter, CSemaphore.test, hzero]
  · simp [waitData, CSemaphore.enter, CSemaphore.test, hzero]

theorem Consistent.waitData (h : s.Consistent) (len : Nat) : (s.waitData len).Consistent := by
  have hnonneg := h.nonneg
  have htokens := h.tokens
  rw [waitData_eq]
  split
  · exact ⟨h.nonneg, h.tokens, h.left, h.stream, h.found⟩
  · refine ⟨?_, ?_, h.left, h.stream, h.found⟩
    · change 0 ≤ s.dataLeft.mCount - 1
      omega
    · simp only [List.length_cons]
      omega

theorem Consistent.resumeWait (h : s.Consistent) {len : Nat} {timedOut : Bool}
    (hwakes : timedOut = false → s.dataLeft.mCount ≠ 0) : (s.resumeWait len timedOut).Consistent := by
  have hnonneg := h.nonneg
  have htokens := h.tokens
  cases timedOut with
  | true =>
      refine ⟨h.nonneg, h.tokens, h.left, ?_, ?_⟩
      · change (s.results ++ [ReadResult.timedOut]).flatMap ReadResult.bytes ++ s.remaining = _
        rw [List.flatMap_append, List.flatMap_singleton, ReadResult.bytes, List.append_nil]
        exact h.stream
      · simpa [NetlinkReceiver.resumeWait] using h.found
  | false =>
      have := hwakes rfl
      refine ⟨?_, ?_, h.left, h.stream, h.found⟩
      · simp only [NetlinkReceiver.resumeWait, CSemaphore.leaveTimed, Bool.false_eq_true, if_false]
        omega
      · simp only [NetlinkReceiver.resumeWait, CSemaphore.leaveTimed, Bool.false_eq_true, if_false,
          List.length_cons]
        omega

/-- A reader behind the semaphore finds data, and no other call is inside. -/
theorem Consistent.entered_only (h : s.Consistent) {len : Nat} (hlen : len ∈ s.entered) :
    s.dataLen ≠ 0 ∧ s.dataLeft.mCount = 0 ∧ s.signalling = 0 ∧ s.entered = [len] := by
  have hnonneg := h.nonneg
  have htokens := h.tokens
  have hpos : 0 < s.entered.length := List.length_pos_of_mem hlen
  have hleft : s.dataLen ≠ 0 := by
    intro hempty
    rw [if_pos hempty] at htokens
    omega
  rw [if_neg hleft] at htokens
  refine ⟨hleft, by omega, by omega, ?_⟩
  obtain ⟨only, honly⟩ := List.length_eq_one_iff.mp (by omega : s.entered.length = 1)
  rw [honly, List.mem_singleton] at hlen
  rw [honly, hlen]

theorem Consistent.buffer (h : s.Consistent) (hleft : s.dataLen ≠ 0) :
    ∃ payload start, s.dataMsg = some payload ∧ s.dataStart = some start ∧
      s.remaining = (payload.drop start).take s.dataLen := by
  have hlength := h.left
  unfold remaining at hlength ⊢
  cases hmsg : s.dataMsg with
  | none =>
      rw [hmsg] at hlength
      exact absurd hlength.symm hleft
  | some payload =>
      cases hstart : s.dataStart with
      | none =>
          rw [hmsg, hstart] at hlength
          exact absurd hlength.symm hleft
      | some start => exact ⟨payload, start, rfl, rfl, rfl⟩

/-- How many bytes a reader copies. -/
def ret (s : NetlinkReceiver) (len : Nat) : Nat :=
  if len > s.dataLen then s.dataLen else len

theorem Consistent.readData_spec (h : s.Consistent) {len : Nat} (hlen : len ∈ s.entered) :
    (s.readData len).results = s.results ++ [.read (s.remaining.take (s.ret len))] ∧
      (s.readData len).remaining = s.remaining.drop (s.ret len) ∧
      (s.readData len).dataLen = s.dataLen - s.ret len ∧
      (s.readData len).dataLeft.mCount = (if s.dataLen - s.ret len = 0 then 0 else 1) ∧
      (s.readData len).signalling = 0 ∧ (s.readData len).entered = [] ∧
      (s.readData len).delivered = s.delivered := by
  obtain ⟨hleft, hcount, hsignalling, hentered⟩ := h.entered_only hlen
  obtain ⟨payload, start, hmsg, hstart, hremaining⟩ := h.buffer hleft
  have hret : (if len > s.dataLen then s.dataLen else len) = s.ret len := rfl
  by_cases hall : s.dataLen - s.ret len = 0
  · have hdrop : s.remaining.drop (s.ret len) = [] := by
      rw [List.drop_eq_nil_iff, h.left]
      omega
    rw [hdrop]
    simp [readData, hleft, hret, hall, hcount, hsignalling, hentered, remaining]
  · have hdrop : s.remaining.drop (s.ret len) =
        (payload.drop (start + s.ret len)).take (s.dataLen - s.ret len) := by
      rw [hremaining, List.drop_take, List.drop_drop]
    rw [hdrop]
    simp [readData, hleft, hret, hall, hcount, hsignalling, hentered, remaining, hmsg, hstart,
      CSemaphore.signal]

theorem Consistent.readData (h : s.Consistent) {len : Nat} (hlen : len ∈ s.entered) :
    (s.readData len).Consistent := by
  obtain ⟨hresults, hremaining, hdataLen, hcount, hsignalling, hentered, hdelivered⟩ :=
    h.readData_spec hlen
  refine ⟨?_, ?_, ?_, ?_, ?_⟩
  · rw [hcount]
    split <;> omega
  · rw [hcount, hsignalling, hentered, hdataLen]
    simp
  · rw [hremaining, hdataLen, List.length_drop, h.left]
  · rw [returned, hresults, hremaining, hdelivered, List.flatMap_append, List.flatMap_singleton,
      List.append_assoc, ReadResult.bytes, List.take_append_drop]
    exact h.stream
  · rw [hresults, List.mem_append, List.mem_singleton]
    rintro (hmem | heq)
    · exact h.found hmem
    · cases heq

theorem Consistent.step (h : s.Consistent) {l : Label} (hturn : s.InTurn l) {t : NetlinkReceiver}
    (hstep : system.step s l = some t) : t.Consistent := by
  cases l with
  | handleMessage payload =>
      rw [← Option.some.inj hstep]
      exact h.takeOver hturn.1 hturn.2
  | signal =>
      obtain ⟨hsignalling, ht⟩ := Option.ite_none_right_eq_some.mp hstep
      rw [← Option.some.inj ht]
      exact h.signal hsignalling
  | wait len =>
      rw [← Option.some.inj hstep]
      exact h.waitData len
  | resume len timedOut =>
      obtain ⟨hsleeping, ht⟩ := Option.ite_none_right_eq_some.mp hstep
      rw [← Option.some.inj ht]
      cases timedOut with
      | true => exact h.resumeWait fun hfalse => absurd hfalse.symm Bool.false_ne_true
      | false => exact h.resumeWait fun _ => hturn hsleeping
  | read len =>
      obtain ⟨hentered, ht⟩ := Option.ite_none_right_eq_some.mp hstep
      rw [← Option.some.inj ht]
      exact h.readData hentered

/-- A call that comes alone blocks, or times out, exactly when no byte is available. -/
theorem Consistent.blocksWhenEmpty (h : s.Consistent) {l : Label} (hturn : s.InTurn l) :
    s.BlocksWhenEmpty l := by
  cases l with
  | handleMessage payload => trivial
  | signal => trivial
  | wait len =>
      intro hquiet
      have hnonneg := h.nonneg
      have hpositive := h.positive_iff hquiet
      rw [waitData_eq]
      by_cases hzero : s.dataLeft.mCount = 0
      · rw [if_pos hzero]
        refine iff_of_true rfl ?_
        by_contra hne
        exact absurd (hpositive.mpr hne) (by omega)
      · rw [if_neg hzero]
        refine iff_of_false ?_ (hpositive.mp (by omega))
        exact fun hlist => absurd (congrArg List.length hlist) (by simp)
  | resume len timedOut =>
      cases timedOut with
      | false => trivial
      | true =>
          intro hsleeping hquiet
          by_contra hne
          have hpositive := (h.positive_iff hquiet).mpr hne
          have hzero : s.dataLeft.mCount = 0 := hturn hsleeping
          omega
  | read len => trivial

end Steps

/-- In every run whose steps are all in turn the connection is a byte stream in every state,
and a call that comes alone blocks or times out exactly when no byte is available. -/
theorem byteStream_run {ls : List Label} (hturn : system.StepsMeet InTurn new ls) :
    system.StepsMeet (fun s l => s.ByteStream ∧ s.BlocksWhenEmpty l ∧
      ∀ t, system.step s l = some t → t.ByteStream) new ls := by
  refine TransitionSystem.StepsMeet.of_invariant (fun _ _ _ h hl => h.step hl) ?_ consistent_new
    hturn
  intro s l h hl
  exact ⟨h.byteStream, h.blocksWhenEmpty hl, fun t hstep => (h.step hl hstep).byteStream⟩

/-- Two messages before the first read. -/
def overtaken : List Label :=
  [.handleMessage [1], .signal, .handleMessage [2], .signal, .wait 1, .read 1, .wait 1, .read 1]

/-- The first message is lost, and a reader finds no data behind the semaphore. -/
theorem not_byteStream :
    ∃ t, system.run new overtaken = some t ∧ t.delivered = [[1], [2]] ∧ t.returned = [2] ∧
      .noData ∈ t.results ∧ ¬ t.ByteStream := by
  refine ⟨_, rfl, rfl, rfl, ?_, ?_⟩
  · exact List.mem_append_right _ (List.mem_singleton_self _)
  · intro h
    exact absurd h.stream (by decide)

/-- A message, read in two parts by a reader that waited for it. -/
theorem byteStream_twoParts :
    system.StepsMeet (fun s l => s.ByteStream ∧ s.BlocksWhenEmpty l ∧
        ∀ t, system.step s l = some t → t.ByteStream) new
      [.wait 1, .handleMessage [1, 2], .signal, .resume 1 false, .read 1, .wait 5, .read 5] := by
  exact byteStream_run (by decide)

end NetlinkReceiver

end Exynos8890.MobiCore
