import Exynos8890.Library.CStruct
import Exynos8890.Library.RecordStream
import Exynos8890.Library.TransitionSystem
import Exynos8890.MobiCore.ClientLib.Process

/-!
# Waiting for the notifications of a session

`mcWaitNotification` drains the connection on which the daemon sends the notifications of a
session: the first read waits, the others take what is there.  What ends the drain, a
time-out, a closed peer, an error or a short read, is told apart for the first read only.

Main results:

- Definition `mcWaitNotification`: the call over the bytes of the connection.
- Theorem `waitMeets`: what the result says about the notifications that were consumed.
- Theorem `waits_iff`: notifications are neither skipped nor split over every sequence of
  calls, exactly while no receive cuts one.
-/

namespace Exynos8890.MobiCore.ClientLib

namespace WaitNotification

open CStruct

/-! ## Notifications on the wire -/

/-- `notification_t`, as the daemon writes it. -/
def encode (notification : Notification) : List UInt8 :=
  littleEndian 4 notification.sessionId.toNat ++
    littleEndian 4 notification.payload.toUInt32.toNat

/-- `notification_t`, from the bytes that were received. -/
def decode (bytes : List UInt8) : Notification where
  sessionId := UInt32.ofNat (ofLittleEndian (bytes.take 4))
  payload := (UInt32.ofNat (ofLittleEndian (bytes.drop 4))).toInt32

theorem decode_encode (notification : Notification) :
    decode (encode notification) = notification := by
  have hword : ∀ n : UInt32, UInt32.ofNat (ofLittleEndian (littleEndian 4 n.toNat)) = n := by
    intro n
    have hlt : n.toNat < 256 ^ 4 := lt_of_lt_of_eq n.toNat_lt (by norm_num)
    rw [ofLittleEndian_littleEndian, Nat.mod_eq_of_lt hlt, UInt32.ofNat_toNat]
  have hlen := length_littleEndian 4 notification.sessionId.toNat
  rw [decode, encode, List.take_left' hlen, List.drop_left' hlen, hword, hword,
    Int32.toInt32_toUInt32]

/-- The notifications of a connection. -/
def notifications : RecordFormat Notification where
  size := CStruct.sizeOf [u32, u32]
  encode := encode
  decode := decode
  size_pos := by decide
  length_encode := by
    intro notification
    rw [encode, List.length_append, length_littleEndian, length_littleEndian]
    rfl
  decode_encode := decode_encode

/-! ## Reading -/

/-- What happens to one read: its time runs out, it fails, or it returns so many bytes fewer
than it could, but at least one. -/
inductive ReadAnswer where
  | timeout
  | failed
  | received (cut : Nat)
deriving DecidableEq

/-- What `readData` returns: -2, -1, or the number of bytes it has received. -/
inductive NumRead where
  | timedOut
  | error
  | bytes (received : List UInt8)
deriving DecidableEq

/-- `Connection::readData`, with what is unread behind it.  No bytes are received from a peer
that has closed. -/
def readData (answer : ReadAnswer) (len : Nat) (unread : List UInt8) : NumRead × List UInt8 :=
  match answer with
  | .timeout => (.timedOut, unread)
  | .failed => (.error, unread)
  | .received cut =>
      let offered := min len unread.length
      let n := min offered (max 1 (offered - cut))
      (.bytes (unread.take n), unread.drop n)

/-! ## The call -/

/-- What a drain leaves: the result, the notifications it has consumed, the bytes behind
them, the last error of the session, and whether the connection was found dead. -/
structure Drained where
  mcResult : McResult
  consumed : List Notification
  unread : List UInt8
  lastErr : Int32
  dead : Bool
deriving DecidableEq

/-- A read that returns no notification ends the drain.  Only the first one is told to the
caller. -/
def stop (read : NumRead) (consumed : List Notification) (unread : List UInt8) (lastErr : Int32) :
    Drained where
  mcResult :=
    if consumed ≠ [] then mcDrvOk
    else if read = .timedOut then mcDrvErrTimeout
    else mcDrvErrNotification
  consumed := consumed
  unread := unread
  lastErr := lastErr
  dead := decide (consumed = [] ∧ read = .bytes [])

/-- The loop of `mcWaitNotification`.  A read behind the listed ones times out. -/
def drain (lastErr : Int32) : List ReadAnswer → List Notification → List UInt8 → Drained
  | [], consumed, unread => stop .timedOut consumed unread lastErr
  | answer :: answers, consumed, unread =>
      match readData answer notifications.size unread with
      | (.bytes received, rest) =>
          if received.length ≠ notifications.size then stop (.bytes received) consumed rest lastErr
          else if (decode received).payload ≠ 0 then
            { mcResult := mcDrvInfoNotification
              consumed := consumed ++ [decode received]
              unread := rest
              lastErr := (decode received).payload
              dead := false }
          else drain lastErr answers (consumed ++ [decode received]) rest
      | (read, rest) => stop read consumed rest lastErr

/-- A process that waits on one of its sessions: the connection for notifications, those that
the calls have seen, and the last error of the session. -/
structure Waiting where
  process : Process
  unread : List UInt8
  seen : List Notification
  lastErr : Int32

/-- What a call returns, and the notifications that it has consumed. -/
structure WaitResult where
  mcResult : McResult
  consumed : List Notification
  after : Waiting

/-- The call ends before it reads. -/
def refuse (code : McResult) (w : Waiting) : WaitResult where
  mcResult := code
  consumed := []
  after := w

/-- `mcWaitNotification`; a null `session` is `none`. -/
def mcWaitNotification (session : Option SessionHandle) (answers : List ReadAnswer) (w : Waiting) :
    WaitResult :=
  match session with
  | none => refuse mcDrvErrNullPointer w
  | some handle =>
      match resolveDeviceId handle.deviceId w.process.devices with
      | none => refuse mcDrvErrUnknownDevice w
      | some device =>
          match device.resolveSessionId handle.sessionId with
          | none => refuse mcDrvErrUnknownSession w
          | some _ =>
              let drained := drain w.lastErr answers [] w.unread
              { mcResult := drained.mcResult
                consumed := drained.consumed
                after :=
                  { process :=
                      if drained.dead = true then w.process.removeDevice handle.deviceId
                      else w.process
                    unread := drained.unread
                    seen := w.seen ++ drained.consumed
                    lastErr := drained.lastErr } }

/-! ## What the result says -/

/-- What the result says about the consumed notifications and about the last error. -/
structure Reports (mcResult : McResult) (consumed : List Notification) (lastErr : Int32) :
    Prop where
  ok : mcResult = mcDrvOk → consumed ≠ [] ∧ ∀ n ∈ consumed, n.payload = 0
  info : mcResult = mcDrvInfoNotification ↔ ∃ n ∈ consumed, n.payload ≠ 0
  last : mcResult = mcDrvInfoNotification →
    ∃ before n, consumed = before ++ [n] ∧ n.payload ≠ 0 ∧ (∀ m ∈ before, m.payload = 0) ∧
      lastErr = n.payload

theorem reports_of_zero {mcResult : McResult} {consumed : List Notification} {lastErr : Int32}
    (hzero : ∀ n ∈ consumed, n.payload = 0) (hinfo : mcResult ≠ mcDrvInfoNotification)
    (hok : mcResult = mcDrvOk → consumed ≠ []) : Reports mcResult consumed lastErr where
  ok h := ⟨hok h, hzero⟩
  info := by
    apply iff_of_false hinfo
    rintro ⟨n, hn, hpayload⟩
    exact hpayload (hzero n hn)
  last h := absurd h hinfo

theorem stop_reports {read : NumRead} {consumed : List Notification} {unread : List UInt8}
    {lastErr : Int32} (hzero : ∀ n ∈ consumed, n.payload = 0) :
    Reports (stop read consumed unread lastErr).mcResult (stop read consumed unread lastErr).consumed
      (stop read consumed unread lastErr).lastErr := by
  apply reports_of_zero hzero
  · simp only [stop]
    split
    · decide
    · split
      · decide
      · decide
  · intro hok
    simp only [stop] at hok ⊢
    by_contra hempty
    rw [if_neg (not_not.mpr hempty)] at hok
    split at hok
    · exact absurd hok (by decide)
    · exact absurd hok (by decide)

/-- The drain, by induction over the reads: what it has consumed before the last notification
has no payload. -/
theorem drain_reports {lastErr : Int32} (answers : List ReadAnswer) (consumed : List Notification)
    (unread : List UInt8) (hzero : ∀ n ∈ consumed, n.payload = 0) :
    Reports (drain lastErr answers consumed unread).mcResult
      (drain lastErr answers consumed unread).consumed
      (drain lastErr answers consumed unread).lastErr := by
  induction answers generalizing consumed unread with
  | nil => exact stop_reports hzero
  | cons answer answers ih =>
      rw [drain]
      split
      · next received rest hread =>
          split
          · exact stop_reports hzero
          · split
            · next hpayload =>
                constructor
                · intro hok
                  exact absurd hok (by decide : mcDrvInfoNotification ≠ mcDrvOk)
                · apply iff_of_true rfl
                  exact ⟨_, List.mem_append_right _ (List.mem_singleton_self _), hpayload⟩
                · intro _
                  exact ⟨consumed, _, rfl, hpayload, hzero, rfl⟩
            · next hpayload =>
                apply ih
                intro n hn
                rcases List.mem_append.mp hn with hbefore | hnew
                · exact hzero n hbefore
                · rw [List.mem_singleton.mp hnew]
                  exact not_not.mp hpayload
      · exact stop_reports hzero

theorem waitMeets (session : Option SessionHandle) (answers : List ReadAnswer) (w : Waiting) :
    Reports (mcWaitNotification session answers w).mcResult
      (mcWaitNotification session answers w).consumed
      (mcWaitNotification session answers w).after.lastErr := by
  have hrefuse : ∀ {code : McResult}, code ≠ mcDrvInfoNotification → code ≠ mcDrvOk →
      Reports (refuse code w).mcResult (refuse code w).consumed (refuse code w).after.lastErr := by
    intro code hinfo hok
    exact reports_of_zero (fun n hn => absurd hn List.not_mem_nil) hinfo fun h => absurd h hok
  unfold mcWaitNotification
  split
  · exact hrefuse (by decide) (by decide)
  · split
    · exact hrefuse (by decide) (by decide)
    · split
      · exact hrefuse (by decide) (by decide)
      · exact drain_reports answers [] w.unread fun n hn => absurd hn List.not_mem_nil

/-! ## What is consumed -/

theorem readData_bytes {answer : ReadAnswer} {len : Nat} {unread received rest : List UInt8}
    (h : readData answer len unread = (.bytes received, rest)) :
    unread = received ++ rest ∧ received.length ≤ len := by
  cases answer with
  | timeout => cases h
  | failed => cases h
  | received cut =>
      simp only [readData, Prod.mk.injEq, NumRead.bytes.injEq] at h
      obtain ⟨rfl, rfl⟩ := h
      constructor
      · rw [List.take_append_drop]
      · rw [List.length_take]
        omega

theorem readData_unread {answer : ReadAnswer} {len : Nat} {unread rest : List UInt8}
    {read : NumRead} (h : readData answer len unread = (read, rest))
    (hread : ∀ received, read ≠ .bytes received) : rest = unread := by
  cases answer with
  | timeout =>
      cases h
      rfl
  | failed =>
      cases h
      rfl
  | received cut =>
      simp only [readData, Prod.mk.injEq] at h
      exact absurd h.1.symm (hread _)

/-- Every read of the drain that receives something receives a whole notification. -/
def WholeReads : List ReadAnswer → List UInt8 → Prop
  | [], _ => True
  | answer :: answers, unread =>
      match readData answer notifications.size unread with
      | (.bytes received, rest) =>
          received = [] ∨ received.length = notifications.size ∧
            ((decode received).payload = 0 → WholeReads answers rest)
      | _ => True

section Turn

variable {lastErr : Int32} {answer : ReadAnswer} {answers : List ReadAnswer}
  {consumed : List Notification} {unread received rest : List UInt8}

theorem drain_received
    (hread : readData answer notifications.size unread = (.bytes received, rest)) :
    drain lastErr (answer :: answers) consumed unread =
      if received.length ≠ notifications.size then stop (.bytes received) consumed rest lastErr
      else if (decode received).payload ≠ 0 then
        { mcResult := mcDrvInfoNotification
          consumed := consumed ++ [decode received]
          unread := rest
          lastErr := (decode received).payload
          dead := false }
      else drain lastErr answers (consumed ++ [decode received]) rest := by
  rw [drain, hread]

theorem wholeReads_received
    (hread : readData answer notifications.size unread = (.bytes received, rest)) :
    WholeReads (answer :: answers) unread ↔
      received = [] ∨ received.length = notifications.size ∧
        ((decode received).payload = 0 → WholeReads answers rest) := by
  rw [WholeReads, hread]

theorem drain_none {read : NumRead}
    (hread : readData answer notifications.size unread = (read, rest))
    (hnone : ∀ received, read ≠ .bytes received) :
    drain lastErr (answer :: answers) consumed unread = stop read consumed unread lastErr ∧
      WholeReads (answer :: answers) unread := by
  have hsame := readData_unread hread hnone
  rw [drain, WholeReads, hread, hsame]
  cases read with
  | timedOut => exact ⟨rfl, trivial⟩
  | error => exact ⟨rfl, trivial⟩
  | bytes received => exact absurd rfl (hnone received)

end Turn

/-- What one read does: it receives some bytes, or nothing. -/
theorem readData_cases (answer : ReadAnswer) (len : Nat) (unread : List UInt8) :
    (∃ received rest, readData answer len unread = (.bytes received, rest)) ∨
    ∃ read rest, readData answer len unread = (read, rest) ∧
      ∀ received, read ≠ .bytes received := by
  cases answer with
  | timeout => exact Or.inr ⟨_, _, rfl, fun _ h => NumRead.noConfusion h⟩
  | failed => exact Or.inr ⟨_, _, rfl, fun _ h => NumRead.noConfusion h⟩
  | received cut => exact Or.inl ⟨_, _, rfl⟩

/-- The drain takes no more bytes than the notifications have that it consumes, exactly when
its reads are whole. -/
theorem drain_balance (lastErr : Int32) (answers : List ReadAnswer)
    (consumed : List Notification) (unread : List UInt8) :
    let drained := drain lastErr answers consumed unread
    let before := unread.length + notifications.size * consumed.length
    let after := drained.unread.length + notifications.size * drained.consumed.length
    after ≤ before ∧ (after = before → WholeReads answers unread) := by
  induction answers generalizing consumed unread with
  | nil => exact ⟨le_rfl, fun _ => trivial⟩
  | cons answer answers ih =>
      rcases readData_cases answer notifications.size unread with
        ⟨received, rest, hread⟩ | ⟨read, rest, hread, hnone⟩
      · obtain ⟨hunread, _⟩ := readData_bytes hread
        have hlength := congrArg List.length hunread
        rw [List.length_append] at hlength
        rw [drain_received hread, wholeReads_received hread]
        split
        · simp only [stop]
          constructor
          · omega
          · intro heq
            exact Or.inl (List.length_eq_zero_iff.mp (by omega))
        · next hsize =>
            split
            · next hpayload =>
                simp only [List.length_append, List.length_singleton, mul_add]
                constructor
                · omega
                · intro _
                  exact Or.inr ⟨not_not.mp hsize, fun hzero => absurd hzero hpayload⟩
            · have hrest := ih (consumed ++ [decode received]) rest
              simp only [List.length_append, List.length_singleton, mul_add] at hrest
              constructor
              · have hle := hrest.1
                omega
              · intro heq
                exact Or.inr ⟨not_not.mp hsize, fun _ => hrest.2 (by omega)⟩
      · obtain ⟨hstop, hwhole⟩ : drain lastErr (answer :: answers) consumed unread =
            stop read consumed unread lastErr ∧ WholeReads (answer :: answers) unread :=
          drain_none hread hnone
        rw [hstop]
        exact ⟨le_rfl, fun _ => hwhole⟩

theorem drain_accounted {lastErr : Int32} {written seen : List Notification}
    (answers : List ReadAnswer) (consumed : List Notification) (unread : List UInt8)
    (haccounted : notifications.Accounted written (seen ++ consumed) unread)
    (hwhole : WholeReads answers unread) :
    notifications.Accounted written (seen ++ (drain lastErr answers consumed unread).consumed)
      (drain lastErr answers consumed unread).unread := by
  induction answers generalizing consumed unread with
  | nil => exact haccounted
  | cons answer answers ih =>
      rcases readData_cases answer notifications.size unread with
        ⟨received, rest, hread⟩ | ⟨read, rest, hread, hnone⟩
      · obtain ⟨hunread, _⟩ := readData_bytes hread
        rw [wholeReads_received hread] at hwhole
        rw [drain_received hread]
        split
        · next hsize =>
            rcases hwhole with hnil | ⟨hlength, _⟩
            · rw [hunread, hnil] at haccounted
              exact haccounted
            · exact absurd hlength hsize
        · next hsize =>
            have hlength := not_not.mp hsize
            have hnext := haccounted.next (by rw [hunread, List.length_append]; omega)
            rw [hunread, ← hlength, List.take_left, List.drop_left, List.append_assoc] at hnext
            split
            · exact hnext
            · next hpayload =>
                apply ih _ _ hnext
                rcases hwhole with hnil | ⟨_, hrest⟩
                · rw [hnil] at hlength
                  exact absurd hlength (by decide)
                · exact hrest (not_not.mp hpayload)
      · rw [(drain_none hread hnone).1]
        exact haccounted

/-! ## Every sequence of calls -/

/-- The session is known to the library. -/
def Listed (session : Option SessionHandle) (w : Waiting) : Prop :=
  ∃ handle ∈ session, ∃ device ∈ resolveDeviceId handle.deviceId w.process.devices,
    (device.resolveSessionId handle.sessionId).isSome = true

/-- A call on a session that is listed drains its connection; any other call reads nothing. -/
theorem mcWaitNotification_cases (session : Option SessionHandle) (answers : List ReadAnswer)
    (w : Waiting) :
    (¬ Listed session w ∧ (mcWaitNotification session answers w).after = w) ∨
    (Listed session w ∧
      (mcWaitNotification session answers w).after.unread =
        (drain w.lastErr answers [] w.unread).unread ∧
      (mcWaitNotification session answers w).after.seen =
        w.seen ++ (drain w.lastErr answers [] w.unread).consumed) := by
  cases session with
  | none =>
      left
      constructor
      · rintro ⟨handle, hhandle, _⟩
        cases hhandle
      · rfl
  | some handle =>
      simp only [mcWaitNotification, Listed, Option.mem_def, Option.some.injEq]
      cases hdevice : resolveDeviceId handle.deviceId w.process.devices with
      | none =>
          left
          constructor
          · rintro ⟨_, rfl, device, hresolve, _⟩
            rw [hdevice] at hresolve
            cases hresolve
          · rfl
      | some device =>
          cases hsession : device.resolveSessionId handle.sessionId with
          | none =>
              left
              constructor
              · rintro ⟨_, rfl, device', hresolve, hsome⟩
                rw [hdevice] at hresolve
                cases hresolve
                rw [hsession] at hsome
                cases hsome
              · simp only [hsession]
                rfl
          | some found =>
              right
              simp only [hsession]
              refine ⟨⟨handle, rfl, device, hdevice, ?_⟩, trivial, trivial⟩
              rw [hsession]
              rfl

/-- A process that waits on one session, under every sequence of calls. -/
def system (session : Option SessionHandle) : TransitionSystem Waiting (List ReadAnswer) where
  step w answers := some (mcWaitNotification session answers w).after

/-- The connection of a new session, on which the daemon writes these notifications. -/
def start (process : Process) (written : List Notification) (lastErr : Int32) : Waiting where
  process := process
  unread := notifications.stream written
  seen := []
  lastErr := lastErr

/-- The notifications that the calls have seen and those that are unread are the ones that the
daemon has written. -/
def InStep (written : List Notification) (w : Waiting) : Prop :=
  notifications.Accounted written w.seen w.unread

/-- The result of a call tells what it has consumed, and the connection stays in step. -/
def Meets (session : Option SessionHandle) (written : List Notification) (w : Waiting)
    (answers : List ReadAnswer) : Prop :=
  Reports (mcWaitNotification session answers w).mcResult
    (mcWaitNotification session answers w).consumed
    (mcWaitNotification session answers w).after.lastErr ∧
  InStep written (mcWaitNotification session answers w).after

/-- No read of the call receives a part of a notification. -/
def CutsNone (session : Option SessionHandle) (w : Waiting) (answers : List ReadAnswer) : Prop :=
  Listed session w → WholeReads answers w.unread

theorem meets_iff {session : Option SessionHandle} {written : List Notification} {w : Waiting}
    (h : InStep written w) (answers : List ReadAnswer) :
    Meets session written w answers ↔ CutsNone session w answers := by
  have hreports := waitMeets session answers w
  rcases mcWaitNotification_cases session answers w with
    ⟨hunlisted, hsame⟩ | ⟨hlisted, hunread, hseen⟩
  · apply iff_of_true
    · refine ⟨hreports, ?_⟩
      rw [hsame]
      exact h
    · exact fun hlisted => absurd hlisted hunlisted
  · constructor
    · rintro ⟨_, hafter⟩ _
      have hbefore := h.balance
      have hbalance := hafter.balance
      rw [hunread, hseen, List.length_append, mul_add] at hbalance
      apply (drain_balance w.lastErr answers [] w.unread).2
      simp only [List.length_nil, mul_zero, add_zero]
      omega
    · intro hcuts
      refine ⟨hreports, ?_⟩
      rw [InStep, hunread, hseen]
      apply drain_accounted answers [] w.unread _ (hcuts hlisted)
      rw [List.append_nil]
      exact h

/-- In every sequence of calls every result is right and no notification is skipped or split,
exactly while no read receives a part of a notification. -/
theorem waits_iff (session : Option SessionHandle) (process : Process)
    (written : List Notification) (lastErr : Int32) (calls : List (List ReadAnswer)) :
    (system session).StepsMeet (Meets session written) (start process written lastErr) calls ↔
      (system session).StepsMeet (CutsNone session) (start process written lastErr) calls := by
  apply TransitionSystem.stepsMeet_congr (I := InStep written)
  · intro w answers t _ hmeets hstep
    cases hstep
    exact hmeets.2
  · exact fun w answers h => meets_iff h answers
  · exact RecordFormat.accounted_start

/-! ## A notification in two pieces -/

/-- Session 3 is open. -/
def oneSession : Process :=
  { Process.init with
    devices := [{ Device.new mcDeviceIdDefault 1 0 with sessionList := [Session.new 3] }] }

/-- The handle of the session. -/
def thirdSession : SessionHandle where
  sessionId := 3
  deviceId := mcDeviceIdDefault

/-- The first read receives half of a notification: the second call takes the other half with
half of the next notification. -/
theorem not_waits :
    ¬ ∀ session process written lastErr calls,
      (system session).StepsMeet (Meets session written) (start process written lastErr) calls := by
  intro hmeets
  have hfirst := (hmeets (some thirdSession) oneSession
    [{ sessionId := 3, payload := 0 }, { sessionId := 3, payload := 0 }] 0 [[.received 4]]).1
  have hbalance := hfirst.2.balance
  exact absurd hbalance (by decide)

end WaitNotification

end Exynos8890.MobiCore.ClientLib
