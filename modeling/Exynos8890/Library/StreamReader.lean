import Exynos8890.Library.CStruct

/-!
# Receiving commands from a byte stream

A reader receives a command from a stream socket part by part.  The kernel decides how
many bytes each receive returns, the command's own bytes how long its later parts are.

Main results:

- Definition `Plan.run`: what a reader makes of a stream, for every way to split it.
- Definition `Plan.extent`: how long the command is, from its bytes alone.
- Theorem `Plan.run_received`: what a reader receives is complete, however it came.
- Theorem `Plan.run_spec`: with complete receives the reader takes exactly the command,
  and it does not accept a command that the stream cuts short.
-/

namespace StreamReader

open CStruct

/-! ## The socket -/

/-- The bytes that one receive transfers at most. -/
def maxReceive : Nat := 0x7ffff000

/-- A stream socket: the bytes the peer sends before it closes, and what the kernel does
for the next receives.  A receive fails, or it returns `cut` bytes fewer than it could,
but at least one; receives that are not listed return all they can. -/
structure Socket where
  unread : List UInt8
  receives : List (Option Nat)
deriving DecidableEq, Repr

/-- The bytes that a receive of this length can return. -/
def Socket.offered (s : Socket) (len : Nat) : Nat :=
  min (min len maxReceive) s.unread.length

/-- One receive.  It returns no bytes when none are asked for or the peer has closed. -/
def Socket.receive (s : Socket) (len : Nat) : Option (List UInt8) × Socket :=
  match s.receives.headD (some 0) with
  | none => (none, { s with receives := s.receives.tail })
  | some cut =>
      let n := min (s.offered len) (max 1 (s.offered len - cut))
      (some (s.unread.take n), { unread := s.unread.drop n, receives := s.receives.tail })

/-- No receive fails, and the first `k` return all they can. -/
def Whole (receives : List (Option Nat)) (k : Nat) : Prop :=
  (∀ r ∈ receives, r ≠ none) ∧ ∀ r ∈ receives.take k, r = some 0

instance (receives : List (Option Nat)) (k : Nat) : Decidable (Whole receives k) :=
  inferInstanceAs (Decidable (_ ∧ _))

theorem Whole.tail {rs : List (Option Nat)} {k : Nat} (h : Whole rs (k + 1)) :
    Whole rs.tail k := by
  cases rs with
  | nil => exact ⟨h.1, by simp⟩
  | cons r rs =>
      constructor
      · exact fun q hq => h.1 q (List.mem_cons_of_mem r hq)
      · exact fun q hq => h.2 q (List.mem_cons_of_mem r hq)

theorem Whole.head {rs : List (Option Nat)} {k : Nat} (h : Whole rs (k + 1)) :
    rs.headD (some 0) = some 0 := by
  cases rs with
  | nil => rfl
  | cons r rs => exact h.2 r List.mem_cons_self

/-- A complete receive returns what it is asked for, as far as it is there. -/
theorem Socket.receive_whole {s : Socket} (h : s.receives.headD (some 0) = some 0)
    (len : Nat) :
    s.receive len = (some (s.unread.take (s.offered len)),
      { unread := s.unread.drop (s.offered len), receives := s.receives.tail }) := by
  have hn : min (s.offered len) (max 1 (s.offered len - 0)) = s.offered len := by omega
  simp only [Socket.receive, h, hn]

/-- A receive that does not fail returns at least one of the bytes it can return. -/
theorem Socket.receive_some {s : Socket} (h : ∀ r ∈ s.receives, r ≠ none) (len : Nat) :
    ∃ n ≤ s.offered len, (0 < s.offered len → 0 < n) ∧
      s.receive len = (some (s.unread.take n),
        { unread := s.unread.drop n, receives := s.receives.tail }) := by
  unfold Socket.receive
  cases hr : s.receives.headD (some 0) with
  | none =>
      refine absurd hr ?_
      cases hrs : s.receives with
      | nil => simp
      | cons r rs => exact h r (hrs ▸ List.mem_cons_self)
  | some cut =>
      refine ⟨_, min_le_left _ _, ?_, rfl⟩
      omega

/-- What a receive returns is taken from the stream, and is no longer than what was asked
for. -/
theorem Socket.receive_append {s t : Socket} {len : Nat} {bytes : List UInt8}
    (h : s.receive len = (some bytes, t)) :
    s.unread = bytes ++ t.unread ∧ bytes.length ≤ len := by
  unfold Socket.receive at h
  split at h
  · cases h
  · cases h
    constructor
    · rw [List.take_append_drop]
    · rw [List.length_take, Socket.offered]
      omega

/-! ## Readers -/

/-- The length of a part: fixed, or the 32-bit integer at an offset of the command. -/
inductive Size where
  | bytes (n : Nat)
  | announced (off : Nat)
deriving DecidableEq, Repr

def Size.eval (command : List UInt8) : Size → Nat
  | .bytes n => n
  | .announced off => ofLittleEndian ((command.drop off).take 4)

/-- A step of a reader: a check that may end it, or one receive that must return the
whole part. -/
inductive Part where
  | check (passes : Bool)
  | receive (size : Size)
deriving DecidableEq, Repr

/-- The steps of a reader, and what it collects after them with as many receives as it
takes. -/
structure Plan where
  parts : List Part
  rest : Option Size
deriving DecidableEq, Repr

/-- How a reader ends: it has the whole command, a check refused it, a part was short, or
it waits forever for a peer that has closed. -/
inductive Outcome where
  | received
  | refused
  | short
  | stuck
deriving DecidableEq, Repr

/-- What a reader leaves. -/
structure Run where
  outcome : Outcome
  command : List UInt8
  socket : Socket
deriving DecidableEq, Repr

def runParts : List Part → List UInt8 → Socket → Run
  | [], command, s => ⟨.received, command, s⟩
  | .check true :: ps, command, s => runParts ps command s
  | .check false :: _, command, s => ⟨.refused, command, s⟩
  | .receive size :: ps, command, s =>
      match s.receive (size.eval command) with
      | (none, s') => ⟨.short, command, s'⟩
      | (some bytes, s') =>
          if bytes.length < size.eval command then
            ⟨.short, command ++ bytes, s'⟩
          else
            runParts ps (command ++ bytes) s'

/-- Receive until nothing is missing.  Each receive before the peer closes returns at
least one byte, so the fuel is the number of missing bytes. -/
def receiveLoop : Nat → Nat → List UInt8 → Socket → Run
  | _, 0, command, s => ⟨.received, command, s⟩
  | 0, _ + 1, command, s => ⟨.stuck, command, s⟩
  | fuel + 1, missing + 1, command, s =>
      match s.receive (missing + 1) with
      | (none, s') => ⟨.short, command, s'⟩
      | (some [], s') => ⟨.stuck, command, s'⟩
      | (some (b :: bytes), s') =>
          receiveLoop fuel (missing - bytes.length) (command ++ b :: bytes) s'

def Plan.run (plan : Plan) (command : List UInt8) (s : Socket) : Run :=
  let r := runParts plan.parts command s
  match r.outcome, plan.rest with
  | .received, some size =>
      receiveLoop (size.eval r.command) (size.eval r.command) r.command r.socket
  | _, _ => r

/-! ## The command in the stream -/

/-- Where the parts end, when they begin at `pos` of these bytes. -/
def endOfParts (bytes : List UInt8) : List Part → Nat → Nat
  | [], pos => pos
  | .check _ :: ps, pos => endOfParts bytes ps pos
  | .receive size :: ps, pos => endOfParts bytes ps (pos + size.eval bytes)

/-- The length of the rest. -/
def Plan.restSize (plan : Plan) (bytes : List UInt8) : Nat :=
  match plan.rest with
  | none => 0
  | some size => size.eval bytes

/-- The length of the command that these bytes begin with. -/
def Plan.extent (plan : Plan) (pos : Nat) (bytes : List UInt8) : Nat :=
  endOfParts bytes plan.parts pos + plan.restSize bytes

/-- The number of receives before the rest. -/
def receiveCount : List Part → Nat
  | [] => 0
  | .check _ :: ps => receiveCount ps
  | .receive _ :: ps => receiveCount ps + 1

/-- Lengths are read only after they have been received. -/
def Size.Known (pos : Nat) : Size → Prop
  | .bytes _ => True
  | .announced off => off + 4 ≤ pos

instance (pos : Nat) (size : Size) : Decidable (size.Known pos) := by
  cases size <;> unfold Size.Known <;> infer_instance

/-- The bytes that a part has at least. -/
def Size.least : Size → Nat
  | .bytes n => n
  | .announced _ => 0

/-- Every part knows its length when it is received. -/
def PartsKnown (rest : Option Size) : List Part → Nat → Prop
  | [], pos => ∀ size ∈ rest, size.Known pos
  | .check _ :: ps, pos => PartsKnown rest ps pos
  | .receive size :: ps, pos => size.Known pos ∧ PartsKnown rest ps (pos + size.least)

/-- On these bytes, a check that fails leaves nothing behind it to receive, and no part
is longer than one receive can be.  `e` is where the command ends. -/
def PartsProper (bytes : List UInt8) (e : Nat) : List Part → Nat → Prop
  | [], _ => True
  | .check passes :: ps, pos =>
      (passes = true ∨ min e bytes.length ≤ pos) ∧ PartsProper bytes e ps pos
  | .receive size :: ps, pos =>
      min (size.eval bytes) (bytes.length - pos) ≤ maxReceive ∧
        PartsProper bytes e ps (pos + size.eval bytes)

instance decidablePartsProper (bytes : List UInt8) (e : Nat) :
    (ps : List Part) → (pos : Nat) → Decidable (PartsProper bytes e ps pos)
  | [], _ => isTrue trivial
  | .check _ :: ps, pos =>
      have := decidablePartsProper bytes e ps pos
      inferInstanceAs (Decidable (_ ∧ _))
  | .receive size :: ps, pos =>
      have := decidablePartsProper bytes e ps (pos + size.eval bytes)
      inferInstanceAs (Decidable (_ ∧ _))

def Plan.Known (plan : Plan) (pos : Nat) : Prop :=
  PartsKnown plan.rest plan.parts pos

/-- The plan meets no failing check and no oversized part before the command's end. -/
def Plan.Proper (plan : Plan) (pos : Nat) (bytes : List UInt8) : Prop :=
  PartsProper bytes (plan.extent pos bytes) plan.parts pos

instance (plan : Plan) (pos : Nat) (bytes : List UInt8) : Decidable (plan.Proper pos bytes) :=
  decidablePartsProper _ _ _ _

/-! ## What a reader does -/

theorem Size.eval_append {size : Size} {command : List UInt8}
    (h : size.Known command.length) (later : List UInt8) :
    size.eval (command ++ later) = size.eval command := by
  cases size with
  | bytes n => rfl
  | announced off =>
      have hoff : off + 4 ≤ command.length := h
      have htake : 4 ≤ (command.drop off).length := by
        rw [List.length_drop]
        omega
      rw [Size.eval, Size.eval, List.drop_append_of_le_length (by omega),
        List.take_append_of_le_length htake]

theorem Size.Known.mono {size : Size} {pos pos' : Nat} (h : size.Known pos)
    (hle : pos ≤ pos') : size.Known pos' := by
  cases size with
  | bytes n => trivial
  | announced off => exact Nat.le_trans h hle

theorem Size.least_le (size : Size) (bytes : List UInt8) : size.least ≤ size.eval bytes := by
  cases size with
  | bytes n => exact le_rfl
  | announced off => exact Nat.zero_le _

theorem PartsKnown.mono {rest : Option Size} {ps : List Part} {pos pos' : Nat}
    (h : PartsKnown rest ps pos) (hle : pos ≤ pos') : PartsKnown rest ps pos' := by
  induction ps generalizing pos pos' with
  | nil => exact fun size hsize => (h size hsize).mono hle
  | cons part ps ih =>
      cases part with
      | check passes => exact ih h hle
      | receive size => exact ⟨h.1.mono hle, ih h.2 (Nat.add_le_add_right hle _)⟩

theorem le_endOfParts (bytes : List UInt8) (ps : List Part) (pos : Nat) :
    pos ≤ endOfParts bytes ps pos := by
  induction ps generalizing pos with
  | nil => exact le_rfl
  | cons part ps ih =>
      cases part with
      | check passes => exact ih pos
      | receive size => exact Nat.le_trans (Nat.le_add_right _ _) (ih (pos + size.eval bytes))

/-- What is true of the parts of a reader when they end: they have the whole command so
far, or they stop at the end of the command or of the stream. -/
inductive PartsEnd (bytes : List UInt8) (e : Nat) (ps : List Part) (rest : Option Size)
    (pos : Nat) (r : Run) : Prop
  | received (houtcome : r.outcome = .received)
      (hlength : r.command.length = endOfParts bytes ps pos)
      (hknown : ∀ size ∈ rest, size.Known r.command.length)
      (hreceives : ∀ q ∈ r.socket.receives, q ≠ none)
  | stopped (houtcome : r.outcome = .refused ∨ r.outcome = .short ∧ bytes.length < e)
      (hlength : r.command.length = min e bytes.length)

theorem runParts_spec {bytes : List UInt8} {e : Nat} {rest : Option Size} (ps : List Part) :
    ∀ (command : List UInt8) (s : Socket), command ++ s.unread = bytes →
      PartsKnown rest ps command.length → PartsProper bytes e ps command.length →
      endOfParts bytes ps command.length ≤ e → Whole s.receives (receiveCount ps) →
      (runParts ps command s).command ++ (runParts ps command s).socket.unread = bytes ∧
        PartsEnd bytes e ps rest command.length (runParts ps command s) := by
  induction ps with
  | nil =>
      intro command s hbytes hknown _ _ hwhole
      exact ⟨hbytes, .received rfl rfl hknown hwhole.1⟩
  | cons part ps ih =>
      intro command s hbytes hknown hproper he hwhole
      have hlen : bytes.length = command.length + s.unread.length := by
        rw [← hbytes, List.length_append]
      cases part with
      | check passes =>
          cases passes with
          | true =>
              obtain ⟨happend, hend⟩ := ih command s hbytes hknown hproper.2 he hwhole
              refine ⟨happend, ?_⟩
              cases hend with
              | received h1 h2 h3 h4 => exact .received h1 h2 h3 h4
              | stopped h1 h2 => exact .stopped h1 h2
          | false =>
              have hdone : min e bytes.length ≤ command.length := by
                rcases hproper.1 with hpass | hdone
                · exact absurd hpass Bool.false_ne_true
                · exact hdone
              have hpos := le_endOfParts bytes ps command.length
              have hle : command.length ≤ e := Nat.le_trans hpos he
              refine ⟨hbytes, .stopped (Or.inl rfl) ?_⟩
              show command.length = _
              omega
      | receive size =>
          have hsize : size.eval bytes = size.eval command := by
            rw [← hbytes]
            exact Size.eval_append hknown.1 s.unread
          have hmax := hproper.1
          have hoffered : s.offered (size.eval command) =
              min (size.eval command) s.unread.length := by
            unfold Socket.offered
            omega
          have hpos := le_endOfParts bytes ps (command.length + size.eval bytes)
          have hlower : command.length + size.eval bytes ≤ e := Nat.le_trans hpos he
          simp only [runParts, Socket.receive_whole hwhole.head, List.length_take, hoffered]
          split
          · -- the stream ends within this part
            have hall : min (size.eval command) s.unread.length = s.unread.length := by omega
            rw [hall, List.take_length, List.drop_length]
            refine ⟨?_, .stopped (Or.inr ⟨rfl, ?_⟩) ?_⟩
            · rw [List.append_nil, hbytes]
            · omega
            · show (command ++ s.unread).length = _
              rw [hbytes]
              omega
          · -- the part is complete
            have hpart : min (size.eval command) s.unread.length = size.eval command := by omega
            rw [hpart]
            have hnext : (command ++ s.unread.take (size.eval command)).length =
                command.length + size.eval bytes := by
              rw [List.length_append, List.length_take]
              omega
            have hrun := ih (command ++ s.unread.take (size.eval command))
              { unread := s.unread.drop (size.eval command), receives := s.receives.tail }
            rw [hnext] at hrun
            obtain ⟨happend, hend⟩ := hrun
              (by rw [List.append_assoc, List.take_append_drop, hbytes])
              (hknown.2.mono (Nat.add_le_add_left (size.least_le bytes) _)) hproper.2 he
              hwhole.tail
            refine ⟨happend, ?_⟩
            cases hend with
            | received h1 h2 h3 h4 => exact .received h1 h2 h3 h4
            | stopped h1 h2 => exact .stopped h1 h2

/-- The loop takes what is missing, however it comes, or waits for it forever. -/
theorem receiveLoop_spec (fuel : Nat) :
    ∀ (missing : Nat) (command : List UInt8) (s : Socket), missing ≤ fuel →
      (∀ q ∈ s.receives, q ≠ none) →
      (receiveLoop fuel missing command s).command = command ++ s.unread.take missing ∧
        (receiveLoop fuel missing command s).socket.unread = s.unread.drop missing ∧
        (receiveLoop fuel missing command s).outcome =
          if missing ≤ s.unread.length then .received else .stuck := by
  induction fuel with
  | zero =>
      intro missing command s hfuel hreceives
      rw [Nat.le_zero.mp hfuel]
      simp [receiveLoop]
  | succ fuel ih =>
      intro missing command s hfuel hreceives
      cases missing with
      | zero => simp [receiveLoop]
      | succ missing =>
          obtain ⟨n, hn, hpos, hreceive⟩ := Socket.receive_some hreceives (missing + 1)
          have hoffered : s.offered (missing + 1) ≤ missing + 1 := by
            unfold Socket.offered
            omega
          have havail : s.offered (missing + 1) ≤ s.unread.length := Nat.min_le_right _ _
          have hmax : 0 < s.offered (missing + 1) ∨ s.unread = [] := by
            cases hs : s.unread with
            | nil => exact Or.inr rfl
            | cons b bs =>
                left
                simp [Socket.offered, hs, maxReceive]
          cases hbytes : s.unread.take n with
          | nil =>
              have hempty : s.unread = [] := by
                rcases hmax with hmax | hempty
                · have := congrArg List.length hbytes
                  rw [List.length_take, List.length_nil] at this
                  have := hpos hmax
                  omega
                · exact hempty
              simp only [receiveLoop, hreceive, hbytes]
              simp [hempty]
          | cons b bytes =>
              have hlen : bytes.length + 1 = n := by
                have := congrArg List.length hbytes
                rw [List.length_take, List.length_cons] at this
                omega
              obtain ⟨hcommand, hunread, houtcome⟩ := ih (missing - bytes.length)
                (command ++ b :: bytes)
                { unread := s.unread.drop n, receives := s.receives.tail } (by omega)
                (fun q hq => hreceives q (List.mem_of_mem_tail hq))
              have hsplit : missing + 1 = n + (missing - bytes.length) := by omega
              simp only [receiveLoop, hreceive, hbytes]
              refine ⟨?_, ?_, ?_⟩
              · rw [hcommand, hsplit, List.take_add, hbytes, List.append_assoc]
              · rw [hunread, hsplit, List.drop_drop]
              · rw [houtcome, List.length_drop]
                congr 1
                rw [eq_iff_iff]
                omega

/-- A receive returns the next bytes of the stream, as many as asked for at most. -/
theorem Socket.receive_eq_some {s s' : Socket} {len : Nat} {got : List UInt8}
    (h : s.receive len = (some got, s')) :
    got ++ s'.unread = s.unread ∧ got.length ≤ len ∧ got.length ≤ maxReceive := by
  unfold Socket.receive at h
  split at h
  · cases h
  · cases h
    refine ⟨List.take_append_drop _ _, ?_⟩
    rw [List.length_take]
    unfold Socket.offered
    omega

/-- Parts that end as received are complete, however they came. -/
theorem runParts_received {bytes : List UInt8} {e : Nat} {rest : Option Size}
    (ps : List Part) :
    ∀ (command : List UInt8) (s : Socket), command ++ s.unread = bytes →
      PartsKnown rest ps command.length → (runParts ps command s).outcome = .received →
      PartsProper bytes e ps command.length ∧
        (∀ size ∈ rest, size.Known (runParts ps command s).command.length) ∧
        (runParts ps command s).command ++ (runParts ps command s).socket.unread = bytes ∧
        (runParts ps command s).command.length = endOfParts bytes ps command.length := by
  induction ps with
  | nil =>
      intro command s hbytes hknown _
      exact ⟨trivial, hknown, hbytes, rfl⟩
  | cons part ps ih =>
      intro command s hbytes hknown hreceived
      cases part with
      | check passes =>
          cases passes with
          | true =>
              obtain ⟨hproper, hrest⟩ := ih command s hbytes hknown hreceived
              exact ⟨⟨Or.inl rfl, hproper⟩, hrest⟩
          | false => exact absurd hreceived Outcome.noConfusion
      | receive size =>
          have hsize : size.eval bytes = size.eval command := by
            rw [← hbytes]
            exact Size.eval_append hknown.1 s.unread
          simp only [runParts] at hreceived ⊢
          cases hreceive : s.receive (size.eval command) with
          | mk got s' =>
              cases got with
              | none =>
                  rw [hreceive] at hreceived
                  exact absurd hreceived Outcome.noConfusion
              | some got =>
                  simp only [hreceive] at hreceived ⊢
                  split at hreceived
                  · exact absurd hreceived Outcome.noConfusion
                  · rename_i hcomplete
                    rw [if_neg hcomplete]
                    obtain ⟨happend, hle, hmax⟩ := Socket.receive_eq_some hreceive
                    have hlength : (command ++ got).length =
                        command.length + size.eval bytes := by
                      rw [List.length_append]
                      omega
                    have hrun := ih (command ++ got) s'
                      (by rw [List.append_assoc, happend, hbytes])
                    rw [hlength] at hrun
                    obtain ⟨hproper, hrest⟩ := hrun
                      (hknown.2.mono (Nat.add_le_add_left (size.least_le bytes) _)) hreceived
                    refine ⟨⟨?_, hproper⟩, hrest⟩
                    omega

theorem receiveLoop_received (fuel : Nat) :
    ∀ (missing : Nat) (command : List UInt8) (s : Socket),
      (receiveLoop fuel missing command s).outcome = .received →
      (receiveLoop fuel missing command s).command ++
          (receiveLoop fuel missing command s).socket.unread = command ++ s.unread ∧
        (receiveLoop fuel missing command s).command.length = command.length + missing := by
  induction fuel with
  | zero =>
      intro missing command s h
      cases missing with
      | zero => exact ⟨rfl, rfl⟩
      | succ missing => exact absurd h Outcome.noConfusion
  | succ fuel ih =>
      intro missing command s h
      cases missing with
      | zero => exact ⟨rfl, rfl⟩
      | succ missing =>
          simp only [receiveLoop] at h ⊢
          cases hreceive : s.receive (missing + 1) with
          | mk got s' =>
              cases got with
              | none =>
                  rw [hreceive] at h
                  exact absurd h Outcome.noConfusion
              | some got =>
                  cases got with
                  | nil =>
                      rw [hreceive] at h
                      exact absurd h Outcome.noConfusion
                  | cons b got =>
                      obtain ⟨hgot, hle, -⟩ := Socket.receive_eq_some hreceive
                      simp only [hreceive] at h ⊢
                      obtain ⟨happend, hlength⟩ := ih _ _ _ h
                      constructor
                      · rw [happend, List.append_assoc, hgot]
                      · rw [hlength, List.length_append]
                        rw [List.length_cons] at hle ⊢
                        omega

/-- A command that is received is complete, however it came: no guard failed and no part
was too long. -/
theorem Plan.run_received {plan : Plan} {command : List UInt8} {s : Socket}
    {bytes : List UInt8} (hbytes : command ++ s.unread = bytes)
    (hknown : plan.Known command.length) (h : (plan.run command s).outcome = .received) :
    plan.Proper command.length bytes ∧
      (plan.run command s).command ++ (plan.run command s).socket.unread = bytes ∧
      (plan.run command s).command.length = plan.extent command.length bytes := by
  unfold Plan.run at h ⊢
  cases hparts : (runParts plan.parts command s).outcome with
  | received =>
      obtain ⟨hproper, hrest, happend, hlength⟩ :=
        @runParts_received bytes (plan.extent command.length bytes) plan.rest plan.parts
          command s hbytes hknown hparts
      refine ⟨hproper, ?_⟩
      simp only [hparts] at h ⊢
      cases hplan : plan.rest with
      | none =>
          simp only [Plan.extent, Plan.restSize, hplan, Nat.add_zero]
          exact ⟨happend, hlength⟩
      | some size =>
          have hsize := Size.eval_append (hrest size hplan)
            (runParts plan.parts command s).socket.unread
          rw [happend] at hsize
          simp only [hplan] at h
          obtain ⟨hloop, hcount⟩ := receiveLoop_received _ _ _ _ h
          simp only [Plan.extent, Plan.restSize, hplan]
          constructor
          · rw [hloop, happend]
          · rw [hcount, hlength, hsize]
  | refused | short | stuck =>
      simp only [hparts] at h
      cases h

theorem runParts_ne_refused {ps : List Part} (h : Part.check false ∉ ps) (command : List UInt8)
    (s : Socket) : (runParts ps command s).outcome ≠ .refused := by
  induction ps generalizing command s with
  | nil => exact Outcome.noConfusion
  | cons part ps ih =>
      have hps := fun hmem => h (List.mem_cons_of_mem part hmem)
      cases part with
      | check passes =>
          cases passes with
          | true => exact ih hps command s
          | false => exact absurd List.mem_cons_self h
      | receive size =>
          simp only [runParts]
          split
          · exact Outcome.noConfusion
          · split
            · exact Outcome.noConfusion
            · exact ih hps _ _

theorem Plan.run_of_rest {plan : Plan} (h : plan.rest = none) (command : List UInt8)
    (s : Socket) : plan.run command s = runParts plan.parts command s := by
  simp only [Plan.run, h]
  cases (runParts plan.parts command s).outcome <;> rfl

/-- With complete receives a reader takes exactly the command the stream begins with, or
what there is of it.  It ends a complete command as received or refused, and a command
that is cut short never as received. -/
theorem Plan.run_spec {plan : Plan} {command : List UInt8} {s : Socket} {bytes : List UInt8}
    (hbytes : command ++ s.unread = bytes) (hknown : plan.Known command.length)
    (hproper : plan.Proper command.length bytes)
    (hwhole : Whole s.receives (receiveCount plan.parts)) :
    (plan.run command s).command = bytes.take (plan.extent command.length bytes) ∧
      (plan.run command s).socket.unread = bytes.drop (plan.extent command.length bytes) ∧
      if plan.extent command.length bytes ≤ bytes.length then
        (plan.run command s).outcome = .received ∨ (plan.run command s).outcome = .refused
      else (plan.run command s).outcome ≠ .received := by
  obtain ⟨happend, hend⟩ := runParts_spec plan.parts command s hbytes hknown hproper
    (Nat.le_add_right _ (plan.restSize bytes)) hwhole
  set e := plan.extent command.length bytes with he
  set r := runParts plan.parts command s with hr
  have hlength : bytes.length = r.command.length + r.socket.unread.length := by
    rw [← happend, List.length_append]
  cases hend with
  | received houtcome hparts hrest hreceives =>
      cases hplan : plan.rest with
      | none =>
          have hrun : plan.run command s = r := by
            simp only [Plan.run, ← hr, houtcome, hplan]
          have hext : e = r.command.length := by
            rw [he, Plan.extent, Plan.restSize, hplan, hparts, Nat.add_zero]
          rw [hrun, hext, ← happend, List.take_left, List.drop_left]
          refine ⟨rfl, rfl, ?_⟩
          rw [if_pos (by rw [List.length_append]; omega)]
          exact Or.inl houtcome
      | some size =>
          have hsize : size.eval bytes = size.eval r.command := by
            rw [← happend]
            exact Size.eval_append (hrest size hplan) r.socket.unread
          have hrun : plan.run command s =
              receiveLoop (size.eval r.command) (size.eval r.command) r.command r.socket := by
            simp only [Plan.run, ← hr, houtcome, hplan]
          have hext : e = r.command.length + size.eval r.command := by
            have hrestSize : plan.restSize bytes = size.eval r.command := by
              simp only [Plan.restSize, hplan, hsize]
            rw [he, Plan.extent, hrestSize, hparts]
          obtain ⟨hcommand, hunread, hloop⟩ := receiveLoop_spec (size.eval r.command)
            (size.eval r.command) r.command r.socket le_rfl hreceives
          rw [hrun, hcommand, hunread, hloop, hext, ← happend]
          refine ⟨?_, ?_, ?_⟩
          · rw [List.take_length_add_append]
          · rw [List.drop_length_add_append]
          · rw [List.length_append]
            split
            · rw [if_pos (by omega)]
              exact Or.inl rfl
            · rw [if_neg (by omega)]
              exact Outcome.noConfusion
  | stopped houtcome hstop =>
      have hrun : plan.run command s = r := by
        rcases houtcome with houtcome | ⟨houtcome, -⟩ <;>
        · simp only [Plan.run, ← hr, houtcome]
      rw [hrun]
      have htake : bytes.take e = bytes.take r.command.length := by
        rw [hstop, List.take_eq_take_iff]
        omega
      have hdrop : bytes.drop e = bytes.drop r.command.length := by
        rw [hstop, List.drop_eq_drop_iff]
        omega
      rw [htake, hdrop, ← happend, List.take_left, List.drop_left, happend]
      refine ⟨rfl, rfl, ?_⟩
      split
      · rcases houtcome with houtcome | ⟨-, hshort⟩
        · exact Or.inr houtcome
        · omega
      · rcases houtcome with houtcome | ⟨houtcome, -⟩ <;>
        · rw [houtcome]
          exact Outcome.noConfusion

end StreamReader
