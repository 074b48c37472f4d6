import Exynos8890.MobiCore.ClientLib.GpOperation

/-!
# Partial memory references

A partial reference names a part of a block that was registered or allocated as shared memory.
When an operation is set up, the part is mapped at its place in the block, with as much of its
length as a word of 32 bits holds.  The check before compares a sum of offset and length with the
size of the block.

Main results:

- Definition `Parameter.mapping`: what a parameter has mapped.
- Theorem `setupOperation_accepted`: in an operation that is accepted every parameter has exactly
  this mapped.
- Theorem `contained_iff`: when the mapped bytes are bytes of the block, and the direction is one
  that the block was registered with.
- Theorem `not_contained`: a part that begins before its block.
-/

namespace Exynos8890.MobiCore.ClientLib

namespace Gp

open CStruct Process

/-! ## What is mapped -/

/-- The address and the length that `mcMap` is called with. -/
def Parameter.mapping : Parameter → Option (UInt64 × UInt32)
  | .memrefTemp _ buffer size =>
      if size ≠ 0 ∧ buffer ≠ 0 then some (buffer, size.toUInt32) else Option.none
  | .memrefWhole parent _ =>
      if parent.size ≠ 0 then some (parent.buffer, parent.size.toUInt32) else Option.none
  | .memrefPartial _ parent size offset =>
      if size ≠ 0 then some (parent.buffer + offset, size.toUInt32) else Option.none
  | .none | .value .. | .unused _ => Option.none

/-- The addresses of the platform. -/
def addressSpace (w : PointerWidth) : Nat :=
  256 ^ w.word.size

/-- A block that was registered or allocated: it has an address, and it ends in the address
space. -/
structure IsBlock (w : PointerWidth) (parent : SharedMemory) : Prop where
  buffer : parent.buffer ≠ 0
  end_le : parent.buffer.toNat + parent.size.toNat ≤ addressSpace w

/-- Every mapped byte is one of the block. -/
def InBlock (w : PointerWidth) (parent : SharedMemory) (mapping : UInt64 × UInt32) : Prop :=
  ∀ k < mapping.2.toNat, ∃ j < parent.size.toNat,
    (mapping.1.toNat + k) % addressSpace w = parent.buffer.toNat + j

/-- A block was registered with a direction. -/
def Direction.RegisteredIn (direction : Direction) (flags : UInt32) : Prop :=
  match direction with
  | .input => flags &&& teecMemInput ≠ 0
  | .output => flags &&& teecMemOutput ≠ 0
  | .inout => flags &&& teecMemInput ≠ 0 ∧ flags &&& teecMemOutput ≠ 0

/-- What is mapped for a partial reference stands in the block, and goes in a direction of it. -/
structure Contained (w : PointerWidth) (direction : Direction) (parent : SharedMemory)
    (size offset : UInt64) : Prop where
  mapped : ∀ mapping ∈ (Parameter.memrefPartial direction parent size offset).mapping,
    InBlock w parent mapping
  direction : direction.RegisteredIn parent.flags

/-- The sum of offset and size does not wrap, or what a word of 32 bits keeps of the size still
ends in the block; and the block was registered with a direction, and with both for a reference
that goes in both. -/
structure Plain (w : PointerWidth) (direction : Direction) (parent : SharedMemory)
    (size offset : UInt64) : Prop where
  range : offset.toNat + size.toNat < addressSpace w ∨ size.toUInt32 = 0 ∨
    offset.toNat + size.toUInt32.toNat ≤ parent.size.toNat
  flags : parent.flags &&& (teecMemInput ||| teecMemOutput) ≠ 0
  inout : direction = .inout →
    parent.flags &&& (teecMemInput ||| teecMemOutput) = teecMemInput ||| teecMemOutput

/-! ## Parameters that are accepted -/

section Accepted

variable {w : PointerWidth} {handle : SessionHandle}

theorem mapMemref_error {buffer size : UInt64} {answers : MapAnswers} {imp imp' : ParameterInternal}
    {p p' : Process} {error : SetupError}
    (h : mapMemref handle buffer size answers imp p = (some error, imp', p')) :
    error.1 ≠ teecSuccess := by
  rw [mapMemref] at h
  dsimp only at h
  split at h
  · cases h
    decide
  · cases h

theorem mapMemref_none {buffer size : UInt64} {answers : MapAnswers} {imp imp' : ParameterInternal}
    {p p' : Process} (h : mapMemref handle buffer size answers imp p = (none, imp', p')) :
    ∃ mapInfo, p.mcMap handle buffer size.toUInt32 answers = (mcDrvOk, mapInfo, p') := by
  rw [mapMemref] at h
  dsimp only at h
  split at h
  · cases h
  · rename_i hcode
    refine ⟨(p.mcMap handle buffer size.toUInt32 answers).2.1, ?_⟩
    rw [Prod.mk.injEq, Prod.mk.injEq] at h
    rw [← h.2.2, ← not_not.mp hcode]

theorem setupParam_error {ext : Parameter} {answers : MapAnswers} {imp imp' : ParameterInternal}
    {p p' : Process} {error : SetupError}
    (h : setupParam w handle ext answers imp p = (some error, imp', p')) :
    error.1 ≠ teecSuccess := by
  unfold setupParam at h
  repeat' split at h
  all_goals first
    | exact mapMemref_error h
    | (cases h; done)
    | (cases h; decide)

/-- A partial reference that is accepted has passed its checks. -/
theorem checked_of_setupParam {direction : Direction} {parent : SharedMemory}
    {size offset : UInt64} {answers : MapAnswers} {imp imp' : ParameterInternal} {p p' : Process}
    (h : setupParam w handle (.memrefPartial direction parent size offset) answers imp p =
      (none, imp', p')) :
    ¬ Inconsistent direction parent.flags ∧ sizeAdd w offset size ≤ parent.size.toNat := by
  rw [setupParam] at h
  split at h
  · cases h
  · rename_i hflags
    split at h
    · cases h
    · rename_i hsize
      exact ⟨hflags, Nat.not_lt.mp hsize⟩

theorem setupParam_none {ext : Parameter} {answers : MapAnswers} {imp imp' : ParameterInternal}
    {p p' : Process} (h : setupParam w handle ext answers imp p = (none, imp', p')) :
    ∀ mapping ∈ ext.mapping,
      ∃ mapInfo, p.mcMap handle mapping.1 mapping.2 answers = (mcDrvOk, mapInfo, p') := by
  intro mapping hmapping
  cases ext with
  | none => cases hmapping
  | value direction a b => cases hmapping
  | unused type => cases hmapping
  | memrefTemp direction buffer size =>
      rw [Parameter.mapping] at hmapping
      rw [setupParam] at h
      split at hmapping
      · rename_i hsize
        cases hmapping
        rw [if_pos hsize] at h
        exact mapMemref_none h
      · cases hmapping
  | memrefWhole parent size =>
      rw [Parameter.mapping] at hmapping
      rw [setupParam] at h
      split at hmapping
      · rename_i hsize
        cases hmapping
        rw [if_pos hsize] at h
        exact mapMemref_none h
      · cases hmapping
  | memrefPartial direction parent size offset =>
      obtain ⟨hflags, hrange⟩ := checked_of_setupParam h
      rw [Parameter.mapping] at hmapping
      rw [setupParam, if_neg hflags, if_neg (Nat.not_lt.mpr hrange)] at h
      split at hmapping
      · rename_i hsize
        cases hmapping
        rw [if_pos hsize] at h
        exact mapMemref_none h
      · cases hmapping

theorem setupLoop_none {operation : Operation} {answers : Fin 4 → MapAnswers} {is : List (Fin 4)}
    {params params' : Fin 4 → ParameterInternal} {p p' : Process}
    (h : setupLoop w handle operation answers is params p = (none, params', p')) :
    ∀ i ∈ is, ∃ imp imp' q q', setupParam w handle (operation i) (answers i) imp q =
      (none, imp', q') := by
  induction is generalizing params p with
  | nil => exact fun i hi => absurd hi List.not_mem_nil
  | cons i is ih =>
      rw [setupLoop] at h
      cases hparam : setupParam w handle (operation i) (answers i) (params i) p with
      | mk error rest =>
          obtain ⟨imp, q⟩ := rest
          rw [hparam] at h
          cases error with
          | some error => cases h
          | none =>
              intro i' hi'
              rcases List.mem_cons.mp hi' with rfl | hi'
              · exact ⟨_, _, _, _, hparam⟩
              · exact ih h i' hi'

theorem setupLoop_error {operation : Operation} {answers : Fin 4 → MapAnswers} {is : List (Fin 4)}
    {params params' : Fin 4 → ParameterInternal} {p p' : Process} {error : SetupError}
    (h : setupLoop w handle operation answers is params p = (some error, params', p')) :
    error.1 ≠ teecSuccess := by
  induction is generalizing params p with
  | nil => cases h
  | cons i is ih =>
      rw [setupLoop] at h
      cases hparam : setupParam w handle (operation i) (answers i) (params i) p with
      | mk result rest =>
          obtain ⟨imp, q⟩ := rest
          rw [hparam] at h
          cases result with
          | some error' =>
              cases h
              exact setupParam_error hparam
          | none => exact ih h

theorem setupOperation_accepted {tci : TeecTci} {operation : Operation} {env : SetupEnvironment}
    {p : Process}
    (h : (setupOperation w tci handle (some operation) env p).result = teecSuccess) (i : Fin 4) :
    ∃ imp imp' q q',
      setupParam w handle (operation i) (env.map i) imp q = (none, imp', q') ∧
      ∀ mapping ∈ (operation i).mapping,
        ∃ mapInfo, q.mcMap handle mapping.1 mapping.2 (env.map i) = (mcDrvOk, mapInfo, q') := by
  cases hloop : setupLoop w handle operation env.map (List.finRange 4) tci.params p with
  | mk error rest =>
      obtain ⟨params, q⟩ := rest
      have hnone : error = none := by
        cases error with
        | none => rfl
        | some error =>
            rw [setupOperation] at h
            dsimp only at h
            rw [hloop] at h
            cases hcancelled : env.cancelled with
            | true =>
                simp only [hcancelled, if_true] at h
                exact absurd h (by decide)
            | false =>
                simp only [hcancelled, Bool.false_eq_true, if_false] at h
                exact absurd h (setupLoop_error hloop)
      rw [hnone] at hloop
      obtain ⟨imp, imp', q, q', hparam⟩ := setupLoop_none hloop i (List.mem_finRange i)
      exact ⟨imp, imp', q, q', hparam, setupParam_none hparam⟩

end Accepted

/-! ## Blocks -/

section Blocks

variable {w : PointerWidth} {parent : SharedMemory} {offset : UInt64}

theorem addressSpace_dvd (w : PointerWidth) : addressSpace w ∣ 2 ^ 64 := by
  cases w <;> decide

theorem add_mod_addressSpace (buffer offset : UInt64) (k : Nat) :
    ((buffer + offset).toNat + k) % addressSpace w =
      (buffer.toNat + offset.toNat + k) % addressSpace w := by
  rw [UInt64.toNat_add, Nat.add_mod, Nat.mod_mod_of_dvd _ (addressSpace_dvd w), ← Nat.add_mod]

/-- The mapped bytes are in the block when the part ends in it. -/
theorem inBlock_iff (hblock : IsBlock w parent) (hoffset : offset.toNat < addressSpace w)
    (len : UInt32) :
    InBlock w parent (parent.buffer + offset, len) ↔
      len = 0 ∨ offset.toNat + len.toNat ≤ parent.size.toNat := by
  show (∀ k < len.toNat, ∃ j < parent.size.toNat,
    ((parent.buffer + offset).toNat + k) % addressSpace w = parent.buffer.toNat + j) ↔ _
  have hend := hblock.end_le
  have hbuffer : 0 < parent.buffer.toNat := by
    apply Nat.pos_of_ne_zero
    exact fun h => hblock.buffer (UInt64.toNat_inj.mp h)
  have hplace : ∀ k, offset.toNat + k < parent.size.toNat →
      (parent.buffer.toNat + offset.toNat + k) % addressSpace w =
        parent.buffer.toNat + (offset.toNat + k) := by
    intro k hk
    rw [Nat.add_assoc]
    exact Nat.mod_eq_of_lt (by omega)
  constructor
  · intro h
    by_cases hzero : len = 0
    · exact Or.inl hzero
    refine Or.inr ?_
    have hlen : 0 < len.toNat := Nat.pos_of_ne_zero fun h => hzero (UInt32.toNat_inj.mp h)
    -- the first byte is in the block, so the part begins there
    obtain ⟨j, hj, hfirst⟩ := h 0 hlen
    rw [add_mod_addressSpace, Nat.add_zero] at hfirst
    have hbegin : offset.toNat < parent.size.toNat := by
      by_cases hwrap : parent.buffer.toNat + offset.toNat < addressSpace w
      · rw [Nat.mod_eq_of_lt hwrap] at hfirst
        omega
      · rw [Nat.mod_eq_sub_mod (by omega), Nat.mod_eq_of_lt (by omega)] at hfirst
        omega
    by_contra hlong
    -- the byte behind the block would be mapped
    obtain ⟨j', hj', hlast⟩ := h (parent.size.toNat - offset.toNat) (by omega)
    have hbehind : parent.buffer.toNat + offset.toNat + (parent.size.toNat - offset.toNat) =
        parent.buffer.toNat + parent.size.toNat := by
      omega
    rw [add_mod_addressSpace, hbehind] at hlast
    by_cases hlt : parent.buffer.toNat + parent.size.toNat < addressSpace w
    · rw [Nat.mod_eq_of_lt hlt] at hlast
      omega
    · have hwhole : parent.buffer.toNat + parent.size.toNat = addressSpace w := by
        omega
      rw [hwhole, Nat.mod_self] at hlast
      omega
  · rintro (rfl | hle) k hk
    · exact absurd hk (Nat.not_lt_zero k)
    · refine ⟨offset.toNat + k, by omega, ?_⟩
      rw [add_mod_addressSpace, hplace k (by omega)]

/-- Which flags a direction needs, when the check of the data flow has found nothing. -/
theorem registeredIn_iff {direction : Direction} {flags : UInt32}
    (hflags : ¬ Inconsistent direction flags) :
    direction.RegisteredIn flags ↔
      flags &&& (teecMemInput ||| teecMemOutput) ≠ 0 ∧
        (direction = .inout →
          flags &&& (teecMemInput ||| teecMemOutput) = teecMemInput ||| teecMemOutput) := by
  have hinput : flags &&& teecMemInput =
      flags &&& (teecMemInput ||| teecMemOutput) &&& teecMemInput := by
    rw [UInt32.and_assoc]
    rfl
  have houtput : flags &&& teecMemOutput =
      flags &&& (teecMemInput ||| teecMemOutput) &&& teecMemOutput := by
    rw [UInt32.and_assoc]
    rfl
  have hlt : (flags &&& (teecMemInput ||| teecMemOutput)).toNat < 4 := by
    rw [UInt32.toNat_and]
    exact lt_of_le_of_lt Nat.and_le_right (by decide)
  unfold Inconsistent at hflags
  unfold Direction.RegisteredIn
  rw [hinput, houtput]
  generalize flags &&& (teecMemInput ||| teecMemOutput) = both at *
  have hcases : both = 0 ∨ both = 1 ∨ both = 2 ∨ both = 3 := by
    have hnat : both.toNat = 0 ∨ both.toNat = 1 ∨ both.toNat = 2 ∨ both.toNat = 3 := by omega
    exact hnat.imp UInt32.toNat_inj.mp
      (Or.imp UInt32.toNat_inj.mp (Or.imp UInt32.toNat_inj.mp UInt32.toNat_inj.mp))
  clear hinput houtput hlt
  rcases hcases with rfl | rfl | rfl | rfl <;> cases direction <;> revert hflags <;> decide

end Blocks

/-- What is mapped for a partial reference of an accepted operation is a part of the block, in a
direction of it, when the sum of offset and size does not wrap and the flags have every direction
of the reference. -/
theorem contained_iff (w : PointerWidth) (tci : TeecTci) (handle : SessionHandle)
    (operation : Operation) (env : SetupEnvironment) (process : Process)
    (haccepted : (setupOperation w tci handle (some operation) env process).result = teecSuccess)
    (i : Fin 4) {direction : Direction} {parent : SharedMemory} {size offset : UInt64}
    (hparam : operation i = .memrefPartial direction parent size offset)
    (hblock : IsBlock w parent) (hsize : size.toNat < addressSpace w)
    (hoffset : offset.toNat < addressSpace w) :
    Contained w direction parent size offset ↔ Plain w direction parent size offset := by
  obtain ⟨imp, imp', q, q', hsetup, -⟩ := setupOperation_accepted haccepted i
  rw [hparam] at hsetup
  obtain ⟨hflags, hsum⟩ := checked_of_setupParam hsetup
  have hregistered := registeredIn_iff hflags
  have htruncated : size.toUInt32.toNat ≤ size.toNat := by
    rw [UInt64.toNat_toUInt32]
    exact Nat.mod_le _ _
  have hmapped : (∀ mapping ∈ (Parameter.memrefPartial direction parent size offset).mapping,
      InBlock w parent mapping) ↔
      size.toUInt32 = 0 ∨ offset.toNat + size.toUInt32.toNat ≤ parent.size.toNat := by
    rw [← inBlock_iff hblock hoffset]
    rw [Parameter.mapping]
    by_cases hzero : size = 0
    · subst hzero
      simp [InBlock]
    · simp [hzero]
  constructor
  · intro h
    exact ⟨Or.inr (hmapped.mp h.mapped), (hregistered.mp h.direction).1,
      (hregistered.mp h.direction).2⟩
  · intro h
    refine ⟨hmapped.mpr ?_, hregistered.mpr ⟨h.flags, h.inout⟩⟩
    rcases h.range with hplain | hrest
    · -- without a wrap the check has compared the sum itself
      have hexact : sizeAdd w offset size = offset.toNat + size.toNat := Nat.mod_eq_of_lt hplain
      exact Or.inr (by omega)
    · exact hrest

/-! ## A part in front of its block -/

/-- A process with one session. -/
def sessionProcess : Process where
  devices := [{ deviceId := 0, connection := 1, pMcKMod := 2
                sessionList := [Session.new 7], wsmL2List := [] }]
  kernel := []
  nextRef := 3
  registrations := []

/-- Everything that is asked for succeeds. -/
def setupSucceeds : SetupEnvironment where
  map := fun _ => { registered := .ok 1, reply := .answered mcDrvOk 0x100000 }
  cancelled := false
  unmap := fun _ => .answered mcDrvOk ()

/-- A page at address `0x10000` that is shared in both directions. -/
def page : SharedMemory where
  buffer := 0x10000
  size := 0x1000
  flags := 3

/-- An operation with one parameter. -/
def oneReference (ext : Parameter) : Operation :=
  fun i => if i = 0 then ext else .none

theorem contained_halfPage :
    Contained .bits64 .inout page 0x800 0x800 ↔ Plain .bits64 .inout page 0x800 0x800 :=
  contained_iff .bits64 .zero { sessionId := 7, deviceId := 0 }
    (oneReference (.memrefPartial .inout page 0x800 0x800)) setupSucceeds sessionProcess
    (by decide) 0 rfl ⟨by decide, by decide⟩ (by decide) (by decide)

/-- The page in front of the block is mapped together with it. -/
theorem not_contained :
    ¬ ∀ (w : PointerWidth) (tci : TeecTci) (handle : SessionHandle) (operation : Operation)
      (env : SetupEnvironment) (process : Process),
      (setupOperation w tci handle (some operation) env process).result = teecSuccess →
      ∀ (i : Fin 4) (direction : Direction) (parent : SharedMemory) (size offset : UInt64),
        operation i = .memrefPartial direction parent size offset → IsBlock w parent →
        size.toNat < addressSpace w → offset.toNat < addressSpace w →
        Contained w direction parent size offset := by
  intro h
  have hcontained := h .bits64 .zero { sessionId := 7, deviceId := 0 }
    (oneReference (.memrefPartial .inout page 0x2000 0xFFFFFFFFFFFFF000)) setupSucceeds
    sessionProcess (by decide) 0 .inout page 0x2000 0xFFFFFFFFFFFFF000 rfl
    ⟨by decide, by decide⟩ (by decide) (by decide)
  obtain ⟨j, -, hfirst⟩ := hcontained.mapped (0xF000, 0x2000) rfl 0 (by decide)
  have hplace : (0xF000 : Nat) = 0x10000 + j := hfirst
  omega

/-- A block that was registered for input is mapped for a reference in both directions. -/
theorem not_contained_inout :
    (setupOperation .bits64 .zero { sessionId := 7, deviceId := 0 }
        (some (oneReference (.memrefPartial .inout { page with flags := teecMemInput } 1 0)))
        setupSucceeds sessionProcess).result = teecSuccess ∧
      ¬ Contained .bits64 .inout { page with flags := teecMemInput } 1 0 :=
  ⟨by decide, fun h => absurd h.direction.2 (by decide)⟩

end Gp

end Exynos8890.MobiCore.ClientLib
