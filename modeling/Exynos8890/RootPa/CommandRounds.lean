import Exynos8890.RootPa.CmpMessages

/-!
# Rounds of a content management command

A command is prepared in a buffer that is mapped to the content manager trustlet.  Where the
trustlet asks for a larger one, the buffer is given back and the command is prepared again.  What
happens to the buffer is kept in a log.

Main results:

- Definition `prepareCommand`: it may move the buffer when a container does not fit.
- Definition `executeOneCmpCommand`: the rounds, and what is given back behind them.
- Theorem `executeOneCmpCommand_finishes`: every command comes to an end, and each repetition has
  a larger buffer, of the size that the trustlet asked for.
-/

namespace Exynos8890.RootPa

namespace CmTrustlet

open CStruct MobiCore

/-! ## The buffer -/

/-- What happens to the buffer; `element` is a copy into it, and `used` a read of the command in
it. -/
inductive Event where
  | malloc (p : Nat) (size : UInt32)
  | realloc (p newP : Nat) (size : UInt32)
  | free (p : Nat)
  | map (p : Nat) (size : UInt32)
  | unmap (p : Nat) (done : Bool)
  | element (p : Nat) (offset len : UInt32)
  | used (p : Nat)
  | notify (p : Nat) (size : UInt32)
deriving DecidableEq, Repr

/-- The buffer of the handle, what is mapped to the trustlet, and what has happened. -/
structure Channel where
  mappedP : Nat
  mappedSize : UInt32
  mapped : List (Nat × UInt32)
  log : List Event

/-- The containers that a command may need. -/
inductive Needed where
  | authToken
  | root
  | sp
  | tlt
deriving DecidableEq, Repr

/-- The results of the registry, and the sizes of the containers. -/
abbrev RegistrySizes := Needed → McResult × UInt32

/-- What a round meets: the results of `malloc` for the buffer and for the containers, those of
`realloc` in their order, of `mcMap`, `mcNotify` and `mcWaitNotification`, the response that is in
the other buffer then, and the result of `mcUnmap` for what is mapped. -/
structure RoundHost where
  block : Nat
  mapRet : McResult
  buffer : Needed → Bool
  grown : Nat → Nat
  notifyRet : McResult
  waitRet : McResult
  response : Memory
  unmapRet : McResult

namespace Channel

def emit (c : Channel) (e : Event) : Channel :=
  { c with log := c.log ++ [e] }

def mcMap (c : Channel) (ret : McResult) : Channel :=
  if ret = mcDrvOk then
    { c.emit (.map c.mappedP c.mappedSize) with
      mapped := (c.mappedP, c.mappedSize) :: c.mapped }
  else c

/-- `mcUnmap`: it can only succeed for what is mapped. -/
def mcUnmap (c : Channel) (ret : McResult) : Bool × Channel :=
  if ret = mcDrvOk ∧ c.mapped.any fun m => m.1 = c.mappedP then
    (true, { c.emit (.unmap c.mappedP true) with
      mapped := c.mapped.eraseP fun m => m.1 = c.mappedP })
  else (false, c.emit (.unmap c.mappedP false))

def free (c : Channel) : Channel :=
  if c.mappedP = 0 then c else c.emit (.free c.mappedP)

/-- `tltChannelTransmit`. -/
def tltChannelTransmit (c : Channel) (host : RoundHost) : Bool × Channel :=
  if host.notifyRet ≠ mcDrvOk then (false, c)
  else (host.waitRet = mcDrvOk, c.emit (.notify c.mappedP c.mappedSize))

end Channel

/-! ## Preparation -/

/-- The state of a preparation: the next element, its offset, and how often the buffer has
grown. -/
structure Preparation where
  channel : Channel
  elementIndex : UInt32
  offset : UInt32
  grows : Nat

namespace Preparation

/-- `setCmdElementInfo`. -/
def setCmdElementInfo (p : Preparation) (elementLength : UInt32) : Preparation :=
  if p.elementIndex = 0 ∨ (p.elementIndex = 1 ∧ p.offset ≠ 0) then p
  else
    { p with
      elementIndex := p.elementIndex + 1
      offset := p.offset + elementLength }

/-- `ensureMappedBufferSize`: the block may grow, but its mapping does not. -/
def ensureMappedBufferSize (p : Preparation) (host : RoundHost) (neededSize : UInt32) :
    Bool × Preparation :=
  if neededSize > p.channel.mappedSize then
    let newMappedP := host.grown p.grows
    if newMappedP = 0 then (false, p)
    else
      (true, { p with
        grows := p.grows + 1
        channel := { p.channel.emit (.realloc p.channel.mappedP newMappedP neededSize) with
          mappedP := newMappedP } })
  else (true, p)

/-- Copy to the buffer. -/
def copy (p : Preparation) (offset len : UInt32) : Preparation :=
  { p with channel := p.channel.emit (.element p.channel.mappedP offset len) }

/-- Read a field of the command. -/
def use (p : Preparation) (outCommandP : Nat) : Preparation :=
  { p with channel := p.channel.emit (.used outCommandP) }

variable (registry : RegistrySizes) (host : RoundHost)

/-- The result of reading a container, for which a buffer is allocated first. -/
def readResult (kind : Needed) : McResult :=
  if host.buffer kind then (registry kind).1 else mcDrvErrNoFreeMemory

/-- What the four functions for containers do. -/
def addContainer (kind : Needed) (p : Preparation) : RootPaError × Preparation :=
  let mcRet := readResult registry host kind
  if mcRet = mcDrvOk then
    let contSize := (registry kind).2
    let (ensured, p) := p.ensureMappedBufferSize host (p.offset + contSize)
    if ensured then (.ok, (p.copy p.offset contSize).setCmdElementInfo contSize)
    else (.outOfMemory, p)
  else if mcRet = mcDrvErrInvalidDeviceFile then (.registryObjectNotAvailable, p)
  else (.registry, p)

def addAuthTokenContainer : Preparation → RootPaError × Preparation :=
  addContainer registry host .authToken

def addRootContainer : Preparation → RootPaError × Preparation :=
  addContainer registry host .root

def addSpContainer : Preparation → RootPaError × Preparation :=
  addContainer registry host .sp

def addTltContainer : Preparation → RootPaError × Preparation :=
  addContainer registry host .tlt

/-- The commands, after they have been copied: what they read in the copy, and what they add. -/
def addContainers (outCommandP : Nat) (commandId : CmpCommandId) (p : Preparation) :
    RootPaError × Preparation :=
  match commandId with
  | .beginSocAuthentication => addAuthTokenContainer registry host p
  | .beginRootAuthentication => addRootContainer registry host p
  | .beginSpAuthentication =>
      let (ret, p) := addRootContainer registry host p
      if ret = .ok then addSpContainer registry host (p.use outCommandP) else (ret, p)
  | .spContActivate | .spContLockBySp | .spContRegister | .spContRegisterActivate
  | .spContUnlockBySp | .spContUnregister | .tltContRegister | .tltContRegisterActivate
  | .tltContUnregister => (.ok, p.use outCommandP)
  | .spContLockByRoot | .spContUnlockByRoot => addSpContainer registry host (p.use outCommandP)
  | .tltContActivate | .tltContLockBySp | .tltContPersonalize | .tltContUnlockBySp =>
      addTltContainer registry host (p.use outCommandP)
  | _ => (.ok, p)

end Preparation

/-- `prepareCommand`. -/
def prepareCommand (registry : RegistrySizes) (host : RoundHost) (commandId : CmpCommandId)
    (length : UInt32) (c : Channel) : RootPaError × Channel :=
  let outCommandP := c.mappedP
  let p := Preparation.setCmdElementInfo ⟨c, 1, 0, 0⟩ length
  let (ensured, p) := p.ensureMappedBufferSize host length
  if ensured then
    let (ret, p) := (p.copy 0 length).addContainers registry host outCommandP commandId
    (ret, p.channel)
  else (.outOfMemory, p.channel)

/-! ## Rounds -/

/-- One round: its result, if it is the last one. -/
def round (registry : RegistrySizes) (host : RoundHost) (commandId : CmpCommandId)
    (length : UInt32) (c : Channel) : Option RootPaError × Channel :=
  let c := { c with mappedP := host.block }
  if host.block = 0 then (some .outOfMemory, c)
  else
    let c := (c.emit (.malloc c.mappedP c.mappedSize)).mcMap host.mapRet
    if host.mapRet ≠ mcDrvOk then (some .mobicoreConnection, c)
    else
      let (ret, c) := prepareCommand registry host commandId length c
      if ret ≠ .ok then (some ret, c)
      else
        let (transmitted, c) := c.tltChannelTransmit host
        if transmitted = false then (some .mobicoreConnection, c)
        else
          let neededBytes := getNeededBytesFromResponse host.response
          if neededBytes = 0 then (some .ok, c)
          else if neededBytes = 0xFFFFFFFF then (some .mobicoreConnection, c)
          else if neededBytes ≤ c.mappedSize then (some .mobicoreConnection, c)
          else
            let (unmapped, c) := c.mcUnmap host.unmapRet
            if unmapped = false then (some .mobicoreConnection, c)
            else (none, { c.free with mappedSize := neededBytes })

/-- The loop: its result, the size of the buffer in each round, and the channel.  There is no
result when it takes more rounds. -/
def rounds (registry : RegistrySizes) (hosts : Nat → RoundHost) (commandId : CmpCommandId)
    (length : UInt32) : Nat → Nat → Channel → Option (RootPaError × List UInt32 × Channel)
  | 0, _, _ => none
  | fuel + 1, k, c =>
      match round registry (hosts k) commandId length c with
      | (some ret, c') => some (ret, [c.mappedSize], c')
      | (none, c') =>
          (rounds registry hosts commandId length fuel (k + 1) c').map fun r =>
            (r.1, c.mappedSize :: r.2.1, r.2.2)

/-- A command as it arrives: the number at its beginning, if the table has it, its length, and
whether there is any content. -/
structure CmpCommand where
  commandId : Option CmpCommandId
  length : UInt32
  content : Bool
deriving DecidableEq

/-- What a command comes to. -/
structure Execution where
  ret : RootPaError
  sizes : List UInt32
  log : List Event

/-- The results of `handleResponse` and of the last `mcUnmap`, if there is something to unmap. -/
structure EndHost where
  handled : RootPaError
  unmapRet : McResult

/-- Behind the loop: the response is handled, and the buffer is given back. -/
def finish (last : EndHost) (r : RootPaError × List UInt32 × Channel) : Execution :=
  let ret := if r.1 = .ok then last.handled else r.1
  let (unmapped, c) := r.2.2.mcUnmap last.unmapRet
  ⟨if unmapped then ret else .mobicoreConnection, r.2.1, c.free.log⟩

/-- `executeOneCmpCommand`. -/
def executeOneCmpCommand (registry : RegistrySizes) (hosts : Nat → RoundHost)
    (last : EndHost) (command : CmpCommand) (fuel : Nat) : Option Execution :=
  if command.content = false ∨ command.length < 4 then some ⟨.internal, [], []⟩
  else
    match command.commandId with
    | none => some ⟨.commandNotSupported, [], []⟩
    | some commandId =>
        let mappedSize := getTotalMappedBufferSize commandId command.length
        if mappedSize = 0 then some ⟨.commandNotSupported, [], []⟩
        else
          (rounds registry hosts commandId command.length fuel 0 ⟨0, mappedSize, [], []⟩).map
            (finish last)

/-- A command that gets a buffer. -/
structure CmpCommand.Accepted (command : CmpCommand) (commandId : CmpCommandId) : Prop where
  known : command.commandId = some commandId
  complete : ¬ (command.content = false ∨ command.length < 4)
  supported : getTotalMappedBufferSize commandId command.length ≠ 0

/-- The channel before the first round. -/
def CmpCommand.start (command : CmpCommand) (commandId : CmpCommandId) : Channel :=
  ⟨0, getTotalMappedBufferSize commandId command.length, [], []⟩

/-- A command is refused at once, or it goes through the rounds. -/
theorem executeOneCmpCommand_cases (command : CmpCommand) :
    (∃ ret, ∀ registry hosts last fuel,
        executeOneCmpCommand registry hosts last command fuel = some ⟨ret, [], []⟩) ∧
        (∀ commandId, ¬ command.Accepted commandId) ∨
      ∃ commandId, command.Accepted commandId ∧ ∀ registry hosts last fuel,
        executeOneCmpCommand registry hosts last command fuel =
          (rounds registry hosts commandId command.length fuel 0 (command.start commandId)).map
            (finish last) := by
  by_cases hcomplete : command.content = false ∨ command.length < 4
  · refine Or.inl ⟨⟨.internal, fun registry hosts last fuel => ?_⟩, fun _ h => ?_⟩
    · rw [executeOneCmpCommand, if_pos hcomplete]
    · exact h.complete hcomplete
  cases hcommand : command.commandId with
  | none =>
      refine Or.inl ⟨⟨.commandNotSupported, fun registry hosts last fuel => ?_⟩, fun _ h => ?_⟩
      · rw [executeOneCmpCommand, if_neg hcomplete, hcommand]
      · rw [h.known] at hcommand
        cases hcommand
  | some commandId =>
      by_cases hzero : getTotalMappedBufferSize commandId command.length = 0
      · refine Or.inl ⟨⟨.commandNotSupported, fun registry hosts last fuel => ?_⟩,
          fun _ h => ?_⟩
        · rw [executeOneCmpCommand, if_neg hcomplete, hcommand]
          exact if_pos hzero
        · have hid := h.known
          rw [hcommand, Option.some.injEq] at hid
          exact h.supported (hid ▸ hzero)
      · refine Or.inr ⟨commandId, ⟨hcommand, hcomplete, hzero⟩, ?_⟩
        intro registry hosts last fuel
        rw [executeOneCmpCommand, if_neg hcomplete, hcommand]
        exact if_neg hzero

/-! ## The size of the buffer -/

@[simp]
theorem Channel.mappedSize_emit (c : Channel) (e : Event) :
    (c.emit e).mappedSize = c.mappedSize :=
  rfl

@[simp]
theorem Channel.mappedSize_mcMap (c : Channel) (ret : McResult) :
    (c.mcMap ret).mappedSize = c.mappedSize := by
  unfold Channel.mcMap
  split <;> rfl

@[simp]
theorem Channel.mappedSize_tltChannelTransmit (c : Channel) (host : RoundHost) :
    (c.tltChannelTransmit host).2.mappedSize = c.mappedSize := by
  unfold Channel.tltChannelTransmit
  split <;> rfl

namespace Preparation

@[simp]
theorem channel_setCmdElementInfo (p : Preparation) (len : UInt32) :
    (p.setCmdElementInfo len).channel = p.channel := by
  unfold setCmdElementInfo
  split <;> rfl

@[simp]
theorem mappedSize_ensureMappedBufferSize (p : Preparation) (host : RoundHost)
    (neededSize : UInt32) :
    (p.ensureMappedBufferSize host neededSize).2.channel.mappedSize = p.channel.mappedSize := by
  unfold ensureMappedBufferSize
  dsimp only
  split
  · split <;> rfl
  · rfl

@[simp]
theorem mappedSize_copy (p : Preparation) (offset len : UInt32) :
    (p.copy offset len).channel.mappedSize = p.channel.mappedSize :=
  rfl

@[simp]
theorem mappedSize_use (p : Preparation) (outCommandP : Nat) :
    (p.use outCommandP).channel.mappedSize = p.channel.mappedSize :=
  rfl

variable (registry : RegistrySizes) (host : RoundHost)

@[simp]
theorem mappedSize_addContainer (kind : Needed) (p : Preparation) :
    (addContainer registry host kind p).2.channel.mappedSize = p.channel.mappedSize := by
  unfold addContainer
  dsimp only
  split
  · split <;> simp
  · split <;> rfl

theorem mappedSize_addContainers (outCommandP : Nat) (commandId : CmpCommandId)
    (p : Preparation) :
    (p.addContainers registry host outCommandP commandId).2.channel.mappedSize =
      p.channel.mappedSize := by
  unfold addContainers
  split
  case h_3 =>
    dsimp only
    split
    · exact (mappedSize_addContainer registry host .sp _).trans
        (mappedSize_addContainer registry host .root p)
    · exact mappedSize_addContainer registry host .root p
  all_goals first
    | rfl
    | exact mappedSize_addContainer registry host _ _

end Preparation

/-- Whatever is added, the handle keeps the size that was mapped. -/
theorem mappedSize_prepareCommand (registry : RegistrySizes) (host : RoundHost)
    (commandId : CmpCommandId) (length : UInt32) (c : Channel) :
    (prepareCommand registry host commandId length c).2.mappedSize = c.mappedSize := by
  unfold prepareCommand
  dsimp only
  split
  · simp [Preparation.mappedSize_addContainers]
  · simp

section Round

variable (registry : RegistrySizes) (host : RoundHost) (commandId : CmpCommandId)
  (length : UInt32) (c : Channel)

/-- The channel after the allocation, and after the mapping, if it is tried. -/
def Channel.mapBlock : Channel :=
  (({ c with mappedP := host.block } : Channel).emit (.malloc host.block c.mappedSize)).mcMap
    host.mapRet

/-- The channel when the trustlet has answered. -/
def Channel.answered : Channel :=
  ((prepareCommand registry host commandId length (c.mapBlock host)).2.tltChannelTransmit host).2

/-- The ways a round ends. -/
inductive RoundEnds : Option RootPaError × Channel → Prop
  | noBlock (hblock : host.block = 0) :
      RoundEnds (some .outOfMemory, { c with mappedP := host.block })
  | notMapped (hblock : host.block ≠ 0) (hmap : host.mapRet ≠ mcDrvOk) :
      RoundEnds (some .mobicoreConnection, c.mapBlock host)
  | notPrepared (ret : RootPaError) (hblock : host.block ≠ 0) (hmap : host.mapRet = mcDrvOk)
      (hret : (prepareCommand registry host commandId length (c.mapBlock host)).1 ≠ .ok) :
      RoundEnds (some ret, (prepareCommand registry host commandId length (c.mapBlock host)).2)
  | answered (ret : RootPaError) (hblock : host.block ≠ 0) (hmap : host.mapRet = mcDrvOk)
      (hret : (prepareCommand registry host commandId length (c.mapBlock host)).1 = .ok) :
      RoundEnds (some ret, c.answered registry host commandId length)
  | stuck (ret : RootPaError) (hblock : host.block ≠ 0) (hmap : host.mapRet = mcDrvOk)
      (hret : (prepareCommand registry host commandId length (c.mapBlock host)).1 = .ok)
      (hunmap : ((c.answered registry host commandId length).mcUnmap host.unmapRet).1 = false) :
      RoundEnds
        (some ret, ((c.answered registry host commandId length).mcUnmap host.unmapRet).2)
  | repeated (hblock : host.block ≠ 0) (hmap : host.mapRet = mcDrvOk)
      (hret : (prepareCommand registry host commandId length (c.mapBlock host)).1 = .ok)
      (hneeded : c.mappedSize < getNeededBytesFromResponse host.response)
      (hunmap : ((c.answered registry host commandId length).mcUnmap host.unmapRet).1 = true) :
      RoundEnds (none,
        { ((c.answered registry host commandId length).mcUnmap host.unmapRet).2.free with
          mappedSize := getNeededBytesFromResponse host.response })

@[simp]
theorem mappedSize_mapBlock : (c.mapBlock host).mappedSize = c.mappedSize := by
  rw [Channel.mapBlock, Channel.mappedSize_mcMap, Channel.mappedSize_emit]

@[simp]
theorem mappedSize_answered :
    (c.answered registry host commandId length).mappedSize = c.mappedSize := by
  rw [Channel.answered, Channel.mappedSize_tltChannelTransmit, mappedSize_prepareCommand,
    mappedSize_mapBlock]

theorem roundEnds_round :
    RoundEnds registry host commandId length c (round registry host commandId length c) := by
  have hmapBlock : (({ c with mappedP := host.block } : Channel).emit
      (.malloc host.block c.mappedSize)).mcMap host.mapRet = c.mapBlock host := rfl
  have hanswered : ((prepareCommand registry host commandId length
      (c.mapBlock host)).2.tltChannelTransmit host).2 =
        c.answered registry host commandId length := rfl
  unfold round
  dsimp only
  rw [hmapBlock, hanswered]
  by_cases hblock : host.block = 0
  · rw [if_pos hblock]
    exact .noBlock hblock
  rw [if_neg hblock]
  by_cases hmap : host.mapRet = mcDrvOk
  · rw [if_neg (not_not.mpr hmap)]
    by_cases hret : (prepareCommand registry host commandId length (c.mapBlock host)).1 = .ok
    · rw [if_neg (not_not.mpr hret)]
      split
      · exact .answered _ hblock hmap hret
      split
      · exact .answered _ hblock hmap hret
      split
      · exact .answered _ hblock hmap hret
      split
      · exact .answered _ hblock hmap hret
      rename_i hneeded
      have hlt : c.mappedSize < getNeededBytesFromResponse host.response := by
        rw [← mappedSize_answered registry host commandId length c]
        exact UInt32.not_le.mp hneeded
      by_cases hunmap :
          ((c.answered registry host commandId length).mcUnmap host.unmapRet).1 = false
      · rw [if_pos hunmap]
        exact .stuck _ hblock hmap hret hunmap
      · rw [if_neg hunmap]
        exact .repeated hblock hmap hret hlt (Bool.eq_true_of_not_eq_false hunmap)
    · rw [if_pos hret]
      exact .notPrepared _ hblock hmap hret
  · rw [if_pos hmap]
    exact .notMapped hblock hmap

end Round

/-- A round is repeated only for a larger buffer, of the size that was asked for. -/
theorem round_eq_none {registry : RegistrySizes} {host : RoundHost} {commandId : CmpCommandId}
    {length : UInt32} {c c' : Channel} (h : round registry host commandId length c = (none, c')) :
    c'.mappedSize = getNeededBytesFromResponse host.response ∧ c.mappedSize < c'.mappedSize := by
  have hends := roundEnds_round registry host commandId length c
  rw [h] at hends
  cases hends with
  | repeated hblock hmap hret hneeded hunmap => exact ⟨rfl, hneeded⟩

/-! ## The end of a command -/

/-- The sizes of the rounds from one on: each repetition has the size that was asked for. -/
def Asked (hosts : Nat → RoundHost) (k : Nat) (sizes : List UInt32) : Prop :=
  ∀ i (h : i + 1 < sizes.length),
    sizes[i + 1] = getNeededBytesFromResponse (hosts (k + i)).response ∧ sizes[i] < sizes[i + 1]

theorem asked_cons {hosts : Nat → RoundHost} {k : Nat} {size next : UInt32} {sizes : List UInt32}
    (hnext : next = getNeededBytesFromResponse (hosts k).response) (hlt : size < next)
    (h : Asked hosts (k + 1) (next :: sizes)) : Asked hosts k (size :: next :: sizes) := by
  intro i hi
  cases i with
  | zero => exact ⟨hnext, hlt⟩
  | succ i =>
      have hrest := h i (Nat.lt_of_succ_lt_succ hi)
      rw [Nat.add_right_comm] at hrest
      exact hrest

section Finish

variable (registry : RegistrySizes) (hosts : Nat → RoundHost) (commandId : CmpCommandId)
  (length : UInt32)

/-- The room above the size of the buffer decreases with each repetition. -/
theorem rounds_finish (room : Nat) (k : Nat) (c : Channel)
    (hroom : 2 ^ 32 ≤ c.mappedSize.toNat + room) :
    ∃ ret sizes c', Asked hosts k (c.mappedSize :: sizes) ∧
      ∀ fuel ≥ room, rounds registry hosts commandId length fuel k c =
        some (ret, c.mappedSize :: sizes, c') := by
  induction room generalizing k c with
  | zero =>
      have hlt := c.mappedSize.toNat_lt
      omega
  | succ room ih =>
      cases hround : round registry (hosts k) commandId length c with
      | mk result c' =>
          cases result with
          | some ret =>
              refine ⟨ret, [], c', fun i hi => by simp at hi, fun fuel hfuel => ?_⟩
              obtain ⟨fuel, rfl⟩ := Nat.exists_eq_add_of_le' hfuel
              rw [← Nat.add_assoc, rounds, hround]
          | none =>
              obtain ⟨hneeded, hlt⟩ := round_eq_none hround
              have hltNat := UInt32.lt_iff_toNat_lt.mp hlt
              obtain ⟨ret, sizes, end', hasked, hrounds⟩ := ih (k + 1) c' (by omega)
              refine ⟨ret, c'.mappedSize :: sizes, end', asked_cons hneeded hlt hasked, ?_⟩
              intro fuel hfuel
              obtain ⟨fuel, rfl⟩ := Nat.exists_eq_add_of_le' hfuel
              rw [← Nat.add_assoc, rounds, hround]
              dsimp only
              rw [hrounds _ (Nat.le_add_left _ _)]
              rfl

end Finish

/-- A command comes to an end, whatever the trustlet answers and whatever fails; each repetition
has a larger buffer than all rounds before, of the size that the trustlet asked for. -/
theorem executeOneCmpCommand_finishes (registry : RegistrySizes) (hosts : Nat → RoundHost)
    (last : EndHost) (command : CmpCommand) :
    ∃ n e, (∀ fuel ≥ n, executeOneCmpCommand registry hosts last command fuel = some e) ∧
      e.sizes.Pairwise (· < ·) ∧
      ∀ i (h : i + 1 < e.sizes.length),
        e.sizes[i + 1] = getNeededBytesFromResponse (hosts i).response ∧
          e.sizes[i] < getNeededBytesFromResponse (hosts i).response := by
  obtain ⟨⟨ret, hrefused⟩, -⟩ | ⟨commandId, -, hexecute⟩ := executeOneCmpCommand_cases command
  · refine ⟨0, _, fun fuel _ => hrefused registry hosts last fuel, List.Pairwise.nil, ?_⟩
    exact fun i hi => absurd hi (Nat.not_lt_zero _)
  · obtain ⟨ret, sizes, c, hasked, hrounds⟩ := rounds_finish registry hosts commandId
      command.length (2 ^ 32) 0 (command.start commandId) (Nat.le_add_left _ _)
    refine ⟨2 ^ 32, finish last (ret, (command.start commandId).mappedSize :: sizes, c),
      fun fuel hfuel => ?_, ?_, fun i hi => ?_⟩
    · rw [hexecute, hrounds fuel hfuel]
      rfl
    · rw [← List.isChain_iff_pairwise, List.isChain_iff_getElem]
      exact fun i hi => (hasked i hi).2
    · obtain ⟨hneeded, hlt⟩ := hasked i hi
      rw [Nat.zero_add] at hneeded
      exact ⟨hneeded, hneeded ▸ hlt⟩

end CmTrustlet

end Exynos8890.RootPa
