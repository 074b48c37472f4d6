import Exynos8890.Library.TransitionSystem
import Exynos8890.RootPa.CommandRounds

/-!
# The buffer of a content management command

What a command may do with its buffer: write to it inside its block, tell the trustlet about it
while it is mapped as it is and has the elements inside, read the command in it unless it was
reallocated, and free it once, when it is no longer mapped.  In the end nothing is allocated and
nothing mapped.

Main results:

- Definition `Watch.step`: what is allowed.
- Theorem `respectsBuffer_iff`: a command respects its buffer, whatever fails, exactly when the
  command and the containers it takes fit into the size that is computed for it.
- Theorem `not_respectsBuffer`: a root container of a thousand bytes.
-/

namespace Exynos8890.RootPa

namespace CmTrustlet

open CStruct MobiCore

/-! ## What is allowed -/

/-- The blocks with their sizes, those that have not been reallocated, what is mapped, and the
elements that were written since the last block was allocated. -/
structure Watch where
  blocks : List (Nat × Nat)
  intact : List Nat
  mapped : List (Nat × Nat)
  written : List (Nat × Nat × Nat)
deriving DecidableEq, Repr

/-- Nothing is allocated, and nothing mapped. -/
def Watch.empty : Watch :=
  ⟨[], [], [], []⟩

/-- Not at an address that is mapped. -/
def Watch.Unmapped (w : Watch) (p : Nat) : Prop :=
  ∀ m ∈ w.mapped, m.1 ≠ p

instance (w : Watch) (p : Nat) : Decidable (w.Unmapped p) :=
  inferInstanceAs (Decidable (∀ m ∈ w.mapped, m.1 ≠ p))

def Watch.step (w : Watch) : Event → Option Watch
  | .malloc p size =>
      some { w with
        blocks := (p, size.toNat) :: w.blocks
        intact := p :: w.intact
        written := [] }
  | .realloc p newP size =>
      -- a block that moves is freed
      if p = newP ∨ w.Unmapped p then
        some { w with
          blocks := (newP, size.toNat) :: w.blocks.eraseP fun b => b.1 = p
          intact := w.intact.erase p }
      else none
  | .free p =>
      if (∃ b ∈ w.blocks, b.1 = p) ∧ w.Unmapped p then
        some { w with
          blocks := w.blocks.eraseP fun b => b.1 = p
          intact := w.intact.erase p }
      else none
  | .map p size => some { w with mapped := (p, size.toNat) :: w.mapped }
  | .unmap p true =>
      if ∃ m ∈ w.mapped, m.1 = p then
        some { w with mapped := w.mapped.eraseP fun m => m.1 = p }
      else none
  | .unmap _ false => some w
  | .element p offset len =>
      if ∃ b ∈ w.blocks, b.1 = p ∧ offset.toNat + len.toNat ≤ b.2 then
        some { w with written := (p, offset.toNat, len.toNat) :: w.written }
      else none
  | .used p => if p ∈ w.intact then some w else none
  | .notify p size =>
      if (p, size.toNat) ∈ w.mapped ∧
          ∀ e ∈ w.written, e.1 = p ∧ e.2.1 + e.2.2 ≤ size.toNat then some w
      else none

/-- The log as a run. -/
def watching : TransitionSystem Watch Event where
  step := Watch.step

/-- All that happened was allowed, and nothing is left. -/
def Respects (log : List Event) : Prop :=
  ∃ w, watching.run .empty log = some w ∧ w.blocks = [] ∧ w.mapped = []

/-- The buffer is respected, whatever fails and whatever the trustlet answers, as long as what is
mapped can be unmapped. -/
def RespectsBuffer (registry : RegistrySizes) (command : CmpCommand) : Prop :=
  ∀ hosts last fuel e, (∀ k, (hosts k).unmapRet = mcDrvOk) → last.unmapRet = mcDrvOk →
    executeOneCmpCommand registry hosts last command fuel = some e → Respects e.log

/-! ## What fits -/

/-- The containers that a command takes from the registry. -/
def needs : CmpCommandId → List Needed
  | .beginSocAuthentication => [.authToken]
  | .beginRootAuthentication => [.root]
  | .beginSpAuthentication => [.root, .sp]
  | .spContLockByRoot | .spContUnlockByRoot => [.sp]
  | .tltContActivate | .tltContLockBySp | .tltContPersonalize | .tltContUnlockBySp => [.tlt]
  | _ => []

/-- The size of those that are found, up to the first one missing. -/
def sizeTaken (registry : RegistrySizes) : List Needed → Nat
  | [] => 0
  | kind :: kinds =>
      if (registry kind).1 = mcDrvOk then (registry kind).2.toNat + sizeTaken registry kinds else 0

/-- The command and its containers fit into the buffer. -/
def Fits (registry : RegistrySizes) (commandId : CmpCommandId) (length : UInt32) : Prop :=
  length.toNat + sizeTaken registry (needs commandId) ≤
    (getTotalMappedBufferSize commandId length).toNat

/-! ## Logs grow -/

/-- The log of one channel is the beginning of the log of the other. -/
def Channel.Extends (c c' : Channel) : Prop :=
  c.log <+: c'.log

namespace Channel

@[refl]
theorem Extends.refl (c : Channel) : c.Extends c :=
  List.prefix_rfl

theorem Extends.trans {c c' c'' : Channel} (h : c.Extends c') (h' : c'.Extends c'') :
    c.Extends c'' :=
  List.IsPrefix.trans h h'

theorem extends_emit (c : Channel) (e : Event) : c.Extends (c.emit e) :=
  List.prefix_append _ _

theorem extends_mcMap (c : Channel) (ret : McResult) : c.Extends (c.mcMap ret) := by
  unfold mcMap
  split
  · exact c.extends_emit _
  · rfl

theorem extends_mcUnmap (c : Channel) (ret : McResult) : c.Extends (c.mcUnmap ret).2 := by
  unfold mcUnmap
  split
  · exact c.extends_emit _
  · exact c.extends_emit _

theorem extends_free (c : Channel) : c.Extends c.free := by
  unfold free
  split
  · rfl
  · exact c.extends_emit _

theorem extends_tltChannelTransmit (c : Channel) (host : RoundHost) :
    c.Extends (c.tltChannelTransmit host).2 := by
  unfold tltChannelTransmit
  split
  · rfl
  · exact c.extends_emit _

/-- Something happened that is not allowed. -/
def Broken (c : Channel) : Prop :=
  watching.run .empty c.log = none

theorem Broken.of_extends {c c' : Channel} (h : c.Broken) (hc : c.Extends c') : c'.Broken := by
  obtain ⟨rest, hrest⟩ := hc
  rw [Broken, ← hrest, Option.eq_none_iff_forall_ne_some]
  intro w hw
  obtain ⟨m, hm, -⟩ := (watching.run_append).mp hw
  rw [h] at hm
  cases hm

theorem Broken.not_respects {c : Channel} (h : c.Broken) : ¬ Respects c.log := by
  rintro ⟨w, hw, -⟩
  rw [h] at hw
  cases hw

end Channel

/-! ## Steps of a preparation -/

/-- What follows the copy of the command. -/
inductive PrepStep where
  | use
  | add (kind : Needed)
deriving DecidableEq, Repr

/-- The steps of a command. -/
def plan : CmpCommandId → List PrepStep
  | .beginSocAuthentication => [.add .authToken]
  | .beginRootAuthentication => [.add .root]
  | .beginSpAuthentication => [.add .root, .use, .add .sp]
  | .spContActivate | .spContLockBySp | .spContRegister | .spContRegisterActivate
  | .spContUnlockBySp | .spContUnregister | .tltContRegister | .tltContRegisterActivate
  | .tltContUnregister => [.use]
  | .spContLockByRoot | .spContUnlockByRoot => [.use, .add .sp]
  | .tltContActivate | .tltContLockBySp | .tltContPersonalize | .tltContUnlockBySp =>
      [.use, .add .tlt]
  | _ => []

/-- The containers of some steps. -/
def kinds : List PrepStep → List Needed
  | [] => []
  | .use :: steps => kinds steps
  | .add kind :: steps => kind :: kinds steps

theorem kinds_plan (commandId : CmpCommandId) : kinds (plan commandId) = needs commandId := by
  cases commandId <;> rfl

namespace Preparation

variable (registry : RegistrySizes) (host : RoundHost)

/-- The steps one after another, up to the first that fails. -/
def perform (outCommandP : Nat) : List PrepStep → Preparation → RootPaError × Preparation
  | [], p => (.ok, p)
  | .use :: steps, p => perform outCommandP steps (p.use outCommandP)
  | .add kind :: steps, p =>
      if (addContainer registry host kind p).1 = .ok then
        perform outCommandP steps (addContainer registry host kind p).2
      else addContainer registry host kind p

theorem perform_add (outCommandP : Nat) (kind : Needed) (p : Preparation) :
    perform registry host outCommandP [.add kind] p = addContainer registry host kind p := by
  rw [perform]
  split
  · rename_i hok
    exact Prod.ext hok.symm rfl
  · rfl

theorem addContainers_eq_perform (outCommandP : Nat) (commandId : CmpCommandId)
    (p : Preparation) :
    p.addContainers registry host outCommandP commandId =
      perform registry host outCommandP (plan commandId) p := by
  cases commandId
  case beginSocAuthentication | beginRootAuthentication =>
    exact (perform_add registry host outCommandP _ p).symm
  case beginSpAuthentication =>
    have hsecond := perform_add registry host outCommandP .sp
      ((addContainer registry host .root p).2.use outCommandP)
    rw [plan, perform, perform, hsecond]
    rfl
  case spContLockByRoot | spContUnlockByRoot | tltContActivate | tltContLockBySp
    | tltContPersonalize | tltContUnlockBySp =>
    exact (perform_add registry host outCommandP _ (p.use outCommandP)).symm
  all_goals rfl

/-! ### Logs -/

variable {registry host}

theorem extends_ensureMappedBufferSize (host : RoundHost) (p : Preparation)
    (neededSize : UInt32) :
    p.channel.Extends (p.ensureMappedBufferSize host neededSize).2.channel := by
  unfold ensureMappedBufferSize
  dsimp only
  split
  · split
    · rfl
    · exact p.channel.extends_emit _
  · rfl

theorem extends_addContainer (kind : Needed) (p : Preparation) :
    p.channel.Extends (addContainer registry host kind p).2.channel := by
  unfold addContainer
  dsimp only
  split
  · have hensure := extends_ensureMappedBufferSize host p
      (p.offset + (registry kind).2)
    split
    · rw [channel_setCmdElementInfo]
      exact hensure.trans (Channel.extends_emit _ _)
    · exact hensure
  · split <;> rfl

theorem extends_perform (outCommandP : Nat) (steps : List PrepStep) (p : Preparation) :
    p.channel.Extends (perform registry host outCommandP steps p).2.channel := by
  induction steps generalizing p with
  | nil => rfl
  | cons step steps ih =>
      cases step with
      | use => exact (p.channel.extends_emit _).trans (ih (p.use outCommandP))
      | add kind =>
          rw [perform]
          split
          · exact (extends_addContainer kind p).trans (ih _)
          · exact extends_addContainer kind p

end Preparation

theorem extends_prepareCommand (registry : RegistrySizes) (host : RoundHost)
    (commandId : CmpCommandId) (length : UInt32) (c : Channel) :
    c.Extends (prepareCommand registry host commandId length c).2 := by
  unfold prepareCommand
  dsimp only
  have hensure := Preparation.extends_ensureMappedBufferSize host
    (Preparation.setCmdElementInfo ⟨c, 1, 0, 0⟩ length) length
  rw [Preparation.channel_setCmdElementInfo] at hensure
  split
  · rw [Preparation.addContainers_eq_perform]
    exact hensure.trans ((Channel.extends_emit _ _).trans
      (Preparation.extends_perform _ _ (Preparation.copy _ 0 length)))
  · exact hensure

theorem extends_mapBlock (host : RoundHost) (c : Channel) : c.Extends (c.mapBlock host) := by
  have hmalloc : c.Extends (({ c with mappedP := host.block } : Channel).emit
      (.malloc host.block c.mappedSize)) := List.prefix_append _ _
  exact hmalloc.trans (Channel.extends_mcMap _ _)

section Rounds

variable (registry : RegistrySizes) (commandId : CmpCommandId) (length : UInt32)

theorem extends_answered (host : RoundHost) (c : Channel) :
    (c.mapBlock host).Extends (c.answered registry host commandId length) :=
  (extends_prepareCommand registry host commandId length _).trans
    (Channel.extends_tltChannelTransmit _ _)

theorem extends_round (host : RoundHost) (c : Channel) :
    c.Extends (round registry host commandId length c).2 := by
  have hends := roundEnds_round registry host commandId length c
  have hmap := extends_mapBlock host c
  have hanswered := extends_answered registry commandId length host c
  generalize round registry host commandId length c = result at hends ⊢
  cases hends with
  | noBlock hblock => exact List.prefix_rfl
  | notMapped hblock hmapRet => exact hmap
  | notPrepared ret hblock hmapRet hret =>
      exact hmap.trans (extends_prepareCommand registry host commandId length _)
  | answered ret hblock hmapRet hret => exact hmap.trans hanswered
  | stuck ret hblock hmapRet hret hunmap =>
      exact (hmap.trans hanswered).trans (Channel.extends_mcUnmap _ _)
  | repeated hblock hmapRet hret hneeded hunmap =>
      exact ((hmap.trans hanswered).trans (Channel.extends_mcUnmap _ _)).trans
        (Channel.extends_free _)

theorem extends_rounds (hosts : Nat → RoundHost) {fuel k : Nat} {c c' : Channel}
    {ret : RootPaError} {sizes : List UInt32}
    (h : rounds registry hosts commandId length fuel k c = some (ret, sizes, c')) :
    (round registry (hosts k) commandId length c).2.Extends c' := by
  induction fuel generalizing k c ret sizes with
  | zero => cases h
  | succ fuel ih =>
      rw [rounds] at h
      cases hround : round registry (hosts k) commandId length c with
      | mk result last =>
          rw [hround] at h
          cases result with
          | some ret' =>
              cases h
              rfl
          | none =>
              obtain ⟨r, hr, hlast⟩ := Option.map_eq_some_iff.mp h
              cases hlast
              have hnext := extends_round registry commandId length (hosts (k + 1)) last
              exact hnext.trans (ih hr)

end Rounds

/-! ## A buffer in use -/

namespace Channel

theorem run_emit {c : Channel} {w w' : Watch} {e : Event}
    (hw : watching.run .empty c.log = some w) (he : w.step e = some w') :
    watching.run .empty (c.emit e).log = some w' :=
  (watching.run_append).mpr ⟨w, hw, (watching.run_cons_eq_some).mpr ⟨w', he, rfl⟩⟩

theorem broken_emit {c : Channel} {w : Watch} {e : Event}
    (hw : watching.run .empty c.log = some w) (he : w.step e = none) : (c.emit e).Broken := by
  rw [Broken, Option.eq_none_iff_forall_ne_some]
  intro w' hw'
  obtain ⟨m, hm, hstep⟩ := (watching.run_append).mp hw'
  rw [hw, Option.some.injEq] at hm
  obtain ⟨m', hm', -⟩ := (watching.run_cons_eq_some).mp hstep
  rw [← hm] at hm'
  rw [show watching.step w e = w.step e from rfl, he] at hm'
  cases hm'

/-- Nothing is allocated or mapped. -/
structure Idle (c : Channel) : Prop where
  mapped : c.mapped = []
  watched : ∃ written, watching.run .empty c.log = some ⟨[], [], [], written⟩

theorem free_idle {c : Channel} (n : Nat) (written : List (Nat × Nat × Nat))
    (hpos : c.mappedP ≠ 0) (hmapped : c.mapped = [])
    (hw : watching.run .empty c.log = some ⟨[(c.mappedP, n)], [c.mappedP], [], written⟩) :
    c.free.Idle := by
  rw [Channel.free, if_neg hpos]
  refine ⟨hmapped, written, run_emit hw ?_⟩
  simp [Watch.step, Watch.Unmapped]

/-- The block of the handle is mapped as it is, and the elements lie inside. -/
structure Live (c : Channel) (p : Nat) : Prop where
  pos : p ≠ 0
  mappedP : c.mappedP = p
  mapped : c.mapped = [(p, c.mappedSize)]
  watched : ∃ written,
    watching.run .empty c.log = some ⟨[(p, c.mappedSize.toNat)], [p], [(p, c.mappedSize.toNat)],
      written⟩ ∧ ∀ e ∈ written, e.1 = p ∧ e.2.1 + e.2.2 ≤ c.mappedSize.toNat

namespace Live

variable {c : Channel} {p : Nat}

theorem element (h : c.Live p) {offset len : UInt32}
    (hfits : offset.toNat + len.toNat ≤ c.mappedSize.toNat) :
    (c.emit (.element c.mappedP offset len)).Live p := by
  obtain ⟨written, hw, hinside⟩ := h.watched
  refine ⟨h.pos, h.mappedP, h.mapped, (p, offset.toNat, len.toNat) :: written, ?_, ?_⟩
  · refine run_emit hw ?_
    rw [h.mappedP]
    exact if_pos ⟨_, List.mem_singleton_self _, rfl, hfits⟩
  · intro e he
    obtain rfl | he := List.mem_cons.mp he
    · exact ⟨rfl, hfits⟩
    · exact hinside e he

theorem used (h : c.Live p) : (c.emit (.used p)).Live p := by
  obtain ⟨written, hw, hinside⟩ := h.watched
  exact ⟨h.pos, h.mappedP, h.mapped, written,
    run_emit hw (if_pos (List.mem_singleton_self p)), hinside⟩

theorem tltChannelTransmit (h : c.Live p) (host : RoundHost) :
    (c.tltChannelTransmit host).2.Live p := by
  unfold Channel.tltChannelTransmit
  split
  · exact h
  · obtain ⟨written, hw, hinside⟩ := h.watched
    refine ⟨h.pos, h.mappedP, h.mapped, written, run_emit hw ?_, hinside⟩
    rw [h.mappedP]
    exact if_pos ⟨List.mem_singleton_self _, hinside⟩

theorem mcUnmap_free (h : c.Live p) {ret : McResult} (hret : ret = mcDrvOk) :
    (c.mcUnmap ret).1 = true ∧ (c.mcUnmap ret).2.free.Idle := by
  obtain ⟨written, hw, -⟩ := h.watched
  have hany : (c.mapped.any fun m => m.1 = c.mappedP) = true := by
    rw [h.mapped, h.mappedP]
    simp
  rw [Channel.mcUnmap, if_pos ⟨hret, hany⟩]
  refine ⟨rfl, ?_⟩
  have hunmapped : watching.run .empty (c.emit (.unmap c.mappedP true)).log =
      some ⟨[(p, c.mappedSize.toNat)], [p], [], written⟩ := by
    refine run_emit hw ?_
    rw [h.mappedP]
    simp [Watch.step]
  refine free_idle c.mappedSize.toNat written (h.mappedP ▸ h.pos) ?_ ?_
  · show c.mapped.eraseP _ = []
    rw [h.mapped, h.mappedP]
    simp
  · show watching.run .empty (c.emit (.unmap c.mappedP true)).log =
      some ⟨[(c.mappedP, _)], [c.mappedP], [], written⟩
    rw [hunmapped, h.mappedP]

end Live

/-- What is given back behind the loop. -/
inductive Held (c : Channel) : Prop
  | nothing (hpos : c.mappedP = 0) (hidle : c.Idle)
  | block (n : Nat) (written : List (Nat × Nat × Nat)) (hpos : c.mappedP ≠ 0)
      (hmapped : c.mapped = [])
      (hw : watching.run .empty c.log = some ⟨[(c.mappedP, n)], [c.mappedP], [], written⟩)
  | mapped (p : Nat) (hlive : c.Live p)

/-- Where nothing is mapped, `mcUnmap` only fails. -/
theorem mcUnmap_of_nil {c : Channel} (hmapped : c.mapped = []) (ret : McResult) :
    c.mcUnmap ret = (false, c.emit (.unmap c.mappedP false)) := by
  rw [mcUnmap, if_neg]
  simp [hmapped]

theorem Held.given {c : Channel} (h : c.Held) {ret : McResult} (hret : ret = mcDrvOk) :
    (c.mcUnmap ret).2.free.Idle := by
  cases h with
  | nothing hpos hidle =>
      obtain ⟨written, hw⟩ := hidle.watched
      have hzero : (c.emit (.unmap c.mappedP false)).mappedP = 0 := hpos
      rw [mcUnmap_of_nil hidle.mapped, Channel.free, if_pos hzero]
      exact ⟨hidle.mapped, written, run_emit hw rfl⟩
  | block n written hpos hmapped hw =>
      rw [mcUnmap_of_nil hmapped]
      exact free_idle n written hpos hmapped (run_emit hw rfl)
  | mapped p hlive => exact (hlive.mcUnmap_free hret).2

section Map

variable {c : Channel} (host : RoundHost)

theorem Idle.malloc (h : c.Idle) :
    watching.run .empty (({ c with mappedP := host.block } : Channel).emit
        (.malloc host.block c.mappedSize)).log =
      some ⟨[(host.block, c.mappedSize.toNat)], [host.block], [], []⟩ := by
  obtain ⟨written, hw⟩ := h.watched
  exact run_emit (c := { c with mappedP := host.block }) hw rfl

theorem Idle.mapBlock_held (h : c.Idle) (hblock : host.block ≠ 0) (hret : host.mapRet ≠ mcDrvOk) :
    (c.mapBlock host).Held := by
  rw [mapBlock, mcMap, if_neg hret]
  exact .block _ _ hblock h.mapped (h.malloc host)

theorem Idle.mapBlock_live (h : c.Idle) (hblock : host.block ≠ 0) (hret : host.mapRet = mcDrvOk) :
    (c.mapBlock host).Live host.block := by
  rw [mapBlock, mcMap, if_pos hret]
  refine ⟨hblock, rfl, ?_, [], run_emit (h.malloc host) rfl, fun e he => by cases he⟩
  show _ :: c.mapped = _
  rw [h.mapped]
  rfl

end Map

end Channel

/-! ## What fits stays inside -/

namespace Preparation

theorem setCmdElementInfo_of_le {p : Preparation} (h : 2 ≤ p.elementIndex.toNat)
    (len : UInt32) :
    p.setCmdElementInfo len =
      { p with
        elementIndex := p.elementIndex + 1
        offset := p.offset + len } := by
  rw [setCmdElementInfo, if_neg]
  rintro (hzero | ⟨hone, -⟩)
  · rw [hzero] at h
    exact absurd h (by decide)
  · rw [hone] at h
    exact absurd h (by decide)

theorem ensureMappedBufferSize_of_le {p : Preparation} (host : RoundHost) {neededSize : UInt32}
    (h : neededSize.toNat ≤ p.channel.mappedSize.toNat) :
    p.ensureMappedBufferSize host neededSize = (true, p) :=
  if_neg (UInt32.not_lt.mpr (UInt32.le_iff_toNat_le.mpr h))

variable {registry : RegistrySizes} {host : RoundHost}

theorem addContainer_of_ne {kind : Needed} (p : Preparation)
    (h : readResult registry host kind ≠ mcDrvOk) :
    (addContainer registry host kind p).1 ≠ .ok ∧
      (addContainer registry host kind p).2 = p := by
  unfold addContainer
  dsimp only
  rw [if_neg h]
  split
  · exact ⟨nofun, rfl⟩
  · exact ⟨nofun, rfl⟩

/-- The sum of the offset and a size that fits does not wrap. -/
theorem toNat_offset_add {p : Preparation} {size : UInt32}
    (h : p.offset.toNat + size.toNat ≤ p.channel.mappedSize.toNat) :
    (p.offset + size).toNat = p.offset.toNat + size.toNat := by
  rw [UInt32.toNat_add]
  exact Nat.mod_eq_of_lt (h.trans_lt p.channel.mappedSize.toNat_lt)

theorem addContainer_of_fits {kind : Needed} {p : Preparation}
    (h : readResult registry host kind = mcDrvOk)
    (hfits : p.offset.toNat + (registry kind).2.toNat ≤ p.channel.mappedSize.toNat) :
    addContainer registry host kind p =
      (.ok, (p.copy p.offset (registry kind).2).setCmdElementInfo (registry kind).2) := by
  have hensure := ensureMappedBufferSize_of_le host
    ((toNat_offset_add hfits).trans_le hfits)
  unfold addContainer
  dsimp only
  rw [if_pos h, hensure]
  rfl

theorem of_readResult {kind : Needed} (h : readResult registry host kind = mcDrvOk) :
    (registry kind).1 = mcDrvOk := by
  rw [readResult] at h
  split at h
  · exact h
  · exact absurd h (by decide)

/-- The buffer is in use, and a number of steps is still to come. -/
structure Ready (p : Preparation) (b left : Nat) : Prop where
  live : p.channel.Live b
  index : 2 ≤ p.elementIndex.toNat
  room : p.elementIndex.toNat + left < 2 ^ 32

theorem Ready.use {p : Preparation} {b left : Nat} (h : p.Ready b (left + 1)) :
    (p.use b).Ready b left :=
  ⟨h.live.used, h.index, (Nat.lt_succ_self _).trans h.room⟩

theorem Ready.add {p : Preparation} {b left : Nat} (h : p.Ready b (left + 1)) {kind : Needed}
    (hread : readResult registry host kind = mcDrvOk)
    (hfits : p.offset.toNat + (registry kind).2.toNat ≤ p.channel.mappedSize.toNat) :
    ∃ next, addContainer registry host kind p = (.ok, next) ∧ next.Ready b left ∧
      next.channel.mappedSize = p.channel.mappedSize ∧
      next.offset.toNat = p.offset.toNat + (registry kind).2.toNat := by
  have hindex : (p.elementIndex + 1).toNat = p.elementIndex.toNat + 1 := by
    have hroom := h.room
    rw [UInt32.toNat_add]
    exact Nat.mod_eq_of_lt (by show _ + 1 < 2 ^ 32; omega)
  refine ⟨_, addContainer_of_fits hread hfits, ?_⟩
  rw [setCmdElementInfo_of_le (by exact h.index)]
  refine ⟨⟨h.live.element hfits, ?_, ?_⟩, rfl, toNat_offset_add hfits⟩
  · show 2 ≤ (p.elementIndex + 1).toNat
    exact h.index.trans (by rw [hindex]; exact Nat.le_succ _)
  · show (p.elementIndex + 1).toNat + left < 2 ^ 32
    rw [hindex, Nat.add_assoc, Nat.add_comm 1]
    exact h.room

/-- The induction is on the steps; what is still to be taken fits behind the offset. -/
theorem perform_live {b : Nat} {steps : List PrepStep} {p : Preparation}
    (h : p.Ready b steps.length)
    (hfits : p.offset.toNat + sizeTaken registry (kinds steps) ≤
      p.channel.mappedSize.toNat) :
    (perform registry host b steps p).2.channel.Live b := by
  induction steps generalizing p with
  | nil => exact h.live
  | cons step steps ih =>
      cases step with
      | use => exact ih h.use hfits
      | add kind =>
          rw [perform]
          by_cases hread : readResult registry host kind = mcDrvOk
          · rw [kinds, sizeTaken, if_pos (of_readResult hread), ← Nat.add_assoc] at hfits
            obtain ⟨next, hnext, hready, hsize, hoffset⟩ :=
              h.add hread ((Nat.le_add_right _ _).trans hfits)
            rw [hnext, if_pos rfl]
            refine ih hready ?_
            rw [hsize, hoffset]
            exact hfits
          · obtain ⟨hret, hsame⟩ := addContainer_of_ne p hread
            rw [if_neg hret, hsame]
            exact h.live

end Preparation

theorem length_plan (commandId : CmpCommandId) : (plan commandId).length ≤ 3 := by
  cases commandId <;> decide

section Command

variable {registry : RegistrySizes} {commandId : CmpCommandId} {length : UInt32}

theorem setCmdElementInfo_first (c : Channel) :
    Preparation.setCmdElementInfo ⟨c, 1, 0, 0⟩ length = ⟨c, 2, length, 0⟩ := by
  rw [Preparation.setCmdElementInfo, if_neg (by simp)]
  simp

theorem ready_copy {c : Channel} {b : Nat} (h : c.Live b)
    (hlength : length.toNat ≤ c.mappedSize.toNat) :
    (Preparation.copy ⟨c, 2, length, 0⟩ 0 length).Ready b (plan commandId).length := by
  have hplan := length_plan commandId
  have htwo : (2 : UInt32).toNat = 2 := rfl
  refine ⟨h.element ?_, le_of_eq htwo.symm, ?_⟩
  · rw [UInt32.toNat_zero, Nat.zero_add]
    exact hlength
  · show (2 : UInt32).toNat + _ < 2 ^ 32
    omega

/-- A command that fits is prepared in the buffer as it is. -/
theorem prepareCommand_live {c : Channel} {b : Nat} (host : RoundHost) (h : c.Live b)
    (hfits : length.toNat + sizeTaken registry (needs commandId) ≤ c.mappedSize.toNat) :
    (prepareCommand registry host commandId length c).2.Live b := by
  have hlength : length.toNat ≤ c.mappedSize.toNat := (Nat.le_add_right _ _).trans hfits
  have hensure := Preparation.ensureMappedBufferSize_of_le
    (p := ⟨c, 2, length, 0⟩) host hlength
  unfold prepareCommand
  rw [setCmdElementInfo_first, h.mappedP]
  dsimp only
  rw [hensure, if_pos rfl, Preparation.addContainers_eq_perform]
  refine Preparation.perform_live (ready_copy h hlength) ?_
  rw [kinds_plan]
  exact hfits

/-- What a round leaves: the buffer is still to be given back, or it is, and a larger one is
needed. -/
inductive RoundLeaves (c c' : Channel) : Option RootPaError → Prop
  | last (ret : RootPaError) (h : c'.Held) : RoundLeaves c c' (some ret)
  | repeated (hidle : c'.Idle) (hlt : c.mappedSize < c'.mappedSize) : RoundLeaves c c' none

theorem round_held {host : RoundHost} {c c' : Channel} {result : Option RootPaError}
    (h : c.Idle) (hunmapRet : host.unmapRet = mcDrvOk)
    (hfits : length.toNat + sizeTaken registry (needs commandId) ≤ c.mappedSize.toNat)
    (hround : round registry host commandId length c = (result, c')) :
    RoundLeaves c c' result := by
  have hends := roundEnds_round registry host commandId length c
  have hprepared (hblock : host.block ≠ 0) (hmapRet : host.mapRet = mcDrvOk) :
      (prepareCommand registry host commandId length (c.mapBlock host)).2.Live host.block :=
    prepareCommand_live host (h.mapBlock_live host hblock hmapRet) (by simpa using hfits)
  have hanswered (hblock : host.block ≠ 0) (hmapRet : host.mapRet = mcDrvOk) :
      (c.answered registry host commandId length).Live host.block :=
    (hprepared hblock hmapRet).tltChannelTransmit host
  rw [hround] at hends
  cases hends with
  | noBlock hblock =>
      obtain ⟨written, hw⟩ := h.watched
      exact .last _ (.nothing hblock ⟨h.mapped, written, hw⟩)
  | notMapped hblock hmapRet => exact .last _ (h.mapBlock_held host hblock hmapRet)
  | notPrepared ret hblock hmapRet hret => exact .last ret (.mapped _ (hprepared hblock hmapRet))
  | answered ret hblock hmapRet hret => exact .last ret (.mapped _ (hanswered hblock hmapRet))
  | stuck ret hblock hmapRet hret hunmap =>
      have hdone := ((hanswered hblock hmapRet).mcUnmap_free hunmapRet).1
      rw [hunmap] at hdone
      cases hdone
  | repeated hblock hmapRet hret hneeded hunmap =>
      obtain ⟨hmapped, written, hw⟩ := ((hanswered hblock hmapRet).mcUnmap_free hunmapRet).2
      exact .repeated ⟨hmapped, written, hw⟩ hneeded

theorem rounds_held {hosts : Nat → RoundHost} {fuel k : Nat} {c c' : Channel}
    {ret : RootPaError} {sizes : List UInt32} (h : c.Idle)
    (hunmapRet : ∀ i, (hosts i).unmapRet = mcDrvOk)
    (hfits : length.toNat + sizeTaken registry (needs commandId) ≤ c.mappedSize.toNat)
    (hrounds : rounds registry hosts commandId length fuel k c = some (ret, sizes, c')) :
    c'.Held := by
  induction fuel generalizing k c ret sizes with
  | zero => cases hrounds
  | succ fuel ih =>
      rw [rounds] at hrounds
      cases hround : round registry (hosts k) commandId length c with
      | mk result next =>
          have hleaves := round_held h (hunmapRet k) hfits hround
          rw [hround] at hrounds
          cases hleaves with
          | last ret' hheld =>
              cases hrounds
              exact hheld
          | repeated hidle hlt =>
              obtain ⟨r, hr, hr'⟩ := Option.map_eq_some_iff.mp hrounds
              cases hr'
              exact ih hidle (hfits.trans (UInt32.lt_iff_toNat_lt.mp hlt).le) hr

end Command

/-! ## What does not fit -/

/-- Nothing fails, the trustlet is content, and a block that grows moves. -/
def movingHost : RoundHost where
  block := 1
  mapRet := mcDrvOk
  buffer _ := true
  grown _ := 2
  notifyRet := mcDrvOk
  waitRet := mcDrvOk
  response _ := 0
  unmapRet := mcDrvOk

namespace Preparation

/-- Reallocating the block while it is mapped is not allowed. -/
theorem ensureMappedBufferSize_broken {p : Preparation} {neededSize : UInt32}
    (h : p.channel.Live 1) (hneeded : neededSize > p.channel.mappedSize) :
    (p.ensureMappedBufferSize movingHost neededSize).1 = true ∧
      (p.ensureMappedBufferSize movingHost neededSize).2.channel.Broken := by
  obtain ⟨written, hw, -⟩ := h.watched
  have hmoved : (p.channel.emit (.realloc p.channel.mappedP 2 neededSize)).Broken := by
    refine Channel.broken_emit hw ?_
    rw [h.mappedP]
    simp [Watch.step, Watch.Unmapped]
  unfold ensureMappedBufferSize
  rw [if_pos hneeded]
  exact ⟨rfl, hmoved⟩

variable {registry : RegistrySizes}

/-- The block moves, or, where the sum of the sizes wraps, the element does not lie inside. -/
theorem addContainer_broken {kind : Needed} {p : Preparation} (h : p.channel.Live 1)
    (hread : (registry kind).1 = mcDrvOk)
    (hfits : ¬ p.offset.toNat + (registry kind).2.toNat ≤ p.channel.mappedSize.toNat) :
    (addContainer registry movingHost kind p).2.channel.Broken := by
  unfold addContainer
  dsimp only
  rw [if_pos (show readResult registry movingHost kind = mcDrvOk from hread)]
  by_cases hneeded : p.offset + (registry kind).2 > p.channel.mappedSize
  · obtain ⟨hensured, hbroken⟩ := ensureMappedBufferSize_broken h hneeded
    rw [if_pos hensured, channel_setCmdElementInfo]
    exact hbroken.of_extends (Channel.extends_emit _ _)
  · obtain ⟨written, hw, -⟩ := h.watched
    rw [ensureMappedBufferSize, if_neg hneeded, if_pos rfl, channel_setCmdElementInfo]
    refine Channel.broken_emit hw ?_
    rw [h.mappedP]
    refine if_neg ?_
    rintro ⟨b, hb, -, hinside⟩
    obtain rfl := List.mem_singleton.mp hb
    exact hfits hinside

/-- The induction is on the steps, up to the first container that does not fit. -/
theorem perform_broken {steps : List PrepStep} {p : Preparation} (h : p.Ready 1 steps.length)
    (hoffset : p.offset.toNat ≤ p.channel.mappedSize.toNat)
    (hfits : ¬ p.offset.toNat + sizeTaken registry (kinds steps) ≤
      p.channel.mappedSize.toNat) :
    (perform registry movingHost 1 steps p).2.channel.Broken := by
  induction steps generalizing p with
  | nil => exact absurd hoffset hfits
  | cons step steps ih =>
      cases step with
      | use => exact ih h.use hoffset hfits
      | add kind =>
          rw [perform]
          by_cases hread : (registry kind).1 = mcDrvOk
          · by_cases hfirst : p.offset.toNat + (registry kind).2.toNat ≤
                p.channel.mappedSize.toNat
            · have hread' : readResult registry movingHost kind = mcDrvOk := hread
              obtain ⟨next, hnext, hready, hsize, hnextOffset⟩ := h.add hread' hfirst
              rw [kinds, sizeTaken, if_pos hread, ← Nat.add_assoc] at hfits
              rw [hnext, if_pos rfl]
              refine ih hready ?_ ?_
              · rw [hsize, hnextOffset]
                exact hfirst
              · rw [hsize, hnextOffset]
                exact hfits
            · have hbroken := addContainer_broken h.live hread hfirst
              split
              · exact hbroken.of_extends (extends_perform _ _ _)
              · exact hbroken
          · rw [kinds, sizeTaken, if_neg hread] at hfits
            exact absurd hoffset hfits

end Preparation

section Broken

variable {registry : RegistrySizes} {commandId : CmpCommandId} {length : UInt32} {c : Channel}

theorem prepareCommand_broken (h : c.Live 1)
    (hfits : ¬ length.toNat + sizeTaken registry (needs commandId) ≤ c.mappedSize.toNat) :
    (prepareCommand registry movingHost commandId length c).2.Broken := by
  unfold prepareCommand
  rw [setCmdElementInfo_first, h.mappedP]
  dsimp only
  by_cases hlength : length.toNat ≤ c.mappedSize.toNat
  · have hensure := Preparation.ensureMappedBufferSize_of_le
      (p := ⟨c, 2, length, 0⟩) movingHost hlength
    rw [hensure, if_pos rfl, Preparation.addContainers_eq_perform]
    refine Preparation.perform_broken (ready_copy h hlength) hlength ?_
    rw [kinds_plan]
    exact hfits
  · have hneeded : length > c.mappedSize :=
      UInt32.lt_iff_toNat_lt.mpr (Nat.lt_of_not_le hlength)
    obtain ⟨hensured, hbroken⟩ :=
      Preparation.ensureMappedBufferSize_broken (p := ⟨c, 2, length, 0⟩) h hneeded
    rw [if_pos hensured, Preparation.addContainers_eq_perform]
    exact (hbroken.of_extends (Channel.extends_emit _ _)).of_extends
      (Preparation.extends_perform _ _ (Preparation.copy _ 0 length))

theorem round_broken (h : c.Idle)
    (hfits : ¬ length.toNat + sizeTaken registry (needs commandId) ≤ c.mappedSize.toNat) :
    (round registry movingHost commandId length c).2.Broken := by
  have hprepared : (prepareCommand registry movingHost commandId length
      (c.mapBlock movingHost)).2.Broken :=
    prepareCommand_broken (h.mapBlock_live movingHost (by decide) rfl) (by simpa using hfits)
  have hanswered : (c.answered registry movingHost commandId length).Broken :=
    hprepared.of_extends (Channel.extends_tltChannelTransmit _ _)
  have hends := roundEnds_round registry movingHost commandId length c
  generalize round registry movingHost commandId length c = result at hends ⊢
  cases hends with
  | noBlock hblock => exact absurd hblock (by decide)
  | notMapped hblock hmapRet => exact absurd rfl hmapRet
  | notPrepared ret hblock hmapRet hret => exact hprepared
  | answered ret hblock hmapRet hret => exact hanswered
  | stuck ret hblock hmapRet hret hunmap =>
      exact hanswered.of_extends (Channel.extends_mcUnmap _ _)
  | repeated hblock hmapRet hret hneeded hunmap =>
      exact (hanswered.of_extends (Channel.extends_mcUnmap _ _)).of_extends
        (Channel.extends_free _)

end Broken

/-! ## Commands -/

/-- Whatever fails, a command respects its buffer exactly when it is refused at once or fits, with
the containers it takes, into the size that is computed for it. -/
theorem respectsBuffer_iff (registry : RegistrySizes) (command : CmpCommand) :
    RespectsBuffer registry command ↔
      ∀ commandId, command.Accepted commandId → Fits registry commandId command.length := by
  constructor
  · intro h commandId haccepted
    by_contra hfits
    have hidle : (command.start commandId).Idle := ⟨rfl, [], rfl⟩
    have hbroken := round_broken hidle hfits
    obtain ⟨-, hrefused⟩ | ⟨commandId', haccepted', hexecute⟩ :=
      executeOneCmpCommand_cases command
    · exact hrefused commandId haccepted
    obtain rfl : commandId' = commandId :=
      Option.some.inj (haccepted'.known.symm.trans haccepted.known)
    obtain ⟨n, e, hfinishes, -⟩ := executeOneCmpCommand_finishes registry
      (fun _ => movingHost) ⟨.ok, mcDrvOk⟩ command
    have he := hfinishes n le_rfl
    have hrespects := h _ _ n e (fun _ => rfl) rfl he
    rw [hexecute] at he
    obtain ⟨⟨ret, sizes, c⟩, hrounds, rfl⟩ := Option.map_eq_some_iff.mp he
    have hend : c.Broken := hbroken.of_extends (extends_rounds _ _ _ _ hrounds)
    exact ((hend.of_extends (Channel.extends_mcUnmap _ _)).of_extends
      (Channel.extends_free _)).not_respects hrespects
  · intro hfits hosts last fuel e hunmapRet hlast he
    obtain ⟨⟨ret, hrefused⟩, -⟩ | ⟨commandId, haccepted, hexecute⟩ :=
      executeOneCmpCommand_cases command
    · rw [hrefused, Option.some.injEq] at he
      rw [← he]
      exact ⟨.empty, rfl, rfl, rfl⟩
    · rw [hexecute] at he
      obtain ⟨⟨ret, sizes, c⟩, hrounds, rfl⟩ := Option.map_eq_some_iff.mp he
      have hidle : (command.start commandId).Idle := ⟨rfl, [], rfl⟩
      have hheld := rounds_held hidle hunmapRet (hfits commandId haccepted) hrounds
      obtain ⟨-, written, hw⟩ := hheld.given hlast
      exact ⟨_, hw, rfl, rfl⟩

/-- A root container of a thousand bytes: it does not fit behind the command, and the buffer is
moved while it is mapped. -/
theorem not_respectsBuffer :
    ¬ ∀ registry command, RespectsBuffer registry command := by
  intro h
  let registry : RegistrySizes := fun _ => (mcDrvOk, 1000)
  let command : CmpCommand := ⟨some .beginRootAuthentication, 12, true⟩
  have hrun : (executeOneCmpCommand registry (fun _ => movingHost) ⟨.ok, mcDrvOk⟩ command 1).map
      (fun e => (watching.run .empty e.log).isNone) = some true := by decide
  obtain ⟨e, he, hnone⟩ := Option.map_eq_some_iff.mp hrun
  obtain ⟨w, hw, -⟩ := h registry command _ _ 1 e (fun _ => rfl) rfl he
  rw [hw] at hnone
  cases hnone

end CmTrustlet

end Exynos8890.RootPa
