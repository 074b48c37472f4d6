import Exynos8890.RootPa.ProvisioningStrings

/-!
# Runs of the provisioning loop

What holds over whole runs, for every sequence of replies: who releases the strings, how often
the end is reported, what is repeated, and what the recovery from a factory reset leaves behind.
A run is followed in the dialogue as long as its strings are sound.

Main results:

- Theorem `stringsFreed_run`: under what conditions every string is released once.
- Theorem `not_stringsFreed`: the link is released while it is still used.
-/

namespace Exynos8890.RootPa

open MobiCore HeapCells

/-! ## The request that was set aside -/

namespace Dialogue

theorem httpCommunicate_pending (d : Dialogue) (method : HttpMethod) (input : Option Text)
    (reply : Reply) : (d.httpCommunicate method input reply).2.pending = d.pending := by
  unfold httpCommunicate
  cases d.link with
  | none => rfl
  | some link => cases reply.outcome <;> rfl

theorem follow_pending (d : Dialogue) (r : Round) (relation : Relation) :
    (d.follow r relation).pending = d.pending := by
  cases relation with
  | systemInfo =>
      rw [follow, putSystemInfo]
      dsimp only
      unfold httpPut
      split
      · rfl
      · exact httpCommunicate_pending _ _ _ _
  | result =>
      rw [follow]
      by_cases hdocument : d.command = none ∨ r.commandResult.2 = none
      · obtain ⟨ret, heq⟩ := postResult_of_none hdocument
        rw [heq]
      · rw [postResult_of_some hdocument]
        exact httpCommunicate_pending _ _ _ _
  | initialDelete => exact httpCommunicate_pending _ _ _ _
  | initialPost => exact httpCommunicate_pending _ _ _ _
  | next => exact httpCommunicate_pending _ _ _ _
  | self | unknown => rfl

theorem closeRound_pending (d : Dialogue) : d.closeRound.pending = d.pending := by
  unfold closeRound
  split <;> rfl

theorem closeRound_progress (d : Dialogue) : d.closeRound.progress = d.progress := by
  unfold closeRound
  split <;> rfl

theorem round_pending_or (d : Dialogue) (r : Round) :
    (d.round r).pending = d.pending ∨ (d.round r).pending = none := by
  cases hrel : d.rel with
  | none =>
      rw [round_of_none hrel]
      cases hpending : d.pending with
      | none =>
          rw [noRelation_of_none hpending, closeRound_pending]
          exact Or.inl hpending
      | some request =>
          obtain ⟨link, rel⟩ := request
          rw [noRelation_of_some hpending]
          exact Or.inr rfl
  | some rel =>
      rw [round_of_some hrel, closeRound_pending, follow_pending]
      exact Or.inl rfl

theorem round_pending {d : Dialogue} (hpending : d.pending = none) (r : Round) :
    (d.round r).pending = none := by
  obtain h | h := d.round_pending_or r
  · rw [h, hpending]
  · exact h

theorem round_going {d : Dialogue} {r : Round} (hwork : d.progress.workToDo = true)
    (htmpRet : d.progress.tmpRet = .ok) (hlinked : d.rel ≠ none → d.link ≠ none)
    (hself : ¬ d.ReceivedSelf) : (d.round r).progress.workToDo = true ↔ d.GoesOn r := by
  unfold round GoesOn
  cases hrel : d.rel with
  | none =>
      cases hpending : d.pending with
      | none =>
          rw [noRelation_of_none hpending, closeRound_progress]
          exact iff_of_false Bool.false_ne_true fun h => h rfl
      | some request =>
          obtain ⟨link, rel⟩ := request
          rw [noRelation_of_some hpending]
          exact iff_of_true rfl (Option.some_ne_none _)
  | some rel =>
      have hrelation : relationOf rel ≠ .self := by
        intro h
        apply hself
        rw [ReceivedSelf, hrel, Option.map_some, h]
      dsimp only
      rw [closeRound_progress]
      exact follow_going hwork htmpRet (hlinked (by rw [hrel]; exact Option.some_ne_none _)) hrelation

end Dialogue

/-! ## Where a run can get -/

namespace ProvisioningArgs

variable (args : ProvisioningArgs)

theorem progress_tmpRet : args.progress.tmpRet = .ok := by
  unfold progress
  dsimp only
  split
  · exact Progress.conclude_tmpRet
  · split
    · exact Progress.conclude_tmpRet
    · split
      · exact Progress.conclude_tmpRet
      · exact Progress.conclude_tmpRet

end ProvisioningArgs

namespace Engine

/-- At the start there is a constant for the relation, and no command. -/
theorem Sound.initial {s : Engine}
    (howns : s.heap.Owns (cell s.link + cell s.response + cell s.pendingLink))
    (hlink : s.link ≠ none) (hrel : s.rel = some .initialPost ∨ s.rel = some .initialDelete)
    (hcommand : s.command = none) (hpending : s.pendingRel = s.pendingLink.map fun _ => .initialPost)
    (hused : s.usedLink = none ∧ s.usedRel = none ∧ s.usedCommand = none)
    (htmpRet : s.progress.tmpRet = .ok) : Sound s 0 := by
  have hrelCell : relCell s.rel = 0 := by
    obtain h | h := hrel <;> rw [h] <;> rfl
  have hpendingCell : relCell s.pendingRel = 0 := by
    rw [hpending]
    cases s.pendingLink <;> rfl
  constructor
  · convert howns using 1
    rw [usedCells, otherCells, hrelCell, hpendingCell, hcommand, hused.1, hused.2.1, hused.2.2,
      cell_none, relCell_none]
    abel
  · exact fun _ => hlink
  · exact hpending
  · exact fun hself => absurd hself (not_receivedSelf_of_constant hrel)
  · exact fun _ => hused
  · exact Or.inr hrel
  · exact fun _ => htmpRet
  · exact fun _ => ⟨hrelCell, hcommand⟩

/-- The state before the loop when nothing is recovered from. -/
def unrecovered (args : ProvisioningArgs) : Engine :=
  setResponse {
    heap := (Heap.empty.alloc args.initialLink).2
    progress := args.progress
    link := some (Heap.empty.alloc args.initialLink).1
    rel := some (if args.initialDelete then .initialDelete else .initialPost)
    command := none
    response := none
    pendingLink := none
    pendingRel := none
    usedLink := none
    usedRel := none
    usedCommand := none } args.firstResponse

/-- The state before the loop when the device is unregistered before. -/
def recovering (args : ProvisioningArgs) : Engine :=
  { unrecovered args with
    heap := ((unrecovered args).heap.alloc args.basicLink).2
    link := some (unrecovered args).heap.next
    rel := some .initialDelete
    pendingLink := (unrecovered args).link
    pendingRel := (unrecovered args).rel }

theorem begin_eq (args : ProvisioningArgs) :
    «begin» args = if args.recovers then recovering args else unrecovered args :=
  rfl

theorem sound_unrecovered (args : ProvisioningArgs) : Sound (unrecovered args) 0 := by
  have hrel : some (if args.initialDelete then RelPtr.initialDelete else .initialPost) =
      some .initialPost ∨
      some (if args.initialDelete then RelPtr.initialDelete else .initialPost) =
        some .initialDelete := by
    cases args.initialDelete
    · exact Or.inl rfl
    · exact Or.inr rfl
  have hlink := Heap.Owns.empty.alloc args.initialLink
  unfold unrecovered
  cases args.firstResponse with
  | none =>
      have howns : (Heap.empty.alloc args.initialLink).2.Owns
          (cell (some (Heap.empty.alloc args.initialLink).1) + cell none + cell none) := by
        rw [cell_none, add_zero, add_zero]
        exact hlink
      exact Sound.initial howns (Option.some_ne_none _) hrel rfl rfl ⟨rfl, rfl, rfl⟩
        args.progress_tmpRet
  | some document =>
      have howns : ((Heap.empty.alloc args.initialLink).2.alloc document).2.Owns
          (cell (some (Heap.empty.alloc args.initialLink).1) +
            cell (some ((Heap.empty.alloc args.initialLink).2.alloc document).1) + cell none) := by
        rw [cell_none, add_zero, add_comm, cell, cell, Multiset.singleton_add]
        exact hlink.alloc document
      exact Sound.initial howns (Option.some_ne_none _) hrel rfl rfl ⟨rfl, rfl, rfl⟩
        args.progress_tmpRet

theorem unrecovered_link (args : ProvisioningArgs) :
    (unrecovered args).link = some (Heap.empty.alloc args.initialLink).1 := by
  unfold unrecovered
  cases args.firstResponse <;> rfl

theorem unrecovered_rel (args : ProvisioningArgs) :
    (unrecovered args).rel =
      some (if args.initialDelete then .initialDelete else .initialPost) := by
  unfold unrecovered
  cases args.firstResponse <;> rfl

theorem unrecovered_progress (args : ProvisioningArgs) :
    (unrecovered args).progress = args.progress := by
  unfold unrecovered
  cases args.firstResponse <;> rfl

theorem unrecovered_pending (args : ProvisioningArgs) :
    (unrecovered args).pendingLink = none ∧ (unrecovered args).pendingRel = none := by
  unfold unrecovered
  cases args.firstResponse <;> exact ⟨rfl, rfl⟩

theorem sound_begin (args : ProvisioningArgs) : Sound («begin» args) 0 := by
  rw [begin_eq]
  split
  · rename_i hrecovers
    have hs := sound_unrecovered args
    have hrel : (unrecovered args).rel = some .initialPost := by
      simp only [ProvisioningArgs.recovers, decide_eq_true_eq] at hrecovers
      rw [unrecovered_rel, hrecovers.2.1]
      rfl
    have hself : ¬ (unrecovered args).view.ReceivedSelf :=
      not_receivedSelf_of_constant (Or.inl hrel)
    have hcommand : (unrecovered args).command = none := by
      unfold unrecovered
      cases args.firstResponse <;> rfl
    have hpending := unrecovered_pending args
    obtain ⟨husedLink, husedRel, husedCommand⟩ := hs.unused hself
    have howns : ((unrecovered args).heap.alloc args.basicLink).2.Owns
        (cell (some (unrecovered args).heap.next) + cell (unrecovered args).response +
          cell (unrecovered args).link) := by
      convert hs.owns.alloc args.basicLink using 1
      simp only [usedCells, otherCells, hrel, hcommand, husedLink, husedRel, husedCommand,
        hpending.1, hpending.2, cell_none, relCell, ← Multiset.singleton_add]
      rw [cell]
      abel
    refine Sound.initial howns (Option.some_ne_none _) (Or.inr rfl) hcommand ?_
      ⟨husedLink, husedRel, husedCommand⟩ ?_
    · rw [recovering, hrel, unrecovered_link]
      rfl
    · show (unrecovered args).progress.tmpRet = .ok
      rw [unrecovered_progress]
      exact args.progress_tmpRet
  · exact sound_unrecovered args

/-! ## Strings -/

/-- No string is used after it was released, whatever comes next, and behind the loop every
string has been released. -/
structure StringsFreed (s : Engine) : Prop where
  going : s.progress.workToDo = true → ∀ r, (s.round r).isSome
  ended : s.progress.workToDo = false → ∃ heap, s.finish = some heap ∧ heap.Released

/-- The relation does not ask for the same once more, one header at most arrives, and the loop
does not end while a request is set aside. -/
structure Proper (s : Engine) (r : Round) : Prop where
  notSelf : ¬ s.view.ReceivedSelf
  headers : (s.view.headers r).length ≤ 1
  pending : s.pendingLink ≠ none → s.view.GoesOn r

instance (s : Engine) (r : Round) : Decidable (s.Proper r) :=
  decidable_of_iff (¬ s.view.ReceivedSelf ∧ (s.view.headers r).length ≤ 1 ∧
    (s.pendingLink ≠ none → s.view.GoesOn r))
    ⟨fun h => ⟨h.1, h.2.1, h.2.2⟩, fun h => ⟨h.notSelf, h.headers, h.pending⟩⟩

/-- No string is lost, and nothing is set aside when the loop has ended. -/
structure Owned (s : Engine) : Prop where
  sound : Sound s 0
  ended : s.progress.workToDo = false → s.pendingLink = none

theorem step_eq_some {s s' : Engine} {r : Round} :
    system.step s r = some s' ↔ s.progress.workToDo = true ∧ s.round r = some s' := by
  show (if s.progress.workToDo then s.round r else none) = some s' ↔ _
  split
  · rename_i h
    exact (and_iff_right h).symm
  · rename_i h
    exact iff_of_false nofun fun hstep => h hstep.1

theorem Sound.view_linked {s : Engine} {lost : Multiset Nat} (hs : Sound s lost)
    (hrel : s.view.rel ≠ none) : s.view.link ≠ none := by
  obtain ⟨link, hlink⟩ := Option.ne_none_iff_exists'.mp (hs.linked (mt hs.view_rel.mpr hrel))
  obtain ⟨text, htext⟩ := hs.owns.read_eq_some (n := link) (by simp [hlink, cell])
  rw [view, hlink, Option.bind_some, htext]
  exact Option.some_ne_none _

theorem owned_step {s s' : Engine} {r : Round} (hs : Owned s) (hproper : s.Proper r)
    (hstep : system.step s r = some s') : Owned s' := by
  obtain ⟨hwork, hround⟩ := step_eq_some.mp hstep
  obtain ⟨s'', lost, hround', hsound, hview, hlost⟩ :=
    sound_round hs.sound hwork hproper.notSelf r
  obtain rfl := Option.some.inj (hround.symm.trans hround')
  constructor
  · rw [hlost hproper.headers, add_zero] at hsound
    exact hsound
  · intro hended
    have hprogress : s'.progress = (s.view.round r).progress := congrArg Dialogue.progress hview
    by_cases hpending : s.pendingLink = none
    · apply hsound.view_pending.mp
      rw [hview]
      exact Dialogue.round_pending (hs.sound.view_pending.mpr hpending) r
    · have hgoing := (Dialogue.round_going hwork (hs.sound.tmpRet hwork) hs.sound.view_linked
        hproper.notSelf).mpr (hproper.pending hpending)
      rw [← hprogress, hended] at hgoing
      cases hgoing

theorem owned_begin (args : ProvisioningArgs) : Owned («begin» args) := by
  refine ⟨sound_begin args, ?_⟩
  rw [begin_eq]
  split
  · rename_i hrecovers
    intro hended
    have hwork : (unrecovered args).progress.workToDo = true := by
      simp only [ProvisioningArgs.recovers, decide_eq_true_eq] at hrecovers
      rw [unrecovered_progress]
      exact hrecovers.2.2
    exact nomatch hended.symm.trans hwork
  · exact fun _ => (unrecovered_pending args).1

theorem Owned.stringsFreed {s : Engine} (hs : Owned s) : StringsFreed s := by
  constructor
  · intro hwork r
    by_cases hself : s.view.ReceivedSelf
    · obtain ⟨s', hround, -⟩ := round_self hs.sound hwork hself r
      rw [hround]
      rfl
    · obtain ⟨s', -, hround, -⟩ := sound_round hs.sound hwork hself r
      rw [hround]
      rfl
  · intro hended
    obtain ⟨heap, hfinish, howns⟩ := finish_spec hs.sound hended
    refine ⟨heap, hfinish, ?_⟩
    rw [hs.sound.pending, hs.ended hended, Option.map_none, cell_none, relCell_none, add_zero,
      add_zero] at howns
    exact howns.released

/-- In every run of proper iterations no string is used after it was released, and behind the
loop every string has been released. -/
theorem stringsFreed_run (args : ProvisioningArgs) (rs : List Round) (s : Engine)
    (hproper : system.StepsMeet Proper («begin» args) rs)
    (hrun : system.run («begin» args) rs = some s) : StringsFreed s := by
  have hs : Owned s := TransitionSystem.run_invariant (I := Owned)
    (fun _ _ _ hs hproper hstep => owned_step hs hproper hstep) (owned_begin args) hproper hrun
  exact hs.stringsFreed

/-- A reply without a link. -/
def lastReply (httpCode : Nat) : Reply :=
  ⟨[], [], .answered httpCode⟩

/-- A reply with a link and a relation. -/
def linkReply (rel : Text) : Reply :=
  ⟨[⟨"https://se/1".toList, some rel⟩], "<request/>".toList, .answered 200⟩

/-- An iteration in which the device has nothing to say. -/
def replied (reply : Reply) : Round :=
  ⟨.ok, .ok, (.ok, none), (.ok, none), reply⟩

/-- A registration behind a factory reset. -/
def afterReset : ProvisioningArgs :=
  ⟨4, [1, 2], false, none, "https://se/".toList, .ok, true⟩

/-- A registration without a factory reset. -/
def plainStart : ProvisioningArgs :=
  { afterReset with factoryReset := false }

/-- The device is unregistered and registered again, and the service enabler has one request. -/
def recoveredRun : List Round :=
  [replied (lastReply 204), replied (lastReply 0), replied (linkReply relationNext),
    replied (lastReply 200), replied (lastReply 0)]

theorem stringsFreed_recoveredRun :
    ∃ s, system.run («begin» afterReset) recoveredRun = some s ∧ s.progress.workToDo = false ∧
      StringsFreed s := by
  refine ⟨_, rfl, by decide, ?_⟩
  exact stringsFreed_run afterReset recoveredRun _ (by decide) rfl

/-- The service enabler asks for the same once more. -/
def repeatedRun : List Round :=
  [replied (linkReply relationSelf), replied (lastReply 0)]

/-- The link and the relation are restored and released at once. -/
theorem not_stringsFreed :
    ¬ ∀ (args : ProvisioningArgs) (rs : List Round) (s : Engine),
      system.run («begin» args) rs = some s → StringsFreed s := by
  intro h
  have hfreed := h plainStart repeatedRun _ rfl
  have hround := hfreed.going (by decide) (replied (lastReply 200))
  exact absurd hround (by decide)

end Engine

end Exynos8890.RootPa
