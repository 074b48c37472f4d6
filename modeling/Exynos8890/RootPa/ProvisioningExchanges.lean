import Exynos8890.RootPa.ProvisioningRuns

/-!
# Exchanges of the provisioning loop

What the log of a run says about its exchanges: each one that the loop goes on behind leaves
its relation, the end is reported behind a reply without a relation, and a run without its
first part makes the same requests.

Main results:

- Theorem `round_cases`: an iteration behind which the loop goes on makes one exchange, or it
  takes up what was set aside, or there was no result to send.
- Theorem `finishedProperly_run`: under what conditions the end is reported once, behind the
  last exchange.
- Theorem `repeatsSelf_iff`: the same is never done once more.
- Theorem `recovery_transparent_iff`: the recovery has no influence on the requests exactly when
  no trustlet is installed.
-/

namespace Exynos8890.RootPa

open MobiCore HeapCells

/-! ## Exchanges of a log -/

/-- The exchange that an event reports. -/
def Event.exchange? : Event → Option Exchange
  | .exchange e => some e
  | .callback _ _ | .handled _ => none

/-- The exchanges of a log. -/
def exchanges (log : List Event) : List Exchange :=
  log.filterMap Event.exchange?

@[simp]
theorem exchanges_append (log log' : List Event) :
    exchanges (log ++ log') = exchanges log ++ exchanges log' :=
  List.filterMap_append

namespace Progress

variable (p : Progress)

@[simp]
theorem exchanges_callback (state : ProvisioningState) (error : RootPaError) :
    exchanges (p.callback state error).log = exchanges p.log := by
  simp [callback, emit, exchanges, Event.exchange?]

@[simp]
theorem exchanges_handled (command : Option Text) :
    exchanges (p.emit (.handled command)).log = exchanges p.log := by
  simp [emit, exchanges, Event.exchange?]

@[simp]
theorem exchanges_exchange (e : Exchange) :
    exchanges (p.emit (.exchange e)).log = exchanges p.log ++ [e] := by
  simp [emit, exchanges, Event.exchange?]

theorem exchanges_concludeSystemInfo (error : RootPaError) :
    exchanges (p.concludeSystemInfo error).log = exchanges p.log := by
  unfold concludeSystemInfo
  dsimp only
  split
  · split <;> exact exchanges_callback _ _ _
  · rfl

theorem exchanges_concludeResult :
    exchanges p.concludeResult.log = exchanges p.log := by
  unfold concludeResult
  split
  · dsimp only
    split <;> exact exchanges_callback _ _ _
  · rfl

end Progress

/-! ## What one iteration does -/

namespace Dialogue

variable {d : Dialogue} {r : Round}

theorem httpCommunicate_of_ok {link : Text} (hlink : d.link = some link) {reply : Reply}
    (hok : reply.outcome.error = .ok) (method : HttpMethod) (input : Option Text) :
    d.httpCommunicate method input reply = (.ok, { d with
      link := reply.link
      rel := reply.rel
      command := some reply.body
      progress := d.progress.emit (.exchange ⟨method, link, input, .ok, reply.rel⟩) }) := by
  cases houtcome : reply.outcome with
  | outOfMemory | optionRefused | unanswered =>
      rw [houtcome] at hok
      cases hok
  | answered httpCode =>
      rw [houtcome] at hok
      have hresult : httpResult httpCode = .ok := hok
      simp only [httpCommunicate, hlink, houtcome, ReplyOutcome.error, hresult]

/-- The exchange of an iteration has succeeded, and its relation is the one that is left. -/
structure Exchanged (d d' : Dialogue) (e : Exchange) : Prop where
  log : exchanges d'.progress.log = exchanges d.progress.log ++ [e]
  result : e.result = .ok
  rel : d'.rel = e.relation

/-- What the iterations behind which the loop goes on do. -/
inductive Goes (d : Dialogue) (r : Round) (d' : Dialogue) : Prop where
  | exchanged (e : Exchange) (h : Exchanged d d' e)
  | noResult (hrel : d.rel.map relationOf = some .result)
      (hnone : d.command = none ∨ r.commandResult.2 = none)
      (hlog : exchanges d'.progress.log = exchanges d.progress.log) (hrel' : d'.rel = none)
  | takenUp (link rel : Text) (hrel : d.rel = none) (hpending : d.pending = some (link, rel))
      (hlog : d'.progress.log = d.progress.log) (hrel' : d'.rel = some rel)

theorem exchanged_request {link : Text} (hlink : d.link = some link)
    (hok : r.reply.outcome.error = .ok) (method : HttpMethod) (input : Option Text) :
    ∃ e, Exchanged d (d.request method input r) e := by
  rw [request, httpCommunicate_of_ok hlink hok]
  exact ⟨⟨method, link, input, .ok, r.reply.rel⟩, Progress.exchanges_exchange _ _, rfl, rfl⟩

theorem exchanged_putSystemInfo {link : Text} (hlink : d.link = some link)
    (hdocument : r.systemInfo.2 ≠ none) (hok : r.reply.outcome.error = .ok) :
    ∃ e, Exchanged d (d.putSystemInfo r) e := by
  rw [putSystemInfo]
  dsimp only
  rw [httpPut, if_neg hdocument, httpCommunicate_of_ok (by exact hlink) hok]
  refine ⟨⟨.put, link, r.systemInfo.2, .ok, r.reply.rel⟩, ?_, rfl, rfl⟩
  dsimp only
  rw [Progress.exchanges_concludeSystemInfo, Progress.exchanges_exchange]
  rfl

theorem exchanged_postResult {link : Text} (hlink : d.link = some link)
    (hdocument : ¬ (d.command = none ∨ r.commandResult.2 = none))
    (hok : r.reply.outcome.error = .ok) : ∃ e, Exchanged d (d.postResult r) e := by
  rw [postResult_of_some hdocument]
  dsimp only
  rw [httpCommunicate_of_ok (by exact hlink) hok]
  refine ⟨⟨.post, link, r.commandResult.2, .ok, r.reply.rel⟩, ?_, rfl, rfl⟩
  dsimp only
  rw [Progress.exchanges_concludeResult]
  show exchanges (Progress.emit _ _).log = _
  rw [Progress.exchanges_exchange]
  exact congrArg (· ++ _) (d.progress.exchanges_handled d.command)

theorem closeRound_of_going (hwork : d.progress.workToDo = true) :
    d.closeRound = { d with response := none } :=
  if_pos hwork

/-- An iteration behind which the loop goes on makes one exchange, or it takes up what was set
aside, or there was no result to send. -/
theorem round_cases (hwork : d.progress.workToDo = true) (htmpRet : d.progress.tmpRet = .ok)
    (hlinked : d.rel ≠ none → d.link ≠ none) (hself : ¬ d.ReceivedSelf) (hgoes : d.GoesOn r) :
    Goes d r (d.round r) := by
  have hwork' := (round_going hwork htmpRet hlinked hself).mpr hgoes
  cases hrel : d.rel with
  | none =>
      rw [GoesOn, hrel] at hgoes
      obtain ⟨⟨link, rel⟩, hpending⟩ := Option.ne_none_iff_exists'.mp hgoes
      rw [round_of_none hrel, noRelation_of_some hpending]
      exact Goes.takenUp link rel hrel hpending rfl rfl
  | some rel =>
      have hafter : d.GoesOnAfter r (relationOf rel) := by
        rw [GoesOn, hrel] at hgoes
        exact hgoes
      have hround := round_of_some hrel r
      have hpending := hlinked (by rw [hrel]; exact Option.some_ne_none _)
      obtain ⟨link, hlink⟩ := Option.ne_none_iff_exists'.mp hpending
      rw [hround, closeRound_progress] at hwork'
      rw [hround, closeRound_of_going hwork']
      have hclose {d' : Dialogue} (h : ∃ e, Exchanged d d' e) :
          Goes d r { d' with response := none } := by
        obtain ⟨e, hlog, hresult, hleft⟩ := h
        exact Goes.exchanged e ⟨hlog, hresult, hleft⟩
      cases hrelation : relationOf rel with
      | systemInfo =>
          rw [hrelation] at hafter
          exact hclose (exchanged_putSystemInfo hlink hafter.1 hafter.2)
      | result =>
          rw [hrelation] at hafter
          by_cases hdocument : d.command = none ∨ r.commandResult.2 = none
          · obtain ⟨ret, heq⟩ := postResult_of_none hdocument
            rw [follow, heq]
            refine Goes.noResult ?_ hdocument ?_ rfl
            · rw [hrel, Option.map_some, hrelation]
            · dsimp only
              rw [Progress.exchanges_concludeResult]
              exact d.progress.exchanges_handled d.command
          · have hok := (or_assoc.mpr hafter).resolve_left hdocument
            exact hclose (exchanged_postResult hlink hdocument hok)
      | initialDelete =>
          rw [hrelation] at hafter
          exact hclose (exchanged_request hlink hafter .delete none)
      | initialPost =>
          rw [hrelation] at hafter
          exact hclose (exchanged_request hlink hafter .post d.response)
      | next =>
          rw [hrelation] at hafter
          exact hclose (exchanged_request hlink hafter .get none)
      | self =>
          exfalso
          apply hself
          rw [ReceivedSelf, hrel, Option.map_some, hrelation]
      | unknown =>
          rw [hrelation] at hafter
          exact hafter.elim

end Dialogue

/-! ## The end of a run -/

/-- The end is reported. -/
def Event.isFinished : Event → Bool
  | .callback .finishedProvisioning _ => true
  | .callback .connectingServiceEnabler _ | .callback .error _ | .handled _ | .exchange _ => false

/-- The end has not been reported. -/
def Unfinished (log : List Event) : Prop :=
  ∀ e ∈ log, e.isFinished = false

instance (log : List Event) : Decidable (Unfinished log) :=
  inferInstanceAs (Decidable (∀ e ∈ log, _))

/-- The last exchange has succeeded, and there was no relation in its reply. -/
def LastAnswered (log : List Event) : Prop :=
  ∃ e, (exchanges log).getLast? = some e ∧ e.result = .ok ∧ e.relation = none

/-- The end is reported once at most, behind an exchange that has succeeded and that has left no
relation, and nothing follows. -/
def FinishedProperly (log : List Event) : Prop :=
  Unfinished log ∨ ∃ before, log = before ++ [.callback .finishedProvisioning .ok] ∧
    Unfinished before ∧ LastAnswered before

namespace Progress

variable {p : Progress}

theorem unfinished_emit (hp : Unfinished p.log) {e : Event} (he : e.isFinished = false) :
    Unfinished (p.emit e).log := by
  intro e' he'
  obtain he' | he' := List.mem_append.mp he'
  · exact hp e' he'
  · rw [List.mem_singleton.mp he']
    exact he

theorem unfinished_conclude (hp : Unfinished p.log) (error : RootPaError) :
    Unfinished (p.conclude error).log := by
  unfold conclude
  split
  · exact unfinished_emit (p := { p with ret := error }) hp rfl
  · exact hp

theorem unfinished_concludeSystemInfo (hp : Unfinished p.log) (error : RootPaError) :
    Unfinished (p.concludeSystemInfo error).log := by
  unfold concludeSystemInfo
  dsimp only
  split
  · split <;> exact unfinished_emit (p := p.note error) hp rfl
  · exact hp

theorem unfinished_concludeResult (hp : Unfinished p.log) : Unfinished p.concludeResult.log := by
  unfold concludeResult
  split
  · dsimp only
    split <;> exact unfinished_emit hp rfl
  · exact hp

end Progress

namespace Dialogue

variable {d : Dialogue} {r : Round}

theorem unfinished_httpCommunicate (hd : Unfinished d.progress.log) (method : HttpMethod)
    (input : Option Text) (reply : Reply) :
    Unfinished (d.httpCommunicate method input reply).2.progress.log := by
  unfold httpCommunicate
  cases d.link with
  | none => exact hd
  | some link =>
      cases reply.outcome with
      | outOfMemory | optionRefused => exact hd
      | unanswered | answered httpCode => exact Progress.unfinished_emit hd rfl

theorem unfinished_httpPut (hd : Unfinished d.progress.log) (input : Option Text)
    (reply : Reply) : Unfinished (d.httpPut input reply).2.progress.log := by
  unfold httpPut
  split
  · exact hd
  · exact unfinished_httpCommunicate hd .put input reply

theorem unfinished_putSystemInfo (hd : Unfinished d.progress.log) :
    Unfinished (d.putSystemInfo r).progress.log := by
  apply Progress.unfinished_concludeSystemInfo
  exact unfinished_httpPut (by exact hd) _ _

theorem unfinished_postResult (hd : Unfinished d.progress.log) :
    Unfinished (d.postResult r).progress.log := by
  have hhandled : Unfinished (d.progress.emit (.handled d.command)).log :=
    Progress.unfinished_emit hd rfl
  by_cases hdocument : d.command = none ∨ r.commandResult.2 = none
  · obtain ⟨ret, heq⟩ := postResult_of_none hdocument
    rw [heq]
    exact Progress.unfinished_concludeResult hhandled
  · rw [postResult_of_some hdocument]
    apply Progress.unfinished_concludeResult
    exact unfinished_httpCommunicate (by exact hhandled) _ _ _

/-- A relation that is followed does not lead to the report of the end. -/
theorem unfinished_follow (hd : Unfinished d.progress.log) (relation : Relation) :
    Unfinished (d.follow r relation).progress.log := by
  have hrequest (method : HttpMethod) (input : Option Text) :
      Unfinished (d.request method input r).progress.log :=
    Progress.unfinished_conclude (unfinished_httpCommunicate hd method input r.reply) _
  cases relation with
  | systemInfo => exact unfinished_putSystemInfo hd
  | result => exact unfinished_postResult hd
  | initialDelete => exact hrequest .delete none
  | initialPost => exact hrequest .post d.response
  | next => exact hrequest .get none
  | self | unknown =>
      exact Progress.unfinished_emit
        (p := { d.progress with ret := .illegalArgument }) hd rfl

/-- The end is reported only when there is neither a relation nor a request set aside. -/
theorem unfinished_round (hd : Unfinished d.progress.log)
    (hrel : d.rel = none → d.pending ≠ none) : Unfinished (d.round r).progress.log := by
  unfold round
  split
  · rename_i hnone
    obtain ⟨⟨link, rel⟩, hpending⟩ := Option.ne_none_iff_exists'.mp (hrel hnone)
    rw [noRelation_of_some hpending]
    exact hd
  · rw [closeRound_progress]
    exact unfinished_follow hd _

/-- What the log says while the loop goes on and behind it. -/
structure Told (d : Dialogue) : Prop where
  unfinished : d.progress.workToDo = true → Unfinished d.progress.log
  answered : d.progress.workToDo = true → d.rel = none → d.pending = none →
    LastAnswered d.progress.log
  ended : d.progress.workToDo = false → FinishedProperly d.progress.log

/-- When nothing is set aside, there is a result to send. -/
def HasResult (d : Dialogue) (r : Round) : Prop :=
  d.pending = none → d.rel.map relationOf = some .result →
    d.command ≠ none ∧ r.commandResult.2 ≠ none

instance (d : Dialogue) (r : Round) : Decidable (d.HasResult r) :=
  inferInstanceAs (Decidable (_ → _ → _ ∧ _))

theorem told_round (hd : Told d) (hwork : d.progress.workToDo = true)
    (htmpRet : d.progress.tmpRet = .ok) (hlinked : d.rel ≠ none → d.link ≠ none)
    (hself : ¬ d.ReceivedSelf) (hresult : d.HasResult r) : Told (d.round r) := by
  have hgoing := round_going (r := r) hwork htmpRet hlinked hself
  have hunfinished := hd.unfinished hwork
  by_cases hgoes : d.GoesOn r
  · have hwork' := hgoing.mpr hgoes
    refine ⟨fun _ => ?_, fun _ hrel' hpending' => ?_, fun hended => ?_⟩
    · apply unfinished_round hunfinished
      intro hrel
      rw [GoesOn, hrel] at hgoes
      exact hgoes
    · cases round_cases hwork htmpRet hlinked hself hgoes with
      | exchanged e h =>
          refine ⟨e, ?_, h.result, ?_⟩
          · rw [h.log, List.getLast?_concat]
          · rw [← h.rel, hrel']
      | noResult hrel hnone hlog _ =>
          have hpending : d.pending = none := by
            obtain ⟨rel, hrel, -⟩ := Option.map_eq_some_iff.mp hrel
            rw [← follow_pending d r (relationOf rel), ← closeRound_pending, ← hpending',
              round_of_some hrel]
          obtain ⟨hcommand, hdocument⟩ := hresult hpending hrel
          exact absurd hnone (not_or.mpr ⟨hcommand, hdocument⟩)
      | takenUp link rel _ _ _ hrel'' =>
          rw [hrel''] at hrel'
          cases hrel'
    · exact nomatch hended.symm.trans hwork'
  · have hwork' : (d.round r).progress.workToDo = false := by
      rw [← Bool.not_eq_true, hgoing]
      exact hgoes
    refine ⟨fun h => ?_, fun h => ?_, fun _ => ?_⟩
    · exact nomatch h.symm.trans hwork'
    · exact nomatch h.symm.trans hwork'
    · by_cases hend : d.rel = none ∧ d.pending = none
      · obtain ⟨hrel, hpending⟩ := hend
        right
        refine ⟨d.progress.log, ?_, hunfinished, hd.answered hwork hrel hpending⟩
        rw [round_of_none hrel, noRelation_of_none hpending, closeRound_progress]
        rfl
      · exact Or.inl (unfinished_round hunfinished fun hrel hpending => hend ⟨hrel, hpending⟩)

theorem Told.finishedProperly (hd : Told d) : FinishedProperly d.progress.log := by
  cases hwork : d.progress.workToDo with
  | true => exact Or.inl (hd.unfinished hwork)
  | false => exact hd.ended hwork

end Dialogue

theorem ProvisioningArgs.unfinished_progress (args : ProvisioningArgs) :
    Unfinished args.progress.log := by
  have hconclude : Unfinished
      (Progress.conclude ⟨.ok, .ok, true, [.callback .connectingServiceEnabler .ok]⟩
        args.opened).log := by
    apply Progress.unfinished_conclude
    intro e he
    rw [List.mem_singleton.mp he]
    rfl
  unfold progress
  dsimp only
  split
  · exact hconclude
  · split
    · exact Progress.unfinished_emit (p := Progress.mk _ _ _ _) hconclude rfl
    · split
      · exact Progress.unfinished_emit (p := Progress.mk _ _ _ _) hconclude rfl
      · exact hconclude

namespace Engine

/-- The log says the truth, and when the strings have been released it cannot go on. -/
def Truthful (s : Engine) : Prop :=
  (∃ lost, Sound s lost ∧ s.view.Told) ∨ Broken s ∧ Unfinished s.progress.log

theorem begin_progress (args : ProvisioningArgs) : («begin» args).progress = args.progress := by
  rw [begin_eq]
  split
  · exact unrecovered_progress args
  · exact unrecovered_progress args

theorem begin_rel (args : ProvisioningArgs) : («begin» args).rel ≠ none := by
  rw [begin_eq]
  split
  · exact Option.some_ne_none _
  · rw [unrecovered_rel]
    exact Option.some_ne_none _

theorem truthful_begin (args : ProvisioningArgs) : Truthful («begin» args) := by
  have hs := sound_begin args
  have hunfinished : Unfinished («begin» args).progress.log := by
    rw [begin_progress]
    exact args.unfinished_progress
  refine Or.inl ⟨0, hs, fun _ => hunfinished, ?_, fun _ => Or.inl hunfinished⟩
  intro _ hrel
  exact absurd (hs.view_rel.mp hrel) (begin_rel args)

theorem truthful_step {s s' : Engine} {r : Round} (hs : Truthful s)
    (hresult : s.view.HasResult r) (hstep : system.step s r = some s') : Truthful s' := by
  obtain ⟨hwork, hround⟩ := step_eq_some.mp hstep
  obtain ⟨lost, hsound, htold⟩ | ⟨hbroken, -⟩ := hs
  · by_cases hself : s.view.ReceivedSelf
    · obtain ⟨s'', hround', hbroken, hprogress⟩ := round_self hsound hwork hself r
      obtain rfl := Option.some.inj (hround.symm.trans hround')
      refine Or.inr ⟨hbroken, ?_⟩
      rw [hprogress]
      exact htold.unfinished hwork
    · obtain ⟨s'', lost', hround', hsound', hview, -⟩ := sound_round hsound hwork hself r
      obtain rfl := Option.some.inj (hround.symm.trans hround')
      refine Or.inl ⟨_, hsound', ?_⟩
      rw [hview]
      exact Dialogue.told_round htold hwork (hsound.tmpRet hwork) hsound.view_linked hself hresult
  · rw [round_broken hbroken] at hround
    cases hround

/-- In every run in which there is a result to send when nothing is set aside, the end is
reported behind the last exchange only. -/
theorem finishedProperly_run (args : ProvisioningArgs) (rs : List Round) (s : Engine)
    (hresult : system.StepsMeet (fun s r => s.view.HasResult r) («begin» args) rs)
    (hrun : system.run («begin» args) rs = some s) : FinishedProperly s.progress.log := by
  have hs : Truthful s := TransitionSystem.run_invariant (I := Truthful)
    (fun _ _ _ hs hresult hstep => truthful_step hs hresult hstep) (truthful_begin args) hresult
    hrun
  obtain ⟨lost, hsound, htold⟩ | ⟨-, hunfinished⟩ := hs
  · exact htold.finishedProperly
  · exact Or.inl hunfinished

theorem finishedProperly_recoveredRun :
    ∃ s, system.run («begin» afterReset) recoveredRun = some s ∧ ¬ Unfinished s.progress.log ∧
      FinishedProperly s.progress.log := by
  refine ⟨_, rfl, by decide, ?_⟩
  exact finishedProperly_run afterReset recoveredRun _ (by decide) rfl

/-- The service enabler sends a command that leads to no result. -/
def unansweredRun : List Round :=
  [replied (linkReply relationResult), replied (lastReply 0), replied (lastReply 0)]

theorem unansweredRun_log :
    ∃ s, system.run («begin» plainStart) unansweredRun = some s ∧
      s.progress.log = [
        .callback .connectingServiceEnabler .ok,
        .exchange ⟨.post, "https://se/0102/4".toList, none, .ok, some relationResult⟩,
        .handled (some "<request/>".toList),
        .callback .error .xml,
        .callback .finishedProvisioning .ok] := by
  refine ⟨_, rfl, by decide⟩

/-- The end is reported behind an error, although the last reply had a relation. -/
theorem not_finishedProperly :
    ¬ ∀ (args : ProvisioningArgs) (rs : List Round) (s : Engine),
      system.run («begin» args) rs = some s → FinishedProperly s.progress.log := by
  intro h
  obtain ⟨s, hrun, hlog⟩ := unansweredRun_log
  have hfinished := h plainStart unansweredRun s hrun
  rw [hlog] at hfinished
  obtain hunfinished | ⟨before, hbefore, -, e, hlast, -, hrel⟩ := hfinished
  · exact absurd hunfinished (by decide)
  · have hexchanges := congrArg exchanges hbefore
    rw [exchanges_append, show exchanges [.callback .finishedProvisioning .ok] = [] from rfl,
      List.append_nil] at hexchanges
    rw [← hexchanges] at hlast
    cases hlast
    cases hrel

end Engine

/-! ## The same once more -/

/-- The last exchange has succeeded, and its relation asks for the same once more. -/
def RepliedSelf (log : List Event) : Prop :=
  ∃ e, (exchanges log).getLast? = some e ∧ e.result = .ok ∧ e.relation.map relationOf = some .self

/-- Each exchange with the command that was handled for it. -/
def withCommands : Option (Option Text) → List Event → List (Option (Option Text) × Exchange)
  | _, [] => []
  | _, .handled command :: log => withCommands (some command) log
  | handled, .exchange e :: log => (handled, e) :: withCommands none log
  | handled, .callback _ _ :: log => withCommands handled log

/-- The next exchange is made as the last one: with the same method and link, and with the same
document or for the same command. -/
def Repeated (before after : List Event) : Prop :=
  ∀ last ∈ (withCommands none before).getLast?, ∀ next ∈ (withCommands none after).head?,
    next.1 = last.1 ∧ next.2.method = last.2.method ∧ next.2.link = last.2.link ∧
      (last.1 = none → next.2.document = last.2.document)

namespace Dialogue

variable {d : Dialogue} {r : Round}

/-- While the loop goes on, what the last exchange has asked for is the relation. -/
def Asks (d : Dialogue) : Prop :=
  RepliedSelf d.progress.log → d.ReceivedSelf

theorem asks_round (hd : Asks d) (hwork : d.progress.workToDo = true)
    (htmpRet : d.progress.tmpRet = .ok) (hlinked : d.rel ≠ none → d.link ≠ none)
    (hself : ¬ d.ReceivedSelf) (hgoes : d.GoesOn r) : Asks (d.round r) := by
  have hbefore : ¬ RepliedSelf d.progress.log := fun h => hself (hd h)
  rintro ⟨e', hlast, hok, hrelation⟩
  cases round_cases hwork htmpRet hlinked hself hgoes with
  | exchanged e h =>
      rw [h.log, List.getLast?_concat] at hlast
      cases hlast
      rw [ReceivedSelf, h.rel]
      exact hrelation
  | noResult hrel hnone hlog hrel' =>
      rw [hlog] at hlast
      exact absurd ⟨e', hlast, hok, hrelation⟩ hbefore
  | takenUp link rel hrel hpending hlog hrel' =>
      rw [hlog] at hlast
      exact absurd ⟨e', hlast, hok, hrelation⟩ hbefore

/-- How many iterations without an exchange can follow while the loop goes on. -/
def patience (d : Dialogue) : Nat :=
  match d.rel.map relationOf with
  | none => 1
  | some .result => 2
  | some .self => 1
  | some .systemInfo | some .initialDelete | some .initialPost | some .next | some .unknown => 0

theorem patience_le (d : Dialogue) : d.patience ≤ 2 := by
  unfold patience
  split <;> decide

/-- An iteration makes an exchange, or it takes some of the patience. -/
theorem Goes.patience_lt {d' : Dialogue} (h : Goes d r d')
    (hpending : ∀ link rel, d.pending = some (link, rel) → relationOf rel = .initialPost) :
    (exchanges d.progress.log).length < (exchanges d'.progress.log).length ∨
      (exchanges d.progress.log).length = (exchanges d'.progress.log).length ∧
        d'.patience < d.patience := by
  cases h with
  | exchanged e h =>
      left
      rw [h.log, List.length_append]
      exact Nat.lt_succ_self _
  | noResult hrel hnone hlog hrel' =>
      right
      rw [hlog, patience, patience, hrel, hrel']
      exact ⟨rfl, by decide⟩
  | takenUp link rel hrel hpending' hlog hrel' =>
      right
      rw [hlog, patience, patience, hrel, hrel', Option.map_some, hpending link rel hpending']
      exact ⟨rfl, by decide⟩

end Dialogue

theorem ProvisioningArgs.exchanges_progress (args : ProvisioningArgs) :
    exchanges args.progress.log = [] := by
  have hconclude : exchanges
      (Progress.conclude ⟨.ok, .ok, true, [.callback .connectingServiceEnabler .ok]⟩
        args.opened).log = [] := by
    unfold Progress.conclude
    split <;> rfl
  unfold progress
  dsimp only
  split
  · exact hconclude
  · split
    · exact (Progress.exchanges_callback _ _ _).trans hconclude
    · split
      · exact (Progress.exchanges_callback _ _ _).trans hconclude
      · exact hconclude

namespace Engine

/-- The next two iterations do the same once more. -/
def RepeatsSelf (s : Engine) : Prop :=
  ∀ r r', ∃ s', system.run s [r, r'] = some s' ∧
    Repeated s.progress.log (s'.progress.log.drop s.progress.log.length)

/-- Among any three iterations behind which the loop goes on there is one with an exchange. -/
def ExchangesSoon (s : Engine) : Prop :=
  ∀ rs s', rs.length = 3 → system.run s rs = some s' → s'.progress.workToDo = true →
    (exchanges s.progress.log).length < (exchanges s'.progress.log).length

/-- The strings are sound and the log says what is asked, or the strings have been released. -/
def Follows (s : Engine) : Prop :=
  (∃ lost, Sound s lost ∧ (s.progress.workToDo = true → s.view.Asks)) ∨ Broken s

theorem follows_begin (args : ProvisioningArgs) : Follows («begin» args) := by
  refine Or.inl ⟨0, sound_begin args, fun _ => ?_⟩
  rintro ⟨e, hlast, -⟩
  have hnone : exchanges («begin» args).view.progress.log = [] := by
    show exchanges («begin» args).progress.log = []
    rw [begin_progress]
    exact args.exchanges_progress
  rw [hnone] at hlast
  cases hlast

theorem going_step {s s' : Engine} {lost : Multiset Nat} {r : Round} (hs : Sound s lost)
    (hstep : system.step s r = some s') (hself : ¬ s.view.ReceivedSelf)
    (hwork' : s'.progress.workToDo = true) :
    ∃ lost', Sound s' lost' ∧ s'.view = s.view.round r ∧ s.view.GoesOn r ∧
      s.view.Goes r s'.view := by
  obtain ⟨hwork, hround⟩ := step_eq_some.mp hstep
  obtain ⟨s'', lost', hround', hsound', hview, -⟩ := sound_round hs hwork hself r
  obtain rfl := Option.some.inj (hround.symm.trans hround')
  have hgoes : s.view.GoesOn r := by
    apply (Dialogue.round_going hwork (hs.tmpRet hwork) hs.view_linked hself).mp
    rw [← hview]
    exact hwork'
  refine ⟨_, hsound', hview, hgoes, ?_⟩
  rw [hview]
  exact Dialogue.round_cases hwork (hs.tmpRet hwork) hs.view_linked hself hgoes

theorem follows_step {s s' : Engine} {r : Round} (hs : Follows s)
    (hstep : system.step s r = some s') : Follows s' := by
  obtain ⟨hwork, hround⟩ := step_eq_some.mp hstep
  obtain ⟨lost, hsound, hasks⟩ | hbroken := hs
  · by_cases hself : s.view.ReceivedSelf
    · obtain ⟨s'', hround', hbroken, -⟩ := round_self hsound hwork hself r
      obtain rfl := Option.some.inj (hround.symm.trans hround')
      exact Or.inr hbroken
    · obtain ⟨s'', lost', hround', hsound', -⟩ := sound_round hsound hwork hself r
      obtain rfl := Option.some.inj (hround.symm.trans hround')
      refine Or.inl ⟨_, hsound', fun hwork' => ?_⟩
      obtain ⟨_, -, hview, hgoes, -⟩ := going_step hsound hstep hself hwork'
      rw [hview]
      exact Dialogue.asks_round (hasks hwork) hwork (hsound.tmpRet hwork) hsound.view_linked hself
        hgoes
  · rw [round_broken hbroken] at hround
    cases hround

/-- The strings have been released, and there is no next iteration. -/
theorem run_broken {s s' : Engine} {rs : List Round} (hs : Broken s)
    (hrun : system.run s rs = some s') : rs = [] ∧ s' = s := by
  cases rs with
  | nil => exact ⟨rfl, (Option.some.inj hrun).symm⟩
  | cons r rs =>
      obtain ⟨t, hstep, -⟩ := system.run_cons_eq_some.mp hrun
      obtain ⟨-, hround⟩ := step_eq_some.mp hstep
      rw [round_broken hs] at hround
      cases hround

theorem workToDo_of_run {s s' : Engine} {rs : List Round} (hrun : system.run s rs = some s')
    (hwork' : s'.progress.workToDo = true) : s.progress.workToDo = true := by
  cases rs with
  | nil =>
      cases hrun
      exact hwork'
  | cons r rs =>
      obtain ⟨t, hstep, -⟩ := system.run_cons_eq_some.mp hrun
      exact (step_eq_some.mp hstep).1

theorem Sound.pending_rel {s : Engine} {lost : Multiset Nat} (hs : Sound s lost) {link rel : Text}
    (hpending : s.view.pending = some (link, rel)) : rel = relationInitialPost := by
  cases hlink : s.pendingLink with
  | none =>
      rw [hs.view_pending.mpr hlink] at hpending
      cases hpending
  | some n =>
      obtain ⟨text, hread⟩ := hs.owns.read_eq_some (n := n) (by simp [otherCells, hlink, cell])
      simp only [view, hs.pending, hlink, Option.map_some, Option.bind_some, hread, relText,
        Option.some.injEq, Prod.mk.injEq] at hpending
      exact hpending.2.symm

/-- The number of exchanges does not get less, and without a new one the run is no longer than
the patience. -/
theorem patience_run {s s' : Engine} {rs : List Round} (hs : Follows s)
    (hrun : system.run s rs = some s') (hwork' : s'.progress.workToDo = true) :
    (exchanges s.progress.log).length ≤ (exchanges s'.progress.log).length ∧
      ((exchanges s.progress.log).length < (exchanges s'.progress.log).length ∨
        rs.length ≤ s.view.patience) := by
  induction rs generalizing s with
  | nil =>
      cases hrun
      exact ⟨le_rfl, Or.inr (Nat.zero_le _)⟩
  | cons r rs ih =>
      obtain ⟨t, hstep, hrest⟩ := system.run_cons_eq_some.mp hrun
      obtain ⟨hwork, hround⟩ := step_eq_some.mp hstep
      obtain ⟨hle, hrest'⟩ := ih (follows_step hs hstep) hrest
      obtain ⟨lost, hsound, -⟩ | hbroken := hs
      · by_cases hself : s.view.ReceivedSelf
        · obtain ⟨s'', hround', hbroken, hprogress⟩ := round_self hsound hwork hself r
          obtain rfl := Option.some.inj (hround.symm.trans hround')
          obtain ⟨rfl, rfl⟩ := run_broken hbroken hrest
          have hpatience : s.view.patience = 1 := by
            rw [Dialogue.patience, hself]
          rw [hprogress, hpatience]
          exact ⟨le_rfl, Or.inr le_rfl⟩
        · obtain ⟨_, -, -, -, hgoes⟩ :=
            going_step hsound hstep hself (workToDo_of_run hrest hwork')
          have hpatience := hgoes.patience_lt fun link rel hpending => by
            rw [hsound.pending_rel hpending, relationOf_initialPost]
          change (exchanges s.progress.log).length < (exchanges t.progress.log).length ∨
            (exchanges s.progress.log).length = (exchanges t.progress.log).length ∧
              t.view.patience < s.view.patience at hpatience
          rw [List.length_cons]
          omega
      · rw [round_broken hbroken] at hround
        cases hround

/-- The same is never done once more, and there is an exchange among any three iterations. -/
theorem repeatsSelf_iff (args : ProvisioningArgs) (rs : List Round) (s : Engine)
    (hrun : system.run («begin» args) rs = some s) (hwork : s.progress.workToDo = true) :
    (RepliedSelf s.progress.log → RepeatsSelf s) ∧ ExchangesSoon s ↔
      ¬ RepliedSelf s.progress.log := by
  have hs : Follows s := TransitionSystem.run_invariant_of_step (I := Follows)
    (fun _ _ _ hs hstep => follows_step hs hstep) (follows_begin args) hrun
  constructor
  · rintro ⟨hrepeats, -⟩ hself
    obtain ⟨s', hrun', -⟩ := hrepeats hself (replied (lastReply 0)) (replied (lastReply 0))
    obtain ⟨t, hstep, hrest⟩ := system.run_cons_eq_some.mp hrun'
    obtain ⟨-, hround⟩ := step_eq_some.mp hstep
    obtain ⟨lost, hsound, hasks⟩ | hbroken := hs
    · obtain ⟨t', hround', hbroken, -⟩ := round_self hsound hwork (hasks hwork hself) _
      obtain rfl := Option.some.inj (hround.symm.trans hround')
      exact nomatch (run_broken hbroken hrest).1
    · rw [round_broken hbroken] at hround
      cases hround
  · intro hself
    refine ⟨fun h => absurd h hself, ?_⟩
    intro rs' s' hlength hrun' hwork'
    obtain ⟨-, hlt | hpatience⟩ := patience_run hs hrun' hwork'
    · exact hlt
    · have hle := s.view.patience_le
      omega

/-- The first reply asks for the same once more. -/
def askedAgain : List Round :=
  [replied (linkReply relationSelf)]

theorem repeatsSelf_askedAgain :
    ∃ s, system.run («begin» plainStart) askedAgain = some s ∧
      ((RepliedSelf s.progress.log → RepeatsSelf s) ∧ ExchangesSoon s ↔
        ¬ RepliedSelf s.progress.log) := by
  refine ⟨_, rfl, ?_⟩
  exact repeatsSelf_iff plainStart askedAgain _ rfl (by decide)

/-- The initial request is not made once more. -/
theorem not_repeatsSelf :
    ¬ ∀ (args : ProvisioningArgs) (rs : List Round) (s : Engine),
      system.run («begin» args) rs = some s → s.progress.workToDo = true →
        RepliedSelf s.progress.log → RepeatsSelf s := by
  intro h
  have hself : ∃ s, system.run («begin» plainStart) askedAgain = some s ∧
      s.progress.workToDo = true ∧ exchanges s.progress.log =
        [⟨.post, "https://se/0102/4".toList, none, .ok, some relationSelf⟩] ∧
      system.run s [replied (lastReply 200), replied (lastReply 200)] = none := by
    refine ⟨_, rfl, by decide, by decide, rfl⟩
  obtain ⟨s, hrun, hwork, hexchanges, hnone⟩ := hself
  have hreplied : RepliedSelf s.progress.log := by
    rw [RepliedSelf, hexchanges]
    exact ⟨_, rfl, rfl, by decide⟩
  obtain ⟨s', hrun', -⟩ := h plainStart askedAgain s hrun hwork hreplied _ _
  exact nomatch hnone.symm.trans hrun'

end Engine

/-! ## The recovery from a factory reset -/

/-- What is asked in an exchange. -/
def Exchange.request (e : Exchange) : HttpMethod × Text × Option Text :=
  (e.method, e.link, e.document)

namespace Dialogue

/-- Without what happened before. -/
def fresh (d : Dialogue) : Dialogue :=
  { d with progress := { d.progress with log := [] } }

variable (d : Dialogue) (r : Round)

theorem fresh_prepend : d.fresh.prepend d.progress.log = d := by
  show { d with progress := { d.progress with log := d.progress.log ++ [] } } = d
  rw [List.append_nil]

/-- The log of an iteration is the one before and what is new. -/
theorem round_log : (d.round r).progress.log =
    d.progress.log ++ (d.fresh.round r).progress.log := by
  conv_lhs => rw [← d.fresh_prepend, round_prepend]
  rfl

theorem round_fresh : (d.round r).fresh = (d.fresh.round r).fresh := by
  conv_lhs => rw [← d.fresh_prepend, round_prepend]
  rfl

/-- The initial request replaces the command and the result. -/
theorem round_initialPost {d : Dialogue} {link : Text} (hlink : d.link = some link)
    (hrel : d.rel = some relationInitialPost) (command : Option Text) (ret : RootPaError) :
    round { d with command := command, progress := { d.progress with ret := ret } } r =
      d.round r := by
  have hconclude (p : Progress) (error : RootPaError) :
      Progress.conclude { p with ret := ret } error = p.conclude error := by
    unfold Progress.conclude
    split <;> rfl
  have hrequest : request { d with command := command, progress := { d.progress with ret := ret } }
      .post d.response r = d.request .post d.response r := by
    simp only [request, httpCommunicate, hlink]
    cases r.reply.outcome with
    | outOfMemory | optionRefused =>
        exact congrArg (fun p => Dialogue.mk p _ _ _ _ _) (hconclude d.progress _)
    | unanswered | answered httpCode =>
        exact congrArg (fun p => Dialogue.mk p _ _ _ _ _) (hconclude (d.progress.emit _) _)
  rw [round_of_some hrel, round_of_some (by exact hrel), Engine.relationOf_initialPost]
  exact congrArg closeRound hrequest

end Dialogue

namespace Engine

/-- What is asked in a run, as far as the loop gets. -/
def requests (s : Engine) : List Round → Option (List (HttpMethod × Text × Option Text))
  | [] => some []
  | r :: rs => do
      let t ← system.step s r
      let rest ← requests t rs
      some ((exchanges (t.progress.log.drop s.progress.log.length)).map Exchange.request ++ rest)

/-- The same texts, whatever happened before, or strings that have been released. -/
def Alike (s t : Engine) : Prop :=
  (∃ lost lost', Sound s lost ∧ Sound t lost' ∧ s.view.fresh = t.view.fresh) ∨ Broken s ∧ Broken t

/-- What is new in the log of an iteration does not depend on what was there. -/
theorem drop_log {s s' : Engine} {r : Round} (hview : s'.view = s.view.round r) :
    s'.progress.log.drop s.progress.log.length = (s.view.fresh.round r).progress.log := by
  have hlog : s'.progress.log = s.progress.log ++ (s.view.fresh.round r).progress.log :=
    (congrArg (fun d => d.progress.log) hview).trans (s.view.round_log r)
  rw [hlog, List.drop_left]

theorem alike_step {s t : Engine} (h : Alike s t) (r : Round) :
    (system.step s r = none ∧ system.step t r = none) ∨
      ∃ s' t', system.step s r = some s' ∧ system.step t r = some t' ∧ Alike s' t' ∧
        s'.progress.log.drop s.progress.log.length =
          t'.progress.log.drop t.progress.log.length := by
  obtain ⟨lost, lost', hs, ht, hfresh⟩ | ⟨hs, ht⟩ := h
  · have hworkEq : s.progress.workToDo = t.progress.workToDo :=
      congrArg (fun d => d.progress.workToDo) hfresh
    have hrelEq : s.view.rel = t.view.rel := congrArg (fun d => d.rel) hfresh
    cases hwork : s.progress.workToDo with
    | false =>
        left
        rw [← Bool.not_eq_true] at hwork
        exact ⟨if_neg hwork, if_neg (hworkEq ▸ hwork)⟩
    | true =>
        have hwork' : t.progress.workToDo = true := hworkEq ▸ hwork
        right
        by_cases hself : s.view.ReceivedSelf
        · have hself' : t.view.ReceivedSelf := by
            rw [Dialogue.ReceivedSelf, ← hrelEq]
            exact hself
          obtain ⟨s', hround, hbroken, hprogress⟩ := round_self hs hwork hself r
          obtain ⟨t', hround', hbroken', hprogress'⟩ := round_self ht hwork' hself' r
          refine ⟨s', t', step_eq_some.mpr ⟨hwork, hround⟩, step_eq_some.mpr ⟨hwork', hround'⟩,
            Or.inr ⟨hbroken, hbroken'⟩, ?_⟩
          rw [hprogress, hprogress', List.drop_length, List.drop_length]
        · have hself' : ¬ t.view.ReceivedSelf := by
            rw [Dialogue.ReceivedSelf, ← hrelEq]
            exact hself
          obtain ⟨s', _, hround, hsound, hview, -⟩ := sound_round hs hwork hself r
          obtain ⟨t', _, hround', hsound', hview', -⟩ := sound_round ht hwork' hself' r
          refine ⟨s', t', step_eq_some.mpr ⟨hwork, hround⟩, step_eq_some.mpr ⟨hwork', hround'⟩,
            Or.inl ⟨_, _, hsound, hsound', ?_⟩, ?_⟩
          · rw [hview, hview', Dialogue.round_fresh, hfresh, ← Dialogue.round_fresh]
          · rw [drop_log hview, drop_log hview', hfresh]
  · left
    refine ⟨?_, ?_⟩
    · exact (if_pos hs.workToDo).trans (round_broken hs r)
    · exact (if_pos ht.workToDo).trans (round_broken ht r)

theorem requests_eq {s t : Engine} (h : Alike s t) (rs : List Round) :
    s.requests rs = t.requests rs := by
  induction rs generalizing s t with
  | nil => rfl
  | cons r rs ih =>
      obtain ⟨hs, ht⟩ | ⟨s', t', hs, ht, h', hlog⟩ := alike_step h r
      · rw [requests, requests, hs, ht]
        rfl
      · rw [requests, requests, hs, ht]
        simp only [Option.bind_eq_bind, Option.bind_some, ih h', hlog]

/-- The texts of the initial request. -/
structure AtInitialPost (args : ProvisioningArgs) (response : Option Text) (d : Dialogue) :
    Prop where
  workToDo : d.progress.workToDo = true
  tmpRet : d.progress.tmpRet = .ok
  link : d.link = some args.initialLink
  rel : d.rel = some relationInitialPost
  response : d.response = response
  pending : d.pending = none

theorem AtInitialPost.not_receivedSelf {args : ProvisioningArgs} {response : Option Text}
    {d : Dialogue} (hd : AtInitialPost args response d) : ¬ d.ReceivedSelf := by
  rw [Dialogue.ReceivedSelf, hd.rel, Option.map_some, relationOf_initialPost]
  intro h
  cases h

/-- The first iteration does not depend on the command and on the result before it. -/
theorem AtInitialPost.fresh_round {args : ProvisioningArgs} {response : Option Text}
    {d e : Dialogue} (hd : AtInitialPost args response d) (he : AtInitialPost args response e)
    (r : Round) : d.fresh.round r = e.fresh.round r := by
  have heq : d.fresh = { e.fresh with
      command := d.command, progress := { e.fresh.progress with ret := d.progress.ret } } := by
    obtain ⟨⟨_, _, _, _⟩, _, _, _, _, _⟩ := d
    obtain ⟨⟨_, _, _, _⟩, _, _, _, _, _⟩ := e
    obtain ⟨hwork, htmpRet, hlink, hrel, hresponse, hpending⟩ := hd
    obtain ⟨hwork', htmpRet', hlink', hrel', hresponse', hpending'⟩ := he
    dsimp only at *
    subst hwork htmpRet hlink hrel hresponse hpending hwork' htmpRet' hlink' hrel' hresponse'
    subst hpending'
    rfl
  rw [heq]
  exact Dialogue.round_initialPost (d := e.fresh) r he.link he.rel d.command d.progress.ret

/-- Without the recovery the first request is the initial one. -/
theorem atInitialPost_unrecovered {args : ProvisioningArgs} (hwork : args.progress.workToDo = true)
    (hdelete : args.initialDelete = false) :
    AtInitialPost args args.firstResponse (unrecovered args).view := by
  have hlink := Heap.Owns.empty.alloc args.initialLink
  have hread := Heap.empty.read_alloc_self args.initialLink
  unfold unrecovered
  rw [hdelete]
  cases args.firstResponse with
  | none => exact ⟨hwork, args.progress_tmpRet, hread, rfl, rfl, rfl⟩
  | some document =>
      refine ⟨hwork, args.progress_tmpRet, ?_, rfl, ?_, rfl⟩
      · have hsame := hlink.sameOn_alloc document
        exact (hsame _ (Multiset.mem_cons_self _ _)).trans hread
      · exact (Heap.empty.alloc args.initialLink).2.read_alloc_self document

theorem recovers_iff {args : ProvisioningArgs} : args.recovers = true ↔
    args.factoryReset = true ∧ args.initialDelete = false ∧ args.progress.workToDo = true :=
  decide_eq_true_iff

/-- What was set aside in a run is the initial request. -/
def SetsAside (args : ProvisioningArgs) (s : Engine) : Prop :=
  (∃ lost, Sound s lost ∧
    (s.view.pending = none ∨ s.view.pending = some (args.initialLink, relationInitialPost))) ∨
    Broken s

theorem setsAside_begin (args : ProvisioningArgs) : SetsAside args («begin» args) := by
  refine Or.inl ⟨0, sound_begin args, ?_⟩
  rw [begin_eq]
  split
  · rename_i hrecovers
    obtain ⟨-, hdelete, hwork⟩ := recovers_iff.mp hrecovers
    have hs := sound_unrecovered args
    have hlink : (unrecovered args).link.bind (recovering args).heap.read =
        some args.initialLink := by
      rw [← (atInitialPost_unrecovered hwork hdelete).link]
      apply (hs.owns.sameOn_alloc args.basicLink).bind_read
      exact fun n hn => by simp [hn]
    have hrel : (unrecovered args).rel = some .initialPost := by
      rw [unrecovered_rel, hdelete]
      rfl
    right
    refine view_pending_of hlink ?_
    show (unrecovered args).rel.bind (relText (recovering args).heap) = _
    rw [hrel]
    rfl
  · left
    apply (sound_unrecovered args).view_pending.mpr
    exact (unrecovered_pending args).1

theorem setsAside_step {args : ProvisioningArgs} {s s' : Engine} {r : Round}
    (hs : SetsAside args s) (hstep : system.step s r = some s') : SetsAside args s' := by
  obtain ⟨hwork, hround⟩ := step_eq_some.mp hstep
  obtain ⟨lost, hsound, hpending⟩ | hbroken := hs
  · by_cases hself : s.view.ReceivedSelf
    · obtain ⟨t, hround', hbroken, -⟩ := round_self hsound hwork hself r
      obtain rfl := Option.some.inj (hround.symm.trans hround')
      exact Or.inr hbroken
    · obtain ⟨t, lost', hround', hsound', hview, -⟩ := sound_round hsound hwork hself r
      obtain rfl := Option.some.inj (hround.symm.trans hround')
      refine Or.inl ⟨_, hsound', ?_⟩
      rw [hview]
      obtain hkept | hnone := s.view.round_pending_or r
      · rw [hkept]
        exact hpending
      · exact Or.inl hnone
  · rw [round_broken hbroken] at hround
    cases hround

/-- Behind the recovery the first request is the initial one, without a document. -/
theorem atInitialPost_taken {args : ProvisioningArgs} {s s' : Engine} {r : Round}
    (hs : SetsAside args s) (hrel : s.rel = none) (hpending : s.pendingLink ≠ none)
    (hstep : system.step s r = some s') :
    (∃ lost, Sound s' lost) ∧ AtInitialPost args none s'.view := by
  obtain ⟨hwork, hround⟩ := step_eq_some.mp hstep
  obtain ⟨lost, hsound, hnone | hsome⟩ | hbroken := hs
  · exact absurd (hsound.view_pending.mp hnone) hpending
  · have hviewRel := hsound.view_rel.mpr hrel
    have hself : ¬ s.view.ReceivedSelf := by
      rw [Dialogue.ReceivedSelf, hviewRel]
      intro h
      cases h
    obtain ⟨t, lost', hround', hsound', hview, -⟩ := sound_round hsound hwork hself r
    obtain rfl := Option.some.inj (hround.symm.trans hround')
    refine ⟨⟨_, hsound'⟩, ?_⟩
    rw [hview, Dialogue.round_of_none hviewRel, Dialogue.noRelation_of_some hsome]
    have hresponse : s.response = none := by
      simpa [hrel] using hsound.response
    refine ⟨rfl, hsound.tmpRet hwork, rfl, rfl, ?_, rfl⟩
    rw [view, hresponse]
    rfl
  · rw [round_broken hbroken] at hround
    cases hround

/-- The installation request is there whenever the loop is entered. -/
theorem firstResponse_eq_none_iff {args : ProvisioningArgs}
    (hwork : args.progress.workToDo = true) :
    args.firstResponse = none ↔ args.tltData = none := by
  cases htltData : args.tltData with
  | none => exact iff_of_true (by rw [ProvisioningArgs.firstResponse, htltData]; rfl) rfl
  | some tltData =>
      obtain ⟨uuid, ret, document⟩ := tltData
      refine iff_of_false ?_ (Option.some_ne_none _)
      rw [ProvisioningArgs.firstResponse, htltData]
      intro hnone
      have hdocument : document = none := hnone
      rw [ProvisioningArgs.progress, htltData] at hwork
      dsimp only at hwork
      rw [if_pos hdocument] at hwork
      split at hwork <;> cases hwork

theorem requests_initialPost {args : ProvisioningArgs} {response : Option Text} {s : Engine}
    {lost : Multiset Nat} (hs : Sound s lost) (h : AtInitialPost args response s.view) :
    s.requests [replied (lastReply 200)] = some [(.post, args.initialLink, response)] := by
  obtain ⟨t, _, hround, -, hview, -⟩ :=
    sound_round hs h.workToDo h.not_receivedSelf (replied (lastReply 200))
  have hlog : exchanges (s.view.fresh.round (replied (lastReply 200))).progress.log =
      [⟨.post, args.initialLink, response, .ok, none⟩] := by
    have hrel : s.view.fresh.rel = some relationInitialPost := h.rel
    have hlink : s.view.fresh.link = some args.initialLink := h.link
    rw [Dialogue.round_of_some hrel, relationOf_initialPost, Dialogue.closeRound_progress,
      Dialogue.follow, Dialogue.request, Dialogue.httpCommunicate_of_ok hlink rfl]
    show exchanges (Progress.emit _ _).log = _
    rw [Progress.exchanges_exchange, ← h.response]
    rfl
  rw [requests, step_eq_some.mpr ⟨h.workToDo, hround⟩, Option.bind_eq_bind, Option.bind_some,
    drop_log hview, hlog]
  rfl

/-- The recovery has no influence on the requests exactly when no trustlet is installed. -/
theorem recovery_transparent_iff (args : ProvisioningArgs) (hrecovers : args.recovers = true)
    (rs : List Round) (s s' : Engine) (r : Round) (hrun : system.run («begin» args) rs = some s)
    (hrel : s.rel = none) (hpending : s.pendingLink ≠ none)
    (hstep : system.step s r = some s') :
    (∀ rs', s'.requests rs' = («begin» { args with factoryReset := false }).requests rs') ↔
      args.tltData = none := by
  have hs : SetsAside args s := TransitionSystem.run_invariant_of_step (I := SetsAside args)
    (fun _ _ _ hs hstep => setsAside_step hs hstep) (setsAside_begin args) hrun
  obtain ⟨-, hdelete, hwork⟩ := recovers_iff.mp hrecovers
  obtain ⟨⟨lost, hsound⟩, hinitial⟩ := atInitialPost_taken hs hrel hpending hstep
  have hplain : «begin» { args with factoryReset := false } = unrecovered args := by
    rw [begin_eq, if_neg (by simp [ProvisioningArgs.recovers])]
    rfl
  have hinitial' := atInitialPost_unrecovered hwork hdelete
  have hsound' := sound_unrecovered args
  rw [hplain, ← firstResponse_eq_none_iff hwork]
  constructor
  · intro h
    have hrequests := h [replied (lastReply 200)]
    rw [requests_initialPost hsound hinitial, requests_initialPost hsound' hinitial'] at hrequests
    cases hresponse : args.firstResponse with
    | none => rfl
    | some document =>
        rw [hresponse] at hrequests
        cases hrequests
  · intro hnone rs'
    rw [hnone] at hinitial'
    cases rs' with
    | nil => rfl
    | cons r' rs' =>
        obtain ⟨t, _, hround, ht, hview, -⟩ :=
          sound_round hsound hinitial.workToDo hinitial.not_receivedSelf r'
        obtain ⟨u, _, hround', hu, hview', -⟩ :=
          sound_round hsound' hinitial'.workToDo hinitial'.not_receivedSelf r'
        have hfresh := hinitial.fresh_round hinitial' r'
        have halike : Alike t u := by
          refine Or.inl ⟨_, _, ht, hu, ?_⟩
          rw [hview, hview', Dialogue.round_fresh, hfresh, ← Dialogue.round_fresh]
        rw [requests, requests, step_eq_some.mpr ⟨hinitial.workToDo, hround⟩,
          step_eq_some.mpr ⟨hinitial'.workToDo, hround'⟩]
        simp only [Option.bind_eq_bind, Option.bind_some, drop_log hview, drop_log hview', hfresh,
          requests_eq halike]

/-- The recovery phase ends with its first reply. -/
def recoveryPhase : List Round :=
  [replied (lastReply 204)]

theorem recovery_transparent_afterReset :
    ∃ s s', system.run («begin» afterReset) recoveryPhase = some s ∧
      system.step s (replied (lastReply 0)) = some s' ∧
      ((∀ rs', s'.requests rs' = («begin» { afterReset with factoryReset := false }).requests rs') ↔
        afterReset.tltData = none) := by
  refine ⟨_, _, rfl, rfl, ?_⟩
  exact recovery_transparent_iff afterReset (by decide) recoveryPhase _ _ (replied (lastReply 0))
    rfl rfl (by decide) rfl

/-- The installation of a trustlet behind a factory reset. -/
def installAfterReset : ProvisioningArgs :=
  { afterReset with
    tltData := some ⟨[1, 2, 3, 4], (.ok, some "<trustletInstallationRequest/>".toList)⟩ }

/-- The installation request is released in the recovery phase. -/
theorem not_recovery_transparent :
    ¬ ∀ (args : ProvisioningArgs) (rs : List Round) (s s' : Engine) (r : Round),
      args.recovers = true → system.run («begin» args) rs = some s → s.rel = none →
        s.pendingLink ≠ none → system.step s r = some s' →
          ∀ rs', s'.requests rs' = («begin» { args with factoryReset := false }).requests rs' := by
  intro h
  have hrequests := h installAfterReset recoveryPhase _ _ (replied (lastReply 0)) (by decide) rfl
    rfl (by decide) rfl [replied (lastReply 200)]
  exact absurd hrequests (by decide)

end Engine

end Exynos8890.RootPa
