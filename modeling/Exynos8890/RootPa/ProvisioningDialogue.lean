import Exynos8890.RootPa.ProvisioningEngine

/-!
# The provisioning loop without its memory

The loop as a dialogue with the service enabler: the texts it works with, and nothing about
who owns a string.  A relation that asks for the same once more is not part of it.

Main results:

- Definition `Dialogue.round`: an iteration.
- Definition `Dialogue.headers`: the headers that arrive in an iteration.
- Theorem `round_prepend`: what happened before has no influence on an iteration.
-/

namespace Exynos8890.RootPa

open MobiCore HeapCells

/-- The texts of the loop, and the request that was set aside. -/
structure Dialogue where
  progress : Progress
  link : Option Text
  rel : Option Text
  command : Option Text
  response : Option Text
  pending : Option (Text × Text)
deriving DecidableEq

/-- The link behind the headers. -/
def Reply.link (reply : Reply) : Option Text :=
  reply.headers.foldl (fun _ header => some header.link) none

/-- The relation behind the headers: the last one that has one counts. -/
def Reply.rel (reply : Reply) : Option Text :=
  reply.headers.foldl (fun rel header => header.rel <|> rel) none

namespace Dialogue

def httpCommunicate (d : Dialogue) (method : HttpMethod) (input : Option Text) (reply : Reply) :
    RootPaError × Dialogue :=
  match d.link with
  | none => (.illegalArgument, d)
  | some link =>
      let d := { d with command := none, rel := none }
      (reply.outcome.error,
        match reply.outcome with
        | .outOfMemory | .optionRefused => d
        | .unanswered =>
            { d with
              progress := d.progress.emit <| .exchange ⟨method, link, input, .network, none⟩ }
        | .answered httpCode =>
            { d with
              link := reply.link
              rel := reply.rel
              command := some reply.body
              progress := d.progress.emit <| .exchange
                ⟨method, link, input, httpResult httpCode, reply.rel⟩ })

def httpPut (d : Dialogue) (input : Option Text) (reply : Reply) : RootPaError × Dialogue :=
  if input = none then (.illegalArgument, d) else d.httpCommunicate .put input reply

def putSystemInfo (d : Dialogue) (r : Round) : Dialogue :=
  let d := { d with
    response := r.systemInfo.2
    progress := ((d.progress.note r.sysInfo).note r.version).note r.systemInfo.1 }
  let (error, d) := d.httpPut d.response r.reply
  { d with progress := d.progress.concludeSystemInfo error }

def request (d : Dialogue) (method : HttpMethod) (input : Option Text) (r : Round) : Dialogue :=
  let (error, d) := d.httpCommunicate method input r.reply
  { d with progress := d.progress.conclude error }

def handleXmlMessage (d : Dialogue) (r : Round) : RootPaError × Dialogue :=
  let d := { d with progress := d.progress.emit (.handled d.command) }
  match d.command with
  | none => (.illegalArgument, { d with response := none })
  | some _ => (r.commandResult.1, { d with response := r.commandResult.2 })

def postResult (d : Dialogue) (r : Round) : Dialogue :=
  let (ret, d) := d.handleXmlMessage r
  let d := { d with progress := { d.progress with ret := ret } }
  if d.response = none then
    let ret := if ret = .ok then .xml else ret
    { d with
      link := none
      rel := none
      command := none
      progress := { d.progress with ret := ret }.concludeResult }
  else
    let (error, d) := d.httpCommunicate .post d.response r.reply
    { d with progress := (d.progress.note error).concludeResult }

def follow (d : Dialogue) (r : Round) : Relation → Dialogue
  | .systemInfo => d.putSystemInfo r
  | .initialDelete => d.request .delete none r
  | .initialPost => d.request .post d.response r
  | .result => d.postResult r
  | .next => d.request .get none r
  | .self | .unknown => { d with
      progress := { d.progress with ret := .illegalArgument }.fail .illegalArgument }

def closeRound (d : Dialogue) : Dialogue :=
  if d.progress.workToDo then { d with response := none }
  else { d with link := none, rel := none, command := none, response := none }

def noRelation (d : Dialogue) : Dialogue :=
  match d.pending with
  | some (link, rel) => { d with
      link := some link
      rel := some rel
      pending := none
      progress := { d.progress with workToDo := true } }
  | none => closeRound { d with
      progress := { d.progress.callback .finishedProvisioning .ok with workToDo := false } }

/-- An iteration, when the relation does not ask for the same once more. -/
def round (d : Dialogue) (r : Round) : Dialogue :=
  match d.rel with
  | none => d.noRelation
  | some rel => (d.follow r (relationOf rel)).closeRound

theorem round_of_none {d : Dialogue} (hrel : d.rel = none) (r : Round) :
    d.round r = d.noRelation := by
  rw [round, hrel]

theorem round_of_some {d : Dialogue} {rel : Text} (hrel : d.rel = some rel) (r : Round) :
    d.round r = (d.follow r (relationOf rel)).closeRound := by
  rw [round, hrel]

/-- The relation asks for the same once more. -/
def ReceivedSelf (d : Dialogue) : Prop :=
  d.rel.map relationOf = some .self

instance (d : Dialogue) : Decidable d.ReceivedSelf :=
  inferInstanceAs (Decidable (_ = _))

end Dialogue

/-- The headers that are looked at, if the request is made. -/
def Reply.received (reply : Reply) : List LinkHeader :=
  match reply.outcome with
  | .outOfMemory | .optionRefused => []
  | .unanswered | .answered _ => reply.headers

namespace Dialogue

/-- The headers that arrive when a relation is followed. -/
def headersFor (d : Dialogue) (r : Round) : Relation → List LinkHeader
  | .systemInfo => if r.systemInfo.2 = none then [] else r.reply.received
  | .result => if d.command = none ∨ r.commandResult.2 = none then [] else r.reply.received
  | .initialDelete | .initialPost | .next => r.reply.received
  | .self | .unknown => []

/-- The headers that arrive in an iteration. -/
def headers (d : Dialogue) (r : Round) : List LinkHeader :=
  match d.rel with
  | none => []
  | some rel => d.headersFor r (relationOf rel)

/-- The loop goes on behind a relation. -/
def GoesOnAfter (d : Dialogue) (r : Round) : Relation → Prop
  | .systemInfo => r.systemInfo.2 ≠ none ∧ r.reply.outcome.error = .ok
  | .result => d.command = none ∨ r.commandResult.2 = none ∨ r.reply.outcome.error = .ok
  | .initialDelete | .initialPost | .next => r.reply.outcome.error = .ok
  | .self => True
  | .unknown => False

/-- The loop goes on behind the iteration. -/
def GoesOn (d : Dialogue) (r : Round) : Prop :=
  match d.rel with
  | none => d.pending ≠ none
  | some rel => d.GoesOnAfter r (relationOf rel)

instance (d : Dialogue) (r : Round) : Decidable (d.GoesOn r) := by
  unfold GoesOn GoesOnAfter
  split
  · infer_instance
  · split <;> infer_instance

end Dialogue

/-! ## Whether the loop goes on -/

theorem ReplyOutcome.error_ne_registryObjectNotAvailable (outcome : ReplyOutcome) :
    outcome.error ≠ .registryObjectNotAvailable := by
  cases outcome with
  | outOfMemory | optionRefused | unanswered => exact nofun
  | answered httpCode =>
      rw [error, httpResult]
      repeat' split
      all_goals exact nofun

namespace Progress

variable {p : Progress} {error : RootPaError}

theorem conclude_going (hwork : p.workToDo = true) :
    (p.conclude error).workToDo = true ↔ error = .ok := by
  by_cases herror : error = .ok
  · simp [conclude, herror, hwork]
  · simp [conclude, herror, fail]

theorem conclude_tmpRet : (p.conclude error).tmpRet = p.tmpRet := by
  unfold conclude
  split <;> rfl

/-- Behind the system information only the exchange decides. -/
theorem concludeSystemInfo_going (hwork : p.workToDo = true) :
    (p.concludeSystemInfo error).workToDo = true ↔ error = .ok := by
  by_cases herror : error = .ok
  · by_cases hret : p.ret = .ok <;> simp [concludeSystemInfo, note, callback, emit, *]
  · simp [concludeSystemInfo, note, callback, emit, herror]

theorem concludeSystemInfo_tmpRet : (p.concludeSystemInfo error).tmpRet = error := by
  unfold concludeSystemInfo
  dsimp only
  split
  · split <;> rfl
  · rfl

theorem concludeResult_tmpRet : p.concludeResult.tmpRet = p.tmpRet := by
  unfold concludeResult
  split
  · dsimp only
    split <;> rfl
  · rfl

/-- A result that could not be made does not end the loop. -/
theorem concludeResult_going (hwork : p.workToDo = true) (htmpRet : p.tmpRet = .ok) :
    p.concludeResult.workToDo = true := by
  unfold concludeResult
  split
  · simp [callback, emit, htmpRet, hwork]
  · exact hwork

theorem concludeResult_note_going (hwork : p.workToDo = true)
    (herror : error ≠ .registryObjectNotAvailable) :
    (p.note error).concludeResult.workToDo = true ↔ error = .ok := by
  by_cases hok : error = .ok
  · exact iff_of_true (concludeResult_going hwork hok) hok
  · simp [concludeResult, note, callback, emit, hok, herror]

end Progress

namespace Dialogue

theorem httpCommunicate_workToDo (d : Dialogue) (method : HttpMethod)
    (input : Option Text) (reply : Reply) :
    (d.httpCommunicate method input reply).2.progress.workToDo = d.progress.workToDo := by
  unfold httpCommunicate
  cases d.link with
  | none => rfl
  | some link => cases reply.outcome <;> rfl

theorem httpCommunicate_error_ne (d : Dialogue) (method : HttpMethod) (input : Option Text)
    (reply : Reply) :
    (d.httpCommunicate method input reply).1 ≠ .registryObjectNotAvailable := by
  unfold httpCommunicate
  cases d.link with
  | none => exact nofun
  | some link => exact reply.outcome.error_ne_registryObjectNotAvailable

theorem handleXmlMessage_of_none {d : Dialogue} (hcommand : d.command = none) (r : Round) :
    d.handleXmlMessage r = (.illegalArgument,
      { d with progress := d.progress.emit (.handled d.command), response := none }) := by
  simp only [handleXmlMessage, hcommand]

theorem handleXmlMessage_of_some {d : Dialogue} (hcommand : d.command ≠ none) (r : Round) :
    d.handleXmlMessage r = (r.commandResult.1,
      { d with
        progress := d.progress.emit (.handled d.command), response := r.commandResult.2 }) := by
  obtain ⟨command, h⟩ := Option.ne_none_iff_exists'.mp hcommand
  simp only [handleXmlMessage, h]

theorem noRelation_of_none {d : Dialogue} (hpending : d.pending = none) :
    d.noRelation = closeRound { d with
      progress := { d.progress.callback .finishedProvisioning .ok with workToDo := false } } := by
  unfold noRelation
  split
  · rename_i h
    exact nomatch hpending.symm.trans h
  · rfl

theorem noRelation_of_some {d : Dialogue} {link rel : Text} (hpending : d.pending = some (link, rel)) :
    d.noRelation = { d with
      link := some link
      rel := some rel
      pending := none
      progress := { d.progress with workToDo := true } } := by
  simp only [noRelation, hpending]

theorem httpCommunicate_tmpRet (d : Dialogue) (method : HttpMethod) (input : Option Text)
    (reply : Reply) :
    (d.httpCommunicate method input reply).2.progress.tmpRet = d.progress.tmpRet := by
  unfold httpCommunicate
  cases d.link with
  | none => rfl
  | some link => cases reply.outcome <;> rfl

theorem httpCommunicate_error {d : Dialogue} (hlink : d.link ≠ none) (method : HttpMethod)
    (input : Option Text) (reply : Reply) :
    (d.httpCommunicate method input reply).1 = reply.outcome.error := by
  obtain ⟨link, h⟩ := Option.ne_none_iff_exists'.mp hlink
  simp only [httpCommunicate, h]

theorem httpPut_workToDo (d : Dialogue) (input : Option Text) (reply : Reply) :
    (d.httpPut input reply).2.progress.workToDo = d.progress.workToDo := by
  unfold httpPut
  split
  · rfl
  · exact httpCommunicate_workToDo d .put input reply

theorem httpPut_error {d : Dialogue} (hlink : d.link ≠ none) (input : Option Text)
    (reply : Reply) :
    (d.httpPut input reply).1 = .ok ↔ input ≠ none ∧ reply.outcome.error = .ok := by
  unfold httpPut
  split
  · rename_i hnone
    exact iff_of_false nofun fun h => h.1 hnone
  · rename_i hsome
    rw [httpCommunicate_error hlink]
    exact (and_iff_right hsome).symm

theorem postResult_of_none {d : Dialogue} {r : Round}
    (hdocument : d.command = none ∨ r.commandResult.2 = none) :
    ∃ ret, d.postResult r = { d with
      link := none
      rel := none
      command := none
      response := none
      progress :=
        { d.progress.emit (.handled d.command) with ret := ret }.concludeResult } := by
  by_cases hcommand : d.command = none
  · rw [postResult, handleXmlMessage_of_none hcommand]
    exact ⟨_, rfl⟩
  · have hnone := hdocument.resolve_left hcommand
    rw [postResult, handleXmlMessage_of_some hcommand, hnone]
    exact ⟨_, rfl⟩

theorem postResult_of_some {d : Dialogue} {r : Round}
    (hdocument : ¬ (d.command = none ∨ r.commandResult.2 = none)) :
    d.postResult r =
      let e := { d with
        response := r.commandResult.2
        progress := { d.progress.emit (.handled d.command) with ret := r.commandResult.1 } }
      { (e.httpCommunicate .post r.commandResult.2 r.reply).2 with
        progress := ((e.httpCommunicate .post r.commandResult.2 r.reply).2.progress.note
          (e.httpCommunicate .post r.commandResult.2 r.reply).1).concludeResult } := by
  obtain ⟨hcommand, hnone⟩ := not_or.mp hdocument
  rw [postResult, handleXmlMessage_of_some hcommand]
  exact if_neg hnone

/-- The results behind the system information come from the exchange. -/
theorem putSystemInfo_progress (d : Dialogue) (r : Round) :
    ∃ (p : Progress) (error : RootPaError),
      (d.putSystemInfo r).progress = p.concludeSystemInfo error ∧
      p.workToDo = d.progress.workToDo ∧
      (d.link ≠ none →
        (error = .ok ↔ r.systemInfo.2 ≠ none ∧ r.reply.outcome.error = .ok)) := by
  set e : Dialogue := { d with
    response := r.systemInfo.2
    progress := ((d.progress.note r.sysInfo).note r.version).note r.systemInfo.1 }
  refine ⟨(e.httpPut r.systemInfo.2 r.reply).2.progress, (e.httpPut r.systemInfo.2 r.reply).1, rfl,
    ?_, ?_⟩
  · exact httpPut_workToDo e _ _
  · intro hlink
    exact httpPut_error (d := e) hlink _ _

/-- The results behind a response come from the exchange. -/
theorem postResult_progress {d : Dialogue} {r : Round}
    (hdocument : ¬ (d.command = none ∨ r.commandResult.2 = none)) :
    ∃ (p : Progress) (error : RootPaError),
      (d.postResult r).progress = (p.note error).concludeResult ∧
      p.workToDo = d.progress.workToDo ∧ error ≠ .registryObjectNotAvailable ∧
      (d.link ≠ none → error = r.reply.outcome.error) := by
  rw [postResult_of_some hdocument]
  refine ⟨_, _, rfl, ?_, httpCommunicate_error_ne _ _ _ _, ?_⟩
  · exact httpCommunicate_workToDo _ _ _ _
  · intro hlink
    exact httpCommunicate_error (by exact hlink) _ _ _

section Going

variable {d : Dialogue} {r : Round}

/-- The last result is that of the exchange when the loop goes on. -/
theorem follow_tmpRet (hwork : d.progress.workToDo = true) (htmpRet : d.progress.tmpRet = .ok)
    (relation : Relation) (hgoing : (d.follow r relation).progress.workToDo = true) :
    (d.follow r relation).progress.tmpRet = .ok := by
  have hrequest (method : HttpMethod) (input : Option Text) :
      (d.request method input r).progress.tmpRet = .ok := by
    rw [← htmpRet, ← httpCommunicate_tmpRet d method input r.reply]
    exact Progress.conclude_tmpRet
  cases relation with
  | systemInfo =>
      obtain ⟨p, error, hprogress, hwork', -⟩ := putSystemInfo_progress d r
      have hfollow : (d.follow r .systemInfo).progress = p.concludeSystemInfo error := hprogress
      rw [hfollow] at hgoing ⊢
      rw [Progress.concludeSystemInfo_tmpRet]
      exact (Progress.concludeSystemInfo_going (hwork'.trans hwork)).mp hgoing
  | result =>
      rw [follow] at hgoing ⊢
      by_cases hdocument : d.command = none ∨ r.commandResult.2 = none
      · obtain ⟨ret, heq⟩ := postResult_of_none hdocument
        rw [heq]
        exact Progress.concludeResult_tmpRet.trans htmpRet
      · obtain ⟨p, error, hprogress, hwork', hne, -⟩ := postResult_progress hdocument
        rw [hprogress] at hgoing ⊢
        rw [Progress.concludeResult_tmpRet]
        exact (Progress.concludeResult_note_going (hwork'.trans hwork) hne).mp hgoing
  | initialDelete => exact hrequest .delete none
  | initialPost => exact hrequest .post d.response
  | next => exact hrequest .get none
  | self | unknown => cases hgoing

/-- The loop goes on exactly when the exchange has succeeded, or when there was none. -/
theorem follow_going (hwork : d.progress.workToDo = true) (htmpRet : d.progress.tmpRet = .ok)
    (hlink : d.link ≠ none) {relation : Relation} (hself : relation ≠ .self) :
    (d.follow r relation).progress.workToDo = true ↔ d.GoesOnAfter r relation := by
  have hrequest (method : HttpMethod) (input : Option Text) :
      (d.request method input r).progress.workToDo = true ↔ r.reply.outcome.error = .ok := by
    rw [← httpCommunicate_error hlink method input]
    exact Progress.conclude_going ((httpCommunicate_workToDo _ _ _ _).trans hwork)
  cases relation with
  | systemInfo =>
      obtain ⟨p, error, hprogress, hwork', herror⟩ := putSystemInfo_progress d r
      have hfollow : (d.follow r .systemInfo).progress = p.concludeSystemInfo error := hprogress
      rw [hfollow, Progress.concludeSystemInfo_going (hwork'.trans hwork)]
      exact herror hlink
  | result =>
      rw [follow, GoesOnAfter, ← or_assoc]
      by_cases hdocument : d.command = none ∨ r.commandResult.2 = none
      · obtain ⟨ret, heq⟩ := postResult_of_none hdocument
        rw [heq]
        exact iff_of_true (Progress.concludeResult_going hwork htmpRet) (Or.inl hdocument)
      · obtain ⟨p, error, hprogress, hwork', hne, herror⟩ := postResult_progress hdocument
        rw [hprogress, or_iff_right hdocument, ← herror hlink]
        exact Progress.concludeResult_note_going (hwork'.trans hwork) hne
  | initialDelete => exact hrequest .delete none
  | initialPost => exact hrequest .post d.response
  | next => exact hrequest .get none
  | self => exact absurd rfl hself
  | unknown => exact iff_of_false nofun id

end Going

end Dialogue

/-! ## What happened before -/

namespace Progress

/-- More has happened before. -/
def prepend (events : List Event) (p : Progress) : Progress :=
  { p with log := events ++ p.log }

variable (events : List Event) (p : Progress)

@[simp]
theorem prepend_emit (e : Event) : (p.prepend events).emit e = (p.emit e).prepend events := by
  simp [prepend, emit]

@[simp]
theorem prepend_note (error : RootPaError) :
    (p.prepend events).note error = (p.note error).prepend events :=
  rfl

@[simp]
theorem prepend_conclude (error : RootPaError) :
    (p.prepend events).conclude error = (p.conclude error).prepend events := by
  unfold conclude
  split
  · simp [prepend, fail, callback, emit]
  · rfl

@[simp]
theorem prepend_concludeSystemInfo (error : RootPaError) :
    (p.prepend events).concludeSystemInfo error =
      (p.concludeSystemInfo error).prepend events := by
  simp only [concludeSystemInfo, prepend_note]
  by_cases hret : (p.note error).ret = .ok
  · simp [prepend, hret]
  · by_cases htmp : (p.note error).tmpRet = .ok <;> simp [prepend, callback, emit, hret, htmp]

@[simp]
theorem prepend_concludeResult :
    (p.prepend events).concludeResult = p.concludeResult.prepend events := by
  unfold concludeResult
  by_cases hret : p.ret ≠ .ok ∧ p.ret ≠ .registryObjectNotAvailable
  · by_cases htmp : p.tmpRet = .ok <;> simp [prepend, callback, emit, hret, htmp]
  · simp [prepend, hret]

end Progress

namespace Dialogue

/-- More has happened before. -/
def prepend (events : List Event) (d : Dialogue) : Dialogue :=
  { d with progress := d.progress.prepend events }

section Prepend

variable (events : List Event) (d : Dialogue)

theorem httpCommunicate_prepend (method : HttpMethod) (input : Option Text) (reply : Reply) :
    (d.prepend events).httpCommunicate method input reply =
      ((d.httpCommunicate method input reply).1,
        (d.httpCommunicate method input reply).2.prepend events) := by
  unfold httpCommunicate
  cases hlink : d.link with
  | none => simp only [prepend, hlink]
  | some link => cases reply.outcome <;> simp [prepend, hlink]

theorem request_prepend (method : HttpMethod) (input : Option Text) (r : Round) :
    (d.prepend events).request method input r = (d.request method input r).prepend events := by
  simp only [request, httpCommunicate_prepend]
  simp [prepend]

theorem httpPut_prepend (input : Option Text) (reply : Reply) :
    (d.prepend events).httpPut input reply =
      ((d.httpPut input reply).1, (d.httpPut input reply).2.prepend events) := by
  unfold httpPut
  split
  · rfl
  · exact httpCommunicate_prepend events d .put input reply

theorem putSystemInfo_prepend (r : Round) :
    (d.prepend events).putSystemInfo r = (d.putSystemInfo r).prepend events := by
  have h := httpPut_prepend events { d with
    response := r.systemInfo.2
    progress := ((d.progress.note r.sysInfo).note r.version).note r.systemInfo.1 }
    r.systemInfo.2 r.reply
  simp only [putSystemInfo, prepend, Progress.prepend_note] at h ⊢
  rw [h]
  simp

theorem handleXmlMessage_prepend (r : Round) :
    (d.prepend events).handleXmlMessage r =
      ((d.handleXmlMessage r).1, (d.handleXmlMessage r).2.prepend events) := by
  unfold handleXmlMessage
  cases hcommand : d.command with
  | none => simp [prepend, hcommand]
  | some command => simp [prepend, hcommand]

theorem postResult_prepend (r : Round) :
    (d.prepend events).postResult r = (d.postResult r).prepend events := by
  simp only [postResult, handleXmlMessage_prepend]
  generalize d.handleXmlMessage r = handled
  obtain ⟨ret, e⟩ := handled
  by_cases hresponse : e.response = none
  · have hresult (ret : RootPaError) := Progress.prepend_concludeResult events
      { e.progress with ret := ret }
    simp only [prepend, Progress.prepend, hresponse, if_true] at hresult ⊢
    rw [hresult]
  · have hhttp := httpCommunicate_prepend events { e with
      progress := { e.progress with ret := ret } } .post e.response r.reply
    simp only [prepend, Progress.prepend, hresponse, if_false] at hhttp ⊢
    rw [hhttp]
    generalize httpCommunicate _ _ _ _ = answer
    obtain ⟨error, f⟩ := answer
    have hresult := Progress.prepend_concludeResult events (f.progress.note error)
    exact congrArg (fun p => { f with progress := p }) hresult

theorem follow_prepend (r : Round) (relation : Relation) :
    (d.prepend events).follow r relation = (d.follow r relation).prepend events := by
  cases relation with
  | systemInfo => exact putSystemInfo_prepend events d r
  | initialDelete => exact request_prepend events d .delete none r
  | initialPost => exact request_prepend events d .post d.response r
  | result => exact postResult_prepend events d r
  | next => exact request_prepend events d .get none r
  | self | unknown =>
      simp [follow, prepend, Progress.prepend, Progress.fail, Progress.callback, Progress.emit]

theorem closeRound_prepend : (d.prepend events).closeRound = d.closeRound.prepend events := by
  unfold closeRound
  split
  · rename_i h
    rw [if_pos (show d.progress.workToDo from h)]
    rfl
  · rename_i h
    rw [if_neg (show ¬ d.progress.workToDo from h)]
    rfl

/-- What happened before has no influence on an iteration. -/
theorem round_prepend (r : Round) :
    (d.prepend events).round r = (d.round r).prepend events := by
  unfold round
  cases hrel : d.rel with
  | none =>
      have h : (d.prepend events).rel = none := hrel
      simp only [h, noRelation]
      cases hpending : d.pending with
      | none =>
          have h := closeRound_prepend events { d with
            progress := { d.progress.callback .finishedProvisioning .ok with workToDo := false } }
          simp only [prepend, hpending, Progress.prepend, Progress.callback, Progress.emit,
            List.append_assoc] at h ⊢
          exact h
      | some link =>
          have h : (d.prepend events).pending = some link := hpending
          rw [h]
          rfl
  | some rel =>
      have h : (d.prepend events).rel = some rel := hrel
      simp only [h]
      rw [follow_prepend, closeRound_prepend]

end Prepend

end Dialogue

end Exynos8890.RootPa
