import Exynos8890.RootPa.ContainerStore

/-!
# Command documents of the service enabler

A document of the service enabler is a list of commands.  Uploads are executed while the
document is parsed.  Content management commands are collected, and executed in the trustlet
when the parser is done.  A command that fails without `ignoreError` is to stop everything
that comes behind it in the document.

Main results:

- Definition `handleCommandAndFillResponse`: what a document executes, and its results.
- Theorem `stopsOnFailure_iff`: for which documents and results nothing behind a failed
  command is executed.
- Theorem `not_stopsOnFailure`: an upload overtakes a content management command.
-/

namespace Exynos8890.RootPa

/-! ## Commands -/

/-- `commandtype_t`. -/
inductive CommandType where
  | cmp
  | soUpload
  | tltUpload
  | unknown
deriving DecidableEq, Repr

/-- A command element.  The value is the one behind base64: it is missing without a
`commandValue`, and empty where there is nothing to decode. -/
structure Command where
  type : Option String
  id : Int32
  value : Option (List UInt8)
  ignoreError : Option String
deriving DecidableEq, Repr

/-- A command, and its place in the document. -/
abbrev CommandNode := Command × Nat

def getCommandType (c : Command) : CommandType :=
  if c.type = some "CMP" then .cmp
  else if c.type = some "SO_UPLOAD" then .soUpload
  else if c.type = some "TLT_UPLOAD" then .tltUpload
  else .unknown

def getCommandIgnoreError (c : Command) : Bool :=
  c.ignoreError = some "true"

/-- `CommonMessage`, with the place of the command that the message is for. -/
structure CommonMessage where
  node : Nat
  id : UInt32
  ignoreError : Bool
  ret : RootPaError
  intRet : UInt32
deriving DecidableEq, Repr

/-- `CmpMessage`. -/
structure CmpMessage where
  hdr : CommonMessage
  content : Option (List UInt8)
deriving DecidableEq, Repr

def CmpMessage.length (m : CmpMessage) : Nat :=
  (m.content.getD []).length

/-- What the execution of a command gives: its result, and for a content management command
what it leaves in the response. -/
structure Outcome where
  ret : RootPaError
  hdrRet : RootPaError
  intRet : UInt32
  content : Option (List UInt8)
  hdrRet_ok : ret = .ok → hdrRet = .ok

/-- The outcomes of the commands, by their places. -/
abbrev Outcomes := Nat → Outcome

/-! ## Parsing -/

/-- `extractCmpCommand`.  The message of a command without a value is not counted. -/
def extractCmpCommand (cmpCommands : List CmpMessage) (c : CommandNode) : List CmpMessage :=
  match c.1.value with
  | some content =>
      cmpCommands ++
        [⟨⟨c.2, c.1.id.toUInt32, getCommandIgnoreError c.1, .ok, 0⟩, some content⟩]
  | none => cmpCommands

/-- `handleUploadCommand`.  The upload is called also when the value cannot be decoded, and
its result replaces the error. -/
def handleUploadCommand (host : Outcomes) (uploadCommands : List CommonMessage)
    (c : CommandNode) : List CommonMessage :=
  match c.1.value with
  | some _ =>
      let intRet := if getCommandType c.1 = .soUpload then (host c.2).intRet else 0
      uploadCommands ++
        [⟨c.2, c.1.id.toUInt32, getCommandIgnoreError c.1, (host c.2).ret, intRet⟩]
  | none => uploadCommands ++ [⟨c.2, 0, false, .xml, 0⟩]

/-- What the parser has collected, and the places of the uploads that were executed. -/
structure Parsed where
  ret : RootPaError
  cmpCommands : List CmpMessage
  uploadCommands : List CommonMessage
  executed : List Nat
deriving DecidableEq, Repr

/-- Take up one command. -/
def parseCommand (host : Outcomes) (c : CommandNode) (p : Parsed) : Parsed :=
  match getCommandType c.1 with
  | .cmp =>
      let cmpCommands := extractCmpCommand p.cmpCommands c
      { p with
        cmpCommands
        ret := if cmpCommands = [] then .outOfMemory else p.ret }
  | .soUpload | .tltUpload =>
      { p with
        uploadCommands := handleUploadCommand host p.uploadCommands c
        executed := p.executed ++ if c.1.value.isSome then [c.2] else [] }
  | .unknown => p

/-- The parser stops: an upload without `ignoreError` has failed. -/
def uploadFailed (c : Command) (p : Parsed) : Bool :=
  getCommandType c ≠ .cmp ∧ getCommandIgnoreError c = false ∧
    p.uploadCommands.getLast?.any fun last => last.ret ≠ .ok

/-- The loop of `handleCommandAndFillResponse`. -/
def parseCommands (host : Outcomes) : List CommandNode → Parsed → Parsed
  | [], p => p
  | c :: rest, p =>
      let p := parseCommand host c p
      if p.ret = .outOfMemory ∨ uploadFailed c.1 p then p else parseCommands host rest p

/-! ## Execution -/

/-- A message of zeros. -/
def CmpMessage.blank (node : Nat) : CmpMessage :=
  ⟨⟨node, 0, false, .ok, 0⟩, none⟩

/-- The responses to the commands, the places of the commands that the loop came to and of
those that were executed, and whether the loop was left by a `return`. -/
structure CmpRun where
  ret : RootPaError
  responses : List CmpMessage
  attempted : List Nat
  executed : List Nat
  returned : Bool
deriving DecidableEq, Repr

/-- The response to a command: the result is filled in when the command left none. -/
def cmpResponse (outcome : Outcome) (c : CmpMessage) : CmpMessage where
  hdr := ⟨c.hdr.node, c.hdr.id, c.hdr.ignoreError,
    if outcome.hdrRet = .ok then outcome.ret else outcome.hdrRet, outcome.intRet⟩
  content := outcome.content

/-- The loop of `executeContentManagementCommands`. -/
def executeCommands (host : Outcomes) : List CmpMessage → RootPaError → CmpRun
  | [], ret => ⟨ret, [], [], [], false⟩
  | c :: rest, ret =>
      if c.length > 0 then
        let outcome := host c.hdr.node
        let response := cmpResponse outcome c
        let ret := if outcome.ret = .ok then ret else outcome.ret
        if outcome.ret ≠ .ok ∧ c.hdr.ignoreError = false then
          ⟨ret, response :: rest.map fun c => .blank c.hdr.node, [c.hdr.node], [c.hdr.node],
            true⟩
        else
          let run := executeCommands host rest ret
          { run with
            responses := response :: run.responses
            attempted := c.hdr.node :: run.attempted
            executed := c.hdr.node :: run.executed }
      else
        -- an empty command: only the id and the flag are copied
        let run := executeCommands host rest ret
        { run with
          responses := ⟨⟨c.hdr.node, c.hdr.id, c.hdr.ignoreError, .ok, 0⟩, none⟩ ::
            run.responses
          attempted := c.hdr.node :: run.attempted }

/-- The session of the content manager: whether it is open, and whether it can be opened. -/
structure ContentManager where
  handle : Bool
  opens : Bool
deriving DecidableEq, Repr

def ContentManager.session (cm : ContentManager) : Bool :=
  cm.handle || cm.opens

/-- `executeContentManagementCommands`, and whether the session is open behind it. -/
def executeContentManagementCommands (host : Outcomes) (cm : ContentManager)
    (commands : List CmpMessage) : CmpRun × Bool :=
  if cm.session then
    let run := executeCommands host commands .ok
    (run, cm.handle || run.returned)
  else (⟨.mobicoreConnection, commands.map fun c => .blank c.hdr.node, [], [], false⟩, false)

/-! ## Results -/

def errorCodeToString : RootPaError → String
  | .commandNotSupported => "COMMAND_NOT_SUPPORTED_ERROR"
  | .lock => "BUSY_ERROR"
  | .registry => "REGISTRY_ERROR"
  | .mobicoreConnection => "MOBICORE_CONNECTION_ERROR"
  | .outOfMemory => "OUT_OF_MEMORY_ERROR"
  | .internal => "INTERNAL_ERROR"
  | .xml => "XML_ERROR"
  | .registryObjectNotAvailable => "REGISTRY_OBJECT_NOT_AVAILABLE"
  | _ => "INTERNAL_ERROR"

/-- `resultValue`, or `resultError` with its two attributes. -/
inductive ResultBody where
  | value (content : List UInt8)
  | error (errorCode : String) (errorDetail : Option Nat)
deriving DecidableEq, Repr

/-- A `commandResult` element, with the place of the command that it is for. -/
structure CommandResult where
  node : Nat
  id : Nat
  body : ResultBody
deriving DecidableEq, Repr

/-- `addCommandResultData`. -/
def addCommandResultData (hdr : CommonMessage) (commandResult : Option (List UInt8)) :
    CommandResult where
  node := hdr.node
  id := hdr.id.toNat
  body :=
    match commandResult with
    | some content => .value content
    | none =>
        .error (errorCodeToString hdr.ret) (if hdr.intRet = 0 then none else some hdr.intRet.toNat)

/-- The results of a list of messages end behind one that has failed without `ignoreError`. -/
def resultsUntilFailure {α : Type} (hdr : α → CommonMessage) (result : α → CommandResult) :
    List α → List CommandResult
  | [] => []
  | m :: rest =>
      result m ::
        if (hdr m).ret ≠ .ok ∧ (hdr m).ignoreError = false then []
        else resultsUntilFailure hdr result rest

def handleCmpResponses : List CmpMessage → List CommandResult :=
  resultsUntilFailure CmpMessage.hdr fun m =>
    addCommandResultData m.hdr
      (if m.hdr.ret = .commandExecution ∨ m.hdr.ret = .ok then m.content else none)

def handleUploadResponses : List CommonMessage → List CommandResult :=
  resultsUntilFailure id fun m => addCommandResultData m (if m.ret = .ok then some [0] else none)

/-- What is left of a document: the result, the list of results if there is one, the places
of the commands that were attempted and of those that were executed, and whether the session
is open. -/
structure Handled where
  ret : RootPaError
  results : Option (List CommandResult)
  attempted : List Nat
  executed : List Nat
  handle : Bool
deriving DecidableEq, Repr

/-- The content management commands of a document are executed when there was one, if only
one that could not be counted. -/
def executeParsed (host : Outcomes) (cm : ContentManager) (p : Parsed) : CmpRun × Bool :=
  if p.cmpCommands = [] ∧ p.ret ≠ .outOfMemory then (⟨.ok, [], [], [], false⟩, cm.handle)
  else executeContentManagementCommands host cm p.cmpCommands

/-- `handleCommandAndFillResponse`.  There is memory for everything that is copied. -/
def handleCommandAndFillResponse (host : Outcomes) (cm : ContentManager)
    (document : List Command) : Handled :=
  let p := parseCommands host document.zipIdx ⟨.ok, [], [], []⟩
  let (run, handle) := executeParsed host cm p
  let ret := if run.ret = .ok then p.ret else run.ret
  let results := handleCmpResponses run.responses ++ handleUploadResponses p.uploadCommands
  let attempted := run.attempted ++ p.uploadCommands.map CommonMessage.node
  ⟨ret, if ret = .outOfMemory then none else some results, attempted, p.executed ++ run.executed,
    handle⟩

/-! ## The commands that the parser reaches -/

/-- The command is one of the three kinds. -/
def Command.Known (c : Command) : Prop :=
  getCommandType c ≠ .unknown

instance (c : Command) : Decidable c.Known :=
  inferInstanceAs (Decidable (_ ≠ _))

/-- The parser ends at the command: an upload has failed, or there is no content management
command so far with a value. -/
def EndsParsing (host : Outcomes) (counted : Bool) (c : CommandNode) : Prop :=
  if getCommandType c.1 = .cmp then counted = false ∧ c.1.value = none
  else getCommandIgnoreError c.1 = false ∧ (c.1.value = none ∨ (host c.2).ret ≠ .ok)

instance (host : Outcomes) (counted : Bool) (c : CommandNode) :
    Decidable (EndsParsing host counted c) := by
  unfold EndsParsing
  infer_instance

/-- The command is a content management command that is counted. -/
def counts (c : CommandNode) : Bool :=
  getCommandType c.1 = .cmp ∧ c.1.value.isSome

/-- The commands up to the one at which the parser ends. -/
def reached (host : Outcomes) : Bool → List CommandNode → List CommandNode
  | _, [] => []
  | counted, c :: rest =>
      c :: if EndsParsing host counted c then [] else reached host (counted || counts c) rest

/-- The message of a content management command. -/
def cmpMessage (c : CommandNode) : Option CmpMessage :=
  if getCommandType c.1 = .cmp then
    c.1.value.map fun content =>
      ⟨⟨c.2, c.1.id.toUInt32, getCommandIgnoreError c.1, .ok, 0⟩, some content⟩
  else none

/-- The message of an upload. -/
def uploadMessage (host : Outcomes) (c : CommandNode) : Option CommonMessage :=
  if getCommandType c.1 = .cmp then none
  else (handleUploadCommand host [] c).head?

/-- An upload that is executed. -/
def executedUpload (c : CommandNode) : Option Nat :=
  if getCommandType c.1 ≠ .cmp ∧ c.1.value.isSome then some c.2 else none

/-- The parser has added the messages of these commands. -/
structure Collects (host : Outcomes) (cs : List CommandNode) (p p' : Parsed) : Prop where
  cmpCommands : p'.cmpCommands = p.cmpCommands ++ cs.filterMap cmpMessage
  uploadCommands : p'.uploadCommands = p.uploadCommands ++ cs.filterMap (uploadMessage host)
  executed : p'.executed = p.executed ++ cs.filterMap executedUpload

theorem Collects.cons {host : Outcomes} {c : CommandNode} {cs : List CommandNode}
    {p p' p'' : Parsed} (hone : Collects host [c] p p') (hrest : Collects host cs p' p'') :
    Collects host (c :: cs) p p'' := by
  rw [← List.singleton_append]
  constructor
  · rw [hrest.cmpCommands, hone.cmpCommands, List.filterMap_append, List.append_assoc]
  · rw [hrest.uploadCommands, hone.uploadCommands, List.filterMap_append, List.append_assoc]
  · rw [hrest.executed, hone.executed, List.filterMap_append, List.append_assoc]

section Parser

variable {host : Outcomes} {c : CommandNode} {p : Parsed}

theorem extractCmpCommand_eq (hcmp : getCommandType c.1 = .cmp) (cmpCommands : List CmpMessage) :
    extractCmpCommand cmpCommands c = cmpCommands ++ [c].filterMap cmpMessage := by
  unfold extractCmpCommand
  cases hvalue : c.1.value <;> simp [cmpMessage, hcmp, hvalue]

theorem handleUploadCommand_eq (hcmp : getCommandType c.1 ≠ .cmp)
    (uploadCommands : List CommonMessage) :
    handleUploadCommand host uploadCommands c =
      uploadCommands ++ [c].filterMap (uploadMessage host) := by
  cases hvalue : c.1.value <;> simp [uploadMessage, handleUploadCommand, hcmp, hvalue]

theorem executedUpload_cmp (hcmp : getCommandType c.1 = .cmp) : executedUpload c = none := by
  simp [executedUpload, hcmp]

theorem uploadMessage_cmp (hcmp : getCommandType c.1 = .cmp) : uploadMessage host c = none :=
  if_pos hcmp

theorem cmpMessage_upload (hcmp : getCommandType c.1 ≠ .cmp) : cmpMessage c = none :=
  if_neg hcmp

/-- An upload is taken up with the message that belongs to it. -/
theorem parseCommand_upload (hknown : c.1.Known) (hcmp : getCommandType c.1 ≠ .cmp) :
    parseCommand host c p =
      { p with
        uploadCommands := handleUploadCommand host p.uploadCommands c
        executed := p.executed ++ if c.1.value.isSome then [c.2] else [] } := by
  unfold parseCommand
  cases htype : getCommandType c.1 with
  | cmp => exact absurd htype hcmp
  | soUpload => rfl
  | tltUpload => rfl
  | unknown => exact absurd htype hknown

theorem parseCommand_cmp (hcmp : getCommandType c.1 = .cmp) :
    parseCommand host c p =
      { p with
        cmpCommands := extractCmpCommand p.cmpCommands c
        ret := if extractCmpCommand p.cmpCommands c = [] then .outOfMemory else p.ret } := by
  unfold parseCommand
  rw [hcmp]

theorem parseCommand_collects (hknown : c.1.Known) :
    Collects host [c] p (parseCommand host c p) := by
  by_cases hcmp : getCommandType c.1 = .cmp
  · rw [parseCommand_cmp hcmp]
    constructor
    · exact extractCmpCommand_eq hcmp _
    · simp [uploadMessage_cmp hcmp]
    · simp [executedUpload_cmp hcmp]
  · rw [parseCommand_upload hknown hcmp]
    constructor
    · simp [cmpMessage_upload hcmp]
    · exact handleUploadCommand_eq hcmp _
    · by_cases hvalue : c.1.value.isSome <;> simp [executedUpload, hcmp, hvalue]

theorem ends_iff (hknown : c.1.Known) (hret : p.ret = .ok) :
    ((parseCommand host c p).ret = .outOfMemory ∨ uploadFailed c.1 (parseCommand host c p)) ↔
      EndsParsing host (decide (p.cmpCommands ≠ [])) c := by
  by_cases hcmp : getCommandType c.1 = .cmp
  · rw [parseCommand_cmp hcmp]
    cases hvalue : c.1.value <;>
      by_cases hcount : p.cmpCommands = [] <;>
        simp [EndsParsing, uploadFailed, extractCmpCommand, hcmp, hvalue, hret, hcount]
  · rw [parseCommand_upload hknown hcmp]
    cases hvalue : c.1.value <;>
      simp [EndsParsing, uploadFailed, handleUploadCommand, hcmp, hvalue, hret]

theorem ret_parseCommand (hknown : c.1.Known) (hret : p.ret = .ok)
    (hends : ¬ EndsParsing host (decide (p.cmpCommands ≠ [])) c) :
    (parseCommand host c p).ret = .ok := by
  rw [← ends_iff hknown hret, not_or] at hends
  by_cases hcmp : getCommandType c.1 = .cmp
  · rw [parseCommand_cmp hcmp] at hends ⊢
    dsimp only at hends ⊢
    split
    · rename_i hempty
      exact absurd (if_pos hempty) hends.1
    · exact hret
  · rw [parseCommand_upload hknown hcmp]
    exact hret

/-- The parser counts the content management commands with a value. -/
theorem counted_parseCommand (hknown : c.1.Known) :
    decide ((parseCommand host c p).cmpCommands ≠ []) =
      (decide (p.cmpCommands ≠ []) || counts c) := by
  rw [(parseCommand_collects hknown).cmpCommands]
  by_cases hcmp : getCommandType c.1 = .cmp
  · cases hvalue : c.1.value <;> simp [counts, cmpMessage, hcmp, hvalue]
  · simp [counts, cmpMessage_upload hcmp, hcmp]

end Parser

/-- The parser adds the messages of the commands that it reaches. -/
theorem parseCommands_collects (host : Outcomes) {cs : List CommandNode}
    (hknown : ∀ c ∈ cs, c.1.Known) {p : Parsed} (hret : p.ret = .ok) :
    Collects host (reached host (decide (p.cmpCommands ≠ [])) cs) p
      (parseCommands host cs p) := by
  induction cs generalizing p with
  | nil =>
      constructor
      · exact (List.append_nil _).symm
      · exact (List.append_nil _).symm
      · exact (List.append_nil _).symm
  | cons c rest ih =>
      have hc : c.1.Known := hknown c List.mem_cons_self
      have hone : Collects host [c] p (parseCommand host c p) := parseCommand_collects hc
      rw [parseCommands, reached]
      by_cases hends : EndsParsing host (decide (p.cmpCommands ≠ [])) c
      · rw [if_pos hends]
        rw [if_pos ((ends_iff hc hret).mpr hends)]
        exact hone
      · rw [if_neg hends]
        rw [if_neg (fun h => hends ((ends_iff hc hret).mp h))]
        apply hone.cons
        rw [← counted_parseCommand hc]
        apply ih
        · exact fun d hd => hknown d (List.mem_cons_of_mem _ hd)
        · exact ret_parseCommand hc hret hends

/-! ## The commands that are executed -/

/-- The value of the command can be decoded. -/
def Command.decodes (c : Command) : Prop :=
  c.value.getD [] ≠ []

instance (c : Command) : Decidable c.decodes :=
  inferInstanceAs (Decidable (_ ≠ _))

/-- A content management command that is sent to the trustlet. -/
def Sent (c : CommandNode) : Prop :=
  getCommandType c.1 = .cmp ∧ c.1.decodes

instance (c : CommandNode) : Decidable (Sent c) :=
  inferInstanceAs (Decidable (_ ∧ _))

/-- The command fails: it cannot be decoded, there is no session for it, or its execution
fails. -/
def Fails (host : Outcomes) (cm : ContentManager) (c : CommandNode) : Prop :=
  ¬ c.1.decodes ∨ (getCommandType c.1 = .cmp ∧ cm.session = false) ∨ (host c.2).ret ≠ .ok

/-- The command fails, and its errors are not ignored. -/
def Stops (host : Outcomes) (cm : ContentManager) (c : CommandNode) : Prop :=
  Fails host cm c ∧ getCommandIgnoreError c.1 = false

/-- The command ends the execution of the content management commands. -/
def Halts (host : Outcomes) (c : CommandNode) : Prop :=
  Sent c ∧ (host c.2).ret ≠ .ok ∧ getCommandIgnoreError c.1 = false

instance (host : Outcomes) (cm : ContentManager) (c : CommandNode) :
    Decidable (Stops host cm c) := by
  unfold Stops Fails
  infer_instance

instance (host : Outcomes) (c : CommandNode) : Decidable (Halts host c) :=
  inferInstanceAs (Decidable (_ ∧ _))

theorem Halts.stops {host : Outcomes} {c : CommandNode} (h : Halts host c)
    (cm : ContentManager) : Stops host cm c :=
  ⟨Or.inr (Or.inr h.2.1), h.2.2⟩

/-- The places of the commands that are sent to the trustlet. -/
def sentNodes (host : Outcomes) : List CommandNode → List Nat
  | [] => []
  | c :: rest =>
      if Sent c then c.2 :: if Halts host c then [] else sentNodes host rest
      else sentNodes host rest

theorem executeCommands_executed (host : Outcomes) (cs : List CommandNode) (ret : RootPaError) :
    (executeCommands host (cs.filterMap cmpMessage) ret).executed = sentNodes host cs := by
  induction cs generalizing ret with
  | nil => rfl
  | cons c rest ih =>
      by_cases hcmp : getCommandType c.1 = .cmp
      · cases hvalue : c.1.value with
        | none =>
            have hmessage : cmpMessage c = none := by simp [cmpMessage, hcmp, hvalue]
            have hsent : ¬ Sent c := by simp [Sent, Command.decodes, hvalue]
            rw [List.filterMap_cons_none hmessage, sentNodes, if_neg hsent, ih]
        | some content =>
            have hmessage : cmpMessage c = some
                ⟨⟨c.2, c.1.id.toUInt32, getCommandIgnoreError c.1, .ok, 0⟩, some content⟩ := by
              simp [cmpMessage, hcmp, hvalue]
            rw [List.filterMap_cons_some hmessage, sentNodes, executeCommands]
            by_cases hcontent : content = []
            · have hsent : ¬ Sent c := by simp [Sent, Command.decodes, hvalue, hcontent]
              rw [if_neg hsent, if_neg (by simp [CmpMessage.length, hcontent])]
              exact ih ret
            · have hsent : Sent c := ⟨hcmp, by simp [Command.decodes, hvalue, hcontent]⟩
              have hlength : 0 < content.length := List.length_pos_iff.mpr hcontent
              rw [if_pos hsent, if_pos (by simpa [CmpMessage.length] using hlength)]
              by_cases hhalts : Halts host c
              · simp [hhalts, hhalts.2]
              · have hgoes : ¬ ((host c.2).ret ≠ .ok ∧ getCommandIgnoreError c.1 = false) :=
                  fun h => hhalts ⟨hsent, h⟩
                simp only [if_neg hgoes, if_neg hhalts, ih]
      · have hsent : ¬ Sent c := fun h => hcmp h.1
        rw [List.filterMap_cons_none (cmpMessage_upload hcmp), sentNodes, if_neg hsent, ih]

/-- The places of the commands that are executed when the parser takes up these. -/
def executedIn (host : Outcomes) (cm : ContentManager) (counted : Bool)
    (cs : List CommandNode) : List Nat :=
  (reached host counted cs).filterMap executedUpload ++
    if cm.session then sentNodes host (reached host counted cs) else []

theorem executeParsed_executed (host : Outcomes) (cm : ContentManager) (p : Parsed) :
    (executeParsed host cm p).1.executed =
      if cm.session then (executeCommands host p.cmpCommands .ok).executed else [] := by
  unfold executeParsed executeContentManagementCommands
  by_cases hempty : p.cmpCommands = [] ∧ p.ret ≠ .outOfMemory
  · simp [hempty, executeCommands]
  · rw [if_neg hempty]
    split <;> rfl

theorem handled_executed {document : List Command} (hknown : ∀ c ∈ document, c.Known)
    (host : Outcomes) (cm : ContentManager) :
    (handleCommandAndFillResponse host cm document).executed =
      executedIn host cm false document.zipIdx := by
  have hnodes : ∀ c ∈ document.zipIdx, c.1.Known :=
    fun c hc => hknown c.1 (List.fst_mem_of_mem_zipIdx hc)
  have h := parseCommands_collects host (p := ⟨.ok, [], [], []⟩) hnodes rfl
  simp only [handleCommandAndFillResponse, executedIn, executeParsed_executed, h.executed,
    h.cmpCommands, List.nil_append, executeCommands_executed]
  rfl

theorem reached_subset (host : Outcomes) (counted : Bool) (cs : List CommandNode) :
    reached host counted cs ⊆ cs := by
  induction cs generalizing counted with
  | nil => exact List.Subset.refl _
  | cons c rest ih =>
      rw [reached]
      apply List.cons_subset_cons
      split
      · exact List.nil_subset _
      · exact ih _

theorem executedUpload_eq_some {c : CommandNode} {j : Nat} :
    executedUpload c = some j ↔
      (getCommandType c.1 ≠ .cmp ∧ c.1.value.isSome) ∧ c.2 = j := by
  unfold executedUpload
  split
  · rename_i h
    simp [h]
  · rename_i h
    simp [h]

theorem mem_sentNodes_cons {host : Outcomes} {c : CommandNode} {cs : List CommandNode} {j : Nat} :
    j ∈ sentNodes host (c :: cs) ↔
      (Sent c ∧ c.2 = j) ∨ (¬ Halts host c ∧ j ∈ sentNodes host cs) := by
  rw [sentNodes]
  by_cases hsent : Sent c
  · by_cases hhalts : Halts host c
    · simp [hsent, hhalts, eq_comm]
    · simp [hsent, hhalts, eq_comm]
  · have hhalts : ¬ Halts host c := fun h => hsent h.1
    simp [hsent, hhalts]

theorem exists_of_mem_sentNodes {host : Outcomes} {cs : List CommandNode} {j : Nat}
    (h : j ∈ sentNodes host cs) : ∃ d ∈ cs, Sent d ∧ d.2 = j := by
  induction cs with
  | nil => exact absurd h List.not_mem_nil
  | cons c rest ih =>
      rcases mem_sentNodes_cons.mp h with ⟨hsent, hj⟩ | ⟨-, hrest⟩
      · exact ⟨c, List.mem_cons_self, hsent, hj⟩
      · obtain ⟨d, hd, hsent⟩ := ih hrest
        exact ⟨d, List.mem_cons_of_mem _ hd, hsent⟩

/-- When there is a command for the trustlet, one is executed. -/
theorem exists_mem_sentNodes (host : Outcomes) {cs : List CommandNode} {d : CommandNode}
    (hd : d ∈ cs) (hsent : Sent d) : ∃ j, j ∈ sentNodes host cs := by
  induction cs with
  | nil => exact absurd hd List.not_mem_nil
  | cons c rest ih =>
      by_cases hc : Sent c
      · exact ⟨c.2, mem_sentNodes_cons.mpr (Or.inl ⟨hc, rfl⟩)⟩
      · have hrest : d ∈ rest := by
          rcases List.mem_cons.mp hd with rfl | hrest
          · exact absurd hsent hc
          · exact hrest
        obtain ⟨j, hj⟩ := ih hrest
        exact ⟨j, mem_sentNodes_cons.mpr (Or.inr ⟨fun h => hc h.1, hj⟩)⟩

/-- A command is executed as an upload or by the trustlet. -/
theorem mem_executedIn {host : Outcomes} {cm : ContentManager} {counted : Bool}
    {cs : List CommandNode} {j : Nat} :
    j ∈ executedIn host cm counted cs ↔
      (∃ d ∈ reached host counted cs, executedUpload d = some j) ∨
        (cm.session ∧ j ∈ sentNodes host (reached host counted cs)) := by
  rw [executedIn, List.mem_append, List.mem_filterMap]
  cases cm.session <;> simp

/-! ## Stopping on failure -/

/-- Nothing that comes behind a failed command is executed. -/
def StopsOnFailure (host : Outcomes) (cm : ContentManager) (document : List Command) : Prop :=
  ∀ c ∈ document.zipIdx, Stops host cm c →
    ∀ j ∈ (handleCommandAndFillResponse host cm document).executed, j ≤ c.2

/-- Behind the command `c` the command `d` is not executed, although the parser reaches it:
it is an upload without a value, or a content management command that cannot be decoded, or
for which there is no session, or it comes behind one that has failed in the trustlet. -/
def Quiet (host : Outcomes) (cm : ContentManager) (c d : CommandNode) : Prop :=
  if getCommandType d.1 = .cmp then d.1.decodes → cm.session → Halts host c
  else d.1.value = none

/-- The parser ends before, or with, the first command that fails without `ignoreError`, or
everything that it reaches behind that command is not executed. -/
def QuietBehindFailure (host : Outcomes) (cm : ContentManager) : Bool → List CommandNode → Prop
  | _, [] => True
  | counted, c :: rest =>
      EndsParsing host counted c ∨
        if Stops host cm c then ∀ d ∈ reached host (counted || counts c) rest, Quiet host cm c d
        else QuietBehindFailure host cm (counted || counts c) rest

section Order

variable {host : Outcomes} {cm : ContentManager} {counted : Bool} {c : CommandNode}
  {rest : List CommandNode}

theorem le_of_mem_executedIn_ends (hends : EndsParsing host counted c) {j : Nat}
    (hj : j ∈ executedIn host cm counted (c :: rest)) : j ≤ c.2 := by
  rw [mem_executedIn, reached, if_pos hends] at hj
  rcases hj with ⟨d, hd, hupload⟩ | ⟨-, hsent⟩
  · rw [List.mem_singleton.mp hd] at hupload
    exact (executedUpload_eq_some.mp hupload).2.ge
  · obtain ⟨d, hd, -, hj⟩ := exists_of_mem_sentNodes hsent
    rw [List.mem_singleton.mp hd] at hj
    exact hj.ge

/-- What is executed when the parser goes on, and the trustlet has not failed the command:
the command itself, perhaps, and what the rest executes. -/
theorem mem_executedIn_cons (hends : ¬ EndsParsing host counted c) (hhalts : ¬ Halts host c)
    {j : Nat} :
    j ∈ executedIn host cm counted (c :: rest) ↔
      (executedUpload c = some j ∨ (cm.session ∧ Sent c ∧ c.2 = j)) ∨
        j ∈ executedIn host cm (counted || counts c) rest := by
  simp only [mem_executedIn, reached, if_neg hends, List.exists_mem_cons_iff, mem_sentNodes_cons,
    hhalts, not_false_eq_true, true_and, and_or_left]
  exact or_or_or_comm

/-- Behind a command at which the parser goes on everything is quiet if and only if nothing is
executed there. -/
theorem quiet_iff (hends : ¬ EndsParsing host counted c) (hlt : ∀ d ∈ rest, c.2 < d.2) :
    (∀ d ∈ reached host (counted || counts c) rest, Quiet host cm c d) ↔
      ∀ j ∈ executedIn host cm counted (c :: rest), j ≤ c.2 := by
  have hbehind : ∀ d ∈ reached host (counted || counts c) rest, c.2 < d.2 :=
    fun d hd => hlt d (reached_subset _ _ _ hd)
  simp only [mem_executedIn, reached, if_neg hends]
  generalize reached host (counted || counts c) rest = behind at hbehind ⊢
  constructor
  · rintro hquiet j (⟨d, hd, hupload⟩ | ⟨hsession, hsent⟩)
    · obtain ⟨⟨hcmp, hvalue⟩, rfl⟩ := executedUpload_eq_some.mp hupload
      rcases List.mem_cons.mp hd with rfl | hmem
      · exact Nat.le_refl _
      · have h := hquiet d hmem
        rw [Quiet, if_neg hcmp] at h
        rw [h] at hvalue
        cases hvalue
    · rcases mem_sentNodes_cons.mp hsent with ⟨-, rfl⟩ | ⟨hhalts, hmem⟩
      · exact Nat.le_refl _
      · obtain ⟨d, hd, ⟨hcmp, hdecodes⟩, -⟩ := exists_of_mem_sentNodes hmem
        have h := hquiet d hd
        rw [Quiet, if_pos hcmp] at h
        exact absurd (h hdecodes hsession) hhalts
  · intro hle d hd
    by_cases hcmp : getCommandType d.1 = .cmp
    · rw [Quiet, if_pos hcmp]
      intro hdecodes hsession
      by_contra hhalts
      obtain ⟨j, hj⟩ := exists_mem_sentNodes host hd ⟨hcmp, hdecodes⟩
      have hjc : j ≤ c.2 :=
        hle j (Or.inr ⟨hsession, mem_sentNodes_cons.mpr (Or.inr ⟨hhalts, hj⟩)⟩)
      obtain ⟨e, he, -, rfl⟩ := exists_of_mem_sentNodes hj
      exact absurd (hbehind e he) (not_lt.mpr hjc)
    · rw [Quiet, if_neg hcmp]
      by_contra hvalue
      have hupload : executedUpload d = some d.2 :=
        executedUpload_eq_some.mpr ⟨⟨hcmp, Option.isSome_iff_ne_none.mpr hvalue⟩, rfl⟩
      have hdc : d.2 ≤ c.2 := hle d.2 (Or.inl ⟨d, List.mem_cons_of_mem _ hd, hupload⟩)
      exact absurd (hbehind d hd) (not_lt.mpr hdc)

end Order

/-- Commands in their order: nothing behind a failed command is executed if and only if the
parser ends with the first one that fails, or what follows is quiet. -/
theorem quietBehindFailure_iff {host : Outcomes} {cm : ContentManager} {cs : List CommandNode}
    (hordered : cs.Pairwise fun c d => c.2 < d.2) (counted : Bool) :
    (∀ c ∈ cs, Stops host cm c → ∀ j ∈ executedIn host cm counted cs, j ≤ c.2) ↔
      QuietBehindFailure host cm counted cs := by
  induction cs generalizing counted with
  | nil => exact iff_of_true nofun trivial
  | cons c rest ih =>
      rw [List.pairwise_cons] at hordered
      rw [QuietBehindFailure]
      have hfirst : ∀ d ∈ c :: rest, c.2 ≤ d.2 := by
        intro d hd
        rcases List.mem_cons.mp hd with rfl | hrest
        · exact Nat.le_refl _
        · exact (hordered.1 d hrest).le
      by_cases hends : EndsParsing host counted c
      · apply iff_of_true
        · intro d hd _ j hj
          exact (le_of_mem_executedIn_ends hends hj).trans (hfirst d hd)
        · exact Or.inl hends
      · rw [or_iff_right hends]
        split
        · rename_i hstops
          rw [quiet_iff hends hordered.1]
          constructor
          · exact fun h => h c List.mem_cons_self hstops
          · exact fun h d hd _ j hj => (h j hj).trans (hfirst d hd)
        · rename_i hstops
          have hhalts : ¬ Halts host c := fun h => hstops (h.stops cm)
          rw [← ih hordered.2]
          constructor
          · intro h d hd hd' j hj
            exact h d (List.mem_cons_of_mem _ hd) hd' j
              ((mem_executedIn_cons hends hhalts).mpr (Or.inr hj))
          · intro h d hd hd' j hj
            rcases (mem_executedIn_cons hends hhalts).mp hj with (hupload | ⟨-, -, rfl⟩) | hrest
            · exact (executedUpload_eq_some.mp hupload).2.ge.trans (hfirst d hd)
            · exact hfirst d hd
            · have hmem : d ∈ rest := by
                rcases List.mem_cons.mp hd with rfl | hmem
                · exact absurd hd' hstops
                · exact hmem
              exact h d hmem hd' j hrest

theorem zipIdx_ordered (document : List Command) :
    document.zipIdx.Pairwise fun c d => c.2 < d.2 := by
  apply List.pairwise_map.mp
  rw [List.zipIdx_map_snd]
  exact List.pairwise_lt_range'

/-- A document stops on failure if and only if everything behind the first command that fails
without `ignoreError` is quiet. -/
theorem stopsOnFailure_iff (host : Outcomes) (cm : ContentManager) (document : List Command)
    (hknown : ∀ c ∈ document, c.Known) :
    StopsOnFailure host cm document ↔ QuietBehindFailure host cm false document.zipIdx := by
  rw [StopsOnFailure, handled_executed hknown]
  exact quietBehindFailure_iff (zipIdx_ordered document) false

/-- A content management command of one byte, and a trustlet for upload. -/
def commandThenUpload : List Command :=
  [⟨some "CMP", 1, some [7], none⟩, ⟨some "TLT_UPLOAD", 2, some [8], none⟩]

/-- The first command fails. -/
def firstFails : Outcomes := fun node =>
  if node = 0 then ⟨.commandExecution, .commandExecution, 0, none, nofun⟩
  else ⟨.ok, .ok, 0, none, fun _ => rfl⟩

theorem commandThenUpload_known : ∀ c ∈ commandThenUpload, c.Known := by
  decide

/-- A failed upload stops the command behind it. -/
theorem stopsOnFailure_uploadFirst :
    StopsOnFailure firstFails ⟨false, true⟩ commandThenUpload.reverse := by
  apply (stopsOnFailure_iff firstFails ⟨false, true⟩ commandThenUpload.reverse (by decide)).mpr
  exact Or.inl (by decide)

/-- The upload is executed before the command that comes first fails. -/
theorem not_stopsOnFailure :
    ¬ ∀ (host : Outcomes) (cm : ContentManager) (document : List Command),
      (∀ c ∈ document, c.Known) → StopsOnFailure host cm document := by
  intro h
  have hstops := h firstFails ⟨false, true⟩ commandThenUpload commandThenUpload_known
    (⟨some "CMP", 1, some [7], none⟩, 0) (by decide) (by decide) 1 (by decide)
  exact absurd hstops (by decide)

end Exynos8890.RootPa
