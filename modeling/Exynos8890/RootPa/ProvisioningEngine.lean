import Exynos8890.Library.HeapCells
import Exynos8890.Library.TransitionSystem
import Exynos8890.RootPa.ContainerStore

/-!
# The provisioning loop

The agent asks the service enabler what to do.  Each answer may bring a link, a relation and a
command: the relation says what to do next, the link where to send the result.  The loop keeps
the strings of the last exchange beside those it has received, for a relation that asks for
the same once more, and it keeps the first request aside when the device has to be
unregistered before.

Main results:

- Definition `Engine.begin`: the state before the loop.
- Definition `Engine.round`: an iteration, which has no result when it reads a string that was
  released or releases it again.
- Definition `Engine.finish`: what is released behind the loop.
-/

namespace Exynos8890.RootPa

open MobiCore HeapCells

/-! ## Relations -/

def relationSelf : Text := "relation/self".toList
def relationSystemInfo : Text := "relation/system_info".toList
def relationResult : Text := "relation/command_result".toList
def relationNext : Text := "relation/next".toList
def relationInitialPost : Text := "initial_post".toList
def relationInitialDelete : Text := "initial_delete".toList

/-- What the loop does with a relation. -/
inductive Relation where
  | self
  | systemInfo
  | initialDelete
  | initialPost
  | result
  | next
  | unknown
deriving DecidableEq, Repr

/-- The comparisons of the loop, in their order. -/
def relationOf (rel : Text) : Relation :=
  if relationSelf <:+: rel then .self
  else if relationSystemInfo <:+: rel then .systemInfo
  else if relationInitialDelete <:+: rel then .initialDelete
  else if relationInitialPost <:+: rel then .initialPost
  else if relationResult <:+: rel then .result
  else if relationNext <:+: rel then .next
  else .unknown

/-- `relP`: one of the two constants, or a string that was received. -/
inductive RelPtr where
  | initialPost
  | initialDelete
  | received (n : Nat)
deriving DecidableEq, Repr

/-! ## Replies -/

/-- `httpMethod_t`. -/
inductive HttpMethod where
  | get
  | post
  | put
  | delete
deriving DecidableEq, Repr

/-- A `Link:` header: the link, and the relation if it has one. -/
structure LinkHeader where
  link : Text
  rel : Option Text
deriving DecidableEq

/-- How far an exchange gets. -/
inductive ReplyOutcome where
  | outOfMemory
  | optionRefused
  | unanswered
  | answered (httpCode : Nat)
deriving DecidableEq, Repr

/-- What arrives during an exchange, over all attempts. -/
structure Reply where
  headers : List LinkHeader
  body : Text
  outcome : ReplyOutcome
deriving DecidableEq

/-- The result for a response code of the service enabler. -/
def httpResult (httpCode : Nat) : RootPaError :=
  if 200 ≤ httpCode ∧ httpCode < 300 then .ok
  else if httpCode ∈ [400, 405, 406, 409, 411, 414, 415, 422, 500, 505] then .internal
  else if httpCode ∈ [301, 408, 503] then .network
  else if httpCode = 501 then .seCmpVersion
  else if httpCode = 424 then .sePreconditionNotMet
  else if httpCode = 404 then .illegalArgument
  else .network

/-- The result of `httpCommunicate` when there is a link. -/
def ReplyOutcome.error : ReplyOutcome → RootPaError
  | outOfMemory => .outOfMemory
  | optionRefused | unanswered => .network
  | answered httpCode => httpResult httpCode

/-- What happens in an iteration: the results of `getSysInfoP` and `getVersionP`, the results
and the documents of `buildXmlSystemInfo` and `handleXmlMessage`, and the reply. -/
structure Round where
  sysInfo : RootPaError
  version : RootPaError
  systemInfo : RootPaError × Option Text
  commandResult : RootPaError × Option Text
  reply : Reply
deriving DecidableEq

/-! ## Progress -/

/-- `ProvisioningState`, as far as the loop reports it. -/
inductive ProvisioningState where
  | connectingServiceEnabler
  | finishedProvisioning
  | error
deriving DecidableEq, Repr

/-- A request, and what came of it. -/
structure Exchange where
  method : HttpMethod
  link : Text
  document : Option Text
  result : RootPaError
  relation : Option Text
deriving DecidableEq

inductive Event where
  | callback (state : ProvisioningState) (error : RootPaError)
  | handled (command : Option Text)
  | exchange (e : Exchange)
deriving DecidableEq

/-- The results, whether the loop goes on, and what has happened. -/
structure Progress where
  ret : RootPaError
  tmpRet : RootPaError
  workToDo : Bool
  log : List Event
deriving DecidableEq

namespace Progress

def emit (p : Progress) (e : Event) : Progress :=
  { p with log := p.log ++ [e] }

def callback (p : Progress) (state : ProvisioningState) (error : RootPaError) : Progress :=
  p.emit (.callback state error)

/-- `tmpRet`, which replaces `ret` when it is an error. -/
def note (p : Progress) (error : RootPaError) : Progress :=
  { p with tmpRet := error, ret := if error ≠ .ok then error else p.ret }

/-- The error is reported, and the loop ends. -/
def fail (p : Progress) (error : RootPaError) : Progress :=
  { p.callback .error error with workToDo := false }

/-- Behind an exchange whose result is `ret`. -/
def conclude (p : Progress) (error : RootPaError) : Progress :=
  if error ≠ .ok then { p with ret := error }.fail error else { p with ret := error }

/-- Behind the exchange of the system information. -/
def concludeSystemInfo (p : Progress) (error : RootPaError) : Progress :=
  let p := p.note error
  if p.ret ≠ .ok then
    let p := p.callback .error p.ret
    if p.tmpRet ≠ .ok then { p with workToDo := false } else p
  else p

/-- Behind the exchange of a command result, or when there is none. -/
def concludeResult (p : Progress) : Progress :=
  if p.ret ≠ .ok ∧ p.ret ≠ .registryObjectNotAvailable then
    let p := p.callback .error p.ret
    if p.tmpRet ≠ .ok then { p with workToDo := false } else p
  else p

end Progress

/-! ## The loop -/

/-- The variables of `doProvisioningWithSe`. -/
structure Engine where
  heap : Heap Text
  progress : Progress
  link : Option Nat
  rel : Option RelPtr
  command : Option Nat
  response : Option Nat
  pendingLink : Option Nat
  pendingRel : Option RelPtr
  usedLink : Option Nat
  usedRel : Option RelPtr
  usedCommand : Option Nat

namespace Engine

/-- The text of `relP`. -/
def relText (heap : Heap Text) : RelPtr → Option Text
  | .initialPost => some relationInitialPost
  | .initialDelete => some relationInitialDelete
  | .received n => heap.read n

/-- The text of a string that may be null. -/
def text (heap : Heap Text) : Option Nat → Option (Option Text)
  | none => some none
  | some n => (heap.read n).map some

/-- `free` of a string that may be null. -/
def freeString (heap : Heap Text) : Option Nat → Option (Heap Text)
  | none => some heap
  | some n => heap.free n

/-- A relation is released unless it is one of the constants. -/
def freeRel (heap : Heap Text) : Option RelPtr → Option (Heap Text)
  | some (.received n) => heap.free n
  | some .initialPost | some .initialDelete | none => some heap

/-- `cleanup`, on the heap. -/
def cleanup (heap : Heap Text) (link : Option Nat) (rel : Option RelPtr) (command : Option Nat) :
    Option (Heap Text) := do
  let heap ← freeString heap command
  let heap ← freeRel heap rel
  freeString heap link

/-- `updateLinkAndRel`. -/
def updateLinkAndRel (received : Option Nat × Option Nat × Heap Text) (header : LinkHeader) :
    Option Nat × Option Nat × Heap Text :=
  let (link, heap) := received.2.2.alloc header.link
  match header.rel with
  | none => (some link, received.2.1, heap)
  | some rel =>
      let (rel, heap) := heap.alloc rel
      (some link, some rel, heap)

/-- `httpCommunicate` behind the checks and the set-up: the request is made. -/
def perform (s : Engine) (method : HttpMethod) (link : Text) (document : Option Text)
    (reply : Reply) : Option Engine :=
  let (command, heap) := s.heap.alloc reply.body
  let (newLink, newRel, heap) := reply.headers.foldl updateLinkAndRel (none, none, heap)
  match reply.outcome with
  | .answered httpCode =>
      some { s with
        heap := heap
        link := newLink
        rel := newRel.map .received
        command := some command
        progress := s.progress.emit <| .exchange
          ⟨method, link, document, httpResult httpCode, newRel.bind heap.read⟩ }
  | outcome => do
      let heap ← cleanup heap newLink (newRel.map .received) (some command)
      some { s with
        heap := heap
        progress := s.progress.emit <| .exchange ⟨method, link, document, outcome.error, none⟩ }

/-- `httpCommunicate`. -/
def httpCommunicate (s : Engine) (method : HttpMethod) (input : Option Nat) (reply : Reply) :
    Option (RootPaError × Engine) :=
  match s.link with
  | none => some (.illegalArgument, s)
  | some link =>
      let s := { s with command := none, rel := none }
      match reply.outcome with
      | .outOfMemory | .optionRefused => some (reply.outcome.error, s)
      | .unanswered | .answered _ => do
          let linkText ← s.heap.read link
          let document ← text s.heap input
          let s ← s.perform method linkText document reply
          some (reply.outcome.error, s)

/-- A document becomes the response. -/
def setResponse (s : Engine) : Option Text → Engine
  | none => { s with response := none }
  | some document =>
      let (response, heap) := s.heap.alloc document
      { s with heap := heap, response := some response }

/-- `httpPutAndReceiveCommand`. -/
def httpPut (s : Engine) (input : Option Nat) (reply : Reply) : Option (RootPaError × Engine) :=
  if input = none then some (.illegalArgument, s) else s.httpCommunicate .put input reply

/-- The branch of `RELATION_SYSTEMINFO`. -/
def putSystemInfo (s : Engine) (r : Round) : Option Engine := do
  let s := s.setResponse r.systemInfo.2
  let s := { s with progress := ((s.progress.note r.sysInfo).note r.version).note r.systemInfo.1 }
  let (error, s) ← s.httpPut s.response r.reply
  some { s with progress := s.progress.concludeSystemInfo error }

/-- The branches that only make a request. -/
def request (s : Engine) (method : HttpMethod) (input : Option Nat) (r : Round) :
    Option Engine := do
  let (error, s) ← s.httpCommunicate method input r.reply
  some { s with progress := s.progress.conclude error }

/-- `handleXmlMessage`, which makes no response when there is no command. -/
def handleXmlMessage (s : Engine) (r : Round) : Option (RootPaError × Engine) := do
  let command ← text s.heap s.command
  let s := { s with progress := s.progress.emit (.handled command) }
  match command with
  | none => some (.illegalArgument, { s with response := none })
  | some _ => some (r.commandResult.1, s.setResponse r.commandResult.2)

/-- The branch of `RELATION_RESULT`. -/
def postResult (s : Engine) (r : Round) : Option Engine := do
  let (ret, s) ← s.handleXmlMessage r
  let s := { s with progress := { s.progress with ret := ret } }
  if s.response = none then
    let ret := if ret = .ok then .xml else ret
    let s := { s with
      link := none, rel := none, command := none, progress := { s.progress with ret := ret } }
    some { s with progress := s.progress.concludeResult }
  else
    let (error, s) ← s.httpCommunicate .post s.response r.reply
    some { s with progress := (s.progress.note error).concludeResult }

/-- What the loop does with a relation that does not ask for the same once more. -/
def follow (s : Engine) (r : Round) : Relation → Option Engine
  | .systemInfo => s.putSystemInfo r
  | .initialDelete => s.request .delete none r
  | .initialPost => s.request .post s.response r
  | .result => s.postResult r
  | .next => s.request .get none r
  | .self | .unknown => some { s with
      progress := { s.progress with ret := .illegalArgument }.fail .illegalArgument }

/-- The text of the relation, if there is one. -/
def relationText (s : Engine) : Option (Option Text) :=
  match s.rel with
  | none => some none
  | some rel => (relText s.heap rel).map some

/-- The used strings are released. -/
def releaseUsed (s : Engine) : Option Engine := do
  let heap ← cleanup s.heap s.usedLink s.usedRel s.usedCommand
  some { s with heap := heap, usedLink := none, usedRel := none, usedCommand := none }

/-- The response is released. -/
def releaseResponse (s : Engine) : Option Engine := do
  let heap ← freeString s.heap s.response
  some { s with heap := heap, response := none }

/-- The end of an iteration behind the last cleaning: the used strings are kept when the
relation asks for the same once more. -/
def cleanUsed (s : Engine) : Option Engine := do
  let relation ← s.relationText
  if relation.map relationOf = some .self then s.releaseResponse
  else do
    let s ← s.releaseUsed
    s.releaseResponse

/-- The end of an iteration. -/
def closeRound (s : Engine) : Option Engine :=
  if s.progress.workToDo then s.cleanUsed
  else do
    let heap ← cleanup s.heap s.link s.rel s.command
    cleanUsed { s with
      heap := heap
      link := none
      rel := none
      command := none
      usedLink := if s.link = s.usedLink then none else s.usedLink
      usedRel := if s.rel = s.usedRel then none else s.usedRel
      usedCommand := if s.command = s.usedCommand then none else s.usedCommand }

/-- There is no relation: the request that was set aside is taken up, or the loop ends. -/
def noRelation (s : Engine) : Option Engine :=
  match s.pendingLink, s.pendingRel with
  | some link, some rel => do
      let heap ← freeString s.heap s.link
      some { s with
        heap := heap
        link := some link
        rel := some rel
        pendingLink := none
        pendingRel := none
        progress := { s.progress with workToDo := true } }
  | _, _ => closeRound { s with
      progress := { s.progress.callback .finishedProvisioning .ok with workToDo := false } }

/-- The strings of the last exchange are restored. -/
def restore (s : Engine) : Option Engine :=
  if s.rel ≠ s.usedRel ∧ s.link ≠ s.usedLink ∧ s.command ≠ s.usedCommand then do
    let heap ← cleanup s.heap s.link s.rel s.command
    closeRound { s with
      heap := heap, link := s.usedLink, rel := s.usedRel, command := s.usedCommand }
  else s.closeRound

/-- An iteration of the loop. -/
def round (s : Engine) (r : Round) : Option Engine :=
  match s.rel with
  | none => s.noRelation
  | some rel => do
      let relation ← relText s.heap rel
      if relationOf relation = .self then s.restore
      else
        let s ← follow { s with
          usedLink := s.link, usedRel := s.rel, usedCommand := s.command } r (relationOf relation)
        s.closeRound

/-- The loop as a transition system. -/
def system : TransitionSystem Engine Round where
  step s r := if s.progress.workToDo then s.round r else none

/-- What is released behind the loop. -/
def finish (s : Engine) : Option (Heap Text) := do
  let heap ← freeString s.heap s.response
  freeString heap s.link

end Engine

/-! ## The start -/

/-- A trustlet that is to be installed: its uuid, and the result and the document of
`buildXmlTrustletInstallationRequest`. -/
structure TrustletInstallation where
  uuid : List UInt8
  request : RootPaError × Option Text

/-- The arguments of `doProvisioningWithSe`, and what it finds: the initial address, the result
of `openSeClientAndInit`, and whether a factory reset is assumed. -/
structure ProvisioningArgs where
  spid : UInt32
  suid : List UInt8
  initialDelete : Bool
  tltData : Option TrustletInstallation
  initialUrl : Text
  opened : RootPaError
  factoryReset : Bool

namespace ProvisioningArgs

/-- `addIntToUri`: the number as a signed one, cut to the length of the buffer. -/
def intInString (addThis : UInt32) : Text :=
  ('/' :: (toString addThis.toInt32.toInt).toList).take 11

/-- `addBytesToUri` with the dashes of a uuid. -/
def uuidText (uuid : List UInt8) : Text :=
  (uuid.zipIdx.map fun (byte, i) =>
    byteArrayToString [byte] ++ if i ∈ [3, 5, 7, 9] then ['-'] else []).flatten

/-- `createBasicLink`. -/
def basicLink (args : ProvisioningArgs) : Text :=
  args.initialUrl ++ byteArrayToString args.suid

/-- The installation request, when it could be built. -/
def installationRequest (args : ProvisioningArgs) : Option Text :=
  match args.tltData with
  | some ⟨_, .ok, document⟩ => document
  | _ => none

/-- The link of the first request. -/
def initialLink (args : ProvisioningArgs) : Text :=
  args.basicLink ++
    (if args.initialDelete = false ∧ args.spid ≠ 0 then intInString args.spid else []) ++
    (match args.tltData with
      | some ⟨uuid, .ok, some _⟩ => '/' :: uuidText uuid
      | _ => [])

/-- The document that `buildXmlTrustletInstallationRequest` has made, whatever its result. -/
def firstResponse (args : ProvisioningArgs) : Option Text :=
  args.tltData.bind fun tltData => tltData.request.2

/-- The results before the loop. -/
def progress (args : ProvisioningArgs) : Progress :=
  let p : Progress := ⟨.ok, .ok, true, [.callback .connectingServiceEnabler .ok]⟩
  let p := p.conclude args.opened
  match args.tltData with
  | none => p
  | some ⟨_, ret, document⟩ =>
      if ret ≠ .ok then { p with ret := ret }.fail ret
      else if document = none then { p with ret := .xml }.fail .xml
      else { p with ret := .ok }

/-- A factory reset is recovered from before the first request. -/
def recovers (args : ProvisioningArgs) : Bool :=
  args.factoryReset ∧ args.initialDelete = false ∧ args.progress.workToDo

end ProvisioningArgs

namespace Engine

/-- The state before the loop. -/
def «begin» (args : ProvisioningArgs) : Engine :=
  let (link, heap) := Heap.empty.alloc args.initialLink
  let s : Engine := {
    heap := heap
    progress := args.progress
    link := some link
    rel := some (if args.initialDelete then .initialDelete else .initialPost)
    command := none
    response := none
    pendingLink := none
    pendingRel := none
    usedLink := none
    usedRel := none
    usedCommand := none }
  let s := s.setResponse args.firstResponse
  if args.recovers then
    let (link, heap) := s.heap.alloc args.basicLink
    { s with
      heap := heap
      link := some link
      rel := some .initialDelete
      pendingLink := s.link
      pendingRel := s.rel }
  else s

end Engine

end Exynos8890.RootPa
