import Exynos8890.Library.ResourceLog
import Exynos8890.Library.TransitionSystem

/-!
# The descriptor of the JPEG device

An encoder or decoder opens its device node when it is configured and closes
the node when it is destroyed.  What the object knows of the descriptor is one
number, and whether it has executed since it was created.

Main results:

- Definitions `create`, `updateConfig`, `execute` and `destroy`.
- Definition `JpegSystem`: every sequence of calls with every answer.
- Theorem `descriptorsKept_run`: runs in which no call loses the descriptor or
  uses the number of a closed one.
-/

namespace Exynos8890
namespace HwJpeg

/-! ## Requests -/

/-- `MODE`. -/
inductive Mode
  | encode
  | decode
  deriving DecidableEq, Repr

/-- The two queues, `V4L2_BUF_TYPE_VIDEO_OUTPUT_MPLANE` and
`V4L2_BUF_TYPE_VIDEO_CAPTURE_MPLANE`. -/
inductive BufType
  | output
  | capture
  deriving DecidableEq, Repr

/-- The requests that are sent with `ioctl`. -/
inductive Request
  | queryCap
  | setJpegComp
  | setFmt (type : BufType)
  | reqBufs (type : BufType) (count : Nat)
  | qBuf (type : BufType)
  | dqBuf (type : BufType)
  | streamOn (type : BufType)
  | streamOff (type : BufType)
  deriving DecidableEq, Repr

/-- A system call on the device. -/
inductive JpegEvent
  | opened (fd : Int) (node : String)
  | ioctl (fd : Int) (request : Request) (ok : Bool)
  | closed (fd : Int)
  deriving DecidableEq, Repr

/-! ## Status codes -/

def errorNone : Int := 0
def errorJpegDeviceAlreadyCreate : Int := -256
def errorCannotOpenJpegDevice : Int := -254
def errorJpegDeviceAlreadyClosed : Int := -253
def errorJpegDeviceAlreadyDestroy : Int := -252
def errorJpegDeviceNotCreateYet : Int := -251
def errorInvalidJpegConfig : Int := -246
def errorExcuteFail : Int := -243
def errorReqbufFail : Int := -235

/-! ## The object -/

/-- The fields that decide about the descriptor, with what the kernel has seen
and the status of the last call. -/
structure Jpeg where
  flagCreate : Bool
  flagExcute : Bool
  selectNode : Int
  jpegFd : Int
  log : List JpegEvent
  returned : Int
  deriving DecidableEq

/-- A new encoder or decoder. -/
def Jpeg.init : Jpeg where
  flagCreate := false
  flagExcute := false
  selectNode := 0
  jpegFd := -1
  log := []
  returned := errorNone

/-- What `open` and the requests of a call are answered with. -/
structure CallAnswers where
  openNode : Int
  ioctl : Nat → Bool

/-- Send requests until one fails; each has the status that its failure gives.
The first of them is request number `n` of its call. -/
def sendAll (answers : CallAnswers) (fd : Int) :
    List (Request × Int) → Nat → List JpegEvent → Int × List JpegEvent
  | [], _, log => (errorNone, log)
  | (request, err) :: rest, n, log =>
      let log := log ++ [.ioctl fd request (answers.ioctl n)]
      if answers.ioctl n then sendAll answers fd rest (n + 1) log else (err, log)

/-- `create`. -/
def create (s : Jpeg) : Jpeg :=
  if s.flagCreate then { s with returned := errorJpegDeviceAlreadyCreate }
  else { s with flagCreate := true, flagExcute := false, selectNode := 0
                returned := errorNone }

/-- The device node of a mode, for the numbers that `openNode` knows. -/
def deviceNode (selectNode : Int) : Mode → Option String
  | .encode =>
      if selectNode = 0 ∨ selectNode = 1 then some "/dev/video12"
      else if selectNode = 2 then some "/dev/video14"
      else none
  | .decode =>
      if selectNode = 0 ∨ selectNode = 1 then some "/dev/video11"
      else if selectNode = 2 then some "/dev/video13"
      else none

/-- `openNode`. -/
def openNode (mode : Mode) (answers : CallAnswers) (s : Jpeg) : Jpeg :=
  let s : Jpeg := match deviceNode s.selectNode mode with
    | none => s
    | some node =>
        if answers.openNode < 0 then { s with jpegFd := answers.openNode }
        else { s with jpegFd := answers.openNode
                      log := s.log ++ [.opened answers.openNode node] }
  if s.jpegFd < 0 then { s with jpegFd := -1, returned := errorCannotOpenJpegDevice }
  else if s.jpegFd ≤ 0 then
    { s with jpegFd := -1, returned := errorJpegDeviceAlreadyClosed }
  else { s with returned := errorNone }

/-- `openJpeg`.  The number of a descriptor that it closes is kept. -/
def openJpeg (mode : Mode) (answers : CallAnswers) (s : Jpeg) : Jpeg :=
  let s := openNode mode answers s
  if s.returned ≠ errorNone then s
  else if answers.ioctl 0 then
    { s with log := s.log ++ [.ioctl s.jpegFd .queryCap true] }
  else
    { s with log := s.log ++ [.ioctl s.jpegFd .queryCap false, .closed s.jpegFd]
             returned := errorCannotOpenJpegDevice }

/-- The requests of `updateConfig` after the node is open. -/
def configRequests (mode : Mode) : List (Request × Int) :=
  (match mode with
    | .encode => [(.setJpegComp, errorInvalidJpegConfig)]
    | .decode => []) ++
  [(.setFmt .output, errorInvalidJpegConfig),
    (.reqBufs .output 1, errorExcuteFail),
    (.setFmt .capture, errorInvalidJpegConfig),
    (.reqBufs .capture 1, errorReqbufFail)]

/-- `updateConfig`; encoder and decoder have one buffer in each queue. -/
def updateConfig (mode : Mode) (answers : CallAnswers) (s : Jpeg) : Jpeg :=
  if s.flagCreate then
    let s := openJpeg mode answers s
    if s.returned ≠ errorNone then s
    else
      let (ret, log) := sendAll answers s.jpegFd (configRequests mode) 1 s.log
      { s with log := log, returned := ret }
  else { s with returned := errorJpegDeviceNotCreateYet }

/-- The requests of `execute`. -/
def executeRequests : List (Request × Int) :=
  [(.qBuf .output, errorExcuteFail), (.qBuf .capture, errorExcuteFail),
    (.streamOn .output, errorExcuteFail), (.streamOn .capture, errorExcuteFail),
    (.dqBuf .output, errorExcuteFail), (.dqBuf .capture, errorExcuteFail)]

/-- `execute`. -/
def execute (answers : CallAnswers) (s : Jpeg) : Jpeg :=
  if s.flagCreate then
    let (ret, log) := sendAll answers s.jpegFd executeRequests 0 s.log
    { s with flagExcute := true, log := log, returned := ret }
  else { s with returned := errorJpegDeviceNotCreateYet }

/-- What has to be sent for a descriptor on which streaming was started. -/
def releaseRequests : List Request :=
  [.streamOff .output, .streamOff .capture, .reqBufs .output 0, .reqBufs .capture 0]

/-- The requests that `destroy` sends for an object that has executed; their
failures are ignored. -/
def releaseEvents (answers : CallAnswers) (fd : Int) : List JpegEvent :=
  releaseRequests.mapIdx fun n request => .ioctl fd request (answers.ioctl n)

/-- `destroy`. -/
def destroy (answers : CallAnswers) (s : Jpeg) : Jpeg :=
  if s.flagCreate then
    let log :=
      if 0 < s.jpegFd then
        s.log ++ (if s.flagExcute then releaseEvents answers s.jpegFd else []) ++
          [.closed s.jpegFd]
      else s.log
    { s with jpegFd := -1, flagCreate := false, log := log, returned := errorNone }
  else { s with returned := errorJpegDeviceAlreadyDestroy }

/-! ## Runs -/

/-- What an event is for the descriptors; the kernel has none for a negative
number. -/
def JpegEvent.onDescriptor : JpegEvent → Option (ResourceLog.Event Int)
  | .opened fd _ => some (.opened fd)
  | .ioctl fd _ _ => if fd < 0 then none else some (.used fd)
  | .closed fd => some (.closed fd)

/-- The log of the descriptors. -/
def Jpeg.descriptors (s : Jpeg) : List (ResourceLog.Event Int) :=
  s.log.filterMap JpegEvent.onDescriptor

/-- The descriptors that are open, unless a descriptor was used behind its
close. -/
def Jpeg.openFds (s : Jpeg) : Option (List Int) :=
  ResourceLog.openAfter [] s.descriptors

/-- One call. -/
inductive JpegLabel
  | create
  | updateConfig (answers : CallAnswers)
  | execute (answers : CallAnswers)
  | destroy (answers : CallAnswers)

/-- `open` fails or gives a positive number that is not open. -/
def Jpeg.MayOpen (s : Jpeg) (fd : Int) : Prop :=
  fd < 0 ∨ (0 < fd ∧ ∀ fds ∈ s.openFds, fd ∉ fds)

instance (s : Jpeg) (fd : Int) : Decidable (s.MayOpen fd) :=
  inferInstanceAs (Decidable (_ ∨ (_ ∧ _)))

/-- One step of an encoder or a decoder. -/
def jpegStep (mode : Mode) (s : Jpeg) : JpegLabel → Option Jpeg
  | .create => some (create s)
  | .updateConfig answers =>
      if s.MayOpen answers.openNode then some (updateConfig mode answers s) else none
  | .execute answers => some (execute answers s)
  | .destroy answers => some (destroy answers s)

/-- All sequences of calls on one object. -/
def JpegSystem (mode : Mode) : TransitionSystem Jpeg JpegLabel where
  step := jpegStep mode

/-! ## The property -/

/-- A request starts the streaming of a queue. -/
def Request.startsStream : Request → Bool
  | .streamOn _ => true
  | _ => false

/-- The requests on a descriptor since it was opened, with their results. -/
def lifetime (fd : Int) (log : List JpegEvent) : List (Request × Bool) :=
  log.foldl (fun requests event =>
    match event with
    | .opened fd' _ => if fd' = fd then [] else requests
    | .ioctl fd' request ok =>
        if fd' = fd then requests ++ [(request, ok)] else requests
    | .closed _ => requests) []

/-- Everything that starts streaming is followed by all releasing requests. -/
def Released : List (Request × Bool) → Prop
  | [] => True
  | (request, ok) :: rest =>
      (ok = true → request.startsStream = true →
        ∀ r ∈ releaseRequests, r ∈ rest.map Prod.fst) ∧ Released rest

/-- At each close the requests on the descriptor have released it. -/
def ReleasedAtClose (log : List JpegEvent) : Prop :=
  ∀ before fd after, log = before ++ .closed fd :: after → Released (lifetime fd before)

/-- No descriptor is used or closed behind its close, an object that is not
created has closed each of its descriptors, and streaming ends before that. -/
structure DescriptorsKept (s : Jpeg) : Prop where
  sound : ResourceLog.Sound s.descriptors
  balanced : s.flagCreate = false → ResourceLog.Balanced s.descriptors
  released : ReleasedAtClose s.log

/-- An object is configured while none of its descriptors is open, and it is
executed or destroyed while it stores no descriptor or one that is open. -/
def KeepsDescriptor (s : Jpeg) : JpegLabel → Prop
  | .create => True
  | .updateConfig _ => s.flagCreate = true → s.openFds = some []
  | .execute _ => s.flagCreate = true → s.jpegFd ≤ 0 ∨ s.openFds = some [s.jpegFd]
  | .destroy _ => s.flagCreate = true → s.jpegFd ≤ 0 ∨ s.openFds = some [s.jpegFd]

instance (s : Jpeg) (label : JpegLabel) : Decidable (KeepsDescriptor s label) :=
  match label with
  | .create => isTrue trivial
  | .updateConfig _ => inferInstanceAs (Decidable (_ → _))
  | .execute _ => inferInstanceAs (Decidable (_ → _ ∨ _))
  | .destroy _ => inferInstanceAs (Decidable (_ → _ ∨ _))

/-! ## Logs -/

theorem openFds_append {s t : Jpeg} {fds : List Int} {more : List JpegEvent}
    (hlog : t.log = s.log ++ more) (h : s.openFds = some fds) :
    t.openFds = ResourceLog.openAfter fds (more.filterMap JpegEvent.onDescriptor) := by
  rw [Jpeg.openFds, Jpeg.descriptors, hlog, List.filterMap_append]
  exact ResourceLog.openAfter_append_of h _

/-- The events of requests on one descriptor. -/
def RequestsOn (fd : Int) (requests : List Request) (events : List JpegEvent) : Prop :=
  ∀ e ∈ events, ∃ request ok, e = .ioctl fd request ok ∧ request ∈ requests

/-- Requests go to the descriptor that is open, or to none. -/
theorem RequestsOn.openAfter {fd : Int} {requests : List Request}
    {events : List JpegEvent} (h : RequestsOn fd requests events) {fds : List Int}
    (hfd : fd < 0 ∨ fd ∈ fds) :
    ResourceLog.openAfter fds (events.filterMap JpegEvent.onDescriptor) = some fds := by
  induction events with
  | nil => rfl
  | cons e events ih =>
      obtain ⟨request, ok, rfl, -⟩ := h e List.mem_cons_self
      have hrest := ih fun e he => h e (List.mem_cons_of_mem _ he)
      by_cases hneg : fd < 0
      · simpa [JpegEvent.onDescriptor, hneg] using hrest
      · have hmem := hfd.resolve_left hneg
        simpa [JpegEvent.onDescriptor, hneg, ResourceLog.openAfter, hmem] using hrest

theorem RequestsOn.lifetime {fd : Int} {requests : List Request}
    {events : List JpegEvent} (h : RequestsOn fd requests events)
    (log : List JpegEvent) :
    ∃ more, HwJpeg.lifetime fd (log ++ events) = HwJpeg.lifetime fd log ++ more ∧
      ∀ r ∈ more, r.1 ∈ requests := by
  induction events generalizing log with
  | nil => exact ⟨[], by simp, fun _ hr => absurd hr List.not_mem_nil⟩
  | cons e events ih =>
      obtain ⟨request, ok, rfl, hmem⟩ := h e List.mem_cons_self
      obtain ⟨more, hmore, hrest⟩ :=
        ih (fun e he => h e (List.mem_cons_of_mem _ he)) (log ++ [.ioctl fd request ok])
      refine ⟨(request, ok) :: more, ?_, ?_⟩
      · rw [List.append_cons, hmore]
        simp [HwJpeg.lifetime]
      · intro r hr
        rcases List.mem_cons.mp hr with rfl | hr
        · exact hmem
        · exact hrest r hr

theorem ReleasedAtClose.snoc {log : List JpegEvent} (hlog : ReleasedAtClose log)
    {e : JpegEvent} (h : ∀ fd, e = .closed fd → Released (HwJpeg.lifetime fd log)) :
    ReleasedAtClose (log ++ [e]) := by
  intro before fd after heq
  cases after using List.reverseRecOn with
  | nil =>
      obtain ⟨rfl, hlast⟩ := List.append_inj' heq rfl
      exact h fd (List.cons.inj hlast).1
  | append_singleton after e' =>
      rw [← List.cons_append, ← List.append_assoc] at heq
      obtain ⟨hinit, -⟩ := List.append_inj' heq rfl
      exact hlog before fd after hinit

theorem RequestsOn.releasedAtClose {fd : Int} {requests : List Request}
    {events log : List JpegEvent} (h : RequestsOn fd requests events)
    (hlog : ReleasedAtClose log) : ReleasedAtClose (log ++ events) := by
  induction events generalizing log with
  | nil => simpa using hlog
  | cons e events ih =>
      obtain ⟨request, ok, rfl, -⟩ := h e List.mem_cons_self
      rw [List.append_cons]
      exact ih (fun e he => h e (List.mem_cons_of_mem _ he))
        (hlog.snoc fun fd' he => by cases he)

/-- Nothing has started streaming. -/
def NoStream (requests : List (Request × Bool)) : Prop :=
  ∀ r ∈ requests, r.1.startsStream = false

theorem NoStream.released {requests : List (Request × Bool)} (h : NoStream requests) :
    Released requests := by
  induction requests with
  | nil => trivial
  | cons r rest ih =>
      refine ⟨fun _ hstarts => ?_, ih fun r hr => h r (List.mem_cons_of_mem _ hr)⟩
      rw [h r List.mem_cons_self] at hstarts
      cases hstarts

theorem released_append {requests more : List (Request × Bool)}
    (hmore : ∀ r ∈ releaseRequests, r ∈ more.map Prod.fst) (hno : NoStream more) :
    Released (requests ++ more) := by
  induction requests with
  | nil => exact hno.released
  | cons r rest ih =>
      rw [List.cons_append]
      refine ⟨fun _ _ c hc => ?_, ih⟩
      rw [List.map_append]
      exact List.mem_append_right _ (hmore c hc)

/-! ## Calls -/

theorem sendAll_events (answers : CallAnswers) (fd : Int) (l : List (Request × Int))
    (n : Nat) (log : List JpegEvent) :
    ∃ events, (sendAll answers fd l n log).2 = log ++ events ∧
      RequestsOn fd (l.map Prod.fst) events := by
  induction l generalizing n log with
  | nil => exact ⟨[], by simp [sendAll], fun _ he => absurd he List.not_mem_nil⟩
  | cons r rest ih =>
      obtain ⟨request, err⟩ := r
      set e : JpegEvent := .ioctl fd request (answers.ioctl n) with he
      have hfirst : RequestsOn fd (((request, err) :: rest).map Prod.fst) [e] := by
        intro e' he'
        obtain rfl := List.mem_singleton.mp he'
        exact ⟨request, answers.ioctl n, rfl, List.mem_cons_self⟩
      by_cases hok : answers.ioctl n = true
      · obtain ⟨events, hevents, hon⟩ := ih (n + 1) (log ++ [e])
        refine ⟨e :: events, ?_, ?_⟩
        · simp only [sendAll, hok, if_true]
          rw [List.append_cons log e events, ← hevents, he, hok]
        · intro e' he'
          rcases List.mem_cons.mp he' with rfl | he'
          · exact hfirst _ List.mem_cons_self
          · obtain ⟨request', ok, heq, hmem⟩ := hon e' he'
            exact ⟨request', ok, heq, List.mem_cons_of_mem _ hmem⟩
      · exact ⟨[e], by simp [sendAll, hok, he], hfirst⟩

theorem releaseEvents_on (answers : CallAnswers) (fd : Int) :
    RequestsOn fd releaseRequests (releaseEvents answers fd) := by
  intro e he
  obtain ⟨n, hn, rfl⟩ := List.mem_mapIdx.mp he
  exact ⟨_, _, rfl, List.getElem_mem hn⟩

theorem lifetime_releaseEvents (answers : CallAnswers) (fd : Int)
    (log : List JpegEvent) :
    lifetime fd (log ++ releaseEvents answers fd) =
      lifetime fd log ++ releaseRequests.mapIdx fun n request =>
        (request, answers.ioctl n) := by
  simp [lifetime, releaseEvents, releaseRequests]

/-- What holds between the calls: nothing is open, or the stored descriptor. -/
structure Keeps (s : Jpeg) : Prop where
  released : ReleasedAtClose s.log
  selectNode : s.flagCreate = true → s.selectNode = 0
  nonzero : s.jpegFd ≠ 0
  fds : s.openFds = some [] ∨
    (s.flagCreate = true ∧ 0 < s.jpegFd ∧ s.openFds = some [s.jpegFd] ∧
      (s.flagExcute = false → NoStream (lifetime s.jpegFd s.log)))

theorem init_keeps : Keeps Jpeg.init where
  released := by
    intro before fd after h
    cases before <;> cases h
  selectNode := fun h => by cases h
  nonzero := by decide
  fds := Or.inl rfl

theorem Keeps.descriptorsKept {s : Jpeg} (h : Keeps s) : DescriptorsKept s where
  sound := by
    intro hnone
    rcases h.fds with hfds | ⟨-, -, hfds, -⟩
    · exact Option.some_ne_none _ (hfds.symm.trans hnone)
    · exact Option.some_ne_none _ (hfds.symm.trans hnone)
  balanced := by
    intro hcreated
    rcases h.fds with hfds | ⟨hcreate, -⟩
    · exact hfds
    · rw [hcreated] at hcreate
      cases hcreate
  released := h.released

theorem Keeps.create {s : Jpeg} (h : Keeps s) : Keeps (create s) := by
  unfold HwJpeg.create
  split
  · exact ⟨h.released, h.selectNode, h.nonzero, h.fds⟩
  · rename_i hcreate
    refine ⟨h.released, fun _ => rfl, h.nonzero, Or.inl ?_⟩
    exact h.fds.resolve_right fun hopen => hcreate hopen.1

theorem openNode_failed {mode : Mode} {answers : CallAnswers} {s : Jpeg}
    (hselect : s.selectNode = 0) (hfail : answers.openNode < 0) :
    openNode mode answers s =
      { s with jpegFd := -1, returned := errorCannotOpenJpegDevice } := by
  cases mode <;> simp [openNode, deviceNode, hselect, hfail]

theorem openNode_opened {mode : Mode} {answers : CallAnswers} {s : Jpeg}
    (hselect : s.selectNode = 0) (hpos : 0 < answers.openNode) :
    ∃ node, openNode mode answers s =
      { s with jpegFd := answers.openNode
               log := s.log ++ [.opened answers.openNode node]
               returned := errorNone } := by
  have hneg : ¬ answers.openNode < 0 := by omega
  have hle : ¬ answers.openNode ≤ 0 := by omega
  cases mode <;> simp [openNode, deviceNode, hselect, hneg, hle]

theorem openJpeg_failed {mode : Mode} {answers : CallAnswers} {s : Jpeg}
    (hselect : s.selectNode = 0) (hfail : answers.openNode < 0) :
    openJpeg mode answers s =
      { s with jpegFd := -1, returned := errorCannotOpenJpegDevice } := by
  rw [openJpeg, openNode_failed hselect hfail]
  exact if_pos (by decide : errorCannotOpenJpegDevice ≠ errorNone)

theorem openJpeg_opened {mode : Mode} {answers : CallAnswers} {s : Jpeg}
    (hselect : s.selectNode = 0) (hpos : 0 < answers.openNode) :
    ∃ node, openJpeg mode answers s =
      if answers.ioctl 0 = true then
        { s with jpegFd := answers.openNode
                 log := s.log ++ [.opened answers.openNode node] ++
                   [.ioctl answers.openNode .queryCap true]
                 returned := errorNone }
      else
        { s with jpegFd := answers.openNode
                 log := s.log ++ [.opened answers.openNode node] ++
                   [.ioctl answers.openNode .queryCap false] ++
                   [.closed answers.openNode]
                 returned := errorCannotOpenJpegDevice } := by
  obtain ⟨node, hopen⟩ := @openNode_opened mode answers s hselect hpos
  refine ⟨node, ?_⟩
  rw [openJpeg, hopen]
  by_cases hquery : answers.ioctl 0 = true <;> simp [hquery]

theorem configRequests_noStream (mode : Mode) :
    ∀ r ∈ (configRequests mode).map Prod.fst, r.startsStream = false := by
  cases mode <;> decide

theorem Keeps.updateConfig {s : Jpeg} (h : Keeps s) (mode : Mode)
    {answers : CallAnswers} (hkeep : s.flagCreate = true → s.openFds = some [])
    (hmay : s.MayOpen answers.openNode) : Keeps (updateConfig mode answers s) := by
  unfold HwJpeg.updateConfig
  by_cases hcreate : s.flagCreate = true
  · have hnone := hkeep hcreate
    have hselect := h.selectNode hcreate
    rw [if_pos hcreate]
    rcases hmay with hfail | ⟨hpos, -⟩
    · have hne : errorCannotOpenJpegDevice ≠ errorNone := by decide
      simp only [openJpeg_failed hselect hfail, hne, ne_eq, not_false_eq_true, if_true]
      exact ⟨h.released, fun _ => hselect, (by decide : (-1 : Int) ≠ 0), Or.inl hnone⟩
    · obtain ⟨node, hopen⟩ := @openJpeg_opened mode answers s hselect hpos
      have hneg : ¬ answers.openNode < 0 := by omega
      have hnonzero : answers.openNode ≠ 0 := by omega
      set fd := answers.openNode with hfd
      -- the first two calls on the new descriptor
      have hfirst : ∀ ok, ReleasedAtClose (s.log ++ [.opened fd node] ++
          [.ioctl fd .queryCap ok]) := fun ok =>
        (h.released.snoc fun _ he => by cases he).snoc fun _ he => by cases he
      have hlife : ∀ ok, lifetime fd (s.log ++ [.opened fd node] ++
          [.ioctl fd .queryCap ok]) = [(.queryCap, ok)] := fun ok => by
        simp [lifetime]
      by_cases hquery : answers.ioctl 0 = true
      · have hok : ¬ (errorNone ≠ errorNone) := fun hne => hne rfl
        obtain ⟨events, hevents, hon⟩ := sendAll_events answers fd (configRequests mode) 1
          (s.log ++ [.opened fd node] ++ [.ioctl fd .queryCap true])
        rw [if_pos hquery] at hopen
        simp only [hopen, hok, if_false, hevents]
        refine ⟨hon.releasedAtClose (hfirst true), fun _ => hselect, hnonzero,
          Or.inr ⟨hcreate, hpos, ?_, fun _ => ?_⟩⟩
        · rw [openFds_append (show _ = s.log ++ (.opened fd node ::
            .ioctl fd .queryCap true :: events) by simp) hnone]
          simp only [List.filterMap_cons, JpegEvent.onDescriptor, hneg, if_false,
            ResourceLog.openAfter, List.not_mem_nil, List.mem_singleton, if_true]
          exact hon.openAfter (Or.inr List.mem_cons_self)
        · obtain ⟨more, hmore, hmem⟩ := hon.lifetime
            (s.log ++ [.opened fd node] ++ [.ioctl fd .queryCap true])
          rw [hmore, hlife]
          intro r hr
          rcases List.mem_append.mp hr with hr | hr
          · rw [List.mem_singleton.mp hr]
            rfl
          · exact configRequests_noStream mode r.1 (hmem r hr)
      · have hne : errorCannotOpenJpegDevice ≠ errorNone := by decide
        rw [if_neg hquery] at hopen
        simp only [hopen, hne, ne_eq, not_false_eq_true, if_true]
        refine ⟨?_, fun _ => hselect, hnonzero, Or.inl ?_⟩
        · refine (hfirst false).snoc fun fd' he => ?_
          cases he
          rw [hlife]
          exact ⟨fun hok => absurd hok Bool.false_ne_true, trivial⟩
        · rw [openFds_append (show _ = s.log ++ [.opened fd node,
            .ioctl fd .queryCap false, .closed fd] by simp) hnone]
          simp [JpegEvent.onDescriptor, hneg, ResourceLog.openAfter]
  · rw [if_neg hcreate]
    exact ⟨h.released, h.selectNode, h.nonzero, h.fds⟩

/-- Executing sends requests to the stored descriptor, if there is one. -/
theorem Keeps.execute {s : Jpeg} (h : Keeps s) (answers : CallAnswers)
    (hkeep : s.flagCreate = true → s.jpegFd ≤ 0 ∨ s.openFds = some [s.jpegFd]) :
    Keeps (execute answers s) := by
  unfold HwJpeg.execute
  by_cases hcreate : s.flagCreate = true
  · obtain ⟨events, hevents, hon⟩ := sendAll_events answers s.jpegFd executeRequests 0 s.log
    simp only [if_pos hcreate, hevents]
    refine ⟨hon.releasedAtClose h.released, h.selectNode, h.nonzero, ?_⟩
    have hnegative : s.jpegFd ≤ 0 → s.jpegFd < 0 := fun hle =>
      lt_of_le_of_ne hle h.nonzero
    rcases h.fds with hnone | ⟨-, hpos, hone, -⟩
    · have hle : s.jpegFd ≤ 0 := (hkeep hcreate).resolve_right fun hone => by
        rw [hnone] at hone
        cases hone
      refine Or.inl ?_
      rw [openFds_append rfl hnone]
      exact hon.openAfter (Or.inl (hnegative hle))
    · refine Or.inr ⟨hcreate, hpos, ?_, fun hfalse => absurd hfalse.symm Bool.false_ne_true⟩
      rw [openFds_append rfl hone]
      exact hon.openAfter (Or.inr List.mem_cons_self)
  · rw [if_neg hcreate]
    exact ⟨h.released, h.selectNode, h.nonzero, h.fds⟩

theorem Keeps.destroy {s : Jpeg} (h : Keeps s) (answers : CallAnswers)
    (hkeep : s.flagCreate = true → s.jpegFd ≤ 0 ∨ s.openFds = some [s.jpegFd]) :
    Keeps (destroy answers s) := by
  unfold HwJpeg.destroy
  by_cases hcreate : s.flagCreate = true
  · rw [if_pos hcreate]
    by_cases hpos : 0 < s.jpegFd
    · have hone : s.openFds = some [s.jpegFd] :=
        (hkeep hcreate).resolve_left (by omega)
      have hneg : ¬ s.jpegFd < 0 := by omega
      have hidle : s.flagExcute = false → NoStream (lifetime s.jpegFd s.log) := by
        rcases h.fds with hnone | ⟨-, -, -, hidle⟩
        · rw [hone] at hnone
          cases hnone
        · exact hidle
      cases hexcute : s.flagExcute with
      | false =>
          simp only [if_pos hpos, Bool.false_eq_true, if_false, List.append_nil]
          refine ⟨h.released.snoc fun fd he => ?_, fun hfalse => absurd hfalse Bool.false_ne_true,
            (by decide : (-1 : Int) ≠ 0), Or.inl ?_⟩
          · cases he
            exact (hidle hexcute).released
          · rw [openFds_append rfl hone]
            simp [JpegEvent.onDescriptor, ResourceLog.openAfter]
      | true =>
          have hon := releaseEvents_on answers s.jpegFd
          simp only [if_pos hpos, if_true]
          refine ⟨(hon.releasedAtClose h.released).snoc fun fd he => ?_,
            fun hfalse => absurd hfalse Bool.false_ne_true,
            (by decide : (-1 : Int) ≠ 0), Or.inl ?_⟩
          · cases he
            rw [lifetime_releaseEvents]
            refine released_append ?_ ?_
            · simp [releaseRequests]
            · simp [NoStream, releaseRequests, Request.startsStream]
          · rw [openFds_append (List.append_assoc _ _ _) hone, List.filterMap_append,
              ResourceLog.openAfter_append_of (hon.openAfter (Or.inr List.mem_cons_self))]
            simp [JpegEvent.onDescriptor, ResourceLog.openAfter]
    · simp only [if_neg hpos]
      refine ⟨h.released, fun hfalse => absurd hfalse Bool.false_ne_true,
        (by decide : (-1 : Int) ≠ 0), Or.inl ?_⟩
      exact h.fds.resolve_right fun hopen => hpos hopen.2.1
  · rw [if_neg hcreate]
    exact ⟨h.released, h.selectNode, h.nonzero, h.fds⟩

theorem jpegStep_keeps {mode : Mode} {s t : Jpeg} {label : JpegLabel} (h : Keeps s)
    (hkeep : KeepsDescriptor s label) (hstep : jpegStep mode s label = some t) :
    Keeps t := by
  cases label with
  | create =>
      cases hstep
      exact h.create
  | updateConfig answers =>
      simp only [jpegStep] at hstep
      split at hstep
      · rename_i hmay
        cases hstep
        exact h.updateConfig mode hkeep hmay
      · cases hstep
  | execute answers =>
      cases hstep
      exact h.execute answers hkeep
  | destroy answers =>
      cases hstep
      exact h.destroy answers hkeep

/-- In a run whose calls keep the descriptor, every descriptor is closed once by
the time the object is not created, released, and not used after that. -/
theorem descriptorsKept_run {mode : Mode} {labels : List JpegLabel} {t : Jpeg}
    (hkeep : (JpegSystem mode).StepsMeet KeepsDescriptor Jpeg.init labels)
    (hrun : (JpegSystem mode).run Jpeg.init labels = some t) : DescriptorsKept t :=
  (TransitionSystem.run_invariant (fun _ _ _ => jpegStep_keeps) init_keeps hkeep
    hrun).descriptorsKept

/-- The node is opened as descriptor 5 and every request succeeds. -/
def working : CallAnswers := ⟨5, fun _ => true⟩

/-- The node is opened as descriptor 5 but does not answer. -/
def silent : CallAnswers := ⟨5, fun _ => false⟩

/-- An encoder is configured again when the node does not answer, and encodes
twice, the second time without success. -/
def encodeTwice : List JpegLabel :=
  [.create, .updateConfig silent, .updateConfig working, .execute working,
    .execute silent, .destroy working]

theorem descriptorsKept_run_encoded :
    ∃ t, (JpegSystem .encode).run Jpeg.init encodeTwice = some t ∧ DescriptorsKept t :=
  ⟨_, rfl, @descriptorsKept_run .encode encodeTwice _ (by decide) rfl⟩

/-- A descriptor that does not answer is closed twice. -/
theorem not_descriptorsKept :
    ¬ ∀ (mode : Mode) (labels : List JpegLabel) (t : Jpeg),
      (JpegSystem mode).run Jpeg.init labels = some t → DescriptorsKept t := by
  intro h
  exact (h .encode [.create, .updateConfig silent, .destroy silent] _ rfl).sound rfl

end HwJpeg
end Exynos8890
