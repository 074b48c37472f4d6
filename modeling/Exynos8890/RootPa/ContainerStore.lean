import Exynos8890.MobiCore.RegistryStore

/-!
# Storing the containers of a response

After a content management command the root provisioning agent stores the containers of
the response in the registry.  A command delivers one container or two, and some commands
delete one.  Each kind of command has its own order of the registry calls, and its own way
to combine their results.

Main results:

- Definition `storeContainers`: the registry calls of a command, and the result.
- Theorem `transactional_iff`: for which results of the calls everything is stored or
  nothing.
- Theorem `not_transactional`: a service provider stays registered whose root container
  could not be stored.
-/

namespace Exynos8890.RootPa

open MobiCore RegistryStore

/-! ## Registry calls -/

/-- `cmpCommandId_t`. -/
inductive CmpCommandId where
  | authenticate
  | beginRootAuthentication
  | beginSocAuthentication
  | beginSpAuthentication
  | generateAuthToken
  | getVersion
  | rootContLockByRoot
  | rootContRegisterActivate
  | rootContUnlockByRoot
  | rootContUnregister
  | spContActivate
  | spContLockByRoot
  | spContLockBySp
  | spContRegister
  | spContRegisterActivate
  | spContUnlockByRoot
  | spContUnlockBySp
  | spContUnregister
  | tltContActivate
  | tltContLockBySp
  | tltContPersonalize
  | tltContRegister
  | tltContRegisterActivate
  | tltContUnlockBySp
  | tltContUnregister
  | getSuid
  | authenticateTerminate
deriving DecidableEq, Repr

/-- What a container holds. -/
abbrev ContainerBytes := List UInt8

/-- The containers of the registry. -/
abbrev Containers := ContainerKey → Option ContainerBytes

/-- The calls of `registry.c`. -/
inductive RegistryCall where
  | write (key : ContainerKey) (so : ContainerBytes)
  | readAuthToken
  | deleteAuthToken
  | cleanup (key : ContainerKey)
deriving DecidableEq

/-- The results of the calls, what the buffer for the token holds when it is not read, if
there is one, and what the registry deletes together with a container. -/
structure RegistryAnswers where
  answer : RegistryCall → McResult
  buffer : Option ContainerBytes
  below : ContainerKey → ContainerKey → Bool

/-- The service provider and the trustlet of the command, `spid_` and `tltUuid_`. -/
structure CmpTarget where
  spid : UInt32
  uuid : McUuid

def CmpTarget.sp (target : CmpTarget) : ContainerKey :=
  .spCont target.spid

def CmpTarget.tlt (target : CmpTarget) : ContainerKey :=
  .tlCont target.uuid target.spid

/-- The registry, and the calls that have been made. -/
structure RegistryTrace where
  containers : Containers
  calls : List (RegistryCall × McResult)

/-- What a call that succeeds does to the registry. -/
def RegistryCall.effect (host : RegistryAnswers) (containers : Containers) :
    RegistryCall → Containers
  | write key so => Function.update containers key (some so)
  | readAuthToken => containers
  | deleteAuthToken => Function.update containers .authToken none
  | cleanup key => fun other =>
      if other = key ∨ host.below key other = true then none else containers other

/-- Make a call.  A call that fails leaves the registry as it is. -/
def RegistryTrace.call (host : RegistryAnswers) (t : RegistryTrace) (c : RegistryCall) :
    RegistryTrace where
  containers := if host.answer c = mcDrvOk then c.effect host t.containers else t.containers
  calls := t.calls ++ [(c, host.answer c)]

/-- `authTokenP` after `regReadAuthToken`: a buffer is allocated whether or not the token
is read. -/
def authTokenBuffer (host : RegistryAnswers) (containers : Containers) :
    Option ContainerBytes :=
  if host.answer .readAuthToken = mcDrvOk then containers .authToken <|> host.buffer
  else host.buffer

/-! ## Commands -/

/-- `-1`, for a response without the element. -/
def noElement : McResult := 0xFFFFFFFF

/-- Store the next element of the response. -/
def storeElement (host : RegistryAnswers) (key : ContainerKey) (elements : List ContainerBytes)
    (t : RegistryTrace) : McResult × RegistryTrace :=
  match elements with
  | [] => (noElement, t)
  | so :: _ => (host.answer (.write key so), t.call host (.write key so))

/-- `MC_CMP_CMD_ROOT_CONT_REGISTER_ACTIVATE`: the token goes when the root container is
stored. -/
def storeRegisteredRoot (host : RegistryAnswers) (elements : List ContainerBytes)
    (t : RegistryTrace) : McResult × RegistryTrace :=
  let (mcRet, t) := storeElement host .rootCont elements t
  if mcRet = mcDrvOk then
    let authTokenP := authTokenBuffer host t.containers
    -- the result of the read is only logged
    let t := t.call host .readAuthToken
    let mcRet := host.answer .deleteAuthToken
    let t := t.call host .deleteAuthToken
    if mcRet ≠ mcDrvOk then
      match authTokenP with
      | none => (mcRet, t)
      | some authToken =>
          let mcRet := host.answer (.write .authToken authToken)
          let t := t.call host (.write .authToken authToken)
          if mcRet = mcDrvOk then (mcRet, t.call host (.cleanup .rootCont)) else (mcRet, t)
    else (mcRet, t)
  else (mcRet, t)

/-- `MC_CMP_CMD_SP_CONT_REGISTER` and `.._REGISTER_ACTIVATE`: the root container is first in
the response, and stored last. -/
def storeRegisteredSp (host : RegistryAnswers) (target : CmpTarget)
    (elements : List ContainerBytes) (t : RegistryTrace) : McResult × RegistryTrace :=
  match elements with
  | [] => (noElement, t)
  | root :: elements =>
      let (mcRet, t) := storeElement host target.sp elements t
      if mcRet = mcDrvOk then
        (host.answer (.write .rootCont root), t.call host (.write .rootCont root))
      else (mcRet, t)

/-- `MC_CMP_CMD_TLT_CONT_REGISTER` and `.._REGISTER_ACTIVATE`: the container of the service
provider is first in the response, and stored last. -/
def storeRegisteredTlt (host : RegistryAnswers) (target : CmpTarget)
    (elements : List ContainerBytes) (t : RegistryTrace) : McResult × RegistryTrace :=
  match elements with
  | [] => (noElement, t)
  | sp :: elements =>
      let (mcRet, t) := storeElement host target.tlt elements t
      if mcRet = mcDrvOk then
        let mcRet := host.answer (.write target.sp sp)
        let t := t.call host (.write target.sp sp)
        if mcRet ≠ mcDrvOk then (mcRet, t.call host (.cleanup target.tlt)) else (mcRet, t)
      else (mcRet, t)

/-- `MC_CMP_CMD_SP_CONT_UNREGISTER` and `MC_CMP_CMD_TLT_CONT_UNREGISTER`: the result of the
deletion is overwritten by the one of storing the parent. -/
def storeUnregistered (host : RegistryAnswers) (deleted parent : ContainerKey)
    (elements : List ContainerBytes) (t : RegistryTrace) : McResult × RegistryTrace :=
  storeElement host parent elements (t.call host (.cleanup deleted))

/-- `storeContainers`; `elements` are the elements of the response behind the one that is
returned to the client. -/
def storeContainers (host : RegistryAnswers) (target : CmpTarget) (commandId : CmpCommandId)
    (elements : List ContainerBytes) (t : RegistryTrace) : McResult × RegistryTrace :=
  match commandId with
  | .generateAuthToken => storeElement host .authToken elements t
  | .rootContRegisterActivate => storeRegisteredRoot host elements t
  | .rootContLockByRoot | .rootContUnlockByRoot => storeElement host .rootCont elements t
  | .rootContUnregister => (host.answer (.cleanup .rootCont), t.call host (.cleanup .rootCont))
  | .spContUnlockByRoot | .spContUnlockBySp | .spContActivate | .spContLockByRoot
  | .spContLockBySp => storeElement host target.sp elements t
  | .spContRegister | .spContRegisterActivate => storeRegisteredSp host target elements t
  | .spContUnregister => storeUnregistered host target.sp .rootCont elements t
  | .tltContRegister | .tltContRegisterActivate => storeRegisteredTlt host target elements t
  | .tltContActivate | .tltContLockBySp | .tltContUnlockBySp =>
      storeElement host target.tlt elements t
  | .tltContUnregister => storeUnregistered host target.tlt target.sp elements t
  | _ => (mcDrvOk, t)

/-! ## The response -/

/-- `rootpaerror_t`. -/
inductive RootPaError where
  | ok
  | commandNotSupported
  | lock
  | commandExecution
  | registry
  | mobicoreConnection
  | outOfMemory
  | internal
  | illegalArgument
  | network
  | xml
  | registryObjectNotAvailable
  | seCmpVersion
  | sePreconditionNotMet
  | internalNoContainer
deriving DecidableEq, Repr

/-- What `handleResponse` finds in the buffers of the trustlet: whether the response is one
to the command, whether there is memory for a copy, its elements, and whether its return
code is `SUCCESSFUL`. -/
structure CmpResponse where
  valid : Bool
  allocated : Bool
  elements : List ContainerBytes
  successful : Bool

/-- `handleResponse`. -/
def handleResponse (host : RegistryAnswers) (target : CmpTarget) (commandId : CmpCommandId)
    (rsp : CmpResponse) (t : RegistryTrace) : RootPaError × RegistryTrace :=
  if rsp.valid = false then (.commandExecution, t)
  else
    match rsp.elements with
    | [] => (.internal, t)
    | _ :: elements =>
        if rsp.allocated = false then (.outOfMemory, t)
        else if rsp.successful = false then (.commandExecution, t)
        else
          let (mcRet, t) := storeContainers host target commandId elements t
          if mcRet ≠ mcDrvOk then
            (if mcRet = noElement then .internal else .registry, t)
          else (.ok, t)

/-- A command is reported as done only after its containers were stored. -/
theorem handleResponse_ok {host : RegistryAnswers} {target : CmpTarget}
    {commandId : CmpCommandId} {rsp : CmpResponse} {t t' : RegistryTrace}
    (h : handleResponse host target commandId rsp t = (.ok, t')) :
    storeContainers host target commandId rsp.elements.tail t = (mcDrvOk, t') := by
  unfold handleResponse at h
  split at h
  · cases h
  · split at h
    · cases h
    · rename_i elements helements
      rw [helements, List.tail_cons]
      split at h
      · cases h
      · split at h
        · cases h
        · dsimp only at h
          generalize storeContainers host target commandId elements t = result at h ⊢
          split at h
          · split at h <;> cases h
          · rename_i hok
            cases h
            exact Prod.ext (not_not.mp hok) rfl

/-! ## Transactions -/

section Calls

variable (host : RegistryAnswers) (t : RegistryTrace)

@[simp]
theorem calls_call (c : RegistryCall) : (t.call host c).calls = t.calls ++ [(c, host.answer c)] :=
  rfl

theorem containers_call_ok {c : RegistryCall} (h : host.answer c = mcDrvOk) :
    (t.call host c).containers = c.effect host t.containers :=
  if_pos h

theorem containers_call_failed {c : RegistryCall} (h : host.answer c ≠ mcDrvOk) :
    (t.call host c).containers = t.containers :=
  if_neg h

end Calls

/-- A result that is a success leaves what was delivered in the registry and nothing of
what is deleted; and a failed call makes the result a failure, with the containers that
were stored before as they were. -/
structure Settled (before : Containers) (delivered : List (ContainerKey × ContainerBytes))
    (deleted : List ContainerKey) (result : McResult × RegistryTrace) : Prop where
  stored : result.1 = mcDrvOk →
    (∀ p ∈ delivered, result.2.containers p.1 = some p.2) ∧
      ∀ key ∈ deleted, result.2.containers key = none
  rolledBack : (∃ c ∈ result.2.calls, c.2 ≠ mcDrvOk) →
    result.1 ≠ mcDrvOk ∧ ∀ key so, (.write key so, mcDrvOk) ∈ result.2.calls →
      result.2.containers key = before key

theorem noElement_ne_ok : noElement ≠ mcDrvOk := by
  decide

variable {host : RegistryAnswers} {before : Containers}

theorem settled_noElement (delivered : List (ContainerKey × ContainerBytes))
    (deleted : List ContainerKey) :
    Settled before delivered deleted (noElement, ⟨before, []⟩) := by
  constructor
  · exact fun h => absurd h noElement_ne_ok
  · rintro ⟨c, hc, -⟩
    exact absurd hc List.not_mem_nil

theorem settled_storeElement (key : ContainerKey) (elements : List ContainerBytes) :
    Settled before ([key].zip elements) [] (storeElement host key elements ⟨before, []⟩) := by
  cases elements with
  | nil => exact settled_noElement _ _
  | cons so elements =>
      by_cases h : host.answer (.write key so) = mcDrvOk
      · constructor
        · simp [storeElement, containers_call_ok _ _ h, RegistryCall.effect]
        · simp [storeElement, h]
      · constructor
        · exact fun hok => absurd hok h
        · simp [storeElement, h, Ne.symm h]

theorem settled_cleanup (key : ContainerKey) :
    Settled before [] [key]
      (host.answer (.cleanup key), RegistryTrace.call host ⟨before, []⟩ (.cleanup key)) := by
  by_cases h : host.answer (.cleanup key) = mcDrvOk
  · constructor
    · simp [containers_call_ok _ _ h, RegistryCall.effect]
    · simp [h]
  · constructor
    · exact fun hok => absurd hok h
    · simp [h]

/-- Where the child is deleted and the parent stored, a failed deletion must be followed by
another failure. -/
theorem settled_unregistered_iff {deleted parent : ContainerKey} (hne : deleted ≠ parent)
    (elements : List ContainerBytes) :
    Settled before ([parent].zip elements) [deleted]
        (storeUnregistered host deleted parent elements ⟨before, []⟩) ↔
      ∀ so ∈ elements.head?, host.answer (.cleanup deleted) = mcDrvOk ∨
        host.answer (.write parent so) ≠ mcDrvOk := by
  cases elements with
  | nil =>
      apply iff_of_true
      · constructor
        · exact fun h => absurd h noElement_ne_ok
        · intro _
          refine ⟨noElement_ne_ok, ?_⟩
          simp [storeUnregistered, storeElement]
      · intro so hso
        cases hso
  | cons so elements =>
      simp only [List.head?_cons, Option.mem_some_iff, forall_eq']
      by_cases hwrite : host.answer (.write parent so) = mcDrvOk
      · by_cases hcleanup : host.answer (.cleanup deleted) = mcDrvOk
        · apply iff_of_true _ (Or.inl hcleanup)
          constructor
          · simp [storeUnregistered, storeElement, containers_call_ok _ _ hwrite,
              containers_call_ok _ _ hcleanup, RegistryCall.effect, hne]
          · simp [storeUnregistered, storeElement, hwrite, hcleanup]
        · apply iff_of_false
          · intro h
            refine (h.rolledBack ⟨(.cleanup deleted, _), ?_, hcleanup⟩).1 hwrite
            simp [storeUnregistered, storeElement]
          · simp [hwrite, hcleanup]
      · apply iff_of_true _ (Or.inr hwrite)
        constructor
        · exact fun hok => absurd hok hwrite
        · simp [storeUnregistered, storeElement, hwrite, Ne.symm hwrite]

/-- A service provider that was stored stays when the root container cannot be stored. -/
theorem settled_registeredSp_iff (target : CmpTarget) (elements : List ContainerBytes) :
    Settled before ([.rootCont, target.sp].zip elements) []
        (storeRegisteredSp host target elements ⟨before, []⟩) ↔
      ∀ root ∈ elements.head?, ∀ sp ∈ elements.tail.head?,
        host.answer (.write target.sp sp) = mcDrvOk →
          host.answer (.write .rootCont root) = mcDrvOk ∨ before target.sp = some sp := by
  have hne : target.sp ≠ .rootCont := nofun
  match elements with
  | [] => exact iff_of_true (settled_noElement _ _) nofun
  | [root] => exact iff_of_true (settled_noElement _ _) fun _ _ => nofun
  | root :: sp :: elements =>
      simp only [List.head?_cons, List.tail_cons, Option.mem_some_iff, forall_eq']
      by_cases hsp : host.answer (.write target.sp sp) = mcDrvOk
      · by_cases hroot : host.answer (.write .rootCont root) = mcDrvOk
        · apply iff_of_true _ fun _ => Or.inl hroot
          constructor
          · simp [storeRegisteredSp, storeElement, hsp, containers_call_ok _ _ hsp,
              containers_call_ok _ _ hroot, RegistryCall.effect, hne]
          · simp [storeRegisteredSp, storeElement, hsp, hroot]
        · simp only [hsp, hroot, false_or, forall_const]
          constructor
          · intro h
            have hkept := (h.rolledBack ⟨(.write .rootCont root, _),
              by simp [storeRegisteredSp, storeElement, hsp], hroot⟩).2 target.sp sp
              (by simp [storeRegisteredSp, storeElement, hsp])
            rw [← hkept]
            simp [storeRegisteredSp, storeElement, hsp, containers_call_ok _ _ hsp,
              containers_call_failed _ _ hroot, RegistryCall.effect]
          · intro hbefore
            constructor
            · simp [storeRegisteredSp, storeElement, hsp, hroot]
            · simp [storeRegisteredSp, storeElement, hsp, hroot, Ne.symm hroot,
                containers_call_ok _ _ hsp, containers_call_failed _ _ hroot,
                RegistryCall.effect, hbefore]
      · apply iff_of_true _ fun hok => absurd hok hsp
        constructor
        · simp [storeRegisteredSp, storeElement, hsp]
        · simp [storeRegisteredSp, storeElement, hsp, Ne.symm hsp]

/-- A trustlet that was stored is deleted when the container of its service provider cannot
be stored: there must have been none, or the deletion must fail where the same was stored
before. -/
theorem settled_registeredTlt_iff (target : CmpTarget) (elements : List ContainerBytes) :
    Settled before ([target.sp, target.tlt].zip elements) []
        (storeRegisteredTlt host target elements ⟨before, []⟩) ↔
      ∀ sp ∈ elements.head?, ∀ tlt ∈ elements.tail.head?,
        host.answer (.write target.tlt tlt) = mcDrvOk →
          host.answer (.write target.sp sp) = mcDrvOk ∨
            before target.tlt =
              if host.answer (.cleanup target.tlt) = mcDrvOk then none else some tlt := by
  have hne : target.tlt ≠ target.sp := nofun
  match elements with
  | [] => exact iff_of_true (settled_noElement _ _) nofun
  | [sp] => exact iff_of_true (settled_noElement _ _) fun _ _ => nofun
  | sp :: tlt :: elements =>
      simp only [List.head?_cons, List.tail_cons, Option.mem_some_iff, forall_eq']
      by_cases htlt : host.answer (.write target.tlt tlt) = mcDrvOk
      · by_cases hsp : host.answer (.write target.sp sp) = mcDrvOk
        · apply iff_of_true _ fun _ => Or.inl hsp
          constructor
          · simp [storeRegisteredTlt, storeElement, htlt, hsp, containers_call_ok _ _ htlt,
              containers_call_ok _ _ hsp, RegistryCall.effect, hne]
          · simp [storeRegisteredTlt, storeElement, htlt, hsp]
        · simp only [htlt, hsp, false_or, forall_const]
          have hafter : (storeRegisteredTlt host target (sp :: tlt :: elements)
              ⟨before, []⟩).2.containers target.tlt =
                if host.answer (.cleanup target.tlt) = mcDrvOk then none else some tlt := by
            by_cases hcleanup : host.answer (.cleanup target.tlt) = mcDrvOk
            · simp [storeRegisteredTlt, storeElement, htlt, hsp, hcleanup,
                containers_call_ok _ _ hcleanup, RegistryCall.effect]
            · simp [storeRegisteredTlt, storeElement, htlt, hsp, hcleanup,
                containers_call_failed _ _ hcleanup, containers_call_failed _ _ hsp,
                containers_call_ok _ _ htlt, RegistryCall.effect]
          constructor
          · intro h
            have hkept := (h.rolledBack ⟨(.write target.sp sp, _),
              by simp [storeRegisteredTlt, storeElement, htlt, hsp], hsp⟩).2 target.tlt tlt
              (by simp [storeRegisteredTlt, storeElement, htlt, hsp])
            rw [← hkept, hafter]
          · intro hbefore
            have hcalls : (storeRegisteredTlt host target (sp :: tlt :: elements)
                ⟨before, []⟩).2.calls = [(.write target.tlt tlt, mcDrvOk),
                  (.write target.sp sp, host.answer (.write target.sp sp)),
                  (.cleanup target.tlt, host.answer (.cleanup target.tlt))] := by
              simp [storeRegisteredTlt, storeElement, htlt, hsp]
            constructor
            · simp [storeRegisteredTlt, storeElement, htlt, hsp]
            · intro _
              refine ⟨by simp [storeRegisteredTlt, storeElement, htlt, hsp], ?_⟩
              intro key so hmem
              have hkey : key = target.tlt := by
                rw [hcalls] at hmem
                simp [Ne.symm hsp] at hmem
                exact hmem.1
              rw [hkey, hafter, hbefore]
      · apply iff_of_true _ fun hok => absurd hok htlt
        constructor
        · simp [storeRegisteredTlt, storeElement, htlt]
        · simp [storeRegisteredTlt, storeElement, htlt, Ne.symm htlt]

/-- What has to hold of the results, and of the registry, when a root container was stored:
the token is read and deleted, or the deletion fails, the token cannot be written again,
and the registry held the same container before. -/
def RootRegistered (host : RegistryAnswers) (before : Containers) (root : ContainerBytes) :
    Prop :=
  if host.answer .deleteAuthToken = mcDrvOk then host.answer .readAuthToken = mcDrvOk
  else
    (∀ token ∈ authTokenBuffer host before,
        host.answer (.write .authToken token) ≠ mcDrvOk) ∧
      before .rootCont = some root

theorem containers_readAuthToken (t : RegistryTrace) :
    (t.call host .readAuthToken).containers = t.containers :=
  ite_self _

theorem authTokenBuffer_stored {root : ContainerBytes}
    (hroot : host.answer (.write .rootCont root) = mcDrvOk) :
    authTokenBuffer host
        (RegistryTrace.call host ⟨before, []⟩ (.write .rootCont root)).containers =
      authTokenBuffer host before := by
  simp [authTokenBuffer, containers_call_ok _ _ hroot, RegistryCall.effect]

section RootStored

variable {root : ContainerBytes} {elements : List ContainerBytes}
  (hroot : host.answer (.write .rootCont root) = mcDrvOk)

include hroot

theorem settled_tokenDeleted_iff (hdelete : host.answer .deleteAuthToken = mcDrvOk) :
    Settled before [(.rootCont, root)] [.authToken]
        (storeRegisteredRoot host (root :: elements) ⟨before, []⟩) ↔
      host.answer .readAuthToken = mcDrvOk := by
  constructor
  · intro h
    by_contra hread
    refine (h.rolledBack ⟨(.readAuthToken, _), ?_, hread⟩).1 ?_
    · simp [storeRegisteredRoot, storeElement, hroot, hdelete]
    · simp [storeRegisteredRoot, storeElement, hroot, hdelete]
  · intro hread
    constructor
    · simp [storeRegisteredRoot, storeElement, hroot, hdelete, containers_call_ok _ _ hdelete,
        containers_readAuthToken, containers_call_ok _ _ hroot, RegistryCall.effect]
    · simp [storeRegisteredRoot, storeElement, hroot, hdelete, hread]

/-- The token is written again: the command succeeds although a call has failed. -/
theorem not_settled_tokenRewritten (hdelete : host.answer .deleteAuthToken ≠ mcDrvOk)
    {token : ContainerBytes} (htoken : authTokenBuffer host before = some token)
    (hrewrite : host.answer (.write .authToken token) = mcDrvOk) :
    ¬ Settled before [(.rootCont, root)] [.authToken]
        (storeRegisteredRoot host (root :: elements) ⟨before, []⟩) := by
  intro h
  refine (h.rolledBack ⟨(.deleteAuthToken, _), ?_, hdelete⟩).1 ?_
  · simp [storeRegisteredRoot, storeElement, hroot, hdelete, authTokenBuffer_stored hroot, htoken,
      hrewrite]
  · simp [storeRegisteredRoot, storeElement, hroot, hdelete, authTokenBuffer_stored hroot, htoken,
      hrewrite]

theorem settled_tokenKept_iff (hdelete : host.answer .deleteAuthToken ≠ mcDrvOk)
    (htoken : ∀ token ∈ authTokenBuffer host before,
      host.answer (.write .authToken token) ≠ mcDrvOk) :
    Settled before [(.rootCont, root)] [.authToken]
        (storeRegisteredRoot host (root :: elements) ⟨before, []⟩) ↔
      before .rootCont = some root := by
  set result := storeRegisteredRoot host (root :: elements) ⟨before, []⟩ with hresult
  have hafter : result.1 ≠ mcDrvOk ∧ result.2.containers .rootCont = some root ∧
      ∃ rest, result.2.calls = [(.write .rootCont root, mcDrvOk),
          (.readAuthToken, host.answer .readAuthToken),
          (.deleteAuthToken, host.answer .deleteAuthToken)] ++ rest ∧
        ∀ key so, (.write key so, mcDrvOk) ∉ rest := by
    have hstored : (((RegistryTrace.call host ⟨before, []⟩ (.write .rootCont root)).call host
        .readAuthToken).call host .deleteAuthToken).containers .rootCont = some root := by
      rw [containers_call_failed _ _ hdelete, containers_readAuthToken,
        containers_call_ok _ _ hroot]
      simp [RegistryCall.effect]
    cases hbuffer : authTokenBuffer host before with
    | none =>
        have heq : result = (host.answer .deleteAuthToken,
            ((RegistryTrace.call host ⟨before, []⟩ (.write .rootCont root)).call host
              .readAuthToken).call host .deleteAuthToken) := by
          simp [hresult, storeRegisteredRoot, storeElement, hroot, hdelete,
            authTokenBuffer_stored hroot, hbuffer]
        rw [heq]
        exact ⟨hdelete, hstored, [], by simp [hroot], fun _ _ => List.not_mem_nil⟩
    | some token =>
        have hrewrite := htoken token hbuffer
        have heq : result = (host.answer (.write .authToken token),
            (((RegistryTrace.call host ⟨before, []⟩ (.write .rootCont root)).call host
              .readAuthToken).call host .deleteAuthToken).call host
              (.write .authToken token)) := by
          simp [hresult, storeRegisteredRoot, storeElement, hroot, hdelete,
            authTokenBuffer_stored hroot, hbuffer, hrewrite]
        rw [heq]
        refine ⟨hrewrite, ?_, [(.write .authToken token, host.answer (.write .authToken token))],
          by simp [hroot], ?_⟩
        · rw [containers_call_failed _ _ hrewrite]
          exact hstored
        · intro key so hmem
          simp [Ne.symm hrewrite] at hmem
  obtain ⟨hret, hcontainer, rest, hcalls, hrest⟩ := hafter
  constructor
  · intro h
    have hfailed : (RegistryCall.deleteAuthToken, host.answer .deleteAuthToken) ∈
        result.2.calls := by
      simp [hcalls]
    have hkept := (h.rolledBack ⟨_, hfailed, hdelete⟩).2 .rootCont root (by simp [hcalls])
    rw [← hkept, hcontainer]
  · intro hbefore
    constructor
    · exact fun hok => absurd hok hret
    · intro _
      refine ⟨hret, ?_⟩
      intro key so hmem
      have hkey : key = .rootCont := by
        rw [hcalls] at hmem
        simp [hrest key so] at hmem
        exact hmem.1
      rw [hkey, hcontainer, hbefore]

end RootStored

theorem settled_registeredRoot_iff (elements : List ContainerBytes) :
    Settled before ([.rootCont].zip elements) [.authToken]
        (storeRegisteredRoot host elements ⟨before, []⟩) ↔
      ∀ root ∈ elements.head?, host.answer (.write .rootCont root) = mcDrvOk →
        RootRegistered host before root := by
  cases elements with
  | nil => exact iff_of_true (settled_noElement _ _) nofun
  | cons root elements =>
      simp only [List.head?_cons, Option.mem_some_iff, forall_eq']
      by_cases hroot : host.answer (.write .rootCont root) = mcDrvOk
      · rw [forall_prop_of_true hroot, RootRegistered]
        by_cases hdelete : host.answer .deleteAuthToken = mcDrvOk
        · rw [if_pos hdelete]
          exact settled_tokenDeleted_iff hroot hdelete
        · rw [if_neg hdelete]
          by_cases htoken : ∀ token ∈ authTokenBuffer host before,
              host.answer (.write .authToken token) ≠ mcDrvOk
          · rw [and_iff_right htoken]
            exact settled_tokenKept_iff hroot hdelete htoken
          · apply iff_of_false
            · push Not at htoken
              obtain ⟨token, hmem, hrewrite⟩ := htoken
              exact not_settled_tokenRewritten hroot hdelete hmem hrewrite
            · exact fun h => htoken h.1
      · apply iff_of_true _ fun hok => absurd hok hroot
        constructor
        · simp [storeRegisteredRoot, storeElement, hroot]
        · simp [storeRegisteredRoot, storeElement, hroot, Ne.symm hroot]

/-! ## Every command -/

/-- The containers that a response to the command delivers, in their order. -/
def delivers (target : CmpTarget) : CmpCommandId → List ContainerKey
  | .generateAuthToken => [.authToken]
  | .rootContRegisterActivate | .rootContLockByRoot | .rootContUnlockByRoot
  | .spContUnregister => [.rootCont]
  | .spContUnlockByRoot | .spContUnlockBySp | .spContActivate | .spContLockByRoot
  | .spContLockBySp | .tltContUnregister => [target.sp]
  | .spContRegister | .spContRegisterActivate => [.rootCont, target.sp]
  | .tltContRegister | .tltContRegisterActivate => [target.sp, target.tlt]
  | .tltContActivate | .tltContLockBySp | .tltContUnlockBySp => [target.tlt]
  | _ => []

/-- The containers that the command deletes. -/
def deletes (target : CmpTarget) : CmpCommandId → List ContainerKey
  | .rootContRegisterActivate => [.authToken]
  | .rootContUnregister => [.rootCont]
  | .spContUnregister => [target.sp]
  | .tltContUnregister => [target.tlt]
  | _ => []

/-- Storing the containers of a response is a transaction. -/
def Transactional (host : RegistryAnswers) (before : Containers) (target : CmpTarget)
    (commandId : CmpCommandId) (elements : List ContainerBytes) : Prop :=
  Settled before ((delivers target commandId).zip elements) (deletes target commandId)
    (storeContainers host target commandId elements ⟨before, []⟩)

/-- What the results of the registry calls have to be, and what the registry has to hold
before, for a command that makes more than one call. -/
def Recoverable (host : RegistryAnswers) (before : Containers) (target : CmpTarget)
    (elements : List ContainerBytes) : CmpCommandId → Prop
  | .rootContRegisterActivate =>
      ∀ root ∈ elements.head?, host.answer (.write .rootCont root) = mcDrvOk →
        RootRegistered host before root
  | .spContRegister | .spContRegisterActivate =>
      ∀ root ∈ elements.head?, ∀ sp ∈ elements.tail.head?,
        host.answer (.write target.sp sp) = mcDrvOk →
          host.answer (.write .rootCont root) = mcDrvOk ∨ before target.sp = some sp
  | .spContUnregister =>
      ∀ root ∈ elements.head?, host.answer (.cleanup target.sp) = mcDrvOk ∨
        host.answer (.write .rootCont root) ≠ mcDrvOk
  | .tltContRegister | .tltContRegisterActivate =>
      ∀ sp ∈ elements.head?, ∀ tlt ∈ elements.tail.head?,
        host.answer (.write target.tlt tlt) = mcDrvOk →
          host.answer (.write target.sp sp) = mcDrvOk ∨
            before target.tlt =
              if host.answer (.cleanup target.tlt) = mcDrvOk then none else some tlt
  | .tltContUnregister =>
      ∀ sp ∈ elements.head?, host.answer (.cleanup target.tlt) = mcDrvOk ∨
        host.answer (.write target.sp sp) ≠ mcDrvOk
  | _ => True

theorem settled_nothing (elements : List ContainerBytes) :
    Settled before (([] : List ContainerKey).zip elements) [] (mcDrvOk, ⟨before, []⟩) := by
  constructor
  · simp
  · rintro ⟨c, hc, -⟩
    exact absurd hc List.not_mem_nil

/-- Storing the containers of a response is a transaction if and only if the command makes
one call, or its calls have results from which it recovers. -/
theorem transactional_iff (host : RegistryAnswers) (before : Containers) (target : CmpTarget)
    (commandId : CmpCommandId) (elements : List ContainerBytes) :
    Transactional host before target commandId elements ↔
      Recoverable host before target elements commandId := by
  cases commandId with
  | generateAuthToken | rootContLockByRoot | rootContUnlockByRoot | spContUnlockByRoot
  | spContUnlockBySp | spContActivate | spContLockByRoot | spContLockBySp | tltContActivate
  | tltContLockBySp | tltContUnlockBySp => exact iff_of_true (settled_storeElement _ _) trivial
  | rootContUnregister => exact iff_of_true (settled_cleanup _) trivial
  | rootContRegisterActivate => exact settled_registeredRoot_iff elements
  | spContRegister | spContRegisterActivate => exact settled_registeredSp_iff target elements
  | spContUnregister =>
      have hne : target.sp ≠ .rootCont := nofun
      exact settled_unregistered_iff hne elements
  | tltContRegister | tltContRegisterActivate => exact settled_registeredTlt_iff target elements
  | tltContUnregister =>
      have hne : target.tlt ≠ target.sp := nofun
      exact settled_unregistered_iff hne elements
  | authenticate | beginRootAuthentication | beginSocAuthentication | beginSpAuthentication
  | getVersion | tltContPersonalize | getSuid | authenticateTerminate =>
      exact iff_of_true (settled_nothing _) trivial

/-- A registry that stores no root container. -/
def noRootAnswers : RegistryAnswers where
  answer := fun c => if c = .write .rootCont [1] then mcDrvErrInvalidDeviceFile else mcDrvOk
  buffer := none
  below := fun _ _ => false

/-- The container of the service provider stays behind. -/
theorem not_transactional :
    ¬ ∀ (host : RegistryAnswers) (before : Containers) (target : CmpTarget)
      (commandId : CmpCommandId) (elements : List ContainerBytes),
      Transactional host before target commandId elements := by
  intro h
  have hsettled := h noRootAnswers (fun _ => none) ⟨7, ⟨List.replicate 16 0, rfl⟩⟩
    .spContRegister [[1], [2]]
  have hkept := (hsettled.rolledBack ⟨(.write .rootCont [1], mcDrvErrInvalidDeviceFile),
    by decide, by decide⟩).2 (.spCont 7) [2] (by decide)
  exact absurd hkept (by decide)

end Exynos8890.RootPa
