import Exynos8890.RootPa.CmpMessages

/-!
# Elements of a response

The content manager trustlet writes the offsets and lengths of the elements of its response, and
the agent copies the first of them for its client and passes the others on to the registry.

Main results:

- Definition `getRspElementInfo`: the end of an element is computed in 32 bits.
- Theorem `elementsInside_iff`: nothing outside the mapped buffer is copied or passed on exactly
  when no element wraps around to an end inside.
- Theorem `not_elementsInside`: an element that begins sixteen bytes below 2^32.
- Theorem `storeContainers_writes`: the elements that are passed on are those which the registry
  is asked to store.
-/

namespace Exynos8890.RootPa

namespace CmTrustlet

open CStruct MobiCore RegistryStore

/-! ## Elements -/

/-- `cmpMapOffsetInfo_t`. -/
structure MapOffsetInfo where
  offset : UInt32
  len : UInt32
deriving DecidableEq, Repr

/-- The bytes of the mapped buffer that an element stands for. -/
def MapOffsetInfo.region (e : MapOffsetInfo) : Region :=
  ⟨e.offset.toNat, e.len.toNat⟩

/-- `CMTSTRUCT`: the shared buffers, and the size of the mapped one. -/
structure CmtHandle where
  wsmP : Memory
  mappedP : Memory
  mappedSize : UInt32

namespace CmtHandle

variable (handle : CmtHandle)

/-- The entry behind the header of a response. -/
def elementAt (elementNbr : UInt32) : MapOffsetInfo :=
  let elementP := 12 + 8 * (elementNbr.toNat - 1)
  ⟨word handle.wsmP elementP, word handle.wsmP (elementP + 4)⟩

/-- `getRspElementInfo`: the place of an element, if it returns true. -/
def getRspElementInfo (elementNbr : UInt32) : Option MapOffsetInfo :=
  if elementNbr = 0 then none
  else
    let elementP := handle.elementAt elementNbr
    if elementP.offset + elementP.len > handle.mappedSize then none else some elementP

def getCmpReturnCode : UInt32 :=
  word handle.mappedP 4

/-- The elements from one on, at most `n` of them. -/
def elementsFrom (elementNbr : UInt32) : Nat → List MapOffsetInfo
  | 0 => []
  | n + 1 =>
      match handle.getRspElementInfo elementNbr with
      | none => []
      | some e => e :: elementsFrom (elementNbr + 1) n

/-- What an element holds. -/
def bytes (e : MapOffsetInfo) : ContainerBytes :=
  load e.region handle.mappedP

/-! ## What is copied and passed on -/

section Stored

variable (host : RegistryAnswers) (target : CmpTarget)

/-- The commands that store one element. -/
def storeOne (elementNbr : UInt32) : List MapOffsetInfo :=
  (handle.getRspElementInfo elementNbr).toList

/-- The commands that store two: the first element is stored last, if the second one was. -/
def storeTwo (key : ContainerKey) (elementNbr : UInt32) : List MapOffsetInfo :=
  match handle.getRspElementInfo elementNbr with
  | none => []
  | some first =>
      match handle.getRspElementInfo (elementNbr + 1) with
      | none => []
      | some second =>
          if host.answer (.write key (handle.bytes second)) = mcDrvOk then [second, first]
          else [second]

/-- `storeContainers`: the elements that it passes on to the registry, in their order. -/
def storeContainers (commandId : CmpCommandId) (elementNbr : UInt32) : List MapOffsetInfo :=
  match commandId with
  | .generateAuthToken | .rootContRegisterActivate | .rootContLockByRoot | .rootContUnlockByRoot
  | .spContUnlockByRoot | .spContUnlockBySp | .spContActivate | .spContLockByRoot
  | .spContLockBySp | .spContUnregister | .tltContActivate | .tltContLockBySp
  | .tltContUnlockBySp | .tltContUnregister => handle.storeOne elementNbr
  | .spContRegister | .spContRegisterActivate => handle.storeTwo host target.sp elementNbr
  | .tltContRegister | .tltContRegisterActivate => handle.storeTwo host target.tlt elementNbr
  | _ => []

/-- `handleResponse`: the elements that it copies or passes on; `allocated` says whether there
is memory for the copy. -/
def handleResponse (commandId : CmpCommandId) (allocated : Bool) : List MapOffsetInfo :=
  if isValidResponseTo commandId handle.wsmP = false then []
  else
    match handle.getRspElementInfo 1 with
    | none => []
    | some e =>
        if allocated = false then []
        else if handle.getCmpReturnCode ≠ 0 then [e]
        else e :: handle.storeContainers host target commandId 2

end Stored

/-- The bytes of an element lie in the mapped buffer. -/
def Holds (e : MapOffsetInfo) : Prop :=
  e.offset.toNat + e.len.toNat ≤ handle.mappedSize.toNat

/-- Elements that are found lie in the mapped buffer, and so does all that is copied or passed
on. -/
structure ElementsInside : Prop where
  found : ∀ elementNbr e, handle.getRspElementInfo elementNbr = some e → handle.Holds e
  handled : ∀ host target commandId allocated,
    ∀ e ∈ handle.handleResponse host target commandId allocated, handle.Holds e

/-- The end of an element is below 2^32, or it wraps around to one outside. -/
def NoWrap (e : MapOffsetInfo) : Prop :=
  e.offset.toNat + e.len.toNat < 2 ^ 32 ∨ handle.mappedSize < e.offset + e.len

end CmtHandle

namespace CmtHandle

variable {handle : CmtHandle}

theorem getRspElementInfo_eq_some_iff {elementNbr : UInt32} {e : MapOffsetInfo} :
    handle.getRspElementInfo elementNbr = some e ↔
      elementNbr ≠ 0 ∧ handle.elementAt elementNbr = e ∧ e.offset + e.len ≤ handle.mappedSize := by
  unfold getRspElementInfo
  split
  · simp [*]
  · dsimp only
    split
    · rename_i hnbr hlt
      constructor
      · intro h
        cases h
      · rintro ⟨-, rfl, hle⟩
        exact absurd hle (UInt32.not_le.mpr hlt)
    · rename_i hnbr hle
      rw [Option.some.injEq]
      exact ⟨fun h => ⟨hnbr, h, h ▸ UInt32.not_lt.mp hle⟩, fun h => h.2.1⟩

/-- The sum of the check is the end of the element, modulo 2^32. -/
theorem holds_iff_noWrap {e : MapOffsetInfo} (he : e.offset + e.len ≤ handle.mappedSize) :
    handle.Holds e ↔ handle.NoWrap e := by
  have hsum : (e.offset + e.len).toNat = (e.offset.toNat + e.len.toNat) % 2 ^ 32 :=
    UInt32.toNat_add _ _
  have hle : (e.offset + e.len).toNat ≤ handle.mappedSize.toNat := UInt32.le_iff_toNat_le.mp he
  have hsize := handle.mappedSize.toNat_lt
  rw [Holds, NoWrap, UInt32.lt_iff_toNat_lt]
  constructor
  · intro h
    exact Or.inl (h.trans_lt hsize)
  · rintro (hlt | hlt)
    · rwa [hsum, Nat.mod_eq_of_lt hlt] at hle
    · exact absurd hle (Nat.not_le.mpr hlt)

theorem mem_storeOne {elementNbr : UInt32} {e : MapOffsetInfo}
    (he : e ∈ handle.storeOne elementNbr) : ∃ n, handle.getRspElementInfo n = some e :=
  ⟨elementNbr, Option.mem_toList.mp he⟩

theorem mem_storeTwo {host : RegistryAnswers} {key : ContainerKey} {elementNbr : UInt32}
    {e : MapOffsetInfo} (he : e ∈ handle.storeTwo host key elementNbr) :
    ∃ n, handle.getRspElementInfo n = some e := by
  unfold storeTwo at he
  cases hfirst : handle.getRspElementInfo elementNbr with
  | none => simp [hfirst] at he
  | some first =>
      cases hsecond : handle.getRspElementInfo (elementNbr + 1) with
      | none => simp [hfirst, hsecond] at he
      | some second =>
          have hmem : e = second ∨ e = first := by
            simp only [hfirst, hsecond] at he
            split at he
            · simpa using he
            · exact Or.inl (List.mem_singleton.mp he)
          rcases hmem with rfl | rfl
          · exact ⟨elementNbr + 1, hsecond⟩
          · exact ⟨elementNbr, hfirst⟩

theorem mem_storeContainers {host : RegistryAnswers} {target : CmpTarget}
    {commandId : CmpCommandId} {elementNbr : UInt32} {e : MapOffsetInfo}
    (he : e ∈ handle.storeContainers host target commandId elementNbr) :
    ∃ n, handle.getRspElementInfo n = some e := by
  unfold storeContainers at he
  split at he
  all_goals first
    | exact mem_storeOne he
    | exact mem_storeTwo he
    | exact absurd he List.not_mem_nil

theorem mem_handleResponse {host : RegistryAnswers} {target : CmpTarget}
    {commandId : CmpCommandId} {allocated : Bool} {e : MapOffsetInfo}
    (he : e ∈ handle.handleResponse host target commandId allocated) :
    ∃ n, handle.getRspElementInfo n = some e := by
  unfold handleResponse at he
  split at he
  · exact absurd he List.not_mem_nil
  · cases hfirst : handle.getRspElementInfo 1 with
    | none =>
        rw [hfirst] at he
        exact absurd he List.not_mem_nil
    | some first =>
        simp only [hfirst] at he
        split at he
        · exact absurd he List.not_mem_nil
        · split at he
          · exact ⟨1, List.mem_singleton.mp he ▸ hfirst⟩
          · obtain rfl | he := List.mem_cons.mp he
            · exact ⟨1, hfirst⟩
            · exact mem_storeContainers he

end CmtHandle

/-- The elements of a response, for every content of the shared buffer and every mapped size. -/
theorem elementsInside_iff (handle : CmtHandle) :
    handle.ElementsInside ↔
      ∀ elementNbr ≠ 0, handle.NoWrap (handle.elementAt elementNbr) := by
  constructor
  · intro h elementNbr hnbr
    by_cases hle : (handle.elementAt elementNbr).offset + (handle.elementAt elementNbr).len ≤
        handle.mappedSize
    · rw [← CmtHandle.holds_iff_noWrap hle]
      exact h.found elementNbr _ (CmtHandle.getRspElementInfo_eq_some_iff.mpr ⟨hnbr, rfl, hle⟩)
    · exact Or.inr (UInt32.not_le.mp hle)
  · intro h
    have hfound : ∀ elementNbr e, handle.getRspElementInfo elementNbr = some e →
        handle.Holds e := by
      intro elementNbr e he
      obtain ⟨hnbr, rfl, hle⟩ := CmtHandle.getRspElementInfo_eq_some_iff.mp he
      exact (CmtHandle.holds_iff_noWrap hle).mpr (h elementNbr hnbr)
    refine ⟨hfound, fun host target commandId allocated e he => ?_⟩
    obtain ⟨n, hn⟩ := CmtHandle.mem_handleResponse he
    exact hfound n e hn

/-! ## An element that wraps around -/

/-- The first element begins at `0xFFFFFFF0` and has 32 bytes. -/
def wrappingHandle : CmtHandle where
  wsmP := store 12 [0xF0, 0xFF, 0xFF, 0xFF, 0x20, 0, 0, 0] fun _ => 0
  mappedP := fun _ => 0
  mappedSize := 292

/-- The 32-bit sum is sixteen. -/
theorem not_elementsInside : ¬ ∀ handle : CmtHandle, handle.ElementsInside := by
  intro hclaim
  have hholds := (hclaim wrappingHandle).found 1 ⟨0xFFFFFFF0, 0x20⟩ (by decide)
  exact absurd (show 0xFFFFFFF0 + 0x20 ≤ 292 from hholds) (by decide)

/-! ## What the registry is asked to store -/

/-- What a call stores of a response.  The token that is written back after a registration of the
root container comes from the registry. -/
def written (commandId : CmpCommandId) : RegistryCall × McResult → Option ContainerBytes
  | (.write key so, _) =>
      if commandId = .rootContRegisterActivate ∧ key = .authToken then none else some so
  | _ => none

section Writes

variable (handle : CmtHandle) (host : RegistryAnswers) (target : CmpTarget)
  {commandId : CmpCommandId} (elementNbr : UInt32) (t : RegistryTrace)

/-- What the calls of a trace store of a response. -/
def stored (commandId : CmpCommandId) (t : RegistryTrace) : List ContainerBytes :=
  t.calls.filterMap (written commandId)

theorem stored_write {key : ContainerKey} (so : ContainerBytes)
    (hkey : commandId ≠ .rootContRegisterActivate ∨ key ≠ .authToken) :
    stored commandId (t.call host (.write key so)) =
      stored commandId t ++ [so] := by
  rw [stored, calls_call, List.filterMap_append]
  congr 1
  rw [List.filterMap_cons, written,
    if_neg fun h => hkey.elim (fun hne => hne h.1) fun hne => hne h.2]
  rfl

theorem stored_cleanup (key : ContainerKey) :
    stored commandId (t.call host (.cleanup key)) =
      stored commandId t := by
  rw [stored, calls_call, List.filterMap_append]
  exact List.append_nil _

/-- The elements, as the registry calls get them. -/
def CmtHandle.elements : List ContainerBytes :=
  (handle.elementsFrom elementNbr 2).map handle.bytes

theorem stored_storeElement {key : ContainerKey}
    (hkey : commandId ≠ .rootContRegisterActivate ∨ key ≠ .authToken) :
    stored commandId (storeElement host key (handle.elements elementNbr) t).2 =
      stored commandId t ++ (handle.storeOne elementNbr).map handle.bytes := by
  rw [CmtHandle.elements, CmtHandle.elementsFrom, CmtHandle.storeOne]
  cases handle.getRspElementInfo elementNbr with
  | none => exact (List.append_nil _).symm
  | some first => exact stored_write host t _ hkey

/-- The token that a registration of the root container deletes is not stored for the response. -/
theorem stored_storeRegisteredRoot :
    stored .rootContRegisterActivate
        (storeRegisteredRoot host (handle.elements elementNbr) t).2 =
      stored .rootContRegisterActivate t ++
        (handle.storeOne elementNbr).map handle.bytes := by
  rw [← stored_storeElement handle host elementNbr t
    (Or.inr (show ContainerKey.rootCont ≠ .authToken by decide))]
  unfold storeRegisteredRoot
  generalize storeElement host .rootCont (handle.elements elementNbr) t = result
  obtain ⟨mcRet, t⟩ := result
  dsimp only
  split
  · split
    · split
      · simp [stored, written]
      · split <;> simp [stored, written]
    · simp [stored, written]
  · rfl

/-- The first element is stored behind the second, if that was stored. -/
theorem stored_storeTwo {second : ContainerKey} (hcommand : commandId ≠ .rootContRegisterActivate)
    {store : List ContainerBytes → RegistryTrace → McResult × RegistryTrace}
    (hnil : ∀ t, (store [] t).2 = t)
    (hcons : ∀ so elements t, stored commandId (store (so :: elements) t).2 =
      stored commandId (storeElement host second elements t).2 ++
        if (storeElement host second elements t).1 = mcDrvOk then [so] else []) :
    stored commandId (store (handle.elements elementNbr) t).2 =
      stored commandId t ++
        (handle.storeTwo host second elementNbr).map handle.bytes := by
  rw [CmtHandle.elements, CmtHandle.elementsFrom, CmtHandle.storeTwo]
  cases handle.getRspElementInfo elementNbr with
  | none =>
      rw [List.map_nil, hnil]
      exact (List.append_nil _).symm
  | some first =>
      dsimp only
      rw [List.map_cons, hcons, CmtHandle.elementsFrom]
      cases handle.getRspElementInfo (elementNbr + 1) with
      | none =>
          rw [List.map_nil, storeElement, if_neg noElement_ne_ok, List.append_nil]
      | some last =>
          dsimp only
          rw [List.map_cons, storeElement, stored_write host t _ (Or.inl hcommand)]
          split <;> simp

theorem stored_storeRegisteredSp (hcommand : commandId ≠ .rootContRegisterActivate) :
    stored commandId
        (storeRegisteredSp host target (handle.elements elementNbr) t).2 =
      stored commandId t ++
        (handle.storeTwo host target.sp elementNbr).map handle.bytes := by
  refine stored_storeTwo handle host elementNbr t hcommand (fun _ => rfl) fun so elements t => ?_
  rw [storeRegisteredSp]
  dsimp only
  split
  · rw [stored_write host _ _ (Or.inl hcommand)]
  · exact (List.append_nil _).symm

theorem stored_storeRegisteredTlt (hcommand : commandId ≠ .rootContRegisterActivate) :
    stored commandId
        (storeRegisteredTlt host target (handle.elements elementNbr) t).2 =
      stored commandId t ++
        (handle.storeTwo host target.tlt elementNbr).map handle.bytes := by
  refine stored_storeTwo handle host elementNbr t hcommand (fun _ => rfl) fun so elements t => ?_
  rw [storeRegisteredTlt]
  dsimp only
  split
  · split
    · rw [stored_cleanup, stored_write host _ _ (Or.inl hcommand)]
    · rw [stored_write host _ _ (Or.inl hcommand)]
  · exact (List.append_nil _).symm

/-- The registry is asked to store the elements that are passed on, in this order. -/
theorem storeContainers_writes (before : Containers) :
    stored commandId (RootPa.storeContainers host target commandId
        (handle.elements elementNbr) ⟨before, []⟩).2 =
      (handle.storeContainers host target commandId elementNbr).map handle.bytes := by
  have hone : ∀ key, commandId ≠ .rootContRegisterActivate ∨ key ≠ .authToken →
      stored commandId
          (storeElement host key (handle.elements elementNbr) ⟨before, []⟩).2 =
        (handle.storeOne elementNbr).map handle.bytes :=
    fun key hkey => stored_storeElement handle host elementNbr ⟨before, []⟩ hkey
  have hparent : ∀ deleted parent, commandId ≠ .rootContRegisterActivate →
      stored commandId
          (storeUnregistered host deleted parent (handle.elements elementNbr) ⟨before, []⟩).2 =
        (handle.storeOne elementNbr).map handle.bytes := by
    intro deleted parent hcommand
    rw [storeUnregistered, stored_storeElement handle host elementNbr _ (Or.inl hcommand),
      stored_cleanup]
    rfl
  cases commandId
  case generateAuthToken => exact hone _ (Or.inl (by decide))
  case rootContRegisterActivate => exact stored_storeRegisteredRoot handle host elementNbr _
  case rootContLockByRoot | rootContUnlockByRoot => exact hone _ (Or.inl (by decide))
  case rootContUnregister => exact stored_cleanup host _ _
  case spContRegister | spContRegisterActivate =>
    exact stored_storeRegisteredSp handle host target elementNbr _ (by decide)
  case tltContRegister | tltContRegisterActivate =>
    exact stored_storeRegisteredTlt handle host target elementNbr _ (by decide)
  case spContUnregister | tltContUnregister => exact hparent _ _ (by decide)
  case spContUnlockByRoot | spContUnlockBySp | spContActivate | spContLockByRoot
    | spContLockBySp | tltContActivate | tltContLockBySp | tltContUnlockBySp =>
    exact hone _ (Or.inl (by decide))
  all_goals rfl

end Writes

end CmTrustlet

end Exynos8890.RootPa
