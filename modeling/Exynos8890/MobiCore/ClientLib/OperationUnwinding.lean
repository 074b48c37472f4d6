import Exynos8890.MobiCore.ClientLib.Mappings
import Exynos8890.MobiCore.ClientLib.PartialReferences

/-!
# Unwinding an operation

The buffers of an operation are mapped one behind the other, and the first that fails has the
others unmapped.  What is unmapped is read from the page that is shared with the application: the
records of this call stand beside those of earlier ones, and none is used when the page reports an
error of an earlier call, or no call yet.

Main results:

- Theorem `setupLoop_cases`: how many parameters are accepted, and what is listed behind them.
- Theorem `unwindLoop_done`: what was listed for accepted parameters is taken from the list again.
- Theorem `setupOperation_undone`: an operation that is not set up leaves every list as it was.
-/

namespace Exynos8890.MobiCore.ClientLib

namespace Gp

open CStruct Process

/-! ## Parameters that are accepted -/

/-- A parameter is refused before a buffer is mapped for it. -/
def Parameter.Bad (w : PointerWidth) : Parameter → Prop
  | .unused _ => True
  | .memrefPartial direction parent size offset =>
      Inconsistent direction parent.flags ∨ parent.size.toNat < sizeAdd w offset size
  | .none | .value .. | .memrefTemp .. | .memrefWhole .. => False

instance (w : PointerWidth) : DecidablePred (Parameter.Bad w)
  | .unused _ => isTrue trivial
  | .memrefPartial _ _ _ _ => inferInstanceAs (Decidable (_ ∨ _))
  | .none | .value .. | .memrefTemp .. | .memrefWhole .. => isFalse id

/-- Kernel and daemon map a buffer: its descriptor. -/
def granted (answers : MapAnswers) (mapping : UInt64 × UInt32) : Option BulkBufferDescriptor :=
  match answers.registered, answers.reply with
  | .ok wsm, .answered code addr =>
      if code = mcDrvOk then
        some
          { virtAddr := mapping.1, sVirtualAddr := addr.toUInt64, len := mapping.2, handle := wsm }
      else none
  | _, _ => none

/-- What is listed for a parameter that is accepted. -/
def Parameter.descriptor (ext : Parameter) (answers : MapAnswers) : Option BulkBufferDescriptor :=
  ext.mapping.bind (granted answers)

/-- A buffer is not null, and a session with this list does not have it yet. -/
def Unlisted (list : List BulkBufferDescriptor) (buf : UInt64) : Prop :=
  buf ≠ 0 ∧ buf ∉ list.map BulkBufferDescriptor.virtAddr

instance (list : List BulkBufferDescriptor) : DecidablePred (Unlisted list) :=
  fun _ => inferInstanceAs (Decidable (_ ∧ _))

/-- A session with this list accepts a parameter. -/
structure Parameter.Accepted (w : PointerWidth) (ext : Parameter) (answers : MapAnswers)
    (list : List BulkBufferDescriptor) : Prop where
  good : ¬ ext.Bad w
  mapped : ∀ mapping ∈ ext.mapping,
    Unlisted list mapping.1 ∧ (granted answers mapping).isSome = true

instance (w : PointerWidth) (ext : Parameter) (answers : MapAnswers)
    (list : List BulkBufferDescriptor) : Decidable (ext.Accepted w answers list) :=
  have : Decidable (∀ mapping ∈ ext.mapping,
      Unlisted list mapping.1 ∧ (granted answers mapping).isSome = true) :=
    Option.decidableForallMem ext.mapping
  decidable_of_iff (¬ ext.Bad w ∧ ∀ mapping ∈ ext.mapping,
    Unlisted list mapping.1 ∧ (granted answers mapping).isSome = true)
    ⟨fun h => ⟨h.1, h.2⟩, fun h => ⟨h.good, h.mapped⟩⟩

/-- The connection is lost while a parameter is mapped: the buffer stays listed. -/
structure Parameter.Lost (w : PointerWidth) (ext : Parameter) (answers : MapAnswers)
    (list : List BulkBufferDescriptor) : Prop where
  good : ¬ ext.Bad w
  mapped : ∃ mapping ∈ ext.mapping, Unlisted list mapping.1
  registered : answers.registered.isOk = true
  reply : answers.reply = .lost

instance (w : PointerWidth) (ext : Parameter) (answers : MapAnswers)
    (list : List BulkBufferDescriptor) : Decidable (ext.Lost w answers list) :=
  have : Decidable (∃ mapping ∈ ext.mapping, Unlisted list mapping.1) :=
    Option.decidableExistsMem ext.mapping
  decidable_of_iff (¬ ext.Bad w ∧ (∃ mapping ∈ ext.mapping, Unlisted list mapping.1) ∧
    answers.registered.isOk = true ∧ answers.reply = .lost)
    ⟨fun h => ⟨h.1, h.2.1, h.2.2.1, h.2.2.2⟩,
      fun h => ⟨h.good, h.mapped, h.registered, h.reply⟩⟩

/-- The map information that a mapped parameter has in the page. -/
def mapInfoOf (blkBuf : BulkBufferDescriptor) : BulkMap where
  sVirtualAddr := blkBuf.sVirtualAddr
  sVirtualLen := blkBuf.len

/-- The record of a parameter behind its set-up. -/
def Recorded (ext : Parameter) (answers : MapAnswers) (imp : ParameterInternal) : Prop :=
  match ext.descriptor answers with
  | none => ext.buffer = 0 ∨ imp.mapInfo.sVirtualLen = 0
  | some blkBuf => imp.mapInfo = mapInfoOf blkBuf

/-! ## One parameter -/

section Parameter

variable {w : PointerWidth} {handle : SessionHandle} {ext : Parameter} {answers : MapAnswers}
  {p : Process} {list : List BulkBufferDescriptor}

theorem descriptor_eq_none (h : ext.mapping = none) : ext.descriptor answers = none := by
  rw [Parameter.descriptor, h, Option.bind_none]

theorem descriptor_eq_granted {mapping : UInt64 × UInt32} (h : ext.mapping = some mapping) :
    ext.descriptor answers = granted answers mapping := by
  rw [Parameter.descriptor, h, Option.bind_some]

theorem virtAddr_granted {mapping : UInt64 × UInt32} {blkBuf : BulkBufferDescriptor}
    (h : granted answers mapping = some blkBuf) : blkBuf.virtAddr = mapping.1 := by
  unfold granted at h
  split at h
  · split at h
    · cases h
      rfl
    · cases h
  · cases h

/-- A mapped parameter is unmapped at the address where it was mapped. -/
theorem buffer_of_mapping {mapping : UInt64 × UInt32} (h : ext.mapping = some mapping) :
    ext.buffer = mapping.1 := by
  cases ext with
  | none | value direction a b | unused type => cases h
  | memrefTemp direction buffer size =>
      rw [Parameter.mapping] at h
      split at h
      · cases h
        rfl
      · cases h
  | memrefWhole parent size =>
      rw [Parameter.mapping] at h
      split at h
      · cases h
        rfl
      · cases h
  | memrefPartial direction parent size offset =>
      rw [Parameter.mapping] at h
      split at h
      · cases h
        rfl
      · cases h

theorem buffer_of_descriptor {blkBuf : BulkBufferDescriptor}
    (h : ext.descriptor answers = some blkBuf) : ext.buffer = blkBuf.virtAddr := by
  obtain ⟨mapping, hmapping, hgranted⟩ := Option.bind_eq_some_iff.mp h
  rw [buffer_of_mapping hmapping, virtAddr_granted hgranted]

theorem setupParam_eq (w : PointerWidth) (handle : SessionHandle) (ext : Parameter)
    (answers : MapAnswers) (imp : ParameterInternal) (p : Process) :
    (ext.Bad w ∧ ∃ error, setupParam w handle ext answers imp p = (some error, imp, p)) ∨
    (¬ ext.Bad w ∧ ext.mapping = none ∧ ∃ imp', (ext.buffer = 0 ∨ imp'.mapInfo.sVirtualLen = 0) ∧
      setupParam w handle ext answers imp p = (none, imp', p)) ∨
    (¬ ext.Bad w ∧ ∃ buffer size, ext.mapping = some (buffer, size.toUInt32) ∧
      setupParam w handle ext answers imp p =
        mapMemref handle buffer size answers imp.clear p) := by
  cases ext with
  | none => exact Or.inr (Or.inl ⟨id, rfl, imp, Or.inl rfl, rfl⟩)
  | value direction a b =>
      cases direction with
      | output => exact Or.inr (Or.inl ⟨id, rfl, imp, Or.inl rfl, rfl⟩)
      | input | inout => exact Or.inr (Or.inl ⟨id, rfl, _, Or.inl rfl, rfl⟩)
  | unused type => exact Or.inl ⟨trivial, _, rfl⟩
  | memrefTemp direction buffer size =>
      by_cases hsize : size ≠ 0 ∧ buffer ≠ 0
      · exact Or.inr (Or.inr ⟨id, buffer, size, if_pos hsize, if_pos hsize⟩)
      · exact Or.inr (Or.inl ⟨id, if_neg hsize, imp.clear, Or.inr rfl, if_neg hsize⟩)
  | memrefWhole parent size =>
      by_cases hsize : parent.size ≠ 0
      · exact Or.inr (Or.inr ⟨id, parent.buffer, parent.size, if_pos hsize, if_pos hsize⟩)
      · exact Or.inr (Or.inl ⟨id, if_neg hsize, imp.clear, Or.inr rfl, if_neg hsize⟩)
  | memrefPartial direction parent size offset =>
      rw [setupParam]
      by_cases hflags : Inconsistent direction parent.flags
      · exact Or.inl ⟨Or.inl hflags, _, if_pos hflags⟩
      rw [if_neg hflags]
      by_cases hrange : parent.size.toNat < sizeAdd w offset size
      · exact Or.inl ⟨Or.inr hrange, _, if_pos hrange⟩
      rw [if_neg hrange]
      have hgood : ¬ (Parameter.memrefPartial direction parent size offset).Bad w :=
        not_or_intro hflags hrange
      by_cases hsize : size ≠ 0
      · exact Or.inr (Or.inr ⟨hgood, _, size, if_pos hsize, if_pos hsize⟩)
      · exact Or.inr (Or.inl ⟨hgood, if_neg hsize, imp.clear, Or.inr rfl, if_neg hsize⟩)

theorem granted_isSome {mapping : UInt64 × UInt32} (h : (granted answers mapping).isSome = true) :
    ∃ wsm addr, answers.registered = .ok wsm ∧ answers.reply = .answered mcDrvOk addr := by
  unfold granted at h
  split at h
  next wsm code addr hregistered hreply =>
    split at h
    next hcode => exact ⟨wsm, addr, hregistered, hcode ▸ hreply⟩
    next => cases h
  next => cases h

/-- Kernel, daemon and session decide about a buffer that is mapped. -/
theorem accepted_iff_grants (hlist : p.mappings handle = some list) (hgood : ¬ ext.Bad w)
    {mapping : UInt64 × UInt32} (hmapping : ext.mapping = some mapping) :
    ext.Accepted w answers list ↔ ∃ wsm addr, Grants p handle mapping.1 answers wsm addr := by
  constructor
  · intro haccepted
    obtain ⟨⟨hbuf, hunlisted⟩, hgranted⟩ := haccepted.mapped mapping hmapping
    obtain ⟨wsm, addr, hregistered, hreply⟩ := granted_isSome hgranted
    exact ⟨wsm, addr, hbuf, ⟨list, hlist, hunlisted⟩, hregistered, hreply⟩
  · rintro ⟨wsm, addr, hgrants⟩
    refine ⟨hgood, fun other hother => ?_⟩
    cases Option.some.inj (hmapping.symm.trans hother)
    obtain ⟨list', hlist', hunlisted⟩ := hgrants.unlisted
    cases Option.some.inj (hlist.symm.trans hlist')
    refine ⟨⟨hgrants.buf_ne, hunlisted⟩, ?_⟩
    rw [granted, hgrants.registered, hgrants.reply]
    rfl

theorem setupParam_cases (w : PointerWidth) (ext : Parameter)
    (hlist : p.mappings handle = some list) (herror : answers.registered ≠ .error mcDrvOk)
    (imp : ParameterInternal) :
    (ext.Accepted w answers list ∧ ∃ imp' q,
      setupParam w handle ext answers imp p = (none, imp', q) ∧ Recorded ext answers imp' ∧
      q.mappings = Function.update p.mappings handle
        (some (list ++ (ext.descriptor answers).toList))) ∨
    (¬ ext.Accepted w answers list ∧ ∃ error imp' q,
      setupParam w handle ext answers imp p = (some error, imp', q) ∧
      (ext.Bad w → imp' = imp) ∧ (¬ ext.Bad w → imp'.mapInfo.sVirtualLen = 0) ∧
      (¬ ext.Lost w answers list → q.mappings = p.mappings)) := by
  rcases setupParam_eq w handle ext answers imp p with
    ⟨hbad, error, heq⟩ | ⟨hgood, hmapping, imp', hrecord, heq⟩ |
    ⟨hgood, buffer, size, hmapping, heq⟩
  · exact Or.inr ⟨fun haccepted => haccepted.good hbad, error, imp, p, heq, fun _ => rfl,
      fun hgood => absurd hbad hgood, fun _ => rfl⟩
  · have hnone : ext.descriptor answers = none := descriptor_eq_none hmapping
    refine Or.inl ⟨⟨hgood, fun mapping hmem => ?_⟩, imp', p, heq, ?_, ?_⟩
    · rw [hmapping] at hmem
      cases hmem
    · rw [Recorded, hnone]
      exact hrecord
    · rw [hnone, Option.toList_none, List.append_nil, ← hlist, Function.update_eq_self]
  · have haccepted : ext.Accepted w answers list ↔
        ∃ wsm addr, Grants p handle buffer answers wsm addr :=
      accepted_iff_grants hlist hgood hmapping
    rw [heq, mapMemref]
    rcases mcMap_cases p handle buffer size.toUInt32 herror with
      ⟨wsm, addr, q, hgrants, hmap, hmappings⟩ | ⟨code, info, q, hcode, hmap, hgrants, hkept⟩
    · have hdescriptor : ext.descriptor answers =
          some { virtAddr := buffer, sVirtualAddr := addr.toUInt64, len := size.toUInt32
                 handle := wsm } := by
        rw [descriptor_eq_granted hmapping, granted, hgrants.registered, hgrants.reply]
        rfl
      rw [hmap]
      refine Or.inl ⟨haccepted.mpr ⟨wsm, addr, hgrants⟩, _, q, if_neg (not_not_intro rfl), ?_, ?_⟩
      · rw [Recorded, hdescriptor]
        rfl
      · rw [hmappings, hlist, hdescriptor]
        rfl
    · rw [hmap]
      refine Or.inr ⟨fun h => ?_, _, _, q, if_pos hcode, fun hbad => absurd hbad hgood,
        fun _ => rfl, fun hlost => hkept fun hloses => hlost ?_⟩
      · obtain ⟨wsm, addr, hgranted⟩ := haccepted.mp h
        exact hgrants wsm addr hgranted
      · obtain ⟨list', hlist', hunlisted⟩ := hloses.unlisted
        cases Option.some.inj (hlist.symm.trans hlist')
        obtain ⟨wsm, hregistered⟩ := hloses.registered
        exact ⟨hgood, ⟨_, hmapping, hloses.buf_ne, hunlisted⟩, by rw [hregistered]; rfl,
          hloses.reply⟩

theorem setupParam_unopened (w : PointerWidth) (ext : Parameter)
    (hlist : p.mappings handle = none) (herror : answers.registered ≠ .error mcDrvOk)
    (imp : ParameterInternal) :
    (setupParam w handle ext answers imp p).2.2.mappings = p.mappings := by
  rcases setupParam_eq w handle ext answers imp p with
    ⟨-, error, heq⟩ | ⟨-, -, imp', -, heq⟩ | ⟨-, buffer, size, -, heq⟩
  · rw [heq]
  · rw [heq]
  · rw [heq, mapMemref]
    rcases mcMap_cases p handle buffer size.toUInt32 herror with
      ⟨wsm, addr, q, hgrants, -, -⟩ | ⟨code, info, q, hcode, hmap, -, hkept⟩
    · obtain ⟨list, hlist', -⟩ := hgrants.unlisted
      rw [hlist] at hlist'
      cases hlist'
    · rw [hmap]
      dsimp only
      rw [if_pos hcode]
      apply hkept
      intro hloses
      obtain ⟨list, hlist', -⟩ := hloses.unlisted
      rw [hlist] at hlist'
      cases hlist'

end Parameter

/-! ## The loop over the parameters -/

/-- What a session lists behind these parameters. -/
def listedBehind (operation : Operation) (answers : Fin 4 → MapAnswers) (is : List (Fin 4))
    (list : List BulkBufferDescriptor) : List BulkBufferDescriptor :=
  list ++ is.filterMap fun i => (operation i).descriptor (answers i)

/-- A session with this list accepts one parameter behind the other. -/
def AllAccepted (w : PointerWidth) (operation : Operation) (answers : Fin 4 → MapAnswers) :
    List (Fin 4) → List BulkBufferDescriptor → Prop
  | [], _ => True
  | i :: is, list =>
      (operation i).Accepted w (answers i) list ∧
        AllAccepted w operation answers is
          (list ++ ((operation i).descriptor (answers i)).toList)

instance decidableAllAccepted (w : PointerWidth) (operation : Operation)
    (answers : Fin 4 → MapAnswers) :
    (is : List (Fin 4)) → (list : List BulkBufferDescriptor) →
      Decidable (AllAccepted w operation answers is list)
  | [], _ => isTrue trivial
  | i :: is, list =>
      have := decidableAllAccepted w operation answers is
        (list ++ ((operation i).descriptor (answers i)).toList)
      inferInstanceAs (Decidable ((operation i).Accepted w (answers i) list ∧
        AllAccepted w operation answers is
          (list ++ ((operation i).descriptor (answers i)).toList)))

/-- Behind the parameters `done` the loop stops at the parameter `i`: what stands in the page. -/
structure StopsAt (w : PointerWidth) (operation : Operation) (answers : Fin 4 → MapAnswers)
    (list : List BulkBufferDescriptor) (done : List (Fin 4)) (i : Fin 4) (rest : List (Fin 4))
    (params params' : Fin 4 → ParameterInternal) : Prop where
  accepted : AllAccepted w operation answers done list
  refused : ¬ (operation i).Accepted w (answers i) (listedBehind operation answers done list)
  recorded : ∀ j ∈ done, Recorded (operation j) (answers j) (params' j)
  kept : (operation i).Bad w → params' i = params i
  cleared : ¬ (operation i).Bad w → (params' i).mapInfo.sVirtualLen = 0
  untouched : ∀ j ∈ rest, params' j = params j

section SetupLoop

variable {w : PointerWidth} {handle : SessionHandle} {operation : Operation}
  {answers : Fin 4 → MapAnswers} {p : Process} {list : List BulkBufferDescriptor}

theorem listedBehind_cons (i : Fin 4) (is : List (Fin 4)) (list : List BulkBufferDescriptor) :
    listedBehind operation answers (i :: is) list =
      listedBehind operation answers is
        (list ++ ((operation i).descriptor (answers i)).toList) := by
  cases hdescriptor : (operation i).descriptor (answers i) with
  | none => simp [listedBehind, hdescriptor]
  | some blkBuf => simp [listedBehind, hdescriptor]

/-- The loop does not write to the records of other parameters. -/
theorem setupLoop_params {is : List (Fin 4)} {j : Fin 4} (hj : j ∉ is)
    (params : Fin 4 → ParameterInternal) :
    (setupLoop w handle operation answers is params p).2.1 j = params j := by
  induction is generalizing params p with
  | nil => rfl
  | cons i is ih =>
      have hne : j ≠ i := List.ne_of_not_mem_cons hj
      have hrest : j ∉ is := List.not_mem_of_not_mem_cons hj
      rw [setupLoop]
      split
      next => exact Function.update_of_ne hne _ _
      next => exact (ih hrest _).trans (Function.update_of_ne hne _ _)

/-- All parameters are accepted, or the loop stops at the first that is not. -/
theorem setupLoop_cases (w : PointerWidth) (operation : Operation)
    (herror : ∀ i, (answers i).registered ≠ .error mcDrvOk)
    {is : List (Fin 4)} (hnodup : is.Nodup) (hlist : p.mappings handle = some list)
    (params : Fin 4 → ParameterInternal) :
    (AllAccepted w operation answers is list ∧ ∃ params' q,
      setupLoop w handle operation answers is params p = (none, params', q) ∧
      (∀ i ∈ is, Recorded (operation i) (answers i) (params' i)) ∧
      q.mappings = Function.update p.mappings handle
        (some (listedBehind operation answers is list))) ∨
    ∃ done i rest error params' q, is = done ++ i :: rest ∧
      setupLoop w handle operation answers is params p = (some error, params', q) ∧
      StopsAt w operation answers list done i rest params params' ∧
      (¬ (operation i).Lost w (answers i) (listedBehind operation answers done list) →
        q.mappings = Function.update p.mappings handle
          (some (listedBehind operation answers done list))) := by
  induction is generalizing params p list with
  | nil =>
      refine Or.inl ⟨trivial, params, p, rfl, fun i hi => absurd hi List.not_mem_nil, ?_⟩
      rw [listedBehind, List.filterMap_nil, List.append_nil, ← hlist, Function.update_eq_self]
  | cons i is ih =>
      obtain ⟨hnew, hrest⟩ := List.nodup_cons.mp hnodup
      rw [setupLoop]
      rcases setupParam_cases w (operation i) hlist (herror i) (params i) with
        ⟨haccepted, imp, q, hparam, hrecord, hmappings⟩ |
        ⟨hrefused, error, imp, q, hparam, hkept, hcleared, hmappings⟩
      · have hlist' : q.mappings handle =
            some (list ++ ((operation i).descriptor (answers i)).toList) := by
          rw [hmappings, Function.update_self]
        have hself : ∀ error params' q', setupLoop w handle operation answers is
            (Function.update params i imp) q = (error, params', q') → params' i = imp := by
          intro error params' q' hloop
          have hother : (setupLoop w handle operation answers is (Function.update params i imp)
              q).2.1 i = Function.update params i imp i := setupLoop_params hnew _
          rw [hloop, Function.update_self] at hother
          exact hother
        rw [hparam]
        dsimp only
        rcases ih hrest hlist' (Function.update params i imp) with
          ⟨hall, params', q', hloop, hrecorded, hmappings'⟩ |
          ⟨done, j, rest, error, params', q', rfl, hloop, hstops, hmappings'⟩
        · refine Or.inl ⟨⟨haccepted, hall⟩, params', q', hloop, fun j hj => ?_, ?_⟩
          · rcases List.mem_cons.mp hj with rfl | hj
            · rw [hself _ _ _ hloop]
              exact hrecord
            · exact hrecorded j hj
          · rw [hmappings', hmappings, Function.update_idem, listedBehind_cons]
        · have hne : ∀ k ∈ j :: rest, k ≠ i := fun k hk hki =>
            hnew (hki ▸ List.mem_append_right done hk)
          refine Or.inr ⟨i :: done, j, rest, error, params', q', rfl, hloop, ?_, fun hlost => ?_⟩
          · exact
              { accepted := ⟨haccepted, hstops.accepted⟩
                refused := by
                  rw [listedBehind_cons]
                  exact hstops.refused
                recorded := by
                  intro k hk
                  rcases List.mem_cons.mp hk with rfl | hk
                  · rw [hself _ _ _ hloop]
                    exact hrecord
                  · exact hstops.recorded k hk
                kept := fun hbad => (hstops.kept hbad).trans
                  (Function.update_of_ne (hne j List.mem_cons_self) _ _)
                cleared := hstops.cleared
                untouched := fun k hk => (hstops.untouched k hk).trans
                  (Function.update_of_ne (hne k (List.mem_cons_of_mem j hk)) _ _) }
          · rw [listedBehind_cons] at hlost ⊢
            rw [hmappings' hlost, hmappings, Function.update_idem]
      · rw [hparam]
        have hbehind : listedBehind operation answers [] list = list := List.append_nil list
        refine Or.inr ⟨[], i, is, error, Function.update params i imp, q, rfl, rfl, ?_,
          fun hlost => ?_⟩
        · exact
            { accepted := trivial
              refused := by
                rw [hbehind]
                exact hrefused
              recorded := fun j hj => absurd hj List.not_mem_nil
              kept := by
                intro hbad
                rw [Function.update_self]
                exact hkept hbad
              cleared := by
                intro hgood
                rw [Function.update_self]
                exact hcleared hgood
              untouched := fun j hj =>
                Function.update_of_ne (ne_of_mem_of_not_mem hj hnew) _ _ }
        · rw [hbehind] at hlost ⊢
          rw [hmappings hlost, ← hlist, Function.update_eq_self]

theorem setupLoop_unopened (w : PointerWidth) (operation : Operation)
    (herror : ∀ i, (answers i).registered ≠ .error mcDrvOk)
    (is : List (Fin 4)) (hlist : p.mappings handle = none) (params : Fin 4 → ParameterInternal) :
    (setupLoop w handle operation answers is params p).2.2.mappings = p.mappings := by
  induction is generalizing params p with
  | nil => rfl
  | cons i is ih =>
      have hparam := setupParam_unopened w (operation i) hlist (herror i) (params i)
      rw [setupLoop]
      split
      next error imp q hresult =>
        rw [hresult] at hparam
        exact hparam
      next imp q hresult =>
        rw [hresult] at hparam
        exact (ih (by rw [hparam, hlist]) _).trans hparam

end SetupLoop

/-! ## Unwinding -/

/-- The daemon can be asked to unmap a descriptor again. -/
def Found (blkBuf : BulkBufferDescriptor) : Prop :=
  blkBuf.sVirtualAddr ≠ 0 ∧ blkBuf.len ≠ 0 ∧ blkBuf.handle ≠ 0

instance : DecidablePred Found :=
  fun _ => inferInstanceAs (Decidable (_ ∧ _ ∧ _))

/-- The record of a parameter names a buffer that a session with this list has. -/
def Stale (list : List BulkBufferDescriptor) (ext : Parameter) (imp : ParameterInternal) : Prop :=
  (ext.buffer ≠ 0 ∧ imp.mapInfo.sVirtualLen ≠ 0 ∧ imp.mapInfo.sVirtualAddr ≠ 0) ∧
    ∃ blkBuf ∈ list, imp.mapInfo.Names blkBuf

instance (list : List BulkBufferDescriptor) (ext : Parameter) (imp : ParameterInternal) :
    Decidable (Stale list ext imp) :=
  inferInstanceAs (Decidable (_ ∧ _))

section Unwind

variable {w : PointerWidth} {handle : SessionHandle} {operation : Operation}
  {answers : Fin 4 → MapAnswers} {params : Fin 4 → ParameterInternal}
  {replies : Fin 4 → Reply Unit} {p : Process} {list : List BulkBufferDescriptor}

theorem unwindParam_of_not_stale {ext : Parameter} {imp : ParameterInternal}
    (hstale : ∀ list, p.mappings handle = some list → ¬ Stale list ext imp) (reply : Reply Unit) :
    unwindParam handle ext imp reply p = p := by
  unfold unwindParam
  split
  next hmapped =>
    apply mcUnmap_unnamed
    intro haddr hbuf list hlist blkBuf hmem hnames
    exact hstale list hlist ⟨⟨hbuf, hmapped.2, haddr⟩, blkBuf, hmem, hnames⟩
  next => rfl

/-- Nothing is unmapped for a parameter that has nothing mapped. -/
theorem unwindParam_unmapped {ext : Parameter} {imp : ParameterInternal}
    (h : ext.buffer = 0 ∨ imp.mapInfo.sVirtualLen = 0) (reply : Reply Unit) :
    unwindParam handle ext imp reply p = p := by
  apply unwindParam_of_not_stale
  rintro list - ⟨⟨hbuf, hlen, -⟩, -⟩
  exact h.elim hbuf hlen

theorem unwindLoop_append (is js : List (Fin 4)) (p : Process) :
    unwindLoop handle operation params replies (is ++ js) p =
      unwindLoop handle operation params replies js
        (unwindLoop handle operation params replies is p) := by
  induction is generalizing p with
  | nil => rfl
  | cons i is ih => exact ih _

theorem unwindLoop_of_not_stale {is : List (Fin 4)} (hstale : ∀ i ∈ is,
      ∀ list, p.mappings handle = some list → ¬ Stale list (operation i) (params i)) :
    unwindLoop handle operation params replies is p = p := by
  induction is with
  | nil => rfl
  | cons i is ih =>
      rw [unwindLoop, unwindParam_of_not_stale (hstale i List.mem_cons_self)]
      exact ih fun j hj => hstale j (List.mem_cons_of_mem i hj)

/-- Accepted parameters are mapped where the session has nothing. -/
theorem AllAccepted.unlisted {is : List (Fin 4)}
    (h : AllAccepted w operation answers is list) :
    ∀ i ∈ is, ∀ blkBuf ∈ (operation i).descriptor (answers i), Unlisted list blkBuf.virtAddr := by
  induction is generalizing list with
  | nil => exact fun i hi => absurd hi List.not_mem_nil
  | cons j is ih =>
      intro i hi blkBuf hblkBuf
      rcases List.mem_cons.mp hi with rfl | hi
      · obtain ⟨mapping, hmapping, hgranted⟩ := Option.bind_eq_some_iff.mp hblkBuf
        rw [virtAddr_granted hgranted]
        exact (h.1.mapped mapping hmapping).1
      · obtain ⟨hbuf, hunlisted⟩ := ih h.2 i hi blkBuf hblkBuf
        rw [List.map_append] at hunlisted
        exact ⟨hbuf, fun hmem => hunlisted (List.mem_append_left _ hmem)⟩

/-- What was listed for accepted parameters is taken from the list again. -/
theorem unwindLoop_done (params : Fin 4 → ParameterInternal) (replies : Fin 4 → Reply Unit)
    {done : List (Fin 4)}
    (hlist : p.mappings handle = some (listedBehind operation answers done list))
    (hunlisted : ∀ i ∈ done, ∀ blkBuf ∈ (operation i).descriptor (answers i),
      Unlisted list blkBuf.virtAddr)
    (hrecorded : ∀ i ∈ done, Recorded (operation i) (answers i) (params i))
    (hfound : ∀ i ∈ done, ∀ blkBuf ∈ (operation i).descriptor (answers i),
      Found blkBuf ∧ replies i = .answered mcDrvOk ())
    (hhandles : ∀ blkBuf ∈ list, blkBuf.handle ≠ 0) :
    (unwindLoop handle operation params replies done p).mappings =
      Function.update p.mappings handle (some list) := by
  induction done generalizing p with
  | nil =>
      rw [listedBehind, List.filterMap_nil, List.append_nil] at hlist
      rw [unwindLoop, ← hlist, Function.update_eq_self]
  | cons i is ih =>
      have hrest := fun q hlist' => ih (p := q) hlist'
        (fun j hj => hunlisted j (List.mem_cons_of_mem i hj))
        (fun j hj => hrecorded j (List.mem_cons_of_mem i hj))
        (fun j hj => hfound j (List.mem_cons_of_mem i hj))
      have hrecord := hrecorded i List.mem_cons_self
      rw [unwindLoop]
      cases hdescriptor : (operation i).descriptor (answers i) with
      | none =>
          rw [Recorded, hdescriptor] at hrecord
          rw [listedBehind, List.filterMap_cons, hdescriptor] at hlist
          rw [unwindParam_unmapped hrecord]
          exact hrest p hlist
      | some blkBuf =>
          rw [Recorded, hdescriptor] at hrecord
          rw [listedBehind, List.filterMap_cons, hdescriptor] at hlist
          obtain ⟨hbuf, hnew⟩ := hunlisted i List.mem_cons_self blkBuf hdescriptor
          obtain ⟨⟨haddr, hlen, hhandle⟩, hreply⟩ := hfound i List.mem_cons_self blkBuf hdescriptor
          have hall : ∀ listed ∈ list ++ blkBuf :: is.filterMap fun j =>
              (operation j).descriptor (answers j), listed.handle ≠ 0 := by
            intro listed hmem
            rcases List.mem_append.mp hmem with hold | hmem
            · exact hhandles listed hold
            rcases List.mem_cons.mp hmem with rfl | hmem
            · exact hhandle
            · obtain ⟨j, hj, hlisted⟩ := List.mem_filterMap.mp hmem
              exact (hfound j (List.mem_cons_of_mem i hj) listed hlisted).1.2.2
          have hunwound : (unwindParam handle (operation i) (params i) (replies i) p).mappings =
              Function.update p.mappings handle
                (some (listedBehind operation answers is list)) := by
            rw [unwindParam, buffer_of_descriptor hdescriptor, hrecord, hreply,
              if_pos ⟨hbuf, hlen⟩]
            rw [mcUnmap_agreed hlist hbuf haddr
              ⟨blkBuf, List.mem_append_right list List.mem_cons_self, rfl, rfl⟩ hall,
              KeyedList.delete_append_cons hnew]
            rfl
          rw [hrest _ (by rw [hunwound, Function.update_self]), hunwound, Function.update_idem]

end Unwind

/-! ## Operations that are not set up -/

/-- The parameters `done` are accepted, and then the operation is not set up. -/
def FailsBehind (w : PointerWidth) (operation : Operation) (env : SetupEnvironment)
    (list : List BulkBufferDescriptor) (done rest : List (Fin 4)) : Prop :=
  AllAccepted w operation env.map done list ∧
    match rest with
    | [] => env.cancelled = true
    | i :: _ =>
        ¬ (operation i).Accepted w (env.map i) (listedBehind operation env.map done list)

instance (w : PointerWidth) (operation : Operation) (env : SetupEnvironment)
    (list : List BulkBufferDescriptor) (done rest : List (Fin 4)) :
    Decidable (FailsBehind w operation env list done rest) :=
  match rest with
  | [] => inferInstanceAs (Decidable (_ ∧ _))
  | _ :: _ => inferInstanceAs (Decidable (_ ∧ ¬ _))

/-- The parameters that have the record of an earlier call: those behind the one that was refused,
and this one when its record was not cleared. -/
def untouched (w : PointerWidth) (operation : Operation) : List (Fin 4) → List (Fin 4)
  | [] => []
  | i :: is => if (operation i).Bad w then i :: is else is

/-- What was mapped for the parameters `done` is unmapped, and nothing else. -/
structure Undoable (w : PointerWidth) (tci : TeecTci) (operation : Operation)
    (env : SetupEnvironment) (list : List BulkBufferDescriptor) (done rest : List (Fin 4)) :
    Prop where
  found : ∀ i ∈ done, ∀ blkBuf ∈ (operation i).descriptor (env.map i),
    tci.Reports ∧ Found blkBuf ∧ env.unmap i = .answered mcDrvOk ()
  fresh : tci.Reports →
    ∀ i ∈ untouched w operation rest, ¬ Stale list (operation i) (tci.params i)
  kept : ∀ i ∈ rest.head?,
    ¬ (operation i).Lost w (env.map i) (listedBehind operation env.map done list)

instance (w : PointerWidth) (tci : TeecTci) (operation : Operation) (env : SetupEnvironment)
    (list : List BulkBufferDescriptor) (done rest : List (Fin 4)) :
    Decidable (Undoable w tci operation env list done rest) :=
  decidable_of_iff
    ((∀ i ∈ done, ∀ blkBuf ∈ (operation i).descriptor (env.map i),
        tci.Reports ∧ Found blkBuf ∧ env.unmap i = .answered mcDrvOk ()) ∧
      (tci.Reports →
        ∀ i ∈ untouched w operation rest, ¬ Stale list (operation i) (tci.params i)) ∧
      ∀ i ∈ rest.head?,
        ¬ (operation i).Lost w (env.map i) (listedBehind operation env.map done list))
    ⟨fun h => ⟨h.1, h.2.1, h.2.2⟩, fun h => ⟨h.found, h.fresh, h.kept⟩⟩

/-- Wherever the operation fails, it can be undone. -/
def FailuresUndoable (w : PointerWidth) (tci : TeecTci) (operation : Operation)
    (env : SetupEnvironment) (list : List BulkBufferDescriptor) : Prop :=
  ∀ n : Fin 5,
    FailsBehind w operation env list ((List.finRange 4).take n) ((List.finRange 4).drop n) →
      Undoable w tci operation env list ((List.finRange 4).take n) ((List.finRange 4).drop n)

instance (w : PointerWidth) (tci : TeecTci) (operation : Operation) (env : SetupEnvironment)
    (list : List BulkBufferDescriptor) : Decidable (FailuresUndoable w tci operation env list) :=
  inferInstanceAs (Decidable (∀ n : Fin 5,
    FailsBehind w operation env list ((List.finRange 4).take n) ((List.finRange 4).drop n) →
      Undoable w tci operation env list ((List.finRange 4).take n) ((List.finRange 4).drop n)))

section NotSetUp

variable {w : PointerWidth} {handle : SessionHandle} {operation : Operation}
  {env : SetupEnvironment} {tci : TeecTci} {p q : Process} {list : List BulkBufferDescriptor}

theorem listedBehind_eq_self {answers : Fin 4 → MapAnswers} {is : List (Fin 4)}
    (h : ∀ i ∈ is, (operation i).descriptor (answers i) = none) (list : List BulkBufferDescriptor) :
    listedBehind operation answers is list = list := by
  rw [listedBehind, List.filterMap_eq_nil_iff.mpr h, List.append_nil]

/-- Unwinding restores the list, when each record is one of this call or names nothing. -/
theorem unwindOperation_undone (tci : TeecTci) {done rest : List (Fin 4)}
    (hdone : List.finRange 4 = done ++ rest)
    (hlist : p.mappings handle = some list)
    (hq : q.mappings = Function.update p.mappings handle
      (some (listedBehind operation env.map done list)))
    (hunlisted : ∀ i ∈ done, ∀ blkBuf ∈ (operation i).descriptor (env.map i),
      Unlisted list blkBuf.virtAddr)
    (hrecorded : ∀ i ∈ done, Recorded (operation i) (env.map i) (tci.params i))
    (hfound : ∀ i ∈ done, ∀ blkBuf ∈ (operation i).descriptor (env.map i),
      tci.Reports ∧ Found blkBuf ∧ env.unmap i = .answered mcDrvOk ())
    (hfresh : tci.Reports → ∀ i ∈ rest, ¬ Stale list (operation i) (tci.params i))
    (hhandles : ∀ blkBuf ∈ list, blkBuf.handle ≠ 0) :
    (unwindOperation w tci handle (some operation) false env.unmap q).process.mappings =
      p.mappings := by
  have hq' : q.mappings handle = some (listedBehind operation env.map done list) := by
    rw [hq, Function.update_self]
  unfold unwindOperation
  dsimp only
  split
  next hreports =>
    have hrestored := unwindLoop_done tci.params env.unmap hq' hunlisted hrecorded
      (fun i hi blkBuf hblkBuf => (hfound i hi blkBuf hblkBuf).2) hhandles
    rw [hq, Function.update_idem, ← hlist, Function.update_eq_self] at hrestored
    dsimp only
    rw [hdone, unwindLoop_append, unwindLoop_of_not_stale, hrestored]
    intro i hi list' hlist'
    rw [hrestored, hlist] at hlist'
    cases hlist'
    exact hfresh hreports i hi
  next hsilent =>
    have hnone : ∀ i ∈ done, (operation i).descriptor (env.map i) = none := by
      intro i hi
      rw [Option.eq_none_iff_forall_ne_some]
      exact fun blkBuf hblkBuf => hsilent (hfound i hi blkBuf hblkBuf).1
    dsimp only
    rw [hq, listedBehind_eq_self hnone, ← hlist, Function.update_eq_self]

theorem FailuresUndoable.undoable (h : FailuresUndoable w tci operation env list)
    {done rest : List (Fin 4)} (hsplit : List.finRange 4 = done ++ rest)
    (hfails : FailsBehind w operation env list done rest) :
    Undoable w tci operation env list done rest := by
  have hlength : done.length < 5 := by
    have hsum := congrArg List.length hsplit
    rw [List.length_finRange, List.length_append] at hsum
    omega
  have hdone : (List.finRange 4).take done.length = done := by
    rw [hsplit, List.take_left']
    rfl
  have hrest : (List.finRange 4).drop done.length = rest := by
    rw [hsplit, List.drop_left']
    rfl
  have hn := h ⟨done.length, hlength⟩
  dsimp only at hn
  rw [hdone, hrest] at hn
  exact hn hfails

/-- An operation that is not set up leaves every list as it was. -/
theorem setupOperation_undone (hlist : p.mappings handle = some list)
    (herror : ∀ i, (env.map i).registered ≠ .error mcDrvOk)
    (hhandles : ∀ blkBuf ∈ list, blkBuf.handle ≠ 0)
    (hundo : FailuresUndoable w tci operation env list)
    (hfails : (setupOperation w tci handle (some operation) env p).result ≠ teecSuccess) :
    (setupOperation w tci handle (some operation) env p).process.mappings = p.mappings := by
  rw [setupOperation] at hfails ⊢
  dsimp only at hfails ⊢
  rcases setupLoop_cases w operation herror (List.nodup_finRange 4) hlist tci.params with
    ⟨haccepted, params, q, hloop, hrecorded, hmappings⟩ |
    ⟨done, i, rest, error, params, q, hdone, hloop, hstops, hmappings⟩
  · rw [hloop] at hfails ⊢
    cases hcancelled : env.cancelled with
    | false =>
        simp only [hcancelled, Bool.false_eq_true, if_false] at hfails
        exact absurd rfl hfails
    | true =>
        have hundoable := hundo.undoable (List.append_nil _).symm ⟨haccepted, hcancelled⟩
        simp only [if_true]
        exact unwindOperation_undone _ (List.append_nil _).symm hlist hmappings haccepted.unlisted
          hrecorded hundoable.found (fun _ j hj => absurd hj List.not_mem_nil) hhandles
  · have hundoable := hundo.undoable hdone ⟨hstops.accepted, hstops.refused⟩
    have hfresh : tci.Reports → ∀ j ∈ i :: rest, ¬ Stale list (operation j) (params j) := by
      intro hreports j hj
      by_cases hbad : (operation i).Bad w
      · have hsame : params j = tci.params j := by
          rcases List.mem_cons.mp hj with rfl | hj
          · exact hstops.kept hbad
          · exact hstops.untouched j hj
        rw [hsame]
        apply hundoable.fresh hreports
        rw [untouched, if_pos hbad]
        exact hj
      · rcases List.mem_cons.mp hj with rfl | hj
        · exact fun hstale => hstale.1.2.1 (hstops.cleared hbad)
        · rw [hstops.untouched j hj]
          apply hundoable.fresh hreports
          rw [untouched, if_neg hbad]
          exact hj
    have hrestored := fun cancelled => unwindOperation_undone (w := w)
      { tci with params := params, isCancelled := cancelled } hdone hlist
      (hmappings (hundoable.kept i rfl)) hstops.accepted.unlisted hstops.recorded hundoable.found
      hfresh hhandles
    rw [hloop]
    cases hcancelled : env.cancelled with
    | false => exact hrestored false
    | true => exact hrestored true

theorem setupOperation_unopened (hlist : p.mappings handle = none)
    (herror : ∀ i, (env.map i).registered ≠ .error mcDrvOk) :
    (setupOperation w tci handle (some operation) env p).process.mappings = p.mappings := by
  have hloop := setupLoop_unopened w operation herror (List.finRange 4) hlist tci.params
  rw [setupOperation]
  dsimp only
  generalize setupLoop w handle operation env.map (List.finRange 4) tci.params p = result at hloop
  obtain ⟨error, params, q⟩ := result
  dsimp only at hloop ⊢
  split
  next =>
    unfold unwindOperation
    dsimp only
    split
    · rw [unwindLoop_of_not_stale, hloop]
      intro i hi list hlist'
      rw [hloop, hlist] at hlist'
      cases hlist'
    · exact hloop
  next => exact hloop

end NotSetUp

end Gp

end Exynos8890.MobiCore.ClientLib
