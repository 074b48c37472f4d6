import Exynos8890.MobiCore.ClientLib.OperationUnwinding
import Exynos8890.MobiCore.ClientLib.SessionLifeCycle

/-!
# What calls leave mapped

A call of the application maps the buffers of its operation and unmaps them behind the answer.
The records that say what to unmap stand in the page, where the application can write.

Main results:

- Theorem `unwindLoop_unlists`: a buffer with its record in the page leaves the list.
- Theorem `callTA_mapsFewer`: a call of the application leaves no mapping behind.
- Theorem `unwindsCompletely_run`: in every sequence of calls nothing is left mapped.
- Theorem `not_unwindsCompletely`: a buffer that stays mapped behind an error of the application.
-/

namespace Exynos8890.MobiCore.ClientLib

namespace Gp

open CStruct Process ResourceLog

/-! ## Unwinding behind the answer -/

section Unwind

variable {w : PointerWidth} {handle : SessionHandle} {operation : Operation}
  {answers : Fin 4 → MapAnswers} {params : Fin 4 → ParameterInternal}
  {replies : Fin 4 → Reply Unit} {p : Process} {list base : List BulkBufferDescriptor}
  {blkBuf : BulkBufferDescriptor}

theorem unwindParam_mapsFewer (hp : p.Distinct) (ext : Parameter) (imp : ParameterInternal)
    (reply : Reply Unit) : MapsFewer p (unwindParam handle ext imp reply p) := by
  unfold unwindParam
  split
  · exact mcUnmap_mapsFewer hp _ _ _
  · exact MapsFewer.refl p

theorem unwindLoop_mapsFewer (hp : p.Distinct) (is : List (Fin 4)) :
    MapsFewer p (unwindLoop handle operation params replies is p) := by
  induction is generalizing p with
  | nil => exact MapsFewer.refl p
  | cons i is ih =>
      have hparam := unwindParam_fewer handle hp (operation i) (params i) (replies i)
      exact (unwindParam_mapsFewer hp _ _ _).trans (ih hparam.distinct)

theorem unwindOperation_mapsFewer (hp : p.Distinct) (tci : TeecTci) (operation : Option Operation)
    (copyValues : Bool) :
    MapsFewer p (unwindOperation w tci handle operation copyValues replies p).process := by
  cases operation with
  | none => exact MapsFewer.refl p
  | some ext =>
      unfold unwindOperation
      dsimp only
      split
      · exact unwindLoop_mapsFewer hp _
      · exact MapsFewer.refl p

/-- A list has one descriptor for the buffer of another one. -/
structure ListedOnce (blkBuf : BulkBufferDescriptor) (base : List BulkBufferDescriptor) : Prop where
  split : ∃ before behind, base = before ++ blkBuf :: behind ∧
    blkBuf.virtAddr ∉ before.map BulkBufferDescriptor.virtAddr ∧
    blkBuf.virtAddr ∉ behind.map BulkBufferDescriptor.virtAddr

/-- What is left of such a list has the descriptor once, or nothing for its buffer. -/
theorem ListedOnce.sublist (h : ListedOnce blkBuf base) (hsub : list.Sublist base) :
    blkBuf.virtAddr ∉ list.map BulkBufferDescriptor.virtAddr ∨ ListedOnce blkBuf list := by
  obtain ⟨before, behind, rfl, hbefore, hbehind⟩ := h.split
  obtain ⟨left, right, rfl, hleft, hright⟩ := List.sublist_append_iff.mp hsub
  have hbefore' : blkBuf.virtAddr ∉ left.map BulkBufferDescriptor.virtAddr :=
    fun hmem => hbefore ((hleft.map _).subset hmem)
  rcases List.sublist_cons_iff.mp hright with hbehind' | ⟨rest, rfl, hrest⟩
  · refine Or.inl fun hmem => ?_
    rw [List.map_append] at hmem
    rcases List.mem_append.mp hmem with hmem | hmem
    · exact hbefore' hmem
    · exact hbehind ((hbehind'.map _).subset hmem)
  · exact Or.inr ⟨left, rest, rfl, hbefore', fun hmem => hbehind ((hrest.map _).subset hmem)⟩

theorem ListedOnce.mem (h : ListedOnce blkBuf base) : blkBuf ∈ base := by
  obtain ⟨before, behind, rfl, -, -⟩ := h.split
  exact List.mem_append_right before List.mem_cons_self

theorem ListedOnce.delete (h : ListedOnce blkBuf base) :
    blkBuf.virtAddr ∉ (KeyedList.delete BulkBufferDescriptor.virtAddr blkBuf.virtAddr base).map
      BulkBufferDescriptor.virtAddr := by
  obtain ⟨before, behind, rfl, hbefore, hbehind⟩ := h.split
  rw [KeyedList.delete_append_cons hbefore, List.map_append]
  exact fun hmem => (List.mem_append.mp hmem).elim hbefore hbehind

/-- The descriptor of an accepted parameter is the only one for its buffer. -/
theorem AllAccepted.listedOnce {is : List (Fin 4)} (h : AllAccepted w operation answers is list)
    {i : Fin 4} (hi : i ∈ is) (hblkBuf : (operation i).descriptor (answers i) = some blkBuf) :
    ListedOnce blkBuf (listedBehind operation answers is list) := by
  induction is generalizing list with
  | nil => exact absurd hi List.not_mem_nil
  | cons j is ih =>
      rcases List.mem_cons.mp hi with rfl | hi
      · have hnew := AllAccepted.unlisted h i List.mem_cons_self blkBuf hblkBuf
        have hrest := AllAccepted.unlisted h.2
        rw [hblkBuf] at hrest
        refine ⟨list, is.filterMap fun j => (operation j).descriptor (answers j), ?_, hnew.2, ?_⟩
        · rw [listedBehind, List.filterMap_cons, hblkBuf]
        · intro hmem
          obtain ⟨listed, hlisted, hsame⟩ := List.mem_map.mp hmem
          obtain ⟨j, hj, hdescriptor⟩ := List.mem_filterMap.mp hlisted
          have hunlisted := (hrest j hj listed hdescriptor).2
          rw [hsame] at hunlisted
          exact hunlisted (List.mem_map_of_mem (List.mem_append_right list List.mem_cons_self))
      · rw [listedBehind_cons]
        exact ih h.2 hi

/-- A buffer with its record in the page leaves the list, whatever the daemon answers. -/
theorem unwindParam_unlists (hp : p.Distinct) {ext : Parameter} {imp : ParameterInternal}
    (hlist : ∀ list, p.mappings handle = some list → list.Sublist base)
    (hhandles : ∀ listed ∈ base, listed.handle ≠ 0) (honce : ListedOnce blkBuf base)
    (hbuffer : ext.buffer = blkBuf.virtAddr) (hbuf : blkBuf.virtAddr ≠ 0)
    (hrecord : imp.mapInfo = mapInfoOf blkBuf) (hfound : Found blkBuf) (reply : Reply Unit) :
    ∀ list, (unwindParam handle ext imp reply p).mappings handle = some list →
      blkBuf.virtAddr ∉ list.map BulkBufferDescriptor.virtAddr := by
  intro list hafter
  obtain ⟨before, hbefore, hsub⟩ := unwindParam_mapsFewer hp ext imp reply handle list hafter
  rcases honce.sublist (hlist before hbefore) with hgone | hbase
  · exact fun hmem => hgone ((hsub.map _).subset hmem)
  obtain ⟨haddr, hlen, -⟩ := hfound
  have hnames : ∃ listed ∈ before, (mapInfoOf blkBuf).Names listed :=
    ⟨blkBuf, hbase.mem, rfl, rfl⟩
  have hnonzero : ∀ listed ∈ before, listed.handle ≠ 0 :=
    fun listed hmem => hhandles listed ((hlist before hbefore).subset hmem)
  rw [unwindParam, hbuffer, hrecord, if_pos ⟨hbuf, hlen⟩] at hafter
  by_cases hreply : reply = .answered mcDrvOk ()
  · rw [hreply, mcUnmap_agreed hbefore hbuf haddr hnames hnonzero, Function.update_self] at hafter
    cases hafter
    exact hbase.delete
  · rw [mcUnmap_refused hbefore hbuf haddr hnames hnonzero hp hreply] at hafter
    cases hafter

theorem unwindLoop_unlists (replies : Fin 4 → Reply Unit) (hp : p.Distinct)
    {is : List (Fin 4)} {i : Fin 4} (hi : i ∈ is)
    (hlist : ∀ list, p.mappings handle = some list → list.Sublist base)
    (hhandles : ∀ listed ∈ base, listed.handle ≠ 0) (honce : ListedOnce blkBuf base)
    (hbuffer : (operation i).buffer = blkBuf.virtAddr) (hbuf : blkBuf.virtAddr ≠ 0)
    (hrecord : (params i).mapInfo = mapInfoOf blkBuf) (hfound : Found blkBuf) :
    ∀ list, (unwindLoop handle operation params replies is p).mappings handle = some list →
      blkBuf.virtAddr ∉ list.map BulkBufferDescriptor.virtAddr := by
  induction is generalizing p with
  | nil => exact absurd hi List.not_mem_nil
  | cons j is ih =>
      have hdistinct := (unwindParam_fewer handle hp (operation j) (params j) (replies j)).distinct
      have hfewer : MapsFewer p (unwindParam handle (operation j) (params j) (replies j) p) :=
        unwindParam_mapsFewer hp _ _ _
      rcases List.mem_cons.mp hi with rfl | hi
      · intro list hafter
        have hrest : MapsFewer _ (unwindLoop handle operation params replies is
            (unwindParam handle (operation i) (params i) (replies i) p)) :=
          unwindLoop_mapsFewer hdistinct is
        obtain ⟨before, hbefore, hsub⟩ := hrest handle list hafter
        have hgone := unwindParam_unlists hp hlist hhandles honce hbuffer hbuf hrecord hfound
          (replies i) before hbefore
        exact fun hmem => hgone ((hsub.map _).subset hmem)
      · refine ih hdistinct hi fun list hafter => ?_
        obtain ⟨before, hbefore, hsub⟩ := hfewer handle list hafter
        exact hsub.trans (hlist before hbefore)

end Unwind

/-! ## Calls of the application -/

/-- The session stays open: the application answers, or the daemon does not close the session. -/
def StaysOpen (env : CallEnvironment) : Prop :=
  (env.sent = true ∧ env.wait ≠ .dead) ∧
    (waitError (waitCode env.wait) env.lastErr = teecSuccess ∨ Refuses env.close)

instance (env : CallEnvironment) : Decidable (StaysOpen env) :=
  inferInstanceAs (Decidable (_ ∧ _))

/-- The page holds the record of every parameter that was mapped, and reports no error. -/
def Kept (operation : Operation) (env : CallEnvironment) : Prop :=
  ∀ i, ∀ blkBuf ∈ (operation i).descriptor (env.map i),
    env.answer.Reports ∧ (env.answer.params i).mapInfo = mapInfoOf blkBuf ∧ Found blkBuf

instance (operation : Operation) (env : CallEnvironment) : Decidable (Kept operation env) :=
  inferInstanceAs (Decidable (∀ i, ∀ blkBuf ∈ (operation i).descriptor (env.map i), _))

section CallTA

variable {w : PointerWidth} {handle : SessionHandle} {p : Process}
  {list : List BulkBufferDescriptor}

theorem exchange_mapsFewer (handle : SessionHandle) (hp : p.Distinct) (tci : TeecTci)
    (env : CallEnvironment) :
    MapsFewer p (exchange handle tci env p).2.2 := by
  have hnotify : MapsFewer p (p.mcNotify handle env.sent).2 := mcNotify_mapsFewer hp env.sent
  have hdistinct : (p.mcNotify handle env.sent).2.Distinct := (mcNotify_fewer hp env.sent).distinct
  unfold exchange
  split
  next mcRet q hq =>
    rw [hq] at hnotify hdistinct
    split
    · exact hnotify
    · exact hnotify.trans (mcWaitNotification_mapsFewer hdistinct env.wait)

/-- The answer is in the page, or the session went with its device. -/
theorem exchange_cases (handle : SessionHandle) (hp : p.Distinct) (tci : TeecTci)
    (env : CallEnvironment) :
    (env.sent = true ∧ env.wait ≠ .dead) ∧ exchange handle tci env p =
        (waitError (waitCode env.wait) env.lastErr, env.answer, p) ∨
      (exchange handle tci env p).2.2.mappings handle = none := by
  rcases mcNotify_cases handle hp env.sent with ⟨hsent, hnotify⟩ | hnotify
  · rcases mcWaitNotification_cases handle hp env.wait with ⟨halive, hwait⟩ | hwait
    · refine Or.inl ⟨⟨hsent, halive⟩, ?_⟩
      rw [exchange, hnotify]
      dsimp only
      rw [if_neg (not_not_intro rfl), hwait]
    · refine Or.inr ?_
      rw [exchange, hnotify]
      dsimp only
      rw [if_neg (not_not_intro rfl)]
      exact hwait
  · refine Or.inr ?_
    have hdistinct : (p.mcNotify handle env.sent).2.Distinct :=
      (mcNotify_fewer hp env.sent).distinct
    unfold exchange
    split
    next mcRet q hq =>
      rw [hq] at hnotify hdistinct
      split
      · exact hnotify
      · exact (mcWaitNotification_mapsFewer hdistinct env.wait).eq_none hnotify

theorem setupOperation_listed {operation : Operation} {env : SetupEnvironment} {tci : TeecTci}
    (hlist : p.mappings handle = some list)
    (herror : ∀ i, (env.map i).registered ≠ .error mcDrvOk)
    (hok : (setupOperation w tci handle (some operation) env p).result = teecSuccess) :
    AllAccepted w operation env.map (List.finRange 4) list ∧ env.cancelled = false ∧
      (setupOperation w tci handle (some operation) env p).process.mappings =
        Function.update p.mappings handle
          (some (listedBehind operation env.map (List.finRange 4) list)) := by
  rw [setupOperation] at hok ⊢
  dsimp only at hok ⊢
  have hcancelled : env.cancelled = false := by
    by_contra hcancelled
    rw [Bool.not_eq_false] at hcancelled
    simp only [hcancelled, if_true] at hok
    exact absurd hok (by decide)
  rcases setupLoop_cases w operation herror (List.nodup_finRange 4) hlist tci.params with
    ⟨haccepted, params, q, hloop, -, hmappings⟩ |
    ⟨done, i, rest, error, params, q, -, hloop, -, -⟩
  · rw [hloop]
    simp only [hcancelled, Bool.false_eq_true, if_false]
    exact ⟨haccepted, trivial, hmappings⟩
  · rw [hloop] at hok
    simp only [hcancelled, Bool.false_eq_true, if_false] at hok
    exact absurd hok (setupLoop_error hloop)

theorem cleanup_process (o : ObjectRef) (reply : Reply Unit) (c : GpClient) :
    (cleanup o reply c).process =
      (c.process.mcCloseSession (c.sessions o).handle reply).2 := by
  rw [cleanup, munmap_process]
  rfl

/-- The process behind a call of the application that was set up. -/
theorem callTA_process {o : ObjectRef} {addr : UInt64} {tci answer : TeecTci}
    {operation : Option Operation} {env : CallEnvironment} {c : GpClient} {setUp : SetUp}
    {error : TeecResult} {q : Process}
    (hsetUp : setupOperation w tci (c.sessions o).handle operation env.toSetupEnvironment
      c.process = setUp) (hok : setUp.result = teecSuccess)
    (hexchange : exchange (c.sessions o).handle setUp.tci env setUp.process = (error, answer, q)) :
    (callTA w o addr tci operation env c).client.process =
      let unwound := (unwindOperation w answer (c.sessions o).handle operation
        (error = teecSuccess) env.unmap q).process
      if error ≠ teecSuccess then
        (unwound.mcCloseSession (c.sessions o).handle env.close).2
      else unwound := by
  unfold callTA
  dsimp only
  rw [hsetUp, if_neg (not_not_intro hok), hexchange]
  dsimp only
  split
  · have hself : ∀ q, (((c.withProcess q).setTci o addr answer).sessions o).handle =
        (c.sessions o).handle := by
      intro q
      rw [GpClient.setTci, setSession_self]
      rfl
    dsimp only
    rw [cleanup_process, hself]
    rfl
  · rfl

theorem callTA_process_failed {o : ObjectRef} {addr : UInt64} {tci : TeecTci}
    {operation : Option Operation} {env : CallEnvironment} {c : GpClient} {setUp : SetUp}
    (hsetUp : setupOperation w tci (c.sessions o).handle operation env.toSetupEnvironment
      c.process = setUp) (hfails : setUp.result ≠ teecSuccess) :
    (callTA w o addr tci operation env c).client.process = setUp.process := by
  unfold callTA
  dsimp only
  rw [hsetUp, if_pos hfails]
  rfl

theorem sublist_of_append {behind : List BulkBufferDescriptor} {list' : List BulkBufferDescriptor}
    (hsub : list'.Sublist (list ++ behind)) (hnone : ∀ blkBuf ∈ behind, blkBuf ∉ list') :
    list'.Sublist list := by
  obtain ⟨left, right, rfl, hleft, hright⟩ := List.sublist_append_iff.mp hsub
  have hnil : right = [] := by
    apply List.eq_nil_iff_forall_not_mem.mpr
    intro blkBuf hmem
    exact hnone blkBuf (hright.subset hmem) (List.mem_append_right left hmem)
  rw [hnil, List.append_nil]
  exact hleft

section Behind

variable {o : ObjectRef} {addr : UInt64} {tci answer : TeecTci} {env : CallEnvironment}
  {c : GpClient} {setUp : SetUp} {error : TeecResult} {q : Process} {operation : Option Operation}

theorem callTA_mapsFewer_setUp (addr : UInt64) (hp : c.process.Distinct)
    (hsetUp : setupOperation w tci (c.sessions o).handle operation env.toSetupEnvironment
      c.process = setUp) (hok : setUp.result = teecSuccess)
    (hexchange : exchange (c.sessions o).handle setUp.tci env setUp.process = (error, answer, q)) :
    MapsFewer setUp.process q ∧
      MapsFewer q (unwindOperation w answer (c.sessions o).handle operation
        (error = teecSuccess) env.unmap q).process ∧
      MapsFewer (unwindOperation w answer (c.sessions o).handle operation
          (error = teecSuccess) env.unmap q).process
        (callTA w o addr tci operation env c).client.process := by
  have hdistinct : setUp.process.Distinct := by
    rw [← hsetUp]
    exact (setupOperation_fewer (c.sessions o).handle hp tci operation _).distinct
  have hexchanged := exchange_mapsFewer (c.sessions o).handle hdistinct setUp.tci env
  have hexchanged' := (exchange_fewer hdistinct (c.sessions o).handle setUp.tci env).distinct
  rw [hexchange] at hexchanged hexchanged'
  have hunwound := (unwindOperation_fewer (w := w) (c.sessions o).handle hexchanged' answer
    operation (error = teecSuccess) env.unmap).distinct
  refine ⟨hexchanged, unwindOperation_mapsFewer hexchanged' answer operation _, ?_⟩
  rw [callTA_process hsetUp hok hexchange]
  dsimp only
  split
  · exact mcCloseSession_mapsFewer hunwound env.close
  · exact MapsFewer.refl _

/-- What was mapped for an operation is unmapped behind it, or the session is closed. -/
theorem callTA_unlists {ext : Operation} (hp : c.process.Distinct)
    (hsetUp : setupOperation w tci (c.sessions o).handle (some ext) env.toSetupEnvironment
      c.process = setUp) (hok : setUp.result = teecSuccess)
    (haccepted : AllAccepted w ext env.map (List.finRange 4) list)
    (hmappings : setUp.process.mappings = Function.update c.process.mappings (c.sessions o).handle
      (some (listedBehind ext env.map (List.finRange 4) list)))
    (hhandles : ∀ blkBuf ∈ list, blkBuf.handle ≠ 0) (hkept : StaysOpen env → Kept ext env)
    {list' : List BulkBufferDescriptor}
    (hafter : (callTA w o addr tci (some ext) env c).client.process.mappings
      (c.sessions o).handle = some list')
    {i : Fin 4} {blkBuf : BulkBufferDescriptor}
    (hblkBuf : (ext i).descriptor (env.map i) = some blkBuf) : blkBuf ∉ list' := by
  have hdistinct : setUp.process.Distinct := by
    rw [← hsetUp]
    exact (setupOperation_fewer (c.sessions o).handle hp tci (some ext) _).distinct
  generalize hexchange : exchange (c.sessions o).handle setUp.tci env setUp.process = exchanged
  obtain ⟨error, answer, q⟩ := exchanged
  obtain ⟨-, hunwound, hclosed⟩ := callTA_mapsFewer_setUp addr hp hsetUp hok hexchange
  have hopen : (unwindOperation w answer (c.sessions o).handle (some ext) (error = teecSuccess)
      env.unmap q).process.mappings (c.sessions o).handle ≠ none := by
    intro hnone
    rw [hclosed.eq_none hnone] at hafter
    cases hafter
  rcases exchange_cases (c.sessions o).handle hdistinct setUp.tci env with
    ⟨hsent, hcase⟩ | hnone
  · rw [hexchange] at hcase
    cases hcase
    by_cases hstays : StaysOpen env
    · -- the application has left the records in the page
      obtain ⟨hreports, hrecord, hfound⟩ := hkept hstays i blkBuf hblkBuf
      obtain ⟨before, hbefore, hsub⟩ := hclosed (c.sessions o).handle list' hafter
      have hbase : ∀ before, setUp.process.mappings (c.sessions o).handle = some before →
          before.Sublist (listedBehind ext env.map (List.finRange 4) list) := by
        intro before hbefore
        rw [hmappings, Function.update_self] at hbefore
        cases hbefore
        exact List.Sublist.refl _
      have hall : ∀ listed ∈ listedBehind ext env.map (List.finRange 4) list,
          listed.handle ≠ 0 := by
        intro listed hmem
        rcases List.mem_append.mp hmem with hold | hnew
        · exact hhandles listed hold
        · obtain ⟨j, -, hlisted⟩ := List.mem_filterMap.mp hnew
          exact (hkept hstays j listed hlisted).2.2.2.2
      have hi : i ∈ List.finRange 4 := List.mem_finRange i
      have hbuf := (haccepted.unlisted i hi blkBuf hblkBuf).1
      have hgone := unwindLoop_unlists env.unmap hdistinct hi hbase hall
        (haccepted.listedOnce hi hblkBuf) (buffer_of_descriptor hblkBuf) hbuf hrecord hfound
      rw [unwindOperation, if_pos hreports] at hbefore
      intro hmem
      exact hgone before hbefore (List.mem_map_of_mem (hsub.subset hmem))
    · -- the session is closed
      have hfailed : waitError (waitCode env.wait) env.lastErr ≠ teecSuccess :=
        fun hsuccess => hstays ⟨hsent, Or.inl hsuccess⟩
      have hclose : ¬ Refuses env.close := fun hrefuses => hstays ⟨hsent, Or.inr hrefuses⟩
      rw [callTA_process hsetUp hok hexchange] at hafter
      have hunwound' := (unwindOperation_fewer (w := w) (c.sessions o).handle hdistinct env.answer
        (some ext) (waitError (waitCode env.wait) env.lastErr = teecSuccess) env.unmap).distinct
      rw [if_pos hfailed, mappings_mcCloseSession hunwound' hclose] at hafter
      cases hafter
  · rw [hexchange] at hnone
    exact absurd (hunwound.eq_none hnone) hopen

theorem callTA_mapsFewer (hp : c.process.Distinct)
    (hundone : (setupOperation w tci (c.sessions o).handle operation env.toSetupEnvironment
        c.process).result ≠ teecSuccess →
      (setupOperation w tci (c.sessions o).handle operation env.toSetupEnvironment
        c.process).process.mappings = c.process.mappings)
    (herror : ∀ i, (env.map i).registered ≠ .error mcDrvOk)
    (hkept : ∀ ext ∈ operation, ∀ list ∈ c.process.mappings (c.sessions o).handle,
      (∀ blkBuf ∈ list, blkBuf.handle ≠ 0) ∧
        (AllAccepted w ext env.map (List.finRange 4) list → env.cancelled = false →
          StaysOpen env → Kept ext env)) :
    MapsFewer c.process (callTA w o addr tci operation env c).client.process := by
  generalize hsetUp : setupOperation w tci (c.sessions o).handle operation
    env.toSetupEnvironment c.process = setUp at hundone
  by_cases hok : setUp.result = teecSuccess
  · generalize hexchange : exchange (c.sessions o).handle setUp.tci env setUp.process = exchanged
    obtain ⟨error, answer, q⟩ := exchanged
    obtain ⟨hexchanged, hunwound, hclosed⟩ :=
      callTA_mapsFewer_setUp addr hp hsetUp hok hexchange
    have hbehind := hexchanged.trans (hunwound.trans hclosed)
    cases operation with
    | none =>
        have hsame : setUp.process.mappings = c.process.mappings := by
          rw [← hsetUp]
          rfl
        exact (MapsFewer.of_eq hsame).trans hbehind
    | some ext =>
        cases hlist : c.process.mappings (c.sessions o).handle with
        | none =>
            have hsame : setUp.process.mappings = c.process.mappings := by
              rw [← hsetUp]
              exact setupOperation_unopened hlist herror
            exact (MapsFewer.of_eq hsame).trans hbehind
        | some list =>
            have hset : (setupOperation w tci (c.sessions o).handle (some ext)
                env.toSetupEnvironment c.process).result = teecSuccess := by
              rw [hsetUp, hok]
            obtain ⟨haccepted, hcancelled, hmappings⟩ := setupOperation_listed hlist herror hset
            rw [hsetUp] at hmappings
            obtain ⟨hhandles, hanswer⟩ := hkept ext rfl list hlist
            intro other list' hafter
            obtain ⟨before, hbefore, hsub⟩ := hbehind other list' hafter
            rw [hmappings, Function.update_apply] at hbefore
            split at hbefore
            next hsame =>
              subst hsame
              cases hbefore
              refine ⟨list, hlist, sublist_of_append hsub fun blkBuf hmem => ?_⟩
              obtain ⟨i, -, hblkBuf⟩ := List.mem_filterMap.mp hmem
              exact callTA_unlists hp hsetUp hok haccepted hmappings hhandles
                (hanswer haccepted hcancelled) hafter hblkBuf
            next => exact ⟨before, hbefore, hsub⟩
  · rw [callTA_process_failed hsetUp hok]
    exact MapsFewer.of_eq (hundone hok)

end Behind

end CallTA

/-! ## Calls of the client -/

/-- What `_TEEC_SetupOperation` is called with. -/
structure SetUpArgs where
  tci : TeecTci
  handle : SessionHandle
  operation : Option Operation
  env : SetupEnvironment
  process : Process

namespace SetUpArgs

/-- The set-up in a call of the client, if the call gets so far. -/
def ofCall (w : PointerWidth) (c : GpClient) : Call → Option SetUpArgs
  | .openSession _ args operation env =>
      match args.context, env.mmap with
      | some deviceId, some addr =>
          if args.connectionMethod ≠ teecLoginPublic then none
          else
            match c.process.mcOpenGPTA
                { session := true, deviceId := deviceId, service := true, tci := addr
                  len := sizeofTci w } env.answers with
            | (mcRet, sessionId, process) =>
                if mcRet ≠ mcDrvOk then none
                else
                  some
                    { tci := TeecTci.zero
                      handle := { sessionId := sessionId.getD 0, deviceId := deviceId }
                      operation := operation
                      env := env.toSetupEnvironment
                      process := process }
      | _, _ => none
  | .invokeCommand o operation env =>
      if (c.sessions o).active = false then none
      else
        (c.sessions o).tci.map fun page =>
          { tci := page.2
            handle := (c.sessions o).handle
            operation := operation
            env := env.toSetupEnvironment
            process := c.process }
  | .closeSession o env =>
      if (c.sessions o).active = false then none
      else
        (c.sessions o).tci.map fun page =>
          { tci := page.2
            handle := (c.sessions o).handle
            operation := none
            env := env.toSetupEnvironment
            process := c.process }

/-- `_TEEC_SetupOperation`. -/
def setUp (w : PointerWidth) (s : SetUpArgs) : SetUp :=
  setupOperation w s.tci s.handle s.operation s.env s.process

/-- An operation that is not set up leaves every list of mappings as it was. -/
def Unwinds (w : PointerWidth) (s : SetUpArgs) : Prop :=
  (s.setUp w).result ≠ teecSuccess → (s.setUp w).process.mappings = s.process.mappings

/-- What is mapped before a failure can be unmapped again.  The driver never reports its success
as an error, and it gives no buffer the handle 0. -/
def Recoverable (w : PointerWidth) (s : SetUpArgs) : Prop :=
  (∀ i, (s.env.map i).registered ≠ .error mcDrvOk) ∧
    ∀ operation ∈ s.operation, ∀ list ∈ s.process.mappings s.handle,
      (∀ blkBuf ∈ list, blkBuf.handle ≠ 0) ∧ FailuresUndoable w s.tci operation s.env list

instance (w : PointerWidth) (s : SetUpArgs) : Decidable (s.Recoverable w) :=
  inferInstanceAs (Decidable (_ ∧ ∀ operation ∈ s.operation,
    ∀ list ∈ s.process.mappings s.handle, _ ∧ FailuresUndoable w s.tci operation s.env list))

/-- The application leaves the records of what was mapped, when the session stays open. -/
def Answered (w : PointerWidth) (s : SetUpArgs) (env : CallEnvironment) : Prop :=
  ∀ operation ∈ s.operation, ∀ list ∈ s.process.mappings s.handle,
    AllAccepted w operation env.map (List.finRange 4) list → env.cancelled = false →
      StaysOpen env → Kept operation env

instance (w : PointerWidth) (s : SetUpArgs) (env : CallEnvironment) :
    Decidable (s.Answered w env) :=
  inferInstanceAs (Decidable (∀ operation ∈ s.operation, ∀ list ∈ s.process.mappings s.handle,
    AllAccepted w operation env.map (List.finRange 4) list → env.cancelled = false →
      StaysOpen env → Kept operation env))

theorem Recoverable.unwinds {w : PointerWidth} {s : SetUpArgs} (h : s.Recoverable w) :
    s.Unwinds w := by
  obtain ⟨tci, handle, operation, env, process⟩ := s
  obtain ⟨herror, hundo⟩ := h
  intro hfails
  cases operation with
  | none => exact absurd rfl hfails
  | some ext =>
      cases hlist : process.mappings handle with
      | none => exact setupOperation_unopened hlist herror
      | some list =>
          obtain ⟨hhandles, hundo⟩ := hundo ext rfl list hlist
          exact setupOperation_undone hlist herror hhandles hundo hfails

end SetUpArgs

/-- A set-up that fails has unmapped exactly what it mapped, and a command leaves nothing
mapped. -/
def UnwindsCompletely (w : PointerWidth) (c : GpClient) (call : Call) : Prop :=
  (∀ s ∈ SetUpArgs.ofCall w c call, s.Unwinds w) ∧
    match call with
    | .invokeCommand o operation env =>
        ∀ called ∈ invokeCommand w o operation env c, MapsFewer c.process called.client.process
    | .openSession .. | .closeSession .. => True

/-- What was mapped can be unmapped, when the set-up fails and when a command returns. -/
def Recoverable (w : PointerWidth) (c : GpClient) (call : Call) : Prop :=
  ∀ s ∈ SetUpArgs.ofCall w c call, s.Recoverable w ∧
    match call with
    | .invokeCommand _ _ env => s.Answered w env
    | .openSession .. | .closeSession .. => True

instance (w : PointerWidth) (c : GpClient) (call : Call) : Decidable (Recoverable w c call) :=
  match call with
  | .invokeCommand _ _ env =>
      inferInstanceAs (Decidable (∀ s ∈ (_ : Option SetUpArgs), s.Recoverable w ∧ s.Answered w env))
  | .openSession .. | .closeSession .. =>
      inferInstanceAs (Decidable (∀ s ∈ (_ : Option SetUpArgs), s.Recoverable w ∧ True))

section Calls

variable {w : PointerWidth} {c : GpClient} {o : ObjectRef}

theorem invokeCommand_process {operation : Option Operation} {env : CallEnvironment}
    {called : CallResult} (hcalled : invokeCommand w o operation env c = some called) :
    (SetUpArgs.ofCall w c (.invokeCommand o operation env) = none ∧
        called.client.process = c.process) ∨
      ∃ addr tci, SetUpArgs.ofCall w c (.invokeCommand o operation env) =
          some
            { tci := tci, handle := (c.sessions o).handle, operation := operation
              env := env.toSetupEnvironment, process := c.process } ∧
        called.client.process = (callTA w o addr tci operation env c).client.process := by
  unfold invokeCommand at hcalled
  rw [SetUpArgs.ofCall]
  split at hcalled
  next hinactive =>
    cases hcalled
    exact Or.inl ⟨if_pos hinactive, rfl⟩
  next hactive =>
    obtain ⟨⟨addr, tci⟩, htci, rfl⟩ := Option.map_eq_some_iff.mp hcalled
    refine Or.inr ⟨addr, tci, ?_, ?_⟩
    · rw [if_neg hactive, htci]
      rfl
    · dsimp only
      split
      · rfl
      split
      · rfl
      · rfl

theorem invokeCommand_mapsFewer (hp : c.process.Distinct) {operation : Option Operation}
    {env : CallEnvironment} (h : Recoverable w c (.invokeCommand o operation env)) :
    ∀ called ∈ invokeCommand w o operation env c,
      MapsFewer c.process called.client.process := by
  intro called hcalled
  rcases invokeCommand_process hcalled with ⟨-, hsame⟩ | ⟨addr, tci, hargs, hprocess⟩
  · rw [hsame]
    exact MapsFewer.refl c.process
  · obtain ⟨hrecoverable, hanswered⟩ := h _ hargs
    rw [hprocess]
    exact callTA_mapsFewer hp hrecoverable.unwinds hrecoverable.1 fun ext hext list hlist =>
      ⟨(hrecoverable.2 ext hext list hlist).1, hanswered ext hext list hlist⟩

theorem unwindsCompletely_of_recoverable (hp : c.process.Distinct) {call : Call}
    (h : Recoverable w c call) : UnwindsCompletely w c call := by
  refine ⟨fun s hs => (h s hs).1.unwinds, ?_⟩
  cases call with
  | invokeCommand o operation env => exact invokeCommand_mapsFewer hp h
  | openSession o args operation env => trivial
  | closeSession o env => trivial

/-! ## Every sequence of calls -/

theorem callTA_distinct (hp : c.process.Distinct) (addr : UInt64) (tci : TeecTci)
    (operation : Option Operation) (env : CallEnvironment) :
    (callTA w o addr tci operation env c).client.process.Distinct := by
  have hsetUp := (setupOperation_fewer (w := w) (c.sessions o).handle hp tci operation
    env.toSetupEnvironment).distinct
  unfold callTA
  dsimp only
  split
  · exact hsetUp
  · have hexchange := (exchange_fewer hsetUp (c.sessions o).handle
      (setupOperation w tci (c.sessions o).handle operation env.toSetupEnvironment c.process).tci
      env).distinct
    have hunwound := fun tci copyValues => (unwindOperation_fewer (w := w) (c.sessions o).handle
      hexchange tci operation copyValues env.unmap).distinct
    split
    · dsimp only
      rw [cleanup_process]
      exact mcCloseSession_distinct (hunwound _ _) env.close
    · exact hunwound _ _

theorem openFailed_distinct (hp : c.process.Distinct) (reply : Reply Unit) :
    (openFailed o reply c).process.Distinct := by
  rw [openFailed, munmap_process]
  split
  · exact mcCloseSession_distinct hp reply
  · exact hp

theorem enter_distinct (hp : c.process.Distinct) (addr : UInt64) (operation : Option Operation)
    (env : OpenSessionEnvironment) : (enter w o addr operation env c).client.process.Distinct := by
  have hcall := callTA_distinct (w := w) (o := o) hp addr TeecTci.zero operation
    env.toCallEnvironment
  unfold enter
  dsimp only
  split
  · exact openFailed_distinct hcall env.close
  split
  · exact hcall
  split
  · exact openFailed_distinct hcall env.close
  · exact hcall

theorem openSession_distinct (hp : c.process.Distinct) (args : OpenSessionArgs)
    (operation : Option Operation) (env : OpenSessionEnvironment)
    (hfresh : FreshSession c args env.answers) :
    (openSession w o args operation env c).client.process.Distinct := by
  unfold openSession
  split
  next => exact hp
  next deviceId hcontext =>
    split
    · exact hp
    split
    · exact hp
    next addr hmmap =>
      dsimp only
      have hprocess : (openPage o deviceId addr c).process = c.process := rfl
      rw [hprocess]
      rcases mcOpenGPTA_cases hp
        { session := true, deviceId := deviceId, service := true, tci := addr
          len := sizeofTci w } env.answers (hfresh deviceId hcontext) with
        ⟨sessionId, q, hopen, hopens⟩ | ⟨code, sessionId, q, hcode, hopen, htable⟩
      · rw [hopen]
        dsimp only
        rw [if_neg (not_not_intro rfl)]
        exact enter_distinct (c := activate o _ q _) hopens.distinct addr operation env
      · rw [hopen]
        dsimp only
        rw [if_pos hcode]
        exact openFailed_distinct (Fewer.of_table hp htable).distinct env.close

theorem closeEnd_process (o : ObjectRef) (c : GpClient) : (closeEnd o c).process = c.process :=
  munmap_process c o

theorem perform_distinct (hp : c.process.Distinct) {call : Call} {d : GpClient}
    (hpossible : Possible c call) (hperform : perform w c call = some d) : d.process.Distinct := by
  cases call with
  | openSession o args operation env =>
      cases hperform
      exact openSession_distinct hp args operation env hpossible.2
  | invokeCommand o operation env =>
      obtain ⟨called, hcalled, rfl⟩ := Option.map_eq_some_iff.mp hperform
      rcases invokeCommand_process hcalled with ⟨-, hsame⟩ | ⟨addr, tci, -, hprocess⟩
      · rw [hsame]
        exact hp
      · rw [hprocess]
        exact callTA_distinct hp addr tci operation env
  | closeSession o env =>
      have hclose : closeSession w o env c = some d := hperform
      unfold closeSession at hclose
      split at hclose
      · cases hclose
        rw [closeEnd_process]
        exact hp
      · obtain ⟨⟨addr, tci⟩, -, rfl⟩ := Option.map_eq_some_iff.mp hclose
        have hcall := callTA_distinct (w := w) (o := o) hp addr tci none env
        dsimp only
        rw [closeEnd_process]
        split
        · exact mcCloseSession_distinct hcall env.close
        · exact hcall

end Calls

/-- What was mapped for an operation is unmapped in every sequence of calls where it can be. -/
theorem unwindsCompletely_run (w : PointerWidth) (p : Process) (hp : p.Distinct)
    (calls : List Call)
    (hrecoverable : (system w).StepsMeet (Recoverable w) (start p) calls) :
    (system w).StepsMeet (UnwindsCompletely w) (start p) calls := by
  refine TransitionSystem.StepsMeet.of_invariant (I := fun c => c.process.Distinct)
    (fun c call d h _ hstep => ?_) (fun c call h hcall => unwindsCompletely_of_recoverable h hcall)
    hp hrecoverable
  obtain ⟨hpossible, hperform⟩ : Possible c call ∧ perform w c call = some d := by
    by_cases hpossible : Possible c call
    · exact ⟨hpossible, (if_pos hpossible).symm.trans hstep⟩
    · have hnone : (system w).step c call = none := if_neg hpossible
      rw [hnone] at hstep
      cases hstep
  exact perform_distinct h hpossible hperform

/-! ## Two references -/

/-- Two buffers of 16 bytes. -/
def twoReferences : Operation :=
  fun i =>
    if i.val = 0 then .memrefTemp .input 0x5000 16
    else if i.val = 1 then .memrefTemp .input 0x6000 16
    else .none

/-- The application answers with the records of this page. -/
def answered (params : Fin 4 → ParameterInternal) (origin : Origin) (status : TeecResult) :
    CallEnvironment :=
  { (allSucceeds 1 0x1000).toCallEnvironment with
    answer :=
      { params := params, isCancelled := false, returnOrigin := origin, returnStatus := status } }

/-- The second buffer is not registered. -/
def secondRefused : CallEnvironment :=
  { (allSucceeds 1 0x1000).toCallEnvironment with
    map := fun i =>
      if i.val = 1 then { registered := .error 3, reply := .lost }
      else { registered := .ok 1, reply := .answered mcDrvOk 0x100000 } }

/-- Each buffer is mapped for one command, and the second is not mapped for another one. -/
def refusedBehindAnswer : List Call :=
  [.openSession 1 publicLogin none (allSucceeds 1 0x1000),
    .invokeCommand 1 (some twoReferences)
      (answered
        (fun _ => { mapInfo := { sVirtualAddr := 0x100000, sVirtualLen := 16 }, outputSize := 0 })
        teecOriginTrustedApp teecSuccess),
    .invokeCommand 1 (some twoReferences) secondRefused]

theorem unwindsCompletely_run_refused :
    (system .bits64).StepsMeet (UnwindsCompletely .bits64) (start opened) refusedBehindAnswer :=
  unwindsCompletely_run .bits64 opened opened_distinct refusedBehindAnswer (by decide)

/-- A command ends with an error of the secure world, and the second buffer of the next command is
not mapped. -/
def refusedBehindError : List Call :=
  [.openSession 1 publicLogin none (allSucceeds 1 0x1000),
    .invokeCommand 1 none (answered TeecTci.zero.params teecOriginTee teecErrorGeneric),
    .invokeCommand 1 (some twoReferences) secondRefused]

/-- The first buffer stays mapped. -/
theorem not_unwindsCompletely :
    ¬ ∀ (w : PointerWidth) (p : Process) (calls : List Call), p.Distinct →
      (system w).StepsMeet (UnwindsCompletely w) (start p) calls := by
  intro hclaim
  have hlast := (((hclaim .bits64 opened refusedBehindError opened_distinct).2 _ rfl).2 _ rfl).1
  have hsame := hlast.1 _ rfl (by decide)
  exact absurd (congrFun hsame { sessionId := 1, deviceId := mcDeviceIdDefault }) (by decide)

end Gp

end Exynos8890.MobiCore.ClientLib
