import Exynos8890.RootPa.CommandDocument

/-!
# Results of a command document

The response to a document has a list of results.  Those of the content management commands
come first, then those of the uploads.  A document that is valid has a kind and a value for
each command.

Main results:

- Theorem `oneResultEach_iff`: for which documents and outcomes there is one result for each
  command that was attempted, in the order of the document.
- Theorem `not_oneResultEach`: the result of a content management command overtakes the one
  of an upload.
-/

namespace Exynos8890.RootPa

/-! ## Attempted commands -/

/-- The command is one that the schema allows: of a known kind, with a value. -/
structure Command.Valid (c : Command) : Prop where
  known : c.Known
  hasValue : c.value ≠ none

/-- The content management commands up to the one that ends their execution. -/
def attempts (host : Outcomes) : List CommandNode → List CommandNode
  | [] => []
  | c :: rest =>
      if getCommandType c.1 = .cmp then c :: if Halts host c then [] else attempts host rest
      else attempts host rest

/-- The uploads of a list. -/
def uploads (cs : List CommandNode) : List CommandNode :=
  cs.filter fun c => getCommandType c.1 ≠ .cmp

/-- The result so far, behind a command. -/
def lastResult (host : Outcomes) (ret : RootPaError) (c : CommandNode) : RootPaError :=
  if Sent c ∧ (host c.2).ret ≠ .ok then (host c.2).ret else ret

/-- What identifies a result: the place of its command, and the id that is printed. -/
def CommandResult.key (r : CommandResult) : Nat × Nat :=
  (r.node, r.id)

/-- The place of a command, and its id as it is printed. -/
def printed (c : CommandNode) : Nat × Nat :=
  (c.2, c.1.id.toUInt32.toNat)

/-- The loop came to these commands and ended with this result, and these are the results. -/
structure Reports (host : Outcomes) (cs : List CommandNode) (ret : RootPaError) (run : CmpRun) :
    Prop where
  attempted : run.attempted = cs.map Prod.snd
  ret : run.ret = cs.foldl (lastResult host) ret
  results : (handleCmpResponses run.responses).map CommandResult.key = cs.map printed

section Messages

variable {host : Outcomes} {c : CommandNode} {rest : List CmpMessage}

/-- The results of a list, when each is the one of its message. -/
theorem resultsUntilFailure_cons {α : Type} {hdr : α → CommonMessage} {result : α → CommandResult}
    (hkey : ∀ m, (result m).key = ((hdr m).node, (hdr m).id.toNat)) (m : α) (rest : List α) :
    (resultsUntilFailure hdr result (m :: rest)).map CommandResult.key =
      ((hdr m).node, (hdr m).id.toNat) ::
        if (hdr m).ret ≠ .ok ∧ (hdr m).ignoreError = false then []
        else (resultsUntilFailure hdr result rest).map CommandResult.key := by
  rw [resultsUntilFailure, List.map_cons, hkey, apply_ite (List.map CommandResult.key),
    List.map_nil]

theorem cmpResults_cons (m : CmpMessage) :
    (handleCmpResponses (m :: rest)).map CommandResult.key =
      (m.hdr.node, m.hdr.id.toNat) ::
        if m.hdr.ret ≠ .ok ∧ m.hdr.ignoreError = false then []
        else (handleCmpResponses rest).map CommandResult.key :=
  resultsUntilFailure_cons (fun _ => rfl) m rest

theorem uploadResults_cons (m : CommonMessage) (rest : List CommonMessage) :
    (handleUploadResponses (m :: rest)).map CommandResult.key =
      (m.node, m.id.toNat) ::
        if m.ret ≠ .ok ∧ m.ignoreError = false then []
        else (handleUploadResponses rest).map CommandResult.key :=
  resultsUntilFailure_cons (fun _ => rfl) m rest

/-- The message of a content management command with a value. -/
theorem exists_cmpMessage (hcmp : getCommandType c.1 = .cmp) (hvalue : c.1.value ≠ none) :
    ∃ m : CmpMessage, cmpMessage c = some m ∧
      m.hdr = ⟨c.2, c.1.id.toUInt32, getCommandIgnoreError c.1, .ok, 0⟩ ∧
        (m.length > 0 ↔ Sent c) := by
  cases hcontent : c.1.value with
  | none => exact absurd hcontent hvalue
  | some content =>
      refine ⟨_, by simp only [cmpMessage, hcmp, hcontent]; rfl, rfl, ?_⟩
      simp [CmpMessage.length, Sent, Command.decodes, hcmp, hcontent, List.length_pos_iff]

theorem ret_cmpResponse (outcome : Outcome) (m : CmpMessage) :
    (cmpResponse outcome m).hdr.ret = .ok ↔ outcome.ret = .ok := by
  unfold cmpResponse
  constructor
  · intro h
    by_cases hret : outcome.hdrRet = .ok
    · simpa [hret] using h
    · simp [hret] at h
  · intro h
    simp [h, outcome.hdrRet_ok h]

end Messages

/-- The content management commands are attempted up to the one that ends their execution,
and each has its result. -/
theorem executeCommands_reports (host : Outcomes) {cs : List CommandNode}
    (hvalid : ∀ c ∈ cs, c.1.Valid) (ret : RootPaError) :
    Reports host (attempts host cs) ret (executeCommands host (cs.filterMap cmpMessage) ret) := by
  induction cs generalizing ret with
  | nil =>
      constructor
      · rfl
      · rfl
      · rfl
  | cons c rest ih =>
      have hrest : ∀ d ∈ rest, d.1.Valid := fun d hd => hvalid d (List.mem_cons_of_mem _ hd)
      rw [attempts]
      by_cases hcmp : getCommandType c.1 = .cmp
      · obtain ⟨m, hm, hhdr, hlength⟩ :=
          exists_cmpMessage hcmp (hvalid c List.mem_cons_self).hasValue
        rw [List.filterMap_cons_some hm, executeCommands, if_pos hcmp]
        by_cases hsent : Sent c
        · rw [if_pos (hlength.mpr hsent), hhdr]
          by_cases hhalts : Halts host c
          · rw [if_pos hhalts, if_pos hhalts.2]
            constructor
            · rfl
            · simp [lastResult, hsent, hhalts.2.1]
            · rw [cmpResults_cons, if_pos]
              · simp [printed, cmpResponse, hhdr]
              · refine ⟨?_, ?_⟩
                · rw [Ne, ret_cmpResponse]
                  exact hhalts.2.1
                · simpa [cmpResponse, hhdr] using hhalts.2.2
          · have hgoes : ¬ ((host c.2).ret ≠ .ok ∧ getCommandIgnoreError c.1 = false) :=
              fun h => hhalts ⟨hsent, h⟩
            rw [if_neg hhalts, if_neg hgoes]
            have h := ih hrest (if (host c.2).ret = .ok then ret else (host c.2).ret)
            constructor
            · exact congrArg (c.2 :: ·) h.attempted
            · rw [List.foldl_cons]
              have hret : lastResult host ret c =
                  if (host c.2).ret = .ok then ret else (host c.2).ret := by
                simp [lastResult, hsent]
              rw [hret]
              exact h.ret
            · rw [cmpResults_cons, if_neg]
              · rw [h.results]
                simp [printed, cmpResponse, hhdr]
              · rw [Ne, ret_cmpResponse]
                simpa [cmpResponse, hhdr] using hgoes
        · have hhalts : ¬ Halts host c := fun h => hsent h.1
          rw [if_neg (fun h => hsent (hlength.mp h)), if_neg hhalts, hhdr]
          have h := ih hrest ret
          constructor
          · exact congrArg (c.2 :: ·) h.attempted
          · rw [List.foldl_cons]
            have hret : lastResult host ret c = ret := by simp [lastResult, hsent]
            rw [hret]
            exact h.ret
          · rw [cmpResults_cons, if_neg (by simp), h.results]
            rfl
      · rw [List.filterMap_cons_none (cmpMessage_upload hcmp), if_neg hcmp]
        exact ih hrest ret

/-! ## Valid documents -/

section Valid

variable {host : Outcomes} {counted : Bool} {c : CommandNode} {cs : List CommandNode}

theorem ends_iff_of_valid (host : Outcomes) (counted : Bool) (hvalid : c.1.Valid) :
    EndsParsing host counted c ↔
      getCommandType c.1 ≠ .cmp ∧ getCommandIgnoreError c.1 = false ∧ (host c.2).ret ≠ .ok := by
  unfold EndsParsing
  split
  · rename_i hcmp
    simp [hcmp, hvalid.hasValue]
  · rename_i hcmp
    simp [hcmp, hvalid.hasValue]

theorem ret_parseCommands (host : Outcomes) (hvalid : ∀ c ∈ cs, c.1.Valid) {p : Parsed}
    (hret : p.ret = .ok) :
    (parseCommands host cs p).ret = .ok := by
  induction cs generalizing p with
  | nil => exact hret
  | cons c rest ih =>
      have hc : c.1.Valid := hvalid c List.mem_cons_self
      have hone : (parseCommand host c p).ret = .ok := by
        by_cases hcmp : getCommandType c.1 = .cmp
        · apply ret_parseCommand hc.known hret
          rw [ends_iff_of_valid _ _ hc]
          exact fun h => h.1 hcmp
        · rw [parseCommand_upload hc.known hcmp]
          exact hret
      rw [parseCommands]
      split
      · exact hone
      · exact ih (fun d hd => hvalid d (List.mem_cons_of_mem _ hd)) hone

theorem exists_uploadMessage (host : Outcomes) (hcmp : getCommandType c.1 ≠ .cmp)
    (hvalue : c.1.value ≠ none) :
    ∃ m : CommonMessage, uploadMessage host c = some m ∧ m.node = c.2 ∧
      m.id = c.1.id.toUInt32 ∧ m.ignoreError = getCommandIgnoreError c.1 ∧
        m.ret = (host c.2).ret := by
  cases hcontent : c.1.value with
  | none => exact absurd hcontent hvalue
  | some content =>
      refine ⟨_, by simp only [uploadMessage, hcmp, handleUploadCommand, hcontent]; rfl, ?_⟩
      exact ⟨rfl, rfl, rfl, rfl⟩

theorem uploadMessage_nodes (host : Outcomes) (cs : List CommandNode) :
    (cs.filterMap (uploadMessage host)).map CommonMessage.node = (uploads cs).map Prod.snd := by
  induction cs with
  | nil => rfl
  | cons c rest ih =>
      by_cases hcmp : getCommandType c.1 = .cmp
      · rw [List.filterMap_cons_none (uploadMessage_cmp hcmp), ih, uploads, uploads,
          List.filter_cons_of_neg (by simpa using hcmp)]
      · have hmessage : ∃ m, uploadMessage host c = some m ∧ m.node = c.2 := by
          cases hvalue : c.1.value <;> simp [uploadMessage, handleUploadCommand, hcmp, hvalue]
        obtain ⟨m, hm, hnode⟩ := hmessage
        rw [List.filterMap_cons_some hm, List.map_cons, ih, hnode, uploads, uploads,
          List.filter_cons_of_pos (by simpa using hcmp), List.map_cons]

/-- Each upload that the parser reaches has its result: the parser ends with the one at which
the results would end. -/
theorem uploadResults_reached (host : Outcomes) (hvalid : ∀ c ∈ cs, c.1.Valid) (counted : Bool) :
    (handleUploadResponses ((reached host counted cs).filterMap (uploadMessage host))).map
        CommandResult.key =
      (uploads (reached host counted cs)).map printed := by
  induction cs generalizing counted with
  | nil => rfl
  | cons c rest ih =>
      have hc : c.1.Valid := hvalid c List.mem_cons_self
      have hrest : ∀ d ∈ rest, d.1.Valid := fun d hd => hvalid d (List.mem_cons_of_mem _ hd)
      rw [reached]
      by_cases hcmp : getCommandType c.1 = .cmp
      · have hends : ¬ EndsParsing host counted c := by
          rw [ends_iff_of_valid _ _ hc]
          exact fun h => h.1 hcmp
        rw [if_neg hends, List.filterMap_cons_none (uploadMessage_cmp hcmp), uploads,
          List.filter_cons_of_neg (by simpa using hcmp)]
        exact ih hrest _
      · obtain ⟨m, hm, hnode, hid, hignore, hmret⟩ :=
          exists_uploadMessage host hcmp hc.hasValue
        rw [List.filterMap_cons_some hm, uploadResults_cons, uploads,
          List.filter_cons_of_pos (by simpa using hcmp), List.map_cons, hnode, hid, hignore, hmret]
        apply congrArg (printed c :: ·)
        by_cases hends : EndsParsing host counted c
        · have hfailed := (ends_iff_of_valid _ _ hc).mp hends
          rw [if_pos hends, if_pos ⟨hfailed.2.2, hfailed.2.1⟩]
          rfl
        · have hgoes : ¬ ((host c.2).ret ≠ .ok ∧ getCommandIgnoreError c.1 = false) :=
            fun h => hends ((ends_iff_of_valid _ _ hc).mpr ⟨hcmp, h.2, h.1⟩)
          rw [if_neg hends, if_neg hgoes]
          exact ih hrest _

end Valid

/-! ## Results in order -/

/-- The results of these commands are in order: the ids are printed as they are, and a command
that stops the document is the last. -/
structure InSequence (host : Outcomes) (cm : ContentManager) (cs : List CommandNode) : Prop where
  ordered : cs.Pairwise fun c d => c.2 < d.2
  ids : ∀ c ∈ cs, 0 ≤ c.1.id.toInt
  ends : ∀ c ∈ cs, Stops host cm c → ∀ d ∈ cs, d.2 ≤ c.2

/-- A command that stops the document is the last, or its execution fails and, when it is one
for the trustlet, no upload follows. -/
def EndsWith (host : Outcomes) (c : CommandNode) (rest : List CommandNode) : Prop :=
  rest = [] ∨ ((host c.2).ret ≠ .ok ∧
    (getCommandType c.1 = .cmp → c.1.decodes ∧ ∀ d ∈ rest, getCommandType d.1 = .cmp))

/-- The content management commands come before the uploads, and there is a session for them.
No id is negative, and the last error of the trustlet's commands is not a lack of memory.  This
goes for the commands up to the first that stops the document, which ends it. -/
def Orderly (host : Outcomes) (cm : ContentManager) :
    Bool → RootPaError → List CommandNode → Prop
  | _, ret, [] => ret ≠ .outOfMemory
  | uploaded, ret, c :: rest =>
      (getCommandType c.1 = .cmp → cm.session ∧ uploaded = false) ∧ 0 ≤ c.1.id.toInt ∧
        if Stops host cm c then lastResult host ret c ≠ .outOfMemory ∧ EndsWith host c rest
        else Orderly host cm (uploaded || getCommandType c.1 ≠ .cmp) (lastResult host ret c) rest

section Lists

variable {host : Outcomes} {cm : ContentManager} {ret : RootPaError} {counted : Bool}
  {c : CommandNode} {rest cmps ups : List CommandNode}

theorem lastResult_upload (hcmp : getCommandType c.1 ≠ .cmp) : lastResult host ret c = ret :=
  if_neg fun h => hcmp h.1.1

theorem inSequence_nil : InSequence host cm [] :=
  ⟨List.Pairwise.nil, nofun, nofun⟩

theorem inSequence_cons {cs : List CommandNode} (hlt : ∀ d ∈ cs, c.2 < d.2) :
    InSequence host cm (c :: cs) ↔
      0 ≤ c.1.id.toInt ∧ (Stops host cm c → cs = []) ∧ InSequence host cm cs := by
  constructor
  · rintro ⟨hordered, hids, hends⟩
    refine ⟨hids c List.mem_cons_self, ?_, (List.pairwise_cons.mp hordered).2,
      fun d hd => hids d (List.mem_cons_of_mem _ hd), ?_⟩
    · intro hstops
      apply List.eq_nil_iff_forall_not_mem.mpr
      intro d hd
      have hle := hends c List.mem_cons_self hstops d (List.mem_cons_of_mem _ hd)
      exact absurd (hlt d hd) (not_lt.mpr hle)
    · intro d hd hstops e he
      exact hends d (List.mem_cons_of_mem _ hd) hstops e (List.mem_cons_of_mem _ he)
  · rintro ⟨hid, hlast, hordered, hids, hends⟩
    constructor
    · exact List.pairwise_cons.mpr ⟨hlt, hordered⟩
    · exact List.forall_mem_cons.mpr ⟨hid, hids⟩
    · intro d hd hstops e he
      rcases List.mem_cons.mp hd with rfl | hmem
      · rw [hlast hstops, List.mem_singleton] at he
        rw [he]
      · rcases List.mem_cons.mp he with rfl | hmem'
        · exact (hlt d hmem).le
        · exact hends d hmem hstops e hmem'

/-- Content management commands behind an upload are out of order. -/
theorem inSequence_append_cons (hlt : ∀ d ∈ cmps, c.2 < d.2) :
    InSequence host cm (cmps ++ c :: ups) ↔ cmps = [] ∧ InSequence host cm (c :: ups) := by
  cases cmps with
  | nil => simp
  | cons d cmps =>
      apply iff_of_false
      · intro h
        have hdc := (List.pairwise_cons.mp h.ordered).1 c
          (List.mem_append_right _ List.mem_cons_self)
        exact absurd (hlt d List.mem_cons_self) hdc.asymm
      · exact fun h => List.cons_ne_nil _ _ h.1

end Lists

section Reached

variable {host : Outcomes} {cs : List CommandNode}

theorem attempts_uploads_eq_nil :
    attempts host cs = [] ∧ uploads cs = [] ↔ cs = [] := by
  cases cs with
  | nil => exact iff_of_true ⟨rfl, rfl⟩ rfl
  | cons c rest =>
      apply iff_of_false _ (List.cons_ne_nil _ _)
      rintro ⟨hcmps, hups⟩
      by_cases hcmp : getCommandType c.1 = .cmp
      · rw [attempts, if_pos hcmp] at hcmps
        exact List.cons_ne_nil _ _ hcmps
      · rw [uploads, List.filter_cons_of_pos (by simpa using hcmp)] at hups
        exact List.cons_ne_nil _ _ hups

theorem reached_eq_nil {counted : Bool} : reached host counted cs = [] ↔ cs = [] := by
  cases cs <;> simp [reached]

theorem uploads_reached_eq_nil (hvalid : ∀ c ∈ cs, c.1.Valid) (counted : Bool) :
    uploads (reached host counted cs) = [] ↔ ∀ d ∈ cs, getCommandType d.1 = .cmp := by
  induction cs generalizing counted with
  | nil => exact iff_of_true rfl nofun
  | cons c rest ih =>
      have hc : c.1.Valid := hvalid c List.mem_cons_self
      rw [reached, List.forall_mem_cons]
      by_cases hcmp : getCommandType c.1 = .cmp
      · have hends : ¬ EndsParsing host counted c := by
          rw [ends_iff_of_valid _ _ hc]
          exact fun h => h.1 hcmp
        rw [if_neg hends, uploads, List.filter_cons_of_neg (by simpa using hcmp),
          and_iff_right hcmp]
        exact ih (fun d hd => hvalid d (List.mem_cons_of_mem _ hd)) _
      · rw [uploads, List.filter_cons_of_pos (by simpa using hcmp)]
        exact iff_of_false (List.cons_ne_nil _ _) fun h => hcmp h.1

theorem attempts_subset : attempts host cs ⊆ cs := by
  induction cs with
  | nil => exact List.Subset.refl _
  | cons c rest ih =>
      rw [attempts]
      split
      · apply List.cons_subset_cons
        split
        · exact List.nil_subset _
        · exact ih
      · exact fun d hd => List.mem_cons_of_mem _ (ih hd)

theorem attempted_behind (host : Outcomes) (counted : Bool) {c : CommandNode}
    (hlt : ∀ d ∈ cs, c.2 < d.2) :
    ∀ d ∈ attempts host (reached host counted cs) ++ uploads (reached host counted cs),
      c.2 < d.2 := by
  intro d hd
  apply hlt d
  apply reached_subset host counted cs
  rcases List.mem_append.mp hd with hcmps | hups
  · exact attempts_subset hcmps
  · exact List.mem_of_mem_filter hups

end Reached

/-- The commands that are attempted have results in order. -/
structure Presented (host : Outcomes) (cm : ContentManager) (uploaded : Bool) (ret : RootPaError)
    (cs : List CommandNode) : Prop where
  session : (∃ c ∈ cs, getCommandType c.1 = .cmp) → cm.session
  first : uploaded → attempts host cs = []
  memory : (attempts host cs).foldl (lastResult host) ret ≠ .outOfMemory
  sequence : InSequence host cm (attempts host cs ++ uploads cs)

section Steps

variable {host : Outcomes} {cm : ContentManager} {uploaded : Bool} {ret : RootPaError}
  {c : CommandNode} {cs : List CommandNode}

theorem attempts_upload (hcmp : getCommandType c.1 ≠ .cmp) :
    attempts host (c :: cs) = attempts host cs := by
  rw [attempts, if_neg hcmp]

theorem attempts_cmp (hcmp : getCommandType c.1 = .cmp) :
    attempts host (c :: cs) = c :: if Halts host c then [] else attempts host cs := by
  rw [attempts, if_pos hcmp]

theorem uploads_upload (hcmp : getCommandType c.1 ≠ .cmp) :
    uploads (c :: cs) = c :: uploads cs := by
  rw [uploads, List.filter_cons_of_pos (by simpa using hcmp), uploads]

theorem uploads_cmp (hcmp : getCommandType c.1 = .cmp) : uploads (c :: cs) = uploads cs := by
  rw [uploads, List.filter_cons_of_neg (by simpa using hcmp), uploads]

theorem presented_upload (hcmp : getCommandType c.1 ≠ .cmp)
    (hlt : ∀ d ∈ attempts host cs ++ uploads cs, c.2 < d.2) :
    Presented host cm uploaded ret (c :: cs) ↔
      0 ≤ c.1.id.toInt ∧ (Stops host cm c → uploads cs = []) ∧
        Presented host cm true ret cs := by
  have hcmps : ∀ d ∈ attempts host cs, c.2 < d.2 :=
    fun d hd => hlt d (List.mem_append_left _ hd)
  have hups : ∀ d ∈ uploads cs, c.2 < d.2 := fun d hd => hlt d (List.mem_append_right _ hd)
  constructor
  · rintro ⟨hsession, hfirst, hmemory, hsequence⟩
    rw [attempts_upload hcmp, uploads_upload hcmp, inSequence_append_cons hcmps,
      inSequence_cons hups] at hsequence
    rw [attempts_upload hcmp] at hmemory
    obtain ⟨hnil, hid, hlast, hrest⟩ := hsequence
    refine ⟨hid, hlast, ?_, fun _ => hnil, hmemory, ?_⟩
    · rintro ⟨d, hd, hdcmp⟩
      exact hsession ⟨d, List.mem_cons_of_mem _ hd, hdcmp⟩
    · rw [hnil]
      exact hrest
  · rintro ⟨hid, hlast, hsession, hfirst, hmemory, hsequence⟩
    have hnil := hfirst rfl
    constructor
    · rintro ⟨d, hd, hdcmp⟩
      rcases List.mem_cons.mp hd with rfl | hmem
      · exact absurd hdcmp hcmp
      · exact hsession ⟨d, hmem, hdcmp⟩
    · intro _
      rw [attempts_upload hcmp, hnil]
    · rw [attempts_upload hcmp]
      exact hmemory
    · rw [attempts_upload hcmp, uploads_upload hcmp, inSequence_append_cons hcmps,
        inSequence_cons hups]
      rw [hnil] at hsequence
      exact ⟨hnil, hid, hlast, hsequence⟩

/-- A content management command has a session, and no upload before it. -/
theorem presented_cmp (hcmp : getCommandType c.1 = .cmp)
    (hlt : ∀ d ∈ attempts host cs ++ uploads cs, c.2 < d.2) :
    Presented host cm uploaded ret (c :: cs) ↔
      (cm.session ∧ uploaded = false) ∧ 0 ≤ c.1.id.toInt ∧
        if Halts host c then lastResult host ret c ≠ .outOfMemory ∧ uploads cs = []
        else (Stops host cm c → cs = []) ∧
          Presented host cm false (lastResult host ret c) cs := by
  have hsession : (∃ d ∈ c :: cs, getCommandType d.1 = .cmp) := ⟨c, List.mem_cons_self, hcmp⟩
  have hups : ∀ d ∈ uploads cs, c.2 < d.2 := fun d hd => hlt d (List.mem_append_right _ hd)
  split
  · rename_i hhalts
    have hattempts : attempts host (c :: cs) = [c] := by rw [attempts_cmp hcmp, if_pos hhalts]
    constructor
    · rintro ⟨hopen, hfirst, hmemory, hsequence⟩
      rw [hattempts] at hmemory hsequence hfirst
      rw [uploads_cmp hcmp, List.singleton_append, inSequence_cons hups] at hsequence
      refine ⟨⟨hopen hsession, ?_⟩, hsequence.1, hmemory, hsequence.2.1 (hhalts.stops cm)⟩
      exact Bool.eq_false_iff.mpr fun h => List.cons_ne_nil _ _ (hfirst h)
    · rintro ⟨⟨hopen, rfl⟩, hid, hmemory, hnil⟩
      constructor
      · exact fun _ => hopen
      · exact nofun
      · rw [hattempts]
        exact hmemory
      · rw [hattempts, uploads_cmp hcmp, hnil]
        exact (inSequence_cons (List.forall_mem_nil _)).mpr ⟨hid, fun _ => rfl, inSequence_nil⟩
  · rename_i hhalts
    have hattempts : attempts host (c :: cs) = c :: attempts host cs := by
      rw [attempts_cmp hcmp, if_neg hhalts]
    constructor
    · rintro ⟨hopen, hfirst, hmemory, hsequence⟩
      rw [hattempts] at hmemory hsequence hfirst
      rw [uploads_cmp hcmp, List.cons_append, inSequence_cons hlt] at hsequence
      refine ⟨⟨hopen hsession, ?_⟩, hsequence.1, ?_, fun _ => hopen hsession, nofun, hmemory,
        hsequence.2.2⟩
      · exact Bool.eq_false_iff.mpr fun h => List.cons_ne_nil _ _ (hfirst h)
      · intro hstops
        exact attempts_uploads_eq_nil.mp (List.append_eq_nil_iff.mp (hsequence.2.1 hstops))
    · rintro ⟨⟨hopen, rfl⟩, hid, hlast, -, -, hmemory, hsequence⟩
      constructor
      · exact fun _ => hopen
      · exact nofun
      · rw [hattempts]
        exact hmemory
      · rw [hattempts, uploads_cmp hcmp, List.cons_append, inSequence_cons hlt]
        refine ⟨hid, ?_, hsequence⟩
        intro hstops
        exact List.append_eq_nil_iff.mpr (attempts_uploads_eq_nil.mpr (hlast hstops))

end Steps

theorem presented_nil {host : Outcomes} {cm : ContentManager} {uploaded : Bool}
    {ret : RootPaError} : Presented host cm uploaded ret [] ↔ ret ≠ .outOfMemory := by
  constructor
  · exact fun h => h.memory
  · intro h
    refine ⟨?_, fun _ => rfl, h, inSequence_nil⟩
    rintro ⟨d, hd, -⟩
    exact absurd hd List.not_mem_nil

section Stopping

variable {host : Outcomes} {cm : ContentManager} {c : CommandNode} {rest : List CommandNode}

/-- Behind a command that stops the document but neither the parser nor the trustlet there is
nothing. -/
theorem endsWith_iff_nil (hstops : Stops host cm c)
    (hgoes : (host c.2).ret = .ok ∨ (getCommandType c.1 = .cmp ∧ ¬ Halts host c)) :
    EndsWith host c rest ↔ rest = [] := by
  constructor
  · rintro (hnil | ⟨hret, hdecodes⟩)
    · exact hnil
    · rcases hgoes with hok | ⟨hcmp, hhalts⟩
      · exact absurd hok hret
      · exact absurd ⟨⟨hcmp, (hdecodes hcmp).1⟩, hret, hstops.2⟩ hhalts
  · exact Or.inl

/-- Behind one that ends the execution in the trustlet there is no upload. -/
theorem endsWith_iff_of_halts (hhalts : Halts host c) :
    EndsWith host c rest ↔ ∀ d ∈ rest, getCommandType d.1 = .cmp := by
  constructor
  · rintro (rfl | ⟨-, hrest⟩)
    · exact List.forall_mem_nil _
    · exact (hrest hhalts.1.1).2
  · exact fun h => Or.inr ⟨hhalts.2.1, fun _ => ⟨hhalts.1.2, h⟩⟩

end Stopping

/-- What the parser reaches is presented if and only if the commands are in order. -/
theorem presented_iff {host : Outcomes} {cm : ContentManager} {cs : List CommandNode}
    (hvalid : ∀ c ∈ cs, c.1.Valid) (hordered : cs.Pairwise fun c d => c.2 < d.2)
    (counted uploaded : Bool) (ret : RootPaError) :
    Presented host cm uploaded ret (reached host counted cs) ↔
      Orderly host cm uploaded ret cs := by
  induction cs generalizing counted uploaded ret with
  | nil => exact presented_nil
  | cons c rest ih =>
      have hc : c.1.Valid := hvalid c List.mem_cons_self
      have hrest : ∀ d ∈ rest, d.1.Valid := fun d hd => hvalid d (List.mem_cons_of_mem _ hd)
      rw [List.pairwise_cons] at hordered
      rw [reached, Orderly]
      have hbehind := attempted_behind host (counted || counts c) hordered.1
      have ih' := ih hrest hordered.2 (counted || counts c)
      have hends := ends_iff_of_valid host counted hc
      by_cases hcmp : getCommandType c.1 = .cmp
      · rw [if_neg (fun h => (hends.mp h).1 hcmp), presented_cmp hcmp hbehind,
          forall_prop_of_true hcmp]
        apply and_congr_right
        rintro ⟨-, rfl⟩
        apply and_congr_right
        intro _
        by_cases hhalts : Halts host c
        · rw [if_pos hhalts, if_pos (hhalts.stops cm), uploads_reached_eq_nil hrest,
            endsWith_iff_of_halts hhalts]
        · rw [if_neg hhalts]
          by_cases hstops : Stops host cm c
          · rw [if_pos hstops, forall_prop_of_true hstops, reached_eq_nil,
              endsWith_iff_nil hstops (Or.inr ⟨hcmp, hhalts⟩), and_comm]
            apply and_congr_left
            rintro rfl
            exact presented_nil
          · rw [if_neg hstops, forall_prop_of_false hstops, true_and, ih']
            simp [hcmp]
      · rw [forall_prop_of_false hcmp, true_and]
        by_cases hstop : EndsParsing host counted c
        · obtain ⟨-, hignore, hret⟩ := hends.mp hstop
          have hstops : Stops host cm c := ⟨Or.inr (Or.inr hret), hignore⟩
          have hlast : EndsWith host c rest := Or.inr ⟨hret, fun h => absurd h hcmp⟩
          rw [if_pos hstop, if_pos hstops, presented_upload hcmp (List.forall_mem_nil _),
            presented_nil, lastResult_upload hcmp]
          simp [hlast, uploads]
        · rw [if_neg hstop, presented_upload hcmp hbehind, lastResult_upload hcmp]
          apply and_congr_right
          intro _
          by_cases hstops : Stops host cm c
          · have hok : (host c.2).ret = .ok := by
              by_contra hret
              exact hstop (hends.mpr ⟨hcmp, hstops.2, hret⟩)
            rw [if_pos hstops, forall_prop_of_true hstops, endsWith_iff_nil hstops (Or.inl hok)]
            constructor
            · rintro ⟨hups, hpresented⟩
              have hnil : rest = [] :=
                reached_eq_nil.mp (attempts_uploads_eq_nil.mp ⟨hpresented.first rfl, hups⟩)
              subst hnil
              exact ⟨presented_nil.mp hpresented, rfl⟩
            · rintro ⟨hmemory, rfl⟩
              exact ⟨rfl, presented_nil.mpr hmemory⟩
          · rw [if_neg hstops, forall_prop_of_false hstops, true_and, ih']
            simp [hcmp]

/-! ## The response -/

/-- The results of the response. -/
def Handled.resultList (h : Handled) : List CommandResult :=
  h.results.getD []

/-- There is one result for each command that was attempted, with its id, in the order of the
document, and a command that stops the document is the last. -/
structure OneResultEach (document : List Command) (host : Outcomes) (cm : ContentManager)
    (h : Handled) : Prop where
  ordered : h.resultList.Pairwise fun r s => r.node < s.node
  attempted : ∀ i, i ∈ h.resultList.map CommandResult.node ↔ i ∈ h.attempted
  ids : ∀ r ∈ h.resultList, ∃ c, (c, r.node) ∈ document.zipIdx ∧ (r.id : Int) = c.id.toInt
  ends : ∀ c ∈ document.zipIdx, Stops host cm c → c.2 ∈ h.attempted →
    ∀ r ∈ h.resultList, r.node ≤ c.2

/-- The id of a command is printed as it is when it is not negative. -/
theorem printed_id_iff (id : Int32) : (id.toUInt32.toNat : Int) = id.toInt ↔ 0 ≤ id.toInt := by
  have hprinted : id.toUInt32.toNat = id.toBitVec.toNat := rfl
  have hvalue : id.toInt = id.toBitVec.toInt := rfl
  have hlt := id.toBitVec.isLt
  rw [hprinted, hvalue, BitVec.toInt_eq_toNat_cond]
  split <;> omega

theorem eq_of_mem_zipIdx {document : List Command} {c d : Command} {i : Nat}
    (hc : (c, i) ∈ document.zipIdx) (hd : (d, i) ∈ document.zipIdx) : c = d := by
  rw [List.mem_zipIdx_iff_getElem?] at hc hd
  rw [hc] at hd
  exact Option.some.inj hd

/-- What the response has for the commands that the parser reached. -/
structure Responds (host : Outcomes) (cs : List CommandNode) (h : Handled) : Prop where
  attempted : h.attempted = (attempts host cs ++ uploads cs).map Prod.snd
  dropped : (attempts host cs).foldl (lastResult host) .ok = .outOfMemory → h.resultList = []
  results : (attempts host cs).foldl (lastResult host) .ok ≠ .outOfMemory →
    h.resultList.map CommandResult.key = (attempts host cs ++ uploads cs).map printed

section Response

variable {host : Outcomes} {cm : ContentManager} {document : List Command}

/-- The commands are executed in the session, or there are none. -/
theorem executeParsed_of_session (host : Outcomes) {p : Parsed} (hret : p.ret = .ok)
    (hsession : p.cmpCommands ≠ [] → cm.session) :
    (executeParsed host cm p).1 = executeCommands host p.cmpCommands .ok := by
  unfold executeParsed
  split
  · rename_i h
    rw [h.1]
    rfl
  · rename_i h
    have hcommands : p.cmpCommands ≠ [] := fun hnil => h ⟨hnil, by simp [hret]⟩
    rw [executeContentManagementCommands, if_pos (hsession hcommands)]

theorem of_cmpMessage_eq_some {c : CommandNode} {m : CmpMessage} (h : cmpMessage c = some m) :
    getCommandType c.1 = .cmp ∧ m.hdr.node = c.2 := by
  unfold cmpMessage at h
  split at h
  · rename_i hcmp
    obtain ⟨content, -, rfl⟩ := Option.map_eq_some_iff.mp h
    exact ⟨hcmp, rfl⟩
  · cases h

theorem cmpMessages_ne_nil {cs : List CommandNode} (h : cs.filterMap cmpMessage ≠ []) :
    ∃ c ∈ cs, getCommandType c.1 = .cmp := by
  obtain ⟨m, hm⟩ := List.exists_mem_of_ne_nil _ h
  obtain ⟨c, hc, hmessage⟩ := List.mem_filterMap.mp hm
  exact ⟨c, hc, (of_cmpMessage_eq_some hmessage).1⟩

theorem valid_zipIdx (hvalid : ∀ c ∈ document, c.Valid) : ∀ c ∈ document.zipIdx, c.1.Valid :=
  fun c hc => hvalid c.1 (List.fst_mem_of_mem_zipIdx hc)

theorem collects_document (host : Outcomes) (hvalid : ∀ c ∈ document, c.Valid) :
    Collects host (reached host false document.zipIdx) ⟨.ok, [], [], []⟩
      (parseCommands host document.zipIdx ⟨.ok, [], [], []⟩) :=
  parseCommands_collects host (p := ⟨.ok, [], [], []⟩)
    (fun c hc => (valid_zipIdx hvalid c hc).known) rfl

/-- The response, when there is a session for the content management commands. -/
theorem responds_of_session (hvalid : ∀ c ∈ document, c.Valid)
    (hsession : (∃ c ∈ reached host false document.zipIdx, getCommandType c.1 = .cmp) →
      cm.session) :
    Responds host (reached host false document.zipIdx)
      (handleCommandAndFillResponse host cm document) := by
  have hnodes := valid_zipIdx hvalid
  have hcollects := collects_document host hvalid
  have hret := ret_parseCommands host hnodes (p := ⟨.ok, [], [], []⟩) rfl
  have huploads := uploadResults_reached host hnodes false
  have hreached : ∀ c ∈ reached host false document.zipIdx, c.1.Valid :=
    fun c hc => hnodes c (reached_subset _ _ _ hc)
  have hreports := executeCommands_reports host hreached .ok
  unfold handleCommandAndFillResponse
  generalize parseCommands host document.zipIdx ⟨.ok, [], [], []⟩ = p at hcollects hret ⊢
  have hcmps : p.cmpCommands = (reached host false document.zipIdx).filterMap cmpMessage :=
    hcollects.cmpCommands
  have hups : p.uploadCommands =
      (reached host false document.zipIdx).filterMap (uploadMessage host) :=
    hcollects.uploadCommands
  have hexecuted := executeParsed_of_session host hret
    (fun h => hsession (cmpMessages_ne_nil (hcmps ▸ h)))
  rw [← hcmps, ← hexecuted] at hreports
  dsimp only
  generalize executeParsed host cm p = run at hreports ⊢
  have hrunRet : (if run.1.ret = .ok then p.ret else run.1.ret) =
      (attempts host (reached host false document.zipIdx)).foldl (lastResult host) .ok := by
    rw [← hreports.ret, hret]
    split
    · rename_i h
      exact h.symm
    · rfl
  constructor
  · rw [List.map_append, ← uploadMessage_nodes host, ← hups, ← hreports.attempted]
  · intro hmemory
    simp [Handled.resultList, hrunRet, hmemory]
  · intro hmemory
    rw [← hups] at huploads
    simp [Handled.resultList, hrunRet, hmemory, hreports.results, huploads]

/-- Without a session the results of the content management commands are there all the same. -/
theorem session_of_oneResultEach (hvalid : ∀ c ∈ document, c.Valid)
    (hresults : OneResultEach document host cm (handleCommandAndFillResponse host cm document)) :
    (∃ c ∈ reached host false document.zipIdx, getCommandType c.1 = .cmp) → cm.session := by
  rintro ⟨c, hc, hcmp⟩
  by_contra hsession
  have hcollects := collects_document host hvalid
  have hattempted := hresults.attempted
  unfold handleCommandAndFillResponse at hattempted
  generalize parseCommands host document.zipIdx ⟨.ok, [], [], []⟩ = p at hcollects hattempted
  have hcmps : p.cmpCommands = (reached host false document.zipIdx).filterMap cmpMessage :=
    hcollects.cmpCommands
  have hups : p.uploadCommands =
      (reached host false document.zipIdx).filterMap (uploadMessage host) :=
    hcollects.uploadCommands
  obtain ⟨m, hm, -, -⟩ :=
    exists_cmpMessage hcmp (valid_zipIdx hvalid c (reached_subset _ _ _ hc)).hasValue
  have hmem : m ∈ p.cmpCommands := by
    rw [hcmps]
    exact List.mem_filterMap.mpr ⟨c, hc, hm⟩
  cases hcommands : p.cmpCommands with
  | nil =>
      rw [hcommands] at hmem
      exact absurd hmem List.not_mem_nil
  | cons first rest =>
      -- the first command has a result, although no command was attempted
      have hexecuted : executeParsed host cm p = (⟨.mobicoreConnection,
          (first :: rest).map fun c => .blank c.hdr.node, [], [], false⟩, false) := by
        rw [executeParsed, hcommands, if_neg (fun h => List.cons_ne_nil _ _ h.1),
          executeContentManagementCommands, if_neg hsession]
      simp only [hexecuted] at hattempted
      have hfirst : first.hdr.node ∈ p.uploadCommands.map CommonMessage.node := by
        apply (hattempted first.hdr.node).mp
        exact List.mem_map.mpr ⟨_, List.mem_append_left _ List.mem_cons_self, rfl⟩
      have hmessage : first ∈ (reached host false document.zipIdx).filterMap cmpMessage := by
        rw [← hcmps, hcommands]
        exact List.mem_cons_self
      obtain ⟨d, hd, hdfirst⟩ := List.mem_filterMap.mp hmessage
      obtain ⟨hdcmp, hdnode⟩ := of_cmpMessage_eq_some hdfirst
      rw [hups, uploadMessage_nodes] at hfirst
      obtain ⟨u, hu, hunode⟩ := List.mem_map.mp hfirst
      have hucmp : getCommandType u.1 ≠ .cmp := by
        simpa using (List.mem_filter.mp hu).2
      have hunodes : (u.1, d.2) ∈ document.zipIdx := by
        rw [← hdnode, ← hunode]
        exact reached_subset _ _ _ (List.mem_of_mem_filter hu)
      rw [eq_of_mem_zipIdx hunodes (reached_subset _ _ _ hd)] at hucmp
      exact hucmp hdcmp

end Response

/-- The keys of the results in their order are those of the commands in sequence. -/
theorem oneResultEach_iff_inSequence {document : List Command} {host : Outcomes}
    {cm : ContentManager} {h : Handled} {cs : List CommandNode}
    (hcs : cs ⊆ document.zipIdx)
    (hresults : h.resultList.map CommandResult.key = cs.map printed)
    (hattempted : ∀ i, i ∈ h.attempted ↔ i ∈ cs.map Prod.snd) :
    OneResultEach document host cm h ↔ InSequence host cm cs := by
  have hnodes : h.resultList.map CommandResult.node = cs.map Prod.snd := by
    have hfirst := congrArg (List.map Prod.fst) hresults
    rw [List.map_map, List.map_map] at hfirst
    exact hfirst
  have hordered : (h.resultList.Pairwise fun r s => r.node < s.node) ↔
      cs.Pairwise fun c d => c.2 < d.2 := by
    rw [← List.pairwise_map (f := CommandResult.node) (R := (· < ·)), hnodes, List.pairwise_map]
  have hresult : ∀ c ∈ cs, ∃ r ∈ h.resultList, r.key = printed c := by
    intro c hc
    apply List.mem_map.mp
    rw [hresults]
    exact List.mem_map_of_mem hc
  have hcommand : ∀ r ∈ h.resultList, ∃ c ∈ cs, printed c = r.key := by
    intro r hr
    apply List.mem_map.mp
    rw [← hresults]
    exact List.mem_map_of_mem hr
  constructor
  · rintro ⟨hpairwise, -, hids, hends⟩
    constructor
    · exact hordered.mp hpairwise
    · intro c hc
      obtain ⟨r, hr, hkey⟩ := hresult c hc
      obtain ⟨d, hd, hid⟩ := hids r hr
      have hnode : r.node = c.2 := congrArg Prod.fst hkey
      have hprinted : r.id = c.1.id.toUInt32.toNat := congrArg Prod.snd hkey
      rw [hnode] at hd
      rw [eq_of_mem_zipIdx hd (hcs hc), hprinted] at hid
      exact (printed_id_iff _).mp hid
    · intro c hc hstops d hd
      obtain ⟨r, hr, hkey⟩ := hresult d hd
      have hnode : r.node = d.2 := congrArg Prod.fst hkey
      rw [← hnode]
      exact hends c (hcs hc) hstops ((hattempted c.2).mpr (List.mem_map_of_mem hc)) r hr
  · rintro ⟨hpairwise, hids, hends⟩
    constructor
    · exact hordered.mpr hpairwise
    · intro i
      rw [hnodes, hattempted]
    · intro r hr
      obtain ⟨c, hc, hkey⟩ := hcommand r hr
      have hnode : c.2 = r.node := congrArg Prod.fst hkey
      have hprinted : c.1.id.toUInt32.toNat = r.id := congrArg Prod.snd hkey
      refine ⟨c.1, ?_, ?_⟩
      · rw [← hnode]
        exact hcs hc
      · rw [← hprinted]
        exact (printed_id_iff _).mpr (hids c hc)
    · intro c hc hstops hmem r hr
      obtain ⟨d, hd, hdc⟩ := List.mem_map.mp ((hattempted c.2).mp hmem)
      have heq : d = c := by
        apply Prod.ext _ hdc
        apply eq_of_mem_zipIdx (i := c.2) _ hc
        rw [← hdc]
        exact hcs hd
      obtain ⟨e, he, hkey⟩ := hcommand r hr
      have hnode : e.2 = r.node := congrArg Prod.fst hkey
      rw [← hnode]
      rw [heq] at hd
      exact hends c hd hstops e he

/-- A valid document has one result for each command that was attempted if and only if it is
in order. -/
theorem oneResultEach_iff (host : Outcomes) (cm : ContentManager) (document : List Command)
    (hvalid : ∀ c ∈ document, c.Valid) :
    OneResultEach document host cm (handleCommandAndFillResponse host cm document) ↔
      Orderly host cm false .ok document.zipIdx := by
  rw [← presented_iff (valid_zipIdx hvalid) (zipIdx_ordered document) false]
  by_cases hsession : (∃ c ∈ reached host false document.zipIdx, getCommandType c.1 = .cmp) →
      cm.session
  · have hresponds : Responds host (reached host false document.zipIdx)
        (handleCommandAndFillResponse host cm document) := responds_of_session hvalid hsession
    have hcs : attempts host (reached host false document.zipIdx) ++
        uploads (reached host false document.zipIdx) ⊆ document.zipIdx := by
      apply List.append_subset.mpr
      constructor
      · exact fun c hc => reached_subset _ _ _ (attempts_subset hc)
      · exact fun c hc => reached_subset _ _ _ (List.mem_of_mem_filter hc)
    have hattempted : ∀ i, i ∈ (handleCommandAndFillResponse host cm document).attempted ↔
        i ∈ (attempts host (reached host false document.zipIdx) ++
          uploads (reached host false document.zipIdx)).map Prod.snd := by
      intro i
      rw [hresponds.attempted]
    by_cases hmemory : (attempts host (reached host false document.zipIdx)).foldl
        (lastResult host) .ok = .outOfMemory
    · apply iff_of_false
      · intro hresult
        have hnil : attempts host (reached host false document.zipIdx) = [] := by
          apply List.eq_nil_iff_forall_not_mem.mpr
          intro c hc
          have hmem := (hresult.attempted c.2).mpr
            ((hattempted c.2).mpr (List.mem_map_of_mem (List.mem_append_left _ hc)))
          rw [hresponds.dropped hmemory] at hmem
          exact List.not_mem_nil hmem
        rw [hnil] at hmemory
        cases hmemory
      · exact fun h => h.memory hmemory
    · rw [oneResultEach_iff_inSequence hcs (hresponds.results hmemory) hattempted]
      constructor
      · exact fun h => ⟨hsession, nofun, hmemory, h⟩
      · exact fun h => h.sequence
  · apply iff_of_false
    · exact fun h => hsession (session_of_oneResultEach hvalid h)
    · exact fun h => hsession h.session

/-- Every command succeeds. -/
def allSucceed : Outcomes := fun _ => ⟨.ok, .ok, 0, none, fun _ => rfl⟩

theorem commandThenUpload_valid : ∀ c ∈ commandThenUpload, c.Valid := by
  intro c hc
  constructor
  · exact commandThenUpload_known c hc
  · revert c
    decide

/-- A command for the trustlet and an upload behind it have their results. -/
theorem oneResultEach_commandThenUpload :
    OneResultEach commandThenUpload allSucceed ⟨true, true⟩
      (handleCommandAndFillResponse allSucceed ⟨true, true⟩ commandThenUpload) := by
  apply (oneResultEach_iff allSucceed ⟨true, true⟩ commandThenUpload commandThenUpload_valid).mpr
  refine ⟨by decide, by decide, ?_⟩
  rw [if_neg (by decide)]
  refine ⟨by decide, by decide, ?_⟩
  rw [if_neg (by decide)]
  have hok : RootPaError.ok ≠ .outOfMemory := nofun
  exact hok

/-- The result of the upload comes behind the one of the command that follows it. -/
theorem not_oneResultEach :
    ¬ ∀ (host : Outcomes) (cm : ContentManager) (document : List Command),
      (∀ c ∈ document, c.Valid) →
        OneResultEach document host cm (handleCommandAndFillResponse host cm document) := by
  intro h
  have hvalid : ∀ c ∈ commandThenUpload.reverse, c.Valid :=
    fun c hc => commandThenUpload_valid c (List.mem_reverse.mp hc)
  have hordered := (h allSucceed ⟨true, true⟩ commandThenUpload.reverse hvalid).ordered
  exact absurd hordered (by decide)

end Exynos8890.RootPa
