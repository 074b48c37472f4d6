import Exynos8890.RootPa.ProvisioningDialogue

/-!
# The strings of the provisioning loop

Which strings the loop owns at the head of an iteration and in the middle of one, and what the
dialogue says about their texts.  An exchange leaves the strings it has used with the loop, so
the loop owns two triples of strings until the end of the iteration.

Main results:

- Definition `Engine.Sound`: the loop owns each live string once, but for those it has lost.
- Theorem `sound_round`: an iteration is one of the dialogue, and it loses no string when there
  is one header at most.
- Theorem `round_self`: behind a relation that asks for the same once more the loop reads a
  string that it has released.
-/

namespace Exynos8890.RootPa

open MobiCore HeapCells

namespace Engine

/-! ## Cells of pointers -/

/-- The cell of a relation; the constants have none. -/
def relCell : Option RelPtr → Multiset Nat
  | some (.received n) => {n}
  | some .initialPost | some .initialDelete | none => 0

theorem relCell_none : relCell none = 0 :=
  rfl

/-- The cell of a pointer that is not a copy of the used one. -/
def ownCell (p used : Option Nat) : Multiset Nat :=
  if p = used then 0 else cell p

def ownRelCell (p used : Option RelPtr) : Multiset Nat :=
  if p = used then 0 else relCell p

section Cells

variable {h h' h'' : Heap Text} {m m' : Multiset Nat}

@[simp]
theorem relCell_map_received (p : Option Nat) : relCell (p.map .received) = cell p := by
  cases p <;> rfl

theorem bind_relText_eq (hsame : SameOn h h' m) {p : Option RelPtr}
    (hp : ∀ n ∈ relCell p, n ∈ m) : p.bind (relText h') = p.bind (relText h) := by
  rcases p with _ | _ | _ | n
  · rfl
  · rfl
  · rfl
  · exact hsame n (hp n (Multiset.mem_singleton_self n))

theorem freeString_spec {p : Option Nat} (hm : h.Owns (cell p + m)) :
    ∃ h', freeString h p = some h' ∧ h'.Owns m ∧ SameOn h h' m := by
  cases p with
  | none =>
      rw [cell, zero_add] at hm
      exact ⟨h, rfl, hm, SameOn.refl h m⟩
  | some n =>
      rw [cell, Multiset.singleton_add] at hm
      exact hm.free

theorem freeRel_eq (h : Heap Text) (p : Option RelPtr) :
    freeRel h p = freeString h (match p with | some (.received n) => some n | _ => none) := by
  rcases p with _ | _ | _ | n <;> rfl

theorem freeRel_spec {p : Option RelPtr} (hm : h.Owns (relCell p + m)) :
    ∃ h', freeRel h p = some h' ∧ h'.Owns m ∧ SameOn h h' m := by
  rw [freeRel_eq]
  apply freeString_spec
  rcases p with _ | _ | _ | n <;> exact hm

theorem cleanup_spec {link command : Option Nat} {rel : Option RelPtr}
    (hm : h.Owns (cell link + relCell rel + cell command + m)) :
    ∃ h', cleanup h link rel command = some h' ∧ h'.Owns m ∧ SameOn h h' m := by
  have hcommand : h.Owns (cell command + (relCell rel + (cell link + m))) := by
    convert hm using 1
    abel
  obtain ⟨h₁, heq₁, howns₁, hsame₁⟩ := freeString_spec hcommand
  obtain ⟨h₂, heq₂, howns₂, hsame₂⟩ := freeRel_spec howns₁
  obtain ⟨h₃, heq₃, howns₃, hsame₃⟩ := freeString_spec howns₂
  refine ⟨h₃, ?_, howns₃, ?_⟩
  · simp only [cleanup, heq₁, heq₂, heq₃, Option.bind_eq_bind, Option.bind_some]
  · intro n hn
    have hlink : n ∈ cell link + m := Multiset.mem_add.mpr (Or.inr hn)
    have hrel : n ∈ relCell rel + (cell link + m) := Multiset.mem_add.mpr (Or.inr hlink)
    exact (hsame₃ n hn).trans ((hsame₂ n hlink).trans (hsame₁ n hrel))

end Cells

/-! ## Headers -/

/-- What the headers leave: the last link and the last relation, and the strings before them
are lost. -/
theorem headers_spec (headers : List LinkHeader) {h : Heap Text} {m : Multiset Nat}
    {link rel : Option Nat} (hm : h.Owns (cell link + cell rel + m))
    (hlinked : rel ≠ none → link ≠ none) :
    ∃ (link' rel' : Option Nat) (h' : Heap Text) (lost : Multiset Nat),
      headers.foldl updateLinkAndRel (link, rel, h) = (link', rel', h') ∧
      h'.Owns (cell link' + cell rel' + (lost + m)) ∧ SameOn h h' m ∧
      link'.bind h'.read = headers.foldl (fun _ header => some header.link) (link.bind h.read) ∧
      rel'.bind h'.read =
        headers.foldl (fun rel header => header.rel <|> rel) (rel.bind h.read) ∧
      (rel' ≠ none → link' ≠ none) ∧
      (headers = [] ∨ (link = none ∧ rel = none ∧ headers.length ≤ 1) → lost = 0) := by
  induction headers generalizing h link rel m with
  | nil =>
      refine ⟨link, rel, h, 0, rfl, ?_, SameOn.refl h m, rfl, rfl, hlinked, fun _ => rfl⟩
      rw [zero_add]
      exact hm
  | cons header headers ih =>
      have hlink := hm.alloc header.link
      have hsame := hm.sameOn_alloc header.link
      have hread := h.read_alloc_self header.link
      rw [List.foldl_cons, List.foldl_cons, List.foldl_cons, updateLinkAndRel]
      -- the link that was there is lost, and the relation if a new one comes
      cases hrel : header.rel with
      | none =>
          have howns : (h.alloc header.link).2.Owns
              (cell (some h.next) + cell rel + (cell link + m)) := by
            convert hlink using 1
            rw [cell, ← Multiset.singleton_add]
            abel
          obtain ⟨link', rel', h', lost, hfold, howns', hsame', hlink', hrel', hlinked', hlost⟩ :=
            ih howns nofun
          have hrest : ∀ n ∈ m, n ∈ cell link + m := fun n hn => Multiset.mem_add.mpr (Or.inr hn)
          refine ⟨link', rel', h', lost + cell link, hfold, ?_, ?_, ?_, ?_, hlinked', ?_⟩
          · rw [add_assoc lost]
            exact howns'
          · apply SameOn.trans _ (hsame'.mono hrest)
            exact hsame.mono fun n hn => Multiset.mem_add.mpr (Or.inr hn)
          · rw [hlink', Option.bind_some, show h.next = (h.alloc header.link).1 from rfl, hread]
          · rw [hrel']
            apply congrArg (headers.foldl _)
            exact hsame.bind_read fun n hn =>
              Multiset.mem_add.mpr (Or.inl (Multiset.mem_add.mpr (Or.inr hn)))
          · rintro (hnil | ⟨rfl, -, hlength⟩)
            · cases hnil
            · have hnil : headers = [] := by
                apply List.eq_nil_of_length_eq_zero
                rw [List.length_cons] at hlength
                omega
              rw [hlost (Or.inl hnil)]
              rfl
      | some text =>
          have hboth := hlink.alloc text
          have hsame₂ := hlink.sameOn_alloc text
          have hread₂ := (h.alloc header.link).2.read_alloc_self text
          have howns : ((h.alloc header.link).2.alloc text).2.Owns
              (cell (some h.next) + cell (some (h.alloc header.link).2.next) +
                (cell link + cell rel + m)) := by
            convert hboth using 1
            rw [cell, cell, ← Multiset.singleton_add, ← Multiset.singleton_add]
            abel
          obtain ⟨link', rel', h', lost, hfold, howns', hsame', hlink', hrel', hlinked', hlost⟩ :=
            ih howns nofun
          have hrest : ∀ n ∈ m, n ∈ cell link + cell rel + m :=
            fun n hn => Multiset.mem_add.mpr (Or.inr hn)
          refine ⟨link', rel', h', lost + (cell link + cell rel), hfold, ?_, ?_, ?_, ?_,
            hlinked', ?_⟩
          · rw [add_assoc lost]
            exact howns'
          · intro n hn
            rw [hsame' n (hrest n hn), hsame₂ n (Multiset.mem_cons_of_mem (hrest n hn)),
              hsame n (hrest n hn)]
          · rw [hlink', Option.bind_some, hsame₂ _ (Multiset.mem_cons_self _ _),
              show h.next = (h.alloc header.link).1 from rfl, hread]
          · rw [hrel', Option.bind_some,
              show (h.alloc header.link).2.next = ((h.alloc header.link).2.alloc text).1 from rfl,
              hread₂]
            rfl
          · rintro (hnil | ⟨rfl, rfl, hlength⟩)
            · cases hnil
            · have hnil : headers = [] := by
                apply List.eq_nil_of_length_eq_zero
                rw [List.length_cons] at hlength
                omega
              rw [hlost (Or.inl hnil)]
              rfl

/-- What arrives: the command, and the strings of the headers. -/
theorem received_spec (reply : Reply) {h : Heap Text} {m : Multiset Nat} (hm : h.Owns m) :
    ∃ (link rel : Option Nat) (h' : Heap Text) (lost : Multiset Nat),
      reply.headers.foldl updateLinkAndRel (none, none, (h.alloc reply.body).2) = (link, rel, h') ∧
      h'.Owns (cell link + cell rel + cell (some h.next) + (lost + m)) ∧ SameOn h h' m ∧
      link.bind h'.read = reply.link ∧ rel.bind h'.read = reply.rel ∧
      h'.read h.next = some reply.body ∧ (rel ≠ none → link ≠ none) ∧
      (reply.headers.length ≤ 1 → lost = 0) := by
  have howns : (h.alloc reply.body).2.Owns
      (cell none + cell none + (cell (some h.next) + m)) := by
    convert hm.alloc reply.body using 1
    rw [cell, cell, ← Multiset.singleton_add, zero_add, zero_add]
  obtain ⟨link, rel, h', lost, hfold, howns', hsame, hlink, hrel, hlinked, hlost⟩ :=
    headers_spec reply.headers howns (fun hne => hne)
  refine ⟨link, rel, h', lost, hfold, ?_, ?_, hlink, hrel, ?_, hlinked, ?_⟩
  · convert howns' using 1
    abel
  · apply (hm.sameOn_alloc reply.body).trans
    exact hsame.mono fun n hn => Multiset.mem_add.mpr (Or.inr hn)
  · rw [hsame h.next (Multiset.mem_add.mpr (Or.inl (Multiset.mem_singleton_self _)))]
    exact h.read_alloc_self reply.body
  · exact fun hlength => hlost (Or.inr ⟨rfl, rfl, hlength⟩)

/-! ## What the loop owns -/

/-- The texts of a state. -/
def view (s : Engine) : Dialogue where
  progress := s.progress
  link := s.link.bind s.heap.read
  rel := s.rel.bind (relText s.heap)
  command := s.command.bind s.heap.read
  response := s.response.bind s.heap.read
  pending :=
    match s.pendingLink.bind s.heap.read, s.pendingRel.bind (relText s.heap) with
    | some link, some rel => some (link, rel)
    | _, _ => none

theorem view_pending_of {s : Engine} {link rel : Text}
    (hlink : s.pendingLink.bind s.heap.read = some link)
    (hrel : s.pendingRel.bind (relText s.heap) = some rel) : s.view.pending = some (link, rel) := by
  rw [view, hlink, hrel]

/-- The strings that were used. -/
def usedCells (s : Engine) : Multiset Nat :=
  cell s.usedLink + relCell s.usedRel + cell s.usedCommand

/-- The strings beside those of the exchange. -/
def otherCells (s : Engine) : Multiset Nat :=
  cell s.response + cell s.pendingLink + relCell s.pendingRel

/-- The used strings are kept for the same once more. -/
structure Kept (s : Engine) : Prop where
  usedLink : s.usedLink ≠ none
  command : s.command ≠ none
  usedRel : (s.usedRel.bind (relText s.heap)).map relationOf ≠ some .self

/-- The loop owns its strings, each once, and the used ones only when it is asked for the same
once more. -/
structure Sound (s : Engine) (lost : Multiset Nat) : Prop where
  owns : s.heap.Owns
    (cell s.link + relCell s.rel + cell s.command + s.usedCells + s.otherCells + lost)
  linked : s.rel ≠ none → s.link ≠ none
  pending : s.pendingRel = s.pendingLink.map fun _ => .initialPost
  kept : s.view.ReceivedSelf → Kept s
  unused : ¬ s.view.ReceivedSelf → s.usedLink = none ∧ s.usedRel = none ∧ s.usedCommand = none
  response : s.response = none ∨ s.rel = some .initialPost ∨ s.rel = some .initialDelete
  tmpRet : s.progress.workToDo → s.progress.tmpRet = .ok
  ended : s.progress.workToDo = false → relCell s.rel = 0 ∧ s.command = none

/-- In the middle of an iteration: what the pointers have beside the used strings. -/
structure Asked (s : Engine) (lost : Multiset Nat) : Prop where
  owns : s.heap.Owns
    (ownCell s.link s.usedLink + ownRelCell s.rel s.usedRel + ownCell s.command s.usedCommand +
      s.usedCells + s.otherCells + lost)
  pending : s.pendingRel = s.pendingLink.map fun _ => .initialPost

/-- Behind an exchange that succeeded: nothing is a copy of a used pointer. -/
structure Answered (s : Engine) (lost : Multiset Nat) : Prop where
  owns : s.heap.Owns
    (cell s.link + relCell s.rel + cell s.command + s.usedCells + s.otherCells + lost)
  linked : s.rel ≠ none → s.link ≠ none
  commanded : s.rel ≠ none → s.command ≠ none
  pending : s.pendingRel = s.pendingLink.map fun _ => .initialPost

/-- The used strings are what they were. -/
structure KeepsUsed (s s' : Engine) : Prop where
  link : s'.usedLink = s.usedLink
  rel : s'.usedRel.bind (relText s'.heap) = s.usedRel.bind (relText s.heap)

theorem KeepsUsed.refl (s : Engine) : KeepsUsed s s :=
  ⟨rfl, rfl⟩

theorem KeepsUsed.trans {s s' s'' : Engine} (h : KeepsUsed s s') (h' : KeepsUsed s' s'') :
    KeepsUsed s s'' :=
  ⟨h'.link.trans h.link, h'.rel.trans h.rel⟩

/-- The same pointers, and their strings have not changed. -/
theorem KeepsUsed.of_sameOn {s s' : Engine} (hlink : s'.usedLink = s.usedLink)
    (hrel : s'.usedRel = s.usedRel) (hsame : SameOn s.heap s'.heap s.usedCells) :
    KeepsUsed s s' := by
  constructor
  · exact hlink
  · rw [hrel]
    exact bind_relText_eq hsame fun n hn => by simp [usedCells, hn]

/-! ## Exchanges -/

/-- The texts beside those of the exchange depend on their cells only. -/
theorem view_eq {s s' : Engine} (hsame : SameOn s.heap s'.heap s.otherCells)
    (hresponse : s'.response = s.response) (hpendingLink : s'.pendingLink = s.pendingLink)
    (hpendingRel : s'.pendingRel = s.pendingRel) :
    s'.view = { s.view with
      progress := s'.progress
      link := s'.link.bind s'.heap.read
      rel := s'.rel.bind (relText s'.heap)
      command := s'.command.bind s'.heap.read } := by
  have hresponse' : s.response.bind s'.heap.read = s.response.bind s.heap.read := by
    apply hsame.bind_read
    intro n hn
    simp [otherCells, hn]
  have hlink' : s.pendingLink.bind s'.heap.read = s.pendingLink.bind s.heap.read := by
    apply hsame.bind_read
    intro n hn
    simp [otherCells, hn]
  have hrel' : s.pendingRel.bind (relText s'.heap) = s.pendingRel.bind (relText s.heap) := by
    apply bind_relText_eq hsame
    intro n hn
    simp [otherCells, hn]
  simp only [view, hresponse, hpendingLink, hpendingRel, hresponse', hlink', hrel']

/-- A pointer that is owned beside the used one is no copy of it. -/
theorem ownCell_eq {p used : Option Nat} {m : Multiset Nat}
    (h : (cell p + (cell used + m)).Nodup) : ownCell p used = cell p := by
  unfold ownCell
  split
  · rename_i hcopy
    rw [← hcopy] at h
    cases p with
    | none => rfl
    | some n =>
        have hdisjoint := (Multiset.nodup_add.mp h).2.2
        have hn : n ∈ cell (some n) := Multiset.mem_singleton_self n
        exact absurd (Multiset.mem_add.mpr (Or.inl hn)) (Multiset.disjoint_left.mp hdisjoint hn)
  · rfl

theorem ownRelCell_eq {p used : Option RelPtr} {m : Multiset Nat}
    (h : (relCell p + (relCell used + m)).Nodup) : ownRelCell p used = relCell p := by
  unfold ownRelCell
  split
  · rename_i hcopy
    rw [← hcopy] at h
    rcases p with _ | _ | _ | n
    · rfl
    · rfl
    · rfl
    · have hdisjoint := (Multiset.nodup_add.mp h).2.2
      have hn : n ∈ relCell (some (.received n)) := Multiset.mem_singleton_self n
      exact absurd (Multiset.mem_add.mpr (Or.inl hn)) (Multiset.disjoint_left.mp hdisjoint hn)
  · rfl

section Exchange

variable {s : Engine} {lost : Multiset Nat}

/-- The pointers are the used ones, as at the start of an exchange. -/
structure Asking (s : Engine) (lost : Multiset Nat) : Prop where
  owns : s.heap.Owns (s.usedCells + s.otherCells + lost)
  link : s.link = s.usedLink
  rel : s.rel = s.usedRel
  command : s.command = s.usedCommand
  linked : s.rel ≠ none → s.link ≠ none
  pending : s.pendingRel = s.pendingLink.map fun _ => .initialPost

theorem Asking.asked (hs : Asking s lost) {s' : Engine} {lost' : Multiset Nat}
    (howns : s'.heap.Owns (s.usedCells + s.otherCells + lost'))
    (hlink : s'.link = none ∨ s'.link = s.usedLink) (hrel : s'.rel = none ∨ s'.rel = s.usedRel)
    (hcommand : s'.command = none ∨ s'.command = s.usedCommand)
    (hused : s'.usedLink = s.usedLink ∧ s'.usedRel = s.usedRel ∧ s'.usedCommand = s.usedCommand)
    (hother : s'.response = s.response ∧ s'.pendingLink = s.pendingLink ∧
      s'.pendingRel = s.pendingRel) : Asked s' lost' := by
  obtain ⟨husedLink, husedRel, husedCommand⟩ := hused
  obtain ⟨hresponse, hpendingLink, hpendingRel⟩ := hother
  have hzero : ∀ p used : Option Nat, p = none ∨ p = used → ownCell p used = 0 := by
    rintro p used (rfl | rfl)
    · unfold ownCell
      split <;> rfl
    · exact if_pos rfl
  have hzeroRel : ∀ p used : Option RelPtr, p = none ∨ p = used → ownRelCell p used = 0 := by
    rintro p used (rfl | rfl)
    · unfold ownRelCell
      split <;> rfl
    · exact if_pos rfl
  constructor
  · rw [husedLink, husedRel, husedCommand, hzero _ _ hlink, hzeroRel _ _ hrel,
      hzero _ _ hcommand, zero_add, zero_add, zero_add]
    have hcells : s'.usedCells + s'.otherCells = s.usedCells + s.otherCells := by
      simp only [usedCells, otherCells, husedLink, husedRel, husedCommand, hresponse,
        hpendingLink, hpendingRel]
    rw [hcells]
    exact howns
  · rw [hpendingLink, hpendingRel]
    exact hs.pending

theorem Answered.own (hs : Answered s lost) :
    ownCell s.link s.usedLink = cell s.link ∧ ownRelCell s.rel s.usedRel = relCell s.rel ∧
      ownCell s.command s.usedCommand = cell s.command := by
  refine ⟨?_, ?_, ?_⟩
  · apply ownCell_eq (m := relCell s.rel + cell s.command + relCell s.usedRel +
      cell s.usedCommand + s.otherCells + lost)
    convert hs.owns.nodup using 1
    rw [usedCells]
    abel
  · apply ownRelCell_eq (m := cell s.link + cell s.command + cell s.usedLink +
      cell s.usedCommand + s.otherCells + lost)
    convert hs.owns.nodup using 1
    rw [usedCells]
    abel
  · apply ownCell_eq (m := cell s.link + relCell s.rel + cell s.usedLink + relCell s.usedRel +
      s.otherCells + lost)
    convert hs.owns.nodup using 1
    rw [usedCells]
    abel

theorem Answered.asked (hs : Answered s lost) : Asked s lost := by
  obtain ⟨hlink, hrel, hcommand⟩ := hs.own
  constructor
  · rw [hlink, hrel, hcommand]
    exact hs.owns
  · exact hs.pending

theorem text_eq {h : Heap Text} {m : Multiset Nat} (hm : h.Owns m) {p : Option Nat}
    (hp : ∀ n ∈ cell p, n ∈ m) : text h p = some (p.bind h.read) := by
  cases p with
  | none => rfl
  | some n =>
      obtain ⟨t, ht⟩ := hm.read_eq_some (hp n (Multiset.mem_singleton_self n))
      simp [text, ht]

/-- An exchange is one of the dialogue.  What is received beside the used strings is owned,
and a link that another header follows is lost. -/
theorem httpCommunicate_spec (hs : Asking s lost) (method : HttpMethod) {input : Option Nat}
    (hinput : ∀ n ∈ cell input, n ∈ s.usedCells + s.otherCells + lost) (reply : Reply) :
    ∃ (s' : Engine) (lost' : Multiset Nat),
      s.httpCommunicate method input reply =
        some ((s.view.httpCommunicate method (input.bind s.heap.read) reply).1, s') ∧
      s'.view = (s.view.httpCommunicate method (input.bind s.heap.read) reply).2 ∧
      Asked s' (lost' + lost) ∧
      ((s.view.httpCommunicate method (input.bind s.heap.read) reply).1 = .ok →
        Answered s' (lost' + lost)) ∧
      KeepsUsed s s' ∧ (reply.received.length ≤ 1 → lost' = 0) := by
  cases hlink : s.link with
  | none =>
      have hview : s.view.link = none := by
        rw [view, hlink]
        rfl
      simp only [httpCommunicate, Dialogue.httpCommunicate, hlink, hview]
      refine ⟨s, 0, rfl, rfl, ?_, (fun h => by cases h), KeepsUsed.refl s, fun _ => rfl⟩
      rw [zero_add]
      exact hs.asked hs.owns (Or.inr hs.link) (Or.inr hs.rel) (Or.inr hs.command)
        ⟨rfl, rfl, rfl⟩ ⟨rfl, rfl, rfl⟩
  | some link =>
      have hmem : link ∈ s.usedCells + s.otherCells + lost := by
        have hused : link ∈ cell s.usedLink := by
          rw [← hs.link, hlink]
          exact Multiset.mem_singleton_self link
        simp [usedCells, hused]
      obtain ⟨linkText, hread⟩ := hs.owns.read_eq_some hmem
      have hview : s.view.link = some linkText := by
        rw [view, hlink]
        exact hread
      have hdocument := text_eq hs.owns hinput
      obtain ⟨newLink, newRel, heap, lost', hfold, howns, hsame, hnewLink, hnewRel, hbody,
        hlinked, hlost⟩ := received_spec reply hs.owns
      have hothers : ∀ n ∈ s.otherCells, n ∈ s.usedCells + s.otherCells + lost := by
        intro n hn
        simp [hn]
      have husedCells : ∀ n ∈ s.usedCells, n ∈ s.usedCells + s.otherCells + lost := by
        intro n hn
        simp [hn]
      have hused : some link = s.usedLink := hlink.symm.trans hs.link
      have hfold' : reply.headers.foldl updateLinkAndRel
          (none, none, (s.heap.alloc reply.body).2) = (newLink, newRel, heap) := hfold
      cases houtcome : reply.outcome with
      | outOfMemory | optionRefused =>
          simp only [httpCommunicate, Dialogue.httpCommunicate, hlink, hview, houtcome]
          refine ⟨_, 0, rfl, ?_, ?_, (fun h => by cases h), ⟨rfl, rfl⟩, fun _ => rfl⟩
          · refine Eq.trans (view_eq (s := s) ?_ rfl rfl rfl) ?_
            · exact SameOn.refl s.heap _
            simp only [Option.bind_some, Option.bind_none, hread]
            rfl
          · rw [zero_add]
            exact hs.asked hs.owns (Or.inr hused) (Or.inl rfl) (Or.inl rfl) ⟨rfl, rfl, rfl⟩
              ⟨rfl, rfl, rfl⟩
      | unanswered =>
          have hreceived : heap.Owns (cell newLink + relCell (newRel.map .received) +
              cell (some s.heap.next) + (lost' + (s.usedCells + s.otherCells + lost))) := by
            rw [relCell_map_received]
            exact howns
          obtain ⟨heap', hcleanup, howns', hsame'⟩ := cleanup_spec hreceived
          have hkept : ∀ n ∈ s.usedCells + s.otherCells + lost, heap'.read n = s.heap.read n := by
            intro n hn
            rw [hsame' n (Multiset.mem_add.mpr (Or.inr hn)), hsame n hn]
          simp only [httpCommunicate, Dialogue.httpCommunicate, hlink, hview, houtcome, perform,
            hread, hdocument, hfold', Option.bind_eq_bind, Option.bind_some]
          rw [show (s.heap.alloc reply.body).1 = s.heap.next from rfl, hcleanup]
          refine ⟨_, lost', rfl, ?_, ?_, (fun h => by cases h), ?_, ?_⟩
          · refine Eq.trans (view_eq (s := s) ?_ rfl rfl rfl) ?_
            · exact fun n hn => hkept n (hothers n hn)
            simp only [Option.bind_some, Option.bind_none, hkept link hmem, hread]
            rfl
          · refine hs.asked ?_ (Or.inr hused) (Or.inl rfl) (Or.inl rfl) ⟨rfl, rfl, rfl⟩
              ⟨rfl, rfl, rfl⟩
            convert howns' using 1
            abel
          · exact KeepsUsed.of_sameOn rfl rfl fun n hn => hkept n (husedCells n hn)
          · rw [Reply.received, houtcome]
            exact hlost
      | answered httpCode =>
          have hrel : (newRel.map RelPtr.received).bind (relText heap) = reply.rel := by
            rw [← hnewRel]
            cases newRel <;> rfl
          simp only [httpCommunicate, Dialogue.httpCommunicate, hlink, hview, houtcome, perform,
            hread, hdocument, hfold', Option.bind_eq_bind, Option.bind_some, hnewRel]
          rw [show (s.heap.alloc reply.body).1 = s.heap.next from rfl]
          have hanswered : Answered { s with
              heap := heap
              link := newLink
              rel := newRel.map .received
              command := some s.heap.next
              progress := s.progress.emit <| .exchange
                ⟨method, linkText, input.bind s.heap.read, httpResult httpCode, reply.rel⟩ }
              (lost' + lost) := by
            constructor
            · convert howns using 1
              simp only [usedCells, otherCells, relCell_map_received]
              abel
            · intro hne
              apply hlinked
              rintro rfl
              exact hne rfl
            · exact fun _ => Option.some_ne_none _
            · exact hs.pending
          refine ⟨_, lost', rfl, ?_, hanswered.asked, fun _ => hanswered, ?_, ?_⟩
          · refine Eq.trans (view_eq (s := s) ?_ rfl rfl rfl) ?_
            · exact fun n hn => hsame n (hothers n hn)
            simp only [Option.bind_some, hnewLink, hrel, hbody]
            rfl
          · exact KeepsUsed.of_sameOn rfl rfl fun n hn => hsame n (husedCells n hn)
          · rw [Reply.received, houtcome]
            exact hlost

end Exchange

/-! ## The end of an iteration -/

section Close

variable {s : Engine} {lost : Multiset Nat}

/-- The pointers that the end of an iteration leaves as they are. -/
structure SamePointers (s s' : Engine) : Prop where
  progress : s'.progress = s.progress
  link : s'.link = s.link
  rel : s'.rel = s.rel
  command : s'.command = s.command
  response : s'.response = none
  pendingLink : s'.pendingLink = s.pendingLink
  pendingRel : s'.pendingRel = s.pendingRel

theorem relText_eq {h : Heap Text} {m : Multiset Nat} (hm : h.Owns m) {p : RelPtr}
    (hp : ∀ n ∈ relCell (some p), n ∈ m) : ∃ text, relText h p = some text := by
  cases p with
  | initialPost | initialDelete => exact ⟨_, rfl⟩
  | received n => exact hm.read_eq_some (hp n (Multiset.mem_singleton_self n))

theorem releaseResponse_spec {m : Multiset Nat} (howns : s.heap.Owns (cell s.response + m)) :
    ∃ heap, s.releaseResponse = some { s with heap := heap, response := none } ∧
      heap.Owns m ∧ SameOn s.heap heap m := by
  obtain ⟨heap, hfree, howns', hsame⟩ := freeString_spec howns
  refine ⟨heap, ?_, howns', hsame⟩
  simp only [releaseResponse, hfree, Option.bind_eq_bind, Option.bind_some]

theorem releaseUsed_spec {m : Multiset Nat} (howns : s.heap.Owns (s.usedCells + m)) :
    ∃ heap, s.releaseUsed =
        some { s with heap := heap, usedLink := none, usedRel := none, usedCommand := none } ∧
      heap.Owns m ∧ SameOn s.heap heap m := by
  obtain ⟨heap, hfree, howns', hsame⟩ := cleanup_spec howns
  refine ⟨heap, ?_, howns', hsame⟩
  simp only [releaseUsed, hfree, Option.bind_eq_bind, Option.bind_some]

/-- The texts that are left when the response is released. -/
theorem SamePointers.view {s' : Engine} (hp : SamePointers s s')
    (hsame : SameOn s.heap s'.heap (cell s.link + relCell s.rel + cell s.command +
      cell s.pendingLink + relCell s.pendingRel)) :
    s'.view = { s.view with response := none } := by
  have hlink : s.link.bind s'.heap.read = s.link.bind s.heap.read :=
    hsame.bind_read fun n hn => by simp [hn]
  have hrel : s.rel.bind (relText s'.heap) = s.rel.bind (relText s.heap) :=
    bind_relText_eq hsame fun n hn => by simp [hn]
  have hcommand : s.command.bind s'.heap.read = s.command.bind s.heap.read :=
    hsame.bind_read fun n hn => by simp [hn]
  have hpendingLink : s.pendingLink.bind s'.heap.read = s.pendingLink.bind s.heap.read :=
    hsame.bind_read fun n hn => by simp [hn]
  have hpendingRel : s.pendingRel.bind (relText s'.heap) = s.pendingRel.bind (relText s.heap) :=
    bind_relText_eq hsame fun n hn => by simp [hn]
  simp only [Engine.view, hp.progress, hp.link, hp.rel, hp.command, hp.response, hp.pendingLink,
    hp.pendingRel, hlink, hrel, hcommand, hpendingLink, hpendingRel, Option.bind_none]

/-- The text of the relation, if there is one, is the one that is shown. -/
theorem relationText_eq {m : Multiset Nat} (howns : s.heap.Owns m)
    (hm : ∀ n ∈ relCell s.rel, n ∈ m) : s.relationText = some s.view.rel := by
  cases hrel : s.rel with
  | none => simp [relationText, view, hrel]
  | some rel =>
      obtain ⟨text, htext⟩ := relText_eq howns (p := rel) (by
        intro n hn
        rw [← hrel] at hn
        exact hm n hn)
      simp [relationText, view, hrel, htext]

theorem cleanUsed_spec
    (howns : s.heap.Owns
      (cell s.link + relCell s.rel + cell s.command + s.usedCells + s.otherCells + lost)) :
    ∃ s', s.cleanUsed = some s' ∧ SamePointers s s' ∧
      s'.heap.Owns
        (cell s'.link + relCell s'.rel + cell s'.command + s'.usedCells + s'.otherCells + lost) ∧
      s'.view = { s.view with response := none } ∧
      (s.view.ReceivedSelf → KeepsUsed s s') ∧
      (¬ s.view.ReceivedSelf →
        s'.usedLink = none ∧ s'.usedRel = none ∧ s'.usedCommand = none) := by
  have hrelation : s.relationText = some s.view.rel :=
    relationText_eq howns fun n hn => by simp [hn]
  simp only [cleanUsed, hrelation, Option.bind_eq_bind, Option.bind_some]
  by_cases hself : s.view.ReceivedSelf
  · rw [if_pos (show s.view.rel.map relationOf = some .self from hself)]
    have hresponse : s.heap.Owns (cell s.response + (cell s.link + relCell s.rel +
        cell s.command + s.usedCells + cell s.pendingLink + relCell s.pendingRel + lost)) := by
      convert howns using 1
      rw [otherCells]
      abel
    obtain ⟨heap, heq, howns', hsame⟩ := releaseResponse_spec hresponse
    have hp : SamePointers s { s with heap := heap, response := none } :=
      ⟨rfl, rfl, rfl, rfl, rfl, rfl, rfl⟩
    have hused : KeepsUsed s { s with heap := heap, response := none } := by
      refine KeepsUsed.of_sameOn rfl rfl (hsame.mono ?_)
      intro n hn
      simp [hn]
    refine ⟨_, heq, hp, ?_, hp.view ?_, fun _ => hused, fun hne => absurd hself hne⟩
    · convert howns' using 1
      simp only [usedCells, otherCells, cell]
      abel
    · apply hsame.mono
      intro n hn
      simp only [Multiset.mem_add] at hn ⊢
      tauto
  · rw [if_neg (show ¬ s.view.rel.map relationOf = some .self from hself)]
    have hused : s.heap.Owns (s.usedCells + (cell s.response + (cell s.link + relCell s.rel +
        cell s.command + cell s.pendingLink + relCell s.pendingRel + lost))) := by
      convert howns using 1
      rw [otherCells]
      abel
    obtain ⟨heap, heq, howns', hsame⟩ := releaseUsed_spec hused
    obtain ⟨heap', heq', howns'', hsame'⟩ := releaseResponse_spec (s := { s with
      heap := heap, usedLink := none, usedRel := none, usedCommand := none }) howns'
    have hp : SamePointers s { s with
        heap := heap'
        response := none
        usedLink := none
        usedRel := none
        usedCommand := none } := ⟨rfl, rfl, rfl, rfl, rfl, rfl, rfl⟩
    refine ⟨_, ?_, hp, ?_, hp.view ?_, fun h => absurd h hself, fun _ => ⟨rfl, rfl, rfl⟩⟩
    · rw [heq, Option.bind_some, heq']
    · convert howns'' using 1
      simp only [usedCells, otherCells, cell, relCell]
      abel
    · intro n hn
      simp only [Multiset.mem_add] at hn
      rw [hsame' n, hsame n]
      · simp only [Multiset.mem_add]
        tauto
      · simp only [Multiset.mem_add]
        tauto

theorem closeRound_going (hs : Answered s lost) (hwork : s.progress.workToDo = true)
    (htmpRet : s.progress.tmpRet = .ok) (hused : s.usedLink ≠ none)
    (husedRel : (s.usedRel.bind (relText s.heap)).map relationOf ≠ some .self) :
    ∃ s', s.closeRound = some s' ∧ Sound s' lost ∧ s'.view = s.view.closeRound := by
  obtain ⟨s', heq, hp, howns, hview, hself, hnot⟩ := cleanUsed_spec hs.owns
  have hreceived : s'.view.ReceivedSelf ↔ s.view.ReceivedSelf := by
    rw [hview]
    exact Iff.rfl
  refine ⟨s', ?_, ?_, ?_⟩
  · rw [closeRound, if_pos hwork, heq]
  · constructor
    · exact howns
    · rw [hp.rel, hp.link]
      exact hs.linked
    · rw [hp.pendingRel, hp.pendingLink]
      exact hs.pending
    · intro h
      rw [hreceived] at h
      have hrel : s.rel ≠ none := by
        intro hnone
        rw [Dialogue.ReceivedSelf, view, hnone] at h
        cases h
      constructor
      · rw [(hself h).link]
        exact hused
      · rw [hp.command]
        exact hs.commanded hrel
      · rw [(hself h).rel]
        exact husedRel
    · intro h
      rw [hreceived] at h
      exact hnot h
    · exact Or.inl hp.response
    · intro _
      rw [hp.progress]
      exact htmpRet
    · intro hend
      rw [hp.progress, hwork] at hend
      cases hend
  · rw [hview, Dialogue.closeRound, if_pos (show s.view.progress.workToDo = true from hwork)]

/-- A pointer and the used one, or the used one alone when they are the same. -/
theorem ownCell_add (p used : Option Nat) :
    ownCell p used + cell used = cell p + cell (if p = used then none else used) := by
  unfold ownCell
  split
  · rename_i h
    rw [h, zero_add]
    exact (add_zero _).symm
  · rfl

theorem ownRelCell_add (p used : Option RelPtr) :
    ownRelCell p used + relCell used = relCell p + relCell (if p = used then none else used) := by
  unfold ownRelCell
  split
  · rename_i h
    rw [h, zero_add]
    exact (add_zero _).symm
  · rfl

/-- The loop ends: everything is released but the request that was set aside. -/
theorem closeRound_ended (hs : Asked s lost) (hwork : s.progress.workToDo = false) :
    ∃ s', s.closeRound = some s' ∧ Sound s' lost ∧ s'.view = s.view.closeRound ∧
      s'.link = none ∧ s'.response = none ∧ s'.pendingLink = s.pendingLink := by
  have howns : s.heap.Owns (cell s.link + relCell s.rel + cell s.command +
      (cell (if s.link = s.usedLink then none else s.usedLink) +
        relCell (if s.rel = s.usedRel then none else s.usedRel) +
        cell (if s.command = s.usedCommand then none else s.usedCommand) + s.otherCells +
        lost)) := by
    convert hs.owns using 1
    calc _ = (cell s.link + cell (if s.link = s.usedLink then none else s.usedLink)) +
          (relCell s.rel + relCell (if s.rel = s.usedRel then none else s.usedRel)) +
          (cell s.command + cell (if s.command = s.usedCommand then none else s.usedCommand)) +
          s.otherCells + lost := by abel
      _ = _ := by
        rw [← ownCell_add, ← ownRelCell_add, ← ownCell_add, usedCells]
        abel
  obtain ⟨heap, heq, howns', hsame⟩ := cleanup_spec howns
  set t : Engine := { s with
    heap := heap
    link := none
    rel := none
    command := none
    usedLink := if s.link = s.usedLink then none else s.usedLink
    usedRel := if s.rel = s.usedRel then none else s.usedRel
    usedCommand := if s.command = s.usedCommand then none else s.usedCommand } with ht
  have ht_owns : t.heap.Owns
      (cell t.link + relCell t.rel + cell t.command + t.usedCells + t.otherCells + lost) := by
    convert howns' using 1
    simp only [ht, usedCells, otherCells, cell, relCell]
    abel
  have ht_view : t.view = { s.view with link := none, rel := none, command := none } := by
    refine Eq.trans (view_eq (s := s) ?_ rfl rfl rfl) rfl
    intro n hn
    apply hsame
    simp [hn]
  obtain ⟨s', heq', hp, howns'', hview, -, hnot⟩ := cleanUsed_spec ht_owns
  have hself : ¬ t.view.ReceivedSelf := by
    rw [ht_view]
    exact nofun
  refine ⟨s', ?_, ?_, ?_, hp.link, hp.response, hp.pendingLink⟩
  · rw [closeRound, if_neg (by rw [hwork]; exact nofun), heq]
    exact heq'
  · constructor
    · exact howns''
    · intro hrel
      exact absurd hp.rel hrel
    · rw [hp.pendingRel, hp.pendingLink]
      exact hs.pending
    · intro h
      rw [hview] at h
      exact absurd h hself
    · exact fun _ => hnot hself
    · exact Or.inl hp.response
    · intro hend
      rw [hp.progress] at hend
      exact absurd (hwork.symm.trans hend) nofun
    · intro _
      rw [hp.rel, hp.command]
      exact ⟨rfl, rfl⟩
  · rw [hview, ht_view, Dialogue.closeRound,
      if_neg (show ¬ s.view.progress.workToDo = true by rw [view, hwork]; exact nofun)]

end Close

/-! ## Iterations -/

section Follow

variable {s : Engine} {lost : Multiset Nat}

theorem view_progress (s : Engine) (p : Progress) :
    view { s with progress := p } = { s.view with progress := p } :=
  rfl

/-- Behind the branch of a relation: the loop goes on with what was received, or it ends. -/
structure Followed (s s' : Engine) (lost : Multiset Nat) : Prop where
  going : s'.progress.workToDo = true → Answered s' lost
  ended : s'.progress.workToDo = false → Asked s' lost
  used : KeepsUsed s s'

theorem setResponse_spec (hs : Asking s lost) (hresponse : s.response = none)
    (document : Option Text) :
    Asking (s.setResponse document) lost ∧
      (s.setResponse document).view = { s.view with response := document } ∧
      (s.setResponse document).progress = s.progress ∧
      KeepsUsed s (s.setResponse document) ∧
      ((s.setResponse document).response = none ↔ document = none) := by
  cases document with
  | none =>
      have hsame : s.setResponse none = s := by
        rw [setResponse, ← hresponse]
      rw [hsame]
      refine ⟨hs, ?_, rfl, KeepsUsed.refl s, iff_of_true hresponse rfl⟩
      rw [view, hresponse]
      rfl
  | some document =>
      have hsame := hs.owns.sameOn_alloc document
      have hset : s.setResponse (some document) =
          { s with heap := (s.heap.alloc document).2, response := some s.heap.next } := rfl
      rw [hset]
      refine ⟨⟨?_, hs.link, hs.rel, hs.command, hs.linked, hs.pending⟩, ?_, rfl,
        KeepsUsed.of_sameOn rfl rfl (hsame.mono fun n hn => by simp [hn]),
        iff_of_false (Option.some_ne_none _) (Option.some_ne_none _)⟩
      · convert hs.owns.alloc document using 1
        simp only [usedCells, otherCells, hresponse, cell, ← Multiset.singleton_add]
        abel
      · have hlink : s.link.bind (s.heap.alloc document).2.read = s.link.bind s.heap.read := by
          apply hsame.bind_read
          rw [hs.link]
          exact fun n hn => by simp [usedCells, hn]
        have hrel : s.rel.bind (relText (s.heap.alloc document).2) =
            s.rel.bind (relText s.heap) := by
          apply bind_relText_eq hsame
          rw [hs.rel]
          exact fun n hn => by simp [usedCells, hn]
        have hcommand : s.command.bind (s.heap.alloc document).2.read =
            s.command.bind s.heap.read := by
          apply hsame.bind_read
          rw [hs.command]
          exact fun n hn => by simp [usedCells, hn]
        have hpendingLink : s.pendingLink.bind (s.heap.alloc document).2.read =
            s.pendingLink.bind s.heap.read :=
          hsame.bind_read fun n hn => by simp [otherCells, hn]
        have hpendingRel : s.pendingRel.bind (relText (s.heap.alloc document).2) =
            s.pendingRel.bind (relText s.heap) :=
          bind_relText_eq hsame fun n hn => by simp [otherCells, hn]
        have hdocument : (s.heap.alloc document).2.read s.heap.next = some document :=
          s.heap.read_alloc_self document
        simp only [view, hlink, hrel, hcommand, hpendingLink, hpendingRel, Option.bind_some,
          hdocument]

/-! ### Branches -/

/-- The branch of a relation is one of the dialogue. -/
structure FollowsDialogue (s s' : Engine) (lost : Multiset Nat) (d : Dialogue)
    (headers : List LinkHeader) : Prop where
  view : s'.view = d
  followed : ∃ lost', Followed s s' (lost' + lost) ∧ (headers.length ≤ 1 → lost' = 0)

/-- Behind an exchange that ends the loop when it has failed. -/
theorem Followed.of_exchange {t : Engine} {lost' : Multiset Nat} {p : Progress}
    (error : RootPaError) (hasked : Asked t lost') (hanswered : error = .ok → Answered t lost')
    (hused : KeepsUsed s t) (hgoing : p.workToDo = true ↔ error = .ok) :
    Followed s { t with progress := p } lost' := by
  constructor
  · intro hwork
    obtain ⟨howns, hlinked, hcommanded, hpending⟩ := hanswered (hgoing.mp hwork)
    exact ⟨howns, hlinked, hcommanded, hpending⟩
  · intro _
    exact ⟨hasked.owns, hasked.pending⟩
  · exact ⟨hused.link, hused.rel⟩

theorem mem_of_response (s : Engine) {m : Multiset Nat} :
    ∀ n ∈ cell s.response, n ∈ m + s.otherCells + lost :=
  fun n hn => by simp [otherCells, hn]

theorem request_spec (hs : Asking s lost) (hwork : s.progress.workToDo = true)
    (method : HttpMethod) {input : Option Nat}
    (hinput : ∀ n ∈ cell input, n ∈ s.usedCells + s.otherCells + lost) (r : Round) :
    ∃ s', s.request method input r = some s' ∧
      FollowsDialogue s s' lost (s.view.request method (input.bind s.heap.read) r)
        r.reply.received := by
  obtain ⟨s', lost', heq, hview, hasked, hanswered, hused, hlost⟩ :=
    httpCommunicate_spec hs method hinput r.reply
  have hwork' : s'.progress.workToDo = true := by
    have h := congrArg (fun d => d.progress.workToDo) hview
    exact h.trans ((Dialogue.httpCommunicate_workToDo _ _ _ _).trans hwork)
  refine ⟨{ s' with
      progress := s'.progress.conclude
        (s.view.httpCommunicate method (input.bind s.heap.read) r.reply).1 }, ?_, ?_, lost', ?_,
    hlost⟩
  · simp only [request, heq, Option.bind_eq_bind, Option.bind_some]
  · have hprogress : s'.progress =
        (s.view.httpCommunicate method (input.bind s.heap.read) r.reply).2.progress :=
      congrArg Dialogue.progress hview
    rw [view_progress, hview, hprogress]
    rfl
  · exact Followed.of_exchange _ hasked hanswered hused (Progress.conclude_going hwork')

theorem putSystemInfo_spec (hs : Asking s lost) (hwork : s.progress.workToDo = true)
    (hresponse : s.response = none) (r : Round) :
    ∃ s', s.putSystemInfo r = some s' ∧
      FollowsDialogue s s' lost (s.view.putSystemInfo r)
        (if r.systemInfo.2 = none then [] else r.reply.received) := by
  obtain ⟨hset, hview, hprogress, hused, hnone⟩ := setResponse_spec hs hresponse r.systemInfo.2
  set t := s.setResponse r.systemInfo.2
  set t' : Engine := { t with
    progress := ((t.progress.note r.sysInfo).note r.version).note r.systemInfo.1 } with ht'
  have hset' : Asking t' lost := ⟨hset.owns, hset.link, hset.rel, hset.command, hset.linked,
    hset.pending⟩
  have hview' : t'.view = { s.view with
      response := r.systemInfo.2
      progress := ((s.progress.note r.sysInfo).note r.version).note r.systemInfo.1 } := by
    rw [ht', view_progress, hview, hprogress]
  have hwork' : t'.progress.workToDo = true := by
    rw [ht', hprogress]
    exact hwork
  have heq : s.putSystemInfo r = (t'.httpPut t'.response r.reply).bind fun answer =>
      some { answer.2 with progress := answer.2.progress.concludeSystemInfo answer.1 } := rfl
  have hdialogue : s.view.putSystemInfo r =
      { (t'.view.httpPut t'.view.response r.reply).2 with
        progress := (t'.view.httpPut t'.view.response r.reply).2.progress.concludeSystemInfo
          (t'.view.httpPut t'.view.response r.reply).1 } := by
    rw [hview']
    rfl
  have hresponse' : t'.view.response = r.systemInfo.2 := by rw [hview']
  rw [heq, hdialogue, httpPut, Dialogue.httpPut, hresponse']
  by_cases hdocument : r.systemInfo.2 = none
  · rw [if_pos (show t'.response = none from hnone.mpr hdocument), if_pos hdocument,
      if_pos hdocument]
    refine ⟨_, rfl, rfl, 0, ?_, fun _ => rfl⟩
    rw [zero_add]
    apply Followed.of_exchange .illegalArgument _ (fun h => by cases h) hused
    · exact Progress.concludeSystemInfo_going hwork'
    · exact hset'.asked hset'.owns (Or.inr hset'.link) (Or.inr hset'.rel) (Or.inr hset'.command)
        ⟨rfl, rfl, rfl⟩ ⟨rfl, rfl, rfl⟩
  · rw [if_neg (show ¬ t'.response = none from fun h => hdocument (hnone.mp h)),
      if_neg hdocument, if_neg hdocument]
    obtain ⟨u, lost', heq', hview'', hasked, hanswered, hused', hlost⟩ :=
      httpCommunicate_spec hset' .put (mem_of_response t') r.reply
    have hread : t'.response.bind t'.heap.read = r.systemInfo.2 := hresponse'
    rw [hread] at heq' hview'' hanswered
    have hwork'' : u.progress.workToDo = true := by
      have h := congrArg (fun d => d.progress.workToDo) hview''
      exact h.trans ((Dialogue.httpCommunicate_workToDo _ _ _ _).trans hwork')
    rw [heq']
    refine ⟨_, rfl, ?_, lost', ?_, hlost⟩
    · rw [view_progress, ← hview'']
      rfl
    · exact Followed.of_exchange _ hasked hanswered (hused.trans ⟨hused'.link, hused'.rel⟩)
        (Progress.concludeSystemInfo_going hwork'')

/-- The command is handled, and what it gives is the response. -/
theorem handleXmlMessage_spec (hs : Asking s lost) (hresponse : s.response = none) (r : Round) :
    ∃ s', s.handleXmlMessage r = some ((s.view.handleXmlMessage r).1, s') ∧
      s'.view = (s.view.handleXmlMessage r).2 ∧ Asking s' lost ∧
      (s'.progress.workToDo = s.progress.workToDo ∧ s'.progress.tmpRet = s.progress.tmpRet) ∧
      KeepsUsed s s' ∧
      (s'.response = none ↔ s.view.command = none ∨ r.commandResult.2 = none) := by
  have htext : text s.heap s.command = some s.view.command := by
    apply text_eq hs.owns
    rw [hs.command]
    exact fun n hn => by simp [usedCells, hn]
  set t : Engine := { s with progress := s.progress.emit (.handled s.view.command) } with ht
  have hasking : Asking t lost := ⟨hs.owns, hs.link, hs.rel, hs.command, hs.linked, hs.pending⟩
  have hview : t.view = { s.view with
      progress := s.progress.emit (.handled s.view.command) } := view_progress s _
  by_cases hcommand : s.view.command = none
  · have heq : s.handleXmlMessage r = some (.illegalArgument, { t with response := none }) := by
      simp only [handleXmlMessage, htext, ht, hcommand, Option.bind_eq_bind, Option.bind_some]
    have hsame : ({ t with response := none } : Engine) = t := by
      rw [ht, ← hresponse]
    have hnone : s.view = { s.view with response := none } := by
      rw [view, hresponse]
      rfl
    rw [heq, hsame, Dialogue.handleXmlMessage_of_none hcommand]
    refine ⟨t, rfl, ?_, hasking, ⟨rfl, rfl⟩, ⟨rfl, rfl⟩, iff_of_true hresponse (Or.inl hcommand)⟩
    rw [hview]
    exact congrArg (fun d : Dialogue =>
      { d with progress := s.progress.emit (.handled s.view.command) }) hnone
  · have heq : s.handleXmlMessage r =
        some (r.commandResult.1, t.setResponse r.commandResult.2) := by
      obtain ⟨command, h⟩ := Option.ne_none_iff_exists'.mp hcommand
      simp only [handleXmlMessage, htext, ht, h, Option.bind_eq_bind, Option.bind_some]
    obtain ⟨hset, hview', hprogress, hused, hnone⟩ :=
      setResponse_spec hasking hresponse r.commandResult.2
    rw [heq, Dialogue.handleXmlMessage_of_some hcommand]
    refine ⟨_, rfl, ?_, hset, ?_, ⟨hused.link, hused.rel⟩, ?_⟩
    · rw [hview', hview]
      rfl
    · rw [hprogress]
      exact ⟨rfl, rfl⟩
    · rw [hnone]
      exact (or_iff_right hcommand).symm

/-- The result of a command is posted, or there is nothing left to work with. -/
theorem postResult_spec (hs : Asking s lost) (hwork : s.progress.workToDo = true)
    (htmpRet : s.progress.tmpRet = .ok) (hresponse : s.response = none) (r : Round) :
    ∃ s', s.postResult r = some s' ∧
      FollowsDialogue s s' lost (s.view.postResult r)
        (if s.view.command = none ∨ r.commandResult.2 = none then [] else r.reply.received) := by
  obtain ⟨t, heq, hview, hset, ⟨htWork, htTmpRet⟩, hused, hnone⟩ :=
    handleXmlMessage_spec hs hresponse r
  rw [hwork] at htWork
  rw [htmpRet] at htTmpRet
  simp only [postResult, heq, Option.bind_eq_bind, Option.bind_some, Dialogue.postResult, ← hview]
  generalize (s.view.handleXmlMessage r).1 = ret
  by_cases hdocument : s.view.command = none ∨ r.commandResult.2 = none
  · have htNone : t.response = none := hnone.mpr hdocument
    have hviewNone : t.view.response = none := by
      rw [view, htNone]
      rfl
    rw [if_pos htNone, if_pos hviewNone, if_pos hdocument]
    refine ⟨_, rfl, rfl, 0, ?_, fun _ => rfl⟩
    rw [zero_add]
    apply Followed.of_exchange (t := { t with link := none, rel := none, command := none }) .ok _ _
      ⟨hused.link, hused.rel⟩
    · exact iff_of_true (Progress.concludeResult_going htWork htTmpRet) rfl
    · exact hset.asked hset.owns (Or.inl rfl) (Or.inl rfl) (Or.inl rfl) ⟨rfl, rfl, rfl⟩
        ⟨rfl, rfl, rfl⟩
    · intro _
      refine ⟨?_, fun h => absurd rfl h, fun h => absurd rfl h, hset.pending⟩
      convert hset.owns using 1
      simp only [usedCells, otherCells, cell, relCell, zero_add]
  · have htSome : t.response ≠ none := fun h => hdocument (hnone.mp h)
    have hread : t.view.response ≠ none := by
      obtain ⟨n, hn⟩ := Option.ne_none_iff_exists'.mp htSome
      obtain ⟨document, hdoc⟩ := hset.owns.read_eq_some (n := n) (by simp [otherCells, hn, cell])
      rw [view, hn]
      simp [hdoc]
    rw [if_neg htSome, if_neg hread, if_neg hdocument]
    set t' : Engine := { t with progress := { t.progress with ret := ret } } with ht'
    have hset' : Asking t' lost := ⟨hset.owns, hset.link, hset.rel, hset.command, hset.linked,
      hset.pending⟩
    obtain ⟨u, lost', heq', hview', hasked, hanswered, hused', hlost⟩ :=
      httpCommunicate_spec hset' .post (mem_of_response t') r.reply
    have hviewEq : { t.view with progress := { t.view.progress with ret := ret } } = t'.view := rfl
    have hresponseEq : t'.response.bind t'.heap.read = t.view.response := rfl
    have hwork' : u.progress.workToDo = true := by
      have h := congrArg (fun d => d.progress.workToDo) hview'
      exact h.trans ((Dialogue.httpCommunicate_workToDo _ _ _ _).trans htWork)
    have herror : (t'.view.httpCommunicate .post t.view.response r.reply).1 ≠
        .registryObjectNotAvailable := Dialogue.httpCommunicate_error_ne _ _ _ _
    rw [hresponseEq] at heq' hview' hanswered
    rw [hviewEq, heq']
    refine ⟨_, rfl, ?_, lost', ?_, hlost⟩
    · rw [view_progress, ← hview']
      rfl
    · exact Followed.of_exchange _ hasked hanswered (hused.trans ⟨hused'.link, hused'.rel⟩)
        (Progress.concludeResult_note_going hwork' herror)

/-- What the loop does with a relation is what the dialogue does. -/
theorem follow_spec (hs : Asking s lost) (hwork : s.progress.workToDo = true)
    (htmpRet : s.progress.tmpRet = .ok) (r : Round) {relation : Relation}
    (hresponse : s.response = none ∨ relation = .initialPost ∨ relation = .initialDelete) :
    ∃ s', s.follow r relation = some s' ∧
      FollowsDialogue s s' lost (s.view.follow r relation) (s.view.headersFor r relation) := by
  have hnone : ∀ n ∈ cell none, n ∈ s.usedCells + s.otherCells + lost :=
    fun n hn => absurd hn (Multiset.notMem_zero n)
  cases relation with
  | systemInfo => exact putSystemInfo_spec hs hwork (by simpa using hresponse) r
  | result => exact postResult_spec hs hwork htmpRet (by simpa using hresponse) r
  | initialDelete => exact request_spec hs hwork .delete hnone r
  | initialPost => exact request_spec hs hwork .post (mem_of_response s) r
  | next => exact request_spec hs hwork .get hnone r
  | self | unknown =>
      refine ⟨_, rfl, rfl, 0, ?_, fun _ => rfl⟩
      rw [zero_add]
      refine ⟨nofun, fun _ => ?_, rfl, rfl⟩
      exact hs.asked hs.owns (Or.inr hs.link) (Or.inr hs.rel) (Or.inr hs.command)
        ⟨rfl, rfl, rfl⟩ ⟨rfl, rfl, rfl⟩

end Follow

/-! ### Whole iterations -/

section Rounds

variable {s : Engine} {lost : Multiset Nat}

theorem relationOf_initialPost : relationOf relationInitialPost = .initialPost := by
  decide

theorem relationOf_initialDelete : relationOf relationInitialDelete = .initialDelete := by
  decide

/-- A null pointer shows no text, and no other pointer does. -/
theorem Sound.view_rel (hs : Sound s lost) : s.view.rel = none ↔ s.rel = none := by
  cases hrel : s.rel with
  | none => simp [view, hrel]
  | some rel =>
      obtain ⟨text, htext⟩ := relText_eq hs.owns (p := rel) (by
        intro n hn
        rw [← hrel] at hn
        simp [hn])
      simp [view, hrel, htext]

theorem Sound.view_pending (hs : Sound s lost) :
    s.view.pending = none ↔ s.pendingLink = none := by
  cases hlink : s.pendingLink with
  | none => simp [view, hlink]
  | some link =>
      obtain ⟨linkText, hread⟩ := hs.owns.read_eq_some (n := link) (by
        simp [otherCells, hlink, cell])
      simp [view, hs.pending, hlink, hread, relText]

theorem noRelation_of_none (hlink : s.pendingLink = none) :
    s.noRelation = closeRound { s with
      progress := { s.progress.callback .finishedProvisioning .ok with workToDo := false } } := by
  unfold noRelation
  split
  · rename_i h _
    exact nomatch hlink.symm.trans h
  · rfl

theorem noRelation_spec (hs : Sound s lost) (hwork : s.progress.workToDo = true)
    (hrel : s.rel = none) :
    ∃ s', s.noRelation = some s' ∧ Sound s' lost ∧ s'.view = s.view.noRelation := by
  have hself : ¬ s.view.ReceivedSelf := by
    rw [Dialogue.ReceivedSelf, hs.view_rel.mpr hrel]
    exact nofun
  have hunused := hs.unused hself
  have hresponse : s.response = none := by
    simpa [hrel] using hs.response
  cases hlink : s.pendingLink with
  | none =>
      have hview : s.view.pending = none := hs.view_pending.mpr hlink
      have hasked : Asked s lost :=
        Answered.asked ⟨hs.owns, hs.linked, fun h => absurd hrel h, hs.pending⟩
      obtain ⟨s', heq, hsound, hview', -⟩ := closeRound_ended (s := { s with
        progress := { s.progress.callback .finishedProvisioning .ok with workToDo := false } })
        ⟨hasked.owns, hasked.pending⟩ rfl
      refine ⟨s', ?_, hsound, ?_⟩
      · rw [noRelation_of_none hlink, heq]
      · rw [hview', Dialogue.noRelation_of_none hview]
        rfl
  | some link =>
      have hpendingRel : s.pendingRel = some .initialPost := by
        rw [hs.pending, hlink]
        rfl
      have howns : s.heap.Owns (cell s.link +
          (cell s.command + s.usedCells + s.otherCells + lost)) := by
        convert hs.owns using 1
        rw [hrel, relCell]
        abel
      obtain ⟨heap, hfree, howns', hsame⟩ := freeString_spec howns
      set s' : Engine := { s with
        heap := heap
        link := some link
        rel := some .initialPost
        pendingLink := none
        pendingRel := none
        progress := { s.progress with workToDo := true } } with hs'
      have heq : s.noRelation = some s' := by
        simp only [noRelation, hlink, hpendingRel, hfree, Option.bind_eq_bind, Option.bind_some, hs']
      have hview : s'.view = s.view.noRelation := by
        obtain ⟨linkText, hread⟩ := howns'.read_eq_some (n := link) (by
          simp [otherCells, hlink, cell])
        have hreadBefore : s.pendingLink.bind s.heap.read = some linkText := by
          rw [← hsame.bind_read (fun n hn => by simp [otherCells, hn]), hlink, Option.bind_some,
            hread]
        have hpending : s.view.pending = some (linkText, relationInitialPost) :=
          view_pending_of hreadBefore (by rw [hpendingRel]; rfl)
        have hcommand : s.command.bind heap.read = s.command.bind s.heap.read :=
          hsame.bind_read fun n hn => by simp [hn]
        rw [Dialogue.noRelation_of_some hpending]
        simp only [view, hs', hresponse, hcommand, hread, relText, Option.bind_some,
          Option.bind_none]
      refine ⟨s', heq, ?_, hview⟩
      constructor
      · convert howns' using 1
        simp only [hs', usedCells, otherCells, hlink, hpendingRel, cell, relCell]
        abel
      · exact fun _ => nofun
      · rfl
      · intro h
        have hself' : relationOf relationInitialPost = .self := Option.some.inj h
        rw [relationOf_initialPost] at hself'
        cases hself'
      · exact fun _ => hunused
      · exact Or.inl hresponse
      · exact fun _ => hs.tmpRet hwork
      · exact nofun

/-- An iteration is one of the dialogue, and it loses no string when there is one header at
most. -/
theorem sound_round (hs : Sound s lost) (hwork : s.progress.workToDo = true)
    (hself : ¬ s.view.ReceivedSelf) (r : Round) :
    ∃ (s' : Engine) (lost' : Multiset Nat), s.round r = some s' ∧ Sound s' (lost' + lost) ∧
      s'.view = s.view.round r ∧ ((s.view.headers r).length ≤ 1 → lost' = 0) := by
  cases hrel : s.rel with
  | none =>
      obtain ⟨s', heq, hsound, hview⟩ := noRelation_spec hs hwork hrel
      refine ⟨s', 0, ?_, ?_, ?_, fun _ => rfl⟩
      · rw [round, hrel]
        exact heq
      · rw [zero_add]
        exact hsound
      · rw [hview, Dialogue.round, hs.view_rel.mpr hrel]
  | some rel =>
      obtain ⟨husedLink, husedRel, husedCommand⟩ := hs.unused hself
      obtain ⟨text, htext⟩ := relText_eq hs.owns (p := rel) (by
        intro n hn
        rw [← hrel] at hn
        simp [hn])
      have hviewRel : s.view.rel = some text := by
        rw [view, hrel, Option.bind_some, htext]
      have hrelation : relationOf text ≠ .self := by
        intro h
        apply hself
        rw [Dialogue.ReceivedSelf, hviewRel, Option.map_some, h]
      set t : Engine := { s with
        usedLink := s.link, usedRel := s.rel, usedCommand := s.command } with ht
      have hasking : Asking t lost := by
        refine ⟨?_, rfl, rfl, rfl, hs.linked, hs.pending⟩
        convert hs.owns using 1
        simp only [ht, usedCells, otherCells, husedLink, husedRel, husedCommand, cell, relCell]
        abel
      have hresponse : t.response = none ∨ relationOf text = .initialPost ∨
          relationOf text = .initialDelete := by
        obtain h | h | h := hs.response
        · exact Or.inl h
        · have hconst : text = relationInitialPost := by
            cases hrel.symm.trans h
            exact (Option.some.inj htext).symm
          exact Or.inr (Or.inl (hconst ▸ relationOf_initialPost))
        · have hconst : text = relationInitialDelete := by
            cases hrel.symm.trans h
            exact (Option.some.inj htext).symm
          exact Or.inr (Or.inr (hconst ▸ relationOf_initialDelete))
      obtain ⟨u, heq, hfollowed⟩ := follow_spec hasking hwork (hs.tmpRet hwork) r hresponse
      obtain ⟨hview, lost', ⟨hgoing, hended, hused⟩, hlost⟩ := hfollowed
      have hround : s.round r = u.closeRound := by
        simp only [round, hrel, htext, Option.bind_eq_bind, Option.bind_some, if_neg hrelation]
        rw [← hrel, heq]
        rfl
      have hdialogue : s.view.round r = u.view.closeRound := by
        rw [Dialogue.round, hviewRel, hview]
        rfl
      have hheaders : s.view.headers r = s.view.headersFor r (relationOf text) := by
        rw [Dialogue.headers, hviewRel]
      rw [hround, hdialogue, hheaders]
      cases hwork' : u.progress.workToDo with
      | true =>
          have hprogress : u.progress = (t.view.follow r (relationOf text)).progress :=
            congrArg Dialogue.progress hview
          have htmpRet : u.progress.tmpRet = .ok := by
            rw [hprogress] at hwork' ⊢
            exact Dialogue.follow_tmpRet hwork (hs.tmpRet hwork) _ hwork'
          have husedLink' : u.usedLink ≠ none := by
            rw [hused.link]
            exact hs.linked (by rw [hrel]; exact Option.some_ne_none _)
          have husedRel' : (u.usedRel.bind (relText u.heap)).map relationOf ≠ some .self := by
            rw [hused.rel]
            exact hself
          obtain ⟨s', heq', hsound, hview'⟩ :=
            closeRound_going (hgoing hwork') hwork' htmpRet husedLink' husedRel'
          exact ⟨s', lost', heq', hsound, hview', hlost⟩
      | false =>
          obtain ⟨s', heq', hsound, hview', -⟩ := closeRound_ended (hended hwork') hwork'
          exact ⟨s', lost', heq', hsound, hview', hlost⟩

/-! ## The same once more -/

/-- The link was released, and so was a relation that was received. -/
structure Broken (s : Engine) : Prop where
  workToDo : s.progress.workToDo = true
  link : ∃ k, s.link = some k ∧ s.heap.read k = none
  rel : ∀ n, s.rel = some (.received n) → s.heap.read n = none

theorem freeString_released {h h' : Heap Text} {p : Option Nat} (hfree : freeString h p = some h')
    {k : Nat} (hk : h.read k = none) : h'.read k = none := by
  cases p with
  | none =>
      cases hfree
      exact hk
  | some n =>
      by_cases hkn : k = n
      · rw [hkn]
        exact Heap.read_free_self hfree
      · rw [Heap.read_free_of_ne hfree hkn]
        exact hk

theorem freeString_eq_none {h : Heap Text} {k : Nat} (hk : h.read k = none) :
    freeString h (some k) = none :=
  Heap.free_eq_none_iff.mpr hk

theorem cleanup_released {h : Heap Text} {k : Nat} (hk : h.read k = none)
    (rel : Option RelPtr) (command : Option Nat) : cleanup h (some k) rel command = none := by
  simp only [cleanup, Option.bind_eq_bind]
  cases hcommand : freeString h command with
  | none => rfl
  | some h₁ =>
      rw [Option.bind_some]
      cases hrel : freeRel h₁ rel with
      | none => rfl
      | some h₂ =>
          rw [freeRel_eq] at hrel
          exact freeString_eq_none (freeString_released hrel (freeString_released hcommand hk))

theorem closeRound_released {s : Engine} {k : Nat} (hlink : s.link = some k)
    (hk : s.heap.read k = none) (hwork : s.progress.workToDo = false) : s.closeRound = none := by
  rw [closeRound, if_neg (by rw [hwork]; exact nofun), hlink, cleanup_released hk]
  rfl

/-- The request would be made with the link that was released. -/
theorem request_broken {s : Engine} {k : Nat} (hlink : s.link = some k)
    (hk : s.heap.read k = none) (method : HttpMethod) (input : Option Nat) (r : Round) :
    (s.request method input r).bind closeRound = none := by
  simp only [request, httpCommunicate, hlink]
  cases houtcome : r.reply.outcome with
  | outOfMemory | optionRefused =>
      simp only [Option.bind_eq_bind, Option.bind_some]
      exact closeRound_released rfl hk rfl
  | unanswered | answered httpCode =>
      simp only [hk, Option.bind_eq_bind, Option.bind_none]

/-- Whatever comes next, a string is used that was released. -/
theorem round_broken (hs : Broken s) (r : Round) : s.round r = none := by
  obtain ⟨hwork, ⟨k, hlink, hk⟩, hrel⟩ := hs
  cases hrel' : s.rel with
  | none =>
      rw [round, hrel']
      dsimp only
      unfold noRelation
      split
      · rw [hlink, freeString_eq_none hk]
        rfl
      · exact closeRound_released hlink hk rfl
  | some rel =>
      cases rel with
      | received n =>
          simp only [round, hrel', relText, hrel n hrel', Option.bind_eq_bind, Option.bind_none]
      | initialPost =>
          simp only [round, hrel', relText, relationOf_initialPost, Option.bind_eq_bind,
            Option.bind_some]
          rw [if_neg (show Relation.initialPost ≠ .self from nofun)]
          apply request_broken (k := k)
          · exact hlink
          · exact hk
      | initialDelete =>
          simp only [round, hrel', relText, relationOf_initialDelete, Option.bind_eq_bind,
            Option.bind_some]
          rw [if_neg (show Relation.initialDelete ≠ .self from nofun)]
          apply request_broken (k := k)
          · exact hlink
          · exact hk

theorem not_receivedSelf_of_constant
    (hrel : s.rel = some .initialPost ∨ s.rel = some .initialDelete) : ¬ s.view.ReceivedSelf := by
  intro hself
  obtain hrel | hrel := hrel
  · have h : relationOf relationInitialPost = .self := by
      rw [Dialogue.ReceivedSelf, view, hrel] at hself
      exact Option.some.inj hself
    rw [relationOf_initialPost] at h
    cases h
  · have h : relationOf relationInitialDelete = .self := by
      rw [Dialogue.ReceivedSelf, view, hrel] at hself
      exact Option.some.inj hself
    rw [relationOf_initialDelete] at h
    cases h

/-- The relation that asks for the same once more is one that was received. -/
theorem Sound.received (hs : Sound s lost) (hself : s.view.ReceivedSelf) :
    ∃ n text, s.rel = some (.received n) ∧ s.heap.read n = some text ∧
      relationOf text = .self := by
  rcases hrel : s.rel with _ | _ | _ | n
  · rw [Dialogue.ReceivedSelf, hs.view_rel.mpr hrel] at hself
    cases hself
  · exact absurd hself (not_receivedSelf_of_constant (Or.inl hrel))
  · exact absurd hself (not_receivedSelf_of_constant (Or.inr hrel))
  · obtain ⟨text, htext⟩ := hs.owns.read_eq_some (n := n) (by simp [hrel, relCell])
    refine ⟨n, text, rfl, htext, ?_⟩
    rw [Dialogue.ReceivedSelf, view, hrel] at hself
    simpa [relText, htext] using hself

/-- The strings that were received are no copies of those of the last exchange. -/
theorem Sound.not_copies (hs : Sound s lost) (hself : s.view.ReceivedSelf) :
    s.rel ≠ s.usedRel ∧ s.link ≠ s.usedLink ∧ s.command ≠ s.usedCommand := by
  obtain ⟨husedLink, hcommand, -⟩ := hs.kept hself
  obtain ⟨k, hk⟩ := Option.ne_none_iff_exists'.mp husedLink
  obtain ⟨c, hc⟩ := Option.ne_none_iff_exists'.mp hcommand
  obtain ⟨n, -, hn, -⟩ := hs.received hself
  have hanswered : Answered s lost := ⟨hs.owns, hs.linked, fun _ => hcommand, hs.pending⟩
  obtain ⟨hownLink, hownRel, hownCommand⟩ := hanswered.own
  refine ⟨?_, ?_, ?_⟩
  · intro hcopy
    rw [ownRelCell, if_pos hcopy, hn] at hownRel
    exact absurd hownRel.symm (Multiset.singleton_ne_zero n)
  · intro hcopy
    rw [ownCell, if_pos hcopy, hcopy, hk] at hownLink
    exact absurd hownLink.symm (Multiset.singleton_ne_zero k)
  · intro hcopy
    rw [ownCell, if_pos hcopy, hc] at hownCommand
    exact absurd hownCommand.symm (Multiset.singleton_ne_zero c)

/-- The strings of the last exchange are restored, and then they are released. -/
theorem round_self (hs : Sound s lost) (hwork : s.progress.workToDo = true)
    (hself : s.view.ReceivedSelf) (r : Round) :
    ∃ s', s.round r = some s' ∧ Broken s' ∧ s'.progress = s.progress := by
  obtain ⟨husedLink, hcommand, husedRel⟩ := hs.kept hself
  obtain ⟨n, text, hn, htext, hrelation⟩ := hs.received hself
  -- what was received is released, and the pointers are those of the last exchange
  have hreceived : s.heap.Owns (cell s.link + relCell s.rel + cell s.command +
      (s.usedCells + (s.otherCells + lost))) := by
    convert hs.owns using 1
    abel
  obtain ⟨h₁, hcleanup, howns₁, hsame₁⟩ := cleanup_spec hreceived
  set t : Engine := { s with
    heap := h₁, link := s.usedLink, rel := s.usedRel, command := s.usedCommand } with ht
  have hround : s.round r = t.cleanUsed := by
    have hrestore : s.round r = s.restore := by
      simp only [round, hn, relText, htext, Option.bind_eq_bind, Option.bind_some]
      exact if_pos hrelation
    rw [hrestore, restore, if_pos (hs.not_copies hself), hcleanup]
    exact if_pos hwork
  -- and then they are released as the used ones
  have hrelationText : t.relationText = some t.view.rel := by
    apply relationText_eq howns₁
    intro k hk
    have hk' : k ∈ relCell s.usedRel := hk
    simp [usedCells, hk']
  have hnotSelf : t.view.rel.map relationOf ≠ some .self := by
    have hsame := bind_relText_eq hsame₁ (p := s.usedRel) fun n hn => by simp [usedCells, hn]
    rw [view, ht, hsame]
    exact husedRel
  obtain ⟨h₂, heq₂, howns₂, -⟩ := releaseUsed_spec (s := t) howns₁
  have hresponse : h₂.Owns (cell s.response + (cell s.pendingLink + relCell s.pendingRel + lost)) := by
    convert howns₂ using 1
    rw [otherCells]
    abel
  obtain ⟨h₃, heq₃, howns₃, -⟩ := releaseResponse_spec (s := { t with
    heap := h₂, usedLink := none, usedRel := none, usedCommand := none }) hresponse
  have hreleased : ∀ k ∈ s.usedCells, h₃.read k = none := by
    intro k hk
    apply howns₃.read_eq_none
    intro hrest
    have hdisjoint := (Multiset.nodup_add.mp howns₁.nodup).2.2
    apply Multiset.disjoint_left.mp hdisjoint hk
    simp only [otherCells, Multiset.mem_add] at hrest ⊢
    tauto
  have hclean : t.cleanUsed = releaseResponse { t with
      heap := h₂, usedLink := none, usedRel := none, usedCommand := none } := by
    rw [cleanUsed, hrelationText, Option.bind_eq_bind, Option.bind_some, if_neg hnotSelf, heq₂]
    rfl
  refine ⟨_, (hround.trans hclean).trans heq₃, ⟨hwork, ?_, ?_⟩, rfl⟩
  · obtain ⟨k, hk⟩ := Option.ne_none_iff_exists'.mp husedLink
    exact ⟨k, hk, hreleased k (by simp [usedCells, hk, cell])⟩
  · intro k hk
    have hk' : s.usedRel = some (.received k) := hk
    exact hreleased k (by simp [usedCells, hk', relCell])

/-! ## The end of the loop -/

/-- Behind the loop everything is released but the request that was set aside. -/
theorem finish_spec (hs : Sound s lost) (hended : s.progress.workToDo = false) :
    ∃ heap, s.finish = some heap ∧
      heap.Owns (cell s.pendingLink + relCell s.pendingRel + lost) := by
  obtain ⟨hrel, hcommand⟩ := hs.ended hended
  obtain ⟨husedLink, husedRel, husedCommand⟩ :=
    hs.unused fun h => (hs.kept h).command hcommand
  have howns : s.heap.Owns (cell s.response + (cell s.link +
      (cell s.pendingLink + relCell s.pendingRel + lost))) := by
    convert hs.owns using 1
    rw [usedCells, otherCells, hrel, hcommand, husedLink, husedRel, husedCommand, cell_none,
      relCell_none]
    abel
  obtain ⟨h₁, heq₁, howns₁, -⟩ := freeString_spec howns
  obtain ⟨h₂, heq₂, howns₂, -⟩ := freeString_spec howns₁
  refine ⟨h₂, ?_, howns₂⟩
  simp only [finish, heq₁, heq₂, Option.bind_eq_bind, Option.bind_some]

end Rounds

end Engine

end Exynos8890.RootPa
