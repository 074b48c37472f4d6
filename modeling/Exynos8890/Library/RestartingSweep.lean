import Mathlib.Tactic

/-!
# Sweeps that begin again behind every removal

A list is walked until an element is found that has to go.  It is removed together with those that
go with it, and the walk begins again.  A walk may begin behind the first elements of the list: it
passes over them, and nothing is wrong with that as long as they were examined before.

Main results:

- Definition `RestartingSweep.sweepFrom`: what is left, what was examined, and what was passed over
  without having been examined.
- Theorem `sweepFrom_total`: with one walk more than there are elements a sweep comes to its end.
- Theorem `clean_iff`: a sweep whose walks pass over the first element, but for the first walk,
  removes what has to go and passes over nothing exactly when the first element stays, or when
  nothing is left behind its removal; and nothing goes with another that would have to stay.
-/

universe u

namespace RestartingSweep

/-- What a sweep comes to. -/
structure Swept (α : Type u) where
  left : List α
  examined : List α
  passed : List α

variable {α : Type u}

/-- What is left when an element is removed with those that go with it. -/
def without (gone : α → α → Bool) (c : α) (l : List α) : List α :=
  l.filter fun a => !gone c a

theorem mem_without {gone : α → α → Bool} {c a : α} {l : List α} :
    a ∈ without gone c l ↔ a ∈ l ∧ gone c a = false := by
  simp [without]

theorem without_eq_nil {gone : α → α → Bool} {c : α} {l : List α} :
    without gone c l = [] ↔ ∀ a ∈ l, gone c a = true := by
  simp [without]

theorem mem_of_find_drop {dead : α → Bool} {skip : Nat} {l : List α} {c : α}
    (h : (l.drop skip).find? dead = some c) : c ∈ l ∧ dead c = true :=
  ⟨List.mem_of_mem_drop (List.mem_of_find?_eq_some h), List.find?_some h⟩

theorem length_without_lt {gone : α → α → Bool} (hself : ∀ c, gone c c = true) {c : α}
    {l : List α} (hc : c ∈ l) : (without gone c l).length < l.length := by
  apply List.length_filter_lt_length_iff_exists.mpr
  exact ⟨c, hc, by simp [hself c]⟩

theorem takeWhile_congr {p q : α → Bool} {l : List α} (h : ∀ a ∈ l, p a = q a) :
    l.takeWhile p = l.takeWhile q := by
  induction l with
  | nil => rfl
  | cons a l ih =>
      rw [List.takeWhile_cons, List.takeWhile_cons, h a List.mem_cons_self,
        ih fun b hb => h b (List.mem_cons_of_mem a hb)]

variable [DecidableEq α] (dead : α → Bool) (gone : α → α → Bool)

/-- The elements that a walk passes over without having examined them before. -/
def unexamined (skip : Nat) (l examined : List α) : List α :=
  (l.take skip).filter fun a => a ∉ examined

/-- A walk from the element behind `skip` others, and the walks behind its removal.  The number of
walks is bounded by the first argument. -/
def sweepFrom : Nat → Nat → List α → List α → List α → Option (Swept α)
  | 0, _, _, _, _ => none
  | n + 1, skip, l, examined, passed =>
      let passed := passed ++ unexamined skip l examined
      match (l.drop skip).find? dead with
      | none => some ⟨l, examined ++ l.drop skip, passed⟩
      | some c =>
          let examined := examined ++ (l.drop skip).takeWhile (fun a => !dead a) ++ [c]
          let l := without gone c l
          if l = [] then some ⟨[], examined, passed⟩ else sweepFrom n 1 l examined passed

/-- What has to go is gone, everything else is left, and nothing is passed over or left without
having been examined. -/
structure Clean (l : List α) (s : Swept α) : Prop where
  left : s.left = l.filter fun a => !dead a
  passed : s.passed = []
  examined : ∀ a ∈ s.left, a ∈ s.examined

/-- Nothing that stays goes with an element that does not. -/
def KeepsOthers (l : List α) : Prop :=
  ∀ c ∈ l, dead c = true → ∀ a ∈ l, gone c a = true → dead a = true

/-- The first element stays, or nothing is left behind its removal. -/
def FirstStays : List α → Prop
  | [] => True
  | a :: l => dead a = false ∨ without gone a (a :: l) = []

variable {dead gone}

/-! ## Walks -/

/-- With one walk more than there are elements a sweep comes to its end. -/
theorem sweepFrom_total (hself : ∀ c, gone c c = true) {n skip : Nat} {l examined passed : List α}
    (h : l.length < n) : ∃ s, sweepFrom dead gone n skip l examined passed = some s := by
  induction n generalizing skip l examined passed with
  | zero => exact absurd h (Nat.not_lt_zero _)
  | succ n ih =>
      rw [sweepFrom]
      cases hfind : (l.drop skip).find? dead with
      | none => exact ⟨_, rfl⟩
      | some c =>
          have hlt := length_without_lt hself (mem_of_find_drop hfind).1
          dsimp only
          split
          · exact ⟨_, rfl⟩
          · exact ih (by omega)

/-- What was passed over stays on record, and so does what a walk passes over. -/
theorem mem_passed {n skip : Nat} {l examined passed : List α} {s : Swept α}
    (h : sweepFrom dead gone n skip l examined passed = some s) {a : α}
    (ha : a ∈ passed ++ unexamined skip l examined) : a ∈ s.passed := by
  induction n generalizing skip l examined passed with
  | zero => cases h
  | succ n ih =>
      rw [sweepFrom] at h
      dsimp only at h
      split at h
      · cases h
        exact ha
      · split at h
        · cases h
          exact ha
        · exact ih h (List.mem_append_left _ ha)

/-- What is not left has gone with an element that had to go, and with which nothing that is left
goes. -/
theorem gone_of_not_left {n skip : Nat} {l examined passed : List α} {s : Swept α}
    (h : sweepFrom dead gone n skip l examined passed = some s) :
    (∀ a ∈ s.left, a ∈ l) ∧ ∀ a ∈ l, a ∉ s.left → ∃ c ∈ l, dead c = true ∧ gone c a = true ∧
      ∀ b ∈ s.left, gone c b = false := by
  induction n generalizing skip l examined passed with
  | zero => cases h
  | succ n ih =>
      rw [sweepFrom] at h
      cases hfind : (l.drop skip).find? dead with
      | none =>
          simp only [hfind] at h
          cases h
          exact ⟨fun a ha => ha, fun a ha hleft => absurd ha hleft⟩
      | some c =>
          obtain ⟨hc, hdead⟩ := mem_of_find_drop hfind
          simp only [hfind] at h
          -- what is left is left behind the removal of the first element that was found
          have hrest : (∀ a ∈ s.left, a ∈ without gone c l) ∧ ∀ a ∈ without gone c l, a ∉ s.left →
              ∃ c' ∈ without gone c l, dead c' = true ∧ gone c' a = true ∧
                ∀ b ∈ s.left, gone c' b = false := by
            split at h
            · rename_i hnil
              cases h
              rw [hnil]
              exact ⟨fun a ha => ha, fun a ha => absurd ha List.not_mem_nil⟩
            · exact ih h
          refine ⟨fun a ha => (mem_without.mp (hrest.1 a ha)).1, fun a ha hleft => ?_⟩
          cases hgone : gone c a with
          | true =>
              exact ⟨c, hc, hdead, hgone, fun b hb => (mem_without.mp (hrest.1 b hb)).2⟩
          | false =>
              obtain ⟨c', hc', hrest'⟩ := hrest.2 a (mem_without.mpr ⟨ha, hgone⟩) hleft
              exact ⟨c', (mem_without.mp hc').1, hrest'⟩

/-! ## Clean sweeps -/

/-- A first element that stays and was examined does no harm. -/
theorem clean_of_first {n skip : Nat} {a : α} {t examined passed : List α} {s : Swept α}
    (hskip : skip = 0 ∨ skip = 1 ∧ a ∈ examined) (hfirst : dead a = false)
    (hkeeps : KeepsOthers dead gone (a :: t))
    (h : sweepFrom dead gone n skip (a :: t) examined passed = some s) :
    s.left = (a :: t).filter (fun b => !dead b) ∧ s.passed = passed ∧
      ∀ b ∈ s.left, b ∈ s.examined := by
  induction n generalizing skip t examined passed with
  | zero => cases h
  | succ n ih =>
      have hunexamined : unexamined skip (a :: t) examined = [] := by
        rcases hskip with rfl | ⟨rfl, hmem⟩
        · rfl
        · simp [unexamined, hmem]
      rw [sweepFrom, hunexamined, List.append_nil] at h
      cases hfind : ((a :: t).drop skip).find? dead with
      | none =>
          simp only [hfind] at h
          cases h
          have hnone := List.find?_eq_none.mp hfind
          have hall : ∀ b ∈ a :: t, dead b = false := by
            intro b hb
            rcases List.mem_cons.mp hb with rfl | hb
            · exact hfirst
            · have hdrop : b ∈ (a :: t).drop skip := by
                rcases hskip with rfl | ⟨rfl, -⟩
                · exact List.mem_cons_of_mem a hb
                · exact hb
              simpa using hnone b hdrop
          refine ⟨?_, rfl, fun b hb => ?_⟩
          · exact (List.filter_eq_self.mpr fun b hb => by simp [hall b hb]).symm
          · rw [List.mem_append]
            rcases hskip with rfl | ⟨rfl, hmem⟩
            · exact Or.inr hb
            · exact (List.mem_cons.mp hb).imp (fun heq : b = a => heq ▸ hmem) id
      | some c =>
          obtain ⟨hc, hdead⟩ := mem_of_find_drop hfind
          simp only [hfind] at h
          have hstays : gone c a = false := by
            cases hgone : gone c a with
            | false => rfl
            | true =>
                have hdead' := hkeeps c hc hdead a List.mem_cons_self hgone
                rw [hfirst] at hdead'
                cases hdead'
          have hwithout : without gone c (a :: t) = a :: without gone c t := by
            rw [without, List.filter_cons_of_pos (by simp [hstays])]
            rfl
          have hexamined : a ∈ examined ++ ((a :: t).drop skip).takeWhile (fun b => !dead b) ++
              [c] := by
            rw [List.mem_append, List.mem_append]
            rcases hskip with rfl | ⟨-, hmem⟩
            · refine Or.inl (Or.inr ?_)
              rw [List.drop_zero, List.takeWhile_cons_of_pos (by simp [hfirst])]
              exact List.mem_cons_self
            · exact Or.inl (Or.inl hmem)
          have hkeeps' : KeepsOthers dead gone (a :: without gone c t) := by
            rw [← hwithout]
            intro c' hc' hdead' b hb
            exact hkeeps c' (mem_without.mp hc').1 hdead' b (mem_without.mp hb).1
          rw [hwithout, if_neg (List.cons_ne_nil _ _)] at h
          obtain ⟨hleft, hpassed, hall⟩ := ih (Or.inr ⟨rfl, hexamined⟩) hkeeps' h
          refine ⟨?_, hpassed, hall⟩
          -- what goes with the element that was found has to go itself
          rw [hleft, ← hwithout, without, List.filter_filter]
          apply List.filter_congr
          intro b hb
          cases hb' : dead b with
          | true => simp
          | false =>
              cases hgone : gone c b with
              | false => simp
              | true =>
                  have hdead' := hkeeps c hc hdead b hb hgone
                  rw [hb'] at hdead'
                  cases hdead'

theorem clean_iff (hself : ∀ c, gone c c = true) {n : Nat} {l : List α}
    (hothers : ∀ c ∈ l, ∀ a ∈ l, ∀ b ∈ l, gone c a = true → a ≠ c → gone a b = true → b = a)
    (hn : l.length < n) :
    (∃ s, sweepFrom dead gone n 0 l [] [] = some s ∧ Clean dead l s) ↔
      KeepsOthers dead gone l ∧ FirstStays dead gone l := by
  constructor
  · rintro ⟨s, hsweep, hclean⟩
    obtain ⟨-, hremoved⟩ := gone_of_not_left hsweep
    refine ⟨?_, ?_⟩
    · intro c hc hdead a ha hgone
      by_contra hstays
      have hleft : a ∈ s.left := by
        rw [hclean.left, List.mem_filter]
        exact ⟨ha, by simpa using hstays⟩
      have hnot : c ∉ s.left := by
        rw [hclean.left]
        simp [hdead]
      obtain ⟨c', hc', -, hwith, hkept⟩ := hremoved c hc hnot
      -- an element that goes with another takes none with it
      by_cases heq : c = c'
      · rw [heq, hkept a hleft] at hgone
        cases hgone
      · have hsame := hothers c' hc' c hc a ha hwith heq hgone
        exact hstays (hsame ▸ hdead)
    · cases l with
      | nil => trivial
      | cons a t =>
          cases hdead : dead a with
          | false => exact Or.inl hdead
          | true =>
              refine Or.inr ?_
              by_contra hrest
              obtain ⟨m, rfl⟩ : ∃ m, n = m + 1 := ⟨n - 1, by omega⟩
              have hfind : ((a :: t).drop 0).find? dead = some a := by
                rw [List.drop_zero, List.find?_cons_of_pos hdead]
              rw [sweepFrom] at hsweep
              simp only [hfind] at hsweep
              rw [if_neg hrest] at hsweep
              obtain ⟨b, t', heq⟩ := List.exists_cons_of_ne_nil hrest
              have hb : b ∉ [a] := by
                intro hb
                rw [List.mem_singleton] at hb
                have hmem := mem_without.mp (heq ▸ List.mem_cons_self : b ∈ without gone a (a :: t))
                rw [hb, hself a] at hmem
                exact Bool.noConfusion hmem.2
              have hempty : ((a :: t).drop 0).takeWhile (fun b => !dead b) = [] := by
                rw [List.drop_zero, List.takeWhile_cons_of_neg (by simp [hdead])]
              rw [hempty, heq] at hsweep
              -- the second walk passes over the first element that is left
              have hpassed : b ∈ s.passed := by
                apply mem_passed hsweep
                simpa [unexamined] using hb
              rw [hclean.passed] at hpassed
              cases hpassed
  · rintro ⟨hkeeps, hfirst⟩
    obtain ⟨s, hsweep⟩ : ∃ s, sweepFrom dead gone n 0 l [] [] = some s := sweepFrom_total hself hn
    refine ⟨s, hsweep, ?_⟩
    cases l with
    | nil =>
        obtain ⟨m, rfl⟩ : ∃ m, n = m + 1 := ⟨n - 1, by omega⟩
        cases hsweep
        exact ⟨rfl, rfl, fun a ha => absurd ha List.not_mem_nil⟩
    | cons a t =>
        rcases hfirst with hstays | hrest
        · obtain ⟨hleft, hpassed, hexamined⟩ :=
            clean_of_first (Or.inl rfl) hstays hkeeps hsweep
          exact ⟨hleft, hpassed, hexamined⟩
        · cases hdead : dead a with
          | false =>
              obtain ⟨hleft, hpassed, hexamined⟩ :=
                clean_of_first (Or.inl rfl) hdead hkeeps hsweep
              exact ⟨hleft, hpassed, hexamined⟩
          | true =>
              obtain ⟨m, rfl⟩ : ∃ m, n = m + 1 := ⟨n - 1, by omega⟩
              have hfind : ((a :: t).drop 0).find? dead = some a := by
                rw [List.drop_zero, List.find?_cons_of_pos hdead]
              rw [sweepFrom] at hsweep
              simp only [hfind] at hsweep
              rw [if_pos hrest] at hsweep
              cases hsweep
              refine ⟨?_, rfl, fun b hb => absurd hb List.not_mem_nil⟩
              -- everything goes with the first element, so it has to go
              symm
              rw [List.filter_eq_nil_iff]
              intro b hb
              have hgone : gone a b = true := without_eq_nil.mp hrest b hb
              simp [hkeeps a List.mem_cons_self hdead b hb hgone]

end RestartingSweep
