import Mathlib.Data.List.Basic
import Mathlib.Tactic

/-!
# Logs of resources that are opened, used and closed

A log of what happens to resources that carry a name, such as descriptors.  A name may be given
out again behind the close of its resource.

Main results:

- Definition `openAfter`: the resources that are open behind a log, unless the log uses or closes
  a resource that is not open.
- Theorem `openAfter_append`: a log in two parts.
- Theorem `nodup_openAfter`: no resource is open twice.
-/

universe u

namespace ResourceLog

/-- What happens to a resource. -/
inductive Event (α : Type u) where
  | opened (a : α)
  | used (a : α)
  | closed (a : α)
deriving DecidableEq, Repr

variable {α : Type u} [DecidableEq α]

/-- The resources that are open behind a log, from those that are open before it.  There are none
when the log uses or closes a resource that is not open, or opens one that is. -/
def openAfter : List α → List (Event α) → Option (List α)
  | l, [] => some l
  | l, .opened a :: log => if a ∈ l then none else openAfter (a :: l) log
  | l, .used a :: log => if a ∈ l then openAfter l log else none
  | l, .closed a :: log => if a ∈ l then openAfter (l.erase a) log else none

/-- Each resource is used and closed only while it is open. -/
def Sound (log : List (Event α)) : Prop :=
  openAfter [] log ≠ none

/-- Each resource that was opened has been closed once, and was used only before. -/
def Balanced (log : List (Event α)) : Prop :=
  openAfter [] log = some []

theorem Balanced.sound {log : List (Event α)} (h : Balanced log) : Sound log := by
  rw [Sound, h]
  exact Option.some_ne_none []

/-- A log in two parts: the second begins with what the first leaves open. -/
theorem openAfter_append (l : List α) (log log' : List (Event α)) :
    openAfter l (log ++ log') = (openAfter l log).bind fun l' => openAfter l' log' := by
  induction log generalizing l with
  | nil => rfl
  | cons e log ih =>
      cases e with
      | opened a => by_cases ha : a ∈ l <;> simp [openAfter, ha, ih]
      | used a => by_cases ha : a ∈ l <;> simp [openAfter, ha, ih]
      | closed a => by_cases ha : a ∈ l <;> simp [openAfter, ha, ih]

theorem openAfter_append_of {l l' : List α} {log : List (Event α)} (h : openAfter l log = some l')
    (log' : List (Event α)) : openAfter l (log ++ log') = openAfter l' log' := by
  rw [openAfter_append, h, Option.bind_some]

theorem nodup_openAfter {l l' : List α} {log : List (Event α)} (hl : l.Nodup)
    (h : openAfter l log = some l') : l'.Nodup := by
  induction log generalizing l with
  | nil =>
      cases h
      exact hl
  | cons e log ih =>
      cases e with
      | opened a =>
          by_cases ha : a ∈ l
          · simp [openAfter, ha] at h
          · rw [openAfter, if_neg ha] at h
            exact ih (List.nodup_cons.mpr ⟨ha, hl⟩) h
      | used a =>
          by_cases ha : a ∈ l
          · rw [openAfter, if_pos ha] at h
            exact ih hl h
          · simp [openAfter, ha] at h
      | closed a =>
          by_cases ha : a ∈ l
          · rw [openAfter, if_pos ha] at h
            exact ih (hl.erase a) h
          · simp [openAfter, ha] at h

theorem openAfter_opened {l : List α} {log : List (Event α)} {a : α}
    (h : openAfter [] log = some l) (ha : a ∉ l) :
    openAfter [] (log ++ [.opened a]) = some (a :: l) := by
  rw [openAfter_append_of h, openAfter, if_neg ha]
  rfl

theorem openAfter_closed {l : List α} {log : List (Event α)} {a : α}
    (h : openAfter [] log = some l) (ha : a ∈ l) :
    openAfter [] (log ++ [.closed a]) = some (l.erase a) := by
  rw [openAfter_append_of h, openAfter, if_pos ha]
  rfl

end ResourceLog
