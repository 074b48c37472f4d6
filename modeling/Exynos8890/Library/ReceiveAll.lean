import Mathlib.Tactic

/-!
# Receiving until nothing is missing

A loop asks for what is missing of a buffer until nothing is.  Each receive fails, or
returns some items and at most as many as were asked for.  A receive that returns nothing
is no progress and no failure.

Main results:

- Definition `loop`: the loop after a number of receives.
- Theorems `length_received_le` and `length_eq_of_complete`: nothing is stored behind the
  buffer, and the buffer is full at the end.
- Theorem `ends_iff`: the loop ends exactly when it is not starved.
-/

universe u

namespace ReceiveAll

variable {α : Type u}

/-- Where the loop stands, and what it has stored. -/
inductive Status (α : Type u) where
  | receiving (received : List α)
  | failed (received : List α)
  | complete (received : List α)
deriving DecidableEq, Repr

namespace Status

@[simp]
def received : Status α → List α
  | receiving received | failed received | complete received => received

def Ended : Status α → Prop
  | receiving _ => False
  | failed _ | complete _ => True

instance : (status : Status α) → Decidable status.Ended
  | receiving _ => isFalse id
  | failed _ => isTrue trivial
  | complete _ => isTrue trivial

end Status

/-- The test of the loop. -/
def enter (len : Nat) (received : List α) : Status α :=
  if received.length < len then .receiving received else .complete received

/-- One turn of the loop. -/
def turn (len : Nat) (answer : Option (List α)) : Status α → Status α
  | .receiving received =>
      match answer with
      | none => .failed received
      | some items => enter len (received ++ items.take (len - received.length))
  | status => status

/-- The loop after `k` receives. -/
def loop (answers : Nat → Option (List α)) (len : Nat) : Nat → Status α
  | 0 => enter len []
  | k + 1 => turn len (answers k) (loop answers len k)

/-- What the first `k` receives return. -/
def offered (answers : Nat → Option (List α)) : Nat → List α
  | 0 => []
  | k + 1 => offered answers k ++ (answers k).getD []

/-- From some receive on nothing comes any more, no receive has failed, and something is
missing. -/
def Starved (answers : Nat → Option (List α)) (len : Nat) : Prop :=
  ∃ k, (∀ i < k, answers i ≠ none) ∧ (offered answers k).length < len ∧
    ∀ i, k ≤ i → answers i = some []

variable {answers : Nat → Option (List α)} {len : Nat}

/-! ## What is stored -/

theorem enter_received (received : List α) : (enter len received).received = received := by
  unfold enter
  split <;> rfl

theorem length_received_le (answers : Nat → Option (List α)) (len k : Nat) :
    (loop answers len k).received.length ≤ len := by
  induction k with
  | zero =>
      rw [loop, enter_received]
      exact Nat.zero_le len
  | succ k ih =>
      cases hloop : loop answers len k with
      | receiving received =>
          rw [hloop, Status.received] at ih
          cases hanswer : answers k with
          | none => simpa [loop, turn, hloop, hanswer] using ih
          | some items =>
              simp only [loop, turn, hloop, hanswer, enter_received, List.length_append,
                List.length_take]
              omega
      | failed received => simpa [loop, turn, hloop] using ih
      | complete received => simpa [loop, turn, hloop] using ih

theorem enter_eq_complete {received result : List α} (h : enter len received = .complete result) :
    len ≤ result.length := by
  unfold enter at h
  split at h
  · cases h
  · cases h
    omega

theorem length_eq_of_complete {k : Nat} {received : List α}
    (h : loop answers len k = .complete received) : received.length = len := by
  have hle := length_received_le answers len k
  rw [h] at hle
  refine Nat.le_antisymm hle ?_
  induction k with
  | zero => exact enter_eq_complete h
  | succ k ih =>
      cases hloop : loop answers len k with
      | receiving before =>
          cases hanswer : answers k with
          | none => simp [loop, turn, hloop, hanswer] at h
          | some items =>
              simp only [loop, turn, hloop, hanswer] at h
              exact enter_eq_complete h
      | failed before => simp [loop, turn, hloop] at h
      | complete before =>
          have hsame : before = received := by simpa [loop, turn, hloop] using h
          exact ih (hsame ▸ hloop)

theorem length_lt_of_receiving {k : Nat} {received : List α}
    (h : loop answers len k = .receiving received) : received.length < len := by
  have henter : ∀ before : List α, enter len before = .receiving received →
      received.length < len := by
    intro before heq
    unfold enter at heq
    split at heq
    · cases heq
      assumption
    · cases heq
  cases k with
  | zero => exact henter [] h
  | succ k =>
      cases hloop : loop answers len k with
      | receiving before =>
          cases hanswer : answers k with
          | none => simp [loop, turn, hloop, hanswer] at h
          | some items =>
              simp only [loop, turn, hloop, hanswer] at h
              exact henter _ h
      | failed before => simp [loop, turn, hloop] at h
      | complete before => simp [loop, turn, hloop] at h

/-! ## When the loop ends -/

/-- Before anything fails or the buffer is full, the loop has stored what was offered. -/
theorem loop_eq_receiving {k : Nat} (hanswers : ∀ i < k, answers i ≠ none)
    (hlen : (offered answers k).length < len) :
    loop answers len k = .receiving (offered answers k) := by
  induction k with
  | zero => exact if_pos hlen
  | succ k ih =>
      obtain ⟨items, hitems⟩ := Option.ne_none_iff_exists'.mp (hanswers k (Nat.lt_succ_self k))
      simp only [offered, hitems, Option.getD_some, List.length_append] at hlen ⊢
      have hloop := ih (fun i hi => hanswers i (Nat.lt_succ_of_lt hi)) (by omega)
      have htake : items.take (len - (offered answers k).length) = items :=
        List.take_of_length_le (by omega)
      simp [loop, turn, hloop, hitems, htake, enter, hlen]

theorem length_offered_mono (answers : Nat → Option (List α)) (k j : Nat) :
    (offered answers k).length ≤ (offered answers (k + j)).length := by
  induction j with
  | zero => exact le_rfl
  | succ j ih =>
      rw [← Nat.add_assoc, offered, List.length_append]
      omega

theorem offered_of_silence {k : Nat} (hsilent : ∀ i, k ≤ i → answers i = some []) (j : Nat) :
    offered answers (k + j) = offered answers k := by
  induction j with
  | zero => rfl
  | succ j ih =>
      rw [← Nat.add_assoc, offered, ih, hsilent (k + j) (Nat.le_add_right k j)]
      simp

theorem Starved.not_ended (h : Starved answers len) (k : Nat) :
    ¬ (loop answers len k).Ended := by
  obtain ⟨m, hanswers, hlen, hsilent⟩ := h
  have hall : ∀ i, answers i ≠ none := fun i => by
    by_cases hi : i < m
    · exact hanswers i hi
    · rw [hsilent i (by omega)]
      exact Option.some_ne_none _
  have hshort : ∀ j, (offered answers (m + j)).length < len := fun j => by
    rwa [offered_of_silence hsilent j]
  have hoffered : (offered answers k).length < len :=
    calc (offered answers k).length
        ≤ (offered answers (k + m)).length := length_offered_mono answers k m
      _ = (offered answers (m + k)).length := by rw [Nat.add_comm]
      _ < len := hshort k
  rw [loop_eq_receiving (fun i _ => hall i) hoffered]
  exact id

theorem loop_eq_offered {k : Nat} {received : List α}
    (h : loop answers len k = .receiving received) :
    received = offered answers k ∧ ∀ i < k, answers i ≠ none := by
  induction k generalizing received with
  | zero =>
      have hreceived : (enter len ([] : List α)).received = [] := enter_received []
      have hloop : enter len ([] : List α) = .receiving received := h
      rw [hloop] at hreceived
      exact ⟨hreceived, fun i hi => absurd hi (Nat.not_lt_zero i)⟩
  | succ k ih =>
      cases hloop : loop answers len k with
      | receiving before =>
          obtain ⟨hbefore, hanswers⟩ := ih hloop
          cases hanswer : answers k with
          | none => simp [loop, turn, hloop, hanswer] at h
          | some items =>
              have hlt := length_lt_of_receiving h
              simp only [loop, turn, hloop, hanswer] at h
              have hreceived : (enter len (before ++ items.take (len - before.length))).received =
                  before ++ items.take (len - before.length) := enter_received _
              rw [h] at hreceived
              have hsome : received = before ++ items.take (len - before.length) := hreceived
              have hwhole : items.take (len - before.length) = items := by
                refine List.take_of_length_le ?_
                by_contra hlong
                rw [hsome, List.length_append, List.length_take] at hlt
                omega
              refine ⟨?_, fun i hi => ?_⟩
              · rw [hsome, hwhole, hbefore, offered, hanswer, Option.getD_some]
              · rcases Nat.lt_succ_iff_lt_or_eq.mp hi with hi | rfl
                · exact hanswers i hi
                · rw [hanswer]
                  exact Option.some_ne_none _
      | failed before => simp [loop, turn, hloop] at h
      | complete before => simp [loop, turn, hloop] at h

/-- A loop that receives forever is starved: it is missing less and less. -/
theorem starved_of_not_ended (h : ∀ k, ¬ (loop answers len k).Ended) : Starved answers len := by
  have hreceiving : ∀ k, loop answers len k = .receiving (offered answers k) := by
    intro k
    cases hloop : loop answers len k with
    | receiving received => rw [(loop_eq_offered hloop).1]
    | failed received => exact absurd (by rw [hloop]; trivial) (h k)
    | complete received => exact absurd (by rw [hloop]; trivial) (h k)
  have hanswers : ∀ i, answers i ≠ none := fun i =>
    (loop_eq_offered (hreceiving (i + 1))).2 i (Nat.lt_succ_self i)
  have hlen : ∀ k, (offered answers k).length < len := fun k =>
    length_lt_of_receiving (hreceiving k)
  by_contra hfed
  -- something comes again and again, so the buffer fills up
  have hmore : ∀ m, ∃ k, m ≤ (offered answers k).length := by
    intro m
    induction m with
    | zero => exact ⟨0, Nat.zero_le _⟩
    | succ m ih =>
        obtain ⟨k, hk⟩ := ih
        have hnext : ∃ j, answers (k + j) ≠ some [] := by
          by_contra hsilent
          refine hfed ⟨k, fun i _ => hanswers i, hlen k, fun i hi => ?_⟩
          by_contra hi'
          exact hsilent ⟨i - k, by rwa [Nat.add_sub_cancel' hi]⟩
        obtain ⟨j, hj⟩ := hnext
        obtain ⟨items, hitems⟩ := Option.ne_none_iff_exists'.mp (hanswers (k + j))
        have hitem : 0 < items.length := by
          refine List.length_pos_iff.mpr fun hnil => hj ?_
          rw [hitems, hnil]
        have hmono := length_offered_mono answers k j
        refine ⟨k + j + 1, ?_⟩
        rw [offered, hitems, Option.getD_some, List.length_append]
        omega
  obtain ⟨k, hk⟩ := hmore len
  exact absurd (hlen k) (Nat.not_lt.mpr hk)

theorem ends_iff : (∃ k, (loop answers len k).Ended) ↔ ¬ Starved answers len := by
  constructor
  · rintro ⟨k, hk⟩ hstarved
    exact hstarved.not_ended k hk
  · intro hfed
    by_contra hnever
    exact hfed (starved_of_not_ended fun k hk => hnever ⟨k, hk⟩)

end ReceiveAll
