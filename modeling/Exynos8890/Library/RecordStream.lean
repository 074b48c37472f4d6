import Mathlib.Tactic

/-!
# Records of one size in a byte stream

A writer puts records of one size into a byte stream, and a reader takes them out again.
The reader is in step with the writer while what it has seen and what is unread are all that
was written.

Main results:

- Definition `RecordFormat.Accounted`: what was seen and what is unread are what was written.
- Theorem `RecordFormat.Accounted.next`: one whole record is taken.
- Theorem `RecordFormat.Accounted.balance`: how many bytes are unread.
-/

universe u

/-- Records that are encoded in one number of bytes. -/
structure RecordFormat (α : Type u) where
  size : Nat
  encode : α → List UInt8
  decode : List UInt8 → α
  size_pos : 0 < size
  length_encode : ∀ a, (encode a).length = size
  decode_encode : ∀ a, decode (encode a) = a

namespace RecordFormat

variable {α : Type u} (F : RecordFormat α)

/-- Records one after another. -/
def stream (records : List α) : List UInt8 :=
  records.flatMap F.encode

@[simp]
theorem stream_nil : F.stream [] = [] :=
  rfl

@[simp]
theorem stream_cons (a : α) (records : List α) :
    F.stream (a :: records) = F.encode a ++ F.stream records :=
  rfl

@[simp]
theorem length_stream (records : List α) :
    (F.stream records).length = F.size * records.length := by
  induction records with
  | nil => rfl
  | cons a records ih =>
      rw [stream_cons, List.length_append, F.length_encode, ih, List.length_cons]
      ring

/-- What was seen and what is unread are what was written. -/
def Accounted (written seen : List α) (unread : List UInt8) : Prop :=
  ∃ rest, unread = F.stream rest ∧ written = seen ++ rest

variable {F} {written seen : List α} {unread : List UInt8}

theorem accounted_start : F.Accounted written [] (F.stream written) :=
  ⟨written, rfl, rfl⟩

theorem Accounted.next (h : F.Accounted written seen unread) (hlen : F.size ≤ unread.length) :
    F.Accounted written (seen ++ [F.decode (unread.take F.size)]) (unread.drop F.size) := by
  obtain ⟨rest, rfl, rfl⟩ := h
  cases rest with
  | nil =>
      rw [stream_nil, List.length_nil] at hlen
      exact absurd F.size_pos (Nat.not_lt.mpr hlen)
  | cons a rest =>
      refine ⟨rest, ?_, ?_⟩
      · rw [stream_cons, ← F.length_encode a, List.drop_left]
      · rw [stream_cons, ← F.length_encode a, List.take_left, F.decode_encode,
          List.append_assoc, List.singleton_append]

/-- The unread bytes are those of the records that were not seen. -/
theorem Accounted.balance (h : F.Accounted written seen unread) :
    unread.length + F.size * seen.length = F.size * written.length := by
  obtain ⟨rest, rfl, rfl⟩ := h
  rw [length_stream, List.length_append]
  ring

end RecordFormat
