import Exynos8890.Library.CStruct

/-!
# Filling a buffer through a pointer

A buffer that is filled part by part through a pointer, with the regions that have been
written on the way.

Main results:

- Definitions `ByteCursor.write`, `ByteCursor.advance` and `ByteCursor.setAt`.
- Theorem `ByteCursor.filled_append`: the bytes behind a base are the parts in their order.
- Theorem `ByteCursor.filled_setAt`: what is set in front of the base leaves them.
- Definition `ByteCursor.Inside`: nothing was written outside the buffer.
-/

open CStruct

/-- A buffer, the place at which the next part is written, and what was written so far. -/
structure ByteCursor where
  memory : Memory
  pos : Nat
  writes : List Region

namespace ByteCursor

/-- A buffer in which nothing was written yet. -/
def start (memory : Memory) : ByteCursor where
  memory := memory
  pos := 0
  writes := []

/-- Write at the pointer. -/
def write (bytes : List UInt8) (c : ByteCursor) : ByteCursor :=
  { c with
    memory := store c.pos bytes c.memory
    writes := c.writes ++ [⟨c.pos, bytes.length⟩] }

/-- Move the pointer on. -/
def advance (n : Nat) (c : ByteCursor) : ByteCursor :=
  { c with pos := c.pos + n }

/-- Write at another place of the buffer. -/
def setAt (off : Nat) (bytes : List UInt8) (c : ByteCursor) : ByteCursor :=
  { c with
    memory := store off bytes c.memory
    writes := c.writes ++ [⟨off, bytes.length⟩] }

variable (c : ByteCursor) (bytes : List UInt8) (off n : Nat)

@[simp] theorem start_pos (memory : Memory) : (start memory).pos = 0 := rfl
@[simp] theorem start_writes (memory : Memory) : (start memory).writes = [] := rfl
@[simp] theorem write_pos : (c.write bytes).pos = c.pos := rfl
@[simp] theorem advance_pos : (c.advance n).pos = c.pos + n := rfl
@[simp] theorem setAt_pos : (c.setAt off bytes).pos = c.pos := rfl
@[simp] theorem write_writes : (c.write bytes).writes = c.writes ++ [⟨c.pos, bytes.length⟩] := rfl
@[simp] theorem advance_writes : (c.advance n).writes = c.writes := rfl
@[simp] theorem setAt_writes : (c.setAt off bytes).writes = c.writes ++ [⟨off, bytes.length⟩] := rfl
@[simp] theorem advance_memory : (c.advance n).memory = c.memory := rfl

/-- The bytes from a base up to the pointer. -/
def filled (base : Nat) : List UInt8 :=
  load ⟨base, c.pos - base⟩ c.memory

theorem filled_append {base : Nat} (hbase : base ≤ c.pos) :
    ((c.write bytes).advance bytes.length).filled base = c.filled base ++ bytes := by
  have hsplit : c.pos + bytes.length - base = (c.pos - base) + bytes.length := by omega
  have hpos : base + (c.pos - base) = c.pos := by omega
  have hbefore : load ⟨base, c.pos - base⟩ (store c.pos bytes c.memory) =
      load ⟨base, c.pos - base⟩ c.memory := by
    apply load_store_of_disjoint
    left
    show base + (c.pos - base) ≤ c.pos
    omega
  have hpart : load ⟨c.pos, bytes.length⟩ (store c.pos bytes c.memory) = bytes :=
    load_store_self (r := ⟨c.pos, bytes.length⟩) rfl c.memory
  simp only [filled, advance_pos, advance_memory, write]
  rw [hsplit, load_append, hpos, hbefore, hpart]

/-- What is set in front of the base leaves the parts as they are. -/
theorem filled_setAt {base : Nat} (hoff : off + bytes.length ≤ base) :
    (c.setAt off bytes).filled base = c.filled base := by
  apply load_store_of_disjoint
  right
  exact hoff

/-- A region in front of the pointer is left alone by a write at the pointer. -/
theorem load_write {r : Region} (h : r.off + r.size ≤ c.pos) :
    load r (c.write bytes).memory = load r c.memory :=
  load_store_of_disjoint (Or.inl h) c.memory

/-- What is set is found there, and leaves disjoint regions alone. -/
theorem load_setAt {r : Region} (hsize : bytes.length = r.size) :
    load r (c.setAt r.off bytes).memory = bytes :=
  load_store_self hsize c.memory

theorem load_setAt_of_disjoint {r : Region}
    (h : r.off + r.size ≤ off ∨ off + bytes.length ≤ r.off) :
    load r (c.setAt off bytes).memory = load r c.memory :=
  load_store_of_disjoint h c.memory

/-! ## Staying inside -/

/-- Nothing was written outside a buffer of this size. -/
def Inside (size : Nat) : Prop :=
  ∀ w ∈ c.writes, w.off + w.size ≤ size

@[simp]
theorem inside_start (size : Nat) (memory : Memory) : (start memory).Inside size :=
  fun _ h => absurd h List.not_mem_nil

@[simp]
theorem inside_write (size : Nat) :
    (c.write bytes).Inside size ↔ c.Inside size ∧ c.pos + bytes.length ≤ size := by
  simp [Inside, or_imp, forall_and]

@[simp]
theorem inside_advance (size : Nat) : (c.advance n).Inside size ↔ c.Inside size :=
  Iff.rfl

@[simp]
theorem inside_setAt (size : Nat) :
    (c.setAt off bytes).Inside size ↔ c.Inside size ∧ off + bytes.length ≤ size := by
  simp [Inside, or_imp, forall_and]

end ByteCursor
