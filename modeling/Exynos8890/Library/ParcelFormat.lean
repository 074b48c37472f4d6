import Mathlib.Tactic

/-!
# Parcels of typed items

A parcel is a sequence of typed items with a read position.  A read gives the
next item if it was written by the matching write; a read of an item of another
kind, and a read behind the last item, has no specified result.

Main results:

- Definition `RoundTrips`: an object is read back from what it wrote, in front
  of any following items.
- Theorem `readTypedList_writeTypedList`: a typed list is read back when its
  elements are.
-/

universe u

namespace ParcelFormat

/-- An item; the contents of a `Bundle` are not looked at. -/
inductive Item (β : Type u)
  | int (n : Int)
  | string (text : Option (List Char))
  | byteArray (bytes : List UInt8)
  | bundle (bundle : Option β)
  deriving DecidableEq, Repr

variable {β α : Type u}

/-! ## Reads -/

/-- `readInt`. -/
def readInt : List (Item β) → Option (Int × List (Item β))
  | .int n :: rest => some (n, rest)
  | _ => none

/-- `readString`. -/
def readString : List (Item β) → Option (Option (List Char) × List (Item β))
  | .string text :: rest => some (text, rest)
  | _ => none

/-- `readBundle`. -/
def readBundle : List (Item β) → Option (Option β × List (Item β))
  | .bundle b :: rest => some (b, rest)
  | _ => none

/-- `readByteArray` into an array of the given length, which must be the length
of the array in the parcel. -/
def readByteArray (length : Nat) :
    List (Item β) → Option ({bytes : List UInt8 // bytes.length = length} × List (Item β))
  | .byteArray bytes :: rest =>
      if h : bytes.length = length then some (⟨bytes, h⟩, rest) else none
  | _ => none

@[simp]
theorem readInt_cons (n : Int) (rest : List (Item β)) :
    readInt (.int n :: rest) = some (n, rest) :=
  rfl

@[simp]
theorem readString_cons (text : Option (List Char)) (rest : List (Item β)) :
    readString (.string text :: rest) = some (text, rest) :=
  rfl

@[simp]
theorem readBundle_cons (b : Option β) (rest : List (Item β)) :
    readBundle (.bundle b :: rest) = some (b, rest) :=
  rfl

@[simp]
theorem readByteArray_cons {length : Nat}
    (bytes : {bytes : List UInt8 // bytes.length = length}) (rest : List (Item β)) :
    readByteArray length (.byteArray bytes.1 :: rest) = some (bytes, rest) := by
  simp [readByteArray, bytes.2]

/-! ## Sizes -/

/-- A size rounded up to whole words. -/
def padded (n : Nat) : Nat :=
  (n + 3) / 4 * 4

/-- The length of a text in UTF-16. -/
def utf16Length (text : List Char) : Nat :=
  (text.map fun c => if c.toNat < 0x10000 then 1 else 2).sum

/-- The bytes that an item takes: the length of an array or a text, then the
array or the text with its end. -/
def Item.dataSize (bundleSize : β → Nat) : Item β → Nat
  | .int _ => 4
  | .string none => 4
  | .string (some text) => 4 + padded (2 * (utf16Length text + 1))
  | .byteArray bytes => 4 + padded bytes.length
  | .bundle none => 4
  | .bundle (some b) => 4 + bundleSize b

/-- `dataAvail`. -/
def dataAvail (bundleSize : β → Nat) (items : List (Item β)) : Nat :=
  (items.map (Item.dataSize bundleSize)).sum

theorem le_dataAvail (bundleSize : β → Nat) (bytes : List UInt8) (rest : List (Item β)) :
    bytes.length ≤ dataAvail bundleSize (.byteArray bytes :: rest) := by
  simp only [dataAvail, List.map_cons, List.sum_cons, Item.dataSize, padded]
  omega

/-! ## Parcelables -/

/-- A class that is written to parcels and created from them.  Either may throw
an exception. -/
structure Parcelable (β α : Type u) where
  writeToParcel : α → Option (List (Item β))
  createFromParcel : List (Item β) → Option (α × List (Item β))

/-- An object is read back from what it wrote, and the items behind it are
left. -/
def Parcelable.RoundTrips (p : Parcelable β α) (x : α) : Prop :=
  ∃ items, p.writeToParcel x = some items ∧
    ∀ rest, p.createFromParcel (items ++ rest) = some (x, rest)

/-! ## Typed lists -/

section TypedList

variable (p : Parcelable β α)

/-- The elements of `writeTypedList`; an element may be null. -/
def writeElements : List (Option α) → Option (List (Item β))
  | [] => some []
  | none :: l => do
      let items ← writeElements l
      some (.int 0 :: items)
  | some x :: l => do
      let first ← p.writeToParcel x
      let items ← writeElements l
      some (.int 1 :: (first ++ items))

/-- `writeTypedList`; the list may be null. -/
def writeTypedList : Option (List (Option α)) → Option (List (Item β))
  | none => some [.int (-1)]
  | some l => do
      let items ← writeElements p l
      some (.int l.length :: items)

/-- The elements of `readTypedList`. -/
def readElements : Nat → List (Item β) → Option (List (Option α) × List (Item β))
  | 0, items => some ([], items)
  | n + 1, items => do
      let (present, items) ← readInt items
      if present = 0 then
        let (l, items) ← readElements n items
        some (none :: l, items)
      else
        let (x, items) ← p.createFromParcel items
        let (l, items) ← readElements n items
        some (some x :: l, items)

/-- `readTypedList` into an empty list. -/
def readTypedList (items : List (Item β)) : Option (List (Option α) × List (Item β)) := do
  let (n, items) ← readInt items
  readElements p n.toNat items

/-- Elements that are read back one by one are read back as a list. -/
theorem readElements_writeElements {l : List (Option α)}
    (h : ∀ x, some x ∈ l → p.RoundTrips x) :
    ∃ items, writeElements p l = some items ∧
      ∀ rest, readElements p l.length (items ++ rest) = some (l, rest) := by
  induction l with
  | nil => exact ⟨[], rfl, fun _ => rfl⟩
  | cons x l ih =>
      cases x with
      | none =>
          obtain ⟨items, hwrite, hread⟩ := ih fun y hy => h y (List.mem_cons_of_mem _ hy)
          refine ⟨.int 0 :: items, by simp [writeElements, hwrite], fun rest => ?_⟩
          simp [readElements, hread]
      | some x =>
          obtain ⟨first, hfirst, hx⟩ := h x List.mem_cons_self
          obtain ⟨items, hwrite, hread⟩ := ih fun y hy => h y (List.mem_cons_of_mem _ hy)
          refine ⟨.int 1 :: (first ++ items), by simp [writeElements, hfirst, hwrite],
            fun rest => ?_⟩
          simp [readElements, List.append_assoc, hx, hread]

/-- A list that is not null is read back when its elements are. -/
theorem readTypedList_writeTypedList {l : List (Option α)}
    (h : ∀ x, some x ∈ l → p.RoundTrips x) :
    ∃ items, writeTypedList p (some l) = some items ∧
      ∀ rest, readTypedList p (items ++ rest) = some (l, rest) := by
  obtain ⟨items, hwrite, hread⟩ := readElements_writeElements p h
  refine ⟨.int l.length :: items, by simp [writeTypedList, hwrite], fun rest => ?_⟩
  simp [readTypedList, hread]

end TypedList

end ParcelFormat
