import Exynos8890.Library.JavaUuid
import Exynos8890.Library.ParcelFormat

/-!
# Results in parcels

The classes that the service sends to its clients write themselves to a parcel
and read themselves from it in separate methods.

Main results:

- Definitions `spContainerStateParcel`, `trustletContainerStateParcel`,
  `trustletContainer`, `spContainerStructure`, `version` and `suid`.
- Theorem `roundTrips_iff`: which objects of each class are read back.
-/

namespace Exynos8890.RootPa

open ParcelFormat JavaUuid

/-! ## Enumerations -/

/-- The names of an enumeration and the constants that they name. -/
structure JavaEnum (ε : Type) where
  name : ε → List Char
  valueOf : List Char → Option ε
  valueOf_name : ∀ value, valueOf (name value) = some value
  name_ne_nil : ∀ value, name value ≠ []

/-- `SPContainerState`. -/
inductive SPContainerState where
  | doesNotExist
  | spLocked
  | rootLocked
  | undefined
  | registered
  | activated
  | rootSpLocked
deriving DecidableEq, Repr

/-- `SPContainerState.toString`. -/
def SPContainerState.name : SPContainerState → List Char
  | .doesNotExist => "DOES_NOT_EXIST".toList
  | .spLocked => "SP_LOCKED".toList
  | .rootLocked => "ROOT_LOCKED".toList
  | .undefined => "UNDEFINED".toList
  | .registered => "REGISTERED".toList
  | .activated => "ACTIVATED".toList
  | .rootSpLocked => "ROOT_SP_LOCKED".toList

def SPContainerState.values : List SPContainerState :=
  [.doesNotExist, .spLocked, .rootLocked, .undefined, .registered, .activated, .rootSpLocked]

/-- `valueOf` throws an exception for other texts. -/
def spContainerStates : JavaEnum SPContainerState where
  name := SPContainerState.name
  valueOf text := SPContainerState.values.find? fun value => value.name = text
  valueOf_name := by
    intro value
    cases value <;> decide
  name_ne_nil := by
    intro value
    cases value <;> decide

/-- `TrustletContainerState`. -/
inductive TrustletContainerState where
  | undefined
  | registered
  | activated
  | spLocked
deriving DecidableEq, Repr

/-- `TrustletContainerState.toString`. -/
def TrustletContainerState.name : TrustletContainerState → List Char
  | .undefined => "UNDEFINED".toList
  | .registered => "REGISTERED".toList
  | .activated => "ACTIVATED".toList
  | .spLocked => "SP_LOCKED".toList

def TrustletContainerState.values : List TrustletContainerState :=
  [.undefined, .registered, .activated, .spLocked]

def trustletContainerStates : JavaEnum TrustletContainerState where
  name := TrustletContainerState.name
  valueOf text := TrustletContainerState.values.find? fun value => value.name = text
  valueOf_name := by
    intro value
    cases value <;> decide
  name_ne_nil := by
    intro value
    cases value <;> decide

/-! ## Classes -/

/-- `AbstractEnumParcel`. -/
structure EnumParcel (ε : Type) where
  enumeratedValue : Option ε
deriving DecidableEq, Repr

variable {β : Type}

/-- The two subclasses of `AbstractEnumParcel`; a null value is not written. -/
def enumParcel {ε : Type} (states : JavaEnum ε) : Parcelable β (EnumParcel ε) where
  writeToParcel x :=
    match x.enumeratedValue with
    | none => some []
    | some value => some [.string (some (states.name value))]
  createFromParcel items := do
    let (text, items) ← readString items
    match text with
    | none => some (⟨none⟩, items)
    | some text => do
        let value ← states.valueOf text
        some (⟨some value⟩, items)

/-- `SPContainerStateParcel`. -/
def spContainerStateParcel : Parcelable β (EnumParcel SPContainerState) :=
  enumParcel spContainerStates

/-- `TrustletContainerStateParcel`. -/
def trustletContainerStateParcel : Parcelable β (EnumParcel TrustletContainerState) :=
  enumParcel trustletContainerStates

/-- `TrustletContainer`. -/
structure TrustletContainer where
  trustletId : Option Uuid
  state : Option (EnumParcel TrustletContainerState)
deriving DecidableEq, Repr

/-- `setTrustletId` with a text. -/
def trustletIdOf : Option (List Char) → Option (Option Uuid)
  | none => some none
  | some text => do
      let trustletId ← fromText text
      some (some trustletId)

/-- A container without a UUID throws an exception when it is written. -/
def trustletContainer : Parcelable β TrustletContainer where
  writeToParcel tc := do
    let trustletId ← tc.trustletId
    let state ← match tc.state with
      | none => some [.string none]
      | some state => trustletContainerStateParcel.writeToParcel state
    some (.string (some (toText trustletId)) :: state)
  createFromParcel items := do
    let (text, items) ← readString items
    let trustletId ← trustletIdOf text
    let (state, items) ← trustletContainerStateParcel.createFromParcel items
    some (⟨trustletId, some state⟩, items)

/-- `SPContainerStructure`. -/
structure SPContainerStructure where
  state : Option SPContainerState
  tcList : Option (List (Option TrustletContainer))
deriving DecidableEq, Repr

/-- The state that `readFromParcel` leaves in a new structure. -/
def spContainerStateOf : Option (List Char) → Option (Option SPContainerState)
  | none => some none
  | some text =>
      if text = [] then some none
      else do
        let state ← spContainerStates.valueOf text
        some (some state)

/-- A structure is created with an empty list, which is then filled. -/
def spContainerStructure : Parcelable β SPContainerStructure where
  writeToParcel x := do
    let list ← writeTypedList trustletContainer x.tcList
    some (.string (x.state.map spContainerStates.name) :: list)
  createFromParcel items := do
    let (text, items) ← readString items
    let state ← spContainerStateOf text
    let (list, items) ← readTypedList trustletContainer items
    some (⟨state, some list⟩, items)

/-- `Version`. -/
structure Version (β : Type) where
  productId : Option (List Char)
  version : Option β
deriving DecidableEq, Repr

/-- Fields that are null are not written. -/
def version : Parcelable β (Version β) where
  writeToParcel v :=
    some ((match v.productId with
        | none => []
        | some productId => [.string (some productId)]) ++
      match v.version with
      | none => []
      | some version => [.bundle (some version)])
  createFromParcel items := do
    let (productId, items) ← readString items
    let (version, items) ← readBundle items
    some (⟨productId, version⟩, items)

/-- `SUID_LENGTH`. -/
def suidLength : Nat := 16

/-- `SUID`; `setSuid` accepts arrays of this length only. -/
structure Suid where
  suid : Option {bytes : List UInt8 // bytes.length = suidLength}
deriving DecidableEq

/-- A null array is not written, and an array is read if there are bytes enough. -/
def suid (bundleSize : β → Nat) : Parcelable β Suid where
  writeToParcel x :=
    match x.suid with
    | none => some []
    | some bytes => some [.byteArray bytes.1]
  createFromParcel items :=
    if suidLength ≤ dataAvail bundleSize items then do
      let (bytes, items) ← readByteArray suidLength items
      some (⟨some bytes⟩, items)
    else some (⟨none⟩, items)

/-! ## What is read back -/

/-- The objects of an enumeration class that write something. -/
theorem roundTrips_enumParcel {ε : Type} (states : JavaEnum ε) {x : EnumParcel ε}
    (h : x.enumeratedValue.isSome) : (enumParcel (β := β) states).RoundTrips x := by
  obtain ⟨value⟩ := x
  cases value with
  | none => cases h
  | some value =>
      refine ⟨_, rfl, fun rest => ?_⟩
      simp [enumParcel, states.valueOf_name]

/-- An object without a value reads the next item of the parcel. -/
theorem roundTrips_enumParcel_iff {ε : Type} (states : JavaEnum ε) (other : ε)
    (x : EnumParcel ε) :
    (enumParcel (β := β) states).RoundTrips x ↔ x.enumeratedValue.isSome := by
  refine ⟨fun h => ?_, roundTrips_enumParcel states⟩
  obtain ⟨value⟩ := x
  cases value with
  | some value => rfl
  | none =>
      obtain ⟨items, hwrite, hread⟩ := h
      cases hwrite
      have hnext := hread [.string (some (states.name other))]
      simp [enumParcel, states.valueOf_name] at hnext

/-- A container with a UUID, and with a state that has a value. -/
structure TrustletContainer.Complete (tc : TrustletContainer) : Prop where
  trustletId : tc.trustletId.isSome
  state : ∃ value, tc.state = some ⟨some value⟩

theorem roundTrips_trustletContainer {tc : TrustletContainer} (h : tc.Complete) :
    (trustletContainer (β := β)).RoundTrips tc := by
  obtain ⟨trustletId, state⟩ := tc
  obtain ⟨value, rfl⟩ := h.state
  obtain ⟨trustletId, rfl⟩ := Option.isSome_iff_exists.mp h.trustletId
  refine ⟨_, rfl, fun rest => ?_⟩
  simp [trustletContainer, trustletContainerStateParcel, enumParcel, trustletIdOf,
    fromText_toText, trustletContainerStates.valueOf_name]

theorem createFromParcel_null_state (trustletId : Uuid) (rest : List (Item β)) :
    trustletContainer.createFromParcel
        (.string (some (toText trustletId)) :: .string none :: rest) =
      some (⟨some trustletId, some ⟨none⟩⟩, rest) := by
  simp [trustletContainer, trustletContainerStateParcel, enumParcel, trustletIdOf,
    fromText_toText]

/-- What a container is read back as when the value of its state is not written. -/
theorem createFromParcel_next (trustletId : Uuid) (items : List (Item β)) :
    trustletContainer.createFromParcel (.string (some (toText trustletId)) :: items) =
      (trustletContainerStateParcel.createFromParcel items).map fun state =>
        (⟨some trustletId, some state.1⟩, state.2) := by
  cases hstate : (trustletContainerStateParcel (β := β)).createFromParcel items <;>
    simp [trustletContainer, trustletIdOf, fromText_toText, hstate]

theorem writeToParcel_incomplete {tc : TrustletContainer} (h : ¬ tc.Complete)
    {items : List (Item β)} (hwrite : trustletContainer.writeToParcel tc = some items) :
    ∃ trustletId,
      (tc = ⟨some trustletId, none⟩ ∧
        items = [.string (some (toText trustletId)), .string none]) ∨
      (tc = ⟨some trustletId, some ⟨none⟩⟩ ∧
        items = [.string (some (toText trustletId))]) := by
  obtain ⟨_ | trustletId, state⟩ := tc
  · cases hwrite
  · refine ⟨trustletId, ?_⟩
    cases state with
    | none =>
        cases hwrite
        exact Or.inl ⟨rfl, rfl⟩
    | some state =>
        obtain ⟨_ | value⟩ := state
        · cases hwrite
          exact Or.inr ⟨rfl, rfl⟩
        · exact absurd ⟨rfl, value, rfl⟩ h

/-- Behind a state without a value follows no text that would be read as null. -/
theorem createFromParcel_value (items : List (Item β))
    (hnext : ∀ rest, items ≠ .string none :: rest) {x : EnumParcel TrustletContainerState}
    {rest : List (Item β)}
    (h : trustletContainerStateParcel.createFromParcel items = some (x, rest)) :
    x ≠ ⟨none⟩ := by
  rintro rfl
  obtain ⟨⟨text, items'⟩, hread, h⟩ := Option.bind_eq_some_iff.mp h
  cases text with
  | none =>
      unfold readString at hread
      split at hread
      · cases hread
        exact hnext _ rfl
      · cases hread
  | some text =>
      obtain ⟨value, -, h⟩ := Option.bind_eq_some_iff.mp h
      cases h

/-- A list of containers that is read back has complete elements.  An element
that is not complete gives another object, or reads an item of the next one. -/
theorem complete_of_readElements {l : List (Option TrustletContainer)}
    {items : List (Item β)} (hwrite : writeElements trustletContainer l = some items)
    (hread : ∀ rest, readElements trustletContainer l.length (items ++ rest) = some (l, rest)) :
    ∀ tc, some tc ∈ l → tc.Complete := by
  induction l generalizing items with
  | nil => exact fun tc htc => absurd htc List.not_mem_nil
  | cons x l ih =>
      cases x with
      | none =>
          obtain ⟨more, hmore, hitems⟩ := Option.bind_eq_some_iff.mp hwrite
          cases hitems
          intro tc htc
          refine ih hmore (fun rest => ?_) tc (by simpa using htc)
          have hrest := hread rest
          simp only [List.length_cons, List.cons_append, readElements, readInt_cons,
            Option.bind_eq_bind, Option.bind_some, if_true, Option.bind_eq_some_iff] at hrest
          obtain ⟨⟨l', rest'⟩, hl, heq⟩ := hrest
          cases heq
          exact hl
      | some tc =>
          obtain ⟨first, hfirst, hitems⟩ := Option.bind_eq_some_iff.mp hwrite
          obtain ⟨more, hmore, hitems⟩ := Option.bind_eq_some_iff.mp hitems
          cases hitems
          have hstep : ∀ rest, ∃ items', trustletContainer.createFromParcel
              (first ++ (more ++ rest)) = some (tc, items') ∧
              readElements trustletContainer l.length items' = some (l, rest) := by
            intro rest
            have hrest := hread rest
            simp only [List.length_cons, List.cons_append, readElements, readInt_cons,
              Option.bind_eq_bind, Option.bind_some, one_ne_zero, if_false,
              Option.bind_eq_some_iff, List.append_assoc] at hrest
            obtain ⟨⟨tc', items'⟩, htc, ⟨⟨l', rest'⟩, hl, heq⟩⟩ := hrest
            cases heq
            exact ⟨items', htc, hl⟩
          have hcomplete : tc.Complete := by
            by_contra hnot
            obtain ⟨trustletId, ⟨rfl, rfl⟩ | ⟨rfl, rfl⟩⟩ := writeToParcel_incomplete hnot hfirst
            · obtain ⟨items', htc, -⟩ := hstep []
              rw [List.cons_append, List.cons_append, List.nil_append,
                createFromParcel_null_state] at htc
              cases htc
            · -- behind the last element a client may have written a text
              obtain ⟨items', htc, -⟩ := hstep [.string (some (trustletContainerStates.name
                .undefined))]
              rw [List.cons_append, List.nil_append, createFromParcel_next] at htc
              obtain ⟨⟨x, rest'⟩, hx, heq⟩ := Option.map_eq_some_iff.mp htc
              refine createFromParcel_value _ ?_ hx ?_
              · intro rest hnext
                cases l with
                | nil =>
                    cases hmore
                    cases hnext
                | cons y l =>
                    cases y with
                    | none =>
                        obtain ⟨_, -, hmore⟩ := Option.bind_eq_some_iff.mp hmore
                        cases hmore
                        cases hnext
                    | some y =>
                        obtain ⟨_, -, hmore⟩ := Option.bind_eq_some_iff.mp hmore
                        obtain ⟨_, -, hmore⟩ := Option.bind_eq_some_iff.mp hmore
                        cases hmore
                        cases hnext
              · simpa using congrArg (fun z => z.1.state) heq
          intro tc' htc'
          rcases List.mem_cons.mp htc' with heq | htc'
          · cases heq
            exact hcomplete
          · refine ih hmore (fun rest => ?_) tc' htc'
            obtain ⟨items', htc, hl⟩ := hstep rest
            obtain ⟨first', hfirst', hback⟩ := roundTrips_trustletContainer (β := β) hcomplete
            cases hfirst.symm.trans hfirst'
            rw [hback] at htc
            cases htc
            exact hl

theorem roundTrips_trustletContainer_iff (tc : TrustletContainer) :
    (trustletContainer (β := β)).RoundTrips tc ↔ tc.Complete := by
  refine ⟨fun h => ?_, roundTrips_trustletContainer⟩
  obtain ⟨items, hwrite, hread⟩ := h
  -- the container alone is a list of one element
  have helements : writeElements trustletContainer [some tc] =
      some (.int 1 :: (items ++ [])) := by simp [writeElements, hwrite]
  refine complete_of_readElements helements (fun rest => ?_) tc List.mem_cons_self
  simp [readElements, hread]

/-- The state of a structure is read back, also when it is null. -/
theorem spContainerStateOf_name (state : Option SPContainerState) :
    spContainerStateOf (state.map spContainerStates.name) = some state := by
  cases state with
  | none => rfl
  | some state =>
      simp [spContainerStateOf, spContainerStates.name_ne_nil, spContainerStates.valueOf_name]

/-- A structure with a list whose elements are null or complete. -/
structure SPContainerStructure.Complete (x : SPContainerStructure) : Prop where
  tcList : x.tcList.isSome
  elements : ∀ l ∈ x.tcList, ∀ tc, some tc ∈ l → tc.Complete

theorem roundTrips_spContainerStructure_iff (x : SPContainerStructure) :
    (spContainerStructure (β := β)).RoundTrips x ↔ x.Complete := by
  obtain ⟨state, tcList⟩ := x
  constructor
  · rintro ⟨items, hwrite, hread⟩
    obtain ⟨list, hlist, hitems⟩ := Option.bind_eq_some_iff.mp hwrite
    cases hitems
    have hread' : ∀ rest, (readTypedList trustletContainer (list ++ rest)).map
        (fun read => ((⟨state, some read.1⟩ : SPContainerStructure), read.2)) =
          some (⟨state, tcList⟩, rest) := by
      intro rest
      rw [← hread rest]
      cases hrest : readTypedList (trustletContainer (β := β)) (list ++ rest) <;>
        simp [spContainerStructure, spContainerStateOf_name, hrest]
    cases tcList with
    | none =>
        -- a list that is null is read back as an empty one
        cases hlist
        cases hread' []
    | some l =>
        obtain ⟨more, hmore, hlist⟩ := Option.bind_eq_some_iff.mp hlist
        cases hlist
        refine ⟨rfl, fun l' hl' => ?_⟩
        cases hl'
        refine complete_of_readElements hmore fun rest => ?_
        obtain ⟨⟨l', rest'⟩, hl, heq⟩ := Option.map_eq_some_iff.mp (hread' rest)
        cases heq
        simpa [readTypedList] using hl
  · intro h
    obtain ⟨l, rfl⟩ := Option.isSome_iff_exists.mp h.tcList
    obtain ⟨list, hwrite, hread⟩ := readTypedList_writeTypedList (trustletContainer (β := β))
      fun tc htc => roundTrips_trustletContainer (h.elements l rfl tc htc)
    refine ⟨.string (state.map spContainerStates.name) :: list, ?_, fun rest => ?_⟩
    · simp [spContainerStructure, hwrite]
    · simp [spContainerStructure, spContainerStateOf_name, hread]

/-- A version with both fields. -/
def Version.Complete (v : Version β) : Prop :=
  v.productId.isSome ∧ v.version.isSome

theorem roundTrips_version_iff (v : Version β) : version.RoundTrips v ↔ v.Complete := by
  obtain ⟨productId, bundle⟩ := v
  constructor
  · rintro ⟨items, hwrite, hread⟩
    cases hwrite
    cases productId with
    | none =>
        cases bundle with
        | none =>
            -- two items that follow are read instead
            cases hread [.string (some []), .bundle none]
        | some bundle => cases hread []
    | some productId =>
        cases bundle with
        | none => cases hread [.bundle none]
        | some bundle => exact ⟨rfl, rfl⟩
  · rintro ⟨hproductId, hbundle⟩
    obtain ⟨productId, rfl⟩ := Option.isSome_iff_exists.mp hproductId
    obtain ⟨bundle, rfl⟩ := Option.isSome_iff_exists.mp hbundle
    exact ⟨_, rfl, fun rest => rfl⟩

theorem roundTrips_suid_iff (bundleSize : β → Nat) (x : Suid) :
    (suid bundleSize).RoundTrips x ↔ x.suid.isSome := by
  obtain ⟨bytes⟩ := x
  cases bytes with
  | none =>
      refine ⟨fun h => ?_, fun h => by cases h⟩
      obtain ⟨items, hwrite, hread⟩ := h
      cases hwrite
      cases hread [.byteArray (List.replicate 16 0)]
  | some bytes =>
      refine ⟨fun _ => rfl, fun _ => ⟨_, rfl, fun rest => ?_⟩⟩
      have hle := le_dataAvail bundleSize bytes.1 rest
      rw [bytes.2] at hle
      simp [suid, hle]

/-- Which objects are read back from what they wrote: those whose fields are set,
except for the state of a structure and the elements of its list, which may be
null. -/
theorem roundTrips_iff (bundleSize : β → Nat) :
    (∀ x, (spContainerStateParcel (β := β)).RoundTrips x ↔ x.enumeratedValue.isSome) ∧
    (∀ x, (trustletContainerStateParcel (β := β)).RoundTrips x ↔ x.enumeratedValue.isSome) ∧
    (∀ tc, (trustletContainer (β := β)).RoundTrips tc ↔ tc.Complete) ∧
    (∀ x, (spContainerStructure (β := β)).RoundTrips x ↔ x.Complete) ∧
    (∀ v, (version (β := β)).RoundTrips v ↔ v.Complete) ∧
    (∀ x, (suid bundleSize).RoundTrips x ↔ x.suid.isSome) :=
  ⟨roundTrips_enumParcel_iff _ .undefined, roundTrips_enumParcel_iff _ .undefined,
    roundTrips_trustletContainer_iff, roundTrips_spContainerStructure_iff,
    roundTrips_version_iff, roundTrips_suid_iff bundleSize⟩

/-- A container that was built from a UUID and no state. -/
theorem not_roundTrips :
    ¬ ∀ tc : TrustletContainer, (trustletContainer (β := Unit)).RoundTrips tc := by
  intro h
  obtain ⟨items, hwrite, hread⟩ := h ⟨some ⟨0, 0⟩, some ⟨none⟩⟩
  cases hwrite
  have hnext := hread [.string (some "ACTIVATED".toList)]
  rw [List.cons_append, List.nil_append, createFromParcel_next] at hnext
  cases hnext

end Exynos8890.RootPa
