import Exynos8890.Library.MachineInt
import Exynos8890.Library.TextSearch

/-!
# The Link header of a reply

The HTTP library passes each header line as it came, without a terminator.  In a Link line four
searches follow each other, and each goes on until it finds its text or a zero byte.

Main results:

- Definition `updateLinkAndRel`: the searches are not told where the line ends.
- Theorem `parses_iff`: the link and the relation are those of the line exactly when each search
  in turn is stopped inside it.
- Theorem `not_parses`: a line without a relation is read to its end and beyond.
-/

namespace Exynos8890.RootPa

namespace SeClient

open MachineInt TextSearch

/-! ## The callback -/

/-- `HeaderStruct`: what the Link line of a reply says. -/
structure HeaderStruct where
  linkP : Option (List UInt8)
  linkSize : Nat
  relP : Option (List UInt8)
  relSize : Nat
deriving DecidableEq, Repr

/-- `tolower` of the C locale. -/
def tolower (c : UInt8) : UInt8 :=
  if 0x41 ≤ c ∧ c ≤ 0x5A then c + 0x20 else c

/-- The bytes of a text. -/
def letters (text : List Char) : List UInt8 :=
  text.map fun c => UInt8.ofNat c.toNat

def strstr (ptr : List UInt8) (startP : Nat) (pattern : List UInt8) : Scan (Option Nat) :=
  find id 0 pattern ptr startP

def strcasestr (ptr : List UInt8) (startP : Nat) (pattern : List UInt8) : Scan (Option Nat) :=
  find tolower 0 pattern ptr startP

/-- `copyHeader`. -/
def copyHeader (ptr : List UInt8) (contents length : Nat) : Scan (List UInt8) :=
  copy ptr contents length

def linkText : List UInt8 := letters ['L', 'i', 'n', 'k']

def relText : List UInt8 := letters ['r', 'e', 'l', '=']

/-- The second half of `updateLinkAndRel`, from the end of the link on. -/
def updateRel (memP : HeaderStruct) (ptr : List UInt8) (endP : Nat) :
    Scan (Bool × HeaderStruct) := do
  let some startP ← strcasestr ptr endP relText | pure (true, memP)
  -- the quotation mark is skipped, too, whatever it is
  let some endP ← strstr ptr (startP + 5) [0x22] | pure (true, memP)
  let rel ← copyHeader ptr (startP + 5) (endP - (startP + 5))
  pure (true, { memP with relP := some rel, relSize := endP - (startP + 5) })

/-- `updateLinkAndRel`: the text is what the memory holds from the line on. -/
def updateLinkAndRel (memP : HeaderStruct) (ptr : List UInt8) : Scan (Bool × HeaderStruct) := do
  let some startP ← strcasestr ptr 0 linkText | pure (false, memP)
  let some startP ← strstr ptr startP (letters ['<']) | pure (false, memP)
  let some endP ← strstr ptr (startP + 1) (letters ['>']) | pure (false, memP)
  let link ← copyHeader ptr (startP + 1) (endP - (startP + 1))
  updateRel { memP with linkP := some link, linkSize := endP - (startP + 1) } ptr endP

/-- `writeHeaderCallback`. -/
def writeHeaderCallback (abi : Abi) (ptr : List UInt8) (size nmemb : Nat) (memP : HeaderStruct) :
    Scan (Nat × HeaderStruct) := do
  let realSize := abi.size (size * nmemb)
  if realSize ≥ 6 then
    let head ← copy ptr 0 5
    if head = letters ['L', 'i', 'n', 'k', ':'] then
      let (_, memP) ← updateLinkAndRel memP ptr
      pure (realSize, memP)
    else pure (realSize, memP)
  else pure (realSize, memP)

/-- A header line that the library passes on. -/
structure HeaderLine (abi : Abi) where
  bytes : List UInt8
  size : Nat
  nmemb : Nat
  total : size * nmemb = bytes.length
  fits : bytes.length < 2 ^ abi.sizeBits

/-- The line of a link and its relation, and what ends the line. -/
def linkLine (uri rel tail : List UInt8) : List UInt8 :=
  letters ['L', 'i', 'n', 'k', ':', ' ', '<'] ++ uri ++
    letters ['>', ';', 'r', 'e', 'l', '='] ++ 0x22 :: rel ++ 0x22 :: tail

/-- The text ends at the delimiter behind it. -/
def Delimited (delimiter : UInt8) (text : List UInt8) : Prop :=
  delimiter ∉ text ∧ 0 ∉ text

/-- Nothing but the line is read and counts, and a link with its relation is recognized. -/
def Parses {abi : Abi} (line : HeaderLine abi) (memP : HeaderStruct) : Prop :=
  (Within line.bytes fun ptr => writeHeaderCallback abi ptr line.size line.nmemb memP) ∧
    ∀ uri rel tail, line.bytes = linkLine uri rel tail → Delimited 0x3E uri → Delimited 0x22 rel →
      ∃ header, (writeHeaderCallback abi line.bytes line.size line.nmemb memP).value =
        some (line.bytes.length, header) ∧ header.linkP = some uri ∧ header.relP = some rel

/-! ## Where the searches stop -/

/-- The line of a link. -/
def IsLink (line : List UInt8) : Prop :=
  6 ≤ line.length ∧ line.take 5 = letters ['L', 'i', 'n', 'k', ':']

/-- Behind the link: the relation and the mark at its end are found, or a zero byte is. -/
def RelInside (line : List UInt8) : Prop :=
  TextSearch.Stops tolower 0 relText line ∧
    ∀ k, IsFirst tolower 0 relText line k → TextSearch.Stops id 0 [0x22] (line.drop (k + 5))

/-- Each search in turn finds its text or a zero byte in the line. -/
def Inside (line : List UInt8) : Prop :=
  TextSearch.Stops id 0 (letters ['<']) line ∧
    ∀ i, IsFirst id 0 (letters ['<']) line i →
      TextSearch.Stops id 0 (letters ['>']) (line.drop (i + 1)) ∧
      ∀ j, IsFirst id 0 (letters ['>']) (line.drop (i + 1)) j → RelInside (line.drop (i + 1 + j))

theorem searchable_char {c : UInt8} (hc : c ≠ 0) : Searchable id 0 [c] :=
  ⟨List.cons_ne_nil c [], fun hmem => hc (List.mem_singleton.mp hmem).symm⟩

theorem searchable_linkText : Searchable tolower 0 linkText :=
  ⟨by decide, by decide⟩

theorem searchable_relText : Searchable tolower 0 relText :=
  ⟨by decide, by decide⟩

variable {γ : Type} (result : Bool × HeaderStruct → γ)

/-- The searches for the relation, whatever is made of their result. -/
theorem within_updateRel (memP : HeaderStruct) (text : List UInt8) (endP : Nat) :
    (Within text fun ptr => updateRel memP ptr endP >>= fun r => pure (result r)) ↔
      RelInside (text.drop endP) := by
  unfold updateRel strcasestr
  simp only [Scan.bind_assoc]
  refine (within_find_bind searchable_relText ?_).trans ?_
  · exact within_pure _
  refine and_congr_right fun _ => forall_congr' fun k => imp_congr_right fun _ => ?_
  rw [List.drop_drop, ← Nat.add_assoc]
  unfold strstr
  simp only [Scan.bind_assoc]
  refine (within_find_bind (searchable_char (by decide)) ?_).trans ?_
  · exact within_pure _
  refine and_iff_left fun i hi => ?_
  have hle := hi.occurs.length_le (List.cons_ne_nil _ _)
  rw [List.length_singleton, List.length_drop] at hle
  simp only [Scan.bind_assoc]
  refine (within_copy_bind ?_).mpr ?_
  · omega
  · exact within_pure _

theorem within_updateLinkAndRel (memP : HeaderStruct) {line : List UInt8} (hlink : IsLink line) :
    (Within line fun ptr => updateLinkAndRel memP ptr >>= fun r => pure (result r)) ↔
      Inside line := by
  have hline : line = letters ['L', 'i', 'n', 'k', ':'] ++ line.drop 5 := by
    rw [← hlink.2, List.take_append_drop]
  have hstart : search tolower 0 linkText line = .foundAt 0 := by
    rw [hline]
    rfl
  have hstops : TextSearch.Stops tolower 0 linkText (line.drop 0) := by
    by_contra hnot
    rw [← search_eq_beyond_iff searchable_linkText, List.drop_zero, hstart] at hnot
    cases hnot
  have hvalue : (find tolower 0 linkText line 0).value = some (some 0) := by
    rw [find, List.drop_zero, hstart]
  unfold updateLinkAndRel strcasestr
  simp only [Scan.bind_assoc]
  refine (within_bind_iff (within_find searchable_linkText hstops) hvalue).trans ?_
  unfold strstr
  simp only [Scan.bind_assoc]
  refine (within_find_bind (searchable_char (by decide)) ?_).trans ?_
  · exact within_pure _
  rw [List.drop_zero]
  refine and_congr_right fun _ => forall_congr' fun i => imp_congr_right fun _ => ?_
  rw [Nat.zero_add]
  simp only [Scan.bind_assoc]
  refine (within_find_bind (searchable_char (by decide)) ?_).trans ?_
  · exact within_pure _
  refine and_congr_right fun _ => forall_congr' fun j => imp_congr_right fun hj => ?_
  have hle := hj.occurs.length_le (List.cons_ne_nil _ _)
  rw [List.length_drop] at hle
  simp only [Scan.bind_assoc]
  refine (within_copy_bind ?_).trans (within_updateRel result _ line _)
  simp only [List.length_cons] at hle
  omega

theorem within_writeHeaderCallback {abi : Abi} (line : HeaderLine abi) (memP : HeaderStruct) :
    (Within line.bytes fun ptr => writeHeaderCallback abi ptr line.size line.nmemb memP) ↔
      (IsLink line.bytes → Inside line.bytes) := by
  have hsize : abi.size (line.size * line.nmemb) = line.bytes.length := by
    rw [line.total]
    exact Nat.mod_eq_of_lt line.fits
  unfold writeHeaderCallback
  rw [hsize]
  by_cases hlong : 6 ≤ line.bytes.length
  · simp only [ge_iff_le, if_pos hlong]
    rw [within_copy_bind (by omega), List.drop_zero]
    by_cases hhead : line.bytes.take 5 = letters ['L', 'i', 'n', 'k', ':']
    · simp only [if_pos hhead]
      refine Iff.trans ?_ (forall_prop_of_true ⟨hlong, hhead⟩).symm
      exact within_updateLinkAndRel _ memP ⟨hlong, hhead⟩
    · simp only [if_neg hhead]
      exact ⟨fun _ h => absurd h.2 hhead, fun _ => within_pure _⟩
  · simp only [ge_iff_le, if_neg hlong]
    exact ⟨fun _ h => absurd h.1 hlong, fun _ => within_pure _⟩

/-! ## A link and its relation -/

theorem strstr_delimited {delimiter : UInt8} (hdelimiter : delimiter ≠ 0) {text : List UInt8}
    (htext : Delimited delimiter text) (front tail : List UInt8) {start : Nat}
    (hstart : front.length = start) :
    (strstr (front ++ (text ++ delimiter :: tail)) start [delimiter]).value =
      some (some (start + text.length)) := by
  rw [← hstart, strstr, find, List.drop_left, search_singleton hdelimiter htext.1 htext.2]

theorem copyHeader_append (front text tail : List UInt8) {start : Nat}
    (hstart : front.length = start) :
    (copyHeader (front ++ (text ++ tail)) start (start + text.length - start)).value =
      some text := by
  rw [← hstart, Nat.add_sub_cancel_left, copyHeader, copy,
    if_pos (by simp only [List.length_append]; omega), List.drop_left, List.take_left]

/-- The text of a relation. -/
def relPart (rel tail : List UInt8) : List UInt8 :=
  letters ['>', ';', 'r', 'e', 'l', '='] ++ 0x22 :: (rel ++ 0x22 :: tail)

theorem updateRel_relPart (memP : HeaderStruct) (front : List UInt8) {rel : List UInt8}
    (hrel : Delimited 0x22 rel) (tail : List UInt8) :
    (updateRel memP (front ++ relPart rel tail) front.length).value =
      some (true, { memP with relP := some rel, relSize := rel.length }) := by
  have hstart : (strcasestr (front ++ relPart rel tail) front.length relText).value =
      some (some (front.length + 2)) := by
    rw [strcasestr, find, List.drop_left]
    rfl
  have hsplit : front ++ relPart rel tail =
      (front ++ (letters ['>', ';', 'r', 'e', 'l', '='] ++ [0x22])) ++ (rel ++ 0x22 :: tail) := by
    rw [relPart, List.append_assoc, List.append_assoc, List.singleton_append]
  have hlength : (front ++ (letters ['>', ';', 'r', 'e', 'l', '='] ++ [0x22])).length =
      front.length + 2 + 5 :=
    List.length_append
  rw [updateRel, value_bind hstart]
  dsimp only
  rw [hsplit, value_bind (strstr_delimited (by decide) hrel _ tail hlength)]
  dsimp only
  rw [value_bind (copyHeader_append _ rel _ hlength), Nat.add_sub_cancel_left]
  rfl

theorem updateLinkAndRel_linkLine (memP : HeaderStruct) {uri rel : List UInt8}
    (huri : Delimited 0x3E uri) (hrel : Delimited 0x22 rel) (tail : List UInt8) :
    (updateLinkAndRel memP (linkLine uri rel tail)).value =
      some (true, ⟨some uri, uri.length, some rel, rel.length⟩) := by
  have hline : linkLine uri rel tail =
      letters ['L', 'i', 'n', 'k', ':', ' ', '<'] ++ (uri ++ relPart rel tail) := by
    simp only [linkLine, relPart, List.append_assoc, List.cons_append]
  have hstart : (strcasestr (linkLine uri rel tail) 0 linkText).value = some (some 0) := by
    rw [hline]
    rfl
  have hlt : (strstr (linkLine uri rel tail) 0 (letters ['<'])).value = some (some 6) := by
    rw [hline]
    rfl
  have hgt : (strstr (linkLine uri rel tail) 7 (letters ['>'])).value =
      some (some (7 + uri.length)) := by
    rw [hline]
    exact strstr_delimited (by decide) huri _ _ rfl
  have hcopy : (copyHeader (linkLine uri rel tail) 7 (7 + uri.length - 7)).value = some uri := by
    rw [hline]
    exact copyHeader_append _ uri _ rfl
  rw [updateLinkAndRel, value_bind hstart]
  dsimp only
  rw [value_bind hlt]
  dsimp only
  rw [value_bind hgt]
  dsimp only
  rw [value_bind hcopy, hline, ← List.append_assoc, Nat.add_sub_cancel_left]
  have hlength : (letters ['L', 'i', 'n', 'k', ':', ' ', '<'] ++ uri).length = 7 + uri.length :=
    List.length_append
  rw [← hlength]
  exact updateRel_relPart _ _ hrel tail

theorem writeHeaderCallback_linkLine {abi : Abi} (line : HeaderLine abi) (memP : HeaderStruct)
    {uri rel tail : List UInt8} (hline : line.bytes = linkLine uri rel tail)
    (huri : Delimited 0x3E uri) (hrel : Delimited 0x22 rel) :
    (writeHeaderCallback abi line.bytes line.size line.nmemb memP).value =
      some (line.bytes.length, ⟨some uri, uri.length, some rel, rel.length⟩) := by
  have hsize : abi.size (line.size * line.nmemb) = line.bytes.length := by
    rw [line.total]
    exact Nat.mod_eq_of_lt line.fits
  have hlong : 6 ≤ line.bytes.length := by
    rw [hline, linkLine]
    simp only [letters, List.length_append, List.length_map, List.length_cons]
    omega
  have hcopy : (copy line.bytes 0 5).value = some (letters ['L', 'i', 'n', 'k', ':']) := by
    rw [copy, if_pos (by omega), hline]
    rfl
  rw [writeHeaderCallback, hsize]
  dsimp only
  rw [if_pos hlong, value_bind hcopy, if_pos rfl, hline,
    value_bind (updateLinkAndRel_linkLine memP huri hrel tail)]
  rfl

/-- The callback, for every line: it parses exactly what stops its searches. -/
theorem parses_iff {abi : Abi} (line : HeaderLine abi) (memP : HeaderStruct) :
    Parses line memP ↔ (IsLink line.bytes → Inside line.bytes) := by
  rw [Parses, within_writeHeaderCallback]
  refine and_iff_left ?_
  intro uri rel tail hline huri hrel
  exact ⟨_, writeHeaderCallback_linkLine line memP hline huri hrel, rfl, rfl⟩

/-! ## A link without a relation -/

/-- `Link: <a>`. -/
def bareLink : HeaderLine .arm64 where
  bytes := letters ['L', 'i', 'n', 'k', ':', ' ', '<', 'a', '>']
  size := 1
  nmemb := 9
  total := by decide
  fits := by decide

/-- The relation is looked for in what stands behind the line. -/
theorem not_parses :
    ¬ ∀ (abi : Abi) (line : HeaderLine abi) (memP : HeaderStruct), Parses line memP := by
  intro hclaim
  have hreach := ((hclaim .arm64 bareLink ⟨none, 0, none, 0⟩).1 []).1
  exact absurd hreach (by decide)

end SeClient

end Exynos8890.RootPa
