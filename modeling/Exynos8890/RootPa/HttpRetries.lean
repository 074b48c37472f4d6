import Exynos8890.Library.CString
import Exynos8890.RootPa.HttpHeader
import Exynos8890.RootPa.HttpUpload
import Exynos8890.RootPa.ProvisioningEngine

/-!
# Attempts of an exchange

An exchange with the service enabler is tried up to thirty times.  The receive buffer, the header
record and the cursor of the upload are set up once, and the callbacks of every attempt change
them.

Main results:

- Definition `httpCommunicate`: nothing is reset between two attempts.
- Theorem `isolated_iff`: for which failed attempts the successful one is handed over as it is,
  and each attempt of an upload starts from the first byte.
- Theorem `not_isolated`: a failed attempt that has got a part of a reply shows.
-/

namespace Exynos8890.RootPa

namespace SeClient

open CString CStruct MachineInt TextSearch

/-! ## The calls of an attempt -/

/-- The record before any header was seen. -/
def HeaderStruct.empty : HeaderStruct :=
  ⟨none, 0, none, 0⟩

/-- The fields of a record, and those of an older one that it has not set. -/
def HeaderStruct.over (h memP : HeaderStruct) : HeaderStruct where
  linkP := h.linkP.or memP.linkP
  linkSize := h.linkP.elim memP.linkSize fun _ => h.linkSize
  relP := h.relP.or memP.relP
  relSize := h.relP.elim memP.relSize fun _ => h.relSize

/-- A header line with what stands behind it in memory, such that the callback returns. -/
structure HeaderCall (abi : Abi) where
  line : HeaderLine abi
  after : List UInt8
  returns : (writeHeaderCallback abi (line.bytes ++ after) line.size line.nmemb .empty).value ≠ none

/-- What the library calls during an attempt. -/
inductive Call (abi : Abi) where
  | header (h : HeaderCall abi)
  | body (contents : List UInt8)
  | read (offer : Offer abi)

/-- `writeMemoryCallback`: a zero byte is kept behind the bytes. -/
def writeMemoryCallback (contents memoryP : List UInt8) : List UInt8 :=
  memoryP ++ contents

/-- What the callbacks work on: `chunk`, `headerChunk`, and `responseChunk` of an upload. -/
structure Transfer where
  chunk : List UInt8
  headerChunk : HeaderStruct
  responseChunk : Option ResponseStruct

namespace Transfer

variable {abi : Abi}

/-- The header record after a call that returns. -/
def header (t : Transfer) (h : HeaderCall abi) : HeaderStruct :=
  (writeHeaderCallback abi (h.line.bytes ++ h.after) h.line.size h.line.nmemb
    t.headerChunk).value.elim t.headerChunk Prod.snd

def call (t : Transfer) : Call abi → Transfer
  | .header h => { t with headerChunk := t.header h }
  | .body contents => { t with chunk := writeMemoryCallback contents t.chunk }
  | .read offer =>
      { t with responseChunk := t.responseChunk.map fun rspP =>
          (readResponseCallback abi offer.size offer.nmemb rspP).2 }

/-- The regions of the document that the calls copy. -/
def regions (t : Transfer) : List (Call abi) → List Region
  | [] => []
  | .read offer :: calls =>
      (t.responseChunk.map fun rspP =>
        (readResponseCallback abi offer.size offer.nmemb rspP).1).toList ++
        (t.call (.read offer)).regions calls
  | c :: calls => (t.call c).regions calls

end Transfer

/-! ## The loop -/

/-- One `curl_easy_perform`: its calls, its result, the response code, and the seconds since the
first one when it is over. -/
structure Attempt (abi : Abi) where
  calls : List (Call abi)
  curlRet : Int
  httpCode : Nat
  timediff : Int

/-- What the caller gets beside the result. -/
structure Handed where
  commandP : List UInt8
  linkP : Option (List UInt8)
  relP : Option (List UInt8)
deriving DecidableEq, Repr

variable {abi : Abi}

/-- The calls of an attempt. -/
def Transfer.perform (t : Transfer) (a : Attempt abi) : Transfer :=
  a.calls.foldl Transfer.call t

/-- The loop, with the attempts that are left.  There is a response code when one succeeded, and
no result when the attempts of the run are more than the ones listed. -/
def retryLoop : Nat → List (Attempt abi) → Transfer → Option (Option Nat × Transfer)
  | 0, _, t => some (none, t)
  | _ + 1, [], _ => none
  | left + 1, a :: attempts, t =>
      let t := t.perform a
      if a.curlRet = 0 then some (some a.httpCode, t)
      else if a.timediff > 58 / 2 then some (none, t)
      else retryLoop left attempts t

/-- The set-up; only an upload has a read callback. -/
def setUp (method : HttpMethod) (inputP : Memory) (size : Nat) : Transfer where
  chunk := []
  headerChunk := .empty
  responseChunk := if method = .put then some (setUpload inputP size) else none

/-- `httpCommunicate`, behind its set-up. -/
def httpCommunicate (method : HttpMethod) (inputP : Memory) (size : Nat)
    (attempts : List (Attempt abi)) : Option (RootPaError × Option Handed) :=
  (retryLoop 30 attempts (setUp method inputP size)).map fun (httpCode, t) =>
    match httpCode with
    | none => (.network, none)
    | some code =>
        (httpResult code, some ⟨cString 0 t.chunk, t.headerChunk.linkP, t.headerChunk.relP⟩)

/-- Failed attempts, and then one that succeeds. -/
structure Run (abi : Abi) where
  failed : List (Attempt abi)
  last : Attempt abi
  fails : ∀ a ∈ failed, a.curlRet ≠ 0 ∧ a.timediff ≤ 29
  count : failed.length < 30
  succeeds : last.curlRet = 0

/-! ## Isolation -/

/-- The document from its first byte on, with nothing only at its end. -/
def Sends (size : Nat) : Nat → List Region → Prop
  | _, [] => True
  | sent, r :: regions =>
      r.off = sent ∧ sent + r.size ≤ size ∧ (r.size = 0 → sent = size) ∧
        Sends size (sent + r.size) regions

/-- Every attempt starts over. -/
def SendsEach (size : Nat) : Transfer → List (Attempt abi) → Prop
  | _, [] => True
  | t, a :: attempts => Sends size 0 (t.regions a.calls) ∧ SendsEach size (t.perform a) attempts

/-- The caller gets what the last attempt alone would have given, and every attempt of an upload
sends the document. -/
def Isolated (run : Run abi) (method : HttpMethod) (inputP : Memory) (size : Nat) : Prop :=
  httpCommunicate method inputP size (run.failed ++ [run.last]) =
      httpCommunicate method inputP size [run.last] ∧
    SendsEach size (setUp method inputP size) (run.failed ++ [run.last])

/-! ## What an attempt delivers -/

/-- What a header line sets in an empty record. -/
def HeaderCall.record (h : HeaderCall abi) : HeaderStruct :=
  (writeHeaderCallback abi (h.line.bytes ++ h.after) h.line.size h.line.nmemb
    .empty).value.elim .empty Prod.snd

namespace Call

def body? : Call abi → List UInt8
  | .body contents => contents
  | .header _ | .read _ => []

/-- The field of the record that a header line sets. -/
def sets (field : HeaderStruct → Option (List UInt8)) : Call abi → Option (List UInt8)
  | .header h => field h.record
  | .body _ | .read _ => none

def offer? : Call abi → Option (Offer abi)
  | .read offer => some offer
  | .header _ | .body _ => none

end Call

namespace Attempt

/-- The part of the body that arrives. -/
def body (a : Attempt abi) : List UInt8 :=
  a.calls.flatMap Call.body?

/-- The links, or the relations, that arrive. -/
def fields (a : Attempt abi) (field : HeaderStruct → Option (List UInt8)) : List (List UInt8) :=
  a.calls.filterMap (Call.sets field)

/-- The buffers of an upload. -/
def offers (a : Attempt abi) : List (Offer abi) :=
  a.calls.filterMap Call.offer?

end Attempt

/-! ## Headers -/

namespace HeaderStruct

@[simp]
theorem empty_over (memP : HeaderStruct) : empty.over memP = memP := by
  rfl

theorem updateRel_over (h memP : HeaderStruct) (ptr : List UInt8) (endP : Nat) :
    (updateRel (h.over memP) ptr endP).value =
      (updateRel h ptr endP).value.map fun r => (r.1, r.2.over memP) := by
  unfold updateRel
  simp only [bind_value]
  rcases (strcasestr ptr endP relText).value with _ | _ | startP
  · rfl
  · rfl
  · simp only [Option.bind_some, bind_value]
    rcases (strstr ptr (startP + 5) [0x22]).value with _ | _ | last
    · rfl
    · rfl
    · simp only [Option.bind_some, bind_value]
      cases (copyHeader ptr (startP + 5) (last - (startP + 5))).value <;> rfl

theorem updateLinkAndRel_over (h memP : HeaderStruct) (ptr : List UInt8) :
    (updateLinkAndRel (h.over memP) ptr).value =
      (updateLinkAndRel h ptr).value.map fun r => (r.1, r.2.over memP) := by
  unfold updateLinkAndRel
  simp only [bind_value]
  rcases (strcasestr ptr 0 linkText).value with _ | _ | link
  · rfl
  · rfl
  · simp only [Option.bind_some, bind_value]
    rcases (strstr ptr link (letters ['<'])).value with _ | _ | startP
    · rfl
    · rfl
    · simp only [Option.bind_some, bind_value]
      rcases (strstr ptr (startP + 1) (letters ['>'])).value with _ | _ | endP
      · rfl
      · rfl
      · simp only [Option.bind_some, bind_value]
        cases (copyHeader ptr (startP + 1) (endP - (startP + 1))).value with
        | none => rfl
        | some text =>
            exact updateRel_over
              { h with linkP := some text, linkSize := endP - (startP + 1) } memP ptr endP

/-- The callback sets the same fields, whatever the record holds. -/
theorem writeHeaderCallback_over (abi : Abi) (h memP : HeaderStruct) (ptr : List UInt8)
    (size nmemb : Nat) :
    (writeHeaderCallback abi ptr size nmemb (h.over memP)).value =
      (writeHeaderCallback abi ptr size nmemb h).value.map fun r => (r.1, r.2.over memP) := by
  unfold writeHeaderCallback
  dsimp only
  split
  · simp only [bind_value]
    cases (copy ptr 0 5).value with
    | none => rfl
    | some head =>
        simp only [Option.bind_some]
        split
        · simp only [bind_value, updateLinkAndRel_over]
          cases (updateLinkAndRel h ptr).value <;> rfl
        · rfl
  · rfl

end HeaderStruct

theorem header_eq (t : Transfer) (h : HeaderCall abi) :
    t.header h = h.record.over t.headerChunk := by
  have hover := HeaderStruct.writeHeaderCallback_over abi .empty t.headerChunk
    (h.line.bytes ++ h.after) h.line.size h.line.nmemb
  rw [HeaderStruct.empty_over] at hover
  rw [Transfer.header, hover, HeaderCall.record]
  have hreturns := h.returns
  revert hreturns
  cases (writeHeaderCallback abi (h.line.bytes ++ h.after) h.line.size h.line.nmemb
    .empty).value with
  | none => exact fun hreturns => absurd rfl hreturns
  | some r => exact fun _ => by rw [Option.map_some, Option.elim_some, Option.elim_some]

/-! ## What the attempts leave -/

theorem chunk_perform (t : Transfer) (a : Attempt abi) :
    (t.perform a).chunk = t.chunk ++ a.body := by
  rw [Transfer.perform, Attempt.body]
  induction a.calls generalizing t with
  | nil => rw [List.foldl_nil, List.flatMap_nil, List.append_nil]
  | cons c calls ih =>
      rw [List.foldl_cons, ih, List.flatMap_cons, ← List.append_assoc]
      cases c with
      | header h => rw [Call.body?, List.append_nil]; rfl
      | body contents => rfl
      | read offer => rw [Call.body?, List.append_nil]; rfl

/-- The link and the relation: a field that the newer record sets wins. -/
def Overrides (field : HeaderStruct → Option (List UInt8)) : Prop :=
  ∀ h memP : HeaderStruct, field (h.over memP) = (field h).or (field memP)

section Field

variable {field : HeaderStruct → Option (List UInt8)}

theorem field_perform (hfield : Overrides field) (t : Transfer) (a : Attempt abi) :
    field (t.perform a).headerChunk = (a.fields field).getLast?.or (field t.headerChunk) := by
  rw [Transfer.perform, Attempt.fields]
  induction a.calls generalizing t with
  | nil => rfl
  | cons c calls ih =>
      rw [List.foldl_cons, ih, List.filterMap_cons]
      cases c with
      | header h =>
          rw [Call.sets, Transfer.call, header_eq, hfield]
          cases field h.record with
          | none => rw [Option.none_or]
          | some value =>
              rw [List.getLast?_cons]
              cases (calls.filterMap (Call.sets field)).getLast? <;> rfl
      | body contents => rfl
      | read offer => rfl

theorem field_attempts (hfield : Overrides field) (attempts : List (Attempt abi)) (t : Transfer) :
    field (attempts.foldl Transfer.perform t).headerChunk =
      (attempts.flatMap fun a => a.fields field).getLast?.or (field t.headerChunk) := by
  induction attempts generalizing t with
  | nil => rfl
  | cons a attempts ih =>
      rw [List.foldl_cons, ih, field_perform hfield, List.flatMap_cons, List.getLast?_append,
        Option.or_assoc]

end Field

theorem chunk_attempts (attempts : List (Attempt abi)) (t : Transfer) :
    (attempts.foldl Transfer.perform t).chunk = t.chunk ++ attempts.flatMap Attempt.body := by
  induction attempts generalizing t with
  | nil => rw [List.foldl_nil, List.flatMap_nil, List.append_nil]
  | cons a attempts ih =>
      rw [List.foldl_cons, ih, chunk_perform, List.flatMap_cons, List.append_assoc]

/-- The loop goes through the failed attempts and ends behind the successful one. -/
theorem retryLoop_attempts {failed : List (Attempt abi)} {last : Attempt abi}
    (hfails : ∀ a ∈ failed, a.curlRet ≠ 0 ∧ a.timediff ≤ 29) (hlast : last.curlRet = 0)
    {left : Nat} (hleft : failed.length < left) (t : Transfer) :
    retryLoop left (failed ++ [last]) t =
      some (some last.httpCode, (failed ++ [last]).foldl Transfer.perform t) := by
  induction failed generalizing left t with
  | nil =>
      obtain ⟨left, rfl⟩ := Nat.exists_eq_succ_of_ne_zero (Nat.ne_of_gt hleft)
      rw [List.nil_append, retryLoop]
      rw [if_pos hlast]
      rfl
  | cons a failed ih =>
      obtain ⟨left, rfl⟩ := Nat.exists_eq_succ_of_ne_zero (Nat.ne_of_gt (Nat.zero_lt_of_lt hleft))
      obtain ⟨hret, htime⟩ := hfails a List.mem_cons_self
      rw [List.cons_append, retryLoop]
      rw [if_neg hret, if_neg (by omega), List.foldl_cons]
      exact ih (fun b hb => hfails b (List.mem_cons_of_mem a hb)) (Nat.lt_of_succ_lt_succ hleft) _

theorem httpCommunicate_attempts {failed : List (Attempt abi)} {last : Attempt abi}
    (hfails : ∀ a ∈ failed, a.curlRet ≠ 0 ∧ a.timediff ≤ 29) (hlast : last.curlRet = 0)
    (hcount : failed.length < 30) (method : HttpMethod) (inputP : Memory) (size : Nat) :
    httpCommunicate method inputP size (failed ++ [last]) = some (httpResult last.httpCode, some
      ⟨cString 0 ((failed ++ [last]).flatMap Attempt.body),
        ((failed ++ [last]).flatMap fun a => a.fields HeaderStruct.linkP).getLast?,
        ((failed ++ [last]).flatMap fun a => a.fields HeaderStruct.relP).getLast?⟩) := by
  have hlinkP : Overrides HeaderStruct.linkP := fun _ _ => rfl
  have hrelP : Overrides HeaderStruct.relP := fun _ _ => rfl
  have hlink := field_attempts hlinkP (failed ++ [last]) (setUp method inputP size)
  have hrel := field_attempts hrelP (failed ++ [last]) (setUp method inputP size)
  rw [httpCommunicate, retryLoop_attempts hfails hlast hcount, Option.map_some]
  dsimp only
  rw [chunk_attempts, hlink, hrel]
  simp only [setUp, HeaderStruct.empty, List.nil_append, Option.or_none]

/-! ## What the attempts send -/

/-- The document fills the buffers: it takes a buffer less than what is left, or all that is
left is the whole document. -/
def Filled (size : Nat) : Nat → List (Offer abi) → Prop
  | _, [] => True
  | sent, offer :: offers =>
      sent < 2 ^ 32 ∧ (sent = size ∧ Filled size sent offers ∨
        sent < size ∧ sent + min offer.bytes size ≤ size ∧
          Filled size (sent + min offer.bytes size) offers)

/-- The bytes that are taken in the end. -/
def taken (size : Nat) : Nat → List (Offer abi) → Nat
  | sent, [] => sent
  | sent, offer :: offers =>
      if sent < size then taken size (sent + min offer.bytes size) offers else sent

/-- Each attempt that asks for the document finds the cursor at its beginning, and is filled. -/
def StartsOver (size : Nat) : Nat → List (List (Offer abi)) → Prop
  | _, [] => True
  | total, offers :: attempts =>
      (offers ≠ [] → total % 2 ^ 32 = 0 ∧ Filled size 0 offers) ∧
        StartsOver size (total + taken size 0 offers) attempts

/-- The regions that are copied to some buffers, and the cursor behind them. -/
def copies (rspP : ResponseStruct) : List (Offer abi) → List Region × ResponseStruct
  | [] => ([], rspP)
  | offer :: offers =>
      let (r, rspP) := readResponseCallback abi offer.size offer.nmemb rspP
      (r :: (copies rspP offers).1, (copies rspP offers).2)

/-- The other calls of an attempt leave the upload alone. -/
theorem regions_eq_copies {t : Transfer} {rspP : ResponseStruct} (a : Attempt abi)
    (ht : t.responseChunk = some rspP) :
    t.regions a.calls = (copies rspP a.offers).1 ∧
      (t.perform a).responseChunk = some (copies rspP a.offers).2 := by
  rw [Transfer.perform, Attempt.offers]
  induction a.calls generalizing t rspP with
  | nil => exact ⟨rfl, ht⟩
  | cons c calls ih =>
      cases c with
      | header h => exact ih ht
      | body contents => exact ih ht
      | read offer =>
          have hcall : (t.call (.read offer)).responseChunk =
              some (readResponseCallback abi offer.size offer.nmemb rspP).2 := by
            rw [Transfer.call, ht, Option.map_some]
          obtain ⟨hregions, hcursor⟩ := ih hcall
          refine ⟨?_, hcursor⟩
          rw [Transfer.regions, hregions, ht]
          rfl

theorem regions_of_none {t : Transfer} (a : Attempt abi) (ht : t.responseChunk = none) :
    t.regions a.calls = [] ∧ (t.perform a).responseChunk = none := by
  rw [Transfer.perform]
  induction a.calls generalizing t with
  | nil => exact ⟨rfl, ht⟩
  | cons c calls ih =>
      cases c with
      | header h => exact ih ht
      | body contents => exact ih ht
      | read offer =>
          have hcall : (t.call (.read offer)).responseChunk = none := by
            rw [Transfer.call, ht, Option.map_none]
          obtain ⟨hregions, hcursor⟩ := ih hcall
          refine ⟨?_, hcursor⟩
          rw [Transfer.regions, hregions, ht]
          rfl

/-- The cursor counts what has been taken, modulo its width. -/
structure CountsTo (rspP : ResponseStruct) (size sent : Nat) : Prop where
  size : rspP.size = size
  offset : rspP.offset.toNat = sent % 2 ^ 32

theorem CountsTo.next {rspP : ResponseStruct} {size sent : Nat} (h : CountsTo rspP size sent)
    (offer : Offer abi) (hlt : rspP.offset.toNat < size) :
    readResponseCallback abi offer.size offer.nmemb rspP =
        (⟨rspP.offset.toNat, min offer.bytes size⟩,
          (readResponseCallback abi offer.size offer.nmemb rspP).2) ∧
      CountsTo (readResponseCallback abi offer.size offer.nmemb rspP).2 size
        (sent + min offer.bytes size) := by
  obtain ⟨hsize, hoffset⟩ := h
  rw [read_of_lt offer (by rwa [hsize]), hsize]
  refine ⟨rfl, rfl, ?_⟩
  rw [UInt32.toNat_add, hoffset, Nat.toUInt32, UInt32.toNat_ofNat']
  exact (Nat.add_mod _ _ _).symm

theorem taken_of_le {size sent : Nat} (h : size ≤ sent) (offers : List (Offer abi)) :
    taken size sent offers = sent := by
  cases offers with
  | nil => rfl
  | cons offer offers => rw [taken, if_neg (Nat.not_lt.mpr h)]

theorem sends_copies {rspP : ResponseStruct} {size sent : Nat} (h : CountsTo rspP size sent)
    (offers : List (Offer abi)) :
    (Sends size sent (copies rspP offers).1 ↔ Filled size sent offers) ∧
      (Filled size sent offers →
        CountsTo (copies rspP offers).2 size (taken size sent offers)) := by
  induction offers generalizing rspP sent with
  | nil => exact ⟨Iff.rfl, fun _ => h⟩
  | cons offer offers ih =>
      have hoff : rspP.offset.toNat = sent ↔ sent < 2 ^ 32 := by
        rw [h.offset]
        exact Nat.mod_eq_iff_lt (by decide)
      by_cases hlt : rspP.offset.toNat < size
      · obtain ⟨hread, hnext⟩ := h.next offer hlt
        obtain ⟨hsends, hcursor⟩ := ih hnext
        have hbytes : 0 < offer.bytes := offer.nonempty
        rw [copies, hread, Sends, Filled, hoff]
        dsimp only
        rw [hsends]
        constructor
        · constructor
          · rintro ⟨hsent, hle, -, hfilled⟩
            have hcurrent := hoff.mpr hsent
            exact ⟨hsent, Or.inr ⟨by omega, hle, hfilled⟩⟩
          · rintro ⟨hsent, ⟨hend, -⟩ | ⟨-, hle, hfilled⟩⟩
            · have hcurrent := hoff.mpr hsent
              omega
            · exact ⟨hsent, hle, fun hzero => by omega, hfilled⟩
        · rintro ⟨hsent, ⟨hend, -⟩ | ⟨hmore, -, hfilled⟩⟩
          · have hcurrent := hoff.mpr hsent
            omega
          · rw [taken, if_pos hmore]
            exact hcursor hfilled
      · obtain ⟨hsends, hcursor⟩ := ih h
        rw [copies, read_of_done offer (by rw [h.size]; omega), Sends, Filled, hoff]
        dsimp only
        rw [Nat.add_zero, hsends]
        constructor
        · constructor
          · rintro ⟨hsent, -, hend, hfilled⟩
            exact ⟨hsent, Or.inl ⟨hend rfl, hfilled⟩⟩
          · rintro ⟨hsent, ⟨hend, hfilled⟩ | ⟨hmore, -, -⟩⟩
            · exact ⟨hsent, hend.le, fun _ => hend, hfilled⟩
            · have hcurrent := hoff.mpr hsent
              omega
        · rintro ⟨hsent, ⟨hend, hfilled⟩ | ⟨hmore, -, -⟩⟩
          · have hrest := hcursor hfilled
            rw [taken_of_le hend.ge] at hrest ⊢
            exact hrest
          · have hcurrent := hoff.mpr hsent
            omega

theorem sends_zero_iff {rspP : ResponseStruct} {size total : Nat} (h : CountsTo rspP size total)
    (offers : List (Offer abi)) :
    (Sends size 0 (copies rspP offers).1 ↔
        (offers ≠ [] → total % 2 ^ 32 = 0 ∧ Filled size 0 offers)) ∧
      (Sends size 0 (copies rspP offers).1 →
        CountsTo (copies rspP offers).2 size (total + taken size 0 offers)) := by
  cases offers with
  | nil => exact ⟨⟨fun _ hne => absurd rfl hne, fun _ => trivial⟩, fun _ => h⟩
  | cons offer offers =>
      rw [forall_prop_of_true (List.cons_ne_nil offer offers)]
      by_cases hzero : total % 2 ^ 32 = 0
      · have hstart : CountsTo rspP size 0 := ⟨h.size, by rw [h.offset, hzero, Nat.zero_mod]⟩
        obtain ⟨hsends, hcursor⟩ := sends_copies hstart (offer :: offers)
        refine ⟨hsends.trans (and_iff_right hzero).symm, fun hsent => ?_⟩
        obtain ⟨hsize, hoffset⟩ := hcursor (hsends.mp hsent)
        refine ⟨hsize, ?_⟩
        rw [hoffset, Nat.add_mod, hzero, Nat.zero_add, Nat.mod_mod]
      · have hnot : ¬ Sends size 0 (copies rspP (offer :: offers)).1 := by
          rw [h.offset.symm] at hzero
          by_cases hlt : rspP.offset.toNat < size
          · rw [copies, (h.next offer hlt).1]
            exact fun hsends => hzero hsends.1
          · rw [copies, read_of_done offer (by rw [h.size]; omega)]
            exact fun hsends => hzero hsends.1
        exact ⟨⟨fun hsent => absurd hsent hnot, fun hand => absurd hand.1 hzero⟩,
          fun hsent => absurd hsent hnot⟩

theorem sendsEach_iff (attempts : List (Attempt abi)) {t : Transfer} {rspP : ResponseStruct}
    (ht : t.responseChunk = some rspP) {size total : Nat} (h : CountsTo rspP size total) :
    SendsEach size t attempts ↔ StartsOver size total (attempts.map Attempt.offers) := by
  induction attempts generalizing t rspP total with
  | nil => exact Iff.rfl
  | cons a attempts ih =>
      obtain ⟨hregions, hafter⟩ := regions_eq_copies a ht
      obtain ⟨hsends, hcursor⟩ := sends_zero_iff h a.offers
      rw [SendsEach, List.map_cons, StartsOver, hregions, ← hsends]
      exact and_congr_right fun hsent => ih hafter (hcursor hsent)

theorem sendsEach_of_none (attempts : List (Attempt abi)) {t : Transfer}
    (ht : t.responseChunk = none) (size : Nat) : SendsEach size t attempts := by
  induction attempts generalizing t with
  | nil => trivial
  | cons a attempts ih =>
      obtain ⟨hregions, hafter⟩ := regions_of_none a ht
      rw [SendsEach, hregions]
      exact ⟨trivial, ih hafter⟩

/-! ## When the attempts are isolated -/

/-- What stands in front is not seen, or it hides all the rest. -/
theorem cString_append_eq_iff (s t : List UInt8) :
    cString 0 (s ++ t) = cString 0 t ↔ s = [] ∨ 0 ∈ s ∧ cString 0 s = cString 0 t := by
  by_cases hzero : 0 ∈ s
  · obtain ⟨text, rest, rfl, htext⟩ := List.eq_append_cons_of_mem hzero
    rw [List.append_assoc, List.cons_append, cString_append_nul htext, cString_append_nul htext]
    refine ⟨fun h => Or.inr ⟨hzero, h⟩, fun h => h.elim (fun hnil => ?_) And.right⟩
    exact absurd (hnil ▸ hzero) List.not_mem_nil
  · rw [cString_append hzero, List.append_left_eq_self]
    exact ⟨Or.inl, fun h => h.elim id fun hmem => absurd hmem.1 hzero⟩

theorem getLast?_append_eq_iff (s t : List (List UInt8)) :
    (s ++ t).getLast? = t.getLast? ↔ t ≠ [] ∨ s = [] := by
  rw [List.getLast?_append]
  cases hlast : t.getLast? with
  | none =>
      have ht : t = [] := List.getLast?_eq_none_iff.mp hlast
      rw [Option.none_or, List.getLast?_eq_none_iff]
      exact ⟨Or.inr, fun h => h.resolve_left fun hne => hne ht⟩
  | some last =>
      refine ⟨fun _ => Or.inl ?_, fun _ => Option.some_or⟩
      rintro rfl
      cases hlast

/-- Nothing of the failed attempts is left. -/
structure NothingLeft (run : Run abi) (method : HttpMethod) (size : Nat) : Prop where
  body : (∀ a ∈ run.failed, a.body = []) ∨ 0 ∈ run.failed.flatMap Attempt.body ∧
    cString 0 (run.failed.flatMap Attempt.body) = cString 0 run.last.body
  link : run.last.fields HeaderStruct.linkP ≠ [] ∨
    ∀ a ∈ run.failed, a.fields HeaderStruct.linkP = []
  rel : run.last.fields HeaderStruct.relP ≠ [] ∨
    ∀ a ∈ run.failed, a.fields HeaderStruct.relP = []
  upload : method = .put →
    StartsOver size 0 ((run.failed ++ [run.last]).map Attempt.offers)

/-- The exchange, for every run: the attempts are isolated exactly when nothing is left. -/
theorem isolated_iff (run : Run abi) (method : HttpMethod) (inputP : Memory) (size : Nat) :
    Isolated run method inputP size ↔ NothingLeft run method size := by
  have hnone : ∀ a ∈ ([] : List (Attempt abi)), a.curlRet ≠ 0 ∧ a.timediff ≤ 29 :=
    fun a ha => absurd ha List.not_mem_nil
  have hall := httpCommunicate_attempts run.fails run.succeeds run.count method inputP size
  have halone := httpCommunicate_attempts hnone run.succeeds (Nat.succ_pos 29) method inputP size
  have hsends : SendsEach size (setUp method inputP size) (run.failed ++ [run.last]) ↔
      (method = .put → StartsOver size 0 ((run.failed ++ [run.last]).map Attempt.offers)) := by
    by_cases hput : method = .put
    · rw [forall_prop_of_true hput]
      have hstart : (setUp method inputP size).responseChunk = some (setUpload inputP size) := by
        rw [setUp, if_pos hput]
      exact sendsEach_iff _ hstart ⟨rfl, rfl⟩
    · refine iff_of_true (sendsEach_of_none _ ?_ size) fun h => absurd h hput
      rw [setUp, if_neg hput]
  rw [List.nil_append] at halone
  rw [Isolated, hall, halone, hsends]
  simp only [Option.some.injEq, Prod.mk.injEq, Handed.mk.injEq, true_and, List.flatMap_append,
    List.flatMap_singleton, cString_append_eq_iff, getLast?_append_eq_iff,
    List.flatMap_eq_nil_iff]
  constructor
  · rintro ⟨⟨hbody, hlink, hrel⟩, hupload⟩
    exact ⟨hbody, hlink, hrel, hupload⟩
  · rintro ⟨hbody, hlink, hrel, hupload⟩
    exact ⟨⟨hbody, hlink, hrel⟩, hupload⟩

/-! ## A reply that breaks off -/

/-- The text "abc" arrives, and then the connection is lost (`CURLE_RECV_ERROR`). -/
def brokenOff : Attempt .arm64 where
  calls := [.body (letters ['a', 'b', 'c'])]
  curlRet := 56
  httpCode := 200
  timediff := 1

def empty200 : Attempt .arm64 where
  calls := []
  curlRet := 0
  httpCode := 200
  timediff := 1

def brokenRun : Run .arm64 where
  failed := [brokenOff]
  last := empty200
  fails := by decide
  count := by decide
  succeeds := rfl

/-- The caller gets a command that the reply does not have. -/
theorem not_isolated :
    ¬ ∀ (abi : Abi) (run : Run abi) (method : HttpMethod) (inputP : Memory) (size : Nat),
      Isolated run method inputP size := by
  intro hclaim
  have hsame := (hclaim .arm64 brokenRun .get (fun _ => 0) 0).1
  exact absurd (congrArg (Option.map fun r => r.2.map Handed.commandP) hsame) (by decide)

end SeClient

end Exynos8890.RootPa
