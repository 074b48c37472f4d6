import Exynos8890.Library.BoundedString
import Exynos8890.RootPa.ProvisioningStart

/-!
# The first link of a provisioning run

The run starts with a link that it puts together itself: the address of the service enabler, the
SUID, the SPID when there is one, and the identifier of a trustlet that is installed.  The link is
written into a block whose size is computed from the length of the address.

Main results:

- Definition `initialLinks`: the links with which a run starts.
- Theorem `exact_iff`: for which addresses and identifiers the links fit into their blocks and are
  what they have to be.
- Theorem `fullUrl_inj`: the complete texts tell all identifiers apart.
- Theorems `not_exact_spid` and `not_exact_trustlet`: an SPID with ten digits, and one with eight.
-/

namespace Exynos8890.RootPa.InitialUrl

open BoundedString CString

/-! ## The pieces of a link -/

def slash : UInt8 := 0x2F
def dash : UInt8 := 0x2D

/-- The characters of a constant. -/
def bytesOf (s : String) : List UInt8 :=
  s.toList.map Char.toUInt8

/-- `SE_URL`. -/
def seUrl : List UInt8 :=
  bytesOf "https://se.cgbe.trustonic.com:8443/service-enabler/enrollment/"

/-- `INITIAL_URL_BUFFER_LENGTH` and `INT_STRING_LENGTH`. -/
def initialUrlBufferLength : Nat := 255
def intStringLength : Nat := 12

/-- `addSlashToUri`. -/
def addSlashToUri (uri : List UInt8) : Option (List UInt8) := do
  let uriidx ← strlen 0 uri
  writeAt uri uriidx [slash]

/-- The character of a digit. -/
def singleNumber (n : UInt8) : UInt8 :=
  if n < 0xA then n + 0x30 else n + 0x57

/-- A dash stands behind the fourth, the sixth, the eighth and the tenth byte. -/
def DashAfter (uuid : Bool) (i : Nat) : Prop :=
  uuid = true ∧ (3 = i ∨ 5 = i ∨ 7 = i ∨ 9 = i)

instance (uuid : Bool) (i : Nat) : Decidable (DashAfter uuid i) :=
  inferInstanceAs (Decidable (_ ∧ _))

/-- The loop over the bytes, the first of which has the index `i`. -/
def addBytesFrom (uuid : Bool) (uri : List UInt8) (uriidx i : Nat) :
    List UInt8 → Option (List UInt8)
  | [] => some uri
  | b :: bytes => do
      let uri ← writeAt uri uriidx [singleNumber (b >>> 4)]
      let uri ← writeAt uri (uriidx + 1) [singleNumber (b &&& 0xF)]
      if DashAfter uuid i then
        let uri ← writeAt uri (uriidx + 2) [dash]
        addBytesFrom uuid uri (uriidx + 3) (i + 1) bytes
      else addBytesFrom uuid uri (uriidx + 2) (i + 1) bytes

/-- `addBytesToUri`. -/
def addBytesToUri (uri bytes : List UInt8) (uuid : Bool) : Option (List UInt8) := do
  let uriidx ← strlen 0 uri
  addBytesFrom uuid uri uriidx 0 bytes

/-- A number as `%d` writes it. -/
def decimal (n : Int) : List UInt8 :=
  let digits := (Nat.toDigits 10 n.natAbs).map Char.toUInt8
  if n < 0 then dash :: digits else digits

/-- What `snprintf` leaves in an array of zeros: a text that is cut to fit with its terminator. -/
def snprintf (size : Nat) (s : List UInt8) : List UInt8 :=
  s.take (size - 1) ++ List.replicate (size - (s.take (size - 1)).length) 0

/-- `addIntToUri`. -/
def addIntToUri (uri : List UInt8) (addThis : UInt32) : Option (List UInt8) := do
  -- the number is signed, since this is how the service enabler wants it
  let intInString := snprintf intStringLength (slash :: decimal addThis.toInt32.toInt)
  let uriidx ← strlen 0 uri
  strncpy 0 uri uriidx intInString intStringLength

/-! ## The address and the links -/

/-- The check of an address; the sum with the terminator is an unsigned word. -/
def checkAddress (addr : Option (List UInt8)) (length : UInt32) : RootPaError :=
  if addr = none ∨ length = 0 then .internal
  else if UInt32.ofNat initialUrlBufferLength < length + 1 then .illegalArgument
  else .ok

/-- `setInitialAddress`: the result, and `initialUrl_`. -/
def setInitialAddress (initialUrl : List UInt8) (addr : Option (List UInt8)) (length : UInt32) :
    Option (RootPaError × List UInt8) :=
  if checkAddress addr length ≠ .ok then some (checkAddress addr length, initialUrl)
  else do
    let initialUrl ← writeAt (List.replicate initialUrlBufferLength 0) 0
      ((addr.getD []).take length.toNat)
    some (.ok, initialUrl)

/-- The size of the block: the address, a SUID, an SPID and a UUID with two digits a byte, and
room for a slash, a terminator and four dashes. -/
def urlLength (addressLength : Nat) : Nat :=
  addressLength + 16 * 2 + 4 * 2 + 16 * 2 + 6

/-- `createBasicLink`. -/
def createBasicLink (initialUrl : List UInt8) (suid : Vector UInt8 16) : Option (List UInt8) := do
  let length ← strlen 0 initialUrl
  let tmpLink ← strncpy 0 (List.replicate (urlLength length) 0) 0 initialUrl (urlLength length)
  addBytesToUri tmpLink suid.toList false

/-- What a run is started for. -/
structure Request where
  suid : Vector UInt8 16
  spid : UInt32
  initialRel : InitialRel
  tltUuid : Option (Vector UInt8 16)
deriving DecidableEq

/-- What the start of a run finds: whether the client opens, whether the request for a trustlet can
be built, and whether a factory reset is assumed. -/
structure Surroundings where
  clientOpens : Bool
  requestBuilt : Bool
  factoryReset : Bool

/-- The link of the first iteration, and the one that is left for later. -/
structure InitialLinks where
  workToDo : Bool
  link : List UInt8
  pendingLink : Option (List UInt8)

/-- `initialUrl_`, with the default address when it is empty. -/
def effectiveUrl (initialUrl : List UInt8) : Option (List UInt8) := do
  let length ← strlen 0 initialUrl
  if length = 0 then
    strncpy 0 (List.replicate initialUrlBufferLength 0) 0 seUrl seUrl.length
  else some initialUrl

/-- The link with the SPID, which a request to delete does not have. -/
def linkWithSpid (link : List UInt8) (r : Request) : Option (List UInt8) :=
  if r.initialRel = .delete then some link
  else if r.spid ≠ 0 then addIntToUri link r.spid
  else some link

/-- The link with the UUID of the trustlet; without a request for it there is no work to do. -/
def linkWithTrustlet (link : List UInt8) (tltUuid : Option (Vector UInt8 16)) (s : Surroundings) :
    Option (Bool × List UInt8) :=
  match tltUuid with
  | none => some (s.clientOpens, link)
  | some uuid =>
      if s.requestBuilt then do
        let link ← addSlashToUri link
        let link ← addBytesToUri link uuid.toList true
        some (s.clientOpens, link)
      else some (false, link)

/-- The links with which `doProvisioningWithSe` enters its loop. -/
def initialLinks (initialUrl : List UInt8) (r : Request) (s : Surroundings) :
    Option InitialLinks := do
  let initialUrl ← effectiveUrl initialUrl
  let link ← createBasicLink initialUrl r.suid
  let link ← linkWithSpid link r
  let (workToDo, link) ← linkWithTrustlet link r.tltUuid s
  if s.factoryReset ∧ r.initialRel ≠ .delete ∧ workToDo = true then
    let deleteLink ← createBasicLink initialUrl r.suid
    some ⟨workToDo, deleteLink, some link⟩
  else some ⟨workToDo, link, none⟩

/-! ## What the links have to be -/

/-- The text of bytes, the first of which has the index `i`. -/
def bytesText (uuid : Bool) (i : Nat) : List UInt8 → List UInt8
  | [] => []
  | b :: bytes =>
      [singleNumber (b >>> 4), singleNumber (b &&& 0xF)] ++
        (if DashAfter uuid i then [dash] else []) ++ bytesText uuid (i + 1) bytes

/-- The SPID that is shown. -/
def Request.shownSpid (r : Request) : Option UInt32 :=
  if r.initialRel = .delete ∨ r.spid = 0 then none else some r.spid

/-- What the link of a request identifies. -/
def Request.identifiers (r : Request) :
    Vector UInt8 16 × Option UInt32 × Option (Vector UInt8 16) :=
  (r.suid, r.shownSpid, r.tltUuid)

def spidText : Option UInt32 → List UInt8
  | none => []
  | some spid => slash :: decimal spid.toInt32.toInt

def uuidText : Option (Vector UInt8 16) → List UInt8
  | none => []
  | some uuid => slash :: bytesText true 0 uuid.toList

/-- An address, and the complete text of each identifier. -/
def fullUrl (addr : List UInt8)
    (ids : Vector UInt8 16 × Option UInt32 × Option (Vector UInt8 16)) : List UInt8 :=
  addr ++ bytesText false 0 ids.1.toList ++ spidText ids.2.1 ++ uuidText ids.2.2

/-- The link of the first iteration and the one for later, as they have to be. -/
def expectedLinks (addr : List UInt8) (r : Request) (s : Surroundings) :
    List UInt8 × Option (List UInt8) :=
  if s.factoryReset ∧ r.initialRel ≠ .delete then
    (fullUrl addr (r.suid, none, none), some (fullUrl addr r.identifiers))
  else (fullUrl addr r.identifiers, none)

/-- Nothing is written outside its block, and each link is a string with the text it has to
have. -/
def Exact (addr : List UInt8) (r : Request) : Prop :=
  ∀ (old : List UInt8) (s : Surroundings), ∃ initialUrl links,
    setInitialAddress old (some addr) (UInt32.ofNat addr.length) = some (.ok, initialUrl) ∧
    initialLinks initialUrl r s = some links ∧
    (links.workToDo = true →
      text 0 links.link = some (expectedLinks addr r s).1 ∧
      links.pendingLink.map (text 0) = (expectedLinks addr r s).2.map some)

/-- The text of the link of a request. -/
def requestUrl (addr : List UInt8) (r : Request) : Option (List UInt8) := do
  let (_, initialUrl) ← setInitialAddress [] (some addr) (UInt32.ofNat addr.length)
  let links ← initialLinks initialUrl r ⟨true, true, false⟩
  text 0 links.link

/-- The address is a string that fits, and the text of the SPID is not longer than there is room
for: nine digits behind a minus, and seven characters when a trustlet follows. -/
structure Fits (addr : List UInt8) (r : Request) : Prop where
  short : addr.length ≤ 254
  noTerminator : 0 ∉ addr
  spid : ∀ spid ∈ r.shownSpid, -999999999 ≤ spid.toInt32.toInt
  trustlet : ∀ spid ∈ r.shownSpid, r.tltUuid ≠ none →
    -999999 ≤ spid.toInt32.toInt ∧ spid.toInt32.toInt ≤ 9999999

/-! ## Digits -/

theorem toNat_singleNumber {n : UInt8} (hn : n.toNat < 16) :
    (singleNumber n).toNat = if n.toNat < 10 then n.toNat + 48 else n.toNat + 87 := by
  have hten : n < 0xA ↔ n.toNat < 10 := UInt8.lt_iff_toNat_lt
  rw [singleNumber]
  by_cases h : n.toNat < 10
  · rw [if_pos (hten.mpr h), if_pos h, UInt8.toNat_add]
    show (n.toNat + 48) % 256 = _
    omega
  · rw [if_neg (fun hlt => h (hten.mp hlt)), if_neg h, UInt8.toNat_add]
    show (n.toNat + 87) % 256 = _
    omega

theorem singleNumber_inj {m n : UInt8} (hm : m.toNat < 16) (hn : n.toNat < 16)
    (h : singleNumber m = singleNumber n) : m = n := by
  have hnat := congrArg UInt8.toNat h
  rw [toNat_singleNumber hm, toNat_singleNumber hn] at hnat
  apply UInt8.toNat_inj.mp
  split at hnat <;> split at hnat <;> omega

theorem singleNumber_ne_zero {n : UInt8} (hn : n.toNat < 16) : singleNumber n ≠ 0 := by
  intro h
  have hnat := congrArg UInt8.toNat h
  rw [toNat_singleNumber hn] at hnat
  split at hnat <;> simp at hnat

theorem toNat_high (b : UInt8) : (b >>> 4).toNat = b.toNat / 16 := by
  rw [UInt8.toNat_shiftRight]
  show b.toNat >>> 4 = _
  rw [Nat.shiftRight_eq_div_pow]

theorem toNat_low (b : UInt8) : (b &&& 0xF).toNat = b.toNat % 16 := by
  rw [UInt8.toNat_and]
  show b.toNat &&& (2 ^ 4 - 1) = _
  rw [Nat.and_two_pow_sub_one_eq_mod]

theorem high_lt (b : UInt8) : (b >>> 4).toNat < 16 := by
  have hb := b.toNat_lt
  rw [toNat_high]
  omega

theorem low_lt (b : UInt8) : (b &&& 0xF).toNat < 16 := by
  rw [toNat_low]
  omega

/-- Every byte is written with two digits, and there are the dashes. -/
theorem length_bytesText (uuid : Bool) (i : Nat) (bytes : List UInt8) :
    (bytesText uuid i bytes).length =
      2 * bytes.length + (List.range' i bytes.length).countP (DashAfter uuid ·) := by
  induction bytes generalizing i with
  | nil => rfl
  | cons b bytes ih =>
      have hcons : (b :: bytes).length = bytes.length + 1 := rfl
      rw [bytesText, List.length_append, List.length_append, ih, hcons, List.range'_succ,
        List.countP_cons]
      by_cases h : DashAfter uuid i <;> simp [h] <;> omega

theorem length_suidText (suid : Vector UInt8 16) :
    (bytesText false 0 suid.toList).length = 32 := by
  rw [length_bytesText, Vector.length_toList]
  decide

theorem length_uuidText (uuid : Vector UInt8 16) :
    (bytesText true 0 uuid.toList).length = 36 := by
  rw [length_bytesText, Vector.length_toList]
  decide

theorem zero_not_mem_bytesText (uuid : Bool) (i : Nat) (bytes : List UInt8) :
    0 ∉ bytesText uuid i bytes := by
  induction bytes generalizing i with
  | nil => simp [bytesText]
  | cons b bytes ih =>
      have hdash : (0 : UInt8) ∉ if DashAfter uuid i then [dash] else [] := by
        split <;> decide
      simp only [bytesText, List.mem_append, List.mem_cons, List.not_mem_nil, or_false, not_or]
      exact ⟨⟨⟨(singleNumber_ne_zero (high_lt b)).symm, (singleNumber_ne_zero (low_lt b)).symm⟩,
        hdash⟩, ih (i + 1)⟩

theorem bytesText_inj {uuid : Bool} {i : Nat} {as bs : List UInt8}
    (hlength : as.length = bs.length) (h : bytesText uuid i as = bytesText uuid i bs) :
    as = bs := by
  induction as generalizing bs i with
  | nil => exact (List.length_eq_zero_iff.mp hlength.symm).symm
  | cons a as ih =>
      cases bs with
      | nil => cases hlength
      | cons b bs =>
          rw [bytesText, bytesText] at h
          have hsplit := List.append_inj h (by simp)
          have hdigits := List.append_inj_left hsplit.1 (by simp)
          simp only [List.cons.injEq, and_true] at hdigits
          have hhigh := congrArg UInt8.toNat (singleNumber_inj (high_lt a) (high_lt b) hdigits.1)
          have hlow := congrArg UInt8.toNat (singleNumber_inj (low_lt a) (low_lt b) hdigits.2)
          rw [toNat_high, toNat_high] at hhigh
          rw [toNat_low, toNat_low] at hlow
          have hbyte : a = b := by
            apply UInt8.toNat_inj.mp
            omega
          rw [hbyte, ih (by simpa using hlength) hsplit.2]

/-! ## Decimal numbers -/

theorem mem_toDigits {n : Nat} {c : Char} (h : c ∈ Nat.toDigits 10 n) :
    48 ≤ c.toNat ∧ c.toNat ≤ 57 := by
  have hdigit := Nat.isDigit_of_mem_toDigits (by decide) (by decide) h
  rw [Char.isDigit, Bool.and_eq_true, decide_eq_true_iff, decide_eq_true_iff] at hdigit
  exact ⟨UInt32.le_iff_toNat_le.mp hdigit.1, UInt32.le_iff_toNat_le.mp hdigit.2⟩

theorem toNat_toUInt8 {n : Nat} {c : Char} (h : c ∈ Nat.toDigits 10 n) :
    c.toUInt8.toNat = c.toNat := by
  have hdigit := mem_toDigits h
  show (c.toNat) % 256 = c.toNat
  omega

theorem map_toUInt8_toDigits (n : Nat) :
    ((Nat.toDigits 10 n).map Char.toUInt8).map (fun b => Char.ofNat b.toNat) =
      Nat.toDigits 10 n := by
  rw [List.map_map]
  conv_rhs => rw [← List.map_id (Nat.toDigits 10 n)]
  apply List.map_congr_left
  intro c hc
  rw [Function.comp_apply, toNat_toUInt8 hc, Char.ofNat_toNat, id]

theorem toDigits_inj {a b : Nat}
    (h : (Nat.toDigits 10 a).map Char.toUInt8 = (Nat.toDigits 10 b).map Char.toUInt8) : a = b := by
  have hdigits : Nat.toDigits 10 a = Nat.toDigits 10 b := by
    rw [← map_toUInt8_toDigits a, h, map_toUInt8_toDigits b]
  rw [← Nat.ofDigitChars_ten_toDigits (n := a), hdigits, Nat.ofDigitChars_ten_toDigits]

theorem le_of_mem_digits {n : Nat} {b : UInt8}
    (h : b ∈ (Nat.toDigits 10 n).map Char.toUInt8) : 48 ≤ b.toNat := by
  obtain ⟨c, hc, rfl⟩ := List.mem_map.mp h
  rw [toNat_toUInt8 hc]
  exact (mem_toDigits hc).1

theorem dash_not_mem_digits (n : Nat) : dash ∉ (Nat.toDigits 10 n).map Char.toUInt8 := by
  intro h
  have hle := le_of_mem_digits h
  exact absurd hle (by decide)

theorem zero_not_mem_decimal (n : Int) : 0 ∉ decimal n := by
  have hdigits : (0 : UInt8) ∉ (Nat.toDigits 10 n.natAbs).map Char.toUInt8 := by
    intro h
    exact absurd (le_of_mem_digits h) (by decide)
  rw [decimal]
  split
  · rw [List.mem_cons, not_or]
    exact ⟨by decide, hdigits⟩
  · exact hdigits

theorem decimal_inj {m n : Int} (h : decimal m = decimal n) : m = n := by
  rw [decimal, decimal] at h
  by_cases hm : m < 0 <;> by_cases hn : n < 0
  · rw [if_pos hm, if_pos hn, List.cons.injEq] at h
    have habs := toDigits_inj h.2
    omega
  · rw [if_pos hm, if_neg hn] at h
    exact absurd (h ▸ List.mem_cons_self) (dash_not_mem_digits n.natAbs)
  · rw [if_neg hm, if_pos hn] at h
    exact absurd (h ▸ List.mem_cons_self) (dash_not_mem_digits m.natAbs)
  · rw [if_neg hm, if_neg hn] at h
    have habs := toDigits_inj h
    omega

theorem length_decimal_le_iff (n : Int) {k : Nat} (hk : 0 < k) :
    (decimal n).length ≤ k + 1 ↔ -(10 ^ k : Nat) < n ∧ n < (10 ^ (k + 1) : Nat) := by
  have hdigits := Nat.length_toDigits_le_iff (b := 10) (n := n.natAbs) (by decide) hk
  have hdigits' := Nat.length_toDigits_le_iff (b := 10) (n := n.natAbs) (by decide) k.succ_pos
  have hpow : (10 : Nat) ^ k < 10 ^ (k + 1) := Nat.pow_lt_pow_right (by decide) k.lt_succ_self
  rw [decimal]
  by_cases hn : n < 0
  · rw [if_pos hn, List.length_cons, List.length_map, Nat.succ_le_succ_iff, hdigits]
    omega
  · rw [if_neg hn, List.length_map, hdigits']
    omega

theorem length_decimal_le (n : Int32) : (decimal n.toInt).length ≤ 11 := by
  have hlower := n.le_toInt
  have hupper := n.toInt_lt
  rw [length_decimal_le_iff _ (by decide)]
  norm_num
  omega

/-! ## Different identifiers have different texts -/

theorem length_uuidText_some (uuid : Vector UInt8 16) : (uuidText (some uuid)).length = 37 := by
  rw [uuidText, List.length_cons, length_uuidText]

theorem length_spidText_le (spid : Option UInt32) : (spidText spid).length ≤ 12 := by
  cases spid with
  | none => simp [spidText]
  | some spid => exact Nat.succ_le_succ (length_decimal_le spid.toInt32)

theorem spidText_inj {spid spid' : Option UInt32} (h : spidText spid = spidText spid') :
    spid = spid' := by
  cases spid with
  | none =>
      cases spid' with
      | none => rfl
      | some _ => cases h
  | some a =>
      cases spid' with
      | none => cases h
      | some b =>
          rw [spidText, spidText, List.cons.injEq] at h
          have hword : a = b := congrArg Int32.toUInt32 (Int32.toInt_inj.mp (decimal_inj h.2))
          rw [hword]

theorem uuid_inj {uuid uuid' : Vector UInt8 16}
    (h : uuidText (some uuid) = uuidText (some uuid')) : uuid = uuid' := by
  rw [uuidText, uuidText, List.cons.injEq] at h
  exact Vector.toList_inj.mp (bytesText_inj (by simp) h.2)

theorem fullUrl_inj {addr : List UInt8}
    {ids ids' : Vector UInt8 16 × Option UInt32 × Option (Vector UInt8 16)}
    (h : fullUrl addr ids = fullUrl addr ids') : ids = ids' := by
  obtain ⟨suid, spid, uuid⟩ := ids
  obtain ⟨suid', spid', uuid'⟩ := ids'
  simp only [fullUrl, List.append_assoc] at h
  have hsplit := List.append_inj (List.append_cancel_left h)
    (by rw [length_suidText, length_suidText])
  have hsuid := Vector.toList_inj.mp (bytesText_inj (by simp) hsplit.1)
  have hlength := congrArg List.length hsplit.2
  have hspid := length_spidText_le spid
  have hspid' := length_spidText_le spid'
  rw [List.length_append, List.length_append] at hlength
  rw [hsuid]
  cases uuid with
  | none =>
      cases uuid' with
      | none =>
          have hend : spidText spid = spidText spid' := by simpa [uuidText] using hsplit.2
          rw [spidText_inj hend]
      | some _ =>
          -- a trustlet alone is longer than every SPID
          rw [length_uuidText_some] at hlength
          simp only [uuidText, List.length_nil] at hlength
          omega
  | some a =>
      cases uuid' with
      | none =>
          rw [length_uuidText_some] at hlength
          simp only [uuidText, List.length_nil] at hlength
          omega
      | some b =>
          have hends := List.append_inj' hsplit.2
            (by rw [length_uuidText_some, length_uuidText_some])
          rw [spidText_inj hends.1, uuid_inj hends.2]

/-! ## What the pieces append -/

theorem addBytesFrom_eq (uuid : Bool) {uri : List UInt8} {uriidx : Nat} (i : Nat)
    (bytes : List UInt8) (hidx : uriidx ≤ uri.length) :
    addBytesFrom uuid uri uriidx i bytes = writeAt uri uriidx (bytesText uuid i bytes) := by
  induction bytes generalizing uri uriidx i with
  | nil => rw [addBytesFrom, bytesText, writeAt_nil hidx]
  | cons b bytes ih =>
      have hdigits : [singleNumber (b >>> 4), singleNumber (b &&& 0xF)] =
          [singleNumber (b >>> 4)] ++ [singleNumber (b &&& 0xF)] := rfl
      rw [addBytesFrom, bytesText, hdigits, writeAt_append, writeAt_append, writeAt_append]
      cases hhigh : writeAt uri uriidx [singleNumber (b >>> 4)] with
      | none => rfl
      | some uri₁ =>
          cases hlow : writeAt uri₁ (uriidx + 1) [singleNumber (b &&& 0xF)] with
          | none => simp [hlow]
          | some uri₂ =>
              have hroom₂ : uriidx + 2 ≤ uri₂.length := le_of_writeAt hlow
              by_cases hdash : DashAfter uuid i
              · cases hwrite : writeAt uri₂ (uriidx + 2) [dash] with
                | none => simp [hlow, hdash, hwrite]
                | some uri₃ =>
                    have hroom₃ : uriidx + 3 ≤ uri₃.length := le_of_writeAt hwrite
                    have hrest := ih (i + 1) hroom₃
                    simp [hlow, hdash, hwrite, hrest]
              · have hrest := ih (i + 1) hroom₂
                have hnil := writeAt_nil hroom₂
                simp [hlow, hdash, hrest, hnil]

variable {s : List UInt8} {n : Nat}

theorem addBytesToUri_filled (hs : 0 ∉ s) (hn : 0 < n) (bytes : List UInt8) (uuid : Bool) :
    addBytesToUri (filled 0 s n) bytes uuid =
      if (bytesText uuid 0 bytes).length ≤ n then
        some (filled 0 (s ++ bytesText uuid 0 bytes) (n - (bytesText uuid 0 bytes).length))
      else none := by
  rw [addBytesToUri, strlen_filled hs hn]
  show addBytesFrom uuid _ s.length 0 bytes = _
  rw [addBytesFrom_eq uuid 0 bytes (by simp), writeAt_filled]

theorem addSlashToUri_filled (hs : 0 ∉ s) (hn : 0 < n) :
    addSlashToUri (filled 0 s n) = some (filled 0 (s ++ [slash]) (n - 1)) := by
  rw [addSlashToUri, strlen_filled hs hn]
  show writeAt _ s.length [slash] = _
  have hroom : [slash].length ≤ n := hn
  rw [writeAt_filled, if_pos hroom]
  rfl

/-- An SPID is appended as far as it has room in its own array. -/
theorem addIntToUri_filled (hs : 0 ∉ s) (hn : intStringLength ≤ n) (spid : UInt32) :
    addIntToUri (filled 0 s n) spid =
      some (filled 0 (s ++ (spidText (some spid)).take 11)
        (n - ((spidText (some spid)).take 11).length)) := by
  have htext : 0 ∉ (spidText (some spid)).take 11 := by
    intro h
    rcases List.mem_cons.mp (List.mem_of_mem_take h) with h | h
    · exact absurd h (by decide)
    · exact zero_not_mem_decimal _ h
  have hlength : ((spidText (some spid)).take 11).length ≤ 11 := by simp
  have hsize : 0 < intStringLength - ((spidText (some spid)).take 11).length := by
    show 0 < 12 - _
    omega
  have hpadded : padded 0 (snprintf intStringLength (spidText (some spid))) intStringLength =
      (spidText (some spid)).take 11 ++
        List.replicate (intStringLength - ((spidText (some spid)).take 11).length) 0 := by
    have hstring : cString 0 (snprintf intStringLength (spidText (some spid))) =
        (spidText (some spid)).take 11 := by
      obtain ⟨k, hk⟩ := Nat.exists_eq_add_of_lt hsize
      show cString 0 ((spidText (some spid)).take 11 ++ _) = _
      show cString 0 ((spidText (some spid)).take 11 ++ List.replicate
        (intStringLength - ((spidText (some spid)).take 11).length) 0) = _
      rw [hk, List.replicate_succ, cString_append_nul htext]
    rw [padded, hstring, List.take_of_length_le (by show _ ≤ 12; omega)]
  rw [addIntToUri, strlen_filled hs (lt_of_lt_of_le (by decide) hn)]
  show strncpy 0 _ s.length (snprintf intStringLength (spidText (some spid))) _ = _
  rw [strncpy, hpadded, writeAt_filled_padded]
  omega

/-! ## The links -/

section Links

variable {addr : List UInt8}

theorem zero_not_mem_basic (haddr : 0 ∉ addr) (suid : Vector UInt8 16) :
    0 ∉ addr ++ bytesText false 0 suid.toList := by
  rw [List.mem_append, not_or]
  exact ⟨haddr, zero_not_mem_bytesText _ _ _⟩

theorem createBasicLink_filled (haddr : 0 ∉ addr) (hn : 0 < n) (suid : Vector UInt8 16) :
    createBasicLink (filled 0 addr n) suid =
      some (filled 0 (addr ++ bytesText false 0 suid.toList) 46) := by
  obtain ⟨m, rfl⟩ := Nat.exists_eq_add_of_lt hn
  have hstring : cString 0 (filled 0 addr (0 + m + 1)) = addr := by
    rw [filled, List.replicate_succ, cString_append_nul haddr]
  have hblock : strncpy 0 (List.replicate (urlLength addr.length) 0) 0
      (filled 0 addr (0 + m + 1)) (urlLength addr.length) = some (filled 0 addr 78) := by
    have hsize : addr.length ≤ urlLength addr.length := by
      rw [urlLength]
      omega
    have hrest : urlLength addr.length - addr.length = 78 := by
      rw [urlLength]
      omega
    have hempty := writeAt_filled_padded 0 [] addr (n := urlLength addr.length)
      (k := urlLength addr.length - addr.length) (by omega)
    rw [strncpy, padded, hstring, List.take_of_length_le hsize]
    rw [hrest] at hempty ⊢
    exact hempty
  rw [createBasicLink, strlen_filled haddr hn]
  show (strncpy 0 _ 0 _ _).bind _ = _
  rw [hblock, Option.bind_some, addBytesToUri_filled haddr (by decide), length_suidText]
  rfl

/-- The part of the text of an SPID that the link keeps. -/
def keptSpid (r : Request) : List UInt8 :=
  (spidText r.shownSpid).take 11

theorem length_keptSpid (r : Request) : (keptSpid r).length ≤ 11 := by
  simp [keptSpid]

theorem zero_not_mem_spidText (spid : Option UInt32) : 0 ∉ spidText spid := by
  cases spid with
  | none => simp [spidText]
  | some spid =>
      rw [spidText, List.mem_cons, not_or]
      exact ⟨by decide, zero_not_mem_decimal _⟩

theorem zero_not_mem_uuidText (uuid : Option (Vector UInt8 16)) : 0 ∉ uuidText uuid := by
  cases uuid with
  | none => simp [uuidText]
  | some uuid =>
      rw [uuidText, List.mem_cons, not_or]
      exact ⟨by decide, zero_not_mem_bytesText _ _ _⟩

theorem zero_not_mem_keptSpid (r : Request) : 0 ∉ keptSpid r :=
  fun h => zero_not_mem_spidText _ (List.mem_of_mem_take h)

theorem linkWithSpid_filled (hs : 0 ∉ s) (r : Request) :
    linkWithSpid (filled 0 s 46) r =
      some (filled 0 (s ++ keptSpid r) (46 - (keptSpid r).length)) := by
  rw [linkWithSpid, keptSpid, Request.shownSpid]
  by_cases hrel : r.initialRel = .delete
  · simp [hrel, spidText]
  · by_cases hspid : r.spid = 0
    · simp [hrel, hspid, spidText]
    · rw [if_neg hrel, if_pos hspid, if_neg (by simp [hrel, hspid]),
        addIntToUri_filled hs (by decide)]

theorem linkWithTrustlet_filled (hs : 0 ∉ s) (hn : 2 ≤ n) (uuid : Vector UInt8 16)
    {f : Surroundings} (hbuilt : f.requestBuilt = true) :
    linkWithTrustlet (filled 0 s n) (some uuid) f =
      if 37 ≤ n then
        some (f.clientOpens, filled 0 (s ++ uuidText (some uuid)) (n - 37))
      else none := by
  have hslash : 0 ∉ s ++ [slash] := by
    rw [List.mem_append, not_or]
    exact ⟨hs, by decide⟩
  rw [linkWithTrustlet, if_pos hbuilt, addSlashToUri_filled hs (by omega)]
  show ((addBytesToUri (filled 0 (s ++ [slash]) (n - 1)) uuid.toList true).bind _) = _
  rw [addBytesToUri_filled hslash (by omega), length_uuidText]
  by_cases h : 37 ≤ n
  · rw [if_pos (by omega), if_pos h, Option.bind_some, List.append_assoc, Nat.sub_sub]
    rfl
  · rw [if_neg (by omega), if_neg h, Option.bind_none]

theorem effectiveUrl_filled (haddr : 0 ∉ addr) (hne : addr ≠ []) (hn : 0 < n) :
    effectiveUrl (filled 0 addr n) = some (filled 0 addr n) := by
  rw [effectiveUrl, strlen_filled haddr hn]
  show (if addr.length = 0 then _ else _) = _
  rw [if_neg (fun h => hne (List.length_eq_zero_iff.mp h))]

/-- The links behind the one with the SPID. -/
def linksFrom (basic : List UInt8) (r : Request) (f : Surroundings) (link : Bool × List UInt8) :
    InitialLinks :=
  if f.factoryReset ∧ r.initialRel ≠ .delete ∧ link.1 = true then ⟨link.1, basic, some link.2⟩
  else ⟨link.1, link.2, none⟩

theorem initialLinks_filled (haddr : 0 ∉ addr) (hne : addr ≠ []) (hn : 0 < n) (r : Request)
    (f : Surroundings) :
    initialLinks (filled 0 addr n) r f =
      (linkWithTrustlet (filled 0 (addr ++ bytesText false 0 r.suid.toList ++ keptSpid r)
        (46 - (keptSpid r).length)) r.tltUuid f).map
        (linksFrom (filled 0 (addr ++ bytesText false 0 r.suid.toList) 46) r f) := by
  rw [initialLinks, effectiveUrl_filled haddr hne hn]
  show (createBasicLink (filled 0 addr n) r.suid).bind _ = _
  rw [createBasicLink_filled haddr hn, Option.bind_some]
  show (linkWithSpid _ r).bind _ = _
  rw [linkWithSpid_filled (zero_not_mem_basic haddr r.suid), Option.bind_some]
  cases linkWithTrustlet (filled 0 (addr ++ bytesText false 0 r.suid.toList ++ keptSpid r)
      (46 - (keptSpid r).length)) r.tltUuid f with
  | none => rfl
  | some link =>
      rw [Option.map_some, linksFrom]
      show (if _ then _ else _) = _
      split
      · rfl
      · rfl

/-! ## When the links are exact -/

/-- The text of the SPID fits into its own array and leaves room for what follows. -/
def Room (r : Request) : Prop :=
  (spidText r.shownSpid).length ≤ if r.tltUuid = none then 11 else 8

theorem room_iff (r : Request) :
    Room r ↔ (∀ spid ∈ r.shownSpid, -999999999 ≤ spid.toInt32.toInt) ∧
      ∀ spid ∈ r.shownSpid, r.tltUuid ≠ none →
        -999999 ≤ spid.toInt32.toInt ∧ spid.toInt32.toInt ≤ 9999999 := by
  rw [Room]
  cases hshown : r.shownSpid with
  | none => simp [spidText]
  | some spid =>
      have hten := length_decimal_le_iff spid.toInt32.toInt (k := 9) (by decide)
      have hseven := length_decimal_le_iff spid.toInt32.toInt (k := 6) (by decide)
      have hupper := spid.toInt32.toInt_lt
      have hlength : (spidText (some spid)).length = (decimal spid.toInt32.toInt).length + 1 := rfl
      norm_num at hten hseven hupper
      rw [hlength]
      by_cases htlt : r.tltUuid = none
      · simp only [htlt, Option.mem_def, Option.some.injEq, forall_eq', if_pos, ne_eq,
          not_true_eq_false, false_implies, and_true]
        omega
      · simp only [htlt, Option.mem_def, Option.some.injEq, forall_eq', if_false, ne_eq,
          not_false_eq_true, true_implies]
        omega

theorem keptSpid_eq {r : Request} (hroom : Room r) : keptSpid r = spidText r.shownSpid := by
  rw [Room] at hroom
  rw [keptSpid, List.take_of_length_le]
  split at hroom <;> omega

theorem setInitialAddress_accepted (hlength : addr.length < 2 ^ 32)
    (haccepted : checkAddress (some addr) (UInt32.ofNat addr.length) = .ok) (old : List UInt8) :
    setInitialAddress old (some addr) (UInt32.ofNat addr.length) =
      if addr.length ≤ 255 then some (.ok, filled 0 addr (255 - addr.length)) else none := by
  have hnat : (UInt32.ofNat addr.length).toNat = addr.length := UInt32.toNat_ofNat_of_lt' hlength
  have hwrite := writeAt_filled 0 [] addr 255
  rw [setInitialAddress, if_neg (not_not.mpr haccepted), hnat]
  show (writeAt (filled 0 [] 255) ([] : List UInt8).length (addr.take addr.length)).bind _ = _
  rw [List.take_length, hwrite]
  split <;> rfl

/-- What the check of an address accepts, with the length at which the sum wraps. -/
theorem length_of_accepted (hlength : addr.length < 2 ^ 32)
    (haccepted : checkAddress (some addr) (UInt32.ofNat addr.length) = .ok) :
    addr ≠ [] ∧ (addr.length ≤ 254 ∨ addr.length = 2 ^ 32 - 1) := by
  have hnat : (UInt32.ofNat addr.length).toNat = addr.length := UInt32.toNat_ofNat_of_lt' hlength
  rw [checkAddress] at haccepted
  split at haccepted
  · cases haccepted
  · split at haccepted
    · cases haccepted
    · rename_i hzero hlong
      refine ⟨?_, ?_⟩
      · rintro rfl
        exact hzero (Or.inr rfl)
      · rw [UInt32.lt_iff_toNat_lt, UInt32.toNat_add, hnat] at hlong
        have hsum : ¬ 255 < (addr.length + 1) % 2 ^ 32 := hlong
        omega

theorem exact_of_fits (hlength : addr.length < 2 ^ 32)
    (haccepted : checkAddress (some addr) (UInt32.ofNat addr.length) = .ok) {r : Request}
    (hfits : Fits addr r) : Exact addr r := by
  intro old f
  obtain ⟨hshort, haddr, hspid, htrustlet⟩ := hfits
  have hroom : Room r := (room_iff r).mpr ⟨hspid, htrustlet⟩
  have hne := (length_of_accepted hlength haccepted).1
  have hbasic := zero_not_mem_basic haddr r.suid
  have hspidLink : 0 ∉ addr ++ bytesText false 0 r.suid.toList ++ spidText r.shownSpid := by
    rw [List.mem_append, not_or]
    exact ⟨hbasic, zero_not_mem_spidText _⟩
  have hbasicText : fullUrl addr (r.suid, none, none) =
      addr ++ bytesText false 0 r.suid.toList := by
    simp [fullUrl, spidText, uuidText]
  have hlinks := initialLinks_filled haddr hne (n := 255 - addr.length) (by omega) r f
  rw [keptSpid_eq hroom] at hlinks
  -- the link behind the SPID and the trustlet is the full text, and followed by a terminator
  have hlink : ∃ work link, linkWithTrustlet (filled 0 (addr ++ bytesText false 0 r.suid.toList ++
      spidText r.shownSpid) (46 - (spidText r.shownSpid).length)) r.tltUuid f = some (work, link) ∧
      (work = true → text 0 link = some (fullUrl addr r.identifiers)) := by
    rw [Room] at hroom
    cases htlt : r.tltUuid with
    | none =>
        rw [htlt, if_pos rfl] at hroom
        refine ⟨_, _, rfl, fun _ => ?_⟩
        rw [text_filled hspidLink (by omega), fullUrl, Request.identifiers, htlt]
        simp [uuidText]
    | some uuid =>
        rw [htlt, if_neg (by simp)] at hroom
        cases hbuilt : f.requestBuilt with
        | false =>
            refine ⟨false, filled 0 (addr ++ bytesText false 0 r.suid.toList ++
              spidText r.shownSpid) (46 - (spidText r.shownSpid).length), ?_,
              fun h => absurd h Bool.false_ne_true⟩
            rw [linkWithTrustlet, hbuilt]
            rfl
        | true =>
            have huuid : 0 ∉ addr ++ bytesText false 0 r.suid.toList ++ spidText r.shownSpid ++
                uuidText (some uuid) := by
              rw [List.mem_append, not_or]
              exact ⟨hspidLink, zero_not_mem_uuidText _⟩
            rw [linkWithTrustlet_filled hspidLink (by omega) uuid hbuilt, if_pos (by omega)]
            refine ⟨_, _, rfl, fun _ => ?_⟩
            rw [text_filled huuid (by omega), fullUrl, Request.identifiers, htlt]
  obtain ⟨work, link, hlink, htext⟩ := hlink
  rw [hlink, Option.map_some] at hlinks
  refine ⟨_, _, ?_, hlinks, ?_⟩
  · rw [setInitialAddress_accepted hlength haccepted, if_pos (by omega)]
  · rw [linksFrom, expectedLinks]
    by_cases hreset : f.factoryReset = true ∧ r.initialRel ≠ .delete
    · by_cases hwork : work = true
      · rw [if_pos ⟨hreset.1, hreset.2, hwork⟩, if_pos hreset]
        intro _
        refine ⟨?_, congrArg some (htext hwork)⟩
        rw [hbasicText]
        exact text_filled hbasic (by decide)
      · rw [if_neg fun h => hwork h.2.2]
        exact fun h => absurd h hwork
    · rw [if_neg fun h => hreset ⟨h.1, h.2.1⟩, if_neg hreset]
      exact fun hwork => ⟨htext hwork, rfl⟩

/-- With an open client and a request for the trustlet there is work to do. -/
theorem workToDo_of_initialLinks {initialUrl : List UInt8} {r : Request} {f : Surroundings}
    {links : InitialLinks} (hopens : f.clientOpens = true) (hbuilt : f.requestBuilt = true)
    (h : initialLinks initialUrl r f = some links) : links.workToDo = true := by
  simp only [initialLinks, Option.bind_eq_bind, Option.bind_eq_some_iff] at h
  obtain ⟨url, -, basic, -, spidLink, -, ⟨work, link⟩, htrustlet, hlinks⟩ := h
  have hwork : work = true := by
    cases htlt : r.tltUuid with
    | none =>
        rw [htlt, linkWithTrustlet, hopens] at htrustlet
        cases htrustlet
        rfl
    | some uuid =>
        simp only [htlt, linkWithTrustlet, if_pos hbuilt, Option.bind_eq_bind,
          Option.bind_eq_some_iff, hopens] at htrustlet
        obtain ⟨slashed, -, whole, -, heq⟩ := htrustlet
        cases heq
        rfl
  dsimp only at hlinks
  split at hlinks
  · obtain ⟨deleteLink, -, heq⟩ := Option.bind_eq_some_iff.mp hlinks
    cases heq
    exact hwork
  · cases hlinks
    exact hwork

theorem requestUrl_of_exact {r : Request} (hexact : Exact addr r) :
    requestUrl addr r = some (fullUrl addr r.identifiers) := by
  obtain ⟨initialUrl, links, haddress, hlinks, htexts⟩ := hexact [] ⟨true, true, false⟩
  have hwork := workToDo_of_initialLinks rfl rfl hlinks
  rw [requestUrl, haddress]
  show (initialLinks initialUrl r ⟨true, true, false⟩).bind _ = _
  rw [hlinks]
  exact (htexts hwork).1

theorem fits_of_exact (hlength : addr.length < 2 ^ 32)
    (haccepted : checkAddress (some addr) (UInt32.ofNat addr.length) = .ok) {r : Request}
    (hexact : Exact addr r) : Fits addr r := by
  have hurl := requestUrl_of_exact hexact
  obtain ⟨hne, hshort⟩ := length_of_accepted hlength haccepted
  have hlong : addr.length ≤ 255 := by
    obtain ⟨initialUrl, -, haddress, -⟩ := hexact [] ⟨true, true, false⟩
    rw [setInitialAddress_accepted hlength haccepted] at haddress
    split at haddress
    · assumption
    · cases haddress
  have haddr : 0 ∉ addr := by
    simp only [requestUrl, Option.bind_eq_bind, Option.bind_eq_some_iff] at hurl
    obtain ⟨-, -, links, -, htext⟩ := hurl
    intro hmem
    apply nul_not_mem_of_text htext
    rw [fullUrl, List.append_assoc, List.append_assoc]
    exact List.mem_append_left _ hmem
  have hbasic := zero_not_mem_basic haddr r.suid
  have hkept : 0 ∉ addr ++ bytesText false 0 r.suid.toList ++ keptSpid r := by
    rw [List.mem_append, not_or]
    exact ⟨hbasic, zero_not_mem_keptSpid r⟩
  have hfive := length_keptSpid r
  rw [requestUrl, setInitialAddress_accepted hlength haccepted, if_pos hlong] at hurl
  replace hurl : (initialLinks (filled 0 addr (255 - addr.length)) r ⟨true, true, false⟩).bind
      (fun links => text 0 links.link) = some (fullUrl addr r.identifiers) := hurl
  rw [initialLinks_filled haddr hne (by omega)] at hurl
  have hroom : Room r := by
    rw [Room]
    cases htlt : r.tltUuid with
    | none =>
        -- the text that was kept is the whole one
        rw [htlt, linkWithTrustlet, Option.map_some, Option.bind_some] at hurl
        replace hurl : text 0 (filled 0 (addr ++ bytesText false 0 r.suid.toList ++ keptSpid r)
            (46 - (keptSpid r).length)) = some (fullUrl addr r.identifiers) := hurl
        rw [text_filled hkept (by omega), fullUrl, Request.identifiers, htlt, uuidText,
          List.append_nil, Option.some.injEq] at hurl
        rw [if_pos rfl, ← List.append_cancel_left hurl]
        exact hfive
    | some uuid =>
        rw [htlt, linkWithTrustlet_filled hkept (by omega) uuid rfl] at hurl
        split at hurl
        · replace hurl : text 0 (filled 0 (addr ++ bytesText false 0 r.suid.toList ++
              keptSpid r ++ uuidText (some uuid)) (46 - (keptSpid r).length - 37)) =
                some (fullUrl addr r.identifiers) := hurl
          have huuid : 0 ∉ addr ++ bytesText false 0 r.suid.toList ++ keptSpid r ++
              uuidText (some uuid) := by
            rw [List.mem_append, not_or]
            exact ⟨hkept, zero_not_mem_uuidText _⟩
          rw [if_neg (by simp)]
          by_cases hlast : 0 < 46 - (keptSpid r).length - 37
          · rw [text_filled huuid hlast, fullUrl, Request.identifiers, htlt,
              Option.some.injEq] at hurl
            have hwhole := List.append_cancel_left (List.append_cancel_right hurl)
            rw [← hwhole]
            omega
          · -- the text fills its block
            have hzero : 46 - (keptSpid r).length - 37 = 0 := by omega
            rw [hzero, text_filled_zero huuid] at hurl
            cases hurl
        · cases hurl
  obtain ⟨hspid, htrustlet⟩ := (room_iff r).mp hroom
  exact ⟨by omega, haddr, hspid, htrustlet⟩

end Links

/-- The links of a request fit and are exact when the address is a string that fits and the text of
the SPID is short enough; the links of different requests to one address differ then. -/
theorem exact_iff (addr : List UInt8) (hlength : addr.length < 2 ^ 32)
    (haccepted : checkAddress (some addr) (UInt32.ofNat addr.length) = .ok) (r : Request) :
    (Exact addr r ↔ Fits addr r) ∧
      (Fits addr r → ∀ r', Fits addr r' → r.identifiers ≠ r'.identifiers →
        requestUrl addr r ≠ requestUrl addr r') := by
  refine ⟨⟨fits_of_exact hlength haccepted, exact_of_fits hlength haccepted⟩, ?_⟩
  intro hfits r' hfits' hdiffer heq
  rw [requestUrl_of_exact (exact_of_fits hlength haccepted hfits),
    requestUrl_of_exact (exact_of_fits hlength haccepted hfits'), Option.some.injEq] at heq
  exact hdiffer (fullUrl_inj heq)

/-! ## Long numbers -/

def someAddress : List UInt8 :=
  bytesOf "https://se/"

/-- A request for an SPID, with the identifier of a trustlet or without. -/
def someRequest (spid : UInt32) (tltUuid : Option (Vector UInt8 16)) : Request :=
  ⟨Vector.replicate 16 0xAB, spid, .post, tltUuid⟩

theorem exact_iff_sevenDigits :
    (Exact someAddress (someRequest 1234567 (some (Vector.replicate 16 0))) ↔
        Fits someAddress (someRequest 1234567 (some (Vector.replicate 16 0)))) ∧
      (Fits someAddress (someRequest 1234567 (some (Vector.replicate 16 0))) →
        ∀ r', Fits someAddress r' →
          (someRequest 1234567 (some (Vector.replicate 16 0))).identifiers ≠ r'.identifiers →
          requestUrl someAddress (someRequest 1234567 (some (Vector.replicate 16 0))) ≠
            requestUrl someAddress r') :=
  exact_iff someAddress (by decide) (by decide) _

theorem not_exact_spid :
    requestUrl someAddress (someRequest 0x80000000 none) =
      requestUrl someAddress (someRequest 0x80000001 none) := by
  decide +kernel

/-- Behind an SPID of nine digits the UUID is written beyond the end of the block. -/
theorem not_exact_trustlet :
    ¬ ∀ addr : List UInt8, addr.length < 2 ^ 32 →
      checkAddress (some addr) (UInt32.ofNat addr.length) = .ok → ∀ r, Exact addr r := by
  intro h
  obtain ⟨initialUrl, links, haddress, hlinks, -⟩ := h someAddress (by decide) (by decide)
    (someRequest 123456789 (some (Vector.replicate 16 0))) [] ⟨true, true, false⟩
  have hurl : (setInitialAddress [] (some someAddress) (UInt32.ofNat someAddress.length)).bind
      (fun p => initialLinks p.2 (someRequest 123456789 (some (Vector.replicate 16 0)))
        ⟨true, true, false⟩ |>.map fun links => links.workToDo) = none := by
    decide +kernel
  rw [haddress, Option.bind_some, hlinks] at hurl
  cases hurl

end Exynos8890.RootPa.InitialUrl
