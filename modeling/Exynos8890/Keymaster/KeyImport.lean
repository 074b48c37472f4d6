import Exynos8890.Keymaster.KeymasterHal
import Exynos8890.Library.BoundedString

/-!
# Importing a key pair

The components of an RSA key are written one behind the other into a buffer of fixed size, behind
the place of the metadata, which records their lengths.  Only the length of the modulus is
compared, when it has been written.

Main results:

- Definition `exynosKmImportKeypair`: without a result where a write leaves the buffer.
- Theorem `appendBn_spec`: what a component adds to the buffer.
- Theorem `importRsa_of_fits`: what the trustlet gets, and that the metadata records it.
- Theorem `importKey_contained_iff`: when no write leaves the buffer.
- Theorem `not_importKey_contained`: a modulus of 2048 bytes.
-/

namespace Exynos8890.Keymaster

open MobiCore MobiCore.ClientLib BoundedString

/-- `TEE_KEYPAIR_RSA`. -/
def teeKeypairRsa : UInt32 := 1

/-! ## Keys -/

/-- `BN_bn2bin`: the bytes of a number, without leading zeros. -/
def bn2bin (bn : Nat) : List UInt8 :=
  ((Nat.digits 256 bn).map UInt8.ofNat).reverse

/-- The components that the Chinese remainder theorem needs. -/
structure RsaCrt where
  p : Nat
  q : Nat
  dmp1 : Nat
  dmq1 : Nat
  iqmp : Nat
deriving DecidableEq, Repr

/-- A private key of libcrypto; without one of the five components of `RsaCrt` none is used. -/
structure Rsa where
  n : Nat
  e : Nat
  d : Nat
  crt : Option RsaCrt
deriving DecidableEq, Repr

/-- What libcrypto makes of the input: nothing, or a key of some type. -/
inductive ParsedKey where
  | noPkcs8
  | noPkey
  | otherType
  | rsa (rsa : Rsa)
deriving DecidableEq, Repr

/-- `teeRsaKeyMeta_t`; `lenpriexp` and `lenp` share a word. -/
structure TeeRsaKeyMeta where
  keytype : UInt32
  keysize : UInt32
  lenpubmod : UInt32
  lenpubexp : UInt32
  lenprimod : UInt32
  lenp : UInt32
  lenq : UInt32
  lendp : UInt32
  lendq : UInt32
  lenqinv : UInt32
  rfu : UInt32
  rfulen : UInt32
deriving DecidableEq, Repr

namespace TeeRsaKeyMeta

def words (metadata : TeeRsaKeyMeta) : List UInt32 :=
  [metadata.keytype, metadata.keysize, metadata.lenpubmod, metadata.lenpubexp, metadata.lenprimod,
    metadata.lenp, metadata.lenq, metadata.lendp, metadata.lendq, metadata.lenqinv, metadata.rfu,
    metadata.rfulen]

/-- The bytes of the structure. -/
def bytes (metadata : TeeRsaKeyMeta) : List UInt8 :=
  metadata.words.flatMap fun word => CStruct.littleEndian 4 word.toNat

/-- The lengths that are recorded for a type of key. -/
def lengths (metadata : TeeRsaKeyMeta) : List UInt32 :=
  if metadata.keytype = teeKeypairRsacrt then
    [metadata.lenpubmod, metadata.lenpubexp, metadata.lenp, metadata.lenq, metadata.lendp,
      metadata.lendq, metadata.lenqinv]
  else [metadata.lenpubmod, metadata.lenpubexp, metadata.lenp]

end TeeRsaKeyMeta

/-- `sizeof(metadata)`. -/
def sizeofMetadata : UInt32 := 48

theorem length_bytes (metadata : TeeRsaKeyMeta) : metadata.bytes.length = 48 := by
  simp [TeeRsaKeyMeta.bytes, TeeRsaKeyMeta.words]

/-! ## The buffer -/

/-- `kbuf` and `key_len`. -/
structure KeyBuffer where
  kbuf : List UInt8
  keyLen : UInt32
deriving DecidableEq, Repr

/-- Write a component behind the others, with its length. -/
def appendBn (bn : Nat) (k : KeyBuffer) : Option (UInt32 × KeyBuffer) := do
  let kbuf ← writeAt k.kbuf k.keyLen.toNat (bn2bin bn)
  let len := UInt32.ofNat (bn2bin bn).length
  some (len, ⟨kbuf, k.keyLen + len⟩)

/-- The size of the key for a length of the modulus. -/
def keysizeOf (lenpubmod : UInt32) : Option UInt32 :=
  if lenpubmod = 64 then some 512
  else if lenpubmod = 128 then some 1024
  else if lenpubmod = 256 then some 2048
  else none

/-- The private components, with the metadata that is known by then. -/
def appendPrivate (rsa : Rsa) (metadata : TeeRsaKeyMeta) (k : KeyBuffer) :
    Option (TeeRsaKeyMeta × KeyBuffer) :=
  match rsa.crt with
  | some crt => do
      let (lenp, k) ← appendBn crt.p k
      let (lenq, k) ← appendBn crt.q k
      let (lendp, k) ← appendBn crt.dmp1 k
      let (lendq, k) ← appendBn crt.dmq1 k
      let (lenqinv, k) ← appendBn crt.iqmp k
      some ({ metadata with keytype := teeKeypairRsacrt, lenp := lenp, lenq := lenq
                            lendp := lendp, lendq := lendq, lenqinv := lenqinv }, k)
  | none => do
      let (lenpriexp, k) ← appendBn rsa.d k
      some ({ metadata with keytype := teeKeypairRsa, lenp := lenpriexp }, k)

/-- What happens during an import: the addresses of the two buffers, and the answers to the TEE
operation. -/
structure ImportAnswers where
  kbufPtr : UInt64
  outPtr : UInt64
  tee : TeeAnswers

/-- What an import comes to, with the buffer and the metadata that the TEE is given. -/
structure ImportOutcome where
  code : Int
  handed : Option (TeeRsaKeyMeta × KeyBuffer)
  process : Process

def ImportOutcome.failed (p : Process) : ImportOutcome where
  code := -1
  handed := none
  process := p

/-- The key behind its checks; `kbuf` and `metadata` are not initialised. -/
def importRsa (rsa : Rsa) (kbuf : List UInt8) (metadata : TeeRsaKeyMeta) (answers : ImportAnswers)
    (p : Process) : Option ImportOutcome := do
  let (lenpubmod, k) ← appendBn rsa.n ⟨kbuf, sizeofMetadata⟩
  match keysizeOf lenpubmod with
  | none => some (.failed p)
  | some keysize => do
      let (lenpubexp, k) ← appendBn rsa.e k
      let metadata := { metadata with lenpubmod := lenpubmod, keysize := keysize
                                      lenpubexp := lenpubexp }
      let (metadata, k) ← appendPrivate rsa metadata k
      let metadata := { metadata with rfu := 0, rfulen := 0 }
      let kbuf ← writeAt k.kbuf 0 metadata.bytes
      if answers.outPtr = 0 then some (.failed p)
      else
        let operation := teeKeyImport answers.kbufPtr k.keyLen answers.outPtr
          rsaKeyBufferSize.toUInt64
        match operation.run answers.tee p with
        | (ret, _, p) => some ⟨if ret ≠ .errNone then -1 else 0,
            some (metadata, ⟨kbuf, k.keyLen⟩), p⟩

/-- `exynos_km_import_keypair`. -/
def exynosKmImportKeypair (key : UInt64) (parsed : ParsedKey) (keyBlob keyBlobLength : UInt64)
    (kbuf : List UInt8) (metadata : TeeRsaKeyMeta) (answers : ImportAnswers) (p : Process) :
    Option ImportOutcome :=
  if key = 0 then some (.failed p)
  else if keyBlob = 0 ∨ keyBlobLength = 0 then some (.failed p)
  else
    match parsed with
    | .noPkcs8 => some (.failed p)
    | .noPkey => some (.failed p)
    | .otherType => some (.failed p)
    | .rsa rsa => importRsa rsa kbuf metadata answers p

/-! ## What the buffer holds -/

/-- The place of the metadata, and behind it these components. -/
def Holds (k : KeyBuffer) (parts : List (List UInt8)) : Prop :=
  ∃ front back, front.length = 48 ∧ k.kbuf = front ++ parts.flatten ++ back ∧
    k.kbuf.length = 1536 ∧ k.keyLen.toNat = 48 + parts.flatten.length

/-- Components one behind the other, with their lengths. -/
def appendAll : List Nat → KeyBuffer → Option (List UInt32 × KeyBuffer)
  | [], k => some ([], k)
  | bn :: bns, k => do
      let (len, k) ← appendBn bn k
      let (lens, k) ← appendAll bns k
      some (len :: lens, k)

section Buffer

variable {k k' : KeyBuffer} {parts : List (List UInt8)}

theorem Holds.le (h : Holds k parts) : 48 + parts.flatten.length ≤ 1536 := by
  obtain ⟨front, back, hfront, hkbuf, hlength, -⟩ := h
  rw [hkbuf, List.length_append, List.length_append, hfront] at hlength
  omega

theorem appendBn_of_le (h : Holds k parts) {bn : Nat}
    (hle : 48 + parts.flatten.length + (bn2bin bn).length ≤ 1536) :
    ∃ len k', appendBn bn k = some (len, k') ∧ len.toNat = (bn2bin bn).length ∧
      Holds k' (parts ++ [bn2bin bn]) := by
  obtain ⟨front, back, hfront, hkbuf, hlength, hkeyLen⟩ := h
  have hlen : (UInt32.ofNat (bn2bin bn).length).toNat = (bn2bin bn).length := by
    rw [UInt32.toNat_ofNat']
    exact Nat.mod_eq_of_lt (by omega)
  let kbuf := front ++ parts.flatten ++ bn2bin bn ++ back.drop (bn2bin bn).length
  have hwrite : writeAt k.kbuf k.keyLen.toNat (bn2bin bn) = some kbuf := by
    have hprefix : (front ++ parts.flatten).length = k.keyLen.toNat := by
      rw [List.length_append, hfront, hkeyLen]
    rw [writeAt, if_pos (by omega), hkbuf, List.take_left' hprefix, ← hprefix,
      List.drop_length_add_append]
  have hflatten : (parts ++ [bn2bin bn]).flatten = parts.flatten ++ bn2bin bn := by
    rw [List.flatten_append, List.flatten_singleton]
  refine ⟨_, ⟨kbuf, k.keyLen + UInt32.ofNat (bn2bin bn).length⟩, ?_, hlen, front,
    back.drop (bn2bin bn).length, hfront, ?_, (length_writeAt hwrite).trans hlength, ?_⟩
  · rw [appendBn, hwrite]
    rfl
  · rw [hflatten, ← List.append_assoc]
  · rw [UInt32.toNat_add, hlen, hkeyLen, hflatten, List.length_append]
    omega

theorem appendBn_of_gt (h : Holds k parts) {bn : Nat}
    (hgt : 1536 < 48 + parts.flatten.length + (bn2bin bn).length) : appendBn bn k = none := by
  obtain ⟨front, back, -, -, hlength, hkeyLen⟩ := h
  rw [appendBn, writeAt, if_neg (by omega)]
  rfl

/-- Components that fit together stand behind the others. -/
theorem appendAll_of_le (h : Holds k parts) (bns : List Nat)
    (hle : 48 + (parts ++ bns.map bn2bin).flatten.length ≤ 1536) :
    ∃ lens k', appendAll bns k = some (lens, k') ∧
      lens.map UInt32.toNat = (bns.map bn2bin).map List.length ∧
      Holds k' (parts ++ bns.map bn2bin) := by
  induction bns generalizing k parts with
  | nil => exact ⟨[], k, rfl, rfl, by simpa using h⟩
  | cons bn bns ih =>
      have hsplit : parts ++ (bn :: bns).map bn2bin = (parts ++ [bn2bin bn]) ++ bns.map bn2bin := by
        rw [List.map_cons, List.append_assoc, List.singleton_append]
      rw [hsplit] at hle ⊢
      have hfirst : 48 + parts.flatten.length + (bn2bin bn).length ≤ 1536 := by
        rw [List.flatten_append, List.length_append, List.flatten_append, List.length_append,
          List.flatten_singleton] at hle
        omega
      obtain ⟨len, k₁, happend, hlen, hholds⟩ := appendBn_of_le h hfirst
      obtain ⟨lens, k₂, hrest, hlens, hall⟩ := ih hholds hle
      refine ⟨len :: lens, k₂, ?_, ?_, hall⟩
      · simp only [appendAll, happend, hrest, Option.bind_eq_bind, Option.bind_some]
      · rw [List.map_cons, hlen, hlens]
        rfl

theorem appendAll_of_gt (h : Holds k parts) (bns : List Nat)
    (hgt : 1536 < 48 + (parts ++ bns.map bn2bin).flatten.length) : appendAll bns k = none := by
  induction bns generalizing k parts with
  | nil =>
      rw [List.map_nil, List.append_nil] at hgt
      exact absurd h.le (Nat.not_le.mpr hgt)
  | cons bn bns ih =>
      have hsplit : parts ++ (bn :: bns).map bn2bin = (parts ++ [bn2bin bn]) ++ bns.map bn2bin := by
        rw [List.map_cons, List.append_assoc, List.singleton_append]
      rw [hsplit] at hgt
      by_cases hfirst : 48 + parts.flatten.length + (bn2bin bn).length ≤ 1536
      · obtain ⟨len, k₁, happend, -, hholds⟩ := appendBn_of_le h hfirst
        simp only [appendAll, happend, ih hholds hgt, Option.bind_eq_bind, Option.bind_some,
          Option.bind_none]
      · rw [appendAll, appendBn_of_gt h (Nat.not_le.mp hfirst)]
        rfl

end Buffer

/-! ## Keys that fit -/

namespace Rsa

/-- The private components that are written. -/
def privates (rsa : Rsa) : List Nat :=
  match rsa.crt with
  | some crt => [crt.p, crt.q, crt.dmp1, crt.dmq1, crt.iqmp]
  | none => [rsa.d]

/-- The bytes of the components that are written. -/
def parts (rsa : Rsa) : List (List UInt8) :=
  (rsa.n :: rsa.e :: rsa.privates).map bn2bin

/-- The metadata with the lengths of the private components. -/
def record (rsa : Rsa) (metadata : TeeRsaKeyMeta) (lens : List UInt32) : TeeRsaKeyMeta :=
  match rsa.crt with
  | some _ => { metadata with keytype := teeKeypairRsacrt, lenp := lens.getD 0 0
                              lenq := lens.getD 1 0, lendp := lens.getD 2 0
                              lendq := lens.getD 3 0, lenqinv := lens.getD 4 0 }
  | none => { metadata with keytype := teeKeypairRsa, lenp := lens.getD 0 0 }

theorem appendPrivate_eq (rsa : Rsa) (metadata : TeeRsaKeyMeta) (k : KeyBuffer) :
    appendPrivate rsa metadata k =
      (appendAll rsa.privates k).map fun r => (rsa.record metadata r.1, r.2) := by
  cases hcrt : rsa.crt with
  | none =>
      simp only [appendPrivate, privates, record, hcrt, appendAll]
      cases appendBn rsa.d k with
      | none => rfl
      | some r => rfl
  | some crt =>
      simp only [appendPrivate, privates, record, hcrt, appendAll]
      cases appendBn crt.p k with
      | none => rfl
      | some r₁ =>
          dsimp only [Option.bind_eq_bind, Option.bind_some]
          cases appendBn crt.q r₁.2 with
          | none => rfl
          | some r₂ =>
              dsimp only [Option.bind_some]
              cases appendBn crt.dmp1 r₂.2 with
              | none => rfl
              | some r₃ =>
                  dsimp only [Option.bind_some]
                  cases appendBn crt.dmq1 r₃.2 with
                  | none => rfl
                  | some r₄ =>
                      dsimp only [Option.bind_some]
                      cases appendBn crt.iqmp r₄.2 with
                      | none => rfl
                      | some r₅ => rfl

theorem lengths_record (rsa : Rsa) (metadata : TeeRsaKeyMeta) {lens : List UInt32}
    (hlens : lens.length = rsa.privates.length) :
    (rsa.record metadata lens).lengths = metadata.lenpubmod :: metadata.lenpubexp :: lens := by
  cases hcrt : rsa.crt with
  | none =>
      rw [privates, hcrt] at hlens
      obtain ⟨lenpriexp, rfl⟩ := List.length_eq_one_iff.mp hlens
      simp only [record, hcrt]
      rfl
  | some crt =>
      rw [privates, hcrt] at hlens
      match lens, hlens with
      | [lenp, lenq, lendp, lendq, lenqinv], _ =>
        simp only [record, hcrt]
        rfl

theorem length_parts (rsa : Rsa) :
    rsa.parts.flatten.length = (bn2bin rsa.n).length + (bn2bin rsa.e).length +
      (rsa.privates.map bn2bin).flatten.length := by
  rw [parts, List.map_cons, List.map_cons, List.flatten_cons, List.flatten_cons, List.length_append,
    List.length_append, Nat.add_assoc]

/-- The length of the modulus is supported. -/
def Supported (rsa : Rsa) : Prop :=
  (bn2bin rsa.n).length = 64 ∨ (bn2bin rsa.n).length = 128 ∨ (bn2bin rsa.n).length = 256

/-- The modulus fits behind the metadata; and where it is supported, all components do. -/
def Fits (rsa : Rsa) : Prop :=
  (bn2bin rsa.n).length ≤ 1488 ∧ (rsa.Supported → rsa.parts.flatten.length ≤ 1488)

end Rsa

theorem keysizeOf_eq_none_iff {rsa : Rsa} {len : UInt32}
    (hlen : len.toNat = (bn2bin rsa.n).length) : keysizeOf len = none ↔ ¬ rsa.Supported := by
  have heq : ∀ m : UInt32, len = m ↔ (bn2bin rsa.n).length = m.toNat := by
    intro m
    rw [← hlen, UInt32.toNat_inj]
  have hsupported : rsa.Supported ↔ len = 64 ∨ len = 128 ∨ len = 256 :=
    or_congr (heq 64).symm (or_congr (heq 128).symm (heq 256).symm)
  rw [hsupported, keysizeOf]
  by_cases h64 : len = 64
  · simp [h64]
  by_cases h128 : len = 128
  · simp [h128]
  by_cases h256 : len = 256
  · simp [h256]
  simp [h64, h128, h256]

/-! ## What the trustlet gets -/

/-- The metadata and the components stand in the buffer, and the metadata records their lengths. -/
structure Layout (rsa : Rsa) (metadata : TeeRsaKeyMeta) (k : KeyBuffer) : Prop where
  size : k.kbuf.length = 1536
  prefix_eq : ∃ back, k.kbuf = metadata.bytes ++ rsa.parts.flatten ++ back
  keyLen : k.keyLen.toNat = 48 + rsa.parts.flatten.length
  recorded : metadata.lengths.map UInt32.toNat = rsa.parts.map List.length

section Imports

variable {rsa : Rsa} {kbuf : List UInt8} {metadata : TeeRsaKeyMeta} {answers : ImportAnswers}
  {p : Process}

theorem holds_nil (hkbuf : kbuf.length = 1536) : Holds ⟨kbuf, sizeofMetadata⟩ [] := by
  refine ⟨kbuf.take 48, kbuf.drop 48, ?_, ?_, hkbuf, rfl⟩
  · rw [List.length_take]
    omega
  · simp

/-- The metadata takes its place in front of the components. -/
theorem writeAt_metadata {k : KeyBuffer} (h : Holds k rsa.parts)
    (hrecorded : metadata.lengths.map UInt32.toNat = rsa.parts.map List.length) :
    ∃ kbuf, writeAt k.kbuf 0 metadata.bytes = some kbuf ∧ Layout rsa metadata ⟨kbuf, k.keyLen⟩ := by
  obtain ⟨front, back, hfront, hkbuf, hlength, hkeyLen⟩ := h
  have hfits : 0 + metadata.bytes.length ≤ k.kbuf.length := by
    rw [length_bytes, hlength]
    omega
  have hwrite : writeAt k.kbuf 0 metadata.bytes =
      some (metadata.bytes ++ rsa.parts.flatten ++ back) := by
    rw [writeAt, if_pos hfits, hkbuf, List.take_zero, List.nil_append, length_bytes, Nat.zero_add,
      List.append_assoc front, List.drop_left' hfront, List.append_assoc]
  exact ⟨_, hwrite, (length_writeAt hwrite).trans hlength, ⟨back, rfl⟩, hkeyLen, hrecorded⟩

theorem appendBn_modulus (hkbuf : kbuf.length = 1536) (hmodulus : (bn2bin rsa.n).length ≤ 1488) :
    ∃ lenpubmod k, appendBn rsa.n ⟨kbuf, sizeofMetadata⟩ = some (lenpubmod, k) ∧
      lenpubmod.toNat = (bn2bin rsa.n).length ∧ Holds k [bn2bin rsa.n] := by
  apply appendBn_of_le (holds_nil hkbuf)
  rw [List.flatten_nil, List.length_nil]
  omega

/-- A key that fits is imported, or refused for its size, or for want of memory. -/
theorem importRsa_of_fits (hkbuf : kbuf.length = 1536) (hfits : rsa.Fits) :
    ∃ outcome, importRsa rsa kbuf metadata answers p = some outcome ∧
      ∀ handed ∈ outcome.handed, Layout rsa handed.1 handed.2 := by
  obtain ⟨hmodulus, hall⟩ := hfits
  obtain ⟨lenpubmod, k₁, hn, hlenpubmod, hholds₁⟩ := appendBn_modulus hkbuf hmodulus
  rw [importRsa, hn]
  dsimp only [Option.bind_eq_bind, Option.bind_some]
  cases hkeysize : keysizeOf lenpubmod with
  | none =>
      exact ⟨.failed p, rfl, fun handed hhanded => absurd hhanded (Option.not_mem_none handed)⟩
  | some keysize =>
      have hsupported : rsa.Supported := by
        by_contra hnot
        rw [(keysizeOf_eq_none_iff hlenpubmod).mpr hnot] at hkeysize
        cases hkeysize
      have htotal := hall hsupported
      have hlengths := rsa.length_parts
      obtain ⟨lenpubexp, k₂, he, hlenpubexp, hholds₂⟩ :=
        @appendBn_of_le k₁ [bn2bin rsa.n] hholds₁ rsa.e (by
          rw [List.flatten_singleton]
          omega)
      have hparts : [bn2bin rsa.n] ++ [bn2bin rsa.e] ++ rsa.privates.map bn2bin = rsa.parts := rfl
      obtain ⟨lens, k₃, hprivates, hlens, hholds₃⟩ :=
        appendAll_of_le hholds₂ rsa.privates (by
          rw [hparts]
          omega)
      rw [hparts] at hholds₃
      have hlength : lens.length = rsa.privates.length := by
        simpa using congrArg List.length hlens
      let recorded := rsa.record { metadata with lenpubmod := lenpubmod, keysize := keysize
                                                 lenpubexp := lenpubexp } lens
      have hlens' : TeeRsaKeyMeta.lengths { recorded with rfu := 0, rfulen := 0 } =
          lenpubmod :: lenpubexp :: lens := rsa.lengths_record _ hlength
      have hrecorded : (TeeRsaKeyMeta.lengths { recorded with rfu := 0, rfulen := 0 }).map
          UInt32.toNat = rsa.parts.map List.length := by
        rw [hlens', List.map_cons, List.map_cons, hlenpubmod, hlenpubexp, hlens]
        rfl
      obtain ⟨kbuf', hwrite, hlayout⟩ := writeAt_metadata hholds₃ hrecorded
      dsimp only
      rw [he, Option.bind_some]
      dsimp only
      rw [Rsa.appendPrivate_eq, hprivates, Option.map_some, Option.bind_some]
      dsimp only
      rw [hwrite, Option.bind_some]
      split
      · exact ⟨.failed _, rfl, fun handed hhanded => absurd hhanded (Option.not_mem_none handed)⟩
      · refine ⟨_, rfl, fun handed hhanded => ?_⟩
        cases hhanded
        exact hlayout

/-- A write of a key that does not fit leaves the buffer. -/
theorem importRsa_of_not_fits (hkbuf : kbuf.length = 1536) (hfits : ¬ rsa.Fits) :
    importRsa rsa kbuf metadata answers p = none := by
  by_cases hmodulus : (bn2bin rsa.n).length ≤ 1488
  · obtain ⟨lenpubmod, k₁, hn, hlenpubmod, hholds₁⟩ := appendBn_modulus hkbuf hmodulus
    obtain ⟨hsupported, htotal⟩ : rsa.Supported ∧ ¬ rsa.parts.flatten.length ≤ 1488 := by
      by_contra hnot
      exact hfits ⟨hmodulus, fun hsupported => by
        by_contra htotal
        exact hnot ⟨hsupported, htotal⟩⟩
    rw [importRsa, hn]
    dsimp only [Option.bind_eq_bind, Option.bind_some]
    cases hkeysize : keysizeOf lenpubmod with
    | none => exact absurd hsupported ((keysizeOf_eq_none_iff hlenpubmod).mp hkeysize)
    | some keysize =>
        dsimp only
        by_cases hexponent : 48 + [bn2bin rsa.n].flatten.length + (bn2bin rsa.e).length ≤ 1536
        · obtain ⟨lenpubexp, k₂, he, -, hholds₂⟩ := appendBn_of_le hholds₁ hexponent
          have hparts : [bn2bin rsa.n] ++ [bn2bin rsa.e] ++ rsa.privates.map bn2bin = rsa.parts :=
            rfl
          have hprivates := appendAll_of_gt hholds₂ rsa.privates (by
            rw [hparts]
            omega)
          rw [he, Option.bind_some]
          dsimp only
          rw [Rsa.appendPrivate_eq, hprivates]
          rfl
        · rw [appendBn_of_gt hholds₁ (Nat.not_le.mp hexponent)]
          rfl
  · rw [importRsa, appendBn_of_gt (holds_nil hkbuf)]
    · rfl
    · rw [List.flatten_nil, List.length_nil]
      omega

end Imports

/-! ## Keys that are imported -/

/-- For every content of the uninitialised memory and whatever happens, an import stays inside its
buffer, and what it hands to the trustlet is the key with its recorded lengths. -/
def Contained (parsed : ParsedKey) : Prop :=
  ∀ (key keyBlob keyBlobLength : UInt64) (kbuf : List UInt8) (metadata : TeeRsaKeyMeta)
    (answers : ImportAnswers) (p : Process), kbuf.length = 1536 →
    ∃ outcome, exynosKmImportKeypair key parsed keyBlob keyBlobLength kbuf metadata answers p =
        some outcome ∧
      ∀ handed ∈ outcome.handed, ∃ rsa, parsed = .rsa rsa ∧ Layout rsa handed.1 handed.2

/-- Metadata of zeros. -/
def zeros : TeeRsaKeyMeta where
  keytype := 0
  keysize := 0
  lenpubmod := 0
  lenpubexp := 0
  lenprimod := 0
  lenp := 0
  lenq := 0
  lendp := 0
  lendq := 0
  lenqinv := 0
  rfu := 0
  rfulen := 0

/-- A write of a key that does not fit leaves the buffer, whatever is in it. -/
theorem not_importKey_contained_of_not_fits {rsa : Rsa} (hfits : ¬ rsa.Fits) :
    ¬ Contained (.rsa rsa) := by
  intro hcontained
  have hsize : (List.replicate 1536 (0 : UInt8)).length = 1536 := List.length_replicate
  obtain ⟨outcome, hrun, -⟩ :=
    hcontained 1 1 1 _ zeros ⟨0x10000, 0x20000, allSucceeds⟩ Process.init hsize
  have himport : importRsa rsa (List.replicate 1536 0) zeros ⟨0x10000, 0x20000, allSucceeds⟩
      Process.init = some outcome := hrun
  rw [importRsa_of_not_fits hsize hfits] at himport
  cases himport

/-- An import stays inside its buffer if and only if the key is not an RSA key or fits. -/
theorem importKey_contained_iff (parsed : ParsedKey) :
    Contained parsed ↔ ∀ rsa, parsed = .rsa rsa → rsa.Fits := by
  constructor
  · rintro hcontained rsa rfl
    by_contra hfits
    exact not_importKey_contained_of_not_fits hfits hcontained
  · intro hfits key keyBlob keyBlobLength kbuf metadata answers p hkbuf
    have hfailed : ∃ outcome, some (ImportOutcome.failed p) = some outcome ∧
        ∀ handed ∈ outcome.handed, ∃ rsa, parsed = .rsa rsa ∧ Layout rsa handed.1 handed.2 :=
      ⟨_, rfl, fun handed hhanded => absurd hhanded (Option.not_mem_none handed)⟩
    unfold exynosKmImportKeypair
    split
    · exact hfailed
    split
    · exact hfailed
    cases parsed with
    | noPkcs8 => exact hfailed
    | noPkey => exact hfailed
    | otherType => exact hfailed
    | rsa rsa =>
        obtain ⟨outcome, hrun, hlayout⟩ := importRsa_of_fits hkbuf (hfits rsa rfl)
        exact ⟨outcome, hrun, fun handed hhanded => ⟨rsa, rfl, hlayout handed hhanded⟩⟩

theorem length_bn2bin_pow (k : Nat) : (bn2bin (256 ^ k)).length = k + 1 := by
  have hpos : 256 ^ k ≠ 0 := pow_ne_zero k (by norm_num)
  rw [bn2bin, List.length_reverse, List.length_map, Nat.length_digits 256 _ (by norm_num) hpos,
    Nat.log_pow (by norm_num)]

/-- A modulus of 16384 bits is written before its length is compared. -/
theorem not_importKey_contained :
    ¬ Contained (.rsa ⟨256 ^ 2047, 65537, 3, some ⟨3, 5, 7, 11, 13⟩⟩) := by
  apply not_importKey_contained_of_not_fits
  rintro ⟨hmodulus, -⟩
  rw [length_bn2bin_pow] at hmodulus
  omega

end Exynos8890.Keymaster
