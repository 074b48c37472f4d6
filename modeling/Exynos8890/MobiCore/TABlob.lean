import Exynos8890.MobiCore.RegistryPaths
import Exynos8890.MobiCore.ServiceBlob

/-!
# The checks of a TA blob

`mcRegistryStoreTABlob` stores the binary of a trusted application under a uuid that it takes
from the header of the binary, or from an attestation whose place and length stand in the
binary, too.

Main results:

- Definition `checkTABlob`: the checks, with everything that is read for them.
- Theorem `validated_iff`: when nothing outside the blob is read, and the attestation of a
  blob that is accepted lies in it.
- Theorem `not_validated`: an attestation that claims a length of nearly 4 GiB.
-/

namespace Exynos8890.MobiCore

namespace TABlob

open CStruct ServiceBlob

/-! ## Structures -/

/-- `mcSuid_t`. -/
def mcSuid : CType :=
  .struct [u32, byteArray 12]

/-- `mclfIntro_t`: magic value and version. -/
def mclfIntro : List CType :=
  [u32, u32]

/-- `mclfHeaderV23_t`: header, permitted suid, permitted hardware configuration. -/
def mclfHeaderV23 (p : PointerWidth) : List CType :=
  [.struct (mclfHeaderV2 p), mcSuid, u32]

/-- `mclfHeaderV24_t`: header, GP level, offset of the attestation. -/
def mclfHeaderV24 (p : PointerWidth) : List CType :=
  [.struct (mclfHeaderV23 p), u32, u32]

/-- `uint16_t`. -/
def u16 : CType := ⟨2, 2⟩

/-- `uuid_public_key`, without the key material: type, sizes of modulus and exponent. -/
def uuidPublicKey : List CType :=
  [u32, u16, u16]

/-- `uuid_attestation`: magic value, size, version, uuid, key. -/
def uuidAttestation : List CType :=
  [byteArray 8, u32, u32, byteArray uuidLength, .struct uuidPublicKey]

/-- `sizeof(uuid_attestation)`. -/
def uuidAttestationSize : Nat := CStruct.sizeOf uuidAttestation

theorem uuidAttestationSize_eq : uuidAttestationSize = 40 := by
  decide

/-- `MAGIC`: the text TAUUID, filled up with zeros. -/
def attestationMagic : List UInt8 := [0x54, 0x41, 0x55, 0x55, 0x49, 0x44, 0, 0]

/-- `AT_VERSION`. -/
def atVersion : UInt32 := 1

/-- `MC_SPID_SYSTEM`. -/
def mcSpidSystem : UInt32 := 0xFFFFFFFE

/-- `MC_MAKE_VERSION`. -/
def mcMakeVersion (major minor : UInt32) : UInt32 :=
  ((major &&& 0xFFFF) <<< 16) ||| (minor &&& 0xFFFF)

/-- `getAsUint32BE`. -/
def getAsUint32BE (off : Nat) (m : Memory) : UInt32 :=
  UInt32.ofNat (ofLittleEndian (load ⟨off, 4⟩ m).reverse)

/-! ## The header -/

section Header

variable (p : PointerWidth) (blob : Memory)

/-- `header20->intro.version`. -/
def versionRegion : Region :=
  ⟨(member (mclfHeaderV2 p) 0).off + (member mclfIntro 1).off, u32.size⟩

/-- `header24->gp_level`. -/
def gpLevelRegion : Region :=
  member (mclfHeaderV24 p) 1

/-- `header20->serviceType`. -/
def serviceTypeRegion : Region :=
  member (mclfHeaderV2 p) 3

/-- `header20->uuid`. -/
def uuidRegion : Region :=
  member (mclfHeaderV2 p) 5

/-- `header24->attestationOffset`. -/
def attestationOffsetRegion : Region :=
  member (mclfHeaderV24 p) 2

def headerVersion : UInt32 := u32At blob (versionRegion p).off
def gpLevel : UInt32 := u32At blob (gpLevelRegion p).off
def attestationOffset : UInt32 := u32At blob (attestationOffsetRegion p).off

/-- A member of the attestation at `pUa`. -/
def attestationRegion (i : Nat) : Region :=
  ⟨(attestationOffset p blob).toNat + (member uuidAttestation i).off,
    (member uuidAttestation i).size⟩

/-- `getAsUint32BE(&pUa->size)`. -/
def attestationSize : UInt32 := getAsUint32BE (attestationRegion p blob 1).off blob

/-- `getAsUint32BE(&pUa->version)`. -/
def attestationVersion : UInt32 := getAsUint32BE (attestationRegion p blob 2).off blob

end Header

/-! ## The checks -/

/-- The end of the checks: an error, or the uuid under which the blob is stored, and the
regions that were read on the way. -/
structure BlobCheck where
  ret : Except McResult McUuid
  reads : List Region

/-- The uuid that `memcpy` takes from a region of 16 bytes. -/
def uuidAt (off : Nat) (blob : Memory) : McUuid :=
  ⟨load ⟨off, uuidLength⟩ blob, length_load _ _⟩

/-- The checks of the attestation. -/
def checkAttestation (p : PointerWidth) (blob : Memory) (size : UInt32) (reads : List Region) :
    BlobCheck :=
  let offset := attestationOffset p blob
  let reads := reads ++ [attestationRegion p blob 1]
  if offset > size ∧ offset + attestationSize p blob > size then
    ⟨.error mcDrvErrTaHeaderError, reads⟩
  else if (attestationSize p blob).toNat < uuidAttestationSize then
    ⟨.error mcDrvErrTaAttestationError, reads⟩
  else
    let reads := reads ++ [attestationRegion p blob 0]
    if load (attestationRegion p blob 0) blob ≠ attestationMagic then
      ⟨.error mcDrvErrTaAttestationError, reads⟩
    else
      let reads := reads ++ [attestationRegion p blob 2]
      if attestationVersion p blob ≠ atVersion then ⟨.error mcDrvErrTaAttestationError, reads⟩
      else
        ⟨.ok (uuidAt (attestationRegion p blob 3).off blob),
          reads ++ [attestationRegion p blob 3]⟩

/-- The checks of `mcRegistryStoreTABlob`. -/
def checkTABlob (p : PointerWidth) (spid : UInt32) (blob : Memory) (size : UInt32) : BlobCheck :=
  if size.toNat < CStruct.sizeOf (mclfHeaderV24 p) then ⟨.error mcDrvErrInvalidParameter, []⟩
  else
    let reads := [versionRegion p]
    if headerVersion p blob < mcMakeVersion 2 4 then ⟨.error mcDrvErrTaHeaderError, reads⟩
    else
      let reads := reads ++ [gpLevelRegion p]
      if gpLevel p blob ≠ 1 then ⟨.error mcDrvErrTaHeaderError, reads⟩
      else
        let reads := reads ++ [serviceTypeRegion p]
        if serviceType p blob = serviceTypeSystemTrustlet then
          if spid ≠ mcSpidSystem then ⟨.error mcDrvErrInvalidParameter, reads⟩
          else ⟨.ok (uuidAt (uuidRegion p).off blob), reads ++ [uuidRegion p]⟩
        else if serviceType p blob = serviceTypeSpTrustlet then
          if spid ≥ mcSpidSystem then ⟨.error mcDrvErrInvalidParameter, reads⟩
          else checkAttestation p blob size (reads ++ [attestationOffsetRegion p])
        else ⟨.error mcDrvErrInvalidParameter, reads⟩

/-! ## Staying in the blob -/

/-- The attestation, of the length that it gives itself, lies in the blob. -/
def AttestationInside (p : PointerWidth) (blob : Memory) (size : UInt32) : Prop :=
  (attestationOffset p blob).toNat + (attestationSize p blob).toNat ≤ size.toNat

/-- All that was read lies in the blob, and so does the attestation by which the blob is
stored. -/
structure Validated (p : PointerWidth) (blob : Memory) (size : UInt32) (run : BlobCheck) : Prop where
  reads : ∀ r ∈ run.reads, r.off + r.size ≤ size.toNat
  keyed : ∀ uuid, run.ret = .ok uuid → serviceType p blob = serviceTypeSpTrustlet →
    AttestationInside p blob size

/-- The blob is one of a service provider, and the checks come to its attestation. -/
structure ReachesAttestation (p : PointerWidth) (spid : UInt32) (blob : Memory) (size : UInt32) :
    Prop where
  size : CStruct.sizeOf (mclfHeaderV24 p) ≤ size.toNat
  version : mcMakeVersion 2 4 ≤ headerVersion p blob
  level : gpLevel p blob = 1
  service : serviceType p blob = serviceTypeSpTrustlet
  spid : spid < mcSpidSystem

/-- Size and version words of the attestation lie in the blob when they are looked at, and
the whole attestation does when they are right. -/
def AttestationFits (p : PointerWidth) (blob : Memory) (size : UInt32) : Prop :=
  (attestationOffset p blob).toNat + 12 ≤ size.toNat ∧
    (uuidAttestationSize ≤ (attestationSize p blob).toNat →
      load (attestationRegion p blob 0) blob = attestationMagic →
        (attestationOffset p blob).toNat + 16 ≤ size.toNat ∧
          (attestationVersion p blob = atVersion → AttestationInside p blob size))

section Checks

variable {p : PointerWidth} {spid : UInt32} {blob : Memory} {size : UInt32} {reads : List Region}

theorem attestationRegion_eq :
    attestationRegion p blob 0 = ⟨(attestationOffset p blob).toNat, 8⟩ ∧
    attestationRegion p blob 1 = ⟨(attestationOffset p blob).toNat + 8, 4⟩ ∧
    attestationRegion p blob 2 = ⟨(attestationOffset p blob).toNat + 12, 4⟩ ∧
    attestationRegion p blob 3 = ⟨(attestationOffset p blob).toNat + 16, 16⟩ :=
  ⟨rfl, rfl, rfl, rfl⟩

theorem forall_reads_append {reads : List Region} {off n : Nat} :
    (∀ s ∈ reads ++ [⟨off, n⟩], s.off + s.size ≤ size.toNat) ↔
      (∀ s ∈ reads, s.off + s.size ≤ size.toNat) ∧ off + n ≤ size.toNat := by
  simp [or_imp, forall_and]

theorem validated_error (ret : McResult) :
    Validated p blob size ⟨.error ret, reads⟩ ↔ ∀ r ∈ reads, r.off + r.size ≤ size.toNat := by
  constructor
  · exact fun h => h.reads
  · intro hreads
    refine ⟨hreads, fun uuid hok => ?_⟩
    cases hok

theorem validated_checkAttestation (hsp : serviceType p blob = serviceTypeSpTrustlet)
    (hreads : ∀ r ∈ reads, r.off + r.size ≤ size.toNat) :
    Validated p blob size (checkAttestation p blob size reads) ↔ AttestationFits p blob size := by
  obtain ⟨hmagicRegion, hsizeRegion, hversionRegion, huuidRegion⟩ :=
    @attestationRegion_eq p blob
  have hattestation := uuidAttestationSize_eq
  unfold checkAttestation AttestationFits
  simp only [hmagicRegion, hsizeRegion, hversionRegion, huuidRegion]
  split
  · next houtside =>
      rw [validated_error, forall_reads_append]
      have hlt : size.toNat < (attestationOffset p blob).toNat :=
        UInt32.lt_iff_toNat_lt.mp houtside.1
      constructor
      · rintro ⟨_, hword⟩
        omega
      · rintro ⟨hword, _⟩
        omega
  · split
    · next hshort =>
        rw [validated_error, forall_reads_append]
        constructor
        · rintro ⟨_, hword⟩
          exact ⟨by omega, fun hle => absurd hshort (Nat.not_lt_of_le hle)⟩
        · rintro ⟨hword, _⟩
          exact ⟨hreads, by omega⟩
    · next hlong =>
        rw [forall_prop_of_true (Nat.le_of_not_lt hlong)]
        split
        · next hmagic =>
            rw [validated_error, forall_reads_append, forall_reads_append]
            constructor
            · rintro ⟨⟨_, hword⟩, _⟩
              exact ⟨by omega, fun h => absurd h hmagic⟩
            · rintro ⟨hword, _⟩
              exact ⟨⟨hreads, by omega⟩, by omega⟩
        · next hmagic =>
            rw [ne_eq, not_not] at hmagic
            rw [forall_prop_of_true hmagic]
            split
            · next hversion =>
                rw [validated_error, forall_reads_append, forall_reads_append,
                  forall_reads_append]
                constructor
                · rintro ⟨⟨⟨_, hword⟩, _⟩, hversionWord⟩
                  exact ⟨by omega, by omega, fun h => absurd h hversion⟩
                · rintro ⟨hword, hversionWord, _⟩
                  exact ⟨⟨⟨hreads, by omega⟩, by omega⟩, by omega⟩
            · next hversion =>
                rw [ne_eq, not_not] at hversion
                rw [forall_prop_of_true hversion]
                constructor
                · intro h
                  have hinside : AttestationInside p blob size := h.keyed _ rfl hsp
                  have hinside' := hinside
                  unfold AttestationInside at hinside
                  exact ⟨by omega, by omega, hinside'⟩
                · rintro ⟨hword, hversionWord, hinside⟩
                  refine ⟨?_, fun _ _ _ => hinside⟩
                  unfold AttestationInside at hinside
                  simp only [forall_reads_append]
                  exact ⟨⟨⟨⟨hreads, by omega⟩, by omega⟩, by omega⟩, by omega⟩

theorem header_regions (p : PointerWidth) :
    ∀ r ∈ [versionRegion p, gpLevelRegion p, serviceTypeRegion p, uuidRegion p,
      attestationOffsetRegion p], r.off + r.size ≤ CStruct.sizeOf (mclfHeaderV24 p) := by
  cases p <;> decide

/-- When nothing outside the blob is read, and the attestation of a blob that is accepted
lies in it. -/
theorem validated_iff (p : PointerWidth) (spid : UInt32) (blob : Memory) (size : UInt32) :
    Validated p blob size (checkTABlob p spid blob size) ↔
      (ReachesAttestation p spid blob size → AttestationFits p blob size) := by
  have hregions : CStruct.sizeOf (mclfHeaderV24 p) ≤ size.toNat →
      ∀ r ∈ [versionRegion p, gpLevelRegion p, serviceTypeRegion p, uuidRegion p,
        attestationOffsetRegion p], r.off + r.size ≤ size.toNat :=
    fun hle r hr => le_trans (header_regions p r hr) hle
  have hsystem : serviceTypeSystemTrustlet ≠ serviceTypeSpTrustlet := by decide
  unfold checkTABlob
  split
  · next hshort =>
      apply iff_of_true
      · exact (validated_error _).mpr fun r hr => absurd hr List.not_mem_nil
      · exact fun h => absurd h.size (Nat.not_le_of_lt hshort)
  · next hlong =>
      have hle := Nat.le_of_not_lt hlong
      have hin := hregions hle
      simp only [List.forall_mem_cons, List.not_mem_nil, false_implies, implies_true,
        and_true] at hin
      obtain ⟨hversionIn, hlevelIn, hserviceIn, huuidIn, hoffsetIn⟩ := hin
      split
      · next hversion =>
          apply iff_of_true
          · simpa [validated_error] using hversionIn
          · exact fun h => absurd hversion (UInt32.not_lt.mpr h.version)
      · next hversion =>
          split
          · next hlevel =>
              apply iff_of_true
              · simpa [validated_error] using ⟨hversionIn, hlevelIn⟩
              · exact fun h => absurd h.level hlevel
          · next hlevel =>
              split
              · next hservice =>
                  have hnot : ¬ ReachesAttestation p spid blob size :=
                    fun h => hsystem (hservice.symm.trans h.service)
                  apply iff_of_true _ fun h => absurd h hnot
                  split
                  · simpa [validated_error] using ⟨hversionIn, hlevelIn, hserviceIn⟩
                  · constructor
                    · simpa using ⟨hversionIn, hlevelIn, hserviceIn, huuidIn⟩
                    · exact fun _ _ h => absurd (hservice.symm.trans h) hsystem
              · next hservice =>
                  split
                  · next hsp =>
                      split
                      · next hspid =>
                          apply iff_of_true
                          · simpa [validated_error] using ⟨hversionIn, hlevelIn, hserviceIn⟩
                          · exact fun h => absurd h.spid (UInt32.not_lt.mpr hspid)
                      · next hspid =>
                          have hreaches : ReachesAttestation p spid blob size :=
                            ⟨hle, UInt32.not_lt.mp hversion, not_not.mp hlevel, hsp,
                              UInt32.not_le.mp hspid⟩
                          rw [forall_prop_of_true hreaches]
                          apply validated_checkAttestation hsp
                          simpa using ⟨hversionIn, hlevelIn, hserviceIn, hoffsetIn⟩
                  · next hsp =>
                      apply iff_of_true
                      · simpa [validated_error] using ⟨hversionIn, hlevelIn, hserviceIn⟩
                      · exact fun h => absurd h.service hsp

end Checks

/-- A blob whose attestation, directly behind the header, claims a length of 2^32 - 1 bytes. -/
def overlongBlob : Memory :=
  store 136 (attestationMagic ++ [0xFF, 0xFF, 0xFF, 0xFF, 0, 0, 0, 1])
    (store 132 [136] (store 128 [1] (store 16 [2] (store 4 [4, 0, 2, 0] fun _ => 0))))

/-- The attestation is accepted although it does not lie in the blob. -/
theorem not_validated :
    ¬ ∀ p spid blob size, Validated p blob size (checkTABlob p spid blob size) := by
  intro hall
  have hvalid := hall .bits64 7 overlongBlob 176
  have hret : (checkTABlob .bits64 7 overlongBlob 176).ret =
      .ok (uuidAt (attestationRegion .bits64 overlongBlob 3).off overlongBlob) := by
    rfl
  have hinside := hvalid.keyed _ hret (by decide)
  have houtside : ¬ (attestationOffset .bits64 overlongBlob).toNat +
      (attestationSize .bits64 overlongBlob).toNat ≤ 176 := by decide
  exact houtside hinside

end TABlob

end Exynos8890.MobiCore
