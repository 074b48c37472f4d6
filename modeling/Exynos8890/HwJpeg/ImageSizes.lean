import Exynos8890.HwJpeg.JpegDescriptor
import Exynos8890.Library.MachineInt

/-!
# The size of an image

The width and the height of an image are tested once, by a product, and the
buffer sizes of its planes are computed from them later.

Main results:

- Definitions `setSize`, `setScaledSize` and `setColorBufSize`.
- Theorem `sizesExact_iff`: the limit holds and the sizes are exact exactly
  where the products stay in an `int`.
- Theorem `not_sizesExact`: an image that is accepted and has no exact size.
-/

namespace Exynos8890
namespace HwJpeg

open MachineInt

/-! ## The configuration -/

/-- The formats that the library names, and the others. -/
inductive PixFormat
  | jpeg444
  | jpegGray
  | jpeg422
  | jpeg420
  | yuyv
  | rgb565x
  | rgb32
  | bgr32
  | nv21
  | nv12
  | yuv420
  | yvu420
  | yuv444
  | other (fourcc : Nat)
  deriving DecidableEq, Repr

/-- `PIX_FMT`.  Encoder and decoder see the same two fields of the union. -/
structure PixFmt where
  inFmt : PixFormat
  outFmt : PixFormat
  deriving DecidableEq

/-- The fields of `CONFIG` that the sizes come from. -/
structure Config where
  width : Int
  height : Int
  scaledWidth : Int
  scaledHeight : Int
  pix : PixFmt
  deriving DecidableEq

/-- The fields of an encoder or a decoder that the sizes come from. -/
structure JpegBase where
  flagCreate : Bool
  config : Config
  deriving DecidableEq

def errorInvalidImageSize : Int := -248

/-- `MAXIMUM_JPEG_SIZE(n)`. -/
def maximumJpegSize (n : Int) : Int :=
  (65535 - n) * 32768

/-- `mcu_x_size`. -/
def mcuXSize : PixFormat → Int
  | .jpeg444 | .jpegGray => 8
  | .jpeg422 | .jpeg420 => 16
  | _ => 8

/-! ## Sizes -/

/-- The test that `setSize` and `setScaledSize` both start with.  The product is
not computed for a negative side. -/
def testSize (s : JpegBase) (w h : Int) : Option Int :=
  if s.flagCreate then
    if h < 0 ∨ w < 0 then some errorInvalidImageSize
    else do
      let area ← signedInt (w * h)
      some (if maximumJpegSize (mcuXSize s.config.pix.outFmt) < area then
        errorInvalidImageSize else errorNone)
  else some errorJpegDeviceNotCreateYet

/-- `setSize`. -/
def setSize (s : JpegBase) (w h : Int) : Option (Int × JpegBase) := do
  let status ← testSize s w h
  some (status, if status = errorNone then
    { s with config := { s.config with width := w, height := h } } else s)

/-- `setScaledSize` of the decoder. -/
def setScaledSize (s : JpegBase) (w h : Int) : Option (Int × JpegBase) := do
  let status ← testSize s w h
  some (status, if status = errorNone then
    { s with config := { s.config with scaledWidth := w, scaledHeight := h } } else s)

/-- `pBufSize`. -/
def bufSizes (format : PixFormat) (w h : Int) : Option (List Int) := do
  let area ← signedInt (w * h)
  match format with
  | .yuyv | .rgb565x => do
      let size ← signedInt (area * 2)
      some [size, 0, 0]
  | .rgb32 | .bgr32 => do
      let size ← signedInt (area * 4)
      some [size, 0, 0]
  | .nv21 | .nv12 | .yuv420 | .yvu420 => do
      let size ← signedInt (area * 3)
      some [size >>> (1 : Nat), 0, 0]
  | .yuv444 => do
      let size ← signedInt (area * 3)
      some [size, 0, 0]
  | _ => do
      let size ← signedInt (area * 4)
      some [size, size, size]

/-- `setColorBufSize` of a format: the status and the sizes that are copied to
the caller.  A negative count is a copy of nearly all memory. -/
def setColorBufSize (format : PixFormat) (count w h : Int) : Option (Int × List Int) :=
  if 3 < count then some (errorInvalidImageSize, [])
  else do
    let sizes ← bufSizes format w h
    if count < 0 then none else some (errorNone, sizes.take count.toNat)

/-- The format that `setColorBufSize` of a mode reads. -/
def colorFormat (mode : Mode) (s : JpegBase) : PixFormat :=
  match mode with
  | .encode => s.config.pix.inFmt
  | .decode => s.config.pix.outFmt

/-- `setColorBufSize` of a mode. -/
def setModeColorBufSize (mode : Mode) (s : JpegBase) (count : Int) :
    Option (Int × List Int) :=
  setColorBufSize (colorFormat mode s) count s.config.width s.config.height

/-! ## The property -/

/-- The bits of a pixel in each plane. -/
def planeBits : PixFormat → List Int
  | .yuyv | .rgb565x => [16, 0, 0]
  | .rgb32 | .bgr32 => [32, 0, 0]
  | .nv21 | .nv12 | .yuv420 | .yvu420 => [12, 0, 0]
  | .yuv444 => [24, 0, 0]
  | _ => [32, 32, 32]

/-- Width times height times bits per pixel over eight, for each plane. -/
def exactSizes (format : PixFormat) (w h : Int) : List Int :=
  (planeBits format).map fun bits => w * h * bits / 8

/-- The limit of an object. -/
def JpegBase.limit (s : JpegBase) : Int :=
  maximumJpegSize (mcuXSize s.config.pix.outFmt)

/-- The sizes of an image: what is accepted is below the limit, and the buffer
sizes of what is accepted are exact. -/
structure SizesExact (s : JpegBase) (format : PixFormat) (w h : Int) : Prop where
  tested : ∃ status t, setSize s w h = some (status, t) ∧
    (status = errorNone → w * h ≤ s.limit)
  scaled : ∃ status t, setScaledSize s w h = some (status, t) ∧
    (status = errorNone → w * h ≤ s.limit)
  sizes : ∀ t, setSize s w h = some (errorNone, t) →
    ∀ count, 0 ≤ count → count ≤ 3 → setColorBufSize format count w h =
      some (errorNone, (exactSizes format w h).take count.toNat)
  modeSizes : ∀ t, setSize s w h = some (errorNone, t) →
    ∀ mode, colorFormat mode t = format → ∀ count, 0 ≤ count → count ≤ 3 →
      setModeColorBufSize mode t count =
        some (errorNone, (exactSizes format w h).take count.toNat)

/-- The greatest number that the area is multiplied with. -/
def factor : PixFormat → Int
  | .yuyv | .rgb565x => 2
  | .nv21 | .nv12 | .yuv420 | .yvu420 | .yuv444 => 3
  | _ => 4

/-- The products of an image stay in an `int`: its area, and the multiple of an
area below the limit. -/
def ProductsFit (s : JpegBase) (format : PixFormat) (w h : Int) : Prop :=
  w * h < 2 ^ 31 ∧ (w * h ≤ s.limit → w * h * factor format < 2 ^ 31)

/-! ## The two parts -/

variable {s t : JpegBase} {format : PixFormat} {w h : Int}

theorem testSize_of_lt (hcreate : s.flagCreate = true) (hw : 0 ≤ w) (hh : 0 ≤ h)
    (hlt : w * h < 2 ^ 31) :
    testSize s w h = some (if s.limit < w * h then errorInvalidImageSize else errorNone) := by
  have hneg : ¬ (h < 0 ∨ w < 0) := by omega
  simp only [testSize, hcreate, if_true, hneg, if_false,
    signedInt_of_lt (Int.mul_nonneg hw hh) hlt, Option.bind_eq_bind, Option.bind_some]
  rfl

theorem lt_of_testSize {status : Int} (hcreate : s.flagCreate = true) (hw : 0 ≤ w)
    (hh : 0 ≤ h) (htest : testSize s w h = some status) : w * h < 2 ^ 31 := by
  have hneg : ¬ (h < 0 ∨ w < 0) := by omega
  simp only [testSize, hcreate, if_true, hneg, if_false, Option.bind_eq_bind,
    Option.bind_eq_some_iff, signedInt_eq_some] at htest
  obtain ⟨_, ⟨⟨-, hlt⟩, -⟩, -⟩ := htest
  exact hlt

/-- What is accepted has a created object, no negative side and an area below
the limit. -/
theorem accepted_of_testSize (htest : testSize s w h = some errorNone) :
    s.flagCreate = true ∧ 0 ≤ w ∧ 0 ≤ h ∧ w * h ≤ s.limit := by
  unfold testSize at htest
  split at htest
  · rename_i hcreate
    split at htest
    · cases htest
    · rename_i hneg
      simp only [Option.bind_eq_bind, Option.bind_eq_some_iff, signedInt_eq_some,
        Option.some.injEq] at htest
      obtain ⟨_, ⟨-, rfl⟩, hstatus⟩ := htest
      split at hstatus
      · cases hstatus
      · rename_i hle
        exact ⟨hcreate, by omega, by omega, not_lt.mp hle⟩
  · cases htest

theorem exists_bind_status {test : Option Int} {stored : Int → JpegBase} {status : Int} :
    (∃ t, (test.bind fun status => some (status, stored status)) = some (status, t)) ↔
      test = some status := by
  simp only [Option.bind_eq_some_iff, Option.some.injEq, Prod.mk.injEq]
  constructor
  · rintro ⟨t, status', htest, rfl, -⟩
    exact htest
  · intro htest
    exact ⟨_, status, htest, rfl, rfl⟩

theorem setSize_eq_some {status : Int} :
    (∃ t, setSize s w h = some (status, t)) ↔ testSize s w h = some status :=
  exists_bind_status

theorem setScaledSize_eq_some {status : Int} :
    (∃ t, setScaledSize s w h = some (status, t)) ↔ testSize s w h = some status :=
  exists_bind_status

theorem stored_of_setSize (hset : setSize s w h = some (errorNone, t)) :
    t.config.width = w ∧ t.config.height = h := by
  simp only [setSize, Option.bind_eq_bind, Option.bind_eq_some_iff, Option.some.injEq,
    Prod.mk.injEq] at hset
  obtain ⟨status, -, rfl, rfl⟩ := hset
  exact ⟨rfl, rfl⟩

theorem one_le_factor (format : PixFormat) : 1 ≤ factor format := by
  unfold factor
  split <;> decide

theorem exact_multiples (area : Int) :
    area * 2 = area * 16 / 8 ∧ area * 3 = area * 24 / 8 ∧ area * 4 = area * 32 / 8 ∧
      (area * 3) >>> (1 : Nat) = area * 12 / 8 := by
  rw [Int.shiftRight_eq_div_pow]
  omega

theorem bufSizes_of_lt (harea : 0 ≤ w * h) (hlt : w * h * factor format < 2 ^ 31) :
    bufSizes format w h = some (exactSizes format w h) := by
  have hsmall : w * h < 2 ^ 31 :=
    lt_of_le_of_lt (le_mul_of_one_le_right harea (one_le_factor format)) hlt
  have hpos : 0 ≤ w * h * factor format :=
    Int.mul_nonneg harea (Int.le_trans (by decide) (one_le_factor format))
  obtain ⟨htwo, hthree, hfour, hhalf⟩ := exact_multiples (w * h)
  have hproduct := signedInt_of_lt hpos hlt
  rw [bufSizes, signedInt_of_lt harea hsmall, Option.bind_eq_bind, Option.bind_some]
  cases format <;> simp only [factor] at hproduct <;>
    simp only [hproduct, exactSizes, planeBits, List.map_cons, List.map_nil,
      Int.mul_zero, Int.zero_ediv, ← htwo, ← hthree, ← hfour, ← hhalf,
      Option.bind_some]

theorem lt_of_bufSizes {sizes : List Int} (hsizes : bufSizes format w h = some sizes) :
    w * h * factor format < 2 ^ 31 := by
  obtain ⟨area, harea, hsizes⟩ := Option.bind_eq_some_iff.mp hsizes
  obtain ⟨-, rfl⟩ := signedInt_eq_some.mp harea
  cases format <;> obtain ⟨size, hsize, -⟩ := Option.bind_eq_some_iff.mp hsizes <;>
    exact (signedInt_eq_some.mp hsize).1.2

theorem setColorBufSize_eq {count : Int} (hpos : 0 ≤ count) (hle : count ≤ 3) :
    setColorBufSize format count w h =
      (bufSizes format w h).map fun sizes => (errorNone, sizes.take count.toNat) := by
  have hmany : ¬ 3 < count := by omega
  have hneg : ¬ count < 0 := by omega
  simp only [setColorBufSize, hmany, hneg, if_false, Option.bind_eq_bind,
    Option.map_eq_bind, Function.comp_def]

/-- The limit holds and the sizes are exact exactly where the products of an
image with sides fit. -/
theorem sizesExact_iff (s : JpegBase) (format : PixFormat) (w h : Int) :
    SizesExact s format w h ↔
      (s.flagCreate = true → 0 ≤ w → 0 ≤ h → ProductsFit s format w h) := by
  constructor
  · intro hexact hcreate hw hh
    obtain ⟨status, t, hset, -⟩ := hexact.tested
    have hlt := lt_of_testSize hcreate hw hh (setSize_eq_some.mp ⟨t, hset⟩)
    refine ⟨hlt, fun hle => ?_⟩
    have htest := testSize_of_lt hcreate hw hh hlt
    rw [if_neg (not_lt.mpr hle)] at htest
    obtain ⟨t, hset⟩ := setSize_eq_some.mpr htest
    have hsizes := hexact.sizes t hset 3 (by decide) (by decide)
    rw [setColorBufSize_eq (by decide) (by decide), Option.map_eq_some_iff] at hsizes
    obtain ⟨sizes, hsizes, -⟩ := hsizes
    exact lt_of_bufSizes hsizes
  · intro hfit
    have htested : ∃ status, testSize s w h = some status ∧
        (status = errorNone → w * h ≤ s.limit) := by
      by_cases hcreate : s.flagCreate = true
      · by_cases hneg : h < 0 ∨ w < 0
        · refine ⟨errorInvalidImageSize, ?_, fun hstatus => absurd hstatus (by decide)⟩
          simp only [testSize, hcreate, hneg, if_true]
        · have hlt := (hfit hcreate (by omega) (by omega)).1
          have htest := testSize_of_lt hcreate (by omega) (by omega) hlt
          refine ⟨_, htest, fun hstatus => ?_⟩
          rw [hstatus] at htest
          exact (accepted_of_testSize htest).2.2.2
      · refine ⟨errorJpegDeviceNotCreateYet, ?_, fun hstatus => absurd hstatus (by decide)⟩
        simp only [testSize, hcreate, Bool.false_eq_true, if_false]
    have hsizes : ∀ t, setSize s w h = some (errorNone, t) →
        ∀ count, 0 ≤ count → count ≤ 3 → setColorBufSize format count w h =
          some (errorNone, (exactSizes format w h).take count.toNat) := by
      intro t hset count hpos hle
      obtain ⟨hcreate, hw, hh, hlimit⟩ :=
        accepted_of_testSize (setSize_eq_some.mp ⟨t, hset⟩)
      rw [setColorBufSize_eq hpos hle, bufSizes_of_lt (Int.mul_nonneg hw hh)
        ((hfit hcreate hw hh).2 hlimit), Option.map_some]
    obtain ⟨status, htest, hlimit⟩ := htested
    constructor
    case tested =>
      obtain ⟨t, hset⟩ := setSize_eq_some.mpr htest
      exact ⟨status, t, hset, hlimit⟩
    case scaled =>
      obtain ⟨t, hset⟩ := setScaledSize_eq_some.mpr htest
      exact ⟨status, t, hset, hlimit⟩
    case sizes => exact hsizes
    case modeSizes =>
      intro t hset mode hformat count hpos hle
      obtain ⟨hwidth, hheight⟩ := stored_of_setSize hset
      rw [setModeColorBufSize, hformat, hwidth, hheight]
      exact hsizes t hset count hpos hle

/-- An encoder for RGB images. -/
def rgbEncoder : JpegBase where
  flagCreate := true
  config := {
    width := 0, height := 0, scaledWidth := 0, scaledHeight := 0
    pix := { inFmt := .rgb32, outFmt := .jpeg444 } }

/-- A square of 32767 pixels is accepted, and four times its area is no `int`. -/
theorem not_sizesExact :
    (∃ t, setSize rgbEncoder 32767 32767 = some (errorNone, t)) ∧
      ¬ SizesExact rgbEncoder .rgb32 32767 32767 := by
  obtain ⟨t, hset⟩ : ∃ t, setSize rgbEncoder 32767 32767 = some (errorNone, t) :=
    setSize_eq_some.mpr (by decide)
  refine ⟨⟨t, hset⟩, fun hexact => ?_⟩
  have hsizes := hexact.sizes t hset 1 (by decide) (by decide)
  exact absurd hsizes (by decide)

end HwJpeg
end Exynos8890
