import Exynos8890.Gralloc.Mapper
import Mathlib.Tactic.Ring

/-!
# The sizes of a graphics buffer

The width and the height of a request are any positive `int`s.  A size is
computed from them in `int`s and in a `size_t`, without a bound.

Main results:

- Definition `exactLayout`: strides and plane sizes over the integers.
- Theorem `layoutOf_of_fits`: what the allocator computes is the exact layout
  where the dimensions fit.
- Theorem `sizesCover_iff`: the buffers of a request cover its pixels exactly
  where the dimensions fit.  The tiled format also needs the rows of its second
  plane, which are computed from half of an odd height.
-/

namespace Exynos8890
namespace Gralloc

open MachineInt

/-! ## What the allocator computes -/

/-- The strides of a buffer and the sizes of its planes. -/
structure BufferLayout where
  stride : Nat
  vstride : Nat
  sizes : List Nat
  deriving DecidableEq

/-- The sizes of the planes that a YUV layout has. -/
def YuvLayout.sizes (l : YuvLayout) : List Nat :=
  match l.planes with
  | .one => [l.lumaSize]
  | .two => [l.lumaSize, l.chromaSize]
  | .three => [l.lumaSize, l.chromaSize, l.chromaSize]

variable (p : Platform)

/-- The format that a buffer gets. -/
def chosenFormat (format : PixelFormat) (usage : UInt32) : Option PixelFormat :=
  match rgbFormat p format usage with
  | .error _ => none
  | .ok format => some (yuvFormat p format usage)

/-- The part of the allocators that does not ask ion. -/
def layoutOf (w h : Nat) (usage : UInt32) (format : PixelFormat) :
    Option BufferLayout := do
  match ← rgbLayout p w h format usage with
  | .ok l => some ⟨l.stride, l.vstride, [l.size]⟩
  | .error _ =>
      if isFrameworkYuv format then
        let _ ← alignInt w 16
        match ← frameworkLayout p w h format with
        | .ok (size, stride) => some ⟨stride, h, [size]⟩
        | .error _ => none
      else match ← yuvLayout p w h format with
      | .ok l => some ⟨l.stride, l.lumaVstride, l.sizes⟩
      | .error _ => none

/-! ## The exact layout -/

/-- Rows of a buffer that the encoder reads are padded as whole pixels. -/
def isPadded (usage : UInt32) (format : PixelFormat) : Bool :=
  has usage p.bits.hwVideoEncoder || format = .bgra8888

/-- The bytes of a row. -/
def rowBytes (padded : Bool) (w bpp : Nat) : Nat :=
  if padded then align w 16 * bpp else align (w * bpp) 64

/-- The rows of a plane. -/
def rowCount (padded : Bool) (h : Nat) : Nat :=
  if padded then align h 16 else h

/-- The layout of a request over the integers, for the formats that have one. -/
def exactLayout (w h : Nat) (usage : UInt32) (format : PixelFormat) :
    Option BufferLayout :=
  match format with
  | .blob => some ⟨w, h, [w * h]⟩
  | .yv12 | .exynosYCbCr420P =>
      some ⟨align w 16, h,
        [align w 16 * h + align (align w 16 / 2) 16 * h + extSize]⟩
  | .yCrCb420SP => some ⟨w, h, [w * align h 16 * 3 / 2 + extSize]⟩
  | .exynosYV12M | .exynosYCbCr420PM =>
      let chroma := align h 16 / 2 * align (align w 32 / 2) 16 + extSize
      some ⟨align w 32, align h 16,
        [align h 16 * align w 32 + extSize, chroma, chroma]⟩
  | .exynosYCbCr420SPMTiled =>
      some ⟨align w 16, align h 32,
        [align h 32 * align w 16 + extSize,
          align (h / 2) 32 * align w 16 + extSize]⟩
  | .exynosYCrCb420SPM | .exynosYCrCb420SPMFull | .exynosYCbCr420SPM =>
      some ⟨align w 16, align h 16,
        [align w 16 * align h 16 + extSize,
          align w 16 * align (align h 16 / 2) 8 + extSize]⟩
  | .yCbCr422I => some ⟨align w 16, h, [h * align w 16 * 2 + extSize]⟩
  | _ => (bytesPerPixel format).map fun bpp =>
      let padded := isPadded p usage format
      let row := rowBytes padded w bpp
      let rows := rowCount padded h
      ⟨row / bpp, rows, [align (row * max rows (h + 2)) pageSize + extSize]⟩

/-- The bytes of four pixels in each plane of a buffer. -/
def bytesOfFour (format : PixelFormat) : List Nat :=
  match format with
  | .blob => [4]
  | .yv12 | .exynosYCbCr420P | .yCrCb420SP => [6]
  | .exynosYV12M | .exynosYCbCr420PM => [4, 1, 1]
  | .exynosYCbCr420SPMTiled | .exynosYCrCb420SPM | .exynosYCrCb420SPMFull
  | .exynosYCbCr420SPM => [4, 2]
  | .yCbCr422I => [8]
  | _ => (bytesPerPixel format).toList.map (4 * ·)

/-- Every plane has the bytes of its rows. -/
def BufferLayout.Covers (l : BufferLayout) (w : Nat) (format : PixelFormat) : Prop :=
  w ≤ l.stride ∧
    List.Forall₂ (fun bytes size => bytes * (l.stride * l.vstride) ≤ 4 * size)
      (bytesOfFour format) l.sizes

/-- The dimensions whose sizes an `int` holds. -/
def Fits (w h : Nat) (usage : UInt32) (format : PixelFormat) : Prop :=
  match format with
  | .blob => w * h < 2 ^ 31
  | .yv12 | .exynosYCbCr420P =>
      align w 16 * h + align (align w 16 / 2) 16 * h + extSize < 2 ^ 31
  | .yCrCb420SP => w * align h 16 * 3 < 2 ^ 31
  | .exynosYV12M | .exynosYCbCr420PM => align h 16 * align w 32 + extSize < 2 ^ 31
  | .exynosYCbCr420SPMTiled => align h 32 * align w 16 + extSize < 2 ^ 31
  | .exynosYCrCb420SPM | .exynosYCrCb420SPMFull | .exynosYCbCr420SPM =>
      align w 16 * align h 16 + extSize < 2 ^ 31
  | .yCbCr422I => h * align w 16 * 2 + extSize < 2 ^ 31
  | _ => ∀ bpp ∈ bytesPerPixel format,
      rowBytes (isPadded p usage format) w bpp *
        max (rowCount (isPadded p usage format) h) (h + 2) + pageSize ≤ 2 ^ 31

/-- The rows of the second plane of the tiled format: half of an odd height is
rounded down before it is aligned. -/
def HasChromaRows (w h : Nat) (format : PixelFormat) : Prop :=
  format = .exynosYCbCr420SPMTiled → h % 64 = 1 → w ≤ 16

variable {p : Platform} {w h : Nat} {usage : UInt32} {format : PixelFormat}

/-! ## The formats with one plane of pixels -/

theorem bytesPerPixel_pos {bpp : Nat} (hbpp : bytesPerPixel format = some bpp) :
    0 < bpp := by
  cases format <;> cases hbpp <;> decide

theorem rowBytes_pos (padded : Bool) {bpp : Nat} (hw : 0 < w) (hbpp : 0 < bpp) :
    0 < rowBytes padded w bpp := by
  cases padded
  · exact align_pos (Nat.mul_pos hw hbpp) (by decide)
  · exact Nat.mul_pos (align_pos hw (by decide)) hbpp

theorem le_rowBytes (padded : Bool) (w bpp : Nat) : w * bpp ≤ rowBytes padded w bpp := by
  cases padded
  · exact le_align _ (by decide)
  · exact Nat.mul_le_mul_right bpp (le_align w (by decide))

/-- The two branches of `gralloc_alloc_rgb` for the rows. -/
def rgbRows (padded : Bool) (w h bpp : Nat) : Option (Nat × Nat) :=
  if padded then do
    let aligned ← alignInt w 16
    let bpr ← int (aligned * bpp)
    let vstride ← alignInt h 16
    some (bpr, vstride)
  else do
    let row ← int (w * bpp)
    let bpr ← alignInt row 64
    some (bpr, h)

/-- What `gralloc_alloc_rgb` computes from the rows. -/
def rgbTotal (p : Platform) (h bpp bpr vstride : Nat) : Option (Except Int RgbLayout) := do
  let h2 ← int (h + 2)
  let size := p.abi.size (bpr * if vstride < h2 then h2 else vstride)
  let stride ← int (bpr / bpp)
  some (.ok { size := p.abi.size (alignSize p.abi size pageSize + extSize)
              stride, vstride })

theorem rgbLayout_eq_bind {bpp : Nat} (hbpp : bytesPerPixel format = some bpp) :
    rgbLayout p w h format usage =
      (rgbRows (isPadded p usage format) w h bpp).bind fun rows =>
        rgbTotal p h bpp rows.1 rows.2 := by
  have hblob : format ≠ .blob := by
    rintro rfl
    cases hbpp
  have hcond : (has usage p.bits.hwVideoEncoder ∨ format = .bgra8888) ↔
      isPadded p usage format = true := by
    simp only [isPadded, Bool.or_eq_true, decide_eq_true_eq]
  simp only [rgbLayout, hblob, if_false, hbpp, hcond, rgbRows, rgbTotal]
  cases isPadded p usage format <;>
    simp only [Bool.false_eq_true, if_true, if_false, Option.bind_eq_bind,
      Option.bind_assoc, Option.bind_some]

theorem rgbRows_of_lt (padded : Bool) {bpp : Nat} (hbpp : 0 < bpp)
    (hrow : rowBytes padded w bpp < 2 ^ 31) (hrows : rowCount padded h < 2 ^ 31) :
    rgbRows padded w h bpp = some (rowBytes padded w bpp, rowCount padded h) := by
  cases padded with
  | true =>
      have hbytes : align w 16 * bpp < 2 ^ 31 := hrow
      have haligned : align w 16 < 2 ^ 31 :=
        lt_of_le_of_lt (Nat.le_mul_of_pos_right _ hbpp) hbytes
      simp only [rgbRows, if_true, alignInt_of_lt (by decide) (by decide) haligned,
        alignInt_of_lt (by decide) (by decide) hrows, int_of_lt hbytes, rowBytes,
        rowCount, Option.bind_eq_bind, Option.bind_some]
  | false =>
      have hbytes : w * bpp < 2 ^ 31 := lt_of_le_of_lt (le_rowBytes false w bpp) hrow
      simp only [rgbRows, Bool.false_eq_true, if_false, int_of_lt hbytes,
        alignInt_of_lt (by decide) (by decide) hrow, rowBytes, rowCount,
        Option.bind_eq_bind, Option.bind_some]

theorem rgbTotal_of_le {bpp bpr vstride : Nat} (hbpr : 0 < bpr)
    (hfits : bpr * max vstride (h + 2) + pageSize ≤ 2 ^ 31) :
    rgbTotal p h bpp bpr vstride = some (.ok
      { size := align (bpr * max vstride (h + 2)) pageSize + extSize
        stride := bpr / bpp, vstride }) := by
  -- each factor is at most the product
  have hrow : bpr ≤ bpr * max vstride (h + 2) := Nat.le_mul_of_pos_right _ (by omega)
  have hcount : max vstride (h + 2) ≤ bpr * max vstride (h + 2) :=
    Nat.le_mul_of_pos_left _ hbpr
  simp only [pageSize] at hfits
  have hpage : align (bpr * max vstride (h + 2)) 4096 ≤ 2 ^ 31 - 4096 :=
    align_le_of_dvd (by decide) (by decide) (by omega)
  have hquot : bpr / bpp ≤ bpr := Nat.div_le_self bpr bpp
  have hmax : (if vstride < h + 2 then h + 2 else vstride) = max vstride (h + 2) :=
    (max_def_lt vstride (h + 2)).symm
  simp only [rgbTotal, int_of_lt (show h + 2 < 2 ^ 31 by omega),
    int_of_lt (show bpr / bpp < 2 ^ 31 by omega), Option.bind_eq_bind, Option.bind_some,
    pageSize, extSize, hmax]
  rw [size_of_lt p.abi (show bpr * max vstride (h + 2) < 2 ^ 31 by omega),
    alignSize_of_lt p.abi (by decide) (by decide) (by omega),
    size_of_lt p.abi (by omega)]

/-- An RGB buffer whose rows and padding fit has its exact size. -/
theorem rgbLayout_of_fits {bpp : Nat} (hw : 0 < w)
    (hbpp : bytesPerPixel format = some bpp)
    (hfits : rowBytes (isPadded p usage format) w bpp *
      max (rowCount (isPadded p usage format) h) (h + 2) + pageSize ≤ 2 ^ 31) :
    rgbLayout p w h format usage = some (.ok
      { size := align (rowBytes (isPadded p usage format) w bpp *
          max (rowCount (isPadded p usage format) h) (h + 2)) pageSize + extSize
        stride := rowBytes (isPadded p usage format) w bpp / bpp
        vstride := rowCount (isPadded p usage format) h }) := by
  have hpos := bytesPerPixel_pos hbpp
  rw [rgbLayout_eq_bind hbpp]
  generalize isPadded p usage format = padded at hfits ⊢
  have hrow := rowBytes_pos padded hw hpos
  have hle : rowBytes padded w bpp ≤
      rowBytes padded w bpp * max (rowCount padded h) (h + 2) :=
    Nat.le_mul_of_pos_right _ (by omega)
  have hcount : max (rowCount padded h) (h + 2) ≤
      rowBytes padded w bpp * max (rowCount padded h) (h + 2) :=
    Nat.le_mul_of_pos_left _ hrow
  have hpage : 0 < pageSize := by decide
  rw [rgbRows_of_lt padded hpos (by omega) (by omega), Option.bind_some,
    rgbTotal_of_le hrow hfits]

/-! ## The formats with luma and chroma -/

theorem frameworkLayout_of_fits (hh : 0 < h)
    (hformat : format = .yv12 ∨ format = .exynosYCbCr420P)
    (hfits : align w 16 * h + align (align w 16 / 2) 16 * h + extSize < 2 ^ 31) :
    frameworkLayout p w h format = some (.ok
      (align w 16 * h + align (align w 16 / 2) 16 * h + extSize, align w 16)) := by
  have hstride : align w 16 ≤ align w 16 * h := Nat.le_mul_of_pos_right _ hh
  have hchroma : align (align w 16 / 2) 16 ≤ align (align w 16 / 2) 16 * h :=
    Nat.le_mul_of_pos_right _ hh
  simp only [extSize] at hfits
  obtain rfl | rfl := hformat <;>
    simp only [frameworkLayout, Option.bind_eq_bind, Option.bind_some, extSize,
      alignInt_of_lt (x := w) (a := 16) (by decide) (by decide) (by omega),
      alignInt_of_lt (x := align w 16 / 2) (a := 16) (by decide) (by decide) (by omega),
      int_of_lt (show align w 16 * h < 2 ^ 31 by omega),
      int_of_lt (show align (align w 16 / 2) 16 * h < 2 ^ 31 by omega),
      int_of_lt (show align w 16 * h + align (align w 16 / 2) 16 * h < 2 ^ 31 by omega),
      size_of_lt p.abi hfits]

theorem align_lt_of_semiPlanar (hw : 0 < w) (hh : 0 < h)
    (hfits : w * align h 16 * 3 < 2 ^ 31) : align w 16 < 2 ^ 31 := by
  have hrows : 16 ≤ align h 16 := Nat.le_of_dvd (align_pos hh (by decide)) (dvd_align h 16)
  have hbytes : w * 16 ≤ w * align h 16 := Nat.mul_le_mul_left w hrows
  have hwide : align w 16 ≤ w * 16 :=
    align_le_of_dvd (by decide) (Nat.dvd_mul_left 16 w) (by omega)
  omega

theorem layout_of_semiPlanar (hw : 0 < w)
    (hfits : w * align h 16 * 3 < 2 ^ 31) :
    frameworkLayout p w h .yCrCb420SP = some (.ok
      (w * align h 16 * 3 / 2 + extSize, w)) := by
  have hrows : align h 16 ≤ w * align h 16 := Nat.le_mul_of_pos_left _ hw
  simp only [frameworkLayout, Option.bind_eq_bind, Option.bind_some, extSize,
    alignInt_of_lt (x := h) (a := 16) (by decide) (by decide) (by omega),
    int_of_lt (show w * align h 16 < 2 ^ 31 by omega), int_of_lt hfits,
    size_of_lt p.abi (show w * align h 16 * 3 / 2 + 256 < 2 ^ 31 by omega)]

/-- The second plane of a format is not larger than the first one. -/
theorem align_half_le {x a b : Nat} (ha : 0 < a) (hab : a ∣ b) :
    align (align x b / 2) a ≤ align x b :=
  align_le_of_dvd ha (hab.trans (dvd_align x b)) (Nat.div_le_self _ 2)

theorem layout_of_planarM (hh : 0 < h) (hw : 0 < w)
    (hformat : format = .exynosYV12M ∨ format = .exynosYCbCr420PM)
    (hfits : align h 16 * align w 32 + extSize < 2 ^ 31) :
    yuvLayout p w h format = some (.ok
      { lumaSize := align h 16 * align w 32 + extSize
        chromaSize := align h 16 / 2 * align (align w 32 / 2) 16 + extSize
        planes := .three, stride := align w 32, lumaVstride := align h 16 }) := by
  have hrows : align h 16 ≤ align h 16 * align w 32 :=
    Nat.le_mul_of_pos_right _ (align_pos hw (by decide))
  have hstride : align w 32 ≤ align h 16 * align w 32 :=
    Nat.le_mul_of_pos_left _ (align_pos hh (by decide))
  have hfirst : align w 16 ≤ align w 32 :=
    align_le_of_dvd (by decide) ((by decide : 16 ∣ 32).trans (dvd_align w 32))
      (le_align w (by decide))
  have hhalf : align (align w 32 / 2) 16 ≤ align w 32 :=
    align_half_le (by decide) (by decide)
  have hchroma : align h 16 / 2 * align (align w 32 / 2) 16 ≤ align h 16 * align w 32 :=
    Nat.mul_le_mul (Nat.div_le_self _ 2) hhalf
  simp only [extSize] at hfits
  have hwide := alignInt_of_lt (x := w) (a := 16) (by decide) (by decide) (by omega)
  have hwider := alignInt_of_lt (x := w) (a := 32) (by decide) (by decide) (by omega)
  have hhigh := alignInt_of_lt (x := h) (a := 16) (by decide) (by decide) (by omega)
  have hside := alignInt_of_lt (x := align w 32 / 2) (a := 16) (by decide) (by decide)
    (by omega)
  have hluma := size_of_lt p.abi hfits
  have hsecond := size_of_lt p.abi
    (show align h 16 / 2 * align (align w 32 / 2) 16 + 256 < 2 ^ 31 by omega)
  obtain rfl | rfl := hformat <;>
    simp only [yuvLayout, hwide, hwider, hhigh, hside, hluma, hsecond, extSize,
      Option.bind_eq_bind, Option.bind_some]

theorem layout_of_tiled (hh : 0 < h) (hw : 0 < w)
    (hfits : align h 32 * align w 16 + extSize < 2 ^ 31) :
    yuvLayout p w h .exynosYCbCr420SPMTiled = some (.ok
      { lumaSize := align h 32 * align w 16 + extSize
        chromaSize := align (h / 2) 32 * align w 16 + extSize
        planes := .two, stride := align w 16, lumaVstride := align h 32 }) := by
  have hrows : align h 32 ≤ align h 32 * align w 16 :=
    Nat.le_mul_of_pos_right _ (align_pos hw (by decide))
  have hstride : align w 16 ≤ align h 32 * align w 16 :=
    Nat.le_mul_of_pos_left _ (align_pos hh (by decide))
  have hhalf : align (h / 2) 32 ≤ align h 32 :=
    align_le_of_dvd (by decide) (dvd_align h 32)
      ((Nat.div_le_self h 2).trans (le_align h (by decide)))
  have hchroma : align (h / 2) 32 * align w 16 ≤ align h 32 * align w 16 :=
    Nat.mul_le_mul_right _ hhalf
  simp only [extSize] at hfits
  simp only [yuvLayout, Option.bind_eq_bind, Option.bind_some, extSize,
    alignInt_of_lt (x := w) (a := 16) (by decide) (by decide) (by omega),
    alignInt_of_lt (x := h) (a := 32) (by decide) (by decide) (by omega),
    alignInt_of_lt (x := h / 2) (a := 32) (by decide) (by decide) (by omega),
    size_of_lt p.abi hfits,
    size_of_lt p.abi (show align (h / 2) 32 * align w 16 + 256 < 2 ^ 31 by omega)]

theorem layout_of_semiPlanarM (hh : 0 < h) (hw : 0 < w)
    (hformat : format = .exynosYCrCb420SPM ∨ format = .exynosYCrCb420SPMFull ∨
      format = .exynosYCbCr420SPM)
    (hfits : align w 16 * align h 16 + extSize < 2 ^ 31) :
    yuvLayout p w h format = some (.ok
      { lumaSize := align w 16 * align h 16 + extSize
        chromaSize := align w 16 * align (align h 16 / 2) 8 + extSize
        planes := .two, stride := align w 16, lumaVstride := align h 16 }) := by
  have hrows : align h 16 ≤ align w 16 * align h 16 :=
    Nat.le_mul_of_pos_left _ (align_pos hw (by decide))
  have hstride : align w 16 ≤ align w 16 * align h 16 :=
    Nat.le_mul_of_pos_right _ (align_pos hh (by decide))
  have hhalf : align (align h 16 / 2) 8 ≤ align h 16 :=
    align_half_le (by decide) (by decide)
  have hchroma : align w 16 * align (align h 16 / 2) 8 ≤ align w 16 * align h 16 :=
    Nat.mul_le_mul_left _ hhalf
  simp only [extSize] at hfits
  have hwide := alignInt_of_lt (x := w) (a := 16) (by decide) (by decide) (by omega)
  have hhigh := alignInt_of_lt (x := h) (a := 16) (by decide) (by decide) (by omega)
  have hside := alignSize_of_lt p.abi (x := align h 16 / 2) (a := 8) (by decide)
    (by decide) (by omega)
  have hluma := size_of_lt p.abi hfits
  have hsecond := size_of_lt p.abi
    (show align w 16 * align (align h 16 / 2) 8 + 256 < 2 ^ 31 by omega)
  obtain rfl | rfl | rfl := hformat <;>
    simp only [yuvLayout, hwide, hhigh, hside, hluma, hsecond, extSize,
      Option.bind_eq_bind, Option.bind_some]

theorem layout_of_interleaved (hh : 0 < h)
    (hfits : h * align w 16 * 2 + extSize < 2 ^ 31) :
    yuvLayout p w h .yCbCr422I = some (.ok
      { lumaSize := h * align w 16 * 2 + extSize
        chromaSize := 0, planes := .one, stride := align w 16, lumaVstride := h }) := by
  have hstride : align w 16 ≤ h * align w 16 := Nat.le_mul_of_pos_left _ hh
  simp only [extSize] at hfits
  simp only [yuvLayout, Option.bind_eq_bind, Option.bind_some, extSize,
    alignInt_of_lt (x := w) (a := 16) (by decide) (by decide) (by omega),
    size_of_lt p.abi hfits]

/-! ## The layout of every format -/

/-- The families of formats that are laid out alike. -/
inductive Family (format : PixelFormat) : Prop
  | rgb (bpp : Nat) (hbpp : bytesPerPixel format = some bpp)
  | blob (hformat : format = .blob)
  | planar (hformat : format = .yv12 ∨ format = .exynosYCbCr420P)
  | semiPlanar (hformat : format = .yCrCb420SP)
  | planarM (hformat : format = .exynosYV12M ∨ format = .exynosYCbCr420PM)
  | tiled (hformat : format = .exynosYCbCr420SPMTiled)
  | semiPlanarM (hformat : format = .exynosYCrCb420SPM ∨
      format = .exynosYCrCb420SPMFull ∨ format = .exynosYCbCr420SPM)
  | interleaved (hformat : format = .yCbCr422I)

theorem family_of_exactLayout {l : BufferLayout}
    (hl : exactLayout p w h usage format = some l) : Family format := by
  cases format with
  | exynosARGB8888 | rgba8888 | rgbx8888 | bgra8888 | sRgbA8888 | sRgbX8888 | rgb888
  | rgb565 | raw16 => exact .rgb _ rfl
  | blob => exact .blob rfl
  | yv12 => exact .planar (.inl rfl)
  | exynosYCbCr420P => exact .planar (.inr rfl)
  | yCrCb420SP => exact .semiPlanar rfl
  | exynosYV12M => exact .planarM (.inl rfl)
  | exynosYCbCr420PM => exact .planarM (.inr rfl)
  | exynosYCbCr420SPMTiled => exact .tiled rfl
  | exynosYCrCb420SPM => exact .semiPlanarM (.inl rfl)
  | exynosYCrCb420SPMFull => exact .semiPlanarM (.inr (.inl rfl))
  | exynosYCbCr420SPM => exact .semiPlanarM (.inr (.inr rfl))
  | yCbCr422I => exact .interleaved rfl
  | implementationDefined | other => cases hl

theorem exists_exactLayout {l : BufferLayout}
    (hcode : layoutOf p w h usage format = some l) :
    ∃ l', exactLayout p w h usage format = some l' := by
  cases format with
  | implementationDefined | other =>
      simp [layoutOf, rgbLayout, bytesPerPixel, isFrameworkYuv, yuvLayout,
        Option.bind_eq_some_iff] at hcode
  | _ => exact ⟨_, rfl⟩

theorem exactLayout_rgb {bpp : Nat} (hbpp : bytesPerPixel format = some bpp) :
    exactLayout p w h usage format = some
      ⟨rowBytes (isPadded p usage format) w bpp / bpp,
        rowCount (isPadded p usage format) h,
        [align (rowBytes (isPadded p usage format) w bpp *
          max (rowCount (isPadded p usage format) h) (h + 2)) pageSize + extSize]⟩ := by
  cases format <;> cases hbpp <;> rfl

theorem fits_rgb {bpp : Nat} (hbpp : bytesPerPixel format = some bpp) :
    Fits p w h usage format ↔ rowBytes (isPadded p usage format) w bpp *
      max (rowCount (isPadded p usage format) h) (h + 2) + pageSize ≤ 2 ^ 31 := by
  cases format <;> cases hbpp <;> simp only [Fits, bytesPerPixel, Option.mem_def,
    Option.some.injEq, forall_eq']

theorem bytesOfFour_rgb {bpp : Nat} (hbpp : bytesPerPixel format = some bpp) :
    bytesOfFour format = [4 * bpp] := by
  cases format <;> cases hbpp <;> rfl

/-- A format that `gralloc_alloc_rgb` does not know is laid out by the others. -/
theorem layoutOf_of_framework {size stride aligned : Nat}
    (hformat : isFrameworkYuv format) (hwide : alignInt w 16 = some aligned)
    (hl : frameworkLayout p w h format = some (.ok (size, stride))) :
    layoutOf p w h usage format = some ⟨stride, h, [size]⟩ := by
  have hrgb : rgbLayout p w h format usage = some (.error eInval) := by
    cases format <;> first | rfl | cases hformat
  simp only [layoutOf, hrgb, hformat, if_true, hl, hwide, Option.bind_eq_bind,
    Option.bind_some]

theorem layoutOf_of_yuv {l : YuvLayout} (hl : yuvLayout p w h format = some (.ok l)) :
    layoutOf p w h usage format = some ⟨l.stride, l.lumaVstride, l.sizes⟩ := by
  have hnot : yuvLayout p w h format ≠ none := by simp [hl]
  have hwide : alignInt w 16 ≠ none := fun hnone => hnot (by simp [yuvLayout, hnone])
  obtain ⟨stride, hstride⟩ := Option.ne_none_iff_exists'.mp hwide
  -- only the formats of `gralloc_alloc_yuv` itself have such a layout
  have hrgb : rgbLayout p w h format usage = some (.error eInval) := by
    cases format <;> first | rfl | simp [yuvLayout, hstride] at hl
  have hformat : isFrameworkYuv format = false := by
    cases format <;> first | rfl | simp [yuvLayout, hstride] at hl
  simp only [layoutOf, hrgb, hformat, Bool.false_eq_true, if_false, hl,
    Option.bind_eq_bind, Option.bind_some]

/-- What the allocator computes is the exact layout where the dimensions fit. -/
theorem layoutOf_of_fits {l : BufferLayout} (hw : 0 < w) (hh : 0 < h)
    (hl : exactLayout p w h usage format = some l)
    (hfits : Fits p w h usage format) : layoutOf p w h usage format = some l := by
  cases family_of_exactLayout hl with
  | rgb bpp hbpp =>
      rw [← hl, exactLayout_rgb hbpp, layoutOf,
        rgbLayout_of_fits hw hbpp ((fits_rgb hbpp).mp hfits)]
      rfl
  | blob hformat =>
      subst hformat
      cases hl
      simp only [Fits] at hfits
      simp only [layoutOf, rgbLayout, if_true, int_of_lt hfits, size_of_lt p.abi hfits,
        Option.bind_eq_bind, Option.bind_some]
  | planar hformat =>
      have hfits' : align w 16 * h + align (align w 16 / 2) 16 * h + extSize < 2 ^ 31 := by
        obtain rfl | rfl := hformat <;> exact hfits
      have hstride : align w 16 ≤ align w 16 * h := Nat.le_mul_of_pos_right _ hh
      have hcode := frameworkLayout_of_fits (p := p) hh hformat hfits'
      obtain rfl | rfl := hformat <;> cases hl <;>
        exact layoutOf_of_framework rfl
          (alignInt_of_lt (by decide) (by decide) (by omega)) hcode
  | semiPlanar hformat =>
      subst hformat
      cases hl
      exact layoutOf_of_framework rfl
        (alignInt_of_lt (by decide) (by decide) (align_lt_of_semiPlanar hw hh hfits))
        (layout_of_semiPlanar hw hfits)
  | planarM hformat =>
      have hfits' : align h 16 * align w 32 + extSize < 2 ^ 31 := by
        obtain rfl | rfl := hformat <;> exact hfits
      have hcode := layout_of_planarM (p := p) hh hw hformat hfits'
      obtain rfl | rfl := hformat <;> cases hl <;> exact layoutOf_of_yuv hcode
  | tiled hformat =>
      subst hformat
      cases hl
      exact layoutOf_of_yuv (layout_of_tiled hh hw hfits)
  | semiPlanarM hformat =>
      have hfits' : align w 16 * align h 16 + extSize < 2 ^ 31 := by
        obtain rfl | rfl | rfl := hformat <;> exact hfits
      have hcode := layout_of_semiPlanarM (p := p) hh hw hformat hfits'
      obtain rfl | rfl | rfl := hformat <;> cases hl <;> exact layoutOf_of_yuv hcode
  | interleaved hformat =>
      subst hformat
      cases hl
      exact layoutOf_of_yuv (layout_of_interleaved hh hfits)

/-! ## The pixels of an exact layout -/

theorem covers_rgb (padded : Bool) (w h : Nat) {bpp : Nat} (hbpp : 0 < bpp) :
    w ≤ rowBytes padded w bpp / bpp ∧
      4 * bpp * (rowBytes padded w bpp / bpp * rowCount padded h) ≤
        4 * (align (rowBytes padded w bpp * max (rowCount padded h) (h + 2)) pageSize +
          extSize) := by
  have hwidth := le_rowBytes padded w bpp
  generalize rowBytes padded w bpp = row at hwidth ⊢
  generalize rowCount padded h = rows
  refine ⟨(Nat.le_div_iff_mul_le hbpp).mpr hwidth, ?_⟩
  have hpixels : bpp * (row / bpp * rows) ≤
      align (row * max rows (h + 2)) pageSize + extSize :=
    calc bpp * (row / bpp * rows) = bpp * (row / bpp) * rows := (Nat.mul_assoc _ _ _).symm
      _ ≤ row * rows := Nat.mul_le_mul_right _ (Nat.mul_div_le row bpp)
      _ ≤ row * max rows (h + 2) := Nat.mul_le_mul_left _ (le_max_left _ _)
      _ ≤ align (row * max rows (h + 2)) pageSize := le_align _ (by decide)
      _ ≤ _ := Nat.le_add_right _ _
  rw [Nat.mul_assoc]
  exact Nat.mul_le_mul_left 4 hpixels

/-- Half of an even number of rows, aligned again, is at least a half. -/
theorem le_two_mul_align {x a b : Nat} (ha : 0 < a) (hb : 2 ∣ b) :
    align x b ≤ 2 * align (align x b / 2) a := by
  have hhalf := le_align (align x b / 2) ha
  have heven := Nat.mul_div_cancel' (hb.trans (dvd_align x b))
  omega

/-- The rows of the second plane of the tiled format are half of the rows of the
first one, apart from the heights that are one more than a multiple of 64. -/
theorem tiled_rows (h : Nat) :
    (h % 64 ≠ 1 → align h 32 ≤ 2 * align (h / 2) 32) ∧
      (h % 64 = 1 → align h 32 = 2 * align (h / 2) 32 + 32) := by
  simp only [align]
  omega

theorem covers_tiled :
    2 * (align w 16 * align h 32) ≤ 4 * (align (h / 2) 32 * align w 16 + extSize) ↔
      (h % 64 = 1 → w ≤ 16) := by
  obtain ⟨hhalf, hodd⟩ := tiled_rows h
  by_cases h64 : h % 64 = 1
  · -- sixteen rows are missing, and `ext_size` is one row of sixteen pixels
    have hrows : align w 16 * align h 32 =
        2 * (align (h / 2) 32 * align w 16) + 32 * align w 16 := by
      rw [hodd h64, Nat.mul_comm, Nat.add_mul, Nat.mul_assoc]
    have hwide : align w 16 ≤ 16 ↔ w ≤ 16 :=
      ⟨(le_align w (by decide)).trans, align_le_of_dvd (by decide) (dvd_refl 16)⟩
    rw [hrows, ← hwide]
    simp only [extSize, h64, true_imp_iff]
    omega
  · have hrows : align w 16 * align h 32 ≤ 2 * (align (h / 2) 32 * align w 16) := by
      rw [Nat.mul_comm, ← Nat.mul_assoc]
      exact Nat.mul_le_mul_right _ (hhalf h64)
    simp only [extSize, h64, false_imp_iff, iff_true]
    omega

/-- The exact layout covers the pixels, and in the tiled format it needs the
rows of the second plane for it. -/
theorem covers_iff {l : BufferLayout} (hl : exactLayout p w h usage format = some l) :
    l.Covers w format ↔ HasChromaRows w h format := by
  have hwide : w ≤ align w 16 := le_align w (by decide)
  cases family_of_exactLayout hl with
  | rgb bpp hbpp =>
      have hnot : format ≠ .exynosYCbCr420SPMTiled := by
        rintro rfl
        cases hbpp
      rw [exactLayout_rgb hbpp] at hl
      cases hl
      obtain ⟨hwidth, hpixels⟩ := covers_rgb (isPadded p usage format) w h
        (bytesPerPixel_pos hbpp)
      simp only [BufferLayout.Covers, bytesOfFour_rgb hbpp, List.forall₂_cons, hwidth,
        hpixels, List.Forall₂.nil, HasChromaRows, hnot, false_imp_iff, and_self]
  | blob hformat =>
      subst hformat
      cases hl
      simp [BufferLayout.Covers, bytesOfFour, HasChromaRows]
  | planar hformat =>
      have hrows : align w 16 * h ≤ 2 * (align (align w 16 / 2) 16 * h) := by
        rw [← Nat.mul_assoc]
        exact Nat.mul_le_mul_right h (le_two_mul_align (by decide) (by decide))
      have hpixels : 6 * (align w 16 * h) ≤
          4 * (align w 16 * h + align (align w 16 / 2) 16 * h + extSize) := by omega
      obtain rfl | rfl := hformat <;> cases hl <;>
        simp [BufferLayout.Covers, bytesOfFour, HasChromaRows, hwide, hpixels]
  | semiPlanar hformat =>
      subst hformat
      cases hl
      have hrows : w * h ≤ w * align h 16 := Nat.mul_le_mul_left w (le_align h (by decide))
      have hpixels : 6 * (w * h) ≤ 4 * (w * align h 16 * 3 / 2 + extSize) := by
        simp only [extSize]
        omega
      simp [BufferLayout.Covers, bytesOfFour, HasChromaRows, hpixels]
  | planarM hformat =>
      have hluma : align w 32 * align h 16 ≤ align h 16 * align w 32 + extSize := by
        rw [Nat.mul_comm]
        exact Nat.le_add_right _ _
      have hrows : align w 32 * align h 16 ≤
          4 * (align h 16 / 2 * align (align w 32 / 2) 16 + extSize) := by
        have hhalf : align w 32 ≤ 2 * align (align w 32 / 2) 16 :=
          le_two_mul_align (by decide) (by decide)
        have heven : 2 * (align h 16 / 2) = align h 16 :=
          Nat.mul_div_cancel' ((by decide : 2 ∣ 16).trans (dvd_align h 16))
        calc align w 32 * align h 16
            ≤ 2 * align (align w 32 / 2) 16 * (2 * (align h 16 / 2)) := by
              rw [heven]
              exact Nat.mul_le_mul_right _ hhalf
          _ = 4 * (align h 16 / 2 * align (align w 32 / 2) 16) := by ring
          _ ≤ _ := Nat.mul_le_mul_left 4 (Nat.le_add_right _ _)
      have hwider : w ≤ align w 32 := le_align w (by decide)
      obtain rfl | rfl := hformat <;> cases hl <;>
        simp [BufferLayout.Covers, bytesOfFour, HasChromaRows, hwider, hluma, hrows]
  | tiled hformat =>
      subst hformat
      cases hl
      have hluma : align w 16 * align h 32 ≤ align h 32 * align w 16 + extSize := by
        rw [Nat.mul_comm]
        exact Nat.le_add_right _ _
      simp [BufferLayout.Covers, bytesOfFour, HasChromaRows, hwide, hluma, covers_tiled]
  | semiPlanarM hformat =>
      have hrows : 2 * (align w 16 * align h 16) ≤
          4 * (align w 16 * align (align h 16 / 2) 8 + extSize) := by
        have hhalf : align h 16 ≤ 2 * align (align h 16 / 2) 8 :=
          le_two_mul_align (by decide) (by decide)
        have hmul := Nat.mul_le_mul_left (align w 16) hhalf
        rw [Nat.mul_left_comm] at hmul
        omega
      obtain rfl | rfl | rfl := hformat <;> cases hl <;>
        simp [BufferLayout.Covers, bytesOfFour, HasChromaRows, hwide, hrows]
  | interleaved hformat =>
      subst hformat
      cases hl
      have hpixels : 8 * (align w 16 * h) ≤ 4 * (h * align w 16 * 2 + extSize) := by
        rw [Nat.mul_comm (align w 16) h]
        omega
      simp [BufferLayout.Covers, bytesOfFour, HasChromaRows, hwide, hpixels]

/-! ## Dimensions that do not fit -/

theorem rgb_fits_of_size {total : Nat} (h : align total pageSize + extSize < 2 ^ 31) :
    total + pageSize ≤ 2 ^ 31 := by
  have hlt : align total 4096 < 2 ^ 31 := lt_of_le_of_lt (Nat.le_add_right _ _) h
  have hle := add_lt_of_align_lt (show 0 < 4096 by decide) (by decide) hlt
  simp only [pageSize]
  omega

/-- The `int` product of the semi-planar framework format. -/
theorem semiPlanar_lt {l : BufferLayout}
    (hl : layoutOf p w h usage .yCrCb420SP = some l) : w * align h 16 * 3 < 2 ^ 31 := by
  simp only [layoutOf, rgbLayout, bytesPerPixel, isFrameworkYuv, frameworkLayout,
    reduceCtorEq, if_true, if_false, Option.bind_eq_bind, Option.bind_some,
    Option.bind_eq_some_iff, int_eq_some] at hl
  obtain ⟨_, -, _, ⟨vstride, hhigh, _, ⟨-, rfl⟩, _, ⟨hboth, -⟩, -⟩, -⟩ := hl
  rwa [(alignInt_eq_some hhigh).2] at hboth

/-- The size that the handle keeps of an exact layout bounds the dimensions. -/
theorem fits_of_size {l : BufferLayout} {size : Nat}
    (hl : exactLayout p w h usage format = some l) (hcode : layoutOf p w h usage format ≠ none)
    (hfirst : l.sizes.head? = some size) (hsize : size < 2 ^ 31) :
    Fits p w h usage format := by
  cases family_of_exactLayout hl with
  | rgb bpp hbpp =>
      rw [exactLayout_rgb hbpp] at hl
      cases hl
      cases hfirst
      exact (fits_rgb hbpp).mpr (rgb_fits_of_size hsize)
  | semiPlanar hformat =>
      subst hformat
      obtain ⟨l', hl'⟩ := Option.ne_none_iff_exists'.mp hcode
      exact semiPlanar_lt hl'
  | blob hformat | tiled hformat | interleaved hformat =>
      subst hformat
      cases hl
      cases hfirst
      exact hsize
  | planar hformat | planarM hformat =>
      obtain rfl | rfl := hformat <;> cases hl <;> cases hfirst <;> exact hsize
  | semiPlanarM hformat =>
      obtain rfl | rfl | rfl := hformat <;> cases hl <;> cases hfirst <;> exact hsize

/-! ## The call -/

/-- The usage that is left once the area is compared with the framebuffer. -/
def exactUsage (p : Platform) (w h : Nat) (usage : UInt32) : UInt32 :=
  if has usage p.bits.gpuBuffer ∧ w * h ≠ p.xres * p.yres then
    usage &&& ~~~p.bits.gpuBuffer
  else usage

theorem gpuUsage_eq_some {usage' : UInt32} :
    gpuUsage p w h usage = some usage' ↔
      (has usage p.bits.gpuBuffer → w * h < 2 ^ 31 ∧ p.xres * p.yres < 2 ^ 31) ∧
        exactUsage p w h usage = usage' := by
  by_cases hgpu : has usage p.bits.gpuBuffer
  · by_cases harea : w * h = p.xres * p.yres <;>
      simp [gpuUsage, exactUsage, hgpu, harea, Option.bind_eq_some_iff, and_assoc]
  · simp [gpuUsage, exactUsage, hgpu]

/-- Ion has the memory for every request. -/
def Granting (answers : IonAnswers) : Prop :=
  ∀ n r, ∃ fd, answers n r = .ok fd

/-- The handle and the buffers of a layout. -/
structure HasLayout (hnd : PrivateHandle) (stride : Nat) (ion ion' : Ion)
    (l : BufferLayout) : Prop where
  returned : stride = l.stride
  vstride : hnd.vstride = l.vstride
  first : l.sizes.head? = some hnd.size
  size_lt : hnd.size < 2 ^ 31
  opened : (ion'.openedSince ion).map Prod.snd = l.sizes

theorem PrivateHandle.new_lt {fd fd1 fd2 : Int} {size w h : Nat} {flags : UInt32}
    {format : PixelFormat} {stride vstride : Nat} {hnd : PrivateHandle}
    (hnew : PrivateHandle.new fd fd1 fd2 size flags w h format stride vstride =
      some hnd) : size < 2 ^ 31 := by
  simp only [PrivateHandle.new, Option.bind_eq_bind, Option.bind_eq_some_iff,
    int_eq_some] at hnew
  obtain ⟨_, ⟨hsize, -⟩, -⟩ := hnew
  exact hsize

theorem PrivateHandle.exists_new (fd fd1 fd2 : Int) {size : Nat} (flags : UInt32)
    (w h : Nat) (format : PixelFormat) (stride : Nat) {vstride : Nat}
    (hsize : size < 2 ^ 31) (hvstride : vstride < 2 ^ 31) :
    ∃ hnd, PrivateHandle.new fd fd1 fd2 size flags w h format stride vstride =
      some hnd := by
  simp only [PrivateHandle.new, int_of_lt hsize, int_of_lt hvstride,
    Option.bind_eq_bind, Option.bind_some, Option.some.injEq, exists_eq']

theorem hasLayout_of_one {fd fd1 fd2 : Int} {size stride vstride : Nat}
    {hnd : PrivateHandle} {ion ion' : Ion}
    (hnew : PrivateHandle.new fd fd1 fd2 size usage w h format stride vstride = some hnd)
    (hbuffers : ion'.buffers = ion.buffers ++ [(fd, size)]) :
    HasLayout hnd stride ion ion' ⟨stride, vstride, [size]⟩ := by
  obtain ⟨-, -, -, hsize, -, -, -, hvstride⟩ := PrivateHandle.new_eq_some hnew
  constructor
  case returned => rfl
  case vstride => exact hvstride
  case first => rw [hsize]; rfl
  case size_lt => exact hsize ▸ PrivateHandle.new_lt hnew
  case opened => simp [Ion.openedSince, hbuffers]

/-- The memory of a YUV buffer, whatever descriptors ion gives. -/
theorem yuvMemory_sizes {answers : IonAnswers} {l : YuvLayout}
    {heapMask ionFlags : UInt32} {ion ion' : Ion} {fds : Int × Int × Int}
    (hmem : yuvMemory answers l heapMask ionFlags ion = (.ok fds, ion')) :
    (ion'.openedSince ion).map Prod.snd = l.sizes := by
  unfold yuvMemory at hmem
  split at hmem
  · cases hmem
  · rename_i hfd
    have hfirst := (Ion.allocFd_ok hfd).2
    split at hmem
    · rename_i hone
      cases hmem
      simp [Ion.openedSince, hfirst, YuvLayout.sizes, hone]
    · rename_i hone
      split at hmem
      · cases hmem
      · rename_i hfd1
        have hsecond := (Ion.allocFd_ok hfd1).2
        split at hmem
        · rename_i hthree
          split at hmem
          · cases hmem
          · rename_i hfd2
            have hthird := (Ion.allocFd_ok hfd2).2
            cases hmem
            simp [Ion.openedSince, hthird, hsecond, hfirst, YuvLayout.sizes, hthree]
        · rename_i hthree
          have htwo : l.planes = .two := by
            cases hplanes : l.planes <;> simp_all
          cases hmem
          simp [Ion.openedSince, hsecond, hfirst, YuvLayout.sizes, htwo]

theorem YuvLayout.sizes_head? (l : YuvLayout) : l.sizes.head? = some l.lumaSize := by
  unfold sizes
  split <;> rfl

/-- A format that `gralloc_alloc_rgb` refuses has no bytes per pixel. -/
theorem not_rgb_of_rgbLayout {err : Int}
    (hl : rgbLayout p w h format usage = some (.error err)) :
    format ≠ .blob ∧ bytesPerPixel format = none := by
  constructor
  · rintro rfl
    simp [rgbLayout, Option.bind_eq_some_iff] at hl
  · cases hbpp : bytesPerPixel format with
    | none => rfl
    | some bpp =>
        rw [rgbLayout_eq_bind hbpp] at hl
        simp [rgbTotal, Option.bind_eq_some_iff] at hl

theorem rgbFormat_ok {format' : PixelFormat} (hf : rgbFormat p format usage = .ok format') :
    format' = format ∨ format' = .bgra8888 := by
  unfold rgbFormat at hf
  split at hf
  · split at hf
    · cases hf
      exact .inr rfl
    · split at hf
      · split at hf
        · cases hf
        · cases hf
          exact .inr rfl
      · cases hf
        exact .inl rfl
  · cases hf
    exact .inl rfl

theorem yuvFormat_of_ne (hne : format ≠ .implementationDefined) :
    yuvFormat p format usage = format := by
  simp only [yuvFormat, hne, if_false]

theorem rgbFormat_of_ne (hne : format ≠ .rgba8888) :
    rgbFormat p format usage = .ok format := by
  simp only [rgbFormat, hne, if_false]

theorem layoutOf_of_rgb {format' : PixelFormat} {l : RgbLayout}
    (hf : rgbFormat p format usage = .ok format')
    (hl : rgbLayout p w h format' usage = some (.ok l)) :
    chosenFormat p format usage = some format' ∧
      layoutOf p w h usage format' = some ⟨l.stride, l.vstride, [l.size]⟩ := by
  have hne : format' ≠ .implementationDefined := by
    rintro rfl
    cases hl
  constructor
  · simp only [chosenFormat, hf, yuvFormat_of_ne hne]
  · simp only [layoutOf, hl, Option.bind_eq_bind, Option.bind_some]

theorem chosenFormat_of_yuvFormat {other : PixelFormat}
    (hother : yuvFormat p format usage = other) (hne : other ≠ .rgba8888) :
    chosenFormat p format usage = some other := by
  have hformat : format ≠ .rgba8888 := by
    rintro rfl
    exact hne hother.symm
  simp only [chosenFormat, rgbFormat_of_ne hformat, hother]

theorem grallocAllocRgb_layout {answers : IonAnswers} {ionFlags : UInt32}
    {ion ion' : Ion} {hnd : PrivateHandle} {stride : Nat}
    (halloc : grallocAllocRgb p answers w h format usage ionFlags ion =
      some (.ok (hnd, stride), ion')) :
    ∃ f l, chosenFormat p format usage = some f ∧ layoutOf p w h usage f = some l ∧
      HasLayout hnd stride ion ion' l := by
  obtain ⟨format', l, _, _, hf, hlayout, hmem, hnew, rfl⟩ := grallocAllocRgb_eq_ok halloc
  obtain ⟨hchosen, hcode⟩ := layoutOf_of_rgb hf hlayout
  exact ⟨_, _, hchosen, hcode, hasLayout_of_one hnew (rgbMemory_ok hmem)⟩

theorem grallocAllocFrameworkYuv_layout {answers : IonAnswers} {ionFlags : UInt32}
    {ion ion' : Ion} {hnd : PrivateHandle} {stride : Nat}
    (halloc : grallocAllocFrameworkYuv p answers w h format usage ionFlags ion =
      some (.ok (hnd, stride), ion')) :
    ∃ size, frameworkLayout p w h format = some (.ok (size, stride)) ∧
      HasLayout hnd stride ion ion' ⟨stride, h, [size]⟩ := by
  obtain ⟨size, _, hlayout, hmem, hnew⟩ := grallocAllocFrameworkYuv_eq_ok halloc
  exact ⟨size, hlayout, hasLayout_of_one hnew (Ion.allocFd_ok hmem).2⟩

theorem grallocAllocYuv_layout {answers : IonAnswers} {ionFlags : UInt32}
    {ion ion' : Ion} {hnd : PrivateHandle} {stride : Nat}
    (halloc : grallocAllocYuv p answers w h format usage ionFlags ion =
      some (.ok (hnd, stride), ion')) :
    ∃ f l, chosenFormat p format usage = some f ∧ layoutOf p w h usage f = some l ∧
      HasLayout hnd stride ion ion' l := by
  rcases grallocAllocYuv_eq_ok halloc with ⟨aligned, _, hframework, haligned, hpassed⟩ |
    ⟨l, _, _, _, _, hlayout, hmem, hnew, rfl⟩
  · obtain ⟨size, hlayout, hhas⟩ := grallocAllocFrameworkYuv_layout hpassed
    have hne : yuvFormat p format usage ≠ .rgba8888 := by
      intro hrgba
      rw [hrgba] at hframework
      cases hframework
    exact ⟨_, _, chosenFormat_of_yuvFormat rfl hne,
      layoutOf_of_framework hframework haligned hlayout, hhas⟩
  · have hne : yuvFormat p format usage ≠ .rgba8888 := by
      intro hrgba
      rw [hrgba] at hlayout
      obtain ⟨_, -, hlayout⟩ := Option.bind_eq_some_iff.mp hlayout
      cases hlayout
    refine ⟨_, _, chosenFormat_of_yuvFormat rfl hne, layoutOf_of_yuv hlayout, ?_⟩
    obtain ⟨-, -, -, hsize, -, -, -, hvstride⟩ := PrivateHandle.new_eq_some hnew
    exact {
      returned := rfl
      vstride := hvstride
      first := hsize ▸ l.sizes_head?
      size_lt := hsize ▸ PrivateHandle.new_lt hnew
      opened := yuvMemory_sizes hmem }

/-- A buffer has the layout that is computed for its format. -/
theorem grallocAlloc_layout {answers : IonAnswers} {w h : Int} {ion ion' : Ion}
    {hnd : PrivateHandle} {stride : Nat}
    (halloc : grallocAlloc p answers w h format usage ion =
      some (.ok (hnd, stride), ion')) :
    0 < w ∧ 0 < h ∧ ∃ usage' f l, gpuUsage p w.toNat h.toNat usage = some usage' ∧
      chosenFormat p format usage' = some f ∧
      layoutOf p w.toNat h.toNat usage' f = some l ∧ HasLayout hnd stride ion ion' l := by
  obtain ⟨hw, hh, usage', husage, hrgb | ⟨err, ion₁, hrefused, hyuv⟩⟩ := grallocAlloc_eq_ok halloc
  · obtain ⟨f, l, hchosen, hcode, hhas⟩ := grallocAllocRgb_layout hrgb
    exact ⟨hw, hh, usage', f, l, husage, hchosen, hcode, hhas⟩
  · obtain ⟨f, l, hchosen, hcode, hhas⟩ := grallocAllocYuv_layout hyuv
    -- the first allocator has left no buffer
    have hopened : ion'.openedSince ion = ion'.openedSince ion₁ := by
      rw [Ion.openedSince, Ion.openedSince, grallocAllocRgb_error hrefused]
    exact ⟨hw, hh, usage', f, l, husage, hchosen, hcode,
      { hhas with opened := hopened ▸ hhas.opened }⟩

/-! ## Requests that ion grants -/

theorem Granting.allocFd {answers : IonAnswers} (hgrant : Granting answers) (ion : Ion)
    (request : IonRequest) : ∃ fd ion', ion.allocFd answers request = (.ok fd, ion') := by
  obtain ⟨fd, hfd⟩ := hgrant ion.requests request
  simp only [Ion.allocFd, hfd, Prod.mk.injEq, Except.ok.injEq, exists_and_left,
    exists_eq', and_true]

theorem Granting.rgbMemory {answers : IonAnswers} (hgrant : Granting answers) (size : Nat)
    (usage ionFlags : UInt32) (ion : Ion) :
    ∃ fd ion', rgbMemory p answers size usage ionFlags ion = (.ok fd, usage, ion') := by
  obtain ⟨fd, ion', hfd⟩ := hgrant.allocFd ion
    ⟨size, (rgbProtection p usage ionFlags).1, selectHeap p usage,
      (rgbProtection p usage ionFlags).2⟩
  exact ⟨fd, ion', by simp only [Gralloc.rgbMemory, hfd]⟩

theorem Granting.yuvMemory {answers : IonAnswers} (hgrant : Granting answers)
    (l : YuvLayout) (heapMask ionFlags : UInt32) (ion : Ion) :
    ∃ fds ion', yuvMemory answers l heapMask ionFlags ion = (.ok fds, ion') := by
  obtain ⟨fd, ion₁, hfd⟩ := hgrant.allocFd ion ⟨l.lumaSize, 0, heapMask, ionFlags⟩
  obtain ⟨fd1, ion₂, hfd1⟩ := hgrant.allocFd ion₁ ⟨l.chromaSize, 0, heapMask, ionFlags⟩
  obtain ⟨fd2, ion₃, hfd2⟩ := hgrant.allocFd ion₂ ⟨l.chromaSize, 0, heapMask, ionFlags⟩
  cases hplanes : l.planes with
  | one =>
      refine ⟨(fd, -1, -1), ion₁, ?_⟩
      simp only [Gralloc.yuvMemory, hfd, hplanes, if_true]
  | two =>
      refine ⟨(fd, fd1, -1), ion₂, ?_⟩
      simp only [Gralloc.yuvMemory, hfd, hfd1, hplanes, reduceCtorEq, if_false]
  | three =>
      refine ⟨(fd, fd1, fd2), ion₃, ?_⟩
      simp only [Gralloc.yuvMemory, hfd, hfd1, hfd2, hplanes, reduceCtorEq, if_false, if_true]

/-- The format is replaced after the RGB allocator has refused it. -/
theorem rgbLayout_yuvFormat :
    rgbLayout p w h (yuvFormat p format usage) usage = rgbLayout p w h format usage := by
  by_cases hformat : format = .implementationDefined
  · subst hformat
    simp only [yuvFormat, if_true]
    split_ifs <;> rfl
  · rw [yuvFormat_of_ne hformat]

/-- A layout below the limit of an `int` is allocated. -/
theorem exists_grallocAllocRgb {answers : IonAnswers} (hgrant : Granting answers)
    {format' : PixelFormat} {l : RgbLayout} (ionFlags : UInt32) (ion : Ion)
    (hf : rgbFormat p format usage = .ok format')
    (hl : rgbLayout p w h format' usage = some (.ok l))
    (hsize : l.size < 2 ^ 31) (hvstride : l.vstride < 2 ^ 31) :
    ∃ hnd ion', grallocAllocRgb p answers w h format usage ionFlags ion =
      some (.ok (hnd, l.stride), ion') := by
  obtain ⟨fd, ion', hmem⟩ := hgrant.rgbMemory (p := p) l.size usage ionFlags ion
  obtain ⟨hnd, hnew⟩ := PrivateHandle.exists_new fd (-1) (-1) usage w h format' l.stride
    hsize hvstride
  exact ⟨hnd, ion', by simp only [grallocAllocRgb, hf, hl, hmem, hnew,
    Option.bind_eq_bind, Option.bind_some]⟩

theorem exists_grallocAllocYuv {answers : IonAnswers} (hgrant : Granting answers)
    {l : BufferLayout} {size : Nat} {err : Int} (ionFlags : UInt32) (ion : Ion)
    (hrgb : rgbLayout p w h (yuvFormat p format usage) usage = some (.error err))
    (hl : layoutOf p w h usage (yuvFormat p format usage) = some l)
    (hfirst : l.sizes.head? = some size)
    (hsize : size < 2 ^ 31) (hvstride : l.vstride < 2 ^ 31) :
    ∃ hnd stride ion', grallocAllocYuv p answers w h format usage ionFlags ion =
      some (.ok (hnd, stride), ion') := by
  simp only [layoutOf, hrgb, Option.bind_eq_bind, Option.bind_some] at hl
  unfold grallocAllocYuv
  dsimp only
  generalize yuvFormat p format usage = other at hl ⊢
  generalize (if has usage p.bits.usageProtected then ionFlags ||| ionExynosMfcOutputMask
    else ionFlags) = ionFlags
  split at hl
  · rename_i hframework
    obtain ⟨aligned, haligned, hl⟩ := Option.bind_eq_some_iff.mp hl
    obtain ⟨layout, hlayout, hl⟩ := Option.bind_eq_some_iff.mp hl
    split at hl
    · rename_i size stride
      cases hl
      cases hfirst
      obtain ⟨fd, ion', hmem⟩ := hgrant.allocFd ion
        ⟨size, 0, selectHeap p usage, ionFlags⟩
      obtain ⟨hnd, hnew⟩ := PrivateHandle.exists_new fd (-1) (-1) usage w h other stride
        hsize hvstride
      exact ⟨hnd, stride, ion', by simp only [hframework, if_true, haligned,
        grallocAllocFrameworkYuv, hlayout, hmem, hnew, Option.bind_eq_bind,
        Option.bind_some]⟩
    · cases hl
  · rename_i hframework
    obtain ⟨layout, hlayout, hl⟩ := Option.bind_eq_some_iff.mp hl
    split at hl
    · rename_i l
      cases hl
      rw [l.sizes_head?] at hfirst
      cases hfirst
      obtain ⟨⟨fd, fd1, fd2⟩, ion', hmem⟩ := hgrant.yuvMemory l (selectHeap p usage)
        ionFlags ion
      obtain ⟨hnd, hnew⟩ := PrivateHandle.exists_new fd fd1 fd2 usage w h other l.stride
        hsize hvstride
      exact ⟨hnd, l.stride, ion', by simp only [hframework, Bool.false_eq_true, if_false,
        hlayout, hmem, hnew, Option.bind_eq_bind, Option.bind_some]⟩
    · cases hl

theorem exists_grallocAlloc {answers : IonAnswers} (hgrant : Granting answers) {w h : Int}
    (hw : 0 < w) (hh : 0 < h) {usage' : UInt32} {f : PixelFormat} {l : BufferLayout}
    {size : Nat} (ion : Ion) (husage : gpuUsage p w.toNat h.toNat usage = some usage')
    (hchosen : chosenFormat p format usage' = some f)
    (hl : layoutOf p w.toNat h.toNat usage' f = some l)
    (hfirst : l.sizes.head? = some size)
    (hsize : size < 2 ^ 31) (hvstride : l.vstride < 2 ^ 31) :
    ∃ hnd stride ion', grallocAlloc p answers w h format usage ion =
      some (.ok (hnd, stride), ion') := by
  have hdims : ¬ (w ≤ 0 ∨ h ≤ 0) := by omega
  simp only [grallocAlloc, hdims, if_false, husage, Option.bind_eq_bind, Option.bind_some]
  unfold chosenFormat at hchosen
  split at hchosen
  · cases hchosen
  · rename_i format' hf
    cases hchosen
    have hl' := hl
    obtain ⟨layout, hlayout, hl⟩ := Option.bind_eq_some_iff.mp hl
    split at hl
    · rename_i lr
      cases hl
      cases hfirst
      rw [rgbLayout_yuvFormat] at hlayout
      obtain ⟨hnd, ion', hrgb⟩ := exists_grallocAllocRgb hgrant (cacheFlags p usage) ion hf
        hlayout hsize hvstride
      exact ⟨hnd, lr.stride, ion', by simp only [hrgb, Option.bind_some]⟩
    · rename_i err
      -- a format that the RGB allocator refuses has not been replaced by it
      obtain ⟨-, hbpp⟩ := not_rgb_of_rgbLayout (rgbLayout_yuvFormat ▸ hlayout)
      obtain rfl | rfl := rgbFormat_ok hf
      · obtain ⟨hnd, stride, ion', hyuv⟩ := exists_grallocAllocYuv hgrant
          (cacheFlags p usage) ion hlayout hl' hfirst hsize hvstride
        have hrgb : grallocAllocRgb p answers w.toNat h.toNat format' usage'
            (cacheFlags p usage) ion = some (.error err, ion) := by
          rw [rgbLayout_yuvFormat] at hlayout
          simp only [grallocAllocRgb, hf, hlayout, Option.bind_eq_bind, Option.bind_some]
        exact ⟨hnd, stride, ion', by simp only [hrgb, hyuv, Option.bind_some]⟩
      · cases hbpp

/-! ## The bounds of a layout that fits -/

/-- The first plane of a layout that fits and its rows are below the limit. -/
theorem size_lt_of_fits {l : BufferLayout} (hw : 0 < w) (hh : 0 < h)
    (hl : exactLayout p w h usage format = some l) (hfits : Fits p w h usage format) :
    l.vstride < 2 ^ 31 ∧ ∃ size, l.sizes.head? = some size ∧ size < 2 ^ 31 := by
  have hrows : ∀ {stride : Nat} (rows : Nat), 0 < stride → rows ≤ stride * rows :=
    fun rows hstride => Nat.le_mul_of_pos_left rows hstride
  have hwide : 0 < align w 16 := align_pos hw (by decide)
  cases family_of_exactLayout hl with
  | rgb bpp hbpp =>
      rw [exactLayout_rgb hbpp] at hl
      cases hl
      have hfit := (fits_rgb hbpp).mp hfits
      have hrow := rowBytes_pos (isPadded p usage format) hw (bytesPerPixel_pos hbpp)
      have hmax := hrows (max (rowCount (isPadded p usage format) h) (h + 2)) hrow
      have hpage : align (rowBytes (isPadded p usage format) w bpp *
          max (rowCount (isPadded p usage format) h) (h + 2)) 4096 ≤ 2 ^ 31 - 4096 :=
        align_le_of_dvd (by decide) (by decide) (by simp only [pageSize] at hfit; omega)
      refine ⟨by simp only [pageSize] at hfit ⊢; omega, _, rfl, ?_⟩
      simp only [pageSize, extSize]
      omega
  | blob hformat =>
      subst hformat
      cases hl
      exact ⟨lt_of_le_of_lt (hrows h hw) hfits, _, rfl, hfits⟩
  | planar hformat =>
      have hlt := hrows h hwide
      obtain rfl | rfl := hformat <;> cases hl <;> simp only [Fits] at hfits <;>
        exact ⟨by simp only; omega, _, rfl, hfits⟩
  | semiPlanar hformat =>
      subst hformat
      cases hl
      simp only [Fits] at hfits
      have hlt := hrows (align h 16) hw
      have hhigh : h ≤ align h 16 := le_align h (by decide)
      refine ⟨by simp only; omega, _, rfl, ?_⟩
      simp only [extSize]
      omega
  | planarM hformat =>
      have hlt := hrows (align h 16) (align_pos (a := 32) hw (by decide))
      rw [Nat.mul_comm] at hlt
      obtain rfl | rfl := hformat <;> cases hl <;> simp only [Fits] at hfits <;>
        exact ⟨by simp only; omega, _, rfl, hfits⟩
  | tiled hformat =>
      subst hformat
      cases hl
      simp only [Fits] at hfits
      have hlt := hrows (align h 32) hwide
      rw [Nat.mul_comm] at hlt
      exact ⟨by simp only; omega, _, rfl, hfits⟩
  | semiPlanarM hformat =>
      have hlt := hrows (align h 16) hwide
      obtain rfl | rfl | rfl := hformat <;> cases hl <;> simp only [Fits] at hfits <;>
        exact ⟨by simp only; omega, _, rfl, hfits⟩
  | interleaved hformat =>
      subst hformat
      cases hl
      simp only [Fits] at hfits
      have hlt := hrows h hwide
      rw [Nat.mul_comm] at hlt
      exact ⟨by simp only; omega, _, rfl, hfits⟩

/-- The area of a layout that fits is below the limit too. -/
theorem area_lt_of_fits {l : BufferLayout}
    (hl : exactLayout p w h usage format = some l) (hfits : Fits p w h usage format) :
    w * h < 2 ^ 31 := by
  have hwide : w ≤ align w 16 := le_align w (by decide)
  cases family_of_exactLayout hl with
  | rgb bpp hbpp =>
      have hfit := (fits_rgb hbpp).mp hfits
      have hrow := le_rowBytes (isPadded p usage format) w bpp
      have hbytes : w ≤ w * bpp := Nat.le_mul_of_pos_right w (bytesPerPixel_pos hbpp)
      have harea := Nat.mul_le_mul (hbytes.trans hrow)
        (show h ≤ max (rowCount (isPadded p usage format) h) (h + 2) by omega)
      simp only [pageSize] at hfit
      omega
  | blob hformat =>
      subst hformat
      exact hfits
  | planar hformat =>
      have harea := Nat.mul_le_mul_right h hwide
      obtain rfl | rfl := hformat <;> simp only [Fits] at hfits <;> omega
  | semiPlanar hformat =>
      subst hformat
      have harea := Nat.mul_le_mul_left w (le_align h (show 0 < 16 by decide))
      simp only [Fits] at hfits
      omega
  | planarM hformat =>
      have harea := Nat.mul_le_mul (le_align w (show 0 < 32 by decide))
        (le_align h (show 0 < 16 by decide))
      rw [Nat.mul_comm (align w 32)] at harea
      obtain rfl | rfl := hformat <;> simp only [Fits] at hfits <;> omega
  | tiled hformat =>
      subst hformat
      have harea := Nat.mul_le_mul hwide (le_align h (show 0 < 32 by decide))
      rw [Nat.mul_comm (align w 16)] at harea
      simp only [Fits] at hfits
      omega
  | semiPlanarM hformat =>
      have harea := Nat.mul_le_mul hwide (le_align h (show 0 < 16 by decide))
      obtain rfl | rfl | rfl := hformat <;> simp only [Fits] at hfits <;> omega
  | interleaved hformat =>
      subst hformat
      have harea := Nat.mul_le_mul_right h hwide
      rw [Nat.mul_comm (align w 16)] at harea
      simp only [Fits] at hfits
      omega

/-! ## Buffers and their pixels -/

/-- The format and the exact layout of a request. -/
def requestLayout (p : Platform) (w h : Int) (format : PixelFormat) (usage : UInt32) :
    Option (PixelFormat × BufferLayout) :=
  if w ≤ 0 ∨ h ≤ 0 then none
  else do
    let usage := exactUsage p w.toNat h.toNat usage
    let format ← chosenFormat p format usage
    let l ← exactLayout p w.toNat h.toNat usage format
    some (format, l)

/-- The buffers of a request have the sizes that its strides need. -/
structure SizesCover (p : Platform) (w h : Int) (format : PixelFormat)
    (usage : UInt32) : Prop where
  /-- a request that has a layout is granted, without an overflow on the way -/
  granted : ∀ f l, requestLayout p w h format usage = some (f, l) →
    ∀ answers ion, Granting answers → ∃ hnd stride ion',
      grallocAlloc p answers w h format usage ion = some (.ok (hnd, stride), ion')
  /-- what is allocated is exact and covers the pixels -/
  covers : ∀ answers ion hnd stride ion',
    grallocAlloc p answers w h format usage ion = some (.ok (hnd, stride), ion') →
      ∃ f l, requestLayout p w h format usage = some (f, l) ∧
        HasLayout hnd stride ion ion' l ∧ l.Covers w.toNat f

/-- The dimensions of a request that are handled: no product overflows, and the
second plane of the tiled format has its rows. -/
structure HasBounds (p : Platform) (w h : Nat) (usage : UInt32) (format : PixelFormat) :
    Prop where
  screen : has usage p.bits.gpuBuffer → p.xres * p.yres < 2 ^ 31
  fits : Fits p w h (exactUsage p w h usage) format
  chromaRows : HasChromaRows w h format

theorem requestLayout_eq_some {w h : Int} {f : PixelFormat} {l : BufferLayout} :
    requestLayout p w h format usage = some (f, l) ↔ 0 < w ∧ 0 < h ∧
      chosenFormat p format (exactUsage p w.toNat h.toNat usage) = some f ∧
        exactLayout p w.toNat h.toNat (exactUsage p w.toNat h.toNat usage) f = some l := by
  unfold requestLayout
  split
  · rename_i hdims
    simp only [reduceCtorEq, false_iff]
    omega
  · rename_i hdims
    simp only [Option.bind_eq_bind, Option.bind_eq_some_iff, Option.some.injEq,
      Prod.mk.injEq]
    constructor
    · rintro ⟨f, hchosen, l, hl, rfl, rfl⟩
      exact ⟨by omega, by omega, hchosen, hl⟩
    · rintro ⟨-, -, hchosen, hl⟩
      exact ⟨f, hchosen, l, hl, rfl, rfl⟩

/-- The buffers of a request cover its pixels exactly where its dimensions keep
every size below the limit of an `int`. -/
theorem sizesCover_iff (p : Platform) (w h : Int) (format : PixelFormat) (usage : UInt32) :
    SizesCover p w h format usage ↔
      ∀ f l, requestLayout p w h format usage = some (f, l) →
        HasBounds p w.toNat h.toNat usage f := by
  constructor
  · intro hcover f l hrequest
    obtain ⟨hnd, stride, ion', halloc⟩ :=
      hcover.granted f l hrequest (fun _ _ => .ok 0) ⟨0, []⟩ fun _ _ => ⟨0, rfl⟩
    obtain ⟨-, -, usage', f', l', husage, hchosen', hcode, -⟩ := grallocAlloc_layout halloc
    obtain ⟨f'', l'', hrequest', hhas, hcovers⟩ := hcover.covers _ _ _ _ _ halloc
    obtain ⟨rfl, rfl⟩ := Prod.mk.inj (Option.some.inj (hrequest.symm.trans hrequest'))
    obtain ⟨-, -, hchosen, hl⟩ := requestLayout_eq_some.mp hrequest
    obtain ⟨hgpu, rfl⟩ := gpuUsage_eq_some.mp husage
    obtain rfl := Option.some.inj (hchosen.symm.trans hchosen')
    constructor
    case screen => exact fun h => (hgpu h).2
    case fits => exact fits_of_size hl (by simp [hcode]) hhas.first hhas.size_lt
    case chromaRows => exact (covers_iff hl).mp hcovers
  · intro hbounds
    constructor
    case granted =>
      intro f l hrequest answers ion hgrant
      obtain ⟨hw, hh, hchosen, hl⟩ := requestLayout_eq_some.mp hrequest
      obtain ⟨hscreen, hfits, -⟩ := hbounds f l hrequest
      have hw' : 0 < w.toNat := by omega
      have hh' : 0 < h.toNat := by omega
      obtain ⟨hvstride, size, hfirst, hsize⟩ := size_lt_of_fits hw' hh' hl hfits
      have husage := gpuUsage_eq_some.mpr
        ⟨fun hgpu => ⟨area_lt_of_fits hl hfits, hscreen hgpu⟩, rfl⟩
      exact exists_grallocAlloc hgrant hw hh ion husage hchosen
        (layoutOf_of_fits hw' hh' hl hfits) hfirst hsize hvstride
    case covers =>
      intro answers ion hnd stride ion' halloc
      obtain ⟨hw, hh, usage', f, l, husage, hchosen, hcode, hhas⟩ :=
        grallocAlloc_layout halloc
      obtain ⟨-, rfl⟩ := gpuUsage_eq_some.mp husage
      obtain ⟨l', hl⟩ := exists_exactLayout hcode
      have hrequest := requestLayout_eq_some.mpr ⟨hw, hh, hchosen, hl⟩
      obtain ⟨-, hfits, hrows⟩ := hbounds f l' hrequest
      have hsame := layoutOf_of_fits (by omega) (by omega) hl hfits
      obtain rfl := Option.some.inj (hcode.symm.trans hsame)
      exact ⟨f, l, hrequest, hhas, (covers_iff hl).mpr hrows⟩

/-- The platform with 32-bit pointers. -/
def armPlatform : Platform :=
  { platform with abi := .arm }

/-- A square of 32768 pixels gets 256 kilobytes in a 32-bit build, and the second
plane of a tiled buffer of 65 rows gets 32 of its 48 rows. -/
theorem not_sizesCover :
    ¬ SizesCover armPlatform 32768 32768 .rgba8888 0 ∧
      ¬ SizesCover platform 1920 65 .exynosYCbCr420SPMTiled 0 := by
  constructor
  · intro hcover
    obtain ⟨f, l, hrequest, hhas, -⟩ :=
      hcover.covers (fun _ _ => .ok 40) ⟨0, []⟩ _ _ _ rfl
    have hexact : requestLayout armPlatform 32768 32768 .rgba8888 0 =
        some (.rgba8888, ⟨32768, 32768, [2 ^ 32 + 2 ^ 18 + 256]⟩) := by decide
    obtain ⟨rfl, rfl⟩ := Prod.mk.inj (Option.some.inj (hexact.symm.trans hrequest))
    exact absurd hhas.opened (by decide)
  · intro hcover
    obtain ⟨f, l, hrequest, -, -, hpixels⟩ :=
      hcover.covers (fun n _ => .ok (40 + n)) ⟨0, []⟩ _ _ _ rfl
    have hexact : requestLayout platform 1920 65 .exynosYCbCr420SPMTiled 0 =
        some (.exynosYCbCr420SPMTiled, ⟨1920, 96, [184576, 61696]⟩) := by decide
    obtain ⟨rfl, rfl⟩ := Prod.mk.inj (Option.some.inj (hexact.symm.trans hrequest))
    exact absurd hpixels (by decide)

end Gralloc
end Exynos8890
