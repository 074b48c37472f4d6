import Exynos8890.Gralloc.PrivateHandle
import Mathlib.Data.List.TakeWhile

/-!
# Mapping the planes of a buffer

The mapper computes the sizes of the second and the third plane again, from the
integers in the handle.

Main results:

- Definitions `grallocMap` and `grallocUnmap`.
- Theorem `grallocAlloc_planes`: the planes that the mapper computes from a new
  handle are the buffers that were allocated for it.
- Theorem `mapped_eq_allocated`: what is mapped and unmapped has the sizes of
  the buffers, whatever was mapped before.
-/

namespace Exynos8890
namespace Gralloc

open MachineInt

/-! ## Definitions -/

/-- The switch that `gralloc_map` and `gralloc_unmap` both start with. -/
def chromaSize (abi : Abi) (format : PixelFormat) (height stride vstride : Nat) :
    Option Nat :=
  match format with
  | .exynosYCbCr420SPMTiled => do
      let chromaVstride ← alignInt (height / 2) 32
      some (abi.size (chromaVstride * stride + extSize))
  | .exynosYCrCb420SPM | .exynosYCrCb420SPMFull | .exynosYCbCr420SPM => do
      let chromaVstride ← alignInt (vstride / 2) 8
      let chroma ← int (stride * chromaVstride)
      some (abi.size (chroma + extSize))
  | .exynosYV12M | .exynosYCbCr420PM => do
      let chromaStride ← alignInt (stride / 2) 16
      let chroma ← int (vstride / 2 * chromaStride)
      some (abi.size (chroma + extSize))
  | _ => some 0

/-- The chroma size of a handle. -/
def PrivateHandle.chromaSize (abi : Abi) (hnd : PrivateHandle) : Option Nat :=
  Gralloc.chromaSize abi hnd.format hnd.height hnd.stride hnd.vstride

/-- `MAP_FAILED`. -/
def mapFailed (abi : Abi) : Nat :=
  2 ^ abi.sizeBits - 1

/-- One call of `mmap`: descriptor, length and result. -/
structure Mapping where
  fd : Int
  length : Nat
  address : Nat
  deriving DecidableEq

/-- What `mmap` gives for the planes, an `errno` or an address. -/
structure MmapAnswers where
  plane0 : Except Int Nat
  plane1 : Except Int Nat
  plane2 : Except Int Nat

/-- The result of `mmap` as an address. -/
def mappedAddress (abi : Abi) : Except Int Nat → Nat
  | .ok address => address
  | .error _ => mapFailed abi

/-- `gralloc_map`: status, handle and the calls of `mmap`.  Only the first plane
is tested for a failure. -/
def grallocMap (abi : Abi) (mmap : MmapAnswers) (hnd : PrivateHandle) :
    Option (Int × PrivateHandle × List Mapping) := do
  let chromaSize ← hnd.chromaSize abi
  let first : Mapping := ⟨hnd.fd, hnd.size, mappedAddress abi mmap.plane0⟩
  match mmap.plane0 with
  | .error errno => some (-errno, hnd, [first])
  | .ok address =>
      let hnd := { hnd with base := address }
      let base1 := mappedAddress abi mmap.plane1
      let base2 := mappedAddress abi mmap.plane2
      let (hnd, second) :=
        if 0 ≤ hnd.fd1 then
          ({ hnd with base1 := base1 }, [⟨hnd.fd1, chromaSize, base1⟩])
        else (hnd, [])
      let (hnd, third) :=
        if 0 ≤ hnd.fd2 then
          ({ hnd with base2 := base2 }, [⟨hnd.fd2, chromaSize, base2⟩])
        else (hnd, [])
      some (0, hnd, first :: (second ++ third))

/-- `gralloc_unmap`: handle and the calls of `munmap`, address and length.  A
failing `munmap` is only logged. -/
def grallocUnmap (abi : Abi) (hnd : PrivateHandle) :
    Option (PrivateHandle × List (Nat × Nat)) := do
  let chromaSize ← hnd.chromaSize abi
  if hnd.base = 0 then some (hnd, [])
  else
    let first := (hnd.base, hnd.size)
    let hnd := { hnd with base := 0 }
    if 0 ≤ hnd.fd1 ∧ hnd.base1 = 0 then some (hnd, [first])
    else
      let (hnd, second) :=
        if 0 ≤ hnd.fd1 then ({ hnd with base1 := 0 }, [(hnd.base1, chromaSize)])
        else (hnd, [])
      if 0 ≤ hnd.fd2 ∧ hnd.base2 = 0 then some (hnd, first :: second)
      else if 0 ≤ hnd.fd2 then
        some ({ hnd with base2 := 0 }, first :: second ++ [(hnd.base2, chromaSize)])
      else some (hnd, first :: second)

/-! ## The planes of a handle -/

/-- Descriptor and size of each plane as the mapper sees them. -/
def PrivateHandle.planes (hnd : PrivateHandle) (chromaSize : Nat) :
    List (Int × Nat) :=
  (hnd.fd, hnd.size) ::
    ((if 0 ≤ hnd.fd1 then [(hnd.fd1, chromaSize)] else []) ++
      if 0 ≤ hnd.fd2 then [(hnd.fd2, chromaSize)] else [])

/-- Address and size of each plane as the mapper sees them. -/
def PrivateHandle.bases (hnd : PrivateHandle) (chromaSize : Nat) :
    List (Nat × Nat) :=
  (hnd.base, hnd.size) ::
    ((if 0 ≤ hnd.fd1 then [(hnd.base1, chromaSize)] else []) ++
      if 0 ≤ hnd.fd2 then [(hnd.base2, chromaSize)] else [])

/-- Every plane is mapped with its size, or only the first one is tried. -/
theorem grallocMap_planes {abi : Abi} {mmap : MmapAnswers}
    {hnd hnd' : PrivateHandle} {status : Int} {mapped : List Mapping}
    (h : grallocMap abi mmap hnd = some (status, hnd', mapped)) :
    ∃ c, hnd.chromaSize abi = some c ∧
      mapped.map (fun m => (m.fd, m.length)) <+: hnd.planes c ∧
      ((∃ a, mmap.plane0 = .ok a) →
        mapped.map (fun m => (m.fd, m.length)) = hnd.planes c ∧
        mapped.map (fun m => (m.address, m.length)) = hnd'.bases c ∧
        hnd'.chromaSize abi = some c) := by
  unfold grallocMap at h
  cases hc : hnd.chromaSize abi with
  | none => simp [hc] at h
  | some c =>
      refine ⟨c, rfl, ?_⟩
      cases h0 : mmap.plane0 with
      | error errno =>
          simp only [hc, h0, Option.bind_eq_bind, Option.bind_some,
            Option.some.injEq, Prod.mk.injEq] at h
          obtain ⟨-, -, rfl⟩ := h
          simp [PrivateHandle.planes]
      | ok address =>
          have hsame : ∀ x : PrivateHandle, x.format = hnd.format →
              x.height = hnd.height → x.stride = hnd.stride →
              x.vstride = hnd.vstride → x.chromaSize abi = some c := by
            intro x hf hh hs hv
            simpa [PrivateHandle.chromaSize, hf, hh, hs, hv] using hc
          by_cases h1 : 0 ≤ hnd.fd1 <;> by_cases h2 : 0 ≤ hnd.fd2 <;>
            simp only [hc, h0, h1, h2, Option.bind_eq_bind, Option.bind_some, if_true,
              if_false, Option.some.injEq, Prod.mk.injEq] at h <;>
            obtain ⟨-, rfl, rfl⟩ := h <;>
            simp [PrivateHandle.planes, PrivateHandle.bases, mappedAddress, h1, h2, hsame]

/-- The planes are unmapped in order, each with its size, up to the first one
that is not mapped. -/
theorem grallocUnmap_bases {abi : Abi} {hnd hnd' : PrivateHandle}
    {unmapped : List (Nat × Nat)}
    (h : grallocUnmap abi hnd = some (hnd', unmapped)) :
    ∃ c, hnd.chromaSize abi = some c ∧
      unmapped = (hnd.bases c).takeWhile (·.1 ≠ 0) := by
  unfold grallocUnmap at h
  cases hc : hnd.chromaSize abi with
  | none => simp [hc] at h
  | some c =>
      refine ⟨c, rfl, ?_⟩
      by_cases h0 : hnd.base = 0
      · simp only [hc, h0, Option.bind_eq_bind, Option.bind_some, if_true,
          Option.some.injEq, Prod.mk.injEq] at h
        simp [PrivateHandle.bases, h0, ← h.2]
      · by_cases h1 : 0 ≤ hnd.fd1 <;> by_cases h2 : 0 ≤ hnd.fd2 <;>
          by_cases hb1 : hnd.base1 = 0 <;> by_cases hb2 : hnd.base2 = 0 <;>
          simp [hc, h0, h1, h2, hb1, hb2] at h <;>
          obtain ⟨-, rfl⟩ := h <;>
          simp [PrivateHandle.bases, List.takeWhile, h0, h1, h2, hb1, hb2]

/-! ## The allocator and the mapper agree -/

/-- The mapper computes the chroma size that the allocator requested. -/
theorem chromaSize_eq_of_yuvLayout {p : Platform} {w h : Nat} {format : PixelFormat}
    {l : YuvLayout} {c : Nat} (hl : yuvLayout p w h format = some (.ok l))
    (hc : chromaSize p.abi format h l.stride l.lumaVstride = some c)
    (hplanes : l.planes ≠ .one) : c = l.chromaSize := by
  unfold yuvLayout at hl
  obtain ⟨stride, hstride, hl⟩ := Option.bind_eq_some_iff.mp hl
  cases format with
  | exynosYV12M | exynosYCbCr420PM =>
      -- three planes: the two functions multiply the same numbers
      simp only [Option.bind_eq_bind, Option.bind_eq_some_iff, Option.some.injEq,
        Except.ok.injEq] at hl
      obtain ⟨stride', -, vstride, -, aligned, haligned, rfl⟩ := hl
      simp only [chromaSize, Option.bind_eq_bind, Option.bind_eq_some_iff, haligned,
        Option.some.injEq, int_eq_some] at hc
      obtain ⟨_, rfl, _, ⟨-, rfl⟩, rfl⟩ := hc
      rfl
  | exynosYCbCr420SPMTiled =>
      simp only [Option.bind_eq_bind, Option.bind_eq_some_iff, Option.some.injEq,
        Except.ok.injEq] at hl
      obtain ⟨aligned, haligned, vstride, -, rfl⟩ := hl
      simp only [chromaSize, Option.bind_eq_bind, Option.bind_eq_some_iff, haligned,
        Option.some.injEq] at hc
      obtain ⟨_, rfl, rfl⟩ := hc
      rfl
  | exynosYCrCb420SPM | exynosYCrCb420SPMFull | exynosYCbCr420SPM =>
      -- two planes: the allocator aligns in a `size_t`, the mapper in an `int`
      simp only [Option.bind_eq_bind, Option.bind_eq_some_iff, Option.some.injEq,
        Except.ok.injEq] at hl
      obtain ⟨vstride, -, rfl⟩ := hl
      simp only [chromaSize, Option.bind_eq_bind, Option.bind_eq_some_iff,
        Option.some.injEq, int_eq_some] at hc
      obtain ⟨aligned, haligned, _, ⟨-, rfl⟩, rfl⟩ := hc
      simp only [alignSize_eq_of_alignInt p.abi haligned]
  | yCbCr422I =>
      cases hl
      exact absurd rfl hplanes
  | _ => cases hl

/-! ### Ion -/

theorem Ion.allocFd_error {answers : IonAnswers} {ion ion' : Ion} {r : IonRequest}
    {err : Int} (h : ion.allocFd answers r = (.error err, ion')) :
    ion'.buffers = ion.buffers := by
  unfold Ion.allocFd at h
  split at h <;> cases h
  rfl

theorem Ion.allocFd_ok {answers : IonAnswers} {ion ion' : Ion} {r : IonRequest}
    {fd : Int} (h : ion.allocFd answers r = (.ok fd, ion')) :
    0 ≤ fd ∧ ion'.buffers = ion.buffers ++ [(fd, r.size)] := by
  unfold Ion.allocFd at h
  split at h <;> cases h
  exact ⟨Int.natCast_nonneg _, rfl⟩

theorem rgbMemory_ok {p : Platform} {answers : IonAnswers} {size : Nat}
    {usage ionFlags usage' : UInt32} {ion ion' : Ion} {fd : Int}
    (h : rgbMemory p answers size usage ionFlags ion = (.ok fd, usage', ion')) :
    ion'.buffers = ion.buffers ++ [(fd, size)] := by
  unfold rgbMemory at h
  split at h
  split at h
  · rename_i hfd
    cases h
    exact (Ion.allocFd_ok hfd).2
  · rename_i hfirst
    have hsame := Ion.allocFd_error hfirst
    split at h
    · simp only [Prod.mk.injEq] at h
      obtain ⟨hfd, -, rfl⟩ := h
      rw [← hsame]
      exact (Ion.allocFd_ok (Prod.ext hfd rfl)).2
    · cases h

theorem rgbMemory_error {p : Platform} {answers : IonAnswers} {size : Nat}
    {usage ionFlags usage' : UInt32} {ion ion' : Ion} {err : Int}
    (h : rgbMemory p answers size usage ionFlags ion = (.error err, usage', ion')) :
    ion'.buffers = ion.buffers := by
  unfold rgbMemory at h
  split at h
  split at h
  · cases h
  · rename_i hfirst
    have hsame := Ion.allocFd_error hfirst
    split at h
    · simp only [Prod.mk.injEq] at h
      obtain ⟨herr, -, rfl⟩ := h
      rw [← hsame]
      exact Ion.allocFd_error (Prod.ext herr rfl)
    · cases h
      exact hsame

/-- The buffers of the planes, in the order of the handle. -/
theorem yuvMemory_ok {answers : IonAnswers} {l : YuvLayout}
    {heapMask ionFlags : UInt32} {ion ion' : Ion} {fd fd1 fd2 : Int}
    (h : yuvMemory answers l heapMask ionFlags ion = (.ok (fd, fd1, fd2), ion')) :
    (0 ≤ fd1 → l.planes ≠ .one) ∧ (0 ≤ fd2 → l.planes ≠ .one) ∧
    ion'.buffers = ion.buffers ++ (fd, l.lumaSize) ::
      ((if 0 ≤ fd1 then [(fd1, l.chromaSize)] else []) ++
        if 0 ≤ fd2 then [(fd2, l.chromaSize)] else []) := by
  unfold yuvMemory at h
  split at h
  · cases h
  · rename_i ion₀ hfd
    obtain ⟨-, hfd⟩ := Ion.allocFd_ok hfd
    split at h
    · cases h
      exact ⟨by simp, by simp, by simpa using hfd⟩
    · rename_i hone
      split at h
      · cases h
      · rename_i hfd1
        obtain ⟨hpos1, hfd1⟩ := Ion.allocFd_ok hfd1
        split at h
        · split at h
          · cases h
          · rename_i hfd2
            obtain ⟨hpos2, hfd2⟩ := Ion.allocFd_ok hfd2
            cases h
            exact ⟨fun _ => hone, fun _ => hone, by
              rw [hfd2, hfd1, hfd]
              simp [hpos1, hpos2]⟩
        · cases h
          exact ⟨fun _ => hone, fun _ => hone, by
            rw [hfd1, hfd]
            simp [hpos1]⟩

/-! ### The allocators -/

theorem PrivateHandle.new_eq_some {fd fd1 fd2 : Int} {size w h : Nat}
    {flags : UInt32} {format : PixelFormat} {stride vstride : Nat}
    {hnd : PrivateHandle}
    (hnew : PrivateHandle.new fd fd1 fd2 size flags w h format stride vstride =
      some hnd) :
    hnd.fd = fd ∧ hnd.fd1 = fd1 ∧ hnd.fd2 = fd2 ∧ hnd.size = size ∧
      hnd.format = format ∧ hnd.height = h ∧ hnd.stride = stride ∧
      hnd.vstride = vstride := by
  simp only [PrivateHandle.new, Option.bind_eq_bind, Option.bind_eq_some_iff,
    int_eq_some, Option.some.injEq] at hnew
  obtain ⟨_, ⟨-, rfl⟩, _, ⟨-, rfl⟩, rfl⟩ := hnew
  exact ⟨rfl, rfl, rfl, rfl, rfl, rfl, rfl, rfl⟩

theorem grallocAllocRgb_eq_ok {p : Platform} {answers : IonAnswers} {w h : Nat}
    {format : PixelFormat} {usage ionFlags : UInt32} {ion ion' : Ion}
    {hnd : PrivateHandle} {stride : Nat}
    (halloc : grallocAllocRgb p answers w h format usage ionFlags ion =
      some (.ok (hnd, stride), ion')) :
    ∃ format' l fd usage', rgbFormat p format usage = .ok format' ∧
      rgbLayout p w h format' usage = some (.ok l) ∧
      rgbMemory p answers l.size usage ionFlags ion = (.ok fd, usage', ion') ∧
      PrivateHandle.new fd (-1) (-1) l.size usage' w h format' l.stride l.vstride = some hnd ∧
      stride = l.stride := by
  unfold grallocAllocRgb at halloc
  split at halloc
  · cases halloc
  · rename_i format' hf
    obtain ⟨layout, hlayout, halloc⟩ := Option.bind_eq_some_iff.mp halloc
    split at halloc
    · cases halloc
    · split at halloc
      · cases halloc
      · rename_i hmem
        obtain ⟨hnd', hnew, halloc⟩ := Option.bind_eq_some_iff.mp halloc
        cases halloc
        exact ⟨format', _, _, _, hf, hlayout, hmem, hnew, rfl⟩

theorem grallocAllocFrameworkYuv_eq_ok {p : Platform} {answers : IonAnswers} {w h : Nat}
    {format : PixelFormat} {usage ionFlags : UInt32} {ion ion' : Ion}
    {hnd : PrivateHandle} {stride : Nat}
    (halloc : grallocAllocFrameworkYuv p answers w h format usage ionFlags ion =
      some (.ok (hnd, stride), ion')) :
    ∃ size fd, frameworkLayout p w h format = some (.ok (size, stride)) ∧
      ion.allocFd answers ⟨size, 0, selectHeap p usage, ionFlags⟩ = (.ok fd, ion') ∧
      PrivateHandle.new fd (-1) (-1) size usage w h format stride h = some hnd := by
  unfold grallocAllocFrameworkYuv at halloc
  obtain ⟨layout, hlayout, halloc⟩ := Option.bind_eq_some_iff.mp halloc
  split at halloc
  · cases halloc
  · split at halloc
    · cases halloc
    · rename_i hmem
      obtain ⟨hnd', hnew, halloc⟩ := Option.bind_eq_some_iff.mp halloc
      cases halloc
      exact ⟨_, _, hlayout, hmem, hnew⟩

/-- A YUV buffer is one that is passed on, or has the planes of its layout. -/
theorem grallocAllocYuv_eq_ok {p : Platform} {answers : IonAnswers} {w h : Nat}
    {format : PixelFormat} {usage ionFlags : UInt32} {ion ion' : Ion}
    {hnd : PrivateHandle} {stride : Nat}
    (halloc : grallocAllocYuv p answers w h format usage ionFlags ion =
      some (.ok (hnd, stride), ion')) :
    (∃ aligned ionFlags', isFrameworkYuv (yuvFormat p format usage) = true ∧
        alignInt w 16 = some aligned ∧
        grallocAllocFrameworkYuv p answers w h (yuvFormat p format usage) usage ionFlags' ion =
          some (.ok (hnd, stride), ion')) ∨
      ∃ l fd fd1 fd2 ionFlags', yuvLayout p w h (yuvFormat p format usage) = some (.ok l) ∧
        yuvMemory answers l (selectHeap p usage) ionFlags' ion = (.ok (fd, fd1, fd2), ion') ∧
        PrivateHandle.new fd fd1 fd2 l.lumaSize usage w h (yuvFormat p format usage) l.stride
          l.lumaVstride = some hnd ∧
        stride = l.stride := by
  unfold grallocAllocYuv at halloc
  dsimp only at halloc
  split at halloc
  · rename_i hframework
    obtain ⟨aligned, haligned, halloc⟩ := Option.bind_eq_some_iff.mp halloc
    exact .inl ⟨aligned, _, hframework, haligned, halloc⟩
  · obtain ⟨layout, hlayout, halloc⟩ := Option.bind_eq_some_iff.mp halloc
    split at halloc
    · cases halloc
    · split at halloc
      · cases halloc
      · rename_i hmem
        obtain ⟨hnd', hnew, halloc⟩ := Option.bind_eq_some_iff.mp halloc
        cases halloc
        exact .inr ⟨_, _, _, _, _, hlayout, hmem, hnew, rfl⟩

/-- The second allocator is asked for what the first one refuses. -/
theorem grallocAlloc_eq_ok {p : Platform} {answers : IonAnswers} {w h : Int}
    {format : PixelFormat} {usage : UInt32} {ion ion' : Ion}
    {hnd : PrivateHandle} {stride : Nat}
    (halloc : grallocAlloc p answers w h format usage ion =
      some (.ok (hnd, stride), ion')) :
    0 < w ∧ 0 < h ∧ ∃ usage', gpuUsage p w.toNat h.toNat usage = some usage' ∧
      (grallocAllocRgb p answers w.toNat h.toNat format usage' (cacheFlags p usage) ion =
          some (.ok (hnd, stride), ion') ∨
        ∃ err ion₁,
          grallocAllocRgb p answers w.toNat h.toNat format usage' (cacheFlags p usage) ion =
            some (.error err, ion₁) ∧
          grallocAllocYuv p answers w.toNat h.toNat format usage' (cacheFlags p usage) ion₁ =
            some (.ok (hnd, stride), ion')) := by
  unfold grallocAlloc at halloc
  split at halloc
  · cases halloc
  · rename_i hdims
    obtain ⟨usage', husage, halloc⟩ := Option.bind_eq_some_iff.mp halloc
    obtain ⟨⟨rgb, ion₁⟩, hrgb, halloc⟩ := Option.bind_eq_some_iff.mp halloc
    refine ⟨by omega, by omega, usage', husage, ?_⟩
    cases rgb with
    | ok allocated =>
        cases halloc
        exact .inl hrgb
    | error err => exact .inr ⟨err, ion₁, hrgb, halloc⟩

/-- What an allocator adds to the open buffers are the planes of its handle. -/
def PlanesAllocated (abi : Abi) (hnd : PrivateHandle) (ion ion' : Ion) : Prop :=
  ∀ c, hnd.chromaSize abi = some c → ion'.buffers = ion.buffers ++ hnd.planes c

theorem planesAllocated_of_one {abi : Abi} {hnd : PrivateHandle} {ion ion' : Ion}
    (h1 : hnd.fd1 = -1) (h2 : hnd.fd2 = -1)
    (hbuffers : ion'.buffers = ion.buffers ++ [(hnd.fd, hnd.size)]) :
    PlanesAllocated abi hnd ion ion' := by
  intro c _
  simp [PrivateHandle.planes, h1, h2, hbuffers]

theorem grallocAllocRgb_ok {p : Platform} {answers : IonAnswers} {w h : Nat}
    {format : PixelFormat} {usage ionFlags : UInt32} {ion ion' : Ion}
    {hnd : PrivateHandle} {stride : Nat}
    (halloc : grallocAllocRgb p answers w h format usage ionFlags ion =
      some (.ok (hnd, stride), ion')) :
    PlanesAllocated p.abi hnd ion ion' := by
  obtain ⟨_, _, _, _, -, -, hmem, hnew, -⟩ := grallocAllocRgb_eq_ok halloc
  obtain ⟨rfl, h1, h2, hsize, -⟩ := PrivateHandle.new_eq_some hnew
  exact planesAllocated_of_one h1 h2 (hsize ▸ rgbMemory_ok hmem)

/-- A first allocator that fails leaves no buffer for the second one. -/
theorem grallocAllocRgb_error {p : Platform} {answers : IonAnswers} {w h : Nat}
    {format : PixelFormat} {usage ionFlags : UInt32} {ion ion' : Ion} {err : Int}
    (halloc : grallocAllocRgb p answers w h format usage ionFlags ion =
      some (.error err, ion')) :
    ion'.buffers = ion.buffers := by
  unfold grallocAllocRgb at halloc
  split at halloc
  · cases halloc
    rfl
  · obtain ⟨layout, -, halloc⟩ := Option.bind_eq_some_iff.mp halloc
    split at halloc
    · cases halloc
      rfl
    · split at halloc
      · rename_i hmem
        cases halloc
        exact rgbMemory_error hmem
      · obtain ⟨hnd', -, halloc⟩ := Option.bind_eq_some_iff.mp halloc
        cases halloc

theorem grallocAllocFrameworkYuv_ok {p : Platform} {answers : IonAnswers}
    {w h : Nat} {format : PixelFormat} {usage ionFlags : UInt32} {ion ion' : Ion}
    {hnd : PrivateHandle} {stride : Nat}
    (halloc : grallocAllocFrameworkYuv p answers w h format usage ionFlags ion =
      some (.ok (hnd, stride), ion')) :
    PlanesAllocated p.abi hnd ion ion' := by
  obtain ⟨_, _, -, hmem, hnew⟩ := grallocAllocFrameworkYuv_eq_ok halloc
  obtain ⟨rfl, h1, h2, hsize, -⟩ := PrivateHandle.new_eq_some hnew
  exact planesAllocated_of_one h1 h2 (hsize ▸ (Ion.allocFd_ok hmem).2)

theorem grallocAllocYuv_ok {p : Platform} {answers : IonAnswers} {w h : Nat}
    {format : PixelFormat} {usage ionFlags : UInt32} {ion ion' : Ion}
    {hnd : PrivateHandle} {stride : Nat}
    (halloc : grallocAllocYuv p answers w h format usage ionFlags ion =
      some (.ok (hnd, stride), ion')) :
    PlanesAllocated p.abi hnd ion ion' := by
  rcases grallocAllocYuv_eq_ok halloc with ⟨_, _, -, -, hframework⟩ |
    ⟨l, _, _, _, _, hlayout, hmem, hnew, -⟩
  · exact grallocAllocFrameworkYuv_ok hframework
  · obtain ⟨hone1, hone2, hbuffers⟩ := yuvMemory_ok hmem
    obtain ⟨rfl, rfl, rfl, hsize, hformat, hheight, hstride, hvstride⟩ :=
      PrivateHandle.new_eq_some hnew
    intro c hc
    rw [PrivateHandle.chromaSize, hformat, hheight, hstride, hvstride] at hc
    -- the chroma size matters only where there is a second or a third plane
    by_cases hplanes : l.planes = .one
    · have h1 : ¬ 0 ≤ hnd.fd1 := fun h1 => hone1 h1 hplanes
      have h2 : ¬ 0 ≤ hnd.fd2 := fun h2 => hone2 h2 hplanes
      simpa [PrivateHandle.planes, h1, h2, hsize] using hbuffers
    · rw [chromaSize_eq_of_yuvLayout hlayout hc hplanes]
      simpa [PrivateHandle.planes, hsize] using hbuffers

/-- The buffers that an allocation opens are the planes of its handle. -/
theorem grallocAlloc_planes {p : Platform} {answers : IonAnswers} {w h : Int}
    {format : PixelFormat} {usage : UInt32} {ion ion' : Ion}
    {hnd : PrivateHandle} {stride : Nat}
    (halloc : grallocAlloc p answers w h format usage ion =
      some (.ok (hnd, stride), ion')) :
    PlanesAllocated p.abi hnd ion ion' := by
  obtain ⟨-, -, usage', -, hrgb | ⟨err, ion₁, hrefused, hyuv⟩⟩ := grallocAlloc_eq_ok halloc
  · exact grallocAllocRgb_ok hrgb
  · intro c hc
    rw [grallocAllocYuv_ok hyuv c hc, grallocAllocRgb_error hrefused]

/-! ## Mapping and unmapping -/

/-- Another copy of a handle, in this process or in one that received it: the
descriptors may be numbered differently, addresses and ion handles are its own. -/
structure PrivateHandle.Copies (x hnd : PrivateHandle) : Prop where
  fd1 : 0 ≤ x.fd1 ↔ 0 ≤ hnd.fd1
  fd2 : 0 ≤ x.fd2 ↔ 0 ≤ hnd.fd2
  size : x.size = hnd.size
  format : x.format = hnd.format
  height : x.height = hnd.height
  stride : x.stride = hnd.stride
  vstride : x.vstride = hnd.vstride

/-- The descriptors of the planes that a handle has. -/
def PrivateHandle.descriptors (hnd : PrivateHandle) : List Int :=
  hnd.fd :: [hnd.fd1, hnd.fd2].filter (0 ≤ ·)

/-- The buffers that were opened between two states. -/
def Ion.openedSince (ion' ion : Ion) : List (Int × Nat) :=
  ion'.buffers.drop ion.buffers.length

/-- The mapper uses a handle as the handle of planes of these sizes. -/
structure MapperAgrees (abi : Abi) (x : PrivateHandle) (sizes : List Nat) :
    Prop where
  /-- no plane is mapped with another size than its own -/
  map : ∀ mmap status x' mapped,
    grallocMap abi mmap x = some (status, x', mapped) →
      mapped.map (fun m => (m.fd, m.length)) <+: x.descriptors.zip sizes
  /-- every plane is mapped unless the first one cannot be mapped -/
  mapAll : ∀ mmap status x' mapped,
    grallocMap abi mmap x = some (status, x', mapped) →
      (∃ a, mmap.plane0 = .ok a) →
      mapped.map (fun m => (m.fd, m.length)) = x.descriptors.zip sizes
  /-- no plane is unmapped with another size than its own -/
  unmap : ∀ x' unmapped, grallocUnmap abi x = some (x', unmapped) →
    unmapped.map Prod.snd <+: sizes
  /-- what was mapped is unmapped as a whole -/
  release : ∀ mmap status x' mapped x'' unmapped,
    grallocMap abi mmap x = some (status, x', mapped) →
      (∃ a, mmap.plane0 = .ok a) → (∀ m ∈ mapped, m.address ≠ 0) →
      grallocUnmap abi x' = some (x'', unmapped) →
      unmapped = mapped.map fun m => (m.address, m.length)

theorem PrivateHandle.Copies.chromaSize_eq {abi : Abi} {x hnd : PrivateHandle}
    (h : x.Copies hnd) : x.chromaSize abi = hnd.chromaSize abi := by
  simp [PrivateHandle.chromaSize, h.format, h.height, h.stride, h.vstride]

theorem PrivateHandle.planes_fst (x : PrivateHandle) (c : Nat) :
    (x.planes c).map Prod.fst = x.descriptors := by
  by_cases h1 : 0 ≤ x.fd1 <;> by_cases h2 : 0 ≤ x.fd2 <;>
    simp [planes, descriptors, h1, h2]

theorem PrivateHandle.planes_snd (x : PrivateHandle) (c : Nat) :
    (x.planes c).map Prod.snd = (x.bases c).map Prod.snd := by
  by_cases h1 : 0 ≤ x.fd1 <;> by_cases h2 : 0 ≤ x.fd2 <;> simp [planes, bases, h1, h2]

/-- A copy has planes of the same sizes behind its own descriptors. -/
theorem PrivateHandle.Copies.planes_eq {x hnd : PrivateHandle} (h : x.Copies hnd)
    (c : Nat) : x.planes c = x.descriptors.zip ((hnd.planes c).map Prod.snd) := by
  by_cases h1 : 0 ≤ hnd.fd1 <;> by_cases h2 : 0 ≤ hnd.fd2 <;>
    simp [planes, descriptors, h.fd1, h.fd2, h.size, h1, h2]

theorem PrivateHandle.Copies.planes_snd {x hnd : PrivateHandle} (h : x.Copies hnd)
    (c : Nat) : (x.planes c).map Prod.snd = (hnd.planes c).map Prod.snd := by
  simp [planes, h.fd1, h.fd2, h.size, apply_ite (List.map Prod.snd)]

/-- The mapper agrees with the sizes that it computes itself. -/
theorem mapperAgrees_of_planes {abi : Abi} {x hnd : PrivateHandle}
    {sizes : List Nat} (hcopy : x.Copies hnd)
    (hsizes : ∀ c, hnd.chromaSize abi = some c → (hnd.planes c).map Prod.snd = sizes) :
    MapperAgrees abi x sizes := by
  constructor
  case map =>
    intro mmap status x' mapped h
    obtain ⟨c, hc, hmap, -⟩ := grallocMap_planes h
    rwa [← hsizes c (hcopy.chromaSize_eq ▸ hc), ← hcopy.planes_eq]
  case mapAll =>
    intro mmap status x' mapped h h0
    obtain ⟨c, hc, -, hall⟩ := grallocMap_planes h
    rw [← hsizes c (hcopy.chromaSize_eq ▸ hc), ← hcopy.planes_eq]
    exact (hall h0).1
  case unmap =>
    intro x' unmapped h
    obtain ⟨c, hc, rfl⟩ := grallocUnmap_bases h
    rw [← hsizes c (hcopy.chromaSize_eq ▸ hc), ← hcopy.planes_snd, x.planes_snd]
    exact (List.takeWhile_prefix _).map Prod.snd
  case release =>
    intro mmap status x' mapped x'' unmapped h h0 hne hunmap
    obtain ⟨c, -, -, hall⟩ := grallocMap_planes h
    obtain ⟨-, hbases, hc⟩ := hall h0
    obtain ⟨c', hc', rfl⟩ := grallocUnmap_bases hunmap
    obtain rfl : c = c' := Option.some.inj (hc.symm.trans hc')
    rw [hbases]
    refine List.takeWhile_eq_self_iff.mpr fun b hb => ?_
    rw [← hbases] at hb
    obtain ⟨m, hm, rfl⟩ := List.mem_map.mp hb
    simpa using hne m hm

/-- Every copy of a new handle is mapped and unmapped with the sizes of the
buffers that were allocated for it. -/
theorem mapped_eq_allocated {p : Platform} {answers : IonAnswers} {w h : Int}
    {format : PixelFormat} {usage : UInt32} {ion ion' : Ion}
    {hnd : PrivateHandle} {stride : Nat}
    (halloc : grallocAlloc p answers w h format usage ion =
      some (.ok (hnd, stride), ion')) :
    (∀ c, hnd.chromaSize p.abi = some c →
      (ion'.openedSince ion).map Prod.fst = hnd.descriptors) ∧
    ∀ x : PrivateHandle, x.Copies hnd →
      MapperAgrees p.abi x ((ion'.openedSince ion).map Prod.snd) := by
  have hopened : ∀ c, hnd.chromaSize p.abi = some c →
      ion'.openedSince ion = hnd.planes c := by
    intro c hc
    simp [Ion.openedSince, grallocAlloc_planes halloc c hc]
  refine ⟨?_, fun x hcopy => ?_⟩
  · intro c hc
    rw [hopened c hc, hnd.planes_fst]
  · exact mapperAgrees_of_planes hcopy fun c hc => by rw [hopened c hc]

/-- A 64-bit build with a framebuffer of 1440 by 2560 pixels. -/
def platform : Platform where
  abi := .arm64
  bits := {
    swReadMask := 0xF, swReadOften := 0x3, swWriteMask := 0xF0, hwTexture := 0x100
    hwFb := 0x1000, hwVideoEncoder := 0x10000, hwCameraZsl := 0x60000
    usageProtected := 0x4000, gpuBuffer := 0x800000, privateNonsecure := 0x10000000
    physicallyLinear := 0x20000000 }
  ionHeapSystemMask := 1
  ionFlagCached := 1
  ionFlagCachedNeedsSync := 2
  xres := 1440
  yres := 2560

/-- An implementation-defined buffer that the encoder reads gets two planes. -/
def encoderHandle : PrivateHandle where
  fd := 40
  fd1 := 41
  fd2 := -1
  flags := 0x10000
  size := 4096
  format := .exynosYCbCr420SPM
  width := 70
  height := 40
  stride := 80
  vstride := 48
  base := 0
  base1 := 0
  base2 := 0
  handle := 0
  handle1 := 0
  handle2 := 0

theorem mapped_eq_allocated_encoder :
    (∀ c, encoderHandle.chromaSize .arm64 = some c →
      [(40 : Int), 41] = encoderHandle.descriptors) ∧
    ∀ x : PrivateHandle, x.Copies encoderHandle →
      MapperAgrees .arm64 x [4096, 2176] :=
  @mapped_eq_allocated platform (fun n _ => .ok (40 + n)) 70 40
    .implementationDefined 0x10000 ⟨0, []⟩ ⟨2, [(40, 4096), (41, 2176)]⟩
    encoderHandle 80 rfl

end Gralloc
end Exynos8890
