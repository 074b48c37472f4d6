import Exynos8890.Library.MachineInt

/-!
# Graphics buffers

A buffer is allocated from ion, one piece of memory for each plane, and its
handle keeps the descriptors of the planes and the integers that the mapper
later computes the plane sizes from.

Definitions `grallocAllocRgb`, `grallocAllocFrameworkYuv`, `grallocAllocYuv`
and `grallocAlloc` have no result where an `int` computation overflows; the
assignment of a size to an `int` is such a computation.
-/

namespace Exynos8890
namespace Gralloc

open MachineInt

/-! ## Formats and usage bits -/

/-- The pixel formats that the library names, and the others. -/
inductive PixelFormat
  | exynosARGB8888
  | rgba8888
  | rgbx8888
  | bgra8888
  | sRgbA8888
  | sRgbX8888
  | rgb888
  | rgb565
  | raw16
  | blob
  | yv12
  | exynosYCbCr420P
  | yCrCb420SP
  | exynosYV12M
  | exynosYCbCr420PM
  | exynosYCbCr420SPMTiled
  | exynosYCrCb420SPM
  | exynosYCrCb420SPMFull
  | exynosYCbCr420SPM
  | yCbCr422I
  | implementationDefined
  | other (format : Nat)
  deriving DecidableEq, Repr

/-- The masks of the usage word.  A build without
`GRALLOC_USAGE_PRIVATE_NONSECURE` has zero for it. -/
structure UsageBits where
  swReadMask : UInt32
  swReadOften : UInt32
  swWriteMask : UInt32
  hwTexture : UInt32
  hwFb : UInt32
  hwVideoEncoder : UInt32
  hwCameraZsl : UInt32
  usageProtected : UInt32
  gpuBuffer : UInt32
  privateNonsecure : UInt32
  physicallyLinear : UInt32

/-- `usage & mask` as a condition. -/
def has (usage mask : UInt32) : Bool :=
  usage &&& mask != 0

/-! ## The handle -/

/-- `private_handle_t`: descriptors, integers, addresses and ion handles. -/
structure PrivateHandle where
  fd : Int
  fd1 : Int
  fd2 : Int
  flags : UInt32
  size : Nat
  format : PixelFormat
  width : Nat
  height : Nat
  stride : Nat
  vstride : Nat
  base : Nat
  base1 : Nat
  base2 : Nat
  handle : Int
  handle1 : Int
  handle2 : Int
  deriving DecidableEq

/-- The constructors of `private_handle_t`: planes that a buffer does not have
keep the descriptor `-1`, addresses and ion handles start at zero.  The size
and the vertical stride are `size_t` at the callers and `int` here. -/
def PrivateHandle.new (fd fd1 fd2 : Int) (size : Nat) (flags : UInt32)
    (w h : Nat) (format : PixelFormat) (stride vstride : Nat) :
    Option PrivateHandle := do
  let size ← int size
  let vstride ← int vstride
  some {
    fd, fd1, fd2, flags, size, format, width := w, height := h, stride, vstride
    base := 0, base1 := 0, base2 := 0, handle := 0, handle1 := 0, handle2 := 0 }

/-! ## Ion -/

/-- The arguments of `ion_alloc_fd`. -/
structure IonRequest where
  size : Nat
  alignment : Nat
  heapMask : UInt32
  ionFlags : UInt32

/-- The buffers that are open, with their sizes, after a number of requests. -/
structure Ion where
  requests : Nat
  buffers : List (Int × Nat)
  deriving DecidableEq

/-- What ion answers to each request: an error or a descriptor. -/
abbrev IonAnswers := Nat → IonRequest → Except Int Nat

/-- `ion_alloc_fd`. -/
def Ion.allocFd (answers : IonAnswers) (ion : Ion) (request : IonRequest) :
    Except Int Int × Ion :=
  match answers ion.requests request with
  | .error err => (.error err, { ion with requests := ion.requests + 1 })
  | .ok fd =>
      (.ok fd, { requests := ion.requests + 1
                 buffers := ion.buffers ++ [((fd : Int), request.size)] })

/-- `close` of the descriptor of a buffer. -/
def Ion.close (ion : Ion) (fd : Int) : Ion :=
  { ion with buffers := ion.buffers.filter (·.1 ≠ fd) }

/-! ## Allocation -/

/-- `-EINVAL`. -/
def eInval : Int := -22

/-- `PAGE_SIZE`. -/
def pageSize : Nat := 4096

/-- `ext_size`. -/
def extSize : Nat := 256

/-- What stays the same over all calls: the build, the masks of the headers
and the framebuffer of the module. -/
structure Platform where
  abi : Abi
  bits : UsageBits
  ionHeapSystemMask : UInt32
  ionFlagCached : UInt32
  ionFlagCachedNeedsSync : UInt32
  xres : Nat
  yres : Nat

def ionHeapExynosContigMask : UInt32 := (1 : UInt32) <<< 4
def ionExynosFimdVideoMask : UInt32 := (1 : UInt32) <<< 28
def ionExynosMfcOutputMask : UInt32 := (1 : UInt32) <<< 26
def ionExynosG2dWfdMask : UInt32 := (1 : UInt32) <<< 22
def ionFlagPreserveKmap : UInt32 := 4
def mb1 : Nat := 1024 * 1024

variable (p : Platform) (answers : IonAnswers)

/-- `_select_heap`. -/
def selectHeap (usage : UInt32) : UInt32 :=
  if has usage p.bits.gpuBuffer then ionHeapExynosContigMask
  else if has usage p.bits.usageProtected then ionHeapExynosContigMask
  else p.ionHeapSystemMask

/-- What an allocation gives: the handle and the stride for the caller. -/
abbrev Allocated := Except Int (PrivateHandle × Nat)

/-- The format that `gralloc_alloc_rgb` uses for RGBA targets. -/
def rgbFormat (format : PixelFormat) (usage : UInt32) : Except Int PixelFormat :=
  if format = .rgba8888 then
    if has usage p.bits.hwFb then .ok .bgra8888
    else if has usage p.bits.hwVideoEncoder then
      if has usage (p.bits.swReadMask ||| p.bits.swWriteMask) then .error eInval
      else .ok .bgra8888
    else .ok format
  else .ok format

/-- `bpp` of the formats that the switch of `gralloc_alloc_rgb` lists. -/
def bytesPerPixel : PixelFormat → Option Nat
  | .exynosARGB8888 | .rgba8888 | .rgbx8888 | .bgra8888 | .sRgbA8888
  | .sRgbX8888 => some 4
  | .rgb888 => some 3
  | .rgb565 | .raw16 => some 2
  | _ => none

/-- The size of a buffer with one plane, and its strides. -/
structure RgbLayout where
  size : Nat
  stride : Nat
  vstride : Nat

/-- The sizes that `gralloc_alloc_rgb` computes. -/
def rgbLayout (w h : Nat) (format : PixelFormat) (usage : UInt32) :
    Option (Except Int RgbLayout) :=
  if format = .blob then do
    let size ← int (w * h)
    some (.ok { size := p.abi.size size, stride := w, vstride := h })
  else match bytesPerPixel format with
  | none => some (.error eInval)
  | some bpp => do
      let (bpr, vstride) ←
        if has usage p.bits.hwVideoEncoder ∨ format = .bgra8888 then do
          let aligned ← alignInt w 16
          let bpr ← int (aligned * bpp)
          let vstride ← alignInt h 16
          some (bpr, vstride)
        else do
          let row ← int (w * bpp)
          let bpr ← alignInt row 64
          some (bpr, h)
      let h2 ← int (h + 2)
      let size := p.abi.size (bpr * if vstride < h2 then h2 else vstride)
      let stride ← int (bpr / bpp)
      some (.ok { size := p.abi.size (alignSize p.abi size pageSize + extSize)
                  stride, vstride })

/-- Alignment and flags of a protected buffer. -/
def rgbProtection (usage ionFlags : UInt32) : Nat × UInt32 :=
  if has usage p.bits.usageProtected then
    (if has usage p.bits.privateNonsecure then 0 else mb1,
      if has usage p.bits.privateNonsecure && has usage p.bits.physicallyLinear then
        ionFlags ||| ionExynosG2dWfdMask
      else ionFlags ||| ionExynosFimdVideoMask)
  else (0, ionFlags)

/-- The request for the memory, repeated without the GPU heap if it fails, with
the usage that is left for the handle. -/
def rgbMemory (size : Nat) (usage ionFlags : UInt32) (ion : Ion) :
    Except Int Int × UInt32 × Ion :=
  let (alignment, ionFlags) := rgbProtection p usage ionFlags
  match ion.allocFd answers ⟨size, alignment, selectHeap p usage, ionFlags⟩ with
  | (.ok fd, ion) => (.ok fd, usage, ion)
  | (.error err, ion) =>
      if has usage p.bits.gpuBuffer then
        let usage := usage &&& ~~~p.bits.gpuBuffer
        let (err, ion) :=
          ion.allocFd answers ⟨size, alignment, selectHeap p usage, ionFlags⟩
        (err, usage, ion)
      else (.error err, usage, ion)

/-- `gralloc_alloc_rgb`. -/
def grallocAllocRgb (w h : Nat) (format : PixelFormat) (usage ionFlags : UInt32)
    (ion : Ion) : Option (Allocated × Ion) :=
  match rgbFormat p format usage with
  | .error err => some (.error err, ion)
  | .ok format => do
      match ← rgbLayout p w h format usage with
      | .error err => some (.error err, ion)
      | .ok l =>
          match rgbMemory p answers l.size usage ionFlags ion with
          | (.error err, _, ion) => some (.error err, ion)
          | (.ok fd, usage, ion) =>
              let hnd ← PrivateHandle.new fd (-1) (-1) l.size usage w h format
                l.stride l.vstride
              some (.ok (hnd, l.stride), ion)

/-- The sizes that `gralloc_alloc_framework_yuv` computes: the size of the
buffer and its stride. -/
def frameworkLayout (w h : Nat) : PixelFormat → Option (Except Int (Nat × Nat))
  | .yv12 | .exynosYCbCr420P => do
      let stride ← alignInt w 16
      let luma ← int (stride * h)
      let chromaStride ← alignInt (stride / 2) 16
      let chroma ← int (chromaStride * h)
      let both ← int (luma + chroma)
      some (.ok (p.abi.size (both + extSize), stride))
  | .yCrCb420SP => do
      let vstride ← alignInt h 16
      let luma ← int (w * vstride)
      let both ← int (luma * 3)
      some (.ok (p.abi.size (both / 2 + extSize), w))
  | _ => some (.error eInval)

/-- `gralloc_alloc_framework_yuv`. -/
def grallocAllocFrameworkYuv (w h : Nat) (format : PixelFormat)
    (usage ionFlags : UInt32) (ion : Ion) : Option (Allocated × Ion) := do
  match ← frameworkLayout p w h format with
  | .error err => some (.error err, ion)
  | .ok (size, stride) =>
      match ion.allocFd answers ⟨size, 0, selectHeap p usage, ionFlags⟩ with
      | (.error err, ion) => some (.error err, ion)
      | (.ok fd, ion) =>
          let hnd ← PrivateHandle.new fd (-1) (-1) size usage w h format stride h
          some (.ok (hnd, stride), ion)

/-- The format that `gralloc_alloc_yuv` uses for an implementation-defined one. -/
def yuvFormat (format : PixelFormat) (usage : UInt32) : PixelFormat :=
  if format = .implementationDefined then
    if usage &&& p.bits.hwCameraZsl = p.bits.hwCameraZsl then .yCbCr422I
    else if has usage p.bits.hwTexture then .exynosYV12M
    else if has usage p.bits.hwVideoEncoder then .exynosYCbCr420SPM
    else format
  else format

/-- How many planes follow the first one. -/
inductive Planes
  | one
  | two
  | three
  deriving DecidableEq

/-- The sizes of the planes of a YUV buffer, and its strides. -/
structure YuvLayout where
  lumaSize : Nat
  chromaSize : Nat
  planes : Planes
  stride : Nat
  lumaVstride : Nat

/-- The sizes that the switch of `gralloc_alloc_yuv` computes for the formats
that it does not pass on. -/
def yuvLayout (w h : Nat) (format : PixelFormat) : Option (Except Int YuvLayout) := do
  let stride ← alignInt w 16
  match format with
  | .exynosYV12M | .exynosYCbCr420PM => do
      let stride ← alignInt w 32
      let lumaVstride ← alignInt h 16
      let chromaStride ← alignInt (stride / 2) 16
      some (.ok { lumaSize := p.abi.size (lumaVstride * stride + extSize)
                  chromaSize := p.abi.size (lumaVstride / 2 * chromaStride + extSize)
                  planes := .three, stride, lumaVstride })
  | .exynosYCbCr420SPMTiled => do
      let chromaVstride ← alignInt (h / 2) 32
      let lumaVstride ← alignInt h 32
      some (.ok { lumaSize := p.abi.size (lumaVstride * stride + extSize)
                  chromaSize := p.abi.size (chromaVstride * stride + extSize)
                  planes := .two, stride, lumaVstride })
  | .exynosYCrCb420SPM | .exynosYCrCb420SPMFull | .exynosYCbCr420SPM => do
      let lumaVstride ← alignInt h 16
      let chromaVstride := alignSize p.abi (lumaVstride / 2) 8
      some (.ok { lumaSize := p.abi.size (stride * lumaVstride + extSize)
                  chromaSize := p.abi.size (stride * chromaVstride + extSize)
                  planes := .two, stride, lumaVstride })
  | .yCbCr422I =>
      some (.ok { lumaSize := p.abi.size (h * stride * 2 + extSize)
                  chromaSize := 0, planes := .one, stride, lumaVstride := h })
  | _ => some (.error eInval)

/-- The formats that `gralloc_alloc_yuv` passes on. -/
def isFrameworkYuv : PixelFormat → Bool
  | .yv12 | .exynosYCbCr420P | .yCrCb420SP => true
  | _ => false

/-- The requests of `gralloc_alloc_yuv`: a plane that fails closes the planes
before it.  The descriptors of the second and the third plane are `-1` where
the buffer has none. -/
def yuvMemory (l : YuvLayout) (heapMask ionFlags : UInt32) (ion : Ion) :
    Except Int (Int × Int × Int) × Ion :=
  match ion.allocFd answers ⟨l.lumaSize, 0, heapMask, ionFlags⟩ with
  | (.error err, ion) => (.error err, ion)
  | (.ok fd, ion) =>
      if l.planes = .one then (.ok (fd, -1, -1), ion)
      else match ion.allocFd answers ⟨l.chromaSize, 0, heapMask, ionFlags⟩ with
      | (.error err, ion) => (.error err, ion.close fd)
      | (.ok fd1, ion) =>
          if l.planes = .three then
            match ion.allocFd answers ⟨l.chromaSize, 0, heapMask, ionFlags⟩ with
            | (.error err, ion) => (.error err, (ion.close fd1).close fd)
            | (.ok fd2, ion) => (.ok (fd, fd1, fd2), ion)
          else (.ok (fd, fd1, -1), ion)

/-- `gralloc_alloc_yuv`.  The stride is aligned before the format is looked at. -/
def grallocAllocYuv (w h : Nat) (format : PixelFormat) (usage ionFlags : UInt32)
    (ion : Ion) : Option (Allocated × Ion) := do
  let format := yuvFormat p format usage
  let ionFlags :=
    if has usage p.bits.usageProtected then ionFlags ||| ionExynosMfcOutputMask
    else ionFlags
  if isFrameworkYuv format then
    let _ ← alignInt w 16
    grallocAllocFrameworkYuv p answers w h format usage ionFlags ion
  else match ← yuvLayout p w h format with
  | .error err => some (.error err, ion)
  | .ok l =>
      match yuvMemory answers l (selectHeap p usage) ionFlags ion with
      | (.error err, ion) => some (.error err, ion)
      | (.ok (fd, fd1, fd2), ion) =>
          let hnd ← PrivateHandle.new fd fd1 fd2 l.lumaSize usage w h format l.stride
            l.lumaVstride
          some (.ok (hnd, l.stride), ion)

/-- The ion flags of a buffer that is often read by software. -/
def cacheFlags (usage : UInt32) : UInt32 :=
  if usage &&& p.bits.swReadMask = p.bits.swReadOften then
    p.ionFlagCached ||| p.ionFlagCachedNeedsSync ||| ionFlagPreserveKmap
  else 0

/-- Only a buffer of the size of the framebuffer may use the GPU heap. -/
def gpuUsage (w h : Nat) (usage : UInt32) : Option UInt32 :=
  if has usage p.bits.gpuBuffer then do
    let area ← int (w * h)
    let screen ← int (p.xres * p.yres)
    some (if area ≠ screen then usage &&& ~~~p.bits.gpuBuffer else usage)
  else some usage

/-- `gralloc_alloc`.  Neither allocator leaves a handle when it fails, so the
error path has nothing to close. -/
def grallocAlloc (w h : Int) (format : PixelFormat) (usage : UInt32) (ion : Ion) :
    Option (Allocated × Ion) :=
  if w ≤ 0 ∨ h ≤ 0 then some (.error eInval, ion)
  else do
    let ionFlags := cacheFlags p usage
    let usage ← gpuUsage p w.toNat h.toNat usage
    match ← grallocAllocRgb p answers w.toNat h.toNat format usage ionFlags ion with
    | (.ok allocated, ion) => some (.ok allocated, ion)
    | (.error _, ion) =>
        grallocAllocYuv p answers w.toNat h.toNat format usage ionFlags ion

end Gralloc
end Exynos8890
