import Mathlib.Algebra.Order.BigOperators.Group.Finset
import Exynos8890.Library.CStruct
import Exynos8890.Library.MachineInt

/-!
# The upload of a request document

The HTTP library offers one buffer after the other, and the callback fills each with the next
part of the document until nothing is left.  The cursor is kept between the calls.

Main results:

- Definition `readResponseCallback`: it compares the buffer with the whole document, and not with
  what is left of it.
- Theorem `uploads_iff`: the parts are the document exactly when one buffer takes all of it, or
  some buffers are filled by it to the last byte.
- Theorem `not_uploads`: the second part of five bytes in buffers of three ends outside.
-/

namespace Exynos8890.RootPa

namespace SeClient

open CStruct MachineInt

/-- `ResponseStruct`: the request document, with the cursor of the upload. -/
structure ResponseStruct where
  responseP : Memory
  size : Nat
  offset : UInt32

/-- The set-up of the upload; `size` is `strlen(inputP)`. -/
def setUpload (inputP : Memory) (size : Nat) : ResponseStruct where
  responseP := inputP
  size := size
  offset := 0

/-- `readResponseCallback`: the region that is copied to the buffer.  Its size is returned. -/
def readResponseCallback (abi : Abi) (size nmemb : Nat) (rspP : ResponseStruct) :
    Region × ResponseStruct :=
  let totalSize := abi.size (nmemb * size)
  if rspP.offset.toNat ≥ rspP.size then (⟨rspP.offset.toNat, 0⟩, rspP)
  else
    let readSize := if totalSize < rspP.size then totalSize else rspP.size
    (⟨rspP.offset.toNat, readSize⟩, { rspP with offset := rspP.offset + readSize.toUInt32 })

/-- A buffer that the library offers: it is not empty, and it lies in the address space. -/
structure Offer (abi : Abi) where
  size : Nat
  nmemb : Nat
  nonempty : 0 < nmemb * size
  fits : nmemb * size < 2 ^ abi.sizeBits

/-- The bytes of a buffer. -/
def Offer.bytes {abi : Abi} (offer : Offer abi) : Nat :=
  offer.nmemb * offer.size

/-! ## One call -/

section Call

variable {abi : Abi} (offer : Offer abi) {rspP : ResponseStruct}

theorem read_of_done (h : rspP.size ≤ rspP.offset.toNat) :
    readResponseCallback abi offer.size offer.nmemb rspP =
      (⟨rspP.offset.toNat, 0⟩, rspP) := by
  rw [readResponseCallback, if_pos h]

theorem read_of_lt (h : rspP.offset.toNat < rspP.size) :
    readResponseCallback abi offer.size offer.nmemb rspP =
      (⟨rspP.offset.toNat, min offer.bytes rspP.size⟩,
        { rspP with offset := rspP.offset + (min offer.bytes rspP.size).toUInt32 }) := by
  have hbytes : abi.size (offer.nmemb * offer.size) = offer.bytes := Nat.mod_eq_of_lt offer.fits
  have hread : (if offer.bytes < rspP.size then offer.bytes else rspP.size) =
      min offer.bytes rspP.size := by
    split <;> omega
  rw [readResponseCallback, hbytes]
  dsimp only
  rw [if_neg (Nat.not_le.mpr h), hread]

end Call

/-! ## A sequence of calls -/

section Calls

variable {abi : Abi} (offers : Nat → Offer abi) (rsp : ResponseStruct)

/-- The cursor in front of a call. -/
def before : Nat → ResponseStruct
  | 0 => rsp
  | k + 1 => (readResponseCallback abi (offers k).size (offers k).nmemb (before k)).2

/-- The region that a call copies. -/
def chunk (k : Nat) : Region :=
  (readResponseCallback abi (offers k).size (offers k).nmemb (before offers rsp k)).1

/-- The bytes of the first calls, one behind the other. -/
def sent (n : Nat) : List UInt8 :=
  (List.range n).flatMap fun k => load (chunk offers rsp k) rsp.responseP

/-- The library stops when nothing is returned, and has got the document by then.  No call returns
more than there is place for, and none reads outside the document. -/
def Uploads : Prop :=
  ∃ n, (chunk offers rsp n).size = 0 ∧ (∀ k < n, (chunk offers rsp k).size ≠ 0) ∧
    (∀ k ≤ n, (chunk offers rsp k).size ≤ (offers k).bytes ∧
      (chunk offers rsp k).off + (chunk offers rsp k).size ≤ rsp.size) ∧
    sent offers rsp n = load ⟨0, rsp.size⟩ rsp.responseP

/-- The place in the first buffers. -/
def offered (n : Nat) : Nat :=
  ∑ k ∈ Finset.range n, (offers k).bytes

end Calls

section Steps

variable {abi : Abi} (offers : Nat → Offer abi) (rsp : ResponseStruct)

@[simp]
theorem before_size (k : Nat) : (before offers rsp k).size = rsp.size := by
  induction k with
  | zero => rfl
  | succ k ih =>
      rw [before, readResponseCallback]
      split <;> exact ih

theorem call_of_done {k : Nat} (h : rsp.size ≤ (before offers rsp k).offset.toNat) :
    chunk offers rsp k = ⟨(before offers rsp k).offset.toNat, 0⟩ ∧
      before offers rsp (k + 1) = before offers rsp k := by
  rw [chunk, before, read_of_done _ (by rwa [before_size])]
  exact ⟨rfl, rfl⟩

theorem call_of_lt {k : Nat} (h : (before offers rsp k).offset.toNat < rsp.size) :
    chunk offers rsp k = ⟨(before offers rsp k).offset.toNat, min (offers k).bytes rsp.size⟩ ∧
      (before offers rsp (k + 1)).offset =
        (before offers rsp k).offset + (min (offers k).bytes rsp.size).toUInt32 := by
  rw [chunk, before, read_of_lt _ (by rwa [before_size]), before_size]
  exact ⟨rfl, rfl⟩

/-- Nothing is returned only when the cursor is at the end. -/
theorem done_of_chunk {k : Nat} (h : (chunk offers rsp k).size = 0) :
    rsp.size ≤ (before offers rsp k).offset.toNat := by
  by_contra hlt
  have hlt' : (before offers rsp k).offset.toNat < rsp.size := Nat.not_le.mp hlt
  rw [(call_of_lt offers rsp hlt').1] at h
  have hbytes : 0 < (offers k).bytes := (offers k).nonempty
  dsimp only at h
  omega

theorem length_sent (n : Nat) :
    (sent offers rsp n).length = ∑ k ∈ Finset.range n, (chunk offers rsp k).size := by
  induction n with
  | zero => rfl
  | succ n ih =>
      rw [Finset.sum_range_succ, ← ih, sent, List.range_succ, List.flatMap_append,
        List.length_append, ← sent, List.flatMap_singleton, length_load]

theorem sent_succ (n : Nat) : sent offers rsp (n + 1) =
    sent offers rsp n ++ load (chunk offers rsp n) rsp.responseP := by
  rw [sent, List.range_succ, List.flatMap_append, ← sent, List.flatMap_singleton]

end Steps

/-! ## The buffers that the document fills -/

section Fits

variable {abi : Abi} {offers : Nat → Offer abi}

/-- One buffer takes the document, or the first buffers are as large as it. -/
def Fits (offers : Nat → Offer abi) (size : Nat) : Prop :=
  size < 2 ^ 32 ∧ (size ≤ (offers 0).bytes ∨ ∃ n, offered offers n = size)

theorem offered_succ (n : Nat) : offered offers (n + 1) = offered offers n + (offers n).bytes :=
  Finset.sum_range_succ _ n

theorem offered_strictMono : StrictMono (offered offers) := by
  refine strictMono_nat_of_lt_succ fun n => ?_
  rw [offered_succ]
  exact Nat.lt_add_of_pos_right (offers n).nonempty

variable {inputP : Memory} {size : Nat}

theorem before_of_offered (hsize : size < 2 ^ 32) {n : Nat} (hn : offered offers n = size)
    {k : Nat} (hk : k ≤ n) :
    (before offers (setUpload inputP size) k).offset.toNat = offered offers k ∧
      sent offers (setUpload inputP size) k = load ⟨0, offered offers k⟩ inputP := by
  induction k with
  | zero => exact ⟨rfl, rfl⟩
  | succ k ih =>
      obtain ⟨hoffset, hsent⟩ := ih (Nat.le_of_succ_le hk)
      have hlt : offered offers k < size := hn ▸ offered_strictMono (Nat.lt_of_succ_le hk)
      have hle : offered offers (k + 1) ≤ size := hn ▸ offered_strictMono.monotone hk
      rw [offered_succ] at hle ⊢
      have hmin : min (offers k).bytes size = (offers k).bytes := Nat.min_eq_left (by omega)
      obtain ⟨hchunk, hnext⟩ := call_of_lt offers (setUpload inputP size) (by
        rw [hoffset]
        exact hlt)
      rw [show (setUpload inputP size).size = size from rfl, hmin] at hchunk hnext
      rw [hoffset] at hchunk
      constructor
      · have hbytes : (offers k).bytes < 2 ^ 32 := by omega
        rw [hnext, UInt32.toNat_add, hoffset, Nat.toUInt32, UInt32.toNat_ofNat_of_lt' hbytes]
        exact Nat.mod_eq_of_lt (by omega)
      · have happend := load_append 0 (offered offers k) (offers k).bytes inputP
        rw [Nat.zero_add] at happend
        rw [sent_succ, hsent, hchunk, happend]
        rfl

theorem uploads_of_offered (hsize : size < 2 ^ 32) {n : Nat} (hn : offered offers n = size) :
    Uploads offers (setUpload inputP size) := by
  have hbefore : ∀ k ≤ n,
      (before offers (setUpload inputP size) k).offset.toNat = offered offers k ∧
        sent offers (setUpload inputP size) k = load ⟨0, offered offers k⟩ inputP :=
    fun _ hk => before_of_offered hsize hn hk
  have hend : (setUpload inputP size).size ≤
      (before offers (setUpload inputP size) n).offset.toNat := by
    rw [(hbefore n le_rfl).1, hn]
    exact le_rfl
  have hlast := (call_of_done offers (setUpload inputP size) hend).1
  have hstep : ∀ k < n, chunk offers (setUpload inputP size) k =
      ⟨offered offers k, (offers k).bytes⟩ := by
    intro k hk
    have hlt : offered offers k < size := hn ▸ offered_strictMono hk
    have hle : offered offers (k + 1) ≤ size := hn ▸ offered_strictMono.monotone hk
    rw [offered_succ] at hle
    have hoffset := (hbefore k hk.le).1
    have hcall := (call_of_lt offers (setUpload inputP size) (by
      rw [hoffset]
      exact hlt)).1
    rw [hcall, hoffset, show (setUpload inputP size).size = size from rfl,
      Nat.min_eq_left (by omega)]
  refine ⟨n, by rw [hlast], fun k hk => ?_, fun k hk => ?_, ?_⟩
  · rw [hstep k hk]
    exact (offers k).nonempty.ne'
  · rcases hk.lt_or_eq with hlt | rfl
    · have hle : offered offers (k + 1) ≤ size := hn ▸ offered_strictMono.monotone hlt
      rw [offered_succ] at hle
      rw [hstep k hlt]
      exact ⟨le_rfl, hle⟩
    · rw [hlast, (hbefore k le_rfl).1, hn]
      exact ⟨Nat.zero_le _, le_rfl⟩
  · rw [(hbefore n le_rfl).2, hn]
    rfl

theorem uploads_of_le (hsize : size < 2 ^ 32) (hle : size ≤ (offers 0).bytes) :
    Uploads offers (setUpload inputP size) := by
  by_cases hzero : size = 0
  · exact uploads_of_offered (n := 0) hsize hzero.symm
  have hlt : (before offers (setUpload inputP size) 0).offset.toNat <
      (setUpload inputP size).size := Nat.pos_of_ne_zero hzero
  obtain ⟨hfirst, hnext⟩ := call_of_lt offers (setUpload inputP size) hlt
  have hmin : min (offers 0).bytes (setUpload inputP size).size = size := Nat.min_eq_right hle
  rw [hmin] at hfirst hnext
  have hstart : before offers (setUpload inputP size) 0 = setUpload inputP size := rfl
  have hoffset : (before offers (setUpload inputP size) 1).offset.toNat = size := by
    rw [hnext, hstart, show (setUpload inputP size).offset = 0 from rfl, UInt32.zero_add,
      Nat.toUInt32, UInt32.toNat_ofNat_of_lt' hsize]
  have hlast := (call_of_done offers (setUpload inputP size) (k := 1) hoffset.ge).1
  refine ⟨1, by rw [hlast], fun k hk => ?_, fun k hk => ?_, ?_⟩
  · rw [Nat.lt_one_iff.mp hk, hfirst]
    exact hzero
  · rcases Nat.le_one_iff_eq_zero_or_eq_one.mp hk with rfl | rfl
    · rw [hfirst]
      exact ⟨hle, (Nat.zero_add size).le⟩
    · rw [hlast, hoffset]
      exact ⟨Nat.zero_le _, le_rfl⟩
  · rw [sent_succ, hfirst]
    rfl

theorem fits_of_uploads (h : Uploads offers (setUpload inputP size)) : Fits offers size := by
  obtain ⟨n, hend, hcalls, -, hsent⟩ := h
  have hdone : size ≤ (before offers (setUpload inputP size) n).offset.toNat :=
    done_of_chunk offers _ hend
  have hlength := congrArg List.length hsent
  rw [length_sent, length_load] at hlength
  replace hlength : ∑ k ∈ Finset.range n, (chunk offers (setUpload inputP size) k).size = size :=
    hlength
  have hstep : ∀ k < n, (chunk offers (setUpload inputP size) k).size =
      min (offers k).bytes size := by
    intro k hk
    have hlt : (before offers (setUpload inputP size) k).offset.toNat <
        (setUpload inputP size).size := by
      by_contra hnot
      exact hcalls k hk (by rw [(call_of_done offers _ (Nat.not_lt.mp hnot)).1])
    rw [(call_of_lt offers _ hlt).1]
    rfl
  refine ⟨hdone.trans_lt (UInt32.toNat_lt _), ?_⟩
  by_cases hlarge : ∃ k < n, size ≤ (offers k).bytes
  · -- this buffer takes the document, and the first one is filled before it
    obtain ⟨k, hk, hbytes⟩ := hlarge
    have hwhole : (chunk offers (setUpload inputP size) k).size = size := by
      rw [hstep k hk, Nat.min_eq_right hbytes]
    have hle : ∑ j ∈ Finset.range (k + 1), (chunk offers (setUpload inputP size) j).size ≤
        size := by
      refine le_of_le_of_eq ?_ hlength
      exact Finset.sum_le_sum_of_subset (Finset.range_subset_range.mpr hk)
    rw [Finset.sum_range_succ, hwhole] at hle
    have hzero : k = 0 := by
      by_contra hne
      have hpos : 0 < ∑ j ∈ Finset.range k, (chunk offers (setUpload inputP size) j).size := by
        refine Finset.sum_pos (fun j hj => ?_) ⟨0, Finset.mem_range.mpr (Nat.pos_of_ne_zero hne)⟩
        exact Nat.pos_of_ne_zero (hcalls j ((Finset.mem_range.mp hj).trans hk))
      omega
    exact Or.inl (hzero ▸ hbytes)
  · have hsmall : ∀ k < n, (offers k).bytes < size := by
      intro k hk
      by_contra hnot
      exact hlarge ⟨k, hk, Nat.not_lt.mp hnot⟩
    refine Or.inr ⟨n, ?_⟩
    refine Eq.trans ?_ hlength
    refine Finset.sum_congr rfl fun k hk => ?_
    have hlt := Finset.mem_range.mp hk
    rw [hstep k hlt, Nat.min_eq_left (hsmall k hlt).le]

end Fits

/-- The library gets the document, whatever it is, exactly when it fits. -/
theorem uploads_iff (abi : Abi) (inputP : Memory) (size : Nat) (offers : Nat → Offer abi) :
    Uploads offers (setUpload inputP size) ↔ Fits offers size := by
  constructor
  · exact fits_of_uploads
  · rintro ⟨hsize, hle | ⟨n, hn⟩⟩
    · exact uploads_of_le hsize hle
    · exact uploads_of_offered hsize hn

/-! ## Five bytes in buffers of three -/

def threeBytes : Offer .arm64 where
  size := 1
  nmemb := 3
  nonempty := by decide
  fits := by decide

/-- The text "ABCDE". -/
def fiveLetters : Memory :=
  store 0 [0x41, 0x42, 0x43, 0x44, 0x45] fun _ => 0

/-- The second call copies the terminator, too. -/
theorem not_uploads :
    ¬ ∀ (abi : Abi) (inputP : Memory) (size : Nat) (offers : Nat → Offer abi),
      Uploads offers (setUpload inputP size) := by
  intro hclaim
  obtain ⟨n, hend, -, hinside, -⟩ := hclaim .arm64 fiveLetters 5 fun _ => threeBytes
  match n with
  | 0 => exact absurd hend (by decide)
  | n + 1 => exact absurd (hinside 1 (by omega)).2 (by decide)

end SeClient

end Exynos8890.RootPa
