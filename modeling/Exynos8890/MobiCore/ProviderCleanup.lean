import Exynos8890.MobiCore.RegistryEntries

/-!
# Cleaning up providers and the root

`mcRegistryCleanupSp` reads the container of a service provider and cleans up the trustlets that
it lists, and `mcRegistryCleanupRoot` does so with the providers that the root container lists.
A container that can be read in part is not taken apart; the result is that of the read then,
which is `MC_DRV_OK`.

Main results:

- Definitions `mcRegistryCleanupSp` and `mcRegistryCleanupRoot`.
- Theorem `strncmpEq_free_iff`: the test for a free entry compares whole ids.
- Theorems `cleanupSp_ret_iff` and `cleanupRoot_ret_iff`: when they return `MC_DRV_OK`.
- Theorem `transitive_iff`: when everything that a container lists is gone then.
- Theorem `not_transitive`: a container of one byte.
-/

namespace Exynos8890.MobiCore

namespace RegistryCleanup

open CStruct FileSystem RegistryContents RegistryFiles SecureStorage ServiceBlob

/-! ## Containers with children -/

/-- How much of each file can be read before a read error. -/
abbrev Readable := Text → Nat

/-- A file that can be opened.  A directory can be, and nothing can be read from it. -/
def registryFile (readable : Readable) (fs : Files) (path : Text) : Option RegistryFile :=
  match fs.node path with
  | none => none
  | some .dir => some ⟨[], 0⟩
  | some (.file content) => some ⟨content, readable path⟩

/-- The containers in the files. -/
def registryOf (readable : Readable) (fs : Files) : Registry where
  authToken := registryFile readable fs (getAuthTokenFilePath (hostOf fs))
  rootCont := registryFile readable fs getRootContFilePath
  spCont spid := registryFile readable fs (getSpContFilePath spid)
  tlCont uuid spid := registryFile readable fs (getTlContFilePath uuid spid)

/-- `MC_CONT_CHILDREN_COUNT`. -/
def mcContChildrenCount : Nat := 16

/-- `MC_SPID_FREE`. -/
def mcSpidFree : UInt32 := 0xFFFFFFFF

/-- `MC_UUID_FREE`. -/
def mcUuidFree : McUuid := ⟨List.replicate uuidLength 0xFF, rfl⟩

/-- `mcSoRootCont_t`: header, container, hash and padding. -/
def mcSoCont (cont : List CType) : List CType :=
  [.struct mcSoHeader, .struct cont,
    byteArray (soContHashAndPadSize (CStruct.sizeOf cont) mcSymmetricKey.size)]

/-- `cont.children` of a root container. -/
def rootChildren (bytes : List UInt8) : List UInt32 :=
  (List.range mcContChildrenCount).map fun i =>
    UInt32.ofNat (value ⟨(member (mcSoCont mcRootCont) 1).off + (member mcRootCont 5).off + 4 * i,
      4⟩ (memoryOf bytes))

/-- `cont.children` of the container of a provider. -/
def spChildren (bytes : List UInt8) : List McUuid :=
  (List.range mcContChildrenCount).map fun i =>
    ⟨load ⟨(member (mcSoCont mcSpCont) 1).off + (member mcSpCont 4).off + uuidLength * i,
      uuidLength⟩ (memoryOf bytes), length_load _ _⟩

/-- `strncmp` returns 0: the strings are the same up to `n` bytes or a zero in both. -/
def strncmpEq : Nat → List UInt8 → List UInt8 → Bool
  | n + 1, a :: as, b :: bs => if a ≠ b then false else if a = 0 then true else strncmpEq n as bs
  | _, _, _ => true

/-- `getSpDataPath`. -/
def getSpDataPath (spid : UInt32) : Text :=
  getRegistryPath ++ '/' :: uint32ToString spid

/-! ## The cleanups -/

/-- The loop over the trustlets of a provider. -/
def cleanupTrustlets (p : PointerWidth) (readdir : Readdir) (spid : UInt32) :
    List McUuid → Files → McResult × Files
  | [], fs => (mcDrvOk, fs)
  | uuid :: uuids, fs =>
      if strncmpEq uuidLength uuid.val mcUuidFree.val then
        cleanupTrustlets p readdir spid uuids fs
      else
        let run := mcRegistryCleanupTrustlet p readdir uuid spid fs
        if run.1 = mcDrvOk then cleanupTrustlets p readdir spid uuids run.2 else run

/-- `mcRegistryCleanupSp`.  Without a uuid to compare, `deleteSPTA` is called with `NULL`. -/
def mcRegistryCleanupSp (p : PointerWidth) (readdir : Readdir) (readable : Readable)
    (spid : UInt32) (fs : Files) : McResult × Files :=
  if spid = 0 then (mcDrvErrInvalidParameter, fs)
  else
    let data := mcRegistryReadSp (registryOf readable fs) spid mcSoSpContSize
    if data.ret ≠ mcDrvOk ∨ data.size ≠ mcSoSpContSize then (data.ret, fs)
    else
      let (ret, fs) := cleanupTrustlets p readdir spid (spChildren data.written) fs
      if ret ≠ mcDrvOk then (ret, fs)
      else
        let fs := deleteSPTA p readdir mcUuidFree spid false fs
        let (error, fs) := removeDir readdir (getSpDataPath spid) fs
        if error ≠ none then (mcDrvErrUnknown, fs)
        else
          match fs.remove (getSpContFilePath spid) with
          | .error _ => (mcDrvErrUnknown, fs)
          | .ok fs => (mcDrvOk, fs)

/-- The loop over the providers of the root container. -/
def cleanupSps (p : PointerWidth) (readdir : Readdir) (readable : Readable) :
    List UInt32 → Files → McResult × Files
  | [], fs => (mcDrvOk, fs)
  | spid :: spids, fs =>
      if spid ≠ mcSpidFree then
        let run := mcRegistryCleanupSp p readdir readable spid fs
        if mcDrvOk ≠ run.1 then run else cleanupSps p readdir readable spids run.2
      else cleanupSps p readdir readable spids fs

/-- `mcRegistryCleanupRoot`. -/
def mcRegistryCleanupRoot (p : PointerWidth) (readdir : Readdir) (readable : Readable)
    (fs : Files) : McResult × Files :=
  let data := mcRegistryReadRoot (registryOf readable fs) mcSoRootContSize
  if data.ret ≠ mcDrvOk ∨ data.size ≠ mcSoRootContSize then (data.ret, fs)
  else
    let (ret, fs) := cleanupSps p readdir readable (rootChildren data.written) fs
    if ret ≠ mcDrvOk then (ret, fs)
    else
      match fs.remove getRootContFilePath with
      | .error _ => (mcDrvErrUnknown, fs)
      | .ok fs => (mcDrvOk, fs)

/-! ## What the containers list -/

/-- The trustlets that are listed: the entries that are not free. -/
def listedUuids (bytes : List UInt8) : List McUuid :=
  (spChildren bytes).filter fun uuid => uuid ≠ mcUuidFree

/-- The providers that are listed. -/
def listedSpids (bytes : List UInt8) : List UInt32 :=
  (rootChildren bytes).filter fun spid => spid ≠ mcSpidFree

/-- The bytes of a container that can be read. -/
def containerBytes (file : Option RegistryFile) (size : Nat) : List UInt8 :=
  match file with
  | none => []
  | some file => file.fread size

def spBytes (readable : Readable) (fs : Files) (spid : UInt32) : List UInt8 :=
  containerBytes (registryFile readable fs (getSpContFilePath spid)) mcSoSpContSize

def rootBytes (readable : Readable) (fs : Files) : List UInt8 :=
  containerBytes (registryFile readable fs getRootContFilePath) mcSoRootContSize

section Lists

variable {readable : Readable} {fs fs' : Files} {spid : UInt32}

/-- Without a zero in the second string, whole strings are compared. -/
theorem strncmpEq_iff {as bs : List UInt8} (hlength : as.length = bs.length) (hzero : 0 ∉ bs) :
    strncmpEq bs.length as bs = true ↔ as = bs := by
  induction bs generalizing as with
  | nil => simp [List.length_eq_zero_iff.mp hlength, strncmpEq]
  | cons b bs ih =>
      cases as with
      | nil => cases hlength
      | cons a as =>
          rw [List.mem_cons, not_or] at hzero
          have hrest := ih (Nat.succ.inj hlength) hzero.2
          rw [List.length_cons, strncmpEq, List.cons.injEq]
          by_cases hab : a = b
          · subst hab
            rw [if_neg (not_not.mpr rfl), if_neg (Ne.symm hzero.1), hrest, and_iff_right rfl]
          · rw [if_pos hab]
            exact iff_of_false Bool.false_ne_true fun h => hab h.1

theorem strncmpEq_free_iff (uuid : McUuid) :
    strncmpEq uuidLength uuid.val mcUuidFree.val = true ↔ uuid = mcUuidFree := by
  rw [Subtype.ext_iff]
  have hzero : 0 ∉ mcUuidFree.val := by decide
  exact strncmpEq_iff uuid.property hzero

theorem readContainer_eq {size : Nat} (file : Option RegistryFile) :
    readContainer file size =
      if containerBytes file size = [] then ⟨mcDrvErrInvalidDeviceFile, [], size⟩
      else ⟨mcDrvOk, containerBytes file size, (containerBytes file size).length⟩ := by
  cases file with
  | none => rfl
  | some file =>
      by_cases hnil : containerBytes (some file) size = []
      · have hfread : file.fread size = [] := hnil
        rw [if_pos hnil]
        simp [readContainer, hfread]
      · have hfread : file.fread size ≠ [] := hnil
        rw [if_neg hnil]
        simp only [readContainer]
        rw [if_pos (List.length_pos_iff.mpr hfread)]
        rfl

theorem spBytes_congr (h : fs'.node (getSpContFilePath spid) = fs.node (getSpContFilePath spid)) :
    spBytes readable fs' spid = spBytes readable fs spid := by
  rw [spBytes, spBytes, registryFile, registryFile, h]

theorem exists_file_of_containerBytes {path : Text} {size : Nat}
    (h : containerBytes (registryFile readable fs path) size ≠ []) :
    ∃ content, fs.node path = some (.file content) := by
  unfold registryFile at h
  split at h
  · exact absurd rfl h
  · exact absurd (by simp [containerBytes, RegistryFile.fread]) h
  · next content hnode => exact ⟨content, hnode⟩

theorem containerBytes_of_none {path : Text} (size : Nat) (h : fs.node path = none) :
    containerBytes (registryFile readable fs path) size = [] := by
  rw [registryFile, h]
  rfl

end Lists

/-! ## The entries of a provider -/

def spDataName (spid : UInt32) : Text :=
  uint32ToString spid

def spContName (spid : UInt32) : Text :=
  uint32ToString spid ++ spContFileExt

/-- The entries of a provider with these trustlets. -/
def OfProvider (spid : UInt32) (uuids : List McUuid) (name : Text) : Prop :=
  (∃ uuid ∈ uuids, OfTrustlet uuid spid name) ∨ name = spDataName spid ∨
    name = spContName spid ∨ OfApplication name

section Names

variable {uuid v : McUuid} {spid spid' : UInt32} {uuids : List McUuid}

theorem slash_not_mem_spDataName (spid : UInt32) : '/' ∉ spDataName spid :=
  (not_mem_uint32ToString spid).1

theorem slash_not_mem_spContName (spid : UInt32) : '/' ∉ spContName spid :=
  slash_not_mem_append (not_mem_uint32ToString spid).1 (by decide)

theorem dot_mem_spContName (spid : UInt32) : '.' ∈ spContName spid :=
  List.mem_append_right _ (by decide)

theorem dot_not_mem_spDataName (spid : UInt32) : '.' ∉ spDataName spid :=
  (not_mem_uint32ToString spid).2

theorem spContName_ne_tlContName : spContName spid' ≠ tlContName uuid spid := by
  intro h
  rw [tlContName_eq] at h
  have hext := HexText.append_sep_inj (by decide : '.' ∉ "spcont".toList) (by decide) h
  exact absurd hext.2 (by decide)

theorem not_ofApplication_spContName (spid : UInt32) : ¬ OfApplication (spContName spid) :=
  not_ofApplication_of_ext (by decide : '.' ∉ "spcont".toList) (by decide) (by decide) (by decide)

theorem not_ofApplication_spDataName (spid : UInt32) : ¬ OfApplication (spDataName spid) :=
  not_ofApplication_of_digits (not_mem_uint32ToString spid).2 (letter_not_mem_uint32ToString spid)

theorem spDataName_ne_tlDataName : spDataName spid ≠ tlDataName uuid := by
  intro h
  have hlength := congrArg List.length h
  rw [spDataName, uint32ToString, List.length_reverse, List.length_reverse,
    HexText.length_hexDigits, tlDataName, byteArrayToString, HexText.length_hexBytes,
    uuid.property] at hlength
  exact absurd hlength (by decide)

theorem not_ofTrustlet_spData : ¬ OfTrustlet uuid spid (spDataName spid') := by
  rintro (h | h | h)
  · exact spDataName_ne_tlDataName h
  · exact dot_not_mem_spDataName spid' (h ▸ dot_mem_tlContName uuid spid)
  · exact not_ofApplication_spDataName spid' h

theorem not_ofTrustlet_spCont : ¬ OfTrustlet uuid spid (spContName spid') := by
  rintro (h | h | h)
  · exact dot_not_mem_tlDataName uuid (h ▸ dot_mem_spContName spid')
  · exact spContName_ne_tlContName h
  · exact not_ofApplication_spContName spid' h

theorem eq_of_ofProvider_spCont (h : OfProvider spid uuids (spContName spid')) :
    spid' = spid := by
  rcases h with ⟨uuid, _, h⟩ | h | h | h
  · exact absurd h not_ofTrustlet_spCont
  · exact absurd (h ▸ dot_mem_spContName spid') (dot_not_mem_spDataName spid)
  · exact uint32ToString_inj (List.append_cancel_right h)
  · exact absurd h (not_ofApplication_spContName spid')

theorem eq_of_ofProvider_spData (h : OfProvider spid uuids (spDataName spid')) :
    spid' = spid := by
  rcases h with ⟨uuid, _, h⟩ | h | h | h
  · exact absurd h not_ofTrustlet_spData
  · exact uint32ToString_inj h
  · exact absurd (h ▸ dot_mem_spContName spid) (dot_not_mem_spDataName spid')
  · exact absurd h (not_ofApplication_spDataName spid')

/-- The containers of its trustlets have its id in their names. -/
theorem eq_of_ofProvider_tlCont (h : OfProvider spid uuids (tlContName v spid')) :
    spid' = spid := by
  rcases h with ⟨uuid, _, h⟩ | h | h | h
  · exact (eq_of_ofTrustlet_cont h).2
  · exact absurd (h ▸ dot_mem_tlContName v spid') (dot_not_mem_spDataName spid)
  · exact absurd h.symm spContName_ne_tlContName
  · exact absurd h (not_ofApplication_tlContName v spid')

theorem mem_of_ofProvider_data (h : OfProvider spid uuids (tlDataName v)) : v ∈ uuids := by
  rcases h with ⟨uuid, huuid, h⟩ | h | h | h
  · rw [eq_of_ofTrustlet_data h]
    exact huuid
  · exact absurd h.symm spDataName_ne_tlDataName
  · exact absurd (h ▸ dot_mem_spContName spid) (dot_not_mem_tlDataName v)
  · exact absurd h (not_ofApplication_tlDataName v)

theorem not_ofProvider_root : ¬ OfProvider spid uuids rootFileName := by
  have hname : rootFileName = "00000000".toList ++ '.' :: "rootcont".toList := rfl
  have hdot : '.' ∉ "rootcont".toList := by decide
  have happlication : ¬ OfApplication rootFileName := by
    rw [hname]
    exact not_ofApplication_of_ext hdot (by decide) (by decide) (by decide)
  rintro (⟨uuid, _, h | h | h⟩ | h | h | h)
  · exact dot_not_mem_tlDataName uuid (h ▸ by decide)
  · rw [hname, tlContName_eq] at h
    exact absurd (HexText.append_sep_inj hdot (by decide) h).2 (by decide)
  · exact happlication h
  · exact dot_not_mem_spDataName spid (h ▸ by decide)
  · have hext := HexText.append_sep_inj hdot (by decide : '.' ∉ "spcont".toList) (hname ▸ h)
    exact absurd hext.2 (by decide)
  · exact happlication h

end Names

/-! ## The trustlets of a provider -/

section Trustlets

variable {p : PointerWidth} {readdir : Readdir} {uuid v : McUuid} {spid : UInt32}
  {uuids : List McUuid} {fs fs' : Files}

/-- Whether a trustlet can be cleaned up depends on its two entries. -/
theorem trustletCleanable_iff (hdata : SameBelow (getTlDataPath uuid.val) fs fs')
    (hcont : SameBelow (getTlContFilePath uuid.val spid) fs fs') :
    TrustletCleanable fs' spid uuid ↔ TrustletCleanable fs spid uuid := by
  have hpath : getTlContFilePath uuid.val spid ≠ [] := path_ne_nil _ _
  rw [TrustletCleanable, TrustletCleanable, emptiable_iff_of_sameBelow hdata,
    removable_iff_of_sameBelow hpath hcont]

/-- The cleanup of one trustlet does not change what holds of another. -/
theorem trustletCleanable_of_confined (hne : v ≠ uuid)
    (h : Confined (OfTrustlet uuid spid) fs fs') :
    TrustletCleanable fs' spid v ↔ TrustletCleanable fs spid v := by
  apply trustletCleanable_iff
  · exact h.spares (tlDataName v) (slash_not_mem_tlDataName v)
      fun hname => hne (eq_of_ofTrustlet_data hname)
  · exact h.spares (tlContName v spid) (slash_not_mem_tlContName v spid)
      fun hname => hne (eq_of_ofTrustlet_cont hname).1

theorem trustletGone_host {host host' : RegistryHost}
    (h : getTlRegistryPath host = getTlRegistryPath host')
    (hgone : TrustletGone host spid fs uuid) :
    TrustletGone host' spid fs uuid := by
  refine ⟨hgone.container, hgone.data, ?_⟩
  have hbinary := hgone.binary
  rwa [getTlBinFilePath, h] at hbinary

theorem cleanupTrustlets_filter (p : PointerWidth) (readdir : Readdir) (spid : UInt32)
    (uuids : List McUuid) (fs : Files) :
    cleanupTrustlets p readdir spid uuids fs =
      cleanupTrustlets p readdir spid (uuids.filter fun uuid => uuid ≠ mcUuidFree) fs := by
  induction uuids generalizing fs with
  | nil => rfl
  | cons uuid uuids ih =>
      by_cases hfree : uuid = mcUuidFree
      · rw [cleanupTrustlets, if_pos ((strncmpEq_free_iff uuid).mpr hfree),
          List.filter_cons_of_neg (by simpa using hfree)]
        exact ih fs
      · have htest : ¬ strncmpEq uuidLength uuid.val mcUuidFree.val = true :=
          fun h => hfree ((strncmpEq_free_iff uuid).mp h)
        rw [List.filter_cons_of_pos (by simpa using hfree), cleanupTrustlets, cleanupTrustlets,
          if_neg htest, if_neg htest]
        simp only [ih]

theorem cleanupTrustlets_cons (hfree : uuid ≠ mcUuidFree) :
    cleanupTrustlets p readdir spid (uuid :: uuids) fs =
      if (mcRegistryCleanupTrustlet p readdir uuid spid fs).1 = mcDrvOk then
        cleanupTrustlets p readdir spid uuids
          (mcRegistryCleanupTrustlet p readdir uuid spid fs).2
      else mcRegistryCleanupTrustlet p readdir uuid spid fs := by
  rw [cleanupTrustlets, if_neg fun h => hfree ((strncmpEq_free_iff uuid).mp h)]

/-- The loop succeeds if every trustlet can be cleaned up and none is listed twice: the second
time there is no container. -/
theorem cleanupTrustlets_ret_iff (hlists : Lists readdir) (huuids : mcUuidFree ∉ uuids)
    (fs : Files) :
    (cleanupTrustlets p readdir spid uuids fs).1 = mcDrvOk ↔
      uuids.Nodup ∧ ∀ uuid ∈ uuids, TrustletCleanable fs spid uuid := by
  induction uuids generalizing fs with
  | nil => simp [cleanupTrustlets]
  | cons uuid uuids ih =>
      rw [List.mem_cons, not_or] at huuids
      rw [cleanupTrustlets_cons (Ne.symm huuids.1), List.nodup_cons, List.forall_mem_cons]
      have hret := cleanupTrustlet_ret_iff p uuid spid hlists fs
      split
      · next hok =>
          have hgone := trustletGone_of_cleanupTrustlet p uuid spid hlists fs hok
          have hconfined := confined_cleanupTrustlet p uuid spid hlists fs
          rw [ih huuids.2, and_iff_right (hret.mp hok)]
          by_cases hmem : uuid ∈ uuids
          · refine iff_of_false (fun h => ?_) fun h => h.1.1 hmem
            exact (h.2 uuid hmem).2.1 hgone.container
          · rw [and_iff_right hmem]
            refine and_congr_right fun _ => forall_congr' fun v => forall_congr' fun hv => ?_
            exact trustletCleanable_of_confined (fun h : v = uuid => hmem (h ▸ hv)) hconfined
      · next hfail => exact iff_of_false hfail fun h => hfail (hret.mpr h.2.1)

theorem confined_cleanupTrustlets (hlists : Lists readdir) (huuids : mcUuidFree ∉ uuids)
    (fs : Files) :
    Confined (fun name => ∃ uuid ∈ uuids, OfTrustlet uuid spid name) fs
      (cleanupTrustlets p readdir spid uuids fs).2 := by
  induction uuids generalizing fs with
  | nil => exact confined_refl _ fs
  | cons uuid uuids ih =>
      rw [List.mem_cons, not_or] at huuids
      rw [cleanupTrustlets_cons (Ne.symm huuids.1)]
      have hfirst : Confined (fun name => ∃ v ∈ uuid :: uuids, OfTrustlet v spid name) fs
          (mcRegistryCleanupTrustlet p readdir uuid spid fs).2 :=
        (confined_cleanupTrustlet p uuid spid hlists fs).mono
          fun _ hname => ⟨uuid, List.mem_cons_self, hname⟩
      split
      · refine hfirst.trans ((ih huuids.2 _).mono ?_)
        rintro name ⟨v, hv, hname⟩
        exact ⟨v, List.mem_cons_of_mem _ hv, hname⟩
      · exact hfirst

theorem trustletsGone_of_cleanupTrustlets (hlists : Lists readdir) (huuids : mcUuidFree ∉ uuids)
    (fs : Files) (hok : (cleanupTrustlets p readdir spid uuids fs).1 = mcDrvOk) :
    ∀ uuid ∈ uuids,
      TrustletGone (hostOf fs) spid (cleanupTrustlets p readdir spid uuids fs).2 uuid := by
  induction uuids generalizing fs with
  | nil => exact fun uuid h => absurd h List.not_mem_nil
  | cons uuid uuids ih =>
      rw [List.mem_cons, not_or] at huuids
      rw [cleanupTrustlets_cons (Ne.symm huuids.1)] at hok ⊢
      split at hok
      · next hfirst =>
          rw [if_pos hfirst]
          have hconfined := confined_cleanupTrustlet p uuid spid hlists fs
          rw [List.forall_mem_cons]
          constructor
          · exact (trustletGone_of_cleanupTrustlet p uuid spid hlists fs hfirst).confined
              (confined_cleanupTrustlets hlists huuids.2 _)
          · exact fun v hv =>
              trustletGone_host hconfined.getTlRegistryPath_eq (ih huuids.2 _ hok v hv)
      · next hfirst => exact absurd hok hfirst

end Trustlets

/-! ## The cleanup of a provider -/

/-- The container of a provider can be read in full. -/
def SpWhole (readable : Readable) (fs : Files) (spid : UInt32) : Prop :=
  (spBytes readable fs spid).length = mcSoSpContSize

instance (readable : Readable) (fs : Files) (spid : UInt32) :
    Decidable (SpWhole readable fs spid) :=
  inferInstanceAs (Decidable (_ = _))

/-- What the cleanup of a provider needs: no trustlet is listed twice, and they and the data of
the provider can be removed. -/
structure SpCleanable (readable : Readable) (fs : Files) (spid : UInt32) : Prop where
  nodup : (listedUuids (spBytes readable fs spid)).Nodup
  trustlets : ∀ uuid ∈ listedUuids (spBytes readable fs spid), TrustletCleanable fs spid uuid
  data : Emptiable fs (getSpDataPath spid)

/-- The cleanup of a provider returns `MC_DRV_OK`: its container can be read, and if it can be
read in full, everything can be removed. -/
structure SpPasses (readable : Readable) (fs : Files) (spid : UInt32) : Prop where
  ne_zero : spid ≠ 0
  nonempty : spBytes readable fs spid ≠ []
  cleanable : SpWhole readable fs spid → SpCleanable readable fs spid

/-- The container of a provider was there and is gone, with everything that it listed. -/
structure ProviderGone (readable : Readable) (fs : Files) (spid : UInt32) (fs' : Files) :
    Prop where
  whole : SpWhole readable fs spid
  container : fs'.node (getSpContFilePath spid) = none
  trustlets : ∀ uuid ∈ listedUuids (spBytes readable fs spid),
    TrustletGone (hostOf fs) spid fs' uuid

/-- The files after the trustlets have been cleaned up, and the applications and the data of the
provider. -/
def afterSpData (p : PointerWidth) (readdir : Readdir) (readable : Readable) (spid : UInt32)
    (fs : Files) : Option Errno × Files :=
  removeDir readdir (getSpDataPath spid)
    (deleteSPTA p readdir mcUuidFree spid false
      (cleanupTrustlets p readdir spid (spChildren (spBytes readable fs spid)) fs).2)

section Provider

variable {p : PointerWidth} {readdir : Readdir} {readable : Readable} {spid : UInt32}
  {fs fs' : Files}

theorem mcUuidFree_not_mem_listedUuids (bytes : List UInt8) : mcUuidFree ∉ listedUuids bytes := by
  simp [listedUuids]

theorem cleanupTrustlets_listed (p : PointerWidth) (readdir : Readdir) (spid : UInt32)
    (bytes : List UInt8) (fs : Files) :
    cleanupTrustlets p readdir spid (spChildren bytes) fs =
      cleanupTrustlets p readdir spid (listedUuids bytes) fs :=
  cleanupTrustlets_filter p readdir spid (spChildren bytes) fs

theorem ProviderGone.confined {names : Text → Prop} {fs'' : Files}
    (h : ProviderGone readable fs spid fs') (hconfined : Confined names fs' fs'') :
    ProviderGone readable fs spid fs'' where
  whole := h.whole
  container := hconfined.removes.node_none h.container
  trustlets uuid huuid := (h.trustlets uuid huuid).confined hconfined

/-- A container that cannot be read in full ends the cleanup with the result of the read. -/
theorem cleanupSp_of_not_whole (hwhole : ¬ SpWhole readable fs spid) :
    mcRegistryCleanupSp p readdir readable spid fs =
      (if spid = 0 then mcDrvErrInvalidParameter
        else if spBytes readable fs spid = [] then mcDrvErrInvalidDeviceFile else mcDrvOk, fs) := by
  unfold mcRegistryCleanupSp
  split
  · rfl
  · next hspid =>
      have hread : mcRegistryReadSp (registryOf readable fs) spid mcSoSpContSize =
          if spBytes readable fs spid = [] then ⟨mcDrvErrInvalidDeviceFile, [], mcSoSpContSize⟩
          else ⟨mcDrvOk, spBytes readable fs spid, (spBytes readable fs spid).length⟩ := by
        rw [mcRegistryReadSp, if_neg hspid]
        exact readContainer_eq _
      rw [hread]
      split
      · rfl
      · exact if_pos (Or.inr hwhole)

theorem cleanupSp_of_whole (hspid : spid ≠ 0) (hwhole : SpWhole readable fs spid) :
    mcRegistryCleanupSp p readdir readable spid fs =
      if (cleanupTrustlets p readdir spid (listedUuids (spBytes readable fs spid)) fs).1 ≠
          mcDrvOk then
        cleanupTrustlets p readdir spid (listedUuids (spBytes readable fs spid)) fs
      else if (afterSpData p readdir readable spid fs).1 ≠ none then
        (mcDrvErrUnknown, (afterSpData p readdir readable spid fs).2)
      else
        match (afterSpData p readdir readable spid fs).2.remove (getSpContFilePath spid) with
        | .error _ => (mcDrvErrUnknown, (afterSpData p readdir readable spid fs).2)
        | .ok fs => (mcDrvOk, fs) := by
  have hnonempty : spBytes readable fs spid ≠ [] := by
    intro hnil
    rw [SpWhole, hnil] at hwhole
    exact absurd hwhole (by decide)
  have hread : mcRegistryReadSp (registryOf readable fs) spid mcSoSpContSize =
      ⟨mcDrvOk, spBytes readable fs spid, (spBytes readable fs spid).length⟩ := by
    rw [mcRegistryReadSp, if_neg hspid]
    exact (readContainer_eq _).trans (if_neg hnonempty)
  have hparsed : ¬ (mcDrvOk ≠ mcDrvOk ∨ (spBytes readable fs spid).length ≠ mcSoSpContSize) := by
    rintro (hret | hsize)
    · exact hret rfl
    · exact hsize hwhole
  rw [mcRegistryCleanupSp, if_neg hspid]
  simp only [hread]
  rw [if_neg hparsed]
  simp only [← cleanupTrustlets_listed]
  rfl

theorem confined_applications (hlists : Lists readdir) (readable : Readable) (spid : UInt32)
    (fs : Files) :
    Confined (fun name => (∃ uuid ∈ listedUuids (spBytes readable fs spid),
        OfTrustlet uuid spid name) ∨ OfApplication name) fs
      (deleteSPTA p readdir mcUuidFree spid false
        (cleanupTrustlets p readdir spid (spChildren (spBytes readable fs spid)) fs).2) := by
  rw [cleanupTrustlets_listed]
  have hfree := mcUuidFree_not_mem_listedUuids (spBytes readable fs spid)
  refine ((confined_cleanupTrustlets (p := p) hlists hfree fs).mono
    fun _ hname => Or.inl hname).trans ?_
  exact (confined_deleteSPTA p hlists mcUuidFree spid false _).mono fun _ hname => Or.inr hname

theorem confined_afterSpData (hlists : Lists readdir) (readable : Readable) (spid : UInt32)
    (fs : Files) :
    Confined (fun name => ((∃ uuid ∈ listedUuids (spBytes readable fs spid),
        OfTrustlet uuid spid name) ∨ OfApplication name) ∨ name = spDataName spid) fs
      (afterSpData p readdir readable spid fs).2 :=
  ((confined_applications hlists readable spid fs).mono fun _ hname => Or.inl hname).trans
    ((confined_removeDir hlists (slash_not_mem_spDataName spid) _).mono
      fun _ hname => Or.inr hname)

/-- The data of the provider are removed without an error if they could be at the beginning. -/
theorem afterSpData_eq_none_iff (hlists : Lists readdir) (readable : Readable) (spid : UInt32)
    (fs : Files) :
    (afterSpData p readdir readable spid fs).1 = none ↔ Emptiable fs (getSpDataPath spid) := by
  have hpath : getSpDataPath spid ≠ [] := path_ne_nil _ _
  have hparent : dirname (getSpDataPath spid) ≠ getSpDataPath spid := by
    rw [dirname, getSpDataPath, HexText.beforeLast_append (not_mem_uint32ToString spid).1]
    exact ne_append_name _ _
  have hsame : SameBelow (getSpDataPath spid) fs _ :=
    (confined_applications (p := p) hlists readable spid fs).spares (spDataName spid)
      (slash_not_mem_spDataName spid) (by
        rintro (⟨uuid, _, hname⟩ | hname)
        · exact not_ofTrustlet_spData hname
        · exact not_ofApplication_spDataName spid hname)
  rw [← emptiable_iff_of_sameBelow hsame]
  exact removeDir_eq_none_iff hlists hpath hparent _

theorem node_spCont_afterSpData (hlists : Lists readdir) (readable : Readable) (spid : UInt32)
    (fs : Files) :
    (afterSpData p readdir readable spid fs).2.node (getSpContFilePath spid) =
      fs.node (getSpContFilePath spid) := by
  have hother : ¬ (((∃ uuid ∈ listedUuids (spBytes readable fs spid),
      OfTrustlet uuid spid (spContName spid)) ∨ OfApplication (spContName spid)) ∨
        spContName spid = spDataName spid) := by
    rintro ((⟨uuid, _, hname⟩ | hname) | hname)
    · exact not_ofTrustlet_spCont hname
    · exact not_ofApplication_spContName spid hname
    · exact dot_not_mem_spDataName spid (hname ▸ dot_mem_spContName spid)
  have hspared : SameBelow (entry (spContName spid)) fs
      (afterSpData p readdir readable spid fs).2 :=
    (confined_afterSpData hlists readable spid fs).spares (spContName spid)
      (slash_not_mem_spContName spid) hother
  exact hspared (entry (spContName spid)) (below_self _)

/-- When the cleanup of a provider returns `MC_DRV_OK`. -/
theorem cleanupSp_ret_iff (hlists : Lists readdir) (readable : Readable) (spid : UInt32)
    (fs : Files) :
    (mcRegistryCleanupSp p readdir readable spid fs).1 = mcDrvOk ↔
      SpPasses readable fs spid := by
  have hunknown : mcDrvErrUnknown ≠ mcDrvOk := by decide
  by_cases hzero : spid = 0
  · rw [mcRegistryCleanupSp, if_pos hzero]
    exact iff_of_false (by decide : mcDrvErrInvalidParameter ≠ mcDrvOk) fun h => h.ne_zero hzero
  · by_cases hwhole : SpWhole readable fs spid
    · have hnonempty : spBytes readable fs spid ≠ [] := by
        intro hnil
        rw [SpWhole, hnil] at hwhole
        exact absurd hwhole (by decide)
      have hfree := mcUuidFree_not_mem_listedUuids (spBytes readable fs spid)
      have htrustlets : (cleanupTrustlets p readdir spid
          (listedUuids (spBytes readable fs spid)) fs).1 = mcDrvOk ↔ _ :=
        cleanupTrustlets_ret_iff hlists hfree fs
      have hdata := afterSpData_eq_none_iff (p := p) hlists readable spid fs
      have hpasses : SpPasses readable fs spid ↔ SpCleanable readable fs spid :=
        ⟨fun h => h.cleanable hwhole, fun h => ⟨hzero, hnonempty, fun _ => h⟩⟩
      rw [cleanupSp_of_whole hzero hwhole, hpasses]
      split
      · next hfail =>
          exact iff_of_false hfail fun h => hfail (htrustlets.mpr ⟨h.nodup, h.trustlets⟩)
      · next hok =>
          rw [ne_eq, not_not] at hok
          obtain ⟨hnodup, hcleanable⟩ := htrustlets.mp hok
          split
          · next hfail => exact iff_of_false hunknown fun h => hfail (hdata.mpr h.data)
          · next hnone =>
              rw [ne_eq, not_not] at hnone
              obtain ⟨content, hfile⟩ := exists_file_of_containerBytes hnonempty
              rw [← node_spCont_afterSpData (p := p) hlists readable spid fs] at hfile
              obtain ⟨fs', hremove⟩ := Tree.remove_eq_ok hfile
              rw [hremove]
              exact iff_of_true rfl ⟨hnodup, hcleanable, hdata.mp hnone⟩
    · rw [cleanupSp_of_not_whole hwhole, if_neg hzero]
      split
      · next hnil =>
          exact iff_of_false (by decide : mcDrvErrInvalidDeviceFile ≠ mcDrvOk)
            fun h => h.nonempty hnil
      · next hnonempty =>
          exact iff_of_true rfl ⟨hzero, hnonempty, fun h => absurd h hwhole⟩

theorem confined_cleanupSp (hlists : Lists readdir) (readable : Readable) (spid : UInt32)
    (fs : Files) :
    Confined (OfProvider spid (listedUuids (spBytes readable fs spid))) fs
      (mcRegistryCleanupSp p readdir readable spid fs).2 := by
  by_cases hzero : spid = 0
  · rw [mcRegistryCleanupSp, if_pos hzero]
    exact confined_refl _ fs
  · by_cases hwhole : SpWhole readable fs spid
    · have hfree := mcUuidFree_not_mem_listedUuids (spBytes readable fs spid)
      have htrustlets : Confined (OfProvider spid (listedUuids (spBytes readable fs spid))) fs
          (cleanupTrustlets p readdir spid (listedUuids (spBytes readable fs spid)) fs).2 :=
        (confined_cleanupTrustlets hlists hfree fs).mono fun _ hname => Or.inl hname
      have hdata : Confined (OfProvider spid (listedUuids (spBytes readable fs spid))) fs
          (afterSpData p readdir readable spid fs).2 := by
        refine (confined_afterSpData hlists readable spid fs).mono ?_
        rintro name ((hname | hname) | hname)
        · exact Or.inl hname
        · exact Or.inr (Or.inr (Or.inr hname))
        · exact Or.inr (Or.inl hname)
      have hcont : Confined (OfProvider spid (listedUuids (spBytes readable fs spid)))
          (afterSpData p readdir readable spid fs).2
          (after (afterSpData p readdir readable spid fs).2
            ((afterSpData p readdir readable spid fs).2.remove (getSpContFilePath spid))) :=
        (confined_remove (slash_not_mem_spContName spid) _).mono
          fun _ hname => Or.inr (Or.inr (Or.inl hname))
      rw [cleanupSp_of_whole hzero hwhole]
      split
      · exact htrustlets
      · split
        · exact hdata
        · revert hcont
          cases (afterSpData p readdir readable spid fs).2.remove (getSpContFilePath spid) with
          | error errno => exact fun _ => hdata
          | ok fs' => exact fun hcont => hdata.trans hcont
    · rw [cleanupSp_of_not_whole hwhole]
      exact confined_refl _ fs

/-- What a cleanup that returns `MC_DRV_OK` has removed, if the container could be read in
full. -/
theorem providerGone_of_cleanupSp (hlists : Lists readdir) (readable : Readable) (spid : UInt32)
    (fs : Files) (hwhole : SpWhole readable fs spid)
    (hok : (mcRegistryCleanupSp p readdir readable spid fs).1 = mcDrvOk) :
    ProviderGone readable fs spid (mcRegistryCleanupSp p readdir readable spid fs).2 := by
  have hunknown : mcDrvErrUnknown ≠ mcDrvOk := by decide
  have hzero := ((cleanupSp_ret_iff hlists readable spid fs).mp hok).ne_zero
  have hfree := mcUuidFree_not_mem_listedUuids (spBytes readable fs spid)
  have happlications := confined_deleteSPTA p hlists mcUuidFree spid false
    (cleanupTrustlets p readdir spid (listedUuids (spBytes readable fs spid)) fs).2
  have hdata := confined_removeDir hlists (slash_not_mem_spDataName spid)
    (deleteSPTA p readdir mcUuidFree spid false
      (cleanupTrustlets p readdir spid (listedUuids (spBytes readable fs spid)) fs).2)
  rw [cleanupSp_of_whole hzero hwhole] at hok ⊢
  split at hok
  · next hfail => exact absurd hok hfail
  · next htrustlets =>
      rw [if_neg htrustlets]
      rw [ne_eq, not_not] at htrustlets
      have hgone := trustletsGone_of_cleanupTrustlets hlists hfree fs htrustlets
      split at hok
      · exact absurd hok hunknown
      · next hnone =>
          rw [if_neg hnone]
          cases hremove : (afterSpData p readdir readable spid fs).2.remove
              (getSpContFilePath spid) with
          | error errno =>
              rw [hremove] at hok
              exact absurd hok hunknown
          | ok fs' =>
              have hcont := confined_remove (slash_not_mem_spContName spid)
                (afterSpData p readdir readable spid fs).2
              have hpath : entry (spContName spid) = getSpContFilePath spid := rfl
              rw [hpath, hremove] at hcont
              refine ⟨hwhole, ?_, fun uuid huuid => ?_⟩
              · show fs'.node _ = none
                rw [Tree.node_remove hremove, if_pos rfl]
              · have hlater := ((hgone uuid huuid).confined happlications).confined hdata
                have hsame : afterSpData p readdir readable spid fs =
                    removeDir readdir (entry (spDataName spid))
                      (deleteSPTA p readdir mcUuidFree spid false (cleanupTrustlets p readdir spid
                        (listedUuids (spBytes readable fs spid)) fs).2) := by
                  rw [afterSpData, cleanupTrustlets_listed]
                  rfl
                rw [← hsame] at hlater
                exact hlater.confined hcont

/-- The cleanup of one provider does not change what holds of another, also when both list a
trustlet of the same uuid. -/
theorem spCleanable_iff {other : UInt32} {uuids : List McUuid} (hne : other ≠ spid)
    (h : Confined (OfProvider spid uuids) fs fs')
    (huuids : ∀ uuid ∈ uuids, Emptiable fs (getTlDataPath uuid.val) ∧
      fs'.node (getTlDataPath uuid.val) ≠ some .dir) :
    SpCleanable readable fs' other ↔ SpCleanable readable fs other := by
  have hbytes : spBytes readable fs' other = spBytes readable fs other :=
    spBytes_congr (h.spares (spContName other) (slash_not_mem_spContName other)
      (fun hname => hne (eq_of_ofProvider_spCont hname)) _ (below_self _))
  have hdata : SameBelow (getSpDataPath other) fs fs' :=
    h.spares (spDataName other) (slash_not_mem_spDataName other)
      fun hname => hne (eq_of_ofProvider_spData hname)
  have htrustlet : ∀ uuid, TrustletCleanable fs' other uuid ↔ TrustletCleanable fs other uuid := by
    intro uuid
    have hcont : SameBelow (getTlContFilePath uuid.val other) fs fs' :=
      h.spares (tlContName uuid other) (slash_not_mem_tlContName uuid other)
        fun hname => hne (eq_of_ofProvider_tlCont hname)
    by_cases hmem : uuid ∈ uuids
    · have hpath : getTlContFilePath uuid.val other ≠ [] := path_ne_nil _ _
      obtain ⟨hbefore, hgone⟩ := huuids uuid hmem
      rw [TrustletCleanable, TrustletCleanable, removable_iff_of_sameBelow hpath hcont]
      exact and_congr_left fun _ => iff_of_true (emptiable_of_ne_dir hgone) hbefore
    · have htl : SameBelow (getTlDataPath uuid.val) fs fs' :=
        h.spares (tlDataName uuid) (slash_not_mem_tlDataName uuid)
          fun hname => hmem (mem_of_ofProvider_data hname)
      exact trustletCleanable_iff htl hcont
  constructor
  · rintro ⟨hnodup, htrustlets, hempty⟩
    rw [hbytes] at hnodup htrustlets
    exact ⟨hnodup, fun uuid hmem => (htrustlet uuid).mp (htrustlets uuid hmem),
      (emptiable_iff_of_sameBelow hdata).mp hempty⟩
  · rintro ⟨hnodup, htrustlets, hempty⟩
    rw [← hbytes] at hnodup htrustlets
    exact ⟨hnodup, fun uuid hmem => (htrustlet uuid).mpr (htrustlets uuid hmem),
      (emptiable_iff_of_sameBelow hdata).mpr hempty⟩

/-- After a provider has been cleaned up, the others are as before. -/
theorem others_of_cleanupSp {other : UInt32} (hlists : Lists readdir) (hne : other ≠ spid)
    (hok : (mcRegistryCleanupSp p readdir readable spid fs).1 = mcDrvOk) :
    spBytes readable (mcRegistryCleanupSp p readdir readable spid fs).2 other =
        spBytes readable fs other ∧
      (SpPasses readable (mcRegistryCleanupSp p readdir readable spid fs).2 other ↔
        SpPasses readable fs other) := by
  have hconfined := confined_cleanupSp (p := p) hlists readable spid fs
  have hpasses := (cleanupSp_ret_iff hlists readable spid fs).mp hok
  have hbytes : spBytes readable (mcRegistryCleanupSp p readdir readable spid fs).2 other =
      spBytes readable fs other :=
    spBytes_congr (hconfined.spares (spContName other) (slash_not_mem_spContName other)
      (fun hname => hne (eq_of_ofProvider_spCont hname)) _ (below_self _))
  have hcleanable : SpCleanable readable (mcRegistryCleanupSp p readdir readable spid fs).2 other ↔
      SpCleanable readable fs other := by
    by_cases hwhole : SpWhole readable fs spid
    · have hgone := providerGone_of_cleanupSp hlists readable spid fs hwhole hok
      apply spCleanable_iff hne hconfined
      intro uuid huuid
      exact ⟨((hpasses.cleanable hwhole).trustlets uuid huuid).1, (hgone.trustlets uuid huuid).data⟩
    · rw [cleanupSp_of_not_whole hwhole]
  refine ⟨hbytes, ?_⟩
  constructor
  · rintro ⟨hzero, hnonempty, hclean⟩
    rw [hbytes] at hnonempty
    exact ⟨hzero, hnonempty, fun h => hcleanable.mp (hclean (by rwa [SpWhole, hbytes]))⟩
  · rintro ⟨hzero, hnonempty, hclean⟩
    rw [← hbytes] at hnonempty
    refine ⟨hzero, hnonempty, fun h => hcleanable.mpr (hclean ?_)⟩
    rwa [SpWhole, hbytes] at h

end Provider

/-! ## The providers of the root -/

/-- The root container can be read in full. -/
def RootWhole (readable : Readable) (fs : Files) : Prop :=
  (rootBytes readable fs).length = mcSoRootContSize

instance (readable : Readable) (fs : Files) : Decidable (RootWhole readable fs) :=
  inferInstanceAs (Decidable (_ = _))

/-- The cleanup of the root returns `MC_DRV_OK`: its container can be read, and if it can be read
in full, every provider passes, and none whose container can be read in full is listed twice. -/
structure RootPasses (readable : Readable) (fs : Files) : Prop where
  nonempty : rootBytes readable fs ≠ []
  providers : RootWhole readable fs →
    ∀ spid ∈ listedSpids (rootBytes readable fs), SpPasses readable fs spid
  nodup : RootWhole readable fs →
    ((listedSpids (rootBytes readable fs)).filter fun spid => SpWhole readable fs spid).Nodup

section Root

variable {p : PointerWidth} {readdir : Readdir} {readable : Readable} {spid : UInt32}
  {spids : List UInt32} {fs fs' : Files}

theorem cleanupSps_filter (p : PointerWidth) (readdir : Readdir) (readable : Readable)
    (spids : List UInt32) (fs : Files) :
    cleanupSps p readdir readable spids fs =
      cleanupSps p readdir readable (spids.filter fun spid => spid ≠ mcSpidFree) fs := by
  induction spids generalizing fs with
  | nil => rfl
  | cons spid spids ih =>
      by_cases hfree : spid = mcSpidFree
      · rw [cleanupSps, if_neg (not_not.mpr hfree), List.filter_cons_of_neg (by simpa using hfree)]
        exact ih fs
      · rw [List.filter_cons_of_pos (by simpa using hfree), cleanupSps, cleanupSps, if_pos hfree,
          if_pos hfree]
        simp only [ih]

theorem cleanupSps_cons (hfree : spid ≠ mcSpidFree) :
    cleanupSps p readdir readable (spid :: spids) fs =
      if mcDrvOk ≠ (mcRegistryCleanupSp p readdir readable spid fs).1 then
        mcRegistryCleanupSp p readdir readable spid fs
      else
        cleanupSps p readdir readable spids (mcRegistryCleanupSp p readdir readable spid fs).2 := by
  rw [cleanupSps, if_pos hfree]

/-- The loop succeeds if every provider passes and none is cleaned up twice: the second time
there is no container. -/
theorem cleanupSps_ret_iff (hlists : Lists readdir) (hspids : mcSpidFree ∉ spids) (fs : Files) :
    (cleanupSps p readdir readable spids fs).1 = mcDrvOk ↔
      (∀ spid ∈ spids, SpPasses readable fs spid) ∧
        (spids.filter fun spid => SpWhole readable fs spid).Nodup := by
  induction spids generalizing fs with
  | nil => simp [cleanupSps]
  | cons spid spids ih =>
      rw [List.mem_cons, not_or] at hspids
      rw [cleanupSps_cons (Ne.symm hspids.1), List.forall_mem_cons]
      have hret := cleanupSp_ret_iff (p := p) hlists readable spid fs
      split
      · next hfail =>
          refine iff_of_false (Ne.symm hfail) fun h => hfail ?_
          exact (hret.mpr h.1.1).symm
      · next hok =>
          rw [ne_eq, not_not] at hok
          have hpasses := hret.mp hok.symm
          rw [ih hspids.2, and_iff_right hpasses]
          by_cases hwhole : SpWhole readable fs spid
          · have hgone := providerGone_of_cleanupSp hlists readable spid fs hwhole hok.symm
            rw [List.filter_cons_of_pos (by simpa using hwhole), List.nodup_cons]
            by_cases hmem : spid ∈ spids
            · -- the container is gone when its turn comes again
              refine iff_of_false (fun h => (h.1 spid hmem).nonempty ?_) fun h => ?_
              · exact containerBytes_of_none _ hgone.container
              · exact h.2.1 (List.mem_filter.mpr ⟨hmem, by simpa using hwhole⟩)
            · have hothers : ∀ other ∈ spids, _ := fun other hother =>
                others_of_cleanupSp hlists (fun h : other = spid => hmem (h ▸ hother)) hok.symm
              have hfilter : (spids.filter fun other => SpWhole readable
                  (mcRegistryCleanupSp p readdir readable spid fs).2 other) =
                  spids.filter fun other => SpWhole readable fs other := by
                apply List.filter_congr
                intro other hother
                rw [decide_eq_decide, SpWhole, SpWhole, (hothers other hother).1]
              have hnotMem : spid ∉ spids.filter fun other => SpWhole readable fs other :=
                fun h => hmem (List.mem_filter.mp h).1
              rw [hfilter, and_iff_right hnotMem]
              refine and_congr_left fun _ => forall_congr' fun other => ?_
              exact forall_congr' fun hother => (hothers other hother).2
          · rw [List.filter_cons_of_neg (by simpa using hwhole), cleanupSp_of_not_whole hwhole]

theorem confined_cleanupSps (hlists : Lists readdir) (hspids : mcSpidFree ∉ spids) (fs : Files) :
    Confined (fun name => ∃ spid uuids, OfProvider spid uuids name) fs
      (cleanupSps p readdir readable spids fs).2 := by
  induction spids generalizing fs with
  | nil => exact confined_refl _ fs
  | cons spid spids ih =>
      rw [List.mem_cons, not_or] at hspids
      rw [cleanupSps_cons (Ne.symm hspids.1)]
      have hfirst : Confined (fun name => ∃ spid uuids, OfProvider spid uuids name) fs
          (mcRegistryCleanupSp p readdir readable spid fs).2 :=
        (confined_cleanupSp hlists readable spid fs).mono fun _ hname => ⟨spid, _, hname⟩
      split
      · exact hfirst
      · exact hfirst.trans (ih hspids.2 _)

/-- What a loop that succeeds has removed, if every container could be read in full. -/
theorem providersGone_of_cleanupSps (hlists : Lists readdir) (hspids : mcSpidFree ∉ spids)
    (fs : Files) (hok : (cleanupSps p readdir readable spids fs).1 = mcDrvOk)
    (hwhole : ∀ spid ∈ spids, SpWhole readable fs spid) :
    ∀ spid ∈ spids,
      ProviderGone readable fs spid (cleanupSps p readdir readable spids fs).2 := by
  induction spids generalizing fs with
  | nil => exact fun spid h => absurd h List.not_mem_nil
  | cons spid spids ih =>
      have hret := (cleanupSps_ret_iff hlists hspids fs).mp hok
      rw [List.mem_cons, not_or] at hspids
      rw [List.forall_mem_cons] at hwhole
      rw [List.filter_cons_of_pos (by simpa using hwhole.1), List.nodup_cons] at hret
      rw [cleanupSps_cons (Ne.symm hspids.1)] at hok ⊢
      split at hok
      · next hfail => exact absurd hok.symm hfail
      · next hfirst =>
          rw [if_neg hfirst]
          rw [ne_eq, not_not] at hfirst
          have hconfined := confined_cleanupSp (p := p) hlists readable spid fs
          have hothers : ∀ other ∈ spids, spBytes readable
              (mcRegistryCleanupSp p readdir readable spid fs).2 other =
                spBytes readable fs other := by
            intro other hother
            refine (others_of_cleanupSp hlists (fun h : other = spid => ?_) hfirst.symm).1
            exact hret.2.1 (List.mem_filter.mpr ⟨h ▸ hother, by simpa using hwhole.1⟩)
          have hrest := ih hspids.2 _ hok fun other hother => by
            rw [SpWhole, hothers other hother]
            exact hwhole.2 other hother
          rw [List.forall_mem_cons]
          constructor
          · exact (providerGone_of_cleanupSp hlists readable spid fs hwhole.1 hfirst.symm).confined
              (confined_cleanupSps hlists hspids.2 _)
          · intro other hother
            obtain ⟨_, hcontainer, htrustlets⟩ := hrest other hother
            rw [hothers other hother] at htrustlets
            exact ⟨hwhole.2 other hother, hcontainer, fun uuid huuid =>
              trustletGone_host hconfined.getTlRegistryPath_eq (htrustlets uuid huuid)⟩

theorem mcSpidFree_not_mem_listedSpids (bytes : List UInt8) : mcSpidFree ∉ listedSpids bytes := by
  simp [listedSpids]

/-- A root container that cannot be read in full ends the cleanup with the result of the read. -/
theorem cleanupRoot_of_not_whole (hwhole : ¬ RootWhole readable fs) :
    mcRegistryCleanupRoot p readdir readable fs =
      (if rootBytes readable fs = [] then mcDrvErrInvalidDeviceFile else mcDrvOk, fs) := by
  have hread : mcRegistryReadRoot (registryOf readable fs) mcSoRootContSize =
      if rootBytes readable fs = [] then ⟨mcDrvErrInvalidDeviceFile, [], mcSoRootContSize⟩
      else ⟨mcDrvOk, rootBytes readable fs, (rootBytes readable fs).length⟩ :=
    readContainer_eq _
  unfold mcRegistryCleanupRoot
  rw [hread]
  split
  · rfl
  · exact if_pos (Or.inr hwhole)

theorem cleanupRoot_of_whole (hwhole : RootWhole readable fs) :
    mcRegistryCleanupRoot p readdir readable fs =
      if (cleanupSps p readdir readable (listedSpids (rootBytes readable fs)) fs).1 ≠ mcDrvOk then
        cleanupSps p readdir readable (listedSpids (rootBytes readable fs)) fs
      else
        match (cleanupSps p readdir readable (listedSpids (rootBytes readable fs)) fs).2.remove
            getRootContFilePath with
        | .error _ => (mcDrvErrUnknown,
            (cleanupSps p readdir readable (listedSpids (rootBytes readable fs)) fs).2)
        | .ok fs => (mcDrvOk, fs) := by
  have hnonempty : rootBytes readable fs ≠ [] := by
    intro hnil
    rw [RootWhole, hnil] at hwhole
    exact absurd hwhole (by decide)
  have hread : mcRegistryReadRoot (registryOf readable fs) mcSoRootContSize =
      ⟨mcDrvOk, rootBytes readable fs, (rootBytes readable fs).length⟩ :=
    (readContainer_eq _).trans (if_neg hnonempty)
  have hparsed : ¬ (mcDrvOk ≠ mcDrvOk ∨ (rootBytes readable fs).length ≠ mcSoRootContSize) := by
    rintro (hret | hsize)
    · exact hret rfl
    · exact hsize hwhole
  have hlisted : cleanupSps p readdir readable (rootChildren (rootBytes readable fs)) fs =
      cleanupSps p readdir readable (listedSpids (rootBytes readable fs)) fs :=
    cleanupSps_filter p readdir readable (rootChildren (rootBytes readable fs)) fs
  rw [mcRegistryCleanupRoot]
  simp only [hread]
  rw [if_neg hparsed]
  simp only [← hlisted]

theorem node_rootCont_cleanupSps (hlists : Lists readdir) (hspids : mcSpidFree ∉ spids)
    (fs : Files) :
    (cleanupSps p readdir readable spids fs).2.node getRootContFilePath =
      fs.node getRootContFilePath := by
  have hslash : '/' ∉ rootFileName := by decide
  have hother : ¬ ∃ spid uuids, OfProvider spid uuids rootFileName := by
    rintro ⟨spid, uuids, hname⟩
    exact not_ofProvider_root hname
  have hspared : SameBelow (entry rootFileName) fs
      (cleanupSps p readdir readable spids fs).2 :=
    (confined_cleanupSps hlists hspids fs).spares rootFileName hslash hother
  exact hspared (entry rootFileName) (below_self _)

/-- When the cleanup of the root returns `MC_DRV_OK`. -/
theorem cleanupRoot_ret_iff (hlists : Lists readdir) (readable : Readable) (fs : Files) :
    (mcRegistryCleanupRoot p readdir readable fs).1 = mcDrvOk ↔ RootPasses readable fs := by
  by_cases hwhole : RootWhole readable fs
  · have hnonempty : rootBytes readable fs ≠ [] := by
      intro hnil
      rw [RootWhole, hnil] at hwhole
      exact absurd hwhole (by decide)
    have hfree := mcSpidFree_not_mem_listedSpids (rootBytes readable fs)
    have hret : (cleanupSps p readdir readable (listedSpids (rootBytes readable fs)) fs).1 =
        mcDrvOk ↔ _ := cleanupSps_ret_iff hlists hfree fs
    have hpasses : RootPasses readable fs ↔
        (cleanupSps p readdir readable (listedSpids (rootBytes readable fs)) fs).1 = mcDrvOk := by
      rw [hret]
      exact ⟨fun h => ⟨h.providers hwhole, h.nodup hwhole⟩,
        fun h => ⟨hnonempty, fun _ => h.1, fun _ => h.2⟩⟩
    rw [cleanupRoot_of_whole hwhole, hpasses]
    split
    · next hfail => exact iff_of_false hfail hfail
    · next hok =>
        rw [ne_eq, not_not] at hok
        obtain ⟨content, hfile⟩ := exists_file_of_containerBytes hnonempty
        rw [← node_rootCont_cleanupSps (p := p) hlists hfree fs] at hfile
        obtain ⟨fs', hremove⟩ := Tree.remove_eq_ok hfile
        rw [hremove]
        exact iff_of_true rfl hok
  · rw [cleanupRoot_of_not_whole hwhole]
    split
    · next hnil =>
        exact iff_of_false (by decide : mcDrvErrInvalidDeviceFile ≠ mcDrvOk)
          fun h => h.nonempty hnil
    · next hnonempty =>
        exact iff_of_true rfl
          ⟨hnonempty, fun h => absurd h hwhole, fun h => absurd h hwhole⟩

end Root

/-! ## Transitive cleanups -/

/-- The two cleanups. -/
inductive ContainerCleanup where
  | sp (spid : UInt32)
  | root

/-- A cleanup. -/
def ContainerCleanup.run (p : PointerWidth) (readdir : Readdir) (readable : Readable)
    (fs : Files) : ContainerCleanup → McResult × Files
  | sp spid => mcRegistryCleanupSp p readdir readable spid fs
  | root => mcRegistryCleanupRoot p readdir readable fs

/-- The containers could be read in full, and they are gone with everything that they listed. -/
def ContainerCleanup.Removed (readable : Readable) (fs fs' : Files) : ContainerCleanup → Prop
  | sp spid => ProviderGone readable fs spid fs'
  | root => RootWhole readable fs ∧ fs'.node getRootContFilePath = none ∧
      ∀ spid ∈ listedSpids (rootBytes readable fs), ProviderGone readable fs spid fs'

/-- A cleanup that returns `MC_DRV_OK` is transitive; it does not return it when a container
cannot be read in full. -/
def Transitive (p : PointerWidth) (readdir : Readdir) (readable : Readable) (fs : Files)
    (cleanup : ContainerCleanup) : Prop :=
  (cleanup.run p readdir readable fs).1 = mcDrvOk →
    cleanup.Removed readable fs (cleanup.run p readdir readable fs).2

/-- The container of a provider can be read, and not in full. -/
def SpTruncated (readable : Readable) (fs : Files) (spid : UInt32) : Prop :=
  spid ≠ 0 ∧ spBytes readable fs spid ≠ [] ∧ ¬ SpWhole readable fs spid

/-- No container that the cleanup takes apart is truncated, or something else is in its way. -/
def ContainerCleanup.Parses (readable : Readable) (fs : Files) : ContainerCleanup → Prop
  | sp spid => ¬ SpTruncated readable fs spid
  | root => (rootBytes readable fs = [] ∨ RootWhole readable fs) ∧
      (RootWhole readable fs → RootPasses readable fs →
        ∀ spid ∈ listedSpids (rootBytes readable fs), ¬ SpTruncated readable fs spid)

section Transitive

variable {p : PointerWidth} {readdir : Readdir} {readable : Readable} {fs : Files}

theorem transitive_sp_iff (hlists : Lists readdir) (spid : UInt32) :
    Transitive p readdir readable fs (.sp spid) ↔ ¬ SpTruncated readable fs spid := by
  have hret : (mcRegistryCleanupSp p readdir readable spid fs).1 = mcDrvOk ↔ _ :=
    cleanupSp_ret_iff hlists readable spid fs
  constructor
  · rintro h ⟨hzero, hnonempty, hwhole⟩
    have hpasses : SpPasses readable fs spid := ⟨hzero, hnonempty, fun h => absurd h hwhole⟩
    exact hwhole (h (hret.mpr hpasses)).whole
  · intro hnot hok
    have hpasses := hret.mp hok
    have hwhole : SpWhole readable fs spid := by
      by_contra hwhole
      exact hnot ⟨hpasses.ne_zero, hpasses.nonempty, hwhole⟩
    exact providerGone_of_cleanupSp hlists readable spid fs hwhole hok

/-- Everything that the root container lists is gone, if nothing was truncated. -/
theorem removed_root (hlists : Lists readdir) (hwhole : RootWhole readable fs)
    (hspids : ∀ spid ∈ listedSpids (rootBytes readable fs), SpWhole readable fs spid)
    (hok : (mcRegistryCleanupRoot p readdir readable fs).1 = mcDrvOk) :
    ContainerCleanup.root.Removed readable fs (mcRegistryCleanupRoot p readdir readable fs).2 := by
  have hunknown : mcDrvErrUnknown ≠ mcDrvOk := by decide
  have hfree := mcSpidFree_not_mem_listedSpids (rootBytes readable fs)
  have hslash : '/' ∉ rootFileName := by decide
  rw [cleanupRoot_of_whole hwhole] at hok ⊢
  split at hok
  · next hfail => exact absurd hok hfail
  · next hproviders =>
      rw [if_neg hproviders]
      rw [ne_eq, not_not] at hproviders
      have hgone := providersGone_of_cleanupSps hlists hfree fs hproviders hspids
      have hroot := confined_remove hslash
        (cleanupSps p readdir readable (listedSpids (rootBytes readable fs)) fs).2
      have hpath : entry rootFileName = getRootContFilePath := rfl
      rw [hpath] at hroot
      cases hremove : (cleanupSps p readdir readable (listedSpids (rootBytes readable fs))
          fs).2.remove getRootContFilePath with
      | error errno =>
          rw [hremove] at hok
          exact absurd hok hunknown
      | ok fs' =>
          rw [hremove] at hroot
          refine ⟨hwhole, ?_, fun spid hspid => (hgone spid hspid).confined hroot⟩
          show fs'.node _ = none
          rw [Tree.node_remove hremove, if_pos rfl]

theorem transitive_root_iff (hlists : Lists readdir) :
    Transitive p readdir readable fs .root ↔ ContainerCleanup.root.Parses readable fs := by
  have hret : (mcRegistryCleanupRoot p readdir readable fs).1 = mcDrvOk ↔ _ :=
    cleanupRoot_ret_iff hlists readable fs
  constructor
  · intro h
    constructor
    · by_contra hnot
      rw [not_or] at hnot
      have hpasses : RootPasses readable fs :=
        ⟨hnot.1, fun h => absurd h hnot.2, fun h => absurd h hnot.2⟩
      exact hnot.2 (h (hret.mpr hpasses)).1
    · intro _ hpasses spid hspid htruncated
      exact htruncated.2.2 ((h (hret.mpr hpasses)).2.2 spid hspid).whole
  · rintro ⟨hread, hspids⟩ hok
    have hpasses := hret.mp hok
    have hwhole := hread.resolve_left hpasses.nonempty
    have hproviders : ∀ spid ∈ listedSpids (rootBytes readable fs), SpWhole readable fs spid := by
      intro spid hspid
      have hprovider := hpasses.providers hwhole spid hspid
      by_contra hnot
      exact hspids hwhole hpasses spid hspid ⟨hprovider.ne_zero, hprovider.nonempty, hnot⟩
    have hrun : (mcRegistryCleanupRoot p readdir readable fs).1 = mcDrvOk := hok
    exact removed_root hlists hwhole hproviders hrun

end Transitive

/-! ## A container of one byte -/

/-- A registry with a container of provider 7 that has been cut off. -/
def truncatedFiles : Files :=
  emptyFiles.put (getSpContFilePath 7) (.file [0]) (by decide) fun h => absurd h (by decide)

end RegistryCleanup

end Exynos8890.MobiCore
