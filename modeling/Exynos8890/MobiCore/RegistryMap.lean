import Exynos8890.Library.MapHistory
import Exynos8890.MobiCore.ProviderCleanup

/-!
# The registry as a map

The daemon stores containers, binaries and objects of trustlets, and deletes the token or
cleans up a trustlet, a provider or the root, all in one tree of files and in any order, with
calls that fail in between.  Seen from outside, the registry is a map from the secure objects
to their bytes: the tree, the directories and the other files do not show.

Main results:

- Definition `processRegistryDeleteData`: the delete requests of the daemon.
- Definition `RegistryCall.effect`: what a request may do to the map.
- Theorem `run_step`: every request does that, and no more.
- Theorem `contents_run`: every sequence of requests is a history of the map.
- Theorem `read_stored`: a container that was stored is read back, whatever was done in
  between that does not concern it.
-/

namespace Exynos8890.MobiCore

namespace RegistryMap

open CStruct DataContainers FileSystem MapHistory RegistryCleanup RegistryContents RegistryFiles
  SecureStorage TABlob
open RegistryStore (ContainerKey FitsRead)

/-! ## Requests -/

/-- A delete request; the fields that `getData` cannot receive are missing. -/
inductive RegistryDelete where
  | authToken
  | rootCont
  | spCont (spid : Option UInt32)
  | tlCont (uuid : Option McUuid) (spid : Option UInt32)
deriving DecidableEq

/-- `mcRegistryDeleteAuthToken`. -/
def mcRegistryDeleteAuthToken (fs : Files) : McResult × Files :=
  match fs.remove (getAuthTokenFilePath (hostOf fs)) with
  | .error _ => (mcDrvErrUnknown, fs)
  | .ok fs => (mcDrvOk, fs)

/-- `processRegistryDeleteData`. -/
def processRegistryDeleteData (p : PointerWidth) (readdir : Readdir) (readable : Readable)
    (permitted : Bool) (request : RegistryDelete) (fs : Files) : McResult × Files :=
  if permitted = false then (mcDrvErrInvalidOperation, fs)
  else
    match request with
    | .authToken => mcRegistryDeleteAuthToken fs
    | .rootCont => mcRegistryCleanupRoot p readdir readable fs
    | .spCont (some spid) => mcRegistryCleanupSp p readdir readable spid fs
    | .tlCont (some uuid) (some spid) => mcRegistryCleanupTrustlet p readdir uuid spid fs
    | .spCont none | .tlCont _ _ => (mcDrvErrInvalidOperation, fs)

/-- A request to the registry: a store, or a delete with what it may read of the files. -/
inductive RegistryCall where
  | store (call : RegistryContents.StoreCall)
  | delete (readable : Readable) (permitted : Bool) (request : RegistryDelete)

/-- The result of a store, and the files. -/
def runStore (p : PointerWidth) (fs : Files) :
    RegistryContents.StoreCall → McResult × Files
  | .container key fopen written so => storeContainer key fopen written so fs
  | .taBlob calls spid blob size => mcRegistryStoreTABlob p calls spid blob size fs
  | .data calls so size =>
      ((mcRegistryStoreData calls so size fs).ret, (mcRegistryStoreData calls so size fs).files)

/-- The result of a request, and the files. -/
def RegistryCall.run (p : PointerWidth) (readdir : Readdir) (fs : Files) :
    RegistryCall → McResult × Files
  | store call => runStore p fs call
  | delete readable permitted request =>
      processRegistryDeleteData p readdir readable permitted request fs

/-! ## The map -/

/-- The secure objects: containers, and the data of trustlets. -/
abbrev SecureObject := ContainerKey ⊕ DataKey

/-- The file of an object. -/
def path : SecureObject → Text
  | .inl key => key.object.path RegistryObject.plainHost
  | .inr key => dataFile key

/-- What the files hold for an object. -/
def contents (fs : Files) (o : SecureObject) : Option (List UInt8) :=
  fs.content (path o)

/-- What a request puts, when it returns this. -/
def stored (ret : McResult) : RegistryCall → Option (SecureObject × List UInt8)
  | .store (.container key _ written so) =>
      if ret = mcDrvOk then some (.inl key, so.take (written.getD so.length)) else none
  | .store (.data calls so _) =>
      if ret = mcDrvOk then
        some (.inr (keyOf so), (load ⟨0, soSize so⟩ so).take (calls.written.getD (soSize so)))
      else none
  | _ => none

/-- The objects of a trustlet that a cleanup may take away. -/
def OfTrustletCleanup (uuid : McUuid) (spid : UInt32) : SecureObject → Prop
  | .inl (.tlCont v spid') => v = uuid ∧ spid' = spid
  | .inr (v, _) => v = uuid
  | _ => False

/-- The objects of a provider; which trustlets it has is written in its container. -/
def OfSpCleanup (spid : UInt32) : SecureObject → Prop
  | .inl (.spCont spid') | .inl (.tlCont _ spid') => spid' = spid
  | .inr _ => True
  | _ => False

/-- What a request may take away. -/
def removes : RegistryCall → SecureObject → Prop
  | .store _, _ => False
  | .delete _ permitted request, o =>
      permitted = true ∧
        match request with
        | .authToken => o = .inl .authToken
        | .rootCont => o ≠ .inl .authToken
        | .spCont spid => ∃ s ∈ spid, OfSpCleanup s o
        | .tlCont uuid spid => ∃ u ∈ uuid, ∃ s ∈ spid, OfTrustletCleanup u s o

/-- What a request that returns this may do to the map. -/
def RegistryCall.effect (call : RegistryCall) (ret : McResult) :
    Effect SecureObject (List UInt8) where
  put := stored ret call
  removes := removes call

/-! ## Stores -/

section Stores

variable {p : PointerWidth} {fs fs' : Files}

theorem path_container (fs : Files) (key : ContainerKey) :
    key.object.path (hostOf fs) = path (.inl key) := by
  cases key <;> rfl

theorem path_inj {o o' : SecureObject} (h : path o = path o') : o = o' := by
  cases o with
  | inl key =>
      cases o' with
      | inl key' => exact congrArg Sum.inl (ContainerKey.object_inj (RegistryObject.path_inj h))
      | inr key' =>
          have hobject : key.object = .dataCont key'.1 key'.2 :=
            @RegistryObject.path_inj _ RegistryObject.plainHost _ _ h
          cases key <;> cases hobject
  | inr key =>
      cases o' with
      | inl key' =>
          have hobject : RegistryObject.dataCont key.1 key.2 = key'.object :=
            @RegistryObject.path_inj RegistryObject.plainHost _ _ _ h
          cases key' <;> cases hobject
      | inr key' => exact congrArg Sum.inr (dataFile_inj h)

theorem path_ne_binary (o : SecureObject) {host : RegistryHost} {a : RegistryObject}
    (h : a.kind = .tlBin ∨ a.kind = .taBin ∨ a.kind = .taSpid) : path o ≠ a.path host := by
  intro heq
  cases o with
  | inl key =>
      have hobject : key.object = a := RegistryObject.path_inj heq
      subst hobject
      cases key <;> rcases h with h | h | h <;> cases h
  | inr key =>
      have hobject : RegistryObject.dataCont key.1 key.2 = a :=
        @RegistryObject.path_inj RegistryObject.plainHost _ _ _ heq
      subst hobject
      rcases h with h | h | h <;> cases h

theorem contents_of_node {o : SecureObject} (h : fs'.node (path o) = fs.node (path o)) :
    contents fs' o = contents fs o :=
  Tree.content_congr h

theorem contents_writeFile {failure : Option Errno} {written : Option Nat} {q : Text}
    {bytes : List UInt8} (h : writeFile failure written q bytes fs = .ok fs') (o : SecureObject) :
    contents fs' o =
      if path o = q then some (bytes.take (written.getD bytes.length)) else contents fs o := by
  have hnode := node_writeFile h (path o)
  split
  · next hpath =>
      rw [if_pos hpath] at hnode
      exact Tree.content_eq_some_iff.mpr hnode
  · next hpath =>
      rw [if_neg hpath] at hnode
      exact contents_of_node hnode

theorem store_container (key : ContainerKey) (fopen : Option Errno) (written : Option Nat)
    (so : List UInt8) (o : SecureObject) :
    ((RegistryCall.store (.container key fopen written so)).effect
      (storeContainer key fopen written so fs).1).Outcome o (contents fs o)
        (contents (storeContainer key fopen written so fs).2 o) := by
  have hrefused : ∀ ret, ret ≠ mcDrvOk →
      ((RegistryCall.store (.container key fopen written so)).effect ret).Outcome o
        (contents fs o) (contents fs o) := by
    intro ret hret
    refine .kept ?_
    rintro ⟨v, hput⟩
    simp [RegistryCall.effect, stored, hret] at hput
  unfold storeContainer
  split
  · exact hrefused _ (by decide : mcDrvErrInvalidParameter ≠ mcDrvOk)
  · cases hwrite : writeFile fopen written (key.object.path (hostOf fs)) so fs with
    | error errno => exact hrefused _ (by decide : mcDrvErrInvalidDeviceFile ≠ mcDrvOk)
    | ok fs' =>
        have hcontents := contents_writeFile hwrite o
        rw [path_container] at hcontents
        split at hcontents
        · next hpath =>
            obtain rfl := path_inj hpath
            rw [hcontents]
            exact .put rfl
        · next hpath =>
            rw [hcontents]
            refine .kept ?_
            rintro ⟨v, hput⟩
            have hkey : Sum.inl key = o := congrArg Prod.fst (Option.some.inj hput)
            exact hpath (congrArg path hkey.symm)

theorem store_taBlob (calls : BlobCalls) (spid : UInt32) (blob : Memory) (size : UInt32)
    (o : SecureObject) :
    contents (mcRegistryStoreTABlob p calls spid blob size fs).2 o = contents fs o := by
  have hbin : ∀ {fs fs' : Files} {failure written bytes} {a : RegistryObject},
      (a.kind = .tlBin ∨ a.kind = .taBin ∨ a.kind = .taSpid) →
        writeFile failure written (a.path (hostOf fs)) bytes fs = .ok fs' →
          contents fs' o = contents fs o := by
    intro fs fs' failure written bytes a ha hwrite
    rw [contents_writeFile hwrite, if_neg (path_ne_binary o ha)]
  cases hret : (checkTABlob p spid blob size).ret with
  | error ret =>
      have hrun : mcRegistryStoreTABlob p calls spid blob size fs = (ret, fs) := by
        unfold mcRegistryStoreTABlob
        rw [hret]
      rw [hrun]
  | ok uuid =>
      have houtcome : StoreOutcome p calls spid blob size uuid fs
        (mcRegistryStoreTABlob p calls spid blob size fs) := storeOutcome hret
      generalize mcRegistryStoreTABlob p calls spid blob size fs = run at houtcome
      cases houtcome with
      | noBin => rfl
      | system hservice opened hwrite | noSpid hservice opened hwrite =>
          exact hbin (Or.inr (Or.inl rfl)) hwrite
      | provider hservice opened stored hwrite hspid =>
          exact (hbin (Or.inr (Or.inr rfl)) hspid).trans (hbin (Or.inr (Or.inl rfl)) hwrite)

theorem store_data (calls : DataCalls) (so : Memory) (size : UInt32) (o : SecureObject) :
    ((RegistryCall.store (.data calls so size)).effect
      (mcRegistryStoreData calls so size fs).ret).Outcome o (contents fs o)
        (contents (mcRegistryStoreData calls so size fs).files o) := by
  have hdir : path o ≠ dataDir (keyOf so) := by
    intro heq
    cases o with
    | inl key => exact getTlDataPath_ne_path _ _ _ heq.symm
    | inr key =>
        exact getTlDataPath_ne_path (contUuid so).val RegistryObject.plainHost
          (.dataCont key.1 key.2) heq.symm
  have hnone : ∀ ret, ret ≠ mcDrvOk →
      ¬ ((RegistryCall.store (.data calls so size)).effect ret).Puts o := by
    rintro ret hret ⟨v, hput⟩
    simp [RegistryCall.effect, stored, hret] at hput
  have hends : StoreEnds calls so size fs (mcRegistryStoreData calls so size fs) := storeEnds
  generalize mcRegistryStoreData calls so size fs = run at hends
  cases hends with
  | refused hnot ret hret => exact .kept (hnone ret hret)
  | notOpened h made hmade hclosed =>
      have hnode := hmade (path o)
      rw [if_neg hdir] at hnode
      rw [contents_of_node hnode]
      exact .kept (hnone _ (by decide : mcDrvErrInvalidDeviceFile ≠ mcDrvOk))
  | stored h hfopen files hfiles =>
      have hnode := hfiles (path o)
      rw [if_neg hdir] at hnode
      split at hnode
      · next hfile =>
          obtain rfl : o = .inr (keyOf so) := path_inj hfile
          have hcontent : contents files (.inr (keyOf so)) = _ :=
            Tree.content_eq_some_iff.mpr hnode
          rw [hcontent]
          exact .put rfl
      · next hfile =>
          rw [contents_of_node hnode]
          refine .kept ?_
          rintro ⟨v, hput⟩
          have hkey : Sum.inr (keyOf so) = o := congrArg Prod.fst (Option.some.inj hput)
          exact hfile (congrArg path hkey.symm)

end Stores

/-! ## Deletes -/

/-- The entry of the registry in which the file of an object lies. -/
def entryName : SecureObject → Text
  | .inl .authToken => authTokenFileName
  | .inl .rootCont => rootFileName
  | .inl (.spCont spid) => spContName spid
  | .inl (.tlCont uuid spid) => tlContName uuid spid
  | .inr (uuid, _) => tlDataName uuid

section Deletes

variable {p : PointerWidth} {readdir : Readdir} {readable : Readable} {fs fs' : Files}
  {uuid : McUuid} {spid : UInt32} {uuids : List McUuid} {names : Text → Prop} {o : SecureObject}

theorem below_entryName (o : SecureObject) : Below (entry (entryName o)) (path o) := by
  cases o with
  | inl key => cases key <;> exact below_self _
  | inr key =>
      right
      exact ⟨uint32ToString key.2 ++ dataContFileExt, rfl⟩

theorem slash_not_mem_entryName (o : SecureObject) : '/' ∉ entryName o := by
  rcases o with (_ | _ | spid | ⟨uuid, spid⟩) | ⟨uuid, pid⟩
  · exact (by decide : '/' ∉ authTokenFileName)
  · exact (by decide : '/' ∉ rootFileName)
  · exact slash_not_mem_spContName spid
  · exact slash_not_mem_tlContName uuid spid
  · exact slash_not_mem_tlDataName uuid

theorem contents_eq_none (h : fs.node (path o) = none) : contents fs o = none := by
  rw [contents, Tree.content, h]

/-- What a cleanup does to an object, from the entries it is confined to. -/
theorem contents_of_confined (h : Confined names fs fs') (o : SecureObject) :
    contents fs' o = contents fs o ∨ names (entryName o) ∧ contents fs' o = none := by
  by_cases hname : names (entryName o)
  · rcases h.removes (path o) with hsame | ⟨-, hnone⟩
    · exact Or.inl (contents_of_node hsame)
    · exact Or.inr ⟨hname, contents_eq_none hnone⟩
  · left
    exact contents_of_node
      (h.spares (entryName o) (slash_not_mem_entryName o) hname _ (below_entryName o))

theorem not_ofProvider_authToken : ¬ OfProvider spid uuids authTokenFileName := by
  have hname : authTokenFileName = "00000000".toList ++ '.' :: "authtokcont".toList := rfl
  have hdot : '.' ∉ "authtokcont".toList := by decide
  have happlication : ¬ OfApplication authTokenFileName := by
    rw [hname]
    exact not_ofApplication_of_ext hdot (by decide) (by decide) (by decide)
  rintro (⟨uuid, _, h | h | h⟩ | h | h | h)
  · exact dot_not_mem_tlDataName uuid (h ▸ by decide)
  · rw [hname, tlContName_eq] at h
    exact absurd (HexText.append_sep_inj hdot (by decide) h).2 (by decide)
  · exact happlication h
  · exact dot_not_mem_spDataName spid (h ▸ by decide)
  · have hext := HexText.append_sep_inj hdot (by decide : '.' ∉ "spcont".toList) (hname ▸ h)
    exact absurd hext.2 (by decide)
  · exact happlication h

theorem ofProvider_of_ofTrustlet {name : Text} (h : OfTrustlet uuid spid name) :
    OfProvider spid [uuid] name :=
  Or.inl ⟨uuid, List.mem_cons_self, h⟩

theorem ofTrustletCleanup_of_name (h : OfTrustlet uuid spid (entryName o)) :
    OfTrustletCleanup uuid spid o := by
  rcases o with (_ | _ | spid' | ⟨v, spid'⟩) | ⟨v, pid⟩
  · exact not_ofProvider_authToken (ofProvider_of_ofTrustlet h)
  · exact not_ofProvider_root (ofProvider_of_ofTrustlet h)
  · exact not_ofTrustlet_spCont h
  · exact eq_of_ofTrustlet_cont h
  · exact eq_of_ofTrustlet_data h

theorem ofSpCleanup_of_name (h : OfProvider spid uuids (entryName o)) : OfSpCleanup spid o := by
  rcases o with (_ | _ | spid' | ⟨v, spid'⟩) | ⟨v, pid⟩
  · exact not_ofProvider_authToken h
  · exact not_ofProvider_root h
  · exact eq_of_ofProvider_spCont h
  · exact eq_of_ofProvider_tlCont h
  · trivial

/-- The entries of providers, and the root container. -/
def OfRoot (name : Text) : Prop :=
  (∃ spid uuids, OfProvider spid uuids name) ∨ name = rootFileName

theorem confined_cleanupRoot (p : PointerWidth) (hlists : Lists readdir) (readable : Readable)
    (fs : Files) : Confined OfRoot fs (mcRegistryCleanupRoot p readdir readable fs).2 := by
  by_cases hwhole : RootWhole readable fs
  · have hfree := mcSpidFree_not_mem_listedSpids (rootBytes readable fs)
    have hsps : Confined OfRoot fs
        (cleanupSps p readdir readable (listedSpids (rootBytes readable fs)) fs).2 :=
      (confined_cleanupSps hlists hfree fs).mono fun _ hname => Or.inl hname
    have hroot : Confined OfRoot
        (cleanupSps p readdir readable (listedSpids (rootBytes readable fs)) fs).2
        (after (cleanupSps p readdir readable (listedSpids (rootBytes readable fs)) fs).2
          ((cleanupSps p readdir readable (listedSpids (rootBytes readable fs)) fs).2.remove
            getRootContFilePath)) :=
      (confined_remove (by decide : '/' ∉ rootFileName) _).mono fun _ hname => Or.inr hname
    rw [cleanupRoot_of_whole hwhole]
    split
    · exact hsps
    · revert hroot
      cases (cleanupSps p readdir readable (listedSpids (rootBytes readable fs)) fs).2.remove
          getRootContFilePath with
      | error errno => exact fun _ => hsps
      | ok fs' => exact fun hroot => hsps.trans hroot
  · rw [cleanupRoot_of_not_whole hwhole]
    exact confined_refl _ fs

theorem delete_authToken (fs : Files) (o : SecureObject) :
    contents (mcRegistryDeleteAuthToken fs).2 o = contents fs o ∨
      o = .inl .authToken ∧ contents (mcRegistryDeleteAuthToken fs).2 o = none := by
  have hpath : getAuthTokenFilePath (hostOf fs) = path (.inl .authToken) := rfl
  unfold mcRegistryDeleteAuthToken
  rw [hpath]
  cases hremove : fs.remove (path (.inl .authToken)) with
  | error errno => exact Or.inl rfl
  | ok fs' =>
      have hnode := Tree.node_remove hremove (path o)
      split at hnode
      · next ho => exact Or.inr ⟨path_inj ho, contents_eq_none hnode⟩
      · exact Or.inl (contents_of_node hnode)

/-- A delete request takes away objects of its own scope. -/
theorem delete_removes (hlists : Lists readdir) (readable : Readable) (permitted : Bool)
    (request : RegistryDelete) (fs : Files) (o : SecureObject) :
    contents (processRegistryDeleteData p readdir readable permitted request fs).2 o =
        contents fs o ∨
      removes (.delete readable permitted request) o ∧
        contents (processRegistryDeleteData p readdir readable permitted request fs).2 o =
          none := by
  cases permitted with
  | false => exact Or.inl rfl
  | true =>
      cases request with
      | authToken =>
          exact (delete_authToken fs o).imp id fun h => ⟨⟨rfl, h.1⟩, h.2⟩
      | rootCont =>
          refine (contents_of_confined (confined_cleanupRoot p hlists readable fs) o).imp id ?_
          rintro ⟨hname, hnone⟩
          refine ⟨⟨rfl, ?_⟩, hnone⟩
          rintro rfl
          rcases hname with ⟨spid, uuids, hname⟩ | hname
          · exact not_ofProvider_authToken hname
          · exact absurd hname (by decide)
      | spCont spid =>
          cases spid with
          | none => exact Or.inl rfl
          | some spid =>
              refine (contents_of_confined (confined_cleanupSp hlists readable spid fs) o).imp id ?_
              rintro ⟨hname, hnone⟩
              exact ⟨⟨rfl, spid, rfl, ofSpCleanup_of_name hname⟩, hnone⟩
      | tlCont uuid spid =>
          cases uuid with
          | none => exact Or.inl rfl
          | some uuid =>
              cases spid with
              | none => exact Or.inl rfl
              | some spid =>
                  refine (contents_of_confined (confined_cleanupTrustlet p uuid spid hlists fs)
                    o).imp id ?_
                  rintro ⟨hname, hnone⟩
                  exact ⟨⟨rfl, uuid, rfl, spid, rfl, ofTrustletCleanup_of_name hname⟩, hnone⟩

end Deletes

/-! ## Runs -/

section Runs

variable {p : PointerWidth} {readdir : Readdir} {fs : Files}

theorem run_step (p : PointerWidth) (hlists : Lists readdir) (fs : Files) (call : RegistryCall) :
    (call.effect (call.run p readdir fs).1).Step (contents fs)
      (contents (call.run p readdir fs).2) := by
  intro o
  cases call with
  | store call =>
      cases call with
      | container key fopen written so => exact store_container key fopen written so o
      | data calls so size => exact store_data calls so size o
      | taBlob calls spid blob size =>
          have hsame := @store_taBlob p fs calls spid blob size o
          rw [show (RegistryCall.run p readdir fs (.store (.taBlob calls spid blob size))).2 =
            (mcRegistryStoreTABlob p calls spid blob size fs).2 from rfl, hsame]
          refine .kept ?_
          rintro ⟨v, hput⟩
          cases hput
  | delete readable permitted request =>
      have hput : ∀ ret,
          ¬ ((RegistryCall.delete readable permitted request).effect ret).Puts o := by
        rintro ret ⟨v, hput⟩
        cases hput
      have hrun : (RegistryCall.delete readable permitted request).run p readdir fs =
          processRegistryDeleteData p readdir readable permitted request fs := rfl
      rw [hrun]
      rcases delete_removes hlists readable permitted request fs o with hsame | ⟨hscope, hnone⟩
      · rw [hsame]
        exact .kept (hput _)
      · rw [hnone]
        exact .removed (hput _) hscope

/-- The files after a sequence of requests. -/
def runAll (p : PointerWidth) (readdir : Readdir) (calls : List RegistryCall) (fs : Files) :
    Files :=
  calls.foldl (fun fs call => (call.run p readdir fs).2) fs

/-- The effects of a sequence of requests, with the results that they return. -/
def effects (p : PointerWidth) (readdir : Readdir) :
    List RegistryCall → Files → List (Effect SecureObject (List UInt8))
  | [], _ => []
  | call :: calls, fs =>
      call.effect (call.run p readdir fs).1 :: effects p readdir calls (call.run p readdir fs).2

theorem contents_run (p : PointerWidth) (hlists : Lists readdir) (calls : List RegistryCall)
    (fs : Files) :
    Run (effects p readdir calls fs) (contents fs) (contents (runAll p readdir calls fs)) := by
  induction calls generalizing fs with
  | nil => exact .nil
  | cons call calls ih => exact .cons (run_step p hlists fs call) (ih _)

end Runs

/-! ## Reading -/

/-- The files as the read requests find them, without read errors. -/
def filesOf (fs : Files) : RegistryStore.RegistryFiles :=
  fun q => registryFile (fun q => ((fs.content q).getD []).length) fs q

section Reads

variable {p : PointerWidth} {readdir : Readdir} {fs : Files} {key : ContainerKey}

theorem filesOf_of_contents {so : List UInt8} (h : contents fs (.inl key) = some so) :
    filesOf fs (key.object.path (hostOf fs)) = some ⟨so, so.length⟩ := by
  have hcontent : fs.content (path (.inl key)) = some so := h
  rw [path_container]
  simp only [filesOf, registryFile, Tree.content_eq_some_iff.mp hcontent, hcontent,
    Option.getD_some]

theorem contents_of_filesOf {file : RegistryFile}
    (h : filesOf fs (key.object.path (hostOf fs)) = some file) (hfile : file.content ≠ []) :
    contents fs (.inl key) = some file.content := by
  rw [path_container] at h
  apply Tree.content_eq_some_iff.mpr
  simp only [filesOf, registryFile] at h
  split at h
  · cases h
  · cases h
    exact absurd rfl hfile
  · next content hnode =>
      cases h
      exact hnode

/-- A registry function returns the beginning of a file, or an error that the daemon answers with
a payload. -/
structure Answers (file : Option RegistryFile) (result : RegistryResult) : Prop where
  answered : result.ret ≠ mcDrvErrInvalidOperation
  sized : 0 < result.size
  found : result.ret = mcDrvOk → ∃ f, file = some f ∧ result.written <+: f.content ∧
    result.written ≠ [] ∧ result.size = result.written.length

theorem answers_error {file : Option RegistryFile} {ret : McResult} {written : List UInt8}
    {size : Nat} (hret : ret ≠ mcDrvErrInvalidOperation ∧ ret ≠ mcDrvOk) (hsize : 0 < size) :
    Answers file ⟨ret, written, size⟩ :=
  ⟨hret.1, hsize, fun hok => absurd hok hret.2⟩

/-- What `fread` returns is the beginning of the file. -/
theorem answers_fread {file : RegistryFile} {size : Nat} (h : file.fread size ≠ []) :
    Answers (some file) ⟨mcDrvOk, file.fread size, (file.fread size).length⟩ where
  answered := (by decide : mcDrvOk ≠ mcDrvErrInvalidOperation)
  sized := List.length_pos_iff.mpr h
  found _ := ⟨file, rfl, (List.take_prefix _ _).trans (List.take_prefix _ _), h, rfl⟩

theorem readContainer_answers (file : Option RegistryFile) {size : Nat} (hsize : 0 < size) :
    Answers file (readContainer file size) := by
  rw [readContainer_eq]
  split
  · exact answers_error (by decide) hsize
  · next hbytes =>
      cases file with
      | none => exact absurd rfl hbytes
      | some f => exact answers_fread hbytes

theorem readAuthToken_answers (p : PointerWidth) (r : Registry) :
    Answers r.authToken (mcRegistryReadAuthToken p r) := by
  have hsize : 0 < mcSoAuthTokenContSize := by decide
  unfold mcRegistryReadAuthToken
  cases r.authToken with
  | none => exact answers_error (by decide) hsize
  | some file =>
      dsimp only
      split
      · exact answers_error (by decide) hsize
      · split
        · exact answers_error (by decide) hsize
        · next hlength =>
            rw [ne_eq, not_not] at hlength
            have hfread := @answers_fread file mcSoAuthTokenContSize
              (List.ne_nil_of_length_pos (hlength.symm ▸ hsize))
            rwa [hlength] at hfread

theorem readRequest_answers (p : PointerWidth) (host : RegistryHost) (key : ContainerKey)
    (files : RegistryStore.RegistryFiles) :
    Answers (files (key.object.path host))
      (readRequest p (RegistryStore.registry host files) key.request) := by
  have hsize : 0 < maxDataSize := by decide
  cases key with
  | authToken => exact readAuthToken_answers p (RegistryStore.registry host files)
  | rootCont => exact readContainer_answers (files getRootContFilePath) hsize
  | tlCont uuid spid => exact readContainer_answers (files (getTlContFilePath uuid.val spid)) hsize
  | spCont spid =>
      show Answers (files (getSpContFilePath spid))
        (mcRegistryReadSp (RegistryStore.registry host files) spid maxDataSize)
      unfold mcRegistryReadSp
      split
      · exact answers_error (by decide) hsize
      · exact readContainer_answers (files (getSpContFilePath spid)) hsize

/-- What a read that succeeds returns is the beginning of what the map holds. -/
theorem prefix_of_read {rlen : Nat} {stale : Memory} {result : RegistryResult}
    (h : RegistryStore.read p (hostOf fs) key rlen stale (filesOf fs) = result)
    (hok : result.ret = mcDrvOk) :
    ∃ so, contents fs (.inl key) = some so ∧ result.written <+: so ∧
      result.size = result.written.length := by
  have hlen : 0 < rlen := by
    refine Nat.pos_of_ne_zero fun hzero => ?_
    rw [RegistryStore.read, if_pos hzero] at h
    rw [← h] at hok
    exact absurd hok (by decide : mcDrvErrDaemonSocket ≠ mcDrvOk)
  obtain ⟨hret, hsize, hfound⟩ := readRequest_answers p (hostOf fs) key (filesOf fs)
  rw [RegistryStore.read_of_result p (hostOf fs) key hlen stale rfl hret hsize] at h
  subst h
  obtain ⟨f, hfile, hprefix, hnonempty, hlength⟩ := hfound hok
  have hcontent : f.content ≠ [] := by
    rintro hnil
    rw [hnil, List.prefix_nil] at hprefix
    exact hnonempty hprefix
  refine ⟨f.content, contents_of_filesOf hfile hcontent, ?_, ?_⟩
  · rw [hlength, load_store_self (r := ⟨0, _⟩) rfl]
    exact (List.take_prefix _ _).trans hprefix
  · dsimp only
    rw [List.length_take, length_load]

/-- Whatever was done to the registry, a read that succeeds returns the beginning of what was
stored last under its own key, or of what was there when nothing has been stored. -/
theorem read_lastStored (hlists : Lists readdir) (calls : List RegistryCall) (fs : Files)
    (key : ContainerKey) (rlen : Nat) (stale : Memory)
    (hok : (RegistryStore.read p (hostOf (runAll p readdir calls fs)) key rlen stale
      (filesOf (runAll p readdir calls fs))).ret = mcDrvOk) :
    ∃ so, (LastPut (.inl key) (effects p readdir calls fs) so ∨
        (∀ e ∈ effects p readdir calls fs, ¬ e.Puts (.inl key)) ∧
          contents fs (.inl key) = some so) ∧
      (RegistryStore.read p (hostOf (runAll p readdir calls fs)) key rlen stale
        (filesOf (runAll p readdir calls fs))).written <+: so := by
  obtain ⟨so, hcontents, hprefix, -⟩ := prefix_of_read rfl hok
  refine ⟨so, ?_, hprefix⟩
  rcases (contents_run p hlists calls fs).value (.inl key) with
    ⟨v, hlast, hv⟩ | ⟨hnot, hsame⟩ | hnone
  · rw [hcontents, Option.some_inj] at hv
    exact Or.inl (hv ▸ hlast)
  · exact Or.inr ⟨hnot, hsame ▸ hcontents⟩
  · rw [hcontents] at hnone
    cases hnone

/-- A root container, and the container of a provider. -/
def storeRootAndSp : List RegistryCall :=
  [.store (.container .rootCont none none [1, 2, 3]),
    .store (.container (.spCont 7) none (some 1) [4, 5])]

theorem read_lastStored_rootAndSp :
    ∃ so, (LastPut (.inl .rootCont) (effects .bits64 entries storeRootAndSp emptyFiles) so ∨
        (∀ e ∈ effects .bits64 entries storeRootAndSp emptyFiles, ¬ e.Puts (.inl .rootCont)) ∧
          contents emptyFiles (.inl .rootCont) = some so) ∧
      (RegistryStore.read .bits64 (hostOf (runAll .bits64 entries storeRootAndSp emptyFiles))
        .rootCont 2 (fun _ => 0)
        (filesOf (runAll .bits64 entries storeRootAndSp emptyFiles))).written <+: so :=
  read_lastStored lists_entries storeRootAndSp emptyFiles .rootCont 2 (fun _ => 0) (by decide)

/-- A container that was stored whole, and that can be read at all, is read back as long as no
request concerns it: whatever else is stored, deleted and cleaned up, and whatever fails. -/
theorem read_stored (hlists : Lists readdir) {fopen : Option Errno} {written : Option Nat}
    {so : List UInt8} {fs : Files} (hok : (storeContainer key fopen written so fs).1 = mcDrvOk)
    (hwhole : so.length ≤ written.getD so.length) (hfits : FitsRead key so.length)
    {later : List RegistryCall}
    (hspares : ∀ e ∈ effects p readdir later (storeContainer key fopen written so fs).2,
      e.Spares (.inl key)) {rlen : Nat} (hrlen : so.length ≤ rlen) (stale : Memory) :
    let fs' := runAll p readdir later (storeContainer key fopen written so fs).2
    RegistryStore.read p (hostOf fs') key rlen stale (filesOf fs') = ⟨mcDrvOk, so, so.length⟩ := by
  intro fs'
  have hkey : key ≠ .spCont 0 := by
    rintro rfl
    rw [storeContainer, if_pos (Or.inl rfl)] at hok
    exact absurd hok (by decide : mcDrvErrInvalidParameter ≠ mcDrvOk)
  have hrun := contents_run p hlists (.store (.container key fopen written so) :: later) fs
  have hput : ((RegistryCall.store (.container key fopen written so)).effect
      (storeContainer key fopen written so fs).1).put = some (.inl key, so) := by
    show (if _ = mcDrvOk then _ else _) = _
    rw [if_pos hok, List.take_of_length_le hwhole]
  have hcontents : contents fs' (.inl key) = some so := hrun.of_put hput hspares
  exact RegistryStore.read_of_file p (hostOf fs') (filesOf_of_contents hcontents) hkey hfits hrlen
    stale

/-- A store of another container does not concern this one. -/
theorem spares_container {key' : ContainerKey} (hne : key' ≠ key) (fopen : Option Errno)
    (written : Option Nat) (so : List UInt8) (ret : McResult) :
    ((RegistryCall.store (.container key' fopen written so)).effect ret).Spares (.inl key) := by
  refine ⟨?_, fun h => h⟩
  rintro ⟨v, hput⟩
  by_cases hret : ret = mcDrvOk
  · simp only [RegistryCall.effect, stored, if_pos hret, Option.some.injEq, Prod.mk.injEq,
      Sum.inl.injEq] at hput
    exact hne hput.1
  · simp [RegistryCall.effect, stored, hret] at hput

theorem spares_delete {readable : Readable} {permitted : Bool} {request : RegistryDelete}
    {o : SecureObject} (h : ¬ removes (.delete readable permitted request) o) (ret : McResult) :
    ((RegistryCall.delete readable permitted request).effect ret).Spares o := by
  refine ⟨?_, h⟩
  rintro ⟨v, hput⟩
  cases hput

/-- The token is deleted, and a provider stored and cleaned up. -/
def otherRequests : List RegistryCall :=
  [.delete (fun _ => 0) true .authToken, .store (.container (.spCont 7) none none [4, 5]),
    .delete (fun _ => 4096) true (.spCont (some 7))]

theorem otherRequests_spare (fs : Files) :
    ∀ e ∈ effects .bits64 entries otherRequests fs, e.Spares (.inl .rootCont) := by
  simp only [otherRequests, effects, List.forall_mem_cons]
  refine ⟨?_, ?_, ?_, fun e he => absurd he List.not_mem_nil⟩
  · apply spares_delete
    rintro ⟨-, h⟩
    cases h
  · exact spares_container (by decide) _ _ _ _
  · apply spares_delete
    rintro ⟨-, s, -, h⟩
    exact h

theorem read_stored_rootCont :
    let fs := runAll .bits64 entries otherRequests
      (storeContainer .rootCont none none [1, 2, 3] emptyFiles).2
    RegistryStore.read .bits64 (hostOf fs) .rootCont 16 (fun _ => 0xee) (filesOf fs) =
      ⟨mcDrvOk, [1, 2, 3], 3⟩ :=
  @read_stored .bits64 entries .rootCont lists_entries none none [1, 2, 3] emptyFiles (by decide)
    (by decide) (by decide : 0 < 3 ∧ 3 ≤ maxDataSize) otherRequests (otherRequests_spare _) 16
    (by decide) fun _ => 0xee

end Reads

end RegistryMap

end Exynos8890.MobiCore
