import Exynos8890.MobiCore.ClientLib.BulkBuffers
import Exynos8890.MobiCore.DriverDaemon.BufferTables

/-!
# The buffer lists of both sides

The handles that the client library lists for a session beside those in the daemon's
table of that session: when the two agree, and the changes that keep all sessions of the
client in step with the daemon.

Main results:

- Definitions `HandlesAgree` and `InStep`.
- Theorems `InStep.change`, `InStep.update` and `InStep.delete`: a session is added,
  changed or closed.
-/

namespace Exynos8890.MobiCore

namespace ClientLib

/-! ## The two lists of a session -/

/-- The buffer with this handle is the TCI, which the daemon lists without an address. -/
def HoldsTci (buffers : BulkBuffers) (handle : UInt32) : Prop :=
  ∃ pWsm ∈ buffers.items, pWsm.handle = handle ∧ pWsm.physAddr = 0

instance (buffers : BulkBuffers) (handle : UInt32) : Decidable (HoldsTci buffers handle) :=
  inferInstanceAs (Decidable (∃ pWsm ∈ buffers.items, _))

/-- Both sides list the same handles, the TCI apart. -/
def HandlesAgree (session : Session) (buffers : BulkBuffers) : Prop :=
  ∀ handle, ¬ HoldsTci buffers handle →
    (handle ∈ session.handles ↔ buffers.contains handle.toNat = true)

theorem mem_handles_pushBulkBuf {blkBuf : BulkBufferDescriptor} {session : Session}
    {handle : UInt32} :
    handle ∈ (session.pushBulkBuf blkBuf).handles ↔
      handle ∈ session.handles ∨ handle = blkBuf.handle := by
  simp [Session.handles, Session.pushBulkBuf]

theorem HandlesAgree.add {session t : Session} {buffers : BulkBuffers}
    (h : HandlesAgree session buffers) (pWsm : CWsm)
    (ht : ∀ handle, handle ∈ t.handles ↔ handle ∈ session.handles ∨ handle = pWsm.handle) :
    HandlesAgree t (buffers.emplace pWsm).1 := by
  intro handle htci
  have hold : ¬ HoldsTci buffers handle := by
    rintro ⟨listed, hlisted, hhandle⟩
    apply htci
    refine ⟨listed, ?_, hhandle⟩
    cases hcontains : buffers.contains pWsm.key with
    | true =>
        rw [OrderedTable.emplace_of_contains hcontains]
        exact hlisted
    | false =>
        rw [OrderedTable.items_emplace_of_not_contains hcontains, OrderedTable.mem_insertItem]
        exact Or.inr hlisted
  rw [ht, h handle hold, OrderedTable.contains_emplace, Bool.or_eq_true, decide_eq_true_eq,
    CWsm.key, UInt32.toNat_inj]
  constructor
  · rintro (hlisted | hnew)
    · exact Or.inr hlisted
    · exact Or.inl hnew.symm
  · rintro (hnew | hlisted)
    · exact Or.inr hnew.symm
    · exact Or.inl hlisted

theorem HandlesAgree.remove {session t : Session} {buffers : BulkBuffers}
    (h : HandlesAgree session buffers) (removed : UInt32)
    (ht : ∀ handle, handle ∈ t.handles ↔ handle ∈ session.handles ∧ handle ≠ removed) :
    HandlesAgree t (buffers.erase removed.toNat) := by
  intro handle htci
  rw [ht, OrderedTable.contains_erase, Bool.and_eq_true, decide_eq_true_eq, ne_eq, ne_eq,
    UInt32.toNat_inj]
  by_cases heq : handle = removed
  · simp [heq]
  · have hold : ¬ HoldsTci buffers handle := by
      rintro ⟨listed, hlisted, hhandle, haddr⟩
      apply htci
      refine ⟨listed, ?_, hhandle, haddr⟩
      have hkeep : listed.key ≠ removed.toNat := by
        rw [CWsm.key, ne_eq, UInt32.toNat_inj, hhandle]
        exact heq
      simpa [OrderedTable.erase, hlisted] using hkeep
    rw [h handle hold]
    exact and_comm

theorem handlesAgree_newSession {session : Session} {frame : OpenFrame} {sessionId : UInt32}
    {addr : UInt64} {magic : UInt32} {d : Daemon}
    (htci : ∀ handle ∈ session.handles, handle = frame.tciHandle ∧ frame.usesTci) :
    HandlesAgree session (d.newSession frame sessionId addr magic).buffers := by
  intro handle hholds
  unfold Daemon.newSession at hholds ⊢
  by_cases huses : frame.usesTci
  · simp only [huses, if_true] at hholds ⊢
    have hother : handle ≠ frame.tciHandle := by
      intro heq
      exact hholds ⟨_, List.mem_singleton_self _, heq.symm, rfl⟩
    constructor
    · intro hmem
      exact absurd (htci handle hmem).1 hother
    · intro hcontains
      obtain ⟨pWsm, hpWsm, hkey⟩ := (OrderedTable.contains_iff _ _).mp hcontains
      have hlisted := List.mem_singleton.mp hpWsm
      rw [hlisted, CWsm.key, UInt32.toNat_inj] at hkey
      exact absurd hkey.symm hother
  · simp only [huses, if_false]
    constructor
    · intro hmem
      exact absurd (htci handle hmem).2 huses
    · intro hcontains
      cases hcontains

/-! ## The lists of both sides -/

/-- What holds of the sessions of the client, of the handles that it has registered, and of
the daemon. -/
structure InStep (sessions : List Session) (registrations : List UInt32) (d : Daemon) : Prop where
  tables : d.TablesOk
  ids : (sessions.map Session.sessionId).Nodup
  handles : ∀ s ∈ sessions, s.handles.Nodup
  registered : ∀ s ∈ sessions, ∀ handle ∈ s.handles, handle ∈ registrations
  apart : ∀ s ∈ sessions, ∀ s' ∈ sessions, ∀ handle ∈ s.handles, handle ∈ s'.handles →
    s.sessionId = s'.sessionId
  agree : ∀ s ∈ sessions, ∃ buffers, d.buffersOf s.sessionId = some buffers ∧
    HandlesAgree s buffers

namespace InStep

variable {sessions sessions' : List Session} {registrations registrations' : List UInt32}
  {d t : Daemon}

/-- The daemon keeps its tables, and the client registers more. -/
theorem congr (h : InStep sessions registrations d) (htables : t.TablesOk)
    (hbuffers : ∀ s ∈ sessions, t.buffersOf s.sessionId = d.buffersOf s.sessionId)
    (hregistered : ∀ handle ∈ registrations, handle ∈ registrations') :
    InStep sessions registrations' t where
  tables := htables
  ids := h.ids
  handles := h.handles
  registered := fun s hs handle hhandle => hregistered handle (h.registered s hs handle hhandle)
  apart := h.apart
  agree := by
    intro s hs
    rw [hbuffers s hs]
    exact h.agree s hs

theorem sameTables (h : InStep sessions registrations d)
    (htables : t.trustletSessions.map Daemon.sessionTable =
      d.trustletSessions.map Daemon.sessionTable) (hnext : t.nextRef = d.nextRef) :
    InStep sessions registrations t := by
  apply h.congr
  · exact h.tables.congr htables hnext
  · exact fun s _ => Daemon.buffersOf_congr htables s.sessionId
  · exact fun _ hhandle => hhandle

theorem change (h : InStep sessions registrations d) (new : Session)
    (hids : (sessions'.map Session.sessionId).Nodup)
    (hmem : ∀ s ∈ sessions', s = new ∨ (s ∈ sessions ∧ s.sessionId ≠ new.sessionId))
    (hnodup : new.handles.Nodup)
    (hnew : ∀ handle ∈ new.handles, handle ∈ registrations' ∧ (handle ∉ registrations ∨
      ∃ s ∈ sessions, s.sessionId = new.sessionId ∧ handle ∈ s.handles))
    (hkept : ∀ s ∈ sessions, s.sessionId ≠ new.sessionId → ∀ handle ∈ s.handles,
      handle ∈ registrations')
    (htables : t.TablesOk)
    (hothers : ∀ id, id ≠ new.sessionId → t.buffersOf id = d.buffersOf id)
    (hagree : ∃ buffers, t.buffersOf new.sessionId = some buffers ∧ HandlesAgree new buffers) :
    InStep sessions' registrations' t := by
  have hold : ∀ s ∈ sessions, ∀ handle ∈ s.handles, handle ∈ new.handles →
      s.sessionId = new.sessionId := by
    intro s hs handle hhandle hmemNew
    rcases (hnew handle hmemNew).2 with hfresh | ⟨before, hbefore, hid, hlisted⟩
    · exact absurd (h.registered s hs handle hhandle) hfresh
    · rw [← hid]
      exact h.apart s hs before hbefore handle hhandle hlisted
  constructor
  · exact htables
  · exact hids
  · intro s hs
    rcases hmem s hs with rfl | ⟨hs, _⟩
    · exact hnodup
    · exact h.handles s hs
  · intro s hs handle hhandle
    rcases hmem s hs with rfl | ⟨hs, hne⟩
    · exact (hnew handle hhandle).1
    · exact hkept s hs hne handle hhandle
  · intro s hs s' hs' handle hhandle hhandle'
    rcases hmem s hs with heq | ⟨hs, hne⟩
    · rcases hmem s' hs' with heq' | ⟨hs', hne'⟩
      · rw [heq, heq']
      · rw [heq] at hhandle ⊢
        exact (hold s' hs' handle hhandle' hhandle).symm
    · rcases hmem s' hs' with heq' | ⟨hs', hne'⟩
      · rw [heq'] at hhandle' ⊢
        exact hold s hs handle hhandle hhandle'
      · exact h.apart s hs s' hs' handle hhandle hhandle'
  · intro s hs
    rcases hmem s hs with rfl | ⟨hs, hne⟩
    · exact hagree
    · rw [hothers s.sessionId hne]
      exact h.agree s hs

theorem delete (h : InStep sessions registrations d) (sessionId : UInt32)
    (hkept : ∀ s ∈ sessions, s.sessionId ≠ sessionId → ∀ handle ∈ s.handles,
      handle ∈ registrations')
    (htables : t.TablesOk)
    (hothers : ∀ id, id ≠ sessionId → t.buffersOf id = d.buffersOf id) :
    InStep (KeyedList.delete Session.sessionId sessionId sessions) registrations' t := by
  have hstays : ∀ s ∈ KeyedList.delete Session.sessionId sessionId sessions,
      s ∈ sessions ∧ s.sessionId ≠ sessionId := fun s hs => (KeyedList.mem_delete h.ids).mp hs
  constructor
  · exact htables
  · exact KeyedList.nodup_delete h.ids
  · exact fun s hs => h.handles s (hstays s hs).1
  · exact fun s hs => hkept s (hstays s hs).1 (hstays s hs).2
  · exact fun s hs s' hs' => h.apart s (hstays s hs).1 s' (hstays s' hs').1
  · intro s hs
    rw [hothers s.sessionId (hstays s hs).2]
    exact h.agree s (hstays s hs).1

theorem update (h : InStep sessions registrations d) {s new : Session} (hs : s ∈ sessions)
    (hid : new.sessionId = s.sessionId) (hnodup : new.handles.Nodup)
    (hnew : ∀ handle ∈ new.handles, handle ∈ registrations' ∧
      (handle ∉ registrations ∨ handle ∈ s.handles))
    (hkept : ∀ handle ∈ registrations, handle ∉ s.handles → handle ∈ registrations')
    (htables : t.TablesOk)
    (hothers : ∀ id, id ≠ s.sessionId → t.buffersOf id = d.buffersOf id)
    (hagree : ∃ buffers, t.buffersOf s.sessionId = some buffers ∧ HandlesAgree new buffers) :
    InStep (KeyedList.update Session.sessionId s.sessionId (fun _ => new) sessions)
      registrations' t := by
  have hids : ∀ a : Session, a.sessionId = s.sessionId → new.sessionId = a.sessionId :=
    fun a ha => hid.trans ha.symm
  apply h.change new
  · have hsame : (KeyedList.update Session.sessionId s.sessionId (fun _ => new) sessions).map
        Session.sessionId = sessions.map Session.sessionId := by
      rw [KeyedList.update, List.map_map]
      apply List.map_congr_left
      intro a _
      simp only [Function.comp_apply]
      split
      · next ha => exact hids a ha
      · rfl
    rw [hsame]
    exact h.ids
  · intro a ha
    rcases KeyedList.mem_update.mp ha with ⟨_, _, _, rfl⟩ | ⟨ha, hne⟩
    · exact Or.inl rfl
    · right
      rw [hid]
      exact ⟨ha, hne⟩
  · exact hnodup
  · intro handle hhandle
    obtain ⟨hregistered, hbefore⟩ := hnew handle hhandle
    constructor
    · exact hregistered
    · rcases hbefore with hfresh | hlisted
      · exact Or.inl hfresh
      · exact Or.inr ⟨s, hs, hid.symm, hlisted⟩
  · intro a ha hne handle hhandle
    apply hkept handle (h.registered a ha handle hhandle)
    intro hlisted
    apply hne
    rw [hid]
    exact h.apart a ha s hs handle hhandle hlisted
  · exact htables
  · rw [hid]
    exact hothers
  · rw [hid]
    exact hagree

end InStep

theorem InStep.listed {sessions : List Session} {registrations : List UInt32} {d : Daemon}
    (h : InStep sessions registrations d) {s : Session} (hs : s ∈ sessions) :
    s.sessionId ∈ d.trustletSessions.map TrustletSession.sessionId := by
  obtain ⟨buffers, hbuffers, _⟩ := h.agree s hs
  obtain ⟨found, hget, _⟩ := Option.map_eq_some_iff.mp hbuffers
  obtain ⟨hmem, hid⟩ := Daemon.getTrustletSession_mem hget
  rw [← hid]
  exact List.mem_map_of_mem hmem

/-- A listed session agrees with the session that the daemon finds under its id. -/
theorem InStep.handlesAgree {sessions : List Session} {registrations : List UInt32} {d : Daemon}
    (h : InStep sessions registrations d) {s : Session} (hs : s ∈ sessions)
    {found : TrustletSession} (hget : d.getTrustletSession s.sessionId = some found) :
    HandlesAgree s found.buffers := by
  obtain ⟨buffers, hbuffers, hagree⟩ := h.agree s hs
  rw [Daemon.buffersOf, hget, Option.map_some, Option.some.injEq] at hbuffers
  rw [hbuffers]
  exact hagree

/-! ## The list of the client -/

theorem removeBulkBuf_of_lookup {session : Session} {buf : UInt64} {blkBuf : BulkBufferDescriptor}
    (hfind : KeyedList.lookup BulkBufferDescriptor.virtAddr buf session.bulkBufferDescriptors =
      some blkBuf) (hnodup : session.handles.Nodup) (unregistered : McResult) :
    (session.removeBulkBuf buf unregistered).2.handles.Nodup ∧
      ∀ handle, handle ∈ (session.removeBulkBuf buf unregistered).2.handles ↔
        handle ∈ session.handles ∧ handle ≠ blkBuf.handle := by
  obtain ⟨front, back, hlist, hdelete⟩ := KeyedList.delete_of_lookup hfind
  have hafter : (session.removeBulkBuf buf unregistered).2.handles =
      front.map BulkBufferDescriptor.handle ++ back.map BulkBufferDescriptor.handle := by
    unfold Session.removeBulkBuf
    rw [hfind, Session.handles, hdelete, List.map_append]
  have hbefore : session.handles = front.map BulkBufferDescriptor.handle ++
      blkBuf.handle :: back.map BulkBufferDescriptor.handle := by
    rw [Session.handles, hlist, List.map_append, List.map_cons]
  rw [hbefore, List.nodup_middle, List.nodup_cons] at hnodup
  rw [hafter, hbefore]
  constructor
  · exact hnodup.2
  · intro handle
    constructor
    · intro hmem
      constructor
      · rw [List.mem_append, List.mem_cons]
        rcases List.mem_append.mp hmem with hfront | hback
        · exact Or.inl hfront
        · exact Or.inr (Or.inr hback)
      · intro heq
        rw [heq] at hmem
        exact hnodup.1 hmem
    · rintro ⟨hmem, hne⟩
      rw [List.mem_append, List.mem_cons] at hmem
      rcases hmem with hfront | heq | hback
      · exact List.mem_append_left _ hfront
      · exact absurd heq hne
      · exact List.mem_append_right _ hback

/-- A buffer that was just added is what its address finds, and removing it undoes the
adding. -/
theorem lookup_pushBulkBuf {session : Session} {blkBuf : BulkBufferDescriptor}
    (hnew : blkBuf.virtAddr ∉ session.bulkBufferDescriptors.map BulkBufferDescriptor.virtAddr) :
    KeyedList.lookup BulkBufferDescriptor.virtAddr blkBuf.virtAddr
        (session.pushBulkBuf blkBuf).bulkBufferDescriptors = some blkBuf ∧
      KeyedList.delete BulkBufferDescriptor.virtAddr blkBuf.virtAddr
        (session.pushBulkBuf blkBuf).bulkBufferDescriptors = session.bulkBufferDescriptors := by
  have hother : ∀ listed ∈ session.bulkBufferDescriptors,
      ¬ (decide (listed.virtAddr = blkBuf.virtAddr)) = true := by
    intro listed hlisted hsame
    apply hnew
    rw [← of_decide_eq_true hsame]
    exact List.mem_map_of_mem hlisted
  constructor
  · rw [KeyedList.lookup, Session.pushBulkBuf, List.find?_append,
      List.find?_eq_none.mpr hother]
    simp
  · rw [KeyedList.delete, Session.pushBulkBuf, List.eraseP_append_right _ hother]
    simp

theorem handles_setSVirtualAddr (buf sVirtualAddr : UInt64) (session : Session) :
    (session.setSVirtualAddr buf sVirtualAddr).handles = session.handles := by
  unfold Session.setSVirtualAddr Session.handles
  apply KeyedList.map_update
  intro blkBuf
  rfl

end ClientLib

end Exynos8890.MobiCore
