import Exynos8890.MobiCore.DriverDaemon.Service
import Exynos8890.MobiCore.DriverDaemon.WellFormed

/-!
# Tables of buffers

The table of buffers that the daemon keeps for each session, found by the id of the
session, and what the commands of a client do to the tables of all sessions.

Main results:

- Definitions `buffersOf` and `TablesOk`.
- Theorems `MapServed.tables`, `UnmapServed.tables`, `buffersOf_append` and
  `buffersOf_delete`: one table changes, and the others stay.
-/

namespace Exynos8890.MobiCore

namespace Daemon

/-- The table of buffers of a session. -/
def buffersOf (d : Daemon) (sessionId : UInt32) : Option BulkBuffers :=
  (d.getTrustletSession sessionId).map fun s => s.buffers

/-- Numbers and ids of the sessions are distinct, and the numbers were handed out. -/
structure TablesOk (d : Daemon) : Prop where
  refs : d.refs.Nodup
  refs_lt : ∀ ref ∈ d.refs, ref < d.nextRef
  ids : (d.trustletSessions.map TrustletSession.sessionId).Nodup

/-- Equal tables are equal in everything that is said about them. -/
theorem buffersOf_eq_tables (d : Daemon) (sessionId : UInt32) :
    d.buffersOf sessionId =
      ((d.trustletSessions.map sessionTable).find? fun x => x.2.1 = sessionId).map
        fun x => x.2.2 := by
  rw [List.find?_map, Option.map_map]
  rfl

theorem refs_eq_tables (d : Daemon) : d.refs = (d.trustletSessions.map sessionTable).map Prod.fst := by
  rw [List.map_map]
  rfl

theorem ids_eq_tables (d : Daemon) :
    d.trustletSessions.map TrustletSession.sessionId =
      (d.trustletSessions.map sessionTable).map fun x => x.2.1 := by
  rw [List.map_map]
  rfl

theorem buffersOf_congr {d t : Daemon}
    (h : t.trustletSessions.map sessionTable = d.trustletSessions.map sessionTable)
    (sessionId : UInt32) : t.buffersOf sessionId = d.buffersOf sessionId := by
  rw [buffersOf_eq_tables, h, ← buffersOf_eq_tables]

theorem TablesOk.congr {d t : Daemon} (hd : d.TablesOk)
    (h : t.trustletSessions.map sessionTable = d.trustletSessions.map sessionTable)
    (hnext : t.nextRef = d.nextRef) : t.TablesOk := by
  have hrefs : t.refs = d.refs := by
    rw [refs_eq_tables, h, ← refs_eq_tables]
  constructor
  · rw [hrefs]
    exact hd.refs
  · rw [hrefs, hnext]
    exact hd.refs_lt
  · rw [ids_eq_tables, h, ← ids_eq_tables]
    exact hd.ids

theorem tables_of_cores {l l' : List TrustletSession}
    (h : l.map sessionCore = l'.map sessionCore) : l.map sessionTable = l'.map sessionTable := by
  have htable : ∀ s : TrustletSession, sessionTable s =
      ((sessionCore s).1, (sessionCore s).2.1, (sessionCore s).2.2.1) := fun _ => rfl
  have hmap : ∀ l : List TrustletSession, l.map sessionTable =
      (l.map sessionCore).map fun x => (x.1, x.2.1, x.2.2.1) := by
    intro l
    rw [List.map_map]
    exact List.map_congr_left fun s _ => htable s
  rw [hmap l, hmap l', h]

theorem newSession_names (frame : OpenFrame) (sessionId : UInt32) (addr : UInt64) (magic : UInt32)
    (d : Daemon) :
    (d.newSession frame sessionId addr magic).ref = d.nextRef ∧
      (d.newSession frame sessionId addr magic).sessionId = sessionId := by
  unfold newSession
  split
  · exact ⟨rfl, rfl⟩
  · exact ⟨rfl, rfl⟩

/-- A session that a client owns is the one listed under its id. -/
theorem getTrustletSession_of_findSession {d : Daemon} {conn : ConnPtr} {sessionId : UInt32}
    {session : TrustletSession} (h : d.findSession conn sessionId = some session) :
    d.getTrustletSession sessionId = some session := by
  unfold findSession at h
  split at h
  · cases h
  · next hget =>
      split at h
      · cases h
      · cases h
        exact hget

theorem buffersOf_update {d t : Daemon} (hd : d.TablesOk) {sessionId : UInt32}
    {session : TrustletSession} {f : TrustletSession → TrustletSession}
    (hf : ∀ s, (f s).sessionId = s.sessionId) (hget : d.getTrustletSession sessionId = some session)
    (ht : t.trustletSessions = KeyedList.update TrustletSession.ref session.ref f
      d.trustletSessions) (id : UInt32) :
    t.buffersOf id = if id = sessionId then some (f session).buffers else d.buffersOf id := by
  obtain ⟨hmem, hid⟩ := getTrustletSession_mem hget
  rw [buffersOf, getTrustletSession, ht, KeyedList.lookup_update_eq hf]
  by_cases heq : id = sessionId
  · rw [getTrustletSession] at hget
    rw [if_pos heq, heq, hget]
    simp
  · rw [if_neg heq, buffersOf, getTrustletSession]
    cases hother : KeyedList.lookup TrustletSession.sessionId id d.trustletSessions with
    | none => rfl
    | some s =>
        obtain ⟨hs, hsid⟩ := KeyedList.mem_of_lookup hother
        have hne : s.ref ≠ session.ref := by
          intro href
          have hsame := eq_of_ref_eq hd.refs hs hmem href
          exact heq (by rw [← hsid, hsame, hid])
        simp [hne]

theorem TablesOk.update {d t : Daemon} (hd : d.TablesOk) {ref : SessionRef}
    {f : TrustletSession → TrustletSession}
    (hf : ∀ s, (f s).ref = s.ref ∧ (f s).sessionId = s.sessionId)
    (ht : t.trustletSessions = KeyedList.update TrustletSession.ref ref f d.trustletSessions)
    (hnext : t.nextRef = d.nextRef) : t.TablesOk := by
  have hrefs : t.refs = d.refs := by
    rw [Daemon.refs, Daemon.refs, ht]
    exact KeyedList.map_update (fun s => (hf s).1) d.trustletSessions
  constructor
  · rw [hrefs]
    exact hd.refs
  · rw [hrefs, hnext]
    exact hd.refs_lt
  · rw [ht, KeyedList.map_update fun s => (hf s).2]
    exact hd.ids

/-- A map command adds the buffer to the table of its session. -/
theorem MapServed.tables {conn : ConnPtr} {cmd : CmdMapBulkBuf} {wsm : WsmAnswers} {r : McpReply}
    {session : TrustletSession} {d t : Daemon} (h : MapServed conn cmd wsm r session d t)
    (hd : d.TablesOk) :
    t.TablesOk ∧ ∀ id, t.buffersOf id = if id = cmd.sessionId then
      some (session.buffers.emplace (bulkBuffer cmd wsm.l2)).1 else d.buffersOf id := by
  have hkept : ∀ s, (TrustletSession.addBulkBuff (bulkBuffer cmd wsm.l2) s).ref = s.ref ∧
      (TrustletSession.addBulkBuff (bulkBuffer cmd wsm.l2) s).sessionId = s.sessionId :=
    fun _ => ⟨rfl, rfl⟩
  constructor
  · exact hd.update hkept h.trustletSessions h.nextRef
  · exact buffersOf_update hd (fun s => (hkept s).2) (getTrustletSession_of_findSession h.found)
      h.trustletSessions

/-- An unmap command removes the buffer from the table of its session. -/
theorem UnmapServed.tables {conn : ConnPtr} {cmd : CmdUnmapBulkBuf} {session : TrustletSession}
    {d t : Daemon} (h : UnmapServed conn cmd session d t) (hd : d.TablesOk) :
    t.TablesOk ∧ ∀ id, t.buffersOf id = if id = cmd.sessionId then
      some (session.buffers.erase cmd.handle.toNat) else d.buffersOf id := by
  have hkept : ∀ s, (TrustletSession.removeBulkBuff cmd.handle s).ref = s.ref ∧
      (TrustletSession.removeBulkBuff cmd.handle s).sessionId = s.sessionId :=
    fun _ => ⟨rfl, rfl⟩
  constructor
  · exact hd.update hkept h.trustletSessions h.nextRef
  · exact buffersOf_update hd (fun s => (hkept s).2) (getTrustletSession_of_findSession h.found)
      h.trustletSessions

theorem buffersOf_append {d t : Daemon} {s : TrustletSession}
    (hid : s.sessionId ∉ d.trustletSessions.map TrustletSession.sessionId)
    (ht : t.trustletSessions.map sessionTable =
      d.trustletSessions.map sessionTable ++ [sessionTable s]) (id : UInt32) :
    t.buffersOf id = if id = s.sessionId then some s.buffers else d.buffersOf id := by
  rw [buffersOf_eq_tables, ht, List.find?_append]
  by_cases heq : id = s.sessionId
  · have hnone : (d.trustletSessions.map sessionTable).find? (fun x => decide (x.2.1 = id)) =
        none := by
      rw [List.find?_eq_none]
      intro x hx
      obtain ⟨listed, hlisted, rfl⟩ := List.mem_map.mp hx
      have hne : listed.sessionId ≠ id := by
        intro hsame
        apply hid
        rw [← heq, ← hsame]
        exact List.mem_map_of_mem hlisted
      exact fun hfound => hne (of_decide_eq_true hfound)
    rw [hnone, if_pos heq, heq]
    simp [sessionTable]
  · have hnew : [sessionTable s].find? (fun x => decide (x.2.1 = id)) = none := by
      simpa [sessionTable] using fun hsame => heq hsame.symm
    rw [hnew, Option.or_none, if_neg heq, ← buffersOf_eq_tables]

theorem TablesOk.append {d t : Daemon} (hd : d.TablesOk) {s : TrustletSession}
    (href : s.ref = d.nextRef)
    (hid : s.sessionId ∉ d.trustletSessions.map TrustletSession.sessionId)
    (ht : t.trustletSessions.map sessionTable =
      d.trustletSessions.map sessionTable ++ [sessionTable s])
    (hnext : t.nextRef = d.nextRef + 1) : t.TablesOk := by
  have hrefs : t.refs = d.refs ++ [d.nextRef] := by
    rw [refs_eq_tables, ht, List.map_append, ← refs_eq_tables, ← href]
    rfl
  have hids : t.trustletSessions.map TrustletSession.sessionId =
      d.trustletSessions.map TrustletSession.sessionId ++ [s.sessionId] := by
    rw [ids_eq_tables, ht, List.map_append, ← ids_eq_tables]
    rfl
  constructor
  · rw [hrefs]
    apply hd.refs.append (List.nodup_singleton _)
    intro ref href' hnew
    rw [List.mem_singleton.mp hnew] at href'
    exact absurd (hd.refs_lt _ href') (lt_irrefl _)
  · intro ref hmem
    rw [hrefs] at hmem
    rw [hnext]
    rcases List.mem_append.mp hmem with hold | hnew
    · exact Nat.lt_succ_of_lt (hd.refs_lt ref hold)
    · rw [List.mem_singleton.mp hnew]
      exact Nat.lt_succ_self _
  · rw [hids]
    apply hd.ids.append (List.nodup_singleton _)
    intro id hold hnew
    rw [List.mem_singleton.mp hnew] at hold
    exact hid hold

theorem buffersOf_delete {d t : Daemon} (hd : d.TablesOk) {session : TrustletSession}
    (hmem : session ∈ d.trustletSessions)
    (ht : t.trustletSessions.map sessionTable =
      (KeyedList.delete TrustletSession.ref session.ref d.trustletSessions).map sessionTable)
    {id : UInt32} (hne : id ≠ session.sessionId) : t.buffersOf id = d.buffersOf id := by
  have hdeleted : t.buffersOf id = { d with
      trustletSessions :=
        KeyedList.delete TrustletSession.ref session.ref d.trustletSessions }.buffersOf id :=
    buffersOf_congr ht id
  rw [hdeleted, buffersOf, buffersOf, getTrustletSession, getTrustletSession]
  cases hother : KeyedList.lookup TrustletSession.sessionId id d.trustletSessions with
  | some s =>
      obtain ⟨hs, hsid⟩ := KeyedList.mem_of_lookup hother
      have hkeep : s.ref ≠ session.ref := by
        intro href
        rw [eq_of_ref_eq hd.refs hs hmem href] at hsid
        exact hne hsid.symm
      rw [KeyedList.lookup_delete hother hkeep]
  | none =>
      have hgone : KeyedList.lookup TrustletSession.sessionId id
          (KeyedList.delete TrustletSession.ref session.ref d.trustletSessions) = none := by
        rw [KeyedList.lookup, List.find?_eq_none] at hother ⊢
        exact fun s hs => hother s (KeyedList.mem_of_mem_delete hs)
      rw [hgone]

theorem TablesOk.delete {d t : Daemon} (hd : d.TablesOk) {ref : SessionRef}
    (ht : t.trustletSessions.map sessionTable =
      (KeyedList.delete TrustletSession.ref ref d.trustletSessions).map sessionTable)
    (hnext : t.nextRef = d.nextRef) : t.TablesOk := by
  have hdeleted : { d with
      trustletSessions := KeyedList.delete TrustletSession.ref ref d.trustletSessions }.TablesOk := by
    constructor
    · exact KeyedList.nodup_delete hd.refs
    · intro r hr
      obtain ⟨s, hs, rfl⟩ := List.mem_map.mp hr
      exact hd.refs_lt s.ref (List.mem_map_of_mem (KeyedList.mem_of_mem_delete hs))
    · exact hd.ids.sublist (List.eraseP_sublist.map _)
  exact hdeleted.congr ht hnext

end Daemon

end Exynos8890.MobiCore
