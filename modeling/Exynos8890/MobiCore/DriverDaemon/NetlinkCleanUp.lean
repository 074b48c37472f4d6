import Exynos8890.Library.RestartingSweep
import Exynos8890.MobiCore.DriverDaemon.NetlinkServer

/-!
# Connections of processes that have died

Before it looks at a message the server drops the connections of processes that have died.  It
walks the map from its end; behind a removal the iterator is set to the end once more, and then
the loop advances it.  The device deletes the notification connections of the sessions that a
dropped connection had, and with them their entries of the map.

Main results:

- Definition `cleanUp`: the loop for a given set of live processes.
- Theorem `cleanUp_cleanupFrom`: it is one of the clean-ups of the server.
- Theorem `cleanUp_sweep`: the map behind it is the one of a sweep that begins again behind every
  removal.
- Theorem `cleanUp_total`: it comes to its end, and uses no connection that has been deleted.
- Theorem `loop_cleansUp_iff`: when the loop examines every connection and leaves exactly those whose
  process is alive.
- Theorem `not_loop_cleansUp`: two processes that have died.
-/

namespace Exynos8890.MobiCore

namespace Netlink

open RestartingSweep

/-- An entry of `connectionMap_t`. -/
abbrev Entry := BitVec 64 × ConnPtr

/-- The processes that are alive, and the connections that the device deletes when a connection is
dropped: the notification connections of its sessions. -/
structure Peers where
  alive : BitVec 32 → Bool
  notifications : ConnPtr → List ConnPtr

namespace NetlinkServer

/-! ## The loop -/

/-- `kill` finds the process of a connection. -/
def aliveAt (s : NetlinkServer) (p : Peers) (c : ConnPtr) : Bool :=
  match s.connections c with
  | none => true
  | some connection => p.alive (connection.peerPid &&& 0xFFFF#32)

/-- The walk that ends with the removal of a connection. -/
def walkOf (s : NetlinkServer) (p : Peers) (c : ConnPtr) : Walk where
  alive := s.aliveAt p
  dropped := p.notifications c

/-- An entry has a process, and it has died. -/
def dead (s : NetlinkServer) (p : Peers) (e : Entry) : Bool :=
  s.died (s.walkOf p e.2) e.2

/-- What `cleanupConnections` comes to, with the entries that were examined, and those that the
iterator has passed over without that. -/
structure CleanedUp where
  server : NetlinkServer
  examined : List Entry
  passed : List Entry

/-- The loop from the entry behind `skip` ones; the first argument bounds the removals.  The device
deletes connections that exist. -/
def cleanUp (p : Peers) :
    Nat → Nat → NetlinkServer → List Entry → List Entry → Option CleanedUp
  | 0, _, _, _, _ => none
  | n + 1, skip, s, examined, passed =>
      let l := s.peerConnections.items.reverse
      let passed := passed ++ unexamined skip l examined
      match (l.drop skip).find? (s.dead p) with
      | none => some ⟨s, examined ++ l.drop skip, passed⟩
      | some e =>
          let examined := examined ++ (l.drop skip).takeWhile (fun e => !s.dead p e) ++ [e]
          if ∀ d ∈ p.notifications e.2, s.connections d ≠ none then do
            let s ← s.dropDead (s.walkOf p e.2) e.2
            if s.peerConnections.items = [] then some ⟨s, examined, passed⟩
            else cleanUp p n 1 s examined passed
          else none

theorem cleanUp_cleanupFrom {p : Peers} {n skip : Nat} {s : NetlinkServer}
    {examined passed : List Entry} {r : CleanedUp}
    (h : cleanUp p n skip s examined passed = some r) :
    ∃ walks, s.cleanupFrom skip walks = some r.server := by
  induction n generalizing skip s examined passed with
  | zero => cases h
  | succ n ih =>
      rw [cleanUp] at h
      cases hfind : (s.peerConnections.items.reverse.drop skip).find? (s.dead p) with
      | none =>
          simp only [hfind] at h
          cases h
          exact ⟨[], rfl⟩
      | some e =>
          simp only [hfind] at h
          split at h
          · obtain ⟨t, hdrop, h⟩ := Option.bind_eq_some_iff.mp h
            have hwalk : (s.peerConnections.items.reverse.drop skip).find?
                (fun e' => s.died (s.walkOf p e.2) e'.2) = some e := hfind
            by_cases hempty : t.peerConnections.items = []
            · rw [if_pos hempty] at h
              cases h
              refine ⟨[s.walkOf p e.2], ?_⟩
              rw [cleanupFrom, hwalk]
              show (s.dropDead _ e.2).bind _ = _
              rw [hdrop, Option.bind_some, if_pos hempty]
            · rw [if_neg hempty] at h
              obtain ⟨walks, hwalks⟩ := ih h
              refine ⟨s.walkOf p e.2 :: walks, ?_⟩
              rw [cleanupFrom, hwalk]
              show (s.dropDead _ e.2).bind _ = _
              rw [hdrop, Option.bind_some, if_neg hempty, hwalks]
          · cases h

/-! ## What the daemon keeps -/

/-- Every entry is a connection under its own key.  The notification connections of an entry are
detached connections, each of one session, and their keys are those of no other entry; a detached
connection has no sessions. -/
structure WellKept (s : NetlinkServer) (p : Peers) : Prop where
  entries : ∀ e ∈ s.peerConnections.items,
    ∃ connection, s.connections e.2 = some connection ∧ connection.hash = e.1
  notifications : ∀ e ∈ s.peerConnections.items, ∀ d ∈ p.notifications e.2,
    ∃ connection, s.connections d = some connection ∧ connection.detached = true ∧
      ∀ e' ∈ s.peerConnections.items, e'.1 = connection.hash → e'.2 = d
  detached : ∀ e ∈ s.peerConnections.items, ∀ connection, s.connections e.2 = some connection →
    connection.detached = true → p.notifications e.2 = []
  nodup : ∀ e ∈ s.peerConnections.items, (p.notifications e.2).Nodup
  apart : ∀ e ∈ s.peerConnections.items, ∀ e' ∈ s.peerConnections.items, e.2 ≠ e'.2 →
    ∀ d ∈ p.notifications e.2, d ∉ p.notifications e'.2

/-- An entry goes when another is dropped: it is that one, or one of its notification
connections. -/
def goesWith (p : Peers) (e d : Entry) : Bool :=
  d.1 = e.1 ∨ d.2 ∈ p.notifications e.2

/-! ## Deletions -/

section Deletions

variable {s : NetlinkServer}

/-- The entries that are left when connections with these keys are deleted. -/
theorem deleteAll_spec {cs : List ConnPtr} (hash : ConnPtr → BitVec 64) (hnodup : cs.Nodup)
    (hcs : ∀ c ∈ cs, ∃ connection, s.connections c = some connection ∧
      connection.hash = hash c) :
    (s.deleteAll cs).peerConnections.items =
        s.peerConnections.items.filter (fun e => ∀ c ∈ cs, e.1 ≠ hash c) ∧
      ∀ c, c ∉ cs → (s.deleteAll cs).connections c = s.connections c := by
  induction cs generalizing s with
  | nil => exact ⟨(List.filter_eq_self.mpr (by simp)).symm, fun c _ => rfl⟩
  | cons d cs ih =>
      obtain ⟨hd, hnodup⟩ := List.nodup_cons.mp hnodup
      obtain ⟨connection, hconn, hhash⟩ := hcs d List.mem_cons_self
      have hother : ∀ c, c ≠ d → (s.delete d).connections c = s.connections c := by
        intro c hne
        rw [delete_of_some hconn]
        exact Function.update_of_ne hne _ _
      obtain ⟨hitems, hconnections⟩ := ih (s := s.delete d) hnodup fun c hc => by
        rw [hother c (fun heq => hd (heq ▸ hc))]
        exact hcs c (List.mem_cons_of_mem d hc)
      have herased : (s.delete d).peerConnections.items =
          s.peerConnections.items.filter fun e => e.1 ≠ hash d := by
        rw [delete_of_some hconn, hhash]
        apply List.filter_congr
        intro e _
        simp [BitVec.toNat_inj]
      refine ⟨?_, fun c hc => ?_⟩
      · show ((s.delete d).deleteAll cs).peerConnections.items = _
        rw [hitems, herased, List.filter_filter]
        apply List.filter_congr
        intro e _
        simp only [List.forall_mem_cons, Bool.decide_and, Bool.and_comm]
      · have hne : c ≠ d := fun heq => hc (heq ▸ List.mem_cons_self)
        show ((s.delete d).deleteAll cs).connections c = _
        rw [hconnections c (fun hmem => hc (List.mem_cons_of_mem d hmem)), hother c hne]

end Deletions

/-! ## The loop is a sweep -/

section Sweeps

variable {p : Peers} {s₀ s : NetlinkServer}

/-- The entries and their notification connections are those of the beginning. -/
structure Unchanged (p : Peers) (s₀ s : NetlinkServer) : Prop where
  entries : ∀ e ∈ s.peerConnections.items, e ∈ s₀.peerConnections.items
  connections : ∀ e ∈ s.peerConnections.items, s.connections e.2 = s₀.connections e.2
  notifications : ∀ e ∈ s.peerConnections.items, ∀ d ∈ p.notifications e.2,
    ∃ connection connection₀, s.connections d = some connection ∧
      s₀.connections d = some connection₀ ∧ connection.hash = connection₀.hash

theorem unchanged_self (h : WellKept s₀ p) : Unchanged p s₀ s₀ where
  entries := fun _ he => he
  connections := fun _ _ => rfl
  notifications := by
    intro e he d hd
    obtain ⟨connection, hconn, -⟩ := h.notifications e he d hd
    exact ⟨connection, connection, hconn, hconn, rfl⟩

/-- A connection with notification connections is none itself. -/
theorem WellKept.not_mem_notifications (h : WellKept s₀ p) {e e' : Entry}
    (he : e ∈ s₀.peerConnections.items) (he' : e' ∈ s₀.peerConnections.items) {d : ConnPtr}
    (hd : d ∈ p.notifications e.2) : e.2 ∉ p.notifications e'.2 := by
  intro hmem
  obtain ⟨connection, hconn, hdetached, -⟩ := h.notifications e' he' e.2 hmem
  rw [h.detached e he connection hconn hdetached] at hd
  cases hd

theorem WellKept.key_eq (h : WellKept s₀ p) {e e' : Entry} (he : e ∈ s₀.peerConnections.items)
    (he' : e' ∈ s₀.peerConnections.items) (hsame : e.2 = e'.2) : e.1 = e'.1 := by
  obtain ⟨connection, hconn, hhash⟩ := h.entries e he
  obtain ⟨connection', hconn', hhash'⟩ := h.entries e' he'
  rw [← hsame, hconn] at hconn'
  cases hconn'
  exact hhash.symm.trans hhash'

/-- The key of a connection. -/
def hashAt (s : NetlinkServer) (c : ConnPtr) : BitVec 64 :=
  (s.connections c).elim 0 NetlinkConnection.hash

theorem hashAt_of_some {s : NetlinkServer} {c : ConnPtr} {connection : NetlinkConnection}
    (h : s.connections c = some connection) : s.hashAt c = connection.hash := by
  rw [hashAt, h, Option.elim_some]

/-- The entries that are under the key of a connection that is dropped, or of one of its
notification connections, are those that go with it. -/
theorem WellKept.alive_iff (h : WellKept s₀ p) {e a : Entry} (he : e ∈ s₀.peerConnections.items)
    (ha : a ∈ s₀.peerConnections.items) :
    (a.1 ≠ e.1 ∧ ∀ c ∈ p.notifications e.2, a.1 ≠ s₀.hashAt c) ↔ goesWith p e a = false := by
  simp only [goesWith, decide_eq_false_iff_not, not_or]
  refine and_congr_right fun _ => ⟨fun hkeys hmem => ?_, fun hmem c hc hkey => ?_⟩
  · obtain ⟨connection, hconn, hhash⟩ := h.entries a ha
    exact hkeys a.2 hmem ((hashAt_of_some hconn).trans hhash).symm
  · obtain ⟨connection, hconn, -, hother⟩ := h.notifications e he c hc
    rw [hashAt_of_some hconn] at hkey
    rw [hother a ha hkey] at hmem
    exact hmem hc

theorem dropDead_of_some {walk : Walk} {c : ConnPtr} {connection : NetlinkConnection}
    (hconn : s.connections c = some connection) (dropped : NetlinkConnection)
    (hdropped : ((s.assign c { connection with socketDescriptor := -1 }).deleteAll
      walk.dropped).connections c = some dropped) :
    s.dropDead walk c = some
      (let left := ((s.assign c { connection with socketDescriptor := -1 }).deleteAll
        walk.dropped).removeConnection dropped.hash
      if connection.detached then left else left.delete c) := by
  rw [dropDead, hconn, Option.bind_eq_bind, Option.bind_some]
  dsimp only
  rw [hdropped]
  rfl

/-- Deleting a connection that is no longer in the map, and that no entry has for notifications. -/
theorem Unchanged.delete (hs : Unchanged p s₀ s) {c : ConnPtr} (connection : NetlinkConnection)
    (hconn : s.connections c = some connection)
    (hlisted : ∀ a ∈ s.peerConnections.items,
      a.1 ≠ connection.hash ∧ a.2 ≠ c ∧ c ∉ p.notifications a.2) :
    Unchanged p s₀ (s.delete c) ∧
      (s.delete c).peerConnections.items = s.peerConnections.items := by
  have hitems : (s.delete c).peerConnections.items = s.peerConnections.items := by
    rw [delete_of_some hconn]
    apply List.filter_eq_self.mpr
    intro a ha
    rw [decide_eq_true_eq, Ne, BitVec.toNat_inj]
    exact (hlisted a ha).1
  have hconnections : ∀ d, d ≠ c → (s.delete c).connections d = s.connections d := by
    intro d hne
    rw [delete_of_some hconn]
    exact Function.update_of_ne hne _ _
  refine ⟨⟨fun a ha => ?_, fun a ha => ?_, fun a ha d hd => ?_⟩, hitems⟩
  · exact hs.entries a (hitems ▸ ha)
  · rw [hitems] at ha
    rw [hconnections a.2 (hlisted a ha).2.1, hs.connections a ha]
  · rw [hitems] at ha
    obtain ⟨connection', connection₀, hd', hd₀, hsame⟩ := hs.notifications a ha d hd
    refine ⟨connection', connection₀, ?_, hd₀, hsame⟩
    rw [hconnections d (fun heq => (hlisted a ha).2.2 (heq ▸ hd)), hd']

/-- An entry that stays when another is dropped is another connection, and none of its notification
connections. -/
theorem WellKept.stays (h : WellKept s₀ p) (hs : Unchanged p s₀ s) {e a : Entry}
    (he : e ∈ s.peerConnections.items)
    (ha : a ∈ without (goesWith p) e s.peerConnections.items) :
    a ∈ s.peerConnections.items ∧ a.1 ≠ e.1 ∧ a.2 ≠ e.2 ∧ a.2 ∉ p.notifications e.2 := by
  rw [mem_without] at ha
  obtain ⟨ha, hstays⟩ := ha
  simp only [goesWith, decide_eq_false_iff_not, not_or] at hstays
  obtain ⟨hkey, hnot⟩ := hstays
  exact ⟨ha, hkey, fun hsame => hkey (h.key_eq (hs.entries a ha) (hs.entries e he) hsame), hnot⟩

/-- What the destructor of a connection leaves, before the connection itself is released: its
notification connections are gone, and so are the entries that go with it. -/
theorem destructed_spec (h : WellKept s₀ p) (hs : Unchanged p s₀ s) {e : Entry}
    (he : e ∈ s.peerConnections.items) {connection : NetlinkConnection}
    (hhash : connection.hash = e.1)
    {closed : NetlinkServer} (hclosed : closed =
      (s.assign e.2 { connection with socketDescriptor := -1 }).deleteAll (p.notifications e.2)) :
    closed.connections e.2 = some { connection with socketDescriptor := -1 } ∧
      (∀ c, c ≠ e.2 → c ∉ p.notifications e.2 → closed.connections c = s.connections c) ∧
      (closed.removeConnection connection.hash).peerConnections.items =
        without (goesWith p) e s.peerConnections.items := by
  have he₀ := hs.entries e he
  have hself : e.2 ∉ p.notifications e.2 := fun hmem => h.not_mem_notifications he₀ he₀ hmem hmem
  have hother : ∀ c, c ≠ e.2 →
      (s.assign e.2 { connection with socketDescriptor := -1 }).connections c = s.connections c :=
    fun c hne => s.assign_of_ne hne _
  obtain ⟨hitems, hconnections⟩ :=
    deleteAll_spec (s := s.assign e.2 { connection with socketDescriptor := -1 }) s₀.hashAt
      (h.nodup e he₀) fun c hc => by
        obtain ⟨connection', connection₀, hc', hc₀, hsame⟩ := hs.notifications e he c hc
        refine ⟨connection', ?_, hsame.trans (hashAt_of_some hc₀).symm⟩
        rw [hother c (fun heq => hself (heq ▸ hc)), hc']
  subst hclosed
  refine ⟨?_, fun c hne hc => ?_, ?_⟩
  · rw [hconnections e.2 hself, assign_self]
  · rw [hconnections c hc, hother c hne]
  · show List.filter _ (NetlinkServer.deleteAll _ (p.notifications e.2)).peerConnections.items = _
    rw [hitems, List.filter_filter, without]
    apply List.filter_congr
    intro a ha
    have hkept := h.alive_iff he₀ (hs.entries a ha)
    have hkey : mapKey a ≠ connection.hash.toNat ↔ a.1 ≠ e.1 := by
      rw [hhash, Ne, BitVec.toNat_inj]
    rw [Bool.eq_iff_iff, Bool.and_eq_true, decide_eq_true_eq, decide_eq_true_eq, hkey, hkept,
      Bool.not_eq_true']

/-- The entries that stay keep their connections and their notification connections: those that
are gone belong to the connection that is dropped. -/
theorem Unchanged.of_destructed (h : WellKept s₀ p) (hs : Unchanged p s₀ s) {e : Entry}
    (he : e ∈ s.peerConnections.items) {connection dropped : NetlinkConnection}
    (hconn : s.connections e.2 = some connection) {left : NetlinkServer}
    (hself : left.connections e.2 = some dropped) (hhash : dropped.hash = connection.hash)
    (hother : ∀ c, c ≠ e.2 → c ∉ p.notifications e.2 → left.connections c = s.connections c)
    (hitems : left.peerConnections.items = without (goesWith p) e s.peerConnections.items) :
    Unchanged p s₀ left := by
  have he₀ := hs.entries e he
  have hstays : ∀ a ∈ left.peerConnections.items, a ∈ s.peerConnections.items ∧ a.1 ≠ e.1 ∧
      a.2 ≠ e.2 ∧ a.2 ∉ p.notifications e.2 := fun a ha => h.stays hs he (hitems ▸ ha)
  refine ⟨fun a ha => hs.entries a (hstays a ha).1, fun a ha => ?_, fun a ha d hd => ?_⟩
  · obtain ⟨ha, -, hne, hnot⟩ := hstays a ha
    rw [hother a.2 hne hnot, hs.connections a ha]
  · obtain ⟨ha, -, hne, -⟩ := hstays a ha
    obtain ⟨connection', connection₀, hd', hd₀, hsame⟩ := hs.notifications a ha d hd
    have hnot : d ∉ p.notifications e.2 := h.apart a (hs.entries a ha) e he₀ hne d hd
    by_cases hdropped : d = e.2
    · subst hdropped
      rw [hconn] at hd'
      cases hd'
      exact ⟨dropped, connection₀, hself, hd₀, hhash.trans hsame⟩
    · exact ⟨connection', connection₀, (hother d hdropped hnot).trans hd', hd₀, hsame⟩

/-- The body of the loop for an entry whose process has died. -/
theorem dropDead_spec (h : WellKept s₀ p) (hs : Unchanged p s₀ s) {e : Entry}
    (he : e ∈ s.peerConnections.items) :
    (∀ d ∈ p.notifications e.2, s.connections d ≠ none) ∧
      ∃ t, s.dropDead (s.walkOf p e.2) e.2 = some t ∧ Unchanged p s₀ t ∧
        t.peerConnections.items = without (goesWith p) e s.peerConnections.items := by
  have he₀ := hs.entries e he
  obtain ⟨connection, hconn₀, hhash⟩ := h.entries e he₀
  have hconn : s.connections e.2 = some connection := (hs.connections e he).trans hconn₀
  refine ⟨fun d hd hnone => ?_, ?_⟩
  · obtain ⟨_, _, hsome, -⟩ := hs.notifications e he d hd
    rw [hnone] at hsome
    cases hsome
  obtain ⟨hdropped, hother, hleft⟩ := destructed_spec h hs he hhash rfl
  let left := ((s.assign e.2 { connection with socketDescriptor := -1 }).deleteAll
    (p.notifications e.2)).removeConnection connection.hash
  have hkept : Unchanged p s₀ left :=
    Unchanged.of_destructed h hs he hconn hdropped rfl hother hleft
  have hdrop : s.dropDead (s.walkOf p e.2) e.2 =
      some (if connection.detached then left else left.delete e.2) :=
    dropDead_of_some hconn { connection with socketDescriptor := -1 } hdropped
  cases hdetached : connection.detached with
  | true =>
      refine ⟨left, ?_, hkept, hleft⟩
      rw [hdrop, if_pos hdetached]
  | false =>
      have hlisted : ∀ a ∈ left.peerConnections.items,
          a.1 ≠ connection.hash ∧ a.2 ≠ e.2 ∧ e.2 ∉ p.notifications a.2 := by
        intro a ha
        obtain ⟨ha, hkey, hne, -⟩ := h.stays hs he (hleft ▸ ha)
        refine ⟨hhash ▸ hkey, hne, fun hmem => ?_⟩
        -- a notification connection is detached, and this one is not
        obtain ⟨connection', hconn', hdetached', -⟩ :=
          h.notifications a (hs.entries a ha) e.2 hmem
        rw [hconn₀] at hconn'
        cases hconn'
        rw [hdetached] at hdetached'
        cases hdetached'
      obtain ⟨hgone, hitems⟩ :=
        hkept.delete { connection with socketDescriptor := -1 } hdropped hlisted
      refine ⟨left.delete e.2, ?_, hgone, hitems.trans hleft⟩
      rw [hdrop, hdetached, if_neg Bool.false_ne_true]

theorem Unchanged.dead_eq (hs : Unchanged p s₀ s) {e : Entry} (he : e ∈ s.peerConnections.items) :
    s.dead p e = s₀.dead p e := by
  simp only [dead, died, walkOf, aliveAt, hs.connections e he]

/-- The part of a result that a sweep has. -/
def CleanedUp.swept (r : CleanedUp) : Swept Entry where
  left := r.server.peerConnections.items.reverse
  examined := r.examined
  passed := r.passed

theorem cleanUp_sweep (h : WellKept s₀ p) (hs : Unchanged p s₀ s) {n skip : Nat}
    {examined passed : List Entry} :
    (cleanUp p n skip s examined passed).map CleanedUp.swept =
      sweepFrom (s₀.dead p) (goesWith p) n skip s.peerConnections.items.reverse examined
        passed := by
  induction n generalizing skip s examined passed with
  | zero => rfl
  | succ n ih =>
      have hdead : ∀ e ∈ s.peerConnections.items.reverse.drop skip,
          s.dead p e = s₀.dead p e := fun e he =>
        hs.dead_eq (List.mem_reverse.mp (List.mem_of_mem_drop he))
      rw [cleanUp, sweepFrom]
      dsimp only
      rw [List.find?_congr hdead, takeWhile_congr fun e he => congrArg not (hdead e he)]
      cases hfind : (s.peerConnections.items.reverse.drop skip).find? (s₀.dead p) with
      | none => rfl
      | some e =>
          have he : e ∈ s.peerConnections.items :=
            List.mem_reverse.mp (mem_of_find_drop hfind).1
          obtain ⟨hexist, t, hdrop, ht, hitems⟩ := dropDead_spec h hs he
          have hleft : without (goesWith p) e s.peerConnections.items.reverse =
              t.peerConnections.items.reverse := by
            rw [hitems, without, List.filter_reverse, without]
          dsimp only
          rw [if_pos hexist, hdrop, hleft, Option.bind_eq_bind, Option.bind_some]
          simp only [List.reverse_eq_nil_iff]
          split
          · rename_i hempty
            simp [CleanedUp.swept, hempty]
          · exact ih ht

end Sweeps

/-! ## Connections of processes that are alive -/

section CleanUps

variable {p : Peers} {s : NetlinkServer}

/-- The loop comes to its end, examines every connection that is left, and leaves those whose
process is alive and those that have none. -/
def CleansUp (s : NetlinkServer) (p : Peers) : Prop :=
  ∃ r, cleanUp p (s.peerConnections.items.length + 1) 0 s [] [] = some r ∧
    r.server.peerConnections.items = s.peerConnections.items.filter (fun e => !s.dead p e) ∧
    r.passed = [] ∧ ∀ e ∈ r.server.peerConnections.items, e ∈ r.examined

/-- The notification connections of a connection whose process has died belong to processes that
have died; and the process of the greatest key is alive, unless its connection takes all others
with it. -/
structure Undisturbed (s : NetlinkServer) (p : Peers) : Prop where
  notifications : ∀ e ∈ s.peerConnections.items, s.dead p e = true →
    ∀ d ∈ s.peerConnections.items, d.2 ∈ p.notifications e.2 → s.dead p d = true
  greatest : ∀ e, s.peerConnections.items.getLast? = some e →
    s.dead p e = false ∨ ∀ d ∈ s.peerConnections.items, goesWith p e d = true

theorem goesWith_self (e : Entry) : goesWith p e e = true := by
  simp [goesWith]

/-- The loop comes to its end, and uses no connection that has been deleted. -/
theorem cleanUp_total (h : WellKept s p) :
    ∃ r, cleanUp p (s.peerConnections.items.length + 1) 0 s [] [] = some r := by
  have hlt : s.peerConnections.items.reverse.length < s.peerConnections.items.length + 1 := by
    rw [List.length_reverse]
    exact Nat.lt_succ_self _
  obtain ⟨w, hw⟩ : ∃ w, sweepFrom (s.dead p) (goesWith p) (s.peerConnections.items.length + 1) 0
      s.peerConnections.items.reverse [] [] = some w := sweepFrom_total goesWith_self hlt
  rw [← cleanUp_sweep h (unchanged_self h)] at hw
  obtain ⟨r, hr, -⟩ := Option.map_eq_some_iff.mp hw
  exact ⟨r, hr⟩

theorem loop_cleansUp_iff_clean (h : WellKept s p) :
    CleansUp s p ↔
      ∃ w, sweepFrom (s.dead p) (goesWith p) (s.peerConnections.items.length + 1) 0
          s.peerConnections.items.reverse [] [] = some w ∧
        Clean (s.dead p) s.peerConnections.items.reverse w := by
  rw [← cleanUp_sweep h (unchanged_self h)]
  simp only [Option.map_eq_some_iff]
  constructor
  · rintro ⟨r, hr, hitems, hpassed, hexamined⟩
    refine ⟨r.swept, ⟨r, hr, rfl⟩, ?_, hpassed, fun e he => ?_⟩
    · show r.server.peerConnections.items.reverse = _
      rw [hitems, List.filter_reverse]
    · exact hexamined e (List.mem_reverse.mp he)
  · rintro ⟨_, ⟨r, hr, rfl⟩, hclean⟩
    refine ⟨r, hr, ?_, hclean.passed, fun e he => ?_⟩
    · have hleft : r.server.peerConnections.items.reverse = _ := hclean.left
      rw [List.filter_reverse] at hleft
      exact List.reverse_injective hleft
    · exact hclean.examined e (List.mem_reverse.mpr he)

theorem eq_of_key {e d : Entry} (he : e ∈ s.peerConnections.items)
    (hd : d ∈ s.peerConnections.items) (hkey : d.1 = e.1) : d = e :=
  s.peerConnections.eq_of_key hd he (congrArg BitVec.toNat hkey)

/-- When the loop examines every connection and leaves exactly those whose process is alive. -/
theorem loop_cleansUp_iff (h : WellKept s p) : CleansUp s p ↔ Undisturbed s p := by
  have hothers : ∀ c ∈ s.peerConnections.items.reverse, ∀ a ∈ s.peerConnections.items.reverse,
      ∀ b ∈ s.peerConnections.items.reverse, goesWith p c a = true → a ≠ c →
        goesWith p a b = true → b = a := by
    intro c hc a ha b hb hca hne hab
    rw [List.mem_reverse] at hc ha hb
    simp only [goesWith, decide_eq_true_eq] at hca hab
    have hmem : a.2 ∈ p.notifications c.2 :=
      hca.resolve_left fun hkey => hne (eq_of_key hc ha hkey)
    -- a notification connection has none itself
    exact eq_of_key ha hb (hab.resolve_right fun hb' => h.not_mem_notifications ha hc hb' hmem)
  rw [loop_cleansUp_iff_clean h, clean_iff goesWith_self hothers (by simp)]
  constructor
  · rintro ⟨hkeeps, hfirst⟩
    refine ⟨fun e he hdead d hd hmem => ?_, fun e he => ?_⟩
    · exact hkeeps e (List.mem_reverse.mpr he) hdead d (List.mem_reverse.mpr hd)
        (by simp [goesWith, hmem])
    · obtain ⟨l, hl⟩ := List.getLast?_eq_some_iff.mp he
      have hreverse : s.peerConnections.items.reverse = e :: l.reverse := by
        rw [hl, List.reverse_append, List.reverse_singleton, List.singleton_append]
      rw [hreverse] at hfirst
      refine hfirst.imp id fun hnil d hd => ?_
      exact without_eq_nil.mp hnil d (hreverse ▸ List.mem_reverse.mpr hd)
  · rintro ⟨hnotifications, hgreatest⟩
    refine ⟨fun c hc hdead a ha hgone => ?_, ?_⟩
    · rw [List.mem_reverse] at hc ha
      simp only [goesWith, decide_eq_true_eq] at hgone
      rcases hgone with hkey | hmem
      · rw [eq_of_key hc ha hkey]
        exact hdead
      · exact hnotifications c hc hdead a ha hmem
    · cases hl : s.peerConnections.items.reverse with
      | nil => trivial
      | cons e l =>
          have he : s.peerConnections.items.getLast? = some e := by
            rw [← List.head?_reverse, hl, List.head?_cons]
          refine (hgreatest e he).imp id fun hall => without_eq_nil.mpr fun d hd => ?_
          exact hall d (List.mem_reverse.mp (hl ▸ hd))

/-! ## Two processes -/

/-- One connection of each of two processes. -/
def twoPeers : NetlinkServer where
  serverSock := 3
  peerConnections := ⟨[(hashConnection 7 1, 0), (hashConnection 8 1, 1)], by decide⟩
  connections := fun c =>
    if c = 0 then some (.new 3 7 1) else if c = 1 then some (.new 3 8 1) else none
  log := []

/-- The given processes are alive, and no connection has sessions. -/
def onlyAlive (pids : List (BitVec 32)) : Peers where
  alive := fun pid => pid ∈ pids
  notifications := fun _ => []

theorem wellKept_twoPeers (pids : List (BitVec 32)) : WellKept twoPeers (onlyAlive pids) where
  entries := by
    intro e he
    rcases List.mem_cons.mp he with rfl | he
    · exact ⟨.new 3 7 1, rfl, rfl⟩
    · rw [List.mem_singleton.mp he]
      exact ⟨.new 3 8 1, rfl, rfl⟩
  notifications := fun _ _ _ hd => absurd hd List.not_mem_nil
  detached := fun _ _ _ _ _ => rfl
  nodup := fun _ _ => List.nodup_nil
  apart := fun _ _ _ _ _ _ hd => absurd hd List.not_mem_nil

/-- The process of the smaller key has died. -/
theorem loop_cleansUp_smaller : CleansUp twoPeers (onlyAlive [8]) := by
  refine (loop_cleansUp_iff (wellKept_twoPeers [8])).mpr ⟨?_, fun e he => Or.inl ?_⟩
  · intro e _ _ d _ hd
    cases hd
  · cases he
    decide

/-- Both have died, and the connection of the smaller key stays without having been examined. -/
theorem not_loop_cleansUp :
    WellKept twoPeers (onlyAlive []) ∧ ¬ CleansUp twoPeers (onlyAlive []) := by
  refine ⟨wellKept_twoPeers [], ?_⟩
  rintro ⟨r, hr, -, hpassed, -⟩
  have hrun : (cleanUp (onlyAlive []) 3 0 twoPeers [] []).map CleanedUp.passed =
      some [(hashConnection 7 1, 0)] := by decide
  rw [show twoPeers.peerConnections.items.length + 1 = 3 from rfl] at hr
  rw [hr, Option.map_some, hpassed] at hrun
  cases hrun

end CleanUps

end NetlinkServer

end Netlink

end Exynos8890.MobiCore
