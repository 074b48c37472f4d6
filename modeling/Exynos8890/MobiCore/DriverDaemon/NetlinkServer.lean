import Exynos8890.Library.OrderedTable
import Exynos8890.Library.TransitionSystem
import Exynos8890.MobiCore.TrustletSession

/-!
# Connections of the netlink server

The server keeps one connection object for each peer that sent it a message, in a map
whose key is computed from the pid and the sequence number of the netlink header.  A
message is handed to the connection found under the key of its sender, and what the
daemon answers goes to the peer that the connection was created for.

Main results:

- Theorem `hashConnection_eq_iff`: which peers share a key.
- Theorem `Routed.step`: a step keeps every connection under the key of its own peer and
  routes to it, as long as no two senders share a key.
- Theorem `keptApart_iff`: senders are kept apart, in their keys and in every run of the
  server, if and only if no two of them have one pid with its top bit set.
-/

namespace Exynos8890.MobiCore

namespace Netlink

/-! ## Keys -/

/-- The fields of a netlink header that name its sender. -/
@[ext]
structure Peer where
  pid : BitVec 32
  seq : BitVec 32
deriving DecidableEq

/-- `hashConnection`.  The parameter `pid` is a `pid_t`, so its conversion to the unsigned
key extends the sign. -/
def hashConnection (pid seq : BitVec 32) : BitVec 64 :=
  (seq.setWidth 64 <<< 32) ||| pid.signExtend 64

def Peer.hash (p : Peer) : BitVec 64 :=
  hashConnection p.pid p.seq

theorem getLsbD_hashConnection_low (pid seq : BitVec 32) {i : Nat} (hi : i < 32) :
    (hashConnection pid seq).getLsbD i = pid.getLsbD i := by
  have h64 : i < 64 := by omega
  rw [hashConnection, BitVec.getLsbD_or, BitVec.getLsbD_shiftLeft, BitVec.getLsbD_signExtend]
  simp only [hi, h64, decide_true, Bool.not_true, Bool.and_false, Bool.false_and, Bool.false_or,
    Bool.true_and, if_true]

theorem getLsbD_hashConnection_high (pid seq : BitVec 32) {i : Nat} (hi : i < 32) :
    (hashConnection pid seq).getLsbD (i + 32) = (seq.getLsbD i || pid.msb) := by
  have h64 : i + 32 < 64 := by omega
  have hle : ¬ i + 32 < 32 := by omega
  rw [hashConnection, BitVec.getLsbD_or, BitVec.getLsbD_shiftLeft, BitVec.getLsbD_signExtend,
    Nat.add_sub_cancel, BitVec.getLsbD_setWidth]
  simp only [hle, h64, hi.trans (by norm_num : 32 < 64), decide_true, decide_false, Bool.not_false,
    Bool.true_and, if_false]

theorem hashConnection_eq_iff {pid pid' seq seq' : BitVec 32} :
    hashConnection pid seq = hashConnection pid' seq' ↔
      pid = pid' ∧ (seq = seq' ∨ pid.msb = true) := by
  constructor
  · intro h
    have hpid : pid = pid' := by
      apply BitVec.eq_of_getLsbD_eq
      intro i hi
      rw [← getLsbD_hashConnection_low pid seq hi, h, getLsbD_hashConnection_low pid' seq' hi]
    subst hpid
    refine ⟨rfl, ?_⟩
    cases hmsb : pid.msb with
    | true => exact Or.inr rfl
    | false =>
        left
        apply BitVec.eq_of_getLsbD_eq
        intro i hi
        have hbit := getLsbD_hashConnection_high pid seq hi
        rw [h, getLsbD_hashConnection_high pid seq' hi, hmsb, Bool.or_false, Bool.or_false] at hbit
        exact hbit.symm
  · rintro ⟨rfl, rfl | hmsb⟩
    · rfl
    · apply BitVec.eq_of_getLsbD_eq
      intro i hi
      by_cases hlow : i < 32
      · rw [getLsbD_hashConnection_low pid seq hlow, getLsbD_hashConnection_low pid seq' hlow]
      · obtain ⟨j, rfl⟩ : ∃ j, i = j + 32 := ⟨i - 32, by omega⟩
        have hj : j < 32 := by omega
        rw [getLsbD_hashConnection_high pid seq hj, getLsbD_hashConnection_high pid seq' hj, hmsb,
          Bool.or_true, Bool.or_true]

/-- Two peers get one key although they differ. -/
def Clash (p q : Peer) : Prop :=
  p ≠ q ∧ p.pid = q.pid ∧ p.pid.msb = true

instance (p q : Peer) : Decidable (Clash p q) :=
  inferInstanceAs (Decidable (_ ∧ _))

theorem hash_ne_iff {p q : Peer} (hne : p ≠ q) : p.hash ≠ q.hash ↔ ¬ Clash p q := by
  rw [Peer.hash, Peer.hash, Ne, hashConnection_eq_iff, not_iff_not]
  constructor
  · rintro ⟨hpid, hseq | hmsb⟩
    · exact absurd (Peer.ext hpid hseq) hne
    · exact ⟨hne, hpid, hmsb⟩
  · rintro ⟨_, hpid, hmsb⟩
    exact ⟨hpid, Or.inr hmsb⟩

/-! ## The server -/

/-- `struct nlmsghdr` with the payload behind it: `nlmsg_pid` and `nlmsg_seq` are the
sender. -/
structure Nlmsghdr where
  sender : Peer
  payload : List UInt8
deriving DecidableEq

structure NetlinkConnection where
  socketDescriptor : Int
  peerPid : BitVec 32
  sequenceMagic : BitVec 32
  hash : BitVec 64
  detached : Bool
  connectionData : Option Nat
deriving DecidableEq

/-- What `writeData` sends: the destination of the packet, the sequence number in its
header, and the payload. -/
structure Packet where
  nlPid : BitVec 32
  nlmsgSeq : BitVec 32
  payload : List UInt8
deriving DecidableEq

namespace NetlinkConnection

/-- `NetlinkConnection::NetlinkConnection(manager, socketDescriptor, pid, seq)`. -/
def new (socketDescriptor : Int) (pid seq : BitVec 32) : NetlinkConnection where
  socketDescriptor := socketDescriptor
  peerPid := pid
  sequenceMagic := seq
  hash := hashConnection pid seq
  detached := false
  connectionData := none

/-- The peer that the connection was created for. -/
def peer (connection : NetlinkConnection) : Peer :=
  ⟨connection.peerPid, connection.sequenceMagic⟩

/-- `NetlinkConnection::writeData`. -/
def writeData (connection : NetlinkConnection) (buffer : List UInt8) : Packet where
  nlPid := connection.peerPid
  nlmsgSeq := connection.sequenceMagic
  payload := buffer

end NetlinkConnection

/-- What the server and the daemon behind it did with a message. -/
inductive Event where
  /-- `NetlinkConnection::handleMessage` took the message over. -/
  | appended (nlh : Nlmsghdr) (connection : NetlinkConnection)
  /-- A command in the message was answered. -/
  | replied (nlh : Nlmsghdr) (packet : Packet)
deriving DecidableEq

/-- The message stayed with its sender. -/
def Event.Own : Event → Prop
  | .appended nlh connection => connection.peer = nlh.sender
  | .replied nlh packet => packet.nlPid = nlh.sender.pid ∧ packet.nlmsgSeq = nlh.sender.seq

instance (e : Event) : Decidable e.Own := by
  cases e <;> unfold Event.Own <;> infer_instance

/-- An entry of `connectionMap_t`, which is ordered by the key. -/
abbrev mapKey (entry : BitVec 64 × ConnPtr) : Nat :=
  entry.1.toNat

/-- The server, the connection objects that exist, and the log of what it did. -/
structure NetlinkServer where
  serverSock : Int
  peerConnections : OrderedTable mapKey
  connections : ConnPtr → Option NetlinkConnection
  log : List Event

namespace NetlinkServer

/-- A server that listens and has no peers yet. -/
def listening (serverSock : Int) : NetlinkServer where
  serverSock := serverSock
  peerConnections := .empty
  connections := fun _ => none
  log := []

def findConnection (s : NetlinkServer) (hash : BitVec 64) : Option ConnPtr :=
  (s.peerConnections.find? hash.toNat).map Prod.snd

/-- `peerConnections[hash] = connection`. -/
def insertConnection (s : NetlinkServer) (hash : BitVec 64) (c : ConnPtr) : NetlinkServer :=
  { s with peerConnections := ((s.peerConnections.erase hash.toNat).emplace (hash, c)).1 }

theorem items_insertConnection (s : NetlinkServer) (hash : BitVec 64) (c : ConnPtr) :
    (s.insertConnection hash c).peerConnections.items =
      OrderedTable.insertItem mapKey (hash, c) (s.peerConnections.erase hash.toNat).items := by
  have hempty : (s.peerConnections.erase hash.toNat).contains (mapKey (hash, c)) = false := by
    rw [OrderedTable.contains_erase, decide_eq_false (fun hne => hne rfl), Bool.false_and]
  exact OrderedTable.items_emplace_of_not_contains hempty

def removeConnection (s : NetlinkServer) (hash : BitVec 64) : NetlinkServer :=
  { s with peerConnections := s.peerConnections.erase hash.toNat }

/-- Assign members of a connection object. -/
def assign (s : NetlinkServer) (c : ConnPtr) (connection : NetlinkConnection) : NetlinkServer :=
  { s with connections := Function.update s.connections c (some connection) }

@[simp]
theorem assign_self (s : NetlinkServer) (c : ConnPtr) (connection : NetlinkConnection) :
    (s.assign c connection).connections c = some connection :=
  Function.update_self c _ _

theorem assign_of_ne (s : NetlinkServer) {c c' : ConnPtr} (hne : c' ≠ c)
    (connection : NetlinkConnection) :
    (s.assign c connection).connections c' = s.connections c' :=
  Function.update_of_ne hne _ _

def record (s : NetlinkServer) (events : List Event) : NetlinkServer :=
  { s with log := s.log ++ events }

/-- `delete connection`: the destructor takes its hash out of the map. -/
def delete (s : NetlinkServer) (c : ConnPtr) : NetlinkServer :=
  match s.connections c with
  | none => s
  | some connection =>
      { s.removeConnection connection.hash with
        connections := Function.update s.connections c none }

theorem delete_of_some {s : NetlinkServer} {c : ConnPtr} {connection : NetlinkConnection}
    (h : s.connections c = some connection) :
    s.delete c = { s.removeConnection connection.hash with
      connections := Function.update s.connections c none } := by
  rw [delete, h]

/-- The device deletes the notification connections of the sessions that it closes. -/
def deleteAll (s : NetlinkServer) (cs : List ConnPtr) : NetlinkServer :=
  cs.foldl delete s

/-! ### Peers that died -/

/-- One walk of `cleanupConnections` over the map: which processes `kill` finds alive, and
the connections that the device deletes when the first dead one is dropped. -/
structure Walk where
  alive : ConnPtr → Bool
  dropped : List ConnPtr

/-- Only 16 bits are for the actual PID, the rest is session magic. -/
def died (s : NetlinkServer) (walk : Walk) (c : ConnPtr) : Bool :=
  match s.connections c with
  | none => false
  | some connection => connection.peerPid &&& 0xFFFF#32 ≠ 0 && !walk.alive c

/-- The body of the loop for an entry whose process has died. -/
def dropDead (s : NetlinkServer) (walk : Walk) (c : ConnPtr) : Option NetlinkServer := do
  let connection ← s.connections c
  let s := (s.assign c { connection with socketDescriptor := -1 }).deleteAll walk.dropped
  let dropped ← s.connections c
  let s := s.removeConnection dropped.hash
  -- the detached connections are managed by the device
  some (if connection.detached then s else s.delete c)

/-- The loop of `cleanupConnections` from the entry after `skip` ones at the end of the
map.  Behind a removal the iterator is set to the last entry and then advanced. -/
def cleanupFrom (s : NetlinkServer) (skip : Nat) : List Walk → Option NetlinkServer
  | [] => some s
  | walk :: walks =>
      match (s.peerConnections.items.reverse.drop skip).find? fun e => s.died walk e.2 with
      | none => some s
      | some (_, c) => do
          let s ← s.dropDead walk c
          if s.peerConnections.items = [] then some s else s.cleanupFrom 1 walks

def cleanupConnections (s : NetlinkServer) (walks : List Walk) : Option NetlinkServer :=
  s.cleanupFrom 0 walks

/-! ### Messages -/

/-- What `handleConnection` and `dropConnection` do with the connection of a message. -/
structure Handled where
  processed : Bool
  detached : Bool
  connectionData : Option Nat
  replies : List (List UInt8)
  deleted : List ConnPtr
  dropped : List ConnPtr

/-- The connection found under the key, or the new one at the address `fresh`. -/
def connectionOf (s : NetlinkServer) (sender : Peer) (fresh : ConnPtr) :
    Option (NetlinkServer × ConnPtr) :=
  match s.findConnection sender.hash with
  | some c => some (s, c)
  | none =>
      match s.connections fresh with
      | some _ => none
      | none =>
          some ((s.assign fresh (.new s.serverSock sender.pid sender.seq)).insertConnection
            sender.hash fresh, fresh)

/-- What `handleMessage` does behind the call of `handleConnection`. -/
def settle (s : NetlinkServer) (hash : BitVec 64) (c : ConnPtr) (handled : Handled) :
    Option NetlinkServer := do
  let connection ← s.connections c
  if handled.processed = false then
    let s := (s.assign c { connection with socketDescriptor := -1 }).deleteAll handled.dropped
    let s := s.removeConnection hash
    let connection ← s.connections c
    some ((s.assign c { connection with socketDescriptor := -1 }).delete c)
  else if connection.connectionData = none ∧ connection.detached = false then
    some (s.delete c)
  else
    some s

/-- `NetlinkServer::handleMessage`. -/
def handleMessage (s : NetlinkServer) (nlh : Nlmsghdr) (walks : List Walk) (fresh : ConnPtr)
    (handled : Handled) : Option NetlinkServer := do
  let hash := nlh.sender.hash
  let s ← s.cleanupConnections walks
  let (s, c) ← s.connectionOf nlh.sender fresh
  let connection ← s.connections c
  let s := s.record [.appended nlh connection]
  if connection.detached then some s
  else
    let s := s.record (handled.replies.map fun buffer => .replied nlh (connection.writeData buffer))
    let s := s.assign c { connection with
      detached := handled.detached, connectionData := handled.connectionData }
    (s.deleteAll handled.deleted).settle hash c handled

/-! ### Runs -/

inductive Label where
  /-- A message that `run` receives, with all choices of the environment. -/
  | received (nlh : Nlmsghdr) (walks : List Walk) (fresh : ConnPtr) (handled : Handled)
  /-- The device deletes a connection from another thread. -/
  | deleted (c : ConnPtr)

/-- The label brings no message but from these peers. -/
def Label.From (peers : Set Peer) : Label → Prop
  | .received nlh _ _ _ => nlh.sender ∈ peers
  | .deleted _ => True

def step (s : NetlinkServer) : Label → Option NetlinkServer
  | .received nlh walks fresh handled => s.handleMessage nlh walks fresh handled
  | .deleted c => some (s.delete c)

/-- The server over the messages that it receives. -/
def system : TransitionSystem NetlinkServer Label where
  step := step

/-! ## Routing -/

/-- Every entry of the map is a connection under the key of the peer that it was created
for, every such peer is a sender, and every message stayed with its sender. -/
structure Routed (peers : Set Peer) (s : NetlinkServer) : Prop where
  entries : ∀ e ∈ s.peerConnections.items,
    ∃ connection, s.connections e.2 = some connection ∧ connection.hash = e.1
  created : ∀ c connection, s.connections c = some connection →
    connection.hash = connection.peer.hash ∧ connection.peer ∈ peers
  own : ∀ e ∈ s.log, e.Own

section Preservation

variable {peers : Set Peer} {s : NetlinkServer}

theorem routed_listening (serverSock : Int) : Routed peers (listening serverSock) where
  entries := fun _ he => absurd he List.not_mem_nil
  created := fun _ _ h => absurd h.symm (Option.some_ne_none _)
  own := fun _ he => absurd he List.not_mem_nil

theorem Routed.removeConnection (h : Routed peers s) (hash : BitVec 64) :
    Routed peers (s.removeConnection hash) where
  entries := fun e he => h.entries e (List.mem_of_mem_filter he)
  created := h.created
  own := h.own

theorem Routed.record (h : Routed peers s) {events : List Event} (hown : ∀ e ∈ events, e.Own) :
    Routed peers (s.record events) where
  entries := h.entries
  created := h.created
  own := by
    intro e he
    rcases List.mem_append.mp he with he | he
    · exact h.own e he
    · exact hown e he

theorem Routed.assign (h : Routed peers s) {c : ConnPtr} {old new : NetlinkConnection}
    (hold : s.connections c = some old) (hhash : new.hash = old.hash) (hpeer : new.peer = old.peer) :
    Routed peers (s.assign c new) where
  entries := by
    intro e he
    obtain ⟨connection, hconn, hkey⟩ := h.entries e he
    by_cases hc : e.2 = c
    · rw [hc, hold, Option.some.injEq] at hconn
      exact ⟨new, hc ▸ s.assign_self c new, by rw [hhash, hconn, hkey]⟩
    · exact ⟨connection, (s.assign_of_ne hc new).trans hconn, hkey⟩
  created := by
    intro c' connection hconn
    by_cases hc : c' = c
    · rw [hc, assign_self, Option.some.injEq] at hconn
      rw [← hconn, hhash, hpeer]
      exact h.created c old hold
    · exact h.created c' connection ((s.assign_of_ne hc new).symm.trans hconn)
  own := h.own

/-- The destructor leaves no entry behind that points to the deleted connection. -/
theorem Routed.delete (h : Routed peers s) (c : ConnPtr) : Routed peers (s.delete c) := by
  cases hconn : s.connections c with
  | none =>
      rw [NetlinkServer.delete, hconn]
      exact h
  | some connection =>
      rw [delete_of_some hconn]
      refine ⟨?_, ?_, h.own⟩
      · intro e he
        obtain ⟨hmem, hkey⟩ := List.mem_filter.mp he
        obtain ⟨found, hfound, hhash⟩ := h.entries e hmem
        have hne : e.2 ≠ c := by
          intro hc
          rw [hc, hconn, Option.some.injEq] at hfound
          rw [hfound, hhash] at hkey
          simp at hkey
        exact ⟨found, (Function.update_of_ne hne _ _).trans hfound, hhash⟩
      · intro c' found hfound
        by_cases hc : c' = c
        · rw [hc] at hfound
          exact absurd ((Function.update_self c _ _).symm.trans hfound).symm
            (Option.some_ne_none found)
        · exact h.created c' found ((Function.update_of_ne hc _ _).symm.trans hfound)

theorem Routed.deleteAll (h : Routed peers s) (cs : List ConnPtr) :
    Routed peers (s.deleteAll cs) := by
  induction cs generalizing s with
  | nil => exact h
  | cons c cs ih => exact ih (h.delete c)

theorem Routed.dropDead (h : Routed peers s) {walk : Walk} {c : ConnPtr} {t : NetlinkServer}
    (hdrop : s.dropDead walk c = some t) : Routed peers t := by
  obtain ⟨connection, hconn, hdrop⟩ := Option.bind_eq_some_iff.mp hdrop
  obtain ⟨dropped, _, hdrop⟩ := Option.bind_eq_some_iff.mp hdrop
  have hclosed : Routed peers (s.assign c { connection with socketDescriptor := -1 }) :=
    h.assign hconn rfl rfl
  have hgone := (hclosed.deleteAll walk.dropped).removeConnection dropped.hash
  rw [← Option.some.inj hdrop]
  split
  · exact hgone
  · exact hgone.delete c

/-- Dropping the connections of dead peers, by induction over the walks. -/
theorem Routed.cleanupFrom (h : Routed peers s) {skip : Nat} {walks : List Walk}
    {t : NetlinkServer} (hrun : s.cleanupFrom skip walks = some t) : Routed peers t := by
  induction walks generalizing s skip with
  | nil =>
      rw [NetlinkServer.cleanupFrom, Option.some.injEq] at hrun
      rwa [← hrun]
  | cons walk walks ih =>
      rw [NetlinkServer.cleanupFrom] at hrun
      split at hrun
      · cases hrun
        exact h
      · obtain ⟨left, hdrop, hrun⟩ := Option.bind_eq_some_iff.mp hrun
        have hleft := h.dropDead hdrop
        split at hrun
        · cases hrun
          exact hleft
        · exact ih hleft hrun

/-- A new connection under the key of the peer that it is created for. -/
theorem Routed.create (h : Routed peers s) {sender : Peer} (hsender : sender ∈ peers)
    {fresh : ConnPtr} (hfresh : s.connections fresh = none) :
    Routed peers ((s.assign fresh (.new s.serverSock sender.pid sender.seq)).insertConnection
      sender.hash fresh) where
  entries := by
    intro e he
    rw [items_insertConnection] at he
    rcases OrderedTable.mem_insertItem.mp he with rfl | he
    · exact ⟨_, s.assign_self fresh _, rfl⟩
    · obtain ⟨connection, hconn, hkey⟩ := h.entries e (List.mem_of_mem_filter he)
      have hne : e.2 ≠ fresh := by
        intro hc
        rw [hc, hfresh] at hconn
        cases hconn
      exact ⟨connection, (s.assign_of_ne hne _).trans hconn, hkey⟩
  created := by
    intro c connection hconn
    by_cases hc : c = fresh
    · have hnew : some (NetlinkConnection.new s.serverSock sender.pid sender.seq) =
          some connection := by
        rw [← s.assign_self fresh, ← hconn, hc]
        rfl
      cases hnew
      exact ⟨rfl, hsender⟩
    · exact h.created c connection ((s.assign_of_ne hc _).symm.trans hconn)
  own := h.own

/-- The message meets a connection that was created for its sender. -/
theorem Routed.connectionOf (h : Routed peers s) (hpeers : peers.Pairwise fun p q => ¬ Clash p q)
    {sender : Peer} (hsender : sender ∈ peers) {fresh c : ConnPtr} {t : NetlinkServer}
    (hfind : s.connectionOf sender fresh = some (t, c)) :
    Routed peers t ∧ ∃ connection, t.connections c = some connection ∧ connection.peer = sender := by
  rw [NetlinkServer.connectionOf] at hfind
  split at hfind
  · rename_i found hfound
    rw [Option.some.injEq, Prod.mk.injEq] at hfind
    obtain ⟨rfl, rfl⟩ := hfind
    obtain ⟨e, he, rfl⟩ := Option.map_eq_some_iff.mp hfound
    obtain ⟨connection, hconn, hkey⟩ := h.entries e (List.mem_of_find?_eq_some he)
    have hhash : e.1 = sender.hash := by
      apply BitVec.eq_of_toNat_eq
      simpa using List.find?_some he
    obtain ⟨hown, hmem⟩ := h.created e.2 connection hconn
    refine ⟨h, connection, hconn, ?_⟩
    by_contra hne
    refine (hash_ne_iff hne).mpr (hpeers hmem hsender hne) ?_
    rw [← hown, hkey, hhash]
  · split at hfind
    · cases hfind
    · rename_i hfound hfresh
      rw [Option.some.injEq, Prod.mk.injEq] at hfind
      obtain ⟨rfl, rfl⟩ := hfind
      exact ⟨h.create hsender hfresh, _, s.assign_self fresh _, rfl⟩

theorem Routed.settle (h : Routed peers s) {hash : BitVec 64} {c : ConnPtr} {handled : Handled}
    {t : NetlinkServer} (hsettle : s.settle hash c handled = some t) : Routed peers t := by
  obtain ⟨connection, hconn, hsettle⟩ := Option.bind_eq_some_iff.mp hsettle
  dsimp only at hsettle
  split at hsettle
  · obtain ⟨left, hleft, hsettle⟩ := Option.bind_eq_some_iff.mp hsettle
    have hclosed : Routed peers (s.assign c { connection with socketDescriptor := -1 }) :=
      h.assign hconn rfl rfl
    have hgone := (hclosed.deleteAll handled.dropped).removeConnection hash
    rw [← Option.some.inj hsettle]
    refine Routed.delete ?_ c
    exact hgone.assign hleft rfl rfl
  · split at hsettle
    · rw [← Option.some.inj hsettle]
      exact h.delete c
    · rw [← Option.some.inj hsettle]
      exact h

theorem Routed.handleMessage (h : Routed peers s)
    (hpeers : peers.Pairwise fun p q => ¬ Clash p q) {nlh : Nlmsghdr} (hsender : nlh.sender ∈ peers)
    {walks : List Walk} {fresh : ConnPtr} {handled : Handled} {t : NetlinkServer}
    (hrun : s.handleMessage nlh walks fresh handled = some t) : Routed peers t := by
  obtain ⟨cleaned, hcleaned, hrun⟩ := Option.bind_eq_some_iff.mp hrun
  obtain ⟨⟨found, c⟩, hfind, hrun⟩ := Option.bind_eq_some_iff.mp hrun
  obtain ⟨connection, hconn, hrun⟩ := Option.bind_eq_some_iff.mp hrun
  have hfound := (h.cleanupFrom hcleaned).connectionOf hpeers hsender hfind
  obtain ⟨hrouted, connection', hconn', hpeer⟩ := hfound
  cases hconn.symm.trans hconn'
  have happended : Routed peers (found.record [.appended nlh connection]) := by
    apply hrouted.record
    intro e he
    rw [List.mem_singleton.mp he]
    exact hpeer
  dsimp only at hrun
  split at hrun
  · rw [← Option.some.inj hrun]
    exact happended
  · have hreplied : Routed peers ((found.record [.appended nlh connection]).record
        (handled.replies.map fun buffer => .replied nlh (connection.writeData buffer))) := by
      apply happended.record
      intro e he
      obtain ⟨buffer, _, rfl⟩ := List.mem_map.mp he
      exact ⟨congrArg Peer.pid hpeer, congrArg Peer.seq hpeer⟩
    refine Routed.settle (Routed.deleteAll ?_ handled.deleted) hrun
    exact hreplied.assign hconn rfl rfl

/-- Every step routes, whatever peers die and whatever the daemon answers. -/
theorem Routed.step (h : Routed peers s) (hpeers : peers.Pairwise fun p q => ¬ Clash p q)
    {l : Label} (hl : l.From peers) {t : NetlinkServer} (hstep : system.step s l = some t) :
    Routed peers t := by
  cases l with
  | received nlh walks fresh handled => exact h.handleMessage hpeers hl hstep
  | deleted c =>
      rw [← Option.some.inj hstep]
      exact h.delete c

/-- In every run each message is appended to the connection of its own sender, and so are
the replies to it sent. -/
theorem own_of_run (hpeers : peers.Pairwise fun p q => ¬ Clash p q) {serverSock : Int}
    {ls : List Label} (hls : ∀ l ∈ ls, l.From peers) {t : NetlinkServer}
    (hrun : system.run (listening serverSock) ls = some t) : ∀ e ∈ t.log, e.Own :=
  (TransitionSystem.run_invariant (fun _ _ _ h hl hstep => h.step hpeers hl hstep)
    (routed_listening serverSock) (TransitionSystem.stepsMeet_of_labels hls) hrun).own

end Preservation

/-! ## Senders with one key -/

/-- A message that the daemon processes without a reply, while every process is alive. -/
def plain (nlh : Nlmsghdr) (device : Nat) : Label :=
  .received nlh [] 0
    { processed := true
      detached := false
      connectionData := some device
      replies := []
      deleted := []
      dropped := [] }

theorem step_plain {s found : NetlinkServer} {nlh : Nlmsghdr} {c : ConnPtr}
    {connection : NetlinkConnection} (device : Nat)
    (hfind : s.connectionOf nlh.sender 0 = some (found, c))
    (hconn : found.connections c = some connection) (hdetached : connection.detached = false) :
    system.step s (plain nlh device) = some ((found.record [.appended nlh connection]).assign c
      { connection with detached := false, connectionData := some device }) := by
  simp [system, step, plain, handleMessage, cleanupConnections, cleanupFrom, hfind, hconn,
    hdetached, settle, deleteAll, record]

theorem step_plain_listening (serverSock : Int) (nlh : Nlmsghdr) (device : Nat) :
    ∃ t, system.step (listening serverSock) (plain nlh device) = some t ∧
      t.findConnection nlh.sender.hash = some 0 ∧
      ∃ connection, t.connections 0 = some connection ∧ connection.detached = false ∧
        connection.peer = nlh.sender := by
  have hcreated : ((listening serverSock).insertConnection nlh.sender.hash 0).findConnection
      nlh.sender.hash = some 0 := by
    rw [findConnection, OrderedTable.find?, items_insertConnection]
    simp [listening, OrderedTable.erase, OrderedTable.empty, OrderedTable.insertItem]
  have hconn := assign_self (listening serverSock) 0
    (.new serverSock nlh.sender.pid nlh.sender.seq)
  exact ⟨_, step_plain device rfl hconn rfl, hcreated, _, assign_self _ 0 _, rfl, rfl⟩

/-- The second of two senders with one key meets the connection of the first. -/
theorem run_plain_plain (serverSock : Int) {first second : Nlmsghdr} (device : Nat)
    (hhash : first.sender.hash = second.sender.hash) :
    ∃ t, system.run (listening serverSock) [plain first device, plain second device] = some t ∧
      ∃ connection, connection.peer = first.sender ∧ .appended second connection ∈ t.log := by
  obtain ⟨m, hm, hfound, connection, hconn, hdetached, hpeer⟩ :=
    step_plain_listening serverSock first device
  have hmet : m.connectionOf second.sender 0 = some (m, 0) := by
    rw [connectionOf, ← hhash, hfound]
  have hsecond := step_plain device hmet hconn hdetached
  have hrest := system.run_cons_eq_some.mpr ⟨_, hsecond, system.run_nil _⟩
  have hrun := system.run_cons_eq_some.mpr ⟨m, hm, hrest⟩
  exact ⟨_, hrun, connection, hpeer, List.mem_append_right _ List.mem_cons_self⟩

/-! ## Peers are kept apart -/

/-- The keys of the senders differ. -/
def KeysDiffer (peers : Set Peer) : Prop :=
  ∀ p ∈ peers, ∀ q ∈ peers, p ≠ q → p.hash ≠ q.hash

/-- In every run with messages of these senders alone, each is appended to the connection
of its own sender, and so are the replies to it sent. -/
def RunsRouted (peers : Set Peer) : Prop :=
  ∀ (serverSock : Int) (ls : List Label), (∀ l ∈ ls, l.From peers) →
    ∀ t, system.run (listening serverSock) ls = some t → ∀ e ∈ t.log, e.Own

/-- No two of the senders have one pid with its top bit set. -/
def NoClash (peers : Set Peer) : Prop :=
  ∀ p ∈ peers, ∀ q ∈ peers, p ≠ q → ¬ (p.pid = q.pid ∧ p.pid.msb = true)

theorem noClash_iff_pairwise {peers : Set Peer} :
    NoClash peers ↔ peers.Pairwise fun p q => ¬ Clash p q := by
  constructor
  · intro h p hp q hq hne hclash
    exact h p hp q hq hne hclash.2
  · intro h p hp q hq hne hclash
    exact h hp hq hne ⟨hne, hclash⟩

theorem keysDiffer_iff {peers : Set Peer} : KeysDiffer peers ↔ NoClash peers := by
  rw [noClash_iff_pairwise]
  constructor
  · intro h p hp q hq hne
    exact (hash_ne_iff hne).mp (h p hp q hq hne)
  · intro h p hp q hq hne
    exact (hash_ne_iff hne).mpr (h hp hq hne)

/-- Two senders with one key do not stay apart in the run of one message of each. -/
theorem RunsRouted.keysDiffer {peers : Set Peer} (h : RunsRouted peers) : KeysDiffer peers := by
  intro p hp q hq hne hhash
  obtain ⟨t, ht, connection, hpeer, hmem⟩ := @run_plain_plain 3 ⟨p, []⟩ ⟨q, []⟩ 0 hhash
  have hfrom : ∀ l ∈ [plain ⟨p, []⟩ 0, plain ⟨q, []⟩ 0], l.From peers := by
    intro l hl
    rcases List.mem_cons.mp hl with rfl | hl
    · exact hp
    · rw [List.mem_singleton.mp hl]
      exact hq
  have hown : connection.peer = q := h 3 _ hfrom t ht _ hmem
  exact hne (hpeer.symm.trans hown)

/-- The senders are kept apart, in their keys and in every run of the server, if and only
if no two of them have one pid with its top bit set. -/
theorem keptApart_iff (peers : Set Peer) :
    (KeysDiffer peers ↔ NoClash peers) ∧ (RunsRouted peers ↔ NoClash peers) := by
  refine ⟨keysDiffer_iff, ?_, ?_⟩
  · intro h
    exact keysDiffer_iff.mp h.keysDiffer
  · intro h serverSock ls hls t hrun
    exact own_of_run (noClash_iff_pairwise.mp h) hls hrun

/-- Two sessions of one process whose session magic sets the top bit of the pid. -/
theorem not_keptApart :
    ∃ p q : Peer, p ≠ q ∧ p.hash = q.hash ∧
      ∃ t, system.run (listening 3) [plain ⟨p, []⟩ 0, plain ⟨q, []⟩ 0] = some t ∧
        ¬ ∀ e ∈ t.log, e.Own := by
  have hne : (⟨0x80000001, 1⟩ : Peer) ≠ ⟨0x80000001, 2⟩ := by decide
  have hhash : (⟨0x80000001, 1⟩ : Peer).hash = (⟨0x80000001, 2⟩ : Peer).hash := by decide
  obtain ⟨t, ht, connection, hpeer, hmem⟩ :=
    @run_plain_plain 3 ⟨⟨0x80000001, 1⟩, []⟩ ⟨⟨0x80000001, 2⟩, []⟩ 0 hhash
  refine ⟨_, _, hne, hhash, t, ht, ?_⟩
  intro hown
  have hsame : connection.peer = (⟨0x80000001, 2⟩ : Peer) := hown _ hmem
  exact hne (hpeer.symm.trans hsame)

end NetlinkServer

end Netlink

end Exynos8890.MobiCore
