/-
Module: PeerCache.Proofs.Peer.Pick
Purpose: Which peer a pool picks for a key, once it has been told its peers.
Main exports:
  PeerPool.ownerAmong, PeerPool.reach, PeerPool.Knows, PeerPool.Knows.pick?_eq_none_iff,
  PeerPool.Knows.pick?_eq_some_iff
-/
import PeerCache.Peer.Pool
import PeerCache.Proofs.Ring.Ownership

/-!
A pool that was told its peers picks nobody for the keys that it owns itself, and for any
other key the transport to the owner: the ring and the transports are made from one list, so
every owner has its transport.  Which peers were known before makes no difference.
-/

namespace PeerCache

/-- Without its repetitions a list has none. -/
theorem nodup_eraseDups (names : List String) : names.eraseDups.Nodup := by
  match names with
  | [] => exact List.nodup_nil
  | first :: rest =>
      rw [List.eraseDups_cons, List.nodup_cons]
      constructor
      · simp [List.mem_eraseDups]
      · exact nodup_eraseDups (rest.filter fun name => !name == first)
termination_by names.length
decreasing_by
  exact Nat.lt_succ_of_le (List.length_filter_le _ rest)

namespace Topology

variable {options : PoolOptions} {fingerprint peer : String} {peers : List String}
  {transport : Transport}

theorem mem_transports_iff :
    (peer, transport) ∈ (ofPeers options fingerprint peers).transports ↔
      peer ∈ peers ∧ transport = transportTo options fingerprint peer := by
  simp only [ofPeers, (orderByRank_perm _).mem_iff, transportsTo, List.mem_map,
    List.mem_eraseDups, Prod.mk.injEq]
  grind

/-- Where every name comes with the one transport to it, a name that is there is found with
this transport. -/
theorem lookup_of_mem (reach : String → Transport) {entries : List (String × Transport)}
    (own : ∀ entry ∈ entries, entry.2 = reach entry.1) (member : (peer, transport) ∈ entries) :
    entries.lookup peer = some (reach peer) := by
  induction entries with
  | nil => cases member
  | cons entry rest hyp =>
      obtain ⟨name, other⟩ := entry
      rw [List.lookup_cons]
      by_cases same : peer = name
      · subst same
        have isOwn : other = reach peer := own (peer, other) List.mem_cons_self
        simp [isOwn]
      · have differs : (peer == name) = false := by simpa using same
        have inRest : (peer, transport) ∈ rest := by simpa [same] using member
        simp only [differs]
        exact hyp (fun entry here => own entry (List.mem_cons_of_mem _ here)) inRest

/-- Every peer is reached over the transport to it. -/
theorem lookup_transports (member : peer ∈ peers) :
    (ofPeers options fingerprint peers).transports.lookup peer =
      some (transportTo options fingerprint peer) := by
  apply lookup_of_mem (transportTo options fingerprint)
  · rintro ⟨name, other⟩ here
    exact (mem_transports_iff.mp here).2
  · exact mem_transports_iff.mpr ⟨member, rfl⟩

end Topology

namespace PeerPool

/-- The owner of a key among peers, with the given settings. -/
def ownerAmong (options : PoolOptions) (peers : List String) (key : String) : Option String :=
  ((Ring.empty options.normalized.replicas options.hash).add peers).owner? key

/-- How every pool with the given settings reaches a peer. -/
def reach (options : PoolOptions) (peer : String) : Transport :=
  Topology.transportTo options.normalized (fingerprintOf options.normalized) peer

/-- The pool has the given settings, and was last told these peers. -/
def Knows (pool : PeerPool) (options : PoolOptions) (peers : List String) : Prop :=
  pool = (new pool.selfUrl options).set peers

variable {pool : PeerPool} {options : PoolOptions} {peers : List String} {key owner : String}

theorem knows_set_new (selfUrl : String) (options : PoolOptions) (peers : List String) :
    ((new selfUrl options).set peers).Knows options peers := rfl

/-- Peers that were known before do not matter. -/
theorem Knows.set (knows : pool.Knows options peers) (other : List String) :
    (pool.set other).Knows options other := by
  rw [Knows, knows]
  rfl

/-- There is always at least one replica. -/
theorem normalized_replicas_pos (options : PoolOptions) : 0 < options.normalized.replicas := by
  unfold PoolOptions.normalized
  dsimp only
  split
  · decide
  · omega

theorem ownerAmong_mem (found : ownerAmong options peers key = some owner) : owner ∈ peers :=
  Ring.owner_mem found

theorem exists_ownerAmong (options : PoolOptions) (some_peer : peers ≠ []) (key : String) :
    ∃ owner, ownerAmong options peers key = some owner :=
  Ring.exists_owner (normalized_replicas_pos options) some_peer key

namespace Knows

theorem owner? (knows : pool.Knows options peers) (key : String) :
    pool.topology.ring.owner? key = ownerAmong options peers key := by
  rw [knows]
  rfl

/-- What a pool picks, by the owner of the key. -/
theorem pick? (knows : pool.Knows options peers) (key : String) :
    pool.pick? key = (ownerAmong options peers key).bind fun owner =>
      if owner = pool.selfUrl then none else some (reach options owner) := by
  rw [PeerPool.pick?, knows.owner? key]
  cases found : ownerAmong options peers key with
  | none => rfl
  | some owner =>
      have lookup : pool.topology.transports.lookup owner = some (reach options owner) := by
        rw [knows]
        exact Topology.lookup_transports (ownerAmong_mem found)
      simp only [Option.bind_some, lookup]

/-- Nobody is picked exactly for the keys that the node owns, or that nobody does. -/
theorem pick?_eq_none_iff (knows : pool.Knows options peers) :
    pool.pick? key = none ↔
      ∀ owner, ownerAmong options peers key = some owner → owner = pool.selfUrl := by
  rw [knows.pick?]
  cases ownerAmong options peers key with
  | none => simp
  | some owner => simp

/-- Somebody is picked exactly if another peer owns the key, and then it is that one. -/
theorem pick?_eq_some_iff (knows : pool.Knows options peers) {transport : Transport} :
    pool.pick? key = some transport ↔
      ∃ owner, ownerAmong options peers key = some owner ∧ owner ≠ pool.selfUrl ∧
        reach options owner = transport := by
  rw [knows.pick?]
  cases ownerAmong options peers key with
  | none => simp
  | some owner => simp

end Knows

/-! ## The transports -/

theorem reach_injective (options : PoolOptions) {one two : String}
    (same : (reach options one).baseUrl = (reach options two).baseUrl) : one = two :=
  (String.append_left_inj _).mp same

/-- A pool has a transport to each of its peers, and no other. -/
theorem transports_perm (selfUrl : String) (options : PoolOptions) (peers : List String) :
    ((new selfUrl options).set peers).transports.Perm (peers.eraseDups.map (reach options)) := by
  have ranked := Topology.orderByRank_perm
    (Topology.transportsTo options.normalized (fingerprintOf options.normalized) peers)
  have transports := ranked.map Prod.snd
  rw [Topology.transportsTo, List.map_map] at transports
  exact transports

/-- No two transports of a pool are the same. -/
theorem nodup_transports (selfUrl : String) (options : PoolOptions) (peers : List String) :
    ((new selfUrl options).set peers).transports.Nodup := by
  rw [(transports_perm selfUrl options peers).nodup_iff, List.Nodup, List.pairwise_map]
  apply (nodup_eraseDups peers).imp
  intro one two apart same
  exact apart (reach_injective options (congrArg Transport.baseUrl same))

end PeerPool

end PeerCache
