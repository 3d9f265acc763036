/-
Module: PeerCache.Proofs.Peer.Registration
Purpose: A registry keeps the first pool it is given, and the ring and the transports of that
  pool never disagree.
Main exports:
  RegistryMove, PeerRegistry.run, RegistryMove.standing?, PeerRegistry.Holds,
  PeerRegistry.run_standing, PeerPool.Coherent, PeerPool.coherent_set_new,
  PeerRegistry.run_coherent
-/
import PeerCache.Proofs.Peer.Pick

/-!
A registry is asked to take pools, and its pool is told peers.  The first pool that it is given
stays; whatever else it is given is refused and leaves no trace.  So what a registry is after any
sequence of such moves is said by the first pool and by the peers that it was told last
(`run_standing`): what it was told before does not count, nor what it was told before it came to
the registry.

The pool itself is the same each time, a pool that was made and told its peers, and of such a pool
the ring and the transports agree (`Coherent`): they are made from one list.  A pool that lacked
the transport to an owner would take a key that belongs elsewhere for its own.
-/

namespace PeerCache

/-- What is asked of a registry, and of the pool that it holds. -/
inductive RegistryMove where
  /-- To make the pool of a node and take it. -/
  | install (selfUrl : String) (options : PoolOptions)
  /-- To take a pool that was made elsewhere, and has been told these peers. -/
  | register (selfUrl : String) (options : PoolOptions) (peers : List String)
  /-- To tell the pool its peers. -/
  | set (peers : List String)

namespace RegistryMove

/-- The pool that a move brings: the name of its node, its settings, and the peers that it has
been told. -/
def offer? : RegistryMove → Option (String × PoolOptions × List String)
  | .install selfUrl options => some (selfUrl, options, [])
  | .register selfUrl options peers => some (selfUrl, options, peers)
  | .set _ => none

/-- The peers that a pool has been told last, once a move is made. -/
def toldBy (peers : List String) : RegistryMove → List String
  | .set others => others
  | _ => peers

/-- The first pool that is brought, with the peers that it has been told last. -/
def standing? : List RegistryMove → Option (String × PoolOptions × List String)
  | [] => none
  | move :: rest =>
      match move.offer? with
      | none => standing? rest
      | some (selfUrl, options, peers) => some (selfUrl, options, rest.foldl toldBy peers)

end RegistryMove

namespace PeerRegistry

/-- What becomes of a registry of which something is asked. -/
def attempt (registry : PeerRegistry) : RegistryMove → Except CacheError PeerRegistry
  | .install selfUrl options => registry.install selfUrl options
  | .register selfUrl options peers => registry.register ((PeerPool.new selfUrl options).set peers)
  | .set peers => .ok (registry.set peers)

/-- The registry after a move; one that is refused leaves it as it was. -/
def step (registry : PeerRegistry) (move : RegistryMove) : PeerRegistry :=
  match registry.attempt move with
  | .ok next => next
  | .error _ => registry

/-- The registry after some moves. -/
def run (registry : PeerRegistry) (moves : List RegistryMove) : PeerRegistry :=
  moves.foldl step registry

/-- The registry has the pool of this node with these settings, which was told these peers. -/
def Holds (registry : PeerRegistry) (selfUrl : String) (options : PoolOptions)
    (peers : List String) : Prop :=
  registry.pool = some ((PeerPool.new selfUrl options).set peers)

variable {registry : PeerRegistry} {selfUrl : String} {options : PoolOptions}
  {peers : List String}

/-- A new pool has been told of no peer. -/
theorem set_nil_new (selfUrl : String) (options : PoolOptions) :
    (PeerPool.new selfUrl options).set [] = PeerPool.new selfUrl options := rfl

/-! ## One move -/

/-- A registry that has its pool takes no other. -/
theorem Holds.attempt_of_offer (holds : registry.Holds selfUrl options peers) {move : RegistryMove}
    {offer : String × PoolOptions × List String} (brings : move.offer? = some offer) :
    registry.attempt move = .error .poolAlreadyRegistered := by
  have taken : registry.isRegistered = true := by
    rw [isRegistered, holds]
    rfl
  cases move with
  | install other settings => rw [attempt, install, PeerRegistry.register, if_pos taken]
  | register other settings told => rw [attempt, PeerRegistry.register, if_pos taken]
  | set told => cases brings

/-- A registry keeps its pool, with the peers that it is told. -/
theorem Holds.step (holds : registry.Holds selfUrl options peers) (move : RegistryMove) :
    (registry.step move).Holds selfUrl options (RegistryMove.toldBy peers move) := by
  have refuses : ∀ offer, move.offer? = some offer →
      registry.attempt move = .error .poolAlreadyRegistered :=
    fun _ brings => holds.attempt_of_offer brings
  cases move with
  | install other settings =>
      rw [PeerRegistry.step, refuses _ rfl]
      exact holds
  | register other settings told =>
      rw [PeerRegistry.step, refuses _ rfl]
      exact holds
  | set told =>
      show registry.pool.map (fun pool => pool.set told) = _
      rw [holds]
      rfl

/-- An empty registry takes the pool that a move brings. -/
theorem attempt_empty_of_offer {move : RegistryMove}
    (brings : move.offer? = some (selfUrl, options, peers)) :
    empty.attempt move = .ok ⟨some ((PeerPool.new selfUrl options).set peers)⟩ := by
  cases move with
  | install other settings =>
      cases brings
      rw [set_nil_new]
      rfl
  | register other settings told =>
      cases brings
      rfl
  | set told => cases brings

/-- Where no pool is brought, an empty registry stays empty. -/
theorem step_empty_of_offer_none {move : RegistryMove} (brings : move.offer? = none) :
    empty.step move = empty := by
  cases move with
  | install other settings => cases brings
  | register other settings told => cases brings
  | set told => rfl

/-! ## A run -/

theorem Holds.run (holds : registry.Holds selfUrl options peers) (moves : List RegistryMove) :
    (registry.run moves).Holds selfUrl options (moves.foldl RegistryMove.toldBy peers) := by
  induction moves generalizing registry peers with
  | nil => exact holds
  | cons move rest hyp => exact hyp (holds.step move)

/-- After any moves an empty registry has the first pool that was brought, with the peers that it
has been told last; and none if none was brought. -/
theorem run_standing (moves : List RegistryMove) :
    match RegistryMove.standing? moves with
    | none => empty.run moves = empty
    | some (selfUrl, options, peers) => (empty.run moves).Holds selfUrl options peers := by
  induction moves with
  | nil => rfl
  | cons move rest hyp =>
      show match RegistryMove.standing? (move :: rest) with
        | none => (empty.step move).run rest = empty
        | some (selfUrl, options, peers) =>
            ((empty.step move).run rest).Holds selfUrl options peers
      cases brings : move.offer? with
      | none =>
          rw [RegistryMove.standing?, brings, step_empty_of_offer_none brings]
          exact hyp
      | some offer =>
          obtain ⟨selfUrl, options, peers⟩ := offer
          rw [RegistryMove.standing?, brings, PeerRegistry.step, attempt_empty_of_offer brings]
          have taken : Holds ⟨some ((PeerPool.new selfUrl options).set peers)⟩ selfUrl options
            peers := rfl
          exact taken.run rest

end PeerRegistry

namespace PeerPool

/-- The ring of a pool is that of these peers, and its transports lead to just these; so it picks,
for each key that the ring gives to another node, the transport to that node. -/
structure Coherent (pool : PeerPool) (options : PoolOptions) (peers : List String) : Prop where
  ring : pool.topology.ring = (Ring.empty options.normalized.replicas options.hash).add peers
  nodup_peers : pool.peers.Nodup
  mem_peers : ∀ peer, peer ∈ pool.peers ↔ peer ∈ peers
  /-- One transport for each peer, at the base path of the pool. -/
  addresses : pool.transports.map Transport.baseUrl =
    pool.peers.map fun peer => peer ++ options.normalized.basePath
  nodup_transports : pool.transports.Nodup
  /-- Nobody is picked just where there are no peers or the node owns the key itself. -/
  pick?_eq_none_iff : ∀ key, pool.pick? key = none ↔
    peers = [] ∨ pool.topology.ring.owner? key = some pool.selfUrl
  /-- Who is picked is another node, the owner of the key. -/
  pick?_eq_some_iff : ∀ key transport, pool.pick? key = some transport ↔
    ∃ owner, pool.topology.ring.owner? key = some owner ∧ owner ≠ pool.selfUrl ∧
      transport ∈ pool.transports ∧ transport.baseUrl = owner ++ options.normalized.basePath

variable {pool : PeerPool} {options : PoolOptions} {peers : List String}

/-- The transports of a pool stand in the order of its peers. -/
theorem transports_eq (selfUrl : String) (options : PoolOptions) (peers : List String) :
    ((new selfUrl options).set peers).transports =
      ((new selfUrl options).set peers).peers.map (reach options) := by
  rw [transports, PeerPool.peers, List.map_map]
  apply List.map_congr_left
  rintro ⟨peer, transport⟩ member
  exact (Topology.mem_transports_iff.mp member).2

/-- The peers of a pool are those that it was told, each once. -/
theorem peers_perm (selfUrl : String) (options : PoolOptions) (peers : List String) :
    ((new selfUrl options).set peers).peers.Perm peers.eraseDups := by
  have ranked := (Topology.orderByRank_perm
    (Topology.transportsTo options.normalized (fingerprintOf options.normalized) peers)).map
      Prod.fst
  have names : (Topology.transportsTo options.normalized (fingerprintOf options.normalized)
      peers).map Prod.fst = peers.eraseDups := by
    rw [Topology.transportsTo, List.map_map]
    exact List.map_id _
  rw [names] at ranked
  exact ranked

/-- A pool that was told its peers is coherent, whatever it was told before. -/
theorem coherent_set_new (selfUrl : String) (options : PoolOptions) (peers : List String) :
    ((new selfUrl options).set peers).Coherent options peers := by
  have knows := knows_set_new selfUrl options peers
  have owner? := knows.owner?
  have names := peers_perm selfUrl options peers
  refine ⟨rfl, names.nodup_iff.mpr (nodup_eraseDups peers), ?_, ?_, ?_, ?_, ?_⟩
  case refine_1 =>
    intro peer
    rw [names.mem_iff, List.mem_eraseDups]
  case refine_2 =>
    rw [transports_eq, List.map_map]
    rfl
  case refine_3 => exact PeerPool.nodup_transports selfUrl options peers
  case refine_4 =>
    intro key
    rw [knows.pick?_eq_none_iff, owner? key]
    constructor
    · intro own
      by_cases alone : peers = []
      · exact Or.inl alone
      · obtain ⟨owner, owns⟩ := exists_ownerAmong options alone key
        exact Or.inr (owns.trans (congrArg some (own owner owns)))
    · rintro (rfl | own) owner owns
      · exact absurd (ownerAmong_mem owns) List.not_mem_nil
      · exact Option.some.inj (owns.symm.trans own)
  case refine_5 =>
    intro key transport
    rw [knows.pick?_eq_some_iff, owner? key, transports_eq]
    constructor
    · rintro ⟨owner, owns, elsewhere, rfl⟩
      have known : owner ∈ ((new selfUrl options).set peers).peers := by
        rw [names.mem_iff, List.mem_eraseDups]
        exact ownerAmong_mem owns
      exact ⟨owner, owns, elsewhere, List.mem_map_of_mem known, rfl⟩
    · rintro ⟨owner, owns, elsewhere, told, address⟩
      obtain ⟨peer, -, rfl⟩ := List.mem_map.mp told
      have same : peer = owner := reach_injective options address
      exact ⟨owner, owns, elsewhere, congrArg (reach options) same.symm⟩

end PeerPool

namespace PeerRegistry

/-- After any moves, a registry that was brought no pool picks nobody and has no transports, and
takes the first pool that is brought.  Any other has the pool that was brought first, as it would
be had it only been told the peers that it was told last; this pool is coherent, and it is what
the registry picks from.  Whatever pool is brought then is refused, and nothing changes. -/
theorem run_coherent (moves : List RegistryMove) :
    let registry := empty.run moves
    match RegistryMove.standing? moves with
    | none =>
        registry = empty ∧ registry.transports = [] ∧ (∀ key, registry.pick? key = none) ∧
          ∀ move selfUrl options peers, move.offer? = some (selfUrl, options, peers) →
            registry.attempt move = .ok ⟨some ((PeerPool.new selfUrl options).set peers)⟩
    | some (selfUrl, options, peers) =>
        let pool := (PeerPool.new selfUrl options).set peers
        registry.pool = some pool ∧ pool.selfUrl = selfUrl ∧ pool.Coherent options peers ∧
          registry.transports = pool.transports ∧
          (∀ key, registry.pick? key = pool.pick? key) ∧
          ∀ move, move.offer? ≠ none →
            registry.attempt move = .error .poolAlreadyRegistered ∧
            registry.step move = registry := by
  intro registry
  have standing := run_standing moves
  cases found : RegistryMove.standing? moves with
  | none =>
      rw [found] at standing
      have alone : registry = empty := standing
      rw [alone]
      refine ⟨rfl, rfl, fun key => rfl, ?_⟩
      intro move selfUrl options peers brings
      exact attempt_empty_of_offer brings
  | some first =>
      obtain ⟨selfUrl, options, peers⟩ := first
      rw [found] at standing
      have holds : registry.Holds selfUrl options peers := standing
      refine ⟨holds, rfl, PeerPool.coherent_set_new selfUrl options peers, ?_, ?_, ?_⟩
      · rw [transports, holds]
        rfl
      · intro key
        rw [pick?, holds]
        rfl
      · intro move brings
        obtain ⟨offer, brings⟩ := Option.ne_none_iff_exists'.mp brings
        have refused := holds.attempt_of_offer brings
        refine ⟨refused, ?_⟩
        rw [step, refused]

/-- Two pools are brought and the first is told its peers twice: it alone counts, with the peers
that it was told last. -/
example : RegistryMove.standing? [.set ["http://x:1"], .install "http://a:1" .default,
    .set ["http://b:1"], .install "http://c:1" .default, .set ["http://a:1", "http://a:1"]] =
      some ("http://a:1", .default, ["http://a:1", "http://a:1"]) := rfl

end PeerRegistry

end PeerCache
