/-
Module: PeerCache.Proofs.Cluster.SingleOwner
Purpose: In a cluster whose nodes were told the same peers, one node has each key.
Main exports:
  PeerPool.Agree, PeerPool.OwnedAt, PeerPool.Agree.exists_ownedAt, Cluster.Loads,
  Cluster.only_owner_loads, Cluster.agree_launched
-/
import PeerCache.Proofs.Cluster.GroupRuns
import PeerCache.Proofs.Peer.Pick

/-!
Nodes that were told the same peers, which are these nodes, agree about the owner of every
key: the owner picks nobody, and all others pick the owner.

A node that picks somebody for a key does not load it, and does not come to hold it, unless
the owner has failed it before (`Group.FallsBack`).  So as long as no call of the owner fails,
a key is loaded at one place of the whole cluster, once at a time, and held there alone.  How
calls travel does not matter for this, so nothing is assumed about addresses.
-/

namespace PeerCache

namespace PeerPool

/-- All pools were told the same peers, with the same settings, and these peers are the nodes
of the pools. -/
structure Agree (options : PoolOptions) (peers : List String) (pools : List PeerPool) : Prop where
  knows : ∀ pool ∈ pools, pool.Knows options peers
  names : (pools.map selfUrl).Nodup
  members : ∀ url, url ∈ peers ↔ url ∈ pools.map selfUrl

/-- The pool at the position picks nobody for the key, and every other pool picks this one. -/
def OwnedAt (options : PoolOptions) (pools : List PeerPool) (key : String) (position : Nat) :
    Prop :=
  ∃ owner, pools[position]? = some owner ∧ ∀ (other : Nat) (pool : PeerPool),
    pools[other]? = some pool →
      pool.pick? key = if other = position then none else some (reach options owner.selfUrl)

/-- Who picks nobody is the owner. -/
theorem OwnedAt.eq_of_pick? {options : PoolOptions} {pools : List PeerPool} {key : String}
    {position other : Nat} {pool : PeerPool} (owned : OwnedAt options pools key position)
    (there : pools[other]? = some pool) (picks : pool.pick? key = none) : other = position := by
  obtain ⟨owner, -, others⟩ := owned
  have pick := others other pool there
  rw [picks] at pick
  split at pick
  case isTrue same => exact same
  case isFalse => cases pick

/-- Pools that agree have one owner for every key. -/
theorem Agree.exists_ownedAt {options : PoolOptions} {peers : List String}
    {pools : List PeerPool} (agree : Agree options peers pools) (some_pool : pools ≠ [])
    (key : String) : ∃ position, OwnedAt options pools key position := by
  have some_peer : peers ≠ [] := by
    obtain ⟨pool, member⟩ := List.exists_mem_of_ne_nil pools some_pool
    exact List.ne_nil_of_mem ((agree.members _).mpr (List.mem_map_of_mem member))
  obtain ⟨url, owns⟩ := exists_ownerAmong options some_peer key
  obtain ⟨owner, member, rfl⟩ := List.mem_map.mp ((agree.members url).mp (ownerAmong_mem owns))
  obtain ⟨position, at_⟩ := List.getElem?_of_mem member
  refine ⟨position, owner, at_, ?_⟩
  intro other pool there
  have knows := agree.knows pool (List.mem_of_getElem? there)
  split
  case isTrue same =>
      subst same
      obtain rfl := Option.some.inj (at_.symm.trans there)
      rw [knows.pick?_eq_none_iff]
      intro url found
      exact Option.some.inj (found.symm.trans owns)
  case isFalse apart =>
      rw [knows.pick?_eq_some_iff]
      refine ⟨owner.selfUrl, owns, ?_, rfl⟩
      intro same
      have bound : other < (pools.map selfUrl).length := by
        simpa using (List.getElem?_eq_some_iff.mp there).1
      have equal : (pools.map selfUrl)[other]? = (pools.map selfUrl)[position]? := by
        simp [at_, there, same]
      exact apart ((List.getElem?_inj bound agree.names).mp equal)

end PeerPool

namespace Cluster

/-- A caller, given by its node and its number, runs the loader of the group with a name for
a key. -/
def Loads (cluster : Cluster) (name key : String) (caller : Nat × Nat) : Prop :=
  ∃ node index group entry call, cluster.nodes[caller.1]? = some node ∧
    node.position? name = some index ∧ node.groups[index]? = some group ∧
    group.callers[caller.2]? = some entry ∧ entry.key = key ∧ entry.place = .loading call

section Healthy

variable {start cluster : Cluster} {log : List GroupMove} {called : List LoaderCall}
  {name key : String}

/-- Where no peer that was asked for the key has failed, the loader runs at nodes that pick
nobody. -/
theorem Loads.picks_nobody (ran : Ran start log called cluster) (fresh : start.Fresh)
    (healthy : ∀ position node index, cluster.nodes[position]? = some node →
      node.position? name = some index → key ∉ start.failedAsksAt log position index)
    {caller : Nat × Nat} (loads : cluster.Loads name key caller) :
    ∃ pool, cluster.pools[caller.1]? = some pool ∧ pool.pick? key = none := by
  obtain ⟨node, index, group, entry, call, here, named, found, at_, rfl, stands⟩ := loads
  refine ⟨node.pool, pools_of_node here, ?_⟩
  have grounded := (ran.fallsBack fresh here found).2.callers entry (List.mem_of_getElem? at_)
  rw [stands] at grounded
  exact grounded.resolve_right (healthy caller.1 node index here named)

/-- A node runs the loader of a group for a key once at a time. -/
theorem Loads.caller_unique (ran : Ran start log called cluster) (fresh : start.Fresh)
    {position one two : Nat} (first : cluster.Loads name key (position, one))
    (second : cluster.Loads name key (position, two)) : one = two := by
  obtain ⟨node, index, group, entry, call, here, named, found, at_, about, stands⟩ := first
  obtain ⟨node', index', group', entry', call', here', named', found', at_', about',
    stands'⟩ := second
  obtain rfl := Option.some.inj (here.symm.trans here')
  obtain rfl := Option.some.inj (named.symm.trans named')
  obtain rfl := Option.some.inj (found.symm.trans found')
  have orderly := (ran.fallsBack fresh here found).1
  exact Group.loading_unique orderly at_ at_' stands stands' (about.trans about'.symm)

end Healthy

/-- Nodes were told the same peers, which are these nodes, and their groups start empty.
Whatever happens then, as long as peers are not replaced: for every key one node picks nobody,
and every other node picks this one.  Another node calls its loader for the key, or holds the
key, only if a peer that it asked for the key has failed.  So if none has, for the groups of
some name, the loader for the key runs at one place at most in all of them, and only the owner
holds the key. -/
theorem only_owner_loads (cluster : Cluster) (options : PoolOptions) (peers : List String)
    (agree : PeerPool.Agree options peers cluster.pools) (fresh : cluster.Fresh)
    (moves : List (Instant × Move)) (stays : ∀ timed ∈ moves, timed.2.replacesPeers = false)
    (key : String) :
    let last := (cluster.run moves).1
    let called := (cluster.run moves).2
    let failed := cluster.failedAsksAt (cluster.movesOfRun moves)
    (cluster.pools ≠ [] → ∃ position, PeerPool.OwnedAt options last.pools key position) ∧
    (∀ position node, last.nodes[position]? = some node → node.pool.pick? key ≠ none →
      ∀ index, ((∃ caller context, ⟨position, index, caller, key, context⟩ ∈ called) ∨
        ∃ group view, node.groups[index]? = some group ∧ group.store.find? key = some view) →
      key ∈ failed position index) ∧
    (∀ name, (∀ position node index, last.nodes[position]? = some node →
        node.position? name = some index → key ∉ failed position index) →
      (∀ one two, last.Loads name key one → last.Loads name key two → one = two) ∧
      ∀ (position : Nat) (node : Node) (group : Group Transport) (view : View),
        last.nodes[position]? = some node → node.group? name = some group →
        group.store.find? key = some view → node.pool.pick? key = none) := by
  intro last called failed
  have ran : Ran cluster (cluster.movesOfRun moves) called last := ran_of_run cluster moves stays
  have owned : cluster.pools ≠ [] →
      ∃ position, PeerPool.OwnedAt options last.pools key position := by
    intro some_pool
    rw [ran.pools]
    exact agree.exists_ownedAt some_pool key
  refine ⟨owned, ?_, ?_⟩
  · intro position node here picks index cause
    rcases cause with ⟨caller, context, member⟩ | ⟨group, view, found, kept⟩
    · have loads := ran.loadsHere member here
      exact loads.resolve_left picks
    · have holds := (ran.fallsBack fresh here found).2
      exact (holds.store key view kept).resolve_left picks
  · intro name healthy
    constructor
    · rintro ⟨one, caller⟩ ⟨two, other⟩ first second
      obtain ⟨pool, here, picks⟩ := first.picks_nobody ran fresh healthy
      obtain ⟨pool', here', picks'⟩ := second.picks_nobody ran fresh healthy
      have some_pool : cluster.pools ≠ [] :=
        ran.pools ▸ List.ne_nil_of_mem (List.mem_of_getElem? here)
      obtain ⟨position, ownedAt⟩ := owned some_pool
      obtain rfl : one = position := ownedAt.eq_of_pick? here picks
      obtain rfl : two = one := ownedAt.eq_of_pick? here' picks'
      rw [first.caller_unique ran fresh second]
    · intro position node group view here found kept
      obtain ⟨index, named, at_⟩ := Option.bind_eq_some_iff.mp found
      have holds := (ran.fallsBack fresh here at_).2
      exact (holds.store key view kept).resolve_right (healthy position node index here named)

/-- Any distinct nodes that were all told of each other agree. -/
theorem agree_launched {options : PoolOptions}
    (admitted : (Routes.ofBasePath? options.normalized.basePath).isSome = true) (group : String)
    {peers : List String} (distinct : peers.Nodup) :
    PeerPool.Agree options peers
      (launched options group (peers.map fun url => (url, peers))).pools := by
  rw [pools_launched admitted, List.map_map]
  have names : (peers.map ((fun entry : String × List String =>
      (PeerPool.new entry.1 options).set entry.2) ∘ fun url => (url, peers))).map
        PeerPool.selfUrl = peers := by
    rw [List.map_map]
    exact List.map_id peers
  constructor
  · intro pool member
    obtain ⟨url, -, rfl⟩ := List.mem_map.mp member
    exact PeerPool.knows_set_new url options peers
  · rw [names]
    exact distinct
  · intro url
    rw [names]

/-- Both of two nodes are asked for a key, and the call that one makes of the other, which owns
the key, comes to nothing.  So it calls its own loader, and with a reason. -/
theorem pair_has_one_owner :
    let peers := ["http://a", "http://b"]
    let pair := launched .default "users" (peers.map fun url => (url, peers))
    let moves : List (Instant × Move) :=
      [(⟨0⟩, .inGroup 0 0 (.get .new "key")), (⟨1⟩, .inGroup 1 0 (.get .new "key")),
        (⟨2⟩, .resolve 0 .unreachable)]
    PeerPool.Agree .default peers pair.pools ∧ pair.Fresh ∧
      (∀ timed ∈ moves, timed.2.replacesPeers = false) ∧
      (∃ position, PeerPool.OwnedAt .default (pair.run moves).1.pools "key" position) ∧
      ⟨0, 0, 0, "key", .new⟩ ∈ (pair.run moves).2 ∧
      "key" ∈ pair.failedAsksAt (pair.movesOfRun moves) 0 0 := by
  intro peers pair moves
  have admitted :
      (Routes.ofBasePath? PoolOptions.default.normalized.basePath).isSome = true := by
    decide +kernel
  have agree : PeerPool.Agree .default peers pair.pools :=
    agree_launched admitted "users" (by decide)
  have fresh : pair.Fresh := fresh_launched _ _ _
  have stays : ∀ timed ∈ moves, timed.2.replacesPeers = false := by
    simp [moves, Move.replacesPeers]
  have pools : pair.pools = _ := pools_launched admitted "users" _
  have some_pool : pair.pools ≠ [] := by simp [pools, peers]
  obtain ⟨owned, fallsBack, -⟩ :=
    only_owner_loads pair .default peers agree fresh moves stays "key"
  have called : (⟨0, 0, 0, "key", .new⟩ : LoaderCall) ∈ (pair.run moves).2 := by decide +kernel
  have first : (pair.run moves).1.pools[0]? =
      some ((PeerPool.new "http://a" .default).set peers) := by
    rw [(ran_of_run pair moves stays).pools, pools]
    rfl
  rw [Cluster.pools, List.getElem?_map, Option.map_eq_some_iff] at first
  obtain ⟨node, here, pool⟩ := first
  have picks : node.pool.pick? "key" ≠ none := by
    rw [pool]
    decide +kernel
  exact ⟨agree, fresh, stays, owned some_pool, called,
    fallsBack 0 node here picks 0 (Or.inl ⟨0, .new, called⟩)⟩

end Cluster

end PeerCache
