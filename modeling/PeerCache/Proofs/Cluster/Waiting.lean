/-
Module: PeerCache.Proofs.Cluster.Waiting
Purpose: While peers are being added, misses arrive and gets never wait in a circle.
Main exports:
  Cluster.Waiter, Cluster.callerAt?, Cluster.Awaits, Cluster.awaits_acyclic,
  Cluster.misses_arrive, Cluster.rolling_launched
-/
import PeerCache.Proofs.Cluster.GroupRuns
import PeerCache.Proofs.Peer.Forwarding

/-!
A get waits for the caller that leads the load it has joined; and the leader of a load, for as
long as it asks a peer, waits for whoever asks for the key at that peer.  If the first of these
waited for the last, both flights would stand still for ever.

While nodes learn of new peers one after another this does not happen: with every peer that is
asked there are fewer steps left for the key (`PeerPool.Rolling.hopsLeft_lt`), and who joins a
load waits at the same node for somebody who has joined none.
-/

namespace PeerCache

namespace Cluster

/-- A caller of a group of a node, by positions. -/
structure Waiter where
  node : Nat
  group : Nat
  caller : Nat

/-- Where the caller stands, and for which key. -/
def callerAt? (cluster : Cluster) (waiter : Waiter) : Option (GroupCaller Transport) :=
  (cluster.groupAt? waiter.node waiter.group).bind fun group => group.callers[waiter.caller]?

/-- The first caller gets no further before the second does.  Of the callers at a peer that is
asked, all with the same key count: whichever of them serves the call, it is among them. -/
inductive Awaits (cluster : Cluster) : Waiter → Waiter → Prop where
  | leader {position index follower leader : Nat} {entry lead : GroupCaller Transport}
      {call : CallId} (at_ : cluster.callerAt? ⟨position, index, follower⟩ = some entry)
      (joined : entry.place = .joinedLoad call)
      (there : cluster.callerAt? ⟨position, index, leader⟩ = some lead)
      (leads : lead.place.load? = some (.leads call)) :
      Awaits cluster ⟨position, index, follower⟩ ⟨position, index, leader⟩
  | peer {waiter other : Waiter} {entry served : GroupCaller Transport} {call : CallId}
      {peer : Transport} {node : Node} (at_ : cluster.callerAt? waiter = some entry)
      (asks : entry.place = .askingPeer call peer)
      (here : cluster.nodes[other.node]? = some node)
      (address : peer.baseUrl = node.pool.address)
      (there : cluster.callerAt? other = some served) (same : served.key = entry.key) :
      Awaits cluster waiter other

/-- How many more callers a caller may come to wait for, one after another: two for every
step that its key has left, the leader of a load there and those who have joined it. -/
def stepsLeft (cluster : Cluster) (added : String → Bool) (waiter : Waiter) : Nat :=
  match cluster.nodes[waiter.node]?, cluster.callerAt? waiter with
  | some node, some ⟨_, key, .joinedLoad _⟩ => 2 * PeerPool.hopsLeft added key node.pool + 1
  | some node, some ⟨_, key, _⟩ => 2 * PeerPool.hopsLeft added key node.pool
  | _, _ => 0

theorem exists_of_callerAt? {cluster : Cluster} {waiter : Waiter} {entry : GroupCaller Transport}
    (at_ : cluster.callerAt? waiter = some entry) :
    ∃ node group, cluster.nodes[waiter.node]? = some node ∧
      node.groups[waiter.group]? = some group ∧ group.callers[waiter.caller]? = some entry := by
  obtain ⟨group, found, inGroup⟩ := Option.bind_eq_some_iff.mp at_
  obtain ⟨node, here, inNode⟩ := Option.bind_eq_some_iff.mp found
  exact ⟨node, group, here, inNode, inGroup⟩

theorem stepsLeft_bounds {cluster : Cluster} (added : String → Bool) {waiter : Waiter}
    {node : Node} {entry : GroupCaller Transport} (here : cluster.nodes[waiter.node]? = some node)
    (at_ : cluster.callerAt? waiter = some entry) :
    2 * PeerPool.hopsLeft added entry.key node.pool ≤ cluster.stepsLeft added waiter ∧
      cluster.stepsLeft added waiter ≤ 2 * PeerPool.hopsLeft added entry.key node.pool + 1 := by
  obtain ⟨context, key, place⟩ := entry
  unfold stepsLeft
  rw [here, at_]
  cases place with
  | joinedLoad call => exact ⟨Nat.le_succ _, Nat.le_refl _⟩
  | _ => exact ⟨Nat.le_refl _, Nat.le_succ _⟩

theorem stepsLeft_of_joined {cluster : Cluster} (added : String → Bool) {waiter : Waiter}
    {node : Node} {entry : GroupCaller Transport} {call : CallId}
    (here : cluster.nodes[waiter.node]? = some node)
    (at_ : cluster.callerAt? waiter = some entry) (joined : entry.place = .joinedLoad call) :
    cluster.stepsLeft added waiter = 2 * PeerPool.hopsLeft added entry.key node.pool + 1 := by
  obtain ⟨context, key, place⟩ := entry
  obtain rfl : place = .joinedLoad call := joined
  unfold stepsLeft
  rw [here, at_]

theorem stepsLeft_of_leads {cluster : Cluster} (added : String → Bool) {waiter : Waiter}
    {node : Node} {entry : GroupCaller Transport} {call : CallId}
    (here : cluster.nodes[waiter.node]? = some node)
    (at_ : cluster.callerAt? waiter = some entry)
    (leads : entry.place.load? = some (.leads call)) :
    cluster.stepsLeft added waiter = 2 * PeerPool.hopsLeft added entry.key node.pool := by
  obtain ⟨context, key, place⟩ := entry
  unfold stepsLeft
  rw [here, at_]
  cases place with
  | joinedLoad call => cases leads
  | _ => rfl

section Circles

variable {start cluster : Cluster} {log : List GroupMove} {called : List LoaderCall}
  {options : PoolOptions} {added : String → Bool} {old new : List String}

/-- Whoever is waited for has fewer steps left. -/
theorem Awaits.stepsLeft_lt (ran : Ran start log called cluster) (fresh : start.Fresh)
    (rolling : PeerPool.Rolling options added old new cluster.pools) {waiter other : Waiter}
    (awaits : cluster.Awaits waiter other) :
    cluster.stepsLeft added other < cluster.stepsLeft added waiter := by
  cases awaits with
  | @leader position index follower leader entry lead call at_ joined there leads =>
      obtain ⟨node, group, here, found, inGroup⟩ := exists_of_callerAt? at_
      obtain ⟨node', group', here', found', inGroup'⟩ := exists_of_callerAt? there
      obtain rfl := Option.some.inj (here.symm.trans here')
      obtain rfl := Option.some.inj (found.symm.trans found')
      have orderly := (ran.fallsBack fresh here found).1
      have follows : entry.place.load? = some (.follows call) := by rw [joined]; rfl
      have about := orderly.loads.isFor follower entry _ inGroup follows
      have about' := orderly.loads.isFor leader lead _ inGroup' leads
      have same : lead.key = entry.key := about'.key_unique about
      have more := stepsLeft_of_joined added here at_ joined
      have fewer := stepsLeft_of_leads added here' there leads
      rw [more, fewer, same]
      exact Nat.lt_succ_self _
  | @peer _ _ entry served call transport node' at_ asks here' address there same =>
      obtain ⟨node, group, here, found, inGroup⟩ := exists_of_callerAt? at_
      have holds := (ran.fallsBack fresh here found).2
      have grounded := holds.callers entry (List.mem_of_getElem? inGroup)
      rw [asks] at grounded
      have forwards : PeerPool.Forwards entry.key node.pool node'.pool :=
        ⟨transport, grounded, address⟩
      have hops := rolling.hopsLeft_lt (List.mem_of_getElem? (pools_of_node here))
        (List.mem_of_getElem? (pools_of_node here')) forwards
      have more := (stepsLeft_bounds added here at_).1
      have fewer := (stepsLeft_bounds added here' there).2
      rw [same] at fewer
      omega

/-- Nobody waits for itself, however many others are between. -/
theorem awaits_acyclic (ran : Ran start log called cluster) (fresh : start.Fresh)
    (rolling : PeerPool.Rolling options added old new cluster.pools) (waiter : Waiter) :
    ¬ Relation.TransGen cluster.Awaits waiter waiter := by
  have fewer : ∀ {first last : Waiter}, Relation.TransGen cluster.Awaits first last →
      cluster.stepsLeft added last < cluster.stepsLeft added first := by
    intro first last chain
    induction chain with
    | single awaits => exact awaits.stepsLeft_lt ran fresh rolling
    | tail chain awaits hyp => exact Nat.lt_trans (awaits.stepsLeft_lt ran fresh rolling) hyp
  intro circle
  exact Nat.lt_irrefl _ (fewer circle)

end Circles

/-- New peers are put into a list of peers, anywhere; some nodes know the old list and some the
new one, the new peers among them.  Then for every key a node either serves it itself or picks
another node; following the picks from any node comes to one that serves the key, after two
steps at most and through no node twice.  And whatever happens in the cluster meanwhile, as
long as peers are not replaced, no caller ever waits for itself: a get that leads a load is
not among those who wait for this load. -/
theorem misses_arrive (cluster : Cluster) (options : PoolOptions) (added : String → Bool)
    (old new : List String) (rolling : PeerPool.Rolling options added old new cluster.pools)
    (fresh : cluster.Fresh) (moves : List (Instant × Move))
    (stays : ∀ timed ∈ moves, timed.2.replacesPeers = false) (key : String) :
    let last := (cluster.run moves).1
    (∀ pool ∈ last.pools,
      pool.pick? key = none ∨ ∃ next ∈ last.pools, PeerPool.Forwards key pool next) ∧
    (∀ first ∈ last.pools, ∃ rest final, PeerPool.Walk key last.pools (first :: rest) ∧
      (first :: rest).getLast? = some final ∧ final.pick? key = none) ∧
    (∀ walk, PeerPool.Walk key last.pools walk →
      walk.length ≤ 3 ∧ (walk.map PeerPool.selfUrl).Nodup) ∧
    ∀ waiter, ¬ Relation.TransGen last.Awaits waiter waiter := by
  intro last
  have ran := ran_of_run cluster moves stays
  have still : PeerPool.Rolling options added old new last.pools := ran.pools ▸ rolling
  exact ⟨fun pool member => still.serves_or_forwards member,
    fun first member => still.exists_walk member, fun walk walks => still.walk_short walks,
    fun waiter => awaits_acyclic ran fresh still waiter⟩

/-- Nodes that start while peers are being added. -/
theorem rolling_launched {options : PoolOptions}
    (admitted : (Routes.ofBasePath? options.normalized.basePath).isSome = true) (group : String)
    {added : String → Bool} {old new : List String} {told : List (String × List String)}
    (kept : new.filter (fun peer => !added peer) = old)
    (knows : ∀ entry ∈ told, entry.2 = old ∨ entry.2 = new)
    (switched : ∀ entry ∈ told, added entry.1 = true → entry.2 = new)
    (reached : ∀ peer ∈ new, peer ∈ told.map Prod.fst) :
    PeerPool.Rolling options added old new (launched options group told).pools := by
  rw [pools_launched admitted]
  constructor
  · exact kept
  · intro pool member
    obtain ⟨⟨url, peers⟩, inTold, rfl⟩ := List.mem_map.mp member
    rcases knows _ inTold with rfl | rfl
    · exact Or.inl (PeerPool.knows_set_new _ _ _)
    · exact Or.inr (PeerPool.knows_set_new _ _ _)
  · intro pool member inNew isNew
    obtain ⟨⟨url, peers⟩, inTold, rfl⟩ := List.mem_map.mp member
    obtain rfl : peers = new := switched _ inTold isNew
    exact PeerPool.knows_set_new _ _ _
  · intro peer inNew
    obtain ⟨entry, inTold, rfl⟩ := List.mem_map.mp (reached peer inNew)
    exact ⟨_, List.mem_map_of_mem inTold, rfl⟩

/-- A third node joins two, and one of these has not heard of it; both get a key. -/
theorem joining_misses_arrive :
    let old := ["http://a", "http://b"]
    let new := ["http://a", "http://c", "http://b"]
    let joining := launched .default "users"
      [("http://a", old), ("http://b", new), ("http://c", new)]
    let moves : List (Instant × Move) :=
      [(⟨0⟩, .inGroup 0 0 (.get .new "key")), (⟨1⟩, .inGroup 1 0 (.get .new "key")),
        (⟨2⟩, .inGroup 0 0 (.get .new "key"))]
    PeerPool.Rolling .default (· == "http://c") old new joining.pools ∧ joining.Fresh ∧
      (∀ timed ∈ moves, timed.2.replacesPeers = false) ∧
      ∀ waiter, ¬ Relation.TransGen (joining.run moves).1.Awaits waiter waiter := by
  intro old new joining moves
  have rolling : PeerPool.Rolling .default (· == "http://c") old new joining.pools :=
    rolling_launched (by decide +kernel) "users" (by decide) (by decide) (by decide) (by decide)
  have fresh : joining.Fresh := fresh_launched _ _ _
  have stays : ∀ timed ∈ moves, timed.2.replacesPeers = false := by
    simp [moves, Move.replacesPeers]
  exact ⟨rolling, fresh, stays,
    (misses_arrive joining .default _ old new rolling fresh moves stays "key").2.2.2⟩

end Cluster

end PeerCache
