/-
Module: PeerCache.Proofs.Cluster.Delivery
Purpose: That requests arrive at the nodes for which they are made.
Main exports:
  Cluster.Delivers, Cluster.Carries, Cluster.Carries.delivers, Cluster.carries_of_origins
-/
import PeerCache.Proofs.Cluster.Stores

/-!
A request for a key is made from the name of a node, and arrives at the node that has the host and
port in it.  There it has to lead to the peer protocol, and to name the key of the group that was
meant (`Cluster.Delivers`).

It arrives where nodes are named by web addresses, no two of them with the same host and port
(`Cluster.Carries.delivers`).  Its path names the key (`Cluster.Carries`) where all nodes serve one
base path that has nothing special in it (`Cluster.carries_of_origins`).
-/

namespace PeerCache

/-- A node serves the peer protocol under a base path: alone, or beside the public paths and out
of their way. -/
def Node.ServesPeers (node : Node) (basePath : String) : Prop :=
  Routes.ofPeers? basePath = some node.routes ∨
    Routes.ofBasePath? basePath = some node.routes ∧
      ∃ first pieces, PoolOptions.IsBase basePath (first :: pieces) ∧ first ≠ "cache" ∧
        first ≠ "stats"

/-- The path of a request for a key names this key, where the base path is plain. -/
theorem Node.ServesPeers.resolvesTo {node : Node} {options : PoolOptions} {origin : Url.Origin}
    {group key : String} {url : Url}
    (serves : node.ServesPeers (PoolOptions.normalizedBasePath options.basePath))
    (plain : ∀ character ∈ options.basePath.toList, PoolOptions.IsPlainCharacter character)
    (isName : IsSegmentText group) (noSlash : '/' ∉ group.toList) (some_name : group ≠ "")
    (isKey : IsSegmentText key)
    (made : (PeerPool.reach options origin.text).requestUrl group key = .ok url) :
    node.ResolvesTo (Http.Target.ofText url.target).path group key := by
  refine ⟨group ++ ("/" ++ key), ?_, Node.splitRemainder?_append noSlash key⟩
  rcases serves with found | ⟨beside, first, pieces, isBase, notCache, notStats⟩
  · exact destination_of_request options origin plain found isName some_name isKey made
  · obtain ⟨-, noParameters⟩ := isBase.pieces_of_plain plain
    obtain ⟨alone, found, -⟩ := Routes.destination_of_plain isBase noParameters
    apply Routes.destination_beside isBase noParameters notCache notStats beside found
    exact destination_of_request options origin plain found isName some_name isKey made

namespace Cluster

/-- A request to remove a key that is made for a node arrives at this node, and names there the
key of the group that was meant. -/
def Delivers (cluster : Cluster) (options : PoolOptions) (name key : String) : Prop :=
  ∀ position node context outgoing, cluster.nodes[position]? = some node →
    (PeerPool.reach options node.pool.selfUrl).prepare context .delete name key = .ok outgoing →
    cluster.nodeAt? outgoing.url.authority = some position ∧
      node.ResolvesTo (arriving outgoing).target.path name key

/-- The path of a request for a key that is made for a node names there the key of the group that
was meant. -/
def Carries (cluster : Cluster) (options : PoolOptions) (name key : String) : Prop :=
  ∀ node ∈ cluster.nodes, ∀ url,
    (PeerPool.reach options node.pool.selfUrl).requestUrl name key = .ok url →
    node.ResolvesTo (Http.Target.ofText url.target).path name key

variable {cluster other : Cluster} {options : PoolOptions} {name key : String}

/-- Where requests arrive shows in the fixtures. -/
theorem Delivers.of_fixtures (delivers : cluster.Delivers options name key)
    (same : other.fixtures = cluster.fixtures) : other.Delivers options name key := by
  intro position node context outgoing here prepared
  obtain ⟨first, there, alike⟩ := exists_of_fixtures same here
  rw [← Node.pool_of_fixtures alike] at prepared
  have arrives := delivers position first context outgoing there prepared
  rw [Node.ResolvesTo, Node.routes_of_fixtures alike] at arrives
  rw [nodeAt?_of_fixtures same]
  exact arrives

theorem Carries.of_fixtures (carries : cluster.Carries options name key)
    (same : other.fixtures = cluster.fixtures) : other.Carries options name key := by
  intro node member url made
  obtain ⟨position, here⟩ := List.getElem?_of_mem member
  obtain ⟨first, there, alike⟩ := exists_of_fixtures same here
  rw [← Node.pool_of_fixtures alike] at made
  have resolves := carries first (List.mem_of_getElem? there) url made
  rwa [Node.ResolvesTo, Node.routes_of_fixtures alike] at resolves

/-- Of nodes that have different addresses, each is the one at its own. -/
theorem nodeAt?_addressOf (apart : (cluster.nodes.map addressOf).Nodup) {position : Nat}
    {node : Node} (here : cluster.nodes[position]? = some node) {address : String}
    (isAddress : addressOf node = some address) : cluster.nodeAt? address = some position := by
  obtain ⟨bound, rfl⟩ := List.getElem?_eq_some_iff.mp here
  rw [nodeAt?, List.findIdx?_eq_some_iff_getElem]
  refine ⟨bound, decide_eq_true isAddress, ?_⟩
  intro before earlier
  rw [Bool.not_eq_true, decide_eq_false_iff_not]
  intro same
  have inside : before < (cluster.nodes.map addressOf).length := by
    rw [List.length_map]
    exact Nat.lt_trans earlier bound
  have equal : (cluster.nodes.map addressOf)[before]? =
      (cluster.nodes.map addressOf)[position]? := by
    rw [List.getElem?_map, List.getElem?_map, here, Option.map_some, isAddress, ← same,
      List.getElem?_eq_getElem (Nat.lt_trans earlier bound), Option.map_some]
  exact Nat.ne_of_lt earlier ((List.getElem?_inj inside apart).mp equal)

/-- Requests arrive at nodes that are named by web addresses, no two of them with the same host
and port, where the path names the key. -/
theorem Carries.delivers (carries : cluster.Carries options name key)
    (web : ∀ node ∈ cluster.nodes, Url.IsWebAddress node.pool.selfUrl)
    (apart : (cluster.nodes.map addressOf).Nodup) : cluster.Delivers options name key := by
  intro position node context outgoing here prepared
  have member := List.mem_of_getElem? here
  obtain ⟨given, made, -, isUrl⟩ := Transport.url_of_prepare prepared
  have sameAuthority : outgoing.url.authority = given.authority := by
    rw [isUrl, Url.withoutUserinfo]
    split <;> rfl
  have sameTarget : outgoing.url.target = given.target := by
    rw [isUrl, Url.withoutUserinfo]
    split <;> rfl
  constructor
  · apply nodeAt?_addressOf apart here
    rw [addressOf, authority_of_requestUrl (web node member) made, sameAuthority]
  · rw [arriving, sameTarget]
    exact carries node member given made

/-- The path names a group and a key that go into a path as they are, where nodes are named by
scheme, host and port and all serve one plain base path. -/
theorem carries_of_origins
    (origins : ∀ node ∈ cluster.nodes, ∃ origin : Url.Origin, origin.text = node.pool.selfUrl)
    (serves : ∀ node ∈ cluster.nodes,
      node.ServesPeers (PoolOptions.normalizedBasePath options.basePath))
    (plain : ∀ character ∈ options.basePath.toList, PoolOptions.IsPlainCharacter character)
    (isName : IsSegmentText name) (noSlash : '/' ∉ name.toList) (some_name : name ≠ "")
    (isKey : IsSegmentText key) : cluster.Carries options name key := by
  intro node member url made
  obtain ⟨origin, isOrigin⟩ := origins node member
  rw [← isOrigin] at made
  exact (serves node member).resolvesTo plain isName noSlash some_name isKey made

/-- What a node is at the start of a cluster. -/
theorem exists_of_mem_launched {group : String} {told : List (String × List String)} {node : Node}
    (member : node ∈ (launched options group told).nodes) :
    ∃ entry ∈ told, ∃ routes, Routes.ofBasePath? options.normalized.basePath = some routes ∧
      node = ⟨entry.1, (PeerPool.new entry.1 options).set entry.2, routes, [.new group],
        [(group, 0)], .empty, 0⟩ := by
  obtain ⟨entry, inTold, made⟩ := List.mem_filterMap.mp member
  simp only [Node.new?, Option.map_map] at made
  obtain ⟨routes, found, rfl⟩ := Option.map_eq_some_iff.mp made
  exact ⟨entry, inTold, routes, found, rfl⟩

/-- The path names a group and a key that go into a path as they are, in a cluster that starts with
nodes named by scheme, host and port, with a plain base path that is not a public one. -/
theorem carries_launched {told : List (String × List String)}
    (origins : ∀ entry ∈ told, ∃ origin : Url.Origin, origin.text = entry.1)
    (plain : ∀ character ∈ options.basePath.toList, PoolOptions.IsPlainCharacter character)
    {first : String} {pieces : List String}
    (isBase : PoolOptions.IsBase (PoolOptions.normalizedBasePath options.basePath)
      (first :: pieces))
    (notCache : first ≠ "cache") (notStats : first ≠ "stats")
    (isName : IsSegmentText name) (noSlash : '/' ∉ name.toList) (some_name : name ≠ "")
    (isKey : IsSegmentText key) : (launched options name told).Carries options name key := by
  apply carries_of_origins _ _ plain isName noSlash some_name isKey
  · intro node member
    obtain ⟨entry, inTold, routes, found, rfl⟩ := exists_of_mem_launched member
    exact origins entry inTold
  · intro node member
    obtain ⟨entry, inTold, routes, found, rfl⟩ := exists_of_mem_launched member
    exact Or.inr ⟨found, first, pieces, isBase, notCache, notStats⟩

end Cluster

end PeerCache
