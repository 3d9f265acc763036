/-
Module: PeerCache.Proofs.Cluster.RemovalReach
Purpose: That a removal that succeeds leaves no copy of its key in the cluster.
Main exports:
  Removal.underway_begins, Removal.sound_of_knows, Cluster.removal_leaves_no_copy
-/
import PeerCache.Proofs.Cluster.RemovalRuns

/-!
A removal that finds no other one of its key at its node is under way when it has come
(`Removal.underway_begins`).  It reaches every node of the cluster where its own node was told of
exactly these nodes: the owner is asked first, if that is another node, all others are told, and no
two nodes have one address, so that to leave out the owner's is to leave out nobody else
(`Removal.sound_of_knows`).  So what is true of removals on their way is true of it
(`Cluster.removal_leaves_no_copy`).
-/

namespace PeerCache

namespace Removal

open Cluster

variable {removal : Removal} {start : Cluster}

/-- A removal that leads stands where it may when it has come, and asks whom it asks. -/
theorem stands_of_remove (near : Surroundings Transport) {group : Group Transport}
    (context : CallContext) (free : group.removals.find? removal.key = none)
    (isLast : removal.leader.caller = group.callers.length)
    (picks : near.pick? removal.key = removal.owner)
    (tells : Group.broadcastTo near removal.owner = removal.told) (cluster : Cluster) :
    let went := group.step near (.remove context removal.key)
    ∃ place, went.1.callers[removal.leader.caller]? = some ⟨context, removal.key, place⟩ ∧
      removal.Stands cluster place ∧ removal.AsksOnly went.2 := by
  intro went
  have begins := (Group.step_transition near group (.remove context removal.key)).removal_begins
    free
  have announced := asksOnly_announce tells removal.leader.caller
  rw [← isLast, picks] at begins
  rcases begins with ⟨owner, picked, at_, -, events⟩ | ⟨nobody, -, events, at_⟩
  · refine ⟨_, at_, picked, ?_⟩
    intro event member caller purpose key transport asks
    rw [events] at member
    obtain rfl := List.mem_singleton.mp member
    cases asks
    exact ⟨rfl, picked⟩
  · rw [nobody, ← events] at announced
    -- nobody owns the key elsewhere, so nothing has to be gone at an owner
    have agreed : removal.Done cluster .removeAtOwner := by
      intro peer asks
      cases nobody.symm.trans asks
    rw [nobody] at tells
    refine ⟨_, at_, ⟨agreed, fun _ number unawaited => ?_⟩, announced⟩
    rw [tells] at unawaited
    exact done_of_untold unawaited

/-- A removal that finds no other one of its key under way leads, and is under way then. -/
theorem underway_begins (sound : removal.Sound start) (now : Instant) (context : CallContext)
    {node : Node} {group : Group Transport}
    (here : start.nodes[removal.leader.node]? = some node)
    (found : node.groups[removal.leader.group]? = some group) (isName : group.name = removal.name)
    (isLast : removal.leader.caller = group.callers.length)
    (free : group.removals.find? removal.key = none)
    (picks : node.pool.pick? removal.key = removal.owner)
    (manned : ∀ call ∈ start.calls, call.waiter ≠ removal.leader) :
    removal.Underway start (start.step now
      (.inGroup removal.leader.node removal.leader.group (.remove context removal.key))).1 := by
  let comes : Group.Move := .remove context removal.key
  have standing : start.groupAt? removal.leader.node removal.leader.group = some group := by
    rw [groupAt?, here, Option.bind_some, found]
  obtain ⟨place, at_, stands, asks⟩ := stands_of_remove (node.surroundings now) context free
    isLast picks (sound.tells rfl here now)
    (start.moveGroup now removal.leader.node removal.leader.group comes).1
  have begun : removal.Underway start
      (start.moveGroup now removal.leader.node removal.leader.group comes).1 := by
    refine ⟨fixtures_moveGroup .., ⟨_, context, place, ?_, ?_, at_, stands⟩, ?_⟩
    · rw [groupAt?_moveGroup here, if_pos ⟨rfl, rfl⟩, standing]
      rfl
    · rw [Group.name_step, isName]
    · intro call member mine
      rw [moveGroup_eq here] at member
      exact absurd mine (manned call member)
  have raises : ∀ event ∈ (start.moveGroup now removal.leader.node removal.leader.group comes).2,
      removal.Raises removal.leader.node event := by
    intro event member caller purpose key transport isCall _
    obtain ⟨-, before, foundToo, raised⟩ := mem_moveGroup here member
    obtain rfl := Option.some.inj (standing.symm.trans foundToo)
    exact asks event.2 raised caller purpose key transport isCall
  exact begun.followAll sound now raises

/-- Its coming changes no entry but those for its key. -/
theorem kept?_begins (sound : removal.Sound start) (now : Instant) (context : CallContext)
    {position index : Nat} {key : String}
    (apart : ∀ node, start.nodes[position]? = some node →
      node.position? removal.name = some index → key ≠ removal.key) :
    (start.step now (.inGroup removal.leader.node removal.leader.group
      (.remove context removal.key))).1.kept? position index key =
        start.kept? position index key := by
  refine (kept?_actInGroup now _ _ _ position index key).trans ?_
  apply kept?_moveGroup_of_apart
  rintro rfl rfl before near event - happens
  obtain ⟨home, there, named, -⟩ := sound.home
  have about : removal.key = event.key := Option.some.inj (Group.keyOf?_of_storeEvent? happens)
  rw [← about]
  exact (apart home there named).symm

/-- The removal that a caller leads who comes to a node which knows all nodes of its cluster. -/
theorem sound_of_knows {position index : Nat} {node : Node} {options : PoolOptions}
    {peers : List String} {name key : String}
    (here : start.nodes[position]? = some node) (named : node.position? name = some index)
    (knows : node.pool.Knows options peers)
    (members : ∀ url, url ∈ peers ↔ ∃ other ∈ start.nodes, other.pool.selfUrl = url)
    (delivers : start.Delivers options name key) (now : Instant) (caller : Nat) :
    Sound ⟨options, ⟨position, index, caller⟩, name, key, node.pool.pick? key,
      Group.broadcastTo (node.surroundings now) (node.pool.pick? key)⟩ start := by
  have others := (PeerPool.others_around node.pool.selfUrl options now peers
    (node.pool.pick? key)).2
  rw [← PeerPool.surroundings_of_knows knows now] at others
  refine ⟨delivers, ⟨node, here, named, fun _ => rfl⟩, ?_, ?_⟩
  · intro purpose peer asks
    cases purpose with
    | get => exact asks.elim
    | removeAtOwner =>
        obtain ⟨owner, owns, -, rfl⟩ := knows.pick?_eq_some_iff.mp asks
        obtain ⟨other, member, rfl⟩ := (members owner).mp (PeerPool.ownerAmong_mem owns)
        exact ⟨other, member, rfl⟩
    | broadcast number =>
        have inTold : peer ∈ (Group.broadcastTo (node.surroundings now)
            (node.pool.pick? key)).map Prod.fst := List.mem_map_of_mem asks
        obtain ⟨⟨url, isPeer, rfl⟩, -⟩ := (others peer).mp inTold
        obtain ⟨other, member, rfl⟩ := (members url).mp isPeer
        exact ⟨other, member, rfl⟩
  · intro other member
    have isPeer : other.pool.selfUrl ∈ peers := (members _).mpr ⟨other, member, rfl⟩
    let way := PeerPool.reach options other.pool.selfUrl
    by_cases owns : (node.pool.pick? key).map Transport.baseUrl = some way.baseUrl
    · obtain ⟨owner, picked, same⟩ := Option.map_eq_some_iff.mp owns
      obtain ⟨url, -, -, rfl⟩ := knows.pick?_eq_some_iff.mp picked
      obtain rfl := PeerPool.reach_injective options same
      exact ⟨.removeAtOwner, picked⟩
    · obtain ⟨⟨peer, number⟩, inTold, same⟩ :=
        List.mem_map.mp ((others way).mpr ⟨⟨_, isPeer, rfl⟩, owns⟩)
      obtain rfl : peer = way := same
      exact ⟨.broadcast number, inTold⟩

end Removal

namespace Cluster

/-- A caller comes to remove a key of a group of a node that was told of all nodes of the cluster,
and of no others; whatever the stores hold.  The nodes are named by web addresses with different
hosts and ports, the path of a request carries the group and the key, and no other removal of the
key is under way at the caller's node.  Whatever happens then, as long as nobody runs the loader for
the key, peers are not replaced, and removals hear only of what has happened:

* if the removal has succeeded, no node's group of this name holds the key;
* any other entry, of another key or of another group, is what it was, if all that is no part of
  the removal has left it alone. -/
theorem removal_leaves_no_copy (start : Cluster) (options : PoolOptions) (peers : List String)
    (position index : Nat) (node : Node) (group : Group Transport) (key : String)
    (here : start.nodes[position]? = some node) (found : node.groups[index]? = some group)
    (named : node.position? group.name = some index)
    (knows : node.pool.Knows options peers)
    (members : ∀ url, url ∈ peers ↔ ∃ other ∈ start.nodes, other.pool.selfUrl = url)
    (web : ∀ other ∈ start.nodes, Url.IsWebAddress other.pool.selfUrl)
    (apart : (start.nodes.map addressOf).Nodup)
    (carries : start.Carries options group.name key)
    (free : group.removals.find? key = none)
    (manned : ∀ call ∈ start.calls, call.waiter ≠ ⟨position, index, group.callers.length⟩)
    (now : Instant) (context : CallContext) (during : List (Instant × Move)) :
    let caller : Waiter := ⟨position, index, group.callers.length⟩
    let begun := (start.step now (.inGroup position index (.remove context key))).1
    let last := (begun.run during).1
    begun.Undisturbed group.name key during →
    ((last.callerAt? caller).map GroupCaller.place = some (.removed (.ok ())) →
      ∀ other ∈ last.nodes, ∀ owned, other.group? group.name = some owned →
        owned.store.find? key = none) ∧
    ∀ place entry name,
      (∀ other, start.nodes[place]? = some other → other.position? group.name = some entry →
        name ≠ key) →
      begun.OthersSpare caller place entry name during →
      last.kept? place entry name = start.kept? place entry name := by
  intro caller begun last undisturbed
  let removal : Removal := ⟨options, caller, group.name, key, node.pool.pick? key,
    Group.broadcastTo (node.surroundings now) (node.pool.pick? key)⟩
  have sound : removal.Sound start :=
    Removal.sound_of_knows here named knows members (carries.delivers web apart) now
      group.callers.length
  have begins : removal.Underway start begun :=
    Removal.underway_begins sound now context here found rfl rfl free rfl manned
  constructor
  · intro succeeded other member owned isOwned
    obtain ⟨place, there⟩ := List.getElem?_of_mem member
    obtain ⟨entry, isNamed, inNode⟩ := Option.bind_eq_some_iff.mp isOwned
    have ended := begins.run sound undisturbed
    have gone := ended.clear sound succeeded place other entry there isNamed
    rw [kept?_of_node there, Node.kept?, inNode] at gone
    exact gone
  · intro place entry name apart spared
    rw [begins.kept?_run sound undisturbed apart spared]
    exact Removal.kept?_begins sound now context apart

/-- The same nodes, whose groups all hold a view for a key. -/
def stocked (cluster : Cluster) (key : String) (view : View) : Cluster :=
  { cluster with
    nodes := cluster.nodes.map fun node =>
      { node with
        groups := node.groups.map fun group =>
          { group with store := group.store.insert key view } } }

theorem fixtures_stocked (cluster : Cluster) (key : String) (view : View) :
    (cluster.stocked key view).fixtures = cluster.fixtures := by
  rw [fixtures, stocked, List.map_map]
  rfl

/-- What a node is of a cluster that has just started, and whose groups hold a view. -/
theorem of_mem_stocked {options : PoolOptions} {name key : String} {view : View}
    {peers : List String} {node : Node}
    (member : node ∈
      ((launched options name (peers.map fun url => (url, peers))).stocked key view).nodes) :
    node.pool.Knows options peers ∧ node.position? name = some 0 ∧
      node.groups = [⟨name, Store.empty.insert key view, .empty, .empty, .zero, []⟩] := by
  obtain ⟨before, launched, rfl⟩ := List.mem_map.mp member
  obtain ⟨entry, inTold, routes, -, rfl⟩ := exists_of_mem_launched launched
  obtain ⟨url, -, rfl⟩ := List.mem_map.mp inTold
  refine ⟨PeerPool.knows_set_new url options peers, ?_, rfl⟩
  simp [Node.position?]

/-- Nobody runs a loader, nor does anybody along the run. -/
def isIdle (cluster : Cluster) : List (Instant × Move) → Bool
  | [] => true
  | (now, move) :: rest =>
      (cluster.nodes.all fun node => node.groups.all fun group =>
        group.callers.all fun entry => entry.place.load?.isNone) &&
      (cluster.step now move).1.isIdle rest

/-- The move is one of a removal that goes its way, or of a connection that brings an answer. -/
def isPlain : Move → Bool
  | .arrive _ => true
  | .reply _ => true
  | .inGroup _ _ (.poll _) => true
  | _ => false

theorem undisturbed_of_isIdle {cluster : Cluster} {moves : List (Instant × Move)}
    (plain : moves.all (fun timed => isPlain timed.2) = true)
    (idle : cluster.isIdle moves = true) (name key : String) :
    cluster.Undisturbed name key moves := by
  induction moves generalizing cluster with
  | nil => trivial
  | cons timed rest hyp =>
      obtain ⟨now, move⟩ := timed
      rw [List.all_cons, Bool.and_eq_true] at plain
      rw [isIdle, Bool.and_eq_true] at idle
      have genuine : move.replacesPeers = false ∧ cluster.Genuine move := by
        match move, plain.1 with
        | .arrive _, _ => exact ⟨rfl, trivial⟩
        | .reply _, _ => exact ⟨rfl, trivial⟩
        | .inGroup _ _ (.poll _), _ => exact ⟨rfl, trivial⟩
      refine ⟨genuine.1, ?_, genuine.2, hyp plain.2 idle.2⟩
      rintro loader ⟨node, index, group, entry, call, here, -, found, at_, -, stands⟩
      have inNode := List.all_eq_true.mp idle.1 node (List.mem_of_getElem? here)
      have inGroup := List.all_eq_true.mp inNode group (List.mem_of_getElem? found)
      have isIdle := List.all_eq_true.mp inGroup entry (List.mem_of_getElem? at_)
      rw [stands] at isIdle
      cases isIdle

/-- A caller has been told that its removal has succeeded. -/
def hasRemoved (cluster : Cluster) (caller : Waiter) : Bool :=
  (cluster.callerAt? caller).any fun entry =>
    match entry.place with
    | .removed (.ok _) => true
    | _ => false

theorem place_of_hasRemoved {cluster : Cluster} {caller : Waiter}
    (removed : cluster.hasRemoved caller = true) :
    (cluster.callerAt? caller).map GroupCaller.place = some (.removed (.ok ())) := by
  unfold hasRemoved at removed
  cases found : cluster.callerAt? caller with
  | none =>
      rw [found] at removed
      cases removed
  | some entry =>
      rw [found, Option.any_some] at removed
      rw [Option.map_some]
      match entry.place, removed with
      | .removed (.ok ()), _ => rfl

/-- Both of two nodes hold a key.  The one that does not own it removes it: at the owner, then at
home, and there it tells itself too. -/
theorem removal_clears_pair :
    let peers := ["http://a:8000", "http://b:8000"]
    let start := (launched .default "users" (peers.map fun url => (url, peers))).stocked "key"
      ⟨[52, 50], none⟩
    let caller : Waiter := ⟨1, 0, 0⟩
    let during : List (Instant × Move) :=
      [(⟨1⟩, .arrive 0), (⟨2⟩, .reply 0), (⟨3⟩, .arrive 1), (⟨4⟩, .reply 1),
        (⟨5⟩, .inGroup 1 0 (.poll 0))]
    let begun := (start.step ⟨0⟩ (.inGroup 1 0 (.remove .new "key"))).1
    let last := (begun.run during).1
    (∀ position < 2, start.kept? position 0 "key" = some ⟨[52, 50], none⟩) ∧
      begun.Undisturbed "users" "key" during ∧
      (last.callerAt? caller).map GroupCaller.place = some (.removed (.ok ())) ∧
      ∀ other ∈ last.nodes, ∀ owned, other.group? "users" = some owned →
        owned.store.find? "key" = none := by
  intro peers start caller during begun last
  have urls : start.nodes.map (fun node => node.pool.selfUrl) = peers := by decide +kernel
  have members : ∀ url, url ∈ peers ↔ ∃ other ∈ start.nodes, other.pool.selfUrl = url := by
    intro url
    rw [← urls, List.mem_map]
  have origins : ∀ url ∈ peers, ∃ origin : Url.Origin, origin.text = url := by
    let first : Url.Origin :=
      { scheme := "http"
        named := "a:8000"
        authority := ⟨"", .domain "a", some 8000⟩
        web := Or.inl rfl
        bare := Text.forall_mem_of_all (by decide)
        reads := by decide +kernel }
    simp only [peers, List.forall_mem_cons]
    exact ⟨⟨first, by decide⟩, ⟨neighbour, by decide⟩, nofun⟩
  have web : ∀ other ∈ start.nodes, Url.IsWebAddress other.pool.selfUrl := by
    intro other member
    obtain ⟨origin, same⟩ := origins _ ((members _).mpr ⟨other, member, rfl⟩)
    exact same ▸ origin.isWebAddress
  have carries : start.Carries .default "users" "key" := by
    have isBase : PoolOptions.IsBase (PoolOptions.normalizedBasePath PoolOptions.default.basePath)
        ["_groupcache"] := ⟨rfl, by decide, by decide⟩
    refine Carries.of_fixtures ?_ (fixtures_stocked _ "key" ⟨[52, 50], none⟩)
    refine carries_launched ?_ (Text.forall_mem_of_all (by decide)) isBase (by decide) (by decide)
      (by decide) (by decide) (by decide) (by decide)
    intro entry told
    obtain ⟨url, inPeers, rfl⟩ := List.mem_map.mp told
    exact origins url inPeers
  obtain ⟨idle, removed⟩ : begun.isIdle during = true ∧ last.hasRemoved caller = true := by
    decide +kernel
  have undisturbed : begun.Undisturbed "users" "key" during :=
    undisturbed_of_isIdle rfl idle "users" "key"
  have succeeded : (last.callerAt? caller).map GroupCaller.place = some (.removed (.ok ())) :=
    place_of_hasRemoved removed
  obtain ⟨node, here⟩ := Option.isSome_iff_exists.mp
    (by decide +kernel : start.nodes[1]?.isSome = true)
  obtain ⟨knows, named, groups⟩ := of_mem_stocked (List.mem_of_getElem? here)
  have clears := removal_leaves_no_copy start .default peers 1 0 node _ "key" here
    (congrArg (·[0]?) groups) named knows members web (by decide +kernel) carries rfl
    (fun call member => absurd member List.not_mem_nil) ⟨0⟩ .new during undisturbed
  refine ⟨by decide +kernel, undisturbed, succeeded, ?_⟩
  -- by their names: comparing the states would run the cluster
  unfold last begun
  exact clears.1 succeeded

end Cluster

end PeerCache
