/-
Module: PeerCache.Proofs.Group.RemovalFanOut
Purpose: A removal reaches the owner of its key, this node and every other peer, in this order.
Main exports:
  PeerPool.around, PeerPool.others_around, Group.removal_fans_out
-/
import PeerCache.Node
import PeerCache.Proofs.Group.RemovalCourse
import PeerCache.Proofs.Peer.Pick

/-!
A node's groups see the owner of a key and the list of peers through the pool, which may be told
other peers at any time (`PeerPool.around`).  So a removal may find other peers when it goes on
from the owner than when it came; those that count are the peers of that later moment, each of
them once, except for the one at the owner's address (`others_around`).
-/

namespace PeerCache

namespace PeerPool

/-- What the groups of a node see when its pool has last been told these peers. -/
def around (selfUrl : String) (options : PoolOptions) (now : Instant) (peers : List String) :
    Surroundings Transport :=
  let pool := (new selfUrl options).set peers
  ⟨now, pool.pick?, pool.transports⟩

theorem pick?_around (selfUrl : String) (options : PoolOptions) (now : Instant)
    (peers : List String) (key : String) :
    (around selfUrl options now peers).pick? key = ((new selfUrl options).set peers).pick? key :=
  rfl

/-- Groups see what the pool of their node was last told. -/
theorem surroundings_of_knows {node : Node} {options : PoolOptions} {peers : List String}
    (knows : node.pool.Knows options peers) (now : Instant) :
    node.surroundings now = around node.pool.selfUrl options now peers := by
  rw [Node.surroundings, around, ← knows]

/-- Who is told by a removal that goes on from the owner: every peer of the moment but the one at
the owner's address, once each. -/
theorem others_around (selfUrl : String) (options : PoolOptions) (now : Instant)
    (peers : List String) (owner : Option Transport) :
    let others := (Group.broadcastTo (around selfUrl options now peers) owner).map Prod.fst
    others.Nodup ∧ ∀ other, other ∈ others ↔
      (∃ peer ∈ peers, reach options peer = other) ∧
        owner.map Transport.baseUrl ≠ some other.baseUrl := by
  intro others
  have filtered : others = ((new selfUrl options).set peers).transports.filter fun peer =>
      owner.map Transport.baseUrl ≠ some peer.baseUrl :=
    List.zipIdx_map_fst ..
  rw [filtered]
  constructor
  · exact (nodup_transports selfUrl options peers).sublist List.filter_sublist
  · intro other
    rw [List.mem_filter, (transports_perm selfUrl options peers).mem_iff, List.mem_map,
      decide_eq_true_iff]
    simp only [List.mem_eraseDups]

end PeerPool

namespace Group

/-- Let a caller come to remove a key after any run of a group, while no other removal of the key
is under way, and let anything happen later; the pool may be told other peers all the time.

If the key has an owner elsewhere that fails, the removal returns that failure; it has asked nobody
else, and has not touched the store.

If not, and once it goes on from the owner, the removal has asked the owner, if there is one, and
nobody else; then it drops the key from the store, and asks every peer that the pool knows at that
moment, but the one at the owner's address, once.  It returns when these have all ended, with the
first error among them, if there is one; and it does return then, unless it was dropped. -/
theorem removal_fans_out (name selfUrl : String) (options : PoolOptions)
    (before : List (Surroundings Transport × Move)) (now : Instant) (peers : List String)
    (context : CallContext) (key : String) (during : List ((Instant × List String) × Move)) :
    let around := fun sight : Instant × List String =>
      PeerPool.around selfUrl options sight.1 sight.2
    let start := ((new name : Group Transport).run before).1
    let caller := start.callers.length
    let begun := around (now, peers)
    let owner := begun.pick? key
    let moves := (begun, Move.remove context key) ::
      during.map fun timed => (around timed.1, timed.2)
    let last := (start.run moves).1
    let heard := start.heard caller moves
    start.removals.find? key = none →
    (∀ near error, (near, .ownerReplied caller (.returned (.error error))) ∈ heard →
      last.callers[caller]? = some ⟨context, key, .removed (.error error)⟩ ∧
      asked caller (start.run moves).2 = owner.toList.map (.askedOwner caller key) ∧
      start.LeavesStore caller moves) ∧
    ∀ sight, PastOwner begun caller key heard (around sight) →
      let told := broadcastTo (around sight) owner
      (∃ first move rest, moves = first ++ (around sight, move) :: rest ∧
        start.FansOut caller key owner first (around sight) move rest) ∧
      ((told.map Prod.fst).Nodup ∧ ∀ other, other ∈ told.map Prod.fst ↔
        (∃ peer ∈ sight.2, PeerPool.reach options peer = other) ∧
          owner.map Transport.baseUrl ≠ some other.baseUrl) ∧
      (∀ result, last.callers[caller]? = some ⟨context, key, .removed result⟩ →
        (∀ entry ∈ told, ∃ reply, (entry.2, reply) ∈ endings heard) ∧
        result = removalResult (firstFailure heard)) ∧
      ((∀ entry ∈ told, ∃ reply, (entry.2, reply) ∈ endings heard) →
        last.callers[caller]? = some ⟨context, key, .dropped⟩ ∨
        ∀ near, (last.step near (.poll caller)).1.callers[caller]? =
          some ⟨context, key, .removed (removalResult (firstFailure heard))⟩) := by
  intro around start caller begun owner moves last heard free
  have orderly : start.Orderly := run_orderly (orderly_new name) before
  constructor
  case left =>
      intro near error refused
      exact refused_removal orderly context free refused
  case right =>
      intro sight past told
      obtain ⟨fansOut, returned, returns⟩ := pastOwner_removal orderly context free past
      have others := PeerPool.others_around selfUrl options sight.1 sight.2 owner
      refine ⟨fansOut, others, ?_, ?_⟩
      · intro result removed
        obtain ⟨done, same⟩ := returned result removed
        exact ⟨pending_eq_nil_iff.mp done, same⟩
      · intro ended
        exact returns (pending_eq_nil_iff.mpr ended)

/-- A pool is told of another peer while the owner is asked: the removal that goes on then tells
the new peer too. -/
theorem removal_tells_new_peer :
    let around := fun sight : Instant × List String =>
      PeerPool.around "http://a:1" .default sight.1 sight.2
    let context : CallContext := ⟨.fresh, none⟩
    let start := ((new "users" : Group Transport).run []).1
    let begun := around (.epoch, ["http://b:1"])
    let sight : Instant × List String := (.epoch, ["http://b:1", "http://c:1"])
    let moves := (begun, Move.remove context "k") ::
      [(sight, Move.ownerReplied 0 (.returned (.ok ())))].map fun timed =>
        (around timed.1, timed.2)
    start.removals.find? "k" = none ∧
      begun.pick? "k" = some (PeerPool.reach .default "http://b:1") ∧
      PastOwner begun 0 "k" (start.heard 0 moves) (around sight) ∧
      PeerPool.reach .default "http://c:1" ∈
        (broadcastTo (around sight) (begun.pick? "k")).map Prod.fst ∧
      ∃ first move rest, moves = first ++ (around sight, move) :: rest ∧
        start.FansOut 0 "k" (begun.pick? "k") first (around sight) move rest := by
  intro around context start begun sight moves
  have picked : begun.pick? "k" = some (PeerPool.reach .default "http://b:1") := by
    have knows := PeerPool.knows_set_new "http://a:1" .default ["http://b:1"]
    obtain ⟨owner, owns⟩ :=
      PeerPool.exists_ownerAmong .default (by decide : ["http://b:1"] ≠ []) "k"
    obtain rfl := List.mem_singleton.mp (PeerPool.ownerAmong_mem owns)
    show (PeerPool.around "http://a:1" .default .epoch ["http://b:1"]).pick? "k" = _
    rw [PeerPool.pick?_around]
    exact knows.pick?_eq_some_iff.mpr ⟨"http://b:1", owns, by decide, rfl⟩
  have begins := (step_transition begun start (.remove context "k")).removal_begins rfl
  have elsewhere : begun.pick? "k" ≠ none := picked ▸ Option.some_ne_none _
  obtain ⟨_, -, at_, -⟩ := begins.resolve_right fun alone => elsewhere alone.1
  have past : PastOwner begun 0 "k" (start.heard 0 moves) (around sight) := by
    apply Or.inr
    apply List.mem_append_right
    apply List.mem_append_left
    have hears : heardOf (around sight) (start.step begun (.remove context "k")).1 0
        (.ownerReplied 0 (.returned (.ok ()))) = _ := heardOf_of_hears (around sight) at_ rfl rfl
    rw [hears]
    exact List.mem_singleton.mpr rfl
  obtain ⟨fansOut, ⟨-, told⟩, -⟩ :=
    (removal_fans_out "users" "http://a:1" .default [] .epoch ["http://b:1"] context "k"
      [(sight, .ownerReplied 0 (.returned (.ok ())))] rfl).2 sight past
  refine ⟨rfl, picked, past, (told _).mpr ⟨⟨"http://c:1", by simp [sight], rfl⟩, ?_⟩, fansOut⟩
  rw [picked]
  intro same
  exact absurd (PeerPool.reach_injective .default (Option.some.inj same)) (by decide)

end Group

end PeerCache
