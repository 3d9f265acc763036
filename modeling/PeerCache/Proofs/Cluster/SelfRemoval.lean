/-
Module: PeerCache.Proofs.Cluster.SelfRemoval
Purpose: Whom a removal asks, all in all: every peer once, and so the node itself if it is among
  its peers.
Main exports:
  Group.Event.target?, Group.audience, PeerPool.audience_around,
  Group.removal_asks_every_peer_once, Cluster.lone_node_asks_itself
-/
import Mathlib.Control.Monad.Basic
import PeerCache.Proofs.Cluster.GroupRuns
import PeerCache.Proofs.Cluster.Waiting
import PeerCache.Proofs.Group.RemovalFanOut
import PeerCache.Proofs.Group.RemovalReport

/-!
A removal goes to the owner of the key first and then to all peers but the one at the owner's
address.  Nobody is left out of the two together, and nobody is in both (`audience_around`).

A node that owns a key picks nobody for it, so that no address is left out when the node tells its
peers.  And one that does not own it leaves out the address of another peer.  Either way the node's
own address stays in.  A node that is among its own peers, as it should be, therefore removes every
key at itself a second time, over the network: the removal waits for that request, fails if it
does, and the node counts it as one of a peer (`lone_node_asks_itself`).
-/

namespace PeerCache

/-- What a removal at this place has returned. -/
def Place.removed? {P : Type} : Place P → Option (Result Unit)
  | .removed result => some result
  | _ => none

namespace Group

variable {P : Type}

/-- What the removal of a caller has returned. -/
def removed? (group : Group P) (caller : Nat) : Option (Result Unit) :=
  group.callers[caller]?.bind fun entry => entry.place.removed?

/-- The peer that an event asks to remove a key. -/
def Event.target? (key : String) : Event P → Option P
  | .askedOwner _ name owner => if name = key then some owner else none
  | .broadcast _ name _ peer => if name = key then some peer else none
  | _ => none

/-- Whom a removal asks that goes on from the owner in these surroundings: the owner, if there is
one, and those that it tells. -/
def audience [PeerHandle P] (near : Surroundings P) (owner : Option P) : List P :=
  owner.toList ++ (broadcastTo near owner).map Prod.fst

/-- The requests of a removal that went on from the owner are those to its audience. -/
theorem targets_of_asked [PeerHandle P] (begun near : Surroundings P) (caller : Nat)
    (key : String) :
    (toOwner begun caller key ++ announce near (begun.pick? key) caller key).map
        (Event.target? key) =
      (audience near (begun.pick? key)).map some := by
  simp [toOwner, announce, audience, Event.target?, Function.comp_def]

end Group

namespace PeerPool

variable {selfUrl key : String} {options : PoolOptions} {peers : List String} {owner : Transport}

/-- Who is picked is a peer at another address than the node's. -/
theorem exists_reach_of_pick? {now : Instant}
    (picked : (around selfUrl options now peers).pick? key = some owner) :
    ∃ peer, peer ≠ selfUrl ∧ reach options peer = owner := by
  rw [pick?_around] at picked
  obtain ⟨peer, -, elsewhere, same⟩ :=
    (knows_set_new selfUrl options peers).pick?_eq_some_iff.mp picked
  exact ⟨peer, elsewhere, same⟩

/-- The owner's address, which is left out when the peers are told, is never the node's own. -/
theorem address_pick?_ne_self (selfUrl : String) (options : PoolOptions) (now : Instant)
    (peers : List String) (key : String) :
    ((around selfUrl options now peers).pick? key).map Transport.baseUrl ≠
      some (reach options selfUrl).baseUrl := by
  intro same
  obtain ⟨owner, picked, sameUrl⟩ := Option.map_eq_some_iff.mp same
  obtain ⟨peer, elsewhere, rfl⟩ := exists_reach_of_pick? picked
  exact elsewhere (reach_injective options sameUrl)

/-- A removal asks the owner that it has picked and every peer of the moment in which it goes on,
each of them once. -/
theorem audience_around (selfUrl : String) (options : PoolOptions) (key : String)
    (now later : Instant) (known peers : List String) :
    let owner := (around selfUrl options now known).pick? key
    let targets := Group.audience (around selfUrl options later peers) owner
    targets.Nodup ∧ ∀ target, target ∈ targets ↔
      (∃ peer ∈ peers, reach options peer = target) ∨ owner = some target := by
  intro owner targets
  obtain ⟨distinct, others⟩ := others_around selfUrl options later peers owner
  constructor
  · refine List.nodup_append.mpr ⟨?_, distinct, ?_⟩
    · cases owner <;> simp
    · rintro first isOwner other told rfl
      rw [Option.mem_toList] at isOwner
      exact ((others first).mp told).2 (congrArg (Option.map Transport.baseUrl) isOwner)
  · intro target
    have parts : target ∈ targets ↔ owner = some target ∨
        (∃ peer ∈ peers, reach options peer = target) ∧
          owner.map Transport.baseUrl ≠ some target.baseUrl := by
      rw [← others target, ← Option.mem_toList]
      exact List.mem_append
    rw [parts]
    constructor
    · rintro (isOwner | ⟨isPeer, -⟩)
      · exact Or.inr isOwner
      · exact Or.inl isPeer
    · rintro (⟨peer, isPeer, rfl⟩ | isOwner)
      · by_cases left : owner.map Transport.baseUrl = some (reach options peer).baseUrl
        · -- the peer that is not told is the owner, which was asked before
          obtain ⟨first, picked, sameUrl⟩ := Option.map_eq_some_iff.mp left
          obtain ⟨other, -, rfl⟩ := exists_reach_of_pick? picked
          rw [← reach_injective options sameUrl]
          exact Or.inl picked
        · exact Or.inr ⟨⟨peer, isPeer, rfl⟩, left⟩
      · exact Or.inl isOwner

/-- A node that is among its peers is told by its own removals. -/
theorem exists_told_self (now later : Instant) (known : List String) (key : String)
    (isPeer : selfUrl ∈ peers) :
    ∃ number, (reach options selfUrl, number) ∈ Group.broadcastTo
      (around selfUrl options later peers) ((around selfUrl options now known).pick? key) := by
  obtain ⟨-, others⟩ := others_around selfUrl options later peers
    ((around selfUrl options now known).pick? key)
  obtain ⟨⟨_, number⟩, told, rfl⟩ := List.mem_map.mp ((others (reach options selfUrl)).mpr
    ⟨⟨selfUrl, isPeer, rfl⟩, address_pick?_ne_self selfUrl options now known key⟩)
  exact ⟨number, told⟩

end PeerPool

namespace Group

/-- A removal that has heard of an error at another peer returns one. -/
theorem exists_failed_of_ending {P : Type} {heard : List (Surroundings P × Move)} {number : Nat}
    {error : CacheError} (failed : (number, .returned (.error error)) ∈ endings heard) :
    ∃ first, removalResult (firstFailure heard) = .error first := by
  cases noted : firstFailure heard with
  | none =>
      rcases unfailed_of_firstFailure noted failed with removed | ⟨message, panicked⟩
      · cases removed
      · cases panicked
  | some first => exact ⟨first, rfl⟩

/-- Let a caller come to remove a key after any run of a group, while no other removal of the key
is under way, and let anything happen later; the pool may be told other peers all the time.

Once it goes on from the owner, the removal has asked, in all, the owner, if there is one, and every
peer that the pool knows at that moment, each of them once.  The owner is never the node itself.  So
whoever owns the key, a node that is among its peers is asked over its own address.  The removal
returns only when that request has ended, and with an error if that ended with one. -/
theorem removal_asks_every_peer_once (name selfUrl : String) (options : PoolOptions)
    (before : List (Surroundings Transport × Move)) (now : Instant) (peers : List String)
    (context : CallContext) (key : String) (during : List ((Instant × List String) × Move)) :
    let around := fun sight : Instant × List String =>
      PeerPool.around selfUrl options sight.1 sight.2
    let start := ((new name : Group Transport).run before).1
    let caller := start.callers.length
    let begun := around (now, peers)
    let owner := begun.pick? key
    let moves := (begun, Move.remove context key) ::
      during.map fun timed => (around timed.1, timed.2)
    let last := (start.run moves).1
    let heard := start.heard caller moves
    let requests := asked caller (start.run moves).2
    start.removals.find? key = none →
    ∀ sight, PastOwner begun caller key heard (around sight) →
      (∃ targets : List Transport, requests.map (Event.target? key) = targets.map some ∧
        targets.Nodup ∧
        ∀ target, target ∈ targets ↔
          (∃ peer ∈ sight.2, PeerPool.reach options peer = target) ∨ owner = some target) ∧
      owner ≠ some (PeerPool.reach options selfUrl) ∧
      (selfUrl ∈ sight.2 → ∃ number,
        .broadcast caller key number (PeerPool.reach options selfUrl) ∈ requests ∧
        ∀ result, last.removed? caller = some result → ∃ reply,
          (number, reply) ∈ endings heard ∧
            ∀ error, reply = .returned (.error error) → ∃ failed, result = .error failed) := by
  intro around start caller begun owner moves last heard requests free sight past
  have orderly : start.Orderly := run_orderly (orderly_new name) before
  obtain ⟨place, at_, course⟩ := run_removalCourse orderly begun context free
    (during.map fun timed => (around timed.1, timed.2))
  obtain ⟨asks, ends⟩ : requests = toOwner begun caller key ++
      announce (around sight) owner caller key ∧ _ := course.of_pastOwner past
  refine ⟨⟨audience (around sight) owner, ?_, ?_⟩, ?_, ?_⟩
  · rw [asks]
    exact targets_of_asked begun (around sight) caller key
  · exact PeerPool.audience_around selfUrl options key now sight.1 peers sight.2
  · intro itself
    exact PeerPool.address_pick?_ne_self selfUrl options now peers key
      (congrArg (Option.map Transport.baseUrl) itself)
  · intro isPeer
    obtain ⟨number, told⟩ := PeerPool.exists_told_self now sight.1 peers key isPeer
    refine ⟨number, ?_, ?_⟩
    · rw [asks]
      exact List.mem_append_right _ (List.mem_map.mpr ⟨_, told, rfl⟩)
    · intro result returned
      have isPlace : place.removed? = some result := by
        rw [← returned, removed?]
        exact (congrArg (Option.bind · fun entry => entry.place.removed?) at_).symm
      rcases ends with rfl | rfl | ⟨rfl, done⟩
      · cases isPlace
      · cases isPlace
      · obtain rfl := Option.some.inj isPlace
        obtain ⟨reply, ended⟩ := pending_eq_nil_iff.mp done _ told
        refine ⟨reply, ended, ?_⟩
        rintro error rfl
        exact exists_failed_of_ending ended

/-- A node that is its only peer removes a key, and its request to itself fails: so does the
removal. -/
theorem lone_removal_fails_with_itself :
    let around := fun sight : Instant × List String =>
      PeerPool.around "http://a:1" .default sight.1 sight.2
    let sight : Instant × List String := (.epoch, ["http://a:1"])
    let start := ((new "books" : Group Transport).run []).1
    let failure := CacheError.unanswered "books" "k" (.transport "http://a:1/_groupcache/books/k")
    let during := [(sight, Move.broadcastEnded 0 0 (.returned (.error failure))),
      (sight, Move.poll 0)]
    let moves := (around sight, Move.remove .new "k") ::
      during.map fun timed => (around timed.1, timed.2)
    let last := (start.run moves).1
    start.removals.find? "k" = none ∧
      PastOwner (around sight) 0 "k" (start.heard 0 moves) (around sight) ∧
      last.removed? 0 = some (.error failure) ∧
      ∃ number reply, .broadcast 0 "k" number (PeerPool.reach .default "http://a:1") ∈
          asked 0 (start.run moves).2 ∧
        (number, reply) ∈ endings (start.heard 0 moves) := by
  intro around sight start failure during moves last
  have nobody : (around sight).pick? "k" = none := by
    have knows := PeerPool.knows_set_new "http://a:1" .default ["http://a:1"]
    show (PeerPool.around "http://a:1" .default .epoch ["http://a:1"]).pick? "k" = none
    rw [PeerPool.pick?_around, knows.pick?_eq_none_iff]
    intro owner owns
    exact List.mem_singleton.mp (PeerPool.ownerAmong_mem owns)
  have past : PastOwner (around sight) 0 "k" (start.heard 0 moves) (around sight) :=
    Or.inl ⟨nobody, rfl⟩
  have failed : last.removed? 0 = some (.error failure) := by decide +kernel
  obtain ⟨-, -, tells⟩ := removal_asks_every_peer_once "books" "http://a:1" .default [] .epoch
    ["http://a:1"] .new "k" during rfl sight past
  obtain ⟨number, told, waits⟩ := tells (by simp [sight])
  obtain ⟨reply, ended, -⟩ := waits _ failed
  exact ⟨rfl, past, failed, number, reply, told, ended⟩

end Group

namespace Cluster

/-- A node runs alone, and is its own peer, as every node should be.  It removes a key that it owns,
and nobody else is there.  Yet there is a request, to its own address.  If that arrives, the node
counts it as one of a peer; if it is lost, the removal fails. -/
theorem lone_node_asks_itself :
    let url := "http://a:1"
    let start := launched .default "books" [(url, [url])]
    let begun := (start.step ⟨0⟩ (.inGroup 0 0 (.remove .new "k"))).1
    let served := (begun.run [(⟨1⟩, .arrive 0), (⟨2⟩, .reply 0), (⟨3⟩, .inGroup 0 0 (.poll 0))]).1
    let lost := (begun.run [(⟨1⟩, .resolve 0 .unreachable), (⟨2⟩, .inGroup 0 0 (.poll 0))]).1
    let failure := CacheError.unanswered "books" "k" (.transport "http://a:1/_groupcache/books/k")
    start.nodes.map (fun node => (node.pool.selfUrl, node.pool.peers)) = [(url, [url])] ∧
      begun.calls.map (fun call => (call.node, call.outgoing.method, call.outgoing.url.text)) =
        [(0, .delete, "http://a:1/_groupcache/books/k")] ∧
      (served.groupAt? 0 0).map (fun group => (group.removed? 0, group.stats.serverRequests)) =
        some (some (.ok ()), 1) ∧
      (lost.groupAt? 0 0).map (fun group => (group.removed? 0, group.stats.serverRequests)) =
        some (some (.error failure), 0) := by
  decide +kernel

end Cluster

end PeerCache
