/-
Module: PeerCache.Group
Purpose: A read-through cache: its callers, and what they do between two waits.
Main exports:
  PeerHandle, Surroundings, Place, Group, Group.Move, Group.Event, Group.goOn, Group.step,
  Group.run
-/
import PeerCache.Context
import PeerCache.Flight
import PeerCache.Group.Stats
import PeerCache.Group.Store

/-!
A group answers a get from its store.  On a miss the callers for a key share one load.
Its leader looks into the store once more, as another load may have ended since; then it
asks the peer that owns the key, and falls back to the group's own loader if there is no
such peer or the peer fails.  A value of the own loader is kept in the store, a peer's
is not.

A removal of a key is shared in the same way.  Its leader removes the key at the owner,
then from the own store, then at every other peer, all at once; it ends when all of
these have ended, with the error of the one that failed first.  A failure at the owner
ends it at once.

Peers and loaders take their time.  So a caller moves from wait to wait (`Place`), and a
group's life is a list of moves (`Move`): callers arrive, replies come in, callers are
dropped.  A move may ask something of the surroundings, which is told as an `Event`.  The
surroundings give the time, the owner of a key and the list of peers, afresh for each
move: peers may be replaced while a caller waits.

Callers run beside each other, and a get touches what they share several times before its
first wait: it looks its key up, enters a load, looks again, and ends the load if it has
found the key then.  Others may come between any two of these.  So each of them is a move
of its own (`startGet`, `goOn`), and a get has places in between, at which it is at work
and waits for nothing (`Place.isAtWork`).  `Move.get` is the same get when nothing comes
between: it runs up to its first wait at once.
-/

namespace PeerCache

/-- A peer as a group sees it: somebody with an address. -/
class PeerHandle (P : Type) where
  url : P → String

/-- A peer that is its own address. -/
instance : PeerHandle String := ⟨id⟩

/-- What a group sees around it. -/
structure Surroundings (P : Type) where
  now : Instant
  /-- The peer that owns a key, unless the key is local. -/
  pick? : String → Option P
  /-- All peers. -/
  peers : List P

/-- What comes back from outside: a result or an error, or a panic on the way. -/
inductive Reply (ε α : Type) where
  | returned (result : Except ε α)
  | panicked (message : String)

/-- Where a caller stands. -/
inductive Place (P : Type) where
  /-- A get that has missed the store, and has entered no load yet. -/
  | missed
  /-- A get that leads a load, and has not looked again. -/
  | leading (call : CallId)
  /-- A get that leads a load and has found the view when it looked again. -/
  | found (call : CallId) (view : View)
  /-- A get that waits for another caller's load. -/
  | joinedLoad (call : CallId)
  /-- A get that leads a load and waits for the owner's reply. -/
  | askingPeer (call : CallId) (peer : P)
  /-- A get that leads a load and waits for the own loader. -/
  | loading (call : CallId)
  /-- A removal that waits for another caller's removal. -/
  | joinedRemoval (call : CallId)
  /-- A removal that leads and waits for the owner's reply. -/
  | askingOwner (call : CallId) (owner : P)
  /-- A removal that leads and waits for the peers with these numbers; the failure is
  that of the first peer that failed. -/
  | broadcasting (call : CallId) (awaited : List Nat) (failure : Option CacheError)
  /-- A get that has ended. -/
  | got (result : Result View)
  /-- A removal that has ended. -/
  | removed (result : Result Unit)
  | panicked (message : String)
  | dropped

/-- Whether a caller at this place waits for nothing, and is about to go on. -/
def Place.isAtWork {P : Type} : Place P → Bool
  | .missed => true
  | .leading _ => true
  | .found _ _ => true
  | _ => false

/-- Whether a caller at this place has not ended. -/
def Place.isWaiting {P : Type} : Place P → Bool
  | .got _ => false
  | .removed _ => false
  | .panicked _ => false
  | .dropped => false
  | _ => true

/-- A caller of a group. -/
structure GroupCaller (P : Type) where
  /-- What its calls of peers and of the loader carry along. -/
  context : CallContext
  key : String
  place : Place P

/-- A group and its callers, in order of arrival. -/
structure Group (P : Type) where
  name : String
  store : Store
  loads : Flight View
  removals : Flight Unit
  stats : GroupStats
  callers : List (GroupCaller P)

namespace Group

variable {P : Type}

/-- What a group asks of its surroundings; callers are named by their positions. -/
inductive Event (P : Type) where
  /-- A caller asks a peer for its key. -/
  | askedPeer (caller : Nat) (key : String) (peer : P)
  /-- A caller calls the group's loader for its key. -/
  | calledLoader (caller : Nat) (key : String)
  /-- A caller removes its key at the owner. -/
  | askedOwner (caller : Nat) (key : String) (owner : P)
  /-- A caller removes its key at another peer, one of several at once. -/
  | broadcast (caller : Nat) (key : String) (number : Nat) (peer : P)

/-- What can happen to a group. -/
inductive Move where
  /-- A caller arrives for a key and runs up to its first wait. -/
  | get (context : CallContext) (key : String)
  /-- A caller arrives for a key and looks it up. -/
  | startGet (context : CallContext) (key : String)
  /-- A get that is at work does the next thing. -/
  | goOn (caller : Nat)
  /-- The owner's reply reaches the caller that asked for it. -/
  | peerReplied (caller : Nat) (reply : Reply CacheError Response)
  /-- The loader's reply reaches the caller that called it. -/
  | loaderReplied (caller : Nat) (reply : Reply Chain View)
  /-- A caller arrives to remove a key. -/
  | remove (context : CallContext) (key : String)
  /-- The owner's reply reaches the caller that removes there. -/
  | ownerReplied (caller : Nat) (reply : Reply CacheError Unit)
  /-- One of the removals at other peers ends. -/
  | broadcastEnded (caller number : Nat) (reply : Reply CacheError Unit)
  /-- A caller is polled that waits for others, and ends if they have. -/
  | poll (caller : Nat)
  /-- A caller is dropped. -/
  | drop (caller : Nat)
  /-- A key is removed from the store alone. -/
  | removeLocally (key : String)
  /-- A key is looked up in the store alone. -/
  | look (key : String)
  /-- A peer's request arrives. -/
  | serve

/-- A group before its first move. -/
def new (name : String) : Group P :=
  ⟨name, .empty, .empty, .empty, .zero, []⟩

/-- Counts one more. -/
def bump (group : Group P) (counter : Counter) : Group P :=
  { group with stats := group.stats.bump counter }

/-- Looks a key up in the store; an expired view is forgotten. -/
def lookUp (group : Group P) (now : Instant) (key : String) : Option View × Group P :=
  match group.store.find? key with
  | none => (none, group)
  | some view =>
      if view.isExpiredAt now then (none, { group with store := group.store.erase key })
      else (some view, group)

/-- Removes a key from the store. -/
def removeLocally (group : Group P) (key : String) : Group P :=
  { group with store := group.store.erase key }

/-- Ends a load. -/
def settleLoad (group : Group P) (call : CallId) (result : Option (Result View)) : Group P :=
  { group with loads := group.loads.settle call result }

/-- Ends a removal. -/
def settleRemoval (group : Group P) (call : CallId) (result : Option (Result Unit)) : Group P :=
  { group with removals := group.removals.settle call result }

/-- A new caller takes its place after all others. -/
def arrive (group : Group P) (context : CallContext) (key : String) (place : Place P) :
    Group P :=
  { group with callers := group.callers ++ [⟨context, key, place⟩] }

/-- A caller moves to another place. -/
def moveTo (group : Group P) (caller : Nat) (place : Place P) : Group P :=
  { group with callers := group.callers.modify caller fun entry => { entry with place } }

/-! ## Gets -/

/-- What a get does first: it looks its key up. -/
def beginGet (near : Surroundings P) (group : Group P) (key : String) : Place P × Group P :=
  match (group.bump .gets).lookUp near.now key with
  | (some view, after) => (.got (.ok view), after.bump .cacheHits)
  | (none, after) => (.missed, after.bump .loads)

/-- What a get does that has missed the store: it joins the load that is under way for its
key, or begins one. -/
def enterLoad (near : Surroundings P) (group : Group P) (key : String) : Place P × Group P :=
  match group.loads.find? key with
  | some call =>
      match group.loads.answer? call with
      | some result => (.got result, group)
      | none => (.joinedLoad call, group)
  | none =>
      let (call, loads) := group.loads.begin key key near.now
      (.leading call, { group with loads })

/-- What the leader of a load does first: it looks again; if it finds nothing, it asks the
owner of the key, or calls the loader if the key is local. -/
def leadLoad (near : Surroundings P) (group : Group P) (caller : Nat) (key : String)
    (call : CallId) : Place P × Group P × List (Event P) :=
  match group.lookUp near.now key with
  | (some view, after) => (.found call view, after.bump .cacheHits, [])
  | (none, after) =>
      match near.pick? key with
      | some peer =>
          (.askingPeer call peer, after.bump .loadsDeduped, [.askedPeer caller key peer])
      | none => (.loading call, after.bump .loadsDeduped, [.calledLoader caller key])

/-- The next thing that a get at work does. -/
def goOn (near : Surroundings P) (group : Group P) (caller : Nat) (key : String) :
    Place P → Place P × Group P × List (Event P)
  | .missed =>
      let (place, after) := enterLoad near group key
      (place, after, [])
  | .leading call => leadLoad near group caller key call
  | .found call view => (.got (.ok view), group.settleLoad call (some (.ok view)), [])
  | place => (place, group, [])

/-- What a get does until its first wait if nothing comes between: it has done by then at
most three things after its first look. -/
def runGet (near : Surroundings P) (group : Group P) (key : String) :
    Place P × Group P × List (Event P) :=
  let next := fun ((place, current, events) : Place P × Group P × List (Event P)) =>
    let (place, after, more) := goOn near current group.callers.length key place
    (place, after, events ++ more)
  let (place, begun) := beginGet near group key
  next (next (next (place, begun, [])))

/-- What the leader of a load does with the owner's reply. -/
def afterPeer (group : Group P) (caller : Nat) (key : String) (call : CallId) :
    Reply CacheError Response → Place P × Group P × List (Event P)
  | .returned (.ok response) =>
      let view := View.ofResponse response
      (.got (.ok view), (group.bump .peerLoads).settleLoad call (some (.ok view)), [])
  | .returned (.error _) =>
      (.loading call, group.bump .peerErrors, [.calledLoader caller key])
  | .panicked message => (.panicked message, group.settleLoad call none, [])

/-- What the leader of a load does with the loader's reply. -/
def afterLoader (group : Group P) (key : String) (call : CallId) :
    Reply Chain View → Place P × Group P
  | .returned (.ok view) =>
      let kept := { group.bump .localLoads with store := group.store.insert key view }
      (.got (.ok view), kept.settleLoad call (some (.ok view)))
  | .returned (.error cause) =>
      (.got (.error (.load cause)),
        (group.bump .localLoadErrors).settleLoad call (some (.error (.load cause))))
  | .panicked message => (.panicked message, group.settleLoad call none)

/-! ## Removals -/

/-- What the leader of a removal does once its peers have all ended. -/
def endRemoval (group : Group P) (call : CallId) (failure : Option CacheError) :
    Place P × Group P :=
  let result : Result Unit := match failure with
    | none => .ok ()
    | some error => .error error
  (.removed result, group.settleRemoval call (some result))

/-- The peers at which a removal goes on after its owner, with their numbers. -/
def broadcastTo [PeerHandle P] (near : Surroundings P) (owner : Option P) : List (P × Nat) :=
  (near.peers.filter fun peer =>
    owner.map PeerHandle.url ≠ some (PeerHandle.url peer)).zipIdx

/-- The requests in which a removal tells the other peers. -/
def announce [PeerHandle P] (near : Surroundings P) (owner : Option P) (caller : Nat)
    (key : String) : List (Event P) :=
  (broadcastTo near owner).map fun entry => .broadcast caller key entry.2 entry.1

/-- What the leader of a removal does after the owner: the key leaves the store, and
every other peer is told.  The removal ends in a later move, also if there is nobody to
tell. -/
def afterOwner [PeerHandle P] (near : Surroundings P) (group : Group P) (caller : Nat)
    (key : String) (call : CallId) (owner : Option P) : Place P × Group P × List (Event P) :=
  (.broadcasting call ((broadcastTo near owner).map Prod.snd) none, group.removeLocally key,
    announce near owner caller key)

/-- What a removal does until its first wait. -/
def beginRemove [PeerHandle P] (near : Surroundings P) (group : Group P) (key : String) :
    Place P × Group P × List (Event P) :=
  match group.removals.find? key with
  | some call =>
      match group.removals.answer? call with
      | some result => (.removed result, group, [])
      | none => (.joinedRemoval call, group, [])
  | none =>
      let (call, removals) := group.removals.begin key key near.now
      let begun := { group with removals }
      match near.pick? key with
      | some owner =>
          (.askingOwner call owner, begun, [.askedOwner group.callers.length key owner])
      | none => afterOwner near begun group.callers.length key call none

/-- What the leader of a removal does with the owner's reply. -/
def afterOwnerReply [PeerHandle P] (near : Surroundings P) (group : Group P) (caller : Nat)
    (key : String) (call : CallId) (owner : P) :
    Reply CacheError Unit → Place P × Group P × List (Event P)
  | .returned (.ok _) => afterOwner near group caller key call (some owner)
  | .returned (.error error) =>
      (.removed (.error error), group.settleRemoval call (some (.error error)), [])
  | .panicked message => (.panicked message, group.settleRemoval call none, [])

/-- The failure of a removal after one more of its peers has ended.  A peer at which
the removal panicked counts for nothing. -/
def noteFailure (failure : Option CacheError) : Reply CacheError Unit → Option CacheError
  | .returned (.error error) => some (failure.getD error)
  | _ => failure

/-! ## Moves -/

/-- A caller that waits for others ends if they have. -/
def pollPlace (group : Group P) : Place P → Place P × Group P
  | .joinedLoad call =>
      match group.loads.answer? call with
      | some result => (.got result, group)
      | none => (.joinedLoad call, group)
  | .joinedRemoval call =>
      match group.removals.answer? call with
      | some result => (.removed result, group)
      | none => (.joinedRemoval call, group)
  | .broadcasting call [] failure => group.endRemoval call failure
  | place => (place, group)

/-- A caller that is dropped leaves the load or removal that it leads without a
result.  One that is at work cannot be dropped before it waits. -/
def dropPlace (group : Group P) : Place P → Place P × Group P
  | .joinedLoad _ => (.dropped, group)
  | .joinedRemoval _ => (.dropped, group)
  | .askingPeer call _ => (.dropped, group.settleLoad call none)
  | .loading call => (.dropped, group.settleLoad call none)
  | .askingOwner call _ => (.dropped, group.settleRemoval call none)
  | .broadcasting call _ _ => (.dropped, group.settleRemoval call none)
  | place => (place, group)

/-- Follows a move.  A reply that nobody waits for changes nothing. -/
def step [PeerHandle P] (near : Surroundings P) (group : Group P) :
    Move → Group P × List (Event P)
  | .get context key =>
      let (place, after, events) := runGet near group key
      (after.arrive context key place, events)
  | .startGet context key =>
      let (place, after) := beginGet near group key
      (after.arrive context key place, [])
  | .goOn caller =>
      match group.callers[caller]? with
      | some ⟨_, key, place⟩ =>
          let (place, after, events) := goOn near group caller key place
          (after.moveTo caller place, events)
      | none => (group, [])
  | .peerReplied caller reply =>
      match group.callers[caller]? with
      | some ⟨_, key, .askingPeer call _⟩ =>
          let (place, after, events) := afterPeer group caller key call reply
          (after.moveTo caller place, events)
      | _ => (group, [])
  | .loaderReplied caller reply =>
      match group.callers[caller]? with
      | some ⟨_, key, .loading call⟩ =>
          let (place, after) := afterLoader group key call reply
          (after.moveTo caller place, [])
      | _ => (group, [])
  | .remove context key =>
      let (place, after, events) := beginRemove near group key
      (after.arrive context key place, events)
  | .ownerReplied caller reply =>
      match group.callers[caller]? with
      | some ⟨_, key, .askingOwner call owner⟩ =>
          let (place, after, events) := afterOwnerReply near group caller key call owner reply
          (after.moveTo caller place, events)
      | _ => (group, [])
  | .broadcastEnded caller number reply =>
      match group.callers[caller]? with
      | some ⟨_, _, .broadcasting call awaited failure⟩ =>
          if awaited.contains number then
            (group.moveTo caller
              (.broadcasting call (awaited.filter (· ≠ number)) (noteFailure failure reply)), [])
          else (group, [])
      | _ => (group, [])
  | .poll caller =>
      match group.callers[caller]? with
      | some entry =>
          let (place, after) := group.pollPlace entry.place
          (after.moveTo caller place, [])
      | none => (group, [])
  | .drop caller =>
      match group.callers[caller]? with
      | some entry =>
          let (place, after) := group.dropPlace entry.place
          (after.moveTo caller place, [])
      | none => (group, [])
  | .removeLocally key => (group.removeLocally key, [])
  | .look key => ((group.lookUp near.now key).2, [])
  | .serve => (group.bump .serverRequests, [])

/-- Follows moves, each in its own surroundings; the events are kept in order. -/
def run [PeerHandle P] (group : Group P) : List (Surroundings P × Move) → Group P × List (Event P)
  | [] => (group, [])
  | (near, move) :: rest =>
      let (after, events) := group.step near move
      let (last, later) := after.run rest
      (last, events ++ later)

/-- The number of callers that have not ended. -/
def waiting (group : Group P) : Nat :=
  (group.callers.filter fun caller => caller.place.isWaiting).length

end Group

end PeerCache
