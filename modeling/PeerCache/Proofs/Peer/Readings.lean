/-
Module: PeerCache.Proofs.Peer.Readings
Purpose: What requests that read a key begin, and with what they are answered.
Main exports:
  Node.ReadsKey, Node.ReadsKey.receive, Node.Conveys, Node.conveys_of_outcome?,
  Node.isWaiting_of_outcome?
-/
import PeerCache.Proofs.Group.Questions
import PeerCache.Proofs.Group.Results
import PeerCache.Proofs.Peer.RemoteCall

/-!
The public reads a key by its name and that of its group, a peer by the path below the base path
(`Node.ReadsKey`).  Either way a get begins for the key, and the request is answered with what the
get comes to; if the get is lost, the connection closes (`Node.Conveys`).
-/

namespace PeerCache

/-- Whether the errand is to read. -/
def Errand.isRead : Errand → Bool
  | .publicGet => true
  | .publicRemove => false
  | .peerGet _ _ => true

namespace Node

/-- The request reads a key of the group with a name, on such an errand. -/
inductive ReadsKey (node : Node) (request : Http.Request) (group key : String) : Errand → Prop where
  | ofPublic (isRead : reads request.method = true)
      (routed : node.routes.destination request.target.path = .cache (.ok (group, key))) :
      ReadsKey node request group key .publicGet
  | ofPeer (isRead : reads request.method = true)
      (resolves : node.ResolvesTo request.target.path group key) :
      ReadsKey node request group key
        (.peerGet (node.pool.requestContext request.headers) request.target.text)

/-- The answer, or the end of the connection, conveys to who has read a key something that may
be. -/
inductive Conveys (node : Node) (errand : Errand) (headOnly : Bool) (may : Result View → Prop) :
    Outcome → Prop where
  | answered {result : Result View} {answer : Http.Answer} (allowed : may result)
      (shown : node.placeOutcome? errand (.got result) = some (.answered answer)) :
      Conveys node errand headOnly may (.answered (trimmed headOnly answer))
  | closed (lost : may (.error .leaderFailed)) : Conveys node errand headOnly may .closed

section Requests

variable {node : Node} {now : Instant} {request : Http.Request} {name key : String}
  {position : Nat} {group : Group Transport} {errand : Errand}

/-- A get begins for the key. -/
theorem start_get (found : node.groups[position]? = some group) (now : Instant)
    (context : CallContext) (key : String) (errand : Errand) (headOnly : Bool) :
    ∃ after events, node.start now position (.get context key) errand headOnly =
        (after, .running position group.callers.length errand headOnly, events) ∧
      ∃ last entry, after.groups[position]? = some last ∧
        last.callers[group.callers.length]? = some entry ∧ entry.key = key ∧
        entry.place.isOfGet = true := by
  have transition := Group.step_transition (node.surroundings now) group (.get context key)
  obtain ⟨place, at_, isGet⟩ := transition.isOfGet_of_get
  obtain ⟨bound, -⟩ := List.getElem?_eq_some_iff.mp found
  refine ⟨_, _, by rw [start, found], _, _, ?_, at_, rfl, isGet⟩
  rw [step, found, List.getElem?_set_self bound]

/-- What a request reads shows in the routes and the pool of the node. -/
theorem ReadsKey.congr {first : Node} (readsKey : node.ReadsKey request name key errand)
    (routes : first.routes = node.routes) (pool : first.pool = node.pool) :
    first.ReadsKey request name key errand := by
  cases readsKey with
  | ofPublic isRead routed => exact .ofPublic isRead (routes ▸ routed)
  | ofPeer isRead resolves =>
      rw [← pool]
      obtain ⟨remainder, routed, names⟩ := resolves
      exact .ofPeer isRead ⟨remainder, routes ▸ routed, names⟩

theorem ReadsKey.isRead (readsKey : node.ReadsKey request name key errand) :
    errand.isRead = true := by
  cases readsKey <;> rfl

/-- A request that reads a key of a group that is there begins a get for it. -/
theorem ReadsKey.receive (readsKey : node.ReadsKey request name key errand)
    (isNamed : node.position? name = some position) (found : node.groups[position]? = some group)
    (now : Instant) :
    ∃ after events, node.receive now request =
        (after, .running position group.callers.length errand (request.method = "HEAD"), events) ∧
      ∃ last entry, after.groups[position]? = some last ∧
        last.callers[group.callers.length]? = some entry ∧ entry.key = key ∧
        entry.place.isOfGet = true := by
  cases readsKey with
  | ofPublic isRead routed =>
      have begun := start_get found now (.ofHeaders request.headers) key .publicGet
        (request.method = "HEAD")
      simpa only [Node.receive, routed, receiveCache, isRead, isNamed, Bool.true_or, Bool.not_true,
        Bool.false_eq_true, if_false, if_true] using begun
  | ofPeer isRead resolves =>
      obtain ⟨remainder, routed, names⟩ := resolves
      obtain ⟨bound, -⟩ := List.getElem?_eq_some_iff.mp found
      have counted : (node.step now position .serve).1.groups[position]? =
          some (group.bump .serverRequests) := by
        rw [step, found]
        exact List.getElem?_set_self bound
      have begun := start_get counted now (node.pool.requestContext request.headers) key
        (.peerGet (node.pool.requestContext request.headers) request.target.text)
        (request.method = "HEAD")
      simp only [Node.receive, routed, receivePeer, receivePeerGet, isRead, resolve, names, isNamed,
        if_true]
      exact begun

end Requests

section Answers

variable {node : Node} {errand : Errand} {headOnly : Bool} {position caller : Nat}
  {place : Place Transport} {may : Result View → Prop} {outcome : Outcome}

/-- A get that has ended conveys what it has come to. -/
theorem conveys_of_outcome? (isRead : errand.isRead = true)
    (at_ : node.place? position caller = some place) (isGet : place.isOfGet = true)
    (yields : place.Yields may)
    (ended : node.outcome? (.running position caller errand headOnly) = some outcome) :
    node.Conveys errand headOnly may outcome := by
  rw [outcome?, at_, Option.bind_some] at ended
  cases place with
  | got result =>
      cases errand with
      | publicRemove => cases isRead
      | publicGet | peerGet =>
          cases ended
          exact .answered yields rfl
  | panicked message | dropped =>
      cases errand <;> cases ended <;> exact .closed yields
  | missed | leading | found | joinedLoad | askingPeer | loading => cases errand <;> cases ended
  | joinedRemoval | askingOwner | broadcasting | removed => cases isGet

/-- What an answer conveys shows in the pool of the node. -/
theorem Conveys.congr {first : Node} (conveys : first.Conveys errand headOnly may outcome)
    (pool : first.pool = node.pool) : node.Conveys errand headOnly may outcome := by
  cases conveys with
  | closed lost => exact .closed lost
  | answered allowed shown =>
      refine .answered allowed (Eq.trans ?_ shown)
      cases errand with
      | publicGet | publicRemove => rfl
      | peerGet context target =>
          simp only [placeOutcome?, peerAnswer, pool]

/-- Where there is no answer yet, the get waits. -/
theorem isWaiting_of_outcome? (isRead : errand.isRead = true)
    (at_ : node.place? position caller = some place) (isGet : place.isOfGet = true)
    (unknown : node.outcome? (.running position caller errand headOnly) = none) :
    place.isWaiting = true := by
  rw [outcome?, at_, Option.bind_some] at unknown
  cases place with
  | got result =>
      cases errand with
      | publicRemove => cases isRead
      | publicGet | peerGet => cases unknown
  | panicked | dropped => cases errand <;> cases unknown
  | missed | leading | found | joinedLoad | askingPeer | loading => rfl
  | joinedRemoval | askingOwner | broadcasting | removed => cases isGet

end Answers

end Node

end PeerCache
