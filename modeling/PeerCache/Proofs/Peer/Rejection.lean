/-
Module: PeerCache.Proofs.Peer.Rejection
Purpose: That a request which is refused does nothing, and how requests of peers are counted.
Main exports:
  Http.Status.refusals, Node.Handles, Node.receive_handles, Node.status_of_outcome?,
  Node.serverRequests_live, Node.refused_requests_do_nothing
-/
import PeerCache.Proofs.Group.Accounting
import PeerCache.Proofs.Group.OwnFailures
import PeerCache.Proofs.Peer.RemoteCall

/-!
A request that is handled is one of three things (`Handles`): nothing is done and it is answered; a
removal is done, and answered with success; or a caller of a group runs for it, and it is answered
with what this caller comes to.  Errors of all kinds share the statuses of answers.  But what a
caller comes to is never a refusal: it is a success, or a failure of the group's own making, which
is no fault of the request.  So an answer that is one can only come of the first kind, whatever
happens between the request and its answer.

A peer's request that names a group is counted there when it arrives, and nothing that happens later
counts it again.
-/

namespace PeerCache

/-- The statuses with which requests are refused. -/
def Http.Status.refusals : List Http.Status := [.badRequest, .notFound, .methodNotAllowed]

namespace Node

open Http.Status (refusals)

/-- What may become of a node's request: it is answered and nothing is done; or it is done and
answered, with no refusal; or a caller of a group begins to run for it. -/
inductive Handles (node : Node) : Node × Handling × List NodeEvent → Prop where
  | answered (answer : Http.Answer) : Handles node (node, .answered answer, [])
  | done (after : Node) (status : Http.Status) (accepted : status ∉ refusals)
      (events : List NodeEvent) : Handles node (after, .answered (.empty status), events)
  | begun (after : Node) (position caller : Nat) (errand : Errand) (headOnly : Bool)
      (events : List NodeEvent) :
      Handles node (after, .running position caller errand headOnly, events)

section Handling

variable {node : Node} {now : Instant} {request : Http.Request}

theorem handles_start (node started : Node) (now : Instant) (position : Nat) (move : Group.Move)
    (errand : Errand) (headOnly : Bool) :
    node.Handles (started.start now position move errand headOnly) := by
  unfold start
  cases started.groups[position]? with
  | none => exact .done started _ (by decide) []
  | some group => exact .begun _ _ _ _ _ _

theorem handles_receiveCache (names : Except String (String × String)) :
    node.Handles (node.receiveCache now request names) := by
  unfold receiveCache
  dsimp only
  split
  case isTrue => exact .answered _
  case isFalse =>
      cases names with
      | error name => exact .answered _
      | ok names =>
          cases found : node.position? names.1 with
          | none =>
              simp only [found]
              split <;> exact .answered _
          | some position =>
              simp only [found]
              split <;> exact handles_start _ _ _ _ _ _ _

theorem handles_receivePeer (remainder : Except RemainderFault String) :
    node.Handles (node.receivePeer now request remainder) := by
  unfold receivePeer receivePeerGet receivePeerRemove
  dsimp only
  cases node.resolve remainder with
  | error error =>
      split
      case isTrue => exact .answered _
      case isFalse => split <;> exact .answered _
  | ok target =>
      split
      case isTrue => exact handles_start _ _ _ _ _ _ _
      case isFalse =>
          split
          case isTrue => exact .done _ .ok (by decide) []
          case isFalse => exact .answered _

theorem receive_handles (node : Node) (now : Instant) (request : Http.Request) :
    node.Handles (node.receive now request) := by
  unfold receive
  cases node.routes.destination request.target.path with
  | cache names => exact handles_receiveCache names
  | stats name => exact .answered _
  | peer remainder => exact handles_receivePeer remainder
  | unrouted => exact .answered _

end Handling

/-! ## Answers to requests for which callers run -/

section Answers

variable {node : Node} {errand : Errand} {place : Place Transport} {answer : Http.Answer}

theorem status_trimmed (headOnly : Bool) (answer : Http.Answer) :
    (trimmed headOnly answer).status = answer.status := by
  cases headOnly <;> rfl

/-- A caller that has ended without a failure from elsewhere does not refuse a request. -/
theorem status_of_placeOutcome? (usual : node.pool.options.errorHook = none)
    (own : place.FailsByItself)
    (ended : node.placeOutcome? errand place = some (.answered answer)) :
    answer.status ∉ refusals := by
  have success : Http.Status.ok ∉ refusals := by decide
  have inside : Http.Status.internalServerError ∉ refusals := by decide
  have elsewhere : Http.Status.badGateway ∉ refusals := by decide
  unfold placeOutcome? at ended
  split at ended
  case h_1 result =>
      cases ended
      cases result with
      | ok view => exact success
      | error error => exact inside
  case h_2 result =>
      cases ended
      cases result with
      | ok done => exact success
      | error error => exact elsewhere
  case h_3 context target result =>
      cases ended
      cases result with
      | ok view => exact success
      | error error =>
          have isOwn : error.IsOwn := own
          rw [peerAnswer, PeerPool.failureAnswer, usual]
          change error.status ∉ refusals
          rw [isOwn.status_eq]
          exact inside
  all_goals cases ended

/-- No request for which a caller runs is refused. -/
theorem status_of_outcome? (reachable : node.Reachable)
    (usual : node.pool.options.errorHook = none) {position caller : Nat} {headOnly : Bool}
    (known : node.outcome? (.running position caller errand headOnly) = some (.answered answer)) :
    answer.status ∉ refusals := by
  have groups : ∀ group ∈ node.groups, group.Orderly ∧ group.Yields fun _ => IsOwnResult :=
    reachable.forall_groups (fun near _ move => Group.step_yields_own near move)
      fun name => ⟨Group.orderly_new name, Group.yields_new _ name⟩
  simp only [outcome?] at known
  split at known
  case h_1 => cases known
  case h_2 => cases known
  case h_3 whole ended =>
      obtain rfl := Outcome.answered.inj (Option.some.inj known)
      obtain ⟨place, stands, ended⟩ := Option.bind_eq_some_iff.mp ended
      rw [place?, Option.map_eq_some_iff] at stands
      obtain ⟨entry, at_, rfl⟩ := stands
      obtain ⟨group, found, there⟩ := Option.bind_eq_some_iff.mp at_
      have own := (groups group (List.mem_of_getElem? found)).2.failsByItself.callers entry
        (List.mem_of_getElem? there)
      rw [status_trimmed]
      exact status_of_placeOutcome? usual own ended

end Answers

/-! ## Counting -/

section Counting

variable {node : Node} {now : Instant} {request : Http.Request} {position : Nat}
  {group key : String} {owned : Group Transport}

/-- The number of requests of peers that arrive at the group at a position. -/
def served (node : Node) (position : Nat) (happenings : List (Instant × Happening)) : Nat :=
  (node.movesOf position happenings).countP fun timed => timed.2.isServe

/-- A group counts the requests of peers that arrive at it, and nothing else as such. -/
theorem serverRequests_live (reachable : node.Reachable)
    (found : node.groups[position]? = some owned) (happenings : List (Instant × Happening)) :
    ∃ later, (node.live happenings).groups[position]? = some later ∧
      later.stats.serverRequests =
        owned.stats.serverRequests + node.served position happenings := by
  have orderly := reachable.forall_groups (fun near _ move => Group.step_orderly near move)
    Group.orderly_new
  exact ⟨_, (becomes_live node happenings).groups position owned found,
    Group.serverRequests_run (orderly owned (List.mem_of_getElem? found)) _⟩

/-- What a peer's request that names a registered group makes of groups: this one counts it, and
then reads the key or takes it from its store. -/
theorem ResolvesTo.requestMoves (resolves : node.ResolvesTo request.target.path group key)
    (registered : node.position? group = some position)
    (admitted : reads request.method = true ∨ request.method = "DELETE") :
    ∃ move : Group.Move, move.isServe = false ∧
      node.requestMoves request = [(position, .serve), (position, move)] := by
  obtain ⟨remainder, leads, names⟩ := resolves
  have resolved : node.resolve (.ok remainder) = .ok (position, key) := by
    simp only [resolve, names, registered]
  unfold Node.requestMoves
  simp only [leads, resolved]
  by_cases isRead : reads request.method = true
  · rw [if_pos isRead]
    exact ⟨_, rfl, rfl⟩
  · rw [if_neg isRead, if_pos (admitted.resolve_left isRead)]
    exact ⟨_, rfl, rfl⟩

/-- Such a request arrives once at this group, and at no other. -/
theorem ResolvesTo.served_eq (resolves : node.ResolvesTo request.target.path group key)
    (registered : node.position? group = some position)
    (admitted : reads request.method = true ∨ request.method = "DELETE") (other : Nat)
    (happenings : List (Instant × Happening)) :
    node.served other ((now, .received request) :: happenings) =
      (if other = position then 1 else 0) +
        (node.receive now request).1.served other happenings := by
  obtain ⟨move, notServe, moves⟩ := resolves.requestMoves registered admitted
  rw [served, movesOf, List.countP_append, movesMade, moves]
  congr 1
  by_cases same : position = other
  · subst same
    simp only [movesAt, List.filterMap_cons, List.filterMap_nil, if_true, List.countP_cons,
      List.countP_nil, notServe]
    rfl
  · have apart : ¬ other = position := fun equal => same equal.symm
    simp only [movesAt, same, apart, List.filterMap_cons, List.filterMap_nil, if_false,
      List.countP_nil]

/-- A node where the group at a position has counted a removal by a peer, and has done it. -/
def afterRemoval (node : Node) (position : Nat) (owned : Group Transport) (key : String) : Node :=
  { node with groups := node.groups.set position ((owned.bump .serverRequests).removeLocally key) }

/-- A peer's removal is answered at once, and does nothing else. -/
theorem ResolvesTo.receive_removal (resolves : node.ResolvesTo request.target.path group key)
    (registered : node.position? group = some position)
    (found : node.groups[position]? = some owned) (isDelete : request.method = "DELETE") :
    node.receive now request =
      (node.afterRemoval position owned key, .answered (.empty .ok), []) := by
  have isMethod : request.method = PeerMethod.delete.text := isDelete
  obtain ⟨bound, -⟩ := List.getElem?_eq_some_iff.mp found
  rw [resolves.receive isMethod]
  simp only [registered, servePeer, step, found, List.getElem?_set_self bound, List.set_set]
  rfl

end Counting

/-- Whatever has happened to a node that answers failures as usual, let any request come in.

If it is refused, at once or after anything that happens meanwhile, then it has not changed the
node, and neither a loader nor a peer was called for it.

And if it is a peer's request that reads or removes a key of a registered group, then it is counted
there once and nowhere else: whatever happens later, each group has counted as many requests of
peers as before, this one at its group, and those that have come since.  If it removes the key,
then it changes nothing but this count and what the store of this group has for the key. -/
theorem refused_requests_do_nothing {node : Node} (reachable : node.Reachable)
    (usual : node.pool.options.errorHook = none) (now : Instant) (request : Http.Request) :
    let received := node.receive now request
    (∀ happenings answer,
      (received.1.live happenings).outcome? received.2.1 = some (.answered answer) →
      answer.status ∈ refusals → received = (node, .answered answer, [])) ∧
    (∀ group key position, node.ResolvesTo request.target.path group key →
      node.position? group = some position →
      reads request.method = true ∨ request.method = "DELETE" →
      (∀ happenings other before, node.groups[other]? = some before →
        ∃ later, (received.1.live happenings).groups[other]? = some later ∧
          later.stats.serverRequests = before.stats.serverRequests +
            ((if other = position then 1 else 0) + received.1.served other happenings)) ∧
      (request.method = "DELETE" → ∃ owned, node.groups[position]? = some owned ∧
        received = (node.afterRemoval position owned key, .answered (.empty .ok), []) ∧
        ∀ name, ((owned.bump .serverRequests).removeLocally key).store.find? name =
          if name = key then none else owned.store.find? name)) := by
  intro received
  constructor
  · intro happenings answer known refused
    have handled : node.Handles received := receive_handles node now request
    have later : (received.1.live happenings).Reachable :=
      (reachable.receive now request).live happenings
    have settings : (received.1.live happenings).pool.options.errorHook = none := by
      have kept := (becomes_live node ((now, .received request) :: happenings)).options
      exact (congrArg PoolOptions.errorHook kept).trans usual
    clear_value received
    cases handled with
    | answered given =>
        cases known
        rfl
    | done after status accepted events =>
        cases known
        exact absurd refused accepted
    | begun after position caller errand headOnly events =>
        exact absurd refused (status_of_outcome? later settings known)
  · intro group key position resolves registered admitted
    constructor
    · intro happenings other before found
      obtain ⟨last, there, counted⟩ :=
        serverRequests_live reachable found ((now, .received request) :: happenings)
      rw [resolves.served_eq registered admitted] at counted
      exact ⟨last, there, counted⟩
    · intro isDelete
      obtain ⟨owned, found⟩ := reachable.sound.exists_group registered
      exact ⟨owned, found, resolves.receive_removal registered found isDelete,
        Store.find?_erase owned.store key⟩

/-- A peer that asks for a group that is not there is refused; one that removes a key of the group
that is there is counted there. -/
theorem films_refused_and_removal_counted :
    let node := serving "books"
    let answer := Http.Answer.plainText .notFound "group not found: \"films\""
    let removed := node.receive ⟨0⟩ ⟨"DELETE", .ofText "/_groupcache/books/k", []⟩
    node.receive ⟨0⟩ ⟨"GET", .ofText "/_groupcache/films/k", []⟩ = (node, .answered answer, []) ∧
      removed = (node.afterRemoval 0 (.new "books") "k", .answered (.empty .ok), []) ∧
      ∃ later, (removed.1.live []).groups[0]? = some later ∧ later.stats.serverRequests = 1 := by
  intro node answer removed
  have reachable : node.Reachable := ⟨_, [(⟨0⟩, .registered "books")], rfl, rfl, rfl⟩
  have resolves : node.ResolvesTo (Http.Target.ofText "/_groupcache/books/k").path "books" "k" :=
    ⟨"books/k", rfl, by decide⟩
  obtain ⟨refuses, -⟩ := refused_requests_do_nothing reachable rfl ⟨0⟩
    ⟨"GET", .ofText "/_groupcache/films/k", []⟩
  obtain ⟨-, counts⟩ := refused_requests_do_nothing reachable rfl ⟨0⟩
    ⟨"DELETE", .ofText "/_groupcache/books/k", []⟩
  obtain ⟨adds, removes⟩ := counts "books" "k" 0 resolves rfl (Or.inr rfl)
  obtain ⟨owned, found, isRemoved, -⟩ := removes rfl
  obtain rfl := Option.some.inj found
  exact ⟨refuses [] answer (by decide +kernel) (by decide), isRemoved, adds [] 0 _ rfl⟩

end Node

end PeerCache
