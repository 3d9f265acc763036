/-
Module: PeerCache.Proofs.Cluster.GroupMoves
Purpose: What happens in a cluster, as moves of its groups.
Main exports:
  GroupMove, historyOf, Node.requestMoves, Cluster.movesOfStep, Cluster.movesOfRun,
  Cluster.moveGroups_requestMoves, Cluster.conclude_eq, Cluster.followAll_cons
-/
import PeerCache.Cluster

/-!
What happens in a cluster comes down to moves of groups: requests, answers and failed calls
each move a group of one node, and a call that cannot be sent makes its group move at once
again.  `Cluster.movesOfRun` reads these moves off a run, in order, each with the surroundings
that the group saw.

The functions here follow those of `PeerCache.Cluster` one by one and say nothing about the
groups that the moves leave.  That there are no other moves is shown in
`PeerCache.Proofs.Cluster.GroupRuns`.
-/

namespace PeerCache

/-- A move of a group of a node, and what the group saw around it. -/
structure GroupMove where
  node : Nat
  group : Nat
  near : Surroundings Transport
  move : Group.Move

/-- The moves of one group among all. -/
def historyOf (log : List GroupMove) (node group : Nat) :
    List (Surroundings Transport × Group.Move) :=
  log.filterMap fun entry =>
    if entry.node = node ∧ entry.group = group then some (entry.near, entry.move) else none

@[simp] theorem historyOf_nil (node group : Nat) : historyOf [] node group = [] := rfl

theorem historyOf_append (before later : List GroupMove) (node group : Nat) :
    historyOf (before ++ later) node group =
      historyOf before node group ++ historyOf later node group :=
  List.filterMap_append

theorem mem_historyOf_iff {log : List GroupMove} {node group : Nat}
    {near : Surroundings Transport} {move : Group.Move} :
    (near, move) ∈ historyOf log node group ↔ ⟨node, group, near, move⟩ ∈ log := by
  rw [historyOf, List.mem_filterMap]
  constructor
  · rintro ⟨⟨node', group', near', move'⟩, member, found⟩
    split at found
    case isTrue here =>
        obtain ⟨rfl, rfl⟩ := here
        cases found
        exact member
    case isFalse => cases found
  · intro member
    exact ⟨_, member, if_pos ⟨rfl, rfl⟩⟩

/-- The moves of groups that a request makes. -/
def Node.requestMoves (node : Node) (request : Http.Request) : List (Nat × Group.Move) :=
  match node.routes.destination request.target.path with
  | .cache (.ok (group, key)) =>
      match node.position? group with
      | some position =>
          if reads request.method then
            [(position, .get (.ofHeaders request.headers) key)]
          else if request.method = "DELETE" then
            [(position, .remove (.ofHeaders request.headers) key)]
          else []
      | none => []
  | .peer remainder =>
      match node.resolve remainder with
      | .ok (position, key) =>
          if reads request.method then
            [(position, .serve), (position, .get (node.pool.requestContext request.headers) key)]
          else if request.method = "DELETE" then
            [(position, .serve), (position, .removeLocally key)]
          else []
      | .error _ => []
  | _ => []

namespace Cluster

/-! ## Moves of groups, read off -/

/-- A move of a group, if there is such a node. -/
def groupMove (cluster : Cluster) (now : Instant) (position group : Nat) (move : Group.Move) :
    List GroupMove :=
  match cluster.nodes[position]? with
  | some node => [⟨position, group, node.surroundings now, move⟩]
  | none => []

/-- Makes moves of groups of a node, one after another. -/
def moveGroups (cluster : Cluster) (now : Instant) (position : Nat) :
    List (Nat × Group.Move) → Cluster × List NodeEvent
  | [] => (cluster, [])
  | (group, move) :: rest =>
      let (after, events) := cluster.moveGroup now position group move
      let (last, later) := after.moveGroups now position rest
      (last, events ++ later)

/-- The moves that `moveGroups` makes. -/
def groupMoves (cluster : Cluster) (now : Instant) (position : Nat) :
    List (Nat × Group.Move) → List GroupMove
  | [] => []
  | (group, move) :: rest =>
      cluster.groupMove now position group move ++
        (cluster.moveGroup now position group move).1.groupMoves now position rest

/-- The call of a peer that an event asks for. -/
def callFor? : Group.Event Transport → Option (Nat × CallPurpose × String × Transport)
  | .calledLoader _ _ => none
  | .askedPeer caller key peer => some (caller, .get, key, peer)
  | .askedOwner caller key owner => some (caller, .removeAtOwner, key, owner)
  | .broadcast caller key number peer => some (caller, .broadcast number, key, peer)

/-- The move of a caller whose call has failed. -/
def failureOf (caller : Nat) (error : CacheError) : CallPurpose → Group.Move
  | .get => .peerReplied caller (.returned (.error error))
  | .removeAtOwner => .ownerReplied caller (.returned (.error error))
  | .broadcast number => .broadcastEnded caller number (.returned (.error error))

/-- The moves that `follow` makes: one, if the call cannot be sent. -/
def movesOfFollow (now : Instant) (position : Nat) (cluster : Cluster) :
    NodeEvent → List GroupMove
  | (group, event) =>
      match callFor? event with
      | none => []
      | some (caller, purpose, key, transport) =>
          match cluster.send position group caller purpose key transport with
          | (_, none) => []
          | (unsent, some error) =>
              unsent.groupMove now position group (failureOf caller error purpose)

/-- The moves that `followAll` makes. -/
def movesOfFollowAll (now : Instant) (position : Nat) (cluster : Cluster) :
    List NodeEvent → List GroupMove
  | [] => []
  | event :: rest =>
      movesOfFollow now position cluster event ++
        movesOfFollowAll now position (follow now position cluster event).1 rest

/-- The moves that come of moves of groups of a node, those included. -/
def movesOfActing (cluster : Cluster) (now : Instant) (position : Nat)
    (moves : List (Nat × Group.Move)) : List GroupMove :=
  let (after, events) := cluster.moveGroups now position moves
  cluster.groupMoves now position moves ++ movesOfFollowAll now position after events

/-- The moves that `receive` makes. -/
def movesOfReceive (cluster : Cluster) (now : Instant) (position : Nat)
    (request : Http.Request) : List GroupMove :=
  match cluster.nodes[position]? with
  | some node => cluster.movesOfActing now position (node.requestMoves request)
  | none => []

/-- What a caller hears of a call that has come to a result, and the buffers after that. -/
def resultOf (call : RemoteCall) (delivery : Delivery) (buffers : BufferPool) :
    Group.Move × BufferPool :=
  let address := call.outgoing.url.text
  match call.purpose with
  | .get =>
      let (result, rest) :=
        Transport.receiveResponse call.groupName call.key address delivery buffers
      (.peerReplied call.caller (.returned result), rest)
  | .removeAtOwner =>
      let (result, rest) :=
        Transport.receiveRemoval call.groupName call.key address delivery buffers
      (.ownerReplied call.caller (.returned result), rest)
  | .broadcast number =>
      let (result, rest) :=
        Transport.receiveRemoval call.groupName call.key address delivery buffers
      (.broadcastEnded call.caller number (.returned result), rest)

/-- The cluster in which a call has ended, and its node has these buffers. -/
def ending (cluster : Cluster) (index : Nat) (call : RemoteCall) (node : Node)
    (buffers : BufferPool) : Cluster :=
  (cluster.atStage index .ended).setNode call.node { node with buffers }

/-- The moves that `conclude` makes. -/
def movesOfConclude (cluster : Cluster) (now : Instant) (index : Nat) (call : RemoteCall)
    (delivery : Delivery) : List GroupMove :=
  match cluster.nodes[call.node]? with
  | some node =>
      let (move, buffers) := resultOf call delivery node.buffers
      (cluster.ending index call node buffers).movesOfActing now call.node [(call.group, move)]
  | none => []

/-- The moves that `step` makes. -/
def movesOfStep (cluster : Cluster) (now : Instant) : Move → List GroupMove
  | .set _ _ => []
  | .inGroup position group move => cluster.movesOfActing now position [(group, move)]
  | .request position request => cluster.movesOfReceive now position request
  | .arrive index =>
      match cluster.calls[index]? with
      | some call =>
          match call.stage, cluster.nodeAt? call.outgoing.url.authority with
          | .travelling, some position =>
              cluster.movesOfReceive now position (arriving call.outgoing)
          | _, _ => []
      | none => []
  | .reply index =>
      match cluster.calls[index]? with
      | some call =>
          match cluster.servedDelivery? call.stage with
          | some delivery => cluster.movesOfConclude now index call delivery
          | none => []
      | none => []
  | .resolve index delivery =>
      match cluster.calls[index]? with
      | some call =>
          match call.stage with
          | .ended => []
          | _ => cluster.movesOfConclude now index call delivery
      | none => []

/-- The moves of groups that a run makes, in order. -/
def movesOfRun (cluster : Cluster) : List (Instant × Move) → List GroupMove
  | [] => []
  | (now, move) :: rest =>
      cluster.movesOfStep now move ++ (cluster.step now move).1.movesOfRun rest

/-! ## What a cluster does, put as moves of groups -/

section Specs

variable {cluster : Cluster} {now : Instant} {position : Nat}

@[simp] theorem moveGroups_one (cluster : Cluster) (now : Instant) (position group : Nat)
    (move : Group.Move) :
    cluster.moveGroups now position [(group, move)] =
      cluster.moveGroup now position group move := by
  simp [moveGroups]

theorem actInGroup_eq (cluster : Cluster) (now : Instant) (position group : Nat)
    (move : Group.Move) :
    cluster.actInGroup now position group move =
      followAll now position (cluster.moveGroups now position [(group, move)]).1
        (cluster.moveGroups now position [(group, move)]).2 := by
  rw [moveGroups_one]
  rfl

theorem conclude_eq (index : Nat) (call : RemoteCall) (delivery : Delivery) {node : Node}
    (here : cluster.nodes[call.node]? = some node) :
    cluster.conclude now index call delivery =
      (cluster.ending index call node (resultOf call delivery node.buffers).2).actInGroup now
        call.node call.group (resultOf call delivery node.buffers).1 := by
  unfold conclude resultOf ending
  rw [here]
  cases call.purpose with
  | get => rfl
  | removeAtOwner => rfl
  | broadcast number => rfl

theorem nodes_setNode_self {node : Node} (here : cluster.nodes[position]? = some node)
    (after : Node) : (cluster.setNode position after).nodes[position]? = some after := by
  obtain ⟨bound, -⟩ := List.getElem?_eq_some_iff.mp here
  simp [setNode, bound]

theorem setNode_same {node : Node} (here : cluster.nodes[position]? = some node) :
    cluster.setNode position node = cluster := by
  obtain ⟨bound, rfl⟩ := List.getElem?_eq_some_iff.mp here
  simp [setNode]

theorem setNode_setNode (cluster : Cluster) (position : Nat) (first second : Node) :
    (cluster.setNode position first).setNode position second =
      cluster.setNode position second := by
  simp [setNode]

theorem moveGroup_eq {node : Node} (here : cluster.nodes[position]? = some node)
    (now : Instant) (group : Nat) (move : Group.Move) :
    cluster.moveGroup now position group move =
      (cluster.setNode position (node.step now group move).1, (node.step now group move).2) := by
  rw [moveGroup, here]

theorem moveGroups_none {node : Node} (here : cluster.nodes[position]? = some node)
    (now : Instant) :
    cluster.moveGroups now position [] = (cluster.setNode position node, []) := by
  rw [setNode_same here]
  rfl

theorem moveGroups_two {node : Node} (here : cluster.nodes[position]? = some node)
    (now : Instant) (group : Nat) (first second : Group.Move) :
    cluster.moveGroups now position [(group, first), (group, second)] =
      (cluster.setNode position ((node.step now group first).1.step now group second).1,
        (node.step now group first).2 ++
          ((node.step now group first).1.step now group second).2) := by
  have there := nodes_setNode_self here (node.step now group first).1
  simp only [moveGroups, moveGroup_eq here, moveGroup_eq there, setNode_setNode,
    List.append_nil]

/-- To start a caller is to make the move with which it comes. -/
theorem start_eq (node : Node) (now : Instant) (group : Nat) (move : Group.Move)
    (errand : Errand) (headOnly : Bool) :
    (node.start now group move errand headOnly).1 = (node.step now group move).1 ∧
      (node.start now group move errand headOnly).2.2 = (node.step now group move).2 := by
  unfold Node.start
  cases found : node.groups[group]? with
  | none => simp [Node.step, found]
  | some here => exact ⟨rfl, rfl⟩

/-- A request does nothing to its node but the moves that it makes. -/
theorem moveGroups_requestMoves {node : Node} (here : cluster.nodes[position]? = some node)
    (now : Instant) (request : Http.Request) :
    cluster.moveGroups now position (node.requestMoves request) =
      (cluster.setNode position (node.receive now request).1,
        (node.receive now request).2.2) := by
  have idle := moveGroups_none here now
  have served (group : Nat) : (node.step now group .serve).2 = [] := by
    unfold Node.step
    split <;> rfl
  have removed (other : Node) (group : Nat) (key : String) :
      (other.step now group (.removeLocally key)).2 = [] := by
    unfold Node.step
    split <;> rfl
  unfold Node.requestMoves Node.receive
  cases node.routes.destination request.target.path with
  | unrouted => exact idle
  | stats name => exact idle
  | cache names =>
      unfold Node.receiveCache
      cases names with
      | error name =>
          simp only
          split <;> exact idle
      | ok names =>
          obtain ⟨name, key⟩ := names
          cases found : node.position? name with
          | none =>
              simp only [found]
              split
              · exact idle
              · split <;> exact idle
          | some group =>
              by_cases read : Node.reads request.method = true
              · simp only [found, read, if_true, Bool.true_or, Bool.not_true, Bool.false_eq_true,
                  if_false, moveGroups_one, moveGroup_eq here, start_eq]
              · by_cases delete : request.method = "DELETE"
                · simp only [found, if_neg read, if_pos delete, decide_eq_true delete, Bool.or_true,
                    Bool.not_true, Bool.false_eq_true, if_false, moveGroups_one, moveGroup_eq here,
                    start_eq]
                · have neither : Node.reads request.method = false := Bool.eq_false_iff.mpr read
                  simp only [found, neither, if_neg delete, decide_eq_false delete, Bool.or_false,
                    Bool.not_false, Bool.false_eq_true, if_true, if_false]
                  exact idle
  | peer remainder =>
      unfold Node.receivePeer Node.receivePeerGet Node.receivePeerRemove
      cases found : node.resolve remainder with
      | error error =>
          simp only [found]
          split
          · exact idle
          · split <;> exact idle
      | ok target =>
          obtain ⟨group, key⟩ := target
          by_cases read : Node.reads request.method = true
          · simp only [found, if_pos read, moveGroups_two here, served, start_eq, List.nil_append]
          · by_cases delete : request.method = "DELETE"
            · simp only [found, if_neg read, if_pos delete, moveGroups_two here, served, removed,
                List.nil_append]
            · simp only [found, if_neg read, if_neg delete]
              exact idle

theorem receive_eq {node : Node} (here : cluster.nodes[position]? = some node) (now : Instant)
    (request : Http.Request) :
    cluster.receive now position request =
      ((followAll now position (cluster.moveGroups now position (node.requestMoves request)).1
          (cluster.moveGroups now position (node.requestMoves request)).2).1,
        some (node.receive now request).2.1,
        (followAll now position (cluster.moveGroups now position (node.requestMoves request)).1
          (cluster.moveGroups now position (node.requestMoves request)).2).2) := by
  rw [moveGroups_requestMoves here, receive, here]

/-- Events are followed one after another. -/
theorem followAll_cons (now : Instant) (position : Nat) (cluster : Cluster) (event : NodeEvent)
    (rest : List NodeEvent) :
    followAll now position cluster (event :: rest) =
      ((followAll now position (follow now position cluster event).1 rest).1,
        (follow now position cluster event).2 ++
          (followAll now position (follow now position cluster event).1 rest).2) := by
  let one (state : Cluster × List LoaderCall) (event : NodeEvent) :=
    ((follow now position state.1 event).1, state.2 ++ (follow now position state.1 event).2)
  have fold (current : Cluster) (events : List NodeEvent) :
      followAll now position current events = events.foldl one (current, []) := rfl
  -- what was called before stands in front of all that is called later
  have collects (events : List NodeEvent) : ∀ (current : Cluster) (called : List LoaderCall),
      events.foldl one (current, called) =
        ((events.foldl one (current, [])).1, called ++ (events.foldl one (current, [])).2) := by
    induction events with
    | nil => intro current called; simp
    | cons event rest hyp =>
        intro current called
        have later := hyp (follow now position current event).1
        rw [List.foldl_cons, List.foldl_cons]
        refine (later _).trans ?_
        rw [later ([] ++ _), List.nil_append, List.append_assoc]
  rw [fold, fold]
  exact collects rest _ _

end Specs

end Cluster

end PeerCache
