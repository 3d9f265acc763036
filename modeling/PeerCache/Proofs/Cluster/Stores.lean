/-
Module: PeerCache.Proofs.Cluster.Stores
Purpose: What a step of a cluster leaves of its nodes, of their stores and of the calls.
Main exports:
  Node.fixtures, Cluster.fixtures, Cluster.kept?, Cluster.followAll_keeps,
  Cluster.kept?_moveGroup, Cluster.kept?_actInGroup, Cluster.kept?_receive
-/
import PeerCache.Proofs.Cluster.GroupRuns
import PeerCache.Proofs.Group.Dialogue
import PeerCache.Proofs.Group.StoreHistory
import PeerCache.Proofs.Peer.RemoteCall

/-!
A node keeps its pool, its routes and the names of its groups (`Cluster.fixtures`) as long as
its peers are not replaced.  What its groups hold (`Cluster.kept?`) is changed by the move of a
group alone, and only for the key that the move is for.  To send what a group has asked for
changes no store: a call that cannot be sent makes its caller hear of a failure, and no failure
of a peer touches a store.

All that follows a move of a group is calls that are sent and failures that are told
(`follow_fst`); so what both of these keep, is kept by all of it (`followAll_keeps`).
-/

namespace PeerCache

namespace Group

variable {P : Type}

/-- No move changes the name of its group. -/
theorem name_step [PeerHandle P] (near : Surroundings P) (group : Group P) (move : Move) :
    (group.step near move).1.name = group.name := by
  have transition := step_transition near group move
  generalize (group.step near move).1 = after at transition ⊢
  generalize (group.step near move).2 = events at transition
  cases transition <;> rfl

/-- A view enters the store when the loader gives it to a caller that runs it. -/
theorem loading_of_storeEvent? {near : Surroundings P} {group : Group P} {move : Move}
    {key : String} {view : View}
    (happens : group.storeEvent? near move = some (.loaded key view)) :
    ∃ caller entry call, move = .loaderReplied caller (.returned (.ok view)) ∧
      group.callers[caller]? = some entry ∧ entry.key = key ∧ entry.place = .loading call := by
  have expires {now : Instant} {name : String}
      (found : group.expiry? now name = some (.loaded key view)) : False := by
    unfold expiry? at found
    split at found
    · split at found <;> cases found
    · cases found
  unfold storeEvent? at happens
  split at happens
  case h_1 | h_2 | h_4 => exact (expires happens).elim
  case h_3 =>
      split at happens
      case h_1 => exact (expires happens).elim
      case h_2 => cases happens
  case h_5 caller given =>
      split at happens
      case h_1 context name call at_ =>
          cases happens
          exact ⟨caller, _, call, rfl, at_, rfl, rfl⟩
      case h_2 => cases happens
  case h_6 => cases happens
  case h_7 => split at happens <;> cases happens
  case h_8 => split at happens <;> cases happens
  case h_9 => cases happens

/-- Moves that leave the store alone are nothing for it. -/
theorem storeEvent?_of_sparesStore {near : Surroundings P} {group : Group P}
    {move : Move} (spares : move.sparesStore = true) :
    group.storeEvent? near move = none := by
  cases move with
  | peerReplied | broadcastEnded | poll | drop => rfl
  | get | startGet | goOn | look | removeLocally | remove | serve => cases spares
  | loaderReplied caller reply =>
      match reply with
      | .returned (.ok view) => cases spares
      | .returned (.error cause) => rfl
      | .panicked message => rfl
  | ownerReplied caller reply =>
      match reply with
      | .returned (.ok ()) => cases spares
      | .returned (.error error) => rfl
      | .panicked message => rfl

end Group

/-- What stays of a node: what it knows of peers, what it serves, and under which names its
groups are found. -/
def Node.fixtures (node : Node) : PeerPool × Routes × List (String × Nat) :=
  (node.pool, node.routes, node.registered)

section Fixtures

variable {node first : Node}

theorem Node.pool_of_fixtures (same : first.fixtures = node.fixtures) : first.pool = node.pool :=
  congrArg Prod.fst same

theorem Node.routes_of_fixtures (same : first.fixtures = node.fixtures) :
    first.routes = node.routes :=
  congrArg (fun entry : PeerPool × Routes × List (String × Nat) => entry.2.1) same

theorem Node.position?_of_fixtures (same : first.fixtures = node.fixtures) (name : String) :
    first.position? name = node.position? name :=
  congrArg (fun entry : PeerPool × Routes × List (String × Nat) => entry.2.2.lookup name) same

end Fixtures

/-- A move of a group changes nothing of its node but groups. -/
theorem Node.fixtures_step (node : Node) (now : Instant) (position : Nat) (move : Group.Move) :
    (node.step now position move).1.fixtures = node.fixtures := by
  obtain ⟨groups, moved, -⟩ := step_eq node now position move
  rw [moved]
  rfl

/-- A request makes no move that is for a caller who is there already. -/
theorem Node.caller?_of_requestMoves (node : Node) (request : Http.Request) :
    ∀ entry ∈ node.requestMoves request, entry.2.caller? = none := by
  unfold requestMoves
  split
  case h_1 =>
      split
      · split
        · simp [Group.Move.caller?]
        · split <;> simp [Group.Move.caller?]
      · simp
  case h_2 =>
      split
      · split
        · simp [Group.Move.caller?]
        · split <;> simp [Group.Move.caller?]
      · simp
  case h_3 => simp

/-- A get that comes with a request runs up to its first wait. -/
theorem Node.isWhole_of_requestMoves (node : Node) (request : Http.Request) :
    ∀ entry ∈ node.requestMoves request, entry.2.isWhole = true := by
  unfold requestMoves
  split
  case h_1 | h_2 =>
      split
      · split
        · simp [Group.Move.isWhole]
        · split <;> simp [Group.Move.isWhole]
      · simp
  case h_3 => simp

/-- A request changes nothing of its node but groups. -/
theorem Node.fixtures_receive (node : Node) (now : Instant) (request : Http.Request) :
    (node.receive now request).1.fixtures = node.fixtures := by
  obtain ⟨groups, made, -⟩ := makeMoves_eq node now (node.requestMoves request)
  rw [receive_eq_makeMoves, made]
  rfl

namespace Cluster

/-- What stays of the nodes. -/
def fixtures (cluster : Cluster) : List (PeerPool × Routes × List (String × Nat)) :=
  cluster.nodes.map Node.fixtures

/-- What the store of a group of a node holds for a key. -/
def kept? (cluster : Cluster) (position index : Nat) (key : String) : Option View :=
  (cluster.groupAt? position index).bind fun group => group.store.find? key

variable {cluster other : Cluster} {now : Instant} {position group : Nat} {move : Group.Move}
  {node after : Node}

/-! ## Nodes -/

theorem fixtures_setNode (here : cluster.nodes[position]? = some node)
    (same : after.fixtures = node.fixtures) :
    (cluster.setNode position after).fixtures = cluster.fixtures := by
  obtain ⟨bound, rfl⟩ := List.getElem?_eq_some_iff.mp here
  have inside : position < cluster.fixtures.length := by simpa [fixtures] using bound
  have whole := List.set_getElem_self inside
  simpa [fixtures, setNode, List.map_set, same] using whole

/-- The node at a position is what it was where the fixtures are the same. -/
theorem exists_of_fixtures (same : cluster.fixtures = other.fixtures)
    (here : cluster.nodes[position]? = some node) :
    ∃ first, other.nodes[position]? = some first ∧ first.fixtures = node.fixtures := by
  have entry : other.fixtures[position]? = some node.fixtures := by
    rw [← same, fixtures, List.getElem?_map, here]
    rfl
  rw [fixtures, List.getElem?_map] at entry
  exact Option.map_eq_some_iff.mp entry

/-- Which node has an address shows in the fixtures. -/
theorem nodeAt?_of_fixtures (same : cluster.fixtures = other.fixtures) (address : String) :
    cluster.nodeAt? address = other.nodeAt? address := by
  have reads (cluster : Cluster) : cluster.nodeAt? address =
      cluster.fixtures.findIdx? fun entry =>
        (Url.parse entry.1.selfUrl).toOption.map Url.authority = some address := by
    rw [fixtures, List.findIdx?_map]
    rfl
  rw [reads, reads, same]

theorem fixtures_moveGroup (cluster : Cluster) (now : Instant) (position group : Nat)
    (move : Group.Move) :
    (cluster.moveGroup now position group move).1.fixtures = cluster.fixtures := by
  cases here : cluster.nodes[position]? with
  | none => simp only [moveGroup, here]
  | some node =>
      rw [moveGroup_eq here]
      exact fixtures_setNode here (node.fixtures_step now group move)

theorem fixtures_send (cluster : Cluster) (position group caller : Nat) (purpose : CallPurpose)
    (key : String) (transport : Transport) :
    (cluster.send position group caller purpose key transport).1.fixtures = cluster.fixtures := by
  unfold send
  cases here : cluster.nodes[position]? with
  | none => rfl
  | some node =>
      simp only
      split
      case h_1 => exact fixtures_setNode here rfl
      case h_2 =>
          have same {after : Node} (alike : after.fixtures = node.fixtures) :
              (cluster.setNode position after).fixtures = cluster.fixtures :=
            fixtures_setNode here alike
          exact same rfl

theorem fixtures_ending {call : RemoteCall} (here : cluster.nodes[call.node]? = some node)
    (index : Nat) (buffers : BufferPool) :
    (cluster.ending index call node buffers).fixtures = cluster.fixtures := by
  have there : (cluster.atStage index .ended).nodes[call.node]? = some node := here
  exact fixtures_setNode there rfl

/-! ## What follows a move of a group -/

/-- Who asks for a call is the caller of the event. -/
theorem caller_of_callFor? {event : Group.Event Transport} {caller : Nat} {purpose : CallPurpose}
    {key : String} {transport : Transport}
    (asks : callFor? event = some (caller, purpose, key, transport)) : event.caller = caller := by
  cases event with
  | calledLoader => cases asks
  | askedPeer | askedOwner | broadcast => cases asks; rfl

/-- What a call comes to is for the key of its caller. -/
theorem keyOf?_resultOf {group : Group Transport} {call : RemoteCall}
    {entry : GroupCaller Transport} (at_ : group.callers[call.caller]? = some entry)
    (delivery : Delivery) (buffers : BufferPool) :
    group.keyOf? (resultOf call delivery buffers).1 = some entry.key := by
  cases isFor : call.purpose <;>
    simp only [resultOf, isFor, Group.keyOf?, Group.Move.caller?, Option.bind_some, at_,
      Option.map_some]

/-- To follow an event is to send the call that it asks for, and to tell the caller of a failure
if it cannot be sent. -/
theorem follow_fst (now : Instant) (position : Nat) (cluster : Cluster) (group : Nat)
    (event : Group.Event Transport) :
    (follow now position cluster (group, event)).1 =
      match callFor? event with
      | none => cluster
      | some (caller, purpose, key, transport) =>
          match cluster.send position group caller purpose key transport with
          | (sent, none) => sent
          | (unsent, some error) =>
              (unsent.moveGroup now position group (failureOf caller error purpose)).1 := by
  cases event with
  | calledLoader caller key => rfl
  | askedPeer caller key peer =>
      simp only [follow, callFor?]
      cases cluster.send position group caller .get key peer with
      | mk after failure => cases failure <;> rfl
  | askedOwner caller key owner =>
      simp only [follow, callFor?]
      cases cluster.send position group caller .removeAtOwner key owner with
      | mk after failure => cases failure <;> rfl
  | broadcast caller key number peer =>
      simp only [follow, callFor?]
      cases cluster.send position group caller (.broadcast number) key peer with
      | mk after failure => cases failure <;> rfl

/-- What is kept by calls that are sent, and by failures that are told, is kept by all that
follows a move of a group. -/
theorem followAll_keeps (Holds : Cluster → Prop) {events : List NodeEvent}
    (sends : ∀ cluster event, event ∈ events → ∀ caller purpose key transport,
      callFor? event.2 = some (caller, purpose, key, transport) → Holds cluster →
      Holds (cluster.send position event.1 caller purpose key transport).1)
    (fails : ∀ cluster group caller purpose error, Holds cluster →
      Holds (cluster.moveGroup now position group (failureOf caller error purpose)).1)
    (holds : Holds cluster) : Holds (followAll now position cluster events).1 := by
  induction events generalizing cluster with
  | nil => exact holds
  | cons event rest hyp =>
      rw [followAll_cons]
      apply hyp fun cluster event member =>
        sends cluster event (List.mem_cons_of_mem _ member)
      obtain ⟨group, event⟩ := event
      rw [follow_fst]
      cases asks : callFor? event with
      | none => exact holds
      | some asked =>
          obtain ⟨caller, purpose, key, transport⟩ := asked
          dsimp only
          have sent := sends cluster (group, event) List.mem_cons_self caller purpose key transport
            asks holds
          cases result : cluster.send position group caller purpose key transport with
          | mk after failure =>
              rw [result] at sent
              cases failure with
              | none => exact sent
              | some error => exact fails after group caller purpose error sent

theorem fixtures_followAll (now : Instant) (position : Nat) (cluster : Cluster)
    (events : List NodeEvent) :
    (followAll now position cluster events).1.fixtures = cluster.fixtures := by
  apply followAll_keeps fun current => current.fixtures = cluster.fixtures
  · intro current event _ caller purpose key transport _ same
    rw [fixtures_send, same]
  · intro current group caller purpose error same
    rw [fixtures_moveGroup, same]
  · rfl

theorem fixtures_receive (cluster : Cluster) (now : Instant) (position : Nat)
    (request : Http.Request) :
    (cluster.receive now position request).1.fixtures = cluster.fixtures := by
  cases here : cluster.nodes[position]? with
  | none => simp only [receive, here]
  | some node =>
      simp only [receive, here]
      rw [fixtures_followAll]
      exact fixtures_setNode here (node.fixtures_receive now request)

/-- A call that is there after one was put at a stage was there before, or it is this one. -/
theorem mem_calls_atStage {index : Nat} {stage : CallStage} {call : RemoteCall}
    (member : call ∈ (cluster.atStage index stage).calls) :
    call ∈ cluster.calls ∨
      ∃ before, cluster.calls[index]? = some before ∧ call = { before with stage } := by
  obtain ⟨place, found⟩ := List.getElem?_of_mem member
  rw [atStage, List.getElem?_modify] at found
  by_cases same : index = place
  · subst same
    obtain ⟨before, there, rfl⟩ := Option.map_eq_some_iff.mp found
    exact Or.inr ⟨before, there, if_pos rfl⟩
  · simp only [if_neg same, Option.map_eq_map, Option.map_id_fun', id_eq] at found
    exact Or.inl (List.mem_of_getElem? found)

/-- A call that is there after one was sent was there before, or it is the one that was sent. -/
theorem mem_calls_send {caller : Nat} {purpose : CallPurpose} {key : String}
    {transport : Transport} {call : RemoteCall}
    (member : call ∈ (cluster.send position group caller purpose key transport).1.calls) :
    call ∈ cluster.calls ∨ ∃ node outgoing, cluster.nodes[position]? = some node ∧
      (purpose ≠ .get → transport.prepare (contextOf node group caller) .delete
        ((node.groups[group]?.map Group.name).getD "") key = .ok outgoing) ∧
      call = ⟨position, group, caller, (node.groups[group]?.map Group.name).getD "", key, purpose,
        outgoing, .travelling⟩ := by
  unfold send at member
  split at member
  case h_1 => exact Or.inl member
  case h_2 node here =>
      dsimp only at member
      split at member
      case h_1 => exact Or.inl member
      case h_2 outgoing prepared =>
          rcases List.mem_append.mp member with old | new
          · exact Or.inl old
          · refine Or.inr ⟨node, outgoing, here, fun removes => ?_, List.mem_singleton.mp new⟩
            cases purpose with
            | get => exact absurd rfl removes
            | removeAtOwner | broadcast => exact prepared

/-- Calls that were made stay in their places. -/
theorem calls_followAll {index : Nat} {call : RemoteCall}
    (found : cluster.calls[index]? = some call) (now : Instant) (position : Nat)
    (events : List NodeEvent) :
    (followAll now position cluster events).1.calls[index]? = some call := by
  apply followAll_keeps fun current => current.calls[index]? = some call
  · intro current event _ caller purpose key transport _ before
    obtain ⟨bound, -⟩ := List.getElem?_eq_some_iff.mp before
    unfold send
    split
    · exact before
    · simp only
      split
      · exact before
      · exact (List.getElem?_append_left bound).trans before
  · intro current group caller purpose error before
    unfold moveGroup
    split
    · exact before
    · exact before
  · exact found

theorem calls_receive {index : Nat} {call : RemoteCall}
    (found : cluster.calls[index]? = some call) (now : Instant) (position : Nat)
    (request : Http.Request) :
    (cluster.receive now position request).1.calls[index]? = some call := by
  cases here : cluster.nodes[position]? with
  | none => simpa only [receive, here] using found
  | some node =>
      have counted : (cluster.setNode position (node.receive now request).1).calls[index]? =
          some call := found
      simp only [receive, here]
      exact calls_followAll counted now position _

/-! ## Stores -/

theorem kept?_of_node (here : cluster.nodes[position]? = some node) (index : Nat) (key : String) :
    cluster.kept? position index key = node.kept? index key := by
  rw [kept?, groupAt?, here]
  rfl

theorem Alike.kept? (alike : Alike cluster other) (position index : Nat) (key : String) :
    other.kept? position index key = cluster.kept? position index key := by
  rw [Cluster.kept?, alike.groups]
  rfl

/-- A move of a group leaves in its store what it is for the store, and nothing else in any
other. -/
theorem kept?_moveGroup (here : cluster.nodes[position]? = some node) (now : Instant)
    (group : Nat) (move : Group.Move) (other index : Nat) (key : String) :
    (cluster.moveGroup now position group move).1.kept? other index key =
      if other = position ∧ index = group then
        (cluster.groupAt? other index).bind fun before =>
          before.viewAfter (before.storeEvent? (node.surroundings now) move) key
      else cluster.kept? other index key := by
  rw [kept?, groupAt?_moveGroup here]
  split
  case isTrue =>
      rw [Option.bind_map]
      apply Option.bind_congr
      intro before _
      exact Group.find?_store_step _ _ move key
  case isFalse => rfl

/-- A move that is for another key changes no entry for this one. -/
theorem kept?_moveGroup_of_apart {index : Nat} {key : String} {entry : Nat}
    (apart : entry = position → index = group → ∀ before near event,
      cluster.groupAt? position group = some before → before.storeEvent? near move = some event →
      event.key ≠ key)
    (now : Instant) :
    (cluster.moveGroup now position group move).1.kept? entry index key =
      cluster.kept? entry index key := by
  cases here : cluster.nodes[position]? with
  | none => simp only [moveGroup, here]
  | some node =>
      rw [kept?_moveGroup here]
      split
      case isFalse => rfl
      case isTrue same =>
          obtain ⟨rfl, rfl⟩ := same
          apply Option.bind_congr
          intro before found
          cases happens : before.storeEvent? (node.surroundings now) move with
          | none => rfl
          | some event =>
              simp only [Group.viewAfter, if_neg (apart rfl rfl before _ event found happens)]

/-- What a caller hears of a call that has failed leaves the store alone. -/
theorem sparesStore_failureOf (caller : Nat) (error : CacheError) (purpose : CallPurpose) :
    (failureOf caller error purpose).sparesStore = true := by
  cases purpose <;> rfl

/-- What groups ask for does nothing to stores. -/
theorem kept?_followAll (now : Instant) (position : Nat) (cluster : Cluster)
    (events : List NodeEvent) (other index : Nat) (key : String) :
    (followAll now position cluster events).1.kept? other index key =
      cluster.kept? other index key := by
  apply followAll_keeps fun current =>
    current.kept? other index key = cluster.kept? other index key
  · intro current event _ caller purpose name transport _ same
    have alike := alike_send current position event.1 caller purpose name transport
    rw [alike.kept?, same]
  · intro current group caller purpose error same
    have spares := sparesStore_failureOf caller error purpose
    rw [kept?_moveGroup_of_apart, same]
    intro _ _ before near event _ happens
    rw [Group.storeEvent?_of_sparesStore spares] at happens
    cases happens
  · rfl

theorem kept?_actInGroup (now : Instant) (position group : Nat) (move : Group.Move)
    (other index : Nat) (key : String) :
    (cluster.actInGroup now position group move).1.kept? other index key =
      (cluster.moveGroup now position group move).1.kept? other index key :=
  kept?_followAll now position _ _ other index key

/-- A request changes stores of the node that receives it. -/
theorem kept?_receive (here : cluster.nodes[position]? = some node) (now : Instant)
    (request : Http.Request) (other index : Nat) (key : String) :
    (cluster.receive now position request).1.kept? other index key =
      if other = position then (node.receive now request).1.kept? index key
      else cluster.kept? other index key := by
  have received : (cluster.receive now position request).1.kept? other index key =
      (cluster.setNode position (node.receive now request).1).kept? other index key := by
    simp only [receive, here]
    exact kept?_followAll now position _ _ other index key
  rw [received]
  split
  case isTrue same =>
      subst same
      exact kept?_of_node (nodes_setNode_self here _) index key
  case isFalse apart =>
      simp only [kept?, groupAt?, setNode, List.getElem?_set_ne (Ne.symm apart)]

end Cluster

end PeerCache
