/-
Module: PeerCache.Proofs.Cluster.GroupRuns
Purpose: Every group of a cluster has a run of its own.
Main exports:
  Cluster.groupAt?, Cluster.Ran, Cluster.run_ran, Cluster.ran_of_run, Cluster.pools,
  Cluster.Fresh, Cluster.failedAsksAt, Cluster.Ran.fallsBack, Cluster.Ran.loadsHere,
  Cluster.launched
-/
import PeerCache.Proofs.Cluster.GroupMoves
import PeerCache.Proofs.Group.Fallback

/-!
In a cluster every group is where its own moves have taken it (`Cluster.Ran`), and whatever its
callers asked of peers and loaders they asked in that run.  So what holds of every run of a
group holds of every group of a cluster: groups that start empty are orderly, and call their
loaders only when there is a reason (`Ran.fallsBack`, `Ran.loadsHere`).

This is shown of one move, then along all that a step of the cluster does, then along a run.
Nobody may replace the peers of a node meanwhile: groups then see the same peers all the time.
-/

namespace PeerCache

namespace Cluster

/-! ## Groups as their moves have left them -/

/-- The group at a position of a node. -/
def groupAt? (cluster : Cluster) (position index : Nat) : Option (Group Transport) :=
  cluster.nodes[position]?.bind fun node => node.groups[index]?

/-- What a node knows of peers, and under which names its groups are found. -/
def settingsAt? (cluster : Cluster) (position : Nat) :
    Option (PeerPool × List (String × Nat)) :=
  cluster.nodes[position]?.map fun node => (node.pool, node.registered)

/-- The clusters differ in nothing that groups see or are. -/
structure Alike (cluster other : Cluster) : Prop where
  settings : ∀ position, other.settingsAt? position = cluster.settingsAt? position
  groups : ∀ position index, other.groupAt? position index = cluster.groupAt? position index

/-- A group of a node has asked this of its surroundings in the run that the log gives it. -/
def Raised (start : Cluster) (log : List GroupMove) (position : Nat) (event : NodeEvent) : Prop :=
  ∃ group, start.groupAt? position event.1 = some group ∧
    event.2 ∈ (group.run (historyOf log position event.1)).2

/-- From the start, the moves of the log have taken every group to where it is in the cluster;
meanwhile these loaders were called, and nodes kept their settings. -/
structure Ran (start : Cluster) (log : List GroupMove) (called : List LoaderCall)
    (cluster : Cluster) : Prop where
  settings : ∀ position, cluster.settingsAt? position = start.settingsAt? position
  groups : ∀ position index, cluster.groupAt? position index =
    (start.groupAt? position index).map fun group => (group.run (historyOf log position index)).1
  near : ∀ entry ∈ log, ∃ node, start.nodes[entry.node]? = some node ∧
    ∃ now, entry.near = node.surroundings now
  called : ∀ call ∈ called,
    Raised start log call.node (call.group, .calledLoader call.caller call.key)

theorem Raised.append {start : Cluster} {log : List GroupMove} {position : Nat}
    {event : NodeEvent} (raised : Raised start log position event) (more : List GroupMove) :
    Raised start (log ++ more) position event := by
  obtain ⟨group, found, member⟩ := raised
  refine ⟨group, found, ?_⟩
  rw [historyOf_append, Group.run_append]
  exact List.mem_append_left _ member

theorem ran_start (start : Cluster) : Ran start [] [] start where
  settings _ := rfl
  groups position index := by simp [Group.run]
  near _ member := absurd member List.not_mem_nil
  called _ member := absurd member List.not_mem_nil

section Frames

variable {cluster other : Cluster} {position : Nat} {node after : Node}

theorem alike_setNode (here : cluster.nodes[position]? = some node)
    (pool : after.pool = node.pool) (registered : after.registered = node.registered)
    (groups : after.groups = node.groups) : Alike cluster (cluster.setNode position after) := by
  have self := nodes_setNode_self here after
  constructor
  · intro other
    by_cases same : position = other
    · subst same
      simp [settingsAt?, self, here, pool, registered]
    · simp [settingsAt?, setNode, same]
  · intro other index
    by_cases same : position = other
    · subst same
      simp [groupAt?, self, here, groups]
    · simp [groupAt?, setNode, same]

/-- The calls on their way are no part of what groups see. -/
theorem Alike.with_calls (alike : Alike cluster other) (calls : List RemoteCall) :
    Alike cluster { other with calls } :=
  ⟨alike.settings, alike.groups⟩

theorem alike_ending {call : RemoteCall} (here : cluster.nodes[call.node]? = some node)
    (index : Nat) (buffers : BufferPool) :
    Alike cluster (cluster.ending index call node buffers) := by
  have counted : Alike cluster (cluster.setNode call.node { node with buffers }) :=
    alike_setNode here rfl rfl rfl
  exact counted.with_calls _

/-- Sending a call changes no group. -/
theorem alike_send (cluster : Cluster) (position group caller : Nat) (purpose : CallPurpose)
    (key : String) (transport : Transport) :
    Alike cluster (cluster.send position group caller purpose key transport).1 := by
  unfold send
  cases here : cluster.nodes[position]? with
  | none => exact ⟨fun _ => rfl, fun _ _ => rfl⟩
  | some node =>
      simp only
      split
      case h_1 => exact alike_setNode here rfl rfl rfl
      case h_2 =>
          apply Alike.with_calls
          exact alike_setNode here rfl rfl rfl

end Frames

section Moves

variable {cluster : Cluster} {now : Instant} {position group : Nat} {move : Group.Move}
  {node : Node}

/-- The move of a group moves this group alone. -/
theorem groupAt?_moveGroup (here : cluster.nodes[position]? = some node) (now : Instant)
    (group : Nat) (move : Group.Move) (other index : Nat) :
    (cluster.moveGroup now position group move).1.groupAt? other index =
      if other = position ∧ index = group then
        (cluster.groupAt? other index).map fun group =>
          (group.step (node.surroundings now) move).1
      else cluster.groupAt? other index := by
  rw [moveGroup_eq here]
  by_cases same : other = position
  · subst same
    simp only [groupAt?, nodes_setNode_self here, here, Option.bind_some, true_and]
    cases found : node.groups[group]? with
    | none =>
        by_cases this : index = group
        · subst this
          simp [Node.step, found]
        · simp [Node.step, found, this]
    | some entry =>
        obtain ⟨bound, -⟩ := List.getElem?_eq_some_iff.mp found
        by_cases this : index = group
        · subst this
          simp [Node.step, bound]
        · simp [Node.step, found, this, Ne.symm this]
  · simp [groupAt?, setNode, same, Ne.symm same]

theorem settingsAt?_moveGroup (here : cluster.nodes[position]? = some node) (now : Instant)
    (group : Nat) (move : Group.Move) (other : Nat) :
    (cluster.moveGroup now position group move).1.settingsAt? other =
      cluster.settingsAt? other := by
  have kept : (node.step now group move).1.pool = node.pool ∧
      (node.step now group move).1.registered = node.registered := by
    unfold Node.step
    split
    · exact ⟨rfl, rfl⟩
    · exact ⟨rfl, rfl⟩
  rw [moveGroup_eq here]
  by_cases same : position = other
  · subst same
    simp [settingsAt?, nodes_setNode_self here, here, kept]
  · simp [settingsAt?, setNode, same]

/-- What a move makes its group ask for. -/
theorem mem_moveGroup (here : cluster.nodes[position]? = some node) {event : NodeEvent}
    (member : event ∈ (cluster.moveGroup now position group move).2) :
    event.1 = group ∧ ∃ before, cluster.groupAt? position group = some before ∧
      event.2 ∈ (before.step (node.surroundings now) move).2 := by
  rw [moveGroup_eq here] at member
  unfold Node.step at member
  cases found : node.groups[group]? with
  | none =>
      rw [found] at member
      cases member
  | some before =>
      rw [found] at member
      obtain ⟨raised, inStep, rfl⟩ := List.mem_map.mp member
      exact ⟨rfl, before, by simp [groupAt?, here, found], inStep⟩

/-- The loader calls among the events of a node. -/
theorem mem_loaderCalls {events : List NodeEvent} {call : LoaderCall}
    (member : call ∈ cluster.loaderCalls position events) :
    call.node = position ∧
      (call.group, Group.Event.calledLoader call.caller call.key) ∈ events := by
  obtain ⟨⟨index, event⟩, inEvents, found⟩ := List.mem_filterMap.mp member
  dsimp only at found
  split at found
  case h_1 =>
      cases found
      exact ⟨rfl, inEvents⟩
  case h_2 => cases found

end Moves

namespace Ran

variable {start cluster other : Cluster} {log : List GroupMove} {called : List LoaderCall}
  {now : Instant} {position : Nat}

theorem alike (ran : Ran start log called cluster) (same : Alike cluster other) :
    Ran start log called other where
  settings position := (same.settings position).trans (ran.settings position)
  groups position index := (same.groups position index).trans (ran.groups position index)
  near := ran.near
  called := ran.called

theorem sent (ran : Ran start log called cluster) {group caller : Nat} {purpose : CallPurpose}
    {key : String} {transport : Transport} {failure : Option CacheError}
    (result : cluster.send position group caller purpose key transport = (other, failure)) :
    Ran start log called other := by
  have same := alike_send cluster position group caller purpose key transport
  rw [result] at same
  exact ran.alike same

/-- Loaders that are called when groups have asked for it. -/
theorem calling (ran : Ran start log called cluster) {more : List LoaderCall}
    (raised : ∀ call ∈ more,
      Raised start log call.node (call.group, .calledLoader call.caller call.key)) :
    Ran start log (called ++ more) cluster where
  settings := ran.settings
  groups := ran.groups
  near := ran.near
  called call member := (List.mem_append.mp member).elim (ran.called call) (raised call)

/-- The node that was at a position from the start saw what the one there sees. -/
theorem exists_start (ran : Ran start log called cluster) {node : Node}
    (here : cluster.nodes[position]? = some node) :
    ∃ first, start.nodes[position]? = some first ∧ node.pool = first.pool ∧
      node.registered = first.registered := by
  have same := ran.settings position
  simp only [settingsAt?, here, Option.map_some] at same
  obtain ⟨first, found, equal⟩ := Option.map_eq_some_iff.mp same.symm
  simp only [Prod.mk.injEq] at equal
  exact ⟨first, found, equal.1.symm, equal.2.symm⟩

/-- A group has moved. -/
theorem moveGroup (ran : Ran start log called cluster) (now : Instant) (position group : Nat)
    (move : Group.Move) :
    Ran start (log ++ cluster.groupMove now position group move) called
        (cluster.moveGroup now position group move).1 ∧
      ∀ event ∈ (cluster.moveGroup now position group move).2,
        Raised start (log ++ cluster.groupMove now position group move) position event := by
  unfold groupMove
  cases here : cluster.nodes[position]? with
  | none =>
      simp only [List.append_nil, Cluster.moveGroup, here]
      exact ⟨ran, fun _ member => absurd member List.not_mem_nil⟩
  | some node =>
      obtain ⟨first, at_, pool, -⟩ := ran.exists_start here
      have history (other index : Nat) :
          historyOf (log ++ [⟨position, group, node.surroundings now, move⟩]) other index =
            if other = position ∧ index = group then
              historyOf log other index ++ [(node.surroundings now, move)]
            else historyOf log other index := by
        rw [historyOf_append]
        by_cases same : position = other ∧ group = index
        · simp [historyOf, same]
        · have apart : ¬ (other = position ∧ index = group) := fun equal =>
            same ⟨equal.1.symm, equal.2.symm⟩
          simp [historyOf, same, apart]
      constructor
      · constructor
        · intro other
          exact (settingsAt?_moveGroup here now group move other).trans (ran.settings other)
        · intro other index
          rw [groupAt?_moveGroup here, ran.groups other index, history]
          split
          case isTrue => simp [Group.run_append, Group.run, Function.comp_def]
          case isFalse => rfl
        · intro entry member
          rcases List.mem_append.mp member with old | new
          · exact ran.near entry old
          · rw [List.mem_singleton.mp new]
            refine ⟨first, at_, now, ?_⟩
            simp only [Node.surroundings, pool]
        · intro call member
          exact (ran.called call member).append _
      · intro event member
        obtain ⟨same, before, found, inStep⟩ := mem_moveGroup here member
        rw [ran.groups position group] at found
        obtain ⟨origin, origin_at, rfl⟩ := Option.map_eq_some_iff.mp found
        refine ⟨origin, same ▸ origin_at, ?_⟩
        rw [history, if_pos ⟨rfl, same⟩, Group.run_append, same]
        apply List.mem_append_right
        simpa [Group.run] using inStep

theorem moveGroups (ran : Ran start log called cluster) (now : Instant) (position : Nat)
    (moves : List (Nat × Group.Move)) :
    Ran start (log ++ cluster.groupMoves now position moves) called
        (cluster.moveGroups now position moves).1 ∧
      ∀ event ∈ (cluster.moveGroups now position moves).2,
        Raised start (log ++ cluster.groupMoves now position moves) position event := by
  induction moves generalizing cluster log with
  | nil => simpa [groupMoves, Cluster.moveGroups] using ran
  | cons first rest hyp =>
      obtain ⟨group, move⟩ := first
      obtain ⟨moved, raised⟩ := ran.moveGroup now position group move
      obtain ⟨last, later⟩ := hyp moved
      rw [List.append_assoc] at last later
      refine ⟨last, ?_⟩
      intro event member
      rcases List.mem_append.mp member with early | late
      · rw [groupMoves, ← List.append_assoc]
        exact (raised event early).append _
      · exact later event late

/-- The call that an event asks for is sent, or its caller has learnt that it cannot be. -/
theorem follow (ran : Ran start log called cluster) (now : Instant) {event : NodeEvent}
    (raised : Raised start log position event) :
    Ran start (log ++ movesOfFollow now position cluster event)
      (called ++ (Cluster.follow now position cluster event).2)
      (Cluster.follow now position cluster event).1 := by
  obtain ⟨group, event⟩ := event
  have tells (other : Cluster) {log : List GroupMove} {events : List NodeEvent}
      (raised : ∀ event ∈ events, Raised start log position event) :
      ∀ call ∈ other.loaderCalls position events,
        Raised start log call.node (call.group, .calledLoader call.caller call.key) := by
    intro call member
    obtain ⟨rfl, inEvents⟩ := mem_loaderCalls member
    exact raised _ inEvents
  cases event with
  | calledLoader caller key =>
      simp only [movesOfFollow, callFor?, Cluster.follow, List.append_nil]
      apply ran.calling
      apply tells
      intro event member
      rw [List.mem_singleton.mp member]
      exact raised
  | askedPeer caller key peer =>
      simp only [movesOfFollow, callFor?, Cluster.follow]
      cases result : cluster.send position group caller .get key peer with
      | mk after failure =>
          cases failure with
          | none => simpa using ran.sent result
          | some error =>
              obtain ⟨moved, asked⟩ := (ran.sent result).moveGroup now position group
                (failureOf caller error .get)
              exact moved.calling (tells _ asked)
  | askedOwner caller key owner =>
      simp only [movesOfFollow, callFor?, Cluster.follow]
      cases result : cluster.send position group caller .removeAtOwner key owner with
      | mk after failure =>
          cases failure with
          | none => simpa using ran.sent result
          | some error =>
              have moved := (ran.sent result).moveGroup now position group
                (failureOf caller error .removeAtOwner)
              rw [List.append_nil]
              exact moved.1
  | broadcast caller key number peer =>
      simp only [movesOfFollow, callFor?, Cluster.follow]
      cases result : cluster.send position group caller (.broadcast number) key peer with
      | mk after failure =>
          cases failure with
          | none => simpa using ran.sent result
          | some error =>
              have moved := (ran.sent result).moveGroup now position group
                (failureOf caller error (.broadcast number))
              rw [List.append_nil]
              exact moved.1

theorem followAll (ran : Ran start log called cluster) (now : Instant) {events : List NodeEvent}
    (raised : ∀ event ∈ events, Raised start log position event) :
    Ran start (log ++ movesOfFollowAll now position cluster events)
      (called ++ (Cluster.followAll now position cluster events).2)
      (Cluster.followAll now position cluster events).1 := by
  induction events generalizing cluster log called with
  | nil => simpa [movesOfFollowAll, Cluster.followAll] using ran
  | cons event rest hyp =>
      have followed := ran.follow now (raised event List.mem_cons_self)
      have last := hyp followed fun later member =>
        (raised later (List.mem_cons_of_mem _ member)).append _
      rw [List.append_assoc, List.append_assoc] at last
      rw [movesOfFollowAll, followAll_cons]
      exact last

/-- Groups of a node have moved, and what they asked for is under way. -/
theorem acting (ran : Ran start log called cluster) (now : Instant) (position : Nat)
    (moves : List (Nat × Group.Move)) :
    Ran start (log ++ cluster.movesOfActing now position moves)
      (called ++ (Cluster.followAll now position (cluster.moveGroups now position moves).1
        (cluster.moveGroups now position moves).2).2)
      (Cluster.followAll now position (cluster.moveGroups now position moves).1
        (cluster.moveGroups now position moves).2).1 := by
  obtain ⟨moved, raised⟩ := ran.moveGroups now position moves
  have followed := moved.followAll now raised
  rw [List.append_assoc] at followed
  exact followed

theorem actInGroup (ran : Ran start log called cluster) (now : Instant) (position group : Nat)
    (move : Group.Move) :
    Ran start (log ++ cluster.movesOfActing now position [(group, move)])
      (called ++ (cluster.actInGroup now position group move).2)
      (cluster.actInGroup now position group move).1 := by
  rw [actInGroup_eq]
  exact ran.acting now position [(group, move)]

theorem receive (ran : Ran start log called cluster) (now : Instant) (position : Nat)
    (request : Http.Request) :
    Ran start (log ++ cluster.movesOfReceive now position request)
      (called ++ (cluster.receive now position request).2.2)
      (cluster.receive now position request).1 := by
  unfold movesOfReceive
  cases here : cluster.nodes[position]? with
  | none => simpa [Cluster.receive, here] using ran
  | some node =>
      rw [receive_eq here]
      exact ran.acting now position (node.requestMoves request)

theorem conclude (ran : Ran start log called cluster) (now : Instant) (index : Nat)
    (call : RemoteCall) (delivery : Delivery) :
    Ran start (log ++ cluster.movesOfConclude now index call delivery)
      (called ++ (cluster.conclude now index call delivery).2)
      (cluster.conclude now index call delivery).1 := by
  unfold movesOfConclude
  cases here : cluster.nodes[call.node]? with
  | none => simpa [Cluster.conclude, here] using ran
  | some node =>
      rw [conclude_eq index call delivery here]
      apply actInGroup
      exact ran.alike (alike_ending here index _)

end Ran

/-- Whether a move replaces the peers of a node. -/
def Move.replacesPeers : Move → Bool
  | .set _ _ => true
  | _ => false

section Runs

variable {start cluster : Cluster} {log : List GroupMove} {called : List LoaderCall}

theorem step_ran (ran : Ran start log called cluster) (now : Instant) (move : Move)
    (stays : move.replacesPeers = false) :
    Ran start (log ++ cluster.movesOfStep now move) (called ++ (cluster.step now move).2)
      (cluster.step now move).1 := by
  have idle : Ran start (log ++ []) (called ++ []) cluster := by simpa using ran
  cases move with
  | set position peers => cases stays
  | inGroup position group move => exact ran.actInGroup now position group move
  | request position request => exact ran.receive now position request
  | arrive index =>
      simp only [movesOfStep, step]
      cases found : cluster.calls[index]? with
      | none => exact idle
      | some call =>
          simp only
          cases call.stage with
          | ended => exact idle
          | serving node handling => exact idle
          | travelling =>
              cases cluster.nodeAt? call.outgoing.url.authority with
              | none => exact idle
              | some position =>
                  have received := ran.receive now position (arriving call.outgoing)
                  simp only
                  split
                  case h_1 after handling more result =>
                      rw [result] at received
                      exact received.alike ⟨fun _ => rfl, fun _ _ => rfl⟩
                  case h_2 after more result =>
                      rw [result] at received
                      exact received
  | reply index =>
      simp only [movesOfStep, step]
      cases found : cluster.calls[index]? with
      | none => exact idle
      | some call =>
          simp only
          cases cluster.servedDelivery? call.stage with
          | none => exact idle
          | some delivery => exact ran.conclude now index call delivery
  | resolve index delivery =>
      simp only [movesOfStep, step]
      cases found : cluster.calls[index]? with
      | none => exact idle
      | some call =>
          simp only
          cases call.stage with
          | ended => exact idle
          | travelling => exact ran.conclude now index call delivery
          | serving node handling => exact ran.conclude now index call delivery

/-- As long as nobody replaces the peers of a node, every group of a cluster is where its own
moves have taken it, and loaders are called when the groups ask for it. -/
theorem run_ran (ran : Ran start log called cluster) (moves : List (Instant × Move))
    (stays : ∀ timed ∈ moves, timed.2.replacesPeers = false) :
    Ran start (log ++ cluster.movesOfRun moves) (called ++ (cluster.run moves).2)
      (cluster.run moves).1 := by
  induction moves generalizing cluster log called with
  | nil => simpa [movesOfRun, run] using ran
  | cons timed rest hyp =>
      obtain ⟨now, move⟩ := timed
      have next := hyp (step_ran ran now move (stays _ List.mem_cons_self))
        fun timed later => stays timed (List.mem_cons_of_mem _ later)
      rw [List.append_assoc, List.append_assoc] at next
      exact next

/-- The moves of the groups in a run account for all that became of them. -/
theorem ran_of_run (cluster : Cluster) (moves : List (Instant × Move))
    (stays : ∀ timed ∈ moves, timed.2.replacesPeers = false) :
    Ran cluster (cluster.movesOfRun moves) (cluster.run moves).2 (cluster.run moves).1 := by
  simpa using run_ran (ran_start cluster) moves stays

end Runs

/-! ## Clusters whose groups start empty -/

/-- The pools of the nodes. -/
def pools (cluster : Cluster) : List PeerPool :=
  cluster.nodes.map Node.pool

theorem Ran.pools {start cluster : Cluster} {log : List GroupMove} {called : List LoaderCall}
    (ran : Ran start log called cluster) : cluster.pools = start.pools := by
  apply List.ext_getElem?
  intro position
  have same := congrArg (Option.map Prod.fst) (ran.settings position)
  simpa [settingsAt?, Cluster.pools, Function.comp_def] using same

theorem pools_of_node {cluster : Cluster} {position : Nat} {node : Node}
    (here : cluster.nodes[position]? = some node) : cluster.pools[position]? = some node.pool := by
  simp [pools, here]

/-- Nothing has happened to the groups yet. -/
def Fresh (cluster : Cluster) : Prop :=
  ∀ position index group, cluster.groupAt? position index = some group → ∃ name, group = .new name

/-- The keys for which a peer that a group of a node asked has failed, in order. -/
def failedAsksAt (start : Cluster) (log : List GroupMove) (position index : Nat) : List String :=
  match start.groupAt? position index with
  | some group => group.failedAsks (historyOf log position index)
  | none => []

namespace Ran

variable {start cluster : Cluster} {log : List GroupMove} {called : List LoaderCall}
  {position index : Nat} {node : Node}

/-- A group has always seen the peers picked that its node picks now. -/
theorem picks (ran : Ran start log called cluster) (here : cluster.nodes[position]? = some node)
    (index : Nat) : ∀ timed ∈ historyOf log position index, timed.1.pick? = node.pool.pick? := by
  rintro ⟨near, move⟩ member
  obtain ⟨first, found, now, rfl⟩ := ran.near _ (mem_historyOf_iff.mp member)
  obtain ⟨other, at_, pool, -⟩ := ran.exists_start here
  obtain rfl := Option.some.inj (found.symm.trans at_)
  rw [pool]
  rfl

/-- The groups of a cluster are orderly, and fall back to their loaders for a reason. -/
theorem fallsBack (ran : Ran start log called cluster) (fresh : start.Fresh)
    (here : cluster.nodes[position]? = some node) {group : Group Transport}
    (found : node.groups[index]? = some group) :
    group.Orderly ∧
      group.FallsBack node.pool.pick? (start.failedAsksAt log position index) := by
  have found' : cluster.groupAt? position index = some group := by
    rw [groupAt?, here, Option.bind_some, found]
  rw [ran.groups position index] at found'
  obtain ⟨origin, origin_at, rfl⟩ := Option.map_eq_some_iff.mp found'
  obtain ⟨name, rfl⟩ := fresh position index origin origin_at
  constructor
  · exact Group.run_orderly (Group.orderly_new name) _
  · have start_ := Group.fallsBack_new node.pool.pick? name
    have last := Group.run_fallsBack start_ (historyOf log position index) (ran.picks here index)
    rw [failedAsksAt, origin_at]
    simpa using last

/-- Loaders were called for a reason. -/
theorem loadsHere (ran : Ran start log called cluster) {call : LoaderCall} (member : call ∈ called)
    (here : cluster.nodes[call.node]? = some node) :
    Group.LoadsHere node.pool.pick? (start.failedAsksAt log call.node call.group) call.key := by
  obtain ⟨group, found, raised⟩ := ran.called call member
  rw [failedAsksAt, found]
  exact Group.loadsHere_of_calledLoader _ (ran.picks here call.group) raised

end Ran

/-- A cluster at its start: every node is told its peers and has one group. -/
def launched (options : PoolOptions) (group : String) (told : List (String × List String)) :
    Cluster where
  nodes := told.filterMap fun entry =>
    (Node.new? entry.1 entry.1 options).map fun node => (node.set entry.2).register group
  calls := []

theorem pools_launched {options : PoolOptions}
    (admitted : (Routes.ofBasePath? options.normalized.basePath).isSome = true) (group : String)
    (told : List (String × List String)) :
    (launched options group told).pools =
      told.map fun entry => (PeerPool.new entry.1 options).set entry.2 := by
  obtain ⟨routes, found⟩ := Option.isSome_iff_exists.mp admitted
  have new (url : String) : Node.new? url url options =
      some ⟨url, .new url options, routes, [], [], .empty, 0⟩ := by
    unfold Node.new?
    exact congrArg (Option.map _) found
  rw [pools, launched]
  simp [new, Node.register, Node.set, Function.comp_def]

theorem fresh_launched (options : PoolOptions) (group : String)
    (told : List (String × List String)) : (launched options group told).Fresh := by
  intro position index entry found
  obtain ⟨node, here, at_⟩ := Option.bind_eq_some_iff.mp found
  obtain ⟨given, -, made⟩ := List.mem_filterMap.mp (List.mem_of_getElem? here)
  simp only [Node.new?, Option.map_map] at made
  obtain ⟨routes, -, rfl⟩ := Option.map_eq_some_iff.mp made
  obtain rfl : entry = .new group := List.mem_singleton.mp (List.mem_of_getElem? at_)
  exact ⟨group, rfl⟩

end Cluster

end PeerCache
