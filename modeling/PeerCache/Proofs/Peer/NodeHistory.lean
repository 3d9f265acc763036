/-
Module: PeerCache.Proofs.Peer.NodeHistory
Purpose: What becomes of a node and of its groups.
Main exports:
  Node.Happening, Node.live, Node.movesOf, Node.Sound, Node.sound_live, Node.becomes_live,
  Node.Reachable, Node.Reachable.forall_groups
-/
import PeerCache.Proofs.Cluster.GroupMoves
import PeerCache.Proofs.Group.Leaders

/-!
All that can happen to a node is a list of happenings: it is told of peers and groups, requests
come in, its groups move, and its calls of peers leave buffers and clients behind.

None of this takes a group away, and a group that is there only makes moves.  So the groups of a
later state are those of an earlier one after the moves that can be read off the happenings
(`becomes_live`); the settings of the node stay, and the groups that are found by name are there
(`sound_live`).  So what new groups have and moves keep is true of the groups of every node
(`Reachable.forall_groups`).
-/

namespace PeerCache

namespace Node

/-- What can happen to a node. -/
inductive Happening where
  /-- Its peers are replaced. -/
  | set (peers : List String)
  /-- A group is registered. -/
  | registered (group : String)
  /-- A request comes in. -/
  | received (request : Http.Request)
  /-- The group at a position makes a move. -/
  | moved (position : Nat) (move : Group.Move)
  /-- A call of a peer leaves these buffers, and this number of clients made. -/
  | called (buffers : BufferPool) (clientsMade : Nat)

/-- Makes moves of groups, one after another. -/
def makeMoves (node : Node) (now : Instant) (moves : List (Nat × Group.Move)) : Node :=
  moves.foldl (fun current entry => (current.step now entry.1 entry.2).1) node

/-- A node after something happened to it. -/
def follow (node : Node) (now : Instant) : Happening → Node
  | .set peers => node.set peers
  | .registered group => node.register group
  | .received request => (node.receive now request).1
  | .moved position move => (node.step now position move).1
  | .called buffers clientsMade => { node with buffers, clientsMade }

/-- A node after all that happened to it, in order. -/
def live (node : Node) : List (Instant × Happening) → Node
  | [] => node
  | (now, happening) :: rest => (node.follow now happening).live rest

/-- The moves of groups that a happening makes. -/
def movesMade (node : Node) : Happening → List (Nat × Group.Move)
  | .received request => node.requestMoves request
  | .moved position move => [(position, move)]
  | _ => []

/-- Those of some moves that the group at a position makes, and what it sees around it. -/
def movesAt (node : Node) (now : Instant) (position : Nat) (moves : List (Nat × Group.Move)) :
    List (Surroundings Transport × Group.Move) :=
  moves.filterMap fun entry =>
    if entry.1 = position then some (node.surroundings now, entry.2) else none

/-- The moves that the group at a position makes in all that happens to its node. -/
def movesOf (node : Node) (position : Nat) :
    List (Instant × Happening) → List (Surroundings Transport × Group.Move)
  | [] => []
  | (now, happening) :: rest =>
      node.movesAt now position (node.movesMade happening) ++
        (node.follow now happening).movesOf position rest

variable {node : Node} {now : Instant} {position : Nat} {group : Group Transport}

/-! ## Moves of groups -/

/-- A move of a group changes nothing of a node but this group. -/
theorem step_eq (node : Node) (now : Instant) (other : Nat) (move : Group.Move) :
    ∃ groups, (node.step now other move).1 = { node with groups } ∧
      ∀ position : Nat, groups[position]? = node.groups[position]?.map fun group =>
        if other = position then (group.step (node.surroundings now) move).1 else group := by
  unfold step
  cases found : node.groups[other]? with
  | none =>
      refine ⟨node.groups, rfl, fun position => ?_⟩
      by_cases same : other = position
      · rw [← same, found]
        rfl
      · simp only [if_neg same, Option.map_id']
  | some moved =>
      refine ⟨_, rfl, fun position => ?_⟩
      obtain ⟨bound, -⟩ := List.getElem?_eq_some_iff.mp found
      by_cases same : other = position
      · subst same
        rw [List.getElem?_set_self bound, found, Option.map_some, if_pos rfl]
      · rw [List.getElem?_set_ne same]
        simp only [if_neg same, Option.map_id']

/-- Moves of groups change nothing of a node but these groups, each by its own moves. -/
theorem makeMoves_eq (node : Node) (now : Instant) (moves : List (Nat × Group.Move)) :
    ∃ groups, node.makeMoves now moves = { node with groups } ∧
      ∀ position : Nat, groups[position]? = node.groups[position]?.map fun group =>
        (group.run (node.movesAt now position moves)).1 := by
  induction moves generalizing node with
  | nil =>
      refine ⟨node.groups, rfl, fun position => ?_⟩
      exact Option.map_id'.symm
  | cons entry rest hyp =>
      obtain ⟨other, move⟩ := entry
      obtain ⟨between, moved, first⟩ := step_eq node now other move
      obtain ⟨groups, made, second⟩ := hyp (node.step now other move).1
      have stays : (node.step now other move).1.movesAt now = node.movesAt now := by
        rw [moved]
        rfl
      refine ⟨groups, ?_, fun position => ?_⟩
      · rw [moved] at made
        rw [← made, ← moved]
        rfl
      · rw [second, stays, moved]
        dsimp only
        rw [first, Option.map_map]
        apply congrFun
        apply congrArg
        funext group
        by_cases same : other = position
        · simp only [Function.comp_apply, movesAt, List.filterMap_cons, if_pos same, Group.run]
        · simp only [Function.comp_apply, movesAt, List.filterMap_cons, if_neg same]

/-- A request changes nothing of a node but the groups that it moves. -/
theorem receive_eq_makeMoves (node : Node) (now : Instant) (request : Http.Request) :
    (node.receive now request).1 = node.makeMoves now (node.requestMoves request) := by
  have alone (before : Node) (moves : List (Nat × Group.Move)) :
      ((Cluster.mk [before] []).moveGroups now 0 moves).1 =
        Cluster.mk [before.makeMoves now moves] [] := by
    induction moves generalizing before with
    | nil => rfl
    | cons entry rest hyp => exact hyp _
  have here : (Cluster.mk [node] []).nodes[0]? = some node := rfl
  have moved := congrArg Prod.fst (Cluster.moveGroups_requestMoves here now request)
  rw [alone] at moved
  have same := congrArg (fun cluster => cluster.nodes[0]?) moved
  exact (Option.some.inj same).symm

/-! ## Happenings -/

/-- A later state of a node: its settings have stayed, and its groups have made these moves. -/
structure Becomes (node later : Node)
    (moves : Nat → List (Surroundings Transport × Group.Move)) : Prop where
  options : later.pool.options = node.pool.options
  groups : ∀ (position : Nat) (group : Group Transport), node.groups[position]? = some group →
    later.groups[position]? = some (group.run (moves position)).1

theorem Becomes.trans {between later : Node}
    {first second : Nat → List (Surroundings Transport × Group.Move)}
    (before : node.Becomes between first) (after : between.Becomes later second) :
    node.Becomes later fun position => first position ++ second position := by
  refine ⟨after.options.trans before.options, fun position group found => ?_⟩
  rw [Group.run_append]
  exact after.groups position _ (before.groups position group found)

theorem becomes_makeMoves (node : Node) (now : Instant) (moves : List (Nat × Group.Move)) :
    node.Becomes (node.makeMoves now moves) fun position => node.movesAt now position moves := by
  obtain ⟨groups, made, each⟩ := makeMoves_eq node now moves
  rw [made]
  refine ⟨rfl, fun position group found => ?_⟩
  rw [each, found]
  rfl

theorem becomes_follow (node : Node) (now : Instant) (happening : Happening) :
    node.Becomes (node.follow now happening)
      fun position => node.movesAt now position (node.movesMade happening) := by
  cases happening with
  | set peers => exact ⟨rfl, fun position group found => found⟩
  | called buffers clientsMade => exact ⟨rfl, fun position group found => found⟩
  | registered name =>
      refine ⟨rfl, fun position group found => ?_⟩
      obtain ⟨bound, -⟩ := List.getElem?_eq_some_iff.mp found
      exact (List.getElem?_append_left bound).trans found
  | received request =>
      rw [follow, receive_eq_makeMoves]
      exact becomes_makeMoves node now (node.requestMoves request)
  | moved other move => exact becomes_makeMoves node now [(other, move)]

/-- Whatever happens to a node, its settings stay, and a group that is there makes the moves that
are read off. -/
theorem becomes_live (node : Node) (happenings : List (Instant × Happening)) :
    node.Becomes (node.live happenings) fun position => node.movesOf position happenings := by
  induction happenings generalizing node with
  | nil => exact ⟨rfl, fun position group found => found⟩
  | cons entry rest hyp =>
      obtain ⟨now, happening⟩ := entry
      exact (becomes_follow node now happening).trans (hyp (node.follow now happening))

/-! ## Groups that are found -/

/-- Whatever group is found by its name is there. -/
structure Sound (node : Node) : Prop where
  found : ∀ entry ∈ node.registered, entry.2 < node.groups.length

theorem Sound.exists_group (sound : node.Sound) {name : String}
    (isFound : node.position? name = some position) :
    ∃ group, node.groups[position]? = some group := by
  obtain ⟨before, after, listed, -⟩ := List.lookup_eq_some_iff.mp isFound
  have member : (name, position) ∈ node.registered := by simp [listed]
  exact ⟨_, List.getElem?_eq_getElem (sound.found _ member)⟩

/-- A node without groups finds none. -/
theorem sound_of_nil (none_registered : node.registered = []) : node.Sound := by
  constructor
  intro entry member
  rw [none_registered] at member
  cases member

theorem sound_register (sound : node.Sound) (name : String) : (node.register name).Sound := by
  constructor
  intro entry member
  have length : (node.register name).groups.length = node.groups.length + 1 := by
    simp [register]
  rw [length]
  rcases List.mem_cons.mp member with rfl | before
  · exact Nat.lt_succ_self _
  · exact Nat.lt_succ_of_lt (sound.found entry (List.mem_filter.mp before).1)

theorem sound_makeMoves (sound : node.Sound) (now : Instant) (moves : List (Nat × Group.Move)) :
    (node.makeMoves now moves).Sound := by
  obtain ⟨groups, made, each⟩ := makeMoves_eq node now moves
  rw [made]
  constructor
  intro entry member
  have there := each entry.2
  have bound := sound.found entry member
  rw [List.getElem?_eq_getElem bound, Option.map_some] at there
  exact (List.getElem?_eq_some_iff.mp there).1

/-- Every node is sound, whatever happened to it since it was made. -/
theorem sound_live (sound : node.Sound) (happenings : List (Instant × Happening)) :
    (node.live happenings).Sound := by
  induction happenings generalizing node with
  | nil => exact sound
  | cons entry rest hyp =>
      obtain ⟨now, happening⟩ := entry
      apply hyp
      cases happening with
      | set peers => exact ⟨sound.found⟩
      | called buffers clientsMade => exact ⟨sound.found⟩
      | registered name => exact sound_register sound name
      | received request =>
          rw [follow, receive_eq_makeMoves]
          exact sound_makeMoves sound now _
      | moved position move => exact sound_makeMoves sound now [(position, move)]

/-! ## Nodes as they can be -/

/-- A node that was made without groups, after anything that can happen to a node. -/
def Reachable (node : Node) : Prop :=
  ∃ (start : Node) (happenings : List (Instant × Happening)),
    start.groups = [] ∧ start.registered = [] ∧ node = start.live happenings

/-- Nodes come into being so. -/
theorem reachable_of_new? {name selfUrl : String} {options : PoolOptions}
    (made : new? name selfUrl options = some node) : node.Reachable := by
  rw [new?, Option.map_eq_some_iff] at made
  obtain ⟨routes, -, rfl⟩ := made
  exact ⟨_, [], rfl, rfl, rfl⟩

theorem live_append (node : Node) (first second : List (Instant × Happening)) :
    node.live (first ++ second) = (node.live first).live second := by
  induction first generalizing node with
  | nil => rfl
  | cons entry rest hyp => exact hyp (node.follow entry.1 entry.2)

namespace Reachable

theorem live (reachable : node.Reachable) (happenings : List (Instant × Happening)) :
    (node.live happenings).Reachable := by
  obtain ⟨start, before, no_groups, none_registered, rfl⟩ := reachable
  exact ⟨start, before ++ happenings, no_groups, none_registered, (live_append ..).symm⟩

theorem receive (reachable : node.Reachable) (now : Instant) (request : Http.Request) :
    (node.receive now request).1.Reachable :=
  reachable.live [(now, .received request)]

theorem sound (reachable : node.Reachable) : node.Sound := by
  obtain ⟨start, before, -, none_registered, rfl⟩ := reachable
  exact sound_live (sound_of_nil none_registered) before

end Reachable

section Groups

variable {holds : Group Transport → Prop}
  (step : ∀ near (group : Group Transport) move, holds group → holds (group.step near move).1)

include step

/-- What moves keep is true of every group after moves of groups. -/
theorem forall_groups_makeMoves (before : ∀ group ∈ node.groups, holds group) (now : Instant)
    (moves : List (Nat × Group.Move)) :
    ∀ group ∈ (node.makeMoves now moves).groups, holds group := by
  obtain ⟨groups, made, each⟩ := makeMoves_eq node now moves
  rw [made]
  intro group member
  obtain ⟨position, at_⟩ := List.getElem?_of_mem member
  rw [each, Option.map_eq_some_iff] at at_
  obtain ⟨was, there, rfl⟩ := at_
  exact Group.run_of_step step (before was (List.mem_of_getElem? there)) _

/-- What is true of new groups, and is kept by moves, is true of all groups of a node. -/
theorem Reachable.forall_groups (reachable : node.Reachable) (new : ∀ name, holds (.new name)) :
    ∀ group ∈ node.groups, holds group := by
  have keeps (happenings : List (Instant × Happening)) (start : Node)
      (before : ∀ group ∈ start.groups, holds group) :
      ∀ group ∈ (start.live happenings).groups, holds group := by
    induction happenings generalizing start with
    | nil => exact before
    | cons entry rest hyp =>
        obtain ⟨now, happening⟩ := entry
        apply hyp
        cases happening with
        | set peers => exact before
        | called buffers clientsMade => exact before
        | registered name =>
            intro group member
            rcases List.mem_append.mp member with old | last
            · exact before group old
            · rw [List.mem_singleton.mp last]
              exact new name
        | received request =>
            rw [follow, receive_eq_makeMoves]
            exact forall_groups_makeMoves step before now _
        | moved position move =>
            exact forall_groups_makeMoves step before now [(position, move)]
  obtain ⟨start, happenings, no_groups, -, rfl⟩ := reachable
  apply keeps happenings start
  rw [no_groups]
  intro group member
  cases member

end Groups

end Node

end PeerCache
