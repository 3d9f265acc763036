/-
Module: PeerCache.Scenario.ClusterScript
Purpose: Scripts for the nodes of a cluster over a network that decides every call at once.
Main exports:
  NodeScript, ClusterStep, ClusterValue, ClusterReport, ClusterScript.run
-/
import PeerCache.Cluster
import PeerCache.Peer.Hooks
import PeerCache.Peer.Network
import PeerCache.Scenario.GroupScript

/-!
Nothing in these scripts takes time.  A loader replies as soon as it is called, and the
network makes of every call what it will as soon as it is sent.  So a caller comes to
its end before the next one of the same step starts, and nothing is under way when a
step ends.  The calls that one caller sends at once come to their ends in the order in
which they were sent.
-/

namespace PeerCache.Scenario

/-- A group of a node. -/
structure NodeGroup where
  name : String
  loader : LoaderScript
deriving Inhabited

/-- A node of a script. -/
structure NodeScript where
  name : String
  url : String
  options : PoolOptions
  groups : List NodeGroup

/-- A step of a script; nodes go by their names. -/
inductive ClusterStep where
  | set (node : String) (peers : List String)
  | pick (node key : String)
  | get (node group key : String) (context : CallContext)
  | remove (node group key : String) (context : CallContext)
  /-- Several gets that begin at once. -/
  | gets (node group : String) (keys : List String)
  | removeLocally (node group key : String)
  | look (node group key : String)
  | stats (node group : String)
  | groups (node : String)
  | register (node : String) (group : NodeGroup)
  /-- A request from outside. -/
  | request (node : String) (request : Http.Request)
  /-- Something about the network, which no node notices by itself. -/
  | network

/-- A call of a loader, as it is noted. -/
structure LoadNote where
  node : String
  group : String
  key : String
  requestId : RequestId
deriving Repr, DecidableEq

/-- The note as one line of text. -/
def LoadNote.text (note : LoadNote) : String :=
  (Text.Json.array [.string "load", .string note.node, .string note.group, .string note.key,
    .string note.requestId.text]).text

/-- What a step comes to. -/
inductive ClusterValue where
  | nothing
  | noGroup
  | url (url : Option String)
  | ending (ending : GroupEnding)
  | endings (endings : List GroupEnding)
  | view (view : Option View)
  | stats (stats : GroupStats) (entries flights clientsMade : Nat)
  | groups (names : List String) (count : Nat)
  | count (count : Nat)
  | outcome (outcome : Node.Outcome)

/-- What a step did. -/
structure ClusterReport where
  value : ClusterValue
  /-- The requests that got out of their nodes. -/
  wire : List Outgoing
  loads : List LoadNote

/-- The state of a script that is being played. -/
structure ClusterPlay where
  cluster : Cluster
  /-- The loaders of the groups of each node, by the positions of both. -/
  loaders : List (List LoaderScript)
  /-- The loads so far: positions of node and group, and the key. -/
  loaded : List (Nat × Nat × String)
  notes : List LoadNote
  wire : List Outgoing

namespace ClusterPlay

/-- The time at which all scripts are played. -/
def now : Instant := GroupScript.now

/-- A node with its groups; none if its paths clash. -/
def buildNode? (script : NodeScript) : Option Node :=
  (Node.new? script.name script.url script.options).map fun node =>
    script.groups.foldl (fun node group => node.register group.name) node

/-- The state before the first step; none if the paths of a node clash. -/
def start? (nodes : List NodeScript) : Option ClusterPlay :=
  (nodes.mapM buildNode?).map fun built =>
    { cluster := ⟨built, []⟩
      loaders := nodes.map fun node => node.groups.map NodeGroup.loader
      loaded := []
      notes := []
      wire := [] }

/-- The position of a node. -/
def position? (play : ClusterPlay) (node : String) : Option Nat :=
  play.cluster.nodes.findIdx? fun entry => entry.name = node

/-- A called loader replies at once. -/
def replyLoader (play : ClusterPlay) (call : LoaderCall) : ClusterPlay :=
  let earlier := play.loaded.count (call.node, call.group, call.key)
  let script := ((play.loaders[call.node]?.getD [])[call.group]?).getD default
  let reply := (script.outcome call.key earlier).reply call.key earlier
  let node := play.cluster.nodes[call.node]?
  let note : LoadNote :=
    ⟨(node.map Node.name).getD "",
      ((node.bind fun node => node.groups[call.group]?).map Group.name).getD "",
      call.key, call.context.requestId⟩
  { play with
    cluster := (play.cluster.actInGroup now call.node call.group
      (.loaderReplied call.caller reply)).1
    loaded := (call.node, call.group, call.key) :: play.loaded
    notes := play.notes ++ [note] }

/-- Takes the cluster after a move, and lets the called loaders reply. -/
def take (play : ClusterPlay) (moved : Cluster × List LoaderCall) : ClusterPlay :=
  moved.2.foldl replyLoader { play with cluster := moved.1 }

/-- A call of a peer comes to what the network makes of it. -/
def resolve (network : Network) (play : ClusterPlay) (index : Nat) : ClusterPlay :=
  match play.cluster.calls[index]? with
  | none => play
  | some call =>
      let carried := if network.carries call.outgoing then [call.outgoing] else []
      take { play with wire := play.wire ++ carried }
        (play.cluster.step now (.resolve index (network.deliver call.outgoing)))

/-- Lets the calls sent since the first `sent` come to what the network makes of them,
then the caller that they were sent for go on. -/
def settle (network : Network) (play : ClusterPlay) (sent node group caller : Nat) :
    ClusterPlay :=
  let ended := ((List.range play.cluster.calls.length).drop sent).foldl (resolve network) play
  ended.take (ended.cluster.actInGroup now node group (.poll caller))

/-- The callers of a node's group. -/
def callersOf (play : ClusterPlay) (node group : Nat) : List (GroupCaller Transport) :=
  match play.cluster.nodes[node]?.bind fun entry => entry.groups[group]? with
  | none => []
  | some entry => entry.callers

/-- How a caller ended, if it has. -/
def ending? : Place Transport → Option GroupEnding
  | .got result => some (.got result)
  | .removed result => some (.removed result)
  | .panicked message => some (.panicked message)
  | .dropped => some .aborted
  | _ => none

/-- Starts a caller of a group of a node and lets it come to its end. -/
def runCaller (network : Network) (node group : Nat) (play : ClusterPlay) (move : Group.Move) :
    ClusterPlay :=
  let sent := play.cluster.calls.length
  let caller := (play.callersOf node group).length
  (play.take (play.cluster.actInGroup now node group move)).settle network sent node group caller

/-- Runs callers of a group of a node, one after another. -/
def runCallers (network : Network) (play : ClusterPlay) (node group : Nat)
    (moves : List Group.Move) : ClusterPlay × List GroupEnding :=
  let first := (play.callersOf node group).length
  let settled := moves.foldl (runCaller network node group) play
  (settled, ((settled.callersOf node group).drop first).filterMap fun caller =>
    ending? caller.place)

/-- Handles a request from outside until it is answered. -/
def runRequest (network : Network) (play : ClusterPlay) (node : Nat) (request : Http.Request) :
    ClusterPlay × ClusterValue :=
  let sent := play.cluster.calls.length
  match play.cluster.receive now node request with
  | (after, some handling, called) =>
      let taken := play.take (after, called)
      let settled := match handling with
        | .answered _ => taken
        | .running group caller _ _ => taken.settle network sent node group caller
      (settled,
        match settled.cluster.nodes[node]?.bind fun entry => entry.outcome? handling with
        | some outcome => .outcome outcome
        | none => .nothing)
  | (after, none, _) => ({ play with cluster := after }, .nothing)

/-- The position of a named group of a node. -/
def groupPosition? (play : ClusterPlay) (node : Nat) (group : String) : Option Nat :=
  play.cluster.nodes[node]?.bind fun entry => entry.position? group

/-- Does something with a group of a node that has one of that name. -/
def withGroup (play : ClusterPlay) (node : Nat) (group : String)
    (action : Nat → ClusterPlay × ClusterValue) : ClusterPlay × ClusterValue :=
  match play.groupPosition? node group with
  | none => (play, .noGroup)
  | some position => action position

/-- The value of a step that starts one caller. -/
def single : ClusterPlay × List GroupEnding → ClusterPlay × ClusterValue
  | (play, [ending]) => (play, .ending ending)
  | (play, endings) => (play, .endings endings)

/-- Does something on a node. -/
def onNode (play : ClusterPlay) (name : String)
    (action : Nat → Node → ClusterPlay × ClusterValue) : ClusterPlay × ClusterValue :=
  match play.position? name with
  | none => (play, .nothing)
  | some position =>
      match play.cluster.nodes[position]? with
      | none => (play, .nothing)
      | some node => action position node

/-- The request id of gets that begin at once. -/
def sharedContext : CallContext := ⟨.given "r", none⟩

/-- Registers a group with a node. -/
def register (play : ClusterPlay) (position : Nat) (node : Node) (group : NodeGroup) :
    ClusterPlay × ClusterValue :=
  let after := node.register group.name
  ({ play with
      cluster := play.cluster.setNode position after
      loaders := play.loaders.modify position (· ++ [group.loader]) },
    .count after.registered.length)

/-- Follows a step. -/
def step (network : Network) (play : ClusterPlay) : ClusterStep → ClusterPlay × ClusterValue
  | .set name peers =>
      play.onNode name fun position _ =>
        (play.take (play.cluster.step now (.set position peers)), .nothing)
  | .pick name key =>
      play.onNode name fun _ node =>
        (play, .url ((node.pool.pick? key).map Transport.baseUrl))
  | .get name group key context =>
      play.onNode name fun position _ => play.withGroup position group fun found =>
        single (play.runCallers network position found [.get context key])
  | .remove name group key context =>
      play.onNode name fun position _ => play.withGroup position group fun found =>
        single (play.runCallers network position found [.remove context key])
  | .gets name group keys =>
      play.onNode name fun position _ => play.withGroup position group fun found =>
        let (after, endings) :=
          play.runCallers network position found (keys.map fun key => .get sharedContext key)
        (after, .endings endings)
  | .removeLocally name group key =>
      play.onNode name fun position _ => play.withGroup position group fun found =>
        (play.take (play.cluster.actInGroup now position found (.removeLocally key)), .nothing)
  | .look name group key =>
      play.onNode name fun position node => play.withGroup position group fun found =>
        (play.take (play.cluster.actInGroup now position found (.look key)),
          .view (node.groups[found]?.bind fun entry => (entry.lookUp now key).1))
  | .stats name group =>
      play.onNode name fun position node => play.withGroup position group fun found =>
        (play, match node.groups[found]? with
          | none => .noGroup
          | some entry =>
              .stats entry.stats entry.store.size entry.loads.count node.clientsMade)
  | .groups name =>
      play.onNode name fun _ node =>
        (play, .groups ((node.registered.map Prod.fst).mergeSort fun first second =>
          first ≤ second) node.registered.length)
  | .register name group =>
      play.onNode name fun position node => play.register position node group
  | .request name request =>
      play.onNode name fun position _ => play.runRequest network position request
  | .network => (play, .nothing)

/-- Whether a step starts several callers at once, so that no order of their loads is
told. -/
def isUnordered : ClusterStep → Bool
  | .gets _ _ _ => true
  | _ => false

/-- The notes of a step: in order, or by their texts where the order is not told. -/
def orderedNotes (step : ClusterStep) (notes : List LoadNote) : List LoadNote :=
  if isUnordered step then
    notes.mergeSort fun first second => first.text ≤ second.text
  else notes

/-- Follows steps, reporting each. -/
def runFrom (network : Network) (play : ClusterPlay) : List ClusterStep → List ClusterReport
  | [] => []
  | step :: rest =>
      let (after, value) := ClusterPlay.step network { play with notes := [], wire := [] } step
      ⟨value, after.wire, orderedNotes step after.notes⟩ :: runFrom network after rest

end ClusterPlay

/-- The reports of a script over a network; none if the paths of a node clash. -/
def runCluster? (network : Network) (nodes : List NodeScript) (steps : List ClusterStep) :
    Option (List ClusterReport) :=
  (ClusterPlay.start? nodes).map fun play => play.runFrom network steps

end PeerCache.Scenario
