/-
Module: PeerCache.Cluster
Purpose: Nodes that call each other, with every request and answer on its way.
Main exports:
  RemoteCall, LoaderCall, Cluster, Cluster.Move, Cluster.step, Cluster.run
-/
import PeerCache.Node

/-!
In a cluster a node's call of a peer becomes a request on its way (`RemoteCall`).  It
may arrive at the node that has its address, be handled there, and be answered; or it
may come to nothing.  All of this takes any amount of time, so it is a list of moves:
requests arrive, handlers end, answers come back, connections fail, loaders reply, in
any order.

A call that cannot be sent fails at once, before anything else happens.  Calls of
loaders are told to the surroundings, which decide what they come to and when.
-/

namespace PeerCache

/-- What a call of a peer is for. -/
inductive CallPurpose where
  | get
  | removeAtOwner
  | broadcast (number : Nat)
deriving Repr, DecidableEq

/-- How far a call has come. -/
inductive CallStage where
  /-- Its request is on its way. -/
  | travelling
  /-- Its request is handled by a node. -/
  | serving (node : Nat) (handling : Handling)
  /-- It has come to a result. -/
  | ended

/-- A call of a peer: who made it, and its request. -/
structure RemoteCall where
  node : Nat
  group : Nat
  caller : Nat
  /-- The group and key that are asked for. -/
  groupName : String
  key : String
  purpose : CallPurpose
  outgoing : Outgoing
  stage : CallStage

/-- A call of a loader, which the surroundings reply to. -/
structure LoaderCall where
  node : Nat
  group : Nat
  caller : Nat
  key : String
  context : CallContext
deriving Repr, DecidableEq

/-- Nodes, and all calls that were ever sent between them. -/
structure Cluster where
  nodes : List Node
  calls : List RemoteCall

namespace Cluster

/-- What can happen to a cluster; nodes, groups, callers and calls are named by their
positions. -/
inductive Move where
  /-- A node's peers are replaced. -/
  | set (node : Nat) (peers : List String)
  /-- Something happens to a group of a node: a caller arrives, a loader replies, … -/
  | inGroup (node group : Nat) (move : Group.Move)
  /-- A request comes from outside. -/
  | request (node : Nat) (request : Http.Request)
  /-- A call's request arrives at the node with its address. -/
  | arrive (call : Nat)
  /-- A call's answer comes back whole, once its handler has ended. -/
  | reply (call : Nat)
  /-- A call comes to this, whatever became of its request. -/
  | resolve (call : Nat) (delivery : Delivery)

/-- Puts a node at a position. -/
def setNode (cluster : Cluster) (position : Nat) (node : Node) : Cluster :=
  { cluster with nodes := cluster.nodes.set position node }

/-- The context of a caller. -/
def contextOf (node : Node) (group caller : Nat) : CallContext :=
  ((node.groups[group]?.bind fun group => group.callers[caller]?).map
    GroupCaller.context).getD .new

/-- Sends a call, or gives the reason why it cannot be sent. -/
def send (cluster : Cluster) (position group caller : Nat) (purpose : CallPurpose)
    (key : String) (transport : Transport) : Cluster × Option CacheError :=
  match cluster.nodes[position]? with
  | none => (cluster, none)
  | some node =>
      let groupName := (node.groups[group]?.map Group.name).getD ""
      let clients := if transport.makesClient groupName key then 1 else 0
      let counted :=
        cluster.setNode position { node with clientsMade := node.clientsMade + clients }
      let method : PeerMethod := match purpose with
        | .get => .get
        | _ => .delete
      match transport.prepare (contextOf node group caller) method groupName key with
      | .error error => (counted, some error)
      | .ok outgoing =>
          ({ counted with
              calls := cluster.calls ++
                [⟨position, group, caller, groupName, key, purpose, outgoing, .travelling⟩] },
            none)

/-- Makes a move of a group of a node. -/
def moveGroup (cluster : Cluster) (now : Instant) (position group : Nat) (move : Group.Move) :
    Cluster × List NodeEvent :=
  match cluster.nodes[position]? with
  | none => (cluster, [])
  | some node =>
      let (after, events) := node.step now group move
      (cluster.setNode position after, events)

/-- The loader calls among the events of a node. -/
def loaderCalls (cluster : Cluster) (position : Nat) (events : List NodeEvent) :
    List LoaderCall :=
  events.filterMap fun (group, event) =>
    match event, cluster.nodes[position]? with
    | .calledLoader caller key, some node =>
        some ⟨position, group, caller, key, contextOf node group caller⟩
    | _, _ => none

/-- Sends the call that an event asks for; one that cannot be sent fails at once. -/
def follow (now : Instant) (position : Nat) (cluster : Cluster) :
    NodeEvent → Cluster × List LoaderCall
  | (group, .calledLoader caller key) =>
      (cluster, cluster.loaderCalls position [(group, .calledLoader caller key)])
  | (group, .askedPeer caller key peer) =>
      match cluster.send position group caller .get key peer with
      | (sent, none) => (sent, [])
      | (unsent, some error) =>
          let (after, events) :=
            unsent.moveGroup now position group (.peerReplied caller (.returned (.error error)))
          (after, after.loaderCalls position events)
  | (group, .askedOwner caller key owner) =>
      match cluster.send position group caller .removeAtOwner key owner with
      | (sent, none) => (sent, [])
      | (unsent, some error) =>
          ((unsent.moveGroup now position group
            (.ownerReplied caller (.returned (.error error)))).1, [])
  | (group, .broadcast caller key number peer) =>
      match cluster.send position group caller (.broadcast number) key peer with
      | (sent, none) => (sent, [])
      | (unsent, some error) =>
          ((unsent.moveGroup now position group
            (.broadcastEnded caller number (.returned (.error error)))).1, [])

/-- Sends the calls that events ask for, in order. -/
def followAll (now : Instant) (position : Nat) (cluster : Cluster) (events : List NodeEvent) :
    Cluster × List LoaderCall :=
  events.foldl (fun (current, called) event =>
    let (after, more) := follow now position current event
    (after, called ++ more)) (cluster, [])

/-- Moves a group and sends the calls that it asks for. -/
def actInGroup (cluster : Cluster) (now : Instant) (position group : Nat) (move : Group.Move) :
    Cluster × List LoaderCall :=
  let (after, events) := cluster.moveGroup now position group move
  followAll now position after events

/-- A node handles a request, and the calls are sent that this asks for. -/
def receive (cluster : Cluster) (now : Instant) (position : Nat) (request : Http.Request) :
    Cluster × Option Handling × List LoaderCall :=
  match cluster.nodes[position]? with
  | none => (cluster, none, [])
  | some node =>
      let (after, handling, events) := node.receive now request
      let (followed, called) := followAll now position (cluster.setNode position after) events
      (followed, some handling, called)

/-- The host and port at which a node is reached. -/
def addressOf (node : Node) : Option String :=
  (Url.parse node.pool.selfUrl).toOption.map Url.authority

/-- The position of the node with an address. -/
def nodeAt? (cluster : Cluster) (address : String) : Option Nat :=
  cluster.nodes.findIdx? fun node => addressOf node = some address

/-- A request as it arrives. -/
def arriving (outgoing : Outgoing) : Http.Request :=
  { method := outgoing.method.text
    target := .ofText outgoing.url.target
    headers :=
      [(CallContext.requestIdHeader, Bytes.ofString outgoing.requestId.text),
       (CallContext.ringFingerprintHeader, Bytes.ofString outgoing.fingerprint)] }

/-- Puts a call at a stage. -/
def atStage (cluster : Cluster) (call : Nat) (stage : CallStage) : Cluster :=
  { cluster with calls := cluster.calls.modify call fun entry => { entry with stage } }

/-- A call comes to a result: its caller goes on with what became of the request. -/
def conclude (cluster : Cluster) (now : Instant) (index : Nat) (call : RemoteCall)
    (delivery : Delivery) : Cluster × List LoaderCall :=
  match cluster.nodes[call.node]? with
  | none => (cluster, [])
  | some node =>
      let address := call.outgoing.url.text
      let ended := cluster.atStage index .ended
      match call.purpose with
      | .get =>
          let (result, buffers) :=
            Transport.receiveResponse call.groupName call.key address delivery node.buffers
          (ended.setNode call.node { node with buffers }).actInGroup now call.node call.group
            (.peerReplied call.caller (.returned result))
      | .removeAtOwner =>
          let (result, buffers) :=
            Transport.receiveRemoval call.groupName call.key address delivery node.buffers
          (ended.setNode call.node { node with buffers }).actInGroup now call.node call.group
            (.ownerReplied call.caller (.returned result))
      | .broadcast number =>
          let (result, buffers) :=
            Transport.receiveRemoval call.groupName call.key address delivery node.buffers
          (ended.setNode call.node { node with buffers }).actInGroup now call.node call.group
            (.broadcastEnded call.caller number (.returned result))

/-- What comes back over a connection that delivers everything. -/
def deliveryOf : Node.Outcome → Delivery
  | .closed => .unreachable
  | .answered answer => .answered answer.status answer.body true

/-- What comes back for a call that is being served, once its handler has ended. -/
def servedDelivery? (cluster : Cluster) : CallStage → Option Delivery
  | .serving position handling =>
      (cluster.nodes[position]?.bind fun node => node.outcome? handling).map deliveryOf
  | _ => none

/-- Follows a move.  A move that does not fit the stage of its call changes nothing. -/
def step (cluster : Cluster) (now : Instant) : Move → Cluster × List LoaderCall
  | .set position peers =>
      match cluster.nodes[position]? with
      | none => (cluster, [])
      | some node => (cluster.setNode position (node.set peers), [])
  | .inGroup position group move => cluster.actInGroup now position group move
  | .request position request =>
      let (after, _, called) := cluster.receive now position request
      (after, called)
  | .arrive index =>
      match cluster.calls[index]? with
      | some call =>
          match call.stage, cluster.nodeAt? call.outgoing.url.authority with
          | .travelling, some position =>
              match cluster.receive now position (arriving call.outgoing) with
              | (after, some handling, called) =>
                  (after.atStage index (.serving position handling), called)
              | (after, none, called) => (after, called)
          | _, _ => (cluster, [])
      | none => (cluster, [])
  | .reply index =>
      match cluster.calls[index]? with
      | some call =>
          match cluster.servedDelivery? call.stage with
          | some delivery => cluster.conclude now index call delivery
          | none => (cluster, [])
      | none => (cluster, [])
  | .resolve index delivery =>
      match cluster.calls[index]? with
      | some call =>
          match call.stage with
          | .ended => (cluster, [])
          | _ => cluster.conclude now index call delivery
      | none => (cluster, [])

/-- Follows moves, each at its own time; the loader calls are kept in order. -/
def run (cluster : Cluster) : List (Instant × Move) → Cluster × List LoaderCall
  | [] => (cluster, [])
  | (now, move) :: rest =>
      let (after, called) := cluster.step now move
      let (last, later) := after.run rest
      (last, called ++ later)

end Cluster

end PeerCache
