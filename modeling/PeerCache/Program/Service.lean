/-
Module: PeerCache.Program.Service
Purpose: The serving program as events and the effects that they ask for.
Main exports:
  Service, Service.Event, Service.Effect, Service.start?, Service.step, Service.run
-/
import PeerCache.Cluster
import PeerCache.Program.Launch

/-!
While it serves, the program reacts to events: a request has arrived on a connection, a
load has taken its time, a peer's answer has come.  Each event changes the state of the
node and asks for effects: loads to begin, requests to send, answers to give.  The
program does what it is asked for, and what comes of that are later events.
-/

namespace PeerCache.Program

/-- The state of the serving program: a cluster of one node, and the requests that are
being handled, by their connections. -/
structure Service where
  cluster : Cluster
  waiting : List (Nat × Handling)

namespace Service

/-- What happens to the program.  Clients stay until they are answered: there is no event for one
that goes away, and with it its caller and a load that the caller leads. -/
inductive Event where
  /-- A request has arrived. -/
  | request (connection : Nat) (request : Http.Request)
  /-- A load has taken its time. -/
  | loaded (call : LoaderCall)
  /-- A request to a peer has come to this. -/
  | delivered (call : Nat) (delivery : Delivery)

/-- What the program is to do. -/
inductive Effect where
  /-- Let a load take its time. -/
  | load (call : LoaderCall)
  /-- Send a request to a peer. -/
  | send (call : Nat) (outgoing : Outgoing)
  /-- Give an answer, or close the connection without one. -/
  | answer (connection : Nat) (outcome : Node.Outcome)

/-- The program at its start; none if the paths of its node clash. -/
def start? (settings : Settings) : Option Service :=
  settings.node?.map fun node => ⟨⟨[node], []⟩, []⟩

/-- How long a load takes, in milliseconds: a key that is no number is found out at once. -/
def loadMillis (call : LoaderCall) : Nat :=
  match Text.readInteger Squares.greatest call.key with
  | .ok _ => Squares.delayMillis
  | .error _ => 0

/-- The cluster after an event, the loader calls, and the request that began to be
handled. -/
def react (service : Service) (now : Instant) :
    Event → Cluster × List LoaderCall × List (Nat × Handling)
  | .request connection request =>
      match service.cluster.receive now 0 request with
      | (after, some handling, called) => (after, called, [(connection, handling)])
      | (after, none, called) => (after, called, [])
  | .loaded call =>
      let (after, called) := service.cluster.actInGroup now call.node call.group
        (.loaderReplied call.caller (Squares.reply now call.key))
      (after, called, [])
  | .delivered call delivery =>
      let (after, called) := service.cluster.step now (.resolve call delivery)
      (after, called, [])

/-- Lets a caller that waits for others go on if they have ended. -/
def pollHandling (now : Instant) (cluster : Cluster) : Nat × Handling → Cluster
  | (_, .running group caller _ _) => (cluster.actInGroup now 0 group (.poll caller)).1
  | (_, .answered _) => cluster

/-- What goes back for a request, once it is known. -/
def outcome? (cluster : Cluster) (handling : Handling) : Option Node.Outcome :=
  cluster.nodes.head?.bind fun node => node.outcome? handling

/-- The requests that were sent since there were `before` of them. -/
def sends (cluster : Cluster) (before : Nat) : List Effect :=
  (cluster.calls.zipIdx.drop before).map fun entry => .send entry.2 entry.1.outgoing

/-- Follows an event. -/
def step (service : Service) (now : Instant) (event : Event) : Service × List Effect :=
  let (reacted, called, begun) := service.react now event
  let handled := service.waiting ++ begun
  let settled := handled.foldl (pollHandling now) reacted
  let answers := handled.filterMap fun entry =>
    (outcome? settled entry.2).map fun outcome => Effect.answer entry.1 outcome
  let waiting := handled.filter fun entry => (outcome? settled entry.2).isNone
  (⟨settled, waiting⟩,
    called.map .load ++ sends settled service.cluster.calls.length ++ answers)

/-- Follows events, each at its own time; the effects are kept in order. -/
def run (service : Service) : List (Instant × Event) → Service × List Effect
  | [] => (service, [])
  | (now, event) :: rest =>
      let (after, effects) := service.step now event
      let (last, later) := after.run rest
      (last, effects ++ later)

/-- Two runs in a row are one run. -/
theorem run_append (service : Service) (first second : List (Instant × Event)) :
    service.run (first ++ second) =
      (((service.run first).1.run second).1,
        (service.run first).2 ++ ((service.run first).1.run second).2) := by
  induction first generalizing service with
  | nil => simp [run]
  | cons timed rest hyp => simp [run, hyp, List.append_assoc]

end Service

end PeerCache.Program
