/-
Module: PeerCache.Node
Purpose: A node: its pool, its groups, and how it answers requests.
Main exports:
  Node, Node.new?, Node.register, Node.step, Node.receive, Handling, Errand,
  Node.peerAnswer
-/
import PeerCache.Node.PublicBody
import PeerCache.Peer.Pool
import PeerCache.Route

/-!
A node serves the public and its peers.  A request that needs no group to do anything is
answered at once; any other starts a caller of a group, and is answered when the caller
has ended (`Handling`).  If the caller panics the connection closes without an answer.

The peer protocol asks for a group and a key, parted by the first slash below the base
path after decoding.  A peer's get goes through the group like any other get; a peer's
removal concerns this node's store alone.  Failures are answered by the pool, so that
its hook, if it has one, sees them all.  A request for the head of an answer is handled
as a get, and its answer loses its body.

Groups are found by name.  A group that was replaced keeps its callers but is not found
any more.
-/

namespace PeerCache

instance : PeerHandle Transport := ⟨Transport.baseUrl⟩

/-- A node. -/
structure Node where
  /-- What the node is called in records. -/
  name : String
  pool : PeerPool
  routes : Routes
  /-- Every group that was ever registered. -/
  groups : List (Group Transport)
  /-- The positions of the groups that are found, by name. -/
  registered : List (String × Nat)
  buffers : BufferPool
  /-- The clients that were made for calls of peers. -/
  clientsMade : Nat

/-- For whom a caller of a group runs. -/
inductive Errand where
  /-- The public reads a key. -/
  | publicGet
  /-- The public removes a key. -/
  | publicRemove
  /-- A peer reads a key; the request's context and target go into a failure's answer. -/
  | peerGet (context : CallContext) (target : String)
deriving Repr, DecidableEq

/-- How a request is being handled. -/
inductive Handling where
  /-- It is answered. -/
  | answered (answer : Http.Answer)
  /-- A caller of a group runs for it; only the head of the answer may be wanted. -/
  | running (group caller : Nat) (errand : Errand) (headOnly : Bool)

/-- A group's event, with the position of the group. -/
abbrev NodeEvent := Nat × Group.Event Transport

namespace Node

/-- A node without groups; none if its paths clash. -/
def new? (name selfUrl : String) (options : PoolOptions) : Option Node :=
  let pool := PeerPool.new selfUrl options
  (Routes.ofBasePath? pool.options.basePath).map fun routes =>
    ⟨name, pool, routes, [], [], .empty, 0⟩

/-- The position of the group with a name. -/
def position? (node : Node) (group : String) : Option Nat :=
  node.registered.lookup group

/-- The group with a name. -/
def group? (node : Node) (group : String) : Option (Group Transport) :=
  (node.position? group).bind fun position => node.groups[position]?

/-- Registers a new group, in place of one with the same name. -/
def register (node : Node) (group : String) : Node :=
  { node with
    groups := node.groups ++ [.new group]
    registered :=
      (group, node.groups.length) :: node.registered.filter fun entry => entry.1 ≠ group }

/-- Replaces the peers. -/
def set (node : Node) (peers : List String) : Node :=
  { node with pool := node.pool.set peers }

/-- What the groups of a node see around them. -/
def surroundings (node : Node) (now : Instant) : Surroundings Transport :=
  ⟨now, node.pool.pick?, node.pool.transports⟩

/-- Makes a move of the group at a position. -/
def step (node : Node) (now : Instant) (position : Nat) (move : Group.Move) :
    Node × List NodeEvent :=
  match node.groups[position]? with
  | none => (node, [])
  | some group =>
      let (after, events) := group.step (node.surroundings now) move
      ({ node with groups := node.groups.set position after },
        events.map fun event => (position, event))

/-! ## Requests -/

/-- The methods that are admitted where keys are read and removed. -/
def readAndRemove : String := "GET,HEAD,DELETE"

/-- The methods that are admitted where something is only read. -/
def readOnly : String := "GET,HEAD"

/-- The answer to a method that is not admitted, outside the peer protocol. -/
def notAdmitted (methods : String) : Http.Answer :=
  (Http.Answer.empty .methodNotAllowed).allowing methods

/-- An answer, or its head alone. -/
def trimmed (headOnly : Bool) (answer : Http.Answer) : Http.Answer :=
  if headOnly then answer.withoutBody else answer

/-- Whether a method reads: a request for the head reads too. -/
def reads (method : String) : Bool :=
  method = "GET" || method = "HEAD"

/-- Starts a caller of the group at a position for an errand. -/
def start (node : Node) (now : Instant) (position : Nat) (move : Group.Move) (errand : Errand)
    (headOnly : Bool) : Node × Handling × List NodeEvent :=
  match node.groups[position]? with
  | none => (node, .answered (.empty .internalServerError), [])
  | some group =>
      let (after, events) := node.step now position move
      (after, .running position group.callers.length errand headOnly, events)

/-- What is said when a peer path names no group and key. -/
def missingParts : String := "invalid request URL (missing path parts)"

/-- The group and key that a remainder names: the texts before and after its first
slash. -/
def splitRemainder? (remainder : String) : Option (String × String) :=
  let characters := remainder.toList
  match characters.dropWhile (· ≠ '/') with
  | _ :: key => some (String.ofList (characters.takeWhile (· ≠ '/')), String.ofList key)
  | [] => none

/-- The group and key that a peer path names, and the position of the group. -/
def resolve (node : Node) (remainder : Except RemainderFault String) :
    Except CacheError (Nat × String) :=
  match remainder with
  | .error fault => .error (.badRequest (missingParts ++ ": " ++ fault.message))
  | .ok text =>
      match splitRemainder? text with
      | none => .error (.badRequest missingParts)
      | some (group, key) =>
          match node.position? group with
          | none => .error (.groupNotFound group)
          | some position => .ok (position, key)

/-- What becomes of a peer path that is none: it is the base path, or foreign. -/
def unroutedError (node : Node) (path : String) : CacheError :=
  let basePath := node.pool.options.basePath
  if basePath.toList.isPrefixOf path.toList ∨ path = Text.trimEnd '/' basePath then
    .badRequest missingParts
  else .unexpectedPath path

/-- Handles a peer's request to read. -/
def receivePeerGet (node : Node) (now : Instant) (request : Http.Request)
    (remainder : Except RemainderFault String) : Node × Handling × List NodeEvent :=
  let context := node.pool.requestContext request.headers
  let headOnly := request.method = "HEAD"
  match node.resolve remainder with
  | .error error =>
      let answer := node.pool.failureAnswer context request.target.text error
      (node, .answered (trimmed headOnly answer), [])
  | .ok (position, key) =>
      ((node.step now position .serve).1).start now position (.get context key)
        (.peerGet context request.target.text) headOnly

/-- Handles a peer's request to remove. -/
def receivePeerRemove (node : Node) (now : Instant) (request : Http.Request)
    (remainder : Except RemainderFault String) : Node × Handling × List NodeEvent :=
  let context := node.pool.requestContext request.headers
  match node.resolve remainder with
  | .error error =>
      (node, .answered (node.pool.failureAnswer context request.target.text error), [])
  | .ok (position, key) =>
      let served := (node.step now position .serve).1
      ((served.step now position (.removeLocally key)).1, .answered (.empty .ok), [])

/-- Handles a request below the base path. -/
def receivePeer (node : Node) (now : Instant) (request : Http.Request)
    (remainder : Except RemainderFault String) : Node × Handling × List NodeEvent :=
  if reads request.method then node.receivePeerGet now request remainder
  else if request.method = "DELETE" then node.receivePeerRemove now request remainder
  else
    let context := node.pool.requestContext request.headers
    let answer :=
      node.pool.failureAnswer context request.target.text (.methodNotAllowed request.method)
    (node, .answered (answer.allowing readAndRemove), [])

/-- Handles a request of the public for a key of a group. -/
def receiveCache (node : Node) (now : Instant) (request : Http.Request)
    (names : Except String (String × String)) : Node × Handling × List NodeEvent :=
  let headOnly := request.method = "HEAD"
  if !(reads request.method || request.method = "DELETE") then
    (node, .answered (notAdmitted readAndRemove), [])
  else
    match names with
    | .error name =>
        (node, .answered (trimmed headOnly (PublicBody.notText (notTextMessage name))), [])
    | .ok (group, key) =>
        let context := CallContext.ofHeaders request.headers
        match node.position? group with
        | none =>
            if reads request.method then
              (node, .answered (trimmed headOnly (PublicBody.getMissing group)), [])
            else (node, .answered (PublicBody.removeMissing group), [])
        | some position =>
            if reads request.method then
              node.start now position (.get context key) .publicGet headOnly
            else node.start now position (.remove context key) .publicRemove false

/-- Handles a request of the public for the counters of a group. -/
def receiveStats (node : Node) (request : Http.Request) (name : Except String String) :
    Http.Answer :=
  let headOnly := request.method = "HEAD"
  if !reads request.method then notAdmitted readOnly
  else
    trimmed headOnly <|
      match name with
      | .error parameter => PublicBody.notText (notTextMessage parameter)
      | .ok group => PublicBody.ofStats group (node.group? group)

/-- Handles a request. -/
def receive (node : Node) (now : Instant) (request : Http.Request) :
    Node × Handling × List NodeEvent :=
  match node.routes.destination request.target.path with
  | .cache names => node.receiveCache now request names
  | .stats name => (node, .answered (node.receiveStats request name), [])
  | .peer remainder => node.receivePeer now request remainder
  | .unrouted =>
      let context := node.pool.requestContext request.headers
      (node, .answered (node.pool.failureAnswer context request.target.text
        (node.unroutedError request.target.path)), [])

/-! ## Answers -/

/-- The content type of an encoded response. -/
def responseType : String := "application/x-bincode"

/-- The answer to a peer that read a key. -/
def peerAnswer (node : Node) (context : CallContext) (target : String) :
    Result View → Http.Answer
  | .ok view => ⟨.ok, some responseType, none, view.toResponse.encode⟩
  | .error error => node.pool.failureAnswer context target error

/-- What goes back over a connection: an answer, or nothing when it closes. -/
inductive Outcome where
  | answered (answer : Http.Answer)
  | closed
deriving Repr, DecidableEq, Inhabited

/-- The answer to a request whose caller stands at a place, if it has ended. -/
def placeOutcome? (node : Node) (errand : Errand) (place : Place Transport) : Option Outcome :=
  match errand, place with
  | .publicGet, .got result => some (.answered (PublicBody.ofGet result))
  | .publicRemove, .removed result => some (.answered (PublicBody.ofRemove result))
  | .peerGet context target, .got result =>
      some (.answered (node.peerAnswer context target result))
  | _, .panicked _ => some .closed
  | _, .dropped => some .closed
  | _, _ => none

/-- Where a caller stands. -/
def place? (node : Node) (position caller : Nat) : Option (Place Transport) :=
  (node.groups[position]?.bind fun group => group.callers[caller]?).map GroupCaller.place

/-- What goes back for a request, once it is known. -/
def outcome? (node : Node) : Handling → Option Outcome
  | .answered answer => some (.answered answer)
  | .running position caller errand headOnly =>
      match (node.place? position caller).bind (node.placeOutcome? errand) with
      | none => none
      | some .closed => some .closed
      | some (.answered answer) => some (.answered (trimmed headOnly answer))

end Node

end PeerCache
