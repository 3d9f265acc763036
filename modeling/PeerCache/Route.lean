/-
Module: PeerCache.Route
Purpose: What each path of a node stands for.
Main exports:
  Routes, Routes.ofBasePath?, Routes.ofPeers?, Destination, Routes.destination
-/
import PeerCache.Route.Pattern
import PeerCache.Url.Percent

/-!
A node serves three kinds of paths: its public ones, `/cache/<group>/<key>` and
`/stats/<group>`, and all those below the base path of the peer protocol.  A base path
may itself contain parameters, or clash with the public paths; a node whose paths clash, or
whose base path has too many parameters, cannot be built.

Paths are matched undecoded.  After that each parameter is decoded by itself, and a
parameter that is no text is a fault.  Below the base path there must be exactly one
parameter, the remainder.
-/

namespace PeerCache

/-- What a node serves. -/
inductive Endpoint where
  | cache
  | stats
  | peer
deriving Repr, DecidableEq

/-- Why the remainder of a peer path cannot be used. -/
inductive RemainderFault where
  /-- A parameter is no text. -/
  | notText (parameter : String)
  /-- The base path holds parameters of its own. -/
  | count (parameters : Nat)
deriving Repr, DecidableEq

/-- The wording of a fault in a parameter that is no text. -/
def notTextMessage (parameter : String) : String :=
  "Invalid UTF-8 in \x60" ++ parameter ++ "\x60"

/-- The wording of a fault. -/
def RemainderFault.message : RemainderFault → String
  | .notText parameter => notTextMessage parameter
  | .count parameters =>
      "Wrong number of path arguments for \x60Path\x60. Expected 1 but got " ++
        toString parameters ++
        ". Note that multiple parameters must be extracted with a tuple \x60Path<(_, _)>\x60 " ++
        "or a struct \x60Path<YourParams>\x60"

/-- What a path stands for. -/
inductive Destination where
  /-- A key of a group, for the public; or the parameter that is no text. -/
  | cache (names : Except String (String × String))
  /-- The counters of a group, for the public; or the parameter that is no text. -/
  | stats (name : Except String String)
  /-- What stands below the base path, decoded. -/
  | peer (remainder : Except RemainderFault String)
  /-- Any other path. -/
  | unrouted

/-- The paths of a node, each before those that it outranks. -/
structure Routes where
  table : List (Endpoint × Route.Pattern)
deriving Repr, DecidableEq

namespace Routes

/-- The pattern of the paths under which keys are read and removed. -/
def cachePattern : Route.Pattern :=
  [.literal "cache", .parameter "" "group", .parameter "" "key"]

/-- The pattern of the paths under which counters are shown. -/
def statsPattern : Route.Pattern :=
  [.literal "stats", .parameter "" "group"]

/-- The largest number of parameters in a base path. -/
def maxParameters : Nat := 25

/-- The pattern of the paths below a base path. -/
def peerPattern? (basePath : String) : Option Route.Pattern := do
  let base ← Route.Pattern.ofPath? (Text.trimEnd '/' basePath)
  if maxParameters < base.parameters then none
  pure (base ++ [.remainder "path"])

/-- Adds an endpoint before the first that its pattern outranks. -/
def insert (endpoint : Endpoint) (pattern : Route.Pattern) :
    List (Endpoint × Route.Pattern) → List (Endpoint × Route.Pattern)
  | [] => [(endpoint, pattern)]
  | entry :: rest =>
      if pattern.outranks entry.2 then (endpoint, pattern) :: entry :: rest
      else entry :: insert endpoint pattern rest

/-- The paths of a node with a base path; none if they clash. -/
def ofBasePath? (basePath : String) : Option Routes := do
  let peer ← peerPattern? basePath
  if cachePattern.clashes peer || statsPattern.clashes peer then none
  pure ⟨insert .peer peer [(.cache, cachePattern), (.stats, statsPattern)]⟩

/-- The paths of the peer protocol alone; none if a base path cannot be its own. -/
def ofPeers? (basePath : String) : Option Routes :=
  (peerPattern? basePath).map fun peer => ⟨[(.peer, peer)]⟩

/-- An endpoint whose pattern matches, with the parameters, undecoded. -/
structure Candidate where
  endpoint : Endpoint
  captures : List (String × String)

/-- The first endpoint whose pattern matches a path, unless one before it stumbles. -/
def findIn (segments : List String) : List (Endpoint × Route.Pattern) → Option Candidate
  | [] => none
  | (endpoint, pattern) :: rest =>
      match pattern.captures? segments with
      | some captures => some ⟨endpoint, captures⟩
      | none => if pattern.stumbles segments then none else findIn segments rest

/-- The endpoint that a path belongs to. -/
def find? (routes : Routes) (path : String) : Option Candidate :=
  (Route.segments? path).bind fun segments => findIn segments routes.table

/-- The parameters decoded, or the name of the first that is no text. -/
def decoded : List (String × String) → Except String (List String)
  | [] => .ok []
  | (name, value) :: rest =>
      match Percent.decodeText? value with
      | none => .error name
      | some text => (decoded rest).map (text :: ·)

/-- The one parameter of a peer path. -/
def remainder (captures : List (String × String)) : Except RemainderFault String :=
  match decoded captures with
  | .error name => .error (.notText name)
  | .ok [text] => .ok text
  | .ok texts => .error (.count texts.length)

/-- What a path stands for. -/
def destination (routes : Routes) (path : String) : Destination :=
  match routes.find? path with
  | none => .unrouted
  | some candidate =>
      match candidate.endpoint, decoded candidate.captures with
      | .peer, _ => .peer (remainder candidate.captures)
      | .cache, .ok [group, key] => .cache (.ok (group, key))
      | .cache, .error name => .cache (.error name)
      | .stats, .ok [group] => .stats (.ok group)
      | .stats, .error name => .stats (.error name)
      | _, _ => .unrouted

end Routes

end PeerCache
