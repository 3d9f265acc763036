/-
Module: PeerCache.Error
Purpose: Every way in which a cache operation can fail, and its wording.
Main exports:
  Chain, RemoteCause, RemoteFailure, CacheError, CacheError.message,
  CacheError.status, CacheError.sources
-/
import PeerCache.Bytes
import PeerCache.Http.Status
import PeerCache.Text.Quoted
import PeerCache.Url.ParseError

/-!
A failure says what went wrong, not how it reads; the wording is given once, by
`message`, and the status of the answer it leads to by `status`.

A failed call of a peer keeps the group and key it was made for, what made it fail, and
the head of the peer's answer if one arrived.  A body can only be kept along with a
status, so the two travel together: a peer that rejected the call has an answer, a
peer that could not be reached has none.
-/

namespace PeerCache

/-- A failure with the contexts it was wrapped in: the outermost one and those below
it, down to the root. -/
structure Chain where
  outermost : String
  below : List String
deriving Repr, DecidableEq, Inhabited

namespace Chain

/-- A failure without contexts. -/
def single (text : String) : Chain := ⟨text, []⟩

/-- All texts of the chain, outermost first. -/
def texts (chain : Chain) : List String :=
  chain.outermost :: chain.below

/-- The whole chain on one line. -/
def line (chain : Chain) : String :=
  ": ".intercalate chain.texts

end Chain

/-- What made a call of a peer fail. -/
inductive RemoteCause where
  /-- The time for the round trip ran out. -/
  | timeout (address : String)
  /-- The request could not be sent or nothing came back. -/
  | transport (address : String)
  /-- No request can be sent to the address. -/
  | unsendable (address : String)
  /-- A header of the request had no permitted value. -/
  | invalidHeader
  /-- The body of the answer broke off. -/
  | brokenBody
  /-- The body of the answer ended too soon for a response. -/
  | undecodable
  /-- The peer's address is no URL. -/
  | url (error : Url.ParseError)
  /-- Any other failure, described in words. -/
  | other (chain : Chain)
deriving Repr, DecidableEq

namespace RemoteCause

/-- The wording of a cause. -/
def message : RemoteCause → String
  | .timeout address => "error sending request for url (" ++ address ++ ")"
  | .transport address => "error sending request for url (" ++ address ++ ")"
  | .unsendable address => "builder error for url (" ++ address ++ ")"
  | .invalidHeader => "builder error"
  | .brokenBody => "error decoding response body"
  | .undecodable => "io error: unexpected end of file"
  | .url error => error.message
  | .other chain => chain.outermost

/-- The wording of a cause followed by those of the causes below it. -/
def sources : RemoteCause → List String
  | .other chain => chain.texts
  | cause => [cause.message]

end RemoteCause

/-- What arrived of a peer's answer: its status, and its body if one is kept. -/
structure RemoteAnswer where
  status : Http.Status
  body : Option Bytes
deriving Repr, DecidableEq

/-- A failed call of a peer. -/
structure RemoteFailure where
  group : String
  key : String
  answer : Option RemoteAnswer
  cause : RemoteCause
deriving Repr, DecidableEq

/-- Every way in which an operation of the cache can fail. -/
inductive CacheError where
  /-- A peer's request did not follow the peer protocol. -/
  | badRequest (reason : String)
  /-- The serving node has no group of that name. -/
  | groupNotFound (name : String)
  /-- A call of a peer failed. -/
  | remote (failure : RemoteFailure)
  /-- The caller waited for another one that ended without a result. -/
  | leaderFailed
  /-- A registry that has a pool was given another. -/
  | poolAlreadyRegistered
  /-- A peer path was asked for with a method that has no meaning there. -/
  | methodNotAllowed (method : String)
  /-- The request's path is not below the peer protocol's base path. -/
  | unexpectedPath (path : String)
  /-- The group's own loader failed. -/
  | load (cause : Chain)
  /-- A response could not be written. -/
  | codec (reason : String)
deriving Repr, DecidableEq

namespace CacheError

/-- The wording of a failure. -/
def message : CacheError → String
  | .badRequest reason => reason
  | .groupNotFound name => "group not found: " ++ Text.quote name
  | .remote failure => "remote load error: " ++ failure.cause.message
  | .leaderFailed => "singleflight leader failed without producing a result"
  | .poolAlreadyRegistered =>
      "peer pool already registered: only one pool may serve a registry"
  | .methodNotAllowed method => "method not allowed: " ++ method
  | .unexpectedPath path => "peer pool serving unexpected path: " ++ path
  | .load cause => "load failed: " ++ cause.line
  | .codec reason => "encoding response failed: " ++ reason

/-- The kind of a failure in one word. -/
def kind : CacheError → String
  | .badRequest _ => "BadRequest"
  | .groupNotFound _ => "GroupNotFound"
  | .remote _ => "RemoteLoad"
  | .leaderFailed => "LeaderFailed"
  | .poolAlreadyRegistered => "PeerPoolAlreadyRegistered"
  | .methodNotAllowed _ => "MethodNotAllowed"
  | .unexpectedPath _ => "UnexpectedPath"
  | .load _ => "Load"
  | .codec _ => "Codec"

/-- Whether the failure is that of a peer. -/
def isRemote : CacheError → Bool
  | .remote _ => true
  | _ => false

/-- The status with which a peer's request is answered that failed so. -/
def status : CacheError → Http.Status
  | .badRequest _ => .badRequest
  | .groupNotFound _ => .notFound
  | .unexpectedPath _ => .notFound
  | .methodNotAllowed _ => .methodNotAllowed
  | .remote _ => .internalServerError
  | .leaderFailed => .internalServerError
  | .poolAlreadyRegistered => .internalServerError
  | .load _ => .internalServerError
  | .codec _ => .internalServerError

/-- The wordings of the causes below a failure, nearest first. -/
def sources : CacheError → List String
  | .remote failure => failure.cause.sources
  | _ => []

/-- A failed call of a peer for a group and key, before any answer. -/
def unanswered (group key : String) (cause : RemoteCause) : CacheError :=
  .remote ⟨group, key, none, cause⟩

/-- A failed call of a peer for a group and key, after the head of its answer. -/
def answered (group key : String) (status : Http.Status) (body : Option Bytes)
    (cause : RemoteCause) : CacheError :=
  .remote ⟨group, key, some ⟨status, body⟩, cause⟩

end CacheError

end PeerCache
