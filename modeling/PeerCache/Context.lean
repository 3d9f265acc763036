/-
Module: PeerCache.Context
Purpose: What travels with a call from node to node: its request id and its time limit.
Main exports:
  RequestId, CallContext, Headers, Headers.first?, CallContext.ofHeaders
-/
import PeerCache.Bytes

/-!
One logical request keeps its id on every node that it reaches, so that it can be
followed.  A node that receives a request takes the id from a header of it; where there
is none, or one that is not plain text, it makes a fresh id up.  Fresh ids are random,
so all that is said of one here is that it is fresh.
-/

namespace PeerCache

/-- The id of a logical request. -/
inductive RequestId where
  /-- An id made up by this node. -/
  | fresh
  /-- An id given by the caller. -/
  | given (text : String)
deriving Repr, DecidableEq, Inhabited

/-- What is written for an id that was made up; the ids themselves are random. -/
def RequestId.placeholder : String := "<generated>"

/-- The text of an id. -/
def RequestId.text : RequestId → String
  | .fresh => placeholder
  | .given text => text

/-- The headers of a request, in order: lower-case names and raw values. -/
abbrev Headers := List (String × Bytes)

namespace Headers

/-- A header name in the spelling used for comparison. -/
def canonicalName (name : String) : String :=
  String.ofList (name.toList.map Char.toLower)

/-- Whether a byte of a header value is plain text: visible, a space or a tab. -/
def isPlain (byte : UInt8) : Bool :=
  byte = 9 || (32 ≤ byte && byte < 127)

/-- The first value of a header. -/
def first? (headers : Headers) (name : String) : Option Bytes :=
  (headers.find? fun header => canonicalName header.1 = canonicalName name).map Prod.snd

/-- A header value as text, if it is plain. -/
def plainText? (value : Bytes) : Option String :=
  if value.all isPlain then Bytes.toString? value else none

end Headers

/-- What travels with a call. -/
structure CallContext where
  requestId : RequestId
  /-- The time limit of one round trip to a peer, in milliseconds. -/
  timeoutMillis : Option Nat
deriving Repr, DecidableEq, Inhabited

namespace CallContext

/-- The header that carries the request id. -/
def requestIdHeader : String := "x-request-id"

/-- The header that carries the sender's ring fingerprint. -/
def ringFingerprintHeader : String := "x-ring-fingerprint"

/-- A call of its own: a fresh id and no time limit. -/
def new : CallContext := ⟨.fresh, none⟩

/-- The same call with a time limit. -/
def withTimeout (context : CallContext) (millis : Nat) : CallContext :=
  { context with timeoutMillis := some millis }

/-- The request id that the headers give, if the first one is plain text. -/
def givenId? (headers : Headers) : Option String :=
  (headers.first? requestIdHeader).bind Headers.plainText?

/-- The context of a request with these headers. -/
def ofHeaders (headers : Headers) : CallContext :=
  match givenId? headers with
  | some text => ⟨.given text, none⟩
  | none => .new

end CallContext

end PeerCache
