/-
Module: PeerCache.Peer.Transport
Purpose: The way to one peer: the requests sent to it and what is made of its answers.
Main exports:
  Transport, Outgoing, Delivery, Transport.prepare, Transport.receiveResponse,
  Transport.receiveRemoval
-/
import PeerCache.Context
import PeerCache.Error
import PeerCache.Peer.Buffers
import PeerCache.Response
import PeerCache.Url

/-!
A call of a peer has two halves.  `prepare` makes the request: the group and key become
the last two segments of the peer's address, and the request id and ring fingerprint go
into headers.  A request that cannot be made never leaves the node.

The other half turns what became of the request (`Delivery`) into a result.  The faults
are looked for in a fixed order: no answer, a status other than success, a body that
broke off, a body that is no response.  A status, once there, is kept in the failure;
the body is kept as far as it arrived, except that of a success that broke off.  The
body is gathered in a buffer of a shared pool; the result depends on the bytes of this
answer alone.
-/

namespace PeerCache

/-- The way to one peer. -/
structure Transport where
  /-- The peer's address, below which groups and keys are segments. -/
  baseUrl : String
  /-- The ring fingerprint that is sent along. -/
  fingerprint : String
  /-- Whether each request is sent by a client made for it. -/
  ownClient : Bool
deriving Repr, DecidableEq, Inhabited

/-- What is asked of a peer. -/
inductive PeerMethod where
  | get
  | delete
deriving Repr, DecidableEq

/-- The method of a request. -/
def PeerMethod.text : PeerMethod → String
  | .get => "GET"
  | .delete => "DELETE"

/-- A request that leaves a node. -/
structure Outgoing where
  method : PeerMethod
  url : Url
  requestId : RequestId
  fingerprint : String
  timeoutMillis : Option Nat
deriving Repr, DecidableEq

/-- What became of a request. -/
inductive Delivery where
  /-- It could not be sent, or the connection closed before the head of an answer. -/
  | unreachable
  /-- The time ran out before the head of an answer. -/
  | timedOut
  /-- An answer came, with these bytes of its body, which may have broken off. -/
  | answered (status : Http.Status) (received : Bytes) (isWhole : Bool)
deriving Repr, DecidableEq

namespace Transport

/-- The address of a key of a group at the peer. -/
def requestUrl (transport : Transport) (group key : String) : Except CacheError Url :=
  match Url.parse transport.baseUrl with
  | .error error => .error (.unanswered group key (.url error))
  | .ok base =>
      match base.pushSegments? [group, key] with
      | none =>
          .error (.unanswered group key
            (.other (.single ("peer URL cannot be a base: " ++ transport.baseUrl))))
      | some url => .ok url

/-- Whether a client is made for a call: one is, as soon as there is an address. -/
def makesClient (transport : Transport) (group key : String) : Bool :=
  transport.ownClient &&
    match transport.requestUrl group key with
    | .ok _ => true
    | .error _ => false

/-- Whether a text can be the value of a header: control characters other than the tab
cannot. -/
def isHeaderText (text : String) : Bool :=
  text.toList.all fun character =>
    character = '\t' || (0x20 ≤ character.toNat && character.toNat ≠ 0x7F)

/-- Whether a request id can be sent; a fresh one always can. -/
def isSendableId : RequestId → Bool
  | .fresh => true
  | .given text => isHeaderText text

/-- The longest address that a request can be sent to, in bytes. -/
def maxAddressSize : Nat := 65534

/-- Characters that a host may hold, but not the host of a request. -/
def isUnsendable (character : Char) : Bool :=
  character = '"' || character = '\x60' || character = '\x7b' || character = '\x7d'

/-- Whether requests can be sent to an address. -/
def isReachableAddress (url : Url) : Bool :=
  (url.scheme = "http" || url.scheme = "https") && !url.authority.toList.any isUnsendable &&
    url.text.utf8ByteSize ≤ maxAddressSize

/-- The request that a call of the peer sends, or why there is none.  That an address
names no host shows before the headers are looked at; all else about it, after that. -/
def prepare (transport : Transport) (context : CallContext) (method : PeerMethod)
    (group key : String) : Except CacheError Outgoing := do
  let given ← transport.requestUrl group key
  if !given.hasHost then
    throw (.unanswered group key (.unsendable given.text))
  let url := given.withoutUserinfo
  if !(isSendableId context.requestId && isHeaderText transport.fingerprint) then
    throw (.unanswered group key .invalidHeader)
  if !isReachableAddress url then
    throw (.unanswered group key (.unsendable url.text))
  pure ⟨method, url, context.requestId, transport.fingerprint, context.timeoutMillis⟩

/-- Gathers the bytes of a body in a buffer of the pool. -/
def gather (buffers : BufferPool) (received : Bytes) : Bytes × BufferPool :=
  let (buffer, rest) := buffers.checkout
  let filled := buffer.write received
  (filled.bytes, rest.giveBack filled)

/-- What a get of the peer returns for what became of its request. -/
def receiveResponse (group key : String) (address : String) (delivery : Delivery)
    (buffers : BufferPool) : Except CacheError Response × BufferPool :=
  match delivery with
  | .unreachable => (.error (.unanswered group key (.transport address)), buffers)
  | .timedOut => (.error (.unanswered group key (.timeout address)), buffers)
  | .answered status received isWhole =>
      let (body, rest) := gather buffers received
      let result :=
        if !status.isSuccess then
          .error (.answered group key status (some body)
            (.other (.single ("non-OK response code: " ++ status.text))))
        else if !isWhole then .error (.answered group key status none .brokenBody)
        else
          match Response.decode? body with
          | none => .error (.answered group key status (some body) .undecodable)
          | some response => .ok response
      (result, rest)

/-- What a removal at the peer returns for what became of its request.  The body of a
success is not looked at. -/
def receiveRemoval (group key : String) (address : String) (delivery : Delivery)
    (buffers : BufferPool) : Except CacheError Unit × BufferPool :=
  match delivery with
  | .unreachable => (.error (.unanswered group key (.transport address)), buffers)
  | .timedOut => (.error (.unanswered group key (.timeout address)), buffers)
  | .answered status received isWhole =>
      if status.isSuccess then (.ok (), buffers)
      else
        let (body, rest) := gather buffers received
        (.error (.answered group key status (if isWhole then some body else none)
          (.other (.single ("server returned status " ++ status.text)))), rest)

end Transport

end PeerCache
