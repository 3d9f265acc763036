/-
Module: PeerCache.Peer.Network
Purpose: Calls of a peer over a network that answers at once.
Main exports:
  Network, Network.isolated, PeerSession, PeerSession.get, PeerSession.remove
-/
import PeerCache.Peer.Transport

/-!
A network says of each request whether it got out of the node and what became of it.  A
call of a peer over such a network is one step: the request is made, sent if it could
be made, and its delivery turned into the result.
-/

namespace PeerCache

/-- What a network makes of the requests sent over it. -/
structure Network where
  /-- Whether a request gets out of the node. -/
  carries : Outgoing → Bool
  /-- What becomes of a request. -/
  deliver : Outgoing → Delivery

/-- The network that no request gets into. -/
def Network.isolated : Network :=
  ⟨fun _ => false, fun _ => .unreachable⟩

/-- A transport with the buffers that its calls share and a record of what they did. -/
structure PeerSession where
  transport : Transport
  network : Network
  buffers : BufferPool
  /-- The clients that were made for calls. -/
  clientsMade : Nat
  /-- The requests that got out, in order. -/
  wire : List Outgoing

namespace PeerSession

/-- A session before its first call. -/
def new (transport : Transport) (network : Network) : PeerSession :=
  ⟨transport, network, .empty, 0, []⟩

/-- Makes a request and sends it; the result is that of `receive`. -/
def call {α : Type} (session : PeerSession) (context : CallContext) (method : PeerMethod)
    (group key : String)
    (receive : String → Delivery → BufferPool → Except CacheError α × BufferPool) :
    Except CacheError α × PeerSession :=
  let clients := if session.transport.makesClient group key then 1 else 0
  let counted := { session with clientsMade := session.clientsMade + clients }
  match session.transport.prepare context method group key with
  | .error error => (.error error, counted)
  | .ok outgoing =>
      let (result, buffers) :=
        receive outgoing.url.text (session.network.deliver outgoing) session.buffers
      (result,
        { counted with
          buffers
          wire := session.wire ++ (if session.network.carries outgoing then [outgoing] else []) })

/-- Gets a key of a group from the peer. -/
def get (session : PeerSession) (context : CallContext) (group key : String) :
    Except CacheError Response × PeerSession :=
  session.call context .get group key (Transport.receiveResponse group key)

/-- Removes a key of a group at the peer. -/
def remove (session : PeerSession) (context : CallContext) (group key : String) :
    Except CacheError Unit × PeerSession :=
  session.call context .delete group key (Transport.receiveRemoval group key)

end PeerSession

end PeerCache
