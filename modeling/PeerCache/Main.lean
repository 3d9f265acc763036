/-
Module: PeerCache.Main
Purpose: The program on its machine: console, clock, sockets and timers.
Main exports:
  main
-/
import PeerCache.Http.Wire
import PeerCache.Program.Service
import Std.Async
import Std.Sync.Mutex
import Std.Time

/-!
Here are the effects that the rest only describes.  The state of the program is behind
a lock, and every event passes through it once (`advance`); what the event asks for is
begun after that.  A connection carries one request.  Requests that bring no id are
given one as they arrive.
-/

namespace PeerCache.Program

open Std.Async Std.Net

/-- What the parts of the program share. -/
structure Shared where
  service : Service
  nextConnection : Nat
  /-- The connections that wait for their answers. -/
  promises : List (Nat × IO.Promise Node.Outcome)

/-- The shared state behind its lock. -/
abbrev Desk := Std.Mutex Shared

/-- The time of the clock. -/
def clock : IO Instant := do
  let stamp ← Std.Time.Timestamp.now
  pure ⟨stamp.toNanosecondsSinceUnixEpoch.val⟩

/-- The machine's form of an address. -/
def socketAddress? : Net.SocketAddress → Option SocketAddress
  | .v4 ⟨[a, b, c, d]⟩ port =>
      some (.v4 ⟨.ofParts (.ofNat a) (.ofNat b) (.ofNat c) (.ofNat d), .ofNat port⟩)
  | .v6 ⟨[a, b, c, d, e, f, g, h]⟩ _ port =>
      some (.v6 ⟨.ofParts (.ofNat a) (.ofNat b) (.ofNat c) (.ofNat d) (.ofNat e) (.ofNat f)
        (.ofNat g) (.ofNat h), .ofNat port⟩)
  | _ => none

/-! ## Peers -/

/-- Reads from a socket until the other side closes it. -/
partial def readAll (socket : TCP.Socket.Client) (received : ByteArray) : Async ByteArray := do
  match ← socket.recv? 65536 with
  | none => pure received
  | some more => readAll socket (received ++ more)

/-- The name and port of the host that a request goes to. -/
def destination (url : Url) : String × Nat :=
  let name := match url.host with
    | some (.ipv6 address) => address.text
    | some host => host.text
    | none => ""
  (name, url.port.getD 80)

/-- Sends a request and waits for what becomes of it. -/
def exchange (outgoing : Outgoing) : Async Delivery := do
  try
    let (name, port) := destination outgoing.url
    let addresses ← DNS.getAddrInfo name (toString port)
    match addresses[0]? with
    | none => pure .unreachable
    | some address =>
        let target : SocketAddress := match address with
          | .v4 found => .v4 ⟨found, .ofNat port⟩
          | .v6 found => .v6 ⟨found, .ofNat port⟩
        let socket ← TCP.Socket.Client.mk
        socket.connect target
        socket.send ⟨(Http.Wire.outgoingBytes outgoing).toArray⟩
        let received ← readAll socket .empty
        pure (Http.Wire.readDelivery received.toList)
  catch _ => pure .unreachable

/-! ## Events -/

/-- Passes an event through the state. -/
def advance (desk : Desk) (event : Service.Event) : IO (List Service.Effect) := do
  let now ← clock
  desk.atomically do
    let shared ← get
    let (service, effects) := shared.service.step now event
    set { shared with service }
    pure effects

/-- Takes the promise of a connection. -/
def takePromise (desk : Desk) (connection : Nat) : IO (Option (IO.Promise Node.Outcome)) :=
  desk.atomically do
    let shared ← get
    set { shared with promises := shared.promises.filter fun entry => entry.1 ≠ connection }
    pure (shared.promises.lookup connection)

/-- Passes an event through the state and does what it asks for. -/
partial def follow (desk : Desk) (event : Service.Event) : Async Unit := do
  for effect in ← advance desk event do
    match effect with
    | .load call => background do
        sleep (.ofNat (Service.loadMillis call))
        follow desk (.loaded call)
    | .send call outgoing => background do
        let delivery ← exchange outgoing
        follow desk (.delivered call delivery)
    | .answer connection outcome =>
        match ← takePromise desk connection with
        | some promise => promise.resolve outcome
        | none => pure ()

/-! ## Connections -/

/-- A random request id. -/
def freshId : IO String := do
  let digits ← (List.range 32).mapM fun index => do
    let digit ← IO.rand 0 15
    pure (if index = 12 then 4 else if index = 16 then 8 + digit % 4 else digit)
  let characters := digits.map Nat.digitChar
  let part := fun (start size : Nat) => String.ofList ((characters.drop start).take size)
  pure ("-".intercalate [part 0 8, part 8 4, part 12 4, part 16 4, part 20 12])

/-- The same request with an id. -/
def withId (request : Http.Request) : IO Http.Request := do
  match CallContext.givenId? request.headers with
  | some _ => pure request
  | none =>
      let id ← freshId
      pure { request with
        headers := (CallContext.requestIdHeader, Bytes.ofString id) :: request.headers }

/-- The longest head of a request, in bytes. -/
def longestHead : Nat := 65536

/-- Reads from a socket until a head has ended. -/
partial def readHead (socket : TCP.Socket.Client) (received : ByteArray) :
    Async (Option Bytes) := do
  match Http.Wire.splitHead? received.toList with
  | some (head, _) => pure (some head)
  | none =>
      if longestHead < received.size then pure none
      else
        match ← socket.recv? 8192 with
        | none => pure none
        | some more => readHead socket (received ++ more)

/-- Opens a connection in the shared state. -/
def openConnection (desk : Desk) : IO (Nat × IO.Promise Node.Outcome) := do
  let promise ← IO.Promise.new
  desk.atomically do
    let shared ← get
    let connection := shared.nextConnection
    set { shared with
      nextConnection := connection + 1
      promises := (connection, promise) :: shared.promises }
    pure (connection, promise)

/-- Serves one connection. -/
def serveConnection (desk : Desk) (socket : TCP.Socket.Client) : Async Unit := do
  match (← readHead socket .empty).bind Http.Wire.readRequest? with
  | none => socket.send ⟨(Http.Wire.answerBytes "GET" (.empty .badRequest)).toArray⟩
  | some request =>
      let identified ← withId request
      let (connection, promise) ← openConnection desk
      follow desk (.request connection identified)
      match ← await promise with
      | .closed => pure ()
      | .answered answer =>
          socket.send ⟨(Http.Wire.answerBytes request.method answer).toArray⟩
  socket.shutdown

/-- Accepts connections for good. -/
partial def acceptAll (desk : Desk) (server : TCP.Socket.Server) : Async Unit := do
  let socket ← server.accept
  background do
    try serveConnection desk socket
    catch _ => pure ()
  acceptAll desk server

/-- Listens at an address. -/
def listen (address : Net.SocketAddress) : IO TCP.Socket.Server := do
  let server ← TCP.Socket.Server.mk
  match socketAddress? address with
  | some target =>
      server.bind target
      server.listen 1024
  | none => throw (IO.userError "no such address")
  pure server

/-- Serves until the program is stopped; the code is for the case that it cannot. -/
def serve (settings : Settings) : IO UInt32 := do
  match Service.start? settings with
  | none => pure 101
  | some service =>
      try
        let server ← listen settings.bind
        let desk ← Std.Mutex.new (Shared.mk service 0 [])
        (acceptAll desk server).block
        pure 0
      catch fault =>
        IO.eprintln ("Error: " ++ toString fault)
        pure 1

/-- Runs the program with its arguments. -/
def run (program : String) (arguments : List String) : IO UInt32 := do
  let launch := Launch.of .permissive arguments
  for notice in launch.notices do
    IO.println notice.line
  (← IO.getStdout).flush
  for line in launch.ending.complaint program do
    IO.eprintln line
  match launch.ending with
  | .serving settings => serve settings
  | ending => pure (UInt32.ofNat (ending.exitCode?.getD 0))

end PeerCache.Program

/-- The program. -/
def main (arguments : List String) : IO UInt32 :=
  PeerCache.Program.run "cache-node" arguments
