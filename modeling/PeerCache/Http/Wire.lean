/-
Module: PeerCache.Http.Wire
Purpose: Requests and answers as the bytes that go over a connection.
Main exports:
  Wire.splitHead?, Wire.readRequest?, Wire.answerBytes, Wire.outgoingBytes, Wire.readDelivery
-/
import PeerCache.Http.Message
import PeerCache.Net.Ip
import PeerCache.Peer.Transport

/-!
A message is a head and a body.  The head is lines, each ended by a carriage return and
a line feed, and a blank line ends the head.  The first line says what is asked or
answered; the others are headers, a name and a value parted by a colon.

Every connection carries one request and one answer, after which it closes.  So the
body of an answer is all that follows its head; it has broken off if the head announces
more.
-/

namespace PeerCache.Http.Wire

/-- The bytes that end a line. -/
def lineEnd : Bytes := [13, 10]

/-- Parts a message after its first blank line into its head and its body; none if the
head has not ended. -/
def splitHead? : Bytes → Option (Bytes × Bytes)
  | [] => none
  | 13 :: 10 :: 13 :: 10 :: body => some ([], body)
  | byte :: rest => (splitHead? rest).map fun parts => (byte :: parts.1, parts.2)

/-- The lines of a head. -/
def lines : Bytes → List Bytes
  | [] => [[]]
  | 13 :: 10 :: rest => [] :: lines rest
  | byte :: rest =>
      match lines rest with
      | [] => [[byte]]
      | line :: others => (byte :: line) :: others

/-- Whether a byte is a space or a tab. -/
def isBlank (byte : UInt8) : Bool :=
  byte = 9 || byte = 32

/-- Bytes without blanks at either end. -/
def trim (bytes : Bytes) : Bytes :=
  ((bytes.dropWhile isBlank).reverse.dropWhile isBlank).reverse

/-- A header on its line. -/
def readHeader? (line : Bytes) : Option (String × Bytes) := do
  let name ← Bytes.toString? (line.takeWhile (· ≠ 58))
  let value := (line.dropWhile (· ≠ 58)).drop 1
  pure (name, trim value)

/-- The words of the first line of a head, and the headers. -/
def readHead? (head : Bytes) : Option (List String × Headers) := do
  match lines head with
  | [] => none
  | first :: others =>
      let words := Text.splitOn ' ' (← Bytes.toString? first).toList
      pure (words.map String.ofList, ← others.mapM readHeader?)

/-- The request that a head stands for. -/
def readRequest? (head : Bytes) : Option Request := do
  match ← readHead? head with
  | ([method, target, _], headers) => pure ⟨method, .ofText target, headers⟩
  | _ => none

/-- A decimal number. -/
def readNumber? (text : String) : Option Nat :=
  if text.isEmpty then none else Net.numberIn? 10 text.toList

/-- The length of the body that headers announce. -/
def announced? (headers : Headers) : Option Nat :=
  ((headers.first? "content-length").bind Headers.plainText?).bind readNumber?

/-- What a connection delivered, once it has closed. -/
def readDelivery (received : Bytes) : Delivery :=
  let delivery? : Option Delivery := do
    let (head, body) ← splitHead? received
    match ← readHead? head with
    | (_ :: code :: _, headers) =>
        let status ← readNumber? code
        match announced? headers with
        | none => pure (.answered ⟨status⟩ body true)
        | some size => pure (.answered ⟨status⟩ (body.take size) (size ≤ body.length))
    | _ => none
  delivery?.getD .unreachable

/-- A head: its first line and its headers. -/
def headBytes (first : String) (headers : List (String × String)) : Bytes :=
  let fields := headers.map fun header => header.1 ++ ": " ++ header.2
  (first :: fields).flatMap (fun line => Bytes.ofString line ++ lineEnd) ++ lineEnd

/-- An answer to a request with a method; the body stays behind if only the head is
asked for. -/
def answerBytes (method : String) (answer : Answer) : Bytes :=
  let optional := fun (name : String) (value : Option String) =>
    (value.map fun text => (name, text)).toList
  headBytes ("HTTP/1.1 " ++ answer.status.text)
      (optional "content-type" answer.contentType ++ optional "allow" answer.allow ++
        [("content-length", toString answer.body.length), ("connection", "close")]) ++
    if method = "HEAD" then [] else answer.body

/-- A request to a peer. -/
def outgoingBytes (outgoing : Outgoing) : Bytes :=
  headBytes (outgoing.method.text ++ " " ++ outgoing.url.target ++ " HTTP/1.1")
    [("host", outgoing.url.authority),
      (CallContext.requestIdHeader, outgoing.requestId.text),
      (CallContext.ringFingerprintHeader, outgoing.fingerprint), ("connection", "close")]

/-- A head ends at its first blank line. -/
example : splitHead? (Bytes.ofString "a\x0d\n\x0d\nb") =
    some (Bytes.ofString "a", Bytes.ofString "b") := by decide +kernel

/-- An announced body may have broken off. -/
example : readDelivery (Bytes.ofString "HTTP/1.1 200 OK\x0d\nContent-Length: 3\x0d\n\x0d\nab") =
    .answered ⟨200⟩ (Bytes.ofString "ab") false := by decide +kernel

end PeerCache.Http.Wire
