/-
Module: PeerCache.Net.Socket
Purpose: Where a node listens: an internet address with a port.
Main exports:
  SocketAddress, SocketAddress.ofString?, SocketAddress.text, SocketAddress.port
-/
import PeerCache.Net.Ip

/-!
A port follows its address after a colon.  An address of version 6 stands between
brackets, so that its own colons are not taken for that one; within the brackets a zone
may follow after a percent sign.  Ports and zones are decimal numbers of a bounded size,
leading zeros allowed; a zone of zero is not shown.
-/

namespace PeerCache.Net

/-- An address with a port. -/
inductive SocketAddress where
  | v4 (address : Ipv4) (port : Nat)
  | v6 (address : Ipv6) (zone port : Nat)
deriving Repr, DecidableEq

namespace SocketAddress

/-- The greatest port. -/
def lastPort : Nat := 65535

/-- The greatest zone. -/
def lastZone : Nat := 4294967295

/-- A decimal number of at least one digit, up to a limit. -/
def boundedNumber? (limit : Nat) (digits : List Char) : Option Nat :=
  if digits.isEmpty then none else (numberIn? 10 digits).filter fun value => value ≤ limit

/-- A port after its colon. -/
def portAfterColon? : List Char → Option Nat
  | ':' :: digits => boundedNumber? lastPort digits
  | _ => none

/-- A zone after its percent sign; no zone at all is zone zero. -/
def zoneAfterPercent? : List Char → Option Nat
  | [] => some 0
  | _ :: digits => boundedNumber? lastZone digits

/-- An address of version 4 with its port. -/
def v4OfChars? (text : List Char) : Option SocketAddress := do
  let address ← Ipv4.ofChars? (text.takeWhile (· ≠ ':'))
  let port ← portAfterColon? (text.dropWhile (· ≠ ':'))
  pure (.v4 address port)

/-- An address of version 6 with its port, after the opening bracket. -/
def v6OfChars? (text : List Char) : Option SocketAddress := do
  let inside := text.takeWhile (· ≠ ']')
  let address ← Ipv6.ofChars? (inside.takeWhile (· ≠ '%'))
  let zone ← zoneAfterPercent? (inside.dropWhile (· ≠ '%'))
  let port ← portAfterColon? ((text.dropWhile (· ≠ ']')).drop 1)
  pure (.v6 address zone port)

/-- The address and port that a text spells. -/
def ofString? (text : String) : Option SocketAddress :=
  match text.toList with
  | '[' :: rest => v6OfChars? rest
  | characters => v4OfChars? characters

/-- The port. -/
def port : SocketAddress → Nat
  | .v4 _ port => port
  | .v6 _ _ port => port

/-- The usual text of an address with its port. -/
def text : SocketAddress → String
  | .v4 address port => address.text ++ ":" ++ toString port
  | .v6 address zone port =>
      "[" ++ address.mappedText ++ (if zone = 0 then "" else "%" ++ toString zone) ++ "]:" ++
        toString port

/-- Leading zeros of a port are not kept. -/
example : (ofString? "192.0.2.1:00080").map text = some "192.0.2.1:80" := by decide +kernel

/-- A bracket that is not closed is a fault. -/
example : ofString? "[::1:80" = none := by decide +kernel

end SocketAddress

end PeerCache.Net
