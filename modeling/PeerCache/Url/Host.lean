/-
Module: PeerCache.Url.Host
Purpose: The host of a URL: a domain name or an Internet address.
Main exports:
  Host, Host.text, Host.ofSpecial, Host.ofOther
-/
import PeerCache.Net.Ip
import PeerCache.Url.Domain
import PeerCache.Url.ParseError
import PeerCache.Url.Percent

/-!
Brackets hold an address of version 6.  In a special scheme any other host is a domain
name, brought into ASCII; if its last label is a number the whole must be an address of
version 4, whose numbers may be decimal, octal or hexadecimal and of which the last may
stand for several octets.  In any other scheme a host is kept as it is written.
-/

namespace PeerCache.Url

/-- The host of a URL. -/
inductive Host where
  | domain (name : String)
  | ipv4 (address : Net.Ipv4)
  | ipv6 (address : Net.Ipv6)
deriving Repr, DecidableEq

namespace Host

/-- The host as it stands in a URL. -/
def text : Host → String
  | .domain name => name
  | .ipv4 address => address.text
  | .ipv6 address => "[" ++ address.text ++ "]"

/-- Whether the host is the empty name. -/
def isEmpty : Host → Bool
  | .domain name => name.isEmpty
  | _ => false

/-- The number that a label of an address spells, decimal, octal or hexadecimal. -/
def addressNumber? : List Char → Option Nat
  | [] => none
  | '0' :: 'x' :: digits => Net.numberIn? 16 digits
  | '0' :: 'X' :: digits => Net.numberIn? 16 digits
  | '0' :: second :: digits => Net.numberIn? 8 (second :: digits)
  | digits => Net.numberIn? 10 digits

/-- The labels of a name, without an empty last one. -/
def labels (name : List Char) : List (List Char) :=
  let all := Text.splitOn '.' name
  if all.getLast? = some [] then all.dropLast else all

/-- Whether a name can only be an address: its last label is a number. -/
def endsInNumber (name : List Char) : Bool :=
  match (labels name).getLast? with
  | none => false
  | some last => (!last.isEmpty && last.all Char.isDigit) || (addressNumber? last).isSome

/-- The four octets of a number. -/
def octets (number : Nat) : List Nat :=
  [number / 16777216, number / 65536 % 256, number / 256 % 256, number % 256]

/-- What the leading octets of an address are worth. -/
def leadingWorth (octets : List Nat) : Nat :=
  octets.zipIdx.foldl (fun sum entry => sum + entry.1 * Bytes.wordCount (3 - entry.2)) 0

/-- The address that a name spells. -/
def ipv4OfName? (name : List Char) : Option Net.Ipv4 := do
  let numbers ← (labels name).mapM addressNumber?
  let last ← numbers.getLast?
  let leading := numbers.dropLast
  let room := Bytes.wordCount (4 - leading.length)
  if 4 < numbers.length ∨ leading.any (255 < ·) ∨ room ≤ last then none
  pure ⟨octets (leadingWorth leading + last)⟩

/-- The address between brackets, if the text begins with one. -/
def bracketed? (text : List Char) : Option (Except ParseError Host) :=
  match text with
  | '[' :: rest =>
      some <|
        if rest.getLast? = some ']' then
          match Net.Ipv6.ofChars? rest.dropLast with
          | some address => .ok (.ipv6 address)
          | none => .error .invalidIpv6
        else .error .invalidIpv6
  | _ => none

/-- The host that a text names in a special scheme. -/
def ofSpecial (text : String) : Except ParseError Host :=
  (bracketed? text.toList).getD <|
    match (Percent.decodeText? text).bind fun name => Domain.toAscii? name.toList with
    | none => .error .invalidDomain
    | some name =>
        if name.isEmpty then .error .emptyHost
        else if endsInNumber name then
          match ipv4OfName? name with
          | some address => .ok (.ipv4 address)
          | none => .error .invalidIpv4
        else .ok (.domain (String.ofList name))

/-- Characters that no host of any scheme holds. -/
def isForbidden (character : Char) : Bool :=
  ['\x00', '\t', '\n', '\r', ' ', '#', '/', ':', '<', '>', '?', '@', '[', '\\', ']', '^',
    '|'].contains character

/-- The host that a text names in any other scheme. -/
def ofOther (text : String) : Except ParseError Host :=
  (bracketed? text.toList).getD <|
    if text.toList.any isForbidden then .error .invalidDomainCharacter
    else .ok (.domain (Percent.encodeText Percent.isControl text))

end Host

end PeerCache.Url
