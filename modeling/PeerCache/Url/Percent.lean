/-
Module: PeerCache.Url.Percent
Purpose: Bytes written as a percent sign and two hexadecimal digits, and read back.
Main exports:
  Percent.encodeByte, Percent.encode, Percent.decode, Percent.decodeText?
-/
import PeerCache.Bytes

/-!
In the parts of a URL some bytes must not stand as themselves.  Such a byte is written
as a percent sign and two hexadecimal digits, upper case; which bytes these are depends
on the part, so the set is an argument.  Bytes from 0x80 on are always escaped.

Reading back takes digits of either case; a percent sign that no two digits follow
stands for itself.
-/

namespace PeerCache.Percent

/-- A set of ASCII characters that must be escaped. -/
abbrev EscapeSet := Char → Bool

/-- The hexadecimal digit of a number below sixteen, upper case. -/
def hexDigit (number : Nat) : Char :=
  if number < 10 then Char.ofNat (0x30 + number) else Char.ofNat (0x37 + number)

/-- A byte as a percent sign and two digits. -/
def encodeByte (byte : UInt8) : List Char :=
  ['%', hexDigit (byte.toNat / 16), hexDigit (byte.toNat % 16)]

/-- The bytes of one text with those of the set, and all beyond ASCII, escaped. -/
def encode (escaped : EscapeSet) (bytes : Bytes) : List Char :=
  bytes.flatMap fun byte =>
    if byte.toNat < 0x80 ∧ escaped (Char.ofNat byte.toNat) = false then
      [Char.ofNat byte.toNat]
    else encodeByte byte

/-- A text with the characters of the set, and all beyond ASCII, escaped. -/
def encodeText (escaped : EscapeSet) (text : String) : String :=
  String.ofList (encode escaped (Bytes.ofString text))

/-- The value of a hexadecimal digit of either case. -/
def hexValue? (byte : UInt8) : Option UInt8 :=
  if 0x30 ≤ byte ∧ byte ≤ 0x39 then some (byte - 0x30)
  else if 0x41 ≤ byte ∧ byte ≤ 0x46 then some (byte - 0x37)
  else if 0x61 ≤ byte ∧ byte ≤ 0x66 then some (byte - 0x57)
  else none

/-- The bytes that escaped bytes stand for. -/
def decode : Bytes → Bytes
  | [] => []
  | first :: second :: third :: rest =>
      if first = 0x25 then
        match hexValue? second, hexValue? third with
        | some high, some low => (16 * high + low) :: decode rest
        | _, _ => first :: decode (second :: third :: rest)
      else first :: decode (second :: third :: rest)
  | byte :: rest => byte :: decode rest

/-- The text that an escaped text stands for, if its bytes spell one. -/
def decodeText? (text : String) : Option String :=
  Bytes.toString? (decode (Bytes.ofString text))

/-! ## What the parts of a URL escape -/

/-- A control character. -/
def isControl : EscapeSet := fun character =>
  character.toNat < 0x20 || character.toNat = 0x7F

/-- What a fragment escapes. -/
def inFragment : EscapeSet := fun character =>
  isControl character || character = ' ' || character = '"' || character = '<' ||
    character = '>' || character = '\x60'

/-- What a query escapes. -/
def inQuery : EscapeSet := fun character =>
  isControl character || character = ' ' || character = '"' || character = '#' ||
    character = '<' || character = '>'

/-- What the query of a special scheme escapes. -/
def inSpecialQuery : EscapeSet := fun character =>
  inQuery character || character = '\''

/-- What a path escapes. -/
def inPath : EscapeSet := fun character =>
  inFragment character || character = '#' || character = '?' || character = '\x7b' ||
    character = '\x7d'

/-- What one segment of a path escapes, so that it stays one segment. -/
def inSegment : EscapeSet := fun character =>
  inPath character || character = '/' || character = '%'

/-- What one segment escapes where the backslash separates segments too. -/
def inSpecialSegment : EscapeSet := fun character =>
  inSegment character || character = '\\'

/-- What the user information before a host escapes. -/
def inUserinfo : EscapeSet := fun character =>
  inPath character || character = '/' || character = ':' || character = ';' ||
    character = '=' || character = '@' || character = '[' || character = '\\' ||
    character = ']' || character = '^' || character = '|'

end PeerCache.Percent
