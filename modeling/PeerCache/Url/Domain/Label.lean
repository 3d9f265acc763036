/-
Module: PeerCache.Url.Domain.Label
Purpose: The labels of a domain name, read and written.
Main exports:
  Label.read?, Label.toAscii
-/
import PeerCache.Url.Domain.Composed
import PeerCache.Url.Domain.Folding
import PeerCache.Url.Domain.Joining
import PeerCache.Url.Punycode

/-!
A label that holds more than ASCII can also come in Punycode, behind a mark.  It must
then spell a label that could have come as it is: with characters that stand for
themselves, in their one spelling, and not all of them ASCII.

However it came, such a label must not begin with a combining mark, and its joiners must
be in place.  What Punycode spells may begin with the mark once more.
-/

namespace PeerCache.Domain.Label

/-- The mark in front of Punycode. -/
def mark : List Char := ['x', 'n', '-', '-']

/-- The longest label beyond ASCII, in characters. -/
def maxLength : Nat := 1000

/-- The longest Punycode that is read, in digits. -/
def maxEncodedLength : Nat := 2000

/-- Whether a label holds nothing but ASCII. -/
def isAscii (label : List Char) : Bool :=
  label.all fun character => character.toNat < 0x80

/-- Whether a label beyond ASCII can stand in a name. -/
def isProper (label : List Char) : Bool :=
  !label.head?.any isMark && joinersFit label && label.length ≤ maxLength

/-- The label that stands in Punycode. -/
def ofPunycode? (encoded : List Char) : Option (List Char) := do
  if maxEncodedLength < encoded.length then none
  let label ← Punycode.decode? encoded
  if isAscii label || !label.all Folding.isPlain || compose label ≠ label then none
  pure label

/-- A label as it is meant, if it can stand in a name. -/
def read? (label : List Char) : Option (List Char) :=
  if mark.isPrefixOf label then
    if isAscii label then (ofPunycode? (label.drop mark.length)).filter isProper else none
  else if isAscii label || isProper label then some label
  else none

/-- A label in ASCII. -/
def toAscii (label : List Char) : List Char :=
  if isAscii label then label else mark ++ Punycode.encode label

end PeerCache.Domain.Label
