/-
Module: PeerCache.Url.Domain
Purpose: The ASCII form of a domain name.
Main exports:
  Domain.toAscii?
-/
import PeerCache.Text.Split
import PeerCache.Url.Domain.Direction
import PeerCache.Url.Domain.Label

/-!
A domain name is a list of labels parted by dots.  To compare two names their characters
are folded and put in their one spelling; the name is refused if one of its labels is,
or if the labels could trade places.  The ASCII form writes each label that holds more
than ASCII in Punycode behind a mark.

ASCII characters that would end the host of an address, or do not show, are refused
even where they came out of folding.
-/

namespace PeerCache.Domain

/-- ASCII characters that no domain name holds. -/
def isForbidden (character : Char) : Bool :=
  character.toNat ≤ 0x20 || character.toNat = 0x7F ||
    ['%', '#', '/', ':', '<', '>', '?', '@', '[', '\\', ']', '^', '|'].contains character

/-- The labels of a name as they are meant; none if the name cannot be used. -/
def labels? (domain : List Char) : Option (List (List Char)) := do
  let folded ← domain.mapM Folding.fold?
  let labels ← (Text.splitOn '.' (compose folded.flatten)).mapM Label.read?
  if (labels.any fun label => label.any isForbidden) || !isLegible labels then none
  pure labels

/-- The ASCII form of a domain name, if it can be used. -/
def toAscii? (domain : List Char) : Option (List Char) :=
  (labels? domain).map fun labels => ['.'].intercalate (labels.map Label.toAscii)

end PeerCache.Domain
