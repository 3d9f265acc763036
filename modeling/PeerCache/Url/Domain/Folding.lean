/-
Module: PeerCache.Url.Domain.Folding
Purpose: What a domain name writes for each character.
Main exports:
  Folding.fold?
-/
import PeerCache.Url.Domain.Folding.Ideograph
import PeerCache.Url.Domain.Folding.Letter
import PeerCache.Url.Domain.Folding.Ligature
import PeerCache.Url.Domain.Folding.Run
import PeerCache.Url.Domain.Folding.Spelling
import PeerCache.Url.Domain.Refused

/-!
A domain name does not tell capitals from small letters, nor styled and framed forms from
plain ones.  Each character stays, gives way to another, is spelled out in several,
vanishes, or is refused.
-/

namespace PeerCache.Domain.Folding

/-- The character that a character in a run gives way to. -/
def ofRun? (character : Char) : Option Nat :=
  let code := character.toNat
  let alternation := alternations.find? fun (first, last) =>
    first ≤ code && code ≤ last && (code - first) % 2 = 0
  let shift := shifts.find? fun (first, last, _) => first ≤ code && code ≤ last
  match alternation, shift with
  | some _, _ => some (code + 1)
  | none, some (first, _, target) => some (target + (code - first))
  | none, none => Text.valueIn? collapses character

/-- The one character that a character gives way to. -/
def single? (character : Char) : Option Nat :=
  ((ofRun? character).orElse fun _ => letters.lookup character.toNat).orElse fun _ =>
    ideographs.lookup character.toNat

/-- The characters that a character is spelled out in. -/
def spelling? (character : Char) : Option (List Nat) :=
  (spellings.lookup character.toNat).orElse fun _ => ligatures.lookup character.toNat

/-- What is written for a character; none if it is refused. -/
def fold? (character : Char) : Option (List Char) :=
  if isRefused character then none
  else if vanishes character then some []
  else
    match single? character, spelling? character with
    | some code, _ => some [Char.ofNat code]
    | none, some codes => some (codes.map Char.ofNat)
    | none, none => some [character]

/-- Whether a character stands for itself. -/
def isPlain (character : Char) : Bool :=
  fold? character = some [character]

end PeerCache.Domain.Folding
