/-
Module: PeerCache.Net.Ip
Purpose: Internet addresses of both versions, read from their usual text and shown.
Main exports:
  Ipv4, Ipv4.ofChars?, Ipv4.text, Ipv6, Ipv6.ofChars?, Ipv6.text
-/
import PeerCache.Text.Split

/-!
An address of version 4 is four octets, written in decimal without leading zeros and
parted by dots.  An address of version 6 is eight words, written in hexadecimal and
parted by colons; one run of zero words may be left out between two colons, and the
last two words may be written as an address of version 4.
-/

namespace PeerCache.Net

/-- The value of a digit in a base up to sixteen, of either case. -/
def digitIn? (base : Nat) (character : Char) : Option Nat :=
  let value? : Option Nat :=
    if '0' ≤ character ∧ character ≤ '9' then some (character.toNat - 0x30)
    else if 'a' ≤ character ∧ character ≤ 'f' then some (character.toNat - 0x57)
    else if 'A' ≤ character ∧ character ≤ 'F' then some (character.toNat - 0x37)
    else none
  value?.filter fun value => value < base

/-- The number that digits spell in a base; none if there is a stray character. -/
def numberIn? (base : Nat) (digits : List Char) : Option Nat :=
  digits.foldlM (fun sofar character => (digitIn? base character).map (base * sofar + ·)) 0

/-- An address of version 4: its octets, first to last. -/
structure Ipv4 where
  octets : List Nat
deriving Repr, DecidableEq

namespace Ipv4

/-- An octet without leading zeros. -/
def octet? (digits : List Char) : Option Nat :=
  if digits.isEmpty ∨ 3 < digits.length ∨ (digits.head? = some '0' ∧ 1 < digits.length) then
    none
  else (numberIn? 10 digits).filter fun value => value < 256

/-- The address that a text spells. -/
def ofChars? (text : List Char) : Option Ipv4 := do
  let octets ← (Text.splitOn '.' text).mapM octet?
  if octets.length = 4 then some ⟨octets⟩ else none

/-- The usual text of an address. -/
def text (address : Ipv4) : String :=
  ".".intercalate (address.octets.map toString)

/-- The address as two words of version 6. -/
def words (address : Ipv4) : List Nat :=
  match address.octets with
  | [first, second, third, fourth] => [256 * first + second, 256 * third + fourth]
  | _ => []

end Ipv4

/-- An address of version 6: its words, first to last. -/
structure Ipv6 where
  words : List Nat
deriving Repr, DecidableEq

namespace Ipv6

/-- A word of one to four hexadecimal digits. -/
def word? (digits : List Char) : Option Nat :=
  if digits.isEmpty ∨ 4 < digits.length then none else numberIn? 16 digits

/-- Words parted by colons, of which the last may be an address of version 4. -/
def wordsOf? : List (List Char) → Option (List Nat)
  | [] => some []
  | [last] => (word? last).map (fun word => [word]) <|> (Ipv4.ofChars? last).map Ipv4.words
  | first :: rest => do
      let word ← word? first
      let words ← wordsOf? rest
      pure (word :: words)

/-- The words on one side of a left-out run; none at all if the side is blank. -/
def side? (text : List Char) : Option (List Nat) :=
  if text.isEmpty then some [] else wordsOf? (Text.splitOn ':' text)

/-- Parts a text at its first double colon. -/
def splitAtGap? : List Char → Option (List Char × List Char)
  | [] => none
  | ':' :: ':' :: rest => some ([], rest)
  | character :: rest => (splitAtGap? rest).map fun sides => (character :: sides.1, sides.2)

/-- The address that a text spells. -/
def ofChars? (text : List Char) : Option Ipv6 :=
  match splitAtGap? text with
  | none => do
      let words ← wordsOf? (Text.splitOn ':' text)
      if words.length = 8 then some ⟨words⟩ else none
  | some (left, right) => do
      if left.contains '.' then none
      let before ← side? left
      let after ← side? right
      if before.length + after.length ≤ 7 then
        some ⟨before ++ List.replicate (8 - before.length - after.length) 0 ++ after⟩
      else none

/-- The length of the run of zero words at the front. -/
def leadingZeros (words : List Nat) : Nat :=
  (words.takeWhile (· = 0)).length

/-- Where the first of the longest runs of zero words begins, and its length. -/
def longestGap (words : List Nat) : Nat × Nat :=
  (List.range words.length).foldl
    (fun best start =>
      let size := leadingZeros (words.drop start)
      if best.2 < size then (start, size) else best)
    (0, 0)

/-- Words in hexadecimal parted by colons. -/
def colonText (words : List Nat) : String :=
  ":".intercalate (words.map fun word => String.ofList (Nat.toDigits 16 word))

/-- The usual text of an address: the first of the longest runs of at least two zero
words is left out. -/
def text (address : Ipv6) : String :=
  let (start, size) := longestGap address.words
  if size < 2 then colonText address.words
  else colonText (address.words.take start) ++ "::" ++ colonText (address.words.drop (start + size))

/-- The text of an address in which one that stands for an address of version 4 shows
that address. -/
def mappedText (address : Ipv6) : String :=
  match address.words with
  | [0, 0, 0, 0, 0, 0xFFFF, high, low] =>
      "::ffff:" ++ Ipv4.text ⟨[high / 256, high % 256, low / 256, low % 256]⟩
  | _ => address.text

end Ipv6

end PeerCache.Net
