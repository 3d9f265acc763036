/-
Module: PeerCache.Text.Numeral
Purpose: Decimal numerals of a bounded range, and why a text is none.
Main exports:
  NumeralError, NumeralError.message, readNatural, readInteger
-/

/-!
A numeral is an optional sign and at least one decimal digit; leading zeros count for
nothing.  It must lie in a given range.  The digits are taken from the left, so of two
faults the one further left is reported: a numeral that has left its range before a
stray character is too large, not misspelt.
-/

namespace PeerCache.Text

/-- Why a text is no numeral of the wanted range. -/
inductive NumeralError where
  | empty
  | invalidDigit
  | tooLarge
  | tooSmall
deriving Repr, DecidableEq

/-- The wording of each fault. -/
def NumeralError.message : NumeralError → String
  | .empty => "cannot parse integer from empty string"
  | .invalidDigit => "invalid digit found in string"
  | .tooLarge => "number too large to fit in target type"
  | .tooSmall => "number too small to fit in target type"

/-- The value of a decimal digit. -/
def digit? (character : Char) : Option Nat :=
  if '0' ≤ character ∧ character ≤ '9' then some (character.toNat - '0'.toNat) else none

/-- Continues a numeral whose digits so far are worth `sofar`, reporting `overflow`
at the first digit that takes it past `limit`. -/
def readDigits (limit : Nat) (overflow : NumeralError) :
    (sofar : Nat) → List Char → Except NumeralError Nat
  | sofar, [] => .ok sofar
  | sofar, character :: rest =>
      match digit? character with
      | none => .error .invalidDigit
      | some digit =>
          if 10 * sofar + digit ≤ limit then
            readDigits limit overflow (10 * sofar + digit) rest
          else .error overflow

/-- The digits after a sign, of which there must be one. -/
def readUnsigned (limit : Nat) (overflow : NumeralError) :
    List Char → Except NumeralError Nat
  | [] => .error .invalidDigit
  | digits => readDigits limit overflow 0 digits

/-- A natural number up to `limit`, with an optional plus sign. -/
def readNatural (limit : Nat) (text : String) : Except NumeralError Nat :=
  match text.toList with
  | [] => .error .empty
  | '+' :: digits => readUnsigned limit .tooLarge digits
  | digits => readUnsigned limit .tooLarge digits

/-- An integer from `-(limit + 1)` up to `limit`, with an optional sign. -/
def readInteger (limit : Nat) (text : String) : Except NumeralError Int :=
  match text.toList with
  | [] => .error .empty
  | '+' :: digits => (readUnsigned limit .tooLarge digits).map Int.ofNat
  | '-' :: digits => (readUnsigned (limit + 1) .tooSmall digits).map fun size => -(size : Int)
  | digits => (readUnsigned limit .tooLarge digits).map Int.ofNat

end PeerCache.Text
