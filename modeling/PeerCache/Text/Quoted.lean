/-
Module: PeerCache.Text.Quoted
Purpose: Texts shown between double quotes, with escapes for what would not show.
Main exports:
  escape, quote, quoteList
-/
import PeerCache.Text.Unprintable

/-!
A quoted text stands between double quotes.  The quote and the backslash are escaped
by a backslash, tab, carriage return, line feed and the null character have escapes of
their own, and any other unprintable character is written by its code point in
hexadecimal between braces.  All else, the single quote included, stands for itself.
-/

namespace PeerCache.Text

/-- The digits of a number in base sixteen, lower case, without leading zeros. -/
def hexDigits (number : Nat) : List Char :=
  Nat.toDigits 16 number

/-- A character as it stands between double quotes. -/
def escape (character : Char) : List Char :=
  if character = '\x00' then ['\\', '0']
  else if character = '\t' then ['\\', 't']
  else if character = '\r' then ['\\', 'r']
  else if character = '\n' then ['\\', 'n']
  else if character = '\\' then ['\\', '\\']
  else if character = '"' then ['\\', '"']
  else if isUnprintable character then
    ['\\', 'u', '\x7b'] ++ hexDigits character.toNat ++ ['\x7d']
  else [character]

/-- The text between double quotes. -/
def quote (text : String) : String :=
  String.ofList ('"' :: text.toList.flatMap escape ++ ['"'])

/-- Quoted texts between square brackets. -/
def quoteList (texts : List String) : String :=
  "[" ++ ", ".intercalate (texts.map quote) ++ "]"

/-- A single quote stands for itself. -/
example : quote "it's" = "\"it's\"" := by decide +kernel

/-- A quote, a backslash and a line feed are escaped. -/
example : quote "a\"\\\n" = "\"a\\\"\\\\\\n\"" := by decide +kernel

end PeerCache.Text
