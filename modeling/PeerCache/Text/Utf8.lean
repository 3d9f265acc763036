/-
Module: PeerCache.Text.Utf8
Purpose: Reading bytes as UTF-8 text with a mark in place of what is not text.
Main exports:
  Utf8.Step, Utf8.step, lossyText
-/
import PeerCache.Bytes

/-!
Bytes are read from the left.  Where a well-formed character begins, it is taken.
Elsewhere the longest run of bytes that could have begun a character is taken (at least
one byte) and stands for the replacement character U+FFFD.  What may follow a leading
byte is a table: the second byte has a range of its own after some leading bytes, which
rules out overlong forms, surrogates and code points past U+10FFFF.
-/

namespace PeerCache.Text

namespace Utf8

/-- The character shown in place of bytes that are no text. -/
def replacement : Char := Char.ofNat 0xFFFD

/-- Whether a byte lies in a closed range. -/
def inRange (low high : Nat) (byte : UInt8) : Bool :=
  low ≤ byte.toNat && byte.toNat ≤ high

/-- What a leading byte announces: how many bytes follow it, the range of the first
of those, and the payload of the leading byte itself. -/
structure Lead where
  following : Nat
  low : Nat
  high : Nat
  payload : Nat

/-- The table of leading bytes. -/
def lead? (byte : UInt8) : Option Lead :=
  let code := byte.toNat
  if code < 0x80 then some ⟨0, 0x80, 0xBF, code⟩
  else if code < 0xC2 then none
  else if code < 0xE0 then some ⟨1, 0x80, 0xBF, code - 0xC0⟩
  else if code = 0xE0 then some ⟨2, 0xA0, 0xBF, 0⟩
  else if code = 0xED then some ⟨2, 0x80, 0x9F, 0xD⟩
  else if code < 0xF0 then some ⟨2, 0x80, 0xBF, code - 0xE0⟩
  else if code = 0xF0 then some ⟨3, 0x90, 0xBF, 0⟩
  else if code < 0xF4 then some ⟨3, 0x80, 0xBF, code - 0xF0⟩
  else if code = 0xF4 then some ⟨3, 0x80, 0x8F, 4⟩
  else none

/-- Takes the continuation bytes of a character: the code point if all `following`
bytes are there, none otherwise, and how many bytes fitted. -/
def continue? : (following low high payload : Nat) → Bytes → Option Nat × Nat
  | 0, _, _, payload, _ => (some payload, 0)
  | _ + 1, _, _, _, [] => (none, 0)
  | following + 1, low, high, payload, byte :: rest =>
      if inRange low high byte then
        let (code, taken) := continue? following 0x80 0xBF (payload * 64 + byte.toNat % 64) rest
        (code, taken + 1)
      else (none, 0)

/-- The character that stands for the first bytes of a non-empty string, and how many
bytes beyond the first it accounts for. -/
def step (byte : UInt8) (rest : Bytes) : Char × Nat :=
  match lead? byte with
  | none => (replacement, 0)
  | some lead =>
      match continue? lead.following lead.low lead.high lead.payload rest with
      | (some code, taken) => (Char.ofNat code, taken)
      | (none, taken) => (replacement, taken)

/-- The characters that bytes stand for, one for each character or ill-formed run. -/
def lossyCharacters : Bytes → List Char
  | [] => []
  | byte :: rest =>
      let (character, taken) := step byte rest
      character :: lossyCharacters (rest.drop taken)
termination_by bytes => bytes.length
decreasing_by simp only [List.length_drop, List.length_cons]; omega

end Utf8

/-- The bytes as text, with U+FFFD for each ill-formed run. -/
def lossyText (bytes : Bytes) : String :=
  String.ofList (Utf8.lossyCharacters bytes)

end PeerCache.Text
