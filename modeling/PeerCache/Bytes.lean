/-
Module: PeerCache.Bytes
Purpose: Byte strings, the text they spell, and words written least byte first.
Main exports:
  Bytes, Bytes.ofString, Bytes.toString?, Bytes.littleEndian, Bytes.ofLittleEndian,
  Bytes.splitAt?
-/

/-!
Values, keys and messages are all byte strings at some point.  A byte string is a
list, so that every reader below can be stated as "the value, and what is left".

* Text and bytes meet in UTF-8 (`ofString`, `toString?`); a reader that gives text
  refuses bytes that spell none.
* A word is written with its least byte first (`littleEndian`), and read back by
  `ofLittleEndian`; the two agree on the numbers below `wordCount width`.
-/

namespace PeerCache

/-- A finite string of bytes. -/
abbrev Bytes := List UInt8

namespace Bytes

/-- The UTF-8 bytes of a text. -/
def ofString (text : String) : Bytes :=
  text.toByteArray.data.toList

/-- The text that the bytes spell in UTF-8, if they spell one. -/
def toString? (bytes : Bytes) : Option String :=
  String.fromUTF8? ⟨bytes.toArray⟩

/-- How many words of a width there are. -/
def wordCount : (width : Nat) → Nat
  | 0 => 1
  | width + 1 => 256 * wordCount width

/-- The low `width` bytes of a number, least significant byte first. -/
def littleEndian : (width : Nat) → (number : Nat) → Bytes
  | 0, _ => []
  | width + 1, number => UInt8.ofNat number :: littleEndian width (number / 256)

/-- The number whose bytes are given least significant first. -/
def ofLittleEndian : Bytes → Nat
  | [] => 0
  | byte :: rest => byte.toNat + 256 * ofLittleEndian rest

/-- The first `count` bytes and the rest, provided there are that many. -/
def splitAt? (count : Nat) (bytes : Bytes) : Option (Bytes × Bytes) :=
  if count ≤ bytes.length then some (bytes.take count, bytes.drop count) else none

@[simp] theorem length_littleEndian (width number : Nat) :
    (littleEndian width number).length = width := by
  induction width generalizing number with
  | zero => rfl
  | succ width hyp => simp [littleEndian, hyp]

/-- A word is read back from its bytes. -/
theorem ofLittleEndian_littleEndian (width number : Nat) :
    ofLittleEndian (littleEndian width number) = number % wordCount width := by
  induction width generalizing number with
  | zero => rw [littleEndian, ofLittleEndian, wordCount, Nat.mod_one]
  | succ width hyp =>
      rw [littleEndian, ofLittleEndian, hyp, wordCount, Nat.mod_mul]
      simp

/-- A word of some bytes is one of the numbers that so many bytes can spell. -/
theorem ofLittleEndian_lt (bytes : Bytes) : ofLittleEndian bytes < wordCount bytes.length := by
  induction bytes with
  | nil => exact Nat.one_pos
  | cons byte rest hyp =>
      have low : byte.toNat < 256 := byte.toNat_lt
      simp only [ofLittleEndian, List.length_cons, wordCount]
      omega

/-- Bytes are written back from the number that they spell. -/
theorem littleEndian_ofLittleEndian (bytes : Bytes) :
    littleEndian bytes.length (ofLittleEndian bytes) = bytes := by
  induction bytes with
  | nil => rfl
  | cons byte rest hyp =>
      have low : byte.toNat < 256 := byte.toNat_lt
      have above : (byte.toNat + 256 * ofLittleEndian rest) / 256 = ofLittleEndian rest := by omega
      rw [List.length_cons, ofLittleEndian, littleEndian, above, hyp]
      congr 1
      apply UInt8.toNat.inj
      simp

/-- A text is read back from its bytes. -/
theorem toString?_ofString (text : String) : toString? (ofString text) = some text := by
  have valid : (⟨(ofString text).toArray⟩ : ByteArray).IsValidUTF8 := text.isValidUTF8
  rw [toString?, String.fromUTF8?, dif_pos valid]
  rfl

theorem ofString_append (first second : String) :
    ofString (first ++ second) = ofString first ++ ofString second := by
  simp [ofString, String.toByteArray_append]

/-- A text is written one character after the other. -/
theorem ofString_ofList (characters : List Char) :
    ofString (String.ofList characters) = characters.flatMap String.utf8EncodeChar := by
  rw [ofString, String.toByteArray_ofList, List.utf8Encode]
  simp

/-- An ASCII character is written as the byte of its code. -/
theorem utf8EncodeChar_of_ascii {character : Char} (ascii : character.toNat < 0x80) :
    String.utf8EncodeChar character = [UInt8.ofNat character.toNat] := by
  have low : character.val.toNat ≤ 127 := Nat.le_of_lt_succ ascii
  simp only [String.utf8EncodeChar, low, if_true]
  rfl

/-- Any other character is written in bytes that are no ASCII. -/
theorem not_ascii_of_mem_utf8EncodeChar {character : Char} (beyond : 0x80 ≤ character.toNat)
    {byte : UInt8} (member : byte ∈ String.utf8EncodeChar character) : 0x80 ≤ byte.toNat := by
  have high : ¬ character.val.toNat ≤ 127 := Nat.not_le.mpr beyond
  simp only [String.utf8EncodeChar, high, if_false] at member
  split at member
  · simp only [List.mem_cons, List.not_mem_nil, or_false] at member
    rcases member with rfl | rfl <;> simp only [UInt8.toNat_ofNat'] <;> omega
  · split at member
    · simp only [List.mem_cons, List.not_mem_nil, or_false] at member
      rcases member with rfl | rfl | rfl <;> simp only [UInt8.toNat_ofNat'] <;> omega
    · simp only [List.mem_cons, List.not_mem_nil, or_false] at member
      rcases member with rfl | rfl | rfl | rfl <;> simp only [UInt8.toNat_ofNat'] <;> omega

/-- Splitting after a piece of known length gives the piece back. -/
theorem splitAt?_append (piece rest : Bytes) :
    splitAt? piece.length (piece ++ rest) = some (piece, rest) := by
  simp [splitAt?]

/-- A split loses nothing and cuts where it was told to. -/
theorem eq_append_of_splitAt? {count : Nat} {bytes piece rest : Bytes}
    (split : splitAt? count bytes = some (piece, rest)) :
    bytes = piece ++ rest ∧ piece.length = count := by
  unfold splitAt? at split
  split at split
  · next enough =>
      simp only [Option.some.injEq, Prod.mk.injEq] at split
      obtain ⟨rfl, rfl⟩ := split
      exact ⟨(List.take_append_drop count bytes).symm, by simp [enough]⟩
  · exact absurd split (by simp)

end Bytes

end PeerCache
