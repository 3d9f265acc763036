/-
Module: PeerCache.Proofs.Url.Escaping
Purpose: What escaping does to a text, and that decoding undoes it.
Main exports:
  Percent.IsPlain, Percent.decodeText?_encodeText, Percent.decodeText?_two_segments,
  Percent.encode_of_plain, Percent.forall_mem_encode, Percent.eq_of_encode_eq_dots
-/
import PeerCache.Url

/-!
Escaping goes byte by byte: a byte stands as itself (`IsPlain`) or becomes a percent sign and
two digits.  Where the percent sign itself is escaped, no other percent sign is left, and
decoding undoes escaping, whatever follows (`decode_encode_append`).

A part of a path may keep its percent signs.  What is escaped cannot be told from what was
written with percent signs then, with one exception that paths rely on: a full stop is never
escaped, so nothing becomes a segment of dots (`eq_of_encode_eq_dots`).
-/

namespace PeerCache.Percent

variable {escaped : EscapeSet} {byte : UInt8} {bytes rest : Bytes} {characters : List Char}

/-- The byte stands as itself. -/
def IsPlain (escaped : EscapeSet) (byte : UInt8) : Prop :=
  byte.toNat < 0x80 ∧ escaped (Char.ofNat byte.toNat) = false

instance (escaped : EscapeSet) (byte : UInt8) : Decidable (IsPlain escaped byte) :=
  inferInstanceAs (Decidable (_ ∧ _))

theorem encode_cons_of_plain (plain : IsPlain escaped byte) :
    encode escaped (byte :: rest) = Char.ofNat byte.toNat :: encode escaped rest := by
  unfold IsPlain at plain
  simp [encode, plain]

theorem encode_cons_of_not_plain (notPlain : ¬ IsPlain escaped byte) :
    encode escaped (byte :: rest) = encodeByte byte ++ encode escaped rest := by
  unfold IsPlain at notPlain
  simp only [encode, List.flatMap_cons, if_neg notPlain]

/-! ## Reading back -/

/-- An ASCII character is written as the byte it is made from. -/
theorem utf8EncodeChar_ofNat (byte : UInt8) (ascii : byte.toNat < 0x80) :
    String.utf8EncodeChar (Char.ofNat byte.toNat) = [byte] := by
  have table : ∀ code < 0x80,
      String.utf8EncodeChar (Char.ofNat code) = [UInt8.ofNat code] := by decide +kernel
  rw [table byte.toNat ascii, UInt8.ofNat_toNat]

/-- A hexadecimal digit is one byte, which has the value of the digit. -/
theorem hexValue?_hexDigit (number : Nat) (small : number < 16) :
    ∃ digit, String.utf8EncodeChar (hexDigit number) = [digit] ∧
      hexValue? digit = some (UInt8.ofNat number) := by
  have table : ∀ number < 16, (String.utf8EncodeChar (hexDigit number)).map hexValue? =
      [some (UInt8.ofNat number)] := by decide +kernel
  simpa only [List.map_eq_singleton_iff] using table number small

theorem decode_cons_of_ne (differs : byte ≠ 0x25) :
    decode (byte :: rest) = byte :: decode rest := by
  match rest with
  | [] => rfl
  | [_] => rfl
  | _ :: _ :: _ => rw [decode, if_neg differs]

/-- An escaped byte is read back, and what follows it is left to be read. -/
theorem decode_encodeByte (byte : UInt8) (rest : Bytes) :
    decode ((encodeByte byte).flatMap String.utf8EncodeChar ++ rest) = byte :: decode rest := by
  have bound : byte.toNat < 256 := byte.toNat_lt
  obtain ⟨high, highWritten, highValue⟩ := hexValue?_hexDigit (byte.toNat / 16) (by omega)
  obtain ⟨low, lowWritten, lowValue⟩ := hexValue?_hexDigit (byte.toNat % 16) (by omega)
  have percent : String.utf8EncodeChar '%' = [0x25] := by decide
  have whole : 16 * UInt8.ofNat (byte.toNat / 16) + UInt8.ofNat (byte.toNat % 16) = byte := by
    apply UInt8.toNat.inj
    simp only [UInt8.toNat_add, UInt8.toNat_mul, UInt8.toNat_ofNat', UInt8.toNat_ofNat]
    omega
  simp only [encodeByte, List.flatMap_cons, List.flatMap_nil, percent, highWritten, lowWritten,
    List.cons_append, List.nil_append, decode, if_true, highValue, lowValue, whole]

/-- Escaped bytes are read back, and what follows them is left to be read. -/
theorem decode_encode_append (percent : escaped '%' = true) (bytes rest : Bytes) :
    decode (Bytes.ofString (String.ofList (encode escaped bytes)) ++ rest) =
      bytes ++ decode rest := by
  induction bytes with
  | nil =>
      have empty : Bytes.ofString (String.ofList []) = [] := by decide
      rw [encode, List.flatMap_nil, empty, List.nil_append, List.nil_append]
  | cons byte others hyp =>
      rw [Bytes.ofString_ofList] at hyp ⊢
      by_cases plain : IsPlain escaped byte
      · have differs : byte ≠ 0x25 := by
          rintro rfl
          have kept : escaped '%' = false := plain.2
          rw [percent] at kept
          cases kept
        rw [encode_cons_of_plain plain, List.flatMap_cons, utf8EncodeChar_ofNat byte plain.1,
          List.append_assoc, List.singleton_append, decode_cons_of_ne differs, hyp,
          List.cons_append]
      · rw [encode_cons_of_not_plain plain, List.flatMap_append, List.append_assoc,
          decode_encodeByte, hyp, List.cons_append]

/-- A text is read back from its escaped form, if percent signs are escaped. -/
theorem decodeText?_encodeText (percent : escaped '%' = true) (text : String) :
    decodeText? (encodeText escaped text) = some text := by
  have whole := decode_encode_append percent (Bytes.ofString text) []
  rw [List.append_nil, decode, List.append_nil] at whole
  rw [decodeText?, encodeText, whole, Bytes.toString?_ofString]

/-- Two texts are read back from their escaped forms with a slash between them. -/
theorem decodeText?_two_segments (percent : escaped '%' = true) (first second : String) :
    decodeText? (encodeText escaped first ++ ("/" ++ encodeText escaped second)) =
      some (first ++ ("/" ++ second)) := by
  have slash : Bytes.ofString "/" = [0x2F] := by decide
  have whole := decode_encode_append percent (Bytes.ofString second) []
  rw [List.append_nil, decode, List.append_nil] at whole
  rw [decodeText?, Bytes.ofString_append, Bytes.ofString_append, slash, encodeText,
    decode_encode_append percent, List.singleton_append, decode_cons_of_ne (by decide), encodeText,
    whole, ← List.singleton_append, ← slash, ← Bytes.ofString_append, ← Bytes.ofString_append,
    Bytes.toString?_ofString]

/-! ## What is written -/

/-- A byte of a text that stands as itself is one of its characters. -/
theorem mem_of_ascii_byte (member : byte ∈ Bytes.ofString (String.ofList characters))
    (ascii : byte.toNat < 0x80) :
    ∃ character ∈ characters, character.toNat < 0x80 ∧ Char.ofNat byte.toNat = character := by
  rw [Bytes.ofString_ofList, List.mem_flatMap] at member
  obtain ⟨character, inside, inCharacter⟩ := member
  by_cases isAscii : character.toNat < 0x80
  · rw [Bytes.utf8EncodeChar_of_ascii isAscii, List.mem_singleton] at inCharacter
    have code : byte.toNat = character.toNat := by
      rw [inCharacter, UInt8.toNat_ofNat', Nat.mod_eq_of_lt (by omega)]
    exact ⟨character, inside, isAscii, by rw [code, Char.ofNat_toNat]⟩
  · have beyond := Bytes.not_ascii_of_mem_utf8EncodeChar (Nat.not_lt.mp isAscii) inCharacter
    omega

/-- What holds of percent signs, of digits, and of the characters of a text that stand as
themselves holds of all that is written for the text. -/
theorem forall_mem_encode {holds : Char → Prop} (percent : holds '%')
    (digit : ∀ number < 16, holds (hexDigit number))
    (plain : ∀ character ∈ characters, character.toNat < 0x80 → escaped character = false →
      holds character) :
    ∀ character ∈ encode escaped (Bytes.ofString (String.ofList characters)), holds character := by
  intro character member
  obtain ⟨byte, inText, written⟩ := List.mem_flatMap.mp member
  have bound : byte.toNat < 256 := byte.toNat_lt
  split at written
  · next isPlain =>
      obtain ⟨inside, isInside, ascii, same⟩ := mem_of_ascii_byte inText isPlain.1
      rw [same, List.mem_singleton] at written
      rw [same] at isPlain
      subst written
      exact plain _ isInside ascii isPlain.2
  · simp only [encodeByte, List.mem_cons, List.not_mem_nil, or_false] at written
    rcases written with rfl | rfl | rfl
    · exact percent
    · exact digit _ (by omega)
    · exact digit _ (by omega)

/-- Characters that all stand as themselves are not changed. -/
theorem encode_of_plain
    (plain : ∀ character ∈ characters, character.toNat < 0x80 ∧ escaped character = false) :
    encode escaped (Bytes.ofString (String.ofList characters)) = characters := by
  rw [Bytes.ofString_ofList]
  induction characters with
  | nil => rfl
  | cons character rest hyp =>
      obtain ⟨⟨ascii, kept⟩, inRest⟩ := List.forall_mem_cons.mp plain
      have code : (UInt8.ofNat character.toNat).toNat = character.toNat := by
        rw [UInt8.toNat_ofNat', Nat.mod_eq_of_lt (by omega)]
      have isPlain : IsPlain escaped (UInt8.ofNat character.toNat) := by
        rw [IsPlain, code, Char.ofNat_toNat]
        exact ⟨ascii, kept⟩
      rw [List.flatMap_cons, Bytes.utf8EncodeChar_of_ascii ascii, List.singleton_append,
        encode_cons_of_plain isPlain, hyp inRest, code, Char.ofNat_toNat]

/-- Either every byte stands as itself, or one is written with a percent sign. -/
theorem all_plain_or_escape (escaped : EscapeSet) (bytes : Bytes) :
    (∀ byte ∈ bytes, IsPlain escaped byte) ∨
      ∃ byte, ¬ IsPlain escaped byte ∧ encodeByte byte <:+: encode escaped bytes := by
  induction bytes with
  | nil => exact Or.inl (by simp)
  | cons first rest hyp =>
      by_cases plain : IsPlain escaped first
      · rw [encode_cons_of_plain plain]
        rcases hyp with all | ⟨byte, notPlain, inside⟩
        · exact Or.inl (List.forall_mem_cons.mpr ⟨plain, all⟩)
        · exact Or.inr ⟨byte, notPlain, inside.trans (List.suffix_cons _ _).isInfix⟩
      · rw [encode_cons_of_not_plain plain]
        exact Or.inr ⟨first, plain, (List.prefix_append _ _).isInfix⟩

/-- A text of plain bytes consists of plain characters. -/
theorem plain_of_bytes
    (all : ∀ byte ∈ Bytes.ofString (String.ofList characters), IsPlain escaped byte) :
    ∀ character ∈ characters, character.toNat < 0x80 ∧ escaped character = false := by
  rw [Bytes.ofString_ofList] at all
  intro character member
  have ascii : character.toNat < 0x80 := by
    refine Nat.lt_of_not_le fun high => ?_
    obtain ⟨byte, inCharacter⟩ : ∃ byte, byte ∈ String.utf8EncodeChar character :=
      List.exists_mem_of_ne_nil _ String.utf8EncodeChar_ne_nil
    have low := (all byte (List.mem_flatMap.mpr ⟨character, member, inCharacter⟩)).1
    have := Bytes.not_ascii_of_mem_utf8EncodeChar high inCharacter
    omega
  have plain := all (UInt8.ofNat character.toNat) (List.mem_flatMap.mpr ⟨character, member, by
    rw [Bytes.utf8EncodeChar_of_ascii ascii]
    exact List.mem_singleton.mpr rfl⟩)
  rw [IsPlain, UInt8.toNat_ofNat', Nat.mod_eq_of_lt (by omega), Char.ofNat_toNat] at plain
  exact plain

/-- The ways to write a segment of one or two dots. -/
def dotForms : List String :=
  [".", "%2e", "%2E", "..", "%2e%2e", "%2e%2E", "%2E%2e", "%2E%2E", "%2e.", "%2E.", ".%2e", ".%2E"]

/-- Only a text that is dots already is written as dots: no full stop is ever escaped. -/
theorem eq_of_encode_eq_dots (keepsStop : escaped '.' = false) {dots : String}
    (isDots : dots ∈ dotForms)
    (same : encode escaped (Bytes.ofString (String.ofList characters)) = dots.toList) :
    characters = dots.toList ∧ ∀ character ∈ characters, escaped character = false := by
  have table : ∀ code < 256, ∀ dots ∈ dotForms,
      encodeByte (UInt8.ofNat code) <:+: dots.toList → code = 0x2E := by decide +kernel
  rcases all_plain_or_escape escaped (Bytes.ofString (String.ofList characters)) with
    all | ⟨byte, notPlain, inside⟩
  · have plain := plain_of_bytes all
    rw [encode_of_plain plain] at same
    exact ⟨same, fun character member => (plain character member).2⟩
  · have code : UInt8.ofNat byte.toNat = byte := UInt8.ofNat_toNat
    rw [same, ← code] at inside
    have isStop := table byte.toNat byte.toNat_lt dots isDots inside
    refine absurd ⟨?_, ?_⟩ notPlain
    · omega
    · rw [isStop]
      exact keepsStop

end PeerCache.Percent
