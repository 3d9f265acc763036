/-
Module: PeerCache.Proofs.Text.Numerals
Purpose: Which texts are read as integers, and as which.
Main exports:
  Text.IsNumeral, Text.Denotes, Text.readUnsigned_eq_ok_iff, Text.readInteger_eq_ok_iff,
  Text.Denotes.unique
-/
import Mathlib.Data.Nat.Digits.Defs
import PeerCache.Text.Numeral

/-!
`Denotes` says what an integer looks like in decimal: digits, at least one, perhaps behind a sign,
and leading zeros count for nothing.  Nothing is said there about how it is read.

The reader looks at the digits from the left and gives up at the first that takes it out of its
range.  The value of what it has read only grows, so it gives up on no numeral of the range.
-/

namespace PeerCache.Text

/-- The characters are decimal digits, at least one, and this is their value. -/
def IsNumeral (characters : List Char) (value : Nat) : Prop :=
  ∃ digits : List Nat, digits ≠ [] ∧ (∀ digit ∈ digits, digit < 10) ∧
    characters = digits.map Nat.digitChar ∧ value = Nat.ofDigits 10 digits.reverse

/-- The text is a decimal numeral of the integer. -/
inductive Denotes (text : String) : Int → Prop where
  | plain {size : Nat} (spelled : IsNumeral text.toList size) : Denotes text size
  | positive {characters : List Char} {size : Nat} (signed : text.toList = '+' :: characters)
      (spelled : IsNumeral characters size) : Denotes text size
  | negative {characters : List Char} {size : Nat} (signed : text.toList = '-' :: characters)
      (spelled : IsNumeral characters size) : Denotes text (-size)

variable {limit sofar value : Nat} {overflow : NumeralError} {character : Char}
  {characters : List Char}

/-! ## Digits -/

theorem digit?_eq_some_iff {digit : Nat} :
    digit? character = some digit ↔ digit < 10 ∧ character = Nat.digitChar digit := by
  have first : '0'.toNat = 48 := rfl
  have last : '9'.toNat = 57 := rfl
  rw [digit?, Option.ite_none_right_eq_some, Char.le_def, Char.le_def, UInt32.le_iff_toNat_le,
    UInt32.le_iff_toNat_le]
  change (48 ≤ character.toNat ∧ character.toNat ≤ 57) ∧ some (character.toNat - 48) = _ ↔ _
  constructor
  · rintro ⟨inDigits, same⟩
    obtain rfl := Option.some.inj same
    refine ⟨by omega, Char.toNat_inj.mp ?_⟩
    rw [Nat.toNat_digitChar_of_lt_ten (by omega)]
    omega
  · rintro ⟨small, rfl⟩
    rw [Nat.toNat_digitChar_of_lt_ten small]
    exact ⟨by omega, by congr 1; omega⟩

/-- A digit in front of others counts for as much as there are others. -/
theorem ofDigits_reverse_cons (digit : Nat) (digits : List Nat) :
    Nat.ofDigits 10 (digit :: digits).reverse =
      10 ^ digits.length * digit + Nat.ofDigits 10 digits.reverse := by
  rw [List.reverse_cons, Nat.ofDigits_append, Nat.ofDigits_singleton, List.length_reverse,
    Nat.add_comm]

/-- A digit is spelled in one way, so the first of some digits is known by its character. -/
theorem exists_cons_of_digitChar {digit : Nat} {digits : List Nat} {rest : List Char}
    (isDigit : digit? character = some digit) (small : ∀ digit ∈ digits, digit < 10)
    (spelled : character :: rest = digits.map Nat.digitChar) :
    ∃ others, digits = digit :: others ∧ rest = others.map Nat.digitChar := by
  cases digits with
  | nil => cases spelled
  | cons first others =>
      obtain ⟨isFirst, isRest⟩ := List.cons.inj spelled
      have read := digit?_eq_some_iff.mpr ⟨small first List.mem_cons_self, isFirst⟩
      obtain rfl := Option.some.inj (isDigit.symm.trans read)
      exact ⟨others, rfl, isRest⟩

/-- Digits are read up to the end if their value, behind that of those before them, is in the
range. -/
theorem readDigits_eq_ok_iff (inRange : sofar ≤ limit) :
    readDigits limit overflow sofar characters = .ok value ↔
      ∃ digits : List Nat, (∀ digit ∈ digits, digit < 10) ∧
        characters = digits.map Nat.digitChar ∧
        value = 10 ^ digits.length * sofar + Nat.ofDigits 10 digits.reverse ∧ value ≤ limit := by
  induction characters generalizing sofar with
  | nil =>
      rw [readDigits, Except.ok.injEq]
      constructor
      · rintro rfl
        exact ⟨[], by simp, rfl, by simp, inRange⟩
      · rintro ⟨digits, -, isNil, isValue, -⟩
        obtain rfl := List.map_eq_nil_iff.mp isNil.symm
        simpa using isValue.symm
  | cons character rest hyp =>
      unfold readDigits
      cases isDigit : digit? character with
      | none =>
          refine ⟨nofun, ?_⟩
          rintro ⟨_ | ⟨digit, digits⟩, small, spelled, -, -⟩
          · cases spelled
          · obtain ⟨isFirst, -⟩ := List.cons.inj spelled
            have read := digit?_eq_some_iff.mpr ⟨small digit List.mem_cons_self, isFirst⟩
            rw [isDigit] at read
            cases read
      | some digit =>
          obtain ⟨isSmall, isCharacter⟩ := digit?_eq_some_iff.mp isDigit
          have shifted (others : List Nat) :
              10 ^ (digit :: others).length * sofar + Nat.ofDigits 10 (digit :: others).reverse =
                10 ^ others.length * (10 * sofar + digit) + Nat.ofDigits 10 others.reverse := by
            rw [ofDigits_reverse_cons, List.length_cons, Nat.pow_succ]
            ring
          by_cases fits : 10 * sofar + digit ≤ limit
          case pos =>
              simp only [if_pos fits, hyp fits]
              constructor
              · rintro ⟨others, small, rfl, isValue, inside⟩
                refine ⟨digit :: others, List.forall_mem_cons.mpr ⟨isSmall, small⟩,
                  by rw [isCharacter, List.map_cons], ?_, inside⟩
                rw [isValue, shifted]
              · rintro ⟨digits, small, spelled, isValue, inside⟩
                obtain ⟨others, rfl, isRest⟩ := exists_cons_of_digitChar isDigit small spelled
                exact ⟨others, (List.forall_mem_cons.mp small).2, isRest,
                  isValue.trans (shifted others), inside⟩
          case neg =>
              -- the digits that are left only add to what is too much already
              simp only [if_neg fits]
              refine ⟨nofun, ?_⟩
              rintro ⟨digits, small, spelled, isValue, inside⟩
              obtain ⟨others, rfl, -⟩ := exists_cons_of_digitChar isDigit small spelled
              rw [shifted] at isValue
              have grown := Nat.le_mul_of_pos_left (10 * sofar + digit)
                (Nat.pow_pos (n := others.length) (show 0 < 10 by decide))
              omega

/-- What follows a sign, or stands without one, is read if it is a numeral of the range. -/
theorem readUnsigned_eq_ok_iff :
    readUnsigned limit overflow characters = .ok value ↔
      IsNumeral characters value ∧ value ≤ limit := by
  cases characters with
  | nil =>
      refine ⟨nofun, ?_⟩
      rintro ⟨⟨digits, some_digit, -, isNil, -⟩, -⟩
      exact absurd (List.map_eq_nil_iff.mp isNil.symm) some_digit
  | cons character rest =>
      rw [readUnsigned, readDigits_eq_ok_iff (Nat.zero_le limit), IsNumeral]
      · simp only [Nat.mul_zero, Nat.zero_add]
        constructor
        · rintro ⟨digits, small, spelled, isValue, inside⟩
          refine ⟨⟨digits, ?_, small, spelled, isValue⟩, inside⟩
          rintro rfl
          cases spelled
        · rintro ⟨⟨digits, -, small, spelled, isValue⟩, inside⟩
          exact ⟨digits, small, spelled, isValue, inside⟩
      · exact List.cons_ne_nil _ _

/-! ## Signs -/

theorem IsNumeral.ne_nil (isNumeral : IsNumeral characters value) : characters ≠ [] := by
  obtain ⟨digits, some_digit, -, rfl, -⟩ := isNumeral
  exact fun isNil => some_digit (List.map_eq_nil_iff.mp isNil)

/-- No numeral begins with a sign. -/
theorem IsNumeral.ne_sign (isNumeral : IsNumeral (character :: characters) value) :
    character ≠ '+' ∧ character ≠ '-' := by
  obtain ⟨_ | ⟨digit, digits⟩, -, small, spelled, -⟩ := isNumeral
  · cases spelled
  · obtain ⟨rfl, -⟩ := List.cons.inj spelled
    have code := Nat.toNat_digitChar_of_lt_ten (small digit List.mem_cons_self)
    constructor
    · intro isSign
      rw [isSign] at code
      exact absurd code (by have plus : '+'.toNat = 43 := rfl; omega)
    · intro isSign
      rw [isSign] at code
      exact absurd code (by have minus : '-'.toNat = 45 := rfl; omega)

section Signs

variable {text : String} {number : Int}

theorem denotes_iff_of_plus (signed : text.toList = '+' :: characters) :
    Denotes text number ↔ ∃ size : Nat, IsNumeral characters size ∧ number = size := by
  constructor
  · intro denotes
    cases denotes with
    | plain spelled => exact absurd rfl (signed ▸ spelled).ne_sign.1
    | positive signed' spelled =>
        obtain ⟨-, rfl⟩ := List.cons.inj (signed.symm.trans signed')
        exact ⟨_, spelled, rfl⟩
    | negative signed' spelled => cases signed.symm.trans signed'
  · rintro ⟨size, spelled, rfl⟩
    exact .positive signed spelled

theorem denotes_iff_of_minus (signed : text.toList = '-' :: characters) :
    Denotes text number ↔ ∃ size : Nat, IsNumeral characters size ∧ number = -size := by
  constructor
  · intro denotes
    cases denotes with
    | plain spelled => exact absurd rfl (signed ▸ spelled).ne_sign.2
    | positive signed' spelled => cases signed.symm.trans signed'
    | negative signed' spelled =>
        obtain ⟨-, rfl⟩ := List.cons.inj (signed.symm.trans signed')
        exact ⟨_, spelled, rfl⟩
  · rintro ⟨size, spelled, rfl⟩
    exact .negative signed spelled

theorem denotes_iff_of_unsigned (notPlus : ∀ characters, text.toList ≠ '+' :: characters)
    (notMinus : ∀ characters, text.toList ≠ '-' :: characters) :
    Denotes text number ↔ ∃ size : Nat, IsNumeral text.toList size ∧ number = size := by
  constructor
  · intro denotes
    cases denotes with
    | plain spelled => exact ⟨_, spelled, rfl⟩
    | positive signed => exact absurd signed (notPlus _)
    | negative signed => exact absurd signed (notMinus _)
  · rintro ⟨size, spelled, rfl⟩
    exact .plain spelled

theorem map_eq_ok_iff {α β ε : Type} {result : Except ε α} {function : α → β} {last : β} :
    result.map function = .ok last ↔ ∃ first, result = .ok first ∧ function first = last := by
  cases result <;> simp [Except.map]

/-- A text is read as an integer if it is a numeral of it, and the integer is in the range. -/
theorem readInteger_eq_ok_iff :
    readInteger limit text = .ok number ↔
      Denotes text number ∧ -(limit + 1 : Int) ≤ number ∧ number ≤ limit := by
  unfold readInteger
  split
  case h_1 isNil =>
      refine ⟨nofun, fun ⟨denotes, _⟩ => ?_⟩
      cases denotes with
      | plain spelled => exact absurd isNil spelled.ne_nil
      | positive signed | negative signed => cases isNil.symm.trans signed
  case h_2 characters signed =>
      simp only [map_eq_ok_iff, readUnsigned_eq_ok_iff, denotes_iff_of_plus signed,
        Int.ofNat_eq_natCast]
      constructor
      · rintro ⟨size, ⟨spelled, inside⟩, rfl⟩
        exact ⟨⟨size, spelled, rfl⟩, by omega, by omega⟩
      · rintro ⟨⟨size, spelled, rfl⟩, -, inside⟩
        exact ⟨size, ⟨spelled, by omega⟩, rfl⟩
  case h_3 characters signed =>
      rw [map_eq_ok_iff, denotes_iff_of_minus signed]
      constructor
      · rintro ⟨_, read, rfl⟩
        obtain ⟨size, isSize, rfl⟩ := map_eq_ok_iff.mp read
        obtain ⟨spelled, inside⟩ := readUnsigned_eq_ok_iff.mp isSize
        exact ⟨⟨size, spelled, rfl⟩, by omega, by omega⟩
      · rintro ⟨⟨size, spelled, rfl⟩, inside, -⟩
        have isSize : readUnsigned (limit + 1) .tooSmall characters = .ok size :=
          readUnsigned_eq_ok_iff.mpr ⟨spelled, by omega⟩
        exact ⟨size, map_eq_ok_iff.mpr ⟨size, isSize, rfl⟩, rfl⟩
  case h_4 notNil notPlus notMinus =>
      simp only [map_eq_ok_iff, readUnsigned_eq_ok_iff, denotes_iff_of_unsigned notPlus notMinus,
        Int.ofNat_eq_natCast]
      constructor
      · rintro ⟨size, ⟨spelled, inside⟩, rfl⟩
        exact ⟨⟨size, spelled, rfl⟩, by omega, by omega⟩
      · rintro ⟨⟨size, spelled, rfl⟩, -, inside⟩
        exact ⟨size, ⟨spelled, by omega⟩, rfl⟩

/-- A text is a numeral of one integer only. -/
theorem Denotes.unique {other : Int} (one : Denotes text number) (two : Denotes text other) :
    number = other := by
  have first : readInteger (number.natAbs + other.natAbs) text = .ok number :=
    readInteger_eq_ok_iff.mpr ⟨one, by omega, by omega⟩
  have second : readInteger (number.natAbs + other.natAbs) text = .ok other :=
    readInteger_eq_ok_iff.mpr ⟨two, by omega, by omega⟩
  exact Except.ok.inj (first.symm.trans second)

end Signs

end PeerCache.Text
