/-
Module: PeerCache.Text.CodeRange
Purpose: Sets and tables of characters, as ranges of their codes.
Main exports:
  covers, valueIn?
-/

/-!
A property of characters is written as the closed ranges of the codes that have it, in
increasing order; a range in a table carries the value that its characters share.
-/

namespace PeerCache.Text

/-- Whether a range holds a character. -/
def covers (ranges : List (Nat × Nat)) (character : Char) : Bool :=
  ranges.any fun (first, last) => first ≤ character.toNat && character.toNat ≤ last

/-- The value of the first range that holds a character. -/
def valueIn? {α : Type} (table : List (Nat × Nat × α)) (character : Char) : Option α :=
  (table.find? fun (first, last, _) => first ≤ character.toNat && character.toNat ≤ last).map
    fun (_, _, value) => value

/-- A character is covered just if it lies in one of the ranges. -/
theorem covers_iff (ranges : List (Nat × Nat)) (character : Char) :
    covers ranges character = true ↔
      ∃ range ∈ ranges, range.1 ≤ character.toNat ∧ character.toNat ≤ range.2 := by
  simp [covers]

end PeerCache.Text
