/-
Module: PeerCache.Program.Squares
Purpose: The group that the program serves: the squares of numbers.
Main exports:
  Squares.groupName, Squares.reply
-/
import PeerCache.Group
import PeerCache.Text.Numeral

/-!
The key is a signed 64-bit number and the value its square, in decimal, which stays
good for a minute.  A key that is no such number makes the load fail.  A number whose
square is too large for 64 bits makes the loader panic.
-/

namespace PeerCache.Squares

/-- The name of the group. -/
def groupName : String := "squares"

/-- The greatest signed 64-bit number. -/
def greatest : Nat := 9223372036854775807

/-- How long a load takes once the key has been read, in milliseconds. -/
def delayMillis : Nat := 500

/-- How long a square stays good, in nanoseconds. -/
def lifetimeNanos : Int := 60 * Instant.nanosPerSecond

/-- The message of a panic over a product that is too large. -/
def overflowMessage : String := "attempt to multiply with overflow"

/-- What a load of a key that ends at `now` comes to. -/
def reply (now : Instant) (key : String) : Reply Chain View :=
  match Text.readInteger greatest key with
  | .error fault => .returned (.error ⟨fault.message, []⟩)
  | .ok number =>
      if number * number ≤ (greatest : Int) then
        .returned (.ok ⟨Bytes.ofString (toString (number * number)),
          some ⟨now.nanos + lifetimeNanos⟩⟩)
      else .panicked overflowMessage

/-- Signs and leading zeros do not matter. -/
example : reply .epoch "-012" =
    .returned (.ok ⟨Bytes.ofString "144", some ⟨60000000000⟩⟩) := by
  rfl

/-- The square of the least number is too large. -/
example : reply .epoch "-9223372036854775808" = .panicked overflowMessage := by
  rfl

end PeerCache.Squares
