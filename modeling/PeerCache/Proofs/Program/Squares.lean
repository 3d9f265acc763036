/-
Module: PeerCache.Proofs.Program.Squares
Purpose: What a load of a square comes to, for every key.
Main exports:
  Squares.IsSquareOf, Squares.IsNoNumber, Squares.IsTooLarge, Squares.isTooLarge_iff,
  Squares.ComesTo, Squares.reply_cases, Squares.brings_reply
-/
import PeerCache.Program.Squares
import PeerCache.Proofs.Group.Results
import PeerCache.Proofs.Text.Numerals

/-!
A key is one of three things: a numeral of a signed 64-bit number whose square is one too, a numeral
of one whose square is too large, or no numeral of such a number.  The loader gives the square of
the first, panics over the second, and fails with the fault of the third (`Squares.reply_cases`).
-/

namespace PeerCache.Squares

open Text (Denotes)

/-- The number is a signed one of 64 bits. -/
def IsSigned (number : Int) : Prop :=
  -(greatest + 1 : Int) ≤ number ∧ number ≤ greatest

/-- The view shows, in decimal, the square of the number that the key is a numeral of. -/
def IsSquareOf (key : String) (view : View) : Prop :=
  ∃ number, Denotes key number ∧ IsSigned number ∧ number * number ≤ greatest ∧
    view.value = Bytes.ofString (toString (number * number))

/-- The key is a numeral of no signed 64-bit number, and this is what is wrong with it. -/
def IsNoNumber (key : String) (fault : Text.NumeralError) : Prop :=
  (∀ number, Denotes key number → ¬ IsSigned number) ∧ Text.readInteger greatest key = .error fault

/-- The key is a numeral of a signed 64-bit number, and its square is none. -/
def IsTooLarge (key : String) : Prop :=
  ∃ number, Denotes key number ∧ IsSigned number ∧ greatest < number * number

/-- The squares that are too large are those of the numbers from this one on, of either sign. -/
theorem isTooLarge_iff {key : String} :
    IsTooLarge key ↔
      ∃ number, Denotes key number ∧ IsSigned number ∧ 3037000500 ≤ number.natAbs := by
  have bound (number : Int) : (greatest : Int) < number * number ↔ 3037000500 ≤ number.natAbs := by
    rw [← Int.natAbs_mul_self, Int.ofNat_lt]
    constructor
    · intro large
      by_contra small
      have atMost : number.natAbs ≤ 3037000499 := by omega
      exact absurd large (Nat.not_lt.mpr (Nat.mul_le_mul atMost atMost |>.trans (by decide)))
    · intro atLeast
      exact Nat.lt_of_lt_of_le (by decide) (Nat.mul_le_mul atLeast atLeast)
  simp only [IsTooLarge, bound]

/-- What a read of a key comes to, where peers may tell these views for their keys. -/
inductive ComesTo (told : String → View → Prop) (key : String) : Result View → Prop where
  | square {view : View} (isSquare : IsSquareOf key view) : ComesTo told key (.ok view)
  | noNumber {fault : Text.NumeralError} (isNone : IsNoNumber key fault) :
      ComesTo told key (.error (.load ⟨fault.message, []⟩))
  | tooLarge (large : IsTooLarge key) : ComesTo told key (.error .leaderFailed)
  | told {view : View} (isTold : told key view) : ComesTo told key (.ok view)

variable {key : String} {now : Instant} {told : String → View → Prop}

/-- What the loader replies, for every key. -/
theorem reply_cases (now : Instant) (key : String) :
    (∃ view, IsSquareOf key view ∧ view.expire = some ⟨now.nanos + lifetimeNanos⟩ ∧
      reply now key = .returned (.ok view)) ∨
    (∃ fault, IsNoNumber key fault ∧
      reply now key = .returned (.error ⟨fault.message, []⟩)) ∨
    IsTooLarge key ∧ reply now key = .panicked overflowMessage := by
  unfold reply
  cases read : Text.readInteger greatest key with
  | error fault =>
      refine Or.inr (Or.inl ⟨fault, ⟨?_, read⟩, rfl⟩)
      intro number denotes isSigned
      have isRead := Text.readInteger_eq_ok_iff.mpr ⟨denotes, isSigned⟩
      rw [read] at isRead
      cases isRead
  | ok number =>
      obtain ⟨denotes, isSigned⟩ := Text.readInteger_eq_ok_iff.mp read
      dsimp only
      split
      case isTrue fits => exact Or.inl ⟨_, ⟨number, denotes, isSigned, fits, rfl⟩, rfl, rfl⟩
      case isFalse large =>
          exact Or.inr (Or.inr ⟨⟨number, denotes, isSigned, Int.not_le.mp large⟩, rfl⟩)

/-- A load brings what its key comes to. -/
theorem brings_reply (told : String → View → Prop) (caller : Nat) (now : Instant) (key : String) :
    (Group.Move.loaderReplied caller (reply now key)).Brings (ComesTo told key) := by
  rcases reply_cases now key with ⟨view, isSquare, -, replied⟩ | ⟨fault, isNone, replied⟩ |
    ⟨large, replied⟩
  · rw [replied]
    exact .of_some rfl rfl (.square isSquare)
  · rw [replied]
    exact .of_some rfl rfl (.noNumber isNone)
  · rw [replied]
    refine ⟨?_, fun _ => .tooLarge large⟩
    intro _ given
    cases given

end PeerCache.Squares
