/-
Module: PeerCache.Proofs.Peer.ClockTime
Purpose: Expirations as clocks hold them, and that no word overflows on their way to a peer.
Main exports:
  ClockTime, ClockTime.instant, ClockTime.toWord?, ClockTime.ofWord?, ClockTime.toWord?_eq,
  ClockTime.map_ofWord?
-/
import PeerCache.Proofs.Peer.Expiry

/-!
A clock holds an instant in two words: the whole seconds since the epoch, signed, and the
nanoseconds past the last of them.  To write such an instant as an expiration, a machine multiplies
and adds words of 128 bits; to read an expiration, it divides a word of 64 bits and puts the
quotient, as a number of seconds, after the epoch.

These conversions are done here in words, and each operation that can overflow is checked, so that
nothing comes of one that does (`toWord?`, `ofWord?`).  Something always comes of them, for every
second that a signed word can count and for every word of an expiration, and it is the same as in
exact numbers (`Expiration.toNanos`, `Expiration.ofNanos`).
-/

namespace PeerCache

/-- An instant as a clock holds it. -/
structure ClockTime where
  /-- Whole seconds since the epoch, rounded towards the past. -/
  seconds : Int64
  /-- The nanoseconds past the last whole second. -/
  nanos : UInt32
  nanos_lt : nanos.toNat < 1000000000

namespace ClockTime

/-- The instant that a clock holds. -/
def instant (time : ClockTime) : Instant :=
  .ofParts time.seconds.toInt time.nanos.toNat

/-! ## The conversions in words -/

/-- A product of two words, unless it overflows. -/
def product? {width : Nat} (one two : BitVec width) : Option (BitVec width) :=
  if one.umulOverflow two then none else some (one * two)

/-- A sum of two words, unless it overflows. -/
def sum? {width : Nat} (one two : BitVec width) : Option (BitVec width) :=
  if one.uaddOverflow two then none else some (one + two)

/-- The nanoseconds in a number of seconds and nanoseconds, in a word of 128 bits. -/
def wholeNanos? (seconds : UInt64) (nanos : UInt32) : Option (BitVec 128) := do
  let inSeconds ← product? (seconds.toBitVec.setWidth 128) 1000000000#128
  sum? inSeconds (nanos.toBitVec.setWidth 128)

/-- A word of 128 bits as a signed word of 64, the last one of these if it is past it. -/
def clamp (nanos : BitVec 128) : Int64 :=
  if nanos.toNat ≤ Int64.maxValue.toInt.toNat then Int64.ofNat nanos.toNat else Int64.maxValue

/-- The wire word of an expiration.  A time whose seconds are negative is before the epoch, and the
distance from the epoch is that in the words of the clock for all others. -/
def toWord? : Option ClockTime → Option Int64
  | none => some 0
  | some time =>
      if time.seconds < 0 then some 0
      else (wholeNanos? time.seconds.toUInt64 time.nanos).map clamp

/-- The time that many seconds and nanoseconds after the epoch, unless a clock cannot hold it.  As
the epoch is at a whole second, no nanoseconds are carried. -/
def afterEpoch? (seconds : UInt64) (nanos : UInt32) (nanos_lt : nanos.toNat < 1000000000) :
    Option ClockTime :=
  if seconds.toNat ≤ Int64.maxValue.toInt.toNat then
    some ⟨Int64.ofNat seconds.toNat, nanos, nanos_lt⟩
  else none

theorem toNat_rest_lt (nanos : UInt64) :
    (nanos % 1000000000).toUInt32.toNat < 1000000000 := by
  have small := Nat.mod_lt nanos.toNat (show 1000000000 > 0 by decide)
  rw [UInt64.toNat_toUInt32, UInt64.toNat_mod]
  exact Nat.lt_of_le_of_lt (Nat.mod_le _ _) small

/-- The expiration that a wire word stands for; the outer option is empty on an overflow. -/
def ofWord? (word : Int64) : Option (Option ClockTime) :=
  if word ≤ 0 then some none
  else
    let nanos := word.toUInt64
    (afterEpoch? (nanos / 1000000000) (nanos % 1000000000).toUInt32 (toNat_rest_lt nanos)).map some

/-! ## What comes of them -/

/-- A signed word that is not negative is the same number as an unsigned word. -/
theorem toNat_toUInt64 {word : Int64} (positive : 0 ≤ word.toInt) :
    (word.toUInt64.toNat : Int) = word.toInt := by
  have whole : word.toInt = word.toBitVec.toInt := rfl
  have same : word.toUInt64.toNat = word.toBitVec.toNat := rfl
  have bound := word.toBitVec.isLt
  rw [whole, BitVec.toInt_eq_toNat_cond] at positive ⊢
  rw [same]
  split at positive
  case isTrue small => rw [if_pos small]
  case isFalse => omega

theorem product?_eq {width : Nat} {one two : BitVec width}
    (fits : one.toNat * two.toNat < 2 ^ width) :
    ∃ product, product? one two = some product ∧ product.toNat = one.toNat * two.toNat := by
  have noOverflow : ¬ one.umulOverflow two = true := by
    simpa [BitVec.umulOverflow] using fits
  exact ⟨one * two, if_neg noOverflow, BitVec.toNat_mul_of_not_umulOverflow noOverflow⟩

theorem sum?_eq {width : Nat} {one two : BitVec width} (fits : one.toNat + two.toNat < 2 ^ width) :
    ∃ sum, sum? one two = some sum ∧ sum.toNat = one.toNat + two.toNat := by
  have noOverflow : ¬ one.uaddOverflow two = true := by
    simpa [BitVec.uaddOverflow] using fits
  exact ⟨one + two, if_neg noOverflow, BitVec.toNat_add_of_not_uaddOverflow noOverflow⟩

/-- The nanoseconds of any time after the epoch fit in 128 bits. -/
theorem wholeNanos?_eq (seconds : UInt64) (nanos : UInt32) :
    ∃ whole, wholeNanos? seconds nanos = some whole ∧
      whole.toNat = seconds.toNat * 1000000000 + nanos.toNat := by
  have secondsFit := seconds.toNat_lt
  have nanosFit := nanos.toNat_lt
  have wide : (seconds.toBitVec.setWidth 128).toNat = seconds.toNat := by
    rw [BitVec.toNat_setWidth]
    exact Nat.mod_eq_of_lt (Nat.lt_trans secondsFit (by decide))
  have wideNanos : (nanos.toBitVec.setWidth 128).toNat = nanos.toNat := by
    rw [BitVec.toNat_setWidth]
    exact Nat.mod_eq_of_lt (Nat.lt_trans nanosFit (by decide))
  have billion : (1000000000#128).toNat = 1000000000 := by decide
  obtain ⟨inSeconds, isProduct, productIs⟩ :=
    product?_eq (show (seconds.toBitVec.setWidth 128).toNat * (1000000000#128).toNat < 2 ^ 128 by
      rw [wide, billion]
      omega)
  rw [wide, billion] at productIs
  obtain ⟨whole, isSum, sumIs⟩ :=
    sum?_eq (show inSeconds.toNat + (nanos.toBitVec.setWidth 128).toNat < 2 ^ 128 by
      rw [productIs, wideNanos]
      omega)
  rw [productIs, wideNanos] at sumIs
  refine ⟨whole, ?_, sumIs⟩
  rw [wholeNanos?, isProduct]
  exact isSum

theorem toInt_clamp (nanos : BitVec 128) :
    (clamp nanos).toInt = min (nanos.toNat : Int) Expiration.lastNanos := by
  have last : Int64.maxValue.toInt = Expiration.lastNanos := by decide
  unfold clamp
  rw [last]
  split
  case isTrue small =>
      rw [Expiration.lastNanos] at small ⊢
      rw [Int64.toInt_ofNat_of_lt (by omega)]
      omega
  case isFalse large =>
      rw [last]
      rw [Expiration.lastNanos] at large ⊢
      omega

/-- No word overflows when an expiration is written. -/
theorem toWord?_eq (expire : Option ClockTime) :
    toWord? expire = some (Expiration.toNanos (expire.map instant)) := by
  cases expire with
  | none => rfl
  | some time =>
      obtain ⟨seconds, nanos, nanos_lt⟩ := time
      have written := Expiration.toInt_toNanos_some (instant ⟨seconds, nanos, nanos_lt⟩)
      have whole : (instant ⟨seconds, nanos, nanos_lt⟩).nanos =
          seconds.toInt * 1000000000 + nanos.toNat := rfl
      rw [whole] at written
      simp only [toWord?, Option.map_some]
      split
      case isTrue before =>
          rw [Int64.lt_iff_toInt_lt, Int64.toInt_zero] at before
          rw [Option.some.injEq, ← Int64.toInt_inj, written, Int64.toInt_zero]
          omega
      case isFalse reached =>
          rw [Int64.lt_iff_toInt_lt, Int64.toInt_zero] at reached
          have counted := toNat_toUInt64 (Int.not_lt.mp reached)
          obtain ⟨distance, fits, isDistance⟩ := wholeNanos?_eq seconds.toUInt64 nanos
          rw [fits, Option.map_some, Option.some.injEq, ← Int64.toInt_inj, toInt_clamp, written,
            isDistance, Expiration.lastNanos]
          omega

/-- No word overflows when an expiration is read. -/
theorem map_ofWord? (word : Int64) :
    (ofWord? word).map (Option.map instant) = some (Expiration.ofNanos word) := by
  unfold ofWord? Expiration.ofNanos
  split
  case isTrue => rfl
  case isFalse positive =>
      rw [Int64.le_iff_toInt_le, Int64.toInt_zero] at positive
      have counted := toNat_toUInt64 (Int.le_of_lt (Int.not_le.mp positive))
      have bound := word.toInt_lt
      have seconds : (word.toUInt64 / 1000000000).toNat = word.toUInt64.toNat / 1000000000 :=
        UInt64.toNat_div _ _
      have rest : (word.toUInt64 % 1000000000).toUInt32.toNat =
          word.toUInt64.toNat % 1000000000 := by
        rw [UInt64.toNat_toUInt32, UInt64.toNat_mod]
        change word.toUInt64.toNat % 1000000000 % 2 ^ 32 = _
        omega
      have holds : (word.toUInt64 / 1000000000).toNat ≤ Int64.maxValue.toInt.toNat := by
        have last : Int64.maxValue.toInt.toNat = 9223372036854775807 := by decide
        omega
      have signed : (Int64.ofNat (word.toUInt64 / 1000000000).toNat).toInt =
          (word.toUInt64.toNat / 1000000000 : Nat) := by
        rw [seconds, Int64.toInt_ofNat_of_lt (by omega)]
      simp only [afterEpoch?, if_pos holds, Option.map_some, instant, Instant.ofParts, signed, rest,
        Instant.nanosPerSecond, Option.some.injEq, Instant.mk.injEq]
      omega

end ClockTime

end PeerCache
