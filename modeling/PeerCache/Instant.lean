/-
Module: PeerCache.Instant
Purpose: Points in time, and the signed nanosecond word in which an expiration travels.
Main exports:
  Instant, Instant.ofParts, Instant.seconds, Instant.subsecondNanos,
  Expiration.toNanos, Expiration.ofNanos
-/

/-!
An instant is a whole number of nanoseconds after the epoch, negative before it.  An
expiration is an optional instant.  On the wire it is one signed 64-bit word in which
zero means "never expires"; so an instant at or before the epoch cannot be written
and becomes "never", and one past the last word becomes the last word.
-/

namespace PeerCache

/-- A point in time, in nanoseconds since the epoch. -/
structure Instant where
  nanos : Int
deriving Repr, DecidableEq, Inhabited

namespace Instant

/-- The nanoseconds of one second. -/
def nanosPerSecond : Int := 1000000000

/-- The instant that many seconds and nanoseconds after the epoch. -/
def ofParts (seconds nanos : Int) : Instant :=
  ⟨seconds * nanosPerSecond + nanos⟩

/-- Whole seconds since the epoch, rounded towards the past. -/
def seconds (instant : Instant) : Int :=
  instant.nanos / nanosPerSecond

/-- The nanoseconds past the last whole second. -/
def subsecondNanos (instant : Instant) : Int :=
  instant.nanos % nanosPerSecond

instance : LE Instant := ⟨fun first second => first.nanos ≤ second.nanos⟩
instance : LT Instant := ⟨fun first second => first.nanos < second.nanos⟩

instance (first second : Instant) : Decidable (first ≤ second) :=
  inferInstanceAs (Decidable (first.nanos ≤ second.nanos))

instance (first second : Instant) : Decidable (first < second) :=
  inferInstanceAs (Decidable (first.nanos < second.nanos))

/-- The epoch itself. -/
def epoch : Instant := ⟨0⟩

/-- The earlier of two instants; the first of two equal ones. -/
def earlier (first second : Instant) : Instant :=
  if first ≤ second then first else second

theorem ofParts_seconds_subsecondNanos (instant : Instant) :
    ofParts instant.seconds instant.subsecondNanos = instant := by
  cases instant with
  | mk nanos => simp only [ofParts, seconds, subsecondNanos, nanosPerSecond, mk.injEq]; omega

end Instant

namespace Expiration

/-- The last word an expiration can be written as. -/
def lastNanos : Int := 9223372036854775807

/-- The wire word of an expiration: zero for none and for every instant before the
epoch, and the last word for an instant past it. -/
def toNanos : Option Instant → Int64
  | none => 0
  | some instant =>
      if instant.nanos < 0 then 0 else Int64.ofInt (min instant.nanos lastNanos)

/-- The expiration that a wire word stands for: none unless it is positive. -/
def ofNanos (word : Int64) : Option Instant :=
  if word ≤ 0 then none else some ⟨word.toInt⟩

end Expiration

end PeerCache
