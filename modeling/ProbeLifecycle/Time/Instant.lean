/-!
# Instants

The clock for token lifetimes counts nanoseconds from a fixed start and never
goes back.  It can represent seconds up to the largest signed 64-bit number, so
adding a long lifetime may leave its range.
-/

namespace ProbeLifecycle

def nanosecondsPerSecond : Nat := 1000000000

structure Instant where
  nanoseconds : Nat
  deriving DecidableEq, Repr

namespace Instant

/-- Earlier instants have fewer nanoseconds. -/
instance : LT Instant where
  lt first second := first.nanoseconds < second.nanoseconds

/-- Earlier instants have fewer nanoseconds. -/
instance : LE Instant where
  le first second := first.nanoseconds ≤ second.nanoseconds

instance (first second : Instant) : Decidable (first < second) :=
  inferInstanceAs (Decidable (first.nanoseconds < second.nanoseconds))

instance (first second : Instant) : Decidable (first ≤ second) :=
  inferInstanceAs (Decidable (first.nanoseconds ≤ second.nanoseconds))

/-- The largest number of whole seconds that the clock can represent. -/
def largestSeconds : Nat := Nat.pow 2 63 - 1

def after? (start : Instant) (seconds : Nat) : Option Instant :=
  if start.nanoseconds / nanosecondsPerSecond + seconds ≤ largestSeconds then
    some ⟨start.nanoseconds + seconds * nanosecondsPerSecond⟩
  else none

end Instant

end ProbeLifecycle
