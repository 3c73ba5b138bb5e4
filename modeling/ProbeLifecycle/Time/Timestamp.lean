import ProbeLifecycle.Time.Calendar
import ProbeLifecycle.Time.Instant

/-!
# Points in time

A point in time is a day, a second of the day and nanoseconds in that second.
A leap second is the second before it, with more nanoseconds than a second
has.  The time from one point to another counts a leap second at the earlier
point if the later one is in another second, and does not count the second that
a later leap second only extends.
-/

namespace ProbeLifecycle

/-- The number of seconds in a day without leap seconds. -/
def Timestamp.secondsPerDay : Nat := 86400

/-- A point in time, in universal time. -/
structure Timestamp where
  day : Int
  second : Nat
  nanosecond : Nat
  second_lt : second < Timestamp.secondsPerDay
  deriving DecidableEq, Repr

namespace Timestamp

def isLeap (time : Timestamp) : Bool :=
  nanosecondsPerSecond ≤ time.nanosecond

/-- The correction, in seconds, for leap seconds at either end. -/
def leapCorrection (later earlier : Timestamp) : Int :=
  if earlier.second < later.second ∧ earlier.isLeap then 1
  else if later.second < earlier.second ∧ later.isLeap then -1
  else 0

/-- The nanoseconds from one point to another, negative if they are in the
other order. -/
def since (later earlier : Timestamp) : Int :=
  let seconds : Int :=
    (later.day - earlier.day) * secondsPerDay +
      ((later.second : Int) - earlier.second) + leapCorrection later earlier
  seconds * nanosecondsPerSecond +
    ((later.nanosecond : Int) - earlier.nanosecond)

/-- The nanoseconds that have passed since a point; none if it lies ahead. -/
def elapsed (now requestedAt : Timestamp) : Nat :=
  (now.since requestedAt).toNat

/-- The same point, given in a time that runs ahead of universal time by an
offset in seconds. -/
def ofLocal (day second nanosecond : Nat) (offset : Int) : Timestamp :=
  let universal : Int := (second : Int) - offset
  { day := day + universal / secondsPerDay
    second := (universal % secondsPerDay).toNat
    nanosecond
    second_lt := by
      unfold secondsPerDay
      omega }

end Timestamp

end ProbeLifecycle
