import ApiCheck.Time.Calendar

/-!
# Instants

An instant is a day, a second of that day and the nanoseconds since that second.  During a leap
second the nanoseconds run on past a full second.  The days of an instant lie in the years
`-262143` to `262142`.

The distance of two instants is exact to the nanosecond.  It counts a leap second of the instant
that has the earlier second of its day.
-/

namespace ApiCheck.Time

/-- The first year of an instant. -/
def minYear : Int := -262143

/-- The last year of an instant. -/
def maxYear : Int := 262142

/-- The first day of an instant. -/
def minDay : Int := dayNumber minYear 1 1

/-- The last day of an instant. -/
def maxDay : Int := dayNumber maxYear 12 31

/-- A point in time. -/
structure Instant where
  /-- The days since the first of January 1970. -/
  day : Int
  /-- The seconds since the day began. -/
  second : Nat
  /-- The nanoseconds since that second; more than a second of them in a leap second. -/
  nano : Nat
deriving DecidableEq

namespace Instant

/-- The instant of a day and a second, where its day is in range. -/
def ofDay? (day : Int) (second nano : Nat) : Option Instant :=
  if minDay ≤ day ∧ day ≤ maxDay then some ⟨day, second, nano⟩ else none

/-- The instant some seconds and nanoseconds after the first of January 1970. -/
def ofSeconds? (seconds : Int) (nano : Nat) : Option Instant :=
  ofDay? (Int.fdiv seconds 86400) (Int.fmod seconds 86400).toNat nano

/-- The instant some milliseconds after the first of January 1970. -/
def ofMillis? (ms : Int) : Option Instant :=
  ofSeconds? (Int.fdiv ms 1000) ((Int.fmod ms 1000).toNat * 1000000)

/-- The instant some microseconds after the first of January 1970. -/
def ofMicros? (us : Int) : Option Instant :=
  ofSeconds? (Int.fdiv us 1000000) ((Int.fmod us 1000000).toNat * 1000)

/-- The time from `b` to `a` in nanoseconds. -/
def since (a b : Instant) : Int :=
  let leap : Int :=
    if b.second < a.second then (if 1000000000 ≤ b.nano then 1 else 0)
    else if a.second < b.second then (if 1000000000 ≤ a.nano then -1 else 0)
    else 0
  ((a.day - b.day) * 86400 + (a.second - b.second) + leap) * 1000000000 + (a.nano - b.nano)

/-- The distance of two instants in nanoseconds. -/
def distance (a b : Instant) : Nat :=
  (a.since b).natAbs

end Instant

end ApiCheck.Time
