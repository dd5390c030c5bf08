import ApiCheck.Operand
import ApiCheck.Time.Layout

/-!
# Timestamps

An operand is a timestamp when it is a text in a known layout, or a number of milliseconds since the
first of January 1970.  Milliseconds that are no integer of 64 bits are rounded to microseconds, and
must not lie further from that day than a date may.
-/

namespace ApiCheck.Time

/-- The greatest distance in milliseconds of a date that is not given as an integer. -/
def maxEpochMs : Nat := 8640000000000000

/-- The instant of a number of milliseconds that may have a fraction. -/
def ofFractionalMillis? (x : FiniteDouble) : Option Instant :=
  if x.ratio.2 * maxEpochMs < x.ratio.1 then none
  else
    match x.mul ((Double.ofInt 1000).finite?.getD default) with
    | .finite y => Instant.ofMicros? y.roundAway
    | _ => none

/-- The instant of a number of milliseconds. -/
def ofNumber? : Number → Option Instant
  | .integer n =>
    if n < 2 ^ 63 then Instant.ofMillis? n
    else (Double.ofInt n).finite? >>= ofFractionalMillis?
  | .real x => ofFractionalMillis? x

/-- The instant that an operand denotes. -/
def ofOperand? : Operand → Option Instant
  | .json (.string s) => parse? s
  | .json (.number n) => ofNumber? n
  | _ => none

end ApiCheck.Time
