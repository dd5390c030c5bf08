/-!
# Double-precision numbers

A finite double is a sign and the rank of its magnitude: the magnitudes that a double can hold,
counted upward from zero, have the ranks `0` to `2047 · 2 ^ 52 - 1`.  Every run of `2 ^ 52` ranks
shares one spacing, so the rank gives the magnitude as `significand · 2 ^ exponent` with little
arithmetic, two magnitudes compare as their ranks do, and rounding a ratio of natural numbers is
one division (`rankOfRatio`).  All of it is exact arithmetic on natural numbers and integers.

`Double` adds the two infinities and the value that is no number.
-/

namespace ApiCheck

-- A power is the core library's, also where a module has another one in scope.
attribute [instance (high), default_instance (high + 1)] instPowNat

/-! ### The type -/

/-- A finite double: a sign and the rank of its magnitude. -/
structure FiniteDouble where
  /-- Whether the number carries a minus sign; zero may carry one too. -/
  negative : Bool
  /-- The number of smaller magnitudes. -/
  rank : Nat
  /-- The magnitude lies below the infinite one. -/
  rank_lt : rank < 2047 * 2 ^ 52
deriving DecidableEq

/-- A double: finite, infinite or no number. -/
inductive Double where
  | finite (x : FiniteDouble)
  | infinite (negative : Bool)
  | nan
deriving DecidableEq

namespace FiniteDouble

/-- Zero with a sign. -/
def zero (negative : Bool) : FiniteDouble :=
  ⟨negative, 0, by decide⟩

instance : Inhabited FiniteDouble := ⟨zero false⟩

/-- The whole number that the power `2 ^ exponent` multiplies. -/
def significand (x : FiniteDouble) : Nat :=
  if x.rank < 2 ^ 52 then x.rank else 2 ^ 52 + x.rank % 2 ^ 52

/-- The exponent of two by which the significand is scaled. -/
def exponent (x : FiniteDouble) : Int :=
  if x.rank < 2 ^ 52 then -1074 else (x.rank / 2 ^ 52 : Nat) - 1075

/-- The magnitude as a numerator over a denominator. -/
def ratio (x : FiniteDouble) : Nat × Nat :=
  (x.significand * 2 ^ x.exponent.toNat, 2 ^ (-x.exponent).toNat)

/-- The place of a finite double among all, both zeros at `0`. -/
def place (x : FiniteDouble) : Int :=
  if x.negative then -x.rank else x.rank

/-- Whether the number is zero, of either sign. -/
def isZero (x : FiniteDouble) : Bool :=
  x.rank == 0

/-- The number with the other sign. -/
def neg (x : FiniteDouble) : FiniteDouble :=
  { x with negative := !x.negative }

end FiniteDouble

/-! ### Rounding -/

namespace Double

/-- The quotient `num / den` rounded to the nearest whole number, ties to the even one. -/
def roundQuotient (num den : Nat) : Nat :=
  let q := num / den
  let r := num % den
  if 2 * r > den || (2 * r == den && q % 2 == 1) then q + 1 else q

/-- The exponent `e` with `2 ^ e ≤ num / den < 2 ^ (e + 1)`. -/
def floorLog2 (num den : Nat) : Int :=
  let e : Int := (num.log2 : Int) - (den.log2 : Int)
  if den * 2 ^ e.toNat ≤ num * 2 ^ (-e).toNat then e else e - 1

/-- The rank nearest to `num / den`, ties to the even one; `2047 · 2 ^ 52` and more lie beyond the
finite magnitudes. -/
def rankOfRatio (num den : Nat) : Nat :=
  if num = 0 then 0
  else
    let exponent := max (floorLog2 num den - 52) (-1074)
    let significand :=
      roundQuotient (num * 2 ^ (-exponent).toNat) (den * 2 ^ exponent.toNat)
    (exponent + 1074).toNat * 2 ^ 52 + significand

/-- The double of a rank, infinite from `2047 · 2 ^ 52` on. -/
def ofRank (negative : Bool) (rank : Nat) : Double :=
  if h : rank < 2047 * 2 ^ 52 then .finite ⟨negative, rank, h⟩ else .infinite negative

/-- The double nearest to `± num / den`. -/
def ofRatio (negative : Bool) (num den : Nat) : Double :=
  ofRank negative (rankOfRatio num den)

/-- The double nearest to an integer. -/
def ofInt (n : Int) : Double :=
  ofRatio (n < 0) n.natAbs 1

/-! ### Comparison -/

/-- Whether two doubles are numerically equal: the zeros are, and nothing equals `nan`. -/
def numEq : Double → Double → Bool
  | .finite x, .finite y => x.place == y.place
  | .infinite s, .infinite t => s == t
  | _, _ => false

/-- Whether the first double is numerically less than the second. -/
def numLt : Double → Double → Bool
  | .finite x, .finite y => x.place < y.place
  | .finite _, .infinite t => !t
  | .infinite s, .finite _ => s
  | .infinite s, .infinite t => s && !t
  | _, _ => false

/-- The finite double, when there is one. -/
def finite? : Double → Option FiniteDouble
  | .finite x => some x
  | _ => none

end Double

/-! ### Products and quotients -/

namespace FiniteDouble

/-- The product of two finite doubles, rounded to nearest. -/
def mul (x y : FiniteDouble) : Double :=
  Double.ofRatio (x.negative != y.negative) (x.ratio.1 * y.ratio.1) (x.ratio.2 * y.ratio.2)

/-- The quotient of two finite doubles, the second not zero, rounded to nearest. -/
def div (x y : FiniteDouble) : Double :=
  Double.ofRatio (x.negative != y.negative) (x.ratio.1 * y.ratio.2) (x.ratio.2 * y.ratio.1)

/-- The number rounded to the nearest integer, a half away from zero. -/
def roundAway (x : FiniteDouble) : Int :=
  let (num, den) := x.ratio
  let magnitude := (2 * num + den) / (2 * den)
  if x.negative then -magnitude else magnitude

end FiniteDouble

end ApiCheck
