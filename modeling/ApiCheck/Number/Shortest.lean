import ApiCheck.Number.Double

/-!
# The shortest decimal of a double

`shortest x` is the decimal `digits · 10 ^ exponent` with the fewest digits among those that round
to the magnitude of `x`; of two such decimals it is the nearer one, and the greater one if both
are equally near.  `Double.text` writes a double with these digits in positional notation: no
exponent, no trailing zeros, no decimal point in a whole number.

The decimals that round to `x` form an interval, whose ends belong to it exactly when the
significand of `x` is even.  On the grid of the decimals with a given number of digits only the
two neighbours of `x` have to be tested: if any point of the grid lies in the interval, one of
them does.
-/

namespace ApiCheck

namespace FiniteDouble

/-! ### The interval of a double -/

/-- The ends of the interval that rounds to the magnitude of `x`, in quarters of its spacing. -/
def quarters (x : FiniteDouble) : Nat × Nat :=
  let m := x.significand
  (if m = 2 ^ 52 then 4 * m - 1 else 4 * m - 2, 4 * m + 2)

/-- Whether `digits · 10 ^ exponent` rounds to the magnitude of `x`. -/
def covers (x : FiniteDouble) (digits : Nat) (exponent : Int) : Bool :=
  let e := x.exponent - 2
  let decimal := digits * 10 ^ exponent.toNat * 2 ^ (-e).toNat
  let scale := 10 ^ (-exponent).toNat * 2 ^ e.toNat
  let lower := x.quarters.1 * scale
  let upper := x.quarters.2 * scale
  if x.significand % 2 == 0 then lower ≤ decimal && decimal ≤ upper
  else lower < decimal && decimal < upper

/-! ### The search -/

/-- The number of digits of a positive number before its decimal point, less those zeros that
follow the point: the exponent `k` with `10 ^ (k - 1) ≤ num / den < 10 ^ k`. -/
def magnitudeOfRatio (num den : Nat) : Int :=
  let k : Int := ((Nat.toDigits 10 num).length : Int) - ((Nat.toDigits 10 den).length : Int)
  if den * 10 ^ k.toNat ≤ num * 10 ^ (-k).toNat then k + 1 else k

/-- The better of the two neighbours of `x` among the multiples of `10 ^ exponent`, if one of them
rounds to `x`. -/
def candidate (x : FiniteDouble) (exponent : Int) : Option Nat :=
  let (num, den) := x.ratio
  let num' := num * 10 ^ (-exponent).toNat
  let den' := den * 10 ^ exponent.toNat
  let below := num' / den'
  let nearerBelow := 2 * (num' % den') < den'
  match x.covers below exponent, x.covers (below + 1) exponent with
  | true, true => some (if nearerBelow then below else below + 1)
  | true, false => some below
  | false, true => some (below + 1)
  | false, false => none

/-- The first hit of `candidate` on the grids of `count`, `count + 1`, … digits. -/
def search (x : FiniteDouble) (magnitude : Int) : (tries count : Nat) → Option (Nat × Int)
  | 0, _ => none
  | tries + 1, count =>
    let exponent := magnitude - count
    match x.candidate exponent with
    | some digits => some (digits, exponent)
    | none => x.search magnitude tries (count + 1)

/-- A decimal without the zeros that end its digits. -/
def stripZeros : (tries digits : Nat) → Int → Nat × Int
  | 0, digits, exponent => (digits, exponent)
  | tries + 1, digits, exponent =>
    if digits % 10 == 0 && digits != 0 then stripZeros tries (digits / 10) (exponent + 1)
    else (digits, exponent)

/-- The shortest decimal that rounds to the magnitude of `x`, as digits and an exponent of ten. -/
def shortest (x : FiniteDouble) : Nat × Int :=
  if x.isZero then (0, 0)
  else
    let (num, den) := x.ratio
    match x.search (magnitudeOfRatio num den) 17 1 with
    | some (digits, exponent) => stripZeros 18 digits exponent
    | none => (0, 0)

/-! ### The text -/

/-- The decimal `digits · 10 ^ exponent` in positional notation. -/
def positional (digits : Nat) (exponent : Int) : List Char :=
  let ds := Nat.toDigits 10 digits
  if 0 ≤ exponent then ds ++ List.replicate exponent.toNat '0'
  else
    let places := (-exponent).toNat
    if places < ds.length then
      ds.take (ds.length - places) ++ '.' :: ds.drop (ds.length - places)
    else
      '0' :: '.' :: (List.replicate (places - ds.length) '0' ++ ds)

/-- The text of a finite double. -/
def chars (x : FiniteDouble) : List Char :=
  let (digits, exponent) := x.shortest
  let body := if digits = 0 then ['0'] else positional digits exponent
  if x.negative then '-' :: body else body

/-- The text of a finite double, as a string. -/
def text (x : FiniteDouble) : String :=
  String.ofList x.chars

end FiniteDouble

/-- The text of a double. -/
def Double.text : Double → String
  | .finite x => x.text
  | .infinite negative => if negative then "-inf" else "inf"
  | .nan => "NaN"

end ApiCheck
