import ApiCheck.Json.Basic
import ApiCheck.Number.Reading

/-!
# JSON numerals

A numeral is a whole number without superfluous zeros, with an optional minus sign, fraction and
exponent.  Without fraction and exponent it is an integer, as long as it fits into 64 bits;
a minus sign before zero makes a double, since no integer holds it.

Every other numeral is a double.  Its leading digits, as many as fit into 64 bits, are read as a
whole number and rounded to a double, which is then multiplied or divided by the double nearest to
the power of ten that is left (`scale`).  Whole digits that no longer fit raise that power, digits
of the fraction that no longer fit are dropped.  A numeral beyond the greatest double is refused.
-/

namespace ApiCheck.Json

/-! ### Digits in 64 bits -/

/-- Appends digits while the number fits into 64 bits.  Returns the number, how many digits were
taken and how many were not. -/
def absorb : (significand taken : Nat) → List Char → Nat × Nat × Nat
  | significand, taken, [] => (significand, taken, 0)
  | significand, taken, c :: cs =>
    let next := 10 * significand + (digitValue? c).getD 0
    if next < 2 ^ 64 then absorb next (taken + 1) cs
    else (significand, taken, (c :: cs).length)

/-! ### Powers of ten -/

/-- The double nearest to a power of ten. -/
def powerOfTen (n : Nat) : FiniteDouble :=
  (Double.ofRatio false (10 ^ n) 1).finite?.getD default

/-- `x` divided by `10 ^ 308` and by what is left of the power, `turns + 1` divisions at most. -/
def scaleDown : (turns : Nat) → FiniteDouble → Nat → Option FiniteDouble
  | 0, x, n => (x.div (powerOfTen n)).finite?
  | turns + 1, x, n =>
    if n ≤ 308 then (x.div (powerOfTen n)).finite?
    else if x.isZero then some x
    else (x.div (powerOfTen 308)).finite? >>= fun y => scaleDown turns y (n - 308)

/-- `x · 10 ^ exponent`, rounded after each step; nothing beyond the greatest double. -/
def scale (x : FiniteDouble) (exponent : Int) : Option FiniteDouble :=
  if 0 ≤ exponent then
    if exponent ≤ 308 then (x.mul (powerOfTen exponent.toNat)).finite?
    else if x.isZero then some x
    else none
  else scaleDown (exponent.natAbs / 308) x exponent.natAbs

/-! ### Numerals -/

/-- The parts of a numeral. -/
structure Numeral where
  negative : Bool
  whole : List Char
  /-- The digits after the point, if there is a point. -/
  fraction : Option (List Char)
  /-- The sign and the digits of the exponent, if there is one. -/
  exponent : Option (Bool × List Char)

namespace Numeral

/-- The parts of a text that is a numeral and nothing else. -/
def ofChars? (cs : List Char) : Option Numeral :=
  let (negative, unsigned) :=
    match cs with
    | '-' :: rest => (true, rest)
    | _ => (false, cs)
  let whole := unsigned.takeWhile isDigit
  let (fraction, afterFraction) :=
    match unsigned.dropWhile isDigit with
    | '.' :: rest => (some (rest.takeWhile isDigit), rest.dropWhile isDigit)
    | rest => (none, rest)
  let exponent : Option (Option (Bool × List Char)) :=
    match afterFraction with
    | [] => some none
    | mark :: rest =>
      if mark = 'e' ∨ mark = 'E' then
        match rest with
        | '-' :: ds => some (some (true, ds))
        | '+' :: ds => some (some (false, ds))
        | ds => some (some (false, ds))
      else none
  let wholeIsValid := !whole.isEmpty && (whole.head? != some '0' || whole.length == 1)
  let fractionIsValid := fraction.all fun ds => !ds.isEmpty
  match exponent with
  | none => none
  | some exponent =>
    let exponentIsValid := exponent.all fun (_, ds) => !ds.isEmpty && ds.all isDigit
    if wholeIsValid && fractionIsValid && exponentIsValid then
      some ⟨negative, whole, fraction, exponent⟩
    else none

/-- The double that a numeral denotes. -/
def real? (n : Numeral) : Option FiniteDouble :=
  let (leading, _, wholeLeft) := absorb 0 0 n.whole
  let (significand, taken, _) := absorb leading 0 (n.fraction.getD [])
  let start : Int := wholeLeft - taken
  let magnitude :=
    match n.exponent with
    | none => (Double.ofInt significand).finite? >>= fun x => scale x start
    | some (down, ds) =>
      let e := digitsValue ds
      if e < 2 ^ 31 then
        (Double.ofInt significand).finite? >>= fun x => scale x (if down then start - e else start + e)
      else if significand ≠ 0 ∧ !down then none
      else some (.zero false)
  magnitude.map fun x => { x with negative := n.negative }

/-- The number that a numeral denotes. -/
def number? (n : Numeral) : Option Number :=
  if n.fraction.isNone && n.exponent.isNone then
    let value := digitsValue n.whole
    if !n.negative && value < 2 ^ 64 then some (.integer value)
    else if n.negative && 0 < value && value ≤ 2 ^ 63 then some (.integer (-(value : Int)))
    else n.real?.map .real
  else n.real?.map .real

end Numeral

end ApiCheck.Json
