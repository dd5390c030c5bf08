import ApiCheck.Number.Double

/-!
# Reading numbers

Numbers are read from a whole text, nothing before or after them.

* `readUnsigned` reads a whole number up to a limit: ASCII digits after an optional `+`.  It says
  why it refuses a text, and names the first cause from left to right (`IntegerError`).
* `readSigned64` reads a whole number of 64 bits with an optional sign.
* `readDouble` reads a decimal with an optional sign, point and exponent, or the words `inf`,
  `infinity` and `nan` in any case.  The result is the double nearest to the decimal.
-/

namespace ApiCheck

/-! ### Whole numbers -/

/-- Why a text is not a whole number in range. -/
inductive IntegerError where
  /-- There is no character. -/
  | empty
  /-- A character is no ASCII digit, or there is a sign alone. -/
  | invalidDigit
  /-- The number exceeds the limit. -/
  | tooLarge
deriving DecidableEq

/-- The wording of a cause. -/
def IntegerError.message : IntegerError → String
  | .empty => "cannot parse integer from empty string"
  | .invalidDigit => "invalid digit found in string"
  | .tooLarge => "number too large to fit in target type"

/-- The value of an ASCII digit. -/
def digitValue? (c : Char) : Option Nat :=
  if '0' ≤ c ∧ c ≤ '9' then some (c.toNat - '0'.toNat) else none

/-- Whether `c` is an ASCII digit. -/
def isDigit (c : Char) : Bool :=
  (digitValue? c).isSome

/-- Appends digits to the number read so far, within the limit. -/
def appendDigits (limit : Nat) : (acc : Nat) → List Char → Except IntegerError Nat
  | acc, [] => .ok acc
  | acc, c :: cs =>
    match digitValue? c with
    | none => .error .invalidDigit
    | some d =>
      if 10 * acc + d ≤ limit then appendDigits limit (10 * acc + d) cs else .error .tooLarge

/-- A run of digits, at least one, within the limit. -/
def readDigits (limit : Nat) : List Char → Except IntegerError Nat
  | [] => .error .invalidDigit
  | cs => appendDigits limit 0 cs

/-- A whole number from zero to `limit`. -/
def readUnsigned (limit : Nat) : List Char → Except IntegerError Nat
  | [] => .error .empty
  | '+' :: cs => readDigits limit cs
  | cs => readDigits limit cs

/-- A whole number of 64 bits with a sign. -/
def readSigned64 : List Char → Option Int
  | '-' :: cs => (readDigits (2 ^ 63) cs).toOption.map fun n => -(n : Int)
  | '+' :: cs => (readDigits (2 ^ 63 - 1) cs).toOption.map Int.ofNat
  | cs => (readDigits (2 ^ 63 - 1) cs).toOption.map Int.ofNat

/-! ### Decimals -/

/-- The number that a run of digits denotes. -/
def digitsValue (ds : List Char) : Nat :=
  ds.foldl (fun acc c => 10 * acc + (digitValue? c).getD 0) 0

/-- The double nearest to `digits · 10 ^ exponent`.  Beyond `10 ^ 310` and below `10 ^ -330` the
power of ten is not formed. -/
def Double.ofDecimal (negative : Bool) (digits : Nat) (exponent : Int) : Double :=
  if digits = 0 then .finite (.zero negative)
  else
    let magnitude := ((Nat.toDigits 10 digits).length : Int) + exponent
    if magnitude > 310 then .infinite negative
    else if magnitude < -330 then .finite (.zero negative)
    else ofRatio negative (digits * 10 ^ exponent.toNat) (10 ^ (-exponent).toNat)

/-- The exponent after its mark: an optional sign and digits, at least one, and nothing else. -/
def readExponent? (cs : List Char) : Option Int :=
  let (negative, ds) :=
    match cs with
    | '-' :: rest => (true, rest)
    | '+' :: rest => (false, rest)
    | _ => (false, cs)
  if ds.isEmpty || !ds.all isDigit then none
  else some (if negative then -(digitsValue ds) else digitsValue ds)

/-- An unsigned decimal: digits with an optional point, at least one digit, and an optional
exponent. -/
def readDecimal? (cs : List Char) : Option (Nat × Int) :=
  let whole := cs.takeWhile isDigit
  let (fraction, rest) :=
    match cs.dropWhile isDigit with
    | '.' :: after => (after.takeWhile isDigit, after.dropWhile isDigit)
    | other => ([], other)
  if whole.isEmpty && fraction.isEmpty then none
  else
    let digits := digitsValue (whole ++ fraction)
    match rest with
    | [] => some (digits, -fraction.length)
    | 'e' :: ex | 'E' :: ex => (readExponent? ex).map fun e => (digits, e - fraction.length)
    | _ => none

/-- A double without its sign. -/
def readMagnitude? (negative : Bool) (cs : List Char) : Option Double :=
  match readDecimal? cs with
  | some (digits, exponent) => some (.ofDecimal negative digits exponent)
  | none =>
    let word := String.ofList (cs.map Char.toLower)
    if word = "inf" ∨ word = "infinity" then some (.infinite negative)
    else if word = "nan" then some .nan
    else none

/-- A double. -/
def readDouble : List Char → Option Double
  | '-' :: cs => readMagnitude? true cs
  | '+' :: cs => readMagnitude? false cs
  | cs => readMagnitude? false cs

/-- The wording of a text that is no double. -/
def doubleErrorMessage : String := "invalid float literal"

end ApiCheck
