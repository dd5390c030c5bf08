import ApiCheck.Text.Digit

/-!
# Step expressions

An expression is the text of a step with parameters in it: `the response header {string} should be
{string}`.  A parameter stands for a whole number, a decimal or a quoted text.  Whole numbers and
decimals may be written with the digits of any script; a quoted text stands between two quotes of
one kind and holds none of that kind.

`solutions` lists every way in which an expression matches a whole text, each with the arguments
that its parameters capture, longer arguments first.
-/

namespace ApiCheck.Step

/-! ### Types -/

/-- What a parameter stands for. -/
inductive Parameter where
  | int
  | float
  | string
deriving DecidableEq

/-- A part of an expression. -/
inductive Part where
  | text (cs : List Char)
  | parameter (p : Parameter)
deriving DecidableEq

/-- The text of a step with parameters in it. -/
abbrev Expression := List Part

/-- The name of a parameter in an expression. -/
def Parameter.name : Parameter → String
  | .int => "int"
  | .float => "float"
  | .string => "string"

/-- An expression as it is written, its parameters between braces. -/
def Expression.text (e : Expression) : String :=
  String.ofList (e.flatMap fun
    | .text cs => cs
    | .parameter p => '{' :: (p.name.toList ++ ['}']))

/-! ### Parameters -/

namespace Parameter

/-- Whether `cs` is a whole number: digits, at least one, after an optional minus sign. -/
def isInt (cs : List Char) : Bool :=
  let digits := if cs.head? = some '-' then cs.tail else cs
  !digits.isEmpty && digits.all Text.isDecimalDigit

/-- Whether `cs` is a decimal: digits after an optional point, at least one, and optional digits and
an optional minus sign in front of them. -/
def isFloat (cs : List Char) : Bool :=
  let unsigned := if cs.head? = some '-' then cs.tail else cs
  let afterWhole := unsigned.dropWhile Text.isDecimalDigit
  let fraction := if afterWhole.head? = some '.' then afterWhole.tail else afterWhole
  if afterWhole.isEmpty then !unsigned.isEmpty
  else !fraction.isEmpty && afterWhole.head? = some '.' && fraction.all Text.isDecimalDigit

/-- Whether `c` may stand in a number. -/
def inNumber (c : Char) : Bool :=
  c == '-' || c == '.' || Text.isDecimalDigit c

/-- The ways to split `cs` after a beginning that `accepts` holds of, longer beginnings first. -/
def splits (accepts : List Char → Bool) (cs : List Char) : List (List Char × List Char) :=
  let lengths := (List.range ((cs.takeWhile inNumber).length + 1)).reverse
  (lengths.map fun n => (cs.take n, cs.drop n)).filter fun (argument, _) => accepts argument

/-- The text up to the closing quote, and what follows the quote. -/
def quoted (quote : Char) : List Char → Option (List Char × List Char)
  | [] => none
  | c :: rest =>
    if c = quote then some ([], rest)
    else (quoted quote rest).map fun (inner, after) => (c :: inner, after)

/-- The arguments that a parameter can capture at the start of a text, each with what follows. -/
def captures : Parameter → List Char → List (List Char × List Char)
  | .int, cs => splits isInt cs
  | .float, cs => splits isFloat cs
  | .string, '"' :: rest => (quoted '"' rest).toList
  | .string, '\'' :: rest => (quoted '\'' rest).toList
  | .string, _ => []

end Parameter

/-! ### Matching -/

/-- What follows `lead` in `cs`, where `cs` starts with it. -/
def after? : (lead cs : List Char) → Option (List Char)
  | [], cs => some cs
  | a :: lead, c :: cs => if a = c then after? lead cs else none
  | _ :: _, [] => none

/-- The ways in which an expression matches a text, as the arguments that it captures. -/
def solutions : Expression → List Char → List (List String)
  | [], [] => [[]]
  | [], _ :: _ => []
  | .text lead :: rest, cs =>
    match after? lead cs with
    | none => []
    | some cs' => solutions rest cs'
  | .parameter p :: rest, cs =>
    (p.captures cs).flatMap fun (argument, cs') =>
      (solutions rest cs').map fun arguments => String.ofList argument :: arguments

end ApiCheck.Step
