import ApiCheck.Json.Basic
import ApiCheck.Number.Reading
import ApiCheck.Number.Shortest
import ApiCheck.Text.Blank
import ApiCheck.Text.Units

/-!
# Operands

An operand is what a check compares: a JSON value, or `undefined` where there is nothing to
compare, such as the value of an absent header.  `undefined` differs from `null` and from the empty
string.

`strictEq` is strict equality: it compares values of one kind only, numbers by their value whether
they are integers or doubles, and no array or object equals anything.  `text` is the form in which
messages and templates show an operand.
-/

namespace ApiCheck

/-- A value of a check, or the mark that there is none. -/
inductive Operand where
  | undefined
  | json (value : Json)
deriving Inhabited

namespace Operand

/-! ### Making operands -/

/-- The `null` operand. -/
def null : Operand := .json .null

/-- A truth value as an operand. -/
def ofBool (b : Bool) : Operand := .json (.bool b)

/-- A text as an operand. -/
def ofString (s : String) : Operand := .json (.string s)

/-- A whole number as an operand. -/
def ofNat (n : Nat) : Operand := .json (.ofNat n)

/-- A double as an operand: `null` where it is not finite. -/
def ofDouble : Double → Operand
  | .finite x => .json (.number (.real x))
  | _ => null

/-- A value as an operand, `undefined` where there is none. -/
def ofOption : Option Json → Operand
  | none => .undefined
  | some v => .json v

/-! ### Kinds and parts -/

/-- The kind of an operand: arrays, objects and `null` are all objects. -/
inductive Kind where
  | undefined
  | boolean
  | number
  | string
  | object
deriving DecidableEq

/-- The name of a kind. -/
def Kind.name : Kind → String
  | .undefined => "undefined"
  | .boolean => "boolean"
  | .number => "number"
  | .string => "string"
  | .object => "object"

/-- The kind of an operand. -/
def kind : Operand → Kind
  | .undefined => .undefined
  | .json (.bool _) => .boolean
  | .json (.number _) => .number
  | .json (.string _) => .string
  | .json _ => .object

/-- Whether the operand is `undefined`. -/
def isUndefined : Operand → Bool
  | .undefined => true
  | _ => false

/-- Whether the operand is `null`. -/
def isNull : Operand → Bool
  | .json .null => true
  | _ => false

/-- Whether the operand is an array. -/
def isArray : Operand → Bool
  | .json (.array _) => true
  | _ => false

/-- The JSON value of an operand. -/
def json? : Operand → Option Json
  | .undefined => none
  | .json v => some v

/-- The text of a string operand. -/
def string? : Operand → Option String
  | .json (.string s) => some s
  | _ => none

/-- The double nearest to a number operand. -/
def double? : Operand → Option Double
  | .json (.number n) => some n.toDouble
  | _ => none

/-- The length of an array, or of a string in units of UTF-16; `undefined` for all else. -/
def length : Operand → Operand
  | .json (.array items) => ofNat items.length
  | .json (.string s) => ofNat (Text.utf16Size s.toList)
  | _ => .undefined

end Operand

/-! ### Strict equality -/

/-- Equality of numbers: exact between integers, otherwise that of the nearest doubles. -/
def Number.strictEq : Number → Number → Bool
  | .integer m, .integer n => m == n
  | x, y => Double.numEq x.toDouble y.toDouble

namespace Operand

/-- Strict equality of operands. -/
def strictEq : Operand → Operand → Bool
  | .undefined, .undefined => true
  | .json .null, .json .null => true
  | .json (.bool a), .json (.bool b) => a == b
  | .json (.string a), .json (.string b) => a == b
  | .json (.number a), .json (.number b) => a.strictEq b
  | _, _ => false

/-! ### Numeric strings -/

/-- The number that a text spells: an integer of 64 bits if it is one, else a finite double. -/
def numberOfText? (s : String) : Option Number :=
  let cs := Text.trim s.toList
  match readSigned64 cs with
  | some n => some (.integer n)
  | none =>
    match readDouble cs with
    | some (.finite x) => some (.real x)
    | _ => none

/-- A string that spells a number becomes that number; every other operand stays as it is. -/
def coerceNumber : Operand → Operand
  | .json (.string s) =>
    match numberOfText? s with
    | some n => .json (.number n)
    | none => .json (.string s)
  | x => x

end Operand

/-! ### Text -/

/-- The text of a number. -/
def Number.text : Number → String
  | .integer n => toString n
  | .real x => x.text

mutual

/-- The text of a value: strings as they are, the items of an array joined by commas, every object
as `[object Object]`. -/
def Json.text : Json → String
  | .null => "null"
  | .bool b => if b then "true" else "false"
  | .number n => n.text
  | .string s => s
  | .array items => ",".intercalate (Json.itemTexts items)
  | .object _ => "[object Object]"

/-- The texts of the items of an array, `null` as the empty text. -/
def Json.itemTexts : List Json → List String
  | [] => []
  | .null :: rest => "" :: Json.itemTexts rest
  | item :: rest => item.text :: Json.itemTexts rest

end

/-- The text of an operand. -/
def Operand.text : Operand → String
  | .undefined => "undefined"
  | .json v => v.text

end ApiCheck
