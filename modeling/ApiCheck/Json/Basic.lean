import ApiCheck.Fields
import ApiCheck.Number.Double

/-!
# JSON values

A number is an integer or a finite double, and stays what it was written as: `1` and `1.0` are
two values.  An integer lies in `-2 ^ 63 … 2 ^ 64 - 1` and the members of an object ascend by key;
`Json.WellFormed` says so of a value and all its parts, and every value that is read from a text
has it.
-/

namespace ApiCheck

/-! ### Types -/

/-- A number as it was written: an integer or a double. -/
inductive Number where
  | integer (value : Int)
  | real (value : FiniteDouble)
deriving DecidableEq

/-- A JSON value. -/
inductive Json where
  | null
  | bool (value : Bool)
  | number (value : Number)
  | string (value : String)
  | array (items : List Json)
  | object (members : List (String × Json))
deriving Inhabited

namespace Number

/-- The integers that a number can hold. -/
def InRange (n : Int) : Prop := -(2 ^ 63) ≤ n ∧ n < 2 ^ 64

instance (n : Int) : Decidable (InRange n) := inferInstanceAs (Decidable (_ ∧ _))

/-- The double nearest to a number. -/
def toDouble : Number → Double
  | .integer n => .ofInt n
  | .real x => .finite x

end Number

/-! ### Parts -/

namespace Json

/-- The string of a string value. -/
def string? : Json → Option String
  | .string s => some s
  | _ => none

/-- The items of an array. -/
def items? : Json → Option (List Json)
  | .array items => some items
  | _ => none

/-- The members of an object. -/
def members? : Json → Option (Fields Json)
  | .object members => some members
  | _ => none

/-- The member `key` of an object. -/
def member? (key : String) : Json → Option Json
  | .object members => Fields.get? key members
  | _ => none

/-- The item at `index` of an array. -/
def item? (index : Nat) : Json → Option Json
  | .array items => items[index]?
  | _ => none

/-- A whole number as a value. -/
def ofNat (n : Nat) : Json :=
  .number (.integer n)

/-- An object with the given members, whatever their order. -/
def ofFields (members : List (String × Json)) : Json :=
  .object (Fields.insertAll members [])

mutual

/-- Integers lie in range and members ascend by key, in the value and in all its parts. -/
def WellFormed : Json → Prop
  | .number (.integer n) => Number.InRange n
  | .array items => WellFormedItems items
  | .object members => Fields.Ordered members ∧ WellFormedMembers members
  | _ => True

/-- Every item of a list is well formed. -/
def WellFormedItems : List Json → Prop
  | [] => True
  | item :: rest => item.WellFormed ∧ WellFormedItems rest

/-- Every value of a list of members is well formed. -/
def WellFormedMembers : List (String × Json) → Prop
  | [] => True
  | (_, value) :: rest => value.WellFormed ∧ WellFormedMembers rest

end

end Json

end ApiCheck
