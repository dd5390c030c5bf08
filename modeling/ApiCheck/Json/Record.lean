import ApiCheck.Json.Basic

/-!
# Records in JSON

A record is written as an object with its fields as members, or as an array with the values of its
fields in their order.  Members that are no field are ignored; an array may stop short of the
fields that have a default, but has no item beyond the last field.

A field is read with `require` (it must be there), `getOr` (a default stands in where it is
missing) or `getOption` (`null` means that there is no value).
-/

namespace ApiCheck.Json

/-- A JSON value taken as a record. -/
structure Record where
  /-- Whether the fields stand in the order of an array. -/
  positional : Bool
  /-- The values of the fields that are there. -/
  values : Fields Json

/-- The value as a record with the given fields. -/
def record? (names : List String) : Json → Option Record
  | .object members => some ⟨false, members⟩
  | .array items => if items.length ≤ names.length then some ⟨true, names.zip items⟩ else none
  | _ => none

namespace Record

variable {α : Type}

/-- The field `name`, which must be there. -/
def require (r : Record) (name : String) (decode : Json → Option α) : Option α :=
  r.values.get? name >>= decode

/-- The field `name`, or `default` where it is missing. -/
def getOr (r : Record) (name : String) (default : α) (decode : Json → Option α) : Option α :=
  match r.values.get? name with
  | none => some default
  | some v => decode v

/-- The field `name`, which may be `null` or missing. -/
def getOption (r : Record) (name : String) (decode : Json → Option α) : Option (Option α) :=
  match r.values.get? name with
  | none => some none
  | some .null => some none
  | some v => (decode v).map some

/-- The field `name`, which may be `null`, and missing only where fields have names. -/
def getNullable (r : Record) (name : String) (decode : Json → Option α) : Option (Option α) :=
  if r.positional && (r.values.get? name).isNone then none else r.getOption name decode

end Record

/-! ### Values of fields -/

/-- A whole number from zero to `limit`. -/
def natUpTo? (limit : Nat) : Json → Option Nat
  | .number (.integer n) => if 0 ≤ n ∧ n.toNat ≤ limit then some n.toNat else none
  | _ => none

/-- A number of either kind, as a double. -/
def double? : Json → Option Double
  | .number n => some n.toDouble
  | _ => none

/-- A list of values. -/
def listOf? {α : Type} (decode : Json → Option α) : Json → Option (List α)
  | .array items => items.mapM decode
  | _ => none

/-- An object whose members are all strings. -/
def stringMembers? : Json → Option (Fields String)
  | .object members => members.mapM fun (k, v) => v.string?.map fun s => (k, s)
  | _ => none

/-- A list of strings as a value. -/
def ofStrings (ss : List String) : Json :=
  .array (ss.map .string)

/-- A string, or `null` where there is none. -/
def ofOptionString : Option String → Json
  | none => .null
  | some s => .string s

end ApiCheck.Json
