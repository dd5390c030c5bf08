import ApiCheck.Unicode.Category
import ApiCheck.Unicode.Property
import ApiCheck.Unicode.Ranges
import ApiCheck.Unicode.Script

/-!
# Named sets of characters

A set of characters may be named by a property, a general category or a script: `Lu`, `letter`,
`Greek`, `White_Space`; a category or a script also by the value of the property of that name, such
as `sc=Greek`.  Names are compared without regard to case, spaces, hyphens, underscores and a
leading `is` (`normalName`).

A bare name is looked up among the properties first, then among the categories and the scripts.
Three names that abbreviate a property and a category mean the category.
-/

namespace ApiCheck.Unicode

/-! ### Names -/

/-- A name without what does not distinguish names. -/
def normalName (s : String) : String :=
  let small := s.toList.map Char.toLower
  let (led, body) :=
    match small with
    | 'i' :: 's' :: rest => (true, rest)
    | cs => (false, cs)
  let kept := body.filter fun c => c.toNat < 0x80 && c != ' ' && c != '_' && c != '-'
  if led && kept == ['c'] then "isc" else String.ofList kept

/-! ### Categories -/

/-- The characters of a single category. -/
def singleCategory? (name : String) : Option Ranges :=
  (categoryTable.find? fun (names, _) => names.contains name).map fun (_, text) => Ranges.ofText text

/-- The characters of several categories. -/
def categories (names : List String) : Ranges :=
  Ranges.ofList (names.flatMap fun name => (singleCategory? name).getD [])

/-- The characters that are in some category. -/
def assigned : Ranges :=
  (Ranges.ofList (categoryTable.flatMap fun (_, text) => Ranges.ofText text)).union
    [(0xD800, 0xDFFF)]

/-- The characters of a category, of a group of categories, or of another set that is named like a
category. -/
def category? (name : String) : Option Ranges :=
  if name = "any" then some [(0, maxCode)]
  else if name = "ascii" then some [(0, 0x7F)]
  else if name = "assigned" then some assigned
  else if name = "cn" ∨ name = "unassigned" then some assigned.complement
  else if name = "c" ∨ name = "other" then
    some ((categories ["cc", "cf", "co"]).union assigned.complement)
  else
    match categoryGroups.find? fun (names, _) => names.contains name with
    | some (_, members) => some (categories members)
    | none => singleCategory? name

/-! ### Scripts and properties -/

/-- The characters of a script. -/
def script? (name : String) : Option Ranges :=
  (scriptTable.find? fun (names, _) => names.contains name).map fun (_, text) => Ranges.ofText text

/-- The characters with a property. -/
def property? (name : String) : Option Ranges :=
  (propertyTable.find? fun p => p.names.contains name).map fun p =>
    ((categories p.categories).diff (Ranges.ofText p.lacking)).union (Ranges.ofText p.beyond)

/-! ### Queries -/

/-- The characters that a bare name denotes. -/
def named? (name : String) : Option Ranges :=
  let name := normalName name
  let property :=
    if name = "cf" ∨ name = "sc" ∨ name = "lc" then none else property? name
  property <|> category? name <|> script? name

/-- The characters for which a property has a value. -/
def valued? (property value : String) : Option Ranges :=
  let property := normalName property
  let value := normalName value
  if property = "gc" ∨ property = "generalcategory" then category? value
  else if property = "sc" ∨ property = "script" then script? value
  else none

/-! ### Classes of characters -/

/-- The decimal digits. -/
def digits : Ranges := categories ["nd"]

/-- The blank characters. -/
def spaces : Ranges := (property? "whitespace").getD []

/-- The letters, marks, digits and joiners of which words consist. -/
def wordCharacters : Ranges :=
  ((property? "alphabetic").getD []).union
    ((categories ["mn", "mc", "me", "nd", "pc"]).union ((property? "joincontrol").getD []))

end ApiCheck.Unicode
