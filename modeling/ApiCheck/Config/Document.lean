import ApiCheck.Config
import ApiCheck.Number.Reading
import ApiCheck.Yaml.Node

/-!
# Configuration documents

A configuration is written as a YAML document, of which JSON is a part.  `Config.parse` reads one and
gives only valid configurations.

The root is a mapping.  Its keys are scalars; a key that is not known is ignored, and one that is
known stands in it at most once.  A tolerance is a whole number in decimal, hexadecimal, octal or
binary digits, written plainly.
-/

namespace ApiCheck

/-- Why a document gives no configuration. -/
inductive DocumentError where
  /-- There is no text to read. -/
  | unreadable
  /-- The text is not the document of a configuration. -/
  | malformed
  /-- The configuration is not valid. -/
  | invalid (cause : ConfigError)
deriving DecidableEq

namespace Config

/-! ### Values -/

/-- The value of digits in a base, up to `limit`. -/
def digitsInBase? (base limit : Nat) (cs : List Char) : Option Nat := do
  let digits ← cs.mapM fun c => (Text.hexValue? c).filter (· < base)
  let n := digits.foldl (fun n d => base * n + d) 0
  if cs = [] ∨ limit < n then none else some n

/-- The whole number up to `limit` that a plain scalar spells.  A decimal has no leading zero. -/
def wholeNumber? (limit : Nat) (s : String) : Option Nat :=
  let cs := match s.toList with
    | '+' :: rest => rest
    | cs => cs
  match cs with
  | '0' :: 'x' :: rest => digitsInBase? 16 limit rest
  | '0' :: 'o' :: rest => digitsInBase? 8 limit rest
  | '0' :: 'b' :: rest => digitsInBase? 2 limit rest
  | '0' :: _ :: _ => none
  | _ => digitsInBase? 10 limit cs

/-- The words for a value that is not given. -/
def nullWords : List String := ["", "null", "Null", "NULL", "~"]

/-- The text of a scalar. -/
def scalarText? : Yaml.Node → Option String
  | .scalar _ text => some text
  | _ => none

/-- The text of a scalar that may be left out. -/
def optionalText? : Yaml.Node → Option (Option String)
  | .scalar plain text => some (if plain && nullWords.contains text then none else some text)
  | _ => none

/-- The tolerance that a scalar denotes. -/
def tolerance? : Yaml.Node → Option Nat
  | .scalar true text => wholeNumber? (2 ^ 64 - 1) text
  | _ => none

/-! ### Mappings -/

/-- The members of a mapping whose keys are scalars; a node that is left out has none. -/
def members? : Yaml.Node → Option (List (String × Yaml.Node))
  | .mapping members => members.mapM fun (k, v) => (scalarText? k).map fun key => (key, v)
  | .scalar true "" => some []
  | _ => none

/-- The node under a key, which must not stand in the mapping twice. -/
def member? (key : String) (members : List (String × Yaml.Node)) : Option (Option Yaml.Node) :=
  match members.filter fun member => member.1 == key with
  | [] => some none
  | [(_, v)] => some (some v)
  | _ => none

/-- The value under a key, or `default` where the key is missing. -/
def memberOr {α : Type} (key : String) (default : α) (decode : Yaml.Node → Option α)
    (members : List (String × Yaml.Node)) : Option α := do
  match ← member? key members with
  | none => some default
  | some v => decode v

/-- The settings that a node denotes. -/
def settingsOfNode? (v : Yaml.Node) : Option Settings := do
  let members ← members? v
  let tolerance ← memberOr "now_tolerance_ms" ({} : Settings).nowToleranceMs tolerance? members
  return ⟨tolerance⟩

/-- The configuration that a node denotes. -/
def ofNode? (v : Yaml.Node) : Option Config := do
  let members ← members? v
  let name ← (← member? "name" members) >>= scalarText?
  let url ← memberOr "url" none optionalText? members
  let environment ← memberOr "environment" none optionalText? members
  let settings ← memberOr "assertions" {} settingsOfNode? members
  return ⟨name, url, environment, settings⟩

/-! ### Documents -/

/-- The valid configuration that a text holds. -/
def parse (s : String) : Except DocumentError Config :=
  match Yaml.parse? s >>= ofNode? with
  | none => .error .malformed
  | some c => (c.validate.mapError .invalid).map fun () => c

/-- The valid configuration in a text that may be missing. -/
def load (content : Option String) : Except DocumentError Config :=
  content.elim (.error .unreadable) parse

end Config

end ApiCheck
