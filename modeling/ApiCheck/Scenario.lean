import ApiCheck.Json.Record
import ApiCheck.Scenario.Identifier
import ApiCheck.Text.Blank

/-!
# Scenarios

A scenario has a name, tags as they are written in the feature file and the values of its current
examples row.  Two tags are known, `@skip` and `@wip`; both keep the scenario from being executed.
A tag is recognised with blanks around it, but `hasTag` compares the exact text.
-/

namespace ApiCheck

/-! ### Tags -/

/-- A tag that the lifecycle of a scenario reacts to. -/
inductive Tag where
  /-- The scenario is not executed. -/
  | skip
  /-- The scenario is being worked on and not executed. -/
  | wip
deriving DecidableEq

namespace Tag

/-- Every known tag, in the order in which their hooks are registered. -/
def all : List Tag := [.skip, .wip]

/-- The text of a tag. -/
def text : Tag → String
  | .skip => "@skip"
  | .wip => "@wip"

/-- The tag that a text spells, blanks around it ignored. -/
def parse? (s : String) : Option Tag :=
  all.find? fun tag => tag.text == Text.trimmed s

/-- The wording of a text that is no known tag. -/
def unknownMessage (s : String) : String :=
  s!"unrecognised tag: {Text.trimmed s}"

end Tag

/-! ### Scenarios -/

/-- What the lifecycle knows of a scenario. -/
structure Scenario where
  /-- The identifier, where one was given. -/
  id : Option Identifier := none
  name : String
  tags : List String := []
  /-- The values of the current examples row, by column. -/
  examples : Fields String := []

namespace Scenario

/-- The scenario with one more tag. -/
def withTag (s : Scenario) (tag : String) : Scenario :=
  { s with tags := s.tags ++ [tag] }

/-- The scenario with one more value in its examples row. -/
def withExample (s : Scenario) (column value : String) : Scenario :=
  { s with examples := s.examples.insert column value }

/-- Whether the scenario carries exactly this tag text. -/
def hasTag (s : Scenario) (tag : String) : Bool :=
  s.tags.contains tag

/-- The known tags among those that the scenario carries. -/
def knownTags (s : Scenario) : List Tag :=
  s.tags.filterMap Tag.parse?

/-! ### JSON -/

/-- The scenario that a record denotes. -/
def ofJson? (v : Json) : Option Scenario := do
  let r ← v.record? ["id", "name", "tags", "examples"]
  let id ← r.getOr "id" none fun v => (v.string? >>= Identifier.parse?).map some
  let name ← r.require "name" Json.string?
  let tags ← r.getOr "tags" [] (Json.listOf? Json.string?)
  let examples ← r.getOr "examples" [] Json.stringMembers?
  return ⟨id, name, tags, examples⟩

/-- The scenario as an object, with its identifier where it has one. -/
def toJson (s : Scenario) : Json :=
  .ofFields ((s.id.toList.map fun id => ("id", .string id.text)) ++
    [("name", .string s.name), ("tags", .ofStrings s.tags),
      ("examples", .object (s.examples.map fun (k, v) => (k, .string v)))])

end Scenario

end ApiCheck
