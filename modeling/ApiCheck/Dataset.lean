import ApiCheck.Scenario
import ApiCheck.Template

/-!
# Datasets

A dataset holds the values that the steps of a scenario share, under keys.  A key may be written as
a placeholder or plainly; `normalKey` gives the key itself, trimmed.  `get` renders a text with the
values that are held, `set` writes one value, and `seed` starts a scenario afresh: only its fixtures
and its examples row are held then, the latter in front.
-/

namespace ApiCheck

/-- Why a dataset refuses. -/
inductive DatasetError where
  /-- A placeholder names a key without a value. -/
  | unknownKey (key : String)
  /-- A key is blank. -/
  | blankKey
  /-- The values of a scenario could not be loaded. -/
  | load (scenario reason : String)
deriving DecidableEq

/-- The wording of a refusal. -/
def DatasetError.message : DatasetError → String
  | .unknownKey key => s!"unknown dataset key: {key}"
  | .blankKey => "invalid dataset key: \"\""
  | .load scenario reason => s!"failed to load dataset for scenario '{scenario}': {reason}"

/-- A value that is seeded whenever the scenario of its name starts. -/
structure Fixture where
  scenario : String
  key : String
  value : Operand

/-- The values of a scenario and the fixtures of all scenarios. -/
structure Dataset where
  values : Fields Operand := []
  fixtures : List Fixture := []

namespace Dataset

/-! ### Keys -/

/-- The key that a text denotes: the name of a placeholder, or the text without its blank ends. -/
def normalKey (s : String) : String :=
  (Template.key? s).getD (Text.trimmed s)

/-! ### Reading -/

/-- The value under a key. -/
def value? (d : Dataset) (key : String) : Option Operand :=
  d.values.get? key

/-- A text rendered with the values that are held. -/
def get (d : Dataset) (s : String) : Except DatasetError Operand :=
  (Template.render d.value? s).result.mapError .unknownKey

/-- The argument of a step: the value of a placeholder, every other text as it is. -/
def resolve (d : Dataset) (s : String) : Except DatasetError Operand :=
  if Template.isPlaceholder s then d.get s else .ok (.ofString s)

/-- The number of values. -/
def size (d : Dataset) : Nat :=
  d.values.length

/-- Whether no value is held. -/
def isEmpty (d : Dataset) : Bool :=
  d.values.isEmpty

/-! ### Writing -/

/-- The dataset with a value under a key, which must not be blank. -/
def set (d : Dataset) (key : String) (value : Operand) : Except DatasetError Dataset :=
  let key := normalKey key
  if key = "" then .error .blankKey
  else .ok { d with values := d.values.insert key value }

/-- The dataset with one more fixture. -/
def withFixture (d : Dataset) (f : Fixture) : Dataset :=
  { d with fixtures := d.fixtures ++ [f] }

/-- The fixtures of a scenario as fields; of two with one key the later counts. -/
def fixturesOf (d : Dataset) (scenario : String) : Fields Operand :=
  Fields.insertAll
    ((d.fixtures.filter fun f => f.scenario == scenario).map fun f => (f.key, f.value)) []

/-- The values with which a scenario starts. -/
def seedValues (d : Dataset) (s : Scenario) : Fields Operand :=
  Fields.insertAll (s.examples.map fun (column, text) => (column, Operand.ofString text))
    (d.fixturesOf s.name)

/-- The dataset at the start of a scenario. -/
def seed (d : Dataset) (s : Scenario) : Dataset :=
  { d with values := d.seedValues s }

end Dataset

end ApiCheck
