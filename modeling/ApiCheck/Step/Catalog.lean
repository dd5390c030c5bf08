import ApiCheck.Error
import ApiCheck.Step
import ApiCheck.Step.Expression

/-!
# The step catalog

The catalog binds texts to steps.  A definition is an expression, the name of the predicate it
leads to and the way to build the step from the arguments that are captured.  `Catalog.parse` takes
a text with or without a leading keyword, finds the first definition whose expression matches all of
it and builds the step; `Catalog.parseWith` does so with any list of definitions.
-/

namespace ApiCheck.Step

/-! ### Arguments -/

/-- What a definition builds a step from. -/
structure Arguments where
  /-- The text of the step, without its keyword. -/
  step : String
  /-- The arguments that the expression captured. -/
  captured : List String
  /-- The table under the step. -/
  table : Option DataTable

namespace Arguments

/-- The argument at an index. -/
def text (a : Arguments) (index : Nat) : Except StepError String :=
  match a.captured[index]? with
  | some raw => .ok raw
  | none => .error (.invalidArgument a.step (.missing index))

/-- The argument at an index as a whole number below `n + 1`. -/
def nat (a : Arguments) (n : Nat) (index : Nat) : Except StepError (Fin (n + 1)) := do
  let raw ← a.text index
  match readUnsigned n raw.toList with
  | .ok i => .ok (Fin.ofNat _ i)
  | .error cause => .error (.invalidArgument a.step (.notInteger raw cause))

/-- The argument at an index as a double. -/
def double (a : Arguments) (index : Nat) : Except StepError Double := do
  let raw ← a.text index
  match readDouble raw.toList with
  | some x => .ok x
  | none => .error (.invalidArgument a.step (.notDecimal raw))

/-- The table under the step, which must be there. -/
def needTable (a : Arguments) : Except StepError DataTable :=
  match a.table with
  | some t => .ok t
  | none => .error (.missingTable a.step)

end Arguments

/-! ### Definitions -/

/-- One binding of the catalog. -/
structure Definition where
  expression : Expression
  /-- The name of the steps that are built. -/
  predicate : String
  build : Arguments → Except StepError Step

namespace Catalog

/-- A part of an expression that stands for itself. -/
def lit (s : String) : Part := .text s.toList

/-- A parameter for a whole number. -/
def int : Part := .parameter .int

/-- A parameter for a decimal. -/
def float : Part := .parameter .float

/-- A parameter for a quoted text. -/
def str : Part := .parameter .string

/-- The start of the expressions about a node of the body. -/
def node (rest : List Part) : Expression :=
  lit "the response body at " :: str :: rest

/-- Builds a step from one text. -/
def ofText (make : String → Step) (a : Arguments) : Except StepError Step := do
  return make (← a.text 0)

/-- Builds a step from two texts. -/
def ofTexts (make : String → String → Step) (a : Arguments) : Except StepError Step := do
  let first ← a.text 0
  let second ← a.text 1
  return make first second

/-- The definitions, in the order in which they are tried. -/
def definitions : List Definition := [
  ⟨[lit "the response status should be ", int], "httpCode",
    fun a => return .httpCode (← a.nat 65535 0)⟩,
  ⟨[lit "the response time should be lower than ", float, lit " ms"], "httpTiming",
    fun a => return .httpTiming (← a.double 0)⟩,
  ⟨[lit "the response headers should contain ", str], "headerValueExist",
    ofText .headerValueExist⟩,
  ⟨[lit "the response headers should not contain ", str], "headerValueNotExist",
    ofText .headerValueNotExist⟩,
  ⟨[lit "the response header ", str, lit " should be ", str], "headerValueEqual",
    ofTexts .headerValueEqual⟩,
  ⟨[lit "the response headers should be:"], "headers",
    fun a => return .headers (← a.needTable)⟩,
  ⟨[lit "the response list should be empty"], "shouldBeEmptyArrayResponse",
    fun _ => return .shouldBeEmptyArrayResponse⟩,
  ⟨[lit "the response list should not be empty"], "shouldNotBeEmptyArrayResponse",
    fun _ => return .shouldNotBeEmptyArrayResponse⟩,
  ⟨[lit "the response body should be empty"], "shouldBeEmptyResponse",
    fun _ => return .shouldBeEmptyResponse⟩,
  ⟨node [lit " should equal ", float], "shouldBeNumber", ofTexts .shouldBeNumber⟩,
  ⟨node [lit " should equal the number ", str], "shouldBeNumber", ofTexts .shouldBeNumber⟩,
  ⟨node [lit " should be true"], "shouldBeTrue", ofText .shouldBeTrue⟩,
  ⟨node [lit " should be false"], "shouldBeFalse", ofText .shouldBeFalse⟩,
  ⟨node [lit " should be null"], "shouldBeNull", ofText .shouldBeNull⟩,
  ⟨node [lit " should equal ", str], "shouldBeString", ofTexts .shouldBeString⟩,
  ⟨node [lit " should be empty"], "shouldBeEmpty", ofText .shouldBeEmpty⟩,
  ⟨node [lit " should not be null"], "shouldNotBeNull", ofText .shouldNotBeNull⟩,
  ⟨[lit "the response list should contain ", int, lit " items"], "shouldBeArraySize",
    fun a => return .shouldBeArraySize (← a.nat 18446744073709551615 0)⟩,
  ⟨node [lit " should be an array"], "shouldBeAnArray", ofText .shouldBeAnArray⟩,
  ⟨node [lit " should be an array of ", int, lit " items"], "shouldBeAnArrayOfXItems",
    fun a => do
      let path ← a.text 0
      return .shouldBeAnArrayOfXItems path (← a.nat 18446744073709551615 1)⟩,
  ⟨node [lit " should match ", str], "shouldMatch", ofTexts .shouldMatch⟩,
  ⟨node [lit " should be close to now"], "shouldBeNow", ofText .shouldBeNow⟩,
  ⟨[lit "add the header ", str, lit " to the dataset as ", str], "addHeaderPropertyToDataset",
    ofTexts .addHeaderPropertyToDataset⟩,
  ⟨[lit "add the body property ", str, lit " to the dataset as ", str],
    "addBodyPropertyToDataset", ofTexts .addBodyPropertyToDataset⟩]

/-- Keeps one of several equal strings that follow each other. -/
def dropRepeats : List String → List String
  | [] => []
  | [s] => [s]
  | s :: t :: rest => if s = t then dropRepeats (t :: rest) else s :: dropRepeats (t :: rest)

/-- The names of the predicates that the catalog leads to, in its order. -/
def names : List String :=
  dropRepeats (definitions.map Definition.predicate)

/-! ### Parsing -/

/-- The words that may lead a step. -/
def keywords : List String := ["Given ", "When ", "Then ", "And ", "But ", "* "]

/-- A text without its leading keyword. -/
def stripKeyword (cs : List Char) : List Char :=
  match keywords.findSome? fun keyword => after? keyword.toList cs with
  | some rest => Text.trimStart rest
  | none => cs

/-- The first of some definitions that a text matches, with the arguments that it captures. -/
def match? (ds : List Definition) (cs : List Char) : Option (Definition × List String) :=
  ds.findSome? fun d => (solutions d.expression cs).head?.map fun captured => (d, captured)

/-- The step that a text denotes by some definitions, which are tried in their order. -/
def parseWith (ds : List Definition) (s : String) (table : Option DataTable) :
    Except StepError Step :=
  let cs := stripKeyword (Text.trim s.toList)
  let step := String.ofList cs
  match match? ds cs with
  | none => .error (.unknownStep step)
  | some (d, captured) => d.build ⟨step, captured, table⟩

/-- The step that a text denotes. -/
def parse (s : String) (table : Option DataTable) : Except StepError Step :=
  parseWith definitions s table

end Catalog

end ApiCheck.Step
