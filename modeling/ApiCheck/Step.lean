import ApiCheck.Json.Record
import ApiCheck.Table

/-!
# Steps

A step is one assertion of a scenario with its arguments: a check of the status line, of a header,
of the body or of a node of it, or the capture of a value for later steps.  Arguments that name an
expected value may be placeholders.

A step is written as JSON with its tag under `predicate` and its arguments beside it.  The tag is
made of the variant of the step, and is the name of the predicate that it asserts.
-/

namespace ApiCheck

/-- An assertion step with its arguments. -/
inductive Step where
  /-- The status is `expected`. -/
  | httpCode (expected : Fin (2 ^ 16))
  /-- The answer took less than `maxMs` milliseconds. -/
  | httpTiming (maxMs : Double)
  /-- There is a header `name`. -/
  | headerValueExist (name : String)
  /-- There is no header `name`. -/
  | headerValueNotExist (name : String)
  /-- The header `name` has the value `expected`. -/
  | headerValueEqual (name expected : String)
  /-- Every row of the table is a header with its value. -/
  | headers (table : DataTable)
  /-- The body is an array without items. -/
  | shouldBeEmptyArrayResponse
  /-- The body is an array with items. -/
  | shouldNotBeEmptyArrayResponse
  /-- There is no body. -/
  | shouldBeEmptyResponse
  /-- The node at `path` is the number `expected`. -/
  | shouldBeNumber (path expected : String)
  /-- The node at `path` is `true`. -/
  | shouldBeTrue (path : String)
  /-- The node at `path` is `false`. -/
  | shouldBeFalse (path : String)
  /-- The node at `path` is `null`. -/
  | shouldBeNull (path : String)
  /-- The node at `path` is the text `expected`. -/
  | shouldBeString (path expected : String)
  /-- The node at `path` is the empty text. -/
  | shouldBeEmpty (path : String)
  /-- The node at `path` is not `null`. -/
  | shouldNotBeNull (path : String)
  /-- The body is an array of `size` items. -/
  | shouldBeArraySize (size : Fin (2 ^ 64))
  /-- The node at `path` is an array. -/
  | shouldBeAnArray (path : String)
  /-- The node at `path` is an array of `size` items. -/
  | shouldBeAnArrayOfXItems (path : String) (size : Fin (2 ^ 64))
  /-- The text of the node at `path` matches `pattern`. -/
  | shouldMatch (path pattern : String)
  /-- The node at `path` is a timestamp close to the current time. -/
  | shouldBeNow (path : String)
  /-- The value of the header `name` is captured under `key`. -/
  | addHeaderPropertyToDataset (name key : String)
  /-- The node at `path` is captured under `key`. -/
  | addBodyPropertyToDataset (path key : String)
deriving DecidableEq

namespace Step

/-- The name of the predicate that a step asserts. -/
def name : Step → String
  | .httpCode _ => "httpCode"
  | .httpTiming _ => "httpTiming"
  | .headerValueExist _ => "headerValueExist"
  | .headerValueNotExist _ => "headerValueNotExist"
  | .headerValueEqual _ _ => "headerValueEqual"
  | .headers _ => "headers"
  | .shouldBeEmptyArrayResponse => "shouldBeEmptyArrayResponse"
  | .shouldNotBeEmptyArrayResponse => "shouldNotBeEmptyArrayResponse"
  | .shouldBeEmptyResponse => "shouldBeEmptyResponse"
  | .shouldBeNumber _ _ => "shouldBeNumber"
  | .shouldBeTrue _ => "shouldBeTrue"
  | .shouldBeFalse _ => "shouldBeFalse"
  | .shouldBeNull _ => "shouldBeNull"
  | .shouldBeString _ _ => "shouldBeString"
  | .shouldBeEmpty _ => "shouldBeEmpty"
  | .shouldNotBeNull _ => "shouldNotBeNull"
  | .shouldBeArraySize _ => "shouldBeArraySize"
  | .shouldBeAnArray _ => "shouldBeAnArray"
  | .shouldBeAnArrayOfXItems _ _ => "shouldBeAnArrayOfXItems"
  | .shouldMatch _ _ => "shouldMatch"
  | .shouldBeNow _ => "shouldBeNow"
  | .addHeaderPropertyToDataset _ _ => "addHeaderPropertyToDataset"
  | .addBodyPropertyToDataset _ _ => "addBodyPropertyToDataset"

/-! ### Writing JSON -/

/-- The variant of a step, each of its words with a capital. -/
def variant : Step → String
  | .httpCode _ => "HttpCode"
  | .httpTiming _ => "HttpTiming"
  | .headerValueExist _ => "HeaderValueExist"
  | .headerValueNotExist _ => "HeaderValueNotExist"
  | .headerValueEqual _ _ => "HeaderValueEqual"
  | .headers _ => "Headers"
  | .shouldBeEmptyArrayResponse => "ShouldBeEmptyArrayResponse"
  | .shouldNotBeEmptyArrayResponse => "ShouldNotBeEmptyArrayResponse"
  | .shouldBeEmptyResponse => "ShouldBeEmptyResponse"
  | .shouldBeNumber _ _ => "ShouldBeNumber"
  | .shouldBeTrue _ => "ShouldBeTrue"
  | .shouldBeFalse _ => "ShouldBeFalse"
  | .shouldBeNull _ => "ShouldBeNull"
  | .shouldBeString _ _ => "ShouldBeString"
  | .shouldBeEmpty _ => "ShouldBeEmpty"
  | .shouldNotBeNull _ => "ShouldNotBeNull"
  | .shouldBeArraySize _ => "ShouldBeArraySize"
  | .shouldBeAnArray _ => "ShouldBeAnArray"
  | .shouldBeAnArrayOfXItems _ _ => "ShouldBeAnArrayOfXItems"
  | .shouldMatch _ _ => "ShouldMatch"
  | .shouldBeNow _ => "ShouldBeNow"
  | .addHeaderPropertyToDataset _ _ => "AddHeaderPropertyToDataset"
  | .addBodyPropertyToDataset _ _ => "AddBodyPropertyToDataset"

/-- The text by which the variant of a step is told in JSON: the first letter is small. -/
def tag (s : Step) : String :=
  s.variant.decapitalize

/-- The arguments of a step under their names. -/
def arguments : Step → List (String × Json)
  | .httpCode expected => [("expected", .ofNat expected)]
  | .httpTiming maxMs => [("max_ms", (maxMs.finite?.map fun x => .number (.real x)).getD .null)]
  | .headerValueExist name => [("name", .string name)]
  | .headerValueNotExist name => [("name", .string name)]
  | .headerValueEqual name expected => [("name", .string name), ("expected", .string expected)]
  | .headers table => [("table", table.toJson)]
  | .shouldBeEmptyArrayResponse => []
  | .shouldNotBeEmptyArrayResponse => []
  | .shouldBeEmptyResponse => []
  | .shouldBeNumber path expected => [("path", .string path), ("expected", .string expected)]
  | .shouldBeTrue path => [("path", .string path)]
  | .shouldBeFalse path => [("path", .string path)]
  | .shouldBeNull path => [("path", .string path)]
  | .shouldBeString path expected => [("path", .string path), ("expected", .string expected)]
  | .shouldBeEmpty path => [("path", .string path)]
  | .shouldNotBeNull path => [("path", .string path)]
  | .shouldBeArraySize size => [("size", .ofNat size)]
  | .shouldBeAnArray path => [("path", .string path)]
  | .shouldBeAnArrayOfXItems path size => [("path", .string path), ("size", .ofNat size)]
  | .shouldMatch path pattern => [("path", .string path), ("pattern", .string pattern)]
  | .shouldBeNow path => [("path", .string path)]
  | .addHeaderPropertyToDataset name key => [("name", .string name), ("key", .string key)]
  | .addBodyPropertyToDataset path key => [("path", .string path), ("key", .string key)]

/-- A step as an object. -/
def toJson (s : Step) : Json :=
  .ofFields (("predicate", .string s.tag) :: s.arguments)

/-! ### Reading JSON -/

/-- A whole number below `n`. -/
def fin? (n : Nat) : Json → Option (Fin n)
  | .number (.integer i) => if h : 0 ≤ i ∧ i.toNat < n then some ⟨i.toNat, h.2⟩ else none
  | _ => none

/-- One argument of a step, the only one. -/
def unary? {α : Type} (arguments : Json) (first : String) (decode : Json → Option α)
    (make : α → Step) : Option Step := do
  let r ← arguments.record? [first]
  return make (← r.require first decode)

/-- Two arguments of a step. -/
def binary? {α β : Type} (arguments : Json) (first : String) (decode : Json → Option α)
    (second : String) (decode' : Json → Option β) (make : α → β → Step) : Option Step := do
  let r ← arguments.record? [first, second]
  return make (← r.require first decode) (← r.require second decode')

/-- The step with a tag and its arguments. -/
def ofParts? (tag : String) (arguments : Json) : Option Step :=
  let unaryText (first : String) := unary? arguments first Json.string?
  let binaryText (first second : String) :=
    binary? arguments first Json.string? second Json.string?
  match tag with
  | "httpCode" => unary? arguments "expected" (fin? _) .httpCode
  | "httpTiming" => unary? arguments "max_ms" Json.double? .httpTiming
  | "headerValueExist" => unaryText "name" .headerValueExist
  | "headerValueNotExist" => unaryText "name" .headerValueNotExist
  | "headerValueEqual" => binaryText "name" "expected" .headerValueEqual
  | "headers" => unary? arguments "table" DataTable.ofJson? .headers
  | "shouldBeEmptyArrayResponse" => some .shouldBeEmptyArrayResponse
  | "shouldNotBeEmptyArrayResponse" => some .shouldNotBeEmptyArrayResponse
  | "shouldBeEmptyResponse" => some .shouldBeEmptyResponse
  | "shouldBeNumber" => binaryText "path" "expected" .shouldBeNumber
  | "shouldBeTrue" => unaryText "path" .shouldBeTrue
  | "shouldBeFalse" => unaryText "path" .shouldBeFalse
  | "shouldBeNull" => unaryText "path" .shouldBeNull
  | "shouldBeString" => binaryText "path" "expected" .shouldBeString
  | "shouldBeEmpty" => unaryText "path" .shouldBeEmpty
  | "shouldNotBeNull" => unaryText "path" .shouldNotBeNull
  | "shouldBeArraySize" => unary? arguments "size" (fin? _) .shouldBeArraySize
  | "shouldBeAnArray" => unaryText "path" .shouldBeAnArray
  | "shouldBeAnArrayOfXItems" =>
    binary? arguments "path" Json.string? "size" (fin? _) .shouldBeAnArrayOfXItems
  | "shouldMatch" => binaryText "path" "pattern" .shouldMatch
  | "shouldBeNow" => unaryText "path" .shouldBeNow
  | "addHeaderPropertyToDataset" => binaryText "name" "key" .addHeaderPropertyToDataset
  | "addBodyPropertyToDataset" => binaryText "path" "key" .addBodyPropertyToDataset
  | _ => none

/-- The step that a value denotes: an object with the tag under `predicate`, or an array with the tag in
front of the arguments. -/
def ofJson? : Json → Option Step
  | .object members =>
    match Fields.get? "predicate" members with
    | some (.string tag) => ofParts? tag (.object members)
    | _ => none
  | .array (.string tag :: rest) => ofParts? tag (.array rest)
  | _ => none

end Step

end ApiCheck
