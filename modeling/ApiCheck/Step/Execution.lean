import ApiCheck.Context
import ApiCheck.Pattern
import ApiCheck.Step

/-!
# Executing steps

What a step does is laid down as a `Plan` first: the checks to make, or a value to capture.  Making
the plan looks up all that the step needs and changes nothing, so that a step that is refused makes
no check.  Every step but two plans checks, and exactly one of them; `headers` plans one for each
row.  `Plan.run` makes the checks up to the first that does not hold.

Every message starts with the label of the request.
-/

namespace ApiCheck.Step

/-! ### Plans -/

/-- What a step is going to do. -/
inductive Plan where
  /-- To make checks. -/
  | checks (cs : List Check)
  /-- To capture a value under a key. -/
  | capture (key : String) (value : Operand)

/-- The checks up to the first that does not hold. -/
def upToFailure : List Check → List Check
  | [] => []
  | c :: rest => if c.holds then c :: upToFailure rest else [c]

/-- The verdict on checks: the first that does not hold fails all of them. -/
def verdict (cs : List Check) : Except StepError Unit :=
  match cs.find? fun c => !c.holds with
  | none => .ok ()
  | some failed => .error (.assertion failed)

/-- Carries a plan out. -/
def Plan.run (c : Context) : Plan → Effect Unit
  | .checks cs => ⟨c, (upToFailure cs).map .checked, verdict cs⟩
  | .capture key value =>
    match c.capture key value with
    | .ok c' => ⟨c', [], .ok ()⟩
    | .error e => ⟨c, [], .error e⟩

/-! ### Checks -/

/-- A message about a response. -/
def about (r : Response) (s : String) : String :=
  r.label ++ " " ++ s

/-- The value at a location of a response. -/
def locate (r : Response) (l : Response.Location) : Except StepError Operand :=
  (r.locate l).mapError .lookup

/-- The check that a header has a value. -/
def headerCheck (r : Response) (name expected : String) : Check :=
  let value := r.findInHeader name
  .equal value (.ofString expected) (about r
    s!"The response header is invalid, the {name} property should be {expected} but received {value.text}")

/-- The check that a node has a value. -/
def nodeCheck (r : Response) (path : String) (actual expected : Operand) : Check :=
  .equal actual expected (about r
    s!"The response body property {path} should be {expected.text} but received {actual.text}")

/-- The value that a text stands for: the words `true`, `false` and `null` for those values. -/
def keyword : Operand → Operand
  | .json (.string "true") => .ofBool true
  | .json (.string "false") => .ofBool false
  | .json (.string "null") => .null
  | x => x

/-- Plans one check of the response. -/
def checkResponse (c : Context) (make : Response → Check) : Except StepError Plan := do
  let r ← c.needResponse
  return .checks [make r]

/-- Plans one check of the value at a location. -/
def checkAt (c : Context) (l : Response.Location) (make : Response → Operand → Check) :
    Except StepError Plan := do
  let r ← c.needResponse
  let actual ← locate r l
  return .checks [make r actual]

/-- Plans to capture the value at a location. -/
def captureAt (c : Context) (l : Response.Location) (key : String) : Except StepError Plan := do
  let r ← c.needResponse
  return .capture key (← locate r l)

/-! ### Steps -/

/-- What a step is going to do in a context. -/
def plan (c : Context) : Step → Except StepError Plan
  | .httpCode expected =>
    checkResponse c fun r => .equal (.ofNat r.status) (.ofNat expected) (about r
      s!"The response httpCode is invalid, received {r.status} should be {expected.val}")
  | .httpTiming maxMs =>
    checkResponse c fun r => .isTrue (r.timing.numLt maxMs) (about r
      s!"The response time is invalid, received {r.timing.text} should be lower than {maxMs.text}")
  | .headerValueExist name =>
    checkAt c (.header name) fun r value => .notEqual value .undefined (about r
      s!"The response header should contain the {name} property")
  | .headerValueNotExist name =>
    checkAt c (.header name) fun r value => .equal value .undefined (about r
      s!"The response header should not contain the {name} property")
  | .headerValueEqual name expected =>
    checkResponse c fun r => headerCheck r name expected
  | .headers table => do
    match ← table.pairs.mapError .table with
    | [] => return .checks []
    | rows =>
      let r ← c.needResponse
      return .checks (rows.map fun (name, expected) => headerCheck r name expected)
  | .shouldBeEmptyArrayResponse =>
    checkAt c .body fun r body => .equal body.length (.ofNat 0) (about r
      s!"The response body should return an empty array, but received an array with {body.length.text} items")
  | .shouldNotBeEmptyArrayResponse =>
    checkAt c .body fun r body => .notEqual body.length (.ofNat 0) (about r
      s!"The response body should return an array containing items, but received an array with {body.length.text} items")
  | .shouldBeEmptyResponse =>
    checkAt c .body fun r body =>
      .equal body .undefined (about r "The response body should be empty")
  | .shouldBeNumber path expected => do
    let r ← c.needResponse
    let expected ← c.resolve expected
    let actual ← locate r (.node path)
    return .checks [nodeCheck r path actual expected.coerceNumber]
  | .shouldBeTrue path =>
    checkAt c (.node path) fun r actual => nodeCheck r path actual (.ofBool true)
  | .shouldBeFalse path =>
    checkAt c (.node path) fun r actual => nodeCheck r path actual (.ofBool false)
  | .shouldBeNull path =>
    checkAt c (.node path) fun r actual => nodeCheck r path actual .null
  | .shouldBeString path expected => do
    let expected ← c.resolve expected
    checkAt c (.node path) fun r actual => nodeCheck r path actual (keyword expected)
  | .shouldBeEmpty path =>
    checkAt c (.node path) fun r actual => .equal actual (.ofString "") (about r
      s!"The response body property {path} should be empty but received {actual.text}")
  | .shouldNotBeNull path =>
    checkAt c (.node path) fun r actual => .notEqual actual .null (about r
      s!"The response body property {path} should not be null but received null")
  | .shouldBeArraySize size =>
    checkAt c .body fun r body => .equal body.length (.ofNat size) (about r
      s!"The response body property should contain an array of {size.val} items but received an array of {body.length.text} items")
  | .shouldBeAnArray path =>
    checkAt c (.node path) fun r actual => .isTrue actual.isArray (about r
      s!"The response body property should contain an array but received a {actual.kind.name} ({actual.text})")
  | .shouldBeAnArrayOfXItems path size =>
    checkAt c (.node path) fun r actual => .equal actual.length (.ofNat size) (about r
      s!"The response body property {path} should contain an array of {size.val} but received {actual.length.text} item(s)")
  | .shouldMatch path pattern => do
    let _ ← c.needResponse
    match Pattern.compile? pattern with
    | none => .error (.invalidPattern pattern)
    | some regex =>
      checkAt c (.node path) fun r actual => .isTrue (Pattern.isMatch regex actual.text) (about r
        s!"The response body property {path} should match the regexp {pattern} but received : {actual.text}")
  | .shouldBeNow path =>
    checkAt c (.node path) fun r actual => .isTrue (c.isNow actual) (about r
      s!"The response body property {path} should be close to now, but received : {actual.text}")
  | .addHeaderPropertyToDataset name key => captureAt c (.header name) key
  | .addBodyPropertyToDataset path key => captureAt c (.node path) key

/-- Executes a step. -/
def execute (c : Context) (s : Step) : Effect Unit :=
  match s.plan c with
  | .ok p => p.run c
  | .error e => ⟨c, [], .error e⟩

end ApiCheck.Step
