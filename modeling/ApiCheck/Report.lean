import ApiCheck.Json.Record

/-!
# Scenario reports

A report lists what became of the steps of a scenario and counts them by status.  The counts are
taken from the results when the report is made (`Report.ofResults`), so that they always add up.
-/

namespace ApiCheck

/-! ### Results of steps -/

/-- What became of a step. -/
inductive Status where
  | passed
  | failed
  | skipped
deriving DecidableEq

/-- The result of a step. -/
structure StepResult where
  /-- The text of the step, as it stands in the scenario. -/
  step : String
  /-- The predicate that the step was bound to, where it was bound. -/
  predicate : Option String := none
  status : Status
  /-- The message of the failure. -/
  error : Option String := none
deriving DecidableEq

namespace StepResult

/-- A step that passed. -/
def pass (step predicate : String) : StepResult :=
  ⟨step, some predicate, .passed, none⟩

/-- A step that failed. -/
def fail (step : String) (predicate : Option String) (error : String) : StepResult :=
  ⟨step, predicate, .failed, some error⟩

/-- A step that was not executed. -/
def skip (step : String) : StepResult :=
  ⟨step, none, .skipped, none⟩

end StepResult

/-! ### Reports -/

/-- The results of a scenario with their counts. -/
structure Report where
  /-- The name of the scenario. -/
  scenario : String
  /-- Whether a tag kept the scenario from being executed. -/
  skipped : Bool
  results : List StepResult
  total : Nat
  passed : Nat
  failed : Nat
  skippedSteps : Nat

namespace Report

/-- The number of results with a status. -/
def count (status : Status) (results : List StepResult) : Nat :=
  results.countP fun r => r.status == status

/-- The report of a list of results. -/
def ofResults (scenario : String) (skipped : Bool) (results : List StepResult) : Report where
  scenario := scenario
  skipped := skipped
  results := results
  total := results.length
  passed := count .passed results
  failed := count .failed results
  skippedSteps := count .skipped results

/-- Whether no step failed. -/
def allPassed (r : Report) : Bool :=
  r.failed == 0

/-- The first message among the results. -/
def firstError (r : Report) : Option String :=
  r.results.findSome? StepResult.error

end Report

/-! ### JSON -/

/-- The name of a status. -/
def Status.name : Status → String
  | .passed => "passed"
  | .failed => "failed"
  | .skipped => "skipped"

/-- The status that a name denotes. -/
def Status.ofName? (s : String) : Option Status :=
  [.passed, .failed, .skipped].find? fun status : Status => status.name == s

/-- The status that a value denotes: a name, or an object with a name as its only key and `null` as
its value. -/
def Status.ofJson? : Json → Option Status
  | .string s => ofName? s
  | .object [(s, .null)] => ofName? s
  | _ => none

namespace StepResult

/-- The result that a record denotes. -/
def ofJson? (v : Json) : Option StepResult := do
  let r ← v.record? ["step", "predicate", "status", "error"]
  let step ← r.require "step" Json.string?
  let predicate ← r.getNullable "predicate" Json.string?
  let status ← r.require "status" Status.ofJson?
  let error ← r.getNullable "error" Json.string?
  return ⟨step, predicate, status, error⟩

/-- The result as an object. -/
def toJson (r : StepResult) : Json :=
  .ofFields [("step", .string r.step), ("predicate", .ofOptionString r.predicate),
    ("status", .string r.status.name), ("error", .ofOptionString r.error)]

end StepResult

/-- The report as an object. -/
def Report.toJson (r : Report) : Json :=
  .ofFields [("scenario", .string r.scenario), ("skipped", .bool r.skipped),
    ("results", .array (r.results.map StepResult.toJson)), ("total", .ofNat r.total),
    ("passed", .ofNat r.passed), ("failed", .ofNat r.failed),
    ("skipped_steps", .ofNat r.skippedSteps)]

end ApiCheck
