import ApiCheck.Hook
import ApiCheck.Report
import ApiCheck.Step.Catalog
import ApiCheck.Step.Execution

/-!
# Running scenarios

A scenario is run between its hooks: the hooks before it, its steps one by one, the hooks after it.
Its report has one result for each step, in their order.  After the first step that fails, and when
the hooks before the scenario failed or skipped it, steps are not executed but reported as skipped.
A failure of the hooks stands in the report as a result of its own, in front of the steps or after
them.  The hooks after the scenario run in every case.
-/

namespace ApiCheck

/-! ### Types -/

/-- A step as it stands in a scenario. -/
structure StepLine where
  /-- The text of the step, with or without its keyword. -/
  text : String
  /-- The table under the step. -/
  table : Option DataTable := none
deriving DecidableEq

/-- The line as an object. -/
def StepLine.toJson (l : StepLine) : Json :=
  .ofFields (("text", .string l.text) :: l.table.toList.map fun t => ("table", t.toJson))

/-- What running a part of a scenario did. -/
structure Run (α : Type) where
  /-- The context that it left. -/
  context : Context
  journal : List Event := []
  /-- What it reports. -/
  report : α

namespace Run

/-- The name of the result for a failure of the hooks before a scenario. -/
def beforeLabel : String := "Before"

/-- The name of the result for a failure of the hooks after a scenario. -/
def afterLabel : String := "After"

/-- The result for a failure of hooks, if they failed. -/
def hookResults {α : Type} (label : String) (e : Effect α) : List StepResult :=
  match e.result with
  | .ok _ => []
  | .error cause => [.fail label none cause.message]

/-! ### Steps -/

/-- The line reported as skipped. -/
def skipped (l : StepLine) : StepResult :=
  .skip l.text

/-- Binds a line to a step and executes it. -/
def line (c : Context) (l : StepLine) : Run StepResult :=
  match Step.Catalog.parse l.text l.table with
  | .error cause => ⟨c, [], .fail l.text none cause.message⟩
  | .ok step =>
    let e := step.execute c
    match e.result with
    | .ok () => ⟨e.context, e.journal, .pass l.text step.name⟩
    | .error cause => ⟨e.context, e.journal, .fail l.text step.name cause.message⟩

/-- Goes on with the lines behind one that passed, and skips those behind one that did not. -/
def followedBy (first : Run StepResult) (goOn : Context → Run (List StepResult))
    (rest : List StepLine) : Run (List StepResult) :=
  match first.report.status with
  | .passed =>
    let more := goOn first.context
    ⟨more.context, first.journal ++ more.journal, first.report :: more.report⟩
  | _ => ⟨first.context, first.journal, first.report :: rest.map skipped⟩

/-- Runs lines up to the first that fails. -/
def lines : Context → List StepLine → Run (List StepResult)
  | c, [] => ⟨c, [], []⟩
  | c, l :: rest => (line c l).followedBy (fun c => lines c rest) rest

/-- Runs the lines of a scenario after the hooks before it. -/
def body (before : Effect HookOutcome) (ls : List StepLine) : Run (List StepResult) :=
  match before.result with
  | .ok .proceed => lines before.context ls
  | _ => ⟨before.context, [], ls.map skipped⟩

/-! ### Scenarios -/

/-- Runs a scenario. -/
def scenario (t : HookTable) (c : Context) (s : Scenario) (ls : List StepLine) : Run Report :=
  let before := t.runBefore c s
  let steps := body before ls
  let after := t.runAfter steps.context s
  ⟨after.context, before.journal ++ steps.journal ++ after.journal,
    .ofResults s.name after.context.skipped
      (hookResults beforeLabel before ++ steps.report ++ hookResults afterLabel after)⟩

end Run

end ApiCheck
