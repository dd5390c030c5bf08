import ApiCheck.Proofs.Lifecycle
import ApiCheck.Proofs.Run.Report
import ApiCheck.Proofs.Step.Execution

/-!
# Isolation of scenarios

A scenario under the hooks of the lifecycle does not see what was left behind by those before it:
neither values of the dataset, nor the injected configuration, nor the mark of a skipped scenario.
`isolation` compares two runs of one scenario, from contexts that share the fixtures, the response
and the current time and nothing else.

Behind it stands a simulation.  Contexts are `Alike` when they differ at most in the fixtures and the
mark, which no step reads; steps and lines lead alike contexts to alike ones, with the same reports
and the same journals.  A valid configuration makes the contexts alike before the first line.
-/

namespace ApiCheck

namespace Context

/-! ### Alike contexts -/

/-- The contexts agree on all that steps read. -/
structure Alike (c₁ c₂ : Context) : Prop where
  config : c₁.config = c₂.config
  values : c₁.data.values = c₂.data.values
  response : c₁.response = c₂.response
  now : c₁.now = c₂.now

variable {c₁ c₂ : Context}

/-- A step plans the same in alike contexts. -/
theorem Alike.plan_eq (h : c₁.Alike c₂) (s : Step) : s.plan c₁ = s.plan c₂ := by
  obtain ⟨config₁, ⟨values₁, fixtures₁⟩, response₁, skipped₁, now₁⟩ := c₁
  obtain ⟨config₂, ⟨values₂, fixtures₂⟩, response₂, skipped₂, now₂⟩ := c₂
  obtain ⟨rfl, rfl, rfl, rfl⟩ := h
  -- What is left to differ is the fixtures and the mark, which no branch of `plan` looks at.
  cases s <;> rfl

end Context

/-- The effects leave alike contexts and are otherwise equal. -/
structure Effect.Alike {α : Type} (e₁ e₂ : Effect α) : Prop where
  context : e₁.context.Alike e₂.context
  journal : e₁.journal = e₂.journal
  result : e₁.result = e₂.result

/-- The runs leave alike contexts and are otherwise equal. -/
structure Run.Alike {α : Type} (r₁ r₂ : Run α) : Prop where
  context : r₁.context.Alike r₂.context
  journal : r₁.journal = r₂.journal
  report : r₁.report = r₂.report

variable {c₁ c₂ : Context}

/-! ### Steps -/

/-- Values captured in alike contexts are captured alike, or refused alike. -/
theorem Context.Alike.run_capture (h : c₁.Alike c₂) (key : String) (v : Operand) :
    ((Step.Plan.capture key v).run c₁).Alike ((Step.Plan.capture key v).run c₂) := by
  obtain ⟨hconfig, hvalues, hresponse, hnow⟩ := h
  by_cases hkey : Dataset.normalKey key = ""
  · simp only [Step.Plan.run, Context.capture, Dataset.set, hkey, ↓reduceIte]
    exact ⟨⟨hconfig, hvalues, hresponse, hnow⟩, rfl, rfl⟩
  · simp only [Step.Plan.run, Context.capture, Dataset.set, hkey, ↓reduceIte]
    refine ⟨⟨hconfig, ?_, hresponse, hnow⟩, rfl, rfl⟩
    rw [hvalues]

theorem Context.Alike.execute (h : c₁.Alike c₂) (s : Step) :
    (s.execute c₁).Alike (s.execute c₂) := by
  have hplan := h.plan_eq s
  cases h₂ : s.plan c₂ with
  | error e =>
    rw [Step.execute_of_error (hplan.trans h₂), Step.execute_of_error h₂]
    exact ⟨h, rfl, rfl⟩
  | ok p =>
    rw [Step.execute_of_ok (hplan.trans h₂), Step.execute_of_ok h₂]
    cases p with
    | checks ks => exact ⟨h, rfl, rfl⟩
    | capture key v => exact h.run_capture key v

/-! ### Lines -/

theorem Context.Alike.line (h : c₁.Alike c₂) (l : StepLine) :
    (Run.line c₁ l).Alike (Run.line c₂ l) := by
  cases hparse : Step.Catalog.parse l.text l.table with
  | error cause =>
    rw [Run.line_of_unbound hparse, Run.line_of_unbound hparse]
    exact ⟨h, rfl, rfl⟩
  | ok step =>
    obtain ⟨hcontext, hjournal, hresult⟩ := h.execute step
    cases h₂ : (step.execute c₂).result with
    | ok =>
      rw [Run.line_of_ok hparse (hresult.trans h₂), Run.line_of_ok hparse h₂]
      exact ⟨hcontext, hjournal, rfl⟩
    | error cause =>
      rw [Run.line_of_error hparse (hresult.trans h₂), Run.line_of_error hparse h₂]
      exact ⟨hcontext, hjournal, rfl⟩

/-- Lines are executed alike from alike contexts. -/
theorem Context.Alike.lines (h : c₁.Alike c₂) (ls : List StepLine) :
    (Run.lines c₁ ls).Alike (Run.lines c₂ ls) := by
  induction ls generalizing c₁ c₂ with
  | nil => exact ⟨h, rfl, rfl⟩
  | cons l ls ih =>
    obtain ⟨hcontext, hjournal, hreport⟩ := h.line l
    have hrest := ih hcontext
    rcases Run.line_cases c₂ l with ⟨step, -, -, hline⟩ | ⟨hfailed, -⟩
    · have hpassed : (Run.line c₂ l).report.status = .passed := by rw [hline]
      rw [Run.lines_of_passed hpassed, Run.lines_of_passed (by rw [hreport, hpassed])]
      refine ⟨hrest.context, ?_, ?_⟩
      · simp only [hjournal, hrest.journal]
      · simp only [hreport, hrest.report]
    · rw [Run.lines_of_failed hfailed, Run.lines_of_failed (by rw [hreport, hfailed])]
      refine ⟨hcontext, hjournal, ?_⟩
      simp only [hreport]

/-! ### Scenarios -/

/-- The contexts agree on what stays from one scenario to the next: the fixtures of every scenario, the
captured response and the current time. -/
structure Context.SameSetting (c₁ c₂ : Context) : Prop where
  fixtures : ∀ scenario, c₁.data.fixturesOf scenario = c₂.data.fixturesOf scenario
  response : c₁.response = c₂.response
  now : c₁.now = c₂.now

/-- A valid configuration and the seed replace all that was left behind but the mark. -/
theorem Context.SameSetting.prepared (h : c₁.SameSetting c₂) (config : ValidConfig)
    (s : Scenario) :
    (Lifecycle.prepared c₁ config s).Alike (Lifecycle.prepared c₂ config s) where
  config := rfl
  values := by simp only [Lifecycle.prepared, Dataset.seed, Dataset.seedValues, h.fixtures]
  response := h.response
  now := h.now

/-- With a valid configuration the hooks before a scenario lead to alike contexts. -/
theorem Context.SameSetting.runBefore (h : c₁.SameSetting c₂) {config : Config}
    (hvalid : config.validate = .ok ()) (s : Scenario) :
    ((Lifecycle.register config {}).runBefore c₁ s).Alike
      ((Lifecycle.register config {}).runBefore c₂ s) := by
  obtain ⟨hconfig, hvalues, hresponse, hnow⟩ := h.prepared ⟨config, hvalid⟩ s
  rw [Lifecycle.runBefore_of_valid hvalid, Lifecycle.runBefore_of_valid hvalid]
  split
  · exact ⟨⟨hconfig, hvalues, hresponse, hnow⟩, rfl, rfl⟩
  · exact ⟨⟨hconfig, hvalues, hresponse, hnow⟩, rfl, rfl⟩

theorem Effect.Alike.body {before₁ before₂ : Effect HookOutcome} (h : before₁.Alike before₂)
    (ls : List StepLine) : (Run.body before₁ ls).Alike (Run.body before₂ ls) := by
  by_cases hproceed : before₂.result = .ok .proceed
  · rw [Run.body_of_proceed hproceed, Run.body_of_proceed (h.result.trans hproceed)]
    exact h.context.lines ls
  · rw [Run.body_of_not_proceed hproceed,
      Run.body_of_not_proceed (fun h₁ => hproceed (h.result.symm.trans h₁))]
    exact ⟨h.context, rfl, rfl⟩

namespace Run

theorem hookResults_congr {α : Type} (label : String) {e₁ e₂ : Effect α}
    (h : e₁.result = e₂.result) : hookResults label e₁ = hookResults label e₂ := by
  simp only [hookResults, h]

/-- Under the hooks of the lifecycle the results are those of the hooks before the scenario and of its
lines. -/
theorem results_register (config : Config) (c : Context) (s : Scenario) (ls : List StepLine) :
    (scenario (Lifecycle.register config {}) c s ls).report.results =
      hookResults beforeLabel ((Lifecycle.register config {}).runBefore c s) ++
        (body ((Lifecycle.register config {}).runBefore c s) ls).report :=
  List.append_nil _

theorem journal_register (config : Config) (c : Context) (s : Scenario) (ls : List StepLine) :
    (scenario (Lifecycle.register config {}) c s ls).journal =
      ((Lifecycle.register config {}).runBefore c s).journal ++
        (body ((Lifecycle.register config {}).runBefore c s) ls).journal :=
  List.append_nil _

/-- Runs of one scenario from one setting have the same results and make the same checks, whether the
configuration is valid or not. -/
theorem results_eq_of_sameSetting (config : Config) (s : Scenario) (ls : List StepLine)
    (h : c₁.SameSetting c₂) :
    (scenario (Lifecycle.register config {}) c₁ s ls).report.results =
      (scenario (Lifecycle.register config {}) c₂ s ls).report.results ∧
    (scenario (Lifecycle.register config {}) c₁ s ls).journal =
      (scenario (Lifecycle.register config {}) c₂ s ls).journal := by
  rw [results_register, results_register, journal_register, journal_register]
  cases hvalid : config.validate with
  | ok =>
    have hbefore := h.runBefore hvalid s
    obtain ⟨-, hjournal, hreport⟩ := hbefore.body ls
    rw [hookResults_congr _ hbefore.result, hbefore.journal, hjournal, hreport]
    exact ⟨rfl, rfl⟩
  | error cause =>
    -- No line is executed, so that the contexts need not be alike.
    rw [Lifecycle.runBefore_of_invalid hvalid, Lifecycle.runBefore_of_invalid hvalid]
    exact ⟨rfl, rfl⟩

/-- **Isolation of scenarios**: two runs of one scenario under the hooks of the lifecycle, from contexts
that share the fixtures, the response and the current time, but may differ in the values left in the
dataset, the injected configuration and the mark.  The results, their counts and the checks made are
the same, and with a valid configuration so are the values and the configuration in the end. -/
theorem isolation (config : Config) (s : Scenario) (ls : List StepLine)
    (h : c₁.SameSetting c₂) :
    let run₁ := scenario (Lifecycle.register config {}) c₁ s ls
    let run₂ := scenario (Lifecycle.register config {}) c₂ s ls
    run₁.report.results = run₂.report.results ∧
    run₁.report.total = run₂.report.total ∧
    run₁.report.passed = run₂.report.passed ∧
    run₁.report.failed = run₂.report.failed ∧
    run₁.report.skippedSteps = run₂.report.skippedSteps ∧
    run₁.journal = run₂.journal ∧
    (config.validate = .ok () →
      run₁.context.data.values = run₂.context.data.values ∧
      run₁.context.config = run₂.context.config) := by
  intro run₁ run₂
  obtain ⟨hresults, hjournal⟩ := results_eq_of_sameSetting config s ls h
  have hcount (status : Status) :
      Report.count status run₁.report.results = Report.count status run₂.report.results :=
    congrArg (Report.count status) hresults
  refine ⟨hresults, congrArg List.length hresults, hcount .passed, hcount .failed, hcount .skipped,
    hjournal, fun hvalid => ?_⟩
  have halike := ((h.runBefore hvalid s).body ls).context
  exact ⟨halike.values, halike.config⟩

/-! ### A context with leftovers -/

/-- A context in which nothing happened yet. -/
def untouched : Context where
  data := { fixtures := [⟨"greet", "name", .ofString "john"⟩] }
  response := some { label := "[GET /]", status := 200, body := some (.string "john") }
  now := ⟨0, 0, 0⟩

/-- A context after other scenarios: it holds another configuration, other values, also under the key
of the fixture, and the mark of a skipped scenario. -/
def leftBehind : Context :=
  { untouched with
    config := some ⟨{ name := "orders api" }, rfl⟩
    data := { untouched.data with values := [("name", .null), ("stale", .ofNat 1)] }
    skipped := true }

/-- A step that reads a value of the dataset passes in both contexts, and leaves the same values. -/
theorem isolation_leftBehind :
    let t := Lifecycle.register { name := "users api" } {}
    let ls : List StepLine := [⟨"the response body at '' should equal '\x7b\x7b name \x7d\x7d'", none⟩]
    untouched.SameSetting leftBehind ∧
      (scenario t untouched { name := "greet" } ls).report.results.map StepResult.status =
        [.passed] ∧
      (scenario t leftBehind { name := "greet" } ls).report.results.map StepResult.status =
        [.passed] ∧
      (scenario t untouched { name := "greet" } ls).context.data.values =
        (scenario t leftBehind { name := "greet" } ls).context.data.values := by
  intro t ls
  have h : untouched.SameSetting leftBehind := ⟨fun _ => rfl, rfl, rfl⟩
  obtain ⟨hresults, -, -, -, -, -, hvalues⟩ :=
    isolation { name := "users api" } { name := "greet" } ls h
  have hpassed : (scenario t untouched { name := "greet" } ls).report.results.map
      StepResult.status = [.passed] := by decide +kernel
  exact ⟨h, hpassed, by rw [← hpassed, hresults], (hvalues rfl).1⟩

end Run

end ApiCheck
