import ApiCheck.Run

/-!
# The report of a scenario

`Run.Executes c ls r` says, line by line, what running the lines `ls` from the context `c` does: the
lines pass one after another (`Run.Passes`), all of them or up to one that fails (`Run.Fails`), and
those behind a failing line are skipped without being bound to a step.  `Run.lines` does exactly this
(`executes_iff`).

`scenario_report` puts the parts together: the results of a scenario are an entry for its hooks before
it where these failed, one entry for each line in their order, and an entry for its hooks after it
where those failed.  The hooks after it run once, from the context that the executed lines left.
-/

namespace ApiCheck

/-! ### Counting results -/

/-- The result carries a message exactly if it failed. -/
def StepResult.Explained (r : StepResult) : Prop :=
  r.status = .failed ↔ r.error.isSome

namespace Report

/-- Every result has one of the three statuses. -/
theorem count_add_count_add_count (results : List StepResult) :
    count .passed results + count .failed results + count .skipped results = results.length := by
  induction results with
  | nil => rfl
  | cons r rest ih =>
    simp only [count, List.countP_cons, List.length_cons] at ih ⊢
    cases r.status <;> simp <;> omega

/-- Where failures are what carries messages, a report without failures is one without messages. -/
theorem allPassed_iff_firstError {r : Report} (hfailed : r.failed = count .failed r.results)
    (h : ∀ x ∈ r.results, x.Explained) : r.allPassed ↔ r.firstError = none := by
  simp only [allPassed, firstError, hfailed, count, beq_iff_eq, List.countP_eq_zero,
    List.findSome?_eq_none_iff]
  refine forall₂_congr fun x hx => ?_
  have hx := h x hx
  unfold StepResult.Explained at hx
  rw [hx, Option.not_isSome_iff_eq_none]

end Report

namespace Run

/-! ### Executed lines -/

/-- The lines bind to steps that all succeed, each in the context that the one before it left. -/
inductive Passes : Context → List StepLine → Run (List StepResult) → Prop
  | nil (c : Context) : Passes c [] ⟨c, [], []⟩
  | cons {c : Context} {l : StepLine} {ls : List StepLine} {step : Step}
      {r : Run (List StepResult)} (bound : Step.Catalog.parse l.text l.table = .ok step)
      (succeeds : (step.execute c).result = .ok ())
      (rest : Passes (step.execute c).context ls r) :
      Passes c (l :: ls) ⟨r.context, (step.execute c).journal ++ r.journal,
        ⟨l.text, some step.name, .passed, none⟩ :: r.report⟩

/-- The line binds to no step, or to one that fails; the entry carries the wording of the cause. -/
inductive Fails (c : Context) (l : StepLine) : Run StepResult → Prop
  | unbound {cause : StepError} (refused : Step.Catalog.parse l.text l.table = .error cause) :
      Fails c l ⟨c, [], ⟨l.text, none, .failed, some cause.message⟩⟩
  | executed {step : Step} {cause : StepError}
      (bound : Step.Catalog.parse l.text l.table = .ok step)
      (fails : (step.execute c).result = .error cause) :
      Fails c l ⟨(step.execute c).context, (step.execute c).journal,
        ⟨l.text, some step.name, .failed, some cause.message⟩⟩

/-- The lines pass up to the first that fails, if any does, and those behind it are skipped. -/
inductive Executes (c : Context) : List StepLine → Run (List StepResult) → Prop
  | all {ls : List StepLine} {r : Run (List StepResult)} (passes : Passes c ls r) :
      Executes c ls r
  | upTo {done : List StepLine} {l : StepLine} {r : Run (List StepResult)}
      {f : Run StepResult} (passes : Passes c done r) (fails : Fails r.context l f)
      (rest : List StepLine) : Executes c (done ++ l :: rest) ⟨f.context, r.journal ++ f.journal,
        r.report ++ f.report :: rest.map fun l => ⟨l.text, none, .skipped, none⟩⟩

section

variable {c : Context} {l : StepLine} {step : Step} {cause : StepError}

theorem line_of_unbound (hparse : Step.Catalog.parse l.text l.table = .error cause) :
    line c l = ⟨c, [], ⟨l.text, none, .failed, some cause.message⟩⟩ := by
  unfold line
  rw [hparse]
  rfl

theorem line_of_ok (hparse : Step.Catalog.parse l.text l.table = .ok step)
    (hok : (step.execute c).result = .ok ()) :
    line c l = ⟨(step.execute c).context, (step.execute c).journal,
      ⟨l.text, some step.name, .passed, none⟩⟩ := by
  unfold line
  rw [hparse]
  dsimp only
  rw [hok]
  rfl

theorem line_of_error (hparse : Step.Catalog.parse l.text l.table = .ok step)
    (herror : (step.execute c).result = .error cause) :
    line c l = ⟨(step.execute c).context, (step.execute c).journal,
      ⟨l.text, some step.name, .failed, some cause.message⟩⟩ := by
  unfold line
  rw [hparse]
  dsimp only
  rw [herror]
  rfl

end

/-- A failing line has one outcome. -/
theorem Fails.eq_line {c : Context} {l : StepLine} {f : Run StepResult} (h : Fails c l f) :
    line c l = f := by
  cases h with
  | unbound refused => exact line_of_unbound refused
  | executed bound fails => exact line_of_error bound fails

/-- A line passes, or it fails. -/
theorem line_cases (c : Context) (l : StepLine) :
    (∃ step, Step.Catalog.parse l.text l.table = .ok step ∧ (step.execute c).result = .ok () ∧
      line c l = ⟨(step.execute c).context, (step.execute c).journal,
        ⟨l.text, some step.name, .passed, none⟩⟩) ∨
    ((line c l).report.status = .failed ∧ Fails c l (line c l)) := by
  cases hparse : Step.Catalog.parse l.text l.table with
  | error cause =>
    rw [line_of_unbound hparse]
    exact .inr ⟨rfl, .unbound hparse⟩
  | ok step =>
    cases hresult : (step.execute c).result with
    | ok => exact .inl ⟨step, rfl, hresult, line_of_ok hparse hresult⟩
    | error cause =>
      rw [line_of_error hparse hresult]
      exact .inr ⟨rfl, .executed hparse hresult⟩

theorem Fails.status {c : Context} {l : StepLine} {f : Run StepResult} (h : Fails c l f) :
    f.report.status = .failed := by
  cases h <;> rfl

theorem lines_nil (c : Context) : lines c [] = ⟨c, [], []⟩ := rfl

/-- A line that passes stands in front of what the others do. -/
theorem lines_of_passed {c : Context} {l : StepLine} (h : (line c l).report.status = .passed)
    (ls : List StepLine) :
    lines c (l :: ls) = ⟨(lines (line c l).context ls).context,
      (line c l).journal ++ (lines (line c l).context ls).journal,
      (line c l).report :: (lines (line c l).context ls).report⟩ := by
  rw [lines, followedBy, h]

/-- A line that fails ends the execution. -/
theorem lines_of_failed {c : Context} {l : StepLine} (h : (line c l).report.status = .failed)
    (ls : List StepLine) :
    lines c (l :: ls) = ⟨(line c l).context, (line c l).journal,
      (line c l).report :: ls.map skipped⟩ := by
  rw [lines, followedBy, h]

/-- Running lines does what `Executes` says. -/
theorem executes_lines (c : Context) (ls : List StepLine) : Executes c ls (lines c ls) := by
  induction ls generalizing c with
  | nil => exact .all (.nil c)
  | cons l ls ih =>
    rcases line_cases c l with ⟨step, hparse, hok, hline⟩ | ⟨hstatus, hfails⟩
    · have hpassed : (line c l).report.status = .passed := by rw [hline]
      rw [lines_of_passed hpassed, hline]
      have hex := ih (step.execute c).context
      generalize lines (step.execute c).context ls = r at hex
      -- The passing line joins the lines in front of the failing one, if there is one.
      cases hex with
      | all passes => exact .all (.cons hparse hok passes)
      | upTo passes fails rest =>
        have hex := Executes.upTo (Passes.cons hparse hok passes) fails rest
        simpa [List.append_assoc] using hex
    · rw [lines_of_failed hstatus]
      exact Executes.upTo (Passes.nil c) hfails ls

/-- Lines that pass stand in front of what the lines behind them do. -/
theorem Passes.lines_append {c : Context} {done : List StepLine} {r : Run (List StepResult)}
    (h : Passes c done r) (rest : List StepLine) :
    lines c (done ++ rest) = ⟨(lines r.context rest).context,
      r.journal ++ (lines r.context rest).journal,
      r.report ++ (lines r.context rest).report⟩ := by
  induction h with
  | nil => rfl
  | @cons c l ls step r bound succeeds _ ih =>
    have hline := line_of_ok bound succeeds
    have hpassed : (line c l).report.status = .passed := by rw [hline]
    rw [List.cons_append, lines_of_passed hpassed, hline]
    simp only [ih, List.append_assoc, List.cons_append]

/-- Nothing but what `Executes` says is what running lines does. -/
theorem executes_iff {c : Context} {ls : List StepLine} {r : Run (List StepResult)} :
    Executes c ls r ↔ lines c ls = r := by
  constructor
  · intro h
    cases h with
    | all passes => simpa only [lines_nil, List.append_nil] using passes.lines_append []
    | upTo passes fails rest =>
      -- The lines that passed lead to the failing one, and that decides the rest.
      have hline := fails.eq_line
      have hfailed : (line _ _).report.status = .failed := hline ▸ fails.status
      rw [passes.lines_append, lines_of_failed hfailed, hline]
      rfl
  · rintro rfl
    exact executes_lines c ls

/-! ### Entries of lines -/

theorem Passes.steps {c : Context} {ls : List StepLine} {r : Run (List StepResult)}
    (h : Passes c ls r) : r.report.map StepResult.step = ls.map StepLine.text := by
  induction h with
  | nil => rfl
  | cons _ _ _ ih => rw [List.map_cons, ih, List.map_cons]

theorem Passes.statuses {c : Context} {ls : List StepLine} {r : Run (List StepResult)}
    (h : Passes c ls r) : r.report.map StepResult.status = List.replicate ls.length .passed := by
  induction h with
  | nil => rfl
  | cons _ _ _ ih => rw [List.map_cons, ih, List.length_cons, List.replicate_succ]

theorem Fails.step {c : Context} {l : StepLine} {f : Run StepResult} (h : Fails c l f) :
    f.report.step = l.text := by
  cases h <;> rfl

/-- There is one entry for each line, with its text. -/
theorem Executes.steps {c : Context} {ls : List StepLine} {r : Run (List StepResult)}
    (h : Executes c ls r) : r.report.map StepResult.step = ls.map StepLine.text := by
  cases h with
  | all passes => exact passes.steps
  | upTo passes fails rest => simp [passes.steps, fails.step, Function.comp_def]

/-- The entries passed, or they passed up to one that failed and the others are skipped. -/
theorem Executes.statuses {c : Context} {ls : List StepLine} {r : Run (List StepResult)}
    (h : Executes c ls r) :
    r.report.map StepResult.status = List.replicate ls.length .passed ∨
    ∃ m n, r.report.map StepResult.status =
      List.replicate m .passed ++ .failed :: List.replicate n .skipped := by
  cases h with
  | all passes => exact .inl passes.statuses
  | @upTo done l r f passes fails rest =>
    -- As many entries passed as lines stand in front of the failing one.
    refine .inr ⟨done.length, rest.length, ?_⟩
    simp [passes.statuses, fails.status, Function.comp_def, List.map_const']

/-! ### Entries with messages -/

theorem Passes.explained {c : Context} {ls : List StepLine} {r : Run (List StepResult)}
    (h : Passes c ls r) : ∀ x ∈ r.report, x.Explained := by
  induction h with
  | nil => simp
  | cons _ _ _ ih =>
    intro x hx
    rcases List.mem_cons.mp hx with rfl | hx
    · simp [StepResult.Explained]
    · exact ih x hx

theorem Fails.explained {c : Context} {l : StepLine} {f : Run StepResult} (h : Fails c l f) :
    f.report.Explained := by
  cases h <;> simp [StepResult.Explained]

theorem explained_skipped (ls : List StepLine) :
    ∀ x ∈ ls.map skipped, x.Explained := by
  intro x hx
  obtain ⟨l, -, rfl⟩ := List.mem_map.mp hx
  simp [StepResult.Explained, skipped, StepResult.skip]

theorem Executes.explained {c : Context} {ls : List StepLine} {r : Run (List StepResult)}
    (h : Executes c ls r) : ∀ x ∈ r.report, x.Explained := by
  cases h with
  | all passes => exact passes.explained
  | upTo passes fails rest =>
    intro x hx
    rcases List.mem_append.mp hx with hx | hx
    · exact passes.explained x hx
    · rcases List.mem_cons.mp hx with rfl | hx
      · exact fails.explained
      · exact explained_skipped rest x hx

/-! ### Entries of hooks -/

/-- The entries for hooks with a result: one that failed with their cause, or none at all. -/
inductive HookEntries {α : Type} (label : String) : Except StepError α → List StepResult → Prop
  | succeeded (a : α) : HookEntries label (.ok a) []
  | failed (cause : StepError) :
      HookEntries label (.error cause) [⟨label, none, .failed, some cause.message⟩]

theorem hookEntries_hookResults {α : Type} (label : String) (e : Effect α) :
    HookEntries label e.result (hookResults label e) := by
  unfold hookResults
  cases e.result with
  | ok a => exact .succeeded a
  | error cause => exact .failed cause

theorem HookEntries.explained {α : Type} {label : String} {result : Except StepError α}
    {rs : List StepResult} (h : HookEntries label result rs) : ∀ x ∈ rs, x.Explained := by
  cases h <;> simp [StepResult.Explained]

/-! ### Scenarios -/

/-- After hooks that let the scenario go on its lines are executed. -/
theorem body_of_proceed {before : Effect HookOutcome} (h : before.result = .ok .proceed)
    (ls : List StepLine) : body before ls = lines before.context ls := by
  simp only [body, h]

/-- After hooks that failed or skipped the scenario no line is executed. -/
theorem body_of_not_proceed {before : Effect HookOutcome} (h : before.result ≠ .ok .proceed)
    (ls : List StepLine) : body before ls = ⟨before.context, [], ls.map skipped⟩ := by
  unfold body
  split
  · next hproceed => exact absurd hproceed h
  · rfl

theorem steps_body (before : Effect HookOutcome) (ls : List StepLine) :
    (body before ls).report.map StepResult.step = ls.map StepLine.text := by
  by_cases h : before.result = .ok .proceed
  · rw [body_of_proceed h]
    exact (executes_lines before.context ls).steps
  · rw [body_of_not_proceed h, List.map_map]
    rfl

theorem explained_body (before : Effect HookOutcome) (ls : List StepLine) :
    ∀ x ∈ (body before ls).report, x.Explained := by
  by_cases h : before.result = .ok .proceed
  · rw [body_of_proceed h]
    exact (executes_lines before.context ls).explained
  · rw [body_of_not_proceed h]
    exact explained_skipped ls

/-- In the report of a scenario exactly the failures carry messages. -/
theorem explained_scenario (t : HookTable) (c : Context) (s : Scenario) (ls : List StepLine) :
    ∀ x ∈ (scenario t c s ls).report.results, x.Explained := by
  intro x hx
  rcases List.mem_append.mp hx with hx | hx
  · rcases List.mem_append.mp hx with hx | hx
    · exact (hookEntries_hookResults _ _).explained x hx
    · exact explained_body _ ls x hx
  · exact (hookEntries_hookResults _ _).explained x hx

/-- **The report of a scenario**, for any hooks and any lines.  Its results are the entries of the
hooks before it, one entry for each line and the entries of the hooks after it.  The lines are
executed if the hooks before the scenario let it go on, and all skipped otherwise.  The hooks after
it run once, from the context that the lines left.  The counts add up, and no result failed exactly
if none carries a message. -/
theorem scenario_report (t : HookTable) (c : Context) (s : Scenario) (ls : List StepLine) :
    let before := t.runBefore c s
    let run := scenario t c s ls
    ∃ (first : List StepResult) (steps : Run (List StepResult)) (last : List StepResult),
      let after := t.runAfter steps.context s
      run.report.results = first ++ steps.report ++ last ∧
      HookEntries "Before" before.result first ∧
      HookEntries "After" after.result last ∧
      steps.report.map StepResult.step = ls.map StepLine.text ∧
      (before.result ≠ .ok .proceed →
        steps = ⟨before.context, [], ls.map fun l => ⟨l.text, none, .skipped, none⟩⟩) ∧
      (before.result = .ok .proceed →
        Executes before.context ls steps ∧
        (steps.report.map StepResult.status = List.replicate ls.length .passed ∨
          ∃ m n, steps.report.map StepResult.status =
            List.replicate m .passed ++ .failed :: List.replicate n .skipped)) ∧
      run.context = after.context ∧
      run.journal = before.journal ++ steps.journal ++ after.journal ∧
      run.report.passed + run.report.failed + run.report.skippedSteps = run.report.total ∧
      run.report.total = run.report.results.length ∧
      (run.report.allPassed ↔ run.report.firstError = none) := by
  intro before run
  refine ⟨_, body before ls, _, rfl, hookEntries_hookResults _ _, hookEntries_hookResults _ _,
    steps_body before ls, fun h => body_of_not_proceed h ls, fun h => ?_, rfl, rfl,
    Report.count_add_count_add_count _, rfl,
    Report.allPassed_iff_firstError rfl (explained_scenario t c s ls)⟩
  rw [body_of_proceed h]
  have hex := executes_lines before.context ls
  exact ⟨hex, hex.statuses⟩

end Run

end ApiCheck
