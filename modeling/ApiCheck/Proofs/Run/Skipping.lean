import ApiCheck.Proofs.Lifecycle
import ApiCheck.Proofs.Run.Report
import ApiCheck.Proofs.Step.Execution

/-!
# The mark of skipped scenarios

The mark of a context is set when a tag skips a scenario, and nothing ever takes it back.  Of several
scenarios that are run one after another in one context (`Run.stages`), a report therefore shows the
mark as soon as its own scenario or an earlier one was skipped (`skipped_stage`), and every report
is right about its own scenario exactly if no scenario that goes on comes after a skipped one.
-/

namespace ApiCheck

/-! ### Scenarios in a row -/

/-- A scenario that is to be run, with its lines. -/
structure Task where
  scenario : Scenario
  lines : List StepLine
  /-- The response that is captured before the scenario starts, where there is a new one. -/
  response : Option Response := none

/-- A task with the context that it starts from. -/
structure Stage where
  task : Task
  start : Context

/-- The context from which a task starts, after the context that the tasks before it left. -/
def Task.start (k : Task) (c : Context) : Context :=
  { c with response := k.response.or c.response }

@[simp] theorem Task.skipped_start (k : Task) (c : Context) :
    (k.start c).skipped = c.skipped := rfl

namespace Stage

variable (t : HookTable) (g : Stage)

/-- What the hooks before the scenario of a stage do. -/
def before : Effect HookOutcome :=
  t.runBefore g.start g.task.scenario

/-- The run of a stage. -/
def run : Run Report :=
  Run.scenario t g.start g.task.scenario g.task.lines

/-- The results of the lines of a stage. -/
def entries : List StepResult :=
  (Run.body (g.before t) g.task.lines).report

/-- The hooks before the scenario of a stage skip it. -/
def Skips : Prop :=
  (g.before t).result = .ok .skip

end Stage

/-- Tasks run one after another in one context. -/
def Run.stages (t : HookTable) : Context → List Task → List Stage
  | _, [] => []
  | c, k :: rest =>
    let g : Stage := ⟨k, k.start c⟩
    g :: stages t (g.run t).context rest

/-! ### The mark in one run -/

namespace Run

theorem sameButValues_line (c : Context) (l : StepLine) : c.SameButValues (line c l).context := by
  rcases line_cases c l with ⟨step, -, -, hline⟩ | ⟨-, hfails⟩
  · rw [hline]
    exact Step.sameButValues_execute c step
  · generalize line c l = f at hfails
    cases hfails with
    | unbound => exact .refl c
    | @executed step => exact Step.sameButValues_execute c step

/-- Lines change no more than the values of the dataset. -/
theorem sameButValues_lines (c : Context) (ls : List StepLine) :
    c.SameButValues (lines c ls).context := by
  induction ls generalizing c with
  | nil => exact .refl c
  | cons l ls ih =>
    rcases line_cases c l with ⟨step, -, -, hline⟩ | ⟨hfailed, -⟩
    · rw [lines_of_passed (by rw [hline])]
      exact (sameButValues_line c l).trans (ih _)
    · rw [lines_of_failed hfailed]
      exact sameButValues_line c l

theorem sameButValues_body (before : Effect HookOutcome) (ls : List StepLine) :
    before.context.SameButValues (body before ls).context := by
  by_cases h : before.result = .ok .proceed
  · rw [body_of_proceed h]
    exact sameButValues_lines before.context ls
  · rw [body_of_not_proceed h]
    exact .refl _

/-- The lines of a scenario are all skipped, unless there are lines and its hooks let it go on. -/
theorem forall_skipped_body {before : Effect HookOutcome} {ls : List StepLine} :
    (∀ x ∈ (body before ls).report, x.status = .skipped) ↔
      (before.result = .ok .proceed → ls = []) := by
  by_cases h : before.result = .ok .proceed
  · rw [body_of_proceed h]
    simp only [h, forall_const]
    constructor
    · intro hall
      have hstatus : ∀ s ∈ (lines before.context ls).report.map StepResult.status, s = .skipped := by
        simpa using hall
      rcases (executes_lines before.context ls).statuses with hpassed | ⟨m, n, hfailed⟩
      · rw [hpassed] at hstatus
        cases ls with
        | nil => rfl
        | cons l ls => exact nomatch hstatus .passed (by simp)
      · rw [hfailed] at hstatus
        exact nomatch hstatus .failed (by simp)
    · rintro rfl x hx
      exact nomatch hx
  · simp [body_of_not_proceed h, h, skipped, StepResult.skip]

end Run

namespace Stage

open Lifecycle (Only)

variable {t : HookTable} {g : Stage}

theorem context_run (ht : Only t) :
    (g.run t).context = (Run.body (g.before t) g.task.lines).context :=
  congrArg Effect.context (ht.runAfter_eq _ _)

/-- The report of a stage shows the mark that the stage leaves. -/
theorem skipped_report : (g.run t).report.skipped = (g.run t).context.skipped := rfl

/-- A stage leaves the mark if it skips its scenario or started with the mark. -/
theorem skipped_context_run (ht : Only t) :
    (g.run t).context.skipped = true ↔ g.Skips t ∨ g.start.skipped = true := by
  rw [context_run ht, (Run.sameButValues_body (g.before t) g.task.lines).skipped]
  exact ht.skipped_runBefore g.start g.task.scenario

/-- The lines of a skipped scenario are skipped. -/
theorem skipped_entries (g : Stage) (h : g.Skips t) : ∀ x ∈ g.entries t, x.status = .skipped := by
  refine Run.forall_skipped_body.mpr fun hproceed => ?_
  unfold Skips at h
  rw [h] at hproceed
  exact nomatch hproceed

/-- A skipped scenario has no results but those of its lines. -/
theorem skipped_of_skips (g : Stage) (ht : Only t) (h : g.Skips t) :
    ∀ x ∈ (g.run t).report.results, x.status = .skipped := by
  have hafter : Run.hookResults Run.afterLabel
      (t.runAfter (Run.body (g.before t) g.task.lines).context g.task.scenario) = [] := by
    rw [ht.runAfter_eq]
    rfl
  have hbefore : Run.hookResults Run.beforeLabel (g.before t) = [] := by
    have hskip : (g.before t).result = .ok .skip := h
    simp only [Run.hookResults, hskip]
  have hresults : (g.run t).report.results = g.entries t := by
    change Run.hookResults Run.beforeLabel (g.before t) ++ g.entries t ++
      Run.hookResults Run.afterLabel
        (t.runAfter (Run.body (g.before t) g.task.lines).context g.task.scenario) = _
    rw [hafter, hbefore, List.append_nil, List.nil_append]
  rw [hresults]
  exact g.skipped_entries h

end Stage

/-! ### The mark in several runs -/

namespace Run

open Lifecycle (Only)

/-- A report shows the mark if its scenario or one before it was skipped. -/
theorem skipped_stage {t : HookTable} (ht : Only t) {ks : List Task} {c : Context}
    {earlier : List Stage} {g : Stage} {later : List Stage}
    (h : stages t c ks = earlier ++ g :: later) :
    (g.run t).report.skipped = true ↔
      g.Skips t ∨ (∃ e ∈ earlier, e.Skips t) ∨ c.skipped = true := by
  induction ks generalizing c earlier with
  | nil => simp [stages] at h
  | cons k ks ih =>
    rw [stages] at h
    cases earlier with
    | nil =>
      obtain ⟨rfl, -⟩ := List.cons.inj h
      rw [Stage.skipped_report, Stage.skipped_context_run ht, Task.skipped_start]
      simp
    | cons e earlier =>
      obtain ⟨rfl, hrest⟩ := List.cons.inj h
      -- The stages behind the first one start with the mark that it leaves.
      rw [ih hrest, Stage.skipped_context_run ht, Task.skipped_start]
      simp only [List.mem_cons, exists_eq_or_imp, or_assoc, or_left_comm]

/-- A relation holds between every two members of a list in their order if it holds between those in
front of any place and the one at it. -/
theorem pairwise_iff_split {α : Type} {R : α → α → Prop} {xs : List α} :
    xs.Pairwise R ↔ ∀ earlier x later, xs = earlier ++ x :: later → ∀ e ∈ earlier, R e x := by
  constructor
  · rintro h earlier x later rfl e he
    exact (List.pairwise_append.mp h).2.2 e he x List.mem_cons_self
  · intro h
    induction xs with
    | nil => exact .nil
    | cons a xs ih =>
      refine .cons (fun x hx => ?_) (ih fun earlier x later hxs e he => ?_)
      · obtain ⟨earlier, later, rfl⟩ := List.append_of_mem hx
        exact h (a :: earlier) x later rfl a List.mem_cons_self
      · exact h (a :: earlier) x later (by rw [hxs]; rfl) e (List.mem_cons_of_mem a he)

/-- Where the mark is shown by a stage that skips and by all behind it, it implies what skipping
implies exactly if that holds of all behind a stage that skips. -/
theorem forall_marked_iff_pairwise {α : Type} {marked skips P : α → Prop} {xs : List α}
    (hmarked : ∀ earlier x later, xs = earlier ++ x :: later →
      (marked x ↔ skips x ∨ ∃ e ∈ earlier, skips e)) (hP : ∀ x ∈ xs, skips x → P x) :
    (∀ x ∈ xs, marked x → P x) ↔ xs.Pairwise fun e x => skips e → P x := by
  rw [pairwise_iff_split]
  constructor
  · intro h earlier x later hxs e he hskips
    have hx : x ∈ xs := by simp [hxs]
    exact h x hx ((hmarked earlier x later hxs).mpr (.inr ⟨e, he, hskips⟩))
  · intro h x hx hmark
    obtain ⟨earlier, later, hxs⟩ := List.append_of_mem hx
    rcases (hmarked earlier x later hxs).mp hmark with hskips | ⟨e, he, hskips⟩
    · exact hP x hx hskips
    · exact h earlier x later hxs e he hskips

/-- **The mark in the reports of several scenarios**, run one after another in one context that starts
without the mark, on a table that the lifecycle alone filled.  A report shows the mark exactly if the
hooks before its own scenario or before an earlier one skipped it.  A skipped scenario has skipped
entries only.  So all reports are right about their own scenarios exactly if every scenario after a
skipped one is skipped too, and a report with the mark has an entry of a line that passed or failed
exactly if a scenario with lines goes on after a skipped one. -/
theorem mark_of_stages {t : HookTable} (ht : Only t) {c : Context} (hc : c.skipped = false)
    (ks : List Task) :
    (∀ earlier g later, stages t c ks = earlier ++ g :: later →
      ((g.run t).report.skipped = true ↔ g.Skips t ∨ ∃ e ∈ earlier, e.Skips t)) ∧
    (∀ g ∈ stages t c ks, g.Skips t → ∀ x ∈ (g.run t).report.results, x.status = .skipped) ∧
    ((∀ g ∈ stages t c ks, ((g.run t).report.skipped = true ↔ g.Skips t)) ↔
      (stages t c ks).Pairwise fun e g => e.Skips t → g.Skips t) ∧
    ((∀ g ∈ stages t c ks, (g.run t).report.skipped = true →
        ∀ x ∈ g.entries t, x.status = .skipped) ↔
      (stages t c ks).Pairwise fun e g =>
        e.Skips t → (g.before t).result = .ok .proceed → g.task.lines = []) := by
  have hmarked : ∀ earlier g later, stages t c ks = earlier ++ g :: later →
      ((g.run t).report.skipped = true ↔ g.Skips t ∨ ∃ e ∈ earlier, e.Skips t) := by
    intro earlier g later h
    simpa [hc] using skipped_stage ht h
  have hskips : ∀ g ∈ stages t c ks, g.Skips t → (g.run t).report.skipped = true := by
    intro g hg hskips
    obtain ⟨earlier, later, h⟩ := List.append_of_mem hg
    exact (hmarked earlier g later h).mpr (.inl hskips)
  have hentries : ∀ g ∈ stages t c ks, g.Skips t → ∀ x ∈ g.entries t, x.status = .skipped :=
    fun g _ hskips => g.skipped_entries hskips
  refine ⟨hmarked, fun g _ => g.skipped_of_skips ht, ?_, ?_⟩
  · rw [← forall_marked_iff_pairwise hmarked fun g _ => id]
    exact forall₂_congr fun g hg => ⟨Iff.mp, fun h => ⟨h, hskips g hg⟩⟩
  · rw [forall_marked_iff_pairwise hmarked hentries]
    simp only [Stage.entries, forall_skipped_body]

/-! ### A skipped scenario before one that passes -/

/-- The configuration of a suite. -/
def usersApi : Config := { name := "users api" }

/-- A skipped scenario, and one after it with a line that passes. -/
def skippedThenPassing : List Task := [
  ⟨{ name := "later", tags := ["@skip"] }, [], none⟩,
  ⟨{ name := "now" }, [⟨"the response status should be 200", none⟩],
    some (Response.ofRequest "GET" "/" 200)⟩]

/-- The context in which they are run. -/
def emptyContext : Context := { now := ⟨0, 0, 0⟩ }

/-- The mark of the skipped scenario stands in the report of the one that passes. -/
theorem mark_of_skippedThenPassing :
    let t := Lifecycle.register usersApi {}
    Only t ∧ emptyContext.skipped = false ∧ ∃ e g, stages t emptyContext skippedThenPassing = [e, g] ∧
      e.Skips t ∧ (g.before t).result = .ok .proceed ∧ (g.run t).report.skipped = true := by
  intro t
  have ht : Only t := .register usersApi .empty
  have hskips : Stage.Skips t ⟨skippedThenPassing[0], skippedThenPassing[0].start emptyContext⟩ := rfl
  refine ⟨ht, rfl, _, _, rfl, hskips, rfl, ?_⟩
  exact ((mark_of_stages ht rfl skippedThenPassing).1 [_] _ [] rfl).mpr
    (.inr ⟨_, List.mem_singleton_self _, hskips⟩)

/-- A report may show the mark although its scenario was not skipped and a line of it passed. -/
theorem exists_mark_without_skip :
    let t := Lifecycle.register usersApi {}
    Only t ∧ emptyContext.skipped = false ∧ ∃ g ∈ stages t emptyContext skippedThenPassing,
      (g.run t).report.skipped = true ∧ ¬ g.Skips t ∧ ∃ x ∈ g.entries t, x.status = .passed := by
  intro t
  refine ⟨.register usersApi .empty, rfl, _, List.mem_cons_of_mem _ List.mem_cons_self, ?_, ?_, ?_⟩
  · decide +kernel
  · exact fun h => nomatch h
  · decide +kernel

end Run

end ApiCheck
