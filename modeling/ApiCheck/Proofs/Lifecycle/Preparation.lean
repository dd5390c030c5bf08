import ApiCheck.Proofs.Lifecycle

/-!
# The context that a scenario starts in

A scenario starts with the values of its fixtures and of its examples row and with no other: a key
holds the text of its column, or else the value of the last fixture that was registered for the
scenario under that key (`value?_seed`), and it is held once (`ordered_seed`).

`runBefore_register` states what the hooks of the lifecycle make of any context before any scenario.
-/

namespace ApiCheck

/-! ### What a scenario supplies -/

/-- The text in a column of the examples row; of columns with one name the last counts. -/
def Scenario.example? (s : Scenario) (column : String) : Option String :=
  Fields.get? column s.examples.reverse

namespace Dataset

/-- The value of the last fixture that was registered for a scenario under a key. -/
def fixture? (d : Dataset) (scenario key : String) : Option Operand :=
  (d.fixtures.reverse.find? fun f => f.scenario = scenario ∧ f.key = key).map Fixture.value

/-! ### The values at the start -/

/-- Of fixtures in a row the first with a key is the one that is found. -/
theorem get?_map_fixtures (key : String) (fs : List Fixture) :
    Fields.get? key (fs.map fun f => (f.key, f.value)) =
      (fs.find? fun f => f.key == key).map Fixture.value := by
  induction fs with
  | nil => rfl
  | cons f fs ih =>
    rw [List.map_cons, Fields.get?, ih, List.find?_cons]
    by_cases hkey : key = f.key
    · have hfound : (f.key == key) = true := beq_iff_eq.mpr hkey.symm
      rw [if_pos hkey, hfound]
      rfl
    · have hother : (f.key == key) = false := beq_eq_false_iff_ne.mpr (Ne.symm hkey)
      rw [if_neg hkey, hother]

/-- What a scenario finds under a key among its fixtures. -/
theorem get?_fixturesOf (d : Dataset) (scenario key : String) :
    (d.fixturesOf scenario).get? key = d.fixture? scenario key := by
  rw [fixturesOf, Fields.get?_insertAll, ← List.map_reverse, ← List.filter_reverse,
    get?_map_fixtures, List.find?_filter, Fields.get?_nil, Option.or_none]
  simp only [fixture?, beq_iff_eq]

/-- A scenario starts with the texts of its examples row, and else with its fixtures. -/
theorem value?_seed (d : Dataset) (s : Scenario) (key : String) :
    (d.seed s).value? key =
      ((s.example? key).map Operand.ofString).or (d.fixture? s.name key) := by
  show (d.seedValues s).get? key = _
  rw [seedValues, Fields.get?_insertAll, get?_fixturesOf, ← List.map_reverse, Fields.get?_map]
  rfl

/-- At the start of a scenario every key is held once. -/
theorem ordered_seed (d : Dataset) (s : Scenario) : (d.seed s).values.Ordered := by
  have hempty : Fields.Ordered ([] : Fields Operand) := List.Pairwise.nil
  have hfixtures : (d.fixturesOf s.name).Ordered := hempty.insertAll _
  exact hfixtures.insertAll _

end Dataset

namespace Lifecycle

/-! ### Before a scenario -/

/-- **The lifecycle before a scenario**, on a table that holds its hooks alone, for any configuration,
context and scenario.  A configuration that is not valid is refused with its fault, and the context
stays as it is.  A valid one is injected, and every key of the dataset then holds the text of its
column in the examples row, or else the last fixture that was registered for the scenario under the
key, or else nothing, whatever was held before.  The scenario is skipped exactly if it carries `@skip`
or `@wip`, to the letter, and goes on otherwise; the mark is set in the first case and left in the
second.  Nothing else changes, and no check is made. -/
theorem runBefore_register (config : Config) (c : Context) (s : Scenario) :
    let e := (register config {}).runBefore c s
    e.checks = [] ∧
    (∀ cause, config.validate = .error cause →
      e.result = .error (.config cause) ∧ e.context = c) ∧
    (∀ valid : config.validate = .ok (),
      (e.result = .ok .skip ↔ "@skip" ∈ s.tags ∨ "@wip" ∈ s.tags) ∧
      (e.result = .ok .proceed ↔ ¬ ("@skip" ∈ s.tags ∨ "@wip" ∈ s.tags)) ∧
      e.context.config = some ⟨config, valid⟩ ∧
      (∀ key, e.context.data.value? key =
        ((s.example? key).map Operand.ofString).or (c.data.fixture? s.name key)) ∧
      e.context.data.values.Ordered ∧
      e.context.data.fixtures = c.data.fixtures ∧
      e.context.skipped = (decide ("@skip" ∈ s.tags ∨ "@wip" ∈ s.tags) || c.skipped) ∧
      e.context.response = c.response ∧
      e.context.now = c.now) := by
  intro e
  have hinvalid : ∀ cause, config.validate = .error cause →
      e = ⟨c, [], .error (.config cause)⟩ := fun cause h => runBefore_of_invalid h c s
  have htags : (s.hasTag "@skip" = true ∨ s.hasTag "@wip" = true) ↔
      "@skip" ∈ s.tags ∨ "@wip" ∈ s.tags := by
    rw [Scenario.hasTag, Scenario.hasTag, List.contains_iff_mem, List.contains_iff_mem]
  have hskipped : ∀ valid : config.validate = .ok (), "@skip" ∈ s.tags ∨ "@wip" ∈ s.tags →
      e = ⟨{ prepared c ⟨config, valid⟩ s with skipped := true }, [], .ok .skip⟩ := by
    intro valid h
    exact (runBefore_of_valid valid c s).trans (if_pos (htags.mpr h))
  have hproceeds : ∀ valid : config.validate = .ok (), ¬ ("@skip" ∈ s.tags ∨ "@wip" ∈ s.tags) →
      e = ⟨prepared c ⟨config, valid⟩ s, [], .ok .proceed⟩ := by
    intro valid h
    exact (runBefore_of_valid valid c s).trans (if_neg (mt htags.mp h))
  refine ⟨?_, fun cause h => ?_, fun valid => ?_⟩
  · cases hvalidate : config.validate with
    | error cause => rw [hinvalid cause hvalidate]; rfl
    | ok =>
      by_cases h : "@skip" ∈ s.tags ∨ "@wip" ∈ s.tags
      · rw [hskipped hvalidate h]; rfl
      · rw [hproceeds hvalidate h]; rfl
  · rw [hinvalid cause h]
    exact ⟨rfl, rfl⟩
  · have hvalue := c.data.value?_seed s
    have hordered := c.data.ordered_seed s
    by_cases h : "@skip" ∈ s.tags ∨ "@wip" ∈ s.tags
    · rw [hskipped valid h]
      refine ⟨iff_of_true rfl h, iff_of_false nofun (not_not_intro h), rfl, hvalue, hordered, rfl,
        ?_, rfl, rfl⟩
      rw [decide_eq_true h, Bool.true_or]
    · rw [hproceeds valid h]
      refine ⟨iff_of_false nofun h, iff_of_true rfl h, rfl, hvalue, hordered, rfl, ?_, rfl, rfl⟩
      rw [decide_eq_false h, Bool.false_or]
      rfl

end Lifecycle

end ApiCheck
