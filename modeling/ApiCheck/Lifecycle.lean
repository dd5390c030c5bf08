import ApiCheck.Hook

/-!
# The lifecycle of scenarios

The lifecycle is a row of hooks before every scenario: the configuration is injected, the dataset is
seeded from the scenario, and a scenario with a known tag is marked as skipped.  Nothing is
registered after scenarios or for the suite.
-/

namespace ApiCheck.Lifecycle

/-- Injects a configuration. -/
def inject (config : Config) : HookAction := fun c _ =>
  match c.setConfig config with
  | .ok c' => ⟨c', [], .ok .proceed⟩
  | .error cause => ⟨c, [], .error (.config cause)⟩

/-- Seeds the dataset. -/
def seed : HookAction := fun c s =>
  ⟨{ c with data := c.data.seed s }, [], .ok .proceed⟩

/-- Marks the scenario as skipped. -/
def skip : HookAction := fun c _ =>
  ⟨{ c with skipped := true }, [], .ok .skip⟩

/-- The table with the hooks of the lifecycle registered. -/
def register (config : Config) (t : HookTable) : HookTable :=
  Tag.all.foldl (fun t tag => t.addTagged tag.text skip) ((t.addBefore (inject config)).addBefore seed)

end ApiCheck.Lifecycle
