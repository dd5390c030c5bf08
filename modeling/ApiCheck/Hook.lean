import ApiCheck.Context

/-!
# Hooks

A hook is an action that is registered to run before or after every scenario, or before or after
the whole suite.  A hook before scenarios may be bound to a tag; it then runs only for scenarios
that carry the text of that tag.

Hooks run in the order of their registration.  The first that fails ends its run, and before a
scenario so does the first that skips it.
-/

namespace ApiCheck

/-! ### Types -/

/-- What a hook asks for when it does not fail. -/
inductive HookOutcome where
  /-- To go on. -/
  | proceed
  /-- Not to execute the scenario. -/
  | skip
deriving DecidableEq

/-- The word by which an outcome is announced, where it is more than going on. -/
def HookOutcome.sentinel? : HookOutcome → Option String
  | .proceed => none
  | .skip => some "skipped"

/-- An action on a scenario. -/
abbrev HookAction := Context → Scenario → Effect HookOutcome

/-- An action before scenarios, bound to a tag or not. -/
structure Hook where
  tag : Option String := none
  action : HookAction

/-- What an action on the suite did. -/
structure SuiteEffect where
  notes : List String := []
  result : Except StepError Unit

/-- The hooks that are registered, each kind in the order of registration. -/
structure HookTable where
  before : List Hook := []
  beforeAll : List SuiteEffect := []
  after : List HookAction := []
  afterAll : List SuiteEffect := []

/-- Whether a hook runs for a scenario. -/
def Hook.appliesTo (h : Hook) (s : Scenario) : Bool :=
  h.tag.all s.hasTag

namespace HookTable

/-! ### Registration -/

/-- The table with one more hook before scenarios. -/
def addBefore (t : HookTable) (action : HookAction) : HookTable :=
  { t with before := t.before ++ [⟨none, action⟩] }

/-- The table with one more hook before the scenarios that carry a tag. -/
def addTagged (t : HookTable) (tag : String) (action : HookAction) : HookTable :=
  { t with before := t.before ++ [⟨some tag, action⟩] }

/-- The table with one more hook after scenarios. -/
def addAfter (t : HookTable) (action : HookAction) : HookTable :=
  { t with after := t.after ++ [action] }

/-- The table with one more hook before the suite. -/
def addBeforeAll (t : HookTable) (effect : SuiteEffect) : HookTable :=
  { t with beforeAll := t.beforeAll ++ [effect] }

/-- The table with one more hook after the suite. -/
def addAfterAll (t : HookTable) (effect : SuiteEffect) : HookTable :=
  { t with afterAll := t.afterAll ++ [effect] }

/-- The tags to which hooks are bound. -/
def tags (t : HookTable) : List String :=
  t.before.filterMap Hook.tag

/-- The number of hooks before scenarios that are bound to no tag. -/
def untaggedCount (t : HookTable) : Nat :=
  t.before.countP fun h => h.tag.isNone

/-! ### Running -/

/-- Runs hooks before a scenario. -/
def runHooks (s : Scenario) : List Hook → Context → Effect HookOutcome
  | [], c => ⟨c, [], .ok .proceed⟩
  | h :: rest, c =>
    if h.appliesTo s then
      let e := h.action c s
      match e.result with
      | .ok .proceed => (runHooks s rest e.context).after e.journal
      | _ => e
    else runHooks s rest c

/-- Runs the hooks before a scenario that apply to it. -/
def runBefore (t : HookTable) (c : Context) (s : Scenario) : Effect HookOutcome :=
  runHooks s t.before c

/-- Runs actions after a scenario. -/
def runActions (s : Scenario) : List HookAction → Context → Effect Unit
  | [], c => ⟨c, [], .ok ()⟩
  | action :: rest, c =>
    let e := action c s
    match e.result with
    | .ok _ => (runActions s rest e.context).after e.journal
    | .error cause => ⟨e.context, e.journal, .error cause⟩

/-- Runs the hooks after a scenario. -/
def runAfter (t : HookTable) (c : Context) (s : Scenario) : Effect Unit :=
  runActions s t.after c

/-- Runs hooks on the suite. -/
def runSuite : List SuiteEffect → SuiteEffect
  | [] => ⟨[], .ok ()⟩
  | e :: rest =>
    match e.result with
    | .ok () =>
      let later := runSuite rest
      ⟨e.notes ++ later.notes, later.result⟩
    | .error _ => e

/-- Runs the hooks before the suite. -/
def runBeforeAll (t : HookTable) : SuiteEffect :=
  runSuite t.beforeAll

/-- Runs the hooks after the suite. -/
def runAfterAll (t : HookTable) : SuiteEffect :=
  runSuite t.afterAll

end HookTable

end ApiCheck
