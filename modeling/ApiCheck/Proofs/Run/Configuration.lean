import ApiCheck.Proofs.Lifecycle
import ApiCheck.Proofs.Run.Report
import ApiCheck.Proofs.Step.Execution
import ApiCheck.Proofs.Step.Now

/-!
# The configuration of a session

Whatever is done to a context comes down to operations, one after another (`Context.performAll`):
offering it a configuration, setting its response, changing its dataset, its mark or its time, and
executing a step.  A hook that is a `Procedure` says which operations it performs.  The runs of
procedures and of whole scenarios then perform those of the procedures and the lines that they reach
(`Run.context_scenario`), and a session is a row of such acts (`Session.context_eq`).

Only offering a configuration that is valid changes the injected one (`stored_perform`).  So at every
moment of a session, in the middle of a run too, the injected configuration is the last one that was
accepted, and it is valid (`Session.wellConfigured`).
-/

namespace ApiCheck

/-! ### Valid configurations -/

/-- The name is not blank, and the tolerance is not zero. -/
def Config.Sound (config : Config) : Prop :=
  (∃ ch ∈ config.name.toList, Text.isBlank ch = false) ∧ 0 < config.settings.nowToleranceMs

instance (config : Config) : Decidable config.Sound :=
  inferInstanceAs (Decidable (_ ∧ _))

/-- Sound configurations are those that have no fault. -/
theorem Config.validate_eq_ok_iff {config : Config} : config.validate = .ok () ↔ config.Sound := by
  have hname : Text.isBlankText config.name = false ↔
      ∃ ch ∈ config.name.toList, Text.isBlank ch = false := by
    rw [Text.isBlankText, List.all_eq_false]
    simp only [Bool.not_eq_true]
  rw [Config.Sound, ← hname, Nat.pos_iff_ne_zero, Config.validate]
  by_cases hblank : Text.isBlankText config.name
  · simp [hblank]
  · by_cases hzero : config.settings.nowToleranceMs = 0 <;> simp [hblank, hzero]

namespace Context

/-! ### Operations -/

/-- One thing that may be done to a context. -/
inductive Operation where
  /-- To offer a configuration, which is injected if it is valid. -/
  | offer (config : Config)
  /-- To set the response, or to take it away. -/
  | respond (response : Option Response)
  /-- To change the dataset in whatever way. -/
  | change (f : Dataset → Dataset)
  /-- To set or to clear the mark of a skipped scenario. -/
  | mark (skipped : Bool)
  /-- To let time pass. -/
  | wait (now : Time.Instant)
  | execute (step : Step)

/-- The context after an operation; a configuration that is refused leaves it as it is. -/
def perform (c : Context) : Operation → Context
  | .offer config => (c.setConfig config).toOption.getD c
  | .respond response => { c with response := response }
  | .change f => { c with data := f c.data }
  | .mark skipped => { c with skipped := skipped }
  | .wait now => { c with now := now }
  | .execute step => (step.execute c).context

/-- The context after operations in a row. -/
def performAll (c : Context) (ops : List Operation) : Context :=
  ops.foldl perform c

/-- The injected configuration as it was offered. -/
def stored (c : Context) : Option Config :=
  c.config.map Subtype.val

/-- The configuration that an operation offers. -/
def Operation.offered? : Operation → Option Config
  | .offer config => some config
  | _ => none

/-- The configuration that a context accepts of an operation. -/
def accepted? (c : Context) : Operation → Option Config
  | .offer config => (c.setConfig config).toOption.map fun _ => config
  | _ => none

/-- The configurations that are accepted when operations are performed in a row. -/
def accepted : Context → List Operation → List Config
  | _, [] => []
  | c, op :: ops => (c.accepted? op).toList ++ accepted (c.perform op) ops

variable {c : Context}

theorem performAll_append (c : Context) (ops ops' : List Operation) :
    c.performAll (ops ++ ops') = (c.performAll ops).performAll ops' :=
  List.foldl_append

/-- What is accepted is what is offered and sound, in every context. -/
theorem accepted?_eq (c : Context) (op : Operation) :
    c.accepted? op = op.offered?.filter fun config => decide config.Sound := by
  cases op with
  | offer config =>
    rw [Operation.offered?, Option.filter_some, accepted?]
    cases hvalid : config.validate with
    | ok =>
      have hsound := Config.validate_eq_ok_iff.mp hvalid
      rw [c.setConfig_of_valid hvalid, if_pos (decide_eq_true hsound)]
      rfl
    | error cause =>
      have hsound : ¬ config.Sound := by
        rw [← Config.validate_eq_ok_iff, hvalid]
        exact nofun
      rw [c.setConfig_of_invalid hvalid, if_neg (by simpa using hsound)]
      rfl
  | respond | change | mark | wait | execute => rfl

theorem accepted_eq (c : Context) (ops : List Operation) :
    c.accepted ops =
      (ops.filterMap Operation.offered?).filter fun config => decide config.Sound := by
  induction ops generalizing c with
  | nil => rfl
  | cons op ops ih =>
    rw [accepted, ih, accepted?_eq, List.filterMap_cons]
    cases op.offered? with
    | none => rfl
    | some config =>
      rw [Option.filter_some, List.filter_cons]
      split <;> rfl

/-- A configuration that is accepted replaces the injected one, and nothing else changes it. -/
theorem stored_perform (c : Context) (op : Operation) :
    (c.perform op).stored = (c.accepted? op).or c.stored := by
  cases op with
  | offer config =>
    cases hvalid : config.validate with
    | ok =>
      rw [perform, accepted?, c.setConfig_of_valid hvalid]
      rfl
    | error cause =>
      rw [perform, accepted?, c.setConfig_of_invalid hvalid]
      rfl
  | execute step => rw [perform, Step.sameButValues_execute c step]; rfl
  | respond | change | mark | wait => rfl

/-- After operations the injected configuration is the last one that was accepted, or else the one
that was injected before. -/
theorem stored_performAll (c : Context) (ops : List Operation) :
    (c.performAll ops).stored = (c.accepted ops).getLast?.or c.stored := by
  induction ops generalizing c with
  | nil => rfl
  | cons op ops ih =>
    show ((c.perform op).performAll ops).stored = _
    rw [ih, stored_perform, accepted, List.getLast?_append, Option.or_assoc]
    cases c.accepted? op <;> rfl

end Context

/-! ### Procedures -/

open Context (Operation)

/-- A hook that does nothing to the context but perform operations. -/
structure Procedure where
  tag : Option String := none
  action : HookAction
  /-- The operations that the hook performs in a context for a scenario. -/
  operations : Context → Scenario → List Operation
  context_action : ∀ c s, (action c s).context = c.performAll (operations c s)

namespace Procedure

/-- The procedure as it is registered. -/
def hook (p : Procedure) : Hook where
  tag := p.tag
  action := p.action

theorem context_inject (config : Config) (c : Context) (s : Scenario) :
    (Lifecycle.inject config c s).context = c.performAll [.offer config] := by
  show _ = (c.setConfig config).toOption.getD c
  unfold Lifecycle.inject
  split
  · next c' hc' => rw [hc']; rfl
  · next cause hcause => rw [hcause]; rfl

/-- The hook of the lifecycle that injects a configuration. -/
def inject (config : Config) : Procedure where
  action := Lifecycle.inject config
  operations _ _ := [.offer config]
  context_action := context_inject config

/-- The hook of the lifecycle that seeds the dataset. -/
def seed : Procedure where
  action := Lifecycle.seed
  operations _ s := [.change (·.seed s)]
  context_action _ _ := rfl

/-- The hook of the lifecycle that skips the scenarios with a tag. -/
def skip (tag : String) : Procedure where
  tag := some tag
  action := Lifecycle.skip
  operations _ _ := [.mark true]
  context_action _ _ := rfl

/-! ### Procedures in a row -/

variable {s : Scenario}

/-- The operations of procedures before a scenario, up to the first that ends their run. -/
def operationsBefore (s : Scenario) : List Procedure → Context → List Operation
  | [], _ => []
  | p :: ps, c =>
    if p.hook.appliesTo s then
      match (p.action c s).result with
      | .ok .proceed => p.operations c s ++ operationsBefore s ps (p.action c s).context
      | _ => p.operations c s
    else operationsBefore s ps c

/-- The operations of procedures after a scenario, up to the first that fails. -/
def operationsAfter (s : Scenario) : List Procedure → Context → List Operation
  | [], _ => []
  | p :: ps, c =>
    match (p.action c s).result with
    | .ok _ => p.operations c s ++ operationsAfter s ps (p.action c s).context
    | .error _ => p.operations c s

/-- Hooks before a scenario perform their operations and do nothing else. -/
theorem context_runHooks (ps : List Procedure) (c : Context) :
    (HookTable.runHooks s (ps.map hook) c).context = c.performAll (operationsBefore s ps c) := by
  induction ps generalizing c with
  | nil => rfl
  | cons p ps ih =>
    rw [List.map_cons, operationsBefore]
    -- A hook that does not apply performs nothing, and no hook behind one that stops performs any.
    by_cases happ : p.hook.appliesTo s
    · rw [if_pos happ]
      by_cases hproceed : (p.action c s).result = .ok .proceed
      · rw [hook, HookTable.runHooks_of_applies happ _ hproceed, hproceed]
        show (HookTable.runHooks s (ps.map hook) (p.action c s).context).context = _
        rw [ih, Context.performAll_append, p.context_action]
      · rw [hook, HookTable.runHooks_of_stops happ _ hproceed, p.context_action]
        split
        · next h => exact absurd h hproceed
        · rfl
    · rw [if_neg happ, hook, HookTable.runHooks_of_not_applies happ]
      exact ih c

theorem context_runActions (ps : List Procedure) (c : Context) :
    (HookTable.runActions s (ps.map action) c).context = c.performAll (operationsAfter s ps c) := by
  induction ps generalizing c with
  | nil => rfl
  | cons p ps ih =>
    rw [List.map_cons, operationsAfter, HookTable.runActions]
    cases hresult : (p.action c s).result with
    | ok outcome =>
      show (HookTable.runActions s (ps.map action) (p.action c s).context).context = _
      rw [ih, Context.performAll_append, p.context_action]
    | error cause => exact p.context_action c s

end Procedure

/-- A table of hooks that are procedures, each kind in the order of registration. -/
structure Lineup where
  before : List Procedure := []
  beforeAll : List SuiteEffect := []
  after : List Procedure := []
  afterAll : List SuiteEffect := []

namespace Lineup

/-- The table itself. -/
def table (l : Lineup) : HookTable where
  before := l.before.map Procedure.hook
  beforeAll := l.beforeAll
  after := l.after.map Procedure.action
  afterAll := l.afterAll

/-- The procedures with those of the lifecycle behind them. -/
def register (config : Config) (l : Lineup) : Lineup :=
  { l with before := l.before ++
      [Procedure.inject config, Procedure.seed, Procedure.skip "@skip", Procedure.skip "@wip"] }

/-- The hooks of the lifecycle are procedures. -/
theorem table_register (config : Config) (l : Lineup) :
    (l.register config).table = Lifecycle.register config l.table := by
  have hbefore : (l.register config).before.map Procedure.hook =
      (Lifecycle.register config l.table).before := by
    rw [Lifecycle.before_register]
    exact List.map_append
  rw [table, hbefore]
  rfl

end Lineup

/-! ### Runs -/

namespace Run

/-- A line executes the step to which it binds. -/
def operationsOfLine (l : StepLine) : List Operation :=
  match Step.Catalog.parse l.text l.table with
  | .ok step => [.execute step]
  | .error _ => []

/-- Operations go on behind a line that passed. -/
def operationsBehind (first : Run StepResult) (goOn : Context → List Operation) :
    List Operation :=
  match first.report.status with
  | .passed => goOn first.context
  | _ => []

/-- The steps that lines execute, up to the first that fails. -/
def operationsOfLines : Context → List StepLine → List Operation
  | _, [] => []
  | c, l :: ls =>
    operationsOfLine l ++ operationsBehind (line c l) fun c => operationsOfLines c ls

/-- The steps that are executed after the hooks before a scenario. -/
def operationsOfBody (before : Effect HookOutcome) (ls : List StepLine) : List Operation :=
  match before.result with
  | .ok .proceed => operationsOfLines before.context ls
  | _ => []

/-- The operations of a scenario: those of the procedures before it, of its lines, and of the
procedures after it. -/
def operations (l : Lineup) (c : Context) (s : Scenario) (ls : List StepLine) : List Operation :=
  let before := l.table.runBefore c s
  Procedure.operationsBefore s l.before c ++ operationsOfBody before ls ++
    Procedure.operationsAfter s l.after (body before ls).context

/-- A line that binds to no step does nothing, and every other one executes its step. -/
theorem context_line (c : Context) (l : StepLine) :
    (line c l).context = c.performAll (operationsOfLine l) := by
  unfold operationsOfLine
  cases hparse : Step.Catalog.parse l.text l.table with
  | error cause => rw [line_of_unbound hparse]; rfl
  | ok step =>
    cases hresult : (step.execute c).result with
    | ok => rw [line_of_ok hparse hresult]; rfl
    | error cause => rw [line_of_error hparse hresult]; rfl

theorem context_lines (c : Context) (ls : List StepLine) :
    (lines c ls).context = c.performAll (operationsOfLines c ls) := by
  induction ls generalizing c with
  | nil => rfl
  | cons l ls ih =>
    rw [operationsOfLines, operationsBehind, Context.performAll_append, ← context_line]
    rcases line_cases c l with ⟨step, -, -, hline⟩ | ⟨hfailed, -⟩
    · have hpassed : (line c l).report.status = .passed := by rw [hline]
      rw [lines_of_passed hpassed, hpassed]
      exact ih (line c l).context
    · rw [lines_of_failed hfailed, hfailed]
      rfl

theorem context_body (before : Effect HookOutcome) (ls : List StepLine) :
    (body before ls).context = before.context.performAll (operationsOfBody before ls) := by
  by_cases h : before.result = .ok .proceed
  · rw [body_of_proceed h, operationsOfBody, h]
    exact context_lines before.context ls
  · rw [body_of_not_proceed h, operationsOfBody]
    split
    · next hproceed => exact absurd hproceed h
    · rfl

/-- A scenario performs the operations of its parts. -/
theorem context_scenario (l : Lineup) (c : Context) (s : Scenario) (ls : List StepLine) :
    (scenario l.table c s ls).context = c.performAll (operations l c s ls) := by
  have hbefore : (l.table.runBefore c s).context = _ := Procedure.context_runHooks l.before c
  rw [operations, Context.performAll_append, Context.performAll_append, ← hbefore, ← context_body]
  exact Procedure.context_runActions l.after _

end Run

/-! ### Sessions -/

/-- What is done to a context from outside. -/
inductive Act where
  | operate (op : Operation)
  /-- One procedure is called, whatever its tag. -/
  | call (p : Procedure) (s : Scenario)
  /-- The procedures before a scenario are run. -/
  | before (l : Lineup) (s : Scenario)
  /-- The procedures after a scenario are run. -/
  | after (l : Lineup) (s : Scenario)
  /-- A scenario is run. -/
  | run (l : Lineup) (s : Scenario) (ls : List StepLine)

namespace Act

/-- The context after an act. -/
def context (c : Context) : Act → Context
  | .operate op => c.perform op
  | .call p s => (p.action c s).context
  | .before l s => (l.table.runBefore c s).context
  | .after l s => (l.table.runAfter c s).context
  | .run l s ls => (Run.scenario l.table c s ls).context

/-- The operations that an act performs. -/
def operations (c : Context) : Act → List Operation
  | .operate op => [op]
  | .call p s => p.operations c s
  | .before l s => Procedure.operationsBefore s l.before c
  | .after l s => Procedure.operationsAfter s l.after c
  | .run l s ls => Run.operations l c s ls

theorem context_eq (c : Context) (act : Act) : act.context c = c.performAll (act.operations c) := by
  cases act with
  | operate op => rfl
  | call p s => exact p.context_action c s
  | before l s => exact Procedure.context_runHooks l.before c
  | after l s => exact Procedure.context_runActions l.after c
  | run l s ls => exact Run.context_scenario l c s ls

end Act

namespace Session

/-- The context after acts in a row. -/
def context (c : Context) (acts : List Act) : Context :=
  acts.foldl Act.context c

/-- The operations that acts in a row perform. -/
def operations : Context → List Act → List Operation
  | _, [] => []
  | c, act :: acts => act.operations c ++ operations (act.context c) acts

/-- Acts perform their operations and do nothing else. -/
theorem context_eq (c : Context) (acts : List Act) :
    context c acts = c.performAll (operations c acts) := by
  induction acts generalizing c with
  | nil => rfl
  | cons act acts ih =>
    show context (act.context c) acts = _
    rw [ih, operations, Context.performAll_append, ← act.context_eq]

end Session

/-! ### The injected configuration -/

namespace Context

/-- The context holds the last of the configurations that were accepted, and uses its settings. -/
structure WellConfigured (c : Context) (accepted : List Config) : Prop where
  stored : c.stored = accepted.getLast?
  /-- The injected configuration has no fault. -/
  valid : ∀ config ∈ c.stored, config.validate = .ok ()
  settings : c.settings = c.stored.elim {} Config.settings
  /-- The tolerance of checks is not zero. -/
  positive : 0 < c.settings.toleranceMs

variable {c : Context}

theorem validate_of_mem_stored {config : Config} (h : config ∈ c.stored) :
    config.validate = .ok () := by
  obtain ⟨valid, -, rfl⟩ := Option.mem_map.mp h
  exact valid.property

theorem settings_eq (c : Context) : c.settings = c.stored.elim {} Config.settings := by
  rw [settings, stored]
  cases c.config <;> rfl

/-- A tolerance is not zero, neither that of a valid configuration nor the default one. -/
theorem toleranceMs_pos (c : Context) : 0 < c.settings.toleranceMs := by
  have hconfigured : 0 < c.settings.nowToleranceMs := by
    rw [settings_eq]
    cases hstored : c.stored with
    | none => exact Nat.zero_lt_succ _
    | some config =>
      exact (Config.validate_eq_ok_iff.mp (validate_of_mem_stored hstored)).2
  exact lt_min hconfigured (by decide)

/-- From a context without a configuration operations lead to one with the last that was accepted. -/
theorem wellConfigured_performAll (hnone : c.config = none) (ops : List Operation) :
    (c.performAll ops).WellConfigured (c.accepted ops) where
  stored := by
    have hstored : c.stored = none := by rw [Context.stored, hnone]; rfl
    rw [stored_performAll, hstored, Option.or_none]
  valid _ h := validate_of_mem_stored h
  settings := settings_eq _
  positive := toleranceMs_pos _

/-- A timestamp within a millisecond of the current time is close to now under every
configuration. -/
theorem isNow_of_distance_le {x : Operand} {t : Time.Instant} (hread : Time.ofOperand? x = some t)
    (hdistance : t.distance c.now ≤ 1000000) : c.isNow x = true := by
  rw [isNow, hread]
  have hpos := c.toleranceMs_pos
  exact decide_eq_true (by omega)

end Context

namespace Session

/-- **The configuration of a session**, that starts in a new context and goes through any acts:
operations, among them offers of arbitrary configurations, single hooks, the hooks around scenarios,
and whole runs, also those of the lifecycle.  The context in the end, and that at every moment in
between, holds the last configuration that was accepted up to then, or none if none was.  Accepted are
those of the configurations offered that have a name which is not blank and a tolerance above zero.
The injected one passes validation, and the tolerance in use is above zero: the step that asks for the
current time passes at least what lies within a millisecond of it. -/
theorem wellConfigured (data : Dataset) (now : Time.Instant) (acts : List Act) :
    let start : Context := { data := data, now := now }
    let ops := operations start acts
    let c := context start acts
    c = start.performAll ops ∧
    c.WellConfigured (start.accepted ops) ∧
    (∀ earlier, earlier <+: ops →
      (start.performAll earlier).WellConfigured (start.accepted earlier)) ∧
    (start.accepted ops =
      (ops.filterMap Operation.offered?).filter fun config => decide config.Sound) ∧
    (∀ (config : Config) (l : Lineup),
      (l.register config).table = Lifecycle.register config l.table) ∧
    (∀ r path x t, c.response = some r → r.findInBody path = .ok x →
      Time.ofOperand? x = some t → t.distance c.now ≤ 1000000 →
      ((Step.shouldBeNow path).execute c).result = .ok ()) := by
  intro start ops c
  have hc : c = start.performAll ops := context_eq start acts
  have hmoment : ∀ ops, (start.performAll ops).WellConfigured (start.accepted ops) :=
    fun ops => Context.wellConfigured_performAll rfl ops
  refine ⟨hc, hc ▸ hmoment ops, fun earlier _ => hmoment earlier, start.accepted_eq ops,
    Lineup.table_register, fun r path x t hresponse hpath hread hdistance => ?_⟩
  exact Step.result_shouldBeNow.mpr
    ⟨r, hresponse, x, hpath, Context.isNow_of_distance_le hread hdistance⟩

/-- A run whose configuration is refused keeps the one that was injected before it. -/
example :
    let usersApi : Config := { name := "users api" }
    let acts : List Act := [.operate (.offer usersApi),
      .run (Lineup.register { name := " " } {}) { name := "create user" } []]
    (context { now := ⟨0, 0, 0⟩ } acts).stored = some usersApi := by
  rfl

end Session

end ApiCheck
