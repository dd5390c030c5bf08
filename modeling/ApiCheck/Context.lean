import ApiCheck.Error
import ApiCheck.Time.Timestamp

/-!
# Contexts

A context is what hooks and steps share: the configuration that was injected, the dataset, the last
response, the mark of a skipped scenario, and the current time.  Only a valid configuration is ever
injected; the type of `Context.config` says so.

An `Effect` is what an action did: the context that it left, the journal of the checks and notes
that it made, and its result.
-/

namespace ApiCheck

/-! ### Contexts -/

/-- A configuration without a fault. -/
abbrev ValidConfig := { c : Config // c.validate = .ok () }

/-- The state that the hooks and steps of a scenario share. -/
structure Context where
  /-- The injected configuration. -/
  config : Option ValidConfig := none
  data : Dataset := {}
  /-- The last captured response. -/
  response : Option Response := none
  /-- Set when a tag keeps the scenario from being executed. -/
  skipped : Bool := false
  /-- The current time. -/
  now : Time.Instant

namespace Context

/-- The context with a configuration injected, which must be valid. -/
def setConfig (c : Context) (config : Config) : Except ConfigError Context :=
  match h : config.validate with
  | .ok () => .ok { c with config := some ⟨config, h⟩ }
  | .error cause => .error cause

/-- A valid configuration is injected. -/
theorem setConfig_of_valid (c : Context) {config : Config} (h : config.validate = .ok ()) :
    c.setConfig config = .ok { c with config := some ⟨config, h⟩ } := by
  unfold setConfig
  split <;> simp_all

/-- A configuration that is not valid is refused. -/
theorem setConfig_of_invalid (c : Context) {config : Config} {cause : ConfigError}
    (h : config.validate = .error cause) : c.setConfig config = .error cause := by
  unfold setConfig
  split <;> simp_all

/-- The settings of the injected configuration, otherwise the default ones. -/
def settings (c : Context) : Settings :=
  c.config.elim {} fun config => config.val.settings

/-- The captured response, which must be there. -/
def needResponse (c : Context) : Except StepError Response :=
  match c.response with
  | none => .error .noResponse
  | some r => .ok r

/-- The value that an argument of a step denotes. -/
def resolve (c : Context) (s : String) : Except StepError Operand :=
  (c.data.resolve s).mapError .dataset

/-- The context with a value captured under a key. -/
def capture (c : Context) (key : String) (value : Operand) : Except StepError Context :=
  match c.data.set key value with
  | .ok data => .ok { c with data := data }
  | .error cause => .error (.dataset cause)

/-- Whether an operand is a timestamp that lies within the tolerance of the current time. -/
def isNow (c : Context) (x : Operand) : Bool :=
  (Time.ofOperand? x).any fun t => t.distance c.now ≤ c.settings.toleranceMs * 1000000

end Context

/-! ### Effects -/

/-- One entry of a journal. -/
inductive Event where
  /-- A check was made. -/
  | checked (check : Check)
  /-- A hook left a note. -/
  | noted (text : String)

namespace Event

/-- The check of an entry. -/
def check? : Event → Option Check
  | .checked c => some c
  | .noted _ => none

/-- The note of an entry. -/
def note? : Event → Option String
  | .checked _ => none
  | .noted text => some text

end Event

/-- What an action did. -/
structure Effect (α : Type) where
  /-- The context that it left. -/
  context : Context
  /-- The checks and notes that it made, in their order. -/
  journal : List Event := []
  result : Except StepError α

namespace Effect

variable {α : Type}

/-- The checks that were made. -/
def checks (e : Effect α) : List Check :=
  e.journal.filterMap Event.check?

/-- The notes that were left. -/
def notes (e : Effect α) : List String :=
  e.journal.filterMap Event.note?

/-- The effect with earlier entries in front of its journal. -/
def after (e : Effect α) (earlier : List Event) : Effect α :=
  { e with journal := earlier ++ e.journal }

end Effect

end ApiCheck
