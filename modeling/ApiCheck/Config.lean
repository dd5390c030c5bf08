import ApiCheck.Json.Record
import ApiCheck.Text.Blank

/-!
# Suite configurations

A configuration names a suite and may give the address of the interface under test and a label of
its environment.  The only setting is the tolerance of the checks that compare a timestamp with the
current time, in milliseconds.  A configuration is valid when its name is not blank and its
tolerance is not zero; of two faults the name is reported.
-/

namespace ApiCheck

/-! ### Types -/

/-- The settings of the checks. -/
structure Settings where
  /-- The greatest distance from the current time, in milliseconds, that still counts as now. -/
  nowToleranceMs : Nat := 60000
deriving DecidableEq

/-- The configuration of a suite. -/
structure Config where
  name : String
  /-- The address of the interface under test. -/
  url : Option String := none
  /-- The label of the environment. -/
  environment : Option String := none
  settings : Settings := {}
deriving DecidableEq

/-- Why a configuration is not valid. -/
inductive ConfigError where
  | blankName
  | zeroTolerance
deriving DecidableEq

/-- The wording of a fault. -/
def ConfigError.message : ConfigError → String
  | .blankName => "invalid configuration: suite name cannot be empty"
  | .zeroTolerance => "invalid configuration: assertions.now_tolerance_ms must be greater than zero"

/-- The greatest tolerance that is told apart, in milliseconds. -/
def Settings.maxToleranceMs : Nat := 2 ^ 63 - 1

/-- The tolerance that checks use: the configured one, up to the greatest. -/
def Settings.toleranceMs (s : Settings) : Nat :=
  min s.nowToleranceMs maxToleranceMs

namespace Config

/-! ### Validity -/

/-- The first fault of a configuration. -/
def validate (c : Config) : Except ConfigError Unit :=
  if Text.isBlankText c.name then .error .blankName
  else if c.settings.nowToleranceMs = 0 then .error .zeroTolerance
  else .ok ()

/-! ### JSON -/

/-- The settings that a record denotes. -/
def settingsOfJson? (v : Json) : Option Settings := do
  let r ← v.record? ["now_tolerance_ms"]
  let tolerance ← r.getOr "now_tolerance_ms" ({} : Settings).nowToleranceMs
    (Json.natUpTo? (2 ^ 64 - 1))
  return ⟨tolerance⟩

/-- The configuration that a record denotes. -/
def ofJson? (v : Json) : Option Config := do
  let r ← v.record? ["name", "url", "environment", "assertions"]
  let name ← r.require "name" Json.string?
  let url ← r.getOption "url" Json.string?
  let environment ← r.getOption "environment" Json.string?
  let settings ← r.getOr "assertions" {} settingsOfJson?
  return ⟨name, url, environment, settings⟩

/-- The configuration as an object; address and environment stand in it only where they are
given. -/
def toJson (c : Config) : Json :=
  .ofFields ([("name", .string c.name)] ++ (c.url.toList.map fun s => ("url", .string s)) ++
    (c.environment.toList.map fun s => ("environment", .string s)) ++
    [("assertions", .object [("now_tolerance_ms", .ofNat c.settings.nowToleranceMs)])])

end Config

end ApiCheck
