import ApiCheck.Check
import ApiCheck.Config
import ApiCheck.Dataset
import ApiCheck.Response
import ApiCheck.Table

/-!
# Failures of steps

A step fails because a check does not hold, or because what it needs is refused: a value of the
dataset, a node of the response, a valid configuration, a well-formed table or a pattern.  A text
may also fail to become a step at all.  `StepError.message` words each cause.
-/

namespace ApiCheck

/-- Why an argument of a step cannot be used. -/
inductive ArgumentError where
  /-- There is no argument at an index. -/
  | missing (index : Nat)
  /-- The argument is not a whole number in range. -/
  | notInteger (raw : String) (cause : IntegerError)
  /-- The argument is not a decimal. -/
  | notDecimal (raw : String)
deriving DecidableEq

/-- The wording of a bad argument. -/
def ArgumentError.message : ArgumentError → String
  | .missing index => s!"missing argument {index}"
  | .notInteger raw cause => s!"cannot convert '{raw}': {cause.message}"
  | .notDecimal raw => s!"cannot convert '{raw}': {doubleErrorMessage}"

/-- Why a step, or a hook, failed. -/
inductive StepError where
  /-- A check does not hold. -/
  | assertion (failed : Check)
  | dataset (cause : DatasetError)
  | lookup (cause : Response.LookupError)
  | config (cause : ConfigError)
  | table (cause : MalformedRow)
  /-- There is no response to look into. -/
  | noResponse
  /-- A pattern does not denote a regular expression. -/
  | invalidPattern (pattern : String)
  /-- No expression of the catalog matches the text. -/
  | unknownStep (text : String)
  | invalidArgument (step : String) (cause : ArgumentError)
  /-- The step needs a table. -/
  | missingTable (step : String)

namespace StepError

/-- The wording of a failure.  For a pattern it ends before the reason: the text by which the library
for regular expressions says what is wrong with the expression, behind a colon, is left out. -/
def message : StepError → String
  | .assertion failed => failed.message
  | .dataset cause => s!"dataset error: {cause.message}"
  | .lookup cause => s!"locator error: {cause.message}"
  | .config cause => s!"domain error: {cause.message}"
  | .table cause => s!"domain error: {cause.message}"
  | .noResponse => "no response has been captured in this scenario"
  | .invalidPattern pattern => s!"invalid regexp '{pattern}'"
  | .unknownStep text => s!"no step definition matches: {text}"
  | .invalidArgument step cause => s!"invalid argument in step '{step}': {cause.message}"
  | .missingTable step => s!"step '{step}' requires a data table"

/-- Whether a check failed, as opposed to something that it needs. -/
def isAssertion : StepError → Bool
  | .assertion _ => true
  | _ => false

end StepError

end ApiCheck
