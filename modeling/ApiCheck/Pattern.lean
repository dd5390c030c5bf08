import ApiCheck.Pattern.Parser

/-!
# Patterns

A pattern of a step is a regular expression, written bare or between two slashes; both forms denote
the same expression.  A pattern matches a text if the expression matches some part of it.
-/

namespace ApiCheck.Pattern

/-- The text between two slashes that enclose a pattern, otherwise the pattern itself. -/
def body (pattern : String) : List Char :=
  match pattern.toList with
  | '/' :: rest => if rest.getLast? = some '/' then rest.dropLast else pattern.toList
  | cs => cs

/-- The regular expression of a pattern. -/
def compile? (pattern : String) : Option (Regex Atom) :=
  parse? (body pattern)

/-- Whether a regular expression matches some part of a text. -/
def isMatch (r : Regex Atom) (s : String) : Bool :=
  r.matches s.toList

end ApiCheck.Pattern
