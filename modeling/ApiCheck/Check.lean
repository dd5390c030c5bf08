import ApiCheck.Operand

/-!
# Checks

A check is one call of an assertion primitive: an operator, two operands and the message to show
when it fails.  There are three primitives: strict equality, strict inequality and truth of a
condition, which is checked against `true`.  `Check.holds` judges a check; one that does not hold is
itself the failure that a step reports.
-/

namespace ApiCheck

/-- What a check demands of its operands. -/
inductive Operator where
  | strictEqual
  | notStrictEqual
  | isTrue
deriving DecidableEq

/-- The sign of an operator. -/
def Operator.sign : Operator → String
  | .strictEqual => "==="
  | .notStrictEqual => "!=="
  | .isTrue => "=="

/-- One call of an assertion primitive. -/
structure Check where
  operator : Operator
  /-- The value that was observed. -/
  actual : Operand
  /-- The value that was expected. -/
  expected : Operand
  /-- What to report when the check fails. -/
  message : String

namespace Check

/-- The check that `actual` strictly equals `expected`. -/
def equal (actual expected : Operand) (message : String) : Check :=
  ⟨.strictEqual, actual, expected, message⟩

/-- The check that `actual` does not strictly equal `expected`. -/
def notEqual (actual expected : Operand) (message : String) : Check :=
  ⟨.notStrictEqual, actual, expected, message⟩

/-- The check that a condition is true. -/
def isTrue (condition : Bool) (message : String) : Check :=
  ⟨.isTrue, .ofBool condition, .ofBool true, message⟩

/-- Whether the check holds. -/
def holds (c : Check) : Bool :=
  match c.operator with
  | .strictEqual => c.actual.strictEq c.expected
  | .notStrictEqual => !c.actual.strictEq c.expected
  | .isTrue => c.actual.strictEq c.expected

/-- The comparison that the check makes, as a text. -/
def comparison (c : Check) : String :=
  s!"{c.actual.text} {c.operator.sign} {c.expected.text}"

end Check

end ApiCheck
