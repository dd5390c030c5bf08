import ApiCheck.Json.Token

/-!
# Reading JSON

`Json.parse?` reads a text that is one JSON value.  Values may be nested to a depth of 127 arrays
and objects.  Of two members with one key the later counts, and the members of an object are held
in key order.

The reader keeps the arrays and objects that are still open on a stack (`Frame`) and takes one
token after the other (`State.step?`).
-/

namespace ApiCheck.Json

/-! ### States -/

/-- An open array with its items in reverse, or an open object with the key that waits for its
value. -/
inductive Frame where
  | array (items : List Json)
  | object (members : Fields Json) (key : String)

/-- What the reader has met so far, the innermost open value first. -/
inductive State where
  /-- A value must follow. -/
  | value (stack : List Frame)
  /-- The first item of an array or its end must follow. -/
  | firstItem (stack : List Frame)
  /-- The first key of an object or its end must follow. -/
  | firstKey (stack : List Frame)
  /-- A further key must follow. -/
  | key (members : Fields Json) (stack : List Frame)
  /-- The colon after a key must follow. -/
  | colon (members : Fields Json) (key : String) (stack : List Frame)
  /-- A value is complete. -/
  | done (value : Json) (stack : List Frame)

/-- The greatest number of arrays and objects that may be open at once. -/
def maxDepth : Nat := 127

namespace State

/-- The state after a token with which a value starts. -/
def start? (stack : List Frame) : Token → Option State
  | .scalar v => some (.done v stack)
  | .openArray => if stack.length < maxDepth then some (.firstItem stack) else none
  | .openObject => if stack.length < maxDepth then some (.firstKey stack) else none
  | _ => none

/-- The state after one more token. -/
def step? : State → Token → Option State
  | .value stack, t => start? stack t
  | .firstItem stack, .closeArray => some (.done (.array []) stack)
  | .firstItem stack, t => start? (.array [] :: stack) t
  | .firstKey stack, .closeObject => some (.done (.object []) stack)
  | .firstKey stack, .scalar (.string k) => some (.colon [] k stack)
  | .key members stack, .scalar (.string k) => some (.colon members k stack)
  | .colon members k stack, .colon => some (.value (.object members k :: stack))
  | .done v (.array items :: stack), .comma => some (.value (.array (v :: items) :: stack))
  | .done v (.array items :: stack), .closeArray =>
    some (.done (.array (v :: items).reverse) stack)
  | .done v (.object members k :: stack), .comma => some (.key (members.insert k v) stack)
  | .done v (.object members k :: stack), .closeObject =>
    some (.done (.object (members.insert k v)) stack)
  | _, _ => none

end State

/-- The value that a list of tokens spells. -/
def ofTokens? (ts : List Token) : Option Json :=
  match ts.foldlM State.step? (.value []) with
  | some (.done v []) => some v
  | _ => none

/-- The value that a text spells. -/
def parse? (s : String) : Option Json :=
  tokens? s.toList >>= ofTokens?

end ApiCheck.Json
