import ApiCheck.Json.Parser
import ApiCheck.Operand
import ApiCheck.Response.Path
import ApiCheck.Text.Upper

/-!
# Responses

A response holds what an interface answered to a request: its status, the time it took, its headers
and a JSON body, if there is one.  Its label names the request and stands in front of every message.

Values are looked up at a `Location`: the whole body, a node of it, or a header.  A node that is not
there is `null`, a header that is not there is `undefined`.  Header names are compared without
regard to the case of ASCII letters, and several headers of one name are read as one.
-/

namespace ApiCheck

/-- What was answered to a request. -/
structure Response where
  /-- The method and the path of the request, between brackets. -/
  label : String
  status : Nat
  /-- The time that the answer took, in milliseconds. -/
  timing : Double := .finite (.zero false)
  headers : List (String × String) := []
  body : Option Json := none

namespace Response

/-! ### Making responses -/

/-- The response to a request, without headers and body. -/
def ofRequest (method path : String) (status : Nat) : Response where
  label := s!"[{Text.capitalised method} {path}]"
  status := status

/-- The body that a text denotes: none where it is blank, a string where it is no JSON. -/
def bodyOfText (s : String) : Option Json :=
  if Text.isBlankText s then none else some ((Json.parse? s).getD (.string s))

/-! ### Looking up -/

/-- A lookup whose path is not valid. -/
structure LookupError where
  path : String
  reason : PathError
deriving DecidableEq

/-- The wording of a failed lookup. -/
def LookupError.message (e : LookupError) : String :=
  s!"invalid path '{e.path}': {e.reason.reason}"

/-- The whole body. -/
def wholeBody (r : Response) : Operand :=
  .ofOption r.body

/-- The node at a path; `null` where there is no body, whatever the path. -/
def findInBody (r : Response) (path : String) : Except LookupError Operand :=
  match r.body with
  | none => .ok .null
  | some v =>
    match segments path with
    | .error e => .error ⟨path, e⟩
    | .ok ss => .ok (.json ((select ss v).getD .null))

/-- Whether two header names are the same but for the case of ASCII letters. -/
def sameHeader (a b : String) : Bool :=
  a.toList.map Char.toLower == b.toList.map Char.toLower

/-- The values of all headers of a name, in their order. -/
def headerValues (r : Response) (name : String) : List String :=
  (r.headers.filter fun h => sameHeader h.1 name).map Prod.snd

/-- The values of all headers of a name as one text. -/
def findInHeader (r : Response) (name : String) : Operand :=
  match r.headerValues name with
  | [] => .undefined
  | values => .ofString (", ".intercalate values)

/-- Where a check takes its actual value from. -/
inductive Location where
  | body
  | node (path : String)
  | header (name : String)

/-- The value at a location. -/
def locate (r : Response) : Location → Except LookupError Operand
  | .body => .ok r.wholeBody
  | .node path => r.findInBody path
  | .header name => .ok (r.findInHeader name)

/-- The length of the value at a location. -/
def lengthAt (r : Response) (l : Location) : Except LookupError Operand :=
  (r.locate l).map Operand.length

end Response

end ApiCheck
