import ApiCheck.Json.Basic
import ApiCheck.Number.Reading
import ApiCheck.Text.Blank

/-!
# Body paths

A path leads from the root of a body to a node of it: `posts[0].title`.  It is a list of segments: a
key stands between dots, an index or the wildcard `*` between brackets, and a `$` in front denotes
the root.  Dots only separate keys, so that doubled, leading and trailing ones change nothing.  A
bracket is closed by the next closing bracket; what stands in it is trimmed and must be `*` or a
whole number below `2 ^ 64`.  The leftmost bad bracket makes the path invalid (`PathError`).

`select` follows a path.  A wildcard maps the rest of the path over all items of an array, or all
values of an object in key order, and collects the nodes that it finds into an array.
-/

namespace ApiCheck.Response

/-! ### Types -/

/-- One step of a path. -/
inductive Segment where
  | key (name : String)
  | index (i : Nat)
  | wildcard
deriving DecidableEq

/-- Why a path is not valid. -/
inductive PathError where
  /-- A bracket has no closing bracket after it. -/
  | unclosed (inner : String)
  /-- A bracket holds neither the wildcard nor an index. -/
  | badIndex (inner : String)
deriving DecidableEq

/-- The wording of a fault. -/
def PathError.reason : PathError → String
  | .unclosed inner => s!"unclosed bracket: [{inner}"
  | .badIndex inner => s!"invalid array index: {inner}"

/-! ### Reading paths -/

namespace Segment

/-- The greatest index. -/
def maxIndex : Nat := 2 ^ 64 - 1

/-- The segment between a pair of brackets. -/
def ofBracket (inner : List Char) : Except PathError Segment :=
  let cs := Text.trim inner
  if cs = ['*'] then .ok .wildcard
  else
    match readUnsigned maxIndex cs with
    | .ok i => .ok (.index i)
    | .error _ => .error (.badIndex (String.ofList cs))

end Segment

/-- The characters before the first closing bracket, and those after it. -/
def splitAtBracket : List Char → Option (List Char × List Char)
  | [] => none
  | c :: rest =>
    if c = ']' then some ([], rest)
    else
      match splitAtBracket rest with
      | none => none
      | some (inner, after) => some (c :: inner, after)

theorem splitAtBracket_eq {cs inner after : List Char}
    (h : splitAtBracket cs = some (inner, after)) : cs = inner ++ ']' :: after := by
  fun_induction splitAtBracket cs generalizing inner after with
  | case1 => simp at h
  | case2 => simp_all
  | case3 => simp at h
  | case4 c rest _ inner' after' hrest ih =>
    simp only [Option.some.injEq, Prod.mk.injEq] at h
    simp [← h.1, ← h.2, ih hrest]

theorem length_splitAtBracket {cs inner after : List Char}
    (h : splitAtBracket cs = some (inner, after)) : after.length < cs.length := by
  rw [splitAtBracket_eq h]
  simp
  omega

/-- Whether `c` may stand in a key: it is neither a dot nor an opening bracket. -/
def isKeyChar (c : Char) : Bool :=
  c != '.' && c != '['

/-- The segments that some characters spell. -/
def segmentsFrom (cs : List Char) : Except PathError (List Segment) :=
  match cs with
  | [] => .ok []
  | c :: rest =>
    if c = '.' then segmentsFrom rest
    else if c = '[' then
      match h : splitAtBracket rest with
      | none => .error (.unclosed (String.ofList rest))
      | some (inner, after) =>
        have := length_splitAtBracket h
        match Segment.ofBracket inner with
        | .error e => .error e
        | .ok segment => (segmentsFrom after).map (segment :: ·)
    else
      have := (List.dropWhile_suffix (l := rest) isKeyChar).length_le
      (segmentsFrom (rest.dropWhile isKeyChar)).map
        (.key (String.ofList (c :: rest.takeWhile isKeyChar)) :: ·)
termination_by cs.length

/-- A path without its blank ends and the mark of the root. -/
def pathBody (path : String) : List Char :=
  match Text.trim path.toList with
  | '$' :: rest => rest
  | cs => cs

/-- The segments of a path. -/
def segments (path : String) : Except PathError (List Segment) :=
  segmentsFrom (pathBody path)

/-! ### Following paths -/

/-- The values that a wildcard stands for. -/
def children? : Json → Option (List Json)
  | .array items => some items
  | .object members => some (Fields.values members)
  | _ => none

/-- The node to which a path leads. -/
def select : List Segment → Json → Option Json
  | [], v => some v
  | .key name :: rest, v => v.member? name >>= select rest
  | .index i :: rest, v => v.item? i >>= select rest
  | .wildcard :: rest, v => (children? v).map fun vs => .array (vs.filterMap (select rest))

end ApiCheck.Response
