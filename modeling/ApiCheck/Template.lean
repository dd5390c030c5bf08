import ApiCheck.Operand

/-!
# Templates

A text may refer to values by placeholders such as `{{ user.id }}`.  `pieces` cuts a text into
literal characters and references: a reference opens with two braces, ends at the next two closing
braces and has a name between them that is not blank.  Two opening braces that are never closed are
literal, and so is all that follows them.  The pieces put together are the text again
(`source_pieces`).

`placeholders` gives the names of the references with their places, counted in bytes of UTF-8.
`render` replaces every reference by the text of its value, from left to right, up to the first name
without a value; a text that is one reference and nothing else keeps the type of its value.
-/

namespace ApiCheck.Template

/-! ### Pieces -/

/-- A part of a text. -/
inductive Piece where
  /-- Characters that stand for themselves. -/
  | literal (cs : List Char)
  /-- A reference, with the characters between its braces. -/
  | reference (inner : List Char)
deriving DecidableEq

/-- The characters of a piece. -/
def Piece.source : Piece → List Char
  | .literal cs => cs
  | .reference inner => '{' :: '{' :: (inner ++ ['}', '}'])

/-- The characters before the first two closing braces, and those after them. -/
def splitAtClose : List Char → Option (List Char × List Char)
  | [] => none
  | '}' :: '}' :: after => some ([], after)
  | c :: rest =>
    match splitAtClose rest with
    | none => none
    | some (inner, after) => some (c :: inner, after)

theorem splitAtClose_eq {cs inner after : List Char} (h : splitAtClose cs = some (inner, after)) :
    cs = inner ++ '}' :: '}' :: after := by
  fun_induction splitAtClose cs generalizing inner after with
  | case1 => simp at h
  | case2 => simp_all
  | case3 => simp at h
  | case4 c rest _ inner' after' hrest ih =>
    simp only [Option.some.injEq, Prod.mk.injEq] at h
    simp [← h.1, ← h.2, ih hrest]

theorem length_splitAtClose {cs inner after : List Char}
    (h : splitAtClose cs = some (inner, after)) : after.length < cs.length := by
  rw [splitAtClose_eq h]
  simp
  omega

/-- The piece with the given characters between its braces. -/
def Piece.ofInner (inner : List Char) : Piece :=
  if Text.trim inner = [] then .literal (Piece.reference inner).source else .reference inner

/-- The pieces of a text. -/
def pieces : List Char → List Piece
  | [] => []
  | '{' :: '{' :: rest =>
    match h : splitAtClose rest with
    | none => [.literal ('{' :: '{' :: rest)]
    | some (inner, after) =>
      have := length_splitAtClose h
      Piece.ofInner inner :: pieces after
  | c :: rest => .literal [c] :: pieces rest
termination_by cs => cs.length

@[simp] theorem Piece.source_ofInner (inner : List Char) :
    (Piece.ofInner inner).source = (Piece.reference inner).source := by
  unfold Piece.ofInner
  split <;> rfl

/-- The pieces of a text, put together, are the text. -/
theorem source_pieces (cs : List Char) : (pieces cs).flatMap Piece.source = cs := by
  fun_induction pieces cs with
  | case1 => rfl
  | case2 => simp [Piece.source]
  | case3 rest inner after h _ ih =>
    rw [List.flatMap_cons, ih, Piece.source_ofInner, splitAtClose_eq h]
    simp [Piece.source]
  | case4 c rest _ ih => simp [ih, Piece.source]

/-! ### Placeholders -/

/-- A reference in a text: its name and the bytes from its first brace to its last. -/
structure Placeholder where
  name : String
  start : Nat
  stop : Nat
deriving DecidableEq

/-- The name of a reference. -/
def nameOf (inner : List Char) : String :=
  String.ofList (Text.trim inner)

/-- The references among pieces, the first of which starts at the byte `start`. -/
def placeholdersFrom (start : Nat) : List Piece → List Placeholder
  | [] => []
  | piece :: rest =>
    let stop := start + Text.utf8Size piece.source
    match piece with
    | .literal _ => placeholdersFrom stop rest
    | .reference inner => ⟨nameOf inner, start, stop⟩ :: placeholdersFrom stop rest

/-- The references of a text. -/
def placeholders (s : String) : List Placeholder :=
  placeholdersFrom 0 (pieces s.toList)

/-- The name in a text that is one reference, blanks around it ignored. -/
def key? (s : String) : Option String :=
  match pieces (Text.trim s.toList) with
  | [.reference inner] => some (nameOf inner)
  | _ => none

/-- Whether a text is one reference. -/
def isPlaceholder (s : String) : Bool :=
  (key? s).isSome

/-! ### Rendering -/

/-- The result of rendering. -/
structure Rendering where
  /-- The names that were looked up, in their order. -/
  lookups : List String
  /-- The rendered operand, or the name that has no value. -/
  result : Except String Operand

/-- Replaces the references among pieces. -/
def renderPieces (lookup : String → Option Operand) :
    List Piece → List String × Except String (List Char)
  | [] => ([], .ok [])
  | .literal cs :: rest =>
    let (names, result) := renderPieces lookup rest
    (names, result.map (cs ++ ·))
  | .reference inner :: rest =>
    let name := nameOf inner
    match lookup name with
    | none => ([name], .error name)
    | some value =>
      let (names, result) := renderPieces lookup rest
      (name :: names, result.map (value.text.toList ++ ·))

/-- A text with its references replaced by the values that `lookup` gives. -/
def render (lookup : String → Option Operand) (s : String) : Rendering :=
  match key? s with
  | some name => ⟨[name], (lookup name).elim (.error name) .ok⟩
  | none =>
    let (names, result) := renderPieces lookup (pieces s.toList)
    ⟨names, result.map fun cs => .ofString (String.ofList cs)⟩

end ApiCheck.Template
