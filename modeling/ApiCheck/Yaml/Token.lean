import ApiCheck.Yaml.Scalar

/-!
# YAML tokens

`tokens? s` splits a text into scalars and marks.  The indentation of block collections becomes
marks as well: `openMapping` and `openSequence` where a collection starts, `closeBlock` where it
ends.

A scalar, or a collection in brackets, turns out to be a key only when a colon follows it.  It has
to stand on one line then and to be short.  Until that is known it is kept as a `Candidate`, and the
marks that a key needs are put in front of it later.

Anchors, aliases, tags and directives are refused.
-/

namespace ApiCheck.Yaml

/-! ### Types -/

/-- A scalar, or a mark for the structure around scalars. -/
inductive Token where
  | openDocument
  | closeDocument
  | openSequence
  | openMapping
  | closeBlock
  | openFlowSequence
  | closeFlowSequence
  | openFlowMapping
  | closeFlowMapping
  | comma
  | entry
  | key
  | value
  | scalar (plain : Bool) (text : String)
  /-- The end of the text. -/
  | stop
deriving DecidableEq

/-- A token that may turn out to be the start of a key. -/
structure Candidate where
  /-- The number of tokens before it. -/
  token : Nat
  position : Position
  /-- Whether it must be a key, because it stands where a key of the innermost mapping does. -/
  required : Bool

/-- The greatest number of characters between the start of a key and its colon. -/
def maxKeySize : Nat := 1024

/-- A text of which some tokens are read. -/
structure Reading where
  rest : List Char
  position : Position := {}
  tokens : List Token := []
  /-- The columns of the open block collections, the innermost first. -/
  indents : List Nat := []
  /-- Whether a key may start here. -/
  keyAllowed : Bool := true
  /-- The candidate of the innermost collection. -/
  candidate : Option Candidate := none
  /-- The candidates around each open bracket, the innermost first. -/
  outer : List (Option Candidate) := []

namespace Reading

/-- Whether the place stands in brackets. -/
def inFlow (r : Reading) : Bool :=
  !r.outer.isEmpty

/-- The column of the innermost block collection. -/
def indent? (r : Reading) : Option Nat :=
  r.indents.head?

/-! ### Moving on -/

/-- The reading with what is left of its text after the next token. -/
def moveTo (r : Reading) (rest : List Char) : Reading :=
  let passed := r.rest.take (r.rest.length - rest.length)
  { r with rest := rest, position := passed.foldl Position.next r.position }

/-- The reading with one more token. -/
def emit (r : Reading) (t : Token) : Reading :=
  { r with tokens := r.tokens ++ [t] }

/-- The reading with a mark of some characters passed. -/
def mark (r : Reading) (size : Nat) (t : Token) : Reading :=
  (r.moveTo (r.rest.drop size)).emit t

/-- What follows blanks, line ends and comments, and whether a key may start there.  A tab is no
blank where a key may start, except in brackets. -/
def afterSpace (flow comment keyAllowed : Bool) : List Char → List Char × Bool
  | [] => ([], keyAllowed)
  | c :: rest =>
    if isBreak c then afterSpace flow false (keyAllowed || !flow) rest
    else if comment then afterSpace flow true keyAllowed rest
    else if c == '#' then afterSpace flow true keyAllowed rest
    else if c == ' ' || (c == '\t' && (flow || !keyAllowed)) then
      afterSpace flow false keyAllowed rest
    else (c :: rest, keyAllowed)

/-- The reading in front of its next token. -/
def skipSpace (r : Reading) : Reading :=
  let (rest, keyAllowed) := afterSpace r.inFlow false r.keyAllowed r.rest
  { r.moveTo rest with keyAllowed := keyAllowed }

/-! ### Candidates -/

/-- Whether the place is too far from a candidate for it to be a key. -/
def isStale (p : Position) (c : Candidate) : Bool :=
  c.position.line < p.line || c.position.index + maxKeySize < p.index

/-- A candidate that is still possible; none at all where one must be a key but is stale. -/
def fresh? (p : Position) : Option Candidate → Option (Option Candidate)
  | none => some none
  | some c => if isStale p c then (if c.required then none else some none) else some (some c)

/-- Drops the candidates that are stale. -/
def dropStale? (r : Reading) : Option Reading := do
  let candidate ← fresh? r.position r.candidate
  let outer ← r.outer.mapM (fresh? r.position)
  return { r with candidate := candidate, outer := outer }

/-- Drops the candidate, which must not be one that has to be a key. -/
def dropCandidate? (r : Reading) : Option Reading :=
  if r.candidate.any Candidate.required then none else some { r with candidate := none }

/-- Takes the next token for a candidate, where a key may start. -/
def addCandidate? (r : Reading) : Option Reading :=
  if r.keyAllowed then do
    let r ← r.dropCandidate?
    let required := !r.inFlow && r.indent? == some r.position.column
    return { r with candidate := some ⟨r.tokens.length, r.position, required⟩ }
  else some r

/-! ### Block collections -/

/-- Closes the block collections to the right of a column. -/
def closeBlocks (r : Reading) (column : Nat) : Reading :=
  if r.inFlow then r
  else
    let closed := (r.indents.takeWhile (column < ·)).length
    { r with
      indents := r.indents.drop closed, tokens := r.tokens ++ List.replicate closed .closeBlock }

/-- Closes all block collections. -/
def closeAllBlocks (r : Reading) : Reading :=
  if r.inFlow then r
  else { r with indents := [], tokens := r.tokens ++ r.indents.map fun _ => .closeBlock }

/-- Opens a block collection at a column, in front of the token at an index, where none is open
there yet. -/
def openBlock (r : Reading) (column index : Nat) (t : Token) : Reading :=
  if r.inFlow || r.indent?.any (column ≤ ·) then r
  else
    { r with
      indents := column :: r.indents, tokens := r.tokens.take index ++ t :: r.tokens.drop index }

/-! ### Marks -/

/-- Reads the mark for the start or the end of a document. -/
def documentMark? (r : Reading) (t : Token) : Option Reading := do
  let r ← r.closeAllBlocks.dropCandidate?
  return { r.mark 3 t with keyAllowed := false }

/-- Reads an opening bracket. -/
def openFlow? (r : Reading) (t : Token) : Option Reading := do
  let r ← r.addCandidate?
  return { r.mark 1 t with candidate := none, outer := r.candidate :: r.outer, keyAllowed := true }

/-- Reads a closing bracket. -/
def closeFlow? (r : Reading) (t : Token) : Option Reading := do
  let r ← r.dropCandidate?
  return { r.mark 1 t with
    candidate := r.outer.head?.getD none, outer := r.outer.tail, keyAllowed := false }

/-- Reads a comma. -/
def comma? (r : Reading) : Option Reading := do
  let r ← r.dropCandidate?
  return { r.mark 1 .comma with keyAllowed := true }

/-- Reads the dash of an item. -/
def entry? (r : Reading) : Option Reading :=
  if r.inFlow || r.keyAllowed then do
    let r ← (r.openBlock r.position.column r.tokens.length .openSequence).dropCandidate?
    return { r.mark 1 .entry with keyAllowed := true }
  else none

/-- Reads the question mark of a key. -/
def key? (r : Reading) : Option Reading :=
  if r.inFlow || r.keyAllowed then do
    let r ← (r.openBlock r.position.column r.tokens.length .openMapping).dropCandidate?
    return { r.mark 1 .key with keyAllowed := !r.inFlow }
  else none

/-- Reads the colon of a value. -/
def value? (r : Reading) : Option Reading :=
  match r.candidate with
  | some c =>
    let r := { r with
      tokens := r.tokens.take c.token ++ Token.key :: r.tokens.drop c.token, candidate := none }
    let r := r.openBlock c.position.column c.token .openMapping
    some { r.mark 1 .value with keyAllowed := false }
  | none =>
    if r.inFlow || r.keyAllowed then
      let r := r.openBlock r.position.column r.tokens.length .openMapping
      some { r.mark 1 .value with keyAllowed := !r.inFlow }
    else none

/-! ### Scalars -/

/-- The reading after a scalar with the given text. -/
def scalar (r : Reading) (plain : Bool) (text rest : List Char) : Reading :=
  (r.moveTo rest).emit (.scalar plain (String.ofList text))

/-- Reads a plain scalar. -/
def plainScalar? (r : Reading) : Option Reading := do
  let r ← r.addCandidate?
  let p ← plain? r.inFlow (r.indent?.elim 0 (· + 1)) [] .none r.rest
  return { r.scalar true p.text p.rest with keyAllowed := p.broken }

/-- Reads a scalar between quotes. -/
def quotedScalar? (r : Reading) (read? : List Char → Option (List Char × List Char)) :
    Option Reading := do
  let r ← r.addCandidate?
  let (text, rest) ← read? (r.rest.drop 1)
  return { r.scalar false text rest with keyAllowed := false }

/-- Reads a block scalar. -/
def blockScalar? (r : Reading) (folded : Bool) : Option Reading := do
  let r ← r.dropCandidate?
  let (text, rest) ← block? folded r.indent? (r.rest.drop 1)
  return { r.scalar false text rest with keyAllowed := true }

/-! ### Tokens -/

/-- The characters with which no plain scalar starts. -/
def indicators : List Char :=
  ['-', '?', ':', ',', '[', ']', '{', '}', '#', '&', '*', '!', '|', '>', '\'', '"', '%', '@', '\x60']

/-- Whether a plain scalar starts with `c`, where `rest` follows. -/
def startsPlain (flow : Bool) (c : Char) (rest : List Char) : Bool :=
  !(isBlank c || isBreak c || indicators.contains c) ||
    (c == '-' && !rest.head?.any isBlank) ||
    (!flow && (c == '?' || c == ':') && !endsWord rest)

/-- Reads the token that starts with `c`, where `rest` follows. -/
def token? (r : Reading) (c : Char) (rest : List Char) : Option Reading :=
  let column := r.position.column
  let alone := r.inFlow || endsWord rest
  if column == 0 && isMarker (c :: rest) then
    r.documentMark? (if c == '-' then .openDocument else .closeDocument)
  else if column == 0 && c == '%' then none
  else if c == '[' then r.openFlow? .openFlowSequence
  else if c == '{' then r.openFlow? .openFlowMapping
  else if c == ']' then r.closeFlow? .closeFlowSequence
  else if c == '}' then r.closeFlow? .closeFlowMapping
  else if c == ',' then r.comma?
  else if c == '-' && endsWord rest then r.entry?
  else if c == '?' && alone then r.key?
  else if c == ':' && alone then r.value?
  else if c == '|' && !r.inFlow then r.blockScalar? false
  else if c == '>' && !r.inFlow then r.blockScalar? true
  else if c == '\'' then r.quotedScalar? (singleQuoted? [] .none)
  else if c == '"' then r.quotedScalar? (doubleQuoted? [] .none)
  else if startsPlain r.inFlow c rest then r.plainScalar?
  else none

/-- Ends the reading at the end of its text. -/
def finish? (r : Reading) : Option (List Token) := do
  let r ← r.closeAllBlocks.dropCandidate?
  return (r.emit .stop).tokens

/-- Reads all tokens that are left. -/
def tokens? (r : Reading) : Option (List Token) :=
  match r.skipSpace.dropStale? with
  | none => none
  | some s =>
    let s := s.closeBlocks s.position.column
    match s.rest with
    | [] => s.finish?
    | c :: rest =>
      match s.token? c rest with
      | none => none
      | some next => if next.rest.length < r.rest.length then tokens? next else none
termination_by r.rest.length

end Reading

/-- The tokens of a text. -/
def tokens? (s : String) : Option (List Token) := do
  let cs ← chars? s
  Reading.tokens? { rest := cs }

end ApiCheck.Yaml
