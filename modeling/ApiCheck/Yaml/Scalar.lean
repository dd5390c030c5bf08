import ApiCheck.Text.Hex
import ApiCheck.Yaml.Cursor

/-!
# Scalars in YAML

A scalar is written plainly, between quotes, or as a block of lines.  Each function here reads the
characters of one scalar and gives its text and the characters that follow it.  The text that is
read so far is held in reverse.

Between two words of a plain or quoted scalar there is a `Gap`.  On one line it is kept; one line end
becomes a space, and of several all but the first are kept.  In a folded block (`>`) the same holds
between lines that do not start with a blank.
-/

namespace ApiCheck.Yaml

/-! ### Gaps -/

/-- What stands between two words. -/
inductive Gap where
  | none
  /-- Blanks on one line. -/
  | blanks (cs : List Char)
  /-- Line ends: the first, the others, and the column that was reached after the last.  The first
  is missing where it was escaped. -/
  | lines (first more : List Char) (column : Nat)

namespace Gap

/-- The gap with one more blank or line end. -/
def add (c : Char) : Gap → Gap
  | .none => if isBreak c then .lines [c] [] 0 else .blanks [c]
  | .blanks cs => if isBreak c then .lines [c] [] 0 else .blanks (cs ++ [c])
  | .lines first more column =>
    if isBreak c then .lines first (more ++ [c]) 0 else .lines first more (column + 1)

/-- The characters that a gap stands for. -/
def text : Gap → List Char
  | .none => []
  | .blanks cs => cs
  | .lines ['\n'] [] _ => [' ']
  | .lines ['\n'] more _ => more
  | .lines first more _ => first ++ more

/-- A text in reverse, with the characters of the gap behind it. -/
def addTo (g : Gap) (text : List Char) : List Char :=
  g.text.reverse ++ text

/-- Whether there is nothing. -/
def isNone : Gap → Bool
  | .none => true
  | _ => false

/-- Whether the gap holds a line end. -/
def isBroken : Gap → Bool
  | .lines _ _ _ => true
  | _ => false

/-- Whether the gap ends in a line before the column `indent`. -/
def endsBefore (indent : Nat) : Gap → Bool
  | .lines _ _ column => column < indent
  | _ => false

/-- Whether the gap ends with a line end. -/
def atLineStart (g : Gap) : Bool :=
  g.endsBefore 1

end Gap

/-! ### Plain scalars -/

/-- A plain scalar that was read. -/
structure Plain where
  text : List Char
  /-- Whether a line end was skipped behind its last word. -/
  broken : Bool
  rest : List Char

/-- Whether a plain scalar that stands in brackets ends in front of `c`. -/
def isFlowMark (c : Char) : Bool :=
  [',', '[', ']', '{', '}'].contains c

/-- Whether `c` must not follow a colon within brackets. -/
def refusedAfterColon (c : Char) : Bool :=
  c == '?' || isFlowMark c

/-- Whether a plain scalar ends in front of `c :: rest`: the gap before it leads out of the scalar, a
comment or a mark starts there, or the colon of a value stands there. -/
def endsPlain (flow : Bool) (indent : Nat) (gap : Gap) (c : Char) (rest : List Char) : Bool :=
  (!flow && gap.endsBefore indent) || (gap.atLineStart && isMarker (c :: rest)) ||
    (!gap.isNone && c == '#') || (c == ':' && endsWord rest) || (flow && isFlowMark c)

/-- Reads a plain scalar: `flow` tells whether it stands in brackets, outside of which its further
lines must reach the column `indent`. -/
def plain? (flow : Bool) (indent : Nat) (text : List Char) (gap : Gap) :
    List Char → Option Plain
  | [] => some ⟨text.reverse, gap.isBroken, []⟩
  | c :: rest =>
    if isBlank c || isBreak c then
      if c == '\t' && gap.endsBefore indent then none
      else plain? flow indent text (gap.add c) rest
    else if flow && c == ':' && rest.head?.any refusedAfterColon then none
    else if endsPlain flow indent gap c rest then some ⟨text.reverse, gap.isBroken, c :: rest⟩
    else plain? flow indent (c :: gap.addTo text) .none rest

/-! ### Quoted scalars -/

/-- Reads what follows a single quote, up to the next one that stands alone. -/
def singleQuoted? (text : List Char) (gap : Gap) : List Char → Option (List Char × List Char)
  | [] => none
  | '\'' :: '\'' :: rest => singleQuoted? ('\'' :: gap.addTo text) .none rest
  | '\'' :: rest => some ((gap.addTo text).reverse, rest)
  | c :: rest =>
    if isBlank c || isBreak c then singleQuoted? text (gap.add c) rest
    else if gap.atLineStart && isMarker (c :: rest) then none
    else singleQuoted? (c :: gap.addTo text) .none rest

/-- The character of an escape of one letter. -/
def escaped? : Char → Option Char
  | '0' => some '\x00'
  | 'a' => some '\x07'
  | 'b' => some '\x08'
  | 't' => some '\t'
  | '\t' => some '\t'
  | 'n' => some '\n'
  | 'v' => some '\x0b'
  | 'f' => some '\x0c'
  | 'r' => some '\r'
  | 'e' => some '\x1b'
  | ' ' => some ' '
  | '"' => some '"'
  | '/' => some '/'
  | '\\' => some '\\'
  | 'N' => some '\u0085'
  | '_' => some '\u00a0'
  | 'L' => some '\u2028'
  | 'P' => some '\u2029'
  | _ => none

/-- The number of hexadecimal digits after a letter. -/
def hexDigits? : Char → Option Nat
  | 'x' => some 2
  | 'u' => some 4
  | 'U' => some 8
  | _ => none

/-- The character with a hexadecimal number. -/
def charOfHex? (cs : List Char) : Option Char := do
  let digits ← cs.mapM Text.hexValue?
  let n := digits.foldl (fun n d => 16 * n + d) 0
  if n.isValidChar then some (Char.ofNat n) else none

/-- The character that an escape denotes, and the number of characters behind its backslash. -/
def escape? : List Char → Option (Char × Nat)
  | [] => none
  | c :: rest =>
    match hexDigits? c with
    | some count =>
      if count ≤ rest.length then (charOfHex? (rest.take count)).map fun d => (d, count + 1) else none
    | none => (escaped? c).map fun d => (d, 1)

/-- Reads what follows a double quote, up to the next one. -/
def doubleQuoted? (text : List Char) (gap : Gap) (cs : List Char) :
    Option (List Char × List Char) :=
  match cs with
  | [] => none
  | c :: rest =>
    if c == '"' then some ((gap.addTo text).reverse, rest)
    else if isBlank c || isBreak c then doubleQuoted? text (gap.add c) rest
    else if gap.atLineStart && isMarker cs then none
    else if c == '\\' then
      if rest.head?.any isBreak then
        doubleQuoted? (gap.addTo text) (.lines [] [] 0) (rest.drop 1)
      else
        match escape? rest with
        | none => none
        | some (d, count) => doubleQuoted? (d :: gap.addTo text) .none (rest.drop count)
    else doubleQuoted? (c :: gap.addTo text) .none rest
termination_by cs.length
decreasing_by all_goals simp only [List.length_cons, List.length_drop]; omega

/-! ### Block scalars -/

/-- What becomes of the line ends behind the last line of a block. -/
inductive Chomping where
  /-- None is kept. -/
  | strip
  /-- The first is kept. -/
  | clip
  /-- All are kept. -/
  | keep
deriving DecidableEq

/-- The first line of a block scalar. -/
structure BlockHeader where
  /-- Whether line ends are folded. -/
  folded : Bool
  chomping : Chomping := .clip
  /-- The columns by which the block is indented, zero where its first line decides. -/
  increment : Nat := 0

namespace BlockHeader

/-- Reads a mark for chomping. -/
def readChomping (h : BlockHeader) : List Char → BlockHeader × List Char
  | '+' :: rest => ({ h with chomping := .keep }, rest)
  | '-' :: rest => ({ h with chomping := .strip }, rest)
  | cs => (h, cs)

/-- Reads a digit for the indentation. -/
def readIncrement? (h : BlockHeader) : List Char → Option (BlockHeader × List Char)
  | [] => some (h, [])
  | c :: rest =>
    if c == '0' then none
    else if '1' ≤ c && c ≤ '9' then some ({ h with increment := c.toNat - 48 }, rest)
    else some (h, c :: rest)

/-- Reads the marks of a header, in either order. -/
def readMarks? (h : BlockHeader) (cs : List Char) : Option (BlockHeader × List Char) := do
  let (h, after) := h.readChomping cs
  let (h, rest) ← h.readIncrement? after
  return if h.chomping = .clip ∧ h.increment ≠ 0 then h.readChomping rest else (h, rest)

/-- Reads a header with its line end. -/
def read? (folded : Bool) (cs : List Char) : Option (BlockHeader × List Char) := do
  let (h, after) ← readMarks? ⟨folded, .clip, 0⟩ cs
  match after.dropWhile isBlank with
  | '#' :: rest => some (h, (rest.dropWhile (!isBreak ·)).drop 1)
  | [] => some (h, [])
  | c :: rest => if isBreak c then some (h, rest) else none

end BlockHeader

/-- The lines in front of the first line with content. -/
structure BlockStart where
  breaks : List Char
  /-- The column that was reached. -/
  column : Nat
  /-- The greatest column among the lines. -/
  widest : Nat
  rest : List Char

/-- Reads the lines in front of the first with content, in which no tab may stand before the column
`indent`; where that is zero, spaces are read up to any column. -/
def blockStart? (indent : Nat) (s : BlockStart) : List Char → Option BlockStart
  | [] => some { s with rest := [] }
  | c :: rest =>
    let inside := indent == 0 || s.column < indent
    if c == ' ' && inside then
      blockStart? indent { s with column := s.column + 1, widest := max s.widest (s.column + 1) } rest
    else if c == '\t' && inside then none
    else if isBreak c then blockStart? indent { s with breaks := s.breaks ++ [c], column := 0 } rest
    else some { s with rest := c :: rest }

/-- A block of which some lines are read. -/
structure Block where
  /-- The text up to the last line, in reverse. -/
  text : List Char := []
  /-- The line end of the last line. -/
  ending : List Char := []
  /-- The line ends behind it. -/
  breaks : List Char := []
  /-- Whether the last line started with a blank. -/
  blankStart : Bool := false

namespace Block

/-- What stands for the line ends in front of a line that starts with `c`. -/
def joint (b : Block) (folded : Bool) (c : Char) : List Char :=
  if folded && b.ending == ['\n'] && !b.blankStart && !isBlank c then
    if b.breaks == [] then [' '] else b.breaks
  else b.ending ++ b.breaks

/-- The text of a block that is read. -/
def finalText (b : Block) : Chomping → List Char
  | .strip => b.text.reverse
  | .clip => b.text.reverse ++ b.ending
  | .keep => b.text.reverse ++ b.ending ++ b.breaks

end Block

/-- Reads the lines of a block that is indented by `indent` columns.  The column is that of a place
in front of the content of a line, none within it. -/
def blockLines? (folded : Bool) (indent : Nat) (b : Block) (column : Option Nat) :
    List Char → Option (Block × List Char)
  | [] => some (b, [])
  | c :: rest =>
    match column with
    | none =>
      if isBreak c then blockLines? folded indent { b with ending := [c], breaks := [] } (some 0) rest
      else blockLines? folded indent { b with text := c :: b.text } none rest
    | some n =>
      if c == ' ' && n < indent then blockLines? folded indent b (some (n + 1)) rest
      else if c == '\t' && n < indent then none
      else if isBreak c then
        blockLines? folded indent { b with breaks := b.breaks ++ [c] } (some 0) rest
      else if n == indent then
        let text := c :: ((b.joint folded c).reverse ++ b.text)
        blockLines? folded indent ⟨text, [], [], isBlank c⟩ none rest
      else some (b, c :: rest)

/-- The column of a block: its own increment counts from the column `parent` of the collection
around it; without one the widest line in front of its content decides. -/
def blockIndent (h : BlockHeader) (parent : Option Nat) (s : BlockStart) : Nat :=
  if h.increment = 0 then max s.widest (max (parent.elim 0 (· + 1)) 1)
  else parent.getD 0 + h.increment

/-- Reads what follows the mark of a block scalar in a collection at the column `parent`. -/
def block? (folded : Bool) (parent : Option Nat) (cs : List Char) :
    Option (List Char × List Char) := do
  let (h, after) ← BlockHeader.read? folded cs
  let fixed := if h.increment = 0 then 0 else parent.getD 0 + h.increment
  let s ← blockStart? fixed ⟨[], 0, 0, []⟩ after
  let b : Block := { breaks := s.breaks }
  let (b, rest) ← blockLines? folded (blockIndent h parent s) b (some s.column) s.rest
  return (b.finalText h.chomping, rest)

end ApiCheck.Yaml
