/-!
# Places in a YAML text

`chars? s` makes a text ready for reading: it drops a byte order mark in front, turns every kind of
line end but the line and the paragraph separator into a newline, and refuses a text with a
character that must not stand in YAML.

A `Position` counts the characters, the lines and the columns before a place.
-/

namespace ApiCheck.Yaml

/-! ### Characters -/

/-- Whether `c` may stand in a text. -/
def isAllowed (c : Char) : Bool :=
  let n := c.toNat
  n == 0x09 || n == 0x0A || n == 0x0D || (0x20 ≤ n && n ≤ 0x7E) || n == 0x85 ||
    (0xA0 ≤ n && n ≤ 0xFFFD) || 0x10000 ≤ n

/-- Whether `c` is blank within a line. -/
def isBlank (c : Char) : Bool :=
  c == ' ' || c == '\t'

/-- Whether `c` ends a line. -/
def isBreak (c : Char) : Bool :=
  c == '\n' || c == '\u2028' || c == '\u2029'

/-- Whether a word ends in front of the given characters. -/
def endsWord : List Char → Bool
  | [] => true
  | c :: _ => isBlank c || isBreak c

/-- Whether the mark for the start or the end of a document stands in front of the given
characters. -/
def isMarker : List Char → Bool
  | '-' :: '-' :: '-' :: rest => endsWord rest
  | '.' :: '.' :: '.' :: rest => endsWord rest
  | _ => false

/-! ### Texts -/

/-- Turns line ends into newlines. -/
def unifyBreaks : List Char → List Char
  | [] => []
  | '\r' :: '\n' :: rest => '\n' :: unifyBreaks rest
  | c :: rest => (if c == '\r' || c == '\u0085' then '\n' else c) :: unifyBreaks rest

/-- The characters of a text without the byte order mark in front. -/
def withoutMark (s : String) : List Char :=
  match s.toList with
  | '\ufeff' :: rest => rest
  | cs => cs

/-- The characters of a text, ready for reading. -/
def chars? (s : String) : Option (List Char) :=
  let cs := withoutMark s
  if cs.all isAllowed then some (unifyBreaks cs) else none

/-! ### Positions -/

/-- A place in a text. -/
structure Position where
  /-- The number of characters before the place. -/
  index : Nat := 0
  /-- The number of lines before it. -/
  line : Nat := 0
  /-- The number of characters before it in its line. -/
  column : Nat := 0

/-- The position after one more character. -/
def Position.next (p : Position) (c : Char) : Position :=
  if isBreak c then ⟨p.index + 1, p.line + 1, 0⟩ else ⟨p.index + 1, p.line, p.column + 1⟩

end ApiCheck.Yaml
