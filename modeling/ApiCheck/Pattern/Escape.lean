import ApiCheck.Pattern.Regex
import ApiCheck.Pattern.Scan
import ApiCheck.Unicode.Folding

/-!
# Escapes

A pattern is read under flags (`Flags`), which it may change on its way.  An escape, introduced by a
backslash, denotes a character, a demand on a place or a class of characters (`Escape`).  Without the
flag `unicode` classes hold ASCII characters only and named sets do not exist; bytes beyond ASCII,
which could match a part of a character, are refused.
-/

namespace ApiCheck.Pattern

open Unicode (Ranges)

/-! ### Flags -/

/-- The flags under which a pattern is read. -/
structure Flags where
  /-- Letters match without regard to case. -/
  fold : Bool := false
  /-- The marks of start and end stand for lines. -/
  lines : Bool := false
  /-- The dot matches line feeds. -/
  dotAll : Bool := false
  /-- Classes are those of all scripts. -/
  unicode : Bool := true
  /-- A return ends a line too. -/
  crlf : Bool := false
  /-- Blanks and comments have no meaning. -/
  spaced : Bool := false

/-- The flags with the flag of a letter set. -/
def Flags.set? (f : Flags) (letter : Char) (value : Bool) : Option Flags :=
  match letter with
  | 'i' => some { f with fold := value }
  | 'm' => some { f with lines := value }
  | 's' => some { f with dotAll := value }
  | 'u' => some { f with unicode := value }
  | 'R' => some { f with crlf := value }
  | 'x' => some { f with spaced := value }
  | 'U' => some f
  | _ => none

/-- Reads letters of flags up to `:` or `)`; letters after a dash are switched off.  `seen` are the
letters so far, and `dash` tells whether there was a dash.  Gives the flags, whether nothing was
there, the end mark and what follows it. -/
def flags? (f : Flags) (seen : List Char) (dash : Bool) :
    List Char → Option (Flags × Bool × Char × List Char)
  | [] => none
  | c :: rest =>
    if c = ':' ∨ c = ')' then
      if seen.head? = some '-' then none else some (f, seen.isEmpty, c, rest)
    else if c = '-' then if dash then none else flags? f ('-' :: seen) true rest
    else if seen.contains c then none
    else
      match f.set? c (!dash) with
      | none => none
      | some f => flags? f (c :: seen) dash rest

/-! ### Classes -/

/-- The members of a set, or all others.  Without the flag `unicode` the others include bytes beyond
ASCII, which are refused. -/
def Flags.negate? (f : Flags) (negated : Bool) (s : Ranges) : Option Ranges :=
  if !negated then some s else if f.unicode then some s.complement else none

/-- The ASCII letters of a set in both cases, with the set. -/
def foldAscii (s : Ranges) : Ranges :=
  let shift (first last distance : Nat) (down : Bool) : Ranges :=
    (s.inter [(first, last)]).map fun (a, b) =>
      if down then (a - distance, b - distance) else (a + distance, b + distance)
  s.union (Ranges.ofList (shift 0x41 0x5A 0x20 false ++ shift 0x61 0x7A 0x20 true))

/-- A set with the characters that differ in case only, where the flags ask for them. -/
def Flags.folded (f : Flags) (s : Ranges) : Ranges :=
  if !f.fold then s else if f.unicode then s.fold else foldAscii s

/-- The classes with a letter of their own: digits, blanks and characters of words. -/
inductive LetterClass where
  | digit
  | space
  | word

/-- The characters of a class with a letter of its own. -/
def LetterClass.ranges (unicode : Bool) : LetterClass → Ranges
  | .digit => if unicode then Unicode.digits else [(0x30, 0x39)]
  | .space => if unicode then Unicode.spaces else [(0x09, 0x0D), (0x20, 0x20)]
  | .word =>
    if unicode then Unicode.wordCharacters
    else [(0x30, 0x39), (0x41, 0x5A), (0x5F, 0x5F), (0x61, 0x7A)]

/-! ### Escapes -/

/-- What an escape denotes. -/
inductive Escape where
  /-- A character; `asByte` tells that it was written as the number of a byte. -/
  | char (c : Char) (asByte : Bool)
  | look (l : Look)
  | letterClass (k : LetterClass) (negated : Bool)
  /-- A named set, its characters already looked up. -/
  | named (s : Ranges) (negated : Bool)

/-- The edge of a word with a name. -/
def WordEdge.ofName? (name : String) : Option WordEdge :=
  match name with
  | "start" => some .start
  | "end" => some .stop
  | "start-half" => some .startHalf
  | "end-half" => some .stopHalf
  | _ => none

/-- Whether `c` may stand in the name of an edge of a word. -/
def inEdgeName (c : Char) : Bool :=
  c.isAlpha || c == '-'

/-- The edge of a word after its letter: a name between braces, if what stands there may be one. -/
def wordEdge? (spaced : Bool) (cs : List Char) : Option (WordEdge × List Char) :=
  match cs with
  | '\x7b' :: rest =>
    match skipSpace spaced rest with
    | [] => none
    | c :: rest' =>
      if !inEdgeName c then some (.boundary, cs)
      else
        match run spaced inEdgeName (c :: rest') with
        | (name, '\x7d' :: left) =>
          (WordEdge.ofName? (String.ofList name)).map fun edge => (edge, left)
        | _ => none
  | _ => some (.boundary, cs)

/-- The parts before and after the first occurrence of `mark`. -/
def splitAt? (mark : List Char) : List Char → Option (List Char × List Char)
  | [] => none
  | c :: rest =>
    if mark.isPrefixOf (c :: rest) then some ([], (c :: rest).drop mark.length)
    else (splitAt? mark rest).map fun (before, after) => (c :: before, after)

/-- The characters that a name between braces denotes, and whether it excludes them. -/
def namedSet? (name : List Char) : Option (Ranges × Bool) :=
  let valued (parts : List Char × List Char) (excluded : Bool) : Option (Ranges × Bool) :=
    (Unicode.valued? (String.ofList parts.1) (String.ofList parts.2)).map fun s => (s, excluded)
  match splitAt? ['!', '='] name, splitAt? [':'] name, splitAt? ['='] name with
  | some parts, _, _ => valued parts true
  | none, some parts, _ => valued parts false
  | none, none, some parts => valued parts false
  | none, none, none => (Unicode.named? (String.ofList name)).map fun s => (s, false)

/-- A named set after its letter: one letter, or a name between braces. -/
def namedEscape? (spaced negated : Bool) (cs : List Char) : Option (Escape × List Char) :=
  match skipSpace spaced cs with
  | [] => none
  | '\x7b' :: rest =>
    match run spaced (· != '\x7d') (skipSpace spaced rest) with
    | (name, _ :: left) =>
      (namedSet? name).map fun (s, excluded) => (.named s (negated != excluded), left)
    | _ => none
  | c :: rest =>
    if c = '\\' then none
    else
      (Unicode.named? (String.singleton c)).map fun s => (.named s negated, skipSpace spaced rest)

/-- Whether a character may be escaped without need: an ASCII character that is neither a letter nor
a digit nor an angle bracket. -/
def isEscapable (c : Char) : Bool :=
  c.toNat < 0x80 && !c.isAlphanum && c != '<' && c != '>'

/-- The escape after a backslash, and what follows it. -/
def escape? (f : Flags) (cs : List Char) : Option (Escape × List Char) :=
  match cs with
  | [] => none
  | c :: rest =>
    let edge (e : WordEdge) : Escape := .look (.word (!f.unicode) e)
    let code (digits : Nat) : Option (Escape × List Char) :=
      (codePoint? f.spaced digits rest).map fun (ch, left) =>
        (.char ch (c == 'x' && (skipSpace f.spaced rest).head? != some '\x7b'), left)
    match c with
    | 'x' => code 2
    | 'u' => code 4
    | 'U' => code 8
    | 'p' => if f.unicode then namedEscape? f.spaced false rest else none
    | 'P' => if f.unicode then namedEscape? f.spaced true rest else none
    | 'd' => some (.letterClass .digit false, rest)
    | 'D' => some (.letterClass .digit true, rest)
    | 's' => some (.letterClass .space false, rest)
    | 'S' => some (.letterClass .space true, rest)
    | 'w' => some (.letterClass .word false, rest)
    | 'W' => some (.letterClass .word true, rest)
    | 'a' => some (.char '\x07' false, rest)
    | 'f' => some (.char '\x0c' false, rest)
    | 't' => some (.char '\t' false, rest)
    | 'n' => some (.char '\n' false, rest)
    | 'r' => some (.char '\r' false, rest)
    | 'v' => some (.char '\x0b' false, rest)
    | 'A' => some (.look .textStart, rest)
    | 'z' => some (.look .textEnd, rest)
    | 'b' => (wordEdge? f.spaced rest).map fun (e, left) => (edge e, left)
    | 'B' => some (edge .noBoundary, rest)
    | '<' => some (edge .start, rest)
    | '>' => some (edge .stop, rest)
    | _ => if isEscapable c then some (.char c false, rest) else none

/-- The characters of a class that an escape denotes. -/
def Escape.class? (f : Flags) : Escape → Option Ranges
  | .letterClass k negated => f.negate? negated (k.ranges f.unicode)
  | .named s negated => f.negate? negated (f.folded s)
  | _ => none

/-- The character that an escape denotes. -/
def Escape.char? (f : Flags) : Escape → Option Char
  | .char c asByte => if !f.unicode && asByte && 0x7F < c.toNat then none else some c
  | _ => none

/-- A character as an atom. -/
def Flags.charAtom (f : Flags) (c : Char) : Atom :=
  .set (f.folded (.single c.toNat))

/-- The atom that an escape denotes outside a class. -/
def Escape.atom? (f : Flags) (e : Escape) : Option Atom :=
  match e with
  | .look l => some (.look l)
  | .char .. => (e.char? f).map f.charAtom
  | _ => (e.class? f).map .set

end ApiCheck.Pattern
