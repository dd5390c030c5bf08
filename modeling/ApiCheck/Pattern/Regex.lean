import ApiCheck.Unicode.Query

/-!
# Regular expressions

A regular expression is built from atoms by sequence, choice and counted repetition.  An atom
consumes one character of a set, or demands something of a place in the text without consuming
anything: that it is the start or the end of the text, of a line or of a word.

An expression takes a set of places in a text to the set of places where a match that starts at one
of them may end (`Regex.ends`).  Sets of places are natural numbers, bit `i` standing for the place
before the `i`-th character; an atom is turned into one mask of places for a given text, so that
consuming is a conjunction and a shift.  Choice is the union of both sets, and an unbounded
repetition is iterated until it adds no place, which happens after at most as many turns as there
are places.

An expression matches a text if some place is the end of a match (`Regex.matches`).
-/

namespace ApiCheck.Pattern

open Unicode (Ranges)

/-! ### Types -/

/-- What a place must be with regard to words. -/
inductive WordEdge where
  | boundary
  | noBoundary
  | start
  | stop
  | startHalf
  | stopHalf

/-- A demand on a place in a text. -/
inductive Look where
  | textStart
  | textEnd
  | lineStart
  | lineEnd
  /-- The start of a line, where a return and a line feed end a line together. -/
  | crlfStart
  /-- The end of a line, where a return and a line feed end a line together. -/
  | crlfEnd
  /-- An edge of a word, which consists of ASCII characters only or of those of all scripts. -/
  | word (ascii : Bool) (edge : WordEdge)

/-- The smallest parts of an expression. -/
inductive Atom where
  /-- One character of a set. -/
  | set (s : Ranges)
  /-- A place that meets a demand. -/
  | look (l : Look)

/-- A regular expression over some kind of atoms. -/
inductive Regex (α : Type) where
  | empty
  | atom (a : α)
  | seq (r s : Regex α)
  | alt (r s : Regex α)
  /-- At least `least` turns, and at most `most` turns if there is a bound. -/
  | rep (r : Regex α) (least : Nat) (most : Option Nat)

/-- The expression with every atom replaced. -/
def Regex.map {α β : Type} (f : α → β) : Regex α → Regex β
  | .empty => .empty
  | .atom a => .atom (f a)
  | .seq r s => .seq (r.map f) (s.map f)
  | .alt r s => .alt (r.map f) (s.map f)
  | .rep r least most => .rep (r.map f) least most

/-! ### Places -/

/-- Whether `c` is an ASCII character of words. -/
def isAsciiWord (c : Char) : Bool :=
  c.isAlphanum || c == '_'

/-- Whether `c` is a character of words of any script. -/
def isWord (c : Char) : Bool :=
  isAsciiWord c || (0x7F < c.toNat && Unicode.wordCharacters.contains c.toNat)

/-- Whether a place between a character of a word or none and another is such an edge. -/
def WordEdge.holds (edge : WordEdge) (before after : Bool) : Bool :=
  match edge with
  | .boundary => before != after
  | .noBoundary => before == after
  | .start => !before && after
  | .stop => before && !after
  | .startHalf => !before
  | .stopHalf => !after

/-- Whether a place meets a demand, given the characters before and after it. -/
def Look.holds (l : Look) (before after : Option Char) : Bool :=
  match l with
  | .textStart => before.isNone
  | .textEnd => after.isNone
  | .lineStart => before.isNone || before == some '\n'
  | .lineEnd => after.isNone || after == some '\n'
  | .crlfStart =>
    before.isNone || before == some '\n' || (before == some '\r' && after != some '\n')
  | .crlfEnd => after.isNone || after == some '\r' || (after == some '\n' && before != some '\r')
  | .word ascii edge =>
    let inWord := if ascii then isAsciiWord else isWord
    edge.holds (before.any inWord) (after.any inWord)

/-! ### Moves -/

/-- What an atom does to a set of places of one text. -/
inductive Move where
  /-- Each place of the mask goes on to the next. -/
  | step (mask : Nat)
  /-- Each place of the mask stays. -/
  | stay (mask : Nat)

/-- The places before the characters of a set. -/
def setMask (s : Ranges) (cs : List Char) : Nat :=
  cs.foldr (fun c mask => 2 * mask + (if s.contains c.toNat then 1 else 0)) 0

/-- The places that meet a demand, the first of them after the character `before`. -/
def lookMask (l : Look) (before : Option Char) : List Char → Nat
  | [] => if l.holds before none then 1 else 0
  | c :: rest =>
    2 * lookMask l (some c) rest + (if l.holds before (some c) then 1 else 0)

/-- The move of an atom in a text. -/
def Atom.move (cs : List Char) : Atom → Move
  | .set s => .step (setMask s cs)
  | .look l => .stay (lookMask l none cs)

/-! ### Matching -/

/-- `turns` turns of `f`, or fewer if a turn changes nothing. -/
def exactly (f : Nat → Nat) : (turns places : Nat) → Nat
  | 0, places => places
  | turns + 1, places =>
    let next := f places
    if next = places then places else exactly f turns next

/-- Up to `turns` turns of `f`, or fewer if a turn adds nothing. -/
def upTo (f : Nat → Nat) : (turns places : Nat) → Nat
  | 0, places => places
  | turns + 1, places =>
    let next := places ||| f places
    if next = places then places else upTo f turns next

/-- The places where matches that start at some places may end; there are `count` places. -/
def Regex.ends (count : Nat) : Regex Move → Nat → Nat
  | .empty, places => places
  | .atom (.step mask), places => (places &&& mask) <<< 1
  | .atom (.stay mask), places => places &&& mask
  | .seq r s, places => s.ends count (r.ends count places)
  | .alt r s, places => r.ends count places ||| s.ends count places
  | .rep r least most, places =>
    let f := fun places => r.ends count places
    let turns := match most with
      | none => count
      | some most => most - least
    upTo f turns (exactly f least places)

/-- Whether an expression matches somewhere in a text. -/
def Regex.matches (r : Regex Atom) (cs : List Char) : Bool :=
  let count := cs.length + 1
  (r.map (Atom.move cs)).ends count ((1 <<< count) - 1) != 0

end ApiCheck.Pattern
