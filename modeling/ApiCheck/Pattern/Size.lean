import ApiCheck.Pattern.Regex

/-!
# The size of an expression

An expression may be too large to be used: a small text such as a nested repetition with high counts
can stand for a huge automaton.  `Regex.size` estimates the bytes of the automaton that an expression
stands for, a state being `stateSize` bytes: a character takes one state for each byte of it, a set
of characters one state for each run of bytes, and a counted repetition as many copies as its count.
Expressions beyond `maxSize` are refused.
-/

namespace ApiCheck.Pattern

open Unicode (Ranges)

/-- The bytes of a state. -/
def stateSize : Nat := 32

/-- The greatest size of an expression, ten megabytes. -/
def maxSize : Nat := 10 <<< 20

/-- The number of runs of bytes that a run of characters takes, roughly. -/
def byteRuns (first last : Nat) : Nat :=
  1 + (if 0x40 < last - first then 1 else 0) + (if 0x1000 < last - first then 2 else 0)

/-- The size of a set of characters. -/
def setSize (s : Ranges) : Nat :=
  match s with
  | [(first, last)] =>
    if first = last then stateSize * (Char.ofNat first).utf8Size
    else if last < 0x80 then stateSize
    else 2 * stateSize + 40 * byteRuns first last
  | _ =>
    if s.greatest < 0x80 then stateSize + 8 * s.length
    else 2 * stateSize + 40 * s.foldl (fun runs (first, last) => runs + byteRuns first last) 0

namespace Regex

/-- Whether an expression consumes no character in any match. -/
def isEmptyOnly : Regex Atom → Bool
  | .empty => true
  | .atom (.look _) => true
  | .atom (.set _) => false
  | .seq r s => r.isEmptyOnly && s.isEmptyOnly
  | .alt r s => r.isEmptyOnly && s.isEmptyOnly
  | .rep r _ most => r.isEmptyOnly || most == some 0

/-- The size of an expression. -/
def size : Regex Atom → Nat
  | .empty => stateSize
  | .atom (.look _) => stateSize
  | .atom (.set s) => setSize s
  | .seq r s => r.size + s.size
  | .alt r s => r.size + s.size + 2 * stateSize
  | .rep r least most =>
    if r.isEmptyOnly then r.size
    else
      match most with
      | none => (max least 1) * r.size + 2 * stateSize
      | some most => most * r.size + (most - least) * (stateSize + 8)

end Regex

end ApiCheck.Pattern
