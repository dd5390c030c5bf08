/-!
# Sets of characters

A set of characters is a list of runs of code points, each given by its first and its last member.
The runs ascend and do not touch (`Ranges.ofList` brings any runs into this form), so that a set has
one form only.

`Ranges.ofText` reads a set from a text: hexadecimal numbers and runs `a-b`, with blanks between
them; `a-b/2` stands for every second number of a run.
-/

namespace ApiCheck.Unicode

/-- A set of code points, as runs that ascend and do not touch. -/
abbrev Ranges := List (Nat × Nat)

/-- The greatest code point. -/
def maxCode : Nat := 0x10FFFF

namespace Ranges

/-! ### Membership and form -/

/-- Whether a code point is in a set. -/
def contains (s : Ranges) (n : Nat) : Bool :=
  List.any s fun (first, last) => first ≤ n && n ≤ last

/-- Joins the run from `first` to `last` with the runs after it that overlap or touch it, and so on;
the first members ascend. -/
def joinFrom (first last : Nat) : Ranges → Ranges
  | [] => [(first, last)]
  | (first', last') :: rest =>
    if first' ≤ last + 1 then joinFrom first (max last last') rest
    else (first, last) :: joinFrom first' last' rest

/-- Joins runs that overlap or touch; their first members ascend. -/
def join : Ranges → Ranges
  | [] => []
  | (first, last) :: rest => joinFrom first last rest

/-- The set of any runs. -/
def ofList (runs : List (Nat × Nat)) : Ranges :=
  join ((runs.filter fun (first, last) => first ≤ last).mergeSort fun a b => a.1 ≤ b.1)

/-- The set of one code point. -/
def single (n : Nat) : Ranges := [(n, n)]

/-! ### Operations -/

/-- The members of either set. -/
def union (s t : Ranges) : Ranges :=
  ofList (s ++ t)

/-- The code points from `start` to `maxCode` that are not in a set. -/
def complementFrom (start : Nat) : Ranges → Ranges
  | [] => if start ≤ maxCode then [(start, maxCode)] else []
  | (first, last) :: rest =>
    if start < first then (start, first - 1) :: complementFrom (last + 1) rest
    else complementFrom (last + 1) rest

/-- The code points that are not in a set. -/
def complement (s : Ranges) : Ranges :=
  complementFrom 0 s

/-- The members of both sets. -/
def inter (s t : Ranges) : Ranges :=
  complement (union (complement s) (complement t))

/-- The members of the first set that are not in the second. -/
def diff (s t : Ranges) : Ranges :=
  inter s (complement t)

/-- The members of exactly one of the sets. -/
def symmDiff (s t : Ranges) : Ranges :=
  union (diff s t) (diff t s)

/-- The greatest member of a set, `0` for the empty set. -/
def greatest (s : Ranges) : Nat :=
  (List.getLast? s).elim 0 Prod.snd

/-! ### Reading -/

/-- The value of a hexadecimal digit. -/
def digit (c : Char) : Nat :=
  if c ≤ '9' then c.toNat - '0'.toNat else c.toNat - 'A'.toNat + 10

/-- The number that hexadecimal digits denote. -/
def number (cs : List Char) : Nat :=
  cs.foldl (fun n c => 16 * n + digit c) 0

/-- The runs that one item of a text denotes. -/
def ofItem (cs : List Char) : List (Nat × Nat) :=
  let first := cs.takeWhile (· != '-')
  match cs.drop (first.length + 1) with
  | [] => [(number first, number first)]
  | afterDash =>
    let last := afterDash.takeWhile (· != '/')
    if afterDash.length = last.length then [(number first, number last)]
    else
      (List.range ((number last - number first) / 2 + 1)).map fun i =>
        (number first + 2 * i, number first + 2 * i)

/-- The items of a text, blanks between them; `item` holds the characters of the last one in
reverse. -/
def items : (item : List Char) → List Char → List (List Char)
  | item, [] => if item.isEmpty then [] else [item.reverse]
  | item, c :: rest =>
    if c == ' ' || c == '\n' then
      if item.isEmpty then items [] rest else item.reverse :: items [] rest
    else items (c :: item) rest

/-- The set that a text denotes. -/
def ofText (s : String) : Ranges :=
  ofList ((items [] s.toList).flatMap ofItem)

end Ranges

end ApiCheck.Unicode
