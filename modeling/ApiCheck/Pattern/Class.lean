import ApiCheck.Pattern.Escape

/-!
# Bracketed classes

A class between brackets lists characters, runs of characters, escapes, named ASCII classes such as
`[:alpha:]` and classes within it.  `&&`, `--` and `~~` combine what stands before and after them, from
left to right.  A caret at the start excludes what is listed.  A closing bracket at the start and a
dash at either end stand for themselves.

The reader keeps the classes that are still open on a stack (`ClassFrame`).
-/

namespace ApiCheck.Pattern

open Unicode (Ranges)

/-! ### Parts -/

/-- An operation between two sets. -/
inductive SetOp where
  | inter
  | diff
  | symmDiff

/-- The result of an operation. -/
def SetOp.apply : SetOp → Ranges → Ranges → Ranges
  | .inter, s, t => s.inter t
  | .diff, s, t => s.diff t
  | .symmDiff, s, t => s.symmDiff t

/-- What a class lists so far: its characters, how many items there are, and how deep classes are
nested in them. -/
structure Listing where
  set : Ranges := []
  count : Nat := 0
  depth : Nat := 0

namespace Listing

/-- The listing with one more item. -/
def add (l : Listing) (s : Ranges) (depth : Nat) : Listing :=
  ⟨l.set.union s, l.count + 1, max l.depth depth⟩

/-- The depth of a listing as one operand: several items make one more level. -/
def level (l : Listing) : Nat :=
  if 2 ≤ l.count then l.depth + 1 else l.depth

end Listing

/-- What is open around the current listing. -/
inductive ClassFrame where
  /-- A bracket, and the listing around it. -/
  | bracket (outer : Listing) (negated : Bool)
  /-- An operation that waits for its second operand. -/
  | op (op : SetOp) (first : Ranges) (depth : Nat)

/-- The set that is read before an operation or a closing bracket, with its depth: the listing,
combined with the operand that waits for it. -/
def operand (f : Flags) (l : Listing) : List ClassFrame → Ranges × Nat × List ClassFrame
  | .op o first depth :: stack =>
    (o.apply (f.folded first) (f.folded l.set), max depth l.level + 1, stack)
  | stack => (l.set, l.level, stack)

/-! ### Named ASCII classes -/

/-- The characters of an ASCII class. -/
def asciiClass? (name : String) : Option Ranges :=
  match name with
  | "alnum" => some [(0x30, 0x39), (0x41, 0x5A), (0x61, 0x7A)]
  | "alpha" => some [(0x41, 0x5A), (0x61, 0x7A)]
  | "ascii" => some [(0x00, 0x7F)]
  | "blank" => some [(0x09, 0x09), (0x20, 0x20)]
  | "cntrl" => some [(0x00, 0x1F), (0x7F, 0x7F)]
  | "digit" => some [(0x30, 0x39)]
  | "graph" => some [(0x21, 0x7E)]
  | "lower" => some [(0x61, 0x7A)]
  | "print" => some [(0x20, 0x7E)]
  | "punct" => some [(0x21, 0x2F), (0x3A, 0x40), (0x5B, 0x60), (0x7B, 0x7E)]
  | "space" => some [(0x09, 0x0D), (0x20, 0x20)]
  | "upper" => some [(0x41, 0x5A)]
  | "word" => some [(0x30, 0x39), (0x41, 0x5A), (0x5F, 0x5F), (0x61, 0x7A)]
  | "xdigit" => some [(0x30, 0x39), (0x41, 0x46), (0x61, 0x66)]
  | _ => none

/-- A named ASCII class after its opening bracket: its characters, whether it excludes them, and
what follows. -/
def asciiItem? (cs : List Char) : Option (Ranges × Bool × List Char) :=
  match cs with
  | ':' :: rest =>
    let (negated, rest) :=
      match rest with
      | '^' :: rest => (true, rest)
      | rest => (false, rest)
    let name := rest.takeWhile (· != ':')
    match rest.drop name.length with
    | ':' :: ']' :: left => (asciiClass? (String.ofList name)).map fun s => (s, negated, left)
    | _ => none
  | _ => none

/-! ### Opening brackets and items -/

/-- Takes the dashes at the start of a class into its listing. -/
def leadingDashes (f : Flags) : (most : Nat) → Listing → List Char → Listing × List Char
  | most + 1, l, '-' :: rest =>
    leadingDashes f most (l.add (.single '-'.toNat) 0) (skipSpace f.spaced rest)
  | _, l, cs => (l, cs)

/-- Reads the start of a class after its opening bracket: whether it is negated, what it lists so
far, and what follows. -/
def classStart (f : Flags) (cs : List Char) : Bool × Listing × List Char :=
  let (negated, cs) :=
    match skipSpace f.spaced cs with
    | '^' :: rest => (true, skipSpace f.spaced rest)
    | cs => (false, cs)
  let (l, cs) := leadingDashes f cs.length {} cs
  match l.count, cs with
  | 0, ']' :: rest => (negated, l.add (.single ']'.toNat) 0, skipSpace f.spaced rest)
  | _, cs => (negated, l, cs)

/-- One character or escape of a class. -/
def classUnit? (f : Flags) : List Char → Option (Escape × List Char)
  | [] => none
  | '\\' :: rest => escape? f rest
  | c :: rest => some (.char c false, rest)

/-- A character as a bound or a member of a class; without the flag `unicode` an ASCII one. -/
def classChar? (f : Flags) (e : Escape) : Option Char :=
  e.char? f >>= fun c => if !f.unicode && 0x7F < c.toNat then none else some c

/-- A character, a run of characters or an escape of a class, and what follows. -/
def classItem? (f : Flags) (cs : List Char) : Option (Ranges × List Char) := do
  let (first, rest) ← classUnit? f cs
  let rest := skipSpace f.spaced rest
  let next := peekSpace f.spaced rest
  if rest.head? = some '-' ∧ next ≠ some ']' ∧ next ≠ some '-' then
    let (last, rest) ← classUnit? f (skipSpace f.spaced rest.tail)
    let low ← classChar? f first
    let high ← classChar? f last
    if low.toNat ≤ high.toNat then some ([(low.toNat, high.toNat)], rest) else none
  else
    match first with
    | .char .. => (classChar? f first).map fun c => (.single c.toNat, rest)
    | _ => (first.class? f).map fun s => (s, rest)

/-! ### Classes -/

/-- Reads on in a class, `turns` items or marks at most.  Gives its characters, its depth and what
follows it. -/
def classFrom? (f : Flags) :
    (turns : Nat) → List ClassFrame → Listing → List Char → Option (Ranges × Nat × List Char)
  | 0, _, _, _ => none
  | turns + 1, stack, l, cs =>
    let combine (o : SetOp) (rest : List Char) : Option (Ranges × Nat × List Char) :=
      let (first, depth, stack) := operand f l stack
      classFrom? f turns (.op o first depth :: stack) {} rest
    match skipSpace f.spaced cs with
    | [] => none
    | '[' :: rest =>
      match asciiItem? rest with
      | some (s, negated, left) => do
        let s ← f.negate? negated (f.folded s)
        classFrom? f turns stack (l.add s 0) left
      | none =>
        let (negated, inner, rest) := classStart f rest
        classFrom? f turns (.bracket l negated :: stack) inner rest
    | ']' :: rest =>
      let (s, depth, stack) := operand f l stack
      match stack with
      | [.bracket _ negated] => (f.negate? negated (f.folded s)).map fun s => (s, depth + 1, rest)
      | .bracket outer negated :: stack => do
        let s ← f.negate? negated (f.folded s)
        classFrom? f turns stack (outer.add s (depth + 1)) rest
      | _ => none
    | '&' :: '&' :: rest => combine .inter rest
    | '-' :: '-' :: rest => combine .diff rest
    | '~' :: '~' :: rest => combine .symmDiff rest
    | cs => do
      let (s, rest) ← classItem? f cs
      classFrom? f turns stack (l.add s 0) rest

/-- A class after its opening bracket: its characters, its depth and what follows it. -/
def class? (f : Flags) (cs : List Char) : Option (Ranges × Nat × List Char) :=
  let (negated, l, rest) := classStart f cs
  classFrom? f (rest.length + 1) [.bracket {} negated] l rest

end ApiCheck.Pattern
