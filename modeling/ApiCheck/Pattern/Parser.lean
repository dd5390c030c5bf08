import ApiCheck.Pattern.Class
import ApiCheck.Pattern.Size

/-!
# Reading patterns

`parse?` reads the text of a regular expression.  Besides the usual operators there are flags such as
`(?i)`, groups with and without a name, and classes.  There is nothing that looks ahead or behind and
nothing that refers back to a group.

A repetition must have something to repeat, a name must not be given twice, and groups, classes and
repetitions must not be nested more than `maxNesting` levels deep.

The reader keeps the groups that are still open on a stack (`Group`).  Flags that are set within a
group hold up to its end.
-/

namespace ApiCheck.Pattern

/-! ### States -/

/-- The greatest number of levels. -/
def maxNesting : Nat := 250

/-- A part of a sequence. -/
structure Item where
  regex : Regex Atom
  /-- The number of levels in it. -/
  depth : Nat := 0
  /-- Whether it may be repeated; a setting of flags may not. -/
  repeatable : Bool := true

/-- A choice that is being read: its finished branches and the items of the current one, both in
reverse. -/
structure Choice where
  branches : List Item := []
  items : List Item := []

/-- An open group: the choice around it, the flags to return to, and whether it captures. -/
structure Group where
  outer : Choice
  flags : Flags
  captures : Bool

/-- What the reader has met so far. -/
structure State where
  choice : Choice := {}
  groups : List Group := []
  flags : Flags := {}
  /-- The names of groups. -/
  names : List String := []

/-! ### Sequences and choices -/

/-- The greatest depth of some items. -/
def maxDepthOf (items : List Item) : Nat :=
  (items.map Item.depth).foldl max 0

/-- Items in reverse as one sequence. -/
def sequence (items : List Item) : Item :=
  match items with
  | [] => ⟨.empty, 0, true⟩
  | [item] => item
  | last :: before =>
    ⟨before.foldl (fun r item => .seq item.regex r) last.regex, maxDepthOf items + 1, true⟩

/-- The choice as one item. -/
def Choice.close (c : Choice) : Item :=
  let last := sequence c.items
  match c.branches with
  | [] => last
  | branches =>
    ⟨branches.foldl (fun r item => .alt item.regex r) last.regex,
      maxDepthOf (last :: branches) + 1, true⟩

namespace State

/-- The state with one more item in the current sequence. -/
def push (st : State) (item : Item) : State :=
  { st with choice := { st.choice with items := item :: st.choice.items } }

/-- The state with the last item repeated. -/
def repeat? (st : State) (least : Nat) (most : Option Nat) : Option State :=
  match st.choice.items with
  | item :: before =>
    if item.repeatable then
      let item : Item := ⟨.rep item.regex least most, item.depth + 1, true⟩
      some { st with choice := { st.choice with items := item :: before } }
    else none
  | [] => none

/-- The state at the start of a group. -/
def openGroup (st : State) (flags : Flags) (captures : Bool) : State :=
  { st with choice := {}, groups := ⟨st.choice, st.flags, captures⟩ :: st.groups, flags := flags }

/-- The state after the end of a group. -/
def closeGroup? (st : State) : Option State :=
  match st.groups with
  | [] => none
  | g :: groups =>
    let inner := st.choice.close
    let regex := if g.captures then .seq .empty (.seq inner.regex .empty) else inner.regex
    let st := { st with choice := g.outer, groups := groups, flags := g.flags }
    some (st.push ⟨regex, inner.depth + 1, true⟩)

/-- The state at the start of a further branch. -/
def nextBranch (st : State) : State :=
  { st with choice := ⟨sequence st.choice.items :: st.choice.branches, []⟩ }

end State

/-! ### Groups -/

/-- Whether `c` may start the name of a group. -/
def startsName (c : Char) : Bool :=
  c == '_' || ((Unicode.property? "alphabetic").getD []).contains c.toNat

/-- Whether `c` may stand in the name of a group. -/
def inName (c : Char) : Bool :=
  startsName c || c == '.' || c == '[' || c == ']' ||
    (Unicode.categories ["nd", "nl", "no"]).contains c.toNat

/-- The state at the start of a group with a name, the name and its bracket at the start of `cs`. -/
def namedGroup? (st : State) (cs : List Char) : Option (State × List Char) :=
  let name := cs.takeWhile (· != '>')
  match cs.drop name.length with
  | '>' :: rest =>
    let text := String.ofList name
    if name.head?.any startsName && name.all inName && !st.names.contains text then
      some ({ st with names := text :: st.names }.openGroup st.flags true, rest)
    else none
  | _ => none

/-- The state after an opening parenthesis and what belongs to it. -/
def group? (st : State) (cs : List Char) : Option (State × List Char) :=
  match skipSpace st.flags.spaced cs with
  | '?' :: '=' :: _ | '?' :: '!' :: _ | '?' :: '<' :: '=' :: _ | '?' :: '<' :: '!' :: _ => none
  | '?' :: 'P' :: '<' :: rest => namedGroup? st rest
  | '?' :: '<' :: rest => namedGroup? st rest
  | '?' :: rest =>
    match flags? st.flags [] false rest with
    | none => none
    | some (flags, isEmpty, mark, rest) =>
      if mark = ':' then some (st.openGroup flags false, rest)
      else if isEmpty then none
      else some ({ st with flags := flags }.push ⟨.empty, 0, false⟩, rest)
  | cs => some (st.openGroup st.flags true, cs)

/-! ### Patterns -/

/-- The demand of a mark on the start or the end. -/
def Flags.edge (f : Flags) (atStart : Bool) : Look :=
  match f.lines, f.crlf, atStart with
  | false, _, true => .textStart
  | false, _, false => .textEnd
  | true, false, true => .lineStart
  | true, false, false => .lineEnd
  | true, true, true => .crlfStart
  | true, true, false => .crlfEnd

/-- The characters that the dot matches; bytes are refused. -/
def Flags.dot? (f : Flags) : Option Unicode.Ranges :=
  if !f.unicode then none
  else if f.dotAll then some [(0, Unicode.maxCode)]
  else if f.crlf then some (Unicode.Ranges.complement [(0x0A, 0x0A), (0x0D, 0x0D)])
  else some (Unicode.Ranges.complement [(0x0A, 0x0A)])

/-- What follows a mark that makes a repetition reluctant, which does not change what matches. -/
def dropReluctant : List Char → List Char
  | '?' :: rest => rest
  | cs => cs

/-- The state after one more element, which starts with `c`, and what follows it. -/
def element? (st : State) (c : Char) (rest : List Char) : Option (State × List Char) :=
  let f := st.flags
  let atom (a : Atom) : State := st.push ⟨.atom a, 0, true⟩
  match c with
  | '(' => group? st rest
  | ')' => st.closeGroup?.map fun st => (st, rest)
  | '|' => some (st.nextBranch, rest)
  | '[' =>
    (class? f rest).map fun (s, depth, rest) => (st.push ⟨.atom (.set s), depth, true⟩, rest)
  | '?' => (st.repeat? 0 (some 1)).map fun st => (st, dropReluctant rest)
  | '*' => (st.repeat? 0 none).map fun st => (st, dropReluctant rest)
  | '+' => (st.repeat? 1 none).map fun st => (st, dropReluctant rest)
  | '\x7b' => do
    let (least, most, rest) ← bounds? f.spaced rest
    let st ← st.repeat? least most
    return (st, dropReluctant rest)
  | '\\' => do
    let (e, rest) ← escape? f rest
    let a ← e.atom? f
    return (atom a, rest)
  | '.' => f.dot?.map fun s => (atom (.set s), rest)
  | '^' => some (atom (.look (f.edge true)), rest)
  | '$' => some (atom (.look (f.edge false)), rest)
  | c => some (atom (f.charAtom c), rest)

/-- Reads elements up to the end of a text, `turns` of them at most. -/
def elements? : (turns : Nat) → State → List Char → Option State
  | 0, _, _ => none
  | turns + 1, st, cs =>
    match skipSpace st.flags.spaced cs with
    | [] => some st
    | c :: rest =>
      match element? st c rest with
      | none => none
      | some (st, rest) => elements? turns st rest

/-- The regular expression that a text denotes. -/
def parse? (cs : List Char) : Option (Regex Atom) := do
  let st ← elements? (cs.length + 1) {} cs
  if !st.groups.isEmpty then none
  else
    let item := st.choice.close
    if maxNesting < item.depth ∨ maxSize < item.regex.size then none else some item.regex

end ApiCheck.Pattern
