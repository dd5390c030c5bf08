import ApiCheck.Text.Blank
import ApiCheck.Time.Moment

/-!
# Layouts of timestamps

A timestamp is read in the first of these layouts that fits the whole text.

* The layout of the internet (`internet?`): `2019-04-07T10:20:00.5+02:00`.
* The layout of mail headers (`mail?`): `Sun, 07 Apr 2019 10:20:00 +0200`, with an optional day of
  the week, short years, names of time zones and comments.
* The plain layouts (`plain?`), without a time zone: `2019-04-07T10:20:00` and
  `2019-04-07 10:20:00`, read as universal time.
-/

namespace ApiCheck.Time

/-! ### The layout of the internet -/

/-- A sign, or the mathematical minus sign. -/
def wideSign? : List Char → Option (Int × List Char)
  | '\u2212' :: rest => some (-1, rest)
  | cs => sign? cs

/-- The zone at the end of the layout of the internet. -/
def internetZone? (cs : List Char) : Option (Int × List Char) :=
  match cs with
  | 'Z' :: rest => some (0, rest)
  | 'z' :: rest => some (0, rest)
  | _ => offset? wideSign? [':'] cs

/-- A text in the layout of the internet. -/
def internet? (cs : List Char) : Option Instant := do
  let (year, cs) ← number? 4 4 cs
  let cs ← skip? '-' cs
  let (month, cs) ← number? 2 2 cs
  let cs ← skip? '-' cs
  let (day, cs) ← number? 2 2 cs
  let cs ← skip? 'T' cs <|> skip? 't' cs <|> skip? ' ' cs
  let (hour, cs) ← number? 2 2 cs
  let cs ← skip? ':' cs
  let (minute, cs) ← number? 2 2 cs
  let cs ← skip? ':' cs
  let (second, cs) ← number? 2 2 cs
  let (nano, cs) ← optionalFraction? cs
  let (offset, cs) ← internetZone? cs
  if cs.isEmpty then Moment.instant? ⟨year, month, day, hour, minute, second, nano, offset⟩
  else none

/-! ### The layout of mail headers -/

/-- Three letters at the start of a text, made small. -/
def word3 (cs : List Char) : String :=
  String.ofList ((cs.take 3).map Char.toLower)

/-- The place in a list of the three letters at the start of a text, and what follows them. -/
def name? (names : List String) (cs : List Char) : Option (Nat × List Char) :=
  (names.findIdx? fun name => name == word3 cs).map fun i => (i, cs.drop 3)

/-- The days of the week. -/
def weekdayNames : List String := ["mon", "tue", "wed", "thu", "fri", "sat", "sun"]

/-- The months. -/
def monthNames : List String :=
  ["jan", "feb", "mar", "apr", "may", "jun", "jul", "aug", "sep", "oct", "nov", "dec"]

/-- What follows blanks, at least one. -/
def blanks? (cs : List Char) : Option (List Char) :=
  match cs with
  | c :: rest => if Text.isBlank c then some (Text.trimStart rest) else none
  | [] => none

/-- The day of the week with its comma at the start of a text, if there is one. -/
def leadingWeekday? (cs : List Char) : Option (Option Nat × List Char) :=
  match name? weekdayNames cs with
  | none => some (none, cs)
  | some (i, rest) => (skip? ',' rest).map fun rest => (some i, rest)

/-- The year that some digits denote: two digits lie in 1950 to 2049, three count from 1900. -/
def fullYear (digits year : Nat) : Nat :=
  if digits = 2 then (if year < 50 then year + 2000 else year + 1900)
  else if digits = 3 then year + 1900
  else year

/-- The hours of a named time zone.  Single letters other than `j` are universal time. -/
def namedZone? (name : List Char) : Option Int :=
  match String.ofList (name.map Char.toLower) with
  | "gmt" | "ut" | "z" => some 0
  | "edt" => some (-4)
  | "est" | "cdt" => some (-5)
  | "cst" | "mdt" => some (-6)
  | "mst" | "pdt" => some (-7)
  | "pst" => some (-8)
  | s =>
    match s.toList with
    | [c] => if c = 'j' then none else some 0
    | _ => none

/-- The zone of the layout of mail headers. -/
def mailZone? (cs : List Char) : Option (Int × List Char) :=
  let name := cs.takeWhile Char.isAlpha
  if name.isEmpty then offset? sign? [] cs
  else (namedZone? name).map fun hours => (hours * 3600, cs.drop name.length)

/-- What follows a comment of which `depth + 1` brackets are open. -/
def afterComment? : (depth : Nat) → List Char → Option (List Char)
  | _, [] => none
  | _, ['\\'] => none
  | depth, '\\' :: _ :: rest => afterComment? depth rest
  | depth, c :: rest =>
    if c = '(' then afterComment? (depth + 1) rest
    else if c = ')' then
      match depth with
      | 0 => some rest
      | depth + 1 => afterComment? depth rest
    else afterComment? depth rest

/-- What follows a comment, blanks before it ignored. -/
def comment? (cs : List Char) : Option (List Char) :=
  skip? '(' (Text.trimStart cs) >>= afterComment? 0

/-- What follows all comments at the start of a text, `most` of them at most. -/
def afterComments : (most : Nat) → List Char → List Char
  | 0, cs => cs
  | most + 1, cs =>
    match comment? cs with
    | none => cs
    | some rest => afterComments most rest

/-- The seconds after an optional colon. -/
def optionalSeconds? (cs : List Char) : Option (Nat × List Char) :=
  match skip? ':' (Text.trimStart cs) with
  | none => some (0, cs)
  | some rest => number? 2 2 rest

/-- A text in the layout of mail headers. -/
def mail? (cs : List Char) : Option Instant := do
  let (day?, cs) ← leadingWeekday? (Text.trimStart cs)
  let (day, cs) ← number? 1 2 (Text.trimStart cs)
  let cs ← blanks? cs
  let (month, cs) ← name? monthNames cs
  let cs ← blanks? cs
  let digits := (cs.takeWhile isDigit).length
  let (year, cs) ← number? 2 digits cs
  let cs ← blanks? cs
  let (hour, cs) ← number? 2 2 cs
  let cs ← skip? ':' (Text.trimStart cs)
  let (minute, cs) ← number? 2 2 (Text.trimStart cs)
  let (second, cs) ← optionalSeconds? cs
  let cs ← blanks? cs
  let (offset, cs) ← mailZone? cs
  let moment : Moment := ⟨fullYear digits year, month + 1, day, hour, minute, second, 0, offset⟩
  let number ← moment.dayNumber?
  if (afterComments cs.length cs).isEmpty && day?.all (· == weekday number) then moment.instant?
  else none

/-! ### Plain layouts -/

/-- A number of at most `most` digits, blanks before it ignored. -/
def spaced? (most : Nat) (cs : List Char) : Option (Nat × List Char) :=
  number? 1 most (Text.trimStart cs)

/-- A year: four digits at most, or any number of them after a sign. -/
def plainYear? (cs : List Char) : Option (Int × List Char) :=
  let cs := Text.trimStart cs
  match sign? cs with
  | some (s, rest) => (number? 1 rest.length rest).map fun (n, rest) => (s * n, rest)
  | none => (number? 1 4 cs).map fun (n, rest) => ((n : Int), rest)

/-- A date and a time with `separator` between them. -/
def plainWith? (separator : List Char → Option (List Char)) (cs : List Char) :
    Option Instant := do
  let (year, cs) ← plainYear? cs
  let cs ← skip? '-' cs
  let (month, cs) ← spaced? 2 cs
  let cs ← skip? '-' cs
  let (day, cs) ← spaced? 2 cs
  let cs ← separator cs
  let (hour, cs) ← spaced? 2 cs
  let cs ← skip? ':' cs
  let (minute, cs) ← spaced? 2 cs
  let cs ← skip? ':' cs
  let (second, cs) ← spaced? 2 cs
  let (nano, cs) ← optionalFraction? cs
  if cs.isEmpty then Moment.instant? ⟨year, month, day, hour, minute, second, nano, 0⟩ else none

/-- A text in a plain layout. -/
def plain? (cs : List Char) : Option Instant :=
  plainWith? (skip? 'T') cs <|> plainWith? some cs

/-! ### All layouts -/

/-- The instant that a text denotes, blanks around it ignored. -/
def parse? (s : String) : Option Instant :=
  let cs := Text.trim s.toList
  internet? cs <|> mail? cs <|> plain? cs

end ApiCheck.Time
