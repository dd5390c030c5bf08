import ApiCheck.Number.Reading
import ApiCheck.Time.Instant

/-!
# Written moments

A written moment is a date, a time of day and the offset of its time zone, as they stand in a text.
`Moment.instant?` gives the instant that it denotes, where there is such a date and such a time.  The
second 60 denotes a leap second after any minute.

The functions below read the parts of a moment from the start of a text and give what follows.
-/

namespace ApiCheck.Time

/-- A date and a time of day as they are written. -/
structure Moment where
  year : Int
  month : Nat
  day : Nat
  hour : Nat
  minute : Nat
  second : Nat
  nano : Nat
  /-- How many seconds the written time is ahead of universal time. -/
  offset : Int
deriving DecidableEq

namespace Moment

/-- The day of a moment, where there is such a date. -/
def dayNumber? (m : Moment) : Option Int :=
  if minYear ≤ m.year ∧ m.year ≤ maxYear ∧ isDate m.year m.month m.day then
    some (dayNumber m.year m.month m.day)
  else none

/-- The instant of a moment. -/
def instant? (m : Moment) : Option Instant := do
  let day ← m.dayNumber?
  if 23 < m.hour ∨ 59 < m.minute ∨ 60 < m.second ∨ 86400 ≤ m.offset.natAbs then none
  else
    let (second, nano) :=
      if m.second = 60 then (59, 1000000000 + m.nano) else (m.second, m.nano)
    let seconds : Int := day * 86400 + (m.hour * 3600 + m.minute * 60 + second : Nat) - m.offset
    Instant.ofSeconds? seconds nano

end Moment

/-! ### Reading parts -/

/-- What follows the character `c` at the start of a text. -/
def skip? (c : Char) : List Char → Option (List Char)
  | c' :: rest => if c' = c then some rest else none
  | [] => none

/-- The number of the digits at the start of a text, `least` to `most` of them. -/
def number? (least most : Nat) (cs : List Char) : Option (Nat × List Char) :=
  let digits := (cs.take most).takeWhile isDigit
  if least ≤ digits.length then some (digitsValue digits, cs.drop digits.length) else none

/-- The nanoseconds of a fraction of a second: digits, at least one, of which nine count. -/
def fraction? (cs : List Char) : Option (Nat × List Char) :=
  let digits := cs.takeWhile isDigit
  if digits.isEmpty then none
  else
    let leading := digits.take 9
    some (digitsValue leading * 10 ^ (9 - leading.length), cs.drop digits.length)

/-- The nanoseconds after an optional point. -/
def optionalFraction? (cs : List Char) : Option (Nat × List Char) :=
  match cs with
  | '.' :: rest => fraction? rest
  | _ => some (0, cs)

/-- A sign. -/
def sign? : List Char → Option (Int × List Char)
  | '+' :: rest => some (1, rest)
  | '-' :: rest => some (-1, rest)
  | _ => none

/-- Hours and minutes of an offset, two digits each, after a sign; `separator` stands between
them. -/
def offset? (sign : List Char → Option (Int × List Char)) (separator : List Char)
    (cs : List Char) : Option (Int × List Char) := do
  let (s, cs) ← sign cs
  let (hours, cs) ← number? 2 2 cs
  let cs ← separator.foldlM (fun cs c => skip? c cs) cs
  let (minutes, cs) ← number? 2 2 cs
  if 59 < minutes then none else some (s * (hours * 3600 + minutes * 60 : Nat), cs)

end ApiCheck.Time
