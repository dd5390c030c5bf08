/-!
# The calendar

Dates of the Gregorian calendar, extended to all years, are counted in days from the first of
January 1970.  The days before a year are `365` for each year, one more for each fourth, one less
for each hundredth and one more for each four-hundredth.
-/

namespace ApiCheck.Time

/-- Whether a year has a 29th of February. -/
def isLeapYear (year : Int) : Bool :=
  year % 4 == 0 && (year % 100 != 0 || year % 400 == 0)

/-- The number of days of a month, from January as `1`; there is no other month than twelve. -/
def daysInMonth (year : Int) (month : Nat) : Nat :=
  match month with
  | 1 | 3 | 5 | 7 | 8 | 10 | 12 => 31
  | 4 | 6 | 9 | 11 => 30
  | 2 => if isLeapYear year then 29 else 28
  | _ => 0

/-- The number of days of a year before a month. -/
def daysBeforeMonth (year : Int) (month : Nat) : Nat :=
  (List.range (month - 1)).foldl (fun days m => days + daysInMonth year (m + 1)) 0

/-- The number of days from the first of January of the year 1 to that of a year. -/
def daysBeforeYear (year : Int) : Int :=
  let y := year - 1
  365 * y + Int.fdiv y 4 - Int.fdiv y 100 + Int.fdiv y 400

/-- The number of days from the first of January 1970 to a date. -/
def dayNumber (year : Int) (month day : Nat) : Int :=
  daysBeforeYear year - daysBeforeYear 1970 + daysBeforeMonth year month + (day - 1)

/-- Whether a year has a month with a day of these numbers. -/
def isDate (year : Int) (month day : Nat) : Bool :=
  1 ≤ day && day ≤ daysInMonth year month

/-- The day of the week of a day, from Monday as `0`. -/
def weekday (day : Int) : Nat :=
  (Int.fmod (day + 3) 7).toNat

example : dayNumber 1970 1 1 = 0 := by decide
example : dayNumber 2000 3 1 = 11017 := by decide
example : weekday (dayNumber 1970 1 1) = 3 := by decide

end ApiCheck.Time
