import ApiCheck.Json.Basic
import ApiCheck.Number.Shortest

/-!
# Writing JSON

`Json.render` writes a value on one line, without blanks.  Quotes, backslashes and control
characters are escaped, all other characters stand for themselves.  A double is written with the
fewest digits that read back and with a point, so that it is not taken for an integer.
-/

namespace ApiCheck.Json

/-- A hexadecimal digit. -/
def hexDigit (n : Nat) : Char :=
  if n < 10 then Char.ofNat ('0'.toNat + n) else Char.ofNat ('a'.toNat + (n - 10))

/-- A character as it stands in a string. -/
def escape (c : Char) : List Char :=
  if c = '"' then ['\\', '"']
  else if c = '\\' then ['\\', '\\']
  else if c = '\n' then ['\\', 'n']
  else if c = '\r' then ['\\', 'r']
  else if c = '\t' then ['\\', 't']
  else if c.toNat < 0x20 then ['\\', 'u', '0', '0', hexDigit (c.toNat / 16), hexDigit (c.toNat % 16)]
  else [c]

/-- A string between quotes. -/
def quote (s : String) : List Char :=
  '"' :: s.toList.flatMap escape ++ ['"']

/-- A number. -/
def numberChars : Number → List Char
  | .integer n => (toString n).toList
  | .real x => if x.chars.contains '.' then x.chars else x.chars ++ ['.', '0']

mutual

/-- The characters of a value. -/
def chars : Json → List Char
  | .null => ['n', 'u', 'l', 'l']
  | .bool true => ['t', 'r', 'u', 'e']
  | .bool false => ['f', 'a', 'l', 's', 'e']
  | .number n => numberChars n
  | .string s => quote s
  | .array [] => ['[', ']']
  | .array (item :: rest) => '[' :: (item.chars ++ itemChars rest)
  | .object [] => ['\x7b', '\x7d']
  | .object ((key, value) :: rest) =>
    '\x7b' :: (quote key ++ ':' :: (value.chars ++ memberChars rest))

/-- The further items of an array and its end. -/
def itemChars : List Json → List Char
  | [] => [']']
  | item :: rest => ',' :: (item.chars ++ itemChars rest)

/-- The further members of an object and its end. -/
def memberChars : List (String × Json) → List Char
  | [] => ['\x7d']
  | (key, value) :: rest => ',' :: (quote key ++ ':' :: (value.chars ++ memberChars rest))

end

/-- The text of a value. -/
def render (v : Json) : String :=
  String.ofList v.chars

end ApiCheck.Json
