/-!
# Blank characters

`isBlank` holds of the 25 characters with the property `White_Space`: the controls from tab to
carriage return, the space, next line, the no-break space, and the typographic spaces and
separators.  The zero-width space is not among them.

`trim` drops the blank characters at both ends of a text and nothing else; `trimStart` drops
those at its start only.
-/

namespace ApiCheck.Text

/-! ### The characters -/

/-- Whether `c` is blank. -/
def isBlank (c : Char) : Bool :=
  let n := c.toNat
  (0x09 ≤ n && n ≤ 0x0D) || n == 0x20 || n == 0x85 || n == 0xA0 || n == 0x1680 ||
    (0x2000 ≤ n && n ≤ 0x200A) || n == 0x2028 || n == 0x2029 || n == 0x202F || n == 0x205F ||
    n == 0x3000

/-! ### Trimming -/

/-- The characters from the first one that is not blank. -/
def trimStart (cs : List Char) : List Char :=
  cs.dropWhile isBlank

/-- The characters up to the last one that is not blank. -/
def trimEnd (cs : List Char) : List Char :=
  (cs.reverse.dropWhile isBlank).reverse

/-- The characters from the first to the last that is not blank. -/
def trim (cs : List Char) : List Char :=
  trimEnd (trimStart cs)

/-- A text without its blank ends. -/
def trimmed (s : String) : String :=
  String.ofList (trim s.toList)

/-- Whether a text has no character but blank ones. -/
def isBlankText (s : String) : Bool :=
  s.toList.all isBlank

end ApiCheck.Text
