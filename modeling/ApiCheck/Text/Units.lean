/-!
# Sizes of a text

A text is a list of characters.  Positions in a template are counted in bytes of UTF-8
(`utf8Size`), the length of a string value in units of UTF-16 (`utf16Size`), where a character
beyond the first plane counts twice.
-/

namespace ApiCheck.Text

/-- The number of bytes of `cs` in UTF-8. -/
def utf8Size (cs : List Char) : Nat :=
  cs.foldr (fun c size => c.utf8Size + size) 0

/-- The number of units of `c` in UTF-16. -/
def utf16Units (c : Char) : Nat :=
  if c.toNat < 0x10000 then 1 else 2

/-- The number of units of `cs` in UTF-16. -/
def utf16Size (cs : List Char) : Nat :=
  cs.foldr (fun c size => utf16Units c + size) 0

@[simp] theorem utf8Size_nil : utf8Size [] = 0 := rfl

@[simp] theorem utf8Size_cons (c : Char) (cs : List Char) :
    utf8Size (c :: cs) = c.utf8Size + utf8Size cs := rfl

@[simp] theorem utf8Size_append (as bs : List Char) :
    utf8Size (as ++ bs) = utf8Size as + utf8Size bs := by
  induction as with
  | nil => simp
  | cons c as ih => simp [ih, Nat.add_assoc]

end ApiCheck.Text
