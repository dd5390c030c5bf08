import ApiCheck.Text.Hex

/-!
# Identifiers

A scenario carries a universally unique identifier of 32 hexadecimal digits.  It is read in its
plain form, in the form with four hyphens, and in the hyphenated form between braces or after
`urn:uuid:`; letters may be of either case.  It is written with hyphens and small letters.
-/

namespace ApiCheck

/-- A universally unique identifier: the values of its 32 hexadecimal digits. -/
structure Identifier where
  digits : List Nat
deriving DecidableEq

namespace Identifier

/-- The identifier of 32 hexadecimal digits. -/
def ofDigits? (cs : List Char) : Option Identifier :=
  if cs.length = 32 then (cs.mapM Text.hexValue?).map Identifier.mk else none

/-- The identifier of 32 hexadecimal digits with hyphens after 8, 12, 16 and 20 of them. -/
def ofHyphenated? (cs : List Char) : Option Identifier :=
  if cs.length = 36 ∧ [8, 13, 18, 23].all (fun i => cs[i]? == some '-') then
    ofDigits? (cs.take 8 ++ (cs.drop 9).take 4 ++ (cs.drop 14).take 4 ++ (cs.drop 19).take 4 ++
      cs.drop 24)
  else none

/-- The identifier that a text denotes. -/
def parse? (s : String) : Option Identifier :=
  let cs := s.toList
  match cs.length with
  | 32 => ofDigits? cs
  | 36 => ofHyphenated? cs
  | 38 =>
    if cs.head? = some '\x7b' ∧ cs.getLast? = some '\x7d' then ofHyphenated? (cs.tail.dropLast)
    else none
  | 45 =>
    if (cs.take 9).map Char.toLower = "urn:uuid:".toList then ofHyphenated? (cs.drop 9) else none
  | _ => none

/-- The hyphenated form. -/
def text (i : Identifier) : String :=
  let cs := i.digits.map fun d => (Nat.digitChar d)
  let group (start count : Nat) : List Char := (cs.drop start).take count
  String.ofList
    (group 0 8 ++ '-' :: group 8 4 ++ '-' :: group 12 4 ++ '-' :: group 16 4 ++ '-' :: group 20 12)

end Identifier

end ApiCheck
