import ApiCheck.Number.Reading
import ApiCheck.Text.Blank
import ApiCheck.Text.Hex

/-!
# Reading patterns character by character

In the spaced style, which a pattern may switch on, blanks and comments from `#` to the end of a line
have no meaning.  The functions below read the small parts of a pattern: runs of characters with
blanks between them, counts of repetitions and code points in hexadecimal.
-/

namespace ApiCheck.Pattern

/-! ### Blanks and comments -/

/-- What follows the blanks and comments at the start of a text. -/
def dropSpace : (inComment : Bool) → List Char → List Char
  | _, [] => []
  | true, c :: rest => dropSpace (c != '\n') rest
  | false, c :: rest =>
    if Text.isBlank c then dropSpace false rest
    else if c == '#' then dropSpace true rest
    else c :: rest

theorem length_dropSpace (inComment : Bool) (cs : List Char) :
    (dropSpace inComment cs).length ≤ cs.length := by
  fun_induction dropSpace inComment cs <;> simp_all <;> omega

/-- What follows the blanks and comments at the start of a text, in the spaced style. -/
def skipSpace (spaced : Bool) (cs : List Char) : List Char :=
  if spaced then dropSpace false cs else cs

theorem length_skipSpace (spaced : Bool) (cs : List Char) :
    (skipSpace spaced cs).length ≤ cs.length := by
  unfold skipSpace
  split
  · exact length_dropSpace false cs
  · exact Nat.le_refl _

/-- The character after the first one, blanks and a comment sign between them ignored in the spaced
style. -/
def peekSpace (spaced : Bool) (cs : List Char) : Option Char :=
  let rest := cs.tail
  if spaced then
    let shown := rest.dropWhile Text.isBlank
    match shown with
    | '#' :: comment => (comment.dropWhile Text.isBlank).head? <|> rest.head?
    | c :: _ => some c
    | [] => rest.head?
  else rest.head?

/-! ### Runs -/

/-- The characters at the start of a text of which `p` holds, and what follows them; blanks after
each of them are skipped in the spaced style. -/
def run (spaced : Bool) (p : Char → Bool) (cs : List Char) : List Char × List Char :=
  match cs with
  | [] => ([], [])
  | c :: rest =>
    if p c then
      have := length_skipSpace spaced rest
      let (taken, left) := run spaced p (skipSpace spaced rest)
      (c :: taken, left)
    else ([], c :: rest)
termination_by cs.length

/-- The greatest count of a repetition. -/
def maxCount : Nat := 2 ^ 32 - 1

/-- A count, blanks around it ignored. -/
def count? (spaced : Bool) (cs : List Char) : Option (Nat × List Char) :=
  let (digits, rest) := run spaced isDigit (cs.dropWhile Text.isBlank)
  match readDigits maxCount digits with
  | .ok n => some (n, skipSpace spaced (rest.dropWhile Text.isBlank))
  | .error _ => none

/-- The bounds of a counted repetition after its opening brace, and what follows the closing one. -/
def bounds? (spaced : Bool) (cs : List Char) : Option (Nat × Option Nat × List Char) := do
  let (least, rest) ← count? spaced (skipSpace spaced cs)
  let (most, rest) ←
    match rest with
    | ',' :: rest =>
      match skipSpace spaced rest with
      | '\x7d' :: rest => some (none, '\x7d' :: rest)
      | rest => (count? spaced rest).map fun (most, rest) => (some most, rest)
    | rest => some (some least, rest)
  match rest with
  | '\x7d' :: rest => if most.any (· < least) then none else some (least, most, skipSpace spaced rest)
  | _ => none

/-! ### Code points -/

/-- The character with a code point in hexadecimal. -/
def charOfHex? (digits : List Char) : Option Char := do
  let values ← digits.mapM Text.hexValue?
  let n := values.foldl (fun n d => 16 * n + d) 0
  if digits.isEmpty then none
  else if n < 0xD800 ∨ (0xDFFF < n ∧ n ≤ 0x10FFFF) then some (Char.ofNat n)
  else none

/-- A number of characters, blanks between them skipped in the spaced style. -/
def take? (spaced : Bool) : (count : Nat) → List Char → Option (List Char × List Char)
  | 0, cs => some ([], cs)
  | _ + 1, [] => none
  | count + 1, c :: rest =>
    (take? spaced count (skipSpace spaced rest)).map fun (taken, left) => (c :: taken, left)

/-- The character of a code point after its mark: between braces, or of a fixed number of digits. -/
def codePoint? (spaced : Bool) (digits : Nat) (cs : List Char) : Option (Char × List Char) :=
  match skipSpace spaced cs with
  | '\x7b' :: rest =>
    match run spaced (· != '\x7d') (skipSpace spaced rest) with
    | (hex, _ :: left) => (charOfHex? hex).map fun c => (c, skipSpace spaced left)
    | _ => none
  | cs =>
    (take? spaced digits cs) >>= fun (hex, left) => (charOfHex? hex).map fun c => (c, left)

end ApiCheck.Pattern
