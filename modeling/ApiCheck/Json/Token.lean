import ApiCheck.Json.Numeral
import ApiCheck.Text.Hex

/-!
# JSON tokens

`tokens? cs` splits a text into marks, names and scalar values, and refuses a text that holds
anything else.  Blanks between tokens are the space, the tab and the two line ends.  Inside a
string no control character may stand unescaped, and an escape must denote a character: the two
halves of a surrogate pair are written next to each other or not at all.
-/

namespace ApiCheck.Json

/-- A token: a mark, or a value without parts. -/
inductive Token where
  | openArray
  | closeArray
  | openObject
  | closeObject
  | comma
  | colon
  | scalar (value : Json)

namespace Token

/-! ### Strings -/

/-- The number that four hexadecimal digits denote. -/
def hex4? (a b c d : Char) : Option Nat := do
  let high := (← Text.hexValue? a) * 16 + (← Text.hexValue? b)
  let low := (← Text.hexValue? c) * 16 + (← Text.hexValue? d)
  return high * 256 + low

/-- The character of an escape of one letter. -/
def escaped? : Char → Option Char
  | '"' => some '"'
  | '\\' => some '\\'
  | '/' => some '/'
  | 'b' => some '\x08'
  | 'f' => some '\x0c'
  | 'n' => some '\n'
  | 'r' => some '\r'
  | 't' => some '\t'
  | _ => none

/-- Whether `n` is the first half of a surrogate pair. -/
def isHighSurrogate (n : Nat) : Bool := 0xD800 ≤ n && n ≤ 0xDBFF

/-- Whether `n` is the second half of a surrogate pair. -/
def isLowSurrogate (n : Nat) : Bool := 0xDC00 ≤ n && n ≤ 0xDFFF

/-- The character of a surrogate pair. -/
def pair? (high low : Nat) : Option Char :=
  if isHighSurrogate high && isLowSurrogate low then
    some (Char.ofNat (0x10000 + (high - 0xD800) * 0x400 + (low - 0xDC00)))
  else none

/-- The rest of a string after its opening quote: its characters, after those of `done` in
reverse, and what follows the closing quote. -/
def string? (done : List Char) : List Char → Option (List Char × List Char)
  | [] => none
  | '"' :: rest => some (done.reverse, rest)
  | '\\' :: 'u' :: a :: b :: c :: d :: rest =>
    match hex4? a b c d with
    | none => none
    | some n =>
      if isHighSurrogate n then
        match rest with
        | '\\' :: 'u' :: e :: f :: g :: h :: rest' =>
          match hex4? e f g h >>= pair? n with
          | none => none
          | some ch => string? (ch :: done) rest'
        | _ => none
      else if isLowSurrogate n then none
      else string? (Char.ofNat n :: done) rest
  | '\\' :: c :: rest =>
    match escaped? c with
    | none => none
    | some ch => string? (ch :: done) rest
  | c :: rest => if c == '\\' || c.toNat < 0x20 then none else string? (c :: done) rest

theorem string?_length {done cs s rest : List Char} (h : string? done cs = some (s, rest)) :
    rest.length < cs.length := by
  fun_induction string? done cs <;> simp_all <;> omega

/-! ### Words and numerals -/

/-- Whether `c` is blank between tokens. -/
def isSpace (c : Char) : Bool :=
  c == ' ' || c == '\n' || c == '\t' || c == '\r'

/-- Whether `c` may stand in a numeral. -/
def inNumeral (c : Char) : Bool :=
  isDigit c || c == '-' || c == '+' || c == '.' || c == 'e' || c == 'E'

/-- Whether `c` may stand in a word. -/
def inWord (c : Char) : Bool :=
  'a' ≤ c && c ≤ 'z'

/-- The value of a word. -/
def word? (cs : List Char) : Option Json :=
  if cs = ['n', 'u', 'l', 'l'] then some .null
  else if cs = ['t', 'r', 'u', 'e'] then some (.bool true)
  else if cs = ['f', 'a', 'l', 's', 'e'] then some (.bool false)
  else none

/-- The value of a numeral. -/
def numeral? (cs : List Char) : Option Json :=
  Numeral.ofChars? cs >>= fun n => n.number?.map .number

/-! ### Texts -/

/-- The token that starts with `c`, and what follows it. -/
def next? (c : Char) (rest : List Char) : Option (Token × List Char) :=
  match c with
  | '[' => some (.openArray, rest)
  | ']' => some (.closeArray, rest)
  | '{' => some (.openObject, rest)
  | '}' => some (.closeObject, rest)
  | ',' => some (.comma, rest)
  | ':' => some (.colon, rest)
  | '"' => (string? [] rest).map fun (s, after) => (.scalar (.string (String.ofList s)), after)
  | _ =>
    if inWord c then
      (word? (c :: rest.takeWhile inWord)).map fun v => (.scalar v, rest.dropWhile inWord)
    else
      (numeral? (c :: rest.takeWhile inNumeral)).map fun v =>
        (.scalar v, rest.dropWhile inNumeral)

theorem next?_length {c : Char} {cs rest : List Char} {t : Token}
    (h : next? c cs = some (t, rest)) : rest.length ≤ cs.length := by
  unfold next? at h
  split at h
  all_goals try (simp only [Option.some.injEq, Prod.mk.injEq] at h; simp [← h.2])
  · simp only [Option.map_eq_some_iff, Prod.mk.injEq, Prod.exists] at h
    obtain ⟨s, after, hs, -, rfl⟩ := h
    exact Nat.le_of_lt (string?_length hs)
  · split at h <;>
    · simp only [Option.map_eq_some_iff, Prod.mk.injEq] at h
      obtain ⟨v, -, -, rfl⟩ := h
      exact (List.dropWhile_suffix _).length_le

/-- The tokens of a text, after those of `done` in reverse. -/
def tokensFrom? (done : List Token) : List Char → Option (List Token)
  | [] => some done.reverse
  | c :: cs =>
    if isSpace c then tokensFrom? done cs
    else
      match h : next? c cs with
      | none => none
      | some (t, rest) =>
        have := next?_length h
        tokensFrom? (t :: done) rest
termination_by cs => cs.length

end Token

/-- The tokens of a text. -/
def tokens? (cs : List Char) : Option (List Token) :=
  Token.tokensFrom? [] cs

end ApiCheck.Json
