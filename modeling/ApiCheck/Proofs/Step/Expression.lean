import ApiCheck.Step.Expression
import ApiCheck.Proofs.Text.Blank
import Mathlib.Data.List.TakeWhile

/-!
# What expressions match

`Spelled w arguments cs` says that the characters `cs` are the symbols `w` with the parameters among
them written out, and `arguments` is what the parameters stand for.  `solutions` lists exactly these
arguments (`mem_solutions`).

Two lists of symbols that are `apart` spell no text in common (`not_spelled_of_apart`), and a list
that is `delimited` spells a text with one list of arguments at most (`Spelled.arguments_unique`).
Both are checked on the symbols alone: quoted texts end where their quote comes back, and a number
ends where a character follows that stands in no number.
-/

namespace ApiCheck.Step

/-! ### Parameters -/

namespace Parameter

/-- `cs` consists of decimal digits. -/
def Digits (cs : List Char) : Prop := ∀ c ∈ cs, Text.isDecimalDigit c = true

/-- `cs` is a whole number: digits, at least one, after an optional minus sign. -/
def WholeNumber (cs : List Char) : Prop :=
  ∃ sign digits, (sign = [] ∨ sign = ['-']) ∧ digits ≠ [] ∧ Digits digits ∧ cs = sign ++ digits

/-- `cs` is a decimal: an optional minus sign, optional digits, an optional point, and digits, at
least one. -/
def DecimalNumber (cs : List Char) : Prop :=
  ∃ sign whole point fraction, (sign = [] ∨ sign = ['-']) ∧ Digits whole ∧
    (point = [] ∨ point = ['.']) ∧ fraction ≠ [] ∧ Digits fraction ∧
    cs = sign ++ whole ++ point ++ fraction

/-- `lexeme` is a parameter written out, and stands for `argument`. -/
def Writes : (p : Parameter) → (lexeme argument : List Char) → Prop
  | .int, lexeme, argument => WholeNumber lexeme ∧ argument = lexeme
  | .float, lexeme, argument => DecimalNumber lexeme ∧ argument = lexeme
  | .string, lexeme, argument =>
    ∃ quote, (quote = '"' ∨ quote = '\'') ∧ quote ∉ argument ∧
      lexeme = quote :: (argument ++ [quote])

/-! ### Numbers -/

theorem inNumber_of_isDecimalDigit {c : Char} (h : Text.isDecimalDigit c = true) :
    inNumber c = true := by
  simp [inNumber, h]

theorem isDecimalDigit_minus : Text.isDecimalDigit '-' = false := by decide

theorem isDecimalDigit_point : Text.isDecimalDigit '.' = false := by decide

/-- No run of digits starts with a minus sign. -/
theorem Digits.head?_ne_minus {cs : List Char} (h : Digits cs) : cs.head? ≠ some '-' := by
  intro hminus
  have hdigit := h '-' (List.mem_of_mem_head? hminus)
  rw [isDecimalDigit_minus] at hdigit
  exact nomatch hdigit

/-- What stands behind an optional minus sign. -/
theorem unsigned_append {sign cs : List Char} (hsign : sign = [] ∨ sign = ['-'])
    (hcs : cs.head? ≠ some '-') :
    (if (sign ++ cs).head? = some '-' then (sign ++ cs).tail else sign ++ cs) = cs := by
  rcases hsign with rfl | rfl
  · exact if_neg hcs
  · rfl

/-- Every text is one without a minus sign in front, behind an optional minus sign. -/
theorem exists_unsigned (cs : List Char) :
    ∃ sign, (sign = [] ∨ sign = ['-']) ∧
      cs = sign ++ (if cs.head? = some '-' then cs.tail else cs) := by
  by_cases hminus : cs.head? = some '-'
  · obtain ⟨rest, rfl⟩ := List.head?_eq_some_iff.mp hminus
    exact ⟨['-'], .inr rfl, rfl⟩
  · exact ⟨[], .inl rfl, by rw [if_neg hminus, List.nil_append]⟩

theorem isInt_iff {cs : List Char} : isInt cs = true ↔ WholeNumber cs := by
  constructor
  · intro h
    obtain ⟨sign, hsign, hcs⟩ := exists_unsigned cs
    simp only [isInt, Bool.and_eq_true, Bool.not_eq_true', List.isEmpty_eq_false_iff,
      List.all_eq_true] at h
    exact ⟨sign, _, hsign, h.1, h.2, hcs⟩
  · rintro ⟨sign, digits, hsign, hne, hdigits, rfl⟩
    simp only [isInt, unsigned_append hsign hdigits.head?_ne_minus, Bool.and_eq_true,
      Bool.not_eq_true', List.isEmpty_eq_false_iff, List.all_eq_true]
    exact ⟨hne, hdigits⟩

theorem isFloat_of_digits {cs whole : List Char} (hwhole : Digits whole) (hne : whole ≠ [])
    (hcs : (if cs.head? = some '-' then cs.tail else cs) = whole) : isFloat cs = true := by
  have hrest : whole.dropWhile Text.isDecimalDigit = [] := List.dropWhile_eq_nil_iff.mpr hwhole
  simp [isFloat, hcs, hrest, hne]

theorem isFloat_of_point {cs whole fraction : List Char} (hwhole : Digits whole)
    (hfraction : Digits fraction) (hne : fraction ≠ [])
    (hcs : (if cs.head? = some '-' then cs.tail else cs) = whole ++ '.' :: fraction) :
    isFloat cs = true := by
  have hrest : (whole ++ '.' :: fraction).dropWhile Text.isDecimalDigit = '.' :: fraction := by
    rw [List.dropWhile_append_of_pos hwhole,
      List.dropWhile_cons_of_neg (by simp [isDecimalDigit_point])]
  simp only [isFloat, hcs, hrest, List.isEmpty_cons, Bool.false_eq_true, if_false, List.head?_cons,
    if_true, List.tail_cons, decide_true, Bool.and_true, Bool.and_eq_true, Bool.not_eq_true',
    List.isEmpty_eq_false_iff, List.all_eq_true]
  exact ⟨hne, hfraction⟩

theorem isFloat_iff {cs : List Char} : isFloat cs = true ↔ DecimalNumber cs := by
  constructor
  · intro h
    obtain ⟨sign, hsign, hcs⟩ := exists_unsigned cs
    simp only [isFloat] at h
    generalize (if cs.head? = some '-' then cs.tail else cs) = unsigned at h hcs
    have hsplit := List.takeWhile_append_dropWhile (p := Text.isDecimalDigit) (l := unsigned)
    have hwhole : Digits (unsigned.takeWhile Text.isDecimalDigit) :=
      fun c hc => List.mem_takeWhile_imp hc
    generalize unsigned.takeWhile Text.isDecimalDigit = whole at hsplit hwhole
    cases hrest : unsigned.dropWhile Text.isDecimalDigit with
    | nil =>
      -- Digits alone are the fraction of a decimal without whole part and point.
      rw [hrest, List.append_nil] at hsplit
      simp only [hrest, List.isEmpty_nil, if_true, Bool.not_eq_true',
        List.isEmpty_eq_false_iff] at h
      exact ⟨sign, [], [], unsigned, hsign, (fun c hc => nomatch hc), .inl rfl, h,
        hsplit ▸ hwhole, by simpa using hcs⟩
    | cons c fraction =>
      rw [hrest] at hsplit h
      by_cases hc : c = '.'
      · subst hc
        simp only [List.isEmpty_cons, Bool.false_eq_true, if_false, List.head?_cons, if_true,
          List.tail_cons, decide_true, Bool.and_true, Bool.and_eq_true, Bool.not_eq_true',
          List.isEmpty_eq_false_iff, List.all_eq_true] at h
        exact ⟨sign, whole, ['.'], fraction, hsign, hwhole, .inr rfl, h.1, h.2, by
          simp [hcs, ← hsplit]⟩
      · simp [hc] at h
  · rintro ⟨sign, whole, point, fraction, hsign, hwhole, rfl | rfl, hne, hfraction, rfl⟩
    · have hdigits : Digits (whole ++ fraction) := fun c hc =>
        (List.mem_append.mp hc).elim (hwhole c) (hfraction c)
      refine isFloat_of_digits hdigits (by simp [hne]) ?_
      rw [List.append_nil, List.append_assoc]
      exact unsigned_append hsign hdigits.head?_ne_minus
    · refine isFloat_of_point hwhole hfraction hne ?_
      rw [List.append_assoc, List.append_assoc]
      refine unsigned_append hsign ?_
      cases whole with
      | nil => simp
      | cons c whole => exact hwhole.head?_ne_minus

theorem WholeNumber.inNumber {cs : List Char} (h : WholeNumber cs) :
    ∀ c ∈ cs, inNumber c = true := by
  obtain ⟨sign, digits, rfl | rfl, -, hdigits, rfl⟩ := h
  · exact fun c hc => inNumber_of_isDecimalDigit (hdigits c hc)
  · intro c hc
    rcases List.mem_cons.mp hc with rfl | hc
    · rfl
    · exact inNumber_of_isDecimalDigit (hdigits c hc)

theorem DecimalNumber.inNumber {cs : List Char} (h : DecimalNumber cs) :
    ∀ c ∈ cs, inNumber c = true := by
  obtain ⟨sign, whole, point, fraction, hsign, hwhole, hpoint, -, hfraction, rfl⟩ := h
  intro c hc
  simp only [List.mem_append] at hc
  rcases hc with ((hc | hc) | hc) | hc
  · rcases hsign with rfl | rfl
    · exact nomatch hc
    · rw [List.mem_singleton.mp hc]
      rfl
  · exact inNumber_of_isDecimalDigit (hwhole c hc)
  · rcases hpoint with rfl | rfl
    · exact nomatch hc
    · rw [List.mem_singleton.mp hc]
      rfl
  · exact inNumber_of_isDecimalDigit (hfraction c hc)

theorem WholeNumber.ne_nil {cs : List Char} (h : WholeNumber cs) : cs ≠ [] := by
  obtain ⟨sign, digits, -, hne, -, rfl⟩ := h
  simp [hne]

theorem DecimalNumber.ne_nil {cs : List Char} (h : DecimalNumber cs) : cs ≠ [] := by
  obtain ⟨sign, whole, point, fraction, -, -, -, hne, -, rfl⟩ := h
  simp [hne]

/-- A parameter for a number captures characters of numbers as they stand. -/
theorem Writes.number {p : Parameter} {lexeme argument : List Char} (hp : p ≠ .string)
    (h : p.Writes lexeme argument) :
    argument = lexeme ∧ lexeme ≠ [] ∧ ∀ c ∈ lexeme, inNumber c = true := by
  cases p with
  | int => exact ⟨h.2, h.1.ne_nil, h.1.inNumber⟩
  | float => exact ⟨h.2, h.1.ne_nil, h.1.inNumber⟩
  | string => exact absurd rfl hp

/-! ### Captures -/

theorem mem_splits {accepts : List Char → Bool} {cs argument rest : List Char}
    (hnumber : accepts argument = true → ∀ c ∈ argument, inNumber c = true) :
    (argument, rest) ∈ splits accepts cs ↔ accepts argument = true ∧ cs = argument ++ rest := by
  simp only [splits, List.mem_filter, List.mem_map, List.mem_reverse, List.mem_range,
    Prod.mk.injEq]
  constructor
  · rintro ⟨⟨n, -, rfl, rfl⟩, haccepts⟩
    exact ⟨haccepts, (List.take_append_drop n cs).symm⟩
  · rintro ⟨haccepts, rfl⟩
    refine ⟨⟨argument.length, ?_, by simp, by simp⟩, haccepts⟩
    rw [List.takeWhile_append_of_pos (hnumber haccepts), List.length_append]
    omega

/-- The splits after a number are those in front of which the number is written. -/
theorem mem_splits_iff_exists {accepts : List Char → Bool} {holds : List Char → Prop}
    {cs argument rest : List Char} (haccepts : ∀ {cs}, accepts cs = true ↔ holds cs)
    (hnumber : ∀ {cs}, holds cs → ∀ c ∈ cs, inNumber c = true) :
    (argument, rest) ∈ splits accepts cs ↔
      ∃ lexeme, (holds lexeme ∧ argument = lexeme) ∧ cs = lexeme ++ rest := by
  rw [mem_splits fun h => hnumber (haccepts.mp h), haccepts]
  constructor
  · rintro ⟨hholds, rfl⟩
    exact ⟨argument, ⟨hholds, rfl⟩, rfl⟩
  · rintro ⟨_, ⟨hholds, rfl⟩, rfl⟩
    exact ⟨hholds, rfl⟩

theorem quoted_eq_some {quote : Char} {cs inner after : List Char} :
    quoted quote cs = some (inner, after) ↔ quote ∉ inner ∧ cs = inner ++ quote :: after := by
  induction cs generalizing inner after with
  | nil => simp [quoted]
  | cons c cs ih =>
    by_cases hc : c = quote
    · cases inner <;> simp_all [quoted]
    · simp only [quoted, if_neg hc, Option.map_eq_some_iff, Prod.exists, Prod.mk.injEq, ih]
      constructor
      · rintro ⟨inner', after', ⟨hquote, rfl⟩, rfl, rfl⟩
        exact ⟨by simp [hquote, Ne.symm hc], rfl⟩
      · rintro ⟨hquote, hcs⟩
        cases inner with
        | nil => exact absurd (List.cons.inj hcs).1 hc
        | cons c' inner =>
          obtain ⟨rfl, rfl⟩ := List.cons.inj hcs
          exact ⟨inner, after, ⟨fun h => hquote (.tail _ h), rfl⟩, rfl, rfl⟩

/-- A quoted text starts with one of the two quotes and goes up to the next of them. -/
theorem captures_string {cs argument rest : List Char}
    (h : (argument, rest) ∈ captures .string cs) :
    ∃ quote cs', (quote = '"' ∨ quote = '\'') ∧ cs = quote :: cs' ∧
      quoted quote cs' = some (argument, rest) := by
  cases cs with
  | nil => exact nomatch h
  | cons c cs =>
    by_cases hdouble : c = '"'
    · subst hdouble
      exact ⟨'"', cs, .inl rfl, rfl, Option.mem_toList.mp h⟩
    · by_cases hsingle : c = '\''
      · subst hsingle
        exact ⟨'\'', cs, .inr rfl, rfl, Option.mem_toList.mp h⟩
      · simp [captures, hdouble, hsingle] at h

/-- The captures of a parameter are its arguments, with what follows them. -/
theorem mem_captures {p : Parameter} {cs argument rest : List Char} :
    (argument, rest) ∈ p.captures cs ↔ ∃ lexeme, p.Writes lexeme argument ∧ cs = lexeme ++ rest := by
  cases p with
  | int => exact mem_splits_iff_exists isInt_iff WholeNumber.inNumber
  | float => exact mem_splits_iff_exists isFloat_iff DecimalNumber.inNumber
  | string =>
    constructor
    · intro h
      obtain ⟨quote, cs', hquote, rfl, hinner⟩ := captures_string h
      obtain ⟨hargument, rfl⟩ := quoted_eq_some.mp hinner
      exact ⟨_, ⟨quote, hquote, hargument, rfl⟩, by simp⟩
    · rintro ⟨_, ⟨quote, rfl | rfl, hquote, rfl⟩, rfl⟩
      all_goals
        simp only [captures, List.cons_append, Option.mem_toList]
        exact quoted_eq_some.mpr ⟨hquote, by simp⟩

theorem isBlank_of_inNumber {c : Char} (h : inNumber c = true) : Text.isBlank c = false := by
  simp only [inNumber, Bool.or_eq_true, beq_iff_eq] at h
  rcases h with (rfl | rfl) | h
  · rfl
  · rfl
  · exact Text.isBlank_of_isDecimalDigit h

/-! ### Where a parameter ends -/

/-- Whether a parameter, written out, may start with `c`. -/
def starts : Parameter → Char → Bool
  | .string, c => c == '"' || c == '\''
  | _, c => inNumber c

theorem starts_of_ne_string {p : Parameter} (hp : p ≠ .string) (c : Char) :
    p.starts c = inNumber c := by
  cases p with
  | int => rfl
  | float => rfl
  | string => exact absurd rfl hp

theorem Writes.exists_cons {p : Parameter} {lexeme argument : List Char}
    (h : p.Writes lexeme argument) : ∃ c rest, lexeme = c :: rest ∧ p.starts c = true := by
  by_cases hp : p = .string
  · subst hp
    obtain ⟨quote, hquote, -, rfl⟩ := h
    exact ⟨quote, _, rfl, by simpa [starts] using hquote⟩
  · obtain ⟨-, hne, hnumber⟩ := h.number hp
    obtain ⟨c, rest, rfl⟩ := List.exists_cons_of_ne_nil hne
    exact ⟨c, rest, rfl, by rw [starts_of_ne_string hp, hnumber c (.head rest)]⟩

/-- No parameter ends with a blank character. -/
theorem Writes.getLast? {p : Parameter} {lexeme argument : List Char}
    (h : p.Writes lexeme argument) : ∃ c, lexeme.getLast? = some c ∧ Text.isBlank c = false := by
  by_cases hp : p = .string
  · subst hp
    obtain ⟨quote, hquote, -, rfl⟩ := h
    refine ⟨quote, ?_, ?_⟩
    · rw [← List.cons_append, List.getLast?_concat]
    · rcases hquote with rfl | rfl <;> rfl
  · obtain ⟨-, hne, hnumber⟩ := h.number hp
    exact ⟨_, List.getLast?_eq_getLast_of_ne_nil hne,
      isBlank_of_inNumber (hnumber _ (List.getLast_mem hne))⟩

/-- A text is cut in one way only into a part of one kind and a rest that starts with another. -/
theorem append_inj_of_boundary {kind : Char → Bool} {part part' rest rest' : List Char}
    (h : part ++ rest = part' ++ rest') (hpart : ∀ c ∈ part, kind c = true)
    (hpart' : ∀ c ∈ part', kind c = true) (hrest : ∀ c ∈ rest.head?, kind c = false)
    (hrest' : ∀ c ∈ rest'.head?, kind c = false) : part = part' ∧ rest = rest' := by
  have hspan : ∀ {part rest : List Char}, (∀ c ∈ part, kind c = true) →
      (∀ c ∈ rest.head?, kind c = false) → (part ++ rest).takeWhile kind = part := by
    intro part rest hpart hrest
    rw [List.takeWhile_append_of_pos hpart]
    cases rest with
    | nil => simp
    | cons c rest => simp [hrest c rfl]
  have heq : part = part' := by rw [← hspan hpart hrest, h, hspan hpart' hrest']
  subst heq
  exact ⟨rfl, List.append_cancel_left h⟩

/-- A quoted text ends where its quote comes back. -/
theorem Writes.string_inj {lexeme lexeme' argument argument' rest rest' : List Char}
    (h : Writes .string lexeme argument) (h' : Writes .string lexeme' argument')
    (heq : lexeme ++ rest = lexeme' ++ rest') : argument = argument' ∧ rest = rest' := by
  obtain ⟨quote, -, hargument, rfl⟩ := h
  obtain ⟨quote', -, hargument', rfl⟩ := h'
  simp only [List.cons_append, List.append_assoc, List.nil_append, List.cons.injEq] at heq
  obtain ⟨rfl, heq⟩ := heq
  have hother : ∀ {argument : List Char}, quote ∉ argument → ∀ c ∈ argument, (c != quote) = true :=
    fun hargument c hc => bne_iff_ne.mpr fun hquote => hargument (hquote ▸ hc)
  obtain ⟨hargument, hrest⟩ := append_inj_of_boundary heq (hother hargument) (hother hargument')
    (by simp) (by simp)
  exact ⟨hargument, (List.cons.inj hrest).2⟩

/-- A number ends in front of a character that stands in no number. -/
theorem Writes.number_inj {p : Parameter} {lexeme lexeme' argument argument' rest rest' : List Char}
    (hp : p ≠ .string) (h : p.Writes lexeme argument) (h' : p.Writes lexeme' argument')
    (heq : lexeme ++ rest = lexeme' ++ rest') (hrest : ∀ c ∈ rest.head?, inNumber c = false)
    (hrest' : ∀ c ∈ rest'.head?, inNumber c = false) : argument = argument' ∧ rest = rest' := by
  obtain ⟨rfl, -, hnumber⟩ := h.number hp
  obtain ⟨rfl, -, hnumber'⟩ := h'.number hp
  exact append_inj_of_boundary heq hnumber hnumber' hrest hrest'

end Parameter

/-! ### Symbols -/

/-- What stands at one place of an expression. -/
inductive Symbol where
  | char (c : Char)
  | parameter (p : Parameter)

/-- The symbols of an expression, in their order. -/
def symbols (e : Expression) : List Symbol :=
  e.flatMap fun
    | .text cs => cs.map .char
    | .parameter p => [.parameter p]

/-- `Spelled w arguments cs`: written out with `arguments` for its parameters, `w` is `cs`. -/
inductive Spelled : List Symbol → List String → List Char → Prop
  | nil : Spelled [] [] []
  | char (c : Char) {w : List Symbol} {arguments : List String} {cs : List Char}
      (rest : Spelled w arguments cs) : Spelled (.char c :: w) arguments (c :: cs)
  | parameter {p : Parameter} {lexeme : List Char} {argument : String} {w : List Symbol}
      {arguments : List String} {cs : List Char} (first : p.Writes lexeme argument.toList)
      (rest : Spelled w arguments cs) :
      Spelled (.parameter p :: w) (argument :: arguments) (lexeme ++ cs)

theorem spelled_char {c : Char} {w : List Symbol} {arguments : List String} {cs : List Char} :
    Spelled (.char c :: w) arguments cs ↔ ∃ rest, cs = c :: rest ∧ Spelled w arguments rest := by
  constructor
  · rintro (_ | ⟨_, h⟩)
    exact ⟨_, rfl, h⟩
  · rintro ⟨rest, rfl, h⟩
    exact .char c h

theorem spelled_parameter {p : Parameter} {w : List Symbol} {arguments : List String}
    {cs : List Char} :
    Spelled (.parameter p :: w) arguments cs ↔ ∃ lexeme argument arguments' rest,
      p.Writes lexeme argument.toList ∧ Spelled w arguments' rest ∧
        arguments = argument :: arguments' ∧ cs = lexeme ++ rest := by
  constructor
  · rintro (_ | _ | ⟨first, h⟩)
    exact ⟨_, _, _, _, first, h, rfl, rfl⟩
  · rintro ⟨lexeme, argument, arguments', rest, first, h, rfl, rfl⟩
    exact .parameter first h

theorem spelled_text {lead : List Char} {w : List Symbol} {arguments : List String}
    {cs : List Char} :
    Spelled (lead.map .char ++ w) arguments cs ↔
      ∃ rest, cs = lead ++ rest ∧ Spelled w arguments rest := by
  induction lead generalizing cs with
  | nil => simp
  | cons c lead ih =>
    simp only [List.map_cons, List.cons_append, spelled_char, ih]
    constructor
    · rintro ⟨_, rfl, rest, rfl, h⟩
      exact ⟨rest, rfl, h⟩
    · rintro ⟨rest, rfl, h⟩
      exact ⟨lead ++ rest, rfl, rest, rfl, h⟩

/-! ### Solutions -/

theorem after?_eq_some {lead cs rest : List Char} :
    after? lead cs = some rest ↔ cs = lead ++ rest := by
  fun_induction after? lead cs with
  | case1 cs => simp
  | case2 c lead cs ih => simp [ih]
  | case3 a lead c cs hne => simp [Ne.symm hne]
  | case4 => simp

/-- **Solutions**: an expression matches a text with the arguments that spell the text. -/
theorem mem_solutions {e : Expression} {arguments : List String} {cs : List Char} :
    arguments ∈ solutions e cs ↔ Spelled (symbols e) arguments cs := by
  induction e generalizing arguments cs with
  | nil =>
    cases cs with
    | nil =>
      simp only [solutions, List.mem_singleton]
      exact ⟨fun h => h ▸ .nil, fun h => by cases h; rfl⟩
    | cons c cs => exact ⟨fun h => (nomatch h), fun h => (nomatch h)⟩
  | cons part e ih =>
    cases part with
    | text lead =>
      show _ ↔ Spelled (lead.map .char ++ (symbols e)) arguments cs
      rw [spelled_text, solutions]
      cases hafter : after? lead cs with
      | none =>
        refine ⟨fun h => (nomatch h), ?_⟩
        rintro ⟨rest, hcs, -⟩
        rw [after?_eq_some.mpr hcs] at hafter
        exact nomatch hafter
      | some rest =>
        obtain rfl := after?_eq_some.mp hafter
        simp [ih]
    | parameter p =>
      show _ ↔ Spelled (.parameter p :: (symbols e)) arguments cs
      simp only [solutions, List.mem_flatMap, Prod.exists, List.mem_map, spelled_parameter,
        Parameter.mem_captures, ih]
      constructor
      · rintro ⟨argument, rest, ⟨lexeme, first, rfl⟩, arguments', h, rfl⟩
        exact ⟨lexeme, String.ofList argument, arguments', rest, by simpa using first, h, rfl, rfl⟩
      · rintro ⟨lexeme, argument, arguments', rest, first, h, rfl, rfl⟩
        exact ⟨argument.toList, rest, ⟨lexeme, first, rfl⟩, arguments', h, by simp⟩

/-! ### One list of arguments -/

/-- Whether what `w` spells goes on with no character of a number. -/
def stops : List Symbol → Bool
  | [] => true
  | .char c :: _ => !Parameter.inNumber c
  | .parameter _ :: _ => false

/-- Whether one can tell where the parameters among `w` end. -/
def delimited : List Symbol → Bool
  | [] => true
  | .char _ :: w => delimited w
  | .parameter p :: w => (p = .string || stops w) && delimited w

theorem Spelled.head?_of_stops {w : List Symbol} {arguments : List String} {cs : List Char}
    (h : Spelled w arguments cs) (hstops : stops w = true) :
    ∀ c ∈ cs.head?, Parameter.inNumber c = false := by
  cases h with
  | nil => simp
  | char c => simpa [stops] using hstops
  | parameter => exact nomatch hstops

/-- Delimited symbols spell a text with one list of arguments. -/
theorem Spelled.arguments_unique {w : List Symbol} {arguments arguments' : List String}
    {cs : List Char} (hw : delimited w = true) (h : Spelled w arguments cs)
    (h' : Spelled w arguments' cs) : arguments = arguments' := by
  induction h generalizing arguments' with
  | nil => cases h'; rfl
  | char c _ ih =>
    obtain ⟨_, heq, h'⟩ := spelled_char.mp h'
    obtain ⟨-, rfl⟩ := List.cons.inj heq
    exact ih hw h'
  | @parameter p _ argument w _ cs first rest ih =>
    obtain ⟨lexeme', argument', _, rest', first', hrest', rfl, heq⟩ := spelled_parameter.mp h'
    obtain ⟨hend, hw⟩ := Bool.and_eq_true_iff.mp hw
    have hboth : argument.toList = argument'.toList ∧ cs = rest' := by
      by_cases hp : p = .string
      · subst hp
        exact first.string_inj first' heq
      · have hstops : stops w = true := by simpa [hp] using hend
        exact first.number_inj hp first' heq (rest.head?_of_stops hstops)
          (hrest'.head?_of_stops hstops)
    obtain ⟨hargument, rfl⟩ := hboth
    rw [String.toList_inj.mp hargument, ih hw hrest']

/-! ### No text in common -/

/-- Whether two lists of symbols part at a place where their next characters differ. -/
def apart : List Symbol → List Symbol → Bool
  | [], [] => false
  | [], _ :: _ => true
  | _ :: _, [] => true
  | .char c :: w, .char c' :: w' => c != c' || apart w w'
  | .char c :: _, .parameter p :: _ => !p.starts c
  | .parameter p :: _, .char c :: _ => !p.starts c
  | .parameter .string :: w, .parameter .string :: w' => apart w w'
  | .parameter p :: _, .parameter p' :: _ => (p = .string) != (p' = .string)

theorem apart_comm (w w' : List Symbol) : apart w w' = apart w' w := by
  fun_induction apart w w' with
  | case1 => rfl
  | case2 => rfl
  | case3 => rfl
  | case4 c w c' w' ih => rw [apart, ih, bne_comm]
  | case5 => rfl
  | case6 => rfl
  | case7 w w' ih => rw [apart, ih]
  | case8 p w p' w' hne => cases p <;> cases p' <;> simp_all [apart]

/-- No character starts both a number and a quoted text. -/
theorem not_starts_both {p p' : Parameter} {c : Char} (hp : ((p = .string) != (p' = .string)) = true)
    (h : p.starts c = true) (h' : p'.starts c = true) : False := by
  have hquote : ∀ {p : Parameter}, p ≠ .string → p.starts c = true →
      Parameter.starts .string c = true → False := by
    intro p hne h h'
    have hnumber : Parameter.inNumber c = true := Parameter.starts_of_ne_string hne c ▸ h
    simp only [Parameter.starts, Bool.or_eq_true, beq_iff_eq] at h'
    rcases h' with rfl | rfl
    · exact absurd hnumber (by decide)
    · exact absurd hnumber (by decide)
  by_cases hs : p = .string
  · subst hs
    exact hquote (by simpa using hp) h' h
  · have hs' : p' = .string := by simpa [hs] using hp
    subst hs'
    exact hquote hs h h'

theorem Spelled.exists_cons {symbol : Symbol} {w : List Symbol} {arguments : List String}
    {cs : List Char} (h : Spelled (symbol :: w) arguments cs) : ∃ c rest, cs = c :: rest := by
  cases h with
  | char c => exact ⟨c, _, rfl⟩
  | parameter first =>
    obtain ⟨c, rest, rfl, -⟩ := first.exists_cons
    exact ⟨c, _, rfl⟩

/-- A parameter starts with one of its characters. -/
theorem Spelled.starts {p : Parameter} {w : List Symbol} {arguments : List String}
    {c : Char} {cs : List Char} (h : Spelled (.parameter p :: w) arguments (c :: cs)) :
    p.starts c = true := by
  obtain ⟨lexeme, _, _, _, first, -, -, heq⟩ := spelled_parameter.mp h
  obtain ⟨c', _, rfl, hc'⟩ := first.exists_cons
  rwa [(List.cons.inj heq).1]

/-- Symbols that are apart spell no text in common. -/
theorem not_spelled_of_apart {w w' : List Symbol} {arguments arguments' : List String}
    {cs : List Char} (hapart : apart w w' = true) (h : Spelled w arguments cs)
    (h' : Spelled w' arguments' cs) : False := by
  fun_induction apart w w' generalizing arguments arguments' cs with
  | case1 => exact nomatch hapart
  | case2 symbol w' =>
    obtain ⟨c, rest, rfl⟩ := h'.exists_cons
    exact nomatch h
  | case3 symbol w =>
    obtain ⟨c, rest, rfl⟩ := h.exists_cons
    exact nomatch h'
  | case4 c w c' w' ih =>
    obtain ⟨rest, rfl, hrest⟩ := spelled_char.mp h
    obtain ⟨_, heq, hrest'⟩ := spelled_char.mp h'
    obtain ⟨rfl, rfl⟩ := List.cons.inj heq
    exact ih (by simpa using hapart) hrest hrest'
  | case5 c w p w' =>
    obtain ⟨rest, rfl, -⟩ := spelled_char.mp h
    simp [h'.starts] at hapart
  | case6 p w c w' =>
    obtain ⟨rest, rfl, -⟩ := spelled_char.mp h'
    simp [h.starts] at hapart
  | case7 w w' ih =>
    -- Both texts start with the same quoted one.
    obtain ⟨_, _, _, rest, first, hrest, -, rfl⟩ := spelled_parameter.mp h
    obtain ⟨_, _, _, _, first', hrest', -, heq⟩ := spelled_parameter.mp h'
    obtain ⟨-, rfl⟩ := first.string_inj first' heq
    exact ih hapart hrest hrest'
  | case8 p w p' w' =>
    obtain ⟨c, rest, rfl⟩ := h.exists_cons
    exact not_starts_both hapart h.starts h'.starts

end ApiCheck.Step
